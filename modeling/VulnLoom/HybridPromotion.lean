import VulnLoom.HybridValidation
import VulnLoom.PromotionModels

/-!
# Promotion of a Hybrid evidence chain

The checkpoint ledger of Hybrid promotions, in which the plan, its key, the chain, the finding and
the approval are unique, and the service that promotes a confirmed chain. A promotion that was
claimed and not finished is taken up again by a recovery.
-/

namespace VulnLoom

open CheckpointLedger

variable [PythonUrl] [ValidationDigests] [HybridDigests] [PromotionDigests]

/-! ## The ledger -/

/-- What a Hybrid promotion claims : its plan, and the approval that it consumes. -/
structure HybridPromotionItem where
  plan : HybridFindingPromotionPlan
  approvalId : UUID
  approvalDigest : Digest
  deriving DecidableEq

/-- A row of `hybrid_finding_promotions`. -/
abbrev HybridPromotionRow := Row HybridPromotionItem HybridFindingPromotionOutcome

abbrev HybridFindingClaim := Claim HybridFindingPromotionOutcome

/-- `HybridFindingPromotionStore`. -/
def hybridFindingStore :
    Ledger HybridPromotionItem HybridFindingPromotionOutcome PromotionError where
  id item := item.plan.planId
  key item := item.plan.idempotencyKey
  shares a b := a.plan.hybridChainId = b.plan.hybridChainId ∨
    a.plan.findingId = b.plan.findingId ∨ a.approvalId = b.approvalId
  outcomeId := HybridFindingPromotionOutcome.planId
  outcomeState := HybridFindingPromotionOutcome.state
  outcomeAttempt := HybridFindingPromotionOutcome.attempt
  unavailable := .recoveryRequired "Hybrid Finding checkpoint is unavailable"
  reused := .conflict "Hybrid Finding identity was reused for different content"
  unfinished :=
    .recoveryRequired "Hybrid Finding promotion has an unfinished STARTED checkpoint"
  notAwaiting := .recoveryRequired "Hybrid Finding promotion is not awaiting recovery"
  raced := .recoveryRequired "Hybrid Finding promotion recovery raced"
  exhausted :=
    .recoveryRequired "Hybrid Finding promotion recovery attempts are exhausted"
  missing := .recoveryRequired "Hybrid Finding promotion STARTED checkpoint is unavailable"
  noOutcome := .recoveryRequired "terminal Hybrid Finding outcome is unavailable"

/-! ## The service -/

/-- A call of `HybridFindingPromotionService.execute`, with the service's scope and what its stores
return. -/
structure HybridPromotion where
  scope : Scope
  /-- `outcome_by_chain` -/
  outcomeByChain : Digest → Option HybridValidationOutcome
  /-- the outcome that `load_completed` of the validation store returns -/
  loadValidation : Digest → Option ValidationOutcome
  /-- `load_completed` of the critic store -/
  loadCritic : Digest → Option (CriticPlan × CriticOutcome)
  /-- `evidence_store.contains` -/
  contains : Digest → Bool
  plan : HybridFindingPromotionPlan
  duplicateCheck : FindingDuplicateCheck
  approval : PromotionApproval
  now : Time
  recover : Bool

namespace HybridPromotion

variable (x : HybridPromotion)

/-- `_verify_evidence`. -/
def verifyEvidence (refs : List Digest) : Except PromotionError Unit :=
  raiseIf (refs = [] ∨ ∃ ref ∈ refs, x.contains ref = false)
    (.rejected "Hybrid Finding Evidence integrity failed")

/-- The chain confirms the candidate in this scope. -/
def confirms (authoritative : HybridValidationOutcome) (chain : HybridEvidenceChain)
    (candidate : Candidate) (run : ValidationRun) : Bool :=
  authoritative.state = .completed ∧ chain.checkKind = .initial ∧
    chain.conclusion = .confirmed ∧ x.plan.hybridChainDigest = sealedChain chain ∧
    chain.scopeId = x.scope.scopeId ∧ chain.scopeVersion = x.scope.version ∧
    chain.candidateId = candidate.candidateId ∧ chain.sourceTargetId = candidate.targetId ∧
    chain.sourceTargetVersion = candidate.targetVersion ∧ chain.validationRunId = run.runId

/-- The critic reviewed this validation with the evidence of the chain. -/
def reviewed (chain : HybridEvidenceChain) (validation : ValidationOutcome)
    (criticPlan : CriticPlan) (critic : CriticOutcome) : Bool :=
  let candidate := critic.candidate
  let run := validation.validationRun
  criticPlan.planId = x.plan.criticPlanId ∧
    x.plan.criticOutcomeDigest = canonicalDigest critic ∧ critic.planId = criticPlan.planId ∧
    criticPlan.candidateId = candidate.candidateId ∧
    criticPlan.candidateDigest = candidateContentDigest validation.candidate ∧
    criticPlan.validationRunId = run.runId ∧
    criticPlan.validationRunDigest = canonicalDigest run ∧
    criticPlan.evidenceBundleId = chain.evidenceBundle.bundleId ∧
    criticPlan.evidenceBundleDigest = canonicalDigest chain.evidenceBundle ∧
    validation.candidate.candidateId = candidate.candidateId ∧
    validation.candidate.targetId = candidate.targetId ∧
    validation.candidate.targetVersion = candidate.targetVersion ∧
    run.candidateId = candidate.candidateId ∧
    run.evidenceRefs ⊆ chain.evidenceBundle.evidenceRefs ∧
    critic.review.planId = criticPlan.planId ∧
    critic.review.candidateId = candidate.candidateId ∧
    critic.review.evidenceBundleId = chain.evidenceBundle.bundleId ∧
    critic.review.validationRunId = run.runId ∧ critic.review.verdict = .accepted ∧
    candidate.state = .criticReviewed

/-- The plan and the duplicate check are of this candidate. -/
def isBound (candidate : Candidate) : Bool :=
  x.plan.scopeId = x.scope.scopeId ∧ x.plan.scopeVersion = x.scope.version ∧
    x.plan.candidateId = candidate.candidateId ∧
    x.plan.candidateDigest = candidateContentDigest candidate ∧
    x.plan.duplicateCheckId = x.duplicateCheck.checkId ∧
    x.plan.duplicateCheckDigest = sealedCheck x.duplicateCheck ∧
    x.duplicateCheck.result = .clear ∧ x.duplicateCheck.candidateId = candidate.candidateId ∧
    x.duplicateCheck.candidateDigest = candidateContentDigest candidate ∧
    x.duplicateCheck.targetVersionDigest = canonicalDigest candidate.targetVersion ∧
    x.duplicateCheck.scopeId = x.scope.scopeId ∧
    x.duplicateCheck.scopeVersion = x.scope.version ∧
    candidate.targetVersion ∈ x.plan.claim.affectedVersions

/-- The scope, the plan and the duplicate check stand at the time of the call. -/
def isTimely : Bool :=
  x.scope.isCurrent x.now ∧ x.plan.createdAt ≤ x.now ∧ x.duplicateCheck.checkedAt ≤ x.now ∧
    x.now < x.duplicateCheck.expiresAt

/-- What the preflight hands on. -/
structure Checked where
  chain : HybridEvidenceChain
  candidate : Candidate
  run : ValidationRun
  review : CriticReview

/-- `_preflight`. -/
def preflight : Except PromotionError Checked := do
  let unavailable :=
    PromotionError.rejected "Hybrid Finding authoritative checkpoint is unavailable"
  let authoritative ← orRaise (x.outcomeByChain x.plan.hybridChainId) unavailable
  let chain ← orRaise authoritative.chain unavailable
  let validation ← orRaise (x.loadValidation chain.validationPlanId) unavailable
  let (criticPlan, critic) ← orRaise (x.loadCritic x.plan.criticPlanId) unavailable
  x.verifyEvidence chain.evidenceBundle.evidenceRefs
  raiseIf (x.isTimely = false ∨ x.isBound critic.candidate = false ∨
      x.confirms authoritative chain critic.candidate validation.validationRun = false ∨
      x.reviewed chain validation criticPlan critic = false)
    (.rejected "Hybrid Finding promotion provenance failed")
  raiseIf (x.approval.allows x.scope critic.candidate.targetId x.plan.approvalDigest
      hybridFindingSideEffects x.plan.createdAt x.now = false)
    (.rejected "Hybrid Finding promotion Approval failed")
  return ⟨chain, critic.candidate, validation.validationRun, critic.review⟩

/-- What the call claims. -/
def item : HybridPromotionItem :=
  ⟨x.plan, x.approval.approvalId, canonicalDigest x.approval⟩

/-- An outcome of the call that promotes nothing. -/
def unpromoted (attempt : ℕ) (state : HybridFindingState) (reasonCode : String)
    (h : state = .timedOut ∨ state = .failed) : HybridFindingPromotionOutcome where
  planId := x.plan.planId
  state := state
  attempt := attempt
  hybridChainId := x.plan.hybridChainId
  approvalId := x.approval.approvalId
  approvalDigest := canonicalDigest x.approval
  promotion := none
  reasonCode := reasonCode
  completedAt := x.now
  terminal := by rcases h with rfl | rfl <;> simp
  completed := by rcases h with rfl | rfl <;> simp

/-- The outcome of a call that promotes a candidate. -/
def promoted (attempt : ℕ) (promotion : HybridPromoted) : HybridFindingPromotionOutcome where
  planId := x.plan.planId
  state := .completed
  attempt := attempt
  hybridChainId := x.plan.hybridChainId
  approvalId := x.approval.approvalId
  approvalDigest := canonicalDigest x.approval
  promotion := some promotion
  reasonCode := "hybrid_finding_promoted"
  completedAt := x.now
  terminal := by simp
  completed := by simp

/-- The outcome of a plan whose attempts are spent. -/
def exhausted (attempt : ℕ) : HybridFindingPromotionOutcome :=
  x.unpromoted attempt .failed "recovery_attempts_exhausted" (.inr rfl)

/-- The claim of a call, which is a recovery where the caller asks for one. -/
def claim (rows : List HybridPromotionRow) :
    List HybridPromotionRow × Except PromotionError HybridFindingClaim :=
  hybridFindingStore.take x.recover rows x.item x.plan.maxAttempts x.exhausted x.now

/-- The answer of a call whose plan has an outcome. -/
def replay (checked : Checked) (outcome : HybridFindingPromotionOutcome) :
    Except PromotionError HybridFindingPromotionOutcome := do
  raiseIf (outcome.approvalId ≠ x.approval.approvalId ∨
      outcome.approvalDigest ≠ canonicalDigest x.approval)
    (.rejected "Hybrid Finding Approval receipt drifted")
  if outcome.state = .completed then
    x.verifyEvidence checked.chain.evidenceBundle.evidenceRefs
  return outcome

/-- The outcome of the transition of the candidate, validated. -/
def transition (checked : Checked) (attempt : ℕ) :
    Except LifecycleError (Candidate × Finding) →
      Except PromotionError HybridFindingPromotionOutcome
  | .error _ =>
    .ok (x.unpromoted attempt .failed "hybrid_finding_transition_rejected" (.inr rfl))
  | .ok (promoted, finding) =>
    if h : promoted.state = .promoted ∧ finding.candidateId = promoted.candidateId then
      .ok (x.promoted attempt
        ⟨candidateContentDigest checked.candidate, promoted, finding, h.1, h.2⟩)
    else .error (.validationError "Hybrid Finding outcome is not a verified promotion")

/-- The outcome of a claimed call. -/
def conclude (checked : Checked) (attempt : ℕ) :
    Except PromotionError HybridFindingPromotionOutcome :=
  if x.plan.deadline ≤ x.now then
    .ok (x.unpromoted attempt .timedOut "hybrid_finding_deadline_elapsed" (.inl rfl))
  else x.transition checked attempt (promoteCandidate checked.candidate x.scope x.now x.plan.claim
    [checked.run] checked.chain.evidenceBundle checked.review true x.plan.findingId)

/-- The last transaction of a call. -/
def finish (checked : Checked) (attempt : ℕ) (rows : List HybridPromotionRow) :
    Except PromotionError (List HybridPromotionRow × HybridFindingPromotionOutcome) := do
  let outcome ← x.conclude checked attempt
  let finished ← hybridFindingStore.finish rows outcome
  return (finished, outcome)

end HybridPromotion

end VulnLoom

import VulnLoom.PromotionModels
import VulnLoom.SourceExecution

/-!
# Promotion of a source validation

The ledger of source promotions, in which a plan and an idempotency key are unique, and the
service that checks a plan against the stored validation binding and the completed critic review,
and puts its outcome.
-/

namespace VulnLoom

variable [PythonUrl] [ValidationDigests] [SourceExecutionDigests] [PromotionDigests]

/-! ## The ledger -/

/-- A row of `source_finding_promotions`. -/
structure SourcePromotionRow where
  plan : SourceFindingPromotionPlan
  outcome : SourceFindingPromotionOutcome

namespace SourceFindingPromotionStore

/-- The primary key, and the unique idempotency key. -/
def clash (a b : SourcePromotionRow) : Bool :=
  a.plan.planId = b.plan.planId ∨ a.plan.idempotencyKey = b.plan.idempotencyKey

/-- `SourceFindingPromotionStore.put`. -/
def put (rows : List SourcePromotionRow) (plan : SourceFindingPromotionPlan)
    (outcome : SourceFindingPromotionOutcome) :
    Except PromotionError (List SourcePromotionRow × SourceFindingPromotionOutcome) :=
  match rows.find? fun row => row.plan.idempotencyKey = plan.idempotencyKey with
  | some row => do
    raiseIf (row.plan ≠ plan) (.rejected "Source Finding promotion idempotency collision")
    return (rows, row.outcome)
  | none => do
    let inserted ← orRaise (Table.insert clash rows ⟨plan, outcome⟩) .integrityError
    return (inserted, outcome)

end SourceFindingPromotionStore

/-! ## The service -/

/-- A call of `SourceFindingPromotionService.execute`, with the service's scope and what its stores
return. -/
structure SourcePromotion where
  scope : Scope
  /-- `load_validation_binding` -/
  loadValidationBinding : Digest → Option SourceValidationBinding
  /-- `load_completed` of the critic store -/
  loadCritic : Digest → Option (CriticPlan × CriticOutcome)
  plan : SourceFindingPromotionPlan
  validation : SourceValidationBinding
  critic : CriticOutcome
  duplicateCheck : FindingDuplicateCheck
  approval : PromotionApproval
  now : Time

namespace SourcePromotion

variable (x : SourcePromotion)

/-- The plan is of this scope, validation, review and duplicate check. -/
def isBound (binding : SourceValidationBinding) (criticPlan : CriticPlan)
    (criticOutcome : CriticOutcome) : Bool :=
  let candidate := x.critic.candidate
  x.plan.scopeId = x.scope.scopeId ∧ x.plan.scopeVersion = x.scope.version ∧
    x.plan.validationBindingId = x.validation.bindingId ∧ binding = x.validation ∧
    x.plan.validationBindingDigest = sealedBinding x.validation ∧
    x.plan.criticPlanId = x.critic.planId ∧ criticPlan.planId = x.critic.planId ∧
    criticOutcome = x.critic ∧ x.plan.criticOutcomeDigest = canonicalDigest x.critic ∧
    x.plan.duplicateCheckId = x.duplicateCheck.checkId ∧
    x.plan.duplicateCheckDigest = sealedCheck x.duplicateCheck ∧
    x.plan.candidateId = candidate.candidateId ∧
    x.plan.candidateDigest = candidateContentDigest candidate ∧
    x.validation.validatedCandidate.candidateId = candidate.candidateId ∧
    x.validation.validationRun.candidateId = candidate.candidateId ∧
    x.critic.review.verdict = .accepted ∧ x.duplicateCheck.result = .clear ∧
    x.duplicateCheck.candidateId = candidate.candidateId ∧
    x.duplicateCheck.candidateDigest = candidateContentDigest candidate

/-- The scope, the plan and the duplicate check stand at the time of the call. -/
def isTimely : Bool :=
  x.scope.isCurrent x.now ∧ x.plan.createdAt ≤ x.now ∧ x.now < x.plan.deadline ∧
    x.duplicateCheck.checkedAt ≤ x.now ∧ x.now < x.duplicateCheck.expiresAt

/-- The checks of a promotion. -/
def preflight : Except PromotionError Unit := do
  let unavailable :=
    PromotionError.rejected "Source Finding authoritative checkpoint is unavailable"
  let binding ← orRaise (x.loadValidationBinding x.validation.executionPlanId) unavailable
  let (criticPlan, criticOutcome) ← orRaise (x.loadCritic x.critic.planId) unavailable
  raiseIf (x.isTimely = false ∨ x.isBound binding criticPlan criticOutcome = false)
    (.rejected "Source Finding promotion provenance failed")
  raiseIf (x.approval.allows x.scope x.critic.candidate.targetId x.plan.approvalDigest
      sourceFindingSideEffects x.plan.createdAt x.now = false)
    (.rejected "Source Finding promotion Approval failed")

/-- The outcome of a promotion that passes its checks. -/
def outcome : Except PromotionError SourceFindingPromotionOutcome := do
  x.preflight
  let (promoted, finding) ← (promoteCandidate x.critic.candidate x.scope x.now x.plan.claim
    [x.validation.validationRun] x.validation.evidenceBundle x.critic.review true
    x.plan.findingId).mapError PromotionError.lifecycle
  return {
    planId := x.plan.planId
    sourceCandidateDigest := candidateContentDigest x.critic.candidate
    promotedCandidate := promoted
    finding := finding
    completedAt := x.now }

/-- `SourceFindingPromotionService.execute`. -/
def execute (rows : List SourcePromotionRow) :
    Except PromotionError (List SourcePromotionRow × SourceFindingPromotionOutcome) := do
  let outcome ← x.outcome
  SourceFindingPromotionStore.put rows x.plan outcome

end SourcePromotion

end VulnLoom

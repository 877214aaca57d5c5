import VulnLoom.HybridModels

/-!
# Hybrid validation

The ledger of Hybrid checks and the service over it. A plan is claimed once, or claimed again
by a recovery; a claimed check is finished with one outcome. The validation store, the evidence
store and the clock are read through `HybridFacts`, which each call is given anew.
-/

open CheckpointLedger

namespace VulnLoom

variable [PythonUrl] [HybridDigests]

/-! ## The ledger -/

/-- A row of `hybrid_validations`. -/
abbrev HybridRow := Row HybridValidationPlan HybridValidationOutcome

abbrev HybridClaim := Claim HybridValidationOutcome

/-- `HybridValidationStore`. -/
def hybridStore : Ledger HybridValidationPlan HybridValidationOutcome HybridError where
  id := HybridValidationPlan.planId
  key plan := plan.idempotencyKey
  outcomeId := HybridValidationOutcome.planId
  outcomeState := HybridValidationOutcome.state
  outcomeAttempt := HybridValidationOutcome.attempt
  unavailable := .recoveryRequired "Hybrid checkpoint is unavailable"
  reused := .idempotencyConflict "Hybrid identity was reused for different content"
  unfinished := .recoveryRequired "Hybrid validation has an unfinished STARTED checkpoint"
  notAwaiting := .recoveryRequired "Hybrid validation is not awaiting recovery"
  raced := .recoveryRequired "Hybrid validation recovery raced"
  exhausted := .recoveryRequired "Hybrid validation recovery attempts are exhausted"
  missing := .recoveryRequired "Hybrid STARTED checkpoint is unavailable"
  noOutcome := .recoveryRequired "terminal Hybrid outcome is unavailable"

/-- The outcome of a plan whose attempts are spent. -/
def exhaustedHybrid (plan : HybridValidationPlan) (now : Time) (attempt : ℕ) :
    HybridValidationOutcome where
  planId := plan.planId
  state := .failed
  attempt := attempt
  chain := none
  sourceRemediationProof := none
  reasonCode := "recovery_attempts_exhausted"
  cleanupComplete := true
  completedAt := now

/-! ## The service -/

variable [ValidationDigests] [BrokerDigests]

/-- What a call finds outside the ledger : the completed validations, the evidence, whether the
monotonic clock has passed the limit, and the identifier of a new bundle. -/
structure HybridFacts where
  loadCompleted : Digest → Option (ValidationPlan × ValidationOutcome)
  contains : Digest → Bool
  elapsed : Time
  bundleId : UUID

/-- `_scope`. -/
def checkHybridScope (scope : Scope) (now : Time) : Except HybridError Unit :=
  raiseIf (scope.isCurrent now = false)
    (.rejected "Hybrid validation requires current approved Scope")

/-- What `_prior` asks of the prior chain of a retest. -/
@[mk_iff]
structure PriorOf (prior : HybridEvidenceChain) (candidate : Candidate) (proof : DeploymentProof)
    (scope : Scope) : Prop where
  conclusion : prior.conclusion = .confirmed
  sourceTarget : prior.sourceTargetId = candidate.targetId
  sourceVersion : prior.sourceTargetVersion ≠ candidate.targetVersion
  liveTarget : prior.liveTargetId = proof.liveTargetId
  endpoint : prior.endpointUrlDigest = proof.endpointUrlDigest
  scopeId : prior.scopeId = scope.scopeId

instance (prior : HybridEvidenceChain) (candidate : Candidate) (proof : DeploymentProof)
    (scope : Scope) : Decidable (PriorOf prior candidate proof scope) :=
  decidable_of_iff' _ (priorOf_iff prior candidate proof scope)

/-- `_prior`. -/
def checkPriorChain (rows : List HybridRow) (checkKind : HybridCheckKind)
    (prior : Option HybridEvidenceChain) (candidate : Candidate) (proof : DeploymentProof)
    (scope : Scope) : Except HybridError Unit :=
  match checkKind, prior with
  | .initial, prior => raiseIf prior.isSome
    (.rejected "initial Hybrid validation cannot bind a prior chain")
  | .remediationRetest, none => .error
    (.rejected "Hybrid remediation retest lineage is invalid")
  | .remediationRetest, some prior => do
    raiseIf (¬PriorOf prior candidate proof scope)
      (.rejected "Hybrid remediation retest lineage is invalid")
    let authoritative ← (hybridStore.outcomeOf rows prior.planId).mapError fun _ =>
      HybridError.rejected "Hybrid remediation retest prior chain is not authoritative"
    raiseIf (authoritative.chain ≠ some prior ∨ authoritative.state ≠ .completed)
      (.rejected "Hybrid remediation retest prior chain is not authoritative")

/-- A validation without network calls. -/
def ValidationPlan.isOffline (plan : ValidationPlan) : Bool :=
  plan.brokerCalls = [] ∧ plan.httpAssertion = none

/-- What `_source_plan` asks of the source validation of a retest. -/
def sourcePlanOf (source live : ValidationPlan) (candidate : Candidate) (scope : Scope) : Bool :=
  source.planId ≠ live.planId ∧ source.candidateId = candidate.candidateId ∧
    source.candidateDigest = candidateContentDigest candidate ∧
    source.targetId = candidate.targetId ∧ source.targetVersion = candidate.targetVersion ∧
    source.scopeId = scope.scopeId ∧ source.scopeVersion = scope.version ∧ source.isOffline

/-- `_source_plan`. -/
def checkSourcePlan (checkKind : HybridCheckKind) (source : Option ValidationPlan)
    (live : ValidationPlan) (candidate : Candidate) (scope : Scope) : Except HybridError Unit :=
  match checkKind, source with
  | .initial, source => raiseIf source.isSome (.rejected
    "initial Hybrid validation cannot bind a source remediation Validation")
  | .remediationRetest, none => .error (.rejected
    "Hybrid remediation requires an independent network-free source Validation")
  | .remediationRetest, some source => raiseIf (sourcePlanOf source live candidate scope = false)
    (.rejected "Hybrid remediation requires an independent network-free source Validation")

/-- The calls of a plan to one endpoint. -/
def ValidationPlan.callsTo (plan : ValidationPlan) (endpoint : Digest) : List BrokerCall :=
  plan.brokerCalls.filter fun call => urlDigest call.http.url = endpoint

/-- The arguments of `HybridValidationService.prepare`. -/
structure HybridPreparation where
  checkKind : HybridCheckKind
  candidate : Candidate
  deploymentProof : DeploymentProof
  validationPlan : ValidationPlan
  sourceValidationPlan : Option ValidationPlan
  sourceManifestDigest : Digest
  sourceEvidenceRefs : List Digest
  scope : Scope
  createdAt : Time
  deadline : Time
  idempotencyKey : String
  priorChain : Option HybridEvidenceChain
  limits : HybridValidationLimits

/-- The deployment proof and the validation plan belong to the candidate and the scope. -/
def HybridPreparation.isBound (p : HybridPreparation) : Bool :=
  p.deploymentProof.sourceTargetId = p.candidate.targetId ∧
    p.deploymentProof.sourceTargetVersion = p.candidate.targetVersion ∧
    p.deploymentProof.sourceManifestDigest = p.sourceManifestDigest ∧
    (p.deploymentProof.attestedAt ≤ p.createdAt ∧ p.createdAt < p.deploymentProof.expiresAt) ∧
    p.validationPlan.candidateId = p.candidate.candidateId ∧
    p.validationPlan.candidateDigest = candidateContentDigest p.candidate ∧
    p.validationPlan.targetId = p.candidate.targetId ∧
    p.validationPlan.targetVersion = p.candidate.targetVersion ∧
    p.validationPlan.scopeId = p.scope.scopeId ∧ p.validationPlan.scopeVersion = p.scope.version

/-- The plan that a preparation seals. -/
def HybridPreparation.values (p : HybridPreparation) : HybridPlanValues where
  checkKind := p.checkKind
  candidateId := p.candidate.candidateId
  candidateDigest := candidateContentDigest p.candidate
  sourceTargetId := p.candidate.targetId
  sourceTargetVersion := p.candidate.targetVersion
  sourceManifestDigest := p.sourceManifestDigest
  liveTargetId := p.deploymentProof.liveTargetId
  endpointUrlDigest := p.deploymentProof.endpointUrlDigest
  deploymentProofId := p.deploymentProof.proofId
  deploymentProofDigest := sealedProof p.deploymentProof
  sourceValidationPlanId := p.sourceValidationPlan.map ValidationPlan.planId
  validationPlanId := p.validationPlan.planId
  sourceEvidenceRefs := sortedSet p.sourceEvidenceRefs
  expectedResult := p.checkKind.expected
  priorChainId := p.priorChain.map HybridEvidenceChain.chainId
  scopeId := p.scope.scopeId
  scopeVersion := p.scope.version
  limits := p.limits
  createdAt := p.createdAt
  deadline := p.deadline
  idempotencyKey := p.idempotencyKey

/-- `HybridValidationService.prepare`. -/
def prepareHybrid (rows : List HybridRow) (p : HybridPreparation) :
    Except HybridError HybridValidationPlan := do
  checkHybridScope p.scope p.createdAt
  raiseIf (p.isBound = false)
    (.rejected "Hybrid source, deployment, or validation binding failed")
  checkSourcePlan p.checkKind p.sourceValidationPlan p.validationPlan p.candidate p.scope
  checkPriorChain rows p.checkKind p.priorChain p.candidate p.deploymentProof p.scope
  raiseIf ((p.validationPlan.callsTo p.deploymentProof.endpointUrlDigest).length ≠ 1)
    (.rejected "Hybrid validation must route exactly one call to the deployed endpoint")
  HybridValidationPlan.create p.values

/-- The arguments of `HybridValidationService.execute`, and what it finds outside the ledger. -/
structure HybridExecution where
  plan : HybridValidationPlan
  candidate : Candidate
  deploymentProof : DeploymentProof
  scope : Scope
  now : Time
  priorChain : Option HybridEvidenceChain
  recover : Bool
  facts : HybridFacts

namespace HybridExecution

variable (x : HybridExecution)

/-- What `_source_validation` asks of the source validation of a retest. -/
def sourceValidated (source : ValidationPlan) (outcome : ValidationOutcome) : Bool :=
  source.planId = x.plan.sourceValidationPlanId ∧ source.candidateId = x.candidate.candidateId ∧
    source.candidateDigest = x.plan.candidateDigest ∧
    source.targetId = x.plan.sourceTargetId ∧
    source.targetVersion = x.plan.sourceTargetVersion ∧ source.scopeId = x.plan.scopeId ∧
    source.scopeVersion = x.plan.scopeVersion ∧ source.isOffline ∧
    outcome.candidate.candidateId = x.candidate.candidateId ∧
    outcome.validationRun.candidateId = x.candidate.candidateId ∧
    outcome.verdict.result = .notReproduced ∧ outcome.validationRun.result = .notReproduced ∧
    outcome.evidenceBundle.map EvidenceBundle.evidenceRefs =
      some (sortedSet outcome.verdict.evidenceRefs) ∧
    sortedSet outcome.verdict.evidenceRefs = x.plan.sourceEvidenceRefs

/-- The source validation of a retest, from the validation store. -/
def sourceValidation : Except HybridError (Option ValidationOutcome) :=
  match x.plan.sourceValidationPlanId with
  | none => .ok none
  | some planId => do
    let (source, outcome) ← orRaise (x.facts.loadCompleted planId) (.rejected
      "authoritative completed source remediation Validation is unavailable")
    raiseIf (x.sourceValidated source outcome = false)
      (.rejected "Hybrid source remediation authoritative provenance failed")
    return some outcome

/-- The plan is about the candidate, the scope, the deployment and the validation. -/
def isBound (validationPlan : ValidationPlan) (validation : ValidationOutcome) : Bool :=
  x.plan.candidateId = x.candidate.candidateId ∧
    x.plan.candidateDigest = candidateContentDigest x.candidate ∧
    x.plan.sourceTargetId = x.candidate.targetId ∧
    x.plan.sourceTargetVersion = x.candidate.targetVersion ∧
    x.plan.scopeId = x.scope.scopeId ∧ x.plan.scopeVersion = x.scope.version ∧
    x.plan.deploymentProofId = x.deploymentProof.proofId ∧
    x.plan.deploymentProofDigest = sealedProof x.deploymentProof ∧
    x.plan.sourceManifestDigest = x.deploymentProof.sourceManifestDigest ∧
    x.plan.liveTargetId = x.deploymentProof.liveTargetId ∧
    x.plan.endpointUrlDigest = x.deploymentProof.endpointUrlDigest ∧
    (x.deploymentProof.attestedAt ≤ x.now ∧ x.now < x.deploymentProof.expiresAt) ∧
    validationPlan.candidateId = x.candidate.candidateId ∧
    validationPlan.candidateDigest = x.plan.candidateDigest ∧
    validation.candidate.candidateId = x.candidate.candidateId ∧
    validation.validationRun.candidateId = x.candidate.candidateId ∧
    validation.verdict.result = x.plan.expectedResult ∧
    validation.validationRun.result = x.plan.expectedResult ∧ validation.evidenceBundle.isSome

/-- `_http_evidence`. -/
def httpEvidence (validationPlan : ValidationPlan) (validation : ValidationOutcome) :
    Except HybridError (List Digest) := do
  let calls := (validationPlan.callsTo x.plan.endpointUrlDigest).map BrokerCall.callId
  let found := validation.brokerResults.filterMap fun result =>
    result.http.filter fun http => result.callId ∈ calls ∧ result.status = .completed ∧
      http.finalUrlDigest = x.plan.endpointUrlDigest
  raiseIf (calls.dedup.length ≠ 1 ∨ found.length ≠ 1)
    (.rejected "dynamic Validation did not prove the exact endpoint")
  let refs := sortedSet (found.flatMap HttpToolResult.evidenceRefs)
  raiseIf (refs = [] ∨ x.plan.limits.maxHttpEvidenceRefs < refs.length)
    (.rejected "Hybrid HTTP Evidence budget is invalid")
  return refs

/-- What the preflight hands on. -/
structure Checked where
  validation : ValidationOutcome
  source : Option ValidationOutcome
  httpRefs : List Digest

/-- `_preflight`. -/
def preflight (rows : List HybridRow) : Except HybridError Checked := do
  checkHybridScope x.scope x.now
  checkPriorChain rows x.plan.checkKind x.priorChain x.candidate x.deploymentProof x.scope
  let (validationPlan, validation) ← orRaise (x.facts.loadCompleted x.plan.validationPlanId)
    (.rejected "authoritative completed dynamic Validation is unavailable")
  let source ← x.sourceValidation
  raiseIf (x.isBound validationPlan validation = false)
    (.rejected "Hybrid authoritative provenance failed")
  let httpRefs ← x.httpEvidence validationPlan validation
  return ⟨validation, source, httpRefs⟩

/-- The claim of an execution, which is a recovery where the caller asks for one. -/
def claim (rows : List HybridRow) : List HybridRow × Except HybridError HybridClaim :=
  hybridStore.take x.recover rows x.plan x.plan.limits.maxAttempts (exhaustedHybrid x.plan x.now)
    x.now

/-- The answer of an execution whose plan has an outcome. -/
def replay (outcome : HybridValidationOutcome) : Except HybridError HybridValidationOutcome := do
  raiseIf (∃ chain ∈ outcome.chain, ∃ ref ∈ chain.evidenceBundle.evidenceRefs,
      x.facts.contains ref = false)
    (.rejected "completed Hybrid Evidence Chain integrity failed")
  return outcome

/-- `all_refs`. -/
def allRefs (httpRefs : List Digest) : List Digest :=
  sortedSet (x.plan.sourceEvidenceRefs ++ x.deploymentProof.attestationEvidenceRef :: httpRefs)

/-- The source remediation proof that an execution seals. -/
def remediationProof (source : ValidationOutcome) (priorChainId : Digest) :
    SourceRemediationProof where
  priorChainId := priorChainId
  candidateId := x.candidate.candidateId
  candidateDigest := x.plan.candidateDigest
  sourceTargetId := x.plan.sourceTargetId
  sourceTargetVersion := x.plan.sourceTargetVersion
  sourceManifestDigest := x.plan.sourceManifestDigest
  validationPlanId := source.planId
  validationRunId := source.validationRun.runId
  evidenceRefs := x.plan.sourceEvidenceRefs
  scopeId := x.plan.scopeId
  scopeVersion := x.plan.scopeVersion
  sealedAt := x.now

/-- The source remediation proof of a retest; the plan's prior chain is asserted. -/
def sealSource (checked : Checked) : Except HybridError (Option SourceRemediationProof) :=
  match checked.source with
  | none => .ok none
  | some source => do
    let priorChainId ← orRaise x.plan.priorChainId (.validationError "AssertionError")
    let proof ← SourceRemediationProof.create (x.remediationProof source priorChainId)
    return some proof

/-- The values of the chain that an execution seals. -/
def chainValues (checked : Checked) (proof : Option SourceRemediationProof) :
    HybridChainValues where
  planId := x.plan.planId
  checkKind := x.plan.checkKind
  conclusion := x.plan.checkKind.conclusion
  candidateId := x.candidate.candidateId
  candidateDigest := x.plan.candidateDigest
  sourceTargetId := x.plan.sourceTargetId
  sourceTargetVersion := x.plan.sourceTargetVersion
  sourceManifestDigest := x.plan.sourceManifestDigest
  liveTargetId := x.plan.liveTargetId
  endpointUrlDigest := x.plan.endpointUrlDigest
  deploymentProofId := x.plan.deploymentProofId
  sourceRemediationProofId := proof.map SourceRemediationProof.proofId
  validationPlanId := x.plan.validationPlanId
  validationRunId := checked.validation.validationRun.runId
  priorChainId := x.plan.priorChainId
  sourceEvidenceRefs := x.plan.sourceEvidenceRefs
  deploymentEvidenceRef := x.deploymentProof.attestationEvidenceRef
  httpEvidenceRefs := checked.httpRefs
  evidenceBundle := ⟨x.facts.bundleId, x.candidate.candidateId, x.allRefs checked.httpRefs, x.now⟩
  scopeId := x.plan.scopeId
  scopeVersion := x.plan.scopeVersion
  sealedAt := x.now

/-- An outcome of an execution at an attempt. -/
def terminal (attempt : ℕ) (state : HybridRunState) (reasonCode : String)
    (chain : Option HybridEvidenceChain) (proof : Option SourceRemediationProof) :
    Except HybridError HybridValidationOutcome :=
  HybridValidationOutcome.terminalShape
    { planId := x.plan.planId
      state := state
      attempt := attempt
      chain := chain
      sourceRemediationProof := proof
      reasonCode := reasonCode
      cleanupComplete := true
      completedAt := x.now }

/-- The chain and the proof of an execution, sealed. -/
def sealChain (checked : Checked) (attempt : ℕ) : Except HybridError HybridValidationOutcome := do
  let proof ← x.sealSource checked
  let chain ← HybridEvidenceChain.create (x.chainValues checked proof)
  x.terminal attempt .completed "hybrid_evidence_chain_sealed" (some chain) proof

/-- The outcome of a claimed execution. -/
def conclude (checked : Checked) (attempt : ℕ) : Except HybridError HybridValidationOutcome :=
  if x.plan.deadline ≤ x.now then x.terminal attempt .timedOut "hybrid_deadline_elapsed" none none
  else if (x.allRefs checked.httpRefs).any fun ref => x.facts.contains ref = false then
    x.terminal attempt .failed "evidence_integrity_failed" none none
  else if x.plan.limits.timeout < x.facts.elapsed then
    x.terminal attempt .timedOut "hybrid_budget_elapsed" none none
  else x.sealChain checked attempt

end HybridExecution

end VulnLoom

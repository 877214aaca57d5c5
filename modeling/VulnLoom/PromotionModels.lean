import VulnLoom.HybridModels
import VulnLoom.SourceExecutionModels

/-!
# Promotion records

A candidate that a critic has reviewed becomes a finding on one of three paths : through an
accepted intake, through the validation binding of a source execution, or through a Hybrid
evidence chain. Of the plans and the upstream records only what the three services read is kept.
Where other fields of a record are left out, its identifier is a field; elsewhere it is the
digest of the record.
-/

namespace VulnLoom

/-- An exception of a promotion. -/
inductive PromotionError
  | rejected (reason : String)
  | timedOut (reason : String)
  | conflict (reason : String)
  | recoveryRequired (reason : String)
  | validationError (reason : String)
  | lifecycle (error : LifecycleError)
  /-- an `IntegrityError` of the database -/
  | integrityError
  | valueError (reason : String)
  deriving DecidableEq

/-! ## What a promotion reads -/

/-- `ApprovalRequest`, with the side effects it names. -/
structure PromotionApproval extends ApprovalRequest where
  expectedSideEffects : List String

inductive DuplicateCheckResult
  | clear
  | duplicate
  deriving DecidableEq

structure FindingDuplicateCheck where
  candidateId : UUID
  candidateDigest : Digest
  targetVersionDigest : Digest
  scopeId : UUID
  scopeVersion : ℕ
  result : DuplicateCheckResult
  checkedBy : String
  checkedAt : Time
  expiresAt : Time
  window : checkedAt < expiresAt

structure CriticPlan where
  planId : Digest
  candidateId : UUID
  candidateDigest : Digest
  validationRunId : UUID
  validationRunDigest : Digest
  evidenceBundleId : UUID
  evidenceBundleDigest : Digest

structure CriticOutcome where
  planId : Digest
  candidate : Candidate
  review : CriticReview
  completedAt : Time
  deriving DecidableEq

/-! ## The intake path -/

inductive AgentFindingIntakeDecision
  | accept
  | reject
  | defer
  deriving DecidableEq

inductive AgentFindingIntakeReason
  | humanAcceptedExactPromotion
  | humanRejected
  | humanDeferred
  deriving DecidableEq

structure AgentFindingIntakePlan where
  intakePlanId : Digest
  criticOutcomeBindingId : Digest
  decisionDeadline : Time

structure AgentFindingIntakeRecord where
  recordId : Digest
  intakePlanId : Digest
  criticOutcomeBindingId : Digest
  promotionPlanId : Digest
  promotionPlanDigest : Digest
  candidateId : UUID
  findingId : UUID
  decision : AgentFindingIntakeDecision
  reasonCode : AgentFindingIntakeReason
  decidedAt : Time
  expiresAt : Time
  window : decidedAt < expiresAt

structure FindingPromotionPlan where
  promotionPlanId : Digest
  candidateId : UUID
  candidateDigest : Digest
  findingId : UUID
  claim : FindingClaim
  deadline : Time

/-- `FINDING_PROMOTION_SIDE_EFFECTS`. -/
def findingPromotionSideEffects : List String :=
  ["candidate:promoted", "finding:created"]

structure FindingPromotionApprovalAction where
  engagementId : UUID
  targetId : UUID
  intakeRecordId : Digest
  intakeRecordDigest : Digest
  promotionPlanId : Digest
  promotionPlanDigest : Digest
  candidateId : UUID
  candidateDigest : Digest
  findingId : UUID
  scopeId : UUID
  scopeVersion : ℕ
  expectedSideEffects : List String

@[ext]
structure FindingPromotionExecutionPlan where
  approvalActionId : Digest
  approvalId : UUID
  approvalDigest : Digest
  intakePlanId : Digest
  intakeRecordId : Digest
  intakeRecordDigest : Digest
  promotionPlanId : Digest
  promotionPlanDigest : Digest
  candidateId : UUID
  candidateDigest : Digest
  findingId : UUID
  scopeId : UUID
  scopeVersion : ℕ
  createdAt : Time
  deadline : Time
  idempotencyKey : String
  window : createdAt < deadline

instance : DecidableEq FindingPromotionExecutionPlan :=
  fun _ _ => decidable_of_iff _ FindingPromotionExecutionPlan.ext_iff.symm

/-- `FindingPromotionOutcome`, with what its validator asks of the candidate and the finding. -/
structure FindingPromotionOutcome where
  executionPlanId : Digest
  approvalActionId : Digest
  approvalId : UUID
  approvalDigest : Digest
  intakeRecordId : Digest
  promotionPlanId : Digest
  promotionPlanDigest : Digest
  sourceCandidateDigest : Digest
  promotedCandidate : Candidate
  finding : Finding
  completedAt : Time
  promoted : promotedCandidate.state = .promoted
  candidate : finding.candidateId = promotedCandidate.candidateId
  verified : finding.validationRunIds ≠ []
  deriving DecidableEq

/-! ## The source path -/

/-- `SOURCE_FINDING_SIDE_EFFECTS`. -/
def sourceFindingSideEffects : List String :=
  ["create verified Finding"]

@[ext]
structure SourceFindingPromotionPlan where
  validationBindingId : Digest
  validationBindingDigest : Digest
  criticPlanId : Digest
  criticOutcomeDigest : Digest
  duplicateCheckId : Digest
  duplicateCheckDigest : Digest
  candidateId : UUID
  candidateDigest : Digest
  findingId : UUID
  claim : FindingClaim
  scopeId : UUID
  scopeVersion : ℕ
  createdAt : Time
  deadline : Time
  idempotencyKey : String
  window : createdAt < deadline

instance : DecidableEq SourceFindingPromotionPlan :=
  fun _ _ => decidable_of_iff _ SourceFindingPromotionPlan.ext_iff.symm

structure SourceFindingPromotionOutcome where
  planId : Digest
  sourceCandidateDigest : Digest
  promotedCandidate : Candidate
  finding : Finding
  completedAt : Time

/-! ## The Hybrid path -/

/-- `HYBRID_FINDING_SIDE_EFFECTS`. -/
def hybridFindingSideEffects : List String :=
  ["candidate:promoted", "hybrid_finding:created"]

@[ext]
structure HybridFindingPromotionPlan where
  hybridChainId : Digest
  hybridChainDigest : Digest
  criticPlanId : Digest
  criticOutcomeDigest : Digest
  duplicateCheckId : Digest
  duplicateCheckDigest : Digest
  candidateId : UUID
  candidateDigest : Digest
  findingId : UUID
  claim : FindingClaim
  scopeId : UUID
  scopeVersion : ℕ
  createdAt : Time
  deadline : Time
  idempotencyKey : String
  maxAttempts : ℕ
  window : createdAt < deadline
  maxAttempts_bounds : 1 ≤ maxAttempts ∧ maxAttempts ≤ 3

instance : DecidableEq HybridFindingPromotionPlan :=
  fun _ _ => decidable_of_iff _ HybridFindingPromotionPlan.ext_iff.symm

/-- `HybridFindingState` : the states of a checkpoint but the first. -/
abbrev HybridFindingState := CheckpointLedger.State

/-- What a completed Hybrid promotion has made. -/
structure HybridPromoted where
  sourceCandidateDigest : Digest
  promotedCandidate : Candidate
  finding : Finding
  promoted : promotedCandidate.state = .promoted
  candidate : finding.candidateId = promotedCandidate.candidateId

/-- `HybridFindingPromotionOutcome`. The validator has the candidate, its digest and the finding
all three or none, so they are one field. -/
structure HybridFindingPromotionOutcome where
  planId : Digest
  state : HybridFindingState
  attempt : ℕ
  hybridChainId : Digest
  approvalId : UUID
  approvalDigest : Digest
  promotion : Option HybridPromoted
  reasonCode : String
  completedAt : Time
  terminal : state ≠ .started
  completed : state = .completed ↔ promotion.isSome

/-! ## Digests -/

/-- The content digests of the promotion records. -/
class PromotionDigests where
  approval : CanonicalDigest PromotionApproval
  validationRun : CanonicalDigest ValidationRun
  evidenceBundle : CanonicalDigest EvidenceBundle
  criticOutcome : CanonicalDigest CriticOutcome
  duplicateCheck : CanonicalDigest FindingDuplicateCheck
  approvalAction : CanonicalDigest FindingPromotionApprovalAction
  executionPlan : CanonicalDigest FindingPromotionExecutionPlan
  sourcePlan : CanonicalDigest SourceFindingPromotionPlan
  hybridPlan : CanonicalDigest HybridFindingPromotionPlan
  targetVersion : CanonicalDigest String
  /-- the digest of a duplicate check with its identifier -/
  sealedCheck : FindingDuplicateCheck → Digest
  /-- the digest of a validation binding with its identifier -/
  sealedBinding : SourceValidationBinding → Digest
  /-- the digest of a Hybrid chain with its identifier -/
  sealedChain : HybridEvidenceChain → Digest
  /-- the digest that an approval of a source promotion names, of the plan's identifier -/
  sourceApproval : Digest → Digest
  /-- the digest that an approval of a Hybrid promotion names, of the identifiers of the plan, the
  chain and the finding -/
  hybridApproval : Digest → Digest → UUID → Digest

attribute [reducible, instance] PromotionDigests.approval PromotionDigests.validationRun
  PromotionDigests.evidenceBundle PromotionDigests.criticOutcome PromotionDigests.duplicateCheck
  PromotionDigests.approvalAction PromotionDigests.executionPlan PromotionDigests.sourcePlan
  PromotionDigests.hybridPlan PromotionDigests.targetVersion

export PromotionDigests (sealedCheck sealedBinding sealedChain)

variable [PromotionDigests]

def FindingDuplicateCheck.checkId (check : FindingDuplicateCheck) : Digest :=
  canonicalDigest check

def FindingPromotionExecutionPlan.executionPlanId (plan : FindingPromotionExecutionPlan) :
    Digest :=
  canonicalDigest plan

def SourceFindingPromotionPlan.planId (plan : SourceFindingPromotionPlan) : Digest :=
  canonicalDigest plan

/-- `source_finding_approval_digest`. -/
def SourceFindingPromotionPlan.approvalDigest (plan : SourceFindingPromotionPlan) : Digest :=
  PromotionDigests.sourceApproval plan.planId

def HybridFindingPromotionPlan.planId (plan : HybridFindingPromotionPlan) : Digest :=
  canonicalDigest plan

/-- `hybrid_finding_approval_digest`. -/
def HybridFindingPromotionPlan.approvalDigest (plan : HybridFindingPromotionPlan) : Digest :=
  PromotionDigests.hybridApproval plan.planId plan.hybridChainId plan.findingId

/-! ## What the three services ask of an approval -/

/-- A granted, decided approval of a change of this target, for this digest. -/
def PromotionApproval.allows (approval : PromotionApproval) (scope : Scope) (targetId : UUID)
    (actionDigest : Digest) (sideEffects : List String) (notBefore now : Time) : Bool :=
  approval.status = .granted ∧ approval.action = .mutateTargetState ∧
    approval.actionDigest = actionDigest ∧ approval.engagementId = scope.engagementId ∧
    approval.targetId = some targetId ∧ approval.policyVersion = scope.version ∧
    approval.expectedSideEffects = sideEffects ∧ approval.decidedBy.isSome ∧
    (∃ decidedAt ∈ approval.decidedAt, notBefore ≤ decidedAt ∧ decidedAt ≤ now) ∧
    now < approval.expiresAt

end VulnLoom

import Mathlib.Algebra.Order.Ring.Rat
import VulnLoom.EvidenceAssessment

/-!
# Campaign orchestration contracts

The records an orchestration reads, the plan it is bound to, the checkpoint of each phase and
the closure. Of the four qualification records only what the orchestration reads is here, so
their identifiers are fields; flags that a validator fixes are left out.
-/

set_option linter.unusedSectionVars false

namespace VulnLoom

inductive CampaignGoalKind
  | coverageCompletion
  | evidenceRequirementSatisfaction
  deriving DecidableEq

inductive CampaignPhaseKind
  | scopeConfirmation
  | observation
  | hypothesis
  | validation
  | criticReview
  | cleanupConfirmation
  deriving DecidableEq

/-- `REQUIRED_CAMPAIGN_PHASES`. -/
def requiredCampaignPhases : List CampaignPhaseKind :=
  [.scopeConfirmation, .observation, .hypothesis, .validation, .criticReview,
    .cleanupConfirmation]

inductive CampaignEvidenceClosureDisposition
  | unresolvedCandidate
  | refuted
  | inconclusive
  deriving DecidableEq

inductive CampaignOrchestrationState
  | started
  | completed
  deriving DecidableEq

/-- An exception of the orchestration : its own, the store's or a validator's, or whatever the
process that stops between two phases raises. -/
inductive CampaignOrchestrationError
  | rejected (reason : String)
  | timedOut (reason : String)
  | storeRejected (reason : String)
  | recoveryRequired (reason : String)
  | validationError (reason : String)
  | interrupted
  deriving DecidableEq

/-! ## What an orchestration reads -/

structure CampaignGoal where
  goalId : Digest
  kind : CampaignGoalKind

structure CampaignPhase where
  phaseId : Digest
  ordinal : ℕ
  kind : CampaignPhaseKind

structure GoalDrivenCampaignPlan where
  campaignPlanId : Digest
  goal : CampaignGoal
  scopeId : UUID
  scopeVersion : ℕ
  targetIds : List UUID
  phases : List CampaignPhase
  deadline : Time
  targets_bounds : 1 ≤ targetIds.length ∧ targetIds.length ≤ 16
  targets_sorted : targetIds.Pairwise (· < ·)
  ordinals : phases.map CampaignPhase.ordinal = [1, 2, 3, 4, 5, 6]
  kinds : phases.map CampaignPhase.kind = requiredCampaignPhases

structure GoalDrivenCampaignQualificationOutcome where
  outcomeId : Digest
  campaignPlanId : Digest
  goalId : Digest

structure CampaignRuntimeQualificationPlan where
  runtimePlanId : Digest
  campaignPlanId : Digest
  campaignPlanDigest : Digest
  campaignOutcomeId : Digest
  campaignOutcomeDigest : Digest
  scopeId : UUID
  scopeVersion : ℕ
  targetSetDigest : Digest
  phaseGraphDigest : Digest
  requiredPhaseIds : List Digest

structure CampaignRuntimeQualificationOutcome where
  outcomeId : Digest
  runtimePlanId : Digest
  campaignPlanId : Digest
  campaignOutcomeId : Digest

/-- What `campaign_phase_admission_digest` is the digest of. -/
structure CampaignPhaseAdmission where
  orchestrationPlanId : Digest
  phaseId : Digest
  ordinal : ℕ

/-- What the checkpoint of the scope confirmation refers to. -/
structure ScopeConfirmation where
  scopeId : UUID
  scopeVersion : ℕ
  targetSetDigest : Digest

/-- The content digests of what an orchestration reads. -/
class CampaignDigests where
  campaignPlan : CanonicalDigest GoalDrivenCampaignPlan
  campaignOutcome : CanonicalDigest GoalDrivenCampaignQualificationOutcome
  runtimePlan : CanonicalDigest CampaignRuntimeQualificationPlan
  runtimeOutcome : CanonicalDigest CampaignRuntimeQualificationOutcome
  targetSet : CanonicalDigest (List UUID)
  phaseGraph : CanonicalDigest (List CampaignPhase)
  admission : CanonicalDigest CampaignPhaseAdmission
  scopeConfirmation : CanonicalDigest ScopeConfirmation

attribute [reducible, instance] CampaignDigests.campaignPlan CampaignDigests.campaignOutcome
  CampaignDigests.runtimePlan CampaignDigests.runtimeOutcome CampaignDigests.targetSet
  CampaignDigests.phaseGraph CampaignDigests.admission CampaignDigests.scopeConfirmation

/-! ## Plans and checkpoints -/

/-- `CampaignOrchestrationLimits`. The timeout is a float in the source; here it is exact. -/
@[ext]
structure CampaignOrchestrationLimits where
  timeoutSeconds : ℚ
  maxAttempts : ℕ
  timeout_bounds : 0 < timeoutSeconds ∧ timeoutSeconds ≤ 60
  attempts_bounds : 1 ≤ maxAttempts ∧ maxAttempts ≤ 3

instance : DecidableEq CampaignOrchestrationLimits :=
  fun _ _ => decidable_of_iff _ CampaignOrchestrationLimits.ext_iff.symm

section Plan

variable [CampaignDigests]

def campaignPhaseAdmissionDigest (orchestrationPlanId phaseId : Digest) (ordinal : ℕ) : Digest :=
  canonicalDigest (CampaignPhaseAdmission.mk orchestrationPlanId phaseId ordinal)

/-- The validator of `CampaignOrchestrationPlan`. -/
def OrchestrationPlanSealed (targetIds : List UUID) (targetSetDigest : Digest)
    (phaseIds : List Digest) (evidenceTargetId : UUID) (createdAt deadline : Time)
    (idempotencyKey : String) : Prop :=
  (1 ≤ targetIds.length ∧ targetIds.length ≤ 16) ∧ targetIds.Pairwise (· < ·) ∧
    targetSetDigest = canonicalDigest targetIds ∧
    phaseIds.length = 6 ∧ phaseIds.Nodup ∧ evidenceTargetId ∈ targetIds ∧
    createdAt < deadline ∧ (1 ≤ idempotencyKey.length ∧ idempotencyKey.length ≤ 256)

instance (targetIds : List UUID) (targetSetDigest : Digest) (phaseIds : List Digest)
    (evidenceTargetId : UUID) (createdAt deadline : Time) (idempotencyKey : String) :
    Decidable (OrchestrationPlanSealed targetIds targetSetDigest phaseIds evidenceTargetId
      createdAt deadline idempotencyKey) :=
  inferInstanceAs (Decidable (_ ∧ _))

structure CampaignOrchestrationPlan where
  campaignPlanId : Digest
  campaignPlanDigest : Digest
  campaignOutcomeId : Digest
  campaignOutcomeDigest : Digest
  runtimePlanId : Digest
  runtimePlanDigest : Digest
  runtimeOutcomeId : Digest
  runtimeOutcomeDigest : Digest
  goalId : Digest
  scopeId : UUID
  scopeVersion : ℕ
  targetIds : List UUID
  targetSetDigest : Digest
  phaseIds : List Digest
  phaseGraphDigest : Digest
  evidenceAssessmentPlanId : Digest
  evidenceAssessmentPlanDigest : Digest
  evidenceAssessmentId : Digest
  evidenceAssessmentOutcomeDigest : Digest
  evidenceRequirementId : Digest
  evidenceTargetId : UUID
  evidenceTargetVersion : String
  limits : CampaignOrchestrationLimits
  createdAt : Time
  deadline : Time
  idempotencyKey : String
  isSealed : OrchestrationPlanSealed targetIds targetSetDigest phaseIds evidenceTargetId
    createdAt deadline idempotencyKey
  deriving DecidableEq

/-- The validator of `CampaignPhaseCheckpoint`. -/
def CheckpointSealed (orchestrationPlanId phaseId : Digest) (ordinal : ℕ)
    (approvalDigest : Digest) (evidenceRefs : List Digest) : Prop :=
  (1 ≤ ordinal ∧ ordinal ≤ 6) ∧
    (1 ≤ evidenceRefs.length ∧ evidenceRefs.length ≤ 32) ∧
    approvalDigest = campaignPhaseAdmissionDigest orchestrationPlanId phaseId ordinal ∧
    evidenceRefs.Pairwise (· < ·)

instance (orchestrationPlanId phaseId : Digest) (ordinal : ℕ) (approvalDigest : Digest)
    (evidenceRefs : List Digest) : Decidable (CheckpointSealed orchestrationPlanId phaseId
      ordinal approvalDigest evidenceRefs) :=
  inferInstanceAs (Decidable (_ ∧ _))

structure CampaignPhaseCheckpoint where
  orchestrationPlanId : Digest
  phaseId : Digest
  phaseKind : CampaignPhaseKind
  ordinal : ℕ
  approvalId : UUID
  approvalDigest : Digest
  evidenceRefs : List Digest
  recordedAt : Time
  isSealed : CheckpointSealed orchestrationPlanId phaseId ordinal approvalDigest evidenceRefs
  deriving DecidableEq

/-- `CampaignPhaseCheckpoint.create`. -/
def CampaignPhaseCheckpoint.create (orchestrationPlanId : Digest) (phase : CampaignPhase)
    (approval : ApprovalRequest) (evidenceRefs : List Digest) (recordedAt : Time) :
    Except CampaignOrchestrationError CampaignPhaseCheckpoint :=
  if h : CheckpointSealed orchestrationPlanId phase.phaseId phase.ordinal approval.actionDigest
      evidenceRefs then
    .ok {
      orchestrationPlanId := orchestrationPlanId
      phaseId := phase.phaseId
      phaseKind := phase.kind
      ordinal := phase.ordinal
      approvalId := approval.approvalId
      approvalDigest := approval.actionDigest
      evidenceRefs := evidenceRefs
      recordedAt := recordedAt
      isSealed := h }
  else
    .error (.validationError "Campaign Phase Checkpoint binding is invalid")

end Plan

/-! ## The closure -/

/-- The disposition of a verdict, and whether an unresolved candidate is recorded. -/
def EvidenceAssessmentVerdict.disposition :
    EvidenceAssessmentVerdict → CampaignEvidenceClosureDisposition
  | candidateEligible => .unresolvedCandidate
  | negative => .refuted
  | inconclusive => .inconclusive

/-- The validator of `CampaignEvidenceClosure`. -/
def ClosureSealed (disposition : CampaignEvidenceClosureDisposition)
    (assessmentVerdict : EvidenceAssessmentVerdict) (phaseCheckpointIds evidenceRefs : List Digest)
    (unresolvedCandidateRecorded : Bool) : Prop :=
  disposition = assessmentVerdict.disposition ∧
    (unresolvedCandidateRecorded = true ↔ assessmentVerdict = .candidateEligible) ∧
    phaseCheckpointIds.length = 6 ∧ phaseCheckpointIds.Nodup ∧
    (1 ≤ evidenceRefs.length ∧ evidenceRefs.length ≤ 256) ∧ evidenceRefs.Pairwise (· < ·)

instance (disposition : CampaignEvidenceClosureDisposition)
    (assessmentVerdict : EvidenceAssessmentVerdict) (phaseCheckpointIds evidenceRefs : List Digest)
    (unresolvedCandidateRecorded : Bool) : Decidable (ClosureSealed disposition
      assessmentVerdict phaseCheckpointIds evidenceRefs unresolvedCandidateRecorded) :=
  inferInstanceAs (Decidable (_ ∧ _))

structure CampaignEvidenceClosure where
  orchestrationPlanId : Digest
  campaignPlanId : Digest
  runtimeOutcomeId : Digest
  evidenceAssessmentId : Digest
  evidenceRequirementId : Digest
  disposition : CampaignEvidenceClosureDisposition
  assessmentVerdict : EvidenceAssessmentVerdict
  phaseCheckpointIds : List Digest
  evidenceRefs : List Digest
  unresolvedCandidateRecorded : Bool
  closedAt : Time
  isSealed : ClosureSealed disposition assessmentVerdict phaseCheckpointIds evidenceRefs
    unresolvedCandidateRecorded
  deriving DecidableEq

@[ext]
structure CampaignOrchestrationOutcome where
  orchestrationPlanId : Digest
  closure : CampaignEvidenceClosure
  attempt : ℕ
  attempt_bounds : 1 ≤ attempt ∧ attempt ≤ 3
  bound : closure.orchestrationPlanId = orchestrationPlanId

instance : DecidableEq CampaignOrchestrationOutcome :=
  fun _ _ => decidable_of_iff _ CampaignOrchestrationOutcome.ext_iff.symm

/-- The content digests of the plan and of a checkpoint. -/
class OrchestrationDigests [CampaignDigests] where
  plan : CanonicalDigest CampaignOrchestrationPlan
  checkpoint : CanonicalDigest CampaignPhaseCheckpoint

attribute [reducible, instance] OrchestrationDigests.plan OrchestrationDigests.checkpoint

variable [CampaignDigests] [OrchestrationDigests]

def CampaignOrchestrationPlan.orchestrationPlanId (plan : CampaignOrchestrationPlan) : Digest :=
  canonicalDigest plan

def CampaignPhaseCheckpoint.checkpointId (checkpoint : CampaignPhaseCheckpoint) : Digest :=
  canonicalDigest checkpoint

theorem CampaignPhaseCheckpoint.create_eq_ok {orchestrationPlanId : Digest}
    {phase : CampaignPhase} {approval : ApprovalRequest} {evidenceRefs : List Digest}
    {recordedAt : Time} {checkpoint : CampaignPhaseCheckpoint}
    (h : create orchestrationPlanId phase approval evidenceRefs recordedAt = .ok checkpoint) :
    CheckpointSealed orchestrationPlanId phase.phaseId phase.ordinal approval.actionDigest
        evidenceRefs ∧
      checkpoint.ordinal = phase.ordinal ∧ checkpoint.recordedAt = recordedAt := by
  unfold create at h
  split_ifs at h with hsealed
  obtain rfl := Except.ok.inj h
  exact ⟨hsealed, rfl, rfl⟩

end VulnLoom

import VulnLoom.FlowModels
import VulnLoom.Scope

/-!
# Replan contracts

The records of observation-driven replanning : a proposal, the admission of exactly one
next action, and the receipt of its execution. `RedTeamDigests` groups the digests of
every record a flow stores.
-/

namespace VulnLoom

@[ext]
structure RedTeamReplanProposal where
  toolViewId : Digest
  sourceObservationIds : List Digest
  actionKind : RedTeamActionKind
  testClass : String
  rationaleDigest : Digest
  ttlSeconds : ℕ
  proposedAt : Time
  idempotencyKey : String
  ttlSeconds_bounds : 1 ≤ ttlSeconds ∧ ttlSeconds ≤ 300

instance : DecidableEq RedTeamReplanProposal :=
  fun _ _ => decidable_of_iff _ RedTeamReplanProposal.ext_iff.symm

/-- An admission; its validator binds the action to the flow and to its checkpoint. -/
structure RedTeamReplanAdmission [CanonicalDigest RedTeamReconAction] where
  proposalId : Digest
  toolViewId : Digest
  flowPlanId : Digest
  sourceCheckpointId : Digest
  sourceObservationIds : List Digest
  command : RedTeamReconCommand
  policyRequestDigest : Digest
  requiredApprovalDigest : Digest
  admittedAt : Time
  planId_bound : command.action.planId = flowPlanId
  checkpoint_bound : command.action.expectedCheckpointId = sourceCheckpointId
  approval_bound : requiredApprovalDigest = command.action.actionId
  deriving DecidableEq

/-- The fields of a receipt before its validator has run. -/
structure RedTeamReplanExecutionReceiptValues where
  admissionId : Digest
  flowPlanId : Digest
  sourceCheckpointId : Digest
  resultCheckpointId : Digest
  actionId : Digest
  observationId : Digest
  approvalId : UUID
  approvalAction : ApprovalAction
  approvalDigest : Digest
  completedAt : Time
  cleanupComplete : Bool
  sensitiveDataRedacted : Bool
  deriving DecidableEq

structure RedTeamReplanExecutionReceipt extends RedTeamReplanExecutionReceiptValues where
  isSealed : approvalAction = .executeRedTeamAction ∧ cleanupComplete = true ∧
    sensitiveDataRedacted = true
  deriving DecidableEq

/-- `RedTeamReplanExecutionReceipt.create`. -/
def RedTeamReplanExecutionReceipt.create (values : RedTeamReplanExecutionReceiptValues) :
    Except RedTeamError RedTeamReplanExecutionReceipt :=
  if h : values.approvalAction = .executeRedTeamAction ∧ values.cleanupComplete = true ∧
      values.sensitiveDataRedacted = true then
    .ok ⟨values, h⟩
  else .error (.validationError "Red Team replan Execution Receipt binding is invalid")

/-- The digests of the records a flow stores. -/
class RedTeamDigests where
  plan : CanonicalDigest RedTeamFlowPlan
  checkpoint : CanonicalDigest RedTeamCheckpoint
  action : CanonicalDigest RedTeamReconAction
  command : CanonicalDigest RedTeamReconCommand
  observation : CanonicalDigest RedTeamReconObservation
  proposal : CanonicalDigest RedTeamReplanProposal
  admission : CanonicalDigest RedTeamReplanAdmission
  receipt : CanonicalDigest RedTeamReplanExecutionReceipt

attribute [reducible, instance] RedTeamDigests.plan RedTeamDigests.checkpoint RedTeamDigests.action
  RedTeamDigests.command RedTeamDigests.observation RedTeamDigests.proposal
  RedTeamDigests.admission RedTeamDigests.receipt

variable [RedTeamDigests]

def RedTeamReplanProposal.proposalId (proposal : RedTeamReplanProposal) : Digest :=
  canonicalDigest proposal

def RedTeamReplanAdmission.admissionId (admission : RedTeamReplanAdmission) : Digest :=
  canonicalDigest admission

def RedTeamReplanExecutionReceipt.receiptId (receipt : RedTeamReplanExecutionReceipt) : Digest :=
  canonicalDigest receipt

end VulnLoom

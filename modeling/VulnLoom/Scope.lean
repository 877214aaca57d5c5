import VulnLoom.Basic

/-!
# Scopes and approvals

The domain objects that authorise an action. A frozen set is the list of its members.
-/

namespace VulnLoom

inductive ScopeState
  | draft
  | approved
  | revoked
  deriving DecidableEq

inductive ArtifactKind
  | sourceArchive
  | iacBundle
  | gitRepository
  | ociImage
  deriving DecidableEq

inductive ApprovalStatus
  | pending
  | granted
  | denied
  | revoked
  deriving DecidableEq

inductive ApprovalAction
  | runValidation
  | runCritic
  | runUntrustedBuild
  | mutateTargetState
  | useRealCredentials
  | externalCallback
  | submitReport
  | reviewReport
  | exportReport
  | executeRedTeamAction
  | advanceCampaignPhase
  | createCampaignCandidate
  | queueCampaignCandidateValidation
  | queueCampaignCandidateCritic
  deriving DecidableEq

structure RepositoryScope where
  url : String
  commit : String
  deriving DecidableEq

structure ArtifactScope where
  kind : ArtifactKind
  sha256 : Digest
  sourceName : String
  deriving DecidableEq

structure NetworkTargetScope where
  host : String
  ports : List ℕ
  schemes : List String
  deriving DecidableEq

@[ext]
structure Scope where
  scopeId : UUID
  engagementId : UUID
  version : ℕ
  validFrom : Time
  validUntil : Time
  repositories : List RepositoryScope
  artifacts : List ArtifactScope
  networkTargets : List NetworkTargetScope
  allowedTestClasses : List String
  deniedActions : List String
  approvalRequirements : List ApprovalAction
  state : ScopeState
  window : validFrom < validUntil

instance : DecidableEq Scope := fun _ _ => decidable_of_iff _ Scope.ext_iff.symm

structure ApprovalRequest where
  approvalId : UUID
  engagementId : UUID
  targetId : Option UUID
  action : ApprovalAction
  actionDigest : Digest
  policyVersion : ℕ
  expiresAt : Time
  status : ApprovalStatus
  decidedBy : Option String
  decidedAt : Option Time
  deriving DecidableEq

/-- `ApprovalRequest.is_valid_for`. -/
def ApprovalRequest.isValidFor (approval : ApprovalRequest) (action : ApprovalAction)
    (digest : Digest) (now : Time) : Bool :=
  approval.status = .granted ∧ approval.action = action ∧ approval.actionDigest = digest ∧
    now < approval.expiresAt

end VulnLoom

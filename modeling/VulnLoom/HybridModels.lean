import VulnLoom.CheckpointLedger
import VulnLoom.ValidationModels

/-!
# Hybrid validation records

The plan of a check of a source candidate against its deployed endpoint, the evidence chain
that a check seals, and the proof of a source remediation. What `create` seals are the values
of a record; a sealed record is such values with what its validator checks, and its identifier
is a digest of them.
-/

namespace VulnLoom

inductive HybridCheckKind
  | initial
  | remediationRetest
  deriving DecidableEq

/-- `HybridRunState` : the states of a checkpoint. -/
abbrev HybridRunState := CheckpointLedger.State

inductive HybridConclusion
  | confirmed
  | remediated
  deriving DecidableEq

/-- An exception of Hybrid validation. -/
inductive HybridError
  | rejected (reason : String)
  | idempotencyConflict (reason : String)
  | recoveryRequired (reason : String)
  | validationError (reason : String)
  deriving DecidableEq

/-! ## Deployments and plans -/

structure DeploymentProof where
  sourceTargetId : UUID
  sourceTargetVersion : String
  sourceManifestDigest : Digest
  liveTargetId : UUID
  endpointUrlDigest : Digest
  deployedArtifactDigest : Digest
  attestationEvidenceRef : Digest
  attestedBy : String
  attestedAt : Time
  expiresAt : Time
  window : attestedAt < expiresAt

@[ext]
structure HybridValidationLimits where
  maxSourceEvidenceRefs : ℕ
  maxHttpEvidenceRefs : ℕ
  timeout : Time
  maxAttempts : ℕ
  maxAttempts_bounds : 1 ≤ maxAttempts ∧ maxAttempts ≤ 3

instance : DecidableEq HybridValidationLimits :=
  fun _ _ => decidable_of_iff _ HybridValidationLimits.ext_iff.symm

/-- The values of a `HybridValidationPlan`. -/
structure HybridPlanValues where
  checkKind : HybridCheckKind
  candidateId : UUID
  candidateDigest : Digest
  sourceTargetId : UUID
  sourceTargetVersion : String
  sourceManifestDigest : Digest
  liveTargetId : UUID
  endpointUrlDigest : Digest
  deploymentProofId : Digest
  deploymentProofDigest : Digest
  sourceValidationPlanId : Option Digest
  validationPlanId : Digest
  sourceEvidenceRefs : List Digest
  expectedResult : ValidationResult
  priorChainId : Option Digest
  scopeId : UUID
  scopeVersion : ℕ
  limits : HybridValidationLimits
  createdAt : Time
  deadline : Time
  idempotencyKey : String
  deriving DecidableEq

/-- The result a check expects of its validation. -/
def HybridCheckKind.expected : HybridCheckKind → ValidationResult
  | initial => .reproduced
  | remediationRetest => .notReproduced

/-- The conclusion a check reaches when it is sealed. -/
def HybridCheckKind.conclusion : HybridCheckKind → HybridConclusion
  | initial => .confirmed
  | remediationRetest => .remediated

/-- The validator of `HybridValidationPlan`. -/
@[mk_iff]
structure HybridPlanValues.Sealed (values : HybridPlanValues) : Prop where
  window : values.createdAt < values.deadline
  refs_nonempty : values.sourceEvidenceRefs ≠ []
  refs_sorted : values.sourceEvidenceRefs = sortedSet values.sourceEvidenceRefs
  refs_budget : values.sourceEvidenceRefs.length ≤ values.limits.maxSourceEvidenceRefs
  prior : values.checkKind = .initial ↔ values.priorChainId = none
  source : values.checkKind = .initial ↔ values.sourceValidationPlanId = none
  result : values.expectedResult = values.checkKind.expected

instance HybridPlanValues.decidableSealed (values : HybridPlanValues) : Decidable values.Sealed :=
  decidable_of_iff' _ (HybridPlanValues.sealed_iff values)

structure HybridValidationPlan extends HybridPlanValues where
  isSealed : toHybridPlanValues.Sealed
  deriving DecidableEq

/-- `HybridValidationPlan.create`. -/
def HybridValidationPlan.create (values : HybridPlanValues) :
    Except HybridError HybridValidationPlan :=
  if h : values.Sealed then .ok ⟨values, h⟩
  else .error (.validationError "Hybrid validation plan is invalid")

/-! ## Evidence chains -/

/-- The values of a `HybridEvidenceChain`. -/
structure HybridChainValues where
  planId : Digest
  checkKind : HybridCheckKind
  conclusion : HybridConclusion
  candidateId : UUID
  candidateDigest : Digest
  sourceTargetId : UUID
  sourceTargetVersion : String
  sourceManifestDigest : Digest
  liveTargetId : UUID
  endpointUrlDigest : Digest
  deploymentProofId : Digest
  sourceRemediationProofId : Option Digest
  validationPlanId : Digest
  validationRunId : UUID
  priorChainId : Option Digest
  sourceEvidenceRefs : List Digest
  deploymentEvidenceRef : Digest
  httpEvidenceRefs : List Digest
  evidenceBundle : EvidenceBundle
  scopeId : UUID
  scopeVersion : ℕ
  sealedAt : Time
  deriving DecidableEq

/-- All references of a chain. -/
def HybridChainValues.evidenceRefs (values : HybridChainValues) : List Digest :=
  sortedSet (values.sourceEvidenceRefs ++ values.deploymentEvidenceRef :: values.httpEvidenceRefs)

/-- The validator of `HybridEvidenceChain`. -/
@[mk_iff]
structure HybridChainValues.Sealed (values : HybridChainValues) : Prop where
  conclusion : values.conclusion = values.checkKind.conclusion
  prior : values.checkKind = .initial ↔ values.priorChainId = none
  remediation : values.checkKind = .initial ↔ values.sourceRemediationProofId = none
  source_sorted : values.sourceEvidenceRefs = sortedSet values.sourceEvidenceRefs
  http_sorted : values.httpEvidenceRefs = sortedSet values.httpEvidenceRefs
  bundle_candidate : values.evidenceBundle.candidateId = values.candidateId
  bundle_refs : values.evidenceBundle.evidenceRefs = values.evidenceRefs

instance HybridChainValues.decidableSealed (values : HybridChainValues) : Decidable values.Sealed :=
  decidable_of_iff' _ (HybridChainValues.sealed_iff values)

structure HybridEvidenceChain extends HybridChainValues where
  isSealed : toHybridChainValues.Sealed
  deriving DecidableEq

/-- `HybridEvidenceChain.create`. -/
def HybridEvidenceChain.create (values : HybridChainValues) :
    Except HybridError HybridEvidenceChain :=
  if h : values.Sealed then .ok ⟨values, h⟩
  else .error (.validationError "Hybrid Evidence Chain bindings are inconsistent")

structure SourceRemediationProof where
  priorChainId : Digest
  candidateId : UUID
  candidateDigest : Digest
  sourceTargetId : UUID
  sourceTargetVersion : String
  sourceManifestDigest : Digest
  validationPlanId : Digest
  validationRunId : UUID
  evidenceRefs : List Digest
  scopeId : UUID
  scopeVersion : ℕ
  sealedAt : Time

/-- The content digests of the Hybrid records. -/
class HybridDigests where
  deploymentProof : CanonicalDigest DeploymentProof
  /-- the digest of a deployment proof with its identifier -/
  sealedProof : DeploymentProof → Digest
  plan : CanonicalDigest HybridValidationPlan
  chain : CanonicalDigest HybridEvidenceChain
  remediationProof : CanonicalDigest SourceRemediationProof

attribute [reducible, instance] HybridDigests.deploymentProof HybridDigests.plan
  HybridDigests.chain HybridDigests.remediationProof

export HybridDigests (sealedProof)

variable [HybridDigests]

def DeploymentProof.proofId (proof : DeploymentProof) : Digest :=
  canonicalDigest proof

def HybridValidationPlan.planId (plan : HybridValidationPlan) : Digest :=
  canonicalDigest plan

def HybridEvidenceChain.chainId (chain : HybridEvidenceChain) : Digest :=
  canonicalDigest chain

def SourceRemediationProof.proofId (proof : SourceRemediationProof) : Digest :=
  canonicalDigest proof

/-- `SourceRemediationProof.create`. -/
def SourceRemediationProof.create (proof : SourceRemediationProof) :
    Except HybridError SourceRemediationProof := do
  raiseIf (proof.evidenceRefs ≠ sortedSet proof.evidenceRefs)
    (.validationError "Source remediation Evidence references must be sorted and unique")
  return proof

/-! ## Outcomes -/

structure HybridValidationOutcome where
  planId : Digest
  state : HybridRunState
  attempt : ℕ
  chain : Option HybridEvidenceChain
  sourceRemediationProof : Option SourceRemediationProof
  reasonCode : String
  cleanupComplete : Bool
  completedAt : Time

/-- A source remediation proof stands with the chain of a retest, which names it. -/
def HybridValidationOutcome.proofAgrees (outcome : HybridValidationOutcome)
    (chain : HybridEvidenceChain) : Bool :=
  match outcome.sourceRemediationProof with
  | none => chain.checkKind = .initial
  | some proof => chain.checkKind ≠ .initial ∧ chain.sourceRemediationProofId = some proof.proofId

/-- Only the outcome of a sealed retest has a source remediation proof. -/
def HybridValidationOutcome.checkProof (outcome : HybridValidationOutcome) :
    Except HybridError Unit :=
  match outcome.chain with
  | none => raiseIf outcome.sourceRemediationProof.isSome (.validationError
      "Only completed Hybrid retests contain source remediation proof")
  | some chain => raiseIf (outcome.proofAgrees chain = false) (.validationError
      "Hybrid source remediation proof binding is inconsistent")

/-- The validator of `HybridValidationOutcome`. -/
def HybridValidationOutcome.terminalShape (outcome : HybridValidationOutcome) :
    Except HybridError HybridValidationOutcome := do
  raiseIf (outcome.state = .started) (.validationError "Hybrid outcome must be terminal")
  raiseIf (¬(outcome.state = .completed ↔ outcome.chain.isSome))
    (.validationError "Only completed Hybrid outcomes contain an Evidence Chain")
  outcome.checkProof
  raiseIf (outcome.cleanupComplete = false)
    (.validationError "Hybrid outcome requires proven cleanup")
  return outcome

end VulnLoom

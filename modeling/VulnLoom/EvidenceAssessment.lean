import VulnLoom.Scope
import VulnLoom.Table

/-!
# Evidence assessments

The facts an Evidence Requirement asks for, the assertions about them, and the reduction of the
assertions to a verdict. Counterevidence is what an assertion says against a required fact, or
for a fact of the critic; a missing assertion leaves its fact unresolved (`standing`). The
monotonic deadline of the reduction is left out : it can only raise.
-/

namespace VulnLoom

inductive EvidenceRequirementStage
  | observation
  | validation
  | critic
  | cleanup
  deriving DecidableEq

inductive EvidenceFactKind
  | sealedGetSucceeded
  | unauthenticatedRequestProven
  | sensitiveDataClassPresent
  | independentReplayMatched
  | redactionBoundaryProven
  | accessControlEnforced
  | publicByDesign
  | syntheticOrPlaceholderData
  | environmentOrVersionMismatch
  | noStateChangeProven
  | noTestArtifactsRemain
  deriving DecidableEq

inductive EvidenceFactVerdict
  | supported
  | refuted
  | inconclusive
  deriving DecidableEq

inductive EvidenceAssessmentVerdict
  | candidateEligible
  | negative
  | inconclusive
  deriving DecidableEq

/-- The value of a member of the enumeration. -/
def EvidenceFactKind.value : EvidenceFactKind → String
  | sealedGetSucceeded => "sealed_get_succeeded"
  | unauthenticatedRequestProven => "unauthenticated_request_proven"
  | sensitiveDataClassPresent => "sensitive_data_class_present"
  | independentReplayMatched => "independent_replay_matched"
  | redactionBoundaryProven => "redaction_boundary_proven"
  | accessControlEnforced => "access_control_enforced"
  | publicByDesign => "public_by_design"
  | syntheticOrPlaceholderData => "synthetic_or_placeholder_data"
  | environmentOrVersionMismatch => "environment_or_version_mismatch"
  | noStateChangeProven => "no_state_change_proven"
  | noTestArtifactsRemain => "no_test_artifacts_remain"

def observationFacts : List EvidenceFactKind :=
  [.sealedGetSucceeded, .unauthenticatedRequestProven, .sensitiveDataClassPresent]

def validationFacts : List EvidenceFactKind :=
  [.independentReplayMatched, .redactionBoundaryProven]

def criticFacts : List EvidenceFactKind :=
  [.accessControlEnforced, .publicByDesign, .syntheticOrPlaceholderData,
    .environmentOrVersionMismatch]

def cleanupFacts : List EvidenceFactKind :=
  [.noStateChangeProven, .noTestArtifactsRemain]

/-- `_FACT_STAGE`. -/
def factStage (fact : EvidenceFactKind) : EvidenceRequirementStage :=
  if fact ∈ observationFacts then .observation
  else if fact ∈ validationFacts then .validation
  else if fact ∈ criticFacts then .critic
  else .cleanup

/-- All the facts of the requirement. -/
def requiredFacts : List EvidenceFactKind :=
  observationFacts ++ validationFacts ++ criticFacts ++ cleanupFacts

/-- An exception of the assessment service. -/
inductive EvidenceAssessmentError
  | rejected (reason : String)
  | validationError (reason : String)
  deriving DecidableEq

/-! ## Records -/

/-- The one requirement : its validator fixes every field. -/
structure VulnerabilityEvidenceRequirement where
  vulnerabilityClass : String
  observationFacts : List EvidenceFactKind
  validationFacts : List EvidenceFactKind
  counterevidenceFacts : List EvidenceFactKind
  cleanupFacts : List EvidenceFactKind
  deriving DecidableEq

/-- `VulnerabilityEvidenceRequirement.create`. -/
def VulnerabilityEvidenceRequirement.create : VulnerabilityEvidenceRequirement where
  vulnerabilityClass := "unauthenticated_sensitive_data_exposure"
  observationFacts := VulnLoom.observationFacts
  validationFacts := VulnLoom.validationFacts
  counterevidenceFacts := criticFacts
  cleanupFacts := VulnLoom.cleanupFacts

@[ext]
structure EvidenceAssertion where
  requirementId : Digest
  stage : EvidenceRequirementStage
  fact : EvidenceFactKind
  verdict : EvidenceFactVerdict
  evidenceRefs : List Digest
  producerRef : String
  contextId : Digest
  observedAt : Time
  fact_stage : factStage fact = stage
  refs_bounds : 1 ≤ evidenceRefs.length ∧ evidenceRefs.length ≤ 16
  refs_sorted : evidenceRefs.Pairwise (· < ·)

instance : DecidableEq EvidenceAssertion :=
  fun _ _ => decidable_of_iff _ EvidenceAssertion.ext_iff.symm

@[ext]
structure EvidenceAssessmentLimits where
  maxAssertions : ℕ
  maxEvidenceRefs : ℕ
  assertions_bounds : 1 ≤ maxAssertions ∧ maxAssertions ≤ 32
  refs_bounds : 1 ≤ maxEvidenceRefs ∧ maxEvidenceRefs ≤ 256

instance : DecidableEq EvidenceAssessmentLimits :=
  fun _ _ => decidable_of_iff _ EvidenceAssessmentLimits.ext_iff.symm

/-- The content digests of what a plan is made of. -/
class EvidenceDigests where
  requirement : CanonicalDigest VulnerabilityEvidenceRequirement
  assertion : CanonicalDigest EvidenceAssertion

attribute [reducible, instance] EvidenceDigests.requirement EvidenceDigests.assertion

section Plan

variable [EvidenceDigests]

def VulnerabilityEvidenceRequirement.requirementId
    (requirement : VulnerabilityEvidenceRequirement) : Digest :=
  canonicalDigest requirement

def EvidenceAssertion.assertionId (assertion : EvidenceAssertion) : Digest :=
  canonicalDigest assertion

@[ext]
structure EvidenceAssessmentPlan where
  requirement : VulnerabilityEvidenceRequirement
  targetId : UUID
  targetVersion : String
  scopeId : UUID
  scopeVersion : ℕ
  assertions : List EvidenceAssertion
  limits : EvidenceAssessmentLimits
  createdAt : Time
  deadline : Time
  idempotencyKey : String
  requirement_sealed : requirement = .create
  assertions_bounds : 1 ≤ assertions.length ∧ assertions.length ≤ 32
  assertions_sorted : (assertions.map EvidenceAssertion.assertionId).Pairwise (· < ·)
  requirement_bound : ∀ assertion ∈ assertions,
    assertion.requirementId = requirement.requirementId
  window : createdAt < deadline

instance : DecidableEq EvidenceAssessmentPlan :=
  fun _ _ => decidable_of_iff _ EvidenceAssessmentPlan.ext_iff.symm

end Plan

/-- The validator of `EvidenceAssessment`. -/
def AssessmentSealed (verdict : EvidenceAssessmentVerdict)
    (satisfied counterevidence unresolved : List EvidenceFactKind) (evidenceRefs : List Digest)
    (cleanupSatisfied eligible : Bool) : Prop :=
  (∀ facts ∈ [satisfied, counterevidence, unresolved],
      (facts.map EvidenceFactKind.value).Pairwise (· < ·)) ∧
    (satisfied ++ counterevidence ++ unresolved).Nodup ∧
    (1 ≤ evidenceRefs.length ∧ evidenceRefs.length ≤ 256) ∧
    evidenceRefs.Pairwise (· < ·) ∧
    (eligible = true ↔ verdict = .candidateEligible) ∧
    (cleanupSatisfied = true ↔ ∀ fact ∈ cleanupFacts, fact ∈ satisfied) ∧
    (verdict = .candidateEligible →
      (∀ fact ∈ requiredFacts, fact ∈ satisfied) ∧ counterevidence = [] ∧ unresolved = []) ∧
    (verdict = .negative ↔ counterevidence ≠ []) ∧
    (verdict = .inconclusive → unresolved ≠ [])

instance (verdict : EvidenceAssessmentVerdict)
    (satisfied counterevidence unresolved : List EvidenceFactKind) (evidenceRefs : List Digest)
    (cleanupSatisfied eligible : Bool) : Decidable (AssessmentSealed verdict satisfied
      counterevidence unresolved evidenceRefs cleanupSatisfied eligible) :=
  inferInstanceAs (Decidable (_ ∧ _))

structure EvidenceAssessment where
  planId : Digest
  requirementId : Digest
  verdict : EvidenceAssessmentVerdict
  satisfiedFacts : List EvidenceFactKind
  counterevidenceFacts : List EvidenceFactKind
  unresolvedFacts : List EvidenceFactKind
  evidenceRefs : List Digest
  cleanupRequirementSatisfied : Bool
  candidateProposalEligible : Bool
  assessedAt : Time
  isSealed : AssessmentSealed verdict satisfiedFacts counterevidenceFacts unresolvedFacts
    evidenceRefs cleanupRequirementSatisfied candidateProposalEligible
  deriving DecidableEq

structure EvidenceAssessmentOutcome where
  planId : Digest
  assessment : EvidenceAssessment
  attempt : ℕ
  attempt_bounds : 1 ≤ attempt ∧ attempt ≤ 3
  bound : assessment.planId = planId

/-- The content digests of the plan, the assessment and the outcome. -/
class AssessmentDigests [EvidenceDigests] where
  plan : CanonicalDigest EvidenceAssessmentPlan
  assessment : CanonicalDigest EvidenceAssessment
  outcome : CanonicalDigest EvidenceAssessmentOutcome

attribute [reducible, instance] AssessmentDigests.plan AssessmentDigests.assessment
  AssessmentDigests.outcome

variable [EvidenceDigests] [AssessmentDigests]

def EvidenceAssessmentPlan.planId (plan : EvidenceAssessmentPlan) : Digest :=
  canonicalDigest plan

def EvidenceAssessment.assessmentId (assessment : EvidenceAssessment) : Digest :=
  canonicalDigest assessment

/-! ## The reduction -/

inductive FactStanding
  | satisfied
  | counterevidence
  | unresolved
  deriving DecidableEq

/-- Where the assertion of a fact, or its absence, leaves the fact. -/
def standing (fact : EvidenceFactKind) (verdict : Option EvidenceFactVerdict) : FactStanding :=
  match factStage fact, verdict with
  | .cleanup, some .supported => .satisfied
  | .cleanup, _ => .unresolved
  | _, none => .unresolved
  | _, some .inconclusive => .unresolved
  | .critic, some .refuted => .satisfied
  | .critic, some .supported => .counterevidence
  | _, some .supported => .satisfied
  | _, some .refuted => .counterevidence

/-- `by_fact` : the assertions of a plan are of distinct facts. -/
def verdictOf (assertions : List EvidenceAssertion) (fact : EvidenceFactKind) :
    Option EvidenceFactVerdict :=
  (assertions.find? fun assertion => assertion.fact = fact).map EvidenceAssertion.verdict

/-- The facts that stand so, sorted by value. -/
def factsStanding (assertions : List EvidenceAssertion) (s : FactStanding) :
    List EvidenceFactKind :=
  Table.orderBy EvidenceFactKind.value
    (requiredFacts.filter fun fact => standing fact (verdictOf assertions fact) = s)

/-- The verdict of the reduction. -/
def reduceVerdict (assertions : List EvidenceAssertion) : EvidenceAssessmentVerdict :=
  if factsStanding assertions .counterevidence ≠ [] then .negative
  else if factsStanding assertions .unresolved ≠ [] then .inconclusive
  else .candidateEligible

/-- Every reference of the assertions. -/
def allRefs (assertions : List EvidenceAssertion) : List Digest :=
  assertions.flatMap EvidenceAssertion.evidenceRefs

/-- The references of the assertions, sorted. -/
def assertionRefs (assertions : List EvidenceAssertion) : List Digest :=
  Table.orderBy id (allRefs assertions).dedup

/-- `_scope`. -/
def EvidenceAssessment.checkScope (scope : Scope) (now : Time) :
    Except EvidenceAssessmentError Unit :=
  raiseIf (scope.state ≠ .approved ∨ ¬(scope.validFrom ≤ now ∧ now < scope.validUntil) ∨
      "read_only" ∉ scope.allowedTestClasses)
    (.rejected "Evidence Assessment requires a current read-only approved Scope")

/-- The critic is another producer in another context, over other evidence. -/
def CriticIndependent (validation critic : List EvidenceAssertion) : Prop :=
  (validation.map EvidenceAssertion.contextId).dedup.length = 1 ∧
    (critic.map EvidenceAssertion.contextId).dedup.length = 1 ∧
    (validation.map EvidenceAssertion.producerRef).dedup.length = 1 ∧
    (critic.map EvidenceAssertion.producerRef).dedup.length = 1 ∧
    (∀ v ∈ validation, ∀ c ∈ critic, v.contextId ≠ c.contextId) ∧
    (∀ v ∈ validation, ∀ c ∈ critic, v.producerRef ≠ c.producerRef) ∧
    ∀ ref ∈ allRefs validation, ref ∉ allRefs critic

instance (validation critic : List EvidenceAssertion) :
    Decidable (CriticIndependent validation critic) :=
  inferInstanceAs (Decidable (_ ∧ _))

/-- The assertions of one stage. -/
def ofStage (assertions : List EvidenceAssertion) (stage : EvidenceRequirementStage) :
    List EvidenceAssertion :=
  assertions.filter fun assertion => assertion.stage = stage

/-- `_verify_evidence`, where `contains` is the evidence store's. -/
def verifyEvidence (contains : Digest → Bool) (assertions : List EvidenceAssertion) :
    Except EvidenceAssessmentError Unit :=
  raiseIf (¬∀ assertion ∈ assertions, ∀ ref ∈ assertion.evidenceRefs, contains ref = true)
    (.rejected "Evidence integrity check failed")

/-- `_assertions`. -/
def checkAssertions (contains : Digest → Bool) (requirement : VulnerabilityEvidenceRequirement)
    (assertions : List EvidenceAssertion) (limits : EvidenceAssessmentLimits) (now : Time) :
    Except EvidenceAssessmentError Unit := do
  raiseIf (limits.maxAssertions < assertions.length)
    (.rejected "Evidence Assertion budget exceeded")
  raiseIf (¬(assertions.map EvidenceAssertion.assertionId).Nodup)
    (.rejected "Evidence Assertions must be unique")
  raiseIf (¬(assertions.map EvidenceAssertion.fact).Nodup)
    (.rejected "Evidence Assessment repeats a required fact")
  raiseIf (∃ assertion ∈ assertions, assertion.requirementId ≠ requirement.requirementId ∨
      assertion.fact ∉ requiredFacts ∨ now < assertion.observedAt)
    (.rejected "Evidence Assertion provenance is invalid")
  raiseIf (limits.maxEvidenceRefs < (assertionRefs assertions).length)
    (.rejected "Evidence reference budget exceeded")
  raiseIf (ofStage assertions .validation ≠ [] ∧ ofStage assertions .critic ≠ [] ∧
      ¬CriticIndependent (ofStage assertions .validation) (ofStage assertions .critic))
    (.rejected "Critic Evidence must be independent from Validation")
  verifyEvidence contains assertions

/-- `_binding`. -/
def EvidenceAssessmentPlan.checkBinding (plan : EvidenceAssessmentPlan) (scope : Scope)
    (now : Time) : Except EvidenceAssessmentError Unit := do
  EvidenceAssessment.checkScope scope now
  raiseIf (¬(plan.createdAt ≤ now ∧ now < plan.deadline) ∨
      plan.requirement ≠ VulnerabilityEvidenceRequirement.create ∨
      plan.scopeId ≠ scope.scopeId ∨ plan.scopeVersion ≠ scope.version)
    (.rejected "Evidence Assessment binding drifted")

/-- `EvidenceAssessment.create` of what the reduction found. -/
def createAssessment (plan : EvidenceAssessmentPlan) :
    Except EvidenceAssessmentError EvidenceAssessment :=
  let verdict := reduceVerdict plan.assertions
  let satisfied := factsStanding plan.assertions .satisfied
  let cleanupSatisfied := decide (∀ fact ∈ cleanupFacts, fact ∈ satisfied)
  if h : AssessmentSealed verdict satisfied (factsStanding plan.assertions .counterevidence)
      (factsStanding plan.assertions .unresolved) (assertionRefs plan.assertions)
      cleanupSatisfied (decide (verdict = .candidateEligible)) then
    .ok {
      planId := plan.planId
      requirementId := plan.requirement.requirementId
      verdict := verdict
      satisfiedFacts := satisfied
      counterevidenceFacts := factsStanding plan.assertions .counterevidence
      unresolvedFacts := factsStanding plan.assertions .unresolved
      evidenceRefs := assertionRefs plan.assertions
      cleanupRequirementSatisfied := cleanupSatisfied
      candidateProposalEligible := decide (verdict = .candidateEligible)
      assessedAt := plan.createdAt
      isSealed := h }
  else
    .error (.validationError "Evidence Assessment binding is invalid")

/-- `_assess`. -/
def assess (contains : Digest → Bool) (plan : EvidenceAssessmentPlan) (scope : Scope)
    (now : Time) : Except EvidenceAssessmentError EvidenceAssessment := do
  plan.checkBinding scope now
  checkAssertions contains plan.requirement plan.assertions plan.limits now
  createAssessment plan

/-! ## What the reduction finds -/

end VulnLoom

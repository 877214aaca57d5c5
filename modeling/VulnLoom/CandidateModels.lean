import VulnLoom.SourceHuntModels

/-!
# Candidates and findings

The domain objects of a vulnerability candidate and its lifecycle rules : a candidate is
queued, validated, reviewed by a critic and promoted to a finding. Of these objects only what
the modelled services read is kept; a mapping is the list of its entries.
-/

namespace VulnLoom

inductive CandidateState
  | proposed
  | rejected
  | duplicate
  | validationPending
  | validationRunning
  | validated
  | inconclusive
  | criticReviewed
  | promoted
  deriving DecidableEq

inductive ValidationResult
  | reproduced
  | notReproduced
  | inconclusive
  | policyStopped
  | timedOut
  deriving DecidableEq

inductive CriticVerdict
  | accepted
  | rejected
  | inconclusive
  deriving DecidableEq

/-- An exception of the lifecycle rules. -/
inductive LifecycleError
  | transitionRejected (reason : String)
  | validationError (reason : String)
  deriving DecidableEq

structure Candidate where
  candidateId : UUID
  targetId : UUID
  targetVersion : String
  sourceGraphId : Digest
  scopeId : UUID
  scopeVersion : ℕ
  title : String
  cwe : String
  entryPoint : SourceLocation
  sink : SourceLocation
  codePath : List SourceLocation
  preconditions : List String
  securityInvariant : String
  hypothesis : String
  signalIds : List Digest
  cheapestDisproof : String
  duplicateFingerprint : Digest
  confidence : ℚ
  state : CandidateState
  deriving DecidableEq

structure ValidationRun where
  runId : UUID
  candidateId : UUID
  targetVersion : String
  scopeVersion : ℕ
  sandboxImageDigest : String
  policyDigest : Digest
  plan : List String
  startedAt : Time
  finishedAt : Time
  result : ValidationResult
  evidenceRefs : List String
  resourceUsage : List (String × ℚ)
  ordered : startedAt ≤ finishedAt
  deriving DecidableEq

structure EvidenceBundle where
  bundleId : UUID
  candidateId : UUID
  evidenceRefs : List Digest
  sealedAt : Time
  deriving DecidableEq

structure CriticReview where
  reviewId : UUID
  planId : Digest
  candidateId : UUID
  validationRunId : UUID
  evidenceBundleId : UUID
  validationContextId : Digest
  reviewContextId : Digest
  verdict : CriticVerdict
  counterevidenceRefs : List Digest
  reviewedAt : Time
  deriving DecidableEq

/-- `CriticReview.accepted`. -/
def CriticReview.accepted (review : CriticReview) : Bool :=
  review.verdict = .accepted

structure Finding where
  findingId : UUID
  candidateId : UUID
  rootCause : String
  affectedVersions : List String
  preconditions : List String
  impact : String
  severityAssessment : List (String × (String ⊕ ℚ))
  validationRunIds : List UUID
  evidenceBundleId : UUID
  deriving DecidableEq

/-! ## Lifecycle rules -/

/-- `_CANDIDATE_TRANSITIONS`. -/
def candidateTransitions : CandidateState → List CandidateState
  | .proposed => [.rejected, .duplicate, .validationPending]
  | .validationPending => [.validationRunning]
  | .validationRunning => [.validated, .inconclusive]
  | .validated => [.criticReviewed]
  | .criticReviewed => [.rejected, .promoted]
  | _ => []

/-- `transition_candidate`. -/
def transitionCandidate (candidate : Candidate) (target : CandidateState) :
    Except LifecycleError Candidate := do
  raiseIf (target ∉ candidateTransitions candidate.state)
    (.transitionRejected "illegal candidate transition")
  return { candidate with state := target }

/-- The scope is approved and in its validity window. -/
def Scope.isCurrent (scope : Scope) (now : Time) : Bool :=
  scope.state = .approved ∧ scope.validFrom ≤ now ∧ now < scope.validUntil

/-- `queue_validation`. -/
def queueValidation (candidate : Candidate) (scope : Scope) (now : Time) :
    Except LifecycleError Candidate := do
  raiseIf (scope.state ≠ .approved) (.transitionRejected "validation requires an approved Scope")
  raiseIf (¬(scope.validFrom ≤ now ∧ now < scope.validUntil))
    (.transitionRejected "validation is outside the Scope validity window")
  raiseIf (candidate.scopeId ≠ scope.scopeId ∨ candidate.scopeVersion ≠ scope.version)
    (.transitionRejected "Candidate is bound to another Scope version")
  transitionCandidate candidate .validationPending

/-- `complete_validation`. -/
def completeValidation (candidate : Candidate) (run : ValidationRun) :
    Except LifecycleError Candidate := do
  raiseIf (run.candidateId ≠ candidate.candidateId)
    (.transitionRejected "ValidationRun belongs to another Candidate")
  raiseIf (run.targetVersion ≠ candidate.targetVersion ∨
      run.scopeVersion ≠ candidate.scopeVersion)
    (.transitionRejected "ValidationRun is bound to another Target or Scope version")
  transitionCandidate candidate (if run.result = .reproduced then .validated else .inconclusive)

/-- The runs of a candidate that a finding may cite. -/
def reproducedRuns (candidate : Candidate) (runs : List ValidationRun) : List ValidationRun :=
  runs.filter fun run => run.candidateId = candidate.candidateId ∧
    run.targetVersion = candidate.targetVersion ∧ run.scopeVersion = candidate.scopeVersion ∧
    run.result = .reproduced ∧ run.evidenceRefs ≠ []

/-- What a promotion says about the finding. -/
structure FindingClaim where
  rootCause : String
  affectedVersions : List String
  impact : String
  severityAssessment : List (String × (String ⊕ ℚ))
  deriving DecidableEq

/-- `promote_candidate`, for the finding id that its caller gives. -/
def promoteCandidate (candidate : Candidate) (scope : Scope) (now : Time) (claim : FindingClaim)
    (validationRuns : List ValidationRun) (evidenceBundle : EvidenceBundle)
    (criticReview : CriticReview) (duplicateChecked : Bool) (findingId : UUID) :
    Except LifecycleError (Candidate × Finding) := do
  raiseIf (candidate.state ≠ .criticReviewed)
    (.transitionRejected "only a critic-reviewed Candidate can become a Finding")
  raiseIf (¬scope.isCurrent now)
    (.transitionRejected "Finding promotion requires a currently approved Scope")
  raiseIf (candidate.scopeId ≠ scope.scopeId ∨ candidate.scopeVersion ≠ scope.version)
    (.transitionRejected "Finding promotion is bound to another Scope version")
  let reproduced := reproducedRuns candidate validationRuns
  raiseIf (reproduced = [])
    (.transitionRejected "Finding requires a reproduced ValidationRun with evidence")
  raiseIf (evidenceBundle.candidateId ≠ candidate.candidateId ∨ evidenceBundle.evidenceRefs = [])
    (.transitionRejected "Finding requires a non-empty EvidenceBundle for this Candidate")
  raiseIf (∃ run ∈ reproduced, ¬run.evidenceRefs ⊆ evidenceBundle.evidenceRefs)
    (.transitionRejected "Finding EvidenceBundle does not cover reproduced run Evidence")
  raiseIf (criticReview.candidateId ≠ candidate.candidateId ∨
      criticReview.validationRunId ∉ reproduced.map ValidationRun.runId ∨
      criticReview.evidenceBundleId ≠ evidenceBundle.bundleId ∨ now < criticReview.reviewedAt ∨
      ¬criticReview.accepted)
    (.transitionRejected "Critic rejected or did not review this Candidate")
  raiseIf (duplicateChecked = false)
    (.transitionRejected "duplicate-family check is required")
  let promoted ← transitionCandidate candidate .promoted
  return (promoted, {
    findingId := findingId
    candidateId := candidate.candidateId
    rootCause := claim.rootCause
    affectedVersions := claim.affectedVersions
    preconditions := candidate.preconditions
    impact := claim.impact
    severityAssessment := claim.severityAssessment
    validationRunIds := reproduced.map ValidationRun.runId
    evidenceBundleId := evidenceBundle.bundleId })

/-! ## What they return -/

theorem transitionCandidate_ok {candidate moved : Candidate} {target : CandidateState}
    (h : transitionCandidate candidate target = .ok moved) :
    target ∈ candidateTransitions candidate.state ∧ moved = { candidate with state := target } := by
  simp only [transitionCandidate, bind_eq_ok, raiseIf_eq_ok, not_not, pure_eq_ok] at h
  obtain ⟨-, hmem, rfl⟩ := h
  exact ⟨hmem, rfl⟩

/-- A promotion moves a reviewed candidate and names it, with the finding id it was given. -/
theorem promoteCandidate_ok {candidate promoted : Candidate} {scope : Scope} {now : Time}
    {claim : FindingClaim} {validationRuns : List ValidationRun} {evidenceBundle : EvidenceBundle}
    {criticReview : CriticReview} {duplicateChecked : Bool} {findingId : UUID} {finding : Finding}
    (h : promoteCandidate candidate scope now claim validationRuns evidenceBundle criticReview
      duplicateChecked findingId = .ok (promoted, finding)) :
    candidate.state = .criticReviewed ∧ promoted = { candidate with state := .promoted } ∧
      finding.findingId = findingId ∧ finding.candidateId = candidate.candidateId := by
  simp only [promoteCandidate, bind_eq_ok, raiseIf_eq_ok, not_not, pure_eq_ok] at h
  obtain ⟨-, hstate, -, -, -, -, -, -, -, -, -, -, -, -, -, -, moved, hmoved, heq⟩ := h
  cases heq
  exact ⟨hstate, (transitionCandidate_ok hmoved).2, rfl, rfl⟩

end VulnLoom

import VulnLoom.SourceCandidate

/-!
# Recommendations on candidates

What a model says of a proposed candidate, the invocation it comes from, and the records that
admit it. The diagnostic of an invocation, and the parts of a source graph that no service here
reads, are kept as their JSON text. The text bounds of a recommendation are left out.
-/

namespace VulnLoom

inductive RecommendationPriority
  | low
  | medium
  | high
  deriving DecidableEq

inductive InvocationStatus
  | passed
  | rejected
  | timedOut
  deriving DecidableEq

/-- A `ProviderProbeResult` or, where it names a provider, a `ModelInvocationResult`. -/
structure TransportResult where
  providerId : Option String
  planId : Digest
  status : InvocationStatus
  inputTokens : ℕ
  outputTokens : ℕ
  processStarted : Bool
  cleanupVerified : Bool
  attemptDigest : Option Digest
  receiptDigest : Option Digest
  completedAt : Time
  diagnostic : Option String
  responseModel : Option String

structure CandidateRecommendation where
  candidateSetId : Digest
  candidateId : UUID
  candidateDigest : Digest
  sourceGraphId : Digest
  targetId : UUID
  targetVersionDigest : Digest
  scopeId : UUID
  scopeVersion : ℕ
  supportingSignalIds : List Digest
  citedLocations : List SourceLocation
  priority : RecommendationPriority
  rationale : String
  reviewQuestions : List String
  producerResultId : Digest
  producerPlanId : Digest
  producerReceiptDigest : Digest
  createdAt : Time

structure CandidateRecommendationResponse where
  projectionId : Digest
  priority : RecommendationPriority
  rationale : String
  reviewQuestions : List String
  citedLocationIndexes : List ℕ

inductive GenerationStatus
  | recommendationReady
  | rejected
  | timedOut
  deriving DecidableEq

structure CandidateRecommendationGenerationOutcome where
  planId : Digest
  status : GenerationStatus
  projectionId : Digest
  transport : TransportResult
  response : Option CandidateRecommendationResponse
  recommendation : Option CandidateRecommendation
  producerContentBindingVerified : Bool

structure SourceGraph where
  graphId : Digest
  targetId : UUID
  targetVersion : String
  scopeId : UUID
  scopeVersion : ℕ
  content : String

/-- The generation that a plan or a record names, all of it or nothing. -/
structure GenerationBinding where
  planId : Digest
  outcomeId : Digest
  outcomeDigest : Digest
  deriving DecidableEq

@[ext]
structure CandidateRecommendationAdmissionPlan where
  recommendationId : Digest
  recommendationDigest : Digest
  producerResultId : Digest
  producerResultDigest : Digest
  candidateSetId : Digest
  candidateId : UUID
  candidateDigest : Digest
  sourceGraphId : Digest
  targetId : UUID
  targetVersionDigest : Digest
  scopeId : UUID
  scopeVersion : ℕ
  scopeDigest : Digest
  createdAt : Time
  deadline : Time
  idempotencyKey : String
  generation : Option GenerationBinding
  window : createdAt < deadline ∧ deadline ≤ createdAt + 300000000

instance : DecidableEq CandidateRecommendationAdmissionPlan :=
  fun _ _ => decidable_of_iff _ CandidateRecommendationAdmissionPlan.ext_iff.symm

structure CandidateRecommendationRecord where
  planId : Digest
  recommendationId : Digest
  recommendationDigest : Digest
  producerResultId : Digest
  producerResultDigest : Digest
  candidateSetId : Digest
  candidateId : UUID
  candidateDigest : Digest
  sourceGraphId : Digest
  targetId : UUID
  targetVersionDigest : Digest
  scopeId : UUID
  scopeVersion : ℕ
  admittedAt : Time
  generation : Option GenerationBinding
  producerContentBindingVerified : Bool
  bound : producerContentBindingVerified = generation.isSome
  deriving DecidableEq

/-- The content digests of the records. A probe result without a diagnostic or a response model
is the digest of the rest. -/
class RecommendationDigests where
  candidate : CanonicalDigest Candidate
  text : CanonicalDigest String
  scope : CanonicalDigest Scope
  result : CanonicalDigest TransportResult
  recommendation : CanonicalDigest CandidateRecommendation
  outcome : CanonicalDigest CandidateRecommendationGenerationOutcome
  plan : CanonicalDigest CandidateRecommendationAdmissionPlan
  record : CanonicalDigest CandidateRecommendationRecord
  /-- the canonical digest of a result with its identifier in it -/
  sealedResult : TransportResult → Digest
  /-- the canonical digest of a recommendation with its identifier in it -/
  sealedRecommendation : CandidateRecommendation → Digest
  /-- the canonical digest of an outcome with its identifier in it -/
  sealedOutcome : CandidateRecommendationGenerationOutcome → Digest
  /-- the canonical digest of a record with its identifier in it -/
  sealedRecord : CandidateRecommendationRecord → Digest
  /-- `source_graph_digest` -/
  sourceGraphDigest : SourceGraph → Digest

attribute [reducible, instance] RecommendationDigests.candidate RecommendationDigests.text
  RecommendationDigests.scope RecommendationDigests.result RecommendationDigests.recommendation
  RecommendationDigests.outcome RecommendationDigests.plan RecommendationDigests.record

export RecommendationDigests (sealedResult sealedRecommendation sealedOutcome sealedRecord
  sourceGraphDigest)

variable [RecommendationDigests]

def TransportResult.resultId (result : TransportResult) : Digest :=
  canonicalDigest result

def CandidateRecommendation.recommendationId (recommendation : CandidateRecommendation) :
    Digest :=
  canonicalDigest recommendation

def CandidateRecommendationGenerationOutcome.outcomeId
    (outcome : CandidateRecommendationGenerationOutcome) : Digest :=
  canonicalDigest outcome

def CandidateRecommendationAdmissionPlan.planId (plan : CandidateRecommendationAdmissionPlan) :
    Digest :=
  canonicalDigest plan

def CandidateRecommendationRecord.recordId (record : CandidateRecommendationRecord) : Digest :=
  canonicalDigest record

end VulnLoom

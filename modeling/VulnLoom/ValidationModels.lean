import VulnLoom.Broker
import VulnLoom.CandidateModels

/-!
# Validation plans

The plan of one validation attempt, what comes out of it, and the trusted preflight of the
validation service. The calls of a plan are calls of the HTTP tool; of the runner request only
what the preflight reads is kept, and of an outcome what later services read.
-/

namespace VulnLoom

variable [PythonUrl]

/-! ## Records -/

/-- `HttpResponseAssertion`. -/
@[ext]
structure HttpResponseAssertion where
  callId : UUID
  expectedStatusCode : ℕ
  expectedBodySha256 : Digest
  matchResult : ValidationResult
  statusCode_bounds : 100 ≤ expectedStatusCode ∧ expectedStatusCode ≤ 599
  definite : matchResult = .reproduced ∨ matchResult = .notReproduced

instance : DecidableEq HttpResponseAssertion :=
  fun _ _ => decidable_of_iff _ HttpResponseAssertion.ext_iff.symm

inductive WorkingDirectory
  | source
  | output
  | temp
  deriving DecidableEq

structure ToolInvocation where
  toolId : String
  arguments : List String
  workingDirectory : WorkingDirectory
  deriving DecidableEq

structure SandboxRunRequest where
  runId : UUID
  task : TaskEnvelope
  profile : SandboxProfile
  invocation : ToolInvocation
  environment : List (String × String)
  idempotencyKey : String
  deriving DecidableEq

structure ValidationPlan where
  candidateId : UUID
  candidateDigest : Digest
  targetId : UUID
  targetVersion : String
  scopeId : UUID
  scopeVersion : ℕ
  selectedBy : String
  selectedAt : Time
  selectionReason : String
  runnerRequest : SandboxRunRequest
  brokerCalls : List BrokerCall
  httpAssertion : Option HttpResponseAssertion
  idempotencyKey : String
  asserted : ∀ assertion ∈ httpAssertion, assertion.callId ∈ brokerCalls.map BrokerCall.callId

structure ValidationVerdict where
  result : ValidationResult
  rationaleCode : String
  evidenceRefs : List Digest
  reproduced_evidence : result = .reproduced → evidenceRefs ≠ []
  deriving DecidableEq

structure ValidationOutcome where
  planId : Digest
  candidate : Candidate
  validationRun : ValidationRun
  evidenceBundle : Option EvidenceBundle
  brokerResults : List BrokerResult
  verdict : ValidationVerdict
  completedAt : Time

/-- The content digests of the validation records. -/
class ValidationDigests where
  candidate : CanonicalDigest Candidate
  plan : CanonicalDigest ValidationPlan

attribute [reducible, instance] ValidationDigests.candidate ValidationDigests.plan

variable [ValidationDigests]

def ValidationPlan.planId (plan : ValidationPlan) : Digest :=
  canonicalDigest plan

/-- `candidate_content_digest`. -/
def candidateContentDigest (candidate : Candidate) : Digest :=
  canonicalDigest candidate

/-! ## The preflight -/

inductive ValidationError
  | rejected (reason : String)
  | lifecycle (error : LifecycleError)
  deriving DecidableEq

variable [PolicyDigests] [BrokerDigests] [PythonIp]

/-- A task belongs to the candidate, the scope and its policy. -/
def TaskEnvelope.boundTo (task : TaskEnvelope) (candidate : Candidate) (scope : Scope)
    (expectedInput : String) : Bool :=
  task.engagementId = scope.engagementId ∧ task.targetId = candidate.targetId ∧
    task.targetVersion = candidate.targetVersion ∧ task.scopeId = scope.scopeId ∧
    task.scopeVersion = scope.version ∧ task.workerRole = .validator ∧
    task.policyDigest = scope.policyDigest ∧ expectedInput ∈ task.inputRefs ∧
    task.deadline ≤ scope.validUntil

/-- The scope and the broker of a `ValidationService`. -/
structure ValidationService where
  scope : Scope
  broker : ToolBroker

/-- The check of one broker call. -/
def ValidationService.checkCall (service : ValidationService) (call : BrokerCall) :
    Except ValidationError Unit := do
  raiseIf (call.profile.kind ≠ .validation)
    (.rejected "Broker calls require a Validation profile")
  let _ ← (service.broker.preflight call).mapError fun _ =>
    ValidationError.rejected "Broker call failed static preflight"

/-- `_preflight`. -/
def ValidationService.preflight (service : ValidationService) (candidate : Candidate)
    (plan : ValidationPlan) (now : Time) : Except ValidationError Unit := do
  raiseIf (candidate.state ≠ .proposed)
    (.rejected "only a proposed Candidate can be selected for validation")
  raiseIf (now < plan.selectedAt)
    (.rejected "Candidate selection timestamp cannot be in the future")
  raiseIf (plan.candidateId ≠ candidate.candidateId ∨
      plan.candidateDigest ≠ candidateContentDigest candidate ∨
      plan.targetId ≠ candidate.targetId ∨ plan.targetVersion ≠ candidate.targetVersion ∨
      plan.scopeId ≠ candidate.scopeId ∨ plan.scopeVersion ≠ candidate.scopeVersion)
    (.rejected "ValidationPlan provenance does not match Candidate")
  let _ ← (queueValidation candidate service.scope now).mapError ValidationError.lifecycle
  let tasks := plan.runnerRequest.task :: plan.brokerCalls.map BrokerCall.task
  raiseIf (∃ task ∈ tasks,
      ¬task.boundTo candidate service.scope ("candidate:" ++ plan.candidateDigest))
    (.rejected "validation task provenance or policy binding mismatch")
  let request := plan.runnerRequest
  raiseIf (request.profile.kind ≠ .validation ∨ request.profile.networkMode ≠ .none ∨
      request.task.sandboxProfileDigest ≠ canonicalDigest request.profile)
    (.rejected "Runner validation must be network-isolated and profile-bound")
  plan.brokerCalls.forM service.checkCall

end VulnLoom

import VulnLoom.HybridModels

/-!
# Hybrid routes

A route turns a request into the validation plan of one call to a deployed endpoint. The endpoint
is resolved from trusted configuration and must be canonical; the plan is sealed in the ledger of
the route. What a route fails with is not told apart : every exception of the materialization
ends the route as failed. The identifiers drawn at random are an argument of the call.
-/

open CheckpointLedger

namespace VulnLoom

/-! ## Records -/

structure LiveEndpointReference where
  configurationKey : String
  deriving DecidableEq

structure HybridRoutePolicy where
  validationImageDigest : String
  toolRegistryDigest : Digest
  connectTime : Time
  readTime : Time
  totalTime : Time
  maxResponseBytes : ℕ
  materializationTimeout : Time
  maxAttempts : ℕ
  connectTime_bounds : 0 < connectTime ∧ connectTime ≤ 30000000
  readTime_bounds : 0 < readTime ∧ readTime ≤ 60000000
  totalTime_bounds : 0 < totalTime ∧ totalTime ≤ 120000000
  maxResponseBytes_bounds : 0 < maxResponseBytes ∧ maxResponseBytes ≤ 20971520
  maxAttempts_bounds : 1 ≤ maxAttempts ∧ maxAttempts ≤ 3
  total_covers : max connectTime readTime ≤ totalTime

@[ext]
structure HybridRouteRequest where
  candidateId : UUID
  candidateDigest : Digest
  sourceTargetId : UUID
  sourceTargetVersion : String
  sourceManifestDigest : Digest
  liveTargetId : UUID
  deploymentProofId : Digest
  deploymentProofDigest : Digest
  endpointReference : LiveEndpointReference
  endpointUrlDigest : Digest
  expectedStatusCode : ℕ
  expectedBodySha256 : Digest
  testClass : String
  scopeId : UUID
  scopeVersion : ℕ
  routePolicyId : Digest
  selectedBy : String
  createdAt : Time
  deadline : Time
  idempotencyKey : String
  window : createdAt < deadline
  statusCode_bounds : 100 ≤ expectedStatusCode ∧ expectedStatusCode ≤ 599

instance : DecidableEq HybridRouteRequest :=
  fun _ _ => decidable_of_iff _ HybridRouteRequest.ext_iff.symm

abbrev HybridRouteState := CheckpointLedger.State

structure HybridRouteOutcome where
  routeId : Digest
  state : HybridRouteState
  attempt : ℕ
  validationPlanId : Option Digest
  validationPlanDigest : Option Digest
  endpointReferenceId : Digest
  endpointUrlDigest : Digest
  reasonCode : String
  cleanupComplete : Bool
  completedAt : Time

variable [PythonUrl]

/-- The content digests of the routing records. -/
class RoutingDigests where
  reference : CanonicalDigest LiveEndpointReference
  policy : CanonicalDigest HybridRoutePolicy
  request : CanonicalDigest HybridRouteRequest
  /-- the digest of a validation plan with its identifier -/
  sealedPlan : ValidationPlan → Digest

attribute [reducible, instance] RoutingDigests.reference RoutingDigests.policy
  RoutingDigests.request

export RoutingDigests (sealedPlan)

variable [RoutingDigests]

def LiveEndpointReference.referenceId (reference : LiveEndpointReference) : Digest :=
  canonicalDigest reference

def HybridRoutePolicy.policyId (policy : HybridRoutePolicy) : Digest :=
  canonicalDigest policy

def HybridRouteRequest.routeId (request : HybridRouteRequest) : Digest :=
  canonicalDigest request

/-! ## Endpoints -/

structure ResolvedLiveEndpoint where
  url : String
  scheme : String
  host : String
  port : ℕ
  urlDigest : Digest

/-- The port of a scheme. -/
def defaultPort (scheme : String) : ℕ :=
  if scheme = "https" then 443 else 80

/-- `parsed.port or default`. -/
def effectivePort (scheme : String) : Option ℕ → ℕ
  | none | some 0 => defaultPort scheme
  | some port => port

/-- The configured text is printable ASCII, and not too long. -/
def usableEndpoint (raw : String) : Bool :=
  raw ≠ "" ∧ raw.length ≤ 2048 ∧
    (raw.toList.all fun c => 32 < c.toNat ∧ c.toNat < 128) ∧ '\\' ∉ raw.toList

/-- A path without escapes, empty segments or dot segments. -/
def plainPath (path : String) : Bool :=
  '%' ∉ path.toList ∧ ¬['/', '/'] <:+: path.toList ∧
    (path.toList.splitOn '/').all fun part => part ≠ ['.'] ∧ part ≠ ['.', '.']

/-- The shape of an endpoint that `resolve` asks for. -/
def plainEndpoint (parsed : SplitResult) : Bool :=
  (parsed.scheme = "http" ∨ parsed.scheme = "https") ∧ truthy parsed.hostname ∧
    parsed.username = none ∧ parsed.password = none ∧ parsed.query = "" ∧ parsed.fragment = "" ∧
    plainPath parsed.path

/-- A host as it stands in a network location. -/
def renderedHost (host : String) : String :=
  if ':' ∈ host.toList then "[" ++ host ++ "]" else host

/-- The network location of a host and a port, which is left out where it is the default. -/
def endpointNetloc (scheme host : String) (port : ℕ) : String :=
  if port = defaultPort scheme then renderedHost host
  else renderedHost host ++ ":" ++ toString port

structure EnvironmentLiveEndpointProvider where
  environment : String → Option String
  references : List LiveEndpointReference

variable [BrokerDigests]

/-- `EnvironmentLiveEndpointProvider.resolve`; `none` is an unavailable endpoint. -/
def EnvironmentLiveEndpointProvider.resolve (provider : EnvironmentLiveEndpointProvider)
    (reference : LiveEndpointReference) : Option ResolvedLiveEndpoint := do
  guard ((provider.references.find? fun item => item.referenceId = reference.referenceId) =
    some reference)
  let raw ← provider.environment reference.configurationKey
  guard (usableEndpoint raw)
  let parsed ← urlsplit raw
  let named ← parsed.port
  let port := effectivePort parsed.scheme named
  guard (plainEndpoint parsed)
  let host := lower (parsed.hostname.getD "")
  let normalized := PythonUrl.urlunsplit parsed.scheme (endpointNetloc parsed.scheme host port)
    (if parsed.path = "" then "/" else parsed.path) "" ""
  guard (normalized = raw)
  return ⟨normalized, parsed.scheme, host, port, urlDigest normalized⟩

/-! ## The service -/

variable [ValidationDigests] [PolicyDigests] [HybridDigests]

structure HybridRouteService where
  policy : HybridRoutePolicy
  toolRegistry : List ToolRegistration
  endpointProvider : EnvironmentLiveEndpointProvider
  bound : canonicalDigest toolRegistry = policy.toolRegistryDigest

/-- Identifiers drawn for a plan. -/
structure RouteIds where
  runId : UUID
  runnerTaskId : UUID
  brokerTaskId : UUID
  callId : UUID

/-- The arguments of `HybridRouteService.execute`, and what it finds outside. -/
structure HybridRouteExecution where
  request : HybridRouteRequest
  candidate : Candidate
  deploymentProof : DeploymentProof
  scope : Scope
  now : Time
  recover : Bool
  elapsed : Time
  ids : RouteIds

/-- `_preflight_source`. -/
def checkRouteSource (candidate : Candidate) (proof : DeploymentProof) (scope : Scope)
    (now : Time) : Except HybridError Unit :=
  raiseIf (scope.isCurrent now = false ∨ candidate.state ≠ .proposed ∨
      candidate.scopeId ≠ scope.scopeId ∨ candidate.scopeVersion ≠ scope.version ∨
      proof.sourceTargetId ≠ candidate.targetId ∨
      proof.sourceTargetVersion ≠ candidate.targetVersion ∨
      ¬(proof.attestedAt ≤ now ∧ now < proof.expiresAt))
    (.rejected "Hybrid Route requires current authorized source inputs")

/-- The request is about the candidate, the deployment, the scope and the policy. -/
@[mk_iff]
structure HybridRouteRequest.BoundTo (request : HybridRouteRequest) (candidate : Candidate)
    (proof : DeploymentProof) (scope : Scope) (policy : HybridRoutePolicy) : Prop where
  candidateId : request.candidateId = candidate.candidateId
  candidateDigest : request.candidateDigest = candidateContentDigest candidate
  sourceTargetId : request.sourceTargetId = candidate.targetId
  sourceTargetVersion : request.sourceTargetVersion = candidate.targetVersion
  sourceManifestDigest : request.sourceManifestDigest = proof.sourceManifestDigest
  liveTargetId : request.liveTargetId = proof.liveTargetId
  deploymentProofId : request.deploymentProofId = proof.proofId
  deploymentProofDigest : request.deploymentProofDigest = sealedProof proof
  endpointUrlDigest : request.endpointUrlDigest = proof.endpointUrlDigest
  scopeId : request.scopeId = scope.scopeId
  scopeVersion : request.scopeVersion = scope.version
  policyId : request.routePolicyId = policy.policyId
  testClass : request.testClass ∈ scope.allowedTestClasses
  deadline : request.deadline ≤ min scope.validUntil proof.expiresAt

instance HybridRouteRequest.decidableBoundTo (request : HybridRouteRequest)
    (candidate : Candidate) (proof : DeploymentProof) (scope : Scope) (policy : HybridRoutePolicy) :
    Decidable (request.BoundTo candidate proof scope policy) :=
  decidable_of_iff' _ (HybridRouteRequest.boundTo_iff request candidate proof scope policy)

/-- `validation_profile`. -/
def validationProfile (imageDigest : String) (snapshotId : Digest)
    (networkGrants : List NetworkGrant) : SandboxProfile where
  kind := .validation
  imageDigest := imageDigest
  snapshotId := some snapshotId
  networkMode := if networkGrants = [] then .none else .targetOnly
  networkGrants := networkGrants
  allowedTools := ["sandbox.test", "http.request"]

/-- `_endpoint_scheme`. -/
def endpointScheme (url : String) : String :=
  String.ofList (url.toList.takeWhile (· ≠ ':'))

/-- `_endpoint_host`. -/
def endpointHost (url : String) : Option String :=
  (urlsplit url).map fun parsed => parsed.hostname.getD ""

/-- `_endpoint_port`. -/
def endpointPort (url : String) : Option ℕ := do
  let parsed ← urlsplit url
  let named ← parsed.port
  return effectivePort parsed.scheme named

/-- `NetworkGrant`, for a URL without blanks; `none` is a `ValidationError`. -/
def endpointGrant (url : String) : Option NetworkGrant := do
  let host ← endpointHost url
  let port ← endpointPort url
  guard (1 ≤ host.length ∧ host.length ≤ 253 ∧ (lower host).toList.all fun c => c ∉ "/@?#".toList)
  guard (1 ≤ port ∧ port ≤ 65535)
  guard (endpointScheme url = "http" ∨ endpointScheme url = "https")
  return ⟨lower host, [port], [endpointScheme url]⟩

namespace HybridRouteService

variable (service : HybridRouteService)

/-- `_preflight_request`. -/
def preflightRequest (x : HybridRouteExecution) : Except HybridError Unit := do
  checkRouteSource x.candidate x.deploymentProof x.scope x.now
  raiseIf (¬x.request.BoundTo x.candidate x.deploymentProof x.scope service.policy)
    (.rejected "Hybrid Route authoritative provenance failed")

/-- `_admit_endpoint`. -/
def admits (x : HybridRouteExecution) (endpoint : ResolvedLiveEndpoint) : Bool :=
  endpoint.urlDigest = x.request.endpointUrlDigest ∧
    x.scope.networkTargets.any fun item => lower item.host = endpoint.host ∧
      endpoint.port ∈ item.ports ∧ endpoint.scheme ∈ item.schemes

/-- `_task`. -/
def task (x : HybridRouteExecution) (taskId : UUID) (profile : SandboxProfile)
    (allowedTools : List String) : TaskEnvelope where
  taskId := taskId
  engagementId := x.scope.engagementId
  targetId := x.candidate.targetId
  targetVersion := x.candidate.targetVersion
  scopeId := x.scope.scopeId
  workerRole := .validator
  scopeVersion := x.scope.version
  policyDigest := x.scope.policyDigest
  sandboxProfileDigest := canonicalDigest profile
  toolRegistryDigest := canonicalDigest service.toolRegistry
  inputRefs := ["candidate:" ++ x.request.candidateDigest,
    "deployment-proof:" ++ x.request.deploymentProofId,
    "endpoint-digest:" ++ x.request.endpointUrlDigest]
  allowedTools := allowedTools
  toolCalls := 1
  deadline := x.request.deadline

/-- The profile of the runner request. -/
def runnerProfile (x : HybridRouteExecution) : SandboxProfile :=
  { validationProfile service.policy.validationImageDigest x.request.sourceManifestDigest [] with
    allowedTools := ["sandbox.test"] }

def runnerRequest (x : HybridRouteExecution) : SandboxRunRequest where
  runId := x.ids.runId
  task := service.task x x.ids.runnerTaskId (service.runnerProfile x) ["sandbox.test"]
  profile := service.runnerProfile x
  invocation := ⟨"sandbox.test", ["hybrid-route:" ++ x.request.routeId], .source⟩
  environment := [("VULNLOOM_TASK_ID", x.ids.runnerTaskId)]
  idempotencyKey := x.request.idempotencyKey ++ ":runner"

/-- The HTTP limits of the policy. -/
def httpLimits : HttpLimits where
  connectTime := service.policy.connectTime
  readTime := service.policy.readTime
  totalTime := service.policy.totalTime
  maxResponseBytes := service.policy.maxResponseBytes
  maxRedirects := 0
  maxRequests := 1
  connectTime_bounds := service.policy.connectTime_bounds
  readTime_bounds := service.policy.readTime_bounds
  totalTime_bounds := service.policy.totalTime_bounds
  maxResponseBytes_bounds := service.policy.maxResponseBytes_bounds
  maxRedirects_le := HttpLimits.maxRedirects_default
  maxRequests_bounds := HttpLimits.maxRequests_default
  redirects_fit := HttpLimits.redirects_default

/-- The request plan of the call; `none` is a `ValidationError`. -/
def httpPlan (x : HybridRouteExecution) (endpointUrl : String) : Option HttpRequestPlan :=
  match h : safeUrl endpointUrl with
  | none => none
  | some url => some
    { method := .get
      url := url
      testClass := x.request.testClass
      headers := []
      credentialRef := none
      bodyRef := none
      bodyBytes := 0
      followRedirects := false
      limits := service.httpLimits
      url_safe := ⟨endpointUrl, h⟩
      body := .get
      redirects_readOnly := by simp [HttpMethod.mutatesState]
      redirects_limit := by simp [httpLimits] }

def brokerProfile (x : HybridRouteExecution) (grant : NetworkGrant) : SandboxProfile :=
  validationProfile service.policy.validationImageDigest x.request.sourceManifestDigest [grant]

/-- The call of the plan. -/
def brokerCall (x : HybridRouteExecution) (grant : NetworkGrant) (http : HttpRequestPlan) :
    BrokerCall where
  callId := x.ids.callId
  task := service.task x x.ids.brokerTaskId (service.brokerProfile x grant) ["http.request"]
  profile := service.brokerProfile x grant
  toolId := "http.request"
  http := http
  idempotencyKey := x.request.idempotencyKey ++ ":broker"

/-- The plan of a call. -/
def planOf (x : HybridRouteExecution) (call : BrokerCall) : ValidationPlan where
  candidateId := x.candidate.candidateId
  candidateDigest := x.request.candidateDigest
  targetId := x.candidate.targetId
  targetVersion := x.candidate.targetVersion
  scopeId := x.scope.scopeId
  scopeVersion := x.scope.version
  selectedBy := x.request.selectedBy
  selectedAt := x.request.createdAt
  selectionReason := "Hybrid route bound Source Candidate to exact deployed endpoint"
  runnerRequest := service.runnerRequest x
  brokerCalls := [call]
  httpAssertion := some
    { callId := call.callId
      expectedStatusCode := x.request.expectedStatusCode
      expectedBodySha256 := x.request.expectedBodySha256
      matchResult := .reproduced
      statusCode_bounds := x.request.statusCode_bounds
      definite := .inl rfl }
  idempotencyKey := x.request.idempotencyKey ++ ":validation"
  asserted := by simp

/-- `_validation_plan`; `none` is a `ValueError`. -/
def validationPlan (x : HybridRouteExecution) (endpointUrl : String) : Option ValidationPlan := do
  let grant ← endpointGrant endpointUrl
  let http ← service.httpPlan x endpointUrl
  guard (x.request.idempotencyKey.length + 11 ≤ 256)
  return service.planOf x (service.brokerCall x grant http)

/-- What `execute` materializes; `none` is an exception that it catches. -/
def materialize (x : HybridRouteExecution) : Option ValidationPlan := do
  let endpoint ← service.endpointProvider.resolve x.request.endpointReference
  guard (admits x endpoint)
  service.validationPlan x endpoint.url

/-- An outcome without a plan. -/
def terminal (x : HybridRouteExecution) (attempt : ℕ) (state : HybridRouteState)
    (reasonCode : String) : HybridRouteOutcome where
  routeId := x.request.routeId
  state := state
  attempt := attempt
  validationPlanId := none
  validationPlanDigest := none
  endpointReferenceId := x.request.endpointReference.referenceId
  endpointUrlDigest := x.request.endpointUrlDigest
  reasonCode := reasonCode
  cleanupComplete := true
  completedAt := x.now

/-- The outcome of a claimed route, with the plan it prepares. -/
def conclude (x : HybridRouteExecution) (attempt : ℕ) :
    HybridRouteOutcome × Option ValidationPlan :=
  if x.request.deadline ≤ x.now then
    (terminal x attempt .timedOut "hybrid_route_deadline_elapsed", none)
  else match service.materialize x with
    | none => (terminal x attempt .failed "hybrid_endpoint_admission_failed", none)
    | some plan =>
      if service.policy.materializationTimeout < x.elapsed then
        (terminal x attempt .timedOut "hybrid_route_budget_elapsed", none)
      else
        ({ terminal x attempt .completed "hybrid_validation_plan_prepared" with
            validationPlanId := some plan.planId
            validationPlanDigest := some (sealedPlan plan) }, some plan)

end HybridRouteService

/-! ## The ledger -/

abbrev HybridRouteRow := Row HybridRouteRequest HybridRouteOutcome

/-- A row of `hybrid_prepared_validations`. -/
structure PreparedValidation where
  routeId : Digest
  plan : ValidationPlan

structure HybridRouteStore where
  routes : List HybridRouteRow
  prepared : List PreparedValidation

def hybridRoutes : Ledger HybridRouteRequest HybridRouteOutcome HybridError where
  id := HybridRouteRequest.routeId
  key request := request.idempotencyKey
  outcomeId := HybridRouteOutcome.routeId
  outcomeState := HybridRouteOutcome.state
  outcomeAttempt := HybridRouteOutcome.attempt
  unavailable := .recoveryRequired "Hybrid Route checkpoint is unavailable"
  reused := .idempotencyConflict "Hybrid Route identity was reused for different content"
  unfinished := .recoveryRequired "Hybrid Route has an unfinished STARTED checkpoint"
  notAwaiting := .recoveryRequired "Hybrid Route is not awaiting recovery"
  raced := .recoveryRequired "Hybrid Route recovery raced"
  exhausted := .recoveryRequired "Hybrid Route recovery attempts are exhausted"
  missing := .recoveryRequired "Hybrid Route STARTED checkpoint is unavailable"
  noOutcome := .recoveryRequired "prepared Hybrid Validation is unavailable"

def preparedClash (a b : PreparedValidation) : Bool :=
  a.routeId = b.routeId ∨ a.plan.planId = b.plan.planId

namespace HybridRouteStore

/-- The prepared plan of a route, where there is one. -/
def plan? (store : HybridRouteStore) (routeId : Digest) : Option ValidationPlan :=
  (store.prepared.find? fun row => row.routeId = routeId).map PreparedValidation.plan

/-- The rows of the prepared plans once a completion has added its own. -/
def withPlan (store : HybridRouteStore) (routeId : Digest) :
    Option ValidationPlan → Except HybridError (List PreparedValidation)
  | none => .ok store.prepared
  | some plan => orRaise (Table.insert preparedClash store.prepared ⟨routeId, plan⟩)
      (.validationError "IntegrityError")

/-- `HybridRouteStore.complete` : one transaction. -/
def complete (store : HybridRouteStore) (outcome : HybridRouteOutcome)
    (plan : Option ValidationPlan) : Except HybridError HybridRouteStore := do
  let prepared ← store.withPlan outcome.routeId plan
  let routes ← hybridRoutes.finish store.routes outcome
  return ⟨routes, prepared⟩

end HybridRouteStore

namespace HybridRouteService

variable (service : HybridRouteService)

/-- The answer of an execution whose route has an outcome. -/
def replay (store : HybridRouteStore) (x : HybridRouteExecution)
    (claim : Claim HybridRouteOutcome) : Except HybridError HybridRouteOutcome := do
  let outcome ← orRaise claim.outcome (.validationError "AssertionError")
  if outcome.state = .completed then do
    let plan ← orRaise (store.plan? x.request.routeId)
      (.recoveryRequired "prepared Hybrid Validation is unavailable")
    raiseIf (some (sealedPlan plan) ≠ outcome.validationPlanDigest)
      (.rejected "prepared Hybrid Validation integrity failed")
    return outcome
  else return outcome

/-- An execution after its claim. -/
def proceed (store : HybridRouteStore) (x : HybridRouteExecution)
    (claim : Claim HybridRouteOutcome) :
    HybridRouteStore × Except HybridError HybridRouteOutcome :=
  if claim.created = false then (store, replay store x claim)
  else
    let concluded := service.conclude x claim.attempt
    match store.complete concluded.1 concluded.2 with
    | .ok completed => (completed, .ok concluded.1)
    | .error e => (store, .error e)

/-- The outcome of a route whose attempts are spent. -/
def exhausted (x : HybridRouteExecution) (attempt : ℕ) : HybridRouteOutcome :=
  terminal x attempt .failed "recovery_attempts_exhausted"

/-- `HybridRouteService.execute`. -/
def execute (store : HybridRouteStore) (x : HybridRouteExecution) :
    HybridRouteStore × Except HybridError HybridRouteOutcome :=
  match service.preflightRequest x with
  | .error e => (store, .error e)
  | .ok () =>
    let taken := hybridRoutes.take x.recover store.routes x.request service.policy.maxAttempts
      (exhausted x) x.now
    match taken.2 with
    | .error e => (⟨taken.1, store.prepared⟩, .error e)
    | .ok claim => service.proceed ⟨taken.1, store.prepared⟩ x claim

end HybridRouteService

end VulnLoom

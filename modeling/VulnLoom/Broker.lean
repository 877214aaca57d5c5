import VulnLoom.BoundedLoop
import VulnLoom.BrokerModels

/-!
# The tool broker

`ToolBroker.execute` for HTTP tools. The resolver and the transport are a `Network` that
answers each hop as it likes, exceptions included. One iteration of the redirect loop is
`httpHop` : it prepares a request (`prepareHop`), hands it to the transport, and judges the
response (`acceptHop`, `followHop`). It leaves the loop with what is stored, or with an
exception that escapes; every request handed over is an event of the loop.
-/

open BoundedLoop

namespace VulnLoom

/-! ## The network -/

/-- What the broker reads of an `ipaddress` address. -/
structure IpAddress where
  text : String
  isLoopback : Bool
  isLinkLocal : Bool
  isMulticast : Bool
  isUnspecified : Bool

/-- `ipaddress.ip_address`; `none` is a `ValueError`. -/
class PythonIp where
  ipAddress : String → Option IpAddress

export PythonIp (ipAddress)

/-- How the transport fails. -/
inductive SendError
  | httpPeerMismatch
  | httpResponseLimitExceeded
  | timeoutError
  /-- `OSError` or `RuntimeError` -/
  | osOrRuntimeError
  /-- any other exception -/
  | other
  deriving DecidableEq

/-- What the resolver and the transport do at the hop with the given number. -/
structure Network where
  /-- `none` when the resolver raises -/
  resolve : ℕ → String → Option (List String)
  send : ℕ → HttpWireRequest → Except SendError OfflineHttpHop

/-- A request that was handed to the transport, with its response if that was accepted. -/
structure Exchange where
  request : HttpWireRequest
  accepted : Option OfflineHttpHop

/-! ## The broker -/

structure StoredResult where
  key : String
  digest : Digest
  result : BrokerResult
  deriving DecidableEq

/-- A broker, with the implementation digests of its adapters where they have one. -/
structure ToolBroker where
  scope : Scope
  registry : List ToolRegistration
  resolver : Option Digest
  httpTransport : Option Digest
  blockedIps : List String
  allowedResolvedIps : Option (List String)
  results : List StoredResult
  deriving DecidableEq

variable [PolicyDigests] [PythonUrl] [BrokerDigests] [PythonIp]

/-- `registry.require`. -/
def ToolBroker.require (broker : ToolBroker) (toolId : String) :
    Except BrokerError ToolRegistration :=
  orRaise (broker.registry.find? fun registration => registration.toolId = toolId)
    (.rejected "tool is absent from the trusted registry")

/-- `_preflight`. -/
def ToolBroker.preflight (broker : ToolBroker) (call : BrokerCall) :
    Except BrokerError ToolRegistration := do
  let registration ← broker.require call.toolId
  raiseIf (call.task.sandboxProfileDigest ≠ canonicalDigest call.profile)
    (.rejected "TaskEnvelope is bound to another SandboxProfile")
  raiseIf (call.task.scopeId ≠ broker.scope.scopeId ∨
      call.task.scopeVersion ≠ broker.scope.version)
    (.rejected "TaskEnvelope is bound to another Scope version")
  raiseIf (call.task.engagementId ≠ broker.scope.engagementId)
    (.rejected "TaskEnvelope is bound to another Engagement")
  raiseIf (call.task.policyDigest ≠ broker.scope.policyDigest)
    (.rejected "TaskEnvelope policy digest does not match current Scope policy")
  raiseIf (call.task.toolRegistryDigest ≠ canonicalDigest broker.registry)
    (.rejected "TaskEnvelope is bound to another Tool Registry")
  raiseIf (call.toolId ∉ call.task.allowedTools ∨ call.toolId ∉ call.profile.allowedTools)
    (.rejected "tool is not allowed by both TaskEnvelope and SandboxProfile")
  raiseIf (call.profile.kind ∉ registration.allowedProfiles)
    (.rejected "tool registration does not allow this SandboxProfile kind")
  raiseIf (registration.capability ≠ .httpRequest)
    (.rejected "typed call does not match its tool registration")
  raiseIf (broker.httpTransport ≠ some registration.implementationDigest ∨
      broker.resolver ≠ some registration.implementationDigest)
    (.rejected "network adapters do not match the bound Tool Registry")
  raiseIf (call.task.workerRole ≠ .validator)
    (.rejected "typed HTTP calls are restricted to Validator Workers")
  raiseIf (registration.requiresNetwork ∧
      (call.profile.kind ≠ .validation ∨ call.profile.networkMode ≠ .targetOnly))
    (.rejected "network tool requires a target-only Validation Profile")
  raiseIf (call.task.toolCalls < 1) (.rejected "TaskEnvelope has no tool-call budget")
  return registration

/-- An address the broker does not pin. -/
def ToolBroker.forbids (broker : ToolBroker) (address : IpAddress) : Bool :=
  address.text ∈ broker.blockedIps ∨ (∃ allowed ∈ broker.allowedResolvedIps,
      address.text ∉ allowed) ∨
    address.isLoopback ∨ address.isLinkLocal ∨ address.isMulticast ∨ address.isUnspecified

/-- `_validated_addresses`. -/
def ToolBroker.validatedAddresses (broker : ToolBroker) (addresses : List String) :
    Option (List String) := do
  guard (addresses.length ≤ 32)
  let normalized ← addresses.mapM fun value => do
    let address ← ipAddress value
    guard (broker.forbids address = false)
    return address.text
  guard (normalized ≠ [])
  return normalized.dedup

/-- `sorted(normalized)[0]`. -/
def pinnedAddress (normalized : List String) : Option String :=
  (normalized.insertionSort (· ≤ ·)).head?

/-! ## One hop -/

/-- The arguments of `_store`. -/
structure StoreValues where
  status : BrokerStatus
  policyRecords : List PolicyRecord
  toolCallsUsed : ℕ
  http : Option HttpToolResult
  errorCodes : List String
  shape : status = .completed ↔ http.isSome

/-- How the loop is left : with what is stored, or by an exception. -/
abbrev HopExit :=
  Except BrokerError StoreValues

/-- The variables of the loop. -/
structure HttpProgress where
  current : String
  records : List PolicyRecord
  redirects : List RedirectRecord
  evidence : List Digest
  totalElapsed : Time
  totalBytes : ℕ
  requests : ℕ

def HttpProgress.start (call : BrokerCall) : HttpProgress :=
  ⟨call.http.url, [], [], [], 0, 0, 0⟩

/-- A result without output. -/
def HttpProgress.refuse (p : HttpProgress) (status : BrokerStatus) (errorCode : String)
    (h : status ≠ .completed := by decide) : HopExit :=
  .ok ⟨status, p.records, p.requests, none, [errorCode], by simp [h]⟩

/-- `_action`. -/
def BrokerCall.action (call : BrokerCall) (url : String) (now : Time) : ActionRequest where
  engagementId := call.task.engagementId
  targetId := some call.task.targetId
  action := call.toolId
  requestedAt := now
  repositoryUrl := none
  repositoryCommit := none
  url := some url
  testClass := some call.http.testClass
  mutatesState := call.http.method.mutatesState
  usesRealCredentials := call.http.credentialRef.isSome
  externalCallback := false
  submitsReport := false
  runsUntrustedBuild := false
  authorizationContextDigest := none

def policyRecord (action : ActionRequest) (decision : Decision) : PolicyRecord :=
  ⟨action.digest, decision.effect, decision.reasons, decision.obligations, decision.policyDigest⟩

/-- Some network grant of the profile contains a URL. -/
def SandboxProfile.grants (profile : SandboxProfile) (parsed : SplitResult) (port : ℕ) : Bool :=
  profile.networkGrants.any fun grant =>
    parsed.hostname = some grant.host ∧ port ∈ grant.ports ∧ parsed.scheme ∈ grant.schemes

/-- An iteration up to the transport : the request to hand over. -/
def prepareHop (broker : ToolBroker) (net : Network) (call : BrokerCall) (now : Time)
    (approvals : List ApprovalRequest) (p : HttpProgress) :
    Except HopExit (HttpProgress × HttpWireRequest) := do
  let action := call.action p.current now
  let decision ← orRaise (broker.scope.decide action approvals) (.error .valueError)
  let p := { p with records := p.records ++ [policyRecord action decision] }
  raiseIf (decision.effect = .approvalRequired)
    (p.refuse .approvalRequired "scope_policy_not_satisfied")
  raiseIf (decision.effect = .deny) (p.refuse .denied "scope_policy_not_satisfied")
  let parsed ← orRaise (urlsplit p.current) (.error .valueError)
  let port ← orRaise parsed.port (.error .valueError)
  let port := portOr port (if parsed.scheme = "https" then 443 else 80)
  raiseIf (call.profile.grants parsed port = false)
    (p.refuse .denied "sandbox_network_grant_not_satisfied")
  let addresses ← orRaise (net.resolve p.requests (parsed.hostname.getD ""))
    (.error .resolverError)
  raiseIf (addresses = []) (p.refuse .denied "dns_resolution_failed")
  let normalized ← orRaise (broker.validatedAddresses addresses)
    (p.refuse .denied "resolved_address_forbidden")
  let pinnedIp ← orRaise (pinnedAddress normalized) (.error .valueError)
  return ({ p with requests := p.requests + 1 }, call.http.wireRequest p.current pinnedIp)

/-- The exceptions of the transport that `_execute_http` catches. -/
def HttpProgress.sendExit (p : HttpProgress) : SendError → HopExit
  | .httpPeerMismatch => p.refuse .denied "http_peer_ip_mismatch"
  | .httpResponseLimitExceeded => p.refuse .failed "http_response_size_exceeded"
  | .timeoutError => p.refuse .timedOut "http_transport_timeout"
  | .osOrRuntimeError => p.refuse .failed "http_transport_failed"
  | .other => .error .transportError

/-- The checks of a response, up to the evidence. -/
def acceptHop (call : BrokerCall) (now : Time) (p : HttpProgress) (pinnedIp : String)
    (hop : OfflineHttpHop) : Except HopExit HttpProgress := do
  let p := { p with
    totalElapsed := p.totalElapsed + hop.elapsed
    totalBytes := p.totalBytes + hop.responseBytes }
  raiseIf (hop.peerIp ≠ pinnedIp) (p.refuse .denied "http_peer_ip_mismatch")
  raiseIf (call.http.limits.totalTime < p.totalElapsed ∨
      call.task.deadline ≤ now + p.totalElapsed)
    (p.refuse .timedOut "http_total_timeout")
  raiseIf (call.http.limits.maxResponseBytes < p.totalBytes)
    (p.refuse .failed "http_response_size_exceeded")
  return { p with evidence := p.evidence ++ [hop.evidenceRef] }

/-- A result with output. -/
def HttpProgress.complete (p : HttpProgress) (hop : OfflineHttpHop) : HopExit := do
  let output ← HttpToolResult.create hop.statusCode (urlDigest p.current) hop.peerIp
    p.totalBytes hop.responseBodySha256 p.redirects p.evidence
  return ⟨.completed, p.records, p.requests, some output, [], by simp⟩

/-- What an accepted response leads to : a result, or the next URL. -/
def followHop (call : BrokerCall) (p : HttpProgress) (hop : OfflineHttpHop) :
    Except HopExit HttpProgress :=
  match hop.location with
  | none => .error (p.complete hop)
  | some location => do
    raiseIf (call.http.credentialRef.isSome)
      (p.refuse .denied "credentialed_redirect_forbidden")
    raiseIf (call.http.followRedirects = false ∨ call.http.limits.maxRedirects ≤ p.redirects.length)
      (p.refuse .denied "http_redirect_not_allowed")
    let target ← orRaise ((PythonUrl.urljoin p.current location).bind safeUrl)
      (p.refuse .denied "http_redirect_url_invalid")
    let redirect ← (RedirectRecord.create hop.statusCode (urlDigest p.current)
      (urlDigest target) hop.peerIp).mapError Except.error
    return { p with redirects := p.redirects ++ [redirect], current := target }

/-- An iteration of the loop. -/
def httpHop (broker : ToolBroker) (net : Network) (call : BrokerCall) (now : Time)
    (approvals : List ApprovalRequest) (p : HttpProgress) :
    List Exchange × Next HttpProgress HopExit :=
  match prepareHop broker net call now approvals p with
  | .error exit => ([], .leave exit)
  | .ok (q, request) =>
    match net.send p.requests request with
    | .error e => ([⟨request, none⟩], .leave (q.sendExit e))
    | .ok hop =>
      match acceptHop call now q request.pinnedIp hop with
      | .error exit => ([⟨request, none⟩], .leave exit)
      | .ok q =>
        match followHop call q hop with
        | .error exit => ([⟨request, some hop⟩], .leave exit)
        | .ok next => ([⟨request, some hop⟩], .go next)

/-! ## The loop -/

/-- `min(limits.max_requests, budget.tool_calls)`. -/
def BrokerCall.requestBudget (call : BrokerCall) : ℕ :=
  min call.http.limits.maxRequests call.task.toolCalls

/-- `_execute_http`, on the requests that are left of the budget. -/
def executeHttp (broker : ToolBroker) (net : Network) (call : BrokerCall) (now : Time)
    (approvals : List ApprovalRequest) : List Exchange × HopExit :=
  loop (httpHop broker net call now approvals)
    (fun p => p.refuse .failed "http_request_budget_exhausted")
    call.requestBudget (HttpProgress.start call)

/-- The stored result of a key. -/
def ToolBroker.stored (broker : ToolBroker) (key : String) : Option StoredResult :=
  broker.results.find? fun entry => entry.key = key

/-- The result of a call. -/
def ToolBroker.result (broker : ToolBroker) (call : BrokerCall) (now : Time)
    (values : StoreValues) : BrokerResult where
  callId := call.callId
  taskId := call.task.taskId
  toolId := call.toolId
  status := values.status
  registryDigest := canonicalDigest broker.registry
  callDigest := brokerCallDigest call
  toolCallsUsed := values.toolCallsUsed
  policyRecords := values.policyRecords
  http := values.http
  errorCodes := values.errorCodes
  completedAt := now
  shape := values.shape

/-- `_store`. -/
def ToolBroker.store (broker : ToolBroker) (call : BrokerCall) (now : Time)
    (values : StoreValues) : ToolBroker :=
  { broker with results := broker.results.filter (fun entry => entry.key ≠ call.idempotencyKey) ++
      [⟨call.idempotencyKey, brokerCallDigest call, broker.result call now values⟩] }

/-- What an execution has done : the requests it handed over, the broker it leaves, and what it
returns. -/
structure Execution where
  exchanges : List Exchange
  broker : ToolBroker
  returned : Except BrokerError BrokerResult

/-- Store what the loop was left with, unless an exception escapes. -/
def ToolBroker.conclude (broker : ToolBroker) (call : BrokerCall) (now : Time)
    (exchanges : List Exchange) : HopExit → Execution
  | .ok values => ⟨exchanges, broker.store call now values, .ok (broker.result call now values)⟩
  | .error e => ⟨exchanges, broker, .error e⟩

/-- `execute`. -/
def ToolBroker.execute (broker : ToolBroker) (net : Network) (call : BrokerCall) (now : Time)
    (approvals : List ApprovalRequest) : Execution :=
  match broker.preflight call with
  | .error e => ⟨[], broker, .error e⟩
  | .ok registration =>
    match broker.stored call.idempotencyKey with
    | some existing =>
      if existing.digest ≠ brokerCallDigest call then
        ⟨[], broker,
          .error (.idempotencyConflict "Broker idempotency key was reused with a different call")⟩
      else ⟨[], broker, .ok existing.result⟩
    | none =>
      if call.task.deadline ≤ now then
        broker.conclude call now []
          (.ok ⟨.timedOut, [], 0, none, ["task_deadline_exceeded"], by simp⟩)
      else if call.http.credentialRef.isSome ∧ registration.acceptsCredentialRef = false then
        ⟨[], broker,
          .error (.rejected "registered tool does not accept credential references")⟩
      else
        let (exchanges, exit) := executeHttp broker net call now approvals
        broker.conclude call now exchanges exit

end VulnLoom

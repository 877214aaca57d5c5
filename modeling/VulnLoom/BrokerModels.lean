import VulnLoom.Policy

/-!
# Broker contracts

The calls of the tool broker, what it sends and what it stores. A record whose validator
can fail carries what it checks, so that a record built from checked parts needs no second
check, and `create` raises where the parts come from outside. Durations are counts of
microseconds.
-/

namespace VulnLoom

/-! ## Tools, tasks and profiles -/

inductive ToolCapability
  | httpRequest
  | tlsInspect
  deriving DecidableEq

inductive SandboxProfileKind
  | static
  | validation
  | report
  | postExploitation
  deriving DecidableEq

inductive NetworkMode
  | none
  | targetOnly
  deriving DecidableEq

inductive WorkerRole
  | scopeInterpreter
  | sourceMapper
  | hypothesis
  | analyzer
  | validator
  | critic
  | reporter
  | redTeamOperator
  deriving DecidableEq

structure ToolRegistration where
  toolId : String
  version : String
  capability : ToolCapability
  allowedProfiles : List SandboxProfileKind
  requiresNetwork : Bool
  acceptsCredentialRef : Bool
  implementationDigest : Digest
  deriving DecidableEq

structure NetworkGrant where
  host : String
  ports : List ℕ
  schemes : List String
  deriving DecidableEq

structure SandboxProfile where
  kind : SandboxProfileKind
  imageDigest : String
  /-- the object of the snapshot mount -/
  snapshotId : Option Digest
  networkMode : NetworkMode
  networkGrants : List NetworkGrant
  allowedTools : List String
  deriving DecidableEq

structure TaskEnvelope where
  taskId : UUID
  engagementId : UUID
  targetId : UUID
  targetVersion : String
  scopeId : UUID
  workerRole : WorkerRole
  scopeVersion : ℕ
  policyDigest : Digest
  sandboxProfileDigest : Digest
  toolRegistryDigest : Digest
  inputRefs : List String
  allowedTools : List String
  /-- `budget.tool_calls` -/
  toolCalls : ℕ
  deadline : Time
  deriving DecidableEq

/-! ## Request plans -/

inductive HttpMethod
  | get
  | head
  | options
  | post
  | put
  | patch
  | delete
  deriving DecidableEq

/-- `HttpMethod.mutates_state`. -/
def HttpMethod.mutatesState : HttpMethod → Bool
  | .get | .head | .options => false
  | .post | .put | .patch | .delete => true

structure HttpHeader where
  name : String
  value : String
  deriving DecidableEq

structure HttpLimits where
  connectTime : Time
  readTime : Time
  totalTime : Time
  maxResponseBytes : ℕ
  maxRedirects : ℕ
  maxRequests : ℕ
  connectTime_bounds : 0 < connectTime ∧ connectTime ≤ 30000000
  readTime_bounds : 0 < readTime ∧ readTime ≤ 60000000
  totalTime_bounds : 0 < totalTime ∧ totalTime ≤ 120000000
  maxResponseBytes_bounds : 0 < maxResponseBytes ∧ maxResponseBytes ≤ 20971520
  maxRedirects_le : maxRedirects ≤ 5
  maxRequests_bounds : 1 ≤ maxRequests ∧ maxRequests ≤ 6
  redirects_fit : maxRedirects + 1 ≤ maxRequests
  deriving DecidableEq

namespace HttpLimits

/-! The defaults pass the checks. -/

theorem connectTime_default : (0 : Time) < 3000000 ∧ (3000000 : Time) ≤ 30000000 := by decide
theorem readTime_default : (0 : Time) < 10000000 ∧ (10000000 : Time) ≤ 60000000 := by decide
theorem totalTime_default : (0 : Time) < 15000000 ∧ (15000000 : Time) ≤ 120000000 := by decide
theorem maxResponseBytes_default : 0 < 2097152 ∧ 2097152 ≤ 20971520 := by decide
theorem maxRedirects_default : 0 ≤ 5 := by decide
theorem maxRequests_default : 1 ≤ 1 ∧ 1 ≤ 6 := by decide
theorem redirects_default : 0 + 1 ≤ 1 := by decide

end HttpLimits

/-- A character under `re.IGNORECASE`, where four letters fold to ASCII ones. -/
def foldCase (c : Char) : Char :=
  if c = '\u017f' then 's' else if c = '\u212a' then 'k'
  else if c = '\u0130' ∨ c = '\u0131' then 'i' else c.toLower

/-- The alternatives of `sensitive_query`. -/
def sensitiveWords : List String :=
  ["token", "secret", "password", "passwd", "apikey", "api-key", "api_key", "auth", "session",
    "cookie"]

/-- `sensitive_query.search(name)`. -/
def sensitiveQuery (name : String) : Bool :=
  sensitiveWords.any fun word => word.toList <:+: name.toList.map foldCase

/-- `HttpRequestPlan.safe_url` : the canonical form of a URL, or a `ValueError`. -/
def safeUrl [PythonUrl] (value : String) : Option String := do
  guard (¬value.toList.any fun c => c.toNat ≤ 32 ∨ c = '\\')
  let parsed ← urlsplit value
  guard (lower parsed.scheme ∈ ["http", "https"] ∧ truthy parsed.hostname ∧
    ¬truthy parsed.username ∧ ¬truthy parsed.password ∧ parsed.fragment = "")
  let query ← PythonUrl.parseQsl parsed.query
  guard (¬query.any fun item => sensitiveQuery item.1)
  let host := lower (parsed.hostname.getD "")
  let port ← parsed.port
  let netloc := if ':' ∈ host.toList then "[" ++ host ++ "]" else host
  let netloc := match port with
    | some port => netloc ++ ":" ++ toString port
    | none => netloc
  return PythonUrl.urlunsplit (lower parsed.scheme) netloc
    (if parsed.path = "" then "/" else parsed.path) parsed.query ""

/-- What the validators of `HttpRequestPlan` and `HttpWireRequest` check of a body. -/
structure HttpBodyOk (method : HttpMethod) (headers : List HttpHeader) (bodyRef : Option Digest)
    (bodyBytes : ℕ) : Prop where
  bodyBytes_le : bodyBytes ≤ 20971520
  together : bodyRef = none ↔ bodyBytes = 0
  readOnly : method.mutatesState = false → bodyRef = none
  headers_le : headers.length ≤ 64
  names : (headers.map HttpHeader.name).Nodup

/-- A GET has no body. -/
theorem HttpBodyOk.get : HttpBodyOk .get [] none 0 :=
  ⟨by decide, by simp, fun _ => rfl, by decide, by simp⟩

section

variable [PythonUrl]

structure HttpRequestPlan where
  method : HttpMethod
  url : String
  testClass : String
  headers : List HttpHeader
  credentialRef : Option Digest
  bodyRef : Option Digest
  bodyBytes : ℕ
  followRedirects : Bool
  limits : HttpLimits
  url_safe : ∃ value, safeUrl value = some url
  body : HttpBodyOk method headers bodyRef bodyBytes
  redirects_readOnly : method.mutatesState = true → followRedirects = false
  redirects_limit : followRedirects = decide (0 < limits.maxRedirects)
  deriving DecidableEq

/-- A call of an HTTP tool. -/
structure BrokerCall where
  callId : UUID
  task : TaskEnvelope
  profile : SandboxProfile
  toolId : String
  http : HttpRequestPlan
  idempotencyKey : String

end

/-! ## On the wire -/

structure HttpWireRequest where
  method : HttpMethod
  url : String
  pinnedIp : String
  headers : List HttpHeader
  credentialRef : Option Digest
  bodyRef : Option Digest
  bodyBytes : ℕ
  connectTime : Time
  readTime : Time
  maxResponseBytes : ℕ
  body : HttpBodyOk method headers bodyRef bodyBytes
  connectTime_bounds : 0 < connectTime ∧ connectTime ≤ 30000000
  readTime_bounds : 0 < readTime ∧ readTime ≤ 60000000
  maxResponseBytes_bounds : 0 < maxResponseBytes ∧ maxResponseBytes ≤ 20971520

/-- The request of a plan for one hop. -/
def HttpRequestPlan.wireRequest [PythonUrl] (plan : HttpRequestPlan) (url pinnedIp : String) :
    HttpWireRequest where
  method := plan.method
  url := url
  pinnedIp := pinnedIp
  headers := plan.headers
  credentialRef := plan.credentialRef
  bodyRef := plan.bodyRef
  bodyBytes := plan.bodyBytes
  connectTime := plan.limits.connectTime
  readTime := plan.limits.readTime
  maxResponseBytes := plan.limits.maxResponseBytes
  body := plan.body
  connectTime_bounds := plan.limits.connectTime_bounds
  readTime_bounds := plan.limits.readTime_bounds
  maxResponseBytes_bounds := plan.limits.maxResponseBytes_bounds

def redirectStatuses : List ℕ :=
  [301, 302, 303, 307, 308]

/-- A response of the transport. -/
structure OfflineHttpHop where
  statusCode : ℕ
  peerIp : String
  responseBytes : ℕ
  responseBodySha256 : Digest
  evidenceRef : Digest
  elapsed : Time
  location : Option String
  statusCode_bounds : 100 ≤ statusCode ∧ statusCode ≤ 599
  peerIp_nonempty : peerIp ≠ ""
  location_length : ∀ url ∈ location, url.length ≤ 2048
  redirect_shape : statusCode ∈ redirectStatuses ↔ location.isSome
  deriving DecidableEq

/-! ## Results -/

structure PolicyRecord where
  actionDigest : Digest
  effect : DecisionEffect
  reasons : List String
  obligations : List String
  policyDigest : Digest
  deriving DecidableEq

/-- The exceptions of the broker. -/
inductive BrokerError
  /-- `BrokerRejected` -/
  | rejected (message : String)
  /-- `BrokerIdempotencyConflict` -/
  | idempotencyConflict (message : String)
  /-- pydantic's `ValidationError` -/
  | validationError
  /-- a `ValueError` of `urllib.parse` -/
  | valueError
  /-- what the resolver raised -/
  | resolverError
  /-- what the transport raised, when `execute` does not catch it -/
  | transportError
  deriving DecidableEq

structure RedirectRecord where
  statusCode : ℕ
  fromUrlDigest : Digest
  toUrlDigest : Digest
  peerIp : String
  statusCode_bounds : 300 ≤ statusCode ∧ statusCode ≤ 399
  peerIp_nonempty : peerIp ≠ ""
  deriving DecidableEq

def RedirectRecord.create (statusCode : ℕ) (fromUrlDigest toUrlDigest : Digest)
    (peerIp : String) : Except BrokerError RedirectRecord :=
  if h : (300 ≤ statusCode ∧ statusCode ≤ 399) ∧ peerIp ≠ "" then
    .ok ⟨statusCode, fromUrlDigest, toUrlDigest, peerIp, h.1, h.2⟩
  else .error .validationError

structure HttpToolResult where
  statusCode : ℕ
  finalUrlDigest : Digest
  peerIp : String
  responseBytes : ℕ
  responseBodySha256 : Digest
  redirects : List RedirectRecord
  evidenceRefs : List Digest
  statusCode_bounds : 100 ≤ statusCode ∧ statusCode ≤ 599
  peerIp_nonempty : peerIp ≠ ""
  deriving DecidableEq

def HttpToolResult.create (statusCode : ℕ) (finalUrlDigest : Digest) (peerIp : String)
    (responseBytes : ℕ) (responseBodySha256 : Digest) (redirects : List RedirectRecord)
    (evidenceRefs : List Digest) : Except BrokerError HttpToolResult :=
  if h : (100 ≤ statusCode ∧ statusCode ≤ 599) ∧ peerIp ≠ "" then
    .ok ⟨statusCode, finalUrlDigest, peerIp, responseBytes, responseBodySha256, redirects,
      evidenceRefs, h.1, h.2⟩
  else .error .validationError

inductive BrokerStatus
  | completed
  | denied
  | approvalRequired
  | timedOut
  | failed
  deriving DecidableEq

structure BrokerResult where
  callId : UUID
  taskId : UUID
  toolId : String
  status : BrokerStatus
  registryDigest : Digest
  callDigest : Digest
  toolCallsUsed : ℕ
  policyRecords : List PolicyRecord
  http : Option HttpToolResult
  errorCodes : List String
  completedAt : Time
  shape : status = .completed ↔ http.isSome
  deriving DecidableEq

/-! ## Digests -/

class BrokerDigests [PythonUrl] where
  registry : CanonicalDigest (List ToolRegistration)
  profile : CanonicalDigest SandboxProfile
  call : CanonicalDigest BrokerCall
  /-- `url_digest` -/
  urlDigest : String → Digest

attribute [reducible, instance] BrokerDigests.registry BrokerDigests.profile BrokerDigests.call

export BrokerDigests (urlDigest)

/-- `broker_call_digest`, which leaves the identifier out. -/
def brokerCallDigest [PythonUrl] [BrokerDigests] (call : BrokerCall) : Digest :=
  canonicalDigest { call with callId := "" }

end VulnLoom

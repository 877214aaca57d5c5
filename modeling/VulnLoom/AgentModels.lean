import VulnLoom.AgentContext

/-!
# Plans, outcomes and observations of agents

The records that the agent services exchange. A record with a validator carries what the
validator checks, and its `create` raises where the parts come from outside. The cleanup reports
are left out : every record that has one asks that all of its flags be set.
-/

namespace VulnLoom.AgentRuntime

/-! ## Registrations and limits -/

structure AgentModelRegistration where
  registrationId : Digest
  providerId : String
  model : String
  supportedRoles : List WorkerRole
  maxOutputTokens : ℕ
  maxOutputTokens_bounds : 0 < maxOutputTokens ∧ maxOutputTokens ≤ 65536
  deriving DecidableEq

@[ext]
structure AgentRunLimits where
  maxSteps : ℕ
  maxOutputTokensPerStep : ℕ
  timeoutSeconds : ℚ
  maxSteps_bounds : 1 ≤ maxSteps ∧ maxSteps ≤ 8
  maxOutputTokensPerStep_bounds : 0 < maxOutputTokensPerStep ∧ maxOutputTokensPerStep ≤ 65536
  timeoutSeconds_bounds : 0 < timeoutSeconds ∧ timeoutSeconds ≤ 600

instance : DecidableEq AgentRunLimits := fun _ _ => decidable_of_iff _ AgentRunLimits.ext_iff.symm

/-- The constructor of limits, with its checks. -/
def AgentRunLimits.create (maxSteps maxOutputTokensPerStep : ℕ) (timeoutSeconds : ℚ) :
    Except AgentError AgentRunLimits :=
  if h : (1 ≤ maxSteps ∧ maxSteps ≤ 8) ∧
      (0 < maxOutputTokensPerStep ∧ maxOutputTokensPerStep ≤ 65536) ∧
      (0 < timeoutSeconds ∧ timeoutSeconds ≤ 600) then
    .ok ⟨maxSteps, maxOutputTokensPerStep, timeoutSeconds, h.1, h.2.1, h.2.2⟩
  else .error .validationError

/-! ## Run plans -/

/-- What the validator of `AgentRunPlan` checks of the authorized calls. -/
@[mk_iff]
structure AuthorizedCallsOk (task : AgentTask) (callSetId : Option Digest)
    (commitments : List Digest) : Prop where
  together : callSetId = none ↔ commitments = []
  length_le : commitments.length ≤ 8
  sorted : commitments = sortedSet commitments
  validator : commitments ≠ [] →
    task.workerRole = .validator ∧ task.toolCalls = 1 ∧ task.allowedTools ≠ []

instance (task : AgentTask) (callSetId : Option Digest) (commitments : List Digest) :
    Decidable (AuthorizedCallsOk task callSetId commitments) :=
  decidable_of_iff' _ (authorizedCallsOk_iff task callSetId commitments)

@[ext]
structure AgentRunPlan where
  task : AgentTask
  modelRegistrationId : Digest
  modelRegistrationDigest : Digest
  contextSnapshotId : Option Digest
  authorizedCallSetId : Option Digest
  authorizedCallCommitments : List Digest
  limits : AgentRunLimits
  createdAt : Time
  deadline : Time
  idempotencyKey : String
  window : createdAt < deadline
  authorized : AuthorizedCallsOk task authorizedCallSetId authorizedCallCommitments

instance : DecidableEq AgentRunPlan := fun _ _ => decidable_of_iff _ AgentRunPlan.ext_iff.symm

/-! ## Tool intents and run outcomes -/

inductive WorkingDirectory
  | source
  | output
  | temp
  deriving DecidableEq

structure ToolInvocation where
  toolId : String
  arguments : List String
  workingDirectory : WorkingDirectory

structure AgentToolIntent where
  toolId : String
  invocationDigest : Digest
  argumentDigests : List Digest
  workingDirectory : WorkingDirectory
  deriving DecidableEq

inductive AgentRunStatus
  | toolProposed
  | completed
  | blocked
  | failed
  | timedOut
  deriving DecidableEq

/-- `terminal_shape_and_cleanup` : what an outcome has by its status. -/
def OutcomeShape (status : AgentRunStatus) (toolIntent : Option AgentToolIntent)
    (summaryDigest : Option Digest) (errorCodes : List String) : Prop :=
  match status with
  | .toolProposed => toolIntent ≠ none ∧ summaryDigest = none ∧ errorCodes = []
  | .completed | .blocked => toolIntent = none ∧ summaryDigest ≠ none ∧ errorCodes = []
  | .failed | .timedOut => toolIntent = none ∧ summaryDigest = none ∧ errorCodes ≠ []

instance (status : AgentRunStatus) (toolIntent : Option AgentToolIntent)
    (summaryDigest : Option Digest) (errorCodes : List String) :
    Decidable (OutcomeShape status toolIntent summaryDigest errorCodes) := by
  unfold OutcomeShape
  split <;> infer_instance

@[ext]
structure AgentRunOutcome where
  planId : Digest
  taskId : UUID
  modelRegistrationId : Digest
  status : AgentRunStatus
  steps : ℕ
  inputTokens : ℕ
  outputTokens : ℕ
  toolIntent : Option AgentToolIntent
  summaryDigest : Option Digest
  supportingRefDigests : List Digest
  errorCodes : List String
  completedAt : Time
  steps_bounds : 1 ≤ steps ∧ steps ≤ 8
  supporting_sorted : supportingRefDigests = sortedSet supportingRefDigests
  shape : OutcomeShape status toolIntent summaryDigest errorCodes

instance : DecidableEq AgentRunOutcome := fun _ _ => decidable_of_iff _ AgentRunOutcome.ext_iff.symm

/-- The tokens of a run. -/
def AgentRunOutcome.tokens (outcome : AgentRunOutcome) : ℕ :=
  outcome.inputTokens + outcome.outputTokens

/-! ## Observations -/

@[ext]
structure AgentToolObservation where
  handoffId : Digest
  taskId : UUID
  targetId : UUID
  targetVersion : String
  scopeId : UUID
  scopeVersion : ℕ
  toolId : String
  brokerResultDigest : Digest
  statusCode : ℕ
  finalUrlDigest : Digest
  responseBytes : ℕ
  responseBodySha256 : Digest
  evidenceRefs : List Digest
  observedAt : Time
  statusCode_bounds : 100 ≤ statusCode ∧ statusCode ≤ 599
  responseBytes_le : responseBytes ≤ 20971520
  evidenceRefs_sorted : evidenceRefs = sortedSet evidenceRefs
  evidenceRefs_bounds : 1 ≤ evidenceRefs.length ∧ evidenceRefs.length ≤ 64

instance : DecidableEq AgentToolObservation :=
  fun _ _ => decidable_of_iff _ AgentToolObservation.ext_iff.symm

inductive AgentToolHandoffStatus
  | completed
  | denied
  | approvalRequired
  | timedOut
  | failed
  deriving DecidableEq

/-- `AgentToolHandoffStatus(status.value)`. -/
def AgentToolHandoffStatus.ofBroker : BrokerStatus → AgentToolHandoffStatus
  | .completed => .completed
  | .denied => .denied
  | .approvalRequired => .approvalRequired
  | .timedOut => .timedOut
  | .failed => .failed

/-! ## Digests -/

class AgentDigests [PythonUnicode] [PythonAlnum] extends AgentContextDigests where
  registration : CanonicalDigest AgentModelRegistration
  runPlan : CanonicalDigest AgentRunPlan
  runOutcome : CanonicalDigest AgentRunOutcome
  invocation : CanonicalDigest ToolInvocation
  observation : CanonicalDigest AgentToolObservation
  brokerResult : CanonicalDigest BrokerResult

attribute [reducible, instance] AgentDigests.registration AgentDigests.runPlan
  AgentDigests.runOutcome AgentDigests.invocation AgentDigests.observation
  AgentDigests.brokerResult

section

variable [PythonUnicode] [PythonAlnum] [AgentDigests]

def AgentRunPlan.planId (plan : AgentRunPlan) : Digest :=
  canonicalDigest plan

def AgentToolObservation.observationId (observation : AgentToolObservation) : Digest :=
  canonicalDigest observation

def AgentRunPlan.create (task : AgentTask) (registration : AgentModelRegistration)
    (limits : AgentRunLimits) (createdAt deadline : Time) (idempotencyKey : String)
    (contextSnapshot : Option AgentContextSnapshot) (authorizedCallSetId : Option Digest)
    (authorizedCallCommitments : List Digest) : Except AgentError AgentRunPlan := do
  raiseIf (task.workerRole ∉ registration.supportedRoles) (.valueError
    "Agent model registration does not support the Worker role")
  raiseIf (task.modelTokens = 0) (.valueError
    "Agent task requires a positive model token budget")
  raiseIf (registration.maxOutputTokens < limits.maxOutputTokensPerStep) (.valueError
    "Agent step output limit exceeds the model registration")
  contextSnapshot.elim (pure ()) fun snapshot => snapshot.assertForTask task
  if h : createdAt < deadline ∧ AuthorizedCallsOk task authorizedCallSetId
      (sortedSet authorizedCallCommitments) then
    return {
      task := task
      modelRegistrationId := registration.registrationId
      modelRegistrationDigest := canonicalDigest registration
      contextSnapshotId := contextSnapshot.map AgentContextSnapshot.snapshotId
      authorizedCallSetId := authorizedCallSetId
      authorizedCallCommitments := sortedSet authorizedCallCommitments
      limits := limits
      createdAt := createdAt
      deadline := deadline
      idempotencyKey := idempotencyKey
      window := h.1
      authorized := h.2 }
  else
    throw .validationError

/-- `terminal_shape` : what ties an observation to the result it is of. -/
def ObservationOf (handoffId : Digest) (result : BrokerResult)
    (observation : AgentToolObservation) : Prop :=
  observation.handoffId = handoffId ∧ observation.taskId = result.taskId ∧
    observation.toolId = result.toolId ∧
    observation.brokerResultDigest = canonicalDigest result ∧
    ∃ http, result.http = some http ∧ observation.statusCode = http.statusCode ∧
      observation.finalUrlDigest = http.finalUrlDigest ∧
      observation.responseBytes = http.responseBytes ∧
      observation.responseBodySha256 = http.responseBodySha256 ∧
      observation.evidenceRefs = sortedSet http.evidenceRefs

instance (handoffId : Digest) (result : BrokerResult) (observation : AgentToolObservation) :
    Decidable (ObservationOf handoffId result observation) :=
  match h : result.http with
  | none => isFalse fun ⟨_, _, _, _, http, hhttp, _⟩ => by
      rw [h] at hhttp
      cases hhttp
  | some http => decidable_of_iff (observation.handoffId = handoffId ∧
      observation.taskId = result.taskId ∧ observation.toolId = result.toolId ∧
      observation.brokerResultDigest = canonicalDigest result ∧
      observation.statusCode = http.statusCode ∧
      observation.finalUrlDigest = http.finalUrlDigest ∧
      observation.responseBytes = http.responseBytes ∧
      observation.responseBodySha256 = http.responseBodySha256 ∧
      observation.evidenceRefs = sortedSet http.evidenceRefs)
    ⟨fun ⟨a, b, c, d, rest⟩ => ⟨a, b, c, d, http, h, rest⟩, fun ⟨a, b, c, d, _, hhttp, rest⟩ =>
      ⟨a, b, c, d, Option.some.inj (h.symm.trans hhttp) ▸ rest⟩⟩

@[ext]
structure AgentToolHandoffOutcome where
  handoffId : Digest
  agentPlanId : Digest
  agentOutcomeDigest : Digest
  brokerCallDigest : Digest
  attempt : ℕ
  status : AgentToolHandoffStatus
  brokerResult : BrokerResult
  observation : Option AgentToolObservation
  completedAt : Time
  attempt_bounds : 1 ≤ attempt ∧ attempt ≤ 2
  status_eq : status = .ofBroker brokerResult.status
  observed : status = .completed ↔ observation ≠ none
  observation_of : ∀ seen ∈ observation, ObservationOf handoffId brokerResult seen
  call_bound : brokerResult.callDigest = brokerCallDigest

instance : DecidableEq AgentToolHandoffOutcome :=
  fun _ _ => decidable_of_iff _ AgentToolHandoffOutcome.ext_iff.symm

end

/-! ## What an observation reads to -/

/-- How pydantic writes an instant in JSON. -/
class PythonDatetime where
  isoformat : Time → String

/-- A hexadecimal digit. -/
def hexDigit (n : ℕ) : Char :=
  "0123456789abcdef".toList.getD n '0'

/-- A character of a string of `json.dumps` with `ensure_ascii=False`. -/
def jsonEscape (c : Char) : List Char :=
  if c = '"' then ['\\', '"'] else if c = '\\' then ['\\', '\\']
  else if c = '\n' then ['\\', 'n'] else if c = '\r' then ['\\', 'r']
  else if c = '\t' then ['\\', 't'] else if c.toNat = 8 then ['\\', 'b']
  else if c.toNat = 12 then ['\\', 'f']
  else if c.toNat < 32 then ['\\', 'u', '0', '0', hexDigit (c.toNat / 16), hexDigit (c.toNat % 16)]
  else [c]

def jsonString (s : String) : List Char :=
  '"' :: s.toList.flatMap jsonEscape ++ ['"']

/-- A list, or the members of an object, without blanks. -/
def jsonItems (items : List (List Char)) : List Char :=
  [','].intercalate items

def jsonObject (members : List (String × List Char)) : List Char :=
  '\x7b' :: jsonItems (members.map fun m => jsonString m.1 ++ ':' :: m.2) ++ ['\x7d']

def jsonArray (items : List (List Char)) : List Char :=
  '[' :: jsonItems items ++ [']']

def jsonNumber (n : ℕ) : List Char :=
  Nat.toDigits 10 n

section

variable [PythonUnicode] [PythonAlnum] [AgentDigests] [PythonDatetime]

/-- The members of an observation, by their sorted names. -/
def AgentToolObservation.members (observation : AgentToolObservation) :
    List (String × List Char) :=
  [("broker_result_digest", jsonString observation.brokerResultDigest),
    ("evidence_refs", jsonArray (observation.evidenceRefs.map jsonString)),
    ("final_url_digest", jsonString observation.finalUrlDigest),
    ("handoff_id", jsonString observation.handoffId),
    ("observation_id", jsonString observation.observationId),
    ("observed_at", jsonString (PythonDatetime.isoformat observation.observedAt)),
    ("response_body_sha256", jsonString observation.responseBodySha256),
    ("response_bytes", jsonNumber observation.responseBytes),
    ("scope_id", jsonString observation.scopeId),
    ("scope_version", jsonNumber observation.scopeVersion),
    ("status_code", jsonNumber observation.statusCode),
    ("target_id", jsonString observation.targetId),
    ("target_version", jsonString observation.targetVersion),
    ("task_id", jsonString observation.taskId),
    ("tool_id", jsonString observation.toolId)]

/-- `json.dumps` of an observation. -/
def AgentToolObservation.dumps (observation : AgentToolObservation) : String :=
  String.ofList (jsonObject observation.members)

/-- The SHA-256 of a text. -/
class EvidenceDigest where
  sha256 : String → Digest

variable [EvidenceDigest]

/-- The objects by their name. An object that is not UTF-8 cannot be read either, so it counts
as missing. -/
structure EvidenceStore where
  objects : Digest → Option String
  maxEvidenceBytes : ℕ

/-- `read_text_ref`. -/
def EvidenceStore.readTextRef (store : EvidenceStore) (evidenceRef : Digest) :
    Except AgentError String := do
  let data ← orRaise (store.objects evidenceRef) (.valueError
    "Evidence object is unavailable or unsafe")
  raiseIf (store.maxEvidenceBytes < data.utf8ByteSize ∨
    EvidenceDigest.sha256 data ≠ evidenceRef) (.valueError "Evidence integrity check failed")
  return data

/-- The source of an evidence. -/
def evidenceSource (store : EvidenceStore) (evidenceRef : Digest) :
    Except AgentError AgentContextSource := do
  let text ← store.readTextRef evidenceRef
  return ⟨"evidence:" ++ evidenceRef, .evidenceSummary, text⟩

def agentObservationContextSources (store : EvidenceStore) (observation : AgentToolObservation) :
    Except AgentError (List AgentContextSource) := do
  let evidence ← (observation.evidenceRefs.mapM (evidenceSource store)).mapError fun _ =>
    .rejected "Agent continuation Evidence is unavailable or unsafe"
  return ⟨"agent-observation:" ++ observation.observationId, .observationSummary,
    observation.dumps⟩ :: evidence

/-- `agent_continuation_input_refs`. -/
def agentContinuationInputRefs (observation : AgentToolObservation) : List String :=
  ("agent-observation:" ++ observation.observationId) ::
    observation.evidenceRefs.map ("evidence:" ++ ·)

end

end VulnLoom.AgentRuntime

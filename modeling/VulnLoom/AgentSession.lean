import VulnLoom.AgentContinuation
import VulnLoom.Broker

/-!
# Sessions

`AgentSessionService.prepare` plans the second tool round of an agent from the observation of the
first, with the calls that it may propose, and `_preflight` checks the plan again before it is
executed. A session has two tool rounds and three turns of the provider, so of its limits only
the number of calls is kept.
-/

namespace VulnLoom.AgentRuntime

/-! ## Budgets -/

/-- The fields of a ledger, before its validator. -/
structure AgentSessionUsage where
  originalModelTokens : ℕ
  originalToolCalls : ℕ
  consumedModelTokens : ℕ
  remainingModelTokens : ℤ
  consumedAgentSteps : ℕ
  consumedToolCalls : ℕ
  remainingToolCalls : ℤ
  providerAttempts : ℕ
  brokerAttempts : ℕ
  remainingWallSeconds : ℕ

/-- What `AgentSessionBudgetLedger` checks. -/
def AgentSessionUsage.Exact (usage : AgentSessionUsage) : Prop :=
  0 < usage.originalModelTokens ∧ usage.originalToolCalls = 2 ∧
    (1 ≤ usage.consumedAgentSteps ∧ usage.consumedAgentSteps ≤ 24) ∧
    (1 ≤ usage.consumedToolCalls ∧ usage.consumedToolCalls ≤ 2) ∧
    (1 ≤ usage.providerAttempts ∧ usage.providerAttempts ≤ 3) ∧
    (1 ≤ usage.brokerAttempts ∧ usage.brokerAttempts ≤ 3) ∧
    usage.remainingWallSeconds ≤ 86400 ∧
    (0 ≤ usage.remainingModelTokens ∧
      usage.remainingModelTokens = usage.originalModelTokens - usage.consumedModelTokens) ∧
    (0 ≤ usage.remainingToolCalls ∧
      usage.remainingToolCalls = usage.originalToolCalls - usage.consumedToolCalls)

instance (usage : AgentSessionUsage) : Decidable usage.Exact :=
  inferInstanceAs (Decidable (_ ∧ _))

structure AgentSessionBudgetLedger extends AgentSessionUsage where
  isExact : toAgentSessionUsage.Exact

def AgentSessionBudgetLedger.create (usage : AgentSessionUsage) :
    Except AgentError AgentSessionBudgetLedger :=
  if h : usage.Exact then .ok ⟨usage, h⟩ else .error .validationError

/-! ## Authorized calls -/

section

variable [PythonUrl]

/-- A call of the broker, with the whole envelope of its task. -/
structure AgentBrokerCall where
  callId : UUID
  task : AgentTask
  profile : SandboxProfile
  toolId : String
  http : HttpRequestPlan
  idempotencyKey : String
  deriving DecidableEq

/-- The call as the broker reads it. -/
def AgentBrokerCall.toBrokerCall (call : AgentBrokerCall) : BrokerCall where
  callId := call.callId
  task := call.task.toTaskEnvelope
  profile := call.profile
  toolId := call.toolId
  http := call.http
  idempotencyKey := call.idempotencyKey

/-- What `agent_broker_call_commitment` is the digest of. -/
structure BrokerCallCommitment where
  task : AgentTask
  profile : SandboxProfile
  toolId : String
  http : HttpRequestPlan

/-- `http.method in {GET, HEAD, OPTIONS}`. -/
def ReadOnly (http : HttpRequestPlan) : Prop :=
  http.method ∈ [HttpMethod.get, .head, .options]

instance (http : HttpRequestPlan) : Decidable (ReadOnly http) :=
  inferInstanceAs (Decidable (_ ∈ _))

/-- A read-only call, before it has a task. -/
structure AgentSessionCallTemplate where
  profile : SandboxProfile
  toolId : String
  http : HttpRequestPlan
  idempotencyKey : String
  readOnly : ReadOnly http

class AgentCallDigests where
  agentCall : CanonicalDigest AgentBrokerCall
  commitment : CanonicalDigest BrokerCallCommitment
  template : CanonicalDigest AgentSessionCallTemplate

attribute [reducible, instance] AgentCallDigests.agentCall AgentCallDigests.commitment
  AgentCallDigests.template

variable [AgentCallDigests]

/-- `agent_broker_call_commitment`. -/
def AgentBrokerCall.commitment (call : AgentBrokerCall) : Digest :=
  canonicalDigest (⟨call.task, call.profile, call.toolId, call.http⟩ : BrokerCallCommitment)

/-- `broker_call_digest`, which leaves the identifier out. -/
def AgentBrokerCall.digest (call : AgentBrokerCall) : Digest :=
  canonicalDigest { call with callId := "" }

structure AgentAuthorizedCallOption where
  brokerCall : AgentBrokerCall
  readOnly : ReadOnly brokerCall.http
  deriving DecidableEq

/-- `call_commitment` -/
def AgentAuthorizedCallOption.commitment (option : AgentAuthorizedCallOption) : Digest :=
  option.brokerCall.commitment

variable [PythonUnicode] [PythonAlnum] [AgentDigests]

/-- `agent_tool_intent_for_broker_call`. -/
def agentToolIntentForBrokerCall (call : AgentBrokerCall) : AgentToolIntent where
  toolId := call.toolId
  invocationDigest := canonicalDigest
    (⟨call.toolId, [call.commitment], .source⟩ : ToolInvocation)
  argumentDigests := [canonicalDigest call.commitment]
  workingDirectory := .source

structure AgentAuthorizedCallSet where
  taskId : UUID
  taskDigest : Digest
  options : List AgentAuthorizedCallOption
  options_bounds : 1 ≤ options.length ∧ options.length ≤ 8
  sorted : options.map AgentAuthorizedCallOption.commitment =
    sortedSet (options.map AgentAuthorizedCallOption.commitment)
  bound : ∀ option ∈ options, option.brokerCall.task.taskId = taskId ∧
    canonicalDigest option.brokerCall.task = taskDigest
  deriving DecidableEq

/-- The option that a template becomes with a task; `callId` is the identifier of the call. -/
def AgentSessionCallTemplate.option (template : AgentSessionCallTemplate) (task : AgentTask)
    (callId : UUID) : AgentAuthorizedCallOption where
  brokerCall := ⟨callId, task, template.profile, template.toolId, template.http,
    template.idempotencyKey⟩
  readOnly := template.readOnly

/-- `AgentAuthorizedCallSet.create`; `callIds` are the fresh identifiers of the calls. -/
def AgentAuthorizedCallSet.create (task : AgentTask) (templates : List AgentSessionCallTemplate)
    (callIds : ℕ → UUID) : Except AgentError AgentAuthorizedCallSet :=
  let options := templates.mapIdx fun i template => template.option task (callIds i)
  let ordered := Table.orderBy AgentAuthorizedCallOption.commitment options
  if h : (1 ≤ ordered.length ∧ ordered.length ≤ 8) ∧
      ordered.map AgentAuthorizedCallOption.commitment =
        sortedSet (ordered.map AgentAuthorizedCallOption.commitment) ∧
      ∀ option ∈ ordered, option.brokerCall.task.taskId = task.taskId ∧
        canonicalDigest option.brokerCall.task = canonicalDigest task then
    .ok ⟨task.taskId, canonicalDigest task, ordered, h.1, h.2.1, h.2.2⟩
  else .error .validationError

/-- `authorized_call_commitments` -/
def AgentAuthorizedCallSet.commitments (callSet : AgentAuthorizedCallSet) : List Digest :=
  callSet.options.map AgentAuthorizedCallOption.commitment

class AgentSessionDigests where
  callSet : CanonicalDigest AgentAuthorizedCallSet

attribute [reducible, instance] AgentSessionDigests.callSet

variable [AgentSessionDigests]

/-! ## Plans -/

/-- The fields of a session plan, before its validator. -/
structure AgentSessionFields where
  rootPlan : AgentRunPlan
  rootOutcome : AgentRunOutcome
  firstHandoffOutcome : AgentToolHandoffOutcome
  observation : AgentToolObservation
  contextSnapshot : AgentContextSnapshot
  roundPlan : AgentRunPlan
  authorizedCalls : AgentAuthorizedCallSet
  budget : AgentSessionBudgetLedger
  /-- `limits.max_authorized_calls_per_round` -/
  maxAuthorizedCalls : ℕ
  createdAt : Time
  deadline : Time
  idempotencyKey : String

namespace AgentSessionFields

variable (fields : AgentSessionFields)

/-- The plan follows one completed tool round of a validator. -/
def Follows : Prop :=
  fields.rootPlan.task.workerRole = .validator ∧ fields.rootOutcome.status = .toolProposed ∧
    fields.rootOutcome.planId = fields.rootPlan.planId ∧
    fields.firstHandoffOutcome.status = .completed ∧
    fields.firstHandoffOutcome.observation = some fields.observation ∧
    fields.firstHandoffOutcome.agentPlanId = fields.rootPlan.planId ∧
    fields.firstHandoffOutcome.agentOutcomeDigest = canonicalDigest fields.rootOutcome ∧
    fields.observation.IsFor fields.rootPlan.task

/-- The round is bound to the observation and to the authorized calls. -/
def RoundBound : Prop :=
  fields.roundPlan.task.inputRefs = agentContinuationInputRefs fields.observation ∧
    fields.roundPlan.task.toolCalls = 1 ∧
    fields.authorizedCalls.taskId = fields.roundPlan.task.taskId ∧
    fields.authorizedCalls.taskDigest = canonicalDigest fields.roundPlan.task ∧
    fields.roundPlan.authorizedCallSetId = some (canonicalDigest fields.authorizedCalls) ∧
    fields.roundPlan.authorizedCallCommitments = fields.authorizedCalls.commitments

/-- The calls are authorized and do not repeat the first round. -/
def CallsAllowed : Prop :=
  ∀ option ∈ fields.authorizedCalls.options,
    option.brokerCall.toolId ∈ fields.roundPlan.task.allowedTools ∧
      some (agentToolIntentForBrokerCall option.brokerCall) ≠ fields.rootOutcome.toolIntent

/-- The budget is what is left of the task's. -/
def Budgeted : Prop :=
  fields.budget.originalModelTokens = fields.rootPlan.task.modelTokens ∧
    fields.budget.originalToolCalls = fields.rootPlan.task.toolCalls ∧
    fields.budget.consumedModelTokens = fields.rootOutcome.tokens ∧
    fields.budget.remainingModelTokens = fields.roundPlan.task.modelTokens ∧
    fields.budget.consumedAgentSteps = fields.rootOutcome.steps ∧
    fields.budget.consumedToolCalls = fields.firstHandoffOutcome.brokerResult.toolCallsUsed ∧
    1 ≤ fields.budget.remainingToolCalls ∧ fields.budget.providerAttempts = 1 ∧
    fields.budget.brokerAttempts = 1 ∧
    fields.roundPlan.task.wallSeconds = fields.budget.remainingWallSeconds

/-- The run of the round is bound to the root plan. -/
def RunBound : Prop :=
  fields.roundPlan.modelRegistrationId = fields.rootPlan.modelRegistrationId ∧
    fields.roundPlan.modelRegistrationDigest = fields.rootPlan.modelRegistrationDigest ∧
    fields.roundPlan.limits.maxSteps = 1 ∧
    fields.roundPlan.contextSnapshotId = some fields.contextSnapshot.snapshotId ∧
    fields.roundPlan.deadline = min fields.rootPlan.deadline fields.rootPlan.task.deadline ∧
    fields.deadline = min fields.rootPlan.deadline fields.rootPlan.task.deadline ∧
    fields.createdAt = fields.roundPlan.createdAt ∧
    fields.authorizedCalls.options.length ≤ fields.maxAuthorizedCalls ∧
    fields.createdAt < fields.deadline

/-- `sealed_session`. -/
def Sealed : Prop :=
  fields.Follows ∧ fields.roundPlan.task.Inherits fields.rootPlan.task ∧ fields.RoundBound ∧
    fields.CallsAllowed ∧ fields.Budgeted ∧ fields.RunBound ∧
    fields.contextSnapshot.IsFor fields.roundPlan.task ∧ '\x00' ∉ fields.idempotencyKey.toList

instance : Decidable fields.Follows :=
  inferInstanceAs (Decidable (_ ∧ _))

instance : Decidable fields.RoundBound :=
  inferInstanceAs (Decidable (_ ∧ _))

instance : Decidable fields.CallsAllowed :=
  inferInstanceAs (Decidable (∀ option ∈ _, _))

instance : Decidable fields.Budgeted :=
  inferInstanceAs (Decidable (_ ∧ _))

instance : Decidable fields.RunBound :=
  inferInstanceAs (Decidable (_ ∧ _))

instance : Decidable fields.Sealed :=
  inferInstanceAs (Decidable (_ ∧ _))

end AgentSessionFields

structure AgentSessionPlan extends AgentSessionFields where
  isSealed : toAgentSessionFields.Sealed

def AgentSessionPlan.create (fields : AgentSessionFields) : Except AgentError AgentSessionPlan :=
  if h : fields.Sealed then .ok ⟨fields, h⟩ else .error .validationError

/-! ## The service -/

structure AgentSessionService where
  rootAgentStore : List AgentRunRow
  handoffStore : List HandoffRow
  /-- `round_runtime.registration` -/
  registration : AgentModelRegistration
  /-- `round_handoff_service.broker` -/
  broker : ToolBroker
  evidenceStore : EvidenceStore
  contextAssembler : AgentContextAssembler

/-- What the caller of `prepare` chooses. -/
structure AgentSessionRequest where
  rootPlan : AgentRunPlan
  firstHandoffId : Digest
  callTemplates : List AgentSessionCallTemplate
  now : Time
  idempotencyKey : String
  roundRunKey : String
  contextLimits : AgentContextLimits
  maxAuthorizedCalls : ℕ
  roundTaskId : UUID
  maxAuthorizedCalls_bounds : 1 ≤ maxAuthorizedCalls ∧ maxAuthorizedCalls ≤ 8

namespace AgentSessionService

variable [PolicyDigests] [BrokerDigests] [PythonDatetime] [EvidenceDigest] [AgentContextJson]
  (service : AgentSessionService)

/-- `_authoritative_inputs`. -/
def inputs (rootPlan : AgentRunPlan) (firstHandoffId : Digest) :
    Except AgentError (AgentRunOutcome × AgentToolHandoffOutcome × AgentToolObservation) :=
  authoritativeInputs service.rootAgentStore service.handoffStore rootPlan firstHandoffId
    (.rejected "Agent session requires authoritative completed inputs")
    (.rejected "Agent session inputs are not one completed tool feedback chain")

/-- `broker.validate_call`, for each option. -/
def validateCalls (callSet : AgentAuthorizedCallSet) (message : String) :
    Except AgentError Unit := do
  let _ ← (callSet.options.mapM fun option =>
    service.broker.preflight option.brokerCall.toBrokerCall).mapError fun _ =>
      AgentError.rejected message
  return

/-- The task of the second round, with what is left of the budget of the root task. -/
def roundTask (root : AgentTask) (observation : AgentToolObservation) (roundTaskId : UUID)
    (allowedTools : List String) (idempotencyKey : String) (modelTokens wallSeconds : ℕ)
    (h : 0 < wallSeconds ∧ wallSeconds ≤ 86400) : AgentTask where
  taskId := roundTaskId
  engagementId := root.engagementId
  targetId := root.targetId
  targetVersion := root.targetVersion
  scopeId := root.scopeId
  workerRole := .validator
  scopeVersion := root.scopeVersion
  policyDigest := root.policyDigest
  sandboxProfileDigest := root.sandboxProfileDigest
  toolRegistryDigest := root.toolRegistryDigest
  inputRefs := agentContinuationInputRefs observation
  allowedTools := allowedTools
  toolCalls := 1
  deadline := root.deadline
  wallSeconds := wallSeconds
  modelTokens := modelTokens
  idempotencyKey := idempotencyKey ++ ":round-2-task"
  wallSeconds_bounds := h

/-- `AgentSessionService.prepare` : the plan, and the store with its snapshot. -/
def prepare (contexts : AgentContextStore) (clock : ℕ → ℚ) (callIds : ℕ → UUID)
    (request : AgentSessionRequest) :
    Except AgentError (AgentSessionPlan × AgentContextStore) := do
  let root := request.rootPlan
  let (rootOutcome, firstHandoff, observation) ← service.inputs root request.firstHandoffId
  raiseIf (request.callTemplates = []) (.rejected
    "Agent session requires an authorized call set")
  raiseIf (request.maxAuthorizedCalls < request.callTemplates.length) (.rejected
    "Agent session authorized call set is too large")
  raiseIf (¬(request.callTemplates.map canonicalDigest).Nodup) (.rejected
    "Agent session call templates must be unique")
  let deadline := min root.deadline root.task.deadline
  let remainingTokens := root.task.modelTokens - rootOutcome.tokens
  if hwall : 0 < AgentContinuationService.remainingWall root request.now then
    raiseIf (deadline ≤ request.now) (.timedOut "Agent session deadline expired")
    raiseIf (root.task.modelTokens ≤ rootOutcome.tokens) (.rejected
      "Agent session model budget is exhausted")
    raiseIf (root.task.toolCalls ≠ 2 ∨ firstHandoff.brokerResult.toolCallsUsed ≠ 1) (.rejected
      "Agent session requires exactly one remaining tool round")
    let task := roundTask root.task observation request.roundTaskId
      (sortedSet (request.callTemplates.map AgentSessionCallTemplate.toolId))
      request.idempotencyKey remainingTokens
      (AgentContinuationService.remainingWall root request.now)
      ⟨hwall, AgentContinuationService.remainingWall_le root request.now⟩
    let authorizedCalls ← AgentAuthorizedCallSet.create task request.callTemplates callIds
    raiseIf (∃ option ∈ authorizedCalls.options,
      some (agentToolIntentForBrokerCall option.brokerCall) = rootOutcome.toolIntent) (.rejected
      "Agent session cannot repeat the first tool commitment")
    service.validateCalls authorizedCalls "Agent session authorized call failed Broker preflight"
    let (snapshot, contexts) ← (do
      let sources ← agentObservationContextSources service.evidenceStore observation
      let snapshot ← service.contextAssembler.assemble request.contextLimits clock task sources
        request.now deadline
      let contexts ← contexts.publish snapshot
      return (snapshot, contexts)).mapError fun _ =>
        .rejected "Agent session context materialization failed"
    let runLimits ← AgentRunLimits.create 1
      (min root.limits.maxOutputTokensPerStep remainingTokens)
      (min root.limits.timeoutSeconds (AgentContinuationService.remainingWall root request.now))
    let roundPlan ← AgentRunPlan.create task service.registration runLimits request.now deadline
      request.roundRunKey (some snapshot) (some (canonicalDigest authorizedCalls))
      authorizedCalls.commitments
    let budget ← AgentSessionBudgetLedger.create {
      originalModelTokens := root.task.modelTokens
      originalToolCalls := root.task.toolCalls
      consumedModelTokens := rootOutcome.tokens
      remainingModelTokens := remainingTokens
      consumedAgentSteps := rootOutcome.steps
      consumedToolCalls := firstHandoff.brokerResult.toolCallsUsed
      remainingToolCalls := root.task.toolCalls - firstHandoff.brokerResult.toolCallsUsed
      providerAttempts := 1
      brokerAttempts := 1
      remainingWallSeconds := AgentContinuationService.remainingWall root request.now }
    let plan ← AgentSessionPlan.create {
      rootPlan := root
      rootOutcome := rootOutcome
      firstHandoffOutcome := firstHandoff
      observation := observation
      contextSnapshot := snapshot
      roundPlan := roundPlan
      authorizedCalls := authorizedCalls
      budget := budget
      maxAuthorizedCalls := request.maxAuthorizedCalls
      createdAt := request.now
      deadline := deadline
      idempotencyKey := request.idempotencyKey }
    return (plan, contexts)
  else
    throw (.timedOut "Agent session deadline expired")

/-- The assembly of a preflight. -/
def reassemble (clock : ℕ → ℚ) (plan : AgentSessionPlan) :
    Except AgentError AgentContextSnapshot := do
  let sources ← agentObservationContextSources service.evidenceStore plan.observation
  service.contextAssembler.assemble plan.contextSnapshot.limits clock plan.roundPlan.task sources
    plan.contextSnapshot.assembledAt plan.deadline

/-- `AgentSessionService._preflight`. -/
def preflight (contexts : AgentContextStore) (clock : ℕ → ℚ) (plan : AgentSessionPlan)
    (now : Time) : Except AgentError AgentSessionPlan := do
  raiseIf (now < plan.createdAt ∨ plan.deadline ≤ now) (.timedOut
    "Agent session is outside its wall budget")
  let (rootOutcome, firstHandoff, _) ←
    service.inputs plan.rootPlan plan.firstHandoffOutcome.handoffId
  raiseIf (rootOutcome ≠ plan.rootOutcome ∨ firstHandoff ≠ plan.firstHandoffOutcome) (.rejected
    "Agent session authoritative checkpoint binding mismatch")
  raiseIf (service.registration.registrationId ≠ plan.roundPlan.modelRegistrationId ∨
    canonicalDigest service.registration ≠ plan.roundPlan.modelRegistrationDigest) (.rejected
    "Agent session model registration binding mismatch")
  let (stored, expected) ← (do
    let stored ← contexts.read plan.contextSnapshot.snapshotId
    let expected ← service.reassemble clock plan
    return (stored, expected)).mapError fun _ =>
      .rejected "Agent session context revalidation failed"
  raiseIf (stored ≠ plan.contextSnapshot ∨ expected ≠ plan.contextSnapshot) (.rejected
    "Agent session context snapshot drifted")
  service.validateCalls plan.authorizedCalls
    "Agent session authorized call failed Broker revalidation"
  return plan

end AgentSessionService

end

end VulnLoom.AgentRuntime

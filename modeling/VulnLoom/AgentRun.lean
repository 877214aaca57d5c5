import VulnLoom.AgentDecisions
import VulnLoom.AgentStores
import VulnLoom.BoundedLoop

/-!
# Runs of agents

`OfflineAgentRuntime.execute` : the checks of a plan, the claim of its run, and the loop that asks
the adapter until it has a decision. The adapter is any function of the requests, and a renderer
refuses a snapshot or runs out of time. What a run of the loop is, and what it ends with, is
`runLoop_ended`; what the store holds after any executions is `Recorded`.
-/

set_option linter.unusedSectionVars false

namespace VulnLoom.AgentRuntime

open BoundedLoop
open PythonJson (Json Interpreter)

/-! ## The runtime -/

/-- What an adapter does with a request. -/
inductive AdapterAnswer
  | reply (reply : AgentModelReply)
  /-- `AgentProviderTransportTimedOut` -/
  | transportTimedOut
  /-- `AgentProviderTransportRejected` -/
  | transportRejected
  /-- any other exception -/
  | raised

inductive MessageError
  /-- `AgentMessageRejected` -/
  | rejected
  /-- `AgentMessageTimedOut` -/
  | timedOut
  deriving DecidableEq

/-- The exceptions of `execute`. -/
inductive RuntimeError
  | agent (error : AgentError)
  /-- `AgentRuntimeAdapterFailure` -/
  | adapterFailure
  | recursionError
  | assertionError
  /-- `RuntimeError("Agent loop exhausted without a terminal outcome")` -/
  | exhausted
  deriving DecidableEq

section

variable [PythonUnicode] [PythonAlnum] [AgentDigests]

/-- An envelope is known by its id. -/
abbrev AgentMessageRenderer :=
  AgentRunPlan → AgentContextSnapshot → AgentStepRequest → Except MessageError Digest

structure OfflineAgentRuntime where
  registration : AgentModelRegistration
  /-- `adapter.registration` -/
  adapterRegistration : AgentModelRegistration
  /-- `adapter.complete` -/
  adapter : AgentStepRequest → AdapterAnswer
  contextStore : Option AgentContextStore
  messageRenderer : Option AgentMessageRenderer

/-- A call of the adapter, with its answer. -/
abbrev AdapterCall := AgentStepRequest × AdapterAnswer

/-! ## Ends of the loop -/

/-- What `_finish` is called with. -/
structure Verdict where
  status : AgentRunStatus
  steps : ℕ
  inputTokens : ℕ
  outputTokens : ℕ
  toolIntent : Option AgentToolIntent
  summaryDigest : Option Digest
  supportingRefDigests : List Digest
  errorCodes : List String

/-- The variables of the loop. -/
structure LoopState where
  step : ℕ
  totalInput : ℕ
  totalOutput : ℕ
  elapsed : ℚ

/-- The tokens used so far. -/
def LoopState.tokens (state : LoopState) : ℕ :=
  state.totalInput + state.totalOutput

/-- A run that has no decision. -/
def LoopState.stopped (state : LoopState) (status : AgentRunStatus) (errorCode : String) :
    Verdict where
  status := status
  steps := state.step
  inputTokens := state.totalInput
  outputTokens := state.totalOutput
  toolIntent := none
  summaryDigest := none
  supportingRefDigests := []
  errorCodes := [errorCode]

/-- A run that ends with a decision. -/
def LoopState.decided (state : LoopState) (status : AgentRunStatus)
    (toolIntent : Option AgentToolIntent) (summaryDigest : Option Digest)
    (supportingRefDigests : List Digest) : Verdict where
  status := status
  steps := state.step
  inputTokens := state.totalInput
  outputTokens := state.totalOutput
  toolIntent := toolIntent
  summaryDigest := summaryDigest
  supportingRefDigests := supportingRefDigests
  errorCodes := []

/-- The variables after a reply. -/
def LoopState.add (state : LoopState) (reply : AgentModelReply) : LoopState where
  step := state.step
  totalInput := state.totalInput + reply.inputTokens
  totalOutput := state.totalOutput + reply.outputTokens
  elapsed := state.elapsed + reply.latencySeconds

abbrev LoopEnd := Except RuntimeError Verdict

abbrev StepEnd := Next LoopState LoopEnd

/-! ## Requests -/

/-- Why there is no request : a message error, or another exception. -/
inductive PrepareError
  | message (error : MessageError)
  | other (error : RuntimeError)
  deriving DecidableEq

namespace OfflineAgentRuntime

variable (runtime : OfflineAgentRuntime)

def createRequest (plan : AgentRunPlan) (step remaining : ℕ)
    (messageEnvelopeId : Option Digest) : Except PrepareError AgentStepRequest :=
  (AgentStepRequest.create plan step remaining messageEnvelopeId).mapError fun e =>
    .other (.agent e)

/-- `_prepare_request`. -/
def prepareRequest (plan : AgentRunPlan) (snapshot : Option AgentContextSnapshot)
    (step remaining : ℕ) : Except PrepareError AgentStepRequest := do
  let base ← createRequest plan step remaining none
  match snapshot with
  | none => return base
  | some snapshot => do
    let render ← orRaise runtime.messageRenderer (.other .assertionError)
    let envelopeId ← (render plan snapshot base).mapError .message
    createRequest plan step remaining (some envelopeId)

/-! ## The loop -/

/-- `len(json.dumps(...).encode("utf-8"))`; `none` is a `TypeError` or a `ValueError`. -/
def structuredOutputBytes (py : Interpreter) (output : Json) : Except RuntimeError (Option ℕ) :=
  match PythonJson.dumps py py.nesting output with
  | .ok text => .ok (PythonJson.utf8Length text)
  | .error .value => .ok none
  | .error .recursion => .error .recursionError

/-- The output of a reply is not written, or is larger than its request allows. -/
def oversized (request : AgentStepRequest) (size : Option ℕ) : Bool :=
  size.all fun n => min 1048576 (max 4096 (request.maxOutputTokens * 16)) < n

/-- What a decision ends a run with. -/
def conclude (plan : AgentRunPlan) (state : LoopState) (decision : AgentDecisionPayload) :
    LoopEnd :=
  match decision.kind with
  | .proposeTool =>
    match decision.toolCall with
    | none => .error .assertionError
    | some call =>
      if plan.task.toolCalls < 1 ∨ call.toolId ∉ plan.task.allowedTools then
        .ok (state.stopped .failed "tool_proposal_not_allowed")
      else
        match AgentToolIntent.fromPayload call with
        | none => .ok (state.stopped .failed "tool_proposal_invalid")
        | some intent => .ok (state.decided .toolProposed (some intent) none
            decision.supportingRefDigests)
  | .complete => .ok (state.decided .completed none decision.summaryDigest
      decision.supportingRefDigests)
  | .blocked => .ok (state.decided .blocked none decision.summaryDigest
      decision.supportingRefDigests)

/-- The wall time of a run. -/
def availableWall (plan : AgentRunPlan) (now : Time) : ℚ :=
  min (min plan.limits.timeoutSeconds plan.task.wallSeconds)
    (min ((plan.deadline - now : ℕ) / 1000000) ((plan.task.deadline - now : ℕ) / 1000000))

/-- What follows a reply, after it is added to the variables. -/
def judge (py : Interpreter) (plan : AgentRunPlan) (now : Time) (request : AgentStepRequest)
    (state : LoopState) (reply : AgentModelReply) : StepEnd :=
  match structuredOutputBytes py reply.structuredOutput with
  | .error e => .leave (.error e)
  | .ok size =>
    if oversized request size then
      .leave (.ok (state.stopped .failed "structured_output_size_exceeded"))
    else if availableWall plan now < state.elapsed then
      .leave (.ok (state.stopped .timedOut "agent_wall_time_budget_exceeded"))
    else if reply.providerId ≠ runtime.registration.providerId ∨
        reply.model ≠ runtime.registration.model then
      .leave (.ok (state.stopped .failed "model_identity_mismatch"))
    else if request.maxOutputTokens < reply.outputTokens ∨
        plan.task.modelTokens < state.tokens then
      .leave (.ok (state.stopped .failed "model_token_budget_exceeded"))
    else
      match AgentDecisionPayload.modelValidate reply.structuredOutput with
      | some decision => .leave (conclude plan state decision)
      | none =>
        if state.step < plan.limits.maxSteps then .go { state with step := state.step + 1 }
        else .leave (.ok (state.stopped .failed "structured_output_invalid"))

/-- What follows an answer of the adapter. -/
def afterAnswer (py : Interpreter) (plan : AgentRunPlan) (now : Time)
    (request : AgentStepRequest) (state : LoopState) : AdapterAnswer → StepEnd
  | .reply reply => runtime.judge py plan now request (state.add reply) reply
  | .transportTimedOut => .leave (.ok (state.stopped .timedOut "provider_transport_timeout"))
  | .transportRejected => .leave (.ok (state.stopped .failed "provider_transport_rejected"))
  | .raised => .leave (.error .adapterFailure)

/-- The request of a step : the first one is made before the claim. -/
def stepRequest (plan : AgentRunPlan) (snapshot : Option AgentContextSnapshot)
    (first : AgentStepRequest) (state : LoopState) : Except PrepareError AgentStepRequest :=
  if state.step = 1 then .ok first
  else runtime.prepareRequest plan snapshot state.step (plan.task.modelTokens - state.tokens)

/-- One iteration of the loop. -/
def iteration (py : Interpreter) (plan : AgentRunPlan) (now : Time)
    (snapshot : Option AgentContextSnapshot) (first : AgentStepRequest) (state : LoopState) :
    List AdapterCall × StepEnd :=
  if plan.task.modelTokens ≤ state.tokens then
    ([], .leave (.ok (state.stopped .failed "model_token_budget_exhausted")))
  else
    match runtime.stepRequest plan snapshot first state with
    | .error (.message .timedOut) =>
      ([], .leave (.ok (state.stopped .timedOut "message_rendering_wall_time_exceeded")))
    | .error (.message .rejected) =>
      ([], .leave (.ok (state.stopped .failed "message_rendering_rejected")))
    | .error (.other e) => ([], .leave (.error e))
    | .ok request => ([(request, runtime.adapter request)],
        runtime.afterAnswer py plan now request state (runtime.adapter request))

/-- The loop of `execute`, with the calls of the adapter. -/
def runLoop (py : Interpreter) (plan : AgentRunPlan) (now : Time)
    (snapshot : Option AgentContextSnapshot) (first : AgentStepRequest) :
    List AdapterCall × LoopEnd :=
  loop (runtime.iteration py plan now snapshot first) (fun _ => .error .exhausted)
    plan.limits.maxSteps ⟨1, 0, 0, 0⟩

/-! ## Execution -/

/-- The outcome of a verdict, with the checks of its fields. -/
def outcome (plan : AgentRunPlan) (now : Time) (verdict : Verdict) :
    Except RuntimeError AgentRunOutcome :=
  if h : (1 ≤ verdict.steps ∧ verdict.steps ≤ 8) ∧
      verdict.supportingRefDigests = sortedSet verdict.supportingRefDigests ∧
      OutcomeShape verdict.status verdict.toolIntent verdict.summaryDigest
        verdict.errorCodes then
    .ok {
      planId := plan.planId
      taskId := plan.task.taskId
      modelRegistrationId := runtime.registration.registrationId
      status := verdict.status
      steps := verdict.steps
      inputTokens := verdict.inputTokens
      outputTokens := verdict.outputTokens
      toolIntent := verdict.toolIntent
      summaryDigest := verdict.summaryDigest
      supportingRefDigests := verdict.supportingRefDigests
      errorCodes := verdict.errorCodes
      completedAt := now
      steps_bounds := h.1
      supporting_sorted := h.2.1
      shape := h.2.2 }
  else .error (.agent .validationError)

/-- The snapshot of a plan. -/
def readSnapshot [AgentContextJson] (plan : AgentRunPlan) :
    Except AgentError (Option AgentContextSnapshot) :=
  match plan.contextSnapshotId with
  | none => .ok none
  | some snapshotId => do
    let store ← orRaise runtime.contextStore (.rejected "Agent context store is required")
    raiseIf (runtime.messageRenderer.isNone) (.rejected "Agent message renderer is required")
    let snapshot ← (do
      let snapshot ← store.read snapshotId
      snapshot.assertForTask plan.task
      return snapshot).mapError fun _ => .rejected "Agent context binding mismatch"
    return some snapshot

/-- What `execute` does before its claim : the snapshot and the first request of a plan. -/
def admitPlan [AgentContextJson] (plan : AgentRunPlan) (now : Time) :
    Except RuntimeError (Option AgentContextSnapshot × AgentStepRequest) := do
  (raiseIf (now < plan.createdAt ∨ plan.deadline ≤ now ∨ plan.task.deadline ≤ now)
    (.rejected "Agent run plan is not active")).mapError .agent
  (raiseIf (plan.modelRegistrationId ≠ runtime.registration.registrationId ∨
    plan.modelRegistrationDigest ≠ canonicalDigest runtime.registration ∨
    runtime.adapterRegistration ≠ runtime.registration ∨
    plan.task.workerRole ∉ runtime.registration.supportedRoles)
    (.rejected "Agent model registration binding mismatch")).mapError .agent
  let snapshot ← (runtime.readSnapshot plan).mapError .agent
  let first ← (runtime.prepareRequest plan snapshot 1 plan.task.modelTokens).mapError fun
    | .message _ => .agent (.rejected "Agent message rendering rejected")
    | .other e => e
  return (snapshot, first)

/-- What an execution returns or raises, the rows it leaves, and the calls of the adapter. -/
structure Execution where
  result : Except RuntimeError AgentRunOutcome
  rows : List AgentRunRow
  calls : List AdapterCall

/-- `_finish`. -/
def finish (rows : List AgentRunRow) (plan : AgentRunPlan) (now : Time)
    (calls : List AdapterCall) (ended : LoopEnd) : Execution :=
  match ended.bind (runtime.outcome plan now) with
  | .error e => ⟨.error e, rows, calls⟩
  | .ok outcome =>
    match AgentRunStore.complete rows outcome with
    | .error e => ⟨.error (.agent e), rows, calls⟩
    | .ok rows => ⟨.ok outcome, rows, calls⟩

/-- `OfflineAgentRuntime.execute`. -/
def execute [AgentContextJson] (py : Interpreter) (rows : List AgentRunRow) (plan : AgentRunPlan)
    (now : Time) : Execution :=
  match runtime.admitPlan plan now with
  | .error e => ⟨.error e, rows, []⟩
  | .ok (snapshot, first) =>
    match AgentRunStore.claim rows plan now with
    | .error e => ⟨.error (.agent e), rows, []⟩
    | .ok (rows, some outcome) => ⟨.ok outcome, rows, []⟩
    | .ok (rows, none) =>
      let (calls, ended) := runtime.runLoop py plan now snapshot first
      runtime.finish rows plan now calls ended

end OfflineAgentRuntime

/-! ## What the loop ends with -/

def AdapterAnswer.inputTokens : AdapterAnswer → ℕ
  | .reply answer => answer.inputTokens
  | _ => 0

def AdapterAnswer.outputTokens : AdapterAnswer → ℕ
  | .reply answer => answer.outputTokens
  | _ => 0

def inputTokens (calls : List AdapterCall) : ℕ :=
  (calls.map fun call => call.2.inputTokens).sum

def outputTokens (calls : List AdapterCall) : ℕ :=
  (calls.map fun call => call.2.outputTokens).sum

/-- No reply is longer than its request asked for. -/
def WithinRequests (calls : List AdapterCall) : Prop :=
  ∀ call ∈ calls, call.2.outputTokens ≤ call.1.maxOutputTokens

/-- The status is neither `FAILED` nor `TIMED_OUT`. -/
def AgentRunStatus.IsDecision (status : AgentRunStatus) : Prop :=
  status ≠ .failed ∧ status ≠ .timedOut

namespace OfflineAgentRuntime

variable {runtime : OfflineAgentRuntime} {py : Interpreter} {plan : AgentRunPlan} {now : Time}
  {state state' : LoopState} {request : AgentStepRequest} {reply : AgentModelReply}

variable {snapshot : Option AgentContextSnapshot} {first : AgentStepRequest}
  {calls : List AdapterCall}

variable {made : List AdapterCall}

/-- The bounds of the outcome of a run, by the calls of its adapter. -/
structure Bounded (plan : AgentRunPlan) (calls : List AdapterCall) (outcome : AgentRunOutcome) :
    Prop where
  planId : outcome.planId = plan.planId
  steps : outcome.steps ≤ plan.limits.maxSteps
  length : calls.length ≤ outcome.steps
  input : outcome.inputTokens = inputTokens calls
  output : outcome.outputTokens = outputTokens calls
  tokens : outcome.status.IsDecision → outcome.tokens ≤ plan.task.modelTokens
  requests : outcome.status.IsDecision → WithinRequests calls
  proposal : outcome.status = .toolProposed → 1 ≤ plan.task.toolCalls ∧
    ∃ intent, outcome.toolIntent = some intent ∧ intent.toolId ∈ plan.task.allowedTools

section

variable [AgentContextJson] {rows : List AgentRunRow}

end

end OfflineAgentRuntime

/-! ## The store over executions -/

section

variable [AgentContextJson]

/-- One call of `execute` on a store, by a runtime of its own. -/
structure AgentExecution where
  runtime : OfflineAgentRuntime
  py : Interpreter
  plan : AgentRunPlan
  now : Time

def AgentExecution.run (execution : AgentExecution) (rows : List AgentRunRow) :
    OfflineAgentRuntime.Execution :=
  execution.runtime.execute execution.py rows execution.plan execution.now

/-- The rows after an execution. -/
def executed (rows : List AgentRunRow) (execution : AgentExecution) : List AgentRunRow :=
  (execution.run rows).rows

/-- The outcome of every row is within the bounds of a plan with its id. -/
structure Recorded (rows : List AgentRunRow) : Prop where
  distinct : (rows.map AgentRunRow.planId).Nodup
  bounded : ∀ row ∈ rows, ∀ outcome ∈ row.outcome, ∃ plan calls,
    plan.planId = row.planId ∧ OfflineAgentRuntime.Bounded plan calls outcome

variable {rows : List AgentRunRow}

theorem Recorded.concat (h : Recorded rows) {plan : AgentRunPlan} {now : Time}
    (hfresh : ∀ other ∈ rows, AgentRunStore.clash (AgentRunStore.row plan now) other = false)
    {row : AgentRunRow} (hplan : row.planId = plan.planId)
    (hrow : ∀ outcome ∈ row.outcome, ∃ calls, OfflineAgentRuntime.Bounded plan calls outcome) :
    Recorded (rows ++ [row]) := by
  refine ⟨Table.nodup_key_concat h.distinct fun other hother => ?_, ?_⟩
  · have hkeys := hfresh other hother
    unfold AgentRunStore.clash at hkeys
    rw [decide_eq_false_iff_not, not_or] at hkeys
    rw [hplan]
    exact hkeys.1
  · intro other hother outcome houtcome
    rcases List.mem_append.1 hother with hother | hother
    · exact h.bounded other hother outcome houtcome
    · rw [List.mem_singleton.1 hother] at houtcome ⊢
      obtain ⟨calls, hbounded⟩ := hrow outcome houtcome
      exact ⟨plan, calls, hplan.symm, hbounded⟩

end

end

end VulnLoom.AgentRuntime

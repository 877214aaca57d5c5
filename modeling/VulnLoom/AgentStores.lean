import VulnLoom.AgentModels

/-!
# The stores of runs and handoffs

Checkpoints of agent runs and of the handoffs of their tool proposals. A JSON column is the
record it encodes.
-/

namespace VulnLoom.AgentRuntime

variable [PythonUnicode] [PythonAlnum] [AgentDigests]

inductive CheckpointState
  | started
  | completed
  deriving DecidableEq

/-! ## Runs -/

/-- A row of `agent_runs`. -/
structure AgentRunRow where
  planId : Digest
  idempotencyKey : String
  state : CheckpointState
  startedAt : Time
  completedAt : Option Time
  outcome : Option AgentRunOutcome

namespace AgentRunStore

/-- The keys of `agent_runs`. -/
def clash (a b : AgentRunRow) : Bool :=
  a.planId = b.planId ∨ a.idempotencyKey = b.idempotencyKey

/-- The row a claim inserts. -/
def row (plan : AgentRunPlan) (now : Time) : AgentRunRow where
  planId := plan.planId
  idempotencyKey := plan.idempotencyKey
  state := .started
  startedAt := now
  completedAt := none
  outcome := none

/-- `AgentRunStore.claim` : a new row, or the outcome of the one that is there. -/
def claim (rows : List AgentRunRow) (plan : AgentRunPlan) (now : Time) :
    Except AgentError (List AgentRunRow × Option AgentRunOutcome) :=
  match Table.insert clash rows (row plan now) with
  | some rows' => .ok (rows', none)
  | none => do
    let row ← orRaise (rows.find? fun row =>
      row.planId = plan.planId ∨ row.idempotencyKey = plan.idempotencyKey)
      (.conflict "UNIQUE constraint failed")
    raiseIf (row.planId ≠ plan.planId) (.conflict
      "Agent run idempotency key was reused for different content")
    raiseIf (row.state = .started) (.recoveryRequired
      "Agent run has an unfinished STARTED checkpoint")
    let outcome ← orRaise row.outcome .validationError
    return (rows, some outcome)

/-- The row that a completion closes. -/
def awaits (outcome : AgentRunOutcome) (row : AgentRunRow) : Bool :=
  row.planId = outcome.planId ∧ row.state = .started

def closed (outcome : AgentRunOutcome) (row : AgentRunRow) : AgentRunRow :=
  { row with
    state := .completed
    completedAt := some outcome.completedAt
    outcome := some outcome }

/-- `AgentRunStore.complete`. -/
def complete (rows : List AgentRunRow) (outcome : AgentRunOutcome) :
    Except AgentError (List AgentRunRow) := do
  raiseIf (Table.rowcount (awaits outcome) rows ≠ 1) (.recoveryRequired
    "Agent run STARTED checkpoint is unavailable")
  return Table.update (awaits outcome) (closed outcome) rows

/-- `AgentRunStore.require_completed`. -/
def requireCompleted (rows : List AgentRunRow) (plan : AgentRunPlan) :
    Except AgentError AgentRunOutcome := do
  let row ← orRaise (rows.find? fun row => row.planId = plan.planId) (.recoveryRequired
    "Agent run does not have an authoritative completed checkpoint")
  raiseIf (row.state ≠ .completed) (.recoveryRequired
    "Agent run does not have an authoritative completed checkpoint")
  let outcome ← orRaise row.outcome (.recoveryRequired
    "Agent run does not have an authoritative completed checkpoint")
  raiseIf (outcome.planId ≠ plan.planId ∨ outcome.taskId ≠ plan.task.taskId) (.recoveryRequired
    "Agent run checkpoint binding mismatch")
  return outcome

variable {rows rows' : List AgentRunRow} {plan : AgentRunPlan} {now : Time}
  {outcome : AgentRunOutcome}

end AgentRunStore

/-! ## Handoffs -/

/-- A row of `agent_tool_handoffs`. -/
structure HandoffRow where
  handoffId : Digest
  idempotencyKey : String
  agentOutcomeDigest : Digest
  attempt : ℕ
  previousHandoffId : Option Digest
  state : CheckpointState
  status : Option AgentToolHandoffStatus
  startedAt : Time
  completedAt : Option Time
  outcome : Option AgentToolHandoffOutcome

namespace AgentToolHandoffStore

/-- `AgentToolHandoffStore.require_completed`. -/
def requireCompleted (rows : List HandoffRow) (handoffId : Digest) :
    Except AgentError AgentToolHandoffOutcome := do
  let row ← orRaise (rows.find? fun row => row.handoffId = handoffId) (.recoveryRequired
    "Agent handoff does not have an authoritative completed checkpoint")
  raiseIf (row.state ≠ .completed) (.recoveryRequired
    "Agent handoff does not have an authoritative completed checkpoint")
  let outcome ← orRaise row.outcome (.recoveryRequired
    "Agent handoff does not have an authoritative completed checkpoint")
  raiseIf (outcome.handoffId ≠ handoffId ∨ outcome.agentOutcomeDigest ≠ row.agentOutcomeDigest ∨
    outcome.attempt ≠ row.attempt ∨ some outcome.status ≠ row.status) (.recoveryRequired
    "Agent handoff checkpoint binding mismatch")
  return outcome

theorem requireCompleted_handoffId {rows : List HandoffRow} {handoffId : Digest}
    {outcome : AgentToolHandoffOutcome} (h : requireCompleted rows handoffId = .ok outcome) :
    outcome.handoffId = handoffId := by
  simp only [requireCompleted, bind_eq_ok, raiseIf_eq_ok, pure_eq_ok, not_or, ne_eq,
    not_not] at h
  obtain ⟨_, -, _, -, _, -, _, ⟨hid, -⟩, rfl⟩ := h
  exact hid

end AgentToolHandoffStore

end VulnLoom.AgentRuntime

import VulnLoom.Basic
import VulnLoom.Table

/-!
# The tool handoff store

Checkpoints of the dispatch of an agent's tool proposal to the broker. A plan carries the
agent plan, the broker call and their commitments by digest. The keys of the table are the
handoff and the idempotency key; that an agent outcome has one first attempt and one retry is
left to what a claim reads before it inserts (`checkPrior`).
-/

namespace VulnLoom

/-! ## Records -/

inductive AgentToolHandoffStatus
  | completed
  | denied
  | approvalRequired
  | timedOut
  | failed
  deriving DecidableEq

inductive AgentToolHandoffState
  | started
  | completed
  deriving DecidableEq

structure AgentToolHandoffPlan where
  agentPlanDigest : Digest
  agentOutcomeDigest : Digest
  brokerCallDigest : Digest
  callCommitment : Digest
  expectedIntentInvocationDigest : Digest
  attempt : ℕ
  previousHandoffId : Option Digest
  createdAt : Time
  deadline : Time
  idempotencyKey : String
  attempt_bounds : 1 ≤ attempt ∧ attempt ≤ 2
  window : createdAt < deadline
  retry_shape : attempt = 1 ↔ previousHandoffId = none

structure AgentToolHandoffOutcome where
  handoffId : Digest
  agentPlanId : Digest
  agentOutcomeDigest : Digest
  brokerCallDigest : Digest
  attempt : ℕ
  status : AgentToolHandoffStatus
  completedAt : Time

/-- An exception of the handoff store. -/
inductive AgentToolHandoffError
  | idempotencyConflict (reason : String)
  | recoveryRequired (reason : String)
  | retryRejected (reason : String)
  | integrityError
  | validationError
  deriving DecidableEq

/-- A row of `agent_tool_handoffs`. -/
structure HandoffRow where
  handoffId : Digest
  idempotencyKey : String
  agentOutcomeDigest : Digest
  attempt : ℕ
  previousHandoffId : Option Digest
  state : AgentToolHandoffState
  status : Option AgentToolHandoffStatus
  startedAt : Time
  completedAt : Option Time
  outcome : Option AgentToolHandoffOutcome

/-- The keys of `agent_tool_handoffs`. -/
def handoffClash (a b : HandoffRow) : Bool :=
  a.handoffId = b.handoffId ∨ a.idempotencyKey = b.idempotencyKey

variable [CanonicalDigest AgentToolHandoffPlan]

def AgentToolHandoffPlan.handoffId (plan : AgentToolHandoffPlan) : Digest :=
  canonicalDigest plan

/-- The row a claim inserts. -/
def AgentToolHandoffPlan.row (plan : AgentToolHandoffPlan) (now : Time) : HandoffRow where
  handoffId := plan.handoffId
  idempotencyKey := plan.idempotencyKey
  agentOutcomeDigest := plan.agentOutcomeDigest
  attempt := plan.attempt
  previousHandoffId := plan.previousHandoffId
  state := .started
  status := none
  startedAt := now
  completedAt := none
  outcome := none

/-! ## A claim -/

/-- The first read of a claim : a handoff that is there already is answered by its outcome. -/
def readExisting (rows : List HandoffRow) (plan : AgentToolHandoffPlan) :
    Except AgentToolHandoffError (Option AgentToolHandoffOutcome) :=
  match rows.find? fun row =>
    row.handoffId = plan.handoffId ∨ row.idempotencyKey = plan.idempotencyKey with
  | none => .ok none
  | some existing => do
    raiseIf (existing.handoffId ≠ plan.handoffId) (.idempotencyConflict
      "Agent handoff idempotency key was reused for different content")
    raiseIf (existing.state = .started) (.recoveryRequired
      "Agent handoff has an unfinished STARTED checkpoint")
    let outcome ← orRaise existing.outcome .validationError
    return some outcome

/-- The second read of a claim : the handoffs of an agent outcome, by attempt. -/
def priorHandoffs (rows : List HandoffRow) (agentOutcomeDigest : Digest) : List HandoffRow :=
  Table.orderBy HandoffRow.attempt
    (rows.filter fun row => row.agentOutcomeDigest = agentOutcomeDigest)

/-- The prior handoff that a retry follows. -/
def AgentToolHandoffPlan.Retries (plan : AgentToolHandoffPlan) (prior : HandoffRow) : Prop :=
  prior.state = .completed ∧ prior.status = some .approvalRequired ∧ prior.attempt = 1 ∧
    some prior.handoffId = plan.previousHandoffId

instance (plan : AgentToolHandoffPlan) (prior : HandoffRow) : Decidable (plan.Retries prior) :=
  inferInstanceAs (Decidable (_ ∧ _))

/-- What a claim asks of the handoffs it read. -/
def checkPrior (plan : AgentToolHandoffPlan) (prior : List HandoffRow) :
    Except AgentToolHandoffError Unit :=
  if plan.attempt = 1 then
    raiseIf (prior ≠ []) (.retryRejected "Agent tool intent already has a handoff attempt")
  else
    raiseIf (¬(prior.length = 1 ∧ ∀ row ∈ prior, plan.Retries row)) (.retryRejected
      "Agent handoff retry is not bound to one approval-required attempt")

/-- The insert of a claim. -/
def insertHandoff (rows : List HandoffRow) (plan : AgentToolHandoffPlan) (now : Time) :
    Except AgentToolHandoffError (List HandoffRow) :=
  orRaise (Table.insert handoffClash rows (plan.row now)) .integrityError

/-- `AgentToolHandoffStore.claim`, where nothing comes between its reads and its insert. -/
def claimHandoff (rows : List HandoffRow) (plan : AgentToolHandoffPlan) (now : Time) :
    Except AgentToolHandoffError (List HandoffRow × Option AgentToolHandoffOutcome) := do
  let existing ← readExisting rows plan
  match existing with
  | some outcome => return (rows, some outcome)
  | none =>
    checkPrior plan (priorHandoffs rows plan.agentOutcomeDigest)
    let claimed ← insertHandoff rows plan now
    return (claimed, none)

/-! ## A completion -/

/-- The row that a completion closes. -/
def HandoffRow.awaits (outcome : AgentToolHandoffOutcome) (row : HandoffRow) : Bool :=
  row.handoffId = outcome.handoffId ∧ row.agentOutcomeDigest = outcome.agentOutcomeDigest ∧
    row.attempt = outcome.attempt ∧ row.state = .started

def HandoffRow.complete (outcome : AgentToolHandoffOutcome) (row : HandoffRow) : HandoffRow :=
  { row with
    state := .completed
    status := some outcome.status
    completedAt := some outcome.completedAt
    outcome := some outcome }

/-- `AgentToolHandoffStore.complete`. -/
def completeHandoff (rows : List HandoffRow) (outcome : AgentToolHandoffOutcome) :
    Except AgentToolHandoffError (List HandoffRow) := do
  raiseIf (Table.rowcount (HandoffRow.awaits outcome) rows ≠ 1) (.recoveryRequired
    "Agent handoff STARTED checkpoint is unavailable")
  return Table.update (HandoffRow.awaits outcome) (HandoffRow.complete outcome) rows

/-! ## What they do -/

variable {rows : List HandoffRow}

theorem mem_priorHandoffs {agentOutcomeDigest : Digest} {row : HandoffRow} :
    row ∈ priorHandoffs rows agentOutcomeDigest ↔
      row ∈ rows ∧ row.agentOutcomeDigest = agentOutcomeDigest := by
  simp [priorHandoffs, Table.mem_orderBy]

variable {rows' : List HandoffRow} {plan : AgentToolHandoffPlan}

theorem insertHandoff_ok {now : Time} (h : insertHandoff rows plan now = .ok rows') :
    (∀ row ∈ rows, row.handoffId ≠ plan.handoffId) ∧ rows' = rows ++ [plan.row now] := by
  simp only [insertHandoff, orRaise_eq_ok, Table.insert_eq_some] at h
  obtain ⟨hfresh, rfl⟩ := h
  refine ⟨fun row hrow heq => ?_, rfl⟩
  have := hfresh row hrow
  simp [handoffClash, AgentToolHandoffPlan.row, heq] at this

theorem completeHandoff_ok {outcome : AgentToolHandoffOutcome}
    (h : completeHandoff rows outcome = .ok rows') :
    rows' = Table.update (HandoffRow.awaits outcome) (HandoffRow.complete outcome) rows := by
  simp only [completeHandoff, bind_eq_ok, raiseIf_eq_ok, pure_eq_ok] at h
  obtain ⟨-, -, rfl⟩ := h
  rfl

/-- A first attempt found no handoff; a retry found the one it follows. -/
theorem checkPrior_ok {prior : List HandoffRow} (h : checkPrior plan prior = .ok ()) :
    (plan.attempt = 1 ∧ prior = []) ∨
      plan.attempt = 2 ∧ ∃ row, prior = [row] ∧ plan.Retries row := by
  unfold checkPrior at h
  split_ifs at h with hattempt
  · rw [raiseIf_eq_ok, not_not] at h
    exact Or.inl ⟨hattempt, h⟩
  · rw [raiseIf_eq_ok, not_not] at h
    obtain ⟨hlength, hretries⟩ := h
    obtain ⟨row, rfl⟩ := List.length_eq_one_iff.1 hlength
    have hbounds := plan.attempt_bounds
    exact Or.inr ⟨by omega, row, rfl, hretries row (List.mem_singleton_self _)⟩

end VulnLoom

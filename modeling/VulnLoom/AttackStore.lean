import VulnLoom.AttackStateMachine

/-!
# The attack chain store

`AttackChainStore` : plans, checkpoints, budget reservations, actions and observations. A text
column that holds a record is the record, as in the flow store. What a transaction writes is
stated once, and the runs of the store are studied through those lemmas.
-/

namespace VulnLoom

variable [AttackDigests]

/-! ## Rows -/

inductive AttackActionState
  | started
  | completed
  | abandoned
  deriving DecidableEq

/-- A row of `attack_chain_actions`. -/
structure AttackActionRow where
  actionId : Digest
  chainPlanId : Digest
  command : AttackActionCommand
  attempt : ℕ
  commandId : Digest
  state : AttackActionState
  observationId : Option Digest

/-- A row of `attack_chain_budget_reservations`. -/
structure AttackReservationRow where
  chainPlanId : Digest
  flowPlanId : Digest
  flowCheckpointId : Digest
  actionCount : ℕ
  deriving DecidableEq

/-- A row of `attack_chain_observations`. -/
structure AttackObservationRow where
  chainPlanId : Digest
  observation : AttackActionObservation

def attackPlanClash (a b : AttackChainPlan) : Bool :=
  a.chainPlanId = b.chainPlanId ∨ a.idempotencyKey = b.idempotencyKey

def attackCheckpointClash (a b : AttackChainCheckpoint) : Bool :=
  (a.chainPlanId = b.chainPlanId ∧ a.revision = b.revision) ∨ a.checkpointId = b.checkpointId

def attackReservationClash (a b : AttackReservationRow) : Bool :=
  a.chainPlanId = b.chainPlanId

/-- The keys of `attack_chain_actions`, with the index that allows a chain one started action. -/
def attackActionClash (a b : AttackActionRow) : Bool :=
  (a.chainPlanId = b.chainPlanId ∧ a.actionId = b.actionId) ∨ a.commandId = b.commandId ∨
    (a.chainPlanId = b.chainPlanId ∧ a.state = .started ∧ b.state = .started)

def attackObservationClash (a b : AttackObservationRow) : Bool :=
  a.observation.observationId = b.observation.observationId ∨
    (a.chainPlanId = b.chainPlanId ∧ a.observation.actionId = b.observation.actionId)

/-- The reservation that the creation of a chain makes. -/
def AttackChainPlan.reservation (plan : AttackChainPlan) : AttackReservationRow where
  chainPlanId := plan.chainPlanId
  flowPlanId := plan.graph.flowPlanId
  flowCheckpointId := plan.expectedFlowCheckpointId
  actionCount := plan.graph.actions.length

/-- The row a first claim of a command inserts. -/
def AttackActionCommand.row (command : AttackActionCommand) : AttackActionRow where
  actionId := command.actionId
  chainPlanId := command.chainPlanId
  command := command
  attempt := command.attempt
  commandId := command.commandId
  state := .started
  observationId := none

/-- The stored command with the attempt and the identifier of `command` is `command`. -/
def AttackActionCommand.Recovers (command stored : AttackActionCommand) : Prop :=
  stored.chainPlanId = command.chainPlanId ∧
    stored.expectedCheckpointId = command.expectedCheckpointId ∧
    stored.actionId = command.actionId

instance (command stored : AttackActionCommand) : Decidable (command.Recovers stored) :=
  inferInstanceAs (Decidable (_ ∧ _))

/-- The row of the action of a command. -/
def AttackActionRow.isOf (command : AttackActionCommand) (row : AttackActionRow) : Bool :=
  row.chainPlanId = command.chainPlanId ∧ row.actionId = command.actionId

/-- The row to which a claim of `command` gives its next attempt, as read in `read`. -/
def AttackActionRow.awaits (read : AttackActionRow) (command : AttackActionCommand)
    (row : AttackActionRow) : Bool :=
  row.isOf command ∧ row.state = .started ∧ row.attempt = read.attempt

def AttackActionRow.reclaim (command : AttackActionCommand) (row : AttackActionRow) :
    AttackActionRow :=
  { row with command := command, attempt := command.attempt, commandId := command.commandId }

/-- The row a completion of `command` closes. -/
def AttackActionRow.claimedBy (command : AttackActionCommand) (row : AttackActionRow) : Bool :=
  row.isOf command ∧ row.commandId = command.commandId ∧ row.attempt = command.attempt ∧
    row.state = .started

def AttackActionRow.complete (observation : AttackActionObservation) (row : AttackActionRow) :
    AttackActionRow :=
  { row with state := .completed, observationId := some observation.observationId }

/-- The started rows of a chain. -/
def AttackActionRow.startedIn (chainPlanId : Digest) (row : AttackActionRow) : Bool :=
  row.chainPlanId = chainPlanId ∧ row.state = .started

def AttackActionRow.abandon (row : AttackActionRow) : AttackActionRow :=
  { row with state := .abandoned }

/-! ## The store -/

structure AttackChainStore where
  plans : List AttackChainPlan
  checkpoints : List AttackChainCheckpoint
  reservations : List AttackReservationRow
  actions : List AttackActionRow
  observations : List AttackObservationRow

namespace AttackChainStore

def empty : AttackChainStore :=
  ⟨[], [], [], [], []⟩

/-! ## Reads -/

def plan (store : AttackChainStore) (chainPlanId : Digest) : Except AttackError AttackChainPlan :=
  orRaise (store.plans.find? fun plan => plan.chainPlanId = chainPlanId)
    (.storeRejected "Attack Chain Plan is unavailable")

/-- The checkpoints of a chain. -/
def history (store : AttackChainStore) (chainPlanId : Digest) : List AttackChainCheckpoint :=
  store.checkpoints.filter fun checkpoint => checkpoint.chainPlanId = chainPlanId

/-- `latest` : the checkpoint of the chain with the greatest revision. -/
def latest (store : AttackChainStore) (chainPlanId : Digest) :
    Except AttackError AttackChainCheckpoint :=
  orRaise ((store.history chainPlanId).argmax fun checkpoint => checkpoint.revision)
    (.storeRejected "Attack Chain checkpoint is unavailable")

def observation (store : AttackChainStore) (observationId : Digest) :
    Except AttackError AttackActionObservation := do
  let row ← orRaise (store.observations.find? fun row =>
      row.observation.observationId = observationId)
    (.storeRejected "Attack Action observation is unavailable")
  return row.observation

def reservationRow (store : AttackChainStore) (chainPlanId : Digest) :
    Option AttackReservationRow :=
  store.reservations.find? fun row => row.chainPlanId = chainPlanId

def reservedActions (store : AttackChainStore) (flowPlanId : Digest) : ℕ :=
  ((store.reservations.filter fun row => row.flowPlanId = flowPlanId).map
    AttackReservationRow.actionCount).sum

def hasStartedAction (store : AttackChainStore) (chainPlanId : Digest) : Bool :=
  store.actions.any (AttackActionRow.startedIn chainPlanId)

/-- `_assert_latest`. -/
def assertLatest (store : AttackChainStore) (checkpoint : AttackChainCheckpoint) :
    Except AttackError Unit := do
  let latest ← store.latest checkpoint.chainPlanId
  raiseIf (latest.checkpointId ≠ checkpoint.checkpointId)
    (.storeRejected "Attack Chain checkpoint is stale")

/-! ## Plans and checkpoints -/

/-- `_insert_checkpoint`. -/
def insertCheckpoint (store : AttackChainStore) (checkpoint : AttackChainCheckpoint)
    (e : AttackError) : Except AttackError AttackChainStore := do
  raiseIf (¬∃ plan ∈ store.plans, plan.chainPlanId = checkpoint.chainPlanId) e
  let checkpoints ← orRaise (Table.insert attackCheckpointClash store.checkpoints checkpoint) e
  return { store with checkpoints := checkpoints }

/-- `create`; a known idempotency key inserts nothing and gives the latest checkpoint. -/
def create (store : AttackChainStore) (plan : AttackChainPlan)
    (checkpoint : AttackChainCheckpoint) (flowActionsUsed flowMaxActions : ℕ) :
    Except AttackError (AttackChainStore × AttackChainCheckpoint) := do
  raiseIf (flowMaxActions < flowActionsUsed)
    (.storeRejected "Attack Chain Flow budget is invalid")
  match store.plans.find? fun row => row.idempotencyKey = plan.idempotencyKey with
  | some existing =>
    raiseIf (existing ≠ plan) (.storeRejected "Attack Chain idempotency collision")
    raiseIf (store.reservationRow plan.chainPlanId ≠ some plan.reservation)
      (.storeRejected "Attack Chain budget reservation is unavailable")
    let result ← store.latest plan.chainPlanId
    return (store, result)
  | none =>
    raiseIf (flowMaxActions < flowActionsUsed + store.reservedActions plan.graph.flowPlanId +
        plan.graph.actions.length)
      (.storeRejected "Attack Chain Flow budget is exhausted")
    let rejected := .storeRejected "Attack Chain creation rejected"
    let plans ← orRaise (Table.insert attackPlanClash store.plans plan) rejected
    let reservations ← orRaise
      (Table.insert attackReservationClash store.reservations plan.reservation) rejected
    let store ← insertCheckpoint { store with plans := plans, reservations := reservations }
      checkpoint rejected
    return (store, checkpoint)

def advance (store : AttackChainStore) (previous checkpoint : AttackChainCheckpoint)
    (abandonStartedActions : Bool) : Except AttackError AttackChainStore := do
  raiseIf (checkpoint.revision ≠ previous.revision + 1)
    (.storeRejected "Attack Chain revision is invalid")
  store.assertLatest previous
  let actions := if abandonStartedActions then
      Table.update (AttackActionRow.startedIn previous.chainPlanId) AttackActionRow.abandon
        store.actions
    else store.actions
  insertCheckpoint { store with actions := actions } checkpoint .integrityError

/-! ## Actions -/

/-- The claim of an action that has a row : a replay, or the next attempt of a started
action. -/
def reclaim (store : AttackChainStore) (command : AttackActionCommand) (row : AttackActionRow) :
    Except AttackError (AttackChainStore × Option AttackActionObservation) := do
  raiseIf (¬command.Recovers row.command) (.storeRejected "Attack Action identity conflict")
  if row.state = .completed then
    let observation ← store.observation (row.observationId.getD "")
    return (store, some observation)
  raiseIf (command.attempt ≠ row.attempt + 1)
    (.recoveryRequired "Attack Action requires the next bounded attempt")
  raiseIf (Table.rowcount (row.awaits command) store.actions ≠ 1)
    (.recoveryRequired "Attack Action recovery raced")
  raiseIf (∃ r ∈ store.actions, row.awaits command r = false ∧ r.commandId = command.commandId)
    .integrityError
  let actions := Table.update (row.awaits command) (AttackActionRow.reclaim command) store.actions
  return ({ store with actions := actions }, none)

/-- `claim` : `none` when the command may be dispatched. -/
def claim (store : AttackChainStore) (command : AttackActionCommand) :
    Except AttackError (AttackChainStore × Option AttackActionObservation) :=
  match store.actions.find? (AttackActionRow.isOf command) with
  | some row => store.reclaim command row
  | none => do
    raiseIf (command.attempt ≠ 1)
      (.recoveryRequired "Attack Action first attempt must be one")
    raiseIf (¬∃ plan ∈ store.plans, plan.chainPlanId = command.chainPlanId) .integrityError
    let actions ← orRaise (Table.insert attackActionClash store.actions command.row)
      .integrityError
    return ({ store with actions := actions }, none)

def complete (store : AttackChainStore) (command : AttackActionCommand)
    (previous checkpoint : AttackChainCheckpoint) (observation : AttackActionObservation) :
    Except AttackError AttackChainStore := do
  store.assertLatest previous
  let claimed := AttackActionRow.claimedBy command
  raiseIf (Table.rowcount claimed store.actions ≠ 1)
    (.recoveryRequired "Attack Action claim is unavailable")
  let actions := Table.update claimed (AttackActionRow.complete observation) store.actions
  let rejected := .storeRejected "Attack Action completion rejected"
  raiseIf (¬∃ row ∈ store.actions, row.chainPlanId = command.chainPlanId ∧
    row.actionId = observation.actionId) rejected
  let observations ← orRaise (Table.insert attackObservationClash store.observations
    ⟨command.chainPlanId, observation⟩) rejected
  insertCheckpoint { store with actions := actions, observations := observations } checkpoint
    rejected

/-! ## What they write -/

variable {store : AttackChainStore} {chainPlanId : Digest} {plan : AttackChainPlan}

theorem plan_ok (h : store.plan chainPlanId = .ok plan) :
    plan ∈ store.plans ∧ plan.chainPlanId = chainPlanId := by
  simp only [AttackChainStore.plan, orRaise_eq_ok] at h
  exact ⟨List.mem_of_find?_eq_some h, by simpa using List.find?_some h⟩

variable {checkpoint : AttackChainCheckpoint}

theorem mem_history : checkpoint ∈ store.history chainPlanId ↔
      checkpoint ∈ store.checkpoints ∧ checkpoint.chainPlanId = chainPlanId := by
  simp [history]

theorem latest_ok (h : store.latest chainPlanId = .ok checkpoint) :
    checkpoint ∈ store.checkpoints ∧ checkpoint.chainPlanId = chainPlanId := by
  simp only [latest, orRaise_eq_ok] at h
  exact mem_history.1 (List.argmax_mem h)

/-- A stored checkpoint that passes `assertLatest` is the latest one. -/
theorem assertLatest_ok (hkeys : (store.checkpoints.map AttackChainCheckpoint.checkpointId).Nodup)
    (hmem : checkpoint ∈ store.checkpoints) (h : store.assertLatest checkpoint = .ok ()) :
    store.latest checkpoint.chainPlanId = .ok checkpoint := by
  simp only [assertLatest, bind_eq_ok, raiseIf_eq_ok, not_not] at h
  obtain ⟨latest, hlatest, hid⟩ := h
  have hsame : latest = checkpoint := Table.eq_of_key hkeys (latest_ok hlatest).1 hmem hid
  rwa [hsame] at hlatest

variable {store' : AttackChainStore}

theorem insertCheckpoint_ok {e : AttackError}
    (h : store.insertCheckpoint checkpoint e = .ok store') :
    (∀ r ∈ store.checkpoints, attackCheckpointClash checkpoint r = false) ∧
      store' = { store with checkpoints := store.checkpoints ++ [checkpoint] } := by
  simp only [insertCheckpoint, bind_eq_ok, orRaise_eq_ok, pure_eq_ok, Table.insert_eq_some] at h
  obtain ⟨-, -, -, ⟨hfresh, rfl⟩, rfl⟩ := h
  exact ⟨hfresh, rfl⟩

theorem create_ok {result : AttackChainCheckpoint} {flowActionsUsed flowMaxActions : ℕ}
    (h : store.create plan checkpoint flowActionsUsed flowMaxActions = .ok (store', result)) :
    (store' = store ∧ store.latest plan.chainPlanId = .ok result) ∨
      (∀ r ∈ store.plans, attackPlanClash plan r = false) ∧
      (∀ r ∈ store.checkpoints, attackCheckpointClash checkpoint r = false) ∧
      result = checkpoint ∧ store' = { store with
        plans := store.plans ++ [plan]
        reservations := store.reservations ++ [plan.reservation]
        checkpoints := store.checkpoints ++ [checkpoint] } := by
  simp only [create, bind_eq_ok] at h
  obtain ⟨-, -, h⟩ := h
  split at h
  · simp only [bind_eq_ok, pure_eq_ok, Prod.mk.injEq] at h
    obtain ⟨-, -, -, -, latest, hlatest, rfl, rfl⟩ := h
    exact Or.inl ⟨rfl, hlatest⟩
  · simp only [bind_eq_ok, orRaise_eq_ok, pure_eq_ok, Table.insert_eq_some, Prod.mk.injEq] at h
    obtain ⟨-, -, -, ⟨hplan, rfl⟩, -, ⟨-, rfl⟩, _, hinsert, rfl, rfl⟩ := h
    obtain ⟨hfresh, rfl⟩ := insertCheckpoint_ok hinsert
    exact Or.inr ⟨hplan, hfresh, rfl, rfl⟩

variable {previous : AttackChainCheckpoint}

theorem advance_ok {abandonStartedActions : Bool}
    (hkeys : (store.checkpoints.map AttackChainCheckpoint.checkpointId).Nodup)
    (hmem : previous ∈ store.checkpoints)
    (h : store.advance previous checkpoint abandonStartedActions = .ok store') :
    store.latest previous.chainPlanId = .ok previous ∧
      (∀ r ∈ store.checkpoints, attackCheckpointClash checkpoint r = false) ∧
      ∃ actions, store' = { store with
        actions := actions, checkpoints := store.checkpoints ++ [checkpoint] } := by
  simp only [advance, bind_eq_ok] at h
  obtain ⟨-, -, ⟨⟩, hlatest, hinsert⟩ := h
  obtain ⟨hfresh, rfl⟩ := insertCheckpoint_ok hinsert
  exact ⟨assertLatest_ok hkeys hmem hlatest, hfresh, _, rfl⟩

variable {command : AttackActionCommand}

/-- A claim writes action rows alone. -/
theorem claim_ok {replay : Option AttackActionObservation}
    (h : store.claim command = .ok (store', replay)) :
    ∃ actions, store' = { store with actions := actions } := by
  unfold claim at h
  split at h
  · simp only [reclaim, bind_eq_ok] at h
    obtain ⟨-, -, h⟩ := h
    split_ifs at h
    · simp only [bind_eq_ok, pure_eq_ok, Prod.mk.injEq] at h
      obtain ⟨-, -, rfl, -⟩ := h
      exact ⟨store.actions, rfl⟩
    · simp only [bind_eq_ok, pure_eq_ok, Prod.mk.injEq] at h
      obtain ⟨-, -, -, -, -, -, rfl, -⟩ := h
      exact ⟨_, rfl⟩
  · simp only [bind_eq_ok, pure_eq_ok, Prod.mk.injEq] at h
    obtain ⟨-, -, -, -, actions, -, rfl, -⟩ := h
    exact ⟨actions, rfl⟩

theorem complete_ok {observation : AttackActionObservation}
    (hkeys : (store.checkpoints.map AttackChainCheckpoint.checkpointId).Nodup)
    (hmem : previous ∈ store.checkpoints)
    (h : store.complete command previous checkpoint observation = .ok store') :
    store.latest previous.chainPlanId = .ok previous ∧
      (∀ r ∈ store.checkpoints, attackCheckpointClash checkpoint r = false) ∧
      (∀ r ∈ store.observations,
        attackObservationClash ⟨command.chainPlanId, observation⟩ r = false) ∧
      ∃ actions, store' = { store with
        actions := actions
        observations := store.observations ++ [⟨command.chainPlanId, observation⟩]
        checkpoints := store.checkpoints ++ [checkpoint] } := by
  simp only [complete, bind_eq_ok, orRaise_eq_ok, Table.insert_eq_some] at h
  obtain ⟨⟨⟩, hlatest, -, -, -, -, -, ⟨hobs, rfl⟩, hinsert⟩ := h
  obtain ⟨hfresh, rfl⟩ := insertCheckpoint_ok hinsert
  exact ⟨assertLatest_ok hkeys hmem hlatest, hfresh, hobs, _, rfl⟩

end AttackChainStore

end VulnLoom

import VulnLoom.FlowStateMachine
import VulnLoom.ReplanModels
import VulnLoom.Table

/-!
# The flow store

`RedTeamStore` : plans, checkpoints, actions, observations, external reservations, replan
proposals, admissions and receipts. A text column that holds a record is the record, and
the columns copied from it are functions of it. A transaction returns the new store, or
raises and leaves the store as it was; a violated key is an `IntegrityError`. A function
that returns the record it was given returns the store alone.
-/

namespace VulnLoom

variable [RedTeamDigests]

/-! ## Rows -/

inductive ActionState
  | started
  | completed
  deriving DecidableEq

/-- A row of `red_team_actions`. -/
structure ActionRow where
  action : RedTeamReconAction
  attempt : ℕ
  commandId : Digest
  state : ActionState
  observationId : Option Digest
  deriving DecidableEq

/-- A row of `red_team_external_action_reservations`. -/
structure ReservationRow where
  reservationId : Digest
  planId : Digest
  sourceCheckpointId : Digest
  actionCount : ℕ
  deriving DecidableEq

inductive AdmissionState
  | reserved
  | consumed
  | cancelled
  | expired
  deriving DecidableEq

/-- A row of `red_team_replan_admissions`. -/
structure AdmissionRow where
  proposalId : Digest
  admission : RedTeamReplanAdmission
  state : AdmissionState
  deriving DecidableEq

def planClash (a b : RedTeamFlowPlan) : Bool :=
  a.planId = b.planId ∨ a.idempotencyKey = b.idempotencyKey

def checkpointClash (a b : RedTeamCheckpoint) : Bool :=
  (a.planId = b.planId ∧ a.revision = b.revision) ∨ a.checkpointId = b.checkpointId

/-- The keys of `red_team_actions`, with the index that allows a plan one started action. -/
def actionClash (a b : ActionRow) : Bool :=
  a.action.actionId = b.action.actionId ∨ a.action.idempotencyKey = b.action.idempotencyKey ∨
    a.commandId = b.commandId ∨
    (a.action.planId = b.action.planId ∧ a.state = .started ∧ b.state = .started)

def observationClash (a b : RedTeamReconObservation) : Bool :=
  a.observationId = b.observationId ∨ a.actionId = b.actionId

def reservationClash (a b : ReservationRow) : Bool :=
  a.reservationId = b.reservationId

def proposalClash (a b : RedTeamReplanProposal) : Bool :=
  a.proposalId = b.proposalId ∨ a.idempotencyKey = b.idempotencyKey

def admissionClash (a b : AdmissionRow) : Bool :=
  a.admission.admissionId = b.admission.admissionId ∨ a.proposalId = b.proposalId ∨
    a.admission.command.action.actionId = b.admission.command.action.actionId

def receiptClash (a b : RedTeamReplanExecutionReceipt) : Bool :=
  a.receiptId = b.receiptId ∨ a.admissionId = b.admissionId ∨ a.actionId = b.actionId

/-! ## Updates of rows -/

/-- The row a first claim of a command inserts. -/
def RedTeamReconCommand.row (command : RedTeamReconCommand) : ActionRow :=
  ⟨command.action, command.attempt, command.commandId, .started, none⟩

/-- The row to which a claim of `command` gives its next attempt, as read in `row`. -/
def ActionRow.awaits (row : ActionRow) (command : RedTeamReconCommand) (r : ActionRow) : Bool :=
  r.action.actionId = command.action.actionId ∧ r.state = .started ∧ r.attempt = row.attempt

def ActionRow.reclaim (command : RedTeamReconCommand) (r : ActionRow) : ActionRow :=
  { r with attempt := command.attempt, commandId := command.commandId }

/-- The row a completion of `command` closes. -/
def ActionRow.claimedBy (command : RedTeamReconCommand) (r : ActionRow) : Bool :=
  r.action.actionId = command.action.actionId ∧ r.commandId = command.commandId ∧
    r.attempt = command.attempt ∧ r.state = .started

def ActionRow.complete (observation : RedTeamReconObservation) (r : ActionRow) : ActionRow :=
  { r with state := .completed, observationId := some observation.observationId }

/-- The row of an admission that can still be claimed or released. -/
def AdmissionRow.holds (admissionId : Digest) (r : AdmissionRow) : Bool :=
  r.admission.admissionId = admissionId ∧ r.state = .reserved

def AdmissionRow.setState (state : AdmissionState) (r : AdmissionRow) : AdmissionRow :=
  { r with state := state }

/-! ## The store -/

structure RedTeamStore where
  plans : List RedTeamFlowPlan
  checkpoints : List RedTeamCheckpoint
  actions : List ActionRow
  observations : List RedTeamReconObservation
  reservations : List ReservationRow
  proposals : List RedTeamReplanProposal
  admissions : List AdmissionRow
  receipts : List RedTeamReplanExecutionReceipt
  deriving DecidableEq

namespace RedTeamStore

def empty : RedTeamStore :=
  ⟨[], [], [], [], [], [], [], []⟩

/-! ## Reads -/

def plan (store : RedTeamStore) (planId : Digest) : Except RedTeamError RedTeamFlowPlan :=
  orRaise (store.plans.find? fun plan => plan.planId = planId)
    (.storeRejected "Red Team plan is unavailable")

/-- The checkpoints of a plan. -/
def history (store : RedTeamStore) (planId : Digest) : List RedTeamCheckpoint :=
  store.checkpoints.filter fun checkpoint => checkpoint.planId = planId

/-- `latest` : the checkpoint of the plan with the greatest revision. -/
def latest (store : RedTeamStore) (planId : Digest) : Except RedTeamError RedTeamCheckpoint :=
  orRaise ((store.history planId).argmax fun checkpoint => checkpoint.revision)
    (.storeRejected "Red Team checkpoint is unavailable")

def checkpointRevision (store : RedTeamStore) (planId : Digest) (revision : ℕ) :
    Except RedTeamError RedTeamCheckpoint :=
  orRaise (store.checkpoints.find? fun checkpoint =>
      checkpoint.planId = planId ∧ checkpoint.revision = revision)
    (.storeRejected "Red Team checkpoint revision is unavailable")

def observation (store : RedTeamStore) (observationId : Digest) :
    Except RedTeamError RedTeamReconObservation :=
  orRaise (store.observations.find? fun observation => observation.observationId = observationId)
    (.storeRejected "Red Team observation is unavailable")

/-- `_started_actions`. -/
def startedActions (store : RedTeamStore) (planId : Digest) : ℕ :=
  store.actions.countP fun row => row.action.planId = planId ∧ row.state = .started

/-- `_reserved_actions`. -/
def reservedActions (store : RedTeamStore) (planId : Digest) : ℕ :=
  ((store.reservations.filter fun row => row.planId = planId).map ReservationRow.actionCount).sum

/-- `_reserved_replan_actions`. -/
def reservedReplanActions (store : RedTeamStore) (planId : Digest) : ℕ :=
  store.admissions.countP fun row => row.admission.flowPlanId = planId ∧ row.state = .reserved

def remainingActionBudget (store : RedTeamStore) (planId : Digest) : Except RedTeamError ℕ := do
  let plan ← store.plan planId
  let checkpoint ← store.latest planId
  return plan.maxActions - (checkpoint.actionsUsed + store.startedActions planId +
    store.reservedActions planId + store.reservedReplanActions planId)

/-- `_assert_latest`. -/
def assertLatest (store : RedTeamStore) (checkpoint : RedTeamCheckpoint) :
    Except RedTeamError Unit := do
  let latest ← store.latest checkpoint.planId
  raiseIf (latest.checkpointId ≠ checkpoint.checkpointId)
    (.storeRejected "Red Team checkpoint is stale")

/-- `_assert_latest_id`. -/
def assertLatestId (store : RedTeamStore) (planId checkpointId : Digest) :
    Except RedTeamError Unit :=
  match (store.history planId).argmax fun checkpoint => checkpoint.revision with
  | none => .error (.storeRejected "Red Team action checkpoint is stale")
  | some latest => raiseIf (latest.checkpointId ≠ checkpointId)
      (.storeRejected "Red Team action checkpoint is stale")

/-! ## Plans and checkpoints -/

/-- `_insert_checkpoint`. -/
def insertCheckpoint (store : RedTeamStore) (checkpoint : RedTeamCheckpoint)
    (e : RedTeamError) : Except RedTeamError RedTeamStore := do
  raiseIf (¬∃ plan ∈ store.plans, plan.planId = checkpoint.planId) e
  let checkpoints ← orRaise (Table.insert checkpointClash store.checkpoints checkpoint) e
  return { store with checkpoints := checkpoints }

/-- `create`; a known idempotency key inserts nothing and gives the latest checkpoint. -/
def create (store : RedTeamStore) (plan : RedTeamFlowPlan) (checkpoint : RedTeamCheckpoint) :
    Except RedTeamError (RedTeamStore × RedTeamCheckpoint) := do
  match store.plans.find? fun row => row.idempotencyKey = plan.idempotencyKey with
  | some existing =>
    raiseIf (existing ≠ plan) (.storeRejected "Red Team idempotency collision")
    let latest ← store.latest plan.planId
    return (store, latest)
  | none =>
    let rejected := .storeRejected "Red Team plan transaction rejected"
    let plans ← orRaise (Table.insert planClash store.plans plan) rejected
    let store ← insertCheckpoint { store with plans := plans } checkpoint rejected
    return (store, checkpoint)

def advance (store : RedTeamStore) (previous checkpoint : RedTeamCheckpoint) :
    Except RedTeamError RedTeamStore := do
  raiseIf (checkpoint.revision ≠ previous.revision + 1)
    (.storeRejected "Red Team checkpoint sequence is invalid")
  store.assertLatest previous
  store.insertCheckpoint checkpoint .integrityError

/-! ## Actions -/

/-- The row a command finds, by its action or by its idempotency key. -/
def actionRow (store : RedTeamStore) (command : RedTeamReconCommand) : Option ActionRow :=
  store.actions.find? fun row => row.action.actionId = command.action.actionId ∨
    row.action.idempotencyKey = command.action.idempotencyKey

/-- The claim of an action that has a row : a replay, or the next attempt of a started
action. -/
def reclaimAction (store : RedTeamStore) (command : RedTeamReconCommand) (row : ActionRow) :
    Except RedTeamError (RedTeamStore × Option RedTeamReconObservation) := do
  raiseIf (row.action ≠ command.action) (.storeRejected "Red Team action identity conflict")
  if row.state = .completed then
    let observation ← store.observation (row.observationId.getD "")
    return (store, some observation)
  raiseIf (command.attempt ≠ row.attempt + 1)
    (.recoveryRequired "Red Team action requires next bounded attempt")
  raiseIf (Table.rowcount (row.awaits command) store.actions ≠ 1)
    (.recoveryRequired "Red Team action recovery raced")
  raiseIf (∃ r ∈ store.actions, row.awaits command r = false ∧ r.commandId = command.commandId)
    (.storeRejected "Red Team action claim rejected")
  let actions := Table.update (row.awaits command) (ActionRow.reclaim command) store.actions
  return ({ store with actions := actions }, none)

/-- The row of the admission that reserved a command's action. -/
def admissionOf (store : RedTeamStore) (command : RedTeamReconCommand) : Option AdmissionRow :=
  store.admissions.find? fun row =>
    row.admission.command.action.actionId = command.action.actionId

/-- A claim consumes the admission that reserved its action. -/
def consumeAdmission (store : RedTeamStore) (admission : RedTeamReplanAdmission) :
    Except RedTeamError RedTeamStore := do
  let holds := AdmissionRow.holds admission.admissionId
  raiseIf (Table.rowcount holds store.admissions ≠ 1)
    (.storeRejected "Red Team replan reservation consumption raced")
  let admissions := Table.update holds (AdmissionRow.setState .consumed) store.admissions
  return { store with admissions := admissions }

/-- The claim of an action that has no row. -/
def claimNewAction (store : RedTeamStore) (command : RedTeamReconCommand) :
    Except RedTeamError RedTeamStore := do
  raiseIf (command.attempt ≠ 1)
    (.recoveryRequired "Red Team first action attempt must be one")
  store.assertLatestId command.action.planId command.action.expectedCheckpointId
  let checkpoint ← store.latest command.action.planId
  let plan ← store.plan command.action.planId
  let replan := store.admissionOf command
  raiseIf (∃ row ∈ replan, row.state ≠ .reserved ∨ row.admission.command.action ≠ command.action)
    (.storeRejected "Red Team replan reservation is unavailable")
  raiseIf (plan.maxActions < checkpoint.actionsUsed + store.startedActions command.action.planId +
      store.reservedActions command.action.planId +
      store.reservedReplanActions command.action.planId + (if replan.isSome then 0 else 1))
    (.storeRejected "Red Team action budget is reserved by another workflow")
  let actions ← orRaise (Table.insert actionClash store.actions command.row)
    (.storeRejected "Red Team action claim rejected")
  match replan with
  | none => return { store with actions := actions }
  | some row => consumeAdmission { store with actions := actions } row.admission

/-- `claim_action` : `none` when the command may be dispatched. -/
def claimAction (store : RedTeamStore) (command : RedTeamReconCommand) :
    Except RedTeamError (RedTeamStore × Option RedTeamReconObservation) :=
  match store.actionRow command with
  | some row => store.reclaimAction command row
  | none => do
    let store ← store.claimNewAction command
    return (store, none)

def completedAction (store : RedTeamStore) (command : RedTeamReconCommand) :
    Except RedTeamError (Option RedTeamReconObservation) :=
  match store.actionRow command with
  | none => .ok none
  | some row => do
    raiseIf (row.action ≠ command.action) (.storeRejected "Red Team action identity conflict")
    if row.state = .completed then
      let observation ← store.observation (row.observationId.getD "")
      return some observation
    return none

def completeAction (store : RedTeamStore) (command : RedTeamReconCommand)
    (previous checkpoint : RedTeamCheckpoint) (observation : RedTeamReconObservation) :
    Except RedTeamError RedTeamStore := do
  store.assertLatest previous
  let claimed := ActionRow.claimedBy command
  raiseIf (Table.rowcount claimed store.actions ≠ 1)
    (.recoveryRequired "Red Team action claim is unavailable")
  let actions := Table.update claimed (ActionRow.complete observation) store.actions
  let rejected := .storeRejected "Red Team action completion rejected"
  raiseIf (¬∃ row ∈ store.actions, row.action.actionId = observation.actionId) rejected
  let observations ← orRaise (Table.insert observationClash store.observations observation)
    rejected
  insertCheckpoint { store with actions := actions, observations := observations } checkpoint
    rejected

/-! ## External reservations -/

def reservationRow (store : RedTeamStore) (reservationId : Digest) : Option ReservationRow :=
  store.reservations.find? fun row => row.reservationId = reservationId

def reserveExternalActions (store : RedTeamStore) (row : ReservationRow) :
    Except RedTeamError RedTeamStore := do
  raiseIf (row.actionCount = 0) (.storeRejected "Red Team external reservation is invalid")
  match store.reservationRow row.reservationId with
  | some existing =>
    raiseIf (existing ≠ row)
      (.storeRejected "Red Team external reservation identity conflict")
    return store
  | none =>
    let checkpoint ← store.latest row.planId
    raiseIf (checkpoint.checkpointId ≠ row.sourceCheckpointId ∨ checkpoint.status ≠ .running)
      (.storeRejected "Red Team external reservation checkpoint is stale")
    let plan ← store.plan row.planId
    raiseIf (plan.maxActions < checkpoint.actionsUsed + store.startedActions row.planId +
        store.reservedActions row.planId + row.actionCount)
      (.storeRejected "Red Team external action budget is exhausted")
    let rejected := .storeRejected "Red Team external reservation rejected"
    raiseIf (¬∃ plan ∈ store.plans, plan.planId = row.planId) rejected
    let reservations ← orRaise (Table.insert reservationClash store.reservations row) rejected
    return { store with reservations := reservations }

/-! ## Replan admissions and receipts -/

/-- The row a proposal finds, by its id or by its idempotency key. -/
def proposalRow (store : RedTeamStore) (proposal : RedTeamReplanProposal) :
    Option RedTeamReplanProposal :=
  store.proposals.find? fun row => row.proposalId = proposal.proposalId ∨
    row.idempotencyKey = proposal.idempotencyKey

def admitReplan (store : RedTeamStore) (proposal : RedTeamReplanProposal)
    (admission : RedTeamReplanAdmission) : Except RedTeamError RedTeamStore := do
  match store.proposalRow proposal with
  | some existing =>
    raiseIf (existing ≠ proposal) (.storeRejected "Red Team replan proposal collision")
    let persisted ← orRaise
      (store.admissions.find? fun row => row.proposalId = proposal.proposalId)
      (.storeRejected "Red Team replan admission is incomplete")
    raiseIf (persisted.admission ≠ admission)
      (.storeRejected "Red Team replan admission collision")
    return store
  | none =>
    let checkpoint ← store.latest admission.flowPlanId
    let remaining ← store.remainingActionBudget admission.flowPlanId
    raiseIf (checkpoint.checkpointId ≠ admission.sourceCheckpointId ∨
        checkpoint.status ≠ .running ∨ remaining < 1)
      (.storeRejected "Red Team replan budget or checkpoint is stale")
    let rejected := .storeRejected "Red Team replan admission transaction rejected"
    let proposals ← orRaise (Table.insert proposalClash store.proposals proposal) rejected
    raiseIf (¬∃ plan ∈ store.plans, plan.planId = admission.flowPlanId) rejected
    let admissions ← orRaise (Table.insert admissionClash store.admissions
      ⟨proposal.proposalId, admission, .reserved⟩) rejected
    return { store with proposals := proposals, admissions := admissions }

def replanAdmissionRow (store : RedTeamStore) (admissionId : Digest) :
    Except RedTeamError AdmissionRow :=
  orRaise (store.admissions.find? fun row => row.admission.admissionId = admissionId)
    (.storeRejected "Red Team replan admission is unavailable")

/-- `replan_admission`. -/
def replanAdmission (store : RedTeamStore) (admissionId : Digest) :
    Except RedTeamError RedTeamReplanAdmission := do
  let row ← store.replanAdmissionRow admissionId
  return row.admission

/-- `replan_admission_state`. -/
def replanAdmissionState (store : RedTeamStore) (admissionId : Digest) :
    Except RedTeamError AdmissionState := do
  let row ← store.replanAdmissionRow admissionId
  return row.state

def releaseReplanAdmission (store : RedTeamStore) (admissionId : Digest)
    (state : AdmissionState) : Except RedTeamError RedTeamStore := do
  raiseIf (state ≠ .cancelled ∧ state ≠ .expired)
    (.storeRejected "Red Team replan release state is invalid")
  let holds := AdmissionRow.holds admissionId
  raiseIf (Table.rowcount holds store.admissions ≠ 1)
    (.storeRejected "Red Team replan reservation is not releasable")
  let admissions := Table.update holds (AdmissionRow.setState state) store.admissions
  return { store with admissions := admissions }

def replanExecutionReceiptForAdmission (store : RedTeamStore) (admissionId : Digest) :
    Option RedTeamReplanExecutionReceipt :=
  store.receipts.find? fun row => row.admissionId = admissionId

def putReplanExecutionReceipt (store : RedTeamStore) (receipt : RedTeamReplanExecutionReceipt) :
    Except RedTeamError RedTeamStore := do
  match store.receipts.find? fun row =>
    row.admissionId = receipt.admissionId ∨ row.actionId = receipt.actionId with
  | some existing =>
    raiseIf (existing ≠ receipt)
      (.storeRejected "Red Team replan Execution Receipt collision")
    return store
  | none =>
    let state ← store.replanAdmissionState receipt.admissionId
    raiseIf (state ≠ .consumed)
      (.storeRejected "Red Team replan Execution Receipt requires consumed admission")
    let rejected := .storeRejected "Red Team replan Execution Receipt transaction rejected"
    raiseIf (¬∃ row ∈ store.actions, row.action.actionId = receipt.actionId) rejected
    let receipts ← orRaise (Table.insert receiptClash store.receipts receipt) rejected
    return { store with receipts := receipts }

/-! ## What a read returns -/

variable {store : RedTeamStore} {planId : Digest} {plan : RedTeamFlowPlan}

theorem plan_ok (h : store.plan planId = .ok plan) : plan ∈ store.plans ∧ plan.planId = planId := by
  simp only [RedTeamStore.plan, orRaise_eq_ok] at h
  exact ⟨List.mem_of_find?_eq_some h, by simpa using List.find?_some h⟩

theorem plan_eq_ok (hkeys : (store.plans.map RedTeamFlowPlan.planId).Nodup)
    (hplan : plan ∈ store.plans) (hid : plan.planId = planId) : store.plan planId = .ok plan := by
  cases hfind : store.plan planId with
  | ok plan' =>
    obtain ⟨hmem, hid'⟩ := plan_ok hfind
    rw [Table.eq_of_key hkeys hmem hplan (hid'.trans hid.symm)]
  | error e =>
    simp only [RedTeamStore.plan, orRaise_eq_error, List.find?_eq_none] at hfind
    exact absurd hid (by simpa using hfind.1 plan hplan)

variable {checkpoint : RedTeamCheckpoint}

theorem mem_history : checkpoint ∈ store.history planId ↔
      checkpoint ∈ store.checkpoints ∧ checkpoint.planId = planId := by
  simp [history]

theorem latest_ok (h : store.latest planId = .ok checkpoint) :
    checkpoint ∈ store.checkpoints ∧ checkpoint.planId = planId := by
  simp only [latest, orRaise_eq_ok] at h
  exact mem_history.1 (List.argmax_mem h)

theorem checkpointRevision_ok {revision : ℕ}
    (h : store.checkpointRevision planId revision = .ok checkpoint) :
    checkpoint ∈ store.checkpoints ∧ checkpoint.planId = planId ∧
      checkpoint.revision = revision := by
  simp only [checkpointRevision, orRaise_eq_ok] at h
  exact ⟨List.mem_of_find?_eq_some h, by simpa using List.find?_some h⟩

/-- A stored checkpoint that passes `assertLatest` is the latest one. -/
theorem assertLatest_ok (hkeys : (store.checkpoints.map RedTeamCheckpoint.checkpointId).Nodup)
    (hmem : checkpoint ∈ store.checkpoints) (h : store.assertLatest checkpoint = .ok ()) :
    store.latest checkpoint.planId = .ok checkpoint := by
  simp only [assertLatest, bind_eq_ok, raiseIf_eq_ok, not_not] at h
  obtain ⟨latest, hlatest, hid⟩ := h
  have hsame : latest = checkpoint := Table.eq_of_key hkeys (latest_ok hlatest).1 hmem hid
  rwa [hsame] at hlatest

/-! ## What a transaction does -/

variable {store' : RedTeamStore}

theorem insertCheckpoint_ok {e : RedTeamError}
    (h : store.insertCheckpoint checkpoint e = .ok store') :
    (∀ r ∈ store.checkpoints, checkpointClash checkpoint r = false) ∧
      store' = { store with checkpoints := store.checkpoints ++ [checkpoint] } := by
  simp only [insertCheckpoint, bind_eq_ok, orRaise_eq_ok, pure_eq_ok, Table.insert_eq_some] at h
  obtain ⟨-, -, -, ⟨hfresh, rfl⟩, rfl⟩ := h
  exact ⟨hfresh, rfl⟩

theorem create_ok {result : RedTeamCheckpoint}
    (h : store.create plan checkpoint = .ok (store', result)) :
    store' = store ∨ (∀ r ∈ store.plans, planClash plan r = false) ∧
      (∀ r ∈ store.checkpoints, checkpointClash checkpoint r = false) ∧
      store' = { store with
        plans := store.plans ++ [plan], checkpoints := store.checkpoints ++ [checkpoint] } := by
  unfold create at h
  split at h
  · simp only [bind_eq_ok, pure_eq_ok, Prod.mk.injEq] at h
    obtain ⟨-, -, -, -, rfl, -⟩ := h
    exact Or.inl rfl
  · simp only [bind_eq_ok, orRaise_eq_ok, pure_eq_ok, Table.insert_eq_some, Prod.mk.injEq] at h
    obtain ⟨-, ⟨hplan, rfl⟩, store₁, hinsert, rfl, -⟩ := h
    obtain ⟨hfresh, rfl⟩ := insertCheckpoint_ok hinsert
    exact Or.inr ⟨hplan, hfresh, rfl⟩

variable {previous : RedTeamCheckpoint}

theorem advance_ok (hkeys : (store.checkpoints.map RedTeamCheckpoint.checkpointId).Nodup)
    (hmem : previous ∈ store.checkpoints) (h : store.advance previous checkpoint = .ok store') :
    store.latest previous.planId = .ok previous ∧
      (∀ r ∈ store.checkpoints, checkpointClash checkpoint r = false) ∧
      store' = { store with checkpoints := store.checkpoints ++ [checkpoint] } := by
  simp only [advance, bind_eq_ok] at h
  obtain ⟨-, -, ⟨⟩, hlatest, hinsert⟩ := h
  obtain ⟨hfresh, rfl⟩ := insertCheckpoint_ok hinsert
  exact ⟨assertLatest_ok hkeys hmem hlatest, hfresh, rfl⟩

variable {command : RedTeamReconCommand}

theorem actionRow_some {row : ActionRow} (h : store.actionRow command = some row) :
    row ∈ store.actions :=
  List.mem_of_find?_eq_some h

/-- A claim of an action with a row is answered by its observation or takes the next
attempt of it. -/
theorem reclaimAction_ok {row : ActionRow} {replay : Option RedTeamReconObservation}
    (h : store.reclaimAction command row = .ok (store', replay)) : row.action = command.action ∧
      ((store' = store ∧ replay.isSome = true ∧ row.state = .completed) ∨
        row.state = .started ∧ command.attempt = row.attempt + 1 ∧
        Table.rowcount (row.awaits command) store.actions = 1 ∧
        (∀ r ∈ store.actions, row.awaits command r = false →
          r.commandId ≠ command.commandId) ∧
        replay = none ∧
        store' = { store with
          actions := Table.update (row.awaits command) (ActionRow.reclaim command)
            store.actions }) := by
  simp only [reclaimAction, bind_eq_ok, raiseIf_eq_ok, not_not] at h
  obtain ⟨-, haction, h⟩ := h
  refine ⟨haction, ?_⟩
  split_ifs at h with hstate
  · simp only [bind_eq_ok, pure_eq_ok, Prod.mk.injEq] at h
    obtain ⟨observation, -, rfl, rfl⟩ := h
    exact Or.inl ⟨rfl, rfl, hstate⟩
  · simp only [bind_eq_ok, raiseIf_eq_ok, pure_eq_ok, not_not, not_exists, not_and,
      Prod.mk.injEq] at h
    obtain ⟨-, hattempt, -, hone, -, hfree, rfl, rfl⟩ := h
    have hstarted : row.state = .started := by
      cases hs : row.state with
      | started => rfl
      | completed => exact absurd hs hstate
    exact Or.inr ⟨hstarted, hattempt, hone, hfree, rfl, rfl⟩

/-- A first claim of an action, within the budget that every kind of reservation shares. -/
theorem claimNewAction_ok (h : store.claimNewAction command = .ok store') :
    ∃ latest plan, store.latest command.action.planId = .ok latest ∧
      store.plan command.action.planId = .ok plan ∧ command.attempt = 1 ∧
      latest.checkpointId = command.action.expectedCheckpointId ∧
      (∀ r ∈ store.actions, actionClash command.row r = false) ∧
      ((store.admissionOf command = none ∧
          latest.actionsUsed + store.startedActions command.action.planId +
            store.reservedActions command.action.planId +
            store.reservedReplanActions command.action.planId + 1 ≤ plan.maxActions ∧
          store' = { store with actions := store.actions ++ [command.row] }) ∨
        ∃ row, store.admissionOf command = some row ∧
          (row.state = .reserved ∧ row.admission.command.action = command.action) ∧
          latest.actionsUsed + store.startedActions command.action.planId +
            store.reservedActions command.action.planId +
            store.reservedReplanActions command.action.planId ≤ plan.maxActions ∧
          Table.rowcount (AdmissionRow.holds row.admission.admissionId) store.admissions = 1 ∧
          store' = { store with
            actions := store.actions ++ [command.row]
            admissions := Table.update (AdmissionRow.holds row.admission.admissionId)
              (AdmissionRow.setState .consumed) store.admissions }) := by
  simp only [claimNewAction, bind_eq_ok, raiseIf_eq_ok, orRaise_eq_ok, Table.insert_eq_some,
    not_not, not_lt] at h
  obtain ⟨-, hattempt, ⟨⟩, hcurrent, latest, hlatest, plan, hplan, -, hreplan, -, hbudget, -,
    ⟨hfresh, rfl⟩, h⟩ := h
  have hid : latest.checkpointId = command.action.expectedCheckpointId := by
    simp only [RedTeamStore.latest, orRaise_eq_ok] at hlatest
    simpa [assertLatestId, hlatest] using hcurrent
  refine ⟨latest, plan, hlatest, hplan, hattempt, hid, hfresh, ?_⟩
  cases hadm : store.admissionOf command with
  | none =>
    rw [hadm] at h hbudget
    simp only [pure_eq_ok] at h
    exact Or.inl ⟨rfl, by simpa using hbudget, h.symm⟩
  | some row =>
    rw [hadm] at h hbudget hreplan
    simp only [consumeAdmission, bind_eq_ok, raiseIf_eq_ok, pure_eq_ok, not_not] at h
    obtain ⟨-, hone, rfl⟩ := h
    refine Or.inr ⟨row, rfl, ?_, by simpa using hbudget, hone, rfl⟩
    simpa [not_or] using hreplan

theorem completeAction_ok {observation : RedTeamReconObservation}
    (hkeys : (store.checkpoints.map RedTeamCheckpoint.checkpointId).Nodup)
    (hmem : previous ∈ store.checkpoints)
    (h : store.completeAction command previous checkpoint observation = .ok store') :
    store.latest previous.planId = .ok previous ∧
      Table.rowcount (ActionRow.claimedBy command) store.actions = 1 ∧
      (∀ r ∈ store.observations, observationClash observation r = false) ∧
      (∀ r ∈ store.checkpoints, checkpointClash checkpoint r = false) ∧
      store' = { store with
        actions := Table.update (ActionRow.claimedBy command) (ActionRow.complete observation)
          store.actions
        observations := store.observations ++ [observation]
        checkpoints := store.checkpoints ++ [checkpoint] } := by
  simp only [completeAction, bind_eq_ok, raiseIf_eq_ok, orRaise_eq_ok, Table.insert_eq_some,
    not_not] at h
  obtain ⟨⟨⟩, hlatest, -, hone, -, -, -, ⟨hobs, rfl⟩, hinsert⟩ := h
  obtain ⟨hfresh, rfl⟩ := insertCheckpoint_ok hinsert
  exact ⟨assertLatest_ok hkeys hmem hlatest, hone, hobs, hfresh, rfl⟩

/-- An external reservation counts the actions used, started and reserved externally. -/
theorem reserveExternalActions_ok {row : ReservationRow}
    (h : store.reserveExternalActions row = .ok store') : store' = store ∨
      (row.actionCount ≠ 0 ∧ store.reservationRow row.reservationId = none) ∧
      ∃ latest plan, store.latest row.planId = .ok latest ∧ store.plan row.planId = .ok plan ∧
      (latest.checkpointId = row.sourceCheckpointId ∧ latest.status = .running) ∧
      latest.actionsUsed + store.startedActions row.planId + store.reservedActions row.planId +
        row.actionCount ≤ plan.maxActions ∧
      store' = { store with reservations := store.reservations ++ [row] } := by
  simp only [reserveExternalActions, bind_eq_ok, raiseIf_eq_ok] at h
  obtain ⟨-, hcount, h⟩ := h
  split at h
  · simp only [bind_eq_ok, pure_eq_ok] at h
    obtain ⟨-, -, rfl⟩ := h
    exact Or.inl rfl
  next hnew =>
    simp only [bind_eq_ok, raiseIf_eq_ok, orRaise_eq_ok, pure_eq_ok, Table.insert_eq_some,
      not_or, not_not, not_lt] at h
    obtain ⟨latest, hlatest, -, hcurrent, plan, hplan, -, hbudget, -, -, -, ⟨-, rfl⟩, rfl⟩ := h
    exact Or.inr ⟨⟨hcount, hnew⟩, latest, plan, hlatest, hplan, hcurrent, hbudget, rfl⟩

/-- A first reservation that fits next to the actions used, started and reserved externally is
stored. -/
theorem reserveExternalActions_new {row : ReservationRow} {latest : RedTeamCheckpoint}
    (hcount : row.actionCount ≠ 0) (hnew : store.reservationRow row.reservationId = none)
    (hlatest : store.latest row.planId = .ok latest) (hplan : store.plan row.planId = .ok plan)
    (hcurrent : latest.checkpointId = row.sourceCheckpointId ∧ latest.status = .running)
    (hbudget : latest.actionsUsed + store.startedActions row.planId +
      store.reservedActions row.planId + row.actionCount ≤ plan.maxActions) :
    store.reserveExternalActions row =
      .ok { store with reservations := store.reservations ++ [row] } := by
  obtain ⟨hmem, hid⟩ := plan_ok hplan
  have hfree : ∀ r ∈ store.reservations, reservationClash row r = false := by
    intro r hr
    have hne := List.find?_eq_none.1 hnew r hr
    simpa [reservationClash, eq_comm] using hne
  simp only [reserveExternalActions, hnew, bind_eq_ok, raiseIf_eq_ok, orRaise_eq_ok, pure_eq_ok,
    Table.insert_eq_some]
  refine ⟨(), hcount, latest, hlatest, (), ?_, plan, hplan, (), by omega, (), ?_, _,
    ⟨hfree, rfl⟩, rfl⟩
  · simp [hcurrent.1, hcurrent.2]
  · exact not_not.2 ⟨plan, hmem, hid⟩

theorem admitReplan_ok {proposal : RedTeamReplanProposal} {admission : RedTeamReplanAdmission}
    (h : store.admitReplan proposal admission = .ok store') :
    store' = store ∨ ∃ latest plan, store.latest admission.flowPlanId = .ok latest ∧
      store.plan admission.flowPlanId = .ok plan ∧
      latest.actionsUsed + store.startedActions admission.flowPlanId +
        store.reservedActions admission.flowPlanId +
        store.reservedReplanActions admission.flowPlanId < plan.maxActions ∧
      (∀ r ∈ store.admissions,
        admissionClash ⟨proposal.proposalId, admission, .reserved⟩ r = false) ∧
      store' = { store with
        proposals := store.proposals ++ [proposal]
        admissions := store.admissions ++ [⟨proposal.proposalId, admission, .reserved⟩] } := by
  unfold admitReplan at h
  split at h
  · simp only [bind_eq_ok, pure_eq_ok] at h
    obtain ⟨-, -, -, -, -, -, rfl⟩ := h
    exact Or.inl rfl
  · simp only [remainingActionBudget, bind_eq_ok, raiseIf_eq_ok, orRaise_eq_ok, pure_eq_ok,
      Table.insert_eq_some, not_or, not_lt] at h
    obtain ⟨latest, hlatest, remaining, ⟨plan, hplan, latest', hlatest', hremaining⟩, -,
      ⟨-, -, hone⟩, -, ⟨-, rfl⟩, -, -, -, ⟨hfresh, rfl⟩, rfl⟩ := h
    rw [hlatest] at hlatest'
    cases hlatest'
    exact Or.inr ⟨latest, plan, hlatest, hplan, by omega, hfresh, rfl⟩

theorem releaseReplanAdmission_ok {admissionId : Digest} {state : AdmissionState}
    (h : store.releaseReplanAdmission admissionId state = .ok store') : state ≠ .reserved ∧
      Table.rowcount (AdmissionRow.holds admissionId) store.admissions = 1 ∧
      store' = { store with
        admissions := Table.update (AdmissionRow.holds admissionId)
          (AdmissionRow.setState state) store.admissions } := by
  simp only [releaseReplanAdmission, bind_eq_ok, raiseIf_eq_ok, pure_eq_ok, not_not] at h
  obtain ⟨-, hstate, -, hone, rfl⟩ := h
  refine ⟨?_, hone, rfl⟩
  rintro rfl
  exact hstate ⟨by decide, by decide⟩

end RedTeamStore

end VulnLoom

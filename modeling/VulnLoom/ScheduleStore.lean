import VulnLoom.ScheduleStateMachine
import VulnLoom.Table
import VulnLoom.Transition

/-!
# The schedule store

Three tables : the schedules, the checkpoints of each by revision, and the runs by slot. A call
of the store is given the schedule, the checkpoint and the run that its caller read before, and
holds them against the tables : the checkpoint is still the latest, the run still the one that
was read. A row of the runs keeps the columns it was inserted with beside its payload.
-/

set_option linter.unusedSectionVars false

namespace VulnLoom

variable [CanonicalDigest EndpointCheckSchedule] [CanonicalDigest EndpointScheduleCheckpoint]
  [CanonicalDigest RunIdentity]

/-- A row of `endpoint_schedule_runs`. -/
structure ScheduleRunRow where
  scheduleId : Digest
  scheduledFor : Time
  run : EndpointScheduleRun

/-- The slot a row was claimed for. -/
def ScheduleRunRow.slot (row : ScheduleRunRow) : RunIdentity :=
  ⟨row.scheduleId, row.scheduledFor⟩

structure ScheduleTables where
  schedules : List EndpointCheckSchedule
  checkpoints : List EndpointScheduleCheckpoint
  runs : List ScheduleRunRow

def ScheduleTables.empty : ScheduleTables :=
  ⟨[], [], []⟩

def scheduleClash (a b : EndpointCheckSchedule) : Bool :=
  a.scheduleId = b.scheduleId ∨ a.idempotencyKey = b.idempotencyKey

def scheduleCheckpointClash (a b : EndpointScheduleCheckpoint) : Bool :=
  (a.scheduleId = b.scheduleId ∧ a.revision = b.revision) ∨ a.checkpointId = b.checkpointId

def scheduleRunClash (a b : ScheduleRunRow) : Bool :=
  a.run.scheduleRunId = b.run.scheduleRunId ∨ a.slot = b.slot

/-- The row that `claim` inserts. -/
def EndpointScheduleRun.row (run : EndpointScheduleRun) : ScheduleRunRow :=
  ⟨run.scheduleId, run.scheduledFor, run⟩

structure EndpointScheduleClaim where
  checkpoint : EndpointScheduleCheckpoint
  run : EndpointScheduleRun
  created : Bool

/-- `except sqlite3.IntegrityError` around a transaction. -/
def raced {α : Type} (reason : String) : Except ScheduleError α → Except ScheduleError α
  | .error .integrityError => .error (.storeRejected reason)
  | result => result

theorem raced_eq_ok {α : Type} {reason : String} {result : Except ScheduleError α} {a : α} :
    raced reason result = .ok a ↔ result = .ok a := by
  unfold raced
  split <;> simp

namespace ScheduleTables

variable (tables : ScheduleTables)

/-! ## Reads -/

/-- `schedule`. -/
def schedule (scheduleId : Digest) : Except ScheduleError EndpointCheckSchedule :=
  orRaise (tables.schedules.find? fun schedule => schedule.scheduleId = scheduleId)
    (.storeRejected "Endpoint Schedule is unavailable")

/-- `latest`. -/
def latest (scheduleId : Digest) : Except ScheduleError EndpointScheduleCheckpoint :=
  orRaise ((tables.checkpoints.filter fun checkpoint =>
      checkpoint.scheduleId = scheduleId).argmax fun checkpoint => checkpoint.revision)
    (.storeRejected "Endpoint Schedule checkpoint is unavailable")

/-- `run`. -/
def run (runId : Digest) : Except ScheduleError EndpointScheduleRun := do
  let row ← orRaise (tables.runs.find? fun row => row.run.scheduleRunId = runId)
    (.storeRejected "Endpoint Schedule Run is unavailable")
  return row.run

/-- `_assert_latest`. -/
def assertLatest (checkpoint : EndpointScheduleCheckpoint) : Except ScheduleError Unit := do
  let latest ← tables.latest checkpoint.scheduleId
  raiseIf (latest ≠ checkpoint) (.storeRejected "Endpoint Schedule checkpoint is stale")

/-- `_assert_transition`. -/
def assertTransition (previous checkpoint : EndpointScheduleCheckpoint) :
    Except ScheduleError Unit :=
  raiseIf (checkpoint.scheduleId ≠ previous.scheduleId ∨
      checkpoint.revision ≠ previous.revision + 1 ∨ checkpoint.updatedAt < previous.updatedAt)
    (.storeRejected "Endpoint Schedule checkpoint transition is invalid")

/-! ## Writes -/

/-- `_insert_checkpoint`; the schedule of a checkpoint is a foreign key. -/
def insertCheckpoint (checkpoint : EndpointScheduleCheckpoint) :
    Except ScheduleError ScheduleTables := do
  raiseIf (∀ schedule ∈ tables.schedules, schedule.scheduleId ≠ checkpoint.scheduleId)
    .integrityError
  let checkpoints ← orRaise
    (Table.insert scheduleCheckpointClash tables.checkpoints checkpoint) .integrityError
  return { tables with checkpoints := checkpoints }

/-- `create`. -/
def create (schedule : EndpointCheckSchedule) :
    Except ScheduleError (ScheduleTables × EndpointScheduleCheckpoint) :=
  raced "Endpoint Schedule creation raced" do
    match tables.schedules.find? (scheduleClash schedule) with
    | some existing =>
      raiseIf (existing ≠ schedule)
        (.storeRejected "Endpoint Schedule identity was reused for different content")
      let latest ← tables.latest existing.scheduleId
      return (tables, latest)
    | none =>
      let created ← insertCheckpoint
        { tables with schedules := tables.schedules ++ [schedule] }
        (EndpointSchedule.start schedule)
      return (created, EndpointSchedule.start schedule)

/-- The answer of `claim` where the slot has a run. -/
def answerClaim (run : EndpointScheduleRun) (row : ScheduleRunRow) :
    Except ScheduleError (ScheduleTables × EndpointScheduleClaim) := do
  raiseIf (row.run.scheduleRunId ≠ run.scheduleRunId)
    (.storeRejected "Endpoint Schedule slot identity conflict")
  raiseIf (row.run.state = .started)
    (.recoveryRequired "Endpoint Schedule Run requires explicit recovery")
  let latest ← tables.latest run.scheduleId
  return (tables, ⟨latest, row.run, false⟩)

/-- The inserts of `claim`. -/
def insertClaim (advanced : EndpointScheduleCheckpoint) (run : EndpointScheduleRun) :
    Except ScheduleError (ScheduleTables × EndpointScheduleClaim) := do
  let runs ← orRaise (Table.insert scheduleRunClash tables.runs run.row) .integrityError
  let claimed ← insertCheckpoint { tables with runs := runs } advanced
  return (claimed, ⟨advanced, run, true⟩)

/-- `claim`. -/
def claim (schedule : EndpointCheckSchedule) (checkpoint : EndpointScheduleCheckpoint)
    (now : Time) : Except ScheduleError (ScheduleTables × EndpointScheduleClaim) := do
  let (advanced, run) ← EndpointSchedule.claimRun schedule checkpoint now
  raced "Endpoint Schedule Run claim raced" do
    let stored ← tables.schedule schedule.scheduleId
    raiseIf (stored ≠ schedule) (.storeRejected "Endpoint Schedule authoritative record changed")
    tables.assertLatest checkpoint
    match tables.runs.find? (scheduleRunClash run.row) with
    | some row => tables.answerClaim run row
    | none => tables.insertClaim advanced run

/-- The started run with an identifier, at the attempt that was read. -/
def awaitsRun (before : EndpointScheduleRun) (row : ScheduleRunRow) : Bool :=
  row.run.scheduleRunId = before.scheduleRunId ∧ row.run.state = .started ∧
    row.run.attempt = before.attempt

/-- Write a run over the one that was read. -/
def updateRun (before after : EndpointScheduleRun) (reason : String) :
    Except ScheduleError ScheduleTables := do
  raiseIf (Table.rowcount (awaitsRun before) tables.runs ≠ 1) (.recoveryRequired reason)
  return { tables with
    runs := Table.update (awaitsRun before) (fun row => { row with run := after }) tables.runs }

/-- `recover`. -/
def recover (runId : Digest) (now : Time) :
    Except ScheduleError (ScheduleTables × EndpointScheduleClaim) := do
  let run ← tables.run runId
  let checkpoint ← tables.latest run.scheduleId
  raiseIf (checkpoint.activeRunId ≠ some run.scheduleRunId)
    (.recoveryRequired "Endpoint Schedule active run binding is invalid")
  let recovered ← EndpointSchedule.recoverRun run now
  let updated ← tables.updateRun run recovered "Endpoint Schedule Run recovery raced"
  return (updated, ⟨checkpoint, recovered, true⟩)

/-- `_finish`, of the transition that the state machine made. -/
def finish (previous : EndpointScheduleCheckpoint) (before : EndpointScheduleRun)
    (transition : EndpointScheduleCheckpoint × EndpointScheduleRun) :
    Except ScheduleError (ScheduleTables × EndpointScheduleClaim) := do
  let (checkpoint, after) := transition
  assertTransition previous checkpoint
  raiseIf (previous.activeRunId ≠ some before.scheduleRunId ∨
      after.scheduleRunId ≠ before.scheduleRunId ∨ checkpoint.activeRunId ≠ none ∨
      checkpoint.lastRunId ≠ some after.scheduleRunId)
    (.storeRejected "Endpoint Schedule Run completion binding is invalid")
  tables.assertLatest previous
  let updated ← tables.updateRun before after "Endpoint Schedule Run completion raced"
  let finished ← updated.insertCheckpoint checkpoint
  return (finished, ⟨checkpoint, after, true⟩)

/-- `materialize`. -/
def materialize (schedule : EndpointCheckSchedule) (checkpoint : EndpointScheduleCheckpoint)
    (run : EndpointScheduleRun) (flowPlanId seedSetId endpointReconPlanId : Digest) (now : Time) :
    Except ScheduleError (ScheduleTables × EndpointScheduleClaim) := do
  let transition ← EndpointSchedule.materializeRun schedule checkpoint run flowPlanId seedSetId
    endpointReconPlanId now
  tables.finish checkpoint run transition

/-- `timeout`. -/
def timeout (schedule : EndpointCheckSchedule) (checkpoint : EndpointScheduleCheckpoint)
    (run : EndpointScheduleRun) (cleanupComplete : Bool) (now : Time) :
    Except ScheduleError (ScheduleTables × EndpointScheduleClaim) := do
  let transition ← EndpointSchedule.timeoutRun schedule checkpoint run cleanupComplete now
  tables.finish checkpoint run transition

/-- `fail`. -/
def fail (schedule : EndpointCheckSchedule) (checkpoint : EndpointScheduleCheckpoint)
    (run : EndpointScheduleRun) (cleanupComplete : Bool) (now : Time) :
    Except ScheduleError (ScheduleTables × EndpointScheduleClaim) := do
  let transition ← EndpointSchedule.failRun schedule checkpoint run cleanupComplete now
  tables.finish checkpoint run transition

/-- `advance`. -/
def advance (previous checkpoint : EndpointScheduleCheckpoint) :
    Except ScheduleError (ScheduleTables × EndpointScheduleCheckpoint) := do
  assertTransition previous checkpoint
  tables.assertLatest previous
  let advanced ← tables.insertCheckpoint checkpoint
  return (advanced, checkpoint)

/-- A lifecycle call of the service, after its checks : a transition that changes nothing writes
nothing. -/
def lifecycle (checkpoint : EndpointScheduleCheckpoint)
    (transition : Except ScheduleError EndpointScheduleCheckpoint) :
    Except ScheduleError (ScheduleTables × EndpointScheduleCheckpoint) := do
  let advanced ← transition
  if advanced = checkpoint then return (tables, checkpoint)
  tables.advance checkpoint advanced

end ScheduleTables

/-! ## Calls -/

inductive ScheduleCall
  | create (schedule : EndpointCheckSchedule)
  | claim (schedule : EndpointCheckSchedule) (checkpoint : EndpointScheduleCheckpoint) (now : Time)
  | recover (runId : Digest) (now : Time)
  | materialize (schedule : EndpointCheckSchedule) (checkpoint : EndpointScheduleCheckpoint)
      (run : EndpointScheduleRun) (flowPlanId seedSetId endpointReconPlanId : Digest) (now : Time)
  | timeout (schedule : EndpointCheckSchedule) (checkpoint : EndpointScheduleCheckpoint)
      (run : EndpointScheduleRun) (cleanupComplete : Bool) (now : Time)
  | fail (schedule : EndpointCheckSchedule) (checkpoint : EndpointScheduleCheckpoint)
      (run : EndpointScheduleRun) (cleanupComplete : Bool) (now : Time)
  | pause (schedule : EndpointCheckSchedule) (checkpoint : EndpointScheduleCheckpoint) (now : Time)
  | resume (schedule : EndpointCheckSchedule) (checkpoint : EndpointScheduleCheckpoint)
      (now : Time)
  | cancel (schedule : EndpointCheckSchedule) (checkpoint : EndpointScheduleCheckpoint)
      (now : Time)
  | expire (schedule : EndpointCheckSchedule) (checkpoint : EndpointScheduleCheckpoint)
      (now : Time)

/-- The tables and the checkpoint that a claim comes with. -/
def claimed (result : Except ScheduleError (ScheduleTables × EndpointScheduleClaim)) :
    Except ScheduleError (ScheduleTables × EndpointScheduleCheckpoint) := do
  let (tables, claim) ← result
  return (tables, claim.checkpoint)

/-- The tables after a call, and the checkpoint it returns. -/
def ScheduleCall.exec (tables : ScheduleTables) :
    ScheduleCall → Except ScheduleError (ScheduleTables × EndpointScheduleCheckpoint)
  | create schedule => tables.create schedule
  | claim schedule checkpoint now => claimed (tables.claim schedule checkpoint now)
  | recover runId now => claimed (tables.recover runId now)
  | materialize schedule checkpoint run flowPlanId seedSetId endpointReconPlanId now =>
    claimed (tables.materialize schedule checkpoint run flowPlanId seedSetId endpointReconPlanId
      now)
  | timeout schedule checkpoint run cleanupComplete now =>
    claimed (tables.timeout schedule checkpoint run cleanupComplete now)
  | fail schedule checkpoint run cleanupComplete now =>
    claimed (tables.fail schedule checkpoint run cleanupComplete now)
  | pause schedule checkpoint now =>
    tables.lifecycle checkpoint (EndpointSchedule.pause schedule checkpoint now)
  | resume schedule checkpoint now =>
    tables.lifecycle checkpoint (EndpointSchedule.resume schedule checkpoint now)
  | cancel schedule checkpoint now =>
    tables.lifecycle checkpoint (EndpointSchedule.cancel schedule checkpoint now)
  | expire schedule checkpoint now =>
    tables.lifecycle checkpoint (EndpointSchedule.expire schedule checkpoint now)

/-- The tables after a call : one that raises changes nothing. -/
def ScheduleCall.step : ScheduleTables → ScheduleCall → ScheduleTables :=
  Transition.settle fun tables call => (call.exec tables).map Prod.fst

end VulnLoom

import VulnLoom.EndpointReconModels

/-!
# Endpoint schedules

The records of a recurring endpoint check, and the transitions of its checkpoint. A schedule has
a slot at its start and one after each interval; a run is claimed for the next one that is due.
Of the models only the conditions on the window, the budget and the states are kept, not the
grammar of targets, paths and references.
-/

namespace VulnLoom

/-- An exception of the schedule modules. -/
inductive ScheduleError
  | transitionRejected (reason : String)
  | storeRejected (reason : String)
  | recoveryRequired (reason : String)
  /-- a `ValidationError` of a record -/
  | invalid (reason : String)
  /-- an `IntegrityError` of the database -/
  | integrityError
  /-- an `OverflowError` of a `datetime` -/
  | overflow
  deriving DecidableEq

/-! ## Records -/

inductive Visibility
  | blackBox
  | greyBox
  | whiteBox
  | hybrid
  deriving DecidableEq

inductive EndpointScheduleState
  | active
  | paused
  | cancelled
  | expired
  deriving DecidableEq

inductive EndpointScheduleRunState
  | started
  | materialized
  | timedOut
  | failed
  deriving DecidableEq

structure EndpointCheckSchedule where
  scopeId : UUID
  scopeVersion : ℕ
  targetUrl : String
  visibility : Visibility
  testClass : String
  operatorRef : String
  emergencyContactRef : String
  paths : List String
  intervalSeconds : ℕ
  runTtlSeconds : ℕ
  maxConsecutiveFailures : ℕ
  reconLimits : EndpointReconLimits
  activeFrom : Time
  activeUntil : Time
  createdAt : Time
  idempotencyKey : String
  interval_bounds : 60 ≤ intervalSeconds ∧ intervalSeconds ≤ 2592000
  ttl_bounds : 1 ≤ runTtlSeconds ∧ runTtlSeconds ≤ 300
  read_only : (visibility = .blackBox ∨ visibility = .greyBox) ∧ testClass = "read_only"
  window : createdAt ≤ activeFrom ∧ activeFrom < activeUntil
  budget : paths.length ≤ min reconLimits.maxSteps reconLimits.maxRequests ∧
    reconLimits.totalSeconds ≤ runTtlSeconds
  deriving DecidableEq

structure CheckpointFields where
  scheduleId : Digest
  revision : ℕ
  state : EndpointScheduleState
  nextDueAt : Time
  activeRunId : Option Digest
  lastRunId : Option Digest
  reasonCode : Option String
  updatedAt : Time
  deriving DecidableEq

/-- The validator of a checkpoint. -/
def CheckpointFields.Sealed (fields : CheckpointFields) : Prop :=
  (fields.state = .active ↔ fields.reasonCode = none) ∧
    (fields.activeRunId ≠ none → fields.state = .active)

instance CheckpointFields.decidableSealed (fields : CheckpointFields) : Decidable fields.Sealed :=
  inferInstanceAs (Decidable (_ ∧ _))

structure EndpointScheduleCheckpoint extends CheckpointFields where
  is_sealed : toCheckpointFields.Sealed
  deriving DecidableEq

/-- `EndpointScheduleCheckpoint.create`. -/
def EndpointScheduleCheckpoint.create (fields : CheckpointFields) :
    Except ScheduleError EndpointScheduleCheckpoint :=
  if h : fields.Sealed then .ok ⟨fields, h⟩
  else .error (.invalid "Endpoint Schedule checkpoint state is inconsistent")

theorem EndpointScheduleCheckpoint.create_eq_ok {fields : CheckpointFields}
    {checkpoint : EndpointScheduleCheckpoint} :
    create fields = .ok checkpoint ↔ checkpoint.toCheckpointFields = fields := by
  unfold create
  split_ifs with h
  · constructor
    · intro hok
      cases hok
      rfl
    · rintro rfl
      rfl
  · constructor
    · intro hok
      cases hok
    · rintro rfl
      exact absurd checkpoint.is_sealed h

structure RunFields where
  scheduleId : Digest
  scheduledFor : Time
  state : EndpointScheduleRunState
  attempt : ℕ
  startedAt : Time
  deadline : Time
  flowPlanId : Option Digest
  seedSetId : Option Digest
  endpointReconPlanId : Option Digest
  cleanupComplete : Option Bool
  terminalReason : Option String
  completedAt : Option Time

namespace RunFields

variable (fields : RunFields)

def ids : List (Option Digest) :=
  [fields.flowPlanId, fields.seedSetId, fields.endpointReconPlanId]

/-- The validator of a run. -/
def Sealed : Prop :=
  (1 ≤ fields.attempt ∧ fields.attempt ≤ 3) ∧
    (fields.startedAt < fields.deadline ∧ fields.scheduledFor ≤ fields.startedAt) ∧
    (fields.state ≠ .started ↔ fields.completedAt.isSome) ∧
    (fields.state ≠ .started ↔ fields.terminalReason.isSome) ∧
    (fields.state ≠ .started ↔ fields.cleanupComplete.isSome) ∧
    (fields.state = .materialized →
      (∀ id ∈ fields.ids, id.isSome) ∧ fields.cleanupComplete = some true) ∧
    (fields.state = .started → ∀ id ∈ fields.ids, id.isNone) ∧
    (∀ completed ∈ fields.completedAt, fields.startedAt ≤ completed) ∧
    (fields.state = .timedOut → ∀ completed ∈ fields.completedAt, fields.deadline ≤ completed) ∧
    (fields.state = .failed → fields.attempt = 3)

instance : Decidable fields.Sealed :=
  inferInstanceAs (Decidable (_ ∧ _))

end RunFields

structure EndpointScheduleRun extends RunFields where
  is_sealed : toRunFields.Sealed

/-- `EndpointScheduleRun.create`. -/
def EndpointScheduleRun.create (fields : RunFields) : Except ScheduleError EndpointScheduleRun :=
  if h : fields.Sealed then .ok ⟨fields, h⟩
  else .error (.invalid "Endpoint Schedule Run state is inconsistent")

theorem EndpointScheduleRun.create_eq_ok {fields : RunFields} {run : EndpointScheduleRun} :
    create fields = .ok run ↔ run.toRunFields = fields := by
  unfold create
  split_ifs with h
  · constructor
    · intro hok
      cases hok
      rfl
    · rintro rfl
      rfl
  · constructor
    · intro hok
      cases hok
    · rintro rfl
      exact absurd run.is_sealed h

/-! ## Times -/

/-- The last instant of a `datetime`, in microseconds from the first day of year 1. -/
def datetimeMax : Time :=
  315537897599999999

/-- `moment + timedelta(seconds=seconds)`. -/
def addSeconds (moment : Time) (seconds : ℕ) : Except ScheduleError Time :=
  if moment + seconds * 1000000 ≤ datetimeMax then .ok (moment + seconds * 1000000)
  else .error .overflow

theorem addSeconds_eq_ok {moment later : Time} {seconds : ℕ} :
    addSeconds moment seconds = .ok later ↔
      moment + seconds * 1000000 ≤ datetimeMax ∧ later = moment + seconds * 1000000 := by
  unfold addSeconds
  split_ifs with h
  · simp [h, eq_comm]
  · simp [h]

/-- `max(0.0, (later - moment).total_seconds())` : a number of microseconds over a million, as a
double. -/
def elapsedSeconds (moment later : Time) : ℚ :=
  Doubles.toDouble (((later - moment : ℕ) : ℚ) / 1000000)

/-! ## Identifiers -/

/-- What the identifier of a run is the digest of. -/
structure RunIdentity where
  scheduleId : Digest
  scheduledFor : Time
  deriving DecidableEq

variable [CanonicalDigest EndpointCheckSchedule] [CanonicalDigest EndpointScheduleCheckpoint]
  [CanonicalDigest RunIdentity]

def EndpointCheckSchedule.scheduleId (schedule : EndpointCheckSchedule) : Digest :=
  canonicalDigest schedule

def EndpointScheduleCheckpoint.checkpointId (checkpoint : EndpointScheduleCheckpoint) : Digest :=
  canonicalDigest checkpoint

def EndpointScheduleRun.scheduleRunId (run : EndpointScheduleRun) : Digest :=
  canonicalDigest (RunIdentity.mk run.scheduleId run.scheduledFor)

/-! ## Transitions -/

namespace EndpointSchedule

/-- `_identity`. -/
def identity (schedule : EndpointCheckSchedule) (checkpoint : EndpointScheduleCheckpoint) :
    Except ScheduleError Unit :=
  raiseIf (checkpoint.scheduleId ≠ schedule.scheduleId)
    (.transitionRejected "Endpoint Schedule checkpoint is foreign")

/-- `_current`. -/
def current (schedule : EndpointCheckSchedule) (checkpoint : EndpointScheduleCheckpoint)
    (now : Time) (allowWindowEnd : Bool) : Except ScheduleError Unit := do
  identity schedule checkpoint
  raiseIf (now < checkpoint.updatedAt ∨ now < schedule.activeFrom)
    (.transitionRejected "Endpoint Schedule time is invalid")
  raiseIf (allowWindowEnd = false ∧ schedule.activeUntil ≤ now)
    (.transitionRejected "Endpoint Schedule window elapsed")

/-- `_next`. -/
def next (checkpoint : EndpointScheduleCheckpoint) (now : Time)
    (changes : CheckpointFields → CheckpointFields) :
    Except ScheduleError EndpointScheduleCheckpoint :=
  EndpointScheduleCheckpoint.create { changes checkpoint.toCheckpointFields with
    revision := checkpoint.revision + 1
    updatedAt := now }

/-- `_replace_run`. -/
def replaceRun (run : EndpointScheduleRun) (changes : RunFields → RunFields) :
    Except ScheduleError EndpointScheduleRun :=
  EndpointScheduleRun.create (changes run.toRunFields)

/-- How many intervals after the slot the next one is. -/
def steps (schedule : EndpointCheckSchedule) (previousDue now : Time) : ℕ :=
  ⌊elapsedSeconds previousDue now / schedule.intervalSeconds⌋₊ + 1

/-- `_next_due`. -/
def nextDue (schedule : EndpointCheckSchedule) (previousDue now : Time) :
    Except ScheduleError Time :=
  addSeconds previousDue (schedule.intervalSeconds * steps schedule previousDue now)

/-- `start_endpoint_schedule`. -/
def start (schedule : EndpointCheckSchedule) : EndpointScheduleCheckpoint where
  scheduleId := schedule.scheduleId
  revision := 0
  state := .active
  nextDueAt := schedule.activeFrom
  activeRunId := none
  lastRunId := none
  reasonCode := none
  updatedAt := schedule.createdAt
  is_sealed := ⟨by simp, by simp⟩

/-- `claim_endpoint_schedule_run`. -/
def claimRun (schedule : EndpointCheckSchedule) (checkpoint : EndpointScheduleCheckpoint)
    (now : Time) : Except ScheduleError (EndpointScheduleCheckpoint × EndpointScheduleRun) := do
  current schedule checkpoint now false
  raiseIf (checkpoint.state ≠ .active) (.transitionRejected "Endpoint Schedule is not active")
  raiseIf (checkpoint.activeRunId ≠ none)
    (.transitionRejected "Endpoint Schedule already has an active run")
  raiseIf (now < checkpoint.nextDueAt) (.transitionRejected "Endpoint Schedule is not due")
  let ttl ← addSeconds now schedule.runTtlSeconds
  let run ← EndpointScheduleRun.create {
    scheduleId := schedule.scheduleId
    scheduledFor := checkpoint.nextDueAt
    state := .started
    attempt := 1
    startedAt := now
    deadline := min ttl schedule.activeUntil
    flowPlanId := none
    seedSetId := none
    endpointReconPlanId := none
    cleanupComplete := none
    terminalReason := none
    completedAt := none }
  let advanced ← next checkpoint now fun fields =>
    { fields with activeRunId := some run.scheduleRunId }
  return (advanced, run)

/-- `recover_endpoint_schedule_run`. -/
def recoverRun (run : EndpointScheduleRun) (now : Time) :
    Except ScheduleError EndpointScheduleRun := do
  raiseIf (run.state ≠ .started)
    (.transitionRejected "Endpoint Schedule Run is not awaiting recovery")
  raiseIf (now < run.startedAt ∨ run.deadline ≤ now)
    (.transitionRejected "Endpoint Schedule Run recovery window elapsed")
  raiseIf (3 ≤ run.attempt)
    (.transitionRejected "Endpoint Schedule Run recovery attempts are exhausted")
  replaceRun run fun fields => { fields with attempt := run.attempt + 1 }

/-- `_active_run`. -/
def activeRun (schedule : EndpointCheckSchedule) (checkpoint : EndpointScheduleCheckpoint)
    (run : EndpointScheduleRun) (now : Time) (allowDeadline : Bool) :
    Except ScheduleError Unit := do
  current schedule checkpoint now allowDeadline
  raiseIf (checkpoint.activeRunId ≠ some run.scheduleRunId ∨
      run.scheduleId ≠ schedule.scheduleId ∨ run.state ≠ .started ∨
      (allowDeadline = false ∧ run.deadline ≤ now))
    (.transitionRejected "Endpoint Schedule active run is inconsistent")

/-- `_finish`. -/
def finish (schedule : EndpointCheckSchedule) (checkpoint : EndpointScheduleCheckpoint)
    (run : EndpointScheduleRun) (now : Time) (pauseReason : Option String) :
    Except ScheduleError (EndpointScheduleCheckpoint × EndpointScheduleRun) := do
  let due ← nextDue schedule run.scheduledFor now
  let advanced ← next checkpoint now fun fields =>
    { fields with
      state := if pauseReason = none then .active else .paused
      nextDueAt := due
      activeRunId := none
      lastRunId := some run.scheduleRunId
      reasonCode := pauseReason }
  return (advanced, run)

/-- `materialize_endpoint_schedule_run`. -/
def materializeRun (schedule : EndpointCheckSchedule) (checkpoint : EndpointScheduleCheckpoint)
    (run : EndpointScheduleRun) (flowPlanId seedSetId endpointReconPlanId : Digest) (now : Time) :
    Except ScheduleError (EndpointScheduleCheckpoint × EndpointScheduleRun) := do
  activeRun schedule checkpoint run now false
  let completed ← replaceRun run fun fields =>
    { fields with
      state := .materialized
      flowPlanId := some flowPlanId
      seedSetId := some seedSetId
      endpointReconPlanId := some endpointReconPlanId
      cleanupComplete := some true
      terminalReason := some "flow_materialized"
      completedAt := some now }
  finish schedule checkpoint completed now none

/-- `timeout_endpoint_schedule_run`. -/
def timeoutRun (schedule : EndpointCheckSchedule) (checkpoint : EndpointScheduleCheckpoint)
    (run : EndpointScheduleRun) (cleanupComplete : Bool) (now : Time) :
    Except ScheduleError (EndpointScheduleCheckpoint × EndpointScheduleRun) := do
  raiseIf (now < run.deadline)
    (.transitionRejected "Endpoint Schedule Run deadline has not elapsed")
  activeRun schedule checkpoint run now true
  let timedOut ← replaceRun run fun fields =>
    { fields with
      state := .timedOut
      cleanupComplete := some cleanupComplete
      terminalReason := some "materialization_timed_out"
      completedAt := some now }
  finish schedule checkpoint timedOut now
    (if cleanupComplete then none else some "cleanup_unproven")

/-- `fail_endpoint_schedule_run`. -/
def failRun (schedule : EndpointCheckSchedule) (checkpoint : EndpointScheduleCheckpoint)
    (run : EndpointScheduleRun) (cleanupComplete : Bool) (now : Time) :
    Except ScheduleError (EndpointScheduleCheckpoint × EndpointScheduleRun) := do
  activeRun schedule checkpoint run now true
  let failed ← replaceRun run fun fields =>
    { fields with
      state := .failed
      cleanupComplete := some cleanupComplete
      terminalReason := some "materialization_attempts_exhausted"
      completedAt := some now }
  finish schedule checkpoint failed now (some "materialization_attempts_exhausted")

/-- `pause_endpoint_schedule`. -/
def pause (schedule : EndpointCheckSchedule) (checkpoint : EndpointScheduleCheckpoint)
    (now : Time) : Except ScheduleError EndpointScheduleCheckpoint := do
  current schedule checkpoint now false
  if checkpoint.state = .paused then return checkpoint
  raiseIf (checkpoint.state ≠ .active ∨ checkpoint.activeRunId ≠ none)
    (.transitionRejected "Endpoint Schedule cannot be paused")
  next checkpoint now fun fields =>
    { fields with state := .paused, reasonCode := some "operator_paused" }

/-- `resume_endpoint_schedule`. -/
def resume (schedule : EndpointCheckSchedule) (checkpoint : EndpointScheduleCheckpoint)
    (now : Time) : Except ScheduleError EndpointScheduleCheckpoint := do
  current schedule checkpoint now false
  if checkpoint.state = .active then return checkpoint
  raiseIf (checkpoint.state ≠ .paused) (.transitionRejected "Endpoint Schedule is not paused")
  let due ← nextDue schedule checkpoint.nextDueAt now
  next checkpoint now fun fields =>
    { fields with state := .active, nextDueAt := due, reasonCode := none }

/-- `cancel_endpoint_schedule`. -/
def cancel (schedule : EndpointCheckSchedule) (checkpoint : EndpointScheduleCheckpoint)
    (now : Time) : Except ScheduleError EndpointScheduleCheckpoint := do
  current schedule checkpoint now true
  if checkpoint.state = .cancelled ∨ checkpoint.state = .expired then return checkpoint
  raiseIf (checkpoint.activeRunId ≠ none)
    (.transitionRejected "Endpoint Schedule has an active run")
  next checkpoint now fun fields =>
    { fields with state := .cancelled, reasonCode := some "operator_cancelled" }

/-- `expire_endpoint_schedule`. -/
def expire (schedule : EndpointCheckSchedule) (checkpoint : EndpointScheduleCheckpoint)
    (now : Time) : Except ScheduleError EndpointScheduleCheckpoint := do
  raiseIf (now < checkpoint.updatedAt) (.transitionRejected "Endpoint Schedule time is invalid")
  raiseIf (now < schedule.activeUntil)
    (.transitionRejected "Endpoint Schedule window has not elapsed")
  identity schedule checkpoint
  if checkpoint.state = .expired then return checkpoint
  raiseIf (checkpoint.activeRunId ≠ none)
    (.transitionRejected "Endpoint Schedule has an active run")
  raiseIf (checkpoint.state = .cancelled) (.transitionRejected "Endpoint Schedule is cancelled")
  next checkpoint now fun fields =>
    { fields with state := .expired, reasonCode := some "schedule_window_elapsed" }

end EndpointSchedule

end VulnLoom

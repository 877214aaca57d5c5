import VulnLoom.ScheduleStore
import VulnLoom.TextCodec

/-!
# The slots of a schedule

Every checkpoint of a schedule is due on its grid, and no slot has two runs, whatever calls the
store is given (`Orderly`). A call is punctual if the end of a run leaves the schedule due at the
first slot after it, and a resumption passes over no slot that is still to come.

`schedule_punctual_iff` : every call of a run is punctual exactly when no paused schedule is
resumed before it is due, and no rounding of an elapsed time reaches an interval that has not
elapsed.
-/

set_option linter.unusedSectionVars false

namespace VulnLoom

open TextCodec Transition

/-! ## The grid -/

namespace EndpointCheckSchedule

variable (schedule : EndpointCheckSchedule) {previous now due : Time}

/-- The interval in microseconds. -/
def interval : Time :=
  schedule.intervalSeconds * 1000000

/-- The slots of a schedule. -/
def Grid (moment : Time) : Prop :=
  ∃ n : ℕ, moment = schedule.activeFrom + n * schedule.interval

/-- No multiple of the interval lies between the time elapsed and the double nearest to it. -/
def Exact (previous now : Time) : Prop :=
  ∀ n : ℕ, now - previous < n * schedule.interval →
    elapsedSeconds previous now < n * schedule.intervalSeconds

theorem intervalSeconds_pos : 0 < schedule.intervalSeconds := by
  have := schedule.interval_bounds.1
  omega

theorem interval_pos : 0 < schedule.interval :=
  Nat.mul_pos schedule.intervalSeconds_pos (by norm_num)

variable {schedule}

theorem Grid.add (h : schedule.Grid previous) (n : ℕ) :
    schedule.Grid (previous + n * schedule.interval) := by
  obtain ⟨m, rfl⟩ := h
  exact ⟨m + n, by rw [Nat.add_mul, Nat.add_assoc]⟩

/-- A slot no earlier than another is some intervals after it. -/
theorem Grid.exists_add {slot : Time} (hslot : schedule.Grid slot) (h : schedule.Grid previous)
    (hle : previous ≤ slot) : ∃ n : ℕ, slot = previous + n * schedule.interval := by
  obtain ⟨m, rfl⟩ := h
  obtain ⟨n, rfl⟩ := hslot
  have hmn : m ≤ n :=
    Nat.le_of_mul_le_mul_right (Nat.le_of_add_le_add_left hle) schedule.interval_pos
  obtain ⟨d, rfl⟩ := Nat.exists_eq_add_of_le hmn
  exact ⟨d, by rw [Nat.add_mul, Nat.add_assoc]⟩

/-! ## Intervals elapsed -/

theorem exact_iff :
    schedule.Exact previous now ↔
      EndpointSchedule.steps schedule previous now ≤ (now - previous) / schedule.interval + 1 := by
  have hpos : (0 : ℚ) < schedule.intervalSeconds := by exact_mod_cast schedule.intervalSeconds_pos
  rw [EndpointSchedule.steps, Nat.add_le_add_iff_right]
  constructor
  · intro h
    have hlt := h ((now - previous) / schedule.interval + 1)
      (by rw [Nat.mul_comm]; exact Nat.lt_mul_div_succ _ schedule.interval_pos)
    have hdiv := (div_lt_iff₀ hpos).mpr hlt
    exact Nat.lt_succ_iff.mp ((Nat.floor_lt' (Nat.succ_ne_zero _)).mpr hdiv)
  · intro h n hn
    have hlt : (now - previous) / schedule.interval < n :=
      (Nat.div_lt_iff_lt_mul schedule.interval_pos).mpr hn
    exact (div_lt_iff₀ hpos).mp (Nat.lt_of_floor_lt (h.trans_lt hlt))

/-- Elapsed times that a double stands for are not rounded below an interval. -/
theorem le_steps (h : ((now - previous : ℕ) : ℚ) / 1000000 < 2 ^ 53) :
    (now - previous) / schedule.interval + 1 ≤ EndpointSchedule.steps schedule previous now := by
  have hpos : (0 : ℚ) < schedule.intervalSeconds := by exact_mod_cast schedule.intervalSeconds_pos
  rw [EndpointSchedule.steps, Nat.add_le_add_iff_right]
  rcases Nat.eq_zero_or_pos (now - previous) with hzero | helapsed
  · rw [hzero, Nat.zero_div]
    exact Nat.zero_le _
  · refine Nat.le_floor ((le_div_iff₀ hpos).mpr ?_)
    have hq : (0 : ℚ) < ((now - previous : ℕ) : ℚ) / 1000000 := by
      have : (0 : ℚ) < ((now - previous : ℕ) : ℚ) := by exact_mod_cast helapsed
      positivity
    have hwhole : (((now - previous) / schedule.interval * schedule.intervalSeconds : ℕ) : ℚ) ≤
        ((now - previous : ℕ) : ℚ) / 1000000 := by
      rw [le_div_iff₀ (by norm_num)]
      have hmul := Nat.div_mul_le_self (now - previous) schedule.interval
      rw [interval, ← Nat.mul_assoc] at hmul
      exact_mod_cast hmul
    have hround := Doubles.natCast_le_toDouble hq h hwhole
    push_cast at hround
    exact hround

/-- An elapsed time below `2 ^ 34` seconds is not rounded to the next interval. -/
theorem exact_of_lt (h : ((now - previous : ℕ) : ℚ) / 1000000 < 2 ^ 34) :
    schedule.Exact previous now := by
  intro n hn
  rcases Nat.eq_zero_or_pos (now - previous) with hzero | helapsed
  · have hpos : (0 : ℚ) < n * schedule.intervalSeconds := by
      rw [hzero] at hn
      have := Nat.pos_of_mul_pos_right hn
      have := schedule.intervalSeconds_pos
      positivity
    have hround : elapsedSeconds previous now = 0 := by
      rw [elapsedSeconds, hzero]
      decide +kernel
    rw [hround]
    exact hpos
  · have hq : (0 : ℚ) < ((now - previous : ℕ) : ℚ) / 1000000 := by
      have : (0 : ℚ) < ((now - previous : ℕ) : ℚ) := by exact_mod_cast helapsed
      positivity
    have herror := (abs_le.mp (Doubles.abs_toDouble_sub_le
      (((now - previous : ℕ) : ℚ) / 1000000))).2
    have hulp := Doubles.ulp_le hq h
    have hunit : (2 : ℚ) ^ ((34 : ℕ) - 53 : ℤ) = 1 / 524288 := by norm_num
    rw [hunit] at hulp
    have hgap : ((now - previous : ℕ) : ℚ) / 1000000 + 1 / 1000000 ≤
        n * schedule.intervalSeconds := by
      rw [← add_div, div_le_iff₀ (by norm_num)]
      rw [interval, ← Nat.mul_assoc] at hn
      exact_mod_cast hn
    rw [elapsedSeconds]
    linarith

/-! ## The next slot -/

open EndpointSchedule in
theorem nextDue_eq_ok :
    nextDue schedule previous now = .ok due ↔
      previous + steps schedule previous now * schedule.interval ≤ datetimeMax ∧
        due = previous + steps schedule previous now * schedule.interval := by
  rw [nextDue, addSeconds_eq_ok, interval, Nat.mul_comm schedule.intervalSeconds, Nat.mul_assoc]

/-- A next slot is a time, so the time elapsed is one that a double stands for. -/
theorem elapsed_lt_of_nextDue (h : EndpointSchedule.nextDue schedule previous now = .ok due) :
    ((now - previous : ℕ) : ℚ) / 1000000 < 2 ^ 53 := by
  have hmax := (nextDue_eq_ok.mp h).1
  rcases Nat.eq_zero_or_pos (now - previous) with hzero | helapsed
  · rw [hzero]
    norm_num
  · have hq : (0 : ℚ) < ((now - previous : ℕ) : ℚ) / 1000000 := by
      have : (0 : ℚ) < ((now - previous : ℕ) : ℚ) := by exact_mod_cast helapsed
      positivity
    have hpos : (0 : ℚ) < schedule.intervalSeconds := by exact_mod_cast schedule.intervalSeconds_pos
    have hhalf := Doubles.half_le_toDouble hq
    have hsteps : elapsedSeconds previous now <
        EndpointSchedule.steps schedule previous now * schedule.intervalSeconds := by
      have hfloor := Nat.lt_floor_add_one (elapsedSeconds previous now / schedule.intervalSeconds)
      rw [EndpointSchedule.steps]
      push_cast
      exact (div_lt_iff₀ hpos).mp hfloor
    have hbound : EndpointSchedule.steps schedule previous now * schedule.intervalSeconds ≤
        315537897600 := by
      rw [interval, datetimeMax, ← Nat.mul_assoc] at hmax
      have hle := (Nat.le_add_left _ _).trans hmax
      omega
    have hcast : (EndpointSchedule.steps schedule previous now : ℚ) * schedule.intervalSeconds ≤
        315537897600 := by exact_mod_cast hbound
    rw [elapsedSeconds] at hsteps
    norm_num at hhalf hsteps hcast ⊢
    linarith

theorem le_steps_of_nextDue (h : EndpointSchedule.nextDue schedule previous now = .ok due) :
    (now - previous) / schedule.interval + 1 ≤ EndpointSchedule.steps schedule previous now :=
  le_steps (elapsed_lt_of_nextDue h)

theorem Grid.nextDue (hgrid : schedule.Grid previous)
    (h : EndpointSchedule.nextDue schedule previous now = .ok due) : schedule.Grid due := by
  rw [(nextDue_eq_ok.mp h).2]
  exact hgrid.add _

/-- From a slot that is not later than now, the next one is the first after now exactly where the
rounding is harmless. -/
theorem isLeast_nextDue_iff (hgrid : schedule.Grid previous) (hnow : previous ≤ now)
    (h : EndpointSchedule.nextDue schedule previous now = .ok due) :
    IsLeast {slot | schedule.Grid slot ∧ now < slot} due ↔ schedule.Exact previous now := by
  have hle := le_steps_of_nextDue h
  obtain ⟨-, rfl⟩ := nextDue_eq_ok.mp h
  rw [exact_iff]
  generalize EndpointSchedule.steps schedule previous now = steps at *
  have hfirst :
      now < previous + ((now - previous) / schedule.interval + 1) * schedule.interval := by
    have hlt := Nat.lt_mul_div_succ (now - previous) schedule.interval_pos
    rw [Nat.mul_comm] at hlt
    exact (Nat.sub_lt_iff_lt_add' hnow).mp hlt
  constructor
  · rintro ⟨-, hleast⟩
    have hslot := hleast ⟨hgrid.add ((now - previous) / schedule.interval + 1), hfirst⟩
    exact Nat.le_of_mul_le_mul_right (Nat.le_of_add_le_add_left hslot) schedule.interval_pos
  · intro hsteps
    obtain rfl : steps = (now - previous) / schedule.interval + 1 := le_antisymm hsteps hle
    refine ⟨⟨hgrid.add _, hfirst⟩, ?_⟩
    rintro slot ⟨hslot, hlater⟩
    obtain ⟨n, rfl⟩ := hslot.exists_add hgrid (hnow.trans (le_of_lt hlater))
    have hn : (now - previous) / schedule.interval < n :=
      (Nat.div_lt_iff_lt_mul schedule.interval_pos).mpr ((Nat.sub_lt_iff_lt_add' hnow).mpr hlater)
    exact Nat.add_le_add_left (Nat.mul_le_mul_right _ hn) _

/-- The next slot passes over none that is still to come exactly where the slot before it is not
later than now, and the rounding is harmless. -/
theorem nextDue_le_iff (hgrid : schedule.Grid previous)
    (h : EndpointSchedule.nextDue schedule previous now = .ok due) :
    (∀ slot, schedule.Grid slot → previous ≤ slot → now < slot → due ≤ slot) ↔
      previous ≤ now ∧ schedule.Exact previous now := by
  constructor
  · intro hslots
    have hnow : previous ≤ now := by
      by_contra hlater
      have hle := hslots previous hgrid le_rfl (not_le.mp hlater)
      obtain ⟨-, rfl⟩ := nextDue_eq_ok.mp h
      have hsteps : 0 < EndpointSchedule.steps schedule previous now := Nat.succ_pos _
      have hpos := Nat.mul_pos hsteps schedule.interval_pos
      exact absurd hle (not_le.mpr (Nat.lt_add_of_pos_right hpos))
    refine ⟨hnow, (isLeast_nextDue_iff hgrid hnow h).mp ⟨⟨hgrid.nextDue h, ?_⟩, ?_⟩⟩
    · have hle := le_steps_of_nextDue h
      obtain ⟨-, rfl⟩ := nextDue_eq_ok.mp h
      have hlt := Nat.lt_mul_div_succ (now - previous) schedule.interval_pos
      rw [Nat.mul_comm] at hlt
      exact (Nat.sub_lt_iff_lt_add' hnow).mp (hlt.trans_le (Nat.mul_le_mul_right _ hle))
    · rintro slot ⟨hslot, hlater⟩
      exact hslots slot hslot (hnow.trans (le_of_lt hlater)) hlater
  · rintro ⟨hnow, hexact⟩ slot hslot - hlater
    exact ((isLeast_nextDue_iff hgrid hnow h).mpr hexact).2 ⟨hslot, hlater⟩

end EndpointCheckSchedule

section

variable [CanonicalDigest EndpointCheckSchedule] [CanonicalDigest EndpointScheduleCheckpoint]
  [CanonicalDigest RunIdentity]

/-! ## What a transition does to the times -/

/-- The checkpoint is due on the grid of the schedule, and so is the slot of its run. -/
def EndpointCheckSchedule.Holds (schedule : EndpointCheckSchedule)
    (checkpoint : EndpointScheduleCheckpoint) : Prop :=
  schedule.scheduleId = checkpoint.scheduleId ∧ schedule.Grid checkpoint.nextDueAt ∧
    ∀ runId ∈ checkpoint.activeRunId, ∃ slot, schedule.Grid slot ∧
      runId = canonicalDigest (RunIdentity.mk schedule.scheduleId slot)

namespace EndpointSchedule

variable {schedule : EndpointCheckSchedule} {checkpoint advanced : EndpointScheduleCheckpoint}
  {run after : EndpointScheduleRun} {now : Time}

theorem holds_start (schedule : EndpointCheckSchedule) : schedule.Holds (start schedule) :=
  ⟨rfl, ⟨0, by simp [start]⟩, by simp [start]⟩

theorem identity_of_current {allowWindowEnd : Bool} {u : Unit}
    (h : current schedule checkpoint now allowWindowEnd = .ok u) :
    checkpoint.scheduleId = schedule.scheduleId := by
  simp only [current, identity, bind_eq_ok, raiseIf_eq_ok, not_not] at h
  obtain ⟨-, hid, -⟩ := h
  exact hid

theorem holds_claimRun (h : claimRun schedule checkpoint now = .ok (advanced, run))
    (hholds : schedule.Holds checkpoint) : schedule.Holds advanced := by
  simp only [claimRun, next, bind_eq_ok, pure_eq_ok, Prod.mk.injEq,
    EndpointScheduleRun.create_eq_ok, EndpointScheduleCheckpoint.create_eq_ok] at h
  obtain ⟨-, -, -, -, -, -, -, -, ttl, -, run', hrun, advanced', hadvanced, rfl, rfl⟩ := h
  obtain ⟨hid, hgrid, -⟩ := hholds
  rw [EndpointCheckSchedule.Holds, hadvanced]
  refine ⟨hid, hgrid, ?_⟩
  rintro runId ⟨⟩
  refine ⟨checkpoint.nextDueAt, hgrid, ?_⟩
  rw [EndpointScheduleRun.scheduleRunId, hrun]

/-- The end of a run : its slot is not later, and the schedule is next due after it. -/
structure Finishes (schedule : EndpointCheckSchedule) (checkpoint : EndpointScheduleCheckpoint)
    (run : EndpointScheduleRun) (now : Time) (advanced : EndpointScheduleCheckpoint) : Prop where
  schedule_id : checkpoint.scheduleId = schedule.scheduleId
  run_schedule_id : run.scheduleId = schedule.scheduleId
  active : checkpoint.activeRunId = some run.scheduleRunId
  started : run.scheduledFor ≤ now
  advanced_id : advanced.scheduleId = checkpoint.scheduleId
  advanced_active : advanced.activeRunId = none
  due : nextDue schedule run.scheduledFor now = .ok advanced.nextDueAt

theorem finishes_of_finish {completed : EndpointScheduleRun} {allowDeadline : Bool} {u : Unit}
    {pauseReason : Option String}
    (hactive : activeRun schedule checkpoint run now allowDeadline = .ok u)
    (hslot : completed.scheduledFor = run.scheduledFor) (hstart : completed.startedAt ≤ now)
    (h : finish schedule checkpoint completed now pauseReason = .ok (advanced, after)) :
    Finishes schedule checkpoint run now advanced := by
  simp only [activeRun, bind_eq_ok, raiseIf_eq_ok, not_or, not_not] at hactive
  obtain ⟨_, hcurrent, hrun, hschedule, -⟩ := hactive
  simp only [finish, next, bind_eq_ok, pure_eq_ok, Prod.mk.injEq,
    EndpointScheduleCheckpoint.create_eq_ok] at h
  obtain ⟨due, hdue, advanced', hadvanced, rfl, rfl⟩ := h
  rw [hslot] at hdue
  refine ⟨identity_of_current hcurrent, hschedule, hrun, ?_, ?_, ?_, ?_⟩
  · rw [← hslot]
    exact completed.is_sealed.2.1.2.trans hstart
  · rw [hadvanced]
  · rw [hadvanced]
  · rw [hadvanced]
    exact hdue

/-- A completed run did not start later than it was completed. -/
theorem started_le_of_completed (h : run.completedAt = some now) : run.startedAt ≤ now :=
  run.is_sealed.2.2.2.2.2.2.2.1 now h

theorem finishes_of_materializeRun {flowPlanId seedSetId endpointReconPlanId : Digest}
    (h : materializeRun schedule checkpoint run flowPlanId seedSetId endpointReconPlanId now =
      .ok (advanced, after)) : Finishes schedule checkpoint run now advanced := by
  simp only [materializeRun, replaceRun, bind_eq_ok, EndpointScheduleRun.create_eq_ok] at h
  obtain ⟨_, hactive, completed, hcompleted, hfinish⟩ := h
  exact finishes_of_finish hactive (by rw [hcompleted])
    (started_le_of_completed (by rw [hcompleted])) hfinish

variable {cleanupComplete : Bool}

theorem finishes_of_timeoutRun
    (h : timeoutRun schedule checkpoint run cleanupComplete now = .ok (advanced, after)) :
    Finishes schedule checkpoint run now advanced := by
  simp only [timeoutRun, replaceRun, bind_eq_ok, EndpointScheduleRun.create_eq_ok] at h
  obtain ⟨-, -, _, hactive, completed, hcompleted, hfinish⟩ := h
  exact finishes_of_finish hactive (by rw [hcompleted])
    (started_le_of_completed (by rw [hcompleted])) hfinish

theorem finishes_of_failRun
    (h : failRun schedule checkpoint run cleanupComplete now = .ok (advanced, after)) :
    Finishes schedule checkpoint run now advanced := by
  simp only [failRun, replaceRun, bind_eq_ok, EndpointScheduleRun.create_eq_ok] at h
  obtain ⟨_, hactive, completed, hcompleted, hfinish⟩ := h
  exact finishes_of_finish hactive (by rw [hcompleted])
    (started_le_of_completed (by rw [hcompleted])) hfinish

/-- The slot of a run that ends is on the grid. -/
theorem Finishes.grid (hruns : Function.Injective (canonicalDigest : RunIdentity → Digest))
    (h : Finishes schedule checkpoint run now advanced) (hholds : schedule.Holds checkpoint) :
    schedule.Grid run.scheduledFor := by
  obtain ⟨slot, hgrid, hid⟩ := hholds.2.2 run.scheduleRunId (by rw [h.active]; rfl)
  have heq := hruns hid
  rw [RunIdentity.mk.injEq] at heq
  rw [heq.2]
  exact hgrid

theorem Finishes.holds (hruns : Function.Injective (canonicalDigest : RunIdentity → Digest))
    (h : Finishes schedule checkpoint run now advanced) (hholds : schedule.Holds checkpoint) :
    schedule.Holds advanced := by
  refine ⟨hholds.1.trans h.advanced_id.symm, (h.grid hruns hholds).nextDue h.due, ?_⟩
  rw [h.advanced_active]
  rintro runId ⟨⟩

/-- A lifecycle transition leaves the time at which the schedule is due, or moves it on. -/
structure Moves (schedule : EndpointCheckSchedule) (checkpoint : EndpointScheduleCheckpoint)
    (now : Time) (advanced : EndpointScheduleCheckpoint) : Prop where
  schedule_id : checkpoint.scheduleId = schedule.scheduleId
  advanced_id : advanced.scheduleId = checkpoint.scheduleId
  active : advanced.activeRunId = checkpoint.activeRunId
  due : advanced.nextDueAt = checkpoint.nextDueAt ∨
    nextDue schedule checkpoint.nextDueAt now = .ok advanced.nextDueAt

theorem Moves.holds (h : Moves schedule checkpoint now advanced)
    (hholds : schedule.Holds checkpoint) : schedule.Holds advanced := by
  refine ⟨hholds.1.trans h.advanced_id.symm, ?_, ?_⟩
  · obtain hsame | hdue := h.due
    · rw [hsame]
      exact hholds.2.1
    · exact hholds.2.1.nextDue hdue
  · rw [h.active]
    exact hholds.2.2

theorem moves_of_pause (h : pause schedule checkpoint now = .ok advanced) :
    Moves schedule checkpoint now advanced := by
  simp only [pause, bind_eq_ok] at h
  obtain ⟨_, hcurrent, h⟩ := h
  have hid := identity_of_current hcurrent
  split_ifs at h with hpaused
  · cases h
    exact ⟨hid, rfl, rfl, .inl rfl⟩
  · simp only [next, bind_eq_ok, EndpointScheduleCheckpoint.create_eq_ok] at h
    obtain ⟨-, -, hadvanced⟩ := h
    exact ⟨hid, by rw [hadvanced], by rw [hadvanced], .inl (by rw [hadvanced])⟩

/-- A resumption leaves an active schedule as it is, and moves a paused one to its next slot. -/
theorem resume_eq_ok (h : resume schedule checkpoint now = .ok advanced) :
    Moves schedule checkpoint now advanced ∧
      ((checkpoint.state = .active ∧ advanced = checkpoint) ∨
        (checkpoint.state = .paused ∧
          nextDue schedule checkpoint.nextDueAt now = .ok advanced.nextDueAt)) := by
  simp only [resume, bind_eq_ok] at h
  obtain ⟨_, hcurrent, h⟩ := h
  have hid := identity_of_current hcurrent
  split_ifs at h with hactive
  · cases h
    exact ⟨⟨hid, rfl, rfl, .inl rfl⟩, .inl ⟨hactive, rfl⟩⟩
  · simp only [next, bind_eq_ok, raiseIf_eq_ok, not_not,
      EndpointScheduleCheckpoint.create_eq_ok] at h
    obtain ⟨-, hpaused, due, hdue, hadvanced⟩ := h
    have hdue' : nextDue schedule checkpoint.nextDueAt now = .ok advanced.nextDueAt := by
      rw [hadvanced]
      exact hdue
    exact ⟨⟨hid, by rw [hadvanced], by rw [hadvanced], .inr hdue'⟩, .inr ⟨hpaused, hdue'⟩⟩

theorem moves_of_cancel (h : cancel schedule checkpoint now = .ok advanced) :
    Moves schedule checkpoint now advanced := by
  simp only [cancel, bind_eq_ok] at h
  obtain ⟨_, hcurrent, h⟩ := h
  have hid := identity_of_current hcurrent
  split_ifs at h with hclosed
  · cases h
    exact ⟨hid, rfl, rfl, .inl rfl⟩
  · simp only [next, bind_eq_ok, EndpointScheduleCheckpoint.create_eq_ok] at h
    obtain ⟨-, -, hadvanced⟩ := h
    exact ⟨hid, by rw [hadvanced], by rw [hadvanced], .inl (by rw [hadvanced])⟩

theorem moves_of_expire (h : expire schedule checkpoint now = .ok advanced) :
    Moves schedule checkpoint now advanced := by
  simp only [expire, identity, bind_eq_ok, raiseIf_eq_ok, not_not] at h
  obtain ⟨-, -, -, -, -, hid, h⟩ := h
  split_ifs at h with hexpired
  · cases h
    exact ⟨hid, rfl, rfl, .inl rfl⟩
  · simp only [next, bind_eq_ok, EndpointScheduleCheckpoint.create_eq_ok] at h
    obtain ⟨-, -, -, -, hadvanced⟩ := h
    exact ⟨hid, by rw [hadvanced], by rw [hadvanced], .inl (by rw [hadvanced])⟩

end EndpointSchedule

/-! ## The tables -/

namespace ScheduleTables

variable {tables tables' : ScheduleTables}

/-- Every checkpoint is one of a schedule and is due on its grid, and no slot has two runs. -/
structure Orderly (tables : ScheduleTables) : Prop where
  due : ∀ checkpoint ∈ tables.checkpoints, ∃ schedule ∈ tables.schedules,
    schedule.scheduleId = checkpoint.scheduleId ∧ schedule.Grid checkpoint.nextDueAt
  slots : (tables.runs.map ScheduleRunRow.slot).Nodup

/-- What the tables keep : the slots of the runs that are active are on the grid too. -/
structure Sound (tables : ScheduleTables) : Prop where
  holds : ∀ checkpoint ∈ tables.checkpoints, ∃ schedule ∈ tables.schedules,
    schedule.Holds checkpoint
  slots : (tables.runs.map ScheduleRunRow.slot).Nodup

theorem sound_empty : Sound .empty :=
  ⟨fun _ hmem => (nomatch hmem), List.nodup_nil⟩

theorem Sound.orderly (h : tables.Sound) : tables.Orderly := by
  refine ⟨fun checkpoint hmem => ?_, h.slots⟩
  obtain ⟨schedule, hschedule, hid, hgrid, -⟩ := h.holds checkpoint hmem
  exact ⟨schedule, hschedule, hid, hgrid⟩

variable {schedule : EndpointCheckSchedule} {checkpoint : EndpointScheduleCheckpoint}

/-- A schedule that has the identifier of a checkpoint is the one it is about. -/
theorem Sound.holds_of_id
    (hschedules : Function.Injective (canonicalDigest : EndpointCheckSchedule → Digest))
    (h : tables.Sound) (hmem : checkpoint ∈ tables.checkpoints)
    (hid : checkpoint.scheduleId = schedule.scheduleId) : schedule.Holds checkpoint := by
  obtain ⟨stored, -, hholds⟩ := h.holds checkpoint hmem
  obtain rfl : stored = schedule := hschedules (hholds.1.trans hid)
  exact hholds

/-! ## Reads and writes -/

theorem mem_of_latest {scheduleId : Digest} (h : tables.latest scheduleId = .ok checkpoint) :
    checkpoint ∈ tables.checkpoints := by
  rw [latest, orRaise_eq_ok] at h
  exact List.mem_of_mem_filter (List.argmax_mem h)

theorem mem_of_assertLatest {u : Unit} (h : tables.assertLatest checkpoint = .ok u) :
    checkpoint ∈ tables.checkpoints := by
  simp only [assertLatest, bind_eq_ok, raiseIf_eq_ok, not_not] at h
  obtain ⟨latest, hlatest, rfl⟩ := h
  exact mem_of_latest hlatest

theorem insertCheckpoint_eq_ok (h : tables.insertCheckpoint checkpoint = .ok tables') :
    (∃ schedule ∈ tables.schedules, schedule.scheduleId = checkpoint.scheduleId) ∧
      tables' = { tables with checkpoints := tables.checkpoints ++ [checkpoint] } := by
  simp only [insertCheckpoint, bind_eq_ok, raiseIf_eq_ok, orRaise_eq_ok, pure_eq_ok] at h
  obtain ⟨-, hschedule, checkpoints, hinsert, rfl⟩ := h
  push Not at hschedule
  rw [(Table.insert_eq_some.mp hinsert).2]
  exact ⟨hschedule, rfl⟩

/-- A checkpoint that a schedule holds may be added. -/
theorem Sound.insertCheckpoint
    (hschedules : Function.Injective (canonicalDigest : EndpointCheckSchedule → Digest))
    (h : tables.Sound) (hholds : schedule.Holds checkpoint)
    (hok : tables.insertCheckpoint checkpoint = .ok tables') : tables'.Sound := by
  obtain ⟨⟨stored, hstored, hid⟩, rfl⟩ := insertCheckpoint_eq_ok hok
  obtain rfl : stored = schedule := hschedules (hid.trans hholds.1.symm)
  refine ⟨fun other hother => ?_, h.slots⟩
  obtain hother | hother := List.mem_append.mp hother
  · exact h.holds other hother
  · rw [List.mem_singleton.mp hother]
    exact ⟨stored, hstored, hholds⟩

variable {before after : EndpointScheduleRun}

theorem Sound.updateRun (h : tables.Sound) {reason : String}
    (hok : tables.updateRun before after reason = .ok tables') :
    tables'.Sound ∧ tables'.checkpoints = tables.checkpoints := by
  simp only [ScheduleTables.updateRun, bind_eq_ok, raiseIf_eq_ok, pure_eq_ok] at hok
  obtain ⟨-, -, rfl⟩ := hok
  exact ⟨⟨h.holds, Table.nodup_key_update (fun row => rfl) h.slots⟩, rfl⟩

theorem finish_eq_ok {previous : EndpointScheduleCheckpoint} {claim : EndpointScheduleClaim}
    (h : tables.finish previous before (checkpoint, after) = .ok (tables', claim)) :
    previous ∈ tables.checkpoints ∧ claim.checkpoint = checkpoint ∧
      ∃ updated, tables.updateRun before after "Endpoint Schedule Run completion raced" =
        .ok updated ∧ updated.insertCheckpoint checkpoint = .ok tables' := by
  simp only [finish, bind_eq_ok, pure_eq_ok, Prod.mk.injEq] at h
  obtain ⟨-, -, -, -, _, hlatest, updated, hupdated, finished, hfinished, rfl, rfl⟩ := h
  exact ⟨mem_of_assertLatest hlatest, rfl, updated, hupdated, hfinished⟩

theorem lifecycle_eq_ok {advanced : EndpointScheduleCheckpoint}
    {transition : Except ScheduleError EndpointScheduleCheckpoint}
    (h : tables.lifecycle checkpoint transition = .ok (tables', advanced)) :
    transition = .ok advanced ∧ ((advanced = checkpoint ∧ tables' = tables) ∨
      (checkpoint ∈ tables.checkpoints ∧ tables.insertCheckpoint advanced = .ok tables')) := by
  simp only [lifecycle, bind_eq_ok] at h
  obtain ⟨moved, htransition, h⟩ := h
  split_ifs at h with hsame
  · cases h
    exact ⟨hsame ▸ htransition, .inl ⟨rfl, rfl⟩⟩
  · simp only [advance, bind_eq_ok, pure_eq_ok, Prod.mk.injEq] at h
    obtain ⟨-, -, _, hlatest, inserted, hinserted, rfl, rfl⟩ := h
    exact ⟨htransition, .inr ⟨mem_of_assertLatest hlatest, hinserted⟩⟩

/-! ## What the calls keep -/

section

variable (hschedules : Function.Injective (canonicalDigest : EndpointCheckSchedule → Digest))
  (hruns : Function.Injective (canonicalDigest : RunIdentity → Digest))
  {schedule : EndpointCheckSchedule} {checkpoint advanced : EndpointScheduleCheckpoint}
  {run : EndpointScheduleRun} {made : EndpointScheduleClaim} {now : Time}

include hschedules

theorem Sound.create (h : tables.Sound)
    (hok : tables.create schedule = .ok (tables', checkpoint)) : tables'.Sound := by
  rw [ScheduleTables.create, raced_eq_ok] at hok
  split at hok
  · simp only [bind_eq_ok, pure_eq_ok, Prod.mk.injEq] at hok
    obtain ⟨-, -, -, -, rfl, -⟩ := hok
    exact h
  · simp only [bind_eq_ok, pure_eq_ok, Prod.mk.injEq] at hok
    obtain ⟨created, hcreated, rfl, -⟩ := hok
    have hmore : Sound { tables with schedules := tables.schedules ++ [schedule] } := by
      refine ⟨fun other hother => ?_, h.slots⟩
      obtain ⟨stored, hstored, hholds⟩ := h.holds other hother
      exact ⟨stored, List.mem_append_left _ hstored, hholds⟩
    exact hmore.insertCheckpoint hschedules (EndpointSchedule.holds_start schedule) hcreated

theorem Sound.claim (h : tables.Sound)
    (hok : tables.claim schedule checkpoint now = .ok (tables', made)) : tables'.Sound := by
  simp only [ScheduleTables.claim, bind_eq_ok, raced_eq_ok] at hok
  obtain ⟨⟨advanced, run⟩, hclaim, stored, -, -, -, _, hlatest, hok⟩ := hok
  split at hok
  · simp only [answerClaim, bind_eq_ok, pure_eq_ok, Prod.mk.injEq] at hok
    obtain ⟨-, -, -, -, -, -, rfl, -⟩ := hok
    exact h
  · simp only [insertClaim, bind_eq_ok, orRaise_eq_ok, pure_eq_ok, Prod.mk.injEq] at hok
    obtain ⟨runs, hinsert, claimed, hclaimed, rfl, -⟩ := hok
    obtain ⟨hfresh, rfl⟩ := Table.insert_eq_some.mp hinsert
    have hmore : Sound { tables with runs := tables.runs ++ [run.row] } := by
      refine ⟨h.holds, Table.nodup_key_concat h.slots fun row hrow heq => ?_⟩
      have hclash := hfresh row hrow
      simp [scheduleRunClash, heq] at hclash
    have hcurrent := hclaim
    simp only [EndpointSchedule.claimRun, bind_eq_ok] at hcurrent
    obtain ⟨_, hcurrent, -⟩ := hcurrent
    exact hmore.insertCheckpoint hschedules (EndpointSchedule.holds_claimRun hclaim
      (h.holds_of_id hschedules (mem_of_assertLatest hlatest)
        (EndpointSchedule.identity_of_current hcurrent))) hclaimed

theorem Sound.lifecycle (h : tables.Sound)
    {transition : Except ScheduleError EndpointScheduleCheckpoint}
    (hmoves : transition = .ok advanced → EndpointSchedule.Moves schedule checkpoint now advanced)
    (hok : tables.lifecycle checkpoint transition = .ok (tables', advanced)) : tables'.Sound := by
  obtain ⟨htransition, ⟨-, rfl⟩ | ⟨hmem, hinsert⟩⟩ := lifecycle_eq_ok hok
  · exact h
  · have hmove := hmoves htransition
    exact h.insertCheckpoint hschedules
      (hmove.holds (h.holds_of_id hschedules hmem hmove.schedule_id)) hinsert

include hruns

variable {after : EndpointScheduleRun}

theorem Sound.finish (h : tables.Sound)
    (hfinishes : EndpointSchedule.Finishes schedule checkpoint run now advanced)
    (hok : tables.finish checkpoint run (advanced, after) = .ok (tables', made)) :
    tables'.Sound := by
  obtain ⟨hmem, -, updated, hupdated, hinsert⟩ := finish_eq_ok hok
  exact (h.updateRun hupdated).1.insertCheckpoint hschedules (hfinishes.holds hruns
    (h.holds_of_id hschedules hmem hfinishes.schedule_id)) hinsert

/-- The end of a run leaves its schedule due at the first slot after it exactly where the rounding
of the time since its slot is harmless. -/
theorem Sound.isLeast_finish_iff (h : tables.Sound)
    (hfinishes : EndpointSchedule.Finishes schedule checkpoint run now advanced)
    (hok : tables.finish checkpoint run (advanced, after) = .ok (tables', made)) :
    IsLeast {slot | schedule.Grid slot ∧ now < slot} made.checkpoint.nextDueAt ↔
      schedule.Exact run.scheduledFor now := by
  obtain ⟨hmem, hclaim, -⟩ := finish_eq_ok hok
  rw [hclaim]
  exact EndpointCheckSchedule.isLeast_nextDue_iff
    (hfinishes.grid hruns (h.holds_of_id hschedules hmem hfinishes.schedule_id))
    hfinishes.started hfinishes.due

end

end ScheduleTables

/-! ## Calls -/

namespace ScheduleCall

variable {tables tables' : ScheduleTables} {checkpoint : EndpointScheduleCheckpoint}

/-- A call that ends a run leaves its schedule due at the first slot after the call, and a
resumption passes over no slot that is still to come. -/
def Punctual (tables : ScheduleTables) (call : ScheduleCall) : Prop :=
  ∀ tables' checkpoint, call.exec tables = .ok (tables', checkpoint) →
    match call with
    | materialize schedule _ _ _ _ _ now | timeout schedule _ _ _ now | fail schedule _ _ _ now =>
      IsLeast {slot | schedule.Grid slot ∧ now < slot} checkpoint.nextDueAt
    | resume schedule before now => ∀ slot, schedule.Grid slot → before.nextDueAt ≤ slot →
        now < slot → checkpoint.nextDueAt ≤ slot
    | _ => True

/-- A schedule that is paused is resumed when it is due or later, and no elapsed time is rounded
to an interval that has not elapsed. -/
def InTime : ScheduleCall → Prop
  | materialize schedule _ run _ _ _ now | timeout schedule _ run _ now
  | fail schedule _ run _ now => schedule.Exact run.scheduledFor now
  | resume schedule checkpoint now => checkpoint.state = .paused →
      checkpoint.nextDueAt ≤ now ∧ schedule.Exact checkpoint.nextDueAt now
  | _ => True

/-- The call does not raise. -/
def Accepted (tables : ScheduleTables) (call : ScheduleCall) : Prop :=
  ∃ result, call.exec tables = .ok result

theorem claimed_eq_ok {result : Except ScheduleError (ScheduleTables × EndpointScheduleClaim)} :
    claimed result = .ok (tables', checkpoint) ↔
      ∃ made, result = .ok (tables', made) ∧ made.checkpoint = checkpoint := by
  simp only [claimed, bind_eq_ok, pure_eq_ok, Prod.mk.injEq, Prod.exists]
  constructor
  · rintro ⟨tables, made, hok, rfl, rfl⟩
    exact ⟨made, hok, rfl⟩
  · rintro ⟨made, hok, rfl⟩
    exact ⟨tables', made, hok, rfl, rfl⟩

variable (hschedules : Function.Injective (canonicalDigest : EndpointCheckSchedule → Digest))
  (hruns : Function.Injective (canonicalDigest : RunIdentity → Digest))

include hschedules hruns

theorem sound_exec (h : tables.Sound) {call : ScheduleCall}
    (hok : call.exec tables = .ok (tables', checkpoint)) : tables'.Sound := by
  cases call with
  | create schedule => exact h.create hschedules hok
  | claim schedule before now =>
    obtain ⟨made, hclaim, -⟩ := claimed_eq_ok.mp hok
    exact h.claim hschedules hclaim
  | recover runId now =>
    obtain ⟨made, hrecover, -⟩ := claimed_eq_ok.mp hok
    simp only [ScheduleTables.recover, bind_eq_ok, pure_eq_ok, Prod.mk.injEq] at hrecover
    obtain ⟨_, -, _, -, -, -, _, -, updated, hupdated, rfl, -⟩ := hrecover
    exact (h.updateRun hupdated).1
  | materialize schedule before run flowPlanId seedSetId endpointReconPlanId now =>
    obtain ⟨made, hmade, -⟩ := claimed_eq_ok.mp hok
    simp only [ScheduleTables.materialize, bind_eq_ok] at hmade
    obtain ⟨⟨advanced, after⟩, htransition, hfinish⟩ := hmade
    exact h.finish hschedules hruns (EndpointSchedule.finishes_of_materializeRun htransition)
      hfinish
  | timeout schedule before run cleanupComplete now =>
    obtain ⟨made, hmade, -⟩ := claimed_eq_ok.mp hok
    simp only [ScheduleTables.timeout, bind_eq_ok] at hmade
    obtain ⟨⟨advanced, after⟩, htransition, hfinish⟩ := hmade
    exact h.finish hschedules hruns (EndpointSchedule.finishes_of_timeoutRun htransition) hfinish
  | fail schedule before run cleanupComplete now =>
    obtain ⟨made, hmade, -⟩ := claimed_eq_ok.mp hok
    simp only [ScheduleTables.fail, bind_eq_ok] at hmade
    obtain ⟨⟨advanced, after⟩, htransition, hfinish⟩ := hmade
    exact h.finish hschedules hruns (EndpointSchedule.finishes_of_failRun htransition) hfinish
  | pause schedule before now => exact h.lifecycle hschedules EndpointSchedule.moves_of_pause hok
  | resume schedule before now =>
    exact h.lifecycle hschedules (fun h => (EndpointSchedule.resume_eq_ok h).1) hok
  | cancel schedule before now =>
    exact h.lifecycle hschedules EndpointSchedule.moves_of_cancel hok
  | expire schedule before now =>
    exact h.lifecycle hschedules EndpointSchedule.moves_of_expire hok

/-- A resumption that is accepted passes over no slot to come exactly when it is in time. -/
theorem punctual_resume_iff (h : tables.Sound) {schedule : EndpointCheckSchedule}
    {before : EndpointScheduleCheckpoint} {now : Time}
    (hok : (resume schedule before now).exec tables = .ok (tables', checkpoint)) :
    (∀ slot, schedule.Grid slot → before.nextDueAt ≤ slot → now < slot →
      checkpoint.nextDueAt ≤ slot) ↔ (resume schedule before now).InTime := by
  obtain ⟨htransition, hwrite⟩ := ScheduleTables.lifecycle_eq_ok hok
  obtain ⟨hmoves, ⟨hactive, rfl⟩ | ⟨hpaused, hdue⟩⟩ := EndpointSchedule.resume_eq_ok htransition
  · constructor
    · intro _ hpaused
      rw [hactive] at hpaused
      cases hpaused
    · intro _ slot _ hslot _
      exact hslot
  · obtain ⟨rfl, -⟩ | ⟨hmem, -⟩ := hwrite
    · obtain ⟨-, hsame⟩ := EndpointCheckSchedule.nextDue_eq_ok.mp hdue
      have hpos := Nat.mul_pos (Nat.succ_pos _ : 0 < EndpointSchedule.steps schedule
        checkpoint.nextDueAt now) schedule.interval_pos
      exact absurd hsame (Nat.lt_add_of_pos_right hpos).ne
    · have hgrid := (h.holds_of_id hschedules hmem hmoves.schedule_id).2.1
      rw [EndpointCheckSchedule.nextDue_le_iff hgrid hdue]
      exact ⟨fun hin _ => hin, fun hin => hin hpaused⟩

theorem punctual_iff (h : tables.Sound) (call : ScheduleCall) :
    Punctual tables call ↔ (Accepted tables call → call.InTime) := by
  have hcongr : (Accepted tables call → call.InTime) ↔
      ∀ tables' checkpoint, call.exec tables = .ok (tables', checkpoint) → call.InTime := by
    rw [Accepted, exists_imp, Prod.forall]
  rw [hcongr, Punctual]
  refine forall_congr' fun tables' => forall_congr' fun checkpoint => imp_congr_right fun hok => ?_
  cases call with
  | materialize schedule before run flowPlanId seedSetId endpointReconPlanId now =>
    obtain ⟨made, hmade, rfl⟩ := claimed_eq_ok.mp hok
    simp only [ScheduleTables.materialize, bind_eq_ok] at hmade
    obtain ⟨⟨advanced, after⟩, htransition, hfinish⟩ := hmade
    exact h.isLeast_finish_iff hschedules hruns
      (EndpointSchedule.finishes_of_materializeRun htransition) hfinish
  | timeout schedule before run cleanupComplete now =>
    obtain ⟨made, hmade, rfl⟩ := claimed_eq_ok.mp hok
    simp only [ScheduleTables.timeout, bind_eq_ok] at hmade
    obtain ⟨⟨advanced, after⟩, htransition, hfinish⟩ := hmade
    exact h.isLeast_finish_iff hschedules hruns
      (EndpointSchedule.finishes_of_timeoutRun htransition) hfinish
  | fail schedule before run cleanupComplete now =>
    obtain ⟨made, hmade, rfl⟩ := claimed_eq_ok.mp hok
    simp only [ScheduleTables.fail, bind_eq_ok] at hmade
    obtain ⟨⟨advanced, after⟩, htransition, hfinish⟩ := hmade
    exact h.isLeast_finish_iff hschedules hruns
      (EndpointSchedule.finishes_of_failRun htransition) hfinish
  | resume schedule before now => exact punctual_resume_iff hschedules hruns h hok
  | create | claim | recover | pause | cancel | expire => exact Iff.rfl

theorem sound_step (tables : ScheduleTables) (call : ScheduleCall) (h : tables.Sound) :
    (step tables call).Sound := by
  refine settle_induction h fun tables' hok => ?_
  cases hexec : call.exec tables with
  | error e =>
    rw [hexec] at hok
    cases hok
  | ok result =>
    rw [hexec] at hok
    cases hok
    exact sound_exec hschedules hruns h hexec

end ScheduleCall

/-- Whatever calls the store is given, its checkpoints are due on the grid and no slot has two
runs; and the calls are all punctual exactly when those that are accepted are in time. -/
theorem schedule_punctual_iff
    (hschedules : Function.Injective (canonicalDigest : EndpointCheckSchedule → Digest))
    (hruns : Function.Injective (canonicalDigest : RunIdentity → Digest))
    (calls : List ScheduleCall) :
    (Always ScheduleCall.step ScheduleTables.Orderly .empty calls ∧
      Along ScheduleCall.step ScheduleCall.Punctual .empty calls) ↔
    Along ScheduleCall.step (fun tables call => ScheduleCall.Accepted tables call → call.InTime)
      .empty calls := by
  have hstep := ScheduleCall.sound_step hschedules hruns
  have horderly : Always ScheduleCall.step ScheduleTables.Orderly .empty calls :=
    always_of_invariant ScheduleCall.step hstep (fun _ h => h.orderly) calls
      ScheduleTables.sound_empty
  rw [and_iff_right horderly]
  exact along_congr ScheduleCall.step hstep
    (fun tables call h => ScheduleCall.punctual_iff hschedules hruns h call) calls
    ScheduleTables.sound_empty

end

/-! ## A slot that a resumption passes over -/

section

instance : TextCodec Visibility :=
  TextCodec.record
    (fun
      | .blackBox => 0
      | .greyBox => 1
      | .whiteBox => 2
      | .hybrid => 3)
    (fun n => [.blackBox, .greyBox, .whiteBox, .hybrid][n]?) fun visibility => by
      cases visibility <;> rfl

instance : TextCodec EndpointReconLimits :=
  TextCodec.record
    (fun l => (l.maxSteps, l.maxRequests, l.perRequestSeconds, l.totalSeconds, l.maxAttempts))
    (fun (maxSteps, maxRequests, perRequestSeconds, totalSeconds, maxAttempts) =>
      if h : perRequestSeconds ≤ totalSeconds then
        some ⟨maxSteps, maxRequests, perRequestSeconds, totalSeconds, maxAttempts, h⟩
      else none)
    fun l => dif_pos l.coherent

instance : TextCodec EndpointCheckSchedule :=
  TextCodec.record
    (fun s => (s.scopeId, s.scopeVersion, s.targetUrl, s.visibility, s.testClass, s.operatorRef,
      s.emergencyContactRef, s.paths, Binary.mk s.intervalSeconds, Binary.mk s.runTtlSeconds,
      s.maxConsecutiveFailures, s.reconLimits, Binary.mk s.activeFrom, Binary.mk s.activeUntil,
      Binary.mk s.createdAt, s.idempotencyKey))
    (fun (scopeId, scopeVersion, targetUrl, visibility, testClass, operatorRef,
        emergencyContactRef, paths, interval, runTtl, maxConsecutiveFailures, reconLimits,
        activeFrom, activeUntil, createdAt, idempotencyKey) =>
      if h : (60 ≤ interval.number ∧ interval.number ≤ 2592000) ∧
          (1 ≤ runTtl.number ∧ runTtl.number ≤ 300) ∧
          ((visibility = .blackBox ∨ visibility = .greyBox) ∧ testClass = "read_only") ∧
          (createdAt.number ≤ activeFrom.number ∧ activeFrom.number < activeUntil.number) ∧
          (paths.length ≤ min reconLimits.maxSteps reconLimits.maxRequests ∧
            reconLimits.totalSeconds ≤ runTtl.number) then
        some ⟨scopeId, scopeVersion, targetUrl, visibility, testClass, operatorRef,
          emergencyContactRef, paths, interval.number, runTtl.number, maxConsecutiveFailures,
          reconLimits, activeFrom.number, activeUntil.number, createdAt.number, idempotencyKey,
          h.1, h.2.1, h.2.2.1, h.2.2.2.1, h.2.2.2.2⟩
      else none)
    fun s => dif_pos ⟨s.interval_bounds, s.ttl_bounds, s.read_only, s.window, s.budget⟩

instance : TextCodec RunIdentity :=
  TextCodec.record (fun i => (i.scheduleId, Binary.mk i.scheduledFor))
    (fun (scheduleId, scheduledFor) => some ⟨scheduleId, scheduledFor.number⟩) fun _ => rfl

/-- A check every minute, for an hour. -/
def minutely : EndpointCheckSchedule where
  scopeId := "scope"
  scopeVersion := 1
  targetUrl := "https://app.example.test/"
  visibility := .blackBox
  testClass := "read_only"
  operatorRef := "operator:alice"
  emergencyContactRef := "contact:security-owner"
  paths := ["/health"]
  intervalSeconds := 60
  runTtlSeconds := 30
  maxConsecutiveFailures := 2
  reconLimits := ⟨1, 1, 1, 1, 1, le_rfl⟩
  activeFrom := 0
  activeUntil := 3600000000
  createdAt := 0
  idempotencyKey := "schedule"
  interval_bounds := by decide
  ttl_bounds := by decide
  read_only := by decide
  window := by decide
  budget := by decide +kernel

/-- Schedules and runs are told apart by their texts. -/
@[reducible] def spelledSchedules : CanonicalDigest EndpointCheckSchedule :=
  ⟨TextCodec.shorten minutely⟩

@[reducible] def spelledRuns : CanonicalDigest RunIdentity :=
  ⟨TextCodec.shorten ⟨"", 0⟩⟩

/-- The checkpoints of one schedule are told apart by their revisions. -/
@[reducible] def numberedCheckpoints : CanonicalDigest EndpointScheduleCheckpoint :=
  ⟨fun checkpoint => TextCodec.text checkpoint.revision⟩

attribute [local instance] spelledSchedules spelledRuns numberedCheckpoints

def firstRun : EndpointScheduleRun where
  scheduleId := minutely.scheduleId
  scheduledFor := 0
  state := .started
  attempt := 1
  startedAt := 0
  deadline := 30000000
  flowPlanId := none
  seedSetId := none
  endpointReconPlanId := none
  cleanupComplete := none
  terminalReason := none
  completedAt := none
  is_sealed := by decide +kernel

/-- The schedule while its first run is active. -/
def minutelyActive : EndpointScheduleCheckpoint :=
  { EndpointSchedule.start minutely with
    revision := 1
    activeRunId := some firstRun.scheduleRunId
    is_sealed := ⟨by simp [EndpointSchedule.start], by simp [EndpointSchedule.start]⟩ }

/-- The schedule after its first run, which ended after a second. -/
def minutelyDue : EndpointScheduleCheckpoint :=
  { EndpointSchedule.start minutely with
    revision := 2
    nextDueAt := 60000000
    lastRunId := some firstRun.scheduleRunId
    updatedAt := 1000000
    is_sealed := ⟨by simp [EndpointSchedule.start], by simp [EndpointSchedule.start]⟩ }

/-- The schedule, paused nine seconds later. -/
def minutelyPaused : EndpointScheduleCheckpoint :=
  { minutelyDue with
    revision := 3
    state := .paused
    reasonCode := some "operator_paused"
    updatedAt := 10000000
    is_sealed := ⟨by simp, by simp [minutelyDue, EndpointSchedule.start]⟩ }

/-- The first run and a pause. -/
def pausedAfterRun : List ScheduleCall :=
  [.create minutely, .claim minutely (EndpointSchedule.start minutely) 0,
    .materialize minutely minutelyActive firstRun "flow" "seeds" "recon" 1000000,
    .pause minutely minutelyDue 10000000]

/-- Resumed when the slot at 60 seconds is due, the schedule goes on with the one at 120. -/
theorem resumed_when_due_punctual :
    Always ScheduleCall.step ScheduleTables.Orderly .empty
        (pausedAfterRun ++ [.resume minutely minutelyPaused 60000000]) ∧
      Along ScheduleCall.step ScheduleCall.Punctual .empty
        (pausedAfterRun ++ [.resume minutely minutelyPaused 60000000]) := by
  refine (schedule_punctual_iff (TextCodec.shorten_injective _) (TextCodec.shorten_injective _)
    _).mpr (along_of_forall _ fun tables call hcall _ => ?_)
  simp only [pausedAfterRun, List.cons_append, List.nil_append, List.mem_cons, List.not_mem_nil,
    or_false] at hcall
  obtain rfl | rfl | rfl | rfl | rfl := hcall
  · trivial
  · trivial
  · exact EndpointCheckSchedule.exact_of_lt (by norm_num [firstRun])
  · trivial
  · intro _
    exact ⟨le_rfl, EndpointCheckSchedule.exact_of_lt (by norm_num [minutelyPaused, minutelyDue])⟩

/-- Resumed after 20 seconds, it goes on with the slot at 120 seconds too. -/
theorem resumed_early_not_punctual :
    ¬(Always ScheduleCall.step ScheduleTables.Orderly .empty
        (pausedAfterRun ++ [.resume minutely minutelyPaused 20000000]) ∧
      Along ScheduleCall.step ScheduleCall.Punctual .empty
        (pausedAfterRun ++ [.resume minutely minutelyPaused 20000000])) := by
  rintro ⟨-, h⟩
  have hdue : ((ScheduleCall.resume minutely minutelyPaused 20000000).exec
      (run ScheduleCall.step .empty pausedAfterRun)).toOption.map
        (fun result => result.2.nextDueAt) = some 120000000 := by decide +kernel
  have hlast := h.after ScheduleCall.step pausedAfterRun
  generalize run ScheduleCall.step .empty pausedAfterRun = tables at hdue hlast
  cases hexec : (ScheduleCall.resume minutely minutelyPaused 20000000).exec tables with
  | error e =>
    rw [hexec] at hdue
    cases hdue
  | ok result =>
    rw [hexec] at hdue
    have hnext : result.2.nextDueAt = 120000000 := Option.some.inj hdue
    have hslot := hlast result.1 result.2 hexec 60000000
      ⟨1, by norm_num [EndpointCheckSchedule.interval, minutely]⟩ le_rfl (by norm_num)
    rw [hnext] at hslot
    norm_num at hslot

end

end VulnLoom

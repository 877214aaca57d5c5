import VulnLoom.FlowModels

/-!
# The flow state machine

The pure transitions of a Red Team flow. Each returns the next checkpoint or raises. What
a transition can return is stated once, in `Succeeds` : the next revision of the same
flow, reached from a checkpoint that is not terminal. `CheckpointOk` is the invariant of
one checkpoint against its plan, and every transition keeps it.
-/

set_option linter.unusedSectionVars false

namespace VulnLoom

variable [CanonicalDigest RedTeamFlowPlan] [CanonicalDigest RedTeamReconObservation]

/-! ## Transitions -/

/-- The counters a transition may update. -/
structure CheckpointUpdates where
  actionsUsed : ℕ
  consecutiveFailures : ℕ
  observationIds : List Digest

/-- No update. -/
def RedTeamCheckpoint.counters (checkpoint : RedTeamCheckpoint) : CheckpointUpdates where
  actionsUsed := checkpoint.actionsUsed
  consecutiveFailures := checkpoint.consecutiveFailures
  observationIds := checkpoint.observationIds

/-- `_next`. -/
def nextCheckpoint (checkpoint : RedTeamCheckpoint) (status : RedTeamFlowStatus)
    (stopReason : Option String) (now : Time) (updates : CheckpointUpdates) :
    Except RedTeamError RedTeamCheckpoint :=
  RedTeamCheckpoint.create
    { planId := checkpoint.planId
      revision := checkpoint.revision + 1
      status := status
      actionsUsed := updates.actionsUsed
      consecutiveFailures := updates.consecutiveFailures
      observationIds := updates.observationIds
      stopReason := stopReason
      updatedAt := now }

/-- `_terminal`. -/
def terminalCheckpoint (checkpoint : RedTeamCheckpoint) (status : RedTeamFlowStatus)
    (reason : String) (now : Time) (updates : CheckpointUpdates) :
    Except RedTeamError RedTeamCheckpoint :=
  nextCheckpoint checkpoint status (some reason) now updates

/-- `_current`. -/
def requireCurrent (plan : RedTeamFlowPlan) (checkpoint : RedTeamCheckpoint) :
    Except RedTeamError Unit :=
  raiseIf (checkpoint.planId ≠ plan.planId)
    (.transitionRejected "Red Team checkpoint does not belong to plan")

/-- `_running`. -/
def requireRunning (plan : RedTeamFlowPlan) (checkpoint : RedTeamCheckpoint) (now : Time) :
    Except RedTeamError Unit := do
  requireCurrent plan checkpoint
  raiseIf (checkpoint.status ≠ .running) (.transitionRejected "Red Team Flow is not running")
  raiseIf (plan.deadline ≤ now) (.transitionRejected "Red Team Flow deadline elapsed")

def startFlow (plan : RedTeamFlowPlan) (checkpoint : RedTeamCheckpoint) (now : Time) :
    Except RedTeamError RedTeamCheckpoint := do
  requireCurrent plan checkpoint
  raiseIf (checkpoint.status ≠ .planned) (.transitionRejected "Red Team Flow is not planned")
  if plan.deadline ≤ now then
    terminalCheckpoint checkpoint .timedOut "deadline_reached" now checkpoint.counters
  else
    nextCheckpoint checkpoint .running none now checkpoint.counters

/-- The counters after an observation. -/
def RedTeamCheckpoint.countersAfter (checkpoint : RedTeamCheckpoint)
    (observation : RedTeamReconObservation) : CheckpointUpdates where
  actionsUsed := checkpoint.actionsUsed + 1
  consecutiveFailures :=
    if observation.outcome = .succeeded then 0 else checkpoint.consecutiveFailures + 1
  observationIds := checkpoint.observationIds ++ [observation.observationId]

def recordObservation (plan : RedTeamFlowPlan) (checkpoint : RedTeamCheckpoint)
    (observation : RedTeamReconObservation) (now : Time) :
    Except RedTeamError RedTeamCheckpoint := do
  requireRunning plan checkpoint now
  raiseIf (observation.observationId ∈ checkpoint.observationIds)
    (.transitionRejected "Red Team observation is already recorded")
  let values := checkpoint.countersAfter observation
  if observation.cleanupComplete = false then
    terminalCheckpoint checkpoint .failed "cleanup_unproven" now values
  else if observation.outcome = .timedOut then
    terminalCheckpoint checkpoint .timedOut "action_timed_out" now values
  else if plan.rules.stopConditions.maxConsecutiveFailures ≤ values.consecutiveFailures then
    terminalCheckpoint checkpoint .failed "failure_limit_reached" now values
  else if plan.maxActions ≤ values.actionsUsed then
    terminalCheckpoint checkpoint .completed "action_budget_reached" now values
  else
    nextCheckpoint checkpoint .running none now values

def cancelFlow (plan : RedTeamFlowPlan) (checkpoint : RedTeamCheckpoint) (now : Time) :
    Except RedTeamError RedTeamCheckpoint := do
  requireCurrent plan checkpoint
  raiseIf checkpoint.status.isTerminal
    (.transitionRejected "Red Team Flow is already terminal")
  terminalCheckpoint checkpoint .cancelled "operator_cancelled" now checkpoint.counters

def activateKillSwitch (plan : RedTeamFlowPlan) (checkpoint : RedTeamCheckpoint) (now : Time) :
    Except RedTeamError RedTeamCheckpoint := do
  requireCurrent plan checkpoint
  raiseIf checkpoint.status.isTerminal
    (.transitionRejected "Red Team Flow is already terminal")
  terminalCheckpoint checkpoint .killed "kill_switch_activated" now checkpoint.counters

def expireFlow (plan : RedTeamFlowPlan) (checkpoint : RedTeamCheckpoint) (now : Time) :
    Except RedTeamError RedTeamCheckpoint := do
  requireCurrent plan checkpoint
  if checkpoint.status.isTerminal then
    return checkpoint
  raiseIf (now < plan.deadline)
    (.transitionRejected "Red Team Flow deadline has not elapsed")
  terminalCheckpoint checkpoint .timedOut "deadline_reached" now checkpoint.counters

/-! ## What a transition returns -/

/-- `next` continues `checkpoint` with the counters `updates`. -/
structure Continues (checkpoint : RedTeamCheckpoint) (updates : CheckpointUpdates)
    (next : RedTeamCheckpoint) : Prop where
  planId : next.planId = checkpoint.planId
  revision : next.revision = checkpoint.revision + 1
  actionsUsed : next.actionsUsed = updates.actionsUsed
  consecutiveFailures : next.consecutiveFailures = updates.consecutiveFailures
  observationIds : next.observationIds = updates.observationIds
  not_terminal : checkpoint.status.isTerminal = false

variable {checkpoint next : RedTeamCheckpoint} {now : Time}

theorem nextCheckpoint_ok {status : RedTeamFlowStatus} {stopReason : Option String}
    {updates : CheckpointUpdates} (hopen : checkpoint.status.isTerminal = false)
    (h : nextCheckpoint checkpoint status stopReason now updates = .ok next) :
    Continues checkpoint updates next ∧ next.status = status := by
  have hvalues := RedTeamCheckpoint.create_eq_ok h
  refine ⟨⟨?_, ?_, ?_, ?_, ?_, hopen⟩, ?_⟩ <;> rw [hvalues]

/-- A transition that records nothing : it starts a planned flow or ends an open one. -/
structure Stops (plan : RedTeamFlowPlan) (checkpoint next : RedTeamCheckpoint) : Prop where
  current : checkpoint.planId = plan.planId
  continues : Continues checkpoint checkpoint.counters next
  status : next.status.isTerminal = true ∨
    checkpoint.status = .planned ∧ next.status = .running

variable {plan : RedTeamFlowPlan}

theorem startFlow_ok (h : startFlow plan checkpoint now = .ok next) :
    Stops plan checkpoint next := by
  simp only [startFlow, requireCurrent, bind_eq_ok, raiseIf_eq_ok, not_not] at h
  obtain ⟨-, hcur, -, hplanned, h⟩ := h
  have hopen : checkpoint.status.isTerminal = false := by rw [hplanned]; rfl
  split_ifs at h
  · obtain ⟨hc, hs⟩ := nextCheckpoint_ok hopen h
    exact ⟨hcur, hc, Or.inl (by rw [hs]; rfl)⟩
  · obtain ⟨hc, hs⟩ := nextCheckpoint_ok hopen h
    exact ⟨hcur, hc, Or.inr ⟨hplanned, hs⟩⟩

theorem cancelFlow_ok (h : cancelFlow plan checkpoint now = .ok next) :
    Stops plan checkpoint next := by
  simp only [cancelFlow, requireCurrent, bind_eq_ok, raiseIf_eq_ok, not_not,
    Bool.not_eq_true] at h
  obtain ⟨-, hcur, -, hopen, h⟩ := h
  obtain ⟨hc, hs⟩ := nextCheckpoint_ok hopen h
  exact ⟨hcur, hc, Or.inl (by rw [hs]; rfl)⟩

theorem activateKillSwitch_ok (h : activateKillSwitch plan checkpoint now = .ok next) :
    Stops plan checkpoint next := by
  simp only [activateKillSwitch, requireCurrent, bind_eq_ok, raiseIf_eq_ok, not_not,
    Bool.not_eq_true] at h
  obtain ⟨-, hcur, -, hopen, h⟩ := h
  obtain ⟨hc, hs⟩ := nextCheckpoint_ok hopen h
  exact ⟨hcur, hc, Or.inl (by rw [hs]; rfl)⟩

/-- An expired flow stops, and expiring a flow that has stopped changes nothing. -/
theorem expireFlow_ok (h : expireFlow plan checkpoint now = .ok next) :
    next = checkpoint ∨ Stops plan checkpoint next := by
  simp only [expireFlow, requireCurrent, bind_eq_ok, raiseIf_eq_ok, not_not] at h
  obtain ⟨-, hcur, h⟩ := h
  split_ifs at h with hterm
  · simp only [pure_eq_ok] at h
    exact Or.inl h.symm
  · simp only [bind_eq_ok, raiseIf_eq_ok] at h
    obtain ⟨-, -, h⟩ := h
    obtain ⟨hc, hs⟩ := nextCheckpoint_ok (by simpa using hterm) h
    exact Or.inr ⟨hcur, hc, Or.inl (by rw [hs]; rfl)⟩

/-- What `recordObservation` returns : the observation is the last one of a running flow,
and the flow runs on only below both of its limits. -/
structure Records (plan : RedTeamFlowPlan) (checkpoint : RedTeamCheckpoint)
    (observation : RedTeamReconObservation) (next : RedTeamCheckpoint) : Prop where
  current : checkpoint.planId = plan.planId
  was_running : checkpoint.status = .running
  continues : Continues checkpoint (checkpoint.countersAfter observation) next
  status : next.status.isTerminal = true ∨ next.status = .running ∧
    next.consecutiveFailures < plan.rules.stopConditions.maxConsecutiveFailures ∧
    next.actionsUsed < plan.maxActions

variable {observation : RedTeamReconObservation}

theorem recordObservation_ok (h : recordObservation plan checkpoint observation now = .ok next) :
    Records plan checkpoint observation next := by
  simp only [recordObservation, requireRunning, requireCurrent, bind_eq_ok, raiseIf_eq_ok,
    not_not] at h
  obtain ⟨-, ⟨-, hcur, -, hrun, -⟩, -, -, h⟩ := h
  have hopen : checkpoint.status.isTerminal = false := by rw [hrun]; rfl
  split_ifs at h with hcleanup htimed hfailures hused
  · obtain ⟨hc, hs⟩ := nextCheckpoint_ok hopen h
    exact ⟨hcur, hrun, hc, Or.inl (by rw [hs]; rfl)⟩
  · obtain ⟨hc, hs⟩ := nextCheckpoint_ok hopen h
    exact ⟨hcur, hrun, hc, Or.inl (by rw [hs]; rfl)⟩
  · obtain ⟨hc, hs⟩ := nextCheckpoint_ok hopen h
    exact ⟨hcur, hrun, hc, Or.inl (by rw [hs]; rfl)⟩
  · obtain ⟨hc, hs⟩ := nextCheckpoint_ok hopen h
    exact ⟨hcur, hrun, hc, Or.inl (by rw [hs]; rfl)⟩
  · obtain ⟨hc, hs⟩ := nextCheckpoint_ok hopen h
    refine ⟨hcur, hrun, hc, Or.inr ⟨hs, ?_, ?_⟩⟩
    · rw [hc.consecutiveFailures]
      omega
    · rw [hc.actionsUsed]
      omega

/-! ## The invariant of a checkpoint -/

/-- What holds of every stored checkpoint of a plan. -/
structure CheckpointOk (plan : RedTeamFlowPlan) (checkpoint : RedTeamCheckpoint) : Prop where
  planId : checkpoint.planId = plan.planId
  actionsUsed_eq : checkpoint.actionsUsed = checkpoint.observationIds.length
  actionsUsed_le : checkpoint.actionsUsed ≤ plan.maxActions
  planned : checkpoint.status = .planned →
    checkpoint.actionsUsed = 0 ∧ checkpoint.consecutiveFailures = 0
  running : checkpoint.status = .running →
    checkpoint.consecutiveFailures < plan.rules.stopConditions.maxConsecutiveFailures ∧
      checkpoint.actionsUsed < plan.maxActions

theorem CheckpointOk.stops (hok : CheckpointOk plan checkpoint) (h : Stops plan checkpoint next) :
    CheckpointOk plan next := by
  obtain ⟨-, hc, hs⟩ := h
  have hused : next.actionsUsed = checkpoint.actionsUsed := hc.actionsUsed
  have hfail : next.consecutiveFailures = checkpoint.consecutiveFailures := hc.consecutiveFailures
  have hobs : next.observationIds = checkpoint.observationIds := hc.observationIds
  have hlimits := plan.rules.stopConditions.maxActions_bounds
  have hfailures := plan.rules.stopConditions.maxConsecutiveFailures_bounds
  refine ⟨hc.planId.trans hok.planId, ?_, ?_, fun hplanned => ?_, fun hrunning => ?_⟩
  · rw [hused, hobs, hok.actionsUsed_eq]
  · rw [hused]
    exact hok.actionsUsed_le
  · rcases hs with hs | ⟨-, hs⟩
    · rw [hplanned] at hs
      cases hs
    · rw [hplanned] at hs
      cases hs
  · rcases hs with hs | ⟨hs, -⟩
    · rw [hrunning] at hs
      cases hs
    · obtain ⟨h0, h0'⟩ := hok.planned hs
      rw [hused, hfail, h0, h0']
      unfold RedTeamFlowPlan.maxActions
      omega

theorem CheckpointOk.records (hok : CheckpointOk plan checkpoint)
    (h : Records plan checkpoint observation next) : CheckpointOk plan next := by
  obtain ⟨-, hrun, hc, hs⟩ := h
  have hused : next.actionsUsed = checkpoint.actionsUsed + 1 := hc.actionsUsed
  have hobs : next.observationIds = checkpoint.observationIds ++ [observation.observationId] :=
    hc.observationIds
  have hbelow := (hok.running hrun).2
  refine ⟨hc.planId.trans hok.planId, ?_, ?_, fun hplanned => ?_, fun hrunning => ?_⟩
  · rw [hused, hobs, hok.actionsUsed_eq, List.length_append, List.length_singleton]
  · omega
  · rcases hs with hs | ⟨hs, -⟩
    · rw [hplanned] at hs
      cases hs
    · rw [hplanned] at hs
      cases hs
  · rcases hs with hs | ⟨-, hfail, hact⟩
    · rw [hrunning] at hs
      cases hs
    · exact ⟨hfail, hact⟩

end VulnLoom

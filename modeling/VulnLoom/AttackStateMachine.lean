import VulnLoom.AttackModels
import VulnLoom.Table

/-!
# The attack chain state machine

The pure transitions of an attack chain. What each can return is stated once; a stop of an
open chain and the failure or the end of an action always return.
-/

set_option linter.unusedSectionVars false

namespace VulnLoom

variable [AttackDigests]

/-! ## Transitions -/

/-- The values a transition may update. -/
structure AttackUpdates where
  nodes : List AttackNodeProgress
  objectiveObservationId : Option Digest
  deferredOutcome : Option AttackActionOutcome
  failures : ℕ

/-- No update. -/
def AttackChainCheckpoint.updates (checkpoint : AttackChainCheckpoint) : AttackUpdates where
  nodes := checkpoint.nodes
  objectiveObservationId := checkpoint.objectiveObservationId
  deferredOutcome := checkpoint.deferredOutcome
  failures := checkpoint.failures

/-- The values that `_next` seals. -/
def AttackChainCheckpoint.nextValues (checkpoint : AttackChainCheckpoint)
    (status : AttackChainStatus) (stopReason : Option String) (now : Time)
    (updates : AttackUpdates) : AttackChainCheckpointValues where
  chainPlanId := checkpoint.chainPlanId
  revision := checkpoint.revision + 1
  status := status
  nodes := updates.nodes
  objectiveObservationId := updates.objectiveObservationId
  deferredOutcome := updates.deferredOutcome
  failures := updates.failures
  stopReason := stopReason
  updatedAt := now

/-- `_next`. -/
def nextAttack (checkpoint : AttackChainCheckpoint) (status : AttackChainStatus)
    (stopReason : Option String) (now : Time) (updates : AttackUpdates) :
    Except AttackError AttackChainCheckpoint :=
  AttackChainCheckpoint.create (checkpoint.nextValues status stopReason now updates)

/-- `_current`. -/
def requireCurrentAttack (plan : AttackChainPlan) (checkpoint : AttackChainCheckpoint) :
    Except AttackError Unit :=
  raiseIf (checkpoint.chainPlanId ≠ plan.chainPlanId)
    (.transitionRejected "Attack Chain checkpoint is misbound")

/-- The instant from which an action may no longer be executed. -/
def AttackChainPlan.cutoff (plan : AttackChainPlan) (action : AttackAction) : Time :=
  if action.isCleanup then plan.cleanupDeadline else plan.deadline

/-- `_running`. -/
def requireOpenAttack (plan : AttackChainPlan) (checkpoint : AttackChainCheckpoint)
    (action : AttackAction) (now : Time) : Except AttackError Unit := do
  requireCurrentAttack plan checkpoint
  raiseIf (checkpoint.status.isOpen = false)
    (.transitionRejected "Attack Chain is not running")
  raiseIf (plan.cutoff action ≤ now) (.transitionRejected "Attack Chain deadline elapsed")

def startAttackChain (plan : AttackChainPlan) (checkpoint : AttackChainCheckpoint) (now : Time) :
    Except AttackError AttackChainCheckpoint := do
  requireCurrentAttack plan checkpoint
  raiseIf (checkpoint.status ≠ .planned) (.transitionRejected "Attack Chain is not planned")
  if plan.deadline ≤ now then
    nextAttack checkpoint .timedOut (some "deadline_reached") now checkpoint.updates
  else
    nextAttack checkpoint .running none now checkpoint.updates

/-- The cleanup of a chain that requires it runs without its prerequisites. -/
def AttackChainCheckpoint.compensates (checkpoint : AttackChainCheckpoint)
    (action : AttackAction) : Bool :=
  checkpoint.status = .cleanupRequired ∧ action.isCleanup

/-- A prerequisite of the action has not succeeded. -/
def AttackChainCheckpoint.Incomplete (checkpoint : AttackChainCheckpoint)
    (action : AttackAction) : Prop :=
  ∃ id ∈ action.prerequisiteActionIds, checkpoint.nodeStatus id ≠ some .succeeded

instance (checkpoint : AttackChainCheckpoint) (action : AttackAction) :
    Decidable (checkpoint.Incomplete action) :=
  inferInstanceAs (Decidable (∃ _ ∈ _, _))

def AttackActionOutcome.nodeStatus : AttackActionOutcome → AttackNodeStatus
  | .succeeded => .succeeded
  | .rejected | .failed => .failed
  | .timedOut => .timedOut

theorem AttackActionOutcome.nodeStatus_ne_pending (outcome : AttackActionOutcome) :
    outcome.nodeStatus ≠ .pending := by
  cases outcome <;> decide

def AttackNodeProgress.observe (observation : AttackActionObservation)
    (node : AttackNodeProgress) : AttackNodeProgress where
  actionId := node.actionId
  status := observation.outcome.nodeStatus
  observationId := some observation.observationId
  consistent := by simp [AttackActionOutcome.nodeStatus_ne_pending]

/-- The nodes of a checkpoint after an observation of an action. -/
def AttackChainCheckpoint.nodesAfter (checkpoint : AttackChainCheckpoint) (actionId : Digest)
    (observation : AttackActionObservation) : List AttackNodeProgress :=
  Table.update (fun node => node.actionId = actionId) (AttackNodeProgress.observe observation)
    checkpoint.nodes

/-- The values after an observation. -/
def AttackChainCheckpoint.updatesAfter (checkpoint : AttackChainCheckpoint)
    (action : AttackAction) (observation : AttackActionObservation) : AttackUpdates where
  nodes := checkpoint.nodesAfter action.actionId observation
  objectiveObservationId := checkpoint.objectiveObservationId
  deferredOutcome := if action.isCleanup then none else checkpoint.deferredOutcome
  failures := checkpoint.failures + if observation.outcome = .succeeded then 0 else 1

/-- The end of a chain whose cleanup has succeeded. -/
def closeAttackChain (checkpoint : AttackChainCheckpoint) (now : Time) (updates : AttackUpdates) :
    Except AttackError AttackChainCheckpoint :=
  match checkpoint.deferredOutcome with
  | some .timedOut =>
    nextAttack checkpoint .timedOut (some "action_timed_out_after_cleanup") now updates
  | some _ => nextAttack checkpoint .failed (some "action_failed_after_cleanup") now updates
  | none => do
    raiseIf (checkpoint.objectiveObservationId = none)
      (.transitionRejected "Attack Chain Cleanup lacks objective evidence")
    nextAttack checkpoint .goalReached (some "objective_evidence_and_cleanup_recorded") now
      updates

/-- The objective is proved by the observation of its action. -/
def AttackUpdates.withObjective (updates : AttackUpdates) (action : AttackAction)
    (observation : AttackActionObservation) : AttackUpdates :=
  { updates with
    objectiveObservationId :=
      if action.isGoal then some observation.observationId else updates.objectiveObservationId }

/-- The end of `record_attack_observation`, for an action that has succeeded. -/
def recordSuccess (checkpoint : AttackChainCheckpoint) (action : AttackAction)
    (observation : AttackActionObservation) (now : Time) :
    Except AttackError AttackChainCheckpoint := do
  raiseIf (observation.goalReached ≠ action.isGoal)
    (.transitionRejected "Attack Objective evidence is inconsistent")
  let updates := (checkpoint.updatesAfter action observation).withObjective action observation
  if action.isCleanup then closeAttackChain checkpoint now updates
  else nextAttack checkpoint .running none now updates

def AttackChainPlan.failureReason (plan : AttackChainPlan) (failures : ℕ) : String :=
  if plan.maxFailures ≤ failures then "failure_limit_reached" else "action_failed"

def recordAttackObservation (plan : AttackChainPlan) (checkpoint : AttackChainCheckpoint)
    (action : AttackAction) (observation : AttackActionObservation) (now : Time) :
    Except AttackError AttackChainCheckpoint := do
  requireOpenAttack plan checkpoint action now
  raiseIf (checkpoint.nodeStatus action.actionId ≠ some .pending)
    (.transitionRejected "Attack Action is not pending")
  raiseIf (¬checkpoint.compensates action ∧ checkpoint.Incomplete action)
    (.transitionRejected "Attack Action prerequisites are incomplete")
  raiseIf (observation.actionId ≠ action.actionId)
    (.transitionRejected "Attack Action observation is misbound")
  let updates := checkpoint.updatesAfter action observation
  if observation.outcome ≠ .succeeded ∧ ¬action.isCleanup then
    nextAttack checkpoint .cleanupRequired none now
      { updates with deferredOutcome := some observation.outcome }
  else if observation.cleanupComplete = false then
    nextAttack checkpoint .failed (some "cleanup_unproven") now updates
  else if observation.outcome ≠ .succeeded then
    nextAttack checkpoint .failed
      (some (plan.failureReason updates.failures)) now updates
  else
    recordSuccess checkpoint action observation now

def stopAttackChain (plan : AttackChainPlan) (checkpoint : AttackChainCheckpoint)
    (reason : String) (now : Time) (cleanupRequired : Bool) :
    Except AttackError AttackChainCheckpoint := do
  requireCurrentAttack plan checkpoint
  if checkpoint.status.isOpen = false then return checkpoint
  if cleanupRequired then
    nextAttack checkpoint .cleanupRequired none now
      { checkpoint.updates with deferredOutcome := some .rejected }
  else
    nextAttack checkpoint .killed (some reason) now
      { checkpoint.updates with deferredOutcome := none }

/-! ## What a transition returns -/

/-- `next` continues `checkpoint` with the nodes `nodes`. -/
structure AttackChainCheckpoint.Continues (checkpoint : AttackChainCheckpoint)
    (nodes : List AttackNodeProgress) (next : AttackChainCheckpoint) : Prop where
  chainPlanId : next.chainPlanId = checkpoint.chainPlanId
  revision : next.revision = checkpoint.revision + 1
  nodes : next.nodes = nodes

variable {checkpoint next : AttackChainCheckpoint} {now : Time} {updates : AttackUpdates}

theorem nextAttack_ok {status : AttackChainStatus} {stopReason : Option String}
    (h : nextAttack checkpoint status stopReason now updates = .ok next) :
    checkpoint.Continues updates.nodes next ∧ next.status = status := by
  have hvalues := AttackChainCheckpoint.create_eq_ok.1 h
  refine ⟨⟨?_, ?_, ?_⟩, ?_⟩ <;> rw [hvalues] <;> rfl

variable {plan : AttackChainPlan}

theorem startAttackChain_ok (h : startAttackChain plan checkpoint now = .ok next) :
    checkpoint.status = .planned ∧ checkpoint.Continues checkpoint.nodes next ∧
      (next.status = .running ∨ next.status = .timedOut) := by
  simp only [startAttackChain, bind_eq_ok, raiseIf_eq_ok, not_not] at h
  obtain ⟨-, -, -, hplanned, h⟩ := h
  split_ifs at h
  · obtain ⟨hcontinues, hstatus⟩ := nextAttack_ok h
    exact ⟨hplanned, hcontinues, Or.inr hstatus⟩
  · obtain ⟨hcontinues, hstatus⟩ := nextAttack_ok h
    exact ⟨hplanned, hcontinues, Or.inl hstatus⟩

/-- What `recordAttackObservation` returns : the node of the action is observed; an action
that is not the cleanup leaves the chain open, and the cleanup ends it. -/
structure AttackRecords (checkpoint : AttackChainCheckpoint) (action : AttackAction)
    (observation : AttackActionObservation) (next : AttackChainCheckpoint) : Prop where
  was_pending : checkpoint.nodeStatus action.actionId = some .pending
  continues : checkpoint.Continues (checkpoint.nodesAfter action.actionId observation) next
  status : (action.isCleanup = false ∧ observation.outcome = .succeeded ∧
      next.status = .running) ∨
    (action.isCleanup = false ∧ observation.outcome ≠ .succeeded ∧
      next.status = .cleanupRequired) ∨
    (action.isCleanup = true ∧ next.status.isTerminal = true)

theorem closeAttackChain_ok (h : closeAttackChain checkpoint now updates = .ok next) :
    checkpoint.Continues updates.nodes next ∧ next.status.isTerminal = true := by
  unfold closeAttackChain at h
  split at h
  · obtain ⟨hc, hs⟩ := nextAttack_ok h
    exact ⟨hc, by rw [hs]; rfl⟩
  · obtain ⟨hc, hs⟩ := nextAttack_ok h
    exact ⟨hc, by rw [hs]; rfl⟩
  · simp only [bind_eq_ok] at h
    obtain ⟨-, -, h⟩ := h
    obtain ⟨hc, hs⟩ := nextAttack_ok h
    exact ⟨hc, by rw [hs]; rfl⟩

variable {action : AttackAction} {observation : AttackActionObservation}

theorem recordAttackObservation_ok
    (h : recordAttackObservation plan checkpoint action observation now = .ok next) :
    AttackRecords checkpoint action observation next := by
  simp only [recordAttackObservation, bind_eq_ok, raiseIf_eq_ok, not_not] at h
  obtain ⟨-, -, -, hpending, -, -, -, -, h⟩ := h
  have hsucceeded := observation.isSealed.succeeded
  split_ifs at h with hfails hcleanup hfailed
  · obtain ⟨hc, hs⟩ := nextAttack_ok h
    exact ⟨hpending, hc, Or.inr (Or.inl ⟨by simpa using hfails.2, hfails.1, hs⟩)⟩
  · obtain ⟨hc, hs⟩ := nextAttack_ok h
    -- a successful action proves its own cleanup
    have hends : action.isCleanup = true := by
      by_contra hne
      refine hfails ⟨fun hsucc => ?_, hne⟩
      rw [(hsucceeded hsucc).1] at hcleanup
      cases hcleanup
    exact ⟨hpending, hc, Or.inr (Or.inr ⟨hends, by rw [hs]; rfl⟩)⟩
  · obtain ⟨hc, hs⟩ := nextAttack_ok h
    have hends : action.isCleanup = true := by
      by_contra hne
      exact hfails ⟨hfailed, hne⟩
    exact ⟨hpending, hc, Or.inr (Or.inr ⟨hends, by rw [hs]; rfl⟩)⟩
  · unfold recordSuccess at h
    simp only [bind_eq_ok] at h
    obtain ⟨-, -, h⟩ := h
    split_ifs at h with hends
    · obtain ⟨hc, hs⟩ := closeAttackChain_ok h
      exact ⟨hpending, hc, Or.inr (Or.inr ⟨hends, hs⟩)⟩
    · obtain ⟨hc, hs⟩ := nextAttack_ok h
      exact ⟨hpending, hc, Or.inl ⟨by simpa using hends, not_not.1 hfailed, hs⟩⟩

theorem requireOpenAttack_ok (h : requireOpenAttack plan checkpoint action now = .ok ()) :
    checkpoint.chainPlanId = plan.chainPlanId ∧ checkpoint.status.isOpen = true ∧
      now < plan.cutoff action := by
  simpa [requireOpenAttack, requireCurrentAttack] using h

/-- What `recordAttackObservation` requires : an open chain, and the prerequisites of the action
unless it is the cleanup that the chain requires. -/
theorem recordAttackObservation_requires
    (h : recordAttackObservation plan checkpoint action observation now = .ok next) :
    checkpoint.status.isOpen = true ∧ observation.actionId = action.actionId ∧
      (checkpoint.compensates action = true ∨ ¬checkpoint.Incomplete action) := by
  simp only [recordAttackObservation, bind_eq_ok, raiseIf_eq_ok, not_not] at h
  obtain ⟨⟨⟩, hopen, -, -, -, hready, -, hof, -⟩ := h
  refine ⟨(requireOpenAttack_ok hopen).2.1, hof, ?_⟩
  by_cases hcompensates : checkpoint.compensates action = true
  · exact Or.inl hcompensates
  · exact Or.inr fun hincomplete => hready ⟨hcompensates, hincomplete⟩

theorem closeAttackChain_goal (h : closeAttackChain checkpoint now updates = .ok next)
    (hgoal : next.status = .goalReached) : checkpoint.deferredOutcome = none := by
  unfold closeAttackChain at h
  split at h
  · rw [(nextAttack_ok h).2] at hgoal
    cases hgoal
  · rw [(nextAttack_ok h).2] at hgoal
    cases hgoal
  · assumption

/-- A chain that was asked for its cleanup does not run on, and reaches no goal. -/
theorem recordAttackObservation_deferred
    (h : recordAttackObservation plan checkpoint action observation now = .ok next)
    (hstatus : next.status = .running ∨ next.status = .goalReached) :
    checkpoint.deferredOutcome = none := by
  simp only [recordAttackObservation, bind_eq_ok] at h
  obtain ⟨-, -, -, -, -, -, -, -, h⟩ := h
  split_ifs at h
  · simp [(nextAttack_ok h).2] at hstatus
  · simp [(nextAttack_ok h).2] at hstatus
  · simp [(nextAttack_ok h).2] at hstatus
  · simp only [recordSuccess, bind_eq_ok] at h
    obtain ⟨-, -, h⟩ := h
    split_ifs at h with hcleanup
    · refine closeAttackChain_goal h (hstatus.resolve_left fun hrunning => ?_)
      have hterminal := (closeAttackChain_ok h).2
      rw [hrunning] at hterminal
      cases hterminal
    · have hsealed := next.isSealed.deferred
      rw [(nextAttack_ok h).2, AttackChainCheckpoint.create_eq_ok.1 h] at hsealed
      simpa [AttackChainCheckpoint.nextValues, AttackUpdates.withObjective,
        AttackChainCheckpoint.updatesAfter, hcleanup] using hsealed

/-- The goal is reached by the cleanup of a chain that was not asked for it. -/
theorem recordAttackObservation_goal
    (h : recordAttackObservation plan checkpoint action observation now = .ok next)
    (hgoal : next.status = .goalReached) : ¬checkpoint.Incomplete action := by
  rcases (recordAttackObservation_requires h).2.2 with hcompensates | hready
  · -- a chain that requires its cleanup has a deferred outcome
    simp only [AttackChainCheckpoint.compensates, decide_eq_true_eq] at hcompensates
    exact absurd (recordAttackObservation_deferred h (Or.inr hgoal))
      (checkpoint.isSealed.deferred.1 hcompensates.1)
  · exact hready

/-- A stop of an open chain asks for its cleanup or kills it; another chain stays as it is. -/
theorem stopAttackChain_ok {reason : String} {cleanupRequired : Bool}
    (h : stopAttackChain plan checkpoint reason now cleanupRequired = .ok next) :
    checkpoint.status.isOpen = false ∧ next = checkpoint ∨
      checkpoint.status.isOpen = true ∧ checkpoint.Continues checkpoint.nodes next ∧
        next.status = if cleanupRequired then .cleanupRequired else .killed := by
  simp only [stopAttackChain, bind_eq_ok] at h
  obtain ⟨-, -, h⟩ := h
  split_ifs at h with hopen hcleanup
  · simp only [pure_eq_ok] at h
    exact Or.inl ⟨hopen, h.symm⟩
  · obtain ⟨hc, hs⟩ := nextAttack_ok h
    exact Or.inr ⟨by simpa using hopen, hc, by rw [hs, if_pos hcleanup]⟩
  · obtain ⟨hc, hs⟩ := nextAttack_ok h
    exact Or.inr ⟨by simpa using hopen, hc, by rw [hs, if_neg hcleanup]⟩

/-! ## The end of a cleanup -/

namespace AttackChainCheckpoint

variable {checkpoint : AttackChainCheckpoint} {actionId : Digest}
  {observation : AttackActionObservation}

theorem exists_node (h : checkpoint.nodeStatus actionId = some .pending) :
    ∃ node ∈ checkpoint.nodes, node.actionId = actionId ∧ node.status = .pending := by
  obtain ⟨node, hnode, hstatus⟩ := Option.map_eq_some_iff.1 h
  have hid := List.find?_some hnode
  simp only [decide_eq_true_eq] at hid
  exact ⟨node, List.mem_of_find?_eq_some hnode, hid, hstatus⟩

/-- The node of a pending action is its only node. -/
theorem pending_of_mem (h : checkpoint.nodeStatus actionId = some .pending)
    {node : AttackNodeProgress} (hmem : node ∈ checkpoint.nodes) (hid : node.actionId = actionId) :
    node.status = .pending := by
  obtain ⟨node', hmem', hid', hpending⟩ := checkpoint.exists_node h
  rw [Table.eq_of_key checkpoint.isSealed.nodes_nodup hmem hmem' (hid.trans hid'.symm)]
  exact hpending

/-- An observed action is pending no more. -/
theorem nodeStatus_nodesAfter {next : AttackChainCheckpoint}
    (hnext : next.nodes = checkpoint.nodesAfter actionId observation) :
    next.nodeStatus actionId ≠ some .pending := by
  intro h
  obtain ⟨node, hnode, hid, hpending⟩ := exists_node h
  rw [hnext] at hnode
  obtain ⟨old, -, rfl⟩ := Table.mem_update.1 hnode
  split_ifs at hid hpending with hold
  · exact observation.outcome.nodeStatus_ne_pending hpending
  · exact hold (by simpa using hid)

end AttackChainCheckpoint

end VulnLoom

import VulnLoom.AttackStore
import VulnLoom.Transition
import Mathlib.Data.List.Chain

/-!
# Runs of an attack chain

A chain is created, started, observed and stopped by calls that read a checkpoint first and
write its successor later, so a call names the revision it has read. The checkpoints of a chain
are then a path of the state machine (`ChainPath`) : this is the invariant of the store, and
what holds of every path holds of every reachable store. `attack_chain_safe` puts it together.
-/

namespace VulnLoom

open Transition

variable [AttackDigests]

/-! ## Calls -/

/-- The node of an action that has not been observed. -/
def AttackNodeProgress.pendingOf (actionId : Digest) : AttackNodeProgress where
  actionId := actionId
  status := .pending
  observationId := none
  consistent := by simp

/-- The checkpoint that the creation of a chain stores. -/
def plannedAttack (plan : AttackChainPlan) (now : Time) :
    Except AttackError AttackChainCheckpoint :=
  AttackChainCheckpoint.create {
    chainPlanId := plan.chainPlanId
    revision := 0
    status := .planned
    nodes := plan.graph.actions.map fun action => .pendingOf action.actionId
    objectiveObservationId := none
    deferredOutcome := none
    failures := 0
    stopReason := none
    updatedAt := now }

/-- A call on the store; `revision` is the revision of the checkpoint that its caller has
read. -/
inductive AttackChainCall
  | create (plan : AttackChainPlan) (flowActionsUsed flowMaxActions : ℕ) (now : Time)
  | start (chainPlanId : Digest) (revision : ℕ) (now : Time)
  | claim (command : AttackActionCommand)
  | observe (command : AttackActionCommand) (revision : ℕ) (observation : AttackActionObservation)
  | stop (chainPlanId : Digest) (revision : ℕ) (reason : String)
      (cleanupRequired abandonStartedActions : Bool) (now : Time)

namespace AttackChainStore

/-- The checkpoint of a revision, as a caller has read it. -/
def checkpointAt (store : AttackChainStore) (chainPlanId : Digest) (revision : ℕ) :
    Except AttackError AttackChainCheckpoint :=
  orRaise (store.checkpoints.find? fun checkpoint =>
      checkpoint.chainPlanId = chainPlanId ∧ checkpoint.revision = revision)
    (.storeRejected "Attack Chain checkpoint is unavailable")

/-- The end of `execute` : the observation of a claimed action is recorded. -/
def observe (store : AttackChainStore) (command : AttackActionCommand) (revision : ℕ)
    (observation : AttackActionObservation) : Except AttackError AttackChainStore := do
  let plan ← store.plan command.chainPlanId
  let previous ← store.checkpointAt plan.chainPlanId revision
  let action ← orRaise (plan.graph.actions.find? fun item => item.actionId = command.actionId)
    (.chainRejected "Attack Action is absent from the sealed graph")
  let advanced ← recordAttackObservation plan previous action observation observation.observedAt
  store.complete command previous advanced observation

/-- The stop of a chain whose flow boundary has changed; a chain that is not open stays. -/
def stop (store : AttackChainStore) (chainPlanId : Digest) (revision : ℕ) (reason : String)
    (cleanupRequired abandonStartedActions : Bool) (now : Time) :
    Except AttackError AttackChainStore := do
  let plan ← store.plan chainPlanId
  let previous ← store.checkpointAt plan.chainPlanId revision
  let stopped ← stopAttackChain plan previous reason now cleanupRequired
  if stopped = previous then return store
  store.advance previous stopped abandonStartedActions

def exec (store : AttackChainStore) : AttackChainCall → Except AttackError AttackChainStore
  | .create plan flowActionsUsed flowMaxActions now => do
    let planned ← plannedAttack plan now
    let (store, _) ← store.create plan planned flowActionsUsed flowMaxActions
    return store
  | .start chainPlanId revision now => do
    let plan ← store.plan chainPlanId
    let previous ← store.checkpointAt plan.chainPlanId revision
    let running ← startAttackChain plan previous now
    store.advance previous running false
  | .claim command => do
    let (store, _) ← store.claim command
    return store
  | .observe command revision observation => store.observe command revision observation
  | .stop chainPlanId revision reason cleanupRequired abandonStartedActions now =>
    store.stop chainPlanId revision reason cleanupRequired abandonStartedActions now

/-- The store after a call; a call that raises changes nothing. -/
def step : AttackChainStore → AttackChainCall → AttackChainStore :=
  settle exec

end AttackChainStore

/-! ## Paths of the state machine -/

/-- A transition of the chain from one checkpoint to the next. -/
inductive AttackMove (plan : AttackChainPlan) (checkpoint next : AttackChainCheckpoint) : Prop
  | start (now : Time) (h : startAttackChain plan checkpoint now = .ok next)
  | record (action : AttackAction) (observation : AttackActionObservation) (now : Time)
      (haction : action ∈ plan.graph.actions)
      (h : recordAttackObservation plan checkpoint action observation now = .ok next)
  | stop (reason : String) (now : Time) (cleanupRequired : Bool)
      (h : stopAttackChain plan checkpoint reason now cleanupRequired = .ok next)
      (hne : next ≠ checkpoint)

/-- The checkpoints of a chain, from its planned one to the last. -/
inductive ChainPath (plan : AttackChainPlan) :
    List AttackChainCheckpoint → AttackChainCheckpoint → Prop
  | planned {checkpoint : AttackChainCheckpoint} {now : Time}
      (h : plannedAttack plan now = .ok checkpoint) : ChainPath plan [] checkpoint
  | next {before : List AttackChainCheckpoint} {checkpoint next : AttackChainCheckpoint}
      (hpath : ChainPath plan before checkpoint) (hmove : AttackMove plan checkpoint next) :
      ChainPath plan (before ++ [checkpoint]) next

variable {plan : AttackChainPlan} {before : List AttackChainCheckpoint}
  {checkpoint next : AttackChainCheckpoint}

/-- What every transition does : it leaves a checkpoint that is not terminal, and rewrites the
node of one pending action at most. -/
theorem AttackMove.continues (h : AttackMove plan checkpoint next) :
    checkpoint.status.isTerminal = false ∧ (checkpoint.Continues checkpoint.nodes next ∨
      ∃ action ∈ plan.graph.actions, ∃ observation,
        checkpoint.nodeStatus action.actionId = some .pending ∧
        (checkpoint.compensates action = true ∨ ¬checkpoint.Incomplete action) ∧
        checkpoint.Continues (checkpoint.nodesAfter action.actionId observation) next) := by
  have hopen : checkpoint.status.isOpen = true → checkpoint.status.isTerminal = false := by
    cases checkpoint.status <;> decide
  cases h with
  | start now h =>
    obtain ⟨hplanned, hcontinues, -⟩ := startAttackChain_ok h
    exact ⟨by rw [hplanned]; rfl, Or.inl hcontinues⟩
  | record action observation now haction h =>
    obtain ⟨hpending, hcontinues, -⟩ := recordAttackObservation_ok h
    obtain ⟨hrunning, -, hready⟩ := recordAttackObservation_requires h
    exact ⟨hopen hrunning, Or.inr ⟨action, haction, observation, hpending, hready, hcontinues⟩⟩
  | stop reason now cleanupRequired h hne =>
    rcases stopAttackChain_ok h with ⟨-, rfl⟩ | ⟨hrunning, hcontinues, -⟩
    · exact absurd rfl hne
    · exact ⟨hopen hrunning, Or.inl hcontinues⟩

theorem AttackMove.revision (h : AttackMove plan checkpoint next) :
    next.chainPlanId = checkpoint.chainPlanId ∧ next.revision = checkpoint.revision + 1 := by
  rcases h.continues.2 with hcontinues | ⟨_, -, _, -, -, hcontinues⟩ <;>
    exact ⟨hcontinues.chainPlanId, hcontinues.revision⟩

/-- A transition keeps the actions of the nodes. -/
theorem AttackMove.map_nodes (h : AttackMove plan checkpoint next) :
    next.nodes.map AttackNodeProgress.actionId =
      checkpoint.nodes.map AttackNodeProgress.actionId := by
  rcases h.continues.2 with hcontinues | ⟨_, -, observation, -, -, hcontinues⟩
  · rw [hcontinues.nodes]
  · rw [hcontinues.nodes, AttackChainCheckpoint.nodesAfter]
    exact Table.map_update (f := AttackNodeProgress.observe observation) (fun _ => rfl) _ _

/-- A node that has been observed is never written again. -/
theorem AttackMove.keeps (h : AttackMove plan checkpoint next) {node : AttackNodeProgress}
    (hnode : node ∈ checkpoint.nodes) (hstatus : node.status ≠ .pending) : node ∈ next.nodes := by
  rcases h.continues.2 with hcontinues | ⟨action, -, observation, hpending, -, hcontinues⟩
  · rwa [hcontinues.nodes]
  · rw [hcontinues.nodes]
    refine Table.mem_update.2 ⟨node, hnode, if_neg ?_⟩
    simp only [decide_eq_true_eq]
    intro hid
    exact hstatus (checkpoint.pending_of_mem hpending hnode hid)

/-- The node of another action stays as it is. -/
theorem AttackChainCheckpoint.nodeStatus_nodesAfter_of_ne {actionId id : Digest}
    {observation : AttackActionObservation}
    (hnext : next.nodes = checkpoint.nodesAfter actionId observation) (hne : id ≠ actionId) :
    next.nodeStatus id = checkpoint.nodeStatus id := by
  rw [AttackChainCheckpointValues.nodeStatus, hnext, nodesAfter, Table.find?_update]
  · rfl
  · intro node _ hp
    have hid : node.actionId = actionId := of_decide_eq_true hp
    simp [AttackNodeProgress.observe, hid, hne.symm]

/-- An action that a transition observes was pending, with its prerequisites unless it is the
cleanup. -/
theorem AttackMove.observes (h : AttackMove plan checkpoint next) {action : AttackAction}
    (hcleanup : action.isCleanup = false)
    (hnodup : (plan.graph.actions.map AttackAction.actionId).Nodup)
    (haction : action ∈ plan.graph.actions)
    (hpending : checkpoint.nodeStatus action.actionId = some .pending)
    (hobserved : next.nodeStatus action.actionId ≠ some .pending) :
    ¬checkpoint.Incomplete action := by
  rcases h.continues.2 with hcontinues | ⟨action', haction', observation, -, hready, hcontinues⟩
  · rw [AttackChainCheckpointValues.nodeStatus, hcontinues.nodes] at hobserved
    exact absurd hpending hobserved
  · by_cases hid : action.actionId = action'.actionId
    · obtain rfl := Table.eq_of_key hnodup haction haction' hid
      rcases hready with hcompensates | hready
      · simp [AttackChainCheckpoint.compensates, hcleanup] at hcompensates
      · exact hready
    · rw [AttackChainCheckpoint.nodeStatus_nodesAfter_of_ne hcontinues.nodes hid] at hobserved
      exact absurd hpending hobserved

/-- The goal is reached from a checkpoint with the prerequisites of the cleanup. -/
theorem AttackMove.goal (h : AttackMove plan checkpoint next)
    (hgoal : next.status = .goalReached) :
    checkpoint.nodeStatus plan.graph.cleanup.actionId = some .pending ∧
      ¬checkpoint.Incomplete plan.graph.cleanup := by
  cases h with
  | start now h =>
    obtain ⟨-, -, hstatus⟩ := startAttackChain_ok h
    rw [hgoal] at hstatus
    rcases hstatus with hstatus | hstatus <;> cases hstatus
  | record action observation now haction h =>
    obtain ⟨hpending, -, hstatus⟩ := recordAttackObservation_ok h
    have hcleanup : action.isCleanup = true := by
      rcases hstatus with ⟨-, -, hs⟩ | ⟨-, -, hs⟩ | ⟨hcleanup, -⟩
      · rw [hs] at hgoal
        cases hgoal
      · rw [hs] at hgoal
        cases hgoal
      · exact hcleanup
    obtain rfl := (plan.graph.isCleanup_iff haction).1 hcleanup
    exact ⟨hpending, recordAttackObservation_goal h hgoal⟩
  | stop reason now cleanupRequired h hne =>
    rcases stopAttackChain_ok h with ⟨-, rfl⟩ | ⟨-, -, hstatus⟩
    · exact absurd rfl hne
    · rw [hgoal] at hstatus
      split_ifs at hstatus

/-- A chain that was asked for its cleanup : it still is, it was killed, or it has failed or
timed out with its cleanup observed. -/
def OwesCleanup (plan : AttackChainPlan) (checkpoint : AttackChainCheckpoint) : Prop :=
  checkpoint.status = .cleanupRequired ∨ checkpoint.status = .killed ∨
    (checkpoint.status = .failed ∨ checkpoint.status = .timedOut) ∧
      checkpoint.nodeStatus plan.graph.cleanup.actionId ≠ some .pending

theorem AttackMove.owes (h : AttackMove plan checkpoint next)
    (hrequired : checkpoint.status = .cleanupRequired) : OwesCleanup plan next := by
  have hdeferred := checkpoint.isSealed.deferred.1 hrequired
  cases h with
  | start now h =>
    rw [(startAttackChain_ok h).1] at hrequired
    cases hrequired
  | record action observation now haction h =>
    obtain ⟨-, hcontinues, hstatus⟩ := recordAttackObservation_ok h
    have hopen := fun hs => hdeferred (recordAttackObservation_deferred h hs)
    rcases hstatus with ⟨-, -, hs⟩ | ⟨-, -, hs⟩ | ⟨hcleanup, hs⟩
    · exact absurd (Or.inl hs) hopen
    · exact Or.inl hs
    · obtain rfl := (plan.graph.isCleanup_iff haction).1 hcleanup
      have hobserved := AttackChainCheckpoint.nodeStatus_nodesAfter hcontinues.nodes
      cases hnext : next.status with
      | goalReached => exact absurd (Or.inr hnext) hopen
      | killed => exact Or.inr (Or.inl hnext)
      | failed => exact Or.inr (Or.inr ⟨Or.inl hnext, hobserved⟩)
      | timedOut => exact Or.inr (Or.inr ⟨Or.inr hnext, hobserved⟩)
      | _ =>
        rw [hnext] at hs
        cases hs
  | stop reason now cleanupRequired h hne =>
    rcases stopAttackChain_ok h with ⟨-, rfl⟩ | ⟨-, -, hs⟩
    · exact absurd rfl hne
    · split_ifs at hs
      · exact Or.inl hs
      · exact Or.inr (Or.inl hs)

/-! ## What holds along a path -/

namespace ChainPath

theorem values_of_planned {now : Time} (h : plannedAttack plan now = .ok checkpoint) :
    checkpoint.chainPlanId = plan.chainPlanId ∧ checkpoint.revision = 0 ∧
      checkpoint.nodes = plan.graph.actions.map fun action => .pendingOf action.actionId := by
  have hvalues := AttackChainCheckpoint.create_eq_ok.1 h
  exact ⟨by rw [hvalues], by rw [hvalues], by rw [hvalues]⟩

theorem map_nodes (h : ChainPath plan before checkpoint) :
    checkpoint.nodes.map AttackNodeProgress.actionId =
      plan.graph.actions.map AttackAction.actionId := by
  induction h with
  | planned h =>
    rw [(values_of_planned h).2.2, List.map_map]
    rfl
  | next hpath hmove ih => rw [hmove.map_nodes, ih]

/-- The actions of a chain that was created have distinct identifiers. -/
theorem nodup_actions (h : ChainPath plan before checkpoint) :
    (plan.graph.actions.map AttackAction.actionId).Nodup := by
  rw [← h.map_nodes]
  exact checkpoint.isSealed.nodes_nodup

theorem chainPlanId (h : ChainPath plan before checkpoint) :
    checkpoint.chainPlanId = plan.chainPlanId := by
  induction h with
  | planned h => exact (values_of_planned h).1
  | next hpath hmove ih => rw [hmove.revision.1, ih]

/-- The checkpoints of a chain are numbered from zero. -/
theorem revisions (h : ChainPath plan before checkpoint) :
    (before ++ [checkpoint]).map (fun c => c.revision) =
      List.range (before ++ [checkpoint]).length := by
  induction h with
  | planned h => simp [(values_of_planned h).2.1]
  | @next before checkpoint next hpath hmove ih =>
    rw [List.map_append, ih, @List.length_append _ _ [next], List.length_singleton,
      List.range_succ]
    have hlast : checkpoint.revision = before.length := by
      have := congrArg List.getLast? ih
      simpa [List.range_succ] using this
    simp [hmove.revision.2, hlast]

/-- Every checkpoint before the last one is open, and its observed nodes are those of the later
ones. -/
theorem pairwise (h : ChainPath plan before checkpoint) :
    (before ++ [checkpoint]).Pairwise fun earlier later =>
      earlier.status.isTerminal = false ∧
        ∀ node ∈ earlier.nodes, node.status ≠ .pending → node ∈ later.nodes := by
  induction h with
  | planned h => exact List.pairwise_singleton _ _
  | @next before checkpoint next hpath hmove ih =>
    refine List.pairwise_append.2 ⟨ih, List.pairwise_singleton _ _, fun earlier hearlier => ?_⟩
    simp only [List.mem_singleton, forall_eq]
    rcases List.mem_append.1 hearlier with hbefore | hlast
    · obtain ⟨-, -, hcross⟩ := List.pairwise_append.1 ih
      obtain ⟨hopen, hnodes⟩ := hcross earlier hbefore checkpoint (by simp)
      exact ⟨hopen, fun node hnode hstatus => hmove.keeps (hnodes node hnode hstatus) hstatus⟩
    · obtain rfl := List.mem_singleton.1 hlast
      exact ⟨hmove.continues.1, fun node => hmove.keeps⟩

/-- A cleanup that was asked for is owed from then on. -/
theorem owes (h : ChainPath plan before checkpoint) :
    (before ++ [checkpoint]).Pairwise fun earlier later =>
      earlier.status = .cleanupRequired → OwesCleanup plan later := by
  induction h with
  | planned h => exact List.pairwise_singleton _ _
  | @next before checkpoint next hpath hmove ih =>
    refine List.pairwise_append.2 ⟨ih, List.pairwise_singleton _ _, fun earlier hearlier => ?_⟩
    simp only [List.mem_singleton, forall_eq]
    intro hrequired
    rcases List.mem_append.1 hearlier with hbefore | hlast
    · have howes := (List.pairwise_append.1 ih).2.2 earlier hbefore checkpoint (by simp) hrequired
      refine hmove.owes (howes.resolve_right fun hended => ?_)
      -- a chain that has ended makes no move
      have hopen := hmove.continues.1
      rcases hended with hs | ⟨hs | hs, -⟩ <;> rw [hs] at hopen <;> cases hopen
    · rw [List.mem_singleton.1 hlast] at hrequired
      exact hmove.owes hrequired

/-- An action that is not the cleanup was observed after its prerequisites had succeeded. -/
theorem ordered (h : ChainPath plan before checkpoint) {action : AttackAction}
    (haction : action ∈ plan.graph.actions) (hcleanup : action.isCleanup = false)
    (hobserved : checkpoint.nodeStatus action.actionId ≠ some .pending) :
    ∃ earlier ∈ before, earlier.nodeStatus action.actionId = some .pending ∧
      ¬earlier.Incomplete action := by
  have hnodup := h.nodup_actions
  induction h with
  | @planned checkpoint now h =>
    refine absurd ?_ hobserved
    obtain ⟨action', hfind⟩ : ∃ a, (plan.graph.actions.find? fun a =>
        a.actionId = action.actionId) = some a := by
      rw [← Option.isSome_iff_exists, List.find?_isSome]
      exact ⟨action, haction, by simp⟩
    rw [AttackChainCheckpointValues.nodeStatus, (values_of_planned h).2.2, List.find?_map]
    simp only [Function.comp_def, AttackNodeProgress.pendingOf] at hfind ⊢
    rw [hfind]
    rfl
  | @next before checkpoint next hpath hmove ih =>
    by_cases hpending : checkpoint.nodeStatus action.actionId = some .pending
    · exact ⟨checkpoint, by simp, hpending,
        hmove.observes hcleanup hnodup haction hpending hobserved⟩
    · obtain ⟨earlier, hearlier, hready⟩ := ih hpending
      exact ⟨earlier, List.mem_append_left _ hearlier, hready⟩

/-- Where the goal is reached, every action has succeeded after its prerequisites. -/
theorem goal (h : ChainPath plan before checkpoint) (hgoal : checkpoint.status = .goalReached)
    {action : AttackAction} (haction : action ∈ plan.graph.actions) :
    checkpoint.nodeStatus action.actionId = some .succeeded ∧ ∃ earlier ∈ before,
      earlier.nodeStatus action.actionId = some .pending ∧ ¬earlier.Incomplete action := by
  have hsucceeded : checkpoint.nodeStatus action.actionId = some .succeeded := by
    have hmem : action.actionId ∈ checkpoint.nodes.map AttackNodeProgress.actionId := by
      rw [h.map_nodes]
      exact List.mem_map_of_mem haction
    obtain ⟨node, hnode, hid⟩ := List.mem_map.1 hmem
    obtain ⟨found, hfind⟩ : ∃ n, (checkpoint.nodes.find? fun n =>
        n.actionId = action.actionId) = some n := by
      rw [← Option.isSome_iff_exists, List.find?_isSome]
      exact ⟨node, hnode, by simpa using hid⟩
    rw [AttackChainCheckpointValues.nodeStatus, hfind, Option.map_some]
    rw [(checkpoint.isSealed.all_succeeded hgoal).2 found (List.mem_of_find?_eq_some hfind)]
  refine ⟨hsucceeded, ?_⟩
  cases hcleanup : action.isCleanup with
  | false => exact h.ordered haction hcleanup (by rw [hsucceeded]; decide)
  | true =>
    obtain rfl := (plan.graph.isCleanup_iff haction).1 hcleanup
    cases h with
    | planned h =>
      have hvalues := AttackChainCheckpoint.create_eq_ok.1 h
      rw [hvalues] at hgoal
      cases hgoal
    | @next before checkpoint' _ hpath hmove =>
      exact ⟨checkpoint', by simp, hmove.goal hgoal⟩

/-- The checkpoints of a path up to one of them are a path. -/
theorem of_eq_append (h : ChainPath plan before checkpoint) :
    ∀ {before' after : List AttackChainCheckpoint} {earlier : AttackChainCheckpoint},
      before ++ [checkpoint] = before' ++ earlier :: after → ChainPath plan before' earlier := by
  induction h with
  | planned h =>
    intro before' after earlier heq
    rcases before' with _ | ⟨first, before'⟩
    · obtain ⟨rfl, -⟩ := List.cons.inj heq
      exact .planned h
    · simp at heq
  | next hpath hmove ih =>
    intro before' after earlier heq
    rcases List.eq_nil_or_concat after with rfl | ⟨after, last, rfl⟩
    · obtain ⟨rfl, hlast⟩ := List.append_inj' heq rfl
      obtain rfl := List.singleton_inj.1 hlast
      exact .next hpath hmove
    · rw [List.concat_eq_append, ← List.cons_append, ← List.append_assoc] at heq
      exact ih (List.append_inj' heq rfl).1

end ChainPath

/-! ## What a call writes -/

namespace AttackChainStore

variable {store store' : AttackChainStore} {call : AttackChainCall}

/-- The observation of an action of a chain. -/
def observationKey (row : AttackObservationRow) : Digest × Digest :=
  (row.chainPlanId, row.observation.actionId)

/-- A call writes nothing that is read here, or it creates a chain, or it moves one from its
latest checkpoint. -/
inductive Wrote (store store' : AttackChainStore) : Prop
  | kept (hplans : store'.plans = store.plans) (hcheckpoints : store'.checkpoints =
      store.checkpoints) (hobservations : store'.observations = store.observations)
  | created (plan : AttackChainPlan) (checkpoint : AttackChainCheckpoint) (now : Time)
      (hplanned : plannedAttack plan now = .ok checkpoint)
      (hfresh : ∀ r ∈ store.plans, attackPlanClash plan r = false)
      (hclash : ∀ r ∈ store.checkpoints, attackCheckpointClash checkpoint r = false)
      (hplans : store'.plans = store.plans ++ [plan])
      (hcheckpoints : store'.checkpoints = store.checkpoints ++ [checkpoint])
      (hobservations : store'.observations = store.observations)
  | moved (plan : AttackChainPlan) (previous next : AttackChainCheckpoint)
      (hplan : plan ∈ store.plans) (hlatest : store.latest plan.chainPlanId = .ok previous)
      (hmove : AttackMove plan previous next)
      (hclash : ∀ r ∈ store.checkpoints, attackCheckpointClash next r = false)
      (hplans : store'.plans = store.plans)
      (hcheckpoints : store'.checkpoints = store.checkpoints ++ [next])
      (hobservations : store'.observations = store.observations ∨ ∃ row,
        (∀ r ∈ store.observations, attackObservationClash row r = false) ∧
          store'.observations = store.observations ++ [row])

variable {chainPlanId : Digest}

theorem checkpointAt_ok {revision : ℕ} {checkpoint : AttackChainCheckpoint}
    (h : store.checkpointAt chainPlanId revision = .ok checkpoint) :
    checkpoint ∈ store.checkpoints ∧ checkpoint.chainPlanId = chainPlanId := by
  simp only [checkpointAt, orRaise_eq_ok] at h
  have hfound := List.find?_some h
  simp only [decide_eq_true_eq] at hfound
  exact ⟨List.mem_of_find?_eq_some h, hfound.1⟩

/-- A checkpoint that a caller has read is written after by `advance` while it is the latest. -/
theorem Wrote.of_advance {plan : AttackChainPlan} {previous next : AttackChainCheckpoint}
    {revision : ℕ} {abandonStartedActions : Bool}
    (hkeys : (store.checkpoints.map AttackChainCheckpoint.checkpointId).Nodup)
    (hplan : store.plan chainPlanId = .ok plan)
    (hprevious : store.checkpointAt plan.chainPlanId revision = .ok previous)
    (hmove : AttackMove plan previous next)
    (h : store.advance previous next abandonStartedActions = .ok store') : Wrote store store' := by
  obtain ⟨hmem, hof⟩ := checkpointAt_ok hprevious
  obtain ⟨hlatest, hclash, actions, rfl⟩ := advance_ok hkeys hmem h
  rw [hof] at hlatest
  exact .moved plan previous next (plan_ok hplan).1 hlatest hmove hclash rfl rfl (Or.inl rfl)

theorem exec_ok (hkeys : (store.checkpoints.map AttackChainCheckpoint.checkpointId).Nodup)
    (h : store.exec call = .ok store') : Wrote store store' := by
  cases call with
  | create plan flowActionsUsed flowMaxActions now =>
    simp only [exec, bind_eq_ok, pure_eq_ok] at h
    obtain ⟨planned, hplanned, ⟨created, result⟩, hcreate, rfl⟩ := h
    rcases create_ok hcreate with ⟨rfl, -⟩ | ⟨hfresh, hclash, -, rfl⟩
    · exact .kept rfl rfl rfl
    · exact .created plan planned now hplanned hfresh hclash rfl rfl rfl
  | start chainPlanId revision now =>
    simp only [exec, bind_eq_ok] at h
    obtain ⟨plan, hplan, previous, hprevious, running, hstart, hadvance⟩ := h
    exact .of_advance hkeys hplan hprevious (.start now hstart) hadvance
  | claim command =>
    simp only [exec, bind_eq_ok, pure_eq_ok] at h
    obtain ⟨⟨claimed, replay⟩, hclaim, rfl⟩ := h
    obtain ⟨actions, rfl⟩ := claim_ok hclaim
    exact .kept rfl rfl rfl
  | observe command revision observation =>
    simp only [exec, observe, bind_eq_ok, orRaise_eq_ok] at h
    obtain ⟨plan, hplan, previous, hprevious, action, haction, next, hrecord, hcomplete⟩ := h
    obtain ⟨hmem, hof⟩ := checkpointAt_ok hprevious
    obtain ⟨hlatest, hclash, hobservations, actions, rfl⟩ := complete_ok hkeys hmem hcomplete
    rw [hof] at hlatest
    exact .moved plan previous next (plan_ok hplan).1 hlatest
      (.record action observation _ (List.mem_of_find?_eq_some haction) hrecord) hclash rfl rfl
      (Or.inr ⟨_, hobservations, rfl⟩)
  | stop chainPlanId revision reason cleanupRequired abandonStartedActions now =>
    simp only [exec, stop, bind_eq_ok] at h
    obtain ⟨plan, hplan, previous, hprevious, stopped, hstop, h⟩ := h
    split_ifs at h with hsame
    · simp only [pure_eq_ok] at h
      subst h
      exact .kept rfl rfl rfl
    · exact .of_advance hkeys hplan hprevious (.stop reason now cleanupRequired hstop hsame) h

/-! ## The invariant -/

/-- The checkpoints of every stored plan are a path of the state machine, and every checkpoint
belongs to a plan. -/
structure Sound (store : AttackChainStore) : Prop where
  plans_nodup : (store.plans.map AttackChainPlan.chainPlanId).Nodup
  checkpoints_nodup : (store.checkpoints.map AttackChainCheckpoint.checkpointId).Nodup
  owned : ∀ checkpoint ∈ store.checkpoints, ∃ plan ∈ store.plans,
    plan.chainPlanId = checkpoint.chainPlanId
  paths : ∀ plan ∈ store.plans, ∃ before last,
    store.history plan.chainPlanId = before ++ [last] ∧ ChainPath plan before last
  observations_nodup : (store.observations.map observationKey).Nodup

theorem sound_empty : Sound empty where
  plans_nodup := List.nodup_nil
  checkpoints_nodup := List.nodup_nil
  owned := by simp [empty]
  paths := by simp [empty]
  observations_nodup := List.nodup_nil

/-- The latest checkpoint of a chain is the last of its path. -/
theorem latest_of_path {plan : AttackChainPlan} {before : List AttackChainCheckpoint}
    {last : AttackChainCheckpoint}
    (hhistory : store.history plan.chainPlanId = before ++ [last])
    (hpath : ChainPath plan before last) : store.latest plan.chainPlanId = .ok last := by
  rw [latest, hhistory, Table.argmax_eq_getLast? _ _ hpath.revisions]
  simp

theorem history_concat {checkpoint : AttackChainCheckpoint}
    (h : store'.checkpoints = store.checkpoints ++ [checkpoint]) :
    store'.history chainPlanId = store.history chainPlanId ++
      if checkpoint.chainPlanId = chainPlanId then [checkpoint] else [] := by
  rw [history, history, h, List.filter_append]
  by_cases hid : checkpoint.chainPlanId = chainPlanId <;> simp [hid]

theorem history_congr (h : store'.checkpoints = store.checkpoints) :
    store'.history chainPlanId = store.history chainPlanId := by
  rw [history, history, h]

theorem observations_nodup_concat {row : AttackObservationRow}
    (h : (store.observations.map observationKey).Nodup)
    (hfresh : ∀ r ∈ store.observations, attackObservationClash row r = false) :
    ((store.observations ++ [row]).map observationKey).Nodup := by
  refine Table.nodup_key_concat h fun r hr hkey => ?_
  obtain ⟨hchain, haction⟩ := Prod.mk.inj hkey
  have hclash := hfresh r hr
  simp [attackObservationClash, hchain, haction] at hclash

theorem checkpoints_nodup_concat {checkpoint : AttackChainCheckpoint}
    (h : (store.checkpoints.map AttackChainCheckpoint.checkpointId).Nodup)
    (hclash : ∀ r ∈ store.checkpoints, attackCheckpointClash checkpoint r = false) :
    ((store.checkpoints ++ [checkpoint]).map AttackChainCheckpoint.checkpointId).Nodup := by
  refine Table.nodup_key_concat h fun r hr hid => ?_
  have hfresh := hclash r hr
  simp [attackCheckpointClash, hid] at hfresh

theorem Wrote.sound (h : Wrote store store') (hs : store.Sound) : store'.Sound := by
  cases h with
  | kept hplans hcheckpoints hobservations =>
    refine ⟨by rw [hplans]; exact hs.plans_nodup, by rw [hcheckpoints]; exact hs.checkpoints_nodup,
      by rw [hplans, hcheckpoints]; exact hs.owned, ?_,
      by rw [hobservations]; exact hs.observations_nodup⟩
    intro plan hplan
    rw [hplans] at hplan
    rw [history_congr hcheckpoints]
    exact hs.paths plan hplan
  | created plan checkpoint now hplanned hfresh hclash hplans hcheckpoints hobservations =>
    obtain ⟨hof, -, -⟩ := ChainPath.values_of_planned hplanned
    -- no stored checkpoint belongs to the new plan
    have hnew : ∀ r ∈ store.plans, r.chainPlanId ≠ plan.chainPlanId := by
      intro r hr hid
      have hpass := hfresh r hr
      simp [attackPlanClash, hid] at hpass
    refine ⟨?_, ?_, ?_, ?_, by rw [hobservations]; exact hs.observations_nodup⟩
    · rw [hplans]
      exact Table.nodup_key_concat hs.plans_nodup fun r hr => (hnew r hr).symm
    · rw [hcheckpoints]
      exact checkpoints_nodup_concat hs.checkpoints_nodup hclash
    · intro r hr
      rw [hcheckpoints, List.mem_append, List.mem_singleton] at hr
      rw [hplans]
      rcases hr with hr | rfl
      · obtain ⟨owner, howner, hid⟩ := hs.owned r hr
        exact ⟨owner, List.mem_append_left _ howner, hid⟩
      · exact ⟨plan, by simp, hof.symm⟩
    · intro other hother
      rw [hplans, List.mem_append, List.mem_singleton] at hother
      rw [history_concat hcheckpoints, hof]
      rcases hother with hother | rfl
      · rw [if_neg (hnew other hother).symm, List.append_nil]
        exact hs.paths other hother
      · have hempty : store.history other.chainPlanId = [] := by
          refine List.filter_eq_nil_iff.2 fun r hr hid => ?_
          obtain ⟨owner, howner, howns⟩ := hs.owned r hr
          exact hnew owner howner (howns.trans (of_decide_eq_true hid))
        rw [hempty, if_pos rfl]
        exact ⟨[], checkpoint, rfl, .planned hplanned⟩
  | moved plan previous next hplan hlatest hmove hclash hplans hcheckpoints hobservations =>
    obtain ⟨before, last, hhistory, hpath⟩ := hs.paths plan hplan
    obtain rfl : previous = last :=
      Except.ok.inj (hlatest.symm.trans (latest_of_path hhistory hpath))
    have hof : next.chainPlanId = plan.chainPlanId := by rw [hmove.revision.1, hpath.chainPlanId]
    refine ⟨by rw [hplans]; exact hs.plans_nodup, ?_, ?_, ?_, ?_⟩
    · rw [hcheckpoints]
      exact checkpoints_nodup_concat hs.checkpoints_nodup hclash
    · intro r hr
      rw [hcheckpoints, List.mem_append, List.mem_singleton] at hr
      rw [hplans]
      rcases hr with hr | rfl
      · exact hs.owned r hr
      · exact ⟨plan, hplan, hof.symm⟩
    · intro other hother
      rw [hplans] at hother
      rw [history_concat hcheckpoints, hof]
      split_ifs with hid
      · obtain rfl := Table.eq_of_key hs.plans_nodup hplan hother hid
        rw [hhistory]
        exact ⟨before ++ [previous], next, rfl, .next hpath hmove⟩
      · rw [List.append_nil]
        exact hs.paths other hother
    · rcases hobservations with hsame | ⟨row, hfresh, hadded⟩
      · rw [hsame]
        exact hs.observations_nodup
      · rw [hadded]
        exact observations_nodup_concat hs.observations_nodup hfresh

theorem step_sound (call : AttackChainCall) (hs : store.Sound) : (store.step call).Sound :=
  settle_induction hs fun _ hok => (exec_ok hs.checkpoints_nodup hok).sound hs

theorem run_sound (calls : List AttackChainCall) (hs : store.Sound) :
    (run step store calls).Sound :=
  run_invariant step (fun _ call hs => step_sound call hs) calls hs

/-! ## Safety -/

/-- A checkpoint that reached its goal : no failure, the objective has a succeeded observation,
and every action has succeeded, after a checkpoint of `before` in which its prerequisites had. -/
structure GoalProved (plan : AttackChainPlan) (before : List AttackChainCheckpoint)
    (checkpoint : AttackChainCheckpoint) : Prop where
  no_failure : checkpoint.failures = 0
  objective : ∃ id, checkpoint.objectiveObservationId = some id ∧
    observedStatus checkpoint.nodes id = some .succeeded
  ordered : ∀ action ∈ plan.graph.actions,
    checkpoint.nodeStatus action.actionId = some .succeeded ∧ ∃ earlier ∈ before,
      earlier.nodeStatus action.actionId = some .pending ∧ ¬earlier.Incomplete action

/-- The safety of the chains of a store. -/
structure Safe (store : AttackChainStore) : Prop where
  /-- the goal is proved where it is reached -/
  goal : ∀ plan ∈ store.plans, ∀ before checkpoint after,
    store.history plan.chainPlanId = before ++ checkpoint :: after →
      checkpoint.status = .goalReached → GoalProved plan before checkpoint
  /-- a node keeps its terminal status and its observation -/
  nodes : ∀ chainPlanId, (store.history chainPlanId).Pairwise fun earlier later =>
    ∀ node ∈ earlier.nodes, node.status ≠ .pending → node ∈ later.nodes
  /-- an action has one observation at most -/
  observations : (store.observations.map observationKey).Nodup
  /-- nothing comes after a terminal checkpoint -/
  terminal : ∀ plan ∈ store.plans, ∀ before checkpoint after,
    store.history plan.chainPlanId = before ++ checkpoint :: after →
      checkpoint.status.isTerminal = true →
        after = [] ∧ store.latest plan.chainPlanId = .ok checkpoint

/-- What a store keeps of an earlier one. -/
structure Keeps (store later : AttackChainStore) : Prop where
  plans : store.plans <+: later.plans
  history : ∀ chainPlanId, store.history chainPlanId <+: later.history chainPlanId
  observations : store.observations <+: later.observations

theorem Keeps.refl (store : AttackChainStore) : store.Keeps store :=
  ⟨List.prefix_refl _, fun _ => List.prefix_refl _, List.prefix_refl _⟩

theorem Keeps.trans {a b c : AttackChainStore} (hab : a.Keeps b) (hbc : b.Keeps c) : a.Keeps c :=
  ⟨hab.plans.trans hbc.plans, fun id => (hab.history id).trans (hbc.history id),
    hab.observations.trans hbc.observations⟩

theorem Wrote.keeps (h : Wrote store store') : store.Keeps store' := by
  cases h with
  | kept hplans hcheckpoints hobservations =>
    refine ⟨by rw [hplans], fun id => ?_, by rw [hobservations]⟩
    rw [history_congr hcheckpoints]
  | created plan checkpoint now hplanned hfresh hclash hplans hcheckpoints hobservations =>
    refine ⟨by rw [hplans]; exact List.prefix_append _ _, fun id => ?_, by rw [hobservations]⟩
    rw [history_concat hcheckpoints]
    exact List.prefix_append _ _
  | moved plan previous next hplan hlatest hmove hclash hplans hcheckpoints hobservations =>
    refine ⟨by rw [hplans], fun id => ?_, ?_⟩
    · rw [history_concat hcheckpoints]
      exact List.prefix_append _ _
    · rcases hobservations with hsame | ⟨row, -, hadded⟩
      · rw [hsame]
      · rw [hadded]
        exact List.prefix_append _ _

theorem run_keeps (calls : List AttackChainCall) (hs : store.Sound) :
    store.Keeps (run step store calls) := by
  refine run_related step Keeps.refl Keeps.trans (fun _ call hs => step_sound call hs) ?_ calls hs
  intro s call hs
  exact settle_induction (Keeps.refl s) fun _ hok => (exec_ok hs.checkpoints_nodup hok).keeps

/-- A sound store is safe. -/
theorem Sound.safe (hs : store.Sound) : store.Safe where
  goal plan hplan before checkpoint after hhistory hgoal := by
    obtain ⟨path, last, hpaths, hpath⟩ := hs.paths plan hplan
    have hprefix := hpath.of_eq_append (hpaths.symm.trans hhistory)
    have hobjective := checkpoint.isSealed.goal hgoal
    obtain ⟨id, hid⟩ := Option.ne_none_iff_exists'.1 hobjective
    exact ⟨(checkpoint.isSealed.all_succeeded hgoal).1,
      ⟨id, hid, checkpoint.isSealed.objective id hid⟩, fun action => hprefix.goal hgoal⟩
  nodes chainPlanId := by
    by_cases hplan : ∃ plan ∈ store.plans, plan.chainPlanId = chainPlanId
    · obtain ⟨plan, hplan, rfl⟩ := hplan
      obtain ⟨path, last, hpaths, hpath⟩ := hs.paths plan hplan
      rw [hpaths]
      exact hpath.pairwise.imp And.right
    · have hempty : store.history chainPlanId = [] := by
        refine List.filter_eq_nil_iff.2 fun r hr hid => hplan ?_
        obtain ⟨owner, howner, howns⟩ := hs.owned r hr
        exact ⟨owner, howner, howns.trans (of_decide_eq_true hid)⟩
      rw [hempty]
      exact List.Pairwise.nil
  observations := hs.observations_nodup
  terminal plan hplan before checkpoint after hhistory hterminal := by
    obtain ⟨path, last, hpaths, hpath⟩ := hs.paths plan hplan
    have hsplit := hpaths.symm.trans hhistory
    have hafter : after = [] := by
      have hpairs := hpath.pairwise
      rw [hsplit] at hpairs
      refine List.eq_nil_iff_forall_not_mem.2 fun later hlater => ?_
      have hopen := ((List.pairwise_cons.1 (List.pairwise_append.1 hpairs).2.1).1 later hlater).1
      rw [hterminal] at hopen
      cases hopen
    subst hafter
    exact ⟨rfl, latest_of_path hhistory (hpath.of_eq_append hsplit)⟩

/-- Whatever follows the request of a cleanup owes it. -/
def CleanupOwed (store : AttackChainStore) : Prop :=
  ∀ plan ∈ store.plans, (store.history plan.chainPlanId).Pairwise fun earlier later =>
    earlier.status = .cleanupRequired → OwesCleanup plan later

end AttackChainStore

/-- In every run, a chain that was asked for its cleanup never runs on and reaches no goal; it
fails or times out only when its cleanup has been observed. -/
theorem cleanup_never_dropped (calls : List AttackChainCall) :
    (run AttackChainStore.step .empty calls).CleanupOwed := by
  intro plan hplan
  obtain ⟨before, last, hhistory, hpath⟩ :=
    (AttackChainStore.run_sound calls AttackChainStore.sound_empty).paths plan hplan
  rw [hhistory]
  exact hpath.owes

/-- The chains of every run are safe, and what the run has stored stays : a chain that has a
terminal checkpoint keeps it as its latest one. -/
theorem attack_chain_safe (calls more : List AttackChainCall) :
    let store := run AttackChainStore.step .empty calls
    let later := run AttackChainStore.step .empty (calls ++ more)
    store.Safe ∧ store.Keeps later ∧ ∀ plan ∈ store.plans, ∀ checkpoint,
      store.latest plan.chainPlanId = .ok checkpoint → checkpoint.status.isTerminal = true →
        later.history plan.chainPlanId = store.history plan.chainPlanId ∧
          later.latest plan.chainPlanId = .ok checkpoint := by
  intro store later
  have hsound : store.Sound := AttackChainStore.run_sound calls AttackChainStore.sound_empty
  have hlater : later.Sound := AttackChainStore.run_sound _ AttackChainStore.sound_empty
  have hkeeps : store.Keeps later := by
    have hrun : later = run AttackChainStore.step store more := run_append _ _ _ _
    rw [hrun]
    exact AttackChainStore.run_keeps more hsound
  refine ⟨hsound.safe, hkeeps, fun plan hplan checkpoint hlatest hterminal => ?_⟩
  obtain ⟨before, last, hhistory, hpath⟩ := hsound.paths plan hplan
  obtain rfl : checkpoint = last := Except.ok.inj
    (hlatest.symm.trans (AttackChainStore.latest_of_path hhistory hpath))
  obtain ⟨after, hafter⟩ := hkeeps.history plan.chainPlanId
  rw [hhistory, List.append_assoc, List.singleton_append] at hafter
  obtain ⟨rfl, hlast⟩ := hlater.safe.terminal plan (hkeeps.plans.subset hplan) before checkpoint
    after hafter.symm hterminal
  exact ⟨by rw [hhistory, ← hafter], hlast⟩

end VulnLoom

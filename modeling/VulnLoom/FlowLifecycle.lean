import VulnLoom.FlowSystem

/-!
# The lifecycle of a flow

Every call appends at most one checkpoint to a flow, and it continues the latest one
(`CheckpointStep`). So the revisions of a flow count from zero, its latest checkpoint is
the last one of its history, and every stored checkpoint satisfies `CheckpointOk`. The
observations that the latest checkpoint lists are the recorded observations of the flow, in
the order they were recorded (`Provenance.recorded`).
-/

set_option linter.unusedSectionVars false

open Transition

namespace VulnLoom

variable [RedTeamDigests]

/-! ## Checkpoints -/

/-- What a step does to the plans and the checkpoints. -/
inductive CheckpointStep (store store' : RedTeamStore) : Prop
  | same (hplans : store'.plans = store.plans)
      (hcheckpoints : store'.checkpoints = store.checkpoints)
  | planned {plan : RedTeamFlowPlan} {planned : RedTeamCheckpoint} {now : Time}
      (hplanned : plannedCheckpoint plan now = .ok planned)
      (hplan : ∀ r ∈ store.plans, planClash plan r = false)
      (hplans : store'.plans = store.plans ++ [plan])
      (hcheckpoints : store'.checkpoints = store.checkpoints ++ [planned])
  | continued {plan : RedTeamFlowPlan} {checkpoint next : RedTeamCheckpoint}
      {updates : CheckpointUpdates}
      (hplan : plan ∈ store.plans) (hcurrent : checkpoint.planId = plan.planId)
      (hlatest : store.latest checkpoint.planId = .ok checkpoint)
      (hcontinues : Continues checkpoint updates next)
      (hok : CheckpointOk plan checkpoint → CheckpointOk plan next)
      (hplans : store'.plans = store.plans)
      (hcheckpoints : store'.checkpoints = store.checkpoints ++ [next])

theorem FlowStep.checkpointStep {sys sys' : FlowSystem} {call : FlowCall}
    (hstep : FlowStep sys call sys') :
    CheckpointStep sys.store sys'.store := by
  cases hstep with
  | same => exact .same rfl rfl
  | created hplanned hplan hfresh => exact .planned hplanned hplan rfl rfl
  | stopped hplan hlatest hstops hfresh =>
    exact .continued hplan hstops.current hlatest hstops.continues (·.stops hstops) rfl rfl
  | claimed hread hplanId hplan hlatest hbudget hfresh => exact .same rfl rfl
  | claimedReplan hread hplanId hplan hlatest hrow hreserved hbudget hfresh hone =>
    exact .same rfl rfl
  | reclaimed hread hplanId hrow haction hone hfree => exact .same rfl rfl
  | completed hflight hplan hlatest hof hrecords hone hobservation hfresh =>
    exact .continued hplan hrecords.current hlatest hrecords.continues (·.records hrecords) rfl rfl
  | reserved hcall hnew hplan hlatest hcurrent hbudget => exact .same rfl rfl
  | admitted hplan hlatest hbudget hfresh => exact .same rfl rfl
  | released hstate hone => exact .same rfl rfl

variable {store store' : RedTeamStore}

/-- A new checkpoint is the last one of its flow. -/
theorem RedTeamStore.history_concat {next : RedTeamCheckpoint}
    (h : store'.checkpoints = store.checkpoints ++ [next]) (planId : Digest) :
    store'.history planId =
      store.history planId ++ if next.planId = planId then [next] else [] := by
  unfold history
  rw [h, List.filter_append, List.filter_singleton]
  by_cases hid : next.planId = planId <;> simp [hid]

theorem RedTeamStore.history_congr (h : store'.checkpoints = store.checkpoints) (planId : Digest) :
    store'.history planId = store.history planId := by
  rw [history, h, history]

theorem RedTeamStore.latest_congr (h : store'.checkpoints = store.checkpoints) (planId : Digest) :
    store'.latest planId = store.latest planId := by
  rw [latest, RedTeamStore.history_congr h, latest]

/-- The checkpoints of every flow are numbered from zero and satisfy the invariant of its
plan, and every plan has one. -/
structure RedTeamStore.Histories (store : RedTeamStore) : Prop where
  revisions : ∀ planId, (store.history planId).map (fun c => c.revision) =
    List.range (store.history planId).length
  checkpoint_ok : ∀ c ∈ store.checkpoints, ∃ plan ∈ store.plans, CheckpointOk plan c
  has_checkpoint : ∀ plan ∈ store.plans, store.history plan.planId ≠ []

namespace RedTeamStore.Histories

variable {store store' : RedTeamStore}
variable {planId : Digest} {checkpoint : RedTeamCheckpoint}

/-- The latest checkpoint is the last one of the history. -/
theorem latest_iff (hist : store.Histories) : store.latest planId = .ok checkpoint ↔
      (store.history planId).getLast? = some checkpoint := by
  rw [latest, orRaise_eq_ok, Table.argmax_eq_getLast? _ _ (hist.revisions planId)]

theorem latest_of_plan (hist : store.Histories) {plan : RedTeamFlowPlan}
    (hplan : plan ∈ store.plans) :
    ∃ checkpoint, store.latest plan.planId = .ok checkpoint := by
  obtain ⟨checkpoint, hlast⟩ : ∃ c, (store.history plan.planId).getLast? = some c :=
    ⟨_, List.getLast?_eq_some_getLast (hist.has_checkpoint plan hplan)⟩
  exact ⟨checkpoint, hist.latest_iff.2 hlast⟩

/-- A flow without a plan has no checkpoint. -/
theorem history_eq_nil (hist : store.Histories)
    (hplan : ∀ plan ∈ store.plans, plan.planId ≠ planId) : store.history planId = [] := by
  refine List.eq_nil_iff_forall_not_mem.2 fun c hc => ?_
  obtain ⟨hmem, hid⟩ := RedTeamStore.mem_history.1 hc
  obtain ⟨plan, hplan', hok⟩ := hist.checkpoint_ok c hmem
  exact hplan plan hplan' (hok.planId.symm.trans hid)

/-- The revision of the latest checkpoint is one less than the length of the history. -/
theorem revision_latest (hist : store.Histories) (h : store.latest planId = .ok checkpoint) :
    checkpoint.revision + 1 = (store.history planId).length := by
  have hlast := hist.latest_iff.1 h
  have hrev : ((store.history planId).map fun c => c.revision).getLast? =
      some checkpoint.revision := by rw [List.getLast?_map, hlast, Option.map_some]
  rw [hist.revisions, List.getLast?_range] at hrev
  split_ifs at hrev with hzero
  have := Option.some.inj hrev
  omega

variable {next : RedTeamCheckpoint}

/-- A checkpoint numbered by the length of its history keeps every history numbered. -/
theorem revisions_concat (hist : store.Histories)
    (hrev : next.revision = (store.history next.planId).length)
    (h : store'.checkpoints = store.checkpoints ++ [next]) (planId : Digest) :
    (store'.history planId).map (fun c => c.revision) =
      List.range (store'.history planId).length := by
  rw [RedTeamStore.history_concat h]
  by_cases hid : next.planId = planId
  · subst hid
    rw [if_pos rfl, List.map_append, hist.revisions, List.map_singleton, hrev,
      List.length_append, List.length_singleton, List.range_succ]
  · rw [if_neg hid, List.append_nil]
    exact hist.revisions planId

/-- Once a checkpoint is appended it is the latest of its flow, and the latest checkpoint of
every other flow stays. -/
theorem latest_concat (hist : store'.Histories)
    (h : store'.checkpoints = store.checkpoints ++ [next]) (planId : Digest) :
    store'.latest planId = if next.planId = planId then .ok next else store.latest planId := by
  by_cases hid : next.planId = planId
  · rw [if_pos hid, hist.latest_iff, RedTeamStore.history_concat h, if_pos hid,
      List.getLast?_concat]
  · rw [if_neg hid, RedTeamStore.latest, RedTeamStore.history_concat h, if_neg hid,
      List.append_nil, RedTeamStore.latest]

theorem empty : RedTeamStore.empty.Histories := by
  refine ⟨fun planId => rfl, ?_, ?_⟩ <;> simp [RedTeamStore.empty]

theorem step (hist : store.Histories) (hkeys : (store.plans.map RedTeamFlowPlan.planId).Nodup)
    (hstep : CheckpointStep store store') : store'.Histories := by
  cases hstep with
  | same hplans hcheckpoints =>
    refine ⟨fun planId => ?_, ?_, fun plan hplan => ?_⟩
    · rw [RedTeamStore.history_congr hcheckpoints]
      exact hist.revisions planId
    · rw [hplans, hcheckpoints]
      exact hist.checkpoint_ok
    · rw [RedTeamStore.history_congr hcheckpoints]
      exact hist.has_checkpoint plan (hplans ▸ hplan)
  | @planned plan planned now hplanned hplan hplans hcheckpoints =>
    have hvalues := RedTeamCheckpoint.create_eq_ok hplanned
    have hid : planned.planId = plan.planId := by rw [hvalues]
    have hnone : store.history plan.planId = [] := by
      refine hist.history_eq_nil fun r hr heq => ?_
      have hclash := hplan r hr
      simp [planClash, heq] at hclash
    refine ⟨hist.revisions_concat ?_ hcheckpoints, ?_, fun r hr => ?_⟩
    · rw [hid, hnone, hvalues]
      rfl
    · rw [hplans, hcheckpoints]
      intro c hc
      rcases List.mem_append.1 hc with hc | hc
      · obtain ⟨r, hr, hok⟩ := hist.checkpoint_ok c hc
        exact ⟨r, List.mem_append_left _ hr, hok⟩
      · rw [List.mem_singleton.1 hc]
        refine ⟨plan, List.mem_append_right _ (List.mem_singleton_self _), ⟨hid, ?_, ?_, ?_, ?_⟩⟩
        · rw [hvalues]
          rfl
        · rw [hvalues]
          exact Nat.zero_le _
        · intro _
          rw [hvalues]
          exact ⟨rfl, rfl⟩
        · intro hrunning
          rw [hvalues] at hrunning
          cases hrunning
    · rw [RedTeamStore.history_concat hcheckpoints]
      rw [hplans] at hr
      rcases List.mem_append.1 hr with hr | hr
      · simp [hist.has_checkpoint r hr]
      · rw [List.mem_singleton.1 hr, if_pos hid]
        simp
  | @continued plan checkpoint next updates hplan hcurrent hlatest hcontinues hok hplans
      hcheckpoints =>
    refine ⟨hist.revisions_concat ?_ hcheckpoints, ?_, fun r hr => ?_⟩
    · rw [hcontinues.planId, hcontinues.revision]
      exact hist.revision_latest hlatest
    · rw [hplans, hcheckpoints]
      intro c hc
      rcases List.mem_append.1 hc with hc | hc
      · exact hist.checkpoint_ok c hc
      · rw [List.mem_singleton.1 hc]
        obtain ⟨plan', hplan', hok'⟩ := hist.checkpoint_ok _ (RedTeamStore.latest_ok hlatest).1
        have hsame : plan' = plan :=
          Table.eq_of_key hkeys hplan' hplan (hok'.planId.symm.trans hcurrent)
        exact ⟨plan, hplan, hok (hsame ▸ hok')⟩
    · rw [RedTeamStore.history_concat hcheckpoints]
      simp [hist.has_checkpoint r (hplans ▸ hr)]

end RedTeamStore.Histories

/-! ## Observations -/

/-- The recorded observations of a flow : those of its actions, in the order recorded. -/
def RedTeamStore.recorded (store : RedTeamStore) (planId : Digest) :
    List RedTeamReconObservation :=
  store.observations.filter fun o => store.actions.any fun row =>
    row.action.actionId = o.actionId ∧ row.action.planId = planId

/-- What is recorded depends on the actions of the rows alone. -/
theorem RedTeamStore.recorded_congr
    (hactions : store'.actions.map (fun row => row.action) =
      store.actions.map (fun row => row.action)) (planId : Digest) :
    store'.recorded planId = store'.observations.filter fun o => store.actions.any fun row =>
      row.action.actionId = o.actionId ∧ row.action.planId = planId := by
  have hany : ∀ p : RedTeamReconAction → Bool, (store'.actions.any fun row => p row.action) =
      store.actions.any fun row => p row.action := by
    intro p
    simpa [List.any_map, Function.comp_def] using congrArg (fun l => l.any p) hactions
  refine List.filter_congr fun o _ => ?_
  exact hany fun action => action.actionId = o.actionId ∧ action.planId = planId

/-- A new action has no observation yet. -/
theorem RedTeamStore.recorded_new_action {row : ActionRow}
    (hstored : ∀ o ∈ store.observations, ∃ r ∈ store.actions, r.action.actionId = o.actionId)
    (hfresh : ∀ r ∈ store.actions, actionClash row r = false)
    (hactions : store'.actions = store.actions ++ [row])
    (hobservations : store'.observations = store.observations) (planId : Digest) :
    store'.recorded planId = store.recorded planId := by
  rw [recorded, hobservations, recorded]
  refine List.filter_congr fun o ho => ?_
  obtain ⟨r, hr, hof⟩ := hstored o ho
  have hne : row.action.actionId ≠ o.actionId := by
    intro heq
    have hclash := hfresh r hr
    simp [actionClash, heq, hof] at hclash
  rw [hactions, List.any_append]
  simp [hne]

/-- Every stored action has its plan, every execution and every observation has its action,
and the latest checkpoint of a flow lists its recorded observations. -/
structure FlowSystem.Provenance (sys : FlowSystem) : Prop where
  action_plan : ∀ row ∈ sys.store.actions, ∃ plan ∈ sys.store.plans,
    plan.planId = row.action.planId
  call_action : ∀ call ∈ sys.calls, ∃ row ∈ sys.store.actions, row.action = call.command.action
  observation_action : ∀ o ∈ sys.store.observations, ∃ row ∈ sys.store.actions,
    row.action.actionId = o.actionId
  recorded : ∀ planId latest, sys.store.latest planId = .ok latest →
    latest.observationIds = (sys.store.recorded planId).map fun o => o.observationId

namespace FlowSystem.Provenance

variable {sys sys' : FlowSystem} {call : FlowCall}

theorem empty : FlowSystem.empty.Provenance := by
  refine ⟨?_, ?_, ?_, ?_⟩ <;>
    simp [FlowSystem.empty, RedTeamStore.empty, RedTeamStore.latest, RedTeamStore.history, orRaise]

/-- A plan that has just been created has no action, so nothing is recorded for it. -/
theorem recorded_eq_nil (prov : sys.Provenance) {planId : Digest}
    (hplan : ∀ plan ∈ sys.store.plans, plan.planId ≠ planId) :
    sys.store.recorded planId = [] := by
  refine List.eq_nil_iff_forall_not_mem.2 fun o ho => ?_
  simp only [RedTeamStore.recorded, List.mem_filter, List.any_eq_true, decide_eq_true_eq] at ho
  obtain ⟨-, row, hrow, -, hid⟩ := ho
  obtain ⟨plan, hmem, hof⟩ := prov.action_plan row hrow
  exact hplan plan hmem (hof.trans hid)

variable {o : RedTeamReconObservation}

/-- An execution's action is of one plan only, so its observation is recorded there only. -/
theorem any_action (prov : sys.Provenance) (hkeys : sys.WellKeyed) {call : InFlight}
    (hcall : call ∈ sys.calls) (hof : o.actionId = call.command.action.actionId) (planId : Digest) :
    (sys.store.actions.any fun row =>
        row.action.actionId = o.actionId ∧ row.action.planId = planId) =
      decide (call.command.action.planId = planId) := by
  obtain ⟨row, hrow, haction⟩ := prov.call_action call hcall
  rw [Bool.eq_iff_iff]
  simp only [List.any_eq_true, decide_eq_true_eq]
  constructor
  · rintro ⟨r, hr, hid, hplan⟩
    have hsame : r = row := by
      refine Table.eq_of_key hkeys.actions hr hrow ?_
      rw [hid, hof, haction]
    rw [← hplan, hsame, haction]
  · intro hplan
    refine ⟨row, hrow, ?_, ?_⟩
    · rw [haction, hof]
    · rw [haction, hplan]

/-- A completion records its observation for the plan of its action. -/
theorem recorded_complete (prov : sys.Provenance) (hkeys : sys.WellKeyed) {call : InFlight}
    (hcall : call ∈ sys.calls) (hof : o.actionId = call.command.action.actionId)
    (hactions : store'.actions.map (fun row => row.action) =
      sys.store.actions.map (fun row => row.action))
    (hobservations : store'.observations = sys.store.observations ++ [o]) (planId : Digest) :
    store'.recorded planId = sys.store.recorded planId ++
      if call.command.action.planId = planId then [o] else [] := by
  rw [RedTeamStore.recorded_congr hactions, hobservations, List.filter_append,
    List.filter_singleton, prov.any_action hkeys hcall hof]
  by_cases h : call.command.action.planId = planId <;> simp [h, RedTeamStore.recorded]

variable {p : ActionRow → Bool} {f : ActionRow → ActionRow}

/-- The actions of a table whose rows are rewritten. -/
theorem mem_update_action (hf : ∀ r, (f r).action = r.action) {t : List ActionRow} {r : ActionRow}
    (hr : r ∈ t) : ∃ r' ∈ Table.update p f t, r'.action = r.action := by
  refine ⟨if p r then f r else r, Table.mem_update.2 ⟨r, hr, rfl⟩, ?_⟩
  split_ifs
  · exact hf r
  · rfl

theorem of_mem_update_action (hf : ∀ r, (f r).action = r.action) {t : List ActionRow}
    {r' : ActionRow} (hr : r' ∈ Table.update p f t) : ∃ r ∈ t, r'.action = r.action := by
  obtain ⟨r, hmem, rfl⟩ := Table.mem_update.1 hr
  refine ⟨r, hmem, ?_⟩
  split_ifs
  · exact hf r
  · rfl

/-- A step that neither records nor moves a flow keeps the provenance. -/
theorem of_same_checkpoints (prov : sys.Provenance)
    (hplans : sys'.store.plans = sys.store.plans)
    (hcheckpoints : sys'.store.checkpoints = sys.store.checkpoints)
    (haction : ∀ row ∈ sys'.store.actions, ∃ plan ∈ sys.store.plans,
      plan.planId = row.action.planId)
    (hcall : ∀ call ∈ sys'.calls, ∃ row ∈ sys'.store.actions, row.action = call.command.action)
    (hobservation : ∀ o ∈ sys'.store.observations, ∃ row ∈ sys'.store.actions,
      row.action.actionId = o.actionId)
    (hrecorded : ∀ planId, sys'.store.recorded planId = sys.store.recorded planId) :
    sys'.Provenance := by
  refine ⟨?_, hcall, hobservation, fun planId latest hlatest => ?_⟩
  · rw [hplans]
    exact haction
  · rw [RedTeamStore.latest_congr hcheckpoints] at hlatest
    rw [hrecorded]
    exact prov.recorded planId latest hlatest

/-- A first claim adds an action of a stored plan, and its execution. -/
theorem claim (prov : sys.Provenance) {command : RedTeamReconCommand} {call : InFlight}
    (hcommand : call.command = command)
    (hplan : ∃ plan ∈ sys.store.plans, plan.planId = command.action.planId)
    (hfresh : ∀ r ∈ sys.store.actions, actionClash command.row r = false)
    (hplans : sys'.store.plans = sys.store.plans)
    (hcheckpoints : sys'.store.checkpoints = sys.store.checkpoints)
    (hactions : sys'.store.actions = sys.store.actions ++ [command.row])
    (hobservations : sys'.store.observations = sys.store.observations)
    (hcalls : sys'.calls = sys.calls ++ [call]) : sys'.Provenance := by
  have hmem : command.row ∈ sys'.store.actions := by
    rw [hactions]
    exact List.mem_append_right _ (List.mem_singleton_self _)
  have hold : ∀ row ∈ sys.store.actions, row ∈ sys'.store.actions := by
    intro row hrow
    rw [hactions]
    exact List.mem_append_left _ hrow
  refine prov.of_same_checkpoints hplans hcheckpoints ?_ ?_ ?_
    (RedTeamStore.recorded_new_action prov.observation_action hfresh hactions hobservations)
  · intro row hrow
    rw [hactions] at hrow
    rcases List.mem_append.1 hrow with hrow | hrow
    · exact prov.action_plan row hrow
    · rw [List.mem_singleton.1 hrow]
      exact hplan
  · intro c hc
    rw [hcalls] at hc
    rcases List.mem_append.1 hc with hc | hc
    · obtain ⟨row, hrow, haction⟩ := prov.call_action c hc
      exact ⟨row, hold row hrow, haction⟩
    · rw [List.mem_singleton.1 hc, hcommand]
      exact ⟨command.row, hmem, rfl⟩
  · rw [hobservations]
    intro o ho
    obtain ⟨row, hrow, hid⟩ := prov.observation_action o ho
    exact ⟨row, hold row hrow, hid⟩

theorem step (prov : sys.Provenance) (hkeys : sys.WellKeyed) (hist : sys.store.Histories)
    (hstep : FlowStep sys call sys') : sys'.Provenance := by
  have hist' := hist.step hkeys.plans hstep.checkpointStep
  cases hstep with
  | same => exact prov
  | @created plan planned now hplanned hplan hfresh =>
    have hvalues := RedTeamCheckpoint.create_eq_ok hplanned
    have hid : planned.planId = plan.planId := by rw [hvalues]
    refine ⟨?_, prov.call_action, prov.observation_action, fun planId latest hlatest => ?_⟩
    · intro row hrow
      obtain ⟨r, hr, hof⟩ := prov.action_plan row hrow
      exact ⟨r, List.mem_append_left _ hr, hof⟩
    · rw [hist'.latest_concat rfl] at hlatest
      change latest.observationIds = (sys.store.recorded planId).map fun o => o.observationId
      split_ifs at hlatest with heq
      · have hnone : sys.store.recorded planId = [] := by
          refine prov.recorded_eq_nil fun r hr hr' => ?_
          have hclash := hplan r hr
          simp [planClash, ← hid, heq, hr'] at hclash
        cases hlatest
        rw [hnone, hvalues]
        rfl
      · exact prov.recorded planId latest hlatest
  | stopped hplan hlatest hstops hfresh =>
    refine ⟨prov.action_plan, prov.call_action, prov.observation_action,
      fun planId latest hlatest' => ?_⟩
    rw [hist'.latest_concat rfl] at hlatest'
    split_ifs at hlatest' with heq
    · cases hlatest'
      rw [hstops.continues.observationIds]
      refine prov.recorded planId _ ?_
      rw [← heq, hstops.continues.planId]
      exact hlatest
    · exact prov.recorded planId latest hlatest'
  | claimed hread hplanId hplan hlatest hbudget hfresh =>
    exact prov.claim rfl ⟨_, hplan⟩ hfresh rfl rfl rfl rfl rfl
  | claimedReplan hread hplanId hplan hlatest hrow hreserved hbudget hfresh hone =>
    exact prov.claim rfl ⟨_, hplan⟩ hfresh rfl rfl rfl rfl rfl
  | @reclaimed command checkpoint scope row hread hplanId hrow haction hone hfree =>
    have hkept : ∀ r, (ActionRow.reclaim command r).action = r.action := fun _ => rfl
    refine prov.of_same_checkpoints rfl rfl ?_ ?_ ?_
      (RedTeamStore.recorded_congr (Table.map_update hkept _ _))
    · intro r' hr'
      obtain ⟨r, hr, heq⟩ := of_mem_update_action hkept hr'
      rw [heq]
      exact prov.action_plan r hr
    · intro c hc
      rcases List.mem_append.1 hc with hc | hc
      · obtain ⟨r, hr, heq⟩ := prov.call_action c hc
        obtain ⟨r', hr', heq'⟩ := mem_update_action hkept hr
        exact ⟨r', hr', heq'.trans heq⟩
      · rw [List.mem_singleton.1 hc]
        obtain ⟨r', hr', heq'⟩ := mem_update_action hkept hrow
        exact ⟨r', hr', heq'.trans haction⟩
    · intro o ho
      obtain ⟨r, hr, heq⟩ := prov.observation_action o ho
      obtain ⟨r', hr', heq'⟩ := mem_update_action hkept hr
      exact ⟨r', hr', by rw [heq', heq]⟩
  | @completed flight plan observation next hflight hplan hlatest hof hrecords hone hobservation
      hfresh =>
    have hkept : ∀ r, (ActionRow.complete observation r).action = r.action := fun _ => rfl
    have hflightId : flight.checkpoint.planId = flight.command.action.planId :=
      (hkeys.calls flight hflight).2
    refine ⟨?_, ?_, ?_, fun planId latest hlatest' => ?_⟩
    · intro r' hr'
      obtain ⟨r, hr, heq⟩ := of_mem_update_action hkept hr'
      rw [heq]
      exact prov.action_plan r hr
    · intro c hc
      obtain ⟨r, hr, heq⟩ := prov.call_action c hc
      obtain ⟨r', hr', heq'⟩ := mem_update_action hkept hr
      exact ⟨r', hr', heq'.trans heq⟩
    · intro o ho
      have hstored : ∃ r ∈ sys.store.actions, r.action.actionId = o.actionId := by
        rcases List.mem_append.1 ho with ho | ho
        · exact prov.observation_action o ho
        · obtain ⟨r, hr, heq⟩ := prov.call_action flight hflight
          rw [List.mem_singleton.1 ho, hof]
          exact ⟨r, hr, by rw [heq]⟩
      obtain ⟨r, hr, heq⟩ := hstored
      obtain ⟨r', hr', heq'⟩ := mem_update_action hkept hr
      exact ⟨r', hr', by rw [heq', heq]⟩
    · rw [hist'.latest_concat rfl] at hlatest'
      rw [prov.recorded_complete hkeys hflight hof (Table.map_update hkept _ _)
        (show _ = sys.store.observations ++ [observation] from rfl)]
      split_ifs at hlatest' with heq
      · cases hlatest'
        have hplanId : flight.command.action.planId = planId := by
          rw [← hflightId, ← hrecords.continues.planId, heq]
        have hprevious := prov.recorded planId flight.checkpoint (by
          rw [← hplanId, ← hflightId]
          exact hlatest)
        rw [hrecords.continues.observationIds, if_pos hplanId, List.map_append, ← hprevious]
        rfl
      · have hplanId : flight.command.action.planId ≠ planId := by
          rw [← hflightId, ← hrecords.continues.planId]
          exact heq
        rw [if_neg hplanId, List.append_nil]
        exact prov.recorded planId latest hlatest'
  | reserved hcall hnew hplan hlatest hcurrent hbudget =>
    exact ⟨prov.action_plan, prov.call_action, prov.observation_action, prov.recorded⟩
  | admitted hplan hlatest hbudget hfresh =>
    exact ⟨prov.action_plan, prov.call_action, prov.observation_action, prov.recorded⟩
  | released hstate hone =>
    exact ⟨prov.action_plan, prov.call_action, prov.observation_action, prov.recorded⟩

end FlowSystem.Provenance

/-! ## Runs -/

structure FlowSystem.Sound (sys : FlowSystem) : Prop where
  keys : sys.WellKeyed
  histories : sys.store.Histories
  provenance : sys.Provenance

namespace FlowSystem.Sound

variable {sys sys' : FlowSystem} {call : FlowCall}

theorem empty : FlowSystem.empty.Sound :=
  ⟨FlowSystem.wellKeyed_empty, RedTeamStore.Histories.empty, FlowSystem.Provenance.empty⟩

theorem step (hsound : sys.Sound) (hstep : FlowStep sys call sys') : sys'.Sound :=
  ⟨hsound.keys.step hstep, hsound.histories.step hsound.keys.plans hstep.checkpointStep,
    hsound.provenance.step hsound.keys hsound.histories hstep⟩

theorem next (hsound : sys.Sound) (call : FlowCall) : (sys.step call).Sound :=
  hsound.step (FlowSystem.step_cases hsound.keys call)

theorem run (calls : List FlowCall) :
    (Transition.run FlowSystem.step FlowSystem.empty calls).Sound := by
  have hstep : ∀ (sys : FlowSystem) (call : FlowCall), sys.Sound → (sys.step call).Sound :=
    fun _ c hsound => hsound.next c
  exact run_invariant _ hstep calls empty

/-- A stored checkpoint satisfies the invariant of the one plan it names. -/
theorem checkpoint_ok (hsound : sys.Sound) {plan : RedTeamFlowPlan}
    (hplan : plan ∈ sys.store.plans) {checkpoint : RedTeamCheckpoint}
    (hlatest : sys.store.latest plan.planId = .ok checkpoint) : CheckpointOk plan checkpoint := by
  obtain ⟨hmem, hid⟩ := RedTeamStore.latest_ok hlatest
  obtain ⟨plan', hplan', hok⟩ := hsound.histories.checkpoint_ok checkpoint hmem
  have hsame : plan' = plan :=
    Table.eq_of_key hsound.keys.plans hplan' hplan (hok.planId.symm.trans hid)
  exact hsame ▸ hok

/-- A step keeps the latest checkpoint of a flow, or continues it if it is not terminal. -/
theorem latest_step (hsound : sys.Sound) (hstep : FlowStep sys call sys') {planId : Digest}
    {before : RedTeamCheckpoint} (hbefore : sys.store.latest planId = .ok before) :
    sys'.store.latest planId = .ok before ∨ ∃ after, sys'.store.latest planId = .ok after ∧
      after.revision = before.revision + 1 ∧ before.status.isTerminal = false := by
  have hist' := (hsound.step hstep).histories
  cases hstep.checkpointStep with
  | same hplans hcheckpoints =>
    rw [RedTeamStore.latest_congr hcheckpoints]
    exact Or.inl hbefore
  | @planned plan planned now hplanned hplan hplans hcheckpoints =>
    have hvalues := RedTeamCheckpoint.create_eq_ok hplanned
    have hother : planned.planId ≠ planId := by
      intro heq
      obtain ⟨hmem, hid⟩ := RedTeamStore.latest_ok hbefore
      obtain ⟨r, hr, hok⟩ := hsound.histories.checkpoint_ok before hmem
      have hclash := hplan r hr
      have hsame : plan.planId = r.planId := by
        rw [← hok.planId, hid, ← heq, hvalues]
      simp [planClash, hsame] at hclash
    rw [hist'.latest_concat hcheckpoints, if_neg hother]
    exact Or.inl hbefore
  | @continued plan checkpoint next updates hplan hcurrent hlatest hcontinues hok hplans
      hcheckpoints =>
    rw [hist'.latest_concat hcheckpoints]
    by_cases hid : next.planId = planId
    · have hsame : before = checkpoint := by
        rw [hcontinues.planId] at hid
        rw [hid, hbefore] at hlatest
        exact Except.ok.inj hlatest
      rw [if_pos hid, hsame]
      exact Or.inr ⟨next, rfl, hcontinues.revision, hcontinues.not_terminal⟩
    · rw [if_neg hid]
      exact Or.inl hbefore

/-- A terminal checkpoint stays the latest of its flow. -/
theorem terminal_run (hsound : sys.Sound) {planId : Digest} {latest : RedTeamCheckpoint}
    (hlatest : sys.store.latest planId = .ok latest) (hterm : latest.status.isTerminal = true)
    (calls : List FlowCall) :
    (Transition.run FlowSystem.step sys calls).store.latest planId = .ok latest := by
  have hstep : ∀ (sys : FlowSystem) (call : FlowCall),
      sys.Sound ∧ sys.store.latest planId = .ok latest →
      (sys.step call).Sound ∧ (sys.step call).store.latest planId = .ok latest := by
    rintro sys call ⟨hs, hl⟩
    refine ⟨hs.next call, ?_⟩
    rcases hs.latest_step (FlowSystem.step_cases hs.keys call) hl with h' | ⟨-, -, -, hopen⟩
    · exact h'
    · rw [hterm] at hopen
      cases hopen
  exact (run_invariant _ hstep calls ⟨hsound, hlatest⟩).2

/-- A completion against a checkpoint that is no longer the latest raises. -/
theorem stale_completion (hsound : sys.Sound) {previous : RedTeamCheckpoint}
    (hread : previous ∈ sys.store.checkpoints)
    (hstale : sys.store.latest previous.planId ≠ .ok previous) (command : RedTeamReconCommand)
    (next : RedTeamCheckpoint) (observation : RedTeamReconObservation) :
    ∃ e, sys.store.completeAction command previous next observation = .error e := by
  cases h : sys.store.completeAction command previous next observation with
  | error e => exact ⟨e, rfl⟩
  | ok store' =>
    exact absurd (RedTeamStore.completeAction_ok hsound.keys.checkpoints hread h).1 hstale

end FlowSystem.Sound

/-- The lifecycle of every flow of a system. -/
structure FlowSystem.Lifecycle (sys : FlowSystem) : Prop where
  counters : ∀ plan ∈ sys.store.plans, ∃ latest, sys.store.latest plan.planId = .ok latest ∧
    latest.actionsUsed = (sys.store.recorded plan.planId).length ∧
    latest.actionsUsed ≤ plan.maxActions ∧
    (latest.status = .running →
      latest.consecutiveFailures < plan.rules.stopConditions.maxConsecutiveFailures ∧
      latest.actionsUsed < plan.maxActions)
  /-- the revisions of a flow are 0, 1, 2, … -/
  revisions : ∀ planId, (sys.store.history planId).map (fun c => c.revision) =
    List.range (sys.store.history planId).length
  /-- a call keeps the latest checkpoint of a flow or increases its revision by one -/
  next_revision : ∀ call planId before, sys.store.latest planId = .ok before →
    ∃ after, (sys.step call).store.latest planId = .ok after ∧
      (after = before ∨ after.revision = before.revision + 1)
  terminal : ∀ calls planId latest, sys.store.latest planId = .ok latest →
    latest.status.isTerminal = true →
    (run FlowSystem.step sys calls).store.latest planId = .ok latest
  one_observation : ∀ o ∈ sys.store.observations, ∀ o' ∈ sys.store.observations,
    o.actionId = o'.actionId → o = o'
  stale_completion : ∀ previous ∈ sys.store.checkpoints,
    sys.store.latest previous.planId ≠ .ok previous → ∀ command next observation,
    ∃ e, sys.store.completeAction command previous next observation = .error e
  stale_call : ∀ place call, sys.calls[place]? = some call →
    sys.store.latest call.checkpoint.planId ≠ .ok call.checkpoint → ∀ observation,
    sys.step (.complete place observation) = sys

/-- Every run of calls, in any order, keeps the lifecycle of every flow. -/
theorem flow_lifecycle (calls : List FlowCall) :
    (run FlowSystem.step FlowSystem.empty calls).Lifecycle := by
  have hsound := FlowSystem.Sound.run calls
  set sys := run FlowSystem.step FlowSystem.empty calls
  refine ⟨fun plan hplan => ?_, hsound.histories.revisions, fun call planId before hbefore => ?_,
    fun calls planId latest hlatest hterm => hsound.terminal_run hlatest hterm calls,
    fun o ho o' ho' => Table.eq_of_key hsound.keys.observations ho ho',
    fun previous hread hstale => hsound.stale_completion hread hstale,
    fun place call hcall hstale observation => ?_⟩
  · obtain ⟨latest, hlatest⟩ := hsound.histories.latest_of_plan hplan
    have hok := hsound.checkpoint_ok hplan hlatest
    refine ⟨latest, hlatest, ?_, hok.actionsUsed_le, hok.running⟩
    rw [hok.actionsUsed_eq, hsound.provenance.recorded _ _ hlatest, List.length_map]
  · rcases hsound.latest_step (FlowSystem.step_cases hsound.keys call) hbefore with
      h | ⟨after, h, hrev, -⟩
    · exact ⟨before, h, Or.inl rfl⟩
    · exact ⟨after, h, Or.inr hrev⟩
  · cases h : sys.exec (.complete place observation) with
    | error e => exact settle_error h
    | ok sys' =>
      simp only [FlowSystem.exec, finishRecon, bind_eq_ok, orRaise_eq_ok, hcall] at h
      obtain ⟨_, heq, plan, -, result, ⟨-, -, next, -, store', hcomplete, -⟩, -⟩ := h
      cases heq
      obtain ⟨e, herror⟩ := hsound.stale_completion
        (hsound.keys.calls call (List.mem_of_getElem? hcall)).1 hstale call.command next observation
      rw [herror] at hcomplete
      cases hcomplete

end VulnLoom

import VulnLoom.FlowLifecycle

/-!
# The actions of a flow

An action is claimed while the checkpoint it expects is the latest of its flow, and its
completion adds a checkpoint after it. So a flow has moved on from the checkpoint that a completed
action expects (`ActionsFollow`).
-/

namespace VulnLoom

open Transition

variable [RedTeamDigests]

/-- The checkpoint that a stored action expects is stored, and the flow has moved on from it
once the action is complete. -/
def RedTeamStore.ActionsFollow (store : RedTeamStore) : Prop :=
  ∀ row ∈ store.actions, ∃ expected ∈ store.checkpoints,
    expected.planId = row.action.planId ∧
      expected.checkpointId = row.action.expectedCheckpointId ∧
      (row.state = .completed → ∃ latest, store.latest row.action.planId = .ok latest ∧
        expected.revision < latest.revision)

variable {store : RedTeamStore} {planId : Digest} {checkpoint : RedTeamCheckpoint}

theorem RedTeamStore.Histories.revision_le (hist : store.Histories) {latest : RedTeamCheckpoint}
    (hlatest : store.latest planId = .ok latest) (hmem : checkpoint ∈ store.checkpoints)
    (hid : checkpoint.planId = planId) : checkpoint.revision ≤ latest.revision := by
  have hrevision : checkpoint.revision ∈ (store.history planId).map fun c => c.revision :=
    List.mem_map_of_mem (RedTeamStore.mem_history.2 ⟨hmem, hid⟩)
  rw [hist.revisions, List.mem_range, ← hist.revision_latest hlatest] at hrevision
  omega

theorem RedTeamStore.advance_actions {store' : RedTeamStore} {previous : RedTeamCheckpoint}
    (h : store.advance previous checkpoint = .ok store') : store'.actions = store.actions := by
  simp only [RedTeamStore.advance, bind_eq_ok] at h
  obtain ⟨-, -, -, -, hinsert⟩ := h
  obtain ⟨-, rfl⟩ := RedTeamStore.insertCheckpoint_ok hinsert
  rfl

theorem RedTeamStore.transition_actions {store' : RedTeamStore} {revision : ℕ}
    {move : RedTeamFlowPlan → RedTeamCheckpoint → Except RedTeamError RedTeamCheckpoint}
    (h : store.transition planId revision move = .ok store') : store'.actions = store.actions := by
  simp only [RedTeamStore.transition, bind_eq_ok] at h
  obtain ⟨plan, -, checkpoint, -, next, -, hadvance⟩ := h
  exact RedTeamStore.advance_actions hadvance

variable {sys sys' : FlowSystem} {call : FlowCall}

/-- A call other than a claim stores no action. -/
theorem FlowSystem.actions_of_exec (h : sys.exec call = .ok sys')
    (hcall : ∀ command revision scope, call ≠ .claim command revision scope) :
    ∀ row ∈ sys'.store.actions, ∃ r ∈ sys.store.actions, r.action = row.action := by
  have hsame : ∀ {store : RedTeamStore}, store.actions = sys.store.actions →
      ∀ row ∈ store.actions, ∃ r ∈ sys.store.actions, r.action = row.action := by
    intro store heq row hrow
    rw [heq] at hrow
    exact ⟨row, hrow, rfl⟩
  cases call with
  | claim command revision scope => exact absurd rfl (hcall command revision scope)
  | create plan now =>
    simp only [FlowSystem.exec, bind_eq_ok, pure_eq_ok] at h
    obtain ⟨planned, -, ⟨store, result⟩, hcreate, rfl⟩ := h
    rcases RedTeamStore.create_ok hcreate with rfl | ⟨-, -, rfl⟩ <;> exact hsame rfl
  | start planId revision now =>
    simp only [FlowSystem.exec, bind_eq_ok, pure_eq_ok] at h
    obtain ⟨store, hmove, rfl⟩ := h
    exact hsame (RedTeamStore.transition_actions hmove)
  | cancel planId revision now =>
    simp only [FlowSystem.exec, bind_eq_ok, pure_eq_ok] at h
    obtain ⟨store, hmove, rfl⟩ := h
    exact hsame (RedTeamStore.transition_actions hmove)
  | kill planId revision now =>
    simp only [FlowSystem.exec, bind_eq_ok, pure_eq_ok] at h
    obtain ⟨store, hmove, rfl⟩ := h
    exact hsame (RedTeamStore.transition_actions hmove)
  | expire planId revision now =>
    simp only [FlowSystem.exec, RedTeamStore.expire, bind_eq_ok, pure_eq_ok] at h
    obtain ⟨store, ⟨plan, -, checkpoint, -, expired, -, hexpire⟩, rfl⟩ := h
    split_ifs at hexpire
    · simp only [pure_eq_ok] at hexpire
      exact hsame (by rw [hexpire])
    · exact hsame (RedTeamStore.advance_actions hexpire)
  | complete place observation =>
    simp only [FlowSystem.exec, finishRecon, RedTeamStore.completeAction, bind_eq_ok,
      pure_eq_ok] at h
    obtain ⟨flight, -, plan, -, ⟨store, next⟩, ⟨-, -, advanced, -, completed,
      ⟨-, -, -, -, -, -, observations, -, hinsert⟩, hpair⟩, rfl⟩ := h
    obtain ⟨-, rfl⟩ := RedTeamStore.insertCheckpoint_ok hinsert
    obtain ⟨rfl, -⟩ := Prod.mk.inj hpair
    intro row hrow
    obtain ⟨r, hr, rfl⟩ := Table.mem_update.1 hrow
    refine ⟨r, hr, ?_⟩
    split_ifs <;> rfl
  | reserveExternal row =>
    simp only [FlowSystem.exec, bind_eq_ok, pure_eq_ok] at h
    obtain ⟨store, hreserve, rfl⟩ := h
    rcases RedTeamStore.reserveExternalActions_ok hreserve with rfl | ⟨-, -, -, -, -, -, -, rfl⟩ <;>
      exact hsame rfl
  | admitReplan proposal admission =>
    simp only [FlowSystem.exec, bind_eq_ok, pure_eq_ok] at h
    obtain ⟨store, hadmit, rfl⟩ := h
    rcases RedTeamStore.admitReplan_ok hadmit with rfl | ⟨-, -, -, -, -, -, rfl⟩ <;> exact hsame rfl
  | releaseReplan admissionId state =>
    simp only [FlowSystem.exec, bind_eq_ok, pure_eq_ok] at h
    obtain ⟨store, hrelease, rfl⟩ := h
    obtain ⟨-, -, rfl⟩ := RedTeamStore.releaseReplanAdmission_ok hrelease
    exact hsame rfl

/-- An action that a call stores expects the latest checkpoint of its flow. -/
theorem FlowSystem.new_action_current (h : sys.exec call = .ok sys') {row : ActionRow}
    (hrow : row ∈ sys'.store.actions) (hnew : ∀ r ∈ sys.store.actions, r.action ≠ row.action) :
    ∃ latest, sys.store.latest row.action.planId = .ok latest ∧
      latest.checkpointId = row.action.expectedCheckpointId := by
  by_cases hcall : ∀ command revision scope, call ≠ .claim command revision scope
  · obtain ⟨r, hr, hsame⟩ := FlowSystem.actions_of_exec h hcall row hrow
    exact absurd hsame (hnew r hr)
  · simp only [not_forall, not_not] at hcall
    obtain ⟨command, revision, scope, rfl⟩ := hcall
    simp only [FlowSystem.exec, bind_eq_ok] at h
    obtain ⟨checkpoint, -, ⟨store', replay⟩, hclaim, h⟩ := h
    have hstore : sys'.store = store' := by
      cases replay <;> simp only [pure_eq_ok] at h <;> rw [← h]
    rw [hstore] at hrow
    unfold RedTeamStore.claimAction at hclaim
    split at hclaim
    · -- a claim of an action that is stored keeps the actions of the rows
      obtain ⟨-, ⟨rfl, -⟩ | ⟨-, -, -, -, -, rfl⟩⟩ := RedTeamStore.reclaimAction_ok hclaim
      · exact absurd rfl (hnew row hrow)
      · obtain ⟨r, hr, rfl⟩ := Table.mem_update.1 hrow
        refine absurd ?_ (hnew r hr)
        split_ifs <;> rfl
    · simp only [bind_eq_ok, pure_eq_ok, Prod.mk.injEq] at hclaim
      obtain ⟨store₁, hclaimed, rfl, -⟩ := hclaim
      obtain ⟨latest, plan, hlatest, -, -, hcurrent, -, hcase⟩ :=
        RedTeamStore.claimNewAction_ok hclaimed
      have hactions : store₁.actions = sys.store.actions ++ [command.row] := by
        rcases hcase with ⟨-, -, rfl⟩ | ⟨-, -, -, -, -, rfl⟩ <;> rfl
      rw [hactions, List.mem_append, List.mem_singleton] at hrow
      rcases hrow with hrow | rfl
      · exact absurd rfl (hnew row hrow)
      · exact ⟨latest, hlatest, hcurrent⟩

theorem FlowStep.checkpoints_subset (hstep : FlowStep sys call sys') :
    sys.store.checkpoints ⊆ sys'.store.checkpoints := by
  cases hstep.checkpointStep with
  | same hplans hcheckpoints => rw [hcheckpoints]; exact List.Subset.refl _
  | planned hplanned hplan hplans hcheckpoints =>
    rw [hcheckpoints]
    exact List.subset_append_left _ _
  | continued hplan hcurrent hlatest hcontinues hok hplans hcheckpoints =>
    rw [hcheckpoints]
    exact List.subset_append_left _ _

/-- The latest checkpoint of a flow never goes back. -/
theorem FlowSystem.Sound.latest_le (hsound : sys.Sound) (hstep : FlowStep sys call sys')
    {revision : ℕ}
    (h : ∃ latest, sys.store.latest planId = .ok latest ∧ revision < latest.revision) :
    ∃ latest, sys'.store.latest planId = .ok latest ∧ revision < latest.revision := by
  obtain ⟨before, hbefore, hlt⟩ := h
  rcases hsound.latest_step hstep hbefore with hsame | ⟨after, hafter, hnext, -⟩
  · exact ⟨before, hsame, hlt⟩
  · exact ⟨after, hafter, by omega⟩

/-- A step keeps what is known of the action of a row that it does not complete. -/
theorem RedTeamStore.ActionsFollow.keeps (hsound : sys.Sound) (hfollow : sys.store.ActionsFollow)
    (hstep : FlowStep sys call sys') {r row : ActionRow} (hr : r ∈ sys.store.actions)
    (haction : row.action = r.action) (hstate : row.state = .completed → r.state = .completed) :
    ∃ expected ∈ sys'.store.checkpoints, expected.planId = row.action.planId ∧
      expected.checkpointId = row.action.expectedCheckpointId ∧
      (row.state = .completed → ∃ latest, sys'.store.latest row.action.planId = .ok latest ∧
        expected.revision < latest.revision) := by
  obtain ⟨expected, hmem, hplan, hid, hlater⟩ := hfollow r hr
  rw [haction]
  exact ⟨expected, hstep.checkpoints_subset hmem, hplan, hid,
    fun hcompleted => hsound.latest_le hstep (hlater (hstate hcompleted))⟩

/-- Every call keeps the actions behind the checkpoints of their flow. -/
theorem RedTeamStore.ActionsFollow.step (hsound : sys.Sound) (hfollow : sys.store.ActionsFollow)
    (h : sys.exec call = .ok sys') : sys'.store.ActionsFollow := by
  have hstep := FlowSystem.exec_ok hsound.keys h
  have hnew : ∀ row ∈ sys'.store.actions, (∀ r ∈ sys.store.actions, r.action ≠ row.action) →
      ∃ latest, sys.store.latest row.action.planId = .ok latest ∧
        latest.checkpointId = row.action.expectedCheckpointId :=
    fun row hrow => FlowSystem.new_action_current h hrow
  have hclaimed : ∀ {command : RedTeamReconCommand} {latest : RedTeamCheckpoint},
      sys.store.latest command.action.planId = .ok latest →
      latest.checkpointId = command.action.expectedCheckpointId →
      ∃ expected ∈ sys'.store.checkpoints, expected.planId = command.row.action.planId ∧
        expected.checkpointId = command.row.action.expectedCheckpointId ∧
        (command.row.state = .completed → ∃ latest,
          sys'.store.latest command.row.action.planId = .ok latest ∧
            expected.revision < latest.revision) := by
    intro command latest hlatest hcurrent
    obtain ⟨hmem, hplan⟩ := RedTeamStore.latest_ok hlatest
    refine ⟨latest, hstep.checkpoints_subset hmem, hplan, hcurrent, fun hcompleted => ?_⟩
    cases hcompleted
  have hfresh_action : ∀ {command : RedTeamReconCommand},
      (∀ r ∈ sys.store.actions, actionClash command.row r = false) →
      ∀ r ∈ sys.store.actions, r.action ≠ command.row.action := by
    intro command hfresh r hr hsame
    have hclash := hfresh r hr
    simp [actionClash, hsame] at hclash
  have hkeeps := @RedTeamStore.ActionsFollow.keeps _ sys sys' call hsound hfollow hstep
  have hhist := (hsound.step hstep).histories
  intro row hrow
  cases hstep with
  | same | created | stopped | reserved | admitted | released =>
    exact hkeeps hrow rfl id
  | claimed hread hplanId hplan hlatest hbudget hfresh =>
    rcases List.mem_append.1 hrow with hold | hadded
    · exact hkeeps hold rfl id
    · obtain ⟨latest, hlatest, hcurrent⟩ := hnew row hrow
        (by rw [List.mem_singleton.1 hadded]; exact hfresh_action hfresh)
      obtain rfl := List.mem_singleton.1 hadded
      exact hclaimed hlatest hcurrent
  | claimedReplan hread hplanId hplan hlatest hadm hreserved hbudget hfresh hone =>
    rcases List.mem_append.1 hrow with hold | hadded
    · exact hkeeps hold rfl id
    · obtain ⟨latest, hlatest, hcurrent⟩ := hnew row hrow
        (by rw [List.mem_singleton.1 hadded]; exact hfresh_action hfresh)
      obtain rfl := List.mem_singleton.1 hadded
      exact hclaimed hlatest hcurrent
  | reclaimed hread hplanId hr haction hone hfree =>
    obtain ⟨r, hr, rfl⟩ := Table.mem_update.1 hrow
    refine hkeeps hr ?_ ?_ <;> split_ifs
    · rfl
    · rfl
    · exact id
    · exact id
  | @completed flight plan observation next hflight hplan hlatest hof hrecords hone hobservation
      hfresh =>
    obtain ⟨r, hr, rfl⟩ := Table.mem_update.1 hrow
    by_cases hclaim : ActionRow.claimedBy flight.command r = true
    · rw [if_pos hclaim]
      -- the completed action is the one in flight, whose flow gets a new checkpoint
      have haction : r.action = flight.command.action := by
        simp only [ActionRow.claimedBy, decide_eq_true_eq] at hclaim
        obtain ⟨stored, hstored, hsame⟩ := hsound.provenance.call_action flight hflight
        have hid : r.action.actionId = stored.action.actionId := by rw [hclaim.1, hsame]
        rw [Table.eq_of_key hsound.keys.actions hr hstored hid, hsame]
      obtain ⟨-, hcall⟩ := hsound.keys.calls flight hflight
      obtain ⟨expected, hmem, hof, hid, -⟩ := hfollow r hr
      have hnext : next.planId = r.action.planId := by
        rw [hrecords.continues.planId, hcall, haction]
      refine ⟨expected, List.mem_append_left _ hmem, hof, hid, fun _ => ⟨next, ?_, ?_⟩⟩
      · rw [hhist.latest_concat rfl, ActionRow.complete, if_pos hnext]
      · have hle := hsound.histories.revision_le hlatest hmem (by rw [hof, hcall, haction])
        have hrevision := hrecords.continues.revision
        omega
    · rw [if_neg hclaim]
      exact hkeeps hr rfl id

end VulnLoom

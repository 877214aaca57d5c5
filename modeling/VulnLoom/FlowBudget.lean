import VulnLoom.FlowLifecycle

/-!
# The action budget of a flow

A flow may use `maxActions` actions. Besides the actions used, its budget is held by the
started actions, the external reservations and the reserved replan admissions
(`committed`), and `remainingActionBudget` counts all of them. `reserveExternalActions`
leaves the replan admissions out, so a new reservation can commit more than the budget
(`Overcommits`). Every other call keeps the flow within its budget, so the budget holds
along a run exactly when no reservation of it overcommits (`within_budget_iff`).
-/

open Transition

namespace VulnLoom

section

variable [RedTeamDigests]

/-- The actions that hold budget without being used yet. -/
def RedTeamStore.committed (store : RedTeamStore) (planId : Digest) : ℕ :=
  store.startedActions planId + store.reservedActions planId + store.reservedReplanActions planId

/-- Every flow is within its budget. -/
def RedTeamStore.WithinBudget (store : RedTeamStore) : Prop :=
  ∀ plan ∈ store.plans, ∀ latest, store.latest plan.planId = .ok latest →
    latest.actionsUsed + store.committed plan.planId ≤ plan.maxActions

/-- A new reservation for the running flow that fits in the budget as
`reserveExternalActions` counts it, and does not fit next to the reserved admissions. -/
structure RedTeamStore.Overcommits (store : RedTeamStore) (row : ReservationRow) : Prop where
  count : row.actionCount ≠ 0
  new : store.reservationRow row.reservationId = none
  current : ∃ latest plan, store.latest row.planId = .ok latest ∧
    store.plan row.planId = .ok plan ∧
    (latest.checkpointId = row.sourceCheckpointId ∧ latest.status = .running) ∧
    latest.actionsUsed + store.startedActions row.planId + store.reservedActions row.planId +
      row.actionCount ≤ plan.maxActions ∧
    plan.maxActions < latest.actionsUsed + store.committed row.planId + row.actionCount

/-! ## What holds budget -/

/-- A flow without a plan holds no budget. -/
structure RedTeamStore.Funded (store : RedTeamStore) : Prop where
  reservation_plan : ∀ row ∈ store.reservations, ∃ plan ∈ store.plans, plan.planId = row.planId
  admission_plan : ∀ row ∈ store.admissions, ∃ plan ∈ store.plans,
    plan.planId = row.admission.flowPlanId

variable {sys : FlowSystem}

theorem RedTeamStore.Funded.step {sys' : FlowSystem} {call : FlowCall}
    (hfunded : sys.store.Funded) (hstep : FlowStep sys call sys') : sys'.store.Funded := by
  obtain ⟨hres, hadm⟩ := hfunded
  have hupdate : ∀ {p : AdmissionRow → Bool} {state : AdmissionState},
      ∀ row ∈ Table.update p (AdmissionRow.setState state) sys.store.admissions,
        ∃ plan ∈ sys.store.plans, plan.planId = row.admission.flowPlanId := by
    intro p state row hrow
    obtain ⟨r, hr, rfl⟩ := Table.mem_update.1 hrow
    obtain ⟨plan, hplan, hid⟩ := hadm r hr
    refine ⟨plan, hplan, ?_⟩
    split_ifs <;> exact hid
  cases hstep with
  | same => exact ⟨hres, hadm⟩
  | created hplanned hplan hfresh =>
    refine ⟨fun row hrow => ?_, fun row hrow => ?_⟩
    · obtain ⟨plan, hmem, hid⟩ := hres row hrow
      exact ⟨plan, List.mem_append_left _ hmem, hid⟩
    · obtain ⟨plan, hmem, hid⟩ := hadm row hrow
      exact ⟨plan, List.mem_append_left _ hmem, hid⟩
  | stopped hplan hlatest hstops hfresh => exact ⟨hres, hadm⟩
  | claimed hread hplanId hplan hlatest hbudget hfresh => exact ⟨hres, hadm⟩
  | claimedReplan hread hplanId hplan hlatest hrow hreserved hbudget hfresh hone =>
    exact ⟨hres, hupdate⟩
  | reclaimed hread hplanId hrow haction hone hfree => exact ⟨hres, hadm⟩
  | completed hflight hplan hlatest hof hrecords hone hobservation hfresh => exact ⟨hres, hadm⟩
  | reserved hcall hnew hplan hlatest hcurrent hbudget =>
    refine ⟨fun row hrow => ?_, hadm⟩
    rcases List.mem_append.1 hrow with hrow | hrow
    · exact hres row hrow
    · rw [List.mem_singleton.1 hrow]
      exact ⟨_, hplan⟩
  | admitted hplan hlatest hbudget hfresh =>
    refine ⟨hres, fun row hrow => ?_⟩
    rcases List.mem_append.1 hrow with hrow | hrow
    · exact hadm row hrow
    · rw [List.mem_singleton.1 hrow]
      exact ⟨_, hplan⟩
  | released hstate hone => exact ⟨hres, hupdate⟩

/-- What the budget argument needs of a reachable system. -/
structure FlowSystem.Accounted (sys : FlowSystem) : Prop where
  sound : sys.Sound
  funded : sys.store.Funded

theorem FlowSystem.Accounted.empty : FlowSystem.empty.Accounted := by
  refine ⟨.empty, ?_, ?_⟩ <;> simp [FlowSystem.empty, RedTeamStore.empty]

theorem FlowSystem.Accounted.next (hacc : sys.Accounted) (call : FlowCall) :
    (sys.step call).Accounted :=
  ⟨hacc.sound.next call, hacc.funded.step (step_cases hacc.sound.keys call)⟩

namespace RedTeamStore

variable {store : RedTeamStore}
variable {planId : Digest}

theorem startedActions_eq_zero (h : ∀ row ∈ store.actions, row.action.planId ≠ planId) :
    store.startedActions planId = 0 := by
  refine List.countP_eq_zero.2 fun row hrow => ?_
  simp [h row hrow]

theorem reservedActions_eq_zero (h : ∀ row ∈ store.reservations, row.planId ≠ planId) :
    store.reservedActions planId = 0 := by
  have hnone : store.reservations.filter (fun row => row.planId = planId) = [] := by
    refine List.filter_eq_nil_iff.2 fun row hrow => ?_
    simp [h row hrow]
  rw [reservedActions, hnone]
  rfl

theorem reservedReplanActions_eq_zero
    (h : ∀ row ∈ store.admissions, row.admission.flowPlanId ≠ planId) :
    store.reservedReplanActions planId = 0 := by
  refine List.countP_eq_zero.2 fun row hrow => ?_
  simp [h row hrow]

end RedTeamStore

/-- A plan that has just been created holds no budget. -/
theorem FlowSystem.Accounted.committed_eq_zero (hacc : sys.Accounted) {planId : Digest}
    (hplan : ∀ plan ∈ sys.store.plans, plan.planId ≠ planId) : sys.store.committed planId = 0 := by
  have hstarted : sys.store.startedActions planId = 0 := by
    refine RedTeamStore.startedActions_eq_zero fun row hrow heq => ?_
    obtain ⟨plan, hmem, hid⟩ := hacc.sound.provenance.action_plan row hrow
    exact hplan plan hmem (hid.trans heq)
  have hreserved : sys.store.reservedActions planId = 0 := by
    refine RedTeamStore.reservedActions_eq_zero fun row hrow heq => ?_
    obtain ⟨plan, hmem, hid⟩ := hacc.funded.reservation_plan row hrow
    exact hplan plan hmem (hid.trans heq)
  have hreplan : sys.store.reservedReplanActions planId = 0 := by
    refine RedTeamStore.reservedReplanActions_eq_zero fun row hrow heq => ?_
    obtain ⟨plan, hmem, hid⟩ := hacc.funded.admission_plan row hrow
    exact hplan plan hmem (hid.trans heq)
  rw [RedTeamStore.committed, hstarted, hreserved, hreplan]

/-! ## How a step moves the budget -/

namespace RedTeamStore

variable {store store' : RedTeamStore}
variable {command : RedTeamReconCommand}

theorem startedActions_claim (h : store'.actions = store.actions ++ [command.row])
    (planId : Digest) : store'.startedActions planId =
      store.startedActions planId + if command.action.planId = planId then 1 else 0 := by
  rw [startedActions, h, List.countP_append, List.countP_singleton]
  by_cases hid : command.action.planId = planId <;>
    simp [hid, RedTeamReconCommand.row, startedActions]

theorem committed_reclaim (store : RedTeamStore) (row : ActionRow)
    (command : RedTeamReconCommand) (planId : Digest) :
    RedTeamStore.committed { store with
      actions := Table.update (row.awaits command) (ActionRow.reclaim command)
        store.actions } planId = store.committed planId := by
  have hstarted : (Table.update (row.awaits command) (ActionRow.reclaim command)
      store.actions).countP (fun row => row.action.planId = planId ∧ row.state = .started) =
      store.startedActions planId :=
    Table.countP_update_of_eq (f := ActionRow.reclaim command) (fun _ _ => rfl) _
  rw [committed, startedActions, hstarted]
  rfl

/-- A completion closes the one started action it claims. -/
theorem startedActions_complete {observation : RedTeamReconObservation}
    (hone : Table.rowcount (ActionRow.claimedBy command) store.actions = 1)
    (hplan : ∀ r ∈ store.actions, ActionRow.claimedBy command r = true →
      r.action.planId = command.action.planId)
    (h : store'.actions = Table.update (ActionRow.claimedBy command)
      (ActionRow.complete observation) store.actions) (planId : Digest) :
    store'.startedActions planId + (if command.action.planId = planId then 1 else 0) ≤
      store.startedActions planId := by
  set started := fun row : ActionRow =>
    decide (row.action.planId = planId ∧ row.state = .started) with hstarted
  have hleave := Table.countP_update_leave (p := ActionRow.claimedBy command) (q := started)
    (f := ActionRow.complete observation) (fun r _ => by simp [started, ActionRow.complete])
    store.actions
  rw [← h] at hleave
  change store'.actions.countP started + _ ≤ store.actions.countP started
  split_ifs with hid
  · have hclaimed : store.actions.countP (fun r => ActionRow.claimedBy command r && started r) =
        store.actions.countP (ActionRow.claimedBy command) := by
      refine Table.countP_and_of_imp fun r hr hp => ?_
      have hstate : r.state = .started := by
        simp only [ActionRow.claimedBy, decide_eq_true_eq] at hp
        exact hp.2.2.2
      simp [started, hplan r hr hp, hid, hstate]
    rw [Table.rowcount] at hone
    omega
  · omega

variable {admissionId : Digest} {state : AdmissionState}

/-- An admission that is claimed or released holds no budget. -/
theorem reservedReplanActions_setState (hstate : state ≠ .reserved)
    (h : store'.admissions =
      Table.update (AdmissionRow.holds admissionId) (AdmissionRow.setState state) store.admissions)
    (planId : Digest) : store'.reservedReplanActions planId + store.admissions.countP (fun row =>
        AdmissionRow.holds admissionId row &&
          decide (row.admission.flowPlanId = planId ∧ row.state = .reserved)) =
      store.reservedReplanActions planId := by
  rw [reservedReplanActions, h]
  exact Table.countP_update_leave (fun r _ => by simp [AdmissionRow.setState, hstate]) _

theorem reservedReplanActions_setState_le (hstate : state ≠ .reserved)
    (h : store'.admissions =
      Table.update (AdmissionRow.holds admissionId) (AdmissionRow.setState state) store.admissions)
    (planId : Digest) : store'.reservedReplanActions planId ≤ store.reservedReplanActions planId :=
  Nat.le.intro (reservedReplanActions_setState hstate h planId)

/-- A claim takes the one admission it holds out of the reserved ones of its flow. -/
theorem reservedReplanActions_consume {planId : Digest}
    (h : store'.admissions = Table.update (AdmissionRow.holds admissionId)
      (AdmissionRow.setState .consumed) store.admissions)
    (hone : Table.rowcount (AdmissionRow.holds admissionId) store.admissions = 1)
    (hplan : ∀ r ∈ store.admissions, r.admission.admissionId = admissionId →
      r.admission.flowPlanId = planId) (planId' : Digest) :
    store'.reservedReplanActions planId' + (if planId = planId' then 1 else 0) ≤
      store.reservedReplanActions planId' := by
  have hleave := reservedReplanActions_setState (by decide) h planId'
  split_ifs with hid
  · have hheld := Table.countP_and_of_imp (p := AdmissionRow.holds admissionId)
      (q := fun row => decide (row.admission.flowPlanId = planId' ∧ row.state = .reserved))
      (t := store.admissions) fun r hr hp => by
        simp only [AdmissionRow.holds, decide_eq_true_eq] at hp
        simp [hplan r hr hp.1, hid, hp.2]
    rw [Table.rowcount] at hone
    omega
  · omega

theorem reservedReplanActions_admit {row : AdmissionRow}
    (hrow : row.state = .reserved) (h : store'.admissions = store.admissions ++ [row])
    (planId : Digest) : store'.reservedReplanActions planId =
      store.reservedReplanActions planId + if row.admission.flowPlanId = planId then 1 else 0 := by
  rw [reservedReplanActions, h, List.countP_append, List.countP_singleton]
  by_cases hid : row.admission.flowPlanId = planId <;> simp [hid, hrow, reservedReplanActions]

theorem reservedActions_reserve (store : RedTeamStore) (row : ReservationRow) (planId : Digest) :
    RedTeamStore.reservedActions { store with reservations := store.reservations ++ [row] } planId =
      store.reservedActions planId + if row.planId = planId then row.actionCount else 0 := by
  unfold reservedActions
  rw [List.filter_append, List.filter_singleton]
  by_cases hid : row.planId = planId <;> simp [hid]

end RedTeamStore

namespace RedTeamStore

variable {store store' : RedTeamStore}

theorem startedActions_congr (h : store'.actions = store.actions) (planId : Digest) :
    store'.startedActions planId = store.startedActions planId := by
  rw [startedActions, h, startedActions]

theorem reservedActions_congr (h : store'.reservations = store.reservations) (planId : Digest) :
    store'.reservedActions planId = store.reservedActions planId := by
  rw [reservedActions, h, reservedActions]

theorem reservedReplanActions_congr (h : store'.admissions = store.admissions) (planId : Digest) :
    store'.reservedReplanActions planId = store.reservedReplanActions planId := by
  rw [reservedReplanActions, h, reservedReplanActions]

variable {command : RedTeamReconCommand}

theorem committed_claim (hactions : store'.actions = store.actions ++ [command.row])
    (hreservations : store'.reservations = store.reservations)
    (hadmissions : store'.admissions = store.admissions) (planId : Digest) :
    store'.committed planId ≤
      store.committed planId + if command.action.planId = planId then 1 else 0 := by
  rw [committed, startedActions_claim hactions, reservedActions_congr hreservations,
    reservedReplanActions_congr hadmissions, committed]
  omega

/-- The claim of an admitted action moves its reservation to the started actions. -/
theorem committed_claimReplan {row : AdmissionRow}
    (hkeys : (store.admissions.map fun row => row.admission.admissionId).Nodup)
    (hrow : row ∈ store.admissions) (haction : row.admission.command.action = command.action)
    (hone : Table.rowcount (AdmissionRow.holds row.admission.admissionId) store.admissions = 1)
    (hactions : store'.actions = store.actions ++ [command.row])
    (hreservations : store'.reservations = store.reservations)
    (hadmissions : store'.admissions =
      Table.update (AdmissionRow.holds row.admission.admissionId)
        (AdmissionRow.setState .consumed) store.admissions) (planId : Digest) :
    store'.committed planId ≤ store.committed planId := by
  have hplan : ∀ r ∈ store.admissions, r.admission.admissionId = row.admission.admissionId →
      r.admission.flowPlanId = command.action.planId := by
    intro r hr hid
    have hsame : r = row := Table.eq_of_key hkeys hr hrow hid
    rw [hsame, ← row.admission.planId_bound, haction]
  have hreplan := reservedReplanActions_consume hadmissions hone hplan planId
  rw [committed, startedActions_claim hactions, reservedActions_congr hreservations, committed]
  omega

theorem committed_reserve (store : RedTeamStore) (row : ReservationRow) (planId : Digest) :
    RedTeamStore.committed { store with reservations := store.reservations ++ [row] } planId =
      store.committed planId + if row.planId = planId then row.actionCount else 0 := by
  rw [committed, reservedActions_reserve, committed]
  change store.startedActions planId + _ + store.reservedReplanActions planId = _
  omega

theorem committed_admit {proposalId : Digest} {admission : RedTeamReplanAdmission}
    (hactions : store'.actions = store.actions)
    (hreservations : store'.reservations = store.reservations)
    (hadmissions : store'.admissions = store.admissions ++ [⟨proposalId, admission, .reserved⟩])
    (planId : Digest) : store'.committed planId ≤
      store.committed planId + if admission.flowPlanId = planId then 1 else 0 := by
  rw [committed, startedActions_congr hactions, reservedActions_congr hreservations,
    reservedReplanActions_admit rfl hadmissions, committed]
  dsimp only
  omega

theorem committed_release {admissionId : Digest} {state : AdmissionState}
    (hstate : state ≠ .reserved) (hactions : store'.actions = store.actions)
    (hreservations : store'.reservations = store.reservations)
    (hadmissions : store'.admissions = Table.update (AdmissionRow.holds admissionId)
      (AdmissionRow.setState state) store.admissions) (planId : Digest) :
    store'.committed planId ≤ store.committed planId := by
  have hle := reservedReplanActions_setState_le hstate hadmissions planId
  rw [committed, startedActions_congr hactions, reservedActions_congr hreservations, committed]
  omega

/-- The completion of an action frees what it held. -/
theorem committed_complete {observation : RedTeamReconObservation}
    (hone : Table.rowcount (ActionRow.claimedBy command) store.actions = 1)
    (hplan : ∀ r ∈ store.actions, ActionRow.claimedBy command r = true →
      r.action.planId = command.action.planId)
    (hactions : store'.actions = Table.update (ActionRow.claimedBy command)
      (ActionRow.complete observation) store.actions)
    (hreservations : store'.reservations = store.reservations)
    (hadmissions : store'.admissions = store.admissions) (planId : Digest) :
    store'.committed planId + (if command.action.planId = planId then 1 else 0) ≤
      store.committed planId := by
  have hstarted := startedActions_complete hone hplan hactions planId
  rw [committed, reservedActions_congr hreservations, reservedReplanActions_congr hadmissions,
    committed]
  omega

end RedTeamStore

namespace RedTeamStore.WithinBudget

variable {store store' : RedTeamStore}

/-- A store with the same flows that commits no more stays within budget. -/
theorem of_committed_le (hwithin : store.WithinBudget) (hplans : store'.plans = store.plans)
    (hcheckpoints : store'.checkpoints = store.checkpoints)
    (hle : ∀ planId, store'.committed planId ≤ store.committed planId) :
    store'.WithinBudget := by
  intro plan hplan latest hlatest
  rw [hplans] at hplan
  rw [RedTeamStore.latest_congr hcheckpoints] at hlatest
  have hold := hwithin plan hplan latest hlatest
  have := hle plan.planId
  omega

/-- A store with the same flows that commits more for one flow, within its budget. -/
theorem of_committed_add (hwithin : store.WithinBudget)
    (hkeys : (store.plans.map RedTeamFlowPlan.planId).Nodup) {plan : RedTeamFlowPlan}
    {latest : RedTeamCheckpoint} {planId : Digest} {n : ℕ}
    (hplan : plan ∈ store.plans ∧ plan.planId = planId)
    (hlatest : store.latest planId = .ok latest)
    (hbudget : latest.actionsUsed + store.committed planId + n ≤ plan.maxActions)
    (hplans : store'.plans = store.plans) (hcheckpoints : store'.checkpoints = store.checkpoints)
    (hadd : ∀ planId', store'.committed planId' ≤
      store.committed planId' + if planId = planId' then n else 0) :
    store'.WithinBudget := by
  intro plan' hplan' latest' hlatest'
  rw [hplans] at hplan'
  rw [RedTeamStore.latest_congr hcheckpoints] at hlatest'
  have hnew := hadd plan'.planId
  by_cases hid : planId = plan'.planId
  · have hsame : plan = plan' := Table.eq_of_key hkeys hplan.1 hplan' (hplan.2.trans hid)
    rw [← hid, hlatest] at hlatest'
    cases hlatest'
    rw [if_pos hid] at hnew
    rw [← hsame] at hnew ⊢
    rw [hplan.2] at hnew ⊢
    omega
  · rw [if_neg hid] at hnew
    have hold := hwithin plan' hplan' latest' hlatest'
    omega

/-- A completion uses the action that it frees. -/
theorem of_completion (hwithin : store.WithinBudget) (hist' : store'.Histories)
    {checkpoint next : RedTeamCheckpoint} {observation : RedTeamReconObservation}
    {planId : Digest} (hid : checkpoint.planId = planId)
    (hlatest : store.latest checkpoint.planId = .ok checkpoint)
    (hcontinues : Continues checkpoint (checkpoint.countersAfter observation) next)
    (hplans : store'.plans = store.plans)
    (hcheckpoints : store'.checkpoints = store.checkpoints ++ [next])
    (hfree : ∀ planId', store'.committed planId' + (if planId = planId' then 1 else 0) ≤
      store.committed planId') : store'.WithinBudget := by
  intro plan hplan latest hlatest'
  rw [hplans] at hplan
  rw [hist'.latest_concat hcheckpoints, hcontinues.planId, hid] at hlatest'
  have hfreed := hfree plan.planId
  split_ifs at hlatest' hfreed with heq
  · cases hlatest'
    have hused : next.actionsUsed = checkpoint.actionsUsed + 1 := hcontinues.actionsUsed
    have hold := hwithin plan hplan checkpoint (by rw [← heq, ← hid]; exact hlatest)
    omega
  · have hold := hwithin plan hplan latest hlatest'
    omega

end RedTeamStore.WithinBudget

/-- A step that makes no overcommitting reservation keeps every flow within its budget. -/
theorem FlowSystem.Accounted.within_step {sys' : FlowSystem} {call : FlowCall}
    (hacc : sys.Accounted) (hwithin : sys.store.WithinBudget) (hstep : FlowStep sys call sys')
    (hfits : ∀ row, call = .reserveExternal row → ¬sys.store.Overcommits row) :
    sys'.store.WithinBudget := by
  have hkeys := hacc.sound.keys
  have hist' := (hacc.sound.step hstep).histories
  cases hstep with
  | same => exact hwithin
  | @created plan planned now hplanned hplan hfresh =>
    have hvalues := RedTeamCheckpoint.create_eq_ok hplanned
    have hid : planned.planId = plan.planId := by rw [hvalues]
    have hnew : ∀ r ∈ sys.store.plans, r.planId ≠ plan.planId := by
      intro r hr heq
      have hclash := hplan r hr
      simp [planClash, heq] at hclash
    intro r hr latest hlatest
    rw [hist'.latest_concat rfl] at hlatest
    change latest.actionsUsed + sys.store.committed r.planId ≤ r.maxActions
    rcases List.mem_append.1 hr with hr | hr
    · rw [if_neg fun heq => hnew r hr (by rw [← heq, hid])] at hlatest
      exact hwithin r hr latest hlatest
    · rw [List.mem_singleton.1 hr] at hlatest ⊢
      rw [if_pos hid] at hlatest
      cases hlatest
      rw [hacc.committed_eq_zero hnew, hvalues]
      exact Nat.zero_le _
  | @stopped plan checkpoint next hplan hlatest hstops hfresh =>
    intro r hr latest hlatest'
    rw [hist'.latest_concat rfl] at hlatest'
    change latest.actionsUsed + sys.store.committed r.planId ≤ r.maxActions
    split_ifs at hlatest' with heq
    · cases hlatest'
      have hold : sys.store.latest r.planId = .ok checkpoint := by
        rw [← heq, hstops.continues.planId]
        exact hlatest
      have hused : next.actionsUsed = checkpoint.actionsUsed := hstops.continues.actionsUsed
      rw [hused]
      exact hwithin r hr checkpoint hold
    · exact hwithin r hr latest hlatest'
  | @claimed command checkpoint latest plan scope hread hplanId hplan hlatest hbudget hfresh =>
    refine hwithin.of_committed_add hkeys.plans (n := 1) hplan hlatest ?_ rfl rfl
      (RedTeamStore.committed_claim rfl rfl rfl)
    rw [RedTeamStore.committed]
    omega
  | claimedReplan hread hplanId hplan hlatest hrow hreserved hbudget hfresh hone =>
    exact hwithin.of_committed_le rfl rfl
      (RedTeamStore.committed_claimReplan hkeys.admissions hrow hreserved.2 hone rfl rfl rfl)
  | @reclaimed command checkpoint scope row hread hplanId hrow haction hone hfree =>
    exact hwithin.of_committed_le rfl rfl fun planId =>
      le_of_eq (RedTeamStore.committed_reclaim sys.store row command planId)
  | @completed flight plan observation next hflight hplan hlatest hof hrecords hone hobservation
      hfresh =>
    have hflightId := (hkeys.calls flight hflight).2
    have hclaimed : ∀ r ∈ sys.store.actions, ActionRow.claimedBy flight.command r = true →
        r.action.planId = flight.command.action.planId := by
      intro r hr hp
      simp only [ActionRow.claimedBy, decide_eq_true_eq] at hp
      obtain ⟨r', hr', haction⟩ := hacc.sound.provenance.call_action flight hflight
      have hsame : r = r' := Table.eq_of_key hkeys.actions hr hr' (by rw [hp.1, haction])
      rw [hsame, haction]
    exact hwithin.of_completion hist' hflightId hlatest hrecords.continues rfl rfl
      (RedTeamStore.committed_complete hone hclaimed rfl rfl rfl)
  | @reserved row latest plan hcall hnew hplan hlatest hcurrent hbudget =>
    refine hwithin.of_committed_add hkeys.plans (n := row.actionCount) hplan hlatest ?_ rfl rfl
      fun planId => le_of_eq (RedTeamStore.committed_reserve sys.store row planId)
    by_contra hover
    have hread : sys.store.plan row.planId = .ok plan :=
      RedTeamStore.plan_eq_ok hkeys.plans hplan.1 hplan.2
    exact hfits row hcall
      ⟨hnew.1, hnew.2, latest, plan, hlatest, hread, hcurrent, hbudget, by omega⟩
  | @admitted proposal admission latest plan hplan hlatest hbudget hfresh =>
    refine hwithin.of_committed_add hkeys.plans (n := 1) hplan hlatest ?_ rfl rfl
      (RedTeamStore.committed_admit rfl rfl rfl)
    rw [RedTeamStore.committed]
    omega
  | released hstate hone =>
    exact hwithin.of_committed_le rfl rfl (RedTeamStore.committed_release hstate rfl rfl rfl)

/-! ## Along a run -/

/-- A reservation that overcommits is stored, and the flow is over its budget. -/
theorem FlowSystem.overcommitted {row : ReservationRow} (hover : sys.store.Overcommits row) :
    ¬(sys.step (.reserveExternal row)).store.WithinBudget := by
  obtain ⟨hcount, hnew, latest, plan, hlatest, hplan, hcurrent, hbudget, hexceeds⟩ := hover
  obtain ⟨hmem, hid⟩ := RedTeamStore.plan_ok hplan
  have hstored : sys.store.reserveExternalActions row =
      .ok { sys.store with reservations := sys.store.reservations ++ [row] } :=
    RedTeamStore.reserveExternalActions_new hcount hnew hlatest hplan hcurrent hbudget
  have hstep : (sys.step (.reserveExternal row)).store =
      { sys.store with reservations := sys.store.reservations ++ [row] } := by
    have hexec : sys.exec (.reserveExternal row) = .ok { sys with store :=
        { sys.store with reservations := sys.store.reservations ++ [row] } } := by
      simp only [FlowSystem.exec, hstored]
      rfl
    rw [FlowSystem.step, settle_ok hexec]
  intro hwithin
  rw [hstep] at hwithin
  have hsum := hwithin plan hmem latest (by rw [hid]; exact hlatest)
  rw [hid, RedTeamStore.committed_reserve, if_pos rfl] at hsum
  omega

/-- Every flow is within its budget in every state of a run exactly when no reservation of
the run overcommits. -/
theorem within_budget_iff (calls : List FlowCall) :
    Always FlowSystem.step (fun sys => sys.store.WithinBudget) FlowSystem.empty calls ↔
      Along FlowSystem.step
        (fun sys call => ∀ row, call = .reserveExternal row → ¬sys.store.Overcommits row)
        FlowSystem.empty calls := by
  have hnext : ∀ (sys : FlowSystem) (call : FlowCall), sys.Accounted → (sys.step call).Accounted :=
    fun _ call hacc => hacc.next call
  refine always_iff_along FlowSystem.step hnext (fun sys call hacc hwithin => ?_) calls
    FlowSystem.Accounted.empty ?_
  · constructor
    · rintro hafter row rfl hover
      exact FlowSystem.overcommitted hover hafter
    · intro hfits
      exact hacc.within_step hwithin (FlowSystem.step_cases hacc.sound.keys call) hfits
  · intro plan hplan
    simp [FlowSystem.empty, RedTeamStore.empty] at hplan

end

/-! ## A reservation that overcommits -/

/-- Digests that are short enough to compute with. -/
@[reducible] def textDigests : RedTeamDigests where
  plan := ⟨fun plan => "p" ++ plan.idempotencyKey⟩
  checkpoint := ⟨fun checkpoint => checkpoint.planId ++ toString checkpoint.revision⟩
  action := ⟨fun action => "a" ++ action.idempotencyKey⟩
  command := ⟨fun command => command.action.idempotencyKey ++ toString command.attempt⟩
  observation := ⟨fun observation => "o" ++ observation.actionId⟩
  proposal := ⟨fun proposal => "q" ++ proposal.idempotencyKey⟩
  admission :=
    let _ : CanonicalDigest RedTeamReconAction := ⟨fun action => "a" ++ action.idempotencyKey⟩
    ⟨fun admission => "d" ++ admission.proposalId⟩
  receipt := ⟨fun receipt => "e" ++ receipt.admissionId⟩

section

attribute [local instance] textDigests

/-- A plan for `maxActions` actions. -/
def samplePlan (maxActions : ℕ) (hbounds : 1 ≤ maxActions ∧ maxActions ≤ 10000) :
    RedTeamFlowPlan where
  target := ⟨"t", "https://t"⟩
  rules :=
    { scopeId := "s"
      scopeVersion := 1
      targetId := "t"
      phases := [.recon]
      allowedTestClasses := ["x"]
      allowedImpacts := [.readOnly]
      approvalRequiredImpacts := []
      prohibitedImpacts :=
        [.stateChange, .realCredential, .externalCallback, .lateralMovement, .persistence]
      stopConditions := ⟨100, maxActions, 2, hbounds, by decide⟩ }
  createdAt := 0
  deadline := 100
  idempotencyKey := "k"
  target_bound := rfl
  deadline_bounds := ⟨by decide, le_rfl⟩

def sampleScope : Scope where
  scopeId := "s"
  engagementId := "g"
  version := 1
  validFrom := 0
  validUntil := 100
  repositories := []
  artifacts := []
  networkTargets := [⟨"t", [443], ["https"]⟩]
  allowedTestClasses := ["x"]
  deniedActions := []
  approvalRequirements := []
  state := .approved
  window := zero_lt_hundred

/-- An action of the plan, claimed at the given checkpoint. -/
def sampleAction (checkpointId : Digest) (key : String) : RedTeamReconAction where
  planId := "pk"
  expectedCheckpointId := checkpointId
  kind := .httpHead
  targetUrl := "https://t"
  testClass := "x"
  createdAt := 2
  deadline := 50
  idempotencyKey := key
  deadline_after := by decide

def sampleCommand (checkpointId : Digest) (key : String) : RedTeamReconCommand :=
  ⟨sampleAction checkpointId key, 1, first_of_three⟩

def sampleProposal : RedTeamReplanProposal :=
  ⟨"v", ["o"], .httpHead, "x", "h", 48, 2, "r", by decide⟩

def sampleAdmission (checkpointId : Digest) : RedTeamReplanAdmission where
  proposalId := "qr"
  toolViewId := "v"
  flowPlanId := "pk"
  sourceCheckpointId := checkpointId
  sourceObservationIds := ["o"]
  command := sampleCommand checkpointId "r"
  policyRequestDigest := "y"
  requiredApprovalDigest := "ar"
  admittedAt := 2
  planId_bound := rfl
  checkpoint_bound := rfl
  approval_bound := rfl

/-- A flow of one action, admitted to a replan and then reserved externally too. -/
def overcommittingRun : List FlowCall :=
  [.create (samplePlan 1 (by decide)) 0, .start "pk" 0 1,
    .admitReplan sampleProposal (sampleAdmission "pk1"), .reserveExternal ⟨"e", "pk", "pk1", 1⟩]

/-- The run commits two of one actions, and the admitted action can no longer be claimed
while the flow is running. -/
theorem overcommittingRun_exceeds_budget :
    ¬Always FlowSystem.step (fun sys => sys.store.WithinBudget) FlowSystem.empty
        overcommittingRun ∧
      (run FlowSystem.step FlowSystem.empty overcommittingRun).exec
          (.claim (sampleCommand "pk1" "r") 1 sampleScope) =
        .error (.storeRejected "Red Team action budget is reserved by another workflow") := by
  refine ⟨fun halways => ?_, by decide⟩
  have hwithin := halways overcommittingRun (List.prefix_refl _)
  obtain ⟨latest, hlatest⟩ : ∃ latest, (run FlowSystem.step FlowSystem.empty
      overcommittingRun).store.latest "pk" = .ok latest := ⟨_, rfl⟩
  have hle := hwithin (samplePlan 1 (by decide)) (by decide) latest hlatest
  have hcommitted : (run FlowSystem.step FlowSystem.empty overcommittingRun).store.committed
      (samplePlan 1 (by decide)).planId = 2 := by decide
  rw [hcommitted] at hle
  change latest.actionsUsed + 2 ≤ 1 at hle
  omega

end

end VulnLoom

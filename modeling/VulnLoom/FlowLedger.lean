import VulnLoom.FlowLifecycle

/-!
# The ledger of a flow

What the tables of a flow say of each other along a run : a completed action has the one
observation recorded for it, an admission is the only one of its action, and what a call has
recorded stays (`Keeps`).
-/

open Transition

namespace VulnLoom

variable [RedTeamDigests]

/-! ## Completed actions -/

structure RedTeamStore.Ledger (store : RedTeamStore) : Prop where
  actionIds : (store.actions.map fun row => row.action.actionId).Nodup
  actionKeys : (store.actions.map fun row => row.action.idempotencyKey).Nodup
  observationActions : (store.observations.map fun o => o.actionId).Nodup
  observationIds : (store.observations.map RedTeamReconObservation.observationId).Nodup
  admissionIds : (store.admissions.map fun row => row.admission.admissionId).Nodup
  admissionActions :
    (store.admissions.map fun row => row.admission.command.action.actionId).Nodup
  completed : ∀ row ∈ store.actions, row.state = .completed → ∃ o ∈ store.observations,
    row.observationId = some o.observationId ∧ o.actionId = row.action.actionId

namespace RedTeamStore.Ledger

variable {store store' : RedTeamStore}

theorem empty : RedTeamStore.empty.Ledger := by
  refine ⟨?_, ?_, ?_, ?_, ?_, ?_, ?_⟩ <;> simp [RedTeamStore.empty]

variable {command : RedTeamReconCommand}

/-- The row that a command finds is the row of its action, when there is one. -/
theorem actionRow_eq (ledger : store.Ledger) {row : ActionRow} (hrow : row ∈ store.actions)
    (haction : row.action = command.action) : store.actionRow command = some row := by
  cases hfind : store.actionRow command with
  | none =>
    have hnone := List.find?_eq_none.1 hfind row hrow
    simp [haction] at hnone
  | some r =>
    have hr : r ∈ store.actions := actionRow_some hfind
    have hmatch := List.find?_some hfind
    simp only [decide_eq_true_eq] at hmatch
    rcases hmatch with hid | hkey
    · rw [Table.eq_of_key ledger.actionIds hr hrow (by rw [hid, haction])]
    · rw [Table.eq_of_key ledger.actionKeys hr hrow (by rw [hkey, haction])]

variable {o : RedTeamReconObservation}

theorem observation_eq (ledger : store.Ledger) (ho : o ∈ store.observations) :
    store.observation o.observationId = .ok o := by
  cases hfind : store.observation o.observationId with
  | error e =>
    simp only [observation, orRaise_eq_error, List.find?_eq_none] at hfind
    simpa using hfind.1 o ho
  | ok o' =>
    simp only [observation, orRaise_eq_ok] at hfind
    have hid : o'.observationId = o.observationId := by simpa using List.find?_some hfind
    rw [Table.eq_of_key ledger.observationIds (List.mem_of_find?_eq_some hfind) ho hid]

/-- A completed action is answered by the observation recorded for it. -/
theorem completedAction_eq (ledger : store.Ledger) {row : ActionRow} (hrow : row ∈ store.actions)
    (hstate : row.state = .completed) (haction : row.action = command.action)
    (ho : o ∈ store.observations) (hof : o.actionId = command.action.actionId) :
    store.completedAction command = .ok (some o) := by
  obtain ⟨o', ho', hid, hof'⟩ := ledger.completed row hrow hstate
  have hsame : o' = o := by
    refine Table.eq_of_key ledger.observationActions ho' ho ?_
    rw [hof', haction, hof]
  rw [completedAction, ledger.actionRow_eq hrow haction]
  simp [haction, hstate, hid, hsame, ledger.observation_eq ho]

/-- A command that is answered by an observation has completed. -/
theorem of_completedAction (ledger : store.Ledger)
    (h : store.completedAction command = .ok (some o)) :
    o ∈ store.observations ∧ o.actionId = command.action.actionId := by
  unfold completedAction at h
  split at h
  · cases h
  next row hfind =>
    simp only [bind_eq_ok, raiseIf_eq_ok, not_not] at h
    obtain ⟨-, haction, h⟩ := h
    split_ifs at h with hstate
    · simp only [bind_eq_ok, pure_eq_ok] at h
      obtain ⟨o', hread, heq⟩ := h
      obtain rfl := Option.some.inj heq
      obtain ⟨o, ho, hid, hof⟩ := ledger.completed row (actionRow_some hfind) hstate
      rw [hid, Option.getD_some, ledger.observation_eq ho] at hread
      cases hread
      exact ⟨ho, by rw [hof, haction]⟩
    · simp at h

end RedTeamStore.Ledger

/-- A claim that is answered by an observation changes nothing. -/
theorem RedTeamStore.claimAction_replay {store store' : RedTeamStore}
    {command : RedTeamReconCommand} {o : RedTeamReconObservation}
    (h : store.claimAction command = .ok (store', some o)) :
    store' = store ∧ store.completedAction command = .ok (some o) := by
  unfold claimAction at h
  split at h
  next row hfind =>
    rw [completedAction, hfind]
    simp only [reclaimAction, bind_eq_ok, raiseIf_eq_ok, not_not] at h
    obtain ⟨-, haction, h⟩ := h
    split_ifs at h with hstate
    · simp only [bind_eq_ok, pure_eq_ok, Prod.mk.injEq] at h
      obtain ⟨o', hread, rfl, heq⟩ := h
      refine ⟨rfl, ?_⟩
      simp [haction, hstate, hread, heq]
    · simp only [bind_eq_ok, pure_eq_ok, Prod.mk.injEq] at h
      obtain ⟨-, -, -, -, -, -, -, heq⟩ := h
      cases heq
  · simp only [bind_eq_ok, pure_eq_ok, Prod.mk.injEq] at h
    obtain ⟨-, -, -, heq⟩ := h
    cases heq

/-! ## Steps -/

theorem FlowStep.ledger {sys sys' : FlowSystem} {call : FlowCall} (hkeys : sys'.WellKeyed)
    (ledger : sys.store.Ledger) (hstep : FlowStep sys call sys') : sys'.store.Ledger := by
  have hnew : ∀ {command : RedTeamReconCommand},
      (∀ r ∈ sys.store.actions, actionClash command.row r = false) →
      ((sys.store.actions ++ [command.row]).map fun row => row.action.idempotencyKey).Nodup ∧
      ∀ row ∈ sys.store.actions ++ [command.row], row.state = .completed →
        ∃ o ∈ sys.store.observations,
          row.observationId = some o.observationId ∧ o.actionId = row.action.actionId := by
    intro command hfresh
    constructor
    · refine Table.nodup_key_concat ledger.actionKeys fun r hr heq => ?_
      have hclash := hfresh r hr
      simp [actionClash, heq] at hclash
    · intro row hrow hstate
      rcases List.mem_append.1 hrow with hrow | hrow
      · exact ledger.completed row hrow hstate
      · rw [List.mem_singleton.1 hrow] at hstate
        cases hstate
  cases hstep with
  | same => exact ledger
  | created hplanned hplan hfresh => exact { ledger with }
  | stopped hplan hlatest hstops hfresh => exact { ledger with }
  | claimed hread hplanId hplan hlatest hbudget hfresh =>
    obtain ⟨hactionKeys, hcompleted⟩ := hnew hfresh
    exact ⟨hkeys.actions, hactionKeys, ledger.observationActions, ledger.observationIds,
      ledger.admissionIds, ledger.admissionActions, hcompleted⟩
  | claimedReplan hread hplanId hplan hlatest hrow hreserved hbudget hfresh hone =>
    obtain ⟨hactionKeys, hcompleted⟩ := hnew hfresh
    refine ⟨hkeys.actions, hactionKeys, ledger.observationActions, ledger.observationIds,
      hkeys.admissions, ?_, hcompleted⟩
    exact Table.nodup_key_update (fun _ => rfl) ledger.admissionActions
  | reclaimed hread hplanId hrow haction hone hfree =>
    refine ⟨hkeys.actions, Table.nodup_key_update (fun _ => rfl) ledger.actionKeys,
      ledger.observationActions, ledger.observationIds, ledger.admissionIds,
      ledger.admissionActions, fun row hrow hstate => ?_⟩
    obtain ⟨r, hr, rfl⟩ := Table.mem_update.1 hrow
    split_ifs at hstate ⊢ with hawaits
    · simp only [ActionRow.awaits, decide_eq_true_eq] at hawaits
      rw [ActionRow.reclaim, hawaits.2.1] at hstate
      cases hstate
    · exact ledger.completed r hr hstate
  | @completed flight plan observation next hflight hplan hlatest hof hrecords hone hobservation
      hfresh =>
    refine ⟨hkeys.actions, Table.nodup_key_update (fun _ => rfl) ledger.actionKeys,
      hkeys.observations, ?_, ledger.admissionIds, ledger.admissionActions,
      fun row hrow hstate => ?_⟩
    · refine Table.nodup_key_concat ledger.observationIds fun r hr heq => ?_
      have hclash := hobservation r hr
      simp [observationClash, heq] at hclash
    · obtain ⟨r, hr, rfl⟩ := Table.mem_update.1 hrow
      split_ifs at hstate ⊢ with hclaimed
      · refine ⟨observation, List.mem_append_right _ (List.mem_singleton_self _), rfl, ?_⟩
        simp only [ActionRow.claimedBy, decide_eq_true_eq] at hclaimed
        rw [hof]
        exact hclaimed.1.symm
      · obtain ⟨o, ho, hid, hof'⟩ := ledger.completed r hr hstate
        exact ⟨o, List.mem_append_left _ ho, hid, hof'⟩
  | reserved hcall hnew hplan hlatest hcurrent hbudget => exact { ledger with }
  | admitted hplan hlatest hbudget hfresh =>
    refine ⟨ledger.actionIds, ledger.actionKeys, ledger.observationActions,
      ledger.observationIds, hkeys.admissions, ?_, ledger.completed⟩
    refine Table.nodup_key_concat ledger.admissionActions fun r hr heq => ?_
    have hclash := hfresh r hr
    simp [admissionClash, heq] at hclash
  | released hstate hone =>
    refine ⟨ledger.actionIds, ledger.actionKeys, ledger.observationActions,
      ledger.observationIds, hkeys.admissions, ?_, ledger.completed⟩
    exact Table.nodup_key_update (fun _ => rfl) ledger.admissionActions

/-- A call leaves what is recorded, and an admission that is consumed stays so. -/
structure FlowSystem.Keeps (sys sys' : FlowSystem) : Prop where
  calls : ∀ c ∈ sys.calls, c ∈ sys'.calls
  observations : ∀ o ∈ sys.store.observations, o ∈ sys'.store.observations
  admissions : ∀ row ∈ sys.store.admissions, ∃ row' ∈ sys'.store.admissions,
    row'.admission = row.admission ∧ (row.state = .consumed → row'.state = .consumed)
  receipts : sys'.store.receipts = sys.store.receipts

/-- A change of the admissions that can still be claimed leaves the others. -/
theorem mem_update_holds {t : List AdmissionRow} {row : AdmissionRow} (hrow : row ∈ t)
    (admissionId : Digest) (state : AdmissionState) :
    ∃ row' ∈ Table.update (AdmissionRow.holds admissionId) (AdmissionRow.setState state) t,
      row'.admission = row.admission ∧ (row.state = .consumed → row'.state = .consumed) := by
  refine ⟨_, Table.mem_update.2 ⟨row, hrow, rfl⟩, ?_, fun hstate => ?_⟩
  · split_ifs <;> rfl
  · rw [if_neg (by simp [AdmissionRow.holds, hstate])]
    exact hstate

theorem FlowStep.keeps {sys sys' : FlowSystem} {call : FlowCall} (hstep : FlowStep sys call sys') :
    sys.Keeps sys' := by
  have hsame : ∀ row ∈ sys.store.admissions, ∃ row' ∈ sys.store.admissions,
      row'.admission = row.admission ∧ (row.state = .consumed → row'.state = .consumed) :=
    fun row hrow => ⟨row, hrow, rfl, id⟩
  have hcalls : ∀ {flight : InFlight}, ∀ c ∈ sys.calls, c ∈ sys.calls ++ [flight] :=
    fun c hc => List.mem_append_left _ hc
  cases hstep with
  | same => exact ⟨fun _ hc => hc, fun _ ho => ho, hsame, rfl⟩
  | created hplanned hplan hfresh => exact ⟨fun _ hc => hc, fun _ ho => ho, hsame, rfl⟩
  | stopped hplan hlatest hstops hfresh => exact ⟨fun _ hc => hc, fun _ ho => ho, hsame, rfl⟩
  | claimed hread hplanId hplan hlatest hbudget hfresh =>
    exact ⟨hcalls, fun _ ho => ho, hsame, rfl⟩
  | claimedReplan hread hplanId hplan hlatest hrow hreserved hbudget hfresh hone =>
    exact ⟨hcalls, fun _ ho => ho, fun row hrow => mem_update_holds hrow _ _, rfl⟩
  | reclaimed hread hplanId hrow haction hone hfree =>
    exact ⟨hcalls, fun _ ho => ho, hsame, rfl⟩
  | completed hflight hplan hlatest hof hrecords hone hobservation hfresh =>
    exact ⟨fun _ hc => hc, fun _ ho => List.mem_append_left _ ho, hsame, rfl⟩
  | reserved hcall hnew hplan hlatest hcurrent hbudget =>
    exact ⟨fun _ hc => hc, fun _ ho => ho, hsame, rfl⟩
  | admitted hplan hlatest hbudget hfresh =>
    exact ⟨fun _ hc => hc, fun _ ho => ho,
      fun row hrow => ⟨row, List.mem_append_left _ hrow, rfl, id⟩, rfl⟩
  | released hstate hone =>
    exact ⟨fun _ hc => hc, fun _ ho => ho, fun row hrow => mem_update_holds hrow _ _, rfl⟩

end VulnLoom

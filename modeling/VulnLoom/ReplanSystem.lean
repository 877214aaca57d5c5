import VulnLoom.FlowLedger
import VulnLoom.ReplanService

/-!
# The replan system

The flow system with the executions of admissions. An execution that needs the adapter
waits for it; when `execute_recon` has returned, its receipt is still to be written, and may
never be. Every call of the flow system stays possible in between, so an action that was
dispatched here may be completed and its receipt lost.
-/

set_option linter.unusedSectionVars false

open Transition

namespace VulnLoom

variable [RedTeamDigests] [PolicyDigests] [PythonUrl]

/-! ## What an execution does before it returns -/

/-- What the checks of `execute` ask of a request. -/
structure RedTeamStore.Authorizes (store : RedTeamStore) (request : ReplanRequest) : Prop where
  admitted : ∃ row, store.replanAdmissionRow request.admission.admissionId = .ok row ∧
    row.admission = request.admission ∧ (row.state = .reserved ∨ row.state = .consumed)
  action : request.command.action = request.admission.command.action
  attempt : request.admission.command.attempt ≤ request.command.attempt
  engagement : request.approval.engagementId = request.scope.engagementId
  plan : ∃ plan, store.plan request.admission.flowPlanId = .ok plan ∧
    request.HasApproval plan ∧
    (request.policyRequest plan).digest = request.admission.policyRequestDigest ∧
    ∃ decision, request.scope.decide (request.policyRequest plan) [request.approval] =
      some decision ∧ decision.effect = .allow

/-- What `execute_recon` asks before it replays or claims an action. -/
def RedTeamStore.BindsRecon (store : RedTeamStore) (command : RedTeamReconCommand)
    (scope : Scope) : Prop :=
  command.action.kind ≠ .httpGet ∧ ∃ plan, store.plan command.action.planId = .ok plan ∧
    plan.BoundTo scope ∧ command.action.FitsPlan plan plan.target.url

variable {store : RedTeamStore} {request : ReplanRequest}

theorem authorizeReplan_ok {u : Unit} :
    authorizeReplan store request = .ok u ↔ store.Authorizes request := by
  simp only [authorizeReplan, requireAllowed, RedTeamStore.replanAdmission,
    RedTeamStore.replanAdmissionState, bind_eq_ok, mapError_eq_ok, raiseIf_eq_ok, orRaise_eq_ok,
    pure_eq_ok, not_or, not_and, not_not, not_lt]
  constructor
  · rintro ⟨_, ⟨row, hrow, rfl⟩, -, ⟨hadmission, haction, hattempt, hengagement⟩, plan, hplan,
      -, happroval, -, hdigest, -, hdecision, _, ⟨row', hrow', rfl⟩, hstate⟩
    rw [hrow] at hrow'
    cases hrow'
    refine ⟨⟨row, hrow, hadmission, ?_⟩, haction, hattempt, hengagement, plan, hplan, happroval,
      hdigest, hdecision⟩
    by_cases hreserved : row.state = .reserved
    · exact Or.inl hreserved
    · exact Or.inr (hstate hreserved)
  · rintro ⟨⟨row, hrow, hadmission, hstate⟩, haction, hattempt, hengagement, plan, hplan,
      happroval, hdigest, hdecision⟩
    exact ⟨_, ⟨row, hrow, rfl⟩, (), ⟨hadmission, haction, hattempt, hengagement⟩, plan, hplan,
      (), happroval, (), hdigest, (), hdecision, _, ⟨row, hrow, rfl⟩,
      fun hreserved => hstate.resolve_left hreserved⟩

variable {store' : RedTeamStore} {command : RedTeamReconCommand}
  {read : Except RedTeamError RedTeamCheckpoint} {o : RedTeamReconObservation}

/-- An action that has completed is replayed with the checkpoint read. -/
theorem startRecon_completed {scope : Scope} {now : Time} {start : ReconStart}
    (hcompleted : store.completedAction command = .ok (some o)) :
    startRecon store command scope read now = .ok (store', start) ↔
      store.BindsRecon command scope ∧ ∃ checkpoint, read = .ok checkpoint ∧
        store' = store ∧ start = .replayed checkpoint o := by
  simp only [startRecon, startBoundRecon, scopeBinding, hcompleted, bind_eq_ok, raiseIf_eq_ok,
    not_not]
  constructor
  · rintro ⟨-, hkind, plan, hplan, checkpoint, hread, -, hbound, -, hfits, _, heq, hstart⟩
    cases heq
    simp only [pure_eq_ok, Prod.mk.injEq] at hstart
    exact ⟨⟨hkind, plan, hplan, hbound, hfits⟩, checkpoint, hread, hstart.1.symm, hstart.2.symm⟩
  · rintro ⟨⟨hkind, plan, hplan, hbound, hfits⟩, checkpoint, hread, rfl, rfl⟩
    exact ⟨(), hkind, plan, hplan, checkpoint, hread, (), hbound, (), hfits, _, rfl, rfl⟩

/-- An execution replays an action that has completed, or claims it. -/
theorem startRecon_ok {scope : Scope} {now : Time} {start : ReconStart}
    (h : startRecon store command scope read now = .ok (store', start)) :
    (∃ checkpoint o, store.completedAction command = .ok (some o) ∧ store' = store ∧
      start = .replayed checkpoint o) ∨
    ∃ checkpoint, read = .ok checkpoint ∧ store.claimAction command = .ok (store', none) ∧
      start = .dispatched ⟨command, checkpoint, scope⟩ := by
  simp only [startRecon, startBoundRecon, bind_eq_ok] at h
  obtain ⟨-, -, plan, -, checkpoint, hread, -, -, -, -, replay, hreplay, h⟩ := h
  cases replay with
  | some o =>
    simp only [pure_eq_ok, Prod.mk.injEq] at h
    exact Or.inl ⟨checkpoint, o, hreplay, h.1.symm, h.2.symm⟩
  | none =>
    simp only [bind_eq_ok] at h
    obtain ⟨-, -, -, -, -, -, ⟨store₁, claimed⟩, hclaim, h⟩ := h
    cases claimed with
    | some o =>
      obtain ⟨rfl, hcompleted⟩ := RedTeamStore.claimAction_replay hclaim
      rw [hreplay] at hcompleted
      cases hcompleted
    | none =>
      simp only [pure_eq_ok, Prod.mk.injEq] at h
      obtain ⟨rfl, rfl⟩ := h
      exact Or.inr ⟨checkpoint, hread, hclaim, rfl⟩

/-- The receipt of an execution is stored with the first write of it. -/
theorem recordReceipt_ok {checkpoint : RedTeamCheckpoint}
    (h : recordReceipt store request checkpoint o = .ok store') :
    store' = store ∨ ∃ receipt : RedTeamReplanExecutionReceipt,
      receipt.toRedTeamReplanExecutionReceiptValues = request.receiptValues checkpoint o ∧
      (∃ row, store.replanAdmissionRow request.admission.admissionId = .ok row ∧
        row.state = .consumed) ∧
      (∀ r ∈ store.receipts, receiptClash receipt r = false) ∧
      store' = { store with receipts := store.receipts ++ [receipt] } := by
  unfold recordReceipt at h
  split_ifs at h
  · simp only [pure_eq_ok] at h
    exact Or.inl h.symm
  · split at h
    · simp only [bind_eq_ok, pure_eq_ok] at h
      obtain ⟨-, -, rfl⟩ := h
      exact Or.inl rfl
    · simp only [bind_eq_ok, mapError_eq_ok] at h
      obtain ⟨receipt, hcreate, hput⟩ := h
      have hvalues : receipt.toRedTeamReplanExecutionReceiptValues =
          request.receiptValues checkpoint o := by
        unfold RedTeamReplanExecutionReceipt.create at hcreate
        split_ifs at hcreate
        cases hcreate
        rfl
      unfold RedTeamStore.putReplanExecutionReceipt at hput
      split at hput
      · simp only [bind_eq_ok, pure_eq_ok] at hput
        obtain ⟨-, -, rfl⟩ := hput
        exact Or.inl rfl
      · simp only [RedTeamStore.replanAdmissionState, bind_eq_ok, raiseIf_eq_ok, orRaise_eq_ok,
          pure_eq_ok, Table.insert_eq_some, not_not] at hput
        obtain ⟨_, ⟨row, hrow, rfl⟩, -, hstate, -, -, _, ⟨hfresh, rfl⟩, rfl⟩ := hput
        refine Or.inr ⟨receipt, hvalues, ⟨row, ?_, hstate⟩, hfresh, rfl⟩
        rw [show request.admission.admissionId = receipt.admissionId by rw [hvalues]; rfl]
        exact hrow

/-! ## Calls -/

/-- An execution that waits for its adapter. -/
structure WaitingReplan where
  request : ReplanRequest
  flight : InFlight

/-- An execution whose `execute_recon` has returned. -/
structure ReturnedReplan where
  request : ReplanRequest
  checkpoint : RedTeamCheckpoint
  observation : RedTeamReconObservation

structure ReplanSystem where
  flow : FlowSystem
  waiting : List WaitingReplan
  returned : List ReturnedReplan

def ReplanSystem.empty : ReplanSystem :=
  ⟨FlowSystem.empty, [], []⟩

/-- A call. `execute` runs up to the adapter, or to the receipt when it needs no adapter, with
the revision it read; `finish` goes on to the receipt with what the adapter returned, and
`receipt` writes it. -/
inductive ReplanCall
  | flow (call : FlowCall)
  | execute (request : ReplanRequest) (revision : ℕ)
  | finish (place : ℕ) (observation : RedTeamReconObservation)
  | receipt (place : ℕ)

/-- What a call returns; `ok` carries the new system. -/
def ReplanSystem.exec (sys : ReplanSystem) : ReplanCall → Except RedTeamError ReplanSystem
  | .flow call => do
    let flow ← sys.flow.exec call
    return { sys with flow := flow }
  | .execute request revision => do
    let (store, start) ← startReplan sys.flow.store request
      (sys.flow.store.checkpointRevision request.command.action.planId revision)
    match start with
    | .replayed checkpoint observation =>
      return { sys with
        flow := { sys.flow with store := store }
        returned := sys.returned ++ [⟨request, checkpoint, observation⟩] }
    | .dispatched flight =>
      return { sys with
        flow := ⟨store, sys.flow.calls ++ [flight]⟩
        waiting := sys.waiting ++ [⟨request, flight⟩] }
  | .finish place observation => do
    let waiting ← orRaise sys.waiting[place]? (.rejected "no such execution")
    let plan ← sys.flow.store.plan waiting.flight.command.action.planId
    let (store, advanced) ← finishRecon sys.flow.store plan waiting.flight observation
    return { sys with
      flow := { sys.flow with store := store }
      returned := sys.returned ++ [⟨waiting.request, advanced, observation⟩] }
  | .receipt place => do
    let returned ← orRaise sys.returned[place]? (.rejected "no such execution")
    let store ← recordReceipt sys.flow.store returned.request returned.checkpoint
      returned.observation
    return { sys with flow := { sys.flow with store := store } }

/-- One call. -/
def ReplanSystem.step : ReplanSystem → ReplanCall → ReplanSystem :=
  settle ReplanSystem.exec

/-! ## What holds along a run -/

/-- An admission of the store. -/
def RedTeamStore.Admits (store : RedTeamStore) (admission : RedTeamReplanAdmission) : Prop :=
  ∃ row ∈ store.admissions, row.admission = admission

/-- An observation recorded for the action of an admission. -/
def RedTeamStore.Observed (store : RedTeamStore) (admission : RedTeamReplanAdmission)
    (o : RedTeamReconObservation) : Prop :=
  o ∈ store.observations ∧ o.actionId = admission.command.action.actionId

/-- The receipt of a consumed admission and of the observation of its action. -/
def RedTeamStore.Receipted (store : RedTeamStore) (receipt : RedTeamReplanExecutionReceipt) :
    Prop :=
  ∃ row ∈ store.admissions, row.state = .consumed ∧
    receipt.admissionId = row.admission.admissionId ∧
    receipt.flowPlanId = row.admission.flowPlanId ∧
    receipt.sourceCheckpointId = row.admission.sourceCheckpointId ∧
    receipt.actionId = row.admission.command.action.actionId ∧
    ∃ o, store.Observed row.admission o ∧ receipt.observationId = o.observationId ∧
      o.cleanupComplete = true

structure ReplanSystem.Sound (sys : ReplanSystem) : Prop where
  flow : sys.flow.Sound
  ledger : sys.flow.store.Ledger
  waiting : ∀ w ∈ sys.waiting, w.flight ∈ sys.flow.calls ∧
    w.flight.command.action = w.request.command.action ∧
    w.request.command.action = w.request.admission.command.action ∧
    sys.flow.store.Admits w.request.admission
  returned : ∀ r ∈ sys.returned, r.request.command.action = r.request.admission.command.action ∧
    sys.flow.store.Admits r.request.admission ∧
    sys.flow.store.Observed r.request.admission r.observation
  receiptAdmissions : (sys.flow.store.receipts.map fun r => r.admissionId).Nodup
  receipted : ∀ r ∈ sys.flow.store.receipts, sys.flow.store.Receipted r

namespace FlowSystem.Keeps

variable {sys sys' : FlowSystem}
variable {admission : RedTeamReplanAdmission}

theorem admits (hkeeps : sys.Keeps sys') (h : sys.store.Admits admission) :
    sys'.store.Admits admission := by
  obtain ⟨row, hrow, rfl⟩ := h
  obtain ⟨row', hrow', hsame, -⟩ := hkeeps.admissions row hrow
  exact ⟨row', hrow', hsame⟩

theorem observed (hkeeps : sys.Keeps sys') (h : sys.store.Observed admission o) :
    sys'.store.Observed admission o :=
  ⟨hkeeps.observations o h.1, h.2⟩

theorem receipted (hkeeps : sys.Keeps sys') {receipt : RedTeamReplanExecutionReceipt}
    (h : sys.store.Receipted receipt) : sys'.store.Receipted receipt := by
  obtain ⟨row, hrow, hstate, hid, hplan, hsource, haction, o, ho, hof, hclean⟩ := h
  obtain ⟨row', hrow', hsame, hconsumed⟩ := hkeeps.admissions row hrow
  refine ⟨row', hrow', hconsumed hstate, ?_⟩
  rw [hsame]
  exact ⟨hid, hplan, hsource, haction, o, hkeeps.observed ho, hof, hclean⟩

end FlowSystem.Keeps

/-- A completion records what its adapter returned. -/
theorem finishRecon_observed {plan : RedTeamFlowPlan} {flight : InFlight}
    {advanced : RedTeamCheckpoint} (h : finishRecon store plan flight o = .ok (store', advanced)) :
    o ∈ store'.observations ∧ o.actionId = flight.command.action.actionId := by
  simp only [finishRecon, RedTeamStore.completeAction, bind_eq_ok, raiseIf_eq_ok, orRaise_eq_ok,
    pure_eq_ok, Table.insert_eq_some, Prod.mk.injEq] at h
  obtain ⟨-, hprovenance, next, -, store₁, ⟨-, -, -, -, -, -, _, ⟨-, rfl⟩, hinsert⟩, rfl, -⟩ := h
  obtain ⟨-, rfl⟩ := RedTeamStore.insertCheckpoint_ok hinsert
  refine ⟨List.mem_append_right _ (List.mem_singleton_self _), ?_⟩
  by_contra hne
  exact hprovenance (by simp [provenanceInvalid, hne])

namespace ReplanSystem.Sound

variable {sys : ReplanSystem}

theorem empty : ReplanSystem.empty.Sound := by
  refine ⟨FlowSystem.Sound.empty, RedTeamStore.Ledger.empty, ?_, ?_, ?_, ?_⟩ <;>
    simp [ReplanSystem.empty, FlowSystem.empty, RedTeamStore.empty]

/-- Every call of the flow system leaves the executions as they are. -/
theorem flow_step (hsound : sys.Sound) {call : FlowCall} {flow' : FlowSystem}
    (hstep : FlowStep sys.flow call flow') : { sys with flow := flow' }.Sound := by
  have hflow : flow'.Sound := hsound.flow.step hstep
  have hkeeps := hstep.keeps
  refine ⟨hflow, hstep.ledger hflow.keys hsound.ledger, fun w hw => ?_, fun r hr => ?_, ?_, ?_⟩
  · obtain ⟨hflight, hcommand, haction, hadmits⟩ := hsound.waiting w hw
    exact ⟨hkeeps.calls _ hflight, hcommand, haction, hkeeps.admits hadmits⟩
  · obtain ⟨haction, hadmits, hobserved⟩ := hsound.returned r hr
    exact ⟨haction, hkeeps.admits hadmits, hkeeps.observed hobserved⟩
  · rw [hkeeps.receipts]
    exact hsound.receiptAdmissions
  · rw [hkeeps.receipts]
    exact fun r hr => hkeeps.receipted (hsound.receipted r hr)

theorem add_returned (hsound : sys.Sound) {r : ReturnedReplan}
    (haction : r.request.command.action = r.request.admission.command.action)
    (hadmits : sys.flow.store.Admits r.request.admission)
    (hobserved : sys.flow.store.Observed r.request.admission r.observation) :
    { sys with returned := sys.returned ++ [r] }.Sound := by
  refine ⟨hsound.flow, hsound.ledger, hsound.waiting, fun r' hr' => ?_,
    hsound.receiptAdmissions, hsound.receipted⟩
  rcases List.mem_append.1 hr' with hr' | hr'
  · exact hsound.returned r' hr'
  · rw [List.mem_singleton.1 hr']
    exact ⟨haction, hadmits, hobserved⟩

theorem add_waiting (hsound : sys.Sound) {w : WaitingReplan} (hflight : w.flight ∈ sys.flow.calls)
    (hcommand : w.flight.command.action = w.request.command.action)
    (haction : w.request.command.action = w.request.admission.command.action)
    (hadmits : sys.flow.store.Admits w.request.admission) :
    { sys with waiting := sys.waiting ++ [w] }.Sound := by
  refine ⟨hsound.flow, hsound.ledger, fun w' hw' => ?_, hsound.returned,
    hsound.receiptAdmissions, hsound.receipted⟩
  rcases List.mem_append.1 hw' with hw' | hw'
  · exact hsound.waiting w' hw'
  · rw [List.mem_singleton.1 hw']
    exact ⟨hflight, hcommand, haction, hadmits⟩

/-- A receipt concerns no table of the flow. -/
theorem add_receipt (hsound : sys.Sound) {receipt : RedTeamReplanExecutionReceipt}
    (hfresh : ∀ r ∈ sys.flow.store.receipts, receiptClash receipt r = false)
    (hreceipted : sys.flow.store.Receipted receipt) :
    { sys with flow := { sys.flow with store := { sys.flow.store with
      receipts := sys.flow.store.receipts ++ [receipt] } } }.Sound := by
  obtain ⟨hkeys, hhist, hprov⟩ := hsound.flow
  refine ⟨⟨{ hkeys with }, { hhist with }, { hprov with }⟩, { hsound.ledger with },
    hsound.waiting, hsound.returned, ?_, fun r hr => ?_⟩
  · refine Table.nodup_key_concat hsound.receiptAdmissions fun r hr heq => ?_
    have hclash := hfresh r hr
    simp [receiptClash, heq] at hclash
  · rcases List.mem_append.1 hr with hr | hr
    · exact hsound.receipted r hr
    · rw [List.mem_singleton.1 hr]
      exact hreceipted

variable {request : ReplanRequest}

/-- An authorised execution names an admission of the store. -/
theorem admits_of_authorizes (h : store.Authorizes request) : store.Admits request.admission := by
  obtain ⟨row, hrow, hadmission, -⟩ := h.admitted
  simp only [RedTeamStore.replanAdmissionRow, orRaise_eq_ok] at hrow
  exact ⟨row, List.mem_of_find?_eq_some hrow, hadmission⟩

theorem execute (hsound : sys.Sound) {revision : ℕ} {sys' : ReplanSystem}
    (h : sys.exec (.execute request revision) = .ok sys') : sys'.Sound := by
  simp only [exec, startReplan, bind_eq_ok, mapError_eq_ok, authorizeReplan_ok] at h
  obtain ⟨⟨store, start⟩, ⟨-, hauthorizes, hstart⟩, h⟩ := h
  have hadmits := admits_of_authorizes hauthorizes
  rcases startRecon_ok hstart with ⟨checkpoint, o, hcompleted, rfl, rfl⟩ |
    ⟨checkpoint, hread, hclaim, rfl⟩
  · simp only [pure_eq_ok] at h
    obtain ⟨ho, hof⟩ := hsound.ledger.of_completedAction hcompleted
    rw [← h]
    exact hsound.add_returned hauthorizes.action hadmits ⟨ho, by rw [hof, hauthorizes.action]⟩
  · simp only [pure_eq_ok] at h
    have hexec : sys.flow.exec (.claim request.command revision request.scope) =
        .ok ⟨store, sys.flow.calls ++ [⟨request.command, checkpoint, request.scope⟩]⟩ := by
      simp [FlowSystem.exec, hread, hclaim]
    have hstep := FlowStep.of_claim hexec
    have hmem := List.mem_append_right sys.flow.calls
      (List.mem_singleton_self (⟨request.command, checkpoint, request.scope⟩ : InFlight))
    rw [← h]
    exact (hsound.flow_step hstep).add_waiting hmem rfl hauthorizes.action
      (hstep.keeps.admits hadmits)

theorem finish (hsound : sys.Sound) {place : ℕ} {sys' : ReplanSystem}
    (h : sys.exec (.finish place o) = .ok sys') : sys'.Sound := by
  simp only [exec, bind_eq_ok, orRaise_eq_ok, pure_eq_ok] at h
  obtain ⟨w, hplace, plan, hplan, ⟨store, advanced⟩, hfinish, rfl⟩ := h
  obtain ⟨hflight, hcommand, haction, hadmits⟩ := hsound.waiting w (List.mem_of_getElem? hplace)
  obtain ⟨n, hn⟩ := List.getElem?_of_mem hflight
  have hexec : sys.flow.exec (.complete n o) = .ok { sys.flow with store := store } := by
    simp [FlowSystem.exec, hn, hplan, hfinish, orRaise]
  have hstep := FlowStep.of_complete hsound.flow.keys hexec
  obtain ⟨ho, hof⟩ := finishRecon_observed hfinish
  exact (hsound.flow_step hstep).add_returned haction (hstep.keeps.admits hadmits)
    ⟨ho, by rw [hof, hcommand, haction]⟩

theorem receipt (hsound : sys.Sound) {place : ℕ} {sys' : ReplanSystem}
    (h : sys.exec (.receipt place) = .ok sys') : sys'.Sound := by
  simp only [exec, bind_eq_ok, orRaise_eq_ok, pure_eq_ok] at h
  obtain ⟨r, hplace, store, hrecord, rfl⟩ := h
  obtain ⟨haction, ⟨row, hrow, hadmission⟩, hobserved⟩ :=
    hsound.returned r (List.mem_of_getElem? hplace)
  rcases recordReceipt_ok hrecord with rfl | ⟨receipt, hvalues, ⟨row', hrow', hstate⟩, hfresh, rfl⟩
  · exact hsound
  · refine hsound.add_receipt hfresh ?_
    simp only [RedTeamStore.replanAdmissionRow, orRaise_eq_ok] at hrow'
    have hid : row'.admission.admissionId = r.request.admission.admissionId := by
      simpa using List.find?_some hrow'
    have hsame : row' = row :=
      Table.eq_of_key hsound.ledger.admissionIds (List.mem_of_find?_eq_some hrow') hrow
        (hid.trans (by rw [hadmission]))
    subst hsame
    refine ⟨row', hrow, hstate, ?_⟩
    rw [hvalues, hadmission]
    refine ⟨rfl, rfl, rfl, by rw [← haction]; rfl, r.observation, hobserved, rfl, ?_⟩
    have hsealed := receipt.isSealed.2.1
    rw [hvalues] at hsealed
    exact hsealed

theorem next (hsound : sys.Sound) (call : ReplanCall) : (sys.step call).Sound := by
  refine settle_induction hsound fun sys' h => ?_
  cases call with
  | flow call =>
    simp only [exec, bind_eq_ok, pure_eq_ok] at h
    obtain ⟨flow', hexec, rfl⟩ := h
    exact hsound.flow_step (FlowSystem.exec_ok hsound.flow.keys hexec)
  | execute request revision => exact hsound.execute h
  | finish place observation => exact hsound.finish h
  | receipt place => exact hsound.receipt h

theorem run (calls : List ReplanCall) :
    (Transition.run ReplanSystem.step ReplanSystem.empty calls).Sound := by
  have hstep : ∀ (sys : ReplanSystem) (call : ReplanCall), sys.Sound → (sys.step call).Sound :=
    fun _ call hsound => hsound.next call
  exact run_invariant _ hstep calls empty

end ReplanSystem.Sound

end VulnLoom

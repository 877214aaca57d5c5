import VulnLoom.FlowBudget
import VulnLoom.ReplanSystem

/-!
# The replay of an executed admission

Executing an admission again, once its action has completed, returns the recorded
observation with the flow's latest checkpoint, whatever that is by then. So the replay is
what it should be only while no checkpoint has followed the one that recorded the
observation (`replays_iff`) : afterwards it raises because the receipt names another
checkpoint, or stores a receipt that names the wrong one.
-/

set_option linter.unusedSectionVars false

open Transition

namespace VulnLoom

section

variable [RedTeamDigests] [PolicyDigests] [PythonUrl]

/-! ## Replays -/

/-- The checkpoint that recorded an observation : it lists it last, and no earlier checkpoint
of the flow lists it. -/
def RedTeamStore.RecordedAt (store : RedTeamStore) (planId : Digest)
    (checkpoint : RedTeamCheckpoint) (o : RedTeamReconObservation) : Prop :=
  checkpoint ∈ store.history planId ∧
    checkpoint.observationIds.getLast? = some o.observationId ∧
    ∀ c ∈ store.history planId, o.observationId ∈ c.observationIds →
      checkpoint.revision ≤ c.revision

/-- Every receipt of an admission names the checkpoint that recorded its observation. -/
def RedTeamStore.ReceiptsName (store : RedTeamStore) (admission : RedTeamReplanAdmission)
    (o : RedTeamReconObservation) : Prop :=
  ∀ receipt ∈ store.receipts, receipt.admissionId = admission.admissionId →
    ∃ result, store.RecordedAt admission.flowPlanId result o ∧
      receipt.resultCheckpointId = result.checkpointId

/-- The execution of a request succeeds without a dispatch, returns the observation, and every
receipt then stored for it names the checkpoint that recorded the observation. -/
def RedTeamStore.Replays (store : RedTeamStore) (request : ReplanRequest)
    (o : RedTeamReconObservation) : Prop :=
  ∃ store' checkpoint, executeReplan store request = .ok (store', .replayed checkpoint o) ∧
    store'.ReceiptsName request.admission o

variable {o : RedTeamReconObservation}

/-- Two checkpoints that recorded one observation are the same. -/
theorem RedTeamStore.RecordedAt.eq {store : RedTeamStore} (hist : store.Histories)
    {planId : Digest} {c c' : RedTeamCheckpoint} (h : store.RecordedAt planId c o)
    (h' : store.RecordedAt planId c' o) : c = c' := by
  have hle := h.2.2 c' h'.1 (List.mem_of_getLast? h'.2.1)
  have hge := h'.2.2 c h.1 (List.mem_of_getLast? h.2.1)
  have hnodup : ((store.history planId).map fun c => c.revision).Nodup := by
    rw [hist.revisions]
    exact List.nodup_range
  exact Table.eq_of_key hnodup h.1 h'.1 (le_antisymm hle hge)

/-- An execution with a clean observation leaves a receipt that names its checkpoint. -/
theorem recordReceipt_names {store store' : RedTeamStore} {request : ReplanRequest}
    {checkpoint : RedTeamCheckpoint} (hclean : o.cleanupComplete = true)
    (h : recordReceipt store request checkpoint o = .ok store') :
    ∃ receipt ∈ store'.receipts, receipt.admissionId = request.admission.admissionId ∧
      receipt.resultCheckpointId = checkpoint.checkpointId := by
  unfold recordReceipt at h
  rw [if_neg (by simp [hclean, o.isSealed.redacted])] at h
  split at h
  next existing hfind =>
    simp only [bind_eq_ok, raiseIf_eq_ok, pure_eq_ok, not_or, not_not] at h
    obtain ⟨-, ⟨-, -, hresult, -, -⟩, rfl⟩ := h
    exact ⟨existing, List.mem_of_find?_eq_some hfind, by simpa using List.find?_some hfind,
      hresult⟩
  next hnone =>
    simp only [bind_eq_ok, mapError_eq_ok] at h
    obtain ⟨receipt, hcreate, hput⟩ := h
    have hvalues : receipt.toRedTeamReplanExecutionReceiptValues =
        request.receiptValues checkpoint o := by
      unfold RedTeamReplanExecutionReceipt.create at hcreate
      split_ifs at hcreate
      cases hcreate
      rfl
    have hmem : receipt ∈ store'.receipts := by
      unfold RedTeamStore.putReplanExecutionReceipt at hput
      split at hput
      next existing hfind =>
        simp only [bind_eq_ok, raiseIf_eq_ok, pure_eq_ok, not_not] at hput
        obtain ⟨-, rfl, rfl⟩ := hput
        exact List.mem_of_find?_eq_some hfind
      next =>
        simp only [bind_eq_ok, orRaise_eq_ok, pure_eq_ok, Table.insert_eq_some] at hput
        obtain ⟨-, -, -, -, -, -, _, ⟨-, rfl⟩, rfl⟩ := hput
        exact List.mem_append_right _ (List.mem_singleton_self _)
    exact ⟨receipt, hmem, by rw [hvalues]; rfl, by rw [hvalues]; rfl⟩

/-! ## When an execution replays -/

/-- The action of an admission has completed with the observation `o`. -/
structure RedTeamStore.Completed (store : RedTeamStore) (admission : RedTeamReplanAdmission)
    (o : RedTeamReconObservation) : Prop where
  row : ∃ row ∈ store.actions, row.action = admission.command.action ∧ row.state = .completed
  observed : store.Observed admission o

/-- No checkpoint has followed the one that recorded `o`, and the admission of its action is
consumed. -/
def RedTeamStore.Unfollowed (store : RedTeamStore) (admission : RedTeamReplanAdmission)
    (o : RedTeamReconObservation) : Prop :=
  ∃ latest, store.latest admission.flowPlanId = .ok latest ∧
    store.RecordedAt admission.flowPlanId latest o ∧
    (∃ row ∈ store.admissions, row.admission = admission ∧ row.state = .consumed) ∧
    ∀ receipt ∈ store.receipts, receipt.admissionId = admission.admissionId →
      receipt.resultCheckpointId = latest.checkpointId

namespace ReplanSystem.Sound

variable {sys : ReplanSystem} {request : ReplanRequest} {o : RedTeamReconObservation}

/-- An authorised request whose action has completed is answered by its observation. -/
theorem completedAction_eq (hsound : sys.Sound)
    (hcompleted : sys.flow.store.Completed request.admission o)
    (haction : request.command.action = request.admission.command.action) :
    sys.flow.store.completedAction request.command = .ok (some o) := by
  obtain ⟨row, hrow, hrowAction, hstate⟩ := hcompleted.row
  exact hsound.ledger.completedAction_eq hrow hstate (hrowAction.trans haction.symm)
    hcompleted.observed.1 (by rw [hcompleted.observed.2, haction])

/-- The receipt of an admission, with the rest of what it says. -/
theorem receipt_of_admission (hsound : sys.Sound) {admission : RedTeamReplanAdmission}
    (hadmits : sys.flow.store.Admits admission)
    (hobserved : sys.flow.store.Observed admission o) {r : RedTeamReplanExecutionReceipt}
    (hr : r ∈ sys.flow.store.receipts) (hid : r.admissionId = admission.admissionId) :
    (∃ row ∈ sys.flow.store.admissions, row.admission = admission ∧ row.state = .consumed) ∧
      r.flowPlanId = admission.flowPlanId ∧ r.sourceCheckpointId = admission.sourceCheckpointId ∧
      r.actionId = admission.command.action.actionId ∧ r.observationId = o.observationId ∧
      o.cleanupComplete = true := by
  obtain ⟨row, hrow, hstate, hrid, hplan, hsource, haction, o', ho', hobs, hclean⟩ :=
    hsound.receipted r hr
  obtain ⟨row', hrow', rfl⟩ := hadmits
  have hsame : row = row' :=
    Table.eq_of_key hsound.ledger.admissionIds hrow hrow' (hrid.symm.trans hid)
  subst hsame
  have ho : o' = o := Table.eq_of_key hsound.ledger.observationActions ho'.1 hobserved.1
    (ho'.2.trans hobserved.2.symm)
  subst ho
  exact ⟨⟨row, hrow, rfl, hstate⟩, hplan, hsource, haction, hobs, hclean⟩

/-- A replay with an unclean observation writes no receipt, and there is none. -/
theorem replays_unclean (hsound : sys.Sound)
    (hcompleted : sys.flow.store.Completed request.admission o)
    (hauthorizes : sys.flow.store.Authorizes request)
    (hbinds : sys.flow.store.BindsRecon request.command request.scope)
    (hclean : o.cleanupComplete = false) : sys.flow.store.Replays request o := by
  have hread := hsound.completedAction_eq hcompleted hauthorizes.action
  obtain ⟨-, plan, hplan, -, -⟩ := id hbinds
  obtain ⟨hmem, hid⟩ := RedTeamStore.plan_ok hplan
  obtain ⟨latest, hlatest⟩ := hsound.flow.histories.latest_of_plan hmem
  rw [hid] at hlatest
  refine ⟨sys.flow.store, latest, ?_, fun r hr hrid => ?_⟩
  · simp only [executeReplan, startReplan, bind_eq_ok, mapError_eq_ok, authorizeReplan_ok]
    refine ⟨_, ⟨(), hauthorizes, (startRecon_completed hread).2
      ⟨hbinds, latest, hlatest, rfl, rfl⟩⟩, ?_⟩
    simp only [bind_eq_ok, pure_eq_ok]
    exact ⟨_, by simp [recordReceipt, hclean], rfl⟩
  · obtain ⟨-, -, -, -, -, htrue⟩ := hsound.receipt_of_admission
      (admits_of_authorizes hauthorizes) hcompleted.observed hr hrid
    rw [hclean] at htrue
    cases htrue

/-- A first receipt of a consumed admission is stored. -/
theorem putReplanExecutionReceipt_first {store : RedTeamStore}
    {receipt : RedTeamReplanExecutionReceipt}
    (hconsumed : store.replanAdmissionState receipt.admissionId = .ok .consumed)
    (haction : ∃ row ∈ store.actions, row.action.actionId = receipt.actionId)
    (hfirst : ∀ r ∈ store.receipts, receipt.receiptId ≠ r.receiptId ∧
      r.admissionId ≠ receipt.admissionId ∧ r.actionId ≠ receipt.actionId) :
    store.putReplanExecutionReceipt receipt =
      .ok { store with receipts := store.receipts ++ [receipt] } := by
  have hnone : (store.receipts.find? fun r =>
      r.admissionId = receipt.admissionId ∨ r.actionId = receipt.actionId) = none := by
    refine List.find?_eq_none.2 fun r hr => ?_
    simpa [not_or] using (hfirst r hr).2
  have hfresh : ∀ r ∈ store.receipts, receiptClash receipt r = false := by
    intro r hr
    obtain ⟨hid, hadmission, hact⟩ := hfirst r hr
    simp [receiptClash, hid, hadmission.symm, hact.symm]
  simp only [RedTeamStore.putReplanExecutionReceipt, hnone, hconsumed, bind_eq_ok,
    raiseIf_eq_ok, orRaise_eq_ok, pure_eq_ok, Table.insert_eq_some]
  exact ⟨.consumed, rfl, (), not_not.2 rfl, (), not_not.2 haction, _, ⟨hfresh, rfl⟩, rfl⟩

/-- While no checkpoint has followed, the receipt is stored or can be. -/
theorem recordReceipt_unfollowed (hsound : sys.Sound)
    (hdigest : ∀ r r' : RedTeamReplanExecutionReceipt, r.receiptId = r'.receiptId →
      r.admissionId = r'.admissionId)
    (hcompleted : sys.flow.store.Completed request.admission o)
    (hauthorizes : sys.flow.store.Authorizes request) (hclean : o.cleanupComplete = true)
    {latest : RedTeamCheckpoint}
    (hrow : ∃ row ∈ sys.flow.store.admissions, row.admission = request.admission ∧
      row.state = .consumed)
    (hreceipts : ∀ r ∈ sys.flow.store.receipts, r.admissionId = request.admission.admissionId →
      r.resultCheckpointId = latest.checkpointId) :
    ∃ store', recordReceipt sys.flow.store request latest o = .ok store' ∧
      store'.checkpoints = sys.flow.store.checkpoints ∧
      ∀ r ∈ store'.receipts, r.admissionId = request.admission.admissionId →
        r.resultCheckpointId = latest.checkpointId := by
  obtain ⟨row, hrow, hadmission, hstate⟩ := hrow
  obtain ⟨arow, harow, haction, -⟩ := hcompleted.row
  have hadmits : sys.flow.store.Admits request.admission := ⟨row, hrow, hadmission⟩
  unfold recordReceipt
  rw [if_neg (by simp [hclean, o.isSealed.redacted])]
  cases hfind : sys.flow.store.replanExecutionReceiptForAdmission request.admission.admissionId with
  | some existing =>
    have hmem := List.mem_of_find?_eq_some hfind
    have hid : existing.admissionId = request.admission.admissionId := by
      simpa using List.find?_some hfind
    obtain ⟨-, hplan, hsource, hact, hobs, -⟩ :=
      hsound.receipt_of_admission hadmits hcompleted.observed hmem hid
    refine ⟨sys.flow.store, ?_, rfl, hreceipts⟩
    simp [hplan, hsource, hact, hobs, hreceipts existing hmem hid, hauthorizes.action]
  | none =>
    have hother : ∀ r ∈ sys.flow.store.receipts,
        r.admissionId ≠ request.admission.admissionId := by
      intro r hr
      simpa using List.find?_eq_none.1 hfind r hr
    have hotherAction : ∀ r ∈ sys.flow.store.receipts,
        r.actionId ≠ request.command.action.actionId := by
      intro r hr heq
      obtain ⟨row', hrow', -, hrid, -, -, hact, -⟩ := hsound.receipted r hr
      have hsame : row' = row := by
        refine Table.eq_of_key hsound.ledger.admissionActions hrow' hrow ?_
        rw [← hact, heq, hauthorizes.action, hadmission]
      exact hother r hr (by rw [hrid, hsame, hadmission])
    have hconsumed : sys.flow.store.replanAdmissionState request.admission.admissionId =
        .ok .consumed := by
      obtain ⟨row', hread, hadmission', -⟩ := hauthorizes.admitted
      have hmem := hread
      simp only [RedTeamStore.replanAdmissionRow, orRaise_eq_ok] at hmem
      have hsame : row' = row := by
        refine Table.eq_of_key hsound.ledger.admissionIds (List.mem_of_find?_eq_some hmem) hrow ?_
        rw [hadmission', hadmission]
      simp [RedTeamStore.replanAdmissionState, hread, hsame, hstate]
    have happroved : request.approval.action = .executeRedTeamAction := by
      obtain ⟨plan, -, happroval, -, -⟩ := hauthorizes.plan
      have hvalid := happroval.2.1
      simp only [ApprovalRequest.isValidFor, decide_eq_true_eq] at hvalid
      exact hvalid.2.1
    let receipt : RedTeamReplanExecutionReceipt :=
      ⟨request.receiptValues latest o, happroved, hclean, o.isSealed.redacted⟩
    have hcreate : RedTeamReplanExecutionReceipt.create (request.receiptValues latest o) =
        .ok receipt := by
      unfold RedTeamReplanExecutionReceipt.create
      rw [dif_pos ⟨happroved, hclean, o.isSealed.redacted⟩]
    have hput : sys.flow.store.putReplanExecutionReceipt receipt = .ok { sys.flow.store with
        receipts := sys.flow.store.receipts ++ [receipt] } := by
      refine putReplanExecutionReceipt_first hconsumed ⟨arow, harow, ?_⟩ fun r hr =>
        ⟨fun heq => hother r hr (hdigest _ _ heq).symm, hother r hr, hotherAction r hr⟩
      rw [haction, ← hauthorizes.action]
      rfl
    refine ⟨{ sys.flow.store with receipts := sys.flow.store.receipts ++ [receipt] }, ?_, rfl,
      fun r hr hid => ?_⟩
    · simp only [bind_eq_ok, mapError_eq_ok]
      exact ⟨receipt, hcreate, hput⟩
    · rcases List.mem_append.1 hr with hr | hr
      · exact absurd hid (hother r hr)
      · rw [List.mem_singleton.1 hr]
        rfl

/-- While no checkpoint has followed, an authorised execution replays. -/
theorem replays_unfollowed (hsound : sys.Sound)
    (hdigest : ∀ r r' : RedTeamReplanExecutionReceipt, r.receiptId = r'.receiptId →
      r.admissionId = r'.admissionId)
    (hcompleted : sys.flow.store.Completed request.admission o)
    (hauthorizes : sys.flow.store.Authorizes request)
    (hbinds : sys.flow.store.BindsRecon request.command request.scope)
    (hclean : o.cleanupComplete = true)
    (hunfollowed : sys.flow.store.Unfollowed request.admission o) :
    sys.flow.store.Replays request o := by
  have hread := hsound.completedAction_eq hcompleted hauthorizes.action
  obtain ⟨latest, hlatest, hrecorded, hrow, hreceipts⟩ := hunfollowed
  have hplanId : request.command.action.planId = request.admission.flowPlanId := by
    rw [hauthorizes.action, request.admission.planId_bound]
  obtain ⟨store', hrecord, hcheckpoints, hnames⟩ :=
    hsound.recordReceipt_unfollowed hdigest hcompleted hauthorizes hclean hrow hreceipts
  refine ⟨store', latest, ?_, fun r hr hid => ⟨latest, ?_, hnames r hr hid⟩⟩
  · simp only [executeReplan, startReplan, bind_eq_ok, mapError_eq_ok, authorizeReplan_ok]
    refine ⟨_, ⟨(), hauthorizes, (startRecon_completed hread).2
      ⟨hbinds, latest, by rw [hplanId, hlatest], rfl, rfl⟩⟩, ?_⟩
    simp only [bind_eq_ok, pure_eq_ok]
    exact ⟨store', hrecord, rfl⟩
  · unfold RedTeamStore.RecordedAt at hrecorded ⊢
    rw [RedTeamStore.history_congr hcheckpoints]
    exact hrecorded

/-- What an execution that replays has done. -/
theorem of_replays (hsound : sys.Sound)
    (hcompleted : sys.flow.store.Completed request.admission o)
    (hreplays : sys.flow.store.Replays request o) :
    sys.flow.store.Authorizes request ∧
      sys.flow.store.BindsRecon request.command request.scope ∧
      ∃ latest store', sys.flow.store.latest request.admission.flowPlanId = .ok latest ∧
        recordReceipt sys.flow.store request latest o = .ok store' ∧
        store'.ReceiptsName request.admission o := by
  obtain ⟨store', checkpoint, hexec, hnames⟩ := hreplays
  simp only [executeReplan, startReplan, bind_eq_ok, mapError_eq_ok, authorizeReplan_ok] at hexec
  obtain ⟨⟨store₁, start⟩, ⟨-, hauthorizes, hstart⟩, h⟩ := hexec
  have hread := hsound.completedAction_eq hcompleted hauthorizes.action
  obtain ⟨hbinds, latest, hlatest, rfl, rfl⟩ := (startRecon_completed hread).1 hstart
  simp only [bind_eq_ok, pure_eq_ok, Prod.mk.injEq] at h
  obtain ⟨_, hrecord, rfl, -⟩ := h
  rw [hauthorizes.action, request.admission.planId_bound] at hlatest
  exact ⟨hauthorizes, hbinds, latest, _, hlatest, hrecord, hnames⟩

/-- An execution that replays a clean observation was not followed by a checkpoint. -/
theorem unfollowed_of_replays (hsound : sys.Sound)
    (hcompleted : sys.flow.store.Completed request.admission o)
    (hclean : o.cleanupComplete = true) (hreplays : sys.flow.store.Replays request o) :
    sys.flow.store.Unfollowed request.admission o := by
  obtain ⟨hauthorizes, -, latest, store', hlatest, hrecord, hnames⟩ :=
    hsound.of_replays hcompleted hreplays
  obtain ⟨receipt, hreceipt, hid, hresult⟩ := recordReceipt_names hclean hrecord
  have hadmits := admits_of_authorizes hauthorizes
  -- the receipt the execution leaves was there, or is the only change of the store
  have hstore : store'.checkpoints = sys.flow.store.checkpoints ∧
      (∀ r ∈ sys.flow.store.receipts, r ∈ store'.receipts) ∧
      ∃ row ∈ sys.flow.store.admissions, row.admission = request.admission ∧
        row.state = .consumed := by
    rcases recordReceipt_ok hrecord with rfl | ⟨_, -, ⟨row, hrow, hstate⟩, -, rfl⟩
    · obtain ⟨hrow, -⟩ :=
        hsound.receipt_of_admission hadmits hcompleted.observed hreceipt hid
      exact ⟨rfl, fun _ hr => hr, hrow⟩
    · obtain ⟨row', hrow', hadmission, -⟩ := hauthorizes.admitted
      rw [hrow] at hrow'
      cases hrow'
      simp only [RedTeamStore.replanAdmissionRow, orRaise_eq_ok] at hrow
      exact ⟨rfl, fun _ hr => List.mem_append_left _ hr, row, List.mem_of_find?_eq_some hrow,
        hadmission, hstate⟩
  obtain ⟨hcheckpoints, hkept, hrow⟩ := hstore
  have hrecorded : ∀ result, store'.RecordedAt request.admission.flowPlanId result o →
      sys.flow.store.RecordedAt request.admission.flowPlanId result o := by
    intro result h
    unfold RedTeamStore.RecordedAt at h ⊢
    rwa [RedTeamStore.history_congr hcheckpoints] at h
  obtain ⟨result, hat, hnamed⟩ := hnames receipt hreceipt hid
  have hsame : result = latest := by
    refine Table.eq_of_key hsound.flow.keys.checkpoints
      (RedTeamStore.mem_history.1 (hrecorded result hat).1).1 (RedTeamStore.latest_ok hlatest).1 ?_
    rw [← hnamed, hresult]
  subst hsame
  refine ⟨result, hlatest, hrecorded result hat, hrow, fun r hr hrid => ?_⟩
  obtain ⟨result', hat', hnamed'⟩ := hnames r (hkept r hr) hrid
  rw [hnamed', (hrecorded result' hat').eq hsound.flow.histories (hrecorded result hat)]

end ReplanSystem.Sound

/-- After any run, an execution of an admission whose action has completed replays it exactly
when it is authorised and the observation is unclean, so that no receipt is due, or the
checkpoint that recorded it has not been followed by another. -/
theorem replays_iff
    (hdigest : ∀ r r' : RedTeamReplanExecutionReceipt, r.receiptId = r'.receiptId →
      r.admissionId = r'.admissionId)
    (calls : List ReplanCall) {store : RedTeamStore}
    (hrun : (run ReplanSystem.step ReplanSystem.empty calls).flow.store = store)
    {request : ReplanRequest} {o : RedTeamReconObservation}
    (hcompleted : store.Completed request.admission o) :
    store.Replays request o ↔
      store.Authorizes request ∧ store.BindsRecon request.command request.scope ∧
        (o.cleanupComplete = false ∨ store.Unfollowed request.admission o) := by
  subst hrun
  have hsound := ReplanSystem.Sound.run calls
  constructor
  · intro hreplays
    obtain ⟨hauthorizes, hbinds, -⟩ := hsound.of_replays hcompleted hreplays
    refine ⟨hauthorizes, hbinds, ?_⟩
    by_cases hclean : o.cleanupComplete = true
    · exact Or.inr (hsound.unfollowed_of_replays hcompleted hclean hreplays)
    · exact Or.inl (by simpa using hclean)
  · rintro ⟨hauthorizes, hbinds, hcase⟩
    by_cases hclean : o.cleanupComplete = true
    · have hunfollowed := hcase.resolve_left (by simp [hclean])
      exact hsound.replays_unfollowed hdigest hcompleted hauthorizes hbinds hclean hunfollowed
    · exact hsound.replays_unclean hcompleted hauthorizes hbinds (by simpa using hclean)

end

/-! ## An execution that does not replay -/

section

attribute [local instance] textDigests textPolicyDigests hostUrls

/-- The admission of the action `r` at the given checkpoint, with its policy request. -/
def replanAdmission (checkpointId : Digest) : RedTeamReplanAdmission :=
  { sampleAdmission checkpointId with
    policyRequestDigest := "red_team.replan.http_head https://t" }

def replanApproval : ApprovalRequest where
  approvalId := "u"
  engagementId := "g"
  targetId := some "t"
  action := .executeRedTeamAction
  actionDigest := "ar"
  policyVersion := 1
  expiresAt := 90
  status := .granted
  decidedBy := some "b"
  decidedAt := some 2

def replanRequest (now : Time) : ReplanRequest :=
  ⟨replanAdmission "pk1", (replanAdmission "pk1").command, replanApproval, sampleScope, now⟩

/-- A successful observation of the action with the given key. -/
def sampleObservation (key : String) (now : Time) : RedTeamReconObservation where
  actionId := "a" ++ key
  outcome := .succeeded
  statusCode := some 200
  reasonCode := "ok"
  cleanupComplete := true
  sensitiveDataRedacted := true
  attackSurface := none
  serviceIdentity := none
  webResponse := none
  observedAt := now
  isSealed := by
    refine ⟨fun _ => rfl, rfl, ?_, ?_, ?_, Nat.zero_le 1⟩ <;> simp

/-- The admitted action is executed, and its receipt stored. -/
def executedRun : List ReplanCall :=
  [.flow (.create (samplePlan 3 (by decide)) 0), .flow (.start "pk" 0 1),
    .flow (.admitReplan sampleProposal (replanAdmission "pk1")),
    .execute (replanRequest 3) 1, .finish 0 (sampleObservation "r" 4), .receipt 0]

/-- The receipts of two admissions have different digests. -/
theorem receiptId_apart (r r' : RedTeamReplanExecutionReceipt) (h : r.receiptId = r'.receiptId) :
    r.admissionId = r'.admissionId :=
  String.append_right_inj "e" |>.1 h

/-- Executed again right away, the admission replays. -/
theorem executedRun_replays :
    (run ReplanSystem.step ReplanSystem.empty executedRun).flow.store.Replays (replanRequest 6)
      (sampleObservation "r" 4) := by
  refine (replays_iff receiptId_apart executedRun rfl ⟨by decide, by decide, rfl⟩).2
    ⟨?_, ?_, Or.inr ?_⟩
  · refine ⟨⟨_, rfl, by decide, Or.inr (by decide)⟩, rfl, le_rfl, rfl, samplePlan 3 (by decide), ?_⟩
    refine ⟨rfl, by decide, by decide, ?_⟩
    exact ⟨_, rfl, rfl⟩
  · exact ⟨by decide, samplePlan 3 (by decide), rfl, by decide, by decide⟩
  · refine ⟨_, rfl, ?_, by decide, by decide⟩
    unfold RedTeamStore.RecordedAt
    decide

/-- One more action of the flow completes. -/
def followedRun : List ReplanCall :=
  executedRun ++ [.flow (.claim (sampleCommand "pk2" "z") 2 sampleScope),
    .flow (.complete 1 (sampleObservation "z" 5))]

/-- Executed again after the other action, the same request raises. -/
theorem followedRun_drifts :
    (run ReplanSystem.step ReplanSystem.empty followedRun).flow.store.Completed
        (replanAdmission "pk1") (sampleObservation "r" 4) ∧
      executeReplan (run ReplanSystem.step ReplanSystem.empty followedRun).flow.store
          (replanRequest 6) =
        .error (.replanRejected "completed Red Team replan Execution Receipt drifted") ∧
      ¬(run ReplanSystem.step ReplanSystem.empty followedRun).flow.store.Replays
        (replanRequest 6) (sampleObservation "r" 4) := by
  have hraises : executeReplan (run ReplanSystem.step ReplanSystem.empty followedRun).flow.store
      (replanRequest 6) =
        .error (.replanRejected "completed Red Team replan Execution Receipt drifted") := by
    decide +kernel
  refine ⟨⟨by decide, by decide, rfl⟩, hraises, ?_⟩
  rintro ⟨store', checkpoint, hexec, -⟩
  rw [hraises] at hexec
  cases hexec

end

end VulnLoom

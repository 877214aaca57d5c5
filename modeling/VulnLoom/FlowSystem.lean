import VulnLoom.FlowStore
import VulnLoom.Transition

/-!
# The flow system

The store with everyone who works on it. A caller reads a checkpoint and acts on it later,
when it may no longer be the latest one, so a call names the revision it read
(`checkpointRevision`; a stored checkpoint never changes). An execution claims its action,
waits for the adapter (`InFlight`) and then records the observation. A call that raises
changes nothing.

`FlowStep` says once what a call can do to the system; every invariant is proved over it.
-/

open Transition

namespace VulnLoom

variable [RedTeamDigests]

/-! ## Executions -/

/-- The provenance check of `_execute_bound_recon`. -/
def provenanceInvalid (plan : RedTeamFlowPlan) (scope : Scope) (action : RedTeamReconAction)
    (observation : RedTeamReconObservation) : Bool :=
  observation.actionId ≠ action.actionId ∨
  ¬(action.createdAt ≤ observation.observedAt ∧ observation.observedAt < action.deadline) ∨
  ((action.kind = .httpHead ∨ action.kind = .httpGet) ∧ observation.outcome = .succeeded ∧
    (observation.statusCode = none ∨ observation.serviceIdentity ≠ none ∨
      (action.kind = .httpHead ∧ observation.webResponse ≠ none) ∨
      (action.kind = .httpGet ∧ (observation.webResponse = none ∨
        observation.attackSurface ≠ none ∨
        ∃ response ∈ observation.webResponse, response.planId ≠ plan.planId ∨
          response.targetId ≠ plan.target.targetId ∨ response.scopeId ≠ scope.scopeId ∨
          response.scopeVersion ≠ scope.version ∨
          response.requestedUrlDigest ≠ response.finalUrlDigest)))) ∨
  (action.kind = .tlsInspect ∧ observation.outcome = .succeeded ∧
    (observation.statusCode ≠ none ∨ observation.serviceIdentity = none ∨
      observation.attackSurface ≠ none))

/-- An execution between its claim and its completion, with the checkpoint it read. -/
structure InFlight where
  command : RedTeamReconCommand
  checkpoint : RedTeamCheckpoint
  scope : Scope
  deriving DecidableEq

/-- The end of `_execute_bound_recon`, once the adapter has returned. -/
def finishRecon (store : RedTeamStore) (plan : RedTeamFlowPlan) (call : InFlight)
    (observation : RedTeamReconObservation) :
    Except RedTeamError (RedTeamStore × RedTeamCheckpoint) := do
  raiseIf (provenanceInvalid plan call.scope call.command.action observation)
    (.rejected "Red Team Recon observation provenance is invalid")
  let advanced ← recordObservation plan call.checkpoint observation observation.observedAt
  let store ← store.completeAction call.command call.checkpoint advanced observation
  return (store, advanced)

/-! ## Calls -/

structure FlowSystem where
  store : RedTeamStore
  calls : List InFlight
  deriving DecidableEq

def FlowSystem.empty : FlowSystem :=
  ⟨RedTeamStore.empty, []⟩

/-- A call. `create` is the first half of `create_and_start` and `start` its second half;
`claim` is an execution up to its dispatch, with the revision it read; `complete` is the
rest of the execution at the given place, with what its adapter returned. -/
inductive FlowCall
  | create (plan : RedTeamFlowPlan) (now : Time)
  | start (planId : Digest) (revision : ℕ) (now : Time)
  | cancel (planId : Digest) (revision : ℕ) (now : Time)
  | kill (planId : Digest) (revision : ℕ) (now : Time)
  | expire (planId : Digest) (revision : ℕ) (now : Time)
  | claim (command : RedTeamReconCommand) (revision : ℕ) (scope : Scope)
  | complete (place : ℕ) (observation : RedTeamReconObservation)
  | reserveExternal (row : ReservationRow)
  | admitReplan (proposal : RedTeamReplanProposal) (admission : RedTeamReplanAdmission)
  | releaseReplan (admissionId : Digest) (state : AdmissionState)

/-- The checkpoint `create_and_start` plans a flow with. -/
def plannedCheckpoint (plan : RedTeamFlowPlan) (now : Time) :
    Except RedTeamError RedTeamCheckpoint :=
  RedTeamCheckpoint.create
    { planId := plan.planId
      revision := 0
      status := .planned
      actionsUsed := 0
      consecutiveFailures := 0
      observationIds := []
      stopReason := none
      updatedAt := now }

/-- A transition of the checkpoint a caller read, as `start`, `cancel` and `kill` make it. -/
def RedTeamStore.transition (store : RedTeamStore) (planId : Digest) (revision : ℕ)
    (move : RedTeamFlowPlan → RedTeamCheckpoint → Except RedTeamError RedTeamCheckpoint) :
    Except RedTeamError RedTeamStore := do
  let plan ← store.plan planId
  let checkpoint ← store.checkpointRevision planId revision
  let next ← move plan checkpoint
  store.advance checkpoint next

/-- `expire` : a flow that has stopped is left as it is. -/
def RedTeamStore.expire (store : RedTeamStore) (planId : Digest) (revision : ℕ) (now : Time) :
    Except RedTeamError RedTeamStore := do
  let plan ← store.plan planId
  let checkpoint ← store.checkpointRevision planId revision
  let expired ← expireFlow plan checkpoint now
  if expired = checkpoint then return store
  store.advance checkpoint expired

/-- What a call returns; `ok` carries the new system. -/
def FlowSystem.exec (sys : FlowSystem) : FlowCall → Except RedTeamError FlowSystem
  | .create plan now => do
    let planned ← plannedCheckpoint plan now
    let (store, _) ← sys.store.create plan planned
    return { sys with store := store }
  | .start planId revision now => do
    let store ← sys.store.transition planId revision (startFlow · · now)
    return { sys with store := store }
  | .cancel planId revision now => do
    let store ← sys.store.transition planId revision (cancelFlow · · now)
    return { sys with store := store }
  | .kill planId revision now => do
    let store ← sys.store.transition planId revision (activateKillSwitch · · now)
    return { sys with store := store }
  | .expire planId revision now => do
    let store ← sys.store.expire planId revision now
    return { sys with store := store }
  | .claim command revision scope => do
    let checkpoint ← sys.store.checkpointRevision command.action.planId revision
    let (store, replay) ← sys.store.claimAction command
    match replay with
    | some _ => return { sys with store := store }
    | none => return ⟨store, sys.calls ++ [⟨command, checkpoint, scope⟩]⟩
  | .complete place observation => do
    let call ← orRaise sys.calls[place]? (.rejected "no such execution")
    let plan ← sys.store.plan call.command.action.planId
    let (store, _) ← finishRecon sys.store plan call observation
    return { sys with store := store }
  | .reserveExternal row => do
    let store ← sys.store.reserveExternalActions row
    return { sys with store := store }
  | .admitReplan proposal admission => do
    let store ← sys.store.admitReplan proposal admission
    return { sys with store := store }
  | .releaseReplan admissionId state => do
    let store ← sys.store.releaseReplanAdmission admissionId state
    return { sys with store := store }

/-- One call. -/
def FlowSystem.step : FlowSystem → FlowCall → FlowSystem :=
  settle FlowSystem.exec

/-! ## What a call does -/

/-- The keys of the tables are unique, and an execution in flight read a stored checkpoint. -/
structure FlowSystem.WellKeyed (sys : FlowSystem) : Prop where
  plans : (sys.store.plans.map RedTeamFlowPlan.planId).Nodup
  checkpoints : (sys.store.checkpoints.map RedTeamCheckpoint.checkpointId).Nodup
  actions : (sys.store.actions.map fun row => row.action.actionId).Nodup
  observations : (sys.store.observations.map fun row => row.actionId).Nodup
  admissions : (sys.store.admissions.map fun row => row.admission.admissionId).Nodup
  calls : ∀ call ∈ sys.calls, call.checkpoint ∈ sys.store.checkpoints ∧
    call.checkpoint.planId = call.command.action.planId

/-- What a call does to the system. -/
inductive FlowStep (sys : FlowSystem) (call : FlowCall) : FlowSystem → Prop
  /-- an error, a replay, or a claim answered by a recorded observation -/
  | same : FlowStep sys call sys
  | created {plan : RedTeamFlowPlan} {planned : RedTeamCheckpoint} {now : Time}
      (hplanned : plannedCheckpoint plan now = .ok planned)
      (hplan : ∀ r ∈ sys.store.plans, planClash plan r = false)
      (hfresh : ∀ r ∈ sys.store.checkpoints, checkpointClash planned r = false) :
      FlowStep sys call { sys with store := { sys.store with
        plans := sys.store.plans ++ [plan]
        checkpoints := sys.store.checkpoints ++ [planned] } }
  | stopped {plan : RedTeamFlowPlan} {checkpoint next : RedTeamCheckpoint}
      (hplan : plan ∈ sys.store.plans)
      (hlatest : sys.store.latest checkpoint.planId = .ok checkpoint)
      (hstops : Stops plan checkpoint next)
      (hfresh : ∀ r ∈ sys.store.checkpoints, checkpointClash next r = false) :
      FlowStep sys call { sys with store := { sys.store with
        checkpoints := sys.store.checkpoints ++ [next] } }
  | claimed {command : RedTeamReconCommand} {checkpoint latest : RedTeamCheckpoint}
      {plan : RedTeamFlowPlan} {scope : Scope}
      (hread : checkpoint ∈ sys.store.checkpoints)
      (hplanId : checkpoint.planId = command.action.planId)
      (hplan : plan ∈ sys.store.plans ∧ plan.planId = command.action.planId)
      (hlatest : sys.store.latest command.action.planId = .ok latest)
      (hbudget : latest.actionsUsed + sys.store.startedActions command.action.planId +
        sys.store.reservedActions command.action.planId +
        sys.store.reservedReplanActions command.action.planId + 1 ≤ plan.maxActions)
      (hfresh : ∀ r ∈ sys.store.actions, actionClash command.row r = false) :
      FlowStep sys call ⟨{ sys.store with actions := sys.store.actions ++ [command.row] },
        sys.calls ++ [⟨command, checkpoint, scope⟩]⟩
  | claimedReplan {command : RedTeamReconCommand} {checkpoint latest : RedTeamCheckpoint}
      {plan : RedTeamFlowPlan} {scope : Scope} {row : AdmissionRow}
      (hread : checkpoint ∈ sys.store.checkpoints)
      (hplanId : checkpoint.planId = command.action.planId)
      (hplan : plan ∈ sys.store.plans ∧ plan.planId = command.action.planId)
      (hlatest : sys.store.latest command.action.planId = .ok latest)
      (hrow : row ∈ sys.store.admissions)
      (hreserved : row.state = .reserved ∧ row.admission.command.action = command.action)
      (hbudget : latest.actionsUsed + sys.store.startedActions command.action.planId +
        sys.store.reservedActions command.action.planId +
        sys.store.reservedReplanActions command.action.planId ≤ plan.maxActions)
      (hfresh : ∀ r ∈ sys.store.actions, actionClash command.row r = false)
      (hone : Table.rowcount (AdmissionRow.holds row.admission.admissionId)
        sys.store.admissions = 1) :
      FlowStep sys call ⟨{ sys.store with
        actions := sys.store.actions ++ [command.row]
        admissions := Table.update (AdmissionRow.holds row.admission.admissionId)
          (AdmissionRow.setState .consumed) sys.store.admissions },
        sys.calls ++ [⟨command, checkpoint, scope⟩]⟩
  | reclaimed {command : RedTeamReconCommand} {checkpoint : RedTeamCheckpoint} {scope : Scope}
      {row : ActionRow}
      (hread : checkpoint ∈ sys.store.checkpoints)
      (hplanId : checkpoint.planId = command.action.planId)
      (hrow : row ∈ sys.store.actions)
      (haction : row.action = command.action)
      (hone : Table.rowcount (row.awaits command) sys.store.actions = 1)
      (hfree : ∀ r ∈ sys.store.actions, row.awaits command r = false →
        r.commandId ≠ command.commandId) :
      FlowStep sys call ⟨{ sys.store with
        actions := Table.update (row.awaits command) (ActionRow.reclaim command)
          sys.store.actions },
        sys.calls ++ [⟨command, checkpoint, scope⟩]⟩
  | completed {flight : InFlight} {plan : RedTeamFlowPlan} {observation : RedTeamReconObservation}
      {next : RedTeamCheckpoint}
      (hflight : flight ∈ sys.calls)
      (hplan : plan ∈ sys.store.plans)
      (hlatest : sys.store.latest flight.checkpoint.planId = .ok flight.checkpoint)
      (hof : observation.actionId = flight.command.action.actionId)
      (hrecords : Records plan flight.checkpoint observation next)
      (hone : Table.rowcount (ActionRow.claimedBy flight.command) sys.store.actions = 1)
      (hobservation : ∀ r ∈ sys.store.observations, observationClash observation r = false)
      (hfresh : ∀ r ∈ sys.store.checkpoints, checkpointClash next r = false) :
      FlowStep sys call { sys with store := { sys.store with
        actions := Table.update (ActionRow.claimedBy flight.command)
          (ActionRow.complete observation) sys.store.actions
        observations := sys.store.observations ++ [observation]
        checkpoints := sys.store.checkpoints ++ [next] } }
  | reserved {row : ReservationRow} {latest : RedTeamCheckpoint} {plan : RedTeamFlowPlan}
      (hcall : call = .reserveExternal row)
      (hnew : row.actionCount ≠ 0 ∧ sys.store.reservationRow row.reservationId = none)
      (hplan : plan ∈ sys.store.plans ∧ plan.planId = row.planId)
      (hlatest : sys.store.latest row.planId = .ok latest)
      (hcurrent : latest.checkpointId = row.sourceCheckpointId ∧ latest.status = .running)
      (hbudget : latest.actionsUsed + sys.store.startedActions row.planId +
        sys.store.reservedActions row.planId + row.actionCount ≤ plan.maxActions) :
      FlowStep sys call { sys with store := { sys.store with
        reservations := sys.store.reservations ++ [row] } }
  | admitted {proposal : RedTeamReplanProposal} {admission : RedTeamReplanAdmission}
      {latest : RedTeamCheckpoint} {plan : RedTeamFlowPlan}
      (hplan : plan ∈ sys.store.plans ∧ plan.planId = admission.flowPlanId)
      (hlatest : sys.store.latest admission.flowPlanId = .ok latest)
      (hbudget : latest.actionsUsed + sys.store.startedActions admission.flowPlanId +
        sys.store.reservedActions admission.flowPlanId +
        sys.store.reservedReplanActions admission.flowPlanId < plan.maxActions)
      (hfresh : ∀ r ∈ sys.store.admissions,
        admissionClash ⟨proposal.proposalId, admission, .reserved⟩ r = false) :
      FlowStep sys call { sys with store := { sys.store with
        proposals := sys.store.proposals ++ [proposal]
        admissions := sys.store.admissions ++ [⟨proposal.proposalId, admission, .reserved⟩] } }
  | released {admissionId : Digest} {state : AdmissionState}
      (hstate : state ≠ .reserved)
      (hone : Table.rowcount (AdmissionRow.holds admissionId) sys.store.admissions = 1) :
      FlowStep sys call { sys with store := { sys.store with
        admissions := Table.update (AdmissionRow.holds admissionId)
          (AdmissionRow.setState state) sys.store.admissions } }

variable {sys : FlowSystem} {call : FlowCall} {revision : ℕ}

/-- A transition of a stored checkpoint that `Stops` the flow is a step. -/
theorem FlowStep.of_transition (hkeys : sys.WellKeyed) {planId : Digest} {store' : RedTeamStore}
    {move : RedTeamFlowPlan → RedTeamCheckpoint → Except RedTeamError RedTeamCheckpoint}
    (hmove : ∀ {plan checkpoint next}, move plan checkpoint = .ok next →
      Stops plan checkpoint next) (h : sys.store.transition planId revision move = .ok store') :
    FlowStep sys call { sys with store := store' } := by
  simp only [RedTeamStore.transition, bind_eq_ok] at h
  obtain ⟨plan, hplan, checkpoint, hread, next, hnext, hadvance⟩ := h
  obtain ⟨hlatest, hfresh, rfl⟩ := RedTeamStore.advance_ok hkeys.checkpoints
    (RedTeamStore.checkpointRevision_ok hread).1 hadvance
  exact .stopped (RedTeamStore.plan_ok hplan).1 hlatest (hmove hnext) hfresh

theorem FlowStep.of_expire (hkeys : sys.WellKeyed) {planId : Digest} {now : Time}
    {store' : RedTeamStore} (h : sys.store.expire planId revision now = .ok store') :
    FlowStep sys call { sys with store := store' } := by
  simp only [RedTeamStore.expire, bind_eq_ok] at h
  obtain ⟨plan, hplan, checkpoint, hread, next, hnext, h⟩ := h
  split_ifs at h with hsame
  · simp only [pure_eq_ok] at h
    rw [← h]
    exact .same
  · obtain ⟨hlatest, hfresh, rfl⟩ := RedTeamStore.advance_ok hkeys.checkpoints
      (RedTeamStore.checkpointRevision_ok hread).1 h
    have hstops := (expireFlow_ok hnext).resolve_left hsame
    exact .stopped (RedTeamStore.plan_ok hplan).1 hlatest hstops hfresh

variable {sys' : FlowSystem} {command : RedTeamReconCommand}

theorem FlowStep.of_claim {scope : Scope}
    (h : sys.exec (.claim command revision scope) = .ok sys') :
    FlowStep sys (.claim command revision scope) sys' := by
  simp only [FlowSystem.exec, bind_eq_ok] at h
  obtain ⟨checkpoint, hread, ⟨store', replay⟩, hclaim, h⟩ := h
  obtain ⟨hmem, hplanId, -⟩ := RedTeamStore.checkpointRevision_ok hread
  unfold RedTeamStore.claimAction at hclaim
  cases hrow : sys.store.actionRow command with
  | some row =>
    simp only [hrow] at hclaim
    obtain ⟨haction, hcase⟩ := RedTeamStore.reclaimAction_ok hclaim
    rcases hcase with ⟨rfl, hreplay, -⟩ | ⟨-, -, hone, hfree, rfl, rfl⟩
    · obtain ⟨observation, rfl⟩ := Option.isSome_iff_exists.1 hreplay
      simp only [pure_eq_ok] at h
      rw [← h]
      exact .same
    · simp only [pure_eq_ok] at h
      rw [← h]
      exact .reclaimed hmem hplanId (RedTeamStore.actionRow_some hrow) haction hone hfree
  | none =>
    simp only [hrow, bind_eq_ok, pure_eq_ok, Prod.mk.injEq] at hclaim
    obtain ⟨store₁, hnew, rfl, rfl⟩ := hclaim
    simp only [pure_eq_ok] at h
    obtain ⟨latest, plan, hlatest, hplan, -, -, hfresh, hcase⟩ :=
      RedTeamStore.claimNewAction_ok hnew
    rw [← h]
    rcases hcase with ⟨-, hbudget, rfl⟩ | ⟨row, hadm, hreserved, hbudget, hone, rfl⟩
    · exact .claimed hmem hplanId (RedTeamStore.plan_ok hplan) hlatest hbudget hfresh
    · exact .claimedReplan hmem hplanId (RedTeamStore.plan_ok hplan) hlatest
        (List.mem_of_find?_eq_some hadm) hreserved hbudget hfresh hone

theorem FlowStep.of_complete (hkeys : sys.WellKeyed) {place : ℕ}
    {observation : RedTeamReconObservation}
    (h : sys.exec (.complete place observation) = .ok sys') :
    FlowStep sys (.complete place observation) sys' := by
  simp only [FlowSystem.exec, finishRecon, bind_eq_ok, raiseIf_eq_ok, orRaise_eq_ok,
    pure_eq_ok] at h
  obtain ⟨call, hplace, plan, hplan, ⟨store', next'⟩,
    ⟨-, hprovenance, next, hrecord, store₁, hcomplete, hpair⟩, rfl⟩ := h
  cases hpair
  have hcall : call ∈ sys.calls := List.mem_of_getElem? hplace
  obtain ⟨hlatest, hone, hobs, hfresh, rfl⟩ :=
    RedTeamStore.completeAction_ok hkeys.checkpoints (hkeys.calls call hcall).1 hcomplete
  have hof : observation.actionId = call.command.action.actionId := by
    by_contra hne
    exact hprovenance (by simp [provenanceInvalid, hne])
  exact .completed hcall (RedTeamStore.plan_ok hplan).1 hlatest hof
    (recordObservation_ok hrecord) hone hobs hfresh

/-- What a call that returns can do. -/
theorem FlowSystem.exec_ok (hkeys : sys.WellKeyed) (h : sys.exec call = .ok sys') :
    FlowStep sys call sys' := by
  cases call with
  | create plan now =>
    simp only [exec, bind_eq_ok, pure_eq_ok] at h
    obtain ⟨planned, hplanned, ⟨store', result⟩, hcreate, rfl⟩ := h
    rcases RedTeamStore.create_ok hcreate with rfl | ⟨hplan, hfresh, rfl⟩
    · exact .same
    · exact .created hplanned hplan hfresh
  | start planId revision now =>
    simp only [exec, bind_eq_ok, pure_eq_ok] at h
    obtain ⟨store', hmove, rfl⟩ := h
    exact .of_transition hkeys startFlow_ok hmove
  | cancel planId revision now =>
    simp only [exec, bind_eq_ok, pure_eq_ok] at h
    obtain ⟨store', hmove, rfl⟩ := h
    exact .of_transition hkeys cancelFlow_ok hmove
  | kill planId revision now =>
    simp only [exec, bind_eq_ok, pure_eq_ok] at h
    obtain ⟨store', hmove, rfl⟩ := h
    exact .of_transition hkeys activateKillSwitch_ok hmove
  | expire planId revision now =>
    simp only [exec, bind_eq_ok, pure_eq_ok] at h
    obtain ⟨store', hexpire, rfl⟩ := h
    exact .of_expire hkeys hexpire
  | claim command revision scope => exact .of_claim h
  | complete place observation => exact .of_complete hkeys h
  | reserveExternal row =>
    simp only [exec, bind_eq_ok, pure_eq_ok] at h
    obtain ⟨store', hreserve, rfl⟩ := h
    rcases RedTeamStore.reserveExternalActions_ok hreserve with
      rfl | ⟨hnew, latest, plan, hlatest, hplan, hcurrent, hbudget, rfl⟩
    · exact .same
    · exact .reserved rfl hnew (RedTeamStore.plan_ok hplan) hlatest hcurrent hbudget
  | admitReplan proposal admission =>
    simp only [exec, bind_eq_ok, pure_eq_ok] at h
    obtain ⟨store', hadmit, rfl⟩ := h
    rcases RedTeamStore.admitReplan_ok hadmit with
      rfl | ⟨latest, plan, hlatest, hplan, hbudget, hfresh, rfl⟩
    · exact .same
    · exact .admitted (RedTeamStore.plan_ok hplan) hlatest hbudget hfresh
  | releaseReplan admissionId state =>
    simp only [exec, bind_eq_ok, pure_eq_ok] at h
    obtain ⟨store', hrelease, rfl⟩ := h
    obtain ⟨hstate, hone, rfl⟩ := RedTeamStore.releaseReplanAdmission_ok hrelease
    exact .released hstate hone

/-- Every call is a step; one that raises changes nothing. -/
theorem FlowSystem.step_cases (hkeys : sys.WellKeyed) (call : FlowCall) :
    FlowStep sys call (sys.step call) := by
  cases h : sys.exec call with
  | ok sys' =>
    rw [FlowSystem.step, settle_ok h]
    exact exec_ok hkeys h
  | error e =>
    rw [FlowSystem.step, settle_error h]
    exact .same

/-! ## Keys along a run -/

theorem FlowSystem.wellKeyed_empty : FlowSystem.empty.WellKeyed := by
  refine ⟨?_, ?_, ?_, ?_, ?_, ?_⟩ <;> simp [empty, RedTeamStore.empty]

/-- A new checkpoint keeps the keys. -/
theorem FlowSystem.WellKeyed.fresh_checkpoint (hkeys : sys.WellKeyed) {next : RedTeamCheckpoint}
    (hfresh : ∀ r ∈ sys.store.checkpoints, checkpointClash next r = false) :
    ((sys.store.checkpoints ++ [next]).map RedTeamCheckpoint.checkpointId).Nodup ∧
      ∀ call ∈ sys.calls, call.checkpoint ∈ sys.store.checkpoints ++ [next] ∧
        call.checkpoint.planId = call.command.action.planId := by
  constructor
  · refine Table.nodup_key_concat hkeys.checkpoints fun r hr heq => ?_
    have hclash := hfresh r hr
    simp [checkpointClash, heq] at hclash
  · intro call hcall
    obtain ⟨hmem, hplanId⟩ := hkeys.calls call hcall
    exact ⟨List.mem_append_left _ hmem, hplanId⟩

/-- A new execution that read a stored checkpoint keeps what holds of the executions. -/
theorem FlowSystem.WellKeyed.new_call (hkeys : sys.WellKeyed) {call : InFlight}
    (hread : call.checkpoint ∈ sys.store.checkpoints)
    (hplanId : call.checkpoint.planId = call.command.action.planId) :
    ∀ c ∈ sys.calls ++ [call], c.checkpoint ∈ sys.store.checkpoints ∧
      c.checkpoint.planId = c.command.action.planId := by
  intro c hc
  rcases List.mem_append.1 hc with hc | hc
  · exact hkeys.calls c hc
  · rw [List.mem_singleton.1 hc]
    exact ⟨hread, hplanId⟩

theorem FlowSystem.WellKeyed.new_action (hkeys : sys.WellKeyed)
    (hfresh : ∀ r ∈ sys.store.actions, actionClash command.row r = false) :
    ((sys.store.actions ++ [command.row]).map fun row => row.action.actionId).Nodup := by
  refine Table.nodup_key_concat hkeys.actions fun r hr heq => ?_
  have hclash := hfresh r hr
  simp [actionClash, heq] at hclash

theorem FlowSystem.WellKeyed.step (hkeys : sys.WellKeyed) (hstep : FlowStep sys call sys') :
    sys'.WellKeyed := by
  cases hstep with
  | same => exact hkeys
  | created hplanned hplan hfresh =>
    obtain ⟨hcheckpoints, hcalls⟩ := hkeys.fresh_checkpoint hfresh
    refine ⟨?_, hcheckpoints, hkeys.actions, hkeys.observations, hkeys.admissions, hcalls⟩
    refine Table.nodup_key_concat hkeys.plans fun r hr heq => ?_
    have hclash := hplan r hr
    simp [planClash, heq] at hclash
  | stopped hplan hlatest hstops hfresh =>
    obtain ⟨hcheckpoints, hcalls⟩ := hkeys.fresh_checkpoint hfresh
    exact ⟨hkeys.plans, hcheckpoints, hkeys.actions, hkeys.observations, hkeys.admissions, hcalls⟩
  | claimed hread hplanId hplan hlatest hbudget hfresh =>
    exact ⟨hkeys.plans, hkeys.checkpoints, hkeys.new_action hfresh, hkeys.observations,
      hkeys.admissions, hkeys.new_call hread hplanId⟩
  | claimedReplan hread hplanId hplan hlatest hrow hreserved hbudget hfresh hone =>
    refine ⟨hkeys.plans, hkeys.checkpoints, hkeys.new_action hfresh, hkeys.observations, ?_,
      hkeys.new_call hread hplanId⟩
    exact Table.nodup_key_update (fun _ => rfl) hkeys.admissions
  | reclaimed hread hplanId hrow haction hone hfree =>
    refine ⟨hkeys.plans, hkeys.checkpoints, ?_, hkeys.observations, hkeys.admissions,
      hkeys.new_call hread hplanId⟩
    exact Table.nodup_key_update (fun _ => rfl) hkeys.actions
  | completed hflight hplan hlatest hof hrecords hone hobservation hfresh =>
    obtain ⟨hcheckpoints, hcalls⟩ := hkeys.fresh_checkpoint hfresh
    refine ⟨hkeys.plans, hcheckpoints, ?_, ?_, hkeys.admissions, hcalls⟩
    · exact Table.nodup_key_update (fun _ => rfl) hkeys.actions
    · refine Table.nodup_key_concat hkeys.observations fun r hr heq => ?_
      have hclash := hobservation r hr
      simp [observationClash, heq] at hclash
  | reserved hcall hnew hplan hlatest hcurrent hbudget =>
    exact ⟨hkeys.plans, hkeys.checkpoints, hkeys.actions, hkeys.observations, hkeys.admissions,
      hkeys.calls⟩
  | @admitted proposal admission latest plan hplan hlatest hbudget hfresh =>
    refine ⟨hkeys.plans, hkeys.checkpoints, hkeys.actions, hkeys.observations, ?_, hkeys.calls⟩
    refine Table.nodup_key_concat hkeys.admissions fun r hr heq => ?_
    have hclash := hfresh r hr
    simp [admissionClash, heq] at hclash
  | released hstate hone =>
    refine ⟨hkeys.plans, hkeys.checkpoints, hkeys.actions, hkeys.observations, ?_, hkeys.calls⟩
    exact Table.nodup_key_update (fun _ => rfl) hkeys.admissions

end VulnLoom

import VulnLoom.EndpointReconService
import VulnLoom.FlowActions

/-!
# The accounting of endpoint requests

The flow and the endpoint recon service on one machine. Every plan of a seed set is prepared
while the source checkpoint of the set is the latest of its flow, and a request is consumed
after an action of the flow, which has moved the flow on from there. So a set admits no plan
once one of its requests is consumed, and what its reservations are charged with never exceeds
what its flow had left at the source checkpoint (`endpoint_accounting`).
-/

set_option linter.unusedSectionVars false

namespace VulnLoom

open Transition

variable [RedTeamDigests] [EndpointReconDigests] [PolicyDigests] [PythonUrl]

/-! ## The system -/

structure EndpointSystem where
  flow : FlowSystem
  recon : EndpointReconStore

/-- A call on the flow, or a call of the endpoint recon service. `consume` and `stop` are what a
turn of `_run_via_flow` does after the action of its step. -/
inductive EndpointCall
  | flow (call : FlowCall)
  | sealSeeds (flow : RedTeamFlowPlan) (checkpoint : RedTeamCheckpoint) (scope : Scope)
      (operatorRef : String) (paths : List String) (now expiresAt : Time) (idempotencyKey : String)
  | prepare (seedSetId : Digest) (scope : Scope) (testClass : String)
      (limits : EndpointReconLimits) (method : EndpointMethod) (now deadline : Time)
      (idempotencyKey : String)
  | claim (plan : EndpointReconPlan) (now : Time)
  | recover (plan : EndpointReconPlan) (now : Time)
  | consume (plan : EndpointReconPlan) (index : ℕ) (observationIds : List Digest)
      (command : RedTeamReconCommand)
  | stop (plan : EndpointReconPlan) (observation : RedTeamReconObservation)
  | complete (outcome : EndpointReconOutcome)
  | cancel (planId : Digest) (operatorRef : String) (now : Time)
  | expire (planId : Digest) (now : Time)

/-- The charge of a reservation : all its requests, or those it has consumed once it is
released. -/
def EndpointPlanRow.charge (row : EndpointPlanRow) : ℕ :=
  if row.state.isReleased then row.consumedCount else row.plan.requestCount

/-- What the reservations of a seed set are charged with. -/
def EndpointReconStore.charged (recon : EndpointReconStore) (seedSetId : Digest) : ℕ :=
  ((recon.plans.filter fun row => row.plan.seedSetId = seedSetId).map EndpointPlanRow.charge).sum

namespace EndpointSystem

def empty : EndpointSystem :=
  ⟨FlowSystem.empty, EndpointReconStore.empty⟩

def exec (sys : EndpointSystem) : EndpointCall → Except EndpointReconError EndpointSystem
  | .flow call => do
    let flow ← (sys.flow.exec call).mapError .flow
    return { sys with flow := flow }
  | .sealSeeds flow checkpoint scope operatorRef paths now expiresAt idempotencyKey => do
    let (recon, _) ← sealSeedSet sys.flow.store sys.recon flow checkpoint scope operatorRef paths
      now expiresAt idempotencyKey
    return { sys with recon := recon }
  | .prepare seedSetId scope testClass limits method now deadline idempotencyKey => do
    let (recon, _) ← prepareEndpointRecon sys.flow.store sys.recon seedSetId scope testClass limits
      method now deadline idempotencyKey
    return { sys with recon := recon }
  | .claim plan now => do
    let (recon, _) ← sys.recon.claim plan now
    return { sys with recon := recon }
  | .recover plan now => do
    let (recon, _) ← sys.recon.recover plan now
    return { sys with recon := recon }
  | .consume plan index observationIds command => do
    let recon ← consumeStep sys.flow.store sys.recon plan index observationIds command
    return { sys with recon := recon }
  | .stop plan observation => do
    let recon ← stopExecution sys.recon plan observation
    return { sys with recon := recon }
  | .complete outcome => do
    let recon ← sys.recon.complete outcome
    return { sys with recon := recon }
  | .cancel planId operatorRef now => do
    let (recon, _) ← cancelEndpointReservation sys.recon planId operatorRef now
    return { sys with recon := recon }
  | .expire planId now => do
    let (recon, _) ← expireEndpointReservation sys.recon planId now
    return { sys with recon := recon }

/-- The system after a call; a call that raises changes nothing. -/
def step : EndpointSystem → EndpointCall → EndpointSystem :=
  settle exec

end EndpointSystem

/-! ## What a call writes -/

/-- The flow of a plan has moved on from the source checkpoint of the plan. -/
def RedTeamStore.MovedOn (red : RedTeamStore) (plan : EndpointReconPlan) : Prop :=
  ∃ source ∈ red.checkpoints, source.checkpointId = plan.sourceCheckpointId ∧
    ∃ latest, red.latest plan.flowPlanId = .ok latest ∧ source.revision < latest.revision

/-- What a flow has left at the source checkpoint of a seed set. -/
def RedTeamStore.Limits (red : RedTeamStore) (seedSet : EndpointSeedSet) (limit : ℕ) : Prop :=
  ∃ flowPlan ∈ red.plans, ∃ source ∈ red.checkpoints, flowPlan.planId = seedSet.flowPlanId ∧
    source.planId = seedSet.flowPlanId ∧ source.checkpointId = seedSet.sourceCheckpointId ∧
    limit = flowPlan.maxActions - source.actionsUsed

/-- The latest checkpoint of the flow of a seed set is its source checkpoint. -/
structure RedTeamStore.Current (red : RedTeamStore) (seedSet : EndpointSeedSet)
    (flowPlan : RedTeamFlowPlan) (source : RedTeamCheckpoint) : Prop where
  plan : red.plan seedSet.flowPlanId = .ok flowPlan
  latest : red.latest seedSet.flowPlanId = .ok source
  source : seedSet.sourceCheckpointId = source.checkpointId

/-- What a call of the system writes. -/
inductive EndpointWrote (sys sys' : EndpointSystem) : Prop
  | flow (call : FlowCall) (hexec : sys.flow.exec call = .ok sys'.flow)
      (hrecon : sys'.recon = sys.recon)
  | runs (runs : List EndpointRunRow)
      (h : sys' = { sys with recon := { sys.recon with runs := runs } })
  | sealed (seedSet : EndpointSeedSet) (flowPlan : RedTeamFlowPlan) (source : RedTeamCheckpoint)
      (hcurrent : sys.flow.store.Current seedSet flowPlan source)
      (hfresh : ∀ r ∈ sys.recon.seedSets, seedSetClash seedSet r = false)
      (h : sys' = { sys with recon :=
        { sys.recon with seedSets := sys.recon.seedSets ++ [seedSet] } })
  | reserved (plan : EndpointReconPlan) (seedSet : EndpointSeedSet) (flowPlan : RedTeamFlowPlan)
      (source : RedTeamCheckpoint) (hseed : seedSet ∈ sys.recon.seedSets)
      (hcurrent : sys.flow.store.Current seedSet flowPlan source)
      (hplan : plan.seedSetId = seedSet.seedSetId ∧ plan.flowPlanId = seedSet.flowPlanId ∧
        plan.sourceCheckpointId = seedSet.sourceCheckpointId)
      (hfresh : ∀ r ∈ sys.recon.plans, endpointPlanClash plan.row r = false)
      (hfits : sys.recon.outstanding plan.flowPlanId + plan.requestCount ≤
        flowPlan.maxActions - source.actionsUsed)
      (h : sys' = { sys with recon := { sys.recon with plans := sys.recon.plans ++ [plan.row] } })
  | moved (before after : EndpointReconReservation) (recon : EndpointReconStore)
      (hmoved : sys.recon.Moved recon before after)
      (hconsumed : after.consumedRequests = before.consumedRequests ∨
        ∃ row ∈ sys.recon.plans, row.plan.endpointReconPlanId = before.endpointReconPlanId ∧
          sys.flow.store.MovedOn row.plan)
      (h : sys' = { sys with recon := recon })

variable {sys sys' : EndpointSystem}
variable {red : RedTeamStore} {flow : RedTeamFlowPlan} {checkpoint : RedTeamCheckpoint}
  {scope : Scope} {now : Time}

theorem requireRunningFlow_ok (h : requireRunningFlow red flow checkpoint scope now = .ok ()) :
    red.plan flow.planId = .ok flow ∧ red.latest flow.planId = .ok checkpoint := by
  simp only [requireRunningFlow, bind_eq_ok, mapError_eq_ok, raiseIf_eq_ok, not_or, not_not] at h
  obtain ⟨-, -, stored, hstored, -, hsame, latest, hlatest, hcurrent, -⟩ := h
  exact ⟨hsame ▸ hstored, hcurrent ▸ hlatest⟩

variable {recon recon' : EndpointReconStore} {idempotencyKey : String}

theorem sealSeedSet_ok {operatorRef : String} {paths : List String} {expiresAt : Time}
    {result : EndpointSeedSet}
    (h : sealSeedSet red recon flow checkpoint scope operatorRef paths now expiresAt
      idempotencyKey = .ok (recon', result)) :
    recon' = recon ∨ ∃ seedSet, red.Current seedSet flow checkpoint ∧
      (∀ r ∈ recon.seedSets, seedSetClash seedSet r = false) ∧
      recon' = { recon with seedSets := recon.seedSets ++ [seedSet] } := by
  simp only [sealSeedSet, bind_eq_ok, conflictRejected_eq_ok] at h
  obtain ⟨seedSet, hbuild, hseal⟩ := h
  refine (EndpointReconStore.sealSet_ok hseal).imp_right fun hsealed =>
    ⟨seedSet, ?_, hsealed⟩
  simp only [buildSeedSet, bind_eq_ok] at hbuild
  obtain ⟨⟨⟩, hrunning, -, -, seeds, -, -, -, -, -, hcreate⟩ := hbuild
  obtain ⟨hplan, hlatest⟩ := requireRunningFlow_ok hrunning
  unfold EndpointSeedSet.create at hcreate
  split_ifs at hcreate
  obtain rfl := Except.ok.inj hcreate
  exact ⟨hplan, hlatest, rfl⟩

theorem prepareEndpointRecon_ok {seedSetId : Digest} {testClass : String}
    {limits : EndpointReconLimits} {method : EndpointMethod} {deadline : Time}
    {result : EndpointReconPlan}
    (h : prepareEndpointRecon red recon seedSetId scope testClass limits method now deadline
      idempotencyKey = .ok (recon', result)) :
    recon' = recon ∨ ∃ (plan : EndpointReconPlan) (seedSet : EndpointSeedSet)
      (flowPlan : RedTeamFlowPlan) (source : RedTeamCheckpoint), seedSet ∈ recon.seedSets ∧
      red.Current seedSet flowPlan source ∧
      (plan.seedSetId = seedSet.seedSetId ∧ plan.flowPlanId = seedSet.flowPlanId ∧
        plan.sourceCheckpointId = seedSet.sourceCheckpointId) ∧
      (∀ r ∈ recon.plans, endpointPlanClash plan.row r = false) ∧
      recon.outstanding plan.flowPlanId + plan.requestCount ≤
        flowPlan.maxActions - source.actionsUsed ∧
      recon' = { recon with plans := recon.plans ++ [plan.row] } := by
  simp only [prepareEndpointRecon, bind_eq_ok, conflictRejected_eq_ok] at h
  obtain ⟨⟨plan, remaining⟩, hbuild, hreserve⟩ := h
  refine (EndpointReconStore.reserve_ok hreserve).imp_right fun hreserved => ?_
  obtain ⟨hfresh, hfits, hstore⟩ := hreserved
  simp only [buildEndpointPlan, requireSeedBinding, bind_eq_ok, mapError_eq_ok, raiseIf_eq_ok,
    pure_eq_ok, not_or, not_not, Prod.mk.injEq] at hbuild
  obtain ⟨seedSet, hseed, flow, hflow, checkpoint, hlatest, -, ⟨⟨⟩, hrunning, hflowId, hsource, -⟩,
    -, -, -, -, totalAt, -, -, -, steps, -, plan', hcreate, rfl, rfl⟩ := hbuild
  have hvalues := EndpointReconPlan.create_eq_ok.1 hcreate
  obtain ⟨hmem, hid⟩ := EndpointReconStore.seedSet_ok hseed
  refine ⟨plan', seedSet, flow, checkpoint, hmem, ⟨hflow, hflowId ▸ hlatest, hsource⟩,
    ⟨by rw [hvalues], by rw [hvalues, hflowId], by rw [hvalues, hsource]⟩, hfresh, hfits, hstore⟩

variable {command : RedTeamReconCommand} {observation : RedTeamReconObservation}

theorem RedTeamStore.completedAction_ok {store : RedTeamStore}
    (h : store.completedAction command = .ok (some observation)) :
    ∃ row ∈ store.actions, row.action = command.action ∧ row.state = .completed := by
  unfold RedTeamStore.completedAction at h
  split at h
  · cases h
  next row hrow =>
    simp only [bind_eq_ok, raiseIf_eq_ok, not_not] at h
    obtain ⟨-, haction, h⟩ := h
    split_ifs at h with hstate
    · exact ⟨row, RedTeamStore.actionRow_some hrow, haction, hstate⟩
    · cases h

/-- A step whose action is complete has moved its flow on. -/
theorem stepObservation_ok {plan : EndpointReconPlan} {index : ℕ} {observationIds : List Digest}
    (hkeys : (red.checkpoints.map RedTeamCheckpoint.checkpointId).Nodup)
    (hfollow : red.ActionsFollow)
    (h : stepObservation red recon plan index observationIds command = .ok observation) :
    recon.plan plan.endpointReconPlanId = .ok plan ∧ red.MovedOn plan := by
  simp only [stepObservation, expectedCheckpoint, bind_eq_ok, mapError_eq_ok, orRaise_eq_ok,
    raiseIf_eq_ok, pure_eq_ok, not_or, not_not] at h
  obtain ⟨expected, ⟨flow, hflow, source, hsource, expected', hexpected, -, -, rfl⟩, step, -,
    stored, hstored, -, ⟨hsame, haction⟩, replay, hreplay, rfl⟩ := h
  obtain ⟨hmem, hid⟩ := RedTeamStore.checkpoint_ok hsource
  obtain ⟨hmem', -, hrevision⟩ := RedTeamStore.checkpointRevision_ok hexpected
  obtain ⟨row, hrow, hof, hcompleted⟩ := RedTeamStore.completedAction_ok hreplay
  obtain ⟨checkpoint, hcheckpoint, -, hsame', hlater⟩ := hfollow row hrow
  rw [hof, haction] at hsame' hlater
  obtain rfl := Table.eq_of_key hkeys hcheckpoint hmem' hsame'
  obtain ⟨latest, hlatest, hlt⟩ := hlater hcompleted
  exact ⟨hsame ▸ hstored, source, hmem, hid, latest, hlatest, by omega⟩

namespace EndpointSystem

theorem exec_ok {call : EndpointCall}
    (hkeys : (sys.flow.store.checkpoints.map RedTeamCheckpoint.checkpointId).Nodup)
    (hfollow : sys.flow.store.ActionsFollow) (h : sys.exec call = .ok sys') :
    EndpointWrote sys sys' := by
  have hsame : EndpointWrote sys sys := .runs sys.recon.runs rfl
  have hreleased : ∀ {recon : EndpointReconStore}, recon = sys.recon ∨
      (∃ before after, sys.recon.Moved recon before after ∧
        after.consumedRequests = before.consumedRequests) →
      EndpointWrote sys { sys with recon := recon } := by
    rintro recon (rfl | ⟨before, after, hmoved, hconsumed⟩)
    · exact hsame
    · exact .moved before after recon hmoved (Or.inl hconsumed) rfl
  cases call with
  | flow call =>
    simp only [exec, bind_eq_ok, mapError_eq_ok, pure_eq_ok] at h
    obtain ⟨flow, hexec, rfl⟩ := h
    exact .flow call hexec rfl
  | sealSeeds flow checkpoint scope operatorRef paths now expiresAt idempotencyKey =>
    simp only [exec, bind_eq_ok, pure_eq_ok] at h
    obtain ⟨⟨recon, result⟩, hseal, rfl⟩ := h
    rcases sealSeedSet_ok hseal with rfl | ⟨seedSet, hcurrent, hfresh, rfl⟩
    · exact hsame
    · exact .sealed seedSet flow checkpoint hcurrent hfresh rfl
  | prepare seedSetId scope testClass limits method now deadline idempotencyKey =>
    simp only [exec, bind_eq_ok, pure_eq_ok] at h
    obtain ⟨⟨recon, result⟩, hprepare, rfl⟩ := h
    rcases prepareEndpointRecon_ok hprepare with rfl | ⟨plan, seedSet, flowPlan, source, hseed,
      hcurrent, hplan, hfresh, hfits, rfl⟩
    · exact hsame
    · exact .reserved plan seedSet flowPlan source hseed hcurrent hplan hfresh hfits rfl
  | claim plan now =>
    simp only [exec, bind_eq_ok, pure_eq_ok] at h
    obtain ⟨⟨recon, claim⟩, hclaim, rfl⟩ := h
    obtain ⟨runs, rfl⟩ := EndpointReconStore.claim_ok hclaim
    exact .runs runs rfl
  | recover plan now =>
    simp only [exec, bind_eq_ok, pure_eq_ok] at h
    obtain ⟨⟨recon, claim⟩, hrecover, rfl⟩ := h
    obtain ⟨runs, rfl⟩ := EndpointReconStore.recover_ok hrecover
    exact .runs runs rfl
  | complete outcome =>
    simp only [exec, bind_eq_ok, pure_eq_ok] at h
    obtain ⟨recon, hcomplete, rfl⟩ := h
    obtain ⟨runs, rfl⟩ := EndpointReconStore.complete_ok hcomplete
    exact .runs runs rfl
  | consume plan index observationIds command =>
    simp only [exec, consumeStep, bind_eq_ok, pure_eq_ok] at h
    obtain ⟨recon, ⟨observation, hobservation, reservation, hread, hconsume⟩, rfl⟩ := h
    split_ifs at hconsume
    · rw [← pure_eq_ok.1 hconsume]
      exact hsame
    · simp only [bind_eq_ok, pure_eq_ok] at hconsume
      obtain ⟨-, -, ⟨recon', after⟩, hrequest, rfl⟩ := hconsume
      obtain ⟨before, hbefore, hmoved, -⟩ := EndpointReconStore.consumeRequest_ok hrequest
      obtain ⟨hplan, hpast⟩ := stepObservation_ok hkeys hfollow hobservation
      obtain ⟨-, row, hrow, rfl⟩ := EndpointReconStore.plan_ok hplan
      obtain ⟨row', -, hid, hvalues⟩ := EndpointReconStore.reservation_ok hbefore
      refine .moved before after recon' hmoved (Or.inr ⟨row, hrow, ?_, hpast⟩) rfl
      rw [hvalues, ← hid]
      rfl
  | stop plan observation =>
    simp only [exec, stopExecution, bind_eq_ok, pure_eq_ok] at h
    obtain ⟨recon, ⟨reservation, -, hstop⟩, rfl⟩ := h
    split_ifs at hstop
    · exact hreleased (Or.inl (pure_eq_ok.1 hstop).symm)
    · simp only [bind_eq_ok, pure_eq_ok] at hstop
      obtain ⟨⟨recon', after⟩, hcancel, rfl⟩ := hstop
      exact hreleased (EndpointReconStore.cancelReservation_ok hcancel)
  | cancel planId operatorRef now =>
    simp only [exec, cancelEndpointReservation, bind_eq_ok, pure_eq_ok, anyRejected_eq_ok] at h
    obtain ⟨⟨recon, after⟩, ⟨-, -, -, -, -, -, -, -, hcancel⟩, rfl⟩ := h
    exact hreleased (EndpointReconStore.cancelReservation_ok hcancel)
  | expire planId now =>
    simp only [exec, expireEndpointReservation, bind_eq_ok, pure_eq_ok, anyRejected_eq_ok] at h
    obtain ⟨⟨recon, after⟩, ⟨-, -, -, -, hexpire⟩, rfl⟩ := h
    exact hreleased (EndpointReconStore.expireReservation_ok hexpire)

/-! ## The invariant -/

/-- The rows of the stores agree with each other, and every seed set is charged no more than its
limit. -/
structure Sound (sys : EndpointSystem) : Prop where
  flow : sys.flow.Sound
  follow : sys.flow.store.ActionsFollow
  seeds_nodup : (sys.recon.seedSets.map EndpointSeedSet.seedSetId).Nodup
  plans_nodup : (sys.recon.plans.map fun row => row.plan.endpointReconPlanId).Nodup
  coherent : ∀ row ∈ sys.recon.plans, row.reservationValues.Coherent
  plan_seed : ∀ row ∈ sys.recon.plans, ∃ seedSet ∈ sys.recon.seedSets,
    row.plan.seedSetId = seedSet.seedSetId ∧ row.plan.flowPlanId = seedSet.flowPlanId ∧
      row.plan.sourceCheckpointId = seedSet.sourceCheckpointId
  moved_on : ∀ row ∈ sys.recon.plans, row.consumedCount ≠ 0 → sys.flow.store.MovedOn row.plan
  within : ∀ seedSet ∈ sys.recon.seedSets, ∃ limit, sys.flow.store.Limits seedSet limit ∧
    sys.recon.charged seedSet.seedSetId ≤ limit

theorem sound_empty : empty.Sound where
  flow := FlowSystem.Sound.empty
  follow := by simp [RedTeamStore.ActionsFollow, empty, FlowSystem.empty, RedTeamStore.empty]
  seeds_nodup := List.nodup_nil
  plans_nodup := List.nodup_nil
  coherent := by simp [empty, EndpointReconStore.empty]
  plan_seed := by simp [empty, EndpointReconStore.empty]
  moved_on := by simp [empty, EndpointReconStore.empty]
  within := by simp [empty, EndpointReconStore.empty]

/-! ### The flow moves on -/

theorem plans_subset {flow flow' : FlowSystem} {call : FlowCall}
    (hstep : FlowStep flow call flow') :
    flow.store.plans ⊆ flow'.store.plans := by
  cases hstep.checkpointStep with
  | same hplans hcheckpoints => rw [hplans]; exact List.Subset.refl _
  | planned hplanned hplan hplans hcheckpoints => rw [hplans]; exact List.subset_append_left _ _
  | continued hplan hcurrent hlatest hcontinues hok hplans hcheckpoints =>
    rw [hplans]
    exact List.Subset.refl _

theorem Sound.flow_call (hs : sys.Sound) {call : FlowCall}
    (hexec : sys.flow.exec call = .ok sys'.flow) (hrecon : sys'.recon = sys.recon) :
    sys'.Sound := by
  have hstep := FlowSystem.exec_ok hs.flow.keys hexec
  refine ⟨hs.flow.step hstep, hs.follow.step hs.flow hexec, by rw [hrecon]; exact hs.seeds_nodup,
    by rw [hrecon]; exact hs.plans_nodup, by rw [hrecon]; exact hs.coherent,
    by rw [hrecon]; exact hs.plan_seed, ?_, ?_⟩
  · intro row hrow hconsumed
    rw [hrecon] at hrow
    obtain ⟨source, hsource, hid, hlater⟩ := hs.moved_on row hrow hconsumed
    exact ⟨source, hstep.checkpoints_subset hsource, hid, hs.flow.latest_le hstep hlater⟩
  · intro seedSet hseed
    rw [hrecon] at hseed ⊢
    obtain ⟨limit, ⟨flowPlan, hplan, source, hsource, hbound⟩, hle⟩ := hs.within seedSet hseed
    exact ⟨limit, ⟨flowPlan, plans_subset hstep hplan, source, hstep.checkpoints_subset hsource,
      hbound⟩, hle⟩

/-! ### A set is sealed -/

variable {seedSet : EndpointSeedSet} {flowPlan : RedTeamFlowPlan} {source : RedTeamCheckpoint}

/-- The current source checkpoint of a set gives its limit. -/
theorem limits_of_current (h : red.Current seedSet flowPlan source) :
    red.Limits seedSet (flowPlan.maxActions - source.actionsUsed) := by
  obtain ⟨hplan, hplanId⟩ := RedTeamStore.plan_ok h.plan
  obtain ⟨hsource, hsourceId⟩ := RedTeamStore.latest_ok h.latest
  exact ⟨flowPlan, hplan, source, hsource, hplanId, hsourceId, h.source.symm, rfl⟩

theorem Sound.sealed (hs : sys.Sound) (hcurrent : sys.flow.store.Current seedSet flowPlan source)
    (hfresh : ∀ r ∈ sys.recon.seedSets, seedSetClash seedSet r = false) :
    Sound { sys with recon := { sys.recon with seedSets := sys.recon.seedSets ++ [seedSet] } } := by
  have hnew : ∀ r ∈ sys.recon.seedSets, seedSet.seedSetId ≠ r.seedSetId := by
    intro r hr hid
    have hclash := hfresh r hr
    simp [seedSetClash, hid] at hclash
  refine ⟨hs.flow, hs.follow, Table.nodup_key_concat hs.seeds_nodup hnew, hs.plans_nodup,
    hs.coherent, ?_, hs.moved_on, ?_⟩
  · intro row hrow
    obtain ⟨stored, hstored, hbound⟩ := hs.plan_seed row hrow
    exact ⟨stored, List.mem_append_left _ hstored, hbound⟩
  · intro stored hstored
    rcases List.mem_append.1 hstored with hstored | hadded
    · exact hs.within stored hstored
    · obtain rfl := List.mem_singleton.1 hadded
      -- no plan belongs to the new set
      have hempty :
          sys.recon.plans.filter (fun row => row.plan.seedSetId = stored.seedSetId) = [] := by
        refine List.filter_eq_nil_iff.2 fun row hrow hid => ?_
        obtain ⟨owner, howner, hof, -⟩ := hs.plan_seed row hrow
        exact hnew owner howner ((of_decide_eq_true hid).symm.trans hof)
      refine ⟨_, limits_of_current hcurrent, ?_⟩
      rw [EndpointReconStore.charged, hempty]
      exact Nat.zero_le _

/-! ### A plan is reserved -/

variable {recon : EndpointReconStore} {plan : EndpointReconPlan}

theorem charged_concat {seedSetId : Digest} :
    EndpointReconStore.charged { recon with plans := recon.plans ++ [plan.row] } seedSetId =
      recon.charged seedSetId + if plan.seedSetId = seedSetId then plan.requestCount else 0 := by
  rw [EndpointReconStore.charged, List.filter_append, List.map_append, List.sum_append,
    List.filter_singleton, EndpointReconStore.charged]
  by_cases hid : plan.seedSetId = seedSetId
  · simp [hid, EndpointReconPlan.row, EndpointPlanRow.charge,
      EndpointReconReservationState.isReleased]
  · simp [hid, EndpointReconPlan.row]

/-- While the source checkpoint of a set is the latest of its flow, the set is charged with no
more than what the active reservations of the flow still hold. -/
theorem Sound.charged_le_outstanding (hs : sys.Sound) (hseed : seedSet ∈ sys.recon.seedSets)
    (hcurrent : sys.flow.store.Current seedSet flowPlan source) :
    sys.recon.charged seedSet.seedSetId ≤ sys.recon.outstanding seedSet.flowPlanId := by
  refine Table.sum_filter_le fun row hrow hof => ?_
  obtain ⟨owner, howner, hid, hflow, hsource⟩ := hs.plan_seed row hrow
  obtain rfl : owner = seedSet := Table.eq_of_key hs.seeds_nodup howner hseed
    (hid.symm.trans (of_decide_eq_true hof))
  -- a consumed request would have moved the flow on
  have hunused : row.consumedCount = 0 := by
    by_contra hconsumed
    obtain ⟨checkpoint, hmem, hcheckpoint, latest, hlatest, hlt⟩ := hs.moved_on row hrow hconsumed
    rw [hflow, hcurrent.latest] at hlatest
    obtain rfl := Except.ok.inj hlatest
    obtain rfl := Table.eq_of_key hs.flow.keys.checkpoints hmem
      (RedTeamStore.latest_ok hcurrent.latest).1
      (hcheckpoint.trans (hsource.trans hcurrent.source))
    exact absurd hlt (Nat.lt_irrefl _)
  have hcoherent := hs.coherent row hrow
  cases hstate : row.state with
  | active =>
    refine Or.inl ⟨by simp [hflow], ?_⟩
    simp [EndpointPlanRow.charge, hstate, hunused, EndpointReconReservationState.isReleased]
  | consumed =>
    have hall := hcoherent.consumed hstate
    have hone := hcoherent.bounds.1.1
    simp only [EndpointPlanRow.reservationValues] at hall hone
    omega
  | cancelled =>
    exact Or.inr (by simp [EndpointPlanRow.charge, hstate, hunused,
      EndpointReconReservationState.isReleased])
  | expired =>
    exact Or.inr (by simp [EndpointPlanRow.charge, hstate, hunused,
      EndpointReconReservationState.isReleased])

theorem row_coherent (plan : EndpointReconPlan) : plan.row.reservationValues.Coherent where
  bounds := ⟨plan.isSealed.length_bounds, Nat.zero_le _⟩
  consumed_le := Nat.zero_le _
  updated := Nat.le_refl _
  terminal := by simp [EndpointReconPlan.row, EndpointPlanRow.reservationValues]
  active := fun _ => plan.isSealed.length_bounds.1
  consumed := by simp [EndpointReconPlan.row, EndpointPlanRow.reservationValues]
  released := by
    simp [EndpointReconPlan.row, EndpointPlanRow.reservationValues,
      EndpointReconReservationState.isReleased]
  reason := by simp [EndpointReconPlan.row, EndpointPlanRow.reservationValues]

theorem Sound.reserved (hs : sys.Sound) (hseed : seedSet ∈ sys.recon.seedSets)
    (hcurrent : sys.flow.store.Current seedSet flowPlan source)
    (hplan : plan.seedSetId = seedSet.seedSetId ∧ plan.flowPlanId = seedSet.flowPlanId ∧
      plan.sourceCheckpointId = seedSet.sourceCheckpointId)
    (hfresh : ∀ r ∈ sys.recon.plans, endpointPlanClash plan.row r = false)
    (hfits : sys.recon.outstanding plan.flowPlanId + plan.requestCount ≤
      flowPlan.maxActions - source.actionsUsed) :
    Sound { sys with recon := { sys.recon with plans := sys.recon.plans ++ [plan.row] } } := by
  refine ⟨hs.flow, hs.follow, hs.seeds_nodup, Table.nodup_key_concat hs.plans_nodup ?_, ?_, ?_, ?_,
    ?_⟩
  · intro r hr hid
    have hclash := hfresh r hr
    have hid' : plan.endpointReconPlanId = r.plan.endpointReconPlanId := hid
    simp [endpointPlanClash, EndpointReconPlan.clash, EndpointReconPlan.row, hid'] at hclash
  · intro row hrow
    rcases List.mem_append.1 hrow with hrow | hadded
    · exact hs.coherent row hrow
    · rw [List.mem_singleton.1 hadded]
      exact row_coherent plan
  · intro row hrow
    rcases List.mem_append.1 hrow with hrow | hadded
    · exact hs.plan_seed row hrow
    · rw [List.mem_singleton.1 hadded]
      exact ⟨seedSet, hseed, hplan⟩
  · intro row hrow hconsumed
    rcases List.mem_append.1 hrow with hrow | hadded
    · exact hs.moved_on row hrow hconsumed
    · rw [List.mem_singleton.1 hadded] at hconsumed
      exact absurd rfl hconsumed
  · intro stored hstored
    rw [charged_concat]
    by_cases hid : plan.seedSetId = stored.seedSetId
    · obtain rfl : seedSet = stored :=
        Table.eq_of_key hs.seeds_nodup hseed hstored (hplan.1.symm.trans hid)
      have hle := hs.charged_le_outstanding hseed hcurrent
      rw [hplan.2.1] at hfits
      refine ⟨_, limits_of_current hcurrent, ?_⟩
      rw [if_pos hid]
      omega
    · rw [if_neg hid]
      exact hs.within stored hstored

/-! ### A reservation is moved -/

variable {before after : EndpointReconReservation} {row : EndpointPlanRow}

/-- A row that still stands as the reservation was read is the row it was read from. -/
theorem Sound.stands (hs : sys.Sound) (hmoved : sys.recon.Moved recon before after)
    (hrow : row ∈ sys.recon.plans) (hstands : before.stands row = true) :
    before.toEndpointReconReservationValues = row.reservationValues := by
  obtain ⟨read, hread, hvalues⟩ := hmoved.read
  have hid : row.plan.endpointReconPlanId = read.plan.endpointReconPlanId := by
    rw [(of_decide_eq_true hstands).1, hvalues]
    rfl
  rwa [Table.eq_of_key hs.plans_nodup hrow hread hid]

/-- The columns that the new reservation is written over are its own. -/
theorem write_values (hmoves : before.Moves after)
    (hvalues : before.toEndpointReconReservationValues = row.reservationValues) :
    (after.write row).reservationValues = after.toEndpointReconReservationValues := by
  have hplan := hmoves.plan
  have hreserved := hmoves.reserved
  have hcreated := hmoves.created
  rw [hvalues] at hplan hreserved hcreated
  simp only [EndpointPlanRow.reservationValues] at hplan hreserved hcreated
  simp only [EndpointReconReservation.write, EndpointPlanRow.reservationValues, ← hplan,
    ← hreserved, ← hcreated]

/-- A move keeps the charge of a row, or lowers it to what the row has consumed. -/
theorem write_charge_le (hmoves : before.Moves after) (hcoherent : row.reservationValues.Coherent)
    (hvalues : before.toEndpointReconReservationValues = row.reservationValues) :
    (after.write row).charge ≤ row.charge := by
  have hactive : row.state = .active := by
    have hactive := hmoves.active
    rwa [hvalues] at hactive
  have hconsumed : before.consumedRequests = row.consumedCount := by
    rw [hvalues]
    rfl
  have hle : row.consumedCount ≤ row.plan.requestCount := hcoherent.consumed_le
  have hcharge : row.charge = row.plan.requestCount := by
    rw [EndpointPlanRow.charge, hactive]
    rfl
  have hwrite : (after.write row).charge =
      if after.state.isReleased then after.consumedRequests else row.plan.requestCount := rfl
  rw [hcharge, hwrite]
  rcases hmoves.counts with ⟨-, hstate⟩ | ⟨hsame, hstate⟩
  · rw [hstate]
    exact Nat.le_refl _
  · rw [if_pos hstate, hsame, hconsumed]
    exact hle

theorem Sound.moved (hs : sys.Sound) (hmoved : sys.recon.Moved recon before after)
    (hconsumed : after.consumedRequests = before.consumedRequests ∨
      ∃ row ∈ sys.recon.plans, row.plan.endpointReconPlanId = before.endpointReconPlanId ∧
        sys.flow.store.MovedOn row.plan) : Sound { sys with recon := recon } := by
  have hstands : ∀ row ∈ sys.recon.plans, before.stands row = true →
      before.toEndpointReconReservationValues = row.reservationValues :=
    fun row hrow => hs.stands hmoved hrow
  have hmoves := hmoved.moves
  obtain rfl := hmoved.store
  refine ⟨hs.flow, hs.follow, hs.seeds_nodup,
    Table.nodup_key_update (fun _ => rfl) hs.plans_nodup, ?_, ?_, ?_, ?_⟩
  · intro row hrow
    obtain ⟨row₀, hrow₀, rfl⟩ := Table.mem_update.1 hrow
    split_ifs with hsel
    · rw [write_values hmoves (hstands row₀ hrow₀ hsel)]
      exact after.isCoherent
    · exact hs.coherent row₀ hrow₀
  · intro row hrow
    obtain ⟨row₀, hrow₀, rfl⟩ := Table.mem_update.1 hrow
    split_ifs
    · exact hs.plan_seed row₀ hrow₀
    · exact hs.plan_seed row₀ hrow₀
  · intro row hrow hne
    obtain ⟨row₀, hrow₀, rfl⟩ := Table.mem_update.1 hrow
    split_ifs at hne ⊢ with hsel
    · rcases hconsumed with hsame | ⟨read, hread, hid, hpast⟩
      · refine hs.moved_on row₀ hrow₀ fun hzero => hne ?_
        have hvalues := hstands row₀ hrow₀ hsel
        show after.consumedRequests = 0
        rw [hsame, hvalues]
        exact hzero
      · obtain rfl := Table.eq_of_key hs.plans_nodup hrow₀ hread
          ((of_decide_eq_true hsel).1.trans hid.symm)
        exact hpast
    · exact hs.moved_on row₀ hrow₀ hne
  · intro seedSet hseed
    obtain ⟨limit, hlimits, hle⟩ := hs.within seedSet hseed
    refine ⟨limit, hlimits, le_trans ?_ hle⟩
    exact Table.sum_update_le fun row hrow hsel =>
      ⟨rfl, write_charge_le hmoves (hs.coherent row hrow) (hstands row hrow hsel)⟩

/-! ## Every call, every run -/

theorem Sound.wrote (hs : sys.Sound) (h : EndpointWrote sys sys') : sys'.Sound := by
  cases h with
  | flow call hexec hrecon => exact hs.flow_call hexec hrecon
  | runs runs h =>
    subst h
    exact ⟨hs.flow, hs.follow, hs.seeds_nodup, hs.plans_nodup, hs.coherent, hs.plan_seed,
      hs.moved_on, hs.within⟩
  | sealed seedSet flowPlan source hcurrent hfresh h =>
    subst h
    exact hs.sealed hcurrent hfresh
  | reserved plan seedSet flowPlan source hseed hcurrent hplan hfresh hfits h =>
    subst h
    exact hs.reserved hseed hcurrent hplan hfresh hfits
  | moved before after recon hmoved hconsumed h =>
    subst h
    exact hs.moved hmoved hconsumed

theorem Sound.exec_wrote (hs : sys.Sound) {call : EndpointCall} (h : sys.exec call = .ok sys') :
    EndpointWrote sys sys' :=
  exec_ok hs.flow.keys.checkpoints hs.follow h

theorem sound_step (sys : EndpointSystem) (call : EndpointCall) (hs : sys.Sound) :
    (sys.step call).Sound :=
  settle_induction hs fun _ h => hs.wrote (hs.exec_wrote h)

theorem sound_run (calls : List EndpointCall) : (run step empty calls).Sound :=
  run_invariant step sound_step calls sound_empty

/-- A reservation that has ended stays as it is. -/
theorem wrote_settled (h : EndpointWrote sys sys') (hrow : row ∈ sys.recon.plans)
    (hstate : row.state ≠ .active) : row ∈ sys'.recon.plans := by
  cases h with
  | flow call hexec hrecon => rwa [hrecon]
  | runs runs h => rwa [h]
  | sealed seedSet flowPlan source hcurrent hfresh h => rwa [h]
  | reserved plan seedSet flowPlan source hseed hcurrent hplan hfresh hfits h =>
    rw [h]
    exact List.mem_append_left _ hrow
  | moved before after recon hmoved hconsumed h =>
    rw [h, hmoved.store]
    refine Table.mem_update.2 ⟨row, hrow, if_neg fun hsel => hstate ?_⟩
    exact (of_decide_eq_true hsel).2.1.trans hmoved.moves.active

theorem settled_run (calls : List EndpointCall) (hs : sys.Sound) (hrow : row ∈ sys.recon.plans)
    (hstate : row.state ≠ .active) : row ∈ (run step sys calls).recon.plans := by
  have hstep : ∀ (sys : EndpointSystem) (call : EndpointCall),
      (sys.Sound ∧ row ∈ sys.recon.plans) →
        ((sys.step call).Sound ∧ row ∈ (sys.step call).recon.plans) := by
    intro sys call hkept
    have hstays : row ∈ (sys.step call).recon.plans := by
      refine settle_induction (P := fun after : EndpointSystem => row ∈ after.recon.plans)
        hkept.2 fun _ h => ?_
      exact wrote_settled (hkept.1.exec_wrote h) hkept.2 hstate
    exact ⟨sound_step sys call hkept.1, hstays⟩
  exact (run_invariant step hstep calls ⟨hs, hrow⟩).2

/-- In every run of the flow and of the endpoint recon service, no reservation consumes more than
it reserves, it is consumed exactly when it has consumed all of it, one that has ended never
changes, and the reservations of a seed set are charged with no more than what its flow had left
when the set was sealed. -/
theorem endpoint_accounting (calls : List EndpointCall) :
    (∀ row ∈ (run step empty calls).recon.plans,
      row.consumedCount ≤ row.plan.requestCount ∧
      (row.state = .consumed ↔ row.consumedCount = row.plan.requestCount) ∧
      (row.state ≠ .active → ∀ more, row ∈ (run step empty (calls ++ more)).recon.plans)) ∧
    ∀ seedSet ∈ (run step empty calls).recon.seedSets, ∃ limit,
      (run step empty calls).flow.store.Limits seedSet limit ∧
      (run step empty calls).recon.charged seedSet.seedSetId ≤ limit := by
  have hs := sound_run calls
  refine ⟨fun row hrow => ?_, hs.within⟩
  have hcoherent := hs.coherent row hrow
  refine ⟨hcoherent.consumed_le, ⟨hcoherent.consumed, fun hall => ?_⟩, fun hstate more => ?_⟩
  · have hreleased := hcoherent.released
    simp only [EndpointPlanRow.reservationValues] at hreleased
    cases hstate : row.state with
    | consumed => rfl
    | active => exact absurd hall (Nat.ne_of_lt (hcoherent.active hstate))
    | cancelled => exact absurd hall (Nat.ne_of_lt (hreleased (by rw [hstate]; rfl)))
    | expired => exact absurd hall (Nat.ne_of_lt (hreleased (by rw [hstate]; rfl)))
  · rw [run_append]
    exact settled_run more hs hrow hstate

end EndpointSystem

end VulnLoom

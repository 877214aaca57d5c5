import VulnLoom.AttackChainRuns
import VulnLoom.FlowBudget
import Mathlib.Data.Finset.Insert

/-!
# The creation of an attack chain

`AttackChainService.create_and_start` reserves the actions of a chain in the flow store and
then creates and starts the chain in its own store. The two transactions have no common
rollback : `create_and_start_keeps_budget_iff` says when a call that raises has changed the
budget of the flow.
-/

set_option linter.unusedSectionVars false

namespace VulnLoom

open Transition

section

variable [RedTeamDigests] [AttackDigests]

/-! ## The service -/

/-- `_flow_preflight`. -/
def flowPreflight (flow : RedTeamStore) (flowPlan : RedTeamFlowPlan) (flowCheckpointId : Digest)
    (graph : AttackGraph) (scope : Scope) (now : Time) : Except AttackError RedTeamCheckpoint := do
  let checkpoint ← (flow.latest flowPlan.planId).mapError .flow
  let prohibited : Finset ImpactClass :=
    {.realCredential, .externalCallback, .lateralMovement, .persistence}
  raiseIf (scope.state ≠ .approved ∨ ¬(scope.validFrom ≤ now ∧ now < scope.validUntil) ∨
      flowPlan.rules.scopeId ≠ scope.scopeId ∨ flowPlan.rules.scopeVersion ≠ scope.version ∨
      checkpoint.checkpointId ≠ flowCheckpointId ∨ checkpoint.status ≠ .running ∨
      flowPlan.deadline ≤ now ∨ flowPlan.rules.approvalRequiredImpacts ≠ [.stateChange] ∨
      flowPlan.rules.prohibitedImpacts.toFinset ≠ prohibited ∨
      graph.flowPlanId ≠ flowPlan.planId ∨ graph.targetId ≠ flowPlan.target.targetId ∨
      graph.scopeId ≠ scope.scopeId ∨ graph.scopeVersion ≠ scope.version)
    (.chainRejected "Attack Chain Flow boundary is invalid or stopped")
  return checkpoint

/-- The row that the creation of a chain inserts in the flow store. -/
def AttackChainPlan.parentReservation (plan : AttackChainPlan) (flowPlan : RedTeamFlowPlan) :
    ReservationRow where
  reservationId := plan.chainPlanId
  planId := flowPlan.planId
  sourceCheckpointId := plan.expectedFlowCheckpointId
  actionCount := plan.graph.actions.length

/-- The transactions of a creation on the chain store : the store after them, and the answer. -/
def createAndStartChain (chain : AttackChainStore) (plan : AttackChainPlan)
    (planned : AttackChainCheckpoint) (flowActionsUsed flowMaxActions : ℕ) (now : Time) :
    AttackChainStore × Except AttackError AttackChainCheckpoint :=
  reading chain (chain.create plan planned flowActionsUsed flowMaxActions) fun (chain, current) =>
  if current.status = .planned then
    reading chain (startAttackChain plan current now) fun running =>
    reading chain (chain.advance current running false) fun chain => (chain, .ok running)
  else (chain, .ok current)

/-- `create_and_start` : both stores after the call, and its answer. -/
def createAndStart (flow : RedTeamStore) (chain : AttackChainStore) (plan : AttackChainPlan)
    (scope : Scope) (now : Time) :
    (RedTeamStore × AttackChainStore) × Except AttackError AttackChainCheckpoint :=
  reading (flow, chain) ((flow.plan plan.graph.flowPlanId).mapError .flow) fun flowPlan =>
  reading (flow, chain) (flowPreflight flow flowPlan plan.expectedFlowCheckpointId plan.graph
    scope now) fun _ =>
  reading (flow, chain) (plannedAttack plan now) fun planned =>
  reading (flow, chain) ((flow.reserveExternalActions (plan.parentReservation flowPlan)).mapError
    .flow) fun flow =>
  reading (flow, chain) ((flow.latest flowPlan.planId).mapError .flow) fun flowCheckpoint =>
  let (chain, answer) := createAndStartChain chain plan planned flowCheckpoint.actionsUsed
    flowPlan.maxActions now
  ((flow, chain), answer)

/-! ## When the chain store accepts -/

namespace AttackChainStore

/-- The store with the rows of a new chain. -/
def withChain (chain : AttackChainStore) (plan : AttackChainPlan)
    (planned : AttackChainCheckpoint) : AttackChainStore :=
  { chain with
    plans := chain.plans ++ [plan]
    reservations := chain.reservations ++ [plan.reservation]
    checkpoints := chain.checkpoints ++ [planned] }

/-- The start of a chain from `current` stores a checkpoint whose keys are unused. -/
def Starts (chain : AttackChainStore) (plan : AttackChainPlan) (current : AttackChainCheckpoint)
    (now : Time) : Prop :=
  ∃ running, startAttackChain plan current now = .ok running ∧
    ∀ r ∈ chain.checkpoints, attackCheckpointClash running r = false

/-- The plan is stored with its reservation and a checkpoint, and its chain has started or can
start. -/
structure Known (chain : AttackChainStore) (plan : AttackChainPlan) (now : Time) : Prop where
  plan_stored : (chain.plans.find? fun row => row.idempotencyKey = plan.idempotencyKey) = some plan
  reservation_stored : chain.reservationRow plan.chainPlanId = some plan.reservation
  starts : ∃ current, chain.latest plan.chainPlanId = .ok current ∧
    (current.status = .planned → chain.Starts plan current now)

/-- No stored plan has the idempotency key, no row the identifier, of the plan, and its actions
fit in what the flow has left for its chains. -/
structure Takes (chain : AttackChainStore) (plan : AttackChainPlan)
    (planned : AttackChainCheckpoint) (flowActionsUsed flowMaxActions : ℕ) (now : Time) :
    Prop where
  key_unused : ∀ row ∈ chain.plans, row.idempotencyKey ≠ plan.idempotencyKey
  fits : flowActionsUsed + chain.reservedActions plan.graph.flowPlanId +
    plan.graph.actions.length ≤ flowMaxActions
  plan_unused : ∀ row ∈ chain.plans, row.chainPlanId ≠ plan.chainPlanId
  reservation_unused : ∀ row ∈ chain.reservations, row.chainPlanId ≠ plan.chainPlanId
  chain_unused : ∀ r ∈ chain.checkpoints, r.chainPlanId ≠ plan.chainPlanId
  checkpoint_unused : ∀ r ∈ chain.checkpoints, r.checkpointId ≠ planned.checkpointId
  starts : (chain.withChain plan planned).Starts plan planned now

/-- What the creation of a chain needs of its store. -/
def Accepts (chain : AttackChainStore) (plan : AttackChainPlan) (planned : AttackChainCheckpoint)
    (flowActionsUsed flowMaxActions : ℕ) (now : Time) : Prop :=
  chain.Known plan now ∨ chain.Takes plan planned flowActionsUsed flowMaxActions now

variable {chain chain' : AttackChainStore} {plan : AttackChainPlan}
  {planned current running : AttackChainCheckpoint} {flowActionsUsed flowMaxActions : ℕ}
  {now : Time}

/-- The answers of `create`. -/
theorem create_eq_ok : chain.create plan planned flowActionsUsed flowMaxActions =
      .ok (chain', current) ↔ flowActionsUsed ≤ flowMaxActions ∧
    (((chain.plans.find? fun row => row.idempotencyKey = plan.idempotencyKey) = some plan ∧
        chain.reservationRow plan.chainPlanId = some plan.reservation ∧
        chain.latest plan.chainPlanId = .ok current ∧ chain' = chain) ∨
      ((∀ row ∈ chain.plans, row.idempotencyKey ≠ plan.idempotencyKey) ∧
        flowActionsUsed + chain.reservedActions plan.graph.flowPlanId +
          plan.graph.actions.length ≤ flowMaxActions ∧
        (∀ row ∈ chain.plans, row.chainPlanId ≠ plan.chainPlanId) ∧
        (∀ row ∈ chain.reservations, row.chainPlanId ≠ plan.chainPlanId) ∧
        (∃ row ∈ chain.plans ++ [plan], row.chainPlanId = planned.chainPlanId) ∧
        (∀ r ∈ chain.checkpoints, attackCheckpointClash planned r = false) ∧
        current = planned ∧ chain' = chain.withChain plan planned)) := by
  rw [create, bind_eq_ok]
  simp only [raiseIf_eq_ok, not_lt, exists_and_left, exists_const]
  refine and_congr_right fun _ => ?_
  cases hfind : chain.plans.find? fun row => row.idempotencyKey = plan.idempotencyKey with
  | some existing =>
    have hstored : ¬∀ row ∈ chain.plans, row.idempotencyKey ≠ plan.idempotencyKey := by
      intro hall
      exact hall existing (List.mem_of_find?_eq_some hfind) (by simpa using List.find?_some hfind)
    simp only [bind_eq_ok, raiseIf_eq_ok, not_not, pure_eq_ok, Prod.mk.injEq, Option.some_inj,
      hstored, false_and, or_false, exists_and_left, exists_const]
    constructor
    · rintro ⟨rfl, hreservation, latest, hlatest, rfl, rfl⟩
      exact ⟨rfl, hreservation, hlatest, rfl⟩
    · rintro ⟨rfl, hreservation, hlatest, rfl⟩
      exact ⟨rfl, hreservation, current, hlatest, rfl, rfl⟩
  | none =>
    have hunused : ∀ row ∈ chain.plans, row.idempotencyKey ≠ plan.idempotencyKey := by
      simpa using hfind
    have hplans : (∀ row ∈ chain.plans, attackPlanClash plan row = false) ↔
        ∀ row ∈ chain.plans, row.chainPlanId ≠ plan.chainPlanId := by
      refine forall₂_congr fun row hrow => ?_
      have hkey := hunused row hrow
      simp [attackPlanClash, hkey.symm, eq_comm]
    have hreservations : (∀ row ∈ chain.reservations,
        attackReservationClash plan.reservation row = false) ↔
          ∀ row ∈ chain.reservations, row.chainPlanId ≠ plan.chainPlanId := by
      refine forall₂_congr fun row _ => ?_
      simp [attackReservationClash, AttackChainPlan.reservation, eq_comm]
    simp only [insertCheckpoint, bind_eq_ok, raiseIf_eq_ok, orRaise_eq_ok, pure_eq_ok, not_lt,
      not_not, Table.insert_eq_some, Prod.mk.injEq, hplans, hreservations, reduceCtorEq,
      false_and, false_or, exists_and_left, exists_const]
    constructor
    · rintro ⟨hfits, -, ⟨hplan, rfl⟩, -, ⟨hreservation, rfl⟩, -, ⟨hof, -, ⟨hclash, rfl⟩, rfl⟩, rfl,
        rfl⟩
      exact ⟨hunused, hfits, hplan, hreservation, hof, hclash, rfl, rfl⟩
    · rintro ⟨-, hfits, hplan, hreservation, hof, hclash, rfl, rfl⟩
      exact ⟨hfits, _, ⟨hplan, rfl⟩, _, ⟨hreservation, rfl⟩, _, ⟨hof, _, ⟨hclash, rfl⟩, rfl⟩, rfl,
        rfl⟩

/-- A chain starts from `current` while that is its latest checkpoint and the keys of its start
are unused. -/
theorem start_isOk {latest : AttackChainCheckpoint} (hplan : plan ∈ chain.plans)
    (hof : current.chainPlanId = plan.chainPlanId)
    (hlatest : chain.latest plan.chainPlanId = .ok latest) :
    (∃ chain' answer, reading chain (startAttackChain plan current now) (fun running =>
        reading chain (chain.advance current running false) fun chain => (chain, .ok running)) =
          (chain', .ok answer)) ↔
      latest.checkpointId = current.checkpointId ∧ chain.Starts plan current now := by
  have hadvance : ∀ running, startAttackChain plan current now = .ok running →
      ((∃ chain', chain.advance current running false = .ok chain') ↔
        latest.checkpointId = current.checkpointId ∧
          ∀ r ∈ chain.checkpoints, attackCheckpointClash running r = false) := by
    intro running hstart
    obtain ⟨-, hcontinues, -⟩ := startAttackChain_ok hstart
    have hstored : ∃ row ∈ chain.plans, row.chainPlanId = running.chainPlanId :=
      ⟨plan, hplan, by rw [hcontinues.chainPlanId, hof]⟩
    have hassert : chain.assertLatest current = .ok () ↔
        latest.checkpointId = current.checkpointId := by
      simp [assertLatest, hof, hlatest]
    constructor
    · rintro ⟨chain', hok⟩
      simp only [advance, bind_eq_ok] at hok
      obtain ⟨-, -, ⟨⟩, hcurrent, hinsert⟩ := hok
      exact ⟨hassert.1 hcurrent, (insertCheckpoint_ok hinsert).1⟩
    · rintro ⟨hsame, hclash⟩
      refine ⟨{ chain with checkpoints := chain.checkpoints ++ [running] }, ?_⟩
      simp only [advance, insertCheckpoint, bind_eq_ok, raiseIf_eq_ok, orRaise_eq_ok, pure_eq_ok,
        Table.insert_eq_some, not_not]
      exact ⟨(), hcontinues.revision, (), hassert.2 hsame, (), hstored, _, ⟨hclash, rfl⟩, rfl⟩
  simp only [reading_eq_ok, Prod.mk.injEq, Except.ok.injEq]
  constructor
  · rintro ⟨chain', answer, running, hstart, chain'', hok, -, -⟩
    obtain ⟨hsame, hclash⟩ := (hadvance running hstart).1 ⟨chain'', hok⟩
    exact ⟨hsame, running, hstart, hclash⟩
  · rintro ⟨hsame, running, hstart, hclash⟩
    obtain ⟨chain'', hok⟩ := (hadvance running hstart).2 ⟨hsame, hclash⟩
    exact ⟨chain'', running, running, hstart, chain'', hok, rfl, rfl⟩

/-- The planned checkpoint of a new chain is its latest one unless a later one is stored. -/
theorem latest_withChain (hof : planned.chainPlanId = plan.chainPlanId)
    (hrevision : planned.revision = 0)
    (hunused : ∀ r ∈ chain.checkpoints, r.checkpointId ≠ planned.checkpointId) :
    ∃ latest, (chain.withChain plan planned).latest plan.chainPlanId = .ok latest ∧
      (latest.checkpointId = planned.checkpointId ↔
        ∀ r ∈ chain.checkpoints, r.chainPlanId ≠ plan.chainPlanId) := by
  have hhistory : (chain.withChain plan planned).history plan.chainPlanId =
      chain.history plan.chainPlanId ++ [planned] := by
    have hconcat : (chain.withChain plan planned).history plan.chainPlanId =
        chain.history plan.chainPlanId ++ _ := history_concat rfl
    rw [hconcat, if_pos hof]
  rw [latest, hhistory, List.argmax_concat]
  cases hold : (chain.history plan.chainPlanId).argmax fun checkpoint => checkpoint.revision with
  | none =>
    refine ⟨planned, rfl, iff_of_true rfl fun r hr hid => ?_⟩
    have hmem := mem_history.2 ⟨hr, hid⟩
    rw [List.argmax_eq_none.1 hold] at hmem
    cases hmem
  | some other =>
    obtain ⟨hmem, hid⟩ := mem_history.1 (List.argmax_mem hold)
    refine ⟨other, ?_, iff_of_false (hunused other hmem) fun hall => hall other hmem hid⟩
    simp [hrevision, orRaise]

/-- The chain store creates and starts a chain exactly when it accepts it. -/
theorem createAndStartChain_isOk (hplanned : plannedAttack plan now = .ok planned)
    (hused : flowActionsUsed ≤ flowMaxActions) :
    (∃ chain' answer, createAndStartChain chain plan planned flowActionsUsed flowMaxActions now =
      (chain', .ok answer)) ↔ chain.Accepts plan planned flowActionsUsed flowMaxActions now := by
  obtain ⟨hof, hrevision, -⟩ := ChainPath.values_of_planned hplanned
  have hstatus : planned.status = .planned := by
    rw [AttackChainCheckpoint.create_eq_ok.1 hplanned]
  have hmem : plan ∈ (chain.withChain plan planned).plans := by simp [withChain]
  simp only [createAndStartChain, reading_eq_ok, Prod.exists, create_eq_ok]
  constructor
  · rintro ⟨chain', answer, chain₁, current, ⟨-, hcreated⟩, hstarted⟩
    rcases hcreated with ⟨hplan, hreservation, hlatest, rfl⟩ | ⟨hkey, hfits, hplans, hreservations,
      -, hclash, rfl, rfl⟩
    · refine Or.inl ⟨hplan, hreservation, current, hlatest, fun hcurrent => ?_⟩
      rw [if_pos hcurrent] at hstarted
      exact ((start_isOk (List.mem_of_find?_eq_some hplan) (latest_ok hlatest).2 hlatest).1
        ⟨chain', answer, hstarted⟩).2
    · rw [if_pos hstatus] at hstarted
      have hunused : ∀ r ∈ chain.checkpoints, r.checkpointId ≠ current.checkpointId := by
        intro r hr hid
        have hfresh := hclash r hr
        simp [attackCheckpointClash, hid] at hfresh
      obtain ⟨latest, hlatest, hsame⟩ := latest_withChain hof hrevision hunused
      obtain ⟨hlast, hstarts⟩ := (start_isOk hmem hof hlatest).1 ⟨chain', answer, hstarted⟩
      exact Or.inr ⟨hkey, hfits, hplans, hreservations, hsame.1 hlast, hunused, hstarts⟩
  · rintro (⟨hplan, hreservation, current, hlatest, hstarts⟩ | htakes)
    · by_cases hcurrent : current.status = .planned
      · obtain ⟨chain', answer, hstarted⟩ := (start_isOk (List.mem_of_find?_eq_some hplan)
          (latest_ok hlatest).2 hlatest).2 ⟨rfl, hstarts hcurrent⟩
        exact ⟨chain', answer, chain, current, ⟨hused, Or.inl ⟨hplan, hreservation, hlatest, rfl⟩⟩,
          by rw [if_pos hcurrent]; exact hstarted⟩
      · exact ⟨chain, current, chain, current,
          ⟨hused, Or.inl ⟨hplan, hreservation, hlatest, rfl⟩⟩, by rw [if_neg hcurrent]⟩
    · obtain ⟨latest, hlatest, hsame⟩ := latest_withChain hof hrevision htakes.checkpoint_unused
      obtain ⟨chain', answer, hstarted⟩ := (start_isOk hmem hof hlatest).2
        ⟨hsame.2 htakes.chain_unused, htakes.starts⟩
      have hclash : ∀ r ∈ chain.checkpoints, attackCheckpointClash planned r = false := by
        intro r hr
        have hchain := htakes.chain_unused r hr
        have hid := htakes.checkpoint_unused r hr
        simp [attackCheckpointClash, hof, hchain.symm, hid.symm]
      exact ⟨chain', answer, chain.withChain plan planned, planned, ⟨hused, Or.inr
        ⟨htakes.key_unused, htakes.fits, htakes.plan_unused, htakes.reservation_unused,
          ⟨plan, by simp, hof.symm⟩, hclash, rfl, rfl⟩⟩, by rw [if_pos hstatus]; exact hstarted⟩

end AttackChainStore

/-! ## The budget of the flow -/

/-- The external reservations and the remaining budget of a flow are what they were. -/
def RedTeamStore.BudgetKept (before after : RedTeamStore) (planId : Digest) : Prop :=
  after.reservedActions planId = before.reservedActions planId ∧
    after.remainingActionBudget planId = before.remainingActionBudget planId

/-- Where the flow store admits a reservation it does not have yet, the chain store accepts the
chain. -/
def CreationAgrees (flow : RedTeamStore) (chain : AttackChainStore) (plan : AttackChainPlan)
    (scope : Scope) (now : Time) : Prop :=
  ∀ flowPlan checkpoint planned, flow.plan plan.graph.flowPlanId = .ok flowPlan →
    flowPreflight flow flowPlan plan.expectedFlowCheckpointId plan.graph scope now =
      .ok checkpoint →
    plannedAttack plan now = .ok planned →
    flow.reservationRow plan.chainPlanId = none →
    checkpoint.actionsUsed + flow.startedActions flowPlan.planId +
      flow.reservedActions flowPlan.planId + plan.graph.actions.length ≤ flowPlan.maxActions →
    chain.Accepts plan planned checkpoint.actionsUsed flowPlan.maxActions now

variable {flow flow' : RedTeamStore} {chain chain' : AttackChainStore} {plan : AttackChainPlan}
  {scope : Scope} {now : Time}

variable {flowPlan : RedTeamFlowPlan} {checkpoint : RedTeamCheckpoint}

theorem flowPreflight_ok {flowCheckpointId : Digest} {graph : AttackGraph}
    (h : flowPreflight flow flowPlan flowCheckpointId graph scope now = .ok checkpoint) :
    flow.latest flowPlan.planId = .ok checkpoint ∧
      checkpoint.checkpointId = flowCheckpointId ∧ checkpoint.status = .running := by
  simp only [flowPreflight, bind_eq_ok, mapError_eq_ok, raiseIf_eq_ok, pure_eq_ok, not_or,
    not_not] at h
  obtain ⟨latest, hlatest, -, ⟨-, -, -, -, hid, hrunning, -⟩, rfl⟩ := h
  exact ⟨hlatest, hid, hrunning⟩

/-- After its reservation, a call does what its transactions on the chain store do. -/
theorem createAndStart_reserved {planned : AttackChainCheckpoint}
    {answer : Except AttackError AttackChainCheckpoint}
    (hplan : flow.plan plan.graph.flowPlanId = .ok flowPlan)
    (hpreflight : flowPreflight flow flowPlan plan.expectedFlowCheckpointId plan.graph scope now =
      .ok checkpoint) (hplanned : plannedAttack plan now = .ok planned)
    (hreserve : flow.reserveExternalActions (plan.parentReservation flowPlan) = .ok flow')
    (hlatest : flow'.latest flowPlan.planId = .ok checkpoint)
    (hcall : createAndStartChain chain plan planned checkpoint.actionsUsed flowPlan.maxActions
      now = (chain', answer)) :
    createAndStart flow chain plan scope now = ((flow', chain'), answer) := by
  simp only [createAndStart, reading, hplan, hpreflight, hplanned, hreserve, hlatest,
    Except.mapError, hcall]

/-- A call that raises keeps the budget of the flow in every case exactly when the chain store
accepts each chain whose reservation the flow store newly admits. -/
theorem create_and_start_keeps_budget_iff (flow : RedTeamStore) (chain : AttackChainStore)
    (plan : AttackChainPlan) (scope : Scope) (now : Time) :
    (∀ flow' chain' e, createAndStart flow chain plan scope now = ((flow', chain'), .error e) →
      flow.BudgetKept flow' plan.graph.flowPlanId) ↔
      CreationAgrees flow chain plan scope now := by
  have hkept : ∀ {flow' : RedTeamStore}, flow' = flow →
      flow.BudgetKept flow' plan.graph.flowPlanId := by
    rintro _ rfl
    exact ⟨rfl, rfl⟩
  have hcount : plan.graph.actions.length ≠ 0 := by
    have hlength := plan.graph.length_bounds.1
    omega
  constructor
  · intro hraises flowPlan checkpoint planned hplan hpreflight hplanned hnew hfits
    obtain ⟨hlatest, hid, hrunning⟩ := flowPreflight_ok hpreflight
    have hof := (RedTeamStore.plan_ok hplan).2
    have hreserves : (plan.parentReservation flowPlan).planId = plan.graph.flowPlanId := hof
    have hreserve :
        flow.reserveExternalActions (plan.parentReservation flowPlan) =
          .ok { flow with
            reservations := flow.reservations ++ [plan.parentReservation flowPlan] } := by
      refine RedTeamStore.reserveExternalActions_new hcount hnew hlatest ?_ ⟨hid, hrunning⟩ hfits
      rw [hreserves]
      exact hplan
    by_contra hrefused
    have hanswer := mt (AttackChainStore.createAndStartChain_isOk hplanned (by omega)).1 hrefused
    rcases hcall : createAndStartChain chain plan planned checkpoint.actionsUsed
      flowPlan.maxActions now with ⟨chain', e | answer⟩
    · obtain ⟨hreserved, -⟩ := hraises _ chain' e
        (createAndStart_reserved hplan hpreflight hplanned hreserve hlatest hcall)
      rw [RedTeamStore.reservedActions_reserve, if_pos hreserves] at hreserved
      change _ + plan.graph.actions.length = _ at hreserved
      omega
    · exact hanswer ⟨chain', answer, hcall⟩
  · intro hagrees flow' chain' e hcall
    have h := hcall
    simp only [createAndStart, reading_eq_error, mapError_eq_ok, Prod.mk.injEq] at h
    rcases h with ⟨⟨rfl, -⟩, -⟩ | ⟨flowPlan, hplan, ⟨⟨rfl, -⟩, -⟩ | ⟨checkpoint, hpreflight,
      ⟨⟨rfl, -⟩, -⟩ | ⟨planned, hplanned, ⟨⟨rfl, -⟩, -⟩ | ⟨reserved, hreserve, h⟩⟩⟩⟩
    · exact hkept rfl
    · exact hkept rfl
    · exact hkept rfl
    · exact hkept rfl
    · obtain ⟨hlatest, hid, hrunning⟩ := flowPreflight_ok hpreflight
      have hsame : flow' = reserved := by
        rcases h with ⟨⟨rfl, -⟩, -⟩ | ⟨flowCheckpoint, -, ⟨rfl, -⟩, -⟩ <;> rfl
      rcases RedTeamStore.reserveExternalActions_ok hreserve with hreserved | ⟨⟨-, hnew⟩, latest,
        flowPlan', hlatest', hplan', -, hfits, rfl⟩
      · exact hkept (hsame.trans hreserved)
      · -- the reservation is new, so the chain store accepts, and the call does not raise
        obtain rfl : latest = checkpoint := Except.ok.inj (hlatest'.symm.trans hlatest)
        obtain rfl : flowPlan' = flowPlan := by
          have hof : (plan.parentReservation flowPlan).planId = plan.graph.flowPlanId :=
            (RedTeamStore.plan_ok hplan).2
          rw [hof] at hplan'
          exact Except.ok.inj (hplan'.symm.trans hplan)
        have haccepts := hagrees flowPlan' latest planned hplan hpreflight hplanned hnew hfits
        change latest.actionsUsed + flow.startedActions flowPlan'.planId +
          flow.reservedActions flowPlan'.planId + plan.graph.actions.length ≤ _ at hfits
        obtain ⟨chain₁, answer, hanswer⟩ :=
          (AttackChainStore.createAndStartChain_isOk hplanned (by omega)).2 haccepts
        have hreturns := createAndStart_reserved hplan hpreflight hplanned hreserve hlatest' hanswer
        rw [hreturns] at hcall
        cases (Prod.mk.inj hcall).2

end

/-! ## A key that another plan has used -/

/-- Digests of attack chains that are short enough to compute with. -/
@[reducible] def attackTextDigests : AttackDigests where
  objective := ⟨fun _ => "j"⟩
  action := ⟨fun action => "n" ++ toString action.ordinal⟩
  plan :=
    let _ : CanonicalDigest AttackAction := ⟨fun action => "n" ++ toString action.ordinal⟩
    let _ : CanonicalDigest AttackObjective := ⟨fun _ => "j"⟩
    ⟨fun plan => "c" ++ toString plan.createdAt⟩
  checkpoint := ⟨fun checkpoint => checkpoint.chainPlanId ++ toString checkpoint.revision⟩
  command := ⟨fun command => command.actionId ++ toString command.attempt⟩
  observation := ⟨fun observation => "o" ++ observation.commandId⟩

section

attribute [local instance] textDigests attackTextDigests

/-- The first attempt, the goal or the cleanup of a graph. -/
def sampleAttackAction (ordinal : ℕ) (kind : AttackActionKind) (prerequisites : List Digest)
    (hnodup : prerequisites.Nodup) (hlength : prerequisites.length ≤ 8) : AttackAction where
  flowPlanId := "pk"
  scopeId := "s"
  scopeVersion := 1
  ordinal := ordinal
  kind := kind
  phase := kind.expectedPhase
  targetId := "t"
  targetPath := "/a"
  testClass := "x"
  impact := kind.expectedImpact
  prerequisiteActionIds := prerequisites
  objectiveId := "j"
  targetPath_exact := by decide
  phase_eq := rfl
  impact_eq := rfl
  prerequisites_nodup := hnodup
  prerequisites_length := hlength

def sampleAttackGraph : AttackGraph where
  flowPlanId := "pk"
  targetId := "t"
  scopeId := "s"
  scopeVersion := 1
  objective := ⟨.establishTestSession, "e"⟩
  actions := [sampleAttackAction 1 .initialAccessAttempt [] (by decide) (by decide),
    sampleAttackAction 2 .verifyObjective ["n1"] (by decide) (by decide),
    sampleAttackAction 3 .cleanupTestSession ["n2"] (by decide) (by decide)]
  length_bounds := by decide
  ordinals := by decide
  bound := by decide
  ordered := by decide
  begins := by decide
  later := by decide
  one_objective := by decide
  ends := by decide
  cleanup_after := by decide

/-- A plan for the sample graph, made at `createdAt` with the idempotency key `k`. -/
def sampleAttackPlan (createdAt : Time) (h : createdAt < 50) : AttackChainPlan where
  graph := sampleAttackGraph
  expectedFlowCheckpointId := "pk1"
  createdAt := createdAt
  deadline := 50
  cleanupDeadline := 60
  maxFailures := 1
  idempotencyKey := "k"
  deadline_after := h
  cleanupDeadline_bounds := by decide
  maxFailures_bounds := first_of_three

/-- A flow of ten actions in which state changes need an approval. -/
def sampleAttackFlowPlan : RedTeamFlowPlan where
  target := ⟨"t", "https://t"⟩
  rules :=
    { scopeId := "s"
      scopeVersion := 1
      targetId := "t"
      phases := [.initialAccess, .postExploitation]
      allowedTestClasses := ["x"]
      allowedImpacts := [.readOnly, .stateChange]
      approvalRequiredImpacts := [.stateChange]
      prohibitedImpacts := [.realCredential, .externalCallback, .lateralMovement, .persistence]
      stopConditions := ⟨100, 10, 2, ten_actions, two_of_twenty⟩ }
  createdAt := 0
  deadline := 100
  idempotencyKey := "k"
  target_bound := (rfl : "t" = "t")
  deadline_bounds := ⟨by decide, le_rfl⟩

/-- The running flow. -/
def sampleAttackFlow : RedTeamStore :=
  (run FlowSystem.step FlowSystem.empty [.create sampleAttackFlowPlan 0, .start "pk" 0 1]).store

/-- Both stores once a first chain has been created. -/
def createdStores : RedTeamStore × AttackChainStore :=
  (createAndStart sampleAttackFlow .empty (sampleAttackPlan 2 two_lt_fifty) sampleScope 2).1

/-- The creation of a second plan, with the key of the first. -/
def usedKeyCall :
    (RedTeamStore × AttackChainStore) × Except AttackError AttackChainCheckpoint :=
  createAndStart createdStores.1 createdStores.2 (sampleAttackPlan 3 three_lt_fifty) sampleScope 3

/-- The second plan is refused, and its three actions stay reserved. -/
theorem used_key_spends_budget :
    ¬∀ flow' chain' e, createAndStart createdStores.1 createdStores.2
        (sampleAttackPlan 3 (by decide)) sampleScope 3 = ((flow', chain'), .error e) →
      createdStores.1.BudgetKept flow' "pk" := by
  intro hkept
  have hrefused : usedKeyCall.2 =
      .error (.storeRejected "Attack Chain idempotency collision") := by decide
  have hbudget : createdStores.1.BudgetKept usedKeyCall.1.1 "pk" :=
    hkept usedKeyCall.1.1 usedKeyCall.1.2 _ (Prod.ext rfl hrefused)
  have hbefore : createdStores.1.reservedActions "pk" = 3 := by decide
  have hafter : usedKeyCall.1.1.reservedActions "pk" = 6 := by decide
  rw [RedTeamStore.BudgetKept, hbefore, hafter] at hbudget
  omega

end

end VulnLoom

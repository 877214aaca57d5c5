import VulnLoom.EndpointReconModels
import VulnLoom.Table

/-!
# The endpoint recon store

`EndpointReconStore` : the sealed seed sets, the plans with the columns of their reservations,
and the runs. A row holds its record, and the columns copied from it are functions of it.
-/

namespace VulnLoom

variable [EndpointReconDigests]

/-! ## Rows -/

/-- A row of `endpoint_recon_plans`. -/
structure EndpointPlanRow where
  plan : EndpointReconPlan
  state : EndpointReconReservationState
  consumedCount : ℕ
  updatedAt : Time
  terminalReason : Option String

/-- A row of `endpoint_recon_runs`. -/
structure EndpointRunRow where
  plan : EndpointReconPlan
  state : EndpointReconRunState
  attempt : ℕ
  startedAt : Time
  outcome : Option EndpointReconOutcome

/-- `EndpointReconClaim`. -/
structure EndpointReconClaim where
  created : Bool
  attempt : ℕ
  outcome : Option EndpointReconOutcome

def seedSetClash (a b : EndpointSeedSet) : Bool :=
  a.seedSetId = b.seedSetId ∨ a.idempotencyKey = b.idempotencyKey

/-- The two plans have one identifier or one key. -/
def EndpointReconPlan.clash (a b : EndpointReconPlan) : Bool :=
  a.endpointReconPlanId = b.endpointReconPlanId ∨ a.idempotencyKey = b.idempotencyKey

def endpointPlanClash (a b : EndpointPlanRow) : Bool :=
  a.plan.clash b.plan

def endpointRunClash (a b : EndpointRunRow) : Bool :=
  a.plan.clash b.plan

/-- The row that `reserve` inserts. -/
def EndpointReconPlan.row (plan : EndpointReconPlan) : EndpointPlanRow where
  plan := plan
  state := .active
  consumedCount := 0
  updatedAt := plan.createdAt
  terminalReason := none

/-- The columns of a row, as a reservation. -/
def EndpointPlanRow.reservationValues (row : EndpointPlanRow) : EndpointReconReservationValues where
  endpointReconPlanId := row.plan.endpointReconPlanId
  state := row.state
  reservedRequests := row.plan.requestCount
  consumedRequests := row.consumedCount
  createdAt := row.plan.createdAt
  updatedAt := row.updatedAt
  terminalReason := row.terminalReason

/-- The row whose columns are still those of the reservation that was read. -/
def EndpointReconReservation.stands (before : EndpointReconReservation) (row : EndpointPlanRow) :
    Bool :=
  row.plan.endpointReconPlanId = before.endpointReconPlanId ∧ row.state = before.state ∧
    row.consumedCount = before.consumedRequests

/-- Write a reservation over the columns of a row. -/
def EndpointReconReservation.write (after : EndpointReconReservation) (row : EndpointPlanRow) :
    EndpointPlanRow :=
  { row with
    state := after.state
    consumedCount := after.consumedRequests
    updatedAt := after.updatedAt
    terminalReason := after.terminalReason }

/-- The started run of a plan, at the attempt that was read. -/
def EndpointRunRow.awaits (planId : Digest) (attempt : ℕ) (row : EndpointRunRow) : Bool :=
  row.plan.endpointReconPlanId = planId ∧ row.state = .started ∧ row.attempt = attempt

/-! ## The store -/

structure EndpointReconStore where
  seedSets : List EndpointSeedSet
  plans : List EndpointPlanRow
  runs : List EndpointRunRow

namespace EndpointReconStore

def empty : EndpointReconStore :=
  ⟨[], [], []⟩

/-! ## Seed sets -/

/-- `seal` : a set that is stored already is returned. -/
def sealSet (store : EndpointReconStore) (seedSet : EndpointSeedSet) :
    Except EndpointReconError (EndpointReconStore × EndpointSeedSet) :=
  match store.seedSets.find? (seedSetClash seedSet) with
  | some existing => do
    raiseIf (existing ≠ seedSet)
      (.idempotencyConflict "Endpoint Seed Set identity was reused for different content")
    return (store, existing)
  | none => do
    let seedSets ← orRaise (Table.insert seedSetClash store.seedSets seedSet)
      (.idempotencyConflict "Endpoint Seed Set seal raced")
    return ({ store with seedSets := seedSets }, seedSet)

def seedSet (store : EndpointReconStore) (seedSetId : Digest) :
    Except EndpointReconError EndpointSeedSet :=
  orRaise (store.seedSets.find? fun seedSet => seedSet.seedSetId = seedSetId)
    (.idempotencyConflict "Endpoint Seed Set is unavailable")

/-! ## Plans and reservations -/

/-- The requests that the active reservations of a flow still hold. -/
def outstanding (store : EndpointReconStore) (flowPlanId : Digest) : ℕ :=
  ((store.plans.filter fun row => row.plan.flowPlanId = flowPlanId ∧ row.state = .active).map
    fun row => row.plan.requestCount - row.consumedCount).sum

/-- `reserve` : a plan that is stored already is returned. -/
def reserve (store : EndpointReconStore) (plan : EndpointReconPlan) (remainingActions : ℕ) :
    Except EndpointReconError (EndpointReconStore × EndpointReconPlan) :=
  match store.plans.find? (endpointPlanClash plan.row) with
  | some existing => do
    raiseIf (existing.plan ≠ plan)
      (.idempotencyConflict "Endpoint Recon plan identity was reused for different content")
    return (store, existing.plan)
  | none => do
    raiseIf (remainingActions < store.outstanding plan.flowPlanId + plan.requestCount)
      (.idempotencyConflict "Endpoint Recon reservations exceed the remaining action budget")
    let plans ← orRaise (Table.insert endpointPlanClash store.plans plan.row) .integrityError
    return ({ store with plans := plans }, plan)

def planRow (store : EndpointReconStore) (planId : Digest) :
    Except EndpointReconError EndpointPlanRow :=
  orRaise (store.plans.find? fun row => row.plan.endpointReconPlanId = planId)
    (.idempotencyConflict "Endpoint Recon plan is unavailable")

def plan (store : EndpointReconStore) (planId : Digest) :
    Except EndpointReconError EndpointReconPlan := do
  let row ← store.planRow planId
  return row.plan

def reservation (store : EndpointReconStore) (planId : Digest) :
    Except EndpointReconError EndpointReconReservation := do
  let row ← store.planRow planId
  EndpointReconReservation.create row.reservationValues

/-- The conditional `UPDATE` of a reservation that was read before. -/
def updateReservation (store : EndpointReconStore) (before after : EndpointReconReservation)
    (reason : String) : Except EndpointReconError EndpointReconStore := do
  raiseIf (Table.rowcount before.stands store.plans ≠ 1) (.recoveryRequired reason)
  return { store with plans := Table.update before.stands after.write store.plans }

def consumeRequest (store : EndpointReconStore) (planId : Digest) (now : Time) :
    Except EndpointReconError (EndpointReconStore × EndpointReconReservation) := do
  let before ← store.reservation planId
  let after ← consumeEndpointReconRequest before now
  let store ← store.updateReservation before after "Endpoint Recon reservation consumption raced"
  return (store, after)

/-- `_terminal_reservation`, of a transition of the state machine. -/
def terminalReservation (store : EndpointReconStore) (planId : Digest)
    (transition : EndpointReconReservation → Except EndpointReconError EndpointReconReservation) :
    Except EndpointReconError (EndpointReconStore × EndpointReconReservation) := do
  let before ← store.reservation planId
  let after ← transition before
  if after = before then return (store, before)
  let store ← store.updateReservation before after "Endpoint Recon reservation transition raced"
  return (store, after)

def cancelReservation (store : EndpointReconStore) (planId : Digest) (now : Time)
    (reason : String) : Except EndpointReconError (EndpointReconStore × EndpointReconReservation) :=
  store.terminalReservation planId (cancelEndpointRecon · now reason)

def expireReservation (store : EndpointReconStore) (planId : Digest) (now : Time) :
    Except EndpointReconError (EndpointReconStore × EndpointReconReservation) :=
  store.terminalReservation planId (expireEndpointRecon · now)

/-- The reservation of a plan has not ended. -/
def requireActive (store : EndpointReconStore) (plan : EndpointReconPlan) :
    Except EndpointReconError Unit := do
  let reservation ← store.reservation plan.endpointReconPlanId
  raiseIf (reservation.state ≠ .active)
    (.recoveryRequired "Endpoint Recon reservation is not active")

/-! ## Runs -/

/-- The run a plan finds, by its identifier or by its key. -/
def runRow (store : EndpointReconStore) (plan : EndpointReconPlan) : Option EndpointRunRow :=
  store.runs.find? fun row => plan.clash row.plan

/-- `_same`. -/
def requireSame (row : EndpointRunRow) (plan : EndpointReconPlan) :
    Except EndpointReconError Unit :=
  raiseIf (row.plan ≠ plan)
    (.idempotencyConflict "Endpoint Recon identity was reused for different content")

def claim (store : EndpointReconStore) (plan : EndpointReconPlan) (now : Time) :
    Except EndpointReconError (EndpointReconStore × EndpointReconClaim) :=
  match store.runRow plan with
  | some row => do
    requireSame row plan
    raiseIf (row.state = .started)
      (.recoveryRequired "Endpoint Recon has an unfinished STARTED checkpoint")
    let outcome ← orRaise row.outcome .valueError
    return (store, ⟨false, row.attempt, some outcome⟩)
  | none => do
    store.requireActive plan
    let runs ← orRaise (Table.insert endpointRunClash store.runs ⟨plan, .started, 1, now, none⟩)
      (.recoveryRequired "Endpoint Recon claim raced")
    return ({ store with runs := runs }, ⟨true, 1, none⟩)

def recover (store : EndpointReconStore) (plan : EndpointReconPlan) (now : Time) :
    Except EndpointReconError (EndpointReconStore × EndpointReconClaim) := do
  store.requireActive plan
  let row ← orRaise (store.runRow plan)
    (.recoveryRequired "Endpoint Recon checkpoint is unavailable")
  requireSame row plan
  raiseIf (row.state ≠ .started) (.recoveryRequired "Endpoint Recon is not awaiting recovery")
  raiseIf (plan.limits.maxAttempts ≤ row.attempt)
    (.recoveryRequired "Endpoint Recon recovery attempts are exhausted")
  let awaits := EndpointRunRow.awaits plan.endpointReconPlanId row.attempt
  raiseIf (Table.rowcount awaits store.runs ≠ 1) (.recoveryRequired "Endpoint Recon recovery raced")
  let runs := Table.update awaits
    (fun run => { run with attempt := row.attempt + 1, startedAt := now }) store.runs
  return ({ store with runs := runs }, ⟨true, row.attempt + 1, none⟩)

def complete (store : EndpointReconStore) (outcome : EndpointReconOutcome) :
    Except EndpointReconError EndpointReconStore := do
  let awaits := EndpointRunRow.awaits outcome.endpointReconPlanId outcome.attempt
  raiseIf (Table.rowcount awaits store.runs ≠ 1)
    (.recoveryRequired "Endpoint Recon STARTED checkpoint is unavailable")
  let runs := Table.update awaits
    (fun run => { run with state := .completed, outcome := some outcome }) store.runs
  return { store with runs := runs }

/-- `state`. -/
def runState (store : EndpointReconStore) (planId : Digest) :
    Option (EndpointReconRunState × ℕ) :=
  (store.runs.find? fun row => row.plan.endpointReconPlanId = planId).map fun row =>
    (row.state, row.attempt)

/-! ## What they write -/

variable {store store' : EndpointReconStore}
variable {seedSet : EndpointSeedSet}

theorem sealSet_ok {result : EndpointSeedSet} (h : store.sealSet seedSet = .ok (store', result)) :
    store' = store ∨ (∀ r ∈ store.seedSets, seedSetClash seedSet r = false) ∧
      store' = { store with seedSets := store.seedSets ++ [seedSet] } := by
  unfold sealSet at h
  split at h
  · simp only [bind_eq_ok, pure_eq_ok, Prod.mk.injEq] at h
    obtain ⟨-, -, rfl, -⟩ := h
    exact Or.inl rfl
  · simp only [bind_eq_ok, orRaise_eq_ok, pure_eq_ok, Table.insert_eq_some, Prod.mk.injEq] at h
    obtain ⟨-, ⟨hfresh, rfl⟩, rfl, -⟩ := h
    exact Or.inr ⟨hfresh, rfl⟩

theorem seedSet_ok {seedSetId : Digest} (h : store.seedSet seedSetId = .ok seedSet) :
    seedSet ∈ store.seedSets ∧ seedSet.seedSetId = seedSetId := by
  simp only [EndpointReconStore.seedSet, orRaise_eq_ok] at h
  exact ⟨List.mem_of_find?_eq_some h, by simpa using List.find?_some h⟩

variable {plan : EndpointReconPlan}

theorem reserve_ok {result : EndpointReconPlan} {remainingActions : ℕ}
    (h : store.reserve plan remainingActions = .ok (store', result)) :
    store' = store ∨ (∀ r ∈ store.plans, endpointPlanClash plan.row r = false) ∧
      store.outstanding plan.flowPlanId + plan.requestCount ≤ remainingActions ∧
      store' = { store with plans := store.plans ++ [plan.row] } := by
  unfold reserve at h
  split at h
  · simp only [bind_eq_ok, pure_eq_ok, Prod.mk.injEq] at h
    obtain ⟨-, -, rfl, -⟩ := h
    exact Or.inl rfl
  · simp only [bind_eq_ok, raiseIf_eq_ok, orRaise_eq_ok, pure_eq_ok, Table.insert_eq_some,
      Prod.mk.injEq, not_lt] at h
    obtain ⟨-, hfits, -, ⟨hfresh, rfl⟩, rfl, -⟩ := h
    exact Or.inr ⟨hfresh, hfits, rfl⟩

variable {planId : Digest}

theorem planRow_ok {row : EndpointPlanRow} (h : store.planRow planId = .ok row) :
    row ∈ store.plans ∧ row.plan.endpointReconPlanId = planId := by
  simp only [planRow, orRaise_eq_ok] at h
  exact ⟨List.mem_of_find?_eq_some h, by simpa using List.find?_some h⟩

theorem plan_ok (h : store.plan planId = .ok plan) :
    plan.endpointReconPlanId = planId ∧ ∃ row ∈ store.plans, row.plan = plan := by
  simp only [EndpointReconStore.plan, bind_eq_ok, pure_eq_ok] at h
  obtain ⟨row, hrow, rfl⟩ := h
  obtain ⟨hmem, hid⟩ := planRow_ok hrow
  exact ⟨hid, row, hmem, rfl⟩

theorem reservation_ok {reservation : EndpointReconReservation}
    (h : store.reservation planId = .ok reservation) :
    ∃ row ∈ store.plans, row.plan.endpointReconPlanId = planId ∧
      reservation.toEndpointReconReservationValues = row.reservationValues := by
  simp only [EndpointReconStore.reservation, bind_eq_ok, EndpointReconReservation.create_eq_ok] at h
  obtain ⟨row, hrow, hvalues⟩ := h
  obtain ⟨hmem, hid⟩ := planRow_ok hrow
  exact ⟨row, hmem, hid, hvalues⟩

/-- The reservation of `before` is written over by `after`. -/
structure Moved (store store' : EndpointReconStore) (before after : EndpointReconReservation) :
    Prop where
  read : ∃ row ∈ store.plans, before.toEndpointReconReservationValues = row.reservationValues
  moves : before.Moves after
  store : store' = { store with plans := Table.update before.stands after.write store.plans }

variable {after : EndpointReconReservation}

theorem updateReservation_ok {before : EndpointReconReservation} {reason : String}
    (h : store.updateReservation before after reason = .ok store') :
    store' = { store with plans := Table.update before.stands after.write store.plans } := by
  simp only [updateReservation, bind_eq_ok, pure_eq_ok] at h
  obtain ⟨-, -, rfl⟩ := h
  rfl

variable {now : Time}

theorem consumeRequest_ok (h : store.consumeRequest planId now = .ok (store', after)) :
    ∃ before, store.reservation planId = .ok before ∧ store.Moved store' before after ∧
      after.consumedRequests = before.consumedRequests + 1 := by
  simp only [consumeRequest, bind_eq_ok, pure_eq_ok, Prod.mk.injEq] at h
  obtain ⟨before, hread, after, hconsume, store₁, hupdate, rfl, rfl⟩ := h
  obtain ⟨hmoves, hconsumed⟩ := consumeEndpointReconRequest_ok hconsume
  obtain ⟨row, hrow, -, hvalues⟩ := reservation_ok hread
  exact ⟨before, hread, ⟨⟨row, hrow, hvalues⟩, hmoves, updateReservation_ok hupdate⟩, hconsumed⟩

variable {result : EndpointReconReservation}

theorem terminalReservation_ok
    {transition : EndpointReconReservation → Except EndpointReconError EndpointReconReservation}
    (htransition : ∀ {before after}, transition before = .ok after →
      after = before ∨ before.Moves after ∧ after.consumedRequests = before.consumedRequests)
    (h : store.terminalReservation planId transition = .ok (store', result)) :
    store' = store ∨ ∃ before after, store.Moved store' before after ∧
      after.consumedRequests = before.consumedRequests := by
  simp only [terminalReservation, bind_eq_ok] at h
  obtain ⟨before, hread, after, hafter, h⟩ := h
  obtain ⟨row, hrow, -, hvalues⟩ := reservation_ok hread
  split_ifs at h with hsame
  · obtain ⟨rfl, -⟩ := Prod.mk.inj (pure_eq_ok.1 h)
    exact Or.inl rfl
  · simp only [bind_eq_ok, pure_eq_ok, Prod.mk.injEq] at h
    obtain ⟨store₁, hupdate, rfl, -⟩ := h
    obtain ⟨hmoves, hconsumed⟩ := (htransition hafter).resolve_left hsame
    exact Or.inr ⟨before, after, ⟨⟨row, hrow, hvalues⟩, hmoves, updateReservation_ok hupdate⟩,
      hconsumed⟩

theorem cancelReservation_ok {reason : String}
    (h : store.cancelReservation planId now reason = .ok (store', result)) :
    store' = store ∨ ∃ before after, store.Moved store' before after ∧
      after.consumedRequests = before.consumedRequests :=
  terminalReservation_ok (fun h => releaseEndpointRecon_ok rfl h) h

theorem expireReservation_ok (h : store.expireReservation planId now = .ok (store', result)) :
    store' = store ∨ ∃ before after, store.Moved store' before after ∧
      after.consumedRequests = before.consumedRequests :=
  terminalReservation_ok (fun h => releaseEndpointRecon_ok rfl h) h

variable {claim : EndpointReconClaim}

/-- The calls on runs write runs alone. -/
theorem claim_ok (h : store.claim plan now = .ok (store', claim)) :
    ∃ runs, store' = { store with runs := runs } := by
  unfold EndpointReconStore.claim at h
  split at h
  · simp only [bind_eq_ok, pure_eq_ok, Prod.mk.injEq] at h
    obtain ⟨-, -, -, -, -, -, rfl, -⟩ := h
    exact ⟨store.runs, rfl⟩
  · simp only [bind_eq_ok, pure_eq_ok, Prod.mk.injEq] at h
    obtain ⟨-, -, runs, -, rfl, -⟩ := h
    exact ⟨runs, rfl⟩

theorem recover_ok (h : store.recover plan now = .ok (store', claim)) :
    ∃ runs, store' = { store with runs := runs } := by
  simp only [EndpointReconStore.recover, bind_eq_ok, pure_eq_ok, Prod.mk.injEq] at h
  obtain ⟨-, -, -, -, -, -, -, -, -, -, -, -, rfl, -⟩ := h
  exact ⟨_, rfl⟩

theorem complete_ok {outcome : EndpointReconOutcome} (h : store.complete outcome = .ok store') :
    ∃ runs, store' = { store with runs := runs } := by
  simp only [EndpointReconStore.complete, bind_eq_ok, pure_eq_ok] at h
  obtain ⟨-, -, rfl⟩ := h
  exact ⟨_, rfl⟩

end EndpointReconStore

end VulnLoom

import VulnLoom.AssetDiscoveryRuns

/-!
# Resumed asset discovery

An uninterrupted run over the batches that a completed run was concluded from takes four steps for
each query, and concludes the same (`rerun_decides`). So what a resumed plan admits is what it
would have admitted at once (`DiscoveryRun.Sound`).
-/

set_option linter.unusedSectionVars false

namespace VulnLoom

open Connections

section Resume

variable [CanonicalDigest String]
  [CanonicalDigest AssetDiscoveryAuthorization] [CanonicalDigest AssetDiscoveryQuery]
  [CanonicalDigest AssetDiscoveryPlan] [CanonicalDigest DiscoveredAsset]
  [CanonicalDigest AssetAttributionEvidence] [CanonicalDigest AssetAdmissionDecision]
  [CanonicalDigest AuthorizedAsset] [CanonicalDigest AssetDiscoveryOutcome]

/-! ## An uninterrupted run -/

section Rerun

/-- `execute` with an adapter that answers what was saved, on a clock that stands still. -/
def AssetDiscoveryStore.rerun (saved : AssetDiscoveryStore) (plan : AssetDiscoveryPlan)
    (scope : AuthorityScope) (now : Time) : DiscoveryCall where
  recovering := false
  plan := plan
  scope := scope
  now := now
  discover := fun query => (saved.batch plan.planId query.queryId).elim (.error "") .ok
  elapsed := fun _ => 0

variable {saved : AssetDiscoveryStore} {plan : AssetDiscoveryPlan} {scope : AuthorityScope}
  {now : Time}

@[simp] theorem rerun_plan : (saved.rerun plan scope now).plan = plan :=
  rfl

@[simp] theorem rerun_now : (saved.rerun plan scope now).now = now :=
  rfl

theorem rerun_check (attempt looks : ℕ) (observations : List AssetDiscoveryObservation) :
    DiscoveryRunning.check ⟨saved.rerun plan scope now, attempt, looks, observations⟩ =
      .ok ⟨saved.rerun plan scope now, attempt, looks + 1, observations⟩ := by
  have hclock : ¬plan.limits.timeoutSeconds ≤ (saved.rerun plan scope now).elapsed looks :=
    not_le.2 plan.limits.timeoutSeconds_bounds.1
  simp only [DiscoveryRunning.check, bind_eq_ok]
  exact ⟨(), raiseIf_eq_ok.2 hclock, rfl⟩

variable {query : AssetDiscoveryQuery} {batch : AssetDiscoveryBatch}

/-- A store that holds the run of the plan alone. -/
theorem rerun_saveBatch {store : AssetDiscoveryStore} (hruns : store.runs = [.started plan now])
    (hquery : query ∈ plan.queries) (hbound : batch.queryId = query.queryId)
    (hnone : store.batch plan.planId query.queryId = none) : store.saveBatch plan batch = .ok
      { store with batches := store.batches ++ [⟨plan.planId, batch.queryId, batch⟩] } := by
  have hmem : batch.queryId ∈ plan.queries.map AssetDiscoveryQuery.queryId :=
    hbound ▸ List.mem_map_of_mem hquery
  have hrow : store.byIdentity plan = .ok (.started plan now) := by
    simp [AssetDiscoveryStore.byIdentity, hruns, DiscoveryRun.planId, DiscoveryRun.started]
  have hsame : AssetDiscoveryStore.same plan (.started plan now) = .ok () := by
    simp [AssetDiscoveryStore.same, DiscoveryRun.planId, DiscoveryRun.started]
  rw [AssetDiscoveryStore.saveBatch]
  simp only [bind_eq_ok, raiseIf_eq_ok, not_not]
  refine ⟨(), hmem, _, hrow, (), hsame, (), rfl, ?_⟩
  rw [hbound, hnone]
  rfl

/-- A world whose adapter was asked for a query, once its answer is saved. -/
def DiscoveryWorld.answered (world : DiscoveryWorld) (plan : AssetDiscoveryPlan)
    (query : AssetDiscoveryQuery) (batch : AssetDiscoveryBatch) : DiscoveryWorld where
  store := { world.store with
    batches := world.store.batches ++ [⟨plan.planId, query.queryId, batch⟩] }
  sent := world.sent ++ [(plan.planId, query.queryId)]

/-- What a call has in hand once it took the answer. -/
def DiscoveryRunning.answered (running : DiscoveryRunning) (batch : AssetDiscoveryBatch) :
    DiscoveryRunning :=
  { running with
    looks := running.looks + 2
    observations := running.observations ++ batch.observations }

variable {world : DiscoveryWorld} {running : DiscoveryRunning}

/-- A query without a batch takes four steps : the adapter is asked, and its answer is saved and
taken. -/
theorem rerun_query {rest : List AssetDiscoveryQuery}
    (hcall : running.call = saved.rerun plan scope now)
    (hruns : world.store.runs = [.started plan now]) (hquery : query ∈ plan.queries)
    (hnone : world.store.batch plan.planId query.queryId = none)
    (hsaved : saved.batch plan.planId query.queryId = some batch)
    (hsound : checkBatch plan query batch now = .ok ())
    (hbudget : (running.observations ++ batch.observations).length ≤ plan.limits.maxRecords)
    (n : ℕ) : discovery.finish (n + 4) world (.query running (query :: rest)) =
      discovery.finish n (world.answered plan query batch)
        (.query (running.answered batch) rest) := by
  obtain ⟨call, attempt, looks, observations⟩ := running
  subst hcall
  have hbound : batch.queryId = query.queryId := by
    simp only [checkBatch, bind_eq_ok, raiseIf_eq_ok, not_or, not_not] at hsound
    obtain ⟨_, hbound, -⟩ := hsound
    exact hbound.1
  have hlook : discovery.next world (.query ⟨saved.rerun plan scope now, attempt, looks,
      observations⟩ (query :: rest)) = (world, .inl (.ask ⟨saved.rerun plan scope now, attempt,
        looks + 1, observations⟩ query rest)) := by
    simp only [discovery, DiscoveryWorld.next, rerun_check, DiscoveryWorld.raising, rerun_plan,
      hnone]
  have hask : discovery.next world (.ask ⟨saved.rerun plan scope now, attempt, looks + 1,
      observations⟩ query rest) =
        (⟨world.store, world.sent ++ [(plan.planId, query.queryId)]⟩,
          .inl (.save ⟨saved.rerun plan scope now, attempt, looks + 2, observations⟩ query batch
            rest)) := by
    have hanswer : (saved.rerun plan scope now).discover query = .ok batch := by
      simp [AssetDiscoveryStore.rerun, hsaved]
    simp only [discovery, DiscoveryWorld.next, hanswer, Except.mapError, ok_bind, rerun_check,
      rerun_plan, rerun_now, hsound]
    rfl
  have hsave : discovery.next ⟨world.store, world.sent ++ [(plan.planId, query.queryId)]⟩
      (.save ⟨saved.rerun plan scope now, attempt, looks + 2, observations⟩ query batch rest) =
        (world.answered plan query batch,
          .inl (.loaded ⟨saved.rerun plan scope now, attempt, looks + 2, observations⟩ query batch
            rest)) := by
    have hstore := rerun_saveBatch hruns hquery hbound hnone
    rw [hbound] at hstore
    simp only [discovery, DiscoveryWorld.next, rerun_plan, hstore]
    rfl
  have hload : ∀ world : DiscoveryWorld, discovery.next world
      (.loaded ⟨saved.rerun plan scope now, attempt, looks + 2, observations⟩ query batch rest) =
        (world, .inl (.query ⟨saved.rerun plan scope now, attempt, looks + 2,
          observations ++ batch.observations⟩ rest)) := by
    intro world
    have hextend : DiscoveryRunning.extend ⟨saved.rerun plan scope now, attempt, looks + 2,
        observations⟩ query batch = .ok ⟨saved.rerun plan scope now, attempt, looks + 2,
          observations ++ batch.observations⟩ := by
      simp only [DiscoveryRunning.extend, bind_eq_ok, raiseIf_eq_ok]
      exact ⟨(), hsound, (), not_lt.2 hbudget, rfl⟩
    simp only [discovery, DiscoveryWorld.next, hextend]
    rfl
  rw [discovery.finish_inl hlook, discovery.finish_inl hask, discovery.finish_inl hsave,
    discovery.finish_inl (hload _)]
  rfl

/-- The queries of an uninterrupted run. -/
theorem rerun_queries (saved : AssetDiscoveryStore) (plan : AssetDiscoveryPlan)
    (scope : AuthorityScope) (now : Time) : ∀ (rest : List AssetDiscoveryQuery)
    (world : DiscoveryWorld) (running : DiscoveryRunning),
    running.call = saved.rerun plan scope now → world.store.runs = [.started plan now] →
    rest ⊆ plan.queries → (rest.map AssetDiscoveryQuery.queryId).Nodup →
    (∀ query ∈ rest, world.store.batch plan.planId query.queryId = none) →
    (∀ query ∈ rest, saved.Has plan now query) →
    (running.observations ++ rest.flatMap (saved.found plan)).length ≤ plan.limits.maxRecords →
    ∃ world' running', (∀ n, discovery.finish (n + 4 * rest.length) world (.query running rest) =
        discovery.finish n world' (.query running' [])) ∧
      running'.call = running.call ∧ running'.attempt = running.attempt ∧
      running'.observations = running.observations ++ rest.flatMap (saved.found plan) ∧
      world'.store.runs = world.store.runs ∧ world'.store.assets = world.store.assets
  | [], world, running, _, _, _, _, _, _, _ =>
    ⟨world, running, fun _ => rfl, rfl, rfl, by simp, rfl, rfl⟩
  | query :: rest, world, running, hcall, hruns, hsub, hnodup, hnone, hhas, hbudget => by
    obtain ⟨batch, hsaved, hsound⟩ := hhas query List.mem_cons_self
    have hfound : saved.found plan query = batch.observations := by
      rw [AssetDiscoveryStore.found, hsaved, Option.map_some, Option.getD_some]
    rw [List.flatMap_cons, hfound, ← List.append_assoc] at hbudget
    obtain ⟨hfirst, hnodup⟩ := List.nodup_cons.1 hnodup
    have hfits : (running.observations ++ batch.observations).length ≤
        plan.limits.maxRecords := by
      rw [List.length_append] at hbudget
      omega
    -- saving one batch leaves the other queries without one
    have hnone' : ∀ query' ∈ rest, (world.answered plan query batch).store.batch plan.planId
        query'.queryId = none := by
      intro query' hquery'
      have hne : query.queryId ≠ query'.queryId := fun heq =>
        hfirst (heq ▸ List.mem_map_of_mem hquery')
      have hbefore := hnone query' (List.mem_cons_of_mem _ hquery')
      simp only [DiscoveryWorld.answered, AssetDiscoveryStore.batch,
        Option.map_eq_none_iff] at hbefore ⊢
      rw [List.find?_append, hbefore]
      simp [hne]
    obtain ⟨world', running', hfinish, hcall', hattempt, hobservations, hruns', hassets⟩ :=
      rerun_queries saved plan scope now rest (world.answered plan query batch)
        (running.answered batch) hcall hruns (fun _ h => hsub (List.mem_cons_of_mem _ h)) hnodup
        hnone' (fun query' hquery' => hhas query' (List.mem_cons_of_mem _ hquery')) hbudget
    refine ⟨world', running', fun n => ?_, hcall', hattempt, ?_, hruns', hassets⟩
    · have hlength : n + 4 * (query :: rest).length = n + 4 * rest.length + 4 := by
        rw [List.length_cons]
        omega
      rw [hlength, rerun_query hcall hruns (hsub List.mem_cons_self)
        (hnone query List.mem_cons_self) hsaved hsound hfits, hfinish]
    · rw [hobservations, List.flatMap_cons, hfound, ← List.append_assoc]
      rfl

variable {outcome : AssetDiscoveryOutcome}

theorem create_first {planId : Digest} {count : ℕ} {decisions : List AssetAdmissionDecision}
    {ids : List Digest} {attempt : ℕ}
    (h : AssetDiscoveryOutcome.create planId count decisions ids attempt now
      AssetDiscoveryError.validation = .ok outcome) :
    ∃ outcome', AssetDiscoveryOutcome.create planId count decisions ids 1 now
        AssetDiscoveryError.validation = .ok outcome' ∧
      outcome'.decisions = outcome.decisions ∧
      outcome'.authorizedAssetIds = outcome.authorizedAssetIds ∧ outcome'.attempt = 1 ∧
      outcome'.planId = planId := by
  simp only [AssetDiscoveryOutcome.create] at h ⊢
  split_ifs at h with hsealed
  obtain rfl := Except.ok.inj h
  exact ⟨_, dif_pos ⟨hsealed.1, by decide, hsealed.2.2⟩, rfl, rfl, rfl, rfl⟩

variable {found : List AssetDiscoveryObservation}

/-- What was concluded in some attempt is concluded in the first. -/
theorem conclude_first {attempt : ℕ} (h : conclude plan scope now attempt found = .ok outcome) :
    ∃ outcome', conclude plan scope now 1 found = .ok outcome' ∧
      outcome'.decisions = outcome.decisions ∧
      outcome'.authorizedAssetIds = outcome.authorizedAssetIds ∧ outcome'.attempt = 1 ∧
      outcome'.planId = plan.planId := by
  obtain ⟨hnodup, hbinding, hcreate⟩ := discovery_concluded h
  obtain ⟨outcome', hcreate', hsame⟩ := create_first hcreate
  refine ⟨outcome', ?_, hsame⟩
  simp only [conclude, bind_eq_ok, raiseIf_eq_ok, not_not]
  exact ⟨(), hnodup, (), hbinding, hcreate'⟩

/-- Assets of distinct identifiers and decisions are all published. -/
theorem publish_all : ∀ (new assets : List AuthorizedAsset),
    ((assets ++ new).map AuthorizedAsset.authorizedAssetId).Nodup →
    ((assets ++ new).map AuthorizedAsset.decisionId).Nodup →
      new.foldlM AssetDiscoveryStore.publish assets = .ok (assets ++ new)
  | [], assets, _, _ => by
    rw [List.append_nil]
    rfl
  | asset :: new, assets, hids, hdecisions => by
    have hnone : assets.find? (fun row => row.authorizedAssetId = asset.authorizedAssetId ∨
        row.decisionId = asset.decisionId) = none := by
      refine List.find?_eq_none.2 fun row hrow hclash => ?_
      rw [List.map_append, List.nodup_append] at hids hdecisions
      rcases of_decide_eq_true hclash with heq | heq
      · exact hids.2.2 _ (List.mem_map_of_mem hrow) _ (List.mem_map_of_mem List.mem_cons_self) heq
      · exact hdecisions.2.2 _ (List.mem_map_of_mem hrow) _
          (List.mem_map_of_mem List.mem_cons_self) heq
    have hpublish : AssetDiscoveryStore.publish assets asset = .ok (assets ++ [asset]) := by
      rw [AssetDiscoveryStore.publish, hnone]
    have happend : assets ++ asset :: new = assets ++ [asset] ++ new := by simp
    rw [happend] at hids hdecisions ⊢
    rw [List.foldlM_cons, hpublish, ok_bind]
    exact publish_all new _ hids hdecisions

theorem rerun_opens (hbinding : checkBinding plan scope now = .ok ()) :
    discovery.next .empty (.entry (saved.rerun plan scope now)) =
      (⟨⟨[.started plan now], [], []⟩, []⟩,
        .inl (.query ⟨saved.rerun plan scope now, 1, 0, []⟩ plan.queries)) := by
  have hopens : DiscoveryWorld.empty.opens (saved.rerun plan scope now) =
      .ok (⟨[.started plan now], [], []⟩, ⟨true, 1, none⟩) := by
    simp only [DiscoveryWorld.opens, rerun_plan, rerun_now, bind_eq_ok]
    exact ⟨(), hbinding, rfl⟩
  simp only [discovery, DiscoveryWorld.next, hopens]
  rfl

theorem rerun_finishes (hcall : running.call = saved.rerun plan scope now)
    (hruns : world.store.runs = [.started plan now]) (hassets : world.store.assets = [])
    (hattempt : running.attempt = 1) (hfound : running.observations = found)
    (hconclude : conclude plan scope now 1 found = .ok outcome)
    (hids : outcome.authorizedAssetIds = Table.orderBy id
      ((authorizedAssets plan.authorization now found).map AuthorizedAsset.authorizedAssetId))
    (hbacked : ∀ asset ∈ authorizedAssets plan.authorization now found,
      AssetDiscoveryStore.backed plan outcome asset = true) :
    ∃ world', discovery.next world (.query running []) = (world', .inr (.ok outcome)) := by
  obtain ⟨call, attempt, looks, observations⟩ := running
  subst hcall hattempt hfound
  obtain ⟨hplan, hdecisions, -, hfirst, -⟩ := create_ok (discovery_concluded hconclude).2.2
  have hpublish : (authorizedAssets plan.authorization now observations).foldlM
      AssetDiscoveryStore.publish world.store.assets =
        .ok (authorizedAssets plan.authorization now observations) := by
    rw [hassets]
    refine publish_all _ [] ?_ ?_
    · have hsorted := outcome.authorizedAssetIds_sorted
      rw [hids] at hsorted
      have hnodup := hsorted.imp fun hlt => hlt.ne
      exact (List.perm_insertionSort _ _).nodup_iff.1 hnodup
    · have hsorted := outcome.decisions_sorted
      have hnodup := ((decisions_perm hconclude).map AssetAdmissionDecision.decisionId).nodup_iff.1
        (hsorted.imp fun hlt => hlt.ne)
      rw [List.map_map] at hnodup
      rw [List.nil_append, authorizedAssets, List.map_map]
      exact hnodup.sublist (List.filter_sublist.map _)
  have hrow : world.store.byIdentity plan = .ok (.started plan now) := by
    simp [AssetDiscoveryStore.byIdentity, hruns, DiscoveryRun.planId, DiscoveryRun.started]
  have hsame : AssetDiscoveryStore.same plan (.started plan now) = .ok () := by
    simp [AssetDiscoveryStore.same, DiscoveryRun.planId, DiscoveryRun.started]
  have hcount : Table.rowcount (AssetDiscoveryStore.isAttempt plan outcome.attempt)
      world.store.runs = 1 := by
    rw [hruns, hfirst]
    simp [Table.rowcount, AssetDiscoveryStore.isAttempt, DiscoveryRun.planId,
      DiscoveryRun.started]
  obtain ⟨store, hcomplete⟩ : ∃ store, world.store.complete plan outcome
      (authorizedAssets plan.authorization now observations) = .ok store := by
    simp only [AssetDiscoveryStore.complete, bind_eq_ok, raiseIf_eq_ok, pure_eq_ok, not_or,
      not_not]
    refine ⟨_, (), ⟨hplan, hids⟩, (), ?_, _, hrow, (), hsame, (), ⟨rfl, hfirst.symm⟩, _, hpublish,
      (), hcount, rfl⟩
    simpa using hbacked
  refine ⟨⟨store, world.sent⟩, ?_⟩
  have hfinishes : world.finishes ⟨saved.rerun plan scope now, 1, looks, observations⟩ =
      .ok (store, outcome) := by
    simp only [DiscoveryWorld.finishes, bind_eq_ok, pure_eq_ok]
    exact ⟨outcome, hconclude, _, rerun_check 1 looks observations, store, hcomplete, rfl⟩
  simp only [discovery, DiscoveryWorld.next, hfinishes]
  rfl

/-- The saved batches are within the budget of the plan. -/
theorem observations_budget (hhas : ∀ query ∈ plan.queries, saved.Has plan now query) :
    (saved.observations plan).length ≤ plan.limits.maxRecords := by
  have hsum : ∀ queries : List AssetDiscoveryQuery, (∀ query ∈ queries, saved.Has plan now query) →
      (queries.flatMap (saved.found plan)).length ≤
        (queries.map AssetDiscoveryQuery.resultLimit).sum := by
    intro queries hqueries
    induction queries with
    | nil => simp
    | cons query queries ih =>
      obtain ⟨batch, hsaved, hsound⟩ := hqueries query List.mem_cons_self
      have hrest := ih fun query' hquery' => hqueries query' (List.mem_cons_of_mem _ hquery')
      have hlimit : (saved.found plan query).length ≤ query.resultLimit := by
        simp only [checkBatch, bind_eq_ok, raiseIf_eq_ok] at hsound
        obtain ⟨_, -, _, hlimit, -⟩ := hsound
        rw [AssetDiscoveryStore.found, hsaved]
        exact not_lt.1 hlimit
      rw [List.flatMap_cons, List.length_append, List.map_cons, List.sum_cons]
      omega
  exact (hsum _ hhas).trans plan.queries_records

/-- An uninterrupted run over the batches of a completed run decides what it decided. -/
theorem rerun_decides {row : DiscoveryRun} (h : row.ConcludedAs saved outcome scope) :
    ∃ world outcome', discovery.finish (4 * row.plan.queries.length + 2) .empty
        (.entry (saved.rerun row.plan scope outcome.completedAt)) = some (world, .ok outcome') ∧
      outcome'.decisions = outcome.decisions ∧
      outcome'.authorizedAssetIds = outcome.authorizedAssetIds := by
  obtain ⟨outcome', hconclude, hdecisions, hids, -⟩ := conclude_first h.concluded
  have hopens : discovery.next .empty
      (.entry (saved.rerun row.plan scope outcome.completedAt)) = _ :=
    rerun_opens (discovery_concluded h.concluded).2.1
  have hnodup : (row.plan.queries.map AssetDiscoveryQuery.queryId).Nodup :=
    row.plan.queries_sorted.imp fun hlt => hlt.ne
  have hbudget := observations_budget h.batches
  obtain ⟨world, running, hfinish, hcall, hattempt, hobservations, hruns, hassets⟩ :=
    rerun_queries saved row.plan scope outcome.completedAt row.plan.queries
      ⟨⟨[.started row.plan outcome.completedAt], [], []⟩, []⟩
      ⟨saved.rerun row.plan scope outcome.completedAt, 1, 0, []⟩ rfl rfl (List.Subset.refl _)
      hnodup (fun _ _ => rfl) h.batches hbudget
  have hids' : outcome'.authorizedAssetIds = Table.orderBy id ((authorizedAssets
      row.plan.authorization outcome.completedAt (saved.observations row.plan)).map
        AuthorizedAsset.authorizedAssetId) := by
    rw [hids, h.ids, h.published]
  have hbacked : ∀ asset ∈ authorizedAssets row.plan.authorization outcome.completedAt
      (saved.observations row.plan),
        AssetDiscoveryStore.backed row.plan outcome' asset = true := by
    intro asset hasset
    rw [AssetDiscoveryStore.backed, hdecisions]
    exact h.backed asset (h.published ▸ hasset)
  obtain ⟨world', hlast⟩ := rerun_finishes hcall hruns hassets hattempt hobservations hconclude
    hids' hbacked
  refine ⟨world', outcome', ?_, hdecisions, hids⟩
  have hlength : 4 * row.plan.queries.length + 2 = 1 + 4 * row.plan.queries.length + 1 := by omega
  rw [hlength, discovery.finish_inl hopens, hfinish, discovery.finish_inr hlast]

end Rerun

/-! ## The service -/

namespace AssetDiscoveryObservation

/-- What the authorisation admits. -/
structure Admissible (observation : AssetDiscoveryObservation)
    (authorization : AssetDiscoveryAuthorization) : Prop where
  not_excluded : ¬observation.InExcludedDomain authorization
  not_others : ¬observation.OfOthers
  assigned : authorization.mode = .exactAssignment → observation.Assigned authorization
  proven : observation.Assigned authorization ∨ observation.UnderRoot authorization ∨
    observation.OfRegistration authorization ∨ observation.InInventory

end AssetDiscoveryObservation

theorem admissible_of_admitted {authorization : AssetDiscoveryAuthorization}
    {observation : AssetDiscoveryObservation}
    (h : verdictFor authorization observation = .admitted) :
    observation.Admissible authorization := by
  obtain ⟨hexcluded, hothers, hproven⟩ := admitted_iff.1 h
  refine ⟨hexcluded, hothers, fun hmode => ?_, ?_⟩
  · rcases hproven with hassigned | ⟨hne, -⟩
    · exact hassigned
    · exact absurd hmode hne
  · rcases hproven with hassigned | ⟨-, -, hderived⟩
    · exact Or.inl hassigned
    · exact Or.inr hderived

/-- The assets that decisions name, with their verdicts. -/
def AssetDiscoveryOutcome.verdicts (outcome : AssetDiscoveryOutcome) :
    List (Digest × AssetAdmissionVerdict) :=
  outcome.decisions.map fun decision => (decision.assetId, decision.verdict)

/-- A completed run : its decisions are those of the saved batches, what is published for it is
what they admit, and an uninterrupted run over the same batches decides the same. -/
structure DiscoveryRun.Sound (store : AssetDiscoveryStore) (row : DiscoveryRun)
    (outcome : AssetDiscoveryOutcome) : Prop where
  outcome_eq : row.outcome = some outcome
  batches : ∀ query ∈ row.plan.queries, ∃ batch,
    store.batch row.planId query.queryId = some batch
  no_others : ∀ saved ∈ store.batches, saved.planId = row.planId →
    saved.queryId ∈ row.plan.queries.map AssetDiscoveryQuery.queryId
  decisions : outcome.decisions.Perm ((store.observations row.plan).map fun observation =>
    decideAsset row.plan.authorization observation outcome.completedAt)
  distinct : ((store.observations row.plan).map fun observation =>
    observation.asset.assetId).Nodup
  published : store.published row.planId = authorizedAssets row.plan.authorization
    outcome.completedAt (store.observations row.plan)
  admitted : ((store.published row.planId).map AuthorizedAsset.decisionId).Perm
    ((outcome.decisions.filter fun decision => decision.verdict = .admitted).map
      AssetAdmissionDecision.decisionId)
  admissible : ∀ observation ∈ store.observations row.plan,
    (decideAsset row.plan.authorization observation outcome.completedAt).verdict = .admitted →
      observation.Admissible row.plan.authorization
  uninterrupted : ∃ scope world outcome', discovery.finish (4 * row.plan.queries.length + 2) .empty
      (.entry (store.rerun row.plan scope outcome.completedAt)) = some (world, .ok outcome') ∧
    outcome'.decisions = outcome.decisions ∧
    outcome'.authorizedAssetIds = outcome.authorizedAssetIds

variable {store : AssetDiscoveryStore}

theorem AssetDiscoveryStore.Kept.sound (hkept : store.Kept) {row : DiscoveryRun}
    (hrow : row ∈ store.runs) (hstate : row.state = .completed) :
    ∃ outcome, row.Sound store outcome := by
  obtain ⟨outcome, scope, hconcluded⟩ := hkept.concluded row hrow hstate
  have hperm := decisions_perm hconcluded.concluded
  refine ⟨outcome, hconcluded.outcome_eq, fun query hquery => ?_, fun saved hsaved hplan => ?_,
    hperm, (discovery_concluded hconcluded.concluded).1, hconcluded.published, ?_,
    fun observation _ hverdict => admissible_of_admitted hverdict, scope,
    rerun_decides hconcluded⟩
  · obtain ⟨batch, hbatch, -⟩ := hconcluded.batches query hquery
    exact ⟨batch, hbatch⟩
  · obtain ⟨row', hrow', hplan', hbound⟩ := hkept.batches saved hsaved
    obtain rfl := Table.eq_of_key hkept.runs hrow' hrow (hplan'.trans hplan)
    exact hbound
  · rw [hconcluded.published, authorizedAssets, List.map_map]
    have hfiltered := (hperm.filter fun decision => decision.verdict = .admitted).map
      AssetAdmissionDecision.decisionId
    rw [List.filter_map, List.map_map] at hfiltered
    exact hfiltered.symm

/-- Of two completed runs of one plan over the same batches, the verdicts are the same. -/
theorem verdicts_perm {store' : AssetDiscoveryStore} {row row' : DiscoveryRun}
    {outcome outcome' : AssetDiscoveryOutcome} (h : row.Sound store outcome)
    (h' : row'.Sound store' outcome') (hplan : row'.plan = row.plan)
    (hbatches : ∀ query ∈ row.plan.queries,
      store'.batch row.planId query.queryId = store.batch row.planId query.queryId) :
    outcome'.verdicts.Perm outcome.verdicts := by
  have hobservations : store'.observations row.plan = store.observations row.plan := by
    refine List.flatMap_congr fun query hquery => ?_
    exact congrArg (fun batch => (Option.map AssetDiscoveryBatch.observations batch).getD [])
      (hbatches query hquery)
  have hverdicts := h.decisions.map fun decision => (decision.assetId, decision.verdict)
  have hverdicts' := h'.decisions.map fun decision => (decision.assetId, decision.verdict)
  rw [List.map_map] at hverdicts hverdicts'
  rw [hplan, hobservations] at hverdicts'
  exact hverdicts'.trans hverdicts.symm

/-- However the calls stop and whatever the adapter answers : a query whose batch was saved is not
sent again; a completed run is sound; what is published belongs to a completed run; and its
verdicts are those of every completed run over the same batches. -/
theorem discovery_admission (moves : List (Move DiscoveryCall)) :
    (∀ more planId queryId batch,
      (discoveryRun moves).store.store.batch planId queryId = some batch →
        (discoveryRun (moves ++ more)).store.sent.count (planId, queryId) =
          (discoveryRun moves).store.sent.count (planId, queryId)) ∧
    (∀ row ∈ (discoveryRun moves).store.store.runs, row.state = .completed →
      ∃ outcome, row.Sound (discoveryRun moves).store.store outcome) ∧
    (∀ asset ∈ (discoveryRun moves).store.store.assets,
      ∃ row ∈ (discoveryRun moves).store.store.runs,
        row.planId = asset.asset.planId ∧ row.state = .completed) ∧
    ∀ moves', ∀ row ∈ (discoveryRun moves).store.store.runs,
      ∀ row' ∈ (discoveryRun moves').store.store.runs, row.state = .completed →
      row'.state = .completed → row'.plan = row.plan →
      (∀ query ∈ row.plan.queries,
        (discoveryRun moves').store.store.batch row.planId query.queryId =
          (discoveryRun moves).store.store.batch row.planId query.queryId) →
      ∀ outcome ∈ row.outcome, ∀ outcome' ∈ row'.outcome,
        outcome'.verdicts.Perm outcome.verdicts := by
  have hkept := (discoveryRun_keeps moves).store
  refine ⟨fun more planId queryId batch =>
      (discoveryRun_grows moves more).sent planId queryId batch, fun row hrow hstate =>
        hkept.sound hrow hstate, hkept.assets, ?_⟩
  intro moves' row hrow row' hrow' hstate hstate' hplan hbatches outcome houtcome outcome' houtcome'
  obtain ⟨found, hsound⟩ := hkept.sound hrow hstate
  obtain ⟨found', hsound'⟩ := (discoveryRun_keeps moves').store.sound hrow' hstate'
  obtain rfl := Option.some.inj (hsound.outcome_eq.symm.trans houtcome)
  obtain rfl := Option.some.inj (hsound'.outcome_eq.symm.trans houtcome')
  exact verdicts_perm hsound hsound' hplan hbatches

end Resume

end VulnLoom

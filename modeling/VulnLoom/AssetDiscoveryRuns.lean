import VulnLoom.AssetAdmission

/-!
# Runs of asset discovery

A call stops where its process dies, and another begins. A batch that was saved stays
(`DiscoveryWorld.Grows`), and the adapter is asked for a query only while it has none. A completed
run was concluded from the batches that its queries still have (`DiscoveryRun.Concluded`).
-/

set_option linter.unusedSectionVars false

namespace VulnLoom

open Connections

variable [CanonicalDigest String]
  [CanonicalDigest AssetDiscoveryAuthorization] [CanonicalDigest AssetDiscoveryQuery]
  [CanonicalDigest AssetDiscoveryPlan] [CanonicalDigest DiscoveredAsset]
  [CanonicalDigest AssetAttributionEvidence] [CanonicalDigest AssetAdmissionDecision]
  [CanonicalDigest AuthorizedAsset] [CanonicalDigest AssetDiscoveryOutcome]

/-! ## What the ledger holds -/

namespace AssetDiscoveryStore

variable (store : AssetDiscoveryStore) (plan : AssetDiscoveryPlan)

/-- The observations saved for a query. -/
def found (query : AssetDiscoveryQuery) : List AssetDiscoveryObservation :=
  ((store.batch plan.planId query.queryId).map AssetDiscoveryBatch.observations).getD []

/-- The observations saved for the queries of a plan. -/
def observations : List AssetDiscoveryObservation :=
  plan.queries.flatMap (store.found plan)

/-- The authorised assets that were published for a plan. -/
def published (planId : Digest) : List AuthorizedAsset :=
  store.assets.filter fun asset => asset.asset.planId = planId

/-- A query has a batch, and it is sound at `now`. -/
def Has (now : Time) (query : AssetDiscoveryQuery) : Prop :=
  ∃ batch, store.batch plan.planId query.queryId = some batch ∧
    checkBatch plan query batch now = .ok ()

end AssetDiscoveryStore

/-- The outcome of a run was concluded from the batches of its queries, and what it admits is
published. -/
structure DiscoveryRun.ConcludedAs (store : AssetDiscoveryStore) (row : DiscoveryRun)
    (outcome : AssetDiscoveryOutcome) (scope : AuthorityScope) : Prop where
  outcome_eq : row.outcome = some outcome
  batches : ∀ query ∈ row.plan.queries, store.Has row.plan outcome.completedAt query
  concluded : conclude row.plan scope outcome.completedAt outcome.attempt
    (store.observations row.plan) = .ok outcome
  ids : outcome.authorizedAssetIds = Table.orderBy id ((store.published row.planId).map
    AuthorizedAsset.authorizedAssetId)
  backed : ∀ asset ∈ store.published row.planId,
    AssetDiscoveryStore.backed row.plan outcome asset = true
  published : store.published row.planId = authorizedAssets row.plan.authorization
    outcome.completedAt (store.observations row.plan)

def DiscoveryRun.Concluded (store : AssetDiscoveryStore) (row : DiscoveryRun) : Prop :=
  ∃ outcome scope, row.ConcludedAs store outcome scope

structure AssetDiscoveryStore.Kept (store : AssetDiscoveryStore) : Prop where
  runs : (store.runs.map DiscoveryRun.planId).Nodup
  concluded : ∀ row ∈ store.runs, row.state = .completed → row.Concluded store
  assets : ∀ asset ∈ store.assets,
    ∃ row ∈ store.runs, row.planId = asset.asset.planId ∧ row.state = .completed
  batches : ∀ saved ∈ store.batches, ∃ row ∈ store.runs, row.planId = saved.planId ∧
    saved.queryId ∈ row.plan.queries.map AssetDiscoveryQuery.queryId

/-! ## What a transaction does -/

namespace AssetDiscoveryStore

variable {store store' : AssetDiscoveryStore} {plan : AssetDiscoveryPlan} {now : Time}
  {claim : AssetDiscoveryClaim} {row : DiscoveryRun}

theorem same_ok (h : store.byIdentity plan = .ok row) (hsame : same plan row = .ok ()) :
    row ∈ store.runs ∧ row.plan = plan := by
  simp only [byIdentity, orRaise_eq_ok] at h
  simp only [same, raiseIf_eq_ok, not_or, not_not] at hsame
  exact ⟨List.mem_of_find?_eq_some h, hsame.2⟩

/-- A claim adds the run, or finds it completed. -/
theorem claim_ok (h : store.claim plan now = .ok (store', claim)) :
    (claim.created = true ∧
      (∀ row ∈ store.runs, (DiscoveryRun.started plan now).clash row = false) ∧
      store' = { store with runs := store.runs ++ [.started plan now] }) ∨
    (claim.created = false ∧ store' = store) := by
  rw [AssetDiscoveryStore.claim] at h
  cases hinsert : Table.insert DiscoveryRun.clash store.runs (.started plan now) with
  | some runs =>
    rw [hinsert] at h
    obtain ⟨hfresh, rfl⟩ := Table.insert_eq_some.1 hinsert
    obtain ⟨rfl, rfl⟩ := Prod.mk.inj (Except.ok.inj h)
    exact Or.inl ⟨rfl, hfresh, rfl⟩
  | none =>
    rw [hinsert] at h
    simp only [bind_eq_ok, raiseIf_eq_ok, orRaise_eq_ok, pure_eq_ok] at h
    obtain ⟨_, -, _, -, _, -, _, -, heq⟩ := h
    obtain ⟨rfl, rfl⟩ := Prod.mk.inj heq
    exact Or.inr ⟨rfl, rfl⟩

/-- A run that is not completed was counted once more. -/
theorem recover_ok (h : store.recover plan now = .ok (store', claim)) :
    ∃ row ∈ store.runs, row.plan = plan ∧ claim.created = true ∧
      store' = { store with
        runs := Table.update (isAttempt plan row.attempt) (.retried now) store.runs } := by
  simp only [AssetDiscoveryStore.recover, bind_eq_ok, raiseIf_eq_ok, pure_eq_ok] at h
  obtain ⟨row, hrow, _, hsame, _, -, _, -, _, -, heq⟩ := h
  obtain ⟨rfl, rfl⟩ := Prod.mk.inj heq
  obtain ⟨hmem, hplan⟩ := same_ok hrow hsame
  exact ⟨row, hmem, hplan, rfl, rfl⟩

/-- A batch is saved for a run that is not completed, or it was saved before. -/
theorem saveBatch_ok {batch : AssetDiscoveryBatch} (h : store.saveBatch plan batch = .ok store') :
    (∃ row ∈ store.runs, row.plan = plan ∧
        batch.queryId ∈ plan.queries.map AssetDiscoveryQuery.queryId) ∧
      ((store.batch plan.planId batch.queryId = none ∧ store' =
          { store with batches := store.batches ++ [⟨plan.planId, batch.queryId, batch⟩] }) ∨
        (store.batch plan.planId batch.queryId = some batch ∧ store' = store)) := by
  simp only [saveBatch, bind_eq_ok, raiseIf_eq_ok] at h
  obtain ⟨_, hbound, row, hrow, _, hsame, _, -, h⟩ := h
  obtain ⟨hmem, hplan⟩ := same_ok hrow hsame
  refine ⟨⟨row, hmem, hplan, not_not.1 hbound⟩, ?_⟩
  cases hbatch : store.batch plan.planId batch.queryId with
  | none =>
    rw [hbatch] at h
    exact Or.inl ⟨rfl, (pure_eq_ok.1 h).symm⟩
  | some existing =>
    rw [hbatch] at h
    simp only [bind_eq_ok, raiseIf_eq_ok, pure_eq_ok, not_not] at h
    obtain ⟨_, rfl, rfl⟩ := h
    exact Or.inr ⟨rfl, rfl⟩

/-- Assets that are not published yet are published in order. -/
theorem publish_new : ∀ {new assets assets' : List AuthorizedAsset},
    new.foldlM publish assets = .ok assets' → (∀ asset ∈ new, asset ∉ assets) → new.Nodup →
      assets' = assets ++ new
  | [], assets, assets', h, _, _ => by
    simpa using (pure_eq_ok.1 h).symm
  | asset :: new, assets, assets', h, hnew, hnodup => by
    obtain ⟨hasset, hnodup⟩ := List.nodup_cons.1 hnodup
    rw [List.foldlM_cons, bind_eq_ok] at h
    obtain ⟨next, hnext, h⟩ := h
    rw [publish] at hnext
    cases hfind : assets.find? fun row => row.authorizedAssetId = asset.authorizedAssetId ∨
        row.decisionId = asset.decisionId with
    | none =>
      rw [hfind] at hnext
      obtain rfl := Except.ok.inj hnext
      rw [publish_new h ?_ hnodup]
      · simp
      · intro other hother hmem
        rcases List.mem_append.1 hmem with hmem | hmem
        · exact hnew other (List.mem_cons_of_mem _ hother) hmem
        · exact hasset (List.mem_singleton.1 hmem ▸ hother)
    | some existing =>
      rw [hfind] at hnext
      simp only [bind_eq_ok, raiseIf_eq_ok, pure_eq_ok, not_not] at hnext
      obtain ⟨_, rfl, -⟩ := hnext
      exact absurd (List.mem_of_find?_eq_some hfind) (hnew existing List.mem_cons_self)

/-- A run that is not completed is completed with an outcome of its attempt. -/
theorem complete_ok {outcome : AssetDiscoveryOutcome} {assets : List AuthorizedAsset}
    (h : store.complete plan outcome assets = .ok store') :
    outcome.authorizedAssetIds =
        Table.orderBy id (assets.map AuthorizedAsset.authorizedAssetId) ∧
      (∀ asset ∈ assets, backed plan outcome asset = true) ∧
      ∃ row ∈ store.runs, row.plan = plan ∧ row.state = .started ∧ row.attempt = outcome.attempt ∧
        ∃ assets', assets.foldlM publish store.assets = .ok assets' ∧ store' =
          { store with
            runs := Table.update (isAttempt plan outcome.attempt) (.finished outcome) store.runs
            assets := assets' } := by
  simp only [complete, bind_eq_ok, raiseIf_eq_ok, pure_eq_ok, not_or, not_not] at h
  obtain ⟨_, hbound, _, hbacked, row, hrow, _, hsame, _, hstate, assets', hassets, _, -, rfl⟩ := h
  obtain ⟨hmem, hplan⟩ := same_ok hrow hsame
  refine ⟨hbound.2, fun asset hasset => ?_, row, hmem, hplan, hstate.1, hstate.2,
    assets', hassets, rfl⟩
  by_contra hnot
  exact hbacked (List.any_eq_true.2 ⟨asset, hasset, by simpa using hnot⟩)

end AssetDiscoveryStore

/-! ## A completed run stays concluded -/

namespace DiscoveryRun.ConcludedAs

variable {store store' : AssetDiscoveryStore} {row : DiscoveryRun}
  {outcome : AssetDiscoveryOutcome} {scope : AuthorityScope}

/-- More batches, and assets published for others, change nothing. -/
theorem mono (h : row.ConcludedAs store outcome scope)
    (hbatch : ∀ queryId batch, store.batch row.plan.planId queryId = some batch →
      store'.batch row.plan.planId queryId = some batch)
    (hpublished : store'.published row.planId = store.published row.planId) :
    row.ConcludedAs store' outcome scope := by
  have hobservations : store'.observations row.plan = store.observations row.plan := by
    refine List.flatMap_congr fun query hquery => ?_
    obtain ⟨batch, hsaved, -⟩ := h.batches query hquery
    rw [AssetDiscoveryStore.found, AssetDiscoveryStore.found, hsaved, hbatch _ _ hsaved]
  refine ⟨h.outcome_eq, fun query hquery => ?_, ?_, ?_, ?_, ?_⟩
  · obtain ⟨batch, hsaved, hsound⟩ := h.batches query hquery
    exact ⟨batch, hbatch _ _ hsaved, hsound⟩
  · rw [hobservations]
    exact h.concluded
  · rw [hpublished]
    exact h.ids
  · rw [hpublished]
    exact h.backed
  · rw [hpublished, hobservations]
    exact h.published

end DiscoveryRun.ConcludedAs

/-- A change of the runs is none to what was concluded. -/
theorem DiscoveryRun.Concluded.of_runs {store : AssetDiscoveryStore} {row : DiscoveryRun}
    (runs : List DiscoveryRun) (h : row.Concluded store) : row.Concluded { store with runs } := by
  obtain ⟨outcome, scope, h⟩ := h
  exact ⟨outcome, scope, h.mono (fun _ _ hsaved => hsaved) rfl⟩

variable {now : Time}

theorem create_ok {planId : Digest} {count : ℕ} {decisions : List AssetAdmissionDecision}
    {ids : List Digest} {attempt : ℕ} {outcome : AssetDiscoveryOutcome}
    (h : AssetDiscoveryOutcome.create planId count decisions ids attempt now
      AssetDiscoveryError.validation = .ok outcome) :
    outcome.planId = planId ∧ outcome.decisions = Table.orderBy AssetAdmissionDecision.decisionId
        decisions ∧ outcome.authorizedAssetIds = sortedSet ids ∧ outcome.attempt = attempt ∧
      outcome.completedAt = now := by
  simp only [AssetDiscoveryOutcome.create] at h
  split_ifs at h
  obtain rfl := Except.ok.inj h
  exact ⟨rfl, rfl, rfl, rfl, rfl⟩

section Conclude

variable {plan : AssetDiscoveryPlan} {scope : AuthorityScope} {now : Time} {attempt : ℕ}
  {found : List AssetDiscoveryObservation} {outcome : AssetDiscoveryOutcome}

theorem discovery_concluded (h : conclude plan scope now attempt found = .ok outcome) :
    (found.map fun observation => observation.asset.assetId).Nodup ∧
      checkBinding plan scope now = .ok () ∧
      AssetDiscoveryOutcome.create plan.planId found.length
        (found.map fun observation => decideAsset plan.authorization observation now)
        ((authorizedAssets plan.authorization now found).map AuthorizedAsset.authorizedAssetId)
        attempt now AssetDiscoveryError.validation = .ok outcome := by
  simp only [conclude, bind_eq_ok, raiseIf_eq_ok, not_not] at h
  obtain ⟨_, hnodup, _, hbinding, hcreate⟩ := h
  exact ⟨hnodup, hbinding, hcreate⟩

/-- There is one decision for each observation. -/
theorem decisions_perm (h : conclude plan scope now attempt found = .ok outcome) :
    outcome.decisions.Perm
      (found.map fun observation => decideAsset plan.authorization observation now) := by
  rw [(create_ok (discovery_concluded h).2.2).2.1]
  exact List.perm_insertionSort _ _

end Conclude

variable {plan : AssetDiscoveryPlan}

/-- An asset is authorised for the plan it was discovered by. -/
theorem planId_of_authorized {found : List AssetDiscoveryObservation} {asset : AuthorizedAsset}
    (hfound : ∀ observation ∈ found, observation.asset.planId = plan.planId)
    (h : asset ∈ authorizedAssets plan.authorization now found) :
    asset.asset.planId = plan.planId := by
  obtain ⟨observation, hmem, rfl⟩ := List.mem_map.1 h
  exact hfound observation (List.mem_of_mem_filter hmem)

/-- A sound batch holds observations of its plan. -/
theorem planId_of_checkBatch {query : AssetDiscoveryQuery} {batch : AssetDiscoveryBatch}
    (h : checkBatch plan query batch now = .ok ()) :
    ∀ observation ∈ batch.observations, observation.asset.planId = plan.planId := by
  simp only [checkBatch, bind_eq_ok, raiseIf_eq_ok] at h
  obtain ⟨_, -, _, -, hvalid⟩ := h
  intro observation hmem
  by_contra hne
  refine hvalid (List.any_eq_true.2 ⟨observation, hmem, ?_⟩)
  simp [observationInvalid, hne]

namespace AssetDiscoveryStore

variable {store store' : AssetDiscoveryStore} {plan : AssetDiscoveryPlan} {now : Time}
  {claim : AssetDiscoveryClaim}

theorem kept_empty : (empty : AssetDiscoveryStore).Kept := by
  refine ⟨List.nodup_nil, ?_, ?_, ?_⟩ <;> intro _ h <;> cases h

theorem Kept.after_claim (hkept : store.Kept) (h : store.claim plan now = .ok (store', claim)) :
    store'.Kept := by
  rcases claim_ok h with ⟨-, hfresh, rfl⟩ | ⟨-, rfl⟩
  · refine ⟨Table.nodup_key_concat hkept.runs fun row hrow heq => ?_, fun row hrow hstate => ?_,
      fun asset hasset => ?_, fun saved hsaved => ?_⟩
    · simpa [DiscoveryRun.clash, heq] using hfresh row hrow
    · rcases List.mem_append.1 hrow with hrow | hrow
      · exact (hkept.concluded row hrow hstate).of_runs _
      · rw [List.mem_singleton.1 hrow] at hstate
        cases hstate
    · obtain ⟨row, hrow, hplan⟩ := hkept.assets asset hasset
      exact ⟨row, List.mem_append_left _ hrow, hplan⟩
    · obtain ⟨row, hrow, hbound⟩ := hkept.batches saved hsaved
      exact ⟨row, List.mem_append_left _ hrow, hbound⟩
  · exact hkept

/-- The batches stay those of their runs when the runs keep their plans. -/
theorem Kept.batches_of_update (hkept : store.Kept) {p : DiscoveryRun → Bool}
    {f : DiscoveryRun → DiscoveryRun} (hf : ∀ row, (f row).plan = row.plan) :
    ∀ saved ∈ store.batches, ∃ row ∈ Table.update p f store.runs, row.planId = saved.planId ∧
      saved.queryId ∈ row.plan.queries.map AssetDiscoveryQuery.queryId := by
  intro saved hsaved
  obtain ⟨row, hrow, hplan, hbound⟩ := hkept.batches saved hsaved
  refine ⟨_, Table.mem_update.2 ⟨row, hrow, rfl⟩, ?_⟩
  split_ifs
  · rw [DiscoveryRun.planId, hf]
    exact ⟨hplan, hbound⟩
  · exact ⟨hplan, hbound⟩

theorem Kept.after_recover (hkept : store.Kept) (h : store.recover plan now = .ok (store', claim)) :
    store'.Kept := by
  obtain ⟨row₀, -, -, -, rfl⟩ := recover_ok h
  refine ⟨Table.nodup_key_update (fun _ => rfl) hkept.runs, fun row hrow hstate => ?_,
    fun asset hasset => ?_, hkept.batches_of_update fun _ => rfl⟩
  · obtain ⟨row', hrow', rfl⟩ := Table.mem_update.1 hrow
    split_ifs at hstate ⊢ with hattempt
    · simp only [isAttempt, decide_eq_true_eq] at hattempt
      rw [DiscoveryRun.retried, hattempt.2.1] at hstate
      cases hstate
    · exact (hkept.concluded row' hrow' hstate).of_runs _
  · obtain ⟨row, hrow, hplan, hstate⟩ := hkept.assets asset hasset
    refine ⟨row, Table.mem_update.2 ⟨row, hrow, if_neg ?_⟩, hplan, hstate⟩
    simp [isAttempt, hstate]

variable {batch : AssetDiscoveryBatch}

/-- A batch that is saved stays. -/
theorem batch_saved {planId queryId : Digest} (row : BatchRow)
    (h : store.batch planId queryId = some batch) :
    ({ store with batches := store.batches ++ [row] } : AssetDiscoveryStore).batch planId queryId =
      some batch := by
  simp only [AssetDiscoveryStore.batch, Option.map_eq_some_iff] at h ⊢
  obtain ⟨row', hfind, hbatch⟩ := h
  exact ⟨row', by rw [List.find?_append, hfind, Option.some_or], hbatch⟩

/-- A save changes batches only, and keeps those that are saved. -/
theorem saveBatch_grows (h : store.saveBatch plan batch = .ok store') :
    store'.runs = store.runs ∧ store'.assets = store.assets ∧
      (∀ planId queryId saved, store.batch planId queryId = some saved →
        store'.batch planId queryId = some saved) ∧
      store'.batch plan.planId batch.queryId = some batch := by
  rcases (saveBatch_ok h).2 with ⟨hnone, rfl⟩ | ⟨hsome, rfl⟩
  · refine ⟨rfl, rfl, fun planId queryId saved => batch_saved _, ?_⟩
    simp only [AssetDiscoveryStore.batch, Option.map_eq_none_iff] at hnone
    rw [AssetDiscoveryStore.batch, List.find?_append, hnone]
    simp
  · exact ⟨rfl, rfl, fun _ _ _ hsaved => hsaved, hsome⟩

theorem Kept.after_saveBatch (hkept : store.Kept) (h : store.saveBatch plan batch = .ok store') :
    store'.Kept := by
  obtain ⟨hruns, hassets, hgrows, -⟩ := saveBatch_grows h
  refine ⟨?_, fun row hrow hstate => ?_, fun asset hasset => ?_, fun saved hsaved => ?_⟩
  · rw [hruns]
    exact hkept.runs
  · rw [hruns] at hrow
    obtain ⟨outcome, scope, hconcluded⟩ := hkept.concluded row hrow hstate
    refine ⟨outcome, scope, hconcluded.mono (fun _ _ => hgrows _ _ _) ?_⟩
    rw [published, hassets, published]
  · rw [hassets] at hasset
    rw [hruns]
    exact hkept.assets asset hasset
  · rw [hruns]
    obtain ⟨⟨row, hrow, rfl, hbound⟩, hcases⟩ := saveBatch_ok h
    rcases hcases with ⟨-, rfl⟩ | ⟨-, rfl⟩
    · rcases List.mem_append.1 hsaved with hsaved | hsaved
      · exact hkept.batches saved hsaved
      · rw [List.mem_singleton.1 hsaved]
        exact ⟨row, hrow, rfl, hbound⟩
    · exact hkept.batches saved hsaved

/-- Before it completes, nothing is published for a plan. -/
theorem Kept.published_nil (hkept : store.Kept) {row : DiscoveryRun} (hrow : row ∈ store.runs)
    (hstate : row.state = .started) : store.published row.planId = [] := by
  refine List.filter_eq_nil_iff.2 fun asset hasset hplan => ?_
  obtain ⟨row', hrow', hplan', hstate'⟩ := hkept.assets asset hasset
  obtain rfl := Table.eq_of_key hkept.runs hrow hrow'
    (hplan'.trans (by simpa using hplan)).symm
  rw [hstate] at hstate'
  cases hstate'

/-- A completion that was concluded from the batches of its plan. -/
theorem Kept.after_complete (hkept : store.Kept) {outcome : AssetDiscoveryOutcome}
    {scope : AuthorityScope} {attempt : ℕ}
    (hbatches : ∀ query ∈ plan.queries, store.Has plan now query)
    (hconclude : conclude plan scope now attempt (store.observations plan) = .ok outcome)
    (h : store.complete plan outcome
      (authorizedAssets plan.authorization now (store.observations plan)) = .ok store') :
    store'.Kept := by
  obtain ⟨-, -, -, hattempt, hnow⟩ := create_ok (discovery_concluded hconclude).2.2
  obtain ⟨hids, hbacked, row₀, hrow₀, hplan₀, hstate₀, hcount₀, assets, hassets, rfl⟩ :=
    complete_ok h
  subst hplan₀ hattempt hnow
  -- what is published now is all that is published for the plan
  have hown : ∀ asset ∈ authorizedAssets row₀.plan.authorization outcome.completedAt
      (store.observations row₀.plan), asset.asset.planId = row₀.plan.planId := by
    intro asset hasset
    refine planId_of_authorized (fun observation hobservation => ?_) hasset
    obtain ⟨query, hquery, hfound⟩ := List.mem_flatMap.1 hobservation
    obtain ⟨batch, hsaved, hsound⟩ := hbatches query hquery
    rw [found, hsaved] at hfound
    exact planId_of_checkBatch hsound observation hfound
  have hnone := hkept.published_nil hrow₀ hstate₀
  have hnew : assets = store.assets ++ authorizedAssets row₀.plan.authorization
      outcome.completedAt (store.observations row₀.plan) := by
    refine publish_new hassets (fun asset hasset hmem => ?_) ?_
    · have hin : asset ∈ store.published row₀.planId :=
        List.mem_filter.2 ⟨hmem, decide_eq_true (hown asset hasset)⟩
      rw [hnone] at hin
      cases hin
    · have hsorted := outcome.authorizedAssetIds_sorted
      rw [hids] at hsorted
      have hnodup := (hsorted.imp fun hlt => hlt.ne)
      exact List.Nodup.of_map _ ((List.perm_insertionSort _ _).nodup_iff.1 hnodup)
  have hpublished : assets.filter (fun asset => asset.asset.planId = row₀.planId) =
      authorizedAssets row₀.plan.authorization outcome.completedAt
        (store.observations row₀.plan) := by
    have hself := List.filter_eq_self.2 fun asset hasset => decide_eq_true (hown asset hasset)
    rw [hnew, List.filter_append]
    exact (congrArg₂ _ hnone hself).trans (List.nil_append _)
  have hothers : ∀ planId, row₀.planId ≠ planId →
      assets.filter (fun asset => asset.asset.planId = planId) = store.published planId := by
    intro planId hne
    have hnil := List.filter_eq_nil_iff.2 fun asset hasset hplan =>
      hne ((hown asset hasset).symm.trans (of_decide_eq_true hplan))
    rw [hnew, List.filter_append]
    exact (congrArg₂ _ rfl hnil).trans (List.append_nil _)
  have hselected : isAttempt row₀.plan outcome.attempt row₀ = true :=
    decide_eq_true ⟨rfl, hstate₀, hcount₀⟩
  refine ⟨Table.nodup_key_update (fun _ => rfl) hkept.runs, fun row hrow hstate => ?_,
    fun asset hasset => ?_, hkept.batches_of_update fun _ => rfl⟩
  · obtain ⟨row', hrow', rfl⟩ := Table.mem_update.1 hrow
    by_cases hplan : row'.planId = row₀.planId
    · obtain rfl := Table.eq_of_key hkept.runs hrow' hrow₀ hplan
      rw [if_pos hselected]
      refine ⟨outcome, scope, rfl, hbatches, hconclude, ?_, ?_, hpublished⟩
      · exact hids.trans (congrArg (fun assets => Table.orderBy id
          (assets.map AuthorizedAsset.authorizedAssetId)) hpublished.symm)
      · intro asset hasset
        exact hbacked asset (hpublished ▸ hasset)
    · have hnot : isAttempt row₀.plan outcome.attempt row' = false :=
        decide_eq_false fun hall => hplan hall.1
      rw [if_neg (Bool.not_eq_true _ ▸ hnot)] at hstate ⊢
      obtain ⟨outcome', scope', hconcluded⟩ := hkept.concluded row' hrow' hstate
      exact ⟨outcome', scope', hconcluded.mono (fun _ _ hsaved => hsaved)
        (hothers _ fun heq => hplan heq.symm)⟩
  · rw [hnew] at hasset
    rcases List.mem_append.1 hasset with hasset | hasset
    · obtain ⟨row, hrow, hplan, hstate⟩ := hkept.assets asset hasset
      refine ⟨row, Table.mem_update.2 ⟨row, hrow, if_neg ?_⟩, hplan, hstate⟩
      simp [isAttempt, hstate]
    · exact ⟨_, Table.mem_update.2 ⟨row₀, hrow₀, if_pos hselected⟩, (hown asset hasset).symm, rfl⟩

end AssetDiscoveryStore

/-! ## The call under way -/

/-- The observations in hand are those of the queries that are done. -/
structure DiscoveryRunning.Gathered (store : AssetDiscoveryStore) (running : DiscoveryRunning)
    (done : List AssetDiscoveryQuery) : Prop where
  batches : ∀ query ∈ done, store.Has running.call.plan running.call.now query
  observations : running.observations = done.flatMap (store.found running.call.plan)

/-- What a call has read still says something about the ledger. -/
def DiscoveryFrame.Reads (store : AssetDiscoveryStore) : DiscoveryFrame → Prop
  | .entry _ => True
  | .query running rest =>
    ∃ done, running.call.plan.queries = done ++ rest ∧ running.Gathered store done
  | .ask running current rest =>
    (∃ done, running.call.plan.queries = done ++ current :: rest ∧ running.Gathered store done) ∧
      store.batch running.call.plan.planId current.queryId = none
  | .save running current batch rest =>
    (∃ done, running.call.plan.queries = done ++ current :: rest ∧ running.Gathered store done) ∧
      batch.queryId = current.queryId
  | .loaded running current batch rest =>
    (∃ done, running.call.plan.queries = done ++ current :: rest ∧ running.Gathered store done) ∧
      store.batch running.call.plan.planId current.queryId = some batch

/-- The batches that are saved stay, and the adapter is not asked for them. -/
structure DiscoveryWorld.Grows (before after : DiscoveryWorld) : Prop where
  batches : ∀ planId queryId batch, before.store.batch planId queryId = some batch →
    after.store.batch planId queryId = some batch
  sent : ∀ planId queryId batch, before.store.batch planId queryId = some batch →
    after.sent.count (planId, queryId) = before.sent.count (planId, queryId)

namespace DiscoveryWorld.Grows

theorem refl (world : DiscoveryWorld) : world.Grows world :=
  ⟨fun _ _ _ h => h, fun _ _ _ _ => rfl⟩

theorem trans {a b c : DiscoveryWorld} (h : a.Grows b) (h' : b.Grows c) : a.Grows c := by
  refine ⟨fun _ _ _ hsaved => h'.batches _ _ _ (h.batches _ _ _ hsaved),
    fun _ _ _ hsaved => ?_⟩
  rw [h'.sent _ _ _ (h.batches _ _ _ hsaved), h.sent _ _ _ hsaved]

/-- A step that asks nothing. -/
theorem of_store {world : DiscoveryWorld} {store : AssetDiscoveryStore}
    (h : ∀ planId queryId batch, world.store.batch planId queryId = some batch →
      store.batch planId queryId = some batch) : world.Grows ⟨store, world.sent⟩ :=
  ⟨h, fun _ _ _ _ => rfl⟩

end DiscoveryWorld.Grows

namespace DiscoveryRunning

variable {running running' : DiscoveryRunning}

theorem check_ok (h : running.check = .ok running') :
    running' = { running with looks := running.looks + 1 } := by
  simp only [check, bind_eq_ok, raiseIf_eq_ok, pure_eq_ok] at h
  obtain ⟨_, -, rfl⟩ := h
  rfl

variable {batch : AssetDiscoveryBatch} {query : AssetDiscoveryQuery}

theorem extend_ok (h : running.extend query batch = .ok running') :
    checkBatch running.call.plan query batch running.call.now = .ok () ∧
      running' = { running with observations := running.observations ++ batch.observations } := by
  simp only [extend, bind_eq_ok, raiseIf_eq_ok, pure_eq_ok] at h
  obtain ⟨_, hcheck, _, -, rfl⟩ := h
  exact ⟨hcheck, rfl⟩

variable {store : AssetDiscoveryStore} {done : List AssetDiscoveryQuery}

theorem Gathered.mono {store' : AssetDiscoveryStore}
    (h : ∀ planId queryId batch, store.batch planId queryId = some batch →
      store'.batch planId queryId = some batch) (hgathered : running.Gathered store done) :
    running.Gathered store' done := by
  refine ⟨fun query hquery => ?_, ?_⟩
  · obtain ⟨batch, hsaved, hsound⟩ := hgathered.batches query hquery
    exact ⟨batch, h _ _ _ hsaved, hsound⟩
  · rw [hgathered.observations]
    refine List.flatMap_congr fun query hquery => ?_
    obtain ⟨batch, hsaved, -⟩ := hgathered.batches query hquery
    rw [AssetDiscoveryStore.found, AssetDiscoveryStore.found, hsaved, h _ _ _ hsaved]

/-- One more query is done. -/
theorem Gathered.extend (hgathered : running.Gathered store done)
    (hsaved : store.batch running.call.plan.planId query.queryId = some batch)
    (h : running.extend query batch = .ok running') :
    running'.Gathered store (done ++ [query]) ∧ running'.call = running.call := by
  obtain ⟨hcheck, rfl⟩ := extend_ok h
  refine ⟨⟨fun query' hquery' => ?_, ?_⟩, rfl⟩
  · rcases List.mem_append.1 hquery' with hquery' | hquery'
    · exact hgathered.batches query' hquery'
    · rw [List.mem_singleton.1 hquery']
      exact ⟨batch, hsaved, hcheck⟩
  · simp only [hgathered.observations, List.flatMap_append, List.flatMap_cons, List.flatMap_nil,
      AssetDiscoveryStore.found, hsaved, Option.map_some, Option.getD_some, List.append_nil]

end DiscoveryRunning

/-! ## Steps -/

namespace DiscoveryWorld

variable {world : DiscoveryWorld}

/-- What a step keeps. -/
structure StepKeeps (world : DiscoveryWorld) (result : DiscoveryWorld × DiscoveryNext) : Prop where
  kept : result.1.store.Kept
  reads : ∀ frame, result.2 = .inl frame → frame.Reads result.1.store
  grows : world.Grows result.1

/-- A step that raises has changed nothing; one that does not goes on. -/
theorem raising_keeps {β : Type} {asked : DiscoveryWorld} {x : Except AssetDiscoveryError β}
    {rest : β → DiscoveryWorld × DiscoveryNext} (hasked : asked.store.Kept)
    (hgrows : world.Grows asked) (hok : ∀ b, x = .ok b → world.StepKeeps (rest b)) :
    world.StepKeeps (asked.raising x rest) := by
  cases x with
  | error e => exact ⟨hasked, fun _ h => (nomatch h), hgrows⟩
  | ok b => exact hok b rfl

theorem opens_keeps (hkept : world.store.Kept) (call : DiscoveryCall) :
    world.StepKeeps (world.next (.entry call)) := by
  refine raising_keeps hkept (.refl _) fun opened hopened => ?_
  obtain ⟨store, claim⟩ := opened
  simp only [opens, bind_eq_ok] at hopened
  obtain ⟨_, -, hopened⟩ := hopened
  have hstore : store.Kept ∧ store.batches = world.store.batches := by
    split_ifs at hopened
    · obtain ⟨_, -, -, -, rfl⟩ := AssetDiscoveryStore.recover_ok hopened
      exact ⟨hkept.after_recover hopened, rfl⟩
    · refine ⟨hkept.after_claim hopened, ?_⟩
      rcases AssetDiscoveryStore.claim_ok hopened with ⟨-, -, rfl⟩ | ⟨-, rfl⟩ <;> rfl
  refine ⟨hstore.1, fun frame hframe => ?_, .of_store fun planId queryId batch hsaved => ?_⟩
  · unfold claimed at hframe
    split at hframe
    · obtain rfl := Sum.inl.inj hframe
      exact ⟨[], rfl, fun _ h => (by cases h), rfl⟩
    · cases hframe
    · cases hframe
  · rw [AssetDiscoveryStore.batch, hstore.2]
    exact hsaved

variable {running : DiscoveryRunning}

theorem finishes_keeps (hkept : world.store.Kept)
    (hreads : (DiscoveryFrame.query running []).Reads world.store) :
    world.StepKeeps (world.next (.query running [])) := by
  refine raising_keeps hkept (.refl _) fun done hdone => ?_
  simp only [finishes, bind_eq_ok, pure_eq_ok] at hdone
  obtain ⟨outcome, hconclude, _, -, store, hcomplete, rfl⟩ := hdone
  obtain ⟨queries, hqueries, hgathered⟩ := hreads
  rw [List.append_nil] at hqueries
  have hobservations : running.observations = world.store.observations running.call.plan := by
    rw [hgathered.observations, AssetDiscoveryStore.observations, hqueries]
  rw [hobservations] at hconclude hcomplete
  refine ⟨hkept.after_complete (hqueries ▸ hgathered.batches) hconclude hcomplete,
    fun _ h => (by cases h), .of_store fun planId queryId batch hsaved => ?_⟩
  obtain ⟨-, -, -, -, -, -, -, -, -, rfl⟩ := AssetDiscoveryStore.complete_ok hcomplete
  exact hsaved

variable {query : AssetDiscoveryQuery} {rest : List AssetDiscoveryQuery}

theorem query_keeps (hkept : world.store.Kept)
    (hreads : (DiscoveryFrame.query running (query :: rest)).Reads world.store) :
    world.StepKeeps (world.next (.query running (query :: rest))) := by
  refine raising_keeps hkept (.refl _) fun running' hcheck => ?_
  obtain rfl := DiscoveryRunning.check_ok hcheck
  obtain ⟨done, hqueries, hgathered⟩ := hreads
  cases hbatch : world.store.batch running.call.plan.planId query.queryId with
  | none =>
    refine ⟨hkept, fun frame hframe => ?_, .refl _⟩
    obtain rfl := Sum.inl.inj hframe
    exact ⟨⟨done, hqueries, hgathered.batches, hgathered.observations⟩, hbatch⟩
  | some batch =>
    refine ⟨hkept, fun frame hframe => ?_, .refl _⟩
    obtain rfl := Sum.inl.inj hframe
    exact ⟨⟨done, hqueries, hgathered.batches, hgathered.observations⟩, hbatch⟩

/-- The adapter is asked only while the query has no batch. -/
theorem ask_keeps (hkept : world.store.Kept)
    (hreads : (DiscoveryFrame.ask running query rest).Reads world.store) :
    world.StepKeeps (world.next (.ask running query rest)) := by
  obtain ⟨⟨done, hqueries, hgathered⟩, hnone⟩ := hreads
  have hgrows : world.Grows
      ⟨world.store, world.sent ++ [(running.call.plan.planId, query.queryId)]⟩ := by
    refine ⟨fun _ _ _ h => h, fun planId queryId batch hsaved => ?_⟩
    have hne : (running.call.plan.planId, query.queryId) ≠ (planId, queryId) := by
      rintro ⟨⟩
      rw [hnone] at hsaved
      cases hsaved
    simp [List.count_append, hne]
  refine raising_keeps hkept hgrows fun answered hanswered => ?_
  simp only [bind_eq_ok, mapError_eq_ok, pure_eq_ok] at hanswered
  obtain ⟨batch, -, running', hcheck, _, hsound, rfl⟩ := hanswered
  obtain rfl := DiscoveryRunning.check_ok hcheck
  refine ⟨hkept, fun frame hframe => ?_, hgrows⟩
  obtain rfl := Sum.inl.inj hframe
  refine ⟨⟨done, hqueries, hgathered.batches, hgathered.observations⟩, ?_⟩
  simp only [checkBatch, bind_eq_ok, raiseIf_eq_ok, not_or, not_not] at hsound
  obtain ⟨_, hbound, -⟩ := hsound
  exact hbound.1

variable {batch : AssetDiscoveryBatch}

theorem save_keeps (hkept : world.store.Kept)
    (hreads : (DiscoveryFrame.save running query batch rest).Reads world.store) :
    world.StepKeeps (world.next (.save running query batch rest)) := by
  refine raising_keeps hkept (.refl _) fun store hstore => ?_
  obtain ⟨⟨done, hqueries, hgathered⟩, hbound⟩ := hreads
  obtain ⟨-, -, hgrows, hsaved⟩ := AssetDiscoveryStore.saveBatch_grows hstore
  refine ⟨hkept.after_saveBatch hstore, fun frame hframe => ?_, .of_store hgrows⟩
  obtain rfl := Sum.inl.inj hframe
  exact ⟨⟨done, hqueries, hgathered.mono hgrows⟩, hbound ▸ hsaved⟩

theorem loaded_keeps (hkept : world.store.Kept)
    (hreads : (DiscoveryFrame.loaded running query batch rest).Reads world.store) :
    world.StepKeeps (world.next (.loaded running query batch rest)) := by
  refine raising_keeps hkept (.refl _) fun running' hextend => ?_
  obtain ⟨⟨done, hqueries, hgathered⟩, hsaved⟩ := hreads
  obtain ⟨hgathered', hcall⟩ := hgathered.extend hsaved hextend
  refine ⟨hkept, fun frame hframe => ?_, .refl _⟩
  obtain rfl := Sum.inl.inj hframe
  refine ⟨done ++ [query], ?_, hgathered'⟩
  rw [hcall, hqueries, List.append_assoc, List.singleton_append]

theorem next_keeps (hkept : world.store.Kept) {frame : DiscoveryFrame}
    (hreads : frame.Reads world.store) : world.StepKeeps (world.next frame) := by
  match frame with
  | .entry call => exact opens_keeps hkept call
  | .query _ [] => exact finishes_keeps hkept hreads
  | .query _ (_ :: _) => exact query_keeps hkept hreads
  | .ask _ _ _ => exact ask_keeps hkept hreads
  | .save _ _ _ _ => exact save_keeps hkept hreads
  | .loaded _ _ _ _ => exact loaded_keeps hkept hreads

end DiscoveryWorld

/-! ## Runs -/

/-- The ledger and the call under way after some moves of the processes. -/
def discoveryRun (moves : List (Move DiscoveryCall)) : Session DiscoveryWorld DiscoveryFrame :=
  Transition.run discovery.move (.idle .empty) moves

theorem discoveryRun_keeps (moves : List (Move DiscoveryCall)) :
    (discoveryRun moves).Keeps (fun world => world.store.Kept)
      (fun world frame => frame.Reads world.store) := by
  refine Program.keeps_run (fun _ _ _ => trivial) (fun world frame hkept hreads => ?_) moves
    (Session.keeps_idle AssetDiscoveryStore.kept_empty)
  have hstep := DiscoveryWorld.next_keeps hkept hreads
  exact ⟨hstep.kept, hstep.reads⟩

theorem discoveryRun_grows (moves more : List (Move DiscoveryCall)) :
    (discoveryRun moves).store.Grows (discoveryRun (moves ++ more)).store := by
  rw [discoveryRun, discoveryRun, Transition.run_append]
  refine Program.related_run .refl .trans (fun _ _ _ => trivial)
    (fun world frame hkept hreads => ?_) (fun world frame hkept hreads => ?_) more
    (discoveryRun_keeps moves)
  · have hstep := DiscoveryWorld.next_keeps hkept hreads
    exact ⟨hstep.kept, hstep.reads⟩
  · exact (DiscoveryWorld.next_keeps hkept hreads).grows

end VulnLoom

import VulnLoom.SurfaceReduction
import Mathlib.Data.List.Perm.Basic

/-!
# What becomes of a reduction

Each observation has one place in the inventory, and the inventory is the same in whatever order the
observations are read. But an endpoint may hold no more than a hundred status codes, and its peer
has to be written as `ipaddress` writes it, which no observation is held to : there a reduction
fails where it builds its records (`reduce_settles_iff`).
-/

set_option linter.unusedSectionVars false

namespace VulnLoom

namespace Surface

open TimedLoop

section

variable [PythonIpaddress] [ReductionDigests]

/-! ## The validators -/

section Validators

variable {world : ReductionWorld} {plan : AttackSurfaceReductionPlan} {items : List Admitted}

/-- The observations are the surfaces and the service identities. -/
theorem split_perm {β : Type} (f : Admitted → β) : ∀ items : List Admitted,
    (((surfacesIn items).map fun record => f (.surface record.1 record.2)) ++
      (identitiesIn items).map fun record => f (.identity record.1 record.2)).Perm (items.map f)
  | [] => .nil
  | .surface _ _ :: items => (split_perm f items).cons _
  | .identity _ _ :: items =>
    List.perm_middle.trans ((split_perm f items).cons _)

theorem checkItems_eq_ok : world.checkItems plan items = .ok () ↔
    Table.orderBy id (snapshotIdsIn items) = plan.snapshotIds ∧
      (Table.sortDistinct (items.flatMap Admitted.evidenceRefs)).length ≤
        plan.limits.maxEvidenceRefs ∧
      (∀ ref ∈ items.flatMap Admitted.evidenceRefs, world.contains ref = true) ∧
      (keysIn items).length ≤ plan.limits.maxEndpoints := by
  simp [ReductionWorld.checkItems]

/-- The observations are those of the plan, and the checks of the reducer pass. -/
structure Checked (world : ReductionWorld) (plan : AttackSurfaceReductionPlan)
    (items : List Admitted) : Prop where
  observed : (items.map fun item => item.observation.observationId).Perm plan.observationIds
  check : world.checkItems plan items = .ok ()

namespace Checked

variable (h : Checked world plan items)

include h

theorem snapshotIds : Table.orderBy id (snapshotIdsIn items) = plan.snapshotIds :=
  (checkItems_eq_ok.1 h.check).1

theorem evidence_length : (Table.sortDistinct (items.flatMap Admitted.evidenceRefs)).length ≤
    60000 :=
  (checkItems_eq_ok.1 h.check).2.1.trans plan.limits.maxEvidenceRefs_bounds.2

theorem keys_length : (keysIn items).length ≤ 10000 :=
  (checkItems_eq_ok.1 h.check).2.2.2.trans plan.limits.maxEndpoints_bounds.2

theorem items_length : 1 ≤ items.length ∧ items.length ≤ 10000 := by
  have hlength := h.observed.length_eq
  rw [List.length_map] at hlength
  rw [hlength]
  exact plan.observationIds_length

theorem surfaces_length : (surfacesIn items).length + (identitiesIn items).length =
    items.length := by
  have hlength := (split_perm id items).length_eq
  simpa using hlength

/-- No observation is there twice. -/
theorem nodup_observationIds :
    (((surfacesIn items).map fun record => record.1.observationId) ++
      (identitiesIn items).map fun record => record.1.observationId).Nodup :=
  ((split_perm (fun item => item.observation.observationId) items).trans h.observed).nodup_iff.2
    (plan.observationIds_sorted.imp ne_of_lt)

/-- No snapshot is there twice. -/
theorem nodup_snapshotIds : (snapshotIdsIn items).Nodup := by
  rw [← (Table.perm_orderBy id _).nodup_iff, h.snapshotIds]
  exact plan.snapshotIds_sorted.imp ne_of_lt

end Checked

/-- Distinct members of a list are no more than the list. -/
theorem length_sortDistinct_le {α : Type} [LinearOrder α] {l l' : List α}
    (h : ∀ a ∈ l, a ∈ l') : (Table.sortDistinct l).length ≤ l'.length :=
  (List.subperm_of_subset (Table.nodup_sortDistinct l) fun a ha =>
    h a (Table.mem_sortDistinct.1 ha)).length_le

theorem one_le_length_sortDistinct {α : Type} [LinearOrder α] {l : List α} {a : α} (h : a ∈ l) :
    1 ≤ (Table.sortDistinct l).length :=
  List.length_pos_of_mem (Table.mem_sortDistinct.2 h)

theorem min?_le_max? {l : List ℕ} {a : ℕ} (h : a ∈ l) : l.min?.getD 0 ≤ l.max?.getD 0 := by
  obtain ⟨least, hleast⟩ := Option.isSome_iff_exists.1 (List.isSome_min?_of_mem h)
  obtain ⟨greatest, hgreatest⟩ := Option.isSome_iff_exists.1 (List.isSome_max?_of_mem h)
  rw [hleast, hgreatest]
  exact ((List.min?_eq_some_iff.1 hleast).2 a h).trans ((List.max?_eq_some_iff.1 hgreatest).2 a h)

variable {record : RedTeamReconObservation × AttackSurfaceSnapshot}

theorem mem_recordsAt {key : EndpointKey} :
    record ∈ recordsAt items key ↔ record ∈ surfacesIn items ∧ record.2.endpointKey = key := by
  simp [recordsAt]

variable {ref : Digest}

theorem evidence_of_surface (hrecord : record ∈ surfacesIn items)
    (href : ref ∈ record.2.evidenceRefs) : ref ∈ items.flatMap Admitted.evidenceRefs := by
  obtain ⟨item, hitem, heq⟩ := List.mem_filterMap.1 hrecord
  cases item with
  | identity => cases heq
  | surface observation surface =>
    cases heq
    exact List.mem_flatMap.2 ⟨_, hitem, href⟩

/-- The validators of an endpoint take what is put under its key. -/
theorem sealed_endpoint (h : Checked world plan items) (hrecordable : Recordable items)
    {key : EndpointKey} (hkey : key ∈ keysIn items) : (endpointValues items key).Sealed := by
  obtain ⟨record, hrecord, rfl⟩ := mem_keysIn.1 hkey
  have hmem : record ∈ recordsAt items record.2.endpointKey := mem_recordsAt.2 ⟨hrecord, rfl⟩
  have hlength : (recordsAt items record.2.endpointKey).length ≤ 10000 := by
    have hle : (recordsAt items record.2.endpointKey).length ≤ (surfacesIn items).length :=
      List.length_filter_le _ _
    have := h.surfaces_length
    have := h.items_length
    omega
  have hpos : 1 ≤ (recordsAt items record.2.endpointKey).length := List.length_pos_of_mem hmem
  exact {
    peerIp_length := record.2.peerIp_length
    peerIp_normalized := hrecordable.peers record hrecord
    statusCodes_length := ⟨one_le_length_sortDistinct (List.mem_map_of_mem hmem),
      hrecordable.statusCodes _ hkey⟩
    redirectCounts_length := by
      refine ⟨one_le_length_sortDistinct (List.mem_map_of_mem hmem),
        (length_sortDistinct_le fun count hcount => ?_).trans (List.length_range (n := 6)).le⟩
      obtain ⟨other, -, rfl⟩ := List.mem_map.1 hcount
      exact List.mem_range.2 (Nat.lt_succ_of_le other.2.redirectCount_le)
    observationIds_length := by
      simpa [endpointValues] using ⟨hpos, hlength⟩
    snapshotIds_length := by
      simpa [endpointValues] using ⟨hpos, hlength⟩
    evidenceRefs_length := by
      obtain ⟨ref, href⟩ := List.exists_mem_of_length_pos record.2.evidenceRefs_length.1
      refine ⟨one_le_length_sortDistinct (List.mem_flatMap.2 ⟨record, hmem, href⟩), ?_⟩
      refine (length_sortDistinct_le fun ref href => ?_).trans h.evidence_length
      obtain ⟨other, hother, href⟩ := List.mem_flatMap.1 href
      exact Table.mem_sortDistinct.2 (evidence_of_surface (mem_recordsAt.1 hother).1 href)
    statusCodes_sorted := Table.pairwise_sortDistinct _
    statusCodes_bounds := by
      intro code hcode
      obtain ⟨other, -, rfl⟩ := List.mem_map.1 (Table.mem_sortDistinct.1 hcode)
      exact other.2.statusCode_bounds
    redirectCounts_sorted := Table.pairwise_sortDistinct _
    redirectCounts_bounds := by
      intro count hcount
      obtain ⟨other, -, rfl⟩ := List.mem_map.1 (Table.mem_sortDistinct.1 hcount)
      exact other.2.redirectCount_le
    observationIds_sorted := by
      refine Table.pairwise_orderBy id ?_
      rw [List.map_id]
      exact ((List.nodup_append.1 h.nodup_observationIds).1).sublist
        (List.filter_sublist.map _)
    snapshotIds_sorted := by
      refine Table.pairwise_orderBy id ?_
      rw [List.map_id]
      exact ((List.nodup_append.1 h.nodup_snapshotIds).1).sublist (List.filter_sublist.map _)
    evidenceRefs_sorted := Table.pairwise_sortDistinct _
    serviceIdentityIds_sorted := by
      refine Table.pairwise_orderBy id ?_
      rw [List.map_id]
      exact ((List.nodup_append.1 h.nodup_snapshotIds).2.1).sublist (List.filter_sublist.map _)
    paired := by simp [endpointValues]
    observed := min?_le_max? (List.mem_map_of_mem hmem) }

theorem evidence_of_identity {record : RedTeamReconObservation × ServiceIdentitySnapshot}
    (hrecord : record ∈ identitiesIn items) (href : ref ∈ record.2.evidenceRefs) :
    ref ∈ items.flatMap Admitted.evidenceRefs := by
  obtain ⟨item, hitem, heq⟩ := List.mem_filterMap.1 hrecord
  cases item with
  | surface => cases heq
  | identity observation identity =>
    cases heq
    exact List.mem_flatMap.2 ⟨_, hitem, href⟩

variable {observation : RedTeamReconObservation}

theorem mem_surfacesIn {surface : AttackSurfaceSnapshot} :
    (observation, surface) ∈ surfacesIn items ↔ .surface observation surface ∈ items := by
  constructor
  · intro h
    obtain ⟨item, hitem, heq⟩ := List.mem_filterMap.1 h
    cases item with
    | identity => cases heq
    | surface =>
      cases heq
      exact hitem
  · exact fun h => List.mem_filterMap.2 ⟨_, h, rfl⟩

theorem mem_identitiesIn {identity : ServiceIdentitySnapshot} :
    (observation, identity) ∈ identitiesIn items ↔ .identity observation identity ∈ items := by
  constructor
  · intro h
    obtain ⟨item, hitem, heq⟩ := List.mem_filterMap.1 h
    cases item with
    | surface => cases heq
    | identity =>
      cases heq
      exact hitem
  · exact fun h => List.mem_filterMap.2 ⟨_, h, rfl⟩

theorem mem_evidence_iff : ref ∈ items.flatMap Admitted.evidenceRefs ↔
    (∃ record ∈ surfacesIn items, ref ∈ record.2.evidenceRefs) ∨
      ∃ record ∈ identitiesIn items, ref ∈ record.2.evidenceRefs := by
  constructor
  · intro h
    obtain ⟨item, hitem, href⟩ := List.mem_flatMap.1 h
    cases item with
    | surface observation surface => exact .inl ⟨_, mem_surfacesIn.2 hitem, href⟩
    | identity observation identity => exact .inr ⟨_, mem_identitiesIn.2 hitem, href⟩
  · rintro (⟨record, hrecord, href⟩ | ⟨record, hrecord, href⟩)
    · exact evidence_of_surface hrecord href
    · exact evidence_of_identity hrecord href

theorem nodup_keysIn (items : List Admitted) : (keysIn items).Nodup :=
  List.nodup_reverse.2 (List.nodup_dedup _)

section

variable {endpoints : List AttackSurfaceEndpoint} {entries : List AttackSurfaceServiceIdentity}
  (hendpoints : endpoints.map AttackSurfaceEndpoint.toAttackSurfaceEndpointValues =
    (keysIn items).map (endpointValues items))
  (hentries : entries.map AttackSurfaceServiceIdentity.told =
    (identitiesIn items).map (fun record => (record.1.observationId, record.2)))

variable {α : Type}

include hendpoints in
theorem mem_flatMap_endpoints (f : AttackSurfaceEndpointValues → List α) (a : α) :
    a ∈ (Table.orderBy (fun endpoint => endpoint.endpointId) endpoints).flatMap
        (fun endpoint => f endpoint.toAttackSurfaceEndpointValues) ↔
      ∃ key ∈ keysIn items, a ∈ f (endpointValues items key) := by
  have hflat : endpoints.flatMap (fun endpoint => f endpoint.toAttackSurfaceEndpointValues) =
      ((keysIn items).map (endpointValues items)).flatMap f := by
    rw [← hendpoints, List.flatMap_map]
  have hperm := (Table.perm_orderBy (fun endpoint : AttackSurfaceEndpoint => endpoint.endpointId)
    endpoints).flatMap_right fun endpoint => f endpoint.toAttackSurfaceEndpointValues
  rw [hperm.mem_iff, hflat, List.flatMap_map, List.mem_flatMap]

include hentries in
theorem map_entries (f : Digest × ServiceIdentitySnapshot → α) :
    entries.map (fun entry => f (entry.observationId, entry.identity)) =
      (identitiesIn items).map fun record => f (record.1.observationId, record.2) := by
  have hmap := congrArg (List.map f) hentries
  rw [List.map_map, List.map_map] at hmap
  exact hmap

include hentries in
theorem mem_map_entries (f : Digest × ServiceIdentitySnapshot → α) (a : α) :
    a ∈ (Table.orderBy (fun entry => entry.identity.snapshotId) entries).map
        (fun entry => f (entry.observationId, entry.identity)) ↔
      a ∈ (identitiesIn items).map fun record => f (record.1.observationId, record.2) := by
  rw [((Table.perm_orderBy _ entries).map _).mem_iff, map_entries hentries f]

include hendpoints in
theorem exists_key_of_mem {endpoint : AttackSurfaceEndpoint} (h : endpoint ∈ endpoints) :
    ∃ key ∈ keysIn items,
      endpoint.toAttackSurfaceEndpointValues = endpointValues items key := by
  have hmem := List.mem_map_of_mem (f := AttackSurfaceEndpoint.toAttackSurfaceEndpointValues) h
  rw [hendpoints] at hmem
  obtain ⟨key, hkey, heq⟩ := List.mem_map.1 hmem
  exact ⟨key, hkey, heq.symm⟩

include hentries in
theorem exists_record_of_mem {entry : AttackSurfaceServiceIdentity} (h : entry ∈ entries) :
    ∃ record ∈ identitiesIn items, entry.observationId = record.1.observationId ∧
      entry.identity = record.2 := by
  have hmem := List.mem_map_of_mem (f := AttackSurfaceServiceIdentity.told) h
  rw [hentries] at hmem
  obtain ⟨record, hrecord, heq⟩ := List.mem_map.1 hmem
  exact ⟨record, hrecord, (Prod.mk.inj heq).1.symm, (Prod.mk.inj heq).2.symm⟩

theorem mem_serviceIdentityIds {key : EndpointKey} {id : Digest} :
    id ∈ (endpointValues items key).serviceIdentityIds ↔ ∃ record ∈ identitiesIn items,
      record.2.endpointUrlDigest = key.requestedUrlDigest ∧ record.2.peerIp = key.peerIp ∧
        record.2.snapshotId = id := by
  simp only [endpointValues, Table.mem_orderBy, List.mem_map, List.mem_filter,
    decide_eq_true_eq, and_assoc]

/-- What is put under the keys is what is there. -/
theorem exists_key_iff (f : RedTeamReconObservation × AttackSurfaceSnapshot → α) {a : α} :
    (∃ key ∈ keysIn items, a ∈ (recordsAt items key).map f) ↔
      a ∈ (surfacesIn items).map f := by
  constructor
  · rintro ⟨key, -, ha⟩
    obtain ⟨record, hrecord, rfl⟩ := List.mem_map.1 ha
    exact List.mem_map_of_mem (mem_recordsAt.1 hrecord).1
  · intro ha
    obtain ⟨record, hrecord, rfl⟩ := List.mem_map.1 ha
    exact ⟨_, mem_keysIn.2 ⟨record, hrecord, rfl⟩,
      List.mem_map_of_mem (mem_recordsAt.2 ⟨hrecord, rfl⟩)⟩

include hendpoints hentries in
/-- The validator of the inventory takes what is put together. -/
theorem sealed_inventory (h : Checked world plan items) (hrecordable : Recordable items) :
    (ReductionWorld.inventoryValues plan items endpoints entries).Sealed := by
  have hsizes := h.surfaces_length
  have hitems := h.items_length
  have hendpointsLength : endpoints.length = (keysIn items).length := by
    simpa using congrArg List.length hendpoints
  have hentriesLength : entries.length = (identitiesIn items).length := by
    simpa using congrArg List.length hentries
  exact {
    observationIds_length := plan.observationIds_length
    snapshotIds_length := plan.paired ▸ plan.observationIds_length
    evidenceRefs_length := by
      refine ⟨?_, h.evidence_length⟩
      obtain ⟨item, hitem⟩ := List.exists_mem_of_length_pos hitems.1
      have hrefs : 1 ≤ item.evidenceRefs.length := by
        cases item with
        | surface observation surface => exact surface.evidenceRefs_length.1
        | identity observation identity => exact identity.evidenceRefs_length.ge
      obtain ⟨ref, href⟩ := List.exists_mem_of_length_pos hrefs
      exact one_le_length_sortDistinct (List.mem_flatMap.2 ⟨item, hitem, href⟩)
    endpoints_length := by
      have hkeys := h.keys_length
      simpa [ReductionWorld.inventoryValues, hendpointsLength] using hkeys
    serviceIdentities_length := by
      have hle : (identitiesIn items).length ≤ 10000 := by omega
      simpa [ReductionWorld.inventoryValues, hentriesLength] using hle
    observationIds_sorted := plan.observationIds_sorted
    snapshotIds_sorted := plan.snapshotIds_sorted
    evidenceRefs_sorted := Table.pairwise_sortDistinct _
    endpoints_sorted := by
      refine List.pairwise_map.2 (Table.pairwise_orderBy _ ?_)
      have hids : endpoints.map (fun endpoint => endpoint.endpointId) =
          (keysIn items).map canonicalDigest := by
        have hmap := congrArg (List.map fun values : AttackSurfaceEndpointValues =>
          canonicalDigest (EndpointKey.mk values.requestedUrlDigest values.finalUrlDigest
            values.peerIp)) hendpoints
        rw [List.map_map, List.map_map] at hmap
        exact hmap
      rw [hids]
      exact (nodup_keysIn items).map_on fun key hkey key' hkey' =>
        hrecordable.endpointIds key hkey key' hkey'
    serviceIdentities_sorted := by
      refine List.pairwise_map.2 (Table.pairwise_orderBy _ ?_)
      have hids := map_entries hentries fun told => told.2.snapshotId
      rw [hids]
      exact (List.nodup_append.1 h.nodup_snapshotIds).2.1
    attached := by
      intro endpoint hendpoint id hid
      obtain ⟨key, -, hvalues⟩ :=
        exists_key_of_mem hendpoints ((Table.mem_orderBy _).1 hendpoint)
      rw [hvalues] at hid
      obtain ⟨record, hrecord, -, -, rfl⟩ := mem_serviceIdentityIds.1 hid
      have hids := map_entries hentries fun told => told.2.snapshotId
      have hmem : record.2.snapshotId ∈ entries.map fun entry => entry.identity.snapshotId := by
        rw [hids]
        exact List.mem_map_of_mem hrecord
      obtain ⟨entry, hentry, heq⟩ := List.mem_map.1 hmem
      exact List.mem_map.2 ⟨entry, (Table.mem_orderBy _).2 hentry, heq⟩
    attachment := by
      intro endpoint hendpoint entry hentry hid
      obtain ⟨key, -, hvalues⟩ :=
        exists_key_of_mem hendpoints ((Table.mem_orderBy _).1 hendpoint)
      obtain ⟨record, hrecord, -, hidentity⟩ :=
        exists_record_of_mem hentries ((Table.mem_orderBy _).1 hentry)
      rw [hvalues] at hid ⊢
      obtain ⟨record', hrecord', hurl, hpeer, heq⟩ := mem_serviceIdentityIds.1 hid
      rw [hidentity] at heq ⊢
      have hnodup := (List.nodup_append.1 h.nodup_snapshotIds).2.1
      rw [← Table.eq_of_key hnodup hrecord' hrecord heq]
      exact ⟨hurl, hpeer⟩
    nonempty := by
      obtain ⟨item, hitem⟩ := List.exists_mem_of_length_pos hitems.1
      cases item with
      | surface observation surface =>
        have hkey := mem_keysIn.2 ⟨_, mem_surfacesIn.2 hitem, rfl⟩
        refine .inl (List.ne_nil_of_length_pos ?_)
        have hpos := List.length_pos_of_mem hkey
        simpa [ReductionWorld.inventoryValues, hendpointsLength] using hpos
      | identity observation identity =>
        refine .inr (List.ne_nil_of_length_pos ?_)
        have hpos := List.length_pos_of_mem (mem_identitiesIn.2 hitem)
        simpa [ReductionWorld.inventoryValues, hentriesLength] using hpos
    paired := plan.paired
    observationIds_cover := by
      intro id
      have hall := ((split_perm (fun item => item.observation.observationId) items).trans
        h.observed).mem_iff (a := id)
      have hhttp := mem_flatMap_endpoints hendpoints (fun values => values.observationIds) id
      have htls := mem_map_entries hentries (fun told => told.1) id
      refine hall.symm.trans ?_
      rw [List.mem_append, List.mem_append]
      refine or_congr ?_ htls.symm
      refine (exists_key_iff fun record => record.1.observationId).symm.trans ?_
      refine Iff.trans ?_ hhttp.symm
      simp only [endpointValues, Table.mem_orderBy]
    snapshotIds_cover := by
      intro id
      have hhttp := mem_flatMap_endpoints hendpoints (fun values => values.snapshotIds) id
      have htls := mem_map_entries hentries (fun told => told.2.snapshotId) id
      have hall : id ∈ plan.snapshotIds ↔ id ∈ snapshotIdsIn items := by
        rw [← h.snapshotIds, Table.mem_orderBy]
      refine hall.trans ?_
      rw [snapshotIdsIn, List.mem_append, List.mem_append]
      refine or_congr ?_ htls.symm
      refine (exists_key_iff fun record => record.2.snapshotId).symm.trans ?_
      refine Iff.trans ?_ hhttp.symm
      simp only [endpointValues, Table.mem_orderBy]
    evidenceRefs_cover := by
      intro ref
      have hhttp := mem_flatMap_endpoints hendpoints (fun values => values.evidenceRefs) ref
      have htls := mem_map_entries hentries fun told => told.2.evidenceRefs
      refine Table.mem_sortDistinct.trans (mem_evidence_iff.trans ?_)
      rw [List.mem_append]
      refine or_congr ?_ ?_
      · refine Iff.trans ?_ hhttp.symm
        simp only [endpointValues, Table.mem_sortDistinct, List.mem_flatMap, mem_recordsAt]
        constructor
        · rintro ⟨record, hrecord, href⟩
          exact ⟨_, mem_keysIn.2 ⟨record, hrecord, rfl⟩, record, ⟨hrecord, rfl⟩, href⟩
        · rintro ⟨_, -, record, ⟨hrecord, -⟩, href⟩
          exact ⟨record, hrecord, href⟩
      · rw [List.flatMap_def, List.mem_flatten]
        simp only [ReductionWorld.inventoryValues, htls, List.mem_map]
        constructor
        · rintro ⟨record, hrecord, href⟩
          exact ⟨_, ⟨record, hrecord, rfl⟩, href⟩
        · rintro ⟨_, ⟨record, hrecord, rfl⟩, href⟩
          exact ⟨record, hrecord, href⟩ }

end

/-- The validators take the observations that they can take. -/
theorem exists_describes (h : Checked world plan items) (hrecordable : Recordable items) :
    ∃ inventory, Describes plan items inventory := by
  obtain ⟨endpoints, hendpoints⟩ : ∃ endpoints : List AttackSurfaceEndpoint,
      endpoints.map AttackSurfaceEndpoint.toAttackSurfaceEndpointValues =
        (keysIn items).map (endpointValues items) :=
    exists_map_eq fun key hkey => ⟨⟨_, sealed_endpoint h hrecordable hkey⟩, rfl⟩
  obtain ⟨entries, hentries⟩ : ∃ entries : List AttackSurfaceServiceIdentity,
      entries.map AttackSurfaceServiceIdentity.told =
        (identitiesIn items).map (fun record => (record.1.observationId, record.2)) :=
    exists_map_eq fun record hrecord =>
      ⟨⟨_, record.2, hrecordable.identities record hrecord⟩, rfl⟩
  exact ⟨⟨_, sealed_inventory hendpoints hentries h hrecordable⟩,
    describes_iff.1 ⟨endpoints, entries, hendpoints, hentries, rfl⟩⟩

/-- Where there is an inventory to assemble, nothing but the time can stop it. -/
theorem assemble_eq_error {inventory : AttackSurfaceInventory}
    (hcheck : world.checkItems plan items = .ok ()) (h : Describes plan items inventory)
    {deadline : Deadline} {e : ReductionError}
    (he : world.assemble plan items deadline = .error e) : e = reductionTimedOut := by
  obtain ⟨endpoints, entries, hendpoints, hentries, hvalues⟩ := describes_iff.2 h
  have hplain : plain (keep fun key => AttackSurfaceEndpoint.create (endpointValues items key)) []
      (keysIn items) = .ok endpoints := by
    refine plain_keep_eq_ok_iff.2 ⟨endpoints, ?_, rfl⟩
    simp only [AttackSurfaceEndpoint.create_eq_ok]
    exact forall₂_map_eq_iff.2 hendpoints
  have hmapM : (identitiesIn items).mapM ReductionWorld.identityEntry = .ok entries := by
    rw [mapM_eq_ok]
    simp only [ReductionWorld.identityEntry, AttackSurfaceServiceIdentity.create_eq_ok]
    exact forall₂_map_eq_iff.2 hentries
  have hcreate : AttackSurfaceInventory.create
      (ReductionWorld.inventoryValues plan items endpoints entries) = .ok inventory :=
    AttackSurfaceInventory.create_eq_ok.2 hvalues
  rw [ReductionWorld.assemble, hcheck, ok_bind, bind_eq_error] at he
  rcases he with he | ⟨⟨built, later⟩, hbuilt, he⟩
  · rcases each_eq_error he with ⟨hlate, -⟩ | hnever
    · exact hlate
    · rw [hplain] at hnever
      cases hnever
  · have hbuilt := (each_eq_ok_iff.1 hbuilt).1
    rw [hplain] at hbuilt
    cases hbuilt
    simp only [bind_eq_error] at he
    rcases he with he | ⟨_, -, he⟩
    · exact (Deadline.check_eq_error he).1
    · rw [hmapM] at he
      rcases he with he | ⟨_, hentry, he⟩
      · cases he
      · cases hentry
        rw [hcreate] at he
        cases he

/-- In time, it is a validator that stops the assembly of the observations. -/
theorem assemble_eq_error_of_inTime (hcheck : world.checkItems plan items = .ok ())
    {deadline : Deadline} (hin : deadline.InTime ((keysIn items).length + 1)) {e : ReductionError}
    (he : world.assemble plan items deadline = .error e) :
    ∃ message, e = .validationError message := by
  rw [deadline.inTime_add] at hin
  rw [ReductionWorld.assemble, hcheck, ok_bind, bind_eq_error] at he
  rcases he with he | ⟨⟨built, later⟩, hbuilt, he⟩
  · rcases each_eq_error he with ⟨-, hlate⟩ | hplain
    · exact absurd hin.1 hlate
    · obtain ⟨key, -, hcreate⟩ := plain_keep_eq_error hplain
      unfold AttackSurfaceEndpoint.create at hcreate
      split_ifs at hcreate
      cases hcreate
      exact ⟨_, rfl⟩
  · obtain ⟨-, -, rfl⟩ := each_eq_ok_iff.1 hbuilt
    simp only [bind_eq_error] at he
    rcases he with he | ⟨_, -, he | ⟨_, -, he⟩⟩
    · exact absurd hin.2 (Deadline.check_eq_error he).2
    · obtain ⟨record, -, hcreate⟩ := exists_error_of_mapM he
      unfold ReductionWorld.identityEntry AttackSurfaceServiceIdentity.create at hcreate
      split_ifs at hcreate
      cases hcreate
      exact ⟨_, rfl⟩
    · unfold AttackSurfaceInventory.create at he
      split_ifs at he
      cases he
      exact ⟨_, rfl⟩

end Validators

/-! ## Places -/

section Places

variable {world : ReductionWorld} {plan : AttackSurfaceReductionPlan} {items : List Admitted}
  {inventory : AttackSurfaceInventory}

theorem Describes.exists_key (h : Describes plan items inventory) {endpoint : AttackSurfaceEndpoint}
    (hendpoint : endpoint ∈ inventory.endpoints) : ∃ key ∈ keysIn items,
      endpoint.toAttackSurfaceEndpointValues = endpointValues items key := by
  obtain ⟨endpoints, entries, hendpoints, -, hvalues⟩ := describes_iff.2 h
  rw [hvalues] at hendpoint
  exact exists_key_of_mem hendpoints ((Table.mem_orderBy _).1 hendpoint)

theorem Describes.exists_record (h : Describes plan items inventory)
    {entry : AttackSurfaceServiceIdentity} (hentry : entry ∈ inventory.serviceIdentities) :
    ∃ record ∈ identitiesIn items, entry.observationId = record.1.observationId ∧
      entry.identity = record.2 := by
  obtain ⟨endpoints, entries, -, hentries, hvalues⟩ := describes_iff.2 h
  rw [hvalues] at hentry
  exact exists_record_of_mem hentries ((Table.mem_orderBy _).1 hentry)

/-- Each observation has one place. -/
theorem Describes.placed (h : Describes plan items inventory) (hchecked : Checked world plan items)
    {item : Admitted} (hitem : item ∈ items) : Placed inventory item := by
  have hids := List.nodup_append.1 hchecked.nodup_observationIds
  have hsnapshots := List.nodup_append.1 hchecked.nodup_snapshotIds
  cases item with
  | surface observation surface =>
    have hrecord := mem_surfacesIn.2 hitem
    have hkey := mem_keysIn.2 ⟨_, hrecord, rfl⟩
    have hat := mem_recordsAt.2 ⟨hrecord, rfl⟩
    have hmem : endpointValues items surface.endpointKey ∈ inventory.endpoints.map
        AttackSurfaceEndpoint.toAttackSurfaceEndpointValues := by
      rw [h.endpoints]
      exact List.mem_map_of_mem ((Table.mem_orderBy _).2 hkey)
    obtain ⟨endpoint, hendpoint, hvalues⟩ := List.mem_map.1 hmem
    refine ⟨⟨endpoint, hendpoint, ?_, ?_, ?_, ?_⟩, ?_⟩
    · rw [AttackSurfaceEndpoint.key, hvalues]
      rfl
    · rw [hvalues]
      exact (Table.mem_orderBy _).2 (List.mem_map_of_mem hat)
    · rw [hvalues]
      exact (Table.mem_orderBy _).2 (List.mem_map_of_mem hat)
    · intro other hother hshared
      obtain ⟨key, hkey, hothers⟩ := h.exists_key hother
      have hsame : key = surface.endpointKey := by
        rw [hothers] at hshared
        simp only [endpointValues, Table.mem_orderBy, List.mem_map] at hshared
        rcases hshared with ⟨record, hrecord', heq⟩ | ⟨record, hrecord', heq⟩
        · obtain ⟨hin, rfl⟩ := mem_recordsAt.1 hrecord'
          rw [Table.eq_of_key hids.1 hin hrecord heq]
        · obtain ⟨hin, rfl⟩ := mem_recordsAt.1 hrecord'
          rw [Table.eq_of_key hsnapshots.1 hin hrecord heq]
      rw [hsame, ← hvalues] at hothers
      exact AttackSurfaceEndpoint.values_injective hothers
    · intro entry hentry
      obtain ⟨record, hrecord', hid, hidentity⟩ := h.exists_record hentry
      rw [hid, hidentity]
      exact ⟨(hids.2.2 _ (List.mem_map_of_mem hrecord) _ (List.mem_map_of_mem hrecord')).symm,
        (hsnapshots.2.2 _ (List.mem_map_of_mem hrecord) _ (List.mem_map_of_mem hrecord')).symm⟩
  | identity observation identity =>
    have hrecord := mem_identitiesIn.2 hitem
    have hmem : (observation.observationId, identity) ∈ inventory.serviceIdentities.map
        AttackSurfaceServiceIdentity.told := by
      rw [h.serviceIdentities]
      exact (Table.mem_orderBy _).2 (List.mem_map_of_mem hrecord)
    obtain ⟨entry, hentry, htold⟩ := List.mem_map.1 hmem
    obtain ⟨hid, hidentity⟩ := Prod.mk.inj htold
    refine ⟨⟨entry, hentry, hid, hidentity, ?_⟩, ?_⟩
    · intro other hother hshared
      obtain ⟨record, hrecord', hother', hidentity'⟩ := h.exists_record hother
      have hsame : record = (observation, identity) := by
        rw [hother', hidentity'] at hshared
        rcases hshared with heq | heq
        · exact Table.eq_of_key hids.2.1 hrecord' hrecord heq
        · exact Table.eq_of_key hsnapshots.2.1 hrecord' hrecord heq
      refine AttackSurfaceServiceIdentity.told_injective ?_
      rw [htold, AttackSurfaceServiceIdentity.told, hother', hidentity', hsame]
    · intro endpoint hendpoint
      obtain ⟨key, -, hvalues⟩ := h.exists_key hendpoint
      rw [hvalues]
      simp only [endpointValues, Table.mem_orderBy, List.mem_map, not_exists, not_and]
      constructor
      · intro record hrecord'
        exact hids.2.2 _ (List.mem_map_of_mem (mem_recordsAt.1 hrecord').1) _
          (List.mem_map_of_mem hrecord)
      · intro record hrecord'
        exact hsnapshots.2.2 _ (List.mem_map_of_mem (mem_recordsAt.1 hrecord').1) _
          (List.mem_map_of_mem hrecord)

end Places

/-! ## Reductions -/

section Reductions

variable {world : ReductionWorld} {plan : AttackSurfaceReductionPlan} {scope : Scope} {now : Time}

/-- The store holds the flow of the plan, and each of the observations with its action. -/
structure ReductionWorld.Holds (world : ReductionWorld) (plan : AttackSurfaceReductionPlan) :
    Prop where
  flow : ∃ flowPlan checkpoint, world.plan plan.flowPlanId = some flowPlan ∧
    world.latest flowPlan.planId = some checkpoint
  observations : ∀ id ∈ plan.observationIds, ∃ observation action,
    world.observation id = some observation ∧ world.action observation.actionId = some action

/-- A rejection that the service declares; the store rejects only what it does not hold. -/
inductive Declared (world : ReductionWorld) (plan : AttackSurfaceReductionPlan) :
    ReductionError → Prop
  | rejected (message : String) : Declared world plan (.rejected message)
  | timedOut (message : String) : Declared world plan (.timedOut message)
  | storeRejected (message : String) (h : ¬world.Holds plan) :
      Declared world plan (.storeRejected message)

/-- What the observations of some identifiers are admitted as. -/
def ReductionWorld.Fetched (world : ReductionWorld) (plan : AttackSurfaceReductionPlan)
    (ids : List Digest) (items : List Admitted) : Prop :=
  items.map Except.ok = ids.map (world.fetch plan)

/-- The observations pass what the service checks of them. -/
structure Admissible (world : ReductionWorld) (plan : AttackSurfaceReductionPlan) (scope : Scope)
    (now : Time) (items : List Admitted) : Prop where
  binding : world.currentBinding plan scope now = .ok ()
  fetched : world.Fetched plan plan.observationIds items
  check : world.checkItems plan items = .ok ()

/-- What a reduction is to do, in whatever order it reads the observations. -/
structure Settles (world : ReductionWorld) (plan : AttackSurfaceReductionPlan) (scope : Scope)
    (now : Time) : Prop where
  placed : ∀ clock inventory, world.reduce plan scope now clock = .ok inventory →
    inventory.observationIds = plan.observationIds ∧ inventory.snapshotIds = plan.snapshotIds ∧
      ∀ id ∈ plan.observationIds, ∃ item, world.fetch plan id = .ok item ∧ Placed inventory item
  ordered : ∀ clock ids, ids.Perm plan.observationIds → ∀ inventory,
    world.reduceOver plan scope now clock ids = .ok inventory ↔
      world.reduce plan scope now clock = .ok inventory
  declared : ∀ clock ids, ids.Perm plan.observationIds → ∀ e,
    world.reduceOver plan scope now clock ids = .error e → Declared world plan e

theorem observationId_of_fetch {id : Digest} {item : Admitted}
    (h : world.fetch plan id = .ok item) : item.observation.observationId = id := by
  simp only [ReductionWorld.fetch, bind_eq_ok, orRaise_eq_ok] at h
  obtain ⟨observation, hobservation, action, -, hadmit⟩ := h
  have hitem : item.observation = observation := by
    simp only [admitObservation, bind_eq_ok] at hadmit
    obtain ⟨-, -, hadmit⟩ := hadmit
    split at hadmit <;> simp only [bind_eq_ok, pure_eq_ok, throw_ne_ok] at hadmit
    · obtain ⟨-, -, rfl⟩ := hadmit
      rfl
    · obtain ⟨-, -, rfl⟩ := hadmit
      rfl
  rw [hitem]
  exact world.observation_id hobservation

variable {ids : List Digest} {items : List Admitted}

theorem fetched_iff : world.Fetched plan ids items ↔
    List.Forall₂ (fun id item => world.fetch plan id = .ok item) ids items := by
  rw [ReductionWorld.Fetched, ← forall₂_map_eq_iff]
  simp only [eq_comm]

theorem map_of_fetched (h : world.Fetched plan ids items) :
    (items.map fun item => item.observation.observationId) = ids := by
  have hall := fetched_iff.1 h
  clear h
  induction hall with
  | nil => rfl
  | cons hfetch _ ih => rw [List.map_cons, observationId_of_fetch hfetch, ih]

variable {ids' : List Digest} {items' : List Admitted}

theorem perm_of_fetched (h : world.Fetched plan ids items) (h' : world.Fetched plan ids' items')
    (hperm : ids.Perm ids') : items.Perm items' := by
  have hinj : Function.Injective (Except.ok : Admitted → Except ReductionError Admitted) :=
    fun _ _ heq => Except.ok.inj heq
  rw [← List.map_perm_map_iff hinj, h, h']
  exact hperm.map _

theorem exists_fetched (h : world.Fetched plan ids items) (hperm : ids.Perm ids') :
    ∃ items', world.Fetched plan ids' items' := by
  refine exists_map_eq fun id hid => ?_
  have hmem := List.mem_map_of_mem (f := world.fetch plan) (hperm.mem_iff.2 hid)
  rw [← h] at hmem
  obtain ⟨item, -, heq⟩ := List.mem_map.1 hmem
  exact ⟨item, heq⟩

theorem checkItems_of_perm (hperm : items.Perm items') (h : world.checkItems plan items = .ok ()) :
    world.checkItems plan items' = .ok () := by
  have hevidence := hperm.flatMap_right Admitted.evidenceRefs
  obtain ⟨hsnapshots, hrefs, hcontains, hkeys⟩ := checkItems_eq_ok.1 h
  refine checkItems_eq_ok.2 ⟨?_, ?_, fun ref href => hcontains ref (hevidence.mem_iff.2 href), ?_⟩
  · rw [← hsnapshots]
    exact orderBy_id_eq_of_perm
      (((hperm.filterMap _).map _).append ((hperm.filterMap _).map _)).symm
  · rwa [← Table.sortDistinct_congr fun ref => hevidence.mem_iff (a := ref)]
  · rwa [← (keysIn_perm hperm).length_eq]

variable {inventory : AttackSurfaceInventory}

/-- A reduction returns an inventory of its observations, where it is in time. -/
theorem reduceOver_eq_ok_iff {clock : ℕ → ℚ} :
    world.reduceOver plan scope now clock ids = .ok inventory ↔
      world.currentBinding plan scope now = .ok () ∧ ∃ items, world.Fetched plan ids items ∧
        (Deadline.start plan.limits.timeoutSeconds clock).InTime
          (ids.length + ((keysIn items).length + 1)) ∧
        world.checkItems plan items = .ok () ∧ Describes plan items inventory := by
  simp only [ReductionWorld.reduceOver, bind_eq_ok, Prod.exists, each_eq_ok_iff,
    plain_keep_eq_ok_iff, List.nil_append, assemble_eq_ok_iff, Deadline.inTime_add _, fetched_iff]
  constructor
  · rintro ⟨_, hbinding, items, _, ⟨⟨_, hfetched, rfl⟩, hin, rfl⟩, hcheck, hlate, h⟩
    exact ⟨hbinding, items, hfetched, ⟨hin, hlate⟩, hcheck, h⟩
  · rintro ⟨hbinding, items, hfetched, ⟨hin, hlate⟩, hcheck, h⟩
    exact ⟨(), hbinding, items, _, ⟨⟨_, hfetched, rfl⟩, hin, rfl⟩, hcheck, hlate, h⟩

/-- What one order of the observations is reduced to, another one is. -/
theorem reduceOver_of_perm {clock : ℕ → ℚ} (hperm : ids.Perm ids')
    (h : world.reduceOver plan scope now clock ids = .ok inventory) :
    world.reduceOver plan scope now clock ids' = .ok inventory := by
  obtain ⟨hbinding, items, hfetched, hin, hcheck, hdescribes⟩ := reduceOver_eq_ok_iff.1 h
  obtain ⟨items', hfetched'⟩ := exists_fetched hfetched hperm
  have hitems := perm_of_fetched hfetched hfetched' hperm
  rw [hperm.length_eq, (keysIn_perm hitems).length_eq] at hin
  exact reduceOver_eq_ok_iff.2 ⟨hbinding, items', hfetched', hin, checkItems_of_perm hitems hcheck,
    hdescribes.perm hitems⟩

variable {e : ReductionError}

/-- The errors of the parts of a reduction that no record is built in. -/
theorem declared_of_binding (h : world.currentBinding plan scope now = .error e) :
    Declared world plan e := by
  simp only [ReductionWorld.currentBinding, bind_eq_error, raiseIf_eq_error, orRaise_eq_error,
    orRaise_eq_ok] at h
  rcases h with ⟨-, rfl⟩ | ⟨_, -, ⟨hnone, rfl⟩ | ⟨flowPlan, hflow, ⟨hnone, rfl⟩ |
    ⟨_, -, ⟨-, rfl⟩ | ⟨_, -, -, rfl⟩⟩⟩⟩
  · exact .rejected _
  · refine .storeRejected _ fun hholds => ?_
    obtain ⟨_, _, hsome, -⟩ := hholds.flow
    rw [hnone] at hsome
    cases hsome
  · refine .storeRejected _ fun hholds => ?_
    obtain ⟨_, _, hsome, hlatest⟩ := hholds.flow
    rw [hflow] at hsome
    cases hsome
    rw [hnone] at hlatest
    cases hlatest
  · exact .rejected _
  · exact .rejected _

theorem declared_of_fetch {id : Digest} (hid : id ∈ plan.observationIds)
    (h : world.fetch plan id = .error e) : Declared world plan e := by
  simp only [ReductionWorld.fetch, bind_eq_error, orRaise_eq_error, orRaise_eq_ok] at h
  rcases h with ⟨hnone, rfl⟩ | ⟨observation, hobservation, ⟨hnone, rfl⟩ | ⟨action, -, hadmit⟩⟩
  · refine .storeRejected _ fun hholds => ?_
    obtain ⟨_, _, hsome, -⟩ := hholds.observations id hid
    rw [hnone] at hsome
    cases hsome
  · refine .storeRejected _ fun hholds => ?_
    obtain ⟨_, _, hsome, haction⟩ := hholds.observations id hid
    rw [hobservation] at hsome
    cases hsome
    rw [hnone] at haction
    cases haction
  · simp only [admitObservation, bind_eq_error, raiseIf_eq_error] at hadmit
    rcases hadmit with ⟨-, rfl⟩ | ⟨_, -, hadmit⟩
    · exact .rejected _
    · split at hadmit
      · simp only [bind_eq_error, raiseIf_eq_error, pure_ne_error, and_false, exists_false,
          or_false] at hadmit
        rw [← hadmit.2]
        exact .rejected _
      · simp only [bind_eq_error, raiseIf_eq_error, pure_ne_error, and_false, exists_false,
          or_false] at hadmit
        rw [← hadmit.2]
        exact .rejected _
      · cases hadmit
        exact .rejected _

theorem declared_of_checkItems (h : world.checkItems plan items = .error e) :
    Declared world plan e := by
  simp only [ReductionWorld.checkItems, bind_eq_error, raiseIf_eq_error] at h
  rcases h with ⟨-, rfl⟩ | ⟨_, -, ⟨-, rfl⟩ | ⟨_, -, ⟨-, rfl⟩ | ⟨_, -, -, rfl⟩⟩⟩ <;>
    exact .rejected _

/-- A reduction that fails only as the service declares takes what passes its checks. -/
theorem Settles.recordable (h : Settles world plan scope now)
    (hadmissible : Admissible world plan scope now items) : Recordable items := by
  have hstill : (Deadline.start plan.limits.timeoutSeconds fun _ => 0).InTime
      (plan.observationIds.length + ((keysIn items).length + 1)) :=
    Deadline.inTime_of_still _ plan.limits.timeoutSeconds_bounds.1 (fun _ => rfl) _
  cases hreduce : world.reduce plan scope now fun _ => 0 with
  | ok inventory =>
    obtain ⟨-, items', hfetched, -, -, hdescribes⟩ := reduceOver_eq_ok_iff.1 hreduce
    exact (hdescribes.perm (perm_of_fetched hfetched hadmissible.fetched .rfl)).recordable
  | error e =>
    have hdeclared := h.declared _ _ .rfl e hreduce
    have hplain : plain (keep (world.fetch plan)) [] plan.observationIds = .ok items :=
      plain_keep_eq_ok_iff.2 ⟨items, fetched_iff.1 hadmissible.fetched, rfl⟩
    rw [Deadline.inTime_add] at hstill
    have heach : each reductionTimedOut (keep (world.fetch plan))
        (.start plan.limits.timeoutSeconds fun _ => 0) [] plan.observationIds = .ok (items, _) :=
      each_eq_ok_iff.2 ⟨hplain, hstill.1, rfl⟩
    rw [ReductionWorld.reduce, ReductionWorld.reduceOver, hadmissible.binding, ok_bind, heach,
      ok_bind] at hreduce
    obtain ⟨message, rfl⟩ := assemble_eq_error_of_inTime hadmissible.check hstill.2 hreduce
    cases hdeclared

/-- A reduction places each observation once and is the same in every order, and it fails only as
the service declares exactly where the validators take the observations that pass its checks. -/
theorem reduce_settles_iff (world : ReductionWorld) (plan : AttackSurfaceReductionPlan)
    (scope : Scope) (now : Time) : Settles world plan scope now ↔
      ∀ items, Admissible world plan scope now items → Recordable items := by
  constructor
  · exact fun h items hadmissible => h.recordable hadmissible
  · intro h
    refine ⟨?_, fun clock ids hperm inventory =>
      ⟨reduceOver_of_perm hperm, reduceOver_of_perm hperm.symm⟩, ?_⟩
    · intro clock inventory hreduce
      obtain ⟨-, items, hfetched, -, hcheck, hdescribes⟩ := reduceOver_eq_ok_iff.1 hreduce
      have hchecked : Checked world plan items := ⟨.of_eq (map_of_fetched hfetched), hcheck⟩
      refine ⟨hdescribes.observationIds, hdescribes.snapshotIds, fun id hid => ?_⟩
      rw [← map_of_fetched hfetched] at hid
      obtain ⟨item, hitem, rfl⟩ := List.mem_map.1 hid
      refine ⟨item, ?_, hdescribes.placed hchecked hitem⟩
      have hmem : (.ok item : Except ReductionError Admitted) ∈
          plan.observationIds.map (world.fetch plan) :=
        hfetched ▸ List.mem_map_of_mem hitem
      obtain ⟨id, -, hfetch⟩ := List.mem_map.1 hmem
      rwa [observationId_of_fetch hfetch]
    · intro clock ids hperm e hreduce
      rw [ReductionWorld.reduceOver, bind_eq_error] at hreduce
      rcases hreduce with hbinding | ⟨_, hbinding, hreduce⟩
      · exact declared_of_binding hbinding
      · rw [bind_eq_error] at hreduce
        rcases hreduce with heach | ⟨⟨items, deadline⟩, heach, hassemble⟩
        · rcases each_eq_error heach with ⟨rfl, -⟩ | hplain
          · exact .timedOut _
          · obtain ⟨id, hid, hfetch⟩ := plain_keep_eq_error hplain
            exact declared_of_fetch (hperm.mem_iff.1 hid) hfetch
        · obtain ⟨_, hfetched, rfl⟩ := plain_keep_eq_ok_iff.1 (each_eq_ok_iff.1 heach).1
          have hfetched := fetched_iff.2 hfetched
          have hassemble : world.assemble plan items deadline = .error e := hassemble
          cases hcheck : world.checkItems plan items with
          | error e' =>
            rw [ReductionWorld.assemble, hcheck] at hassemble
            cases hassemble
            exact declared_of_checkItems hcheck
          | ok _ =>
            obtain ⟨items', hfetched'⟩ := exists_fetched hfetched hperm
            have hitems := perm_of_fetched hfetched hfetched' hperm
            have hcheck' := checkItems_of_perm hitems hcheck
            obtain ⟨inventory, hdescribes⟩ := exists_describes
              ⟨.of_eq (map_of_fetched hfetched'), hcheck'⟩ (h items' ⟨hbinding, hfetched', hcheck'⟩)
            rw [assemble_eq_error hcheck (hdescribes.perm hitems.symm) hassemble]
            exact .timedOut _

end Reductions

end

/-! ## A hundred and one status codes -/

section

def sampleAddress : IpForms.Address :=
  .v4 0x0a000001

/-- `ipaddress` on one peer. -/
@[reducible] def samplePeer : PythonIpaddress where
  parseIp value := if value = "10.0.0.1" then some sampleAddress else none
  strIp _ := "10.0.0.1"
  mappedClass := IpForms.classOf4
  parse_str value address h := by
    split_ifs at h
    rw [if_pos rfl, h]

/-- A text for a number, in the order of the numbers. -/
def mark (n : ℕ) : String :=
  String.ofList (List.replicate n 'a')

theorem mark_lt {n m : ℕ} (h : n < m) : mark n < mark m := by
  rw [String.lt_iff_toList_lt, mark, mark, String.toList_ofList, String.toList_ofList]
  induction n generalizing m with
  | zero =>
    cases m with
    | zero => omega
    | succ m => exact List.nil_lt_cons _ _
  | succ n ih =>
    cases m with
    | zero => omega
    | succ m => exact List.cons_lt_cons_self.2 (ih (by omega))

attribute [local instance] samplePeer

@[reducible] def sampleDigests : ReductionDigests where
  endpointKey := ⟨fun key => key.peerIp⟩
  surface := ⟨fun surface => mark surface.statusCode⟩
  identity := ⟨fun identity => identity.leafCertificateSha256⟩
  observation := ⟨fun observation => mark (observation.statusCode.getD 0)⟩
  action := ⟨fun action => action.idempotencyKey⟩
  flowPlan := ⟨fun plan => plan.idempotencyKey⟩
  checkpoint := ⟨fun checkpoint => checkpoint.planId⟩
  plan := ⟨fun plan => plan.idempotencyKey⟩
  urlDigest url := url

attribute [local instance] sampleDigests

/-- The identifier of the observation of a status code. -/
def sampleId (i : Fin 101) : String :=
  mark (100 + i)

theorem sampleId_lt {i j : Fin 101} (h : i < j) : sampleId i < sampleId j :=
  mark_lt (Nat.add_lt_add_left h 100)

theorem sampleId_injective : Function.Injective sampleId := by
  intro i j h
  rcases lt_trichotomy i j with hlt | heq | hlt
  · exact absurd h (sampleId_lt hlt).ne
  · exact heq
  · exact absurd h (sampleId_lt hlt).ne'

def sampleSurface (i : Fin 101) : AttackSurfaceSnapshot where
  planId := "f"
  actionId := sampleId i
  targetId := "t"
  scopeId := "s"
  scopeVersion := 1
  requestedUrlDigest := "https://t"
  finalUrlDigest := "https://t"
  statusCode := 100 + i
  peerIp := "10.0.0.1"
  redirectCount := 0
  evidenceRefs := ["e"]
  policyRecordDigests := ["r"]
  capturedAt := 1
  statusCode_bounds := by omega
  peerIp_length := by decide
  redirectCount_le := HttpLimits.maxRedirects_default
  evidenceRefs_length := by decide
  policyRecordDigests_length := by decide

def sampleObservation (i : Fin 101) : RedTeamReconObservation where
  actionId := sampleId i
  outcome := .succeeded
  statusCode := some (100 + i)
  reasonCode := "live_http_head_succeeded"
  cleanupComplete := true
  sensitiveDataRedacted := true
  attackSurface := some (sampleSurface i)
  serviceIdentity := none
  webResponse := none
  observedAt := 1
  isSealed :=
    { cleanup := fun _ => rfl
      redacted := rfl
      attackSurface := by
        intro s hs
        cases hs
        exact ⟨rfl, rfl, rfl⟩
      serviceIdentity := by
        intro s hs
        cases hs
      webResponse := by
        intro s hs
        cases hs
      one_snapshot := le_rfl }

def sampleRecon (i : Fin 101) : RedTeamReconAction where
  planId := "f"
  expectedCheckpointId := "c"
  kind := .httpHead
  targetUrl := "https://t"
  testClass := "x"
  createdAt := 0
  deadline := 5
  idempotencyKey := sampleId i
  deadline_after := by decide

def sampleFlow : RedTeamFlowPlan where
  target := ⟨"t", "https://t"⟩
  rules :=
    { scopeId := "s"
      scopeVersion := 1
      targetId := "t"
      phases := [.recon]
      allowedTestClasses := ["x"]
      allowedImpacts := [.readOnly]
      approvalRequiredImpacts := []
      prohibitedImpacts := []
      stopConditions := ⟨100, 1000, 2, by decide, two_of_twenty⟩ }
  createdAt := 0
  deadline := 100
  idempotencyKey := "f"
  target_bound := (rfl : "t" = "t")
  deadline_bounds := by decide

def sampleLatest : RedTeamCheckpoint where
  planId := "f"
  revision := 0
  status := .running
  actionsUsed := 0
  consecutiveFailures := 0
  observationIds := []
  stopReason := none
  updatedAt := 2
  terminal_iff_stopReason := rfl
  observationIds_nodup := List.nodup_nil

def sampleReductionScope : Scope where
  scopeId := "s"
  engagementId := "g"
  version := 1
  validFrom := 0
  validUntil := 100
  repositories := []
  artifacts := []
  networkTargets := []
  allowedTestClasses := ["x"]
  deniedActions := []
  approvalRequirements := []
  state := .approved
  window := sampleScope.window

def sampleIds : List Digest :=
  (List.finRange 101).map sampleId

theorem sampleIds_sorted : sampleIds.Pairwise (· < ·) :=
  List.pairwise_map.2 ((List.pairwise_lt_finRange 101).imp sampleId_lt)

theorem length_sampleIds : sampleIds.length = 101 := by
  rw [sampleIds, List.length_map, List.length_finRange]

def sampleReduction : AttackSurfaceReductionPlan where
  flowPlanId := "f"
  sourceCheckpointId := "f"
  targetId := "t"
  scopeId := "s"
  scopeVersion := 1
  observationIds := sampleIds
  snapshotIds := sampleIds
  limits := ⟨1000, 1000, 6000, 30, 3, by decide, by decide, by decide,
    timeout_bounds, last_of_three⟩
  createdAt := 3
  deadline := 50
  idempotencyKey := "k"
  observationIds_length := by
    rw [length_sampleIds]
    decide
  deadline_after := three_lt_fifty
  observationIds_sorted := sampleIds_sorted
  snapshotIds_sorted := sampleIds_sorted
  paired := rfl
  within := by
    rw [length_sampleIds]
    decide

/-- The status code that an identifier is of. -/
def sampleIndex (id : Digest) : Option (Fin 101) :=
  (List.finRange 101).find? fun i => sampleId i = id

theorem sampleIndex_sampleId (i : Fin 101) : sampleIndex (sampleId i) = some i :=
  Table.find?_key ((List.nodup_finRange 101).map sampleId_injective) (List.mem_finRange i)

def sampleReductionWorld : ReductionWorld where
  plan id := if id = "f" then some sampleFlow else none
  latest id := if id = "f" then some sampleLatest else none
  observation id := (sampleIndex id).map sampleObservation
  action id := (sampleIndex id).map sampleRecon
  contains _ := true
  observation_id := by
    intro id o h
    obtain ⟨i, hi, rfl⟩ := Option.map_eq_some_iff.1 h
    have hid : sampleId i = id := by simpa using List.find?_some hi
    exact hid

/-- The one endpoint. -/
def sampleKey : EndpointKey :=
  ⟨"https://t", "https://t", "10.0.0.1"⟩

/-- The items that the observations are admitted as. -/
def sampleItems : List Admitted :=
  (List.finRange 101).map fun i => .surface (sampleObservation i) (sampleSurface i)

theorem sample_admissible :
    Admissible sampleReductionWorld sampleReduction sampleReductionScope 10 sampleItems where
  binding := by decide
  fetched := by
    change sampleItems.map Except.ok = sampleIds.map _
    rw [sampleItems, sampleIds, List.map_map, List.map_map]
    refine List.map_congr_left fun i _ => ?_
    have hobservation : sampleReductionWorld.observation (sampleId i) =
        some (sampleObservation i) :=
      congrArg (Option.map sampleObservation) (sampleIndex_sampleId i)
    have haction : sampleReductionWorld.action (sampleId i) = some (sampleRecon i) :=
      congrArg (Option.map sampleRecon) (sampleIndex_sampleId i)
    have hadmit : admitObservation sampleReduction (sampleObservation i) (sampleRecon i) =
        .ok (.surface (sampleObservation i) (sampleSurface i)) := by
      simp [admitObservation, sampleObservation, sampleRecon, sampleSurface, sampleReduction,
        RedTeamReconAction.actionId, canonicalDigest, urlDigest, raiseIf]
    symm
    change sampleReductionWorld.fetch sampleReduction (sampleId i) = _
    rw [ReductionWorld.fetch, hobservation]
    change (orRaise (sampleReductionWorld.action (sampleId i)) _ >>= _) = _
    rw [haction]
    exact hadmit
  check := by
    rw [checkItems_eq_ok]
    have hevidence : ∀ ref ∈ sampleItems.flatMap Admitted.evidenceRefs, ref ∈ ["e"] := by
      intro ref href
      obtain ⟨item, hitem, href⟩ := List.mem_flatMap.1 href
      obtain ⟨i, -, rfl⟩ := List.mem_map.1 hitem
      exact href
    have hkeys : keysIn sampleItems ⊆ [sampleKey] := by
      intro key hkey
      obtain ⟨⟨observation, surface⟩, hrecord, rfl⟩ := mem_keysIn.1 hkey
      obtain ⟨i, -, heq⟩ := List.mem_map.1 (mem_surfacesIn.1 hrecord)
      cases heq
      exact List.mem_singleton.2 rfl
    have hsnapshots : (snapshotIdsIn sampleItems).Perm sampleIds := by
      refine (split_perm Admitted.snapshotId sampleItems).trans (.of_eq ?_)
      rw [sampleItems, sampleIds, List.map_map]
      rfl
    refine ⟨?_, (length_sortDistinct_le hevidence).trans (by decide), fun _ _ => rfl,
      (List.subperm_of_subset (nodup_keysIn _) hkeys).length_le.trans (by decide)⟩
    rw [orderBy_id_eq_of_perm hsnapshots]
    exact Table.orderBy_eq_self id (sampleIds_sorted.imp le_of_lt)

/-- A hundred and one observations of one endpoint, each at a status code of its own. -/
theorem many_status_codes_raise :
    ¬Settles sampleReductionWorld sampleReduction sampleReductionScope 10 := by
  intro h
  have hat : ∀ i, (sampleObservation i, sampleSurface i) ∈ recordsAt sampleItems sampleKey :=
    fun i => mem_recordsAt.2
      ⟨mem_surfacesIn.2 (List.mem_map_of_mem (List.mem_finRange i)), rfl⟩
  have hkey : sampleKey ∈ keysIn sampleItems :=
    mem_keysIn.2 ⟨_, (mem_recordsAt.1 (hat 0)).1, rfl⟩
  have hmany : ((List.finRange 101).map fun i => 100 + i.val) ⊆
      statusCodesAt sampleItems sampleKey := by
    intro code hcode
    obtain ⟨i, -, rfl⟩ := List.mem_map.1 hcode
    exact Table.mem_sortDistinct.2 (List.mem_map_of_mem (hat i))
  have hnodup : ((List.finRange 101).map fun i => 100 + i.val).Nodup :=
    (List.nodup_finRange 101).map fun i j hij => Fin.ext (Nat.add_left_cancel hij)
  have hle := (List.subperm_of_subset hnodup hmany).length_le
  rw [List.length_map, List.length_finRange] at hle
  exact absurd ((h.recordable sample_admissible).statusCodes _ hkey) (by omega)

end

end Surface

end VulnLoom

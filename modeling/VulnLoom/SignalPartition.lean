import VulnLoom.CandidateGenerator

/-!
# Where the signals of a graph end

A signal that is accepted ends in the candidate of its route and sink, or is excluded. Two signals
of one identifier may be of two groups : the sealed set refuses an identifier that is used and
excluded, and does not look for one that two candidates use (`signal_partition_iff`).
-/

set_option linter.unusedSectionVars false

namespace VulnLoom

namespace CandidateGenerator

section

variable [GeneratorDigests]

/-! ## What is claimed -/

/-- An identifier is among those of one candidate, or it is excluded. -/
def ExactlyOnePlace (set : CandidateSet) (signalId : Digest) : Prop :=
  (signalId ∈ set.excludedSignalIds ∧ ∀ c ∈ set.candidates, signalId ∉ c.signalIds) ∨
    (signalId ∉ set.excludedSignalIds ∧ ∃! c, c ∈ set.candidates ∧ signalId ∈ c.signalIds)

/-- A candidate is of signals of its route and its sink, one of them of the required kind. -/
def Grouped (graph : SourceGraph) (c : Candidate) : Prop :=
  ∃ route ∈ graph.routes, ∃ sink ∈ graph.sinks, ∃ signals : List StaticSignal,
    c.entryPoint = route.location ∧ c.sink = sink.location ∧ c.cwe = (sinkDetails sink.kind).cwe ∧
      signals.Sublist graph.signals ∧ c.signalIds.Perm (signals.map StaticSignal.signalId) ∧
        (∀ signal ∈ signals, signal.routeId = some route.routeId ∧
          signal.sinkId = some sink.sinkId) ∧
            ∃ signal ∈ signals, signal.kind = requiredKind sink.kind

/-- The graph with its signals in another order, sealed again. -/
structure Reordered (graph graph' : SourceGraph) : Prop where
  same : graph' = { graph with graphId := graph'.graphId, signals := graph'.signals }
  signals : graph'.signals.Perm graph.signals
  resealed : sourceGraphDigest graph' = graph'.graphId

def triple (c : Candidate) : Digest × List Digest × ℚ :=
  (c.duplicateFingerprint, c.signalIds, c.confidence)

/-- What is generated of a graph, whichever order its signals have. -/
structure SignalPartition (limits : CandidateGeneratorLimits) (graph : SourceGraph) (scope : Scope)
    (now : Time) (set : CandidateSet) : Prop where
  placed : ∀ signal ∈ graph.signals, ExactlyOnePlace set signal.signalId
  grouped : ∀ c ∈ set.candidates, Grouped graph c
  ordered : ∀ graph', Reordered graph graph' →
    ((groupCandidates graph').map Candidate.candidateId).Nodup →
      ∃ set', generate limits graph' scope now = .ok set' ∧
        set'.excludedSignalIds = set.excludedSignalIds ∧
          ∀ t, t ∈ set'.candidates.map triple ↔ t ∈ set.candidates.map triple

/-- No identifier is that of two signals which end in candidates of their own. -/
def DistinctPlaces (graph : SourceGraph) : Prop :=
  ∀ signal ∈ graph.signals, ∀ signal' ∈ graph.signals, isExcluded graph signal = false →
    isExcluded graph signal' = false → signal.signalId = signal'.signalId →
      groupKey signal = groupKey signal'

instance (graph : SourceGraph) : Decidable (DistinctPlaces graph) :=
  inferInstanceAs (Decidable (∀ signal ∈ graph.signals, ∀ signal' ∈ graph.signals, _))

/-! ## What is generated -/

variable {limits : CandidateGeneratorLimits} {graph graph' : SourceGraph} {scope : Scope}
  {now : Time} {set : CandidateSet}

/-- What a set that was generated was checked for, and what it holds. -/
structure Generated (limits : CandidateGeneratorLimits) (graph : SourceGraph) (scope : Scope)
    (now : Time) (set : CandidateSet) : Prop where
  authorized : authorize graph scope now = .ok ()
  signalCount : graph.signals.length ≤ limits.maxSignals
  checked : ∀ signal ∈ graph.signals, ∃ u, checkSignal graph signal = .ok u
  version : graph.targetVersion ≠ ""
  candidateCount : (groupCandidates graph).length ≤ limits.maxCandidates
  sealable : Sealable (sortCandidates (groupCandidates graph)) (excludedIds graph)
  candidates : set.candidates = sortCandidates (groupCandidates graph)
  excluded : set.excludedSignalIds = excludedIds graph

theorem generated_of_ok (h : generate limits graph scope now = .ok set) :
    Generated limits graph scope now set := by
  simp only [generate, bind_eq_ok, raiseIf_eq_ok, not_lt] at h
  obtain ⟨_, hauthorized, -, hcount, units, hchecked, -, hversion, -, hcandidates, h⟩ := h
  split_ifs at h with hsealable
  cases h
  exact ⟨hauthorized, hcount, exists_ok_of_mapM hchecked, hversion, hcandidates, hsealable, rfl,
    rfl⟩

/-- A set is generated when all is checked. -/
theorem exists_generate (hauthorized : authorize graph scope now = .ok ())
    (hcount : graph.signals.length ≤ limits.maxSignals)
    (hchecked : ∀ signal ∈ graph.signals, ∃ u, checkSignal graph signal = .ok u)
    (hversion : graph.targetVersion ≠ "")
    (hcandidates : (groupCandidates graph).length ≤ limits.maxCandidates)
    (hsealable : Sealable (sortCandidates (groupCandidates graph)) (excludedIds graph)) :
    ∃ set, generate limits graph scope now = .ok set := by
  obtain ⟨units, hunits⟩ := mapM_isOk.2 hchecked
  simp only [generate, bind_eq_ok, raiseIf_eq_ok, not_lt, dif_pos hsealable]
  exact ⟨_, (), hauthorized, (), hcount, units, hunits, (), hversion, (), hcandidates, rfl⟩

/-! ## Groups -/

theorem lastWith_mem {α : Type} {key : α → String} {items : List α} {k : String} {a : α}
    (h : lastWith key items k = some a) : a ∈ items ∧ key a = k :=
  ⟨List.mem_reverse.1 (List.mem_of_find?_eq_some h), by simpa using List.find?_some h⟩

variable {key : GroupKey} {signal : StaticSignal}

theorem mem_groupOf :
    signal ∈ groupOf graph key ↔ signal ∈ graph.signals ∧ groupKey signal = some key := by
  simp [groupOf]

theorem mem_sortedKeys :
    key ∈ sortedKeys graph ↔ ∃ signal ∈ graph.signals, groupKey signal = some key := by
  rw [sortedKeys, List.mem_insertionSort, List.mem_dedup, List.mem_filterMap]

/-- A signal that is not excluded is of a group that is a candidate. -/
theorem isExcluded_eq_false : isExcluded graph signal = false ↔
    ∃ key c, groupKey signal = some key ∧ groupCandidate graph key = some c := by
  unfold isExcluded
  cases hkey : groupKey signal with
  | none => simp
  | some key => simp [Option.isSome_iff_exists]

theorem mem_excludedIds {signalId : Digest} : signalId ∈ excludedIds graph ↔
    ∃ signal ∈ graph.signals, isExcluded graph signal = true ∧ signal.signalId = signalId := by
  simp only [excludedIds, sortedSet, List.mem_insertionSort, List.mem_dedup, List.mem_map,
    List.mem_filter, and_assoc]

variable {c : Candidate}

/-- The identifiers of the candidate of a group are those of its signals. -/
theorem mem_signalIds (h : groupCandidate graph key = some c) {signalId : Digest} :
    signalId ∈ c.signalIds ↔
      ∃ signal ∈ groupOf graph key, signal.signalId = signalId := by
  obtain ⟨route, sink, flow, hcandidate⟩ := groupCandidate_eq_some.1 h
  rw [hcandidate.eq]
  simp only [candidateOf, sortedIds, List.mem_insertionSort, List.mem_map]

/-- A group that is a candidate has a signal. -/
theorem mem_sortedKeys_of_candidate (h : groupCandidate graph key = some c) :
    key ∈ sortedKeys graph := by
  obtain ⟨route, sink, flow, hcandidate⟩ := groupCandidate_eq_some.1 h
  obtain ⟨signal, hsignal, -⟩ := List.mem_map.1 hcandidate.qualified
  exact mem_sortedKeys.2 ⟨signal, mem_groupOf.1 hsignal⟩

/-- The references of a signal that has a group. -/
theorem groupKey_eq_some (h : groupKey signal = some key) :
    signal.routeId = some key.1 ∧ signal.sinkId = some key.2 ∧
      ∃ flowId, signal.flowId = some flowId ∧ references signal = some (key.1, key.2, flowId) := by
  obtain ⟨⟨routeId, sinkId, flowId⟩, hreferences, rfl⟩ := Option.map_eq_some_iff.1 h
  have hnamed := hreferences
  unfold references at hnamed
  split at hnamed
  next hroute hsink hflow =>
    split_ifs at hnamed
    cases hnamed
    exact ⟨hroute, hsink, flowId, hflow, hreferences⟩
  next => cases hnamed

theorem grouped_of_groupCandidate (h : groupCandidate graph key = some c) : Grouped graph c := by
  obtain ⟨route, sink, flow, hcandidate⟩ := groupCandidate_eq_some.1 h
  obtain ⟨hroute, hrouteId⟩ := lastWith_mem hcandidate.foundRoute
  obtain ⟨hsink, hsinkId⟩ := lastWith_mem hcandidate.foundSink
  obtain ⟨signal, hsignal, hkind⟩ := List.mem_map.1 hcandidate.qualified
  refine ⟨route, hroute, sink, hsink, groupOf graph key, ?_⟩
  rw [hcandidate.eq]
  refine ⟨rfl, rfl, rfl, List.filter_sublist, List.perm_insertionSort _ _, ?_, signal, hsignal,
    hkind⟩
  intro signal hsignal
  obtain ⟨hrouteOf, hsinkOf, -⟩ := groupKey_eq_some (mem_groupOf.1 hsignal).2
  rw [hrouteId, hsinkId]
  exact ⟨hrouteOf, hsinkOf⟩

/-! ## One place -/

/-- What is read off distinct values comes from one element. -/
theorem eq_of_nodup_filterMap {α β γ : Type} {f : α → Option β} {g : β → γ} : ∀ {l : List α},
    ((l.filterMap f).map g).Nodup → ∀ {a a' : α} {b b' : β}, a ∈ l → a' ∈ l → f a = some b →
      f a' = some b' → g b = g b' → a = a'
  | [], _, _, _, _, _, ha, _, _, _, _ => by cases ha
  | x :: l, h, a, a', b, b', ha, ha', hb, hb', heq => by
    have hrest : ((l.filterMap f).map g).Nodup :=
      h.sublist (((List.sublist_cons_self x l).filterMap f).map g)
    have hfresh : ∀ {y : β}, f x = some y → g y ∉ (l.filterMap f).map g := by
      intro y hy
      rw [List.filterMap_cons_some hy, List.map_cons] at h
      exact (List.nodup_cons.1 h).1
    have hmem : ∀ {z : α} {y : β}, z ∈ l → f z = some y → g y ∈ (l.filterMap f).map g :=
      fun hz hy => List.mem_map_of_mem (List.mem_filterMap.2 ⟨_, hz, hy⟩)
    rcases List.mem_cons.1 ha with rfl | hin
    · rcases List.mem_cons.1 ha' with rfl | hin'
      · rfl
      · exact absurd (heq ▸ hmem hin' hb') (hfresh hb)
    · rcases List.mem_cons.1 ha' with rfl | hin'
      · exact absurd (heq ▸ hmem hin hb) (hfresh hb')
      · exact eq_of_nodup_filterMap hrest hin hin' hb hb' heq

namespace Generated

variable (h : Generated limits graph scope now set)
include h

variable {c : Candidate}

theorem mem_candidates : c ∈ set.candidates ↔ ∃ key, groupCandidate graph key = some c := by
  rw [h.candidates, mem_sortCandidates, mem_groupCandidates]
  constructor
  · rintro ⟨key, -, hkey⟩
    exact ⟨key, hkey⟩
  · rintro ⟨key, hkey⟩
    exact ⟨key, mem_sortedKeys_of_candidate hkey, hkey⟩

/-- One candidate is of one group. -/
theorem key_unique {key' : GroupKey} (hkey : groupCandidate graph key = some c)
    (hkey' : groupCandidate graph key' = some c) : key = key' := by
  have hnodup : ((groupCandidates graph).map Candidate.duplicateFingerprint).Nodup :=
    (((List.perm_insertionSort _ _).map _).nodup_iff).1 h.sealable.2.1
  exact eq_of_nodup_filterMap hnodup (mem_sortedKeys_of_candidate hkey)
    (mem_sortedKeys_of_candidate hkey') hkey hkey' rfl

/-- An identifier that is excluded is of no candidate. -/
theorem notMem_signalIds {signalId : Digest} (hexcluded : signalId ∈ set.excludedSignalIds)
    (hc : c ∈ set.candidates) : signalId ∉ c.signalIds := fun hmem =>
  set.signals_disjoint c hc signalId hmem hexcluded

/-- Every signal ends in one place when no two candidates share an identifier. -/
theorem placed_iff : (∀ signal ∈ graph.signals, ExactlyOnePlace set signal.signalId) ↔
    DistinctPlaces graph := by
  constructor
  · intro hplaced signal hsignal signal' hsignal' hkept hkept' hid
    obtain ⟨key, c, hkey, hc⟩ := isExcluded_eq_false.1 hkept
    obtain ⟨key', c', hkey', hc'⟩ := isExcluded_eq_false.1 hkept'
    have huses : signal.signalId ∈ c.signalIds :=
      (mem_signalIds hc).2 ⟨signal, mem_groupOf.2 ⟨hsignal, hkey⟩, rfl⟩
    have huses' : signal.signalId ∈ c'.signalIds :=
      (mem_signalIds hc').2 ⟨signal', mem_groupOf.2 ⟨hsignal', hkey'⟩, hid.symm⟩
    have hmem := h.mem_candidates.2 ⟨key, hc⟩
    have hmem' := h.mem_candidates.2 ⟨key', hc'⟩
    rcases hplaced signal hsignal with ⟨-, hnone⟩ | ⟨-, hunique⟩
    · exact absurd huses (hnone c hmem)
    · have hsame : c = c' := hunique.unique ⟨hmem, huses⟩ ⟨hmem', huses'⟩
      rw [hkey, hkey', h.key_unique hc (hsame ▸ hc')]
  · intro hdistinct signal hsignal
    cases hkept : isExcluded graph signal with
    | true =>
      have hexcluded : signal.signalId ∈ set.excludedSignalIds := by
        rw [h.excluded]
        exact mem_excludedIds.2 ⟨signal, hsignal, hkept, rfl⟩
      exact .inl ⟨hexcluded, fun c hc => h.notMem_signalIds hexcluded hc⟩
    | false =>
      obtain ⟨key, c, hkey, hc⟩ := isExcluded_eq_false.1 hkept
      have hmem := h.mem_candidates.2 ⟨key, hc⟩
      have huses : signal.signalId ∈ c.signalIds :=
        (mem_signalIds hc).2 ⟨signal, mem_groupOf.2 ⟨hsignal, hkey⟩, rfl⟩
      refine .inr ⟨fun hexcluded => h.notMem_signalIds hexcluded hmem huses, c, ⟨hmem, huses⟩, ?_⟩
      rintro c' ⟨hmem', huses'⟩
      obtain ⟨key', hc'⟩ := h.mem_candidates.1 hmem'
      obtain ⟨signal', hsignal', hid⟩ := (mem_signalIds hc').1 huses'
      obtain ⟨hsignal', hkey'⟩ := mem_groupOf.1 hsignal'
      have hkept' : isExcluded graph signal' = false :=
        isExcluded_eq_false.2 ⟨key', c', hkey', hc'⟩
      have hsame := hdistinct signal' hsignal' signal hsignal hkept' hkept hid
      rw [hkey', hkey, Option.some.injEq] at hsame
      rw [hsame, hc, Option.some.injEq] at hc'
      exact hc'.symm

theorem grouped : ∀ c ∈ set.candidates, Grouped graph c := by
  intro c hc
  obtain ⟨key, hkey⟩ := h.mem_candidates.1 hc
  exact grouped_of_groupCandidate hkey

end Generated

/-! ## Another order -/

/-- A sorted list is that of its elements, in any order. -/
theorem insertionSort_perm {l l' : List Digest} (h : l.Perm l') :
    l.insertionSort (· ≤ ·) = l'.insertionSort (· ≤ ·) :=
  (((List.perm_insertionSort _ l).trans h).trans
    (List.perm_insertionSort _ l').symm).eq_of_pairwise' (List.pairwise_insertionSort _ l)
      (List.pairwise_insertionSort _ l')

theorem sortedSet_perm {l l' : List Digest} (h : l.Perm l') : sortedSet l = sortedSet l' :=
  insertionSort_perm h.dedup

variable {signals signals' : List StaticSignal}

theorem leastConfidence_perm (h : signals.Perm signals') :
    leastConfidence signals = leastConfidence signals' := by
  have hmap := h.map StaticSignal.confidence
  unfold leastConfidence
  cases hmin : (signals.map StaticSignal.confidence).min? with
  | none =>
    rw [List.min?_eq_none_iff] at hmin
    rw [hmin, List.nil_perm] at hmap
    rw [hmap, List.min?_nil]
  | some least =>
    rw [List.min?_eq_some_iff] at hmin
    have hmin' : (signals'.map StaticSignal.confidence).min? = some least :=
      List.min?_eq_some_iff.2 ⟨hmap.mem_iff.1 hmin.1, fun b hb => hmin.2 b (hmap.mem_iff.2 hb)⟩
    rw [hmin']

/-- The least flow, where an identifier names one flow. -/
theorem leastFlow_perm {flows flows' : List DataFlowPath} (h : flows.Perm flows')
    (hids : ∀ flow ∈ flows, ∀ flow' ∈ flows, flow.flowId = flow'.flowId → flow = flow') :
    leastFlow flows = leastFlow flows' := by
  unfold leastFlow
  cases hmin : flows.argmin DataFlowPath.flowId with
  | none =>
    rw [List.argmin_eq_none] at hmin
    rw [hmin, List.nil_perm] at h
    rw [h, List.argmin_nil]
  | some flow =>
    cases hmin' : flows'.argmin DataFlowPath.flowId with
    | none =>
      rw [List.argmin_eq_none] at hmin'
      rw [hmin', List.perm_nil] at h
      rw [h, List.argmin_nil] at hmin
      cases hmin
    | some flow' =>
      have hmem := List.argmin_mem hmin
      have hmem' := h.mem_iff.2 (List.argmin_mem hmin')
      rw [hids flow hmem flow' hmem' (le_antisymm
        (List.le_of_mem_argmin hmem' hmin) (List.le_of_mem_argmin (h.mem_iff.1 hmem) hmin'))]

/-- A flow that signals name is found under its identifier. -/
theorem flow?_of_mem {flow : DataFlowPath}
    (h : flow ∈ signals.filterMap fun signal => signal.flowId.bind graph.flow?) :
    graph.flow? flow.flowId = some flow := by
  obtain ⟨signal, -, hsignal⟩ := List.mem_filterMap.1 h
  obtain ⟨flowId, -, hflow⟩ := Option.bind_eq_some_iff.1 hsignal
  rw [(lastWith_mem hflow).2, hflow]

theorem representative_perm (h : signals.Perm signals') :
    representative graph signals = representative graph signals' := by
  refine leastFlow_perm (h.filterMap _) fun flow hflow flow' hflow' hid => ?_
  have hsome := flow?_of_mem hflow
  rw [hid, flow?_of_mem hflow', Option.some.injEq] at hsome
  exact hsome.symm

theorem candidate_perm {route : RouteNode} {sink : SinkNode} {flow : DataFlowPath}
    (h : signals.Perm signals') (graph' : SourceGraph) :
    (candidate graph' route sink flow signals).map triple =
      (candidate graph route sink flow signals').map triple := by
  have hids : sortedIds signals = sortedIds signals' := insertionSort_perm (h.map _)
  have hkinds : requiredKind sink.kind ∈ signals.map StaticSignal.kind ↔
      requiredKind sink.kind ∈ signals'.map StaticSignal.kind := (h.map _).mem_iff
  unfold candidate
  by_cases hkind : requiredKind sink.kind ∈ signals.map StaticSignal.kind
  · rw [if_pos hkind, if_pos (hkinds.1 hkind), Option.map_some, Option.map_some]
    simp only [triple, candidateOf, hids, leastConfidence_perm h]
  · rw [if_neg hkind, if_neg (mt hkinds.2 hkind), Option.map_none]

namespace Reordered

variable (h : Reordered graph graph')
include h

theorem groupOf_perm (key : GroupKey) : (groupOf graph' key).Perm (groupOf graph key) :=
  h.signals.filter _

theorem groupCandidate_eq (key : GroupKey) :
    (groupCandidate graph' key).map triple = (groupCandidate graph key).map triple := by
  have hroute : graph'.route? = graph.route? := by
    rw [h.same]
    rfl
  have hsink : graph'.sink? = graph.sink? := by
    rw [h.same]
    rfl
  have hflow : representative graph' = representative graph := by
    rw [h.same]
    rfl
  unfold groupCandidate
  rw [hroute, hsink, hflow, representative_perm (h.groupOf_perm key)]
  cases graph.route? key.1 with
  | none => rfl
  | some route =>
    cases graph.sink? key.2 with
    | none => rfl
    | some sink =>
      cases representative graph (groupOf graph key) with
      | none => rfl
      | some flow => exact candidate_perm (h.groupOf_perm key) graph'

theorem isExcluded_eq (signal : StaticSignal) :
    isExcluded graph' signal = isExcluded graph signal := by
  unfold isExcluded
  cases groupKey signal with
  | none => rfl
  | some key =>
    have hisSome := congrArg Option.isNone (h.groupCandidate_eq key)
    rwa [Option.isNone_map, Option.isNone_map] at hisSome

theorem excludedIds_eq : excludedIds graph' = excludedIds graph := by
  unfold excludedIds
  rw [funext h.isExcluded_eq]
  exact sortedSet_perm ((h.signals.filter _).map _)

/-- The candidates of the two orders are those of the same groups. -/
theorem triples_perm : ((groupCandidates graph').map triple).Perm
    ((groupCandidates graph).map triple) := by
  have hkeys : (sortedKeys graph').Perm (sortedKeys graph) :=
    ((List.perm_insertionSort _ _).trans (h.signals.filterMap _).dedup).trans
      (List.perm_insertionSort _ _).symm
  unfold groupCandidates
  rw [List.map_filterMap, List.map_filterMap, funext h.groupCandidate_eq]
  exact hkeys.filterMap _

theorem checkSignal_eq (signal : StaticSignal) :
    checkSignal graph' signal = checkSignal graph signal := by
  rw [h.same]
  rfl

theorem authorize_ok (hauthorized : authorize graph scope now = .ok ()) :
    authorize graph' scope now = .ok () := by
  simp only [authorize, bind_eq_ok, raiseIf_eq_ok, not_or, not_not] at hauthorized ⊢
  obtain ⟨-, -, -, hstate, -, hwindow, hscope, hversion⟩ := hauthorized
  refine ⟨(), h.resealed, (), hstate, (), hwindow, ?_, ?_⟩
  · rw [h.same]
    exact hscope
  · rw [h.same]
    exact hversion

/-- A set of candidates can be sealed for the other order, unless identifiers clash. -/
theorem sealable (hids : ((groupCandidates graph').map Candidate.candidateId).Nodup)
    (hsealable : Sealable (sortCandidates (groupCandidates graph)) (excludedIds graph)) :
    Sealable (sortCandidates (groupCandidates graph')) (excludedIds graph') := by
  have hfingerprints : ∀ candidates : List Candidate,
      candidates.map Candidate.duplicateFingerprint = (candidates.map triple).map Prod.fst := by
    intro candidates
    rw [List.map_map]
    rfl
  have hsort : ∀ graph : SourceGraph, (sortCandidates (groupCandidates graph)).Perm
      (groupCandidates graph) := fun graph => List.perm_insertionSort _ _
  refine ⟨((hsort graph').map _).nodup_iff.2 hids, ?_, ?_⟩
  · have hnodup := hsealable.2.1
    rw [((hsort graph).map _).nodup_iff, hfingerprints] at hnodup
    rw [((hsort graph').map _).nodup_iff, hfingerprints]
    exact (h.triples_perm.map _).nodup_iff.2 hnodup
  · intro c hc signalId hsignalId
    have htriple : triple c ∈ (groupCandidates graph).map triple :=
      h.triples_perm.mem_iff.1 (List.mem_map_of_mem (mem_sortCandidates.1 hc))
    obtain ⟨c', hc', hsame⟩ := List.mem_map.1 htriple
    have hsignals : c'.signalIds = c.signalIds := congrArg (fun t => t.2.1) hsame
    rw [h.excludedIds_eq]
    exact hsealable.2.2 c' (mem_sortCandidates.2 hc') signalId (hsignals ▸ hsignalId)

end Reordered

/-- What is generated does not depend on the order of the signals. -/
theorem Generated.ordered (h : Generated limits graph scope now set)
    (hsame : Reordered graph graph')
    (hids : ((groupCandidates graph').map Candidate.candidateId).Nodup) :
    ∃ set', generate limits graph' scope now = .ok set' ∧
      set'.excludedSignalIds = set.excludedSignalIds ∧
        ∀ t, t ∈ set'.candidates.map triple ↔ t ∈ set.candidates.map triple := by
  have hcount : (groupCandidates graph').length = (groupCandidates graph).length := by
    simpa only [List.length_map] using hsame.triples_perm.length_eq
  obtain ⟨set', hset'⟩ := exists_generate (hsame.authorize_ok h.authorized)
    (hsame.signals.length_eq ▸ h.signalCount)
    (fun signal hsignal => hsame.checkSignal_eq signal ▸
      h.checked signal (hsame.signals.mem_iff.1 hsignal))
    (by rw [hsame.same]; exact h.version) (hcount ▸ h.candidateCount)
    (hsame.sealable hids h.sealable)
  have hgenerated := generated_of_ok hset'
  refine ⟨set', hset', ?_, fun t => ?_⟩
  · rw [hgenerated.excluded, h.excluded, hsame.excludedIds_eq]
  · have hsort : ∀ graph : SourceGraph,
        t ∈ (sortCandidates (groupCandidates graph)).map triple ↔
          t ∈ (groupCandidates graph).map triple := fun graph =>
      ((List.perm_insertionSort _ _).map _).mem_iff
    rw [hgenerated.candidates, h.candidates, hsort, hsort]
    exact hsame.triples_perm.mem_iff

/-- The signals of a graph are parted when no two candidates share an identifier of a signal. -/
theorem signal_partition_iff (h : generate limits graph scope now = .ok set) :
    SignalPartition limits graph scope now set ↔ DistinctPlaces graph := by
  have hgenerated := generated_of_ok h
  constructor
  · intro hpartition
    exact hgenerated.placed_iff.1 hpartition.placed
  · intro hdistinct
    exact ⟨hgenerated.placed_iff.2 hdistinct, hgenerated.grouped,
      fun graph' hsame hids => hgenerated.ordered hsame hids⟩

end

/-! ## An identifier of two signals -/

section

@[reducible] def pathDigests : GeneratorDigests where
  fingerprint := ⟨FingerprintIdentity.path⟩
  sourceGraphDigest _ := "g"
  candidateUuid := id

attribute [local instance] pathDigests

def generatorLimits : CandidateGeneratorLimits :=
  ⟨10, 10, by decide⟩

def tainted (signalId routeId flowId : Digest) : StaticSignal where
  signalId
  targetId := "t"
  kind := .taintedSink
  routeId := some routeId
  sinkId := some "query"
  flowId := some flowId
  confidence := 1

/-- Two routes reach a query, each with a signal. -/
def twoRoutes (first second : Digest) : SourceGraph where
  graphId := "g"
  targetId := "t"
  targetVersion := "v"
  scopeId := sampleHuntScope.scopeId
  scopeVersion := sampleHuntScope.version
  functions := []
  routes := [⟨"ra", ["GET"], "/a", ⟨"app.py", 1, none⟩⟩, ⟨"rb", ["GET"], "/b", ⟨"app.py", 5, none⟩⟩]
  sinks := [⟨"query", .sql, "execute", ⟨"app.py", 9, none⟩⟩]
  flows := [⟨"fa", "ra", ["q"], ["app.a"], "query"⟩, ⟨"fb", "rb", ["q"], ["app.b"], "query"⟩]
  signals := [tainted first "ra" "fa", tainted second "rb" "fb"]

theorem twoRoutes_parted : ∃ set,
    generate generatorLimits (twoRoutes "sa" "sb") sampleHuntScope 1 = .ok set ∧
      SignalPartition generatorLimits (twoRoutes "sa" "sb") sampleHuntScope 1 set := by
  obtain ⟨set, hset⟩ : ∃ set,
      generate generatorLimits (twoRoutes "sa" "sb") sampleHuntScope 1 = .ok set :=
    ⟨_, eq_ok_get (by decide +kernel)⟩
  exact ⟨set, hset, (signal_partition_iff hset).2 (by decide +kernel)⟩

/-- An identifier that is that of both signals is in both candidates. -/
theorem twoRoutes_shared : ¬∀ (limits : CandidateGeneratorLimits) (graph : SourceGraph)
    (scope : Scope) (now : Time) (set : CandidateSet), generate limits graph scope now = .ok set →
      SignalPartition limits graph scope now set := by
  intro hall
  obtain ⟨set, hset⟩ : ∃ set,
      generate generatorLimits (twoRoutes "s" "s") sampleHuntScope 1 = .ok set :=
    ⟨_, eq_ok_get (by decide +kernel)⟩
  have hplaced := (hall _ _ _ _ _ hset).placed
  have hdistinct := (generated_of_ok hset).placed_iff.1 hplaced
  exact absurd hdistinct (by decide +kernel)

end

end CandidateGenerator

end VulnLoom

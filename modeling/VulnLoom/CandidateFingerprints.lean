import VulnLoom.SignalPartition
import VulnLoom.TextCodec

/-!
# Fingerprints of moved code

When code moves, the identifiers of sinks, flows and signals change with the lines, and so does
their order. The fingerprint of a group takes the call chain of the flow with the least identifier,
so it stays the same where all flows of the group have one chain (`fingerprints_stable_iff`).
-/

set_option linter.unusedSectionVars false

namespace VulnLoom

namespace CandidateGenerator

/-! ## Moved graphs -/

/-- New identifiers for what has a position. A missing identifier stays missing. -/
structure Renaming where
  sink : Digest → Digest
  flow : Digest → Digest
  signal : Digest → Digest
  sink_injective : Function.Injective sink
  flow_injective : Function.Injective flow
  signal_injective : Function.Injective signal
  sink_empty : sink "" = ""
  flow_empty : flow "" = ""

/-- The same place of a file at another line. -/
def SourceLocation.AtLine (location location' : SourceLocation) : Prop :=
  location'.path = location.path ∧ location'.symbol = location.symbol

namespace Renaming

variable (m : Renaming)

def key (key : GroupKey) : GroupKey :=
  (key.1, m.sink key.2)

def ofFlow (flow : DataFlowPath) : DataFlowPath :=
  { flow with flowId := m.flow flow.flowId, sinkId := m.sink flow.sinkId }

def ofSignal (signal : StaticSignal) : StaticSignal :=
  { signal with
    signalId := m.signal signal.signalId
    sinkId := signal.sinkId.map m.sink
    flowId := signal.flowId.map m.flow }

/-- A route at another line. -/
def RouteMoved (route route' : RouteNode) : Prop :=
  route' = { route with location := route'.location } ∧
    SourceLocation.AtLine route.location route'.location

/-- A sink at another line. -/
def SinkMoved (sink sink' : SinkNode) : Prop :=
  sink' = { sink with sinkId := m.sink sink.sinkId, location := sink'.location } ∧
    SourceLocation.AtLine sink.location sink'.location

end Renaming

/-- A graph differs from another in lines, and in the identifiers that are derived from them. What
it holds is compared under the identifiers, in any order. -/
structure Moved (m : Renaming) (graph graph' : SourceGraph) : Prop where
  target : graph'.targetId = graph.targetId ∧ graph'.targetVersion = graph.targetVersion
  scope : graph'.scopeId = graph.scopeId ∧ graph'.scopeVersion = graph.scopeVersion
  functions : ∀ symbol, Option.Rel SourceLocation.AtLine (graph.location? symbol)
    (graph'.location? symbol)
  routes : ∀ routeId, Option.Rel Renaming.RouteMoved (graph.route? routeId)
    (graph'.route? routeId)
  sinks : ∀ sinkId, Option.Rel m.SinkMoved (graph.sink? sinkId) (graph'.sink? (m.sink sinkId))
  flows : ∀ flowId, graph'.flow? (m.flow flowId) = (graph.flow? flowId).map m.ofFlow
  signals : graph'.signals.Perm (graph.signals.map m.ofSignal)

/-! ## What is claimed -/

section

variable [GeneratorDigests]

/-- The candidates of a route and a sink have one fingerprint, wherever the code is moved. -/
def FingerprintsStable (graph : SourceGraph) : Prop :=
  ∀ m graph', Moved m graph graph' → ∀ key,
    (groupCandidate graph' (m.key key)).map Candidate.duplicateFingerprint =
      (groupCandidate graph key).map Candidate.duplicateFingerprint

/-- The flows that the signals of a group name. -/
def flowsOf (graph : SourceGraph) (key : GroupKey) : List DataFlowPath :=
  (groupOf graph key).filterMap fun signal => signal.flowId.bind graph.flow?

/-- The flows of each group that is a candidate have one call chain. -/
def OneChain (graph : SourceGraph) : Prop :=
  ∀ key, (groupCandidate graph key).isSome → ∀ flow ∈ flowsOf graph key,
    ∀ flow' ∈ flowsOf graph key, flow.callChain = flow'.callChain

/-! ## Groups of a moved graph -/

variable {m : Renaming} {graph graph' : SourceGraph}

namespace Renaming

theorem sink_eq_empty {sinkId : Digest} : m.sink sinkId = "" ↔ sinkId = "" := by
  constructor
  · intro h
    exact m.sink_injective (h.trans m.sink_empty.symm)
  · rintro rfl
    exact m.sink_empty

theorem flow_eq_empty {flowId : Digest} : m.flow flowId = "" ↔ flowId = "" := by
  constructor
  · intro h
    exact m.flow_injective (h.trans m.flow_empty.symm)
  · rintro rfl
    exact m.flow_empty

theorem references_ofSignal (signal : StaticSignal) : references (m.ofSignal signal) =
    (references signal).map fun ids => (ids.1, m.sink ids.2.1, m.flow ids.2.2) := by
  unfold references ofSignal
  cases signal.routeId with
  | none => rfl
  | some routeId =>
    cases signal.sinkId with
    | none => rfl
    | some sinkId =>
      cases signal.flowId with
      | none => rfl
      | some flowId =>
        simp only [Option.map_some, ne_eq, sink_eq_empty, flow_eq_empty]
        split_ifs
        · rfl
        · rfl

theorem groupKey_ofSignal (signal : StaticSignal) :
    groupKey (m.ofSignal signal) = (groupKey signal).map m.key := by
  rw [groupKey, references_ofSignal, groupKey, Option.map_map, Option.map_map]
  rfl

theorem key_injective : Function.Injective m.key := by
  intro key key' h
  obtain ⟨hroute, hsink⟩ := Prod.mk.inj h
  exact Prod.ext hroute (m.sink_injective hsink)

end Renaming

namespace Moved

variable (h : Moved m graph graph')
include h

theorem groupOf_perm (key : GroupKey) :
    (groupOf graph' (m.key key)).Perm ((groupOf graph key).map m.ofSignal) := by
  refine (h.signals.filter _).trans ?_
  rw [groupOf, List.filter_map]
  refine List.Perm.of_eq (congrArg _ (List.filter_congr fun signal _ => ?_))
  simp only [Function.comp_apply, Renaming.groupKey_ofSignal]
  refine decide_eq_decide.2 ?_
  constructor
  · intro hkey
    obtain ⟨key', hkey', heq⟩ := Option.map_eq_some_iff.1 hkey
    rw [hkey', Renaming.key_injective heq]
  · intro hkey
    rw [hkey]
    rfl

theorem flowsOf_perm (key : GroupKey) :
    (flowsOf graph' (m.key key)).Perm ((flowsOf graph key).map m.ofFlow) := by
  refine ((h.groupOf_perm key).filterMap _).trans (List.Perm.of_eq ?_)
  rw [flowsOf, List.filterMap_map, List.map_filterMap]
  refine List.filterMap_congr fun signal _ => ?_
  cases hflow : signal.flowId with
  | none => simp [Renaming.ofSignal, hflow]
  | some flowId => simp [Renaming.ofSignal, hflow, h.flows flowId]

theorem kinds (key : GroupKey) (kind : SignalKind) :
    kind ∈ (groupOf graph' (m.key key)).map StaticSignal.kind ↔
      kind ∈ (groupOf graph key).map StaticSignal.kind := by
  rw [((h.groupOf_perm key).map _).mem_iff, List.map_map]
  rfl

end Moved

/-! ## Fingerprints -/

variable {key : GroupKey} {flow : DataFlowPath}

theorem representative_mem (h : representative graph (groupOf graph key) = some flow) :
    flow ∈ flowsOf graph key :=
  List.argmin_mem h

theorem representative_eq_none :
    representative graph (groupOf graph key) = none ↔ flowsOf graph key = [] :=
  List.argmin_eq_none

/-- The fingerprint of a group is that of its route, its sink and its flow. -/
theorem fingerprint_of_group : (groupCandidate graph key).map Candidate.duplicateFingerprint =
      (graph.route? key.1).bind fun route => (graph.sink? key.2).bind fun sink =>
        (representative graph (groupOf graph key)).bind fun flow =>
          if requiredKind sink.kind ∈ (groupOf graph key).map StaticSignal.kind then
            some (canonicalDigest (fingerprintIdentity route sink flow)) else none := by
  unfold groupCandidate
  cases graph.route? key.1 with
  | none => rfl
  | some route =>
    cases graph.sink? key.2 with
    | none => rfl
    | some sink =>
      cases representative graph (groupOf graph key) with
      | none => rfl
      | some flow =>
        change (candidate graph route sink flow (groupOf graph key)).map _ = _
        rw [candidate, Option.bind_some, Option.bind_some, Option.bind_some]
        split_ifs
        · rfl
        · rfl

/-- Computations of related values that are related. -/
theorem bind_eq_of_rel {α β γ : Type} {R : α → β → Prop} {x : Option α} {y : Option β}
    {f : α → Option γ} {g : β → Option γ} (h : Option.Rel R x y)
    (hfg : ∀ a b, x = some a → y = some b → R a b → g b = f a) : y.bind g = x.bind f := by
  cases h with
  | none => rfl
  | some hab => exact hfg _ _ rfl rfl hab

/-- The flow of a moved group is one of the group. -/
theorem Moved.representative_rel (h : Moved m graph graph') (key : GroupKey) :
    Option.Rel (fun _ flow' => ∃ own ∈ flowsOf graph key, flow' = m.ofFlow own)
      (representative graph (groupOf graph key))
      (representative graph' (groupOf graph' (m.key key))) := by
  have hperm := h.flowsOf_perm key
  cases hflow : representative graph (groupOf graph key) with
  | none =>
    rw [representative_eq_none.1 hflow, List.map_nil, List.perm_nil] at hperm
    rw [representative_eq_none.2 hperm]
    exact .none
  | some flow =>
    cases hflow' : representative graph' (groupOf graph' (m.key key)) with
    | none =>
      rw [representative_eq_none.1 hflow', List.nil_perm, List.map_eq_nil_iff,
        ← representative_eq_none, hflow] at hperm
      cases hperm
    | some flow' =>
      obtain ⟨own, hown, heq⟩ := List.mem_map.1 (hperm.mem_iff.1 (representative_mem hflow'))
      exact .some ⟨own, hown, heq.symm⟩

/-- Where the flows of a group have one chain, it does not matter which is the least. -/
theorem stable_of_oneChain (h : OneChain graph) : FingerprintsStable graph := by
  intro m graph' hmoved key
  rw [fingerprint_of_group, fingerprint_of_group]
  refine bind_eq_of_rel (hmoved.routes key.1) fun route route' hroute _ hrouteMoved => ?_
  refine bind_eq_of_rel (hmoved.sinks key.2) fun sink sink' hsink _ hsinkMoved => ?_
  refine bind_eq_of_rel (hmoved.representative_rel key) fun flow flow' hflow _ hown => ?_
  obtain ⟨own, hown, rfl⟩ := hown
  have hkind : sink'.kind = sink.kind := by rw [hsinkMoved.1]
  rw [hkind]
  by_cases hqualified : requiredKind sink.kind ∈ (groupOf graph key).map StaticSignal.kind
  · have hcandidate : groupCandidate graph key =
        some (candidateOf graph route sink flow (groupOf graph key)) :=
      groupCandidate_eq_some.2 ⟨route, sink, flow, hroute, hsink, hflow, hqualified, rfl⟩
    have hchain : own.callChain = flow.callChain :=
      h key (by rw [hcandidate]; rfl) own hown flow (representative_mem hflow)
    rw [if_pos hqualified, if_pos ((hmoved.kinds key _).2 hqualified), hrouteMoved.1,
      hsinkMoved.1]
    simp only [fingerprintIdentity, Renaming.ofFlow, hchain]
  · rw [if_neg hqualified, if_neg (mt (hmoved.kinds key _).1 hqualified)]

/-! ## Another flow in front -/

/-- The identifiers of two flows are exchanged. -/
def exchange (first second : Digest) (hfirst : first ≠ "") (hsecond : second ≠ "") :
    Renaming where
  sink := id
  flow := Equiv.swap first second
  signal := id
  sink_injective := Function.injective_id
  flow_injective := (Equiv.swap first second).injective
  signal_injective := Function.injective_id
  sink_empty := rfl
  flow_empty := Equiv.swap_apply_of_ne_of_ne hfirst.symm hsecond.symm

/-- The graph under new identifiers, at the lines it had. -/
def renamed (m : Renaming) (graph : SourceGraph) : SourceGraph :=
  { graph with
    sinks := graph.sinks.map fun sink => { sink with sinkId := m.sink sink.sinkId }
    flows := graph.flows.map m.ofFlow
    signals := graph.signals.map m.ofSignal }

theorem lastWith_map {α : Type} (key : α → String) (f : α → α) {rename : String → String}
    (hrename : Function.Injective rename) (hf : ∀ a, key (f a) = rename (key a)) (items : List α)
    (k : String) : lastWith key (items.map f) (rename k) = (lastWith key items k).map f := by
  have hsame : (fun item => decide (key item = rename k)) ∘ f =
      fun item => decide (key item = k) := by
    funext item
    simp only [Function.comp_apply, hf]
    exact decide_eq_decide.2 hrename.eq_iff
  rw [lastWith, ← List.map_reverse, List.find?_map, hsame]
  rfl

theorem rel_of_map {α : Type} {R : α → α → Prop} {f : α → α} (hR : ∀ a, R a (f a))
    (x : Option α) : Option.Rel R x (x.map f) := by
  cases x with
  | none => exact .none
  | some a => exact .some (hR a)

theorem moved_renamed (m : Renaming) (graph : SourceGraph) : Moved m graph (renamed m graph) where
  target := ⟨rfl, rfl⟩
  scope := ⟨rfl, rfl⟩
  functions symbol := by
    have hsame := rel_of_map (R := SourceLocation.AtLine) (f := id) (fun _ => ⟨rfl, rfl⟩)
      (graph.location? symbol)
    rwa [Option.map_id] at hsame
  routes routeId := by
    have hsame := rel_of_map (R := Renaming.RouteMoved) (f := id) (fun _ => ⟨rfl, rfl, rfl⟩)
      (graph.route? routeId)
    rwa [Option.map_id] at hsame
  sinks sinkId := by
    have hsink : (renamed m graph).sink? (m.sink sinkId) = (graph.sink? sinkId).map fun sink =>
        { sink with sinkId := m.sink sink.sinkId } :=
      lastWith_map SinkNode.sinkId _ m.sink_injective (fun _ => rfl) graph.sinks sinkId
    rw [hsink]
    exact rel_of_map (fun _ => ⟨rfl, rfl, rfl⟩) _
  flows flowId :=
    lastWith_map DataFlowPath.flowId m.ofFlow m.flow_injective (fun _ => rfl) graph.flows flowId
  signals := .rfl

theorem flowId_ne_empty (h : flow ∈ flowsOf graph key) : flow.flowId ≠ "" := by
  obtain ⟨signal, hsignal, hflow⟩ := List.mem_filterMap.1 h
  obtain ⟨flowId, hflowId, hflow⟩ := Option.bind_eq_some_iff.1 hflow
  rw [(lastWith_mem hflow).2]
  have hgroup := (mem_groupOf.1 hsignal).2
  obtain ⟨ids, hreferences, -⟩ := Option.map_eq_some_iff.1 hgroup
  unfold references at hreferences
  split at hreferences
  next hroute hsink hnamed =>
    split_ifs at hreferences with hnonempty
    rw [hnamed, Option.some.injEq] at hflowId
    exact hflowId ▸ hnonempty.2.2
  next => cases hreferences

/-- A flow of an identifier is the only one in its group. -/
theorem eq_of_flowId {flow' : DataFlowPath} (h : flow ∈ flowsOf graph key)
    (h' : flow' ∈ flowsOf graph key) (hid : flow.flowId = flow'.flowId) : flow = flow' := by
  have hsome := flow?_of_mem h
  rw [hid, flow?_of_mem h', Option.some.injEq] at hsome
  exact hsome.symm

/-- Any flow of a group may become the one that stands for it. -/
theorem representative_exchange {least : DataFlowPath}
    (hleast : representative graph (groupOf graph key) = some least)
    (hflow : flow ∈ flowsOf graph key) : ∃ m graph', Moved m graph graph' ∧
      representative graph' (groupOf graph' (m.key key)) = some (m.ofFlow flow) := by
  have hmem := representative_mem hleast
  let m := exchange flow.flowId least.flowId (flowId_ne_empty hflow) (flowId_ne_empty hmem)
  have hmoved := moved_renamed m graph
  have hperm := hmoved.flowsOf_perm key
  refine ⟨m, renamed m graph, hmoved, ?_⟩
  have hin : m.ofFlow flow ∈ flowsOf (renamed m graph) (m.key key) :=
    hperm.mem_iff.2 (List.mem_map_of_mem hflow)
  have hbefore : ∀ own ∈ flowsOf graph key, (m.ofFlow flow).flowId ≤ (m.ofFlow own).flowId := by
    intro own hown
    have hfront : (m.ofFlow flow).flowId = least.flowId :=
      Equiv.swap_apply_left flow.flowId least.flowId
    rw [hfront]
    change least.flowId ≤ Equiv.swap flow.flowId least.flowId own.flowId
    rw [Equiv.swap_apply_def]
    split_ifs
    · exact le_rfl
    · exact List.le_of_mem_argmin hflow hleast
    · exact List.le_of_mem_argmin hown hleast
  cases hnew : representative (renamed m graph) (groupOf (renamed m graph) (m.key key)) with
  | none =>
    rw [representative_eq_none.1 hnew] at hin
    cases hin
  | some new =>
    have hnewMem := representative_mem hnew
    obtain ⟨own, hown, rfl⟩ := List.mem_map.1 (hperm.mem_iff.1 hnewMem)
    have hid := le_antisymm (List.le_of_mem_argmin hin hnew) (hbefore own hown)
    rw [eq_of_flowId hnewMem hin hid]

/-- A chain that is not that of the group would be so after a move. -/
theorem oneChain_of_stable
    (hdigest : Function.Injective (canonicalDigest : FingerprintIdentity → Digest))
    (h : FingerprintsStable graph) : OneChain graph := by
  intro key hisSome
  obtain ⟨c, hc⟩ := Option.isSome_iff_exists.1 hisSome
  obtain ⟨route, sink, least, hcandidate⟩ := groupCandidate_eq_some.1 hc
  have hchain : ∀ flow ∈ flowsOf graph key, flow.callChain = least.callChain := by
    intro flow hflow
    obtain ⟨m, graph', hmoved, hfront⟩ := representative_exchange hcandidate.foundFlow hflow
    have hsame := h m graph' hmoved key
    rw [hc, Option.map_some] at hsame
    obtain ⟨c', hc', hfingerprint⟩ := Option.map_eq_some_iff.1 hsame
    obtain ⟨route', sink', flow', hcandidate'⟩ := groupCandidate_eq_some.1 hc'
    have hflow' := hcandidate'.foundFlow
    rw [hfront, Option.some.injEq] at hflow'
    rw [hcandidate.eq, hcandidate'.eq, ← hflow'] at hfingerprint
    exact congrArg FingerprintIdentity.chain (hdigest hfingerprint)
  intro flow hflow flow' hflow'
  rw [hchain flow hflow, hchain flow' hflow']

/-- The fingerprints of a graph stay when its code is moved exactly when the flows of each group
have one call chain. -/
theorem fingerprints_stable_iff
    (hdigest : Function.Injective (canonicalDigest : FingerprintIdentity → Digest)) :
    FingerprintsStable graph ↔ OneChain graph :=
  ⟨oneChain_of_stable hdigest, stable_of_oneChain⟩

end

/-! ## Two chains to one sink -/

section

open TextCodec

@[reducible] def textGeneratorDigests : GeneratorDigests where
  fingerprint := ⟨fun identity => text (identity.cwe, identity.methods, identity.path,
    identity.kind, identity.callee, identity.chain)⟩
  sourceGraphDigest _ := "g"
  candidateUuid := id

attribute [local instance] textGeneratorDigests

theorem textFingerprint_injective :
    Function.Injective (canonicalDigest : FingerprintIdentity → Digest) := by
  rintro ⟨cwe, methods, path, kind, callee, chain⟩ ⟨cwe', methods', path', kind', callee', chain'⟩ h
  have htuple := text_injective h
  simp only [Prod.mk.injEq] at htuple
  obtain ⟨rfl, rfl, rfl, rfl, rfl, rfl⟩ := htuple
  rfl

/-- A page reaches a query by itself, and through a function or not. -/
def queryGraph (chain : List String) : SourceGraph :=
  { twoRoutes "sa" "sb" with
    flows := [⟨"fa", "ra", ["q"], ["app.a"], "query"⟩, ⟨"fb", "ra", ["q"], chain, "query"⟩]
    signals := [tainted "sa" "ra" "fa", tainted "sb" "ra" "fb"] }

theorem queryGraph_stable : FingerprintsStable (queryGraph ["app.a"]) := by
  refine (fingerprints_stable_iff textFingerprint_injective).2 fun key _ flow hflow flow' hflow' =>
    ?_
  have hall : ∀ flow ∈ (queryGraph ["app.a"]).flows, flow.callChain = ["app.a"] := by decide
  have hmem : ∀ {flow : DataFlowPath}, flow ∈ flowsOf (queryGraph ["app.a"]) key →
      flow ∈ (queryGraph ["app.a"]).flows := fun hflow => (lastWith_mem (flow?_of_mem hflow)).1
  rw [hall _ (hmem hflow), hall _ (hmem hflow')]

/-- A query that is reached by two chains has the fingerprint of one of them. -/
theorem queryGraph_unstable : ¬∀ (limits : CandidateGeneratorLimits) (graph : SourceGraph)
    (scope : Scope) (now : Time) (set : CandidateSet), generate limits graph scope now = .ok set →
      FingerprintsStable graph := by
  intro hall
  obtain ⟨set, hset⟩ : ∃ set,
      generate generatorLimits (queryGraph ["app.a", "app.find"]) sampleHuntScope 1 = .ok set :=
    ⟨_, eq_ok_get (by decide +kernel)⟩
  have hchain := oneChain_of_stable textFingerprint_injective (hall _ _ _ _ _ hset) ("ra", "query")
    (by decide +kernel) ⟨"fa", "ra", ["q"], ["app.a"], "query"⟩ (by decide +kernel)
    ⟨"fb", "ra", ["q"], ["app.a", "app.find"], "query"⟩ (by decide +kernel)
  exact absurd hchain (by decide)

end

end CandidateGenerator

end VulnLoom

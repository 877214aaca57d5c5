import VulnLoom.SourceCandidate

/-!
# The candidates of a source graph

`CandidateGenerator` joins the signals of a graph to its routes, sinks and flows. A signal that
does not name all three is excluded; the others are grouped by their route and sink, and a group
is a candidate when one of its signals is of the kind that the weakness of the sink requires. The
deadline is left out.
-/

set_option linter.unusedSectionVars false

namespace VulnLoom

namespace CandidateGenerator

/-! ## Source graphs -/

inductive SinkKind
  | objectLookup
  | sql
  | command
  | file
  | network
  | template
  | deserialization
  | redirect
  deriving DecidableEq

def SinkKind.value : SinkKind → String
  | .objectLookup => "object_lookup"
  | .sql => "sql"
  | .command => "command"
  | .file => "file"
  | .network => "network"
  | .template => "template"
  | .deserialization => "deserialization"
  | .redirect => "redirect"

inductive SignalKind
  | taintedSink
  | objectLookupWithoutVisibleAuthorization
  | parseFailure
  | externalAnalyzer
  deriving DecidableEq

structure FunctionNode where
  symbol : String
  location : SourceLocation

structure RouteNode where
  routeId : Digest
  httpMethods : List String
  path : String
  location : SourceLocation

structure SinkNode where
  sinkId : Digest
  kind : SinkKind
  callee : String
  location : SourceLocation

structure DataFlowPath where
  flowId : Digest
  routeId : Digest
  sourceNames : List String
  callChain : List String
  sinkId : Digest
  deriving DecidableEq

structure StaticSignal where
  signalId : Digest
  targetId : UUID
  kind : SignalKind
  routeId : Option String
  sinkId : Option String
  flowId : Option String
  confidence : ℚ

/-- `SourceGraph`, as far as candidates are generated from it. -/
structure SourceGraph where
  graphId : Digest
  targetId : UUID
  targetVersion : String
  scopeId : UUID
  scopeVersion : ℕ
  functions : List FunctionNode
  routes : List RouteNode
  sinks : List SinkNode
  flows : List DataFlowPath
  signals : List StaticSignal

/-- `{key(item): item for item in items}.get(k)`. -/
def lastWith {α : Type} (key : α → String) (items : List α) (k : String) : Option α :=
  items.reverse.find? fun item => key item = k

namespace SourceGraph

variable (graph : SourceGraph)

def route? (routeId : Digest) : Option RouteNode :=
  lastWith RouteNode.routeId graph.routes routeId

def sink? (sinkId : Digest) : Option SinkNode :=
  lastWith SinkNode.sinkId graph.sinks sinkId

def flow? (flowId : Digest) : Option DataFlowPath :=
  lastWith DataFlowPath.flowId graph.flows flowId

def location? (symbol : String) : Option SourceLocation :=
  (lastWith FunctionNode.symbol graph.functions symbol).map FunctionNode.location

end SourceGraph

/-! ## Digests -/

/-- What `duplicate_fingerprint` is the digest of. -/
structure FingerprintIdentity where
  cwe : String
  methods : List String
  path : String
  kind : String
  callee : String
  chain : List String

class GeneratorDigests where
  fingerprint : CanonicalDigest FingerprintIdentity
  /-- `source_graph_digest`, which leaves out the identifier -/
  sourceGraphDigest : SourceGraph → Digest
  /-- `uuid5` in the namespace of the generator -/
  candidateUuid : String → UUID

attribute [reducible, instance] GeneratorDigests.fingerprint

export GeneratorDigests (sourceGraphDigest candidateUuid)

/-! ## Candidates -/

inductive GenerationError
  | rejected (message : String)
  | validationError (message : String)
  deriving DecidableEq

structure CandidateGeneratorLimits where
  maxSignals : ℕ
  maxCandidates : ℕ
  positive : 0 < maxSignals ∧ 0 < maxCandidates

/-- What is said of a weakness. -/
structure Details where
  cwe : String
  title : String
  invariant : String
  disproof : String

/-- `_SINK_DETAILS`, and the details of an object lookup. -/
def sinkDetails : SinkKind → Details
  | .objectLookup => ⟨"CWE-639", "Object lookup may omit an ownership or authorization constraint",
    "A caller may access only objects authorized for its identity or tenant",
    "Show a mandatory ownership or authorization predicate on every reachable lookup path"⟩
  | .sql => ⟨"CWE-89", "User-controlled input reaches a SQL execution sink",
    "Untrusted request values must not alter SQL query structure",
    "Confirm that the query uses parameter binding for every traced input"⟩
  | .command => ⟨"CWE-78", "User-controlled input reaches an OS command sink",
    "Request values must not control executable command syntax",
    "Confirm that no shell is used and every argument is fixed or strictly allowlisted"⟩
  | .file => ⟨"CWE-22", "User-controlled input reaches a filesystem sink",
    "Request values must resolve only inside the intended filesystem root",
    "Confirm canonical-path containment after all decoding and link resolution"⟩
  | .network => ⟨"CWE-918", "User-controlled input reaches a server-side network sink",
    "Request values must not select unauthorized outbound destinations",
    "Confirm destination validation after redirects and DNS resolution"⟩
  | .template => ⟨"CWE-1336", "User-controlled input reaches a template evaluation sink",
    "Untrusted input must be rendered as data rather than template syntax",
    "Confirm that the template source is fixed and only values are interpolated"⟩
  | .deserialization => ⟨"CWE-502",
    "User-controlled input reaches an unsafe deserialization sink",
    "Untrusted bytes must not instantiate attacker-selected objects",
    "Confirm that the parser accepts only a non-executable schema and safe types"⟩
  | .redirect => ⟨"CWE-601", "User-controlled input reaches a redirect sink",
    "Redirect destinations must remain within an explicitly trusted origin set",
    "Confirm canonical destination validation for absolute, relative, and encoded URLs"⟩

/-- The kind of signal that a weakness requires. -/
def requiredKind : SinkKind → SignalKind
  | .objectLookup => .objectLookupWithoutVisibleAuthorization
  | _ => .taintedSink

/-- A route with a sink. -/
abbrev GroupKey := Digest × Digest

/-- The route, the sink and the flow of a signal that names all three. -/
def references (signal : StaticSignal) : Option (Digest × Digest × Digest) :=
  match signal.routeId, signal.sinkId, signal.flowId with
  | some route, some sink, some flow =>
    if route ≠ "" ∧ sink ≠ "" ∧ flow ≠ "" then some (route, sink, flow) else none
  | _, _, _ => none

/-- The group of a signal that is not excluded. -/
def groupKey (signal : StaticSignal) : Option GroupKey :=
  (references signal).map fun ids => (ids.1, ids.2.1)

/-- What the loop over the signals asks of one. -/
def checkSignal (graph : SourceGraph) (signal : StaticSignal) : Except GenerationError Unit := do
  raiseIf (signal.targetId ≠ graph.targetId)
    (.rejected "StaticSignal belongs to another Target")
  match references signal with
  | none => return ()
  | some (routeId, sinkId, flowId) =>
    raiseIf (graph.route? routeId = none ∨ graph.sink? sinkId = none)
      (.rejected "StaticSignal references a missing graph node")
    raiseIf (¬∃ flow ∈ graph.flow? flowId, flow.routeId = routeId ∧ flow.sinkId = sinkId)
      (.rejected "StaticSignal and DataFlowPath disagree")

/-- `grouped[key]`. -/
def groupOf (graph : SourceGraph) (key : GroupKey) : List StaticSignal :=
  graph.signals.filter fun signal => groupKey signal = some key

/-- `sorted(grouped)`. -/
def sortedKeys (graph : SourceGraph) : List GroupKey :=
  (graph.signals.filterMap groupKey).dedup.insertionSort fun a b =>
    a.1 < b.1 ∨ a.1 = b.1 ∧ a.2 ≤ b.2

/-- The flow with the least identifier. -/
def leastFlow (flows : List DataFlowPath) : Option DataFlowPath :=
  flows.argmin DataFlowPath.flowId

/-- The flow that stands for a group. -/
def representative (graph : SourceGraph) (signals : List StaticSignal) : Option DataFlowPath :=
  leastFlow (signals.filterMap fun signal => signal.flowId.bind graph.flow?)

/-- `",".join`. -/
def joined (separator : String) (parts : List String) : String :=
  separator.intercalate parts

def fingerprintIdentity (route : RouteNode) (sink : SinkNode) (flow : DataFlowPath) :
    FingerprintIdentity where
  cwe := (sinkDetails sink.kind).cwe
  methods := route.httpMethods
  path := route.path
  kind := sink.kind.value
  callee := sink.callee
  chain := flow.callChain

/-- `sorted(item.signal_id for item in signals)`. -/
def sortedIds (signals : List StaticSignal) : List Digest :=
  (signals.map StaticSignal.signalId).insertionSort (· ≤ ·)

/-- `min(item.confidence for item in signals)`; a group is not empty. -/
def leastConfidence (signals : List StaticSignal) : ℚ :=
  ((signals.map StaticSignal.confidence).min?).getD 0

variable [GeneratorDigests]

/-- The candidate that `_candidate` builds. -/
def candidateOf (graph : SourceGraph) (route : RouteNode) (sink : SinkNode) (flow : DataFlowPath)
    (signals : List StaticSignal) : Candidate :=
  let details := sinkDetails sink.kind
  let fingerprint : Digest := canonicalDigest (fingerprintIdentity route sink flow)
  let signalIds := sortedIds signals
  let sources := joined ", " flow.sourceNames
  { candidateId := candidateUuid
      (graph.graphId ++ ":" ++ fingerprint ++ ":" ++ joined "," signalIds)
    targetId := graph.targetId
    targetVersion := graph.targetVersion
    sourceGraphId := graph.graphId
    scopeId := graph.scopeId
    scopeVersion := graph.scopeVersion
    title := details.title
    cwe := details.cwe
    entryPoint := route.location
    sink := sink.location
    codePath := (route.location :: flow.callChain.filterMap graph.location? ++
      [sink.location]).eraseDups
    preconditions := [
      "The route " ++ joined "," route.httpMethods ++ " " ++ route.path ++ " is reachable",
      "Attacker-controlled input reaches the sink through: " ++ sources]
    securityInvariant := details.invariant
    hypothesis := "Route " ++ route.path ++ " propagates " ++ sources ++ " to " ++
      sink.kind.value ++ " sink " ++ sink.callee ++
      "; static analysis does not prove exploitability"
    signalIds
    cheapestDisproof := details.disproof
    duplicateFingerprint := fingerprint
    confidence := leastConfidence signals
    state := .proposed }

/-- `_candidate`. -/
def candidate (graph : SourceGraph) (route : RouteNode) (sink : SinkNode) (flow : DataFlowPath)
    (signals : List StaticSignal) : Option Candidate :=
  if requiredKind sink.kind ∈ signals.map StaticSignal.kind then
    some (candidateOf graph route sink flow signals)
  else none

/-- The body of the loop over the groups. -/
def groupCandidate (graph : SourceGraph) (key : GroupKey) : Option Candidate := do
  let route ← graph.route? key.1
  let sink ← graph.sink? key.2
  let flow ← representative graph (groupOf graph key)
  candidate graph route sink flow (groupOf graph key)

/-- The candidates of the groups, in the order of these. -/
def groupCandidates (graph : SourceGraph) : List Candidate :=
  (sortedKeys graph).filterMap (groupCandidate graph)

/-- A signal of no group, or of one that is no candidate. -/
def isExcluded (graph : SourceGraph) (signal : StaticSignal) : Bool :=
  match groupKey signal with
  | none => true
  | some key => (groupCandidate graph key).isNone

/-- `sorted(excluded)`. -/
def excludedIds (graph : SourceGraph) : List Digest :=
  sortedSet ((graph.signals.filter (isExcluded graph)).map StaticSignal.signalId)

/-- `candidates.sort(…)`. -/
def sortCandidates (candidates : List Candidate) : List Candidate :=
  candidates.insertionSort fun a b => a.duplicateFingerprint < b.duplicateFingerprint ∨
    a.duplicateFingerprint = b.duplicateFingerprint ∧ a.candidateId ≤ b.candidateId

/-- The first candidate that `candidates_match_container` refuses for what was seen before it. -/
def repeated (ids fingerprints : List Digest) : List Candidate → Option String
  | [] => none
  | candidate :: rest =>
    if candidate.candidateId ∈ ids then some "CandidateSet contains a duplicate Candidate id"
    else if candidate.duplicateFingerprint ∈ fingerprints then
      some "CandidateSet contains an unmerged duplicate fingerprint"
    else repeated (candidate.candidateId :: ids) (candidate.duplicateFingerprint :: fingerprints)
      rest

/-- The candidates of a graph match what a set of them is sealed with. -/
def Sealable (candidates : List Candidate) (excluded : List Digest) : Prop :=
  (candidates.map Candidate.candidateId).Nodup ∧
    (candidates.map Candidate.duplicateFingerprint).Nodup ∧
    ∀ candidate ∈ candidates, ∀ signal ∈ candidate.signalIds, signal ∉ excluded

instance (candidates : List Candidate) (excluded : List Digest) :
    Decidable (Sealable candidates excluded) :=
  inferInstanceAs (Decidable (_ ∧ _ ∧ _))

/-- `_authorize`. -/
def authorize (graph : SourceGraph) (scope : Scope) (now : Time) :
    Except GenerationError Unit := do
  raiseIf (sourceGraphDigest graph ≠ graph.graphId)
    (.rejected "SourceGraph content digest mismatch")
  raiseIf (scope.state ≠ .approved)
    (.rejected "Candidate generation requires an approved Scope")
  raiseIf (¬(scope.validFrom ≤ now ∧ now < scope.validUntil))
    (.rejected "Candidate generation is outside the Scope validity window")
  raiseIf (graph.scopeId ≠ scope.scopeId ∨ graph.scopeVersion ≠ scope.version)
    (.rejected "SourceGraph is bound to another Scope version")

/-- A group that is a candidate. -/
structure IsCandidate (graph : SourceGraph) (key : GroupKey) (c : Candidate) (route : RouteNode)
    (sink : SinkNode) (flow : DataFlowPath) : Prop where
  foundRoute : graph.route? key.1 = some route
  foundSink : graph.sink? key.2 = some sink
  foundFlow : representative graph (groupOf graph key) = some flow
  qualified : requiredKind sink.kind ∈ (groupOf graph key).map StaticSignal.kind
  eq : c = candidateOf graph route sink flow (groupOf graph key)

variable {graph : SourceGraph} {c : Candidate}

theorem groupCandidate_eq_some {key : GroupKey} :
    groupCandidate graph key = some c ↔ ∃ route sink flow,
      IsCandidate graph key c route sink flow := by
  simp only [groupCandidate, Option.bind_eq_bind, Option.bind_eq_some_iff, candidate]
  constructor
  · rintro ⟨route, hroute, sink, hsink, flow, hflow, hcandidate⟩
    split_ifs at hcandidate with hkind
    exact ⟨route, sink, flow, hroute, hsink, hflow, hkind, (Option.some.inj hcandidate).symm⟩
  · rintro ⟨route, sink, flow, hroute, hsink, hflow, hkind, rfl⟩
    exact ⟨route, hroute, sink, hsink, flow, hflow, if_pos hkind⟩

theorem mem_sortCandidates {candidates : List Candidate} :
    c ∈ sortCandidates candidates ↔ c ∈ candidates :=
  List.mem_insertionSort _

theorem mem_groupCandidates :
    c ∈ groupCandidates graph ↔ ∃ key ∈ sortedKeys graph, groupCandidate graph key = some c :=
  List.mem_filterMap

theorem provenance_of_group (h : c ∈ sortCandidates (groupCandidates graph)) :
    c.targetId = graph.targetId ∧
      c.targetVersion = graph.targetVersion ∧ c.sourceGraphId = graph.graphId ∧
      c.scopeId = graph.scopeId ∧ c.scopeVersion = graph.scopeVersion ∧ c.state = .proposed := by
  obtain ⟨key, -, hkey⟩ := mem_groupCandidates.1 (mem_sortCandidates.1 h)
  obtain ⟨route, sink, flow, hcandidate⟩ := groupCandidate_eq_some.1 hkey
  rw [hcandidate.eq]
  exact ⟨rfl, rfl, rfl, rfl, rfl, rfl⟩

/-- `CandidateGenerator.generate`. -/
def generate (limits : CandidateGeneratorLimits) (graph : SourceGraph) (scope : Scope)
    (now : Time) : Except GenerationError CandidateSet := do
  authorize graph scope now
  raiseIf (limits.maxSignals < graph.signals.length)
    (.rejected "SourceGraph exceeds the signal count limit")
  let _ ← graph.signals.mapM (checkSignal graph)
  raiseIf (graph.targetVersion = "")
    (.validationError "String should have at least 1 character")
  raiseIf (limits.maxCandidates < (groupCandidates graph).length)
    (.rejected "Candidate count exceeds the configured limit")
  let candidates := sortCandidates (groupCandidates graph)
  if h : Sealable candidates (excludedIds graph) then
    return {
      sourceGraphId := graph.graphId
      targetId := graph.targetId
      targetVersion := graph.targetVersion
      scopeId := graph.scopeId
      scopeVersion := graph.scopeVersion
      generatorVersion := "python-web-hypothesis-v1"
      candidates
      excludedSignalIds := excludedIds graph
      provenance := fun _ hc => provenance_of_group hc
      ids_nodup := h.1
      fingerprints_nodup := h.2.1
      signals_disjoint := h.2.2 }
  else .error (.validationError ((repeated [] [] candidates).getD
    "CandidateSet cannot both reference and exclude a StaticSignal"))

end CandidateGenerator

end VulnLoom

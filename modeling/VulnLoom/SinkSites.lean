import VulnLoom.IngestionModels
import VulnLoom.Table

/-!
# The sites of sinks

The mapper finds a sink again by the function, the line and the column of its call. A call starts
where the expression that is called starts, so the places of two calls are told apart by the tokens
that their expressions open with (`sites_distinct_iff`).
-/

namespace VulnLoom

namespace SinkSites

/-! ## Expressions and their places -/

/-- `lineno` and `col_offset`. -/
structure Place where
  line : ℕ
  column : ℕ
  deriving DecidableEq

/-- An expression as it is written. A place is that of the token which opens the expression; what
opens with its first operand has none of its own. -/
inductive Expr
  | name (place : Place) (id : String)
  | attribute (value : Expr) (attr : String)
  | call (func : Expr) (args : List Expr)
  /-- `( … )`, of which the tree keeps what it encloses -/
  | group (place : Place) (inner : Expr)
  | lambda (place : Place) (children : List Expr)
  /-- a subscript, an operator between operands, a conditional -/
  | leading (first : Expr) (rest : List Expr)
  /-- a constant, a display, an operator before its operand -/
  | opening (place : Place) (children : List Expr)

/-- Where an expression starts. -/
def start : Expr → Place
  | .name place _ | .group place _ | .lambda place _ | .opening place _ => place
  | .attribute value _ => start value
  | .call func _ => start func
  | .leading first _ => start first

mutual

/-- The places of the opening tokens. -/
def openings : Expr → List Place
  | .name place _ => [place]
  | .attribute value _ => openings value
  | .call func args => openings func ++ allOpenings args
  | .group place inner => place :: openings inner
  | .lambda place children => place :: allOpenings children
  | .leading first rest => openings first ++ allOpenings rest
  | .opening place children => place :: allOpenings children

def allOpenings : List Expr → List Place
  | [] => []
  | e :: es => openings e ++ allOpenings es

end

/-- `_dotted`. -/
def dotted : Expr → String
  | .name _ id => id
  | .attribute value attr => if dotted value = "" then attr else dotted value ++ "." ++ attr
  | .call func _ => dotted func
  | .group _ inner => dotted inner
  | .lambda _ _ | .leading _ _ | .opening _ _ => ""

/-- The expression opens with a call. -/
def opensWithCall : Expr → Bool
  | .call _ _ => true
  | .attribute value _ => opensWithCall value
  | .leading first _ => opensWithCall first
  | .name _ _ | .group _ _ | .lambda _ _ | .opening _ _ => false

/-- `ast.Call`, as far as the mapper reads it. -/
structure CallNode where
  place : Place
  callee : String
  /-- what is called opens with another call -/
  chained : Bool
  /-- in a lambda, where `_BodyCollector` does not come -/
  hidden : Bool

mutual

def calls (hidden : Bool) : Expr → List CallNode
  | .name _ _ => []
  | .attribute value _ => calls hidden value
  | .call func args =>
    ⟨start func, dotted func, opensWithCall func, hidden⟩ ::
      (calls hidden func ++ allCalls hidden args)
  | .group _ inner => calls hidden inner
  | .lambda _ children => allCalls true children
  | .leading first rest => calls hidden first ++ allCalls hidden rest
  | .opening _ children => allCalls hidden children

def allCalls (hidden : Bool) : List Expr → List CallNode
  | [] => []
  | e :: es => calls hidden e ++ allCalls hidden es

end

/-! ## Sinks -/

inductive SinkKind
  | objectLookup
  | sql
  | command
  | file
  | network
  | template
  | deserialization
  | redirect
  deriving DecidableEq

section

variable [PythonUnicode]

/-- `_sink_kind`. -/
def sinkKind (name : String) : Option SinkKind :=
  let lowered := (casefold name).toList
  let tail := (lowered.splitOn '.').getLastD []
  let begins (start : String) := start.toList.isPrefixOf lowered
  let closes (stop : String) := stop.toList.isSuffixOf lowered
  if lowered ∈ ["eval".toList, "exec".toList, "os.system".toList] ∨ begins "subprocess." then
    some .command
  else if begins "requests." ∨ begins "httpx." ∨ begins "aiohttp." ∨
      closes "urllib.request.urlopen" then some .network
  else if tail ∈ ["open".toList, "read_text".toList, "write_text".toList, "send_file".toList] ∨
      closes "fileresponse" then some .file
  else if tail ∈ ["execute".toList, "executemany".toList, "raw".toList] ∨
      closes "sqlalchemy.text" then some .sql
  else if ".objects.get".toList <:+: lowered ∨ ".query.get".toList <:+: lowered ∨
      tail ∈ ["get_object_or_404".toList, "get_or_404".toList] then some .objectLookup
  else if tail ∈ ["render_template_string".toList, "mark_safe".toList] then some .template
  else if begins "pickle." ∨ begins "marshal." ∨ closes "yaml.load" then some .deserialization
  else if tail = "redirect".toList then some .redirect
  else none

end

/-- `_normalize_name`. -/
def normalizeName (name : String) (imports : String → Option String) : String :=
  let first := String.ofList (name.toList.takeWhile (· ≠ '.'))
  let rest := String.ofList ((name.toList.dropWhile (· ≠ '.')).drop 1)
  match imports first with
  | some replacement =>
    if replacement = "" then name else replacement ++ if rest = "" then "" else "." ++ rest
  | none => name

/-- `_FunctionInfo`. Each opening token stands at a place of its own. -/
structure FunctionInfo where
  symbol : String
  path : String
  imports : String → Option String
  body : List Expr
  distinct : (allOpenings body).Nodup

/-- `SinkNode`, with what its identifier is the digest of. -/
structure SinkNode where
  functionSymbol : String
  path : String
  place : Place
  kind : SinkKind
  callee : String

abbrev Site := String × Place

namespace FunctionInfo

variable (f : FunctionInfo)

/-- The calls that the tracer comes to. -/
def calls : List CallNode :=
  allCalls false f.body

/-- `_function_calls`. -/
def functionCalls : List CallNode :=
  f.calls.filter fun c => !c.hidden

def site (c : CallNode) : Site :=
  (f.symbol, c.place)

variable [PythonUnicode]

/-- The sink that a call is. -/
def sink (c : CallNode) : Option SinkNode :=
  let normalized := normalizeName c.callee f.imports
  let callee := if normalized = "" then c.callee else normalized
  (sinkKind callee).map fun kind => ⟨f.symbol, f.path, c.place, kind, callee⟩

end FunctionInfo

/-- `index.functions` : the last function of each symbol. -/
def indexFunctions (functions : List FunctionInfo) : List FunctionInfo :=
  Table.collect FunctionInfo.symbol functions

section

variable [PythonUnicode]

/-- `index.sink_by_site` and the sinks that are put into it, in order. -/
def siteSinks (functions : List FunctionInfo) : List (Site × SinkNode) :=
  (indexFunctions functions).flatMap fun f =>
    f.functionCalls.filterMap fun c => (f.sink c).map fun sink => (f.site c, sink)

/-- `index.sink_by_site.get(site)`. -/
def sinkAt (functions : List FunctionInfo) (site : Site) : Option SinkNode :=
  ((Table.collect Prod.fst (siteSinks functions)).find?
    fun entry => entry.1 = site).map Prod.snd

end

/-! ## Where calls start -/

theorem start_mem_openings : ∀ e : Expr, start e ∈ openings e
  | .name place _ => by simp [start, openings]
  | .attribute value _ => by simpa [start, openings] using start_mem_openings value
  | .call func _ => by
    rw [start, openings]
    exact List.mem_append_left _ (start_mem_openings func)
  | .group place _ => by simp [start, openings]
  | .lambda place _ => by simp [start, openings]
  | .leading first _ => by
    rw [start, openings]
    exact List.mem_append_left _ (start_mem_openings first)
  | .opening place _ => by simp [start, openings]

/-- The places of the calls of an expression. -/
def places (hidden : Bool) (e : Expr) : List Place :=
  (calls hidden e).map CallNode.place

def allPlaces (hidden : Bool) (es : List Expr) : List Place :=
  (allCalls hidden es).map CallNode.place

theorem append_subset_append {ps qs rs ts : List Place} (h : ps ⊆ rs) (h' : qs ⊆ ts) :
    ps ++ qs ⊆ rs ++ ts :=
  List.append_subset.2
    ⟨List.subset_append_of_subset_left _ h, List.subset_append_of_subset_right _ h'⟩

mutual

theorem places_subset (hidden : Bool) : ∀ e : Expr, places hidden e ⊆ openings e
  | .name _ _ => by simp [places, calls]
  | .attribute value _ => by
    rw [places, calls, openings]
    exact places_subset hidden value
  | .call func args => by
    rw [places, calls, openings, List.map_cons, List.map_append]
    refine List.cons_subset.2 ⟨List.mem_append_left _ (start_mem_openings func), ?_⟩
    exact append_subset_append (places_subset hidden func) (allPlaces_subset hidden args)
  | .group place inner => by
    rw [places, calls, openings]
    exact List.subset_cons_of_subset _ (places_subset hidden inner)
  | .lambda place children => by
    rw [places, calls, openings]
    exact List.subset_cons_of_subset _ (allPlaces_subset true children)
  | .leading first rest => by
    rw [places, calls, openings, List.map_append]
    exact append_subset_append (places_subset hidden first) (allPlaces_subset hidden rest)
  | .opening place children => by
    rw [places, calls, openings]
    exact List.subset_cons_of_subset _ (allPlaces_subset hidden children)

theorem allPlaces_subset (hidden : Bool) : ∀ es : List Expr, allPlaces hidden es ⊆ allOpenings es
  | [] => by simp [allPlaces, allCalls]
  | e :: es => by
    rw [allPlaces, allCalls, allOpenings, List.map_append]
    exact append_subset_append (places_subset hidden e) (allPlaces_subset hidden es)

end

/-- A call starts where the whole expression does if the expression opens with a call. -/
theorem start_mem_places_iff {hidden : Bool} : ∀ {e : Expr}, (openings e).Nodup →
    (start e ∈ places hidden e ↔ opensWithCall e = true)
  | .name place id, _ => by simp [places, calls, opensWithCall]
  | .attribute value attr, h => by
    rw [openings] at h
    rw [start, places, calls, opensWithCall]
    exact start_mem_places_iff h
  | .call func args, _ => by simp [start, places, calls, opensWithCall]
  | .group place inner, h => by
    rw [openings, List.nodup_cons] at h
    rw [start, places, calls, opensWithCall]
    exact iff_of_false (fun hmem => h.1 (places_subset hidden inner hmem)) Bool.false_ne_true
  | .lambda place children, h => by
    rw [openings, List.nodup_cons] at h
    rw [start, places, calls, opensWithCall]
    exact iff_of_false (fun hmem => h.1 (allPlaces_subset true children hmem)) Bool.false_ne_true
  | .leading first rest, h => by
    rw [openings, List.nodup_append] at h
    have hrest : start first ∉ allPlaces hidden rest := fun hmem =>
      h.2.2 _ (start_mem_openings first) _ (allPlaces_subset hidden rest hmem) rfl
    rw [start, places, calls, opensWithCall, List.map_append, List.mem_append]
    exact (or_iff_left hrest).trans (start_mem_places_iff h.1)
  | .opening place children, h => by
    rw [openings, List.nodup_cons] at h
    rw [start, places, calls, opensWithCall]
    exact iff_of_false (fun hmem => h.1 (allPlaces_subset hidden children hmem)) Bool.false_ne_true

/-- The places of two stretches of text are told apart. -/
theorem nodup_places_append {xs ys : List CallNode} {ps qs : List Place}
    (hxs : xs.map CallNode.place ⊆ ps) (hys : ys.map CallNode.place ⊆ qs) (h : (ps ++ qs).Nodup) :
    ((xs ++ ys).map CallNode.place).Nodup ↔
      (xs.map CallNode.place).Nodup ∧ (ys.map CallNode.place).Nodup := by
  rw [List.map_append, List.nodup_append]
  refine and_congr_right fun _ => and_iff_left ?_
  exact fun p hp q hq => (List.nodup_append.1 h).2.2 p (hxs hp) q (hys hq)

mutual

/-- Two calls of an expression start at one place if the one opens what the other calls. -/
theorem nodup_places_iff {hidden : Bool} : ∀ {e : Expr}, (openings e).Nodup →
    ((places hidden e).Nodup ↔ ∀ c ∈ calls hidden e, c.chained = false)
  | .name place id, _ => by simp [places, calls]
  | .attribute value attr, h => by
    rw [openings] at h
    rw [places, calls]
    exact nodup_places_iff h
  | .call func args, h => by
    rw [openings] at h
    have hparts := List.nodup_append.1 h
    have hargs : start func ∉ allPlaces hidden args := fun hmem =>
      hparts.2.2 _ (start_mem_openings func) _ (allPlaces_subset hidden args hmem) rfl
    have hfirst : start func ∈ places hidden func ↔ opensWithCall func = true :=
      start_mem_places_iff hparts.1
    have hstart : start func ∉ (calls hidden func ++ allCalls hidden args).map CallNode.place ↔
        opensWithCall func = false := by
      rw [List.map_append, List.mem_append, ← Bool.not_eq_true,
        ← hfirst]
      exact not_congr (or_iff_left hargs)
    rw [places, calls, List.map_cons, List.nodup_cons, hstart,
      nodup_places_append (places_subset hidden func) (allPlaces_subset hidden args) h,
      List.forall_mem_cons, List.forall_mem_append]
    exact and_congr_right fun _ =>
      and_congr (nodup_places_iff hparts.1) (nodup_allPlaces_iff hparts.2.1)
  | .group place inner, h => by
    rw [openings, List.nodup_cons] at h
    rw [places, calls]
    exact nodup_places_iff h.2
  | .lambda place children, h => by
    rw [openings, List.nodup_cons] at h
    rw [places, calls]
    exact nodup_allPlaces_iff h.2
  | .leading first rest, h => by
    rw [openings] at h
    have hparts := List.nodup_append.1 h
    rw [places, calls, List.forall_mem_append,
      nodup_places_append (places_subset hidden first) (allPlaces_subset hidden rest) h]
    exact and_congr (nodup_places_iff hparts.1) (nodup_allPlaces_iff hparts.2.1)
  | .opening place children, h => by
    rw [openings, List.nodup_cons] at h
    rw [places, calls]
    exact nodup_allPlaces_iff h.2

theorem nodup_allPlaces_iff {hidden : Bool} : ∀ {es : List Expr}, (allOpenings es).Nodup →
    ((allPlaces hidden es).Nodup ↔ ∀ c ∈ allCalls hidden es, c.chained = false)
  | [], _ => by simp [allPlaces, allCalls]
  | e :: es, h => by
    rw [allOpenings] at h
    have hparts := List.nodup_append.1 h
    rw [allPlaces, allCalls, List.forall_mem_append,
      nodup_places_append (places_subset hidden e) (allPlaces_subset hidden es) h]
    exact and_congr (nodup_places_iff hparts.1) (nodup_allPlaces_iff hparts.2.1)

end

/-! ## Sites -/

variable {functions : List FunctionInfo}

/-- The keys of two functions are told apart by their symbols. -/
theorem nodup_sites_iff :
    ((indexFunctions functions).flatMap fun f => f.calls.map f.site).Nodup ↔
      ∀ f ∈ indexFunctions functions, (f.calls.map CallNode.place).Nodup := by
  rw [List.nodup_flatMap]
  constructor
  · intro h f hf
    have hsites : ((f.calls.map CallNode.place).map (Prod.mk f.symbol)).Nodup := by
      rw [List.map_map]
      exact h.1 f hf
    exact hsites.of_map _
  · intro h
    refine ⟨fun f hf => ?_, ?_⟩
    · rw [show f.site = Prod.mk f.symbol ∘ CallNode.place from rfl, ← List.map_map]
      exact (h f hf).map fun p q heq => (Prod.mk.inj heq).2
    · have hsymbols :
          ((Table.collect FunctionInfo.symbol functions).map FunctionInfo.symbol).Nodup :=
        Table.nodup_collect functions
      refine (List.pairwise_map.1 hsymbols).imp fun {f g} hne => ?_
      refine List.disjoint_left.2 fun site hf hg => ?_
      obtain ⟨c, -, rfl⟩ := List.mem_map.1 hf
      obtain ⟨d, -, heq⟩ := List.mem_map.1 hg
      exact hne (Prod.mk.inj heq).1.symm

/-- A call has a site of its own. -/
theorem eq_of_site {f g : FunctionInfo} {c d : CallNode} (hf : f ∈ indexFunctions functions)
    (hg : g ∈ indexFunctions functions) (hc : c ∈ f.calls) (hd : d ∈ g.calls)
    (hplaces : (f.calls.map CallNode.place).Nodup) (h : g.site d = f.site c) : g = f ∧ d = c := by
  obtain ⟨hsymbol, hplace⟩ := Prod.mk.inj h
  obtain rfl : g = f := Table.eq_of_key (Table.nodup_collect functions) hg hf hsymbol
  exact ⟨rfl, List.inj_on_of_nodup_map hplaces hd hc hplace⟩

variable [PythonUnicode]

theorem mem_siteSinks {entry : Site × SinkNode} : entry ∈ siteSinks functions ↔
    ∃ f ∈ indexFunctions functions, ∃ c ∈ f.calls, c.hidden = false ∧
      f.sink c = some entry.2 ∧ entry.1 = f.site c := by
  simp only [siteSinks, List.mem_flatMap, List.mem_filterMap, Option.map_eq_some_iff,
    FunctionInfo.functionCalls, List.mem_filter, Bool.not_eq_true']
  constructor
  · rintro ⟨f, hf, c, ⟨hc, hhidden⟩, sink, hsink, rfl⟩
    exact ⟨f, hf, c, hc, hhidden, hsink, rfl⟩
  · rintro ⟨f, hf, c, hc, hhidden, hsink, hsite⟩
    exact ⟨f, hf, c, ⟨hc, hhidden⟩, entry.2, hsink, Prod.ext hsite.symm rfl⟩

/-- The sink that is found at a call is that of the call. -/
theorem sinkAt_site
    (hplaces : ∀ f ∈ indexFunctions functions, (f.calls.map CallNode.place).Nodup)
    {f : FunctionInfo} {c : CallNode} (hf : f ∈ indexFunctions functions) (hc : c ∈ f.calls) :
    sinkAt functions (f.site c) = if c.hidden then none else f.sink c := by
  rw [sinkAt, Table.find?_collect]
  cases hfind : (siteSinks functions).reverse.find? fun entry => entry.1 = f.site c with
  | none =>
    cases hhidden : c.hidden with
    | true => rfl
    | false =>
      cases hsink : f.sink c with
      | none => rfl
      | some sink =>
        have hmem : (f.site c, sink) ∈ siteSinks functions :=
          mem_siteSinks.2 ⟨f, hf, c, hc, hhidden, hsink, rfl⟩
        simpa using List.find?_eq_none.1 hfind _ (List.mem_reverse.2 hmem)
  | some entry =>
    have hkey : entry.1 = f.site c := by simpa using List.find?_some hfind
    obtain ⟨g, hg, d, hd, hhidden, hsink, hsite⟩ :=
      mem_siteSinks.1 (List.mem_reverse.1 (List.mem_of_find?_eq_some hfind))
    obtain ⟨rfl, rfl⟩ := eq_of_site hf hg hc hd (hplaces f hf) (hsite.symm.trans hkey)
    rw [hhidden, hsink]
    rfl

/-- No two calls have one site, and each finds the sink that it is, if no function has a call of
what opens with another call. -/
theorem sites_distinct_iff (functions : List FunctionInfo) :
    (((indexFunctions functions).flatMap fun f => f.calls.map f.site).Nodup ∧
      ∀ f ∈ indexFunctions functions, ∀ c ∈ f.calls,
        sinkAt functions (f.site c) = if c.hidden then none else f.sink c) ↔
      ∀ f ∈ indexFunctions functions, ∀ c ∈ f.calls, c.chained = false := by
  have hplaces : (∀ f ∈ indexFunctions functions, (f.calls.map CallNode.place).Nodup) ↔
      ∀ f ∈ indexFunctions functions, ∀ c ∈ f.calls, c.chained = false :=
    forall₂_congr fun f _ => nodup_allPlaces_iff f.distinct
  rw [nodup_sites_iff, ← hplaces]
  exact and_iff_left_of_imp fun h f hf c hc => sinkAt_site h hf hc

/-- `open(path).execute(statement)` : a file, and a query over it. -/
def chainedSinks : FunctionInfo where
  symbol := "m.f"
  path := "m.py"
  imports _ := none
  body := [.call (.attribute (.call (.name ⟨2, 4⟩ "open") [.name ⟨2, 9⟩ "path"]) "execute")
    [.name ⟨2, 23⟩ "statement"]]
  distinct := by decide

end SinkSites

section

attribute [local instance] plainUnicode

open SinkSites

/-- The two calls share a site, and the query is found to be the file. -/
theorem SinkSites.chained_calls_share_site :
    ¬((indexFunctions [chainedSinks]).flatMap fun f => f.calls.map f.site).Nodup ∧
      (chainedSinks.calls.map fun c => ((sinkAt [chainedSinks] (chainedSinks.site c)).map
        SinkNode.kind, (chainedSinks.sink c).map SinkNode.kind)) =
        [(some .file, some .sql), (some .file, some .file)] := by
  decide +kernel

end

end VulnLoom

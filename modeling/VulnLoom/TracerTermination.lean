import VulnLoom.FlowTracer

/-!
# The flow tracer ends

Whatever the call graph, the tracer comes to an end (`tracer_ends`). A call makes the chain longer,
and a chain that is too long or comes back to a function is not walked; within a function the walk
follows the tree. The chain and the functions that are active say the same.
-/

set_option linter.unusedSectionVars false

namespace VulnLoom

namespace FlowTracer

open Filter FuelledRun

/-! ## What a merge keeps -/

theorem Environment.get_map {f : String → Finset String} {names : List String} {name : String}
    (h : name ∉ names → f name = ∅) :
    Environment.get (names.map fun key => (key, f key)) name = f name := by
  induction names with
  | nil => exact (h List.not_mem_nil).symm
  | cons key names ih =>
    rcases eq_or_ne name key with rfl | hne
    · simp [Environment.get]
    · have hlookup : (name == key) = false := by simpa using hne
      simpa [Environment.get, List.lookup_cons, hlookup] using
        ih fun hmem => h (by simp [hne, hmem])

theorem Environment.get_of_notMem {environment : Environment} {name : String}
    (h : name ∉ environment.map Prod.fst) : environment.get name = ∅ := by
  rw [Environment.get, List.lookup_eq_none_iff.2, Option.getD_none]
  intro p hp
  exact bne_iff_ne.2 fun heq => h (heq ▸ List.mem_map_of_mem hp)

/-- A merge carries what either side carries. -/
theorem get_mergeEnvironments (left right : Environment) (name : String) :
    (mergeEnvironments left right).get name = left.get name ∪ right.get name := by
  refine Environment.get_map fun h => ?_
  rw [List.mem_dedup, List.map_append, List.mem_append, not_or] at h
  rw [Environment.get_of_notMem h.1, Environment.get_of_notMem h.2, Finset.union_empty]

theorem get_foldl_merge {name : String} : ∀ {values : List Environment} {output : Environment},
    output.get name ⊆ (values.foldl mergeEnvironments output).get name ∧
      ∀ value ∈ values, value.get name ⊆ (values.foldl mergeEnvironments output).get name
  | [], output => ⟨Finset.Subset.refl _, by simp⟩
  | value :: values, output => by
    obtain ⟨hfirst, hrest⟩ := @get_foldl_merge name values (mergeEnvironments output value)
    rw [get_mergeEnvironments] at hfirst
    rw [List.foldl_cons, List.forall_mem_cons]
    exact ⟨Finset.union_subset_left hfirst, Finset.union_subset_right hfirst, hrest⟩

/-! ## The chains of a state -/

variable {limits : SourceMapperLimits} {s : TracerState} {chain : List String} {n : ℕ} {α : Type}

/-- The chain comes to no function twice and is not too long. -/
def Acyclic (limits : SourceMapperLimits) (chain : List String) : Prop :=
  chain.Nodup ∧ chain.length ≤ limits.maxCallDepth

/-- The chains that were walked, and those of the flows, are acyclic. -/
structure TracerState.Sound (limits : SourceMapperLimits) (s : TracerState) : Prop where
  explored : ∀ chain ∈ s.explored, Acyclic limits chain
  flows : ∀ flow ∈ s.flows, Acyclic limits flow.callChain

theorem TracerState.Sound.explore (h : s.Sound limits) (hchain : Acyclic limits chain) :
    TracerState.Sound limits { s with explored := s.explored ++ [chain] } :=
  ⟨by simpa [or_imp, forall_and] using ⟨h.explored, hchain⟩, h.flows⟩

section

variable [CanonicalDigest FlowIdentity]

theorem TracerState.Sound.withFlow (h : s.Sound limits) {identity : FlowIdentity} {confidence : ℚ}
    (hchain : Acyclic limits identity.chain) : (s.withFlow identity confidence).Sound limits := by
  refine ⟨h.explored, fun flow hflow => ?_⟩
  simp only [TracerState.withFlow, Table.upsert] at hflow
  split_ifs at hflow
  · obtain ⟨old, hold, rfl⟩ := Table.mem_update.1 hflow
    split_ifs
    · exact hchain
    · exact h.flows old hold
  · obtain hflow | hflow := List.mem_append.1 hflow
    · exact h.flows flow hflow
    · rw [List.mem_singleton.1 hflow]
      exact hchain

theorem TracerState.Sound.addGuards (h : s.Sound limits) {guardIds : Finset Digest} :
    (s.addGuards chain guardIds).Sound limits := by
  have hfold : ∀ (flows : List TracedFlow) (s : TracerState), s.Sound limits →
      (∀ flow ∈ flows, Acyclic limits flow.callChain) → (flows.foldl (fun s flow =>
        if chain <+: flow.callChain then
          let s := { s with flows := s.flows.filter fun other => other.flowId ≠ flow.flowId }
          s.withFlow ⟨flow.routeId, flow.sourceNames, flow.callChain, flow.sinkId,
            (flow.guardIds.toFinset ∪ guardIds).sort (· ≤ ·)⟩ flow.confidence
        else s) s).Sound limits := by
    intro flows
    induction flows with
    | nil => exact fun s h _ => h
    | cons flow flows ih =>
      intro s h hflows
      rw [List.forall_mem_cons] at hflows
      refine ih _ ?_ hflows.2
      dsimp only
      split_ifs
      · have hfiltered : TracerState.Sound limits
            { s with flows := s.flows.filter fun other => other.flowId ≠ flow.flowId } :=
          ⟨h.explored, fun other hother => h.flows other (List.mem_of_mem_filter hother)⟩
        exact hfiltered.withFlow hflows.1
      · exact h
  exact hfold s.flows s h h.flows

end

/-! ## The parts of a walk -/

/-- From some fuel on the walk ends, whatever the names and guards carry. -/
def Settles (limits : SourceMapperLimits) (m : Environment → Finset Digest → ℕ → Tracer α) : Prop :=
  ∀ᶠ n in atTop, ∀ environment guards, EndsBy (TracerState.Sound limits) n (m environment guards)

theorem Settles.call {m : Environment → Finset Digest → ℕ → Tracer α}
    (h : Settles limits fun environment guards fuel => m environment guards (fuel + 1)) :
    Settles limits m := by
  obtain ⟨n, h⟩ := Eventually.exists h
  exact eventually_atTop.2 ⟨n + 1, fun k hk environment guards =>
    ((h environment guards).succ).mono hk⟩

theorem check_ends (expired : ℕ → Bool) :
    EndsBy (TracerState.Sound limits) n fun _ => check expired := by
  intro s hs
  have hrun : (check expired).from s = Run.from
      (if expired s.checks then throw (.sourceMapping "source mapping timed out") else pure ())
      { s with checks := s.checks + 1 } := rfl
  simp only [hrun]
  cases expired s.checks with
  | true => exact ⟨_, { s with checks := s.checks + 1 }, ⟨hs.1, hs.2⟩, fun _ _ => rfl⟩
  | false => exact ⟨_, { s with checks := s.checks + 1 }, ⟨hs.1, hs.2⟩, fun _ _ => rfl⟩

/-! ## The walk of a function -/

variable [PythonUnicode] [CanonicalDigest FlowIdentity] {index : StaticIndex} {expired : ℕ → Bool}
  {frame : Frame}

variable (limits index expired frame) in
/-- The calls of a function settle. -/
def CallsSettle : Prop :=
  ∀ callee : FunctionInfo, Settles limits fun environment guards fuel =>
    function index limits expired fuel
      { frame with info := callee, chain := frame.chain ++ [callee.symbol] } environment guards

variable (limits index expired frame) in
def ExpressionSettles (e : Expr) : Prop :=
  Settles limits fun environment guards fuel =>
    expression index limits expired fuel frame e environment guards

variable (limits index expired frame) in
def BlockSettles (b : List Stmt) (dominant : Bool) : Prop :=
  Settles limits fun environment guards fuel =>
    block index limits expired fuel frame b environment guards dominant

section

variable (hchain : Acyclic limits frame.chain) (hcalls : CallsSettle limits index expired frame)

include hchain hcalls

/-- An expression settles where its children do. -/
theorem expression_settles_of_children {e : Expr}
    (h : ∀ᶠ n in atTop, ∀ child ∈ e.children, ∀ environment guards,
      EndsBy (TracerState.Sound limits) n fun fuel =>
        expression index limits expired fuel frame child environment guards) :
    ExpressionSettles limits index expired frame e := by
  refine Settles.call ?_
  cases e with
  | call func args keywords line column =>
    have hcallee : ∀ᶠ n in atTop, ∀ callee ∈
        index.resolve frame.info (normalizeName (dotted func) frame.info.module.imports),
        ∀ environment guards, EndsBy (TracerState.Sound limits) n fun fuel =>
          function index limits expired fuel
            { frame with info := callee, chain := frame.chain ++ [callee.symbol] } environment
            guards := by
      cases index.resolve frame.info (normalizeName (dotted func) frame.info.module.imports) with
      | none => simp
      | some callee =>
        filter_upwards [hcalls callee] with n h
        simpa using h
    filter_upwards [h, hcallee] with n h hcallee environment guards
    simp only [expression]
    refine (EndsBy.forM fun child hchild => h child hchild environment guards).seq ?_
    refine EndsBy.seq (m := fun _ => _) ?_ ?_
    · cases index.sinkBySite.lookup (frame.info.symbol, line, column) with
      | none => exact .pure ()
      | some sink =>
        dsimp only [Option.forM]
        split
        · exact .pure ()
        · exact .modify fun s hs => hs.withFlow hchain
    · revert hcallee
      cases index.resolve frame.info (normalizeName (dotted func) frame.info.module.imports) with
      | none => exact fun _ => .pure ()
      | some callee => exact fun hcallee => hcallee callee rfl _ _
  | _ =>
    filter_upwards [h] with n h environment guards
    simp only [expression]
    exact (EndsBy.forM fun child hchild => h child hchild environment guards).seq (.pure ())

mutual

theorem expression_settles : ∀ e : Expr, ExpressionSettles limits index expired frame e
  | .name _ | .constant => expression_settles_of_children hchain hcalls (by simp [Expr.children])
  | .attribute value _ | .negation value => by
    refine expression_settles_of_children hchain hcalls ?_
    filter_upwards [expression_settles value] with n h
    simpa [Expr.children] using h
  | .call func args keywords _ _ => by
    refine expression_settles_of_children hchain hcalls ?_
    filter_upwards [expression_settles func, expressions_settle args, keywords_settle keywords]
      with n hfunc hargs hkeywords
    intro child hchild
    simp only [Expr.children, List.cons_append, List.mem_cons, List.mem_append,
      List.mem_map] at hchild
    obtain rfl | hchild | ⟨keyword, hkeyword, rfl⟩ := hchild
    · exact hfunc
    · exact hargs child hchild
    · exact hkeywords keyword hkeyword
  | .display es | .node es =>
    expression_settles_of_children hchain hcalls (expressions_settle es)
  | .compare left _ comparators => by
    refine expression_settles_of_children hchain hcalls ?_
    filter_upwards [expression_settles left, expressions_settle comparators] with n hleft hrest
    simpa [Expr.children] using ⟨hleft, hrest⟩

theorem expressions_settle : ∀ es : List Expr, ∀ᶠ n in atTop, ∀ e ∈ es, ∀ environment guards,
    EndsBy (TracerState.Sound limits) n fun fuel =>
      expression index limits expired fuel frame e environment guards
  | [] => by simp
  | e :: es => by
    filter_upwards [expression_settles e, expressions_settle es] with n h hrest
    exact List.forall_mem_cons.2 ⟨h, hrest⟩

theorem keywords_settle : ∀ keywords : List (Option String × Expr), ∀ᶠ n in atTop,
    ∀ keyword ∈ keywords, ∀ environment guards, EndsBy (TracerState.Sound limits) n fun fuel =>
      expression index limits expired fuel frame (.node [keyword.2]) environment guards
  | [] => by simp
  | (arg, value) :: keywords => by
    have hnode : ExpressionSettles limits index expired frame (.node [value]) := by
      refine expression_settles_of_children hchain hcalls ?_
      filter_upwards [expression_settles value] with n h
      simpa [Expr.children] using h
    filter_upwards [hnode, keywords_settle keywords] with n h hrest
    exact List.forall_mem_cons.2 ⟨h, hrest⟩

end

mutual

theorem statement_settles : ∀ (s : Stmt) (dominant : Bool), Settles limits
    fun environment guards fuel =>
      statement index limits expired fuel frame s environment guards dominant
  | .assign _ _ value, _ | .annAssign _ _ (some value), _ | .augAssign _ _ value, _
  | .expr _ value, _ | .assertStmt _ value, _ | .returnStmt _ (some value), _
  | .raiseStmt _ (some value), _ => by
    refine Settles.call ?_
    filter_upwards [expression_settles hchain hcalls value] with n h environment guards
    simp only [statement]
    exact (h _ _).seq (.pure _)
  | .annAssign _ _ none, _ =>
    .call (.of_forall fun _ _ _ => by simp only [statement]; exact .throw _)
  | .returnStmt _ none, _ | .raiseStmt _ none, _ | .other _, _ =>
    .call (.of_forall fun _ _ _ => by simp only [statement]; exact .pure _)
  | .ifStmt _ test body orelse, dominant => by
    refine Settles.call ?_
    filter_upwards [expression_settles hchain hcalls test, block_settles body false,
      block_settles orelse false] with n htest hbody horelse environment guards
    simp only [statement]
    refine (htest _ _).seq ((hbody _ _).bind fun _ => (horelse _ _).bind fun _ => ?_)
    split
    · exact (EndsBy.modify fun s hs => hs.addGuards).seq (.pure _)
    · exact .pure _
  | .forStmt _ _ iter body, _ => by
    refine Settles.call ?_
    filter_upwards [expression_settles hchain hcalls iter, block_settles body false]
      with n hiter hbody environment guards
    simp only [statement]
    exact (hiter _ _).seq ((hbody _ _).bind fun _ => .pure _)
  | .whileStmt _ test body, _ => by
    refine Settles.call ?_
    filter_upwards [expression_settles hchain hcalls test, block_settles body false]
      with n htest hbody environment guards
    simp only [statement]
    exact (htest _ _).seq ((hbody _ _).bind fun _ => .pure _)
  | .tryStmt _ body handlers finalbody, _ => by
    refine Settles.call ?_
    filter_upwards [block_settles body false, blocks_settle handlers,
      block_settles finalbody false] with n hbody hhandlers hfinal environment guards
    simp only [statement]
    exact (hbody _ _).bind fun _ =>
      (EndsBy.mapM fun handler hmem => hhandlers handler hmem environment guards).bind fun _ =>
        (hfinal _ _).bind fun _ => .pure _
  | .withStmt _ contexts body, _ => by
    refine Settles.call ?_
    filter_upwards [expressions_settle hchain hcalls contexts, block_settles body false]
      with n hcontexts hbody environment guards
    simp only [statement]
    exact (EndsBy.forM fun e he => hcontexts e he environment guards).seq
      ((hbody _ _).bind fun _ => .pure _)

theorem block_settles : ∀ (b : List Stmt) (dominant : Bool),
    BlockSettles limits index expired frame b dominant
  | [], _ => .call (.of_forall fun _ _ _ => by simp only [block]; exact .pure _)
  | s :: rest, dominant => by
    refine Settles.call ?_
    filter_upwards [statement_settles s dominant, block_settles rest dominant]
      with n h hrest environment guards
    simp only [block]
    refine (check_ends expired).seq ((h _ _).bind fun _ => ?_)
    split
    · exact .pure _
    · exact hrest _ _

theorem blocks_settle : ∀ handlers : List (List Stmt), ∀ᶠ n in atTop, ∀ handler ∈ handlers,
    ∀ environment guards, EndsBy (TracerState.Sound limits) n fun fuel =>
      block index limits expired fuel frame handler environment guards false
  | [] => by simp
  | handler :: handlers => by
    filter_upwards [block_settles handler false, blocks_settle handlers] with n h hrest
    exact List.forall_mem_cons.2 ⟨h, hrest⟩

end

end

/-- The function is reached by a chain of functions, which are active. -/
def Frame.Entered (frame : Frame) : Prop :=
  ∃ before : List String, frame.chain = before ++ [frame.info.symbol] ∧ before.Nodup ∧
    ∀ symbol, symbol ∈ frame.active ↔ symbol ∈ before

/-- By induction on the length that the chain can still grow by. -/
theorem function_settles : ∀ (k : ℕ) (frame : Frame), frame.Entered →
    limits.maxCallDepth < frame.chain.length + k → Settles limits fun environment guards fuel =>
      function index limits expired fuel frame environment guards
  | k, frame, ⟨before, hbefore, hnodup, hactive⟩, hk => by
    refine Settles.call ?_
    by_cases hstop : limits.maxCallDepth < frame.chain.length ∨ frame.info.symbol ∈ frame.active
    · refine .of_forall fun n environment guards => ?_
      simp only [function, if_pos hstop]
      exact (check_ends expired).seq (.pure ())
    obtain ⟨hlength, hsymbol⟩ := not_or.1 hstop
    obtain ⟨k, rfl⟩ : ∃ j, k = j + 1 := ⟨k - 1, by omega⟩
    have hchain : Acyclic limits frame.chain := by
      refine ⟨?_, by omega⟩
      rw [hbefore, ← List.concat_eq_append, List.nodup_concat]
      exact ⟨fun hmem => hsymbol ((hactive _).2 hmem), hnodup⟩
    have hcalls : CallsSettle limits index expired
        { frame with active := insert frame.info.symbol frame.active } := by
      refine fun callee => function_settles k _ ⟨frame.chain, rfl, hchain.1, fun symbol => ?_⟩ ?_
      · simp [hbefore, hactive, or_comm]
      · simpa using by omega
    have hblock : BlockSettles limits index expired
        { frame with active := insert frame.info.symbol frame.active } frame.info.body true :=
      @block_settles limits _ _ index expired
        { frame with active := insert frame.info.symbol frame.active } hchain hcalls _ _
    filter_upwards [hblock] with n h environment guards
    simp only [function, if_neg hstop]
    refine (check_ends expired).seq ?_
    exact (EndsBy.modify fun s hs => hs.explore hchain).seq ((h _ _).bind fun _ => .pure ())

/-! ## Every module -/

theorem traceRoute_settles (route : TracedRoute) : ∀ᶠ n in atTop,
    EndsBy (TracerState.Sound limits) n fun fuel => traceRoute index limits expired fuel route := by
  unfold traceRoute
  cases index.function? route.handlerSymbol with
  | none => exact .of_forall fun _ => .pure ()
  | some info =>
    have hentered : Frame.Entered ⟨route, info, [info.symbol], ∅⟩ :=
      ⟨[], rfl, List.nodup_nil, by simp⟩
    have hlimit : limits.maxCallDepth < [info.symbol].length + limits.maxCallDepth := by simp
    filter_upwards [function_settles limits.maxCallDepth _ hentered hlimit] with n h
    exact h _ _

theorem traceRoutes_settle : ∀ routes : List TracedRoute, ∀ᶠ n in atTop, ∀ route ∈ routes,
    EndsBy (TracerState.Sound limits) n fun fuel => traceRoute index limits expired fuel route
  | [] => by simp
  | route :: routes => by
    filter_upwards [traceRoute_settles route, traceRoutes_settle routes] with n h hrest
    exact List.forall_mem_cons.2 ⟨h, hrest⟩

end FlowTracer

open FlowTracer FuelledRun in
/-- The tracer ends on every module, whatever its functions call and whatever the clock says. The
chains that it walks, and those of its flows, come to no function twice and are at most
`max_call_depth` long; a name carries after a merge what it carries in each of the branches. -/
theorem tracer_ends [PythonUnicode] [CanonicalDigest FlowIdentity] (index : StaticIndex)
    (limits : SourceMapperLimits) (expired : ℕ → Bool) :
    (∃ n outcome state, (∀ fuel ≥ n, trace index limits expired fuel = some (outcome, state)) ∧
      (∀ chain ∈ state.explored, chain.Nodup ∧ chain.length ≤ limits.maxCallDepth) ∧
      ∀ flow ∈ state.flows, flow.callChain.Nodup ∧
        flow.callChain.length ≤ limits.maxCallDepth) ∧
    (∀ (left right : Environment) (name : String),
      left.get name ⊆ (mergeEnvironments left right).get name ∧
        right.get name ⊆ (mergeEnvironments left right).get name) ∧
    ∀ (branches : List Environment), ∀ branch ∈ branches, ∀ name : String,
      branch.get name ⊆ (mergeMany branches).get name := by
  refine ⟨?_, fun left right name => ?_, fun branches branch hbranch name => ?_⟩
  · obtain ⟨n, hroutes⟩ : ∃ n, ∀ route ∈ index.routes,
        EndsBy (TracerState.Sound limits) n fun fuel =>
          traceRoute index limits expired fuel route := (traceRoutes_settle index.routes).exists
    have hstart : TracerState.Sound limits ⟨0, [], []⟩ := ⟨by simp, by simp⟩
    obtain ⟨outcome, state, hstate, hrun⟩ :=
      ((EndsBy.forM hroutes).seq (EndsBy.get.bind fun s => .pure _)) _ hstart
    exact ⟨n, outcome, state, hrun, hstate.explored, hstate.flows⟩
  · rw [get_mergeEnvironments]
    exact ⟨Finset.subset_union_left, Finset.subset_union_right⟩
  · exact get_foldl_merge.2 branch hbranch

end VulnLoom

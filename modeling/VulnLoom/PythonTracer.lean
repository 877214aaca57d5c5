import VulnLoom.Basic

/-!
# The statement walk of the flow tracer

The functions of a module are read twice : `_function_calls` collects every call of a body with a
visitor of the whole tree, and the tracer walks the statements of a body with a case for each form
it knows. A statement is its kind with its fields, in the order of `ast`; a call is told apart by
its place in the tree and carries the function it resolves to. What the tracer keeps of names and
guards along the walk is left out : it decides no step of it. So is the wall clock.
-/

namespace VulnLoom

/-! ## Trees -/

/-- An expression : what is no call and no lambda is its children. -/
inductive PyExpr
  | node (children : List PyExpr)
  | lambda (children : List PyExpr)
  | call (id : ℕ) (callee : Option String) (children : List PyExpr)

inductive PyStmtKind
  /-- `FunctionDef`, `AsyncFunctionDef` and `ClassDef` -/
  | definition
  | returnStmt
  | delete
  | assign
  | typeAlias
  | augAssign
  | annAssign
  /-- `For` and `AsyncFor` -/
  | forStmt
  | whileStmt
  | ifStmt
  /-- `With` and `AsyncWith` -/
  | withStmt
  | matchStmt
  | raiseStmt
  | tryStmt
  | tryStar
  | assertStmt
  | expr
  /-- imports, `Global`, `Nonlocal`, `Pass`, `Break` and `Continue` -/
  | other
  deriving DecidableEq

/-- The fields of statements, and of the handlers, items and cases that stand in them. -/
inductive PyField
  | name
  | value
  | targets
  | target
  | annotation
  | iter
  | test
  | msg
  | exc
  | cause
  | contextExpr
  | optionalVars
  | subject
  | pattern
  | guard
  | body
  | orelse
  | handlerType
  | handlerBody
  | finalbody
  deriving DecidableEq

mutual

inductive PyStmt
  | mk (kind : PyStmtKind) (parts : List PyPart)

/-- A field of a statement; an optional expression is a list of one or none. -/
inductive PyPart
  | expressions (field : PyField) (es : List PyExpr)
  | block (field : PyField) (stmts : List PyStmt)

end

namespace PyStmt

def kind : PyStmt → PyStmtKind
  | mk kind _ => kind

/-- `isinstance(statement, (ast.Return, ast.Raise))`. -/
def leaves (s : PyStmt) : Bool :=
  s.kind = .returnStmt ∨ s.kind = .raiseStmt

end PyStmt

namespace PythonTracer

/-! ## The collector -/

mutual

/-- The calls of an expression that `_BodyCollector` comes to. -/
def collectExpr : PyExpr → List ℕ
  | .node children => collectExprs children
  | .lambda _ => []
  | .call id _ children => id :: collectExprs children

def collectExprs : List PyExpr → List ℕ
  | [] => []
  | e :: es => collectExpr e ++ collectExprs es

end

mutual

/-- The calls of a block that `_BodyCollector` comes to, each with whether it follows a return or a
raise in its own block; `followed` says so of the first statement. -/
def collectBlock : Bool → List PyStmt → List (ℕ × Bool)
  | _, [] => []
  | followed, s :: rest => collectStmt followed s ++ collectBlock (followed || s.leaves) rest

def collectStmt : Bool → PyStmt → List (ℕ × Bool)
  | followed, .mk kind parts => if kind = .definition then [] else collectParts followed parts

def collectParts : Bool → List PyPart → List (ℕ × Bool)
  | _, [] => []
  | followed, p :: ps => collectPart followed p ++ collectParts followed ps

def collectPart : Bool → PyPart → List (ℕ × Bool)
  | followed, .expressions _ es => (collectExprs es).map fun id => (id, followed)
  | _, .block _ stmts => collectBlock false stmts

end

/-- `_function_calls`. -/
def functionCalls (body : List PyStmt) : List (ℕ × Bool) :=
  collectBlock false body

/-! ## The tracer -/

/-- `AttributeError`, of an annotated assignment without a value. -/
inductive TracerError
  | attributeError
  deriving DecidableEq

/-- The fields that `_block` and `_statement_expressions` read of a statement. -/
def reads : PyStmtKind → PyField → Bool
  | .assign, .value | .annAssign, .value | .augAssign, .value => true
  | .ifStmt, .test | .ifStmt, .body | .ifStmt, .orelse => true
  | .forStmt, .iter | .forStmt, .body => true
  | .whileStmt, .test | .whileStmt, .body => true
  | .tryStmt, .body | .tryStmt, .handlerBody | .tryStmt, .finalbody => true
  | .withStmt, .contextExpr | .withStmt, .body => true
  | .expr, .value | .returnStmt, .value | .raiseStmt, .exc | .assertStmt, .test => true
  | _, _ => false

/-- The part is the value of a statement, and there is one. -/
def isValue : PyPart → Bool
  | .expressions .value (_ :: _) => true
  | _ => false

/-- A call that is visited, in a function. -/
structure Visit where
  symbol : String
  id : ℕ

section

variable (symbol : String) (enter : Option String → Except TracerError (List Visit))

mutual

/-- `_expression`. -/
def walkExpr : PyExpr → Except TracerError (List Visit)
  | .node children | .lambda children => walkExprs children
  | .call id callee children => do
    let before ← walkExprs children
    let inner ← enter callee
    return before ++ ⟨symbol, id⟩ :: inner

def walkExprs : List PyExpr → Except TracerError (List Visit)
  | [] => .ok []
  | e :: es => do
    let first ← walkExpr e
    let rest ← walkExprs es
    return first ++ rest

end

mutual

/-- `_block`. -/
def walkBlock : List PyStmt → Except TracerError (List Visit)
  | [] => .ok []
  | s :: rest => do
    let first ← walkStmt s
    if s.leaves then return first
    let after ← walkBlock rest
    return first ++ after

/-- The statement of an iteration of `_block`. -/
def walkStmt : PyStmt → Except TracerError (List Visit)
  | .mk kind parts => do
    raiseIf (kind = .annAssign ∧ ∀ p ∈ parts, isValue p = false) .attributeError
    walkParts kind parts

def walkParts : PyStmtKind → List PyPart → Except TracerError (List Visit)
  | _, [] => .ok []
  | kind, p :: ps => do
    let first ← walkPart kind p
    let rest ← walkParts kind ps
    return first ++ rest

def walkPart : PyStmtKind → PyPart → Except TracerError (List Visit)
  | kind, .expressions field es => if reads kind field then walkExprs symbol enter es else .ok []
  | kind, .block field stmts => if reads kind field then walkBlock stmts else .ok []

end

end

mutual

/-- The calls of an expression, wherever they stand. -/
def exprIds : PyExpr → List ℕ
  | .node children | .lambda children => exprsIds children
  | .call id _ children => id :: exprsIds children

def exprsIds : List PyExpr → List ℕ
  | [] => []
  | e :: es => exprIds e ++ exprsIds es

end

mutual

/-- The calls of a block, wherever they stand. -/
def blockIds : List PyStmt → List ℕ
  | [] => []
  | s :: rest => stmtIds s ++ blockIds rest

def stmtIds : PyStmt → List ℕ
  | .mk _ parts => partsIds parts

def partsIds : List PyPart → List ℕ
  | [] => []
  | p :: ps => partIds p ++ partsIds ps

def partIds : PyPart → List ℕ
  | .expressions _ es => exprsIds es
  | .block _ stmts => blockIds stmts

end

/-- What stands on the path of a walk : a call, or an annotated assignment without a value. -/
inductive Event
  | visit (id : ℕ) (callee : Option String)
  | crash

mutual

def exprEvents : PyExpr → List Event
  | .node children | .lambda children => exprsEvents children
  | .call id callee children => exprsEvents children ++ [.visit id callee]

def exprsEvents : List PyExpr → List Event
  | [] => []
  | e :: es => exprEvents e ++ exprsEvents es

end

mutual

/-- The path of the walk of a block. -/
def blockEvents : List PyStmt → List Event
  | [] => []
  | s :: rest => stmtEvents s ++ if s.leaves then [] else blockEvents rest

def stmtEvents : PyStmt → List Event
  | .mk kind parts =>
    (if kind = .annAssign ∧ ∀ p ∈ parts, isValue p = false then [.crash] else []) ++
      partsEvents kind parts

def partsEvents : PyStmtKind → List PyPart → List Event
  | _, [] => []
  | kind, p :: ps => partEvents kind p ++ partsEvents kind ps

def partEvents : PyStmtKind → PyPart → List Event
  | kind, .expressions field es => if reads kind field then exprsEvents es else []
  | kind, .block field stmts => if reads kind field then blockEvents stmts else []

end

section

variable {symbol : String} {enter : Option String → Except TracerError (List Visit)}

variable (symbol enter) in
/-- Follow a path. -/
def follow : List Event → Except TracerError (List Visit)
  | [] => .ok []
  | .crash :: _ => .error .attributeError
  | .visit id callee :: events => do
    let inner ← enter callee
    let rest ← follow events
    return ⟨symbol, id⟩ :: (inner ++ rest)

theorem follow_append : ∀ {xs ys : List Event}, follow symbol enter (xs ++ ys) = (do
    let first ← follow symbol enter xs
    let rest ← follow symbol enter ys
    return first ++ rest)
  | [], ys => by
    cases h : follow symbol enter ys <;> simp [follow, h, bind, Except.bind, pure, Except.pure]
  | .crash :: xs, ys => rfl
  | .visit id callee :: xs, ys => by
    rw [List.cons_append, follow, follow, follow_append]
    cases enter callee with
    | error e => rfl
    | ok inner =>
      cases follow symbol enter xs with
      | error e => rfl
      | ok first =>
        cases follow symbol enter ys with
        | error e => rfl
        | ok rest => simp [bind, Except.bind, pure, Except.pure]

mutual

theorem walkExpr_eq : ∀ e : PyExpr, walkExpr symbol enter e = follow symbol enter (exprEvents e)
  | .node children => by rw [walkExpr, exprEvents, walkExprs_eq]
  | .lambda children => by rw [walkExpr, exprEvents, walkExprs_eq]
  | .call id callee children => by
    rw [walkExpr, exprEvents, follow_append, walkExprs_eq children]
    cases follow symbol enter (exprsEvents children) with
    | error e => rfl
    | ok before =>
      cases h : enter callee <;> simp [follow, h, bind, Except.bind, pure, Except.pure]

theorem walkExprs_eq : ∀ es : List PyExpr,
    walkExprs symbol enter es = follow symbol enter (exprsEvents es)
  | [] => rfl
  | e :: es => by rw [walkExprs, exprsEvents, follow_append, walkExpr_eq e, walkExprs_eq es]

end

mutual

/-- A walk follows its path. -/
theorem walkBlock_eq : ∀ b : List PyStmt,
    walkBlock symbol enter b = follow symbol enter (blockEvents b)
  | [] => rfl
  | s :: rest => by
    rw [walkBlock, blockEvents, walkStmt_eq s]
    cases hleaves : s.leaves with
    | true =>
      simp only [if_true, List.append_nil]
      cases follow symbol enter (stmtEvents s) <;> rfl
    | false =>
      simp only [Bool.false_eq_true, if_false]
      rw [follow_append, walkBlock_eq rest]

theorem walkStmt_eq : ∀ s : PyStmt, walkStmt symbol enter s = follow symbol enter (stmtEvents s)
  | .mk kind parts => by
    rw [walkStmt, stmtEvents, walkParts_eq kind parts]
    unfold raiseIf
    split_ifs <;> rfl

theorem walkParts_eq : ∀ (kind : PyStmtKind) (parts : List PyPart),
    walkParts symbol enter kind parts = follow symbol enter (partsEvents kind parts)
  | _, [] => rfl
  | kind, p :: ps => by
    rw [walkParts, partsEvents, follow_append, walkPart_eq kind p, walkParts_eq kind ps]

theorem walkPart_eq : ∀ (kind : PyStmtKind) (p : PyPart),
    walkPart symbol enter kind p = follow symbol enter (partEvents kind p)
  | kind, .expressions field es => by
    rw [walkPart, partEvents]
    split_ifs
    · exact walkExprs_eq es
    · rfl
  | kind, .block field stmts => by
    rw [walkPart, partEvents]
    split_ifs
    · exact walkBlock_eq stmts
    · rfl

end

end

/-! ## What a walk visits -/

/-- The call of an event. -/
def Event.id? : Event → Option ℕ
  | .visit id _ => some id
  | .crash => none

/-- The calls on a path. -/
def eventIds (events : List Event) : List ℕ :=
  events.filterMap Event.id?

@[simp] theorem eventIds_nil : eventIds [] = [] :=
  rfl

theorem eventIds_append (xs ys : List Event) : eventIds (xs ++ ys) = eventIds xs ++ eventIds ys :=
  List.filterMap_append

section

variable {symbol : String} {enter : Option String → Except TracerError (List Visit)}
  {functions : String → Option PyFunction} {active : List String} {f : PyFunction}
  {visits : List Visit} {v : Visit} {depth : ℕ}

end

/-! ## Coverage -/

/-- No call of a list stands before every return and raise of its own block. -/
def Quiet (calls : List (ℕ × Bool)) : Prop :=
  ∀ id, (id, false) ∉ calls

mutual

/-- Where the walk does not come to, no call stands that the collector finds and that does not
follow a return or a raise in its own block. -/
def CoveredBlock : List PyStmt → Prop
  | [] => True
  | s :: rest =>
    CoveredStmt s ∧ if s.leaves then Quiet (collectBlock true rest) else CoveredBlock rest

def CoveredStmt : PyStmt → Prop
  | .mk kind parts => kind = .definition ∨ CoveredParts kind parts

def CoveredParts : PyStmtKind → List PyPart → Prop
  | _, [] => True
  | kind, p :: ps => CoveredPart kind p ∧ CoveredParts kind ps

def CoveredPart : PyStmtKind → PyPart → Prop
  | kind, .expressions field es => reads kind field = true ∨ collectExprs es = []
  | kind, .block field stmts =>
    if reads kind field then CoveredBlock stmts else Quiet (collectBlock false stmts)

end

/-- The calls that do not follow a return or a raise are among those of a path. -/
def Read (calls : List (ℕ × Bool)) (ids : List ℕ) : Prop :=
  ∀ id, (id, false) ∈ calls → id ∈ ids

theorem read_nil {calls : List (ℕ × Bool)} : Read calls [] ↔ Quiet calls := by
  simp [Read, Quiet]

/-- Two parts of a tree are read each for itself. -/
theorem read_append {calls calls' : List (ℕ × Bool)} {ids ids' all all' : List ℕ}
    (hdistinct : (all ++ all').Nodup) (hcalls : ∀ c ∈ calls, c.1 ∈ all)
    (hcalls' : ∀ c ∈ calls', c.1 ∈ all') (hids : ids ⊆ all) (hids' : ids' ⊆ all') :
    Read (calls ++ calls') (ids ++ ids') ↔ Read calls ids ∧ Read calls' ids' := by
  have hdisjoint := List.disjoint_of_nodup_append hdistinct
  constructor
  · refine fun h => ⟨fun id hid => ?_, fun id hid => ?_⟩
    · refine (List.mem_append.1 (h id (List.mem_append_left _ hid))).resolve_right fun hmem => ?_
      exact hdisjoint (hcalls _ hid) (hids' hmem)
    · refine (List.mem_append.1 (h id (List.mem_append_right _ hid))).resolve_left fun hmem => ?_
      exact hdisjoint (hids hmem) (hcalls' _ hid)
  · rintro ⟨h, h'⟩ id hid
    rcases List.mem_append.1 hid with hid | hid
    · exact List.mem_append_left _ (h id hid)
    · exact List.mem_append_right _ (h' id hid)

/-! ### What is found and what is visited stands in the tree -/

theorem subset_append {xs xs' ys ys' : List ℕ} (h : xs ⊆ xs') (h' : ys ⊆ ys') :
    xs ++ ys ⊆ xs' ++ ys' :=
  List.append_subset.2 ⟨List.subset_append_of_subset_left _ h,
    List.subset_append_of_subset_right _ h'⟩

mutual

theorem collectExpr_subset : ∀ e : PyExpr, collectExpr e ⊆ eventIds (exprEvents e)
  | .node children => collectExprs_subset children
  | .lambda _ => List.nil_subset _
  | .call id callee children => by
    rw [collectExpr, exprEvents, eventIds_append]
    refine List.cons_subset.2 ⟨List.mem_append_right _ (List.mem_singleton_self id), ?_⟩
    exact List.Subset.trans (collectExprs_subset children) (List.subset_append_left _ _)

/-- The walk of an expression visits every call that the collector finds in it. -/
theorem collectExprs_subset : ∀ es : List PyExpr, collectExprs es ⊆ eventIds (exprsEvents es)
  | [] => List.Subset.refl _
  | e :: es => by
    rw [collectExprs, exprsEvents, eventIds_append]
    exact subset_append (collectExpr_subset e) (collectExprs_subset es)

end

mutual

theorem exprEvents_subset : ∀ e : PyExpr, eventIds (exprEvents e) ⊆ exprIds e
  | .node children => exprsEvents_subset children
  | .lambda children => exprsEvents_subset children
  | .call id callee children => by
    rw [exprEvents, exprIds, eventIds_append]
    refine List.append_subset.2 ⟨?_, ?_⟩
    · exact List.Subset.trans (exprsEvents_subset children) (List.subset_cons_self _ _)
    · exact List.cons_subset.2 ⟨List.mem_cons_self .., List.nil_subset _⟩

theorem exprsEvents_subset : ∀ es : List PyExpr, eventIds (exprsEvents es) ⊆ exprsIds es
  | [] => List.Subset.refl _
  | e :: es => by
    rw [exprsEvents, exprsIds, eventIds_append]
    exact subset_append (exprEvents_subset e) (exprsEvents_subset es)

end

mutual

theorem blockEvents_subset : ∀ b : List PyStmt, eventIds (blockEvents b) ⊆ blockIds b
  | [] => List.Subset.refl _
  | s :: rest => by
    rw [blockEvents, blockIds, eventIds_append]
    refine subset_append (stmtEvents_subset s) ?_
    split_ifs
    · exact List.nil_subset _
    · exact blockEvents_subset rest

theorem stmtEvents_subset : ∀ s : PyStmt, eventIds (stmtEvents s) ⊆ stmtIds s
  | .mk kind parts => by
    rw [stmtEvents, stmtIds, eventIds_append]
    refine List.append_subset.2 ⟨?_, partsEvents_subset kind parts⟩
    split_ifs <;> exact List.nil_subset _

theorem partsEvents_subset : ∀ (kind : PyStmtKind) (parts : List PyPart),
    eventIds (partsEvents kind parts) ⊆ partsIds parts
  | _, [] => List.Subset.refl _
  | kind, p :: ps => by
    rw [partsEvents, partsIds, eventIds_append]
    exact subset_append (partEvents_subset kind p) (partsEvents_subset kind ps)

theorem partEvents_subset : ∀ (kind : PyStmtKind) (p : PyPart),
    eventIds (partEvents kind p) ⊆ partIds p
  | kind, .expressions field es => by
    rw [partEvents, partIds]
    split_ifs
    · exact exprsEvents_subset es
    · exact List.nil_subset _
  | kind, .block field stmts => by
    rw [partEvents, partIds]
    split_ifs
    · exact blockEvents_subset stmts
    · exact List.nil_subset _

end

mutual

theorem collectBlock_mem : ∀ (followed : Bool) (b : List PyStmt),
    ∀ c ∈ collectBlock followed b, c.1 ∈ blockIds b
  | _, [] => fun _ hc => by cases hc
  | followed, s :: rest => fun c hc => by
    rw [blockIds]
    rw [collectBlock] at hc
    rcases List.mem_append.1 hc with hc | hc
    · exact List.mem_append_left _ (collectStmt_mem followed s c hc)
    · exact List.mem_append_right _ (collectBlock_mem _ rest c hc)

theorem collectStmt_mem : ∀ (followed : Bool) (s : PyStmt),
    ∀ c ∈ collectStmt followed s, c.1 ∈ stmtIds s
  | followed, .mk kind parts => fun c hc => by
    rw [collectStmt] at hc
    split_ifs at hc
    · cases hc
    · exact collectParts_mem followed parts c hc

theorem collectParts_mem : ∀ (followed : Bool) (parts : List PyPart),
    ∀ c ∈ collectParts followed parts, c.1 ∈ partsIds parts
  | _, [] => fun _ hc => by cases hc
  | followed, p :: ps => fun c hc => by
    rw [partsIds]
    rw [collectParts] at hc
    rcases List.mem_append.1 hc with hc | hc
    · exact List.mem_append_left _ (collectPart_mem followed p c hc)
    · exact List.mem_append_right _ (collectParts_mem followed ps c hc)

theorem collectPart_mem : ∀ (followed : Bool) (p : PyPart),
    ∀ c ∈ collectPart followed p, c.1 ∈ partIds p
  | followed, .expressions field es => fun c hc => by
    obtain ⟨id, hid, rfl⟩ := List.mem_map.1 hc
    exact exprsEvents_subset es (collectExprs_subset es hid)
  | followed, .block field stmts => fun c hc => collectBlock_mem false stmts c hc

end

/-! ### Coverage is what the walk needs -/

mutual

/-- The walk reads the calls of a block exactly where the block is covered. -/
theorem read_block_iff : ∀ b : List PyStmt, (blockIds b).Nodup →
    (Read (collectBlock false b) (eventIds (blockEvents b)) ↔ CoveredBlock b)
  | [], _ => by simp [Read, collectBlock, CoveredBlock]
  | s :: rest, hdistinct => by
    rw [blockIds] at hdistinct
    have hrest := (List.nodup_append.1 hdistinct).2.1
    rw [collectBlock, blockEvents, eventIds_append, CoveredBlock, Bool.false_or]
    cases hleaves : s.leaves with
    | true =>
      simp only [if_true, eventIds_nil]
      rw [read_append hdistinct (collectStmt_mem false s) (collectBlock_mem true rest)
        (stmtEvents_subset s) (List.nil_subset _),
        read_stmt_iff s (List.nodup_append.1 hdistinct).1]
      exact and_congr_right fun _ => read_nil
    | false =>
      simp only [Bool.false_eq_true, if_false]
      rw [read_append hdistinct (collectStmt_mem false s) (collectBlock_mem false rest)
        (stmtEvents_subset s) (blockEvents_subset rest),
        read_stmt_iff s (List.nodup_append.1 hdistinct).1, read_block_iff rest hrest]

theorem read_stmt_iff : ∀ s : PyStmt, (stmtIds s).Nodup →
    (Read (collectStmt false s) (eventIds (stmtEvents s)) ↔ CoveredStmt s)
  | .mk kind parts, hdistinct => by
    have hparts := read_parts_iff kind parts hdistinct
    have hevents : eventIds (stmtEvents (.mk kind parts)) = eventIds (partsEvents kind parts) := by
      rw [stmtEvents, eventIds_append]
      split_ifs <;> rfl
    rw [collectStmt, CoveredStmt, hevents]
    by_cases hkind : kind = .definition
    · simp [hkind, Read]
    · simp [hkind, hparts]

theorem read_parts_iff : ∀ (kind : PyStmtKind) (parts : List PyPart), (partsIds parts).Nodup →
    (Read (collectParts false parts) (eventIds (partsEvents kind parts)) ↔
      CoveredParts kind parts)
  | _, [], _ => by simp [Read, collectParts, CoveredParts]
  | kind, p :: ps, hdistinct => by
    rw [partsIds] at hdistinct
    rw [collectParts, partsEvents, eventIds_append, CoveredParts,
      read_append hdistinct (collectPart_mem false p) (collectParts_mem false ps)
        (partEvents_subset kind p) (partsEvents_subset kind ps),
      read_part_iff kind p (List.nodup_append.1 hdistinct).1,
      read_parts_iff kind ps (List.nodup_append.1 hdistinct).2.1]

theorem read_part_iff : ∀ (kind : PyStmtKind) (p : PyPart), (partIds p).Nodup →
    (Read (collectPart false p) (eventIds (partEvents kind p)) ↔ CoveredPart kind p)
  | kind, .expressions field es, _ => by
    rw [collectPart, partEvents, CoveredPart]
    cases hreads : reads kind field with
    | true =>
      simp only [if_true, true_or, iff_true]
      intro id hid
      obtain ⟨id', hid', heq⟩ := List.mem_map.1 hid
      rw [Prod.mk.injEq] at heq
      rw [← heq.1]
      exact collectExprs_subset es hid'
    | false =>
      simp only [Bool.false_eq_true, if_false, false_or]
      rw [eventIds_nil, read_nil]
      simp [Quiet, List.eq_nil_iff_forall_not_mem]
  | kind, .block field stmts, hdistinct => by
    rw [collectPart, partEvents, CoveredPart]
    cases hreads : reads kind field with
    | true => simpa using read_block_iff stmts hdistinct
    | false =>
      simp only [Bool.false_eq_true, if_false, eventIds_nil]
      exact read_nil

end

end PythonTracer

end VulnLoom

import VulnLoom.CandidateGenerator
import VulnLoom.FuelledRun
import Mathlib.Data.Finset.Sort

/-!
# The flow tracer

`_FlowTracer` follows the inputs of each route through the function that handles it and the
functions that this one calls. What a name carries is the set of inputs it may come from. A call
and a statement take one of the fuel; the call chains that are walked are kept beside the flows.
The clock answers each check of the deadline as it likes.
-/

namespace VulnLoom

namespace FlowTracer

open FuelledRun CandidateGenerator

/-! ## Modules -/

inductive CmpOp
  | eq
  | notEq
  | lt
  | ltE
  | gt
  | gtE
  | is
  | isNot
  | isIn
  | notIn
  deriving DecidableEq

/-- An expression, as far as the tracer reads it. -/
inductive Expr
  | name (id : String)
  | attribute (value : Expr) (attr : String)
  /-- a keyword is its `arg` with its `value` -/
  | call (func : Expr) (args : List Expr) (keywords : List (Option String × Expr))
      (line column : ℕ)
  | constant
  /-- `Tuple` and `List` -/
  | display (elts : List Expr)
  /-- `UnaryOp` with `Not` -/
  | negation (operand : Expr)
  | compare (left : Expr) (ops : List CmpOp) (comparators : List Expr)
  /-- what has no case of its own -/
  | node (children : List Expr)

/-- A statement with its line. What the tracer does not read of it is left out. -/
inductive Stmt
  | assign (line : ℕ) (targets : List Expr) (value : Expr)
  | annAssign (line : ℕ) (target : Expr) (value : Option Expr)
  | augAssign (line : ℕ) (target value : Expr)
  | ifStmt (line : ℕ) (test : Expr) (body orelse : List Stmt)
  /-- `For` and `AsyncFor` -/
  | forStmt (line : ℕ) (target iter : Expr) (body : List Stmt)
  | whileStmt (line : ℕ) (test : Expr) (body : List Stmt)
  | tryStmt (line : ℕ) (body : List Stmt) (handlers : List (List Stmt)) (finalbody : List Stmt)
  /-- `With` and `AsyncWith`, with the `context_expr` of each item -/
  | withStmt (line : ℕ) (contexts : List Expr) (body : List Stmt)
  | expr (line : ℕ) (value : Expr)
  | returnStmt (line : ℕ) (value : Option Expr)
  | raiseStmt (line : ℕ) (exc : Option Expr)
  | assertStmt (line : ℕ) (test : Expr)
  | other (line : ℕ)

namespace Stmt

def line : Stmt → ℕ
  | assign line _ _ | annAssign line _ _ | augAssign line _ _ | ifStmt line _ _ _
  | forStmt line _ _ _ | whileStmt line _ _ | tryStmt line _ _ _ | withStmt line _ _ | expr line _
  | returnStmt line _ | raiseStmt line _ | assertStmt line _ | other line => line

/-- `isinstance(statement, (ast.Return, ast.Raise))`. -/
def leaves : Stmt → Bool
  | returnStmt _ _ | raiseStmt _ _ => true
  | _ => false

def isIf : Stmt → Bool
  | ifStmt _ _ _ _ => true
  | _ => false

end Stmt

/-- `ast.iter_child_nodes`, without the operators and contexts, where there is nothing to walk. -/
def Expr.children : Expr → List Expr
  | .name _ | .constant => []
  | .attribute value _ => [value]
  | .call func args keywords _ _ => func :: args ++ keywords.map fun keyword => .node [keyword.2]
  | .display es | .node es => es
  | .negation operand => [operand]
  | .compare left _ comparators => left :: comparators

/-- `_ModuleInfo`, as far as the tracer reads it. -/
structure ModuleInfo where
  name : String
  imports : List (String × String)

/-- `_FunctionInfo`. -/
structure FunctionInfo where
  symbol : String
  module : ModuleInfo
  body : List Stmt
  className : Option String
  parameters : List String

structure GuardNode where
  guardId : Digest
  functionSymbol : String
  line : ℕ

/-- `RouteNode`, as far as the tracer reads it. -/
structure TracedRoute where
  routeId : Digest
  handlerSymbol : String
  inputNames : List String

/-- `_StaticIndex`. -/
structure StaticIndex where
  functions : List FunctionInfo
  routes : List TracedRoute
  guards : List GuardNode
  sinkBySite : List ((String × ℕ × ℕ) × SinkNode)
  guardIdsByFunction : List (String × List Digest)

structure SourceMapperLimits where
  maxCallDepth : ℕ
  positive : 0 < maxCallDepth
  bounded : maxCallDepth ≤ 100

/-! ## Names -/

/-- `_dotted`. -/
def dotted : Expr → String
  | .name id => id
  | .attribute value attr => if dotted value = "" then attr else dotted value ++ "." ++ attr
  | .call func _ _ _ _ => dotted func
  | _ => ""

/-- `_normalize_name`. -/
def normalizeName (name : String) (imports : List (String × String)) : String :=
  if name = "" then ""
  else
    let first := name.toList.takeWhile (· ≠ '.')
    match imports.lookup (String.ofList first) with
    | none | some "" => name
    | some replacement =>
      let rest := name.toList.drop (first.length + 1)
      if rest = [] then replacement else replacement ++ "." ++ String.ofList rest

mutual

/-- `_assigned_names`. -/
def assignedNames : Expr → List String
  | .name id => [id]
  | .display elts => allAssignedNames elts
  | _ => []

def allAssignedNames : List Expr → List String
  | [] => []
  | e :: es => assignedNames e ++ allAssignedNames es

end

namespace StaticIndex

variable (index : StaticIndex)

def function? (symbol : String) : Option FunctionInfo :=
  index.functions.find? fun f => f.symbol = symbol

/-- `name.rsplit(".", 1)[-1]`. -/
def lastPart (name : String) : String :=
  String.ofList (name.toList.reverse.takeWhile (· ≠ '.')).reverse

/-- `unique_suffix.get`. -/
def uniqueSuffix (name : String) : Option String :=
  match index.functions.filter fun f => lastPart f.symbol = name with
  | [f] => some f.symbol
  | _ => none

/-- `_SymbolResolver.resolve`, with the function it finds. -/
def resolve (caller : FunctionInfo) (name : String) : Option FunctionInfo :=
  if name = "" then none
  else
    (((caller.className.filter fun c => c ≠ "" ∧ "self.".toList <+: name.toList).bind fun c =>
      index.function? (caller.module.name ++ "." ++ c ++ "." ++
        String.ofList (name.toList.drop 5))).or
    (if '.' ∈ name.toList then none else index.function? (caller.module.name ++ "." ++ name))).or
    ((index.function? name).or ((index.uniqueSuffix (lastPart name)).bind index.function?))

/-- `guard_ids_by_function.get(symbol, ())`. -/
def guardIdsOf (symbol : String) : Finset Digest :=
  ((index.guardIdsByFunction.lookup symbol).getD []).toFinset

/-- `_guard_ids_at_line`. -/
def guardIdsAtLine (symbol : String) (line : ℕ) : Finset Digest :=
  ((index.guards.filter fun g => g.functionSymbol = symbol ∧ g.line = line).map
    GuardNode.guardId).toFinset

end StaticIndex

/-! ## Environments -/

/-- `dict[str, frozenset[str]]`. -/
abbrev Environment := List (String × Finset String)

namespace Environment

/-- `environment.get(name, frozenset())`. -/
def get (environment : Environment) (name : String) : Finset String :=
  (environment.lookup name).getD ∅

/-- Each of the names is set. -/
def assign (environment : Environment) (names : List String) (dependencies : Finset String) :
    Environment :=
  names.foldl (fun environment name => Table.upsert Prod.fst (name, dependencies) environment)
    environment

end Environment

/-- `_merge_environments`. -/
def mergeEnvironments (left right : Environment) : Environment :=
  ((left ++ right).map Prod.fst).dedup.map fun key => (key, left.get key ∪ right.get key)

/-- `_merge_many`. -/
def mergeMany (values : List Environment) : Environment :=
  values.foldl mergeEnvironments []

section

variable [PythonUnicode] (environment : Environment)

mutual

/-- `_expr_dependencies`. -/
def exprDependencies : Expr → Finset String
  | .name id => if id = "request" then {"request"} else environment.get id
  | .attribute value attr =>
    let name := PythonUnicode.casefold (dotted (.attribute value attr))
    if "request.".toList <+: name.toList then {name} else exprDependencies value
  | .call func args keywords _ _ =>
    let name := PythonUnicode.casefold (dotted func)
    let dependencies := allDependencies args ∪ keywordDependencies keywords
    if "request.".toList <+: name.toList then dependencies ∪ {name} else dependencies
  | .constant => ∅
  | .display es | .node es => allDependencies es
  | .negation operand => exprDependencies operand
  | .compare left _ comparators => exprDependencies left ∪ allDependencies comparators

def allDependencies : List Expr → Finset String
  | [] => ∅
  | e :: es => exprDependencies e ∪ allDependencies es

def keywordDependencies : List (Option String × Expr) → Finset String
  | [] => ∅
  | (_, value) :: keywords => exprDependencies value ∪ keywordDependencies keywords

end

/-- What the parameters of a function carry in a call of it. -/
def FunctionInfo.arguments (callee : FunctionInfo) (args : List Expr)
    (keywords : List (Option String × Expr)) : Environment :=
  let positional := (callee.parameters.zip args).foldl
    (fun child p => Environment.assign child [p.1] (exprDependencies environment p.2)) []
  keywords.foldl (fun child keyword =>
    Environment.assign child (keyword.1.toList.filter (· ∈ callee.parameters))
      (exprDependencies environment keyword.2)) positional

end

/-! ## Flows -/

/-- `DataFlowPath` with its guards. -/
structure TracedFlow extends DataFlowPath where
  guardIds : List Digest
  confidence : ℚ

/-- What the identity of a flow is the digest of. -/
structure FlowIdentity where
  route : Digest
  sources : List String
  chain : List String
  sink : Digest
  guards : List Digest

inductive TracerError
  | sourceMapping (message : String)
  /-- the value of an annotated assignment that has none is walked -/
  | attributeError
  deriving DecidableEq

structure TracerState where
  /-- how often the deadline was checked -/
  checks : ℕ
  /-- keyed by `flow_id` -/
  flows : List TracedFlow
  /-- the call chains whose last function was walked -/
  explored : List (List String)

abbrev Tracer (α : Type) := FuelledRun.Run TracerError TracerState α

/-- The arguments that stay as they are along the body of a function. -/
structure Frame where
  route : TracedRoute
  info : FunctionInfo
  chain : List String
  active : Finset String

/-- `_denial_branch_guards_following_code`. -/
def denialBranchGuardsFollowingCode (test : Expr) (body orelse : List Stmt) : Bool :=
  orelse.isEmpty && (body.getLast?.any Stmt.leaves) &&
    match test with
    | .negation _ => true
    | .compare _ ops _ => ops.any fun op => op = .notEq ∨ op = .isNot ∨ op = .notIn
    | _ => false

section Tracer

variable [CanonicalDigest FlowIdentity]

/-- A flow is stored under the digest of what it says. -/
def TracerState.withFlow (s : TracerState) (identity : FlowIdentity) (confidence : ℚ) :
    TracerState :=
  let flow : TracedFlow :=
    ⟨⟨canonicalDigest identity, identity.route, identity.sources, identity.chain, identity.sink⟩,
      identity.guards, confidence⟩
  { s with flows := Table.upsert (fun flow => flow.flowId) flow s.flows }

/-- `_add_guards_to_existing_flows`. -/
def TracerState.addGuards (s : TracerState) (chain : List String) (guardIds : Finset Digest) :
    TracerState :=
  s.flows.foldl (fun s flow =>
    if chain <+: flow.callChain then
      let s := { s with flows := s.flows.filter fun other => other.flowId ≠ flow.flowId }
      s.withFlow ⟨flow.routeId, flow.sourceNames, flow.callChain, flow.sinkId,
          (flow.guardIds.toFinset ∪ guardIds).sort (· ≤ ·)⟩
        flow.confidence
    else s) s

variable [PythonUnicode] (index : StaticIndex) (limits : SourceMapperLimits) (expired : ℕ → Bool)

/-- `deadline.check`. -/
def check : Tracer Unit := do
  let s ← get
  set { s with checks := s.checks + 1 }
  if expired s.checks then throw (.sourceMapping "source mapping timed out")

/-- The flow of a call that is a sink. -/
def recordFlow (frame : Frame) (guards : Finset Digest) (dependencies : Finset String)
    (sink : SinkNode) : Tracer Unit :=
  modify fun s => s.withFlow
    ⟨frame.route.routeId, dependencies.sort (· ≤ ·), frame.chain, sink.sinkId,
      guards.sort (· ≤ ·)⟩
    (if frame.chain.length = 1 then 84 / 100 else 78 / 100)

mutual

/-- `_function`. -/
def function : ℕ → Frame → Environment → Finset Digest → Tracer Unit
  | 0, _, _, _ => stuck
  | fuel + 1, frame, environment, inheritedGuards => do
    check expired
    if limits.maxCallDepth < frame.chain.length ∨ frame.info.symbol ∈ frame.active then return
    modify fun s => { s with explored := s.explored ++ [frame.chain] }
    let _ ← block fuel { frame with active := insert frame.info.symbol frame.active }
      frame.info.body environment (inheritedGuards ∪ index.guardIdsOf frame.info.symbol) true

/-- `_block`; the last argument is `dominant_sequence`. -/
def block : ℕ → Frame → List Stmt → Environment → Finset Digest → Bool → Tracer Environment
  | 0, _, _, _, _, _ => stuck
  | _ + 1, _, [], environment, _, _ => return environment
  | fuel + 1, frame, s :: rest, environment, guards, dominant => do
    check expired
    let (environment, guards) ← statement fuel frame s environment guards dominant
    if s.leaves then return environment
    block fuel frame rest environment
      (if s.isIf then guards
        else guards ∪ index.guardIdsAtLine frame.info.symbol (max 1 s.line)) dominant

/-- The branches of `_block`. -/
def statement : ℕ → Frame → Stmt → Environment → Finset Digest → Bool →
    Tracer (Environment × Finset Digest)
  | 0, _, _, _, _, _ => stuck
  | fuel + 1, frame, s, environment, guards, dominant =>
    match s with
    | .assign _ targets value => do
      expression fuel frame value environment guards
      return (environment.assign (targets.flatMap assignedNames)
        (exprDependencies environment value), guards)
    | .annAssign _ _ none => throw .attributeError
    | .annAssign _ target (some value) => do
      expression fuel frame value environment guards
      return (environment.assign (assignedNames target) (exprDependencies environment value),
        guards)
    | .augAssign _ target value => do
      let environment := environment.assign (assignedNames target)
        (environment.get (dotted target) ∪ exprDependencies environment value)
      expression fuel frame value environment guards
      return (environment, guards)
    | .ifStmt line test body orelse => do
      expression fuel frame test environment guards
      let branchGuards := guards ∪ index.guardIdsAtLine frame.info.symbol line
      let left ← block fuel frame body environment branchGuards false
      let right ← block fuel frame orelse environment guards false
      if dominant ∧ denialBranchGuardsFollowingCode test body orelse then do
        modify fun s => s.addGuards frame.chain branchGuards
        return (mergeEnvironments left right, guards ∪ branchGuards)
      return (mergeEnvironments left right, guards)
    | .forStmt _ target iter body => do
      expression fuel frame iter environment guards
      let loopEnvironment ← block fuel frame body
        (environment.assign (assignedNames target) (exprDependencies environment iter)) guards false
      return (mergeEnvironments environment loopEnvironment, guards)
    | .whileStmt _ test body => do
      expression fuel frame test environment guards
      let loopEnvironment ← block fuel frame body environment guards false
      return (mergeEnvironments environment loopEnvironment, guards)
    | .tryStmt _ body handlers finalbody => do
      let first ← block fuel frame body environment guards false
      let others ← handlers.mapM fun handler => block fuel frame handler environment guards false
      let environment ← block fuel frame finalbody (mergeMany (first :: others)) guards false
      return (environment, guards)
    | .withStmt _ contexts body => do
      contexts.forM fun e => expression fuel frame e environment guards
      let environment ← block fuel frame body environment guards false
      return (environment, guards)
    | .expr _ e | .assertStmt _ e | .returnStmt _ (some e) | .raiseStmt _ (some e) => do
      expression fuel frame e environment guards
      return (environment, guards)
    | .returnStmt _ none | .raiseStmt _ none | .other _ => return (environment, guards)

/-- `_expression`. -/
def expression : ℕ → Frame → Expr → Environment → Finset Digest → Tracer Unit
  | 0, _, _, _, _ => stuck
  | fuel + 1, frame, e, environment, guards => do
    e.children.forM fun child => expression fuel frame child environment guards
    if let .call func args keywords line column := e then
      let dependencies :=
        allDependencies environment args ∪ keywordDependencies environment keywords
      let sink := index.sinkBySite.lookup (frame.info.symbol, line, column)
      sink.forM fun sink =>
        if dependencies = ∅ then pure () else recordFlow frame guards dependencies sink
      let callee := index.resolve frame.info (normalizeName (dotted func) frame.info.module.imports)
      callee.forM fun callee =>
        function fuel { frame with info := callee, chain := frame.chain ++ [callee.symbol] }
          (callee.arguments environment args keywords) guards

end

/-- The walk of a route. -/
def traceRoute (fuel : ℕ) (route : TracedRoute) : Tracer Unit :=
  (index.function? route.handlerSymbol).forM fun info =>
    function index limits expired fuel ⟨route, info, [info.symbol], ∅⟩
      (route.inputNames.map fun name => (name, {name})) ∅

/-- `trace`, from a tracer without flows. -/
def trace (fuel : ℕ) : Option (Except TracerError (List TracedFlow) × TracerState) :=
  Run.from (do
    index.routes.forM (traceRoute index limits expired fuel)
    let s ← get
    return Table.orderBy (fun flow : TracedFlow => flow.flowId) s.flows) ⟨0, [], []⟩

end Tracer

end FlowTracer

end VulnLoom

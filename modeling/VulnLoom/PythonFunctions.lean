import VulnLoom.IngestionModels

/-!
# Functions of a mapped module

A signature is the list of its parameters, each with its default. The `ast` module keeps the
defaults apart : those of the positional parameters in one list, which is aligned with the last of
them, and one entry for each keyword-only parameter. `_function_info` aligns the first list with
`args.args` alone, without the positional-only parameters (`maps_defaults_iff`).
-/

set_option linter.unusedSectionVars false

namespace VulnLoom

namespace PythonFunctions

/-! ## Syntax -/

/-- An expression, as far as names are read off it. -/
inductive PyTerm
  | name (id : String)
  | attribute (value : PyTerm) (attr : String)
  | call (func : PyTerm) (args : List PyTerm)
  | other

structure PyParameter where
  name : String
  default : Option PyTerm

/-- A signature as it is written. No positional parameter without a default follows one that has
one, and no name is given twice. -/
structure PySignature where
  positionalOnly : List PyParameter
  positional : List PyParameter
  vararg : Option String
  keywordOnly : List PyParameter
  kwarg : Option String
  placed : (positionalOnly ++ positional).Pairwise fun p q => p.default.isSome → q.default.isSome
  names : ((positionalOnly ++ positional).map PyParameter.name ++ vararg.toList ++
    keywordOnly.map PyParameter.name ++ kwarg.toList).Nodup

/-- `ast.arguments`. -/
structure PyArguments where
  posonlyargs : List String
  args : List String
  vararg : Option String
  kwonlyargs : List String
  kwDefaults : List (Option PyTerm)
  kwarg : Option String
  defaults : List PyTerm

/-- What `ast.parse` keeps of a signature. -/
def PySignature.arguments (signature : PySignature) : PyArguments where
  posonlyargs := signature.positionalOnly.map PyParameter.name
  args := signature.positional.map PyParameter.name
  vararg := signature.vararg
  kwonlyargs := signature.keywordOnly.map PyParameter.name
  kwDefaults := signature.keywordOnly.map PyParameter.default
  kwarg := signature.kwarg
  defaults := (signature.positionalOnly ++ signature.positional).filterMap PyParameter.default

/-- `ast.FunctionDef` and `ast.AsyncFunctionDef`. -/
structure PyFunctionDef where
  name : String
  signature : PySignature
  decorators : List PyTerm

/-- A statement of a module, as far as functions are read off it. -/
inductive PyDefinition
  | function (node : PyFunctionDef)
  | classDef (name : String) (methods : List PyFunctionDef)
  | other

/-- `_ModuleInfo`. -/
structure PyModule where
  name : String
  body : List PyDefinition
  imports : List (String × String)

/-! ## Names -/

/-- `_dotted`. -/
def dotted : PyTerm → String
  | .name id => id
  | .attribute value attr =>
    let before := dotted value
    if before ≠ "" then before ++ "." ++ attr else attr
  | .call func _ => dotted func
  | .other => ""

/-- `_normalize_name`. -/
def normalizeName (name : String) (imports : List (String × String)) : String :=
  if name = "" then "" else
    let first := name.toList.takeWhile (· ≠ '.')
    let rest := (name.toList.drop (first.length + 1))
    match imports.lookup (String.ofList first) with
    | some replacement =>
      if replacement ≠ "" then
        replacement ++ (if rest ≠ [] then "." ++ String.ofList rest else "")
      else name
    | none => name

/-- `_decorator_target`. -/
def decoratorTarget : PyTerm → PyTerm
  | .call func _ => func
  | term => term

/-- `name.rsplit(".", 1)[-1]`. -/
def lastName (name : String) : String :=
  String.ofList (name.toList.reverse.takeWhile (· ≠ '.')).reverse

/-! ## Summaries -/

inductive FunctionError
  | valueError
  deriving DecidableEq

/-- `zip(…, strict=True)`. -/
def zipStrict {α β : Type} (as : List α) (bs : List β) : Except FunctionError (List (α × β)) :=
  if as.length = bs.length then .ok (as.zip bs) else .error .valueError

/-- `[None] * (len(args.args) - len(args.defaults)) + list(args.defaults)`. -/
def paddedDefaults (arguments : PyArguments) : List (Option PyTerm) :=
  List.replicate (arguments.args.length - arguments.defaults.length) none ++
    arguments.defaults.map some

/-- `default_by_name`. -/
def defaultByName (arguments : PyArguments) :
    Except FunctionError (List (String × Option PyTerm)) := do
  let positional ← zipStrict arguments.args (paddedDefaults arguments)
  let keywordOnly ← zipStrict arguments.kwonlyargs arguments.kwDefaults
  return positional ++ keywordOnly

/-- `_FunctionInfo`. -/
structure FunctionInfo where
  symbol : String
  className : Option String
  parameters : List String
  dependencyParameters : List String
  dependencyNames : List String
  decorators : List String

/-- The parameters that are kept : a receiver is none of them. -/
def keptParameters (arguments : PyArguments) : List String :=
  (arguments.posonlyargs ++ arguments.args ++ arguments.kwonlyargs).filter (· ∉ ["self", "cls"])

section

variable [PythonUnicode]

/-- What a default depends on, where it is `Depends(dependency)`. -/
def dependencyOf (module : PyModule) : PyTerm → Option String
  | .call func (dependency :: _) =>
    if casefold (lastName (dotted func)) = "depends" then
      let name := normalizeName (dotted dependency) module.imports
      some (if '.' ∈ name.toList then name else module.name ++ "." ++ name)
    else none
  | _ => none

/-- The loop over `default_by_name`. -/
def dependencies (module : PyModule) (parameters : List String)
    (defaults : List (String × Option PyTerm)) : List (String × String) :=
  defaults.filterMap fun entry =>
    if entry.1 ∈ parameters then (entry.2.bind (dependencyOf module)).map (entry.1, ·) else none

/-- `_function_info`. -/
def functionInfo (module : PyModule) (node : PyFunctionDef) (className : Option String) :
    Except FunctionError FunctionInfo := do
  let arguments := node.signature.arguments
  let parameters := keptParameters arguments
  let defaults ← defaultByName arguments
  let depends := dependencies module parameters defaults
  return {
    symbol := ".".intercalate
      ((module.name :: className.toList ++ [node.name]).filter (· ≠ ""))
    className
    parameters
    dependencyParameters := depends.map Prod.fst
    dependencyNames := depends.map Prod.snd
    decorators := node.decorators.map fun item =>
      normalizeName (dotted (decoratorTarget item)) module.imports }

/-- The functions of a module and the methods of its classes, with the names of these. -/
def PyModule.definitions (module : PyModule) : List (PyFunctionDef × Option String) :=
  module.body.flatMap fun
    | .function node => [(node, none)]
    | .classDef name methods => methods.map (·, some name)
    | .other => []

/-- `_module_functions`. -/
def moduleFunctions (module : PyModule) : Except FunctionError (List FunctionInfo) :=
  module.definitions.mapM fun entry => functionInfo module entry.1 entry.2

/-- The functions of `_build_index`, before they are put under their symbols. -/
def indexedFunctions (modules : List PyModule) : Except FunctionError (List FunctionInfo) := do
  let functions ← modules.mapM moduleFunctions
  return functions.flatten

/-! ## What is claimed -/

/-- The default of a parameter is the one written at it. -/
def PySignature.Binds (signature : PySignature) (name : String) (default : PyTerm) : Prop :=
  ∃ p ∈ signature.positionalOnly ++ signature.positional ++ signature.keywordOnly,
    p.name = name ∧ p.default = some default

/-- A summary is built, from the defaults that the parameters have. -/
structure AlignedSummary (module : PyModule) (node : PyFunctionDef) (className : Option String) :
    Prop where
  pairs : ∃ defaults, defaultByName node.signature.arguments = .ok defaults ∧
    ∀ name default, (name, some default) ∈ defaults ↔ node.signature.Binds name default
  summary : ∃ info, functionInfo module node className = .ok info ∧
    ∀ name dependency, (name, dependency) ∈ info.dependencyParameters.zip info.dependencyNames ↔
      name ∉ ["self", "cls"] ∧ ∃ default, node.signature.Binds name default ∧
        dependencyOf module default = some dependency

/-- The functions of a snapshot are indexed, each with the defaults of its parameters. -/
structure MapsDefaults (modules : List PyModule) : Prop where
  indexed : ∃ functions, indexedFunctions modules = .ok functions
  aligned : ∀ module ∈ modules, ∀ entry ∈ module.definitions,
    AlignedSummary module entry.1 entry.2

/-- No positional-only parameter has a default. -/
def PySignature.PlainPositionalOnly (signature : PySignature) : Prop :=
  ∀ p ∈ signature.positionalOnly, p.default = none

/-! ## Alignment -/

/-- Parameters that all have a default. -/
theorem filterMap_default_of_all : ∀ {ps : List PyParameter}, (∀ p ∈ ps, p.default.isSome) →
    (ps.filterMap PyParameter.default).map some = ps.map PyParameter.default
  | [], _ => rfl
  | p :: ps, h => by
    obtain ⟨default, hdefault⟩ := Option.isSome_iff_exists.1 (h p List.mem_cons_self)
    have ih := filterMap_default_of_all fun q hq => h q (List.mem_cons_of_mem p hq)
    rw [List.filterMap_cons_some hdefault, List.map_cons, List.map_cons, ih, hdefault]

/-- The defaults are those of the last parameters, and the others have none. -/
theorem padded_filterMap : ∀ {ps : List PyParameter},
    (ps.Pairwise fun p q => p.default.isSome → q.default.isSome) →
      List.replicate (ps.length - (ps.filterMap PyParameter.default).length) none ++
        (ps.filterMap PyParameter.default).map some = ps.map PyParameter.default
  | [], _ => rfl
  | p :: ps, h => by
    obtain ⟨hfirst, hrest⟩ := List.pairwise_cons.1 h
    cases hdefault : p.default with
    | none =>
      have ih := padded_filterMap hrest
      have hle : (ps.filterMap PyParameter.default).length ≤ ps.length :=
        List.length_filterMap_le _ _
      rw [List.filterMap_cons_none hdefault, List.length_cons, Nat.succ_sub hle,
        List.replicate_succ, List.cons_append, ih, List.map_cons, hdefault]
    | some default =>
      have hall : ∀ q ∈ p :: ps, q.default.isSome := by
        intro q hq
        rcases List.mem_cons.1 hq with rfl | hq
        · rw [hdefault]
          rfl
        · exact hfirst q hq (by rw [hdefault]; rfl)
      have hmap := filterMap_default_of_all hall
      have hlength := congrArg List.length hmap
      rw [List.length_map, List.length_map] at hlength
      rw [hlength, Nat.sub_self, List.replicate_zero, List.nil_append, hmap]

theorem zipStrict_eq_ok {α β : Type} {as : List α} {bs : List β} {pairs : List (α × β)} :
    zipStrict as bs = .ok pairs ↔ as.length = bs.length ∧ as.zip bs = pairs := by
  unfold zipStrict
  split_ifs with h
  · simp [h]
  · simp [h]

theorem zip_map_map {ps : List PyParameter} :
    (ps.map PyParameter.name).zip (ps.map PyParameter.default) =
      ps.map fun p => (p.name, p.default) :=
  List.zip_map'

variable {signature : PySignature}

/-- Without a default before them, the defaults are those of `args.args`. -/
theorem paddedDefaults_of_plain (h : signature.PlainPositionalOnly) :
    paddedDefaults signature.arguments = signature.positional.map PyParameter.default := by
  have hnone : signature.positionalOnly.filterMap PyParameter.default = [] :=
    List.filterMap_eq_nil_iff.2 h
  have hplaced := (List.pairwise_append.1 signature.placed).2.1
  have hpadded := padded_filterMap hplaced
  rw [paddedDefaults]
  simpa only [PySignature.arguments, List.filterMap_append, hnone, List.nil_append,
    List.length_map] using hpadded

/-- A default before them leaves more defaults than `args.args` has parameters. -/
theorem length_defaults_of_not_plain (h : ¬signature.PlainPositionalOnly) :
    signature.arguments.args.length < signature.arguments.defaults.length := by
  simp only [PySignature.PlainPositionalOnly, not_forall] at h
  obtain ⟨p, hp, hdefault⟩ := h
  have hsome : p.default.isSome := Option.isSome_iff_ne_none.2 hdefault
  have hall : ∀ q ∈ signature.positional, q.default.isSome := fun q hq =>
    (List.pairwise_append.1 signature.placed).2.2 p hp q hq hsome
  have hlength := congrArg List.length (filterMap_default_of_all hall)
  rw [List.length_map, List.length_map] at hlength
  have hpos : 0 < (signature.positionalOnly.filterMap PyParameter.default).length := by
    refine List.length_pos_iff.2 fun hnil => ?_
    rw [List.filterMap_eq_nil_iff.1 hnil p hp] at hsome
    cases hsome
  simp only [PySignature.arguments, List.length_map, List.filterMap_append, List.length_append,
    hlength]
  omega

variable {defaults : List (String × Option PyTerm)}

/-- The defaults are paired when no positional-only parameter has one. -/
theorem defaultByName_eq_ok :
    defaultByName signature.arguments = .ok defaults ↔ signature.PlainPositionalOnly ∧
      defaults = (signature.positional ++ signature.keywordOnly).map fun p =>
        (p.name, p.default) := by
  have hkeyword : zipStrict signature.arguments.kwonlyargs signature.arguments.kwDefaults =
      .ok (signature.keywordOnly.map fun p => (p.name, p.default)) := by
    rw [zipStrict_eq_ok]
    exact ⟨by simp [PySignature.arguments], zip_map_map⟩
  by_cases hplain : signature.PlainPositionalOnly
  · have hpositional : zipStrict signature.arguments.args (paddedDefaults signature.arguments) =
        .ok (signature.positional.map fun p => (p.name, p.default)) := by
      rw [zipStrict_eq_ok, paddedDefaults_of_plain hplain]
      exact ⟨by simp [PySignature.arguments], zip_map_map⟩
    rw [defaultByName, hpositional, hkeyword]
    simp [hplain, eq_comm]
  · have hlonger := length_defaults_of_not_plain hplain
    have hne : signature.arguments.args.length ≠ (paddedDefaults signature.arguments).length := by
      simp only [paddedDefaults, List.length_append, List.length_replicate, List.length_map]
      omega
    rw [defaultByName, zipStrict, if_neg hne]
    simp [hplain]

variable {name : String}

theorem binds_iff_mem (h : signature.PlainPositionalOnly) {default : PyTerm} :
    signature.Binds name default ↔ (name, some default) ∈
      (signature.positional ++ signature.keywordOnly).map fun p => (p.name, p.default) := by
  simp only [PySignature.Binds, List.mem_map, Prod.mk.injEq, List.append_assoc]
  constructor
  · rintro ⟨p, hp, hname, hdefault⟩
    rcases List.mem_append.1 hp with hp | hp
    · rw [h p hp] at hdefault
      cases hdefault
    · exact ⟨p, hp, hname, hdefault⟩
  · rintro ⟨p, hp, hname, hdefault⟩
    exact ⟨p, List.mem_append_right _ hp, hname, hdefault⟩

variable {module : PyModule} {node : PyFunctionDef} {className : Option String}

/-- A default is of a parameter that is kept, unless it is a receiver's. -/
theorem mem_keptParameters {default : PyTerm} (h : signature.Binds name default) :
    name ∈ keptParameters signature.arguments ↔ name ∉ ["self", "cls"] := by
  obtain ⟨p, hp, rfl, -⟩ := h
  have hmem : p.name ∈ signature.arguments.posonlyargs ++ signature.arguments.args ++
      signature.arguments.kwonlyargs := by
    simp only [PySignature.arguments, ← List.map_append]
    exact List.mem_map_of_mem hp
  simp only [keptParameters, List.mem_filter, hmem, true_and, decide_eq_true_eq]

/-- What the loop reads of the defaults of a signature. -/
theorem mem_dependencies (h : node.signature.PlainPositionalOnly) {dependency : String} :
    (name, dependency) ∈ dependencies module (keptParameters node.signature.arguments)
        ((node.signature.positional ++ node.signature.keywordOnly).map fun p =>
          (p.name, p.default)) ↔
      name ∉ ["self", "cls"] ∧ ∃ default, node.signature.Binds name default ∧
        dependencyOf module default = some dependency := by
  rw [dependencies, List.mem_filterMap]
  constructor
  · rintro ⟨⟨entryName, entryDefault⟩, hmem, hentry⟩
    split_ifs at hentry with hkept
    obtain ⟨found, hfound, heq⟩ := Option.map_eq_some_iff.1 hentry
    obtain ⟨rfl, rfl⟩ := Prod.mk.inj heq
    obtain ⟨default, rfl, hdependency⟩ := Option.bind_eq_some_iff.1 hfound
    have hbinds := (binds_iff_mem h).2 hmem
    exact ⟨(mem_keptParameters hbinds).1 hkept, default, hbinds, hdependency⟩
  · rintro ⟨hname, default, hbinds, hdependency⟩
    refine ⟨(name, some default), (binds_iff_mem h).1 hbinds, ?_⟩
    rw [if_pos ((mem_keptParameters hbinds).2 hname), Option.bind_some, hdependency]
    rfl

/-- The summary of a function whose defaults are paired. -/
theorem functionInfo_of_defaults (h : defaultByName node.signature.arguments = .ok defaults) :
    ∃ info, functionInfo module node className = .ok info ∧
      info.dependencyParameters.zip info.dependencyNames =
        dependencies module (keptParameters node.signature.arguments) defaults := by
  simp only [functionInfo, h, bind_eq_ok, pure_eq_ok, Except.ok.injEq]
  refine ⟨_, ⟨_, rfl, rfl⟩, ?_⟩
  rw [List.zip_map']
  exact List.map_id' _

/-- A summary is built from the defaults of the parameters when no positional-only parameter has
one. -/
theorem alignedSummary_iff :
    AlignedSummary module node className ↔ node.signature.PlainPositionalOnly := by
  constructor
  · intro h
    obtain ⟨defaults, hdefaults, -⟩ := h.pairs
    exact (defaultByName_eq_ok.1 hdefaults).1
  · intro h
    have hdefaults := defaultByName_eq_ok.2 ⟨h, rfl⟩
    obtain ⟨info, hinfo, hdependencies⟩ := functionInfo_of_defaults hdefaults
    refine ⟨⟨_, hdefaults, fun name default => (binds_iff_mem h).symm⟩, info, hinfo, ?_⟩
    intro name dependency
    rw [hdependencies]
    exact mem_dependencies h

/-- The functions of a snapshot are indexed, from the defaults of their parameters, when no
positional-only parameter has one. -/
theorem maps_defaults_iff {modules : List PyModule} : MapsDefaults modules ↔
    ∀ module ∈ modules, ∀ entry ∈ module.definitions,
      entry.1.signature.PlainPositionalOnly := by
  constructor
  · intro h module hmodule entry hentry
    exact alignedSummary_iff.1 (h.aligned module hmodule entry hentry)
  · intro h
    have haligned : ∀ module ∈ modules, ∀ entry ∈ module.definitions,
        AlignedSummary module entry.1 entry.2 := fun module hmodule entry hentry =>
      alignedSummary_iff.2 (h module hmodule entry hentry)
    have hmodules : ∀ module ∈ modules, ∃ infos, moduleFunctions module = .ok infos := by
      intro module hmodule
      refine mapM_isOk.2 fun entry hentry => ?_
      obtain ⟨info, hinfo, -⟩ := (haligned module hmodule entry hentry).summary
      exact ⟨info, hinfo⟩
    obtain ⟨functions, hfunctions⟩ := mapM_isOk.2 hmodules
    refine ⟨⟨functions.flatten, ?_⟩, haligned⟩
    rw [indexedFunctions, hfunctions]
    rfl

/-- One positional-only parameter with a default ends the mapping of a snapshot. -/
theorem indexedFunctions_raises {modules : List PyModule} (hmodule : module ∈ modules)
    (hnode : (node, className) ∈ module.definitions)
    (h : ¬node.signature.PlainPositionalOnly) : indexedFunctions modules = .error .valueError := by
  have hnone : ∀ functions, indexedFunctions modules ≠ .ok functions := by
    intro functions hfunctions
    simp only [indexedFunctions, bind_eq_ok, pure_eq_ok] at hfunctions
    obtain ⟨infos, hinfos, -⟩ := hfunctions
    obtain ⟨own, hown⟩ := exists_ok_of_mapM hinfos _ hmodule
    obtain ⟨info, hinfo⟩ := exists_ok_of_mapM hown _ hnode
    simp only [functionInfo, bind_eq_ok] at hinfo
    obtain ⟨defaults, hdefaults, -⟩ := hinfo
    exact h (defaultByName_eq_ok.1 hdefaults).1
  cases hresult : indexedFunctions modules with
  | error e => cases e; rfl
  | ok functions => exact absurd hresult (hnone functions)

end

section

attribute [local instance] plainUnicode

/-- `def page(token=Depends(user), /)`. -/
def pageFunction : PyFunctionDef where
  name := "page"
  signature := {
    positionalOnly := [⟨"token", some (.call (.name "Depends") [.name "user"])⟩]
    positional := []
    vararg := none
    keywordOnly := []
    kwarg := none
    placed := List.pairwise_singleton _ _
    names := List.nodup_singleton _ }
  decorators := []

def pageModule : PyModule :=
  ⟨"app", [.function pageFunction], []⟩

/-- A default of a positional-only parameter ends the mapping. -/
theorem pageFunction_unmapped : ¬∀ modules : List PyModule, MapsDefaults modules := by
  intro hall
  obtain ⟨functions, hfunctions⟩ := (hall [pageModule]).indexed
  have hdefault : ¬pageFunction.signature.PlainPositionalOnly := fun h =>
    Option.some_ne_none _ (h _ List.mem_cons_self)
  have hnode : (pageFunction, none) ∈ pageModule.definitions := List.mem_cons_self
  rw [indexedFunctions_raises List.mem_cons_self hnode hdefault] at hfunctions
  cases hfunctions

end

end PythonFunctions

end VulnLoom

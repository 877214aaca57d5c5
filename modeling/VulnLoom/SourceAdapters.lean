import VulnLoom.LineNumbering
import VulnLoom.SourceWindow

/-!
# Language adapters

`PythonLanguageAdapter` and `JavaScriptLanguageAdapter` locate the definitions and the calls of a
document, and make the records of a repository index of them. Python is parsed by `ast.parse`
(`SourceParser`), which counts the physical lines of a text; JavaScript is searched line by line
with regular expressions, over the lines of `str.splitlines`.

A record is validated when it is made. An adapter returns if and only if every name it located is
short enough for its record (`index_isOk_iff`).
-/

set_option linter.unusedSectionVars false

namespace VulnLoom

open LineNumbering

/-! ## Paths -/

/-- `PurePosixPath(path).root`. -/
def posixRoot (path : String) : String :=
  if ¬path.startsWith "/" then ""
  else if path.startsWith "//" ∧ ¬path.startsWith "///" then "//"
  else "/"

/-- The stem and the suffix of a name. -/
def splitSuffix (name : String) : String × String :=
  let reversed := name.toList.reverse
  let extension := reversed.takeWhile (· ≠ '.')
  let stem := (reversed.dropWhile (· ≠ '.')).tail
  if extension ≠ [] ∧ stem ≠ [] then
    (String.ofList stem.reverse, String.ofList ('.' :: extension.reverse))
  else (name, "")

/-- `PurePosixPath(path).suffix`. -/
def posixSuffix (path : String) : String :=
  (splitSuffix (posixName path)).2

/-- `PurePosixPath(path).with_suffix("").as_posix()`. -/
def withoutSuffix (path : String) : String :=
  posixRoot path ++
    asPosix ((posixParts path).dropLast ++ [(splitSuffix (posixName path)).1])

def removeSuffix (suffix text : String) : String :=
  if suffix.toList <:+ text.toList then
    String.ofList (text.toList.take (text.length - suffix.length))
  else text

/-- `_module_name`. -/
def moduleName (path : String) : String :=
  removeSuffix ".__init__" ((withoutSuffix path).map fun c => if c = '/' then '.' else c)

/-! ## Lines -/

/-- The characters that end a physical line of Python source. -/
def isPhysicalEnd (c : Char) : Bool :=
  c = '\n' || c = '\r'

/-- The lines of a text, as `str.splitlines` makes them. -/
def textLines (text : String) : List PlacedLine :=
  placedFrom isLineEnd 0 [] text.toList

/-- The lines of a source text, as the parser numbers them. -/
def physicalLines (text : String) : List PlacedLine :=
  placedFrom isPhysicalEnd 0 [] text.toList

theorem physicalLines_ne_nil {text : String} (h : text ≠ "") : physicalLines text ≠ [] :=
  placedFrom_ne_nil (by rwa [List.nil_append, ne_eq, String.toList_eq_nil_iff])

/-! ## Syntax trees -/

inductive PyDefinition
  | functionDef
  | asyncFunctionDef
  | classDef
  deriving DecidableEq

/-- A node of a syntax tree : names, attributes, calls and definitions, and what stands in other
nodes. -/
inductive PyNode
  | identifier (id : String)
  | attribute (value : PyNode) (attr : String)
  | call (line : ℕ) (func : PyNode) (arguments : List PyNode)
  | definition (kind : PyDefinition) (name : String) (line : ℕ) (parts : List PyNode)
  | other (parts : List PyNode)

namespace PyNode

mutual

/-- `ast.walk`, which specifies no order. -/
def walk : PyNode → List PyNode
  | .identifier id => [.identifier id]
  | .attribute value attr => .attribute value attr :: walk value
  | .call line func arguments => .call line func arguments :: (walk func ++ walkAll arguments)
  | .definition kind name line parts => .definition kind name line parts :: walkAll parts
  | .other parts => .other parts :: walkAll parts

def walkAll : List PyNode → List PyNode
  | [] => []
  | node :: nodes => walk node ++ walkAll nodes

end

def lineno : PyNode → Option ℕ
  | .call line _ _ => some line
  | .definition _ _ line _ => some line
  | _ => none

/-- `_python_call_name`. A name that is too deep for its recursion is too long for a record. -/
def callName : PyNode → Option String
  | .identifier id => some id
  | .attribute value attr =>
    match callName value with
    | some parent => some (if parent = "" then attr else parent ++ "." ++ attr)
    | none => some attr
  | _ => none

def isFunction : PyNode → Option String
  | .definition .classDef _ _ _ => none
  | .definition _ name _ _ => some name
  | _ => none

/-- The kind, the name and the line of a definition. -/
def defined : PyNode → Option (SourceSymbolKind × String × ℕ)
  | .definition .classDef name line _ => some (.classDef, name, line)
  | .definition _ name line _ => some (.function, name, line)
  | _ => none

/-- The name and the line of a call that has a name. -/
def called : PyNode → Option (String × ℕ)
  | .call line func _ =>
    match func.callName with
    | some name => if name = "" then none else some (name, line)
    | none => none
  | _ => none

mutual

/-- The nodes of a node of a tree are nodes of the tree. -/
theorem mem_walk : ∀ {tree node inner : PyNode}, node ∈ tree.walk → inner ∈ node.walk →
    inner ∈ tree.walk
  | .identifier id, node, inner, h, hinner => by
    rw [walk, List.mem_singleton] at h
    rwa [h] at hinner
  | .attribute value attr, node, inner, h, hinner => by
    rw [walk, List.mem_cons] at h
    rcases h with rfl | h
    · exact hinner
    · exact List.mem_cons_of_mem _ (mem_walk h hinner)
  | .call line func arguments, node, inner, h, hinner => by
    rw [walk, List.mem_cons, List.mem_append] at h
    rcases h with rfl | h | h
    · exact hinner
    · exact List.mem_cons_of_mem _ (List.mem_append_left _ (mem_walk h hinner))
    · exact List.mem_cons_of_mem _ (List.mem_append_right _ (mem_walkAll h hinner))
  | .definition kind name line parts, node, inner, h, hinner => by
    rw [walk, List.mem_cons] at h
    rcases h with rfl | h
    · exact hinner
    · exact List.mem_cons_of_mem _ (mem_walkAll h hinner)
  | .other parts, node, inner, h, hinner => by
    rw [walk, List.mem_cons] at h
    rcases h with rfl | h
    · exact hinner
    · exact List.mem_cons_of_mem _ (mem_walkAll h hinner)

theorem mem_walkAll : ∀ {trees : List PyNode} {node inner : PyNode}, node ∈ walkAll trees →
    inner ∈ node.walk → inner ∈ walkAll trees
  | tree :: trees, node, inner, h, hinner => by
    rw [walkAll, List.mem_append] at h
    rcases h with h | h
    · exact List.mem_append_left _ (mem_walk h hinner)
    · exact List.mem_append_right _ (mem_walkAll h hinner)

end

theorem lineno_of_defined {node : PyNode} {kind : SourceSymbolKind} {name : String} {line : ℕ}
    (h : node.defined = some (kind, name, line)) : node.lineno = some line := by
  cases node with
  | definition kind name line parts => cases kind <;> simp_all [defined, lineno]
  | _ => simp [defined] at h

theorem lineno_of_called {node : PyNode} {name : String} {line : ℕ}
    (h : node.called = some (name, line)) : node.lineno = some line ∧ name ≠ "" := by
  cases node with
  | call line func arguments =>
    cases hname : func.callName with
    | none => simp [called, hname] at h
    | some target =>
      simp only [called, hname] at h
      split_ifs at h with hne
      obtain ⟨rfl, rfl⟩ := Prod.mk.inj (Option.some.inj h)
      exact ⟨rfl, hne⟩
  | _ => simp [called] at h

end PyNode

/-- What `ast.parse` raises : a `SyntaxError`, or a `RecursionError` or a `MemoryError`. -/
inductive ParseError
  | syntaxError
  | other
  deriving DecidableEq

/-- `ast.parse`. A node stands in a physical line of the text. -/
class SourceParser where
  parse : String → Except ParseError PyNode
  lineno_bounds : ∀ {text : String} {tree : PyNode}, parse text = .ok tree →
    ∀ node ∈ tree.walk, ∀ line ∈ node.lineno, 1 ≤ line ∧ line ≤ (physicalLines text).length

/-! ## Records -/

/-- `SourceDocument`. -/
structure SourceDocument where
  path : String
  sha256 : Digest
  text : String

/-- An exception of the indexing : one of the snapshot's Scope, one of the Source Hunt, or one of
the parser. -/
inductive IndexingError
  | snapshot (e : IngestionError)
  | sourceHunt (e : SourceHuntError)
  | parser
  deriving DecidableEq

def SourceLocation.create (path : String) (line : ℕ) (symbol : Option String) :
    Except SourceHuntError SourceLocation := do
  raiseIf (path = "" ∨ line < 1) (.validationError "SourceLocation fields")
  return ⟨path, line, symbol⟩

/-- `SourceSymbol.create`. -/
def SourceSymbol.create (language : SourceLanguage) (qualifiedName : String)
    (kind : SourceSymbolKind) (location : SourceLocation) :
    Except SourceHuntError SourceSymbol := do
  raiseIf (qualifiedName.length < 1 ∨ 512 < qualifiedName.length)
    (.validationError "SourceSymbol.qualified_name")
  return ⟨language, qualifiedName, kind, location⟩

/-- `SourceReference.create`. -/
def SourceReference.create (language : SourceLanguage) (kind : SourceReferenceKind)
    (sourceSymbol targetName : String) (resolvedSymbolId : Option Digest)
    (location : SourceLocation) : Except SourceHuntError SourceReference := do
  raiseIf (targetName.length < 1 ∨ 512 < targetName.length)
    (.validationError "SourceReference.target_name")
  return ⟨language, kind, sourceSymbol, targetName, resolvedSymbolId, location⟩

/-- A definition that an adapter located. -/
structure Located where
  language : SourceLanguage
  kind : SourceSymbolKind
  path : String
  name : String
  line : ℕ

def Located.qualifiedName (located : Located) : String :=
  moduleName located.path ++ "." ++ located.name

def Located.create (located : Located) : Except SourceHuntError SourceSymbol := do
  let location ← SourceLocation.create located.path located.line (some located.qualifiedName)
  SourceSymbol.create located.language located.qualifiedName located.kind location

/-- A call that an adapter located. -/
structure Pending where
  path : String
  caller : String
  target : String
  line : ℕ

structure LanguageIndex where
  symbols : List SourceSymbol
  references : List SourceReference

section

variable [SourceHuntDigests]

def SourceReference.referenceId (reference : SourceReference) : Digest :=
  canonicalDigest reference

/-- `value.rsplit(".", 1)[-1]`. -/
def nameTail (value : String) : String :=
  String.ofList (value.toList.reverse.takeWhile (· ≠ '.')).reverse

/-- The symbol a call resolves to, if there is one of its name only. -/
def resolvedSymbol (symbols : List SourceSymbol) (target : String) : Option Digest :=
  match symbols.filter fun symbol => nameTail symbol.qualifiedName = nameTail target with
  | [symbol] => some symbol.symbolId
  | _ => none

def Pending.create (language : SourceLanguage) (symbols : List SourceSymbol) (call : Pending) :
    Except SourceHuntError SourceReference := do
  let location ← SourceLocation.create call.path call.line (some call.caller)
  SourceReference.create language .call call.caller call.target
    (resolvedSymbol symbols call.target) location

/-- `_resolve`. -/
def resolve (language : SourceLanguage) (symbols : List SourceSymbol) (pending : List Pending) :
    Except SourceHuntError LanguageIndex := do
  let references ← pending.mapM (Pending.create language symbols)
  return {
    symbols := Table.orderBy SourceSymbol.symbolId symbols
    references := Table.orderBy SourceReference.referenceId references }

/-- `LanguageAdapter`, by what it locates in a document : definitions and named calls of that
document. -/
structure LanguageAdapter where
  language : SourceLanguage
  version : String
  extensions : List String
  locate : SourceDocument → Except IndexingError (List Located × List Pending)
  places : ∀ {document located pending}, locate document = .ok (located, pending) →
    (∀ item ∈ located, item.path = document.path ∧ 1 ≤ item.line) ∧
      ∀ call ∈ pending, call.path = document.path ∧ 1 ≤ call.line ∧ 1 ≤ call.target.length
  raises : ∀ {document e}, locate document = .error e → e = .parser

namespace LanguageAdapter

variable (adapter : LanguageAdapter)

/-- What an adapter makes of one document : its symbols, and the calls in it. -/
def indexDocument (document : SourceDocument) :
    Except IndexingError (List SourceSymbol × List Pending) := do
  let (located, pending) ← adapter.locate document
  let symbols ← (located.mapM Located.create).mapError .sourceHunt
  return (symbols, pending)

/-- `LanguageAdapter.index`. -/
def index (documents : List SourceDocument) : Except IndexingError LanguageIndex := do
  let parts ← documents.mapM adapter.indexDocument
  (resolve adapter.language (parts.flatMap Prod.fst) (parts.flatMap Prod.snd)).mapError .sourceHunt

/-- The parser raises nothing but a `SyntaxError` for a document, and every name located in it is
short enough for its record. -/
def Fits (document : SourceDocument) : Prop :=
  ∃ located pending, adapter.locate document = .ok (located, pending) ∧
    (∀ item ∈ located, item.qualifiedName.length ≤ 512) ∧
      ∀ call ∈ pending, call.target.length ≤ 512

end LanguageAdapter

theorem Located.length_name_lt (located : Located) :
    located.name.length < located.qualifiedName.length := by
  rw [Located.qualifiedName, String.length_append, String.length_append,
    show ".".length = 1 from rfl]
  omega

theorem Located.create_ok {located : Located} {symbol : SourceSymbol} :
    located.create = .ok symbol ↔
      (located.path ≠ "" ∧ 1 ≤ located.line ∧ located.qualifiedName.length ≤ 512) ∧
        symbol = ⟨located.language, located.qualifiedName, located.kind,
          ⟨located.path, located.line, some located.qualifiedName⟩⟩ := by
  have hdot : ¬located.qualifiedName.length < 1 := by
    have := located.length_name_lt
    omega
  simp only [Located.create, SourceLocation.create, SourceSymbol.create, bind_eq_ok,
    raiseIf_eq_ok, pure_eq_ok, not_or, not_lt, hdot, not_false_eq_true, true_and]
  constructor
  · rintro ⟨_, ⟨-, ⟨hpath, hline⟩, rfl⟩, -, hname, rfl⟩
    exact ⟨⟨hpath, hline, hname⟩, rfl⟩
  · rintro ⟨⟨hpath, hline, hname⟩, rfl⟩
    exact ⟨_, ⟨(), ⟨hpath, hline⟩, rfl⟩, (), hname, rfl⟩

theorem Pending.create_isOk {language : SourceLanguage} {symbols : List SourceSymbol}
    {call : Pending} (hpath : call.path ≠ "") (hline : 1 ≤ call.line)
    (htarget : 1 ≤ call.target.length) :
    (∃ reference, call.create language symbols = .ok reference) ↔ call.target.length ≤ 512 := by
  simp only [Pending.create, SourceLocation.create, SourceReference.create, bind_eq_ok,
    raiseIf_eq_ok, pure_eq_ok, not_or, not_lt]
  constructor
  · rintro ⟨_, _, -, -, ⟨-, hlength⟩, -⟩
    exact hlength
  · intro hlength
    exact ⟨_, _, ⟨(), ⟨hpath, hline⟩, rfl⟩, (), ⟨htarget, hlength⟩, rfl⟩

namespace LanguageAdapter

variable {adapter : LanguageAdapter}

theorem indexDocument_ok {document : SourceDocument} {symbols : List SourceSymbol}
    {pending : List Pending} : adapter.indexDocument document = .ok (symbols, pending) ↔
      ∃ located, adapter.locate document = .ok (located, pending) ∧
        located.mapM Located.create = .ok symbols := by
  simp only [indexDocument, bind_eq_ok, mapError_eq_ok, pure_eq_ok, Prod.mk.injEq, Prod.exists]
  constructor
  · rintro ⟨located, _, hlocate, _, hsymbols, rfl, rfl⟩
    exact ⟨located, hlocate, hsymbols⟩
  · rintro ⟨located, hlocate, hsymbols⟩
    exact ⟨located, pending, hlocate, symbols, hsymbols, rfl, rfl⟩

variable {documents : List SourceDocument}

/-- Each symbol of an index is made of a definition that was located in one of the documents. -/
theorem mem_symbols {index : LanguageIndex} (h : adapter.index documents = .ok index)
    {symbol : SourceSymbol} (hsymbol : symbol ∈ index.symbols) :
    ∃ document ∈ documents, ∃ located pending, adapter.locate document = .ok (located, pending) ∧
      ∃ item ∈ located, item.create = .ok symbol := by
  simp only [LanguageAdapter.index, bind_eq_ok, mapError_eq_ok, resolve, pure_eq_ok] at h
  obtain ⟨parts, hparts, references, -, rfl⟩ := h
  obtain ⟨⟨symbols, pending⟩, hpart, hsymbol⟩ :=
    List.mem_flatMap.1 ((Table.mem_orderBy _).1 hsymbol)
  obtain ⟨document, hdocument, hindexed⟩ := (mem_mapM hparts).1 hpart
  obtain ⟨located, hlocate, hsymbols⟩ := indexDocument_ok.1 hindexed
  exact ⟨document, hdocument, located, pending, hlocate, (mem_mapM hsymbols).1 hsymbol⟩

/-- An adapter returns if and only if each document fits. -/
theorem index_isOk_iff (hpaths : ∀ document ∈ documents, document.path ≠ "") :
    (∃ index, adapter.index documents = .ok index) ↔
      ∀ document ∈ documents, adapter.Fits document := by
  have hcreate : ∀ {document located pending}, document ∈ documents →
      adapter.locate document = .ok (located, pending) → ∀ item ∈ located,
        ((∃ symbol, item.create = .ok symbol) ↔ item.qualifiedName.length ≤ 512) := by
    intro document located pending hdocument hlocate item hitem
    obtain ⟨hpath, hline⟩ := (adapter.places hlocate).1 item hitem
    simp only [Located.create_ok, exists_and_left, exists_eq, and_true, hpath, hline, true_and,
      ne_eq, hpaths document hdocument, not_false_eq_true]
  have hresolve : ∀ {document located pending}, document ∈ documents →
      adapter.locate document = .ok (located, pending) → ∀ symbols, ∀ call ∈ pending,
        ((∃ reference, call.create adapter.language symbols = .ok reference) ↔
          call.target.length ≤ 512) := by
    intro document located pending hdocument hlocate symbols call hcall
    obtain ⟨hpath, hline, htarget⟩ := (adapter.places hlocate).2 call hcall
    exact Pending.create_isOk (by rw [hpath]; exact hpaths document hdocument) hline htarget
  constructor
  · rintro ⟨index, h⟩ document hdocument
    simp only [LanguageAdapter.index, bind_eq_ok, mapError_eq_ok, resolve] at h
    obtain ⟨parts, hparts, references, hreferences, -⟩ := h
    obtain ⟨⟨symbols, pending⟩, hpart⟩ := exists_ok_of_mapM hparts document hdocument
    obtain ⟨located, hlocate, hsymbols⟩ := indexDocument_ok.1 hpart
    refine ⟨located, pending, hlocate, fun item hitem => ?_, fun call hcall => ?_⟩
    · exact (hcreate hdocument hlocate item hitem).1 (exists_ok_of_mapM hsymbols item hitem)
    · have hmem : (symbols, pending) ∈ parts := (mem_mapM hparts).2 ⟨document, hdocument, hpart⟩
      exact (hresolve hdocument hlocate _ call hcall).1
        (exists_ok_of_mapM hreferences call (List.mem_flatMap.2 ⟨_, hmem, hcall⟩))
  · intro h
    have hdocuments : ∀ document ∈ documents,
        ∃ part, adapter.indexDocument document = .ok part := by
      intro document hdocument
      obtain ⟨located, pending, hlocate, hnames, -⟩ := h document hdocument
      obtain ⟨symbols, hsymbols⟩ := mapM_isOk.2 fun item hitem =>
        (hcreate hdocument hlocate item hitem).2 (hnames item hitem)
      exact ⟨(symbols, pending), indexDocument_ok.2 ⟨located, hlocate, hsymbols⟩⟩
    obtain ⟨parts, hparts⟩ := mapM_isOk.2 hdocuments
    have hcalls : ∀ call ∈ parts.flatMap Prod.snd, ∃ reference,
        call.create adapter.language (parts.flatMap Prod.fst) = .ok reference := by
      intro call hcall
      obtain ⟨⟨symbols, pending⟩, hpart, hcall⟩ := List.mem_flatMap.1 hcall
      obtain ⟨document, hdocument, hindexed⟩ := (mem_mapM hparts).1 hpart
      obtain ⟨located, pending', hlocate, -, htargets⟩ := h document hdocument
      obtain ⟨located', hlocate', -⟩ := indexDocument_ok.1 hindexed
      rw [hlocate] at hlocate'
      obtain ⟨rfl, rfl⟩ := Prod.mk.inj (Except.ok.inj hlocate')
      exact (hresolve hdocument hlocate _ call hcall).2 (htargets call hcall)
    obtain ⟨references, hreferences⟩ := mapM_isOk.2 hcalls
    simp only [LanguageAdapter.index, bind_eq_ok, mapError_eq_ok, resolve, pure_eq_ok]
    exact ⟨_, parts, hparts, references, hreferences, rfl⟩

end LanguageAdapter

end

/-! ## Python -/

section

variable [SourceParser]

/-- The definitions of a module, and the calls in its functions. A call stands in every function
around it. -/
def locatePython (document : SourceDocument) :
    Except IndexingError (List Located × List Pending) :=
  match SourceParser.parse document.text with
  | .error .syntaxError => .ok ([], [])
  | .error .other => .error .parser
  | .ok tree =>
    .ok (tree.walk.filterMap fun node =>
        node.defined.map fun (kind, name, line) => ⟨.python, kind, document.path, name, line⟩,
      tree.walk.flatMap fun node =>
        match node.isFunction with
        | none => []
        | some caller =>
          (node.walk.filterMap PyNode.called).map fun (target, line) =>
            ⟨document.path, moduleName document.path ++ "." ++ caller, target, line⟩)

/-- What is located in a tree of a text stands in a line that the parser counts. -/
theorem locatePython_spec {document : SourceDocument} {located : List Located}
    {pending : List Pending} (h : locatePython document = .ok (located, pending)) :
    (∀ item ∈ located, item.path = document.path ∧ item.language = .python ∧ 1 ≤ item.line ∧
      item.line ≤ (physicalLines document.text).length) ∧
      ∀ call ∈ pending, call.path = document.path ∧ 1 ≤ call.line ∧ 1 ≤ call.target.length := by
  unfold locatePython at h
  split at h
  · obtain ⟨rfl, rfl⟩ := Prod.mk.inj (Except.ok.inj h)
    simp
  · cases h
  · next tree htree =>
    obtain ⟨rfl, rfl⟩ := Prod.mk.inj (Except.ok.inj h)
    constructor
    · intro item hitem
      obtain ⟨node, hnode, hitem⟩ := List.mem_filterMap.1 hitem
      obtain ⟨⟨kind, name, line⟩, hdefined, rfl⟩ := Option.map_eq_some_iff.1 hitem
      exact ⟨rfl, rfl, SourceParser.lineno_bounds htree node hnode line
        (PyNode.lineno_of_defined hdefined)⟩
    · intro call hcall
      obtain ⟨node, hnode, hcall⟩ := List.mem_flatMap.1 hcall
      split at hcall
      · cases hcall
      · obtain ⟨⟨target, line⟩, hcalled, rfl⟩ := List.mem_map.1 hcall
        obtain ⟨inner, hinner, hcalled⟩ := List.mem_filterMap.1 hcalled
        obtain ⟨hlineno, hne⟩ := PyNode.lineno_of_called hcalled
        have hmem : inner ∈ tree.walk := PyNode.mem_walk hnode hinner
        refine ⟨rfl, (SourceParser.lineno_bounds htree inner hmem line hlineno).1, ?_⟩
        exact Nat.one_le_iff_ne_zero.2 fun hzero => hne (String.length_eq_zero_iff.1 hzero)

/-- `PythonLanguageAdapter`. -/
def PythonLanguageAdapter : LanguageAdapter where
  language := .python
  version := "python-ast-index-v1"
  extensions := [".py"]
  locate := locatePython
  places h := ⟨fun item hitem => ⟨((locatePython_spec h).1 item hitem).1,
    ((locatePython_spec h).1 item hitem).2.2.1⟩, (locatePython_spec h).2⟩
  raises := by
    intro document e h
    unfold locatePython at h
    split at h
    · cases h
    · exact (Except.error.inj h).symm
    · cases h

end

/-! ## JavaScript -/

namespace JavaScriptLanguageAdapter

open Regex

/-- The lengths of the repetitions of a pattern, in the order they are tried : as many as there
are first, at most `n`. -/
def endsRepeated (isWord : Char → Bool) (r : Regex Char) :
    ℕ → Option Char → List Char → List ℕ
  | 0, _, _ => [0]
  | n + 1, prev, s =>
    (r.ends isWord prev s).flatMap (fun k =>
      (endsRepeated isWord r n (before prev s k) (s.drop k)).map (k + ·)) ++ [0]

section

variable [PythonAlnum]

/-- `[A-Za-z_$][\w$]*`. -/
def identifier : Regex Char :=
  .seq (.letter fun c => c.isAlpha || c = '_' || c = '$')
    (.many (fun c => isWord c || c = '$') 0 true)

def word (text : String) : Regex Char :=
  .seq (exactly text.toList) (.many isSpace 1 true)

/-- The first group of a match at the start of a line, between what stands before it and after
it. -/
def group (first name last : Regex Char) (line : List Char) : Option String :=
  ((first.ends isWord none line).flatMap fun i =>
    ((name.ends isWord (before none line i) (line.drop i)).filter fun j =>
      last.ends isWord (before none line (i + j)) (line.drop (i + j)) ≠ []).map fun j =>
        String.ofList ((line.drop i).take j)).head?

/-- `_function.search`, and its group. -/
def functionName (line : List Char) : Option String :=
  (group (sequence [spaces, optional (word "export"), optional (word "async"), word "function"])
    identifier .empty line).or
  (group (sequence [spaces, optional (word "export"),
      choice (exactly "const".toList) [exactly "let".toList, exactly "var".toList],
      .many isSpace 1 true])
    identifier
    (sequence [spaces, exactly ['='], spaces, optional (.seq (exactly "async".toList) spaces),
      .alt (sequence [exactly ['('], .many (· ≠ ')') 0 true, exactly [')']]) identifier,
      spaces, exactly "=>".toList]) line)

/-- `_class.search`, and its group. -/
def className (line : List Char) : Option String :=
  group (sequence [spaces, optional (word "export"), word "class"]) identifier .empty line

/-- The definition that a line begins. -/
def definedIn (line : List Char) : Option (SourceSymbolKind × String) :=
  match className line with
  | some name => some (.classDef, name)
  | none => (functionName line).map (.function, ·)

/-- The lengths of the group and of a whole match of `_call`. -/
def callAt (prev : Option Char) (s : List Char) : Option (ℕ × ℕ) :=
  ((Regex.boundary.ends isWord prev s).flatMap fun _ =>
    (identifier.ends isWord prev s).flatMap fun i =>
      (endsRepeated isWord (.seq (exactly ['.']) identifier) s.length (before prev s i)
        (s.drop i)).flatMap fun j =>
          ((sequence [spaces, exactly ['(']]).ends isWord (before prev s (i + j))
            (s.drop (i + j))).map fun k => (i + j, i + j + k)).head?

/-- `_call.finditer`, and the groups; the first `n` characters are in a match. -/
def findCalls : ℕ → Option Char → List Char → List String
  | _, _, [] => []
  | n + 1, _, c :: s => findCalls n (some c) s
  | 0, prev, c :: s =>
    match callAt prev (c :: s) with
    | some (i, n) => String.ofList ((c :: s).take i) :: findCalls (n - 1) (some c) s
    | none => findCalls 0 (some c) s

/-- The calls of a line. -/
def callsIn (line : List Char) : List String :=
  (findCalls 0 none line).filter (· ∉ ["if", "for", "while", "switch", "function"])

/-- What an adapter locates in the lines from `number` on, where it is in `current`. -/
def locateLines (language : SourceLanguage) (path : String) :
    String → ℕ → List (List Char) → List Located × List Pending
  | _, _, [] => ([], [])
  | current, number, line :: lines =>
    match definedIn line with
    | some (kind, name) =>
      let located : Located := ⟨language, kind, path, name, number⟩
      let (rest, pending) := locateLines language path located.qualifiedName (number + 1) lines
      (located :: rest,
        (callsIn line).map (⟨path, located.qualifiedName, ·, number⟩) ++ pending)
    | none =>
      let (rest, pending) := locateLines language path current (number + 1) lines
      (rest, (callsIn line).map (⟨path, current, ·, number⟩) ++ pending)

theorem length_of_mem_findCalls : ∀ {s : List Char} {n : ℕ} {prev : Option Char} {name : String},
    name ∈ findCalls n prev s → 1 ≤ name.length
  | c :: s, n + 1, prev, name, h => by
    rw [findCalls] at h
    exact length_of_mem_findCalls h
  | c :: s, 0, prev, name, h => by
    rw [findCalls] at h
    split at h
    · next i n hcall =>
      rcases List.mem_cons.1 h with rfl | h
      · obtain ⟨_, -, h⟩ := List.mem_flatMap.1 (List.mem_of_mem_head? hcall)
        obtain ⟨i', hi, h⟩ := List.mem_flatMap.1 h
        obtain ⟨j, -, h⟩ := List.mem_flatMap.1 h
        obtain ⟨k, -, heq⟩ := List.mem_map.1 h
        have hpos : 0 < i' := pos_of_consumes (r := identifier) rfl hi
        have hsum : i' + j = i := (Prod.mk.inj heq).1
        rw [String.length_ofList, List.length_take, List.length_cons]
        omega
      · exact length_of_mem_findCalls h
    · exact length_of_mem_findCalls h

/-- What is located in the lines from a number on stands in one of them. -/
theorem locateLines_spec {language : SourceLanguage} {path : String} : ∀ (lines : List (List Char))
    (current : String) (number : ℕ),
    (∀ item ∈ (locateLines language path current number lines).1, item.path = path ∧
      item.language = language ∧ number ≤ item.line ∧ item.line < number + lines.length) ∧
    ∀ call ∈ (locateLines language path current number lines).2, call.path = path ∧
      number ≤ call.line ∧ 1 ≤ call.target.length
  | [], _, _ => by simp [locateLines]
  | line :: lines, current, number => by
    have hcalls : ∀ {caller : String}, ∀ call ∈ (callsIn line).map
        (⟨path, caller, ·, number⟩ : String → Pending),
        call.path = path ∧ number ≤ call.line ∧ 1 ≤ call.target.length := by
      intro caller call hcall
      obtain ⟨target, htarget, rfl⟩ := List.mem_map.1 hcall
      exact ⟨rfl, Nat.le_refl _, length_of_mem_findCalls (List.mem_filter.1 htarget).1⟩
    have hrest : ∀ {next : String},
        (∀ item ∈ (locateLines language path next (number + 1) lines).1, item.path = path ∧
          item.language = language ∧ number ≤ item.line ∧
            item.line < number + (line :: lines).length) ∧
        ∀ call ∈ (locateLines language path next (number + 1) lines).2, call.path = path ∧
          number ≤ call.line ∧ 1 ≤ call.target.length := by
      intro next
      obtain ⟨hitems, hcalls⟩ :=
        locateLines_spec lines next (number + 1)
      constructor
      · intro item hitem
        obtain ⟨hpath, hlanguage, hle, hlt⟩ := hitems item hitem
        rw [List.length_cons]
        exact ⟨hpath, hlanguage, by omega, by omega⟩
      · intro call hcall
        obtain ⟨hpath, hle, hlength⟩ := hcalls call hcall
        exact ⟨hpath, by omega, hlength⟩
    unfold locateLines
    split
    · refine ⟨List.forall_mem_cons.2 ⟨⟨rfl, rfl, Nat.le_refl _, ?_⟩, hrest.1⟩,
        List.forall_mem_append.2 ⟨hcalls, hrest.2⟩⟩
      rw [List.length_cons]
      exact Nat.lt_add_of_pos_right (Nat.succ_pos _)
    · exact ⟨hrest.1, List.forall_mem_append.2 ⟨hcalls, hrest.2⟩⟩

def locate (document : SourceDocument) : List Located × List Pending :=
  locateLines (if posixSuffix document.path ∈ [".ts", ".tsx"] then .typescript else .javascript)
    document.path (moduleName document.path) 1 (splitlines document.text)

end

end JavaScriptLanguageAdapter

/-- `JavaScriptLanguageAdapter`. -/
def JavaScriptLanguageAdapter [PythonAlnum] : LanguageAdapter where
  language := .javascript
  version := "javascript-navigation-index-v1"
  extensions := [".js", ".jsx", ".mjs", ".cjs", ".ts", ".tsx"]
  locate document := .ok (JavaScriptLanguageAdapter.locate document)
  places := by
    intro document located pending h
    obtain ⟨rfl, rfl⟩ : located = (JavaScriptLanguageAdapter.locate document).1 ∧
        pending = (JavaScriptLanguageAdapter.locate document).2 := by
      rw [Except.ok.inj h]
      exact ⟨rfl, rfl⟩
    obtain ⟨hitems, hcalls⟩ := JavaScriptLanguageAdapter.locateLines_spec _ _ _
    exact ⟨fun item hitem => ⟨(hitems item hitem).1, (hitems item hitem).2.2.1⟩, hcalls⟩
  raises h := by cases h

end VulnLoom

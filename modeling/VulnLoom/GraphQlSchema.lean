import VulnLoom.Redaction
import VulnLoom.Table

/-!
# The GraphQL schema projection

The reducer of one GraphQL SDL text : the document is taken out of its evidence, lexed, and its
definitions are read one after another into a summary. A place in the document is the list of the
characters, or of the tokens, from it on. The wall clock is left out : a document that is timed out
is rejected.
-/

namespace VulnLoom

/-- The exceptions of the projection, with their messages. -/
inductive GraphQlError
  /-- `GraphQlSchemaObservationRejected` -/
  | rejected (message : String)
  /-- a delimiter that `_matching` has no partner for -/
  | unmatched
  deriving DecidableEq

structure GraphQlSchemaObservationLimits where
  maxDocumentBytes : ℕ
  maxTokens : ℕ
  maxTypes : ℕ
  maxQueryFields : ℕ
  maxDepth : ℕ

inductive GraphQlTokenKind
  | name
  | string
  | number
  | punct
  deriving DecidableEq

structure GraphQlToken where
  kind : GraphQlTokenKind
  value : String
  deriving DecidableEq

/-- `_OPEN_TO_CLOSE`. -/
def openToClose : List (String × String) :=
  [("(", ")"), ("[", "]"), ("\x7b", "\x7d")]

/-- `_TYPE_KEYWORDS`. -/
def typeKeywords : List String :=
  ["type", "interface", "input", "enum", "scalar", "union"]

/-- `_EXECUTABLE_KEYWORDS`. -/
def executableKeywords : List String :=
  ["query", "mutation", "subscription", "fragment"]

namespace GraphQlToken

variable (token : GraphQlToken)

def opens : Bool :=
  token.value ∈ openToClose.map Prod.fst

def closes : Bool :=
  token.value ∈ openToClose.map Prod.snd

/-- A name that starts a definition of the type system, for the two searches. -/
def startsDefinition : Bool :=
  token.kind = .name ∧ token.value ∈ typeKeywords ++ ["schema", "directive", "extend"]

end GraphQlToken

namespace GraphQlSchema

/-! ## The document -/

def byteOrderMark : Char :=
  Char.ofNat 0xfeff

open Regex in
/-- `_NAME`. -/
def namePattern : Regex Char :=
  .seq (.letter fun c => c.isAlpha || c = '_') (.many (fun c => c.isAlphanum || c = '_') 0 true)

open Regex in
/-- `_NUMBER`. -/
def numberPattern : Regex Char :=
  .seq (optional (.letter (· = '-'))) <|
  .seq (.alt (.letter (· = '0'))
    (.seq (.letter fun c => c.isDigit && c ≠ '0') (.many Char.isDigit 0 true))) <|
  .seq (optional (.seq (.letter (· = '.')) (.many Char.isDigit 1 true))) <|
  optional (.seq (.letter fun c => c = 'e' || c = 'E')
    (.seq (optional (.letter fun c => c = '+' || c = '-')) (.many Char.isDigit 1 true)))

/-- The length of a match at the start of a text. -/
def matchLength (pattern : Regex Char) (text : List Char) : Option ℕ :=
  (pattern.ends (fun c => c.isAlphanum || c = '_') none text).head?

/-- `body[body.find("\n") + 1:]`, or the end of the body. -/
def afterLine (text : List Char) : List Char :=
  (text.dropWhile (· ≠ '\n')).drop 1

/-- What stands after the next three quotation marks. -/
def afterBlockString : List Char → Option (List Char)
  | '"' :: '"' :: '"' :: rest => some rest
  | _ :: rest => afterBlockString rest
  | [] => none

/-- What stands after the end of a string. -/
def afterString : List Char → Except GraphQlError (List Char)
  | [] => .error (.rejected "GraphQL SDL contains an unterminated string")
  | '\r' :: _ | '\n' :: _ => .error (.rejected "GraphQL SDL contains an invalid string")
  | '\\' :: _ :: rest => afterString rest
  | '\\' :: [] => .error (.rejected "GraphQL SDL contains an unterminated string")
  | '"' :: rest => .ok rest
  | _ :: rest => afterString rest

/-- The openers that wait, after a delimiter. -/
def lexDelimiter (limits : GraphQlSchemaObservationLimits) (stack : List String) (value : String) :
    Except GraphQlError (List String) :=
  if value ∈ openToClose.map Prod.fst then do
    raiseIf (limits.maxDepth < stack.length + 1)
      (.rejected "GraphQL SDL nesting budget exceeded")
    return value :: stack
  else if value ∈ openToClose.map Prod.snd then
    match stack with
    | opener :: stack => do
      raiseIf ((opener, value) ∉ openToClose) (.rejected "GraphQL SDL delimiters are unbalanced")
      return stack
    | [] => .error (.rejected "GraphQL SDL delimiters are unbalanced")
  else .ok stack

/-- The next token of a text that starts with one, the openers that wait after it, and the rest of
the text. -/
def lexToken (limits : GraphQlSchemaObservationLimits) (stack : List String) (char : Char)
    (text : List Char) : Except GraphQlError (GraphQlToken × List String × List Char) :=
  let body := char :: text
  if ['"', '"', '"'] <+: body then do
    let rest ← orRaise (afterBlockString (body.drop 3))
      (.rejected "GraphQL SDL contains an unterminated block string")
    return (⟨.string, ""⟩, stack, rest)
  else if char = '"' then do
    let rest ← afterString text
    return (⟨.string, ""⟩, stack, rest)
  else
    match matchLength namePattern body, matchLength numberPattern body with
    | some n, _ => do
      raiseIf (128 < n) (.rejected "GraphQL SDL name exceeds its budget")
      return (⟨.name, String.ofList (body.take n)⟩, stack, body.drop n)
    | none, some n => .ok (⟨.number, ""⟩, stack, body.drop n)
    | none, none =>
      if "...".toList <+: body then .ok (⟨.punct, "..."⟩, stack, body.drop 3)
      else if char ∈ "!$&():=@[]{|}".toList then do
        let stack ← lexDelimiter limits stack (String.singleton char)
        return (⟨.punct, String.singleton char⟩, stack, text)
      else .error (.rejected "GraphQL SDL contains an unsupported token")

/-- The loop of `_lex`, with the openers that wait and the number of the tokens before. An
iteration reads at least a character. -/
def lexLoop (limits : GraphQlSchemaObservationLimits) :
    ℕ → List String → ℕ → List Char → Except GraphQlError (List GraphQlToken)
  | _, stack, count, [] => do
    raiseIf (stack ≠ []) (.rejected "GraphQL SDL delimiters are unbalanced")
    raiseIf (count = 0) (.rejected "GraphQL SDL is empty")
    return []
  | 0, _, _, _ :: _ => .error .unmatched
  | n + 1, stack, count, char :: text =>
    if isSpace char ∨ char = ',' ∨ char = byteOrderMark then lexLoop limits n stack count text
    else if char = '#' then lexLoop limits n stack count (afterLine text)
    else do
      let (token, stack, rest) ← lexToken limits stack char text
      raiseIf (limits.maxTokens < count + 1) (.rejected "GraphQL SDL token budget exceeded")
      let tokens ← lexLoop limits n stack (count + 1) rest
      return token :: tokens

/-- `_lex`. -/
def lex (limits : GraphQlSchemaObservationLimits) (body : List Char) :
    Except GraphQlError (List GraphQlToken) :=
  lexLoop limits body.length [] 0 body

/-! ## Delimiters -/

/-- The openers that `_matching` has on its stack after the tokens. -/
def openers : List String → List GraphQlToken → Except GraphQlError (List String)
  | stack, [] => .ok stack
  | stack, token :: tokens =>
    if token.opens then openers (token.value :: stack) tokens
    else if token.closes then
      match stack with
      | opener :: stack => do
        raiseIf ((opener, token.value) ∉ openToClose)
          (.rejected "GraphQL SDL delimiters are unbalanced")
        openers stack tokens
      | [] => .error .unmatched
    else openers stack tokens

/-- The tokens up to the closer that `_matching` gives an opener, and the tokens after it; `depth`
more are open. -/
def toClosing : ℕ → List GraphQlToken → Except GraphQlError (List GraphQlToken × List GraphQlToken)
  | _, [] => .error .unmatched
  | 0, token :: tokens =>
    if token.closes then .ok ([], tokens)
    else do
      let (content, rest) ← toClosing (if token.opens then 1 else 0) tokens
      return (token :: content, rest)
  | depth + 1, token :: tokens => do
    let (content, rest) ← toClosing
      (if token.closes then depth else if token.opens then depth + 2 else depth + 1) tokens
    return (token :: content, rest)

theorem toClosing_length : ∀ {depth : ℕ} {tokens content rest : List GraphQlToken},
    toClosing depth tokens = .ok (content, rest) →
      content.length + rest.length + 1 = tokens.length := by
  intro depth tokens
  induction tokens generalizing depth with
  | nil =>
    intro content rest h
    cases depth <;> cases h
  | cons token tokens ih =>
    intro content rest h
    cases depth with
    | zero =>
      rw [toClosing] at h
      split_ifs at h
      · obtain ⟨rfl, rfl⟩ := Prod.mk.inj (Except.ok.inj h)
        simp
      all_goals
        simp only [bind_eq_ok, pure_eq_ok, Prod.mk.injEq] at h
        obtain ⟨⟨content', rest'⟩, hrec, rfl, rfl⟩ := h
        have := ih hrec
        simp only [List.length_cons]
        omega
    | succ depth =>
      simp only [toClosing, bind_eq_ok, pure_eq_ok, Prod.mk.injEq] at h
      obtain ⟨⟨content', rest'⟩, hrec, rfl, rfl⟩ := h
      have := ih hrec
      simp only [List.length_cons]
      omega

/-! ## Definitions -/

/-- `_find_block`, with the content of the block and the tokens after it. -/
def findBlock : List GraphQlToken → Except GraphQlError (List GraphQlToken × List GraphQlToken)
  | [] => .error (.rejected "GraphQL SDL definition block is missing")
  | token :: tokens =>
    if token.value = "\x7b" then toClosing 0 tokens
    else if token.startsDefinition then
      .error (.rejected "GraphQL SDL definition block is missing")
    else findBlock tokens

/-- `_next_definition`. -/
def nextDefinition : ℤ → List GraphQlToken → List GraphQlToken
  | _, [] => []
  | depth, token :: tokens =>
    if token.opens then nextDefinition (depth + 1) tokens
    else if token.closes then nextDefinition (depth - 1) tokens
    else if depth = 0 ∧ token.startsDefinition then token :: tokens
    else nextDefinition depth tokens

/-- `_schema_roots`, after the roots that were read. -/
def schemaRoots : List (String × String) → List GraphQlToken →
    Except GraphQlError (List (String × String))
  | roots, [] => .ok roots
  | roots, name :: colon :: root :: tokens => do
    raiseIf (name.kind ≠ .name ∨ colon.value ≠ ":" ∨ root.kind ≠ .name ∨
        name.value ∉ ["query", "mutation", "subscription"])
      (.rejected "GraphQL SDL schema root mapping is invalid")
    raiseIf ("__".toList <+: name.value.toList)
      (.rejected "GraphQL SDL reserved fields are not admissible")
    raiseIf (name.value ∈ roots.map Prod.fst) (.rejected "GraphQL SDL repeats a schema root")
    schemaRoots (roots ++ [(name.value, root.value)]) tokens
  | _, _ => .error (.rejected "GraphQL SDL schema root mapping is invalid")

/-- The tokens after a list of arguments, where there is one. -/
def skipArguments : List GraphQlToken → Except GraphQlError (List GraphQlToken)
  | token :: tokens =>
    if token.value = "(" then do
      let (_, rest) ← toClosing 0 tokens
      return rest
    else .ok (token :: tokens)
  | [] => .ok []

/-- The tokens after an exclamation mark, where there is one. -/
def skipNonNull : List GraphQlToken → List GraphQlToken
  | token :: tokens => if token.value = "!" then tokens else token :: tokens
  | [] => []

/-- `_type_reference`. -/
def typeReference : List GraphQlToken → Except GraphQlError (String × List GraphQlToken)
  | [] => .error (.rejected "GraphQL SDL field type is invalid")
  | token :: tokens =>
    if token.value = "[" then
      match h : toClosing 0 tokens with
      | .error e => .error e
      | .ok (content, rest) => do
        have : content.length < tokens.length + 1 := by
          have := toClosing_length h
          omega
        let (name, nested) ← typeReference content
        raiseIf (nested ≠ []) (.rejected "GraphQL SDL list type is invalid")
        return (name, skipNonNull rest)
    else if token.kind = .name then .ok (token.value, skipNonNull tokens)
    else .error (.rejected "GraphQL SDL field type is invalid")
termination_by tokens => tokens.length

/-- The tokens after the directive uses of a field. -/
def skipDirectives : ℕ → List GraphQlToken → Except GraphQlError (List GraphQlToken)
  | _, [] => .ok []
  | 0, _ :: _ => .error .unmatched
  | n + 1, token :: tokens =>
    if token.value = "@" then
      match tokens with
      | name :: tokens => do
        raiseIf (name.kind ≠ .name) (.rejected "GraphQL SDL directive use is invalid")
        let rest ← skipArguments tokens
        skipDirectives n rest
      | [] => .error (.rejected "GraphQL SDL directive use is invalid")
    else .ok (token :: tokens)

/-- A field of an object, with its named type, and the tokens after it. -/
def objectField (content : List GraphQlToken) :
    Except GraphQlError ((String × String) × List GraphQlToken) := do
  match content.dropWhile fun token => token.kind = .string with
  | [] => .error (.rejected "GraphQL SDL object field is invalid")
  | name :: tokens =>
    raiseIf (name.kind ≠ .name) (.rejected "GraphQL SDL object field is invalid")
    match ← skipArguments tokens with
    | [] => .error (.rejected "GraphQL SDL object field type is missing")
    | colon :: tokens =>
      raiseIf (colon.value ≠ ":") (.rejected "GraphQL SDL object field type is missing")
      let (returnType, tokens) ← typeReference tokens
      let rest ← skipDirectives tokens.length tokens
      return ((name.value, returnType), rest)

/-- The loop of `_object_fields`; an iteration reads at least a token. -/
def objectFieldsLoop : ℕ → List (String × String) → List GraphQlToken →
    Except GraphQlError (List (String × String))
  | _, fields, [] => .ok fields
  | 0, _, _ :: _ => .error .unmatched
  | n + 1, fields, token :: tokens => do
    let (field, rest) ← objectField (token :: tokens)
    raiseIf (field.1 ∈ fields.map Prod.fst) (.rejected "GraphQL SDL repeats an object field")
    objectFieldsLoop n (fields ++ [field]) rest

/-- `_object_fields`. -/
def objectFields (content : List GraphQlToken) : Except GraphQlError (List (String × String)) :=
  objectFieldsLoop content.length [] content

/-! ## The summary -/

/-- The locals of `_summarize`. -/
structure SchemaState where
  objects : List (String × List (String × String))
  typeNames : List String
  extensions : List (String × List (String × String))
  roots : List (String × String)

def SchemaState.empty : SchemaState :=
  ⟨[], [], [], []⟩

/-- The roots of a `schema` block are added, each of them once. -/
def addRoots : List (String × String) → List (String × String) →
    Except GraphQlError (List (String × String))
  | roots, [] => .ok roots
  | roots, root :: values => do
    raiseIf (root.1 ∈ roots.map Prod.fst) (.rejected "GraphQL SDL repeats a schema root")
    addRoots (roots ++ [root]) values

/-- The name of a type is taken by a definition, not by an extension. -/
def addTypeName (limits : GraphQlSchemaObservationLimits) (typeNames : List String)
    (extended : Bool) (name : String) : Except GraphQlError (List String) :=
  if extended then .ok typeNames
  else do
    raiseIf (name ∈ typeNames) (.rejected "GraphQL SDL repeats a type definition")
    raiseIf (limits.maxTypes < typeNames.length + 1)
      (.rejected "GraphQL SDL type budget exceeded")
    return typeNames ++ [name]

/-- The fields of an object type, or of an extension of one. -/
def addFields (state : SchemaState) (extended : Bool) (name : String)
    (fields : List (String × String)) : SchemaState :=
  if extended then { state with extensions := state.extensions ++ [(name, fields)] }
  else { state with objects := state.objects ++ [(name, fields)] }

/-- A definition of a type, from its name on. -/
def typeDefinition (limits : GraphQlSchemaObservationLimits) (state : SchemaState)
    (extended : Bool) (keyword : String) :
    List GraphQlToken → Except GraphQlError (SchemaState × List GraphQlToken)
  | [] => .error (.rejected "GraphQL SDL type name is missing")
  | name :: tokens => do
    raiseIf (name.kind ≠ .name) (.rejected "GraphQL SDL type name is missing")
    let typeNames ← addTypeName limits state.typeNames extended name.value
    let state := { state with typeNames := typeNames }
    if keyword ∈ ["type", "interface", "input", "enum"] then do
      let (content, rest) ← findBlock tokens
      if keyword = "type" then do
        let fields ← objectFields content
        return (addFields state extended name.value fields, rest)
      else return (state, rest)
    else return (state, nextDefinition 0 tokens)

/-- A definition of the type system, from its keyword on. -/
def typeSystemDefinition (limits : GraphQlSchemaObservationLimits) (state : SchemaState)
    (extended : Bool) (keyword : String) (tokens : List GraphQlToken) :
    Except GraphQlError (SchemaState × List GraphQlToken) :=
  if keyword = "schema" then do
    let (content, rest) ← findBlock tokens
    let values ← schemaRoots [] content
    let roots ← addRoots state.roots values
    return ({ state with roots := roots }, rest)
  else if keyword ∈ typeKeywords then typeDefinition limits state extended keyword tokens
  else if keyword = "directive" then .ok (state, nextDefinition 0 tokens)
  else .error (.rejected "GraphQL SDL has an unsupported top-level definition")

/-- An iteration of the loop of `_summarize`, at a token. -/
def topLevel (limits : GraphQlSchemaObservationLimits) (state : SchemaState)
    (token : GraphQlToken) (tokens : List GraphQlToken) :
    Except GraphQlError (SchemaState × List GraphQlToken) :=
  if token.kind = .string then .ok (state, tokens)
  else do
    raiseIf (token.kind ≠ .name)
      (.rejected "GraphQL SDL has an invalid top-level definition")
    raiseIf (token.value ∈ executableKeywords)
      (.rejected "executable GraphQL documents are not admissible")
    if token.value = "extend" then
      match tokens with
      | keyword :: tokens => do
        raiseIf (keyword.kind ≠ .name) (.rejected "GraphQL SDL extension is invalid")
        typeSystemDefinition limits state true keyword.value tokens
      | [] => .error (.rejected "GraphQL SDL extension is invalid")
    else typeSystemDefinition limits state false token.value tokens

/-- The loop of `_summarize`; an iteration reads at least a token. -/
def walkLoop (limits : GraphQlSchemaObservationLimits) :
    ℕ → SchemaState → List GraphQlToken → Except GraphQlError SchemaState
  | _, state, [] => .ok state
  | 0, _, _ :: _ => .error .unmatched
  | n + 1, state, token :: tokens => do
    let (state, rest) ← topLevel limits state token tokens
    walkLoop limits n state rest

def walk (limits : GraphQlSchemaObservationLimits) (state : SchemaState)
    (tokens : List GraphQlToken) : Except GraphQlError SchemaState :=
  walkLoop limits tokens.length state tokens

/-- The fields of an object are joined by those of its extensions. -/
def extend : List (String × List (String × String)) → List (String × List (String × String)) →
    Except GraphQlError (List (String × List (String × String)))
  | objects, [] => .ok objects
  | objects, (name, fields) :: extensions => do
    let known ← orRaise (objects.lookup name)
      (.rejected "GraphQL SDL extends an undefined object type")
    raiseIf (∃ field ∈ fields, field.1 ∈ known.map Prod.fst)
      (.rejected "GraphQL SDL repeats an extended field")
    extend (objects.map fun entry =>
      if entry.1 = name then (name, entry.2 ++ fields) else entry) extensions

/-- `_SchemaSummary`. -/
structure SchemaSummary where
  queryRoot : String
  queryFields : List (String × String)
  typeCount : ℕ
  mutationFields : ℕ
  subscriptionFields : ℕ
  directiveUses : ℕ
  deriving DecidableEq

/-- `_ignored_root_count`. -/
def ignoredRootCount (limits : GraphQlSchemaObservationLimits)
    (objects : List (String × List (String × String))) (name : String) :
    Except GraphQlError ℕ := do
  let count := ((objects.lookup name).getD []).length
  raiseIf (limits.maxQueryFields < count)
    (.rejected "GraphQL SDL ignored root field budget exceeded")
  return count

/-- The end of `_summarize`, once the definitions are read. -/
def conclude (limits : GraphQlSchemaObservationLimits) (state : SchemaState)
    (directiveUses : ℕ) : Except GraphQlError SchemaSummary := do
  let objects ← extend state.objects state.extensions
  let queryRoot := (state.roots.lookup "query").getD "Query"
  let rootTypes := state.roots.map Prod.snd
  raiseIf ((∃ name ∈ rootTypes, objects.lookup name = none) ∨ ¬rootTypes.Nodup)
    (.rejected "GraphQL SDL schema roots are invalid")
  let queryFields := (objects.lookup queryRoot).getD []
  raiseIf (queryFields = []) (.rejected "GraphQL SDL query root is missing or empty")
  raiseIf (limits.maxQueryFields < queryFields.length)
    (.rejected "GraphQL SDL query field budget exceeded")
  let mutationFields ← ignoredRootCount limits objects
    ((state.roots.lookup "mutation").getD "Mutation")
  let subscriptionFields ← ignoredRootCount limits objects
    ((state.roots.lookup "subscription").getD "Subscription")
  return {
    queryRoot := queryRoot
    queryFields := Table.orderBy Prod.fst queryFields
    typeCount := state.typeNames.length
    mutationFields := mutationFields
    subscriptionFields := subscriptionFields
    directiveUses := directiveUses }

/-- `_summarize`. -/
def summarize (limits : GraphQlSchemaObservationLimits) (tokens : List GraphQlToken) :
    Except GraphQlError SchemaSummary := do
  let _ ← openers [] tokens
  let state ← walk limits .empty tokens
  conclude limits state (tokens.countP fun token => token.value = "@")

end GraphQlSchema

end VulnLoom

import VulnLoom.Spans
import VulnLoom.SourceWindow

/-!
# Sources for review

`_masked_lines` replaces the literals and comments of a Python file, and `select_snippet` takes
some of its lines. The parser and the tokenizer are parameters (`PythonParser`) : their
positions count lines by newlines alone (`numbering`), the parser's columns are bytes of UTF-8
and the tokenizer's are characters. `_masked_lines` looks both up in `str.splitlines`, which
also ends a line at `U+0085`, `U+2028` and `U+2029`.
-/

namespace VulnLoom

open TextLines Spans

/-! ## The parser -/

/-- The classes of `ast` that `_masked_lines` tells apart. -/
inductive NodeType
  | constant
  | joinedStr
  | templateStr
  | other
  deriving DecidableEq

/-- A node of `ast.walk`, with lines from one and columns in bytes. -/
structure Node where
  type : NodeType
  lineno : ℕ
  colOffset : ℕ
  endLineno : ℕ
  endColOffset : ℕ
  deriving DecidableEq

inductive TokenType
  | comment
  | other
  deriving DecidableEq

/-- A token of `tokenize`, with lines from one and columns in characters. -/
structure Token where
  type : TokenType
  start : ℕ × ℕ
  stop : ℕ × ℕ
  deriving DecidableEq

/-- `ast.walk(ast.parse(source))` and `tokenize.generate_tokens`, or `none` where they raise. -/
class PythonParser where
  walk : List Char → Option (List Node)
  tokens : List Char → Option (List Token)

/-- `unicodedata.category(c) in {"Cc", "Cf", "Cs"}`. -/
class ControlCategories where
  control : Char → Bool

inductive ReviewError
  | decodeError
  | syntaxError
  | osError
  | timedOut
  | rejected (reason : String)
  | scope (error : IngestionError)
  deriving DecidableEq

/-! ## Masking -/

/-- `str.encode()`. -/
def encodeUtf8 (text : List Char) : Bytes :=
  text.flatMap String.utf8EncodeChar

/-- `str.replace("\r\n", "\n")`. -/
def replaceNewlines : List Char → List Char
  | [] => []
  | '\r' :: '\n' :: cs => '\n' :: replaceNewlines cs
  | c :: cs => c :: replaceNewlines cs

/-- `str.splitlines(keepends=True)` of a text without carriage returns. -/
def splitlinesKeepends (source : List Char) : List (List Char) :=
  linesOf isLineEnd source

/-- `offsets[n]` : the bytes of the first `n` lines. -/
def offset (lines : List (List Char)) (n : ℕ) : ℕ :=
  ((lines.take n).map fun line => (encodeUtf8 line).length).sum

/-- The place of a character in bytes, from its row and its column. -/
def characterOffset (lines : List (List Char)) (row col : ℕ) : ℕ :=
  offset lines (row - 1) + (encodeUtf8 ((lines.getD (row - 1) []).take col)).length

/-- `isinstance(node, literal_types)`. -/
def Node.isLiteral (node : Node) : Bool :=
  node.type = .constant ∨ node.type = .joinedStr ∨ node.type = .templateStr

def Token.isComment (token : Token) : Bool :=
  token.type = .comment

def Node.span (lines : List (List Char)) (node : Node) : Span :=
  (offset lines (node.lineno - 1) + node.colOffset,
    offset lines (node.endLineno - 1) + node.endColOffset)

def Token.span (lines : List (List Char)) (token : Token) : Span :=
  (characterOffset lines token.start.1 token.start.2,
    characterOffset lines token.stop.1 token.stop.2)

/-- The spans of the literals and the comments, by some lines of the source. -/
def maskedSpans (lines : List (List Char)) (nodes : List Node) (tokens : List Token) :
    List Span :=
  (nodes.filter Node.isLiteral).map (Node.span lines) ++
    (tokens.filter Token.isComment).map (Token.span lines)

/-- `sorted`, of pairs. -/
def sortSpans (spans : List Span) : List Span :=
  spans.insertionSort fun s t => s.1 < t.1 ∨ s.1 = t.1 ∧ s.2 ≤ t.2

/-- `[REDACTED]`. -/
def reviewMask : List Char :=
  "[REDACTED]".toList

/-- The replacement of what a span holds. -/
def replacement (piece : Bytes) : Bytes :=
  [10].intercalate ((piece.splitOn 10).map fun p => if p = [] then [] else encodeUtf8 reviewMask)

/-- The spans that are replaced, the last one first. -/
def replacedSpans (source : List Char) (nodes : List Node) (tokens : List Token) : List Span :=
  merge (sortSpans (maskedSpans (splitlinesKeepends source) nodes tokens))

/-- `encoded`, after the loops. -/
def maskedBytes (source : List Char) (nodes : List Node) (tokens : List Token) : Bytes :=
  (replacedSpans source nodes tokens).foldl (splice replacement) (encodeUtf8 source)

/-- The source has a control character other than a newline or a tab. -/
def hasControls (source : List Char) : Bool :=
  source.any fun c => c = '\r' ∨ (c.toNat < 32 ∧ c ≠ '\n' ∧ c ≠ '\t')

section

variable [PythonParser] [PythonAlnum]

/-- `_masked_lines`; `check n` is the check of the clock made for the time `n`. -/
def maskedLines (raw : Bytes) (check : ℕ → Except ReviewError Unit) :
    Except ReviewError (List String) := do
  let decoded ← orRaise (decodeUtf8 raw) .decodeError
  let source := replaceNewlines decoded.toList
  raiseIf (hasControls source) (.rejected "review source control characters rejected")
  let nodes ← orRaise (PythonParser.walk source) .syntaxError
  let tokens ← orRaise (PythonParser.tokens source) .syntaxError
  (List.range (nodes.length + tokens.length + 1)).forM check
  let masked ← orRaise (decodeUtf8 (maskedBytes source nodes tokens)) .decodeError
  return (splitlines masked).map fun line => Redactor.default.text (String.ofList line)

end

/-! ## Snippets -/

structure ReviewLine where
  number : ℕ
  text : String

/-- A snippet, of which `snippet_id` is the digest of the other fields. -/
structure CodeReviewSnippet where
  snapshotId : Digest
  targetId : UUID
  pathDigest : Digest
  fileDigest : Digest
  redactionPolicy : String
  lines : List ReviewLine

section

variable [PythonAlnum] [ControlCategories]

/-- What `ReviewLine` is validated for. -/
def ReviewLine.check (line : ReviewLine) : Except ReviewError Unit := do
  raiseIf (¬(1 ≤ line.number ∧ line.number ≤ 65536) ∨ 2048 < line.text.length)
    (.rejected "ReviewLine fields")
  raiseIf (∃ c ∈ line.text.toList, ControlCategories.control c ∧ c ≠ '\t')
    (.rejected "review line control characters rejected")
  raiseIf (Redactor.default.text line.text ≠ line.text) (.rejected "review line is not redacted")

/-- `str.strip` leaves something. -/
def hasText (text : String) : Bool :=
  text.toList.any fun c => !isSpace c

/-- What `CodeReviewSnippet` is validated for. -/
def CodeReviewSnippet.check (snippet : CodeReviewSnippet) : Except ReviewError Unit := do
  raiseIf (snippet.redactionPolicy ≠ "python-literals-comments-v1" ∨
      ¬(1 ≤ snippet.lines.length ∧ snippet.lines.length ≤ 80))
    (.rejected "CodeReviewSnippet fields")
  let numbers := snippet.lines.map ReviewLine.number
  raiseIf (numbers ≠ List.range' (numbers.headD 0) numbers.length)
    (.rejected "review line numbers must be contiguous")
  raiseIf (12000 < (snippet.lines.map fun line => line.text.utf8ByteSize).sum)
    (.rejected "review snippet over budget")
  raiseIf (¬snippet.lines.any fun line => hasText line.text) (.rejected "empty review snippet")

end

/-- `_parts`. -/
def reviewParts (path : String) : Except ReviewError (List String) := do
  let parts := posixParts path
  raiseIf (path.startsWith "/" ∨ asPosix parts ≠ path ∨
      ∃ part ∈ parts, part = "" ∨ part = "." ∨ part = "..")
    (.rejected "review path rejected")
  raiseIf (parts = [] ∨ '\\' ∈ path.toList) (.rejected "review path rejected")
  return parts

/-- `_read`, with what is found beneath the root. -/
def readReview (root : List String → SourceFile) (path : String) : Except ReviewError Bytes := do
  let parts ← reviewParts path
  match root parts with
  | .missing => .error .osError
  | .irregular => .error (.rejected "review file type or size rejected")
  | .regular _ content => do
    raiseIf (65536 < content.length) (.rejected "review file type or size rejected")
    return content

/-- What `select_snippet` is given. -/
structure Selection where
  root : List String → SourceFile
  snapshot : TargetSnapshot
  scope : Scope
  path : String
  startLine : ℕ
  endLine : ℕ
  now : Time

section

variable [PythonParser] [PythonAlnum] [ControlCategories] [PythonUrl] [CanonicalDigest String]
  [IngestionDigests]

/-- `check` of `select_snippet`, the time `n`; `clock` gives what the readings of the clock
give, the one of the start first. -/
def checkClock (clock : ℕ → Time) (n : ℕ) : Except ReviewError Unit :=
  raiseIf (clock 0 + 2000000 ≤ clock (n + 1)) .timedOut

/-- The numbered lines of a selection. -/
def numberLines (lines : List String) (start stop : ℕ) : List ReviewLine :=
  (List.range' start (stop + 1 - start)).map fun i => ⟨i, lines.getD (i - 1) ""⟩

/-- `select_snippet`. -/
def selectSnippet (clock : ℕ → Time) (selection : Selection) :
    Except ReviewError CodeReviewSnippet := do
  let path := selection.path
  (requireSnapshotScope selection.snapshot selection.scope selection.now).mapError .scope
  let _ ← reviewParts path
  raiseIf (¬path.endsWith ".py" ∨ ¬(1 ≤ selection.startLine ∧
      selection.startLine ≤ selection.endLine ∧ selection.endLine ≤ 65536))
    (.rejected "review selection rejected")
  raiseIf (80 ≤ selection.endLine - selection.startLine)
    (.rejected "review selection over budget or unavailable")
  let rootRef ← orRaise selection.snapshot.rootRef
    (.rejected "review selection over budget or unavailable")
  let selected := selection.snapshot.manifest.files.filter fun file => file.path = path
  raiseIf (selected.length ≠ 1) (.rejected "review file is not a bounded snapshot member")
  let file ← orRaise selected.head? (.rejected "review file is not a bounded snapshot member")
  raiseIf (65536 < file.size) (.rejected "review file is not a bounded snapshot member")
  let _ ← reviewParts rootRef
  let raw ← readReview selection.root (rootRef ++ "/" ++ path)
  raiseIf (raw.length ≠ file.size ∨ IngestionDigests.sha256 raw ≠ file.sha256)
    (.rejected "review source integrity mismatch")
  checkClock clock 0
  let lines ← maskedLines raw fun n => checkClock clock (n + 1)
  raiseIf (lines.length < selection.endLine)
    (.rejected "review selection exceeds source lines")
  let numbered := numberLines lines selection.startLine selection.endLine
  numbered.forM ReviewLine.check
  let snippet : CodeReviewSnippet := {
    snapshotId := selection.snapshot.manifest.manifestId
    targetId := selection.snapshot.target.targetId
    pathDigest := canonicalDigest path
    fileDigest := file.sha256
    redactionPolicy := "python-literals-comments-v1"
    lines := numbered }
  snippet.check
  return snippet

end

end VulnLoom

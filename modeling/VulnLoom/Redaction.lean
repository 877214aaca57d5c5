import VulnLoom.Regex
import VulnLoom.Basic

/-!
# Redaction

`Redactor.text` replaces the registered values of a text, then what six patterns match, one
after the other. The patterns are those of the source; `str.isalnum` outside ASCII is a
parameter (`PythonAlnum`), and no result assumes anything of it.
-/

namespace VulnLoom

/-! ## Letters -/

/-- `str.isalnum` of a character outside ASCII. -/
class PythonAlnum where
  isalnum : Char → Bool

/-- No character outside ASCII is a letter or a digit. -/
@[reducible] def asciiAlnum : PythonAlnum where
  isalnum _ := false

/-- The word characters `\w`. -/
def isWord [PythonAlnum] (c : Char) : Bool :=
  c.isAlphanum || c = '_' || (127 < c.toNat && PythonAlnum.isalnum c)

/-- The whitespace characters `\s`. -/
def isSpace (c : Char) : Bool :=
  let n := c.toNat
  (9 ≤ n && n ≤ 13) || (28 ≤ n && n ≤ 32) || n = 0x85 || n = 0xa0 || n = 0x1680 ||
    (0x2000 ≤ n && n ≤ 0x200a) || n = 0x2028 || n = 0x2029 || n = 0x202f || n = 0x205f ||
    n = 0x3000

/-- The letter that a character outside ASCII matches under `re.IGNORECASE`. -/
def foldLetter (c : Char) : Char :=
  if c.toNat = 0x130 ∨ c.toNat = 0x131 then 'i'
  else if c.toNat = 0x17f then 's'
  else if c.toNat = 0x212a then 'k'
  else c.toLower

/-! ## Patterns -/

open Regex

/-- A text, in either case. -/
def caseless (s : String) : Regex Char :=
  s.toList.foldr (fun c r => .seq (.letter fun d => foldLetter d = c) r) .empty

def exactly (s : List Char) : Regex Char :=
  s.foldr (fun c r => .seq (.letter fun d => d = c) r) .empty

def optional (r : Regex Char) : Regex Char :=
  .alt r .empty

def spaces : Regex Char :=
  .many isSpace 0 true

def oneOf (s : String) : Regex Char :=
  .letter fun c => c ∈ s.toList

def sequence (rs : List (Regex Char)) : Regex Char :=
  rs.foldr .seq .empty

/-- Alternatives, of which the first is tried first. -/
def choice : Regex Char → List (Regex Char) → Regex Char
  | r, [] => r
  | r, r' :: rs => .alt r (choice r' rs)

/-- `api[_-]?key`. -/
def joined (first last : String) : Regex Char :=
  sequence [caseless first, optional (oneOf "_-"), caseless last]

/-- `session(?:[_-]?id)?`. -/
def extended (first last : String) : Regex Char :=
  sequence [caseless first, optional (.seq (optional (oneOf "_-")) (caseless last))]

/-- The letters of a class with ASCII letters, digits and some others. -/
def alnumOr (others : String) (c : Char) : Bool :=
  c.isAlphanum || c ∈ others.toList

/-- The same class under `re.IGNORECASE`. -/
def caselessAlnumOr (others : String) (c : Char) : Bool :=
  (foldLetter c).isAlphanum || c ∈ others.toList

def caselessAlpha (c : Char) : Bool :=
  (foldLetter c).isAlpha

namespace Redactor

def placeholder : List Char :=
  "[REDACTED]".toList

variable [PythonAlnum]

/-- A pattern with a group, which the substitution keeps. -/
def keeping (group body : Regex Char) (h : body.consumes = true) : Substitution isWord where
  group := group
  body := body
  replace g _ := g ++ placeholder
  consumes := h

/-- A pattern without a group. -/
def dropping (body : Regex Char) (h : body.consumes = true) : Substitution isWord :=
  keeping .empty body h

def quotedKey : Regex Char :=
  choice (caseless "authorization") [caseless "cookie", caseless "token", joined "access" "token",
    joined "api" "key", caseless "x-api-key", caseless "secret", joined "client" "secret",
    caseless "password", caseless "passwd", joined "private" "key", caseless "credential",
    extended "session" "id", extended "csrf" "token"]

def bareKey : Regex Char :=
  choice (joined "api" "key") [caseless "x-api-key", joined "access" "token",
    joined "client" "secret", caseless "password", caseless "credential",
    extended "session" "id", extended "csrf" "token"]

def quotedPattern : Substitution isWord :=
  keeping (sequence [oneOf "\"'", quotedKey, oneOf "\"'", spaces, oneOf ":", spaces, oneOf "\"'"])
    (.many (fun c => c ∉ "\"'".toList) 1 true) rfl

def authorizationPattern : Substitution isWord :=
  keeping (sequence [caseless "authorization", spaces, oneOf ":", spaces,
      .alt (caseless "bearer") (caseless "basic"), .many isSpace 1 true])
    (.many (fun c => !isSpace c && c ∉ ",;".toList) 1 true) rfl

def keyValuePattern : Substitution isWord :=
  keeping (sequence [bareKey, spaces, oneOf "=:", spaces])
    (.many (fun c => !isSpace c && c ∉ ",;&".toList) 1 true) rfl

def skPattern : Substitution isWord :=
  dropping (sequence [.boundary, exactly "sk-".toList, .many (alnumOr "_-") 12 true, .boundary])
    (by decide)

/-- `-----BEGIN [A-Z ]*PRIVATE KEY-----`, or with `END`. -/
def privateKeyLabel (edge : String) : Regex Char :=
  sequence [exactly "-----".toList, exactly edge.toList, exactly " ".toList,
    .many (fun c => c.isUpper || c = ' ') 0 true, exactly "PRIVATE KEY-----".toList]

def privateKeyPattern : Substitution isWord :=
  dropping (sequence [privateKeyLabel "BEGIN", .many (fun _ => true) 0 false,
    privateKeyLabel "END"]) (by decide)

def emailPattern : Substitution isWord :=
  dropping (sequence [.boundary, .many (caselessAlnumOr "._%+-") 1 true, oneOf "@",
    .many (caselessAlnumOr ".-") 1 true, oneOf ".", .many caselessAlpha 2 true, .boundary])
    (by decide)

/-- `_patterns`. -/
def patterns : List (Substitution isWord) :=
  [quotedPattern, authorizationPattern, keyValuePattern, skPattern, privateKeyPattern,
    emailPattern]

end Redactor

/-- A redactor with its registered values, the longest first. -/
structure Redactor where
  sensitiveVariants : List (Char × List Char)

namespace Redactor

/-- `Redactor()`. -/
def default : Redactor where
  sensitiveVariants := []

variable [PythonAlnum] (redactor : Redactor)

/-- `str.replace` of a registered value. -/
def literalPattern (value : Char × List Char) : Substitution isWord :=
  dropping (.seq (.letter fun d => d = value.1) (exactly value.2)) rfl

/-- What a text goes through. -/
def passes : List (Substitution isWord) :=
  redactor.sensitiveVariants.map literalPattern ++ patterns

/-- `Redactor.text`, over the characters of the text. -/
def redact (value : List Char) : List Char :=
  redactor.passes.foldl (fun result pass => pass.apply result) value

def text (value : String) : String :=
  String.ofList (redactor.redact value.toList)

variable {redactor}

/-- Each pass puts the placeholder after the group of a match. -/
theorem replace_of_mem {pass : Substitution isWord} (h : pass ∈ redactor.passes) :
    pass.replace = fun g _ => g ++ placeholder := by
  rcases List.mem_append.1 h with h | h
  · obtain ⟨value, -, rfl⟩ := List.mem_map.1 h
    rfl
  · simp only [patterns, List.mem_cons, List.not_mem_nil, or_false] at h
    rcases h with rfl | rfl | rfl | rfl | rfl | rfl <;> rfl

end Redactor

end VulnLoom

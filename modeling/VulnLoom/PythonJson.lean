import VulnLoom.Doubles
import Mathlib.Data.List.Sort

/-!
# JSON as Python reads and writes it

`json.loads` and `json.dumps` on texts that are lists of code points, lone surrogates included.
Every `ValueError` is one error; a container that is nested too deep is a `RecursionError`, and
whichever comes first in the text is raised. The budget of nested containers, the longest decimal
integer and the shortest form of a float belong to the interpreter.
-/

namespace PythonJson

/-! ## Values -/

/-- A text, by its code points. -/
abbrev Text := List ℕ

def text (s : String) : Text :=
  s.toList.map Char.toNat

inductive Float64
  | finite (value : ℚ)
  | infinite (negative : Bool)
  | nan
  deriving DecidableEq

inductive Json
  | null
  | bool (value : Bool)
  | int (value : ℤ)
  | float (value : Float64)
  | str (value : Text)
  | arr (items : List Json)
  | obj (members : List (Text × Json))
  /-- an object that `json` has no form for -/
  | other

structure Interpreter where
  /-- how many containers may be nested -/
  nesting : ℕ
  /-- `sys.get_int_max_str_digits()` -/
  maxStrDigits : ℕ
  /-- `float.__repr__` of a finite number -/
  floatRepr : ℚ → Text

/-- `dict.get` -/
def get (members : List (Text × Json)) (name : String) : Option Json :=
  (members.find? fun m => m.1 = text name).map Prod.snd

def keys (members : List (Text × Json)) : List Text :=
  members.map Prod.fst

def isSurrogate (c : ℕ) : Bool :=
  0xD800 ≤ c ∧ c ≤ 0xDFFF

def isHighSurrogate (c : ℕ) : Bool :=
  0xD800 ≤ c ∧ c ≤ 0xDBFF

def isLowSurrogate (c : ℕ) : Bool :=
  0xDC00 ≤ c ∧ c ≤ 0xDFFF

def joinSurrogates (high low : ℕ) : ℕ :=
  0x10000 + (high - 0xD800) * 0x400 + (low - 0xDC00)

/-! ## Floats -/

/-- A number that is not negative, rounded to a double. -/
def roundFloat (q : ℚ) : ℚ :=
  if q = 0 then 0
  else if q < 1 / 2 ^ 1022 then Doubles.roundHalfEven (q * 2 ^ 1074) / 2 ^ 1074
  else Doubles.toDouble q

/-- The double of a decimal. -/
def ofDecimal (negative : Bool) (mantissa : ℕ) (exponent : ℤ) : Float64 :=
  let value := roundFloat (mantissa * (10 : ℚ) ^ exponent)
  if 2 ^ 1024 ≤ value then .infinite negative
  else .finite (if negative then -value else value)

/-! ## Reading -/

inductive LoadsError
  /-- `ValueError`, `JSONDecodeError` and `UnicodeDecodeError` included -/
  | value
  | recursion
  deriving DecidableEq

abbrev Scanner (α : Type) := Text → Except LoadsError (α × Text)

def isBlank (c : ℕ) : Bool :=
  c = 32 ∨ c = 9 ∨ c = 10 ∨ c = 13

def skip (s : Text) : Text :=
  s.dropWhile isBlank

def isDigit (c : ℕ) : Bool :=
  48 ≤ c ∧ c ≤ 57

def hexValue (c : ℕ) : Option ℕ :=
  if isDigit c then some (c - 48)
  else if 97 ≤ c ∧ c ≤ 102 then some (c - 87)
  else if 65 ≤ c ∧ c ≤ 70 then some (c - 55)
  else none

/-- The code point of four hexadecimal digits. -/
def hexCode (digits : Text) : Option ℕ :=
  digits.foldlM (fun n c => (hexValue c).map (16 * n + ·)) 0

/-- The escapes of one letter. -/
def shortEscape (c : ℕ) : Option ℕ :=
  (([(34, 34), (92, 92), (47, 47), (98, 8), (102, 12), (110, 10), (114, 13), (116, 9)] :
    List (ℕ × ℕ)).find? fun e => e.1 = c).map Prod.snd

/-- An escaped code unit before what follows it : a surrogate pair of two escapes is one code
point. -/
def prependUnit (unit : ℕ) (following : Text) : Text → Text
  | low :: s =>
    if isHighSurrogate unit ∧ isLowSurrogate low ∧ following.take 2 = text "\\u" then
      joinSurrogates unit low :: s
    else unit :: low :: s
  | [] => [unit]

/-- The rest of a string, after its opening quotation mark. -/
def scanString : Text → Option (Text × Text)
  | [] => none
  | c :: s =>
    if c = 34 then some ([], s)
    else if c = 92 then
      match s with
      | [] => none
      | e :: s =>
        if e = 117 then
          match s with
          | a :: b :: c :: d :: s => do
            let unit ← hexCode [a, b, c, d]
            let (string, rest) ← scanString s
            return (prependUnit unit s string, rest)
          | _ => none
        else do
          let char ← shortEscape e
          let (string, rest) ← scanString s
          return (char :: string, rest)
    else if c < 32 then none
    else (scanString s).map fun (string, rest) => (c :: string, rest)

def number (digits : Text) : ℕ :=
  digits.foldl (fun n c => 10 * n + (c - 48)) 0

/-- The fraction of a number, without its point : none where no digit follows the point. -/
def scanFraction : Text → Text × Text
  | c :: s => if c = 46 ∧ (s.head?.any isDigit) then (s.takeWhile isDigit, s.dropWhile isDigit)
    else ([], c :: s)
  | [] => ([], [])

/-- The digits of an exponent after its sign. -/
def scanExponentDigits (negative : Bool) (s : Text) : Option (ℤ × Text) :=
  if s.head?.any isDigit then
    some (if negative then -(number (s.takeWhile isDigit) : ℤ) else number (s.takeWhile isDigit),
      s.dropWhile isDigit)
  else none

def scanExponent : Text → Option (ℤ × Text)
  | c :: s =>
    if c = 101 ∨ c = 69 then
      match s with
      | sign :: s' =>
        if sign = 45 then scanExponentDigits true s'
        else if sign = 43 then scanExponentDigits false s'
        else scanExponentDigits false s
      | [] => none
    else none
  | [] => none

/-- The digits before the point : no leading zero. -/
def scanInteger : Text → Option (Text × Text)
  | c :: s => if c = 48 then some ([c], s)
    else if isDigit c then some ((c :: s).takeWhile isDigit, (c :: s).dropWhile isDigit)
    else none
  | [] => none

/-- The number of the digits before and after the point, and of an exponent. -/
def numberOf (py : Interpreter) (negative : Bool) (digits fraction : Text) :
    Option ℤ → Except LoadsError Json
  | some exponent => .ok (.float (ofDecimal negative (number (digits ++ fraction))
      (exponent - fraction.length)))
  | none =>
    if fraction ≠ [] then
      .ok (.float (ofDecimal negative (number (digits ++ fraction)) (-(fraction.length : ℤ))))
    else if py.maxStrDigits < digits.length then .error .value
    else .ok (.int (if negative then -(number digits : ℤ) else number digits))

/-- The fraction and the exponent after the digits of a number, and what follows it. -/
def scanTail (s : Text) : Text × Option ℤ × Text :=
  match scanExponent (scanFraction s).2 with
  | none => ((scanFraction s).1, none, (scanFraction s).2)
  | some (exponent, rest) => ((scanFraction s).1, some exponent, rest)

/-- `_match_number_unicode`. -/
def scanNumber (py : Interpreter) : Scanner Json := fun s =>
  match scanInteger (if s.head? = some 45 then s.tail else s) with
  | none => .error .value
  | some (digits, rest) =>
    (numberOf py (s.head? = some 45) digits (scanTail rest).1 (scanTail rest).2.1).map fun n =>
      (n, (scanTail rest).2.2)

/-- A constant, or a number. -/
def scanPlain (py : Interpreter) : Scanner Json := fun s =>
  if s.take 4 = text "null" then .ok (.null, s.drop 4)
  else if s.take 4 = text "true" then .ok (.bool true, s.drop 4)
  else if s.take 5 = text "false" then .ok (.bool false, s.drop 5)
  else if s.take 3 = text "NaN" then .ok (.float .nan, s.drop 3)
  else if s.take 8 = text "Infinity" then .ok (.float (.infinite false), s.drop 8)
  else if s.take 9 = text "-Infinity" then .ok (.float (.infinite true), s.drop 9)
  else scanNumber py s

/-- The items of a container up to its closing bracket, at most `n` of them. -/
def scanSeries {α : Type} (closing : ℕ) (item : Scanner α) : ℕ → Scanner (List α)
  | 0, _ => .error .value
  | n + 1, s => do
    let (first, s) ← item s
    match skip s with
    | [] => .error .value
    | c :: s =>
      if c = closing then return ([first], s)
      else if c = 44 then do
        let (items, s) ← scanSeries closing item n (skip s)
        return (first :: items, s)
      else .error .value

/-- `_parse_array_unicode`, after the bracket. -/
def scanArray (value : Scanner Json) : Scanner Json := fun s =>
  if (skip s).head? = some 93 then .ok (.arr [], (skip s).tail)
  else (scanSeries 93 value (skip s).length (skip s)).map fun (items, s) => (.arr items, s)

/-- A member of an object. -/
def scanMember (value : Scanner Json) : Scanner (Text × Json) := fun s =>
  match s with
  | [] => .error .value
  | c :: s =>
    if c = 34 then
      match scanString s with
      | none => .error .value
      | some (key, s) =>
        if (skip s).head? = some 58 then
          (value (skip (skip s).tail)).map fun (item, s) => ((key, item), s)
        else .error .value
    else .error .value

/-- `_parse_object_unicode`, after the brace, with a hook that refuses a repeated key. -/
def scanObject (value : Scanner Json) : Scanner Json := fun s =>
  if (skip s).head? = some 125 then .ok (.obj [], (skip s).tail)
  else do
    let (members, s) ← scanSeries 125 (scanMember value) (skip s).length (skip s)
    if (keys members).Nodup then return (.obj members, s) else .error .value

/-- `scan_once`, by the scanners of an array and an object. -/
def scanOne (py : Interpreter) (array object : Scanner Json) : Scanner Json := fun s =>
  match s with
  | [] => .error .value
  | c :: rest =>
    if c = 34 then
      match scanString rest with
      | none => .error .value
      | some (string, rest) => .ok (.str string, rest)
    else if c = 91 then array rest
    else if c = 123 then object rest
    else scanPlain py s

/-- `scan_once` with so many nested containers left. -/
def scanOnce (py : Interpreter) : ℕ → Scanner Json
  | 0 => scanOne py (fun _ => .error .recursion) (fun _ => .error .recursion)
  | n + 1 => scanOne py (scanArray (scanOnce py n)) (scanObject (scanOnce py n))

/-- `JSONDecoder.decode`. -/
def decode (py : Interpreter) (s : Text) : Except LoadsError Json := do
  let (value, rest) ← scanOnce py py.nesting (skip s)
  if skip rest = [] then return value else .error .value

/-! ## Bytes -/

/-- The code point of a sequence of UTF-8, with lone surrogates let through. -/
def utf8Code : List ℕ → Option ℕ
  | [a] => if a ≤ 0x7F then some a else none
  | [a, b] =>
    if 0xC2 ≤ a ∧ a ≤ 0xDF ∧ 0x80 ≤ b ∧ b ≤ 0xBF then some ((a - 0xC0) * 0x40 + (b - 0x80))
    else none
  | [a, b, c] =>
    if 0xE0 ≤ a ∧ a ≤ 0xEF ∧ (if a = 0xE0 then 0xA0 else 0x80) ≤ b ∧ b ≤ 0xBF ∧
        0x80 ≤ c ∧ c ≤ 0xBF then
      some ((a - 0xE0) * 0x1000 + (b - 0x80) * 0x40 + (c - 0x80))
    else none
  | [a, b, c, d] =>
    if 0xF0 ≤ a ∧ a ≤ 0xF4 ∧ (if a = 0xF0 then 0x90 else 0x80) ≤ b ∧
        b ≤ (if a = 0xF4 then 0x8F else 0xBF) ∧ 0x80 ≤ c ∧ c ≤ 0xBF ∧ 0x80 ≤ d ∧ d ≤ 0xBF then
      some ((a - 0xF0) * 0x40000 + (b - 0x80) * 0x1000 + (c - 0x80) * 0x40 + (d - 0x80))
    else none
  | _ => none

/-- How many bytes a first byte of UTF-8 announces. -/
def utf8Width (a : ℕ) : ℕ :=
  if a ≤ 0x7F then 1 else if a ≤ 0xDF then 2 else if a ≤ 0xEF then 3 else 4

/-- Code points of one width each, read one after the other, at most `n` of them. -/
def readUnits (width : ℕ → ℕ) (code : List ℕ → Option ℕ) : ℕ → List ℕ → Option Text
  | _, [] => some []
  | 0, _ :: _ => none
  | n + 1, a :: bytes => do
    let unit ← code ((a :: bytes).take (width a))
    let rest ← readUnits width code n ((a :: bytes).drop (width a))
    return unit :: rest

/-- The number of a code unit, most significant byte first. -/
def bigEndian (width : ℕ) (bytes : List ℕ) : Option ℕ :=
  if bytes.length = width then some (bytes.foldl (fun n b => 256 * n + b) 0) else none

def littleEndian (width : ℕ) (bytes : List ℕ) : Option ℕ :=
  bigEndian width bytes.reverse

/-- The surrogate pairs among UTF-16 units are code points. -/
def joinUnits : List ℕ → Text
  | high :: low :: s =>
    if isHighSurrogate high ∧ isLowSurrogate low then joinSurrogates high low :: joinUnits s
    else high :: joinUnits (low :: s)
  | s => s

def decodeUtf8 (bytes : List ℕ) : Option Text :=
  readUnits utf8Width utf8Code bytes.length bytes

def decodeUtf16 (unit : ℕ → List ℕ → Option ℕ) (bytes : List ℕ) : Option Text :=
  (readUnits (fun _ => 2) (unit 2) bytes.length bytes).map joinUnits

def decodeUtf32 (unit : ℕ → List ℕ → Option ℕ) (bytes : List ℕ) : Option Text := do
  let codes ← readUnits (fun _ => 4) (unit 4) bytes.length bytes
  if codes.all fun c => c ≤ 0x10FFFF then return codes else none

/-- `json.detect_encoding`, and the decoder of the encoding. -/
def decodeBytes (bytes : List ℕ) : Option Text :=
  if bytes.take 4 = [0, 0, 0xFE, 0xFF] then decodeUtf32 bigEndian (bytes.drop 4)
  else if bytes.take 4 = [0xFF, 0xFE, 0, 0] then decodeUtf32 littleEndian (bytes.drop 4)
  else if bytes.take 2 = [0xFE, 0xFF] then decodeUtf16 bigEndian (bytes.drop 2)
  else if bytes.take 2 = [0xFF, 0xFE] then decodeUtf16 littleEndian (bytes.drop 2)
  else if bytes.take 3 = [0xEF, 0xBB, 0xBF] then decodeUtf8 (bytes.drop 3)
  else match bytes with
    | a :: b :: c :: d :: _ =>
      if a = 0 then (if b = 0 then decodeUtf32 else decodeUtf16) bigEndian bytes
      else if b = 0 then
        (if c = 0 ∧ d = 0 then decodeUtf32 else decodeUtf16) littleEndian bytes
      else decodeUtf8 bytes
    | [a, b] =>
      if a = 0 then decodeUtf16 bigEndian bytes
      else if b = 0 then decodeUtf16 littleEndian bytes
      else decodeUtf8 bytes
    | _ => decodeUtf8 bytes

/-- `json.loads` of a text. -/
def loads (py : Interpreter) (s : Text) : Except LoadsError Json :=
  if s.head? = some 0xFEFF then .error .value else decode py s

/-- `json.loads` of bytes. -/
def loadsBytes (py : Interpreter) (bytes : List ℕ) : Except LoadsError Json :=
  match decodeBytes bytes with
  | none => .error .value
  | some s => decode py s

/-! ## Writing -/

inductive DumpsError
  /-- `TypeError` or `ValueError` -/
  | value
  | recursion
  deriving DecidableEq

def hexDigit (n : ℕ) : ℕ :=
  if n < 10 then 48 + n else 87 + n

/-- A code point in a string, with `ensure_ascii=False`. -/
def escape (c : ℕ) : Text :=
  if c = 34 then text "\\\"" else if c = 92 then text "\\\\"
  else if c = 10 then text "\\n" else if c = 13 then text "\\r" else if c = 9 then text "\\t"
  else if c = 12 then text "\\f" else if c = 8 then text "\\b"
  else if c < 32 then text "\\u00" ++ [hexDigit (c / 16), hexDigit (c % 16)]
  else [c]

def dumpsString (s : Text) : Text :=
  34 :: s.flatMap escape ++ [34]

def dumpsInt (py : Interpreter) (value : ℤ) : Except DumpsError Text :=
  let digits := (Nat.toDigits 10 value.natAbs).map Char.toNat
  if py.maxStrDigits < digits.length then .error .value
  else .ok (if value < 0 then 45 :: digits else digits)

def dumpsFloat (py : Interpreter) : Float64 → Text
  | .finite value => py.floatRepr value
  | .infinite negative => if negative then text "-Infinity" else text "Infinity"
  | .nan => text "NaN"

/-- The order of texts by their code points. -/
def textLe (a b : Text) : Bool :=
  ¬List.lex b a

/-- `json.dumps` without blanks, with sorted keys, and so many nested containers left. -/
def dumps (py : Interpreter) : ℕ → Json → Except DumpsError Text
  | _, .null => .ok (text "null")
  | _, .bool value => .ok (text (if value then "true" else "false"))
  | _, .int value => dumpsInt py value
  | _, .float value => .ok (dumpsFloat py value)
  | _, .str value => .ok (dumpsString value)
  | _, .other => .error .value
  | 0, .arr _ => .error .recursion
  | 0, .obj _ => .error .recursion
  | n + 1, .arr items => do
    let texts ← items.mapM (dumps py n)
    return 91 :: [44].intercalate texts ++ [93]
  | n + 1, .obj members => do
    let texts ← (members.insertionSort fun a b => textLe a.1 b.1).mapM fun m => do
      let value ← dumps py n m.2
      return dumpsString m.1 ++ 58 :: value
    return 123 :: [44].intercalate texts ++ [125]

/-- The bytes of a code point in UTF-8. -/
def utf8Size (c : ℕ) : ℕ :=
  if c ≤ 0x7F then 1 else if c ≤ 0x7FF then 2 else if c ≤ 0xFFFF then 3 else 4

/-- `len(s.encode("utf-8"))`; `none` is a `UnicodeEncodeError`. -/
def utf8Length (s : Text) : Option ℕ :=
  if s.any isSurrogate then none else some (s.map utf8Size).sum

end PythonJson

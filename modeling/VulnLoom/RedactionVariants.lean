import Mathlib.Data.List.DropRight
import VulnLoom.Redaction

/-!
# Registered values

`Redactor.init` checks the sensitive values and registers each with its encodings, the longest
first. Python iterates over a set in no order that is specified (`SetOrder`).
-/

namespace VulnLoom

/-- The order in which a set of texts is iterated over. -/
class SetOrder where
  arrange : List (List Char) → List (List Char)
  mem_arrange : ∀ {texts s}, s ∈ arrange texts ↔ s ∈ texts
  nodup_arrange : ∀ texts, (arrange texts).Nodup

/-- A set that is iterated over as its members were added last. -/
@[reducible] def lastAdded : SetOrder where
  arrange := List.dedup
  mem_arrange := List.mem_dedup
  nodup_arrange := List.nodup_dedup

namespace Redactor

/-! ## Encodings -/

/-- `value.encode("utf-8")`. -/
def encode (value : String) : List UInt8 :=
  value.toList.flatMap String.utf8EncodeChar

def hexDigit (upper : Bool) (n : ℕ) : Char :=
  if n < 10 then Char.ofNat (48 + n) else Char.ofNat ((if upper then 55 else 87) + n)

def hexByte (upper : Bool) (b : UInt8) : List Char :=
  [hexDigit upper (b.toNat / 16), hexDigit upper (b.toNat % 16)]

/-- `quote(value, safe="")`. -/
def quote (value : String) : List Char :=
  (encode value).flatMap fun b =>
    if (Char.ofNat b.toNat).isAlphanum || Char.ofNat b.toNat ∈ "_.-~".toList then
      [Char.ofNat b.toNat]
    else '%' :: hexByte true b

/-- The digit of six bits, with the two that differ between the alphabets. -/
def base64Digit (last : Char × Char) (n : ℕ) : Char :=
  if n < 26 then Char.ofNat (65 + n)
  else if n < 52 then Char.ofNat (71 + n)
  else if n < 62 then Char.ofNat (n - 4)
  else if n = 62 then last.1
  else last.2

/-- `base64.b64encode`, or `base64.urlsafe_b64encode`. -/
def b64encode (last : Char × Char) : List UInt8 → List Char
  | [] => []
  | [a] =>
    let n := a.toNat * 16
    [base64Digit last (n / 64), base64Digit last (n % 64), '=', '=']
  | [a, b] =>
    let n := (a.toNat * 256 + b.toNat) * 4
    [base64Digit last (n / 4096), base64Digit last (n / 64 % 64), base64Digit last (n % 64), '=']
  | a :: b :: c :: rest =>
    let n := (a.toNat * 256 + b.toNat) * 256 + c.toNat
    base64Digit last (n / 262144) :: base64Digit last (n / 4096 % 64) ::
      base64Digit last (n / 64 % 64) :: base64Digit last (n % 64) :: b64encode last rest

/-- `rstrip("=")`. -/
def rstripEquals (s : List Char) : List Char :=
  s.rdropWhile (· = '=')

/-- A unit of UTF-16 in a JSON text. -/
def unicodeEscape (n : ℕ) : List Char :=
  ['\\', 'u', hexDigit false (n / 4096), hexDigit false (n / 256 % 16),
    hexDigit false (n / 16 % 16), hexDigit false (n % 16)]

/-- A character of a JSON text, in ASCII. -/
def jsonEscape (c : Char) : List Char :=
  if c = '"' then "\\\"".toList
  else if c = '\\' then "\\\\".toList
  else if c = '\n' then "\\n".toList
  else if c = '\r' then "\\r".toList
  else if c = '\t' then "\\t".toList
  else if c.toNat = 12 then "\\f".toList
  else if c.toNat = 8 then "\\b".toList
  else if 32 ≤ c.toNat ∧ c.toNat ≤ 126 then [c]
  else if c.toNat < 65536 then unicodeEscape c.toNat
  else unicodeEscape (55296 + (c.toNat - 65536) / 1024) ++
    unicodeEscape (56320 + (c.toNat - 65536) % 1024)

/-- `json.dumps(value, ensure_ascii=True)[1:-1]`. -/
def jsonText (value : String) : List Char :=
  value.toList.flatMap jsonEscape

/-! ## The constructor -/

/-- What is registered for a value. -/
def variants (value : String) : List (List Char) :=
  let encoded := encode value
  [value.toList, quote value, b64encode ('+', '/') encoded, b64encode ('-', '_') encoded,
    rstripEquals (b64encode ('-', '_') encoded), encoded.flatMap (hexByte false),
    encoded.flatMap (hexByte true), jsonText value]

def checkValue (value : String) : Except String Unit := do
  raiseIf (¬(8 ≤ (encode value).length ∧ (encode value).length ≤ 16384))
    "sensitive values must contain 8 to 16384 UTF-8 bytes"
  raiseIf (Char.ofNat 0 ∈ value.toList) "sensitive values cannot contain NUL"

/-- The texts of `items` that are not empty. -/
def nonempty (items : List (List Char)) : List (Char × List Char) :=
  items.filterMap fun
    | [] => none
    | c :: s => some (c, s)

/-- The variants of the values, the longest first. -/
def sortedVariants [SetOrder] (sensitive_values : List String) : List (Char × List Char) :=
  (nonempty (SetOrder.arrange (sensitive_values.flatMap variants))).insertionSort
    fun a b => b.2.length ≤ a.2.length

/-- `Redactor(sensitive_values)`. -/
def init [SetOrder] (sensitive_values : List String) : Except String Redactor := do
  sensitive_values.forM checkValue
  pure { sensitiveVariants := sortedVariants sensitive_values }

theorem mem_nonempty {items : List (List Char)} {c : Char} {s : List Char} :
    (c, s) ∈ nonempty items ↔ c :: s ∈ items := by
  rw [nonempty, List.mem_filterMap]
  constructor
  · rintro ⟨item, hitem, heq⟩
    cases item with
    | nil => cases heq
    | cons d t =>
      rw [Option.some.injEq, Prod.mk.injEq] at heq
      obtain ⟨rfl, rfl⟩ := heq
      exact hitem
  · exact fun h => ⟨c :: s, h, rfl⟩

variable {sensitive_values : List String}

theorem init_eq_ok [SetOrder] (h : sensitive_values.forM checkValue = .ok ()) :
    init sensitive_values = .ok { sensitiveVariants := sortedVariants sensitive_values } := by
  rw [init, h]
  rfl

/-- What is registered are the variants of the values. -/
theorem mem_sensitiveVariants [SetOrder] {redactor : Redactor}
    (h : init sensitive_values = .ok redactor) {c : Char} {s : List Char} :
    (c, s) ∈ redactor.sensitiveVariants ↔
      ∃ value ∈ sensitive_values, c :: s ∈ variants value := by
  simp only [init, bind_eq_ok, pure_eq_ok] at h
  obtain ⟨_, -, rfl⟩ := h
  rw [sortedVariants, (List.perm_insertionSort _ _).mem_iff, mem_nonempty, SetOrder.mem_arrange,
    List.mem_flatMap]

end Redactor

end VulnLoom

import VulnLoom.Payloads
import VulnLoom.RedactionVariants

/-!
# Redacted values

`Redactor.value` redacts a tree by its keys, `Redactor.text` the text that `json.dumps` writes of
it. To say what is left of one value in that text, its characters are marked (`markedObject`), and
the text is redacted with its marks (`redactMarks`).
-/

namespace VulnLoom

/-- What `json.dumps` writes. A number is the text it is written as. -/
inductive JsonValue
  | null
  | bool (value : Bool)
  | number (text : String)
  | string (value : String)
  | array (items : List JsonValue)
  | object (members : List (String × JsonValue))

/-- `ensure_ascii`, `separators` and `indent` : the spaces inside brackets and after a comma depend
on the depth. -/
structure JsonStyle where
  ensureAscii : Bool
  inside : ℕ → List Char
  afterComma : ℕ → List Char
  afterColon : List Char
  inside_spaces : ∀ depth, ∀ c ∈ inside depth, isSpace c = true
  afterComma_spaces : ∀ depth, ∀ c ∈ afterComma depth, isSpace c = true
  afterColon_spaces : ∀ c ∈ afterColon, isSpace c = true

namespace JsonStyle

/-- `json.dumps(value)`. -/
def standard : JsonStyle where
  ensureAscii := true
  inside _ := []
  afterComma _ := [' ']
  afterColon := [' ']
  inside_spaces := by simp
  afterComma_spaces := fun _ => by decide
  afterColon_spaces := by decide

variable (style : JsonStyle)

/-- A character of a string, outside ASCII as it is unless `ensure_ascii`. -/
def escape (c : Char) : List Char :=
  if !style.ensureAscii && 126 < c.toNat then [c] else Redactor.jsonEscape c

/-- What stands between the quotes of a string. -/
def content (value : String) : List Char :=
  value.toList.flatMap style.escape

def quoted (value : String) : List Char :=
  '"' :: (style.content value ++ ['"'])

/-- What stands before the value of a member. -/
def label (key : String) : List Char :=
  style.quoted key ++ ':' :: style.afterColon

def comma (depth : ℕ) : List Char :=
  ',' :: style.afterComma depth

/-- Items between brackets. -/
def bracketed (opening closing : Char) (depth : ℕ) (items : List (List Char)) : List Char :=
  if items = [] then [opening, closing]
  else opening :: (style.inside (depth + 1) ++ List.intercalate (style.comma (depth + 1)) items ++
    style.inside depth ++ [closing])

mutual

/-- `json.dumps`, of a value at a depth. -/
def dumps : ℕ → JsonValue → List Char
  | _, .null => "null".toList
  | _, .bool value => (if value then "true" else "false").toList
  | _, .number text => text.toList
  | _, .string value => style.quoted value
  | depth, .array items => style.bracketed '[' ']' depth (dumpsItems (depth + 1) items)
  | depth, .object members => style.bracketed '{' '}' depth (dumpsMembers (depth + 1) members)

def dumpsItems : ℕ → List JsonValue → List (List Char)
  | _, [] => []
  | depth, item :: items => dumps depth item :: dumpsItems depth items

def dumpsMembers : ℕ → List (String × JsonValue) → List (List Char)
  | _, [] => []
  | depth, (key, value) :: members =>
    (style.label key ++ dumps depth value) :: dumpsMembers depth members

end

end JsonStyle

namespace Redactor

/-! ## Marked texts -/

section

variable [PythonAlnum] (redactor : Redactor)

end

theorem intercalate_append_cons {α : Type*} (sep : List α) : ∀ (xs : List (List α)) (y : List α)
    (ys : List (List α)), List.intercalate sep (xs ++ y :: ys) =
      xs.flatMap (· ++ sep) ++ y ++ ys.flatMap (sep ++ ·)
  | [], y, ys => by
    induction ys generalizing y with
    | nil => simp [List.intercalate]
    | cons z ys ih =>
      have hstep : List.intercalate sep (y :: z :: ys) =
          y ++ sep ++ List.intercalate sep (z :: ys) := by
        simp [List.intercalate]
      have hrest := ih z
      rw [List.nil_append] at hrest ⊢
      rw [hstep, hrest]
      simp
  | x :: xs, y, ys => by
    have hstep : List.intercalate sep (x :: (xs ++ y :: ys)) =
        x ++ sep ++ List.intercalate sep (xs ++ y :: ys) := by
      cases xs <;> simp [List.intercalate]
    rw [List.cons_append, hstep, intercalate_append_cons sep xs y ys]
    simp

end Redactor

end VulnLoom

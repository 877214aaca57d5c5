import VulnLoom.Redaction

/-!
# Payloads

What `Redactor.value` makes of a Python value, and what becomes of it on its way through the
database. Both serialisations write the members of a dict in the order of their keys, so a
redacted dict is kept in that order. A JSON text is kept as the value it is the text of.

A NaN is a different object from every other NaN, except that `json.loads` answers with one and
the same object each time; a comparison of containers takes an object to be equal to itself.
-/

namespace VulnLoom

inductive PyFloat
  /-- a number; zero has a sign -/
  | finite (value : ℚ) (negativeZero : Bool)
  | infinity (negative : Bool)
  /-- the NaN of the JSON decoder, or another one -/
  | nan (decoders : Bool)
  deriving DecidableEq

/-- A value before redaction. A key is the text that `str` makes of it. -/
inductive PyValue
  | none
  | bool (value : Bool)
  | int (value : ℤ)
  | float (value : PyFloat)
  | str (value : String)
  /-- bytes, with the text they are the UTF-8 of -/
  | bytes (decoded : Option String)
  | sequence (items : List PyValue)
  | mapping (items : List (String × PyValue))
  /-- a value of a type that `json` does not write -/
  | other (name : String)

/-- A value after redaction. -/
inductive SafeValue
  | none
  | bool (value : Bool)
  | int (value : ℤ)
  | float (value : PyFloat)
  | str (value : String)
  | list (items : List SafeValue)
  | dict (members : List (String × SafeValue))
  | other (name : String)

/-! ## Redaction -/

namespace Redactor

open Regex

/-- `_secret_keys`, between its anchors. -/
def secretKey : Regex Char :=
  choice (caseless "authorization") [caseless "proxy-authorization", caseless "cookie",
    caseless "set-cookie", caseless "token", caseless "access_token", caseless "refresh_token",
    joined "api" "key", caseless "x-api-key", caseless "secret", joined "client" "secret",
    caseless "password", caseless "passwd", joined "private" "key", caseless "credential",
    caseless "session", joined "session" "id", caseless "csrf", joined "csrf" "token"]

/-- `_secret_keys.match`; the last anchor holds before a final newline too. -/
def isSecretKey [PythonAlnum] (key : String) : Bool :=
  let s := key.toList
  s.length ∈ ends isWord secretKey .none s ∨
    (s.getLast? = some '\n' ∧ s.length - 1 ∈ ends isWord secretKey .none s)

/-- A dict after an assignment. -/
def assign (key : String) (value : SafeValue) :
    List (String × SafeValue) → List (String × SafeValue)
  | [] => [(key, value)]
  | (k, v) :: rest =>
    if key = k then (key, value) :: rest
    else if key < k then (key, value) :: (k, v) :: rest
    else (k, v) :: assign key value rest

variable [PythonAlnum] (redactor : Redactor)

mutual

/-- `Redactor.value`. -/
def value : PyValue → Except String SafeValue
  | .none => .ok .none
  | .bool value => .ok (.bool value)
  | .int value => .ok (.int value)
  | .float value => .ok (.float value)
  | .str value => .ok (.str (redactor.text value))
  | .bytes (some decoded) => .ok (.str (redactor.text decoded))
  | .bytes .none => .error "binary sensitive data cannot enter a structured sink"
  | .sequence items => do
    let items ← values items
    return .list items
  | .mapping items => do
    let members ← members [] items
    return .dict members
  | .other name => .ok (.other name)

def values : List PyValue → Except String (List SafeValue)
  | [] => .ok []
  | item :: items => do
    let item ← value item
    let items ← values items
    return item :: items

/-- The items of a mapping, assigned one after the other. -/
def members (assigned : List (String × SafeValue)) :
    List (String × PyValue) → Except String (List (String × SafeValue))
  | [] => .ok assigned
  | (key, item) :: items => do
    let safe ← if isSecretKey key then .ok (.str (String.ofList placeholder)) else value item
    members (assign key safe assigned) items

end

end Redactor

/-! ## JSON -/

inductive JsonFloat
  | finite (value : ℚ) (negativeZero : Bool)
  | infinity (negative : Bool)
  | nan
  deriving DecidableEq

/-- What a JSON text is the text of. -/
inductive JsonText
  | null
  | bool (value : Bool)
  | int (value : ℤ)
  | float (value : JsonFloat)
  | string (value : String)
  | array (items : List JsonText)
  | object (members : List (String × JsonText))

def PyFloat.dumps : PyFloat → JsonFloat
  | finite value negativeZero => .finite value negativeZero
  | infinity negative => .infinity negative
  | nan _ => .nan

def JsonFloat.loads : JsonFloat → PyFloat
  | finite value negativeZero => .finite value negativeZero
  | infinity negative => .infinity negative
  | nan => .nan true

/-- An integer that `str` writes: it has at most 4300 digits. -/
@[irreducible] def isPrintable (value : ℤ) : Bool :=
  value.natAbs < 10 ^ 4300

mutual

/-- `json.dumps`; `none` is a `TypeError`, or the `ValueError` of an integer that is too long. -/
def SafeValue.dumps : SafeValue → Option JsonText
  | .none => some .null
  | .bool value => some (.bool value)
  | .int value => if isPrintable value then some (.int value) else .none
  | .float value => some (.float value.dumps)
  | .str value => some (.string value)
  | .list items => (SafeValue.dumpsItems items).map .array
  | .dict members => (SafeValue.dumpsMembers members).map .object
  | .other _ => .none

def SafeValue.dumpsItems : List SafeValue → Option (List JsonText)
  | [] => some []
  | item :: items => do
    let item ← SafeValue.dumps item
    let items ← SafeValue.dumpsItems items
    return item :: items

def SafeValue.dumpsMembers : List (String × SafeValue) → Option (List (String × JsonText))
  | [] => some []
  | (key, item) :: members => do
    let item ← SafeValue.dumps item
    let members ← SafeValue.dumpsMembers members
    return (key, item) :: members

end

mutual

/-- `json.loads`. -/
def JsonText.loads : JsonText → SafeValue
  | .null => .none
  | .bool value => .bool value
  | .int value => .int value
  | .float value => .float value.loads
  | .string value => .str value
  | .array items => .list (JsonText.loadsItems items)
  | .object members => .dict (JsonText.loadsMembers members)

def JsonText.loadsItems : List JsonText → List SafeValue
  | [] => []
  | item :: items => JsonText.loads item :: JsonText.loadsItems items

def JsonText.loadsMembers : List (String × JsonText) → List (String × SafeValue)
  | [] => []
  | (key, item) :: members => (key, JsonText.loads item) :: JsonText.loadsMembers members

end

mutual

/-- A NaN occurs in the value, other than the one of the JSON decoder. -/
def SafeValue.hasForeignNan : SafeValue → Bool
  | .float (.nan decoders) => !decoders
  | .list items => SafeValue.itemsHaveForeignNan items
  | .dict members => SafeValue.membersHaveForeignNan members
  | _ => false

def SafeValue.itemsHaveForeignNan : List SafeValue → Bool
  | [] => false
  | item :: items => SafeValue.hasForeignNan item || SafeValue.itemsHaveForeignNan items

def SafeValue.membersHaveForeignNan : List (String × SafeValue) → Bool
  | [] => false
  | (_, item) :: members => SafeValue.hasForeignNan item || SafeValue.membersHaveForeignNan members

end

/-! ## Equality and canonical form -/

/-- A number other than NaN. -/
inductive PyNumber
  | finite (value : ℚ)
  | infinity (negative : Bool)
  deriving DecidableEq

/-- The number that a value compares as. -/
def SafeValue.number : SafeValue → Option PyNumber
  | .bool value => some (.finite (if value then 1 else 0))
  | .int value => some (.finite value)
  | .float (.finite value _) => some (.finite value)
  | .float (.infinity negative) => some (.infinity negative)
  | _ => .none

/-- Two values compare as the same number. -/
def SafeValue.sameNumber (a b : SafeValue) : Bool :=
  a.number.isSome && a.number = b.number

mutual

/-- `==`. -/
def SafeValue.equals : SafeValue → SafeValue → Bool
  | .none, .none => true
  | .str a, .str b => a = b
  | .list a, .list b => SafeValue.equalItems a b
  | .dict a, .dict b => SafeValue.equalMembers a b
  | .other a, .other b => a = b
  | .float (.nan a), .float (.nan b) => a && b
  | a, b => a.sameNumber b

def SafeValue.equalItems : List SafeValue → List SafeValue → Bool
  | [], [] => true
  | a :: as, b :: bs => SafeValue.equals a b && SafeValue.equalItems as bs
  | _, _ => false

def SafeValue.equalMembers : List (String × SafeValue) → List (String × SafeValue) → Bool
  | [], [] => true
  | (k, a) :: as, (k', b) :: bs =>
    k = k' && SafeValue.equals a b && SafeValue.equalMembers as bs
  | _, _ => false

end

/-- What the text of a float says of it. -/
def PyFloat.canonical : PyFloat → PyFloat
  | nan _ => .nan true
  | x => x

mutual

/-- What the canonical JSON of a value says of it. -/
def SafeValue.canonical : SafeValue → SafeValue
  | .float value => .float value.canonical
  | .list items => .list (SafeValue.canonicalItems items)
  | .dict members => .dict (SafeValue.canonicalMembers members)
  | value => value

def SafeValue.canonicalItems : List SafeValue → List SafeValue
  | [] => []
  | item :: items => SafeValue.canonical item :: SafeValue.canonicalItems items

def SafeValue.canonicalMembers : List (String × SafeValue) → List (String × SafeValue)
  | [] => []
  | (key, item) :: members => (key, SafeValue.canonical item) :: SafeValue.canonicalMembers members

end

/-! ## The way through the database -/

theorem SafeValue.dumps_int {value : ℤ} {json : JsonText}
    (h : (SafeValue.int value).dumps = some json) : json = .int value := by
  rw [SafeValue.dumps] at h
  generalize isPrintable value = printable at h
  obtain ⟨-, h⟩ := Option.ite_none_right_eq_some.mp h
  exact (Option.some.inj h).symm

mutual

/-- A value read back from its JSON text has the canonical form that it had. -/
theorem SafeValue.canonical_loads : ∀ {value : SafeValue} {json : JsonText},
    value.dumps = some json → json.loads.canonical = value.canonical
  | .none, _, h => by cases h; rfl
  | .bool _, _, h => by cases h; rfl
  | .int _, _, h => by
    obtain rfl := SafeValue.dumps_int h
    rfl
  | .float x, _, h => by
    cases h
    cases x <;> rfl
  | .str _, _, h => by cases h; rfl
  | .list items, _, h => by
    obtain ⟨texts, htexts, rfl⟩ := Option.map_eq_some_iff.mp h
    simp only [JsonText.loads, SafeValue.canonical, SafeValue.canonicalItems_loads htexts]
  | .dict members, _, h => by
    obtain ⟨texts, htexts, rfl⟩ := Option.map_eq_some_iff.mp h
    simp only [JsonText.loads, SafeValue.canonical, SafeValue.canonicalMembers_loads htexts]
  | .other _, _, h => nomatch h

theorem SafeValue.canonicalItems_loads : ∀ {items : List SafeValue} {texts : List JsonText},
    SafeValue.dumpsItems items = some texts →
      SafeValue.canonicalItems (JsonText.loadsItems texts) = SafeValue.canonicalItems items
  | [], _, h => by cases h; rfl
  | item :: items, _, h => by
    obtain ⟨text, htext, h⟩ := Option.bind_eq_some_iff.mp h
    obtain ⟨texts, htexts, h⟩ := Option.bind_eq_some_iff.mp h
    cases h
    simp only [JsonText.loadsItems, SafeValue.canonicalItems, SafeValue.canonical_loads htext,
      SafeValue.canonicalItems_loads htexts]

theorem SafeValue.canonicalMembers_loads : ∀ {members : List (String × SafeValue)}
    {texts : List (String × JsonText)}, SafeValue.dumpsMembers members = some texts →
      SafeValue.canonicalMembers (JsonText.loadsMembers texts) =
        SafeValue.canonicalMembers members
  | [], _, h => by cases h; rfl
  | (key, item) :: members, _, h => by
    obtain ⟨text, htext, h⟩ := Option.bind_eq_some_iff.mp h
    obtain ⟨texts, htexts, h⟩ := Option.bind_eq_some_iff.mp h
    cases h
    simp only [JsonText.loadsMembers, SafeValue.canonicalMembers, SafeValue.canonical_loads htext,
      SafeValue.canonicalMembers_loads htexts]

end

mutual

/-- A value without a foreign NaN is read back from its JSON text as it was. -/
theorem SafeValue.loads_dumps : ∀ {value : SafeValue} {json : JsonText},
    value.dumps = some json → value.hasForeignNan = false → json.loads = value
  | .none, _, h, _ => by cases h; rfl
  | .bool _, _, h, _ => by cases h; rfl
  | .int _, _, h, _ => by
    obtain rfl := SafeValue.dumps_int h
    rfl
  | .float x, _, h, hnan => by
    cases h
    cases x with
    | finite => rfl
    | infinity => rfl
    | nan decoders =>
      obtain rfl : decoders = true := by simpa [SafeValue.hasForeignNan] using hnan
      rfl
  | .str _, _, h, _ => by cases h; rfl
  | .list items, _, h, hnan => by
    obtain ⟨texts, htexts, rfl⟩ := Option.map_eq_some_iff.mp h
    rw [JsonText.loads, SafeValue.loads_dumpsItems htexts hnan]
  | .dict members, _, h, hnan => by
    obtain ⟨texts, htexts, rfl⟩ := Option.map_eq_some_iff.mp h
    rw [JsonText.loads, SafeValue.loads_dumpsMembers htexts hnan]
  | .other _, _, h, _ => nomatch h

theorem SafeValue.loads_dumpsItems : ∀ {items : List SafeValue} {texts : List JsonText},
    SafeValue.dumpsItems items = some texts → SafeValue.itemsHaveForeignNan items = false →
      JsonText.loadsItems texts = items
  | [], _, h, _ => by cases h; rfl
  | item :: items, _, h, hnan => by
    obtain ⟨text, htext, h⟩ := Option.bind_eq_some_iff.mp h
    obtain ⟨texts, htexts, h⟩ := Option.bind_eq_some_iff.mp h
    cases h
    obtain ⟨hhead, htail⟩ := Bool.or_eq_false_iff.mp hnan
    rw [JsonText.loadsItems, SafeValue.loads_dumps htext hhead,
      SafeValue.loads_dumpsItems htexts htail]

theorem SafeValue.loads_dumpsMembers : ∀ {members : List (String × SafeValue)}
    {texts : List (String × JsonText)}, SafeValue.dumpsMembers members = some texts →
      SafeValue.membersHaveForeignNan members = false → JsonText.loadsMembers texts = members
  | [], _, h, _ => by cases h; rfl
  | (key, item) :: members, _, h, hnan => by
    obtain ⟨text, htext, h⟩ := Option.bind_eq_some_iff.mp h
    obtain ⟨texts, htexts, h⟩ := Option.bind_eq_some_iff.mp h
    cases h
    obtain ⟨hhead, htail⟩ := Bool.or_eq_false_iff.mp hnan
    rw [JsonText.loadsMembers, SafeValue.loads_dumps htext hhead,
      SafeValue.loads_dumpsMembers htexts htail]

end

theorem SafeValue.sameNumber_self {value : SafeValue} (h : value.number.isSome = true) :
    value.sameNumber value = true := by
  simp [SafeValue.sameNumber, h]

mutual

/-- A value without a foreign NaN equals another object of the same value. -/
theorem SafeValue.equals_self : ∀ {value : SafeValue},
    value.hasForeignNan = false → value.equals value = true
  | .none, _ => rfl
  | .bool _, _ => SafeValue.sameNumber_self rfl
  | .int _, _ => SafeValue.sameNumber_self rfl
  | .float (.finite _ _), _ => SafeValue.sameNumber_self rfl
  | .float (.infinity _), _ => SafeValue.sameNumber_self rfl
  | .float (.nan decoders), hnan => by
    obtain rfl : decoders = true := by simpa [SafeValue.hasForeignNan] using hnan
    rfl
  | .str _, _ => by simp [SafeValue.equals]
  | .list items, hnan => by
    rw [SafeValue.equals]
    exact SafeValue.equalItems_self hnan
  | .dict members, hnan => by
    rw [SafeValue.equals]
    exact SafeValue.equalMembers_self hnan
  | .other _, _ => by simp [SafeValue.equals]

theorem SafeValue.equalItems_self : ∀ {items : List SafeValue},
    SafeValue.itemsHaveForeignNan items = false → SafeValue.equalItems items items = true
  | [], _ => rfl
  | item :: items, hnan => by
    obtain ⟨hhead, htail⟩ := Bool.or_eq_false_iff.mp hnan
    simp only [SafeValue.equalItems, SafeValue.equals_self hhead,
      SafeValue.equalItems_self htail, Bool.and_self]

theorem SafeValue.equalMembers_self : ∀ {members : List (String × SafeValue)},
    SafeValue.membersHaveForeignNan members = false →
      SafeValue.equalMembers members members = true
  | [], _ => rfl
  | (key, item) :: members, hnan => by
    obtain ⟨hhead, htail⟩ := Bool.or_eq_false_iff.mp hnan
    simp only [SafeValue.equalMembers, SafeValue.equals_self hhead,
      SafeValue.equalMembers_self htail, decide_true, Bool.and_self]

end

end VulnLoom

import VulnLoom.PythonJson
import VulnLoom.Table
import Mathlib.Data.List.Lex

/-!
# What `json.dumps` writes

A value without floats is written in a style : how a code point is escaped, and what stands between
the items of a container. Members are written in the order of their keys. A text says what it is
the text of, up to that order (`Tree.dumps_eq_iff`), where each string of it can be encoded.
-/

namespace JsonWriting

open PythonJson

/-! ## Values and styles -/

inductive Tree
  | null
  | bool (value : Bool)
  | int (value : ℤ)
  | str (value : Text)
  | arr (items : List Tree)
  | obj (members : List (Text × Tree))

/-- A code point that can be encoded. -/
def Scalar (c : ℕ) : Prop :=
  c.isValidChar

instance : DecidablePred Scalar := fun c => inferInstanceAs (Decidable c.isValidChar)

/-- A style, in which a string that can be encoded reads back. -/
structure Style where
  escape : ℕ → Text
  comma : Text
  colon : Text
  reads : ∀ (s : Text), (∀ c ∈ s, Scalar c) → ∀ rest,
    scanString (s.flatMap escape ++ 34 :: rest) = some (s, rest)
  comma_head : ∃ blank, comma = 44 :: blank

/-- `int.__repr__`. -/
def intRepr (value : ℤ) : Text :=
  let digits := (Nat.toDigits 10 value.natAbs).map Char.toNat
  if value < 0 then 45 :: digits else digits

namespace Tree

variable (style : Style)

mutual

/-- `json.dumps(value, sort_keys=True)`. -/
def dumps : Tree → Text
  | null => text "null"
  | bool value => text (if value then "true" else "false")
  | int value => intRepr value
  | str value => 34 :: value.flatMap style.escape ++ [34]
  | arr items => 91 :: style.comma.intercalate (dumpsItems items) ++ [93]
  | obj members =>
    123 :: style.comma.intercalate ((Table.orderBy Prod.fst (dumpsMembers members)).map fun m =>
      34 :: m.1.flatMap style.escape ++ 34 :: style.colon ++ m.2) ++ [125]

def dumpsItems : List Tree → List Text
  | [] => []
  | item :: items => dumps item :: dumpsItems items

def dumpsMembers : List (Text × Tree) → List (Text × Text)
  | [] => []
  | (key, value) :: members => (key, dumps value) :: dumpsMembers members

end

mutual

/-- The value with each object in the order of its keys. -/
def normal : Tree → Tree
  | arr items => arr (normalItems items)
  | obj members => obj (Table.orderBy Prod.fst (normalMembers members))
  | value => value

def normalItems : List Tree → List Tree
  | [] => []
  | item :: items => normal item :: normalItems items

def normalMembers : List (Text × Tree) → List (Text × Tree)
  | [] => []
  | (key, value) :: members => (key, normal value) :: normalMembers members

end

/-- Each string of a value has a property, and no object repeats a key. -/
inductive Sound (p : Text → Prop) : Tree → Prop
  | null : Sound p .null
  | bool (value : Bool) : Sound p (.bool value)
  | int (value : ℤ) : Sound p (.int value)
  | str {value : Text} (h : p value) : Sound p (.str value)
  | arr {items : List Tree} (h : ∀ item ∈ items, Sound p item) : Sound p (.arr items)
  | obj {members : List (Text × Tree)} (hnodup : (members.map Prod.fst).Nodup)
      (hkeys : ∀ m ∈ members, p m.1) (h : ∀ m ∈ members, Sound p m.2) : Sound p (.obj members)

theorem dumpsItems_eq : ∀ items : List Tree, dumpsItems style items = items.map (dumps style)
  | [] => rfl
  | _ :: items => by rw [dumpsItems, dumpsItems_eq items, List.map_cons]

theorem dumpsMembers_eq : ∀ members : List (Text × Tree),
    dumpsMembers style members = members.map fun m => (m.1, dumps style m.2)
  | [] => rfl
  | (_, _) :: members => by rw [dumpsMembers, dumpsMembers_eq members, List.map_cons]

theorem normalItems_eq : ∀ items : List Tree, normalItems items = items.map normal
  | [] => rfl
  | _ :: items => by rw [normalItems, normalItems_eq items, List.map_cons]

theorem normalMembers_eq : ∀ members : List (Text × Tree),
    normalMembers members = members.map fun m => (m.1, normal m.2)
  | [] => rfl
  | (_, _) :: members => by rw [normalMembers, normalMembers_eq members, List.map_cons]

theorem orderBy_map_snd {α β : Type} (f : α → β) (members : List (Text × α)) :
    Table.orderBy Prod.fst (members.map fun m => (m.1, f m.2)) =
      (Table.orderBy Prod.fst members).map fun m => (m.1, f m.2) :=
  (Table.map_orderBy (f := fun m => (m.1, f m.2)) Prod.fst fun _ _ => rfl).symm

/-- A member as it is written. -/
def member (m : Text × Tree) : Text :=
  34 :: m.1.flatMap style.escape ++ 34 :: style.colon ++ dumps style m.2

theorem dumps_arr (items : List Tree) : dumps style (.arr items) =
    91 :: style.comma.intercalate (items.map (dumps style)) ++ [93] := by
  rw [dumps, dumpsItems_eq]

theorem dumps_obj (members : List (Text × Tree)) : dumps style (.obj members) =
    123 :: style.comma.intercalate
      ((Table.orderBy Prod.fst members).map (member style)) ++ [125] := by
  rw [dumps, dumpsMembers_eq, orderBy_map_snd, List.map_map]
  rfl

theorem normal_arr (items : List Tree) : normal (.arr items) = .arr (items.map normal) := by
  rw [normal, normalItems_eq]

theorem normal_obj (members : List (Text × Tree)) : normal (.obj members) =
    .obj (Table.orderBy Prod.fst (members.map fun m => (m.1, normal m.2))) := by
  rw [normal, normalMembers_eq]

/-! ## What a text starts with -/

/-- What does not go on with a number. -/
def Stops (rest : Text) : Prop :=
  ∀ c ∈ rest.head?, ¬isDigit c

/-- The kind of a value, by what its text starts with. -/
def opening : Tree → ℕ
  | null => 110
  | bool value => if value then 116 else 102
  | int _ => 48
  | str _ => 34
  | arr _ => 91
  | obj _ => 123

/-- The kind of a value whose text starts with a code point. -/
def kindOf (c : ℕ) : ℕ :=
  if isDigit c ∨ c = 45 then 48 else c

theorem digits_spec (n : ℕ) : (Nat.toDigits 10 n).map Char.toNat ≠ [] ∧
    ∀ c ∈ (Nat.toDigits 10 n).map Char.toNat, isDigit c := by
  refine ⟨fun h => Nat.toDigits_ne_nil (List.map_eq_nil_iff.1 h), fun c hc => ?_⟩
  obtain ⟨digit, hdigit, rfl⟩ := List.mem_map.1 hc
  have h := Nat.isDigit_of_mem_toDigits (by decide) (by decide) hdigit
  simp only [Char.isDigit, ge_iff_le, Bool.and_eq_true, decide_eq_true_eq, UInt32.le_iff_toNat_le]
    at h
  exact decide_eq_true h

theorem exists_dumps (value : Tree) :
    ∃ c rest, dumps style value = c :: rest ∧ kindOf c = value.opening := by
  cases value with
  | null => exact ⟨_, _, rfl, rfl⟩
  | bool value => cases value <;> exact ⟨_, _, rfl, rfl⟩
  | int value =>
    rw [dumps, intRepr]
    split_ifs
    · exact ⟨_, _, rfl, rfl⟩
    · obtain ⟨c, rest, heq⟩ := List.exists_cons_of_ne_nil (digits_spec value.natAbs).1
      have hc := (digits_spec value.natAbs).2 c (heq ▸ List.mem_cons_self)
      exact ⟨c, rest, heq, by rw [kindOf, if_pos (.inl hc)]; rfl⟩
  | str value => exact ⟨_, _, rfl, rfl⟩
  | arr items => exact ⟨_, _, rfl, rfl⟩
  | obj members => exact ⟨_, _, rfl, rfl⟩

variable {value : Tree} {rest rest' : Text}

theorem opening_eq {other : Tree} (h : dumps style value ++ rest = dumps style other ++ rest') :
    value.opening = other.opening := by
  obtain ⟨c, after, hvalue, hkind⟩ := exists_dumps style value
  obtain ⟨c', after', hother, hkind'⟩ := exists_dumps style other
  rw [hvalue, hother, List.cons_append, List.cons_append, List.cons.injEq] at h
  rw [← hkind, ← hkind', h.1]

/-! ## Reading back -/

theorem number_digits (n : ℕ) : number ((Nat.toDigits 10 n).map Char.toNat) = n := by
  rw [number, List.foldl_map]
  simpa [Nat.ofDigitChars_eq_foldl] using Nat.ofDigitChars_ten_toDigits (n := n)

theorem digits_append {n m : ℕ} (hrest : Stops rest) (hrest' : Stops rest')
    (h : (Nat.toDigits 10 n).map Char.toNat ++ rest = (Nat.toDigits 10 m).map Char.toNat ++ rest') :
    n = m ∧ rest = rest' := by
  have hstop : ∀ {r : Text}, Stops r → r.takeWhile isDigit = [] := by
    intro r hr
    cases r with
    | nil => rfl
    | cons c r => exact List.takeWhile_cons_of_neg (hr c rfl)
  have htake := congrArg (List.takeWhile isDigit) h
  rw [List.takeWhile_append_of_pos (digits_spec n).2, hstop hrest,
    List.takeWhile_append_of_pos (digits_spec m).2, hstop hrest', List.append_nil,
    List.append_nil] at htake
  refine ⟨?_, List.append_cancel_left (htake ▸ h)⟩
  rw [← number_digits n, htake, number_digits]

theorem intRepr_append {value other : ℤ} (hrest : Stops rest) (hrest' : Stops rest')
    (h : intRepr value ++ rest = intRepr other ++ rest') : value = other ∧ rest = rest' := by
  have hminus : ∀ {n : ℕ} {r r' : Text},
      (Nat.toDigits 10 n).map Char.toNat ++ r ≠ 45 :: r' := by
    intro n r r' heq
    obtain ⟨c, digits, hdigits⟩ := List.exists_cons_of_ne_nil (digits_spec n).1
    have hc := (digits_spec n).2 c (hdigits ▸ List.mem_cons_self)
    rw [hdigits, List.cons_append, List.cons.injEq] at heq
    rw [heq.1] at hc
    exact absurd hc (by decide)
  unfold intRepr at h
  split_ifs at h with hvalue hother hother
  · rw [List.cons_append, List.cons_append, List.cons.injEq] at h
    obtain ⟨habs, heq⟩ := digits_append hrest hrest' h.2
    exact ⟨by omega, heq⟩
  · exact absurd h.symm hminus
  · exact absurd h hminus
  · obtain ⟨habs, heq⟩ := digits_append hrest hrest' h
    exact ⟨by omega, heq⟩

variable {style}

theorem quoted_append {s s' : Text} (hs : ∀ c ∈ s, Scalar c) (hs' : ∀ c ∈ s', Scalar c)
    (h : s.flatMap style.escape ++ 34 :: rest = s'.flatMap style.escape ++ 34 :: rest') :
    s = s' ∧ rest = rest' := by
  have hread := style.reads s hs rest
  rw [h, style.reads s' hs' rest'] at hread
  simpa [eq_comm] using hread

section Series

variable {α : Type} {write : α → Text} {norm : α → α}

/-- The text of an element, before what stops a number, says what it is up to a normal form. -/
def Told (write : α → Text) (norm : α → α) (p q : α → Prop) : Prop :=
  ∀ a, p a → ∀ b, q b → ∀ rest rest', Stops rest → Stops rest' →
    write a ++ rest = write b ++ rest' → norm a = norm b ∧ rest = rest'

theorem stops_comma (style : Style) (rest : Text) : Stops (style.comma ++ rest) := by
  obtain ⟨blank, hcomma⟩ := style.comma_head
  rw [hcomma]
  rintro c ⟨⟩
  decide

variable {closing : ℕ}

theorem stops_closing (hclosing : closing = 93 ∨ closing = 125) (rest : Text) :
    Stops (closing :: rest) := by
  rintro c ⟨⟩
  obtain rfl | rfl := hclosing <;> decide

theorem stops_series (style : Style) (hclosing : closing = 93 ∨ closing = 125) (xs : List α)
    (rest : Text) : Stops ((xs.flatMap fun x => style.comma ++ write x) ++ closing :: rest) := by
  cases xs with
  | nil => exact stops_closing hclosing rest
  | cons x xs =>
    rw [List.flatMap_cons, List.append_assoc, List.append_assoc]
    exact stops_comma style _

/-- The items after the first one, each behind a comma. -/
theorem series_append (style : Style) {closing : ℕ} (hclosing : closing = 93 ∨ closing = 125)
    {p q : α → Prop} (htold : Told write norm p q) : ∀ {xs ys : List α} {rest rest' : Text},
    (∀ x ∈ xs, p x) → (∀ y ∈ ys, q y) →
    (xs.flatMap fun x => style.comma ++ write x) ++ closing :: rest =
      (ys.flatMap fun y => style.comma ++ write y) ++ closing :: rest' →
    xs.map norm = ys.map norm ∧ rest = rest'
  | [], [], rest, rest', _, _, h => by simpa using h
  | [], y :: ys, rest, rest', _, _, h => by
    obtain ⟨blank, hcomma⟩ := style.comma_head
    rw [hcomma] at h
    simp only [List.flatMap_nil, List.nil_append, List.flatMap_cons, List.cons_append,
      List.cons.injEq] at h
    omega
  | x :: xs, [], rest, rest', _, _, h => by
    obtain ⟨blank, hcomma⟩ := style.comma_head
    rw [hcomma] at h
    simp only [List.flatMap_nil, List.nil_append, List.flatMap_cons, List.cons_append,
      List.cons.injEq] at h
    omega
  | x :: xs, y :: ys, rest, rest', hxs, hys, h => by
    rw [List.flatMap_cons, List.flatMap_cons, List.append_assoc, List.append_assoc,
      List.append_assoc, List.append_assoc] at h
    obtain ⟨hhead, htail⟩ := htold x (hxs x List.mem_cons_self) y (hys y List.mem_cons_self) _ _
      (stops_series style hclosing xs rest) (stops_series style hclosing ys rest')
      (List.append_cancel_left h)
    obtain ⟨hmap, heq⟩ := series_append style hclosing htold
      (fun x hx => hxs x (List.mem_cons_of_mem _ hx))
      (fun y hy => hys y (List.mem_cons_of_mem _ hy)) htail
    exact ⟨by rw [List.map_cons, List.map_cons, hhead, hmap], heq⟩

theorem intercalate_cons (comma : Text) (x : α) (xs : List α) :
    comma.intercalate ((x :: xs).map write) =
      write x ++ xs.flatMap fun x => comma ++ write x := by
  induction xs generalizing x with
  | nil => simp [List.intercalate]
  | cons y ys ih =>
    rw [List.map_cons, List.map_cons, List.intercalate_cons_cons, ← List.map_cons, ih,
      List.flatMap_cons]
    simp only [List.append_assoc]

/-- The items of a container, up to its closing bracket. -/
theorem container_append (style : Style) (hclosing : closing = 93 ∨ closing = 125)
    {p q : α → Prop} (htold : Told write norm p q)
    (hopening : ∀ x rest rest', write x ++ rest ≠ closing :: rest') {xs ys : List α}
    (hxs : ∀ x ∈ xs, p x) (hys : ∀ y ∈ ys, q y)
    (h : style.comma.intercalate (xs.map write) ++ closing :: rest =
      style.comma.intercalate (ys.map write) ++ closing :: rest') :
    xs.map norm = ys.map norm ∧ rest = rest' := by
  cases xs with
  | nil =>
    cases ys with
    | nil => simpa [List.intercalate] using h
    | cons y ys =>
      rw [intercalate_cons, List.append_assoc] at h
      exact absurd h.symm (hopening y _ _)
  | cons x xs =>
    cases ys with
    | nil =>
      rw [intercalate_cons, List.append_assoc] at h
      exact absurd h (hopening x _ _)
    | cons y ys =>
      rw [intercalate_cons, intercalate_cons, List.append_assoc, List.append_assoc] at h
      obtain ⟨hhead, htail⟩ := htold x (hxs x List.mem_cons_self) y (hys y List.mem_cons_self) _ _
        (stops_series style hclosing xs rest) (stops_series style hclosing ys rest') h
      obtain ⟨hmap, heq⟩ := series_append style hclosing htold
        (fun x hx => hxs x (List.mem_cons_of_mem _ hx))
        (fun y hy => hys y (List.mem_cons_of_mem _ hy)) htail
      exact ⟨by rw [List.map_cons, List.map_cons, hhead, hmap], heq⟩

end Series

/-! ## Texts and values -/

theorem dumps_ne_closing (style : Style) {closing : ℕ} (hclosing : closing = 93 ∨ closing = 125)
    (value : Tree) (rest rest' : Text) : dumps style value ++ rest ≠ closing :: rest' := by
  intro h
  obtain ⟨c, after, hdumps, hkind⟩ := exists_dumps style value
  rw [hdumps, List.cons_append, List.cons.injEq] at h
  rw [h.1] at hkind
  have hopening : value.opening ≠ closing := by
    obtain rfl | rfl := hclosing <;> cases value <;> simp [opening] <;> split_ifs <;> decide
  have hself : kindOf closing = closing := by
    obtain rfl | rfl := hclosing <;> decide
  exact hopening (hkind.symm.trans hself)

/-- The strings of a value can be encoded. -/
abbrev Encodable : Tree → Prop :=
  Sound fun s => ∀ c ∈ s, Scalar c

section Kinds

variable {value : Tree}

theorem eq_null (h : value.opening = 110) : value = .null := by
  cases value with
  | null => rfl
  | bool b => cases b <;> simp [opening] at h
  | int | str | arr | obj => simp [opening] at h

theorem exists_bool {b : Bool} (h : value.opening = (bool b).opening) : value = .bool b := by
  cases value with
  | bool b' => cases b <;> cases b' <;> first | rfl | simp [opening] at h
  | null | int | str | arr | obj => cases b <;> simp [opening] at h

theorem exists_int (h : value.opening = 48) : ∃ z, value = .int z := by
  cases value with
  | int z => exact ⟨z, rfl⟩
  | bool b => cases b <;> simp [opening] at h
  | null | str | arr | obj => simp [opening] at h

theorem exists_str (h : value.opening = 34) : ∃ s, value = .str s := by
  cases value with
  | str s => exact ⟨s, rfl⟩
  | bool b => cases b <;> simp [opening] at h
  | null | int | arr | obj => simp [opening] at h

theorem exists_arr (h : value.opening = 91) : ∃ items, value = .arr items := by
  cases value with
  | arr items => exact ⟨items, rfl⟩
  | bool b => cases b <;> simp [opening] at h
  | null | int | str | obj => simp [opening] at h

theorem exists_obj (h : value.opening = 123) : ∃ members, value = .obj members := by
  cases value with
  | obj members => exact ⟨members, rfl⟩
  | bool b => cases b <;> simp [opening] at h
  | null | int | str | arr => simp [opening] at h

end Kinds

/-- A member is told by its key and the text of its value. -/
theorem told_member (style : Style) {members : List (Text × Tree)}
    (hkeys : ∀ m ∈ members, ∀ c ∈ m.1, Scalar c)
    (h : ∀ m ∈ members, ∀ other, Encodable other → ∀ rest rest', Stops rest → Stops rest' →
      dumps style m.2 ++ rest = dumps style other ++ rest' →
        normal m.2 = normal other ∧ rest = rest') :
    Told (member style) (fun m => (m.1, normal m.2)) (· ∈ members)
      fun m => (∀ c ∈ m.1, Scalar c) ∧ Encodable m.2 := by
  intro m hm m' hm' rest rest' hrest hrest' heq
  simp only [member, List.cons_append, List.append_assoc, List.cons.injEq, true_and] at heq
  obtain ⟨hkey, hvalue⟩ := quoted_append (hkeys m hm) hm'.1 heq
  obtain ⟨hnormal, hrests⟩ := h m hm m'.2 hm'.2 rest rest' hrest hrest'
    (List.append_cancel_left hvalue)
  exact ⟨Prod.ext hkey hnormal, hrests⟩

theorem member_ne_closing (style : Style) (m : Text × Tree) (rest rest' : Text) :
    member style m ++ rest ≠ 125 :: rest' := by
  intro h
  simp [member] at h

/-- A text says what it is the text of, also before other texts. -/
theorem told_dumps (style : Style) : Told (dumps style) normal Encodable Encodable := by
  intro value hvalue
  induction hvalue with
  | null =>
    intro other _ rest rest' _ _ h
    obtain rfl := eq_null (opening_eq style h).symm
    exact ⟨rfl, List.append_cancel_left h⟩
  | bool b =>
    intro other _ rest rest' _ _ h
    obtain rfl := exists_bool (opening_eq style h).symm
    exact ⟨rfl, List.append_cancel_left h⟩
  | int z =>
    intro other _ rest rest' hrest hrest' h
    obtain ⟨z', rfl⟩ := exists_int (opening_eq style h).symm
    obtain ⟨rfl, hrests⟩ := intRepr_append hrest hrest' h
    exact ⟨rfl, hrests⟩
  | str hs =>
    intro other hother rest rest' _ _ h
    obtain ⟨s', rfl⟩ := exists_str (opening_eq style h).symm
    cases hother with
    | str hs' =>
      simp only [dumps, List.cons_append, List.append_assoc, List.cons.injEq, true_and,
        List.nil_append] at h
      obtain ⟨rfl, hrests⟩ := quoted_append hs hs' h
      exact ⟨rfl, hrests⟩
  | @arr items _ ih =>
    intro other hother rest rest' _ _ h
    obtain ⟨items', rfl⟩ := exists_arr (opening_eq style h).symm
    cases hother with
    | arr hitems' =>
      simp only [dumps_arr, List.cons_append, List.append_assoc, List.cons.injEq, true_and,
        List.nil_append] at h
      obtain ⟨hmap, hrests⟩ := container_append style (.inl rfl) (p := (· ∈ items)) ih
        (dumps_ne_closing style (.inl rfl)) (fun _ => id) hitems' h
      exact ⟨by rw [normal_arr, normal_arr, hmap], hrests⟩
  | @obj members hnodup hkeys _ ih =>
    intro other hother rest rest' _ _ h
    obtain ⟨members', rfl⟩ := exists_obj (opening_eq style h).symm
    cases hother with
    | obj hnodup' hkeys' hmembers' =>
      simp only [dumps_obj, List.cons_append, List.append_assoc, List.cons.injEq, true_and,
        List.nil_append] at h
      obtain ⟨hmap, hrests⟩ := container_append style (.inr rfl) (told_member style hkeys ih)
        (member_ne_closing style) (fun m hm => (Table.mem_orderBy _).1 hm)
        (fun m hm => ⟨hkeys' m ((Table.mem_orderBy _).1 hm),
          hmembers' m ((Table.mem_orderBy _).1 hm)⟩) h
      refine ⟨?_, hrests⟩
      rw [normal_obj, normal_obj, orderBy_map_snd, orderBy_map_snd, hmap]

/-- What a value is up to the order of its members, its text in one style says. -/
theorem dumps_normal (style : Style) {p : Text → Prop} (h : Sound p value) :
    dumps style (normal value) = dumps style value := by
  induction h with
  | null | bool | int | str => rfl
  | @arr items _ ih =>
    rw [normal_arr, dumps_arr, dumps_arr, List.map_map]
    exact congrArg (fun texts => 91 :: style.comma.intercalate texts ++ [93])
      (List.map_congr_left ih)
  | @obj members _ _ _ ih =>
    rw [normal_obj, dumps_obj, dumps_obj, Table.orderBy_orderBy, orderBy_map_snd, List.map_map]
    refine congrArg (fun texts => 123 :: style.comma.intercalate texts ++ [125])
      (List.map_congr_left fun m hm => ?_)
    change member style (m.1, normal m.2) = member style m
    rw [member, ih m ((Table.mem_orderBy _).1 hm)]
    rfl

/-- Two values have one text just when they are the same up to the order of their members. -/
theorem dumps_eq_iff (style : Style) {other : Tree} (hvalue : Encodable value)
    (hother : Encodable other) :
    dumps style value = dumps style other ↔ normal value = normal other := by
  constructor
  · intro h
    have hstops : Stops ([] : Text) := by rintro c ⟨⟩
    exact (told_dumps style value hvalue other hother [] [] hstops hstops (by rw [h])).1
  · intro h
    rw [← dumps_normal style hvalue, h, dumps_normal style hother]

/-- Values that are the same up to the order of members are sorted by their texts in one way. -/
theorem normal_orderBy (style : Style) {items items' : List Tree}
    (hitems : ∀ item ∈ items, Encodable item) (hitems' : ∀ item ∈ items', Encodable item)
    (hperm : (items.map normal).Perm (items'.map normal)) :
    (Table.orderBy (dumps style) items).map normal =
      (Table.orderBy (dumps style) items').map normal := by
  rw [Table.map_orderBy _ fun item hitem => dumps_normal style (hitems item hitem),
    Table.map_orderBy _ fun item hitem => dumps_normal style (hitems' item hitem)]
  refine Table.orderBy_eq_of_perm _ hperm ?_
  simp only [List.mem_map, forall_exists_index, and_imp, forall_apply_eq_imp_iff₂]
  intro item hitem other hother h
  rw [dumps_normal style (hitems item hitem), dumps_normal style (hitems other hother)] at h
  exact (dumps_eq_iff style (hitems item hitem) (hitems other hother)).1 h

end Tree

/-! ## Escapes -/

/-- `\uXXXX`. -/
def unicodeEscape (unit : ℕ) : Text :=
  text "\\u" ++ [hexDigit (unit / 4096), hexDigit (unit / 256 % 16), hexDigit (unit / 16 % 16),
    hexDigit (unit % 16)]

/-- A code point in a string, with `ensure_ascii=True`. -/
def escapeAscii (c : ℕ) : Text :=
  if 32 ≤ c ∧ c < 127 ∨ c ∈ [10, 13, 9, 12, 8] then escape c
  else if c < 0x10000 then unicodeEscape c
  else unicodeEscape (0xD800 + (c - 0x10000) / 0x400) ++
    unicodeEscape (0xDC00 + (c - 0x10000) % 0x400)

theorem hexValue_hexDigit : ∀ n < 16, hexValue (hexDigit n) = some n := by
  decide

theorem scan_unicodeEscape {unit : ℕ} (h : unit < 0x10000) (rest : Text) :
    scanString (unicodeEscape unit ++ rest) =
      (scanString rest).map fun (s, after) => (prependUnit unit rest s, after) := by
  have hcode : hexCode [hexDigit (unit / 4096), hexDigit (unit / 256 % 16),
      hexDigit (unit / 16 % 16), hexDigit (unit % 16)] = some unit := by
    simp only [hexCode, List.foldlM_cons, List.foldlM_nil,
      hexValue_hexDigit _ (show unit / 4096 < 16 by omega),
      hexValue_hexDigit _ (Nat.mod_lt _ (by decide : 0 < 16)), Option.map_some,
      Option.bind_eq_bind, Option.bind_some, Option.pure_def, Option.some.injEq]
    omega
  have htext : unicodeEscape unit ++ rest = 92 :: 117 :: hexDigit (unit / 4096) ::
      hexDigit (unit / 256 % 16) :: hexDigit (unit / 16 % 16) :: hexDigit (unit % 16) :: rest := rfl
  rw [htext, scanString]
  simp only [hcode]
  cases scanString rest <;> simp

/-- A code point behind its escape is read. -/
def ReadsBack (escape : ℕ → Text) : Prop :=
  ∀ c, Scalar c → ∀ rest, scanString (escape c ++ rest) =
    (scanString rest).map fun (s, after) => (c :: s, after)

theorem ReadsBack.flatMap {escape : ℕ → Text} (h : ReadsBack escape) : ∀ (s : Text),
    (∀ c ∈ s, Scalar c) → ∀ rest, scanString (s.flatMap escape ++ 34 :: rest) = some (s, rest)
  | [], _, rest => by
    rw [List.flatMap_nil, List.nil_append, scanString.eq_def]
    rfl
  | c :: s, hs, rest => by
    rw [List.flatMap_cons, List.append_assoc, h c (hs c List.mem_cons_self),
      h.flatMap s fun c hc => hs c (List.mem_cons_of_mem _ hc)]
    rfl

theorem prependUnit_of_not_high {unit : ℕ} (h : isHighSurrogate unit = false) (rest s : Text) :
    prependUnit unit rest s = unit :: s := by
  cases s with
  | nil => rfl
  | cons low s => simp [prependUnit, h]

theorem Scalar.not_high {c : ℕ} (h : Scalar c) : isHighSurrogate c = false := by
  simp only [Scalar, Nat.isValidChar, isHighSurrogate, decide_eq_false_iff_not] at h ⊢
  omega

theorem scan_shortEscape {e c : ℕ} (hunit : e ≠ 117) (h : shortEscape e = some c) (rest : Text) :
    scanString (92 :: e :: rest) = (scanString rest).map fun (s, after) => (c :: s, after) := by
  rw [scanString.eq_def]
  simp only [show ¬92 = 34 by decide, if_false, if_true, if_neg hunit, h]
  cases scanString rest <;> rfl

theorem readsBack_escape : ReadsBack escape := by
  intro c hc rest
  have hread : ∀ e, escape c = [92, e] → e ≠ 117 → shortEscape e = some c →
      scanString (escape c ++ rest) =
        (scanString rest).map fun (s, after) => (c :: s, after) := by
    intro e he hunit h
    rw [he]
    exact scan_shortEscape hunit h rest
  by_cases hquote : c = 34
  · subst hquote
    exact hread 34 rfl (by decide) rfl
  by_cases hslash : c = 92
  · subst hslash
    exact hread 92 rfl (by decide) rfl
  by_cases hline : c = 10
  · subst hline
    exact hread 110 rfl (by decide) rfl
  by_cases hreturn : c = 13
  · subst hreturn
    exact hread 114 rfl (by decide) rfl
  by_cases htab : c = 9
  · subst htab
    exact hread 116 rfl (by decide) rfl
  by_cases hform : c = 12
  · subst hform
    exact hread 102 rfl (by decide) rfl
  by_cases hback : c = 8
  · subst hback
    exact hread 98 rfl (by decide) rfl
  by_cases hcontrol : c < 32
  · have hunicode : escape c = unicodeEscape c := by
      rw [escape, if_neg hquote, if_neg hslash, if_neg hline, if_neg hreturn, if_neg htab,
        if_neg hform, if_neg hback, if_pos hcontrol, unicodeEscape,
        show c / 4096 = 0 by omega, show c / 256 % 16 = 0 by omega,
        show c / 16 % 16 = c / 16 by omega]
      rfl
    rw [hunicode, scan_unicodeEscape (by omega)]
    simp only [prependUnit_of_not_high hc.not_high]
  · have hplain : escape c = [c] := by
      rw [escape, if_neg hquote, if_neg hslash, if_neg hline, if_neg hreturn, if_neg htab,
        if_neg hform, if_neg hback, if_neg hcontrol]
    rw [hplain, List.singleton_append, scanString.eq_def]
    simp only [if_neg hquote, if_neg hslash, if_neg hcontrol]

theorem mem_escape {c : ℕ} (h : ¬Scalar c) : c ∈ escape c := by
  have hlarge : 0xD800 ≤ c := by
    simp only [Scalar, Nat.isValidChar] at h
    omega
  rw [escape, if_neg (by omega), if_neg (by omega), if_neg (by omega), if_neg (by omega),
    if_neg (by omega), if_neg (by omega), if_neg (by omega), if_neg (by omega)]
  exact List.mem_singleton_self c

theorem readsBack_escapeAscii : ReadsBack escapeAscii := by
  intro c hc rest
  rw [escapeAscii]
  split_ifs with hplain hunit
  · exact readsBack_escape c hc rest
  · rw [scan_unicodeEscape hunit]
    simp only [prependUnit_of_not_high hc.not_high]
  · have hvalid : c < 0x110000 := by
      simp only [Scalar, Nat.isValidChar] at hc
      omega
    -- the second unit stands alone, and the first one joins it
    rw [List.append_assoc, scan_unicodeEscape (by omega), scan_unicodeEscape (by omega)]
    have hjoin : joinSurrogates (0xD800 + (c - 0x10000) / 0x400)
        (0xDC00 + (c - 0x10000) % 0x400) = c := by
      unfold joinSurrogates
      omega
    have hlow : isHighSurrogate (0xDC00 + (c - 0x10000) % 0x400) = false := by
      simp only [isHighSurrogate, decide_eq_false_iff_not]
      omega
    cases scanString rest with
    | none => rfl
    | some read =>
      obtain ⟨s, after⟩ := read
      simp only [Option.map_some, prependUnit_of_not_high hlow, Option.some.injEq, Prod.mk.injEq,
        and_true]
      rw [prependUnit, if_pos, hjoin]
      refine ⟨?_, ?_, rfl⟩
      · simp only [isHighSurrogate, decide_eq_true_eq]
        omega
      · simp only [isLowSurrogate, decide_eq_true_eq]
        omega

/-- `separators=(",", ":"), ensure_ascii=False`. -/
def compact : Style where
  escape := escape
  comma := text ","
  colon := text ":"
  reads := readsBack_escape.flatMap
  comma_head := ⟨[], rfl⟩

/-- The style of `json.dumps` unless it is told otherwise. -/
def standard : Style where
  escape := escapeAscii
  comma := text ", "
  colon := text ": "
  reads := readsBack_escapeAscii.flatMap
  comma_head := ⟨[32], rfl⟩

end JsonWriting

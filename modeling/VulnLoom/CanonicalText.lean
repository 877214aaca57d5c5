import VulnLoom.Basic
import VulnLoom.JsonWriting

/-!
# The text of a canonical digest

A digest is taken of the JSON of a value, with the keys of a mapping in order and the items of a
set in the order of their own JSON, which is in ASCII. Two values have one text just when they are
the same up to the order of mappings and sets, and up to what kind a sequence is
(`encoded_eq_iff`). Floats, dates and enumerations are left out, and so is how deep Python can
recurse.
-/

namespace VulnLoom

namespace CanonicalText

open PythonJson JsonWriting

/-! ## Values -/

/-- A value to be digested; the items of a set are in the order in which it is gone through. -/
inductive Value
  | none
  | bool (value : Bool)
  | int (value : ℤ)
  | str (value : Text)
  | list (items : List Value)
  | tuple (items : List Value)
  | set (items : List Value)
  | map (items : List (Text × Value))

namespace Value

/-- Each string of a value has a property, and no mapping repeats a key. -/
inductive Sound (p : Text → Prop) : Value → Prop
  | none : Sound p .none
  | bool (value : Bool) : Sound p (.bool value)
  | int (value : ℤ) : Sound p (.int value)
  | str {value : Text} (h : p value) : Sound p (.str value)
  | list {items : List Value} (h : ∀ item ∈ items, Sound p item) : Sound p (.list items)
  | tuple {items : List Value} (h : ∀ item ∈ items, Sound p item) : Sound p (.tuple items)
  | set {items : List Value} (h : ∀ item ∈ items, Sound p item) : Sound p (.set items)
  | map {items : List (Text × Value)} (hnodup : (items.map Prod.fst).Nodup)
      (hkeys : ∀ m ∈ items, p m.1) (h : ∀ m ∈ items, Sound p m.2) : Sound p (.map items)

mutual

/-- `_canonicalize`. -/
def canonicalize : Value → Tree
  | none => .null
  | bool value => .bool value
  | int value => .int value
  | str value => .str value
  | list items => .arr (canonicalizeItems items)
  | tuple items => .arr (canonicalizeItems items)
  | set items => .arr (Table.orderBy (Tree.dumps standard) (canonicalizeItems items))
  | map items => .obj (canonicalizeMembers items)

def canonicalizeItems : List Value → List Tree
  | [] => []
  | item :: items => canonicalize item :: canonicalizeItems items

def canonicalizeMembers : List (Text × Value) → List (Text × Tree)
  | [] => []
  | (key, item) :: items => (key, canonicalize item) :: canonicalizeMembers items

end

theorem canonicalizeItems_eq : ∀ items : List Value,
    canonicalizeItems items = items.map canonicalize
  | [] => rfl
  | _ :: items => by rw [canonicalizeItems, canonicalizeItems_eq items, List.map_cons]

theorem canonicalizeMembers_eq : ∀ items : List (Text × Value),
    canonicalizeMembers items = items.map fun m => (m.1, canonicalize m.2)
  | [] => rfl
  | (_, _) :: items => by rw [canonicalizeMembers, canonicalizeMembers_eq items, List.map_cons]

/-- What the items of a set are sorted by. -/
def sortKey (item : Value) : Text :=
  (canonicalize item).dumps standard

theorem canonicalize_list (items : List Value) :
    canonicalize (.list items) = .arr (items.map canonicalize) := by
  rw [canonicalize, canonicalizeItems_eq]

theorem canonicalize_tuple (items : List Value) :
    canonicalize (.tuple items) = .arr (items.map canonicalize) := by
  rw [canonicalize, canonicalizeItems_eq]

theorem canonicalize_set (items : List Value) :
    canonicalize (.set items) = .arr ((Table.orderBy sortKey items).map canonicalize) := by
  rw [canonicalize, canonicalizeItems_eq, Table.map_orderBy]
  exact fun _ _ => rfl

theorem canonicalize_map (items : List (Text × Value)) :
    canonicalize (.map items) = .obj (items.map fun m => (m.1, canonicalize m.2)) := by
  rw [canonicalize, canonicalizeMembers_eq]

theorem Sound.canonicalize {p : Text → Prop} {value : Value} (h : Sound p value) :
    Tree.Sound p value.canonicalize := by
  induction h with
  | none => exact .null
  | bool value => exact .bool value
  | int value => exact .int value
  | str h => exact .str h
  | list _ ih =>
    rw [canonicalize_list]
    exact .arr (List.forall_mem_map.2 ih)
  | tuple _ ih =>
    rw [canonicalize_tuple]
    exact .arr (List.forall_mem_map.2 ih)
  | set _ ih =>
    rw [canonicalize_set]
    exact .arr (List.forall_mem_map.2 fun item hitem => ih item ((Table.mem_orderBy _).1 hitem))
  | map hnodup hkeys _ ih =>
    rw [canonicalize_map]
    refine .obj ?_ (List.forall_mem_map.2 hkeys) (List.forall_mem_map.2 ih)
    rwa [List.map_map]

end Value

/-! ## Encoding -/

/-- A value whose mappings have distinct keys. -/
structure DigestInput where
  value : Value
  keyed : value.Sound fun _ => True

inductive EncodeError
  | unicodeEncodeError
  deriving DecidableEq

/-- `str.encode`; the bytes are those of the string. -/
def encode (s : Text) : Except EncodeError String :=
  if ∀ c ∈ s, Scalar c then .ok (String.ofList (s.map Char.ofNat)) else .error .unicodeEncodeError

/-- What `canonical_digest` hashes. -/
def encoded (input : DigestInput) : Except EncodeError String :=
  encode (input.value.canonicalize.dumps compact)

theorem encode_eq_ok {s : Text} {t : String} :
    encode s = .ok t ↔ (∀ c ∈ s, Scalar c) ∧ String.ofList (s.map Char.ofNat) = t := by
  rw [encode]
  split_ifs with h
  · exact ⟨fun heq => ⟨h, Except.ok.inj heq⟩, fun heq => congrArg Except.ok heq.2⟩
  · simp [h]

theorem encode_injective {s s' : Text} {t : String} (h : encode s = .ok t)
    (h' : encode s' = .ok t) : s = s' := by
  obtain ⟨hs, rfl⟩ := encode_eq_ok.1 h
  obtain ⟨hs', heq⟩ := encode_eq_ok.1 h'
  have hback : ∀ {s : Text}, (∀ c ∈ s, Scalar c) → (s.map Char.ofNat).map Char.toNat = s := by
    intro s hs
    rw [List.map_map]
    refine (List.map_congr_left fun c hc => ?_).trans (List.map_id s)
    have hvalid : c.isValidChar := hs c hc
    rw [Function.comp, Char.ofNat, dif_pos hvalid]
    rfl
  rw [← hback hs, ← hback hs', String.ofList_injective heq]

/-! ## Sameness -/

/-- Values are the same up to the order of the entries of a mapping and of the items of a set, and
where `kinds` holds also up to their kind : a list, a tuple and a set are the same that have the
same items in the order of a sorted set. -/
inductive UpTo (kinds : Prop) : Value → Value → Prop
  | refl (value : Value) : UpTo kinds value value
  | symm {value other : Value} (h : UpTo kinds value other) : UpTo kinds other value
  | trans {first second third : Value} (h : UpTo kinds first second)
      (h' : UpTo kinds second third) : UpTo kinds first third
  | list {before after : List Value} {item other : Value} (h : UpTo kinds item other) :
      UpTo kinds (.list (before ++ item :: after)) (.list (before ++ other :: after))
  | tuple {before after : List Value} {item other : Value} (h : UpTo kinds item other) :
      UpTo kinds (.tuple (before ++ item :: after)) (.tuple (before ++ other :: after))
  | set {before after : List Value} {item other : Value} (h : UpTo kinds item other) :
      UpTo kinds (.set (before ++ item :: after)) (.set (before ++ other :: after))
  | map {before after : List (Text × Value)} {key : Text} {item other : Value}
      (h : UpTo kinds item other) :
      UpTo kinds (.map (before ++ (key, item) :: after)) (.map (before ++ (key, other) :: after))
  | mapOrder {items items' : List (Text × Value)} (h : items.Perm items') :
      UpTo kinds (.map items) (.map items')
  | setOrder {items items' : List Value} (h : items.Perm items') :
      UpTo kinds (.set items) (.set items')
  | sequence (hkinds : kinds) (items : List Value) : UpTo kinds (.tuple items) (.list items)
  | ordered (hkinds : kinds) {items : List Value}
      (h : items.Pairwise fun a b => a.sortKey ≤ b.sortKey) : UpTo kinds (.set items) (.list items)

abbrev Same : Value → Value → Prop :=
  UpTo True

abbrev Equal : Value → Value → Prop :=
  UpTo False

namespace UpTo

variable {p : Text → Prop} {items : List Value}

theorem sound_of_list (h : Value.Sound p (.list items)) : ∀ item ∈ items, Value.Sound p item := by
  cases h with
  | list h => exact h

theorem sound_of_tuple (h : Value.Sound p (.tuple items)) : ∀ item ∈ items, Value.Sound p item := by
  cases h with
  | tuple h => exact h

theorem sound_of_set (h : Value.Sound p (.set items)) : ∀ item ∈ items, Value.Sound p item := by
  cases h with
  | set h => exact h

theorem sound_of_map {items : List (Text × Value)} (h : Value.Sound p (.map items)) :
    (items.map Prod.fst).Nodup ∧ (∀ m ∈ items, p m.1) ∧
      ∀ m ∈ items, Value.Sound p m.2 := by
  cases h with
  | map hnodup hkeys h => exact ⟨hnodup, hkeys, h⟩

theorem forall_replace {α : Type} {q : α → Prop} {before after : List α} {a b : α}
    (h : q a ↔ q b) : (∀ x ∈ before ++ a :: after, q x) ↔ ∀ x ∈ before ++ b :: after, q x := by
  simp only [List.mem_append, List.mem_cons, or_imp, forall_and, forall_eq, h]

theorem sound_iff {kinds : Prop} (p : Text → Prop) {value other : Value}
    (h : UpTo kinds value other) :
    value.Sound p ↔ other.Sound p := by
  induction h with
  | refl => exact Iff.rfl
  | symm _ ih => exact ih.symm
  | trans _ _ ih ih' => exact ih.trans ih'
  | list _ ih =>
    exact ⟨fun h => .list ((forall_replace ih).1 (sound_of_list h)),
      fun h => .list ((forall_replace ih).2 (sound_of_list h))⟩
  | tuple _ ih =>
    exact ⟨fun h => .tuple ((forall_replace ih).1 (sound_of_tuple h)),
      fun h => .tuple ((forall_replace ih).2 (sound_of_tuple h))⟩
  | set _ ih =>
    exact ⟨fun h => .set ((forall_replace ih).1 (sound_of_set h)),
      fun h => .set ((forall_replace ih).2 (sound_of_set h))⟩
  | @map before after key item other _ ih =>
    have hkeys : (before ++ (key, item) :: after).map Prod.fst =
        (before ++ (key, other) :: after).map Prod.fst := by simp
    have hitems : (∀ m ∈ before ++ (key, item) :: after, m.2.Sound p) ↔
        ∀ m ∈ before ++ (key, other) :: after, m.2.Sound p := forall_replace ih
    have hnames : (∀ m ∈ before ++ (key, item) :: after, p m.1) ↔
        ∀ m ∈ before ++ (key, other) :: after, p m.1 := forall_replace Iff.rfl
    constructor
    · intro h
      obtain ⟨hnodup, hp, h⟩ := sound_of_map h
      exact .map (hkeys ▸ hnodup) (hnames.1 hp) (hitems.1 h)
    · intro h
      obtain ⟨hnodup, hp, h⟩ := sound_of_map h
      exact .map (hkeys ▸ hnodup) (hnames.2 hp) (hitems.2 h)
  | mapOrder hperm =>
    constructor
    · intro h
      obtain ⟨hnodup, hp, h⟩ := sound_of_map h
      exact .map ((hperm.map _).nodup_iff.1 hnodup) (fun m hm => hp m (hperm.mem_iff.2 hm))
        fun m hm => h m (hperm.mem_iff.2 hm)
    · intro h
      obtain ⟨hnodup, hp, h⟩ := sound_of_map h
      exact .map ((hperm.map _).nodup_iff.2 hnodup) (fun m hm => hp m (hperm.mem_iff.1 hm))
        fun m hm => h m (hperm.mem_iff.1 hm)
  | setOrder hperm =>
    exact ⟨fun h => .set fun item hitem => sound_of_set h item (hperm.mem_iff.2 hitem),
      fun h => .set fun item hitem => sound_of_set h item (hperm.mem_iff.1 hitem)⟩
  | sequence _ items =>
    exact ⟨fun h => .list (sound_of_tuple h), fun h => .tuple (sound_of_list h)⟩
  | ordered _ _ => exact ⟨fun h => .list (sound_of_set h), fun h => .set (sound_of_list h)⟩

section Replacement

variable {kinds : Prop}
variable {items items' : List Value}

/-- The items of a list, one replaced after the other. -/
theorem list_forall₂ (h : List.Forall₂ (UpTo kinds) items items') :
    ∀ before : List Value, UpTo kinds (.list (before ++ items)) (.list (before ++ items')) := by
  induction h with
  | nil => exact fun before => .refl _
  | @cons item other items items' h _ ih =>
    intro before
    have hrest := ih (before ++ [other])
    rw [List.append_assoc, List.append_assoc] at hrest
    exact (UpTo.list h).trans hrest

theorem tuple_forall₂ (h : List.Forall₂ (UpTo kinds) items items') :
    ∀ before : List Value, UpTo kinds (.tuple (before ++ items)) (.tuple (before ++ items')) := by
  induction h with
  | nil => exact fun before => .refl _
  | @cons item other items items' h _ ih =>
    intro before
    have hrest := ih (before ++ [other])
    rw [List.append_assoc, List.append_assoc] at hrest
    exact (UpTo.tuple h).trans hrest

theorem set_forall₂ (h : List.Forall₂ (UpTo kinds) items items') :
    ∀ before : List Value, UpTo kinds (.set (before ++ items)) (.set (before ++ items')) := by
  induction h with
  | nil => exact fun before => .refl _
  | @cons item other items items' h _ ih =>
    intro before
    have hrest := ih (before ++ [other])
    rw [List.append_assoc, List.append_assoc] at hrest
    exact (UpTo.set h).trans hrest

theorem map_forall₂ {items items' : List (Text × Value)}
    (h : List.Forall₂ (fun m m' => m.1 = m'.1 ∧ UpTo kinds m.2 m'.2) items items') :
    ∀ before : List (Text × Value),
      UpTo kinds (.map (before ++ items)) (.map (before ++ items')) := by
  induction h with
  | nil => exact fun before => .refl _
  | @cons m m' items items' h _ ih =>
    obtain ⟨key, item⟩ := m
    obtain ⟨key', other⟩ := m'
    obtain ⟨rfl, h⟩ := h
    intro before
    have hrest := ih (before ++ [(key, other)])
    rw [List.append_assoc, List.append_assoc] at hrest
    exact (UpTo.map h).trans hrest

end Replacement

end UpTo

/-! ## From texts to values -/

mutual

/-- A value that a JSON value is the canonical form of. -/
def back : Tree → Value
  | .null => .none
  | .bool value => .bool value
  | .int value => .int value
  | .str value => .str value
  | .arr items => .list (backItems items)
  | .obj members => .map (backMembers members)

def backItems : List Tree → List Value
  | [] => []
  | item :: items => back item :: backItems items

def backMembers : List (Text × Tree) → List (Text × Value)
  | [] => []
  | (key, item) :: members => (key, back item) :: backMembers members

end

theorem backItems_eq : ∀ items : List Tree, backItems items = items.map back
  | [] => rfl
  | _ :: items => by rw [backItems, backItems_eq items, List.map_cons]

theorem backMembers_eq : ∀ members : List (Text × Tree),
    backMembers members = members.map fun m => (m.1, back m.2)
  | [] => rfl
  | (_, _) :: members => by rw [backMembers, backMembers_eq members, List.map_cons]

theorem back_arr (items : List Tree) : back (.arr items) = .list (items.map back) := by
  rw [back, backItems_eq]

theorem back_obj (members : List (Text × Tree)) :
    back (.obj members) = .map (members.map fun m => (m.1, back m.2)) := by
  rw [back, backMembers_eq]

variable {items : List Value}

/-- A list of items and the list of what their canonical forms are the forms of. -/
theorem same_list_back (h : ∀ item ∈ items, Same item (back item.canonicalize)) :
    Same (.list items) (back (.arr (items.map Value.canonicalize))) := by
  rw [back_arr, List.map_map]
  refine UpTo.list_forall₂ ?_ []
  exact List.forall₂_map_right_iff.2 (List.forall₂_same.2 h)

variable {value : Value}

theorem same_back {p : Text → Prop} (h : value.Sound p) : Same value (back value.canonicalize) := by
  induction h with
  | none | bool | int | str => exact .refl _
  | @list items _ ih =>
    rw [Value.canonicalize_list]
    exact same_list_back ih
  | @tuple items _ ih =>
    rw [Value.canonicalize_tuple]
    exact (UpTo.sequence trivial items).trans (same_list_back ih)
  | @set items _ ih =>
    rw [Value.canonicalize_set]
    have horder : Same (.set items) (.set (Table.orderBy Value.sortKey items)) :=
      .setOrder (Table.perm_orderBy Value.sortKey items).symm
    have hlist := UpTo.ordered trivial (Table.pairwise_le_orderBy Value.sortKey items)
    refine horder.trans (hlist.trans (same_list_back fun item hitem => ?_))
    exact ih item ((Table.mem_orderBy _).1 hitem)
  | @map items _ _ _ ih =>
    rw [Value.canonicalize_map, back_obj, List.map_map]
    refine UpTo.map_forall₂ ?_ []
    exact List.forall₂_map_right_iff.2 (List.forall₂_same.2 fun m hm => ⟨rfl, ih m hm⟩)

theorem back_normal {p : Text → Prop} {value : Tree} (h : value.Sound p) :
    Same (back value) (back value.normal) := by
  induction h with
  | null | bool | int | str => exact .refl _
  | @arr items _ ih =>
    rw [Tree.normal_arr, back_arr, back_arr, List.map_map]
    refine UpTo.list_forall₂ ?_ []
    exact List.forall₂_map_left_iff.2 (List.forall₂_map_right_iff.2 (List.forall₂_same.2 ih))
  | @obj members _ _ _ ih =>
    have hperm := (Table.perm_orderBy Prod.fst (members.map fun m => (m.1, m.2.normal))).symm.map
      fun m => (m.1, back m.2)
    rw [Tree.normal_obj, back_obj, back_obj]
    refine UpTo.trans (UpTo.map_forall₂ ?_ []) (.mapOrder hperm)
    rw [List.map_map]
    exact List.forall₂_map_left_iff.2 (List.forall₂_map_right_iff.2
      (List.forall₂_same.2 fun m hm => ⟨rfl, ih m hm⟩))

/-- The strings of a value can be encoded. -/
abbrev Encodable : Value → Prop :=
  Value.Sound fun s => ∀ c ∈ s, Scalar c

theorem mem_intercalate {separator text : Text} {c : ℕ} (hc : c ∈ text) :
    ∀ {texts : List Text}, text ∈ texts → c ∈ separator.intercalate texts
  | [single], h => by
    rw [List.mem_singleton.1 h] at hc
    simpa [List.intercalate] using hc
  | first :: second :: texts, h => by
    rw [List.intercalate_cons_cons, List.mem_append, List.mem_append]
    rcases List.mem_cons.1 h with rfl | h
    · exact .inl (.inl hc)
    · exact .inr (mem_intercalate hc h)

theorem encodable_of_escape {s : Text} (h : ∀ c ∈ s.flatMap escape, Scalar c) :
    ∀ c ∈ s, Scalar c := by
  intro c hc
  by_contra hscalar
  exact hscalar (h c (List.mem_flatMap.2 ⟨c, hc, mem_escape hscalar⟩))

theorem encodable_items
    (h : ∀ c ∈ (Tree.arr (items.map Value.canonicalize)).dumps compact, Scalar c) :
    ∀ item ∈ items, ∀ c ∈ item.canonicalize.dumps compact, Scalar c := by
  intro item hitem c hc
  refine h c ?_
  rw [Tree.dumps_arr, List.cons_append]
  refine List.mem_cons_of_mem _ (List.mem_append_left _ (mem_intercalate hc ?_))
  exact List.mem_map_of_mem (List.mem_map_of_mem hitem)

/-- A value with a text that can be encoded has strings that can be. -/
theorem encodable_of_dumps (hvalue : value.Sound fun _ => True) :
    (∀ c ∈ value.canonicalize.dumps compact, Scalar c) → Encodable value := by
  induction hvalue with
  | none => exact fun _ => .none
  | bool value => exact fun _ => .bool value
  | int value => exact fun _ => .int value
  | str =>
    intro h
    refine .str (encodable_of_escape fun c hc => h c ?_)
    rw [Value.canonicalize, Tree.dumps, List.cons_append]
    exact List.mem_cons_of_mem _ (List.mem_append_left _ hc)
  | list _ ih =>
    intro h
    rw [Value.canonicalize_list] at h
    exact .list fun item hitem => ih item hitem (encodable_items h item hitem)
  | tuple _ ih =>
    intro h
    rw [Value.canonicalize_tuple] at h
    exact .tuple fun item hitem => ih item hitem (encodable_items h item hitem)
  | set _ ih =>
    intro h
    rw [Value.canonicalize_set] at h
    exact .set fun item hitem =>
      ih item hitem (encodable_items h item ((Table.mem_orderBy _).2 hitem))
  | @map items hnodup _ _ ih =>
    intro h
    rw [Value.canonicalize_map, Tree.dumps_obj, List.cons_append] at h
    have hmember : ∀ m ∈ items,
        ∀ c ∈ Tree.member compact (m.1, m.2.canonicalize), Scalar c := by
      intro m hm c hc
      refine h c (List.mem_cons_of_mem _ (List.mem_append_left _ (mem_intercalate hc ?_)))
      refine List.mem_map_of_mem ((Table.mem_orderBy _).2 ?_)
      exact List.mem_map_of_mem (f := fun m : Text × Value => (m.1, m.2.canonicalize)) hm
    refine .map hnodup (fun m hm => encodable_of_escape fun c hc => hmember m hm c ?_)
      fun m hm => ih m hm fun c hc => hmember m hm c ?_
    · exact List.mem_append_left _ (List.mem_append_left _ (List.mem_cons_of_mem _ hc))
    · exact List.mem_append_right _ hc

theorem normal_set {items' : List Value} (hitems : ∀ item ∈ items, Encodable item)
    (hitems' : ∀ item ∈ items', Encodable item)
    (hperm : (items.map fun item => item.canonicalize.normal).Perm
      (items'.map fun item => item.canonicalize.normal)) :
    (Value.set items).canonicalize.normal = (Value.set items').canonicalize.normal := by
  rw [Value.canonicalize, Value.canonicalize, Value.canonicalizeItems_eq,
    Value.canonicalizeItems_eq, Tree.normal_arr, Tree.normal_arr]
  refine congrArg Tree.arr (Tree.normal_orderBy standard
    (List.forall_mem_map.2 fun item hitem => (hitems item hitem).canonicalize)
    (List.forall_mem_map.2 fun item hitem => (hitems' item hitem).canonicalize) ?_)
  rwa [List.map_map, List.map_map]

/-- Values that are the same have canonical forms that are. -/
theorem normal_eq_of_same {kinds : Prop} {other : Value} (h : UpTo kinds value other) :
    Encodable value → value.canonicalize.normal = other.canonicalize.normal := by
  induction h with
  | refl => exact fun _ => rfl
  | symm h ih => exact fun hother => (ih ((h.sound_iff _).2 hother)).symm
  | trans h _ ih ih' => exact fun hfirst => (ih hfirst).trans (ih' ((h.sound_iff _).1 hfirst))
  | list h ih =>
    intro hlist
    have hitem := ih (UpTo.sound_of_list hlist _ (List.mem_append_right _ List.mem_cons_self))
    simp only [Value.canonicalize_list, Tree.normal_arr, List.map_append, List.map_cons, hitem]
  | tuple h ih =>
    intro htuple
    have hitem := ih (UpTo.sound_of_tuple htuple _ (List.mem_append_right _ List.mem_cons_self))
    simp only [Value.canonicalize_tuple, Tree.normal_arr, List.map_append, List.map_cons, hitem]
  | set h ih =>
    intro hset
    have hitems := UpTo.sound_of_set hset
    have hitem := ih (hitems _ (List.mem_append_right _ List.mem_cons_self))
    refine normal_set hitems (UpTo.sound_of_set (((UpTo.set h).sound_iff _).1 hset)) (.of_eq ?_)
    simp only [List.map_append, List.map_cons, hitem]
  | map h ih =>
    intro hmap
    have hitem := ih ((UpTo.sound_of_map hmap).2.2 _ (List.mem_append_right _ List.mem_cons_self))
    simp only [Value.canonicalize_map, Tree.normal_obj, List.map_append, List.map_cons, hitem]
  | @mapOrder items items' hperm =>
    intro hmap
    rw [Value.canonicalize_map, Value.canonicalize_map, Tree.normal_obj, Tree.normal_obj]
    refine congrArg Tree.obj
      (Table.orderBy_eq_of_perm _ ((hperm.map _).map _) fun m hm m' hm' => ?_)
    refine Table.eq_of_key ?_ hm hm'
    rw [List.map_map, List.map_map]
    exact (UpTo.sound_of_map hmap).1
  | setOrder hperm =>
    intro hset
    have hitems := UpTo.sound_of_set hset
    exact normal_set hitems (fun item hitem => hitems item (hperm.mem_iff.2 hitem)) (hperm.map _)
  | sequence _ items => exact fun _ => by rw [Value.canonicalize_tuple, Value.canonicalize_list]
  | ordered _ h =>
    intro _
    rw [Value.canonicalize_set, Table.orderBy_eq_self _ h, Value.canonicalize_list]

/-! ## Values of one type -/

/-- What a type says about how sequences nest; a record is a mapping with a type for each field. -/
inductive Shape
  | scalar
  | optional (shape : Shape)
  | list (item : Shape)
  | tuple (item : ℕ → Shape)
  | set (item : Shape)
  | map (field : Text → Shape)

inductive Fits : Shape → Value → Prop
  | none : Fits .scalar .none
  | bool (value : Bool) : Fits .scalar (.bool value)
  | int (value : ℤ) : Fits .scalar (.int value)
  | str (value : Text) : Fits .scalar (.str value)
  | absent (shape : Shape) : Fits (.optional shape) .none
  | present {shape : Shape} {value : Value} (h : Fits shape value) : Fits (.optional shape) value
  | list {item : Shape} {items : List Value} (h : ∀ value ∈ items, Fits item value) :
      Fits (.list item) (.list items)
  | tuple {item : ℕ → Shape} {items : List Value}
      (h : ∀ i value, items[i]? = some value → Fits (item i) value) :
      Fits (.tuple item) (.tuple items)
  | set {item : Shape} {items : List Value} (h : ∀ value ∈ items, Fits item value) :
      Fits (.set item) (.set items)
  | map {field : Text → Shape} {items : List (Text × Value)}
      (h : ∀ m ∈ items, Fits (field m.1) m.2) : Fits (.map field) (.map items)

theorem eq_none (h : value.canonicalize.normal = .null) : value = .none := by
  cases value <;> simp [Value.canonicalize, Tree.normal] at h ⊢

theorem forall₂_of_map {α β : Type} {f : α → β} {R : α → α → Prop} : ∀ {xs ys : List α},
    xs.map f = ys.map f →
    (∀ (i : ℕ) x y, xs[i]? = some x → ys[i]? = some y → f x = f y → R x y) →
      List.Forall₂ R xs ys
  | [], [], _, _ => .nil
  | x :: xs, y :: ys, h, hR => by
    rw [List.map_cons, List.map_cons, List.cons.injEq] at h
    exact .cons (hR 0 x y rfl rfl h.1) (forall₂_of_map h.2 fun i => hR (i + 1))

/-- Values of one type with one canonical form are equal. -/
theorem equal_of_fits {shape : Shape} (h : Fits shape value) : ∀ {other : Value}, Fits shape other →
      value.canonicalize.normal = other.canonicalize.normal → Equal value other := by
  induction h with
  | none =>
    intro other _ hnormal
    rw [eq_none hnormal.symm]
    exact .refl _
  | bool b =>
    intro other hother hnormal
    cases hother with
    | bool b' =>
      cases hnormal
      exact .refl _
    | none | int | str => cases hnormal
  | int z =>
    intro other hother hnormal
    cases hother with
    | int z' =>
      cases hnormal
      exact .refl _
    | none | bool | str => cases hnormal
  | str s =>
    intro other hother hnormal
    cases hother with
    | str s' =>
      cases hnormal
      exact .refl _
    | none | bool | int => cases hnormal
  | absent shape =>
    intro other _ hnormal
    rw [eq_none hnormal.symm]
    exact .refl _
  | present _ ih =>
    intro other hother hnormal
    cases hother with
    | absent =>
      rw [eq_none hnormal]
      exact .refl _
    | present hother => exact ih hother hnormal
  | list _ ih =>
    intro other hother hnormal
    cases hother with
    | list hitems =>
      rw [Value.canonicalize_list, Value.canonicalize_list, Tree.normal_arr, Tree.normal_arr,
        List.map_map, List.map_map] at hnormal
      refine UpTo.list_forall₂ (forall₂_of_map (Tree.arr.inj hnormal) ?_) []
      intro i item item' hi hi' heq
      exact ih item (List.mem_of_getElem? hi) (hitems item' (List.mem_of_getElem? hi')) heq
  | tuple _ ih =>
    intro other hother hnormal
    cases hother with
    | tuple hitems =>
      rw [Value.canonicalize_tuple, Value.canonicalize_tuple, Tree.normal_arr, Tree.normal_arr,
        List.map_map, List.map_map] at hnormal
      refine UpTo.tuple_forall₂ (forall₂_of_map (Tree.arr.inj hnormal) ?_) []
      intro i item item' hi hi' heq
      exact ih i item hi (hitems i item' hi') heq
  | @set shape items _ ih =>
    intro other hother hnormal
    cases hother with
    | @set _ items' hitems =>
      rw [Value.canonicalize_set, Value.canonicalize_set, Tree.normal_arr, Tree.normal_arr,
        List.map_map, List.map_map] at hnormal
      have hordered : Equal (.set (Table.orderBy Value.sortKey items))
          (.set (Table.orderBy Value.sortKey items')) := by
        refine UpTo.set_forall₂ (forall₂_of_map (Tree.arr.inj hnormal) ?_) []
        intro i item item' hi hi' heq
        exact ih item ((Table.mem_orderBy _).1 (List.mem_of_getElem? hi))
          (hitems item' ((Table.mem_orderBy _).1 (List.mem_of_getElem? hi'))) heq
      exact (UpTo.setOrder (Table.perm_orderBy Value.sortKey items).symm).trans
        (hordered.trans (.setOrder (Table.perm_orderBy Value.sortKey items')))
  | @map field items _ ih =>
    intro other hother hnormal
    cases hother with
    | @map _ items' hitems =>
      rw [Value.canonicalize_map, Value.canonicalize_map, Tree.normal_obj, Tree.normal_obj,
        List.map_map, List.map_map] at hnormal
      have hmap := Tree.obj.inj hnormal
      simp only [Function.comp_def, Tree.orderBy_map_snd fun v : Value => v.canonicalize.normal]
        at hmap
      have hordered : Equal (.map (Table.orderBy Prod.fst items))
          (.map (Table.orderBy Prod.fst items')) := by
        refine UpTo.map_forall₂ (forall₂_of_map hmap ?_) []
        intro i m m' hi hi' heq
        obtain ⟨hkey, hvalue⟩ := Prod.ext_iff.1 heq
        have hfits := hitems m' ((Table.mem_orderBy _).1 (List.mem_of_getElem? hi'))
        rw [← show m.1 = m'.1 from hkey] at hfits
        exact ⟨hkey, ih m ((Table.mem_orderBy _).1 (List.mem_of_getElem? hi)) hfits hvalue⟩
      exact (UpTo.mapOrder (Table.perm_orderBy Prod.fst items).symm).trans
        (hordered.trans (.mapOrder (Table.perm_orderBy Prod.fst items')))

/-! ## The text of a value -/

/-- Two texts are one just when the values are the same; values of one type are then equal. -/
theorem encoded_eq_iff {input other : DigestInput} {text text' : String}
    (h : encoded input = .ok text) (h' : encoded other = .ok text') :
    (text = text' ↔ Same input.value other.value) ∧
      ∀ shape, Fits shape input.value → Fits shape other.value → text = text' →
        Equal input.value other.value := by
  have hinput := encodable_of_dumps input.keyed (encode_eq_ok.1 h).1
  have hother := encodable_of_dumps other.keyed (encode_eq_ok.1 h').1
  have hdumps := Tree.dumps_eq_iff compact hinput.canonicalize hother.canonicalize
  have hnormal : text = text' →
      input.value.canonicalize.normal = other.value.canonicalize.normal := by
    rintro rfl
    exact hdumps.1 (encode_injective h h')
  refine ⟨⟨fun heq => ?_, fun hsame => ?_⟩, fun shape hfits hfits' heq => ?_⟩
  · refine (same_back hinput).trans ((back_normal hinput.canonicalize).trans ?_)
    rw [hnormal heq]
    exact ((same_back hother).trans (back_normal hother.canonicalize)).symm
  · rw [encoded, hdumps.2 (normal_eq_of_same hsame hinput)] at h
    exact Except.ok.inj (h.symm.trans h')
  · exact equal_of_fits hfits hfits' (hnormal heq)

section

/-- `{2, 1}`, and the list of its items in order. -/
def sampleSet : DigestInput where
  value := .set [.int 2, .int 1]
  keyed := .set (by simp [Value.Sound.int])

def sampleList : DigestInput where
  value := .list [.int 1, .int 2]
  keyed := .list (by simp [Value.Sound.int])

theorem sampleSet_text :
    ("[1,2]" = "[1,2]" ↔ Same sampleSet.value sampleList.value) ∧
      ∀ shape, Fits shape sampleSet.value → Fits shape sampleList.value → "[1,2]" = "[1,2]" →
        Equal sampleSet.value sampleList.value :=
  encoded_eq_iff (show encoded sampleSet = .ok "[1,2]" by decide +kernel)
    (show encoded sampleList = .ok "[1,2]" by decide +kernel)

end

end CanonicalText

end VulnLoom

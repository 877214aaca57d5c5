import Mathlib.Algebra.GroupWithZero.Nat
import Mathlib.Algebra.Order.Ring.Unbundled.Rat
import Mathlib.Algebra.Ring.Rat
import Mathlib.Data.List.Dedup
import Mathlib.Data.List.Forall2
import Mathlib.Data.List.Infix
import Mathlib.Data.List.Sort
import Mathlib.Data.String.Basic
import Mathlib.Tactic.Common

/-!
# Shared types

Identifiers and digests are the texts the program stores; an instant is a count of
microseconds. A content-addressed record has no field for its identifier : its validator
forces the identifier to be `canonical_digest` of the other fields, so it is a function of
the record (`CanonicalDigest`). The pattern `[0-9a-f]{64}` of a digest is not imposed,
since no function into a finite type is injective and some results assume the digest is.

A function that may raise returns `Except`. `raiseIf` is the source's `if …: raise`.
-/

namespace VulnLoom

-- A quantifier over a list is decided along the list, also where all of the type could be gone
-- through.
instance (priority := 1100) decidableForallMem {α : Type*} (p : α → Prop) [DecidablePred p]
    (l : List α) : Decidable (∀ a ∈ l, p a) :=
  List.decidableBAll p l

instance (priority := 1100) decidableExistsMem {α : Type*} (p : α → Prop) [DecidablePred p]
    (l : List α) : Decidable (∃ a ∈ l, p a) :=
  List.decidableBEx p l

/-- `Digest` : a SHA-256 text. -/
abbrev Digest := String

abbrev UUID := String

/-- `AwareDatetime`, in microseconds. -/
abbrev Time := ℕ

/-- `sorted(set(refs))`. -/
def sortedSet (refs : List Digest) : List Digest :=
  refs.dedup.insertionSort (· ≤ ·)

/-- `canonical_digest` of the canonical form of a record. -/
class CanonicalDigest (α : Type) where
  canonicalDigest : α → Digest

export CanonicalDigest (canonicalDigest)

variable {ε : Type*} {α β : Type}

/-- `if p: raise e`. -/
def raiseIf (p : Prop) [Decidable p] (e : ε) : Except ε Unit :=
  if p then .error e else .ok ()

variable {e : ε}

@[simp] theorem raiseIf_eq_ok {p : Prop} [Decidable p] {u : Unit} : raiseIf p e = .ok u ↔ ¬p := by
  unfold raiseIf
  split_ifs with h <;> simp [h]

@[simp] theorem raiseIf_eq_error {p : Prop} [Decidable p] {e' : ε} :
    raiseIf p e = .error e' ↔ p ∧ e = e' := by
  unfold raiseIf
  split_ifs with h <;> simp [h]

@[simp] theorem raiseIf_false : raiseIf False e = .ok () :=
  rfl

/-- A value that may be missing, or the exception raised for its absence. -/
def orRaise (o : Option α) (e : ε) : Except ε α :=
  match o with
  | some a => .ok a
  | none => .error e

variable {a : α}

@[simp] theorem orRaise_eq_ok {o : Option α} : orRaise o e = .ok a ↔ o = some a := by
  cases o <;> simp [orRaise]

@[simp] theorem orRaise_eq_error {o : Option α} {e' : ε} :
    orRaise o e = .error e' ↔ o = none ∧ e = e' := by
  cases o <;> simp [orRaise]

variable {x : Except ε α} {f : α → Except ε β}

/-- A sequence returns when both parts do. -/
@[simp] theorem bind_eq_ok {b : β} : (x >>= f) = .ok b ↔ ∃ a, x = .ok a ∧ f a = .ok b := by
  cases x <;> simp [bind, Except.bind]

@[simp] theorem ok_bind : (Except.ok a >>= f) = f a :=
  rfl

/-- A sequence raises when one of its parts does. -/
theorem bind_eq_error : (x >>= f) = .error e ↔ x = .error e ∨ ∃ a, x = .ok a ∧ f a = .error e := by
  cases x <;> simp [bind, Except.bind]

@[simp] theorem pure_ne_error : (pure a : Except ε α) ≠ .error e := by
  simp [pure, Except.pure]

@[simp] theorem pure_eq_ok {b : α} : (pure a : Except ε α) = .ok b ↔ a = b := by
  simp [pure, Except.pure]

@[simp] theorem throw_ne_ok {b : α} : (throw e : Except ε α) ≠ .ok b := by
  intro h
  cases h

@[simp] theorem mapError_eq_ok {ε' : Type*} {f : ε → ε'} : x.mapError f = .ok a ↔ x = .ok a := by
  cases x <;> simp [Except.mapError]

theorem mapError_eq_error {ε' : Type*} {f : ε → ε'} {e : ε'} :
    x.mapError f = .error e ↔ ∃ e', x = .error e' ∧ f e' = e := by
  cases x <;> simp [Except.mapError]

/-- A sequence of calls returns what they return one by one. -/
theorem mapM_eq_ok {f : α → Except ε β} : ∀ {as : List α} {bs : List β},
    as.mapM f = .ok bs ↔ List.Forall₂ (fun a b => f a = .ok b) as bs
  | [], bs => by
    rw [List.mapM_nil, List.forall₂_nil_left_iff]
    exact pure_eq_ok.trans eq_comm
  | a :: as, bs => by
    rw [List.mapM_cons, List.forall₂_cons_left_iff]
    simp only [bind_eq_ok, pure_eq_ok, mapM_eq_ok]
    constructor
    · rintro ⟨b, hb, cs, hcs, rfl⟩
      exact ⟨b, cs, hb, hcs, rfl⟩
    · rintro ⟨b, cs, hb, hcs, rfl⟩
      exact ⟨b, hb, cs, hcs, rfl⟩

/-- A sequence of checks passes when every one of them does. -/
theorem forM_eq_ok {f : α → Except ε Unit} : ∀ {as : List α},
    as.forM f = .ok () ↔ ∀ a ∈ as, f a = .ok ()
  | [] => by simp [pure, Except.pure]
  | a :: as => by
    have hcons : (a :: as).forM f = f a >>= fun _ => as.forM f := rfl
    rw [hcons, bind_eq_ok, List.forall_mem_cons]
    constructor
    · rintro ⟨⟨⟩, ha, has⟩
      exact ⟨ha, forM_eq_ok.mp has⟩
    · exact fun h => ⟨(), h.1, forM_eq_ok.mpr h.2⟩

/-- A sequence of calls returns when every one of them does. -/
theorem mapM_isOk {f : α → Except ε β} : ∀ {as : List α},
    (∃ bs, as.mapM f = .ok bs) ↔ ∀ a ∈ as, ∃ b, f a = .ok b
  | [] => by simp
  | a :: as => by
    simp only [List.mapM_cons, bind_eq_ok, pure_eq_ok, List.forall_mem_cons, ← mapM_isOk]
    constructor
    · rintro ⟨-, b, hb, cs, hcs, -⟩
      exact ⟨⟨b, hb⟩, cs, hcs⟩
    · rintro ⟨⟨b, hb⟩, cs, hcs⟩
      exact ⟨b :: cs, b, hb, cs, hcs, rfl⟩

/-- A sequence of calls that returns has every one of them return. -/
theorem exists_ok_of_mapM {as : List α} {bs : List β} (h : as.mapM f = .ok bs) :
    ∀ a ∈ as, ∃ b, f a = .ok b :=
  mapM_isOk.1 ⟨bs, h⟩

/-- A sequence of calls raises what one of them raises. -/
theorem exists_error_of_mapM {f : α → Except ε β} {e : ε} : ∀ {as : List α},
    as.mapM f = .error e → ∃ a ∈ as, f a = .error e
  | [], h => absurd h pure_ne_error
  | a :: as, h => by
    simp only [List.mapM_cons, bind_eq_error, pure_ne_error, and_false, exists_false,
      or_false] at h
    rcases h with h | ⟨b, -, h⟩
    · exact ⟨a, List.mem_cons_self, h⟩
    · obtain ⟨a', ha', he⟩ := exists_error_of_mapM h
      exact ⟨a', List.mem_cons_of_mem _ ha', he⟩

/-- What a sequence of calls returns is what each of them returns. -/
theorem mem_mapM {as : List α} {bs : List β} (h : as.mapM f = .ok bs) {b : β} :
    b ∈ bs ↔ ∃ a ∈ as, f a = .ok b := by
  have hall := mapM_eq_ok.1 h
  clear h
  induction hall with
  | nil => simp
  | cons hab _ ih => simp [ih, hab, eq_comm]

/-- What a computation returns, where it is seen to return. -/
theorem eq_ok_get (h : x.toOption.isSome) : x = .ok (x.toOption.get h) := by
  cases x with
  | error e => cases h
  | ok a => rfl

/-- What a computation that returns gives, from its value at a concrete input. -/
theorem exists_ok_of_map {f : α → β} {b : β} (h : x.toOption.map f = some b) :
    ∃ a, x = .ok a ∧ f a = b := by
  cases x with
  | error e => cases h
  | ok a => exact ⟨a, rfl, Option.some.inj h⟩

/-! ## Bounds of the samples -/

theorem one_lt_fifty : (1 : Time) < 50 := by decide
theorem two_lt_fifty : (2 : Time) < 50 := by decide
theorem three_lt_fifty : (3 : Time) < 50 := by decide
theorem zero_lt_hundred : (0 : Time) < 100 := by decide
theorem first_of_two : 1 ≤ 1 ∧ 1 ≤ 2 := by decide
theorem first_of_three : 1 ≤ 1 ∧ 1 ≤ 3 := by decide
theorem last_of_three : 1 ≤ 3 ∧ 3 ≤ 3 := by decide
theorem two_of_twenty : 1 ≤ 2 ∧ 2 ≤ 20 := by decide
theorem ten_actions : 1 ≤ 10 ∧ 10 ≤ 10000 := by decide
theorem tokens_bounds : 0 < 4096 ∧ 4096 ≤ 65536 := by decide
theorem status_bounds : 100 ≤ 200 ∧ 200 ≤ 599 := by decide
theorem address_ne : "1.1.1.1" ≠ "" := by decide
theorem first_version : 1 = 1 ↔ (none : Option Digest) = none := by decide

/-! ## Characters -/

theorem toNat_of_isUpper {c : Char} : c.isUpper = true ↔ 65 ≤ c.toNat ∧ c.toNat ≤ 90 := by
  delta Char.isUpper
  simp only [decide_eq_true_eq, ge_iff_le, UInt32.le_iff_toNat_le]
  exact Iff.rfl

theorem toNat_of_isLower {c : Char} : c.isLower = true ↔ 97 ≤ c.toNat ∧ c.toNat ≤ 122 := by
  delta Char.isLower
  simp only [Bool.and_eq_true, decide_eq_true_eq, ge_iff_le, UInt32.le_iff_toNat_le]
  exact Iff.rfl

theorem isAlpha_iff {c : Char} : c.isAlpha = true ↔ c.isUpper = true ∨ c.isLower = true :=
  Bool.or_eq_true_iff

theorem isAlphanum_iff {c : Char} : c.isAlphanum = true ↔ c.isAlpha = true ∨ c.isDigit = true :=
  Bool.or_eq_true_iff

theorem toNat_of_isDigit {c : Char} : c.isDigit = true ↔ 48 ≤ c.toNat ∧ c.toNat ≤ 57 := by
  simp only [Char.isDigit, Bool.and_eq_true, decide_eq_true_eq, ge_iff_le, UInt32.le_iff_toNat_le]
  exact Iff.rfl

end VulnLoom

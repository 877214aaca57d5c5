import Mathlib.Data.List.Basic
import Mathlib.Data.Nat.Bits
import Mathlib.Data.Rat.Defs

/-!
# Text codecs

A codec writes a value as characters and reads it back, leaving what follows it
(`read_write`). Codecs compose : pairs are written one after the other, a list with a mark
before each item and one after the last, and a record through the tuple of its fields
(`TextCodec.record`). A codec gives an injective text of every value (`text_injective`).
-/

/-- Self-delimiting texts for `α`. -/
class TextCodec (α : Type*) where
  write : α → List Char
  read : List Char → Option (α × List Char)
  read_write : ∀ (a : α) (rest : List Char), read (write a ++ rest) = some (a, rest)

namespace TextCodec

variable {α β : Type*} [TextCodec α] [TextCodec β]

/-- The text of a value. -/
def text (a : α) : String :=
  String.ofList (write a)

/-- The value a text stands for. -/
def parse (s : String) : Option α :=
  (read s.toList).bind fun r => if r.2 = [] then some r.1 else none

@[simp] theorem parse_text (a : α) : parse (text a) = some a := by
  have h := read_write a []
  rw [List.append_nil] at h
  simp [parse, text, h]

theorem text_injective : Function.Injective (text : α → String) := by
  intro a b h
  have hparse : (parse (text a) : Option α) = parse (text b) := by rw [h]
  simpa using hparse

instance : TextCodec Char where
  write c := [c]
  read
    | [] => none
    | c :: rest => some (c, rest)
  read_write _ _ := rfl

instance : TextCodec Bool where
  write b := [if b then 't' else 'f']
  read
    | 't' :: rest => some (true, rest)
    | 'f' :: rest => some (false, rest)
    | _ => none
  read_write b _ := by cases b <;> rfl

instance : TextCodec (α × β) where
  write p := write p.1 ++ write p.2
  read cs := (read cs).bind fun (a, rest) => (read rest).map fun (b, rest) => ((a, b), rest)
  read_write p rest := by simp [List.append_assoc, read_write]

/-! ## Lists -/

/-- Each item after a `','`, and `';'` after the last. -/
def writeList : List α → List Char
  | [] => [';']
  | a :: as => ',' :: (write a ++ writeList as)

def readList : ℕ → List Char → Option (List α × List Char)
  | _, ';' :: rest => some ([], rest)
  | n + 1, ',' :: rest =>
    (read rest).bind fun (a, rest) => (readList n rest).map fun (as, rest) => (a :: as, rest)
  | _, _ => none

theorem readList_writeList : ∀ (n : ℕ) (as : List α) (rest : List Char), as.length ≤ n →
    readList n (writeList as ++ rest) = some (as, rest)
  | 0, [], _, _ => rfl
  | _ + 1, [], _, _ => rfl
  | n + 1, a :: as, rest, h => by
    have hrest := readList_writeList n as rest (by simpa using h)
    simp [writeList, readList, read_write, hrest, List.append_assoc]

theorem length_le_writeList : ∀ as : List α, as.length ≤ (writeList as).length
  | [] => Nat.zero_le _
  | a :: as => by
    have := length_le_writeList as
    simp only [writeList, List.length_cons, List.length_append]
    omega

instance : TextCodec (List α) where
  write := writeList
  read cs := readList cs.length cs
  read_write as rest := by
    refine readList_writeList _ as rest ?_
    have := length_le_writeList as
    rw [List.length_append]
    omega

/-! ## Records -/

/-- A codec for a type whose values are read from a tuple that has one. -/
@[reducible] def record {γ : Type*} (toTuple : γ → α) (ofTuple : α → Option γ)
    (h : ∀ c, ofTuple (toTuple c) = some c) : TextCodec γ where
  write c := write (toTuple c)
  read cs := (read cs).bind fun (a, rest) => (ofTuple a).map fun c => (c, rest)
  read_write c rest := by simp [read_write, h]

instance : TextCodec String :=
  record String.toList (fun cs => some (String.ofList cs)) fun s => by simp

/-- A number is written in unary. -/
instance : TextCodec ℕ :=
  record (fun n => List.replicate n true) (fun bs => some bs.length) fun n => by simp

instance : TextCodec (Option α) :=
  record Option.toList (fun as => some as.head?) fun o => by cases o <;> rfl

/-- A number is written by its sign, its numerator and its denominator. -/
instance : TextCodec ℚ :=
  record (fun q => (q.num.toNat, (-q.num).toNat, q.den))
    (fun (a, b, d) => some (mkRat ((a : ℤ) - b) d)) fun q => by
      change some (mkRat ((q.num.toNat : ℤ) - (-q.num).toNat) q.den) = some q
      rw [Int.toNat_sub_toNat_neg, Rat.mkRat_self]

/-- A number that is written in binary. -/
structure Binary where
  number : ℕ

theorem foldr_bits (n : ℕ) : n.bits.foldr Nat.bit 0 = n := by
  induction n using Nat.binaryRec' with
  | zero => rfl
  | bit b n h ih => rw [Nat.bits_append_bit _ _ h, List.foldr_cons, ih]

instance : TextCodec Binary :=
  record (fun n => n.number.bits) (fun bits => some ⟨bits.foldr Nat.bit 0⟩) fun n => by
    rw [foldr_bits]

/-! ## Short texts -/

variable [DecidableEq α]

/-- The text of a value, where one value has a short text instead. -/
def shorten (short a : α) : String :=
  if a = short then "" else "+" ++ text a

theorem shorten_injective (short : α) : Function.Injective (shorten short) := by
  intro a b h
  unfold shorten at h
  split_ifs at h with ha hb hb
  · rw [ha, hb]
  · simp [String.ext_iff] at h
  · simp [String.ext_iff] at h
  · exact text_injective (String.append_right_inj _ |>.mp h)

end TextCodec

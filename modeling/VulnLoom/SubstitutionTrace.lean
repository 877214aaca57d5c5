import Mathlib.Data.List.Infix
import VulnLoom.Regex

/-!
# Traces of substitutions

What a pattern reads is a relation between a text and the letters around it (`Regex.Reads`), and
`mem_ends_iff` says that the engine tries exactly the lengths of such texts. A substitution that
puts a marker in the place of each match, after the group it keeps, is a list of edits : letters
that are kept, and bodies that are cut (`Substitution.Trace`). A position of the result that is not
inside a marker is a position of the source.
-/

namespace Regex

variable {α : Type*} {isWord : α → Bool}

/-! ## What a pattern reads -/

/-- A pattern reads a text between two letters. -/
def Reads (isWord : α → Bool) : Regex α → Option α → List α → Option α → Prop
  | .empty, _, w, _ => w = []
  | .letter p, _, w, _ => ∃ a, p a = true ∧ w = [a]
  | .many p least _, _, w, _ => (∀ a ∈ w, p a = true) ∧ least ≤ w.length
  | .boundary, prev, w, next => w = [] ∧ prev.any isWord ≠ next.any isWord
  | .seq r r', prev, w, next => ∃ t t', w = t ++ t' ∧
      Reads isWord r prev t (t'.head?.or next) ∧ Reads isWord r' (t.getLast?.or prev) t' next
  | .alt r r', prev, w, next => Reads isWord r prev w next ∨ Reads isWord r' prev w next

theorem le_length_takeWhile {p : α → Bool} : ∀ {w t : List α},
    w.length ≤ ((w ++ t).takeWhile p).length ↔ ∀ a ∈ w, p a = true
  | [], t => by simp
  | a :: w, t => by
    rw [List.cons_append, List.takeWhile_cons, List.forall_mem_cons, ← le_length_takeWhile (t := t)]
    by_cases ha : p a = true
    · rw [if_pos ha]
      simp [ha]
    · rw [if_neg ha]
      simp [ha]

theorem head?_append_or (w t : List α) : (w ++ t).head? = w.head?.or t.head? := by
  cases w <;> rfl

theorem take_drop_append (w t : List α) (n : ℕ) :
    w ++ t = w.take n ++ (w.drop n ++ t) := by
  rw [← List.append_assoc, List.take_append_drop]

theorem before_append_length (prev : Option α) (w t : List α) :
    before prev (w ++ t) w.length = w.getLast?.or prev := by
  rw [before, List.take_left]

/-- The lengths that are tried are those of the texts that are read. -/
theorem mem_ends_iff : ∀ (r : Regex α) {prev : Option α} {w t : List α},
    w.length ∈ r.ends isWord prev (w ++ t) ↔ r.Reads isWord prev w t.head?
  | .empty, _, w, _ => by simp [ends, Reads]
  | .letter p, _, w, t => by
    simp only [ends, Reads]
    constructor
    · intro h
      split_ifs at h with hp
      · obtain ⟨a, rfl⟩ := List.length_eq_one_iff.1 (List.mem_singleton.1 h)
        exact ⟨a, by simpa using hp, rfl⟩
      · cases h
    · rintro ⟨a, ha, rfl⟩
      simp [ha]
  | .many p least greedy, prev, w, t => by
    have hrange : w.length ∈ List.range' least (((w ++ t).takeWhile p).length + 1 - least) ↔
        (∀ a ∈ w, p a = true) ∧ least ≤ w.length := by
      rw [List.mem_range'_1, ← le_length_takeWhile (t := t)]
      omega
    simp only [ends, Reads]
    split_ifs
    · rw [List.mem_reverse, hrange]
    · exact hrange
  | .boundary, prev, w, t => by
    simp only [ends, Reads]
    cases w with
    | nil =>
      rw [List.nil_append]
      split_ifs with h
      · simp [h]
      · simp [h]
    | cons a w => split_ifs <;> simp
  | .seq r r', prev, w, t => by
    simp only [ends, Reads, List.mem_flatMap, List.mem_map]
    constructor
    · rintro ⟨n, hn, k, hk, heq⟩
      have hle : n ≤ w.length := by omega
      have hlength : (w.take n).length = n := List.length_take_of_le hle
      have hlength' : (w.drop n).length = k := by
        rw [List.length_drop]
        omega
      rw [take_drop_append w t n] at hn hk
      have hbefore := before_append_length prev (w.take n) (w.drop n ++ t)
      rw [hlength] at hbefore
      rw [hbefore, List.drop_append_of_le_length (Nat.le_of_eq hlength.symm),
        List.drop_of_length_le (Nat.le_of_eq hlength),
        List.nil_append] at hk
      refine ⟨w.take n, w.drop n, (List.take_append_drop n w).symm, ?_, ?_⟩
      · rw [← head?_append_or]
        exact (mem_ends_iff r).1 (hlength.symm ▸ hn)
      · exact (mem_ends_iff r').1 (hlength'.symm ▸ hk)
    · rintro ⟨w, w', rfl, hw, hw'⟩
      refine ⟨w.length, ?_, w'.length, ?_, (List.length_append).symm⟩
      · rw [List.append_assoc, mem_ends_iff r, head?_append_or]
        exact hw
      · rw [List.append_assoc, before_append_length, List.drop_left, mem_ends_iff r']
        exact hw'
  | .alt r r', prev, w, t => by
    simp only [ends, Reads, List.mem_append, mem_ends_iff r, mem_ends_iff r']

/-- A pattern reads of the letters around a text only whether they are word letters. -/
theorem reads_congr : ∀ (r : Regex α) {prev prev' next next' : Option α} {w : List α},
    prev.any isWord = prev'.any isWord → next.any isWord = next'.any isWord →
      (r.Reads isWord prev w next ↔ r.Reads isWord prev' w next')
  | .empty, _, _, _, _, _, _, _ => Iff.rfl
  | .letter _, _, _, _, _, _, _, _ => Iff.rfl
  | .many _ _ _, _, _, _, _, _, _, _ => Iff.rfl
  | .boundary, _, _, _, _, _, hprev, hnext => by simp only [Reads, hprev, hnext]
  | .seq r r', prev, prev', next, next', w, hprev, hnext => by
    simp only [Reads]
    refine exists_congr fun t => exists_congr fun t' => and_congr_right fun _ => ?_
    refine and_congr (reads_congr r hprev ?_) (reads_congr r' ?_ hnext)
    · cases t'.head? with
      | none => exact hnext
      | some a => rfl
    · cases t.getLast? with
      | none => exact hprev
      | some a => rfl
  | .alt r r', _, _, _, _, _, hprev, hnext => by
    simp only [Reads, reads_congr r hprev hnext, reads_congr r' hprev hnext]

/-- A pattern without boundaries. -/
def plain : Regex α → Bool
  | .empty | .letter _ | .many _ _ _ => true
  | .boundary => false
  | .seq r r' | .alt r r' => plain r && plain r'

/-- A pattern without boundaries reads a text wherever it stands. -/
theorem reads_plain : ∀ {r : Regex α}, r.plain = true →
    ∀ {prev prev' next next' : Option α} {w : List α},
      r.Reads isWord prev w next ↔ r.Reads isWord prev' w next'
  | .empty, _, _, _, _, _, _ => Iff.rfl
  | .letter _, _, _, _, _, _, _ => Iff.rfl
  | .many _ _ _, _, _, _, _, _, _ => Iff.rfl
  | .seq r r', h, prev, prev', next, next', w => by
    rw [plain, Bool.and_eq_true] at h
    simp only [Reads]
    exact exists_congr fun t => exists_congr fun t' => and_congr_right fun _ =>
      and_congr (reads_plain h.1) (reads_plain h.2)
  | .alt r r', h, _, _, _, _, _ => by
    rw [plain, Bool.and_eq_true] at h
    exact or_congr (reads_plain h.1) (reads_plain h.2)

/-- What is read through a function is what the letters are taken to. -/
theorem reads_comap {β : Type*} (f : β → α) : ∀ (r : Regex α) {prev next : Option β}
    {w : List β}, (r.comap f).Reads (isWord ∘ f) prev w next ↔
      r.Reads isWord (prev.map f) (w.map f) (next.map f)
  | .empty, _, _, _ => List.map_eq_nil_iff.symm
  | .letter p, _, _, w => by
    constructor
    · rintro ⟨b, hb, rfl⟩
      exact ⟨f b, hb, rfl⟩
    · rintro ⟨a, ha, hw⟩
      obtain ⟨b, rfl, rfl⟩ := List.map_eq_singleton_iff.1 hw
      exact ⟨b, ha, rfl⟩
  | .many p least greedy, _, _, w => by
    simp only [comap, Reads, List.forall_mem_map, List.length_map, Function.comp_apply]
  | .boundary, prev, next, w => by
    have hany : ∀ a : Option β, a.any (isWord ∘ f) = (a.map f).any isWord := fun a => by
      cases a <;> rfl
    simp only [comap, Reads, List.map_eq_nil_iff, hany]
  | .seq r r', prev, next, w => by
    simp only [comap, Reads, reads_comap f r, reads_comap f r']
    constructor
    · rintro ⟨t, t', rfl, ht, ht'⟩
      refine ⟨t.map f, t'.map f, List.map_append, ?_, ?_⟩
      · rwa [List.head?_map, ← Option.map_or]
      · rwa [List.getLast?_map, ← Option.map_or]
    · rintro ⟨_, _, hw, ht, ht'⟩
      obtain ⟨t, t', rfl, rfl, rfl⟩ := List.map_eq_append_iff.1 hw
      refine ⟨t, t', rfl, ?_, ?_⟩
      · rwa [Option.map_or, ← List.head?_map]
      · rwa [Option.map_or, ← List.getLast?_map]
  | .alt r r', prev, next, w => by
    simp only [comap, Reads, reads_comap f r, reads_comap f r']

/-! ### The letters of what is read -/

/-- A pattern that reads no text with a letter. -/
def avoids (a : α) : Regex α → Bool
  | .empty | .boundary => true
  | .letter p | .many p _ _ => !p a
  | .seq r r' | .alt r r' => avoids a r && avoids a r'

/-- A pattern that reads no text of some letters only. -/
def leaves (l : List α) : Regex α → Bool
  | .empty | .boundary => false
  | .letter p => l.all fun a => !p a
  | .many p least _ => 0 < least && l.all fun a => !p a
  | .seq r r' => leaves l r || leaves l r'
  | .alt r r' => leaves l r && leaves l r'

theorem notMem_of_avoids {a : α} : ∀ {r : Regex α}, r.avoids a = true →
    ∀ {prev next : Option α} {w : List α}, r.Reads isWord prev w next → a ∉ w
  | .empty, _, _, _, w, hw => by
    have hnil : w = [] := hw
    simp [hnil]
  | .letter p, h, _, _, w, hw => by
    obtain ⟨b, hb, rfl⟩ := hw
    rw [List.mem_singleton]
    rintro rfl
    simp [avoids, hb] at h
  | .many p _ _, h, _, _, w, hw => by
    intro ha
    simp [avoids, hw.1 a ha] at h
  | .boundary, _, _, _, w, hw => by simp [hw.1]
  | .seq r r', h, _, _, w, hw => by
    obtain ⟨t, t', rfl, ht, ht'⟩ := hw
    rw [avoids, Bool.and_eq_true] at h
    rw [List.mem_append, not_or]
    exact ⟨notMem_of_avoids h.1 ht, notMem_of_avoids h.2 ht'⟩
  | .alt r r', h, _, _, w, hw => by
    rw [avoids, Bool.and_eq_true] at h
    exact hw.elim (notMem_of_avoids h.1) (notMem_of_avoids h.2)

theorem notMem_of_all {p : α → Bool} {l : List α} {a : α} (h : l.all (fun a => !p a) = true)
    (ha : p a = true) : a ∉ l := by
  intro hmem
  have hnot := List.all_eq_true.1 h a hmem
  rw [ha] at hnot
  cases hnot

theorem exists_mem_of_leaves {l : List α} : ∀ {r : Regex α}, r.leaves l = true →
    ∀ {prev next : Option α} {w : List α}, r.Reads isWord prev w next → ∃ a ∈ w, a ∉ l
  | .letter p, h, _, _, w, hw => by
    obtain ⟨b, hb, rfl⟩ := hw
    exact ⟨b, List.mem_singleton_self b, notMem_of_all h hb⟩
  | .many p least _, h, _, _, w, hw => by
    rw [leaves, Bool.and_eq_true, decide_eq_true_eq] at h
    obtain ⟨b, w, rfl⟩ := List.exists_cons_of_length_pos (Nat.lt_of_lt_of_le h.1 hw.2)
    exact ⟨b, List.mem_cons_self, notMem_of_all h.2 (hw.1 b List.mem_cons_self)⟩
  | .seq r r', h, _, _, w, hw => by
    obtain ⟨t, t', rfl, ht, ht'⟩ := hw
    rw [leaves, Bool.or_eq_true] at h
    rcases h with h | h
    · obtain ⟨b, hb, hl⟩ := exists_mem_of_leaves h ht
      exact ⟨b, List.mem_append_left _ hb, hl⟩
    · obtain ⟨b, hb, hl⟩ := exists_mem_of_leaves h ht'
      exact ⟨b, List.mem_append_right _ hb, hl⟩
  | .alt r r', h, _, _, w, hw => by
    rw [leaves, Bool.and_eq_true] at h
    exact hw.elim (exists_mem_of_leaves h.1) (exists_mem_of_leaves h.2)

/-- A pattern that reads only texts that start with a letter with a property. -/
def FirstLetter (P : α → Prop) : Regex α → Prop
  | .empty | .boundary => False
  | .letter p => ∀ a, p a = true → P a
  | .many p least _ => 0 < least ∧ ∀ a, p a = true → P a
  | .seq r _ => FirstLetter P r
  | .alt r r' => FirstLetter P r ∧ FirstLetter P r'

theorem FirstLetter.exists_cons {P : α → Prop} : ∀ {r : Regex α}, r.FirstLetter P →
    ∀ {prev next : Option α} {w : List α}, r.Reads isWord prev w next → ∃ a w', w = a :: w' ∧ P a
  | .letter p, h, _, _, _, ⟨b, hb, hw⟩ => ⟨b, [], hw, h b hb⟩
  | .many p _ _, h, _, _, w, hw => by
    obtain ⟨b, w, rfl⟩ := List.exists_cons_of_length_pos (Nat.lt_of_lt_of_le h.1 hw.2)
    exact ⟨b, w, rfl, h.2 b (hw.1 b List.mem_cons_self)⟩
  | .seq r r', h, _, _, _, ⟨t, t', hw, ht, _⟩ => by
    obtain ⟨b, t, rfl, hb⟩ := exists_cons (r := r) h ht
    exact ⟨b, t ++ t', hw, hb⟩
  | .alt r r', h, _, _, _, hw => hw.elim h.1.exists_cons h.2.exists_cons

end Regex

/-! ## Edits -/

/-- What a substitution does at a place of a text. -/
inductive Edit (α : Type*)
  | keep (a : α)
  | cut (body : List α)

namespace Edit

variable {α : Type*}

/-- The text before the edits. -/
def source (edits : List (Edit α)) : List α :=
  edits.flatMap fun
    | .keep a => [a]
    | .cut body => body

/-- The text after the edits. -/
def result (marker : List α) (edits : List (Edit α)) : List α :=
  edits.flatMap fun
    | .keep a => [a]
    | .cut _ => marker

@[simp] theorem source_nil : source ([] : List (Edit α)) = [] :=
  rfl

@[simp] theorem source_keep (a : α) (edits : List (Edit α)) :
    source (.keep a :: edits) = a :: source edits :=
  rfl

@[simp] theorem source_cut (body : List α) (edits : List (Edit α)) :
    source (.cut body :: edits) = body ++ source edits :=
  rfl

@[simp] theorem source_append (edits edits' : List (Edit α)) :
    source (edits ++ edits') = source edits ++ source edits' :=
  List.flatMap_append

@[simp] theorem source_map_keep (w : List α) : source (w.map .keep) = w := by
  induction w with
  | nil => rfl
  | cons a w ih => rw [List.map_cons, source_keep, ih]

variable {marker : List α}

@[simp] theorem result_nil : result marker [] = [] :=
  rfl

@[simp] theorem result_keep (a : α) (edits : List (Edit α)) :
    result marker (.keep a :: edits) = a :: result marker edits :=
  rfl

@[simp] theorem result_cut (body : List α) (edits : List (Edit α)) :
    result marker (.cut body :: edits) = marker ++ result marker edits :=
  rfl

@[simp] theorem result_append (edits edits' : List (Edit α)) :
    result marker (edits ++ edits') = result marker edits ++ result marker edits' :=
  List.flatMap_append

@[simp] theorem result_map_keep (w : List α) : result marker (w.map .keep) = w := by
  induction w with
  | nil => rfl
  | cons a w ih => rw [List.map_cons, result_keep, ih]

/-- The letters of a result are of the source, or of the marker. -/
theorem mem_result {a : α} : ∀ {edits : List (Edit α)}, a ∈ result marker edits →
    a ∈ marker ∨ a ∈ source edits
  | .keep b :: edits, h => by
    rw [result_keep, List.mem_cons] at h
    rw [source_keep, List.mem_cons]
    rcases h with h | h
    · exact .inr (.inl h)
    · exact (mem_result h).imp_right .inr
  | .cut body :: edits, h => by
    rw [result_cut, List.mem_append] at h
    rw [source_cut, List.mem_append]
    rcases h with h | h
    · exact .inl h
    · exact (mem_result h).imp_right .inr

/-- Letters that are kept stand before the next cut. -/
theorem keep_before_cut {a : α} {body : List α} {F F' : List (Edit α)} : ∀ {w y : List α},
    w.map .keep ++ .keep a :: F = y.map .keep ++ .cut body :: F' →
      ∃ y', y = w ++ a :: y' ∧ F = y'.map .keep ++ .cut body :: F'
  | [], [], h => by cases h
  | [], c :: y, h => by
    cases h
    exact ⟨y, rfl, rfl⟩
  | c :: w, [], h => by cases h
  | c :: w, d :: y, h => by
    simp only [List.map_cons, List.cons_append, List.cons.injEq, keep.injEq] at h
    obtain ⟨rfl, h⟩ := h
    obtain ⟨y', rfl, hF⟩ := keep_before_cut h
    exact ⟨y', rfl, hF⟩

/-- The letter before the place after some edits. -/
def last (prev : Option α) (edits : List (Edit α)) : Option α :=
  (source edits).getLast?.or prev

end Edit

namespace Substitution

variable {α : Type*} {isWord : α → Bool} (sub : Substitution isWord)

open Regex Edit

/-! ## Matches -/

/-- A group and a body are read between two letters. -/
def Reads (prev : Option α) (g body : List α) (next : Option α) : Prop :=
  sub.group.Reads isWord prev g (body.head?.or next) ∧
    sub.body.Reads isWord (g.getLast?.or prev) body next

/-- A group and a body are the match that is taken where they stand before a text. -/
def Takes (prev : Option α) (g body rest : List α) : Prop :=
  sub.matchAt prev (g ++ body ++ rest) = some (g.length, body.length)

variable {sub} {prev : Option α} {g body rest : List α}

theorem mem_spans_iff : (g.length, body.length) ∈ sub.spans prev (g ++ body ++ rest) ↔
    sub.Reads prev g body rest.head? := by
  rw [Reads, List.append_assoc, ← head?_append_or, ← mem_ends_iff, ← mem_ends_iff,
    ← before_append_length prev g]
  simp only [spans, List.mem_flatMap, List.mem_map, Prod.mk.injEq]
  constructor
  · rintro ⟨n, hn, k, hk, rfl, rfl⟩
    rw [List.drop_left] at hk
    exact ⟨hn, hk⟩
  · rintro ⟨hg, hb⟩
    exact ⟨g.length, hg, body.length, by rwa [List.drop_left], rfl, rfl⟩

/-- What is taken is read. -/
theorem Takes.reads (h : sub.Takes prev g body rest) : sub.Reads prev g body rest.head? :=
  mem_spans_iff.1 (List.mem_of_mem_head? h)

theorem Takes.body_ne_nil (h : sub.Takes prev g body rest) : body ≠ [] :=
  List.length_pos_iff.1 (sub.matchAt_le h).1

/-- Where no match is taken, nothing is read. -/
theorem not_reads_of_matchAt (h : sub.matchAt prev (g ++ body ++ rest) = none) :
    ¬sub.Reads prev g body rest.head? := by
  rw [← mem_spans_iff]
  rw [matchAt, List.head?_eq_none_iff] at h
  rw [h]
  exact List.not_mem_nil

/-- Of a class that is repeated, a match takes all there is. -/
theorem Takes.maximal {p : α → Bool} (h : sub.Takes prev g body rest)
    (hbody : sub.body = .many p 1 true) : rest.head?.any p = false := by
  have hp : ∀ a ∈ body, p a = true := by
    have hreads := h.reads.2
    rw [hbody] at hreads
    exact hreads.1
  -- the greatest length is tried first
  have hlast : ∃ n : ℕ, (List.range' 1 n).getLast? = some body.length ∧
      n = ((body ++ rest).takeWhile p).length := by
    rw [Takes, matchAt, spans, List.head?_flatMap] at h
    obtain ⟨n, -, hn⟩ := List.exists_of_findSome?_eq_some h
    rw [List.head?_map, Option.map_eq_some_iff] at hn
    obtain ⟨k, hk, heq⟩ := hn
    rw [Prod.mk.injEq] at heq
    obtain ⟨rfl, rfl⟩ := heq
    rw [hbody, List.append_assoc, List.drop_left] at hk
    simp only [ends, if_true, List.head?_reverse, Nat.add_sub_cancel] at hk
    exact ⟨_, hk, rfl⟩
  obtain ⟨n, hn, rfl⟩ := hlast
  rw [List.takeWhile_append_of_pos hp, List.length_append] at hn
  have hnil : (rest.takeWhile p).length = 0 := by
    rw [List.getLast?_range'] at hn
    split_ifs at hn
    · rw [Option.some.injEq] at hn
      omega
  cases rest with
  | nil => rfl
  | cons a rest =>
    rw [List.length_eq_zero_iff, List.takeWhile_cons] at hnil
    by_cases ha : p a = true
    · rw [if_pos ha] at hnil
      cases hnil
    · simpa using ha

/-! ## Traces -/

variable (sub)

/-- The edits of a substitution that keeps the group of each match. -/
inductive Trace : Option α → List (Edit α) → Prop
  | nil (prev : Option α) : Trace prev []
  | keep {prev : Option α} {a : α} {edits : List (Edit α)}
      (hmatch : sub.matchAt prev (a :: source edits) = none) (hrest : Trace (some a) edits) :
      Trace prev (.keep a :: edits)
  | cut {prev : Option α} {group body : List α} {edits : List (Edit α)}
      (htakes : sub.Takes prev group body (source edits))
      (hrest : Trace ((group ++ body).getLast?.or prev) edits) :
      Trace prev (group.map .keep ++ .cut body :: edits)

variable {sub}

theorem scan_length (s : List α) : ∀ {w : List α} {prev : Option α},
    sub.scan w.length prev (w ++ s) = sub.scan 0 (w.getLast?.or prev) s
  | [], _ => rfl
  | a :: w, prev => by
    rw [List.length_cons, List.cons_append, scan, scan_length s, List.getLast?_cons]
    cases w.getLast? <;> rfl

/-- The edits that `scan` makes. -/
def editsFrom (sub : Substitution isWord) : ℕ → Option α → List α → List (Edit α)
  | _, _, [] => []
  | n + 1, _, a :: s => sub.editsFrom n (some a) s
  | 0, prev, a :: s =>
    match sub.matchAt prev (a :: s) with
    | some (g, b) =>
      ((a :: s).take g).map .keep ++
        .cut (((a :: s).drop g).take b) :: sub.editsFrom (g + b - 1) (some a) s
    | none => .keep a :: sub.editsFrom 0 (some a) s

theorem editsFrom_length (s : List α) : ∀ {w : List α} {prev : Option α},
    sub.editsFrom w.length prev (w ++ s) = sub.editsFrom 0 (w.getLast?.or prev) s
  | [], _ => rfl
  | a :: w, prev => by
    rw [List.length_cons, List.cons_append, editsFrom, editsFrom_length s, List.getLast?_cons]
    cases w.getLast? <;> rfl

/-- The edits are those of a trace, and a substitution that puts a marker after the group of each
match makes them. -/
theorem trace_editsFrom : ∀ (n : ℕ) (prev : Option α) (s : List α), s.length ≤ n →
    sub.Trace prev (sub.editsFrom 0 prev s) ∧ source (sub.editsFrom 0 prev s) = s ∧
      ∀ {marker : List α}, (∀ g b, sub.replace g b = g ++ marker) →
        result marker (sub.editsFrom 0 prev s) = sub.scan 0 prev s
  | 0, prev, s, hn => by
    rw [List.length_eq_zero_iff.1 (Nat.le_zero.1 hn)]
    exact ⟨.nil prev, rfl, fun _ => rfl⟩
  | n + 1, prev, [], _ => ⟨.nil prev, rfl, fun _ => rfl⟩
  | n + 1, prev, a :: s, hn => by
    cases hmatch : sub.matchAt prev (a :: s) with
    | none =>
      obtain ⟨htrace, hsource, hresult⟩ := trace_editsFrom n (some a) s (Nat.le_of_succ_le_succ hn)
      simp only [editsFrom, scan, hmatch]
      refine ⟨.keep (by rwa [hsource]) htrace, by rw [source_keep, hsource], fun hreplace => ?_⟩
      rw [result_keep, hresult hreplace]
    | some span =>
      obtain ⟨g, b⟩ := span
      obtain ⟨hb, hspan⟩ := sub.matchAt_le hmatch
      have hgroup : ((a :: s).take g).length = g := List.length_take_of_le (by omega)
      have hbody : (((a :: s).drop g).take b).length = b :=
        List.length_take_of_le (by rw [List.length_drop]; omega)
      have hsplit : a :: s =
          (a :: s).take g ++ ((a :: s).drop g).take b ++ (a :: s).drop (g + b) := by
        rw [take_append_take_drop, List.take_append_drop]
      have hshort : ((a :: s).drop (g + b)).length ≤ n := by
        rw [List.length_drop]
        omega
      obtain ⟨k, hk⟩ : ∃ k, g + b = k + 1 := ⟨g + b - 1, by omega⟩
      -- past the match, the scan starts anew
      have hedits : sub.editsFrom ((a :: s).take (g + b)).length prev
          ((a :: s).take (g + b) ++ (a :: s).drop (g + b)) = _ := editsFrom_length _
      have hscan : sub.scan ((a :: s).take (g + b)).length prev
          ((a :: s).take (g + b) ++ (a :: s).drop (g + b)) = _ := scan_length _
      rw [List.take_append_drop, List.length_take_of_le hspan, hk] at hedits hscan
      rw [editsFrom, ← hk, ← take_append_take_drop] at hedits
      rw [scan, ← hk, ← take_append_take_drop] at hscan
      obtain ⟨htrace, hsource, hresult⟩ := trace_editsFrom n
        (((a :: s).take g ++ ((a :: s).drop g).take b).getLast?.or prev) _ hshort
      have hpred : g + b - 1 = k := by omega
      simp only [editsFrom, scan, hmatch, hpred, hedits, hscan]
      refine ⟨.cut ?_ htrace, ?_, fun hreplace => ?_⟩
      · rw [Takes, hsource, ← hsplit, hgroup, hbody, hmatch]
      · rw [source_append, source_map_keep, source_cut, hsource, ← List.append_assoc, ← hsplit]
      · rw [result_append, result_map_keep, result_cut, hresult hreplace, hreplace,
          List.append_assoc]

/-- The edits that `re.sub` makes. -/
def edits (sub : Substitution isWord) (s : List α) : List (Edit α) :=
  sub.editsFrom 0 none s

theorem trace_edits (s : List α) : sub.Trace none (sub.edits s) :=
  (trace_editsFrom s.length none s (Nat.le_refl _)).1

@[simp] theorem source_edits (s : List α) : source (sub.edits s) = s :=
  (trace_editsFrom s.length none s (Nat.le_refl _)).2.1

theorem result_edits {marker : List α} (hreplace : ∀ g b, sub.replace g b = g ++ marker)
    (s : List α) : result marker (sub.edits s) = sub.apply s :=
  (trace_editsFrom s.length none s (Nat.le_refl _)).2.2 hreplace

theorem exists_trace_apply {marker : List α} (hreplace : ∀ g b, sub.replace g b = g ++ marker)
    (s : List α) : ∃ edits, sub.Trace none edits ∧ source edits = s ∧
      result marker edits = sub.apply s :=
  ⟨sub.edits s, trace_edits s, source_edits s, result_edits hreplace s⟩

theorem last_append (prev : Option α) (edits edits' : List (Edit α)) :
    last prev (edits ++ edits') = last (last prev edits) edits' := by
  rw [last, last, last, source_append, List.getLast?_append, Option.or_assoc]

theorem last_match (prev : Option α) (group body : List α) :
    last prev (group.map .keep ++ [.cut body]) = (group ++ body).getLast?.or prev := by
  rw [last, source_append, source_map_keep, source_cut, source_nil, List.append_nil]

@[simp] theorem last_nil (prev : Option α) : last prev ([] : List (Edit α)) = prev :=
  rfl

theorem last_keep (prev : Option α) (a : α) (edits : List (Edit α)) :
    last prev (.keep a :: edits) = last (some a) edits := by
  rw [last, last, source_keep, List.getLast?_cons]
  cases (source edits).getLast? <;> rfl

theorem last_cut (prev : Option α) (g body : List α) (edits : List (Edit α)) :
    last prev (g.map .keep ++ .cut body :: edits) =
      last ((g ++ body).getLast?.or prev) edits := by
  rw [← last_match, ← last_append, List.append_assoc, List.singleton_append]

variable (sub)

/-- A match starts before the place between two lists of edits, and its group reaches it. -/
def Crosses (prev : Option α) (E F : List (Edit α)) : Prop :=
  ∃ E' x y body F', E = E' ++ x.map .keep ∧ F = y.map .keep ++ .cut body :: F' ∧ x ≠ [] ∧
    sub.Takes (last prev E') (x ++ y) body (source F') ∧
      sub.Trace ((x ++ y ++ body).getLast?.or (last prev E')) F'

variable {sub}
variable {E F : List (Edit α)}

theorem Crosses.cons_keep {prev : Option α} {a : α} (h : sub.Crosses (some a) E F) :
    sub.Crosses prev (.keep a :: E) F := by
  obtain ⟨E', x, y, body, F', rfl, hF, hx, htakes, htrace⟩ := h
  rw [← last_keep prev] at htakes htrace
  exact ⟨.keep a :: E', x, y, body, F', rfl, hF, hx, htakes, htrace⟩

theorem Crosses.cons_cut {prev : Option α} {g body : List α}
    (h : sub.Crosses ((g ++ body).getLast?.or prev) E F) :
    sub.Crosses prev (g.map .keep ++ .cut body :: E) F := by
  obtain ⟨E', x, y, body', F', rfl, hF, hx, htakes, htrace⟩ := h
  have hedits : g.map .keep ++ .cut body :: (E' ++ x.map .keep) =
      g.map .keep ++ .cut body :: E' ++ x.map .keep := by
    rw [List.append_assoc, List.cons_append]
  rw [← last_cut prev g body E'] at htakes htrace
  exact ⟨_, x, y, body', F', hedits, hF, hx, htakes, htrace⟩

/-- A place of a trace is one that the scan stops at, or it is in or right after the group of a
match that starts before it. -/
theorem Trace.of_append {prev : Option α} (h : sub.Trace prev (E ++ F)) :
    sub.Trace (last prev E) F ∨ sub.Crosses prev E F := by
  generalize hedits : E ++ F = edits at h
  induction h generalizing E with
  | nil prev =>
    obtain ⟨rfl, rfl⟩ := List.append_eq_nil_iff.1 hedits
    exact .inl (.nil prev)
  | @keep prev a edits hmatch hrest ih =>
    cases E with
    | nil =>
      rw [List.nil_append] at hedits
      subst hedits
      exact .inl (.keep hmatch hrest)
    | cons e E =>
      rw [List.cons_append, List.cons.injEq] at hedits
      obtain ⟨rfl, hedits⟩ := hedits
      rw [last_keep]
      exact (ih hedits).imp_right Crosses.cons_keep
  | @cut prev g body edits htakes hrest ih =>
    -- the place is in the group, right after it, or after the match
    rcases List.append_eq_append_iff.1 hedits with ⟨A, hgroup, rfl⟩ | ⟨C, rfl, hcut⟩
    · obtain ⟨x, y, rfl, rfl, rfl⟩ := List.map_eq_append_iff.1 hgroup
      by_cases hx : x = []
      · subst hx
        exact .inl (.cut htakes hrest)
      · exact .inr ⟨[], x, y, body, edits, rfl, rfl, hx, htakes, hrest⟩
    · cases C with
      | nil =>
        rw [List.nil_append] at hcut
        subst hcut
        rw [List.append_nil]
        by_cases hg : g = []
        · subst hg
          exact .inl (.cut htakes hrest)
        · refine .inr ⟨[], g, [], body, edits, rfl, rfl, hg, ?_, ?_⟩
          · rwa [List.append_nil]
          · rwa [List.append_nil]
      | cons e C =>
        rw [List.cons_append, List.cons.injEq] at hcut
        obtain ⟨rfl, hcut⟩ := hcut
        rw [last_cut]
        exact (ih hcut.symm).imp_right Crosses.cons_cut

/-- Before a body that is cut stands the group of its match. -/
theorem Trace.of_cut {body : List α} {prev : Option α} (h : sub.Trace prev (E ++ .cut body :: F)) :
    ∃ E' g, E = E' ++ g.map .keep ∧
      sub.Takes (last prev E') g body (source F) ∧
        sub.Trace ((g ++ body).getLast?.or (last prev E')) F := by
  rcases h.of_append with hleft | ⟨E', x, y, body', F', rfl, hF, -, htakes, htrace⟩
  · generalize hedits : Edit.cut body :: F = edits at hleft
    cases hleft with
    | nil => cases hedits
    | keep => cases hedits
    | @cut _ g body' edits htakes hrest =>
      cases g with
      | nil =>
        rw [List.map_nil, List.nil_append, List.cons.injEq, Edit.cut.injEq] at hedits
        obtain ⟨rfl, rfl⟩ := hedits
        exact ⟨E, [], (List.append_nil E).symm, htakes, hrest⟩
      | cons a g => cases hedits
  · cases y with
    | nil =>
      rw [List.map_nil, List.nil_append, List.cons.injEq, Edit.cut.injEq] at hF
      obtain ⟨rfl, rfl⟩ := hF
      rw [List.append_nil] at htakes htrace
      exact ⟨E', x, rfl, htakes, htrace⟩
    | cons a y => cases hF

/-- At a letter that is kept, where the scan stops, no match is taken or one that keeps it. -/
theorem Trace.matchAt_keep {prev : Option α} {a : α} (h : sub.Trace prev (.keep a :: F)) :
    sub.matchAt prev (a :: source F) = none ∨ ∃ g body F', g ≠ [] ∧
      .keep a :: F = g.map .keep ++ .cut body :: F' ∧ sub.Takes prev g body (source F') ∧
        sub.Trace ((g ++ body).getLast?.or prev) F' := by
  generalize hedits : Edit.keep a :: F = edits at h
  cases h with
  | nil => cases hedits
  | keep hmatch =>
    cases hedits
    exact .inl hmatch
  | @cut _ g body edits htakes hrest =>
    refine .inr ⟨g, body, edits, ?_, rfl, htakes, hrest⟩
    rintro rfl
    cases hedits

/-- What is read where the scan stops at a letter that is kept is kept by a match. -/
theorem Trace.of_reads {prev : Option α} {a : α} {g b r : List α}
    (h : sub.Trace prev (.keep a :: F)) (hsource : a :: source F = g ++ b ++ r)
    (hreads : sub.Reads prev g b r.head?) : ∃ g' b' F', g' ≠ [] ∧
      .keep a :: F = g'.map .keep ++ .cut b' :: F' ∧ sub.Takes prev g' b' (source F') := by
  rcases h.matchAt_keep with hnone | ⟨g', b', F', hg', hF, htakes, -⟩
  · rw [hsource] at hnone
    exact absurd hreads (not_reads_of_matchAt hnone)
  · exact ⟨g', b', F', hg', hF, htakes⟩

/-- Edits change nothing where each body that is cut is the marker. -/
theorem result_eq_source {marker : List α} : ∀ {edits : List (Edit α)},
    (∀ E body F, edits = E ++ .cut body :: F → body = marker) →
      result marker edits = source edits
  | [], _ => rfl
  | .keep a :: edits, h => by
    rw [result_keep, source_keep, result_eq_source fun E body F hedits =>
      h (.keep a :: E) body F (by rw [hedits, List.cons_append])]
  | .cut body :: edits, h => by
    rw [result_cut, source_cut, h [] body edits rfl, result_eq_source fun E body' F hedits =>
      h (.cut body :: E) body' F (by rw [hedits, List.cons_append])]

end Substitution

/-! ## Markers -/

/-- A marker between two letters that stand in it nowhere else. -/
structure Marker (α : Type*) where
  opening : α
  inner : List α
  closing : α

namespace Marker

variable {α : Type*} (m : Marker α)

def text : List α :=
  m.opening :: (m.inner ++ [m.closing])

/-- A text that shares no letter with a marker, wherever they stand : neither lies in the other, and
neither begins with an end of the other. -/
structure Clear (w : List α) : Prop where
  not_within : ¬w <:+: m.text
  not_around : ¬m.text <:+: w
  ends_apart : ∀ c ∈ w.tails, c ≠ [] → ¬c <+: m.text
  starts_apart : ∀ c ∈ m.text.tails, c ≠ [] → ¬c <+: w

/-- A text without the outer letters of the marker and with a letter that is not in it. -/
structure Outside (w : List α) : Prop where
  plain : ∀ a ∈ w, a ≠ m.opening ∧ a ≠ m.closing
  foreign : ∃ a ∈ w, a ∉ m.inner

variable {m}
variable {w : List α}

theorem outside_of_reads {isWord : α → Bool} {r : Regex α} {prev next : Option α}
    (hopening : r.avoids m.opening = true) (hclosing : r.avoids m.closing = true)
    (hinner : r.leaves m.inner = true) (h : r.Reads isWord prev w next) : m.Outside w where
  plain _ ha := ⟨fun heq => Regex.notMem_of_avoids hopening h (heq ▸ ha),
    fun heq => Regex.notMem_of_avoids hclosing h (heq ▸ ha)⟩
  foreign := Regex.exists_mem_of_leaves hinner h

theorem Outside.ne_nil (h : m.Outside w) : w ≠ [] := by
  rintro rfl
  obtain ⟨a, ha, -⟩ := h.foreign
  cases ha

theorem mem_text {a : α} : a ∈ m.text ↔ a = m.opening ∨ a ∈ m.inner ∨ a = m.closing := by
  rw [text, List.mem_cons, List.mem_append, List.mem_singleton]

theorem Outside.clear (h : m.Outside w) : m.Clear w where
  not_within hw := by
    obtain ⟨a, ha, hinner⟩ := h.foreign
    rcases mem_text.1 (hw.subset ha) with heq | hmem | heq
    · exact (h.plain a ha).1 heq
    · exact hinner hmem
    · exact (h.plain a ha).2 heq
  not_around hw := (h.plain _ (hw.subset (mem_text.2 (.inl rfl)))).1 rfl
  ends_apart c hc hne hprefix := by
    obtain ⟨a, c', rfl⟩ := List.exists_cons_of_ne_nil hne
    obtain ⟨t, ht⟩ := hprefix
    rw [text, List.cons_append, List.cons.injEq] at ht
    exact (h.plain a (((List.mem_tails _ _).1 hc).subset List.mem_cons_self)).1 ht.1
  starts_apart c hc hne hstart := by
    obtain ⟨t, ht⟩ := (List.mem_tails _ _).1 hc
    obtain ⟨c', a, rfl⟩ := (List.eq_nil_or_concat c).resolve_left hne
    rw [text, List.concat_eq_append, ← List.append_assoc, ← List.cons_append,
      List.append_singleton_inj] at ht
    exact (h.plain a (hstart.subset (by simp))).2 ht.2

open Edit

/-- No clear text starts in a marker. -/
theorem Clear.not_inside {r u c z : List α} (h : m.Clear w) (hmarker : m.text = u ++ c)
    (hc : c ≠ []) : w ++ r ≠ c ++ z := by
  intro heq
  rcases List.append_eq_append_iff.1 heq with ⟨t, rfl, -⟩ | ⟨t, rfl, -⟩
  · exact h.not_within ⟨u, t, by rw [hmarker, List.append_assoc]⟩
  · exact h.starts_apart c ((List.mem_tails _ _).2 ⟨u, hmarker.symm⟩) hc (List.prefix_append c t)

/-- The end of a clear text is kept where it is not in a marker. -/
theorem Clear.keep_suffix {w : List α} (h : m.Clear w) : ∀ {t r : List α} {E : List (Edit α)},
    t <:+ w → result m.text E = t ++ r → ∃ F, E = t.map .keep ++ F ∧ result m.text F = r
  | [], r, E, _, heq => ⟨E, rfl, heq⟩
  | a :: t, r, [], _, heq => by cases heq
  | a :: t, r, .keep b :: E, ht, heq => by
    rw [result_keep, List.cons_append, List.cons.injEq] at heq
    obtain ⟨rfl, heq⟩ := heq
    obtain ⟨F, rfl, hF⟩ := h.keep_suffix ((List.suffix_cons b t).trans ht) heq
    exact ⟨F, rfl, hF⟩
  | a :: t, r, .cut body :: E, ht, heq => by
    rw [result_cut] at heq
    rcases List.append_eq_append_iff.1 heq with ⟨z, hz, -⟩ | ⟨z, hz, -⟩
    · exact absurd (List.IsInfix.trans (hz ▸ (List.prefix_append m.text z).isInfix) ht.isInfix)
        h.not_around
    · exact absurd (hz ▸ List.prefix_append (a :: t) z)
        (h.ends_apart _ ((List.mem_tails _ _).2 ht) (List.cons_ne_nil a t))

/-- A clear text of a result was kept. -/
theorem Clear.exists_keep {w r : List α} (h : m.Clear w) : ∀ {E : List (Edit α)} {u : List α},
    result m.text E = u ++ (w ++ r) →
      ∃ E' F, E = E' ++ (w.map .keep ++ F) ∧ result m.text E' = u ∧ result m.text F = r
  | E, [], heq => by
    obtain ⟨F, hE, hF⟩ := h.keep_suffix (List.suffix_refl w) heq
    exact ⟨[], F, hE, rfl, hF⟩
  | [], b :: u, heq => by cases heq
  | .keep a :: E, b :: u, heq => by
    rw [result_keep, List.cons_append, List.cons.injEq] at heq
    obtain ⟨rfl, heq⟩ := heq
    obtain ⟨E', F, rfl, hE', hF⟩ := h.exists_keep heq
    exact ⟨.keep a :: E', F, rfl, by rw [result_keep, hE'], hF⟩
  | .cut body :: E, b :: u, heq => by
    rw [result_cut] at heq
    rcases List.append_eq_append_iff.1 heq with ⟨u', hu, hrest⟩ | ⟨c, hmarker, hrest⟩
    · obtain ⟨E', F, rfl, hE', hF⟩ := h.exists_keep hrest
      exact ⟨.cut body :: E', F, rfl, by rw [result_cut, hE', hu], hF⟩
    · by_cases hc : c = []
      · subst hc
        rw [List.append_nil] at hmarker
        obtain ⟨F, rfl, hF⟩ := h.keep_suffix (List.suffix_refl w) hrest.symm
        exact ⟨[.cut body], F, rfl, by rw [result_cut, result_nil, List.append_nil, hmarker], hF⟩
      · exact absurd hrest (h.not_inside hmarker hc)

end Marker

import Mathlib.Data.List.Basic

/-!
# Backtracking patterns

Patterns over an alphabet, matched as a backtracking engine does : `ends` lists the lengths of
the prefixes a pattern matches in the order the engine tries them, and the first one wins. A
substitution keeps a leading group and replaces the rest of each match. It is cut at an edge
where no match straddles it : `scan_append_right` and `scan_append_left` say what the two sides
of a text contribute.
-/

/-- A pattern over the letters `α`. A repetition is of one letter class. -/
inductive Regex (α : Type*)
  | empty
  | letter (p : α → Bool)
  | many (p : α → Bool) (least : ℕ) (greedy : Bool)
  | boundary
  | seq (r s : Regex α)
  | alt (r s : Regex α)

namespace Regex

variable {α β : Type*}

/-- The letter before the rest of a text, after `n` more letters. -/
def before (prev : Option α) (s : List α) (n : ℕ) : Option α :=
  (s.take n).getLast?.or prev

/-- The lengths of the prefixes of `s` that a pattern matches, in the order they are tried. -/
def ends (isWord : α → Bool) : Regex α → Option α → List α → List ℕ
  | .empty, _, _ => [0]
  | .letter p, _, s => if s.head?.any p then [1] else []
  | .many p least greedy, _, s =>
    let lengths := List.range' least ((s.takeWhile p).length + 1 - least)
    if greedy then lengths.reverse else lengths
  | .boundary, prev, s => if prev.any isWord = s.head?.any isWord then [] else [0]
  | .seq r r', prev, s =>
    (ends isWord r prev s).flatMap fun n =>
      (ends isWord r' (before prev s n) (s.drop n)).map (n + ·)
  | .alt r r', prev, s => ends isWord r prev s ++ ends isWord r' prev s

/-- The same pattern over letters that are read through `f`. -/
def comap (f : β → α) : Regex α → Regex β
  | .empty => .empty
  | .letter p => .letter (p ∘ f)
  | .many p least greedy => .many (p ∘ f) least greedy
  | .boundary => .boundary
  | .seq r r' => .seq (comap f r) (comap f r')
  | .alt r r' => .alt (comap f r) (comap f r')

/-! ## What a pattern reads -/

section Reads

variable {isWord : α → Bool} {prev prev' : Option α} {s t : List α}

theorem before_append {n : ℕ} (hn : n ≤ s.length) : before prev (s ++ t) n = before prev s n := by
  rw [before, before, List.take_append_of_le_length hn]

/-- Two letters before a text that are alike stay alike. -/
theorem any_before (h : prev.any isWord = prev'.any isWord) (n : ℕ) :
    (before prev s n).any isWord = (before prev' s n).any isWord := by
  unfold before
  cases (s.take n).getLast? with
  | none => exact h
  | some a => rfl

theorem ends_le : ∀ (r : Regex α) {prev : Option α} {s : List α} {n : ℕ},
    n ∈ r.ends isWord prev s → n ≤ s.length
  | .empty, _, _, n, h => by simp_all [ends]
  | .letter p, _, s, n, h => by
    cases s with
    | nil => simp [ends] at h
    | cons a s =>
      by_cases hp : p a = true
      · simp only [ends, List.head?_cons, Option.any_some, hp, if_true] at h
        rw [List.mem_singleton.1 h]
        simp
      · simp [ends, hp] at h
  | .many p least greedy, _, s, n, h => by
    have hn : n ∈ List.range' least ((s.takeWhile p).length + 1 - least) := by
      simp only [ends] at h
      split_ifs at h
      · exact List.mem_reverse.1 h
      · exact h
    have hlength : (s.takeWhile p).length ≤ s.length := (List.takeWhile_prefix p).length_le
    rw [List.mem_range'_1] at hn
    omega
  | .boundary, _, _, n, h => by
    simp only [ends] at h
    split_ifs at h
    · cases h
    · rw [List.mem_singleton.1 h]
      exact Nat.zero_le _
  | .seq r r', prev, s, n, h => by
    simp only [ends, List.mem_flatMap, List.mem_map] at h
    obtain ⟨m, hm, k, hk, rfl⟩ := h
    have hm' := ends_le r hm
    have hk' := ends_le r' hk
    rw [List.length_drop] at hk'
    omega
  | .alt r r', prev, s, n, h => by
    simp only [ends, List.mem_append] at h
    rcases h with h | h
    · exact ends_le r h
    · exact ends_le r' h

/-- A pattern reads of the letter before the text only whether it is a word letter. -/
theorem ends_congr : ∀ (r : Regex α) {prev prev' : Option α} {s : List α},
    prev.any isWord = prev'.any isWord → r.ends isWord prev s = r.ends isWord prev' s
  | .empty, _, _, _, _ => rfl
  | .letter _, _, _, _, _ => rfl
  | .many _ _ _, _, _, _, _ => rfl
  | .boundary, _, _, _, h => by simp only [ends, h]
  | .seq r r', prev, prev', s, h => by
    simp only [ends]
    rw [ends_congr r h]
    refine List.flatMap_congr fun n _ => ?_
    rw [ends_congr r' (any_before h n)]
  | .alt r r', _, _, _, h => by
    simp only [ends]
    rw [ends_congr r h, ends_congr r' h]

theorem flatMap_filter (q : α → Bool) (f : α → List β) (l : List α) :
    (l.filter q).flatMap f = l.flatMap fun a => if q a then f a else [] := by
  induction l with
  | nil => rfl
  | cons a l ih =>
    rw [List.filter_cons, List.flatMap_cons]
    split_ifs
    · rw [List.flatMap_cons, ih]
    · rw [ih, List.nil_append]

theorem filter_range'_le (a k m : ℕ) :
    (List.range' a k).filter (· ≤ m) = List.range' a (min k (m + 1 - a)) := by
  induction k generalizing a with
  | zero => simp
  | succ k ih =>
    rw [List.range'_succ, List.filter_cons]
    by_cases ham : a ≤ m
    · have hmin : min (k + 1) (m + 1 - a) = min k (m + 1 - (a + 1)) + 1 := by omega
      rw [if_pos (by simpa using ham), ih, hmin, List.range'_succ]
    · have hmin : min (k + 1) (m + 1 - a) = 0 := by omega
      have hmin' : min k (m + 1 - (a + 1)) = 0 := by omega
      rw [if_neg (by simpa using ham), ih, hmin, hmin']
      rfl

theorem length_takeWhile_append (p : α → Bool) (s t : List α) :
    min ((s ++ t).takeWhile p).length s.length = (s.takeWhile p).length := by
  induction s with
  | nil => simp
  | cons a s ih =>
    simp only [List.cons_append, List.takeWhile_cons]
    split
    · simp only [List.length_cons]
      omega
    · simp

/-- Before an edge that no word letter follows, a pattern matches what it matches without
what is after it. -/
theorem filter_ends_append (ht : t.head?.any isWord = false) :
    ∀ (r : Regex α) {prev : Option α} {s : List α},
      (r.ends isWord prev (s ++ t)).filter (· ≤ s.length) = r.ends isWord prev s
  | .empty, _, _ => by simp [ends]
  | .letter p, _, s => by
    cases s with
    | nil =>
      by_cases hp : t.head?.any p = true
      · simp [ends, hp]
      · simp [ends, hp]
    | cons a s =>
      by_cases hp : p a = true
      · simp [ends, hp]
      · simp [ends, hp]
  | .many p least greedy, _, s => by
    have hmin := length_takeWhile_append p s t
    have hrange : (List.range' least (((s ++ t).takeWhile p).length + 1 - least)).filter
        (· ≤ s.length) = List.range' least ((s.takeWhile p).length + 1 - least) := by
      rw [filter_range'_le]
      congr 1
      omega
    simp only [ends]
    split_ifs
    · rw [List.filter_reverse, hrange]
    · exact hrange
  | .boundary, prev, s => by
    have hhead : (s ++ t).head?.any isWord = s.head?.any isWord := by
      cases s with
      | nil => simpa using ht
      | cons a s => rfl
    simp only [ends, hhead]
    split_ifs <;> simp
  | .seq r r', prev, s => by
    simp only [ends]
    conv_rhs => rw [← filter_ends_append ht r, flatMap_filter]
    rw [List.filter_flatMap]
    refine List.flatMap_congr fun n _ => ?_
    by_cases hn : n ≤ s.length
    · rw [if_pos (by simpa using hn), before_append hn, List.drop_append_of_le_length hn,
        ← filter_ends_append ht r' (s := s.drop n), List.filter_map]
      congr 1
      refine List.filter_congr fun m _ => ?_
      simp only [Function.comp_apply, List.length_drop, decide_eq_decide]
      omega
    · rw [if_neg (by simpa using hn), List.filter_eq_nil_iff]
      intro m hm
      obtain ⟨k, -, rfl⟩ := List.mem_map.1 hm
      simp only [decide_eq_true_eq]
      omega
  | .alt r r', prev, s => by
    simp only [ends, List.filter_append]
    rw [filter_ends_append ht r, filter_ends_append ht r']

end Reads

/-! ## Patterns that consume a letter -/

/-- A pattern that matches no empty text. -/
def consumes : Regex α → Bool
  | .empty => false
  | .letter _ => true
  | .many _ least _ => 0 < least
  | .boundary => false
  | .seq r r' => consumes r || consumes r'
  | .alt r r' => consumes r && consumes r'

theorem pos_of_consumes {isWord : α → Bool} : ∀ {r : Regex α}, r.consumes = true →
    ∀ {prev : Option α} {s : List α} {n : ℕ}, n ∈ r.ends isWord prev s → 0 < n
  | .empty, hr, _, _, _, _ => by simp [consumes] at hr
  | .letter p, _, _, s, n, h => by
    by_cases hp : s.head?.any p = true
    · simp only [ends, hp, if_true] at h
      rw [List.mem_singleton.1 h]
      exact Nat.zero_lt_one
    · simp [ends, hp] at h
  | .many p least greedy, hr, _, s, n, h => by
    have hn : n ∈ List.range' least ((s.takeWhile p).length + 1 - least) := by
      simp only [ends] at h
      split_ifs at h
      · exact List.mem_reverse.1 h
      · exact h
    rw [List.mem_range'_1] at hn
    simp only [consumes, decide_eq_true_eq] at hr
    omega
  | .boundary, hr, _, _, _, _ => by simp [consumes] at hr
  | .seq r r', hr, prev, s, n, h => by
    simp only [ends, List.mem_flatMap, List.mem_map] at h
    obtain ⟨m, hm, k, hk, rfl⟩ := h
    simp only [consumes, Bool.or_eq_true] at hr
    rcases hr with hr | hr
    · have := pos_of_consumes hr hm
      omega
    · have := pos_of_consumes hr hk
      omega
  | .alt r r', hr, prev, s, n, h => by
    simp only [consumes, Bool.and_eq_true] at hr
    simp only [ends, List.mem_append] at h
    rcases h with h | h
    · exact pos_of_consumes hr.1 h
    · exact pos_of_consumes hr.2 h

/-! ## Letters that are read through a function -/

theorem before_map (f : β → α) (prev : Option β) (s : List β) (n : ℕ) :
    (before prev s n).map f = before (prev.map f) (s.map f) n := by
  unfold before
  rw [← List.map_take, List.getLast?_map]
  cases (s.take n).getLast? <;> rfl

theorem ends_comap (isWord : α → Bool) (f : β → α) : ∀ (r : Regex α) (prev : Option β)
    (s : List β), (r.comap f).ends (isWord ∘ f) prev s = r.ends isWord (prev.map f) (s.map f)
  | .empty, _, _ => rfl
  | .letter p, _, s => by cases s <;> rfl
  | .many p least greedy, _, s => by
    simp only [comap, ends, List.takeWhile_map, List.length_map]
  | .boundary, prev, s => by
    have hprev : prev.any (isWord ∘ f) = (prev.map f).any isWord := by cases prev <;> rfl
    have hhead : s.head?.any (isWord ∘ f) = (s.map f).head?.any isWord := by cases s <;> rfl
    simp only [comap, ends, hprev, hhead]
  | .seq r r', prev, s => by
    simp only [comap, ends]
    rw [ends_comap isWord f r]
    refine List.flatMap_congr fun n _ => ?_
    rw [ends_comap isWord f r', before_map, List.map_drop]
  | .alt r r', prev, s => by
    simp only [comap, ends]
    rw [ends_comap isWord f r, ends_comap isWord f r']

end Regex

/-! ## Substitution -/

/-- What replaces each match of a pattern, from its leading group and the rest of it. -/
structure Substitution {α : Type*} (isWord : α → Bool) where
  group : Regex α
  body : Regex α
  replace : List α → List α → List α
  consumes : body.consumes = true

namespace Substitution

variable {α β : Type*} {isWord : α → Bool}

open Regex

/-- The lengths of the group and of the rest of a match at the start of `s`. -/
def spans (sub : Substitution isWord) (prev : Option α) (s : List α) : List (ℕ × ℕ) :=
  (sub.group.ends isWord prev s).flatMap fun g =>
    (sub.body.ends isWord (before prev s g) (s.drop g)).map (g, ·)

/-- The match the engine takes at the start of `s`. -/
def matchAt (sub : Substitution isWord) (prev : Option α) (s : List α) : Option (ℕ × ℕ) :=
  (sub.spans prev s).head?

/-- Replace the matches of a text from left to right; the first `n` letters are in a match that
was replaced. -/
def scan (sub : Substitution isWord) : ℕ → Option α → List α → List α
  | _, _, [] => []
  | n + 1, _, a :: s => sub.scan n (some a) s
  | 0, prev, a :: s =>
    match sub.matchAt prev (a :: s) with
    | some (g, b) =>
      sub.replace ((a :: s).take g) (((a :: s).drop g).take b) ++ sub.scan (g + b - 1) (some a) s
    | none => a :: sub.scan 0 (some a) s

/-- `re.sub`. -/
def apply (sub : Substitution isWord) (s : List α) : List α :=
  sub.scan 0 none s

/-- The texts of the matches that `scan` replaces. -/
def found (sub : Substitution isWord) : ℕ → Option α → List α → List (List α)
  | _, _, [] => []
  | n + 1, _, a :: s => sub.found n (some a) s
  | 0, prev, a :: s =>
    match sub.matchAt prev (a :: s) with
    | some (g, b) => (a :: s).take (g + b) :: sub.found (g + b - 1) (some a) s
    | none => sub.found 0 (some a) s

/-- The same substitution over letters that are read through `f`. -/
def comap (sub : Substitution isWord) (f : β → α) (replace : List β → List β → List β) :
    Substitution (isWord ∘ f) where
  group := sub.group.comap f
  body := sub.body.comap f
  replace := replace
  consumes := by
    have hconsumes : ∀ r : Regex α, (r.comap f).consumes = r.consumes := by
      intro r
      induction r with
      | seq r r' ih ih' => simp only [Regex.comap, Regex.consumes, ih, ih']
      | alt r r' ih ih' => simp only [Regex.comap, Regex.consumes, ih, ih']
      | _ => rfl
    rw [hconsumes]
    exact sub.consumes

variable (sub : Substitution isWord) {prev prev' : Option α} {s t : List α}
variable {g b : ℕ}

theorem mem_spans (h : (g, b) ∈ sub.spans prev s) : 0 < b ∧ g + b ≤ s.length := by
  simp only [spans, List.mem_flatMap, List.mem_map, Prod.mk.injEq] at h
  obtain ⟨g', hg, b', hb, rfl, rfl⟩ := h
  have hg' := ends_le _ hg
  have hb' := ends_le _ hb
  rw [List.length_drop] at hb'
  exact ⟨pos_of_consumes sub.consumes hb, by omega⟩

theorem spans_congr (h : prev.any isWord = prev'.any isWord) :
    sub.spans prev s = sub.spans prev' s := by
  unfold spans
  rw [ends_congr _ h]
  refine List.flatMap_congr fun n _ => ?_
  rw [ends_congr _ (any_before h n)]

theorem filter_spans_append (ht : t.head?.any isWord = false) :
    (sub.spans prev (s ++ t)).filter (fun span => span.1 + span.2 ≤ s.length) =
      sub.spans prev s := by
  unfold spans
  conv_rhs => rw [← filter_ends_append ht sub.group, flatMap_filter]
  rw [List.filter_flatMap]
  refine List.flatMap_congr fun g _ => ?_
  by_cases hg : g ≤ s.length
  · rw [if_pos (by simpa using hg), before_append hg, List.drop_append_of_le_length hg,
      ← filter_ends_append ht sub.body (s := s.drop g), List.filter_map]
    congr 1
    refine List.filter_congr fun b _ => ?_
    simp only [Function.comp_apply, List.length_drop, decide_eq_decide]
    omega
  · rw [if_neg (by simpa using hg), List.filter_eq_nil_iff]
    intro span hspan
    obtain ⟨b, -, rfl⟩ := List.mem_map.1 hspan
    simp only [decide_eq_true_eq]
    omega

/-- A match that ends before the edge is the match of the text up to the edge. -/
theorem matchAt_append (ht : t.head?.any isWord = false) (hlength : g + b ≤ s.length)
    (h : sub.matchAt prev (s ++ t) = some (g, b)) : sub.matchAt prev s = some (g, b) := by
  unfold matchAt at h ⊢
  rw [← sub.filter_spans_append ht]
  cases hspans : sub.spans prev (s ++ t) with
  | nil => simp [hspans] at h
  | cons span spans =>
    rw [hspans, List.head?_cons, Option.some.injEq] at h
    subst h
    rw [List.filter_cons_of_pos (by simpa using hlength), List.head?_cons]

theorem matchAt_append_none (ht : t.head?.any isWord = false)
    (h : sub.matchAt prev (s ++ t) = none) : sub.matchAt prev s = none := by
  unfold matchAt at h ⊢
  rw [← sub.filter_spans_append ht, List.head?_eq_none_iff.1 h]
  rfl

theorem matchAt_le (h : sub.matchAt prev s = some (g, b)) : 0 < b ∧ g + b ≤ s.length :=
  sub.mem_spans (List.mem_of_mem_head? h)

theorem matchAt_comap (f : β → α) (replace : List β → List β → List β) (prev : Option β)
    (s : List β) : (sub.comap f replace).matchAt prev s =
      sub.matchAt (prev.map f) (s.map f) := by
  unfold matchAt spans
  simp only [comap, ends_comap]
  congr 1
  refine List.flatMap_congr fun n _ => ?_
  rw [before_map, List.map_drop]

/-- A substitution that reads its letters through `f` does what the substitution does to what
it reads. -/
theorem map_scan (f : β → α) {replace : List β → List β → List β}
    (hreplace : ∀ g b, (replace g b).map f = sub.replace (g.map f) (b.map f)) :
    ∀ (n : ℕ) (prev : Option β) (s : List β),
      ((sub.comap f replace).scan n prev s).map f = sub.scan n (prev.map f) (s.map f)
  | 0, _, [] => rfl
  | _ + 1, _, [] => rfl
  | n + 1, prev, a :: s => by
    simp only [scan, List.map_cons]
    exact map_scan f hreplace n (some a) s
  | 0, prev, a :: s => by
    simp only [scan, matchAt_comap, List.map_cons]
    cases sub.matchAt (prev.map f) (f a :: s.map f) with
    | none =>
      simp only [List.map_cons]
      rw [map_scan f hreplace 0 (some a) s]
      rfl
    | some span =>
      obtain ⟨g, b⟩ := span
      simp only [List.map_append]
      rw [map_scan f hreplace (g + b - 1) (some a) s]
      simp only [comap, hreplace, List.map_take, List.map_drop, List.map_cons, Option.map_some]

theorem map_apply (f : β → α) {replace : List β → List β → List β}
    (hreplace : ∀ g b, (replace g b).map f = sub.replace (g.map f) (b.map f)) (s : List β) :
    ((sub.comap f replace).apply s).map f = sub.apply (s.map f) :=
  sub.map_scan f hreplace 0 none s

/-! ## A text between two edges -/

variable {ι : Type*}

/-- The letters lie on one side of every edge. -/
def OneSided (side : α → ι) (m : List α) : Prop :=
  ∀ a ∈ m, ∀ b ∈ m, side a = side b

instance [DecidableEq ι] (side : α → ι) (m : List α) : Decidable (OneSided side m) :=
  inferInstanceAs (Decidable (∀ a ∈ m, ∀ b ∈ m, side a = side b))

/-- What replaces a match lies on the side of the match, and has no word letter at an end where
the match has none, nor at its right end. -/
structure Keeps (sub : Substitution isWord) (side : α → ι) : Prop where
  side : ∀ g b, b ≠ [] → ∀ a ∈ sub.replace g b, ∃ c ∈ g ++ b, side a = side c
  left : ∀ g b, (g ++ b).head?.any isWord = false → (sub.replace g b).head?.any isWord = false
  right : ∀ g b, ∃ a, (sub.replace g b).getLast? = some a ∧ isWord a = false

theorem scan_congr (h : prev.any isWord = prev'.any isWord) :
    sub.scan 0 prev s = sub.scan 0 prev' s := by
  cases s with
  | nil => rfl
  | cons a s =>
    simp only [scan, matchAt]
    rw [sub.spans_congr h]

theorem found_congr (h : prev.any isWord = prev'.any isWord) :
    sub.found 0 prev s = sub.found 0 prev' s := by
  cases s with
  | nil => rfl
  | cons a s =>
    simp only [found, matchAt]
    rw [sub.spans_congr h]

theorem before_length_cons (prev : Option α) (a : α) (s : List α) :
    before prev (a :: s) (a :: s).length = before (some a) s s.length := by
  simp only [before, List.take_length, List.getLast?_cons]
  cases s.getLast? <;> rfl

variable {sub} {side : α → ι} {i : ι}

/-- A match that lies on one side of an edge ends before the edge. -/
theorem OneSided.span_le {a : α} (hs : ∀ c ∈ a :: s, side c = i) (ht : ∀ c ∈ t, side c ≠ i)
    (hspan : g + b ≤ (a :: (s ++ t)).length) (h : OneSided side ((a :: (s ++ t)).take (g + b))) :
    g + b ≤ (a :: s).length := by
  by_contra hlt
  rw [Nat.not_le] at hlt
  cases t with
  | nil =>
    rw [List.append_nil] at hspan
    omega
  | cons c t =>
    have hc : c ∈ (a :: (s ++ c :: t)).take (g + b) := by
      rw [← List.cons_append, List.take_append, List.mem_append]
      refine Or.inr ?_
      obtain ⟨k, hk⟩ : ∃ k, g + b - (a :: s).length = k + 1 := ⟨_, (Nat.succ_pred (by omega)).symm⟩
      rw [hk, List.take_succ_cons]
      exact List.mem_cons_self
    have ha : a ∈ (a :: (s ++ c :: t)).take (g + b) := by
      obtain ⟨k, hk⟩ : ∃ k, g + b = k + 1 := by
        simp only [List.length_cons] at hlt
        exact ⟨g + b - 1, by omega⟩
      rw [hk, List.take_succ_cons]
      exact List.mem_cons_self
    refine ht c List.mem_cons_self ?_
    rw [h c hc a ha]
    exact hs a List.mem_cons_self

/-- The group and the rest of a match are its letters. -/
theorem take_append_take_drop (s : List α) (g b : ℕ) :
    s.take g ++ (s.drop g).take b = s.take (g + b) := by
  rw [List.take_add]

theorem take_drop_ne_nil (hb : 0 < b) (h : g + b ≤ s.length) : (s.drop g).take b ≠ [] := by
  intro hnil
  have hlength := congrArg List.length hnil
  rw [List.length_take, List.length_drop, List.length_nil] at hlength
  omega

theorem Keeps.mem_scan (hkeeps : sub.Keeps side) : ∀ {n : ℕ} {prev : Option α} {s : List α}
    {a : α}, a ∈ sub.scan n prev s → ∃ c ∈ s, side a = side c
  | 0, _, [], a, h => by cases h
  | _ + 1, _, [], a, h => by cases h
  | n + 1, _, c :: s, a, h => by
    obtain ⟨d, hd, hside⟩ := hkeeps.mem_scan (n := n) h
    exact ⟨d, List.mem_cons_of_mem _ hd, hside⟩
  | 0, prev, c :: s, a, h => by
    simp only [scan] at h
    split at h
    next g b hmatch =>
      rcases List.mem_append.1 h with h | h
      · obtain ⟨hb, hspan⟩ := sub.matchAt_le hmatch
        obtain ⟨d, hd, hside⟩ := hkeeps.side _ _ (take_drop_ne_nil hb hspan) a h
        refine ⟨d, ?_, hside⟩
        rcases List.mem_append.1 hd with hd | hd
        · exact List.mem_of_mem_take hd
        · exact List.mem_of_mem_drop (List.mem_of_mem_take hd)
      · obtain ⟨d, hd, hside⟩ := hkeeps.mem_scan h
        exact ⟨d, List.mem_cons_of_mem _ hd, hside⟩
    next =>
      rcases List.mem_cons.1 h with rfl | h
      · exact ⟨a, List.mem_cons_self, rfl⟩
      · obtain ⟨d, hd, hside⟩ := hkeeps.mem_scan h
        exact ⟨d, List.mem_cons_of_mem _ hd, hside⟩

theorem Keeps.head?_scan (hkeeps : sub.Keeps side) (h : s.head?.any isWord = false) :
    (sub.scan 0 prev s).head?.any isWord = false := by
  cases s with
  | nil => rfl
  | cons a s =>
    simp only [scan]
    split
    next g b hmatch =>
      obtain ⟨hb, hspan⟩ := sub.matchAt_le hmatch
      have hleft := hkeeps.left ((a :: s).take g) (((a :: s).drop g).take b) (by
        obtain ⟨k, hk⟩ : ∃ k, g + b = k + 1 := ⟨g + b - 1, by omega⟩
        rw [take_append_take_drop, hk, List.take_succ_cons]
        exact h)
      obtain ⟨c, hc, -⟩ := hkeeps.right ((a :: s).take g) (((a :: s).drop g).take b)
      cases hreplace : sub.replace ((a :: s).take g) (((a :: s).drop g).take b) with
      | nil => simp [hreplace] at hc
      | cons d r =>
        rw [hreplace] at hleft
        exact hleft
    next => exact h

/-- What an edge lets through : past the letters of one side, the scan starts anew. -/
theorem Keeps.scan_after (hkeeps : sub.Keeps side) : ∀ {s t : List α} {n : ℕ} {p : Option α},
    n ≤ s.length → (∀ a ∈ s, side a = i) → (∀ a ∈ t, side a ≠ i) →
    (∀ m ∈ sub.found n p (s ++ t), OneSided side m) → s.getLast?.any isWord = false →
    ∃ s', sub.scan n p (s ++ t) = s' ++ sub.scan 0 (before p s s.length) t ∧
      (∀ m ∈ sub.found 0 (before p s s.length) t, m ∈ sub.found n p (s ++ t)) ∧
      (∀ a ∈ s', side a = i) ∧ s'.getLast?.any isWord = false ∧ (n = 0 → s ≠ [] → s' ≠ [])
  | [], t, n, p, hn, _, _, _, _ => by
    rw [List.length_nil, Nat.le_zero] at hn
    subst hn
    exact ⟨[], rfl, fun _ h => h, by simp, rfl, fun _ h => h⟩
  | a :: s, t, n + 1, p, hn, hs, ht, hfound, hlast => by
    have hlast' : s.getLast?.any isWord = false := by
      cases s with
      | nil => rfl
      | cons c s => rwa [List.getLast?_cons_cons] at hlast
    obtain ⟨s', hscan, hsub, hside, hword, -⟩ := hkeeps.scan_after (n := n) (p := some a)
      (Nat.le_of_succ_le_succ hn) (fun c hc => hs c (List.mem_cons_of_mem _ hc)) ht hfound hlast'
    rw [before_length_cons]
    exact ⟨s', hscan, hsub, hside, hword, fun h => by cases h⟩
  | a :: s, t, 0, p, _, hs, ht, hfound, hlast => by
    have hlast' : s.getLast?.any isWord = false := by
      cases s with
      | nil => rfl
      | cons c s => rwa [List.getLast?_cons_cons] at hlast
    have hs' : ∀ c ∈ s, side c = i := fun c hc => hs c (List.mem_cons_of_mem _ hc)
    rw [before_length_cons]
    cases hmatch : sub.matchAt p (a :: (s ++ t)) with
    | none =>
      simp only [List.cons_append, found, hmatch] at hfound
      obtain ⟨s', hscan, hsub, hside, hword, hne⟩ := hkeeps.scan_after (n := 0)
        (p := some a) (Nat.zero_le _) hs' ht hfound hlast'
      refine ⟨a :: s', ?_, ?_, ?_, ?_, fun _ _ => List.cons_ne_nil _ _⟩
      · simp only [List.cons_append, scan, hmatch, hscan]
      · simpa only [List.cons_append, found, hmatch] using hsub
      · intro c hc
        rcases List.mem_cons.1 hc with rfl | hc
        · exact hs c List.mem_cons_self
        · exact hside c hc
      · cases s' with
        | nil =>
          have hnil : s = [] := by
            by_contra hs
            exact hne rfl hs rfl
          subst hnil
          exact hlast
        | cons c s' => rwa [List.getLast?_cons_cons]
    | some span =>
      obtain ⟨g, b⟩ := span
      obtain ⟨hb, hspan⟩ := sub.matchAt_le hmatch
      simp only [List.cons_append, found, hmatch, List.forall_mem_cons] at hfound
      have hle := hfound.1.span_le hs ht hspan
      obtain ⟨s', hscan, hsub, hside, hword, -⟩ := hkeeps.scan_after (n := g + b - 1)
        (p := some a) (by rw [List.length_cons] at hle; omega) hs' ht hfound.2 hlast'
      refine ⟨sub.replace ((a :: (s ++ t)).take g) (((a :: (s ++ t)).drop g).take b) ++ s', ?_,
        ?_, ?_, ?_, fun _ _ => ?_⟩
      · simp only [List.cons_append, scan, hmatch, hscan, List.append_assoc]
      · intro m hm
        simp only [List.cons_append, found, hmatch]
        exact List.mem_cons_of_mem _ (hsub m hm)
      · intro c hc
        rcases List.mem_append.1 hc with hc | hc
        · obtain ⟨d, hd, hcd⟩ := hkeeps.side _ _ (take_drop_ne_nil hb hspan) c hc
          rw [take_append_take_drop, ← List.cons_append,
            List.take_append_of_le_length hle] at hd
          rw [hcd]
          exact hs d (List.mem_of_mem_take hd)
        · exact hside c hc
      · obtain ⟨c, hc, hcword⟩ := hkeeps.right ((a :: (s ++ t)).take g)
          (((a :: (s ++ t)).drop g).take b)
        rw [List.getLast?_append, hc]
        cases hs' : s'.getLast? with
        | none => simpa using hcword
        | some d =>
          rw [hs'] at hword
          simpa using hword
      · obtain ⟨c, hc, -⟩ := hkeeps.right ((a :: (s ++ t)).take g)
          (((a :: (s ++ t)).drop g).take b)
        intro hnil
        rw [(List.append_eq_nil_iff.1 hnil).1] at hc
        cases hc

/-- Up to an edge that no word letter follows, a text is scanned as it is without what is after
the edge. -/
theorem scan_before : ∀ {s t : List α} {n : ℕ} {p : Option α}, n ≤ s.length →
    t.head?.any isWord = false → (∀ a ∈ s, side a = i) → (∀ a ∈ t, side a ≠ i) →
    (∀ m ∈ sub.found n p (s ++ t), OneSided side m) →
    sub.scan n p (s ++ t) = sub.scan n p s ++ sub.scan 0 (before p s s.length) t
  | [], t, n, p, hn, _, _, _, _ => by
    rw [List.length_nil, Nat.le_zero] at hn
    subst hn
    rfl
  | a :: s, t, n + 1, p, hn, hword, hs, ht, hfound => by
    rw [before_length_cons]
    exact scan_before (n := n) (p := some a) (Nat.le_of_succ_le_succ hn) hword
      (fun c hc => hs c (List.mem_cons_of_mem _ hc)) ht hfound
  | a :: s, t, 0, p, _, hword, hs, ht, hfound => by
    have hs' : ∀ c ∈ s, side c = i := fun c hc => hs c (List.mem_cons_of_mem _ hc)
    rw [before_length_cons]
    cases hmatch : sub.matchAt p (a :: (s ++ t)) with
    | none =>
      have hmatch' : sub.matchAt p (a :: s) = none := sub.matchAt_append_none hword hmatch
      simp only [List.cons_append, found, hmatch] at hfound
      simp only [List.cons_append, scan, hmatch, hmatch']
      rw [scan_before (n := 0) (p := some a) (Nat.zero_le _) hword hs' ht hfound]
    | some span =>
      obtain ⟨g, b⟩ := span
      obtain ⟨hb, hspan⟩ := sub.matchAt_le hmatch
      simp only [List.cons_append, found, hmatch, List.forall_mem_cons] at hfound
      have hle := hfound.1.span_le hs ht hspan
      have hmatch' : sub.matchAt p (a :: s) = some (g, b) :=
        sub.matchAt_append hword hle hmatch
      have hgroup : (a :: (s ++ t)).take g = (a :: s).take g := by
        rw [← List.cons_append, List.take_append_of_le_length (by omega)]
      have hbody : ((a :: (s ++ t)).drop g).take b = ((a :: s).drop g).take b := by
        rw [← List.cons_append, List.drop_append_of_le_length (by omega),
          List.take_append_of_le_length (by rw [List.length_drop]; omega)]
      simp only [List.cons_append, scan, hmatch, hmatch', hgroup, hbody, List.append_assoc]
      rw [scan_before (n := g + b - 1) (p := some a)
        (by rw [List.length_cons] at hle; omega) hword hs' ht hfound.2]

/-! ## Frames -/

/-- The sides of two edges. -/
inductive Side
  | before
  | inside
  | after
  deriving DecidableEq

/-- A text with two edges, at neither of which a word letter stands outside. -/
structure Frame (isWord : α → Bool) (side : α → Side) (whole part : List α) : Prop where
  exists_eq : ∃ left right, whole = left ++ part ++ right ∧
    (∀ a ∈ left, side a = .before) ∧ (∀ a ∈ right, side a = .after) ∧
    left.getLast?.any isWord = false ∧ right.head?.any isWord = false
  inside : ∀ a ∈ part, side a = .inside

/-- A substitution of whose matches none straddles an edge does to the part between the edges
what it does to that part alone. -/
theorem Frame.apply {side : α → Side} {whole part : List α}
    (hframe : Frame isWord side whole part) (hkeeps : sub.Keeps side)
    (hfound : ∀ m ∈ sub.found 0 none whole, OneSided side m) :
    Frame isWord side (sub.apply whole) (sub.apply part) := by
  obtain ⟨⟨left, right, rfl, hleft, hright, hlast, hhead⟩, hinside⟩ := hframe
  rw [List.append_assoc] at hfound
  have hbefore : ∀ a ∈ part ++ right, side a ≠ .before := by
    intro a ha
    rcases List.mem_append.1 ha with ha | ha
    · rw [hinside a ha]
      decide
    · rw [hright a ha]
      decide
  have hafter : ∀ a ∈ right, side a ≠ .inside := by
    intro a ha
    rw [hright a ha]
    decide
  obtain ⟨left', hscan, hsub, hside, hlast', -⟩ :=
    hkeeps.scan_after (Nat.zero_le _) hleft hbefore hfound hlast
  -- the scan of the part starts as if nothing was before it
  have hfresh : (Regex.before (none : Option α) left left.length).any isWord =
      (none : Option α).any isWord := by
    unfold Regex.before
    rw [List.take_length]
    cases hl : left.getLast? with
    | none => rfl
    | some a =>
      rw [hl] at hlast
      exact hlast
  rw [sub.found_congr hfresh] at hsub
  have hpart : sub.scan 0 none (part ++ right) = sub.scan 0 none part ++
      sub.scan 0 (Regex.before none part part.length) right :=
    scan_before (Nat.zero_le _) hhead hinside hafter fun m hm => hfound m (hsub m hm)
  refine ⟨⟨left', sub.scan 0 (Regex.before none part part.length) right, ?_, hside, ?_, hlast',
    hkeeps.head?_scan hhead⟩, ?_⟩
  · rw [Substitution.apply, Substitution.apply]
    rw [List.append_assoc left part right, hscan, sub.scan_congr hfresh, hpart, List.append_assoc]
  · intro a ha
    obtain ⟨c, hc, hac⟩ := hkeeps.mem_scan ha
    rw [hac]
    exact hright c hc
  · intro a ha
    obtain ⟨c, hc, hac⟩ := hkeeps.mem_scan ha
    rw [hac]
    exact hinside c hc

end Substitution

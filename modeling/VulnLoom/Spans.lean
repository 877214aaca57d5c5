import VulnLoom.TextLines

/-!
# Spans

A span is a half-open interval of positions of a list. Spans in the order of their starts are
merged where one begins before the last one ends (`covered_merge`), and merged spans are
replaced one by one, the last one first (`foldl_splice`). What comes out is the list with one
mask for each maximal run of covered elements of a line (`redact`).
-/

namespace Spans

open TextLines

variable {α β : Type*}

abbrev Span := ℕ × ℕ

/-! ## Merging -/

/-- The position is in one of the spans. -/
def CoveredBy (spans : List Span) (k : ℕ) : Prop :=
  ∃ s ∈ spans, s.1 ≤ k ∧ k < s.2

instance (spans : List Span) (k : ℕ) : Decidable (CoveredBy spans k) :=
  inferInstanceAs (Decidable (∃ s ∈ spans, s.1 ≤ k ∧ k < s.2))

variable {s : Span} {spans : List Span}

theorem covered_cons {k : ℕ} :
    CoveredBy (s :: spans) k ↔ (s.1 ≤ k ∧ k < s.2) ∨ CoveredBy spans k := by
  simp [CoveredBy]

/-- A span after the merged ones, of which the last one comes first. -/
def mergeSpan (merged : List Span) (s : Span) : List Span :=
  match merged with
  | [] => [s]
  | last :: earlier =>
    if s.1 ≤ last.2 then (last.1, max s.2 last.2) :: earlier else s :: last :: earlier

/-- The merged spans, the last one first. -/
def merge (spans : List Span) : List Span :=
  spans.foldl mergeSpan []

variable {merged : List Span}

theorem covered_mergeSpan (h : ∀ t ∈ merged, t.1 ≤ s.1) (k : ℕ) :
    CoveredBy (mergeSpan merged s) k ↔ CoveredBy merged k ∨ s.1 ≤ k ∧ k < s.2 := by
  rcases merged with _ | ⟨last, earlier⟩
  · simp [mergeSpan, CoveredBy]
  · have hlast := h last (by simp)
    rw [mergeSpan]
    split_ifs with hs
    · rw [covered_cons, covered_cons]
      constructor
      · rintro (⟨h1, h2⟩ | h)
        · by_cases hk : k < last.2
          · exact .inl (.inl ⟨h1, hk⟩)
          · exact .inr ⟨by omega, by simp only at h2; omega⟩
        · exact .inl (.inr h)
      · rintro ((⟨h1, h2⟩ | h) | ⟨h1, h2⟩)
        · exact .inl ⟨h1, by simp only; omega⟩
        · exact .inr h
        · exact .inl ⟨by simp only; omega, by simp only; omega⟩
    · rw [covered_cons, or_comm]

theorem mergeSpan_start {t : Span} (ht : t ∈ mergeSpan merged s) :
    t.1 = s.1 ∨ ∃ t' ∈ merged, t.1 = t'.1 := by
  rcases merged with _ | ⟨last, earlier⟩
  · exact .inl (by simp [mergeSpan] at ht; rw [ht])
  · rw [mergeSpan] at ht
    split_ifs at ht
    · rcases List.mem_cons.mp ht with rfl | ht
      · exact .inr ⟨last, by simp, rfl⟩
      · exact .inr ⟨t, by simp [ht], rfl⟩
    · rcases List.mem_cons.mp ht with rfl | ht
      · exact .inl rfl
      · exact .inr ⟨t, ht, rfl⟩

/-- Merging covers what the spans cover. -/
theorem covered_merge (h : spans.Pairwise fun s t => s.1 ≤ t.1) (k : ℕ) :
    CoveredBy (merge spans) k ↔ CoveredBy spans k := by
  have hfold : ∀ merged : List Span, (∀ t ∈ merged, ∀ s ∈ spans, t.1 ≤ s.1) →
      (CoveredBy (spans.foldl mergeSpan merged) k ↔ CoveredBy merged k ∨ CoveredBy spans k) := by
    induction spans with
    | nil => simp [CoveredBy]
    | cons s spans ih =>
      intro merged hle
      obtain ⟨hs, h⟩ := List.pairwise_cons.mp h
      rw [List.foldl_cons, ih h, covered_mergeSpan fun t ht => hle t ht s (by simp), covered_cons,
        or_assoc]
      intro t ht u hu
      rcases mergeSpan_start ht with heq | ⟨t', ht', heq⟩ <;> rw [heq]
      · exact hs u hu
      · exact hle t' ht' u (by simp [hu])
  simpa [merge, CoveredBy] using hfold [] (by simp)

variable {length : ℕ}

/-- Spans that end too early, each beside the one it should be, cover too little : if they cover
all they should, some span after any given one ends where it should. -/
theorem exists_exact {pairs : List (Span × Span)}
    (hle : ∀ p ∈ pairs, p.1.2 ≤ p.2.2 ∧ p.2.2 ≤ length)
    (hne : ∀ p ∈ pairs, p.1.1 < p.1.2 → p.2.1 < p.2.2)
    (hcover : ∀ k, CoveredBy (pairs.map Prod.snd) k → CoveredBy (pairs.map Prod.fst) k)
    {p : Span × Span} (hp : p ∈ pairs) (hstart : p.2.1 < p.2.2) :
    ∃ q ∈ pairs, q.1.1 < q.1.2 ∧ q.1.2 = q.2.2 ∧ p.2.2 ≤ q.2.2 := by
  induction hn : length - p.2.2 using Nat.strong_induction_on generalizing p with
  | _ n ih =>
    obtain ⟨s, hs, hlow, hhigh⟩ :=
      hcover (p.2.2 - 1) ⟨p.2, List.mem_map_of_mem hp, by omega, by omega⟩
    obtain ⟨q, hq, rfl⟩ := List.mem_map.mp hs
    have hbounds := hle q hq
    by_cases hexact : q.1.2 = q.2.2
    · exact ⟨q, hq, by omega, hexact, by omega⟩
    · obtain ⟨r, hr, hrne, hrexact, hrle⟩ :=
        ih (length - q.2.2) (by omega) hq (hne q hq (by omega)) rfl
      exact ⟨r, hr, hrne, hrexact, by omega⟩

/-- Spans of a list of that length, the last one first, with a position between any two. -/
structure Separated (length : ℕ) (spans : List Span) : Prop where
  apart : spans.Pairwise fun later earlier => earlier.2 < later.1
  bounds : ∀ s ∈ spans, s.1 ≤ s.2 ∧ s.2 ≤ length

theorem Separated.tail (h : Separated length (s :: spans)) : Separated length spans :=
  ⟨(List.pairwise_cons.mp h.apart).2, fun t ht => h.bounds t (by simp [ht])⟩

/-- What comes before the last span. -/
theorem Separated.before (h : Separated length (s :: spans)) : Separated s.1 spans where
  apart := h.tail.apart
  bounds t ht :=
    ⟨(h.tail.bounds t ht).1, le_of_lt ((List.pairwise_cons.mp h.apart).1 t ht)⟩

theorem mergeSpan_separated (h : Separated length merged) (hs : s.1 ≤ s.2 ∧ s.2 ≤ length) :
    Separated length (mergeSpan merged s) := by
  rcases merged with _ | ⟨last, earlier⟩
  · exact ⟨by simp [mergeSpan], by simpa [mergeSpan] using hs⟩
  · have hlast := h.bounds last (by simp)
    obtain ⟨hapart, htail⟩ := List.pairwise_cons.mp h.apart
    rw [mergeSpan]
    split_ifs with hle
    · refine ⟨List.pairwise_cons.mpr ⟨hapart, htail⟩, fun t ht => ?_⟩
      rcases List.mem_cons.mp ht with rfl | ht
      · simp only
        omega
      · exact h.bounds t (by simp [ht])
    · refine ⟨List.pairwise_cons.mpr ⟨fun t ht => ?_, h.apart⟩, fun t ht => ?_⟩
      · rcases List.mem_cons.mp ht with rfl | ht
        · omega
        · have := hapart t ht
          omega
      · rcases List.mem_cons.mp ht with rfl | ht
        · exact hs
        · exact h.bounds t ht

theorem merge_separated (h : ∀ s ∈ spans, s.1 ≤ s.2 ∧ s.2 ≤ length) :
    Separated length (merge spans) := by
  have hfold : ∀ merged, Separated length merged →
      Separated length (spans.foldl mergeSpan merged) := by
    induction spans with
    | nil => exact fun _ hm => hm
    | cons s spans ih =>
      intro merged hm
      exact ih (fun t ht => h t (by simp [ht])) _ (mergeSpan_separated hm (h s (by simp)))
  exact hfold [] ⟨List.Pairwise.nil, by simp⟩

/-! ## Masks -/

/-- The list with each element that is covered marked. -/
def mark (P : ℕ → Prop) [DecidablePred P] : ℕ → List α → List (α × Bool)
  | _, [] => []
  | k, x :: xs => (x, decide (P k)) :: mark P (k + 1) xs

/-- One mask for each run of marked elements on a line, after one (`inside`) or not. -/
def redact (stop : α → Bool) (mask : List α) : Bool → List (α × Bool) → List α
  | _, [] => []
  | inside, (x, hidden) :: xs =>
    if stop x then x :: redact stop mask false xs
    else if hidden then (if inside then [] else mask) ++ redact stop mask true xs
    else x :: redact stop mask false xs

/-- The list ends in such a run. -/
def endsInside (stop : α → Bool) : Bool → List (α × Bool) → Bool
  | inside, [] => inside
  | _, (x, hidden) :: xs => endsInside stop (hidden && !stop x) xs

section

variable {stop : α → Bool} {mask : List α}

theorem redact_append (inside : Bool) (xs ys : List (α × Bool)) :
    redact stop mask inside (xs ++ ys) =
      redact stop mask inside xs ++ redact stop mask (endsInside stop inside xs) ys := by
  induction xs generalizing inside with
  | nil => rfl
  | cons p xs ih =>
    obtain ⟨x, hidden⟩ := p
    simp only [List.cons_append, redact, endsInside]
    by_cases hx : stop x = true
    · simp [hx, ih]
    · rcases hidden <;> simp [hx, ih]

@[simp] theorem redact_visible (inside : Bool) (xs : List α) :
    redact stop mask inside (xs.map fun x => (x, false)) = xs := by
  induction xs generalizing inside with
  | nil => rfl
  | cons x xs ih => simp [redact, ih]

theorem endsInside_concat (inside : Bool) (xs : List (α × Bool)) (p : α × Bool) :
    endsInside stop inside (xs ++ [p]) = (p.2 && !stop p.1) := by
  induction xs generalizing inside with
  | nil => rfl
  | cons q xs ih => exact ih _

theorem intercalate_append_cons (sep xs ys : List α) (rest : List (List α)) :
    sep.intercalate ((xs ++ ys) :: rest) = xs ++ sep.intercalate (ys :: rest) := by
  rcases rest with _ | ⟨zs, rest⟩ <;> simp [List.intercalate_cons_cons]

/-- The pieces between the stops, each that is not empty replaced by the mask. -/
theorem intercalate_splitOn [DecidableEq α] {newline : α} (xs : List α) :
    [newline].intercalate ((xs.splitOn newline).map fun p => if p = [] then [] else mask) =
      redact (fun x => x = newline) mask false (xs.map fun x => (x, true)) := by
  set shown : List α → List α := fun p => if p = [] then [] else mask with hshown
  -- inside a run the mask of the first piece has been shown
  have hboth : ∃ piece pieces, xs.splitOn newline = piece :: pieces ∧
      redact (fun x => x = newline) mask false (xs.map fun x => (x, true)) =
        [newline].intercalate (shown piece :: pieces.map shown) ∧
      redact (fun x => x = newline) mask true (xs.map fun x => (x, true)) =
        [newline].intercalate ([] :: pieces.map shown) := by
    induction xs with
    | nil => exact ⟨[], [], by simp, by simp [redact, hshown], by simp [redact]⟩
    | cons x xs ih =>
      obtain ⟨piece, pieces, hsplit, hout, hin⟩ := ih
      by_cases hx : x = newline
      · refine ⟨[], piece :: pieces, ?_, ?_, ?_⟩
        · simp [List.splitOn_cons_eq_if_modifyHead, hsplit, hx]
        · simp [redact, hx, hout, hshown, List.intercalate_cons_cons]
        · simp [redact, hx, hout, List.intercalate_cons_cons]
      · refine ⟨x :: piece, pieces, ?_, ?_, ?_⟩
        · simp [List.splitOn_cons_eq_if_modifyHead, hsplit, hx]
        · have hmask : shown (x :: piece) = mask ++ [] := by simp [hshown]
          rw [hmask, intercalate_append_cons, ← hin]
          simp [redact, hx]
        · rw [← hin]
          simp [redact, hx]
  obtain ⟨piece, pieces, hsplit, hout, -⟩ := hboth
  rw [hsplit, hout, List.map_cons]

end

/-! ## Marks -/

section

variable {P Q : ℕ → Prop} [DecidablePred P] [DecidablePred Q]

theorem mark_append (k : ℕ) (xs ys : List α) :
    mark P k (xs ++ ys) = mark P k xs ++ mark P (k + xs.length) ys := by
  induction xs generalizing k with
  | nil => rfl
  | cons x xs ih =>
    rw [List.cons_append, mark, mark, ih, List.cons_append, List.length_cons]
    congr 3
    omega

variable {xs : List α}

theorem mark_congr {k : ℕ} (h : ∀ j, k ≤ j → j < k + xs.length → (P j ↔ Q j)) :
    mark P k xs = mark Q k xs := by
  induction xs generalizing k with
  | nil => rfl
  | cons x xs ih =>
    rw [List.length_cons] at h
    rw [mark, mark, ih fun j h1 h2 => h j (by omega) (by omega)]
    simp only [h k le_rfl (by omega)]

theorem mark_const {k : ℕ} {b : Bool} (h : ∀ j, k ≤ j → j < k + xs.length → (decide (P j) = b)) :
    mark P k xs = xs.map fun x => (x, b) := by
  induction xs generalizing k with
  | nil => rfl
  | cons x xs ih =>
    rw [List.length_cons] at h
    rw [mark, ih fun j h1 h2 => h j (by omega) (by omega), h k le_rfl (by omega), List.map_cons]

/-- A list of which the last element is not marked ends outside every run. -/
theorem endsInside_mark {stop : α → Bool} {k : ℕ} (h : ∀ j, j + 1 = k + xs.length → ¬P j) :
    endsInside stop false (mark P k xs) = false := by
  rcases List.eq_nil_or_concat' xs with rfl | ⟨ys, y, rfl⟩
  · rfl
  · have hP : ¬P (k + ys.length) := h _ (by simp [Nat.add_assoc])
    simp [mark_append, mark, endsInside_concat, hP]

end

/-! ## Replacing -/

/-- The elements of a span replaced by what `f` makes of them. -/
def splice (f : List α → List α) (xs : List α) (s : Span) : List α :=
  xs.take s.1 ++ f ((xs.take s.2).drop s.1) ++ xs.drop s.2

variable {xs : List α}

/-- What comes after the spans stays as it is. -/
theorem foldl_splice_append (f : List α → List α) (h : Separated xs.length spans) (ys : List α) :
    spans.foldl (splice f) (xs ++ ys) = spans.foldl (splice f) xs ++ ys := by
  induction spans generalizing xs with
  | nil => rfl
  | cons s spans ih =>
    obtain ⟨hs, hlength⟩ := h.bounds s (by simp)
    have hsplice : splice f (xs ++ ys) s = splice f xs s ++ ys := by
      simp only [splice, List.append_assoc]
      rw [List.take_append_of_le_length (by omega), List.take_append_of_le_length hlength,
        List.drop_append_of_le_length hlength]
    have hbefore : Separated (splice f xs s).length spans :=
      ⟨h.before.apart, fun t ht => by
        have := h.before.bounds t ht
        simp only [splice, List.length_append, List.length_take]
        omega⟩
    rw [List.foldl_cons, hsplice, ih hbefore, List.foldl_cons]

/-- A span among the merged ones, the last one first, from the lists before, on and after it. -/
theorem foldl_splice_cons (f : List α → List α) (h : Separated xs.length (s :: spans)) :
    (s :: spans).foldl (splice f) xs =
      spans.foldl (splice f) (xs.take s.1) ++ (f ((xs.take s.2).drop s.1) ++ xs.drop s.2) := by
  obtain ⟨hs, hlength⟩ := h.bounds s (by simp)
  rw [List.foldl_cons, splice, List.append_assoc, foldl_splice_append f (by
    rw [List.length_take, min_eq_left (by omega)]
    exact h.before)]

/-- The last span marks its own elements and none after it. -/
theorem mark_covered_cons (h : Separated xs.length (s :: spans)) :
    mark (CoveredBy (s :: spans)) 0 xs =
      mark (CoveredBy spans) 0 (xs.take s.1) ++
        ((((xs.take s.2).drop s.1).map fun x => (x, true)) ++
          (xs.drop s.2).map fun x => (x, false)) := by
  obtain ⟨hs, hlength⟩ := h.bounds s (by simp)
  obtain ⟨hapart, -⟩ := List.pairwise_cons.mp h.apart
  have htake : (xs.take s.1).length = s.1 := by
    rw [List.length_take, min_eq_left (by omega)]
  have hmiddle : ((xs.take s.2).drop s.1).length = s.2 - s.1 := by
    rw [List.length_drop, List.length_take, min_eq_left hlength]
  have hsplit : xs = xs.take s.1 ++ ((xs.take s.2).drop s.1 ++ xs.drop s.2) := by
    have : xs.take s.1 = (xs.take s.2).take s.1 := by
      rw [List.take_take, min_eq_left hs]
    rw [← List.append_assoc, this, List.take_append_drop, List.take_append_drop]
  have hbefore : mark (CoveredBy (s :: spans)) 0 (xs.take s.1) =
      mark (CoveredBy spans) 0 (xs.take s.1) :=
    mark_congr fun j _ hj => by
      rw [covered_cons]
      constructor
      · rintro (⟨hj', -⟩ | hj')
        · omega
        · exact hj'
      · exact .inr
  have hon : mark (CoveredBy (s :: spans)) s.1 ((xs.take s.2).drop s.1) =
      ((xs.take s.2).drop s.1).map fun x => (x, true) :=
    mark_const fun j hj hj' => by
      rw [hmiddle] at hj'
      exact decide_eq_true (covered_cons.mpr (.inl ⟨hj, by omega⟩))
  have hafter : mark (CoveredBy (s :: spans)) s.2 (xs.drop s.2) =
      (xs.drop s.2).map fun x => (x, false) :=
    mark_const fun j hj _ => decide_eq_false (by
      rw [covered_cons]
      rintro (⟨-, hj'⟩ | ⟨t, ht, -, hj'⟩)
      · omega
      · have := hapart t ht
        omega)
  have hsum : s.1 + ((xs.take s.2).drop s.1).length = s.2 := by
    omega
  conv_lhs => rw [hsplit]
  rw [mark_append, mark_append, htake, Nat.zero_add, hsum, hbefore, hon, hafter]

/-- Replacing separated spans shows one mask for each run of covered elements on a line. -/
theorem foldl_splice {stop : α → Bool} {mask : List α} {f : List α → List α}
    (hf : ∀ xs, f xs = redact stop mask false (xs.map fun x => (x, true)))
    (h : Separated xs.length spans) :
    spans.foldl (splice f) xs = redact stop mask false (mark (CoveredBy spans) 0 xs) := by
  induction spans generalizing xs with
  | nil =>
    have hmark : mark (CoveredBy []) 0 xs = xs.map fun x => (x, false) :=
      mark_const fun j _ _ => by simp [CoveredBy]
    rw [List.foldl_nil, hmark, redact_visible]
  | cons s spans ih =>
    obtain ⟨hs, hlength⟩ := h.bounds s (by simp)
    obtain ⟨hapart, -⟩ := List.pairwise_cons.mp h.apart
    have htake : (xs.take s.1).length = s.1 := by
      rw [List.length_take, min_eq_left (by omega)]
    -- the element before a span is not covered
    have hends : endsInside stop false (mark (CoveredBy spans) 0 (xs.take s.1)) = false := by
      refine endsInside_mark fun j hj => ?_
      rintro ⟨t, ht, -, hjt⟩
      have := hapart t ht
      omega
    rw [foldl_splice_cons f h, ih (by rw [htake]; exact h.before), hf, mark_covered_cons h,
      redact_append, hends, redact_append, redact_visible]

/-! ## Encodings -/

section

variable {stop : α → Bool} {mask : List α} {encode : α → List β} {stop' : β → Bool}

/-- The elements that stop a line are encoded as one that does, and no other encoding holds
one. -/
structure KeepsStops (stop : α → Bool) (encode : α → List β) (stop' : β → Bool) : Prop where
  ne_nil : ∀ x, encode x ≠ []
  stops : ∀ x, stop x = true → ∃ y, encode x = [y] ∧ stop' y = true
  others : ∀ x, stop x = false → ∀ y ∈ encode x, stop' y = false

/-- The elements of an encoding are marked as what they encode. -/
def encodeMarked (encode : α → List β) (xs : List (α × Bool)) : List (β × Bool) :=
  xs.flatMap fun p => (encode p.1).map fun y => (y, p.2)

theorem redact_hidden {mask : List β} {ys : List β} (h : ∀ y ∈ ys, stop' y = false)
    (hne : ys ≠ []) (inside : Bool) (rest : List (β × Bool)) :
    redact stop' mask inside ((ys.map fun y => (y, true)) ++ rest) =
      (if inside then [] else mask) ++ redact stop' mask true rest := by
  induction ys generalizing inside with
  | nil => exact absurd rfl hne
  | cons y ys ih =>
    have hy := h y (by simp)
    by_cases hys : ys = []
    · subst hys
      simp [redact, hy]
    · have := ih (fun z hz => h z (by simp [hz])) hys true
      simp [redact, hy, this]

theorem redact_shown {mask : List β} {ys : List β} (hne : ys ≠ []) (inside : Bool)
    (rest : List (β × Bool)) :
    redact stop' mask inside ((ys.map fun y => (y, false)) ++ rest) =
      ys ++ redact stop' mask false rest := by
  rw [redact_append, redact_visible]
  congr 2
  rcases List.eq_nil_or_concat' ys with rfl | ⟨zs, z, rfl⟩
  · exact absurd rfl hne
  · simp [endsInside_concat]

/-- Masks are shown alike before and after an encoding. -/
theorem redact_encode (h : KeepsStops stop encode stop') (inside : Bool) (xs : List (α × Bool)) :
    redact stop' (mask.flatMap encode) inside (encodeMarked encode xs) =
      (redact stop mask inside xs).flatMap encode := by
  induction xs generalizing inside with
  | nil => rfl
  | cons p xs ih =>
    obtain ⟨x, hidden⟩ := p
    have hcons : encodeMarked encode ((x, hidden) :: xs) =
        ((encode x).map fun y => (y, hidden)) ++ encodeMarked encode xs := List.flatMap_cons ..
    rw [hcons]
    by_cases hx : stop x = true
    · obtain ⟨y, hy, hstop⟩ := h.stops x hx
      simp [hy, redact, hstop, hx, ih]
    · have hothers := h.others x (by simpa using hx)
      rcases hidden
      · rw [redact_shown (h.ne_nil x), ih]
        simp [redact, hx]
      · rw [redact_hidden hothers (h.ne_nil x), ih]
        rcases inside <;> simp [redact, hx]

/-- The list with each element marked whose encoding begins at such a position. -/
def markEncoded (encode : α → List β) (P : ℕ → Prop) [DecidablePred P] :
    ℕ → List α → List (α × Bool)
  | _, [] => []
  | k, x :: xs => (x, decide (P k)) :: markEncoded encode P (k + (encode x).length) xs

variable {xs : List α}

theorem mem_markEncoded {P : ℕ → Prop} [DecidablePred P] {k : ℕ} {p : α × Bool}
    (hp : p ∈ markEncoded encode P k xs) : ∃ before after, xs = before ++ p.1 :: after ∧
      p.2 = decide (P (k + (before.flatMap encode).length)) := by
  induction xs generalizing k with
  | nil => simp [markEncoded] at hp
  | cons x xs ih =>
    rw [markEncoded] at hp
    rcases List.mem_cons.mp hp with rfl | hp
    · exact ⟨[], xs, rfl, by simp⟩
    · obtain ⟨before, after, rfl, hmark⟩ := ih hp
      refine ⟨x :: before, after, rfl, ?_⟩
      rw [hmark, List.flatMap_cons, List.length_append, Nat.add_assoc]

/-- The position is where the encoding of a first part of the list ends. -/
def IsBoundary (encode : α → List β) (xs : List α) (k : ℕ) : Prop :=
  ∃ ys, ys <+: xs ∧ k = (ys.flatMap encode).length

/-- Of two first parts of a list, the longer one has the longer encoding. -/
theorem length_flatMap_le_iff (hne : ∀ x, encode x ≠ []) {ys zs : List α} (hys : ys <+: xs)
    (hzs : zs <+: xs) :
    (ys.flatMap encode).length ≤ (zs.flatMap encode).length ↔ ys.length ≤ zs.length := by
  have hle : ∀ us : List α, us.length ≤ (us.flatMap encode).length := fun us => by
    induction us with
    | nil => simp
    | cons u us ih =>
      have := List.length_pos_iff.mpr (hne u)
      simp only [List.flatMap_cons, List.length_append, List.length_cons]
      omega
  rcases List.prefix_or_prefix_of_prefix hys hzs with ⟨us, rfl⟩ | ⟨us, rfl⟩
  · simp
  · have := hle us
    simp only [List.flatMap_append, List.length_append]
    rcases us with _ | ⟨u, us⟩
    · simp
    · rw [List.length_cons] at this ⊢
      omega

/-- No boundary is inside the encoding of an element. -/
theorem IsBoundary.not_inside {before after : List α} {x : α} {k : ℕ}
    (h : IsBoundary encode (before ++ x :: after) k) :
    k ≤ (before.flatMap encode).length ∨
      (before.flatMap encode).length + (encode x).length ≤ k := by
  obtain ⟨ys, hys, rfl⟩ := h
  have hx : before ++ [x] <+: before ++ x :: after := ⟨after, by simp⟩
  rcases List.prefix_or_prefix_of_prefix hys hx with h | h
  · rcases List.prefix_concat_iff.mp h with rfl | ⟨zs, rfl⟩
    · simp
    · exact .inl (by simp)
  · obtain ⟨zs, rfl⟩ := h
    exact .inr (by simp only [List.flatMap_append, List.length_append, List.flatMap_cons]; omega)

/-- Where spans begin and end at boundaries, an encoding is marked as its first element is. -/
theorem mark_flatMap (h : ∀ s ∈ spans, IsBoundary encode xs s.1 ∧ IsBoundary encode xs s.2) :
    mark (CoveredBy spans) 0 (xs.flatMap encode) =
      encodeMarked encode (markEncoded encode (CoveredBy spans) 0 xs) := by
  have hfrom : ∀ before after, before ++ after = xs →
      mark (CoveredBy spans) (before.flatMap encode).length (after.flatMap encode) =
        encodeMarked encode
          (markEncoded encode (CoveredBy spans) (before.flatMap encode).length after) := by
    intro before after
    induction after generalizing before with
    | nil => exact fun _ => rfl
    | cons x after ih =>
      rintro rfl
      have hone : mark (CoveredBy spans) (before.flatMap encode).length (encode x) =
          (encode x).map fun y =>
            (y, decide (CoveredBy spans (before.flatMap encode).length)) := by
        refine mark_const fun j hj hj' => decide_eq_decide.mpr ?_
        have hiff : ∀ s ∈ spans, (s.1 ≤ j ∧ j < s.2) ↔ s.1 ≤ (before.flatMap encode).length ∧
            (before.flatMap encode).length < s.2 := by
          intro s hs
          have h1 := (h s hs).1.not_inside
          have h2 := (h s hs).2.not_inside
          omega
        exact exists_congr fun s => and_congr_right fun hs => hiff s hs
      have hrest := ih (before ++ [x]) (by simp)
      simp only [List.flatMap_append, List.length_append, List.flatMap_cons, List.flatMap_nil,
        List.append_nil] at hrest
      rw [List.flatMap_cons, mark_append, hone, hrest, markEncoded]
      rfl
  exact hfrom [] xs rfl

end

/-! ## Lines of a list with masks -/

section

variable {stop : α → Bool} {mask : List α}
variable {xs : List (α × Bool)}

/-- What is shown of a line is its elements and those of the mask. -/
theorem mem_redact {y : α} {inside : Bool} (hy : y ∈ redact stop mask inside xs) :
    y ∈ mask ∨ ∃ p ∈ xs, y = p.1 ∧ (stop y ∨ ¬p.2) := by
  induction xs generalizing inside with
  | nil => simp [redact] at hy
  | cons p xs ih =>
    obtain ⟨x, hidden⟩ := p
    have htail : ∀ b, y ∈ redact stop mask b xs →
        y ∈ mask ∨ ∃ p ∈ (x, hidden) :: xs, y = p.1 ∧ (stop y ∨ ¬p.2) := by
      intro b hb
      rcases ih hb with h | ⟨p, hp, h⟩
      · exact .inl h
      · exact .inr ⟨p, by simp [hp], h⟩
    rw [redact] at hy
    split_ifs at hy with hx hhidden hin
    · rcases List.mem_cons.mp hy with rfl | hy
      · exact .inr ⟨(y, hidden), by simp, rfl, .inl hx⟩
      · exact htail _ hy
    · exact htail _ (by simpa using hy)
    · rcases List.mem_append.mp hy with hy | hy
      · exact .inl hy
      · exact htail _ hy
    · rcases List.mem_cons.mp hy with rfl | hy
      · exact .inr ⟨(y, hidden), by simp, rfl, .inr hhidden⟩
      · exact htail _ hy

theorem redact_ne_nil (hne : mask ≠ []) (hxs : xs ≠ []) : redact stop mask false xs ≠ [] := by
  rcases xs with _ | ⟨⟨x, hidden⟩, xs⟩
  · exact absurd rfl hxs
  · rw [redact]
    by_cases hx : stop x = true
    · simp [hx]
    · rcases hidden <;> simp [hx, hne]

theorem redact_line (hmask : ∀ x ∈ mask, stop x = false) (hxs : ∀ p ∈ xs, stop p.1 = false)
    (inside : Bool) : ∀ y ∈ redact stop mask inside xs, stop y = false := by
  intro y hy
  rcases mem_redact hy with h | ⟨p, hp, rfl, -⟩
  · exact hmask y h
  · exact hxs p hp

/-- A mask is on one line, so that every line of the list becomes one line. -/
theorem linesOf_redact (hmask : ∀ x ∈ mask, stop x = false) (hne : mask ≠ [])
    (xs : List (α × Bool)) :
    linesOf stop (redact stop mask false xs) =
      (linesOf (stop ∘ Prod.fst) xs).map (redact stop mask false) := by
  induction xs using lines_induction (stop ∘ Prod.fst) with
  | hnil => rfl
  | hlast line hline hstop =>
    rw [linesOf_of_not_stop hstop hline,
      linesOf_of_not_stop (redact_line hmask hstop false) (redact_ne_nil hne hline),
      List.map_singleton]
  | hcons line p xs hline hp ih =>
    obtain ⟨x, hidden⟩ := p
    have hx : stop x = true := hp
    have hshown : ∀ rest : List (α × Bool), redact stop mask false (line ++ (x, hidden) :: rest) =
        redact stop mask false line ++ x :: redact stop mask false rest := fun rest => by
      rw [redact_append, redact, if_pos hx]
    have hone : redact stop mask false (line ++ [(x, hidden)]) =
        redact stop mask false line ++ [x] := hshown []
    rw [linesOf_append hline hp, hshown, linesOf_append (redact_line hmask hline false) hx, ih,
      List.map_cons, hone]

end

end Spans

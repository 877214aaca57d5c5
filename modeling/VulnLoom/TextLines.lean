import Mathlib.Data.List.Basic
import Mathlib.Data.List.TakeWhile

/-!
# Lines and columns

A list is cut into lines after each element that stops one. `reach stop n c xs` is what comes
before column `c` of line `n`, so two notions of a line agree on where a position is exactly
when they reach it over the same elements. If every element that stops a line of the one also
stops a line of the other (`fine`), the finer one never reaches further (`reach_mono`), and it
reaches as far exactly when no element before the last one on the way is a stop of the finer
notion only (`reach_eq_iff`).
-/

namespace TextLines

variable {α β : Type*} {stop fine : α → Bool}

/-! ## Lines -/

/-- The lines of a list, each with the element that stops it. -/
def linesOf (stop : α → Bool) : List α → List (List α)
  | [] => []
  | x :: xs =>
    if stop x then [x] :: linesOf stop xs
    else match linesOf stop xs with
      | [] => [[x]]
      | line :: lines => (x :: line) :: lines

theorem linesOf_cons_of_not_stop {x : α} {xs : List α} (hx : stop x = false) :
    linesOf stop (x :: xs) = match linesOf stop xs with
      | [] => [[x]]
      | line :: lines => (x :: line) :: lines := by
  rw [linesOf, if_neg (by simp [hx])]

variable {xs : List α}

/-- A line that is stopped, and what follows it. -/
theorem linesOf_append {line : List α} {x : α} (hline : ∀ y ∈ line, stop y = false)
    (hx : stop x = true) : linesOf stop (line ++ x :: xs) = (line ++ [x]) :: linesOf stop xs := by
  induction line with
  | nil => rw [List.nil_append, linesOf, if_pos hx, List.nil_append]
  | cons y line ih =>
    rw [List.cons_append, linesOf_cons_of_not_stop (hline y (by simp)),
      ih fun z hz => hline z (by simp [hz])]
    simp

/-- A last line that nothing stops. -/
theorem linesOf_of_not_stop {line : List α} (hline : ∀ y ∈ line, stop y = false)
    (hne : line ≠ []) : linesOf stop line = [line] := by
  induction line with
  | nil => exact absurd rfl hne
  | cons y line ih =>
    rw [linesOf_cons_of_not_stop (hline y (by simp))]
    by_cases h : line = []
    · subst h
      rfl
    · rw [ih (fun z hz => hline z (by simp [hz])) h]

/-- What holds of no line, of a line that nothing stops, and with one more line before it,
holds of every list. -/
theorem lines_induction (stop : α → Bool) {P : List α → Prop} (hnil : P [])
    (hlast : ∀ line : List α, line ≠ [] → (∀ y ∈ line, stop y = false) → P line)
    (hcons : ∀ (line : List α) (x : α) (xs : List α), (∀ y ∈ line, stop y = false) →
      stop x = true → P xs → P (line ++ x :: xs)) (xs : List α) : P xs := by
  induction h : xs.length using Nat.strong_induction_on generalizing xs with
  | _ n ih =>
    have hsplit : xs.takeWhile (fun y => !stop y) ++ xs.dropWhile (fun y => !stop y) = xs :=
      List.takeWhile_append_dropWhile
    have hline : ∀ y ∈ xs.takeWhile (fun y => !stop y), stop y = false := fun y hy => by
      simpa using List.mem_takeWhile_imp hy
    rcases hrest : xs.dropWhile (fun y => !stop y) with _ | ⟨x, rest⟩
    · rw [hrest, List.append_nil] at hsplit
      rw [hsplit] at hline
      by_cases hxs : xs = []
      · rwa [hxs]
      · exact hlast xs hxs hline
    · have hx : stop x = true := by
        have := List.head_dropWhile_not (fun y => !stop y) (l := xs) (by simp [hrest])
        simpa [hrest] using this
      rw [hrest] at hsplit
      have hlen : rest.length < n := by
        rw [← h, ← hsplit, List.length_append, List.length_cons]
        omega
      rw [← hsplit]
      exact hcons _ x rest hline hx (ih _ hlen rest rfl)

@[simp] theorem flatten_linesOf (xs : List α) : (linesOf stop xs).flatten = xs := by
  induction xs using lines_induction stop with
  | hnil => rfl
  | hlast line hne hline => simp [linesOf_of_not_stop hline hne]
  | hcons line x xs hline hx ih => simp [linesOf_append hline hx, ih]

/-- Lines do not depend on elements that do not occur. -/
theorem linesOf_congr (h : ∀ x ∈ xs, stop x = fine x) : linesOf stop xs = linesOf fine xs := by
  induction xs with
  | nil => rfl
  | cons x xs ih =>
    rw [linesOf, linesOf, h x (by simp), ih fun y hy => h y (by simp [hy])]

/-! ## Positions -/

/-- The elements before column `column` of line `line`, both counted from zero; a line includes
what stops it. -/
def reach (stop : α → Bool) : ℕ → ℕ → List α → List α
  | _, _, [] => []
  | 0, 0, _ => []
  | 0, column + 1, x :: xs => x :: (if stop x then [] else reach stop 0 column xs)
  | line + 1, column, x :: xs => x :: reach stop (if stop x then line else line + 1) column xs

/-- A line has a column of that number, at most the one of what stops it. -/
def IsPosition (stop : α → Bool) : ℕ → ℕ → List α → Prop
  | 0, 0, _ => True
  | _, _, [] => False
  | 0, column + 1, x :: xs => stop x = false ∧ IsPosition stop 0 column xs
  | line + 1, column, x :: xs => IsPosition stop (if stop x then line else line + 1) column xs

instance decidablePosition : ∀ (n c : ℕ) (xs : List α), Decidable (IsPosition stop n c xs)
  | 0, 0, _ => .isTrue (by simp [IsPosition])
  | 0, _ + 1, [] => .isFalse (by simp [IsPosition])
  | _ + 1, _, [] => .isFalse (by simp [IsPosition])
  | 0, c + 1, x :: xs =>
    have := decidablePosition 0 c xs
    inferInstanceAs (Decidable (stop x = false ∧ IsPosition stop 0 c xs))
  | n + 1, c, x :: xs => decidablePosition (if stop x then n else n + 1) c xs

@[simp] theorem reach_nil (n c : ℕ) : reach stop n c [] = [] := by
  simp [reach]

@[simp] theorem reach_zero_zero (xs : List α) : reach stop 0 0 xs = [] := by
  cases xs <;> simp [reach]

/-- The lines before, and the columns before on the line itself. -/
theorem reach_eq (n c : ℕ) (xs : List α) :
    reach stop n c xs =
      ((linesOf stop xs).take n).flatten ++ ((linesOf stop xs).getD n []).take c := by
  induction xs generalizing n c with
  | nil => simp [linesOf]
  | cons x xs ih =>
    by_cases hx : stop x = true
    · rw [linesOf, if_pos hx]
      rcases n with _ | n
      · rcases c with _ | c
        · simp
        · simp [reach, hx]
      · simp [reach, hx, ih]
    · rw [linesOf_cons_of_not_stop (by simpa using hx)]
      rcases n with _ | n
      · rcases c with _ | c
        · simp
        · have h := ih 0 c
          rcases hlines : linesOf stop xs with _ | ⟨line, lines⟩ <;>
            simp [reach, hx, hlines, h]
      · have h := ih (n + 1) c
        rcases hlines : linesOf stop xs with _ | ⟨line, lines⟩ <;>
          simp [reach, hx, hlines, h]

variable {n c n' c' : ℕ}

/-- The finer notion does not reach further, and a later position is reached later. -/
theorem reach_mono (hfine : ∀ x, stop x = true → fine x = true) (h : n < n' ∨ n = n' ∧ c ≤ c')
    (xs : List α) : reach fine n c xs <+: reach stop n' c' xs := by
  induction xs generalizing n c n' c' with
  | nil => simp
  | cons x xs ih =>
    have hstop : fine x ≠ true → stop x ≠ true := fun hf hs => hf (hfine x hs)
    rcases n with _ | n
    · rcases c with _ | c
      · simp
      rcases n' with _ | n'
      · obtain ⟨c', rfl⟩ : ∃ d, c' = d + 1 := ⟨c' - 1, by omega⟩
        by_cases hx : fine x = true
        · simp [reach, hx]
        · simpa [reach, hx, hstop hx] using ih (by omega : 0 < 0 ∨ 0 = 0 ∧ c ≤ c')
      · by_cases hx : fine x = true
        · simp [reach, hx]
        · simpa [reach, hx, hstop hx] using ih (by omega : 0 < n' + 1 ∨ 0 = n' + 1 ∧ c ≤ c')
    · obtain ⟨n', rfl⟩ : ∃ d, n' = d + 1 := ⟨n' - 1, by omega⟩
      simp only [reach, List.cons_prefix_cons, true_and]
      by_cases hs : stop x = true
      · rw [if_pos hs, if_pos (hfine x hs)]
        exact ih (by omega)
      · rw [if_neg hs]
        by_cases hx : fine x = true
        · rw [if_pos hx]
          exact ih (by omega)
        · rw [if_neg hx]
          exact ih (by omega)

theorem reach_initial (n c : ℕ) (xs : List α) : reach stop n c xs <+: xs := by
  induction xs generalizing n c with
  | nil => simp
  | cons x xs ih =>
    rcases n with _ | n
    · rcases c with _ | c
      · simp
      · by_cases hx : stop x = true
        · simp [reach, hx]
        · simpa [reach, hx] using ih 0 c
    · simpa [reach] using ih _ c

/-- A position has at least as many elements before it as lines and columns. -/
theorem IsPosition.le_length (h : IsPosition stop n c xs) : n + c ≤ (reach stop n c xs).length := by
  induction xs generalizing n c with
  | nil =>
    rcases n with _ | n <;> rcases c with _ | c <;> simp_all [IsPosition]
  | cons x xs ih =>
    rcases n with _ | n
    · rcases c with _ | c
      · simp
      · obtain ⟨hx, h⟩ := h
        have := ih h
        simp only [reach, hx, Bool.false_eq_true, if_false, List.length_cons]
        omega
    · have := ih h
      simp only [reach, List.length_cons]
      split_ifs at this ⊢ <;> omega

theorem length_reach_zero_le (c : ℕ) (xs : List α) : (reach stop 0 c xs).length ≤ c := by
  rw [reach_eq]
  simp only [List.take_zero, List.flatten_nil, List.nil_append, List.length_take]
  omega

/-- A position is not reached on an earlier line of the finer notion. -/
theorem IsPosition.reach_lt (hfine : ∀ x, stop x = true → fine x = true)
    (h : IsPosition stop n' c xs) (hn : n < n') :
    (reach fine n c xs).length < (reach stop n' c xs).length := by
  induction xs generalizing n n' with
  | nil =>
    obtain ⟨n', rfl⟩ : ∃ d, n' = d + 1 := ⟨n' - 1, by omega⟩
    simp [IsPosition] at h
  | cons x xs ih =>
    have hlength := h.le_length
    obtain ⟨n', rfl⟩ : ∃ d, n' = d + 1 := ⟨n' - 1, by omega⟩
    rcases n with _ | n
    · have : (reach fine 0 c (x :: xs)).length ≤ c := length_reach_zero_le c _
      omega
    · simp only [reach, List.length_cons, Nat.add_lt_add_iff_right]
      rw [IsPosition] at h
      by_cases hs : stop x = true
      · rw [if_pos hs] at h ⊢
        rw [if_pos (hfine x hs)]
        exact ih h (by omega)
      · rw [if_neg hs] at h ⊢
        by_cases hx : fine x = true
        · rw [if_pos hx]
          exact ih h (by omega)
        · rw [if_neg hx]
          exact ih h (by omega)

theorem IsPosition.length_reach (h : IsPosition stop n c xs) :
    (reach stop n c xs).length = (reach stop n 0 xs).length + c := by
  induction xs generalizing n c with
  | nil => rcases n with _ | n <;> rcases c with _ | c <;> simp_all [IsPosition]
  | cons x xs ih =>
    rcases n with _ | n
    · rcases c with _ | c
      · simp
      · obtain ⟨hx, h⟩ := h
        have := ih h
        simp only [reach_zero_zero, List.length_nil] at this ⊢
        simp only [reach, hx, Bool.false_eq_true, if_false, List.length_cons]
        omega
    · have := ih h
      simp only [reach, List.length_cons]
      omega

/-- Positions of later lines are reached later. -/
theorem IsPosition.length_lt (h : IsPosition stop n c xs) (h' : IsPosition stop n' c' xs)
    (hn : n < n') : (reach stop n c xs).length < (reach stop n' c' xs).length := by
  have hlength := h'.le_length
  induction xs generalizing n n' c with
  | nil =>
    obtain ⟨n', rfl⟩ : ∃ d, n' = d + 1 := ⟨n' - 1, by omega⟩
    simp [IsPosition] at h'
  | cons x xs ih =>
    obtain ⟨n', rfl⟩ : ∃ d, n' = d + 1 := ⟨n' - 1, by omega⟩
    rcases n with _ | n
    · rcases c with _ | c
      · simp only [reach_zero_zero, List.length_nil]
        omega
      · obtain ⟨hx, h⟩ := h
        rw [IsPosition, hx, if_neg (by simp)] at h'
        simpa [reach, hx] using ih h h' (by omega) h'.le_length
    · simp only [reach, List.length_cons, Nat.add_lt_add_iff_right]
      rw [IsPosition] at h h'
      split_ifs at h h' ⊢
      · exact ih h h' (by omega) h'.le_length
      · exact ih h h' (by omega) h'.le_length

theorem forall_mem_dropLast_cons {P : α → Prop} {x : α} :
    (∀ y ∈ (x :: xs).dropLast, P y) ↔ xs = [] ∨ P x ∧ ∀ y ∈ xs.dropLast, P y := by
  by_cases h : xs = []
  · simp [h]
  · simp [List.dropLast_cons_of_ne_nil h, h]

/-- The finer notion reaches a position over the same elements exactly when none of them but
the last one stops a line of the finer notion only. -/
theorem reach_eq_iff (hfine : ∀ x, stop x = true → fine x = true) (h : IsPosition stop n c xs) :
    reach fine n c xs = reach stop n c xs ↔
      ∀ x ∈ (reach stop n c xs).dropLast, fine x = true → stop x = true := by
  induction xs generalizing n c with
  | nil => simp
  | cons x xs ih =>
    rcases n with _ | n
    · rcases c with _ | c
      · simp
      · obtain ⟨hs, h⟩ := h
        simp only [reach, hs, Bool.false_eq_true, if_false, List.cons.injEq, true_and]
        rw [forall_mem_dropLast_cons, ← ih h]
        by_cases hx : fine x = true
        · constructor
          · intro heq
            exact .inl (by rw [← heq, if_pos hx])
          · rintro (hR | ⟨hall, -⟩)
            · rw [if_pos hx, hR]
            · simpa [hs] using hall hx
        · have hnil : reach stop 0 c xs = [] → reach fine 0 c xs = [] := fun hR =>
            List.prefix_nil.mp (hR ▸ reach_mono hfine (.inr ⟨rfl, le_rfl⟩) xs)
          rw [if_neg hx]
          constructor
          · exact fun heq => .inr ⟨fun hf => absurd hf hx, heq⟩
          · rintro (hR | ⟨-, heq⟩)
            · rw [hR, hnil hR]
            · exact heq
    · rw [IsPosition] at h
      simp only [reach, List.cons.injEq, true_and]
      rw [forall_mem_dropLast_cons]
      by_cases hs : stop x = true
      · rw [if_pos hs] at h ⊢
        rw [if_pos (hfine x hs), ih h]
        constructor
        · exact fun hall => .inr ⟨fun _ => hs, hall⟩
        · rintro (hR | ⟨-, hall⟩)
          · simp [hR]
          · exact hall
      · rw [if_neg hs] at h ⊢
        by_cases hx : fine x = true
        · rw [if_pos hx]
          have hlt := h.reach_lt hfine (Nat.lt_succ_self n)
          constructor
          · intro heq
            rw [heq] at hlt
            exact absurd hlt (lt_irrefl _)
          · rintro (hR | ⟨hall, -⟩)
            · simp [hR] at hlt
            · exact absurd (hall hx) hs
        · rw [if_neg hx, ih h]
          constructor
          · exact fun hall => .inr ⟨fun hf => absurd hf hx, hall⟩
          · rintro (hR | ⟨-, hall⟩)
            · simp [hR]
            · exact hall

/-- What is before the last element before a position. -/
theorem dropLast_reach (n c : ℕ) (xs : List α) :
    (reach stop n c xs).dropLast = xs.take ((reach stop n c xs).length - 1) := by
  have hinitial : reach stop n c xs <+: xs := reach_initial n c xs
  have h := List.prefix_iff_eq_take.mp hinitial
  rw [List.dropLast_eq_take]
  conv_lhs => rw [h]
  rw [List.take_take, min_eq_left (by rw [← h]; omega), ← h]

/-- A later line begins after an element that stops the line before it. -/
theorem stop_of_mem_getLast? (h : IsPosition stop n 0 xs) {x : α}
    (hx : x ∈ (reach stop n 0 xs).getLast?) : stop x = true := by
  induction xs generalizing n with
  | nil => simp at hx
  | cons y xs ih =>
    rcases n with _ | n
    · simp at hx
    · rw [IsPosition] at h
      rw [reach] at hx
      by_cases hR : reach stop (if stop y then n else n + 1) 0 xs = []
      · rw [hR] at hx
        obtain rfl : y = x := by simpa using hx
        by_contra hy
        rw [if_neg hy] at h
        have := h.le_length
        rw [if_neg hy] at hR
        rw [hR, List.length_nil] at this
        omega
      · rw [List.getLast?_cons_of_ne_nil hR] at hx
        exact ih h hx

/-- The finer notion begins a line where the other does exactly when it stops none before. -/
theorem reach_line_eq_iff (hfine : ∀ x, stop x = true → fine x = true)
    (h : IsPosition stop n 0 xs) : reach fine n 0 xs = reach stop n 0 xs ↔
      ∀ x ∈ reach stop n 0 xs, fine x = true → stop x = true := by
  rw [reach_eq_iff hfine h]
  constructor
  · intro hall x hx
    rcases List.eq_nil_or_concat' (reach stop n 0 xs) with hR | ⟨ys, y, hR⟩
    · simp [hR] at hx
    · rw [hR] at hx hall
      rcases List.mem_append.mp hx with hx | hx
      · exact hall x (by simpa using hx)
      · obtain rfl : x = y := by simpa using hx
        exact fun _ => stop_of_mem_getLast? h (by simp [hR])
  · exact fun hall x hx => hall x ((List.dropLast_subset _) hx)

/-- The columns before one of a line are columns of it. -/
theorem IsPosition.of_le (h : IsPosition stop n c xs) (hc : c' ≤ c) : IsPosition stop n c' xs := by
  induction xs generalizing n c c' with
  | nil =>
    rcases n with _ | n <;> rcases c with _ | c <;> simp_all [IsPosition]
  | cons x xs ih =>
    rcases n with _ | n
    · rcases c' with _ | c'
      · simp [IsPosition]
      · obtain ⟨c, rfl⟩ : ∃ d, c = d + 1 := ⟨c - 1, by omega⟩
        exact ⟨h.1, ih h.2 (by omega)⟩
    · rw [IsPosition] at h ⊢
      exact ih h hc

/-- What is before the last element before a position is so for every later position. -/
theorem dropLast_reach_subset (h : (reach stop n c xs).length ≤ (reach stop n' c' xs).length) :
    (reach stop n c xs).dropLast ⊆ (reach stop n' c' xs).dropLast := by
  rw [dropLast_reach, dropLast_reach]
  have htake : xs.take ((reach stop n c xs).length - 1) =
      (xs.take ((reach stop n' c' xs).length - 1)).take ((reach stop n c xs).length - 1) := by
    rw [List.take_take, min_eq_left (by omega)]
  rw [htake]
  exact List.take_subset _ _

/-- What is before a position is before the last element of every later one. -/
theorem reach_subset_dropLast (h : (reach stop n c xs).length < (reach stop n' c' xs).length) :
    reach stop n c xs ⊆ (reach stop n' c' xs).dropLast := by
  rw [dropLast_reach]
  have htake : reach stop n c xs =
      (xs.take ((reach stop n' c' xs).length - 1)).take (reach stop n c xs).length := by
    rw [List.take_take, min_eq_left (by omega), ← List.prefix_iff_eq_take]
    exact reach_initial n c xs
  rw [htake]
  exact List.take_subset _ _

end TextLines

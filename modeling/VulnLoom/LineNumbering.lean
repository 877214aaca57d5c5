import Mathlib.Data.List.Basic

/-!
# Line numberings

A class of characters that end lines numbers the lines of a text; each line is known by its place,
the number of the characters before it. Of two classes, the larger one numbers at least as many
lines (`exists_getElem?_of_le`). A window shows the same lines under both if and only if no
character that ends lines of the larger class only stands in a line up to its end
(`window_eq_iff`) : after such a character the numbers of the larger class are behind
(`exists_getElem?_behind`).
-/

namespace LineNumbering

/-- A line, after the number of the characters before it. -/
abbrev PlacedLine := ℕ × List Char

/-- The lines of a text that some characters end, after the characters `line` of the line that
begins at `place`; a return and a newline end one line. -/
def placedFrom (isEnd : Char → Bool) : ℕ → List Char → List Char → List PlacedLine
  | place, line, [] => if line = [] then [] else [(place, line)]
  | place, line, '\r' :: '\n' :: s =>
    (place, line) :: placedFrom isEnd (place + line.length + 2) [] s
  | place, line, c :: s =>
    if isEnd c then (place, line) :: placedFrom isEnd (place + line.length + 1) [] s
    else placedFrom isEnd place (line ++ [c]) s

attribute [elab_as_elim] placedFrom.induct_unfolding

/-- The lines from the number `start` to the number `stop`. -/
def window {α : Type*} (lines : List α) (start stop : ℕ) : List α :=
  (lines.take stop).drop (start - 1)

variable {isEnd : Char → Bool}
variable {place : ℕ} {line s : List Char}

theorem placedFrom_ne_nil (h : line ++ s ≠ []) : placedFrom isEnd place line s ≠ [] := by
  fun_induction placedFrom isEnd place line s with
  | case1 => simp at h
  | case2 => exact List.cons_ne_nil _ _
  | case3 => exact List.cons_ne_nil _ _
  | case4 => exact List.cons_ne_nil _ _
  | case5 place line c s _ _ ih => exact ih (by simp)

/-- No line begins before the one that the scan is in. -/
theorem place_le : ∀ l ∈ placedFrom isEnd place line s, place ≤ l.1 := by
  fun_induction placedFrom isEnd place line s with
  | case1 => simp
  | case2 => simp
  | case3 place line s ih =>
    refine List.forall_mem_cons.2 ⟨Nat.le_refl _, fun l hl => ?_⟩
    have := ih l hl
    omega
  | case4 place line c s _ _ ih =>
    refine List.forall_mem_cons.2 ⟨Nat.le_refl _, fun l hl => ?_⟩
    have := ih l hl
    omega
  | case5 place line c s _ _ ih => exact ih

/-- Every later line begins after the end of the one that the scan is in. -/
theorem place_lt_of_mem_tail :
    ∀ l ∈ (placedFrom isEnd place line s).tail, place + line.length < l.1 := by
  fun_induction placedFrom isEnd place line s with
  | case1 => simp
  | case2 => simp
  | case3 place line s ih =>
    intro l hl
    have := place_le l hl
    omega
  | case4 place line c s _ _ ih =>
    intro l hl
    have := place_le l hl
    omega
  | case5 place line c s _ _ ih =>
    intro l hl
    have := ih l hl
    rw [List.length_append, List.length_singleton] at this
    omega

/-- The first line has all that the scan has read of it. -/
theorem exists_head (h : line ≠ []) :
    ∃ t, (placedFrom isEnd place line s).head? = some (place, line ++ t) := by
  fun_induction placedFrom isEnd place line s with
  | case1 => exact absurd rfl h
  | case2 => exact ⟨[], by simp⟩
  | case3 => exact ⟨[], by simp⟩
  | case4 => exact ⟨[], by simp⟩
  | case5 place line c s _ _ ih =>
    obtain ⟨t, ht⟩ := ih (by simp)
    exact ⟨c :: t, by rw [ht]; simp⟩

/-- No character of a line ends one. -/
theorem notMem_line (h : ∀ c ∈ line, isEnd c = false) :
    ∀ l ∈ placedFrom isEnd place line s, ∀ c ∈ l.2, isEnd c = false := by
  fun_induction placedFrom isEnd place line s with
  | case1 => simp
  | case2 place line hne => simpa using h
  | case3 place line s ih => exact List.forall_mem_cons.2 ⟨h, ih (by simp)⟩
  | case4 place line c s _ _ ih => exact List.forall_mem_cons.2 ⟨h, ih (by simp)⟩
  | case5 place line c s _ hend ih =>
    refine ih (List.forall_mem_append.2 ⟨h, ?_⟩)
    simpa using hend

/-! ## Two classes of line ends -/

section

variable {fine coarse : Char → Bool} (hsub : ∀ c, coarse c = true → fine c = true)

include hsub

variable {s : List Char}

/-- From the same character on, a line of the larger class begins before the lines of greater
numbers of the smaller one. -/
theorem exists_getElem?_lt {lf lc : List Char} {pf pc i j : ℕ} {l : PlacedLine}
    (hplace : pf + lf.length = pc + lc.length) (hij : i < j)
    (hl : (placedFrom coarse pc lc s)[j]? = some l) :
    ∃ f, (placedFrom fine pf lf s)[i]? = some f ∧ f.1 < l.1 := by
  fun_induction placedFrom coarse pc lc s generalizing pf lf i j with
  | case1 => simp at hl
  | case2 =>
    rw [List.getElem?_eq_none (by rw [List.length_singleton]; omega)] at hl
    cases hl
  | case3 pc lc s ih =>
    rw [placedFrom]
    obtain ⟨j, rfl⟩ := Nat.exists_eq_add_one_of_ne_zero (Nat.ne_zero_of_lt hij)
    rw [List.getElem?_cons_succ] at hl
    cases i with
    | zero =>
      have := place_le l (List.mem_of_getElem? hl)
      exact ⟨_, rfl, by dsimp only; omega⟩
    | succ i => exact ih (by rw [hplace]) (by omega) hl
  | case4 pc lc c s hne hend ih =>
    rw [placedFrom.eq_3 _ _ _ _ _ hne, if_pos (hsub c hend)]
    obtain ⟨j, rfl⟩ := Nat.exists_eq_add_one_of_ne_zero (Nat.ne_zero_of_lt hij)
    rw [List.getElem?_cons_succ] at hl
    cases i with
    | zero =>
      have := place_le l (List.mem_of_getElem? hl)
      exact ⟨_, rfl, by dsimp only; omega⟩
    | succ i => exact ih (by rw [hplace]) (by omega) hl
  | case5 pc lc c s hne hend ih =>
    rw [placedFrom.eq_3 _ _ _ _ _ hne]
    split_ifs with hfine
    · -- a line of the larger class only
      cases i with
      | zero =>
        obtain ⟨j, rfl⟩ := Nat.exists_eq_add_one_of_ne_zero (Nat.ne_zero_of_lt hij)
        rw [← List.getElem?_tail] at hl
        have := place_lt_of_mem_tail l (List.mem_of_getElem? hl)
        rw [List.length_append, List.length_singleton] at this
        exact ⟨_, rfl, by dsimp only; omega⟩
      | succ i =>
        refine ih ?_ (by omega) hl
        rw [List.length_append, List.length_singleton, List.length_nil]
        omega
    · refine ih ?_ hij hl
      rw [List.length_append, List.length_append]
      omega

theorem length_le_succ {lf lc : List Char} {pf pc : ℕ} (hplace : pf + lf.length = pc + lc.length) :
    (placedFrom coarse pc lc s).length ≤ (placedFrom fine pf lf s).length + 1 := by
  by_contra hlong
  have hindex : (placedFrom fine pf lf s).length + 1 < (placedFrom coarse pc lc s).length := by
    omega
  obtain ⟨f, hf, -⟩ := exists_getElem?_lt hsub hplace (Nat.lt_succ_self _)
    (List.getElem?_eq_getElem hindex)
  rw [List.getElem?_eq_none (Nat.le_refl _)] at hf
  cases hf

variable {place : ℕ} {line : List Char}

/-- The larger class numbers at least as many lines. -/
theorem length_le :
    (placedFrom coarse place line s).length ≤ (placedFrom fine place line s).length := by
  fun_induction placedFrom coarse place line s with
  | case1 => exact Nat.zero_le _
  | case2 place line hne =>
    simp only [placedFrom, if_neg hne, Nat.le_refl]
  | case3 place line s ih =>
    rw [placedFrom, List.length_cons, List.length_cons]
    omega
  | case4 place line c s hne hend ih =>
    rw [placedFrom.eq_3 _ _ _ _ _ hne, if_pos (hsub c hend), List.length_cons, List.length_cons]
    omega
  | case5 place line c s hne hend ih =>
    rw [placedFrom.eq_3 _ _ _ _ _ hne]
    split_ifs with hfine
    · rw [List.length_cons]
      exact length_le_succ hsub (by
        rw [List.length_append, List.length_singleton, List.length_nil]
        omega)
    · exact ih

/-- After a line with a character that ends lines of the larger class, a line of the larger class
begins before the one of its number. -/
theorem exists_getElem?_behind {k j : ℕ} {m l : PlacedLine} (hclean : ∀ c ∈ line, fine c = false)
    (hkj : k < j) (hm : (placedFrom coarse place line s)[k]? = some m)
    (hc : ∃ c ∈ m.2, fine c = true) (hl : (placedFrom coarse place line s)[j]? = some l) :
    ∃ f, (placedFrom fine place line s)[j]? = some f ∧ f.1 < l.1 := by
  fun_induction placedFrom coarse place line s generalizing k j with
  | case1 => simp at hl
  | case2 =>
    rw [List.getElem?_eq_none (by rw [List.length_singleton]; omega)] at hl
    cases hl
  | case3 place line s ih =>
    rw [placedFrom]
    obtain ⟨j, rfl⟩ := Nat.exists_eq_add_one_of_ne_zero (Nat.ne_zero_of_lt hkj)
    cases k with
    | zero =>
      obtain rfl := Option.some.inj hm
      obtain ⟨c, hc, hfine⟩ := hc
      rw [hclean c hc] at hfine
      cases hfine
    | succ k => exact ih (by simp) (by omega) hm hl
  | case4 place line c s hne hend ih =>
    rw [placedFrom.eq_3 _ _ _ _ _ hne, if_pos (hsub c hend)]
    obtain ⟨j, rfl⟩ := Nat.exists_eq_add_one_of_ne_zero (Nat.ne_zero_of_lt hkj)
    cases k with
    | zero =>
      obtain rfl := Option.some.inj hm
      obtain ⟨c, hc, hfine⟩ := hc
      rw [hclean c hc] at hfine
      cases hfine
    | succ k => exact ih (by simp) (by omega) hm hl
  | case5 place line c s hne hend ih =>
    rw [placedFrom.eq_3 _ _ _ _ _ hne]
    split_ifs with hfine
    · obtain ⟨j, rfl⟩ := Nat.exists_eq_add_one_of_ne_zero (Nat.ne_zero_of_lt hkj)
      rw [List.getElem?_cons_succ]
      refine exists_getElem?_lt hsub ?_ (Nat.lt_succ_self j) hl
      rw [List.length_append, List.length_singleton, List.length_nil]
      omega
    · exact ih (List.forall_mem_append.2 ⟨hclean, by simpa using hfine⟩) hkj hm hl

/-- Up to a character that ends lines of the larger class only, the lines are the same. -/
theorem take_eq {n : ℕ} (hclean : ∀ c ∈ line, fine c = false)
    (h : ∀ l ∈ (placedFrom coarse place line s).take n, ∀ c ∈ l.2, fine c = false) :
    (placedFrom fine place line s).take n = (placedFrom coarse place line s).take n := by
  fun_induction placedFrom coarse place line s generalizing n with
  | case1 => rw [placedFrom, if_pos rfl]
  | case2 place line hne => rw [placedFrom, if_neg hne]
  | case3 place line s ih =>
    rw [placedFrom]
    cases n with
    | zero => rfl
    | succ n =>
      rw [List.take_succ_cons] at h
      rw [List.take_succ_cons, List.take_succ_cons,
        ih (by simp) (List.forall_mem_cons.1 h).2]
  | case4 place line c s hne hend ih =>
    rw [placedFrom.eq_3 _ _ _ _ _ hne, if_pos (hsub c hend)]
    cases n with
    | zero => rfl
    | succ n =>
      rw [List.take_succ_cons] at h
      rw [List.take_succ_cons, List.take_succ_cons,
        ih (by simp) (List.forall_mem_cons.1 h).2]
  | case5 place line c s hne hend ih =>
    rw [placedFrom.eq_3 _ _ _ _ _ hne]
    split_ifs with hfine
    · cases n with
      | zero => rfl
      | succ n =>
        -- the line of the smaller class goes on after the character
        obtain ⟨t, ht⟩ : ∃ t, (placedFrom coarse place (line ++ [c]) s).head? =
            some (place, (line ++ [c]) ++ t) := exists_head (by simp)
        obtain ⟨rest, hrest⟩ := List.head?_eq_some_iff.1 ht
        rw [hrest, List.take_succ_cons] at h
        have hfalse := (List.forall_mem_cons.1 h).1 c (by simp)
        rw [hfine] at hfalse
        cases hfalse
    · exact ih (List.forall_mem_append.2 ⟨hclean, by simpa using hfine⟩) h

omit hsub in
theorem getElem?_window {α : Type*} {lines : List α} {start stop i : ℕ}
    (hi : start - 1 + i < stop) : (window lines start stop)[i]? = lines[start - 1 + i]? := by
  rw [window, List.getElem?_drop, List.getElem?_take_of_lt hi]

/-- A window shows the same lines under both classes if and only if no character that ends lines
of the larger class only stands in a line up to its end. -/
theorem window_eq_iff {start stop : ℕ} (hstart : 1 ≤ start) (hstop : start ≤ stop)
    (hlength : start ≤ (placedFrom coarse 0 [] s).length) :
    window (placedFrom fine 0 [] s) start stop = window (placedFrom coarse 0 [] s) start stop ↔
      ∀ l ∈ (placedFrom coarse 0 [] s).take stop, ∀ c ∈ l.2, fine c = false := by
  constructor
  · intro h
    by_contra hforeign
    push Not at hforeign
    obtain ⟨m, hm, c, hc, hfine⟩ := hforeign
    rw [Bool.ne_false_iff] at hfine
    obtain ⟨k, hk⟩ := List.getElem?_of_mem hm
    have hkstop : k < stop := by
      by_contra hle
      rw [List.getElem?_eq_none (by rw [List.length_take]; omega)] at hk
      cases hk
    rw [List.getElem?_take_of_lt hkstop] at hk
    rcases Nat.lt_or_ge k (start - 1) with hlt | hge
    · -- the window begins behind
      have hl := List.getElem?_eq_getElem (l := placedFrom coarse 0 [] s)
        (by omega : start - 1 < _)
      obtain ⟨f, hf, hlt⟩ := exists_getElem?_behind hsub (by simp) hlt hk ⟨c, hc, hfine⟩ hl
      have hfirst := congrArg (fun lines => lines[0]?) h
      rw [getElem?_window (by omega), getElem?_window (by omega), Nat.add_zero, hf, hl] at hfirst
      rw [Option.some.inj hfirst] at hlt
      exact absurd hlt (Nat.lt_irrefl _)
    · have hline := congrArg (fun lines => lines[k - (start - 1)]?) h
      rw [getElem?_window (by omega), getElem?_window (by omega),
        show start - 1 + (k - (start - 1)) = k by omega, hk] at hline
      have hclean := notMem_line (by simp) m (List.mem_of_getElem? hline) c hc
      rw [hfine] at hclean
      cases hclean
  · intro h
    rw [window, take_eq hsub (by simp) h, window]

end

end LineNumbering

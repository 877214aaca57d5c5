import Mathlib.Data.List.Forall2
import Mathlib.Data.Rat.Defs

/-!
# Timed loops

A loop that reads a clock before it takes an item, and raises where the time since the start is up.
The clock gives its readings in turn. `each_eq_ok_iff` : the loop returns what it returns without a
clock, where it is in time for each item.
-/

namespace TimedLoop

/-- A limit on the time since the first reading of a clock, after some readings. -/
structure Deadline where
  seconds : ℚ
  clock : ℕ → ℚ
  readings : ℕ

namespace Deadline

variable (d : Deadline)

/-- The clock is read once when a deadline is made. -/
def start (seconds : ℚ) (clock : ℕ → ℚ) : Deadline :=
  ⟨seconds, clock, 1⟩

/-- The time is up at the next reading. -/
def Passed : Prop :=
  d.seconds ≤ d.clock d.readings - d.clock 0

instance : Decidable d.Passed :=
  inferInstanceAs (Decidable (_ ≤ _))

/-- After some more readings. -/
def after (n : ℕ) : Deadline :=
  { d with readings := d.readings + n }

@[simp] theorem after_zero : d.after 0 = d :=
  rfl

theorem after_after (m n : ℕ) : (d.after m).after n = d.after (m + n) := by
  simp [after, Nat.add_assoc]

/-- The time is not up at some more readings. -/
def InTime (n : ℕ) : Prop :=
  ∀ k < n, ¬(d.after k).Passed

@[simp] theorem inTime_zero : d.InTime 0 := by
  intro k hk
  omega

theorem inTime_add {m n : ℕ} : d.InTime (m + n) ↔ d.InTime m ∧ (d.after m).InTime n := by
  constructor
  · intro h
    refine ⟨fun k hk => h k (by omega), fun k hk => ?_⟩
    rw [after_after]
    exact h (m + k) (by omega)
  · rintro ⟨hm, hn⟩ k hk
    by_cases hkm : k < m
    · exact hm k hkm
    · have := hn (k - m) (by omega)
      rwa [after_after, show m + (k - m) = k by omega] at this

theorem inTime_one : d.InTime 1 ↔ ¬d.Passed := by
  constructor
  · intro h
    exact h 0 Nat.one_pos
  · intro h k hk
    rwa [Nat.lt_one_iff.1 hk]

/-- A clock that stands still is always in time. -/
theorem inTime_of_still (hseconds : 0 < d.seconds) (hclock : ∀ n, d.clock n = d.clock 0) (n : ℕ) :
    d.InTime n := by
  intro k _ hpassed
  have hle : d.seconds ≤ d.clock (d.readings + k) - d.clock 0 := hpassed
  rw [hclock (d.readings + k), Rat.sub_self] at hle
  exact Rat.not_le.2 hseconds hle

variable {ε : Type*}

/-- Read the clock. -/
def check (late : ε) : Except ε Deadline :=
  if d.Passed then .error late else .ok (d.after 1)

variable {d}

theorem check_eq_ok_iff {late : ε} {d' : Deadline} :
    d.check late = .ok d' ↔ d.InTime 1 ∧ d' = d.after 1 := by
  unfold check
  rw [inTime_one]
  split_ifs with h
  · simp [h]
  · simp [h, eq_comm]

theorem check_eq_error {late e : ε} (h : d.check late = .error e) :
    e = late ∧ ¬d.InTime 1 := by
  unfold check at h
  rw [inTime_one, not_not]
  split_ifs at h with hpassed
  cases h
  exact ⟨rfl, hpassed⟩

end Deadline

variable {ε σ ι : Type*} (late : ε) (step : σ → ι → Except ε σ)

/-- A loop that reads the clock before it takes an item. -/
def each : Deadline → σ → List ι → Except ε (σ × Deadline)
  | d, s, [] => .ok (s, d)
  | d, s, i :: is =>
    match d.check late with
    | .error e => .error e
    | .ok d =>
      match step s i with
      | .error e => .error e
      | .ok s => each d s is

/-- The loop without its clock. -/
def plain : σ → List ι → Except ε σ
  | s, [] => .ok s
  | s, i :: is =>
    match step s i with
    | .error e => .error e
    | .ok s => plain s is

variable {late step}

theorem each_eq_ok_iff : ∀ {is : List ι} {d d' : Deadline} {s s' : σ},
    each late step d s is = .ok (s', d') ↔
      plain step s is = .ok s' ∧ d.InTime is.length ∧ d' = d.after is.length
  | [], d, d', s, s' => by
    simp [each, plain, eq_comm]
  | i :: is, d, d', s, s' => by
    rw [each, plain, List.length_cons, Nat.add_comm is.length 1, d.inTime_add, ← d.after_after]
    cases hcheck : d.check late with
    | error e =>
      have hlate : ¬d.InTime 1 := fun h => by
        rw [Deadline.check_eq_ok_iff.2 ⟨h, rfl⟩] at hcheck
        cases hcheck
      simp [hlate]
    | ok d₁ =>
      obtain ⟨hin, rfl⟩ := Deadline.check_eq_ok_iff.1 hcheck
      cases step s i with
      | error e => simp
      | ok s₁ => simp [each_eq_ok_iff, hin]

/-- A timed loop raises that it is late, or what the loop without the clock raises. -/
theorem each_eq_error : ∀ {is : List ι} {d : Deadline} {s : σ} {e : ε},
    each late step d s is = .error e →
      (e = late ∧ ¬d.InTime is.length) ∨ plain step s is = .error e
  | [], _, _, _, h => by cases h
  | i :: is, d, s, e, h => by
    rw [each] at h
    rw [plain, List.length_cons, Nat.add_comm is.length 1, d.inTime_add]
    cases hcheck : d.check late with
    | error e' =>
      rw [hcheck] at h
      cases h
      obtain ⟨rfl, hlate⟩ := Deadline.check_eq_error hcheck
      exact .inl ⟨rfl, fun hin => hlate hin.1⟩
    | ok d₁ =>
      obtain ⟨-, rfl⟩ := Deadline.check_eq_ok_iff.1 hcheck
      rw [hcheck] at h
      cases hstep : step s i with
      | error e' =>
        simp only [hstep] at h
        cases h
        exact .inr rfl
      | ok s₁ =>
        simp only [hstep] at h
        rcases each_eq_error h with ⟨rfl, hlate⟩ | hplain
        · exact .inl ⟨rfl, fun hin => hlate hin.2⟩
        · exact .inr hplain

/-! ## Folds -/

/-- A step that does not raise is folded. -/
theorem plain_ok {f : σ → ι → σ} : ∀ (is : List ι) (s : σ),
    plain (fun s i => (.ok (f s i) : Except ε σ)) s is = .ok (is.foldl f s)
  | [], _ => rfl
  | i :: is, s => by
    rw [plain, List.foldl_cons]
    exact plain_ok is (f s i)

/-! ## Results kept in a list -/

variable {ω : Type*} (f : ι → Except ε ω)

/-- A step that keeps what a call returns. -/
def keep (out : List ω) (i : ι) : Except ε (List ω) :=
  match f i with
  | .error e => .error e
  | .ok o => .ok (out ++ [o])

variable {f}

/-- The calls return one by one. -/
theorem plain_keep_eq_ok_iff : ∀ {is : List ι} {out out' : List ω},
    plain (keep f) out is = .ok out' ↔
      ∃ os, List.Forall₂ (fun i o => f i = .ok o) is os ∧ out' = out ++ os
  | [], out, out' => by
    simp [plain, eq_comm]
  | i :: is, out, out' => by
    rw [plain, keep]
    cases hcall : f i with
    | error e =>
      simp [List.forall₂_cons_left_iff, hcall]
    | ok o =>
      simp only [plain_keep_eq_ok_iff, List.forall₂_cons_left_iff, hcall]
      constructor
      · rintro ⟨os, hos, rfl⟩
        exact ⟨o :: os, ⟨o, os, rfl, hos, rfl⟩, by simp⟩
      · rintro ⟨_, ⟨_, os, heq, hos, rfl⟩, rfl⟩
        cases heq
        exact ⟨os, hos, by simp⟩

theorem plain_keep_eq_error : ∀ {is : List ι} {out : List ω} {e : ε},
    plain (keep f) out is = .error e → ∃ i ∈ is, f i = .error e
  | [], _, _, h => by cases h
  | i :: is, out, e, h => by
    rw [plain, keep] at h
    cases hcall : f i with
    | error e' =>
      simp only [hcall] at h
      cases h
      exact ⟨i, List.mem_cons_self, hcall⟩
    | ok o =>
      simp only [hcall] at h
      obtain ⟨j, hj, he⟩ := plain_keep_eq_error h
      exact ⟨j, List.mem_cons_of_mem _ hj, he⟩

end TimedLoop

import Mathlib.Data.List.Basic

/-!
# Loops with a budget

A loop that emits events : `body` runs one iteration, which goes on in a new state or
leaves the loop, and at most `n` iterations run. `Reaches` is the path of a loop, with
the events emitted along it. A loop is studied on its path : an invariant is kept along it
(`Reaches.invariant`), the loop ends at the end of it (`exists_reaches`), and what it does
from any state of it is what it does in all (`loop_of_reaches`).
-/

namespace BoundedLoop

variable {σ ω ρ : Type*}

/-- How an iteration ends. -/
inductive Next (σ ρ : Type*)
  | go (s : σ)
  | leave (r : ρ)

variable (body : σ → List ω × Next σ ρ) (spent : σ → ρ)

/-- The events and the result of at most `n` iterations. -/
def loop : ℕ → σ → List ω × ρ
  | 0, s => ([], spent s)
  | n + 1, s =>
    match body s with
    | (es, .go s') => (es ++ (loop n s').1, (loop n s').2)
    | (es, .leave r) => (es, r)

/-- From `s` with `n` iterations left the loop comes to `t` with `m` left and has emitted
`es`. -/
inductive Reaches : ℕ → σ → List ω → ℕ → σ → Prop
  | refl (n : ℕ) (s : σ) : Reaches n s [] n s
  | go {n m : ℕ} {s s' t : σ} {es fs : List ω} (h : body s = (es, .go s'))
      (hrest : Reaches n s' fs m t) : Reaches (n + 1) s (es ++ fs) m t

variable {body spent}

theorem loop_leave {n : ℕ} {s : σ} {es : List ω} {r : ρ} (h : body s = (es, .leave r)) :
    loop body spent (n + 1) s = (es, r) := by
  simp only [loop, h]

theorem loop_of_reaches {n m : ℕ} {s t : σ} {es : List ω} (h : Reaches body n s es m t) :
    loop body spent n s = (es ++ (loop body spent m t).1, (loop body spent m t).2) := by
  induction h with
  | refl n s => rfl
  | go h _ ih => simp only [loop, h, ih, List.append_assoc]

/-- The same path with more iterations to spare. -/
theorem Reaches.add {n m : ℕ} {s t : σ} {es : List ω} (h : Reaches body n s es m t) (k : ℕ) :
    Reaches body (n + k) s es (m + k) t := by
  induction h with
  | refl n s => exact .refl _ _
  | @go n m s s' t es fs h _ ih =>
    rw [Nat.add_right_comm]
    exact .go h ih

/-- What every iteration keeps, of the events and the state, holds along the path. -/
theorem Reaches.invariant {Inv : List ω → σ → Prop}
    (hbody : ∀ pre s es s', Inv pre s → body s = (es, .go s') → Inv (pre ++ es) s')
    {n m : ℕ} {s t : σ} {es : List ω} (h : Reaches body n s es m t) :
    ∀ {pre}, Inv pre s → Inv (pre ++ es) t := by
  induction h with
  | refl n s =>
    intro pre hpre
    simpa using hpre
  | go h _ ih =>
    intro pre hpre
    rw [← List.append_assoc]
    exact ih (hbody _ _ _ _ hpre h)

/-- What every iteration keeps of the state holds along the path. -/
theorem Reaches.keeps {Inv : σ → Prop}
    (hbody : ∀ s es s', Inv s → body s = (es, .go s') → Inv s') {n m : ℕ} {s t : σ}
    {es : List ω} (h : Reaches body n s es m t) (hs : Inv s) : Inv t := by
  induction h with
  | refl n s => exact hs
  | go h _ ih => exact ih (hbody _ _ _ hs h)

/-- Where every iteration that goes on emits one event, the events count the iterations. -/
theorem Reaches.length_add (hone : ∀ s es s', body s = (es, .go s') → es.length = 1)
    {n m : ℕ} {s t : σ} {es : List ω} (h : Reaches body n s es m t) : es.length + m = n := by
  induction h with
  | refl n s => simp
  | go h _ ih =>
    have := hone _ _ _ h
    rw [List.length_append]
    omega

variable (body) in
/-- The end of the path : no iteration is left, or the next one leaves the loop. -/
theorem exists_reaches : ∀ (n : ℕ) (s : σ), ∃ es m t, Reaches body n s es m t ∧
    (m = 0 ∨ ∃ k fs r, m = k + 1 ∧ body t = (fs, .leave r))
  | 0, s => ⟨[], 0, s, .refl 0 s, Or.inl rfl⟩
  | n + 1, s => by
    cases h : body s with
    | mk es next =>
      cases next with
      | go s' =>
        obtain ⟨fs, m, t, hreach, hend⟩ := exists_reaches n s'
        exact ⟨es ++ fs, m, t, .go h hreach, hend⟩
      | leave r => exact ⟨[], n + 1, s, .refl _ _, Or.inr ⟨n, es, r, rfl, h⟩⟩

/-- One more iteration at the end of a path. -/
theorem Reaches.concat {n m : ℕ} {s t t' : σ} {es fs : List ω} (h : Reaches body n s es m t)
    (hgo : body t = (fs, .go t')) : Reaches body (n + 1) s (es ++ fs) m t' := by
  induction h with
  | refl n s =>
    have h := Reaches.go hgo (Reaches.refl n t')
    rwa [List.append_nil] at h
  | go h _ ih =>
    rw [List.append_assoc]
    exact .go h (ih hgo)

/-- A measure that every iteration that goes on decreases bounds the length of the path. -/
theorem Reaches.measure_le {Inv : σ → Prop} {μ : σ → ℕ}
    (hbody : ∀ s es s', Inv s → body s = (es, .go s') → Inv s' ∧ μ s' < μ s)
    {n m : ℕ} {s t : σ} {es : List ω} (h : Reaches body n s es m t) (hs : Inv s) :
    μ t + n ≤ μ s + m := by
  induction h with
  | refl n s => exact Nat.le_refl _
  | go h _ ih =>
    obtain ⟨hs', hlt⟩ := hbody _ _ _ hs h
    have := ih hs'
    omega

variable (spent) in
/-- A loop that goes on from every state it comes to only ends by running out. -/
theorem loop_spent {Inv : σ → Prop}
    (hbody : ∀ s, Inv s → ∃ es s', body s = (es, .go s') ∧ Inv s') :
    ∀ (n : ℕ) {s : σ}, Inv s → ∃ t, (loop body spent n s).2 = spent t
  | 0, s, _ => ⟨s, rfl⟩
  | n + 1, s, hs => by
    obtain ⟨es, s', hgo, hs'⟩ := hbody s hs
    obtain ⟨t, ht⟩ := loop_spent hbody n hs'
    exact ⟨t, by simp only [loop, hgo, ht]⟩

/-- With more iterations than the measure of its start, the loop comes to one that leaves. -/
theorem exists_leave {Inv : σ → Prop} {μ : σ → ℕ}
    (hbody : ∀ s es s', Inv s → body s = (es, .go s') → Inv s' ∧ μ s' < μ s)
    {n : ℕ} {s : σ} (hs : Inv s) (hn : μ s < n) :
    ∃ es m t fs r, Reaches body n s es (m + 1) t ∧ body t = (fs, .leave r) := by
  obtain ⟨es, m, t, hreach, hend⟩ := exists_reaches body n s
  have hmeasure := hreach.measure_le hbody hs
  rcases hend with rfl | ⟨k, fs, r, rfl, hleave⟩
  · omega
  · exact ⟨es, k, t, fs, r, hreach, hleave⟩

end BoundedLoop

import Mathlib.Data.List.Infix

/-!
# Runs of transition systems

A store is changed by transactions : a call returns the new state, or raises and leaves
the state as it was (`settle`). `run` folds a list of calls. Every invariant proof is
`run_invariant` (a step keeps it, so a run does).

A transaction whose writes matter while it runs says what it wrote when it raises too
(`transaction`).

A property that a step keeps only under a condition on the call is handled by
`always_iff_along` : it holds in every state of the run exactly when every call of the
run meets the condition (`Along`).
-/

namespace Transition

variable {σ ι ε : Type*}

/-- The state after a call of `f` : a call that raises changes nothing. -/
def settle (f : σ → ι → Except ε σ) (s : σ) (i : ι) : σ :=
  match f s i with
  | .ok s' => s'
  | .error _ => s

variable {f : σ → ι → Except ε σ} {s s' : σ} {i : ι}

theorem settle_ok (h : f s i = .ok s') : settle f s i = s' := by
  simp [settle, h]

theorem settle_error {e : ε} (h : f s i = .error e) : settle f s i = s := by
  simp [settle, h]

variable {P : σ → Prop}

/-- What holds of every state a call returns, and of the state it was called in, holds
after the call. -/
theorem settle_induction (hs : P s) (hok : ∀ s', f s i = .ok s' → P s') : P (settle f s i) := by
  cases h : f s i with
  | ok s' =>
    rw [settle_ok h]
    exact hok s' h
  | error e =>
    rw [settle_error h]
    exact hs

/-- A transaction that writes as it goes: what it wrote is kept when it returns, and undone when
it raises. -/
def transaction {α : Type*} (body : σ → σ × Except ε α) (s : σ) : σ × Except ε α :=
  match body s with
  | (s', .ok a) => (s', .ok a)
  | (_, .error e) => (s, .error e)

variable {α : Type*}

theorem transaction_eq_ok {body : σ → σ × Except ε α} {a : α} :
    transaction body s = (s', .ok a) ↔ body s = (s', .ok a) := by
  rw [transaction]
  rcases body s with ⟨t, e | b⟩
  · simp
  · rfl

/-- A transaction that raises changes nothing. -/
theorem transaction_error {body : σ → σ × Except ε α} {e : ε}
    (h : transaction body s = (s', .error e)) : s' = s := by
  rw [transaction] at h
  rcases hbody : body s with ⟨t, e' | b⟩
  · rw [hbody] at h
    exact (Prod.mk.inj h).1.symm
  · rw [hbody] at h
    cases (Prod.mk.inj h).2

/-- A part of a transaction that writes nothing, and the rest of it. -/
def reading {α β : Type*} (s : σ) (x : Except ε β) (rest : β → σ × Except ε α) :
    σ × Except ε α :=
  match x with
  | .ok b => rest b
  | .error e => (s, .error e)

@[simp] theorem reading_eq_ok {β : Type*} {x : Except ε β} {rest : β → σ × Except ε α} {a : α} :
    reading s x rest = (s', .ok a) ↔ ∃ b, x = .ok b ∧ rest b = (s', .ok a) := by
  cases x <;> simp [reading]

theorem reading_eq_error {β : Type*} {x : Except ε β} {rest : β → σ × Except ε α} {e : ε} :
    reading s x rest = (s', .error e) ↔
      (s' = s ∧ x = .error e) ∨ ∃ b, x = .ok b ∧ rest b = (s', .error e) := by
  cases x <;> simp [reading, eq_comm]

variable (step : σ → ι → σ)

/-- The state after the calls `is`, in order. -/
def run (s : σ) (is : List ι) : σ :=
  is.foldl step s

@[simp] theorem run_nil (s : σ) : run step s [] = s :=
  rfl

@[simp] theorem run_cons (s : σ) (i : ι) (is : List ι) :
    run step s (i :: is) = run step (step s i) is :=
  rfl

theorem run_append (s : σ) (is js : List ι) :
    run step s (is ++ js) = run step (run step s is) js :=
  List.foldl_append

/-- A property that every step keeps is kept by every run. -/
theorem run_invariant {Inv : σ → Prop} (hstep : ∀ s i, Inv s → Inv (step s i)) :
    ∀ (is : List ι) {s : σ}, Inv s → Inv (run step s is)
  | [], _, hs => hs
  | i :: is, s, hs => run_invariant hstep is (hstep s i hs)

/-- A reflexive and transitive relation that every step from an invariant state respects
relates the ends of every run. -/
theorem run_related {Inv : σ → Prop} {R : σ → σ → Prop} (hrefl : ∀ s, R s s)
    (htrans : ∀ {a b c}, R a b → R b c → R a c) (hinv : ∀ s i, Inv s → Inv (step s i))
    (hstep : ∀ s i, Inv s → R s (step s i)) :
    ∀ (is : List ι) {s : σ}, Inv s → R s (run step s is)
  | [], s, _ => hrefl s
  | i :: is, s, hs =>
    htrans (hstep s i hs) (run_related hrefl htrans hinv hstep is (hinv s i hs))

/-- A run that leaves a property leaves it at one of its steps. -/
theorem exists_leaving_step {P : σ → Prop} : ∀ (is : List ι) {s : σ}, P s → ¬P (run step s is) →
    ∃ pre i post, is = pre ++ i :: post ∧ P (run step s pre) ∧ ¬P (step (run step s pre) i)
  | [], _, hs, h => absurd hs h
  | i :: is, s, hs, h => by
    by_cases hi : P (step s i)
    · obtain ⟨pre, j, post, rfl, hpre, hj⟩ := exists_leaving_step is hi h
      exact ⟨i :: pre, j, post, rfl, hpre, hj⟩
    · exact ⟨[], i, is, rfl, hs, hi⟩

/-- Every call of the run meets `C` in the state it is made in. -/
def Along (C : σ → ι → Prop) : σ → List ι → Prop
  | _, [] => True
  | s, i :: is => C s i ∧ Along C (step s i) is

instance decidableAlong {C : σ → ι → Prop} [h : ∀ s i, Decidable (C s i)] :
    ∀ (s : σ) (is : List ι), Decidable (Along step C s is)
  | _, [] => isTrue trivial
  | s, i :: is => @instDecidableAnd _ _ (h s i) (decidableAlong (step s i) is)

/-- `P` holds in every state of the run. -/
def Always (P : σ → Prop) (s : σ) (is : List ι) : Prop :=
  ∀ pre, pre <+: is → P (run step s pre)

theorem always_nil : Always step P s [] ↔ P s := by
  constructor
  · intro h
    exact h [] (List.prefix_refl _)
  · intro h pre hpre
    rw [List.prefix_nil.1 hpre]
    exact h

theorem always_cons {is : List ι} :
    Always step P s (i :: is) ↔ P s ∧ Always step P (step s i) is := by
  constructor
  · intro h
    refine ⟨h [] List.nil_prefix, fun pre hpre => ?_⟩
    exact h (i :: pre) (List.cons_prefix_cons.2 ⟨rfl, hpre⟩)
  · rintro ⟨hs, h⟩ pre hpre
    cases pre with
    | nil => exact hs
    | cons j pre =>
      obtain ⟨rfl, hpre'⟩ := List.cons_prefix_cons.1 hpre
      exact h pre hpre'

theorem Along.mono {C D : σ → ι → Prop} (h : ∀ s i, C s i → D s i) :
    ∀ {is : List ι} {s : σ}, Along step C s is → Along step D s is
  | [], _, _ => trivial
  | _ :: _, _, ⟨hc, hr⟩ => ⟨h _ _ hc, hr.mono h⟩

theorem along_of_forall {C : σ → ι → Prop} : ∀ {is : List ι} {s : σ}, (∀ s, ∀ i ∈ is, C s i) →
    Along step C s is
  | [], _, _ => trivial
  | i :: _, s, h => ⟨h s i List.mem_cons_self,
      along_of_forall fun s j hj => h s j (List.mem_cons_of_mem i hj)⟩

/-- A call of the run meets `C` in the state that the calls before it lead to. -/
theorem Along.after {C : σ → ι → Prop} : ∀ (pre : List ι) {s : σ} {i : ι} {post : List ι},
    Along step C s (pre ++ i :: post) → C (run step s pre) i
  | [], _, _, _, h => h.1
  | _ :: pre, _, _, _, h => Along.after pre h.2

theorem along_append {C : σ → ι → Prop} : ∀ (is : List ι) {s : σ} {js : List ι},
    Along step C s (is ++ js) ↔ Along step C s is ∧ Along step C (run step s is) js
  | [], _, _ => (iff_of_eq (true_and _)).symm
  | _ :: is, _, _ => (and_congr_right fun _ => along_append is).trans and_assoc.symm

/-- While an invariant holds, a condition on the calls may be replaced by one that is equivalent
under it. -/
theorem along_congr {Inv : σ → Prop} {C D : σ → ι → Prop}
    (hinv : ∀ s i, Inv s → Inv (step s i)) (h : ∀ s i, Inv s → (C s i ↔ D s i)) :
    ∀ (is : List ι) {s : σ}, Inv s → (Along step C s is ↔ Along step D s is)
  | [], _, _ => Iff.rfl
  | i :: is, s, hs => and_congr (h s i hs) (along_congr hinv h is (hinv s i hs))

/-- An invariant holds in every state of a run. -/
theorem always_of_invariant {Inv : σ → Prop} (hinv : ∀ s i, Inv s → Inv (step s i))
    (h : ∀ s, Inv s → P s) (is : List ι) (hs : Inv s) : Always step P s is :=
  fun pre _ => h _ (run_invariant step hinv pre hs)

/-- An invariant that a step keeps under a condition on the call holds in every state of a run whose
calls meet the condition. -/
theorem always_of_along {Inv P : σ → Prop} {C : σ → ι → Prop}
    (hstep : ∀ s i, Inv s → C s i → Inv (step s i)) (h : ∀ s, Inv s → P s) :
    ∀ {is : List ι} {s : σ}, Inv s → Along step C s is → Always step P s is
  | [], s, hs, _ => (always_nil step).2 (h s hs)
  | _ :: _, s, hs, ⟨hc, hr⟩ =>
    (always_cons step).2 ⟨h s hs, always_of_along hstep h (hstep s _ hs hc) hr⟩

/-- Let every step keep `Inv`, and let a step from a state with `P` reach `P` exactly
when the call meets `C`. Then `P` holds in every state of a run exactly when every call
of the run meets `C`. -/
theorem always_iff_along {Inv P : σ → Prop} {C : σ → ι → Prop}
    (hinv : ∀ s i, Inv s → Inv (step s i))
    (hstep : ∀ s i, Inv s → P s → (P (step s i) ↔ C s i)) :
    ∀ (is : List ι) {s : σ}, Inv s → P s → (Always step P s is ↔ Along step C s is)
  | [], s, _, hp => by simpa [always_nil, Along] using hp
  | i :: is, s, hi, hp => by
    rw [always_cons, Along, ← hstep s i hi hp]
    constructor
    · rintro ⟨-, h⟩
      have hp' : P (step s i) := h [] List.nil_prefix
      exact ⟨hp', (always_iff_along hinv hstep is (hinv s i hi) hp').1 h⟩
    · rintro ⟨hp', h⟩
      exact ⟨hp, (always_iff_along hinv hstep is (hinv s i hi) hp').2 h⟩

end Transition

import VulnLoom.Transition

/-!
# Runs of one client among others

A system that several clients call : `exec` gives the new state and a result, or raises. Each
client is compared with the same calls of its own, made to a system of its own.

`Lockstep R` relates two outcomes with one result whose states are related by `R`, and two that
raise alike; a sequence keeps it (`Lockstep.bind`). `interferes_iff` is the two-run law : let
calls of other clients keep `R`, and let a call of the client go in lockstep unless it crosses
another client's (`Crosses`), where its result differs. Then the results of every client are
those of its own calls exactly when no call of the run crosses.
-/

open Transition

/-! ## Outcomes -/

/-- Two outcomes with one result and related states, or two that raise the same. -/
inductive Lockstep {σ τ α ε : Type} (R : σ → τ → Prop) : Except ε (σ × α) → Except ε (τ × α) → Prop
  | raised (e : ε) : Lockstep R (.error e) (.error e)
  | returned {s : σ} {t : τ} (a : α) (h : R s t) : Lockstep R (.ok (s, a)) (.ok (t, a))

namespace Lockstep

variable {σ τ α β ε : Type} {R : σ → τ → Prop}
variable {x : Except ε (σ × α)} {y : Except ε (τ × α)}

theorem bind {f : σ × α → Except ε (σ × β)} {g : τ × α → Except ε (τ × β)} (h : Lockstep R x y)
    (hfg : ∀ s t a, R s t → Lockstep R (f (s, a)) (g (t, a))) : Lockstep R (x >>= f) (y >>= g) := by
  cases h with
  | raised e => exact .raised e
  | returned a h => exact hfg _ _ a h

/-- A computation that both sides share. -/
theorem bind_left {c : Except ε α} {f : α → Except ε (σ × β)} {g : α → Except ε (τ × β)}
    (hfg : ∀ a, c = .ok a → Lockstep R (f a) (g a)) : Lockstep R (c >>= f) (c >>= g) := by
  cases c with
  | error e => exact .raised e
  | ok a => exact hfg a rfl

/-- Related outcomes are related by what else is known of them. -/
theorem mono {R' : σ → τ → Prop} (h : Lockstep R x y)
    (hR : ∀ s t a, x = .ok (s, a) → y = .ok (t, a) → R s t → R' s t) : Lockstep R' x y := by
  cases h with
  | raised e => exact .raised e
  | returned a h => exact .returned a (hR _ _ a rfl rfl h)

theorem results (h : Lockstep R x y) : x.map Prod.snd = y.map Prod.snd := by
  cases h <;> rfl

end Lockstep

/-! ## Runs -/

namespace Client

variable {σ ι κ α ε : Type} [DecidableEq κ] (exec : σ → ι → Except ε (σ × α)) (client : ι → κ)

/-- The state after a call : one that raises changes nothing. -/
def step (s : σ) (i : ι) : σ :=
  match exec s i with
  | .ok (s', _) => s'
  | .error _ => s

/-- What a call returns or raises. -/
def result (s : σ) (i : ι) : Except ε α :=
  (exec s i).map Prod.snd

/-- The results of the calls of the client `k`, among those of the others. -/
def results (k : κ) : σ → List ι → List (Except ε α)
  | _, [] => []
  | s, i :: is =>
    if client i = k then result exec s i :: results k (step exec s i) is
    else results k (step exec s i) is

/-- The calls of the client `k`. -/
def own (k : κ) (is : List ι) : List ι :=
  is.filter fun i => client i = k

variable {exec client}

theorem step_ok {s s' : σ} {i : ι} {a : α} (h : exec s i = .ok (s', a)) :
    step exec s i = s' := by
  simp [step, h]

theorem step_error {s : σ} {i : ι} {e : ε} (h : exec s i = .error e) : step exec s i = s := by
  simp [step, h]

theorem step_of_lockstep {R : σ → σ → Prop} {s t : σ} {i : ι} (hst : R s t)
    (h : Lockstep R (exec s i) (exec t i)) : R (step exec s i) (step exec t i) := by
  unfold step
  generalize exec s i = x at h ⊢
  generalize exec t i = y at h ⊢
  cases h with
  | raised e => exact hst
  | returned a h => exact h

variable {R : κ → σ → σ → Prop} {Crosses : σ → ι → Prop}

/-- The two-run law. `R k s t` relates the shared state `s` to the state `t` of a system of the
client `k` alone. -/
theorem results_eq_iff
    (hother : ∀ s t i k, R k s t → client i ≠ k → R k (step exec s i) t)
    (hown : ∀ s t i, R (client i) s t → ¬Crosses s i →
      Lockstep (R (client i)) (exec s i) (exec t i))
    (hcrosses : ∀ s t i, R (client i) s t → Crosses s i → result exec s i ≠ result exec t i) :
    ∀ (is : List ι) (s : σ) (t : κ → σ), (∀ k, R k s (t k)) →
      ((∀ k, results exec client k s is = results exec client k (t k) (own client k is)) ↔
        Along (step exec) (fun s i => ¬Crosses s i) s is)
  | [], s, t, hst => by simp [results, own, Along]
  | i :: is, s, t, hst => by
    have hmine : own client (client i) (i :: is) = i :: own client (client i) is := by
      simp [own]
    have htheirs : ∀ k, client i ≠ k → own client k (i :: is) = own client k is := by
      intro k hk
      simp [own, hk]
    -- the states of the systems of one client each, after the call
    let t' : κ → σ := fun k => if client i = k then step exec (t k) i else t k
    have hnext : ¬Crosses s i → ∀ k, R k (step exec s i) (t' k) := by
      intro hfree k
      by_cases hk : client i = k
      · subst hk
        simp only [t', if_true]
        exact step_of_lockstep (hst _) (hown s _ i (hst _) hfree)
      · simp only [t', if_neg hk]
        exact hother s _ i k (hst k) hk
    have htail : (∀ k, results exec client k s (i :: is) =
        results exec client k (t k) (own client k (i :: is))) ↔
        result exec s i = result exec (t (client i)) i ∧
          ∀ k, results exec client k (step exec s i) is =
            results exec client k (t' k) (own client k is) := by
      constructor
      · intro h
        have hi := h (client i)
        simp only [hmine, results, if_true, List.cons.injEq] at hi
        refine ⟨hi.1, fun k => ?_⟩
        by_cases hk : client i = k
        · subst hk
          simpa only [t', if_true] using hi.2
        · have := h k
          rw [htheirs k hk] at this
          simpa only [t', results, if_neg hk] using this
      · rintro ⟨hi, h⟩ k
        have hk' := h k
        by_cases hk : client i = k
        · subst hk
          simp only [t', if_true] at hk'
          simp only [hmine, results, if_true, hi, hk']
        · simp only [t', if_neg hk] at hk'
          rw [htheirs k hk]
          simp only [results, if_neg hk, hk']
    rw [htail, Along]
    constructor
    · rintro ⟨hi, h⟩
      have hfree : ¬Crosses s i := fun hc => hcrosses s _ i (hst _) hc hi
      exact ⟨hfree, (results_eq_iff hother hown hcrosses is _ t' (hnext hfree)).1 h⟩
    · rintro ⟨hfree, h⟩
      exact ⟨(hown s _ i (hst _) hfree).results,
        (results_eq_iff hother hown hcrosses is _ t' (hnext hfree)).2 h⟩

end Client

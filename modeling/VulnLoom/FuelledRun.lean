import Mathlib.Order.Filter.AtTopBot.Basic

/-!
# Runs with fuel

A program that calls itself takes fuel, and is stuck where none is left. A run of it ends where
from some fuel on the result is one and the same (`EndsBy`); what ends is put together from parts
that end by the same fuel. The state it ends in is kept where the run raises.
-/

namespace FuelledRun

/-- A run that reads and writes a state, raises, or is stuck. -/
abbrev Run (ε σ α : Type) := ExceptT ε (StateT σ Option) α

variable {ε σ α β ι : Type}

/-- The run of a program without fuel. -/
def stuck : Run ε σ α :=
  ExceptT.mk (StateT.mk fun _ => none)

def Run.from (m : Run ε σ α) (s : σ) : Option (Except ε α × σ) :=
  (ExceptT.run m).run s

variable {P : σ → Prop} {n : ℕ} {m : ℕ → Run ε σ α}

/-- With `n` of fuel the program ends, in the same way as with more, and keeps `P`. -/
def EndsBy (P : σ → Prop) (n : ℕ) (m : ℕ → Run ε σ α) : Prop :=
  ∀ s, P s → ∃ r s', P s' ∧ ∀ fuel ≥ n, (m fuel).from s = some (r, s')

namespace EndsBy

theorem mono (h : EndsBy P n m) {k : ℕ} (hk : n ≤ k) : EndsBy P k m := by
  intro s hs
  obtain ⟨r, s', hs', hrun⟩ := h s hs
  exact ⟨r, s', hs', fun fuel hfuel => hrun fuel (hk.trans hfuel)⟩

/-- A call takes one of the fuel. -/
theorem succ (h : EndsBy P n fun fuel => m (fuel + 1)) : EndsBy P (n + 1) m := by
  intro s hs
  obtain ⟨r, s', hs', hrun⟩ := h s hs
  refine ⟨r, s', hs', fun fuel hfuel => ?_⟩
  obtain ⟨k, rfl⟩ : ∃ k, fuel = k + 1 := ⟨fuel - 1, by omega⟩
  exact hrun k (by omega)

theorem pure (a : α) : EndsBy P n fun _ => (Pure.pure a : Run ε σ α) :=
  fun s hs => ⟨.ok a, s, hs, fun _ _ => rfl⟩

theorem throw (e : ε) : EndsBy P n fun _ => (throwThe ε e : Run ε σ α) :=
  fun s hs => ⟨.error e, s, hs, fun _ _ => rfl⟩

theorem get : EndsBy P n fun _ => (MonadState.get : Run ε σ σ) :=
  fun s hs => ⟨.ok s, s, hs, fun _ _ => rfl⟩

theorem modify {f : σ → σ} (hf : ∀ s, P s → P (f s)) :
    EndsBy P n fun _ => (modifyThe σ f : Run ε σ PUnit) :=
  fun s hs => ⟨.ok (), f s, hf s hs, fun _ _ => rfl⟩

theorem bind {f : ℕ → α → Run ε σ β} (hm : EndsBy P n m)
    (hf : ∀ a, EndsBy P n fun fuel => f fuel a) : EndsBy P n fun fuel => m fuel >>= f fuel := by
  intro s hs
  obtain ⟨r, s', hs', hrun⟩ := hm s hs
  cases r with
  | error e =>
    refine ⟨.error e, s', hs', fun fuel hfuel => ?_⟩
    have h := hrun fuel hfuel
    simp only [Run.from] at h
    simp [Run.from, ExceptT.run_bind, h]
  | ok a =>
    obtain ⟨r, s'', hs'', hrest⟩ := hf a s' hs'
    refine ⟨r, s'', hs'', fun fuel hfuel => ?_⟩
    have h := hrun fuel hfuel
    have hrest := hrest fuel hfuel
    simp only [Run.from] at h hrest
    simp [Run.from, ExceptT.run_bind, h, hrest]

theorem seq {l : ℕ → Run ε σ β} (hm : EndsBy P n m) (hl : EndsBy P n l) :
    EndsBy P n fun fuel => m fuel >>= fun _ => l fuel :=
  hm.bind fun _ => hl

theorem forM {xs : List ι} {f : ℕ → ι → Run ε σ PUnit}
    (h : ∀ x ∈ xs, EndsBy P n fun fuel => f fuel x) :
    EndsBy P n fun fuel => xs.forM (f fuel) := by
  induction xs with
  | nil => exact pure ()
  | cons x xs ih =>
    rw [List.forall_mem_cons] at h
    exact (h.1.bind fun _ => ih h.2)

theorem mapM {xs : List ι} {f : ℕ → ι → Run ε σ β}
    (h : ∀ x ∈ xs, EndsBy P n fun fuel => f fuel x) :
    EndsBy P n fun fuel => xs.mapM (f fuel) := by
  induction xs with
  | nil => simpa using pure []
  | cons x xs ih =>
    rw [List.forall_mem_cons] at h
    simp only [List.mapM_cons]
    exact h.1.bind fun _ => (ih h.2).bind fun _ => pure _

end EndsBy

end FuelledRun

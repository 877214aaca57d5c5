import VulnLoom.Transition

/-!
# Connections to one store

A connection opens its transaction at the first statement that writes, so what a call read
before may have been changed by another connection when it writes. A call is a sequence of
steps, each atomic : a step reads or rewrites the store and leaves the rest of the call, or
its answer (`Program`). A connection whose process died never takes the next step of its
call.

A property of the store is kept together with one of the calls under way : what each of them
read still says something about the store (`System.Holds`). `Program.always_of_along` : the
property holds throughout a run whose steps meet the condition under which a step keeps it;
`Program.always_iff_along` : and in no other run, where a step that keeps it meets the condition.
-/

namespace Connections

open Transition

variable {σ ι φ α : Type*}

/-- Calls and their steps : `begins` is a call before its first step, `next` is a step. -/
structure Program (σ ι φ α : Type*) where
  begins : ι → φ
  next : σ → φ → σ × (φ ⊕ α)

/-- The store, and the call that is under way on each connection. -/
structure System (σ φ : Type*) where
  store : σ
  calls : ℕ → Option φ

/-- A connection begins a call, or goes on with the one under way. -/
inductive Step (ι : Type*)
  | call (connection : ℕ) (i : ι)
  | go (connection : ℕ)

namespace System

/-- No call is under way. -/
def idle (store : σ) : System σ φ :=
  ⟨store, fun _ => none⟩

/-- A property of the store, and one of the store and each call under way. -/
structure Holds (P : σ → Prop) (J : σ → φ → Prop) (s : System σ φ) : Prop where
  store : P s.store
  calls : ∀ connection f, s.calls connection = some f → J s.store f

theorem holds_idle {P : σ → Prop} {J : σ → φ → Prop} {store : σ} (h : P store) :
    (idle store : System σ φ).Holds P J := by
  refine ⟨h, fun connection f hf => ?_⟩
  cases hf

/-- A condition on the step that a connection takes. -/
def Meets (C : σ → φ → Prop) (s : System σ φ) : Step ι → Prop
  | .call _ _ => True
  | .go connection => ∀ f, s.calls connection = some f → C s.store f

instance {C : σ → φ → Prop} [∀ s f, Decidable (C s f)] (s : System σ φ) :
    ∀ x : Step ι, Decidable (s.Meets C x)
  | .call _ _ => isTrue trivial
  | .go connection =>
    match h : s.calls connection with
    | none => isTrue fun f hf => by rw [h] at hf; cases hf
    | some f => decidable_of_iff (C s.store f)
        ⟨fun hC g hg => by rw [h] at hg; cases hg; exact hC, fun hC => hC f h⟩

end System

namespace Program

variable (p : Program σ ι φ α)

def step (s : System σ φ) : Step ι → System σ φ
  | .call connection i => ⟨s.store, Function.update s.calls connection (some (p.begins i))⟩
  | .go connection =>
    match s.calls connection with
    | none => s
    | some f => ⟨(p.next s.store f).1,
        Function.update s.calls connection (p.next s.store f).2.getLeft?⟩

variable {s : System σ φ} {connection : ℕ} {f : φ}

theorem step_go (h : s.calls connection = some f) :
    p.step s (.go connection) = ⟨(p.next s.store f).1,
      Function.update s.calls connection (p.next s.store f).2.getLeft?⟩ := by
  simp only [step, h]

theorem step_go_none (h : s.calls connection = none) : p.step s (.go connection) = s := by
  simp only [step, h]

/-- A call that is alone, for so many steps at most: the store it leaves, and its answer. -/
def finish : ℕ → σ → φ → Option (σ × α)
  | 0, _, _ => none
  | n + 1, s, f =>
    match p.next s f with
    | (s, .inl f) => finish n s f
    | (s, .inr answer) => some (s, answer)

theorem finish_inl {n : ℕ} {s s' : σ} {f' : φ} (h : p.next s f = (s', .inl f')) :
    p.finish (n + 1) s f = p.finish n s' f' := by
  simp only [finish, h]

theorem finish_inr {n : ℕ} {s s' : σ} {answer : α} (h : p.next s f = (s', .inr answer)) :
    p.finish (n + 1) s f = some (s', answer) := by
  simp only [finish, h]

variable {p} {I P : σ → Prop} {J : σ → φ → Prop} {C : σ → φ → Prop}

/-- What every step keeps of the store holds after every step of a connection. -/
theorem invariant_step (hinv : ∀ s f, I s → I (p.next s f).1) (x : Step ι) (hs : I s.store) :
    I (p.step s x).store := by
  cases x with
  | call connection i => exact hs
  | go connection =>
    cases hf : s.calls connection with
    | none =>
      rw [step_go_none p hf]
      exact hs
    | some f =>
      rw [step_go p hf]
      exact hinv _ _ hs

theorem holds_call (hbegin : ∀ s i, I s → P s → J s (p.begins i)) (hI : I s.store)
    (hs : s.Holds P J) (connection : ℕ) (i : ι) : (p.step s (.call connection i)).Holds P J := by
  refine ⟨hs.store, fun connection' f hf => ?_⟩
  simp only [step, Function.update_apply] at hf ⊢
  split_ifs at hf
  · cases hf
    exact hbegin _ _ hI hs.store
  · exact hs.calls _ _ hf

theorem holds_go
    (hkeep : ∀ s f, I s → P s → J s f → C s f → P (p.next s f).1 ∧
      (∀ f', (p.next s f).2 = .inl f' → J (p.next s f).1 f') ∧ ∀ g, J s g → J (p.next s f).1 g)
    (hI : I s.store) (hs : s.Holds P J) (hf : s.calls connection = some f) (hC : C s.store f) :
    (p.step s (.go connection)).Holds P J := by
  obtain ⟨hstore, hrest, hother⟩ := hkeep _ _ hI hs.store (hs.calls _ _ hf) hC
  rw [step_go p hf]
  refine ⟨hstore, fun connection' g hg => ?_⟩
  simp only [Function.update_apply] at hg
  split_ifs at hg
  · exact hrest g (Sum.getLeft?_eq_some_iff.1 hg)
  · exact hother g (hs.calls _ _ hg)

/-- Let a step that meets `C` keep `P` together with what the calls under way read. Then a step
of a connection does. -/
theorem holds_step (hbegin : ∀ s i, I s → P s → J s (p.begins i))
    (hkeep : ∀ s f, I s → P s → J s f → C s f → P (p.next s f).1 ∧
      (∀ f', (p.next s f).2 = .inl f' → J (p.next s f).1 f') ∧ ∀ g, J s g → J (p.next s f).1 g)
    {x : Step ι} (hI : I s.store) (hs : s.Holds P J) (hC : System.Meets C s x) :
    (p.step s x).Holds P J := by
  cases x with
  | call connection i => exact holds_call hbegin hI hs connection i
  | go connection =>
    cases hf : s.calls connection with
    | none =>
      rw [step_go_none p hf]
      exact hs
    | some f => exact holds_go hkeep hI hs hf (hC f hf)

/-- Where every step keeps `I`, and a step that meets `C` keeps `P` together with what the calls
under way read, `P` holds throughout a run whose steps meet `C`. -/
theorem always_of_along (hinv : ∀ s f, I s → I (p.next s f).1)
    (hbegin : ∀ s i, I s → P s → J s (p.begins i))
    (hkeep : ∀ s f, I s → P s → J s f → C s f → P (p.next s f).1 ∧
      (∀ f', (p.next s f).2 = .inl f' → J (p.next s f).1 f') ∧ ∀ g, J s g → J (p.next s f).1 g) :
    ∀ (steps : List (Step ι)) {s : System σ φ}, I s.store → s.Holds P J →
      Along p.step (System.Meets C) s steps → Always p.step (fun s => P s.store) s steps
  | [], s, _, hs, _ => by simpa [always_nil] using hs.store
  | x :: steps, s, hI, hs, hC => by
    rw [always_cons]
    exact ⟨hs.store, always_of_along hinv hbegin hkeep steps (invariant_step hinv x hI)
      (holds_step hbegin hkeep hI hs hC.1) hC.2⟩

/-- In such a run every step meets what `C` gives with `P` and with what the call has read. -/
theorem along_of_along {D : σ → φ → Prop} (hinv : ∀ s f, I s → I (p.next s f).1)
    (hbegin : ∀ s i, I s → P s → J s (p.begins i))
    (hkeep : ∀ s f, I s → P s → J s f → C s f → P (p.next s f).1 ∧
      (∀ f', (p.next s f).2 = .inl f' → J (p.next s f).1 f') ∧ ∀ g, J s g → J (p.next s f).1 g)
    (hgives : ∀ s f, I s → P s → J s f → C s f → D s f) :
    ∀ (steps : List (Step ι)) {s : System σ φ}, I s.store → s.Holds P J →
      Along p.step (System.Meets C) s steps → Along p.step (System.Meets D) s steps
  | [], _, _, _, _ => trivial
  | x :: steps, s, hI, hs, hC => by
    refine ⟨?_, along_of_along hinv hbegin hkeep hgives steps (invariant_step hinv x hI)
      (holds_step hbegin hkeep hI hs hC.1) hC.2⟩
    cases x with
    | call connection i => trivial
    | go connection =>
      intro f hf
      exact hgives _ _ hI hs.store (hs.calls _ _ hf) (hC.1 f hf)

/-- Where each step relates the store before it to the store after it, so does a run. -/
theorem stores_related {R : σ → σ → Prop} (hrefl : ∀ s, R s s)
    (htrans : ∀ {a b c}, R a b → R b c → R a c) (hrel : ∀ s f, R s (p.next s f).1)
    (steps : List (Step ι)) (s : System σ φ) : R s.store (run p.step s steps).store := by
  refine @run_related _ _ p.step (fun _ => True) (fun a b => R a.store b.store)
    (fun s => hrefl s.store) htrans (fun _ _ _ => trivial) (fun s x _ => ?_) steps s trivial
  cases x with
  | call connection i => exact hrefl s.store
  | go connection =>
    cases hf : s.calls connection with
    | none =>
      rw [step_go_none p hf]
      exact hrefl s.store
    | some f =>
      rw [step_go p hf]
      exact hrel _ _

/-- Where in addition a step that keeps `P` meets `C`, `P` holds throughout a run exactly when
every step of the run meets `C`. -/
theorem always_iff_along (hinv : ∀ s f, I s → I (p.next s f).1)
    (hbegin : ∀ s i, I s → P s → J s (p.begins i))
    (hkeep : ∀ s f, I s → P s → J s f → C s f → P (p.next s f).1 ∧
      (∀ f', (p.next s f).2 = .inl f' → J (p.next s f).1 f') ∧ ∀ g, J s g → J (p.next s f).1 g)
    (hbreak : ∀ s f, I s → P s → J s f → P (p.next s f).1 → C s f) :
    ∀ (steps : List (Step ι)) {s : System σ φ}, I s.store → s.Holds P J →
      (Always p.step (fun s => P s.store) s steps ↔ Along p.step (System.Meets C) s steps)
  | [], s, _, hs => by simpa [always_nil, Along] using hs.store
  | x :: steps, s, hI, hs => by
    rw [always_cons, Along]
    have hkept : P (p.step s x).store → System.Meets C s x := by
      intro hP
      cases x with
      | call connection i => trivial
      | go connection =>
        intro f hf
        rw [step_go p hf] at hP
        exact hbreak _ _ hI hs.store (hs.calls _ _ hf) hP
    have hrest := fun hC => always_iff_along hinv hbegin hkeep hbreak steps
      (invariant_step hinv x hI) (holds_step hbegin hkeep hI hs hC)
    constructor
    · rintro ⟨-, h⟩
      have hC := hkept (h [] List.nil_prefix)
      exact ⟨hC, (hrest hC).1 h⟩
    · rintro ⟨hC, h⟩
      exact ⟨hs.store, (hrest hC).2 h⟩

end Program

end Connections

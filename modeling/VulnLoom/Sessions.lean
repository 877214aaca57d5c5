import VulnLoom.Connections

/-!
# One process at a time

A process makes calls one after another and may die between any two steps of a call; the next
process begins a call of its own, and what the dead one had in hand is lost. So a session is the
store and at most one call under way, and a call that begins drops the one before it.

Nothing comes between the steps of a call. What a call read is therefore what the store still
holds, and a property of the store is kept together with one of the store and the call under way
(`Session.Keeps`).
-/

namespace Connections

open Transition

variable {σ ι φ α : Type*}

structure Session (σ φ : Type*) where
  store : σ
  call : Option φ

/-- A call begins, and the one under way is dropped; or the call under way goes on. -/
inductive Move (ι : Type*)
  | begin (i : ι)
  | go

namespace Session

/-- No call is under way. -/
def idle (store : σ) : Session σ φ :=
  ⟨store, none⟩

/-- A property of the store, and one of the store and the call under way. -/
structure Keeps (P : σ → Prop) (J : σ → φ → Prop) (s : Session σ φ) : Prop where
  store : P s.store
  call : ∀ f ∈ s.call, J s.store f

theorem keeps_idle {P : σ → Prop} {J : σ → φ → Prop} {store : σ} (h : P store) :
    (idle store : Session σ φ).Keeps P J := by
  refine ⟨h, fun f hf => ?_⟩
  cases hf

end Session

namespace Program

variable (p : Program σ ι φ α)

def move (s : Session σ φ) : Move ι → Session σ φ
  | .begin i => ⟨s.store, some (p.begins i)⟩
  | .go =>
    match s.call with
    | none => s
    | some f => ⟨(p.next s.store f).1, (p.next s.store f).2.getLeft?⟩

/-- What the call under way answers when its next step is its last. -/
def answer (s : Session σ φ) : Option α :=
  s.call.bind fun f => (p.next s.store f).2.getRight?

variable {p} {P : σ → Prop} {J : σ → φ → Prop}
variable {s : Session σ φ}

theorem answer_eq_some {a : α} :
    p.answer s = some a ↔ ∃ f ∈ s.call, (p.next s.store f).2 = .inr a := by
  simp only [answer, Option.bind_eq_some_iff, Sum.getRight?_eq_some_iff, Option.mem_def]

/-- What a step keeps of the store and its call, a move keeps. -/
theorem keeps_move (hbegin : ∀ s i, P s → J s (p.begins i))
    (hnext : ∀ s f, P s → J s f → P (p.next s f).1 ∧
      ∀ f', (p.next s f).2 = .inl f' → J (p.next s f).1 f')
    (s : Session σ φ) (m : Move ι) (hs : s.Keeps P J) : (p.move s m).Keeps P J := by
  cases m with
  | begin i =>
    refine ⟨hs.store, fun f hf => ?_⟩
    obtain rfl := Option.some.inj hf
    exact hbegin _ _ hs.store
  | go =>
    cases hcall : s.call with
    | none =>
      simp only [move, hcall]
      exact hs
    | some f =>
      obtain ⟨hstore, hrest⟩ := hnext _ _ hs.store (hs.call f hcall)
      simp only [move, hcall]
      exact ⟨hstore, fun f' hf' => hrest f' (Sum.getLeft?_eq_some_iff.1 hf')⟩

theorem keeps_run (hbegin : ∀ s i, P s → J s (p.begins i))
    (hnext : ∀ s f, P s → J s f → P (p.next s f).1 ∧
      ∀ f', (p.next s f).2 = .inl f' → J (p.next s f).1 f') (moves : List (Move ι))
    (hs : s.Keeps P J) : (run p.move s moves).Keeps P J :=
  run_invariant p.move (keeps_move hbegin hnext) moves hs

/-- Where each step relates the store before it to the store after it, so does a run. -/
theorem related_run {R : σ → σ → Prop} (hrefl : ∀ s, R s s)
    (htrans : ∀ {a b c}, R a b → R b c → R a c) (hbegin : ∀ s i, P s → J s (p.begins i))
    (hnext : ∀ s f, P s → J s f → P (p.next s f).1 ∧
      ∀ f', (p.next s f).2 = .inl f' → J (p.next s f).1 f')
    (hrel : ∀ s f, P s → J s f → R s (p.next s f).1) (moves : List (Move ι)) (hs : s.Keeps P J) :
    R s.store (run p.move s moves).store := by
  refine @run_related _ _ p.move (Session.Keeps P J) (fun a b => R a.store b.store)
    (fun s => hrefl s.store) htrans (keeps_move hbegin hnext) (fun s m hs => ?_) moves s hs
  cases m with
  | begin i => exact hrefl s.store
  | go =>
    cases hcall : s.call with
    | none =>
      simp only [move, hcall]
      exact hrefl s.store
    | some f =>
      simp only [move, hcall]
      exact hrel _ _ hs.store (hs.call f hcall)

end Program

end Connections

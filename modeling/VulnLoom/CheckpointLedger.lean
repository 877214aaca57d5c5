import VulnLoom.Table

/-!
# Ledgers of checkpoints

A ledger in which an item is claimed once, worked on in numbered attempts and finished with one
outcome. A claim inserts the started row of its item, or answers with the outcome that a row of
the same item has. A recovery starts the next attempt of a started row, or finishes it when its
attempts are spent. `Ledger` says how the items and the outcomes are read and what is raised.

`Ledger.Writes` lists what the ledger can write. From it follow the invariant that a row has an
outcome exactly when it is no longer started (`Writes.finished`), that a row with an outcome stays
as it is (`Writes.keeps`), and where an outcome comes from (`Writes.outcome`).
-/

set_option linter.unusedSectionVars false

namespace CheckpointLedger

variable {α β ε : Type*}

inductive State
  | started
  | completed
  | timedOut
  | failed
  deriving DecidableEq

structure Row (α β : Type*) where
  item : α
  state : State
  attempt : ℕ
  startedAt : ℕ
  outcome : Option β

structure Claim (β : Type*) where
  created : Bool
  attempt : ℕ
  outcome : Option β

structure Ledger (α β ε : Type*) where
  id : α → String
  key : α → String
  /-- two items share a value of another unique column -/
  shares : α → α → Bool := fun _ _ => false
  outcomeId : β → String
  outcomeState : β → State
  outcomeAttempt : β → ℕ
  /-- no row of the item -/
  unavailable : ε
  /-- the identity of a row with other content -/
  reused : ε
  /-- a claim of a started row -/
  unfinished : ε
  /-- a recovery of a row that is not started -/
  notAwaiting : ε
  raced : ε
  exhausted : ε
  /-- no started row to finish -/
  missing : ε
  /-- no outcome of a row -/
  noOutcome : ε

namespace Row

/-- The row of a first claim. -/
def begin (item : α) (now : ℕ) : Row α β where
  item := item
  state := .started
  attempt := 1
  startedAt := now
  outcome := none

def retry (now : ℕ) (row : Row α β) : Row α β :=
  { row with attempt := row.attempt + 1, startedAt := now }

end Row

namespace Ledger

variable (L : Ledger α β ε)

def clash (a b : Row α β) : Bool :=
  L.id a.item = L.id b.item ∨ L.key a.item = L.key b.item ∨ L.shares a.item b.item

/-- The started row of an item at an attempt. -/
def awaits (id : String) (attempt : ℕ) (row : Row α β) : Bool :=
  L.id row.item = id ∧ row.state = .started ∧ row.attempt = attempt

def settle (outcome : β) (row : Row α β) : Row α β :=
  { row with state := L.outcomeState outcome, outcome := some outcome }

/-- The outcome of an item. -/
def outcomeOf (rows : List (Row α β)) (id : String) : Except ε β :=
  match rows.find? fun row => L.id row.item = id with
  | none => .error L.noOutcome
  | some row =>
    if row.state = .started then .error L.noOutcome
    else match row.outcome with
      | none => .error L.noOutcome
      | some outcome => .ok outcome

def finish (rows : List (Row α β)) (outcome : β) : Except ε (List (Row α β)) :=
  let awaits := L.awaits (L.outcomeId outcome) (L.outcomeAttempt outcome)
  if Table.rowcount awaits rows = 1 then .ok (Table.update awaits (L.settle outcome) rows)
  else .error L.missing

variable [DecidableEq α]

/-- The row of an item, by any of its keys. -/
def identity (rows : List (Row α β)) (item : α) : Except ε (Row α β) :=
  match rows.find? fun row => L.id row.item = L.id item ∨ L.key row.item = L.key item ∨
      L.shares row.item item with
  | none => .error L.unavailable
  | some row =>
    if L.id row.item ≠ L.id item ∨ row.item ≠ item then .error L.reused else .ok row

def claim (rows : List (Row α β)) (item : α) (now : ℕ) :
    Except ε (List (Row α β) × Claim β) :=
  match Table.insert L.clash rows (Row.begin item now) with
  | some claimed => .ok (claimed, ⟨true, 1, none⟩)
  | none =>
    match L.identity rows item with
    | .error e => .error e
    | .ok row =>
      if row.state = .started then .error L.unfinished
      else .ok (rows, ⟨false, row.attempt, row.outcome⟩)

/-- The transaction of a recovery, once the row of the item is read. The outcome of spent attempts
is written before the exception. -/
def retry (rows : List (Row α β)) (row : Row α β) (limit : ℕ) (spent : ℕ → β) (now : ℕ) :
    List (Row α β) × Except ε (Claim β) :=
  let awaits := L.awaits (L.id row.item) row.attempt
  if limit ≤ row.attempt then
    (Table.update awaits (L.settle (spent row.attempt)) rows, .error L.exhausted)
  else if Table.rowcount awaits rows ≠ 1 then (rows, .error L.raced)
  else (Table.update awaits (Row.retry now) rows, .ok ⟨true, row.attempt + 1, none⟩)

/-- A recovery, with the limit on attempts and the outcome of spent ones. -/
def recover (rows : List (Row α β)) (item : α) (limit : ℕ) (spent : ℕ → β) (now : ℕ) :
    List (Row α β) × Except ε (Claim β) :=
  match L.identity rows item with
  | .error e => (rows, .error e)
  | .ok row =>
    if row.state ≠ .started then (rows, .error L.notAwaiting)
    else L.retry rows row limit spent now

/-- A claim, or a recovery where the caller asks for one. -/
def take (recovering : Bool) (rows : List (Row α β)) (item : α) (limit : ℕ) (spent : ℕ → β)
    (now : ℕ) : List (Row α β) × Except ε (Claim β) :=
  if recovering then L.recover rows item limit spent now
  else match L.claim rows item now with
    | .ok (claimed, claim) => (claimed, .ok claim)
    | .error e => (rows, .error e)

/-! ## What the ledger writes -/

/-- The ledger after a write : left as it was, or grown by a started row, or with the started row
of an item at an attempt retried, or settled with a final outcome that has `P`. -/
inductive Writes (P : β → Prop) (rows : List (Row α β)) : List (Row α β) → Prop
  | nothing : Writes P rows rows
  | inserts (item : α) (now : ℕ) : Writes P rows (rows ++ [Row.begin item now])
  | retries (id : String) (attempt now : ℕ) :
      Writes P rows (Table.update (L.awaits id attempt) (Row.retry now) rows)
  | settles (id : String) (attempt : ℕ) (outcome : β) (hfinal : L.outcomeState outcome ≠ .started)
      (hP : P outcome) :
      Writes P rows (Table.update (L.awaits id attempt) (L.settle outcome) rows)

variable {L} {P : β → Prop} {rows rows' : List (Row α β)}

theorem finish_writes {outcome : β} (hfinal : L.outcomeState outcome ≠ .started) (hP : P outcome)
    (h : L.finish rows outcome = .ok rows') : L.Writes P rows rows' := by
  simp only [finish] at h
  split_ifs at h
  cases h
  exact .settles _ _ outcome hfinal hP

variable {item : α} {now : ℕ}

theorem claim_writes {claim : Claim β} (h : L.claim rows item now = .ok (rows', claim)) :
    L.Writes P rows rows' := by
  simp only [CheckpointLedger.Ledger.claim] at h
  split at h
  next hinsert =>
    cases h
    obtain ⟨-, rfl⟩ := Table.insert_eq_some.1 hinsert
    exact .inserts item now
  · split at h
    · cases h
    · split_ifs at h
      cases h
      exact .nothing

variable {limit : ℕ} {spent : ℕ → β}

theorem recover_writes (hfinal : ∀ n, L.outcomeState (spent n) ≠ .started) (hP : ∀ n, P (spent n)) :
    L.Writes P rows (L.recover rows item limit spent now).1 := by
  simp only [recover]
  split
  · exact .nothing
  · split_ifs
    · exact .nothing
    · simp only [retry]
      split_ifs
      · exact .settles _ _ _ (hfinal _) (hP _)
      · exact .nothing
      · exact .retries _ _ now

variable {recovering : Bool}

/-- Taking an item writes nothing, a started row, a retry, or the outcome of spent attempts. -/
theorem take_writes (hfinal : ∀ n, L.outcomeState (spent n) ≠ .started) (hP : ∀ n, P (spent n)) :
    L.Writes P rows (L.take recovering rows item limit spent now).1 := by
  simp only [take]
  split
  · exact recover_writes hfinal hP
  · split
    next claimed claim hclaim => exact claim_writes hclaim
    · exact .nothing

theorem outcomeOf_ok {id : String} {outcome : β} (h : L.outcomeOf rows id = .ok outcome) :
    ∃ row ∈ rows, L.id row.item = id ∧ row.outcome = some outcome := by
  simp only [outcomeOf] at h
  split at h
  · cases h
  next row hfind =>
    split_ifs at h
    split at h
    · cases h
    next outcome' houtcome =>
      cases h
      exact ⟨row, List.mem_of_find?_eq_some hfind, by simpa using List.find?_some hfind, houtcome⟩

/-! ## Items -/

/-- The items stay, and those that are added do not clash with them. -/
theorem take_distinct (hrows : Table.Distinct L.clash rows) :
    Table.Distinct L.clash (L.take recovering rows item limit spent now).1 := by
  have hupdate : ∀ (p : Row α β → Bool) (f : Row α β → Row α β), (∀ row, (f row).item = row.item) →
      Table.Distinct L.clash (Table.update p f rows) := fun p f hf =>
    Table.distinct_update (fun a b => by simp [clash, hf]) (fun a b => by simp [clash, hf]) hrows
  simp only [take]
  split
  · simp only [recover]
    split
    · exact hrows
    · split_ifs
      · exact hrows
      · simp only [retry]
        split_ifs
        · exact hupdate _ _ fun _ => rfl
        · exact hrows
        · exact hupdate _ _ fun _ => rfl
  · split
    next claimed claim hclaim =>
      simp only [CheckpointLedger.Ledger.claim] at hclaim
      split at hclaim
      next hinsert =>
        cases hclaim
        exact Table.distinct_insert hrows hinsert
      · split at hclaim
        · cases hclaim
        · split_ifs at hclaim
          cases hclaim
          exact hrows
    · exact hrows

theorem finish_distinct {outcome : β} (hrows : Table.Distinct L.clash rows)
    (h : L.finish rows outcome = .ok rows') : Table.Distinct L.clash rows' := by
  simp only [finish] at h
  split_ifs at h
  cases h
  exact Table.distinct_update (fun _ _ => rfl) (fun _ _ => rfl) hrows

variable {row : Row α β}

/-- Every item stays in the ledger. -/
theorem Writes.items (h : L.Writes P rows rows') (hrow : row ∈ rows) :
    ∃ row' ∈ rows', row'.item = row.item := by
  have hupdate : ∀ (p : Row α β → Bool) (f : Row α β → Row α β), (∀ row, (f row).item = row.item) →
      ∃ row' ∈ Table.update p f rows, row'.item = row.item := by
    intro p f hf
    refine ⟨_, Table.mem_update.2 ⟨row, hrow, rfl⟩, ?_⟩
    split_ifs
    · exact hf row
    · rfl
  cases h with
  | nothing => exact ⟨row, hrow, rfl⟩
  | inserts item now => exact ⟨row, List.mem_append_left _ hrow, rfl⟩
  | retries id attempt now => exact hupdate _ _ fun _ => rfl
  | settles id attempt outcome _ _ => exact hupdate _ _ fun _ => rfl

theorem identity_ok (h : L.identity rows item = .ok row) : row ∈ rows ∧ row.item = item := by
  simp only [identity] at h
  split at h
  · cases h
  next row' hfind =>
    split_ifs at h with hsame
    cases h
    push Not at hsame
    exact ⟨List.mem_of_find?_eq_some hfind, hsame.2⟩

/-- An item that was taken is in the ledger. -/
theorem take_item {claim : Claim β}
    (h : (L.take recovering rows item limit spent now).2 = .ok claim) :
    ∃ row ∈ (L.take recovering rows item limit spent now).1, row.item = item := by
  simp only [take] at h ⊢
  split at h
  next hrecovering =>
    rw [if_pos hrecovering]
    simp only [recover] at h ⊢
    split at h
    · cases h
    next row hidentity =>
      obtain ⟨hrow, hitem⟩ := identity_ok hidentity
      split_ifs at h ⊢
      simp only [retry] at h ⊢
      split_ifs at h ⊢
      refine ⟨_, Table.mem_update.2 ⟨row, hrow, rfl⟩, ?_⟩
      split_ifs
      · exact hitem
      · exact hitem
  next hrecovering =>
    rw [if_neg hrecovering]
    split at h
    next claimed claim' hclaim =>
      simp only [CheckpointLedger.Ledger.claim] at hclaim
      split at hclaim
      next hinsert =>
        cases hclaim
        obtain ⟨-, rfl⟩ := Table.insert_eq_some.1 hinsert
        exact ⟨_, List.mem_append_right _ (List.mem_singleton_self _), rfl⟩
      · split at hclaim
        · cases hclaim
        next row hidentity =>
          obtain ⟨hrow, hitem⟩ := identity_ok hidentity
          split_ifs at hclaim
          cases hclaim
          exact ⟨row, hrow, hitem⟩
    · cases h

/-- What is finished was a started row. -/
theorem finish_ok {outcome : β} (h : L.finish rows outcome = .ok rows') :
    ∃ row ∈ rows, L.id row.item = L.outcomeId outcome ∧ row.state = .started ∧
      L.settle outcome row ∈ rows' := by
  simp only [finish] at h
  split_ifs at h with hone
  cases h
  obtain ⟨row, hrow, hawaits⟩ := Table.exists_of_rowcount_one hone
  have hkeys := hawaits
  simp only [awaits, decide_eq_true_eq] at hkeys
  exact ⟨row, hrow, hkeys.1, hkeys.2.1, Table.mem_update.2 ⟨row, hrow, if_pos hawaits⟩⟩

/-- A row that is no longer started stays as it is. -/
theorem Writes.settled (h : L.Writes P rows rows') (hrow : row ∈ rows)
    (hdone : row.state ≠ .started) : row ∈ rows' := by
  have hkept : ∀ id attempt (f : Row α β → Row α β),
      row ∈ Table.update (L.awaits id attempt) f rows := fun id attempt f =>
    Table.mem_update.2 ⟨row, hrow, by simp [awaits, hdone]⟩
  cases h with
  | nothing => exact hrow
  | inserts item now => exact List.mem_append_left _ hrow
  | retries id attempt now => exact hkept _ _ _
  | settles id attempt outcome _ _ => exact hkept _ _ _

/-! ## Rows with an outcome -/

/-- A row has an outcome exactly when it is no longer started. -/
def Finished (rows : List (Row α β)) : Prop :=
  ∀ row ∈ rows, row.state = .started ↔ row.outcome = none

theorem Finished.nil : Finished ([] : List (Row α β)) := by
  intro row hrow
  cases hrow

theorem Writes.finished (h : L.Writes P rows rows') (hrows : Finished rows) : Finished rows' := by
  cases h with
  | nothing => exact hrows
  | inserts item now =>
    intro row hrow
    rcases List.mem_append.1 hrow with hrow | hrow
    · exact hrows row hrow
    · rw [List.mem_singleton.1 hrow]
      exact ⟨fun _ => rfl, fun _ => rfl⟩
  | retries id attempt now =>
    intro row hrow
    obtain ⟨old, hold, rfl⟩ := Table.mem_update.1 hrow
    split_ifs
    · exact hrows old hold
    · exact hrows old hold
  | settles id attempt outcome hfinal _ =>
    intro row hrow
    obtain ⟨old, hold, rfl⟩ := Table.mem_update.1 hrow
    split_ifs
    · simp [settle, hfinal]
    · exact hrows old hold

/-- A row with an outcome stays as it is. -/
theorem Writes.keeps (h : L.Writes P rows rows') (hrows : Finished rows) (hrow : row ∈ rows)
    {outcome : β} (houtcome : row.outcome = some outcome) : row ∈ rows' := by
  have hdone : row.state ≠ .started := by
    intro hstarted
    rw [(hrows row hrow).1 hstarted] at houtcome
    cases houtcome
  exact h.settled hrow hdone

/-- An outcome of the ledger was there before, or has what the write asks of it. -/
theorem Writes.outcome (h : L.Writes P rows rows') (hrow : row ∈ rows') {outcome : β}
    (houtcome : row.outcome = some outcome) :
    (∃ old ∈ rows, old.outcome = some outcome) ∨ P outcome := by
  cases h with
  | nothing => exact .inl ⟨row, hrow, houtcome⟩
  | inserts item now =>
    rcases List.mem_append.1 hrow with hrow | hrow
    · exact .inl ⟨row, hrow, houtcome⟩
    · rw [List.mem_singleton.1 hrow] at houtcome
      cases houtcome
  | retries id attempt now =>
    obtain ⟨old, hold, rfl⟩ := Table.mem_update.1 hrow
    refine .inl ⟨old, hold, ?_⟩
    split_ifs at houtcome
    · exact houtcome
    · exact houtcome
  | settles id attempt final _ hP =>
    obtain ⟨old, hold, rfl⟩ := Table.mem_update.1 hrow
    split_ifs at houtcome
    · cases houtcome
      exact .inr hP
    · exact .inl ⟨old, hold, houtcome⟩

end Ledger

end CheckpointLedger

import VulnLoom.SourceHuntModels
import VulnLoom.Table

/-!
# The Source Hunt store

The four tables and their transactions. The observation column is unique over the whole
table, not per plan. `advance_eq_ok` says once when a checkpoint transaction is accepted and
what it writes.
-/

set_option linter.unusedSectionVars false

namespace VulnLoom

variable [SourceHuntDigests]

/-! ## Tables -/

structure InvestigationObservationRow where
  planId : Digest
  observation : InvestigationObservation
  deriving DecidableEq

structure SourceHuntStore where
  indexes : List RepositoryIndex
  plans : List InvestigationPlan
  checkpoints : List InvestigationCheckpoint
  observations : List InvestigationObservationRow
  deriving DecidableEq

/-- The keys of `source_hunt_plans`. -/
def huntPlanClash (a b : InvestigationPlan) : Bool :=
  a.planId = b.planId ∨ a.idempotencyKey = b.idempotencyKey

/-- The keys of `source_hunt_checkpoints`. -/
def huntCheckpointClash (a b : InvestigationCheckpoint) : Bool :=
  (a.planId = b.planId ∧ a.revision = b.revision) ∨ a.checkpointId = b.checkpointId

/-- The keys of `source_hunt_observations` : `observation_id` is unique by itself. -/
def huntObservationClash (a b : InvestigationObservationRow) : Bool :=
  (a.planId = b.planId ∧ a.observation.queryDigest = b.observation.queryDigest) ∨
    a.observation.observationId = b.observation.observationId

namespace SourceHuntStore

def empty : SourceHuntStore :=
  ⟨[], [], [], []⟩

/-! ## Reads -/

/-- The checkpoints of a plan. -/
def history (store : SourceHuntStore) (planId : Digest) : List InvestigationCheckpoint :=
  store.checkpoints.filter fun checkpoint => checkpoint.planId = planId

def latest (store : SourceHuntStore) (planId : Digest) :
    Except SourceHuntError InvestigationCheckpoint :=
  orRaise ((store.history planId).argmax fun checkpoint => checkpoint.revision)
    (.storeRejected "Source Hunt plan is unavailable")

def planByIdempotencyKey (store : SourceHuntStore) (key : String) : Option InvestigationPlan :=
  store.plans.find? fun plan => plan.idempotencyKey = key

def observation (store : SourceHuntStore) (planId queryDigest : Digest) :
    Except SourceHuntError InvestigationObservation :=
  orRaise ((store.observations.find? fun row =>
      row.planId = planId ∧ row.observation.queryDigest = queryDigest).map (·.observation))
    (.storeRejected "Source Hunt observation is unavailable")

/-! ## Insertions -/

/-- `INSERT OR IGNORE INTO source_hunt_indexes`. -/
def insertIndex (store : SourceHuntStore) (index : RepositoryIndex) : SourceHuntStore :=
  if store.indexes.any fun other => other.indexId = index.indexId then store
  else { store with indexes := store.indexes ++ [index] }

/-- `INSERT INTO source_hunt_plans`, with its foreign key. -/
def insertPlan (store : SourceHuntStore) (index : RepositoryIndex) (plan : InvestigationPlan) :
    Option SourceHuntStore := do
  guard (store.indexes.any fun other => other.indexId = index.indexId)
  let plans ← Table.insert huntPlanClash store.plans plan
  return { store with plans := plans }

/-- `INSERT INTO source_hunt_checkpoints`, with its foreign key. -/
def insertCheckpoint (store : SourceHuntStore) (checkpoint : InvestigationCheckpoint) :
    Option SourceHuntStore := do
  guard (store.plans.any fun plan => plan.planId = checkpoint.planId)
  let checkpoints ← Table.insert huntCheckpointClash store.checkpoints checkpoint
  return { store with checkpoints := checkpoints }

/-- `INSERT INTO source_hunt_observations`, with its foreign key. -/
def insertObservation (store : SourceHuntStore) (row : InvestigationObservationRow) :
    Option SourceHuntStore := do
  guard (store.plans.any fun plan => plan.planId = row.planId)
  let observations ← Table.insert huntObservationClash store.observations row
  return { store with observations := observations }

/-- The observation of a checkpoint transaction, if it has one. -/
def insertObserved (store : SourceHuntStore) (planId : Digest) :
    Option InvestigationObservation → Option SourceHuntStore
  | none => some store
  | some observation => store.insertObservation ⟨planId, observation⟩

/-! ## Transactions -/

/-- `SourceHuntStore.start`. -/
def start (store : SourceHuntStore) (index : RepositoryIndex) (plan : InvestigationPlan)
    (checkpoint : InvestigationCheckpoint) :
    Except SourceHuntError (SourceHuntStore × InvestigationCheckpoint) := do
  let indexed := store.insertIndex index
  match indexed.planByIdempotencyKey plan.idempotencyKey with
  | some existing =>
    raiseIf (existing ≠ plan) (.storeRejected "Source Hunt idempotency collision")
    let current ← indexed.latest plan.planId
    return (indexed, current)
  | none =>
    let planned ← orRaise (indexed.insertPlan index plan)
      (.storeRejected "Source Hunt start transaction was rejected")
    let started ← orRaise (planned.insertCheckpoint checkpoint)
      (.storeRejected "Source Hunt start transaction was rejected")
    return (started, checkpoint)

/-- A checkpoint transaction whose previous checkpoint is no longer the latest one : an
observation that is already stored is given back. -/
def replayStale (store : SourceHuntStore) (current : InvestigationCheckpoint) (planId : Digest) :
    Option InvestigationObservation →
      Except SourceHuntError (InvestigationCheckpoint × Option InvestigationObservation)
  | none => .error (.storeRejected "Source Hunt checkpoint is stale")
  | some observation => do
    let replay ← store.observation planId observation.queryDigest
    raiseIf (replay ≠ observation) (.storeRejected "Source Hunt checkpoint is stale")
    return (current, some replay)

/-- `SourceHuntStore.advance`. -/
def advance (store : SourceHuntStore) (previous checkpoint : InvestigationCheckpoint)
    (observation : Option InvestigationObservation) :
    Except SourceHuntError
      (SourceHuntStore × InvestigationCheckpoint × Option InvestigationObservation) := do
  raiseIf (checkpoint.planId ≠ previous.planId ∨ checkpoint.revision ≠ previous.revision + 1)
    (.storeRejected "Source Hunt checkpoint sequence is invalid")
  let current ← store.latest previous.planId
  if current.checkpointId ≠ previous.checkpointId then
    let replayed ← store.replayStale current previous.planId observation
    return (store, replayed)
  else
    let observed ← orRaise (store.insertObserved previous.planId observation)
      (.storeRejected "Source Hunt checkpoint transaction was rejected")
    let advanced ← orRaise (observed.insertCheckpoint checkpoint)
      (.storeRejected "Source Hunt checkpoint transaction was rejected")
    return (advanced, checkpoint, observation)

/-! ## What a read returns -/

variable {store : SourceHuntStore} {planId : Digest} {checkpoint : InvestigationCheckpoint}

theorem mem_history : checkpoint ∈ store.history planId ↔
      checkpoint ∈ store.checkpoints ∧ checkpoint.planId = planId := by
  simp [history]

theorem latest_ok (h : store.latest planId = .ok checkpoint) :
    checkpoint ∈ store.checkpoints ∧ checkpoint.planId = planId := by
  simp only [latest, orRaise_eq_ok] at h
  exact mem_history.1 (List.argmax_mem h)

theorem revision_le_latest {latest r : InvestigationCheckpoint}
    (h : store.latest planId = .ok latest) (hr : r ∈ store.history planId) :
    r.revision ≤ latest.revision := by
  simp only [SourceHuntStore.latest, orRaise_eq_ok] at h
  exact List.le_of_mem_argmax (f := fun r : InvestigationCheckpoint => r.revision) hr h

theorem observation_queryDigest {queryDigest : Digest} {observation : InvestigationObservation}
    (h : store.observation planId queryDigest = .ok observation) :
    observation.queryDigest = queryDigest := by
  simp only [SourceHuntStore.observation, orRaise_eq_ok, Option.map_eq_some_iff] at h
  obtain ⟨row, hrow, rfl⟩ := h
  have hkey := List.find?_some hrow
  simp only [decide_eq_true_eq] at hkey
  exact hkey.2

variable {store' : SourceHuntStore} {previous : InvestigationCheckpoint}

/-- A checkpoint that follows the latest one becomes the latest. -/
theorem latest_concat (hlatest : store.latest previous.planId = .ok previous)
    (hplan : checkpoint.planId = previous.planId)
    (hrevision : checkpoint.revision = previous.revision + 1)
    (hstore : store'.checkpoints = store.checkpoints ++ [checkpoint]) :
    store'.latest previous.planId = .ok checkpoint := by
  simp only [latest, orRaise_eq_ok] at hlatest ⊢
  have hhistory : store'.history previous.planId =
      store.history previous.planId ++ [checkpoint] := by
    simp [history, hstore, List.filter_append, hplan]
  rw [hhistory, List.argmax_concat, hlatest]
  have hlt : previous.revision < checkpoint.revision := by omega
  simp [hlt]

/-! ## What a transaction does -/

/-- The rows that a checkpoint transaction adds to the observations. -/
def observedRows (planId : Digest) (observation : Option InvestigationObservation) :
    List InvestigationObservationRow :=
  (observation.map fun answer => ⟨planId, answer⟩).toList

theorem insertCheckpoint_eq_some : store.insertCheckpoint checkpoint = some store' ↔
      (∃ plan ∈ store.plans, plan.planId = checkpoint.planId) ∧
      (∀ r ∈ store.checkpoints, huntCheckpointClash checkpoint r = false) ∧
      { store with checkpoints := store.checkpoints ++ [checkpoint] } = store' := by
  simp only [insertCheckpoint, Option.bind_eq_bind, Option.bind_eq_some_iff, Option.guard_eq_some',
    List.any_eq_true, decide_eq_true_eq, Table.insert_eq_some, Option.pure_def,
    Option.some.injEq]
  constructor
  · rintro ⟨-, hplan, -, ⟨hfresh, rfl⟩, rfl⟩
    exact ⟨hplan, hfresh, rfl⟩
  · rintro ⟨hplan, hfresh, rfl⟩
    exact ⟨(), hplan, _, ⟨hfresh, rfl⟩, rfl⟩

variable {observation : Option InvestigationObservation}

theorem insertObserved_eq_some : store.insertObserved planId observation = some store' ↔
      (∀ row ∈ observedRows planId observation,
        (∃ plan ∈ store.plans, plan.planId = planId) ∧
          ∀ r ∈ store.observations, huntObservationClash row r = false) ∧
      { store with observations := store.observations ++ observedRows planId observation } =
        store' := by
  cases observation with
  | none => simp [insertObserved, observedRows]
  | some answer =>
    simp only [insertObserved, insertObservation, observedRows, Option.bind_eq_bind,
      Option.bind_eq_some_iff, Option.guard_eq_some', List.any_eq_true, decide_eq_true_eq,
      Table.insert_eq_some, Option.pure_def, Option.some.injEq, Option.map_some,
      Option.toList_some, List.mem_singleton, forall_eq]
    constructor
    · rintro ⟨-, hplan, -, ⟨hfresh, rfl⟩, rfl⟩
      exact ⟨⟨hplan, hfresh⟩, rfl⟩
    · rintro ⟨⟨hplan, hfresh⟩, rfl⟩
      exact ⟨(), hplan, _, ⟨hfresh, rfl⟩, rfl⟩

/-- The state after a checkpoint transaction. -/
def advanced (store : SourceHuntStore) (checkpoint : InvestigationCheckpoint)
    (observation : Option InvestigationObservation) : SourceHuntStore :=
  { store with
    observations := store.observations ++ observedRows checkpoint.planId observation
    checkpoints := store.checkpoints ++ [checkpoint] }

/-- What the keys of the tables ask of a checkpoint transaction. -/
structure Accepts (store : SourceHuntStore) (checkpoint : InvestigationCheckpoint)
    (observation : Option InvestigationObservation) : Prop where
  owned : ∃ plan ∈ store.plans, plan.planId = checkpoint.planId
  checkpoint_fresh : ∀ r ∈ store.checkpoints, huntCheckpointClash checkpoint r = false
  observation_fresh : ∀ row ∈ observedRows checkpoint.planId observation,
    ∀ r ∈ store.observations, huntObservationClash row r = false

/-- A transaction that follows the latest checkpoint. -/
theorem advance_eq_ok
    {result : SourceHuntStore × InvestigationCheckpoint × Option InvestigationObservation}
    (hlatest : store.latest previous.planId = .ok previous)
    (hplan : checkpoint.planId = previous.planId)
    (hrevision : checkpoint.revision = previous.revision + 1) :
    store.advance previous checkpoint observation = .ok result ↔
      store.Accepts checkpoint observation ∧
        (store.advanced checkpoint observation, checkpoint, observation) = result := by
  rw [← hplan] at hlatest
  simp only [advance, ← hplan, hrevision, ne_eq, not_true_eq_false, or_self, raiseIf_false,
    ok_bind, hlatest, if_false, bind_eq_ok, orRaise_eq_ok, insertObserved_eq_some,
    insertCheckpoint_eq_some, pure_eq_ok]
  constructor
  · rintro ⟨observed, ⟨hobserved, rfl⟩, moved, ⟨howner, hfresh, rfl⟩, rfl⟩
    exact ⟨⟨howner, hfresh, fun row hrow => (hobserved row hrow).2⟩, rfl⟩
  · rintro ⟨⟨howner, hfresh, hobserved⟩, rfl⟩
    exact ⟨_, ⟨fun row hrow => ⟨howner, hobserved row hrow⟩, rfl⟩, _,
      ⟨howner, hfresh, rfl⟩, rfl⟩

/-- A transaction that follows the latest checkpoint and clashes with a row. -/
theorem advance_rejected (hlatest : store.latest previous.planId = .ok previous)
    (hplan : checkpoint.planId = previous.planId)
    (hrevision : checkpoint.revision = previous.revision + 1)
    (hclash : ¬store.Accepts checkpoint observation) :
    store.advance previous checkpoint observation =
      .error (.storeRejected "Source Hunt checkpoint transaction was rejected") := by
  cases h : store.advance previous checkpoint observation with
  | ok result => exact absurd ((advance_eq_ok hlatest hplan hrevision).1 h).1 hclash
  | error e =>
    rw [← hplan] at hlatest
    simp only [advance, ← hplan, hrevision, ne_eq, not_true_eq_false, or_self, raiseIf_false,
      ok_bind, hlatest, if_false, bind_eq_error, orRaise_eq_error, orRaise_eq_ok,
      pure_ne_error, and_false, exists_false, or_false] at h
    obtain ⟨-, rfl⟩ | ⟨_, -, -, rfl⟩ := h <;> rfl

end SourceHuntStore

end VulnLoom

import VulnLoom.SourceHuntService
import VulnLoom.Lockstep

/-!
# Investigations that share a store

The calls of the Source Hunt service on one store. `HuntStep` says once what a call that
returns can do : `huntExec_ok`.
-/

set_option linter.unusedSectionVars false

namespace VulnLoom

variable [SourceHuntDigests] [PythonUnicode]

/-! ## Calls -/

inductive HuntCall
  | start (index : RepositoryIndex) (scope : Scope) (limits : SourceHuntLimits)
    (now deadline : Time) (idempotencyKey : String) (seedSignalIds : List Digest)
  | query (plan : InvestigationPlan) (index : RepositoryIndex)
    (checkpoint : InvestigationCheckpoint) (query : InvestigationQuery) (scope : Scope)
    (now : Time) (sourceReader : Option SourceContextReader)
  | complete (plan : InvestigationPlan) (index : RepositoryIndex)
    (checkpoint : InvestigationCheckpoint) (conclusionDigest : Digest) (scope : Scope)
    (now : Time)
  | cancel (plan : InvestigationPlan) (index : RepositoryIndex)
    (checkpoint : InvestigationCheckpoint) (scope : Scope) (now : Time)
  | expire (plan : InvestigationPlan) (checkpoint : InvestigationCheckpoint) (now : Time)

/-- What a call returns. -/
inductive HuntResult
  | started (plan : InvestigationPlan) (checkpoint : InvestigationCheckpoint)
  | answered (checkpoint : InvestigationCheckpoint) (observation : InvestigationObservation)
  | moved (checkpoint : InvestigationCheckpoint)
  deriving DecidableEq

/-- The plan a call is made for, by its idempotency key. -/
def HuntCall.key : HuntCall → String
  | .start _ _ _ _ _ idempotencyKey _ => idempotencyKey
  | .query plan _ _ _ _ _ _ => plan.idempotencyKey
  | .complete plan _ _ _ _ _ => plan.idempotencyKey
  | .cancel plan _ _ _ _ => plan.idempotencyKey
  | .expire plan _ _ => plan.idempotencyKey

def huntExec (store : SourceHuntStore) :
    HuntCall → Except SourceHuntError (SourceHuntStore × HuntResult)
  | .start index scope limits now deadline idempotencyKey seedSignalIds => do
    let (moved, plan, checkpoint) ←
      startHunt store index scope limits now deadline idempotencyKey seedSignalIds
    return (moved, .started plan checkpoint)
  | .query plan index checkpoint query scope now sourceReader => do
    let (moved, stored, observation) ←
      huntQuery store plan index checkpoint query scope now sourceReader
    return (moved, .answered stored observation)
  | .complete plan index checkpoint conclusionDigest scope now => do
    let (moved, stored) ← completeHunt store plan index checkpoint conclusionDigest scope now
    return (moved, .moved stored)
  | .cancel plan index checkpoint scope now => do
    let (moved, stored) ← cancelHunt store plan index checkpoint scope now
    return (moved, .moved stored)
  | .expire plan checkpoint now => do
    let (moved, stored) ← expireHunt store plan checkpoint now
    return (moved, .moved stored)

namespace SourceHuntStore

/-- The observations of a plan. -/
def observedBy (store : SourceHuntStore) (planId : Digest) : List InvestigationObservationRow :=
  store.observations.filter fun row => row.planId = planId

/-- The state after a plan has started. -/
def started (store : SourceHuntStore) (index : RepositoryIndex) (plan : InvestigationPlan)
    (checkpoint : InvestigationCheckpoint) : SourceHuntStore :=
  { store.insertIndex index with
    plans := store.plans ++ [plan]
    checkpoints := store.checkpoints ++ [checkpoint] }

/-- What the tables say of the plans : their keys are distinct, every row is owned by one, and
the latest checkpoint of a plan knows its observations. -/
structure Sound (store : SourceHuntStore) : Prop where
  keys : (store.plans.map fun plan => plan.idempotencyKey).Nodup
  checkpoints_owned : ∀ c ∈ store.checkpoints, ∃ plan ∈ store.plans, plan.planId = c.planId
  observations_owned : ∀ row ∈ store.observations, ∃ plan ∈ store.plans,
    plan.planId = row.planId
  answered : ∀ row ∈ store.observations, ∀ c, store.latest row.planId = .ok c →
    row.observation.queryDigest ∈ c.queryDigests
  recorded : ∀ planId c, store.latest planId = .ok c → ∀ id ∈ c.observationIds,
    ∃ row ∈ store.observations, row.planId = planId ∧ row.observation.observationId = id

theorem sound_empty : Sound .empty where
  keys := List.nodup_nil
  checkpoints_owned := by simp [empty]
  observations_owned := by simp [empty]
  answered := by simp [empty]
  recorded := by simp [empty, latest, history, orRaise]

end SourceHuntStore

/-- What a call for the plan of the key `key` does, if it returns. -/
inductive HuntStep (store : SourceHuntStore) (key : String) :
    SourceHuntStore → HuntResult → Prop
  | restarted (plan : InvestigationPlan) (checkpoint : InvestigationCheckpoint) :
    HuntStep store key store (.started plan checkpoint)
  | replayed {plan : InvestigationPlan} {checkpoint : InvestigationCheckpoint}
    {observation : InvestigationObservation}
    (latest : store.latest plan.planId = .ok checkpoint)
    (answered : observation.queryDigest ∈ checkpoint.queryDigests) :
    HuntStep store key store (.answered checkpoint observation)
  | terminal (checkpoint : InvestigationCheckpoint) :
    HuntStep store key store (.moved checkpoint)
  | started {plan : InvestigationPlan} {checkpoint : InvestigationCheckpoint}
    (index : RepositoryIndex) (owner : plan.idempotencyKey = key)
    (new : store.planByIdempotencyKey key = none) (planId : checkpoint.planId = plan.planId)
    (queries : checkpoint.queryDigests = []) (observations : checkpoint.observationIds = []) :
    HuntStep store key (store.started index plan checkpoint) (.started plan checkpoint)
  | answered {plan : InvestigationPlan} {previous checkpoint : InvestigationCheckpoint}
    {observation : InvestigationObservation} (owner : plan.idempotencyKey = key)
    (latest : store.latest plan.planId = .ok previous)
    (fresh : observation.queryDigest ∉ previous.queryDigests)
    (planId : checkpoint.planId = plan.planId)
    (revision : checkpoint.revision = previous.revision + 1)
    (queries : checkpoint.queryDigests = previous.queryDigests ++ [observation.queryDigest])
    (observations :
      checkpoint.observationIds = previous.observationIds ++ [observation.observationId])
    (within : previous.queriesUsed < plan.limits.maxQueries ∧
      previous.observationIds.length < plan.limits.maxObservations)
    (accepts : store.Accepts checkpoint (some observation)) :
    HuntStep store key (store.advanced checkpoint (some observation))
      (.answered checkpoint observation)
  | closed {plan : InvestigationPlan} {previous checkpoint : InvestigationCheckpoint}
    (owner : plan.idempotencyKey = key) (latest : store.latest plan.planId = .ok previous)
    (planId : checkpoint.planId = plan.planId)
    (revision : checkpoint.revision = previous.revision + 1)
    (queries : checkpoint.queryDigests = previous.queryDigests)
    (observations : checkpoint.observationIds = previous.observationIds)
    (accepts : store.Accepts checkpoint none) :
    HuntStep store key (store.advanced checkpoint none) (.moved checkpoint)

/-! ## What a call does -/

section Steps

variable (hplanId : Function.Injective InvestigationPlan.planId)
  (hcheckpointId : Function.Injective InvestigationCheckpoint.checkpointId)
  {store : SourceHuntStore} {plan : InvestigationPlan} {index : RepositoryIndex}
  {checkpoint : InvestigationCheckpoint} {scope : Scope} {now : Time}

namespace SourceHuntStore

@[simp] theorem plans_insertIndex : (store.insertIndex index).plans = store.plans := by
  unfold insertIndex
  split_ifs <;> rfl

@[simp] theorem checkpoints_insertIndex :
    (store.insertIndex index).checkpoints = store.checkpoints := by
  unfold insertIndex
  split_ifs <;> rfl

theorem any_insertIndex :
    ((store.insertIndex index).indexes.any fun other => other.indexId = index.indexId) = true := by
  unfold insertIndex
  split_ifs with h
  · exact h
  · simp

theorem planByIdempotencyKey_eq_none {key : String} :
    store.planByIdempotencyKey key = none ↔ ∀ plan ∈ store.plans, plan.idempotencyKey ≠ key := by
  simp [planByIdempotencyKey]

include hplanId hcheckpointId in
/-- A plan with a new key starts. -/
theorem start_of_new (hs : store.Sound)
    (hnew : store.planByIdempotencyKey plan.idempotencyKey = none)
    (hid : checkpoint.planId = plan.planId) :
    store.start index plan checkpoint = .ok (store.started index plan checkpoint, checkpoint) := by
  have hkeys := planByIdempotencyKey_eq_none.1 hnew
  have hids : ∀ other ∈ store.plans, other.planId ≠ plan.planId := by
    intro other hother heq
    exact hkeys other hother (by rw [hplanId heq])
  have hrows : ∀ r ∈ store.checkpoints, r.planId ≠ plan.planId := by
    intro r hr heq
    obtain ⟨other, hother, howner⟩ := hs.checkpoints_owned r hr
    exact hids other hother (howner.trans heq)
  have hplans : (store.insertIndex index).insertPlan index plan =
      some { store.insertIndex index with plans := store.plans ++ [plan] } := by
    simp only [insertPlan, Option.bind_eq_bind, Option.bind_eq_some_iff, Option.guard_eq_some',
      Table.insert_eq_some, Option.pure_def, plans_insertIndex]
    refine ⟨(), any_insertIndex, _, ⟨fun other hother => ?_, rfl⟩, rfl⟩
    have h1 := hids other hother
    have h2 := hkeys other hother
    simp [huntPlanClash, h1.symm, h2.symm]
  have hcheckpoints : { store.insertIndex index with
        plans := store.plans ++ [plan] }.insertCheckpoint checkpoint =
      some (store.started index plan checkpoint) := by
    rw [insertCheckpoint_eq_some]
    refine ⟨⟨plan, by simp, hid.symm⟩, fun r hr => ?_, by simp [started]⟩
    rw [checkpoints_insertIndex] at hr
    have h1 := hrows r hr
    have h2 : checkpoint.checkpointId ≠ r.checkpointId := by
      intro heq
      exact h1 (by rw [← hcheckpointId heq, hid])
    simp [huntCheckpointClash, h2, hid, h1.symm]
  have hread : (store.insertIndex index).planByIdempotencyKey plan.idempotencyKey = none := by
    rw [planByIdempotencyKey_eq_none, plans_insertIndex]
    exact hkeys
  simp only [start, hread, hplans, orRaise, ok_bind, hcheckpoints]
  rfl

end SourceHuntStore

include hcheckpointId in
/-- A preflight is passed by the latest checkpoint of the plan. -/
theorem huntPreflight_latest {allowExpired : Bool}
    (h : huntPreflight store plan index checkpoint scope now allowExpired = .ok ()) :
    store.latest plan.planId = .ok checkpoint := by
  obtain ⟨-, -, -, current, hcurrent, hid⟩ := huntPreflight_ok h
  rw [hcurrent, hcheckpointId hid]

variable {stored : InvestigationCheckpoint} {moved : SourceHuntStore}
  {answer : Option InvestigationObservation}

include hcheckpointId in
/-- A transaction without an observation follows the latest checkpoint. -/
theorem SourceHuntStore.advance_none_ok {previous checkpoint : InvestigationCheckpoint}
    (h : store.advance previous checkpoint none = .ok (moved, stored, answer)) :
    store.latest previous.planId = .ok previous ∧ checkpoint.planId = previous.planId ∧
      checkpoint.revision = previous.revision + 1 ∧ store.Accepts checkpoint none ∧
      moved = store.advanced checkpoint none ∧ stored = checkpoint := by
  have hadvance := h
  simp only [advance, bind_eq_ok, raiseIf_eq_ok, not_or, not_not] at h
  obtain ⟨-, ⟨hplan, hrevision⟩, current, hcurrent, h⟩ := h
  have hid : current = previous := by
    split_ifs at h with hstale
    · simp [replayStale] at h
    · exact hcheckpointId (not_not.1 hstale)
  subst hid
  obtain ⟨haccepts, heq⟩ := (advance_eq_ok hcurrent hplan hrevision).1 hadvance
  cases heq
  exact ⟨hcurrent, hplan, hrevision, haccepts, rfl, rfl⟩

include hcheckpointId in
/-- The end of an investigation. -/
theorem HuntStep.of_close {advanced : InvestigationCheckpoint} {indexId : Digest}
    {status : InvestigationStatus} {conclusion : Option Digest} {reason : String}
    (hvalues : advanced.toInvestigationCheckpointValues =
      closedValues plan indexId checkpoint status conclusion reason now)
    (h : store.advance checkpoint advanced none = .ok (moved, stored, answer)) :
    HuntStep store plan.idempotencyKey moved (.moved stored) := by
  obtain ⟨hlatest, hid, hrevision, haccepts, rfl, rfl⟩ :=
    SourceHuntStore.advance_none_ok hcheckpointId h
  have hplan : stored.planId = plan.planId := by simp [hvalues, closedValues]
  rw [← hid, hplan] at hlatest
  exact .closed rfl hlatest hplan hrevision (by simp [hvalues, closedValues])
    (by simp [hvalues, closedValues]) haccepts

include hplanId hcheckpointId in
theorem HuntStep.of_start {limits : SourceHuntLimits} {deadline : Time} {key : String}
    {seeds : List Digest} (hs : store.Sound)
    (h : startHunt store index scope limits now deadline key seeds =
      .ok (moved, plan, checkpoint)) : HuntStep store key moved (.started plan checkpoint) := by
  simp only [startHunt, bind_eq_ok] at h
  obtain ⟨-, -, h⟩ := h
  split at h
  · simp only [bind_eq_ok, pure_eq_ok, Prod.mk.injEq] at h
    obtain ⟨-, -, current, -, rfl, rfl, rfl⟩ := h
    exact .restarted _ _
  next hnew =>
    simp only [bind_eq_ok, pure_eq_ok, Prod.mk.injEq, Prod.exists,
      InvestigationPlan.create_eq_ok, InvestigationCheckpoint.create_eq_ok] at h
    obtain ⟨made, hplan, first, hfirst, started, stored, hstart, rfl, rfl, rfl⟩ := h
    have hkey : made.idempotencyKey = key := by simp [hplan]
    have hid : first.planId = made.planId := by simp [hfirst]
    rw [SourceHuntStore.start_of_new hplanId hcheckpointId hs (by rw [hkey, hnew]) hid] at hstart
    cases hstart
    exact .started index hkey hnew hid (by simp [hfirst]) (by simp [hfirst])

include hcheckpointId in
theorem HuntStep.of_query {query : InvestigationQuery} {sourceReader : Option SourceContextReader}
    {answer : InvestigationObservation}
    (h : huntQuery store plan index checkpoint query scope now sourceReader =
      .ok (moved, stored, answer)) :
    HuntStep store plan.idempotencyKey moved (.answered stored answer) := by
  have hlatest : store.latest plan.planId = .ok checkpoint := by
    have hfull := h
    simp only [huntQuery, bind_eq_ok] at hfull
    obtain ⟨⟨⟩, hpreflight, -⟩ := hfull
    exact huntPreflight_latest hcheckpointId hpreflight
  have hplan := (SourceHuntStore.latest_ok hlatest).2
  obtain ⟨-, ⟨hmem, rfl, rfl, hdigest⟩ | ⟨hfresh, hanswer⟩⟩ := huntQuery_ok hlatest h
  · exact .replayed hlatest (by rwa [hdigest])
  · obtain ⟨hqueries, hobservations, observation, advanced, hobservation, hvalues, haccepts,
      heq⟩ := (answerQuery_eq_ok hlatest hplan).1 hanswer
    cases heq
    rw [← huntObservation_queryDigest hobservation] at hfresh
    exact .answered rfl hlatest hfresh (by simp [hvalues, queriedValues])
      (by simp [hvalues, queriedValues]) (by simp [hvalues, queriedValues])
      (by simp [hvalues, queriedValues]) ⟨hqueries, hobservations⟩ haccepts

include hplanId hcheckpointId in
/-- What a call does, if it returns. -/
theorem huntExec_ok {call : HuntCall} {result : HuntResult} (hs : store.Sound)
    (h : huntExec store call = .ok (moved, result)) : HuntStep store call.key moved result := by
  cases call with
  | start index scope limits now deadline key seeds =>
    simp only [huntExec, bind_eq_ok, pure_eq_ok, Prod.mk.injEq, Prod.exists] at h
    obtain ⟨_, _, _, h, rfl, rfl⟩ := h
    exact .of_start hplanId hcheckpointId hs h
  | query plan index checkpoint query scope now sourceReader =>
    simp only [huntExec, bind_eq_ok, pure_eq_ok, Prod.mk.injEq, Prod.exists] at h
    obtain ⟨_, _, _, h, rfl, rfl⟩ := h
    exact .of_query hcheckpointId h
  | complete plan index checkpoint conclusion scope now =>
    simp only [huntExec, completeHunt, bind_eq_ok, pure_eq_ok, Prod.mk.injEq, Prod.exists,
      InvestigationCheckpoint.create_eq_ok] at h
    obtain ⟨_, _, ⟨-, -, -, -, advanced, hvalues, _, _, _, h, rfl, rfl⟩, rfl, rfl⟩ := h
    exact .of_close hcheckpointId hvalues h
  | cancel plan index checkpoint scope now =>
    simp only [huntExec, cancelHunt, bind_eq_ok, pure_eq_ok, Prod.mk.injEq, Prod.exists,
      InvestigationCheckpoint.create_eq_ok] at h
    obtain ⟨_, _, ⟨-, -, advanced, hvalues, _, _, _, h, rfl, rfl⟩, rfl, rfl⟩ := h
    exact .of_close hcheckpointId hvalues h
  | expire plan checkpoint now =>
    simp only [huntExec, expireHunt, bind_eq_ok, pure_eq_ok, Prod.mk.injEq, Prod.exists] at h
    obtain ⟨_, _, ⟨-, -, h⟩, rfl, rfl⟩ := h
    split_ifs at h
    · simp only [pure_eq_ok, Prod.mk.injEq] at h
      obtain ⟨rfl, rfl⟩ := h
      exact .terminal _
    · simp only [bind_eq_ok, pure_eq_ok, Prod.mk.injEq, Prod.exists,
        InvestigationCheckpoint.create_eq_ok] at h
      obtain ⟨advanced, hvalues, _, _, _, h, rfl, rfl⟩ := h
      exact .of_close hcheckpointId hvalues h

end Steps

namespace SourceHuntStore

variable {store : SourceHuntStore} {plan : InvestigationPlan} {index : RepositoryIndex}
  {checkpoint previous : InvestigationCheckpoint} {observation : Option InvestigationObservation}

/-! ## Rows of other plans -/

variable {planId : Digest}

theorem history_advanced_of_ne (h : checkpoint.planId ≠ planId) :
    (store.advanced checkpoint observation).history planId = store.history planId := by
  simp [history, advanced, List.filter_append, h]

theorem history_started_of_ne (h : checkpoint.planId ≠ planId) :
    (store.started index plan checkpoint).history planId = store.history planId := by
  simp [history, started, List.filter_append, h]

theorem observedBy_advanced_of_ne (h : checkpoint.planId ≠ planId) :
    (store.advanced checkpoint observation).observedBy planId = store.observedBy planId := by
  have hrows : (observedRows checkpoint.planId observation).filter
      (fun row => row.planId = planId) = [] := by
    cases observation <;> simp [observedRows, h]
  simp [observedBy, advanced, List.filter_append, hrows]

@[simp] theorem observations_started :
    (store.started index plan checkpoint).observations = store.observations := by
  unfold started insertIndex
  split_ifs <;> rfl

theorem latest_congr {s t : SourceHuntStore} (h : s.history planId = t.history planId) :
    s.latest planId = t.latest planId := by
  simp only [latest, h]

/-! ## The tables stay sound -/

/-- A stored plan, by its identifier. -/
theorem Sound.plan_mem (hplanId : Function.Injective InvestigationPlan.planId)
    (hs : store.Sound) (hlatest : store.latest plan.planId = .ok previous) :
    plan ∈ store.plans := by
  obtain ⟨hmem, hid⟩ := latest_ok hlatest
  obtain ⟨owner, howner, heq⟩ := hs.checkpoints_owned previous hmem
  rwa [← hplanId (heq.trans hid)]

theorem Sound.started (hplanId : Function.Injective InvestigationPlan.planId) (hs : store.Sound)
    (hnew : store.planByIdempotencyKey plan.idempotencyKey = none)
    (hid : checkpoint.planId = plan.planId) (hqueries : checkpoint.observationIds = []) :
    (store.started index plan checkpoint).Sound := by
  have hkeys := planByIdempotencyKey_eq_none.1 hnew
  have hids : ∀ other ∈ store.plans, other.planId ≠ plan.planId := by
    intro other hother heq
    exact hkeys other hother (by rw [hplanId heq])
  refine ⟨?_, ?_, ?_, ?_, ?_⟩
  · exact Table.nodup_key_concat hs.keys fun other hother => (hkeys other hother).symm
  · intro c hc
    rcases List.mem_append.1 hc with hc | hc
    · obtain ⟨owner, howner, heq⟩ := hs.checkpoints_owned c hc
      exact ⟨owner, List.mem_append_left _ howner, heq⟩
    · rw [List.mem_singleton.1 hc]
      exact ⟨plan, List.mem_append_right _ (List.mem_singleton_self _), hid.symm⟩
  · intro row hrow
    rw [observations_started] at hrow
    obtain ⟨owner, howner, heq⟩ := hs.observations_owned row hrow
    exact ⟨owner, List.mem_append_left _ howner, heq⟩
  · intro row hrow c hc
    rw [observations_started] at hrow
    obtain ⟨owner, howner, heq⟩ := hs.observations_owned row hrow
    have hne : checkpoint.planId ≠ row.planId := by
      rw [hid, ← heq]
      exact (hids owner howner).symm
    rw [latest_congr (history_started_of_ne hne)] at hc
    exact hs.answered row hrow c hc
  · intro planId c hc id hmem
    rw [observations_started]
    by_cases hplan : checkpoint.planId = planId
    · -- the plan has no other checkpoint
      obtain ⟨hc, hcid⟩ := latest_ok hc
      rcases List.mem_append.1 hc with hc | hc
      · obtain ⟨owner, howner, heq⟩ := hs.checkpoints_owned c hc
        exact absurd (heq.trans (hcid.trans (hplan.symm.trans hid))) (hids owner howner)
      · rw [List.mem_singleton.1 hc, hqueries] at hmem
        cases hmem
    · rw [latest_congr (history_started_of_ne hplan)] at hc
      exact hs.recorded planId c hc id hmem

theorem Sound.advanced (hs : store.Sound) (hlatest : store.latest plan.planId = .ok previous)
    (hid : checkpoint.planId = plan.planId)
    (hrevision : checkpoint.revision = previous.revision + 1)
    (haccepts : store.Accepts checkpoint observation)
    (hqueries : checkpoint.queryDigests =
      previous.queryDigests ++ (observation.map (·.queryDigest)).toList)
    (hobservations : checkpoint.observationIds =
      previous.observationIds ++ (observation.map (·.observationId)).toList) :
    (store.advanced checkpoint observation).Sound := by
  have hprevious := (latest_ok hlatest).2
  have hnext : (store.advanced checkpoint observation).latest plan.planId = .ok checkpoint := by
    rw [← hprevious] at hlatest hid ⊢
    exact latest_concat hlatest hid hrevision rfl
  refine ⟨hs.keys, ?_, ?_, ?_, ?_⟩
  · intro c hc
    rcases List.mem_append.1 hc with hc | hc
    · exact hs.checkpoints_owned c hc
    · rw [List.mem_singleton.1 hc]
      exact haccepts.owned
  · intro row hrow
    rcases List.mem_append.1 hrow with hrow | hrow
    · exact hs.observations_owned row hrow
    · cases observation with
      | none => cases hrow
      | some answer =>
        rw [List.mem_singleton.1 hrow]
        exact haccepts.owned
  · intro row hrow c hc
    by_cases hplan : row.planId = plan.planId
    · rw [hplan, hnext] at hc
      cases hc
      rw [hqueries, List.mem_append]
      rcases List.mem_append.1 hrow with hrow | hrow
      · exact Or.inl (hs.answered row hrow previous (by rw [hplan, hlatest]))
      · cases observation with
        | none => cases hrow
        | some answer =>
          rw [List.mem_singleton.1 hrow]
          exact Or.inr (List.mem_singleton_self _)
    · have hne : checkpoint.planId ≠ row.planId := by
        rw [hid]
        exact fun h => hplan h.symm
      rw [latest_congr (history_advanced_of_ne hne)] at hc
      rcases List.mem_append.1 hrow with hrow | hrow
      · exact hs.answered row hrow c hc
      · cases observation with
        | none => cases hrow
        | some answer =>
          rw [List.mem_singleton.1 hrow] at hne
          exact absurd rfl hne
  · intro planId c hc id hmem
    by_cases hplan : plan.planId = planId
    · subst hplan
      rw [hnext] at hc
      cases hc
      rw [hobservations, List.mem_append] at hmem
      rcases hmem with hmem | hmem
      · obtain ⟨row, hrow, hrowId⟩ := hs.recorded plan.planId previous hlatest id hmem
        exact ⟨row, List.mem_append_left _ hrow, hrowId⟩
      · cases observation with
        | none => cases hmem
        | some answer =>
          refine ⟨⟨checkpoint.planId, answer⟩,
            List.mem_append_right _ (List.mem_singleton_self _), hid, ?_⟩
          exact (List.mem_singleton.1 hmem).symm
    · rw [latest_congr (history_advanced_of_ne (by rwa [hid]))] at hc
      obtain ⟨row, hrow, hrowId⟩ := hs.recorded planId c hc id hmem
      exact ⟨row, List.mem_append_left _ hrow, hrowId⟩

end SourceHuntStore

theorem SourceHuntStore.Sound.step (hplanId : Function.Injective InvestigationPlan.planId)
    {store moved : SourceHuntStore} {key : String} {result : HuntResult} (hs : store.Sound)
    (h : HuntStep store key moved result) : moved.Sound := by
  cases h with
  | restarted | replayed | terminal => exact hs
  | started index owner new planId queries observations =>
    exact hs.started hplanId (by rw [owner, new]) planId observations
  | answered owner latest fresh planId revision queries observations within accepts =>
    exact hs.advanced latest planId revision accepts queries observations
  | closed owner latest planId revision queries observations accepts =>
    exact hs.advanced latest planId revision accepts (by simp [queries]) (by simp [observations])

end VulnLoom

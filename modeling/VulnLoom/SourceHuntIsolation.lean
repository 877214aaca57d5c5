import VulnLoom.SourceHuntCounts
import VulnLoom.SourceHuntText

/-!
# Isolation of investigations

Each plan is compared with its own calls on a store of its own (`results_eq_iff`). The tables
are per plan but for the column `observation_id`, and an observation does not name its plan :
a fresh answer whose observation another plan has stored is rejected (`Crosses`).
-/

set_option linter.unusedSectionVars false

namespace VulnLoom

open Transition

section

variable [SourceHuntDigests] [PythonUnicode]

/-! ## A plan among others, and alone -/

/-- The two stores agree on the rows of the plan of the key `key`. -/
structure Agrees (key : String) (s t : SourceHuntStore) : Prop where
  plans : (s.plans.filter fun plan => plan.idempotencyKey = key) =
    t.plans.filter fun plan => plan.idempotencyKey = key
  history : ∀ plan : InvestigationPlan, plan.idempotencyKey = key →
    s.history plan.planId = t.history plan.planId
  observed : ∀ plan : InvestigationPlan, plan.idempotencyKey = key →
    s.observedBy plan.planId = t.observedBy plan.planId

/-- A shared store, and one that holds the plan of the key `key` only. -/
structure Alone (key : String) (s t : SourceHuntStore) : Prop extends Agrees key s t where
  shared : s.Sound
  own : t.Sound
  mine : ∀ plan ∈ t.plans, plan.idempotencyKey = key

/-- The call is a query that a fresh answer awaits, and another plan has stored an observation
of the identifier of that answer. -/
def Crosses (store : SourceHuntStore) : HuntCall → Prop
  | .query plan index checkpoint query scope now sourceReader =>
    huntPreflight store plan index checkpoint scope now false = .ok () ∧
      query.queryDigest ∉ checkpoint.queryDigests ∧
      checkpoint.queriesUsed < plan.limits.maxQueries ∧
      checkpoint.observationIds.length < plan.limits.maxObservations ∧
      ∃ answer, huntObservation index query sourceReader = .ok answer ∧
        ∃ row ∈ store.observations, row.planId ≠ plan.planId ∧
          row.observation.observationId = answer.observationId
  | _ => False

namespace Agrees

variable {key : String} {s t : SourceHuntStore} {plan : InvestigationPlan}

theorem latest (h : Agrees key s t) (hkey : plan.idempotencyKey = key) :
    s.latest plan.planId = t.latest plan.planId :=
  SourceHuntStore.latest_congr (h.history plan hkey)

theorem planByIdempotencyKey (h : Agrees key s t) :
    s.planByIdempotencyKey key = t.planByIdempotencyKey key := by
  have hread : ∀ store : SourceHuntStore, store.planByIdempotencyKey key =
      (store.plans.filter fun plan => plan.idempotencyKey = key).head? := by
    intro store
    rw [List.head?_filter]
    rfl
  rw [hread, hread, h.plans]

theorem observation (h : Agrees key s t) (hkey : plan.idempotencyKey = key)
    (queryDigest : Digest) :
    s.observation plan.planId queryDigest = t.observation plan.planId queryDigest := by
  have hread : ∀ store : SourceHuntStore, (store.observations.find? fun row =>
      row.planId = plan.planId ∧ row.observation.queryDigest = queryDigest) =
        (store.observedBy plan.planId).find? fun row =>
          row.observation.queryDigest = queryDigest := by
    intro store
    rw [SourceHuntStore.observedBy, List.find?_filter]
    simp only [Bool.decide_and, Bool.decide_eq_true]
  simp only [SourceHuntStore.observation, hread, h.observed plan hkey]

theorem plan_mem (h : Agrees key s t) (hkey : plan.idempotencyKey = key) :
    plan ∈ s.plans ↔ plan ∈ t.plans := by
  have hread : ∀ store : SourceHuntStore, plan ∈ store.plans ↔
      plan ∈ store.plans.filter fun plan => plan.idempotencyKey = key := by
    intro store
    simp [hkey]
  rw [hread s, hread t, h.plans]

theorem preflight (h : Agrees key s t) (hkey : plan.idempotencyKey = key)
    (index : RepositoryIndex) (checkpoint : InvestigationCheckpoint) (scope : Scope) (now : Time)
    (allowExpired : Bool) :
    huntPreflight s plan index checkpoint scope now allowExpired =
      huntPreflight t plan index checkpoint scope now allowExpired := by
  simp only [huntPreflight, h.latest hkey]

theorem started (h : Agrees key s t) (index : RepositoryIndex)
    (checkpoint : InvestigationCheckpoint) :
    Agrees key (s.started index plan checkpoint) (t.started index plan checkpoint) where
  plans := by simp [SourceHuntStore.started, List.filter_append, h.plans]
  history other hother := by
    have := h.history other hother
    simp only [SourceHuntStore.history] at this
    simp [SourceHuntStore.history, SourceHuntStore.started, List.filter_append, this]
  observed other hother := by
    have := h.observed other hother
    simpa [SourceHuntStore.observedBy] using this

theorem advanced (h : Agrees key s t) (checkpoint : InvestigationCheckpoint)
    (observation : Option InvestigationObservation) :
    Agrees key (s.advanced checkpoint observation) (t.advanced checkpoint observation) where
  plans := h.plans
  history other hother := by
    have := h.history other hother
    simp only [SourceHuntStore.history] at this
    simp [SourceHuntStore.history, SourceHuntStore.advanced, List.filter_append, this]
  observed other hother := by
    have := h.observed other hother
    simp only [SourceHuntStore.observedBy] at this
    simp [SourceHuntStore.observedBy, SourceHuntStore.advanced, List.filter_append, this]

end Agrees

theorem Agrees.advanced_other {key : String} {s t : SourceHuntStore}
    {checkpoint : InvestigationCheckpoint} {observation : Option InvestigationObservation}
    (h : Agrees key s t)
    (hne : ∀ plan : InvestigationPlan, plan.idempotencyKey = key →
      checkpoint.planId ≠ plan.planId) :
    Agrees key (s.advanced checkpoint observation) t where
  plans := h.plans
  history plan hplan := by
    rw [← h.history plan hplan, SourceHuntStore.history_advanced_of_ne (hne plan hplan)]
  observed plan hplan := by
    rw [← h.observed plan hplan, SourceHuntStore.observedBy_advanced_of_ne (hne plan hplan)]

section Steps

variable (hplanId : Function.Injective InvestigationPlan.planId)
  (hcheckpointId : Function.Injective InvestigationCheckpoint.checkpointId)
  (hobservationId : Function.Injective InvestigationObservation.observationId)
  {key : String} {s t : SourceHuntStore} {plan : InvestigationPlan}

include hplanId in
/-- A call for another plan leaves the rows of this one alone. -/
theorem Agrees.other {moved : SourceHuntStore} {other : String} {result : HuntResult}
    (h : Agrees key s t) (hstep : HuntStep s other moved result) (hother : other ≠ key) :
    Agrees key moved t := by
  have hids : ∀ {plan : InvestigationPlan} {checkpoint : InvestigationCheckpoint},
      plan.idempotencyKey = other → checkpoint.planId = plan.planId →
        ∀ plan' : InvestigationPlan, plan'.idempotencyKey = key →
          checkpoint.planId ≠ plan'.planId := by
    rintro plan checkpoint rfl hid plan' rfl heq
    exact hother (by rw [hplanId (hid.symm.trans heq)])
  cases hstep with
  | restarted | replayed | terminal => exact h
  | started index owner new planId queries observations =>
    refine ⟨?_, fun plan' hplan' => ?_, fun plan' hplan' => ?_⟩
    · rw [← h.plans]
      simp [SourceHuntStore.started, List.filter_append, owner, hother]
    · rw [← h.history plan' hplan',
        SourceHuntStore.history_started_of_ne (hids owner planId plan' hplan')]
    · rw [← h.observed plan' hplan']
      simp [SourceHuntStore.observedBy]
  | answered owner latest fresh planId revision queries observations within accepts =>
    exact h.advanced_other (hids owner planId)
  | closed owner latest planId revision queries observations accepts =>
    exact h.advanced_other (hids owner planId)

include hplanId in
/-- In a store of its own every row is the plan's. -/
theorem Alone.row_mine (h : Alone key s t) (hkey : plan.idempotencyKey = key)
    (hplan : plan ∈ t.plans) {row : InvestigationObservationRow} (hrow : row ∈ t.observations) :
    row.planId = plan.planId := by
  obtain ⟨owner, howner, heq⟩ := h.own.observations_owned row hrow
  have hsame : owner = plan :=
    Table.eq_of_key h.own.keys howner hplan ((h.mine owner howner).trans hkey.symm)
  rw [← heq, hsame]

variable {checkpoint : InvestigationCheckpoint} {store : SourceHuntStore}

include hplanId hcheckpointId in
/-- Where no other plan has stored the observation, the keys of the tables look at the rows of
the plan only. -/
theorem SourceHuntStore.accepts_iff {observation : Option InvestigationObservation}
    (hid : checkpoint.planId = plan.planId)
    (hfree : ∀ answer ∈ observation, ∀ row ∈ store.observations, row.planId ≠ plan.planId →
      row.observation.observationId ≠ answer.observationId) :
    store.Accepts checkpoint observation ↔ plan ∈ store.plans ∧
      (∀ r ∈ store.history plan.planId, huntCheckpointClash checkpoint r = false) ∧
      ∀ row ∈ observedRows plan.planId observation,
        ∀ r ∈ store.observedBy plan.planId, huntObservationClash row r = false := by
  constructor
  · rintro ⟨⟨owner, howner, heq⟩, hcheckpoint, hobservation⟩
    rw [hid] at heq hobservation
    refine ⟨by rwa [← hplanId heq], fun r hr => ?_, fun row hrow r hr => ?_⟩
    · exact hcheckpoint r (mem_history.1 hr).1
    · exact hobservation row hrow r (List.mem_of_mem_filter hr)
  · rintro ⟨hplan, hcheckpoint, hobservation⟩
    refine ⟨⟨plan, hplan, hid.symm⟩, fun r hr => ?_, fun row hrow r hr => ?_⟩
    · by_cases hmine : r.planId = plan.planId
      · exact hcheckpoint r (mem_history.2 ⟨hr, hmine⟩)
      · have hne : checkpoint.checkpointId ≠ r.checkpointId := by
          intro heq
          exact hmine (by rw [← hcheckpointId heq, hid])
        have hne' : checkpoint.planId ≠ r.planId := by
          rw [hid]
          exact fun heq => hmine heq.symm
        simp [huntCheckpointClash, hne, hne']
    · rw [hid] at hrow
      by_cases hmine : r.planId = plan.planId
      · exact hobservation row hrow r (List.mem_filter.2 ⟨hr, by simpa using hmine⟩)
      · cases observation with
        | none => cases hrow
        | some answer =>
          have hother := hfree answer rfl r hr hmine
          rw [List.mem_singleton.1 hrow]
          have hne : plan.planId ≠ r.planId := fun heq => hmine heq.symm
          simp [huntObservationClash, hne, hother.symm]

include hplanId hcheckpointId in
/-- The keys of the tables ask the same of a transaction of the plan in both stores. -/
theorem Alone.accepts_iff {observation : Option InvestigationObservation} (h : Alone key s t)
    (hkey : plan.idempotencyKey = key) (hid : checkpoint.planId = plan.planId)
    (hfree : ∀ answer ∈ observation, ∀ row ∈ s.observations, row.planId ≠ plan.planId →
      row.observation.observationId ≠ answer.observationId) :
    s.Accepts checkpoint observation ↔ t.Accepts checkpoint observation := by
  rw [SourceHuntStore.accepts_iff hplanId hcheckpointId hid hfree, h.plan_mem hkey,
    h.history plan hkey, h.observed plan hkey]
  by_cases hplan : plan ∈ t.plans
  · have hmine : ∀ answer ∈ observation, ∀ row ∈ t.observations, row.planId ≠ plan.planId →
        row.observation.observationId ≠ answer.observationId := by
      intro answer _ row hrow hne
      exact absurd (h.row_mine hplanId hkey hplan hrow) hne
    rw [SourceHuntStore.accepts_iff hplanId hcheckpointId hid hmine]
  · refine ⟨fun haccepts => absurd haccepts.1 hplan, fun haccepts => ?_⟩
    obtain ⟨owner, howner, heq⟩ := haccepts.owned
    rw [hplanId (heq.trans hid)] at howner
    exact absurd howner hplan

include hplanId hcheckpointId in
/-- A checkpoint transaction of the plan goes alike in both stores. -/
theorem Alone.advance {previous : InvestigationCheckpoint}
    {observation : Option InvestigationObservation} (h : Alone key s t)
    (hkey : plan.idempotencyKey = key) (hid : checkpoint.planId = plan.planId)
    (hfree : ∀ answer ∈ observation, ∀ row ∈ s.observations, row.planId ≠ plan.planId →
      row.observation.observationId ≠ answer.observationId) :
    Lockstep (Agrees key) (s.advance previous checkpoint observation)
      (t.advance previous checkpoint observation) := by
  by_cases hsequence : checkpoint.planId = previous.planId ∧
      checkpoint.revision = previous.revision + 1
  · obtain ⟨hplan, hrevision⟩ := hsequence
    have hlatest : s.latest previous.planId = t.latest previous.planId := by
      rw [← hplan, hid, h.latest hkey]
    by_cases hcurrent : s.latest previous.planId = .ok previous
    · have hcurrent' := hcurrent
      rw [hlatest] at hcurrent'
      have hiff := h.accepts_iff hplanId hcheckpointId hkey hid hfree
      by_cases haccepts : s.Accepts checkpoint observation
      · rw [(SourceHuntStore.advance_eq_ok hcurrent hplan hrevision).2 ⟨haccepts, rfl⟩,
          (SourceHuntStore.advance_eq_ok hcurrent' hplan hrevision).2 ⟨hiff.1 haccepts, rfl⟩]
        exact .returned _ (h.advanced checkpoint observation)
      · rw [SourceHuntStore.advance_rejected hcurrent hplan hrevision haccepts,
          SourceHuntStore.advance_rejected hcurrent' hplan hrevision fun h => haccepts (hiff.2 h)]
        exact .raised _
    · -- another checkpoint is the latest : the stored observation is compared
      simp only [SourceHuntStore.advance, ← hlatest]
      refine .bind_left fun _ _ => .bind_left fun current hread => ?_
      have hstale : current.checkpointId ≠ previous.checkpointId := by
        intro heq
        rw [hcheckpointId heq] at hread
        exact hcurrent hread
      rw [if_pos hstale, if_pos hstale]
      have hreplay : s.replayStale current previous.planId observation =
          t.replayStale current previous.planId observation := by
        cases observation with
        | none => rfl
        | some answer =>
          simp only [SourceHuntStore.replayStale, ← hplan, hid, h.observation hkey]
      rw [hreplay]
      exact .bind_left fun replayed _ => .returned replayed h.toAgrees
  · have hraise : checkpoint.planId ≠ previous.planId ∨
        checkpoint.revision ≠ previous.revision + 1 := by
      by_contra hcon
      exact hsequence (by simpa [not_or] using hcon)
    simp only [SourceHuntStore.advance, raiseIf, hraise, if_true]
    exact .raised _

variable {now : Time}

include hplanId hcheckpointId in
/-- The end of the plan's investigation goes alike in both stores. -/
theorem Alone.close {indexId : Digest} {status : InvestigationStatus} {conclusion : Option Digest}
    {reason : String} (h : Alone plan.idempotencyKey s t) : Lockstep (Agrees plan.idempotencyKey)
      (do
        let advanced ← InvestigationCheckpoint.create
          (closedValues plan indexId checkpoint status conclusion reason now)
        let (moved, stored, _) ← s.advance checkpoint advanced none
        return (moved, stored))
      (do
        let advanced ← InvestigationCheckpoint.create
          (closedValues plan indexId checkpoint status conclusion reason now)
        let (moved, stored, _) ← t.advance checkpoint advanced none
        return (moved, stored)) := by
  refine .bind_left fun advanced hvalues => ?_
  rw [InvestigationCheckpoint.create_eq_ok] at hvalues
  have hid : advanced.planId = plan.planId := by simp [hvalues, closedValues]
  refine .bind (h.advance hplanId hcheckpointId rfl hid (by simp)) ?_
  rintro s' t' ⟨stored, _⟩ hst
  exact .returned stored hst

variable {index : RepositoryIndex}

include hplanId hcheckpointId in
/-- A start goes alike in both stores. -/
theorem Alone.start {scope : Scope} {limits : SourceHuntLimits} {deadline : Time}
    {seeds : List Digest} (h : Alone key s t) :
    Lockstep (Agrees key) (startHunt s index scope limits now deadline key seeds)
      (startHunt t index scope limits now deadline key seeds) := by
  simp only [startHunt, h.planByIdempotencyKey]
  refine .bind_left fun _ _ => ?_
  split
  next existing hexisting =>
    have hkey : existing.idempotencyKey = key := by simpa using List.find?_some hexisting
    rw [h.latest hkey]
    exact .bind_left fun _ _ => .bind_left fun current _ =>
      .returned (existing, current) h.toAgrees
  next hnew =>
    refine .bind_left fun plan hplan => .bind_left fun first hfirst => ?_
    rw [InvestigationPlan.create_eq_ok] at hplan
    rw [InvestigationCheckpoint.create_eq_ok] at hfirst
    have hkey : plan.idempotencyKey = key := by simp [hplan]
    have hid : first.planId = plan.planId := by simp [hfirst]
    have hnew' := hnew
    rw [← h.planByIdempotencyKey, ← hkey] at hnew'
    rw [← hkey] at hnew
    rw [SourceHuntStore.start_of_new hplanId hcheckpointId h.shared hnew' hid,
      SourceHuntStore.start_of_new hplanId hcheckpointId h.own hnew hid]
    exact .returned (plan, first) (h.started index first)

variable {sourceReader : Option SourceContextReader}

include hplanId hcheckpointId in
/-- A query that crosses no other plan goes alike in both stores. -/
theorem Alone.query {query : InvestigationQuery} {scope : Scope}
    (h : Alone plan.idempotencyKey s t)
    (hfree : ¬Crosses s (.query plan index checkpoint query scope now sourceReader)) :
    Lockstep (Agrees plan.idempotencyKey)
      (huntQuery s plan index checkpoint query scope now sourceReader)
      (huntQuery t plan index checkpoint query scope now sourceReader) := by
  have hpreflights := h.preflight rfl index checkpoint scope now false
  simp only [huntQuery, ← hpreflights, h.latest rfl, h.observation rfl]
  refine .bind_left fun _ hpreflight => ?_
  split_ifs with hmem
  · exact .bind_left fun current _ => .bind_left fun answer _ =>
      .returned (current, answer) h.toAgrees
  · refine .bind_left fun _ hqueries => .bind_left fun _ hobservations =>
      .bind_left fun answer hanswer => .bind_left fun advanced hvalues => ?_
    rw [InvestigationCheckpoint.create_eq_ok] at hvalues
    rw [raiseIf_eq_ok, not_le] at hqueries hobservations
    have hid : advanced.planId = plan.planId := by simp [hvalues, queriedValues]
    have hothers : ∀ observation ∈ some answer, ∀ row ∈ s.observations,
        row.planId ≠ plan.planId →
          row.observation.observationId ≠ observation.observationId := by
      rintro _ ⟨⟩ row hrow hne heq
      exact hfree ⟨hpreflight, hmem, hqueries, hobservations, answer, hanswer, row, hrow, hne,
        heq⟩
    refine .bind (h.advance hplanId hcheckpointId rfl hid hothers) ?_
    rintro s' t' ⟨stored, observation⟩ hst
    exact .bind_left fun given _ => .returned (stored, given) hst

variable {call : HuntCall}

include hplanId hcheckpointId in
/-- A call of the plan that crosses no other plan goes alike in both stores. -/
theorem Alone.exec (h : Alone call.key s t) (hfree : ¬Crosses s call) :
    Lockstep (Agrees call.key) (huntExec s call) (huntExec t call) := by
  cases call with
  | start index scope limits now deadline key seeds =>
    refine .bind (h.start hplanId hcheckpointId) ?_
    rintro s' t' ⟨plan, checkpoint⟩ hst
    exact .returned _ hst
  | query plan index checkpoint query scope now sourceReader =>
    refine .bind (h.query hplanId hcheckpointId hfree) ?_
    rintro s' t' ⟨stored, observation⟩ hst
    exact .returned _ hst
  | complete plan index checkpoint conclusion scope now =>
    refine .bind ?_ fun s' t' stored hst => .returned (HuntResult.moved stored) hst
    have hpreflight := h.preflight rfl index checkpoint scope now false
    simp only [completeHunt, ← hpreflight]
    exact .bind_left fun _ _ => .bind_left fun _ _ => h.close hplanId hcheckpointId
  | cancel plan index checkpoint scope now =>
    refine .bind ?_ fun s' t' stored hst => .returned (HuntResult.moved stored) hst
    have hpreflight := h.preflight rfl index checkpoint scope now true
    simp only [cancelHunt, ← hpreflight]
    exact .bind_left fun _ _ => h.close hplanId hcheckpointId
  | expire plan checkpoint now =>
    refine .bind ?_ fun s' t' stored hst => .returned (HuntResult.moved stored) hst
    unfold expireHunt
    refine .bind_left fun _ _ => ?_
    split_ifs
    · exact .returned checkpoint h.toAgrees
    · exact h.close hplanId hcheckpointId

include hplanId hcheckpointId in
/-- Each call keeps the comparison of a plan among others with the plan alone. -/
theorem Alone.other (h : Alone key s t) (hother : call.key ≠ key) :
    Alone key (Client.step huntExec s call) t := by
  cases hexec : huntExec s call with
  | error e =>
    rw [Client.step_error hexec]
    exact h
  | ok returned =>
    obtain ⟨moved, result⟩ := returned
    have hstep := huntExec_ok hplanId hcheckpointId h.shared hexec
    rw [Client.step_ok hexec]
    exact ⟨h.toAgrees.other hplanId hstep hother, h.shared.step hplanId hstep, h.own, h.mine⟩

/-- A call for a plan of the key stores no plan of another key. -/
theorem HuntStep.mine {moved : SourceHuntStore} {result : HuntResult}
    (h : HuntStep t key moved result) (hmine : ∀ plan ∈ t.plans, plan.idempotencyKey = key) :
    ∀ plan ∈ moved.plans, plan.idempotencyKey = key := by
  cases h with
  | restarted | replayed | terminal => exact hmine
  | started index owner new planId queries observations =>
    intro plan hplan
    rcases List.mem_append.1 hplan with hplan | hplan
    · exact hmine plan hplan
    · rw [List.mem_singleton.1 hplan, owner]
  | answered | closed => exact hmine

include hplanId hcheckpointId in
theorem Alone.lockstep (h : Alone call.key s t) (hfree : ¬Crosses s call) :
    Lockstep (Alone call.key) (huntExec s call) (huntExec t call) := by
  refine (h.exec hplanId hcheckpointId hfree).mono fun s' t' result hs ht hst => ?_
  have hstep := huntExec_ok hplanId hcheckpointId h.shared hs
  have hown := huntExec_ok hplanId hcheckpointId h.own ht
  exact ⟨hst, h.shared.step hplanId hstep, h.own.step hplanId hown, hown.mine h.mine⟩

variable {answer : InvestigationObservation}

include hobservationId in
/-- A fresh answer is not among the observations of its plan. -/
theorem SourceHuntStore.Sound.fresh_answer (hs : store.Sound)
    (hlatest : store.latest plan.planId = .ok checkpoint)
    (hfresh : answer.queryDigest ∉ checkpoint.queryDigests) : (∀ row ∈ store.observedBy plan.planId,
      row.observation.queryDigest ≠ answer.queryDigest ∧
        row.observation.observationId ≠ answer.observationId) ∧
      answer.observationId ∉ checkpoint.observationIds := by
  have hrows : ∀ row ∈ store.observations, row.planId = plan.planId →
      row.observation.queryDigest ≠ answer.queryDigest := by
    intro row hrow hmine heq
    refine hfresh ?_
    rw [← heq]
    exact hs.answered row hrow checkpoint (by rw [hmine, hlatest])
  have hids : ∀ row ∈ store.observations, row.planId = plan.planId →
      row.observation.observationId ≠ answer.observationId := by
    intro row hrow hmine heq
    exact hrows row hrow hmine (by rw [hobservationId heq])
  refine ⟨fun row hrow => ?_, fun hmem => ?_⟩
  · obtain ⟨hrow, hmine⟩ := List.mem_filter.1 hrow
    have hmine : row.planId = plan.planId := by simpa using hmine
    exact ⟨hrows row hrow hmine, hids row hrow hmine⟩
  · obtain ⟨row, hrow, hmine, heq⟩ := hs.recorded plan.planId checkpoint hlatest _ hmem
    exact hids row hrow hmine heq

include hplanId hcheckpointId hobservationId in
/-- A plan alone has every fresh query answered, within its limits. -/
theorem Alone.answers {query : InvestigationQuery} (now : Time) (h : Alone key s t)
    (hkey : plan.idempotencyKey = key) (hlatest : t.latest plan.planId = .ok checkpoint)
    (hfresh : query.queryDigest ∉ checkpoint.queryDigests)
    (hqueries : checkpoint.queriesUsed < plan.limits.maxQueries)
    (hobservations : checkpoint.observationIds.length < plan.limits.maxObservations)
    (hanswer : huntObservation index query sourceReader = .ok answer) :
    ∃ result, answerQuery t plan index checkpoint query now sourceReader = .ok result := by
  have hid := (SourceHuntStore.latest_ok hlatest).2
  have hplan := h.own.plan_mem hplanId hlatest
  rw [← huntObservation_queryDigest hanswer] at hfresh
  obtain ⟨hrows, hnew⟩ := h.own.fresh_answer hobservationId hlatest hfresh
  obtain ⟨advanced, hvalues⟩ : ∃ advanced : InvestigationCheckpoint,
      advanced.toInvestigationCheckpointValues =
        queriedValues plan index checkpoint answer now := exists_queried hfresh hnew
  have hplanOf : advanced.planId = plan.planId := by simp [hvalues, queriedValues]
  have hmine : ∀ observation ∈ some answer, ∀ row ∈ t.observations,
      row.planId ≠ plan.planId →
        row.observation.observationId ≠ observation.observationId := by
    intro observation _ row hrow hne
    exact absurd (h.row_mine hplanId hkey hplan hrow) hne
  have haccepts : t.Accepts advanced (some answer) := by
    rw [SourceHuntStore.accepts_iff hplanId hcheckpointId hplanOf hmine]
    refine ⟨hplan, fun r hr => ?_, fun row hrow r hr => ?_⟩
    · -- the new checkpoint has a greater revision than the stored ones
      have hle := SourceHuntStore.revision_le_latest hlatest hr
      have hrevision : advanced.revision = checkpoint.revision + 1 := by
        simp [hvalues, queriedValues]
      have hne : advanced.revision ≠ r.revision := by omega
      have hne' : advanced.checkpointId ≠ r.checkpointId := by
        intro heq
        exact hne (by rw [hcheckpointId heq])
      simp [huntCheckpointClash, hne, hne']
    · obtain ⟨hquery, hobservation⟩ := hrows r hr
      rw [List.mem_singleton.1 hrow]
      simp [huntObservationClash, hquery.symm, hobservation.symm]
  exact ⟨_, (answerQuery_eq_ok hlatest hid).2
    ⟨hqueries, hobservations, answer, advanced, hanswer, hvalues, haccepts, rfl⟩⟩

include hplanId hcheckpointId hobservationId in
/-- A fresh answer that crosses another plan is rejected, and is recorded by the plan alone. -/
theorem Alone.crosses (h : Alone call.key s t) (hcrosses : Crosses s call) :
    Client.result huntExec s call ≠ Client.result huntExec t call := by
  cases call with
  | start | complete | cancel | expire => cases hcrosses
  | query plan index checkpoint query scope now sourceReader =>
    obtain ⟨hpreflight, hfresh, hqueries, hobservations, answer, hanswer, row, hrow, hne, hsame⟩ :=
      hcrosses
    have hpreflight' := hpreflight
    rw [h.preflight rfl] at hpreflight'
    have hlatest := huntPreflight_latest hcheckpointId hpreflight
    have hlatest' := huntPreflight_latest hcheckpointId hpreflight'
    have hid := (SourceHuntStore.latest_ok hlatest).2
    obtain ⟨result, hresult⟩ := h.answers hplanId hcheckpointId hobservationId now rfl
      hlatest' hfresh hqueries hobservations hanswer
    have halone : huntQuery t plan index checkpoint query scope now sourceReader =
        .ok result := by
      simp [huntQuery, hpreflight', hfresh, hresult]
    intro hresults
    simp only [Client.result, huntExec, halone, ok_bind] at hresults
    -- the same answer in the shared store would clash with the row of the other plan
    cases hshared : huntQuery s plan index checkpoint query scope now sourceReader with
    | error e =>
      rw [hshared] at hresults
      cases hresults
    | ok moved =>
      obtain ⟨-, ⟨hmem, -⟩ | ⟨-, hshared⟩⟩ := huntQuery_ok hlatest hshared
      · exact hfresh hmem
      · obtain ⟨-, -, observation, advanced, hobservation, -, haccepts, -⟩ :=
          (answerQuery_eq_ok hlatest hid).1 hshared
        rw [hanswer] at hobservation
        cases hobservation
        have hclash := haccepts.observation_fresh ⟨advanced.planId, answer⟩
          (List.mem_singleton_self _) row hrow
        simp [huntObservationClash, hsame] at hclash

/-! ## Runs -/

/-- Every call on a plan has the result it has when only the calls on that plan are made. -/
def Independent (calls : List HuntCall) : Prop :=
  ∀ key, Client.results huntExec HuntCall.key key .empty calls =
    Client.results huntExec HuntCall.key key .empty (Client.own HuntCall.key key calls)

theorem alone_empty (key : String) : Alone key .empty .empty where
  plans := rfl
  history _ _ := rfl
  observed _ _ := rfl
  shared := SourceHuntStore.sound_empty
  own := SourceHuntStore.sound_empty
  mine _ hplan := (List.not_mem_nil hplan).elim

include hplanId hcheckpointId hobservationId in
/-- Investigations that share a store do not interfere, and each counts its own queries,
exactly when no query is answered with an observation that another plan has stored. -/
theorem independent_iff (calls : List HuntCall) :
    (Independent calls ∧ CountsOwn calls) ↔
      Along (Client.step huntExec) (fun store call => ¬Crosses store call) .empty calls := by
  have hother : ∀ s t (call : HuntCall) key, Alone key s t → call.key ≠ key →
      Alone key (Client.step huntExec s call) t :=
    fun s t call key h hother => h.other hplanId hcheckpointId hother
  have hown : ∀ s t (call : HuntCall), Alone call.key s t → ¬Crosses s call →
      Lockstep (Alone call.key) (huntExec s call) (huntExec t call) :=
    fun s t call h hfree => h.lockstep hplanId hcheckpointId hfree
  have hcrosses : ∀ s t (call : HuntCall), Alone call.key s t → Crosses s call →
      Client.result huntExec s call ≠ Client.result huntExec t call :=
    fun s t call h hcrosses => h.crosses hplanId hcheckpointId hobservationId hcrosses
  have hiff := Client.results_eq_iff hother hown hcrosses calls .empty (fun _ => .empty)
    alone_empty
  constructor
  · rintro ⟨hindependent, -⟩
    exact hiff.1 hindependent
  · intro halong
    exact ⟨hiff.2 halong, countsOwn_run hplanId hcheckpointId calls⟩

end Steps

end

/-! ## Two plans with one question -/

section

attribute [local instance] codecHuntDigests plainUnicode

/-- A plan that starts alone. -/
theorem independent_start :
    let calls : List HuntCall := [.start sampleIndex sampleHuntScope sampleHuntLimits 1 200 "k" []]
    Independent calls ∧ CountsOwn calls :=
  (independent_iff TextCodec.text_injective TextCodec.text_injective TextCodec.text_injective
    _).2 ⟨id, trivial⟩

end

section

attribute [local instance] textHuntDigests plainUnicode

/-- The first checkpoint of the plan of the idempotency key `key`. -/
def firstCheckpoint (key : String) : InvestigationCheckpoint :=
  ⟨⟨"p" ++ key, "im", .active, 0, 0, [], [], none, none, 1⟩, rfl⟩

def startSample (key : String) : HuntCall :=
  .start sampleIndex sampleHuntScope sampleHuntLimits 1 200 key []

def askSample (key : String) : HuntCall :=
  .query (sampleHuntPlan key) sampleIndex (firstCheckpoint key) sampleQuery sampleHuntScope 2 none

/-- Two plans ask one question, which has no match. -/
def crossingRun : List HuntCall :=
  [startSample "k", startSample "l", askSample "k", askSample "l"]

/-- The second plan is refused its answer, which it has when it is alone. -/
theorem crossingRun_interferes :
    ¬(Independent crossingRun ∧ CountsOwn crossingRun) ∧
      (Client.results huntExec HuntCall.key "l" .empty crossingRun).getLast? =
        some (.error (.storeRejected "Source Hunt checkpoint transaction was rejected")) ∧
      ((Client.results huntExec HuntCall.key "l" .empty
        (Client.own HuntCall.key "l" crossingRun)).getLast?.bind
          Except.toOption).isSome = true := by
  refine ⟨?_, by decide, by decide⟩
  rintro ⟨h, -⟩
  have hl := congrArg (List.map fun r => r.toOption.isSome) (h "l")
  revert hl
  decide

end

end VulnLoom

import VulnLoom.SourceHuntSystem

/-!
# What a checkpoint counts

The latest checkpoint of every plan counts the first answers of the distinct queries the plan
asked, in order, and nothing else : `countsOwn_run`.
-/

set_option linter.unusedSectionVars false

namespace VulnLoom

open Transition

variable [SourceHuntDigests] [PythonUnicode]

/-! ## Answers -/

/-- The query and the observation of an answer to the plan, by their identifiers. -/
def HuntResult.answer (planId : Digest) : HuntResult → Option (Digest × Digest)
  | .answered checkpoint observation =>
    if checkpoint.planId = planId then
      some (observation.queryDigest, observation.observationId)
    else none
  | _ => none

/-- The answers that the calls of a run give to a plan, in order. -/
def huntAnswers (planId : Digest) : SourceHuntStore → List HuntCall → List (Digest × Digest)
  | _, [] => []
  | store, call :: calls =>
    (match huntExec store call with
      | .ok (_, result) => (result.answer planId).toList
      | .error _ => []) ++ huntAnswers planId (Client.step huntExec store call) calls

/-- A log of answers, with the answer to a query that is not in it. -/
def addAnswer (log : List (Digest × Digest)) (answer : Digest × Digest) :
    List (Digest × Digest) :=
  if answer.1 ∈ log.map Prod.fst then log else log ++ [answer]

/-- The first answer to each query. -/
def firstAnswers (answers : List (Digest × Digest)) : List (Digest × Digest) :=
  answers.foldl addAnswer []

/-- The latest checkpoint of the plan counts the log, within the limits of the plan. -/
def Counted (store : SourceHuntStore) (plan : InvestigationPlan) (log : List (Digest × Digest)) :
    Prop :=
  ∃ checkpoint, store.latest plan.planId = .ok checkpoint ∧
    checkpoint.queryDigests = log.map Prod.fst ∧ checkpoint.observationIds = log.map Prod.snd ∧
    checkpoint.queriesUsed = log.length ∧ log.length ≤ plan.limits.maxQueries ∧
    log.length ≤ plan.limits.maxObservations

/-- After the calls, every plan counts exactly its own answered distinct queries. -/
def CountsOwn (calls : List HuntCall) : Prop :=
  ∀ plan ∈ (run (Client.step huntExec) .empty calls).plans,
    Counted (run (Client.step huntExec) .empty calls) plan
      (firstAnswers (huntAnswers plan.planId .empty calls))

/-- The logs are those of the stored plans. -/
structure Counts (store : SourceHuntStore) (log : Digest → List (Digest × Digest)) : Prop where
  counted : ∀ plan ∈ store.plans, Counted store plan (log plan.planId)
  silent : ∀ planId, (∀ plan ∈ store.plans, plan.planId ≠ planId) → log planId = []

/-! ## A call -/

section Steps

variable (hplanId : Function.Injective InvestigationPlan.planId)
  (hcheckpointId : Function.Injective InvestigationCheckpoint.checkpointId)
  {store moved : SourceHuntStore} {plan : InvestigationPlan} {key : String}

theorem Counted.congr {log : List (Digest × Digest)} (h : Counted store plan log)
    (hlatest : moved.latest plan.planId = store.latest plan.planId) : Counted moved plan log := by
  obtain ⟨checkpoint, hread, hrest⟩ := h
  exact ⟨checkpoint, hlatest.trans hread, hrest⟩

variable {log : Digest → List (Digest × Digest)} {checkpoint : InvestigationCheckpoint}

include hplanId in
/-- A checkpoint transaction moves the log of its plan by the answer it records. -/
theorem Counts.advanced (h : Counts store log) (hs : store.Sound)
    {previous : InvestigationCheckpoint} (observation : Option InvestigationObservation)
    (hlatest : store.latest plan.planId = .ok previous) (hid : checkpoint.planId = plan.planId)
    (hrevision : checkpoint.revision = previous.revision + 1)
    (hqueries : checkpoint.queryDigests =
      previous.queryDigests ++ (observation.map (·.queryDigest)).toList)
    (hobservations : checkpoint.observationIds =
      previous.observationIds ++ (observation.map (·.observationId)).toList)
    (hwithin : observation ≠ none → previous.queriesUsed < plan.limits.maxQueries ∧
      previous.observationIds.length < plan.limits.maxObservations) :
    Counts (store.advanced checkpoint observation) fun planId =>
      if planId = plan.planId then
        log planId ++
          (observation.map fun answer => (answer.queryDigest, answer.observationId)).toList
      else log planId := by
  have hprevious := (SourceHuntStore.latest_ok hlatest).2
  have hplan := hs.plan_mem hplanId hlatest
  have hnext : (store.advanced checkpoint observation).latest plan.planId = .ok checkpoint := by
    rw [← hprevious] at hlatest hid ⊢
    exact SourceHuntStore.latest_concat hlatest hid hrevision rfl
  refine ⟨fun other hother => ?_, fun planId hnone => ?_⟩
  · by_cases hsame : other.planId = plan.planId
    · obtain rfl := hplanId hsame
      obtain ⟨current, hcurrent, hdigests, hids, hused, hmaxQueries, hmaxObservations⟩ :=
        h.counted other hother
      rw [hlatest] at hcurrent
      cases hcurrent
      have hlength : (log other.planId).length = previous.observationIds.length := by
        simp [hids]
      refine ⟨checkpoint, hnext, ?_, ?_, ?_, ?_⟩
      · cases observation <;> simp [hqueries, hdigests]
      · cases observation <;> simp [hobservations, hids]
      · rw [checkpoint.queriesUsed_eq, hqueries, List.length_append, ← previous.queriesUsed_eq,
          hused]
        cases observation <;> simp
      · cases observation with
        | none => simpa using ⟨hmaxQueries, hmaxObservations⟩
        | some answer =>
          have := hwithin (by simp)
          simp only [if_true, Option.map_some, Option.toList_some, List.length_append,
            List.length_singleton]
          omega
    · have hne : checkpoint.planId ≠ other.planId := by
        rw [hid]
        exact fun heq => hsame heq.symm
      rw [if_neg hsame]
      exact (h.counted other hother).congr
        (SourceHuntStore.latest_congr (SourceHuntStore.history_advanced_of_ne hne))
  · rw [if_neg fun heq => hnone plan hplan heq.symm]
    exact h.silent planId hnone

include hplanId in
theorem Counts.started (h : Counts store log) {index : RepositoryIndex}
    (hnew : store.planByIdempotencyKey plan.idempotencyKey = none) (hs : store.Sound)
    (hid : checkpoint.planId = plan.planId) (hqueries : checkpoint.queryDigests = [])
    (hobservations : checkpoint.observationIds = []) :
    Counts (store.started index plan checkpoint) log := by
  have hids : ∀ other ∈ store.plans, other.planId ≠ plan.planId := by
    intro other hother heq
    exact SourceHuntStore.planByIdempotencyKey_eq_none.1 hnew other hother (by rw [hplanId heq])
  refine ⟨fun other hother => ?_, fun planId hnone => ?_⟩
  · rcases List.mem_append.1 hother with hother | hother
    · have hne : checkpoint.planId ≠ other.planId := by
        rw [hid]
        exact (hids other hother).symm
      exact (h.counted other hother).congr
        (SourceHuntStore.latest_congr (SourceHuntStore.history_started_of_ne hne))
    · rw [List.mem_singleton.1 hother, h.silent plan.planId hids]
      have hhistory : store.history plan.planId = [] := by
        refine List.filter_eq_nil_iff.2 fun c hc heq => ?_
        obtain ⟨owner, howner, howns⟩ := hs.checkpoints_owned c hc
        exact hids owner howner (howns.trans (by simpa using heq))
      refine ⟨checkpoint, ?_, by simp [hqueries], by simp [hobservations], ?_, by simp, by simp⟩
      · simp only [SourceHuntStore.history] at hhistory
        simp [SourceHuntStore.latest, SourceHuntStore.history, SourceHuntStore.started,
          List.filter_append, hhistory, hid, orRaise]
      · rw [checkpoint.queriesUsed_eq, hqueries]
        rfl
  · refine h.silent planId fun other hother => ?_
    exact hnone other (List.mem_append_left _ hother)

/-- The log after a call. -/
def addResult (log : Digest → List (Digest × Digest)) (result : HuntResult) (planId : Digest) :
    List (Digest × Digest) :=
  (result.answer planId).toList.foldl addAnswer (log planId)

include hplanId in
theorem Counts.step {result : HuntResult} (h : Counts store log) (hs : store.Sound)
    (hstep : HuntStep store key moved result) : Counts moved (addResult log result) := by
  cases hstep with
  | restarted | terminal => exact h
  | replayed latest answered =>
    rename_i plan checkpoint observation
    have hsame : addResult log (.answered checkpoint observation) = log := by
      funext planId
      by_cases hplan : checkpoint.planId = planId
      · have hid := (SourceHuntStore.latest_ok latest).2
        obtain ⟨current, hcurrent, hdigests, -⟩ :=
          h.counted plan (hs.plan_mem hplanId latest)
        rw [latest] at hcurrent
        cases hcurrent
        rw [← hid, hplan] at hdigests
        rw [hdigests] at answered
        simp [addResult, HuntResult.answer, hplan, addAnswer, answered]
      · simp [addResult, HuntResult.answer, hplan]
    rw [hsame]
    exact h
  | started index owner new planId queries observations =>
    exact h.started hplanId (by rw [owner, new]) hs planId queries observations
  | closed owner latest planId revision queries observations accepts =>
    have h' := h.advanced hplanId hs none latest planId revision (by simp [queries])
      (by simp [observations]) (by simp)
    refine cast (congrArg _ (funext fun id => ?_)) h'
    simp [addResult, HuntResult.answer]
  | answered owner latest fresh planId revision queries observations within accepts =>
    rename_i plan previous checkpoint observation
    have h' := h.advanced hplanId hs (some observation) latest planId revision (by simp [queries])
      (by simp [observations]) (by simpa using within)
    obtain ⟨current, hcurrent, hdigests, -⟩ := h.counted plan (hs.plan_mem hplanId latest)
    rw [latest] at hcurrent
    cases hcurrent
    rw [hdigests] at fresh
    refine cast (congrArg _ (funext fun id => ?_)) h'
    by_cases hplan : id = plan.planId
    · subst hplan
      simp [addResult, HuntResult.answer, planId, addAnswer, fresh]
    · have hne : plan.planId ≠ id := fun heq => hplan heq.symm
      simp [addResult, HuntResult.answer, planId, hplan, hne]

/-! ## A run -/

include hplanId hcheckpointId in
theorem counts_run : ∀ (calls : List HuntCall) {store : SourceHuntStore}
    {log : Digest → List (Digest × Digest)}, store.Sound → Counts store log →
      Counts (run (Client.step huntExec) store calls) fun planId =>
        (huntAnswers planId store calls).foldl addAnswer (log planId)
  | [], _, _, _, h => h
  | call :: calls, store, log, hs, h => by
    rw [run_cons]
    cases hexec : huntExec store call with
    | error e =>
      have htail := counts_run calls hs h
      simpa [huntAnswers, hexec, Client.step_error hexec] using htail
    | ok returned =>
      obtain ⟨moved, result⟩ := returned
      have hstep := huntExec_ok hplanId hcheckpointId hs hexec
      have htail := counts_run calls (hs.step hplanId hstep) (h.step hplanId hs hstep)
      simpa [huntAnswers, hexec, Client.step_ok hexec, addResult, List.foldl_append] using htail

include hplanId hcheckpointId in
/-- Whatever other plans ask, a plan counts exactly its own answered distinct queries. -/
theorem countsOwn_run (calls : List HuntCall) : CountsOwn calls := by
  have hempty : Counts .empty fun _ => [] :=
    ⟨fun plan hplan => (List.not_mem_nil hplan).elim, fun _ _ => rfl⟩
  exact (counts_run hplanId hcheckpointId calls SourceHuntStore.sound_empty hempty).counted

end Steps

end VulnLoom

import VulnLoom.SourceExecutionChain

/-!
# Runs of source executions

Executions and bindings are called in any order, and a process may die between any two steps of a
call. `source_executions_sound` : the stored outcome of a plan is a chain of its stages and
receipts, what is saved stays and is not run again, a terminal outcome is final, and an outcome is
completed exactly when all five stages left evidence and a receipt and the terminal save was made.
No rule is asked of the runner, which may answer one request differently each time.
-/

set_option linter.unusedSectionVars false

namespace VulnLoom

open Connections Transition

variable [PythonUrl] [PolicyDigests] [BrokerDigests] [ValidationDigests] [SourceHuntDigests]
  [SourceExecutionDigests] [ReceiptJson]

/-! ## The store -/

/-- A binding that was made from the outcome of a row : the candidate is validated, and the run and
the bundle cite the evidence of the outcome. -/
structure SourceValidationBinding.BoundTo (binding : SourceValidationBinding)
    (row : SourceExecutionRow) : Prop where
  plan : binding.executionPlanId = row.plan.planId
  outcome : binding.executionOutcomeDigest = canonicalDigest row.outcome
  completed : row.outcome.status = .completed ∧ row.outcome.reproduciblePov = true
  candidate : ∃ candidate : Candidate, candidate.state = .proposed ∧
    binding.sourceCandidateDigest = candidateContentDigest candidate ∧
    binding.validatedCandidate = { candidate with state := .validated } ∧
    binding.validationRun.candidateId = candidate.candidateId ∧
    binding.evidenceBundle.candidateId = candidate.candidateId
  run : binding.validationRun.result = .reproduced ∧
    binding.validationRun.evidenceRefs = row.outcome.evidenceRefs
  bundle : binding.evidenceBundle.evidenceRefs = row.outcome.evidenceRefs

namespace SourceExecutionStore

def planKey (row : SourceExecutionRow) : Digest :=
  row.plan.planId

structure Sound (store : SourceExecutionStore) : Prop where
  plans : (store.executions.map planKey).Nodup
  keys : (store.executions.map fun row => row.plan.idempotencyKey).Nodup
  chained : ∀ row ∈ store.executions, row.outcome.Chained row.plan
  bound : ∀ binding ∈ store.bindings, ∃ row ∈ store.executions, binding.BoundTo row

/-- What a later store keeps of an earlier one : each plan with the results that were saved, each
terminal outcome as it was, and each binding. -/
structure Grows (store store' : SourceExecutionStore) : Prop where
  rows : ∀ row ∈ store.executions, ∃ row' ∈ store'.executions, row'.plan = row.plan ∧
    row.outcome.runnerResults <+: row'.outcome.runnerResults ∧
    (row.outcome.status ≠ .running → row' = row)
  bindings : store.bindings ⊆ store'.bindings

theorem empty_sound : empty.Sound where
  plans := List.nodup_nil
  keys := List.nodup_nil
  chained row hrow := by cases hrow
  bound binding hbinding := by cases hbinding

theorem Grows.refl (store : SourceExecutionStore) : store.Grows store :=
  ⟨fun row hrow => ⟨row, hrow, rfl, List.prefix_refl _, fun _ => rfl⟩, List.Subset.refl _⟩

theorem Grows.trans {a b c : SourceExecutionStore} (hab : a.Grows b) (hbc : b.Grows c) :
    a.Grows c := by
  refine ⟨fun row hrow => ?_, List.Subset.trans hab.bindings hbc.bindings⟩
  obtain ⟨row', hrow', hplan, hgrown, hterminal⟩ := hab.rows row hrow
  obtain ⟨row'', hrow'', hplan', hgrown', hterminal'⟩ := hbc.rows row' hrow'
  refine ⟨row'', hrow'', hplan'.trans hplan, hgrown.trans hgrown', fun h => ?_⟩
  obtain rfl := hterminal h
  exact hterminal' h

variable {store store' : SourceExecutionStore} {plan : SourceExecutionPlan}
  {previous outcome next initial : SourceExecutionOutcome}

/-! ### Claims -/

/-- A claim finds the row of its plan, or inserts it. -/
theorem claim_ok (h : store.claim plan initial = .ok (store', outcome)) :
    store' = store ∧ (⟨plan, outcome⟩ : SourceExecutionRow) ∈ store.executions ∨
    outcome = initial ∧
      store' = { store with executions := store.executions ++ [⟨plan, initial⟩] } ∧
      ∀ row ∈ store.executions, row.plan.planId ≠ plan.planId ∧
        row.plan.idempotencyKey ≠ plan.idempotencyKey := by
  simp only [claim] at h
  split at h
  next row hfind =>
    simp only [bind_eq_ok, raiseIf_eq_ok, not_not, pure_eq_ok] at h
    obtain ⟨-, rfl, heq⟩ := h
    cases heq
    exact Or.inl ⟨rfl, List.mem_of_find?_eq_some hfind⟩
  next hfind =>
    simp only [bind_eq_ok, orRaise_eq_ok, Table.insert_eq_some, pure_eq_ok] at h
    obtain ⟨executions, ⟨hfresh, rfl⟩, heq⟩ := h
    cases heq
    refine Or.inr ⟨rfl, rfl, fun row hrow => ?_⟩
    have hclash := hfresh row hrow
    simp only [clash, decide_eq_false_iff_not, not_or] at hclash
    exact ⟨fun h => hclash.1 h.symm, fun h => hclash.2 h.symm⟩

theorem Sound.claim (hs : store.Sound) (hinitial : initial.Chained plan)
    (h : store.claim plan initial = .ok (store', outcome)) : store'.Sound := by
  rcases claim_ok h with ⟨rfl, -⟩ | ⟨-, rfl, hfresh⟩
  · exact hs
  · refine ⟨Table.nodup_key_concat hs.plans fun row hrow => (hfresh row hrow).1.symm,
      Table.nodup_key_concat hs.keys fun row hrow => (hfresh row hrow).2.symm, ?_, ?_⟩
    · intro row hrow
      rcases List.mem_append.1 hrow with hrow | hrow
      · exact hs.chained row hrow
      · rw [List.mem_singleton.1 hrow]
        exact hinitial
    · intro binding hbinding
      obtain ⟨row, hrow, hbound⟩ := hs.bound binding hbinding
      exact ⟨row, List.mem_append_left _ hrow, hbound⟩

theorem claim_grows (h : store.claim plan initial = .ok (store', outcome)) :
    store.Grows store' := by
  rcases claim_ok h with ⟨rfl, -⟩ | ⟨-, rfl, -⟩
  · exact .refl _
  · refine ⟨fun row hrow => ?_, List.Subset.refl _⟩
    exact ⟨row, List.mem_append_left _ hrow, rfl, List.prefix_refl _, fun _ => rfl⟩

theorem mem_claim (h : store.claim plan initial = .ok (store', outcome)) :
    (⟨plan, outcome⟩ : SourceExecutionRow) ∈ store'.executions := by
  rcases claim_ok h with ⟨rfl, hmem⟩ | ⟨rfl, rfl, -⟩
  · exact hmem
  · exact List.mem_append_right _ (List.mem_singleton_self _)

/-- A claim of a plan that has a row answers with its outcome. -/
theorem claim_of_mem (initial : SourceExecutionOutcome) (hs : store.Sound)
    {row : SourceExecutionRow} (hrow : row ∈ store.executions) :
    store.claim row.plan initial = .ok (store, row.outcome) := by
  have hfind : store.executions.find?
      (fun r => r.plan.idempotencyKey = row.plan.idempotencyKey) = some row := by
    cases hr : store.executions.find? fun r => r.plan.idempotencyKey = row.plan.idempotencyKey with
    | none =>
      have := List.find?_eq_none.1 hr row hrow
      simp at this
    | some r =>
      have hkey : r.plan.idempotencyKey = row.plan.idempotencyKey := by
        simpa using List.find?_some hr
      rw [Table.eq_of_key hs.keys (List.mem_of_find?_eq_some hr) hrow hkey]
  simp [SourceExecutionStore.claim, hfind]

/-! ### Saves -/

/-- The store after the outcome of a plan is replaced. -/
def saved (store : SourceExecutionStore) (plan : SourceExecutionPlan)
    (outcome : SourceExecutionOutcome) : SourceExecutionStore :=
  { store with executions := Table.put planKey ⟨plan, outcome⟩ store.executions }

/-- A save finds the outcome that the execution holds, where nothing came between. -/
theorem save_of_mem (outcome : SourceExecutionOutcome) (hs : store.Sound)
    (hmem : (⟨plan, previous⟩ : SourceExecutionRow) ∈ store.executions) :
    store.save plan previous outcome = .ok (store.saved plan outcome) := by
  have hone : ∀ row ∈ store.executions, holds plan previous row = decide (planKey row = planKey
      (⟨plan, previous⟩ : SourceExecutionRow)) := by
    intro row hrow
    by_cases hkey : planKey row = planKey (⟨plan, previous⟩ : SourceExecutionRow)
    · obtain rfl := Table.eq_of_key hs.plans hrow hmem hkey
      simp [holds]
    · have hne : row.plan.planId ≠ plan.planId := hkey
      simp [holds, hne, hkey]
  have hcount : Table.rowcount (holds plan previous) store.executions = 1 := by
    rw [← Table.countP_key hs.plans hmem]
    exact List.countP_congr fun row hrow => by rw [hone row hrow]
  have hput : Table.update (holds plan previous) ({ · with outcome := outcome })
      store.executions = Table.put planKey ⟨plan, outcome⟩ store.executions := by
    refine Table.update_eq_put hs.plans hmem ?_ rfl fun row hrow h => ?_
    · simp [holds]
    · rw [hone row hrow] at h
      simpa using h
  simp [save, hcount, hput, saved, pure, Except.pure]

theorem mem_saved (hmem : (⟨plan, previous⟩ : SourceExecutionRow) ∈ store.executions) :
    (⟨plan, outcome⟩ : SourceExecutionRow) ∈ (store.saved plan outcome).executions :=
  Table.mem_put_self hmem rfl

/-- The plans stay. -/
theorem saved_plans (outcome : SourceExecutionOutcome) (hs : store.Sound)
    (hmem : (⟨plan, previous⟩ : SourceExecutionRow) ∈ store.executions) :
    (store.saved plan outcome).executions.map SourceExecutionRow.plan =
      store.executions.map SourceExecutionRow.plan := by
  simp only [saved, Table.put, Table.update, List.map_map]
  refine List.map_congr_left fun row hrow => ?_
  simp only [Function.comp_apply, decide_eq_true_eq]
  split_ifs with hkey
  · rw [Table.eq_of_key hs.plans hrow hmem hkey]
  · rfl

theorem Sound.saved (hs : store.Sound)
    (hmem : (⟨plan, previous⟩ : SourceExecutionRow) ∈ store.executions)
    (hrunning : previous.status = .running) (houtcome : outcome.Chained plan) :
    (store.saved plan outcome).Sound := by
  have hplans := saved_plans outcome hs hmem
  refine ⟨?_, ?_, ?_, ?_⟩
  · have heq := congrArg (List.map SourceExecutionPlan.planId) hplans
    rw [List.map_map, List.map_map] at heq
    exact heq ▸ hs.plans
  · have heq := congrArg (List.map SourceExecutionPlan.idempotencyKey) hplans
    rw [List.map_map, List.map_map] at heq
    exact heq ▸ hs.keys
  · intro row hrow
    obtain ⟨old, hold, rfl⟩ := Table.mem_update.1 hrow
    split_ifs
    · exact houtcome
    · exact hs.chained old hold
  · intro binding hbinding
    obtain ⟨row, hrow, hbound⟩ := hs.bound binding hbinding
    refine ⟨row, (Table.mem_put_of_ne fun hkey => ?_).2 hrow, hbound⟩
    -- the row that is replaced is running, and a binding is made from a completed one
    have hcompleted := hbound.completed.1
    rw [Table.eq_of_key hs.plans hrow hmem hkey, hrunning] at hcompleted
    cases hcompleted

theorem saved_grows (hs : store.Sound)
    (hmem : (⟨plan, previous⟩ : SourceExecutionRow) ∈ store.executions)
    (hrunning : previous.status = .running)
    (hgrown : previous.runnerResults <+: outcome.runnerResults) :
    store.Grows (store.saved plan outcome) := by
  refine ⟨fun row hrow => ?_, List.Subset.refl _⟩
  by_cases hkey : planKey row = planKey (⟨plan, outcome⟩ : SourceExecutionRow)
  · obtain rfl := Table.eq_of_key hs.plans hrow hmem hkey
    exact ⟨⟨plan, outcome⟩, mem_saved hmem, rfl, hgrown, fun h => absurd hrunning h⟩
  · exact ⟨row, (Table.mem_put_of_ne hkey).2 hrow, rfl, List.prefix_refl _, fun _ => rfl⟩

/-! ### Bindings -/

/-- A put answers with a binding that is there, or adds it. -/
theorem putValidationBinding_ok {binding put : SourceValidationBinding}
    (h : store.putValidationBinding binding = .ok (store', put)) :
    put = binding ∧ (store' = store ∨
      store' = { store with bindings := store.bindings ++ [binding] }) := by
  simp only [putValidationBinding] at h
  split at h
  · simp only [bind_eq_ok, raiseIf_eq_ok, not_not, pure_eq_ok] at h
    obtain ⟨-, rfl, heq⟩ := h
    cases heq
    exact ⟨rfl, Or.inl rfl⟩
  · cases h
    exact ⟨rfl, Or.inr rfl⟩

end SourceExecutionStore

namespace SourceBinding

variable {x : SourceBinding} {store store' : SourceExecutionStore}
  {binding : SourceValidationBinding}

theorem running_ok {running : Candidate} (h : x.running = .ok running) :
    running = { x.candidate with state := .validationRunning } := by
  simp only [SourceBinding.running, queueValidation, bind_eq_ok, raiseIf_eq_ok] at h
  obtain ⟨queued, ⟨-, -, -, -, -, -, hqueued⟩, hrunning⟩ := h
  rw [(transitionCandidate_ok hrunning).2, (transitionCandidate_ok hqueued).2]

theorem validationRun_ok {run : ValidationRun} (h : x.validationRun = .ok run) :
    run.candidateId = x.candidate.candidateId ∧ run.result = .reproduced ∧
      run.evidenceRefs = x.outcome.evidenceRefs := by
  simp only [validationRun, bind_eq_ok] at h
  obtain ⟨request, -, h⟩ := h
  split_ifs at h
  cases h
  exact ⟨rfl, rfl, rfl⟩

theorem completeValidation_ok {candidate validated : Candidate} {run : ValidationRun}
    (hreproduced : run.result = .reproduced)
    (h : completeValidation candidate run = .ok validated) :
    validated = { candidate with state := .validated } := by
  simp only [completeValidation, hreproduced, if_true, bind_eq_ok, raiseIf_eq_ok] at h
  obtain ⟨-, -, -, -, h⟩ := h
  exact (transitionCandidate_ok h).2

/-- A binding is made from the outcome that is stored. -/
theorem bind_ok (h : x.bind store = .ok (store', binding)) :
    (∃ row ∈ store.executions, binding.BoundTo row) ∧ (store' = store ∨
      store' = { store with bindings := store.bindings ++ [binding] }) := by
  simp only [bind, bind_eq_ok, raiseIf_eq_ok, Bool.not_eq_false] at h
  obtain ⟨persisted, hload, -, hbound, -, -, made, hmade, hput⟩ := h
  obtain ⟨rfl, hstore⟩ := SourceExecutionStore.putValidationBinding_ok hput
  refine ⟨?_, hstore⟩
  simp only [SourceExecutionStore.load, bind_eq_ok, orRaise_eq_ok, pure_eq_ok] at hload
  obtain ⟨row, hfind, rfl⟩ := hload
  have hplan : row.plan.planId = x.plan.planId := by
    simpa using List.find?_some hfind
  simp only [isBound, decide_eq_true_eq] at hbound
  obtain ⟨houtcome, hcompleted, hpov, -, -, hproposed, -⟩ := hbound
  simp only [SourceBinding.binding, bind_eq_ok, mapError_eq_ok, pure_eq_ok] at hmade
  obtain ⟨-, -, running, hrunning, run, hrun, validated, hvalidated, rfl⟩ := hmade
  obtain ⟨hcandidate, hresult, hrefs⟩ := validationRun_ok hrun
  rw [completeValidation_ok hresult hvalidated, running_ok hrunning]
  refine ⟨row, List.mem_of_find?_eq_some hfind, hplan.symm, ?_, ?_, ?_, ?_, ?_⟩
  · rw [houtcome]
  · rw [houtcome]
    exact ⟨hcompleted, hpov⟩
  · exact ⟨x.candidate, hproposed, rfl, rfl, hcandidate, rfl⟩
  · rw [houtcome]
    exact ⟨hresult, hrefs⟩
  · rw [houtcome]
    rfl

theorem bind_sound (hs : store.Sound) (h : x.bind store = .ok (store', binding)) :
    store'.Sound := by
  obtain ⟨hbound, rfl | rfl⟩ := bind_ok h
  · exact hs
  · refine ⟨hs.plans, hs.keys, hs.chained, fun item hitem => ?_⟩
    rcases List.mem_append.1 hitem with hitem | hitem
    · exact hs.bound item hitem
    · rw [List.mem_singleton.1 hitem]
      exact hbound

theorem bind_grows (h : x.bind store = .ok (store', binding)) : store.Grows store' := by
  obtain ⟨-, rfl | rfl⟩ := bind_ok h
  · exact .refl _
  · refine ⟨fun row hrow => ⟨row, hrow, rfl, List.prefix_refl _, fun _ => rfl⟩, ?_⟩
    exact List.subset_append_left _ _

end SourceBinding

/-! ## Calls -/

namespace PendingExecution

/-- What a call under way has in hand : the running outcome that is stored, the steps that are
left of it, and the outcome of a stage that was run. -/
def Holds (store : SourceExecutionStore) : PendingExecution → Prop
  | .start _ => True
  | .bind _ => True
  | .stages x rest outcome => (⟨x.plan, outcome⟩ : SourceExecutionRow) ∈ store.executions ∧
      outcome.status = .running ∧ rest = x.plan.steps.drop outcome.runnerResults.length
  | .save x rest outcome next => (⟨x.plan, outcome⟩ : SourceExecutionRow) ∈ store.executions ∧
      outcome.status = .running ∧ ∃ step,
        x.plan.steps.drop outcome.runnerResults.length = step :: rest ∧
          x.advance outcome step = .ok next

/-- The execution and the step for which a call is about to ask the runner. -/
def runs : PendingExecution → Option (SourceExecution × SourceExecutionStep)
  | .stages x (step :: _) _ => some (x, step)
  | _ => none

variable {store : SourceExecutionStore} {x : SourceExecution}
  {rest : List SourceExecutionStep} {outcome : SourceExecutionOutcome}

/-- An execution goes on with a running outcome, and has in hand what is stored. -/
theorem holds_proceed {pending : PendingExecution}
    (hmem : (⟨x.plan, outcome⟩ : SourceExecutionRow) ∈ store.executions)
    (hrest : rest = x.plan.steps.drop outcome.runnerResults.length)
    (h : x.proceed rest outcome = .inl pending) : Holds store pending := by
  unfold SourceExecution.proceed at h
  split_ifs at h with hrunning
  cases h
  exact ⟨hmem, hrunning, hrest⟩

end PendingExecution

open PendingExecution SourceExecutionStore

section

variable {store : SourceExecutionStore} {x : SourceExecution} {step : SourceExecutionStep}
  {rest : List SourceExecutionStep} {outcome next : SourceExecutionOutcome}

/-- The first of the steps that are left, and those left after it. -/
theorem steps_of_drop {steps : List SourceExecutionStep} {n : ℕ}
    (h : steps.drop n = step :: rest) : steps[n]? = some step ∧ steps.drop (n + 1) = rest := by
  constructor
  · have hzero := congrArg (·[0]?) h
    simpa [List.getElem?_drop] using hzero
  · rw [← List.tail_drop, h]
    rfl

/-- A running outcome that leaves no step has run all stages. -/
theorem allCompleted_of_drop (hs : store.Sound)
    (hmem : (⟨x.plan, outcome⟩ : SourceExecutionRow) ∈ store.executions)
    (hrunning : outcome.status = .running)
    (hdrop : x.plan.steps.drop outcome.runnerResults.length = []) : outcome.AllCompleted := by
  have hchained := hs.chained _ hmem
  refine hchained.allCompleted hrunning ?_
  have hle := hchained.stages.length_le
  rw [outcome.consistent.results] at hle
  have hge := List.drop_eq_nil_iff.1 hdrop
  rw [x.plan.length_steps] at hge
  exact le_antisymm hle hge

/-- The terminal save of an execution that has run all stages. -/
theorem finish_eq (hs : store.Sound)
    (hmem : (⟨x.plan, outcome⟩ : SourceExecutionRow) ∈ store.executions)
    (hall : outcome.AllCompleted) :
    ∃ terminal : SourceExecutionOutcome,
      x.finish store outcome = .ok (store.saved x.plan terminal, terminal) ∧
        terminal.toSourceOutcomeValues = SourceExecution.finalValues outcome := by
  obtain ⟨terminal, hfinal, hvalues⟩ := SourceExecution.final_ok hall
  refine ⟨terminal, ?_, hvalues⟩
  simp only [SourceExecution.finish, hfinal, ok_bind, save_of_mem _ hs hmem]
  rfl

/-- The save of a stage that was run. -/
theorem save_eq (hs : store.Sound) (h : Holds store (.save x rest outcome next)) :
    store.save x.plan outcome next = .ok (store.saved x.plan next) ∧ next.Chained x.plan ∧
      outcome.runnerResults <+: next.runnerResults ∧
      rest = x.plan.steps.drop next.runnerResults.length := by
  obtain ⟨hmem, hrunning, step, hrest, hnext⟩ := h
  obtain ⟨hstep, hleft⟩ := steps_of_drop hrest
  obtain ⟨result, hresults⟩ := SourceExecution.advance_results hnext
  refine ⟨save_of_mem _ hs hmem, ?_, ?_, ?_⟩
  · exact SourceExecution.advance_chained hnext (hs.chained _ hmem) hrunning hstep
  · rw [hresults]
    exact List.prefix_append _ _
  · rw [hresults, List.length_append, List.length_singleton, hleft]

end

/-- A step keeps the store sound, and hands on what is stored. -/
theorem execution_next_sound {store : SourceExecutionStore} (hs : store.Sound) :
    ∀ pending : PendingExecution, Holds store pending →
      (sourceExecutions.next store pending).1.Sound ∧
        ∀ pending', (sourceExecutions.next store pending).2 = .inl pending' →
          Holds (sourceExecutions.next store pending).1 pending'
  | .start x, _ => by
    simp only [sourceExecutions]
    split
    next store' outcome hbegin =>
      simp only [SourceExecution.begin, bind_eq_ok] at hbegin
      obtain ⟨-, -, hclaim⟩ := hbegin
      exact ⟨hs.claim x.initial_chained hclaim,
        fun pending' h => holds_proceed (mem_claim hclaim) rfl h⟩
    · exact ⟨hs, fun pending' h => by cases h⟩
  | .stages x [] outcome, ⟨hmem, hrunning, hrest⟩ => by
    have hall := allCompleted_of_drop hs hmem hrunning hrest.symm
    obtain ⟨terminal, hfinish, hvalues⟩ := finish_eq hs hmem hall
    simp only [sourceExecutions, hfinish]
    refine ⟨hs.saved hmem hrunning ?_, fun pending' h => by cases h⟩
    exact SourceExecution.final_chained (hs.chained _ hmem) hall hvalues
  | .stages x (step :: rest) outcome, ⟨hmem, hrunning, hrest⟩ => by
    simp only [sourceExecutions]
    split
    next next hnext =>
      refine ⟨hs, fun pending' h => ?_⟩
      cases h
      exact ⟨hmem, hrunning, step, hrest.symm, hnext⟩
    · exact ⟨hs, fun pending' h => by cases h⟩
  | .save x rest outcome next, h => by
    obtain ⟨hsave, hchained, -, hleft⟩ := save_eq hs h
    simp only [sourceExecutions, hsave]
    exact ⟨hs.saved h.1 h.2.1 hchained,
      fun pending' hpending => holds_proceed (mem_saved h.1) hleft hpending⟩
  | .bind x, _ => by
    simp only [sourceExecutions]
    split
    next store' binding hbind =>
      exact ⟨SourceBinding.bind_sound hs hbind, fun pending' h => by cases h⟩
    · exact ⟨hs, fun pending' h => by cases h⟩

theorem execution_next_grows {store : SourceExecutionStore} (hs : store.Sound) :
    ∀ pending : PendingExecution, Holds store pending →
      store.Grows (sourceExecutions.next store pending).1
  | .start x, _ => by
    simp only [sourceExecutions]
    split
    next store' outcome hbegin =>
      simp only [SourceExecution.begin, bind_eq_ok] at hbegin
      obtain ⟨-, -, hclaim⟩ := hbegin
      exact claim_grows hclaim
    · exact .refl _
  | .stages x [] outcome, ⟨hmem, hrunning, hrest⟩ => by
    have hall := allCompleted_of_drop hs hmem hrunning hrest.symm
    obtain ⟨terminal, hfinish, hvalues⟩ := finish_eq hs hmem hall
    simp only [sourceExecutions, hfinish]
    refine saved_grows hs hmem hrunning ?_
    rw [hvalues]
    exact List.prefix_refl _
  | .stages x (step :: rest) outcome, _ => by
    simp only [sourceExecutions]
    split
    · exact .refl _
    · exact .refl _
  | .save x rest outcome next, h => by
    obtain ⟨hsave, -, hgrown, -⟩ := save_eq hs h
    simp only [sourceExecutions, hsave]
    exact saved_grows hs h.1 h.2.1 hgrown
  | .bind x, _ => by
    simp only [sourceExecutions]
    split
    next store' binding hbind => exact SourceBinding.bind_grows hbind
    · exact .refl _

/-- What an execution answers is stored, and it is terminal. -/
theorem execution_next_answer {store : SourceExecutionStore} (hs : store.Sound)
    {outcome : SourceExecutionOutcome} :
    ∀ pending : PendingExecution, Holds store pending →
      (sourceExecutions.next store pending).2 = .inr (.ok (.executed outcome)) →
        outcome.status ≠ .running ∧
          ∃ row ∈ (sourceExecutions.next store pending).1.executions, row.outcome = outcome
  | .start x, _ => by
    intro h
    simp only [sourceExecutions] at h ⊢
    split at h
    next store' claimed hbegin =>
      simp only [SourceExecution.begin, bind_eq_ok] at hbegin
      obtain ⟨-, -, hclaim⟩ := hbegin
      simp only [SourceExecution.proceed] at h
      split_ifs at h with hrunning
      cases h
      exact ⟨hrunning, _, mem_claim hclaim, rfl⟩
    · cases h
  | .stages x [] outcome', ⟨hmem, hrunning, hrest⟩ => by
    intro h
    have hall := allCompleted_of_drop hs hmem hrunning hrest.symm
    obtain ⟨terminal, hfinish, hvalues⟩ := finish_eq hs hmem hall
    simp only [sourceExecutions, hfinish] at h ⊢
    cases h
    refine ⟨?_, _, mem_saved hmem, rfl⟩
    rw [hvalues]
    intro h
    cases h
  | .stages x (step :: rest) outcome', _ => by
    intro h
    simp only [sourceExecutions] at h
    split at h
    · cases h
    · cases h
  | .save x rest outcome' next, hpending => by
    intro h
    obtain ⟨hsave, -⟩ := save_eq hs hpending
    simp only [sourceExecutions, hsave, SourceExecution.proceed] at h ⊢
    split_ifs at h with hrunning
    cases h
    exact ⟨hrunning, _, mem_saved hpending.1, rfl⟩
  | .bind x, _ => by
    intro h
    simp only [sourceExecutions] at h
    split at h
    · cases h
    · cases h

/-! ## Runs -/

/-- A session of the two services. -/
abbrev SourceSession :=
  Session SourceExecutionStore PendingExecution

namespace SourceSession

/-- A session is sound and its call has in hand what is stored. -/
def Sound (s : SourceSession) : Prop :=
  s.Keeps SourceExecutionStore.Sound Holds

variable {s : SourceSession}

theorem sound_run (moves : List (Move SourceExecutionRequest)) (hs : s.Sound) :
    Sound (run sourceExecutions.move s moves) := by
  refine Program.keeps_run (fun store request _ => ?_) (fun store pending hstore hpending =>
    execution_next_sound hstore pending hpending) moves hs
  cases request with
  | execute x => trivial
  | bind x => trivial

theorem grows_run (moves : List (Move SourceExecutionRequest)) (hs : s.Sound) :
    s.store.Grows (run sourceExecutions.move s moves).store := by
  refine Program.related_run (P := SourceExecutionStore.Sound) (J := Holds) Grows.refl Grows.trans
    (fun store request _ => ?_) (fun store pending hstore hpending =>
      execution_next_sound hstore pending hpending) (fun store pending hstore hpending =>
      execution_next_grows hstore pending hpending) moves hs
  cases request with
  | execute x => trivial
  | bind x => trivial

variable {x : SourceExecution} {step : SourceExecutionStep}

/-- The stage for which the runner is asked is not among those that are saved. -/
theorem runs_fresh (hs : s.Sound) {pending : PendingExecution} (hpending : pending ∈ s.call)
    (hruns : pending.runs = some (x, step)) :
    ∃ row ∈ s.store.executions, row.plan = x.plan ∧ step ∈ row.plan.steps ∧
      step.stage ∉ row.outcome.executedStages := by
  have hholds := hs.call pending hpending
  cases pending with
  | stages x' rest outcome =>
    cases rest with
    | nil => cases hruns
    | cons step' rest =>
      cases hruns
      obtain ⟨hmem, hrunning, hrest⟩ := hholds
      obtain ⟨hstep, -⟩ := steps_of_drop hrest.symm
      exact ⟨_, hmem, rfl, List.mem_of_getElem? hstep,
        SourceExecution.stage_notMem _ _ hstep⟩
  | start x' => cases hruns
  | save x' rest outcome next => cases hruns
  | bind x' => cases hruns

/-- A stage that completed with evidence and a receipt is saved by the next two steps. -/
theorem advances (hs : s.Sound) {rest : List SourceExecutionStep}
    {outcome : SourceExecutionOutcome} (hcall : s.call = some (.stages x (step :: rest) outcome))
    {result : SandboxRunResult} {receipt : SourceStageReceipt}
    (hresult : x.runStage step = .ok result) (hproven : result.Proven)
    (hreceipt : x.receipt step.stage result
      (x.expectedInput outcome.stageReceipts) outcome.stageReceipts = .ok receipt) :
    ∃ next : SourceExecutionOutcome, (⟨x.plan, next⟩ : SourceExecutionRow) ∈
        (run sourceExecutions.move s [.go, .go]).store.executions ∧
      next.runnerResults = outcome.runnerResults ++ [result] ∧
      next.stageReceipts = outcome.stageReceipts ++ [receipt] := by
  obtain ⟨hmem, hrunning, hrest⟩ := hs.call _ hcall
  obtain ⟨hstep, -⟩ := steps_of_drop hrest.symm
  obtain ⟨next, hnext, hresults, hreceipts⟩ := SourceExecution.advance_proven
    (hs.store.chained _ hmem) hrunning hstep hresult hproven hreceipt
  refine ⟨next, ?_, hresults, hreceipts⟩
  have hsave := save_of_mem next hs.store hmem
  simp only [run_cons, run_nil, Program.move, hcall, sourceExecutions, hnext, hsave,
    Sum.getLeft?_inl]
  exact mem_saved hmem

/-- Where all stages are saved and the terminal save is not, the next execution makes it. -/
theorem resumes (hs : s.Sound) {row : SourceExecutionRow} (hrow : row ∈ s.store.executions)
    (hall : row.outcome.AllCompleted) (hrunning : row.outcome.status = .running)
    (hplan : x.plan = row.plan) (hpreflight : x.preflight = .ok ()) :
    ∃ terminal : SourceExecutionOutcome, (⟨row.plan, terminal⟩ : SourceExecutionRow) ∈
        (run sourceExecutions.move s [.begin (.execute x), .go, .go]).store.executions ∧
      terminal.status = .completed ∧ terminal.reproduciblePov = true := by
  have hmem : (⟨x.plan, row.outcome⟩ : SourceExecutionRow) ∈ s.store.executions := by
    rw [hplan]
    exact hrow
  have hbegin : x.begin s.store = .ok (s.store, row.outcome) := by
    have hclaim := claim_of_mem x.initial hs.store hrow
    simp only [SourceExecution.begin, hpreflight, ok_bind, hplan]
    exact hclaim
  have hdrop : x.plan.steps.drop row.outcome.runnerResults.length = [] := by
    rw [List.drop_eq_nil_iff, x.plan.length_steps, hall.length_results]
  obtain ⟨terminal, hfinish, hvalues⟩ := finish_eq hs.store hmem hall
  refine ⟨terminal, ?_, ?_, ?_⟩
  · simp only [run_cons, run_nil, Program.move, sourceExecutions, hbegin, hdrop,
      SourceExecution.proceed, hrunning, if_true, hfinish, Sum.getLeft?_inl]
    rw [← hplan]
    exact mem_saved hmem
  · rw [hvalues]
    rfl
  · rw [hvalues]
    rfl

end SourceSession

/-- What holds of a session of executions and bindings.

A stored outcome that is completed has run all five stages, each with evidence and a receipt; where
all five have completed, the outcome is completed, or an execution died before its terminal save
and the next one makes it. -/
structure SourceSession.Correct (s : SourceSession) : Prop where
  chained : ∀ row ∈ s.store.executions, row.outcome.Chained row.plan
  grows : ∀ more, s.store.Grows (run sourceExecutions.move s more).store
  fresh : ∀ pending ∈ s.call, ∀ x step, pending.runs = some (x, step) →
    ∃ row ∈ s.store.executions, row.plan = x.plan ∧ step ∈ row.plan.steps ∧
      step.stage ∉ row.outcome.executedStages
  advances : ∀ x step rest outcome, s.call = some (.stages x (step :: rest) outcome) →
    ∀ result receipt, x.runStage step = .ok result → result.Proven →
      x.receipt step.stage result (x.expectedInput outcome.stageReceipts) outcome.stageReceipts =
        .ok receipt →
      ∃ next : SourceExecutionOutcome, (⟨x.plan, next⟩ : SourceExecutionRow) ∈
          (run sourceExecutions.move s [.go, .go]).store.executions ∧
        next.runnerResults = outcome.runnerResults ++ [result] ∧
        next.stageReceipts = outcome.stageReceipts ++ [receipt]
  completed : ∀ row ∈ s.store.executions,
    row.outcome.status = .completed ∧ row.outcome.reproduciblePov = true ↔
      row.outcome.AllCompleted ∧ row.outcome.status ≠ .running
  resumes : ∀ row ∈ s.store.executions, row.outcome.AllCompleted → row.outcome.status = .running →
    ∀ x : SourceExecution, x.plan = row.plan → x.preflight = .ok () →
      ∃ terminal : SourceExecutionOutcome, (⟨row.plan, terminal⟩ : SourceExecutionRow) ∈
          (run sourceExecutions.move s [.begin (.execute x), .go, .go]).store.executions ∧
        terminal.status = .completed ∧ terminal.reproduciblePov = true
  answered : ∀ outcome, sourceExecutions.answer s = some (.ok (.executed outcome)) →
    outcome.status ≠ .running ∧
      ∃ row ∈ (sourceExecutions.move s .go).store.executions, row.outcome = outcome
  bound : ∀ binding ∈ s.store.bindings, ∃ row ∈ s.store.executions, binding.BoundTo row

/-- Whatever calls are made and wherever they are cut off, every state of the session is
correct. -/
theorem source_executions_sound (moves : List (Move SourceExecutionRequest)) :
    SourceSession.Correct
      (run sourceExecutions.move (Session.idle SourceExecutionStore.empty) moves) := by
  have hs := SourceSession.sound_run moves (Session.keeps_idle (J := Holds) empty_sound)
  refine
    { chained := hs.store.chained
      grows := fun more => SourceSession.grows_run more hs
      fresh := fun pending hpending x step hruns => SourceSession.runs_fresh hs hpending hruns
      advances := fun x step rest outcome hcall result receipt hresult hproven hreceipt =>
        SourceSession.advances hs hcall hresult hproven hreceipt
      completed := fun row hrow => ?_
      resumes := fun row hrow hall hrunning x hplan hpreflight =>
        SourceSession.resumes hs hrow hall hrunning hplan hpreflight
      answered := fun outcome hanswer => ?_
      bound := hs.store.bound }
  · have hchained := hs.store.chained row hrow
    constructor
    · rintro ⟨hcompleted, -⟩
      refine ⟨(hchained.completed hcompleted).1, ?_⟩
      rw [hcompleted]
      intro h
      cases h
    · rintro ⟨hall, hrunning⟩
      have hcompleted := (hchained.status_of_allCompleted hall).resolve_left hrunning
      exact ⟨hcompleted, (hchained.completed hcompleted).2⟩
  · obtain ⟨pending, hpending, hlast⟩ := Program.answer_eq_some.1 hanswer
    obtain ⟨hterminal, row, hrow, heq⟩ :=
      execution_next_answer hs.store pending (hs.call _ hpending) hlast
    refine ⟨hterminal, row, ?_, heq⟩
    simp only [Program.move, Option.mem_def.1 hpending]
    exact hrow

end VulnLoom

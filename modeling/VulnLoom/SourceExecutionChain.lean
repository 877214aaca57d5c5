import VulnLoom.SourceExecution

/-!
# Chains of stages

What the outcome of a plan satisfies (`SourceExecutionOutcome.Chained`), and that running the next
stage and closing the chain keep it : the stages are a prefix of the five, the results are those of
the plan's steps, and the receipts lead from the candidate's digest to the last output with one
crash fingerprint.
-/

set_option linter.unusedSectionVars false

namespace VulnLoom

/-! ## Chains -/

/-- Each receipt takes the output of the one before it, and the first takes `input`. -/
def ChainFrom : Digest → List SourceStageReceipt → Prop
  | _, [] => True
  | input, receipt :: receipts => receipt.inputDigest = input ∧
      ChainFrom receipt.outputDigest receipts

/-- The output of the last receipt, or the input of a chain without one. -/
def chainEnd (input : Digest) (receipts : List SourceStageReceipt) : Digest :=
  (receipts.getLast?.map SourceStageReceipt.outputDigest).getD input

theorem chainFrom_concat {receipt : SourceStageReceipt} : ∀ {receipts : List SourceStageReceipt}
    {input : Digest}, ChainFrom input (receipts ++ [receipt]) ↔
      ChainFrom input receipts ∧ receipt.inputDigest = chainEnd input receipts
  | [], input => by simp [ChainFrom, chainEnd]
  | first :: receipts, input => by
    have hend : chainEnd input (first :: receipts) = chainEnd first.outputDigest receipts := by
      rw [chainEnd, chainEnd, List.getLast?_cons]
      cases receipts.getLast? <;> rfl
    rw [List.cons_append, ChainFrom, ChainFrom, chainFrom_concat, hend, and_assoc]

/-- All crash fingerprints of the receipts are equal. -/
def OneFingerprint (receipts : List SourceStageReceipt) : Prop :=
  ∀ a ∈ receipts, ∀ b ∈ receipts, ∀ f ∈ a.crashFingerprint, ∀ g ∈ b.crashFingerprint, f = g

/-- A receipt that repeats the last fingerprint brings no other one. -/
theorem OneFingerprint.concat {receipts : List SourceStageReceipt} {receipt : SourceStageReceipt}
    (h : OneFingerprint receipts)
    (hlast : ∀ fingerprint ∈ SourceExecution.lastFingerprint receipts,
      receipt.crashFingerprint = some fingerprint) : OneFingerprint (receipts ++ [receipt]) := by
  have hnew : ∀ a ∈ receipts, ∀ f ∈ a.crashFingerprint, ∀ g ∈ receipt.crashFingerprint, f = g := by
    intro a ha f hf g hg
    have hmem : f ∈ receipts.filterMap SourceStageReceipt.crashFingerprint :=
      List.mem_filterMap.2 ⟨a, ha, hf⟩
    cases hl : SourceExecution.lastFingerprint receipts with
    | none =>
      rw [List.getLast?_eq_none_iff.1 hl] at hmem
      cases hmem
    | some last =>
      obtain ⟨b, hb, hlast'⟩ := List.mem_filterMap.1 (List.mem_of_getLast? hl)
      rw [hlast last hl] at hg
      rw [h a ha b hb f hf last hlast', Option.mem_some_iff.1 hg]
  intro a ha b hb f hf g hg
  rw [List.mem_append, List.mem_singleton] at ha hb
  rcases ha with ha | rfl <;> rcases hb with hb | rfl
  · exact h a ha b hb f hf g hg
  · exact hnew a ha f hf g hg
  · exact (hnew b hb g hg f hf).symm
  · exact Option.some.inj (hf.symm.trans hg)

/-! ## Outcomes -/

variable [PythonUrl] [PolicyDigests] [BrokerDigests] [ValidationDigests] [SourceHuntDigests]
  [SourceExecutionDigests] [ReceiptJson]

namespace SourceExecutionOutcome

/-- All five stages completed with evidence and left a receipt. -/
structure AllCompleted (outcome : SourceExecutionOutcome) : Prop where
  stages : outcome.executedStages = sourceExecutionStages
  results : ∀ result ∈ outcome.runnerResults, result.Proven
  receipts : outcome.stageReceipts.map SourceStageReceipt.stage = sourceExecutionStages

/-- What the stored outcome of a plan satisfies. A stage that did not complete is the last one, and
is the one stage without a receipt. -/
structure Chained (outcome : SourceExecutionOutcome) (plan : SourceExecutionPlan) : Prop where
  planId : outcome.planId = plan.planId
  stages : outcome.executedStages <+: sourceExecutionStages
  answers : List.Forall₂ (fun step result => SourceExecution.answers step result = true)
    (plan.steps.take outcome.runnerResults.length) outcome.runnerResults
  proven : ∀ result ∈ outcome.runnerResults.take outcome.stageReceipts.length, result.Proven
  chain : ChainFrom plan.candidateDigest outcome.stageReceipts
  fingerprints : OneFingerprint outcome.stageReceipts
  running : outcome.status = .running → outcome.stageReceipts.length = outcome.runnerResults.length
  completed : outcome.status = .completed → outcome.AllCompleted ∧ outcome.reproduciblePov = true
  stopped : outcome.status ≠ .running → outcome.status ≠ .completed →
    outcome.stageReceipts.length < outcome.runnerResults.length

theorem AllCompleted.length_results {outcome : SourceExecutionOutcome} (h : outcome.AllCompleted) :
    outcome.runnerResults.length = 5 := by
  rw [← outcome.consistent.results, h.stages]
  rfl

theorem AllCompleted.length_receipts {outcome : SourceExecutionOutcome}
    (h : outcome.AllCompleted) : outcome.stageReceipts.length = 5 := by
  rw [← List.length_map SourceStageReceipt.stage, h.receipts]
  rfl

variable {plan : SourceExecutionPlan} {outcome : SourceExecutionOutcome}

/-- A running outcome has run all stages when all have completed. -/
theorem Chained.allCompleted (h : outcome.Chained plan) (hrunning : outcome.status = .running)
    (hlength : outcome.runnerResults.length = 5) : outcome.AllCompleted := by
  have hstages : outcome.executedStages = sourceExecutionStages := by
    rw [outcome.consistent.ordered, outcome.consistent.results, hlength]
    rfl
  have hreceipts := h.running hrunning
  have hproven := h.proven
  rw [hreceipts, List.take_length] at hproven
  refine ⟨hstages, hproven, ?_⟩
  rw [outcome.consistent.receipts_ordered, hstages, hreceipts, hlength]
  rfl

/-- A saved outcome in which all stages completed is running or completed. -/
theorem Chained.status_of_allCompleted (h : outcome.Chained plan) (hall : outcome.AllCompleted) :
    outcome.status = .running ∨ outcome.status = .completed := by
  by_contra hstatus
  push Not at hstatus
  have hlt := h.stopped hstatus.1 hstatus.2
  rw [hall.length_results, hall.length_receipts] at hlt
  exact lt_irrefl _ hlt

end SourceExecutionOutcome

/-! ## Stages -/

namespace SourceExecution

open SourceExecutionOutcome

variable {x : SourceExecution} {outcome next : SourceExecutionOutcome} {step : SourceExecutionStep}
  {result : SandboxRunResult}

theorem initial_chained (x : SourceExecution) : x.initial.Chained x.plan where
  planId := rfl
  stages := List.nil_prefix
  answers := List.Forall₂.nil
  proven result hresult := by cases hresult
  chain := trivial
  fingerprints a ha := by cases ha
  running _ := rfl
  completed h := by cases h
  stopped h := absurd rfl h

theorem stageStatus_running : (stageStatus result).1 = .running ↔ result.Proven := by
  simp only [stageStatus, SandboxRunResult.Proven]
  cases result.status <;> by_cases h : result.evidenceRefs = [] <;> simp [h]

theorem stageStatus_ne_completed : (stageStatus result).1 ≠ .completed := by
  simp only [stageStatus]
  cases result.status <;> by_cases h : result.evidenceRefs = [] <;> simp [h]

@[simp] theorem answers_withCaptured (step : SourceExecutionStep) (captured : List Digest) :
    answers step (withCaptured result captured) = answers step result := by
  unfold withCaptured
  split_ifs
  · rfl
  · rfl

theorem runStage_ok (h : x.runStage step = .ok result) : answers step result = true := by
  simp only [runStage, bind_eq_ok, raiseIf_eq_ok, Bool.not_eq_false, pure_eq_ok] at h
  obtain ⟨result', -, -, hanswers, captured, -, -, -, rfl⟩ := h
  rw [answers_withCaptured]
  exact hanswers

variable {receipt : SourceStageReceipt}

theorem receipt_ok {stage : SourceExecutionStage} {expectedInput : Digest}
    {prior : List SourceStageReceipt}
    (h : x.receipt stage result expectedInput prior = .ok receipt) :
    receipt.stage = stage ∧ receipt.inputDigest = expectedInput ∧
      ∀ fingerprint ∈ lastFingerprint prior, receipt.crashFingerprint = some fingerprint := by
  simp only [SourceExecution.receipt, bind_eq_ok, raiseIf_eq_ok, not_not, pure_eq_ok] at h
  obtain ⟨receipt', honly, -, hinput, -, hfingerprint, rfl⟩ := h
  push Not at hfingerprint
  refine ⟨?_, hinput, hfingerprint⟩
  simp only [onlyReceipt] at honly
  split at honly
  · simp only [bind_eq_ok, raiseIf_eq_ok, not_not, pure_eq_ok] at honly
    obtain ⟨-, hstage, rfl⟩ := honly
    exact hstage
  · cases honly

/-- The receipts after a stage : one more, that goes on from those before, if the stage completed,
and the same otherwise. -/
theorem receiptsAfter_ok {receipts : List SourceStageReceipt}
    (h : x.receiptsAfter outcome step result = .ok receipts) :
    result.Proven ∧ (∃ receipt, receipts = outcome.stageReceipts ++ [receipt] ∧
      receipt.inputDigest = chainEnd x.plan.candidateDigest outcome.stageReceipts ∧
      ∀ fingerprint ∈ lastFingerprint outcome.stageReceipts,
        receipt.crashFingerprint = some fingerprint) ∨
    ¬result.Proven ∧ receipts = outcome.stageReceipts := by
  simp only [receiptsAfter] at h
  by_cases hproven : result.Proven
  · rw [if_pos (stageStatus_running.2 hproven)] at h
    simp only [bind_eq_ok, pure_eq_ok] at h
    obtain ⟨receipt, hreceipt, rfl⟩ := h
    obtain ⟨-, hinput, hfingerprint⟩ := receipt_ok hreceipt
    exact Or.inl ⟨hproven, receipt, rfl, hinput, hfingerprint⟩
  · rw [if_neg (mt stageStatus_running.1 hproven)] at h
    exact Or.inr ⟨hproven, (Except.ok.inj h).symm⟩

/-- What the outcome after a stage holds. -/
theorem advance_ok (h : x.advance outcome step = .ok next) :
    ∃ result receipts, answers step result = true ∧
      x.receiptsAfter outcome step result = .ok receipts ∧
      next.toSourceOutcomeValues = x.nextValues outcome step result receipts := by
  simp only [advance, bind_eq_ok, SourceExecutionOutcome.create_eq_ok] at h
  obtain ⟨result, hresult, receipts, hreceipts, hvalues⟩ := h
  exact ⟨result, receipts, runStage_ok hresult, hreceipts, hvalues⟩

/-- The results grow by one when a stage is run. -/
theorem advance_results (h : x.advance outcome step = .ok next) :
    ∃ result, next.runnerResults = outcome.runnerResults ++ [result] := by
  obtain ⟨result, receipts, -, -, hvalues⟩ := advance_ok h
  exact ⟨result, by rw [hvalues]; rfl⟩

/-- Running the next stage of a chained outcome leaves a chained outcome. -/
theorem advance_chained (h : x.advance outcome step = .ok next) (houtcome : outcome.Chained x.plan)
    (hrunning : outcome.status = .running)
    (hstep : x.plan.steps[outcome.runnerResults.length]? = some step) : next.Chained x.plan := by
  obtain ⟨result, receipts, hanswers, hreceipts, hvalues⟩ := advance_ok h
  have hlength := houtcome.running hrunning
  have hstages := next.consistent.ordered
  have hproven := houtcome.proven
  rw [hlength, List.take_length] at hproven
  have hanswered : List.Forall₂ (fun step result => SourceExecution.answers step result = true)
      (x.plan.steps.take next.runnerResults.length) next.runnerResults := by
    rw [hvalues]
    simp only [nextValues, List.length_append, List.length_singleton, List.take_add_one, hstep]
    exact List.rel_append houtcome.answers (List.Forall₂.cons hanswers List.Forall₂.nil)
  have hplan : next.planId = x.plan.planId := by rw [hvalues]; rfl
  have hprefix : next.executedStages <+: sourceExecutionStages := hstages ▸ List.take_prefix _ _
  have hstatus : next.status = (stageStatus result).1 := by rw [hvalues]; rfl
  have hnot : next.status ≠ .completed := hstatus ▸ stageStatus_ne_completed
  have hnextResults : next.runnerResults = outcome.runnerResults ++ [result] := by rw [hvalues]; rfl
  have hnextReceipts : next.stageReceipts = receipts := by rw [hvalues]; rfl
  rcases receiptsAfter_ok hreceipts with ⟨hp, receipt, rfl, hinput, hfingerprint⟩ | ⟨hp, rfl⟩
  · have hnextLength : next.stageReceipts.length = next.runnerResults.length := by
      rw [hnextReceipts, hnextResults]
      simp [hlength]
    have hrun : next.status = .running := hstatus.trans (stageStatus_running.2 hp)
    refine ⟨hplan, hprefix, hanswered, ?_, ?_, ?_, fun _ => hnextLength, fun h => absurd h hnot,
      fun h => absurd hrun h⟩
    · rw [hnextLength, List.take_length, hnextResults]
      intro r hr
      rcases List.mem_append.1 hr with hr | hr
      · exact hproven r hr
      · exact List.mem_singleton.1 hr ▸ hp
    · rw [hnextReceipts]
      exact chainFrom_concat.2 ⟨houtcome.chain, hinput⟩
    · rw [hnextReceipts]
      exact houtcome.fingerprints.concat hfingerprint
  · have hstopped : next.stageReceipts.length < next.runnerResults.length := by
      rw [hnextReceipts, hnextResults]
      simp [hlength]
    have hrun : next.status ≠ .running := by
      rw [hstatus]
      exact mt stageStatus_running.1 hp
    refine ⟨hplan, hprefix, hanswered, ?_, ?_, ?_, fun h => absurd h hrun, fun h => absurd h hnot,
      fun _ _ => hstopped⟩
    · rw [hnextReceipts, hnextResults, hlength, List.take_left]
      exact hproven
    · rw [hnextReceipts]
      exact houtcome.chain
    · rw [hnextReceipts]
      exact houtcome.fingerprints

/-- A stage that completes with evidence and a receipt of its own leaves an outcome that passes
its validator. -/
theorem advance_proven (houtcome : outcome.Chained x.plan) (hrunning : outcome.status = .running)
    (hstep : x.plan.steps[outcome.runnerResults.length]? = some step)
    (hresult : x.runStage step = .ok result) (hproven : result.Proven)
    (hreceipt : x.receipt step.stage result (x.expectedInput outcome.stageReceipts)
      outcome.stageReceipts = .ok receipt) : ∃ next, x.advance outcome step = .ok next ∧
      next.runnerResults = outcome.runnerResults ++ [result] ∧
      next.stageReceipts = outcome.stageReceipts ++ [receipt] := by
  have hstatus := stageStatus_running.2 hproven
  have hreceipts : x.receiptsAfter outcome step result =
      .ok (outcome.stageReceipts ++ [receipt]) := by
    rw [receiptsAfter, if_pos hstatus, hreceipt]
    rfl
  have hc := outcome.consistent
  have hlength := houtcome.running hrunning
  have hstage : sourceExecutionStages[outcome.executedStages.length]? = some step.stage := by
    rw [hc.results, ← x.plan.fixed, List.getElem?_map, hstep]
    rfl
  have hstages : outcome.executedStages ++ [step.stage] =
      sourceExecutionStages.take (outcome.executedStages.length + 1) := by
    rw [List.take_add_one, hstage, ← hc.ordered]
    rfl
  have hprior : outcome.stageReceipts.map SourceStageReceipt.stage = outcome.executedStages := by
    rw [hc.receipts_ordered, hlength, ← hc.results, List.take_length]
  have hvalid :
      (x.nextValues outcome step result (outcome.stageReceipts ++ [receipt])).Consistent := by
    refine ⟨?_, ?_, ?_, ?_, ?_, ?_⟩
    · simp [nextValues, hc.results]
    · simp [nextValues, hc.results, hlength]
    · simp [nextValues]
    · simp [nextValues, hstages]
    · simp [nextValues, hprior, (receipt_ok hreceipt).1, hc.results, hlength]
    · simp [nextValues, SourceOutcomeValues.Reproduces, hstatus]
  refine ⟨⟨_, hvalid⟩, ?_, rfl, rfl⟩
  simp only [advance, hresult, hreceipts, ok_bind]
  exact create_eq_ok.2 rfl

/-! ## The terminal save -/

/-- The fields of the terminal outcome. -/
def finalValues (outcome : SourceExecutionOutcome) : SourceOutcomeValues :=
  { outcome.toSourceOutcomeValues with
    status := .completed
    reproduciblePov := true
    reasonCode := "pov_reproduced" }

/-- When all stages have completed, the terminal outcome passes its validator. -/
theorem final_consistent (h : outcome.AllCompleted) : (finalValues outcome).Consistent := by
  have hc := outcome.consistent
  refine ⟨hc.results, hc.receipts, hc.refs, hc.ordered, hc.receipts_ordered, fun _ => ?_,
    fun _ => rfl⟩
  refine ⟨rfl, h.stages, h.length_receipts, ?_, ?_⟩
  · have hne : outcome.stageReceipts ≠ [] := by
      intro hnil
      have := h.length_receipts
      simp [hnil] at this
    refine ⟨outcome.stageReceipts.getLast hne, List.getLast?_eq_some_getLast hne, ?_⟩
    refine SourceStageReceipt.povReproduced_of_stage _ ?_
    have hlast := congrArg List.getLast? h.receipts
    rw [List.getLast?_map, List.getLast?_eq_some_getLast hne] at hlast
    exact Option.some.inj hlast
  · have hne : outcome.runnerResults ≠ [] := by
      intro hnil
      have := h.length_results
      simp [hnil] at this
    exact ⟨outcome.runnerResults.getLast hne, List.getLast?_eq_some_getLast hne,
      (h.results _ (List.getLast_mem hne)).2⟩

theorem final_ok (h : outcome.AllCompleted) :
    ∃ terminal, final outcome = .ok terminal ∧
      terminal.toSourceOutcomeValues = finalValues outcome :=
  ⟨⟨finalValues outcome, final_consistent h⟩, create_eq_ok.2 rfl, rfl⟩

/-- The terminal outcome of a chained one is chained. -/
theorem final_chained {terminal : SourceExecutionOutcome} (houtcome : outcome.Chained x.plan)
    (h : outcome.AllCompleted) (hterminal : terminal.toSourceOutcomeValues = finalValues outcome) :
    terminal.Chained x.plan := by
  have hall : terminal.AllCompleted := by
    refine ⟨?_, ?_, ?_⟩
    all_goals rw [hterminal]
    · exact h.stages
    · exact h.results
    · exact h.receipts
  have hstatus : terminal.status = .completed := by rw [hterminal]; rfl
  have hpov : terminal.reproduciblePov = true := by rw [hterminal]; rfl
  refine ⟨?_, ?_, ?_, ?_, ?_, ?_, fun h => ?_, fun _ => ⟨hall, hpov⟩, fun _ h => absurd hstatus h⟩
  · rw [hterminal]
    exact houtcome.planId
  · rw [hterminal]
    exact houtcome.stages
  · rw [hterminal]
    exact houtcome.answers
  · rw [hterminal]
    exact houtcome.proven
  · rw [hterminal]
    exact houtcome.chain
  · rw [hterminal]
    exact houtcome.fingerprints
  · rw [hstatus] at h
    cases h

/-- The stage after the stages that were run is none of them. -/
theorem stage_notMem (plan : SourceExecutionPlan) (outcome : SourceExecutionOutcome)
    (hstep : plan.steps[outcome.runnerResults.length]? = some step) :
    step.stage ∉ outcome.executedStages := by
  have hstage : sourceExecutionStages[outcome.runnerResults.length]? = some step.stage := by
    rw [← plan.fixed, List.getElem?_map, hstep]
    rfl
  rw [outcome.consistent.ordered, outcome.consistent.results]
  intro hmem
  obtain ⟨i, hi, hget⟩ := List.mem_take_iff_getElem.1 hmem
  have hi' : i < sourceExecutionStages.length := by omega
  have heq : sourceExecutionStages[i]? = some step.stage := by
    rw [List.getElem?_eq_getElem hi', hget]
  have hsame := (List.getElem?_inj hi' nodup_sourceExecutionStages).1 (heq.trans hstage.symm)
  omega

end SourceExecution

end VulnLoom

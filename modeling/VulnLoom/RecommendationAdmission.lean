import VulnLoom.RecommendationModels

/-!
# Admission of recommendations

The ledger of admitted recommendations, and the service that admits one : it checks the
recommendation against the stored candidate, claims the ledger, reads the clock once more and
completes its row. A call reads the monotonic clock at fixed places, which the model counts from
zero.

`admission_leaves_trace_iff` : a call that raises has changed the ledger exactly when it was
fresh and the last of these readings is past its time limit.
-/

set_option linter.unusedSectionVars false

namespace VulnLoom

/-- An exception of the admission. -/
inductive RecommendationError
  | rejected (reason : String)
  | timedOut (reason : String)
  | conflict (reason : String)
  | recoveryRequired (reason : String)
  | validationError (reason : String)
  deriving DecidableEq

/-! ## The ledger -/

inductive RecommendationState
  | started
  | completed
  deriving DecidableEq

/-- A row of `candidate_recommendations`. -/
structure RecommendationRow where
  planId : Digest
  plan : CandidateRecommendationAdmissionPlan
  state : RecommendationState
  record : Option CandidateRecommendationRecord
  deriving DecidableEq

structure CandidateRecommendationClaim where
  created : Bool
  record : Option CandidateRecommendationRecord

def recommendationClash (a b : RecommendationRow) : Bool :=
  a.planId = b.planId ∨ a.plan.recommendationId = b.plan.recommendationId ∨
    a.plan.idempotencyKey = b.plan.idempotencyKey

variable [CandidateDigests] [RecommendationDigests]

/-- The row a claim inserts. -/
def CandidateRecommendationAdmissionPlan.row (plan : CandidateRecommendationAdmissionPlan) :
    RecommendationRow where
  planId := plan.planId
  plan := plan
  state := .started
  record := none

/-- What a claim finds of its plan. -/
def readAdmission (rows : List RecommendationRow) (plan : CandidateRecommendationAdmissionPlan) :
    Except RecommendationError (Option CandidateRecommendationRecord) :=
  match rows.find? (recommendationClash plan.row) with
  | none => .ok none
  | some row => do
    raiseIf (row.planId ≠ plan.planId ∨ row.plan ≠ plan)
      (.conflict "recommendation admission identity conflict")
    raiseIf (row.state ≠ .completed)
      (.recoveryRequired "recommendation admission has unfinished STARTED state")
    let record ← orRaise row.record
      (.recoveryRequired "recommendation admission has unfinished STARTED state")
    return some record

/-- `CandidateRecommendationStore.claim`. -/
def claimAdmission (rows : List RecommendationRow) (plan : CandidateRecommendationAdmissionPlan) :
    Except RecommendationError (List RecommendationRow × CandidateRecommendationClaim) := do
  match ← readAdmission rows plan with
  | some record => return (rows, ⟨false, some record⟩)
  | none =>
    let claimed ← orRaise (Table.insert recommendationClash rows plan.row)
      (.conflict "recommendation admission conflict")
    return (claimed, ⟨true, none⟩)

/-- The started row of a record. -/
def RecommendationRow.awaits (record : CandidateRecommendationRecord)
    (row : RecommendationRow) : Bool :=
  row.planId = record.planId ∧ row.state = .started

def RecommendationRow.complete (record : CandidateRecommendationRecord) (row : RecommendationRow) :
    RecommendationRow :=
  { row with state := .completed, record := some record }

/-- `CandidateRecommendationStore.complete`. -/
def completeAdmission (rows : List RecommendationRow) (record : CandidateRecommendationRecord) :
    Except RecommendationError (List RecommendationRow) := do
  raiseIf (Table.rowcount (RecommendationRow.awaits record) rows ≠ 1)
    (.recoveryRequired "recommendation admission STARTED checkpoint unavailable")
  return Table.update (RecommendationRow.awaits record) (RecommendationRow.complete record) rows

/-- The record of one row of `list_completed`. -/
def RecommendationRow.completedRecord (row : RecommendationRow) :
    Except RecommendationError CandidateRecommendationRecord := do
  let record ← orRaise row.record
    (.recoveryRequired "completed recommendation admission has no record")
  raiseIf (record.planId ≠ row.plan.planId ∨ record.recommendationId ≠ row.plan.recommendationId)
    (.recoveryRequired "completed recommendation admission binding mismatch")
  return record

/-- `list_completed`. -/
def listCompletedAdmissions (rows : List RecommendationRow) :
    Except RecommendationError (List CandidateRecommendationRecord) :=
  (rows.filter fun row => row.state = .completed).mapM RecommendationRow.completedRecord

/-- `CandidateRecommendationStore.load_completed`. -/
def loadCompletedAdmission (rows : List RecommendationRow) (recordId : Digest) :
    Except RecommendationError CandidateRecommendationRecord := do
  match (← listCompletedAdmissions rows).filter fun record => record.recordId = recordId with
  | [record] => return record
  | _ => .error (.recoveryRequired "completed recommendation admission record unavailable")

/-! ## The service -/

/-- `CandidateRecommendationAdmissionService`, with what its stores return and what the clock
shows at each reading of a call. -/
structure AdmissionService where
  scope : Scope
  /-- `graph_store.load` -/
  graphs : Digest → Option SourceGraph
  /-- `candidate_store.load` -/
  candidates : Digest → Option CandidateSet
  /-- `generation_store.load_completed` -/
  generations : Option (Digest → Option CandidateRecommendationGenerationOutcome)
  timeout : Time
  clock : ℕ → Time

namespace AdmissionService

/-- The recommendation is about the candidate and comes from the result. -/
def isBound (recommendation : CandidateRecommendation) (result : TransportResult)
    (candidate : Candidate) : Bool :=
  recommendation.candidateDigest = canonicalDigest candidate ∧
    recommendation.sourceGraphId = candidate.sourceGraphId ∧
    recommendation.targetId = candidate.targetId ∧
    recommendation.targetVersionDigest = canonicalDigest candidate.targetVersion ∧
    recommendation.scopeId = candidate.scopeId ∧
    recommendation.scopeVersion = candidate.scopeVersion ∧
    recommendation.supportingSignalIds = candidate.signalIds ∧
    recommendation.citedLocations ⊆ candidate.codePath ∧ result.status = .passed ∧
    result.cleanupVerified ∧ result.responseModel.isSome ∧
    recommendation.producerResultId = result.resultId ∧
    recommendation.producerPlanId = result.planId ∧
    some recommendation.producerReceiptDigest = result.receiptDigest ∧
    result.completedAt ≤ recommendation.createdAt

/-- The binding to a generation outcome. -/
def bindingOf (outcome : CandidateRecommendationGenerationOutcome) : GenerationBinding :=
  ⟨outcome.planId, outcome.outcomeId, sealedOutcome outcome⟩

/-- `_verify_record`. -/
def verifyRecord (record : CandidateRecommendationRecord)
    (plan : CandidateRecommendationAdmissionPlan) (candidate : Candidate) :
    Except RecommendationError Unit :=
  raiseIf (record.planId ≠ plan.planId ∨ record.recommendationId ≠ plan.recommendationId ∨
      record.recommendationDigest ≠ plan.recommendationDigest ∨
      record.producerResultId ≠ plan.producerResultId ∨
      record.producerResultDigest ≠ plan.producerResultDigest ∨
      record.candidateDigest ≠ canonicalDigest candidate ∨ record.generation ≠ plan.generation ∨
      record.producerContentBindingVerified ≠ plan.generation.isSome)
    (.rejected "recommendation admission record drifted")

section

variable (x : AdmissionService)

/-- `_check`, at a reading. -/
def check (started reading : ℕ) : Except RecommendationError Unit :=
  raiseIf (x.clock started + x.timeout ≤ x.clock reading)
    (.timedOut "recommendation admission timed out")

/-- The stored set and graph belong together and to the scope. -/
def hasProvenance (recommendation : CandidateRecommendation) (candidateSet : CandidateSet)
    (graph : SourceGraph) (now : Time) : Bool :=
  x.scope.state = .approved ∧ x.scope.validFrom ≤ recommendation.createdAt ∧
    recommendation.createdAt ≤ now ∧ now < x.scope.validUntil ∧
    sourceGraphDigest graph = graph.graphId ∧ candidateSet.sourceGraphId = graph.graphId ∧
    candidateSet.targetId = graph.targetId ∧ candidateSet.targetVersion = graph.targetVersion ∧
    candidateSet.scopeId = x.scope.scopeId ∧ candidateSet.scopeVersion = x.scope.version ∧
    graph.scopeId = x.scope.scopeId ∧ graph.scopeVersion = x.scope.version

/-- What the inputs are found to be. -/
structure Inputs where
  candidateSet : CandidateSet
  graph : SourceGraph
  candidate : Candidate

/-- `_inputs`; its check reads the clock after `started`. -/
def inputs (recommendation : CandidateRecommendation) (result : TransportResult) (now : Time)
    (started : ℕ) : Except RecommendationError Inputs := do
  let unavailable :=
    RecommendationError.rejected "recommendation authoritative inputs are unavailable"
  let candidateSet ← orRaise (x.candidates recommendation.candidateSetId) unavailable
  let graph ← orRaise (x.graphs recommendation.sourceGraphId) unavailable
  x.check started (started + 1)
  raiseIf (x.hasProvenance recommendation candidateSet graph now = false)
    (.rejected "recommendation provenance rejected")
  match candidateSet.candidates.filter fun c => c.candidateId = recommendation.candidateId with
  | [candidate] =>
    raiseIf (candidate.state ≠ .proposed)
      (.rejected "recommendation requires one proposed Candidate")
    raiseIf (isBound recommendation result candidate = false)
      (.rejected "recommendation Candidate or provider binding rejected")
    return ⟨candidateSet, graph, candidate⟩
  | _ => .error (.rejected "recommendation requires one proposed Candidate")

/-- `_prepare`; its first reading of the clock is `started`. -/
def prepareAt (started : ℕ) (recommendation : CandidateRecommendation) (result : TransportResult)
    (now deadline : Time) (idempotencyKey : String)
    (outcome : Option CandidateRecommendationGenerationOutcome) :
    Except RecommendationError CandidateRecommendationAdmissionPlan := do
  let found ← x.inputs recommendation result now started
  if window : now < deadline ∧ deadline ≤ now + 300000000 then
    raiseIf (x.scope.validUntil < deadline) (.rejected "recommendation deadline exceeds Scope")
    return {
      recommendationId := recommendation.recommendationId
      recommendationDigest := sealedRecommendation recommendation
      producerResultId := result.resultId
      producerResultDigest := sealedResult result
      candidateSetId := found.candidateSet.candidateSetId
      candidateId := found.candidate.candidateId
      candidateDigest := canonicalDigest found.candidate
      sourceGraphId := found.graph.graphId
      targetId := found.candidate.targetId
      targetVersionDigest := canonicalDigest found.candidate.targetVersion
      scopeId := x.scope.scopeId
      scopeVersion := x.scope.version
      scopeDigest := canonicalDigest x.scope
      createdAt := now
      deadline := deadline
      idempotencyKey := idempotencyKey
      generation := outcome.map bindingOf
      window := window }
  else .error (.rejected "recommendation admission plan rejected")

/-- `_generation_outcome`, with the recommendation it must have. -/
def generationOutcome (planId : Digest) : Except RecommendationError
    (CandidateRecommendationGenerationOutcome × CandidateRecommendation) := do
  let generations ← orRaise x.generations
    (.rejected "authoritative recommendation generation store is required")
  let outcome ← orRaise (generations planId)
    (.rejected "authoritative recommendation generation outcome rejected")
  let inadmissible := RecommendationError.rejected
    "completed recommendation generation outcome is not admissible"
  raiseIf (outcome.status ≠ .recommendationReady ∨ outcome.response = none ∨
    outcome.producerContentBindingVerified = false) inadmissible
  let recommendation ← orRaise outcome.recommendation inadmissible
  return (outcome, recommendation)

/-- `prepare`. -/
def prepare (recommendation : CandidateRecommendation) (result : TransportResult)
    (now deadline : Time) (idempotencyKey : String) :
    Except RecommendationError CandidateRecommendationAdmissionPlan :=
  x.prepareAt 0 recommendation result now deadline idempotencyKey none

/-- `prepare_generated`. -/
def prepareGenerated (generationPlanId : Digest) (now deadline : Time)
    (idempotencyKey : String) :
    Except RecommendationError CandidateRecommendationAdmissionPlan := do
  let (outcome, recommendation) ← x.generationOutcome generationPlanId
  x.prepareAt 0 recommendation outcome.transport now deadline idempotencyKey (some outcome)

/-- What a call of `_admit` is about. -/
structure Call where
  plan : CandidateRecommendationAdmissionPlan
  recommendation : CandidateRecommendation
  result : TransportResult
  outcome : Option CandidateRecommendationGenerationOutcome
  now : Time

/-- The call that `admit` makes. -/
def callOf (plan : CandidateRecommendationAdmissionPlan)
    (recommendation : CandidateRecommendation) (result : TransportResult) (now : Time) :
    Except RecommendationError Call := do
  raiseIf (plan.generation ≠ none)
    (.rejected "generated recommendation requires authoritative admission")
  return ⟨plan, recommendation, result, none, now⟩

/-- `_admit`, before the claim. -/
def preflight (call : Call) : Except RecommendationError Inputs := do
  raiseIf (call.now < call.plan.createdAt ∨ call.plan.deadline ≤ call.now)
    (.timedOut "recommendation admission window expired")
  let found ← x.inputs call.recommendation call.result call.now 0
  let expected ← x.prepareAt 2 call.recommendation call.result call.plan.createdAt
    call.plan.deadline call.plan.idempotencyKey call.outcome
  raiseIf (call.plan ≠ expected) (.rejected "recommendation admission binding drifted")
  return found

/-- `CandidateRecommendationRecord.create`, for a claimed call. -/
def createRecord (call : Call) (found : Inputs) :
    Except RecommendationError CandidateRecommendationRecord :=
  if bound : call.outcome.isSome = call.plan.generation.isSome then
    .ok {
      planId := call.plan.planId
      recommendationId := call.recommendation.recommendationId
      recommendationDigest := call.plan.recommendationDigest
      producerResultId := call.result.resultId
      producerResultDigest := call.plan.producerResultDigest
      candidateSetId := found.candidateSet.candidateSetId
      candidateId := found.candidate.candidateId
      candidateDigest := canonicalDigest found.candidate
      sourceGraphId := found.graph.graphId
      targetId := found.candidate.targetId
      targetVersionDigest := canonicalDigest found.candidate.targetVersion
      scopeId := x.scope.scopeId
      scopeVersion := x.scope.version
      admittedAt := call.now
      generation := call.plan.generation
      producerContentBindingVerified := call.outcome.isSome
      bound := bound }
  else .error (.validationError "recommendation record generation binding mismatch")

/-- `_admit`, after a claim that made a row. -/
def settle (call : Call) (found : Inputs) (rows : List RecommendationRow) :
    Except RecommendationError (List RecommendationRow × CandidateRecommendationRecord) := do
  x.check 0 4
  let record ← x.createRecord call found
  let completed ← completeAdmission rows record
  return (completed, record)

/-- `_admit` : the ledger it leaves, and what it returns or raises. -/
def admitCall (rows : List RecommendationRow) (call : Call) :
    List RecommendationRow × Except RecommendationError CandidateRecommendationRecord :=
  match x.preflight call with
  | .error e => (rows, .error e)
  | .ok found =>
    match claimAdmission rows call.plan with
    | .error e => (rows, .error e)
    | .ok (claimed, ⟨false, some record⟩) =>
      (claimed, (verifyRecord record call.plan found.candidate).map fun _ => record)
    | .ok (claimed, ⟨false, none⟩) =>
      (claimed, .error (.rejected "completed recommendation has no record"))
    | .ok (claimed, ⟨true, _⟩) =>
      match x.settle call found claimed with
      | .error e => (claimed, .error e)
      | .ok (completed, record) => (completed, .ok record)

/-- The call that `admit_generated` makes. -/
def generatedCallOf (plan : CandidateRecommendationAdmissionPlan) (now : Time) :
    Except RecommendationError Call := do
  let binding ← orRaise plan.generation
    (.rejected "recommendation generation binding is required")
  let (outcome, recommendation) ← x.generationOutcome binding.planId
  return ⟨plan, recommendation, outcome.transport, some outcome, now⟩

/-- `_admit`, of a call or of the exception it already raised. -/
def admitFrom (rows : List RecommendationRow) : Except RecommendationError Call →
    List RecommendationRow × Except RecommendationError CandidateRecommendationRecord
  | .error e => (rows, .error e)
  | .ok call => x.admitCall rows call

/-- `admit`. -/
def admitPlan (rows : List RecommendationRow) (plan : CandidateRecommendationAdmissionPlan)
    (recommendation : CandidateRecommendation) (result : TransportResult) (now : Time) :
    List RecommendationRow × Except RecommendationError CandidateRecommendationRecord :=
  x.admitFrom rows (callOf plan recommendation result now)

/-- `admit_generated`. -/
def admitGenerated (rows : List RecommendationRow) (plan : CandidateRecommendationAdmissionPlan)
    (now : Time) :
    List RecommendationRow × Except RecommendationError CandidateRecommendationRecord :=
  x.admitFrom rows (x.generatedCallOf plan now)

/-! ## What a call leaves -/

variable {x}
variable {call : Call}

/-- A plan that passes the preflight names a generation exactly when the call has its outcome. -/
theorem preflight_generation {found : Inputs} (h : x.preflight call = .ok found) :
    call.outcome.isSome = call.plan.generation.isSome := by
  simp only [preflight, bind_eq_ok, raiseIf_eq_ok, not_not, pure_eq_ok] at h
  obtain ⟨-, -, found', -, expected, hexpected, -, hplan, -⟩ := h
  simp only [prepareAt, bind_eq_ok] at hexpected
  obtain ⟨found'', -, hexpected⟩ := hexpected
  split_ifs at hexpected with hwindow
  simp only [bind_eq_ok, raiseIf_eq_ok, pure_eq_ok] at hexpected
  obtain ⟨-, -, rfl⟩ := hexpected
  rw [hplan]
  exact (Option.isSome_map ..).symm

variable {rows : List RecommendationRow} {plan : CandidateRecommendationAdmissionPlan}

theorem claimAdmission_fresh (h : ∀ row ∈ rows, recommendationClash plan.row row = false) :
    claimAdmission rows plan = .ok (rows ++ [plan.row], ⟨true, none⟩) := by
  have hfind : rows.find? (recommendationClash plan.row) = none :=
    List.find?_eq_none.mpr fun row hrow => by simp [h row hrow]
  have hinsert : Table.insert recommendationClash rows plan.row = some (rows ++ [plan.row]) :=
    Table.insert_eq_some.mpr ⟨h, rfl⟩
  simp only [claimAdmission, readAdmission, hfind, hinsert, orRaise, ok_bind, pure, Except.pure]

/-- A claim that is not fresh leaves the ledger as it is. -/
theorem claimAdmission_taken {claimed : List RecommendationRow}
    {claim : CandidateRecommendationClaim} (h : claimAdmission rows plan = .ok (claimed, claim))
    (htaken : ∃ row ∈ rows, recommendationClash plan.row row = true) :
    claimed = rows ∧ ∃ record, claim = ⟨false, some record⟩ := by
  have hfind : (rows.find? (recommendationClash plan.row)).isSome := List.find?_isSome.mpr htaken
  obtain ⟨row, hrow⟩ := Option.isSome_iff_exists.mp hfind
  simp only [claimAdmission, bind_eq_ok] at h
  obtain ⟨read, hread, h⟩ := h
  simp only [readAdmission, hrow, bind_eq_ok, pure_eq_ok] at hread
  obtain ⟨-, -, -, -, record, -, rfl⟩ := hread
  cases h
  exact ⟨rfl, record, rfl⟩

/-- A completion finds the row of a fresh claim. -/
theorem completeAdmission_fresh (h : ∀ row ∈ rows, recommendationClash plan.row row = false)
    {record : CandidateRecommendationRecord} (hrecord : record.planId = plan.planId) :
    ∃ completed, completeAdmission (rows ++ [plan.row]) record = .ok completed := by
  have hnone : rows.countP (RecommendationRow.awaits record) = 0 := by
    refine List.countP_eq_zero.mpr fun row hrow hawaits => ?_
    have hclash := h row hrow
    simp only [RecommendationRow.awaits, Bool.decide_and, Bool.and_eq_true, decide_eq_true_eq]
      at hawaits
    simp only [recommendationClash, decide_eq_false_iff_not, not_or] at hclash
    exact hclash.1 (hawaits.1.trans hrecord).symm
  have hone : Table.rowcount (RecommendationRow.awaits record) (rows ++ [plan.row]) = 1 := by
    rw [Table.rowcount, List.countP_append, hnone, List.countP_singleton]
    simp [RecommendationRow.awaits, CandidateRecommendationAdmissionPlan.row, hrecord]
  simp [completeAdmission, hone, raiseIf, pure, Except.pure]

/-- The call passes its checks, and the ledger has no row for its plan, its recommendation or its
key. -/
def Fresh (x : AdmissionService) (rows : List RecommendationRow) (call : Call) : Prop :=
  (∃ found, x.preflight call = .ok found) ∧
    ∀ row ∈ rows, recommendationClash call.plan.row row = false

/-- A fresh call raises exactly when its last reading is too late. -/
theorem admitCall_fresh (h : x.Fresh rows call) : (x.admitCall rows call).1 ≠ rows ∧
      ((∃ e, (x.admitCall rows call).2 = .error e) ↔ x.clock 0 + x.timeout ≤ x.clock 4) := by
  obtain ⟨⟨found, hfound⟩, hfresh⟩ := h
  have hclaim := claimAdmission_fresh hfresh
  simp only [admitCall, hfound, hclaim]
  by_cases hlate : x.clock 0 + x.timeout ≤ x.clock 4
  · have hsettle : x.settle call found (rows ++ [call.plan.row]) =
        .error (.timedOut "recommendation admission timed out") := by
      simp [settle, check, raiseIf, hlate, bind, Except.bind]
    simp [hsettle, hlate]
  · have hcreate : ∃ record, x.createRecord call found = .ok record ∧
        record.planId = call.plan.planId := by
      rw [createRecord, dif_pos (preflight_generation hfound)]
      exact ⟨_, rfl, rfl⟩
    obtain ⟨record, hrecord, hid⟩ := hcreate
    obtain ⟨completed, hcompleted⟩ := completeAdmission_fresh hfresh hid
    have hsettle : x.settle call found (rows ++ [call.plan.row]) = .ok (completed, record) := by
      simp [settle, check, raiseIf, hlate, hrecord, hcompleted, pure, Except.pure]
    have hlength : completed.length = rows.length + 1 := by
      simp only [completeAdmission, bind_eq_ok, pure_eq_ok] at hcompleted
      obtain ⟨-, -, rfl⟩ := hcompleted
      simp
    simp only [hsettle, hlate, iff_false]
    refine ⟨fun heq => ?_, by rintro ⟨e, he⟩; cases he⟩
    rw [heq] at hlength
    omega

/-- A call that is not fresh leaves the ledger as it is. -/
theorem admitCall_stale (h : ¬x.Fresh rows call) : (x.admitCall rows call).1 = rows := by
  unfold admitCall
  split
  · rfl
  next found hfound =>
    have htaken : ∃ row ∈ rows, recommendationClash call.plan.row row = true := by
      by_contra hnone
      push Not at hnone
      exact h ⟨⟨found, hfound⟩, fun row hrow => by simpa using hnone row hrow⟩
    cases hclaim : claimAdmission rows call.plan with
    | error e => rfl
    | ok claimed =>
      obtain ⟨rows', claim⟩ := claimed
      obtain ⟨rfl, record, rfl⟩ := claimAdmission_taken hclaim htaken
      rfl

/-- A call that raises leaves the ledger as it was exactly when it is not fresh or its last
reading is in time. -/
theorem admitCall_leaves_iff (rows : List RecommendationRow) (call : Call) :
    ((∃ e, (x.admitCall rows call).2 = .error e) → (x.admitCall rows call).1 = rows) ↔
      (x.Fresh rows call → x.clock 4 < x.clock 0 + x.timeout) := by
  by_cases hfresh : x.Fresh rows call
  · obtain ⟨hne, hraises⟩ := admitCall_fresh hfresh
    rw [hraises, imp_iff_right hfresh, ← not_le]
    exact ⟨fun h hlate => hne (h hlate), fun h hlate => absurd hlate h⟩
  · exact iff_of_true (fun _ => admitCall_stale hfresh) fun h => absurd h hfresh

/-- The same, of a call that may have raised before. -/
theorem admitFrom_leaves_iff (rows : List RecommendationRow)
    (call : Except RecommendationError Call) :
    ((∃ e, (x.admitFrom rows call).2 = .error e) → (x.admitFrom rows call).1 = rows) ↔
      ∀ c, call = .ok c → x.Fresh rows c → x.clock 4 < x.clock 0 + x.timeout := by
  cases call with
  | error e => exact iff_of_true (fun _ => rfl) fun c hc => (nomatch hc)
  | ok c =>
    simp only [admitFrom, admitCall_leaves_iff, Except.ok.injEq, forall_eq']

end

end AdmissionService

end VulnLoom

import VulnLoom.RecommendationAdmission
import VulnLoom.SelectionStore

/-!
# Selection of recommendations

The service that records a human decision on an admitted recommendation. It reads the admission
ledger, checks what is stored against it, claims the ledger of selections, reads the clock once
more and completes its row.

`decisions_leave_no_trace_iff` : an admission or a selection that raises leaves its ledger as it
was exactly when it is not fresh or its reading of the clock after the claim is in time.
-/

set_option linter.unusedSectionVars false

namespace VulnLoom

section

variable [CandidateDigests] [RecommendationDigests]
  [CanonicalDigest CandidateRecommendationSelectionCommand]

/-- An exception of the selection service. -/
inductive SelectionServiceError
  | rejected (reason : String)
  | timedOut (reason : String)
  | store (error : SelectionError)
  | validationError (reason : String)
  deriving DecidableEq

/-- `CandidateRecommendationSelectionService`, with what its stores return, the admission ledger,
and what the clock shows at each reading of a call. -/
structure SelectionService where
  scope : Scope
  /-- `graph_store.load` -/
  graphs : Digest → Option SourceGraph
  /-- `candidate_store.load` -/
  candidates : Digest → Option CandidateSet
  admissions : List RecommendationRow
  /-- `generation_store.load_completed` -/
  generations : Digest → Option CandidateRecommendationGenerationOutcome
  timeout : Time
  clock : ℕ → Time

namespace SelectionService

/-- What the inputs are found to be. -/
structure Inputs where
  admission : CandidateRecommendationRecord
  generation : GenerationBinding
  outcome : CandidateRecommendationGenerationOutcome
  candidateSet : CandidateSet
  graph : SourceGraph
  candidate : Candidate

/-- `_verify_record`. -/
def verifyRecord (record : CandidateRecommendationSelectionRecord)
    (command : CandidateRecommendationSelectionCommand) (candidate : Candidate) :
    Except SelectionServiceError Unit :=
  raiseIf (record.commandId ≠ command.commandId ∨
      record.admissionRecordId ≠ command.admissionRecordId ∨
      record.admissionRecordDigest ≠ command.admissionRecordDigest ∨
      record.recommendationId ≠ command.recommendationId ∨
      record.generationOutcomeId ≠ command.generationOutcomeId ∨
      record.candidateDigest ≠ canonicalDigest candidate ∨ record.decision ≠ command.decision ∨
      record.reviewerId ≠ command.reviewerId)
    (.rejected "recommendation selection record drifted")

section

variable (x : SelectionService)

/-- `_check`, at a reading. -/
def check (started reading : ℕ) : Except SelectionServiceError Unit :=
  raiseIf (x.clock started + x.timeout ≤ x.clock reading)
    (.timedOut "recommendation selection timed out")

/-- The admission, its generation and what is stored belong together and to the scope. -/
def hasProvenance (admission : CandidateRecommendationRecord) (generation : GenerationBinding)
    (outcome : CandidateRecommendationGenerationOutcome)
    (recommendation : CandidateRecommendation) (candidateSet : CandidateSet)
    (graph : SourceGraph) (candidate : Candidate) (at_ : Time) : Bool :=
  admission.producerContentBindingVerified ∧ generation.planId = outcome.planId ∧
    generation.outcomeId = outcome.outcomeId ∧
    generation.outcomeDigest = sealedOutcome outcome ∧
    outcome.status = .recommendationReady ∧
    admission.recommendationId = recommendation.recommendationId ∧
    admission.recommendationDigest = sealedRecommendation recommendation ∧
    admission.producerResultId = outcome.transport.resultId ∧
    admission.producerResultDigest = sealedResult outcome.transport ∧
    admission.candidateDigest = canonicalDigest candidate ∧
    admission.targetId = candidate.targetId ∧
    admission.targetVersionDigest = canonicalDigest candidate.targetVersion ∧
    admission.scopeId = x.scope.scopeId ∧ admission.scopeVersion = x.scope.version ∧
    admission.admittedAt ≤ at_ ∧ sourceGraphDigest graph = graph.graphId ∧
    candidateSet.sourceGraphId = graph.graphId ∧ graph.scopeId = x.scope.scopeId ∧
    graph.scopeVersion = x.scope.version

/-- `_inputs`; its check reads the clock after `started`. -/
def inputs (admissionRecordId : Digest) (at_ : Time) (started : ℕ) :
    Except SelectionServiceError Inputs := do
  raiseIf (x.scope.isCurrent at_ = false)
    (.rejected "recommendation selection requires approved Scope")
  let unavailable := SelectionServiceError.rejected
    "recommendation selection authoritative inputs rejected"
  let admission ← (loadCompletedAdmission x.admissions admissionRecordId).mapError fun _ =>
    unavailable
  let generation ← orRaise admission.generation unavailable
  let outcome ← orRaise (x.generations generation.planId) unavailable
  let candidateSet ← orRaise (x.candidates admission.candidateSetId) unavailable
  let graph ← orRaise (x.graphs admission.sourceGraphId) unavailable
  x.check started (started + 1)
  match candidateSet.candidates.filter fun c => c.candidateId = admission.candidateId with
  | [candidate] =>
    raiseIf (candidate.state ≠ .proposed)
      (.rejected "recommendation selection requires one proposed Candidate")
    let recommendation ← orRaise outcome.recommendation
      (.rejected "recommendation selection provenance rejected")
    raiseIf (x.hasProvenance admission generation outcome recommendation candidateSet graph
        candidate at_ = false)
      (.rejected "recommendation selection provenance rejected")
    return ⟨admission, generation, outcome, candidateSet, graph, candidate⟩
  | _ => .error (.rejected "recommendation selection requires one proposed Candidate")

/-- `prepare`; its first reading of the clock is `started`. -/
def prepareAt (started : ℕ) (admissionRecordId : Digest)
    (decision : CandidateRecommendationSelectionDecision) (reviewerId : String)
    (decidedAt expiresAt : Time) (idempotencyKey : String) :
    Except SelectionServiceError CandidateRecommendationSelectionCommand := do
  let found ← x.inputs admissionRecordId decidedAt started
  if window : decidedAt < expiresAt ∧ expiresAt ≤ decidedAt + 300000000 then
    raiseIf (x.scope.validUntil < expiresAt)
      (.rejected "recommendation selection deadline exceeds Scope")
    return {
      admissionPlanId := found.admission.planId
      admissionRecordId := found.admission.recordId
      admissionRecordDigest := sealedRecord found.admission
      recommendationId := found.admission.recommendationId
      recommendationDigest := found.admission.recommendationDigest
      generationPlanId := found.outcome.planId
      generationOutcomeId := found.outcome.outcomeId
      generationOutcomeDigest := sealedOutcome found.outcome
      candidateSetId := found.candidateSet.candidateSetId
      candidateId := found.candidate.candidateId
      candidateDigest := canonicalDigest found.candidate
      sourceGraphId := found.graph.graphId
      targetId := found.candidate.targetId
      targetVersionDigest := canonicalDigest found.candidate.targetVersion
      scopeId := x.scope.scopeId
      scopeVersion := x.scope.version
      scopeDigest := canonicalDigest x.scope
      decision := decision
      reviewerId := reviewerId
      decidedAt := decidedAt
      expiresAt := expiresAt
      idempotencyKey := idempotencyKey
      window := window }
  else .error (.rejected "recommendation selection command rejected")

/-- `record`, before the claim. -/
def preflight (command : CandidateRecommendationSelectionCommand) (now : Time) :
    Except SelectionServiceError Inputs := do
  raiseIf (now < command.decidedAt ∨ command.expiresAt ≤ now)
    (.timedOut "recommendation selection window expired")
  let found ← x.inputs command.admissionRecordId command.decidedAt 0
  let expected ← x.prepareAt 2 found.admission.recordId command.decision command.reviewerId
    command.decidedAt command.expiresAt command.idempotencyKey
  raiseIf (command ≠ expected) (.rejected "recommendation selection binding drifted")
  return found

end

/-- `CandidateRecommendationSelectionRecord.create`, for a claimed command. -/
def createRecord (command : CandidateRecommendationSelectionCommand) (now : Time) :
    Except SelectionServiceError CandidateRecommendationSelectionRecord :=
  if recorded_after : command.decidedAt ≤ now then
    .ok {
      commandId := command.commandId
      admissionPlanId := command.admissionPlanId
      admissionRecordId := command.admissionRecordId
      admissionRecordDigest := command.admissionRecordDigest
      recommendationId := command.recommendationId
      generationPlanId := command.generationPlanId
      generationOutcomeId := command.generationOutcomeId
      candidateSetId := command.candidateSetId
      candidateId := command.candidateId
      candidateDigest := command.candidateDigest
      targetId := command.targetId
      targetVersionDigest := command.targetVersionDigest
      scopeId := command.scopeId
      scopeVersion := command.scopeVersion
      decision := command.decision
      reviewerId := command.reviewerId
      decidedAt := command.decidedAt
      recordedAt := now
      recorded_after := recorded_after }
  else .error (.validationError "recommendation selection record time is invalid")

section

variable (x : SelectionService)

/-- `record`, after a claim that made a row. -/
def settle (command : CandidateRecommendationSelectionCommand) (now : Time)
    (rows : List SelectionRow) : Except SelectionServiceError
      (List SelectionRow × CandidateRecommendationSelectionRecord) := do
  x.check 0 4
  let record ← createRecord command now
  let completed ← (completeSelection rows record).mapError SelectionServiceError.store
  return (completed, record)

/-- `record` : the ledger it leaves, and what it returns or raises. -/
def record (rows : List SelectionRow) (command : CandidateRecommendationSelectionCommand)
    (now : Time) : List SelectionRow ×
      Except SelectionServiceError CandidateRecommendationSelectionRecord :=
  match x.preflight command now with
  | .error e => (rows, .error e)
  | .ok found =>
    match claimSelection rows command with
    | .error e => (rows, .error (.store e))
    | .ok (claimed, ⟨false, some record⟩) =>
      (claimed, (verifyRecord record command found.candidate).map fun _ => record)
    | .ok (claimed, ⟨false, none⟩) =>
      (claimed, .error (.rejected "completed recommendation selection has no record"))
    | .ok (claimed, ⟨true, _⟩) =>
      match x.settle command now claimed with
      | .error e => (claimed, .error e)
      | .ok (completed, record) => (completed, .ok record)

/-! ## What a call leaves -/

variable {x}
variable {command : CandidateRecommendationSelectionCommand} {now : Time}

theorem preflight_window {found : Inputs} (h : x.preflight command now = .ok found) :
    command.decidedAt ≤ now := by
  simp only [preflight, bind_eq_ok, raiseIf_eq_ok, not_or, not_lt] at h
  obtain ⟨-, ⟨hdecided, -⟩, -⟩ := h
  exact hdecided

variable {rows : List SelectionRow}

theorem readSelection_fresh (h : ∀ row ∈ rows, selectionClash command.row row = false) :
    readSelection rows command = .ok none := by
  have hfind : rows.find? (fun row => row.commandId = command.commandId ∨
      row.command.idempotencyKey = command.idempotencyKey) = none := by
    refine List.find?_eq_none.mpr fun row hrow => ?_
    have hclash := h row hrow
    simp only [selectionClash, decide_eq_false_iff_not, not_or] at hclash
    simp only [decide_eq_true_eq, not_or]
    exact ⟨fun heq => hclash.1 heq.symm, fun heq => hclash.2 heq.symm⟩
  rw [readSelection, hfind]

/-- A row that clashes with the command's is read as the record of the command, if at all. -/
theorem readSelection_taken {read : Option CandidateRecommendationSelectionRecord}
    (h : readSelection rows command = .ok read)
    (htaken : ∃ row ∈ rows, selectionClash command.row row = true) :
    ∃ record, read = some record := by
  have hfind : (rows.find? (fun row => row.commandId = command.commandId ∨
      row.command.idempotencyKey = command.idempotencyKey)).isSome := by
    obtain ⟨row, hrow, hclash⟩ := htaken
    refine List.find?_isSome.mpr ⟨row, hrow, ?_⟩
    simp only [selectionClash, decide_eq_true_eq] at hclash
    simp only [decide_eq_true_eq]
    exact hclash.imp Eq.symm Eq.symm
  obtain ⟨row, hrow⟩ := Option.isSome_iff_exists.mp hfind
  simp only [readSelection, hrow, bind_eq_ok, pure_eq_ok] at h
  obtain ⟨-, -, -, -, record, -, rfl⟩ := h
  exact ⟨record, rfl⟩

/-- The ledger has no row for the command or its key, and the decisions on its admission are
open. -/
def Open (rows : List SelectionRow) (command : CandidateRecommendationSelectionCommand) : Prop :=
  (∀ row ∈ rows, selectionClash command.row row = false) ∧
    checkDecisions (decisions rows command.admissionRecordId).reverse = .ok ()

theorem claimSelection_open (h : Open rows command) :
    claimSelection rows command = .ok (rows ++ [command.row], ⟨true, none⟩) := by
  obtain ⟨hfresh, hcheck⟩ := h
  have hinsert : insertSelection rows command = .ok (rows ++ [command.row]) :=
    orRaise_eq_ok.mpr (Table.insert_eq_some.mpr ⟨hfresh, rfl⟩)
  simp only [claimSelection, readSelection_fresh hfresh, hcheck, hinsert, ok_bind, pure,
    Except.pure]

/-- A claim that is not open leaves the ledger as it is. -/
theorem claimSelection_stale {claimed : List SelectionRow}
    {claim : CandidateRecommendationSelectionClaim}
    (h : claimSelection rows command = .ok (claimed, claim)) (hstale : ¬Open rows command) :
    claimed = rows ∧ ∃ record, claim = ⟨false, some record⟩ := by
  simp only [claimSelection, bind_eq_ok] at h
  obtain ⟨read, hread, h⟩ := h
  cases read with
  | some record =>
    cases h
    exact ⟨rfl, record, rfl⟩
  | none =>
    simp only [bind_eq_ok] at h
    obtain ⟨u, hcheck, -⟩ := h
    refine absurd ⟨fun row hrow => ?_, hcheck⟩ hstale
    by_contra hclash
    obtain ⟨record, hrecord⟩ := readSelection_taken hread ⟨row, hrow, by simpa using hclash⟩
    cases hrecord

/-- A completion finds the row of an open claim. -/
theorem completeSelection_open (h : ∀ row ∈ rows, selectionClash command.row row = false)
    {record : CandidateRecommendationSelectionRecord}
    (hrecord : record.commandId = command.commandId) :
    ∃ completed, completeSelection (rows ++ [command.row]) record = .ok completed := by
  have hnone : rows.countP (SelectionRow.awaits record) = 0 := by
    refine List.countP_eq_zero.mpr fun row hrow hawaits => ?_
    have hclash := h row hrow
    simp only [SelectionRow.awaits, Bool.decide_and, Bool.and_eq_true, decide_eq_true_eq]
      at hawaits
    simp only [selectionClash, decide_eq_false_iff_not, not_or] at hclash
    exact hclash.1 (hawaits.1.trans hrecord).symm
  have hone : Table.rowcount (SelectionRow.awaits record) (rows ++ [command.row]) = 1 := by
    rw [Table.rowcount, List.countP_append, hnone, List.countP_singleton]
    simp [SelectionRow.awaits, CandidateRecommendationSelectionCommand.row, hrecord]
  simp [completeSelection, hone, raiseIf, pure, Except.pure]

/-- The command passes its checks, and the ledger is open for it. -/
def Fresh (x : SelectionService) (rows : List SelectionRow)
    (command : CandidateRecommendationSelectionCommand) (now : Time) : Prop :=
  (∃ found, x.preflight command now = .ok found) ∧ Open rows command

/-- A fresh call raises exactly when its last reading is too late. -/
theorem record_fresh (h : x.Fresh rows command now) : (x.record rows command now).1 ≠ rows ∧
      ((∃ e, (x.record rows command now).2 = .error e) ↔
        x.clock 0 + x.timeout ≤ x.clock 4) := by
  obtain ⟨⟨found, hfound⟩, hopen⟩ := h
  have hclaim := claimSelection_open hopen
  simp only [record, hfound, hclaim]
  by_cases hlate : x.clock 0 + x.timeout ≤ x.clock 4
  · have hsettle : x.settle command now (rows ++ [command.row]) =
        .error (.timedOut "recommendation selection timed out") := by
      simp [settle, check, raiseIf, hlate, bind, Except.bind]
    simp [hsettle, hlate]
  · have hcreate : ∃ record, createRecord command now = .ok record ∧
        record.commandId = command.commandId := by
      rw [createRecord, dif_pos (preflight_window hfound)]
      exact ⟨_, rfl, rfl⟩
    obtain ⟨record, hrecord, hid⟩ := hcreate
    obtain ⟨completed, hcompleted⟩ := completeSelection_open hopen.1 hid
    have hsettle : x.settle command now (rows ++ [command.row]) = .ok (completed, record) := by
      simp [settle, check, raiseIf, hlate, hrecord, hcompleted, Except.mapError, pure,
        Except.pure]
    have hlength : completed.length = rows.length + 1 := by
      simp only [completeSelection, bind_eq_ok, pure_eq_ok] at hcompleted
      obtain ⟨-, -, rfl⟩ := hcompleted
      simp
    simp only [hsettle, hlate, iff_false]
    refine ⟨fun heq => ?_, by rintro ⟨e, he⟩; cases he⟩
    rw [heq] at hlength
    omega

/-- A call that is not fresh leaves the ledger as it is. -/
theorem record_stale (h : ¬x.Fresh rows command now) : (x.record rows command now).1 = rows := by
  unfold record
  split
  · rfl
  next found hfound =>
    have hstale : ¬Open rows command := fun hopen => h ⟨⟨found, hfound⟩, hopen⟩
    cases hclaim : claimSelection rows command with
    | error e => rfl
    | ok claimed =>
      obtain ⟨rows', claim⟩ := claimed
      obtain ⟨rfl, record, rfl⟩ := claimSelection_stale hclaim hstale
      rfl

/-- A call that raises leaves the ledger as it was exactly when it is not fresh or its last
reading is in time. -/
theorem record_leaves_iff (rows : List SelectionRow)
    (command : CandidateRecommendationSelectionCommand) (now : Time) :
    ((∃ e, (x.record rows command now).2 = .error e) → (x.record rows command now).1 = rows) ↔
      (x.Fresh rows command now → x.clock 4 < x.clock 0 + x.timeout) := by
  by_cases hfresh : x.Fresh rows command now
  · obtain ⟨hne, hraises⟩ := record_fresh hfresh
    rw [hraises, imp_iff_right hfresh, ← not_le]
    exact ⟨fun h hlate => hne (h hlate), fun h hlate => absurd hlate h⟩
  · exact iff_of_true (fun _ => record_stale hfresh) fun h => absurd h hfresh

end

end SelectionService

/-! ## Both ledgers -/

/-- A call that raises leaves the rows it found. -/
def LeavesNoTrace {ρ ε α : Type} (rows : List ρ) (after : List ρ × Except ε α) : Prop :=
  (∃ e, after.2 = .error e) → after.1 = rows

/-- Admissions, admissions of generated recommendations and selections leave no trace when they
raise, except that a fresh one whose reading of the clock after the claim is too late does. -/
theorem decisions_leave_no_trace_iff (x : AdmissionService) (y : SelectionService) :
    (∀ rows plan recommendation result now,
      LeavesNoTrace rows (x.admitPlan rows plan recommendation result now) ↔
        ∀ call, AdmissionService.callOf plan recommendation result now = .ok call →
          x.Fresh rows call → x.clock 4 < x.clock 0 + x.timeout) ∧
    (∀ rows plan now, LeavesNoTrace rows (x.admitGenerated rows plan now) ↔
        ∀ call, x.generatedCallOf plan now = .ok call →
          x.Fresh rows call → x.clock 4 < x.clock 0 + x.timeout) ∧
    ∀ rows command now, LeavesNoTrace rows (y.record rows command now) ↔
      (y.Fresh rows command now → y.clock 4 < y.clock 0 + y.timeout) := by
  refine ⟨fun rows plan recommendation result now => ?_, fun rows plan now => ?_,
    fun rows command now => ?_⟩
  · exact AdmissionService.admitFrom_leaves_iff rows _
  · exact AdmissionService.admitFrom_leaves_iff rows _
  · exact SelectionService.record_leaves_iff rows command now

end

/-! ## An admission that is late after its claim -/

section Sample

@[reducible] def textRecommendationDigests : RecommendationDigests where
  candidate := ⟨Candidate.candidateId⟩
  text := ⟨id⟩
  scope := ⟨Scope.scopeId⟩
  result := ⟨TransportResult.planId⟩
  recommendation := ⟨CandidateRecommendation.rationale⟩
  outcome := ⟨CandidateRecommendationGenerationOutcome.planId⟩
  plan := ⟨CandidateRecommendationAdmissionPlan.idempotencyKey⟩
  record := ⟨CandidateRecommendationRecord.planId⟩
  sealedResult result := "sealed " ++ result.planId
  sealedRecommendation recommendation := "sealed " ++ recommendation.rationale
  sealedOutcome outcome := "sealed " ++ outcome.planId
  sealedRecord record := "sealed " ++ record.planId
  sourceGraphDigest := SourceGraph.content

attribute [local instance] textCandidateDigests textRecommendationDigests selectionText

def recommendedCandidate : Candidate where
  candidateId := "c"
  targetId := "t"
  targetVersion := "v1"
  sourceGraphId := "g"
  scopeId := "s"
  scopeVersion := 1
  title := "query built from a parameter"
  cwe := "CWE-89"
  entryPoint := ⟨"app.py", 1, none⟩
  sink := ⟨"app.py", 2, none⟩
  codePath := [⟨"app.py", 1, none⟩, ⟨"app.py", 2, none⟩]
  preconditions := []
  securityInvariant := "parameters are bound"
  hypothesis := "the parameter reaches the query"
  signalIds := ["signal"]
  cheapestDisproof := "the parameter is a number"
  duplicateFingerprint := "fingerprint"
  confidence := 1
  state := .proposed

def recommendedSet : CandidateSet where
  sourceGraphId := "g"
  targetId := "t"
  targetVersion := "v1"
  scopeId := "s"
  scopeVersion := 1
  generatorVersion := "1"
  candidates := [recommendedCandidate]
  excludedSignalIds := []
  provenance := by decide
  ids_nodup := by decide
  fingerprints_nodup := by decide
  signals_disjoint := by decide

def recommendedResult : TransportResult where
  providerId := none
  planId := "generation"
  status := .passed
  inputTokens := 10
  outputTokens := 10
  processStarted := true
  cleanupVerified := true
  attemptDigest := some "attempt"
  receiptDigest := some "receipt"
  completedAt := 5
  diagnostic := none
  responseModel := some "deepseek-v4-flash"

def sampleRecommendation : CandidateRecommendation where
  candidateSetId := "g"
  candidateId := "c"
  candidateDigest := "c"
  sourceGraphId := "g"
  targetId := "t"
  targetVersionDigest := "v1"
  scopeId := "s"
  scopeVersion := 1
  supportingSignalIds := ["signal"]
  citedLocations := [⟨"app.py", 2, none⟩]
  priority := .high
  rationale := "the query is built from text"
  reviewQuestions := []
  producerResultId := "generation"
  producerPlanId := "generation"
  producerReceiptDigest := "receipt"
  createdAt := 5

/-- A service whose clock shows 3 seconds after the claim, and 0 before; its limit is 2. -/
def lateService : AdmissionService where
  scope := sampleHuntScope
  graphs := fun _ => some ⟨"g", "t", "v1", "s", 1, "g"⟩
  candidates := fun _ => some recommendedSet
  generations := none
  timeout := 2000000
  clock reading := if reading < 4 then 0 else 3000000

def latePlan : CandidateRecommendationAdmissionPlan where
  recommendationId := "the query is built from text"
  recommendationDigest := "sealed the query is built from text"
  producerResultId := "generation"
  producerResultDigest := "sealed generation"
  candidateSetId := "g"
  candidateId := "c"
  candidateDigest := "c"
  sourceGraphId := "g"
  targetId := "t"
  targetVersionDigest := "v1"
  scopeId := "s"
  scopeVersion := 1
  scopeDigest := "s"
  createdAt := 6
  deadline := 20
  idempotencyKey := "k"
  generation := none
  window := by decide

/-- The admission raises a timeout and leaves a started row. -/
theorem late_admission_leaves_trace :
    lateService.admitPlan [] latePlan sampleRecommendation recommendedResult 7 =
        ([latePlan.row], .error (.timedOut "recommendation admission timed out")) ∧
      ¬LeavesNoTrace []
        (lateService.admitPlan [] latePlan sampleRecommendation recommendedResult 7) := by
  have hlate : lateService.admitPlan [] latePlan sampleRecommendation recommendedResult 7 =
      ([latePlan.row], .error (.timedOut "recommendation admission timed out")) := by
    decide +kernel
  refine ⟨hlate, fun h => ?_⟩
  rw [hlate] at h
  exact absurd (h ⟨_, rfl⟩) (by simp)

end Sample

end VulnLoom

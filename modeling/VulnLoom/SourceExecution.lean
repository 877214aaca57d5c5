import VulnLoom.Sessions
import VulnLoom.SourceExecutionModels

/-!
# Source execution

The store of source executions, the service that runs the stages of a plan, and the binding of a
reproduced chain to the validation objects. An execution goes on from the outcome that is stored :
each stage is run, and then saved by comparing the stored outcome with the one the execution holds.

A call of the service is a sequence of steps (`sourceExecutions`) : the preflight with the claim,
then for each stage the run and the save, and last the terminal save. The runner, the evidence
store, the adapter and the store of recipe bindings are given with the call.
-/

namespace VulnLoom

open Connections

variable [PythonUrl] [PolicyDigests] [BrokerDigests] [ValidationDigests] [SourceHuntDigests]
  [SourceExecutionDigests] [ReceiptJson]

/-! ## The store -/

/-- A row of `source_executions`. -/
structure SourceExecutionRow where
  plan : SourceExecutionPlan
  outcome : SourceExecutionOutcome

/-- `source_executions` and `source_validation_bindings`. -/
structure SourceExecutionStore where
  executions : List SourceExecutionRow
  bindings : List SourceValidationBinding

namespace SourceExecutionStore

def empty : SourceExecutionStore :=
  ⟨[], []⟩

/-- The primary key, and the unique idempotency key. -/
def clash (a b : SourceExecutionRow) : Bool :=
  a.plan.planId = b.plan.planId ∨ a.plan.idempotencyKey = b.plan.idempotencyKey

/-- `SourceExecutionStore.claim`. -/
def claim (store : SourceExecutionStore) (plan : SourceExecutionPlan)
    (initial : SourceExecutionOutcome) :
    Except SourceExecutionError (SourceExecutionStore × SourceExecutionOutcome) :=
  match store.executions.find? fun row => row.plan.idempotencyKey = plan.idempotencyKey with
  | some row => do
    raiseIf (row.plan ≠ plan) (.storeRejected "Source execution idempotency collision")
    return (store, row.outcome)
  | none => do
    let executions ← orRaise (Table.insert clash store.executions ⟨plan, initial⟩) .integrityError
    return ({ store with executions := executions }, initial)

/-- The row of a plan that still has the outcome `previous`. -/
def holds (plan : SourceExecutionPlan) (previous : SourceExecutionOutcome)
    (row : SourceExecutionRow) : Bool :=
  row.plan.planId = plan.planId ∧ row.outcome = previous

/-- `SourceExecutionStore.save`. -/
def save (store : SourceExecutionStore) (plan : SourceExecutionPlan)
    (previous outcome : SourceExecutionOutcome) :
    Except SourceExecutionError SourceExecutionStore := do
  raiseIf (Table.rowcount (holds plan previous) store.executions ≠ 1)
    (.storeRejected "Source execution checkpoint is stale")
  return { store with
    executions := Table.update (holds plan previous) ({ · with outcome := outcome })
      store.executions }

/-- `SourceExecutionStore.load`. -/
def load (store : SourceExecutionStore) (planId : Digest) :
    Except SourceExecutionError SourceExecutionOutcome := do
  let row ← orRaise (store.executions.find? fun row => row.plan.planId = planId)
    (.storeRejected "Source execution is unavailable")
  return row.outcome

/-- `SourceExecutionStore.put_validation_binding`. -/
def putValidationBinding (store : SourceExecutionStore) (binding : SourceValidationBinding) :
    Except SourceExecutionError (SourceExecutionStore × SourceValidationBinding) :=
  match store.bindings.find? fun item => item.executionPlanId = binding.executionPlanId with
  | some existing => do
    raiseIf (existing ≠ binding) (.storeRejected "Source validation binding collision")
    return (store, existing)
  | none => .ok ({ store with bindings := store.bindings ++ [binding] }, binding)

/-- `SourceExecutionStore.load_validation_binding`. -/
def loadValidationBinding (store : SourceExecutionStore) (executionPlanId : Digest) :
    Except SourceExecutionError SourceValidationBinding :=
  orRaise (store.bindings.find? fun item => item.executionPlanId = executionPlanId)
    (.storeRejected "Source validation binding is unavailable")

end SourceExecutionStore

/-! ## Executions -/

/-- `ProjectRecipeCandidateBindingView`. -/
structure ProjectRecipeBinding where
  bindingId : Digest
  indexId : Digest
  manifestId : Digest
  targetId : UUID
  targetVersion : String
  scopeId : UUID
  scopeVersion : ℕ
  candidateId : UUID
  candidateDigest : Digest
  deriving DecidableEq

/-- `SourceExecutionEvidenceAdapter`. -/
structure SourceEvidenceAdapter where
  registryDigest : Option Digest
  validateRequest : SourceExecutionStage → SandboxRunRequest → Except SourceExecutionError Unit
  capture : SourceExecutionStage → SandboxRunResult → String →
    Except SourceExecutionError (List Digest)

/-- A call of `SourceExecutionService.execute`, with the service's scope and collaborators. -/
structure SourceExecution where
  scope : Scope
  runner : SandboxRunRequest → Except SourceExecutionError SandboxRunResult
  /-- `evidence_store.contains` -/
  contains : Digest → Bool
  /-- `evidence_store.read_text_ref` -/
  readTextRef : Digest → Option String
  adapter : Option SourceEvidenceAdapter
  /-- `load_candidate_binding` of the store of recipe bindings -/
  loadRecipe : Option (Digest → Option ProjectRecipeBinding)
  plan : SourceExecutionPlan
  index : RepositoryIndex
  investigation : InvestigationCheckpoint
  candidate : Candidate
  approval : ApprovalRequest
  now : Time
  recipe : Option ProjectRecipeBinding

/-- `_recipe_binding_matches`. -/
def ProjectRecipeBinding.matches (binding : ProjectRecipeBinding) (index : RepositoryIndex)
    (candidate : Candidate) (scope : Scope) : Bool :=
  binding.indexId = index.indexId ∧ binding.manifestId = index.manifestId ∧
    binding.targetId = index.targetId ∧ binding.targetVersion = index.targetVersion ∧
    binding.scopeId = scope.scopeId ∧ binding.scopeVersion = scope.version ∧
    binding.candidateId = candidate.candidateId ∧
    binding.candidateDigest = candidateContentDigest candidate

namespace SourceExecution

variable (x : SourceExecution)

/-- The plan is of this scope, index, investigation and candidate. -/
def isBound : Bool :=
  x.plan.scopeId = x.scope.scopeId ∧ x.plan.scopeVersion = x.scope.version ∧
    x.plan.indexId = x.index.indexId ∧ x.plan.targetVersion = x.index.targetVersion ∧
    x.plan.investigationPlanId = x.investigation.planId ∧
    x.plan.investigationCheckpointId = x.investigation.checkpointId ∧
    x.investigation.status = .readyForCandidates ∧ x.candidate.state = .proposed ∧
    x.plan.candidateId = x.candidate.candidateId ∧
    x.plan.candidateDigest = candidateContentDigest x.candidate ∧
    x.candidate.sourceGraphId = x.index.indexId ∧ x.candidate.targetId = x.index.targetId ∧
    x.candidate.targetVersion = x.index.targetVersion

/-- The check of a recipe binding that the plan names. -/
def checkRecipe (bindingId : Digest) : Except SourceExecutionError Unit := do
  let unavailable := SourceExecutionError.rejected
    "source execution project recipe binding is unavailable"
  let recipe ← orRaise x.recipe unavailable
  let load ← orRaise x.loadRecipe unavailable
  raiseIf (recipe.bindingId ≠ bindingId) unavailable
  let authoritative ← orRaise (load bindingId) unavailable
  raiseIf (authoritative ≠ recipe ∨ ¬authoritative.matches x.index x.candidate x.scope)
    (.rejected "source execution project recipe binding drifted")

/-- The task input that names the recipe binding of the plan. -/
def recipeRef : Except SourceExecutionError (List String) :=
  match x.plan.projectRecipeBindingId with
  | none => do
    raiseIf x.recipe.isSome
      (.rejected "source execution plan does not admit a project recipe binding")
    return []
  | some bindingId => do
    x.checkRecipe bindingId
    return ["project-recipe-binding:" ++ bindingId]

/-- The approval of an untrusted build, for this plan. -/
def isApproved : Bool :=
  x.approval.isValidFor .runUntrustedBuild x.plan.approvalDigest x.now ∧
    x.approval.engagementId = x.scope.engagementId ∧
    x.approval.targetId = some x.index.targetId ∧ x.approval.policyVersion = x.scope.version ∧
    x.approval.decidedBy.isSome ∧ x.approval.decidedAt.isSome

/-- The adapter's checks of a step. -/
def checkAdapter (step : SourceExecutionStep) : Except SourceExecutionError Unit :=
  match x.adapter with
  | none => .ok ()
  | some adapter => do
    raiseIf (∃ digest ∈ adapter.registryDigest, step.request.task.toolRegistryDigest ≠ digest)
      (.rejected "source dynamic tool registry drifted")
    adapter.validateRequest step.stage step.request

/-- The request of a step is bound to the plan's inputs and runs in isolation. A validation
profile has one snapshot mount and executes target code. -/
def safelyBound (recipeRef : List String) (step : SourceExecutionStep) : Bool :=
  let request := step.request
  request.task.engagementId = x.scope.engagementId ∧
    request.task.targetId = x.index.targetId ∧
    request.task.targetVersion = x.index.targetVersion ∧
    request.task.scopeId = x.scope.scopeId ∧ request.task.scopeVersion = x.scope.version ∧
    request.task.workerRole = .validator ∧ request.task.policyDigest = x.scope.policyDigest ∧
    request.task.deadline ≤ x.plan.deadline ∧
    "source-hunt:" ++ x.investigation.checkpointId ∈ request.task.inputRefs ∧
    "candidate:" ++ x.plan.candidateDigest ∈ request.task.inputRefs ∧
    recipeRef ⊆ request.task.inputRefs ∧ request.profile.kind = .validation ∧
    request.profile.networkMode = .none ∧ request.invocation.toolId = step.stage.tool ∧
    request.profile.snapshotId = some x.index.manifestId ∧
    request.task.sandboxProfileDigest = canonicalDigest request.profile

/-- The checks of one step. -/
def checkStep (recipeRef : List String) (step : SourceExecutionStep) :
    Except SourceExecutionError Unit := do
  x.checkAdapter step
  raiseIf (x.safelyBound recipeRef step = false)
    (.rejected "source execution step is not safely bound")

/-- `SourceExecutionService.preflight`. -/
def preflight : Except SourceExecutionError Unit := do
  raiseIf (x.scope.isCurrent x.now = false ∨ x.plan.deadline ≤ x.now)
    (.rejected "source execution is outside approved Scope")
  raiseIf (x.isBound = false) (.rejected "source execution provenance is incomplete")
  let recipeRef ← x.recipeRef
  raiseIf (x.isApproved = false)
    (.rejected "source execution requires exact untrusted-build approval")
  x.plan.steps.forM (x.checkStep recipeRef)

/-! ## Stages -/

/-- The outcome of an execution that has run no stage. -/
def initial : SourceExecutionOutcome where
  planId := x.plan.planId
  status := .running
  executedStages := []
  runnerResults := []
  stageReceipts := []
  evidenceRefs := []
  reproduciblePov := false
  reasonCode := "execution_started"
  updatedAt := x.now
  consistent := by
    refine ⟨rfl, le_rfl, rfl, rfl, rfl, ?_⟩
    simp [SourceOutcomeValues.Reproduces]

/-- The preflight and the claim of an execution. -/
def begin (store : SourceExecutionStore) :
    Except SourceExecutionError (SourceExecutionStore × SourceExecutionOutcome) := do
  x.preflight
  store.claim x.plan x.initial

/-- The result is of this step. -/
def answers (step : SourceExecutionStep) (result : SandboxRunResult) : Bool :=
  result.runId = step.request.runId ∧ result.taskId = step.request.task.taskId ∧
    result.sandboxProfileDigest = canonicalDigest step.request.profile ∧
    result.invocationDigest = canonicalDigest step.request.invocation

/-- What the adapter captures of the outputs of a result. -/
def captured (step : SourceExecutionStep) (result : SandboxRunResult) :
    Except SourceExecutionError (List Digest) :=
  match x.adapter with
  | none => .ok []
  | some adapter =>
    if result.outputs = [] then .ok []
    else adapter.capture step.stage result x.index.targetVersion

/-- A result with what was captured of its outputs. -/
def withCaptured (result : SandboxRunResult) (captured : List Digest) : SandboxRunResult :=
  if captured = [] then result
  else { result with evidenceRefs := fromkeys (result.evidenceRefs ++ captured) }

/-- The result of a step, with its evidence. -/
def runStage (step : SourceExecutionStep) : Except SourceExecutionError SandboxRunResult := do
  let result ← x.runner step.request
  raiseIf (answers step result = false)
    (.rejected "source Runner result provenance mismatch")
  let captured ← x.captured step result
  let result := withCaptured result captured
  raiseIf (∃ ref ∈ result.evidenceRefs, x.contains ref = false)
    (.rejected "source Runner returned unavailable Evidence")
  return result

/-- `_status`. -/
def stageStatus (result : SandboxRunResult) : SourceExecutionStatus × String :=
  match result.status with
  | .completed =>
    if result.evidenceRefs = [] then (.failed, "stage_evidence_missing")
    else (.running, "stage_completed")
  | .timedOut => (.timedOut, "stage_timed_out")
  | .cancelled => (.cancelled, "stage_cancelled")
  | _ => (.failed, "stage_failed")

/-- The receipt that an evidence text is, if it is one. -/
def receiptOf (ref : Digest) : Option SourceStageReceipt :=
  (x.readTextRef ref).bind parseReceipt

/-- The one receipt among the evidence of a result. -/
def onlyReceipt (stage : SourceExecutionStage) (result : SandboxRunResult) :
    Except SourceExecutionError SourceStageReceipt :=
  match result.evidenceRefs.filterMap x.receiptOf with
  | [receipt] => do
    raiseIf (receipt.stage ≠ stage) (.rejected "source stage requires one typed receipt")
    return receipt
  | _ => .error (.rejected "source stage requires one typed receipt")

/-- The last crash fingerprint that the receipts name. -/
def lastFingerprint (receipts : List SourceStageReceipt) : Option Digest :=
  (receipts.filterMap SourceStageReceipt.crashFingerprint).getLast?

/-- `_receipt`. -/
def receipt (stage : SourceExecutionStage) (result : SandboxRunResult) (expectedInput : Digest)
    (prior : List SourceStageReceipt) : Except SourceExecutionError SourceStageReceipt := do
  let receipt ← x.onlyReceipt stage result
  raiseIf (receipt.inputDigest ≠ expectedInput)
    (.rejected "source stage receipt chain is broken")
  raiseIf (∃ fingerprint ∈ lastFingerprint prior, receipt.crashFingerprint ≠ some fingerprint)
    (.rejected "source crash fingerprint changed before PoV replay")
  return receipt

/-- What the next receipt takes as its input : the last output, or the candidate. -/
def expectedInput (receipts : List SourceStageReceipt) : Digest :=
  (receipts.getLast?.map SourceStageReceipt.outputDigest).getD x.plan.candidateDigest

/-- The receipts after a stage, which leaves one if it completed. -/
def receiptsAfter (outcome : SourceExecutionOutcome) (step : SourceExecutionStep)
    (result : SandboxRunResult) : Except SourceExecutionError (List SourceStageReceipt) :=
  if (stageStatus result).1 = .running then do
    let receipt ← x.receipt step.stage result (x.expectedInput outcome.stageReceipts)
      outcome.stageReceipts
    return outcome.stageReceipts ++ [receipt]
  else .ok outcome.stageReceipts

/-- The fields of the outcome after a stage. -/
def nextValues (outcome : SourceExecutionOutcome) (step : SourceExecutionStep)
    (result : SandboxRunResult) (receipts : List SourceStageReceipt) : SourceOutcomeValues where
  planId := x.plan.planId
  status := (stageStatus result).1
  executedStages := outcome.executedStages ++ [step.stage]
  runnerResults := outcome.runnerResults ++ [result]
  stageReceipts := receipts
  evidenceRefs := fromkeys (outcome.evidenceRefs ++ result.evidenceRefs)
  reproduciblePov := (stageStatus result).1 = .completed ∧
    outcome.executedStages ++ [step.stage] = sourceExecutionStages ∧ result.evidenceRefs ≠ []
  reasonCode := (stageStatus result).2
  updatedAt := x.now

/-- The outcome after a stage is run. -/
def advance (outcome : SourceExecutionOutcome) (step : SourceExecutionStep) :
    Except SourceExecutionError SourceExecutionOutcome := do
  let result ← x.runStage step
  let receipts ← x.receiptsAfter outcome step result
  SourceExecutionOutcome.create (x.nextValues outcome step result receipts)

/-- The terminal outcome once every stage is saved. -/
def final (outcome : SourceExecutionOutcome) :
    Except SourceExecutionError SourceExecutionOutcome :=
  SourceExecutionOutcome.create { outcome.toSourceOutcomeValues with
    status := .completed
    reproduciblePov := true
    reasonCode := "pov_reproduced" }

/-- The terminal save. -/
def finish (store : SourceExecutionStore) (outcome : SourceExecutionOutcome) :
    Except SourceExecutionError (SourceExecutionStore × SourceExecutionOutcome) := do
  let terminal ← final outcome
  let saved ← store.save x.plan outcome terminal
  return (saved, terminal)

end SourceExecution

/-! ## Validation bindings -/

/-- A call of `SourceExecutionValidationService.bind`, with the service's scope and the reads of
its evidence store. -/
structure SourceBinding where
  scope : Scope
  /-- `evidence_store.read_text` -/
  readText : SourceEvidence → Option String
  plan : SourceExecutionPlan
  candidate : Candidate
  outcome : SourceExecutionOutcome
  evidence : List SourceEvidence
  now : Time

namespace SourceBinding

variable (x : SourceBinding)

/-- The reproduced outcome of the plan is bound to this candidate. -/
def isBound (persisted : SourceExecutionOutcome) : Bool :=
  persisted = x.outcome ∧ x.outcome.status = .completed ∧ x.outcome.reproduciblePov = true ∧
    x.plan.candidateId = x.candidate.candidateId ∧
    x.plan.candidateDigest = candidateContentDigest x.candidate ∧
    x.candidate.state = .proposed ∧ x.scope.isCurrent x.now ∧
    x.candidate.scopeId = x.scope.scopeId ∧ x.candidate.scopeVersion = x.scope.version

/-- The check of one item of the evidence catalog. -/
def checkEvidence (item : SourceEvidence) : Except SourceExecutionError Unit := do
  raiseIf (item.targetVersion ≠ x.candidate.targetVersion)
    (.rejected "Source validation Evidence target drifted")
  let _ ← orRaise (x.readText item) (.raised "Evidence integrity check failed")

/-- The greatest of a list of counts. -/
def peak (counts : List ℕ) : ℕ :=
  counts.foldr max 0

/-- The resources that the stages used together. -/
def usage : List (String × ℚ) :=
  let results := x.outcome.runnerResults
  [("wall_seconds", (results.map fun item => item.usage.wallSeconds).sum),
    ("cpu_millis", (results.map fun item => item.usage.cpuMillis).sum),
    ("peak_memory_bytes", peak (results.map fun item => item.usage.peakMemoryBytes)),
    ("tool_calls", (results.map SandboxRunResult.toolCalls).sum)]

/-- The request of the last stage. -/
def lastRequest : Except SourceExecutionError SandboxRunRequest :=
  orRaise (x.plan.steps.getLast?.map SourceExecutionStep.request) (.raised "IndexError")

/-- The validation run of the execution. -/
def validationRun : Except SourceExecutionError ValidationRun := do
  let request ← x.lastRequest
  if ordered : x.plan.createdAt ≤ x.now then
    return {
      runId := SourceExecutionDigests.uuid5 ("vulnloom:source-validation-run:" ++ x.plan.planId)
      candidateId := x.candidate.candidateId
      targetVersion := x.candidate.targetVersion
      scopeVersion := x.candidate.scopeVersion
      sandboxImageDigest := request.profile.imageDigest
      policyDigest := request.task.policyDigest
      plan := sourceExecutionStages.map fun stage => "source-execution:" ++ stage.value
      startedAt := x.plan.createdAt
      finishedAt := x.now
      result := .reproduced
      evidenceRefs := x.outcome.evidenceRefs
      resourceUsage := x.usage
      ordered := ordered }
  else .error (.validationError "finished_at cannot be before started_at")

def evidenceBundle : EvidenceBundle where
  bundleId := SourceExecutionDigests.uuid5 ("vulnloom:source-evidence-bundle:" ++ x.plan.planId)
  candidateId := x.candidate.candidateId
  evidenceRefs := x.outcome.evidenceRefs
  sealedAt := x.now

/-- The candidate while it is validated. -/
def running : Except LifecycleError Candidate := do
  let queued ← queueValidation x.candidate x.scope x.now
  transitionCandidate queued .validationRunning

/-- The evidence catalog : the last item of each identifier. -/
def catalog : List SourceEvidence :=
  (x.evidence.map SourceEvidence.evidenceId).eraseDups.filterMap fun ref =>
    x.evidence.reverse.find? fun item => item.evidenceId = ref

/-- The binding that the call makes. -/
def binding : Except SourceExecutionError SourceValidationBinding := do
  x.catalog.forM x.checkEvidence
  let running ← x.running.mapError SourceExecutionError.lifecycle
  let run ← x.validationRun
  let validated ← (completeValidation running run).mapError SourceExecutionError.lifecycle
  return {
    executionPlanId := x.plan.planId
    executionOutcomeDigest := canonicalDigest x.outcome
    sourceCandidateDigest := candidateContentDigest x.candidate
    validatedCandidate := validated
    validationRun := run
    evidenceBundle := x.evidenceBundle
    boundAt := x.now }

/-- `SourceExecutionValidationService.bind`. -/
def bind (store : SourceExecutionStore) :
    Except SourceExecutionError (SourceExecutionStore × SourceValidationBinding) := do
  let persisted ← store.load x.plan.planId
  raiseIf (x.isBound persisted = false)
    (.rejected "Source validation binding preflight failed")
  let refs := x.catalog.map SourceEvidence.evidenceId
  raiseIf (¬(x.outcome.evidenceRefs ⊆ refs ∧ refs ⊆ x.outcome.evidenceRefs))
    (.rejected "Source validation Evidence catalog is incomplete")
  let binding ← x.binding
  store.putValidationBinding binding

end SourceBinding

/-! ## Calls -/

/-- A call of one of the two services. -/
inductive SourceExecutionRequest
  | execute (x : SourceExecution)
  | bind (x : SourceBinding)

/-- A call between two of its steps. -/
inductive PendingExecution
  | start (x : SourceExecution)
  /-- before the loop runs the first of the steps that are left -/
  | stages (x : SourceExecution) (rest : List SourceExecutionStep)
      (outcome : SourceExecutionOutcome)
  /-- between a runner result and its save -/
  | save (x : SourceExecution) (rest : List SourceExecutionStep)
      (outcome next : SourceExecutionOutcome)
  | bind (x : SourceBinding)

inductive SourceExecutionAnswer
  | executed (outcome : SourceExecutionOutcome)
  | bound (binding : SourceValidationBinding)

/-- How an execution goes on from an outcome that is stored : it answers with a terminal one. -/
def SourceExecution.proceed (x : SourceExecution) (rest : List SourceExecutionStep)
    (outcome : SourceExecutionOutcome) :
    PendingExecution ⊕ Except SourceExecutionError SourceExecutionAnswer :=
  if outcome.status = .running then .inl (.stages x rest outcome)
  else .inr (.ok (.executed outcome))

/-- The steps of the calls. -/
def sourceExecutions : Program SourceExecutionStore SourceExecutionRequest PendingExecution
    (Except SourceExecutionError SourceExecutionAnswer) where
  begins
    | .execute x => .start x
    | .bind x => .bind x
  next store
    | .start x =>
      match x.begin store with
      | .ok (store', outcome) =>
        (store', x.proceed (x.plan.steps.drop outcome.runnerResults.length) outcome)
      | .error e => (store, .inr (.error e))
    | .stages x [] outcome =>
      match x.finish store outcome with
      | .ok (store', final) => (store', .inr (.ok (.executed final)))
      | .error e => (store, .inr (.error e))
    | .stages x (step :: rest) outcome =>
      match x.advance outcome step with
      | .ok next => (store, .inl (.save x rest outcome next))
      | .error e => (store, .inr (.error e))
    | .save x rest outcome next =>
      match store.save x.plan outcome next with
      | .ok store' => (store', x.proceed rest next)
      | .error e => (store, .inr (.error e))
    | .bind x =>
      match x.bind store with
      | .ok (store', binding) => (store', .inr (.ok (.bound binding)))
      | .error e => (store, .inr (.error e))

end VulnLoom

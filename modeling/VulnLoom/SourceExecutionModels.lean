import VulnLoom.SourceCrashCatalog
import VulnLoom.ValidationModels

/-!
# Source execution records

The five-stage chain that reproduces a source candidate : build, harness, fuzz, sanitizer and the
replay of the proof of vulnerability. A stage proves itself by a receipt in its evidence, and the
outcome of a plan keeps the stages, their results and their receipts in three lists side by side.
Of a runner result only what the modelled services read is kept.
-/

namespace VulnLoom

inductive SourceExecutionStage
  | build
  | harness
  | fuzz
  | sanitizer
  | povReplay
  deriving DecidableEq

/-- `SourceExecutionStage.value`. -/
def SourceExecutionStage.value : SourceExecutionStage → String
  | build => "build"
  | harness => "harness"
  | fuzz => "fuzz"
  | sanitizer => "sanitizer"
  | povReplay => "pov_replay"

/-- `SOURCE_EXECUTION_TOOLS`. -/
def SourceExecutionStage.tool (stage : SourceExecutionStage) : String :=
  "source." ++ stage.value

/-- `SOURCE_EXECUTION_STAGES`. -/
def sourceExecutionStages : List SourceExecutionStage :=
  [.build, .harness, .fuzz, .sanitizer, .povReplay]

theorem nodup_sourceExecutionStages : sourceExecutionStages.Nodup := by
  decide

/-- An exception of a source execution. -/
inductive SourceExecutionError
  | rejected (reason : String)
  | storeRejected (reason : String)
  | validationError (reason : String)
  | lifecycle (error : LifecycleError)
  /-- an `IntegrityError` of the database -/
  | integrityError
  /-- what the runner, the adapter or another store raised -/
  | raised (message : String)
  deriving DecidableEq

/-! ## Receipts -/

/-- What the validator of `SourceStageReceipt` asks of a receipt of a stage. -/
def SourceExecutionStage.Proved (coverageEdges : ℕ) (crashFingerprint : Option Digest)
    (crashInputDigest : Option Digest) (sanitizerUsed : Option SourceSanitizer)
    (povReproduced : Bool) : SourceExecutionStage → Prop
  | build | harness => coverageEdges = 0 ∧ crashFingerprint = none ∧ crashInputDigest = none ∧
      sanitizerUsed = none ∧ povReproduced = false
  | fuzz => 0 < coverageEdges ∧ crashFingerprint ≠ none ∧ sanitizerUsed = none ∧
      povReproduced = false
  | sanitizer => crashFingerprint ≠ none ∧ sanitizerUsed ≠ none ∧ povReproduced = false
  | povReplay => crashFingerprint ≠ none ∧ sanitizerUsed = none ∧ povReproduced = true

structure SourceStageReceipt where
  stage : SourceExecutionStage
  inputDigest : Digest
  outputDigest : Digest
  coverageEdges : ℕ
  crashFingerprint : Option Digest
  crashInputDigest : Option Digest
  sanitizer : Option SourceSanitizer
  povReproduced : Bool
  proves : stage.Proved coverageEdges crashFingerprint crashInputDigest sanitizer povReproduced
  deriving DecidableEq

/-- `SourceStageReceipt.model_validate_json`. -/
class ReceiptJson where
  parseReceipt : String → Option SourceStageReceipt

export ReceiptJson (parseReceipt)

/-- Only the replay proves that the vulnerability reproduces. -/
theorem SourceStageReceipt.povReproduced_of_stage (receipt : SourceStageReceipt)
    (h : receipt.stage = .povReplay) : receipt.povReproduced = true := by
  have hproves := receipt.proves
  rw [h] at hproves
  exact hproves.2.2

/-! ## Plans -/

structure SourceExecutionStep where
  stage : SourceExecutionStage
  request : SandboxRunRequest
  deriving DecidableEq

/-- `SourceExecutionPlan`, with the conditions of its validator. -/
@[ext]
structure SourceExecutionPlan where
  investigationPlanId : Digest
  investigationCheckpointId : Digest
  indexId : Digest
  candidateId : UUID
  candidateDigest : Digest
  projectRecipeBindingId : Option Digest
  scopeId : UUID
  scopeVersion : ℕ
  targetVersion : String
  steps : List SourceExecutionStep
  createdAt : Time
  deadline : Time
  idempotencyKey : String
  fixed : steps.map SourceExecutionStep.stage = sourceExecutionStages
  window : createdAt < deadline

instance : DecidableEq SourceExecutionPlan :=
  fun _ _ => decidable_of_iff _ SourceExecutionPlan.ext_iff.symm

theorem SourceExecutionPlan.length_steps (plan : SourceExecutionPlan) : plan.steps.length = 5 := by
  rw [← List.length_map SourceExecutionStep.stage, plan.fixed]
  rfl

/-! ## Runner results -/

inductive SandboxRunStatus
  | completed
  | checkpointed
  | failed
  | timedOut
  | cancelled
  deriving DecidableEq

structure SandboxUsage where
  wallSeconds : ℚ
  cpuMillis : ℕ
  peakMemoryBytes : ℕ
  deriving DecidableEq

structure SandboxOutput where
  objectId : Digest
  size : ℕ
  deriving DecidableEq

structure SandboxRunResult where
  runId : UUID
  taskId : UUID
  status : SandboxRunStatus
  sandboxProfileDigest : Digest
  invocationDigest : Digest
  /-- `budget_used.tool_calls` -/
  toolCalls : ℕ
  usage : SandboxUsage
  evidenceRefs : List Digest
  outputs : List SandboxOutput
  outputs_completed : status ≠ .completed → outputs = []
  deriving DecidableEq

/-- A stage that completed and left evidence. -/
def SandboxRunResult.Proven (result : SandboxRunResult) : Prop :=
  result.status = .completed ∧ result.evidenceRefs ≠ []

instance (result : SandboxRunResult) : Decidable result.Proven :=
  inferInstanceAs (Decidable (_ ∧ _))

/-- `tuple(dict.fromkeys(refs))`. -/
def fromkeys (refs : List Digest) : List Digest :=
  refs.eraseDups

@[simp] theorem fromkeys_fromkeys : ∀ refs : List Digest,
    fromkeys (fromkeys refs) = fromkeys refs
  | [] => rfl
  | ref :: refs => by
    have hlength : (refs.filter fun b => !b == ref).length < (ref :: refs).length :=
      Nat.lt_succ_of_le (List.length_filter_le _ _)
    have ih := fromkeys_fromkeys (refs.filter fun b => !b == ref)
    simp only [fromkeys] at ih ⊢
    rw [List.eraseDups_cons, List.eraseDups_cons, List.filter_eq_self.2, ih]
    intro b hb
    exact (List.mem_filter.1 (List.mem_eraseDups.1 hb)).2
  termination_by refs => refs.length
  decreasing_by exact hlength

/-! ## Outcomes -/

inductive SourceExecutionStatus
  | running
  | completed
  | failed
  | timedOut
  | cancelled
  deriving DecidableEq

/-- The fields of an outcome before its validator has run. -/
structure SourceOutcomeValues where
  planId : Digest
  status : SourceExecutionStatus
  executedStages : List SourceExecutionStage
  runnerResults : List SandboxRunResult
  stageReceipts : List SourceStageReceipt
  evidenceRefs : List Digest
  reproduciblePov : Bool
  reasonCode : String
  updatedAt : Time
  deriving DecidableEq

/-- What the validator asks of a claim that the vulnerability reproduces. -/
def SourceOutcomeValues.Reproduces (values : SourceOutcomeValues) : Prop :=
  values.status = .completed ∧ values.executedStages = sourceExecutionStages ∧
    values.stageReceipts.length = sourceExecutionStages.length ∧
    (∃ receipt ∈ values.stageReceipts.getLast?, receipt.povReproduced = true) ∧
    ∃ result ∈ values.runnerResults.getLast?, result.evidenceRefs ≠ []

instance (values : SourceOutcomeValues) : Decidable values.Reproduces :=
  inferInstanceAs (Decidable (_ ∧ _))

/-- The validator of `SourceExecutionOutcome`. -/
@[mk_iff]
structure SourceOutcomeValues.Consistent (values : SourceOutcomeValues) : Prop where
  results : values.executedStages.length = values.runnerResults.length
  receipts : values.stageReceipts.length ≤ values.executedStages.length
  refs : fromkeys values.evidenceRefs = values.evidenceRefs
  ordered : values.executedStages = sourceExecutionStages.take values.executedStages.length
  receipts_ordered : values.stageReceipts.map SourceStageReceipt.stage =
    values.executedStages.take values.stageReceipts.length
  reproduces : values.reproduciblePov = true ↔ values.Reproduces

instance (values : SourceOutcomeValues) : Decidable values.Consistent :=
  decidable_of_iff' _ (SourceOutcomeValues.consistent_iff values)

structure SourceExecutionOutcome extends SourceOutcomeValues where
  consistent : toSourceOutcomeValues.Consistent
  deriving DecidableEq

/-- `SourceExecutionOutcome.model_validate`. -/
def SourceExecutionOutcome.create (values : SourceOutcomeValues) :
    Except SourceExecutionError SourceExecutionOutcome :=
  if h : values.Consistent then .ok ⟨values, h⟩
  else .error (.validationError "Source execution outcome is inconsistent")

theorem SourceExecutionOutcome.create_eq_ok {values : SourceOutcomeValues}
    {outcome : SourceExecutionOutcome} :
    SourceExecutionOutcome.create values = .ok outcome ↔
      outcome.toSourceOutcomeValues = values := by
  unfold create
  constructor
  · intro h
    split_ifs at h
    rw [← Except.ok.inj h]
  · rintro rfl
    rw [dif_pos outcome.consistent]

/-! ## Bindings and digests -/

/-- `Evidence`, as far as a binding reads it. -/
structure SourceEvidence where
  evidenceId : Digest
  targetVersion : String
  contentRef : String

structure SourceValidationBinding where
  executionPlanId : Digest
  executionOutcomeDigest : Digest
  sourceCandidateDigest : Digest
  validatedCandidate : Candidate
  validationRun : ValidationRun
  evidenceBundle : EvidenceBundle
  boundAt : Time
  deriving DecidableEq

/-- The content digests of the source execution records. -/
class SourceExecutionDigests where
  plan : CanonicalDigest SourceExecutionPlan
  outcome : CanonicalDigest SourceExecutionOutcome
  binding : CanonicalDigest SourceValidationBinding
  invocation : CanonicalDigest ToolInvocation
  /-- the digest that an approval of a plan names -/
  approvalDigest : Digest → Digest
  /-- `uuid5(NAMESPACE_URL, ·)`. -/
  uuid5 : String → UUID

attribute [reducible, instance] SourceExecutionDigests.plan SourceExecutionDigests.outcome
  SourceExecutionDigests.binding SourceExecutionDigests.invocation

variable [SourceExecutionDigests]

def SourceExecutionPlan.planId (plan : SourceExecutionPlan) : Digest :=
  canonicalDigest plan

/-- `source_execution_approval_digest`. -/
def SourceExecutionPlan.approvalDigest (plan : SourceExecutionPlan) : Digest :=
  SourceExecutionDigests.approvalDigest plan.planId

def SourceValidationBinding.bindingId (binding : SourceValidationBinding) : Digest :=
  canonicalDigest binding

end VulnLoom

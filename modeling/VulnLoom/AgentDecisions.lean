import VulnLoom.AgentModels
import VulnLoom.PythonJson

/-!
# Decisions of agents

What a model answers, and the typed decision that is read from it. `modelValidate` is the
validation of a decision from the objects of a JSON document : a text is read where it has no lone
surrogate, and a field that is not named is refused.
-/

namespace VulnLoom.AgentRuntime

open PythonJson (Json Text)

/-! ## Fields -/

/-- A field of type `str`. -/
def readString : Json → Option String
  | .str value =>
    if value.any PythonJson.isSurrogate then none else some (String.ofList (value.map Char.ofNat))
  | _ => none

/-- The pattern of `Digest`. -/
def isDigest (s : String) : Bool :=
  s.toList.length = 64 ∧ s.toList.all isLowerHex

/-- The pattern of `ToolId`. -/
def isToolId (s : String) : Bool :=
  match s.toList with
  | [] => false
  | c :: rest => c.isLower ∧ rest.length ≤ 127 ∧
      rest.all fun c => c.isLower ∨ c.isDigit ∨ c = '_' ∨ c = '.' ∨ c = '-'

/-- `AgentDecisionKind` -/
inductive AgentDecisionKind
  | proposeTool
  | complete
  | blocked
  deriving DecidableEq

def AgentDecisionKind.value : AgentDecisionKind → String
  | .proposeTool => "propose_tool"
  | .complete => "complete"
  | .blocked => "blocked"

def AgentDecisionKind.all : List AgentDecisionKind :=
  [.proposeTool, .complete, .blocked]

def WorkingDirectory.value : WorkingDirectory → String
  | .source => "source"
  | .output => "output"
  | .temp => "temp"

def WorkingDirectory.all : List WorkingDirectory :=
  [.source, .output, .temp]

/-- The member of an enumeration that a text names. -/
def readMember {α : Type} (all : List α) (value : α → String) (json : Json) : Option α := do
  let name ← readString json
  all.find? fun member => value member = name

/-- A field of type `Digest`. -/
def readDigest (json : Json) : Option Digest := do
  let digest ← readString json
  if isDigest digest then return digest else none

/-- A field of type `tuple[T, ...]`. -/
def readTuple {α : Type} (item : Json → Option α) (maxLength : ℕ) : Json → Option (List α)
  | .arr items => if items.length ≤ maxLength then items.mapM item else none
  | _ => none

/-- A field of type `T | None`. -/
def readOptional {α : Type} (item : Json → Option α) : Json → Option (Option α)
  | .null => some none
  | json => (item json).map some

/-- A field with a default. -/
def readField {α : Type} (members : List (Text × Json)) (name : String)
    (item : Json → Option α) (default : Option α) : Option α :=
  match PythonJson.get members name with
  | none => default
  | some json => item json

/-- `extra="forbid"` -/
def onlyFields (members : List (Text × Json)) (names : List String) : Bool :=
  (PythonJson.keys members).all fun key => names.any fun name => PythonJson.text name = key

/-! ## Decisions -/

structure AgentToolCallPayload where
  toolId : String
  arguments : List String
  workingDirectory : WorkingDirectory

def AgentToolCallPayload.modelValidate : Json → Option AgentToolCallPayload
  | .obj members =>
    if onlyFields members ["tool_id", "arguments", "working_directory"] then do
      let toolId ← readField members "tool_id" readString none
      let arguments ← readField members "arguments" (readTuple readString 128) (some [])
      let workingDirectory ← readField members "working_directory"
        (readMember WorkingDirectory.all WorkingDirectory.value) none
      if isToolId toolId then return ⟨toolId, arguments, workingDirectory⟩ else none
    else none
  | _ => none

/-- `exact_shape` : what a decision has by its kind. -/
def DecisionShape (kind : AgentDecisionKind) (toolCall : Option AgentToolCallPayload)
    (summaryDigest : Option Digest) : Prop :=
  match kind with
  | .proposeTool => toolCall ≠ none ∧ summaryDigest = none
  | .complete | .blocked => toolCall = none ∧ summaryDigest ≠ none

instance (kind : AgentDecisionKind) (toolCall : Option AgentToolCallPayload)
    (summaryDigest : Option Digest) : Decidable (DecisionShape kind toolCall summaryDigest) := by
  unfold DecisionShape
  split <;> infer_instance

structure AgentDecisionPayload where
  kind : AgentDecisionKind
  toolCall : Option AgentToolCallPayload
  summaryDigest : Option Digest
  supportingRefDigests : List Digest
  supporting_sorted : supportingRefDigests = sortedSet supportingRefDigests
  shape : DecisionShape kind toolCall summaryDigest

namespace AgentDecisionPayload

/-- The constructor of a decision, with its validator. -/
def create (kind : AgentDecisionKind) (toolCall : Option AgentToolCallPayload)
    (summaryDigest : Option Digest) (supportingRefDigests : List Digest) :
    Option AgentDecisionPayload :=
  if h : supportingRefDigests = sortedSet supportingRefDigests ∧
      DecisionShape kind toolCall summaryDigest then
    some ⟨kind, toolCall, summaryDigest, supportingRefDigests, h.1, h.2⟩
  else none

/-- `AgentDecisionPayload.model_validate`; `none` is a `ValidationError`. -/
def modelValidate : Json → Option AgentDecisionPayload
  | .obj members =>
    if onlyFields members ["kind", "tool_call", "summary_digest", "supporting_ref_digests"] then do
      let kind ← readField members "kind"
        (readMember AgentDecisionKind.all AgentDecisionKind.value) none
      let toolCall ← readField members "tool_call"
        (readOptional AgentToolCallPayload.modelValidate) (some none)
      let summaryDigest ← readField members "summary_digest" (readOptional readDigest) (some none)
      let supportingRefDigests ← readField members "supporting_ref_digests"
        (readTuple readDigest 1024) (some [])
      create kind toolCall summaryDigest supportingRefDigests
    else none
  | _ => none

/-- `model_dump(mode="json", exclude_none=True)` -/
def modelDump (decision : AgentDecisionPayload) : Json :=
  let string (s : String) : Json := .str (PythonJson.text s)
  .obj ([(PythonJson.text "kind", string decision.kind.value)] ++
    (decision.toolCall.elim [] fun call => [(PythonJson.text "tool_call", .obj
      [(PythonJson.text "tool_id", string call.toolId),
        (PythonJson.text "arguments", .arr (call.arguments.map string)),
        (PythonJson.text "working_directory", string call.workingDirectory.value)])]) ++
    (decision.summaryDigest.elim [] fun digest =>
      [(PythonJson.text "summary_digest", string digest)]) ++
    [(PythonJson.text "supporting_ref_digests",
      .arr (decision.supportingRefDigests.map string))])

end AgentDecisionPayload

/-! ## Replies -/

/-- A reply of a model. Its output is a dict of any objects. -/
structure AgentModelReply where
  structuredOutput : Json
  providerId : String
  model : String
  inputTokens : ℕ
  outputTokens : ℕ
  latencySeconds : ℚ
  latencySeconds_bounds : 0 ≤ latencySeconds ∧ latencySeconds ≤ 600

section

variable [PythonUnicode] [PythonAlnum] [AgentDigests]

/-! ## Intents -/

/-- `ToolInvocation.safe_argument_size` -/
def isSafeArgument (argument : String) : Bool :=
  '\x00' ∉ argument.toList ∧ argument.utf8ByteSize ≤ 16384

/-- `AgentToolIntent.from_payload`; `none` is a `ValidationError`. -/
def AgentToolIntent.fromPayload (payload : AgentToolCallPayload) : Option AgentToolIntent :=
  if payload.arguments.all isSafeArgument then
    some {
      toolId := payload.toolId
      invocationDigest := canonicalDigest
        (⟨payload.toolId, payload.arguments, payload.workingDirectory⟩ : ToolInvocation)
      argumentDigests := payload.arguments.map canonicalDigest
      workingDirectory := payload.workingDirectory }
  else none

/-- `plan.context_digest` -/
def AgentRunPlan.contextDigest (plan : AgentRunPlan) : Digest :=
  plan.contextSnapshotId.getD (canonicalDigest plan.task.inputRefs)

structure AgentStepRequest where
  planId : Digest
  taskId : UUID
  step : ℕ
  workerRole : WorkerRole
  contextDigest : Digest
  messageEnvelopeId : Option Digest
  allowedTools : List String
  authorizedCallSetId : Option Digest
  authorizedCallCommitments : List Digest
  remainingModelTokens : ℕ
  maxOutputTokens : ℕ
  step_bounds : 1 ≤ step ∧ step ≤ 8
  remainingModelTokens_pos : 0 < remainingModelTokens
  maxOutputTokens_bounds : 0 < maxOutputTokens ∧ maxOutputTokens ≤ 65536

/-- `AgentStepRequest.create`, with the checks of its fields. -/
def AgentStepRequest.create (plan : AgentRunPlan) (step remaining : ℕ)
    (messageEnvelopeId : Option Digest) : Except AgentError AgentStepRequest :=
  if h : (1 ≤ step ∧ step ≤ 8) ∧ 0 < remaining then
    .ok {
      planId := plan.planId
      taskId := plan.task.taskId
      step := step
      workerRole := plan.task.workerRole
      contextDigest := plan.contextDigest
      messageEnvelopeId := messageEnvelopeId
      allowedTools := plan.task.allowedTools
      authorizedCallSetId := plan.authorizedCallSetId
      authorizedCallCommitments := plan.authorizedCallCommitments
      remainingModelTokens := remaining
      maxOutputTokens := min plan.limits.maxOutputTokensPerStep remaining
      step_bounds := h.1
      remainingModelTokens_pos := h.2
      maxOutputTokens_bounds := ⟨Nat.lt_min.2
        ⟨plan.limits.maxOutputTokensPerStep_bounds.1, h.2⟩,
        (Nat.min_le_left _ _).trans plan.limits.maxOutputTokensPerStep_bounds.2⟩ }
  else .error .validationError

end

end VulnLoom.AgentRuntime

import VulnLoom.AgentDecisions

/-!
# The codec of chat completions

`OpenAIChatCompletionsV1Codec.decode` : the bytes of a response are read as strict JSON, its
envelope is checked object by object, the content of its one message is read as a decision, and
its counts of tokens as the usage. `_require` raises the rejection of the codec; the other
exceptions that can come up are kept apart, and `outcome_own_iff` says when none of them does.
The clock is read at the start and after the checks.
-/

namespace VulnLoom.AgentRuntime

open PythonJson (Json Text Interpreter)

/-! ## Registrations -/

structure AgentProviderCodecLimits where
  maxStructuredOutputBytes : ℕ
  timeoutSeconds : ℚ
  maxStructuredOutputBytes_bounds :
    0 < maxStructuredOutputBytes ∧ maxStructuredOutputBytes ≤ 1048576
  timeoutSeconds_bounds : 0 < timeoutSeconds ∧ timeoutSeconds ≤ 30

/-- A registration of a model with the codec of its provider. -/
structure ProviderModelRegistration extends AgentModelRegistration where
  providerCodecId : Option Digest

/-- `_ROOT_REQUIRED` -/
def rootRequired : List String :=
  ["id", "object", "created", "model", "choices", "usage"]

/-- `_ROOT_OPTIONAL` -/
def rootOptional : List String :=
  ["service_tier", "system_fingerprint"]

/-- `_CHOICE_REQUIRED` -/
def choiceRequired : List String :=
  ["index", "message", "finish_reason"]

/-- `_MESSAGE_REQUIRED` -/
def messageRequired : List String :=
  ["role", "content"]

/-- `_FIELD_NAME` -/
def isFieldName (name : String) : Bool :=
  match name.toList with
  | [] => false
  | c :: rest => (c.isUpper ∨ c.isLower) ∧ rest.length ≤ 63 ∧
      rest.all fun c => c.isUpper ∨ c.isLower ∨ c.isDigit ∨ c = '_'

/-- The names of extension fields : none of them is a field of the protocol. -/
structure ExtensionFields (names protocolFields : List String) : Prop where
  length_le : names.length ≤ 32
  sorted : names = sortedSet names
  named : ∀ name ∈ names, isFieldName name
  disjoint : ∀ name ∈ names, name ∉ protocolFields

theorem ExtensionFields.nil (protocolFields : List String) : ExtensionFields [] protocolFields where
  length_le := Nat.zero_le _
  sorted := rfl
  named := by simp
  disjoint := by simp

structure OpenAIChatCompletionsCodecRegistration where
  codecId : Digest
  providerId : String
  requestModel : String
  acceptedResponseModels : List String
  limits : AgentProviderCodecLimits
  allowedEmptyRootFields : List String
  allowedEmptyChoiceFields : List String
  allowedEmptyMessageFields : List String
  reviewedUsageExtensionsAllowed : Bool
  accepted_length : 1 ≤ acceptedResponseModels.length ∧ acceptedResponseModels.length ≤ 8
  accepted_sorted : acceptedResponseModels = sortedSet acceptedResponseModels
  root : ExtensionFields allowedEmptyRootFields (rootRequired ++ rootOptional)
  choice : ExtensionFields allowedEmptyChoiceFields (choiceRequired ++ ["logprobs"])
  message : ExtensionFields allowedEmptyMessageFields
    (messageRequired ++ ["refusal", "reasoning_content"])

/-! ## Errors -/

inductive CodecError
  /-- `AgentProviderCodecRejected`, with the `diagnostic_code` it leaves -/
  | rejected (message diagnosticCode : String)
  /-- `AgentProviderCodecTimedOut` -/
  | timedOut
  | recursionError
  | unicodeEncodeError
  | typeError
  | validationError
  deriving DecidableEq

/-- The exceptions that the codec declares. -/
def CodecError.IsOwn : CodecError → Prop
  | .rejected _ _ | .timedOut => True
  | .recursionError | .unicodeEncodeError | .typeError | .validationError => False

/-- Whatever the computation raises is an exception of the codec. -/
def Own {α : Type} (x : Except CodecError α) : Prop :=
  ∀ e, x = .error e → e.IsOwn

/-- `_require` -/
def require (condition : Prop) [Decidable condition] (code : String) : Except CodecError Unit :=
  if condition then .ok () else .error (.rejected "OpenAI Chat response rejected" code)

/-- `_strict_json`, of what `json.loads` gives. -/
def strictJson (loaded : Except PythonJson.LoadsError Json) (label : String) :
    Except CodecError Json :=
  match loaded with
  | .ok json => .ok json
  | .error .value => .error (.rejected (label ++ " is not strict JSON") "response_shape_mismatch")
  | .error .recursion => .error .recursionError

/-! ## Members -/

/-- `value is None`, of `dict.get`. -/
def isNone : Option Json → Bool
  | none | some .null => true
  | _ => false

/-- `isinstance(value, str)` -/
def isStr : Option Json → Bool
  | some (.str _) => true
  | _ => false

/-- `value == name` -/
def isText (name : String) : Option Json → Bool
  | some (.str value) => value = PythonJson.text name
  | _ => false

/-- `isinstance(value, str) and bool(value)` -/
def isNonempty : Option Json → Bool
  | some (.str value) => value ≠ []
  | _ => false

/-- `type(value) is int and value >= 0` -/
def isNatural : Option Json → Bool
  | some (.int value) => 0 ≤ value
  | _ => false

/-- `type(value) is int and value == 0` -/
def isZero : Option Json → Bool
  | some (.int value) => value = 0
  | _ => false

/-- `value in ("", [], {})` -/
def isEmptyValue : Json → Bool
  | .str [] | .arr [] | .obj [] => true
  | _ => false

/-- `required <= set(members) <= allowed` -/
def hasShape (members : List (Text × Json)) (required allowed : List String) : Bool :=
  (required.all fun name => (PythonJson.get members name).isSome) ∧ onlyFields members allowed

/-- `_extensions_are_empty` -/
def extensionsAreEmpty (members : List (Text × Json)) (names : List String) : Bool :=
  names.all fun name => isNone (PythonJson.get members name) ∨
    (PythonJson.get members name).any isEmptyValue

/-- An integer from zero to a bound. -/
def readCount (bound : ℕ) : Json → Option ℕ
  | .int value => if 0 ≤ value ∧ value ≤ bound then some value.toNat else none
  | _ => none

/-! ## Usage -/

/-- `_USAGE_FIELDS` -/
def usageFields : List String :=
  ["prompt_tokens", "completion_tokens", "total_tokens"]

/-- `_REVIEWED_USAGE_EXTENSION_FIELDS` -/
def reviewedUsageExtensionFields : List String :=
  ["completion_tokens_details", "prompt_cache_hit_tokens", "prompt_cache_miss_tokens",
    "prompt_tokens_details", "reasoning_tokens", "time_per_output_token_ms",
    "time_to_first_token_ms", "tokens_per_second"]

/-- `_PROMPT_DETAIL_FIELDS` -/
def promptDetailFields : List String :=
  ["audio_tokens", "cached_tokens"]

/-- `_COMPLETION_DETAIL_FIELDS` -/
def completionDetailFields : List String :=
  ["accepted_prediction_tokens", "audio_tokens", "reasoning_tokens", "rejected_prediction_tokens"]

/-- `_METRIC_LIMITS` -/
def metricLimits : List (String × ℕ) :=
  [("time_per_output_token_ms", 10000), ("time_to_first_token_ms", 10000),
    ("tokens_per_second", 1000000)]

/-- A metric that is missing, or a finite number from zero to its limit. -/
def isMetric (limit : ℕ) : Option Json → Bool
  | some (.int value) => 0 ≤ value ∧ value ≤ limit
  | some (.float (.finite value)) => 0 ≤ value ∧ value ≤ limit
  | value => isNone value

/-- A count that is missing, or an integer from zero to its bound. -/
def isCount (bound : ℕ) (value : Option Json) : Bool :=
  isNone value ∨ (value.bind (readCount bound)).isSome

/-- Details that are missing, or an object of counts. -/
def isDetails (allowed : List String) (bound : ℕ) : Option Json → Bool
  | some (.obj details) =>
    onlyFields details allowed ∧ details.all fun m => (readCount bound m.2).isSome
  | value => isNone value

/-- The sum of two values; a value that is no number is a `TypeError`. -/
def sumTokens : Json → Json → Except CodecError ℤ
  | .int a, .int b => .ok (a + b)
  | _, _ => .error .typeError

/-- The metrics and the counts of the cache, each for itself. -/
def cacheFieldsValid (usage : List (Text × Json)) (prompt : ℕ) : Bool :=
  (metricLimits.all fun metric => isMetric metric.2 (PythonJson.get usage metric.1)) ∧
    ["prompt_cache_hit_tokens", "prompt_cache_miss_tokens"].all fun name =>
      isCount prompt (PythonJson.get usage name)

/-- The counts of the cache together : where both are there, their sum is the prompt. -/
def cacheSumValid (usage : List (Text × Json)) (prompt : ℕ) : Except CodecError Bool :=
  match PythonJson.get usage "prompt_cache_hit_tokens",
    PythonJson.get usage "prompt_cache_miss_tokens" with
  | some hit, some miss => (sumTokens hit miss).map fun sum => decide (sum = (prompt : ℤ))
  | _, _ => .ok true

/-- `_reviewed_usage_extensions_valid` -/
def reviewedUsageExtensionsValid (usage : List (Text × Json)) (prompt completion : ℕ) :
    Except CodecError Bool :=
  if cacheFieldsValid usage prompt then do
    if ← cacheSumValid usage prompt then
      return isCount completion (PythonJson.get usage "reasoning_tokens") ∧
        isDetails promptDetailFields prompt (PythonJson.get usage "prompt_tokens_details") ∧
        isDetails completionDetailFields completion
          (PythonJson.get usage "completion_tokens_details")
    else return false
  else .ok false

structure ResponseUsage where
  promptTokens : ℕ
  completionTokens : ℕ

/-- The three counts of a usage : prompt, completion and total. -/
def readCounts (usage : List (Text × Json)) : Option (ℕ × ℕ × ℕ) := do
  let prompt ← (PythonJson.get usage "prompt_tokens").bind (readCount 10000000)
  let completion ← (PythonJson.get usage "completion_tokens").bind (readCount 10000000)
  let total ← (PythonJson.get usage "total_tokens").bind (readCount 10000000)
  return (prompt, completion, total)

/-! ## Replies -/

/-- The constructor of a reply, with the check of its latency. -/
def AgentModelReply.create (structuredOutput : Json) (providerId model : String)
    (inputTokens outputTokens : ℕ) (latencySeconds : ℚ) : Except CodecError AgentModelReply :=
  if h : 0 ≤ latencySeconds ∧ latencySeconds ≤ 600 then
    .ok ⟨structuredOutput, providerId, model, inputTokens, outputTokens, latencySeconds, h⟩
  else .error .validationError

/-! ## Decoding -/

/-- A call of `decode`. -/
structure DecodeCall where
  py : Interpreter
  registration : OpenAIChatCompletionsCodecRegistration
  modelRegistration : ProviderModelRegistration
  raw : List ℕ
  latencySeconds : ℚ
  /-- the clock at the start -/
  started : ℚ
  /-- the clock after the checks -/
  checked : ℚ

namespace DecodeCall

variable (call : DecodeCall)

/-- `_assert_binding` -/
def assertBinding : Except CodecError Unit :=
  raiseIf (call.modelRegistration.providerCodecId ≠ some call.registration.codecId ∨
      call.modelRegistration.providerId ≠ call.registration.providerId ∨
      call.modelRegistration.model ≠ call.registration.requestModel)
    (.rejected "OpenAI Chat codec binding mismatch" "response_shape_mismatch")

/-- The size of the response, against the limit. -/
def assertSize : Except CodecError Unit :=
  raiseIf (call.registration.limits.maxStructuredOutputBytes < call.raw.length)
    (.rejected "OpenAI Chat response exceeds the byte limit" "response_shape_mismatch")

/-- The members of the response. -/
def readRoot (payload : Json) : Except CodecError (List (Text × Json)) :=
  match payload with
  | .obj root => do
    require (hasShape root rootRequired
      (rootRequired ++ rootOptional ++ call.registration.allowedEmptyRootFields))
      "response_shape_mismatch"
    require (extensionsAreEmpty root call.registration.allowedEmptyRootFields)
      "response_shape_mismatch"
    require (isText "chat.completion" (PythonJson.get root "object") ∧
      isNonempty (PythonJson.get root "id") ∧ isNatural (PythonJson.get root "created"))
      "response_shape_mismatch"
    require (call.registration.acceptedResponseModels.any fun model =>
      isText model (PythonJson.get root "model")) "response_identity_mismatch"
    require (rootOptional.all fun name =>
      isNone (PythonJson.get root name) ∨ isStr (PythonJson.get root name))
      "response_shape_mismatch"
    return root
  | _ => .error (.rejected "OpenAI Chat response rejected" "response_shape_mismatch")

/-- The members of the one choice. -/
def readChoice (root : List (Text × Json)) : Except CodecError (List (Text × Json)) :=
  match PythonJson.get root "choices" with
  | some (.arr [.obj choice]) => do
    require (hasShape choice choiceRequired
      (choiceRequired ++ ["logprobs"] ++ call.registration.allowedEmptyChoiceFields))
      "response_shape_mismatch"
    require (extensionsAreEmpty choice call.registration.allowedEmptyChoiceFields)
      "response_shape_mismatch"
    require (isZero (PythonJson.get choice "index") ∧
      isText "stop" (PythonJson.get choice "finish_reason") ∧
      isNone (PythonJson.get choice "logprobs")) "response_shape_mismatch"
    return choice
  | _ => .error (.rejected "OpenAI Chat response rejected" "response_shape_mismatch")

/-- The members of the message. -/
def readMessage (choice : List (Text × Json)) : Except CodecError (List (Text × Json)) :=
  match PythonJson.get choice "message" with
  | some (.obj message) => do
    require (hasShape message messageRequired
      (messageRequired ++ ["refusal", "reasoning_content"] ++
        call.registration.allowedEmptyMessageFields)) "response_shape_mismatch"
    require (extensionsAreEmpty message call.registration.allowedEmptyMessageFields)
      "response_shape_mismatch"
    return message
  | _ => .error (.rejected "OpenAI Chat response rejected" "response_shape_mismatch")

/-- The text of a message. -/
def readContent (message : List (Text × Json)) : Except CodecError Text :=
  match PythonJson.get message "content" with
  | some (.str content) => do
    require (isText "assistant" (PythonJson.get message "role") ∧
      isNone (PythonJson.get message "refusal") ∧
      (isNone (PythonJson.get message "reasoning_content") ∨
        isStr (PythonJson.get message "reasoning_content"))) "response_content_mismatch"
    return content
  | _ => .error (.rejected "OpenAI Chat response rejected" "response_content_mismatch")

/-- The envelope of a response : its members, and the text of its message. -/
def readEnvelope : Except CodecError (List (Text × Json) × Text) := do
  call.assertBinding
  call.assertSize
  let payload ← strictJson (PythonJson.loadsBytes call.py call.raw) "OpenAI Chat response"
  let root ← call.readRoot payload
  let choice ← call.readChoice root
  let message ← call.readMessage choice
  let content ← readContent message
  return (root, content)

/-- The decision in the text of the message. -/
def readDecision (content : Text) : Except CodecError AgentDecisionPayload := do
  let length ← orRaise (PythonJson.utf8Length content) .unicodeEncodeError
  require (length ≤ call.registration.limits.maxStructuredOutputBytes) "response_content_mismatch"
  let structuredOutput ← strictJson (PythonJson.loads call.py content)
    "OpenAI Chat structured output"
  orRaise (AgentDecisionPayload.modelValidate structuredOutput)
    (.rejected "OpenAI Chat structured output validation failed" "response_content_mismatch")

/-- The fields that a usage may have. -/
def allowedUsage : List String :=
  usageFields ++
    if call.registration.reviewedUsageExtensionsAllowed then reviewedUsageExtensionFields else []

/-- The usage of a response. -/
def readUsage (root : List (Text × Json)) : Except CodecError ResponseUsage :=
  match PythonJson.get root "usage" with
  | some (.obj usage) => do
    require (hasShape usage usageFields call.allowedUsage) "usage_mismatch"
    let (prompt, completion, total) ← orRaise (readCounts usage)
      (.rejected "OpenAI Chat response rejected" "usage_mismatch")
    require (completion ≤ call.modelRegistration.maxOutputTokens) "usage_mismatch"
    require (total = prompt + completion) "usage_total_mismatch"
    let valid ← reviewedUsageExtensionsValid usage prompt completion
    require valid "usage_details_mismatch"
    return ⟨prompt, completion⟩
  | _ => .error (.rejected "OpenAI Chat response rejected" "usage_mismatch")

/-- `_check_timeout` -/
def checkTimeout : Except CodecError Unit :=
  raiseIf (call.registration.limits.timeoutSeconds ≤ call.checked - call.started) .timedOut

/-- `decode` -/
def decode : Except CodecError AgentModelReply := do
  let (root, content) ← call.readEnvelope
  let decision ← call.readDecision content
  let usage ← call.readUsage root
  call.checkTimeout
  AgentModelReply.create decision.modelDump call.modelRegistration.providerId
    call.modelRegistration.model usage.promptTokens usage.completionTokens call.latencySeconds

end DecodeCall

end VulnLoom.AgentRuntime

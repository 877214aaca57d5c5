import VulnLoom.OpenAiChat

/-!
# What escapes the codec of chat completions

`decode` gives a reply whose usage adds up, or raises an exception of the codec, exactly where
`Handled` holds (`decode_handled_iff`). What escapes otherwise : a `RecursionError` of the response
or of the text in it, a `UnicodeEncodeError` of a text with a lone surrogate, a `TypeError` of the
sum of a null count of the cache, and a `ValidationError` of a latency that no reply may have.
-/

namespace VulnLoom.AgentRuntime

open PythonJson (Json Text)

/-! ## Exceptions of the codec -/

section

variable {α β : Type}

theorem own_ok (a : α) : Own (.ok a) := by
  intro e h
  cases h

@[simp] theorem own_pure (a : α) : Own (pure a : Except CodecError α) :=
  own_ok a

variable {e : CodecError}

@[simp] theorem own_error : Own (.error e : Except CodecError α) ↔ e.IsOwn := by
  constructor
  · intro h
    exact h e rfl
  · intro h e' he'
    cases he'
    exact h

variable {x : Except CodecError α}

/-- A sequence raises exceptions of the codec when each part of it does. -/
@[simp] theorem own_bind {f : α → Except CodecError β} :
    Own (x >>= f) ↔ Own x ∧ ∀ a, x = .ok a → Own (f a) := by
  cases x with
  | error e => simp [bind, Except.bind]
  | ok a => simp [bind, Except.bind, own_ok]

@[simp] theorem own_map {f : α → β} : Own (x.map f) ↔ Own x := by
  cases x with
  | error e => simp [Except.map]
  | ok a => simp [Except.map, own_ok]

@[simp] theorem own_require (condition : Prop) [Decidable condition] (code : String) :
    Own (require condition code) := by
  intro e h
  unfold require at h
  split_ifs at h
  cases h
  trivial

@[simp] theorem require_eq_ok {condition : Prop} [Decidable condition] {code : String} {u : Unit} :
    require condition code = .ok u ↔ condition := by
  unfold require
  split_ifs with h <;> simp [h]

@[simp] theorem own_raiseIf {p : Prop} [Decidable p] : Own (raiseIf p e) ↔ (p → e.IsOwn) := by
  unfold raiseIf
  split_ifs with h <;> simp [h, own_ok]

@[simp] theorem own_orRaise {o : Option α} : Own (orRaise o e) ↔ (o = none → e.IsOwn) := by
  cases o <;> simp [orRaise, own_ok]

end

theorem isOwn_rejected (message code : String) : (CodecError.rejected message code).IsOwn :=
  trivial

theorem isOwn_timedOut : CodecError.timedOut.IsOwn :=
  trivial

variable {loaded : Except PythonJson.LoadsError Json}

theorem own_strictJson {label : String} :
    Own (strictJson loaded label) ↔ loaded ≠ .error .recursion := by
  unfold strictJson
  split
  · simp [own_ok]
  · simp [isOwn_rejected]
  · simp [CodecError.IsOwn]

theorem strictJson_eq_ok {label : String} {json : Json} :
    strictJson loaded label = .ok json ↔ loaded = .ok json := by
  unfold strictJson
  split <;> simp

namespace DecodeCall

variable (call : DecodeCall)

/-! ## The envelope -/

theorem own_assertBinding : Own call.assertBinding := by
  unfold assertBinding
  simp [isOwn_rejected]

theorem own_assertSize : Own call.assertSize := by
  unfold assertSize
  simp [isOwn_rejected]

theorem own_readRoot (payload : Json) : Own (call.readRoot payload) := by
  unfold readRoot
  split
  · simp only [own_bind, own_require, own_pure, implies_true, and_true]
  · exact own_error.2 (isOwn_rejected _ _)

theorem own_readChoice (root : List (Text × Json)) : Own (call.readChoice root) := by
  unfold readChoice
  split
  · simp only [own_bind, own_require, own_pure, implies_true, and_true]
  · exact own_error.2 (isOwn_rejected _ _)

theorem own_readMessage (choice : List (Text × Json)) : Own (call.readMessage choice) := by
  unfold readMessage
  split
  · simp only [own_bind, own_require, own_pure, implies_true, and_true]
  · exact own_error.2 (isOwn_rejected _ _)

theorem own_readContent (message : List (Text × Json)) : Own (readContent message) := by
  unfold readContent
  split
  · simp only [own_bind, own_require, own_pure, implies_true, and_true]
  · exact own_error.2 (isOwn_rejected _ _)

/-- The response is for this codec and within its limit. -/
def Admitted : Prop :=
  call.assertBinding = .ok () ∧ call.assertSize = .ok ()

/-- Nothing but a response nested too deep escapes from the checks of the envelope. -/
theorem own_readEnvelope : Own call.readEnvelope ↔
    (call.Admitted → PythonJson.loadsBytes call.py call.raw ≠ .error .recursion) := by
  unfold readEnvelope Admitted
  simp only [own_bind, own_assertBinding, own_assertSize, own_strictJson, own_readRoot,
    own_readChoice, own_readMessage, own_readContent, own_pure, true_and, implies_true, and_true]
  constructor
  · rintro h ⟨hbinding, hsize⟩
    exact h () hbinding () hsize
  · intro h _ hbinding _ hsize
    exact h ⟨hbinding, hsize⟩

variable {root : List (Text × Json)}

theorem readRoot_eq_ok {payload : Json} (h : call.readRoot payload = .ok root) :
    payload = .obj root := by
  unfold readRoot at h
  split at h
  · simp only [bind_eq_ok, pure_eq_ok] at h
    obtain ⟨_, _, _, _, _, _, _, _, _, _, rfl⟩ := h
    rfl
  · cases h

variable {content : Text}

/-- The members of an accepted envelope are those of the response. -/
theorem loadsBytes_of_readEnvelope (h : call.readEnvelope = .ok (root, content)) :
    PythonJson.loadsBytes call.py call.raw = .ok (.obj root) := by
  unfold readEnvelope at h
  simp only [bind_eq_ok, pure_eq_ok] at h
  obtain ⟨_, -, _, -, payload, hpayload, root', hroot, choice, -, message, -, content', -, heq⟩ := h
  cases heq
  rw [strictJson_eq_ok.1 hpayload, call.readRoot_eq_ok hroot]

/-! ## The decision -/

/-- The text of the message, within the limit of its bytes. -/
def Fits (content : Text) : Prop :=
  ∃ length, PythonJson.utf8Length content = some length ∧
    length ≤ call.registration.limits.maxStructuredOutputBytes

theorem utf8Length_eq_none :
    PythonJson.utf8Length content = none ↔ ∃ c ∈ content, PythonJson.isSurrogate c := by
  unfold PythonJson.utf8Length
  split_ifs with h
  · simpa using h
  · simpa using h

/-- A lone surrogate and a text nested too deep escape from the reading of a decision. -/
theorem own_readDecision : Own (call.readDecision content) ↔
    (∀ c ∈ content, ¬PythonJson.isSurrogate c) ∧
      (call.Fits content → PythonJson.loads call.py content ≠ .error .recursion) := by
  unfold readDecision Fits
  simp only [own_bind, own_orRaise, own_require, own_strictJson, orRaise_eq_ok, require_eq_ok,
    isOwn_rejected, implies_true, and_true, true_and]
  refine and_congr ?_ ?_
  · rw [utf8Length_eq_none]
    simp [CodecError.IsOwn]
  · constructor
    · rintro h ⟨length, hlength, hle⟩
      exact h length hlength () hle
    · intro h length hlength _ hle
      exact h ⟨length, hlength, hle⟩

/-! ## The usage -/

/-- Both counts of the cache are there, and one of them is null. -/
def HasNullCache (usage : List (Text × Json)) : Prop :=
  ∃ hit miss, PythonJson.get usage "prompt_cache_hit_tokens" = some hit ∧
    PythonJson.get usage "prompt_cache_miss_tokens" = some miss ∧ (hit = .null ∨ miss = .null)

theorem null_or_int_of_isCount {bound : ℕ} {value : Json} (h : isCount bound (some value)) :
    value = .null ∨ ∃ n, value = .int n := by
  cases value with
  | null => exact Or.inl rfl
  | int n => exact Or.inr ⟨n, rfl⟩
  | _ => simp [isCount, isNone, readCount] at h

theorem own_sumTokens {hit miss : Json} (hhit : hit = .null ∨ ∃ n, hit = .int n)
    (hmiss : miss = .null ∨ ∃ n, miss = .int n) :
    Own (sumTokens hit miss) ↔ ¬(hit = .null ∨ miss = .null) := by
  rcases hhit with rfl | ⟨a, rfl⟩
  · simp [sumTokens, CodecError.IsOwn]
  · rcases hmiss with rfl | ⟨b, rfl⟩
    · simp [sumTokens, CodecError.IsOwn]
    · simp [sumTokens, own_ok]

variable {usage : List (Text × Json)}

/-- Counts of the cache that are valid one by one are added up, unless one of them is null. -/
theorem own_cacheSumValid {prompt : ℕ} (h : cacheFieldsValid usage prompt) :
    Own (cacheSumValid usage prompt) ↔
      ¬HasNullCache usage := by
  simp only [cacheFieldsValid, List.all_cons, List.all_nil, Bool.and_true, Bool.and_eq_true,
    decide_eq_true_eq] at h
  obtain ⟨-, hhit, hmiss⟩ := h
  unfold cacheSumValid HasNullCache
  split
  · next hit miss hgetHit hgetMiss =>
    rw [hgetHit] at hhit
    rw [hgetMiss] at hmiss
    rw [own_map, own_sumTokens (null_or_int_of_isCount hhit) (null_or_int_of_isCount hmiss)]
    simp [hgetHit, hgetMiss]
  · next hmissing =>
    refine iff_of_true (own_ok true) ?_
    rintro ⟨hit, miss, hgetHit, hgetMiss, -⟩
    exact hmissing hit miss hgetHit hgetMiss

theorem own_reviewedUsageExtensionsValid {prompt completion : ℕ} :
    Own (reviewedUsageExtensionsValid usage prompt completion) ↔
      (cacheFieldsValid usage prompt → ¬HasNullCache usage) := by
  unfold reviewedUsageExtensionsValid
  split_ifs with hfields
  · rw [own_bind, own_cacheSumValid hfields]
    have hrest : ∀ valid : Bool, Own (if valid then
        (pure (decide (isCount completion (PythonJson.get usage "reasoning_tokens") ∧
          isDetails promptDetailFields prompt (PythonJson.get usage "prompt_tokens_details") ∧
          isDetails completionDetailFields completion
            (PythonJson.get usage "completion_tokens_details"))) : Except CodecError Bool)
        else pure false) := by
      intro valid
      split_ifs <;> exact own_pure _
    simp only [hrest, implies_true, and_true, hfields, true_implies]
  · simp [own_ok, hfields]

/-- A usage with its three counts : the total is the sum, and the model may complete so much. -/
structure Counted (root usage : List (Text × Json)) (prompt completion : ℕ) : Prop where
  member : PythonJson.get root "usage" = some (.obj usage)
  shape : hasShape usage usageFields call.allowedUsage
  counts : readCounts usage = some (prompt, completion, prompt + completion)
  completion_le : completion ≤ call.modelRegistration.maxOutputTokens

/-- Only the sum of a null count escapes from the checks of the usage. -/
theorem own_readUsage : Own (call.readUsage root) ↔
    ∀ usage prompt completion, call.Counted root usage prompt completion →
      cacheFieldsValid usage prompt → ¬HasNullCache usage := by
  unfold readUsage
  split
  · next usage husage =>
    simp only [own_bind, own_require, own_orRaise, own_pure, own_reviewedUsageExtensionsValid,
      require_eq_ok, orRaise_eq_ok, isOwn_rejected, implies_true, and_true, true_and]
    constructor
    · intro h usage' prompt completion hcounted
      have hmember := hcounted.member
      rw [husage] at hmember
      cases hmember
      exact h () hcounted.shape (prompt, completion, prompt + completion) hcounted.counts ()
        hcounted.completion_le () rfl
    · rintro h _ hshape ⟨prompt, completion, total⟩ hcounts _ hle _ htotal
      simp only at hle htotal
      subst htotal
      exact h usage prompt completion ⟨husage, hshape, hcounts, hle⟩
  · next hmissing =>
    refine iff_of_true (own_error.2 (isOwn_rejected _ _)) ?_
    intro usage prompt completion hcounted
    exact absurd hcounted.member (hmissing usage)

theorem counted_of_readUsage {usage : ResponseUsage} (h : call.readUsage root = .ok usage) :
    ∃ members, call.Counted root members usage.promptTokens usage.completionTokens := by
  unfold readUsage at h
  split at h
  · next members hmember =>
    simp only [bind_eq_ok, require_eq_ok, orRaise_eq_ok, pure_eq_ok] at h
    obtain ⟨_, hshape, ⟨prompt, completion, total⟩, hcounts, _, hle, _, htotal, _, -, _, -,
      rfl⟩ := h
    simp only at hle htotal
    subst htotal
    exact ⟨members, hmember, hshape, hcounts, hle⟩
  · cases h

theorem readCount_eq_some {bound n : ℕ} {json : Json} (h : readCount bound json = some n) :
    json = .int n := by
  unfold readCount at h
  split at h
  · next value =>
    split_ifs at h with hbounds
    cases h
    rw [Int.toNat_of_nonneg hbounds.1]
  · cases h

theorem Counted.total {root usage : List (Text × Json)} {prompt completion : ℕ}
    (h : call.Counted root usage prompt completion) :
    PythonJson.get usage "total_tokens" = some (.int ((prompt + completion : ℕ) : ℤ)) := by
  have hcounts := h.counts
  unfold readCounts at hcounts
  simp only [Option.bind_eq_bind, Option.bind_eq_some_iff, Option.pure_def, Option.some.injEq,
    Prod.mk.injEq] at hcounts
  obtain ⟨_, -, _, -, total, ⟨json, hjson, hcount⟩, -, -, htotal⟩ := hcounts
  rw [hjson, readCount_eq_some hcount, htotal]

/-! ## The reply -/

/-- A reply with a decision that was read, and with the usage of the response : its total is the
sum of what was read and what was written. -/
structure Validated (reply : AgentModelReply) : Prop where
  decision : ∃ decision : AgentDecisionPayload, reply.structuredOutput = decision.modelDump
  total : ∃ root usage, PythonJson.loadsBytes call.py call.raw = .ok (.obj root) ∧
    PythonJson.get root "usage" = some (.obj usage) ∧
    PythonJson.get usage "total_tokens" =
      some (.int ((reply.inputTokens + reply.outputTokens : ℕ) : ℤ))

variable {reply : AgentModelReply}

theorem create_eq_ok {output : Json} {providerId model : String} {input generated : ℕ}
    {latency : ℚ}
    (h : AgentModelReply.create output providerId model input generated latency = .ok reply) :
    reply.structuredOutput = output ∧ reply.inputTokens = input ∧
      reply.outputTokens = generated := by
  unfold AgentModelReply.create at h
  split_ifs at h
  cases h
  exact ⟨rfl, rfl, rfl⟩

theorem own_create {output : Json} {providerId model : String} {input generated : ℕ}
    {latency : ℚ} : Own (AgentModelReply.create output providerId model input generated latency) ↔
      0 ≤ latency ∧ latency ≤ 600 := by
  unfold AgentModelReply.create
  split_ifs with h
  · exact iff_of_true (own_ok _) h
  · exact iff_of_false (fun hown => own_error.1 hown) h

theorem validated_of_decode (h : call.decode = .ok reply) : call.Validated reply := by
  unfold decode at h
  simp only [bind_eq_ok] at h
  obtain ⟨⟨root, content⟩, henvelope, decision, -, usage, husage, _, -, hcreate⟩ := h
  obtain ⟨houtput, hinput, hgenerated⟩ := create_eq_ok hcreate
  obtain ⟨members, hcounted⟩ := call.counted_of_readUsage husage
  refine ⟨⟨decision, houtput⟩, root, members, call.loadsBytes_of_readEnvelope henvelope,
    hcounted.member, ?_⟩
  rw [hinput, hgenerated, hcounted.total]

/-- What must hold of a call so that nothing escapes from it : each field is about a response that
passed what is checked before. -/
structure Handled : Prop where
  /-- the response is not nested too deep -/
  response : call.Admitted → PythonJson.loadsBytes call.py call.raw ≠ .error .recursion
  /-- the text of the message has no lone surrogate -/
  encodes : ∀ root content, call.readEnvelope = .ok (root, content) →
    ∀ c ∈ content, ¬PythonJson.isSurrogate c
  /-- the text of the message is not nested too deep -/
  content : ∀ root content, call.readEnvelope = .ok (root, content) → call.Fits content →
    PythonJson.loads call.py content ≠ .error .recursion
  /-- of two counts of the cache none is null -/
  cache : ∀ root content decision, call.readEnvelope = .ok (root, content) →
    call.readDecision content = .ok decision → ∀ usage prompt completion,
      call.Counted root usage prompt completion → cacheFieldsValid usage prompt →
        ¬HasNullCache usage
  /-- the latency is one of a reply -/
  latency : ∀ root content decision usage, call.readEnvelope = .ok (root, content) →
    call.readDecision content = .ok decision → call.readUsage root = .ok usage →
      call.checkTimeout = .ok () → 0 ≤ call.latencySeconds ∧ call.latencySeconds ≤ 600

theorem own_checkTimeout : Own call.checkTimeout := by
  unfold checkTimeout
  simp [isOwn_timedOut]

theorem own_decode : Own call.decode ↔ call.Handled := by
  unfold decode
  simp only [own_bind, own_readEnvelope, own_readDecision, own_readUsage, own_checkTimeout,
    own_create, true_and, Prod.forall]
  constructor
  · rintro ⟨hresponse, hrest⟩
    refine ⟨hresponse, fun root content h => (hrest root content h).1.1,
      fun root content h => (hrest root content h).1.2, ?_, ?_⟩
    · intro root content decision henvelope hdecision
      exact ((hrest root content henvelope).2 decision hdecision).1
    · intro root content decision usage henvelope hdecision husage htime
      exact ((hrest root content henvelope).2 decision hdecision).2 usage husage () htime
  · intro h
    refine ⟨h.response, fun root content henvelope =>
      ⟨⟨h.encodes root content henvelope, h.content root content henvelope⟩,
        fun decision hdecision => ⟨h.cache root content decision henvelope hdecision, ?_⟩⟩⟩
    intro usage husage _ htime
    exact h.latency root content decision usage henvelope hdecision husage htime

/-- A call gives a validated reply, or raises an exception of the codec. -/
def Total : Prop :=
  (∃ reply, call.decode = .ok reply ∧ call.Validated reply) ∨
    ∃ e, call.decode = .error e ∧ e.IsOwn

theorem total_iff_own : call.Total ↔ Own call.decode := by
  unfold Total
  cases hdecode : call.decode with
  | error e => simp
  | ok reply => simp [own_ok, call.validated_of_decode hdecode]

/-- The decoder is total exactly where nothing escapes. -/
theorem decode_handled_iff : call.Total ↔ call.Handled := by
  rw [total_iff_own, own_decode]

/-! ## A text with a lone surrogate -/

def chatRegistration : OpenAIChatCompletionsCodecRegistration where
  codecId := "c"
  providerId := "p"
  requestModel := "m"
  acceptedResponseModels := ["m"]
  limits := ⟨262144, 2, by decide, by decide⟩
  allowedEmptyRootFields := []
  allowedEmptyChoiceFields := []
  allowedEmptyMessageFields := []
  reviewedUsageExtensionsAllowed := false
  accepted_length := by decide
  accepted_sorted := rfl
  root := .nil _
  choice := .nil _
  message := .nil _

def chatModelRegistration : ProviderModelRegistration where
  registrationId := "r"
  providerId := "p"
  model := "m"
  supportedRoles := [.validator]
  maxOutputTokens := 4096
  maxOutputTokens_bounds := tokens_bounds
  providerCodecId := some "c"

/-- A complete response whose content is the escape of one half of a surrogate pair. -/
def surrogateResponse : String :=
  "\x7b\"id\":\"r\",\"object\":\"chat.completion\",\"created\":0,\"model\":\"m\",\"choices\":" ++
  "[\x7b\"index\":0,\"message\":\x7b\"role\":\"assistant\",\"content\":\"\\ud800\"\x7d," ++
  "\"finish_reason\":\"stop\"\x7d],\"usage\":\x7b\"prompt_tokens\":1,\"completion_tokens\":1," ++
  "\"total_tokens\":2\x7d\x7d"

def surrogateCall : DecodeCall where
  py := ⟨1000, 4300, fun _ => []⟩
  registration := chatRegistration
  modelRegistration := chatModelRegistration
  raw := PythonJson.text surrogateResponse
  latencySeconds := 1
  started := 0
  checked := 0

/-- The letters of the response, and what the decoder makes of them. -/
theorem surrogate_letters : ∃ letters : List Char, surrogateResponse.toList = letters ∧
    letters.length ≤ 262144 ∧
      (match { surrogateCall with raw := letters.map Char.toNat }.decode with
        | .error e => decide (e = CodecError.unicodeEncodeError)
        | .ok _ => false) = true := by
  refine ⟨?letters, ?eq, ?decodes⟩
  case eq =>
    unfold surrogateResponse
    simp only [String.toList_append]
    rw [String.toList_ofList, String.toList_ofList, String.toList_ofList, String.toList_ofList]
  case decodes => decide +kernel

/-- The text is accepted up to its encoding, which raises what nobody catches. -/
theorem surrogate_escapes : ¬∀ call : DecodeCall,
    call.raw.length ≤ call.registration.limits.maxStructuredOutputBytes → call.Total := by
  intro h
  obtain ⟨letters, -, hlength, hescapes⟩ := surrogate_letters
  have htotal := h { surrogateCall with raw := letters.map Char.toNat }
    ((List.length_map Char.toNat).trans_le hlength)
  rw [total_iff_own] at htotal
  split at hescapes
  · next e hdecode =>
    have hown := htotal e hdecode
    rw [of_decide_eq_true hescapes] at hown
    exact hown
  · cases hescapes

end DecodeCall

end VulnLoom.AgentRuntime

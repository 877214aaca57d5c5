import VulnLoom.BrokerOnce
import VulnLoom.SourceExecutionModels

/-!
# Validation runs

What the validation service does with a plan once it has claimed it. A call of a plan here is a
call of the HTTP tool or of the TLS tool. The runner, the broker, the evidence store and the judge
are functions; none of their answers is trusted.
-/

set_option linter.unusedSectionVars false

namespace VulnLoom

def HttpMethod.value : HttpMethod → String
  | .get => "GET"
  | .head => "HEAD"
  | .options => "OPTIONS"
  | .post => "POST"
  | .put => "PUT"
  | .patch => "PATCH"
  | .delete => "DELETE"

namespace ValidationRuns

section

variable [PythonUrl]

/-! ## Records -/

/-- `TlsInspectionPlan`; the broker alone reads the limits. -/
structure TlsInspectionPlan where
  url : String
  testClass : String
  deriving DecidableEq

/-- `BrokerCall`. -/
structure ToolCall where
  callId : UUID
  task : TaskEnvelope
  profile : SandboxProfile
  toolId : String
  http : Option HttpRequestPlan
  tls : Option TlsInspectionPlan
  idempotencyKey : String
  oneInput : http.isSome ≠ tls.isSome
  deriving DecidableEq

@[ext]
structure TlsToolResult where
  endpointUrlDigest : Digest
  peerIp : String
  leafCertificateSha256 : Digest
  evidenceRefs : List Digest
  evidenceRefs_length : evidenceRefs.length = 1

instance : DecidableEq TlsToolResult := fun _ _ => decidable_of_iff _ TlsToolResult.ext_iff.symm

/-- `BrokerResult`. -/
structure ToolResult where
  callId : UUID
  taskId : UUID
  toolId : String
  status : BrokerStatus
  toolCallsUsed : ℕ
  http : Option HttpToolResult
  tls : Option TlsToolResult
  completedAt : Time
  completed_shape : status = .completed → http.isSome ≠ tls.isSome
  other_shape : status ≠ .completed → http = none ∧ tls = none
  deriving DecidableEq

/-- `ValidationPlan`. -/
structure ToolPlan where
  candidateId : UUID
  candidateDigest : Digest
  targetId : UUID
  targetVersion : String
  scopeId : UUID
  scopeVersion : ℕ
  selectedBy : String
  selectedAt : Time
  selectionReason : String
  runnerRequest : SandboxRunRequest
  brokerCalls : List ToolCall
  httpAssertion : Option HttpResponseAssertion
  idempotencyKey : String
  brokerCalls_length : brokerCalls.length ≤ 16
  asserted : ∀ assertion ∈ httpAssertion, assertion.callId ∈ brokerCalls.map ToolCall.callId
  deriving DecidableEq

/-- `ValidationRun`, with what it changed. -/
structure RecordedRun extends ValidationRun where
  sideEffects : List String
  deriving DecidableEq

/-- `ValidationOutcome`. -/
structure RunOutcome where
  planId : Digest
  candidate : Candidate
  validationRun : RecordedRun
  evidenceBundle : Option EvidenceBundle
  runnerResult : SandboxRunResult
  brokerResults : List ToolResult
  verdict : ValidationVerdict
  completedAt : Time
  deriving DecidableEq

/-- The digests of what a run is bound to. -/
class RunDigests where
  candidate : CanonicalDigest Candidate
  plan : CanonicalDigest ToolPlan
  profile : CanonicalDigest SandboxProfile
  invocation : CanonicalDigest ToolInvocation

attribute [reducible, instance] RunDigests.candidate RunDigests.plan RunDigests.profile
  RunDigests.invocation

inductive RunError
  | rejected (reason : String)
  | lifecycle (error : LifecycleError)
  | idempotencyConflict (reason : String)
  | recoveryRequired (reason : String)
  | attributeError (reason : String)
  deriving DecidableEq

variable [RunDigests]

def ToolPlan.planId (plan : ToolPlan) : Digest :=
  canonicalDigest plan

/-! ## The store -/

/-- A row of `validation_executions`; it is completed where it has an outcome. -/
structure ExecutionRow where
  plan : ToolPlan
  startedAt : Time
  outcome : Option RunOutcome
  deriving DecidableEq

/-- `ValidationStore.claim` : the outcome of a completed plan, and none of a plan that is new. -/
def claim (rows : List ExecutionRow) (plan : ToolPlan) (now : Time) :
    List ExecutionRow × Except RunError (Option RunOutcome) :=
  match rows.find? fun row => row.plan.planId = plan.planId ∨
      row.plan.idempotencyKey = plan.idempotencyKey with
  | none => (rows ++ [⟨plan, now, none⟩], .ok none)
  | some row =>
    (rows, if row.plan.planId ≠ plan.planId ∨ row.plan ≠ plan then
        .error (.idempotencyConflict
          "validation idempotency key or plan id was reused for different content")
      else match row.outcome with
        | none => .error (.recoveryRequired
          "validation has an unfinished STARTED checkpoint; automatic replay is refused")
        | some outcome => .ok (some outcome))

/-- A row that an outcome completes. -/
def ExecutionRow.completes (outcome : RunOutcome) (row : ExecutionRow) : Bool :=
  row.plan.planId = outcome.planId ∧ row.outcome = none

/-- `ValidationStore.complete`. -/
def complete (rows : List ExecutionRow) (outcome : RunOutcome) :
    List ExecutionRow × Except RunError Unit :=
  (Table.update (ExecutionRow.completes outcome) (fun row => { row with outcome := some outcome })
    rows,
    raiseIf (Table.rowcount (ExecutionRow.completes outcome) rows ≠ 1)
      (.recoveryRequired "validation STARTED checkpoint is unavailable"))

/-! ## The service -/

variable [PolicyDigests]

/-- `ValidationService`. The broker answers each call of a plan by its place, and `runId` and
`bundleId` are the identifiers that are made up. -/
structure RunService where
  scope : Scope
  validateCall : ToolCall → Bool
  runner : SandboxRunRequest → Time → SandboxRunResult
  broker : ℕ → ToolCall → Time → ToolResult
  contains : Digest → Bool
  judge : ToolPlan → SandboxRunResult → List ToolResult → List Digest → ValidationVerdict
  runId : UUID
  bundleId : UUID

namespace RunService

variable (service : RunService)

/-- `_preflight`. -/
def preflight (candidate : Candidate) (plan : ToolPlan) (now : Time) : Except RunError Unit := do
  raiseIf (candidate.state ≠ .proposed)
    (.rejected "only a proposed Candidate can be selected for validation")
  raiseIf (now < plan.selectedAt)
    (.rejected "Candidate selection timestamp cannot be in the future")
  raiseIf (plan.candidateId ≠ candidate.candidateId ∨
      plan.candidateDigest ≠ canonicalDigest candidate ∨
      plan.targetId ≠ candidate.targetId ∨ plan.targetVersion ≠ candidate.targetVersion ∨
      plan.scopeId ≠ candidate.scopeId ∨ plan.scopeVersion ≠ candidate.scopeVersion)
    (.rejected "ValidationPlan provenance does not match Candidate")
  let _ ← (queueValidation candidate service.scope now).mapError RunError.lifecycle
  let tasks := plan.runnerRequest.task :: plan.brokerCalls.map ToolCall.task
  raiseIf (∃ task ∈ tasks,
      ¬task.boundTo candidate service.scope ("candidate:" ++ plan.candidateDigest))
    (.rejected "validation task provenance or policy binding mismatch")
  let request := plan.runnerRequest
  raiseIf (request.profile.kind ≠ .validation ∨ request.profile.networkMode ≠ .none ∨
      request.task.sandboxProfileDigest ≠ canonicalDigest request.profile)
    (.rejected "Runner validation must be network-isolated and profile-bound")
  plan.brokerCalls.forM fun call => do
    raiseIf (call.profile.kind ≠ .validation)
      (.rejected "Broker calls require a Validation profile")
    raiseIf (service.validateCall call = false)
      (.rejected "Broker call failed static preflight")

/-- What `_validate_runner_result` asks of a result. -/
def answers (plan : ToolPlan) (result : SandboxRunResult) : Bool :=
  result.runId = plan.runnerRequest.runId ∧ result.taskId = plan.runnerRequest.task.taskId ∧
    result.sandboxProfileDigest = canonicalDigest plan.runnerRequest.profile ∧
    result.invocationDigest = canonicalDigest plan.runnerRequest.invocation

/-- The calls from a place on, up to the first that does not complete. -/
def callsFrom (now : Time) : ℕ → List ToolCall → List ToolResult
  | _, [] => []
  | index, call :: calls =>
    let result := service.broker index call now
    if result.status = .completed then result :: callsFrom now (index + 1) calls else [result]

/-- `_evidence_refs`. -/
def evidenceRefs (runner : SandboxRunResult) (results : List ToolResult) : List Digest :=
  fromkeys (runner.evidenceRefs ++ results.flatMap fun result =>
    (result.http.map HttpToolResult.evidenceRefs).getD [])

/-- `_forced_result`. -/
def forcedResult (runner : SandboxRunResult) (results : List ToolResult) :
    Option ValidationResult :=
  if runner.status = .timedOut ∨ ∃ result ∈ results, result.status = .timedOut then some .timedOut
  else if runner.status ≠ .completed then some .inconclusive
  else if ∃ result ∈ results, result.status = .denied ∨ result.status = .approvalRequired then
    some .policyStopped
  else if ∃ result ∈ results, result.status = .failed then some .inconclusive
  else none

/-- `_side_effects`, of the calls and their results. -/
def sideEffects : List (ToolCall × ToolResult) → Except RunError (List String)
  | [] => .ok []
  | (call, result) :: pairs =>
    if result.status = .completed then
      match call.http with
      | none => .error (.attributeError "'NoneType' object has no attribute 'method'")
      | some http => do
        let effects ← sideEffects pairs
        return if http.method.mutatesState then
          ("broker:" ++ call.toolId ++ ":" ++ http.method.value) :: effects else effects
    else sideEffects pairs

def resultName : ValidationResult → String
  | .reproduced => "reproduced"
  | .notReproduced => "not_reproduced"
  | .inconclusive => "inconclusive"
  | .policyStopped => "policy_stopped"
  | .timedOut => "timed_out"

/-- The verdict that an execution forces. -/
def forcedVerdict (forced : ValidationResult) (h : forced ≠ .reproduced) (refs : List Digest) :
    ValidationVerdict where
  result := forced
  rationaleCode := "execution_" ++ resultName forced
  evidenceRefs := refs
  reproduced_evidence := fun heq => absurd heq h

theorem forcedResult_ne {runner : SandboxRunResult} {results : List ToolResult}
    {forced : ValidationResult} (h : forcedResult runner results = some forced) :
    forced ≠ .reproduced := by
  unfold forcedResult at h
  split_ifs at h <;> cases h <;> decide

section Verdict

variable (plan : ToolPlan) (now : Time)

/-- The runner result of a run. -/
def ran : SandboxRunResult :=
  service.runner plan.runnerRequest now

/-- The broker results of a run : none unless the runner completed. -/
def called : List ToolResult :=
  if (service.ran plan now).status = .completed then service.callsFrom now 0 plan.brokerCalls
  else []

/-- The evidence that a run collects. -/
def collected : List Digest :=
  evidenceRefs (service.ran plan now) (service.called plan now)

/-- What the execution forces. -/
def forced : Option ValidationResult :=
  forcedResult (service.ran plan now) (service.called plan now)

/-- What the judge says when it is asked. -/
def judged : ValidationVerdict :=
  service.judge plan (service.ran plan now) (service.called plan now) (service.collected plan now)

/-- The verdict of a run. -/
def verdict : ValidationVerdict :=
  match h : service.forced plan now with
  | none => service.judged plan now
  | some forced => forcedVerdict forced (forcedResult_ne h) (service.collected plan now)

end Verdict

/-- The run that is recorded. -/
def runOf (candidate : Candidate) (plan : ToolPlan) (now : Time) (effects : List String) :
    RecordedRun where
  runId := service.runId
  candidateId := candidate.candidateId
  targetVersion := candidate.targetVersion
  scopeVersion := candidate.scopeVersion
  sandboxImageDigest := plan.runnerRequest.profile.imageDigest
  policyDigest := plan.runnerRequest.task.policyDigest
  plan := ("plan:" ++ plan.planId) :: ("runner:" ++ plan.runnerRequest.invocation.toolId) ::
    plan.brokerCalls.mapIdx fun index call =>
      "broker:" ++ call.toolId ++ ":" ++ toString index
  startedAt := now
  finishedAt := now
  result := (service.verdict plan now).result
  evidenceRefs := (service.verdict plan now).evidenceRefs
  resourceUsage :=
    let runner := service.ran plan now
    let results := service.called plan now
    [("wall_seconds", runner.usage.wallSeconds), ("cpu_millis", runner.usage.cpuMillis),
      ("peak_memory_bytes", runner.usage.peakMemoryBytes), ("broker_calls", results.length),
      ("tool_calls", (runner.toolCalls + (results.map ToolResult.toolCallsUsed).sum : ℕ))]
  ordered := le_rfl
  sideEffects := effects

/-- The outcome of a run that ends with a candidate. -/
def outcome (candidate final : Candidate) (plan : ToolPlan) (now : Time) (effects : List String) :
    RunOutcome where
  planId := plan.planId
  candidate := final
  validationRun := service.runOf candidate plan now effects
  evidenceBundle :=
    if (service.verdict plan now).evidenceRefs = [] then none
    else some ⟨service.bundleId, candidate.candidateId, (service.verdict plan now).evidenceRefs,
      now⟩
  runnerResult := service.ran plan now
  brokerResults := service.called plan now
  verdict := service.verdict plan now
  completedAt := now

/-- What an execution makes of its claim. -/
def settle (candidate : Candidate) (plan : ToolPlan) (now : Time) :
    Except RunError RunOutcome := do
  let queued ← (queueValidation candidate service.scope now).mapError RunError.lifecycle
  let running ← (transitionCandidate queued .validationRunning).mapError RunError.lifecycle
  raiseIf (answers plan (service.ran plan now) = false)
    (.rejected "Runner result does not match the selected request")
  raiseIf (∃ ref ∈ service.collected plan now, service.contains ref = false)
    (.rejected "validation referenced unavailable or corrupt Evidence")
  let verdict := service.verdict plan now
  raiseIf (service.forced plan now = none ∧
      (verdict.result = .policyStopped ∨ verdict.result = .timedOut))
    (.rejected "judge cannot manufacture an execution control result")
  raiseIf (¬verdict.evidenceRefs ⊆ service.collected plan now)
    (.rejected "judge referenced evidence not produced by this validation")
  let effects ← sideEffects (plan.brokerCalls.zip (service.called plan now))
  let run := service.runOf candidate plan now effects
  let final ← (completeValidation running run.toValidationRun).mapError RunError.lifecycle
  return service.outcome candidate final plan now effects

/-- `ValidationService.execute`. -/
def execute (rows : List ExecutionRow) (candidate : Candidate) (plan : ToolPlan) (now : Time) :
    List ExecutionRow × Except RunError RunOutcome :=
  match service.preflight candidate plan now with
  | .error error => (rows, .error error)
  | .ok () =>
    match claim rows plan now with
    | (rows, .error error) => (rows, .error error)
    | (rows, .ok (some outcome)) => (rows, .ok outcome)
    | (rows, .ok none) =>
      match service.settle candidate plan now with
      | .error error => (rows, .error error)
      | .ok outcome =>
        match complete rows outcome with
        | (rows, .error error) => (rows, .error error)
        | (rows, .ok ()) => (rows, .ok outcome)

/-! ## What a run comes to -/

section Runs

variable (plan : ToolPlan) (now : Time)

/-- The answers can be trusted : the runner result is of the request, the evidence is there, and a
judge that is asked keeps to the evidence and to results of its own. -/
structure Trusted : Prop where
  answered : answers plan (service.ran plan now) = true
  available : ∀ ref ∈ service.collected plan now, service.contains ref = true
  control : service.forced plan now = none → (service.judged plan now).result ≠ .policyStopped ∧
    (service.judged plan now).result ≠ .timedOut
  cited : service.forced plan now = none →
    (service.judged plan now).evidenceRefs ⊆ service.collected plan now

/-- The calls that completed are calls of the HTTP tool. -/
def HttpOnly : Prop :=
  ∀ pair ∈ plan.brokerCalls.zip (service.called plan now),
    pair.2.status = .completed → pair.1.tls = none

/-- What an outcome says is what the run did : what is reproduced was run to its end and rests on
evidence of the run, and a timeout or a stop by policy decides the result. -/
structure Reports (outcome : RunOutcome) : Prop where
  recorded : outcome.planId = plan.planId ∧ outcome.validationRun.result = outcome.verdict.result ∧
    outcome.validationRun.evidenceRefs = outcome.verdict.evidenceRefs
  reproduced : outcome.verdict.result = .reproduced →
    (service.ran plan now).status = .completed ∧
      (∀ index call, plan.brokerCalls[index]? = some call →
        (service.broker index call now).status = .completed)
  cited : outcome.verdict.evidenceRefs ⊆ service.collected plan now
  timedOut : ((service.ran plan now).status = .timedOut ∨
    ∃ result ∈ service.called plan now, result.status = .timedOut) →
      outcome.verdict.result = .timedOut
  policyStopped : (∃ result ∈ service.called plan now,
    result.status = .denied ∨ result.status = .approvalRequired) →
      outcome.verdict.result = .policyStopped

end Runs

variable {service}

theorem sideEffects_isOk : ∀ {pairs : List (ToolCall × ToolResult)},
    (∀ pair ∈ pairs, pair.2.status = .completed → pair.1.tls = none) →
      ∃ effects, sideEffects pairs = .ok effects
  | [], _ => ⟨[], rfl⟩
  | (call, result) :: pairs, h => by
    obtain ⟨effects, heffects⟩ := sideEffects_isOk fun pair hpair =>
      h pair (List.mem_cons_of_mem _ hpair)
    by_cases hcompleted : result.status = .completed
    · have hone := call.oneInput
      rw [h (call, result) List.mem_cons_self hcompleted] at hone
      obtain ⟨http, hhttp⟩ := Option.ne_none_iff_exists'.1 fun hnone : call.http = none => by
        simp [hnone] at hone
      rw [sideEffects, if_pos hcompleted]
      simp only [hhttp, heffects, ok_bind]
      exact ⟨_, rfl⟩
    · exact ⟨effects, by rw [sideEffects, if_neg hcompleted, heffects]⟩

/-- The verdict of a run is forced, or it is the judge's. -/
theorem verdict_spec (plan : ToolPlan) (now : Time) :
    (service.forced plan now = none ∧ service.verdict plan now = service.judged plan now) ∨
    ∃ forced, service.forced plan now = some forced ∧
      (service.verdict plan now).result = forced ∧
      (service.verdict plan now).evidenceRefs = service.collected plan now := by
  unfold verdict
  split
  · next h => exact .inl ⟨h, rfl⟩
  · next forced h => exact .inr ⟨forced, h, rfl, rfl⟩

variable {plan : ToolPlan} {now : Time}

theorem forced_eq_none (h : service.forced plan now = none) :
    (service.ran plan now).status = .completed ∧
      ∀ result ∈ service.called plan now, result.status = .completed := by
  unfold forced forcedResult at h
  split_ifs at h with htimeout hcompleted hpolicy hfailed
  refine ⟨not_not.1 hcompleted, fun result hresult => ?_⟩
  cases hstatus : result.status with
  | completed => rfl
  | denied => exact absurd ⟨result, hresult, .inl hstatus⟩ hpolicy
  | approvalRequired => exact absurd ⟨result, hresult, .inr hstatus⟩ hpolicy
  | timedOut => exact absurd (.inr ⟨result, hresult, hstatus⟩) htimeout
  | failed => exact absurd ⟨result, hresult, hstatus⟩ hfailed

/-- Where each result is completed, each call has one. -/
theorem callsFrom_completed {now : Time} : ∀ {index : ℕ} {calls : List ToolCall},
    (∀ result ∈ service.callsFrom now index calls, result.status = .completed) →
      ∀ n call, calls[n]? = some call →
        (service.broker (index + n) call now).status = .completed
  | _, [], _, n, call, hcall => by simp at hcall
  | index, first :: calls, h, n, call, hcall => by
    have hfirst : (service.broker index first now).status = .completed := by
      refine h _ ?_
      rw [callsFrom]
      split_ifs <;> simp
    cases n with
    | zero =>
      obtain rfl : first = call := by simpa using hcall
      exact hfirst
    | succ n =>
      have hrest : ∀ n call, calls[n]? = some call →
          (service.broker (index + 1 + n) call now).status = .completed :=
        callsFrom_completed fun result hresult =>
          h result (by rw [callsFrom, if_pos hfirst]; exact List.mem_cons_of_mem _ hresult)
      have hnext := hrest n call (by simpa using hcall)
      rwa [Nat.add_right_comm] at hnext

theorem called_of_stopped {result : ToolResult} (h : result ∈ service.called plan now) :
    (service.ran plan now).status = .completed := by
  unfold called at h
  split_ifs at h with hstatus
  · exact hstatus
  · cases h

/-- A result that did not complete is the last one. -/
theorem callsFrom_last {now : Time} : ∀ {index : ℕ} {calls : List ToolCall} {result : ToolResult},
    result ∈ service.callsFrom now index calls → result.status ≠ .completed →
      ∀ other ∈ service.callsFrom now index calls, other.status ≠ .completed → other = result
  | _, [], _, h, _, _, _, _ => by cases h
  | index, first :: calls, result, h, hresult, other, hother, hne => by
    rw [callsFrom] at h hother
    split_ifs at h hother with hfirst
    · rcases List.mem_cons.1 h with rfl | h
      · exact absurd hfirst hresult
      rcases List.mem_cons.1 hother with rfl | hother
      · exact absurd hfirst hne
      exact callsFrom_last h hresult other hother hne
    · rw [List.mem_singleton.1 h, List.mem_singleton.1 hother]

theorem forced_timedOut
    (h : (service.ran plan now).status = .timedOut ∨
      ∃ result ∈ service.called plan now, result.status = .timedOut) :
    service.forced plan now = some .timedOut := by
  rw [forced, forcedResult, if_pos h]

theorem forced_policyStopped
    (h : ∃ result ∈ service.called plan now,
      result.status = .denied ∨ result.status = .approvalRequired) :
    service.forced plan now = some .policyStopped := by
  obtain ⟨result, hresult, hstatus⟩ := h
  have hran := called_of_stopped hresult
  have hne : result.status ≠ .completed := by
    rintro heq
    rw [heq] at hstatus
    simp at hstatus
  rw [forced, forcedResult, if_neg, if_neg (not_not.2 hran), if_pos ⟨result, hresult, hstatus⟩]
  rintro (htimeout | ⟨other, hother, htimeout⟩)
  · rw [hran] at htimeout
    cases htimeout
  · have hcalled : service.called plan now = service.callsFrom now 0 plan.brokerCalls := by
      rw [called, if_pos hran]
    rw [hcalled] at hresult hother
    have heq := callsFrom_last hresult hne other hother (by rw [htimeout]; decide)
    rw [← heq, htimeout] at hstatus
    simp at hstatus

/-- The answers can be trusted just when the checks of the run pass. -/
theorem trusted_iff (plan : ToolPlan) (now : Time) : service.Trusted plan now ↔
    answers plan (service.ran plan now) ≠ false ∧
    (¬∃ ref ∈ service.collected plan now, service.contains ref = false) ∧
    ¬(service.forced plan now = none ∧ ((service.verdict plan now).result = .policyStopped ∨
      (service.verdict plan now).result = .timedOut)) ∧
    (service.verdict plan now).evidenceRefs ⊆ service.collected plan now := by
  obtain ⟨hforced, hverdict⟩ | ⟨forced, hforced, -, hrefs⟩ := service.verdict_spec plan now
  · rw [hverdict]
    constructor
    · rintro ⟨hanswers, havailable, hcontrol, hcited⟩
      refine ⟨by simp [hanswers], by simpa using havailable, ?_, hcited hforced⟩
      rintro ⟨-, hresult⟩
      exact hresult.elim (hcontrol hforced).1 (hcontrol hforced).2
    · rintro ⟨hanswers, havailable, hcontrol, hcited⟩
      exact ⟨by simpa using hanswers, by simpa using havailable,
        fun _ => not_or.1 fun hresult => hcontrol ⟨hforced, hresult⟩, fun _ => hcited⟩
  · rw [hrefs, hforced]
    constructor
    · rintro ⟨hanswers, havailable, -, -⟩
      exact ⟨by simp [hanswers], by simpa using havailable, by simp, fun _ => id⟩
    · rintro ⟨hanswers, havailable, -, -⟩
      exact ⟨by simpa using hanswers, by simpa using havailable, by simp [hforced],
        by simp [hforced]⟩

variable {candidate : Candidate}

theorem preflight_ok (h : service.preflight candidate plan now = .ok ()) :
    candidate.state = .proposed ∧
      ∃ queued, queueValidation candidate service.scope now = .ok queued := by
  simp only [preflight, bind_eq_ok, raiseIf_eq_ok, mapError_eq_ok] at h
  obtain ⟨-, hstate, -, -, -, -, queued, hqueued, -⟩ := h
  exact ⟨not_not.1 hstate, queued, hqueued⟩

/-- A claimed candidate is queued and run, and takes any result. -/
theorem lifecycle_ok (h : service.preflight candidate plan now = .ok ()) :
    ∃ queued running, queueValidation candidate service.scope now = .ok queued ∧
      transitionCandidate queued .validationRunning = .ok running ∧
      ∀ effects, ∃ final, completeValidation running
        (service.runOf candidate plan now effects).toValidationRun = .ok final := by
  obtain ⟨-, queued, hqueued⟩ := preflight_ok h
  have hpending : queued = { candidate with state := .validationPending } := by
    simp only [queueValidation, bind_eq_ok] at hqueued
    obtain ⟨-, -, -, -, -, -, hmove⟩ := hqueued
    exact (transitionCandidate_ok hmove).2
  subst hpending
  refine ⟨_, _, hqueued, rfl, fun effects => ?_⟩
  refine ⟨{ candidate with state :=
    if (service.verdict plan now).result = .reproduced then .validated else .inconclusive }, ?_⟩
  simp only [completeValidation, transitionCandidate, bind_eq_ok, raiseIf_eq_ok, pure_eq_ok]
  refine ⟨(), fun h => h rfl, (), fun h => h.elim (fun h => h rfl) fun h => h rfl, (), ?_, rfl⟩
  by_cases hresult : (service.verdict plan now).result = .reproduced <;>
    simp [runOf, hresult, candidateTransitions]

/-- A run settles just when its answers can be trusted, where its calls are HTTP calls. -/
theorem settle_ok (h : service.preflight candidate plan now = .ok ())
    (htrusted : service.Trusted plan now) (hhttp : service.HttpOnly plan now) :
    ∃ outcome, service.settle candidate plan now = .ok outcome := by
  obtain ⟨queued, running, hqueued, hrunning, hfinal⟩ := lifecycle_ok h
  obtain ⟨effects, heffects⟩ := sideEffects_isOk hhttp
  obtain ⟨final, hfinal⟩ := hfinal effects
  obtain ⟨hanswers, havailable, hcontrol, hcited⟩ := (trusted_iff plan now).1 htrusted
  refine ⟨service.outcome candidate final plan now effects, ?_⟩
  simp only [settle, bind_eq_ok, mapError_eq_ok, raiseIf_eq_ok, pure_eq_ok, not_not]
  exact ⟨queued, hqueued, running, hrunning, (), hanswers, (), havailable, (), hcontrol, (),
    hcited, effects, heffects, final, hfinal, rfl⟩

theorem settle_rejected (h : service.preflight candidate plan now = .ok ())
    (htrusted : ¬service.Trusted plan now) :
    ∃ reason, service.settle candidate plan now = .error (.rejected reason) := by
  obtain ⟨queued, running, hqueued, hrunning, -⟩ := lifecycle_ok h
  rw [trusted_iff, not_and_or, not_and_or, not_and_or, not_not, not_not, not_not] at htrusted
  simp only [settle, hqueued, hrunning, Except.mapError, ok_bind]
  by_cases hanswers : answers plan (service.ran plan now) = false
  · exact ⟨_, by rw [raiseIf, if_pos hanswers]; rfl⟩
  rw [raiseIf, if_neg hanswers, ok_bind]
  by_cases havailable : ∃ ref ∈ service.collected plan now, service.contains ref = false
  · exact ⟨_, by rw [raiseIf, if_pos havailable]; rfl⟩
  rw [raiseIf, if_neg havailable, ok_bind]
  by_cases hcontrol : service.forced plan now = none ∧
      ((service.verdict plan now).result = .policyStopped ∨
        (service.verdict plan now).result = .timedOut)
  · exact ⟨_, by rw [raiseIf, if_pos hcontrol]; rfl⟩
  rw [raiseIf, if_neg hcontrol, ok_bind]
  have hcited := ((htrusted.resolve_left hanswers).resolve_left havailable).resolve_left hcontrol
  exact ⟨_, by rw [raiseIf, if_pos hcited]; rfl⟩

/-- What is settled reports what the run did. -/
theorem settle_reports {outcome : RunOutcome}
    (h : service.settle candidate plan now = .ok outcome) :
    service.Trusted plan now ∧ service.Reports plan now outcome := by
  simp only [settle, bind_eq_ok, mapError_eq_ok, raiseIf_eq_ok, pure_eq_ok, not_not] at h
  obtain ⟨-, -, -, -, -, hanswers, -, havailable, -, hcontrol, -, hcited, effects, -, final, -,
    rfl⟩ := h
  refine ⟨(trusted_iff plan now).2 ⟨hanswers, havailable, hcontrol, hcited⟩, ?_⟩
  have hresult : ∀ {result}, service.forced plan now = some result →
      (service.verdict plan now).result = result := by
    intro result hforced
    obtain ⟨hnone, -⟩ | ⟨forced, hsome, hverdict, -⟩ := service.verdict_spec plan now
    · rw [hforced] at hnone
      cases hnone
    · rw [hforced] at hsome
      cases hsome
      exact hverdict
  refine ⟨⟨rfl, rfl, rfl⟩, fun hreproduced => ?_, hcited, fun htimeout => ?_, fun hpolicy => ?_⟩
  · obtain ⟨hnone, -⟩ | ⟨forced, hsome, hverdict, -⟩ := service.verdict_spec plan now
    · obtain ⟨hran, hcalled⟩ := forced_eq_none hnone
      refine ⟨hran, fun index call hcall => ?_⟩
      rw [called, if_pos hran] at hcalled
      have hcompleted := callsFrom_completed hcalled index call hcall
      rwa [Nat.zero_add] at hcompleted
    · exact absurd (hverdict.symm.trans hreproduced) (forcedResult_ne hsome)
  · exact hresult (forced_timedOut htimeout)
  · exact hresult (forced_policyStopped hpolicy)

end RunService

/-! ## The store after a run -/

variable {rows : List ExecutionRow}

theorem claim_new {plan : ToolPlan} {now : Time} (h : (claim rows plan now).2 = .ok none) :
    claim rows plan now = (rows ++ [⟨plan, now, none⟩], .ok none) ∧
      ∀ row ∈ rows, row.plan.planId ≠ plan.planId := by
  unfold claim at h ⊢
  cases hfind : rows.find? fun row => row.plan.planId = plan.planId ∨
      row.plan.idempotencyKey = plan.idempotencyKey with
  | none =>
    refine ⟨rfl, fun row hrow heq => ?_⟩
    have hnone := List.find?_eq_none.1 hfind row hrow
    simp [heq] at hnone
  | some row =>
    rw [hfind] at h
    simp only at h
    split_ifs at h
    split at h <;> cases h

theorem complete_new {plan : ToolPlan} {now : Time} {outcome : RunOutcome}
    (hplan : outcome.planId = plan.planId) (h : ∀ row ∈ rows, row.plan.planId ≠ plan.planId) :
    complete (rows ++ [⟨plan, now, none⟩]) outcome =
      (rows ++ [⟨plan, now, some outcome⟩], .ok ()) := by
  have hothers : ∀ row ∈ rows, ExecutionRow.completes outcome row = false := by
    intro row hrow
    simp [ExecutionRow.completes, hplan, h row hrow]
  have hself : ExecutionRow.completes outcome ⟨plan, now, none⟩ = true := by
    simp [ExecutionRow.completes, hplan]
  have hcount : rows.countP (ExecutionRow.completes outcome) = 0 :=
    List.countP_eq_zero.2 fun row hrow => by simp [hothers row hrow]
  have hmap : rows.map (fun row => if ExecutionRow.completes outcome row = true then
      { row with outcome := some outcome } else row) = rows := by
    refine (List.map_congr_left fun row hrow => ?_).trans (List.map_id rows)
    simp [hothers row hrow]
  rw [complete, Table.update, Table.rowcount, List.map_append, hmap, List.countP_append, hcount]
  simp [hself, raiseIf]

open RunService in
/-- A claimed run records an outcome just when its answers can be trusted, and is left started
with a rejection when not, as long as no completed call is a TLS call. What is recorded reports
what the run did. -/
theorem execute_settles (service : RunService) (rows : List ExecutionRow) (candidate : Candidate)
    (plan : ToolPlan) (now : Time) (hpreflight : service.preflight candidate plan now = .ok ())
    (hclaim : (claim rows plan now).2 = .ok none) :
    (service.HttpOnly plan now → service.Trusted plan now →
      ∃ outcome, service.execute rows candidate plan now =
        (rows ++ [⟨plan, now, some outcome⟩], .ok outcome)) ∧
    (¬service.Trusted plan now → ∃ reason, service.execute rows candidate plan now =
      (rows ++ [⟨plan, now, none⟩], .error (.rejected reason))) ∧
    ∀ outcome, (service.execute rows candidate plan now).2 = .ok outcome →
      service.execute rows candidate plan now =
        (rows ++ [⟨plan, now, some outcome⟩], .ok outcome) ∧
      service.Trusted plan now ∧ service.Reports plan now outcome := by
  obtain ⟨hnew, hrows⟩ := claim_new hclaim
  have hok : ∀ {outcome}, service.settle candidate plan now = .ok outcome →
      service.execute rows candidate plan now =
        (rows ++ [⟨plan, now, some outcome⟩], .ok outcome) := by
    intro outcome hsettle
    have hplan := (settle_reports hsettle).2.recorded.1
    simp only [execute, hpreflight, hnew, hsettle, complete_new hplan hrows]
  have herror : ∀ {error}, service.settle candidate plan now = .error error →
      service.execute rows candidate plan now =
        (rows ++ [⟨plan, now, none⟩], .error error) := by
    intro error hsettle
    simp only [execute, hpreflight, hnew, hsettle]
  refine ⟨fun hhttp htrusted => ?_, fun htrusted => ?_, fun outcome houtcome => ?_⟩
  · obtain ⟨outcome, hsettle⟩ := settle_ok hpreflight htrusted hhttp
    exact ⟨outcome, hok hsettle⟩
  · obtain ⟨reason, hsettle⟩ := settle_rejected hpreflight htrusted
    exact ⟨reason, herror hsettle⟩
  · cases hsettle : service.settle candidate plan now with
    | error error =>
      rw [herror hsettle] at houtcome
      cases houtcome
    | ok settled =>
      rw [hok hsettle] at houtcome
      cases houtcome
      exact ⟨hok hsettle, settle_reports hsettle⟩

end

section

attribute [local instance] hostUrls textPolicyDigests

/-- Digests that are short enough to compute with. -/
@[reducible] def shortRunDigests : RunDigests where
  candidate := ⟨Candidate.targetVersion⟩
  plan := ⟨ToolPlan.idempotencyKey⟩
  profile := ⟨SandboxProfile.imageDigest⟩
  invocation := ⟨ToolInvocation.toolId⟩

attribute [local instance] shortRunDigests

def runCandidate : Candidate where
  candidateId := "c"
  targetId := "t"
  targetVersion := "1"
  sourceGraphId := "g"
  scopeId := "s"
  scopeVersion := 1
  title := "t"
  cwe := "CWE-89"
  entryPoint := ⟨"f", 1, none⟩
  sink := ⟨"f", 1, none⟩
  codePath := []
  preconditions := []
  securityInvariant := "i"
  hypothesis := "h"
  signalIds := []
  cheapestDisproof := "d"
  duplicateFingerprint := "f"
  confidence := 1
  state := .proposed

def runTask : TaskEnvelope where
  taskId := "k"
  engagementId := "g"
  targetId := "t"
  targetVersion := "1"
  scopeId := "s"
  workerRole := .validator
  scopeVersion := 1
  policyDigest := "s1"
  sandboxProfileDigest := "i"
  toolRegistryDigest := "http.request"
  inputRefs := ["candidate:1"]
  allowedTools := ["http.request"]
  toolCalls := 1
  deadline := 90

/-- A plan with one call of the HTTP tool. -/
def runPlan : ToolPlan where
  candidateId := "c"
  candidateDigest := "1"
  targetId := "t"
  targetVersion := "1"
  scopeId := "s"
  scopeVersion := 1
  selectedBy := "o"
  selectedAt := 1
  selectionReason := "r"
  runnerRequest :=
    { runId := "r"
      task := runTask
      profile := ⟨.validation, "i", none, .none, [], []⟩
      invocation := ⟨"probe", [], .source⟩
      environment := []
      idempotencyKey := "y" }
  brokerCalls := [⟨"b", runTask, ⟨.validation, "i", none, .targetOnly, [], []⟩, "http.request",
    some sampleHttpPlan, none, "y", by decide⟩]
  httpAssertion := none
  idempotencyKey := "p"
  brokerCalls_length := by decide
  asserted := by simp

/-- A service whose runner answers for the given run, and whose judge reproduces everything. -/
def runService (runId : UUID) : RunService where
  scope := sampleScope
  validateCall _ := true
  runner _ _ := ⟨runId, "k", .completed, "i", "probe", 1, ⟨1, 1, 1⟩, ["e"], [], by simp⟩
  broker _ _ now := ⟨"b", "k", "http.request", .completed, 1,
    some ⟨200, "u", "1.1.1.1", 4, "d", [], ["e"], status_bounds, address_ne⟩, none, now, by decide,
    by decide⟩
  contains _ := true
  judge _ _ _ refs := if h : refs = [] then ⟨.inconclusive, "none", [], by decide⟩
    else ⟨.reproduced, "match", refs, fun _ => h⟩
  runId := "n"
  bundleId := "m"

/-- A result of another run is rejected after the plan is claimed, which stays started. -/
theorem foreign_result_rejected :
    ¬∀ (service : RunService) (rows : List ExecutionRow) (candidate : Candidate) (plan : ToolPlan)
      (now : Time), service.preflight candidate plan now = .ok () →
      (claim rows plan now).2 = .ok none →
      ∃ outcome, ⟨plan, now, some outcome⟩ ∈ (service.execute rows candidate plan now).1 := by
  intro hall
  obtain ⟨outcome, hrow⟩ := hall (runService "other") [] runCandidate runPlan 2
    (by decide +kernel) rfl
  have hstarted : ((runService "other").execute [] runCandidate runPlan 2).1 =
      [⟨runPlan, 2, none⟩] := by decide +kernel
  rw [hstarted] at hrow
  simp at hrow

theorem runPlan_settles :
    ∃ outcome, (runService "r").execute [] runCandidate runPlan 2 =
      ([⟨runPlan, 2, some outcome⟩], .ok outcome) :=
  (execute_settles (runService "r") [] runCandidate runPlan 2 (by decide +kernel) rfl).1
    (by
      intro pair hpair
      obtain rfl := List.mem_singleton.1 hpair
      exact fun _ => rfl)
    ⟨by decide +kernel, by decide +kernel, by decide +kernel, by decide +kernel⟩

end

end ValidationRuns

end VulnLoom

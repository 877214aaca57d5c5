import VulnLoom.AgentContinuationRun
import VulnLoom.AgentReassembly
import VulnLoom.TextCodec

/-!
# The bounds of agent runs

`agent_run_bounds` : a run that is admitted and not interrupted ends with one outcome, which every
later execution of its plan returns. An outcome is made after at most as many steps as the plan
allows; a decision keeps to the token budget and to the outputs that were asked for; a tool
proposal names an allowed tool within a budget for one; a continuation proposes none. An outcome
that timed out may have used more than the budget (`late_reply_over_budget`) : the wall time is
looked at before the tokens.
-/

namespace VulnLoom.AgentRuntime

open OfflineAgentRuntime

section

variable [PythonUnicode] [PythonAlnum] [AgentDigests] [PythonDatetime] [EvidenceDigest]
  [AgentContextJson] [AgentContinuationDigests]

/-- The execution is admitted, and its plan is new to the store. -/
def AgentExecution.Starts (execution : AgentExecution) (rows : List AgentRunRow) : Prop :=
  (∃ admitted, execution.runtime.admitPlan execution.plan execution.now = .ok admitted) ∧
    ∀ other ∈ rows,
      AgentRunStore.clash (AgentRunStore.row execution.plan execution.now) other = false

end

/-! ## A reply that is late and too long -/

section

open TextCodec

instance : TextCodec WorkerRole :=
  TextCodec.record
    (fun
      | .scopeInterpreter => 0
      | .sourceMapper => 1
      | .hypothesis => 2
      | .analyzer => 3
      | .validator => 4
      | .critic => 5
      | .reporter => 6
      | .redTeamOperator => 7)
    (fun n => [.scopeInterpreter, .sourceMapper, .hypothesis, .analyzer, .validator, .critic,
      .reporter, .redTeamOperator][n]?) fun role => by
      cases role <;> rfl

instance : TextCodec TaskEnvelope :=
  TextCodec.record
    (fun t => (t.taskId, t.engagementId, t.targetId, t.targetVersion, t.scopeId, t.workerRole,
      t.scopeVersion, t.policyDigest, t.sandboxProfileDigest, t.toolRegistryDigest, t.inputRefs,
      t.allowedTools, t.toolCalls, Binary.mk t.deadline))
    (fun (taskId, engagementId, targetId, targetVersion, scopeId, workerRole, scopeVersion,
      policyDigest, sandboxProfileDigest, toolRegistryDigest, inputRefs, allowedTools, toolCalls,
      deadline) => some ⟨taskId, engagementId, targetId, targetVersion, scopeId, workerRole,
        scopeVersion, policyDigest, sandboxProfileDigest, toolRegistryDigest, inputRefs,
        allowedTools, toolCalls, deadline.number⟩) fun _ => rfl

instance : TextCodec AgentTask :=
  TextCodec.record
    (fun t => (t.toTaskEnvelope, t.wallSeconds, t.modelTokens, t.idempotencyKey))
    (fun (envelope, wallSeconds, modelTokens, idempotencyKey) =>
      if h : 0 < wallSeconds ∧ wallSeconds ≤ 86400 then
        some ⟨envelope, wallSeconds, modelTokens, idempotencyKey, h⟩
      else none)
    fun t => dif_pos t.wallSeconds_bounds

instance : TextCodec AgentRunLimits :=
  TextCodec.record
    (fun l => (l.maxSteps, l.maxOutputTokensPerStep, l.timeoutSeconds))
    (fun (maxSteps, maxOutputTokensPerStep, timeoutSeconds) =>
      (AgentRunLimits.create maxSteps maxOutputTokensPerStep timeoutSeconds).toOption)
    fun l => by
      have hcreate : AgentRunLimits.create l.maxSteps l.maxOutputTokensPerStep l.timeoutSeconds =
          .ok l :=
        dif_pos ⟨l.maxSteps_bounds, l.maxOutputTokensPerStep_bounds, l.timeoutSeconds_bounds⟩
      exact congrArg Except.toOption hcreate

instance : TextCodec AgentRunPlan :=
  TextCodec.record
    (fun p => (p.task, p.modelRegistrationId, p.modelRegistrationDigest, p.contextSnapshotId,
      p.authorizedCallSetId, p.authorizedCallCommitments, p.limits, Binary.mk p.createdAt,
      Binary.mk p.deadline, p.idempotencyKey))
    (fun (task, modelRegistrationId, modelRegistrationDigest, contextSnapshotId,
      authorizedCallSetId, authorizedCallCommitments, limits, createdAt, deadline,
      idempotencyKey) =>
      if h : createdAt.number < deadline.number ∧
          AuthorizedCallsOk task authorizedCallSetId authorizedCallCommitments then
        some ⟨task, modelRegistrationId, modelRegistrationDigest, contextSnapshotId,
          authorizedCallSetId, authorizedCallCommitments, limits, createdAt.number,
          deadline.number, idempotencyKey, h.1, h.2⟩
      else none)
    fun p => dif_pos ⟨p.window, p.authorized⟩

attribute [local instance] textPolicyDigests hostUrls textBrokerDigests plainUnicode asciiAlnum

/-- Digests where no two plans share one. -/
@[reducible] def planDigests : AgentDigests :=
  { textAgentDigests with runPlan := ⟨shorten sampleRootPlan⟩ }

@[reducible] def planJson : AgentContextJson :=
  let _ := planDigests
  ⟨fun snapshot => totalBytes snapshot.fragments⟩

attribute [local instance] planDigests epochDatetime singleEvidence planJson

@[reducible] def textContinuationDigests : AgentContinuationDigests where
  plan := ⟨fun plan => plan.idempotencyKey⟩

attribute [local instance] textContinuationDigests

def sampleInterpreter : PythonJson.Interpreter where
  nesting := 1000
  maxStrDigits := 4300
  floatRepr _ := []

/-- A runtime without contexts whose adapter always gives one answer. -/
def answeringRuntime (answer : AdapterAnswer) : OfflineAgentRuntime where
  registration := sampleRegistration
  adapterRegistration := sampleRegistration
  adapter _ := answer
  contextStore := none
  messageRenderer := none

def sampleExecution (answer : AdapterAnswer) : AgentExecution where
  runtime := answeringRuntime answer
  py := sampleInterpreter
  plan := sampleRootPlan
  now := 1

end

end VulnLoom.AgentRuntime

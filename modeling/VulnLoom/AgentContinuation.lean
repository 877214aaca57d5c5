import VulnLoom.AgentStores

/-!
# Continuations

`AgentContinuationService.prepare` feeds the observation of a completed handoff to one more run
of the agent, and `_preflight` checks the plan again before it is executed. The plan carries what
its validator checks, so that the boundary validation of a preflight returns it.
-/

set_option linter.unusedSectionVars false

namespace VulnLoom.AgentRuntime

/-! ## Plans -/

structure AgentContinuationBudgetLedger where
  originalModelTokens : ℕ
  consumedModelTokens : ℕ
  remainingModelTokens : ℕ
  consumedAgentSteps : ℕ
  consumedToolCalls : ℕ
  remainingWallSeconds : ℕ
  remaining_pos : 0 < remainingModelTokens
  steps_bounds : 1 ≤ consumedAgentSteps ∧ consumedAgentSteps ≤ 8
  toolCalls_pos : 1 ≤ consumedToolCalls
  wall_bounds : 0 < remainingWallSeconds ∧ remainingWallSeconds ≤ 86400
  exact_remainder : consumedModelTokens + remainingModelTokens = originalModelTokens

def AgentContinuationBudgetLedger.create (originalModelTokens consumedModelTokens
    remainingModelTokens consumedAgentSteps consumedToolCalls remainingWallSeconds : ℕ) :
    Except AgentError AgentContinuationBudgetLedger :=
  if h : 0 < remainingModelTokens ∧ (1 ≤ consumedAgentSteps ∧ consumedAgentSteps ≤ 8) ∧
      1 ≤ consumedToolCalls ∧ (0 < remainingWallSeconds ∧ remainingWallSeconds ≤ 86400) ∧
      consumedModelTokens + remainingModelTokens = originalModelTokens then
    .ok ⟨originalModelTokens, consumedModelTokens, remainingModelTokens, consumedAgentSteps,
      consumedToolCalls, remainingWallSeconds, h.1, h.2.1, h.2.2.1, h.2.2.2.1, h.2.2.2.2⟩
  else .error .validationError

/-- A task with the authority of another : the same target, scope and policies. -/
def AgentTask.Inherits (task root : AgentTask) : Prop :=
  task.engagementId = root.engagementId ∧ task.targetId = root.targetId ∧
    task.targetVersion = root.targetVersion ∧ task.scopeId = root.scopeId ∧
    task.scopeVersion = root.scopeVersion ∧ task.policyDigest = root.policyDigest ∧
    task.sandboxProfileDigest = root.sandboxProfileDigest ∧
    task.toolRegistryDigest = root.toolRegistryDigest ∧ task.workerRole = .validator ∧
    task.deadline = root.deadline ∧ task.taskId ≠ root.taskId

instance (task root : AgentTask) : Decidable (task.Inherits root) :=
  inferInstanceAs (Decidable (_ ∧ _))

/-- The observation was made for the task. -/
def AgentToolObservation.IsFor (observation : AgentToolObservation) (task : AgentTask) : Prop :=
  observation.taskId = task.taskId ∧ observation.targetId = task.targetId ∧
    observation.targetVersion = task.targetVersion ∧ observation.scopeId = task.scopeId ∧
    observation.scopeVersion = task.scopeVersion

instance (observation : AgentToolObservation) (task : AgentTask) :
    Decidable (observation.IsFor task) :=
  inferInstanceAs (Decidable (_ ∧ _))

section

variable [PythonUnicode] [PythonAlnum] [AgentDigests]

/-- The fields of a continuation plan, before its validator. -/
structure AgentContinuationFields where
  rootPlan : AgentRunPlan
  rootOutcome : AgentRunOutcome
  handoffOutcome : AgentToolHandoffOutcome
  observation : AgentToolObservation
  contextSnapshot : AgentContextSnapshot
  continuationPlan : AgentRunPlan
  budget : AgentContinuationBudgetLedger
  createdAt : Time
  deadline : Time
  idempotencyKey : String

namespace AgentContinuationFields

variable (fields : AgentContinuationFields)

/-- The plan follows one completed handoff of a validator's tool proposal. -/
def Feeds : Prop :=
  fields.rootPlan.task.workerRole = .validator ∧
    fields.rootOutcome.planId = fields.rootPlan.planId ∧
    fields.rootOutcome.taskId = fields.rootPlan.task.taskId ∧
    fields.rootOutcome.status = .toolProposed ∧
    fields.handoffOutcome.status = .completed ∧
    fields.handoffOutcome.observation = some fields.observation ∧
    fields.handoffOutcome.agentPlanId = fields.rootPlan.planId ∧
    fields.handoffOutcome.agentOutcomeDigest = canonicalDigest fields.rootOutcome ∧
    fields.observation.IsFor fields.rootPlan.task

/-- The budget is what is left of the task's. -/
def Budgeted : Prop :=
  fields.budget.originalModelTokens = fields.rootPlan.task.modelTokens ∧
    fields.budget.consumedModelTokens = fields.rootOutcome.tokens ∧
    fields.budget.consumedAgentSteps = fields.rootOutcome.steps ∧
    fields.budget.consumedToolCalls = fields.handoffOutcome.brokerResult.toolCallsUsed ∧
    fields.budget.consumedToolCalls ≤ fields.rootPlan.task.toolCalls ∧
    fields.continuationPlan.task.modelTokens = fields.budget.remainingModelTokens ∧
    fields.continuationPlan.task.wallSeconds = fields.budget.remainingWallSeconds ∧
    fields.budget.remainingWallSeconds ≤ fields.rootPlan.task.wallSeconds ∧
    fields.budget.remainingWallSeconds ≤
      (min fields.rootPlan.deadline fields.rootPlan.task.deadline - fields.createdAt) / 1000000

/-- The run of the plan is bound to the root plan. -/
def RunBound : Prop :=
  fields.continuationPlan.modelRegistrationId = fields.rootPlan.modelRegistrationId ∧
    fields.continuationPlan.modelRegistrationDigest = fields.rootPlan.modelRegistrationDigest ∧
    fields.continuationPlan.limits.maxSteps = 1 ∧
    fields.continuationPlan.limits.timeoutSeconds ≤ fields.budget.remainingWallSeconds ∧
    fields.continuationPlan.deadline = fields.rootPlan.deadline ∧
    fields.continuationPlan.createdAt = fields.createdAt ∧
    fields.deadline = fields.continuationPlan.deadline ∧ fields.createdAt < fields.deadline

/-- `sealed_continuation`. -/
def Sealed : Prop :=
  fields.Feeds ∧ fields.continuationPlan.task.Inherits fields.rootPlan.task ∧
    (fields.continuationPlan.task.inputRefs = agentContinuationInputRefs fields.observation ∧
      fields.continuationPlan.task.allowedTools = [] ∧
      fields.continuationPlan.task.toolCalls = 0) ∧
    fields.Budgeted ∧ fields.RunBound ∧
    fields.contextSnapshot.IsFor fields.continuationPlan.task ∧
    fields.continuationPlan.contextSnapshotId = some fields.contextSnapshot.snapshotId ∧
    '\x00' ∉ fields.idempotencyKey.toList

instance : Decidable fields.Feeds :=
  inferInstanceAs (Decidable (_ ∧ _))

instance : Decidable fields.Budgeted :=
  inferInstanceAs (Decidable (_ ∧ _))

instance : Decidable fields.RunBound :=
  inferInstanceAs (Decidable (_ ∧ _))

instance : Decidable fields.Sealed :=
  inferInstanceAs (Decidable (_ ∧ _))

end AgentContinuationFields

structure AgentContinuationPlan extends AgentContinuationFields where
  isSealed : toAgentContinuationFields.Sealed

def AgentContinuationPlan.create (fields : AgentContinuationFields) :
    Except AgentError AgentContinuationPlan :=
  if h : fields.Sealed then .ok ⟨fields, h⟩ else .error .validationError

/-! ## The service -/

/-- `_authoritative_inputs` of a service, over its stores of runs and handoffs. -/
def authoritativeInputs (rootAgentStore : List AgentRunRow) (handoffStore : List HandoffRow)
    (rootPlan : AgentRunPlan) (handoffId : Digest) (unavailable mismatch : AgentError) :
    Except AgentError (AgentRunOutcome × AgentToolHandoffOutcome × AgentToolObservation) := do
  let rootOutcome ← (AgentRunStore.requireCompleted rootAgentStore rootPlan).mapError
    fun _ => unavailable
  let handoffOutcome ← (AgentToolHandoffStore.requireCompleted handoffStore handoffId).mapError
    fun _ => unavailable
  raiseIf (rootOutcome.status ≠ .toolProposed ∨ handoffOutcome.status ≠ .completed) mismatch
  let observation ← orRaise handoffOutcome.observation mismatch
  raiseIf (handoffOutcome.agentPlanId ≠ rootPlan.planId ∨
    handoffOutcome.agentOutcomeDigest ≠ canonicalDigest rootOutcome) mismatch
  return (rootOutcome, handoffOutcome, observation)

structure AgentContinuationService where
  rootAgentStore : List AgentRunRow
  handoffStore : List HandoffRow
  /-- `continuation_runtime.registration` -/
  registration : AgentModelRegistration
  evidenceStore : EvidenceStore
  contextAssembler : AgentContextAssembler

namespace AgentContinuationService

variable [PythonDatetime] [EvidenceDigest] [AgentContextJson] (service : AgentContinuationService)

/-- `_authoritative_inputs`. -/
def inputs (rootPlan : AgentRunPlan) (handoffId : Digest) :
    Except AgentError (AgentRunOutcome × AgentToolHandoffOutcome × AgentToolObservation) :=
  authoritativeInputs service.rootAgentStore service.handoffStore rootPlan handoffId
    (.rejected "Agent continuation requires authoritative completed inputs")
    (.rejected "Agent continuation inputs are not a completed tool feedback chain")

/-- The task of a continuation, with what is left of the budget of the root task. -/
def task (root : AgentTask) (observation : AgentToolObservation) (continuationTaskId : UUID)
    (idempotencyKey : String) (modelTokens wallSeconds : ℕ)
    (h : 0 < wallSeconds ∧ wallSeconds ≤ 86400) : AgentTask where
  taskId := continuationTaskId
  engagementId := root.engagementId
  targetId := root.targetId
  targetVersion := root.targetVersion
  scopeId := root.scopeId
  workerRole := .validator
  scopeVersion := root.scopeVersion
  policyDigest := root.policyDigest
  sandboxProfileDigest := root.sandboxProfileDigest
  toolRegistryDigest := root.toolRegistryDigest
  inputRefs := agentContinuationInputRefs observation
  allowedTools := []
  toolCalls := 0
  deadline := root.deadline
  wallSeconds := wallSeconds
  modelTokens := modelTokens
  idempotencyKey := idempotencyKey ++ ":task"
  wallSeconds_bounds := h

/-- The seconds that a task has left. -/
def remainingWall (rootPlan : AgentRunPlan) (now : Time) : ℕ :=
  min rootPlan.task.wallSeconds
    ((min rootPlan.deadline rootPlan.task.deadline - now) / 1000000)

theorem remainingWall_le (rootPlan : AgentRunPlan) (now : Time) :
    remainingWall rootPlan now ≤ 86400 :=
  (min_le_left _ _).trans rootPlan.task.wallSeconds_bounds.2

/-- `AgentContinuationService.prepare` : the plan, and the store with its snapshot. -/
def prepare (contexts : AgentContextStore) (clock : ℕ → ℚ) (rootPlan : AgentRunPlan)
    (handoffId : Digest) (now : Time) (idempotencyKey continuationRunKey : String)
    (limits : AgentContextLimits) (continuationTaskId : UUID) :
    Except AgentError (AgentContinuationPlan × AgentContextStore) := do
  let (rootOutcome, handoffOutcome, observation) ← service.inputs rootPlan handoffId
  if hwall : 0 < remainingWall rootPlan now then
    raiseIf (min rootPlan.deadline rootPlan.task.deadline ≤ now) (.timedOut
      "Agent continuation deadline expired")
    let remainingTokens := rootPlan.task.modelTokens - rootOutcome.tokens
    raiseIf (rootPlan.task.modelTokens ≤ rootOutcome.tokens) (.rejected
      "Agent continuation model budget is exhausted")
    raiseIf (handoffOutcome.brokerResult.toolCallsUsed < 1) (.rejected
      "Agent continuation requires a consumed Broker tool call")
    let continuationTask := task rootPlan.task observation continuationTaskId idempotencyKey
      remainingTokens (remainingWall rootPlan now) ⟨hwall, remainingWall_le rootPlan now⟩
    let sources ← agentObservationContextSources service.evidenceStore observation
    let (snapshot, contexts) ← (do
      let snapshot ← service.contextAssembler.assemble limits clock continuationTask sources now
        (min rootPlan.deadline rootPlan.task.deadline)
      let contexts ← contexts.publish snapshot
      return (snapshot, contexts)).mapError fun _ =>
        .rejected "Agent continuation context materialization failed"
    let runLimits ← AgentRunLimits.create 1
      (min rootPlan.limits.maxOutputTokensPerStep remainingTokens)
      (min rootPlan.limits.timeoutSeconds (remainingWall rootPlan now))
    let continuationPlan ← AgentRunPlan.create continuationTask service.registration runLimits now
      rootPlan.deadline continuationRunKey (some snapshot) none []
    let budget ← AgentContinuationBudgetLedger.create rootPlan.task.modelTokens
      rootOutcome.tokens remainingTokens rootOutcome.steps
      handoffOutcome.brokerResult.toolCallsUsed (remainingWall rootPlan now)
    let plan ← AgentContinuationPlan.create {
      rootPlan := rootPlan
      rootOutcome := rootOutcome
      handoffOutcome := handoffOutcome
      observation := observation
      contextSnapshot := snapshot
      continuationPlan := continuationPlan
      budget := budget
      createdAt := now
      deadline := rootPlan.deadline
      idempotencyKey := idempotencyKey }
    return (plan, contexts)
  else
    throw (.timedOut "Agent continuation deadline expired")

/-- The assembly of a preflight. -/
def reassemble (clock : ℕ → ℚ) (plan : AgentContinuationPlan) :
    Except AgentError AgentContextSnapshot := do
  let sources ← agentObservationContextSources service.evidenceStore plan.observation
  service.contextAssembler.assemble plan.contextSnapshot.limits clock plan.continuationPlan.task
    sources plan.contextSnapshot.assembledAt plan.continuationPlan.task.deadline

/-- `AgentContinuationService._preflight`. -/
def preflight (contexts : AgentContextStore) (clock : ℕ → ℚ) (plan : AgentContinuationPlan)
    (now : Time) : Except AgentError AgentContinuationPlan := do
  raiseIf (now < plan.createdAt ∨ min (min plan.deadline plan.rootPlan.task.deadline)
    plan.continuationPlan.task.deadline ≤ now) (.timedOut
    "Agent continuation is outside its wall budget")
  let (rootOutcome, handoffOutcome, _) ←
    service.inputs plan.rootPlan plan.handoffOutcome.handoffId
  raiseIf (rootOutcome ≠ plan.rootOutcome ∨ handoffOutcome ≠ plan.handoffOutcome) (.rejected
    "Agent continuation authoritative checkpoint binding mismatch")
  raiseIf (service.registration.registrationId ≠ plan.continuationPlan.modelRegistrationId ∨
    canonicalDigest service.registration ≠ plan.continuationPlan.modelRegistrationDigest)
    (.rejected "Agent continuation model registration binding mismatch")
  let (stored, expected) ← (do
    let stored ← contexts.read plan.contextSnapshot.snapshotId
    let expected ← service.reassemble clock plan
    return (stored, expected)).mapError fun _ =>
      .rejected "Agent continuation context revalidation failed"
  raiseIf (stored ≠ plan.contextSnapshot ∨ expected ≠ plan.contextSnapshot) (.rejected
    "Agent continuation context snapshot drifted")
  return plan

/-! ## A plan that was prepared -/

variable {service : AgentContinuationService} {contexts contexts' : AgentContextStore}
  {clock : ℕ → ℚ} {plan : AgentContinuationPlan}

/-- What a preparation read, assembled and published. -/
structure Prepared (service : AgentContinuationService) (contexts contexts' : AgentContextStore)
    (plan : AgentContinuationPlan) (sources : List AgentContextSource) : Prop where
  inputs : service.inputs plan.rootPlan plan.handoffOutcome.handoffId =
    .ok (plan.rootOutcome, plan.handoffOutcome, plan.observation)
  registrationId : plan.continuationPlan.modelRegistrationId = service.registration.registrationId
  registrationDigest :
    plan.continuationPlan.modelRegistrationDigest = canonicalDigest service.registration
  sources_eq : agentObservationContextSources service.evidenceStore plan.observation = .ok sources
  assembled : ∃ limits clock deadline, service.contextAssembler.assemble limits clock
    plan.continuationPlan.task sources plan.createdAt deadline = .ok plan.contextSnapshot
  published : contexts.publish plan.contextSnapshot = .ok contexts'

end AgentContinuationService

variable {registration : AgentModelRegistration} {limits : AgentRunLimits}
  {callSetId : Option Digest} {commitments : List Digest}

/-- The task and the registration of a plan are those it was created with. -/
theorem AgentRunPlan.create_ok {task : AgentTask} {createdAt deadline : Time}
    {idempotencyKey : String} {contextSnapshot : Option AgentContextSnapshot}
    {plan : AgentRunPlan}
    (h : create task registration limits createdAt deadline idempotencyKey contextSnapshot
      callSetId commitments = .ok plan) :
    plan.task = task ∧ plan.modelRegistrationId = registration.registrationId ∧
      plan.modelRegistrationDigest = canonicalDigest registration := by
  simp only [create, bind_eq_ok] at h
  obtain ⟨-, -, -, -, -, -, -, -, h⟩ := h
  split_ifs at h with hok
  cases pure_eq_ok.1 h
  exact ⟨rfl, rfl, rfl⟩

theorem AgentContinuationPlan.create_ok {fields : AgentContinuationFields}
    {plan : AgentContinuationPlan} (h : create fields = .ok plan) :
    plan.toAgentContinuationFields = fields := by
  unfold create at h
  split_ifs at h
  cases h
  rfl

theorem authoritativeInputs_handoffId {rootAgentStore : List AgentRunRow}
    {handoffStore : List HandoffRow} {rootPlan : AgentRunPlan} {handoffId : Digest}
    {unavailable mismatch : AgentError} {rootOutcome : AgentRunOutcome}
    {handoffOutcome : AgentToolHandoffOutcome} {observation : AgentToolObservation}
    (h : authoritativeInputs rootAgentStore handoffStore rootPlan handoffId unavailable mismatch =
      .ok (rootOutcome, handoffOutcome, observation)) : handoffOutcome.handoffId = handoffId := by
  simp only [authoritativeInputs, bind_eq_ok, mapError_eq_ok, pure_eq_ok, Prod.mk.injEq] at h
  obtain ⟨_, -, _, hhandoff, -, -, _, -, -, -, rfl, rfl, rfl⟩ := h
  exact AgentToolHandoffStore.requireCompleted_handoffId hhandoff

namespace AgentContinuationService

variable [PythonDatetime] [EvidenceDigest] [AgentContextJson]
  {service : AgentContinuationService} {contexts contexts' : AgentContextStore}
  {clock : ℕ → ℚ} {plan : AgentContinuationPlan}

variable {idempotencyKey continuationRunKey : String} {rootPlan : AgentRunPlan}
  {limits : AgentContextLimits} {continuationTaskId : UUID}

theorem prepare_ok {handoffId : Digest} {now : Time}
    (h : service.prepare contexts clock rootPlan handoffId now idempotencyKey continuationRunKey
      limits continuationTaskId = .ok (plan, contexts')) :
    ∃ sources, Prepared service contexts contexts' plan sources := by
  simp only [prepare, bind_eq_ok, Prod.exists] at h
  obtain ⟨rootOutcome, handoffOutcome, observation, hinputs, h⟩ := h
  split_ifs at h with hwall
  simp only [bind_eq_ok, mapError_eq_ok, pure_eq_ok, Prod.exists, Prod.mk.injEq] at h
  obtain ⟨-, -, -, -, -, -, sources, hsources, _, _, ⟨snapshot, hassemble, _, hpublish, rfl,
    rfl⟩, runLimits, -, continuationPlan, hplan, budget, -, _, hcreate, rfl, rfl⟩ := h
  obtain ⟨htask, hid, hdigest⟩ := AgentRunPlan.create_ok hplan
  refine ⟨sources, ?_⟩
  constructor
  all_goals rw [AgentContinuationPlan.create_ok hcreate]
  · rwa [authoritativeInputs_handoffId hinputs]
  · exact hid
  · exact hdigest
  · exact hsources
  · exact ⟨_, _, _, htask ▸ hassemble⟩
  · exact hpublish

end AgentContinuationService

end

end VulnLoom.AgentRuntime

import VulnLoom.FlowSystem
import VulnLoom.Policy

/-!
# The execution of replanned actions

`RedTeamService.execute_recon` up to the adapter, and `RedTeamReplanningService.execute`
around it. An action that has completed is replayed : it needs no adapter, and the
checkpoint returned with its observation is the one that the execution read first.
-/

namespace VulnLoom

variable [RedTeamDigests] [PolicyDigests] [PythonUrl]

/-! ## Checks of the flow service -/

def reconPhases : List RedTeamPhase :=
  [.recon]

def attackPhases : List RedTeamPhase :=
  [.recon, .initialAccess, .postExploitation]

/-- `expected_prohibited`. -/
def expectedProhibited (phases : List RedTeamPhase) : List ImpactClass :=
  if phases = reconPhases then
    [.stateChange, .realCredential, .externalCallback, .lateralMovement, .persistence]
  else [.realCredential, .externalCallback, .lateralMovement, .persistence]

/-- What `_scope_binding` asks of a plan. -/
def RedTeamFlowPlan.BoundTo (plan : RedTeamFlowPlan) (scope : Scope) : Prop :=
  plan.rules.scopeId = scope.scopeId ∧ plan.rules.scopeVersion = scope.version ∧
    plan.deadline ≤ scope.validUntil ∧ plan.rules.stopConditions.stopAt ≤ scope.validUntil ∧
    (plan.rules.phases = reconPhases ∨ plan.rules.phases = attackPhases) ∧
    plan.rules.allowedImpacts = [.readOnly] ∧
    plan.rules.approvalRequiredImpacts =
      (if plan.rules.phases = reconPhases then [] else [.stateChange]) ∧
    plan.rules.prohibitedImpacts ⊆ expectedProhibited plan.rules.phases ∧
    expectedProhibited plan.rules.phases ⊆ plan.rules.prohibitedImpacts ∧
    plan.rules.allowedTestClasses ⊆ scope.allowedTestClasses

instance RedTeamFlowPlan.decidableBoundTo (plan : RedTeamFlowPlan) (scope : Scope) :
    Decidable (plan.BoundTo scope) := by
  unfold RedTeamFlowPlan.BoundTo
  infer_instance

/-- `_scope_binding`. -/
def scopeBinding (plan : RedTeamFlowPlan) (scope : Scope) : Except RedTeamError Unit :=
  raiseIf (¬plan.BoundTo scope) (.rejected "Red Team plan no longer matches Scope")

/-- The request of a flow for its own target. -/
def RedTeamFlowPlan.policyRequest (plan : RedTeamFlowPlan) (scope : Scope) (action url : String)
    (testClass : Option String) (now : Time) : ActionRequest where
  engagementId := scope.engagementId
  targetId := some plan.target.targetId
  action := action
  requestedAt := now
  repositoryUrl := none
  repositoryCommit := none
  url := some url
  testClass := testClass
  mutatesState := false
  usesRealCredentials := false
  externalCallback := false
  submitsReport := false
  runsUntrustedBuild := false
  authorizationContextDigest := none

/-- `PolicyEngine(scope).decide(…).effect is not ALLOW`. -/
def requireAllowed (scope : Scope) (request : ActionRequest) (approvals : List ApprovalRequest)
    (e : RedTeamError) : Except RedTeamError Unit := do
  let decision ← orRaise (scope.decide request approvals) .valueError
  raiseIf (decision.effect ≠ .allow) e

/-- `_preflight_plan`. -/
def preflightPlan (plan : RedTeamFlowPlan) (scope : Scope) (now : Time) :
    Except RedTeamError Unit := do
  raiseIf (scope.state ≠ .approved ∨ ¬(scope.validFrom ≤ now ∧ now < scope.validUntil))
    (.rejected "Red Team requires a currently approved Scope")
  scopeBinding plan scope
  raiseIf (plan.deadline ≤ now) (.rejected "Red Team plan no longer matches Scope")
  requireAllowed scope
    (plan.policyRequest scope "red_team.flow.start" plan.target.url
      plan.rules.allowedTestClasses.head? now)
    [] (.rejected "Red Team plan target is outside approved Scope")

/-- `_preflight_running`. -/
def preflightRunning (store : RedTeamStore) (plan : RedTeamFlowPlan)
    (checkpoint : RedTeamCheckpoint) (scope : Scope) (now : Time) : Except RedTeamError Unit := do
  preflightPlan plan scope now
  let authoritative ← store.latest plan.planId
  raiseIf (authoritative ≠ checkpoint ∨ checkpoint.status ≠ .running)
    (.rejected "Red Team checkpoint is stale or not running")

/-! ## Recon up to the adapter -/

def RedTeamActionKind.value : RedTeamActionKind → String
  | .dnsLookup => "dns_lookup"
  | .tlsInspect => "tls_inspect"
  | .httpHead => "http_head"
  | .httpGet => "http_get"

/-- How an execution meets the adapter : not at all, or with the action of `flight`. -/
inductive ReconStart
  | replayed (checkpoint : RedTeamCheckpoint) (observation : RedTeamReconObservation)
  | dispatched (flight : InFlight)
  deriving DecidableEq

/-- What `_execute_bound_recon` asks of the action before it looks for a replay. -/
def RedTeamReconAction.FitsPlan (action : RedTeamReconAction) (plan : RedTeamFlowPlan)
    (expectedTargetUrl : String) : Prop :=
  action.targetUrl = expectedTargetUrl ∧ action.testClass ∈ plan.rules.allowedTestClasses ∧
    action.deadline ≤ plan.deadline

instance (action : RedTeamReconAction) (plan : RedTeamFlowPlan) (url : String) :
    Decidable (action.FitsPlan plan url) := by
  unfold RedTeamReconAction.FitsPlan
  infer_instance

/-- `_execute_bound_recon` up to the adapter, with the checkpoint that it read. -/
def startBoundRecon (store : RedTeamStore) (plan : RedTeamFlowPlan)
    (checkpoint : RedTeamCheckpoint) (command : RedTeamReconCommand) (scope : Scope)
    (expectedTargetUrl : String) (now : Time) :
    Except RedTeamError (RedTeamStore × ReconStart) := do
  let action := command.action
  scopeBinding plan scope
  raiseIf (¬action.FitsPlan plan expectedTargetUrl)
    (.rejected "Red Team Recon action binding is invalid")
  match ← store.completedAction command with
  | some replay => return (store, .replayed checkpoint replay)
  | none =>
    preflightRunning store plan checkpoint scope now
    raiseIf (action.expectedCheckpointId ≠ checkpoint.checkpointId ∨ action.deadline ≤ now)
      (.rejected "Red Team Recon action binding is invalid")
    requireAllowed scope
      (plan.policyRequest scope ("red_team.recon." ++ action.kind.value) action.targetUrl
        (some action.testClass) now)
      [] (.rejected "Red Team Recon was denied by Scope policy")
    let (store, replay) ← store.claimAction command
    match replay with
    | some replay =>
      let latest ← store.latest plan.planId
      return (store, .replayed latest replay)
    | none => return (store, .dispatched ⟨command, checkpoint, scope⟩)

/-- `execute_recon` up to the adapter; `read` is its read of the latest checkpoint. -/
def startRecon (store : RedTeamStore) (command : RedTeamReconCommand) (scope : Scope)
    (read : Except RedTeamError RedTeamCheckpoint) (now : Time) :
    Except RedTeamError (RedTeamStore × ReconStart) := do
  raiseIf (command.action.kind = .httpGet)
    (.rejected "HTTP GET requires an operator-sealed Endpoint plan")
  let plan ← store.plan command.action.planId
  let checkpoint ← read
  startBoundRecon store plan checkpoint command scope plan.target.url now

/-! ## The execution of an admission -/

/-- The arguments of `execute`. -/
structure ReplanRequest where
  admission : RedTeamReplanAdmission
  command : RedTeamReconCommand
  approval : ApprovalRequest
  scope : Scope
  now : Time

/-- The approval that a replanned action needs. -/
def ReplanRequest.HasApproval (request : ReplanRequest) (plan : RedTeamFlowPlan) : Prop :=
  request.approval.targetId = some plan.target.targetId ∧
    request.approval.isValidFor .executeRedTeamAction request.admission.requiredApprovalDigest
      request.now = true ∧
    request.approval.policyVersion = request.scope.version ∧
    request.approval.decidedBy ≠ none ∧ request.approval.decidedAt ≠ none

instance (request : ReplanRequest) (plan : RedTeamFlowPlan) :
    Decidable (request.HasApproval plan) := by
  unfold ReplanRequest.HasApproval
  infer_instance

/-- The policy request that was admitted. -/
def ReplanRequest.policyRequest (request : ReplanRequest) (plan : RedTeamFlowPlan) :
    ActionRequest :=
  plan.policyRequest request.scope ("red_team.replan." ++ request.command.action.kind.value)
    request.command.action.targetUrl (some request.command.action.testClass)
    request.admission.admittedAt

/-- The checks of `execute`. -/
def authorizeReplan (store : RedTeamStore) (request : ReplanRequest) :
    Except RedTeamError Unit := do
  let admission := request.admission
  let authoritative ← (store.replanAdmission admission.admissionId).mapError fun _ =>
    .replanRejected "Red Team replan admission is unavailable"
  raiseIf (authoritative ≠ admission ∨ request.command.action ≠ admission.command.action ∨
      request.command.attempt < admission.command.attempt ∨
      request.approval.engagementId ≠ request.scope.engagementId)
    (.replanRejected "Red Team replanned execution binding is invalid")
  let plan ← store.plan admission.flowPlanId
  raiseIf (¬request.HasApproval plan)
    (.replanRejected "Red Team replanned action lacks exact Approval")
  let drifted := .replanRejected "Red Team replanned policy binding drifted"
  raiseIf ((request.policyRequest plan).digest ≠ admission.policyRequestDigest) drifted
  requireAllowed request.scope (request.policyRequest plan) [request.approval] drifted
  let state ← store.replanAdmissionState admission.admissionId
  raiseIf (state ≠ .reserved ∧ state ≠ .consumed) drifted

/-- `except RedTeamRejected`. -/
def asReplanRejected : RedTeamError → RedTeamError
  | .rejected message => .replanRejected message
  | e => e

/-- `execute` up to the adapter; `read` is its read of the latest checkpoint. -/
def startReplan (store : RedTeamStore) (request : ReplanRequest)
    (read : Except RedTeamError RedTeamCheckpoint) :
    Except RedTeamError (RedTeamStore × ReconStart) := do
  authorizeReplan store request
  (startRecon store request.command request.scope read request.now).mapError asReplanRejected

/-- The receipt of an execution that returned. -/
def ReplanRequest.receiptValues (request : ReplanRequest) (checkpoint : RedTeamCheckpoint)
    (observation : RedTeamReconObservation) : RedTeamReplanExecutionReceiptValues where
  admissionId := request.admission.admissionId
  flowPlanId := request.admission.flowPlanId
  sourceCheckpointId := request.admission.sourceCheckpointId
  resultCheckpointId := checkpoint.checkpointId
  actionId := request.command.action.actionId
  observationId := observation.observationId
  approvalId := request.approval.approvalId
  approvalAction := request.approval.action
  approvalDigest := request.approval.actionDigest
  completedAt := request.now
  cleanupComplete := observation.cleanupComplete
  sensitiveDataRedacted := observation.sensitiveDataRedacted

/-- `execute` once `execute_recon` has returned. -/
def recordReceipt (store : RedTeamStore) (request : ReplanRequest)
    (checkpoint : RedTeamCheckpoint) (observation : RedTeamReconObservation) :
    Except RedTeamError RedTeamStore := do
  if observation.cleanupComplete = false ∨ observation.sensitiveDataRedacted = false then
    return store
  match store.replanExecutionReceiptForAdmission request.admission.admissionId with
  | some existing =>
    raiseIf (existing.flowPlanId ≠ request.admission.flowPlanId ∨
        existing.sourceCheckpointId ≠ request.admission.sourceCheckpointId ∨
        existing.resultCheckpointId ≠ checkpoint.checkpointId ∨
        existing.actionId ≠ request.command.action.actionId ∨
        existing.observationId ≠ observation.observationId)
      (.replanRejected "completed Red Team replan Execution Receipt drifted")
    return store
  | none =>
    let receipt ← RedTeamReplanExecutionReceipt.create
      (request.receiptValues checkpoint observation)
    (store.putReplanExecutionReceipt receipt).mapError fun _ =>
      .replanRejected "Red Team replan Execution Receipt was not persisted"

/-- `execute` with no other call in between, up to the adapter where it needs one. -/
def executeReplan (store : RedTeamStore) (request : ReplanRequest) :
    Except RedTeamError (RedTeamStore × ReconStart) := do
  let (store, start) ← startReplan store request (store.latest request.command.action.planId)
  match start with
  | .replayed checkpoint observation =>
    let store ← recordReceipt store request checkpoint observation
    return (store, start)
  | .dispatched _ => return (store, start)

end VulnLoom

import Mathlib.Data.Finset.Insert
import VulnLoom.EndpointReconStore
import VulnLoom.FlowSystem
import VulnLoom.Policy

/-!
# The endpoint recon service

`EndpointReconService` over the flow store and its own : an operator seals the seeds of a
running flow, a plan reserves a request for each of them, and the requests are executed as
actions of the flow, in their order. What the service checks of the adapters' answers is left to
the flow.
-/

set_option linter.unusedSectionVars false

namespace VulnLoom

variable [RedTeamDigests] [EndpointReconDigests] [PolicyDigests] [PythonUrl]

/-- `checkpoint` : the stored checkpoint with an identifier. -/
def RedTeamStore.checkpoint (store : RedTeamStore) (checkpointId : Digest) :
    Except RedTeamError RedTeamCheckpoint :=
  orRaise (store.checkpoints.find? fun checkpoint => checkpoint.checkpointId = checkpointId)
    (.storeRejected "Red Team checkpoint is unavailable")

theorem RedTeamStore.checkpoint_ok {store : RedTeamStore} {checkpointId : Digest}
    {checkpoint : RedTeamCheckpoint} (h : store.checkpoint checkpointId = .ok checkpoint) :
    checkpoint ∈ store.checkpoints ∧ checkpoint.checkpointId = checkpointId := by
  simp only [RedTeamStore.checkpoint, orRaise_eq_ok] at h
  exact ⟨List.mem_of_find?_eq_some h, by simpa using List.find?_some h⟩

/-! ## Seeds -/

/-- `canonical_absolute_path`. -/
def requireCanonicalPath (value : String) : Except EndpointReconError Unit := do
  let parsed ← orRaise (urlsplit value) .valueError
  raiseIf ((∃ c ∈ value.toList, 128 ≤ c.toNat) ∨ value.toList.head? ≠ some '/' ∨
      parsed.scheme ≠ "" ∨ parsed.netloc ≠ "" ∨ parsed.query ≠ "" ∨ parsed.fragment ≠ "" ∨
      (∃ c ∈ value.toList, c ∈ ['%', '\\'] ∨ c.toNat ≤ 32 ∨ c.toNat = 127) ∨
      "//".toList <:+: value.toList ∨
      ∃ segment ∈ value.toList.splitOn '/', segment = ['.'] ∨ segment = ['.', '.'])
    (.validationError "Endpoint seed must be a canonical query-free absolute path")

/-- `EndpointSeed.create`. -/
def EndpointSeed.create (path : String) : Except EndpointReconError EndpointSeed := do
  requireCanonicalPath path
  return ⟨path⟩

/-- `path.rstrip("/")`. -/
def rstripSlash (path : String) : String :=
  String.ofList (path.toList.reverse.dropWhile (· = '/')).reverse

/-- `method.lower()`. -/
def EndpointMethod.lowered : EndpointMethod → String
  | .head => "head"
  | .get => "get"

/-- `EndpointSeedSet.create`. -/
def EndpointSeedSet.create (flowPlanId sourceCheckpointId : Digest) (targetId scopeId : UUID)
    (scopeVersion : ℕ) (operatorRef : String) (seeds : List EndpointSeed)
    (sealedAt expiresAt : Time) (idempotencyKey : String) :
    Except EndpointReconError EndpointSeedSet :=
  if h : (1 ≤ seeds.length ∧ seeds.length ≤ 1000) ∧
      (seeds.Pairwise fun a b => a.path < b.path) ∧ sealedAt < expiresAt then
    .ok ⟨flowPlanId, sourceCheckpointId, targetId, scopeId, scopeVersion, operatorRef, seeds,
      sealedAt, expiresAt, idempotencyKey, h.1, h.2.1, h.2.2⟩
  else .error (.validationError "Endpoint Seed Set must be ordered, unique, and active")

/-! ## Checks -/

/-- `_running`. -/
def requireRunningFlow (red : RedTeamStore) (flow : RedTeamFlowPlan)
    (checkpoint : RedTeamCheckpoint) (scope : Scope) (now : Time) :
    Except EndpointReconError Unit := do
  raiseIf (scope.state ≠ .approved ∨ ¬(scope.validFrom ≤ now ∧ now < scope.validUntil))
    (.rejected "Endpoint Recon requires a current approved Scope")
  let changed := .rejected "Endpoint Recon requires the current running Flow"
  let stored ← (red.plan flow.planId).mapError .flow
  raiseIf (stored ≠ flow) changed
  let latest ← (red.latest flow.planId).mapError .flow
  let prohibited : Finset ImpactClass :=
    {.stateChange, .realCredential, .externalCallback, .lateralMovement, .persistence}
  raiseIf (latest ≠ checkpoint ∨ checkpoint.status ≠ .running ∨
      flow.rules.scopeId ≠ scope.scopeId ∨ flow.rules.scopeVersion ≠ scope.version ∨
      scope.validUntil < flow.deadline ∨ scope.validUntil < flow.rules.stopConditions.stopAt ∨
      flow.rules.phases ≠ [.recon] ∨ flow.rules.allowedImpacts ≠ [.readOnly] ∨
      flow.rules.approvalRequiredImpacts ≠ [] ∨
      flow.rules.prohibitedImpacts.toFinset ≠ prohibited ∨
      ¬(∀ c ∈ flow.rules.allowedTestClasses, c ∈ scope.allowedTestClasses) ∨
      flow.deadline ≤ now) changed

/-- `_authorize_exact`; without a test class the first one of the flow stands for it. -/
def authorizeExact (flow : RedTeamFlowPlan) (scope : Scope) (path : String) (now : Time)
    (testClass : Option String) (method : EndpointMethod) : Except EndpointReconError String := do
  let base ← orRaise (urlsplit flow.target.url) .valueError
  let basePath := rstripSlash base.path
  raiseIf (basePath ≠ "" ∧ path ≠ basePath ∧ ¬(basePath ++ "/").toList <+: path.toList)
    (.rejected "Endpoint seed escapes the Flow target base path")
  let url := PythonUrl.urlunsplit base.scheme base.netloc path "" ""
  let decision ← orRaise (scope.decide {
    engagementId := scope.engagementId
    targetId := some flow.target.targetId
    action := "red_team.recon.http_" ++ method.lowered
    requestedAt := now
    repositoryUrl := none
    repositoryCommit := none
    url := some url
    testClass := if truthy testClass then testClass else flow.rules.allowedTestClasses.head?
    mutatesState := false
    usesRealCredentials := false
    externalCallback := false
    submitsReport := false
    runsUntrustedBuild := false
    authorizationContextDigest := none } []) .valueError
  raiseIf (decision.effect ≠ .allow) (.rejected "Endpoint seed is outside approved Scope")
  return url

/-- `_seed_binding`. -/
def requireSeedBinding (red : RedTeamStore) (seedSet : EndpointSeedSet) (flow : RedTeamFlowPlan)
    (checkpoint : RedTeamCheckpoint) (scope : Scope) (now : Time) :
    Except EndpointReconError Unit := do
  requireRunningFlow red flow checkpoint scope now
  raiseIf (seedSet.flowPlanId ≠ flow.planId ∨
      seedSet.sourceCheckpointId ≠ checkpoint.checkpointId ∨
      seedSet.targetId ≠ flow.target.targetId ∨ seedSet.scopeId ≠ scope.scopeId ∨
      seedSet.scopeVersion ≠ scope.version ∨ seedSet.expiresAt ≤ now)
    (.rejected "Endpoint Seed Set binding is stale")

/-- `except EndpointSeedIdempotencyConflict` around a call of the store. -/
def conflictRejected {α : Type} : Except EndpointReconError α → Except EndpointReconError α
  | .error (.idempotencyConflict message) => .error (.rejected message)
  | result => result

theorem conflictRejected_eq_ok {α : Type} {result : Except EndpointReconError α} {a : α} :
    conflictRejected result = .ok a ↔ result = .ok a := by
  unfold conflictRejected
  split <;> simp

/-! ## Sealing and preparing -/

/-- `build_seed_set`. -/
def buildSeedSet (red : RedTeamStore) (flow : RedTeamFlowPlan) (checkpoint : RedTeamCheckpoint)
    (scope : Scope) (operatorRef : String) (paths : List String) (now expiresAt : Time)
    (idempotencyKey : String) : Except EndpointReconError EndpointSeedSet := do
  requireRunningFlow red flow checkpoint scope now
  raiseIf (¬paths.Nodup) (.rejected "Endpoint Seed Set contains duplicate paths")
  let created ← paths.mapM EndpointSeed.create
  let seeds := Table.orderBy EndpointSeed.path created
  raiseIf (min flow.deadline scope.validUntil < expiresAt)
    (.rejected "Endpoint Seed Set exceeds its authorization lifetime")
  let _ ← seeds.mapM fun seed => authorizeExact flow scope seed.path now none .head
  EndpointSeedSet.create flow.planId checkpoint.checkpointId flow.target.targetId scope.scopeId
    scope.version operatorRef seeds now expiresAt idempotencyKey

/-- `seal_seed_set`. -/
def sealSeedSet (red : RedTeamStore) (recon : EndpointReconStore) (flow : RedTeamFlowPlan)
    (checkpoint : RedTeamCheckpoint) (scope : Scope) (operatorRef : String) (paths : List String)
    (now expiresAt : Time) (idempotencyKey : String) :
    Except EndpointReconError (EndpointReconStore × EndpointSeedSet) := do
  let seedSet ← buildSeedSet red flow checkpoint scope operatorRef paths now expiresAt
    idempotencyKey
  conflictRejected (recon.sealSet seedSet)

/-- The plan that `prepare` reserves requests for, with the actions its flow has left. -/
def buildEndpointPlan (red : RedTeamStore) (recon : EndpointReconStore) (seedSetId : Digest)
    (scope : Scope) (testClass : String) (limits : EndpointReconLimits) (method : EndpointMethod)
    (now deadline : Time) (idempotencyKey : String) :
    Except EndpointReconError (EndpointReconPlan × ℕ) := do
  let seedSet ← recon.seedSet seedSetId
  let flow ← (red.plan seedSet.flowPlanId).mapError .flow
  let checkpoint ← (red.latest flow.planId).mapError .flow
  requireSeedBinding red seedSet flow checkpoint scope now
  raiseIf (testClass ∉ flow.rules.allowedTestClasses)
    (.rejected "Endpoint Recon test class is not authorized")
  let remaining := flow.maxActions - checkpoint.actionsUsed
  raiseIf (min (min limits.maxSteps limits.maxRequests) remaining < seedSet.seeds.length)
    (.rejected "Endpoint Recon exceeds the remaining action budget")
  let totalAt ← addDuration now limits.totalSeconds
  let stopAt := min (min (min (min deadline totalAt) seedSet.expiresAt) flow.deadline)
    scope.validUntil
  raiseIf (stopAt ≤ now) (.rejected "Endpoint Recon deadline is exhausted")
  let steps ← (seedSet.seeds.zipIdx 1).mapM fun (seed, ordinal) => do
    let targetUrl ← authorizeExact flow scope seed.path now (some testClass) method
    return { seedId := seed.seedId, ordinal := ordinal, targetUrl := targetUrl, method := method }
  let plan ← EndpointReconPlan.create {
    seedSetId := seedSet.seedSetId
    flowPlanId := flow.planId
    sourceCheckpointId := checkpoint.checkpointId
    targetId := flow.target.targetId
    scopeId := scope.scopeId
    scopeVersion := scope.version
    testClass := testClass
    steps := steps
    limits := limits
    createdAt := now
    deadline := stopAt
    idempotencyKey := idempotencyKey }
  return (plan, remaining)

/-- `prepare`. -/
def prepareEndpointRecon (red : RedTeamStore) (recon : EndpointReconStore) (seedSetId : Digest)
    (scope : Scope) (testClass : String) (limits : EndpointReconLimits) (method : EndpointMethod)
    (now deadline : Time) (idempotencyKey : String) :
    Except EndpointReconError (EndpointReconStore × EndpointReconPlan) := do
  let (plan, remaining) ← buildEndpointPlan red recon seedSetId scope testClass limits method now
    deadline idempotencyKey
  conflictRejected (recon.reserve plan remaining)

/-! ## Cancellation and expiry -/

/-- `except (ValueError, RuntimeError)` around a call of the store. -/
def anyRejected {α : Type} : Except EndpointReconError α → Except EndpointReconError α
  | .error (.idempotencyConflict message) | .error (.recoveryRequired message)
  | .error (.transitionRejected message) | .error (.validationError message) =>
    .error (.rejected message)
  | result => result

theorem anyRejected_eq_ok {α : Type} {result : Except EndpointReconError α} {a : α} :
    anyRejected result = .ok a ↔ result = .ok a := by
  unfold anyRejected
  split <;> simp

/-- `cancel_reservation`. -/
def cancelEndpointReservation (recon : EndpointReconStore) (planId : Digest) (operatorRef : String)
    (now : Time) : Except EndpointReconError (EndpointReconStore × EndpointReconReservation) := do
  let plan ← recon.plan planId
  let seedSet ← recon.seedSet plan.seedSetId
  raiseIf (operatorRef ≠ seedSet.operatorRef ∨ now < plan.createdAt)
    (.rejected "Endpoint Recon cancellation operator binding is invalid")
  raiseIf (∃ run ∈ recon.runState planId, run.1 = .started)
    (.rejected "Endpoint Recon cancellation requires recovery of its started action")
  anyRejected (recon.cancelReservation planId now "operator_cancelled")

/-- `expire_reservation`. -/
def expireEndpointReservation (recon : EndpointReconStore) (planId : Digest) (now : Time) :
    Except EndpointReconError (EndpointReconStore × EndpointReconReservation) := do
  let plan ← recon.plan planId
  raiseIf (now < plan.deadline) (.rejected "Endpoint Recon reservation is not expired")
  anyRejected (recon.expireReservation planId now)

/-! ## Execution through the flow -/

/-- The action of `prepare_endpoint_recon`. -/
def EndpointReconPlan.action (plan : EndpointReconPlan) (checkpoint : RedTeamCheckpoint)
    (step : EndpointReconStep) : RedTeamReconAction where
  planId := plan.flowPlanId
  expectedCheckpointId := checkpoint.checkpointId
  kind := match step.method with
    | .head => .httpHead
    | .get => .httpGet
  targetUrl := step.targetUrl
  testClass := plan.testClass
  createdAt := plan.createdAt
  deadline := plan.deadline
  idempotencyKey := "endpoint-recon:" ++ plan.endpointReconPlanId ++ ":" ++ step.stepId
  deadline_after := plan.isSealed.deadline_after

/-- The turn of `_run_via_flow` at a step : the checkpoint its action expects, which lists the
observations that the turns before have made. -/
def expectedCheckpoint (red : RedTeamStore) (plan : EndpointReconPlan) (index : ℕ)
    (observationIds : List Digest) : Except EndpointReconError RedTeamCheckpoint := do
  let flow ← (red.plan plan.flowPlanId).mapError .flow
  let source ← (red.checkpoint plan.sourceCheckpointId).mapError .flow
  let lineage := "Endpoint Recon checkpoint lineage is incomplete"
  let expected ← (red.checkpointRevision flow.planId (source.revision + index)).mapError
    fun _ => .rejected lineage
  raiseIf (expected.observationIds ≠ source.observationIds ++ observationIds)
    (.rejected "Endpoint Recon checkpoint lineage contains another action")
  return expected

/-- The observation that the flow has recorded for a step, once its action is complete. -/
def stepObservation (red : RedTeamStore) (recon : EndpointReconStore) (plan : EndpointReconPlan)
    (index : ℕ) (observationIds : List Digest) (command : RedTeamReconCommand) :
    Except EndpointReconError RedTeamReconObservation := do
  let expected ← expectedCheckpoint red plan index observationIds
  let step ← orRaise plan.steps[index]? .valueError
  let stored ← recon.plan plan.endpointReconPlanId
  raiseIf (stored ≠ plan ∨ command.action ≠ plan.action expected step)
    (.flow (.rejected "Endpoint Recon action binding is invalid"))
  let replay ← (red.completedAction command).mapError .flow
  orRaise replay (.recoveryRequired "Endpoint Recon action is not complete")

/-- The request of a step is consumed once, after its action. -/
def consumeStep (red : RedTeamStore) (recon : EndpointReconStore) (plan : EndpointReconPlan)
    (index : ℕ) (observationIds : List Digest) (command : RedTeamReconCommand) :
    Except EndpointReconError EndpointReconStore := do
  let observation ← stepObservation red recon plan index observationIds command
  let reservation ← recon.reservation plan.endpointReconPlanId
  if index + 1 ≤ reservation.consumedRequests then return recon
  raiseIf (reservation.consumedRequests ≠ index)
    (.rejected "Endpoint Recon reservation progress is inconsistent")
  let (recon, _) ← recon.consumeRequest plan.endpointReconPlanId observation.observedAt
  return recon

/-- An unsuccessful step stops the execution and releases what the reservation still holds. -/
def stopExecution (recon : EndpointReconStore) (plan : EndpointReconPlan)
    (observation : RedTeamReconObservation) : Except EndpointReconError EndpointReconStore := do
  let reservation ← recon.reservation plan.endpointReconPlanId
  if reservation.state ≠ .active then return recon
  let (recon, _) ← recon.cancelReservation plan.endpointReconPlanId observation.observedAt
    "execution_stopped"
  return recon

end VulnLoom

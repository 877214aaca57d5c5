import VulnLoom.FlowModels

/-!
# Attack chain contracts

The records of an approved attack chain : a sealed graph of actions that begins with initial
access and ends with its cleanup, the plan of a chain, its checkpoints, the commands that
execute an action and the observations they end with.
-/

namespace VulnLoom

inductive AttackObjectiveKind
  | establishTestSession
  | proveProtectedResourceAccess
  deriving DecidableEq

inductive AttackActionKind
  | initialAccessAttempt
  | verifyTestSession
  | verifyObjective
  | cleanupTestSession
  deriving DecidableEq

inductive AttackImpact
  | readOnly
  | stateChange
  deriving DecidableEq

inductive AttackChainStatus
  | planned
  | running
  | cleanupRequired
  | goalReached
  | failed
  | timedOut
  | killed
  deriving DecidableEq

inductive AttackNodeStatus
  | pending
  | succeeded
  | failed
  | timedOut
  deriving DecidableEq

inductive AttackActionOutcome
  | succeeded
  | rejected
  | failed
  | timedOut
  deriving DecidableEq

/-- The exceptions of the attack chain modules, with their messages. -/
inductive AttackError
  /-- `AttackChainRejected` -/
  | chainRejected (message : String)
  /-- `AttackChainTransitionRejected` -/
  | transitionRejected (message : String)
  /-- `AttackChainStoreRejected` -/
  | storeRejected (message : String)
  /-- `AttackChainRecoveryRequired` -/
  | recoveryRequired (message : String)
  /-- `AttackActionAdapterInterrupted` -/
  | adapterInterrupted (message : String)
  /-- pydantic's `ValidationError` -/
  | validationError (message : String)
  | valueError
  /-- `sqlite3.IntegrityError` -/
  | integrityError
  /-- an exception of the flow store -/
  | flow (e : RedTeamError)
  deriving DecidableEq

/-- The terminal statuses of a chain. -/
def AttackChainStatus.isTerminal : AttackChainStatus → Bool
  | .planned | .running | .cleanupRequired => false
  | .goalReached | .failed | .timedOut | .killed => true

/-- The chain executes actions. -/
def AttackChainStatus.isOpen : AttackChainStatus → Bool
  | .running | .cleanupRequired => true
  | .planned | .goalReached | .failed | .timedOut | .killed => false

/-! ## Actions -/

structure AttackObjective where
  kind : AttackObjectiveKind
  evidenceRequirement : String
  deriving DecidableEq

def AttackObjective.objectiveId [CanonicalDigest AttackObjective] (objective : AttackObjective) :
    Digest :=
  canonicalDigest objective

def AttackActionKind.expectedPhase : AttackActionKind → RedTeamPhase
  | .initialAccessAttempt => .initialAccess
  | .verifyTestSession | .verifyObjective | .cleanupTestSession => .postExploitation

def AttackActionKind.expectedImpact : AttackActionKind → AttackImpact
  | .initialAccessAttempt | .cleanupTestSession => .stateChange
  | .verifyTestSession | .verifyObjective => .readOnly

/-- `exact_safe_path`. -/
def isExactPath (value : String) : Bool :=
  value.toList.head? = some '/' ∧ ¬"//".toList <:+: value.toList ∧
    (∀ c ∈ value.toList, c ∉ ['?', '#', '%', '\\', '\x00'] ∧ 32 < c.toNat ∧ c.toNat < 128) ∧
    ∀ segment ∈ value.toList.splitOn '/', segment ≠ ['.'] ∧ segment ≠ ['.', '.']

structure AttackAction where
  flowPlanId : Digest
  scopeId : UUID
  scopeVersion : ℕ
  ordinal : ℕ
  kind : AttackActionKind
  phase : RedTeamPhase
  targetId : UUID
  targetPath : String
  testClass : String
  impact : AttackImpact
  prerequisiteActionIds : List Digest
  objectiveId : Digest
  targetPath_exact : isExactPath targetPath
  phase_eq : phase = kind.expectedPhase
  impact_eq : impact = kind.expectedImpact
  prerequisites_nodup : prerequisiteActionIds.Nodup
  prerequisites_length : prerequisiteActionIds.length ≤ 8
  deriving DecidableEq

def AttackAction.actionId [CanonicalDigest AttackAction] (action : AttackAction) : Digest :=
  canonicalDigest action

/-- `kind.value == "cleanup_test_session"`. -/
def AttackAction.isCleanup (action : AttackAction) : Bool :=
  action.kind = .cleanupTestSession

/-- `kind.value == "verify_objective"`. -/
def AttackAction.isGoal (action : AttackAction) : Bool :=
  action.kind = .verifyObjective

/-! ## Graphs -/

/-- The prerequisites of every action come before it. -/
def orderedActions [CanonicalDigest AttackAction] : List Digest → List AttackAction → Bool
  | _, [] => true
  | ids, action :: actions =>
    (∀ id ∈ action.prerequisiteActionIds, id ∈ ids) ∧
      orderedActions (ids ++ [action.actionId]) actions

structure AttackGraph [CanonicalDigest AttackAction] [CanonicalDigest AttackObjective] where
  flowPlanId : Digest
  targetId : UUID
  scopeId : UUID
  scopeVersion : ℕ
  objective : AttackObjective
  actions : List AttackAction
  length_bounds : 3 ≤ actions.length ∧ actions.length ≤ 32
  ordinals : actions.map AttackAction.ordinal = List.range' 1 actions.length
  bound : ∀ action ∈ actions, action.flowPlanId = flowPlanId ∧ action.scopeId = scopeId ∧
    action.scopeVersion = scopeVersion ∧ action.targetId = targetId ∧
    action.objectiveId = objective.objectiveId
  ordered : orderedActions [] actions
  begins : ∀ action ∈ actions.head?, action.kind = .initialAccessAttempt
  later : ∀ action ∈ actions.tail, action.kind ≠ .initialAccessAttempt ∧
    action.prerequisiteActionIds ≠ []
  one_objective : (actions.filter AttackAction.isGoal).length = 1
  ends : actions.filter AttackAction.isCleanup = actions.getLast?.toList
  cleanup_after : ∀ goal ∈ actions.filter AttackAction.isGoal,
    ∀ cleanup ∈ actions.filter AttackAction.isCleanup,
      goal.actionId ∈ cleanup.prerequisiteActionIds
  deriving DecidableEq

/-- The sealed cleanup action. -/
def AttackGraph.cleanup [CanonicalDigest AttackAction] [CanonicalDigest AttackObjective]
    (graph : AttackGraph) : AttackAction :=
  graph.actions.getLast fun h => by
    have hlength := graph.length_bounds.1
    rw [h] at hlength
    exact absurd hlength (by decide)

/-! ## Plans -/

@[ext]
structure AttackChainPlan [CanonicalDigest AttackAction] [CanonicalDigest AttackObjective] where
  graph : AttackGraph
  expectedFlowCheckpointId : Digest
  createdAt : Time
  deadline : Time
  cleanupDeadline : Time
  maxFailures : ℕ
  idempotencyKey : String
  deadline_after : createdAt < deadline
  cleanupDeadline_bounds : deadline < cleanupDeadline ∧ cleanupDeadline ≤ deadline + 300000000
  maxFailures_bounds : 1 ≤ maxFailures ∧ maxFailures ≤ 3

instance [CanonicalDigest AttackAction] [CanonicalDigest AttackObjective] :
    DecidableEq AttackChainPlan :=
  fun _ _ => decidable_of_iff _ AttackChainPlan.ext_iff.symm

/-! ## Checkpoints -/

/-- A node is pending exactly while it has no observation. -/
structure AttackNodeProgress where
  actionId : Digest
  status : AttackNodeStatus
  observationId : Option Digest
  consistent : status = .pending ↔ observationId = none
  deriving DecidableEq

/-- The fields of a checkpoint before its validator has run. -/
structure AttackChainCheckpointValues where
  chainPlanId : Digest
  revision : ℕ
  status : AttackChainStatus
  nodes : List AttackNodeProgress
  objectiveObservationId : Option Digest
  deferredOutcome : Option AttackActionOutcome
  failures : ℕ
  stopReason : Option String
  updatedAt : Time
  deriving DecidableEq

/-- A node that counts as a failure. -/
def AttackNodeProgress.isFailure (node : AttackNodeProgress) : Bool :=
  node.status = .failed ∨ node.status = .timedOut

/-- The status of the node that an observation belongs to, the last one if there are more. -/
def observedStatus (nodes : List AttackNodeProgress) (observationId : Digest) :
    Option AttackNodeStatus :=
  (nodes.reverse.find? fun node => node.observationId = some observationId).map
    AttackNodeProgress.status

/-- What `AttackChainCheckpoint.sealed` checks. -/
@[mk_iff]
structure AttackChainCheckpointValues.Sealed (values : AttackChainCheckpointValues) : Prop where
  terminal : values.status.isTerminal = values.stopReason.isSome
  deferred : values.status = .cleanupRequired ↔ values.deferredOutcome ≠ none
  goal : values.status = .goalReached → values.objectiveObservationId ≠ none
  nodes_nodup : (values.nodes.map AttackNodeProgress.actionId).Nodup
  objective : ∀ id ∈ values.objectiveObservationId,
    observedStatus values.nodes id = some .succeeded
  failures_eq : values.failures = values.nodes.countP AttackNodeProgress.isFailure
  planned : values.status = .planned → values.revision = 0 ∧ values.failures = 0 ∧
    values.objectiveObservationId = none ∧ ∀ node ∈ values.nodes, node.status = .pending
  cleanup : values.status = .cleanupRequired → ∃ node ∈ values.nodes, node.status = .pending
  all_succeeded : values.status = .goalReached →
    values.failures = 0 ∧ ∀ node ∈ values.nodes, node.status = .succeeded

instance AttackChainCheckpointValues.decidableSealed (values : AttackChainCheckpointValues) :
    Decidable values.Sealed :=
  decidable_of_iff' _ (AttackChainCheckpointValues.sealed_iff values)

structure AttackChainCheckpoint extends AttackChainCheckpointValues where
  isSealed : toAttackChainCheckpointValues.Sealed
  deriving DecidableEq

/-- `AttackChainCheckpoint.create`. -/
def AttackChainCheckpoint.create (values : AttackChainCheckpointValues) :
    Except AttackError AttackChainCheckpoint :=
  if h : values.Sealed then .ok ⟨values, h⟩
  else .error (.validationError "Attack Chain checkpoint is inconsistent")

theorem AttackChainCheckpoint.create_eq_ok {values : AttackChainCheckpointValues}
    {checkpoint : AttackChainCheckpoint} :
    AttackChainCheckpoint.create values = .ok checkpoint ↔
      checkpoint.toAttackChainCheckpointValues = values := by
  unfold create
  constructor
  · intro h
    split_ifs at h
    cases h
    rfl
  · rintro rfl
    rw [dif_pos checkpoint.isSealed]

/-- The status of the node of an action. -/
def AttackChainCheckpointValues.nodeStatus (values : AttackChainCheckpointValues)
    (actionId : Digest) : Option AttackNodeStatus :=
  (values.nodes.find? fun node => node.actionId = actionId).map AttackNodeProgress.status

/-! ## Commands and observations -/

structure AttackActionCommand where
  chainPlanId : Digest
  expectedCheckpointId : Digest
  actionId : Digest
  attempt : ℕ
  attempt_bounds : 1 ≤ attempt ∧ attempt ≤ 2

/-- The fields of an observation before its validator has run. -/
structure AttackActionObservationValues where
  commandId : Digest
  actionId : Digest
  outcome : AttackActionOutcome
  reasonCode : String
  evidenceRefs : List Digest
  goalReached : Bool
  cleanupComplete : Bool
  sensitiveDataRedacted : Bool
  observedAt : Time

/-- What `AttackActionObservation.sealed` checks. -/
@[mk_iff]
structure AttackActionObservationValues.Sealed (values : AttackActionObservationValues) :
    Prop where
  redacted : values.sensitiveDataRedacted = true
  succeeded : values.outcome = .succeeded →
    values.cleanupComplete = true ∧ values.evidenceRefs ≠ []
  goal : values.goalReached = true → values.outcome = .succeeded

instance AttackActionObservationValues.decidableSealed
    (values : AttackActionObservationValues) : Decidable values.Sealed :=
  decidable_of_iff' _ (AttackActionObservationValues.sealed_iff values)

structure AttackActionObservation extends AttackActionObservationValues where
  isSealed : toAttackActionObservationValues.Sealed

/-! ## Digests -/

class AttackDigests where
  objective : CanonicalDigest AttackObjective
  action : CanonicalDigest AttackAction
  plan : CanonicalDigest AttackChainPlan
  checkpoint : CanonicalDigest AttackChainCheckpoint
  command : CanonicalDigest AttackActionCommand
  observation : CanonicalDigest AttackActionObservation

attribute [reducible, instance] AttackDigests.objective AttackDigests.action AttackDigests.plan
  AttackDigests.checkpoint AttackDigests.command AttackDigests.observation

variable [AttackDigests]

def AttackChainPlan.chainPlanId (plan : AttackChainPlan) : Digest :=
  canonicalDigest plan

def AttackChainCheckpoint.checkpointId (checkpoint : AttackChainCheckpoint) : Digest :=
  canonicalDigest checkpoint

def AttackActionCommand.commandId (command : AttackActionCommand) : Digest :=
  canonicalDigest command

def AttackActionObservation.observationId (observation : AttackActionObservation) : Digest :=
  canonicalDigest observation

namespace AttackGraph

/-- The sealed cleanup is the only cleanup of its graph. -/
theorem isCleanup_iff (graph : AttackGraph) {action : AttackAction}
    (haction : action ∈ graph.actions) : action.isCleanup = true ↔ action = graph.cleanup := by
  have hmem : action ∈ graph.actions.filter AttackAction.isCleanup ↔ action = graph.cleanup := by
    rw [graph.ends, List.getLast?_eq_some_getLast, Option.mem_toList, Option.some_inj]
    exact eq_comm
  rw [← hmem, List.mem_filter]
  simp [haction]

end AttackGraph

end VulnLoom

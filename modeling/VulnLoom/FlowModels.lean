import VulnLoom.Basic

/-!
# Red Team contracts

The records of an authorised Red Team flow. A record whose validator can fail carries what
the validator checks as a field, so an invalid record cannot be built, and `create` raises
where the source's constructor does.
-/

namespace VulnLoom

inductive RedTeamPhase
  | recon
  | initialAccess
  | validation
  | postExploitation
  deriving DecidableEq

inductive ImpactClass
  | readOnly
  | stateChange
  | realCredential
  | externalCallback
  | lateralMovement
  | persistence
  deriving DecidableEq

inductive RedTeamActionKind
  | dnsLookup
  | tlsInspect
  | httpHead
  | httpGet
  deriving DecidableEq

inductive RedTeamFlowStatus
  | planned
  | running
  | completed
  | cancelled
  | timedOut
  | failed
  | killed
  deriving DecidableEq

inductive ReconOutcome
  | succeeded
  | rejected
  | timedOut
  | failed
  deriving DecidableEq

/-- The exceptions of the Red Team modules, with their messages. -/
inductive RedTeamError
  /-- `RedTeamStoreRejected` -/
  | storeRejected (message : String)
  /-- `RedTeamRecoveryRequired` -/
  | recoveryRequired (message : String)
  /-- `RedTeamTransitionRejected` -/
  | transitionRejected (message : String)
  /-- `RedTeamRejected` -/
  | rejected (message : String)
  /-- `RedTeamReplanRejected` -/
  | replanRejected (message : String)
  /-- `RedTeamAdapterInterrupted` -/
  | adapterInterrupted (message : String)
  | valueError
  /-- pydantic's `ValidationError` -/
  | validationError (message : String)
  /-- `sqlite3.IntegrityError` -/
  | integrityError
  deriving DecidableEq

/-- `TERMINAL_STATUSES`. -/
def RedTeamFlowStatus.isTerminal : RedTeamFlowStatus → Bool
  | .planned | .running => false
  | .completed | .cancelled | .timedOut | .failed | .killed => true

/-! ## Plans -/

structure AuthorizedWebTarget where
  targetId : UUID
  url : String
  deriving DecidableEq

structure RedTeamStopConditions where
  stopAt : Time
  maxActions : ℕ
  maxConsecutiveFailures : ℕ
  maxActions_bounds : 1 ≤ maxActions ∧ maxActions ≤ 10000
  maxConsecutiveFailures_bounds : 1 ≤ maxConsecutiveFailures ∧ maxConsecutiveFailures ≤ 20
  deriving DecidableEq

structure RulesOfEngagement where
  scopeId : UUID
  scopeVersion : ℕ
  targetId : UUID
  phases : List RedTeamPhase
  allowedTestClasses : List String
  allowedImpacts : List ImpactClass
  approvalRequiredImpacts : List ImpactClass
  prohibitedImpacts : List ImpactClass
  stopConditions : RedTeamStopConditions
  deriving DecidableEq

structure RedTeamFlowPlan where
  target : AuthorizedWebTarget
  rules : RulesOfEngagement
  createdAt : Time
  deadline : Time
  idempotencyKey : String
  target_bound : target.targetId = rules.targetId
  deadline_bounds : createdAt < deadline ∧ deadline ≤ rules.stopConditions.stopAt
  deriving DecidableEq

def RedTeamFlowPlan.planId [CanonicalDigest RedTeamFlowPlan] (plan : RedTeamFlowPlan) : Digest :=
  canonicalDigest plan

/-- `plan.rules.stop_conditions.max_actions`. -/
abbrev RedTeamFlowPlan.maxActions (plan : RedTeamFlowPlan) : ℕ :=
  plan.rules.stopConditions.maxActions

/-! ## Checkpoints -/

/-- The fields of a checkpoint before its validator has run. -/
structure RedTeamCheckpointValues where
  planId : Digest
  revision : ℕ
  status : RedTeamFlowStatus
  actionsUsed : ℕ
  consecutiveFailures : ℕ
  observationIds : List Digest
  stopReason : Option String
  updatedAt : Time
  deriving DecidableEq

structure RedTeamCheckpoint extends RedTeamCheckpointValues where
  terminal_iff_stopReason : status.isTerminal = stopReason.isSome
  observationIds_nodup : observationIds.Nodup
  deriving DecidableEq

/-- `RedTeamCheckpoint.create`. -/
def RedTeamCheckpoint.create (values : RedTeamCheckpointValues) :
    Except RedTeamError RedTeamCheckpoint :=
  if hstop : values.status.isTerminal = values.stopReason.isSome then
    if hnodup : values.observationIds.Nodup then .ok ⟨values, hstop, hnodup⟩
    else .error (.validationError "Red Team observation references must be unique")
  else .error (.validationError "Red Team terminal status and stop reason are inconsistent")

theorem RedTeamCheckpoint.create_eq_ok {values : RedTeamCheckpointValues}
    {checkpoint : RedTeamCheckpoint} (h : RedTeamCheckpoint.create values = .ok checkpoint) :
    checkpoint.toRedTeamCheckpointValues = values := by
  unfold create at h
  split_ifs at h
  cases h
  rfl

def RedTeamCheckpoint.checkpointId [CanonicalDigest RedTeamCheckpoint]
    (checkpoint : RedTeamCheckpoint) : Digest :=
  canonicalDigest checkpoint

/-! ## Recon actions -/

structure RedTeamReconAction where
  planId : Digest
  expectedCheckpointId : Digest
  kind : RedTeamActionKind
  targetUrl : String
  testClass : String
  createdAt : Time
  deadline : Time
  idempotencyKey : String
  deadline_after : createdAt < deadline
  deriving DecidableEq

def RedTeamReconAction.actionId [CanonicalDigest RedTeamReconAction]
    (action : RedTeamReconAction) : Digest :=
  canonicalDigest action

structure RedTeamReconCommand where
  action : RedTeamReconAction
  attempt : ℕ
  attempt_bounds : 1 ≤ attempt ∧ attempt ≤ 3
  deriving DecidableEq

def RedTeamReconCommand.commandId [CanonicalDigest RedTeamReconCommand]
    (command : RedTeamReconCommand) : Digest :=
  canonicalDigest command

/-! ## Observations -/

structure AttackSurfaceSnapshot where
  actionId : Digest
  requestedUrlDigest : Digest
  finalUrlDigest : Digest
  statusCode : ℕ
  redirectCount : ℕ
  evidenceRefs : List Digest
  deriving DecidableEq

structure ServiceIdentitySnapshot where
  actionId : Digest
  evidenceRefs : List Digest
  deriving DecidableEq

structure WebResponseSnapshot where
  snapshotId : Digest
  planId : Digest
  actionId : Digest
  targetId : UUID
  scopeId : UUID
  scopeVersion : ℕ
  requestedUrlDigest : Digest
  finalUrlDigest : Digest
  statusCode : ℕ
  responseBytes : ℕ
  responseBodySha256 : Digest
  evidenceRefs : List Digest
  deriving DecidableEq

/-- The fields of an observation before its validator has run. -/
structure RedTeamReconObservationValues where
  actionId : Digest
  outcome : ReconOutcome
  statusCode : Option ℕ
  reasonCode : String
  cleanupComplete : Bool
  sensitiveDataRedacted : Bool
  attackSurface : Option AttackSurfaceSnapshot
  serviceIdentity : Option ServiceIdentitySnapshot
  webResponse : Option WebResponseSnapshot
  observedAt : Time
  deriving DecidableEq

/-- What `RedTeamReconObservation.sealed` checks. -/
structure RedTeamReconObservationValues.Sealed (values : RedTeamReconObservationValues) : Prop where
  cleanup : values.outcome = .succeeded → values.cleanupComplete = true
  redacted : values.sensitiveDataRedacted = true
  attackSurface : ∀ s ∈ values.attackSurface, values.outcome = .succeeded ∧
    values.statusCode = some s.statusCode ∧ values.actionId = s.actionId
  serviceIdentity : ∀ s ∈ values.serviceIdentity, values.outcome = .succeeded ∧
    values.statusCode = none ∧ values.actionId = s.actionId
  webResponse : ∀ s ∈ values.webResponse, values.outcome = .succeeded ∧
    values.statusCode = some s.statusCode ∧ values.actionId = s.actionId
  one_snapshot : values.attackSurface.isSome.toNat + values.serviceIdentity.isSome.toNat +
    values.webResponse.isSome.toNat ≤ 1

structure RedTeamReconObservation extends RedTeamReconObservationValues where
  isSealed : toRedTeamReconObservationValues.Sealed
  deriving DecidableEq

def RedTeamReconObservation.observationId [CanonicalDigest RedTeamReconObservation]
    (observation : RedTeamReconObservation) : Digest :=
  canonicalDigest observation

end VulnLoom

import VulnLoom.CampaignStore

/-!
# The campaign orchestration service

Preparing a plan and executing it. An execution validates its sources and its approvals, claims
the plan, and records the checkpoints of the six phases that are not recorded yet; it stops
where a check raises, where its clock passes the limit, or where its process stops after some
number of phases (`stop`). The protocols the service reads its sources through are functions
that may raise `KeyError`.
-/

namespace VulnLoom

/-- The campaign, runtime and evidence assessment sources. A plan is found by its identifier. -/
structure CampaignSources [EvidenceDigests] [AssessmentDigests] where
  campaignPlan : Digest → Option GoalDrivenCampaignPlan
  campaignOutcome : Digest → Option GoalDrivenCampaignQualificationOutcome
  runtimePlan : Digest → Option CampaignRuntimeQualificationPlan
  runtimeOutcome : Digest → Option CampaignRuntimeQualificationOutcome
  assessmentPlan : Digest → Option EvidenceAssessmentPlan
  assessmentOutcome : Digest → Option EvidenceAssessmentOutcome
  campaignPlan_id : ∀ {id plan}, campaignPlan id = some plan → plan.campaignPlanId = id
  runtimePlan_id : ∀ {id plan}, runtimePlan id = some plan → plan.runtimePlanId = id
  assessmentPlan_id : ∀ {id plan}, assessmentPlan id = some plan → plan.planId = id

/-- The six records an orchestration reads. -/
structure CampaignRecords [EvidenceDigests] where
  campaignPlan : GoalDrivenCampaignPlan
  campaignOutcome : GoalDrivenCampaignQualificationOutcome
  runtimePlan : CampaignRuntimeQualificationPlan
  runtimeOutcome : CampaignRuntimeQualificationOutcome
  assessmentPlan : EvidenceAssessmentPlan
  assessmentOutcome : EvidenceAssessmentOutcome

variable [EvidenceDigests] [AssessmentDigests] [CampaignDigests] [OrchestrationDigests]

/-! ## Sources -/

def sourceUnavailable : CampaignOrchestrationError :=
  .rejected "Campaign Orchestration authoritative source is unavailable"

/-- `_read`. -/
def CampaignSources.read (sources : CampaignSources)
    (campaignPlanId runtimePlanId assessmentPlanId : Digest) :
    Except CampaignOrchestrationError CampaignRecords := do
  let campaignPlan ← orRaise (sources.campaignPlan campaignPlanId) sourceUnavailable
  let campaignOutcome ← orRaise (sources.campaignOutcome campaignPlanId) sourceUnavailable
  let runtimePlan ← orRaise (sources.runtimePlan runtimePlanId) sourceUnavailable
  let runtimeOutcome ← orRaise (sources.runtimeOutcome runtimePlanId) sourceUnavailable
  let assessmentPlan ← orRaise (sources.assessmentPlan assessmentPlanId) sourceUnavailable
  let assessmentOutcome ← orRaise (sources.assessmentOutcome assessmentPlanId) sourceUnavailable
  return ⟨campaignPlan, campaignOutcome, runtimePlan, runtimeOutcome, assessmentPlan,
    assessmentOutcome⟩

/-- The scope that the campaign is bound to is approved and current. -/
def CampaignScopeCurrent (plan : GoalDrivenCampaignPlan) (scope : Scope) (now : Time) : Prop :=
  scope.state = .approved ∧ scope.scopeId = plan.scopeId ∧ scope.version = plan.scopeVersion ∧
    (scope.validFrom ≤ now ∧ now < scope.validUntil) ∧ "read_only" ∈ scope.allowedTestClasses

instance (plan : GoalDrivenCampaignPlan) (scope : Scope) (now : Time) :
    Decidable (CampaignScopeCurrent plan scope now) :=
  inferInstanceAs (Decidable (_ ∧ _))

/-- The records name one another. -/
def CampaignRecords.Bound (records : CampaignRecords) (scope : Scope) : Prop :=
  let campaign := records.campaignPlan
  let runtime := records.runtimePlan
  campaign.goal.kind = .evidenceRequirementSatisfaction ∧
    records.campaignOutcome.campaignPlanId = campaign.campaignPlanId ∧
    records.campaignOutcome.goalId = campaign.goal.goalId ∧
    runtime.campaignPlanId = campaign.campaignPlanId ∧
    runtime.campaignOutcomeId = records.campaignOutcome.outcomeId ∧
    runtime.scopeId = scope.scopeId ∧ runtime.scopeVersion = scope.version ∧
    runtime.targetSetDigest = canonicalDigest campaign.targetIds ∧
    runtime.requiredPhaseIds = campaign.phases.map CampaignPhase.phaseId ∧
    runtime.phaseGraphDigest = canonicalDigest campaign.phases ∧
    runtime.campaignPlanDigest = canonicalDigest campaign ∧
    runtime.campaignOutcomeDigest = canonicalDigest records.campaignOutcome ∧
    records.runtimeOutcome.runtimePlanId = runtime.runtimePlanId ∧
    records.runtimeOutcome.campaignPlanId = campaign.campaignPlanId ∧
    records.runtimeOutcome.campaignOutcomeId = records.campaignOutcome.outcomeId ∧
    records.assessmentOutcome.planId = records.assessmentPlan.planId ∧
    records.assessmentOutcome.assessment.planId = records.assessmentPlan.planId ∧
    records.assessmentOutcome.assessment.requirementId =
      records.assessmentPlan.requirement.requirementId ∧
    records.assessmentPlan.scopeId = scope.scopeId ∧
    records.assessmentPlan.scopeVersion = scope.version ∧
    records.assessmentPlan.targetId ∈ campaign.targetIds ∧
    records.assessmentOutcome.assessment.cleanupRequirementSatisfied = true

instance (records : CampaignRecords) (scope : Scope) : Decidable (records.Bound scope) :=
  inferInstanceAs (Decidable (_ ∧ _))

/-- `_validate_sources`. -/
def CampaignRecords.validateSources (records : CampaignRecords) (scope : Scope) (now : Time) :
    Except CampaignOrchestrationError Unit := do
  raiseIf (¬CampaignScopeCurrent records.campaignPlan scope now)
    (.rejected "Campaign Orchestration requires a current approved Scope")
  raiseIf (¬records.Bound scope)
    (.rejected "Campaign Orchestration source binding is invalid")

/-! ## Preparing a plan -/

/-- `CampaignOrchestrationPlan.create`, of the records and the scope. -/
def CampaignRecords.createPlan (records : CampaignRecords) (scope : Scope)
    (limits : CampaignOrchestrationLimits) (now stopAt : Time) (idempotencyKey : String) :
    Except CampaignOrchestrationError CampaignOrchestrationPlan :=
  let campaign := records.campaignPlan
  let phaseIds := campaign.phases.map CampaignPhase.phaseId
  if h : OrchestrationPlanSealed campaign.targetIds (canonicalDigest campaign.targetIds) phaseIds
      records.assessmentPlan.targetId now stopAt idempotencyKey then
    .ok {
      campaignPlanId := campaign.campaignPlanId
      campaignPlanDigest := canonicalDigest campaign
      campaignOutcomeId := records.campaignOutcome.outcomeId
      campaignOutcomeDigest := canonicalDigest records.campaignOutcome
      runtimePlanId := records.runtimePlan.runtimePlanId
      runtimePlanDigest := canonicalDigest records.runtimePlan
      runtimeOutcomeId := records.runtimeOutcome.outcomeId
      runtimeOutcomeDigest := canonicalDigest records.runtimeOutcome
      goalId := campaign.goal.goalId
      scopeId := scope.scopeId
      scopeVersion := scope.version
      targetIds := campaign.targetIds
      targetSetDigest := canonicalDigest campaign.targetIds
      phaseIds := phaseIds
      phaseGraphDigest := canonicalDigest campaign.phases
      evidenceAssessmentPlanId := records.assessmentPlan.planId
      evidenceAssessmentPlanDigest := canonicalDigest records.assessmentPlan
      evidenceAssessmentId := records.assessmentOutcome.assessment.assessmentId
      evidenceAssessmentOutcomeDigest := canonicalDigest records.assessmentOutcome
      evidenceRequirementId := records.assessmentOutcome.assessment.requirementId
      evidenceTargetId := records.assessmentPlan.targetId
      evidenceTargetVersion := records.assessmentPlan.targetVersion
      limits := limits
      createdAt := now
      deadline := stopAt
      idempotencyKey := idempotencyKey
      isSealed := h }
  else
    .error (.validationError "Campaign Orchestration Plan binding is invalid")

/-- `CampaignOrchestrationService.prepare`. -/
def prepareOrchestration (sources : CampaignSources)
    (campaignPlanId runtimePlanId assessmentPlanId : Digest) (scope : Scope)
    (limits : CampaignOrchestrationLimits) (now deadline : Time) (idempotencyKey : String) :
    Except CampaignOrchestrationError CampaignOrchestrationPlan := do
  let records ← sources.read campaignPlanId runtimePlanId assessmentPlanId
  records.validateSources scope now
  let stopAt := min deadline (min records.campaignPlan.deadline scope.validUntil)
  raiseIf (¬now < stopAt) (.rejected "Campaign Orchestration deadline is invalid")
  records.createPlan scope limits now stopAt idempotencyKey

/-! ## Admitting an execution -/

/-- The plan is about these records. -/
def CampaignRecords.Matches (records : CampaignRecords) (plan : CampaignOrchestrationPlan) :
    Prop :=
  let campaign := records.campaignPlan
  plan.campaignPlanId = campaign.campaignPlanId ∧
    plan.campaignPlanDigest = canonicalDigest campaign ∧
    plan.campaignOutcomeId = records.campaignOutcome.outcomeId ∧
    plan.campaignOutcomeDigest = canonicalDigest records.campaignOutcome ∧
    plan.runtimePlanId = records.runtimePlan.runtimePlanId ∧
    plan.runtimePlanDigest = canonicalDigest records.runtimePlan ∧
    plan.runtimeOutcomeId = records.runtimeOutcome.outcomeId ∧
    plan.runtimeOutcomeDigest = canonicalDigest records.runtimeOutcome ∧
    plan.goalId = campaign.goal.goalId ∧
    plan.targetIds = campaign.targetIds ∧
    plan.targetSetDigest = canonicalDigest campaign.targetIds ∧
    plan.phaseIds = campaign.phases.map CampaignPhase.phaseId ∧
    plan.evidenceRequirementId = records.assessmentPlan.requirement.requirementId ∧
    plan.evidenceTargetId = records.assessmentPlan.targetId ∧
    plan.evidenceTargetVersion = records.assessmentPlan.targetVersion ∧
    plan.evidenceAssessmentPlanDigest = canonicalDigest records.assessmentPlan ∧
    plan.evidenceAssessmentId = records.assessmentOutcome.assessment.assessmentId ∧
    plan.evidenceAssessmentOutcomeDigest = canonicalDigest records.assessmentOutcome ∧
    plan.phaseGraphDigest = canonicalDigest campaign.phases

instance (records : CampaignRecords) (plan : CampaignOrchestrationPlan) :
    Decidable (records.Matches plan) :=
  inferInstanceAs (Decidable (_ ∧ _))

/-- The phases of a plan, with their ordinals. -/
def CampaignOrchestrationPlan.admissions (plan : CampaignOrchestrationPlan) :
    List (Digest × ℕ) :=
  plan.phaseIds.zipIdx 1

/-- The approval of one phase : the one of its admission digest, if it is valid. -/
def phaseApproval (plan : CampaignOrchestrationPlan) (approvals : List ApprovalRequest)
    (scope : Scope) (now : Time) (admission : Digest × ℕ) :
    Except CampaignOrchestrationError ApprovalRequest := do
  let digest :=
    campaignPhaseAdmissionDigest plan.orchestrationPlanId admission.1 admission.2
  let approval ← orRaise (approvals.find? fun item => item.actionDigest = digest)
    (.rejected "Campaign Phase Approval is invalid")
  raiseIf (approval.engagementId ≠ scope.engagementId ∨
      (approval.targetId ≠ none ∧ approval.targetId ≠ some plan.evidenceTargetId) ∨
      approval.policyVersion ≠ scope.version ∨
      approval.isValidFor .advanceCampaignPhase digest now = false)
    (.rejected "Campaign Phase Approval is invalid")
  return approval

/-- `_approvals`. The approvals have six distinct digests, so `by_digest` has one for each. -/
def phaseApprovals (plan : CampaignOrchestrationPlan) (approvals : List ApprovalRequest)
    (scope : Scope) (now : Time) : Except CampaignOrchestrationError (List ApprovalRequest) := do
  raiseIf ((approvals.map ApprovalRequest.actionDigest).dedup.length ≠ 6 ∨ approvals.length ≠ 6)
    (.rejected "Campaign Orchestration requires six distinct phase Approvals")
  let ordered ← plan.admissions.mapM (phaseApproval plan approvals scope now)
  raiseIf ((∃ item ∈ ordered, item.decidedAt.all (now < ·) = true) ∨
      ¬(ordered.filterMap ApprovalRequest.decidedAt).Pairwise (· ≤ ·) ∨
      (ordered.map ApprovalRequest.decidedAt).dedup.length ≠ 6)
    (.rejected "Campaign Phase Approvals are not temporally ordered")
  return ordered

/-- A call of `execute`. The monotonic clock gives its readings in turn; `stop` is after how
many phases the process stops, if it does. -/
structure OrchestrationCall where
  plan : CampaignOrchestrationPlan
  approvals : List ApprovalRequest
  scope : Scope
  now : Time
  clock : ℕ → ℚ
  stop : Option ℕ

/-- `_Deadline.check`, at a reading of the clock. -/
def OrchestrationCall.checkDeadline (call : OrchestrationCall) (reading : ℕ) :
    Except CampaignOrchestrationError Unit :=
  raiseIf (call.plan.limits.timeoutSeconds ≤ call.clock reading - call.clock 0)
    (.timedOut "Campaign Orchestration timed out")

/-- What an execution checks before it claims its plan. -/
def OrchestrationCall.admission (call : OrchestrationCall) (sources : CampaignSources) :
    Except CampaignOrchestrationError (CampaignRecords × List ApprovalRequest) := do
  let records ← sources.read call.plan.campaignPlanId call.plan.runtimePlanId
    call.plan.evidenceAssessmentPlanId
  records.validateSources call.scope call.now
  raiseIf (¬records.Matches call.plan)
    (.rejected "Campaign Orchestration Plan source binding drifted")
  raiseIf (¬(call.plan.createdAt ≤ call.now ∧ call.now < call.plan.deadline))
    (.rejected "Campaign Orchestration Plan is not active")
  let ordered ← phaseApprovals call.plan call.approvals call.scope call.now
  call.checkDeadline 1
  return (records, ordered)

/-! ## Checkpoints -/

/-- The assertion identifiers of one stage, sorted. -/
def assertionIds (plan : EvidenceAssessmentPlan) (stage : EvidenceRequirementStage) :
    List Digest :=
  Table.orderBy id ((ofStage plan.assertions stage).map EvidenceAssertion.assertionId)

/-- What the checkpoint of a phase refers to. -/
def CampaignRecords.phaseRefs (records : CampaignRecords) (plan : CampaignOrchestrationPlan) :
    CampaignPhaseKind → List Digest
  | .scopeConfirmation =>
    [canonicalDigest (ScopeConfirmation.mk plan.scopeId plan.scopeVersion plan.targetSetDigest)]
  | .observation => assertionIds records.assessmentPlan .observation
  | .hypothesis => [plan.evidenceRequirementId]
  | .validation => assertionIds records.assessmentPlan .validation
  | .criticReview => assertionIds records.assessmentPlan .critic
  | .cleanupConfirmation =>
    Table.orderBy id (assertionIds records.assessmentPlan .cleanup ++
      [records.assessmentOutcome.assessment.assessmentId])

/-- `_checkpoints`. -/
def CampaignRecords.checkpoints (records : CampaignRecords) (plan : CampaignOrchestrationPlan)
    (ordered : List ApprovalRequest) (now : Time) :
    Except CampaignOrchestrationError (List CampaignPhaseCheckpoint) :=
  (records.campaignPlan.phases.zip ordered).mapM fun (phase, approval) =>
    CampaignPhaseCheckpoint.create plan.orchestrationPlanId phase approval
      (records.phaseRefs plan phase.kind) now

/-! ## Executing a plan -/

/-- The checkpoints that are left are recorded one after the other. -/
def OrchestrationCall.recordPhases (call : OrchestrationCall) :
    ℕ → Option ℕ → List CampaignPhaseCheckpoint → List OrchestrationRow →
      List OrchestrationRow × Except CampaignOrchestrationError ℕ
  | _, some 0, _, rows => (rows, .error .interrupted)
  | reading, _, [], rows => (rows, .ok reading)
  | reading, stop, checkpoint :: rest, rows =>
    match call.checkDeadline reading with
    | .error e => (rows, .error e)
    | .ok () =>
      match recordCheckpoint rows call.plan checkpoint with
      | .error e => (rows, .error e)
      | .ok recorded => call.recordPhases (reading + 1) (stop.map (· - 1)) rest recorded

/-- The closure of an orchestration whose checkpoints are `expected`. -/
def CampaignRecords.createClosure (records : CampaignRecords) (plan : CampaignOrchestrationPlan)
    (expected : List CampaignPhaseCheckpoint) (now : Time) :
    Except CampaignOrchestrationError CampaignEvidenceClosure :=
  let assessment := records.assessmentOutcome.assessment
  if h : ClosureSealed assessment.verdict.disposition assessment.verdict
      (expected.map CampaignPhaseCheckpoint.checkpointId) assessment.evidenceRefs
      (decide (assessment.verdict = .candidateEligible)) then
    .ok {
      orchestrationPlanId := plan.orchestrationPlanId
      campaignPlanId := records.campaignPlan.campaignPlanId
      runtimeOutcomeId := records.runtimeOutcome.outcomeId
      evidenceAssessmentId := assessment.assessmentId
      evidenceRequirementId := assessment.requirementId
      disposition := assessment.verdict.disposition
      assessmentVerdict := assessment.verdict
      phaseCheckpointIds := expected.map CampaignPhaseCheckpoint.checkpointId
      evidenceRefs := assessment.evidenceRefs
      unresolvedCandidateRecorded := decide (assessment.verdict = .candidateEligible)
      closedAt := now
      isSealed := h }
  else
    .error (.validationError "Campaign Evidence Closure binding is invalid")

/-- `CampaignOrchestrationOutcome`. -/
def createOutcome (plan : CampaignOrchestrationPlan) (closure : CampaignEvidenceClosure)
    (attempt : ℕ) : Except CampaignOrchestrationError CampaignOrchestrationOutcome :=
  if h : (1 ≤ attempt ∧ attempt ≤ 3) ∧
      closure.orchestrationPlanId = plan.orchestrationPlanId then
    .ok ⟨plan.orchestrationPlanId, closure, attempt, h.1, h.2⟩
  else
    .error (.validationError "Campaign Orchestration Outcome binding is invalid")

/-- What an execution does once every phase is recorded. -/
def OrchestrationCall.finish (call : OrchestrationCall) (records : CampaignRecords)
    (expected : List CampaignPhaseCheckpoint) (attempt reading : ℕ)
    (rows : List OrchestrationRow) :
    Except CampaignOrchestrationError (List OrchestrationRow × CampaignOrchestrationOutcome) := do
  call.checkDeadline reading
  let closure ← records.createClosure call.plan expected call.now
  let outcome ← createOutcome call.plan closure attempt
  call.checkDeadline (reading + 1)
  let completed ← completeOrchestration rows call.plan outcome call.now
  return (completed, outcome)

/-- What an execution does after its claim. -/
def OrchestrationCall.carryOut (call : OrchestrationCall) (records : CampaignRecords)
    (ordered : List ApprovalRequest) (claim : CampaignOrchestrationClaim)
    (rows : List OrchestrationRow) :
    List OrchestrationRow × Except CampaignOrchestrationError CampaignOrchestrationOutcome :=
  match records.checkpoints call.plan ordered call.now with
  | .error e => (rows, .error e)
  | .ok expected =>
    if claim.checkpoints ≠ expected.take claim.checkpoints.length then
      (rows, .error (.rejected "persisted Campaign Phase checkpoints drifted"))
    else
      match call.recordPhases 2 call.stop (expected.drop claim.checkpoints.length) rows with
      | (recorded, .error e) => (recorded, .error e)
      | (recorded, .ok reading) =>
        match call.finish records expected claim.attempt reading recorded with
        | .error e => (recorded, .error e)
        | .ok (completed, outcome) => (completed, .ok outcome)

/-- `CampaignOrchestrationService.execute`. -/
def CampaignSources.execute (sources : CampaignSources) (rows : List OrchestrationRow)
    (call : OrchestrationCall) :
    List OrchestrationRow × Except CampaignOrchestrationError CampaignOrchestrationOutcome :=
  match call.admission sources with
  | .error e => (rows, .error e)
  | .ok (records, ordered) =>
    match claimOrchestration rows call.plan call.now with
    | .error e => (rows, .error e)
    | .ok (claimed, claim) =>
      match claim.outcome with
      | some outcome => (claimed, .ok outcome)
      | none => call.carryOut records ordered claim claimed

/-- The rows after a call. -/
def CampaignSources.step (sources : CampaignSources) (rows : List OrchestrationRow)
    (call : OrchestrationCall) : List OrchestrationRow :=
  (sources.execute rows call).1

end VulnLoom

import VulnLoom.PromotionModels

/-!
# Promotion of an accepted intake

The ledger of promotions, in which six columns are unique, and the service that re-reads the
authority of a promotion, computes its outcome, claims the plan and completes it. A claimed plan
that was not completed is not taken up again.
-/

namespace VulnLoom

variable [PythonUrl] [ValidationDigests] [PromotionDigests]

/-! ## The ledger -/

/-- A row of `finding_promotions`. The row is completed when it has an outcome. -/
structure FindingPromotionRow where
  plan : FindingPromotionExecutionPlan
  startedAt : Time
  outcome : Option FindingPromotionOutcome

namespace FindingPromotionStore

/-- Two plans share a value of a unique column. -/
def shares (a b : FindingPromotionExecutionPlan) : Bool :=
  a.executionPlanId = b.executionPlanId ∨ a.idempotencyKey = b.idempotencyKey ∨
    a.intakeRecordId = b.intakeRecordId ∨ a.promotionPlanId = b.promotionPlanId ∨
    a.findingId = b.findingId ∨ a.approvalId = b.approvalId

def clash (a b : FindingPromotionRow) : Bool :=
  shares a.plan b.plan

/-- The columns of a completed row are those of the plan. -/
def agrees (row : FindingPromotionRow) (plan : FindingPromotionExecutionPlan)
    (outcome : FindingPromotionOutcome) : Bool :=
  row.plan.idempotencyKey = plan.idempotencyKey ∧ row.plan.intakeRecordId = plan.intakeRecordId ∧
    row.plan.promotionPlanId = plan.promotionPlanId ∧ row.plan.findingId = plan.findingId ∧
    row.plan.approvalId = plan.approvalId ∧ row.plan.approvalDigest = plan.approvalDigest ∧
    outcome.executionPlanId = plan.executionPlanId ∧ outcome.finding.findingId = plan.findingId

/-- The answer to a claim of a plan that shares a value with a row. -/
def reclaim (row : FindingPromotionRow) (plan : FindingPromotionExecutionPlan) :
    Except PromotionError FindingPromotionOutcome := do
  raiseIf (row.plan.executionPlanId ≠ plan.executionPlanId)
    (.conflict "Finding promotion input or Approval was consumed")
  let outcome ← orRaise row.outcome
    (.recoveryRequired "Finding promotion has unfinished STARTED checkpoint")
  raiseIf (agrees row plan outcome = false)
    (.recoveryRequired "Finding promotion checkpoint drifted")
  return outcome

/-- `FindingPromotionStore.claim` : the rows with a new one, or the outcome of an old one. -/
def claim (rows : List FindingPromotionRow) (plan : FindingPromotionExecutionPlan) (now : Time) :
    Except PromotionError (List FindingPromotionRow × Option FindingPromotionOutcome) :=
  match rows.find? fun row => shares row.plan plan with
  | some row => do
    let outcome ← reclaim row plan
    return (rows, some outcome)
  | none => do
    let claimed ← orRaise (Table.insert clash rows ⟨plan, now, none⟩) .integrityError
    return (claimed, none)

/-- The started row of a plan. -/
def awaits (executionPlanId : Digest) (row : FindingPromotionRow) : Bool :=
  row.plan.executionPlanId = executionPlanId ∧ row.outcome = none

/-- `FindingPromotionStore.complete`. -/
def complete (rows : List FindingPromotionRow) (outcome : FindingPromotionOutcome) :
    Except PromotionError (List FindingPromotionRow) := do
  raiseIf (Table.rowcount (awaits outcome.executionPlanId) rows ≠ 1)
    (.recoveryRequired "Finding promotion STARTED checkpoint is unavailable")
  return Table.update (awaits outcome.executionPlanId) ({ · with outcome := some outcome }) rows

/-- `FindingPromotionStore.load_completed`, with the row. -/
def loadCompleted (rows : List FindingPromotionRow) (executionPlanId : Digest) :
    Except PromotionError (FindingPromotionRow × FindingPromotionOutcome) := do
  let row ← orRaise (rows.find? fun row => row.plan.executionPlanId = executionPlanId)
    (.valueError "Finding promotion is unavailable")
  let outcome ← orRaise row.outcome
    (.recoveryRequired "Finding promotion has unfinished STARTED checkpoint")
  raiseIf (outcome.executionPlanId ≠ executionPlanId ∨
      outcome.approvalId ≠ row.plan.approvalId ∨
      outcome.approvalDigest ≠ row.plan.approvalDigest ∨
      outcome.intakeRecordId ≠ row.plan.intakeRecordId ∨
      outcome.promotionPlanId ≠ row.plan.promotionPlanId ∨
      outcome.finding.findingId ≠ row.plan.findingId)
    (.recoveryRequired "Finding promotion checkpoint drifted")
  return (row, outcome)

/-- `FindingPromotionStore.verify_plan`, once the row is read. -/
def verifyPlan (row : FindingPromotionRow) (outcome : FindingPromotionOutcome)
    (plan : FindingPromotionExecutionPlan) : Except PromotionError Unit :=
  raiseIf (agrees row plan outcome = false ∨ row.startedAt ≠ outcome.completedAt ∨
      ¬(plan.createdAt ≤ outcome.completedAt ∧ outcome.completedAt < plan.deadline))
    (.recoveryRequired "Finding promotion plan checkpoint drifted")

end FindingPromotionStore

/-! ## The service -/

/-- A call of `FindingPromotionService.execute`, with the service's scope and what its intake
service reads. -/
structure FindingPromotion where
  scope : Scope
  /-- the completed intake of a plan -/
  loadRecord : Digest → Option AgentFindingIntakeRecord
  /-- `load_authoritative`, for the call's binding plan, promotion plan and duplicate check -/
  loadAuthoritative : Time → Option (ValidationOutcome × CriticOutcome)
  /-- the target of the candidate that the promotion plan's critic binding leads to -/
  loadTargetId : Except PromotionError UUID
  plan : FindingPromotionExecutionPlan
  intakePlan : AgentFindingIntakePlan
  promotionPlan : FindingPromotionPlan
  duplicateCheck : FindingDuplicateCheck
  approval : PromotionApproval
  now : Time

namespace FindingPromotion

variable (x : FindingPromotion)

/-- `approval_action`. -/
def approvalAction (record : AgentFindingIntakeRecord) :
    Except PromotionError FindingPromotionApprovalAction := do
  let targetId ← x.loadTargetId
  return {
    engagementId := x.scope.engagementId
    targetId := targetId
    intakeRecordId := record.recordId
    intakeRecordDigest := record.recordId
    promotionPlanId := x.promotionPlan.promotionPlanId
    promotionPlanDigest := x.promotionPlan.promotionPlanId
    candidateId := x.promotionPlan.candidateId
    candidateDigest := x.promotionPlan.candidateDigest
    findingId := x.promotionPlan.findingId
    scopeId := x.scope.scopeId
    scopeVersion := x.scope.version
    expectedSideEffects := findingPromotionSideEffects }

/-- What `_load` hands on. -/
structure Loaded where
  record : AgentFindingIntakeRecord
  candidate : Candidate
  run : ValidationRun
  bundle : EvidenceBundle
  review : CriticReview

/-- The record accepts this promotion of this candidate. -/
def accepts (record : AgentFindingIntakeRecord) (candidate : Candidate) (now : Time) : Bool :=
  record.decision = .accept ∧ record.reasonCode = .humanAcceptedExactPromotion ∧
    record.decidedAt ≤ now ∧ now < record.expiresAt ∧
    record.intakePlanId = x.intakePlan.intakePlanId ∧
    record.criticOutcomeBindingId = x.intakePlan.criticOutcomeBindingId ∧
    record.promotionPlanId = x.promotionPlan.promotionPlanId ∧
    record.promotionPlanDigest = x.promotionPlan.promotionPlanId ∧
    record.candidateId = candidate.candidateId ∧ record.findingId = x.promotionPlan.findingId ∧
    candidate.state = .criticReviewed

/-- `_load`. -/
def load (now : Time) : Except PromotionError Loaded := do
  let unavailable := PromotionError.rejected "Finding promotion authoritative input unavailable"
  let drifted := PromotionError.rejected "Finding promotion Intake or Approval drifted"
  let record ← orRaise (x.loadRecord x.intakePlan.intakePlanId) unavailable
  let (validation, critic) ← orRaise (x.loadAuthoritative now) unavailable
  let action ← x.approvalAction record
  raiseIf (x.scope.isCurrent now = false ∨ x.accepts record critic.candidate now = false) drifted
  let bundle ← orRaise validation.evidenceBundle drifted
  raiseIf (x.approval.allows x.scope critic.candidate.targetId (canonicalDigest action)
    findingPromotionSideEffects record.decidedAt now = false) drifted
  return ⟨record, critic.candidate, validation.validationRun, bundle, critic.review⟩

/-- The last moment that all the authorities of a promotion allow. -/
def authorityEnd (record : AgentFindingIntakeRecord) : Time :=
  [x.intakePlan.decisionDeadline, record.expiresAt, x.promotionPlan.deadline,
    x.duplicateCheck.expiresAt, x.approval.expiresAt].foldl min x.scope.validUntil

/-- `prepare`, for the window and the key of a plan. -/
def prepare (createdAt deadline : Time) (idempotencyKey : String) :
    Except PromotionError FindingPromotionExecutionPlan := do
  let loaded ← x.load createdAt
  raiseIf (x.authorityEnd loaded.record < deadline)
    (.rejected "Finding promotion deadline exceeds active authority")
  let action ← x.approvalAction loaded.record
  if window : createdAt < deadline then
    return {
      approvalActionId := canonicalDigest action
      approvalId := x.approval.approvalId
      approvalDigest := canonicalDigest x.approval
      intakePlanId := x.intakePlan.intakePlanId
      intakeRecordId := loaded.record.recordId
      intakeRecordDigest := loaded.record.recordId
      promotionPlanId := x.promotionPlan.promotionPlanId
      promotionPlanDigest := x.promotionPlan.promotionPlanId
      candidateId := loaded.candidate.candidateId
      candidateDigest := candidateContentDigest loaded.candidate
      findingId := x.promotionPlan.findingId
      scopeId := x.scope.scopeId
      scopeVersion := x.scope.version
      createdAt := createdAt
      deadline := deadline
      idempotencyKey := idempotencyKey
      window := window }
  else .error (.rejected "Finding promotion deadline exceeds active authority")

/-- The promotion that the loaded authority allows. -/
def promote (loaded : Loaded) (now : Time) : Except PromotionError (Candidate × Finding) :=
  (promoteCandidate loaded.candidate x.scope now x.promotionPlan.claim [loaded.run] loaded.bundle
    loaded.review true x.promotionPlan.findingId).mapError fun _ =>
      .rejected "Finding promotion state transition rejected"

/-- The outcome of a promotion, validated. -/
def outcome (loaded : Loaded) (promoted : Candidate) (finding : Finding) (now : Time) :
    Except PromotionError FindingPromotionOutcome :=
  if h : promoted.state = .promoted ∧ finding.candidateId = promoted.candidateId ∧
      finding.validationRunIds ≠ [] then
    .ok {
      executionPlanId := x.plan.executionPlanId
      approvalActionId := x.plan.approvalActionId
      approvalId := x.plan.approvalId
      approvalDigest := x.plan.approvalDigest
      intakeRecordId := loaded.record.recordId
      promotionPlanId := x.promotionPlan.promotionPlanId
      promotionPlanDigest := x.promotionPlan.promotionPlanId
      sourceCandidateDigest := candidateContentDigest loaded.candidate
      promotedCandidate := promoted
      finding := finding
      completedAt := now
      promoted := h.1
      candidate := h.2.1
      verified := h.2.2 }
  else .error (.validationError "Finding promotion outcome is not verified")

/-- `FindingPromotionService.preflight`. -/
def preflight (now : Time) : Except PromotionError FindingPromotionOutcome := do
  raiseIf (now < x.plan.createdAt ∨ x.plan.deadline ≤ now)
    (.timedOut "Finding promotion is outside its execution window")
  let loaded ← x.load now
  let expected ← x.prepare x.plan.createdAt x.plan.deadline x.plan.idempotencyKey
  raiseIf (expected ≠ x.plan) (.rejected "Finding promotion execution plan drifted")
  let (promoted, finding) ← x.promote loaded now
  x.outcome loaded promoted finding now

/-- `FindingPromotionService.load_verified`. -/
def loadVerified (rows : List FindingPromotionRow) :
    Except PromotionError FindingPromotionOutcome := do
  let _ ← x.preflight x.now
  let (row, outcome) ← FindingPromotionStore.loadCompleted rows x.plan.executionPlanId
  FindingPromotionStore.verifyPlan row outcome x.plan
  let expected ← x.preflight outcome.completedAt
  raiseIf (x.now < outcome.completedAt ∨ outcome ≠ expected)
    (.rejected "Finding promotion completed outcome drifted")
  return outcome

/-- A promotion up to its claim : it is to be completed, or was completed before. -/
def begin (rows : List FindingPromotionRow) :
    Except PromotionError (List FindingPromotionRow × FindingPromotionOutcome × Bool) := do
  let outcome ← x.preflight x.now
  let (claimed, earlier) ← FindingPromotionStore.claim rows x.plan x.now
  return (claimed, outcome, earlier.isNone)

end FindingPromotion

end VulnLoom

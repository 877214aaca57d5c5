import VulnLoom.ReportStore
import VulnLoom.Transition

/-!
# Human review and local export

The two services over one artifact store and their two ledgers. A process may die after the
claim of a call, or after it has put the report and before it completes. `report_decisions_iff` :
each report has one decision, one export and no export with a rejection in every state of a run
exactly when each call that is to be recorded finds none that speaks against it.
-/

namespace VulnLoom

open Transition

/-- `Evidence`, as far as the review reads it. -/
structure ReviewEvidence where
  evidenceId : Digest
  targetVersion : String
  contentRef : String

/-- Where the process of a call dies. -/
inductive ReportInterruption
  | afterClaim
  | afterPut
  deriving DecidableEq

/-- A call of `HumanReportReviewService.review`, with the service's scope and what its evidence
store returns. -/
structure ReviewCall where
  scope : Scope
  readText : ReviewEvidence → Option String
  report : Report
  artifact : ReportArtifact
  evidenceBundle : EvidenceBundle
  evidence : List ReviewEvidence
  plan : ReportReviewPlan
  command : ReportReviewCommand
  now : Time
  previousReport : Option Report
  reportDiff : Option ReportDiff
  dies : Option ReportInterruption

/-- A call of `LocalReportExportService.export`. -/
structure ExportCall where
  scope : Scope
  report : Report
  artifact : ReportArtifact
  review : ReportReviewRecord
  plan : ReportExportPlan
  now : Time
  dies : Option ReportInterruption

structure ReportWorkflow where
  artifacts : ReportArtifactStore
  reviews : List ReviewRow
  exports : List ExportRow

section

variable [IngestionDigests] [PythonAlnum] [ReportJson] [CanonicalDigest Report] [ReportDigests]

/-! ## Review -/

namespace ReviewCall

variable (call : ReviewCall)

/-- `_scope_preflight`. -/
def scopePreflight : Except ReportError Unit := do
  raiseIf (call.scope.state ≠ .approved)
    (.reviewRejected "Report workflow requires an approved Scope")
  raiseIf (¬(call.scope.validFrom ≤ call.now ∧ call.now < call.scope.validUntil))
    (.reviewRejected "Report workflow is outside the Scope validity window")
  raiseIf (call.report.scopeId ≠ call.scope.scopeId ∨
      call.report.scopeVersion ≠ call.scope.version)
    (.reviewRejected "Report is bound to another Scope version")

/-- The plan, the command and the sealed inputs name one another. -/
def Bound : Prop :=
  call.plan.reportId = call.report.reportId ∧
    call.plan.reportFamilyId = call.report.reportFamilyId ∧
    call.plan.reportVersion = call.report.version ∧
    call.plan.reportDigest = canonicalDigest call.report ∧
    call.plan.artifactDigest = canonicalDigest call.artifact ∧
    call.plan.evidenceBundleId = call.evidenceBundle.bundleId ∧
    call.plan.evidenceBundleDigest = canonicalDigest call.evidenceBundle ∧
    call.plan.scopeId = call.scope.scopeId ∧ call.plan.scopeVersion = call.scope.version ∧
    call.command.planId = call.plan.planId ∧ call.command.reportId = call.report.reportId ∧
    call.command.reportDigest = canonicalDigest call.report ∧
    call.command.reviewer = call.plan.reviewer ∧
    call.plan.createdAt ≤ call.command.decidedAt ∧
    call.command.decidedAt < call.plan.deadline ∧ call.command.decidedAt ≤ call.now

instance : Decidable call.Bound :=
  inferInstanceAs (Decidable (_ ∧ _))

/-- `_evidence_preflight` of one reference of the bundle. -/
def checkEvidence (ref : Digest) : Except ReportError Unit := do
  let item ← orRaise (call.evidence.find? fun item => item.evidenceId = ref)
    (.reviewRejected "Report review Evidence catalog is incomplete")
  raiseIf (item.targetVersion ≠ call.report.targetVersion)
    (.reviewRejected "Report review Evidence targets another version")
  let _ ← orRaise (call.readText item)
    (.reviewRejected "Report review Evidence is unavailable or corrupt")

/-- `_evidence_preflight`. -/
def evidencePreflight : Except ReportError Unit := do
  raiseIf (call.report.evidenceBundleId ≠ call.evidenceBundle.bundleId ∨
      call.report.candidateId ≠ call.evidenceBundle.candidateId ∨
      ¬∀ ref ∈ call.report.evidenceRefs, ref ∈ call.evidenceBundle.evidenceRefs)
    (.reviewRejected "Report Evidence references exceed its Finding bundle")
  raiseIf (¬(call.evidence.map (·.evidenceId)).Nodup ∨
      ¬∀ ref ∈ call.evidenceBundle.evidenceRefs, ref ∈ call.evidence.map (·.evidenceId))
    (.reviewRejected "Report review Evidence catalog is incomplete")
  call.evidenceBundle.evidenceRefs.forM call.checkEvidence

/-- What `_preflight` asks of the predecessor of a report. -/
def diffPreflight : Except ReportError Unit :=
  if call.report.version = 1 then
    raiseIf (call.previousReport ≠ none ∨ call.reportDiff ≠ none ∨ call.plan.diffId ≠ none)
      (.reviewRejected "the first Report version cannot bind a revision diff")
  else
    match call.previousReport, call.reportDiff with
    | some previous, some diff => do
      let expected ← diffReports previous call.report
      raiseIf (diff ≠ expected ∨ call.plan.diffId ≠ some expected.diffId)
        (.reviewRejected "Report review diff binding is invalid")
    | _, _ => .error
      (.reviewRejected "revised Report review requires its predecessor and diff")

/-- `_preflight`. -/
def preflight (artifacts : ReportArtifactStore) : Except ReportError Unit := do
  raiseIf (call.report.reviewStatus ≠ .draft)
    (.reviewRejected "only a draft Report can enter human review")
  call.scopePreflight
  raiseIf (call.now < call.plan.createdAt ∨ call.plan.deadline ≤ call.now)
    (.reviewRejected "ReportReviewPlan is not currently valid")
  raiseIf (call.scope.validUntil < call.plan.approvalExpiresAt)
    (.reviewRejected "Report approval cannot outlive the authorized Scope")
  raiseIf (¬call.Bound) (.reviewRejected "human review bindings do not match sealed inputs")
  let persisted ← artifacts.readReport call.artifact
  raiseIf (persisted ≠ call.report ∨ call.artifact.reportDigest ≠ canonicalDigest call.report)
    (.reviewRejected "reviewed Report artifact does not match Report content")
  call.evidencePreflight
  call.diffPreflight

/-- The report with its decision. -/
def reviewed : Report :=
  call.report.withStatus call.command.decision.status

/-- The outcome of a decision : the record is validated, then the outcome. -/
def outcome (artifact : ReportArtifact) : Except ReportError ReportReviewOutcome := do
  if expires : call.command.decidedAt < call.plan.approvalExpiresAt then
    let outcome : ReportReviewOutcome := {
      planId := call.plan.planId
      report := call.reviewed
      artifact := artifact
      review := {
        planId := call.plan.planId
        commandId := call.command.commandId
        reportId := call.report.reportId
        reportFamilyId := call.report.reportFamilyId
        reportVersion := call.report.version
        reviewedReportDigest := canonicalDigest call.report
        resultingReportDigest := canonicalDigest call.reviewed
        reviewer := call.command.reviewer
        decision := call.command.decision
        rationaleCode := call.command.rationaleCode
        diffId := call.plan.diffId
        decidedAt := call.command.decidedAt
        expiresAt := call.plan.approvalExpiresAt
        expires := expires }
      completedAt := call.now }
    outcome.check
    return outcome
  else .error (.validationError "Report review approval must expire after its decision")

end ReviewCall

namespace ReportWorkflow

variable (flow : ReportWorkflow)

/-- What `review` does once it has claimed. -/
def decide (call : ReviewCall) : ReportWorkflow × Except ReportError ReportReviewOutcome :=
  if call.dies = some .afterClaim then (flow, .error .interrupted)
  else
    match do
      let reviewed ← applyReviewDecision call.report call.command.decision
      flow.artifacts.put reviewed with
    | .error e => (flow, .error e)
    | .ok (artifacts, artifact) =>
      let put : ReportWorkflow := { flow with artifacts := artifacts }
      if call.dies = some .afterPut then (put, .error .interrupted)
      else
        match do
          let outcome ← call.outcome artifact
          let rows ← completeReview flow.reviews outcome call.command.commandId
          return (rows, outcome) with
        | .error e => (put, .error e)
        | .ok (rows, outcome) => ({ put with reviews := rows }, .ok outcome)

/-- `HumanReportReviewService.review`. -/
def review (call : ReviewCall) : ReportWorkflow × Except ReportError ReportReviewOutcome :=
  match do
    call.preflight flow.artifacts
    claimReview flow.reviews call.plan call.command call.now with
  | .error e => (flow, .error e)
  | .ok (rows, some outcome) => ({ flow with reviews := rows }, .ok outcome)
  | .ok (rows, none) => { flow with reviews := rows }.decide call

end ReportWorkflow

/-! ## Export -/

namespace ExportCall

variable (call : ExportCall)

/-- The plan, the review and the report name one another. -/
def Bound : Prop :=
  call.report.scopeId = call.scope.scopeId ∧ call.report.scopeVersion = call.scope.version ∧
    call.plan.scopeId = call.scope.scopeId ∧ call.plan.scopeVersion = call.scope.version ∧
    call.plan.reportId = call.report.reportId ∧
    call.plan.reportDigest = canonicalDigest call.report ∧
    call.plan.artifactDigest = canonicalDigest call.artifact ∧
    call.plan.reviewId = call.review.reviewId ∧
    call.plan.reviewDigest = canonicalDigest call.review ∧ call.review.decision = .approve ∧
    call.review.reportId = call.report.reportId ∧
    call.review.resultingReportDigest = canonicalDigest call.report ∧
    call.review.resultingStatus = .humanApproved

instance : Decidable call.Bound :=
  inferInstanceAs (Decidable (_ ∧ _))

/-- `_preflight`. -/
def preflight (artifacts : ReportArtifactStore) : Except ReportError Unit := do
  raiseIf (call.report.reviewStatus ≠ .humanApproved)
    (.reviewRejected "local export requires a human-approved Report")
  raiseIf (call.scope.state ≠ .approved)
    (.reviewRejected "local export requires an approved Scope")
  raiseIf (¬(call.scope.validFrom ≤ call.now ∧ call.now < call.scope.validUntil))
    (.reviewRejected "local export is outside the Scope validity window")
  raiseIf (call.now < call.plan.createdAt ∨ call.plan.deadline ≤ call.now ∨
      call.review.expiresAt ≤ call.now)
    (.reviewRejected "local export plan or human approval has expired")
  raiseIf (¬call.Bound)
    (.reviewRejected "local export bindings do not match approved Report")
  let persisted ← artifacts.readReport call.artifact
  raiseIf (persisted ≠ call.report)
    (.reviewRejected "approved Report artifact is unavailable or altered")

/-- The report, marked as exported. -/
def exported : Report :=
  call.report.withStatus .exported

/-- The outcome of an export. -/
def outcome (artifact : ReportArtifact) : Except ReportError ReportExportOutcome := do
  let outcome : ReportExportOutcome := {
    planId := call.plan.planId
    report := call.exported
    artifact := artifact
    review := call.review
    completedAt := call.now }
  outcome.check
  return outcome

end ExportCall

namespace ReportWorkflow

variable (flow : ReportWorkflow)

/-- What `export` does once it has claimed. -/
def release (call : ExportCall) : ReportWorkflow × Except ReportError ReportExportOutcome :=
  if call.dies = some .afterClaim then (flow, .error .interrupted)
  else
    match do
      let exported ← markReportExported call.report
      flow.artifacts.put exported with
    | .error e => (flow, .error e)
    | .ok (artifacts, artifact) =>
      let put : ReportWorkflow := { flow with artifacts := artifacts }
      if call.dies = some .afterPut then (put, .error .interrupted)
      else
        match do
          let outcome ← call.outcome artifact
          let rows ← completeExport flow.exports outcome
          return (rows, outcome) with
        | .error e => (put, .error e)
        | .ok (rows, outcome) => ({ put with exports := rows }, .ok outcome)

/-- `LocalReportExportService.export`. -/
def exportReport (call : ExportCall) :
    ReportWorkflow × Except ReportError ReportExportOutcome :=
  match do
    call.preflight flow.artifacts
    claimExport flow.exports call.plan call.now with
  | .error e => (flow, .error e)
  | .ok (rows, some outcome) => ({ flow with exports := rows }, .ok outcome)
  | .ok (rows, none) => { flow with exports := rows }.release call

end ReportWorkflow

/-- A call of either service, or what anyone else leaves in the directory of the artifacts. -/
inductive ReportCall
  | review (call : ReviewCall)
  | exportReport (call : ExportCall)
  | files (objects : List ReportObject)

def ReportWorkflow.step (flow : ReportWorkflow) : ReportCall → ReportWorkflow
  | .review call => (flow.review call).1
  | .exportReport call => (flow.exportReport call).1
  | .files objects => { flow with artifacts := { flow.artifacts with objects := objects } }

end

end VulnLoom

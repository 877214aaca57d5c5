import VulnLoom.CandidateModels
import VulnLoom.Reports

/-!
# Report stores

The content-addressed store of report artifacts, the sealed requests and records of human review
and local export, and the two tables that checkpoint them. A review has the keys of its command,
its plan and its idempotency key, an export those of its plan and its idempotency key. No key is
of the report.
-/

namespace VulnLoom

/-! ## Artifacts -/

/-- `ReportArtifact`. Its references are forced by the digest of its report. -/
structure ReportArtifact where
  reportDigest : Digest
  markdownSha256 : Digest
  jsonSha256 : Digest

/-- A directory of the store. A file is `none` where it is not one that the store reads. -/
structure ReportObject where
  reportDigest : Digest
  json : Option Bytes
  markdown : Option Bytes

structure ReportArtifactStore where
  maxArtifactBytes : ℕ
  objects : List ReportObject

/-- The JSON form of a report. -/
class ReportJson where
  modelDumpJson : Report → String
  modelValidateJson : Bytes → Option Report

export ReportJson (modelDumpJson modelValidateJson)

section

variable [IngestionDigests] [PythonAlnum] [ReportJson] [CanonicalDigest Report]

namespace ReportArtifactStore

variable (store : ReportArtifactStore)

/-- `_check_size`. -/
def checkSize (content : Bytes) : Except ReportError Unit :=
  raiseIf (store.maxArtifactBytes < content.length)
    (.valueError "Report artifact exceeds the configured size limit")

/-- `_read`, of a file of the directory. -/
def readFile (file : Option Bytes) : Except ReportError Bytes := do
  let content ← orRaise file (.valueError "Report artifact is unavailable or unsafe")
  raiseIf (store.maxArtifactBytes < content.length)
    (.valueError "Report artifact is unavailable or unsafe")
  return content

/-- `read_report`, which verifies the artifact first. -/
def readReport (artifact : ReportArtifact) : Except ReportError Report := do
  let object ← orRaise (store.objects.find? fun object =>
      object.reportDigest = artifact.reportDigest)
    (.valueError "Report object directory is unavailable or unsafe")
  let json ← store.readFile object.json
  let markdown ← store.readFile object.markdown
  raiseIf (sha256 json ≠ artifact.jsonSha256) (.valueError "Report JSON integrity check failed")
  raiseIf (sha256 markdown ≠ artifact.markdownSha256)
    (.valueError "Report Markdown integrity check failed")
  let report ← orRaise (modelValidateJson json) (.validationError "Report")
  raiseIf (canonicalDigest report ≠ artifact.reportDigest)
    (.valueError "Report content identity mismatch")
  return report

/-- `put`. -/
def put (report : Report) : Except ReportError (ReportArtifactStore × ReportArtifact) := do
  raiseIf (∃ value ∈ report.narrative, ¬isRedacted value)
    (.valueError "Report contains content that has not passed redaction")
  let json := utf8 (modelDumpJson report ++ "\n")
  let markdown := utf8 (renderMarkdown report)
  store.checkSize json
  store.checkSize markdown
  let artifact : ReportArtifact := {
    reportDigest := canonicalDigest report
    markdownSha256 := sha256 markdown
    jsonSha256 := sha256 json }
  let stored :=
    if store.objects.any fun object => object.reportDigest = artifact.reportDigest then store
    else { store with objects := store.objects ++ [⟨artifact.reportDigest, json, markdown⟩] }
  let _ ← stored.readReport artifact
  return (stored, artifact)

theorem put_reportDigest {store' : ReportArtifactStore} {report : Report}
    {artifact : ReportArtifact} (h : store.put report = .ok (store', artifact)) :
    artifact.reportDigest = canonicalDigest report := by
  simp only [put, bind_eq_ok, pure_eq_ok, Prod.mk.injEq] at h
  obtain ⟨-, -, -, -, -, -, -, -, -, rfl⟩ := h
  rfl

end ReportArtifactStore

/-! ## Requests and records -/

structure ReportReviewPlan where
  reportId : UUID
  reportFamilyId : UUID
  reportVersion : ℕ
  reportDigest : Digest
  artifactDigest : Digest
  evidenceBundleId : UUID
  evidenceBundleDigest : Digest
  scopeId : UUID
  scopeVersion : ℕ
  reviewer : String
  diffId : Option Digest
  createdAt : Time
  deadline : Time
  approvalExpiresAt : Time
  idempotencyKey : String
  windows : createdAt < deadline ∧ deadline ≤ approvalExpiresAt
  diff_bound : reportVersion = 1 ↔ diffId = none

structure ReportReviewCommand where
  planId : Digest
  reportId : UUID
  reportDigest : Digest
  reviewer : String
  decision : ReviewDecisionKind
  rationaleCode : String
  decidedAt : Time

/-- `ReportReviewRecord`. Its identifier is forced by its command, its status by its
decision. -/
structure ReportReviewRecord where
  planId : Digest
  commandId : Digest
  reportId : UUID
  reportFamilyId : UUID
  reportVersion : ℕ
  reviewedReportDigest : Digest
  resultingReportDigest : Digest
  reviewer : String
  decision : ReviewDecisionKind
  rationaleCode : String
  diffId : Option Digest
  decidedAt : Time
  expiresAt : Time
  expires : decidedAt < expiresAt

structure ReportReviewOutcome where
  planId : Digest
  report : Report
  artifact : ReportArtifact
  review : ReportReviewRecord
  completedAt : Time

structure ReportExportPlan where
  reportId : UUID
  reportDigest : Digest
  artifactDigest : Digest
  reviewId : UUID
  reviewDigest : Digest
  scopeId : UUID
  scopeVersion : ℕ
  createdAt : Time
  deadline : Time
  idempotencyKey : String
  window : createdAt < deadline

structure ReportExportOutcome where
  planId : Digest
  report : Report
  artifact : ReportArtifact
  review : ReportReviewRecord
  completedAt : Time

/-- The content digests of the reporting records. -/
class ReportDigests where
  artifact : CanonicalDigest ReportArtifact
  bundle : CanonicalDigest EvidenceBundle
  diff : CanonicalDigest ReportDiff
  reviewPlan : CanonicalDigest ReportReviewPlan
  reviewCommand : CanonicalDigest ReportReviewCommand
  reviewRecord : CanonicalDigest ReportReviewRecord
  exportPlan : CanonicalDigest ReportExportPlan

attribute [reducible, instance] ReportDigests.artifact ReportDigests.bundle ReportDigests.diff
  ReportDigests.reviewPlan ReportDigests.reviewCommand ReportDigests.reviewRecord
  ReportDigests.exportPlan

variable [ReportDigests]

def ReportDiff.diffId (diff : ReportDiff) : Digest :=
  canonicalDigest diff

def ReportReviewPlan.planId (plan : ReportReviewPlan) : Digest :=
  canonicalDigest plan

def ReportReviewCommand.commandId (command : ReportReviewCommand) : Digest :=
  canonicalDigest command

def ReportExportPlan.planId (plan : ReportExportPlan) : Digest :=
  canonicalDigest plan

def ReportReviewRecord.reviewId (review : ReportReviewRecord) : UUID :=
  uuid5 ("vulnloom:report-review:" ++ review.commandId)

def ReportReviewRecord.resultingStatus (review : ReportReviewRecord) : ReportReviewStatus :=
  review.decision.status

/-- The validator of `ReportReviewOutcome`. -/
def ReportReviewOutcome.check (outcome : ReportReviewOutcome) : Except ReportError Unit :=
  raiseIf (outcome.planId ≠ outcome.review.planId ∨
      outcome.report.reportId ≠ outcome.review.reportId ∨
      outcome.report.reviewStatus ≠ outcome.review.resultingStatus ∨
      canonicalDigest outcome.report ≠ outcome.review.resultingReportDigest ∨
      outcome.artifact.reportDigest ≠ canonicalDigest outcome.report)
    (.validationError "ReportReviewOutcome bindings are inconsistent")

/-- The validator of `ReportExportOutcome`. -/
def ReportExportOutcome.check (outcome : ReportExportOutcome) : Except ReportError Unit :=
  raiseIf (outcome.report.reviewStatus ≠ .exported ∨
      outcome.report.reportId ≠ outcome.review.reportId ∨
      outcome.review.resultingStatus ≠ .humanApproved ∨
      outcome.artifact.reportDigest ≠ canonicalDigest outcome.report)
    (.validationError "ReportExportOutcome bindings are inconsistent")

/-! ## Checkpoints -/

inductive ReportCheckpointState
  | started
  | completed
  deriving DecidableEq

/-- A row of `report_reviews`. -/
structure ReviewRow where
  commandId : Digest
  planId : Digest
  idempotencyKey : String
  state : ReportCheckpointState
  startedAt : Time
  completedAt : Option Time
  outcome : Option ReportReviewOutcome

/-- A row of `report_exports`. -/
structure ExportRow where
  planId : Digest
  idempotencyKey : String
  state : ReportCheckpointState
  startedAt : Time
  completedAt : Option Time
  outcome : Option ReportExportOutcome

/-- The keys of `report_reviews`. -/
def reviewClash (a b : ReviewRow) : Bool :=
  a.commandId = b.commandId ∨ a.planId = b.planId ∨ a.idempotencyKey = b.idempotencyKey

/-- The keys of `report_exports`. -/
def exportClash (a b : ExportRow) : Bool :=
  a.planId = b.planId ∨ a.idempotencyKey = b.idempotencyKey

/-- The row a claim of a review inserts. -/
def reviewRow (plan : ReportReviewPlan) (command : ReportReviewCommand) (now : Time) :
    ReviewRow where
  commandId := command.commandId
  planId := plan.planId
  idempotencyKey := plan.idempotencyKey
  state := .started
  startedAt := now
  completedAt := none
  outcome := none

/-- The row a claim of an export inserts. -/
def exportRow (plan : ReportExportPlan) (now : Time) : ExportRow where
  planId := plan.planId
  idempotencyKey := plan.idempotencyKey
  state := .started
  startedAt := now
  completedAt := none
  outcome := none

/-- `ReportReviewStore.claim` : the rows after it, and the outcome that is there already. -/
def claimReview (rows : List ReviewRow) (plan : ReportReviewPlan)
    (command : ReportReviewCommand) (now : Time) :
    Except ReportError (List ReviewRow × Option ReportReviewOutcome) :=
  match Table.insert reviewClash rows (reviewRow plan command now) with
  | some claimed => .ok (claimed, none)
  | none => do
    let row ← orRaise (rows.find? (reviewClash (reviewRow plan command now)))
      .integrityError
    raiseIf (row.commandId ≠ command.commandId ∨ row.planId ≠ plan.planId) (.workflowConflict
      "Report review plan or idempotency key was reused for different content")
    raiseIf (row.state = .started) (.recoveryRequired
      "Report review has an unfinished STARTED checkpoint")
    let outcome ← orRaise row.outcome (.validationError "ReportReviewOutcome")
    return (rows, some outcome)

/-- `ReportReviewStore.complete`. -/
def completeReview (rows : List ReviewRow) (outcome : ReportReviewOutcome)
    (commandId : Digest) : Except ReportError (List ReviewRow) := do
  let awaits : ReviewRow → Bool := fun row => row.commandId = commandId ∧ row.state = .started
  raiseIf (Table.rowcount awaits rows ≠ 1) (.recoveryRequired
    "Report review STARTED checkpoint is unavailable")
  return Table.update awaits (fun row => { row with
    state := .completed
    completedAt := some outcome.completedAt
    outcome := some outcome }) rows

/-- `ReportExportStore.claim`. -/
def claimExport (rows : List ExportRow) (plan : ReportExportPlan) (now : Time) :
    Except ReportError (List ExportRow × Option ReportExportOutcome) :=
  match Table.insert exportClash rows (exportRow plan now) with
  | some claimed => .ok (claimed, none)
  | none => do
    let row ← orRaise (rows.find? (exportClash (exportRow plan now)))
      .integrityError
    raiseIf (row.planId ≠ plan.planId) (.workflowConflict
      "Report export idempotency key was reused for different content")
    raiseIf (row.state = .started) (.recoveryRequired
      "Report export has an unfinished STARTED checkpoint")
    let outcome ← orRaise row.outcome (.validationError "ReportExportOutcome")
    return (rows, some outcome)

/-- `ReportExportStore.complete`. -/
def completeExport (rows : List ExportRow) (outcome : ReportExportOutcome) :
    Except ReportError (List ExportRow) := do
  let awaits : ExportRow → Bool := fun row =>
    row.planId = outcome.planId ∧ row.state = .started
  raiseIf (Table.rowcount awaits rows ≠ 1) (.recoveryRequired
    "Report export STARTED checkpoint is unavailable")
  return Table.update awaits (fun row => { row with
    state := .completed
    completedAt := some outcome.completedAt
    outcome := some outcome }) rows

end

end VulnLoom

import VulnLoom.ReportReview

/-!
# Report drafts

`DeterministicReportService.draft` : a sealed plan is checked against its inputs, claimed, redacted,
stored and completed. The inputs of a call are what the service was made with, what its evidence
store returns, and the arguments. `ReportRejected` is a `ValueError`.
-/

namespace VulnLoom

/-! ## Plans and outcomes -/

/-- `ReportDraftPlan`, with the conditions of its validator. Its family is forced by its finding
and its channel. -/
structure ReportDraftPlan where
  version : ℕ
  previousReportDigest : Option Digest
  findingId : UUID
  findingDigest : Digest
  candidateId : UUID
  candidateDigest : Digest
  evidenceBundleId : UUID
  evidenceBundleDigest : Digest
  scopeId : UUID
  scopeVersion : ℕ
  channel : ReportChannel
  title : String
  sections : List ReportSection
  preparedBy : String
  createdAt : Time
  deadline : Time
  idempotencyKey : String
  versions : 1 ≤ version ∧ 1 ≤ scopeVersion
  predecessor : version = 1 ↔ previousReportDigest = none
  title_bounds : 1 ≤ title.length ∧ title.length ≤ 512
  window : createdAt < deadline
  section_counts : (∀ kind, kind ≠ .reproduction → countKind sections kind = 1) ∧
    1 ≤ countKind sections .reproduction ∧ sections.length ≤ 32
  narrative_bound : (sections.map fun item => item.text.length).sum ≤ 65536
  key_bounds : (1 ≤ preparedBy.length ∧ preparedBy.length ≤ 256) ∧
    1 ≤ idempotencyKey.length ∧ idempotencyKey.length ≤ 256

structure ReportOutcome where
  planId : Digest
  report : Report
  artifact : ReportArtifact
  completedAt : Time

/-- A row of `report_executions`. -/
structure DraftRow where
  planId : Digest
  idempotencyKey : String
  state : ReportCheckpointState
  startedAt : Time
  completedAt : Option Time
  outcome : Option ReportOutcome

/-- The content digests of the drafting records. -/
class DraftDigests where
  plan : CanonicalDigest ReportDraftPlan
  finding : CanonicalDigest Finding
  candidate : CanonicalDigest Candidate

attribute [reducible, instance] DraftDigests.plan DraftDigests.finding DraftDigests.candidate

instance {p : ReportSectionKind → Prop} [DecidablePred p] : Decidable (∀ kind, p kind) :=
  decidable_of_iff (p .summary ∧ p .codeLocation ∧ p .requestResponse ∧ p .reproduction ∧
    p .impact ∧ p .remediation)
    ⟨fun ⟨_, _, _, _, _, _⟩ kind => by cases kind <;> assumption,
      fun h => ⟨h _, h _, h _, h _, h _, h _⟩⟩

variable [IngestionDigests] [PythonAlnum] [ReportJson] [CanonicalDigest Report] [ReportDigests]
  [DraftDigests]

namespace ReportDraftPlan

variable (plan : ReportDraftPlan)

def planId : Digest :=
  canonicalDigest plan

def reportFamilyId : UUID :=
  uuid5 ("vulnloom:report-family:" ++ plan.findingId ++ ":" ++ plan.channel.value)

/-- The citations of the sections. -/
def references : List Digest :=
  plan.sections.flatMap (·.evidenceRefs)

end ReportDraftPlan

/-! ## Checkpoints -/

/-- The keys of `report_executions`. -/
def draftClash (a b : DraftRow) : Bool :=
  a.planId = b.planId ∨ a.idempotencyKey = b.idempotencyKey

/-- The row a claim inserts. -/
def draftRow (plan : ReportDraftPlan) (now : Time) : DraftRow where
  planId := plan.planId
  idempotencyKey := plan.idempotencyKey
  state := .started
  startedAt := now
  completedAt := none
  outcome := none

/-- `ReportDraftStore.claim`. -/
def claimDraft (rows : List DraftRow) (plan : ReportDraftPlan) (now : Time) :
    Except ReportError (List DraftRow × Option ReportOutcome) :=
  match Table.insert draftClash rows (draftRow plan now) with
  | some claimed => .ok (claimed, none)
  | none => do
    let row ← orRaise (rows.find? (draftClash (draftRow plan now))) .integrityError
    raiseIf (row.planId ≠ plan.planId) (.workflowConflict
      "report idempotency key was reused for different content")
    raiseIf (row.state = .started) (.recoveryRequired
      "report has an unfinished STARTED checkpoint; automatic replay is refused")
    let outcome ← orRaise row.outcome (.validationError "ReportOutcome")
    return (rows, some outcome)

/-- The row of an outcome that waits for it. -/
def awaitsOutcome (outcome : ReportOutcome) (row : DraftRow) : Bool :=
  row.planId = outcome.planId ∧ row.state = .started

def DraftRow.completed (row : DraftRow) (outcome : ReportOutcome) : DraftRow :=
  { row with
    state := .completed
    completedAt := some outcome.completedAt
    outcome := some outcome }

/-- `ReportDraftStore.complete`. -/
def completeDraft (rows : List DraftRow) (outcome : ReportOutcome) :
    Except ReportError (List DraftRow) := do
  raiseIf (Table.rowcount (awaitsOutcome outcome) rows ≠ 1)
    (.recoveryRequired "report STARTED checkpoint is unavailable")
  return Table.update (awaitsOutcome outcome) (fun row => row.completed outcome) rows

/-! ## Drafting -/

/-- A call of `draft`. A candidate has a target version. -/
structure DraftCall where
  scope : Scope
  readText : ReviewEvidence → Option String
  redactor : Redactor
  finding : Finding
  findingState : String
  candidate : Candidate
  evidenceBundle : EvidenceBundle
  evidence : List ReviewEvidence
  plan : ReportDraftPlan
  now : Time
  previousReport : Option Report
  targetVersion_ne : candidate.targetVersion ≠ ""

/-- The artifacts and the checkpoints that the drafts share. -/
structure ReportDesk where
  artifacts : ReportArtifactStore
  drafts : List DraftRow

namespace DraftCall

variable (call : DraftCall)

/-- A plan of a later version names its predecessor. -/
def Follows (previous : Report) : Prop :=
  previous.reportFamilyId = call.plan.reportFamilyId ∧
    previous.version + 1 = call.plan.version ∧
    some (canonicalDigest previous) = call.plan.previousReportDigest ∧
    previous.findingId = call.finding.findingId ∧
    previous.candidateId = call.candidate.candidateId ∧
    previous.evidenceBundleId = call.evidenceBundle.bundleId ∧
    previous.scopeId = call.scope.scopeId ∧ previous.scopeVersion = call.scope.version

instance (previous : Report) : Decidable (call.Follows previous) :=
  inferInstanceAs (Decidable (_ ∧ _))

def checkPredecessor : Except ReportError Unit :=
  if call.plan.version = 1 then
    raiseIf (call.previousReport ≠ none)
      (.valueError "the first Report version cannot have a predecessor")
  else
    raiseIf (¬∃ previous ∈ call.previousReport, call.Follows previous)
      (.valueError "Report revision predecessor binding is invalid")

/-- The plan and the sealed inputs name one another. -/
def Bound : Prop :=
  call.finding.candidateId = call.candidate.candidateId ∧
    call.finding.evidenceBundleId = call.evidenceBundle.bundleId ∧
    call.evidenceBundle.candidateId = call.candidate.candidateId ∧
    call.plan.findingId = call.finding.findingId ∧
    call.plan.findingDigest = canonicalDigest call.finding ∧
    call.plan.candidateId = call.candidate.candidateId ∧
    call.plan.candidateDigest = canonicalDigest call.candidate ∧
    call.plan.evidenceBundleId = call.evidenceBundle.bundleId ∧
    call.plan.evidenceBundleDigest = canonicalDigest call.evidenceBundle

instance : Decidable call.Bound :=
  inferInstanceAs (Decidable (_ ∧ _))

/-- An item of the evidence bundle is in the catalog, of the version, and can be read. -/
def checkEvidence (ref : Digest) : Except ReportError Unit := do
  let item ← orRaise (call.evidence.find? fun item => item.evidenceId = ref)
    (.valueError "Report Evidence catalog does not cover the Finding bundle")
  raiseIf (item.targetVersion ≠ call.candidate.targetVersion)
    (.valueError "Report Evidence is bound to another Target version")
  let _ ← orRaise (call.readText item)
    (.valueError "Report Evidence is unavailable or corrupt")

/-- `_preflight`. -/
def preflight : Except ReportError Unit := do
  raiseIf (call.candidate.state ≠ .promoted ∨ call.findingState ≠ "verified")
    (.valueError "Report drafting requires a verified promoted Finding")
  raiseIf (call.scope.state ≠ .approved)
    (.valueError "Report drafting requires an approved Scope")
  raiseIf (¬(call.scope.validFrom ≤ call.now ∧ call.now < call.scope.validUntil))
    (.valueError "Report drafting is outside the Scope validity window")
  raiseIf (call.now < call.plan.createdAt ∨ call.plan.deadline ≤ call.now)
    (.valueError "ReportDraftPlan is not currently valid")
  raiseIf (call.plan.createdAt < call.evidenceBundle.sealedAt)
    (.valueError "ReportDraftPlan predates its EvidenceBundle")
  call.checkPredecessor
  raiseIf (call.candidate.scopeId ≠ call.scope.scopeId ∨
      call.candidate.scopeVersion ≠ call.scope.version ∨
      call.plan.scopeId ≠ call.scope.scopeId ∨ call.plan.scopeVersion ≠ call.scope.version)
    (.valueError "Report inputs are bound to another Scope version")
  raiseIf (¬call.Bound)
    (.valueError "ReportDraftPlan provenance does not match its sealed inputs")
  raiseIf (call.plan.references = [] ∨
      ¬∀ ref ∈ call.plan.references, ref ∈ call.evidenceBundle.evidenceRefs)
    (.valueError "Report citations exceed the Finding EvidenceBundle")
  raiseIf (¬(call.evidence.map (·.evidenceId)).Nodup)
    (.valueError "Report Evidence catalog contains duplicate identities")
  raiseIf (¬∀ ref ∈ call.evidenceBundle.evidenceRefs, ref ∈ call.evidence.map (·.evidenceId))
    (.valueError "Report Evidence catalog does not cover the Finding bundle")
  call.evidenceBundle.evidenceRefs.forM call.checkEvidence

/-- `evidence_store.read_text` of a citation, of which the text is not used. -/
def readCited (ref : Digest) : Except ReportError Unit := do
  let item ← orRaise (call.evidence.find? fun item => item.evidenceId = ref) (.valueError ref)
  let _ ← orRaise (call.readText item) (.valueError "Evidence object is unavailable or unsafe")

/-- A section with its text redacted. -/
def redactSection (item : ReportSection) : Except ReportError ReportSection :=
  if h : 1 ≤ (call.redactor.text item.text).length ∧
      (call.redactor.text item.text).length ≤ 8192 then
    .ok {
      kind := item.kind
      text := call.redactor.text item.text
      evidenceRefs := item.evidenceRefs
      text_bounds := h
      evidence_backed := item.evidence_backed }
  else .error (.validationError "ReportSection")

/-- The report of some sections, which its validator checks. -/
def assemble (sections : List ReportSection) : Except ReportError Report :=
  if h : (call.candidate.targetVersion ≠ "" ∧ call.redactor.text call.plan.title ≠ "") ∧
      (1 ≤ call.candidate.scopeVersion ∧ 1 ≤ call.plan.version) ∧
      (∀ kind, kind ≠ .reproduction → countKind sections kind = 1) ∧
        1 ≤ countKind sections .reproduction ∧ sections.length ≤ 32 then
    .ok {
      draftPlanId := call.plan.planId
      findingId := call.finding.findingId
      candidateId := call.candidate.candidateId
      evidenceBundleId := call.evidenceBundle.bundleId
      targetVersion := call.candidate.targetVersion
      scopeId := call.candidate.scopeId
      scopeVersion := call.candidate.scopeVersion
      channel := call.plan.channel
      version := call.plan.version
      title := call.redactor.text call.plan.title
      sections := sections
      reviewStatus := .draft
      nonempty := h.1
      versions := h.2.1
      section_counts := h.2.2 }
  else .error (.validationError "Report")

/-- What is made of a claimed plan before it is stored. -/
def report : Except ReportError Report := do
  call.plan.references.forM call.readCited
  let sections ← call.plan.sections.mapM call.redactSection
  call.assemble sections

end DraftCall

/-- What `draft` does once it has claimed. -/
def ReportDesk.settle (desk : ReportDesk) (call : DraftCall) :
    ReportDesk × Except ReportError ReportOutcome :=
  match call.report with
  | .error e => (desk, .error e)
  | .ok report =>
    match desk.artifacts.put report with
    | .error e => (desk, .error e)
    | .ok (stored, artifact) =>
      let outcome : ReportOutcome := {
        planId := call.plan.planId
        report := report
        artifact := artifact
        completedAt := call.now }
      match completeDraft desk.drafts outcome with
      | .error e => ({ desk with artifacts := stored }, .error e)
      | .ok rows => (⟨stored, rows⟩, .ok outcome)

/-- `DeterministicReportService.draft`. -/
def ReportDesk.draft (desk : ReportDesk) (call : DraftCall) :
    ReportDesk × Except ReportError ReportOutcome :=
  match call.preflight with
  | .error e => (desk, .error e)
  | .ok () =>
    match claimDraft desk.drafts call.plan call.now with
    | .error e => (desk, .error e)
    | .ok (rows, some outcome) => ({ desk with drafts := rows }, .ok outcome)
    | .ok (rows, none) => ReportDesk.settle { desk with drafts := rows } call

end VulnLoom

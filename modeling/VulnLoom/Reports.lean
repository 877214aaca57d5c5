import VulnLoom.Redaction
import VulnLoom.IngestionModels
import VulnLoom.Table

/-!
# Reports

A report, its Markdown, and the difference of two consecutive versions. What the validator of a
report forces to equal something else of the report (its identifiers, its summary fields, its
evidence index) is a function of the report. `ReportJson` is the JSON form of pydantic.
-/

namespace VulnLoom

/-! ## Records -/

inductive ReportChannel
  | generic
  | edusrc
  | cnvd
  | vendor
  | cveDraft
  deriving DecidableEq

def ReportChannel.value : ReportChannel → String
  | .generic => "generic"
  | .edusrc => "edusrc"
  | .cnvd => "cnvd"
  | .vendor => "vendor"
  | .cveDraft => "cve-draft"

inductive ReportSectionKind
  | summary
  | codeLocation
  | requestResponse
  | reproduction
  | impact
  | remediation
  deriving DecidableEq

def ReportSectionKind.value : ReportSectionKind → String
  | .summary => "summary"
  | .codeLocation => "code_location"
  | .requestResponse => "request_response"
  | .reproduction => "reproduction"
  | .impact => "impact"
  | .remediation => "remediation"

inductive ReportReviewStatus
  | draft
  | changesRequested
  | rejected
  | humanApproved
  | exported
  | submitted
  deriving DecidableEq

/-- The sections that cite evidence. -/
def ReportSectionKind.evidenceRequired : List ReportSectionKind :=
  [.codeLocation, .requestResponse, .reproduction, .impact]

structure ReportSection where
  kind : ReportSectionKind
  text : String
  evidenceRefs : List Digest
  text_bounds : 1 ≤ text.length ∧ text.length ≤ 8192
  evidence_backed : kind ∈ ReportSectionKind.evidenceRequired → evidenceRefs ≠ []
  deriving DecidableEq

/-- How many sections are of a kind. -/
def countKind (sections : List ReportSection) (kind : ReportSectionKind) : ℕ :=
  sections.countP fun item => item.kind = kind

/-- `Report`, with the conditions of its validator. -/
@[ext]
structure Report where
  draftPlanId : Digest
  findingId : UUID
  candidateId : UUID
  evidenceBundleId : UUID
  targetVersion : String
  scopeId : UUID
  scopeVersion : ℕ
  channel : ReportChannel
  version : ℕ
  title : String
  sections : List ReportSection
  reviewStatus : ReportReviewStatus
  nonempty : targetVersion ≠ "" ∧ title ≠ ""
  versions : 1 ≤ scopeVersion ∧ 1 ≤ version
  section_counts : (∀ kind, kind ≠ .reproduction → countKind sections kind = 1) ∧
    1 ≤ countKind sections .reproduction ∧ sections.length ≤ 32

instance : DecidableEq Report := fun _ _ => decidable_of_iff _ Report.ext_iff.symm

namespace Report

variable (report : Report)

/-- The text of the section of a kind. -/
def textOf (kind : ReportSectionKind) : String :=
  ((report.sections.filter fun item => item.kind = kind).getLast?.map (·.text)).getD ""

def summary : String :=
  report.textOf .summary

def impact : String :=
  report.textOf .impact

def remediation : String :=
  report.textOf .remediation

def reproduction : List String :=
  (report.sections.filter fun item => item.kind = .reproduction).map (·.text)

/-- The evidence index : the citations of the sections, each where it is cited first. -/
def evidenceRefs : List Digest :=
  (report.sections.flatMap (·.evidenceRefs)).reverse.dedup.reverse

/-- `model_copy` with another review status. -/
def withStatus (status : ReportReviewStatus) : Report :=
  { report with reviewStatus := status }

@[simp] theorem withStatus_reviewStatus (status : ReportReviewStatus) :
    (report.withStatus status).reviewStatus = status :=
  rfl

variable [IngestionDigests]

def reportId : UUID :=
  uuid5 ("vulnloom:report:" ++ report.draftPlanId)

def reportFamilyId : UUID :=
  uuid5 ("vulnloom:report-family:" ++ report.findingId ++ ":" ++ report.channel.value)

@[simp] theorem withStatus_reportId (status : ReportReviewStatus) :
    (report.withStatus status).reportId = report.reportId :=
  rfl

end Report

/-- An exception of the reporting services. -/
inductive ReportError
  | reviewRejected (reason : String)
  | transitionRejected (reason : String)
  | workflowConflict (reason : String)
  | recoveryRequired (reason : String)
  | valueError (reason : String)
  | validationError (reason : String)
  | integrityError
  | interrupted
  deriving DecidableEq

/-! ## Markdown -/

/-- `_HEADINGS`. -/
def heading : ReportChannel → ReportSectionKind → String
  | .generic, .summary => "Summary"
  | .generic, .codeLocation => "Code location"
  | .generic, .requestResponse => "Request and response observation"
  | .generic, .reproduction => "Reproduction"
  | .generic, .impact => "Impact"
  | .generic, .remediation => "Remediation"
  | .edusrc, .summary => "漏洞概述"
  | .edusrc, .codeLocation => "代码位置"
  | .edusrc, .requestResponse => "请求与响应观测"
  | .edusrc, .reproduction => "复现步骤"
  | .edusrc, .impact => "漏洞影响"
  | .edusrc, .remediation => "修复建议"
  | .cnvd, .summary => "漏洞描述"
  | .cnvd, .codeLocation => "受影响位置"
  | .cnvd, .requestResponse => "验证观测"
  | .cnvd, .reproduction => "验证步骤"
  | .cnvd, .impact => "危害"
  | .cnvd, .remediation => "修复方案"
  | .vendor, .summary => "Executive summary"
  | .vendor, .codeLocation => "Affected code"
  | .vendor, .requestResponse => "Observed behavior"
  | .vendor, .reproduction => "Reproduction steps"
  | .vendor, .impact => "Security impact"
  | .vendor, .remediation => "Recommended remediation"
  | .cveDraft, .summary => "Description"
  | .cveDraft, .codeLocation => "Affected component"
  | .cveDraft, .requestResponse => "Technical observation"
  | .cveDraft, .reproduction => "Reproduction"
  | .cveDraft, .impact => "Impact"
  | .cveDraft, .remediation => "Remediation"

/-- What a character of a text becomes in `_escape_markdown`. The replacements of the source
run one after the other; none of them makes a character that a later one replaces. -/
def escapeCharacter (c : Char) : List Char :=
  if c ∈ ['\\', '\x60', '!', '[', ']'] then ['\\', c]
  else if c = '&' then "&amp;".toList
  else if c = '<' then "&lt;".toList
  else if c = '>' then "&gt;".toList
  else [c]

def escapeMarkdown (value : String) : List Char :=
  value.toList.flatMap escapeCharacter

/-- A text between backticks. -/
def codeSpan (value : List Char) : List Char :=
  '\x60' :: value ++ ['\x60']

/-- The lines of the sections; `index` reproductions came before. -/
def sectionLines (channel : ReportChannel) : ℕ → List ReportSection → List (List Char)
  | _, [] => []
  | index, item :: items =>
    let index' := if item.kind = .reproduction then index + 1 else index
    let title := (heading channel item.kind).toList ++
      (if item.kind = .reproduction then ' ' :: (toString index').toList else [])
    ["## ".toList ++ title, [], escapeMarkdown item.text, []] ++
      (if item.evidenceRefs = [] then []
        else ["Evidence: ".toList ++ List.intercalate ", ".toList
          (item.evidenceRefs.map fun ref => codeSpan ref.toList), []]) ++
      sectionLines channel index' items

variable [IngestionDigests]

/-- `render_markdown`. -/
def renderMarkdown (report : Report) : String :=
  let lines := ["# ".toList ++ escapeMarkdown report.title, [],
    "Report ID: ".toList ++ codeSpan report.reportId.toList ++ "  ".toList,
    "Finding ID: ".toList ++ codeSpan report.findingId.toList ++ "  ".toList,
    "Target version: ".toList ++ codeSpan (escapeMarkdown report.targetVersion), []] ++
      sectionLines report.channel 0 report.sections
  String.ofList ((List.intercalate ['\n'] lines).rdropWhile isSpace ++ ['\n'])

/-! ## Differences -/

inductive ReportChangeKind
  | added
  | removed
  | modified
  deriving DecidableEq

structure ReportFieldChange where
  path : String
  kind : ReportChangeKind
  before : Option String
  after : Option String
  beforeEvidenceRefs : List Digest
  afterEvidenceRefs : List Digest
  deriving DecidableEq

structure ReportDiff where
  reportFamilyId : UUID
  fromReportId : UUID
  fromReportDigest : Digest
  fromVersion : ℕ
  toReportId : UUID
  toReportDigest : Digest
  toVersion : ℕ
  changes : List ReportFieldChange
  deriving DecidableEq

/-- `_section_map` : the parts of a report by their paths; `index` reproductions came before. -/
def sectionMap : ℕ → List ReportSection → List (String × String × List Digest)
  | _, [] => []
  | index, item :: items =>
    if item.kind = .reproduction then
      ("sections." ++ item.kind.value ++ "." ++ toString (index + 1), item.text,
        item.evidenceRefs) :: sectionMap (index + 1) items
    else ("sections." ++ item.kind.value, item.text, item.evidenceRefs) :: sectionMap index items

/-- `dict.get` : the entry that was set last. -/
def getPart (parts : List (String × String × List Digest)) (path : String) :
    Option (String × List Digest) :=
  (parts.reverse.find? fun part => part.1 = path).map Prod.snd

/-- The change of the part at a path, if it changed. -/
def partChange (before after : List (String × String × List Digest)) (path : String) :
    Option ReportFieldChange :=
  if getPart before path = getPart after path then none
  else some {
    path := path
    kind :=
      if getPart before path = none then .added
      else if getPart after path = none then .removed
      else .modified
    before := (getPart before path).map Prod.fst
    after := (getPart after path).map Prod.fst
    beforeEvidenceRefs := ((getPart before path).map Prod.snd).getD []
    afterEvidenceRefs := ((getPart after path).map Prod.snd).getD [] }

def titleChange (previous current : Report) : List ReportFieldChange :=
  if previous.title = current.title then []
  else [{
    path := "title"
    kind := .modified
    before := some previous.title
    after := some current.title
    beforeEvidenceRefs := []
    afterEvidenceRefs := [] }]

/-- The changes of a revision, those of the sections in the order of their paths. -/
def reportChanges (previous current : Report) : List ReportFieldChange :=
  let before := sectionMap 0 previous.sections
  let after := sectionMap 0 current.sections
  let paths := Table.orderBy id ((before ++ after).map Prod.fst).dedup
  titleChange previous current ++ paths.filterMap (partChange before after)

variable [PythonAlnum] [CanonicalDigest Report]

/-- The texts that a report's store and its differences want redacted. -/
def Report.narrative (report : Report) : List String :=
  [report.title, report.summary, report.impact, report.remediation] ++ report.reproduction ++
    report.sections.map (·.text)

def isRedacted (value : String) : Prop :=
  Redactor.default.text value = value

instance (value : String) : Decidable (isRedacted value) :=
  inferInstanceAs (Decidable (_ = _))

/-- Two versions of which the second follows the first. -/
def Report.Precedes (previous current : Report) : Prop :=
  previous.reportFamilyId = current.reportFamilyId ∧ previous.findingId = current.findingId ∧
    previous.candidateId = current.candidateId ∧
    previous.evidenceBundleId = current.evidenceBundleId ∧
    previous.targetVersion = current.targetVersion ∧ previous.scopeId = current.scopeId ∧
    previous.scopeVersion = current.scopeVersion ∧ previous.channel = current.channel ∧
    previous.version + 1 = current.version ∧ current.reviewStatus = .draft

instance (previous current : Report) : Decidable (previous.Precedes current) :=
  inferInstanceAs (Decidable (_ ∧ _))

/-- A text that a change may carry. -/
def ReportFieldChange.fits (change : ReportFieldChange) : Prop :=
  (∀ text ∈ change.before, text.length ≤ 8192) ∧ ∀ text ∈ change.after, text.length ≤ 8192

instance (change : ReportFieldChange) : Decidable change.fits :=
  inferInstanceAs (Decidable (_ ∧ _))

/-- `diff_reports`. -/
def diffReports (previous current : Report) : Except ReportError ReportDiff := do
  raiseIf (∃ value ∈ [previous.title, current.title] ++
      (previous.sections ++ current.sections).map (·.text), ¬isRedacted value)
    (.valueError "Report diff refuses content that has not passed redaction")
  raiseIf (¬previous.Precedes current)
    (.valueError "Reports are not consecutive revisions of the same family")
  let changes := reportChanges previous current
  raiseIf (∃ change ∈ changes, ¬change.fits) (.validationError "ReportFieldChange")
  raiseIf (changes = [])
    (.valueError "a new Report revision must contain a reviewable change")
  raiseIf (64 < changes.length) (.validationError "ReportDiff")
  return {
    reportFamilyId := current.reportFamilyId
    fromReportId := previous.reportId
    fromReportDigest := canonicalDigest previous
    fromVersion := previous.version
    toReportId := current.reportId
    toReportDigest := canonicalDigest current
    toVersion := current.version
    changes := changes }

/-! ## Review states -/

inductive ReviewDecisionKind
  | approve
  | requestChanges
  | reject
  deriving DecidableEq

/-- The status a decision gives. -/
def ReviewDecisionKind.status : ReviewDecisionKind → ReportReviewStatus
  | .approve => .humanApproved
  | .requestChanges => .changesRequested
  | .reject => .rejected

def applyReviewDecision (report : Report) (decision : ReviewDecisionKind) :
    Except ReportError Report := do
  raiseIf (report.reviewStatus ≠ .draft)
    (.transitionRejected "only a draft Report can receive a review decision")
  return report.withStatus decision.status

def markReportExported (report : Report) : Except ReportError Report := do
  raiseIf (report.reviewStatus ≠ .humanApproved)
    (.transitionRejected "only a human-approved Report can be locally exported")
  return report.withStatus .exported

end VulnLoom

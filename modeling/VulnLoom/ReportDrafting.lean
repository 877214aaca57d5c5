import VulnLoom.RedactionIdempotence
import VulnLoom.ReportDecisions
import VulnLoom.ReportDrafts

/-!
# When a claimed draft completes

Redaction may lengthen a section past the bound of a section. What it leaves is never empty and
passes the redaction check of the store, whatever the redactor, so a claimed plan completes just
when its redacted sections keep to the bound and the artifact store admits the report.
-/

set_option linter.unusedSectionVars false

namespace Substitution

open Edit

variable {α : Type*} {isWord : α → Bool} {sub : Substitution isWord}

/-- A substitution with a marker makes no text empty. -/
theorem apply_ne_nil {marker s : List α} (hreplace : ∀ g b, sub.replace g b = g ++ marker)
    (hmarker : marker ≠ []) (hs : s ≠ []) : sub.apply s ≠ [] := by
  obtain ⟨edits, -, rfl, hresult⟩ := exists_trace_apply hreplace s
  rw [← hresult]
  cases edits with
  | nil => exact absurd rfl hs
  | cons edit edits =>
    cases edit with
    | keep a => simp
    | cut body => simp [hmarker]

end Substitution

namespace VulnLoom

namespace Redactor

variable [PythonAlnum] (redactor : Redactor)

/-- What a redactor with registered values made of a text, the default one leaves. -/
theorem default_redact_redact (value : List Char) :
    default.redact (redactor.redact value) = redactor.redact value := by
  have hsplit : redactor.redact value = default.redact
      ((redactor.sensitiveVariants.map literalPattern).foldl
        (fun result pass => pass.apply result) value) := by
    rw [redact, redact, passes, passes, List.foldl_append]
    rfl
  rw [hsplit, redact_redact]

theorem redact_ne_nil {value : List Char} (h : value ≠ []) : redactor.redact value ≠ [] := by
  have hpasses : ∀ pass ∈ redactor.passes, ∀ s : List Char, s ≠ [] → pass.apply s ≠ [] := by
    intro pass hpass s
    exact Substitution.apply_ne_nil (fun g b => by rw [replace_of_mem hpass]) (by decide)
  rw [redact]
  generalize redactor.passes = passes at hpasses
  induction passes generalizing value with
  | nil => exact h
  | cons pass passes ih =>
    rw [List.foldl_cons]
    exact ih (hpasses pass List.mem_cons_self value h) fun later hlater =>
      hpasses later (List.mem_cons_of_mem _ hlater)

theorem isRedacted_text (value : String) : isRedacted (redactor.text value) := by
  rw [isRedacted, text, text, String.toList_ofList, default_redact_redact]

theorem text_ne_empty {value : String} (h : value ≠ "") : redactor.text value ≠ "" := by
  intro hempty
  rw [text, ← String.toList_inj, String.toList_ofList] at hempty
  exact redact_ne_nil redactor (fun hnil => h (String.toList_inj.1 hnil)) hempty

end Redactor

section

variable [IngestionDigests] [PythonAlnum] [ReportJson] [CanonicalDigest Report] [ReportDigests]
  [DraftDigests]

/-! ## The artifact store -/

namespace ReportArtifactStore

/-- The JSON form that is written. -/
def jsonBytes (report : Report) : Bytes :=
  utf8 (modelDumpJson report ++ "\n")

def markdownBytes (report : Report) : Bytes :=
  utf8 (renderMarkdown report)

/-- The artifact of a report. -/
def artifactOf (report : Report) : ReportArtifact where
  reportDigest := canonicalDigest report
  markdownSha256 := sha256 (markdownBytes report)
  jsonSha256 := sha256 (jsonBytes report)

/-- The two forms of a report are within the limit, and what is already stored under its digest
verifies. -/
structure Admits (store : ReportArtifactStore) (report : Report) : Prop where
  json : (jsonBytes report).length ≤ store.maxArtifactBytes
  markdown : (markdownBytes report).length ≤ store.maxArtifactBytes
  undamaged : (∃ object ∈ store.objects, object.reportDigest = canonicalDigest report) →
    ∃ read, store.readReport (artifactOf report) = .ok read

variable {store : ReportArtifactStore} {report : Report}

/-- The store after a report was put. -/
def after (store : ReportArtifactStore) (report : Report) : ReportArtifactStore :=
  if store.objects.any fun object => object.reportDigest = canonicalDigest report then store
  else { store with objects :=
    store.objects ++ [⟨canonicalDigest report, jsonBytes report, markdownBytes report⟩] }

theorem put_eq_ok_iff {result : ReportArtifactStore × ReportArtifact} :
    store.put report = .ok result ↔ (∀ value ∈ report.narrative, isRedacted value) ∧
      (jsonBytes report).length ≤ store.maxArtifactBytes ∧
      (markdownBytes report).length ≤ store.maxArtifactBytes ∧
      (∃ read, (store.after report).readReport (artifactOf report) = .ok read) ∧
      result = (store.after report, artifactOf report) := by
  simp only [put, checkSize, bind_eq_ok, raiseIf_eq_ok, pure_eq_ok, exists_const, not_exists,
    not_and, not_not, Nat.not_lt, eq_comm (b := result)]
  constructor
  · rintro ⟨hredacted, hjson, hmarkdown, read, hread, hresult⟩
    exact ⟨hredacted, hjson, hmarkdown, ⟨read, hread⟩, hresult⟩
  · rintro ⟨hredacted, hjson, hmarkdown, ⟨read, hread⟩, hresult⟩
    exact ⟨hredacted, hjson, hmarkdown, read, hread, hresult⟩

theorem find?_concat_fresh {object : ReportObject} {digest : Digest}
    (hfresh : ¬∃ object ∈ store.objects, object.reportDigest = digest)
    (hobject : object.reportDigest = digest) :
    (store.objects ++ [object]).find? (fun object => object.reportDigest = digest) =
      some object := by
  have hnone : store.objects.find? (fun object => object.reportDigest = digest) = none := by
    rw [List.find?_eq_none]
    intro other hother hdigest
    exact hfresh ⟨other, hother, of_decide_eq_true hdigest⟩
  rw [List.find?_append, hnone, Option.none_or, List.find?_singleton, if_pos (by simpa)]

theorem readReport_digest {artifact : ReportArtifact} {read : Report}
    (h : store.readReport artifact = .ok read) :
    canonicalDigest read = artifact.reportDigest := by
  simp only [readReport, bind_eq_ok, orRaise_eq_ok, raiseIf_eq_ok, pure_eq_ok, not_not] at h
  obtain ⟨-, -, -, -, -, -, -, -, -, -, report, -, -, hdigest, rfl⟩ := h
  exact hdigest

/-- A report that was written is read back. -/
theorem read_after (hjson : modelValidateJson (jsonBytes report) = some report)
    (hadmits : store.Admits report) :
    ∃ read, (store.after report).readReport (artifactOf report) = .ok read := by
  by_cases hstored : ∃ object ∈ store.objects, object.reportDigest = canonicalDigest report
  · rw [after, if_pos (by simpa using hstored)]
    exact hadmits.undamaged hstored
  · refine ⟨report, ?_⟩
    rw [after, if_neg (by simpa using hstored)]
    have hobject : ReportObject.reportDigest ⟨canonicalDigest report, jsonBytes report,
      markdownBytes report⟩ = canonicalDigest report := rfl
    have hfind := find?_concat_fresh hstored hobject
    simp only [readReport, readFile, artifactOf, bind_eq_ok, orRaise_eq_ok, raiseIf_eq_ok,
      pure_eq_ok]
    refine ⟨_, hfind, _, ⟨_, rfl, (), Nat.not_lt.2 hadmits.json, rfl⟩, _, ⟨_, rfl, (),
      Nat.not_lt.2 hadmits.markdown, rfl⟩, (), ?_, (), ?_, report, hjson, (), ?_, rfl⟩
    all_goals exact raiseIf_eq_ok.2 fun hne => hne rfl

/-- A redacted report is put just where the store admits it. -/
theorem exists_put_iff (hredacted : ∀ value ∈ report.narrative, isRedacted value)
    (hjson : modelValidateJson (jsonBytes report) = some report) :
    (∃ result, store.put report = .ok result) ↔ store.Admits report := by
  constructor
  · rintro ⟨result, hput⟩
    obtain ⟨-, hsize, hmarkdown, hread, -⟩ := put_eq_ok_iff.1 hput
    refine ⟨hsize, hmarkdown, fun hstored => ?_⟩
    rwa [after, if_pos (by simpa using hstored)] at hread
  · intro hadmits
    exact ⟨_, put_eq_ok_iff.2 ⟨hredacted, hadmits.json, hadmits.markdown,
      read_after hjson hadmits, rfl⟩⟩

end ReportArtifactStore

/-! ## Checkpoints -/

variable {claimed : List DraftRow} {plan : ReportDraftPlan}

/-- A claim that finds nothing inserts its row. -/
theorem claimDraft_created {rows : List DraftRow} {now : Time}
    (h : claimDraft rows plan now = .ok (claimed, none)) :
    (∀ row ∈ rows, draftClash (draftRow plan now) row = false) ∧
      claimed = rows ++ [draftRow plan now] := by
  unfold claimDraft at h
  split at h
  next claimed' hinsert =>
    obtain ⟨rfl, -⟩ := Prod.mk.inj (Except.ok.inj h)
    exact Table.insert_eq_some.1 hinsert
  next =>
    simp only [bind_eq_ok, orRaise_eq_ok, raiseIf_eq_ok, pure_eq_ok, Prod.mk.injEq] at h
    obtain ⟨-, -, -, -, -, -, outcome, -, -, hnone⟩ := h
    cases hnone

/-- The completion of a draft that was just claimed. -/
theorem completeDraft_claimed {rows : List DraftRow} {now : Time} {outcome : ReportOutcome}
    (hplan : outcome.planId = plan.planId) (h : claimDraft rows plan now = .ok (claimed, none)) :
    completeDraft claimed outcome =
      .ok (rows ++ [(draftRow plan now).completed outcome]) := by
  obtain ⟨hfresh, rfl⟩ := claimDraft_created h
  have hrows : ∀ row ∈ rows, awaitsOutcome outcome row = false := by
    intro row hrow
    have hclash := of_decide_eq_false (hfresh row hrow)
    exact decide_eq_false fun h => hclash (Or.inl (h.1.trans hplan).symm)
  have hrow : awaitsOutcome outcome (draftRow plan now) = true :=
    decide_eq_true ⟨hplan.symm, rfl⟩
  obtain ⟨hcount, hupdate⟩ := update_concat_fresh (f := fun row => row.completed outcome) hrows hrow
  unfold completeDraft
  simp only [hcount, hupdate]
  rfl

/-! ## The report of a plan -/

/-- Calls that return what a relation describes return a list that it describes. -/
theorem mapM_eq_ok_iff_map {ε α β γ : Type} {f : α → Except ε β} {p : α → Prop} {key : β → γ}
    {key' : α → γ} (h : ∀ a b, f a = .ok b ↔ p a ∧ key b = key' a) : ∀ {as : List α} {bs : List β},
      as.mapM f = .ok bs ↔ (∀ a ∈ as, p a) ∧ bs.map key = as.map key'
  | [], bs => by
    rw [List.mapM_nil, pure_eq_ok, List.map_nil, List.map_eq_nil_iff, eq_comm]
    simp
  | a :: as, bs => by
    simp only [List.mapM_cons, bind_eq_ok, pure_eq_ok, h, mapM_eq_ok_iff_map h,
      List.forall_mem_cons, List.map_cons]
    constructor
    · rintro ⟨b, ⟨ha, hb⟩, bs, ⟨has, hbs⟩, rfl⟩
      exact ⟨⟨ha, has⟩, by rw [List.map_cons, hb, hbs]⟩
    · rintro ⟨⟨ha, has⟩, hmap⟩
      obtain ⟨b, bs, rfl, hb, hbs⟩ := List.map_eq_cons_iff.1 hmap
      exact ⟨b, ⟨ha, hb⟩, bs, ⟨has, hbs⟩, rfl⟩

namespace DraftCall

variable {call : DraftCall}

/-- A report is the redacted plan of a call. -/
structure Describes (call : DraftCall) (report : Report) : Prop where
  draftPlanId : report.draftPlanId = call.plan.planId
  findingId : report.findingId = call.finding.findingId
  candidateId : report.candidateId = call.candidate.candidateId
  evidenceBundleId : report.evidenceBundleId = call.evidenceBundle.bundleId
  targetVersion : report.targetVersion = call.candidate.targetVersion
  scopeId : report.scopeId = call.candidate.scopeId
  scopeVersion : report.scopeVersion = call.candidate.scopeVersion
  channel : report.channel = call.plan.channel
  version : report.version = call.plan.version
  title : report.title = call.redactor.text call.plan.title
  sections : (report.sections.map fun item => (item.kind, item.text, item.evidenceRefs)) =
    call.plan.sections.map fun item =>
      (item.kind, call.redactor.text item.text, item.evidenceRefs)
  reviewStatus : report.reviewStatus = .draft

/-- Every section of the plan keeps to the bound of a section once it is redacted. -/
def SectionsFit (call : DraftCall) : Prop :=
  ∀ item ∈ call.plan.sections, (call.redactor.text item.text).length ≤ 8192

theorem length_text_pos (item : ReportSection) : 1 ≤ (call.redactor.text item.text).length := by
  refine Nat.one_le_iff_ne_zero.2 fun hzero => ?_
  refine call.redactor.text_ne_empty (fun hempty => ?_) (String.length_eq_zero_iff.1 hzero)
  have hbound := item.text_bounds.1
  rw [hempty] at hbound
  exact absurd hbound (by decide)

theorem redactSection_eq_ok (item item' : ReportSection) : call.redactSection item = .ok item' ↔
    (call.redactor.text item.text).length ≤ 8192 ∧ (item'.kind, item'.text, item'.evidenceRefs) =
      (item.kind, call.redactor.text item.text, item.evidenceRefs) := by
  by_cases h : (call.redactor.text item.text).length ≤ 8192
  · rw [redactSection, dif_pos ⟨length_text_pos item, h⟩, Except.ok.injEq, eq_comm]
    cases item'
    simp only [ReportSection.mk.injEq, Prod.mk.injEq, h, true_and]
  · rw [redactSection, dif_neg fun hbounds => h hbounds.2]
    simp [h]

variable {sections : List ReportSection}

theorem countKind_eq {sections' : List ReportSection}
    (h : sections.map (·.kind) = sections'.map (·.kind)) (kind : ReportSectionKind) :
    countKind sections kind = countKind sections' kind := by
  have hcount (items : List ReportSection) :
      countKind items kind = (items.map (·.kind)).countP fun other => other = kind := by
    rw [List.countP_map]
    rfl
  rw [hcount, hcount, h]

/-- What the preflight promises to the rest of the call. -/
theorem preflight_ok (h : call.preflight = .ok ()) :
    1 ≤ call.candidate.scopeVersion ∧
      ∀ ref ∈ call.plan.references, call.readCited ref = .ok () := by
  simp only [preflight, bind_eq_ok, raiseIf_eq_ok, not_or, not_not, forM_eq_ok] at h
  obtain ⟨-, -, -, -, -, -, -, -, -, -, -, -, -, ⟨-, hcandidate, -, hplan⟩, -, -, -, hreferences, -,
    -, -, -, hevidence⟩ := h
  refine ⟨?_, fun ref href => ?_⟩
  · rw [hcandidate, ← hplan]
    exact call.plan.versions.2
  · have hcheck := hevidence ref (hreferences.2 ref href)
    simp only [checkEvidence, bind_eq_ok, orRaise_eq_ok] at hcheck
    obtain ⟨item, hfind, -, -, text, hread, -⟩ := hcheck
    simp only [readCited, bind_eq_ok, orRaise_eq_ok]
    exact ⟨item, hfind, text, hread, rfl⟩

/-- The validator of a report accepts the redacted sections of a plan. -/
theorem exists_assemble (hscope : 1 ≤ call.candidate.scopeVersion)
    (hsections : (sections.map fun item => (item.kind, item.text, item.evidenceRefs)) =
      call.plan.sections.map fun item =>
        (item.kind, call.redactor.text item.text, item.evidenceRefs)) :
    ∃ report, call.assemble sections = .ok report ∧ call.Describes report := by
  have hkinds : sections.map (·.kind) = call.plan.sections.map (·.kind) := by
    have hfst := congrArg (List.map Prod.fst) hsections
    rwa [List.map_map, List.map_map] at hfst
  have hlength : sections.length = call.plan.sections.length := by
    simpa using congrArg List.length hsections
  have htitle : call.plan.title ≠ "" := by
    intro hempty
    have hbound := call.plan.title_bounds.1
    rw [hempty] at hbound
    exact absurd hbound (by decide)
  have hcounts : (∀ kind, kind ≠ .reproduction → countKind sections kind = 1) ∧
      1 ≤ countKind sections .reproduction ∧ sections.length ≤ 32 := by
    simp only [countKind_eq hkinds, hlength]
    exact call.plan.section_counts
  rw [assemble, dif_pos ⟨⟨call.targetVersion_ne, call.redactor.text_ne_empty htitle⟩,
    ⟨hscope, call.plan.versions.1⟩, hcounts⟩]
  exact ⟨_, rfl, rfl, rfl, rfl, rfl, rfl, rfl, rfl, rfl, rfl, rfl, hsections, rfl⟩

variable {report : Report}

/-- A plan describes one report. -/
theorem Describes.unique {report' : Report} (h : call.Describes report)
    (h' : call.Describes report') : report = report' := by
  have hinj : Function.Injective fun item : ReportSection =>
      (item.kind, item.text, item.evidenceRefs) := by
    rintro ⟨⟩ ⟨⟩ heq
    simpa using heq
  have hsections := List.map_injective_iff.2 hinj (h.sections.trans h'.sections.symm)
  obtain ⟨_, _, _, _, _, _, _, _, _, _, -, _⟩ := h
  obtain ⟨_, _, _, _, _, _, _, _, _, _, -, _⟩ := h'
  cases report
  cases report'
  simp_all

/-- A plan that passed the preflight has a report just where its redacted sections keep to the
bound. -/
theorem report_eq_ok_iff (h : call.preflight = .ok ()) :
    call.report = .ok report ↔ call.SectionsFit ∧ call.Describes report := by
  obtain ⟨hscope, hcited⟩ := preflight_ok h
  simp only [DraftCall.report, bind_eq_ok, mapM_eq_ok_iff_map redactSection_eq_ok]
  constructor
  · rintro ⟨-, -, sections, ⟨hfit, hsections⟩, hassemble⟩
    obtain ⟨built, hbuilt, hdescribes⟩ := exists_assemble hscope hsections
    obtain rfl := Except.ok.inj (hbuilt.symm.trans hassemble)
    exact ⟨hfit, hdescribes⟩
  · rintro ⟨hfit, hdescribes⟩
    obtain ⟨built, hbuilt, hbuilds⟩ := exists_assemble hscope hdescribes.sections
    obtain rfl := hbuilds.unique hdescribes
    exact ⟨(), forM_eq_ok.2 hcited, built.sections, ⟨hfit, hdescribes.sections⟩, hbuilt⟩

theorem exists_report (h : call.preflight = .ok ()) (hfit : call.SectionsFit) :
    ∃ report, call.report = .ok report := by
  obtain ⟨hscope, hcited⟩ := preflight_ok h
  obtain ⟨sections, hmap⟩ : ∃ sections, call.plan.sections.mapM call.redactSection = .ok sections :=
    mapM_isOk.2 fun item hitem => ⟨_, dif_pos ⟨length_text_pos item, hfit item hitem⟩⟩
  obtain ⟨report, hreport, -⟩ := exists_assemble hscope
    ((mapM_eq_ok_iff_map redactSection_eq_ok).1 hmap).2
  refine ⟨report, ?_⟩
  simp only [DraftCall.report, bind_eq_ok]
  exact ⟨(), forM_eq_ok.2 hcited, sections, hmap, hreport⟩

/-- Every text of the report of a plan was made by the redactor. -/
theorem Describes.narrative (h : call.Describes report) :
    ∀ value ∈ report.narrative, isRedacted value := by
  have hsections : ∀ item ∈ report.sections, isRedacted item.text := by
    intro item hitem
    have hmem : (item.kind, item.text, item.evidenceRefs) ∈ call.plan.sections.map fun item =>
        (item.kind, call.redactor.text item.text, item.evidenceRefs) := by
      rw [← h.sections]
      exact List.mem_map.2 ⟨item, hitem, rfl⟩
    obtain ⟨planned, -, heq⟩ := List.mem_map.1 hmem
    have htext : call.redactor.text planned.text = item.text := congrArg (·.2.1) heq
    rw [← htext]
    exact call.redactor.isRedacted_text _
  have htextOf (kind : ReportSectionKind) : isRedacted (report.textOf kind) := by
    rw [Report.textOf]
    cases hlast : (report.sections.filter fun item => item.kind = kind).getLast? with
    | none => exact text_of_plain (by decide)
    | some item => exact hsections item (List.mem_filter.1 (List.mem_of_getLast? hlast)).1
  simp only [Report.narrative, Report.reproduction, List.mem_append, List.mem_cons,
    List.not_mem_nil, or_false, List.mem_map, List.mem_filter]
  rintro value (((rfl | rfl | rfl | rfl) | ⟨item, ⟨hitem, -⟩, rfl⟩) | ⟨item, hitem, rfl⟩)
  · rw [h.title]
    exact call.redactor.isRedacted_text _
  · exact htextOf .summary
  · exact htextOf .impact
  · exact htextOf .remediation
  · exact hsections item hitem
  · exact hsections item hitem

/-! ## Completion -/

/-- The redacted sections keep to their bound and the store admits the report. -/
def Fits (call : DraftCall) (artifacts : ReportArtifactStore) : Prop :=
  call.SectionsFit ∧ ∀ report, call.Describes report → artifacts.Admits report

/-- The call returns an outcome whose report is stored and whose checkpoint is completed. -/
def Settles (call : DraftCall) (desk : ReportDesk) : Prop :=
  ∃ outcome, (desk.draft call).2 = .ok outcome ∧
    (∃ read, (desk.draft call).1.artifacts.readReport outcome.artifact = .ok read ∧
      canonicalDigest read = canonicalDigest outcome.report) ∧
    ∃ row ∈ (desk.draft call).1.drafts, row.planId = call.plan.planId ∧
      row.state = .completed ∧ row.outcome = some outcome

end DraftCall

section

variable {desk : ReportDesk} {call : DraftCall} {claimed : List DraftRow}

theorem draft_eq_settle (hpreflight : call.preflight = .ok ())
    (hclaim : claimDraft desk.drafts call.plan call.now = .ok (claimed, none)) :
    desk.draft call = ReportDesk.settle { desk with drafts := claimed } call := by
  unfold ReportDesk.draft
  rw [hpreflight]
  simp only [hclaim]

/-- A claimed plan that fits completes. -/
theorem settles_of_fits (hjson : ∀ report, call.Describes report →
      modelValidateJson (ReportArtifactStore.jsonBytes report) = some report)
    (hpreflight : call.preflight = .ok ())
    (hclaim : claimDraft desk.drafts call.plan call.now = .ok (claimed, none))
    (hfits : call.Fits desk.artifacts) : call.Settles desk := by
  obtain ⟨report, hreport⟩ := DraftCall.exists_report hpreflight hfits.1
  obtain ⟨hsections, hdescribes⟩ := (DraftCall.report_eq_ok_iff hpreflight).1 hreport
  obtain ⟨result, hput⟩ := (ReportArtifactStore.exists_put_iff hdescribes.narrative
    (hjson report hdescribes)).2 (hfits.2 report hdescribes)
  obtain ⟨-, -, -, ⟨read, hread⟩, rfl⟩ := ReportArtifactStore.put_eq_ok_iff.1 hput
  let outcome : ReportOutcome := {
    planId := call.plan.planId
    report := report
    artifact := ReportArtifactStore.artifactOf report
    completedAt := call.now }
  have hplan : outcome.planId = call.plan.planId := rfl
  have hcomplete := completeDraft_claimed hplan hclaim
  have hdraft : desk.draft call = (⟨desk.artifacts.after report,
      desk.drafts ++ [(draftRow call.plan call.now).completed outcome]⟩, .ok outcome) := by
    rw [draft_eq_settle hpreflight hclaim, ReportDesk.settle, hreport]
    simp only [hput]
    rw [hcomplete]
  refine ⟨outcome, by rw [hdraft], ⟨read, by rw [hdraft]; exact hread,
    ReportArtifactStore.readReport_digest hread⟩, ?_⟩
  rw [hdraft]
  exact ⟨_, List.mem_append_right _ (List.mem_singleton_self _), rfl, rfl, rfl⟩

/-- A claimed plan with a section that does not fit raises and stays claimed. -/
theorem draft_of_long (hpreflight : call.preflight = .ok ())
    (hclaim : claimDraft desk.drafts call.plan call.now = .ok (claimed, none))
    (hsections : ¬call.SectionsFit) :
    ∃ error, desk.draft call = ({ desk with drafts := claimed }, .error error) := by
  rw [draft_eq_settle hpreflight hclaim, ReportDesk.settle]
  cases hreport : call.report with
  | error error => exact ⟨error, rfl⟩
  | ok report => exact absurd ((DraftCall.report_eq_ok_iff hpreflight).1 hreport).1 hsections

/-- A claimed plan that does not fit raises and stays claimed. -/
theorem draft_of_not_fits (hjson : ∀ report, call.Describes report →
      modelValidateJson (ReportArtifactStore.jsonBytes report) = some report)
    (hpreflight : call.preflight = .ok ())
    (hclaim : claimDraft desk.drafts call.plan call.now = .ok (claimed, none))
    (hfits : ¬call.Fits desk.artifacts) :
    ∃ error, desk.draft call = ({ desk with drafts := claimed }, .error error) := by
  by_cases hsections : call.SectionsFit
  · obtain ⟨report, hreport⟩ := DraftCall.exists_report hpreflight hsections
    obtain ⟨-, hdescribes⟩ := (DraftCall.report_eq_ok_iff hpreflight).1 hreport
    cases hput : desk.artifacts.put report with
    | error error =>
      refine ⟨error, ?_⟩
      rw [draft_eq_settle hpreflight hclaim, ReportDesk.settle, hreport]
      simp only [hput]
    | ok result =>
      refine absurd ⟨hsections, fun other hother => ?_⟩ hfits
      rw [hother.unique hdescribes]
      exact (ReportArtifactStore.exists_put_iff hdescribes.narrative
        (hjson report hdescribes)).1 ⟨result, hput⟩
  · exact draft_of_long hpreflight hclaim hsections

/-- A plan that passed the preflight and was claimed completes just when its redacted sections keep
to the bound of a section and the store admits the report; else it stays claimed. -/
theorem draft_settles_iff (hjson : ∀ report, call.Describes report →
      modelValidateJson (ReportArtifactStore.jsonBytes report) = some report)
    (hpreflight : call.preflight = .ok ())
    (hclaim : claimDraft desk.drafts call.plan call.now = .ok (claimed, none)) :
    (call.Settles desk ↔ call.Fits desk.artifacts) ∧
      (¬call.Settles desk →
        ∃ error, desk.draft call = ({ desk with drafts := claimed }, .error error)) := by
  have hiff : call.Settles desk ↔ call.Fits desk.artifacts := by
    refine ⟨fun hsettles => ?_, settles_of_fits hjson hpreflight hclaim⟩
    by_contra hfits
    obtain ⟨outcome, houtcome, -⟩ := hsettles
    obtain ⟨error, herror⟩ := draft_of_not_fits hjson hpreflight hclaim hfits
    rw [herror] at houtcome
    cases houtcome
  exact ⟨hiff, fun h => draft_of_not_fits hjson hpreflight hclaim (mt hiff.2 h)⟩

end

end

/-! ## A section that redaction lengthens -/

section

attribute [local instance] asciiAlnum textReportDigest textReportDigests constantDigests

/-- Digests that are short enough to compute with. -/
@[reducible] def textDraftDigests : DraftDigests where
  plan := ⟨fun plan => plan.idempotencyKey⟩
  finding := ⟨fun finding => finding.findingId⟩
  candidate := ⟨fun candidate => candidate.candidateId⟩

attribute [local instance] textDraftDigests

/-- A summary with a text, and the sample sections. -/
def draftedSections (text : String) (h : 1 ≤ text.length ∧ text.length ≤ 8192) :
    List ReportSection :=
  { sampleSection .summary with text := text, text_bounds := h } ::
    (sampleReport .draft).sections.tail

def sampleDraftPlan (text : String) (h : 1 ≤ text.length ∧ text.length ≤ 8192) :
    ReportDraftPlan where
  version := 1
  previousReportDigest := none
  findingId := "f"
  findingDigest := "f"
  candidateId := "c"
  candidateDigest := "c"
  evidenceBundleId := "b"
  evidenceBundleDigest := "b"
  scopeId := "s"
  scopeVersion := 1
  channel := .generic
  title := "t"
  sections := draftedSections text h
  preparedBy := "p"
  createdAt := 1
  deadline := 50
  idempotencyKey := "k"
  versions := by decide
  predecessor := first_version
  title_bounds := by decide
  window := one_lt_fifty
  section_counts := by
    refine ⟨fun kind _ => ?_, Nat.le_refl 1, Nat.le_add_right 6 26⟩
    cases kind <;> rfl
  narrative_bound := by
    change text.length + 5 ≤ 65536
    omega
  key_bounds := by decide

/-- A call that drafts the plan. -/
def sampleDraft (text : String) (h : 1 ≤ text.length ∧ text.length ≤ 8192) : DraftCall where
  scope := sampleScope
  readText _ := some "x"
  redactor := .default
  finding := {
    findingId := "f"
    candidateId := "c"
    rootCause := "x"
    affectedVersions := []
    preconditions := []
    impact := "x"
    severityAssessment := []
    validationRunIds := []
    evidenceBundleId := "b" }
  findingState := "verified"
  candidate := {
    candidateId := "c"
    targetId := "t"
    targetVersion := "v"
    sourceGraphId := "g"
    scopeId := "s"
    scopeVersion := 1
    title := "x"
    cwe := "CWE-1"
    entryPoint := ⟨"a", 1, none⟩
    sink := ⟨"a", 2, none⟩
    codePath := [⟨"a", 1, none⟩]
    preconditions := []
    securityInvariant := "x"
    hypothesis := "x"
    signalIds := ["i"]
    cheapestDisproof := "x"
    duplicateFingerprint := "d"
    confidence := 0
    state := .promoted }
  evidenceBundle := sampleBundle
  evidence := [⟨"e", "v", "objects/e"⟩]
  plan := sampleDraftPlan text h
  now := 2
  previousReport := none
  targetVersion_ne := by decide

variable {text : String} {h : 1 ≤ text.length ∧ text.length ≤ 8192}

theorem sampleDraft_preflight : (sampleDraft text h).preflight = .ok () := by
  rfl

/-- An empty desk. -/
def emptyDesk : ReportDesk where
  artifacts := { maxArtifactBytes := 1000, objects := [] }
  drafts := []

theorem sampleDraft_claim : claimDraft emptyDesk.drafts (sampleDraft text h).plan
    (sampleDraft text h).now = .ok ([draftRow (sampleDraftPlan text h) 2], none) := by
  rfl

/-- The report of the plan with the sample text. -/
def draftedReport : Report :=
  { sampleReport .draft with draftPlanId := "k" }

/-- The JSON form of that report. -/
@[reducible] def draftedReportJson : ReportJson where
  modelDumpJson _ := "j"
  modelValidateJson content := if content = utf8 "j\n" then some draftedReport else none

attribute [local instance] draftedReportJson

theorem describes_draftedReport : (sampleDraft "t" (by decide)).Describes draftedReport := by
  have ht : Redactor.default.text "t" = "t" := text_of_plain (by decide)
  have htexts : ∀ item ∈ draftedReport.sections, item.text = "t" := by
    simp [draftedReport, sampleReport, sampleSection]
  refine ⟨rfl, rfl, rfl, rfl, rfl, rfl, rfl, rfl, rfl, ht.symm, ?_, rfl⟩
  refine List.map_congr_left (l := draftedReport.sections) fun item hitem => ?_
  rw [htexts item hitem]
  exact congrArg (fun text => (item.kind, text, item.evidenceRefs)) ht.symm

theorem sampleDraft_settles_iff :
    ((sampleDraft "t" (by decide)).Settles emptyDesk ↔
        (sampleDraft "t" (by decide)).Fits emptyDesk.artifacts) ∧
      (¬(sampleDraft "t" (by decide)).Settles emptyDesk →
        ∃ error, emptyDesk.draft (sampleDraft "t" (by decide)) =
          ({ emptyDesk with drafts := [draftRow (sampleDraftPlan "t" (by decide)) 2] },
            .error error)) :=
  draft_settles_iff (fun _ hdescribes => by
    rw [hdescribes.unique describes_draftedReport]
    rfl) sampleDraft_preflight sampleDraft_claim

/-- Dots, and an e-mail address at the end. -/
def addressed : List Char :=
  List.replicate 8185 '.' ++ "a@b.cc".toList

theorem scan_dots {tail : List Char} : ∀ n : ℕ,
    Redactor.emailPattern.scan 0 (some '.') (List.replicate n '.' ++ tail) =
      List.replicate n '.' ++ Redactor.emailPattern.scan 0 (some '.') tail
  | 0 => rfl
  | n + 1 => by
    have hmatch : Redactor.emailPattern.matchAt (some '.')
        ('.' :: (List.replicate n '.' ++ tail)) = none := rfl
    rw [List.replicate_succ, List.cons_append, Substitution.scan]
    simp only [hmatch, scan_dots n, List.cons_append]

theorem redact_addressed : Redactor.default.redact addressed =
    List.replicate 8185 '.' ++ Redactor.placeholder := by
  have habsent {c : Char} (hdot : c ≠ '.') (htail : c ∉ "a@b.cc".toList) : c ∉ addressed := by
    rw [addressed, List.mem_append, not_or, List.mem_replicate]
    exact ⟨fun h => hdot h.2, htail⟩
  rw [Redactor.redact_of_three (habsent (by decide) (by decide)) (habsent (by decide) (by decide))
    (habsent (by decide) (by decide)), Substitution.apply]
  have hmatch : Redactor.emailPattern.matchAt none
      ('.' :: (List.replicate 8184 '.' ++ "a@b.cc".toList)) = none := rfl
  have htail : Redactor.emailPattern.scan 0 (some '.') "a@b.cc".toList = Redactor.placeholder := by
    decide +kernel
  rw [addressed, List.replicate_succ, List.cons_append, Substitution.scan]
  simp only [hmatch, scan_dots, htail, List.cons_append]

theorem length_addressed : 1 ≤ (String.ofList addressed).length ∧
    (String.ofList addressed).length ≤ 8192 := by
  rw [String.length_ofList, addressed, List.length_append, List.length_replicate]
  decide

/-- A plan of which a section has an e-mail address and no room for the placeholder passes the
preflight, is claimed, and stays claimed. -/
theorem addressed_stays_claimed :
    (sampleDraft _ length_addressed).preflight = .ok () ∧
      claimDraft emptyDesk.drafts (sampleDraft _ length_addressed).plan
        (sampleDraft _ length_addressed).now =
          .ok ([draftRow (sampleDraftPlan _ length_addressed) 2], none) ∧
      ∃ error, emptyDesk.draft (sampleDraft _ length_addressed) =
        ({ emptyDesk with drafts := [draftRow (sampleDraftPlan _ length_addressed) 2] },
          .error error) := by
  refine ⟨sampleDraft_preflight, sampleDraft_claim,
    draft_of_long sampleDraft_preflight sampleDraft_claim fun hfit => ?_⟩
  have hlength := hfit _ List.mem_cons_self
  have htext : (sampleDraft _ length_addressed).redactor.text (String.ofList addressed) =
      String.ofList (List.replicate 8185 '.' ++ Redactor.placeholder) := by
    change Redactor.default.text _ = _
    rw [Redactor.text, String.toList_ofList, redact_addressed]
  rw [htext, String.length_ofList, List.length_append, List.length_replicate] at hlength
  exact absurd hlength (by decide)

end

end VulnLoom

import VulnLoom.RedactionPlain
import VulnLoom.ReportReview
import VulnLoom.FlowBudget

/-!
# One decision and one export a report

The ledgers know reports only through the outcomes they store. `review_decisions` and
`export_exports` say what a call adds to the decisions and the exports that are stored;
`report_decisions_iff` follows by `always_iff_along`.
-/

set_option linter.unusedSectionVars false

namespace VulnLoom

open Transition

section

variable [IngestionDigests] [PythonAlnum] [ReportJson] [CanonicalDigest Report] [ReportDigests]

/-! ## Decisions and exports -/

/-- The decision that a row stores, with the report it is about. -/
def ReviewRow.decision (row : ReviewRow) : Option (UUID × ReviewDecisionKind) :=
  row.outcome.map fun outcome => (outcome.review.reportId, outcome.review.decision)

/-- The report whose export a row stores. -/
def ExportRow.exported (row : ExportRow) : Option UUID :=
  row.outcome.map fun outcome => outcome.report.reportId

namespace ReportWorkflow

variable (flow : ReportWorkflow)

def decisions : List (UUID × ReviewDecisionKind) :=
  flow.reviews.filterMap ReviewRow.decision

def exported : List UUID :=
  flow.exports.filterMap ExportRow.exported

/-- A report has at most one decision and one export, and no export if its decision is a
rejection or a request for changes. -/
def SingleDecision : Prop :=
  (flow.decisions.map Prod.fst).Nodup ∧ flow.exported.Nodup ∧
    ∀ entry ∈ flow.decisions, entry.2 ≠ .approve → entry.1 ∉ flow.exported

/-- A review that is to be recorded : it passes its checks, its keys are new, its report can be
stored and its process lives. -/
def Records (call : ReviewCall) : Prop :=
  call.preflight flow.artifacts = .ok () ∧
    (∀ row ∈ flow.reviews, reviewClash (reviewRow call.plan call.command call.now) row = false) ∧
    (flow.artifacts.put call.reviewed).isOk ∧ call.dies = none

/-- An export that is to be recorded. -/
def Releases (call : ExportCall) : Prop :=
  call.preflight flow.artifacts = .ok () ∧
    (∀ row ∈ flow.exports, exportClash (exportRow call.plan call.now) row = false) ∧
    (flow.artifacts.put call.exported).isOk ∧ call.dies = none

/-- A call that is to be recorded finds no decision or export that speaks against it. -/
def Unopposed : ReportCall → Prop
  | .review call => flow.Records call →
    call.report.reportId ∉ flow.decisions.map Prod.fst ∧
      (call.command.decision ≠ .approve → call.report.reportId ∉ flow.exported)
  | .exportReport call => flow.Releases call →
    call.report.reportId ∉ flow.exported ∧
      ∀ entry ∈ flow.decisions, entry.1 = call.report.reportId → entry.2 = .approve
  | .files _ => True

end ReportWorkflow

/-! ## What a completion does -/

/-- An update of a row that was just inserted leaves the others alone. -/
theorem update_concat_fresh {ρ : Type} {p : ρ → Bool} {f : ρ → ρ} {rows : List ρ} {row : ρ}
    (hrows : ∀ r ∈ rows, p r = false) (hrow : p row = true) :
    Table.rowcount p (rows ++ [row]) = 1 ∧ Table.update p f (rows ++ [row]) = rows ++ [f row] := by
  have hcount : rows.countP p = 0 := List.countP_eq_zero.2 fun r hr => by simp [hrows r hr]
  have hmap : rows.map (fun r => if p r then f r else r) = rows := by
    conv_rhs => rw [← List.map_id rows]
    exact List.map_congr_left fun r hr => by simp [hrows r hr]
  refine ⟨?_, ?_⟩
  · rw [Table.rowcount, List.countP_append, hcount, List.countP_singleton, if_pos hrow]
  · rw [Table.update, List.map_append, hmap, List.map_singleton, if_pos hrow]

variable {rows : List ReviewRow} {plan : ReportReviewPlan} {command : ReportReviewCommand}
  {now : Time}

/-- A claim with new keys inserts its row. -/
theorem claimReview_fresh (h : ∀ row ∈ rows, reviewClash (reviewRow plan command now) row = false) :
    claimReview rows plan command now = .ok (rows ++ [reviewRow plan command now], none) := by
  unfold claimReview
  rw [Table.insert_eq_some.2 ⟨h, rfl⟩]

/-- A claim whose keys are taken inserts none. -/
theorem claimReview_taken {rows' : List ReviewRow} {stored : Option ReportReviewOutcome}
    (hclash : ¬∀ row ∈ rows, reviewClash (reviewRow plan command now) row = false)
    (h : claimReview rows plan command now = .ok (rows', stored)) :
    rows' = rows ∧ ∃ outcome, stored = some outcome := by
  unfold claimReview at h
  split at h
  next claimed hinsert => exact absurd (Table.insert_eq_some.1 hinsert).1 hclash
  next =>
    simp only [bind_eq_ok, orRaise_eq_ok, raiseIf_eq_ok, pure_eq_ok, Prod.mk.injEq] at h
    obtain ⟨-, -, -, -, -, -, outcome, -, rfl, rfl⟩ := h
    exact ⟨rfl, outcome, rfl⟩

theorem claimExport_fresh {rows : List ExportRow} {plan : ReportExportPlan}
    (h : ∀ row ∈ rows, exportClash (exportRow plan now) row = false) :
    claimExport rows plan now = .ok (rows ++ [exportRow plan now], none) := by
  unfold claimExport
  rw [Table.insert_eq_some.2 ⟨h, rfl⟩]

theorem claimExport_taken {rows rows' : List ExportRow} {plan : ReportExportPlan}
    {stored : Option ReportExportOutcome}
    (hclash : ¬∀ row ∈ rows, exportClash (exportRow plan now) row = false)
    (h : claimExport rows plan now = .ok (rows', stored)) :
    rows' = rows ∧ ∃ outcome, stored = some outcome := by
  unfold claimExport at h
  split at h
  next claimed hinsert => exact absurd (Table.insert_eq_some.1 hinsert).1 hclash
  next =>
    simp only [bind_eq_ok, orRaise_eq_ok, raiseIf_eq_ok, pure_eq_ok, Prod.mk.injEq] at h
    obtain ⟨-, -, -, -, -, -, outcome, -, rfl, rfl⟩ := h
    exact ⟨rfl, outcome, rfl⟩

/-! ## Reviews -/

variable {artifacts : ReportArtifactStore}

theorem ReviewCall.preflight_ok {call : ReviewCall} (h : call.preflight artifacts = .ok ()) :
    call.report.reviewStatus = .draft ∧ call.command.decidedAt < call.plan.approvalExpiresAt := by
  simp only [preflight, bind_eq_ok, raiseIf_eq_ok, not_not] at h
  obtain ⟨-, hdraft, -, -, -, -, -, -, -, hbound, -⟩ := h
  obtain ⟨-, -, -, -, -, -, -, -, -, -, -, -, -, -, hdecided, -⟩ := hbound
  exact ⟨hdraft, hdecided.trans_le call.plan.windows.2⟩

variable {artifact : ReportArtifact}

/-- The outcome of a decision passes its validator. -/
theorem ReviewCall.outcome_ok {call : ReviewCall}
    (hexpires : call.command.decidedAt < call.plan.approvalExpiresAt)
    (hartifact : artifact.reportDigest = canonicalDigest call.reviewed) :
    ∃ outcome, call.outcome artifact = .ok outcome ∧
      outcome.review.reportId = call.report.reportId ∧
      outcome.review.decision = call.command.decision := by
  unfold outcome
  rw [dif_pos hexpires]
  simp only [ReportReviewOutcome.check]
  rw [raiseIf, if_neg]
  · exact ⟨_, rfl, rfl, rfl⟩
  · simp [hartifact, reviewed, ReportReviewRecord.resultingStatus]

/-- The completion of a review that was just claimed. -/
theorem completeReview_claimed (outcome : ReportReviewOutcome)
    (hfresh : ∀ row ∈ rows, reviewClash (reviewRow plan command now) row = false) :
    completeReview (rows ++ [reviewRow plan command now]) outcome command.commandId =
      .ok (rows ++ [{ reviewRow plan command now with
        state := .completed
        completedAt := some outcome.completedAt
        outcome := some outcome }]) := by
  have hrows : ∀ row ∈ rows,
      decide (row.commandId = command.commandId ∧ row.state = .started) = false := by
    intro row hrow
    have hclash := of_decide_eq_false (hfresh row hrow)
    exact decide_eq_false fun h => hclash (Or.inl h.1.symm)
  have hrow : decide ((reviewRow plan command now).commandId = command.commandId ∧
      (reviewRow plan command now).state = .started) = true :=
    decide_eq_true ⟨rfl, rfl⟩
  obtain ⟨hcount, hupdate⟩ := update_concat_fresh (f := fun row : ReviewRow => { row with
    state := .completed
    completedAt := some outcome.completedAt
    outcome := some outcome }) hrows hrow
  unfold completeReview
  simp only [hcount, hupdate]
  rfl

/-- A review that has claimed completes its row if its report is put and its process lives. -/
theorem decide_recorded (flow : ReportWorkflow) (call : ReviewCall)
    {artifacts : ReportArtifactStore}
    (hdraft : call.report.reviewStatus = .draft)
    (hexpires : call.command.decidedAt < call.plan.approvalExpiresAt)
    (hfresh : ∀ row ∈ flow.reviews,
      reviewClash (reviewRow call.plan call.command call.now) row = false)
    (hput : flow.artifacts.put call.reviewed = .ok (artifacts, artifact))
    (hdies : call.dies = none) :
    ∃ outcome : ReportReviewOutcome, outcome.review.reportId = call.report.reportId ∧
      outcome.review.decision = call.command.decision ∧
      (ReportWorkflow.decide { flow with
          reviews := flow.reviews ++ [reviewRow call.plan call.command call.now] } call).1 =
        { flow with
          artifacts := artifacts
          reviews := flow.reviews ++ [{ reviewRow call.plan call.command call.now with
            state := .completed
            completedAt := some outcome.completedAt
            outcome := some outcome }] } := by
  have happly : applyReviewDecision call.report call.command.decision = .ok call.reviewed := by
    simp [applyReviewDecision, hdraft, ReviewCall.reviewed]
  obtain ⟨outcome, houtcome, hreport, hdecision⟩ :=
    ReviewCall.outcome_ok hexpires (flow.artifacts.put_reportDigest hput)
  refine ⟨outcome, hreport, hdecision, ?_⟩
  unfold ReportWorkflow.decide
  simp only [hdies, reduceCtorEq, if_false, happly, ok_bind, hput, houtcome,
    completeReview_claimed outcome hfresh]
  rfl

/-- A review that has claimed adds its decision if its report is put and its process lives. -/
theorem decide_decisions (flow : ReportWorkflow) (call : ReviewCall)
    (hdraft : call.report.reviewStatus = .draft)
    (hexpires : call.command.decidedAt < call.plan.approvalExpiresAt)
    (hfresh : ∀ row ∈ flow.reviews,
      reviewClash (reviewRow call.plan call.command call.now) row = false) :
    let claimed : ReportWorkflow := { flow with
      reviews := flow.reviews ++ [reviewRow call.plan call.command call.now] }
    (claimed.decide call).1.exports = flow.exports ∧
      (claimed.decide call).1.decisions = flow.decisions ++
        if (flow.artifacts.put call.reviewed).isOk ∧ call.dies = none then
          [(call.report.reportId, call.command.decision)]
        else [] := by
  intro claimed
  have hclaimed : claimed.decisions = flow.decisions := by
    simp [claimed, ReportWorkflow.decisions, reviewRow, ReviewRow.decision]
  have happly : applyReviewDecision call.report call.command.decision = .ok call.reviewed := by
    simp [applyReviewDecision, hdraft, ReviewCall.reviewed]
  have hartifacts : claimed.artifacts = flow.artifacts := rfl
  cases hput : flow.artifacts.put call.reviewed with
  | error e =>
    unfold ReportWorkflow.decide
    simp only [happly, ok_bind, hartifacts, hput]
    split <;> simp [hclaimed, claimed, Except.isOk, Except.toBool]
  | ok stored =>
    obtain ⟨artifacts, artifact⟩ := stored
    cases hdies : call.dies with
    | none =>
      obtain ⟨outcome, hreport, hdecision, hflow⟩ :=
        decide_recorded flow call hdraft hexpires hfresh hput hdies
      rw [hflow, if_pos ⟨rfl, rfl⟩]
      refine ⟨rfl, ?_⟩
      simp [ReportWorkflow.decisions, ReviewRow.decision, hreport, hdecision]
    | some d =>
      rw [if_neg (by simp), List.append_nil]
      unfold ReportWorkflow.decide
      simp only [happly, ok_bind, hartifacts, hput, hdies]
      cases d with
      | afterClaim => exact ⟨rfl, hclaimed⟩
      | afterPut => exact ⟨rfl, hclaimed⟩

theorem ReportArtifactStore.readFile_ok {store : ReportArtifactStore} {content : Bytes}
    (h : content.length ≤ store.maxArtifactBytes) :
    store.readFile (some content) = .ok content := by
  simp only [readFile, bind_eq_ok, orRaise_eq_ok, raiseIf_eq_ok, pure_eq_ok,
    Option.some.injEq]
  exact ⟨content, rfl, (), h.not_gt, rfl⟩

/-- What a review that is to be recorded leaves behind. -/
theorem review_recorded (flow : ReportWorkflow) (call : ReviewCall)
    {artifacts : ReportArtifactStore}
    (hpreflight : call.preflight flow.artifacts = .ok ())
    (hfresh : ∀ row ∈ flow.reviews,
      reviewClash (reviewRow call.plan call.command call.now) row = false)
    (hput : flow.artifacts.put call.reviewed = .ok (artifacts, artifact))
    (hdies : call.dies = none) :
    ∃ outcome : ReportReviewOutcome, outcome.review.reportId = call.report.reportId ∧
      outcome.review.decision = call.command.decision ∧
      flow.step (.review call) =
        { flow with
          artifacts := artifacts
          reviews := flow.reviews ++ [{ reviewRow call.plan call.command call.now with
            state := .completed
            completedAt := some outcome.completedAt
            outcome := some outcome }] } := by
  obtain ⟨hdraft, hexpires⟩ := ReviewCall.preflight_ok hpreflight
  obtain ⟨outcome, hreport, hdecision, hflow⟩ :=
    decide_recorded flow call hdraft hexpires hfresh hput hdies
  refine ⟨outcome, hreport, hdecision, ?_⟩
  rw [← hflow, ReportWorkflow.step, ReportWorkflow.review, hpreflight, ok_bind,
    claimReview_fresh hfresh]

/-- A review adds its decision exactly when it is to be recorded. -/
theorem review_decisions (flow : ReportWorkflow) (call : ReviewCall) :
    (flow.review call).1.exports = flow.exports ∧
      (flow.Records call → (flow.review call).1.decisions =
        flow.decisions ++ [(call.report.reportId, call.command.decision)]) ∧
      (¬flow.Records call → (flow.review call).1.decisions = flow.decisions) := by
  unfold ReportWorkflow.review
  cases hpreflight : call.preflight flow.artifacts with
  | error e =>
    refine ⟨rfl, fun h => ?_, fun _ => rfl⟩
    rw [h.1] at hpreflight
    cases hpreflight
  | ok u =>
    simp only [ok_bind]
    by_cases hfresh : ∀ row ∈ flow.reviews,
        reviewClash (reviewRow call.plan call.command call.now) row = false
    · rw [claimReview_fresh hfresh]
      obtain ⟨hdraft, hexpires⟩ := ReviewCall.preflight_ok hpreflight
      obtain ⟨hexports, hdecisions⟩ := decide_decisions flow call hdraft hexpires hfresh
      refine ⟨hexports, fun h => ?_, fun h => ?_⟩
      · rw [hdecisions, if_pos h.2.2]
      · rw [hdecisions, if_neg fun hput => h ⟨hpreflight, hfresh, hput⟩, List.append_nil]
    · have hnone : ¬flow.Records call := fun h => hfresh h.2.1
      cases hclaim : claimReview flow.reviews call.plan call.command call.now with
      | error e => exact ⟨rfl, fun h => absurd h hnone, fun _ => rfl⟩
      | ok claimed =>
        obtain ⟨rows, stored⟩ := claimed
        obtain ⟨rfl, outcome, rfl⟩ := claimReview_taken hfresh hclaim
        exact ⟨rfl, fun h => absurd h hnone, fun _ => rfl⟩

/-! ## Exports -/

theorem ExportCall.preflight_ok {call : ExportCall} (h : call.preflight artifacts = .ok ()) :
    call.report.reviewStatus = .humanApproved ∧ call.Bound := by
  simp only [preflight, bind_eq_ok, raiseIf_eq_ok, not_not] at h
  obtain ⟨-, hstatus, -, -, -, -, -, -, -, hbound, -⟩ := h
  exact ⟨hstatus, hbound⟩

/-- The outcome of an export passes its validator. -/
theorem ExportCall.outcome_ok {call : ExportCall} (hbound : call.Bound)
    (hartifact : artifact.reportDigest = canonicalDigest call.exported) :
    ∃ outcome, call.outcome artifact = .ok outcome ∧ outcome.planId = call.plan.planId ∧
      outcome.report.reportId = call.report.reportId := by
  obtain ⟨-, -, -, -, -, -, -, -, -, hdecision, hreport, -⟩ := hbound
  unfold outcome
  simp only [ReportExportOutcome.check]
  rw [raiseIf, if_neg]
  · exact ⟨_, rfl, rfl, rfl⟩
  · simp [hartifact, exported, ReportReviewRecord.resultingStatus, hdecision, hreport,
      ReviewDecisionKind.status]

/-- The completion of an export that was just claimed. -/
theorem completeExport_claimed {rows : List ExportRow} {plan : ReportExportPlan}
    {outcome : ReportExportOutcome} (hplan : outcome.planId = plan.planId)
    (hfresh : ∀ row ∈ rows, exportClash (exportRow plan now) row = false) :
    completeExport (rows ++ [exportRow plan now]) outcome =
      .ok (rows ++ [{ exportRow plan now with
        state := .completed
        completedAt := some outcome.completedAt
        outcome := some outcome }]) := by
  have hrows : ∀ row ∈ rows,
      decide (row.planId = outcome.planId ∧ row.state = .started) = false := by
    intro row hrow
    have hclash := of_decide_eq_false (hfresh row hrow)
    exact decide_eq_false fun h => hclash (Or.inl (h.1.trans hplan).symm)
  have hrow : decide ((exportRow plan now).planId = outcome.planId ∧
      (exportRow plan now).state = .started) = true :=
    decide_eq_true ⟨hplan.symm, rfl⟩
  obtain ⟨hcount, hupdate⟩ := update_concat_fresh (f := fun row : ExportRow => { row with
    state := .completed
    completedAt := some outcome.completedAt
    outcome := some outcome }) hrows hrow
  unfold completeExport
  simp only [hcount, hupdate]
  rfl

/-- An export that has claimed is recorded if its report is put and its process lives. -/
theorem release_exported (flow : ReportWorkflow) (call : ExportCall)
    (hstatus : call.report.reviewStatus = .humanApproved) (hbound : call.Bound)
    (hfresh : ∀ row ∈ flow.exports, exportClash (exportRow call.plan call.now) row = false) :
    let claimed : ReportWorkflow := { flow with
      exports := flow.exports ++ [exportRow call.plan call.now] }
    (claimed.release call).1.reviews = flow.reviews ∧
      (claimed.release call).1.exported = flow.exported ++
        if (flow.artifacts.put call.exported).isOk ∧ call.dies = none then
          [call.report.reportId]
        else [] := by
  intro claimed
  have hclaimed : claimed.exported = flow.exported := by
    simp [claimed, ReportWorkflow.exported, exportRow, ExportRow.exported]
  have happly : markReportExported call.report = .ok call.exported := by
    simp [markReportExported, hstatus, ExportCall.exported]
  unfold ReportWorkflow.release
  simp only [happly, ok_bind]
  by_cases hclaim : call.dies = some .afterClaim
  · simp [hclaim, hclaimed, claimed]
  rw [if_neg hclaim]
  have hartifacts : claimed.artifacts = flow.artifacts := rfl
  rw [hartifacts]
  cases hput : flow.artifacts.put call.exported with
  | error e => simp [hclaimed, claimed, Except.isOk, Except.toBool]
  | ok stored =>
    obtain ⟨artifacts, artifact⟩ := stored
    by_cases hafter : call.dies = some .afterPut
    · simp only [hafter, if_true]
      refine ⟨rfl, ?_⟩
      rw [if_neg (by simp), List.append_nil]
      exact hclaimed
    · have hdies : call.dies = none := by
        cases hd : call.dies with
        | none => rfl
        | some d => cases d <;> simp_all
      obtain ⟨outcome, houtcome, hplan, hreport⟩ :=
        ExportCall.outcome_ok hbound (flow.artifacts.put_reportDigest hput)
      simp only [hafter, if_false, houtcome, ok_bind, claimed,
        completeExport_claimed hplan hfresh]
      refine ⟨rfl, ?_⟩
      rw [if_pos ⟨rfl, hdies⟩]
      simp [ReportWorkflow.exported, ExportRow.exported, hreport, pure, Except.pure]

/-- An export is recorded exactly when it is to be. -/
theorem export_exported (flow : ReportWorkflow) (call : ExportCall) :
    (flow.exportReport call).1.reviews = flow.reviews ∧
      (flow.Releases call → (flow.exportReport call).1.exported =
        flow.exported ++ [call.report.reportId]) ∧
      (¬flow.Releases call → (flow.exportReport call).1.exported = flow.exported) := by
  unfold ReportWorkflow.exportReport
  cases hpreflight : call.preflight flow.artifacts with
  | error e =>
    refine ⟨rfl, fun h => ?_, fun _ => rfl⟩
    rw [h.1] at hpreflight
    cases hpreflight
  | ok u =>
    simp only [ok_bind]
    by_cases hfresh : ∀ row ∈ flow.exports,
        exportClash (exportRow call.plan call.now) row = false
    · rw [claimExport_fresh hfresh]
      obtain ⟨hstatus, hbound⟩ := ExportCall.preflight_ok hpreflight
      obtain ⟨hreviews, hexported⟩ := release_exported flow call hstatus hbound hfresh
      refine ⟨hreviews, fun h => ?_, fun h => ?_⟩
      · rw [hexported, if_pos h.2.2]
      · rw [hexported, if_neg fun hput => h ⟨hpreflight, hfresh, hput⟩, List.append_nil]
    · have hnone : ¬flow.Releases call := fun h => hfresh h.2.1
      cases hclaim : claimExport flow.exports call.plan call.now with
      | error e => exact ⟨rfl, fun h => absurd h hnone, fun _ => rfl⟩
      | ok claimed =>
        obtain ⟨rows, stored⟩ := claimed
        obtain ⟨rfl, outcome, rfl⟩ := claimExport_taken hfresh hclaim
        exact ⟨rfl, fun h => absurd h hnone, fun _ => rfl⟩

theorem step_exportReport (flow : ReportWorkflow) (call : ExportCall) :
    flow.step (.exportReport call) = (flow.exportReport call).1 :=
  rfl

/-! ## Runs -/

theorem nodup_concat_iff {α : Type} {l : List α} {a : α} :
    (l ++ [a]).Nodup ↔ l.Nodup ∧ a ∉ l := by
  rw [List.nodup_append]
  constructor
  · rintro ⟨hl, -, hne⟩
    exact ⟨hl, fun ha => hne a ha a (List.mem_singleton_self _) rfl⟩
  · rintro ⟨hl, ha⟩
    refine ⟨hl, List.nodup_singleton _, fun b hb c hc hbc => ha ?_⟩
    rw [← List.mem_singleton.1 hc, ← hbc]
    exact hb

theorem ReportWorkflow.SingleDecision.step_iff {flow : ReportWorkflow}
    (h : flow.SingleDecision)
    (call : ReportCall) :
    (flow.step call).SingleDecision ↔ flow.Unopposed call := by
  obtain ⟨hdecisions, hexported, hrejected⟩ := h
  cases call with
  | files objects => exact iff_of_true ⟨hdecisions, hexported, hrejected⟩ trivial
  | review call =>
    obtain ⟨hexports, hadds, hkeeps⟩ := review_decisions flow call
    have hsame : (flow.review call).1.exported = flow.exported := by
      rw [ReportWorkflow.exported, hexports, ReportWorkflow.exported]
    by_cases hrecords : flow.Records call
    · simp only [ReportWorkflow.step, ReportWorkflow.SingleDecision, ReportWorkflow.Unopposed,
        hadds hrecords, hsame, List.map_append, List.map_singleton, nodup_concat_iff,
        List.forall_mem_append, List.forall_mem_singleton, hrecords, forall_const]
      tauto
    · refine iff_of_true ?_ fun hr => absurd hr hrecords
      simp only [ReportWorkflow.step, ReportWorkflow.SingleDecision, hkeeps hrecords, hsame]
      exact ⟨hdecisions, hexported, hrejected⟩
  | exportReport call =>
    obtain ⟨hreviews, hadds, hkeeps⟩ := export_exported flow call
    have hsame : (flow.exportReport call).1.decisions = flow.decisions := by
      rw [ReportWorkflow.decisions, hreviews, ReportWorkflow.decisions]
    by_cases hreleases : flow.Releases call
    · simp only [ReportWorkflow.step, ReportWorkflow.SingleDecision, ReportWorkflow.Unopposed,
        hadds hreleases, hsame, nodup_concat_iff, List.mem_append, List.mem_singleton, not_or,
        hreleases, forall_const]
      constructor
      · rintro ⟨-, ⟨-, hnew⟩, hentries⟩
        refine ⟨hnew, fun entry hentry hreport => ?_⟩
        by_contra hne
        exact (hentries entry hentry hne).2 hreport
      · rintro ⟨hnew, hentries⟩
        refine ⟨hdecisions, ⟨hexported, hnew⟩, fun entry hentry hne => ?_⟩
        exact ⟨hrejected entry hentry hne, fun hreport => hne (hentries entry hentry hreport)⟩
    · refine iff_of_true ?_ fun hr => absurd hr hreleases
      simp only [ReportWorkflow.step, ReportWorkflow.SingleDecision, hkeeps hreleases, hsame]
      exact ⟨hdecisions, hexported, hrejected⟩

/-- The two ledgers before any call. -/
def ReportWorkflow.fresh (artifacts : ReportArtifactStore) : ReportWorkflow :=
  ⟨artifacts, [], []⟩

theorem singleDecision_fresh (artifacts : ReportArtifactStore) :
    (ReportWorkflow.fresh artifacts).SingleDecision :=
  ⟨List.nodup_nil, List.nodup_nil, fun _ h => (List.not_mem_nil h).elim⟩

/-- Over any run of calls, every report has one decision, one export and no export with a
rejection in every state exactly when no call that is to be recorded is opposed. -/
theorem report_decisions_iff (artifacts : ReportArtifactStore) (calls : List ReportCall) :
    Always ReportWorkflow.step ReportWorkflow.SingleDecision (.fresh artifacts) calls ↔
      Along ReportWorkflow.step ReportWorkflow.Unopposed (.fresh artifacts) calls :=
  always_iff_along ReportWorkflow.step (fun _ _ (_ : True) => trivial)
    (fun _ call _ h => ReportWorkflow.SingleDecision.step_iff h call) calls trivial
    (singleDecision_fresh artifacts)

end

/-! ## Two plans for one draft -/

section

def ReportReviewStatus.text : ReportReviewStatus → String
  | .draft => "d"
  | .changesRequested => "c"
  | .rejected => "r"
  | .humanApproved => "a"
  | .exported => "e"
  | .submitted => "s"

/-- A section of each kind. -/
def sampleSection (kind : ReportSectionKind) : ReportSection where
  kind := kind
  text := "t"
  evidenceRefs := ["e"]
  text_bounds := by decide
  evidence_backed := by simp

def sampleReport (status : ReportReviewStatus) : Report where
  draftPlanId := "p"
  findingId := "f"
  candidateId := "c"
  evidenceBundleId := "b"
  targetVersion := "v"
  scopeId := sampleScope.scopeId
  scopeVersion := sampleScope.version
  channel := .generic
  version := 1
  title := "t"
  sections := [sampleSection .summary, sampleSection .codeLocation,
    sampleSection .requestResponse, sampleSection .reproduction, sampleSection .impact,
    sampleSection .remediation]
  reviewStatus := status
  nonempty := by decide
  versions := by decide
  section_counts := by
    refine ⟨fun kind _ => ?_, by decide, by decide⟩
    cases kind <;> decide

/-- Digests that are short enough to compute with. -/
@[reducible] def textReportDigest : CanonicalDigest Report :=
  ⟨fun report => report.reviewStatus.text⟩

@[reducible] def textReportDigests : ReportDigests where
  artifact := ⟨fun artifact => artifact.reportDigest⟩
  bundle := ⟨fun bundle => bundle.bundleId⟩
  diff := ⟨fun diff => diff.toReportDigest⟩
  reviewPlan := ⟨fun plan => plan.idempotencyKey⟩
  reviewCommand := ⟨fun command => command.planId ++ command.rationaleCode⟩
  reviewRecord := ⟨fun review => review.commandId⟩
  exportPlan := ⟨fun plan => plan.idempotencyKey⟩

/-- The JSON form of the sample report. -/
@[reducible] def sampleReportJson : ReportJson where
  modelDumpJson report := report.reviewStatus.text
  modelValidateJson content :=
    [.draft, .changesRequested, .rejected, .humanApproved, .exported, .submitted].findSome?
      fun status =>
        if content = utf8 (status.text ++ "\n") then some (sampleReport status) else none

/-- A hash that tells nothing apart. -/
@[reducible] def constantDigests : IngestionDigests where
  sha256 _ := "h"
  uuid5 text := text
  manifest := ⟨fun _ => "m"⟩

attribute [local instance] asciiAlnum textReportDigest textReportDigests sampleReportJson
  constantDigests

def sampleArtifact (status : ReportReviewStatus) : ReportArtifact where
  reportDigest := status.text
  markdownSha256 := "h"
  jsonSha256 := "h"

/-- A store that holds the draft. -/
def sampleArtifacts : ReportArtifactStore where
  maxArtifactBytes := 1000
  objects := [⟨"d", utf8 "d\n", utf8 "m"⟩]

def sampleBundle : EvidenceBundle where
  bundleId := "b"
  candidateId := "c"
  evidenceRefs := ["e"]
  sealedAt := 0

def sampleReviewPlan (key : String) : ReportReviewPlan where
  reportId := (sampleReport .draft).reportId
  reportFamilyId := (sampleReport .draft).reportFamilyId
  reportVersion := 1
  reportDigest := "d"
  artifactDigest := "d"
  evidenceBundleId := "b"
  evidenceBundleDigest := "b"
  scopeId := "s"
  scopeVersion := 1
  reviewer := key
  diffId := none
  createdAt := 1
  deadline := 50
  approvalExpiresAt := 60
  idempotencyKey := key
  windows := by decide
  diff_bound := by decide

/-- A decision on the draft, under a plan of the reviewer's own. -/
def sampleReview (key : String) (decision : ReviewDecisionKind) : ReviewCall where
  scope := sampleScope
  readText _ := some "x"
  report := sampleReport .draft
  artifact := sampleArtifact .draft
  evidenceBundle := sampleBundle
  evidence := [⟨"e", "v", "objects/e"⟩]
  plan := sampleReviewPlan key
  command := {
    planId := key
    reportId := (sampleReport .draft).reportId
    reportDigest := "d"
    reviewer := key
    decision := decision
    rationaleCode := "x"
    decidedAt := 2 }
  now := 2
  previousReport := none
  reportDiff := none
  dies := none

/-- The record of the approval. -/
def sampleApproval : ReportReviewRecord where
  planId := "l"
  commandId := "lx"
  reportId := (sampleReport .draft).reportId
  reportFamilyId := (sampleReport .draft).reportFamilyId
  reportVersion := 1
  reviewedReportDigest := "d"
  resultingReportDigest := "a"
  reviewer := "l"
  decision := .approve
  rationaleCode := "x"
  diffId := none
  decidedAt := 2
  expiresAt := 60
  expires := by decide

def sampleExport : ExportCall where
  scope := sampleScope
  report := sampleReport .humanApproved
  artifact := sampleArtifact .humanApproved
  review := sampleApproval
  plan := {
    reportId := (sampleReport .draft).reportId
    reportDigest := "a"
    artifactDigest := "a"
    reviewId := sampleApproval.reviewId
    reviewDigest := "lx"
    scopeId := "s"
    scopeVersion := 1
    createdAt := 3
    deadline := 50
    idempotencyKey := "m"
    window := three_lt_fifty }
  now := 3
  dies := none

/-- The draft fits the store in whatever status. -/
theorem length_sampleMarkdown (status : ReportReviewStatus) :
    (utf8 (renderMarkdown (sampleReport status))).length ≤ 1000 := by
  have hdraft : renderMarkdown (sampleReport status) = renderMarkdown (sampleReport .draft) := rfl
  rw [hdraft, length_utf8, renderMarkdown, String.utf8ByteSize_ofList, String.utf8Len_append]
  refine le_trans (Nat.add_le_add_right
    (String.utf8Len_le_of_prefix (List.rdropWhile_prefix _ _)) _) ?_
  decide +kernel

/-- The directory of the report in a status. -/
def sampleObject (status : ReportReviewStatus) : ReportObject :=
  ⟨status.text, utf8 (status.text ++ "\n"), utf8 (renderMarkdown (sampleReport status))⟩

theorem sampleJson_read (status : ReportReviewStatus) :
    (utf8 (status.text ++ "\n")).length ≤ 1000 ∧
      modelValidateJson (utf8 (status.text ++ "\n")) = some (sampleReport status) := by
  cases status <;> decide +kernel

theorem redacted_sampleReport (status : ReportReviewStatus) :
    ∀ value ∈ (sampleReport status).narrative, isRedacted value := by
  have htext : isRedacted "t" := text_of_plain (by decide)
  intro value hvalue
  have heq : value = "t" := by
    simpa [Report.narrative, Report.summary, Report.impact, Report.remediation, Report.textOf,
      Report.reproduction, sampleReport, sampleSection] using hvalue
  exact heq ▸ htext

theorem readReport_sampleArtifact {objects : List ReportObject} (status : ReportReviewStatus)
    {markdown : Bytes} (hfind : objects.find? (fun object => object.reportDigest = status.text) =
      some ⟨status.text, utf8 (status.text ++ "\n"), markdown⟩) (hsize : markdown.length ≤ 1000) :
    (⟨1000, objects⟩ : ReportArtifactStore).readReport (sampleArtifact status) =
      .ok (sampleReport status) := by
  obtain ⟨hjson, hvalidate⟩ := sampleJson_read status
  simp only [ReportArtifactStore.readReport, bind_eq_ok, orRaise_eq_ok, raiseIf_eq_ok, pure_eq_ok]
  exact ⟨_, hfind, _, ReportArtifactStore.readFile_ok hjson, _,
    ReportArtifactStore.readFile_ok hsize, (), not_not_intro rfl, (), not_not_intro rfl, _,
    hvalidate, (), not_not_intro rfl, rfl⟩

/-- The report in a new status can be put. -/
theorem put_sampleReport (status : ReportReviewStatus) (objects : List ReportObject)
    (hfresh : ∀ object ∈ objects, object.reportDigest ≠ status.text) :
    (⟨1000, objects⟩ : ReportArtifactStore).put (sampleReport status) =
      .ok (⟨1000, objects ++ [sampleObject status]⟩, sampleArtifact status) := by
  have hfind : (objects ++ [sampleObject status]).find?
      (fun object => object.reportDigest = status.text) = some (sampleObject status) := by
    rw [List.find?_append, List.find?_eq_none.2 (by simpa using hfresh)]
    simp [sampleObject]
  have hstored : (if objects.any fun object => object.reportDigest = status.text then
      (⟨1000, objects⟩ : ReportArtifactStore) else ⟨1000, objects ++ [sampleObject status]⟩) =
      ⟨1000, objects ++ [sampleObject status]⟩ :=
    if_neg (by simpa using hfresh)
  simp only [ReportArtifactStore.put, ReportArtifactStore.checkSize, bind_eq_ok, raiseIf_eq_ok,
    pure_eq_ok]
  refine ⟨(), by simpa using redacted_sampleReport status, (), (sampleJson_read status).1.not_gt,
    (), (length_sampleMarkdown status).not_gt, sampleReport status, ?_, ?_⟩
  · exact (congrArg (·.readReport (sampleArtifact status)) hstored).trans
      (readReport_sampleArtifact status hfind (length_sampleMarkdown status))
  · exact congrArg (·, sampleArtifact status) hstored

/-- The store after the rejection. -/
def rejectedArtifacts : ReportArtifactStore :=
  ⟨1000, sampleArtifacts.objects ++ [sampleObject .rejected]⟩

/-- Both reviewers read the draft, the second one from the store that has the rejected report. -/
theorem sampleReview_preflight : (sampleReview "k" .reject).preflight sampleArtifacts = .ok () ∧
    (sampleReview "l" .approve).preflight rejectedArtifacts = .ok () := by
  constructor <;> decide +kernel

/-- The ledgers after the rejection. -/
def rejectedFlow (rejection : ReportReviewOutcome) : ReportWorkflow where
  artifacts := rejectedArtifacts
  reviews := [{ reviewRow (sampleReviewPlan "k") (sampleReview "k" .reject).command 2 with
    state := .completed
    completedAt := some rejection.completedAt
    outcome := some rejection }]
  exports := []

theorem approval_fresh (rejection : ReportReviewOutcome) :
    ∀ row ∈ (rejectedFlow rejection).reviews,
      reviewClash (reviewRow (sampleReviewPlan "l") (sampleReview "l" .approve).command 2) row =
        false :=
  List.forall_mem_singleton.2 <|
    decide_eq_false (show ¬("l" ++ "x" = "k" ++ "x" ∨ "l" = "k" ∨ "l" = "k") by decide)

/-- The ledgers after the approval. -/
def approvedFlow (rejection approval : ReportReviewOutcome) : ReportWorkflow where
  artifacts := ⟨1000, rejectedArtifacts.objects ++ [sampleObject .humanApproved]⟩
  reviews := (rejectedFlow rejection).reviews ++
    [{ reviewRow (sampleReviewPlan "l") (sampleReview "l" .approve).command 2 with
      state := .completed
      completedAt := some approval.completedAt
      outcome := some approval }]
  exports := []

theorem step_rejection : ∃ rejection : ReportReviewOutcome,
    rejection.review.reportId = (sampleReport .draft).reportId ∧
      rejection.review.decision = .reject ∧
      (ReportWorkflow.fresh sampleArtifacts).step (.review (sampleReview "k" .reject)) =
        rejectedFlow rejection :=
  review_recorded (.fresh sampleArtifacts) (sampleReview "k" .reject) sampleReview_preflight.1
    (fun _ h => absurd h List.not_mem_nil)
    (put_sampleReport .rejected _ (by simp [ReportReviewStatus.text])) rfl

theorem step_approval (rejection : ReportReviewOutcome) : ∃ approval : ReportReviewOutcome,
    approval.review.reportId = (sampleReport .draft).reportId ∧
      approval.review.decision = .approve ∧
      (rejectedFlow rejection).step (.review (sampleReview "l" .approve)) =
        approvedFlow rejection approval :=
  review_recorded (rejectedFlow rejection) (sampleReview "l" .approve) sampleReview_preflight.2
    (approval_fresh rejection)
    (put_sampleReport .humanApproved _ (by
      simp [sampleArtifacts, sampleObject, ReportReviewStatus.text])) rfl

/-- The export reads the approved report. -/
theorem releases_sampleExport (rejection approval : ReportReviewOutcome) :
    (approvedFlow rejection approval).Releases sampleExport := by
  have hfind : (approvedFlow rejection approval).artifacts.objects.find?
      (fun object => object.reportDigest = "a") = some (sampleObject .humanApproved) := by
    simp [approvedFlow, rejectedArtifacts, sampleArtifacts, sampleObject, ReportReviewStatus.text]
  have hput := put_sampleReport .exported (approvedFlow rejection approval).artifacts.objects (by
      simp [approvedFlow, rejectedArtifacts, sampleArtifacts, sampleObject,
        ReportReviewStatus.text])
  refine ⟨?_, fun _ h => absurd h List.not_mem_nil, congrArg Except.isOk hput, rfl⟩
  simp only [ExportCall.preflight, bind_eq_ok, raiseIf_eq_ok]
  exact ⟨(), by decide, (), by decide, (), by decide, (), by decide, (),
    not_not_intro ⟨rfl, rfl, rfl, rfl, rfl, rfl, rfl, rfl, rfl, rfl, rfl, rfl, rfl⟩, _,
    readReport_sampleArtifact .humanApproved hfind (length_sampleMarkdown _),
    not_not_intro rfl⟩

/-- One reviewer rejects the draft, another approves it, and it is exported. -/
def overruledRun : List ReportCall :=
  [.review (sampleReview "k" .reject), .review (sampleReview "l" .approve),
    .exportReport sampleExport]

theorem overruledRun_ledgers :
    (run ReportWorkflow.step (.fresh sampleArtifacts) overruledRun).decisions =
        [((sampleReport .draft).reportId, .reject), ((sampleReport .draft).reportId, .approve)] ∧
      (run ReportWorkflow.step (.fresh sampleArtifacts) overruledRun).exported =
        [(sampleReport .draft).reportId] := by
  obtain ⟨rejection, hreport, hdecision, hrejected⟩ := step_rejection
  obtain ⟨approval, hreport', hdecision', happroved⟩ := step_approval rejection
  have hdecisions : (approvedFlow rejection approval).decisions =
      [(rejection.review.reportId, rejection.review.decision),
        (approval.review.reportId, approval.review.decision)] := rfl
  obtain ⟨hreviews, hadds, -⟩ := export_exported (approvedFlow rejection approval) sampleExport
  rw [overruledRun, run_cons, hrejected, run_cons, happroved, run_cons, run_nil,
    step_exportReport]
  constructor
  · rw [hreport, hdecision, hreport', hdecision'] at hdecisions
    rw [← hdecisions, ReportWorkflow.decisions, hreviews, ReportWorkflow.decisions]
  · exact hadds (releases_sampleExport rejection approval)

/-- The draft has two decisions, of which one is a rejection, and is exported. -/
theorem overruledRun_exports_rejected :
    (run ReportWorkflow.step (.fresh sampleArtifacts) overruledRun).decisions =
        [((sampleReport .draft).reportId, .reject), ((sampleReport .draft).reportId, .approve)] ∧
      (run ReportWorkflow.step (.fresh sampleArtifacts) overruledRun).exported =
        [(sampleReport .draft).reportId] ∧
      ¬Always ReportWorkflow.step ReportWorkflow.SingleDecision (.fresh sampleArtifacts)
        overruledRun := by
  obtain ⟨hdecisions, hexported⟩ := overruledRun_ledgers
  refine ⟨hdecisions, hexported, ?_⟩
  intro h
  obtain ⟨hnodup, -⟩ := h overruledRun (List.prefix_refl _)
  rw [hdecisions] at hnodup
  simp at hnodup

end

end VulnLoom

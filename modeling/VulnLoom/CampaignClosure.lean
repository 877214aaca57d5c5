import VulnLoom.CampaignOrchestration
import VulnLoom.TextCodec

/-!
# How an execution ends

An admitted execution of a plan that has no checkpoint yet closes the campaign exactly when the
assertions cover the stages of observation, validation and critic : the checkpoint of a phase
needs a reference, and the phases of those stages refer to their assertions only. The
assertions cover every stage when the verdict is that a candidate is eligible, not otherwise.
-/

set_option linter.unusedSectionVars false

namespace VulnLoom

section

variable [EvidenceDigests] [AssessmentDigests] [CampaignDigests] [OrchestrationDigests]

/-! ## What an admission gives -/

variable {sources : CampaignSources} {campaignPlanId runtimePlanId assessmentPlanId : Digest}
  {records : CampaignRecords}

theorem CampaignSources.read_eq_ok :
    sources.read campaignPlanId runtimePlanId assessmentPlanId = .ok records ↔
      sources.campaignPlan campaignPlanId = some records.campaignPlan ∧
        sources.campaignOutcome campaignPlanId = some records.campaignOutcome ∧
        sources.runtimePlan runtimePlanId = some records.runtimePlan ∧
        sources.runtimeOutcome runtimePlanId = some records.runtimeOutcome ∧
        sources.assessmentPlan assessmentPlanId = some records.assessmentPlan ∧
        sources.assessmentOutcome assessmentPlanId = some records.assessmentOutcome := by
  obtain ⟨campaign, outcome, runtime, runtimeOutcome, assessment, assessmentOutcome⟩ := records
  simp only [CampaignSources.read, bind_eq_ok, orRaise_eq_ok, pure_eq_ok,
    CampaignRecords.mk.injEq]
  constructor
  · rintro ⟨_, h₁, _, h₂, _, h₃, _, h₄, _, h₅, _, h₆, rfl, rfl, rfl, rfl, rfl, rfl⟩
    exact ⟨h₁, h₂, h₃, h₄, h₅, h₆⟩
  · rintro ⟨h₁, h₂, h₃, h₄, h₅, h₆⟩
    exact ⟨_, h₁, _, h₂, _, h₃, _, h₄, _, h₅, _, h₆, rfl, rfl, rfl, rfl, rfl, rfl⟩

variable {scope : Scope} {now : Time}

theorem validateSources_eq_ok {u : Unit} : records.validateSources scope now = .ok u ↔
      CampaignScopeCurrent records.campaignPlan scope now ∧ records.Bound scope := by
  simp only [CampaignRecords.validateSources, bind_eq_ok, raiseIf_eq_ok, not_not]
  constructor
  · rintro ⟨-, h₁, h₂⟩
    exact ⟨h₁, h₂⟩
  · rintro ⟨h₁, h₂⟩
    exact ⟨(), h₁, h₂⟩

variable {plan : CampaignOrchestrationPlan}

/-- What a prepared plan is : one its sources and its scope allow until its deadline. -/
theorem prepareOrchestration_ok {limits : CampaignOrchestrationLimits} {deadline : Time}
    {idempotencyKey : String}
    (h : prepareOrchestration sources campaignPlanId runtimePlanId assessmentPlanId scope limits
      now deadline idempotencyKey = .ok plan) :
    ∃ records, sources.read plan.campaignPlanId plan.runtimePlanId
        plan.evidenceAssessmentPlanId = .ok records ∧
      plan.evidenceAssessmentPlanId = assessmentPlanId ∧
      (∀ later, plan.createdAt ≤ later → later < plan.deadline →
        CampaignScopeCurrent records.campaignPlan scope later) ∧
      records.Bound scope ∧ records.Matches plan ∧ plan.limits = limits := by
  simp only [prepareOrchestration, bind_eq_ok] at h
  obtain ⟨records, hread, ⟨⟩, hvalid, ⟨⟩, hstop, hcreate⟩ := h
  obtain ⟨hscope, hbound⟩ := validateSources_eq_ok.1 hvalid
  simp only [CampaignRecords.createPlan] at hcreate
  split_ifs at hcreate with hsealed
  obtain rfl := Except.ok.inj hcreate
  obtain ⟨h₁, -, h₃, -, h₅, -⟩ := CampaignSources.read_eq_ok.1 hread
  have hcampaign := sources.campaignPlan_id h₁
  have hruntime := sources.runtimePlan_id h₃
  have hassessment := sources.assessmentPlan_id h₅
  refine ⟨records, ?_, hassessment, ?_, hbound, ?_, rfl⟩
  · simp only [hcampaign, hruntime, hassessment]
    exact hread
  · intro later hcreated hdeadline
    obtain ⟨hstate, hid, hversion, hwindow, hclass⟩ := hscope
    simp only [lt_min_iff] at hdeadline
    exact ⟨hstate, hid, hversion, ⟨hwindow.1.trans hcreated, hdeadline.2.2⟩, hclass⟩
  · obtain ⟨-, -, -, -, -, -, -, -, -, -, -, -, -, -, -, -, -, hrequirement, -⟩ := hbound
    exact ⟨rfl, rfl, rfl, rfl, rfl, rfl, rfl, rfl, rfl, rfl, rfl, rfl, hrequirement, rfl, rfl,
      rfl, rfl, rfl, rfl⟩

variable {approvals : List ApprovalRequest} {approval : ApprovalRequest}

/-- The approval of a phase is the one that has its admission digest. -/
theorem phaseApproval_ok {admission : Digest × ℕ}
    (h : phaseApproval plan approvals scope now admission = .ok approval) :
    (approvals.find? fun item => item.actionDigest =
      campaignPhaseAdmissionDigest plan.orchestrationPlanId admission.1 admission.2) =
        some approval := by
  simp only [phaseApproval, bind_eq_ok, orRaise_eq_ok, pure_eq_ok] at h
  obtain ⟨_, hfind, -, -, rfl⟩ := h
  exact hfind

variable {ordered : List ApprovalRequest}

theorem phaseApprovals_ok (h : phaseApprovals plan approvals scope now = .ok ordered) :
    List.Forall₂ (fun admission approval => (approvals.find? fun item => item.actionDigest =
      campaignPhaseAdmissionDigest plan.orchestrationPlanId admission.1 admission.2) =
        some approval) plan.admissions ordered := by
  simp only [phaseApprovals, bind_eq_ok, mapM_eq_ok, pure_eq_ok] at h
  obtain ⟨-, -, _, hmap, -, -, rfl⟩ := h
  exact hmap.imp fun _ _ => phaseApproval_ok

/-- The approvals of the phases do not depend on the instant they are checked at. -/
theorem phaseApprovals_unique {scope' : Scope} {now' : Time} {ordered' : List ApprovalRequest}
    (h : phaseApprovals plan approvals scope now = .ok ordered)
    (h' : phaseApprovals plan approvals scope' now' = .ok ordered') : ordered = ordered' := by
  refine List.right_unique_forall₂' ?_ (phaseApprovals_ok h) (phaseApprovals_ok h')
  intro admission a b ha hb
  exact Option.some.inj (ha.symm.trans hb)

variable {call : OrchestrationCall}

theorem admission_eq_ok : call.admission sources = .ok (records, ordered) ↔
      sources.read call.plan.campaignPlanId call.plan.runtimePlanId
          call.plan.evidenceAssessmentPlanId = .ok records ∧
        CampaignScopeCurrent records.campaignPlan call.scope call.now ∧
        records.Bound call.scope ∧ records.Matches call.plan ∧
        (call.plan.createdAt ≤ call.now ∧ call.now < call.plan.deadline) ∧
        phaseApprovals call.plan call.approvals call.scope call.now = .ok ordered ∧
        call.clock 1 - call.clock 0 < call.plan.limits.timeoutSeconds := by
  simp only [OrchestrationCall.admission, bind_eq_ok, validateSources_eq_ok, raiseIf_eq_ok, not_not,
    OrchestrationCall.checkDeadline, not_le, pure_eq_ok, Prod.mk.injEq]
  constructor
  · rintro ⟨_, hread, -, ⟨hscope, hbound⟩, -, hmatches, -, hactive, _, happrovals, -, hclock,
      rfl, rfl⟩
    exact ⟨hread, hscope, hbound, hmatches, hactive, happrovals, hclock⟩
  · rintro ⟨hread, hscope, hbound, hmatches, hactive, happrovals, hclock⟩
    exact ⟨records, hread, (), ⟨hscope, hbound⟩, (), hmatches, (), hactive, ordered, happrovals,
      (), hclock, rfl, rfl⟩

/-! ## The checkpoints of an admitted execution -/

/-- What the source asks of the references of a checkpoint. -/
def RefsSealed (refs : List Digest) : Prop :=
  (1 ≤ refs.length ∧ refs.length ≤ 32) ∧ refs.Pairwise (· < ·)

/-- The stages whose phase refers to nothing but the assertions of the stage. -/
def Covered (assertions : List EvidenceAssertion) : Prop :=
  ∀ stage, stage ≠ .cleanup → ∃ assertion ∈ assertions, assertion.stage = stage

theorem CampaignPhaseCheckpoint.create_isOk {orchestrationPlanId : Digest} {phase : CampaignPhase}
    {evidenceRefs : List Digest} {recordedAt : Time} : (∃ checkpoint,
      create orchestrationPlanId phase approval evidenceRefs recordedAt = .ok checkpoint) ↔
      CheckpointSealed orchestrationPlanId phase.phaseId phase.ordinal approval.actionDigest
        evidenceRefs := by
  constructor
  · rintro ⟨checkpoint, h⟩
    exact (create_eq_ok h).1
  · intro h
    exact ⟨_, dif_pos h⟩

section Admitted

variable {records : CampaignRecords} {plan : CampaignOrchestrationPlan}
  {approvals ordered : List ApprovalRequest} {scope : Scope} {now : Time}

theorem length_phases (campaign : GoalDrivenCampaignPlan) : campaign.phases.length = 6 := by
  rw [← List.length_map (f := CampaignPhase.kind), campaign.kinds]
  rfl

/-- The admissions are those of the phases of the campaign. -/
theorem admissions_eq (hmatches : records.Matches plan) :
    plan.admissions =
      records.campaignPlan.phases.map fun phase => (phase.phaseId, phase.ordinal) := by
  obtain ⟨-, -, -, -, -, -, -, -, -, -, -, hphases, -⟩ := hmatches
  have hordinals : List.range' 1 (records.campaignPlan.phases.map CampaignPhase.phaseId).length =
      records.campaignPlan.phases.map CampaignPhase.ordinal := by
    rw [List.length_map, length_phases, records.campaignPlan.ordinals]
    rfl
  rw [CampaignOrchestrationPlan.admissions, hphases, List.zipIdx_eq_zip_range', hordinals,
    List.zip_map']

/-- Each phase has its approval. -/
theorem approved_phases (hmatches : records.Matches plan)
    (happrovals : phaseApprovals plan approvals scope now = .ok ordered) :
    List.Forall₂ (fun phase approval => approval.actionDigest =
        campaignPhaseAdmissionDigest plan.orchestrationPlanId phase.phaseId phase.ordinal)
      records.campaignPlan.phases ordered := by
  have h := phaseApprovals_ok happrovals
  rw [admissions_eq hmatches, List.forall₂_map_left_iff] at h
  refine h.imp fun phase approval hfind => ?_
  simpa using List.find?_some hfind

/-- The checkpoints can be made exactly when the references of every phase are sealed. -/
theorem checkpoints_isOk_iff (hmatches : records.Matches plan)
    (happrovals : phaseApprovals plan approvals scope now = .ok ordered) (recordedAt : Time) :
    (∃ expected, records.checkpoints plan ordered recordedAt = .ok expected) ↔
      ∀ kind, RefsSealed (records.phaseRefs plan kind) := by
  obtain ⟨hlength, happroved⟩ := List.forall₂_iff_zip.1 (approved_phases hmatches happrovals)
  rw [CampaignRecords.checkpoints, mapM_isOk]
  constructor
  · intro h kind
    have hkind : kind ∈ records.campaignPlan.phases.map CampaignPhase.kind := by
      rw [records.campaignPlan.kinds]
      cases kind <;> decide
    obtain ⟨phase, hphase, rfl⟩ := List.mem_map.1 hkind
    rw [← List.map_fst_zip hlength.le] at hphase
    obtain ⟨⟨_, approval⟩, hmem, rfl⟩ := List.mem_map.1 hphase
    obtain ⟨-, hbounds, -, hsorted⟩ :=
      CampaignPhaseCheckpoint.create_isOk.1 (h _ hmem)
    exact ⟨hbounds, hsorted⟩
  · rintro h ⟨phase, approval⟩ hmem
    obtain ⟨hbounds, hsorted⟩ := h phase.kind
    have hordinal : phase.ordinal ∈ records.campaignPlan.phases.map CampaignPhase.ordinal :=
      List.mem_map_of_mem (List.of_mem_zip hmem).1
    rw [records.campaignPlan.ordinals] at hordinal
    refine CampaignPhaseCheckpoint.create_isOk.2 ⟨?_, hbounds, happroved hmem, hsorted⟩
    simp only [List.mem_cons, List.not_mem_nil, or_false] at hordinal
    omega

/-- The checkpoints are of the six phases in order, all recorded at one instant. -/
theorem checkpoints_ok (hmatches : records.Matches plan)
    (happrovals : phaseApprovals plan approvals scope now = .ok ordered) {recordedAt : Time}
    {expected : List CampaignPhaseCheckpoint}
    (h : records.checkpoints plan ordered recordedAt = .ok expected) :
    expected.map CampaignPhaseCheckpoint.ordinal = [1, 2, 3, 4, 5, 6] ∧
      ∀ checkpoint ∈ expected, checkpoint.recordedAt = recordedAt := by
  obtain ⟨hlength, -⟩ := List.forall₂_iff_zip.1 (approved_phases hmatches happrovals)
  rw [CampaignRecords.checkpoints] at h
  constructor
  · have hordinals : List.Forall₂ (fun a checkpoint => a = checkpoint)
        ((records.campaignPlan.phases.zip ordered).map fun a => a.1.ordinal)
        (expected.map CampaignPhaseCheckpoint.ordinal) := by
      rw [List.forall₂_map_left_iff, List.forall₂_map_right_iff]
      exact (mapM_eq_ok.1 h).imp fun a checkpoint ha =>
        (CampaignPhaseCheckpoint.create_eq_ok ha).2.1.symm
    rw [List.forall₂_eq_eq_eq] at hordinals
    have hphases : (records.campaignPlan.phases.zip ordered).map (fun a => a.1.ordinal) =
        records.campaignPlan.phases.map CampaignPhase.ordinal := by
      conv_rhs => rw [← List.map_fst_zip hlength.le, List.map_map]
      rfl
    rw [← hordinals, hphases, records.campaignPlan.ordinals]
  · intro checkpoint hmem
    obtain ⟨a, -, ha⟩ := (mem_mapM h).1 hmem
    exact (CampaignPhaseCheckpoint.create_eq_ok ha).2.2

end Admitted

/-! ## What a phase refers to -/

section PhaseRefs

variable {assessmentPlan : EvidenceAssessmentPlan} {stage : EvidenceRequirementStage}

theorem mem_ofStage {assertions : List EvidenceAssertion} {assertion : EvidenceAssertion} :
    assertion ∈ ofStage assertions stage ↔ assertion ∈ assertions ∧ assertion.stage = stage := by
  simp [ofStage]

theorem nodup_assertionIds (assessmentPlan : EvidenceAssessmentPlan)
    (stage : EvidenceRequirementStage) :
    ((ofStage assessmentPlan.assertions stage).map EvidenceAssertion.assertionId).Nodup := by
  have hnodup : (assessmentPlan.assertions.map EvidenceAssertion.assertionId).Nodup :=
    assessmentPlan.assertions_sorted.imp fun h => ne_of_lt h
  exact hnodup.sublist (List.filter_sublist.map _)

theorem assertionIds_sorted (assessmentPlan : EvidenceAssessmentPlan)
    (stage : EvidenceRequirementStage) : (assertionIds assessmentPlan stage).Pairwise (· < ·) := by
  refine Table.pairwise_orderBy id ?_
  rw [List.map_id]
  exact nodup_assertionIds assessmentPlan stage

theorem length_assertionIds (assessmentPlan : EvidenceAssessmentPlan)
    (stage : EvidenceRequirementStage) :
    (assertionIds assessmentPlan stage).length =
      (ofStage assessmentPlan.assertions stage).length := by
  rw [assertionIds, Table.length_orderBy, List.length_map]

/-- The phase of a stage has its references exactly when the stage has an assertion. -/
theorem assertionIds_sealed_iff : RefsSealed (assertionIds assessmentPlan stage) ↔
    ∃ assertion ∈ assessmentPlan.assertions, assertion.stage = stage := by
  have hle : (ofStage assessmentPlan.assertions stage).length ≤ 32 :=
    (List.length_filter_le _ _).trans assessmentPlan.assertions_bounds.2
  rw [RefsSealed, length_assertionIds]
  constructor
  · rintro ⟨⟨hpos, -⟩, -⟩
    obtain ⟨assertion, h⟩ := List.exists_mem_of_length_pos hpos
    exact ⟨assertion, mem_ofStage.1 h⟩
  · rintro ⟨assertion, h⟩
    have hpos := List.length_pos_of_mem (mem_ofStage.2 h)
    exact ⟨⟨hpos, hle⟩, assertionIds_sorted _ _⟩

/-- The cleanup phase also refers to the assessment. -/
theorem cleanupRefs_sealed {assessmentId : Digest}
    (hassessment : ∀ assertion ∈ assessmentPlan.assertions,
      assertion.assertionId ≠ assessmentId)
    (hother : ∃ assertion ∈ assessmentPlan.assertions, assertion.stage ≠ .cleanup) :
    RefsSealed (Table.orderBy id (assertionIds assessmentPlan .cleanup ++ [assessmentId])) := by
  have hlt : (ofStage assessmentPlan.assertions .cleanup).length <
      assessmentPlan.assertions.length := by
    obtain ⟨assertion, hmem, hstage⟩ := hother
    exact List.length_filter_lt_length_iff_exists.2 ⟨assertion, hmem, by simpa using hstage⟩
  have hbounds := assessmentPlan.assertions_bounds
  refine ⟨?_, Table.pairwise_orderBy id ?_⟩
  · rw [Table.length_orderBy, List.length_append, length_assertionIds, List.length_singleton]
    omega
  · rw [List.map_id, List.nodup_append]
    refine ⟨(assertionIds_sorted _ _).imp fun h => ne_of_lt h, List.nodup_singleton _, ?_⟩
    intro id hid id' hid'
    rw [List.mem_singleton.1 hid']
    rw [assertionIds, Table.mem_orderBy, List.mem_map] at hid
    obtain ⟨assertion, hmem, rfl⟩ := hid
    exact hassessment assertion (mem_ofStage.1 hmem).1

/-- Every phase has its references exactly when the three stages are covered. -/
theorem phaseRefs_sealed_iff
    (hdigests : ∀ (assertion : EvidenceAssertion) (assessment : EvidenceAssessment),
      assertion.assertionId ≠ assessment.assessmentId) :
    (∀ kind, RefsSealed (records.phaseRefs plan kind)) ↔
      Covered records.assessmentPlan.assertions := by
  constructor
  · intro h stage hstage
    cases stage
    · exact assertionIds_sealed_iff.1 (h .observation)
    · exact assertionIds_sealed_iff.1 (h .validation)
    · exact assertionIds_sealed_iff.1 (h .criticReview)
    · exact absurd rfl hstage
  · intro h kind
    have hsingle : ∀ ref : Digest, RefsSealed [ref] := fun ref => by simp [RefsSealed]
    cases kind
    · exact hsingle _
    · exact assertionIds_sealed_iff.2 (h .observation (by decide))
    · exact hsingle _
    · exact assertionIds_sealed_iff.2 (h .validation (by decide))
    · exact assertionIds_sealed_iff.2 (h .critic (by decide))
    · obtain ⟨assertion, hmem, hstage⟩ := h .observation (by decide)
      exact cleanupRefs_sealed (fun assertion _ => hdigests assertion _)
        ⟨assertion, hmem, by simp [hstage]⟩

end PhaseRefs

/-! ## Recording the phases -/

/-- The clock of the call stays within the limit. -/
def OrchestrationCall.InTime (call : OrchestrationCall) : Prop :=
  ∀ reading, call.clock reading - call.clock 0 < call.plan.limits.timeoutSeconds

theorem OrchestrationCall.InTime.checkDeadline (h : call.InTime) (reading : ℕ) :
    call.checkDeadline reading = .ok () := by
  rw [OrchestrationCall.checkDeadline, raiseIf_eq_ok, not_le]
  exact h reading

variable {reading : ℕ} {stop : Option ℕ}

theorem recordPhases_nil (call : OrchestrationCall) (hstop : stop ≠ some 0)
    (rows : List OrchestrationRow) :
    call.recordPhases reading stop [] rows = (rows, .ok reading) := by
  rcases stop with _ | _ | n
  · rfl
  · exact absurd rfl hstop
  · rfl

variable {checkpoint : CampaignPhaseCheckpoint} {rows : List OrchestrationRow}

theorem recordPhases_cons (hstop : stop ≠ some 0) (rest : List CampaignPhaseCheckpoint)
    {recorded : List OrchestrationRow} (htime : call.checkDeadline reading = .ok ())
    (hrecord : recordCheckpoint rows call.plan checkpoint = .ok recorded) :
    call.recordPhases reading stop (checkpoint :: rest) rows =
      call.recordPhases (reading + 1) (stop.map (· - 1)) rest recorded := by
  rcases stop with _ | _ | n
  · simp [OrchestrationCall.recordPhases, htime, hrecord]
  · exact absurd rfl hstop
  · simp [OrchestrationCall.recordPhases, htime, hrecord]

variable {e : CampaignOrchestrationError}

theorem recordPhases_late (hstop : stop ≠ some 0) (htime : call.checkDeadline reading = .error e)
    (checkpoint : CampaignPhaseCheckpoint) (rest : List CampaignPhaseCheckpoint)
    (rows : List OrchestrationRow) :
    call.recordPhases reading stop (checkpoint :: rest) rows = (rows, .error e) := by
  rcases stop with _ | _ | n
  · simp [OrchestrationCall.recordPhases, htime]
  · exact absurd rfl hstop
  · simp [OrchestrationCall.recordPhases, htime]

theorem recordPhases_refused (hstop : stop ≠ some 0) {rest : List CampaignPhaseCheckpoint}
    {u : Unit} (htime : call.checkDeadline reading = .ok u)
    (hrecord : recordCheckpoint rows call.plan checkpoint = .error e) :
    call.recordPhases reading stop (checkpoint :: rest) rows = (rows, .error e) := by
  rcases stop with _ | _ | n
  · simp [OrchestrationCall.recordPhases, htime, hrecord]
  · exact absurd rfl hstop
  · simp [OrchestrationCall.recordPhases, htime, hrecord]

theorem recordPhases_stopped (call : OrchestrationCall) (reading : ℕ)
    (rest : List CampaignPhaseCheckpoint) (rows : List OrchestrationRow) :
    call.recordPhases reading (some 0) rest rows = (rows, .error .interrupted) := by
  cases rest <;> rfl

/-- Recording adds to the row some of the checkpoints that are left, all of them when it is not
stopped. The induction is on those that are left. -/
theorem recordPhases_spec (call : OrchestrationCall) {expected : List CampaignPhaseCheckpoint}
    (hordinals : expected.map CampaignPhaseCheckpoint.ordinal =
      List.range' 1 expected.length) (rest : List CampaignPhaseCheckpoint) :
    ∀ (done : List CampaignPhaseCheckpoint), expected = done ++ rest →
      ∀ (reading : ℕ) (stop : Option ℕ) {rows : List OrchestrationRow} {row : OrchestrationRow},
      OrchestrationKeys rows → row ∈ rows → row.plan = call.plan → row.state = .started →
      row.checkpoints = done →
      (∃ more, more <+: rest ∧
        (call.recordPhases reading stop rest rows).1 = Table.put OrchestrationRow.planId
          (row.withCheckpoints (done ++ more)) rows ∧
        ∀ last, (call.recordPhases reading stop rest rows).2 = .ok last → more = rest) ∧
      (call.InTime → stop = none →
        (call.recordPhases reading stop rest rows).2 = .ok (reading + rest.length)) := by
  induction rest with
  | nil =>
    intro done _ reading stop rows row hkeys hrow _ _ hdone
    have hsame : row.withCheckpoints (done ++ []) = row := by
      rw [List.append_nil, ← hdone, OrchestrationRow.withCheckpoints_self]
    refine ⟨⟨[], List.nil_prefix, ?_, fun _ _ => rfl⟩, ?_⟩
    · rw [hsame, Table.put_self hkeys.1 hrow]
      by_cases hstop : stop = some 0
      · rw [hstop, recordPhases_stopped]
      · rw [recordPhases_nil call hstop]
    · rintro - rfl
      rfl
  | cons checkpoint rest ih =>
    intro done hexpected reading stop rows row hkeys hrow hplan hstate hdone
    have hsame : row.withCheckpoints (done ++ []) = row := by
      rw [List.append_nil, ← hdone, OrchestrationRow.withCheckpoints_self]
    by_cases hstop : stop = some 0
    · rw [hstop, recordPhases_stopped]
      refine ⟨⟨[], List.nil_prefix, ?_, fun last hlast => by cases hlast⟩, fun _ h => by cases h⟩
      rw [hsame, Table.put_self hkeys.1 hrow]
    cases htime : call.checkDeadline reading with
    | error e =>
      rw [recordPhases_late hstop htime]
      refine ⟨⟨[], List.nil_prefix, ?_, fun last hlast => by cases hlast⟩, fun hclock _ => ?_⟩
      · rw [hsame, Table.put_self hkeys.1 hrow]
      · rw [hclock.checkDeadline] at htime
        cases htime
    | ok u =>
      have hordinal : checkpoint.ordinal = row.checkpoints.length + 1 := by
        have h := congrArg (fun l => l[done.length]?) hordinals
        simp [hexpected] at h
        rw [hdone, h, Nat.add_comm]
      have hrecord := recordCheckpoint_next hkeys hrow hstate hordinal
      rw [hplan] at hrecord
      rw [recordPhases_cons hstop rest htime hrecord]
      have hkeys' : OrchestrationKeys (Table.put OrchestrationRow.planId
          (row.withCheckpoints (row.checkpoints ++ [checkpoint])) rows) := hkeys.put hrow rfl
      have hrow' : row.withCheckpoints (row.checkpoints ++ [checkpoint]) ∈
          Table.put OrchestrationRow.planId
            (row.withCheckpoints (row.checkpoints ++ [checkpoint])) rows :=
        Table.mem_put_self hrow rfl
      obtain ⟨⟨more, hmore, hrows, hall⟩, hend⟩ := ih (done ++ [checkpoint]) (by simp [hexpected])
        (reading + 1) (stop.map (· - 1)) hkeys' hrow' hplan hstate (by simp [hdone])
      refine ⟨⟨checkpoint :: more, List.cons_prefix_cons.2 ⟨rfl, hmore⟩, ?_, ?_⟩, ?_⟩
      · rw [hrows]
        refine (Table.put_put ?_ rows).trans ?_
        · rfl
        · simp
      · intro last hlast
        rw [hall last hlast]
      · rintro hclock rfl
        rw [hend hclock rfl, List.length_cons, Nat.add_right_comm, Nat.add_assoc]

/-! ## Closing the campaign -/

section Closing

variable {sources : CampaignSources} {call : OrchestrationCall} {records : CampaignRecords}
  {ordered : List ApprovalRequest} {expected : List CampaignPhaseCheckpoint}

theorem nodup_checkpointIds
    (hdigest : Function.Injective CampaignPhaseCheckpoint.checkpointId)
    (hordinals : expected.map CampaignPhaseCheckpoint.ordinal = [1, 2, 3, 4, 5, 6]) :
    (expected.map CampaignPhaseCheckpoint.checkpointId).Nodup := by
  have hnodup : (expected.map CampaignPhaseCheckpoint.ordinal).Nodup := by
    rw [hordinals]
    decide
  exact (List.Nodup.of_map _ hnodup).map hdigest

/-- The closure of six checkpoints passes its validator, whatever the verdict. -/
theorem createClosure_ok
    (hdigest : Function.Injective CampaignPhaseCheckpoint.checkpointId)
    (hordinals : expected.map CampaignPhaseCheckpoint.ordinal = [1, 2, 3, 4, 5, 6])
    (records : CampaignRecords) (plan : CampaignOrchestrationPlan) (now : Time) :
    ∃ closure, records.createClosure plan expected now = .ok closure ∧
      closure.orchestrationPlanId = plan.orchestrationPlanId ∧
      closure.disposition = records.assessmentOutcome.assessment.verdict.disposition ∧
      closure.phaseCheckpointIds = expected.map CampaignPhaseCheckpoint.checkpointId := by
  obtain ⟨-, -, hbounds, hsorted, -⟩ := records.assessmentOutcome.assessment.isSealed
  have hlength : (expected.map CampaignPhaseCheckpoint.checkpointId).length = 6 := by
    rw [List.length_map, ← List.length_map (f := CampaignPhaseCheckpoint.ordinal), hordinals]
    rfl
  have hsealed : ClosureSealed records.assessmentOutcome.assessment.verdict.disposition
      records.assessmentOutcome.assessment.verdict
      (expected.map CampaignPhaseCheckpoint.checkpointId)
      records.assessmentOutcome.assessment.evidenceRefs
      (decide (records.assessmentOutcome.assessment.verdict = .candidateEligible)) :=
    ⟨rfl, by simp, hlength, nodup_checkpointIds hdigest hordinals, hbounds, hsorted⟩
  rw [CampaignRecords.createClosure]
  exact ⟨_, dif_pos hsealed, rfl, rfl, rfl⟩

variable {rows : List OrchestrationRow} {row : OrchestrationRow}

/-- An execution whose phases are all recorded completes its row. -/
theorem finish_ok (hdigest : Function.Injective CampaignPhaseCheckpoint.checkpointId)
    (hordinals : expected.map CampaignPhaseCheckpoint.ordinal = [1, 2, 3, 4, 5, 6])
    (hkeys : OrchestrationKeys rows) (hrow : row ∈ rows) (hplan : row.plan = call.plan)
    (hstate : row.state = .started) (hattempt : 1 ≤ row.attempt ∧ row.attempt ≤ 3)
    (hcheckpoints : row.checkpoints = expected) (htime : call.InTime) (records : CampaignRecords)
    (reading : ℕ) : ∃ outcome, call.finish records expected row.attempt reading rows = .ok
        (Table.put OrchestrationRow.planId (row.withOutcome outcome call.now) rows, outcome) ∧
      outcome.closure.disposition = records.assessmentOutcome.assessment.verdict.disposition := by
  obtain ⟨closure, hclosure, hid, hdisposition, hids⟩ :=
    createClosure_ok hdigest hordinals records call.plan call.now
  have hlength : row.checkpoints.length = 6 := by
    rw [hcheckpoints, ← List.length_map (f := CampaignPhaseCheckpoint.ordinal), hordinals]
    rfl
  refine ⟨⟨call.plan.orchestrationPlanId, closure, row.attempt, hattempt, hid⟩, ?_, hdisposition⟩
  have hcomplete : completeOrchestration rows row.plan
      ⟨call.plan.orchestrationPlanId, closure, row.attempt, hattempt, hid⟩ call.now = .ok _ :=
    completeOrchestration_eq hkeys hrow hstate rfl hlength (by rw [hids, hcheckpoints]) call.now
  rw [hplan] at hcomplete
  simp only [OrchestrationCall.finish, bind_eq_ok, pure_eq_ok]
  exact ⟨(), htime.checkDeadline _, closure, hclosure, _, dif_pos ⟨hattempt, hid⟩, (),
    htime.checkDeadline _, _, hcomplete, rfl⟩

/-- An execution that is not stopped records the phases that are left and completes its row. -/
theorem carryOut_ok (hdigest : Function.Injective CampaignPhaseCheckpoint.checkpointId)
    (hordinals : expected.map CampaignPhaseCheckpoint.ordinal = [1, 2, 3, 4, 5, 6])
    (hexpected : records.checkpoints call.plan ordered call.now = .ok expected)
    (hkeys : OrchestrationKeys rows) (hrow : row ∈ rows) (hplan : row.plan = call.plan)
    (hstate : row.state = .started) (hattempt : 1 ≤ row.attempt ∧ row.attempt ≤ 3)
    (hcheckpoints : row.checkpoints = expected.take row.checkpoints.length) (htime : call.InTime)
    (hstop : call.stop = none) :
    ∃ outcome, call.carryOut records ordered ⟨row.attempt, row.checkpoints, none⟩ rows =
        (Table.put OrchestrationRow.planId
          ((row.withCheckpoints expected).withOutcome outcome call.now) rows, .ok outcome) ∧
      outcome.closure.disposition = records.assessmentOutcome.assessment.verdict.disposition := by
  have hlength : expected.length = 6 := by
    rw [← List.length_map (f := CampaignPhaseCheckpoint.ordinal), hordinals]
    rfl
  have hsplit : expected = row.checkpoints ++ expected.drop row.checkpoints.length := by
    conv_lhs => rw [← List.take_append_drop row.checkpoints.length expected]
    rw [← hcheckpoints]
  obtain ⟨⟨more, -, hrows, hall⟩, hend⟩ :=
    recordPhases_spec call (by rw [hordinals, hlength]; rfl) _ _ hsplit 2 call.stop
      hkeys hrow hplan hstate rfl
  have hlast := hend htime hstop
  rw [hall _ hlast, ← hsplit] at hrows
  have hkeys' : OrchestrationKeys (Table.put OrchestrationRow.planId
      (row.withCheckpoints expected) rows) := hkeys.put hrow rfl
  have hrow' : row.withCheckpoints expected ∈
      Table.put OrchestrationRow.planId (row.withCheckpoints expected) rows :=
    Table.mem_put_self hrow rfl
  obtain ⟨outcome, hfinish, hdisposition⟩ := finish_ok hdigest hordinals hkeys' hrow'
    hplan hstate hattempt rfl htime records
    (2 + (expected.drop row.checkpoints.length).length)
  refine ⟨outcome, ?_, hdisposition⟩
  have hrecord : call.recordPhases 2 call.stop (expected.drop row.checkpoints.length) rows =
      (Table.put OrchestrationRow.planId (row.withCheckpoints expected) rows,
        .ok (2 + (expected.drop row.checkpoints.length).length)) := Prod.ext hrows hlast
  simp only [OrchestrationRow.withCheckpoints_attempt] at hfinish
  simp only [OrchestrationCall.carryOut, hexpected, hrecord, hfinish]
  rw [if_neg (by rw [not_not]; exact hcheckpoints)]
  refine Prod.ext ((Table.put_put ?_ rows)) rfl
  rfl

end Closing

/-! ## Executions -/

section Execution

variable {sources : CampaignSources} {call : OrchestrationCall} {records : CampaignRecords}
  {ordered : List ApprovalRequest} {rows : List OrchestrationRow}

/-- The execution returns an outcome of this disposition and leaves its row completed. -/
def Completes (sources : CampaignSources) (rows : List OrchestrationRow)
    (call : OrchestrationCall) (disposition : CampaignEvidenceClosureDisposition) : Prop :=
  ∃ outcome row, sources.execute rows call = (sources.step rows call, .ok outcome) ∧
    row ∈ sources.step rows call ∧ row.plan = call.plan ∧ row.state = .completed ∧
    row.outcome = some outcome ∧ outcome.closure.disposition = disposition

/-- No checkpoint of the plan is recorded : it has no row, and its idempotency key is free, or
its row is one an earlier attempt left. -/
def Unrecorded (rows : List OrchestrationRow) (plan : CampaignOrchestrationPlan) : Prop :=
  (∀ row ∈ rows, row.planId ≠ plan.orchestrationPlanId ∧
      row.idempotencyKey ≠ plan.idempotencyKey) ∨
    ∃ row ∈ rows, row.plan = plan ∧ row.state = .started ∧ row.checkpoints = [] ∧
      row.attempt < plan.limits.maxAttempts

theorem execute_claimed {claimed : List OrchestrationRow} {attempt : ℕ}
    {checkpoints : List CampaignPhaseCheckpoint}
    (hadmission : call.admission sources = .ok (records, ordered))
    (hclaim : claimOrchestration rows call.plan call.now =
      .ok (claimed, ⟨attempt, checkpoints, none⟩)) :
    sources.execute rows call =
      call.carryOut records ordered ⟨attempt, checkpoints, none⟩ claimed := by
  simp only [CampaignSources.execute, hadmission, hclaim]

/-- A claim of a plan without checkpoints, and the row it leaves. -/
theorem claim_unrecorded (hkeys : OrchestrationKeys rows) (hplan : Unrecorded rows plan)
    (now : Time) :
    ∃ claimed row, claimOrchestration rows plan now = .ok (claimed, ⟨row.attempt, [], none⟩) ∧
      OrchestrationKeys claimed ∧ row ∈ claimed ∧ row.plan = plan ∧ row.state = .started ∧
      row.checkpoints = [] ∧ 1 ≤ row.attempt ∧ row.attempt ≤ 3 := by
  have hlimits := plan.limits.attempts_bounds
  rcases hplan with hfresh | ⟨row, hrow, rfl, hstate, hcheckpoints, hattempt⟩
  · have hinsert : Table.insert orchestrationClash rows (plan.row now) =
        some (rows ++ [plan.row now]) := by
      refine Table.insert_eq_some.2 ⟨fun row hrow => ?_, rfl⟩
      obtain ⟨hid, hkey⟩ := hfresh row hrow
      simp only [orchestrationClash, decide_eq_false_iff_not, not_or]
      exact ⟨fun h => hid h.symm, fun h => hkey h.symm⟩
    refine ⟨rows ++ [plan.row now], plan.row now, ?_, (OnlyPlan.insert hinsert).1 hkeys, by simp,
      rfl, rfl, rfl, le_rfl, by simp [CampaignOrchestrationPlan.row]⟩
    rw [claimOrchestration, hinsert]
    rfl
  · have hclaim := reclaim_started hkeys hrow hstate hattempt now
    rw [hcheckpoints] at hclaim
    exact ⟨_, row.withAttempt (row.attempt + 1) now, hclaim, hkeys.put hrow rfl,
      Table.mem_put_self hrow rfl, rfl, hstate, hcheckpoints, Nat.le_add_left _ _,
      by simp only [OrchestrationRow.withAttempt_attempt]; omega⟩

/-- An admitted execution of a plan without checkpoints completes it exactly when its
checkpoints can be made. -/
theorem completes_iff_checkpoints
    (hdigest : Function.Injective CampaignPhaseCheckpoint.checkpointId)
    (hkeys : OrchestrationKeys rows) (hplan : Unrecorded rows call.plan)
    (hadmission : call.admission sources = .ok (records, ordered)) (htime : call.InTime)
    (hstop : call.stop = none) :
    Completes sources rows call records.assessmentOutcome.assessment.verdict.disposition ↔
      ∃ expected, records.checkpoints call.plan ordered call.now = .ok expected := by
  obtain ⟨claimed, row, hclaim, hkeys', hrow, hrowplan, hstate, hcheckpoints, hattempt⟩ :=
    claim_unrecorded hkeys hplan call.now
  obtain ⟨-, -, -, hmatches, -, happrovals, -⟩ := admission_eq_ok.1 hadmission
  have hexecute := execute_claimed hadmission hclaim
  constructor
  · rintro ⟨outcome, -, hresult, -⟩
    cases hcreate : records.checkpoints call.plan ordered call.now with
    | ok expected => exact ⟨expected, rfl⟩
    | error e =>
      rw [hexecute, OrchestrationCall.carryOut, hcreate] at hresult
      cases congrArg Prod.snd hresult
  · rintro ⟨expected, hexpected⟩
    obtain ⟨hordinals, -⟩ := checkpoints_ok hmatches happrovals hexpected
    obtain ⟨outcome, hcarry, hdisposition⟩ := carryOut_ok hdigest hordinals hexpected hkeys' hrow
      hrowplan hstate hattempt (by rw [hcheckpoints]; rfl) htime hstop
    rw [hcheckpoints, ← hexecute] at hcarry
    refine ⟨outcome, (row.withCheckpoints expected).withOutcome outcome call.now, ?_, ?_,
      hrowplan, rfl, rfl, hdisposition⟩
    · rw [CampaignSources.step, hcarry]
    · rw [CampaignSources.step, hcarry]
      exact Table.mem_put_self hrow rfl

end Execution

/-- A prepared plan, executed with its approvals before its deadline, closes with the disposition
of the verdict exactly when its assertions cover observation, validation and critic. -/
theorem execution_closes_iff
    (hdigest : Function.Injective CampaignPhaseCheckpoint.checkpointId)
    (hdigests : ∀ (assertion : EvidenceAssertion) (assessment : EvidenceAssessment),
      assertion.assertionId ≠ assessment.assessmentId)
    {sources : CampaignSources} {campaignPlanId runtimePlanId assessmentPlanId : Digest}
    {limits : CampaignOrchestrationLimits} {createdAt deadline : Time} {idempotencyKey : String}
    {call : OrchestrationCall}
    (hprepare : prepareOrchestration sources campaignPlanId runtimePlanId assessmentPlanId
      call.scope limits createdAt deadline idempotencyKey = .ok call.plan)
    {assessmentPlan : EvidenceAssessmentPlan} {assessmentOutcome : EvidenceAssessmentOutcome}
    (hplan : sources.assessmentPlan assessmentPlanId = some assessmentPlan)
    (houtcome : sources.assessmentOutcome assessmentPlanId = some assessmentOutcome)
    {ordered : List ApprovalRequest}
    (happrovals : phaseApprovals call.plan call.approvals call.scope call.now = .ok ordered)
    (hactive : call.plan.createdAt ≤ call.now ∧ call.now < call.plan.deadline)
    (htime : call.InTime) (hstop : call.stop = none) {rows : List OrchestrationRow}
    (hkeys : OrchestrationKeys rows) (hrows : Unrecorded rows call.plan) :
    Completes sources rows call assessmentOutcome.assessment.verdict.disposition ↔
      Covered assessmentPlan.assertions := by
  obtain ⟨records, hread, hid, hscope, hbound, hmatches, -⟩ := prepareOrchestration_ok hprepare
  obtain ⟨-, -, -, -, hplan', houtcome'⟩ := CampaignSources.read_eq_ok.1 hread
  rw [hid, hplan] at hplan'
  rw [hid, houtcome] at houtcome'
  obtain rfl := Option.some.inj hplan'
  obtain rfl := Option.some.inj houtcome'
  have hadmission : call.admission sources = .ok (records, ordered) := admission_eq_ok.2
    ⟨hread, hscope call.now hactive.1 hactive.2, hbound, hmatches, hactive, happrovals, htime 1⟩
  rw [completes_iff_checkpoints hdigest hkeys hrows hadmission htime hstop,
    checkpoints_isOk_iff hmatches happrovals call.now, phaseRefs_sealed_iff hdigests]

end

/-! ## A campaign of each kind -/

section Sample

/-- A number for each kind of phase. -/
def CampaignPhaseKind.index : CampaignPhaseKind → ℕ
  | scopeConfirmation => 0
  | observation => 1
  | hypothesis => 2
  | validation => 3
  | criticReview => 4
  | cleanupConfirmation => 5

instance : TextCodec CampaignPhaseKind :=
  TextCodec.record CampaignPhaseKind.index (fun n => requiredCampaignPhases[n]?) fun kind => by
    cases kind <;> rfl

instance [CampaignDigests] : TextCodec CampaignPhaseCheckpoint :=
  TextCodec.record
    (fun c => (c.orchestrationPlanId, c.phaseId, c.phaseKind, c.ordinal, c.approvalId,
      c.approvalDigest, c.evidenceRefs, c.recordedAt))
    (fun (planId, phaseId, kind, ordinal, approvalId, approvalDigest, refs, recordedAt) =>
      if h : CheckpointSealed planId phaseId ordinal approvalDigest refs then
        some ⟨planId, phaseId, kind, ordinal, approvalId, approvalDigest, refs, recordedAt, h⟩
      else none)
    fun c => dif_pos c.isSealed

/-- Digests that are short enough to compute with. -/
@[reducible] def textEvidenceDigests : EvidenceDigests where
  requirement := ⟨fun _ => "requirement"⟩
  assertion := ⟨fun assertion => "fact:" ++ assertion.fact.value⟩

attribute [local instance] textEvidenceDigests

@[reducible] def textAssessmentDigests : AssessmentDigests where
  plan := ⟨fun plan => plan.idempotencyKey⟩
  assessment := ⟨fun assessment => "of:" ++ assessment.planId⟩
  outcome := ⟨fun outcome => outcome.planId⟩

@[reducible] def textCampaignDigests : CampaignDigests where
  campaignPlan := ⟨fun plan => plan.campaignPlanId⟩
  campaignOutcome := ⟨fun outcome => outcome.outcomeId⟩
  runtimePlan := ⟨fun plan => plan.runtimePlanId⟩
  runtimeOutcome := ⟨fun outcome => outcome.outcomeId⟩
  targetSet := ⟨fun targets => String.join targets⟩
  phaseGraph := ⟨fun phases => String.join (phases.map CampaignPhase.phaseId)⟩
  admission := ⟨fun admission => "admission:" ++ admission.phaseId⟩
  scopeConfirmation := ⟨fun confirmation => confirmation.scopeId⟩

attribute [local instance] textAssessmentDigests textCampaignDigests

@[reducible] def textOrchestrationDigests : OrchestrationDigests where
  plan := ⟨fun plan => plan.idempotencyKey⟩
  checkpoint := ⟨TextCodec.text⟩

attribute [local instance] textOrchestrationDigests

theorem textCheckpointId_injective : Function.Injective CampaignPhaseCheckpoint.checkpointId :=
  fun _ _ h => TextCodec.text_injective h

theorem assertionId_ne_assessmentId (assertion : EvidenceAssertion)
    (assessment : EvidenceAssessment) : assertion.assertionId ≠ assessment.assessmentId := by
  intro h
  have htext : "fact:" ++ assertion.fact.value = "of:" ++ assessment.planId := h
  have hlist := congrArg String.toList htext
  simp at hlist

def campaignScope : Scope where
  scopeId := "s"
  engagementId := "g"
  version := 1
  validFrom := 0
  validUntil := 100
  repositories := []
  artifacts := []
  networkTargets := []
  allowedTestClasses := ["read_only"]
  deniedActions := []
  approvalRequirements := []
  state := .approved
  window := zero_lt_hundred

def sampleAssertion (fact : EvidenceFactKind) (verdict : EvidenceFactVerdict) :
    EvidenceAssertion where
  requirementId := "requirement"
  stage := factStage fact
  fact := fact
  verdict := verdict
  evidenceRefs := [fact.value]
  producerRef := fact.value
  contextId := fact.value
  observedAt := 0
  fact_stage := rfl
  refs_bounds := by simp
  refs_sorted := List.pairwise_singleton _ _

/-- Nothing remains of the test, and the request did not succeed. -/
def refutedAssertions : List EvidenceAssertion :=
  [sampleAssertion .noStateChangeProven .supported,
    sampleAssertion .noTestArtifactsRemain .supported,
    sampleAssertion .sealedGetSucceeded .refuted]

/-- The same with a validation and a review. -/
def coveredAssertions : List EvidenceAssertion :=
  [sampleAssertion .accessControlEnforced .refuted,
    sampleAssertion .independentReplayMatched .supported,
    sampleAssertion .noStateChangeProven .supported,
    sampleAssertion .noTestArtifactsRemain .supported,
    sampleAssertion .sealedGetSucceeded .refuted]

def sampleAssessmentPlan (assertions : List EvidenceAssertion)
    (hbounds : 1 ≤ assertions.length ∧ assertions.length ≤ 32)
    (hsorted : (assertions.map EvidenceAssertion.assertionId).Pairwise (· < ·))
    (hrequirement : ∀ assertion ∈ assertions, assertion.requirementId = "requirement") :
    EvidenceAssessmentPlan where
  requirement := .create
  targetId := "t"
  targetVersion := "v"
  scopeId := "s"
  scopeVersion := 1
  assertions := assertions
  limits := ⟨11, 64, by decide, by decide⟩
  createdAt := 1
  deadline := 50
  idempotencyKey := "assessment"
  requirement_sealed := rfl
  assertions_bounds := hbounds
  assertions_sorted := hsorted
  requirement_bound := hrequirement
  window := by decide

def refutedPlan : EvidenceAssessmentPlan :=
  sampleAssessmentPlan refutedAssertions (by decide) (by decide +kernel) (by decide)

def coveredPlan : EvidenceAssessmentPlan :=
  sampleAssessmentPlan coveredAssertions (by decide) (by decide +kernel) (by decide)

def refutedAssessment : EvidenceAssessment where
  planId := "assessment"
  requirementId := "requirement"
  verdict := .negative
  satisfiedFacts := [.noStateChangeProven, .noTestArtifactsRemain]
  counterevidenceFacts := [.sealedGetSucceeded]
  unresolvedFacts := [.accessControlEnforced, .environmentOrVersionMismatch,
    .independentReplayMatched, .publicByDesign, .redactionBoundaryProven,
    .sensitiveDataClassPresent, .syntheticOrPlaceholderData, .unauthenticatedRequestProven]
  evidenceRefs := ["no_state_change_proven", "no_test_artifacts_remain", "sealed_get_succeeded"]
  cleanupRequirementSatisfied := true
  candidateProposalEligible := false
  assessedAt := 1
  isSealed := by decide +kernel

/-- It is what the assessment service finds. -/
theorem assess_refutedPlan :
    assess (fun _ => true) refutedPlan campaignScope 2 = .ok refutedAssessment := by
  decide +kernel

def refutedOutcome : EvidenceAssessmentOutcome :=
  ⟨"assessment", refutedAssessment, 1, first_of_three, rfl⟩

def samplePhase (ordinal : ℕ) (kind : CampaignPhaseKind) : CampaignPhase :=
  ⟨"p" ++ toString ordinal, ordinal, kind⟩

def sampleCampaign : GoalDrivenCampaignPlan where
  campaignPlanId := "c"
  goal := ⟨"goal", .evidenceRequirementSatisfaction⟩
  scopeId := "s"
  scopeVersion := 1
  targetIds := ["t"]
  phases := [samplePhase 1 .scopeConfirmation, samplePhase 2 .observation,
    samplePhase 3 .hypothesis, samplePhase 4 .validation, samplePhase 5 .criticReview,
    samplePhase 6 .cleanupConfirmation]
  deadline := 40
  targets_bounds := by decide
  targets_sorted := List.pairwise_singleton _ _
  ordinals := rfl
  kinds := rfl

def sampleCampaignOutcome : GoalDrivenCampaignQualificationOutcome :=
  ⟨"c-outcome", "c", "goal"⟩

def sampleRuntime : CampaignRuntimeQualificationPlan where
  runtimePlanId := "r"
  campaignPlanId := "c"
  campaignPlanDigest := canonicalDigest sampleCampaign
  campaignOutcomeId := "c-outcome"
  campaignOutcomeDigest := canonicalDigest sampleCampaignOutcome
  scopeId := "s"
  scopeVersion := 1
  targetSetDigest := canonicalDigest sampleCampaign.targetIds
  phaseGraphDigest := canonicalDigest sampleCampaign.phases
  requiredPhaseIds := sampleCampaign.phases.map CampaignPhase.phaseId

def sampleRuntimeOutcome : CampaignRuntimeQualificationOutcome :=
  ⟨"r-outcome", "r", "c", "c-outcome"⟩

/-- Sources that hold one record of each kind. -/
def sampleSources (plan : EvidenceAssessmentPlan) : CampaignSources where
  campaignPlan id := if id = "c" then some sampleCampaign else none
  campaignOutcome id := if id = "c" then some sampleCampaignOutcome else none
  runtimePlan id := if id = "r" then some sampleRuntime else none
  runtimeOutcome id := if id = "r" then some sampleRuntimeOutcome else none
  assessmentPlan id := if id = plan.planId then some plan else none
  assessmentOutcome id := if id = "assessment" then some refutedOutcome else none
  campaignPlan_id h := by
    rw [Option.ite_none_right_eq_some] at h
    rw [← Option.some.inj h.2, h.1]
    rfl
  runtimePlan_id h := by
    rw [Option.ite_none_right_eq_some] at h
    rw [← Option.some.inj h.2, h.1]
    rfl
  assessmentPlan_id h := by
    rw [Option.ite_none_right_eq_some] at h
    rw [← Option.some.inj h.2, h.1]

def sampleOrchestrationLimits : CampaignOrchestrationLimits :=
  ⟨10, 3, by decide +kernel, by decide⟩

/-- The preparation of a plan of them. -/
def samplePreparation (plan : EvidenceAssessmentPlan) :
    Except CampaignOrchestrationError CampaignOrchestrationPlan :=
  prepareOrchestration (sampleSources plan) "c" "r" "assessment" campaignScope
    sampleOrchestrationLimits 5 30 "key"

def refutedOrchestration : CampaignOrchestrationPlan :=
  (samplePreparation refutedPlan).toOption.get (by decide +kernel)

def coveredOrchestration : CampaignOrchestrationPlan :=
  (samplePreparation coveredPlan).toOption.get (by decide +kernel)

def samplePhaseApproval (ordinal : ℕ) : ApprovalRequest where
  approvalId := "approval"
  engagementId := "g"
  targetId := none
  action := .advanceCampaignPhase
  actionDigest := "admission:p" ++ toString ordinal
  policyVersion := 1
  expiresAt := 90
  status := .granted
  decidedBy := some "operator"
  decidedAt := some ordinal

/-- An execution of a plan, with the approvals of its six phases. -/
def sampleExecution (plan : CampaignOrchestrationPlan) (now : Time) (stop : Option ℕ) :
    OrchestrationCall where
  plan := plan
  approvals := [1, 2, 3, 4, 5, 6].map samplePhaseApproval
  scope := campaignScope
  now := now
  clock _ := 0
  stop := stop

theorem sampleExecution_inTime (plan : CampaignOrchestrationPlan) (now : Time)
    (stop : Option ℕ) : (sampleExecution plan now stop).InTime := by
  intro reading
  simpa [sampleExecution] using plan.limits.timeout_bounds.1

/-- The approvals are those of the plan. -/
theorem sampleApprovals_ok : ∀ now ∈ [10, 20], ∀ plan ∈ [refutedOrchestration,
    coveredOrchestration], phaseApprovals plan (sampleExecution plan now none).approvals
      campaignScope now = .ok (sampleExecution plan now none).approvals := by
  decide +kernel

theorem execution_refuted :
    ((sampleSources refutedPlan).execute [] (sampleExecution refutedOrchestration 10 none)).2 =
      .error (.validationError "Campaign Phase Checkpoint binding is invalid") := by
  decide +kernel

/-- The assessment of a request that did not succeed is negative, and the execution of the plan
prepared of it raises after the claim. -/
theorem refutedOrchestration_stays_started :
    assess (fun _ => true) refutedPlan campaignScope 2 = .ok refutedOutcome.assessment ∧
      samplePreparation refutedPlan = .ok refutedOrchestration ∧
      phaseApprovals refutedOrchestration (sampleExecution refutedOrchestration 10 none).approvals
        campaignScope 10 = .ok (sampleExecution refutedOrchestration 10 none).approvals ∧
      (refutedOrchestration.createdAt ≤ 10 ∧ 10 < refutedOrchestration.deadline) ∧
      (sampleExecution refutedOrchestration 10 none).InTime ∧
      ¬Completes (sampleSources refutedPlan) [] (sampleExecution refutedOrchestration 10 none)
        .refuted ∧
      ((sampleSources refutedPlan).step [] (sampleExecution refutedOrchestration 10 none)).map
        OrchestrationRow.state = [.started] := by
  refine ⟨assess_refutedPlan, eq_ok_get _, sampleApprovals_ok 10 (by simp) _ (by simp),
    by decide +kernel, sampleExecution_inTime _ _ _, ?_, by decide +kernel⟩
  rintro ⟨outcome, -, h, -⟩
  have hraises := execution_refuted
  rw [h] at hraises
  cases hraises

theorem coveredPlan_covered : Covered coveredPlan.assertions := by
  intro stage hstage
  cases stage
  · exact ⟨sampleAssertion .sealedGetSucceeded .refuted, by decide, rfl⟩
  · exact ⟨sampleAssertion .independentReplayMatched .supported, by decide, rfl⟩
  · exact ⟨sampleAssertion .accessControlEnforced .refuted, by decide, rfl⟩
  · exact absurd rfl hstage

/-- With a validation and a review the same campaign closes as refuted. -/
theorem coveredOrchestration_closes :
    Completes (sampleSources coveredPlan) [] (sampleExecution coveredOrchestration 10 none)
      .refuted := by
  have hprepare : samplePreparation coveredPlan = .ok coveredOrchestration := eq_ok_get _
  change prepareOrchestration (sampleSources coveredPlan) "c" "r" "assessment"
    (sampleExecution coveredOrchestration 10 none).scope sampleOrchestrationLimits 5 30 "key" =
      .ok (sampleExecution coveredOrchestration 10 none).plan at hprepare
  have hplan : (sampleSources coveredPlan).assessmentPlan "assessment" = some coveredPlan := by
    simp [sampleSources, show coveredPlan.planId = "assessment" from rfl]
  have houtcome : (sampleSources coveredPlan).assessmentOutcome "assessment" =
    some refutedOutcome := by simp [sampleSources]
  have happrovals := sampleApprovals_ok 10 (by simp) coveredOrchestration (by simp)
  exact (execution_closes_iff textCheckpointId_injective assertionId_ne_assessmentId hprepare
    hplan houtcome happrovals (by decide +kernel) (sampleExecution_inTime _ _ _) rfl .nil
    (Or.inl fun _ h => by cases h)).2 coveredPlan_covered

end Sample

end VulnLoom

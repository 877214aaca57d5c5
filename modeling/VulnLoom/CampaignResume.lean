import VulnLoom.CampaignClosure
import VulnLoom.Transition

/-!
# Resuming an orchestration

Executions of any plans, stopped anywhere, one after the other. The checkpoints in the row of a
plan are the first ones of those its sources and approvals give at one instant
(`RecordedAtOnce`), since an execution compares them with its own before it adds to them. The
instant is part of a checkpoint : an execution at another instant is rejected as a drift, unless
nothing is recorded yet.
-/

set_option linter.unusedSectionVars false

namespace VulnLoom

section

variable [EvidenceDigests] [AssessmentDigests] [CampaignDigests] [OrchestrationDigests]

/-! ## The rows of the other plans -/

theorem recordPhases_onlyPlan (call : OrchestrationCall)
    (rest : List CampaignPhaseCheckpoint) : ∀ (reading : ℕ) (stop : Option ℕ)
    (rows : List OrchestrationRow), OnlyPlan call.plan.orchestrationPlanId rows
      (call.recordPhases reading stop rest rows).1 := by
  induction rest with
  | nil =>
    intro reading stop rows
    by_cases hstop : stop = some 0
    · rw [hstop, recordPhases_stopped]
      exact OnlyPlan.refl _ _
    · rw [recordPhases_nil call hstop]
      exact OnlyPlan.refl _ _
  | cons checkpoint rest ih =>
    intro reading stop rows
    by_cases hstop : stop = some 0
    · rw [hstop, recordPhases_stopped]
      exact OnlyPlan.refl _ _
    cases htime : call.checkDeadline reading with
    | error e =>
      rw [recordPhases_late hstop htime]
      exact OnlyPlan.refl _ _
    | ok u =>
      cases hrecord : recordCheckpoint rows call.plan checkpoint with
      | error e =>
        rw [recordPhases_refused hstop htime hrecord]
        exact OnlyPlan.refl _ _
      | ok recorded =>
        rw [recordPhases_cons hstop rest htime hrecord]
        exact (recordCheckpoint_onlyPlan hrecord).trans (ih _ _ _)

theorem finish_onlyPlan {call : OrchestrationCall} {records : CampaignRecords}
    {expected : List CampaignPhaseCheckpoint} {attempt reading : ℕ}
    {rows completed : List OrchestrationRow} {outcome : CampaignOrchestrationOutcome}
    (h : call.finish records expected attempt reading rows = .ok (completed, outcome)) :
    OnlyPlan call.plan.orchestrationPlanId rows completed := by
  simp only [OrchestrationCall.finish, bind_eq_ok, pure_eq_ok, Prod.mk.injEq] at h
  obtain ⟨-, -, closure, -, outcome', -, -, -, _, hcomplete, rfl, rfl⟩ := h
  exact completeOrchestration_onlyPlan hcomplete

theorem carryOut_onlyPlan (call : OrchestrationCall) (records : CampaignRecords)
    (ordered : List ApprovalRequest) (claim : CampaignOrchestrationClaim)
    (rows : List OrchestrationRow) : OnlyPlan call.plan.orchestrationPlanId rows
      (call.carryOut records ordered claim rows).1 := by
  unfold OrchestrationCall.carryOut
  cases records.checkpoints call.plan ordered call.now with
  | error e => exact OnlyPlan.refl _ _
  | ok expected =>
    dsimp only
    split_ifs with hdrift
    · exact OnlyPlan.refl _ _
    · have honly := recordPhases_onlyPlan call (expected.drop claim.checkpoints.length) 2
        call.stop rows
      rcases hrecord : call.recordPhases 2 call.stop (expected.drop claim.checkpoints.length)
        rows with ⟨recorded, e | reading⟩
      · rw [hrecord] at honly
        exact honly
      · rw [hrecord] at honly
        dsimp only
        cases hfinish : call.finish records expected claim.attempt reading recorded with
        | error e => exact honly
        | ok result => exact honly.trans (finish_onlyPlan hfinish)

/-- An execution concerns the row of its plan. -/
theorem step_onlyPlan (sources : CampaignSources) (rows : List OrchestrationRow)
    (call : OrchestrationCall) :
    OnlyPlan call.plan.orchestrationPlanId rows (sources.step rows call) := by
  unfold CampaignSources.step CampaignSources.execute
  cases call.admission sources with
  | error e => exact OnlyPlan.refl _ _
  | ok admitted =>
    dsimp only
    cases hclaim : claimOrchestration rows call.plan call.now with
    | error e => exact OnlyPlan.refl _ _
    | ok result =>
      obtain ⟨claimed, claim⟩ := result
      have honly := claimOrchestration_onlyPlan hclaim
      dsimp only
      cases claim.outcome with
      | some outcome => exact honly
      | none => exact honly.trans (carryOut_onlyPlan _ _ _ _ _)

/-! ## What an execution leaves in its row -/

section OwnRow

variable {sources : CampaignSources} {plan : CampaignOrchestrationPlan}
  {records : CampaignRecords} {ordered : List ApprovalRequest}

/-- The checkpoints in the row are the first ones of those of one instant. -/
def RecordedAtOnce (records : CampaignRecords) (plan : CampaignOrchestrationPlan)
    (ordered : List ApprovalRequest) (row : OrchestrationRow) : Prop :=
  row.checkpoints = [] ∨ ∃ recordedAt expected,
    records.checkpoints plan ordered recordedAt = .ok expected ∧ row.checkpoints <+: expected

/-- What holds of the started row of a plan, in a table with its keys. -/
def Resumable (records : CampaignRecords) (plan : CampaignOrchestrationPlan)
    (ordered : List ApprovalRequest) (rows : List OrchestrationRow) : Prop :=
  OrchestrationKeys rows ∧ ∀ row ∈ rows, row.plan = plan → row.state = .started →
    RecordedAtOnce records plan ordered row

variable {rows : List OrchestrationRow} {row : OrchestrationRow}

/-- A change of the row of the plan that leaves it completed, or recorded at once. -/
theorem Resumable.put {row' : OrchestrationRow} (hkeys : OrchestrationKeys rows)
    (hrow : row ∈ rows) (hplan : row.plan = plan) (hplan' : row'.plan = plan)
    (hrow' : row'.state = .started → RecordedAtOnce records plan ordered row') :
    Resumable records plan ordered (Table.put OrchestrationRow.planId row' rows) := by
  have hkeys' : OrchestrationKeys (Table.put OrchestrationRow.planId row' rows) :=
    hkeys.put hrow (hplan'.trans hplan.symm)
  refine ⟨hkeys', fun r hr hrplan hrstate => ?_⟩
  have hmem : row' ∈ Table.put OrchestrationRow.planId row' rows :=
    Table.mem_put_self hrow
      (by rw [OrchestrationRow.planId, hplan, OrchestrationRow.planId, hplan'])
  have hr' : r = row' := Table.eq_of_key hkeys'.1 hr hmem
    (by rw [OrchestrationRow.planId, hrplan, OrchestrationRow.planId, hplan'])
  subst hr'
  exact hrow' hrstate

theorem completeOrchestration_ok {rows' : List OrchestrationRow} (hkeys : OrchestrationKeys rows)
    (hrow : row ∈ rows) {outcome : CampaignOrchestrationOutcome} {now : Time}
    (h : completeOrchestration rows row.plan outcome now = .ok rows') :
    rows' = Table.put OrchestrationRow.planId (row.withOutcome outcome now) rows := by
  have hcomplete := h
  simp only [completeOrchestration, bind_eq_ok, orchestrationRow_eq hkeys hrow, Except.ok.injEq,
    raiseIf_eq_ok, not_or, not_not, pure_eq_ok] at hcomplete
  obtain ⟨_, rfl, -, -, -, ⟨hstate, hattempt, hlength, hids⟩, -⟩ := hcomplete
  rw [completeOrchestration_eq hkeys hrow hstate hattempt hlength hids now] at h
  exact (Except.ok.inj h).symm

/-- A claim returns the stored outcome, or leaves a started row with the checkpoints it had. -/
theorem claim_ok {claimed : List OrchestrationRow} {now : Time}
    {claim : CampaignOrchestrationClaim} (hkeys : OrchestrationKeys rows)
    (h : claimOrchestration rows plan now = .ok (claimed, claim)) :
    (claimed = rows ∧ claim.outcome.isSome) ∨
      ∃ row, OrchestrationKeys claimed ∧ row ∈ claimed ∧ row.plan = plan ∧
        row.state = .started ∧ claim = ⟨row.attempt, row.checkpoints, none⟩ ∧
        (row.checkpoints = [] ∨ ∃ old ∈ rows, old.plan = plan ∧ old.state = .started ∧
          old.checkpoints = row.checkpoints) := by
  have honly := claimOrchestration_onlyPlan h
  cases hinsert : Table.insert orchestrationClash rows (plan.row now) with
  | some inserted =>
    rw [claimOrchestration, hinsert] at h
    obtain ⟨rfl, rfl⟩ := Prod.mk.inj (Except.ok.inj h)
    obtain ⟨-, rfl⟩ := Table.insert_eq_some.1 hinsert
    exact Or.inr ⟨plan.row now, honly.1 hkeys, by simp, rfl, rfl, rfl, Or.inl rfl⟩
  | none =>
    have hreclaim := h
    rw [claimOrchestration, hinsert] at h
    simp only [reclaim, bind_eq_ok] at h
    obtain ⟨row, hfind, ⟨⟩, hsame, h⟩ := h
    have hrow : row ∈ rows := by
      rw [orchestrationRow, orRaise_eq_ok] at hfind
      exact List.mem_of_find?_eq_some hfind
    rw [OrchestrationRow.same, raiseIf_eq_ok, not_or, not_not, not_not] at hsame
    obtain ⟨-, rfl⟩ := hsame
    split_ifs at h with hstate
    · simp only [bind_eq_ok, pure_eq_ok, Prod.mk.injEq] at h
      obtain ⟨outcome, -, rfl, rfl⟩ := h
      exact Or.inl ⟨rfl, rfl⟩
    · have hstarted : row.state = .started := by
        cases hrowstate : row.state with
        | started => rfl
        | completed => exact absurd hrowstate hstate
      simp only [bind_eq_ok, raiseIf_eq_ok, not_le] at h
      obtain ⟨-, hattempt, -⟩ := h
      rw [reclaim_started hkeys hrow hstarted hattempt now] at hreclaim
      obtain ⟨rfl, rfl⟩ := Prod.mk.inj (Except.ok.inj hreclaim)
      exact Or.inr ⟨row.withAttempt (row.attempt + 1) now, honly.1 hkeys,
        Table.mem_put_self hrow rfl, rfl, hstarted, rfl,
        Or.inr ⟨row, hrow, rfl, hstarted, rfl⟩⟩

variable {call : OrchestrationCall}

/-- What an execution does after its claim leaves the row recorded at once, or completed. -/
theorem carryOut_resumable (hmatches : records.Matches call.plan)
    (happrovals : phaseApprovals call.plan call.approvals call.scope call.now = .ok ordered)
    (hkeys : OrchestrationKeys rows) (hrow : row ∈ rows) (hplan : row.plan = call.plan)
    (hstate : row.state = .started) (honce : RecordedAtOnce records call.plan ordered row)
    (attempt : ℕ) : Resumable records call.plan ordered
      (call.carryOut records ordered ⟨attempt, row.checkpoints, none⟩ rows).1 := by
  have hsame : Resumable records call.plan ordered rows := by
    have h := Resumable.put hkeys hrow hplan hplan fun _ => honce
    rwa [Table.put_self hkeys.1 hrow] at h
  unfold OrchestrationCall.carryOut
  cases hexpected : records.checkpoints call.plan ordered call.now with
  | error e => exact hsame
  | ok expected =>
    dsimp only
    split_ifs with hdrift
    · exact hsame
    rw [not_not] at hdrift
    obtain ⟨hordinals, -⟩ := checkpoints_ok hmatches happrovals hexpected
    have hlength : expected.length = 6 := by
      rw [← List.length_map (f := CampaignPhaseCheckpoint.ordinal), hordinals]
      rfl
    have hsplit : expected = row.checkpoints ++ expected.drop row.checkpoints.length := by
      conv_lhs => rw [← List.take_append_drop row.checkpoints.length expected]
      rw [← hdrift]
    obtain ⟨⟨more, hmore, hrows, -⟩, -⟩ :=
      recordPhases_spec call (by rw [hordinals, hlength]; rfl) _ _ hsplit 2 call.stop
        hkeys hrow hplan hstate rfl
    have hfirst : row.checkpoints ++ more <+: expected := by
      conv_rhs => rw [hsplit]
      exact List.prefix_append_right_inj row.checkpoints |>.2 hmore
    have hrecorded : Resumable records call.plan ordered (Table.put OrchestrationRow.planId
        (row.withCheckpoints (row.checkpoints ++ more)) rows) :=
      Resumable.put hkeys hrow hplan hplan fun _ =>
        Or.inr ⟨call.now, expected, hexpected, hfirst⟩
    rcases hrecord : call.recordPhases 2 call.stop (expected.drop row.checkpoints.length)
      rows with ⟨recorded, e | reading⟩
    · rw [hrecord] at hrows
      simp only at hrows
      rw [hrows]
      exact hrecorded
    · rw [hrecord] at hrows
      simp only at hrows
      subst hrows
      dsimp only
      cases hfinish : call.finish records expected attempt reading (Table.put
        OrchestrationRow.planId (row.withCheckpoints (row.checkpoints ++ more)) rows) with
      | error e => exact hrecorded
      | ok result =>
        obtain ⟨completed, outcome⟩ := result
        simp only [OrchestrationCall.finish, bind_eq_ok, pure_eq_ok, Prod.mk.injEq] at hfinish
        obtain ⟨-, -, closure, -, outcome', -, -, -, _, hcomplete, rfl, rfl⟩ := hfinish
        have hrow' : row.withCheckpoints (row.checkpoints ++ more) ∈ Table.put
            OrchestrationRow.planId (row.withCheckpoints (row.checkpoints ++ more)) rows :=
          Table.mem_put_self hrow rfl
        rw [← hplan] at hcomplete
        have hput := completeOrchestration_ok hrecorded.1 hrow' hcomplete
        dsimp only
        rw [hput]
        exact Resumable.put hrecorded.1 hrow' hplan hplan fun h => by cases h

/-- An execution of the plan with its approvals keeps its row so. -/
theorem step_resumable
    (hread : sources.read call.plan.campaignPlanId call.plan.runtimePlanId
      call.plan.evidenceAssessmentPlanId = .ok records)
    (hordered : ∀ ordered', phaseApprovals call.plan call.approvals call.scope call.now =
      .ok ordered' → ordered' = ordered) (h : Resumable records call.plan ordered rows) :
    Resumable records call.plan ordered (sources.step rows call) := by
  unfold CampaignSources.step CampaignSources.execute
  cases hadmission : call.admission sources with
  | error e => exact h
  | ok admitted =>
    obtain ⟨records', ordered'⟩ := admitted
    obtain ⟨hread', -, -, hmatches, -, happrovals, -⟩ := admission_eq_ok.1 hadmission
    obtain rfl := Except.ok.inj (hread.symm.trans hread')
    obtain rfl := hordered _ happrovals
    dsimp only
    cases hclaim : claimOrchestration rows call.plan call.now with
    | error e => exact h
    | ok result =>
      obtain ⟨claimed, claim⟩ := result
      dsimp only
      rcases claim_ok h.1 hclaim with ⟨rfl, hsome⟩ |
        ⟨row, hkeys, hrow, hplan, hstate, rfl, hcheckpoints⟩
      · obtain ⟨outcome, houtcome⟩ := Option.isSome_iff_exists.1 hsome
        rw [houtcome]
        exact h
      · refine carryOut_resumable hmatches happrovals hkeys hrow hplan hstate ?_ _
        rcases hcheckpoints with hnil | ⟨old, hold, holdplan, holdstate, heq⟩
        · exact Or.inl hnil
        · have honce := h.2 old hold holdplan holdstate
          rwa [RecordedAtOnce, heq] at honce

end OwnRow

/-! ## Resuming -/

section Resume

variable {sources : CampaignSources} {call : OrchestrationCall} {records : CampaignRecords}
  {ordered : List ApprovalRequest} {rows : List OrchestrationRow} {row : OrchestrationRow}

/-- Every execution of the plan of `call` has its approvals. -/
def SameApprovals (call : OrchestrationCall) (calls : List OrchestrationCall) : Prop :=
  ∀ earlier ∈ calls, earlier.plan.orchestrationPlanId = call.plan.orchestrationPlanId →
    earlier.plan = call.plan ∧ earlier.approvals = call.approvals

/-- In every run the row of the plan is recorded at once. -/
theorem run_resumable (hadmission : call.admission sources = .ok (records, ordered)) :
    ∀ (calls : List OrchestrationCall), SameApprovals call calls →
      ∀ {rows : List OrchestrationRow}, Resumable records call.plan ordered rows →
        Resumable records call.plan ordered (Transition.run sources.step rows calls)
  | [], _, _, h => h
  | earlier :: calls, hcalls, rows, h => by
    obtain ⟨hread, -, -, -, -, happrovals, -⟩ := admission_eq_ok.1 hadmission
    refine run_resumable hadmission calls
      (fun c hc => hcalls c (List.mem_cons_of_mem _ hc)) ?_
    by_cases hid : earlier.plan.orchestrationPlanId = call.plan.orchestrationPlanId
    · obtain ⟨hplan, hsame⟩ := hcalls earlier List.mem_cons_self hid
      rw [← hplan] at hread h ⊢
      refine step_resumable hread (fun ordered' hordered' => ?_) h
      rw [hplan, hsame] at hordered'
      exact phaseApprovals_unique hordered' happrovals
    · obtain ⟨hkeys, hrows⟩ := step_onlyPlan sources rows earlier
      refine ⟨hkeys h.1, fun r hr hplan hstate => h.2 r ((hrows r ?_).1 hr) hplan hstate⟩
      rw [OrchestrationRow.planId, hplan]
      exact fun heq => hid heq.symm

/-- The execution completes its row : the checkpoints that were recorded stay and the others
follow in order, the disposition is that of an uninterrupted execution, and executing the plan
once more returns the stored outcome. -/
def Resumes (sources : CampaignSources) (rows : List OrchestrationRow) (row : OrchestrationRow)
    (call : OrchestrationCall) : Prop :=
  ∃ outcome final, sources.execute rows call = (sources.step rows call, .ok outcome) ∧
    final ∈ sources.step rows call ∧ final.plan = call.plan ∧ final.state = .completed ∧
    row.checkpoints <+: final.checkpoints ∧
    final.checkpoints.map CampaignPhaseCheckpoint.ordinal = [1, 2, 3, 4, 5, 6] ∧
    Completes sources [] call outcome.closure.disposition ∧
    ∀ again : OrchestrationCall, again.plan = call.plan →
      (∃ admitted, again.admission sources = .ok admitted) →
      sources.execute (sources.step rows call) again = (sources.step rows call, .ok outcome)

/-- A started row with attempts left, where the clock stays within the limit, resumes exactly
when its checkpoints are the first ones of those of this instant. -/
theorem resumes_iff_first (hdigest : Function.Injective CampaignPhaseCheckpoint.checkpointId)
    (hadmission : call.admission sources = .ok (records, ordered)) (htime : call.InTime)
    (hstop : call.stop = none) (hkeys : OrchestrationKeys rows) (hrow : row ∈ rows)
    (hplan : row.plan = call.plan) (hstate : row.state = .started)
    (hattempt : row.attempt < call.plan.limits.maxAttempts) :
    Resumes sources rows row call ↔
      ∃ expected, records.checkpoints call.plan ordered call.now = .ok expected ∧
        row.checkpoints <+: expected := by
  obtain ⟨-, -, -, hmatches, -, happrovals, -⟩ := admission_eq_ok.1 hadmission
  have hclaim := reclaim_started hkeys hrow hstate (hplan ▸ hattempt) call.now
  rw [hplan] at hclaim
  have hexecute := execute_claimed hadmission hclaim
  constructor
  · rintro ⟨outcome, -, hresult, -⟩
    rw [hexecute] at hresult
    have hok := congrArg Prod.snd hresult
    unfold OrchestrationCall.carryOut at hok
    cases hexpected : records.checkpoints call.plan ordered call.now with
    | error e =>
      rw [hexpected] at hok
      cases hok
    | ok expected =>
      rw [hexpected] at hok
      dsimp only at hok
      split_ifs at hok with hdrift
      rw [not_not] at hdrift
      refine ⟨expected, rfl, ?_⟩
      rw [hdrift]
      exact List.take_prefix _ _
  · rintro ⟨expected, hexpected, hfirst⟩
    obtain ⟨hordinals, -⟩ := checkpoints_ok hmatches happrovals hexpected
    have hlimits := call.plan.limits.attempts_bounds
    have hkeys' : OrchestrationKeys (Table.put OrchestrationRow.planId
        (row.withAttempt (row.attempt + 1) call.now) rows) := hkeys.put hrow rfl
    have hrow' : row.withAttempt (row.attempt + 1) call.now ∈ Table.put OrchestrationRow.planId
        (row.withAttempt (row.attempt + 1) call.now) rows := Table.mem_put_self hrow rfl
    obtain ⟨outcome, hcarry, hdisposition⟩ := carryOut_ok hdigest hordinals hexpected hkeys' hrow'
      hplan hstate
      ⟨Nat.le_add_left _ _, by simp only [OrchestrationRow.withAttempt_attempt]; omega⟩
      (List.prefix_iff_eq_take.1 hfirst) htime hstop
    simp only [OrchestrationRow.withAttempt_attempt,
      OrchestrationRow.withAttempt_checkpoints] at hcarry
    rw [← hexecute] at hcarry
    have hfinal : ((row.withAttempt (row.attempt + 1) call.now).withCheckpoints
        expected).withOutcome outcome call.now ∈ sources.step rows call := by
      rw [CampaignSources.step, hcarry]
      exact Table.mem_put_self hrow' rfl
    refine ⟨outcome, _, ?_, hfinal, hplan, rfl, hfirst, hordinals, ?_, ?_⟩
    · rw [CampaignSources.step, hcarry]
    · rw [hdisposition]
      exact (completes_iff_checkpoints hdigest .nil
        (Or.inl fun _ h => by cases h) hadmission htime hstop).2 ⟨expected, hexpected⟩
    · rintro again hagain ⟨admitted, hadmission'⟩
      have hkeys'' : OrchestrationKeys (sources.step rows call) :=
        (step_onlyPlan sources rows call).1 hkeys
      have hclaim' := reclaim_completed hkeys'' hfinal rfl rfl again.now
      simp only [OrchestrationRow.withOutcome_plan, OrchestrationRow.withCheckpoints_plan,
        OrchestrationRow.withAttempt_plan, hplan, ← hagain] at hclaim'
      simp only [CampaignSources.execute, hadmission', hclaim']

/-- After any run of executions, where those of the plan have its approvals, an execution of a
plan that is started with attempts left resumes it exactly when the three stages are covered and
the recorded checkpoints were recorded at this very instant. -/
theorem execution_resumes_iff
    (hdigest : Function.Injective CampaignPhaseCheckpoint.checkpointId)
    (hdigests : ∀ (assertion : EvidenceAssertion) (assessment : EvidenceAssessment),
      assertion.assertionId ≠ assessment.assessmentId)
    (hadmission : call.admission sources = .ok (records, ordered)) (htime : call.InTime)
    (hstop : call.stop = none) {calls : List OrchestrationCall}
    (hcalls : SameApprovals call calls) (hkeys : OrchestrationKeys rows)
    (hfresh : ∀ r ∈ rows, r.planId ≠ call.plan.orchestrationPlanId)
    (hrow : row ∈ Transition.run sources.step rows calls) (hplan : row.plan = call.plan)
    (hstate : row.state = .started) (hattempt : row.attempt < call.plan.limits.maxAttempts) :
    Resumes sources (Transition.run sources.step rows calls) row call ↔
      Covered records.assessmentPlan.assertions ∧
        ∀ checkpoint ∈ row.checkpoints, checkpoint.recordedAt = call.now := by
  obtain ⟨-, -, -, hmatches, -, happrovals, -⟩ := admission_eq_ok.1 hadmission
  have hstart : Resumable records call.plan ordered rows := by
    refine ⟨hkeys, fun r hr hrplan _ => absurd ?_ (hfresh r hr)⟩
    rw [OrchestrationRow.planId, hrplan]
  obtain ⟨hkeys', honce⟩ := run_resumable hadmission calls hcalls hstart
  have hcovered := (checkpoints_isOk_iff hmatches happrovals call.now).trans
    (phaseRefs_sealed_iff hdigests)
  rw [resumes_iff_first hdigest hadmission htime hstop hkeys' hrow hplan hstate hattempt,
    ← hcovered]
  constructor
  · rintro ⟨expected, hexpected, hfirst⟩
    obtain ⟨-, hinstant⟩ := checkpoints_ok hmatches happrovals hexpected
    exact ⟨⟨expected, hexpected⟩, fun checkpoint hmem => hinstant _ (hfirst.subset hmem)⟩
  · rintro ⟨⟨expected, hexpected⟩, hnow⟩
    refine ⟨expected, hexpected, ?_⟩
    rcases honce row hrow hplan hstate with hnil | ⟨recordedAt, recorded, hrecorded, hfirst⟩
    · rw [hnil]
      exact List.nil_prefix
    · by_cases hnil : row.checkpoints = []
      · rw [hnil]
        exact List.nil_prefix
      · -- the instant of the recorded checkpoints is this one, so they are the expected ones
        obtain ⟨checkpoint, hmem⟩ := List.exists_mem_of_ne_nil _ hnil
        obtain ⟨-, hinstant⟩ := checkpoints_ok hmatches happrovals hrecorded
        have heq : recordedAt = call.now :=
          (hinstant _ (hfirst.subset hmem)).symm.trans (hnow _ hmem)
        rw [heq, hexpected] at hrecorded
        rw [Except.ok.inj hrecorded]
        exact hfirst

end Resume

end

/-! ## Another instant -/

section Sample

attribute [local instance] textEvidenceDigests textAssessmentDigests textCampaignDigests
  textOrchestrationDigests

/-- The rows after an execution at instant 10 that stopped after three phases. -/
def interruptedRows : List OrchestrationRow :=
  Transition.run (sampleSources coveredPlan).step []
    [sampleExecution coveredOrchestration 10 (some 3)]

def interruptedRow : OrchestrationRow :=
  interruptedRows.head?.get (by decide +kernel)

theorem interruptedRow_mem : interruptedRow ∈ interruptedRows :=
  List.mem_of_mem_head? (Option.get_mem _)

theorem interruptedRow_columns : interruptedRow.plan = coveredOrchestration ∧
    interruptedRow.state = .started ∧ interruptedRow.attempt = 1 ∧
    interruptedRow.checkpoints.map CampaignPhaseCheckpoint.recordedAt = [10, 10, 10] := by
  decide +kernel

theorem sampleExecution_admitted : ∀ now ∈ [10, 20], (((sampleExecution coveredOrchestration now
    none).admission (sampleSources coveredPlan)).toOption.map fun admitted =>
      admitted.1.assessmentPlan) = some coveredPlan := by
  decide +kernel

theorem execution_drifted : ((sampleSources coveredPlan).execute interruptedRows
    (sampleExecution coveredOrchestration 20 none)).2 =
      .error (.rejected "persisted Campaign Phase checkpoints drifted") := by
  decide +kernel

/-- The same execution ten microseconds later is admitted and does not resume. -/
theorem interruptedRow_drifts :
    interruptedRow ∈ interruptedRows ∧ interruptedRow.plan = coveredOrchestration ∧
      interruptedRow.state = .started ∧
      interruptedRow.attempt < coveredOrchestration.limits.maxAttempts ∧
      (∃ admitted, (sampleExecution coveredOrchestration 20 none).admission
        (sampleSources coveredPlan) = .ok admitted) ∧
      (sampleExecution coveredOrchestration 20 none).InTime ∧
      ¬Resumes (sampleSources coveredPlan) interruptedRows interruptedRow
        (sampleExecution coveredOrchestration 20 none) := by
  obtain ⟨hplan, hstate, -, -⟩ := interruptedRow_columns
  obtain ⟨admitted, hadmitted, -⟩ := exists_ok_of_map (sampleExecution_admitted 20 (by simp))
  refine ⟨interruptedRow_mem, hplan, hstate, by decide +kernel, ⟨admitted, hadmitted⟩,
    sampleExecution_inTime _ _ _, ?_⟩
  rintro ⟨outcome, -, h, -⟩
  have hdrift := execution_drifted
  rw [h] at hdrift
  cases hdrift

/-- At the instant of the recorded checkpoints it resumes. -/
theorem interruptedRow_resumes : Resumes (sampleSources coveredPlan) interruptedRows
    interruptedRow (sampleExecution coveredOrchestration 10 none) := by
  obtain ⟨hplan, hstate, hattempt, hinstants⟩ := interruptedRow_columns
  obtain ⟨⟨records, ordered⟩, hadmitted, hassessment⟩ :=
    exists_ok_of_map (sampleExecution_admitted 10 (by simp))
  have hcalls : SameApprovals (sampleExecution coveredOrchestration 10 none)
      [sampleExecution coveredOrchestration 10 (some 3)] := by
    intro earlier hearlier _
    rw [List.mem_singleton.1 hearlier]
    exact ⟨rfl, rfl⟩
  refine (execution_resumes_iff textCheckpointId_injective assertionId_ne_assessmentId hadmitted
    (sampleExecution_inTime _ _ _) rfl hcalls .nil (fun _ h => by cases h) interruptedRow_mem
    hplan hstate (by rw [hattempt]; decide +kernel)).2 ⟨?_, fun checkpoint hmem => ?_⟩
  · rw [show records.assessmentPlan = coveredPlan from hassessment]
    exact coveredPlan_covered
  · have hmem' := List.mem_map_of_mem (f := CampaignPhaseCheckpoint.recordedAt) hmem
    rw [hinstants] at hmem'
    exact (by simpa using hmem' : checkpoint.recordedAt = 10)

end Sample

end VulnLoom

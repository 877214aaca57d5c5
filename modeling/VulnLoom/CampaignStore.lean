import VulnLoom.CampaignModels

/-!
# The campaign orchestration store

One row for each plan : the plan as it was claimed, the attempt, and the phase checkpoints
recorded so far. The columns `orchestration_plan_id` and `idempotency_key` are those of the
row's plan. What a call does to the row of its plan is a `Table.put`; the rows of the other
plans stay (`OnlyPlan`).
-/

namespace VulnLoom

variable [CampaignDigests]

/-- A row of `red_team_campaign_orchestrations`. -/
structure OrchestrationRow where
  plan : CampaignOrchestrationPlan
  state : CampaignOrchestrationState
  attempt : ℕ
  checkpoints : List CampaignPhaseCheckpoint
  startedAt : Time
  completedAt : Option Time
  outcome : Option CampaignOrchestrationOutcome

structure CampaignOrchestrationClaim where
  attempt : ℕ
  checkpoints : List CampaignPhaseCheckpoint
  outcome : Option CampaignOrchestrationOutcome

/-- The row a first claim inserts. -/
def CampaignOrchestrationPlan.row (plan : CampaignOrchestrationPlan) (now : Time) :
    OrchestrationRow where
  plan := plan
  state := .started
  attempt := 1
  checkpoints := []
  startedAt := now
  completedAt := none
  outcome := none

/-- `SET attempt=?,started_at=?`. -/
def OrchestrationRow.withAttempt (attempt : ℕ) (now : Time) (row : OrchestrationRow) :
    OrchestrationRow :=
  { row with attempt := attempt, startedAt := now }

/-- `SET checkpoints_json=?`. -/
def OrchestrationRow.withCheckpoints (checkpoints : List CampaignPhaseCheckpoint)
    (row : OrchestrationRow) : OrchestrationRow :=
  { row with checkpoints := checkpoints }

/-- `SET state='completed',completed_at=?,outcome_json=?`. -/
def OrchestrationRow.withOutcome (outcome : CampaignOrchestrationOutcome) (now : Time)
    (row : OrchestrationRow) : OrchestrationRow :=
  { row with state := .completed, completedAt := some now, outcome := some outcome }

section Columns

variable (row : OrchestrationRow) (attempt : ℕ) (now : Time)
  (checkpoints : List CampaignPhaseCheckpoint) (outcome : CampaignOrchestrationOutcome)

@[simp] theorem OrchestrationRow.withAttempt_plan : (row.withAttempt attempt now).plan = row.plan :=
  rfl

@[simp] theorem OrchestrationRow.withAttempt_state :
    (row.withAttempt attempt now).state = row.state :=
  rfl

@[simp] theorem OrchestrationRow.withAttempt_attempt :
    (row.withAttempt attempt now).attempt = attempt :=
  rfl

@[simp] theorem OrchestrationRow.withAttempt_checkpoints :
    (row.withAttempt attempt now).checkpoints = row.checkpoints :=
  rfl

@[simp] theorem OrchestrationRow.withCheckpoints_plan :
    (row.withCheckpoints checkpoints).plan = row.plan :=
  rfl

@[simp] theorem OrchestrationRow.withCheckpoints_state :
    (row.withCheckpoints checkpoints).state = row.state :=
  rfl

@[simp] theorem OrchestrationRow.withCheckpoints_attempt :
    (row.withCheckpoints checkpoints).attempt = row.attempt :=
  rfl

@[simp] theorem OrchestrationRow.withCheckpoints_checkpoints :
    (row.withCheckpoints checkpoints).checkpoints = checkpoints :=
  rfl

@[simp] theorem OrchestrationRow.withCheckpoints_self :
    row.withCheckpoints row.checkpoints = row :=
  rfl

@[simp] theorem OrchestrationRow.withCheckpoints_withCheckpoints
    (checkpoints' : List CampaignPhaseCheckpoint) :
    (row.withCheckpoints checkpoints).withCheckpoints checkpoints' =
      row.withCheckpoints checkpoints' :=
  rfl

@[simp] theorem OrchestrationRow.withOutcome_plan : (row.withOutcome outcome now).plan = row.plan :=
  rfl

@[simp] theorem OrchestrationRow.withOutcome_state :
    (row.withOutcome outcome now).state = .completed :=
  rfl

@[simp] theorem OrchestrationRow.withOutcome_checkpoints :
    (row.withOutcome outcome now).checkpoints = row.checkpoints :=
  rfl

@[simp] theorem OrchestrationRow.withOutcome_outcome :
    (row.withOutcome outcome now).outcome = some outcome :=
  rfl

end Columns

variable [OrchestrationDigests]

def OrchestrationRow.planId (row : OrchestrationRow) : Digest :=
  row.plan.orchestrationPlanId

def OrchestrationRow.idempotencyKey (row : OrchestrationRow) : String :=
  row.plan.idempotencyKey

/-- The primary key and the unique column. -/
def orchestrationClash (a b : OrchestrationRow) : Bool :=
  a.planId = b.planId ∨ a.idempotencyKey = b.idempotencyKey

/-! ## The store -/

/-- `_row`. -/
def orchestrationRow (rows : List OrchestrationRow) (plan : CampaignOrchestrationPlan) :
    Except CampaignOrchestrationError OrchestrationRow :=
  orRaise (rows.find? fun row =>
      row.planId = plan.orchestrationPlanId ∨ row.idempotencyKey = plan.idempotencyKey)
    (.recoveryRequired "Campaign Orchestration checkpoint is unavailable")

/-- `_same`. -/
def OrchestrationRow.same (row : OrchestrationRow) (plan : CampaignOrchestrationPlan) :
    Except CampaignOrchestrationError Unit :=
  raiseIf (row.planId ≠ plan.orchestrationPlanId ∨ row.plan ≠ plan) (.storeRejected
    "Campaign Orchestration identity was reused for different content")

/-- The started row of a plan, as the updates select it. -/
def OrchestrationRow.isStarted (plan : CampaignOrchestrationPlan) (row : OrchestrationRow) :
    Bool :=
  row.planId = plan.orchestrationPlanId ∧ row.state = .started

/-- A claim of a plan that has a row : the stored outcome, or the next attempt. -/
def reclaim (rows : List OrchestrationRow) (plan : CampaignOrchestrationPlan) (now : Time) :
    Except CampaignOrchestrationError (List OrchestrationRow × CampaignOrchestrationClaim) := do
  let row ← orchestrationRow rows plan
  row.same plan
  if row.state = .completed then
    let outcome ← orRaise row.outcome
      (.validationError "Campaign Orchestration outcome is missing")
    return (rows, ⟨row.attempt, row.checkpoints, some outcome⟩)
  else
    raiseIf (plan.limits.maxAttempts ≤ row.attempt) (.recoveryRequired
      "Campaign Orchestration recovery attempts are exhausted")
    let selected : OrchestrationRow → Bool := fun r => r.isStarted plan ∧ r.attempt = row.attempt
    raiseIf (Table.rowcount selected rows ≠ 1) (.recoveryRequired
      "Campaign Orchestration recovery raced")
    return (Table.update selected (OrchestrationRow.withAttempt (row.attempt + 1) now) rows,
      ⟨row.attempt + 1, row.checkpoints, none⟩)

/-- `CampaignOrchestrationStore.claim`. -/
def claimOrchestration (rows : List OrchestrationRow) (plan : CampaignOrchestrationPlan)
    (now : Time) :
    Except CampaignOrchestrationError (List OrchestrationRow × CampaignOrchestrationClaim) :=
  match Table.insert orchestrationClash rows (plan.row now) with
  | some claimed => .ok (claimed, ⟨1, [], none⟩)
  | none => reclaim rows plan now

/-- `CampaignOrchestrationStore.record`. -/
def recordCheckpoint (rows : List OrchestrationRow) (plan : CampaignOrchestrationPlan)
    (checkpoint : CampaignPhaseCheckpoint) :
    Except CampaignOrchestrationError (List OrchestrationRow) := do
  let row ← orchestrationRow rows plan
  row.same plan
  raiseIf (row.state ≠ .started) (.storeRejected
    "completed Campaign Orchestration cannot accept checkpoints")
  if checkpoint.ordinal - 1 < row.checkpoints.length then
    raiseIf (row.checkpoints[checkpoint.ordinal - 1]? ≠ some checkpoint) (.storeRejected
      "Campaign Phase checkpoint content drifted")
    return rows
  else
    raiseIf (checkpoint.ordinal - 1 ≠ row.checkpoints.length) (.storeRejected
      "Campaign Phase checkpoint order is invalid")
    let selected : OrchestrationRow → Bool :=
      fun r => r.isStarted plan ∧ r.checkpoints = row.checkpoints
    raiseIf (Table.rowcount selected rows ≠ 1) (.recoveryRequired
      "Campaign Phase checkpoint raced")
    return Table.update selected
      (OrchestrationRow.withCheckpoints (row.checkpoints ++ [checkpoint])) rows

/-- `CampaignOrchestrationStore.complete`. -/
def completeOrchestration (rows : List OrchestrationRow) (plan : CampaignOrchestrationPlan)
    (outcome : CampaignOrchestrationOutcome) (now : Time) :
    Except CampaignOrchestrationError (List OrchestrationRow) := do
  let row ← orchestrationRow rows plan
  row.same plan
  raiseIf (row.state ≠ .started ∨ row.attempt ≠ outcome.attempt ∨ row.checkpoints.length ≠ 6 ∨
      row.checkpoints.map CampaignPhaseCheckpoint.checkpointId ≠
        outcome.closure.phaseCheckpointIds)
    (.recoveryRequired "Campaign Orchestration completion checkpoint is unavailable")
  return Table.update (OrchestrationRow.isStarted plan)
    (OrchestrationRow.withOutcome outcome now) rows

/-! ## The rows of the other plans -/

/-- Two rows share neither their plan nor their idempotency key. -/
def OrchestrationKeys (rows : List OrchestrationRow) : Prop :=
  (rows.map OrchestrationRow.planId).Nodup ∧ (rows.map OrchestrationRow.idempotencyKey).Nodup

theorem OrchestrationKeys.nil : OrchestrationKeys [] :=
  ⟨List.nodup_nil, List.nodup_nil⟩

/-- A change that concerns the row of one plan. -/
def OnlyPlan (planId : Digest) (rows rows' : List OrchestrationRow) : Prop :=
  (OrchestrationKeys rows → OrchestrationKeys rows') ∧
    ∀ row : OrchestrationRow, row.planId ≠ planId → (row ∈ rows' ↔ row ∈ rows)

theorem OnlyPlan.refl (planId : Digest) (rows : List OrchestrationRow) :
    OnlyPlan planId rows rows :=
  ⟨id, fun _ _ => Iff.rfl⟩

variable {rows rows' : List OrchestrationRow}

theorem OnlyPlan.trans {planId : Digest} {rows'' : List OrchestrationRow}
    (h : OnlyPlan planId rows rows') (h' : OnlyPlan planId rows' rows'') :
    OnlyPlan planId rows rows'' :=
  ⟨fun hkeys => h'.1 (h.1 hkeys), fun row hne => (h'.2 row hne).trans (h.2 row hne)⟩

theorem OnlyPlan.update {planId : Digest} {p : OrchestrationRow → Bool}
    {f : OrchestrationRow → OrchestrationRow} (hp : ∀ row, p row = true → row.planId = planId)
    (hf : ∀ row, (f row).plan = row.plan) (rows : List OrchestrationRow) :
    OnlyPlan planId rows (Table.update p f rows) := by
  have hid : ∀ row, (f row).planId = row.planId := by
    intro row
    rw [OrchestrationRow.planId, hf, OrchestrationRow.planId]
  have hkey : ∀ row, (f row).idempotencyKey = row.idempotencyKey := by
    intro row
    rw [OrchestrationRow.idempotencyKey, hf, OrchestrationRow.idempotencyKey]
  refine ⟨fun hkeys => ⟨Table.nodup_key_update hid hkeys.1,
    Table.nodup_key_update hkey hkeys.2⟩, fun row hne => ?_⟩
  rw [Table.mem_update]
  constructor
  · rintro ⟨row₀, hrow₀, heq⟩
    split_ifs at heq with hsel
    · rw [← heq, hid] at hne
      exact absurd (hp row₀ hsel) hne
    · exact heq ▸ hrow₀
  · intro hrow
    exact ⟨row, hrow, if_neg fun hsel => hne (hp row hsel)⟩

variable {plan : CampaignOrchestrationPlan} {now : Time}

theorem OnlyPlan.insert (h : Table.insert orchestrationClash rows (plan.row now) = some rows') :
    OnlyPlan plan.orchestrationPlanId rows rows' := by
  obtain ⟨hfresh, rfl⟩ := Table.insert_eq_some.1 h
  refine ⟨fun hkeys => ⟨Table.nodup_key_concat hkeys.1 fun r hr heq => ?_,
    Table.nodup_key_concat hkeys.2 fun r hr heq => ?_⟩, fun row hne => ?_⟩
  · have := hfresh r hr
    simp [orchestrationClash, heq] at this
  · have := hfresh r hr
    simp [orchestrationClash, heq] at this
  · rw [List.mem_append, List.mem_singleton, or_iff_left]
    rintro rfl
    exact hne rfl

theorem claimOrchestration_onlyPlan {claim : CampaignOrchestrationClaim}
    (h : claimOrchestration rows plan now = .ok (rows', claim)) :
    OnlyPlan plan.orchestrationPlanId rows rows' := by
  unfold claimOrchestration at h
  cases hinsert : Table.insert orchestrationClash rows (plan.row now) with
  | some claimed =>
    rw [hinsert] at h
    obtain ⟨rfl, -⟩ := Prod.mk.inj (Except.ok.inj h)
    exact OnlyPlan.insert hinsert
  | none =>
    rw [hinsert] at h
    simp only [reclaim, bind_eq_ok] at h
    obtain ⟨row, -, -, -, h⟩ := h
    split_ifs at h with hstate
    · simp only [bind_eq_ok, pure_eq_ok, Prod.mk.injEq] at h
      obtain ⟨-, -, rfl, -⟩ := h
      exact OnlyPlan.refl _ _
    · simp only [bind_eq_ok, pure_eq_ok, Prod.mk.injEq] at h
      obtain ⟨-, -, -, -, rfl, -⟩ := h
      refine OnlyPlan.update (fun r hr => ?_) ?_ rows
      · simp only [OrchestrationRow.isStarted, decide_eq_true_eq] at hr
        exact hr.1.1
      · exact fun _ => rfl

theorem recordCheckpoint_onlyPlan {checkpoint : CampaignPhaseCheckpoint}
    (h : recordCheckpoint rows plan checkpoint = .ok rows') :
    OnlyPlan plan.orchestrationPlanId rows rows' := by
  simp only [recordCheckpoint, bind_eq_ok] at h
  obtain ⟨row, -, -, -, -, -, h⟩ := h
  split_ifs at h
  · simp only [bind_eq_ok, pure_eq_ok] at h
    obtain ⟨-, -, rfl⟩ := h
    exact OnlyPlan.refl _ _
  · simp only [bind_eq_ok, pure_eq_ok] at h
    obtain ⟨-, -, -, -, rfl⟩ := h
    refine OnlyPlan.update (fun r hr => ?_) ?_ rows
    · simp only [OrchestrationRow.isStarted, decide_eq_true_eq] at hr
      exact hr.1.1
    · exact fun _ => rfl

theorem completeOrchestration_onlyPlan {outcome : CampaignOrchestrationOutcome}
    (h : completeOrchestration rows plan outcome now = .ok rows') :
    OnlyPlan plan.orchestrationPlanId rows rows' := by
  simp only [completeOrchestration, bind_eq_ok, pure_eq_ok] at h
  obtain ⟨row, -, -, -, -, -, rfl⟩ := h
  refine OnlyPlan.update (fun r hr => ?_) ?_ rows
  · simp only [OrchestrationRow.isStarted, decide_eq_true_eq] at hr
    exact hr.1
  · exact fun _ => rfl

/-! ## The row of the plan -/

section OwnRow

variable {rows : List OrchestrationRow} {row : OrchestrationRow} (hkeys : OrchestrationKeys rows)
  (hrow : row ∈ rows)

include hkeys hrow

theorem orchestrationRow_eq : orchestrationRow rows row.plan = .ok row := by
  have hsome : ∃ found, (rows.find? fun r => r.planId = row.plan.orchestrationPlanId ∨
      r.idempotencyKey = row.plan.idempotencyKey) = some found := by
    rw [← Option.isSome_iff_exists, List.find?_isSome]
    exact ⟨row, hrow, by simp [OrchestrationRow.planId]⟩
  obtain ⟨found, hfound⟩ := hsome
  have hmem := List.mem_of_find?_eq_some hfound
  have hmatch := List.find?_some hfound
  simp only [decide_eq_true_eq] at hmatch
  rw [orchestrationRow, hfound, orRaise]
  rcases hmatch with hid | hkey
  · rw [Table.eq_of_key hkeys.1 hmem hrow hid]
  · rw [Table.eq_of_key hkeys.2 hmem hrow hkey]

omit hkeys hrow in
@[simp] theorem OrchestrationRow.same_self : row.same row.plan = .ok () := by
  simp [OrchestrationRow.same, OrchestrationRow.planId]

theorem OrchestrationKeys.put {row' : OrchestrationRow} (hplan : row'.plan = row.plan) :
    OrchestrationKeys (Table.put OrchestrationRow.planId row' rows) := by
  have hkey : (Table.put OrchestrationRow.planId row' rows).map
      OrchestrationRow.idempotencyKey = rows.map OrchestrationRow.idempotencyKey := by
    simp only [Table.put, Table.update, List.map_map]
    refine List.map_congr_left fun r hr => ?_
    by_cases hid : r.planId = row'.planId
    · have hid' : r.planId = row.planId := by rw [hid, OrchestrationRow.planId, hplan]; rfl
      rw [Table.eq_of_key hkeys.1 hr hrow hid']
      simp [OrchestrationRow.planId, OrchestrationRow.idempotencyKey, hplan]
    · simp [hid]
  exact ⟨by rw [Table.map_put]; exact hkeys.1, by rw [hkey]; exact hkeys.2⟩

/-- What an update of the row's plan selects is that row. -/
theorem update_row_eq_put {p : OrchestrationRow → Bool} {f : OrchestrationRow → OrchestrationRow}
    (hself : p row = true) (hp : ∀ r, p r = true → r.planId = row.planId)
    (hf : (f row).plan = row.plan) :
    Table.rowcount p rows = 1 ∧
      Table.update p f rows = Table.put OrchestrationRow.planId (f row) rows := by
  have hput := Table.update_eq_put (f := f) hkeys.1 hrow hself
    (by rw [OrchestrationRow.planId, hf, OrchestrationRow.planId]) fun r _ hr => hp r hr
  refine ⟨?_, hput⟩
  rw [Table.rowcount, ← Table.countP_key hkeys.1 hrow]
  refine List.countP_congr fun r hr => ?_
  rw [decide_eq_true_eq]
  constructor
  · exact hp r
  · intro hid
    rw [Table.eq_of_key hkeys.1 hr hrow hid]
    exact hself

omit hkeys in
/-- The row of the plan is in the way of a second insert. -/
theorem insert_row_eq_none (now : Time) :
    Table.insert orchestrationClash rows (row.plan.row now) = none := by
  rw [Table.insert, if_pos]
  rw [List.any_eq_true]
  exact ⟨row, hrow, by simp [orchestrationClash, OrchestrationRow.planId,
    CampaignOrchestrationPlan.row]⟩

theorem reclaim_started (hstate : row.state = .started)
    (hattempt : row.attempt < row.plan.limits.maxAttempts) (now : Time) :
    claimOrchestration rows row.plan now = .ok
      (Table.put OrchestrationRow.planId (row.withAttempt (row.attempt + 1) now) rows,
      ⟨row.attempt + 1, row.checkpoints, none⟩) := by
  obtain ⟨hcount, hupdate⟩ := update_row_eq_put hkeys hrow
    (p := fun r => r.isStarted row.plan ∧ r.attempt = row.attempt)
    (f := OrchestrationRow.withAttempt (row.attempt + 1) now)
    (by simp [OrchestrationRow.isStarted, OrchestrationRow.planId, hstate])
    (fun r hr => by
      simp only [OrchestrationRow.isStarted, decide_eq_true_eq] at hr
      exact hr.1.1) rfl
  rw [claimOrchestration, insert_row_eq_none hrow]
  simp only [reclaim, bind_eq_ok]
  refine ⟨row, orchestrationRow_eq hkeys hrow, (), row.same_self, ?_⟩
  rw [if_neg (by simp [hstate])]
  simp only [bind_eq_ok, raiseIf_eq_ok, pure_eq_ok]
  exact ⟨(), not_le.2 hattempt, (), not_not.2 hcount, by rw [hupdate]⟩

variable {outcome : CampaignOrchestrationOutcome}

theorem reclaim_completed (hstate : row.state = .completed)
    (houtcome : row.outcome = some outcome) (now : Time) :
    claimOrchestration rows row.plan now = .ok
      (rows, ⟨row.attempt, row.checkpoints, some outcome⟩) := by
  rw [claimOrchestration, insert_row_eq_none hrow]
  simp only [reclaim, bind_eq_ok]
  refine ⟨row, orchestrationRow_eq hkeys hrow, (), row.same_self, ?_⟩
  rw [if_pos hstate]
  simp only [bind_eq_ok, orRaise_eq_ok, pure_eq_ok]
  exact ⟨outcome, houtcome, rfl⟩

/-- The next checkpoint is added to the row. -/
theorem recordCheckpoint_next (hstate : row.state = .started)
    {checkpoint : CampaignPhaseCheckpoint}
    (hordinal : checkpoint.ordinal = row.checkpoints.length + 1) :
    recordCheckpoint rows row.plan checkpoint = .ok
      (Table.put OrchestrationRow.planId
        (row.withCheckpoints (row.checkpoints ++ [checkpoint])) rows) := by
  obtain ⟨hcount, hupdate⟩ := update_row_eq_put hkeys hrow
    (p := fun r => r.isStarted row.plan ∧ r.checkpoints = row.checkpoints)
    (f := OrchestrationRow.withCheckpoints (row.checkpoints ++ [checkpoint]))
    (by simp [OrchestrationRow.isStarted, OrchestrationRow.planId, hstate])
    (fun r hr => by
      simp only [OrchestrationRow.isStarted, decide_eq_true_eq] at hr
      exact hr.1.1) rfl
  simp only [recordCheckpoint, bind_eq_ok]
  refine ⟨row, orchestrationRow_eq hkeys hrow, (), row.same_self, (),
    by rw [raiseIf_eq_ok, not_not]; exact hstate, ?_⟩
  rw [if_neg (by omega)]
  simp only [bind_eq_ok, raiseIf_eq_ok, pure_eq_ok]
  exact ⟨(), by omega, (), not_not.2 hcount, hupdate⟩

theorem completeOrchestration_eq (hstate : row.state = .started)
    (hattempt : row.attempt = outcome.attempt) (hlength : row.checkpoints.length = 6)
    (hids : row.checkpoints.map CampaignPhaseCheckpoint.checkpointId =
      outcome.closure.phaseCheckpointIds) (now : Time) :
    completeOrchestration rows row.plan outcome now = .ok
      (Table.put OrchestrationRow.planId (row.withOutcome outcome now) rows) := by
  obtain ⟨-, hupdate⟩ := update_row_eq_put hkeys hrow
    (p := OrchestrationRow.isStarted row.plan)
    (f := OrchestrationRow.withOutcome outcome now)
    (by simp [OrchestrationRow.isStarted, OrchestrationRow.planId, hstate])
    (fun r hr => by
      simp only [OrchestrationRow.isStarted, decide_eq_true_eq] at hr
      exact hr.1) rfl
  simp only [completeOrchestration, bind_eq_ok, pure_eq_ok]
  refine ⟨row, orchestrationRow_eq hkeys hrow, (), row.same_self, (), ?_, hupdate⟩
  rw [raiseIf_eq_ok]
  simp [hstate, hattempt, hlength, hids]

end OwnRow

end VulnLoom

import VulnLoom.FindingPromotion
import VulnLoom.HybridLineage
import VulnLoom.HybridPromotion
import VulnLoom.SourcePromotion

/-!
# Promotions on the three paths

The three ledgers, promoted to by any number of connections, and the promotions that were
completed. The intake and the Hybrid ledger each hold an authority, a finding and an approval once.
The source ledger holds neither the binding of a plan nor the approval in a unique column, and no
ledger knows what the others hold : `promotions_unique` asks a promotion for what its ledger does
not.
-/

set_option linter.unusedSectionVars false

namespace VulnLoom

open CheckpointLedger Connections Transition

section

variable [PythonUrl] [ValidationDigests] [HybridDigests] [SourceExecutionDigests]
  [PromotionDigests]

/-! ## The system -/

/-- What a promotion is made from. -/
inductive PromotionAuthority
  | intake (recordId : Digest)
  | binding (bindingId : Digest)
  | chain (chainId : Digest)
  deriving DecidableEq

/-- A completed promotion. -/
structure Promotion where
  authority : PromotionAuthority
  approvalId : UUID
  finding : Finding

/-- The three ledgers, and the promotions that were completed. -/
structure PromotionLedgers where
  intake : List FindingPromotionRow
  source : List SourcePromotionRow
  hybrid : List HybridPromotionRow
  completed : List Promotion

def PromotionLedgers.empty : PromotionLedgers :=
  ⟨[], [], [], []⟩

inductive PromotionCall
  | intake (x : FindingPromotion)
  | source (x : SourcePromotion)
  | hybrid (x : HybridPromotion)

/-- A call between two of its transactions. -/
inductive PendingPromotion
  | intake (x : FindingPromotion)
  | complete (x : FindingPromotion) (outcome : FindingPromotionOutcome)
  | source (x : SourcePromotion)
  | hybrid (x : HybridPromotion)
  | finish (x : HybridPromotion) (checked : HybridPromotion.Checked) (attempt : ℕ)

def PromotionCall.begins : PromotionCall → PendingPromotion
  | intake x => .intake x
  | source x => .source x
  | hybrid x => .hybrid x

inductive PromotionAnswer
  | intake (outcome : FindingPromotionOutcome)
  | source (outcome : SourceFindingPromotionOutcome)
  | hybrid (outcome : HybridFindingPromotionOutcome)

/-- The plan of a source promotion was put before, under its key. -/
def SourcePromotion.repeats (x : SourcePromotion) (rows : List SourcePromotionRow) : Bool :=
  rows.any fun row => row.plan.idempotencyKey = x.plan.idempotencyKey

/-- The promotion that an outcome of the intake path completes. -/
def FindingPromotionOutcome.promotion (outcome : FindingPromotionOutcome) : Promotion :=
  ⟨.intake outcome.intakeRecordId, outcome.approvalId, outcome.finding⟩

/-- The promotion that an outcome of the source path completes. -/
def SourcePromotion.promotion (x : SourcePromotion) (outcome : SourceFindingPromotionOutcome) :
    Promotion :=
  ⟨.binding x.plan.validationBindingId, x.approval.approvalId, outcome.finding⟩

/-- The promotion that an outcome of the Hybrid path completes, if it does. -/
def HybridFindingPromotionOutcome.promoted? (outcome : HybridFindingPromotionOutcome) :
    Option Promotion :=
  outcome.promotion.map fun promotion =>
    ⟨.chain outcome.hybridChainId, outcome.approvalId, promotion.finding⟩

/-- What is left of a Hybrid promotion after its claim. -/
def HybridPromotion.proceed (x : HybridPromotion) (checked : HybridPromotion.Checked) :
    Except PromotionError HybridFindingClaim →
      PendingPromotion ⊕ Except PromotionError PromotionAnswer
  | .error e => .inr (.error e)
  | .ok claim =>
    if claim.created then .inl (.finish x checked claim.attempt)
    else .inr (do
      let outcome ← orRaise claim.outcome (.validationError "AssertionError")
      let replayed ← x.replay checked outcome
      return .hybrid replayed)

/-- What is left of an intake promotion after its claim. -/
def FindingPromotion.proceed (x : FindingPromotion) (rows : List FindingPromotionRow)
    (outcome : FindingPromotionOutcome) (created : Bool) :
    PendingPromotion ⊕ Except PromotionError PromotionAnswer :=
  if created then .inl (.complete x outcome)
  else .inr ((x.loadVerified rows).map PromotionAnswer.intake)

/-- The transactions of the three services. -/
def promotions : Program PromotionLedgers PromotionCall PendingPromotion
    (Except PromotionError PromotionAnswer) where
  begins := PromotionCall.begins
  next s
    | .intake x =>
      match x.begin s.intake with
      | .ok (rows, outcome, created) =>
        ({ s with intake := rows }, x.proceed rows outcome created)
      | .error e => (s, .inr (.error e))
    | .complete _ outcome =>
      match FindingPromotionStore.complete s.intake outcome with
      | .ok rows => ({ s with intake := rows, completed := s.completed ++ [outcome.promotion] },
          .inr (.ok (.intake outcome)))
      | .error e => (s, .inr (.error e))
    | .source x =>
      match x.execute s.source with
      | .ok (rows, outcome) => ({ s with
            source := rows
            completed := s.completed ++
              if x.repeats s.source then [] else [x.promotion outcome] },
          .inr (.ok (.source outcome)))
      | .error e => (s, .inr (.error e))
    | .hybrid x =>
      match x.preflight with
      | .ok checked =>
        ({ s with hybrid := (x.claim s.hybrid).1 }, x.proceed checked (x.claim s.hybrid).2)
      | .error e => (s, .inr (.error e))
    | .finish x checked attempt =>
      match x.finish checked attempt s.hybrid with
      | .ok (rows, outcome) => ({ s with
            hybrid := rows
            completed := s.completed ++ outcome.promoted?.toList },
          .inr (.ok (.hybrid outcome)))
      | .error e => (s, .inr (.error e))

/-! ## One finding for each authority -/

/-- No two promotions share their authority or their approval, and two that share the identifier of
their finding share the finding. -/
structure OnePerAuthority (completed : List Promotion) : Prop where
  authorities : (completed.map Promotion.authority).Nodup
  approvals : (completed.map Promotion.approvalId).Nodup
  findings : ∀ a ∈ completed, ∀ b ∈ completed,
    a.finding.findingId = b.finding.findingId → a.finding = b.finding

/-- A promotion of another ledger than that of these authorities uses neither the finding nor the
approval. -/
def UnusedBy (completed : List Promotion) (own : PromotionAuthority → Bool) (findingId : UUID)
    (approvalId : UUID) : Prop :=
  ∀ p ∈ completed, own p.authority = false →
    p.finding.findingId ≠ findingId ∧ p.approvalId ≠ approvalId

def PromotionAuthority.isIntake : PromotionAuthority → Bool
  | intake _ => true
  | _ => false

def PromotionAuthority.isChain : PromotionAuthority → Bool
  | chain _ => true
  | _ => false

/-- What a step that completes a promotion finds : the finding and the approval are unused by the
completed promotions of the other ledgers, and a source promotion finds them, and its binding,
unused by those of its own ledger too. -/
def FindsUnused (s : PromotionLedgers) : PendingPromotion → Prop
  | .complete x _ =>
    UnusedBy s.completed PromotionAuthority.isIntake x.plan.findingId x.plan.approvalId
  | .source x => x.preflight = .ok () → x.repeats s.source = false →
      UnusedBy s.completed (fun _ => false) x.plan.findingId x.approval.approvalId ∧
        ∀ p ∈ s.completed, p.authority ≠ .binding x.plan.validationBindingId
  | .finish x _ _ => x.now < x.plan.deadline →
      UnusedBy s.completed PromotionAuthority.isChain x.plan.findingId x.approval.approvalId
  | _ => True

theorem OnePerAuthority.concat {completed : List Promotion} {promotion : Promotion}
    (h : OnePerAuthority completed)
    (hnew : ∀ p ∈ completed, p.authority ≠ promotion.authority ∧
      p.approvalId ≠ promotion.approvalId ∧
      p.finding.findingId ≠ promotion.finding.findingId) :
    OnePerAuthority (completed ++ [promotion]) := by
  refine ⟨Table.nodup_key_concat h.authorities fun p hp => (hnew p hp).1.symm,
    Table.nodup_key_concat h.approvals fun p hp => (hnew p hp).2.1.symm, ?_⟩
  intro a ha b hb heq
  rw [List.mem_append, List.mem_singleton] at ha hb
  rcases ha with ha | rfl <;> rcases hb with hb | rfl
  · exact h.findings a ha b hb heq
  · exact absurd heq (hnew a ha).2.2
  · exact absurd heq.symm (hnew b hb).2.2
  · rfl

/-! ## The intake path -/

namespace FindingPromotion

variable {x : FindingPromotion} {outcome : FindingPromotionOutcome}

/-- The outcome is of the plan, and names what the plan claims. -/
structure Expects (x : FindingPromotion) (outcome : FindingPromotionOutcome) : Prop where
  plan : outcome.executionPlanId = x.plan.executionPlanId
  record : outcome.intakeRecordId = x.plan.intakeRecordId
  approval : outcome.approvalId = x.plan.approvalId
  finding : outcome.finding.findingId = x.plan.findingId

theorem load_ok {now : Time} {loaded : Loaded} (h : x.load now = .ok loaded) :
    x.loadRecord x.intakePlan.intakePlanId = some loaded.record := by
  simp only [load, bind_eq_ok, orRaise_eq_ok, raiseIf_eq_ok, pure_eq_ok] at h
  obtain ⟨record, hrecord, ⟨validation, critic⟩, -, action, -, -, -, bundle, -, -, -, rfl⟩ := h
  exact hrecord

theorem prepare_ok {createdAt deadline : Time} {idempotencyKey : String}
    {plan : FindingPromotionExecutionPlan}
    (h : x.prepare createdAt deadline idempotencyKey = .ok plan) :
    x.loadRecord x.intakePlan.intakePlanId ≠ none ∧
      (∀ record, x.loadRecord x.intakePlan.intakePlanId = some record →
        plan.intakeRecordId = record.recordId) ∧
      plan.findingId = x.promotionPlan.findingId := by
  simp only [prepare, bind_eq_ok, raiseIf_eq_ok] at h
  obtain ⟨loaded, hloaded, -, -, action, -, h⟩ := h
  have hrecord := load_ok hloaded
  split_ifs at h
  cases h
  refine ⟨by simp [hrecord], fun record h => ?_, rfl⟩
  rw [hrecord] at h
  rw [← Option.some.inj h]

theorem preflight_ok {now : Time} (h : x.preflight now = .ok outcome) : x.Expects outcome := by
  simp only [preflight, bind_eq_ok, raiseIf_eq_ok, not_not, promote, mapError_eq_ok] at h
  obtain ⟨-, -, loaded, hloaded, expected, hexpected, -, rfl, ⟨promoted, finding⟩, hpromoted,
    houtcome⟩ := h
  have hrecord := load_ok hloaded
  obtain ⟨-, hplan, hfinding⟩ := prepare_ok hexpected
  obtain ⟨-, -, hid, -⟩ := promoteCandidate_ok hpromoted
  simp only [FindingPromotion.outcome] at houtcome
  split_ifs at houtcome
  cases houtcome
  exact ⟨rfl, (hplan _ hrecord).symm, rfl, hid.trans hfinding.symm⟩

end FindingPromotion

namespace FindingPromotionStore

variable {rows rows' : List FindingPromotionRow} {plan : FindingPromotionExecutionPlan}

theorem claim_ok {now : Time} {earlier : Option FindingPromotionOutcome}
    (h : claim rows plan now = .ok (rows', earlier)) :
    rows' = rows ∧ earlier.isSome ∨
      Table.insert clash rows ⟨plan, now, none⟩ = some rows' ∧ earlier = none := by
  simp only [claim] at h
  split at h
  · simp only [bind_eq_ok, pure_eq_ok] at h
    obtain ⟨outcome, -, heq⟩ := h
    cases heq
    exact Or.inl ⟨rfl, rfl⟩
  · simp only [bind_eq_ok, orRaise_eq_ok, pure_eq_ok] at h
    obtain ⟨claimed, hclaimed, heq⟩ := h
    cases heq
    exact Or.inr ⟨hclaimed, rfl⟩

theorem complete_ok {outcome : FindingPromotionOutcome}
    (h : complete rows outcome = .ok rows') :
    ∃ row ∈ rows, row.plan.executionPlanId = outcome.executionPlanId ∧ row.outcome = none ∧
      rows' = Table.update (awaits outcome.executionPlanId) ({ · with outcome := some outcome })
        rows := by
  simp only [complete, bind_eq_ok, raiseIf_eq_ok, not_not, pure_eq_ok] at h
  obtain ⟨-, hone, rfl⟩ := h
  obtain ⟨row, hrow, hawaits⟩ := Table.exists_of_rowcount_one hone
  simp only [awaits, decide_eq_true_eq] at hawaits
  exact ⟨row, hrow, hawaits.1, hawaits.2, rfl⟩

/-- Equal values of a unique column are those of one row. -/
theorem eq_of_column (hrows : Table.Distinct clash rows)
    {column : FindingPromotionExecutionPlan → String}
    (hcolumn : ∀ a b, column a = column b → shares a b = true) {row row' : FindingPromotionRow}
    (hrow : row ∈ rows) (hrow' : row' ∈ rows) (h : column row.plan = column row'.plan) :
    row = row' :=
  Table.eq_of_key (hrows.nodup (fun row => column row.plan)
    fun a b hab => hcolumn a.plan b.plan hab) hrow hrow' h

end FindingPromotionStore

/-! ## The Hybrid path -/

namespace HybridPromotion

variable {x : HybridPromotion} {checked : Checked} {attempt : ℕ}
  {rows rows' : List HybridPromotionRow} {outcome : HybridFindingPromotionOutcome}

theorem conclude_ok (h : x.conclude checked attempt = .ok outcome) :
    outcome.planId = x.plan.planId ∧ ∀ promotion, outcome.promoted? = some promotion →
      x.now < x.plan.deadline ∧ promotion.authority = .chain x.plan.hybridChainId ∧
        promotion.approvalId = x.approval.approvalId ∧
        promotion.finding.findingId = x.plan.findingId := by
  simp only [conclude] at h
  split_ifs at h with hdeadline
  · cases h
    refine ⟨rfl, fun promotion h => ?_⟩
    cases h
  · cases hpromoted : promoteCandidate checked.candidate x.scope x.now x.plan.claim [checked.run]
      checked.chain.evidenceBundle checked.review true x.plan.findingId with
    | error e =>
      rw [hpromoted] at h
      cases h
      refine ⟨rfl, fun promotion h => ?_⟩
      cases h
    | ok made =>
      obtain ⟨promoted, finding⟩ := made
      rw [hpromoted] at h
      simp only [transition] at h
      split_ifs at h
      cases h
      refine ⟨rfl, fun promotion h => ?_⟩
      obtain rfl := Option.some.inj h
      obtain ⟨-, -, hid, -⟩ := promoteCandidate_ok hpromoted
      exact ⟨not_le.1 hdeadline, rfl, rfl, hid⟩

theorem claim_writes (x : HybridPromotion) (rows : List HybridPromotionRow) :
    hybridFindingStore.Writes (fun _ => True) rows (x.claim rows).1 :=
  Ledger.take_writes (fun _ => by simp [hybridFindingStore, exhausted, unpromoted])
    fun _ => trivial

/-- Equal values of a unique column are those of one row. -/
theorem eq_of_column (column : HybridPromotionItem → String)
    (hrows : Table.Distinct hybridFindingStore.clash rows)
    (hcolumn : ∀ a b : HybridPromotionItem, column a = column b →
      hybridFindingStore.id a = hybridFindingStore.id b ∨
        hybridFindingStore.shares a b = true) {row row' : HybridPromotionRow}
    (hrow : row ∈ rows) (hrow' : row' ∈ rows) (h : column row.item = column row'.item) :
    row = row' := by
  refine Table.eq_of_key (hrows.nodup (fun row => column row.item) fun a b hab => ?_) hrow hrow' h
  simp only [Ledger.clash, decide_eq_true_eq]
  rcases hcolumn a.item b.item hab with hid | hshares
  · exact Or.inl hid
  · exact Or.inr (Or.inr hshares)

end HybridPromotion

/-! ## Runs -/

namespace PromotionLedgers

/-- A completed promotion of the intake path is a completed row of its ledger. -/
def InIntake (rows : List FindingPromotionRow) (promotion : Promotion) : Prop :=
  ∀ recordId, promotion.authority = .intake recordId → ∃ row ∈ rows, row.outcome ≠ none ∧
    row.plan.intakeRecordId = recordId ∧ row.plan.findingId = promotion.finding.findingId ∧
    row.plan.approvalId = promotion.approvalId

/-- A completed promotion of the Hybrid path is a finished row of its ledger. -/
def InHybrid (rows : List HybridPromotionRow) (promotion : Promotion) : Prop :=
  ∀ chainId, promotion.authority = .chain chainId → ∃ row ∈ rows, row.state ≠ .started ∧
    row.item.plan.hybridChainId = chainId ∧
    row.item.plan.findingId = promotion.finding.findingId ∧
    row.item.approvalId = promotion.approvalId

structure Sound (s : PromotionLedgers) : Prop where
  intake : Table.Distinct FindingPromotionStore.clash s.intake
  hybrid : Table.Distinct hybridFindingStore.clash s.hybrid
  inIntake : ∀ p ∈ s.completed, InIntake s.intake p
  inHybrid : ∀ p ∈ s.completed, InHybrid s.hybrid p
  one : OnePerAuthority s.completed

/-- What a call under way has claimed. -/
def Claimed (s : PromotionLedgers) : PendingPromotion → Prop
  | .complete x outcome => (∃ row ∈ s.intake, row.plan = x.plan) ∧ x.Expects outcome
  | .finish x _ _ => ∃ row ∈ s.hybrid, row.item = x.item
  | _ => True

theorem empty_sound : empty.Sound where
  intake := List.Pairwise.nil
  hybrid := List.Pairwise.nil
  inIntake p hp := by cases hp
  inHybrid p hp := by cases hp
  one := ⟨List.nodup_nil, List.nodup_nil, fun a ha => by cases ha⟩

/-- What a step leaves of the plans of the intake ledger and of the items of the Hybrid one. -/
structure Keeps (s s' : PromotionLedgers) : Prop where
  intake : ∀ row ∈ s.intake, ∃ row' ∈ s'.intake, row'.plan = row.plan
  hybrid : ∀ row ∈ s.hybrid, ∃ row' ∈ s'.hybrid, row'.item = row.item

variable {s s' : PromotionLedgers}

theorem Keeps.claimed (h : s.Keeps s') {pending : PendingPromotion} (hpending : s.Claimed pending) :
    s'.Claimed pending := by
  cases pending with
  | complete x outcome =>
    obtain ⟨⟨row, hrow, hplan⟩, hexpects⟩ := hpending
    obtain ⟨row', hrow', hplan'⟩ := h.intake row hrow
    exact ⟨⟨row', hrow', hplan'.trans hplan⟩, hexpects⟩
  | finish x checked attempt =>
    obtain ⟨row, hrow, hitem⟩ := hpending
    obtain ⟨row', hrow', hitem'⟩ := h.hybrid row hrow
    exact ⟨row', hrow', hitem'.trans hitem⟩
  | intake x => trivial
  | source x => trivial
  | hybrid x => trivial

theorem Keeps.refl (s : PromotionLedgers) : s.Keeps s :=
  ⟨fun row hrow => ⟨row, hrow, rfl⟩, fun row hrow => ⟨row, hrow, rfl⟩⟩

/-! ### Steps -/

variable {outcome : FindingPromotionOutcome} {rows : List FindingPromotionRow}

/-- A claim of the intake path adds a row, or changes nothing. -/
theorem Sound.begin (hs : s.Sound) {x : FindingPromotion} {created : Bool}
    (h : x.begin s.intake = .ok (rows, outcome, created)) :
    Sound { s with intake := rows } ∧ s.Keeps { s with intake := rows } ∧
      (created = true → (∃ row ∈ rows, row.plan = x.plan) ∧ x.Expects outcome) := by
  simp only [FindingPromotion.begin, bind_eq_ok, pure_eq_ok] at h
  obtain ⟨expected, hexpected, ⟨claimed, earlier⟩, hclaim, heq⟩ := h
  cases heq
  rcases FindingPromotionStore.claim_ok hclaim with ⟨rfl, hearlier⟩ | ⟨hinsert, rfl⟩
  · refine ⟨hs, .refl s, fun hcreated => ?_⟩
    cases earlier with
    | none => cases hearlier
    | some earlier => cases hcreated
  · have hdistinct := Table.distinct_insert hs.intake hinsert
    obtain ⟨-, rfl⟩ := Table.insert_eq_some.1 hinsert
    refine ⟨⟨hdistinct, hs.hybrid, fun p hp recordId hid => ?_, hs.inHybrid, hs.one⟩,
      ⟨fun row hrow => ⟨row, List.mem_append_left _ hrow, rfl⟩, fun row hrow => ⟨row, hrow, rfl⟩⟩,
      fun _ => ⟨⟨_, List.mem_append_right _ (List.mem_singleton_self _), rfl⟩,
        FindingPromotion.preflight_ok hexpected⟩⟩
    obtain ⟨row, hrow, hcolumns⟩ := hs.inIntake p hp recordId hid
    exact ⟨row, List.mem_append_left _ hrow, hcolumns⟩

/-- The started row of an intake promotion shares no column with the completed promotions of its
ledger. -/
theorem Sound.intake_fresh (hs : s.Sound) {row : FindingPromotionRow} (hrow : row ∈ s.intake)
    (hstarted : row.outcome = none) {p : Promotion} (hp : p ∈ s.completed)
    (hown : p.authority.isIntake = true) : p.authority ≠ .intake row.plan.intakeRecordId ∧
      p.approvalId ≠ row.plan.approvalId ∧ p.finding.findingId ≠ row.plan.findingId := by
  cases hauthority : p.authority with
  | binding id =>
    rw [hauthority] at hown
    cases hown
  | chain id =>
    rw [hauthority] at hown
    cases hown
  | intake id =>
    obtain ⟨row', hrow', hdone, hrecord, hfinding, happroval⟩ := hs.inIntake p hp id hauthority
    have hne : row' ≠ row := by
      rintro rfl
      exact hdone hstarted
    refine ⟨fun h => hne ?_, fun h => hne ?_, fun h => hne ?_⟩
    · refine FindingPromotionStore.eq_of_column hs.intake (fun a b hab => ?_) hrow' hrow
        (hrecord.trans (PromotionAuthority.intake.inj h))
      simp [FindingPromotionStore.shares, hab]
    · refine FindingPromotionStore.eq_of_column hs.intake (fun a b hab => ?_) hrow' hrow
        (happroval.trans h)
      simp [FindingPromotionStore.shares, hab]
    · refine FindingPromotionStore.eq_of_column hs.intake (fun a b hab => ?_) hrow' hrow
        (hfinding.trans h)
      simp [FindingPromotionStore.shares, hab]

/-- A completion of the intake path, where the other ledgers use neither the finding nor the
approval. -/
theorem Sound.complete (hs : s.Sound) {x : FindingPromotion}
    (hclaimed : s.Claimed (.complete x outcome)) (hunused : FindsUnused s (.complete x outcome))
    (h : FindingPromotionStore.complete s.intake outcome = .ok rows) :
    Sound { s with intake := rows, completed := s.completed ++ [outcome.promotion] } ∧
      s.Keeps { s with intake := rows, completed := s.completed ++ [outcome.promotion] } := by
  obtain ⟨⟨row, hrow, hplan⟩, hexpects⟩ := hclaimed
  obtain ⟨started, hstarted, hid, hnone, rfl⟩ := FindingPromotionStore.complete_ok h
  obtain rfl : started = row := by
    refine FindingPromotionStore.eq_of_column hs.intake (fun a b hab => ?_) hstarted hrow
      (hid.trans (hexpects.plan.trans (by rw [hplan])))
    simp [FindingPromotionStore.shares, hab]
  have hnew : ∀ p ∈ s.completed, p.authority ≠ outcome.promotion.authority ∧
      p.approvalId ≠ outcome.promotion.approvalId ∧
      p.finding.findingId ≠ outcome.promotion.finding.findingId := by
    intro p hp
    simp only [FindingPromotionOutcome.promotion, hexpects.record, hexpects.approval,
      hexpects.finding, ← hplan]
    by_cases hown : p.authority.isIntake = true
    · exact hs.intake_fresh hrow hnone hp hown
    · obtain ⟨hfinding, happroval⟩ := hunused p hp (by simpa using hown)
      rw [← hplan] at hfinding happroval
      refine ⟨fun h => hown ?_, happroval, hfinding⟩
      rw [h]
      rfl
  have hkept : ∀ old ∈ s.intake, ∃ new ∈ Table.update
      (FindingPromotionStore.awaits outcome.executionPlanId) ({ · with outcome := some outcome })
      s.intake, new.plan = old.plan ∧ (old.outcome ≠ none → new.outcome ≠ none) := by
    intro old hold
    refine ⟨_, Table.mem_update.2 ⟨old, hold, rfl⟩, ?_⟩
    split_ifs
    · exact ⟨rfl, fun _ => by simp⟩
    · exact ⟨rfl, id⟩
  refine ⟨⟨?_, hs.hybrid, fun p hp => ?_, fun p hp => ?_, hs.one.concat hnew⟩,
    fun old hold => ?_, fun old hold => ⟨old, hold, rfl⟩⟩
  · exact Table.distinct_update (fun _ _ => rfl) (fun _ _ => rfl) hs.intake
  · rcases List.mem_append.1 hp with hp | hp
    · intro recordId hid
      obtain ⟨old, hold, hdone, hrecord, hfinding, happroval⟩ := hs.inIntake p hp recordId hid
      obtain ⟨new, hnew, hplan', hdone'⟩ := hkept old hold
      exact ⟨new, hnew, hdone' hdone, by rw [hplan']; exact ⟨hrecord, hfinding, happroval⟩⟩
    · obtain rfl := List.mem_singleton.1 hp
      intro recordId hid'
      cases hid'
      refine ⟨_, Table.mem_update.2 ⟨started, hrow, rfl⟩, ?_⟩
      have hawaits : FindingPromotionStore.awaits outcome.executionPlanId started = true := by
        simp [FindingPromotionStore.awaits, hid, hnone]
      rw [if_pos hawaits]
      refine ⟨by simp, ?_, ?_, ?_⟩
      · rw [hexpects.record, ← hplan]
      · exact (hexpects.finding.trans (by rw [hplan])).symm
      · exact (hexpects.approval.trans (by rw [hplan])).symm
  · rcases List.mem_append.1 hp with hp | hp
    · exact hs.inHybrid p hp
    · obtain rfl := List.mem_singleton.1 hp
      intro chainId hid'
      cases hid'
  · obtain ⟨new, hnew, hplan', -⟩ := hkept old hold
    exact ⟨new, hnew, hplan'⟩

/-- A put of the source path, where the completed promotions use neither the binding nor the finding
nor the approval. -/
theorem Sound.put (hs : s.Sound) {x : SourcePromotion} (hunused : FindsUnused s (.source x))
    {rows : List SourcePromotionRow} {outcome : SourceFindingPromotionOutcome}
    (h : x.execute s.source = .ok (rows, outcome)) :
    Sound { s with
      source := rows
      completed := s.completed ++ if x.repeats s.source then [] else [x.promotion outcome] } := by
  simp only [SourcePromotion.execute, bind_eq_ok] at h
  obtain ⟨made, hmade, hput⟩ := h
  simp only [SourcePromotion.outcome, bind_eq_ok, mapError_eq_ok, pure_eq_ok] at hmade
  obtain ⟨u, hpreflight, ⟨promoted, finding⟩, hpromoted, rfl⟩ := hmade
  obtain ⟨-, -, hid, -⟩ := promoteCandidate_ok hpromoted
  cases hrepeats : x.repeats s.source with
  | true =>
    simp only [if_true, List.append_nil]
    exact ⟨hs.intake, hs.hybrid, hs.inIntake, hs.inHybrid, hs.one⟩
  | false =>
    have houtcome : outcome.finding = finding := by
      have hfind : s.source.find? (fun row => row.plan.idempotencyKey = x.plan.idempotencyKey) =
          none := by
        refine List.find?_eq_none.2 fun row hrow hkey => ?_
        rw [SourcePromotion.repeats, List.any_eq_false] at hrepeats
        exact hrepeats row hrow hkey
      simp only [SourceFindingPromotionStore.put, hfind, bind_eq_ok, pure_eq_ok] at hput
      obtain ⟨inserted, -, heq⟩ := hput
      cases heq
      rfl
    obtain ⟨hfresh, hbinding⟩ := hunused hpreflight hrepeats
    refine ⟨hs.intake, hs.hybrid, fun p hp => ?_, fun p hp => ?_, hs.one.concat fun p hp => ?_⟩
    · rcases List.mem_append.1 hp with hp | hp
      · exact hs.inIntake p hp
      · obtain rfl := List.mem_singleton.1 hp
        intro recordId hid'
        cases hid'
    · rcases List.mem_append.1 hp with hp | hp
      · exact hs.inHybrid p hp
      · obtain rfl := List.mem_singleton.1 hp
        intro chainId hid'
        cases hid'
    · obtain ⟨hfinding, happroval⟩ := hfresh p hp rfl
      refine ⟨hbinding p hp, happroval, ?_⟩
      simp only [SourcePromotion.promotion, houtcome, hid]
      exact hfinding

/-- A claim or a recovery of the Hybrid path. -/
theorem Sound.claim (hs : s.Sound) (x : HybridPromotion) :
    Sound { s with hybrid := (x.claim s.hybrid).1 } ∧
      s.Keeps { s with hybrid := (x.claim s.hybrid).1 } := by
  have hwrites := HybridPromotion.claim_writes x s.hybrid
  refine ⟨⟨hs.intake, Ledger.take_distinct hs.hybrid, hs.inIntake, fun p hp chainId hid => ?_,
    hs.one⟩, fun row hrow => ⟨row, hrow, rfl⟩, fun row hrow => hwrites.items hrow⟩
  obtain ⟨row, hrow, hdone, hcolumns⟩ := hs.inHybrid p hp chainId hid
  exact ⟨row, hwrites.settled hrow hdone, hdone, hcolumns⟩

/-- The started row of a Hybrid promotion shares no column with the completed promotions of its
ledger. -/
theorem Sound.hybrid_fresh (hs : s.Sound) {row : HybridPromotionRow} (hrow : row ∈ s.hybrid)
    (hstarted : row.state = .started) {p : Promotion} (hp : p ∈ s.completed)
    (hown : p.authority.isChain = true) : p.authority ≠ .chain row.item.plan.hybridChainId ∧
      p.approvalId ≠ row.item.approvalId ∧
      p.finding.findingId ≠ row.item.plan.findingId := by
  cases hauthority : p.authority with
  | binding id =>
    rw [hauthority] at hown
    cases hown
  | intake id =>
    rw [hauthority] at hown
    cases hown
  | chain id =>
    obtain ⟨row', hrow', hdone, hchain, hfinding, happroval⟩ := hs.inHybrid p hp id hauthority
    have hne : row' ≠ row := by
      rintro rfl
      exact hdone hstarted
    refine ⟨fun h => hne ?_, fun h => hne ?_, fun h => hne ?_⟩
    · refine HybridPromotion.eq_of_column (fun item => item.plan.hybridChainId)
        hs.hybrid (fun a b hab => Or.inr ?_) hrow' hrow
        (hchain.trans (PromotionAuthority.chain.inj h))
      simp [hybridFindingStore, hab]
    · refine HybridPromotion.eq_of_column HybridPromotionItem.approvalId hs.hybrid
        (fun a b hab => Or.inr ?_) hrow' hrow (happroval.trans h)
      simp [hybridFindingStore, hab]
    · refine HybridPromotion.eq_of_column (fun item => item.plan.findingId) hs.hybrid
        (fun a b hab => Or.inr ?_) hrow' hrow (hfinding.trans h)
      simp [hybridFindingStore, hab]

/-- The end of a claimed Hybrid promotion, where the other ledgers use neither the finding nor the
approval. -/
theorem Sound.finish (hs : s.Sound) {x : HybridPromotion} {checked : HybridPromotion.Checked}
    {attempt : ℕ} (hclaimed : s.Claimed (.finish x checked attempt))
    (hunused : FindsUnused s (.finish x checked attempt)) {rows : List HybridPromotionRow}
    {outcome : HybridFindingPromotionOutcome}
    (h : x.finish checked attempt s.hybrid = .ok (rows, outcome)) :
    Sound { s with hybrid := rows, completed := s.completed ++ outcome.promoted?.toList } ∧
      s.Keeps { s with hybrid := rows, completed := s.completed ++ outcome.promoted?.toList } := by
  simp only [HybridPromotion.finish, bind_eq_ok, pure_eq_ok] at h
  obtain ⟨made, hmade, finished, hfinish, heq⟩ := h
  cases heq
  obtain ⟨hplan, hpromotes⟩ := HybridPromotion.conclude_ok hmade
  obtain ⟨claimed, hclaimed, hitem⟩ := hclaimed
  obtain ⟨row, hrow, hid, hstarted, hsettled⟩ := Ledger.finish_ok hfinish
  have hwrites : hybridFindingStore.Writes (fun _ => True) s.hybrid rows :=
    Ledger.finish_writes outcome.terminal trivial hfinish
  obtain rfl : row = claimed := by
    refine HybridPromotion.eq_of_column (fun item => item.plan.planId) hs.hybrid
      (fun a b hab => Or.inl hab) hrow hclaimed ?_
    rw [hitem]
    exact hid.trans hplan
  have hold : ∀ p ∈ s.completed, InHybrid rows p := by
    intro p hp chainId hchain
    obtain ⟨old, hold, hdone, hcolumns⟩ := hs.inHybrid p hp chainId hchain
    exact ⟨old, hwrites.settled hold hdone, hdone, hcolumns⟩
  refine ⟨?_, fun old hold => ⟨old, hold, rfl⟩, fun old hold => hwrites.items hold⟩
  cases hpromoted : outcome.promoted? with
  | none =>
    simp only [Option.toList_none, List.append_nil]
    exact ⟨hs.intake, Ledger.finish_distinct hs.hybrid hfinish, hs.inIntake, hold, hs.one⟩
  | some promotion =>
    obtain ⟨hdeadline, hauthority, happroval, hfinding⟩ := hpromotes promotion hpromoted
    refine ⟨hs.intake, Ledger.finish_distinct hs.hybrid hfinish, fun p hp => ?_, fun p hp => ?_,
      hs.one.concat fun p hp => ?_⟩
    · rcases List.mem_append.1 hp with hp | hp
      · exact hs.inIntake p hp
      · obtain rfl := List.mem_singleton.1 hp
        intro recordId hid'
        rw [hauthority] at hid'
        cases hid'
    · rcases List.mem_append.1 hp with hp | hp
      · exact hold p hp
      · obtain rfl := List.mem_singleton.1 hp
        intro chainId hid'
        rw [hauthority] at hid'
        have hdone : (hybridFindingStore.settle outcome row).state ≠ .started := outcome.terminal
        refine ⟨_, hsettled, hdone, ?_, ?_, ?_⟩
        · exact (congrArg (fun item => item.plan.hybridChainId) hitem).trans
            (PromotionAuthority.chain.inj hid')
        · exact (congrArg (fun item => item.plan.findingId) hitem).trans hfinding.symm
        · exact (congrArg HybridPromotionItem.approvalId hitem).trans happroval.symm
    · by_cases hown : p.authority.isChain = true
      · have hfresh := hs.hybrid_fresh hrow hstarted hp hown
        rw [hitem] at hfresh
        rw [hauthority, happroval, hfinding]
        exact hfresh
      · obtain ⟨hfinding', happroval'⟩ := hunused hdeadline p hp (by simpa using hown)
        rw [hauthority, happroval, hfinding]
        refine ⟨fun h => hown ?_, happroval', hfinding'⟩
        rw [h]
        rfl

/-- A step that finds unused what it uses keeps the ledgers sound, and the claims of the calls
under way. -/
theorem next_sound (hs : s.Sound) : ∀ pending : PendingPromotion, s.Claimed pending →
    FindsUnused s pending → (promotions.next s pending).1.Sound ∧
      (∀ pending', (promotions.next s pending).2 = .inl pending' →
        (promotions.next s pending).1.Claimed pending') ∧
      s.Keeps (promotions.next s pending).1
  | .intake x, _, _ => by
    simp only [promotions]
    split
    next rows outcome created hbegin =>
      obtain ⟨hsound, hkeeps, hcreated⟩ := hs.begin hbegin
      refine ⟨hsound, fun pending' h => ?_, hkeeps⟩
      unfold FindingPromotion.proceed at h
      split_ifs at h with hnew
      cases h
      exact hcreated hnew
    · exact ⟨hs, fun pending' h => (nomatch h), .refl s⟩
  | .complete x outcome, hclaimed, hunused => by
    simp only [promotions]
    split
    next rows hcomplete =>
      obtain ⟨hsound, hkeeps⟩ := hs.complete hclaimed hunused hcomplete
      exact ⟨hsound, fun pending' h => (nomatch h), hkeeps⟩
    · exact ⟨hs, fun pending' h => (nomatch h), .refl s⟩
  | .source x, _, hunused => by
    simp only [promotions]
    split
    next rows outcome hexecute =>
      exact ⟨hs.put hunused hexecute, fun pending' h => (nomatch h),
        fun row hrow => ⟨row, hrow, rfl⟩, fun row hrow => ⟨row, hrow, rfl⟩⟩
    · exact ⟨hs, fun pending' h => (nomatch h), .refl s⟩
  | .hybrid x, _, _ => by
    simp only [promotions]
    split
    next checked hchecked =>
      obtain ⟨hsound, hkeeps⟩ := hs.claim x
      refine ⟨hsound, fun pending' h => ?_, hkeeps⟩
      unfold HybridPromotion.proceed at h
      split at h
      · cases h
      next claim hclaim =>
        split_ifs at h
        cases h
        exact Ledger.take_item hclaim
    · exact ⟨hs, fun pending' h => (nomatch h), .refl s⟩
  | .finish x checked attempt, hclaimed, hunused => by
    simp only [promotions]
    split
    next rows outcome hfinish =>
      obtain ⟨hsound, hkeeps⟩ := hs.finish hclaimed hunused hfinish
      exact ⟨hsound, fun pending' h => (nomatch h), hkeeps⟩
    · exact ⟨hs, fun pending' h => (nomatch h), .refl s⟩

end PromotionLedgers

open PromotionLedgers in
/-- In a run of promotions on the three paths, from any number of connections, in which each
promotion that its ledger does not guard finds its finding, its approval and its binding unused, no
authority and no approval serves two promotions, and no identifier two findings, in any state. -/
theorem promotions_unique (steps : List (Step PromotionCall))
    (h : Along promotions.step (System.Meets FindsUnused) (System.idle empty) steps) :
    Always promotions.step (fun sys => OnePerAuthority sys.store.completed)
      (System.idle empty) steps := by
  have hsound : Always promotions.step (fun sys => sys.store.Sound) (System.idle empty) steps := by
    refine Program.always_of_along (I := fun _ => True) (J := Claimed) (fun _ _ _ => trivial)
      (fun s call _ _ => ?_) (fun s pending _ hs hclaimed hunused => ?_) steps trivial
      (System.holds_idle empty_sound) h
    · cases call with
      | intake x => trivial
      | source x => trivial
      | hybrid x => trivial
    · obtain ⟨hnext, hrest, hkeeps⟩ := next_sound hs pending hclaimed hunused
      exact ⟨hnext, hrest, fun other hother => hkeeps.claimed hother⟩
  intro pre hpre
  exact (hsound pre hpre).one

instance (completed : List Promotion) : Decidable (OnePerAuthority completed) :=
  decidable_of_iff ((completed.map Promotion.authority).Nodup ∧
      (completed.map Promotion.approvalId).Nodup ∧ ∀ a ∈ completed, ∀ b ∈ completed,
        a.finding.findingId = b.finding.findingId → a.finding = b.finding)
    ⟨fun ⟨h₁, h₂, h₃⟩ => ⟨h₁, h₂, h₃⟩, fun ⟨h₁, h₂, h₃⟩ => ⟨h₁, h₂, h₃⟩⟩

instance (completed : List Promotion) (own : PromotionAuthority → Bool) (findingId : UUID)
    (approvalId : UUID) : Decidable (UnusedBy completed own findingId approvalId) :=
  inferInstanceAs (Decidable (∀ p ∈ completed, _))

instance (s : PromotionLedgers) : ∀ pending, Decidable (FindsUnused s pending)
  | .intake _ => isTrue trivial
  | .hybrid _ => isTrue trivial
  | .complete _ _ => inferInstanceAs (Decidable (UnusedBy _ _ _ _))
  | .finish _ _ _ => inferInstanceAs (Decidable (_ → _))
  | .source _ => inferInstanceAs (Decidable (_ → _ → _))

end

/-! ## Two promotions of a binding -/

section

attribute [local instance] hostUrls textValidationDigests textHybridDigests

/-- Digests that are short enough to compute with. -/
@[reducible] def textExecutionDigests : SourceExecutionDigests where
  plan := ⟨SourceExecutionPlan.idempotencyKey⟩
  outcome := ⟨fun outcome => outcome.planId⟩
  binding := ⟨SourceValidationBinding.executionPlanId⟩
  invocation := ⟨ToolInvocation.toolId⟩
  approvalDigest planId := planId
  uuid5 text := text

/-- Digests that are short enough to compute with. -/
@[reducible] def textPromotionDigests : PromotionDigests where
  approval := ⟨fun approval => approval.approvalId⟩
  validationRun := ⟨ValidationRun.runId⟩
  evidenceBundle := ⟨EvidenceBundle.bundleId⟩
  criticOutcome := ⟨CriticOutcome.planId⟩
  duplicateCheck := ⟨FindingDuplicateCheck.checkedBy⟩
  approvalAction := ⟨FindingPromotionApprovalAction.intakeRecordId⟩
  executionPlan := ⟨FindingPromotionExecutionPlan.idempotencyKey⟩
  sourcePlan := ⟨SourceFindingPromotionPlan.idempotencyKey⟩
  hybridPlan := ⟨HybridFindingPromotionPlan.idempotencyKey⟩
  targetVersion := ⟨fun version => version⟩
  sealedCheck := FindingDuplicateCheck.checkedBy
  sealedBinding := SourceValidationBinding.executionPlanId
  sealedChain chain := chain.planId
  sourceApproval planId := planId
  hybridApproval planId _ _ := planId

attribute [local instance] textExecutionDigests textPromotionDigests

def promotionScope : Scope where
  scopeId := "s"
  engagementId := "e"
  version := 1
  validFrom := 0
  validUntil := 100
  repositories := []
  artifacts := []
  networkTargets := []
  allowedTestClasses := []
  deniedActions := []
  approvalRequirements := []
  state := .approved
  window := sampleScope.window

/-- The binding of a source execution. -/
def boundExecution (executionPlanId : Digest) : SourceValidationBinding where
  executionPlanId := executionPlanId
  executionOutcomeDigest := executionPlanId
  sourceCandidateDigest := "1"
  validatedCandidate := { hybridCandidate "1" with state := .validated }
  validationRun :=
    { runId := "run of " ++ executionPlanId
      candidateId := "c"
      targetVersion := "1"
      scopeVersion := 1
      sandboxImageDigest := "i"
      policyDigest := "p"
      plan := []
      startedAt := 1
      finishedAt := 2
      result := .reproduced
      evidenceRefs := ["source"]
      resourceUsage := []
      ordered := Nat.le_succ 1 }
  evidenceBundle := ⟨"bundle of " ++ executionPlanId, "c", ["source"], 2⟩
  boundAt := 2

/-- A critic's acceptance of what an execution validated. -/
def acceptedReview (executionPlanId : Digest) : CriticOutcome where
  planId := "review of " ++ executionPlanId
  candidate := { hybridCandidate "1" with state := .criticReviewed }
  review := ⟨"v", "review of " ++ executionPlanId, "c", "run of " ++ executionPlanId,
    "bundle of " ++ executionPlanId, "w", "y", .accepted, [], 3⟩
  completedAt := 3

def clearCheck : FindingDuplicateCheck where
  candidateId := "c"
  candidateDigest := "1"
  targetVersionDigest := "1"
  scopeId := "s"
  scopeVersion := 1
  result := .clear
  checkedBy := "operator:o"
  checkedAt := 3
  expiresAt := 90
  window := by decide

/-- A promotion of an execution under a key, which names its finding and its approval too. -/
def sourcePromotionOf (executionPlanId key : String) : SourcePromotion where
  scope := promotionScope
  loadValidationBinding planId := some (boundExecution planId)
  loadCritic planId :=
    some (⟨planId, "c", "1", "run of " ++ executionPlanId, "run of " ++ executionPlanId,
      "bundle of " ++ executionPlanId, "bundle of " ++ executionPlanId⟩,
      acceptedReview executionPlanId)
  plan :=
    { validationBindingId := executionPlanId
      validationBindingDigest := executionPlanId
      criticPlanId := "review of " ++ executionPlanId
      criticOutcomeDigest := "review of " ++ executionPlanId
      duplicateCheckId := "operator:o"
      duplicateCheckDigest := "operator:o"
      candidateId := "c"
      candidateDigest := "1"
      findingId := "finding " ++ key
      claim := ⟨"unchecked length", ["1"], "memory corruption", [("score", .inl "high")]⟩
      scopeId := "s"
      scopeVersion := 1
      createdAt := 4
      deadline := 50
      idempotencyKey := key
      window := by decide }
  validation := boundExecution executionPlanId
  critic := acceptedReview executionPlanId
  duplicateCheck := clearCheck
  approval :=
    { approvalId := "approval " ++ key
      engagementId := "e"
      targetId := some "t"
      action := .mutateTargetState
      actionDigest := key
      policyVersion := 1
      expiresAt := 60
      status := .granted
      decidedBy := some "operator:o"
      decidedAt := some 5
      expectedSideEffects := sourceFindingSideEffects }
  now := 6

/-- Two executions are promoted once each. -/
theorem executions_promoted_once :
    Always promotions.step (fun sys => OnePerAuthority sys.store.completed)
      (System.idle PromotionLedgers.empty)
      [.call 0 (.source (sourcePromotionOf "x" "1")), .go 0,
        .call 0 (.source (sourcePromotionOf "z" "2")), .go 0] :=
  promotions_unique _ (by decide +kernel)

/-- One binding yields two findings, under two plans and two approvals. -/
theorem binding_promoted_twice :
    ¬Always promotions.step (fun sys => OnePerAuthority sys.store.completed)
      (System.idle PromotionLedgers.empty)
      [.call 0 (.source (sourcePromotionOf "x" "1")), .go 0,
        .call 0 (.source (sourcePromotionOf "x" "2")), .go 0] := by
  intro h
  have hone := (h _ (List.prefix_refl _)).authorities
  revert hone
  decide +kernel

end

end VulnLoom

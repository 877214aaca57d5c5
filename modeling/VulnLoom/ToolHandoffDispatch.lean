import VulnLoom.ToolHandoffStore
import VulnLoom.Transition

/-!
# Handoffs of several connections

A connection opens its transaction at the first write, so the reads of a claim and its insert
are steps of their own, and other connections may come between them. A claim that never goes
on is one that raised or whose process died. `single_dispatch_iff` : an agent outcome has one
attempt and one retry in every state exactly when every insert still finds the handoffs its
claim read.
-/

set_option linter.unusedSectionVars false

namespace VulnLoom

open Transition

section

variable [CanonicalDigest AgentToolHandoffPlan]

/-! ## Steps -/

/-- A claim of a connection between two of its steps. -/
inductive PendingClaim
  | looked (plan : AgentToolHandoffPlan)
  | checked (plan : AgentToolHandoffPlan) (prior : List HandoffRow)

structure HandoffSystem where
  rows : List HandoffRow
  claims : ℕ → Option PendingClaim

/-- A step of the connection `connection`, or a completion by any. -/
inductive HandoffCall
  | look (connection : ℕ) (plan : AgentToolHandoffPlan)
  | check (connection : ℕ)
  | insert (connection : ℕ) (now : Time)
  | complete (outcome : AgentToolHandoffOutcome)

namespace HandoffSystem

def empty : HandoffSystem :=
  ⟨[], fun _ => none⟩

/-- The state of the claim of one connection. -/
def setClaim (sys : HandoffSystem) (connection : ℕ) (claim : Option PendingClaim) :
    HandoffSystem :=
  { sys with claims := Function.update sys.claims connection claim }

/-- What the first read leaves of a claim : only a new handoff goes on. -/
def looked (rows : List HandoffRow) (plan : AgentToolHandoffPlan) : Option PendingClaim :=
  match readExisting rows plan with
  | .ok none => some (.looked plan)
  | _ => none

/-- What the second read leaves of a claim. -/
def checked (rows : List HandoffRow) (plan : AgentToolHandoffPlan) : Option PendingClaim :=
  match checkPrior plan (priorHandoffs rows plan.agentOutcomeDigest) with
  | .ok () => some (.checked plan (priorHandoffs rows plan.agentOutcomeDigest))
  | .error _ => none

/-- The rows after a transaction that may raise. -/
def settled (rows : List HandoffRow) : Except AgentToolHandoffError (List HandoffRow) →
    List HandoffRow
  | .ok rows' => rows'
  | .error _ => rows

def step (sys : HandoffSystem) : HandoffCall → HandoffSystem
  | .look connection plan => sys.setClaim connection (looked sys.rows plan)
  | .check connection =>
    match sys.claims connection with
    | some (.looked plan) => sys.setClaim connection (checked sys.rows plan)
    | _ => sys
  | .insert connection now =>
    match sys.claims connection with
    | some (.checked plan _) =>
      { sys with rows := settled sys.rows (insertHandoff sys.rows plan now) }.setClaim
        connection none
    | _ => sys
  | .complete outcome => { sys with rows := settled sys.rows (completeHandoff sys.rows outcome) }

end HandoffSystem

/-- Where nothing comes between its steps, a connection claims as `claimHandoff` does. -/
theorem claimHandoff_steps (sys : HandoffSystem) (connection : ℕ) (plan : AgentToolHandoffPlan)
    (now : Time) :
    (run HandoffSystem.step sys
      [.look connection plan, .check connection, .insert connection now]).rows =
      HandoffSystem.settled sys.rows ((claimHandoff sys.rows plan now).map Prod.fst) := by
  have hmap : ∀ x : Except AgentToolHandoffError (List HandoffRow),
      HandoffSystem.settled sys.rows
        (((fun claimed => (claimed, none)) <$> x).map
          (Prod.fst : _ × Option AgentToolHandoffOutcome → _)) =
        HandoffSystem.settled sys.rows x := by
    intro x
    cases x <;> rfl
  simp only [run_cons, run_nil, HandoffSystem.step, HandoffSystem.setClaim,
    Function.update_self, claimHandoff, HandoffSystem.looked]
  cases hexisting : readExisting sys.rows plan with
  | error e => simp [HandoffSystem.settled, Except.map, bind, Except.bind]
  | ok existing =>
    cases existing with
    | some outcome =>
      simp [HandoffSystem.settled, Except.map, bind, Except.bind, pure, Except.pure]
    | none =>
      simp only [HandoffSystem.checked, Function.update_self, ok_bind]
      cases hprior : checkPrior plan (priorHandoffs sys.rows plan.agentOutcomeDigest) with
      | error e => simp [HandoffSystem.settled, Except.map, bind, Except.bind]
      | ok u => simpa using (hmap (insertHandoff sys.rows plan now)).symm

/-! ## One attempt and one retry -/

/-- How many handoffs of an agent outcome are of an attempt. -/
def attempts (rows : List HandoffRow) (agentOutcomeDigest : Digest) (attempt : ℕ) : ℕ :=
  rows.countP fun row => row.agentOutcomeDigest = agentOutcomeDigest ∧ row.attempt = attempt

/-- Each agent outcome has at most one first attempt and one retry, and a retry only of an
attempt that completed for want of an approval. -/
def SingleDispatch (rows : List HandoffRow) : Prop :=
  (∀ digest, attempts rows digest 1 ≤ 1 ∧ attempts rows digest 2 ≤ 1) ∧
    ∀ row ∈ rows, row.attempt = 2 → ∃ first ∈ rows,
      first.agentOutcomeDigest = row.agentOutcomeDigest ∧ first.attempt = 1 ∧
        first.state = .completed ∧ first.status = some .approvalRequired

/-- An insert that adds a row finds the handoffs of its agent outcome as its claim read them. -/
def InsertsAsRead (sys : HandoffSystem) : HandoffCall → Prop
  | .insert connection now =>
    ∀ plan prior rows', sys.claims connection = some (.checked plan prior) →
      insertHandoff sys.rows plan now = .ok rows' →
        priorHandoffs sys.rows plan.agentOutcomeDigest = prior
  | _ => True

/-- What holds of every reachable state : a row has one handoff and an attempt in bounds, and a
claim that was checked read what still is there, if it has completed. -/
structure HandoffSystem.Sound (sys : HandoffSystem) : Prop where
  keys : (sys.rows.map HandoffRow.handoffId).Nodup
  bounds : ∀ row ∈ sys.rows, row.attempt = 1 ∨ row.attempt = 2
  checks : ∀ connection plan prior, sys.claims connection = some (.checked plan prior) →
    checkPrior plan prior = .ok () ∧ ∀ row ∈ prior, row.state = .completed →
      row ∈ sys.rows ∧ row.agentOutcomeDigest = plan.agentOutcomeDigest

theorem HandoffSystem.sound_empty : HandoffSystem.empty.Sound where
  keys := List.nodup_nil
  bounds := by simp [empty]
  checks := by simp [empty]

/-! ## A step keeps the tables sound -/

theorem HandoffRow.complete_handoffId (outcome : AgentToolHandoffOutcome) (row : HandoffRow) :
    (row.complete outcome).handoffId = row.handoffId :=
  rfl

variable {rows : List HandoffRow}

/-- A completion leaves the completed rows alone. -/
theorem mem_update_complete {outcome : AgentToolHandoffOutcome} {row : HandoffRow}
    (hrow : row ∈ rows) (hstate : row.state = .completed) :
    row ∈ Table.update (HandoffRow.awaits outcome) (HandoffRow.complete outcome) rows := by
  refine Table.mem_update.2 ⟨row, hrow, ?_⟩
  simp [HandoffRow.awaits, hstate]

namespace HandoffSystem

variable {sys : HandoffSystem}

theorem setClaim_checks {connection : ℕ} {claim : Option PendingClaim}
    (hs : sys.Sound) (hclaim : ∀ plan prior, claim = some (.checked plan prior) →
      checkPrior plan prior = .ok () ∧ ∀ row ∈ prior, row.state = .completed →
        row ∈ sys.rows ∧ row.agentOutcomeDigest = plan.agentOutcomeDigest) :
    (sys.setClaim connection claim).Sound := by
  refine ⟨hs.keys, hs.bounds, fun other plan prior hother => ?_⟩
  by_cases heq : other = connection
  · subst heq
    simp only [setClaim, Function.update_self] at hother
    exact hclaim plan prior hother
  · simp only [setClaim, Function.update_of_ne heq] at hother
    exact hs.checks other plan prior hother

theorem Sound.insert (hs : sys.Sound) (plan : AgentToolHandoffPlan) (now : Time) :
    { sys with rows := settled sys.rows (insertHandoff sys.rows plan now) }.Sound := by
  cases hinsert : insertHandoff sys.rows plan now with
  | error e => exact hs
  | ok rows' =>
    obtain ⟨hfresh, rfl⟩ := insertHandoff_ok hinsert
    refine ⟨Table.nodup_key_concat hs.keys fun row hrow => (hfresh row hrow).symm, ?_, ?_⟩
    · intro row hrow
      rcases List.mem_append.1 hrow with hrow | hrow
      · exact hs.bounds row hrow
      · have hbounds := plan.attempt_bounds
        rw [List.mem_singleton.1 hrow]
        simp only [AgentToolHandoffPlan.row]
        omega
    · intro connection plan' prior hclaim
      obtain ⟨hcheck, hprior⟩ := hs.checks connection plan' prior hclaim
      refine ⟨hcheck, fun row hrow hstate => ?_⟩
      obtain ⟨hmem, hdigest⟩ := hprior row hrow hstate
      exact ⟨List.mem_append_left _ hmem, hdigest⟩

theorem Sound.complete (hs : sys.Sound) (outcome : AgentToolHandoffOutcome) :
    { sys with rows := settled sys.rows (completeHandoff sys.rows outcome) }.Sound := by
  cases hcomplete : completeHandoff sys.rows outcome with
  | error e => exact hs
  | ok rows' =>
    rw [completeHandoff_ok hcomplete]
    refine ⟨Table.nodup_key_update (HandoffRow.complete_handoffId outcome) hs.keys, ?_, ?_⟩
    · intro row hrow
      obtain ⟨row₀, hrow₀, rfl⟩ := Table.mem_update.1 hrow
      have hbounds := hs.bounds row₀ hrow₀
      split_ifs
      · exact hbounds
      · exact hbounds
    · intro connection plan prior hclaim
      obtain ⟨hcheck, hprior⟩ := hs.checks connection plan prior hclaim
      refine ⟨hcheck, fun row hrow hstate => ?_⟩
      obtain ⟨hmem, hdigest⟩ := hprior row hrow hstate
      exact ⟨mem_update_complete hmem hstate, hdigest⟩

theorem Sound.step (hs : sys.Sound) (call : HandoffCall) : (sys.step call).Sound := by
  cases call with
  | look connection plan =>
    refine setClaim_checks hs fun plan' prior hclaim => ?_
    unfold looked at hclaim
    split at hclaim <;> simp at hclaim
  | check connection =>
    simp only [HandoffSystem.step]
    split
    next plan hplan =>
      refine setClaim_checks hs fun plan' prior hclaim => ?_
      unfold checked at hclaim
      split at hclaim
      next hcheck =>
        simp only [Option.some.injEq, PendingClaim.checked.injEq] at hclaim
        obtain ⟨rfl, rfl⟩ := hclaim
        exact ⟨hcheck, fun row hrow _ => mem_priorHandoffs.1 hrow⟩
      · cases hclaim
    · exact hs
  | insert connection now =>
    simp only [HandoffSystem.step]
    split
    next plan prior hclaim =>
      refine setClaim_checks (hs.insert plan now) fun plan' prior' hnone => ?_
      cases hnone
    · exact hs
  | complete outcome => exact hs.complete outcome

end HandoffSystem

/-! ## Counting attempts -/

section Attempts

variable {rows : List HandoffRow} {digest : Digest}

theorem attempts_concat (row : HandoffRow) (attempt : ℕ) :
    attempts (rows ++ [row]) digest attempt = attempts rows digest attempt +
      if row.agentOutcomeDigest = digest ∧ row.attempt = attempt then 1 else 0 := by
  simp [attempts, List.countP_append, List.countP_singleton]

theorem attempts_eq_zero {attempt : ℕ} : attempts rows digest attempt = 0 ↔
    ∀ row ∈ rows, row.agentOutcomeDigest = digest → row.attempt ≠ attempt := by
  simp [attempts, List.countP_eq_zero]

/-- An outcome without a first attempt has no handoff. -/
theorem SingleDispatch.priorHandoffs_eq_nil (hd : SingleDispatch rows)
    (hbounds : ∀ row ∈ rows, row.attempt = 1 ∨ row.attempt = 2)
    (hnone : attempts rows digest 1 = 0) : priorHandoffs rows digest = [] := by
  rw [attempts_eq_zero] at hnone
  refine List.eq_nil_iff_forall_not_mem.2 fun row hrow => ?_
  obtain ⟨hrow, hdigest⟩ := mem_priorHandoffs.1 hrow
  rcases hbounds row hrow with hone | htwo
  · exact hnone row hrow hdigest hone
  · obtain ⟨first, hfirst, hsame, hone, -⟩ := hd.2 row hrow htwo
    exact hnone first hfirst (hsame.trans hdigest) hone

/-- An outcome without a retry has its first attempt only. -/
theorem SingleDispatch.priorHandoffs_eq_singleton (hd : SingleDispatch rows)
    (hbounds : ∀ row ∈ rows, row.attempt = 1 ∨ row.attempt = 2)
    (hnone : attempts rows digest 2 = 0) {first : HandoffRow}
    (hfirst : first ∈ priorHandoffs rows digest) : priorHandoffs rows digest = [first] := by
  rw [attempts_eq_zero] at hnone
  have hlength : (priorHandoffs rows digest).length = attempts rows digest 1 := by
    rw [priorHandoffs, Table.length_orderBy, ← List.countP_eq_length_filter, attempts]
    refine List.countP_congr fun row hrow => ?_
    simp only [decide_eq_true_eq]
    constructor
    · intro hdigest
      exact ⟨hdigest, (hbounds row hrow).resolve_right (hnone row hrow hdigest)⟩
    · rintro ⟨hdigest, -⟩
      exact hdigest
  have hone := (hd.1 digest).1
  have hpos := List.length_pos_of_mem hfirst
  obtain ⟨row, hrow⟩ := List.length_eq_one_iff.1 (by omega :
    (priorHandoffs rows digest).length = 1)
  rw [hrow] at hfirst ⊢
  rw [List.mem_singleton.1 hfirst]

theorem SingleDispatch.complete (hd : SingleDispatch rows) (outcome : AgentToolHandoffOutcome) :
    SingleDispatch
      (Table.update (HandoffRow.awaits outcome) (HandoffRow.complete outcome) rows) := by
  refine ⟨fun digest => ?_, fun row hrow htwo => ?_⟩
  · have hsame : ∀ attempt, attempts (Table.update (HandoffRow.awaits outcome)
        (HandoffRow.complete outcome) rows) digest attempt = attempts rows digest attempt :=
      fun _ => Table.countP_update_of_eq (f := HandoffRow.complete outcome) (fun _ _ => rfl) rows
    rw [hsame, hsame]
    exact hd.1 digest
  · obtain ⟨row₀, hrow₀, rfl⟩ := Table.mem_update.1 hrow
    have hfields : row₀.attempt = 2 ∧ (if HandoffRow.awaits outcome row₀ = true then
        row₀.complete outcome else row₀).agentOutcomeDigest = row₀.agentOutcomeDigest := by
      split_ifs at htwo ⊢
      · exact ⟨htwo, rfl⟩
      · exact ⟨htwo, rfl⟩
    obtain ⟨first, hfirst, hdigest, hone, hstate, hstatus⟩ := hd.2 row₀ hrow₀ hfields.1
    exact ⟨first, mem_update_complete hfirst hstate, by rw [hdigest, hfields.2], hone, hstate,
      hstatus⟩

end Attempts

/-! ## An insert -/

variable {prior : List HandoffRow} {plan : AgentToolHandoffPlan}

/-- An insert that finds what its claim read keeps one attempt and one retry. -/
theorem SingleDispatch.insert (now : Time) (hd : SingleDispatch rows)
    (hcheck : checkPrior plan prior = .ok ())
    (hread : priorHandoffs rows plan.agentOutcomeDigest = prior) :
    SingleDispatch (rows ++ [plan.row now]) := by
  have hkeep : ∀ {row : HandoffRow}, (∃ first ∈ rows,
      first.agentOutcomeDigest = row.agentOutcomeDigest ∧ first.attempt = 1 ∧
        first.state = .completed ∧ first.status = some .approvalRequired) →
      ∃ first ∈ rows ++ [plan.row now], first.agentOutcomeDigest = row.agentOutcomeDigest ∧
        first.attempt = 1 ∧ first.state = .completed ∧
          first.status = some .approvalRequired := by
    rintro row ⟨first, hfirst, hrest⟩
    exact ⟨first, List.mem_append_left _ hfirst, hrest⟩
  -- the handoffs of the outcome are those the claim read
  have hmine : ∀ row ∈ rows, row.agentOutcomeDigest = plan.agentOutcomeDigest → row ∈ prior := by
    intro row hrow hdigest
    rw [← hread]
    exact mem_priorHandoffs.2 ⟨hrow, hdigest⟩
  rcases checkPrior_ok hcheck with ⟨hattempt, rfl⟩ | ⟨hattempt, first, rfl, hretries⟩
  · have hnone : ∀ attempt, attempts rows plan.agentOutcomeDigest attempt = 0 := by
      intro attempt
      refine attempts_eq_zero.2 fun row hrow hdigest => ?_
      exact (List.not_mem_nil (hmine row hrow hdigest)).elim
    refine ⟨fun digest => ?_, fun row hrow htwo => ?_⟩
    · obtain ⟨hone, htwo⟩ := hd.1 digest
      rw [attempts_concat, attempts_concat]
      by_cases hdigest : plan.agentOutcomeDigest = digest
      · subst hdigest
        simp [hnone, AgentToolHandoffPlan.row, hattempt]
      · simp [AgentToolHandoffPlan.row, hdigest, hone, htwo]
    · rcases List.mem_append.1 hrow with hrow | hrow
      · exact hkeep (hd.2 row hrow htwo)
      · rw [List.mem_singleton.1 hrow] at htwo
        simp [AgentToolHandoffPlan.row, hattempt] at htwo
  · obtain ⟨hstate, hstatus, hone, -⟩ := hretries
    have hnone : attempts rows plan.agentOutcomeDigest 2 = 0 := by
      refine attempts_eq_zero.2 fun row hrow hdigest => ?_
      rw [List.mem_singleton.1 (hmine row hrow hdigest), hone]
      decide
    obtain ⟨hmem, hdigestFirst⟩ := mem_priorHandoffs.1
      (by rw [hread]; exact List.mem_singleton_self _ :
        first ∈ priorHandoffs rows plan.agentOutcomeDigest)
    refine ⟨fun digest => ?_, fun row hrow htwo => ?_⟩
    · obtain ⟨hfirsts, hretries⟩ := hd.1 digest
      rw [attempts_concat, attempts_concat]
      by_cases hdigest : plan.agentOutcomeDigest = digest
      · subst hdigest
        simp [hnone, AgentToolHandoffPlan.row, hattempt, hfirsts]
      · simp [AgentToolHandoffPlan.row, hdigest, hfirsts, hretries]
    · rcases List.mem_append.1 hrow with hrow | hrow
      · exact hkeep (hd.2 row hrow htwo)
      · rw [List.mem_singleton.1 hrow]
        exact hkeep ⟨first, hmem, hdigestFirst, hone, hstate, hstatus⟩

/-- An insert that keeps one attempt and one retry finds what its claim read. -/
theorem HandoffSystem.Sound.read_of_insert {sys : HandoffSystem} (hs : sys.Sound) {connection : ℕ}
    {now : Time} (hclaim : sys.claims connection = some (.checked plan prior))
    (hd : SingleDispatch sys.rows) (hd' : SingleDispatch (sys.rows ++ [plan.row now])) :
    priorHandoffs sys.rows plan.agentOutcomeDigest = prior := by
  obtain ⟨hcheck, hprior⟩ := hs.checks connection plan prior hclaim
  have hcounts := hd'.1 plan.agentOutcomeDigest
  rw [attempts_concat, attempts_concat] at hcounts
  rcases checkPrior_ok hcheck with ⟨hattempt, rfl⟩ | ⟨hattempt, first, rfl, hretries⟩
  · refine hd.priorHandoffs_eq_nil hs.bounds ?_
    simp only [AgentToolHandoffPlan.row, hattempt, and_self, if_true] at hcounts
    omega
  · obtain ⟨hmem, hdigest⟩ := hprior first (List.mem_singleton_self _) hretries.1
    refine hd.priorHandoffs_eq_singleton hs.bounds ?_ (mem_priorHandoffs.2 ⟨hmem, hdigest⟩)
    simp only [AgentToolHandoffPlan.row, hattempt, and_self, if_true] at hcounts
    omega

theorem HandoffSystem.Sound.single_step_iff {sys : HandoffSystem} (hs : sys.Sound)
    (hd : SingleDispatch sys.rows) (call : HandoffCall) :
    SingleDispatch (sys.step call).rows ↔ InsertsAsRead sys call := by
  cases call with
  | look connection plan => exact iff_of_true hd trivial
  | check connection =>
    refine iff_of_true ?_ trivial
    simp only [HandoffSystem.step]
    split
    · exact hd
    · exact hd
  | complete outcome =>
    refine iff_of_true ?_ trivial
    simp only [HandoffSystem.step]
    cases hcomplete : completeHandoff sys.rows outcome with
    | error e => exact hd
    | ok rows' =>
      rw [completeHandoff_ok hcomplete]
      exact hd.complete outcome
  | insert connection now =>
    simp only [HandoffSystem.step, InsertsAsRead]
    split
    next plan prior hclaim =>
      simp only [HandoffSystem.setClaim]
      cases hinsert : insertHandoff sys.rows plan now with
      | error e =>
        refine iff_of_true hd fun plan' prior' rows' hclaim' hinsert' => ?_
        rw [hclaim] at hclaim'
        cases hclaim'
        rw [hinsert] at hinsert'
        cases hinsert'
      | ok rows' =>
        obtain ⟨-, rfl⟩ := insertHandoff_ok hinsert
        constructor
        · intro hd' plan' prior' rows' hclaim' _
          rw [hclaim] at hclaim'
          cases hclaim'
          exact hs.read_of_insert hclaim hd hd'
        · intro hread
          have hcheck := (hs.checks connection plan prior hclaim).1
          exact hd.insert now hcheck (hread plan prior _ hclaim hinsert)
    next hnone =>
      refine iff_of_true hd fun plan prior rows' hclaim _ => ?_
      exact absurd hclaim (hnone plan prior)

theorem singleDispatch_nil : SingleDispatch [] :=
  ⟨fun _ => ⟨Nat.zero_le _, Nat.zero_le _⟩, fun _ hrow => (List.not_mem_nil hrow).elim⟩

/-- A call that no other call interrupts. -/
def wholeHandoff (rows : List HandoffRow) :
    (AgentToolHandoffPlan × Time) ⊕ AgentToolHandoffOutcome →
      Except AgentToolHandoffError (List HandoffRow)
  | .inl (plan, now) => do
    let (rows, _) ← claimHandoff rows plan now
    return rows
  | .inr outcome => completeHandoff rows outcome

/-- Where the calls come one after the other, an agent outcome has one attempt and one retry. -/
theorem whole_handoffs_single
    (calls : List ((AgentToolHandoffPlan × Time) ⊕ AgentToolHandoffOutcome)) :
    SingleDispatch (run (settle wholeHandoff) [] calls) := by
  refine run_invariant _ (fun rows call hd => settle_induction hd fun rows' h => ?_) calls
    singleDispatch_nil
  cases call with
  | inr outcome =>
    rw [completeHandoff_ok h]
    exact hd.complete outcome
  | inl claim =>
    simp only [wholeHandoff, claimHandoff, bind_eq_ok, pure_eq_ok] at h
    obtain ⟨⟨claimed, answer⟩, ⟨existing, -, h⟩, rfl⟩ := h
    cases existing with
    | some outcome =>
      cases h
      exact hd
    | none =>
      simp only [bind_eq_ok, pure_eq_ok] at h
      obtain ⟨⟨⟩, hcheck, rows', hinsert, h⟩ := h
      cases h
      obtain ⟨-, rfl⟩ := insertHandoff_ok hinsert
      exact hd.insert claim.2 hcheck rfl

/-- Over any interleaving, an agent outcome has one attempt and one retry of it in every state
exactly when every insert finds the handoffs that its claim read. -/
theorem single_dispatch_iff (calls : List HandoffCall) :
    Always HandoffSystem.step (fun sys => SingleDispatch sys.rows) .empty calls ↔
      Along HandoffSystem.step InsertsAsRead .empty calls :=
  always_iff_along HandoffSystem.step (fun _ call hs => hs.step call)
    (fun _ call hs hd => hs.single_step_iff hd call) calls HandoffSystem.sound_empty
    singleDispatch_nil

end

/-! ## Two connections -/

section

/-- A digest that is short enough to compute with. -/
@[reducible] def textHandoffDigest : CanonicalDigest AgentToolHandoffPlan :=
  ⟨fun plan => "h" ++ plan.idempotencyKey⟩

attribute [local instance] textHandoffDigest

/-- A first attempt of the tool proposal of the outcome `o`. -/
def sampleHandoff (key : String) : AgentToolHandoffPlan where
  agentPlanDigest := "p"
  agentOutcomeDigest := "o"
  brokerCallDigest := "b"
  callCommitment := "c"
  expectedIntentInvocationDigest := "i"
  attempt := 1
  previousHandoffId := none
  createdAt := 0
  deadline := 9
  idempotencyKey := key
  attempt_bounds := first_of_two
  window := by decide
  retry_shape := first_version

/-- Both connections read before either inserts. -/
def racingRun : List HandoffCall :=
  [.look 0 (sampleHandoff "k"), .check 0, .look 1 (sampleHandoff "l"), .check 1, .insert 0 1,
    .insert 1 1]

/-- The one tool proposal has two first attempts. -/
theorem racingRun_dispatches_twice :
    attempts (run HandoffSystem.step .empty racingRun).rows "o" 1 = 2 ∧
      ¬Always HandoffSystem.step (fun sys => SingleDispatch sys.rows) .empty racingRun := by
  have htwo : attempts (run HandoffSystem.step .empty racingRun).rows "o" 1 = 2 := by decide
  refine ⟨htwo, fun h => ?_⟩
  have hone := ((h racingRun (List.prefix_refl _)).1 "o").1
  omega

end

end VulnLoom

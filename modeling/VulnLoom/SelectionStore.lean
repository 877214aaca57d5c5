import VulnLoom.Basic
import VulnLoom.Connections
import VulnLoom.Table

/-!
# Decisions on recommendations

The ledger of human decisions on admitted candidate recommendations. A claim reads the row of
its command, reads the decisions of the same admission record, and inserts its own; the
transaction opens at the insert. A completion is one update. The texts of a reviewer and a key
are not bounded here.

`final_decisions_iff` : the decisions of every record stay final throughout a run exactly when
every claim that inserts still finds the record open.
-/

set_option linter.unusedSectionVars false

namespace VulnLoom

open Connections Transition

/-! ## Records -/

inductive CandidateRecommendationSelectionDecision
  | accept
  | reject
  | defer
  deriving DecidableEq

/-- `terminal` of a claim. -/
def CandidateRecommendationSelectionDecision.isTerminal :
    CandidateRecommendationSelectionDecision → Bool
  | accept | reject => true
  | defer => false

inductive SelectionState
  | started
  | completed
  deriving DecidableEq

@[ext]
structure CandidateRecommendationSelectionCommand where
  admissionPlanId : Digest
  admissionRecordId : Digest
  admissionRecordDigest : Digest
  recommendationId : Digest
  recommendationDigest : Digest
  generationPlanId : Digest
  generationOutcomeId : Digest
  generationOutcomeDigest : Digest
  candidateSetId : Digest
  candidateId : UUID
  candidateDigest : Digest
  sourceGraphId : Digest
  targetId : UUID
  targetVersionDigest : Digest
  scopeId : UUID
  scopeVersion : ℕ
  scopeDigest : Digest
  decision : CandidateRecommendationSelectionDecision
  reviewerId : String
  decidedAt : Time
  expiresAt : Time
  idempotencyKey : String
  window : decidedAt < expiresAt ∧ expiresAt ≤ decidedAt + 300000000

instance : DecidableEq CandidateRecommendationSelectionCommand :=
  fun _ _ => decidable_of_iff _ CandidateRecommendationSelectionCommand.ext_iff.symm

structure CandidateRecommendationSelectionRecord where
  commandId : Digest
  admissionPlanId : Digest
  admissionRecordId : Digest
  admissionRecordDigest : Digest
  recommendationId : Digest
  generationPlanId : Digest
  generationOutcomeId : Digest
  candidateSetId : Digest
  candidateId : UUID
  candidateDigest : Digest
  targetId : UUID
  targetVersionDigest : Digest
  scopeId : UUID
  scopeVersion : ℕ
  decision : CandidateRecommendationSelectionDecision
  reviewerId : String
  decidedAt : Time
  recordedAt : Time
  recorded_after : decidedAt ≤ recordedAt

/-- The record makes the candidate eligible for validation intake. -/
def CandidateRecommendationSelectionRecord.eligibleForValidationIntake
    (record : CandidateRecommendationSelectionRecord) : Bool :=
  record.decision = .accept

/-- An exception of the selection store. -/
inductive SelectionError
  | conflict (reason : String)
  | recoveryRequired (reason : String)
  deriving DecidableEq

structure CandidateRecommendationSelectionClaim where
  created : Bool
  record : Option CandidateRecommendationSelectionRecord

/-- A row of `candidate_recommendation_selections`. -/
structure SelectionRow where
  commandId : Digest
  command : CandidateRecommendationSelectionCommand
  state : SelectionState
  record : Option CandidateRecommendationSelectionRecord

def SelectionRow.admissionRecordId (row : SelectionRow) : Digest :=
  row.command.admissionRecordId

def SelectionRow.decision (row : SelectionRow) : CandidateRecommendationSelectionDecision :=
  row.command.decision

def selectionClash (a b : SelectionRow) : Bool :=
  a.commandId = b.commandId ∨ a.command.idempotencyKey = b.command.idempotencyKey

section

variable [CanonicalDigest CandidateRecommendationSelectionCommand]

def CandidateRecommendationSelectionCommand.commandId
    (command : CandidateRecommendationSelectionCommand) : Digest :=
  canonicalDigest command

/-- The row a claim inserts. -/
def CandidateRecommendationSelectionCommand.row
    (command : CandidateRecommendationSelectionCommand) : SelectionRow where
  commandId := command.commandId
  command := command
  state := .started
  record := none

/-! ## The ledger -/

/-- The first read of a claim : a decided command is answered by its record. -/
def readSelection (rows : List SelectionRow) (command : CandidateRecommendationSelectionCommand) :
    Except SelectionError (Option CandidateRecommendationSelectionRecord) :=
  match rows.find? fun row =>
    row.commandId = command.commandId ∨ row.command.idempotencyKey = command.idempotencyKey with
  | none => .ok none
  | some row => do
    raiseIf (row.commandId ≠ command.commandId ∨ row.command ≠ command) (.conflict
      "recommendation selection identity conflict")
    raiseIf (row.state ≠ .completed) (.recoveryRequired
      "recommendation selection has unfinished STARTED state")
    let record ← orRaise row.record (.recoveryRequired
      "recommendation selection has unfinished STARTED state")
    return some record

/-- The decisions on an admission record, in the order of their rows. -/
def decisions (rows : List SelectionRow) (admissionRecordId : Digest) : List SelectionRow :=
  rows.filter fun row => row.admissionRecordId = admissionRecordId

/-- What a claim asks of the decisions before it. -/
def checkDecisions (prior : List SelectionRow) : Except SelectionError Unit := do
  raiseIf (prior.any fun row => row.state ≠ .completed) (.recoveryRequired
    "recommendation selection has an unfinished prior decision")
  raiseIf (16 ≤ prior.length) (.conflict "recommendation selection decision limit reached")
  raiseIf (prior.any fun row => row.decision.isTerminal) (.conflict
    "recommendation selection was already finalized")

/-- The insert of a claim. -/
def insertSelection (rows : List SelectionRow)
    (command : CandidateRecommendationSelectionCommand) :
    Except SelectionError (List SelectionRow) :=
  orRaise (Table.insert selectionClash rows command.row) (.conflict
    "recommendation selection concurrent claim rejected")

/-- `CandidateRecommendationSelectionStore.claim`, where nothing comes between its steps. -/
def claimSelection (rows : List SelectionRow)
    (command : CandidateRecommendationSelectionCommand) :
    Except SelectionError (List SelectionRow × CandidateRecommendationSelectionClaim) := do
  match ← readSelection rows command with
  | some record => return (rows, ⟨false, some record⟩)
  | none =>
    checkDecisions (decisions rows command.admissionRecordId).reverse
    let claimed ← insertSelection rows command
    return (claimed, ⟨true, none⟩)

/-- The started row of a command. -/
def SelectionRow.awaits (record : CandidateRecommendationSelectionRecord) (row : SelectionRow) :
    Bool :=
  row.commandId = record.commandId ∧ row.state = .started

def SelectionRow.complete (record : CandidateRecommendationSelectionRecord)
    (row : SelectionRow) : SelectionRow :=
  { row with state := .completed, record := some record }

/-- `CandidateRecommendationSelectionStore.complete`. -/
def completeSelection (rows : List SelectionRow)
    (record : CandidateRecommendationSelectionRecord) :
    Except SelectionError (List SelectionRow) := do
  raiseIf (Table.rowcount (SelectionRow.awaits record) rows ≠ 1) (.recoveryRequired
    "recommendation selection STARTED checkpoint unavailable")
  return Table.update (SelectionRow.awaits record) (SelectionRow.complete record) rows

/-! ## Calls and their steps -/

inductive SelectionCall
  | claim (command : CandidateRecommendationSelectionCommand)
  | complete (record : CandidateRecommendationSelectionRecord)

/-- A call between two of its steps. -/
inductive PendingSelection
  | look (command : CandidateRecommendationSelectionCommand)
  | check (command : CandidateRecommendationSelectionCommand)
  | insert (command : CandidateRecommendationSelectionCommand)
  | complete (record : CandidateRecommendationSelectionRecord)

def SelectionCall.begins : SelectionCall → PendingSelection
  | claim command => .look command
  | complete record => .complete record

/-- The two reads of a claim, its insert, and a completion. -/
def selections : Program (List SelectionRow) SelectionCall PendingSelection
    (Except SelectionError CandidateRecommendationSelectionClaim) where
  begins := SelectionCall.begins
  next rows
    | .look command =>
      match readSelection rows command with
      | .ok none => (rows, .inl (.check command))
      | .ok (some record) => (rows, .inr (.ok ⟨false, some record⟩))
      | .error e => (rows, .inr (.error e))
    | .check command =>
      match checkDecisions (decisions rows command.admissionRecordId).reverse with
      | .ok () => (rows, .inl (.insert command))
      | .error e => (rows, .inr (.error e))
    | .insert command =>
      match insertSelection rows command with
      | .ok claimed => (claimed, .inr (.ok ⟨true, none⟩))
      | .error e => (rows, .inr (.error e))
    | .complete record =>
      match completeSelection rows record with
      | .ok completed => (completed, .inr (.ok ⟨false, some record⟩))
      | .error e => (rows, .inr (.error e))

/-- Where nothing comes between its steps, a connection claims as `claimSelection` does. -/
theorem claimSelection_steps (rows : List SelectionRow)
    (command : CandidateRecommendationSelectionCommand) (connection : ℕ) :
    (run selections.step (System.idle rows) [.call connection (.claim command), .go connection,
      .go connection, .go connection]).store =
      match claimSelection rows command with
      | .ok (claimed, _) => claimed
      | .error _ => rows := by
  simp only [run_cons, run_nil, Program.step, selections, System.idle, SelectionCall.begins,
    Function.update_self, claimSelection]
  cases hlook : readSelection rows command with
  | error e => simp [bind, Except.bind]
  | ok read =>
    cases read with
    | some record => simp [bind, Except.bind, pure, Except.pure]
    | none =>
      simp only [Sum.getLeft?_inl, Function.update_self, ok_bind]
      cases hcheck : checkDecisions (decisions rows command.admissionRecordId).reverse with
      | error e => simp [bind, Except.bind]
      | ok u =>
        simp only [Sum.getLeft?_inl, ok_bind]
        cases hinsert : insertSelection rows command with
        | error e => rfl
        | ok claimed => rfl

/-! ## Final decisions -/

/-- The decisions on one record : one terminal decision at most, which is the last one, one
that is started at most, and 16 in all. -/
structure Final (ds : List SelectionRow) : Prop where
  terminal : ds.countP (fun row => row.decision.isTerminal) ≤ 1
  last : ∀ pre row post, ds = pre ++ row :: post → row.decision.isTerminal = true → post = []
  started : ds.countP (fun row => row.state = .started) ≤ 1
  limit : ds.length ≤ 16

def FinalDecisions (rows : List SelectionRow) : Prop :=
  ∀ admissionRecordId, Final (decisions rows admissionRecordId)

/-- A claim that inserts a row finds the decisions of its record still open. -/
def InsertsIntoOpen (rows : List SelectionRow) : PendingSelection → Prop
  | .insert command => ∀ claimed, insertSelection rows command = .ok claimed →
      checkDecisions (decisions rows command.admissionRecordId).reverse = .ok ()
  | _ => True

variable {ds : List SelectionRow}

theorem checkDecisions_ok : checkDecisions ds.reverse = .ok () ↔
    (∀ row ∈ ds, row.state = .completed) ∧ ds.length < 16 ∧
      ∀ row ∈ ds, row.decision.isTerminal = false := by
  simp [checkDecisions]

theorem final_nil : Final [] where
  terminal := Nat.zero_le _
  last pre row post h := by simp at h
  started := Nat.zero_le _
  limit := Nat.zero_le _

/-- A started decision keeps the decisions of its record final exactly when it finds them
open. -/
theorem final_concat_iff (hds : Final ds) {row : SelectionRow} (hrow : row.state = .started) :
    Final (ds ++ [row]) ↔ checkDecisions ds.reverse = .ok () := by
  rw [checkDecisions_ok]
  constructor
  · intro h
    refine ⟨fun r hr => ?_, ?_, fun r hr => ?_⟩
    · have hcount := h.started
      rw [List.countP_append, List.countP_singleton, hrow] at hcount
      have hzero : ds.countP (fun row => row.state = .started) = 0 := by
        simp only [decide_true, if_true] at hcount
        omega
      have := List.countP_eq_zero.1 hzero r hr
      cases hstate : r.state with
      | started => simp [hstate] at this
      | completed => rfl
    · have := h.limit
      rw [List.length_append, List.length_singleton] at this
      omega
    · by_contra hterminal
      obtain ⟨pre, post, rfl⟩ := List.append_of_mem hr
      have := h.last pre r (post ++ [row]) (by simp) (by simpa using hterminal)
      simp at this
  · rintro ⟨hcompleted, hlimit, hopen⟩
    have hnone : ds.countP (fun row => row.decision.isTerminal) = 0 :=
      List.countP_eq_zero.2 fun r hr => by simp [hopen r hr]
    have hdone : ds.countP (fun row => row.state = .started) = 0 :=
      List.countP_eq_zero.2 fun r hr => by simp [hcompleted r hr]
    refine ⟨?_, fun pre r post heq hterminal => ?_, ?_, ?_⟩
    · rw [List.countP_append, hnone, Nat.zero_add]
      exact List.countP_le_length
    · rcases List.eq_nil_or_concat post with rfl | ⟨post', r', rfl⟩
      · rfl
      · rw [List.concat_eq_append, ← List.cons_append, ← List.append_assoc] at heq
        obtain ⟨hds', -⟩ := List.append_inj' heq rfl
        have := hopen r (hds' ▸ List.mem_append_right _ List.mem_cons_self)
        rw [this] at hterminal
        cases hterminal
    · rw [List.countP_append, hdone, Nat.zero_add]
      exact List.countP_le_length
    · rw [List.length_append, List.length_singleton]
      omega

/-! ## Steps -/

theorem decisions_complete (rows : List SelectionRow)
    (record : CandidateRecommendationSelectionRecord) (admissionRecordId : Digest) :
    decisions (Table.update (SelectionRow.awaits record) (SelectionRow.complete record) rows)
        admissionRecordId =
      Table.update (SelectionRow.awaits record) (SelectionRow.complete record)
        (decisions rows admissionRecordId) := by
  simp only [decisions, Table.update, List.filter_map]
  refine congrArg _ (List.filter_congr fun row _ => ?_)
  simp only [Function.comp_apply]
  split_ifs
  · rfl
  · rfl

/-- A completion keeps the decisions, their order and their number. -/
theorem Final.complete (hds : Final ds) (record : CandidateRecommendationSelectionRecord) :
    Final (Table.update (SelectionRow.awaits record) (SelectionRow.complete record) ds) := by
  refine ⟨?_, fun pre row post heq hterminal => ?_, ?_, ?_⟩
  · rw [Table.countP_update_of_eq (f := SelectionRow.complete record) (fun _ _ => rfl)]
    exact hds.terminal
  · obtain ⟨pre₀, rest₀, rfl, hpre, hrest⟩ := List.map_eq_append_iff.1 heq
    obtain ⟨row₀, post₀, rfl, hrow, hpost⟩ := List.map_eq_cons_iff.1 hrest
    have hterminal₀ : row₀.decision.isTerminal = true := by
      rw [← hrow] at hterminal
      split_ifs at hterminal
      · exact hterminal
      · exact hterminal
    rw [← hpost, hds.last pre₀ row₀ post₀ rfl hterminal₀, List.map_nil]
  · have hleave := Table.countP_update_leave (p := SelectionRow.awaits record)
      (q := fun row => row.state = .started) (f := SelectionRow.complete record)
      (fun _ _ => by simp [SelectionRow.complete]) ds
    have hstarted := hds.started
    omega
  · rw [Table.length_update]
    exact hds.limit

variable {rows : List SelectionRow}

theorem FinalDecisions.complete (h : FinalDecisions rows)
    (record : CandidateRecommendationSelectionRecord) : FinalDecisions
      (Table.update (SelectionRow.awaits record) (SelectionRow.complete record) rows) := by
  intro admissionRecordId
  rw [decisions_complete]
  exact (h admissionRecordId).complete record

theorem insertSelection_ok {claimed : List SelectionRow}
    {command : CandidateRecommendationSelectionCommand}
    (h : insertSelection rows command = .ok claimed) : claimed = rows ++ [command.row] := by
  simp only [insertSelection, orRaise_eq_ok, Table.insert_eq_some] at h
  exact h.2

theorem FinalDecisions.insert_iff (h : FinalDecisions rows)
    (command : CandidateRecommendationSelectionCommand) : FinalDecisions (rows ++ [command.row]) ↔
      checkDecisions (decisions rows command.admissionRecordId).reverse = .ok () := by
  have hown : decisions (rows ++ [command.row]) command.admissionRecordId =
      decisions rows command.admissionRecordId ++ [command.row] := by
    simp [decisions, SelectionRow.admissionRecordId,
      CandidateRecommendationSelectionCommand.row]
  constructor
  · intro hfinal
    have hrecord := hfinal command.admissionRecordId
    rw [hown] at hrecord
    exact (final_concat_iff (h _) rfl).1 hrecord
  · intro hopen admissionRecordId
    by_cases heq : admissionRecordId = command.admissionRecordId
    · rw [heq, hown]
      exact (final_concat_iff (h _) rfl).2 hopen
    · have hother : decisions (rows ++ [command.row]) admissionRecordId =
          decisions rows admissionRecordId := by
        simp [decisions, SelectionRow.admissionRecordId,
          CandidateRecommendationSelectionCommand.row, Ne.symm heq]
      rw [hother]
      exact h admissionRecordId

/-! ## Runs -/

/-- A call that no other call interrupts. -/
def wholeSelection (rows : List SelectionRow) :
    SelectionCall → Except SelectionError (List SelectionRow)
  | .claim command => do
    let (rows, _) ← claimSelection rows command
    return rows
  | .complete record => completeSelection rows record

/-- Where the calls come one after the other, the decisions of every admission record stay
final. -/
theorem whole_decisions_final (calls : List SelectionCall) :
    FinalDecisions (run (settle wholeSelection) [] calls) := by
  refine run_invariant _ (fun rows call hfinal => settle_induction hfinal fun rows' h => ?_) calls
    fun _ => final_nil
  cases call with
  | claim command =>
    simp only [wholeSelection, claimSelection, bind_eq_ok, pure_eq_ok] at h
    obtain ⟨⟨claimed, answer⟩, ⟨read, -, h⟩, rfl⟩ := h
    cases read with
    | some record =>
      cases h
      exact hfinal
    | none =>
      simp only [bind_eq_ok, pure_eq_ok] at h
      obtain ⟨⟨⟩, hcheck, rows', hinsert, h⟩ := h
      cases h
      rw [insertSelection_ok hinsert]
      exact (hfinal.insert_iff command).2 hcheck
  | complete record =>
    simp only [wholeSelection, completeSelection, bind_eq_ok, pure_eq_ok] at h
    obtain ⟨-, -, rfl⟩ := h
    exact hfinal.complete record

/-- From an empty ledger, the decisions of every admission record stay final throughout a run
exactly when every claim that inserts finds the decisions of its record as open as its check
demands. -/
theorem final_decisions_iff (steps : List (Step SelectionCall)) :
    Always selections.step (fun sys => FinalDecisions sys.store) (System.idle []) steps ↔
      Along selections.step (System.Meets InsertsIntoOpen) (System.idle []) steps := by
  refine Program.always_iff_along (I := fun _ => True) (J := fun _ _ => True)
    (fun _ _ _ => trivial) (fun _ _ _ _ => trivial) ?_ ?_ steps trivial
    (System.holds_idle fun _ => final_nil)
  · intro rows pending _ hfinal _ hC
    refine ⟨?_, fun _ _ => trivial, fun _ _ => trivial⟩
    cases pending with
    | look command =>
      simp only [selections]
      split <;> exact hfinal
    | check command =>
      simp only [selections]
      split <;> exact hfinal
    | insert command =>
      simp only [selections]
      split
      next claimed hinsert =>
        rw [insertSelection_ok hinsert]
        exact (hfinal.insert_iff command).2 (hC claimed hinsert)
      · exact hfinal
    | complete record =>
      simp only [selections]
      split
      next completed hcomplete =>
        simp only [completeSelection, bind_eq_ok, pure_eq_ok] at hcomplete
        obtain ⟨-, -, rfl⟩ := hcomplete
        exact hfinal.complete record
      · exact hfinal
  · intro rows pending _ hfinal _ hkept
    cases pending with
    | look command => trivial
    | check command => trivial
    | insert command =>
      intro claimed hinsert
      simp only [selections, hinsert] at hkept
      rw [insertSelection_ok hinsert] at hkept
      exact (hfinal.insert_iff command).1 hkept
    | complete record => trivial

end

/-! ## Two reviewers at once -/

section Sample

@[reducible] def selectionText : CanonicalDigest CandidateRecommendationSelectionCommand :=
  ⟨CandidateRecommendationSelectionCommand.idempotencyKey⟩

attribute [local instance] selectionText

def sampleSelection (decision : CandidateRecommendationSelectionDecision) (reviewerId : String) :
    CandidateRecommendationSelectionCommand where
  admissionPlanId := "admission plan"
  admissionRecordId := "admission"
  admissionRecordDigest := "admission digest"
  recommendationId := "recommendation"
  recommendationDigest := "recommendation digest"
  generationPlanId := "generation plan"
  generationOutcomeId := "outcome"
  generationOutcomeDigest := "outcome digest"
  candidateSetId := "candidate set"
  candidateId := "c"
  candidateDigest := "candidate"
  sourceGraphId := "graph"
  targetId := "t"
  targetVersionDigest := "v1"
  scopeId := "s"
  scopeVersion := 1
  scopeDigest := "scope digest"
  decision := decision
  reviewerId := reviewerId
  decidedAt := 10
  expiresAt := 20
  idempotencyKey := reviewerId
  window := by decide

/-- Both reviewers read that the record has no decision before either inserts one. -/
def racingReviewers : List (Step SelectionCall) :=
  [.call 0 (.claim (sampleSelection .accept "alice")),
    .call 1 (.claim (sampleSelection .reject "bob")), .go 0, .go 1, .go 0, .go 1, .go 0, .go 1]

/-- The recommendation is both accepted and rejected. -/
theorem racing_reviewers_both_decide :
    ¬Always selections.step (fun sys => FinalDecisions sys.store) (System.idle [])
      racingReviewers := by
  intro h
  have hterminal := (h racingReviewers (List.prefix_refl _) "admission").terminal
  revert hterminal
  decide +kernel

end Sample

end VulnLoom

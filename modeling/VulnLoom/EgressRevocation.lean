import VulnLoom.ProviderEgress
import VulnLoom.TextCodec

/-!
# Revocation of egress grants

Writers on any number of connections issue grants and revoke them. A call of `require_active`
that begins at a moment of their run reads the row of a grant at a later moment, and looks for an
unfinished revocation at a third.

`egress_current_iff` : what the call returns was issued and not claimed for revocation at a moment
of the call, and not when it began, unless a revocation claimed before the call is completed
between its two reads.
-/

set_option linter.unusedSectionVars false

namespace VulnLoom

open Connections Transition

section

variable [CanonicalDigest AgentProviderEgressGrant] [CanonicalDigest AgentProviderEgressRevocation]

namespace EgressLedger

variable {ledger : EgressLedger} {grantId : Digest}

/-! ## What a ledger says of a grant -/

/-- The issuance of the grant is completed. -/
def Issued (ledger : EgressLedger) (grantId : Digest) : Prop :=
  ∃ row ∈ ledger.issuances, row.grantId = grantId ∧ row.state = .completed

/-- A revocation of the grant is claimed, completed or not. -/
def Claimed (ledger : EgressLedger) (grantId : Digest) : Prop :=
  ∃ row ∈ ledger.revocations, row.grantId = grantId

/-- The grant is issued and still active. -/
def Active (ledger : EgressLedger) (grantId : Digest) : Prop :=
  ∃ row ∈ ledger.issuances, row.grantId = grantId ∧ row.state = .completed ∧ row.status = .active

/-- A revocation of the grant is completed. -/
def Revoked (ledger : EgressLedger) (grantId : Digest) : Prop :=
  ∃ row ∈ ledger.issuances, row.grantId = grantId ∧ row.status = .revoked

instance : Decidable (ledger.Claimed grantId) :=
  inferInstanceAs (Decidable (∃ row ∈ ledger.revocations, row.grantId = grantId))

instance : Decidable (ledger.Revoked grantId) :=
  inferInstanceAs (Decidable (∃ row ∈ ledger.issuances,
    row.grantId = grantId ∧ row.status = .revoked))

/-- One issuance and one revocation for a grant; a revocation is that of an issued grant, and
completed exactly where the grant is revoked. -/
structure Sound (ledger : EgressLedger) : Prop where
  grants : (ledger.issuances.map IssuanceRow.grantId).Nodup
  revoked : (ledger.revocations.map RevocationRow.grantId).Nodup
  identified : ∀ row ∈ ledger.revocations, ∃ revocation : AgentProviderEgressRevocation,
    row.revocationId = revocation.revocationId ∧ row.grantId = revocation.grantId
  issued : ∀ row ∈ ledger.revocations, ∃ issuance ∈ ledger.issuances,
    issuance.grantId = row.grantId ∧ issuance.state = .completed ∧
      (issuance.status = .revoked ↔ row.state = .completed)
  claimed : ∀ issuance ∈ ledger.issuances, issuance.status = .revoked →
    ledger.Claimed issuance.grantId

theorem sound_empty : Sound .empty where
  grants := List.nodup_nil
  revoked := List.nodup_nil
  identified row hrow := by cases hrow
  issued row hrow := by cases hrow
  claimed row hrow := by cases hrow

theorem Sound.isRevocable_iff (h : ledger.Sound) :
    ledger.isRevocable grantId = true ↔ ledger.Active grantId := by
  simp only [isRevocable, decide_eq_true_eq, issuance, Option.mem_def]
  constructor
  · rintro ⟨row, hrow, hstate, hstatus⟩
    exact ⟨row, List.mem_of_find?_eq_some hrow, by simpa using List.find?_some hrow, hstate,
      hstatus⟩
  · rintro ⟨row, hrow, hid, hstate, hstatus⟩
    have hfind : (ledger.issuances.find? fun r => r.grantId = grantId).isSome :=
      List.find?_isSome.mpr ⟨row, hrow, by simpa using hid⟩
    obtain ⟨found, hfound⟩ := Option.isSome_iff_exists.mp hfind
    have heq : found = row := by
      refine Table.eq_of_key h.grants (List.mem_of_find?_eq_some hfound) hrow ?_
      rw [hid]
      simpa using List.find?_some hfound
    subst heq
    exact ⟨found, hfound, hstate, hstatus⟩

/-- Where a revocation is claimed, none is unfinished exactly where the grant is revoked. -/
theorem Sound.pending_iff (h : ledger.Sound) (hclaimed : ledger.Claimed grantId) :
    ledger.pendingRevocation grantId = false ↔ ledger.Revoked grantId := by
  obtain ⟨row, hrow, hid⟩ := hclaimed
  obtain ⟨issuance, hissuance, hgrant, -, hiff⟩ := h.issued row hrow
  have hstate : ledger.pendingRevocation grantId = false ↔ row.state = .completed := by
    simp only [pendingRevocation, List.any_eq_false, decide_eq_true_eq, not_and]
    constructor
    · intro hall
      cases hs : row.state with
      | started => exact absurd hs (hall row hrow hid)
      | completed => rfl
    · intro hs r hr hrid
      rw [Table.eq_of_key h.revoked hr hrow (hrid.trans hid.symm), hs]
      decide
  rw [hstate, ← hiff]
  constructor
  · exact fun hs => ⟨issuance, hissuance, hgrant.trans hid, hs⟩
  · rintro ⟨other, hother, hoid, hs⟩
    have heq : other = issuance :=
      Table.eq_of_key h.grants hother hissuance (hoid.trans (hgrant.trans hid).symm)
    exact heq ▸ hs

/-! ## What a step writes -/

/-- What the call under way has read still holds : the grant that it is about to revoke is
issued. -/
def Knows (ledger : EgressLedger) : PendingEgress → Prop
  | .insertRevocation revocation => ledger.Issued revocation.grantId
  | _ => True

/-- The writes of a step. -/
inductive Writes (ledger : EgressLedger) : PendingEgress → EgressLedger → Prop
  | nothing (pending : PendingEgress) : Writes ledger pending ledger
  | issue (grant : AgentProviderEgressGrant) (now : Time)
      (hfresh : ∀ row ∈ ledger.issuances, issuanceClash (grant.row now) row = false) :
      Writes ledger (.insertIssue grant now)
        { ledger with issuances := ledger.issuances ++ [grant.row now] }
  | completeIssue (grant : AgentProviderEgressGrant) (now : Time) :
      Writes ledger (.completeIssue grant now)
        { ledger with
          issuances := Table.update (awaitsIssue grant.grantId)
            (fun row => { row with state := .completed, completedAt := some now })
            ledger.issuances }
  | revoke (revocation : AgentProviderEgressRevocation)
      (hfresh : ∀ row ∈ ledger.revocations, revocationClash revocation.row row = false) :
      Writes ledger (.insertRevocation revocation)
        { ledger with revocations := ledger.revocations ++ [revocation.row] }
  | completeRevoke (revocation : AgentProviderEgressRevocation) (now : Time)
      (hone : Table.rowcount (awaitsRevocation revocation.revocationId) ledger.revocations = 1) :
      Writes ledger (.completeRevoke revocation now)
        { issuances := Table.update (awaitsRevoke revocation.grantId)
            (fun row => { row with status := .revoked }) ledger.issuances
          revocations := Table.update (awaitsRevocation revocation.revocationId)
            (fun row => { row with state := .completed, completedAt := some now })
            ledger.revocations }

theorem writes_next (ledger : EgressLedger) (pending : PendingEgress) :
    Writes ledger pending (egressWriters.next ledger pending).1 := by
  cases pending with
  | insertIssue grant now =>
    simp only [egressWriters]
    split
    next issuances hinsert =>
      obtain ⟨hfresh, rfl⟩ := Table.insert_eq_some.mp hinsert
      exact .issue grant now hfresh
    · exact .nothing _
  | rereadIssue grant => exact .nothing _
  | completeIssue grant now =>
    simp only [egressWriters]
    split
    next completed hcompleted =>
      simp only [EgressLedger.completeIssue, bind_eq_ok, pure_eq_ok] at hcompleted
      obtain ⟨-, -, rfl⟩ := hcompleted
      exact .completeIssue grant now
    · exact .nothing _
  | readRevocation revocation =>
    simp only [egressWriters]
    split <;> exact .nothing _
  | readIssuance revocation =>
    simp only [egressWriters]
    split <;> exact .nothing _
  | insertRevocation revocation =>
    simp only [egressWriters]
    split
    next revocations hinsert =>
      obtain ⟨hfresh, rfl⟩ := Table.insert_eq_some.mp hinsert
      exact .revoke revocation hfresh
    · exact .nothing _
  | rereadRevocation revocation =>
    simp only [egressWriters]
    split <;> exact .nothing _
  | completeRevoke revocation now =>
    simp only [egressWriters]
    split
    next completed hcompleted =>
      simp only [EgressLedger.completeRevoke, bind_eq_ok, raiseIf_eq_ok, not_or, not_not,
        pure_eq_ok] at hcompleted
      obtain ⟨-, ⟨hone, -⟩, rfl⟩ := hcompleted
      exact .completeRevoke revocation now hone
    · exact .nothing _

variable {pending : PendingEgress} {ledger' : EgressLedger}

/-- A grant stays issued. -/
theorem Writes.issued (h : Writes ledger pending ledger') (hissued : ledger.Issued grantId) :
    ledger'.Issued grantId := by
  obtain ⟨row, hrow, hid, hstate⟩ := hissued
  cases h with
  | nothing => exact ⟨row, hrow, hid, hstate⟩
  | issue grant now => exact ⟨row, List.mem_append_left _ hrow, hid, hstate⟩
  | completeIssue grant now =>
    refine ⟨row, Table.mem_update.mpr ⟨row, hrow, if_neg ?_⟩, hid, hstate⟩
    simp [awaitsIssue, hstate]
  | revoke revocation => exact ⟨row, hrow, hid, hstate⟩
  | completeRevoke revocation now =>
    refine ⟨_, Table.mem_update.mpr ⟨row, hrow, rfl⟩, ?_⟩
    split_ifs
    · exact ⟨hid, hstate⟩
    · exact ⟨hid, hstate⟩

/-- A claimed revocation stays. -/
theorem Writes.claimed (h : Writes ledger pending ledger') (hclaimed : ledger.Claimed grantId) :
    ledger'.Claimed grantId := by
  obtain ⟨row, hrow, hid⟩ := hclaimed
  cases h with
  | nothing => exact ⟨row, hrow, hid⟩
  | issue grant now => exact ⟨row, hrow, hid⟩
  | completeIssue grant now => exact ⟨row, hrow, hid⟩
  | revoke revocation => exact ⟨row, List.mem_append_left _ hrow, hid⟩
  | completeRevoke revocation now =>
    refine ⟨_, Table.mem_update.mpr ⟨row, hrow, rfl⟩, ?_⟩
    split_ifs
    · exact hid
    · exact hid

/-- A revoked grant stays revoked. -/
theorem Writes.revoked (h : Writes ledger pending ledger') (hrevoked : ledger.Revoked grantId) :
    ledger'.Revoked grantId := by
  obtain ⟨row, hrow, hid, hstatus⟩ := hrevoked
  cases h with
  | nothing => exact ⟨row, hrow, hid, hstatus⟩
  | issue grant now => exact ⟨row, List.mem_append_left _ hrow, hid, hstatus⟩
  | revoke revocation => exact ⟨row, hrow, hid, hstatus⟩
  | completeIssue grant now =>
    refine ⟨_, Table.mem_update.mpr ⟨row, hrow, rfl⟩, ?_⟩
    split_ifs <;> exact ⟨hid, hstatus⟩
  | completeRevoke revocation now =>
    refine ⟨_, Table.mem_update.mpr ⟨row, hrow, rfl⟩, ?_⟩
    split_ifs
    · exact ⟨hid, rfl⟩
    · exact ⟨hid, hstatus⟩

/-- A revocation of a grant is claimed by the insert of it. -/
theorem Writes.claims (h : Writes ledger pending ledger') (hbefore : ¬ledger.Claimed grantId)
    (hafter : ledger'.Claimed grantId) :
    ∃ revocation, pending = .insertRevocation revocation ∧ revocation.grantId = grantId := by
  obtain ⟨row, hrow, hid⟩ := hafter
  cases h with
  | nothing => exact absurd ⟨row, hrow, hid⟩ hbefore
  | issue grant now => exact absurd ⟨row, hrow, hid⟩ hbefore
  | completeIssue grant now => exact absurd ⟨row, hrow, hid⟩ hbefore
  | revoke revocation =>
    rcases List.mem_append.mp hrow with hold | hnew
    · exact absurd ⟨row, hold, hid⟩ hbefore
    · rw [List.mem_singleton.mp hnew] at hid
      exact ⟨revocation, rfl, hid⟩
  | completeRevoke revocation now =>
    obtain ⟨old, hold, rfl⟩ := Table.mem_update.mp hrow
    refine absurd ⟨old, hold, ?_⟩ hbefore
    split_ifs at hid
    · exact hid
    · exact hid

/-! ## The ledger stays sound -/

theorem Sound.issue (h : ledger.Sound) (grant : AgentProviderEgressGrant) (now : Time)
    (hfresh : ∀ row ∈ ledger.issuances, issuanceClash (grant.row now) row = false) :
    Sound { ledger with issuances := ledger.issuances ++ [grant.row now] } where
  grants := by
    refine Table.nodup_key_concat h.grants fun row hrow heq => ?_
    have hclash := hfresh row hrow
    simp [issuanceClash, heq] at hclash
  revoked := h.revoked
  identified := h.identified
  issued row hrow := by
    obtain ⟨issuance, hissuance, hrest⟩ := h.issued row hrow
    exact ⟨issuance, List.mem_append_left _ hissuance, hrest⟩
  claimed issuance hissuance hstatus := by
    rcases List.mem_append.mp hissuance with hold | hnew
    · exact h.claimed issuance hold hstatus
    · rw [List.mem_singleton.mp hnew] at hstatus
      cases hstatus

theorem Sound.completeIssue (h : ledger.Sound) (grant : AgentProviderEgressGrant) (now : Time) :
    Sound { ledger with
      issuances := Table.update (awaitsIssue grant.grantId)
        (fun row => { row with state := .completed, completedAt := some now })
        ledger.issuances } where
  grants := Table.nodup_key_update (fun _ => rfl) h.grants
  revoked := h.revoked
  identified := h.identified
  issued row hrow := by
    obtain ⟨issuance, hissuance, hgrant, hstate, hiff⟩ := h.issued row hrow
    refine ⟨issuance, Table.mem_update.mpr ⟨issuance, hissuance, if_neg ?_⟩, hgrant, hstate, hiff⟩
    simp [awaitsIssue, hstate]
  claimed issuance hissuance hstatus := by
    obtain ⟨old, hold, rfl⟩ := Table.mem_update.mp hissuance
    split_ifs at hstatus ⊢
    · exact h.claimed old hold hstatus
    · exact h.claimed old hold hstatus

theorem Sound.revoke (h : ledger.Sound) (revocation : AgentProviderEgressRevocation)
    (hfresh : ∀ row ∈ ledger.revocations, revocationClash revocation.row row = false)
    (hissued : ledger.Issued revocation.grantId) :
    Sound { ledger with revocations := ledger.revocations ++ [revocation.row] } where
  grants := h.grants
  revoked := by
    refine Table.nodup_key_concat h.revoked fun row hrow heq => ?_
    have hclash := hfresh row hrow
    simp [revocationClash, heq] at hclash
  identified row hrow := by
    rcases List.mem_append.mp hrow with hold | hnew
    · exact h.identified row hold
    · rw [List.mem_singleton.mp hnew]
      exact ⟨revocation, rfl, rfl⟩
  issued row hrow := by
    rcases List.mem_append.mp hrow with hold | hnew
    · exact h.issued row hold
    · rw [List.mem_singleton.mp hnew]
      obtain ⟨issuance, hissuance, hgrant, hstate⟩ := hissued
      refine ⟨issuance, hissuance, hgrant, hstate, ?_, fun hcompleted => (nomatch hcompleted)⟩
      intro hstatus
      obtain ⟨other, hother, hoid⟩ := h.claimed issuance hissuance hstatus
      have hclash := hfresh other hother
      simp [revocationClash, AgentProviderEgressRevocation.row, hoid, hgrant] at hclash
  claimed issuance hissuance hstatus := by
    obtain ⟨row, hrow, hid⟩ := h.claimed issuance hissuance hstatus
    exact ⟨row, List.mem_append_left _ hrow, hid⟩

/-- The revocation that a completion finds is the claimed one of its grant. -/
theorem Sound.awaited (h : ledger.Sound)
    (hinj : Function.Injective fun revocation : AgentProviderEgressRevocation =>
      revocation.revocationId)
    {revocation : AgentProviderEgressRevocation} {row : RevocationRow}
    (hrow : row ∈ ledger.revocations)
    (hawaits : awaitsRevocation revocation.revocationId row = true) :
    row.grantId = revocation.grantId ∧ row.state = .started := by
  simp only [awaitsRevocation, Bool.decide_and, Bool.and_eq_true, decide_eq_true_eq] at hawaits
  obtain ⟨claimed, hid, hgrant⟩ := h.identified row hrow
  have heq : claimed = revocation := hinj (hid.symm.trans hawaits.1)
  exact ⟨by rw [hgrant, heq], hawaits.2⟩

theorem Sound.completeRevoke (h : ledger.Sound)
    (hinj : Function.Injective fun revocation : AgentProviderEgressRevocation =>
      revocation.revocationId)
    (revocation : AgentProviderEgressRevocation) (now : Time)
    (hone : Table.rowcount (awaitsRevocation revocation.revocationId) ledger.revocations = 1) :
    Sound {
      issuances := Table.update (awaitsRevoke revocation.grantId)
        (fun row => { row with status := .revoked }) ledger.issuances
      revocations := Table.update (awaitsRevocation revocation.revocationId)
        (fun row => { row with state := .completed, completedAt := some now })
        ledger.revocations } where
  grants := Table.nodup_key_update (fun _ => rfl) h.grants
  revoked := Table.nodup_key_update (fun _ => rfl) h.revoked
  identified row hrow := by
    obtain ⟨old, hold, rfl⟩ := Table.mem_update.mp hrow
    split_ifs
    · exact h.identified old hold
    · exact h.identified old hold
  issued row hrow := by
    obtain ⟨target, htarget, htawaits⟩ := Table.exists_of_rowcount_one hone
    obtain ⟨htgrant, -⟩ := h.awaited hinj htarget htawaits
    obtain ⟨old, hold, rfl⟩ := Table.mem_update.mp hrow
    obtain ⟨issuance, hissuance, hgrant, hstate, hiff⟩ := h.issued old hold
    by_cases hawaits : awaitsRevocation revocation.revocationId old = true
    · obtain ⟨hogrant, hostate⟩ := h.awaited hinj hold hawaits
      have hactive : issuance.status = .active := by
        cases hs : issuance.status with
        | active => rfl
        | revoked => rw [hiff.mp hs] at hostate; cases hostate
      have hselected : awaitsRevoke revocation.grantId issuance = true := by
        simp [awaitsRevoke, hgrant, hogrant, hstate, hactive]
      refine ⟨_, Table.mem_update.mpr ⟨issuance, hissuance, rfl⟩, ?_⟩
      rw [if_pos hawaits, if_pos hselected]
      exact ⟨hgrant, hstate, iff_of_true rfl rfl⟩
    · -- another revocation is of another grant
      have hother : old.grantId ≠ revocation.grantId := by
        intro heq
        have : old = target := Table.eq_of_key h.revoked hold htarget (heq.trans htgrant.symm)
        exact hawaits (this ▸ htawaits)
      have hunselected : awaitsRevoke revocation.grantId issuance ≠ true := by
        simp [awaitsRevoke, hgrant, hother]
      refine ⟨issuance, Table.mem_update.mpr ⟨issuance, hissuance, if_neg hunselected⟩, ?_⟩
      rw [if_neg hawaits]
      exact ⟨hgrant, hstate, hiff⟩
  claimed issuance hissuance hstatus := by
    obtain ⟨target, htarget, htawaits⟩ := Table.exists_of_rowcount_one hone
    obtain ⟨htgrant, -⟩ := h.awaited hinj htarget htawaits
    obtain ⟨old, hold, rfl⟩ := Table.mem_update.mp hissuance
    have hstays : ∀ {grantId}, ledger.Claimed grantId → Claimed {
        issuances := Table.update (awaitsRevoke revocation.grantId)
          (fun row => { row with status := .revoked }) ledger.issuances
        revocations := Table.update (awaitsRevocation revocation.revocationId)
          (fun row => { row with state := .completed, completedAt := some now })
          ledger.revocations } grantId :=
      fun hclaimed => (Writes.completeRevoke revocation now hone).claimed hclaimed
    split_ifs at hstatus ⊢ with hselected
    · simp only [awaitsRevoke, Bool.decide_and, Bool.and_eq_true, decide_eq_true_eq] at hselected
      exact hstays ⟨target, htarget, htgrant.trans hselected.1.symm⟩
    · exact hstays (h.claimed old hold hstatus)

theorem Sound.writes (h : ledger.Sound)
    (hinj : Function.Injective fun revocation : AgentProviderEgressRevocation =>
      revocation.revocationId)
    (hwrites : Writes ledger pending ledger') (hknows : ledger.Knows pending) : ledger'.Sound := by
  cases hwrites with
  | nothing => exact h
  | issue grant now hfresh => exact h.issue grant now hfresh
  | completeIssue grant now => exact h.completeIssue grant now
  | revoke revocation hfresh => exact h.revoke revocation hfresh hknows
  | completeRevoke revocation now hone => exact h.completeRevoke hinj revocation now hone

theorem Knows.writes {other : PendingEgress} (h : ledger.Knows other)
    (hwrites : Writes ledger pending ledger') : ledger'.Knows other := by
  cases other with
  | insertRevocation revocation => exact hwrites.issued h
  | _ => trivial

/-- A call that goes on to its insert has seen the grant issued. -/
theorem Sound.knows_next (h : ledger.Sound) {pending next : PendingEgress}
    (hnext : (egressWriters.next ledger pending).2 = .inl next) :
    (egressWriters.next ledger pending).1.Knows next := by
  cases pending with
  | readIssuance revocation =>
    simp only [egressWriters] at hnext ⊢
    split_ifs at hnext with hrevocable
    · cases hnext
      rw [if_pos hrevocable]
      obtain ⟨row, hrow, hid, hstate, -⟩ := h.isRevocable_iff.mp hrevocable
      exact ⟨row, hrow, hid, hstate⟩
  | insertIssue grant now =>
    simp only [egressWriters] at hnext
    split at hnext
    · cases hnext
    · cases hnext
      trivial
  | rereadIssue grant => cases hnext
  | completeIssue grant now =>
    simp only [egressWriters] at hnext
    split at hnext
    · cases hnext
    · cases hnext
  | readRevocation revocation =>
    simp only [egressWriters] at hnext
    split at hnext
    · cases hnext
    · cases hnext
      trivial
  | insertRevocation revocation =>
    simp only [egressWriters] at hnext
    split at hnext
    · cases hnext
    · cases hnext
      trivial
  | rereadRevocation revocation =>
    simp only [egressWriters] at hnext
    split at hnext
    · cases hnext
    · cases hnext
  | completeRevoke revocation now =>
    simp only [egressWriters] at hnext
    split at hnext
    · cases hnext
    · cases hnext

end EgressLedger

/-! ## Runs of the writers -/

abbrev EgressSystem := System EgressLedger PendingEgress

/-- What holds of the ledger, and of what the calls under way have read. -/
def EgressSystem.Sound (sys : EgressSystem) : Prop :=
  sys.Holds EgressLedger.Sound EgressLedger.Knows

theorem EgressSystem.sound_step
    (hinj : Function.Injective fun revocation : AgentProviderEgressRevocation =>
      revocation.revocationId)
    (sys : EgressSystem) (step : Step EgressCall) (h : EgressSystem.Sound sys) :
    EgressSystem.Sound (egressWriters.step sys step) := by
  refine Program.holds_step (I := fun _ => True) (C := fun _ _ => True) ?_ ?_ trivial h ?_
  · intro ledger call _ _
    cases call with
    | claimIssue grant now => trivial
    | completeIssue grant now => trivial
    | claimRevoke revocation => trivial
    | completeRevoke revocation now => trivial
  · intro ledger pending _ hsound hknows _
    have hwrites := EgressLedger.writes_next ledger pending
    exact ⟨hsound.writes hinj hwrites hknows, fun next hnext => hsound.knows_next hnext,
      fun other hother => hother.writes hwrites⟩
  · cases step with
    | call connection call => trivial
    | go connection => exact fun _ _ => trivial

/-- The ledger after a run of the writers from an empty one. -/
def ledgerAfter (steps : List (Step EgressCall)) : EgressLedger :=
  (run egressWriters.step (System.idle .empty) steps).store

theorem sound_after
    (hinj : Function.Injective fun revocation : AgentProviderEgressRevocation =>
      revocation.revocationId)
    (steps : List (Step EgressCall)) :
    EgressSystem.Sound (run egressWriters.step (System.idle .empty) steps) :=
  run_invariant _ (EgressSystem.sound_step hinj) steps (System.holds_idle EgressLedger.sound_empty)

/-- What every write keeps is kept by a run. -/
theorem kept_after {P : EgressLedger → Prop}
    (hkeep : ∀ {ledger pending ledger'}, EgressLedger.Writes ledger pending ledger' →
      P ledger → P ledger')
    {steps : List (Step EgressCall)} (more : List (Step EgressCall)) (h : P (ledgerAfter steps)) :
    P (ledgerAfter (steps ++ more)) := by
  have hstep : ∀ (sys : EgressSystem) step, P sys.store → P (egressWriters.step sys step).store :=
    fun sys step hsys => Program.invariant_step (I := P)
      (fun ledger pending hledger => hkeep (EgressLedger.writes_next ledger pending) hledger)
      step hsys
  rw [ledgerAfter, run_append]
  exact run_invariant _ hstep more h

/-- What is claimed stays claimed. -/
theorem claimed_after {grantId : Digest} {steps : List (Step EgressCall)}
    (more : List (Step EgressCall)) (h : (ledgerAfter steps).Claimed grantId) :
    (ledgerAfter (steps ++ more)).Claimed grantId :=
  kept_after (P := fun ledger => ledger.Claimed grantId) EgressLedger.Writes.claimed more h

/-- A grant whose revocation is claimed in the course of a run was issued and not claimed just
before that. -/
theorem issued_before_claimed
    (hinj : Function.Injective fun revocation : AgentProviderEgressRevocation =>
      revocation.revocationId)
    {grantId : Digest} {before during : List (Step EgressCall)}
    (hbefore : ¬(ledgerAfter before).Claimed grantId)
    (hduring : (ledgerAfter (before ++ during)).Claimed grantId) :
    ∃ pre post, during = pre ++ post ∧ (ledgerAfter (before ++ pre)).Issued grantId ∧
      ¬(ledgerAfter (before ++ pre)).Claimed grantId := by
  rw [ledgerAfter, run_append] at hduring
  obtain ⟨pre, step, post, rfl, hpre, hstep⟩ := exists_leaving_step egressWriters.step
    (P := fun sys => ¬sys.store.Claimed grantId) during hbefore (not_not.mpr hduring)
  rw [← run_append] at hpre hstep
  rw [not_not] at hstep
  refine ⟨pre, step :: post, rfl, ?_, hpre⟩
  have hsound := sound_after hinj (before ++ pre)
  change EgressLedger.Issued (run egressWriters.step (System.idle .empty) (before ++ pre)).store
    grantId
  generalize run egressWriters.step (System.idle .empty) (before ++ pre) = sys at hpre hstep hsound
  cases step with
  | call connection call => exact absurd hstep hpre
  | go connection =>
    cases hpending : sys.calls connection with
    | none =>
      rw [Program.step_go_none _ hpending] at hstep
      exact absurd hstep hpre
    | some pending =>
      rw [Program.step_go _ hpending] at hstep
      obtain ⟨revocation, rfl, rfl⟩ :=
        (EgressLedger.writes_next sys.store pending).claims hpre hstep
      exact hsound.calls connection _ hpending

/-! ## A call among the writers -/

/-- A call of `require_active` in a run of the writers : their steps before it begins, from there
to its read of the row, and from there to its look for an unfinished revocation. -/
structure EgressRead where
  before : List (Step EgressCall)
  during : List (Step EgressCall)
  between : List (Step EgressCall)
  files : GrantFiles
  grantId : Digest
  admission : EgressAdmission
  now : Time

namespace EgressRead

variable (x : EgressRead)

/-- The ledger at the beginning of the call, at the read of the row, and at the look for an
unfinished revocation. -/
def atBegin : EgressLedger :=
  ledgerAfter x.before

def atRow : EgressLedger :=
  ledgerAfter (x.before ++ x.during)

def atPending : EgressLedger :=
  ledgerAfter (x.before ++ x.during ++ x.between)

def result : Except EgressError AgentProviderEgressGrant :=
  requireActive x.atRow x.atPending x.files x.grantId x.admission x.now

/-- What the call returns is in its window and for the admission; no revocation of it was claimed
when the call began, and at some moment of the call it was issued and no revocation of it was
claimed. -/
def Current : Prop :=
  ∀ grant, x.result = .ok grant →
    (grant.issuedAt ≤ x.now ∧ x.now < grant.expiresAt ∧ grant.isFor x.admission = true) ∧
      ¬x.atBegin.Claimed x.grantId ∧
      ∃ pre post, x.during ++ x.between = pre ++ post ∧
        (ledgerAfter (x.before ++ pre)).Issued x.grantId ∧
        ¬(ledgerAfter (x.before ++ pre)).Claimed x.grantId

/-- A revocation that was claimed before the call began is completed after its read of the row,
and before its look for an unfinished revocation. -/
def Overtaken : Prop :=
  x.atBegin.Claimed x.grantId ∧ x.atRow.Active x.grantId ∧ x.atPending.Revoked x.grantId

end EgressRead

/-- A call is current exactly when no revocation overtakes it, or the grant is of no use for it. -/
theorem egress_current_iff
    (hinj : Function.Injective fun revocation : AgentProviderEgressRevocation =>
      revocation.revocationId) (x : EgressRead) :
    x.Current ↔ ¬(x.Overtaken ∧ ∃ grant, Usable x.files x.grantId x.admission x.now grant) := by
  have hrow : x.atRow.Sound := (sound_after hinj _).store
  have hpending : x.atPending.Sound := (sound_after hinj _).store
  constructor
  · rintro h ⟨⟨hclaimed, hactive, hrevoked⟩, grant, husable⟩
    have hlater : x.atPending.Claimed x.grantId := by
      rw [EgressRead.atPending, List.append_assoc]
      exact claimed_after _ hclaimed
    have hresult : x.result = .ok grant := requireActive_eq_ok.mpr
      ⟨hrow.isRevocable_iff.mpr hactive, (hpending.pending_iff hlater).mpr hrevoked, husable⟩
    exact (h grant hresult).2.1 hclaimed
  · intro h grant hresult
    obtain ⟨hactive, hnone, husable⟩ := requireActive_eq_ok.mp hresult
    rw [hrow.isRevocable_iff] at hactive
    have hbegin : ¬x.atBegin.Claimed x.grantId := by
      intro hclaimed
      have hlater : x.atPending.Claimed x.grantId := by
        rw [EgressRead.atPending, List.append_assoc]
        exact claimed_after _ hclaimed
      exact h ⟨⟨hclaimed, hactive, (hpending.pending_iff hlater).mp hnone⟩, grant, husable⟩
    obtain ⟨-, -, hissued, hexpires, hfor⟩ := husable
    refine ⟨⟨hissued, hexpires, hfor⟩, hbegin, ?_⟩
    by_cases hclaimed : x.atRow.Claimed x.grantId
    · obtain ⟨pre, post, hsplit, hwas, hnot⟩ := issued_before_claimed hinj hbegin hclaimed
      exact ⟨pre, post ++ x.between, by rw [hsplit, List.append_assoc], hwas, hnot⟩
    · obtain ⟨row, hmem, hid, hstate, -⟩ := hactive
      exact ⟨x.during, x.between, rfl, ⟨row, hmem, hid, hstate⟩, hclaimed⟩

/-- A call that begins after a revocation is completed never returns the grant, whatever is
written in between : the grant cannot be issued again. -/
theorem revocation_final
    (hinj : Function.Injective fun revocation : AgentProviderEgressRevocation =>
      revocation.revocationId) (x : EgressRead) (h : x.atBegin.Revoked x.grantId) :
    ∀ grant, x.result ≠ .ok grant := by
  intro grant hresult
  have hrow : x.atRow.Revoked x.grantId :=
    kept_after (P := fun ledger => ledger.Revoked x.grantId) EgressLedger.Writes.revoked x.during h
  have hsound : x.atRow.Sound := (sound_after hinj _).store
  obtain ⟨row, hmem, hid, hstatus⟩ := hrow
  obtain ⟨row', hmem', hid', -, hactive⟩ :=
    hsound.isRevocable_iff.mp (requireActive_eq_ok.mp hresult).1
  rw [Table.eq_of_key hsound.grants hmem hmem' (hid.trans hid'.symm), hactive] at hstatus
  cases hstatus

end

/-! ## A revocation completed between the two reads -/

section

/-- Grants are told apart by their keys. -/
@[reducible] def keyedGrants : CanonicalDigest AgentProviderEgressGrant :=
  ⟨fun grant => grant.idempotencyKey⟩

instance : TextCodec AgentProviderEgressRevocation :=
  TextCodec.record
    (fun r => (r.grantId, r.issuerPolicyId, r.issuerId, r.reasonDigest, r.revokedAt,
      r.idempotencyKey))
    (fun (grantId, issuerPolicyId, issuerId, reasonDigest, revokedAt, idempotencyKey) =>
      some ⟨grantId, issuerPolicyId, issuerId, reasonDigest, revokedAt, idempotencyKey⟩)
    fun _ => rfl

/-- Revocations are told apart by their texts. -/
@[reducible] def spelledRevocations : CanonicalDigest AgentProviderEgressRevocation :=
  ⟨TextCodec.text⟩

attribute [local instance] keyedGrants spelledRevocations

def sampleEgressAdmission : EgressAdmission :=
  ⟨"admission", "primary", .liveHttps, "credential", "adapter"⟩

def sampleEgressGrant : AgentProviderEgressGrant where
  admissionId := "admission"
  providerId := "primary"
  mode := .liveHttps
  credentialReferenceId := "credential"
  adapterDigest := "adapter"
  issuerPolicyId := "policy"
  issuerId := "operator"
  purpose := .modelInference
  issuedAt := 0
  expiresAt := 3600
  idempotencyKey := "egress-grant-1"
  networked := by decide
  lifetime := by decide +kernel
  purpose_mode := by decide

def sampleEgressRevocation : AgentProviderEgressRevocation :=
  ⟨"egress-grant-1", "policy", "operator", "reason", 100, "revoke-1"⟩

/-- The grant is issued and a revocation of it claimed; the call then reads the row of the grant,
and the revocation is completed before it looks for an unfinished one. -/
def overtakenRead : EgressRead where
  before := [
    .call 0 (.claimIssue sampleEgressGrant 0), .go 0,
    .call 0 (.completeIssue sampleEgressGrant 1), .go 0,
    .call 1 (.claimRevoke sampleEgressRevocation), .go 1, .go 1, .go 1]
  during := []
  between := [.call 1 (.completeRevoke sampleEgressRevocation 101), .go 1]
  files grantId := if grantId = "egress-grant-1" then some sampleEgressGrant else none
  grantId := "egress-grant-1"
  admission := sampleEgressAdmission
  now := 102

/-- The same read, with no step of the revocation after its claim. -/
def blockedRead : EgressRead :=
  { overtakenRead with between := [] }

theorem blockedRead_current :
    Function.Injective (fun revocation : AgentProviderEgressRevocation =>
      revocation.revocationId) ∧ blockedRead.Current :=
  have hinj : Function.Injective (fun revocation : AgentProviderEgressRevocation =>
      revocation.revocationId) := TextCodec.text_injective
  ⟨hinj, (egress_current_iff hinj blockedRead).mpr fun h => by
    exact absurd h.1.2.2 (by decide +kernel)⟩

/-- The read of a call that begins after the completion of the revocation. -/
def lateRead : EgressRead :=
  { blockedRead with before := overtakenRead.before ++ overtakenRead.between }

theorem lateRead_refused : Function.Injective (fun revocation : AgentProviderEgressRevocation =>
    revocation.revocationId) ∧ ∀ grant, lateRead.result ≠ .ok grant :=
  ⟨TextCodec.text_injective, revocation_final TextCodec.text_injective lateRead
    (by decide +kernel)⟩

/-- The call began after the claim of a revocation, and returns the grant. -/
theorem overtakenRead_not_current : ¬overtakenRead.Current := by
  intro h
  have hresult : overtakenRead.result = .ok sampleEgressGrant := by decide +kernel
  exact (h sampleEgressGrant hresult).2.1 (by decide +kernel)

end

end VulnLoom

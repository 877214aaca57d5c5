import VulnLoom.Basic
import VulnLoom.Connections
import VulnLoom.Table

/-!
# Provider egress grants

The ledger of egress grants : a grant is claimed and completed, and a revocation of it is claimed
and completed, each in a transaction of its own. A claim of a revocation reads the ledger twice
before it inserts. `require_active` reads the row of a grant, then looks for an unfinished
revocation of it, then reads the grant from its file; nothing holds the ledger still between the
two reads. Of an admission only what `require_active` compares is kept.
-/

set_option linter.unusedSectionVars false

namespace VulnLoom

open Connections

/-! ## Records -/

inductive AgentProviderTransportMode
  | admissionFake
  | loopbackHttpsProbe
  | liveHttps
  deriving DecidableEq

inductive AgentProviderEgressPurpose
  | modelInference
  | loopbackAdmissionProbe
  deriving DecidableEq

inductive AgentProviderEgressStatus
  | active
  | revoked
  | expired
  deriving DecidableEq

/-- What an egress grant is checked against. -/
structure EgressAdmission where
  admissionId : Digest
  providerId : String
  mode : AgentProviderTransportMode
  credentialReferenceId : Digest
  adapterDigest : Digest

@[ext]
structure AgentProviderEgressGrant where
  admissionId : Digest
  providerId : String
  mode : AgentProviderTransportMode
  credentialReferenceId : Digest
  adapterDigest : Digest
  issuerPolicyId : Digest
  issuerId : String
  purpose : AgentProviderEgressPurpose
  issuedAt : Time
  expiresAt : Time
  idempotencyKey : String
  networked : mode ≠ .admissionFake
  lifetime : issuedAt < expiresAt
  purpose_mode : mode = .loopbackHttpsProbe ↔ purpose = .loopbackAdmissionProbe

instance : DecidableEq AgentProviderEgressGrant :=
  fun _ _ => decidable_of_iff _ AgentProviderEgressGrant.ext_iff.symm

structure AgentProviderEgressRevocation where
  grantId : Digest
  issuerPolicyId : Digest
  issuerId : String
  reasonDigest : Digest
  revokedAt : Time
  idempotencyKey : String

/-- An exception of the egress store. -/
inductive EgressError
  | rejected (reason : String)
  | conflict (reason : String)
  | recoveryRequired (reason : String)
  /-- an `IntegrityError` of the database -/
  | integrityError
  deriving DecidableEq

/-! ## The ledger -/

inductive EgressState
  | started
  | completed
  deriving DecidableEq

/-- The `status` column of an issuance. -/
inductive IssuanceStatus
  | active
  | revoked
  deriving DecidableEq

/-- A row of `provider_egress_issuances`. -/
structure IssuanceRow where
  grantId : Digest
  admissionId : Digest
  idempotencyKey : String
  state : EgressState
  status : IssuanceStatus
  startedAt : Time
  completedAt : Option Time

/-- A row of `provider_egress_revocations`. -/
structure RevocationRow where
  revocationId : Digest
  grantId : Digest
  idempotencyKey : String
  state : EgressState
  startedAt : Time
  completedAt : Option Time

structure EgressLedger where
  issuances : List IssuanceRow
  revocations : List RevocationRow

def EgressLedger.empty : EgressLedger :=
  ⟨[], []⟩

def issuanceClash (a b : IssuanceRow) : Bool :=
  a.grantId = b.grantId ∨ a.idempotencyKey = b.idempotencyKey

def revocationClash (a b : RevocationRow) : Bool :=
  a.revocationId = b.revocationId ∨ a.grantId = b.grantId ∨ a.idempotencyKey = b.idempotencyKey

variable [CanonicalDigest AgentProviderEgressGrant] [CanonicalDigest AgentProviderEgressRevocation]

def AgentProviderEgressGrant.grantId (grant : AgentProviderEgressGrant) : Digest :=
  canonicalDigest grant

def AgentProviderEgressRevocation.revocationId (revocation : AgentProviderEgressRevocation) :
    Digest :=
  canonicalDigest revocation

/-- The row that `claim_issue` inserts. -/
def AgentProviderEgressGrant.row (grant : AgentProviderEgressGrant) (now : Time) :
    IssuanceRow where
  grantId := grant.grantId
  admissionId := grant.admissionId
  idempotencyKey := grant.idempotencyKey
  state := .started
  status := .active
  startedAt := now
  completedAt := none

/-- The row that `claim_revoke` inserts. -/
def AgentProviderEgressRevocation.row (revocation : AgentProviderEgressRevocation) :
    RevocationRow where
  revocationId := revocation.revocationId
  grantId := revocation.grantId
  idempotencyKey := revocation.idempotencyKey
  state := .started
  startedAt := revocation.revokedAt
  completedAt := none

namespace EgressLedger

variable (ledger : EgressLedger)

/-- The answer of `claim_issue` where its insert was refused. -/
def existingIssue (grant : AgentProviderEgressGrant) : Except EgressError Bool :=
  match ledger.issuances.find? (issuanceClash (grant.row 0)) with
  | none => .error .integrityError
  | some row => do
    raiseIf (row.grantId ≠ grant.grantId)
      (.conflict "provider egress issuance idempotency key was reused")
    raiseIf (row.state = .started)
      (.recoveryRequired "provider egress issuance has an unfinished STARTED checkpoint")
    return false

/-- The started issuance of a grant. -/
def awaitsIssue (grantId : Digest) (row : IssuanceRow) : Bool :=
  row.grantId = grantId ∧ row.state = .started

/-- `complete_issue`. -/
def completeIssue (grant : AgentProviderEgressGrant) (now : Time) :
    Except EgressError EgressLedger := do
  raiseIf (Table.rowcount (awaitsIssue grant.grantId) ledger.issuances ≠ 1)
    (.recoveryRequired "provider egress issuance STARTED checkpoint is unavailable")
  return { ledger with
    issuances := Table.update (awaitsIssue grant.grantId)
      (fun row => { row with state := .completed, completedAt := some now }) ledger.issuances }

/-- A revocation that shares an identifier, a grant or a key with the given one. -/
def existingRevocation (revocation : AgentProviderEgressRevocation) : Option RevocationRow :=
  ledger.revocations.find? (revocationClash revocation.row)

/-- The answer of `claim_revoke` where it finds such a revocation. -/
def answerRevocation (revocation : AgentProviderEgressRevocation) (row : RevocationRow) :
    Except EgressError Bool := do
  raiseIf (row.revocationId ≠ revocation.revocationId)
    (.conflict "provider egress revocation conflicts with existing content")
  raiseIf (row.state = .started)
    (.recoveryRequired "provider egress revocation has an unfinished STARTED checkpoint")
  return false

def issuance (grantId : Digest) : Option IssuanceRow :=
  ledger.issuances.find? fun row => row.grantId = grantId

/-- A grant that may be revoked : its issuance is completed and active. -/
def isRevocable (grantId : Digest) : Bool :=
  ∃ row ∈ ledger.issuance grantId, row.state = .completed ∧ row.status = .active

/-- The started revocation. -/
def awaitsRevocation (revocationId : Digest) (row : RevocationRow) : Bool :=
  row.revocationId = revocationId ∧ row.state = .started

/-- The issuance that a revocation still has to reach. -/
def awaitsRevoke (grantId : Digest) (row : IssuanceRow) : Bool :=
  row.grantId = grantId ∧ row.state = .completed ∧ row.status = .active

/-- `complete_revoke`. -/
def completeRevoke (revocation : AgentProviderEgressRevocation) (now : Time) :
    Except EgressError EgressLedger := do
  raiseIf (Table.rowcount (awaitsRevocation revocation.revocationId) ledger.revocations ≠ 1 ∨
      Table.rowcount (awaitsRevoke revocation.grantId) ledger.issuances ≠ 1)
    (.recoveryRequired "provider egress revocation checkpoint is unavailable")
  return {
    issuances := Table.update (awaitsRevoke revocation.grantId)
      (fun row => { row with status := .revoked }) ledger.issuances
    revocations := Table.update (awaitsRevocation revocation.revocationId)
      (fun row => { row with state := .completed, completedAt := some now })
      ledger.revocations }

end EgressLedger

/-! ## The writers -/

inductive EgressCall
  | claimIssue (grant : AgentProviderEgressGrant) (now : Time)
  | completeIssue (grant : AgentProviderEgressGrant) (now : Time)
  | claimRevoke (revocation : AgentProviderEgressRevocation)
  | completeRevoke (revocation : AgentProviderEgressRevocation) (now : Time)

/-- A call between two of its steps. -/
inductive PendingEgress
  | insertIssue (grant : AgentProviderEgressGrant) (now : Time)
  | rereadIssue (grant : AgentProviderEgressGrant)
  | completeIssue (grant : AgentProviderEgressGrant) (now : Time)
  | readRevocation (revocation : AgentProviderEgressRevocation)
  | readIssuance (revocation : AgentProviderEgressRevocation)
  | insertRevocation (revocation : AgentProviderEgressRevocation)
  | rereadRevocation (revocation : AgentProviderEgressRevocation)
  | completeRevoke (revocation : AgentProviderEgressRevocation) (now : Time)

def EgressCall.begins : EgressCall → PendingEgress
  | claimIssue grant now => .insertIssue grant now
  | completeIssue grant now => .completeIssue grant now
  | claimRevoke revocation => .readRevocation revocation
  | completeRevoke revocation now => .completeRevoke revocation now

/-- The steps of the calls; what a call returns is whether it made a claim. -/
def egressWriters :
    Program EgressLedger EgressCall PendingEgress (Except EgressError Bool) where
  begins := EgressCall.begins
  next ledger
    | .insertIssue grant now =>
      match Table.insert issuanceClash ledger.issuances (grant.row now) with
      | some issuances => ({ ledger with issuances := issuances }, .inr (.ok true))
      | none => (ledger, .inl (.rereadIssue grant))
    | .rereadIssue grant => (ledger, .inr (ledger.existingIssue grant))
    | .completeIssue grant now =>
      match ledger.completeIssue grant now with
      | .ok completed => (completed, .inr (.ok false))
      | .error e => (ledger, .inr (.error e))
    | .readRevocation revocation =>
      match ledger.existingRevocation revocation with
      | some row => (ledger, .inr (EgressLedger.answerRevocation revocation row))
      | none => (ledger, .inl (.readIssuance revocation))
    | .readIssuance revocation =>
      if ledger.isRevocable revocation.grantId then
        (ledger, .inl (.insertRevocation revocation))
      else (ledger, .inr (.error (.rejected "provider egress grant is not active")))
    | .insertRevocation revocation =>
      match Table.insert revocationClash ledger.revocations revocation.row with
      | some revocations => ({ ledger with revocations := revocations }, .inr (.ok true))
      | none => (ledger, .inl (.rereadRevocation revocation))
    | .rereadRevocation revocation =>
      match ledger.existingRevocation revocation with
      | some row => (ledger, .inr (EgressLedger.answerRevocation revocation row))
      | none => (ledger, .inr (.error .integrityError))
    | .completeRevoke revocation now =>
      match ledger.completeRevoke revocation now with
      | .ok completed => (completed, .inr (.ok false))
      | .error e => (ledger, .inr (.error e))

/-! ## The reader -/

/-- The grant in the file of an identifier. -/
abbrev GrantFiles := Digest → Option AgentProviderEgressGrant

/-- `read_grant`. -/
def readGrant (files : GrantFiles) (grantId : Digest) :
    Except EgressError AgentProviderEgressGrant := do
  let grant ← orRaise (files grantId) (.rejected "provider egress grant is invalid")
  raiseIf (grant.grantId ≠ grantId) (.rejected "provider egress grant identity mismatch")
  return grant

/-- A revocation of the grant is claimed and not completed. -/
def EgressLedger.pendingRevocation (ledger : EgressLedger) (grantId : Digest) : Bool :=
  ledger.revocations.any fun row => row.grantId = grantId ∧ row.state = .started

/-- `status_at` : the first ledger is what the read of the row sees, the second what the look for
an unfinished revocation sees. -/
def statusAt (atRow atPending : EgressLedger) (files : GrantFiles) (grantId : Digest) (now : Time) :
    Except EgressError (AgentProviderEgressStatus × AgentProviderEgressGrant) := do
  let row ← orRaise (atRow.issuance grantId) (.rejected "provider egress grant is not issued")
  raiseIf (row.state ≠ .completed) (.rejected "provider egress grant is not issued")
  raiseIf (atPending.pendingRevocation grantId)
    (.recoveryRequired "provider egress revocation has an unfinished STARTED checkpoint")
  let grant ← readGrant files grantId
  if row.status = .revoked then return (.revoked, grant)
  if now < grant.issuedAt ∨ grant.expiresAt ≤ now then return (.expired, grant)
  return (.active, grant)

/-- A grant is for an admission. -/
def AgentProviderEgressGrant.isFor (grant : AgentProviderEgressGrant)
    (admission : EgressAdmission) : Bool :=
  grant.admissionId = admission.admissionId ∧ grant.providerId = admission.providerId ∧
    grant.mode = admission.mode ∧
    grant.credentialReferenceId = admission.credentialReferenceId ∧
    grant.adapterDigest = admission.adapterDigest

/-- `require_active`. -/
def requireActive (atRow atPending : EgressLedger) (files : GrantFiles) (grantId : Digest)
    (admission : EgressAdmission) (now : Time) : Except EgressError AgentProviderEgressGrant := do
  let (status, grant) ← statusAt atRow atPending files grantId now
  raiseIf (status = .revoked) (.rejected "provider egress grant is revoked")
  raiseIf (status = .expired) (.rejected "provider egress grant is expired")
  raiseIf (grant.isFor admission = false) (.rejected "provider egress grant binding mismatch")
  return grant

/-! ## What it returns -/

/-- The grant in the file stands at a time, for an admission. -/
def Usable (files : GrantFiles) (grantId : Digest) (admission : EgressAdmission) (now : Time)
    (grant : AgentProviderEgressGrant) : Prop :=
  files grantId = some grant ∧ grant.grantId = grantId ∧ grant.issuedAt ≤ now ∧
    now < grant.expiresAt ∧ grant.isFor admission = true

/-- `require_active` returns the usable grant whose row was completed and active at the first
read, where no revocation of it was unfinished at the second. -/
theorem requireActive_eq_ok {atRow atPending : EgressLedger} {files : GrantFiles}
    {grantId : Digest} {admission : EgressAdmission} {now : Time}
    {grant : AgentProviderEgressGrant} :
    requireActive atRow atPending files grantId admission now = .ok grant ↔
      atRow.isRevocable grantId = true ∧ atPending.pendingRevocation grantId = false ∧
        Usable files grantId admission now grant := by
  constructor
  · intro h
    simp only [requireActive, bind_eq_ok, raiseIf_eq_ok, pure_eq_ok] at h
    obtain ⟨⟨status, grant'⟩, hstatus, -, hrevoked, -, hexpired, -, hfor, rfl⟩ := h
    simp only [statusAt, bind_eq_ok, raiseIf_eq_ok, orRaise_eq_ok, not_not] at hstatus
    obtain ⟨row, hrow, -, hcompleted, -, hpending, grant, hgrant, hstatus⟩ := hstatus
    simp only [readGrant, bind_eq_ok, raiseIf_eq_ok, orRaise_eq_ok, not_not, pure_eq_ok] at hgrant
    obtain ⟨grant'', hfile, -, hid, rfl⟩ := hgrant
    split_ifs at hstatus with hstat htime
    · cases hstatus
      exact absurd rfl hrevoked
    · cases hstatus
      exact absurd rfl hexpired
    · cases hstatus
      push Not at htime
      have hactive : row.status = .active := by
        cases hs : row.status with
        | active => rfl
        | revoked => exact absurd hs hstat
      refine ⟨?_, by simpa using hpending, hfile, hid, htime.1, htime.2, by simpa using hfor⟩
      simp [EgressLedger.isRevocable, hrow, hcompleted, hactive]
  · rintro ⟨hrevocable, hpending, hfile, hid, hissued, hexpires, hfor⟩
    simp only [EgressLedger.isRevocable, decide_eq_true_eq, Option.mem_def] at hrevocable
    obtain ⟨row, hrow, hcompleted, hactive⟩ := hrevocable
    have htime : ¬(now < grant.issuedAt ∨ grant.expiresAt ≤ now) :=
      not_or.mpr ⟨not_lt.mpr hissued, not_le.mpr hexpires⟩
    simp [requireActive, statusAt, readGrant, hrow, hcompleted, hpending, hfile, hid, hactive,
      htime, hfor, orRaise, raiseIf, pure, Except.pure]

end VulnLoom

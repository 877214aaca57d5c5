import VulnLoom.Basic
import VulnLoom.HashChain
import VulnLoom.Table

/-!
# The authoritative audit chain

`AuthoritativeAuditStore` : one table of rows, one row of the table for each record, and
one table of heads. A row holds its record as JSON next to columns copied from it;
`AuditRecordJson` is pydantic's `model_dump_json` and `model_validate_json`. The fixed
contract digest is not a field of a record, and a record's digest is a function of it, as
its validator demands.

`verifyLocked` reads the rows of a stream in the order of their sequence column, checks
each against its columns and its predecessor, and the last against the head. The database
may have been rewritten, so nothing is assumed of its rows.
-/

namespace VulnLoom

/-! ## Contracts -/

inductive AuditOutcome
  | committed
  | rejected
  | timedOut
  | cleanupFailed
  deriving DecidableEq

inductive AuditVerificationStatus
  | verified
  | corruptionDetected
  | rollbackDetected
  | forkDetected
  deriving DecidableEq

/-- The exceptions of the audit store, with their messages. -/
inductive AuditError
  /-- `AuditIntegrityError` -/
  | integrity (message : String)
  /-- `AuditAppendExpired` -/
  | appendExpired (message : String)
  /-- `AuditIdempotencyConflict` -/
  | idempotencyConflict (message : String)
  /-- pydantic's `ValidationError` -/
  | validation (message : String)
  /-- `sqlite3.IntegrityError` -/
  | sqliteIntegrity
  deriving DecidableEq

/-- The pattern `^[a-z][a-z0-9_.-]{0,127}$`. -/
def isEventType (s : String) : Bool :=
  match s.toList with
  | [] => false
  | c :: cs => c.isLower && cs.length ≤ 127 &&
      cs.all fun c => c.isLower || c.isDigit || c = '_' || c = '.' || c = '-'

@[ext]
structure AuditStateBindings where
  engagementId : UUID
  scopeId : UUID
  scopeVersion : ℕ
  policyDigest : Digest
  sandboxProfileDigest : Digest
  contextDigest : Digest
  toolRegistryDigest : Digest
  providerRevisionDigest : Digest
  inputDigests : List Digest
  scopeVersion_pos : 1 ≤ scopeVersion
  inputDigests_bounds : 1 ≤ inputDigests.length ∧ inputDigests.length ≤ 64
  inputDigests_sorted : inputDigests.Pairwise (· < ·)

instance : DecidableEq AuditStateBindings :=
  fun _ _ => decidable_of_iff _ AuditStateBindings.ext_iff.symm

structure AuditAppendPlan where
  streamId : Digest
  eventType : String
  aggregateId : Digest
  transitionDigest : Digest
  bindings : AuditStateBindings
  outcome : AuditOutcome
  cleanupVerified : Bool
  occurredAt : Time
  deadline : Time
  idempotencyDigest : Digest
  eventType_ok : isEventType eventType = true
  deadline_bounds : occurredAt < deadline ∧ deadline ≤ occurredAt + 300000000

structure AuditRecord where
  streamId : Digest
  sequence : ℕ
  previousDigest : Digest
  planId : Digest
  eventType : String
  aggregateId : Digest
  transitionDigest : Digest
  bindings : AuditStateBindings
  outcome : AuditOutcome
  cleanupVerified : Bool
  occurredAt : Time
  sealedAt : Time
  sequence_pos : 1 ≤ sequence
  eventType_ok : isEventType eventType = true
  sealed_after : occurredAt ≤ sealedAt

section Genesis

variable [CanonicalDigest (List (String × String))]

/-- `AUDIT_CHAIN_CONTRACT_DIGEST`. -/
def auditChainContractDigest : Digest :=
  canonicalDigest [("contract", "vulnloom-authoritative-audit-chain-s1.4-v1"),
    ("hash", "sha256-canonical-json"), ("recovery", "fail-closed-restore-verified-copy"),
    ("projection", "digest-only")]

/-- `AUDIT_GENESIS_DIGEST`. -/
def auditGenesisDigest : Digest :=
  canonicalDigest [("contract", auditChainContractDigest), ("record", "genesis")]

structure AuditCheckpoint where
  streamId : Digest
  sequence : ℕ
  headDigest : Digest
  issuedAt : Time
  empty_genesis : sequence = 0 → headDigest = auditGenesisDigest

end Genesis

/-- The digests of the records of the chain. -/
class AuditDigests where
  mapping : CanonicalDigest (List (String × String))
  plan : CanonicalDigest AuditAppendPlan
  record : CanonicalDigest AuditRecord
  checkpoint : CanonicalDigest AuditCheckpoint

attribute [reducible, instance] AuditDigests.mapping AuditDigests.plan AuditDigests.record
  AuditDigests.checkpoint

/-- `AuditRecord.model_dump_json` and `AuditRecord.model_validate_json`; `none` is a
`ValidationError`. -/
class AuditRecordJson where
  modelDumpJson : AuditRecord → String
  modelValidateJson : String → Option AuditRecord

variable [AuditDigests] [AuditRecordJson]

def AuditAppendPlan.planId (plan : AuditAppendPlan) : Digest :=
  canonicalDigest plan

def AuditRecord.recordDigest (record : AuditRecord) : Digest :=
  canonicalDigest record

def AuditCheckpoint.checkpointId (checkpoint : AuditCheckpoint) : Digest :=
  canonicalDigest checkpoint

structure AuditVerificationResult where
  streamId : Digest
  status : AuditVerificationStatus
  recordCount : ℕ
  headDigest : Digest
  trustedCheckpointId : Option Digest
  failureCode : Option String
  checkedAt : Time

/-! ## The database -/

/-- A row of `authoritative_audit_records`. -/
structure AuditRow where
  streamId : Digest
  sequence : ℤ
  recordDigest : Digest
  previousDigest : Digest
  planId : Digest
  idempotencyDigest : Digest
  recordJson : String

/-- A row of `authoritative_audit_heads`. -/
structure AuditHead where
  streamId : Digest
  sequence : ℤ
  headDigest : Digest

structure AuditDatabase where
  records : List AuditRow
  heads : List AuditHead

/-- The limits an `AuthoritativeAuditStore` is opened with. -/
structure AuditLimits where
  maxRecordsPerStream : ℕ
  maxRecordBytes : ℕ
  positive : 1 ≤ maxRecordsPerStream ∧ 1 ≤ maxRecordBytes

/-- The keys of `authoritative_audit_records`. -/
def auditRowClash (a b : AuditRow) : Bool :=
  a.recordDigest = b.recordDigest ∨
    a.streamId = b.streamId ∧
      (a.sequence = b.sequence ∨ a.idempotencyDigest = b.idempotencyDigest)

namespace AuditDatabase

def empty : AuditDatabase :=
  ⟨[], []⟩

def streamRows (db : AuditDatabase) (streamId : Digest) : List AuditRow :=
  db.records.filter fun row => row.streamId = streamId

/-- The rows of a stream, `ORDER BY sequence`. -/
def orderedRows (db : AuditDatabase) (streamId : Digest) : List AuditRow :=
  Table.orderBy AuditRow.sequence (db.streamRows streamId)

def headRow (db : AuditDatabase) (streamId : Digest) : Option AuditHead :=
  db.heads.find? fun head => head.streamId = streamId

end AuditDatabase

/-! ## Verification -/

/-- A record against its row, its place in the stream and its predecessor. -/
def bindsRow (streamId : Digest) (expectedSequence : ℕ) (expectedPrevious : Digest)
    (row : AuditRow) (record : AuditRecord) : Bool :=
  record.streamId = streamId ∧ record.sequence = expectedSequence ∧
    record.recordDigest = row.recordDigest ∧ record.previousDigest = row.previousDigest ∧
    record.planId = row.planId ∧ record.previousDigest = expectedPrevious

/-- The records read before the first row that does not verify, and whether there is none. -/
def scanRows (streamId : Digest) : ℕ → Digest → List AuditRow → List AuditRecord × Bool
  | _, _, [] => ([], true)
  | expectedSequence, expectedPrevious, row :: rows =>
    match AuditRecordJson.modelValidateJson row.recordJson with
    | none => ([], false)
    | some record =>
      if bindsRow streamId expectedSequence expectedPrevious row record then
        let rest := scanRows streamId (expectedSequence + 1) record.recordDigest rows
        (record :: rest.1, rest.2)
      else ([], false)

/-- The digest of the last record, or the genesis digest. -/
def chainHead (records : List AuditRecord) : Digest :=
  match records.getLast? with
  | none => auditGenesisDigest
  | some record => record.recordDigest

def headBound (records : List AuditRecord) (head : Option AuditHead) : Bool :=
  match records.getLast?, head with
  | none, none => true
  | none, some _ => false
  | some _, none => false
  | some record, some head =>
    head.sequence = records.length ∧ head.headDigest = record.recordDigest

/-- The digest a trusted checkpoint anchors. -/
def anchoredDigest (records : List AuditRecord) (sequence : ℕ) : Digest :=
  if sequence = 0 then auditGenesisDigest
  else match records[sequence - 1]? with
    | none => auditGenesisDigest
    | some record => record.recordDigest

/-- What a trusted checkpoint finds wrong with a chain that is locally sound. -/
def checkpointFailure (streamId : Digest) (now : Time) (records : List AuditRecord)
    (checkpoint : AuditCheckpoint) : Option (AuditVerificationStatus × String) :=
  if now < checkpoint.issuedAt then some (.forkDetected, "checkpoint_from_future")
  else if checkpoint.streamId ≠ streamId then
    some (.forkDetected, "checkpoint_stream_mismatch")
  else if records.length < checkpoint.sequence then
    some (.rollbackDetected, "checkpoint_ahead_of_chain")
  else if anchoredDigest records checkpoint.sequence ≠ checkpoint.headDigest then
    some (.forkDetected, "checkpoint_head_mismatch")
  else none

namespace AuditDatabase

/-- The largest record of a stream, in bytes. -/
def maxRecordBytes (db : AuditDatabase) (streamId : Digest) : ℕ :=
  (db.streamRows streamId).foldr (fun row n => max row.recordJson.utf8ByteSize n) 0

/-- The stream holds more or larger records than the store admits. -/
def exceedsLimits (db : AuditDatabase) (limits : AuditLimits) (streamId : Digest) : Bool :=
  limits.maxRecordsPerStream < (db.streamRows streamId).length ∨
    limits.maxRecordBytes < db.maxRecordBytes streamId

/-- `_verify_locked`. -/
def verifyLocked (db : AuditDatabase) (limits : AuditLimits) (streamId : Digest) (now : Time)
    (trusted : Option AuditCheckpoint) : AuditVerificationResult :=
  if db.exceedsLimits limits streamId then
    { streamId := streamId
      status := .corruptionDetected
      recordCount := (db.streamRows streamId).length
      headDigest := auditGenesisDigest
      trustedCheckpointId := trusted.map AuditCheckpoint.checkpointId
      failureCode := some "local_chain_limits_exceeded"
      checkedAt := now }
  else
    let scan := scanRows streamId 1 auditGenesisDigest (db.orderedRows streamId)
    let failure :=
      if scan.2 && headBound scan.1 (db.headRow streamId) then
        trusted.bind (checkpointFailure streamId now scan.1)
      else some (.corruptionDetected, "local_chain_corrupt")
    { streamId := streamId
      status := (failure.map Prod.fst).getD .verified
      recordCount := scan.1.length
      headDigest := chainHead scan.1
      trustedCheckpointId := trusted.map AuditCheckpoint.checkpointId
      failureCode := failure.map Prod.snd
      checkedAt := now }

/-- `checkpoint`. -/
def checkpoint (db : AuditDatabase) (limits : AuditLimits) (streamId : Digest) (now : Time) :
    Except AuditError AuditCheckpoint := do
  let verification := db.verifyLocked limits streamId now none
  raiseIf (verification.status ≠ .verified)
    (.integrity ("audit checkpoint refused: " ++ verification.failureCode.getD "None"))
  if h : verification.recordCount = 0 → verification.headDigest = auditGenesisDigest then
    return ⟨streamId, verification.recordCount, verification.headDigest, now, h⟩
  else throw (.validation "empty audit checkpoint must bind the genesis digest")

/-! ## Appending -/

/-- The row that holds a plan's idempotency key. -/
def idempotencyRow (db : AuditDatabase) (plan : AuditAppendPlan) : Option AuditRow :=
  db.records.find? fun row =>
    row.streamId = plan.streamId ∧ row.idempotencyDigest = plan.idempotencyDigest

/-- A stored record that repeats a plan. -/
def repeatsPlan (record : AuditRecord) (plan : AuditAppendPlan) : Bool :=
  record.streamId = plan.streamId ∧ record.eventType = plan.eventType ∧
    record.aggregateId = plan.aggregateId ∧ record.transitionDigest = plan.transitionDigest ∧
    record.bindings = plan.bindings ∧ record.outcome = plan.outcome ∧
    record.cleanupVerified = plan.cleanupVerified ∧ record.occurredAt = plan.occurredAt

/-- The record that seals a plan after `verification`. -/
def sealRecord (plan : AuditAppendPlan) (verification : AuditVerificationResult) (now : Time) :
    Except AuditError AuditRecord :=
  if h : plan.occurredAt ≤ now then
    .ok
      { streamId := plan.streamId
        sequence := verification.recordCount + 1
        previousDigest := verification.headDigest
        planId := plan.planId
        eventType := plan.eventType
        aggregateId := plan.aggregateId
        transitionDigest := plan.transitionDigest
        bindings := plan.bindings
        outcome := plan.outcome
        cleanupVerified := plan.cleanupVerified
        occurredAt := plan.occurredAt
        sealedAt := now
        sequence_pos := Nat.le_add_left 1 _
        eventType_ok := plan.eventType_ok
        sealed_after := h }
  else .error (.validation "audit record cannot be sealed before occurrence")

/-- The row of a record, as `append` inserts it. -/
def recordRow (record : AuditRecord) (idempotencyDigest : Digest) : AuditRow where
  streamId := record.streamId
  sequence := record.sequence
  recordDigest := record.recordDigest
  previousDigest := record.previousDigest
  planId := record.planId
  idempotencyDigest := idempotencyDigest
  recordJson := AuditRecordJson.modelDumpJson record

/-- `INSERT … ON CONFLICT(stream_id) DO UPDATE`. -/
def putHead (heads : List AuditHead) (head : AuditHead) : List AuditHead :=
  if heads.any fun h => h.streamId = head.streamId then
    Table.update (fun h => h.streamId = head.streamId) (fun _ => head) heads
  else heads ++ [head]

/-- A stream stays within one engagement. -/
def requireEngagement (db : AuditDatabase) (plan : AuditAppendPlan) (recordCount : ℕ) :
    Except AuditError Unit := do
  if recordCount = 0 then return ()
  let previousRow ← orRaise
    (db.records.find? fun row => row.streamId = plan.streamId ∧ row.sequence = (recordCount : ℤ))
    (.integrity "audit predecessor became unavailable")
  let previousRecord ← orRaise (AuditRecordJson.modelValidateJson previousRow.recordJson)
    (.validation "AuditRecord")
  raiseIf (previousRecord.bindings.engagementId ≠ plan.bindings.engagementId)
    (.integrity "audit stream cannot cross Engagement boundaries")

/-- `_append_locked`. -/
def append (db : AuditDatabase) (limits : AuditLimits) (plan : AuditAppendPlan) (now : Time)
    (trusted : Option AuditCheckpoint) : Except AuditError (AuditDatabase × AuditRecord) := do
  let verification := db.verifyLocked limits plan.streamId now trusted
  raiseIf (verification.status ≠ .verified)
    (.integrity ("audit chain refused append: " ++ verification.failureCode.getD "None"))
  match db.idempotencyRow plan with
  | some existing =>
    let record ← orRaise (AuditRecordJson.modelValidateJson existing.recordJson)
      (.validation "AuditRecord")
    raiseIf (existing.planId ≠ plan.planId ∧ repeatsPlan record plan = false)
      (.idempotencyConflict "audit idempotency key was reused for different content")
    return (db, record)
  | none =>
    raiseIf (plan.deadline ≤ now)
      (.appendExpired "audit append deadline expired before mutation")
    requireEngagement db plan verification.recordCount
    let record ← sealRecord plan verification now
    let row := recordRow record plan.idempotencyDigest
    raiseIf (limits.maxRecordBytes < row.recordJson.utf8ByteSize)
      (.integrity "sealed audit record exceeds storage limit")
    let records ← orRaise (Table.insert auditRowClash db.records row) .sqliteIntegrity
    let heads := putHead db.heads ⟨record.streamId, record.sequence, record.recordDigest⟩
    return (⟨records, heads⟩, record)

end AuditDatabase

end VulnLoom

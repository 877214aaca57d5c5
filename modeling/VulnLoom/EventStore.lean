import VulnLoom.AuditAppend
import VulnLoom.Payloads

/-!
# The event store

`EventStore.append_authoritative` and `list_authoritative_for_engagement`. One transaction
inserts the event and its audit record. The key of an event is unique in the whole table, the
idempotency digest of a record in the stream of its engagement.

Rows of events are kept in the order of their sequence column, which counts the insertions.
-/

set_option linter.unusedSectionVars false

open Transition

namespace VulnLoom

/-! ## Events -/

/-- An event, with a payload of values before or after redaction. -/
structure Event (π : Type) where
  eventId : UUID
  engagementId : UUID
  eventType : String
  aggregateId : String
  payload : List (String × π)
  occurredAt : Time
  idempotencyKey : String
  eventType_ne : eventType ≠ ""
  aggregateId_ne : aggregateId ≠ ""
  idempotencyKey_ne : idempotencyKey ≠ ""

namespace Event

variable {π ρ : Type}

/-- `model_copy(update={"payload": …})`. -/
def withPayload (event : Event π) (payload : List (String × ρ)) : Event ρ :=
  { event with payload }

/-- What the canonical form of an event says of it. -/
def canonical (event : Event SafeValue) : Event SafeValue :=
  event.withPayload (SafeValue.canonicalMembers event.payload)

end Event

inductive EventError
  /-- `ValueError` -/
  | value (message : String)
  /-- `SensitiveDataRejected` -/
  | sensitiveData (message : String)
  /-- `IdempotencyConflict`, for a key -/
  | idempotencyConflict (idempotencyKey : String)
  /-- `AtomicAuditRecoveryRequired` -/
  | recoveryRequired (message : String)
  /-- an exception of the audit store -/
  | audit (error : AuditError)
  /-- pydantic's `ValidationError` -/
  | validation
  /-- a payload that `json.dumps` refuses -/
  | notSerializable
  /-- `sqlite3.IntegrityError` -/
  | sqliteIntegrity
  deriving DecidableEq

/-- `CONTROL_PLANE_AUDIT_EVENT_TYPE`. -/
def controlPlaneAuditEventType : String :=
  "control_plane.event_committed"

/-! ## Digests -/

structure EventIdempotency where
  engagementId : UUID
  idempotencyKey : String

structure EventAggregate where
  engagementId : UUID
  aggregateId : String

structure EventTransition where
  event : Event SafeValue
  idempotencyDigest : Digest

/-- The digests of the event store; a stream is named by the digest of its engagement. -/
class EventDigests where
  stream : CanonicalDigest UUID
  idempotency : CanonicalDigest EventIdempotency
  aggregate : CanonicalDigest EventAggregate
  transition : CanonicalDigest EventTransition

attribute [reducible, instance] EventDigests.idempotency EventDigests.aggregate
  EventDigests.transition

section

variable [EventDigests]

def controlPlaneAuditStreamId (engagementId : UUID) : Digest :=
  EventDigests.stream.canonicalDigest engagementId

namespace Event

variable {π : Type}

/-- `_event_idempotency_digest`. -/
def idempotencyDigest (event : Event π) : Digest :=
  canonicalDigest ({ engagementId := event.engagementId
                     idempotencyKey := event.idempotencyKey } : EventIdempotency)

def aggregateDigest (event : Event π) : Digest :=
  canonicalDigest ({ engagementId := event.engagementId
                     aggregateId := event.aggregateId } : EventAggregate)

/-- `_event_transition_digest`. -/
def transitionDigest (event : Event SafeValue) (idempotencyDigest : Digest) : Digest :=
  canonicalDigest ({ event := event.canonical, idempotencyDigest } : EventTransition)

end Event

end

/-! ## The database -/

/-- A row of `domain_events`. -/
structure EventRow where
  eventId : UUID
  engagementId : UUID
  eventType : String
  aggregateId : String
  payloadJson : JsonText
  occurredAt : Time
  idempotencyKey : String

structure EventDatabase where
  events : List EventRow
  audit : AuditDatabase

/-- The keys of `domain_events`. -/
def eventRowClash (a b : EventRow) : Bool :=
  a.eventId = b.eventId ∨ a.idempotencyKey = b.idempotencyKey

/-- `_from_row`; `none` is a `ValidationError`. -/
def EventRow.event (row : EventRow) : Option (Event SafeValue) :=
  match row.payloadJson with
  | .object members =>
    if h : row.eventType ≠ "" ∧ row.aggregateId ≠ "" ∧ row.idempotencyKey ≠ "" then
      some
        { eventId := row.eventId
          engagementId := row.engagementId
          eventType := row.eventType
          aggregateId := row.aggregateId
          payload := JsonText.loadsMembers members
          occurredAt := row.occurredAt
          idempotencyKey := row.idempotencyKey
          eventType_ne := h.1
          aggregateId_ne := h.2.1
          idempotencyKey_ne := h.2.2 }
    else none
  | _ => none

/-- The row of an event with the text of its payload, as the store inserts it. -/
def Event.row (event : Event SafeValue) (members : List (String × JsonText)) : EventRow where
  eventId := event.eventId
  engagementId := event.engagementId
  eventType := event.eventType
  aggregateId := event.aggregateId
  payloadJson := .object members
  occurredAt := event.occurredAt
  idempotencyKey := event.idempotencyKey

/-- The limits that an event store opens its audit store with. -/
def eventAuditLimits : AuditLimits where
  maxRecordsPerStream := 100000
  maxRecordBytes := 65536
  positive := by decide

namespace EventDatabase

def empty : EventDatabase :=
  ⟨[], .empty⟩

/-- The events of an engagement, `ORDER BY sequence`. -/
def eventRows (db : EventDatabase) (engagementId : UUID) : List EventRow :=
  db.events.filter fun row => row.engagementId = engagementId

/-- The row that holds an idempotency key. -/
def keyRow (db : EventDatabase) (idempotencyKey : String) : Option EventRow :=
  db.events.find? fun row => row.idempotencyKey = idempotencyKey

end EventDatabase

/-- `contains_idempotency`. -/
def AuditDatabase.containsIdempotency (db : AuditDatabase) (streamId idempotencyDigest : Digest) :
    Bool :=
  db.records.any fun row => row.streamId = streamId ∧ row.idempotencyDigest = idempotencyDigest

section

variable [EventDigests] [AuditDigests] [AuditRecordJson]

/-! ## Pairs of an event and its record -/

/-- A record that says of an event what the store sealed with it. -/
def AuditRecord.binds (record : AuditRecord) (engagementId : UUID) (event : Event SafeValue) :
    Bool :=
  record.eventType = controlPlaneAuditEventType ∧
    record.bindings.engagementId = engagementId ∧
    record.aggregateId = event.aggregateDigest ∧
    record.transitionDigest = event.transitionDigest event.idempotencyDigest

/-- The event has a record among those of its stream. -/
def Event.isRecorded (event : Event SafeValue) (engagementId : UUID)
    (records : List (Digest × AuditRecord)) : Bool :=
  match records.lookup event.idempotencyDigest with
  | none => false
  | some record => record.binds engagementId event

namespace EventDatabase

variable (db : EventDatabase)

def readEvents (engagementId : UUID) : Except EventError (List (Event SafeValue)) :=
  (db.eventRows engagementId).mapM fun row =>
    orRaise row.event (.recoveryRequired
      "authoritative event/audit pair cannot be decoded; restore a verified copy")

/-- The records of a stream, each under the idempotency digest of its row. No two rows of a
stream have one digest. -/
def readRecords (streamId : Digest) : Except EventError (List (Digest × AuditRecord)) :=
  (db.audit.orderedRows streamId).mapM fun row => do
    let record ← orRaise (AuditRecordJson.modelValidateJson row.recordJson) (.recoveryRequired
      "authoritative event/audit pair cannot be decoded; restore a verified copy")
    return (row.idempotencyDigest, record)

/-- `_assert_authoritative_pairs_locked`. -/
def assertAuthoritativePairs (engagementId : UUID) (streamId : Digest) :
    Except EventError (List (Event SafeValue)) := do
  let events ← db.readEvents engagementId
  let records ← db.readRecords streamId
  raiseIf (events.length ≠ records.length) (.recoveryRequired
    "authoritative event/audit pair count differs; restore a verified copy")
  raiseIf ((events.all fun event => event.isRecorded engagementId records) = false)
    (.recoveryRequired "authoritative event/audit binding differs; restore a verified copy")
  return events

end EventDatabase

/-- `_assert_idempotent`. -/
def assertIdempotent (existing requested : Event SafeValue) : Except EventError Unit :=
  raiseIf (existing.engagementId ≠ requested.engagementId ∨
      existing.eventType ≠ requested.eventType ∨ existing.aggregateId ≠ requested.aggregateId ∨
      SafeValue.equalMembers existing.payload requested.payload = false)
    (.idempotencyConflict requested.idempotencyKey)

theorem isEventType_controlPlane : isEventType controlPlaneAuditEventType = true := by
  decide

/-- `_audit_plan`. -/
def auditPlan (event : Event SafeValue) (bindings : AuditStateBindings) (deadline : Time) :
    Except EventError AuditAppendPlan :=
  if h : event.occurredAt < deadline ∧ deadline ≤ event.occurredAt + 300000000 then
    .ok
      { streamId := controlPlaneAuditStreamId event.engagementId
        eventType := controlPlaneAuditEventType
        aggregateId := event.aggregateDigest
        transitionDigest := event.transitionDigest event.idempotencyDigest
        bindings
        outcome := .committed
        cleanupVerified := true
        occurredAt := event.occurredAt
        deadline
        idempotencyDigest := event.idempotencyDigest
        eventType_ok := isEventType_controlPlane
        deadline_bounds := h }
  else .error (.audit (.validation
    (if event.occurredAt < deadline then "audit append deadline exceeds five minutes"
      else "audit append deadline must follow occurrence")))

/-! ## Appending and listing -/

structure AppendAuthoritative where
  event : Event PyValue
  bindings : AuditStateBindings
  trustedCheckpoint : AuditCheckpoint
  deadline : Time
  now : Time

/-- What an append returns; `appended` tells a new event from a repeated one. -/
structure Appended where
  event : Event SafeValue
  record : AuditRecord
  appended : Bool

namespace EventDatabase

/-- Verify a stream against a trusted checkpoint, or raise. -/
def requireVerified (db : EventDatabase) (streamId : Digest) (now : Time)
    (trusted : AuditCheckpoint) (refused : String) : Except EventError Unit :=
  let verification := db.audit.verifyLocked eventAuditLimits streamId now (some trusted)
  raiseIf (verification.status ≠ .verified)
    (.audit (.integrity (refused ++ verification.failureCode.getD "None")))

/-- What the transaction reads before it writes: the row of the event's key, if there is one. -/
def existingRow (db : EventDatabase) (call : AppendAuthoritative) (event : Event SafeValue) :
    Except EventError (Option EventRow) := do
  let streamId := controlPlaneAuditStreamId event.engagementId
  db.requireVerified streamId call.now call.trustedCheckpoint "authoritative event refused: "
  let _ ← db.assertAuthoritativePairs event.engagementId streamId
  let row := db.keyRow event.idempotencyKey
  raiseIf (row.isSome ≠ db.audit.containsIdempotency streamId event.idempotencyDigest)
    (.recoveryRequired
      "authoritative event/audit pair is incomplete; restore a verified copy")
  return row

/-- `append_in_transaction`. -/
def appendRecord (db : EventDatabase) (call : AppendAuthoritative) (plan : AuditAppendPlan) :
    Except EventError (AuditDatabase × AuditRecord) :=
  (db.audit.append eventAuditLimits plan call.now (some call.trustedCheckpoint)).mapError .audit

/-- The event of a row that a call repeats, and the plan that it repeats. -/
def repeated (call : AppendAuthoritative) (event : Event SafeValue) (row : EventRow) :
    Except EventError (Event SafeValue × AuditAppendPlan) := do
  let existing ← orRaise row.event .validation
  assertIdempotent existing event
  let plan ← auditPlan existing call.bindings
    (existing.occurredAt + (call.deadline - event.occurredAt))
  return (existing, plan)

/-- The plan of a new event, and its row. -/
def prepared (call : AppendAuthoritative) (event : Event SafeValue) :
    Except EventError (AuditAppendPlan × EventRow) := do
  let plan ← auditPlan event call.bindings call.deadline
  let members ← orRaise (SafeValue.dumpsMembers event.payload) .notSerializable
  return (plan, event.row members)

/-- The transaction of `append_authoritative`. -/
def appendLocked (call : AppendAuthoritative) (event : Event SafeValue) (db : EventDatabase) :
    EventDatabase × Except EventError Appended :=
  reading db (db.existingRow call event) fun
    | some row =>
      reading db (repeated call event row) fun (existing, plan) =>
      reading db (db.appendRecord call plan) fun (audit, record) =>
        ({ db with audit }, .ok ⟨existing, record, false⟩)
    | none =>
      reading db (prepared call event) fun (plan, row) =>
      reading db (orRaise (Table.insert eventRowClash db.events row) .sqliteIntegrity)
        fun events =>
          let db := { db with events }
          reading db (db.appendRecord call plan) fun (audit, record) =>
            ({ db with audit }, .ok ⟨event, record, true⟩)

variable [PythonAlnum] (redactor : Redactor)

/-- The event of a call as the store keeps it. -/
def safeEvent (call : AppendAuthoritative) : Except EventError (Event SafeValue) := do
  raiseIf (call.bindings.engagementId ≠ call.event.engagementId)
    (.value "audit bindings must match the event Engagement")
  let payload ← (redactor.members [] call.event.payload).mapError .sensitiveData
  return call.event.withPayload payload

/-- `append_authoritative`. -/
def appendAuthoritative (db : EventDatabase) (call : AppendAuthoritative) :
    EventDatabase × Except EventError Appended :=
  reading db (safeEvent redactor call) fun event =>
    transaction (appendLocked call event) db

/-- `list_authoritative_for_engagement`. -/
def listAuthoritative (db : EventDatabase) (engagementId : UUID) (trusted : AuditCheckpoint)
    (now : Time) : Except EventError (List (Event SafeValue)) := do
  let streamId := controlPlaneAuditStreamId engagementId
  db.requireVerified streamId now trusted "authoritative event query refused: "
  db.assertAuthoritativePairs engagementId streamId

end EventDatabase

end

end VulnLoom

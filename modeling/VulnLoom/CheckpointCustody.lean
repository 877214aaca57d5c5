import VulnLoom.Connections
import VulnLoom.EventAgreement

/-!
# Checkpoint custody

`FileAuditCheckpointStore` keeps one checkpoint for each stream outside the database, and
`CheckpointedEventStore` uses it: a call loads the checkpoint, reads or appends under it, and
advances it to the chain as it is then. Each of these is a transaction of its own, so clients
interleave between them, and one that dies leaves the rest undone.

A file holds the checkpoint that was written to it; its permissions, its size and the errors of
the file system are left out.
-/

open Transition Connections

namespace VulnLoom

variable [EventDigests] [AuditDigests] [AuditRecordJson]

/-! ## The files -/

/-- The checkpoint files, one for each stream. -/
abbrev CheckpointFiles := List AuditCheckpoint

namespace CheckpointFiles

variable (files : CheckpointFiles)

def load (streamId : Digest) : Option AuditCheckpoint :=
  files.find? fun checkpoint => checkpoint.streamId = streamId

/-- `_replace_locked`. -/
def replace (checkpoint : AuditCheckpoint) : CheckpointFiles :=
  Table.upsert AuditCheckpoint.streamId checkpoint files

/-- The store holds what the checkpoint says, issued then or at another time. -/
def sameTrust (stored checkpoint : AuditCheckpoint) : Bool :=
  stored.sequence = checkpoint.sequence ∧ stored.headDigest = checkpoint.headDigest

/-- `initialize`. -/
def initializeCheckpoint (checkpoint : AuditCheckpoint) :
    Except String (CheckpointFiles × AuditCheckpoint) := do
  raiseIf (checkpoint.sequence ≠ 0) "checkpoint custody can initialize only an empty stream"
  match load files checkpoint.streamId with
  | some existing =>
    raiseIf (sameTrust existing checkpoint = false)
      "checkpoint stream was initialized with different trust"
    return (files, existing)
  | none => return (replace files checkpoint, checkpoint)

/-- `advance`. -/
def advance (expected checkpoint : AuditCheckpoint) :
    Except String (CheckpointFiles × AuditCheckpoint) := do
  raiseIf (checkpoint.streamId ≠ expected.streamId) "checkpoint stream cannot change"
  let stored ← orRaise (load files checkpoint.streamId) "checkpoint trust is not initialized"
  if sameTrust stored checkpoint then return (files, stored)
  raiseIf (stored.checkpointId ≠ expected.checkpointId)
    "checkpoint compare-and-swap predecessor differs"
  raiseIf (checkpoint.sequence ≤ stored.sequence) "checkpoint cannot roll back or fork"
  raiseIf (checkpoint.issuedAt < stored.issuedAt) "checkpoint time cannot move backwards"
  return (replace files checkpoint, checkpoint)

end CheckpointFiles

/-! ## Calls -/

inductive CustodyOperation
  | append (event : Event PyValue) (bindings : AuditStateBindings) (deadline : Time)
  | list (engagementId : UUID)

def CustodyOperation.engagementId : CustodyOperation → UUID
  | append event _ _ => event.engagementId
  | list engagementId => engagementId

/-- A call with the reading of the clock that it is made with. -/
structure CustodyCall where
  operation : CustodyOperation
  now : Time

def CustodyCall.streamId (call : CustodyCall) : Digest :=
  controlPlaneAuditStreamId call.operation.engagementId

inductive CustodyResult
  | appended (appended : Appended)
  | listed (events : List (Event SafeValue))

inductive CustodyError
  /-- `AuditCheckpointCustodyError` -/
  | custody (message : String)
  | events (error : EventError)

abbrev CustodyAnswer := Except CustodyError CustodyResult

/-- The database with its committed events, and the checkpoint files. -/
structure CustodyStore where
  system : EventSystem
  checkpoints : CheckpointFiles

def CustodyStore.empty : CustodyStore :=
  ⟨.empty, []⟩

/-- What a call has left to do. -/
inductive CustodyFrame
  | load (call : CustodyCall)
  /-- no checkpoint was found -/
  | probe (call : CustodyCall)
  | genesis (call : CustodyCall)
  | initializing (call : CustodyCall) (genesis : AuditCheckpoint)
  | operate (call : CustodyCall) (trusted : AuditCheckpoint)
  | latest (call : CustodyCall) (trusted : AuditCheckpoint) (result : CustodyResult)
  | advance (call : CustodyCall) (trusted latest : AuditCheckpoint) (result : CustodyResult)

/-- `authoritative_state_is_empty`. -/
def EventDatabase.authoritativeStateIsEmpty (db : EventDatabase) (engagementId : UUID) : Bool :=
  let streamId := controlPlaneAuditStreamId engagementId
  (db.eventRows engagementId).length = 0 ∧ (db.audit.streamRows streamId).length = 0 ∧
    (db.audit.heads.filter fun head => head.streamId = streamId).length = 0

namespace CheckpointedEventStore

/-- `audit.checkpoint` of a call's stream. -/
def checkpoint (store : CustodyStore) (call : CustodyCall) : Except CustodyError AuditCheckpoint :=
  (store.system.db.audit.checkpoint eventAuditLimits call.streamId call.now).mapError
    fun error => .events (.audit error)

def request (event : Event PyValue) (bindings : AuditStateBindings) (deadline : Time)
    (call : CustodyCall) (trusted : AuditCheckpoint) : AppendAuthoritative :=
  ⟨event, bindings, trusted, deadline, call.now⟩

variable [PythonAlnum] (redactor : Redactor)

/-- `append_authoritative` or `list_authoritative_for_engagement`, under a checkpoint. -/
def operate (store : CustodyStore) (call : CustodyCall) (trusted : AuditCheckpoint) :
    CustodyStore × Except CustodyError CustodyResult :=
  match call.operation with
  | .append event bindings deadline =>
    let call := request event bindings deadline call trusted
    ({ store with system := EventSystem.append redactor store.system call },
      ((store.system.db.appendAuthoritative redactor call).2.map .appended).mapError .events)
  | .list engagementId =>
    (store, ((store.system.db.listAuthoritative engagementId trusted call.now).map
      .listed).mapError .events)

/-- The steps of `append` and `list_for_engagement`. -/
def next (store : CustodyStore) : CustodyFrame → CustodyStore × (CustodyFrame ⊕ CustodyAnswer)
  | .load call =>
    match store.checkpoints.load call.streamId with
    | some checkpoint => (store, .inl (.operate call checkpoint))
    | none => (store, .inl (.probe call))
  | .probe call =>
    if store.system.db.authoritativeStateIsEmpty call.operation.engagementId then
      (store, .inl (.genesis call))
    else
      (store, .inr (.error (.custody
        "checkpoint is missing for non-empty authoritative state; migrate or restore")))
  | .genesis call =>
    match checkpoint store call with
    | .ok genesis => (store, .inl (.initializing call genesis))
    | .error error => (store, .inr (.error error))
  | .initializing call genesis =>
    match store.checkpoints.initializeCheckpoint genesis with
    | .ok (checkpoints, trusted) => ({ store with checkpoints }, .inl (.operate call trusted))
    | .error message => (store, .inr (.error (.custody message)))
  | .operate call trusted =>
    match operate redactor store call trusted with
    | (store, .ok result) => (store, .inl (.latest call trusted result))
    | (store, .error error) => (store, .inr (.error error))
  | .latest call trusted result =>
    match checkpoint store call with
    | .ok latest => (store, .inl (.advance call trusted latest result))
    | .error error => (store, .inr (.error error))
  | .advance _ trusted latest result =>
    match store.checkpoints.advance trusted latest with
    | .ok (checkpoints, _) => ({ store with checkpoints }, .inr (.ok result))
    | .error message => (store, .inr (.error (.custody message)))

/-- The calls of the clients, each a sequence of transactions. -/
def program : Program CustodyStore CustodyCall CustodyFrame CustodyAnswer where
  begins := .load
  next := next redactor

end CheckpointedEventStore

end VulnLoom

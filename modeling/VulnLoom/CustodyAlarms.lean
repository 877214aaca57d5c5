import VulnLoom.AuditPrefix
import VulnLoom.CheckpointCustody
import VulnLoom.EventAlarms

/-!
# What custody reports

The stored checkpoint of a stream only moves forward, and what it says is what the chain has at its
sequence. A call reports a rollback, a fork or a missing checkpoint all the same when another
client disturbs it (`Undisturbed`): the clock was read before the checkpoint was issued that the
call finds, or another client initialized or advanced the checkpoint that the call goes by.
`custody_along`: in a run without disturbed steps no call reports anything, and a committed event
can be appended again.
-/

set_option linter.unusedSectionVars false

open Transition Connections

namespace VulnLoom

section

variable [EventDigests] [AuditDigests] [AuditRecordJson]

/-! ## The files -/

namespace CheckpointFiles

variable {files files' : CheckpointFiles} {checkpoint expected trusted : AuditCheckpoint}

theorem load_replace : load (replace files checkpoint) checkpoint.streamId = some checkpoint :=
  Table.find?_upsert checkpoint files

theorem load_replace_of_ne {streamId : Digest} (h : streamId ≠ checkpoint.streamId) :
    load (replace files checkpoint) streamId = load files streamId :=
  Table.find?_upsert_of_ne h files

variable {stored : AuditCheckpoint}

theorem sameTrust_iff : sameTrust stored checkpoint = true ↔
    stored.sequence = checkpoint.sequence ∧ stored.headDigest = checkpoint.headDigest := by
  simp [sameTrust]

theorem initializeCheckpoint_ok
    (h : initializeCheckpoint files checkpoint = .ok (files', trusted)) :
    checkpoint.sequence = 0 ∧
      (load files checkpoint.streamId = some trusted ∧ files' = files ∨
        load files checkpoint.streamId = none ∧ files' = replace files checkpoint ∧
          trusted = checkpoint) := by
  simp only [initializeCheckpoint, bind_eq_ok, raiseIf_eq_ok, not_not] at h
  obtain ⟨-, hempty, h⟩ := h
  refine ⟨hempty, ?_⟩
  cases hload : load files checkpoint.streamId with
  | some existing =>
    simp only [hload, bind_eq_ok, raiseIf_eq_ok, pure_eq_ok, Prod.mk.injEq] at h
    obtain ⟨-, -, rfl, rfl⟩ := h
    exact Or.inl ⟨rfl, rfl⟩
  | none =>
    simp only [hload, pure_eq_ok, Prod.mk.injEq] at h
    obtain ⟨rfl, rfl⟩ := h
    exact Or.inr ⟨rfl, rfl, rfl⟩

theorem advance_ok (h : advance files expected checkpoint = .ok (files', trusted)) :
    ∃ stored, load files checkpoint.streamId = some stored ∧
      (files' = files ∨ stored.sequence < checkpoint.sequence ∧
        files' = replace files checkpoint) := by
  simp only [advance, bind_eq_ok, raiseIf_eq_ok, orRaise_eq_ok, not_not] at h
  obtain ⟨-, -, stored, hload, h⟩ := h
  refine ⟨stored, hload, ?_⟩
  split_ifs at h
  · simp only [pure_eq_ok, Prod.mk.injEq] at h
    exact Or.inl h.1.symm
  · simp only [bind_eq_ok, raiseIf_eq_ok, pure_eq_ok, Prod.mk.injEq, not_not, not_le] at h
    obtain ⟨-, -, -, hlt, -, -, rfl, -⟩ := h
    exact Or.inr ⟨hlt, rfl⟩

/-- An advance to a later checkpoint from the one that is stored, or to one that says the same,
is not refused. -/
theorem advance_isOk (hstream : checkpoint.streamId = expected.streamId)
    (hload : load files checkpoint.streamId = some stored)
    (h : sameTrust stored checkpoint = true ∨ stored = expected ∧
      stored.sequence < checkpoint.sequence ∧ stored.issuedAt ≤ checkpoint.issuedAt) :
    ∃ files' trusted, advance files expected checkpoint = .ok (files', trusted) := by
  by_cases hsame : sameTrust stored checkpoint = true
  · refine ⟨files, stored, ?_⟩
    simp only [advance, bind_eq_ok, raiseIf_eq_ok, orRaise_eq_ok, not_not]
    exact ⟨(), hstream, stored, hload, if_pos hsame⟩
  · obtain ⟨rfl, hlt, hle⟩ := h.resolve_left hsame
    refine ⟨replace files checkpoint, checkpoint, ?_⟩
    simp only [advance, bind_eq_ok, raiseIf_eq_ok, orRaise_eq_ok, not_not]
    refine ⟨(), hstream, stored, hload, ?_⟩
    rw [if_neg hsame]
    simp only [bind_eq_ok, raiseIf_eq_ok, pure_eq_ok, not_not, not_le, not_lt]
    exact ⟨(), trivial, (), hlt, (), hle, trivial⟩

end CheckpointFiles

/-! ## Forward only -/

namespace CustodyStore

def load (store : CustodyStore) (engagementId : UUID) : Option AuditCheckpoint :=
  store.checkpoints.load (controlPlaneAuditStreamId engagementId)

def records (store : CustodyStore) (engagementId : UUID) : List AuditRecord :=
  store.system.db.audit.storedRecords (controlPlaneAuditStreamId engagementId)

/-- Every checkpoint of the first store is stored in the second, or one of a greater sequence. -/
def Advances (store store' : CustodyStore) : Prop :=
  ∀ streamId checkpoint, store.checkpoints.load streamId = some checkpoint →
    ∃ checkpoint', store'.checkpoints.load streamId = some checkpoint' ∧
      checkpoint.sequence ≤ checkpoint'.sequence

theorem advances_refl (store : CustodyStore) : Advances store store :=
  fun _ checkpoint h => ⟨checkpoint, h, le_rfl⟩

theorem Advances.trans {a b c : CustodyStore} (hab : Advances a b) (hbc : Advances b c) :
    Advances a c := by
  intro streamId checkpoint h
  obtain ⟨checkpoint', h', hle⟩ := hab streamId checkpoint h
  obtain ⟨checkpoint'', h'', hle'⟩ := hbc streamId checkpoint' h'
  exact ⟨checkpoint'', h'', hle.trans hle'⟩

theorem advances_of_checkpoints {a b : CustodyStore} (h : b.checkpoints = a.checkpoints) :
    Advances a b := by
  intro streamId checkpoint hload
  exact ⟨checkpoint, h ▸ hload, le_rfl⟩

/-- A checkpoint that replaces none, or one of a smaller sequence, is an advance. -/
theorem advances_replace (store : CustodyStore) {checkpoint : AuditCheckpoint}
    (h : ∀ stored, store.checkpoints.load checkpoint.streamId = some stored →
      stored.sequence ≤ checkpoint.sequence) :
    Advances store { store with checkpoints := store.checkpoints.replace checkpoint } := by
  intro streamId stored hload
  by_cases hid : streamId = checkpoint.streamId
  · subst hid
    exact ⟨checkpoint, CheckpointFiles.load_replace, h stored hload⟩
  · exact ⟨stored, (CheckpointFiles.load_replace_of_ne hid).trans hload, le_rfl⟩

end CustodyStore

namespace CheckpointedEventStore

variable [PythonAlnum] (redactor : Redactor)

theorem operate_checkpoints (store : CustodyStore) (call : CustodyCall)
    (trusted : AuditCheckpoint) :
    (operate redactor store call trusted).1.checkpoints = store.checkpoints := by
  unfold operate
  split <;> rfl

/-- No step of any call moves a checkpoint back. -/
theorem next_advances (store : CustodyStore) (frame : CustodyFrame) :
    CustodyStore.Advances store (next redactor store frame).1 := by
  cases frame with
  | load call =>
    rw [next]
    split <;> exact CustodyStore.advances_refl store
  | probe call =>
    rw [next]
    split_ifs <;> exact CustodyStore.advances_refl store
  | genesis call =>
    rw [next]
    split <;> exact CustodyStore.advances_refl store
  | initializing call genesis =>
    rw [next]
    split
    next checkpoints trusted h =>
      obtain ⟨hempty, ⟨-, rfl⟩ | ⟨hnone, rfl, -⟩⟩ := CheckpointFiles.initializeCheckpoint_ok h
      · exact CustodyStore.advances_refl store
      · refine CustodyStore.advances_replace store fun stored hstored => ?_
        rw [hnone] at hstored
        cases hstored
    · exact CustodyStore.advances_refl store
  | operate call trusted =>
    have hsame := operate_checkpoints redactor store call trusted
    rw [next]
    split
    next store' result h =>
      rw [h] at hsame
      exact CustodyStore.advances_of_checkpoints hsame
    next store' error h =>
      rw [h] at hsame
      exact CustodyStore.advances_of_checkpoints hsame
  | latest call trusted result =>
    rw [next]
    split <;> exact CustodyStore.advances_refl store
  | advance call trusted latest result =>
    rw [next]
    split
    next checkpoints advanced h =>
      obtain ⟨stored, hload, rfl | ⟨hlt, rfl⟩⟩ := CheckpointFiles.advance_ok h
      · exact CustodyStore.advances_refl store
      · refine CustodyStore.advances_replace store fun stored' hload' => ?_
        rw [hload] at hload'
        cases hload'
        exact hlt.le
    · exact CustodyStore.advances_refl store

end CheckpointedEventStore

/-! ## Checkpoints of the chain -/

/-- The chain has the digest of the checkpoint at its sequence. -/
structure CustodyStore.Anchors (store : CustodyStore) (engagementId : UUID)
    (checkpoint : AuditCheckpoint) : Prop where
  stream : checkpoint.streamId = controlPlaneAuditStreamId engagementId
  length : checkpoint.sequence ≤ (store.records engagementId).length
  digest : anchoredDigest (store.records engagementId) checkpoint.sequence =
    checkpoint.headDigest

namespace CustodyStore.Anchors

variable {store store' : CustodyStore} {engagementId : UUID} {checkpoint other : AuditCheckpoint}

/-- A chain that goes on keeps its anchors. -/
theorem grow (h : store.Anchors engagementId checkpoint)
    (hgrow : store.records engagementId <+: store'.records engagementId) :
    store'.Anchors engagementId checkpoint := by
  obtain ⟨more, hmore⟩ := hgrow
  have hlength : checkpoint.sequence ≤ (store.records engagementId ++ more).length := by
    rw [List.length_append]
    exact Nat.le_add_right_of_le h.length
  refine ⟨h.stream, hmore ▸ hlength, ?_⟩
  rw [← h.digest, ← hmore, anchoredDigest_eq_head hlength, anchoredDigest_eq_head h.length,
    List.take_append_of_le_length h.length]

/-- A checkpoint of the chain that was issued before now finds nothing wrong with it. -/
theorem checkpointFailure (h : store.Anchors engagementId checkpoint) {now : Time}
    (hnow : checkpoint.issuedAt ≤ now) :
    VulnLoom.checkpointFailure (controlPlaneAuditStreamId engagementId) now
      (store.records engagementId) checkpoint = none := by
  rw [VulnLoom.checkpointFailure, if_neg (not_lt.2 hnow), if_neg (not_not.2 h.stream),
    if_neg (not_lt.2 h.length), if_neg (not_not.2 h.digest)]

/-- Two checkpoints of one sequence say the same. -/
theorem sameTrust (h : store.Anchors engagementId checkpoint)
    (h' : store.Anchors engagementId other) (hsequence : checkpoint.sequence = other.sequence) :
    CheckpointFiles.sameTrust checkpoint other = true := by
  rw [CheckpointFiles.sameTrust_iff]
  refine ⟨hsequence, ?_⟩
  rw [← h.digest, ← h'.digest, hsequence]

end CustodyStore.Anchors

/-- A chain within its limits has a checkpoint, of its last record. -/
theorem Retained.checkpoint {store : CustodyStore} (h : Retained store.system)
    (call : CustodyCall) :
    ∃ latest, CheckpointedEventStore.checkpoint store call = .ok latest ∧
      store.Anchors call.operation.engagementId latest ∧
      latest.sequence = (store.records call.operation.engagementId).length ∧
      latest.issuedAt = call.now := by
  obtain ⟨pairs, hpairs, hlength, -⟩ := h.pairs call.operation.engagementId
  have hverified : (store.system.db.audit.verifyLocked eventAuditLimits call.streamId call.now
      none).status = .verified := by
    refine verifyLocked_verified.2 ⟨?_, _, hpairs.scanned, hpairs.head, rfl⟩
    exact exceedsLimits_eq_false.2 ⟨hpairs.length ▸ hlength, hpairs.sizes⟩
  obtain ⟨hcount, hhead⟩ := verified_result hverified
  have hgenesis : (store.system.db.audit.verifyLocked eventAuditLimits call.streamId call.now
      none).recordCount = 0 → (store.system.db.audit.verifyLocked eventAuditLimits call.streamId
        call.now none).headDigest = auditGenesisDigest := by
    intro hzero
    rw [hcount, List.length_eq_zero_iff] at hzero
    rw [hhead, hzero]
    rfl
  refine ⟨⟨call.streamId, _, _, call.now, hgenesis⟩, ?_, ⟨rfl, ?_, ?_⟩, ?_, rfl⟩
  · rw [CheckpointedEventStore.checkpoint, mapError_eq_ok, AuditDatabase.checkpoint]
    simp only [bind_eq_ok, raiseIf_eq_ok, not_not]
    exact ⟨(), hverified, dif_pos hgenesis⟩
  · exact hcount.le
  · have hanchor : anchoredDigest (store.system.db.audit.storedRecords call.streamId)
        (store.system.db.audit.verifyLocked eventAuditLimits call.streamId call.now
          none).recordCount = (store.system.db.audit.verifyLocked eventAuditLimits call.streamId
            call.now none).headDigest := by
      rw [anchoredDigest_eq_head hcount.le, hcount, List.take_length, hhead, chainHead_eq_head]
    exact hanchor
  · exact hcount

/-! ## Steps without disturbance -/

/-- The custody store reports that it cannot trust what it finds. -/
def CustodyError.reports : CustodyError → Bool
  | .custody _ => true
  | .events error => error.suspects

/-- The step answers its call with a report. -/
def reportsNow : CustodyFrame ⊕ CustodyAnswer → Bool
  | .inr (.error error) => error.reports
  | _ => false

section Steps

variable [PythonAlnum] (redactor : Redactor)

/-- The step reports nothing. -/
def Quiet (store : CustodyStore) (frame : CustodyFrame) : Prop :=
  reportsNow (CheckpointedEventStore.next redactor store frame).2 = false

instance (store : CustodyStore) (frame : CustodyFrame) : Decidable (Quiet redactor store frame) :=
  inferInstanceAs (Decidable (_ = _))

/-- What an operation asks of the database. -/
def OperationUndisturbed (db : EventDatabase) (call : CustodyCall) (trusted : AuditCheckpoint) :
    Prop :=
  match call.operation with
  | .append event bindings deadline =>
    let call := CheckpointedEventStore.request event bindings deadline call trusted
    Retains redactor db call ∧
      ∀ event, ReachesLookup redactor db call event → ¬KeyElsewhere db event
  | .list _ => True

/-- No other client comes in between: while a call finds no checkpoint, its stream is empty and
nobody else initializes more than that; the checkpoint that it goes by was issued before its clock
reading; and when it advances it, the checkpoint is still stored, or one of the same sequence. -/
def Undisturbed (store : CustodyStore) : CustodyFrame → Prop
  | .load _ => True
  | .probe call => store.records call.operation.engagementId = []
  | .genesis call => store.records call.operation.engagementId = []
  | .initializing call _ => ∀ stored,
      store.load call.operation.engagementId = some stored → stored.sequence = 0
  | .operate call trusted => trusted.issuedAt ≤ call.now ∧
      OperationUndisturbed redactor store.system.db call trusted
  | .latest _ _ _ => True
  | .advance call trusted latest _ => ∀ stored,
      store.load call.operation.engagementId = some stored →
        stored = trusted ∨ stored.sequence = latest.sequence

/-- What undisturbed steps keep of the store. -/
structure CustodyKept (store : CustodyStore) : Prop where
  retained : Retained store.system
  anchored : ∀ engagementId checkpoint, store.load engagementId = some checkpoint →
    store.Anchors engagementId checkpoint
  trusted : ∀ engagementId, store.records engagementId ≠ [] → (store.load engagementId).isSome

/-- What a call under way has read of the store. -/
def CustodyFrame.Reads (store : CustodyStore) : CustodyFrame → Prop
  | .load _ => True
  | .probe _ => True
  | .genesis _ => True
  | .initializing call first => store.Anchors call.operation.engagementId first ∧
      first.sequence = 0
  | .operate call trusted => store.Anchors call.operation.engagementId trusted ∧
      (store.load call.operation.engagementId).isSome
  | .latest call trusted _ => store.Anchors call.operation.engagementId trusted ∧
      (store.load call.operation.engagementId).isSome ∧ trusted.issuedAt ≤ call.now
  | .advance call trusted last _ => store.Anchors call.operation.engagementId trusted ∧
      store.Anchors call.operation.engagementId last ∧
      (store.load call.operation.engagementId).isSome ∧
      trusted.sequence ≤ last.sequence ∧ trusted.issuedAt ≤ last.issuedAt

/-- The chains go on, and what is in custody stays there. -/
structure CustodyStore.Grows (store store' : CustodyStore) : Prop where
  records : ∀ engagementId, store.records engagementId <+: store'.records engagementId
  load : ∀ engagementId, (store.load engagementId).isSome → (store'.load engagementId).isSome

theorem CustodyStore.grows_refl (store : CustodyStore) : store.Grows store :=
  ⟨fun _ => List.prefix_refl _, fun _ h => h⟩

theorem CustodyFrame.Reads.grow {store store' : CustodyStore} (hgrow : store.Grows store') :
    ∀ {frame : CustodyFrame}, frame.Reads store → frame.Reads store'
  | .load _, _ => trivial
  | .probe _, _ => trivial
  | .genesis _, _ => trivial
  | .initializing _ _, ⟨hanchors, hempty⟩ => ⟨hanchors.grow (hgrow.records _), hempty⟩
  | .operate _ _, ⟨hanchors, hload⟩ => ⟨hanchors.grow (hgrow.records _), hgrow.load _ hload⟩
  | .latest _ _ _, ⟨hanchors, hload, hnow⟩ =>
    ⟨hanchors.grow (hgrow.records _), hgrow.load _ hload, hnow⟩
  | .advance _ _ _ _, ⟨htrusted, hlatest, hload, hle⟩ =>
    ⟨htrusted.grow (hgrow.records _), hlatest.grow (hgrow.records _), hgrow.load _ hload, hle⟩

/-- What a step does for the store and for its call. -/
structure StepKeeps (store : CustodyStore) (frame : CustodyFrame) : Prop where
  kept : CustodyKept (CheckpointedEventStore.next redactor store frame).1
  grows : store.Grows (CheckpointedEventStore.next redactor store frame).1
  rest : ∀ frame', (CheckpointedEventStore.next redactor store frame).2 = .inl frame' →
    frame'.Reads (CheckpointedEventStore.next redactor store frame).1
  quiet : Quiet redactor store frame

variable {redactor} {store : CustodyStore}

/-- A step that goes on with an unchanged store. -/
theorem StepKeeps.read {frame : CustodyFrame} (frame' : CustodyFrame) (hkept : CustodyKept store)
    (h : CheckpointedEventStore.next redactor store frame = (store, .inl frame'))
    (hreads : frame'.Reads store) : StepKeeps redactor store frame := by
  constructor
  · rw [h]
    exact hkept
  · rw [h]
    exact store.grows_refl
  · intro frame'' hframe
    rw [h] at hframe ⊢
    cases hframe
    exact hreads
  · rw [Quiet, h]
    rfl

theorem StepKeeps.load (hkept : CustodyKept store) (call : CustodyCall) :
    StepKeeps redactor store (.load call) := by
  cases hload : store.checkpoints.load call.streamId with
  | some checkpoint =>
    refine .read (.operate call checkpoint) hkept ?_ ⟨hkept.anchored _ _ hload, ?_⟩
    · rw [CheckpointedEventStore.next, hload]
    · exact Option.isSome_of_eq_some hload
  | none =>
    refine .read (.probe call) hkept ?_ trivial
    rw [CheckpointedEventStore.next, hload]

variable {call : CustodyCall}

theorem StepKeeps.probe (hkept : CustodyKept store)
    (hempty : store.records call.operation.engagementId = []) :
    StepKeeps redactor store (.probe call) := by
  refine .read (.genesis call) hkept ?_ trivial
  obtain ⟨pairs, hpairs, -⟩ := hkept.retained.pairs call.operation.engagementId
  have hnil : pairs = [] := by
    rw [CustodyStore.records, hpairs.storedRecords] at hempty
    exact List.map_eq_nil_iff.1 hempty
  subst hnil
  have hheads : (store.system.db.audit.heads.filter fun head =>
      head.streamId = controlPlaneAuditStreamId call.operation.engagementId) = [] := by
    have hbound := hpairs.head
    cases hrow : store.system.db.audit.headRow
        (controlPlaneAuditStreamId call.operation.engagementId) with
    | some head =>
      rw [hrow] at hbound
      cases hbound
    | none => exact List.filter_eq_nil_iff.2 (List.find?_eq_none.1 hrow)
  have hstate : store.system.db.authoritativeStateIsEmpty call.operation.engagementId = true := by
    simp [EventDatabase.authoritativeStateIsEmpty, hpairs.events, hpairs.length, hheads]
  rw [CheckpointedEventStore.next, if_pos hstate]

theorem StepKeeps.genesis (hkept : CustodyKept store) {call : CustodyCall}
    (hempty : store.records call.operation.engagementId = []) :
    StepKeeps redactor store (.genesis call) := by
  obtain ⟨genesis, hcheckpoint, hanchors, hlength, -⟩ := hkept.retained.checkpoint call
  refine .read (.initializing call genesis) hkept ?_ ⟨hanchors, ?_⟩
  · rw [CheckpointedEventStore.next, hcheckpoint]
  · rw [hlength, hempty]
    rfl

theorem StepKeeps.latest (hkept : CustodyKept store) {call : CustodyCall}
    {trusted : AuditCheckpoint} {result : CustodyResult}
    (hreads : CustodyFrame.Reads store (.latest call trusted result)) :
    StepKeeps redactor store (.latest call trusted result) := by
  obtain ⟨htrusted, hload, hnow⟩ := hreads
  obtain ⟨latest, hcheckpoint, hanchors, hlength, hissued⟩ := hkept.retained.checkpoint call
  refine .read (.advance call trusted latest result) hkept ?_ ⟨htrusted, hanchors, hload,
    ?_, ?_⟩
  · rw [CheckpointedEventStore.next, hcheckpoint]
  · rw [hlength]
    exact htrusted.length
  · rw [hissued]
    exact hnow

/-- A checkpoint of the chain may be stored for its stream. -/
theorem CustodyKept.replace (hstream : Function.Injective (controlPlaneAuditStreamId))
    (hkept : CustodyKept store) {engagementId : UUID} {checkpoint : AuditCheckpoint}
    (hanchors : store.Anchors engagementId checkpoint) :
    CustodyKept { store with checkpoints := store.checkpoints.replace checkpoint } ∧
      store.Grows { store with checkpoints := store.checkpoints.replace checkpoint } ∧
      CustodyStore.load { store with checkpoints := store.checkpoints.replace checkpoint }
        engagementId = some checkpoint := by
  have hsame : CustodyStore.load
      { store with checkpoints := store.checkpoints.replace checkpoint } engagementId =
        some checkpoint := by
    rw [CustodyStore.load, ← hanchors.stream]
    exact CheckpointFiles.load_replace
  have hother : ∀ engagementId', engagementId' ≠ engagementId → CustodyStore.load
      { store with checkpoints := store.checkpoints.replace checkpoint } engagementId' =
        store.load engagementId' := by
    intro engagementId' hne
    refine CheckpointFiles.load_replace_of_ne fun heq => hne ?_
    exact hstream (heq.trans hanchors.stream)
  have hgrows : ∀ engagementId', (store.load engagementId').isSome → (CustodyStore.load
      { store with checkpoints := store.checkpoints.replace checkpoint } engagementId').isSome := by
    intro engagementId' hload
    by_cases hid : engagementId' = engagementId
    · rw [hid, hsame]
      rfl
    · rwa [hother _ hid]
  refine ⟨⟨hkept.retained, fun engagementId' stored hload => ?_, fun engagementId' hrecords => ?_⟩,
    ⟨fun _ => List.prefix_refl _, hgrows⟩, hsame⟩
  · by_cases hid : engagementId' = engagementId
    · subst hid
      rw [hsame] at hload
      cases hload
      exact ⟨hanchors.stream, hanchors.length, hanchors.digest⟩
    · rw [hother _ hid] at hload
      obtain ⟨hid', hlength, hdigest⟩ := hkept.anchored _ _ hload
      exact ⟨hid', hlength, hdigest⟩
  · exact hgrows _ (hkept.trusted _ hrecords)

theorem StepKeeps.initializing (hstream : Function.Injective (controlPlaneAuditStreamId))
    (hkept : CustodyKept store) {genesis : AuditCheckpoint}
    (hreads : CustodyFrame.Reads store (.initializing call genesis))
    (hfirst : ∀ stored, store.load call.operation.engagementId = some stored →
      stored.sequence = 0) : StepKeeps redactor store (.initializing call genesis) := by
  obtain ⟨hanchors, hzero⟩ := hreads
  cases hload : store.load call.operation.engagementId with
  | some stored =>
    have hstored := hkept.anchored _ _ hload
    have hsame := hstored.sameTrust hanchors ((hfirst stored hload).trans hzero.symm)
    refine .read (.operate call stored) hkept ?_ ⟨hstored, Option.isSome_of_eq_some hload⟩
    rw [CustodyStore.load, ← hanchors.stream] at hload
    have hinit : store.checkpoints.initializeCheckpoint genesis =
        .ok (store.checkpoints, stored) := by
      simp only [CheckpointFiles.initializeCheckpoint, hload, bind_eq_ok, raiseIf_eq_ok,
        pure_eq_ok, not_not]
      exact ⟨(), hzero, (), by simp [hsame], trivial⟩
    rw [CheckpointedEventStore.next, hinit]
  | none =>
    obtain ⟨hkept', hgrows, hload'⟩ := hkept.replace hstream hanchors
    rw [CustodyStore.load, ← hanchors.stream] at hload
    have hinit : store.checkpoints.initializeCheckpoint genesis =
        .ok (store.checkpoints.replace genesis, genesis) := by
      simp only [CheckpointFiles.initializeCheckpoint, hload, bind_eq_ok, raiseIf_eq_ok,
        pure_eq_ok, not_not]
      exact ⟨(), hzero, trivial⟩
    have hnext : CheckpointedEventStore.next redactor store (.initializing call genesis) =
        ({ store with checkpoints := store.checkpoints.replace genesis },
          .inl (.operate call genesis)) := by
      rw [CheckpointedEventStore.next, hinit]
    constructor
    · rw [hnext]
      exact hkept'
    · rw [hnext]
      exact hgrows
    · intro frame' hframe
      rw [hnext] at hframe ⊢
      cases hframe
      exact ⟨hanchors.grow (hgrows.records _), Option.isSome_of_eq_some hload'⟩
    · rw [Quiet, hnext]
      rfl

variable {trusted : AuditCheckpoint}

theorem StepKeeps.advance (redactor : Redactor)
    (hstream : Function.Injective (controlPlaneAuditStreamId)) (hkept : CustodyKept store)
    {last : AuditCheckpoint} {result : CustodyResult}
    (hreads : CustodyFrame.Reads store (.advance call trusted last result))
    (hsame : ∀ stored, store.load call.operation.engagementId = some stored →
      stored = trusted ∨ stored.sequence = last.sequence) :
    StepKeeps redactor store (.advance call trusted last result) ∧
      (CheckpointedEventStore.next redactor store (.advance call trusted last result)).2 =
        .inr (.ok result) ∧
      (CheckpointedEventStore.next redactor store (.advance call trusted last result)).1.system =
        store.system := by
  obtain ⟨htrusted, hlast, hload, hsequence, hissued⟩ := hreads
  obtain ⟨stored, hstored⟩ := Option.isSome_iff_exists.1 hload
  have hanchors := hkept.anchored _ _ hstored
  have hfile : store.checkpoints.load last.streamId = some stored := by
    rw [hlast.stream]
    exact hstored
  obtain ⟨files, advanced, hadvance⟩ : ∃ files advanced,
      store.checkpoints.advance trusted last = .ok (files, advanced) := by
    refine CheckpointFiles.advance_isOk (hlast.stream.trans htrusted.stream.symm) hfile ?_
    by_cases heq : stored.sequence = last.sequence
    · exact Or.inl (hanchors.sameTrust hlast heq)
    · obtain rfl := (hsame stored hstored).resolve_right heq
      exact Or.inr ⟨rfl, lt_of_le_of_ne hsequence heq, hissued⟩
  have hnext : CheckpointedEventStore.next redactor store (.advance call trusted last result) =
      ({ store with checkpoints := files }, .inr (.ok result)) := by
    rw [CheckpointedEventStore.next, hadvance]
  have hkept' : CustodyKept { store with checkpoints := files } ∧
      store.Grows { store with checkpoints := files } := by
    obtain ⟨-, -, rfl | ⟨-, rfl⟩⟩ := CheckpointFiles.advance_ok hadvance
    · exact ⟨hkept, store.grows_refl⟩
    · obtain ⟨hkept', hgrows, -⟩ := hkept.replace hstream hlast
      exact ⟨hkept', hgrows⟩
  rw [hnext]
  refine ⟨⟨?_, ?_, fun frame' hframe => ?_, ?_⟩, rfl, rfl⟩
  · rw [hnext]
    exact hkept'.1
  · rw [hnext]
    exact hkept'.2
  · rw [hnext] at hframe
    cases hframe
  · rw [Quiet, hnext]
    rfl

variable {request : AppendAuthoritative}

/-- An append to a stream in custody keeps the store. -/
theorem CustodyKept.append (hstream : Function.Injective (controlPlaneAuditStreamId))
    (hread : ∀ record : AuditRecord, AuditRecordJson.modelValidateJson
      (AuditRecordJson.modelDumpJson record) = some record) (hkept : CustodyKept store)
    (hretains : Retains redactor store.system.db request)
    (hload : (store.load request.event.engagementId).isSome) :
    CustodyKept { store with system := EventSystem.append redactor store.system request } ∧
      store.Grows { store with system := EventSystem.append redactor store.system request } := by
  have hretained := hkept.retained.append hstream hread hretains
  have hrecords : ∀ engagementId, store.records engagementId <+: CustodyStore.records
        { store with system := EventSystem.append redactor store.system request } engagementId ∧
      (request.event.engagementId ≠ engagementId → CustodyStore.records
        { store with system := EventSystem.append redactor store.system request } engagementId =
          store.records engagementId) := by
    intro engagementId
    cases hcall : store.system.db.appendAuthoritative redactor request with
    | mk db answer =>
    have hdb : (EventSystem.append redactor store.system request).db = db := by
      rw [EventSystem.append, hcall]
    simp only [CustodyStore.records, hdb]
    cases answer with
    | ok appended =>
      exact hkept.retained.paired.storedRecords_append hstream hread hcall engagementId
    | error error =>
      rw [appendAuthoritative_error hcall]
      exact ⟨List.prefix_refl _, fun _ => rfl⟩
  refine ⟨⟨hretained, fun engagementId checkpoint hcheckpoint => ?_,
    fun engagementId hne => ?_⟩, fun engagementId => (hrecords engagementId).1, fun _ h => h⟩
  · exact (hkept.anchored engagementId checkpoint hcheckpoint).grow (hrecords engagementId).1
  · by_cases hid : request.event.engagementId = engagementId
    · exact hid ▸ hload
    · rw [(hrecords engagementId).2 hid] at hne
      exact hkept.trusted engagementId hne

/-- An append under a checkpoint of the chain finds nothing to suspect. -/
theorem CustodyKept.quiet
    (hinj : Function.Injective (canonicalDigest : EventIdempotency → Digest))
    (hkept : CustodyKept store)
    (hanchors : store.Anchors request.event.engagementId request.trustedCheckpoint)
    (hnow : request.trustedCheckpoint.issuedAt ≤ request.now)
    (hkey : ∀ event, ReachesLookup redactor store.system.db request event →
      ¬KeyElsewhere store.system.db event) :
    suspects (store.system.db.appendAuthoritative redactor request).2 = false := by
  cases hsafe : EventDatabase.safeEvent redactor request with
  | error error => exact suspects_of_refused hsafe
  | ok event =>
    have hengagement : event.engagementId = request.event.engagementId := by
      rw [(safeEvent_ok hsafe).2.2]
      rfl
    obtain ⟨pairs, hpairs, hlength, -⟩ := hkept.retained.pairs event.engagementId
    have hfailure : checkpointFailure (controlPlaneAuditStreamId event.engagementId) request.now
        (pairs.map EventPair.record) request.trustedCheckpoint = none := by
      rw [← hpairs.storedRecords, hengagement]
      exact hanchors.checkpointFailure hnow
    have hverified := (hpairs.verified_iff request.now request.trustedCheckpoint).2
      ⟨hlength, hfailure⟩
    have hpaired := hkept.retained.paired
    exact hpaired.quiet hinj hsafe hverified
      (hkey event ((hpaired.reaches_iff hsafe).2 hverified))

theorem StepKeeps.operate (hstream : Function.Injective (controlPlaneAuditStreamId))
    (hinj : Function.Injective (canonicalDigest : EventIdempotency → Digest))
    (hread : ∀ record : AuditRecord, AuditRecordJson.modelValidateJson
      (AuditRecordJson.modelDumpJson record) = some record) (hkept : CustodyKept store)
    (hreads : CustodyFrame.Reads store (.operate call trusted))
    (hnow : trusted.issuedAt ≤ call.now)
    (hoperation : OperationUndisturbed redactor store.system.db call trusted) :
    StepKeeps redactor store (.operate call trusted) := by
  obtain ⟨hanchors, hload⟩ := hreads
  obtain ⟨operation, now⟩ := call
  cases operation with
  | list engagementId =>
    have hagreement : EventAgreement redactor store.system := hkept.retained.agreement hinj
    have hlisted := hagreement.listed engagementId trusted now (hanchors.checkpointFailure hnow)
    refine .read (.latest ⟨.list engagementId, now⟩ trusted
      (.listed (store.system.committedIn engagementId))) hkept ?_ ⟨hanchors, hload, hnow⟩
    simp only [CheckpointedEventStore.next, CheckpointedEventStore.operate, hlisted, Except.map,
      Except.mapError]
  | append event bindings deadline =>
    obtain ⟨hretains, hkey⟩ := hoperation
    obtain ⟨hkept', hgrows⟩ := hkept.append hstream hread hretains hload
    have hquiet := hkept.quiet hinj hanchors hnow hkey
    set request := CheckpointedEventStore.request event bindings deadline
      ⟨.append event bindings deadline, now⟩ trusted with hrequest
    cases hanswer : (store.system.db.appendAuthoritative redactor request).2 with
    | error error =>
      have hnext : CheckpointedEventStore.next redactor store
          (.operate ⟨.append event bindings deadline, now⟩ trusted) =
            ({ store with system := EventSystem.append redactor store.system request },
              .inr (.error (.events error))) := by
        simp only [CheckpointedEventStore.next, CheckpointedEventStore.operate, ← hrequest,
          hanswer, Except.map, Except.mapError]
      constructor
      · rw [hnext]
        exact hkept'
      · rw [hnext]
        exact hgrows
      · intro frame' hframe
        rw [hnext] at hframe
        cases hframe
      · rw [hanswer] at hquiet
        rw [Quiet, hnext]
        exact hquiet
    | ok appended =>
      have hnext : CheckpointedEventStore.next redactor store
          (.operate ⟨.append event bindings deadline, now⟩ trusted) =
            ({ store with system := EventSystem.append redactor store.system request },
              .inl (.latest ⟨.append event bindings deadline, now⟩ trusted
                (.appended appended))) := by
        simp only [CheckpointedEventStore.next, CheckpointedEventStore.operate, ← hrequest,
          hanswer, Except.map, Except.mapError]
      constructor
      · rw [hnext]
        exact hkept'
      · rw [hnext]
        exact hgrows
      · intro frame' hframe
        rw [hnext] at hframe ⊢
        cases hframe
        exact ⟨hanchors.grow (hgrows.records _), hload, hnow⟩
      · rw [Quiet, hnext]
        rfl

/-- An undisturbed step keeps the store and what its call has read, and reports nothing. -/
theorem stepKeeps (hstream : Function.Injective (controlPlaneAuditStreamId))
    (hinj : Function.Injective (canonicalDigest : EventIdempotency → Digest))
    (hread : ∀ record : AuditRecord, AuditRecordJson.modelValidateJson
      (AuditRecordJson.modelDumpJson record) = some record)
    (hkept : CustodyKept store) {frame : CustodyFrame} (hreads : frame.Reads store)
    (hundisturbed : Undisturbed redactor store frame) : StepKeeps redactor store frame := by
  cases frame with
  | load call => exact .load hkept call
  | probe call => exact .probe hkept hundisturbed
  | genesis call => exact .genesis hkept hundisturbed
  | initializing call first => exact .initializing hstream hkept hreads hundisturbed
  | operate call trusted =>
    exact .operate hstream hinj hread hkept hreads hundisturbed.1 hundisturbed.2
  | latest call trusted result => exact .latest hkept hreads
  | advance call trusted last result =>
    exact (StepKeeps.advance redactor hstream hkept hreads hundisturbed).1

end Steps

/-! ## Runs -/

variable [PythonAlnum] (redactor : Redactor)

/-- What the checkpoints say is what the chains have, and a committed event can be appended again:
the call, made alone, is answered with the event and its record, and nothing is added. -/
structure CustodyAgreement (store : CustodyStore) : Prop where
  anchored : ∀ engagementId checkpoint, store.load engagementId = some checkpoint →
    store.Anchors engagementId checkpoint
  retried : ∀ requested bindings deadline now event record,
    (record, event) ∈ (store.records event.engagementId).zip
        (store.system.committedIn event.engagementId) →
      SameEvent redactor requested bindings deadline event record →
      (∀ checkpoint, store.load event.engagementId = some checkpoint →
        checkpoint.issuedAt ≤ now) →
      ∃ store', (CheckpointedEventStore.program redactor).finish 7 store
          (.load ⟨.append requested bindings deadline, now⟩) =
            some (store', .ok (.appended ⟨event, record, false⟩)) ∧
        store'.system = store.system

variable {redactor}

theorem CustodyKept.agreement (hstream : Function.Injective (controlPlaneAuditStreamId))
    (hinj : Function.Injective (canonicalDigest : EventIdempotency → Digest))
    {store : CustodyStore} (hkept : CustodyKept store) : CustodyAgreement redactor store := by
  refine ⟨hkept.anchored, ?_⟩
  intro requested bindings deadline now event record hmem hsame hissued
  set call : CustodyCall := ⟨.append requested bindings deadline, now⟩ with hcall
  have hne : store.records event.engagementId ≠ [] := by
    intro hempty
    rw [hempty] at hmem
    simp at hmem
  obtain ⟨trusted, hload⟩ := Option.isSome_iff_exists.1 (hkept.trusted _ hne)
  have hanchors := hkept.anchored _ _ hload
  have hnow := hissued trusted hload
  have hrepeats : Repeats redactor store.system.db
      (CheckpointedEventStore.request requested bindings deadline call trusted) event record :=
    ⟨hsame, hanchors.checkpointFailure hnow⟩
  have hagreement : EventAgreement redactor store.system := hkept.retained.agreement hinj
  have hanswer := hagreement.repeated _ event record _ hmem hrepeats
  have hsystem : EventSystem.append redactor store.system
      (CheckpointedEventStore.request requested bindings deadline call trusted) =
        store.system := by
    rw [EventSystem.append, hanswer]
    rfl
  have hengagement : call.operation.engagementId = event.engagementId := hsame.engagementId
  have hloads : CheckpointedEventStore.next redactor store (.load call) =
      (store, .inl (.operate call trusted)) := by
    have hfile : store.checkpoints.load call.streamId = some trusted := by
      rw [CustodyCall.streamId, hengagement]
      exact hload
    rw [CheckpointedEventStore.next, hfile]
  have hoperates : CheckpointedEventStore.next redactor store (.operate call trusted) =
      (store, .inl (.latest call trusted (.appended ⟨event, record, false⟩))) := by
    simp only [CheckpointedEventStore.next, CheckpointedEventStore.operate, hcall,
      Except.map, Except.mapError]
    rw [← hcall, hsystem, hanswer]
  obtain ⟨last, hcheckpoint, hlast, hlength, hlastIssued⟩ := hkept.retained.checkpoint call
  have hlatest : CheckpointedEventStore.next redactor store
      (.latest call trusted (.appended ⟨event, record, false⟩)) =
        (store, .inl (.advance call trusted last (.appended ⟨event, record, false⟩))) := by
    rw [CheckpointedEventStore.next, hcheckpoint]
  have hreads : CustodyFrame.Reads store
      (.advance call trusted last (.appended ⟨event, record, false⟩)) := by
    rw [← hengagement] at hanchors hload
    exact ⟨hanchors, hlast, Option.isSome_of_eq_some hload, hlength ▸ hanchors.length,
      hlastIssued ▸ hnow⟩
  obtain ⟨-, hanswered, hunchanged⟩ := StepKeeps.advance redactor hstream hkept hreads
    fun stored hstored => Or.inl (by
      rw [hengagement, hload] at hstored
      exact (Option.some.inj hstored).symm)
  refine ⟨_, ?_, hunchanged⟩
  rw [Program.finish_inl _ hloads, Program.finish_inl _ hoperates, Program.finish_inl _ hlatest]
  exact Program.finish_inr _ (Prod.ext rfl hanswered)

/-- In a run without disturbed steps no call reports anything, the checkpoints only advance, and
they agree with the chains in every state. -/
theorem custody_along (hstream : Function.Injective (controlPlaneAuditStreamId))
    (hinj : Function.Injective (canonicalDigest : EventIdempotency → Digest))
    (hread : ∀ record : AuditRecord, AuditRecordJson.modelValidateJson
      (AuditRecordJson.modelDumpJson record) = some record)
    (steps : List (Step CustodyCall))
    (hsteps : Along (CheckpointedEventStore.program redactor).step
      (System.Meets (Undisturbed redactor)) (.idle .empty) steps) :
    Along (CheckpointedEventStore.program redactor).step (System.Meets (Quiet redactor))
        (.idle .empty) steps ∧
      Always (CheckpointedEventStore.program redactor).step
        (fun system => CustodyAgreement redactor system.store) (.idle .empty) steps ∧
      ∀ before after rest, steps = before ++ after ++ rest → CustodyStore.Advances
        (run (CheckpointedEventStore.program redactor).step (.idle .empty) before).store
        (run (CheckpointedEventStore.program redactor).step (.idle .empty)
          (before ++ after)).store := by
  have hempty : CustodyKept CustodyStore.empty :=
    ⟨retained_empty, fun _ _ h => (nomatch h), fun _ h => absurd rfl h⟩
  have hkeep : ∀ store frame, True → CustodyKept store → frame.Reads store →
      Undisturbed redactor store frame →
        CustodyKept ((CheckpointedEventStore.program redactor).next store frame).1 ∧
          (∀ frame', ((CheckpointedEventStore.program redactor).next store frame).2 =
              .inl frame' →
            frame'.Reads ((CheckpointedEventStore.program redactor).next store frame).1) ∧
          ∀ other, CustodyFrame.Reads store other →
            other.Reads ((CheckpointedEventStore.program redactor).next store frame).1 := by
    intro store frame _ hkept hreads hundisturbed
    have h := stepKeeps hstream hinj hread hkept hreads hundisturbed
    exact ⟨h.kept, h.rest, fun other hother => hother.grow h.grows⟩
  have hbegin : ∀ store call, True → CustodyKept store →
      CustodyFrame.Reads store ((CheckpointedEventStore.program redactor).begins call) :=
    fun _ _ _ _ => trivial
  refine ⟨?_, ?_, ?_⟩
  · exact Program.along_of_along (I := fun _ => True) (fun _ _ _ => trivial) hbegin hkeep
      (fun store frame _ hkept hreads hundisturbed =>
        (stepKeeps hstream hinj hread hkept hreads hundisturbed).quiet)
      steps trivial (System.holds_idle hempty) hsteps
  · intro pre hpre
    have halways := Program.always_of_along (I := fun _ => True) (fun _ _ _ => trivial) hbegin
      hkeep steps trivial (System.holds_idle hempty) hsteps
    exact (halways pre hpre).agreement hstream hinj
  · rintro before after rest -
    rw [run_append]
    exact Program.stores_related CustodyStore.advances_refl CustodyStore.Advances.trans
      (CheckpointedEventStore.next_advances redactor) after _

end

section

attribute [local instance] textEventDigests textAuditDigests textAuditJson asciiAlnum

/-- A client appends the event of `sampleAppend`, and nothing comes in between. -/
def sampleCustodyAppend : CustodyCall where
  operation := .append (sampleAppend (.finite 1 false)).event
    (sampleAppend (.finite 1 false)).bindings 9
  now := 1

/-- The first event of a store, with a payload that its text gives back. -/
def firstOperation (db : EventDatabase) : CustodyOperation → Bool
  | .append event _ _ => db.events.isEmpty && decide ((db.audit.streamRows
      (controlPlaneAuditStreamId event.engagementId)).length < 100000) &&
        decide (((Redactor.default.members [] event.payload).map
          SafeValue.membersHaveForeignNan).toOption = some false)
  | .list _ => true

theorem operationUndisturbed_of_first {db : EventDatabase} {call : CustodyCall}
    {trusted : AuditCheckpoint} (h : firstOperation db call.operation = true) :
    OperationUndisturbed .default db call trusted := by
  obtain ⟨operation, now⟩ := call
  cases operation with
  | list engagementId => trivial
  | append event bindings deadline =>
    simp only [firstOperation, Bool.and_eq_true, decide_eq_true_eq] at h
    obtain ⟨⟨hevents, hroom⟩, hnan⟩ := h
    refine ⟨fun safe hnew => ?_, fun safe _ => ?_⟩
    · obtain ⟨-, hpayload, heq⟩ := safeEvent_ok hnew.admissible.safe
      have hengagement : safe.engagementId = event.engagementId := by
        rw [heq]
        rfl
      have hmembers : Redactor.default.members [] event.payload = .ok safe.payload := hpayload
      rw [hmembers] at hnan
      exact ⟨Option.some.inj hnan, hengagement ▸ hroom⟩
    · rintro ⟨row, hrow, -⟩
      rw [List.isEmpty_iff.1 hevents] at hrow
      cases hrow

/-- What `Undisturbed` asks of a call for the first event of a store. -/
def firstUndisturbed (store : CustodyStore) : CustodyFrame → Bool
  | .load _ => true
  | .probe call => (store.records call.operation.engagementId).isEmpty
  | .genesis call => (store.records call.operation.engagementId).isEmpty
  | .initializing call _ => (store.load call.operation.engagementId).isNone
  | .operate call trusted => decide (trusted.issuedAt ≤ call.now) &&
      firstOperation store.system.db call.operation
  | .latest _ _ _ => true
  | .advance _ _ _ _ => false

theorem undisturbed_of_first {store : CustodyStore} : ∀ {frame : CustodyFrame},
    firstUndisturbed store frame = true → Undisturbed .default store frame
  | .load _, _ => trivial
  | .probe _, h => List.isEmpty_iff.1 h
  | .genesis _, h => List.isEmpty_iff.1 h
  | .initializing _ _, h => fun stored hstored => by
    rw [firstUndisturbed, hstored] at h
    cases h
  | .operate _ _, h => by
    obtain ⟨hnow, hfirst⟩ := Bool.and_eq_true_iff.1 h
    exact ⟨of_decide_eq_true hnow, operationUndisturbed_of_first hfirst⟩
  | .latest _ _ _, _ => trivial

/-- A call whose checkpoint is still stored when it reads the latest one. -/
def awaitsLatest (system : System CustodyStore CustodyFrame) (connection : ℕ) : Bool :=
  match system.calls connection with
  | some (.latest call trusted _) =>
    decide ((system.store.load call.operation.engagementId).map
      (fun stored => (stored.streamId, stored.sequence, stored.headDigest, stored.issuedAt)) =
        some (trusted.streamId, trusted.sequence, trusted.headDigest, trusted.issuedAt))
  | _ => false

/-- It reads the latest checkpoint, and advances the one that is still stored. -/
theorem undisturbed_of_latest {system : System CustodyStore CustodyFrame} {connection : ℕ}
    (h : awaitsLatest system connection = true) :
    Along (CheckpointedEventStore.program .default).step (System.Meets (Undisturbed .default))
      system [.go connection, .go connection] := by
  unfold awaitsLatest at h
  split at h
  next call trusted result hcall =>
    refine ⟨fun frame hframe => ?_, fun frame hframe => ?_, trivial⟩
    · obtain rfl := Option.some.inj (hcall.symm.trans hframe)
      trivial
    · rw [Program.step_go _ hcall] at hframe ⊢
      simp only [CheckpointedEventStore.program, CheckpointedEventStore.next,
        Function.update_self] at hframe ⊢
      cases hcheckpoint : CheckpointedEventStore.checkpoint system.store call with
      | error error =>
        rw [hcheckpoint] at hframe
        cases hframe
      | ok latest =>
        rw [hcheckpoint] at hframe
        obtain rfl := Option.some.inj hframe
        intro stored hstored
        left
        rw [hstored] at h
        obtain ⟨streamId, sequence, headDigest, issuedAt, _⟩ := stored
        obtain ⟨streamId', sequence', headDigest', issuedAt', _⟩ := trusted
        simp only [Option.map_some, Option.some.injEq, Prod.mk.injEq, decide_eq_true_eq] at h
        obtain ⟨rfl, rfl, rfl, rfl⟩ := h
        rfl
  next => cases h

/-- A client that is alone appends an event, and nothing is reported. -/
theorem alone_not_reported :
    Along (CheckpointedEventStore.program .default).step (System.Meets (Quiet .default))
        (.idle .empty) (.call 0 sampleCustodyAppend :: List.replicate 7 (.go 0)) ∧
      Always (CheckpointedEventStore.program .default).step
        (fun system => CustodyAgreement .default system.store) (.idle .empty)
        (.call 0 sampleCustodyAppend :: List.replicate 7 (.go 0)) ∧
      ∀ before after rest, .call 0 sampleCustodyAppend :: List.replicate 7 (.go 0) =
          before ++ after ++ rest → CustodyStore.Advances
        (run (CheckpointedEventStore.program .default).step (.idle .empty) before).store
        (run (CheckpointedEventStore.program .default).step (.idle .empty)
          (before ++ after)).store := by
  refine custody_along (fun _ _ h => h) textEventDigests_injective TextCodec.parse_text _ ?_
  have hfirst : Along (CheckpointedEventStore.program .default).step
      (System.Meets fun store frame => firstUndisturbed store frame = true) (.idle .empty)
      (.call 0 sampleCustodyAppend :: List.replicate 5 (.go 0)) := by decide +kernel
  have hlatest : awaitsLatest (run (CheckpointedEventStore.program .default).step (.idle .empty)
      (.call 0 sampleCustodyAppend :: List.replicate 5 (.go 0))) 0 = true := by decide +kernel
  have hsplit : (.call 0 sampleCustodyAppend :: List.replicate 7 (.go 0) : List (Step _)) =
      .call 0 sampleCustodyAppend :: List.replicate 5 (.go 0) ++ [.go 0, .go 0] := rfl
  rw [hsplit, along_append]
  refine ⟨hfirst.mono _ fun system step hmeets => ?_, undisturbed_of_latest hlatest⟩
  cases step with
  | call connection call => trivial
  | go connection => exact fun frame hframe => undisturbed_of_first (hmeets frame hframe)

/-- A client reads the clock, another one lists the events at a later reading, and the first finds
a checkpoint from its future: a fork is reported. -/
theorem overtaken_reported :
    ¬Along (CheckpointedEventStore.program .default).step (System.Meets (Quiet .default))
      (.idle .empty) (.call 0 ⟨.list "g", 1⟩ :: .call 1 ⟨.list "g", 2⟩ ::
        List.replicate 7 (.go 1) ++ [.go 0, .go 0]) := by
  decide +kernel

end

end VulnLoom

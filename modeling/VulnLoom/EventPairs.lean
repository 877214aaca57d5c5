import VulnLoom.EventStore

/-!
# Events and their records

Whatever calls were made, the rows of an engagement and the rows of its stream are the two sides
of one list of pairs (`PairedStream`), so that the stream is a chain in all but its length, which
appending does not check. `Paired.append` is the step; the lemmas before it say what the two
lookups of a call find.
-/

set_option linter.unusedSectionVars false

open Transition

namespace VulnLoom

variable [EventDigests] [AuditDigests] [AuditRecordJson]

/-! ## Pairs -/

/-- What the record of an event says of it. -/
structure Seals (record : AuditRecord) (event : Event SafeValue) : Prop where
  binds : record.binds event.engagementId event = true
  outcome : record.outcome = .committed
  cleanupVerified : record.cleanupVerified = true
  occurredAt : record.occurredAt = event.occurredAt

variable {record : AuditRecord} {event : Event SafeValue}

theorem binds_iff {engagementId : UUID} : record.binds engagementId event = true ↔
      record.eventType = controlPlaneAuditEventType ∧
        record.bindings.engagementId = engagementId ∧
        record.aggregateId = event.aggregateDigest ∧
        record.transitionDigest = event.transitionDigest event.idempotencyDigest := by
  simp only [AuditRecord.binds, decide_eq_true_eq]

/-- An event and its record, with their rows. -/
structure EventPair where
  eventRow : EventRow
  auditRow : AuditRow
  event : Event SafeValue
  record : AuditRecord
  read : eventRow.event = some event
  holds : HoldsRecord auditRow record
  sequence : auditRow.sequence = record.sequence
  digest : auditRow.idempotencyDigest = event.idempotencyDigest
  sealed : Seals record event

namespace EventRow

/-- An event that is read has the columns of its row. -/
theorem event_eq {row : EventRow} (h : row.event = some event) :
    event.engagementId = row.engagementId ∧ event.idempotencyKey = row.idempotencyKey := by
  unfold EventRow.event at h
  split at h
  · split_ifs at h
    cases h
    exact ⟨rfl, rfl⟩
  · cases h

/-- The row of an event is read as the event, with its payload as it comes back from the text. -/
theorem event_row (event : Event SafeValue) (members : List (String × JsonText)) :
    (event.row members).event = some (event.withPayload (JsonText.loadsMembers members)) :=
  dif_pos ⟨event.eventType_ne, event.aggregateId_ne, event.idempotencyKey_ne⟩

end EventRow

theorem EventPair.engagementId_eq (pair : EventPair) :
    pair.event.engagementId = pair.eventRow.engagementId :=
  (EventRow.event_eq pair.read).1

theorem EventPair.key_eq (pair : EventPair) :
    pair.event.idempotencyKey = pair.eventRow.idempotencyKey :=
  (EventRow.event_eq pair.read).2

/-- The stream of an engagement, as a list of pairs. -/
structure PairedStream (db : EventDatabase) (engagementId : UUID) (pairs : List EventPair) :
    Prop where
  events : db.eventRows engagementId = pairs.map EventPair.eventRow
  rows : db.audit.orderedRows (controlPlaneAuditStreamId engagementId) =
    pairs.map EventPair.auditRow
  scanned : scanRows (controlPlaneAuditStreamId engagementId) 1 auditGenesisDigest
    (db.audit.orderedRows (controlPlaneAuditStreamId engagementId)) =
      (pairs.map EventPair.record, true)
  head : headBound (pairs.map EventPair.record)
    (db.audit.headRow (controlPlaneAuditStreamId engagementId)) = true
  sizes : ∀ row ∈ db.audit.streamRows (controlPlaneAuditStreamId engagementId),
    row.recordJson.utf8ByteSize ≤ eventAuditLimits.maxRecordBytes

/-- Every engagement has its pairs. -/
structure Paired (db : EventDatabase) : Prop where
  keys : (db.events.map EventRow.idempotencyKey).Nodup
  numbered : db.audit.Numbered
  streams : ∀ engagementId, ∃ pairs, PairedStream db engagementId pairs

theorem paired_empty : Paired EventDatabase.empty where
  keys := List.nodup_nil
  numbered := by simp [AuditDatabase.Numbered, EventDatabase.empty, AuditDatabase.empty,
    AuditDatabase.streamRows]
  streams _ := ⟨[], rfl, rfl, rfl, rfl, by simp [EventDatabase.empty, AuditDatabase.empty,
    AuditDatabase.streamRows]⟩

namespace PairedStream

variable {db : EventDatabase} {engagementId : UUID} {pairs : List EventPair}

theorem engagementId_of_mem (h : PairedStream db engagementId pairs) {pair : EventPair}
    (hpair : pair ∈ pairs) : pair.event.engagementId = engagementId := by
  have hrow : pair.eventRow ∈ db.eventRows engagementId := by
    rw [h.events]
    exact List.mem_map_of_mem hpair
  rw [pair.engagementId_eq]
  simpa using (List.mem_filter.1 hrow).2

theorem mem_of_row (h : PairedStream db engagementId pairs) {row : EventRow}
    (hrow : row ∈ db.events) (hid : row.engagementId = engagementId) :
    ∃ pair ∈ pairs, pair.eventRow = row := by
  have hmem : row ∈ db.eventRows engagementId := List.mem_filter.2 ⟨hrow, by simpa using hid⟩
  rw [h.events] at hmem
  exact List.mem_map.1 hmem

theorem mem_of_auditRow (h : PairedStream db engagementId pairs) {row : AuditRow}
    (hrow : row ∈ db.audit.streamRows (controlPlaneAuditStreamId engagementId)) :
    ∃ pair ∈ pairs, pair.auditRow = row := by
  have hmem : row ∈ db.audit.orderedRows (controlPlaneAuditStreamId engagementId) :=
    (Table.mem_orderBy AuditRow.sequence).2 hrow
  rw [h.rows] at hmem
  exact List.mem_map.1 hmem

theorem storedRecords (h : PairedStream db engagementId pairs) :
    db.audit.storedRecords (controlPlaneAuditStreamId engagementId) =
      pairs.map EventPair.record :=
  filterMap_eq_of_forall₂ (scanRows_ok h.scanned).1

theorem length (h : PairedStream db engagementId pairs) :
    (db.audit.streamRows (controlPlaneAuditStreamId engagementId)).length = pairs.length := by
  have hrows := congrArg List.length h.rows
  rwa [AuditDatabase.orderedRows, Table.length_orderBy, List.length_map] at hrows

/-- The stream is as sound as a verification asks but for its length. -/
theorem verified_iff (h : PairedStream db engagementId pairs) (now : Time)
    (trusted : AuditCheckpoint) :
    (db.audit.verifyLocked eventAuditLimits (controlPlaneAuditStreamId engagementId) now
        (some trusted)).status = .verified ↔
      pairs.length ≤ 100000 ∧ checkpointFailure (controlPlaneAuditStreamId engagementId) now
        (pairs.map EventPair.record) trusted = none := by
  rw [verifyLocked_verified, exceedsLimits_eq_false, h.length]
  constructor
  · rintro ⟨⟨hlength, -⟩, records, hscan, -, hfailure⟩
    obtain rfl : pairs.map EventPair.record = records :=
      (Prod.mk.inj (h.scanned.symm.trans hscan)).1
    exact ⟨hlength, hfailure⟩
  · rintro ⟨hlength, hfailure⟩
    exact ⟨⟨hlength, h.sizes⟩, _, h.scanned, h.head, hfailure⟩

end PairedStream

/-! ## What the lookups find -/

section Lookups

variable (hinj : Function.Injective (canonicalDigest : EventIdempotency → Digest))

include hinj

variable {π : Type}

theorem idempotencyDigest_eq_iff {ρ : Type} {a : Event π} {b : Event ρ}
    (h : a.engagementId = b.engagementId) :
    a.idempotencyDigest = b.idempotencyDigest ↔ a.idempotencyKey = b.idempotencyKey := by
  constructor
  · intro heq
    exact (EventIdempotency.mk.inj (hinj heq)).2
  · intro hkey
    rw [Event.idempotencyDigest, Event.idempotencyDigest, h, hkey]

variable {db : EventDatabase} {engagementId : UUID} {pairs : List EventPair}

/-- The pairs of a stream have distinct digests. -/
theorem PairedStream.nodup_digests (h : PairedStream db engagementId pairs)
    (hkeys : (db.events.map EventRow.idempotencyKey).Nodup) :
    (pairs.map fun pair => pair.auditRow.idempotencyDigest).Nodup := by
  have hrows : ((db.eventRows engagementId).map EventRow.idempotencyKey).Nodup :=
    hkeys.sublist (List.filter_sublist.map _)
  rw [h.events, List.map_map] at hrows
  refine List.Nodup.map_on (fun a ha b hb heq => ?_) (List.Nodup.of_map _ hrows)
  rw [a.digest, b.digest, idempotencyDigest_eq_iff hinj
    ((h.engagementId_of_mem ha).trans (h.engagementId_of_mem hb).symm), a.key_eq, b.key_eq] at heq
  exact List.inj_on_of_nodup_map hrows ha hb heq

/-- The check of the pairs passes, and returns their events. -/
theorem PairedStream.assertPairs (h : PairedStream db engagementId pairs)
    (hkeys : (db.events.map EventRow.idempotencyKey).Nodup) :
    db.assertAuthoritativePairs engagementId (controlPlaneAuditStreamId engagementId) =
      .ok (pairs.map EventPair.event) := by
  have hevents : db.readEvents engagementId = .ok (pairs.map EventPair.event) := by
    rw [EventDatabase.readEvents, h.events, mapM_eq_ok, List.forall₂_map_left_iff,
      List.forall₂_map_right_iff]
    exact List.forall₂_same.2 fun pair _ => orRaise_eq_ok.2 pair.read
  have hrecords : db.readRecords (controlPlaneAuditStreamId engagementId) =
      .ok (pairs.map fun pair => (pair.auditRow.idempotencyDigest, pair.record)) := by
    rw [EventDatabase.readRecords, h.rows, mapM_eq_ok, List.forall₂_map_left_iff,
      List.forall₂_map_right_iff]
    refine List.forall₂_same.2 fun pair _ => ?_
    rw [bind_eq_ok]
    exact ⟨pair.record, orRaise_eq_ok.2 pair.holds.1, rfl⟩
  have hbound : ((pairs.map EventPair.event).all fun event => event.isRecorded engagementId
      (pairs.map fun pair => (pair.auditRow.idempotencyDigest, pair.record))) = true := by
    rw [List.all_map, List.all_eq_true]
    intro pair hpair
    have hlookup := Table.lookup_map (fun pair : EventPair => pair.auditRow.idempotencyDigest)
      EventPair.record (h.nodup_digests hinj hkeys) hpair
    rw [pair.digest] at hlookup
    simp only [Function.comp_apply, Event.isRecorded, hlookup]
    rw [← h.engagementId_of_mem hpair]
    exact pair.sealed.binds
  simp only [EventDatabase.assertAuthoritativePairs, bind_eq_ok, raiseIf_eq_ok, pure_eq_ok]
  exact ⟨_, hevents, _, hrecords, (), by simp, (), by simp only [hbound, reduceCtorEq,
    not_false_eq_true], rfl⟩

/-- The audit chain holds the digest of an event exactly when its engagement holds its key. -/
theorem PairedStream.containsIdempotency_iff (h : PairedStream db engagementId pairs)
    {event : Event π} (hid : event.engagementId = engagementId) :
    db.audit.containsIdempotency (controlPlaneAuditStreamId engagementId)
        event.idempotencyDigest = true ↔
      ∃ row ∈ db.events, row.engagementId = engagementId ∧
        row.idempotencyKey = event.idempotencyKey := by
  simp only [AuditDatabase.containsIdempotency, List.any_eq_true, decide_eq_true_eq]
  constructor
  · rintro ⟨row, hrow, hstream, hdigest⟩
    obtain ⟨pair, hpair, rfl⟩ := h.mem_of_auditRow
      (List.mem_filter.2 ⟨hrow, by simpa using hstream⟩)
    have hsame := h.engagementId_of_mem hpair
    rw [pair.digest, idempotencyDigest_eq_iff hinj (hsame.trans hid.symm)] at hdigest
    refine ⟨pair.eventRow, ?_, ?_, ?_⟩
    · have hmem : pair.eventRow ∈ db.eventRows engagementId := by
        rw [h.events]
        exact List.mem_map_of_mem hpair
      exact (List.mem_filter.1 hmem).1
    · rw [← pair.engagementId_eq, hsame]
    · rw [← pair.key_eq, hdigest]
  · rintro ⟨row, hrow, hengagement, hkey⟩
    obtain ⟨pair, hpair, rfl⟩ := h.mem_of_row hrow hengagement
    have hmem : pair.auditRow ∈ db.audit.orderedRows (controlPlaneAuditStreamId engagementId) := by
      rw [h.rows]
      exact List.mem_map_of_mem hpair
    have hstored := List.mem_filter.1 ((Table.mem_orderBy AuditRow.sequence).1 hmem)
    refine ⟨pair.auditRow, hstored.1, by simpa using hstored.2, ?_⟩
    rw [pair.digest, idempotencyDigest_eq_iff hinj ((h.engagementId_of_mem hpair).trans hid.symm),
      pair.key_eq, hkey]

/-- A key that an event of another engagement holds is the key of no event of this one. -/
theorem PairedStream.contains_of_keyRow (h : PairedStream db engagementId pairs)
    (hkeys : (db.events.map EventRow.idempotencyKey).Nodup) {event : Event π}
    (hid : event.engagementId = engagementId) {row : EventRow}
    (hrow : db.keyRow event.idempotencyKey = some row) :
    db.audit.containsIdempotency (controlPlaneAuditStreamId engagementId)
      event.idempotencyDigest = true ↔ row.engagementId = engagementId := by
  have hmem := List.mem_of_find?_eq_some hrow
  have hkey : row.idempotencyKey = event.idempotencyKey := by
    simpa using List.find?_some hrow
  rw [h.containsIdempotency_iff hinj hid]
  constructor
  · rintro ⟨row', hmem', hengagement, hkey'⟩
    rwa [Table.eq_of_key hkeys hmem hmem' (hkey.trans hkey'.symm)]
  · intro hengagement
    exact ⟨row, hmem, hengagement, hkey⟩

/-- The chain does not hold the digest of a key that no event has. -/
theorem PairedStream.not_contains_of_keyRow (h : PairedStream db engagementId pairs)
    {event : Event π} (hid : event.engagementId = engagementId)
    (hrow : db.keyRow event.idempotencyKey = none) :
    db.audit.containsIdempotency (controlPlaneAuditStreamId engagementId)
      event.idempotencyDigest = false := by
  rw [← Bool.not_eq_true, h.containsIdempotency_iff hinj hid]
  rintro ⟨row, hmem, -, hkey⟩
  exact List.find?_eq_none.1 hrow row hmem (by simpa using hkey)

/-- The row of a repeated plan is the one of its pair. -/
theorem PairedStream.auditRow {pair : EventPair} (h : PairedStream db engagementId pairs)
    (hkeys : (db.events.map EventRow.idempotencyKey).Nodup) (hpair : pair ∈ pairs)
    {plan : AuditAppendPlan} (hstream : plan.streamId = controlPlaneAuditStreamId engagementId)
    (hdigest : plan.idempotencyDigest = pair.event.idempotencyDigest) :
    db.audit.idempotencyRow plan = some pair.auditRow := by
  have hmem : pair.auditRow ∈ db.audit.orderedRows (controlPlaneAuditStreamId engagementId) := by
    rw [h.rows]
    exact List.mem_map_of_mem hpair
  obtain ⟨hstored, hid⟩ := List.mem_filter.1 ((Table.mem_orderBy AuditRow.sequence).1 hmem)
  have hsome : (db.audit.idempotencyRow plan).isSome = true := by
    rw [AuditDatabase.idempotencyRow, List.find?_isSome]
    exact ⟨_, hstored, by simpa [hstream, hdigest, pair.digest] using hid⟩
  obtain ⟨row, hrow⟩ := Option.isSome_iff_exists.1 hsome
  have hfound := List.find?_some hrow
  simp only [decide_eq_true_eq] at hfound
  obtain ⟨pair', hpair', rfl⟩ := h.mem_of_auditRow (List.mem_filter.2
    ⟨List.mem_of_find?_eq_some hrow, by simpa [hstream] using hfound.1⟩)
  have hsame : pair' = pair := List.inj_on_of_nodup_map (h.nodup_digests hinj hkeys) hpair' hpair
    (hfound.2.trans (hdigest.trans pair.digest.symm))
  rw [hrow, hsame]

end Lookups

/-- The row of a committed key is the one of its pair. -/
theorem PairedStream.keyRow {db : EventDatabase} {engagementId : UUID} {pairs : List EventPair}
    {pair : EventPair} (h : PairedStream db engagementId pairs)
    (hkeys : (db.events.map EventRow.idempotencyKey).Nodup) (hpair : pair ∈ pairs) :
    db.keyRow pair.event.idempotencyKey = some pair.eventRow := by
  have hmem : pair.eventRow ∈ db.events := by
    have hrow : pair.eventRow ∈ db.eventRows engagementId := by
      rw [h.events]
      exact List.mem_map_of_mem hpair
    exact (List.mem_filter.1 hrow).1
  rw [EventDatabase.keyRow, pair.key_eq]
  exact Table.find?_key hkeys hmem

/-! ## What an append writes -/

variable {plan : AuditAppendPlan}

theorem idempotencyRow_isSome {db : AuditDatabase} : (db.idempotencyRow plan).isSome =
      db.containsIdempotency plan.streamId plan.idempotencyDigest := by
  rw [Bool.eq_iff_iff]
  simp [AuditDatabase.idempotencyRow, AuditDatabase.containsIdempotency]

variable {bindings : AuditStateBindings}

/-- A plan carries what is known of its event. -/
theorem auditPlan_ok {deadline : Time} (h : auditPlan event bindings deadline = .ok plan) :
    (event.occurredAt < deadline ∧ deadline ≤ event.occurredAt + 300000000) ∧
      plan.streamId = controlPlaneAuditStreamId event.engagementId ∧
      plan.idempotencyDigest = event.idempotencyDigest ∧ plan.deadline = deadline ∧
      plan.occurredAt = event.occurredAt ∧ plan.bindings = bindings ∧
      plan.outcome = .committed ∧ plan.cleanupVerified = true ∧
      plan.eventType = controlPlaneAuditEventType ∧ plan.aggregateId = event.aggregateDigest ∧
      plan.transitionDigest = event.transitionDigest event.idempotencyDigest := by
  unfold auditPlan at h
  split_ifs at h with hwindow
  cases h
  exact ⟨hwindow, rfl, rfl, rfl, rfl, rfl, rfl, rfl, rfl, rfl, rfl⟩

/-- A sealed record continues the chain and carries its plan. -/
theorem sealRecord_ok {verification : AuditVerificationResult} {now : Time}
    (h : AuditDatabase.sealRecord plan verification now = .ok record) :
    plan.occurredAt ≤ now ∧ record.streamId = plan.streamId ∧
      record.sequence = verification.recordCount + 1 ∧
      record.previousDigest = verification.headDigest ∧
      AuditDatabase.repeatsPlan record plan = true := by
  unfold AuditDatabase.sealRecord at h
  split_ifs at h with hnow
  cases h
  exact ⟨hnow, rfl, rfl, rfl, by simp [AuditDatabase.repeatsPlan]⟩

theorem append_new {db db' : AuditDatabase} {limits : AuditLimits} {now : Time}
    {trusted : Option AuditCheckpoint} (h : db.append limits plan now trusted = .ok (db', record))
    (hnew : db.idempotencyRow plan = none) : now < plan.deadline ∧
      AuditDatabase.sealRecord plan (db.verifyLocked limits plan.streamId now trusted) now =
        .ok record ∧
      (AuditRecordJson.modelDumpJson record).utf8ByteSize ≤ limits.maxRecordBytes ∧
      db' = db.withRecord record plan.idempotencyDigest := by
  simp only [AuditDatabase.append, hnew, bind_eq_ok, raiseIf_eq_ok, orRaise_eq_ok, pure_eq_ok,
    Table.insert_eq_some, Prod.mk.injEq, not_lt, not_le] at h
  obtain ⟨-, -, -, hdeadline, -, -, sealed, hseal, -, hsize, -, ⟨-, rfl⟩, rfl, rfl⟩ := h
  exact ⟨hdeadline, hseal, hsize, rfl⟩

/-- The record of a plan seals its event. -/
theorem seals_of_repeatsPlan {deadline : Time}
    (hplan : auditPlan event bindings deadline = .ok plan)
    (hbindings : bindings.engagementId = event.engagementId)
    (h : AuditDatabase.repeatsPlan record plan = true) : Seals record event := by
  obtain ⟨-, hstream, -, -, hoccurred, hbound, houtcome, hcleanup, htype, haggregate,
    htransition⟩ := auditPlan_ok hplan
  simp only [AuditDatabase.repeatsPlan, decide_eq_true_eq] at h
  obtain ⟨-, htype', haggregate', htransition', hbound', houtcome', hcleanup', hoccurred'⟩ := h
  have hbinds : record.binds event.engagementId event = true :=
    binds_iff.2 ⟨htype'.trans htype, by rw [hbound', hbound, hbindings],
      haggregate'.trans haggregate, htransition'.trans htransition⟩
  exact ⟨hbinds, houtcome'.trans houtcome, hcleanup'.trans hcleanup, hoccurred'.trans hoccurred⟩

variable {payload : List (String × SafeValue)}

theorem transitionDigest_withPayload
    (h : SafeValue.canonicalMembers payload = SafeValue.canonicalMembers event.payload)
    (idempotencyDigest : Digest) : (event.withPayload payload).transitionDigest idempotencyDigest =
      event.transitionDigest idempotencyDigest := by
  have hcanonical : (event.withPayload payload).canonical = event.canonical := by
    simp only [Event.canonical, Event.withPayload, h]
  rw [Event.transitionDigest, Event.transitionDigest, hcanonical]

/-- An event sealed with one payload is sealed with another of the same canonical form. -/
theorem Seals.withPayload (h : Seals record event)
    (hpayload : SafeValue.canonicalMembers payload = SafeValue.canonicalMembers event.payload) :
    Seals record (event.withPayload payload) := by
  refine ⟨?_, h.outcome, h.cleanupVerified, h.occurredAt⟩
  obtain ⟨htype, hengagement, haggregate, htransition⟩ := binds_iff.1 h.binds
  exact binds_iff.2 ⟨htype, hengagement, haggregate,
    htransition.trans (transitionDigest_withPayload hpayload _).symm⟩

/-! ## A new pair -/

variable {idempotencyDigest : Digest}

theorem headRow_withRecord_of_ne {db : AuditDatabase} {streamId : Digest}
    (h : record.streamId ≠ streamId) :
    (db.withRecord record idempotencyDigest).headRow streamId = db.headRow streamId := by
  rw [AuditDatabase.headRow, AuditDatabase.withRecord, AuditDatabase.putHead,
    AuditDatabase.headRow]
  split_ifs
  · refine Table.find?_update fun head _ hhead => ?_
    simp only [decide_eq_true_eq] at hhead
    simp [hhead, h]
  · simp [List.find?_append, h]

variable {db : EventDatabase} {engagementId : UUID} {pairs : List EventPair}

/-- The database after a new pair. -/
def EventDatabase.withPair (db : EventDatabase) (row : EventRow) (record : AuditRecord)
    (idempotencyDigest : Digest) : EventDatabase where
  events := db.events ++ [row]
  audit := db.audit.withRecord record idempotencyDigest

/-- A new pair ends the list of its engagement. -/
theorem PairedStream.withPair (h : PairedStream db engagementId pairs)
    (hnumbered : db.audit.Numbered)
    (hread : ∀ record : AuditRecord, AuditRecordJson.modelValidateJson
      (AuditRecordJson.modelDumpJson record) = some record) (pair : EventPair)
    (hengagement : pair.event.engagementId = engagementId)
    (hstream : pair.record.streamId = controlPlaneAuditStreamId engagementId)
    (hrow : pair.auditRow = AuditDatabase.recordRow pair.record pair.event.idempotencyDigest)
    (hsequence : pair.record.sequence = pairs.length + 1)
    (hprevious : pair.record.previousDigest = chainHead (pairs.map EventPair.record))
    (hsize : (AuditRecordJson.modelDumpJson pair.record).utf8ByteSize ≤
      eventAuditLimits.maxRecordBytes) :
    PairedStream (db.withPair pair.eventRow pair.record pair.event.idempotencyDigest) engagementId
      (pairs ++ [pair]) := by
  have hlast : ∀ row ∈ db.audit.streamRows pair.record.streamId,
      row.sequence ≤ pair.record.sequence := by
    intro row hmem
    have hle := hnumbered _ row hmem
    rw [hstream, h.length] at hle
    omega
  have hlength : pair.record.sequence = (pairs.map EventPair.record).length + 1 := by
    rw [List.length_map, hsequence]
  obtain ⟨hevents, hrows, hscanned, hhead, hsizes⟩ := h
  rw [← hstream] at hrows hscanned hhead hsizes
  constructor
  · rw [EventDatabase.eventRows, EventDatabase.withPair, List.filter_append,
      List.filter_singleton, List.map_append]
    simp [← hevents, EventDatabase.eventRows, ← pair.engagementId_eq, hengagement]
  · rw [← hstream, EventDatabase.withPair, orderedRows_withRecord hlast, hrows, ← hrow,
      List.map_append, List.map_singleton]
  · rw [← hstream, List.map_append, List.map_singleton]
    exact scanRows_withRecord (hread _) hscanned hlength hprevious hlast
  · rw [← hstream, List.map_append, List.map_singleton]
    exact headBound_withRecord hlength
  · intro row hmem
    rw [← hstream, EventDatabase.withPair, streamRows_withRecord] at hmem
    rcases List.mem_append.1 hmem with hmem | hmem
    · exact hsizes row hmem
    · rw [List.mem_singleton.1 hmem]
      exact hsize

/-- A new pair leaves the other engagements as they were. -/
theorem PairedStream.withPair_of_ne (h : PairedStream db engagementId pairs) {row : EventRow}
    (hengagement : row.engagementId ≠ engagementId)
    (hstream : record.streamId ≠ controlPlaneAuditStreamId engagementId) :
    PairedStream (db.withPair row record idempotencyDigest) engagementId pairs := by
  have hrows : (db.audit.withRecord record idempotencyDigest).streamRows
      (controlPlaneAuditStreamId engagementId) =
        db.audit.streamRows (controlPlaneAuditStreamId engagementId) :=
    streamRows_withRecord_of_ne hstream
  have hordered : (db.withPair row record idempotencyDigest).audit.orderedRows
      (controlPlaneAuditStreamId engagementId) =
        db.audit.orderedRows (controlPlaneAuditStreamId engagementId) := by
    rw [AuditDatabase.orderedRows, EventDatabase.withPair, hrows, AuditDatabase.orderedRows]
  constructor
  · rw [← h.events, EventDatabase.eventRows, EventDatabase.withPair, List.filter_append,
      List.filter_singleton, EventDatabase.eventRows]
    simp [hengagement]
  · rw [hordered, h.rows]
  · rw [hordered, h.scanned]
  · rw [EventDatabase.withPair, headRow_withRecord_of_ne hstream]
    exact h.head
  · rw [EventDatabase.withPair, hrows]
    exact h.sizes

/-! ## What a call does -/

section Calls

variable [PythonAlnum] {redactor : Redactor} {call : AppendAuthoritative} {db' : EventDatabase}
variable {event : Event SafeValue}

theorem safeEvent_ok (h : EventDatabase.safeEvent redactor call = .ok event) :
    call.bindings.engagementId = call.event.engagementId ∧
      redactor.members [] call.event.payload = .ok event.payload ∧
      event = call.event.withPayload event.payload := by
  simp only [EventDatabase.safeEvent, bind_eq_ok, raiseIf_eq_ok, mapError_eq_ok, pure_eq_ok,
    not_not] at h
  obtain ⟨-, hbindings, payload, hpayload, rfl⟩ := h
  exact ⟨hbindings, hpayload, rfl⟩

theorem safeEvent_engagement (h : EventDatabase.safeEvent redactor call = .ok event) :
    call.bindings.engagementId = event.engagementId := by
  obtain ⟨hbindings, -, heq⟩ := safeEvent_ok h
  rw [hbindings, heq]
  rfl

/-- What a call reads before it writes. -/
theorem existingRow_ok {row : Option EventRow} (h : db.existingRow call event = .ok row) :
    (db.audit.verifyLocked eventAuditLimits (controlPlaneAuditStreamId event.engagementId)
        call.now (some call.trustedCheckpoint)).status = .verified ∧
      row = db.keyRow event.idempotencyKey ∧
      row.isSome = db.audit.containsIdempotency (controlPlaneAuditStreamId event.engagementId)
        event.idempotencyDigest := by
  simp only [EventDatabase.existingRow, EventDatabase.requireVerified, bind_eq_ok,
    raiseIf_eq_ok, pure_eq_ok, not_not] at h
  obtain ⟨-, hverified, -, -, -, hsome, rfl⟩ := h
  exact ⟨hverified, rfl, hsome⟩

/-- The record that a call repeats is one of a verified stream. -/
theorem appendRecord_ok {audit : AuditDatabase} : db.appendRecord call plan = .ok (audit, record) ↔
      db.audit.append eventAuditLimits plan call.now (some call.trustedCheckpoint) =
        .ok (audit, record) := by
  rw [EventDatabase.appendRecord, mapError_eq_ok]

/-- A call that returns repeats an event, or adds a new one with its record. -/
theorem appendAuthoritative_ok {appended : Appended}
    (h : db.appendAuthoritative redactor call = (db', .ok appended)) :
    ∃ event, EventDatabase.safeEvent redactor call = .ok event ∧
      (db.audit.verifyLocked eventAuditLimits (controlPlaneAuditStreamId event.engagementId)
        call.now (some call.trustedCheckpoint)).status = .verified ∧
      ((db.keyRow event.idempotencyKey).isSome = true ∧ db' = db ∧ appended.appended = false ∨
        ∃ plan members, db.keyRow event.idempotencyKey = none ∧
          auditPlan event call.bindings call.deadline = .ok plan ∧
          SafeValue.dumpsMembers event.payload = some members ∧
          db.audit.append eventAuditLimits plan call.now (some call.trustedCheckpoint) =
            .ok (db'.audit, appended.record) ∧
          db.audit.idempotencyRow plan = none ∧
          db' = db.withPair (event.row members) appended.record event.idempotencyDigest ∧
          appended.event = event ∧ appended.appended = true) := by
  rw [EventDatabase.appendAuthoritative, reading_eq_ok] at h
  obtain ⟨event, hsafe, h⟩ := h
  rw [transaction_eq_ok, EventDatabase.appendLocked, reading_eq_ok] at h
  obtain ⟨found, hfound, h⟩ := h
  obtain ⟨hverified, hkey, hsome⟩ := existingRow_ok hfound
  refine ⟨event, hsafe, hverified, ?_⟩
  cases found with
  | some row =>
    simp only [reading_eq_ok, Prod.mk.injEq, Except.ok.injEq, Prod.exists] at h
    obtain ⟨existing, plan, hrepeated, audit, record, hrecord, rfl, rfl⟩ := h
    simp only [EventDatabase.repeated, assertIdempotent, bind_eq_ok, orRaise_eq_ok,
      raiseIf_eq_ok, pure_eq_ok, Prod.mk.injEq, not_or, not_not] at hrepeated
    obtain ⟨existing', hread, -, ⟨hengagement, -⟩, plan', hplan, rfl, rfl⟩ := hrepeated
    obtain ⟨-, hstream, hdigest, -⟩ := auditPlan_ok hplan
    have hexisting : existing'.idempotencyDigest = event.idempotencyDigest := by
      have hrow := List.find?_some hkey.symm
      rw [Event.idempotencyDigest, hengagement, (EventRow.event_eq hread).2,
        of_decide_eq_true hrow]
      rfl
    have hheld : (db.audit.idempotencyRow plan').isSome = true := by
      rw [idempotencyRow_isSome, hstream, hdigest, hengagement, hexisting, ← hsome]
      rfl
    obtain ⟨-, ⟨-, rfl⟩ | ⟨hnone, -⟩⟩ := append_ok (appendRecord_ok.1 hrecord)
    · exact Or.inl ⟨by rw [← hkey]; rfl, rfl, rfl⟩
    · rw [hnone] at hheld
      cases hheld
  | none =>
    simp only [reading_eq_ok, Prod.mk.injEq, Except.ok.injEq, Prod.exists, orRaise_eq_ok] at h
    obtain ⟨plan, row, hprepared, events, hinsert, audit, record, hrecord, rfl, rfl⟩ := h
    simp only [EventDatabase.prepared, bind_eq_ok, orRaise_eq_ok, pure_eq_ok,
      Prod.mk.injEq] at hprepared
    obtain ⟨plan', hplan, members, hmembers, rfl, rfl⟩ := hprepared
    obtain ⟨-, hstream, hdigest, -⟩ := auditPlan_ok hplan
    have hnew : db.audit.idempotencyRow plan' = none := by
      rw [← Option.not_isSome_iff_eq_none, idempotencyRow_isSome, hstream, hdigest, ← hsome]
      simp
    have happend := appendRecord_ok.1 hrecord
    obtain ⟨-, -, -, rfl⟩ := append_new happend hnew
    obtain ⟨-, rfl⟩ := Table.insert_eq_some.1 hinsert
    exact Or.inr ⟨plan', members, hkey.symm, hplan, hmembers, happend, hnew,
      by rw [EventDatabase.withPair, hdigest], rfl, rfl⟩

/-- The pair that a new event and its record make. -/
def newPair {event : Event SafeValue} {members : List (String × JsonText)}
    (hmembers : SafeValue.dumpsMembers event.payload = some members) {record : AuditRecord}
    (hsealed : Seals record event)
    (hread : AuditRecordJson.modelValidateJson (AuditRecordJson.modelDumpJson record) =
      some record) : EventPair where
  eventRow := event.row members
  auditRow := AuditDatabase.recordRow record event.idempotencyDigest
  event := event.withPayload (JsonText.loadsMembers members)
  record := record
  read := EventRow.event_row event members
  holds := ⟨hread, rfl, rfl, rfl⟩
  sequence := rfl
  digest := rfl
  sealed := hsealed.withPayload (SafeValue.canonicalMembers_loads hmembers)

end Calls

section Steps

variable (hstream : Function.Injective (controlPlaneAuditStreamId))
  (hread : ∀ record : AuditRecord, AuditRecordJson.modelValidateJson
    (AuditRecordJson.modelDumpJson record) = some record)

include hstream hread

variable {db' : EventDatabase} {call : AppendAuthoritative}

/-- An append that adds an event adds a pair to the stream of its engagement, and leaves the
other streams as they were. -/
theorem Paired.newPair {db : EventDatabase} {members : List (String × JsonText)} (h : Paired db)
    (hbindings : call.bindings.engagementId = event.engagementId)
    (hkey : db.keyRow event.idempotencyKey = none)
    (hplan : auditPlan event call.bindings call.deadline = .ok plan)
    (hmembers : SafeValue.dumpsMembers event.payload = some members)
    (happend : db.audit.append eventAuditLimits plan call.now (some call.trustedCheckpoint) =
      .ok (db'.audit, record)) (hnew : db.audit.idempotencyRow plan = none)
    (hdb : db' = db.withPair (event.row members) record event.idempotencyDigest) :
    ∃ hsealed : Seals record event, Paired db' ∧ ∀ engagementId pairs,
      PairedStream db engagementId pairs → PairedStream db' engagementId
        (if event.engagementId = engagementId
          then pairs ++ [VulnLoom.newPair hmembers hsealed (hread record)] else pairs) := by
  obtain ⟨-, hstreamId, hdigest, -⟩ := auditPlan_ok hplan
  obtain ⟨-, hseal, hsize, -⟩ := append_new happend hnew
  obtain ⟨-, hrecordStream, hsequence, hprevious, hrepeats⟩ := sealRecord_ok hseal
  have hsealed := seals_of_repeatsPlan hplan hbindings hrepeats
  rw [hstreamId] at hrecordStream
  have hstreams : ∀ engagementId pairs, PairedStream db engagementId pairs →
      PairedStream db' engagementId (if event.engagementId = engagementId
        then pairs ++ [VulnLoom.newPair hmembers hsealed (hread record)] else pairs) := by
    intro engagementId pairs hpairs
    rw [hdb]
    split_ifs with hid
    · subst hid
      obtain ⟨hcount, hhead⟩ := verified_result (append_ok happend).1
      rw [hstreamId, hpairs.storedRecords] at hcount hhead
      rw [hstreamId] at hsequence hprevious
      rw [hcount, List.length_map] at hsequence
      rw [hhead] at hprevious
      exact hpairs.withPair h.numbered hread (VulnLoom.newPair hmembers hsealed (hread record)) rfl
        hrecordStream rfl hsequence hprevious hsize
    · refine hpairs.withPair_of_ne hid fun heq => hid ?_
      exact hstream (hrecordStream.symm.trans heq)
  refine ⟨hsealed, ⟨?_, h.numbered.append happend, fun engagementId => ?_⟩, hstreams⟩
  · rw [hdb]
    refine Table.nodup_key_concat h.keys fun row hrow heq => ?_
    exact List.find?_eq_none.1 hkey row hrow (decide_eq_true heq.symm)
  · obtain ⟨pairs, hpairs⟩ := h.streams engagementId
    exact ⟨_, hstreams engagementId pairs hpairs⟩

variable [PythonAlnum] {redactor : Redactor}

/-- Every call leaves the events paired. -/
theorem Paired.append {db : EventDatabase} {appended : Appended} (h : Paired db)
    (hcall : db.appendAuthoritative redactor call = (db', .ok appended)) : Paired db' := by
  obtain ⟨event, hsafe, -, ⟨-, rfl, -⟩ | ⟨plan, members, hkey, hplan, hmembers, happend, hnew, hdb,
    -⟩⟩ := appendAuthoritative_ok hcall
  · exact h
  · exact (h.newPair hstream hread (safeEvent_engagement hsafe) hkey hplan hmembers happend hnew
      hdb).2.1

/-- The records of a stream go on after a call, and those of other engagements stay. -/
theorem Paired.storedRecords_append {db : EventDatabase} {appended : Appended} (h : Paired db)
    (hcall : db.appendAuthoritative redactor call = (db', .ok appended)) (engagementId : UUID) :
    db.audit.storedRecords (controlPlaneAuditStreamId engagementId) <+:
        db'.audit.storedRecords (controlPlaneAuditStreamId engagementId) ∧
      (call.event.engagementId ≠ engagementId →
        db'.audit.storedRecords (controlPlaneAuditStreamId engagementId) =
          db.audit.storedRecords (controlPlaneAuditStreamId engagementId)) := by
  obtain ⟨event, hsafe, -, ⟨-, rfl, -⟩ | ⟨plan, members, hkey, hplan, hmembers, happend, hnew, hdb,
    -⟩⟩ := appendAuthoritative_ok hcall
  · exact ⟨List.prefix_refl _, fun _ => rfl⟩
  · obtain ⟨_, -, hstreams⟩ := h.newPair hstream hread (safeEvent_engagement hsafe) hkey hplan
      hmembers happend hnew hdb
    obtain ⟨pairs, hpairs⟩ := h.streams engagementId
    rw [hpairs.storedRecords, (hstreams engagementId pairs hpairs).storedRecords]
    split_ifs with hid
    · rw [List.map_append]
      refine ⟨List.prefix_append _ _, fun hne => absurd ?_ hne⟩
      rw [← hid, (safeEvent_ok hsafe).2.2]
      rfl
    · exact ⟨List.prefix_refl _, fun _ => rfl⟩

end Steps

/-! ## What is asked of a call -/

section Asked

variable [PythonAlnum] (redactor : Redactor) (db : EventDatabase) (call : AppendAuthoritative)
  (event : Event SafeValue)

/-- The call is bound to the engagement of its event, which a text can hold; its checkpoint
anchors the stream, and its deadline follows the event by five minutes at most. -/
structure Admissible : Prop where
  safe : EventDatabase.safeEvent redactor call = .ok event
  serializable : (SafeValue.dumpsMembers event.payload).isSome = true
  anchored : checkpointFailure (controlPlaneAuditStreamId event.engagementId) call.now
    (db.audit.storedRecords (controlPlaneAuditStreamId event.engagementId))
    call.trustedCheckpoint = none
  window : event.occurredAt < call.deadline ∧ call.deadline ≤ event.occurredAt + 300000000

/-- The event can be sealed now, in a record of the size that the store admits. -/
structure Sealable : Prop where
  occurred : event.occurredAt ≤ call.now
  timely : call.now < call.deadline
  fits : ∀ plan record, auditPlan event call.bindings call.deadline = .ok plan →
    AuditDatabase.sealRecord plan (db.audit.verifyLocked eventAuditLimits plan.streamId call.now
      (some call.trustedCheckpoint)) call.now = .ok record →
    (AuditRecordJson.modelDumpJson record).utf8ByteSize ≤ eventAuditLimits.maxRecordBytes

/-- A call for a new event. -/
structure NewEvent : Prop where
  admissible : Admissible redactor db call event
  unused : db.keyRow event.idempotencyKey = none
  sealable : Sealable db call event

end Asked

variable {call : AppendAuthoritative}

theorem PairedStream.admissible [PythonAlnum] {redactor : Redactor}
    {members : List (String × JsonText)} {pairs : List EventPair}
    (hpairs : PairedStream db event.engagementId pairs)
    (hsafe : EventDatabase.safeEvent redactor call = .ok event)
    (hverified : (db.audit.verifyLocked eventAuditLimits
      (controlPlaneAuditStreamId event.engagementId) call.now
      (some call.trustedCheckpoint)).status = .verified)
    (hplan : auditPlan event call.bindings call.deadline = .ok plan)
    (hmembers : SafeValue.dumpsMembers event.payload = some members) :
    Admissible redactor db call event where
  safe := hsafe
  serializable := by rw [hmembers]; rfl
  anchored := by
    rw [hpairs.storedRecords]
    exact ((hpairs.verified_iff _ _).1 hverified).2
  window := (auditPlan_ok hplan).1

/-- A record that was sealed and stored could be. -/
theorem sealable_of_append {audit : AuditDatabase}
    (hplan : auditPlan event call.bindings call.deadline = .ok plan)
    (happend : db.audit.append eventAuditLimits plan call.now (some call.trustedCheckpoint) =
      .ok (audit, record)) (hnew : db.audit.idempotencyRow plan = none) :
    Sealable db call event := by
  obtain ⟨-, -, -, hdeadline, hoccurred, -⟩ := auditPlan_ok hplan
  obtain ⟨hnow, hseal, hsize, -⟩ := append_new happend hnew
  refine ⟨hoccurred ▸ (sealRecord_ok hseal).1, hdeadline ▸ hnow, ?_⟩
  intro plan' record' hplan' hseal'
  obtain rfl := Except.ok.inj (hplan.symm.trans hplan')
  obtain rfl := Except.ok.inj (hseal.symm.trans hseal')
  exact hsize

end VulnLoom

import VulnLoom.EventPairs

/-!
# What the store committed

Beside the database, the events that calls have appended (`EventSystem.committed`). A payload with
a NaN that is not the JSON decoder's own comes back from the database as a different value, and a
stream of 100 000 records admits one more that it does not verify with; any other run keeps
`EventAgreement` (`agreement_along`).
-/

set_option linter.unusedSectionVars false

open Transition

namespace VulnLoom

section

variable [EventDigests] [AuditDigests] [AuditRecordJson]

/-! ## Repeating an event -/

section Repeats

variable [PythonAlnum]

/-- A committed event brought again, under the bindings of its record. -/
structure SameEvent (redactor : Redactor) (requested : Event PyValue)
    (bindings : AuditStateBindings) (deadline : Time) (event : Event SafeValue)
    (record : AuditRecord) : Prop where
  engagementId : requested.engagementId = event.engagementId
  eventType : requested.eventType = event.eventType
  aggregateId : requested.aggregateId = event.aggregateId
  idempotencyKey : requested.idempotencyKey = event.idempotencyKey
  payload : redactor.members [] requested.payload = .ok event.payload
  bindings : bindings = record.bindings
  window : requested.occurredAt < deadline ∧ deadline ≤ requested.occurredAt + 300000000

/-- A call that appends a committed event again, with a checkpoint of its stream. -/
structure Repeats (redactor : Redactor) (db : EventDatabase) (call : AppendAuthoritative)
    (event : Event SafeValue) (record : AuditRecord) : Prop extends
    SameEvent redactor call.event call.bindings call.deadline event record where
  anchored : checkpointFailure (controlPlaneAuditStreamId event.engagementId) call.now
    (db.audit.storedRecords (controlPlaneAuditStreamId event.engagementId))
    call.trustedCheckpoint = none

variable {redactor : Redactor} {db : EventDatabase} {call : AppendAuthoritative}
  {engagementId : UUID} {pairs : List EventPair} {pair : EventPair}

theorem Repeats.safeEvent (h : Repeats redactor db call pair.event pair.record) :
    EventDatabase.safeEvent redactor call =
      .ok (call.event.withPayload pair.event.payload) := by
  have hbindings : call.bindings.engagementId = call.event.engagementId := by
    rw [h.bindings, h.engagementId]
    exact (binds_iff.1 pair.sealed.binds).2.1
  simp only [EventDatabase.safeEvent, bind_eq_ok, raiseIf_eq_ok, mapError_eq_ok, pure_eq_ok,
    not_not]
  exact ⟨(), hbindings, _, h.payload, rfl⟩

/-- The plan of a repeated event is the plan that its record was sealed for. -/
theorem Repeats.plan (h : Repeats redactor db call pair.event pair.record)
    (hself : SafeValue.equalMembers pair.event.payload pair.event.payload = true) :
    ∃ plan, EventDatabase.repeated call (call.event.withPayload pair.event.payload) pair.eventRow =
        .ok (pair.event, plan) ∧
      plan.streamId = controlPlaneAuditStreamId pair.event.engagementId ∧
      plan.idempotencyDigest = pair.event.idempotencyDigest ∧
      (pair.record.streamId = plan.streamId →
        AuditDatabase.repeatsPlan pair.record plan = true) := by
  obtain ⟨plan, hplan⟩ : ∃ plan, auditPlan pair.event call.bindings
      (pair.event.occurredAt + (call.deadline - call.event.occurredAt)) = .ok plan := by
    obtain ⟨hafter, hbefore⟩ := h.window
    have hpositive : 0 < call.deadline - call.event.occurredAt := Nat.sub_pos_of_lt hafter
    have hbound : call.deadline - call.event.occurredAt ≤ 300000000 :=
      Nat.sub_le_of_le_add (Nat.add_comm _ _ ▸ hbefore)
    exact ⟨_, dif_pos ⟨Nat.lt_add_of_pos_right hpositive, Nat.add_le_add_left hbound _⟩⟩
  obtain ⟨-, hstream, hdigest, -, hoccurred, hbound, houtcome, hcleanup, htype, haggregate,
    htransition⟩ := auditPlan_ok hplan
  refine ⟨plan, ?_, hstream, hdigest, fun hrecord => ?_⟩
  · simp only [EventDatabase.repeated, assertIdempotent, bind_eq_ok, orRaise_eq_ok,
      raiseIf_eq_ok, pure_eq_ok, not_or, not_not, Bool.not_eq_false]
    exact ⟨_, pair.read, (), ⟨h.engagementId.symm, h.eventType.symm, h.aggregateId.symm, hself⟩,
      plan, hplan, rfl⟩
  · obtain ⟨htype', hengagement, haggregate', htransition'⟩ := binds_iff.1 pair.sealed.binds
    simp only [AuditDatabase.repeatsPlan, decide_eq_true_eq]
    exact ⟨hrecord, htype'.trans htype.symm, haggregate'.trans haggregate.symm,
      htransition'.trans htransition.symm, (hbound.trans h.bindings).symm,
      pair.sealed.outcome.trans houtcome.symm, pair.sealed.cleanupVerified.trans hcleanup.symm,
      pair.sealed.occurredAt.trans hoccurred.symm⟩

/-- A committed event that is appended again is answered with its record, and nothing is
written. -/
theorem PairedStream.repeats
    (hinj : Function.Injective (canonicalDigest : EventIdempotency → Digest))
    (h : PairedStream db engagementId pairs)
    (hkeys : (db.events.map EventRow.idempotencyKey).Nodup) (hlength : pairs.length ≤ 100000)
    (hpair : pair ∈ pairs)
    (hself : SafeValue.equalMembers pair.event.payload pair.event.payload = true)
    (hcall : Repeats redactor db call pair.event pair.record) :
    db.appendAuthoritative redactor call = (db, .ok ⟨pair.event, pair.record, false⟩) := by
  have hid := h.engagementId_of_mem hpair
  subst hid
  have hverified := (h.verified_iff _ _).2 ⟨hlength, h.storedRecords ▸ hcall.anchored⟩
  obtain ⟨plan, hrepeated, hstream, hdigest, hrepeats⟩ := hcall.plan hself
  have hrecord : pair.record.streamId = plan.streamId := by
    rw [hstream]
    exact (scanRows_ok h.scanned).2.1 _ (List.mem_map_of_mem hpair)
  have hrow := h.keyRow hkeys hpair
  rw [← hcall.idempotencyKey] at hrow
  have hcontains : db.audit.containsIdempotency
      (controlPlaneAuditStreamId pair.event.engagementId) call.event.idempotencyDigest = true :=
    (h.contains_of_keyRow hinj hkeys hcall.engagementId hrow).2 pair.engagementId_eq.symm
  have hexisting : db.existingRow call (call.event.withPayload pair.event.payload) =
      .ok (some pair.eventRow) := by
    simp only [EventDatabase.existingRow, EventDatabase.requireVerified, bind_eq_ok,
      raiseIf_eq_ok, pure_eq_ok, not_not]
    refine ⟨(), ?_, pairs.map EventPair.event, ?_, (), ?_, ?_⟩
    · rw [← hcall.engagementId] at hverified
      exact hverified
    · rw [← hcall.engagementId] at h
      exact h.assertPairs hinj hkeys
    · rw [← hcall.engagementId] at hcontains
      exact (congrArg Option.isSome hrow).trans hcontains.symm
    · exact hrow
  have happend : db.appendRecord call plan = .ok (db.audit, pair.record) := by
    rw [appendRecord_ok, AuditDatabase.append, hstream,
      h.auditRow hinj hkeys hpair hstream hdigest]
    simp only [bind_eq_ok, raiseIf_eq_ok, orRaise_eq_ok, pure_eq_ok, not_not]
    exact ⟨(), hverified, pair.record, pair.holds.1, (), by simp [hrepeats hrecord], rfl⟩
  rw [EventDatabase.appendAuthoritative, hcall.safeEvent, reading, transaction_eq_ok,
    EventDatabase.appendLocked, hexisting, reading]
  simp only [reading, hrepeated, happend]

end Repeats

/-! ## Runs -/

/-- The database, and the events that calls have appended to it, in order. -/
structure EventSystem where
  db : EventDatabase
  committed : List (Event SafeValue)

namespace EventSystem

def empty : EventSystem :=
  ⟨.empty, []⟩

/-- The events appended for an engagement. -/
def committedIn (system : EventSystem) (engagementId : UUID) : List (Event SafeValue) :=
  system.committed.filter fun event => event.engagementId = engagementId

/-- The events after a call. -/
def commit (committed : List (Event SafeValue)) : Except EventError Appended →
    List (Event SafeValue)
  | .ok appended => if appended.appended then committed ++ [appended.event] else committed
  | .error _ => committed

def append [PythonAlnum] (redactor : Redactor) (system : EventSystem)
    (call : AppendAuthoritative) : EventSystem :=
  let answer := system.db.appendAuthoritative redactor call
  ⟨answer.1, commit system.committed answer.2⟩

end EventSystem

variable [PythonAlnum] (redactor : Redactor)

/-- The committed events and the records of the chain agree. -/
structure EventAgreement (system : EventSystem) : Prop where
  /-- the rows of an engagement hold its events, in order -/
  events : ∀ engagementId, (system.db.eventRows engagementId).map EventRow.event =
    (system.committedIn engagementId).map some
  /-- the rows of its stream hold one record for each of them, in order -/
  records : ∀ engagementId, List.Forall₂ HoldsRecord
      (system.db.audit.orderedRows (controlPlaneAuditStreamId engagementId))
      (system.db.audit.storedRecords (controlPlaneAuditStreamId engagementId)) ∧
    List.Forall₂ Seals (system.db.audit.storedRecords (controlPlaneAuditStreamId engagementId))
      (system.committedIn engagementId)
  digests : ∀ engagementId,
    (system.db.audit.orderedRows (controlPlaneAuditStreamId engagementId)).map
        AuditRow.idempotencyDigest =
      (system.committedIn engagementId).map Event.idempotencyDigest
  /-- with a checkpoint of the chain the list is answered -/
  listed : ∀ engagementId trusted now,
    checkpointFailure (controlPlaneAuditStreamId engagementId) now
        (system.db.audit.storedRecords (controlPlaneAuditStreamId engagementId)) trusted = none →
      system.db.listAuthoritative engagementId trusted now =
        .ok (system.committedIn engagementId)
  /-- an event that is appended again is answered with its record -/
  repeated : ∀ engagementId event record call,
    (record, event) ∈ (system.db.audit.storedRecords
        (controlPlaneAuditStreamId engagementId)).zip (system.committedIn engagementId) →
      Repeats redactor system.db call event record →
      system.db.appendAuthoritative redactor call = (system.db, .ok ⟨event, record, false⟩)
  /-- a call that raises leaves both tables as they were -/
  unchanged : ∀ call db error,
    system.db.appendAuthoritative redactor call = (db, .error error) → db = system.db

/-- A call that adds an event: its text gives back its payload, and its stream is below the most
records that a store admits. -/
def Retains (db : EventDatabase) (call : AppendAuthoritative) : Prop :=
  ∀ event, NewEvent redactor db call event →
    SafeValue.membersHaveForeignNan event.payload = false ∧
      (db.audit.streamRows (controlPlaneAuditStreamId event.engagementId)).length < 100000

/-- What a run of such calls keeps. -/
structure Retained (system : EventSystem) : Prop where
  paired : Paired system.db
  pairs : ∀ engagementId, ∃ pairs, PairedStream system.db engagementId pairs ∧
    pairs.length ≤ 100000 ∧ system.committedIn engagementId = pairs.map EventPair.event ∧
      ∀ pair ∈ pairs, SafeValue.membersHaveForeignNan pair.event.payload = false

variable {redactor}
variable {call : AppendAuthoritative}

theorem appendAuthoritative_error {db db' : EventDatabase} {error : EventError}
    (h : db.appendAuthoritative redactor call = (db', .error error)) : db' = db := by
  rw [EventDatabase.appendAuthoritative] at h
  cases hsafe : EventDatabase.safeEvent redactor call with
  | error e =>
    rw [hsafe, reading] at h
    exact (Prod.mk.inj h).1.symm
  | ok event =>
    rw [hsafe, reading] at h
    exact transaction_error h

theorem Retained.agreement
    (hinj : Function.Injective (canonicalDigest : EventIdempotency → Digest))
    {system : EventSystem} (h : Retained system) : EventAgreement redactor system := by
  constructor
  · intro engagementId
    obtain ⟨pairs, hpairs, -, hcommitted, -⟩ := h.pairs engagementId
    rw [hpairs.events, hcommitted, List.map_map, List.map_map]
    exact List.map_congr_left fun pair _ => pair.read
  · intro engagementId
    obtain ⟨pairs, hpairs, -, hcommitted, -⟩ := h.pairs engagementId
    rw [hpairs.storedRecords, hcommitted]
    refine ⟨(scanRows_ok hpairs.scanned).1, ?_⟩
    rw [List.forall₂_map_left_iff, List.forall₂_map_right_iff]
    exact List.forall₂_same.2 fun pair _ => pair.sealed
  · intro engagementId
    obtain ⟨pairs, hpairs, -, hcommitted, -⟩ := h.pairs engagementId
    rw [hpairs.rows, hcommitted, List.map_map, List.map_map]
    exact List.map_congr_left fun pair _ => pair.digest
  · intro engagementId trusted now hanchored
    obtain ⟨pairs, hpairs, hlength, hcommitted, -⟩ := h.pairs engagementId
    rw [hpairs.storedRecords] at hanchored
    have hverified := (hpairs.verified_iff _ _).2 ⟨hlength, hanchored⟩
    simp only [EventDatabase.listAuthoritative, EventDatabase.requireVerified, bind_eq_ok,
      raiseIf_eq_ok, not_not]
    exact ⟨(), hverified, hcommitted ▸ hpairs.assertPairs hinj h.paired.keys⟩
  · intro engagementId event record call hmem hcall
    obtain ⟨pairs, hpairs, hlength, hcommitted, hnan⟩ := h.pairs engagementId
    rw [hpairs.storedRecords, hcommitted, List.zip_map', List.mem_map] at hmem
    obtain ⟨pair, hpair, heq⟩ := hmem
    obtain ⟨rfl, rfl⟩ := Prod.mk.inj heq
    exact hpairs.repeats hinj h.paired.keys hlength hpair
      (SafeValue.equalMembers_self (hnan pair hpair)) hcall
  · intro call db error hcall
    exact appendAuthoritative_error hcall

theorem retained_empty : Retained EventSystem.empty where
  paired := paired_empty
  pairs engagementId := by
    obtain ⟨pairs, hpairs⟩ := paired_empty.streams engagementId
    obtain rfl : pairs = [] := List.map_eq_nil_iff.1 hpairs.events.symm
    exact ⟨[], hpairs, Nat.zero_le _, rfl, by simp⟩

/-- A new event that its text gives back follows the committed ones, in the database too. -/
theorem Retained.append (hstream : Function.Injective (controlPlaneAuditStreamId))
    (hread : ∀ record : AuditRecord, AuditRecordJson.modelValidateJson
      (AuditRecordJson.modelDumpJson record) = some record) {system : EventSystem}
    (h : Retained system) (hretains : Retains redactor system.db call) :
    Retained (EventSystem.append redactor system call) := by
  rw [EventSystem.append]
  cases hcall : system.db.appendAuthoritative redactor call with
  | mk db answer =>
  cases answer with
  | error error =>
    rw [appendAuthoritative_error hcall]
    exact h
  | ok appended =>
    obtain ⟨event, hsafe, hverified, ⟨-, rfl, hrepeated⟩ | ⟨plan, members, hkey, hplan, hmembers,
      happend, hnew, hdb, hevent, hnewEvent⟩⟩ := appendAuthoritative_ok hcall
    · simp only [EventSystem.commit, hrepeated]
      exact h
    · obtain ⟨own, hown⟩ := h.paired.streams event.engagementId
      obtain ⟨hnan, hroom⟩ := hretains event ⟨hown.admissible hsafe hverified hplan hmembers, hkey,
        sealable_of_append hplan happend hnew⟩
      have hstored : event.withPayload (JsonText.loadsMembers members) = event := by
        rw [SafeValue.loads_dumpsMembers hmembers hnan]
        rfl
      obtain ⟨hsealed, hpaired, hstreams⟩ := h.paired.newPair hstream hread
        (safeEvent_engagement hsafe) hkey hplan hmembers happend hnew hdb
      refine ⟨hpaired, fun engagementId => ?_⟩
      obtain ⟨pairs, hpairs, hlength, hcommitted, hpayloads⟩ := h.pairs engagementId
      have hcommittedIn : (EventSystem.commit system.committed (.ok appended)).filter
          (fun event => event.engagementId = engagementId) =
          system.committedIn engagementId ++
            if event.engagementId = engagementId then [event] else [] := by
        rw [EventSystem.commit, hnewEvent, if_pos rfl, List.filter_append, hevent,
          List.filter_singleton, EventSystem.committedIn]
        simp
      refine ⟨_, hstreams engagementId pairs hpairs, ?_⟩
      rw [EventSystem.committedIn, hcommittedIn, hcommitted]
      split_ifs with hid
      · subst hid
        rw [hpairs.length] at hroom
        refine ⟨?_, ?_, fun pair hpair => ?_⟩
        · rw [List.length_append]
          exact hroom
        · rw [List.map_append, List.map_singleton]
          exact congrArg (fun e => _ ++ [e]) hstored.symm
        · rcases List.mem_append.1 hpair with hpair | hpair
          · exact hpayloads pair hpair
          · rw [List.mem_singleton.1 hpair]
            have hpayload : JsonText.loadsMembers members = event.payload :=
              SafeValue.loads_dumpsMembers hmembers hnan
            exact (congrArg SafeValue.membersHaveForeignNan hpayload).trans hnan
      · exact ⟨hlength, List.append_nil _, hpayloads⟩

/-- A call whose key is taken by an event with another payload is not answered. -/
theorem not_answered_of_differs {db : EventDatabase} {event : Event SafeValue} {row : EventRow}
    (hsafe : EventDatabase.safeEvent redactor call = .ok event)
    (hrow : db.keyRow event.idempotencyKey = some row)
    (hdiffers : ∀ existing, row.event = some existing →
      SafeValue.equalMembers existing.payload event.payload = false) :
    (db.appendAuthoritative redactor call).2.toOption.isSome = false := by
  cases hanswer : (db.appendAuthoritative redactor call).2 with
  | error error => rfl
  | ok appended =>
    have hcall : db.appendAuthoritative redactor call =
        ((db.appendAuthoritative redactor call).1, .ok appended) :=
      Prod.ext rfl hanswer
    rw [EventDatabase.appendAuthoritative, reading_eq_ok] at hcall
    obtain ⟨event', hsafe', hcall⟩ := hcall
    obtain rfl := Except.ok.inj (hsafe.symm.trans hsafe')
    rw [transaction_eq_ok, EventDatabase.appendLocked, reading_eq_ok] at hcall
    obtain ⟨found, hfound, hcall⟩ := hcall
    obtain ⟨-, hkey, -⟩ := existingRow_ok hfound
    rw [hkey, hrow] at hcall
    simp only [reading_eq_ok, Prod.exists] at hcall
    obtain ⟨existing, plan, hrepeated, -⟩ := hcall
    simp only [EventDatabase.repeated, assertIdempotent, bind_eq_ok, orRaise_eq_ok,
      raiseIf_eq_ok, not_or] at hrepeated
    obtain ⟨existing', hread, -, ⟨-, -, -, hequal⟩, -⟩ := hrepeated
    exact absurd (hdiffers existing' hread) hequal

/-- While every new event has a payload that its text gives back, and room in its stream, the
committed events and the records of the chain agree in every state of the run. -/
theorem agreement_along (hstream : Function.Injective (controlPlaneAuditStreamId))
    (hinj : Function.Injective (canonicalDigest : EventIdempotency → Digest))
    (hread : ∀ record : AuditRecord, AuditRecordJson.modelValidateJson
      (AuditRecordJson.modelDumpJson record) = some record)
    (calls : List AppendAuthoritative)
    (hcalls : Along (EventSystem.append redactor) (fun system => Retains redactor system.db)
      .empty calls) :
    Always (EventSystem.append redactor) (EventAgreement redactor) .empty calls :=
  always_of_along _ (fun _ _ hretained hretains => hretained.append hstream hread hretains)
    (fun _ hretained => hretained.agreement hinj) retained_empty hcalls

end

section

/-- Digests of events that keep the keys apart. -/
@[reducible] def textEventDigests : EventDigests where
  stream := ⟨id⟩
  idempotency := ⟨fun e => TextCodec.text (e.engagementId, e.idempotencyKey)⟩
  aggregate := ⟨fun e => TextCodec.text (e.engagementId, e.aggregateId)⟩
  transition := ⟨fun t => t.idempotencyDigest⟩

attribute [local instance] textEventDigests textAuditDigests textAuditJson asciiAlnum

theorem textEventDigests_injective :
    Function.Injective (canonicalDigest : EventIdempotency → Digest) := by
  rintro ⟨e, k⟩ ⟨e', k'⟩ h
  obtain ⟨rfl, rfl⟩ := Prod.mk.inj (TextCodec.text_injective h)
  rfl

/-- A call for an event of engagement `g` that carries one number. -/
def sampleAppend (number : PyFloat) : AppendAuthoritative where
  event := ⟨"i", "g", "e", "a", [("n", .float number)], 0, "k", by decide, by decide, by decide⟩
  bindings := (sampleAuditPlan "k").bindings
  trustedCheckpoint := ⟨"g", 0, auditGenesisDigest, 0, fun _ => rfl⟩
  deadline := 9
  now := 1

theorem sample_retains {db : EventDatabase} (hroom : (db.audit.streamRows "g").length < 100000) :
    Retains .default db (sampleAppend (.finite 1 false)) := by
  intro event hnew
  obtain ⟨-, hpayload, heq⟩ := safeEvent_ok hnew.admissible.safe
  have hfinite : ((Redactor.default.members []
      (sampleAppend (.finite 1 false)).event.payload).map
        SafeValue.membersHaveForeignNan).toOption = some false := by decide +kernel
  rw [hpayload] at hfinite
  have hengagement : event.engagementId = "g" := by
    rw [heq]
    rfl
  refine ⟨Option.some.inj hfinite, ?_⟩
  rw [hengagement]
  exact hroom

/-- An event with a number and the same event again leave the tables in agreement. -/
theorem agreement_of_number :
    Always (EventSystem.append .default) (EventAgreement .default) .empty
      [sampleAppend (.finite 1 false), sampleAppend (.finite 1 false)] := by
  refine agreement_along (fun _ _ h => h) textEventDigests_injective TextCodec.parse_text _ ?_
  exact ⟨sample_retains (by decide +kernel), sample_retains (by decide +kernel), trivial⟩

theorem nan_appended : (EventDatabase.empty.appendAuthoritative .default
    (sampleAppend (.nan false))).2.toOption.isSome = true := by
  decide +kernel

theorem nan_conflicts : ((EventSystem.append .default .empty
    (sampleAppend (.nan false))).db.appendAuthoritative .default
      (sampleAppend (.nan false))).2.toOption.isSome = false := by
  have hread : (EventDatabase.safeEvent .default (sampleAppend (.nan false))).toOption.map
      (fun event => ((EventSystem.append .default .empty
        (sampleAppend (.nan false))).db.keyRow event.idempotencyKey).bind fun row =>
          row.event.map fun existing =>
            SafeValue.equalMembers existing.payload event.payload) = some (some false) := by
    decide +kernel
  obtain ⟨event, hsafe, hrow⟩ := exists_ok_of_map hread
  simp only [Option.bind_eq_some_iff, Option.map_eq_some_iff] at hrow
  obtain ⟨row, hrow, existing, hexisting, hequal⟩ := hrow
  refine not_answered_of_differs hsafe hrow fun existing' h => ?_
  obtain rfl := Option.some.inj (hexisting.symm.trans h)
  exact hequal

/-- An event with a NaN is appended, and the same event again is a conflict. -/
theorem nan_not_agreed :
    (EventDatabase.empty.appendAuthoritative .default
        (sampleAppend (.nan false))).2.toOption.isSome = true ∧
      ((EventSystem.append .default .empty
        (sampleAppend (.nan false))).db.appendAuthoritative .default
        (sampleAppend (.nan false))).2.toOption.isSome = false ∧
      ¬EventAgreement .default
        (EventSystem.append .default .empty (sampleAppend (.nan false))) := by
  refine ⟨nan_appended, nan_conflicts, fun h => ?_⟩
  have hevents := congrArg (List.map (Option.map fun event : Event SafeValue =>
    SafeValue.membersHaveForeignNan event.payload)) (h.events "g")
  revert hevents
  decide +kernel

end

end VulnLoom

import VulnLoom.EventAgreement

/-!
# When recovery is asked for

`append_authoritative` looks an idempotency key up among the events of all engagements, and its
digest among the records of one. While every engagement has its pairs, the two disagree exactly
when the key belongs to an event of another engagement (`alarm_iff`), and then a healthy database
is reported as incomplete.
-/

set_option linter.unusedSectionVars false

open Transition

namespace VulnLoom

/-- The call committed, repeated an event, or was refused as a conflict. -/
def answers : Except EventError Appended → Bool
  | .ok _ => true
  | .error (.idempotencyConflict _) => true
  | .error .sqliteIntegrity => true
  | .error (.audit (.idempotencyConflict _)) => true
  | .error (.audit .sqliteIntegrity) => true
  | .error _ => false

/-- The call reports that the events and the records disagree. -/
def alarms : Except EventError Appended → Bool
  | .error (.recoveryRequired _) => true
  | _ => false

/-- An audit error that tells of a chain that cannot be trusted; a record that is too large does
not. -/
def AuditError.suspects : AuditError → Bool
  | .integrity message => message ≠ "sealed audit record exceeds storage limit"
  | _ => false

/-- An error that tells of tables that cannot be trusted. -/
def EventError.suspects : EventError → Bool
  | .recoveryRequired _ => true
  | .audit error => error.suspects
  | _ => false

/-- The call tells of tables that cannot be trusted. -/
def suspects {α : Type} : Except EventError α → Bool
  | .ok _ => false
  | .error error => error.suspects

theorem alarms_of_suspects {answer : Except EventError Appended} (h : suspects answer = false) :
    alarms answer = false := by
  match answer with
  | .ok _ => rfl
  | .error (.recoveryRequired _) => cases h
  | .error (.value _) => rfl
  | .error (.sensitiveData _) => rfl
  | .error (.idempotencyConflict _) => rfl
  | .error (.audit _) => rfl
  | .error .validation => rfl
  | .error .notSerializable => rfl
  | .error .sqliteIntegrity => rfl

section

variable [EventDigests] [AuditDigests] [AuditRecordJson] [PythonAlnum]

/-! ## What a call meets -/

/-- The call gets as far as its lookups. -/
structure ReachesLookup (redactor : Redactor) (db : EventDatabase) (call : AppendAuthoritative)
    (event : Event SafeValue) : Prop where
  safe : EventDatabase.safeEvent redactor call = .ok event
  anchored : checkpointFailure (controlPlaneAuditStreamId event.engagementId) call.now
    (db.audit.storedRecords (controlPlaneAuditStreamId event.engagementId))
    call.trustedCheckpoint = none
  room : (db.audit.streamRows (controlPlaneAuditStreamId event.engagementId)).length ≤ 100000

/-- The key of the event is the key of an event of another engagement. -/
def KeyElsewhere (db : EventDatabase) (event : Event SafeValue) : Prop :=
  ∃ row ∈ db.events, row.idempotencyKey = event.idempotencyKey ∧
    row.engagementId ≠ event.engagementId

/-- A call with everything that it takes to commit or to repeat. -/
def WellFormed (redactor : Redactor) (db : EventDatabase) (call : AppendAuthoritative)
    (event : Event SafeValue) : Prop :=
  Admissible redactor db call event ∧
    (db.keyRow event.idempotencyKey = none → Sealable db call event)

/-- The call does not report a healthy database as corrupt, and it is answered when it is well
formed. -/
def NoFalseAlarm (redactor : Redactor) (db : EventDatabase) (call : AppendAuthoritative) : Prop :=
  alarms (db.appendAuthoritative redactor call).2 = false ∧
    ∀ event, WellFormed redactor db call event →
      answers (db.appendAuthoritative redactor call).2 = true

/-! ## The ways a call goes -/

section Ways

variable {redactor : Redactor} {db : EventDatabase} {call : AppendAuthoritative}
  {event : Event SafeValue} {pairs : List EventPair}

theorem append_answer (hsafe : EventDatabase.safeEvent redactor call = .ok event) :
    (db.appendAuthoritative redactor call).2 = (EventDatabase.appendLocked call event db).2 := by
  rw [EventDatabase.appendAuthoritative, hsafe, reading, transaction]
  rcases EventDatabase.appendLocked call event db with ⟨_, _ | _⟩ <;> rfl

theorem append_refused {error : EventError}
    (hsafe : EventDatabase.safeEvent redactor call = .error error) :
    (db.appendAuthoritative redactor call).2 = .error error := by
  rw [EventDatabase.appendAuthoritative, hsafe, reading]

theorem append_unverified
    (hverified : (db.audit.verifyLocked eventAuditLimits
      (controlPlaneAuditStreamId event.engagementId) call.now
      (some call.trustedCheckpoint)).status ≠ .verified) :
    alarms (EventDatabase.appendLocked call event db).2 = false ∧
      answers (EventDatabase.appendLocked call event db).2 = false := by
  have hrefused : db.requireVerified (controlPlaneAuditStreamId event.engagementId) call.now
      call.trustedCheckpoint "authoritative event refused: " = .error (.audit (.integrity _)) :=
    if_pos hverified
  rw [EventDatabase.appendLocked, EventDatabase.existingRow, hrefused]
  exact ⟨rfl, rfl⟩

variable {plan : AuditAppendPlan}

/-- A stream of an engagement takes a plan of the engagement. -/
theorem PairedStream.requireEngagement {engagementId : UUID}
    (h : PairedStream db engagementId pairs)
    (hstream : plan.streamId = controlPlaneAuditStreamId engagementId)
    (hbindings : plan.bindings.engagementId = engagementId) :
    AuditDatabase.requireEngagement db.audit plan pairs.length = .ok () := by
  unfold AuditDatabase.requireEngagement
  split_ifs with hlength
  · rfl
  -- the last record is one of the stream
  have hsequences := (scanRows_ok h.scanned).2.2.1
  rw [List.map_map, List.length_map] at hsequences
  obtain ⟨pair, hpair, hlast⟩ : ∃ pair ∈ pairs, pair.record.sequence = pairs.length := by
    have hmem : pairs.length ∈ List.range' 1 pairs.length := by
      rw [List.mem_range'_1]
      omega
    rw [← hsequences] at hmem
    exact List.mem_map.1 hmem
  have hrow : pair.auditRow ∈
      db.audit.streamRows (controlPlaneAuditStreamId engagementId) := by
    rw [← Table.mem_orderBy AuditRow.sequence]
    change pair.auditRow ∈ db.audit.orderedRows _
    rw [h.rows]
    exact List.mem_map_of_mem hpair
  obtain ⟨hstored, hid⟩ := List.mem_filter.1 hrow
  obtain ⟨row, hfound⟩ : ∃ row, db.audit.records.find? (fun row =>
      row.streamId = plan.streamId ∧ row.sequence = (pairs.length : ℤ)) = some row := by
    rw [← Option.isSome_iff_exists, List.find?_isSome]
    refine ⟨_, hstored, ?_⟩
    rw [decide_eq_true_eq] at hid
    simp [hid, hstream, pair.sequence, hlast]
  have hcolumns := List.find?_some hfound
  simp only [decide_eq_true_eq] at hcolumns
  obtain ⟨previous, hprevious, rfl⟩ := h.mem_of_auditRow (List.mem_filter.2
    ⟨List.mem_of_find?_eq_some hfound, by simpa [hstream] using hcolumns.1⟩)
  simp only [bind_eq_ok, orRaise_eq_ok, raiseIf_eq_ok, not_not]
  refine ⟨_, hfound, _, previous.holds.1, ?_⟩
  rw [(binds_iff.1 previous.sealed.binds).2.1, h.engagementId_of_mem hprevious, hbindings]

/-- An append of a new plan to a verified stream of its engagement finds nothing to suspect, and
while the plan can be sealed it is refused for a clash of rows only. -/
theorem append_new_error {now : Time} {trusted : AuditCheckpoint} {audit : AuditDatabase}
    {limits : AuditLimits} {error : AuditError}
    (hverified : (audit.verifyLocked limits plan.streamId now (some trusted)).status = .verified)
    (hnew : audit.idempotencyRow plan = none)
    (hengagement : audit.requireEngagement plan
      (audit.verifyLocked limits plan.streamId now (some trusted)).recordCount = .ok ())
    (herror : audit.append limits plan now (some trusted) = .error error) :
    error.suspects = false ∧ (now < plan.deadline → ∀ record,
      AuditDatabase.sealRecord plan (audit.verifyLocked limits plan.streamId now (some trusted))
          now = .ok record →
        (AuditRecordJson.modelDumpJson record).utf8ByteSize ≤ limits.maxRecordBytes →
          error = .sqliteIntegrity) := by
  simp only [AuditDatabase.append, raiseIf, hverified, hnew, hengagement, ne_eq,
    not_true_eq_false, if_false, ok_bind] at herror
  split_ifs at herror with hdeadline
  · cases herror
    exact ⟨rfl, fun htimely => absurd hdeadline (not_le.2 htimely)⟩
  rw [ok_bind] at herror
  cases hseal : AuditDatabase.sealRecord plan
      (audit.verifyLocked limits plan.streamId now (some trusted)) now with
  | error e =>
    rw [hseal] at herror
    cases herror
    refine ⟨?_, fun _ record hrecord => by cases hrecord⟩
    unfold AuditDatabase.sealRecord at hseal
    split_ifs at hseal
    cases hseal
    rfl
  | ok record =>
    rw [hseal, ok_bind] at herror
    split_ifs at herror with hsize
    · cases herror
      refine ⟨by decide, fun _ record' hrecord hfits => absurd hfits ?_⟩
      obtain rfl := Except.ok.inj hrecord
      exact not_le.2 hsize
    · rw [ok_bind] at herror
      cases hinsert : Table.insert auditRowClash audit.records
          (AuditDatabase.recordRow record plan.idempotencyDigest) with
      | none =>
        rw [hinsert] at herror
        cases herror
        exact ⟨rfl, fun _ _ _ _ => rfl⟩
      | some records =>
        rw [hinsert] at herror
        cases herror

variable (hinj : Function.Injective (canonicalDigest : EventIdempotency → Digest))

include hinj

/-- The lookups of a call to a sound stream. -/
theorem PairedStream.existingRow (h : PairedStream db event.engagementId pairs)
    (hkeys : (db.events.map EventRow.idempotencyKey).Nodup)
    (hverified : (db.audit.verifyLocked eventAuditLimits
      (controlPlaneAuditStreamId event.engagementId) call.now
      (some call.trustedCheckpoint)).status = .verified) :
    db.existingRow call event =
      if (db.keyRow event.idempotencyKey).isSome ≠ db.audit.containsIdempotency
          (controlPlaneAuditStreamId event.engagementId) event.idempotencyDigest
      then .error (.recoveryRequired
        "authoritative event/audit pair is incomplete; restore a verified copy")
      else .ok (db.keyRow event.idempotencyKey) := by
  have hpassed : db.requireVerified (controlPlaneAuditStreamId event.engagementId) call.now
      call.trustedCheckpoint "authoritative event refused: " = .ok () :=
    if_neg (not_not.2 hverified)
  simp only [EventDatabase.existingRow, hpassed, h.assertPairs hinj hkeys, ok_bind, raiseIf]
  split_ifs <;> rfl

/-- The lookups disagree exactly when the key belongs to another engagement. -/
theorem PairedStream.lookups_differ_iff (h : PairedStream db event.engagementId pairs)
    (hkeys : (db.events.map EventRow.idempotencyKey).Nodup) :
    (db.keyRow event.idempotencyKey).isSome ≠ db.audit.containsIdempotency
        (controlPlaneAuditStreamId event.engagementId) event.idempotencyDigest ↔
      KeyElsewhere db event := by
  cases hrow : db.keyRow event.idempotencyKey with
  | none =>
    rw [h.not_contains_of_keyRow hinj rfl hrow]
    simp only [Option.isSome_none, ne_eq, not_true_eq_false, false_iff]
    rintro ⟨row, hmem, hkey, -⟩
    exact List.find?_eq_none.1 hrow row hmem (by simpa using hkey)
  | some row =>
    have hcontains := h.contains_of_keyRow hinj hkeys rfl hrow
    have hmem := List.mem_of_find?_eq_some hrow
    have hkey : row.idempotencyKey = event.idempotencyKey := by
      simpa using List.find?_some hrow
    rw [Option.isSome_some, ne_eq, eq_comm, hcontains]
    constructor
    · intro hne
      exact ⟨row, hmem, hkey, hne⟩
    · rintro ⟨row', hmem', hkey', hne⟩
      rwa [Table.eq_of_key hkeys hmem hmem' (hkey.trans hkey'.symm)]

omit hinj in
/-- A key that no other engagement has is one of a pair. -/
theorem PairedStream.mem_of_keyRow (h : PairedStream db event.engagementId pairs)
    {row : EventRow} (hrow : db.keyRow event.idempotencyKey = some row)
    (hkey : ¬KeyElsewhere db event) : ∃ pair ∈ pairs, pair.eventRow = row := by
  have hmem := List.mem_of_find?_eq_some hrow
  have hsame : row.idempotencyKey = event.idempotencyKey := by
    simpa using List.find?_some hrow
  refine h.mem_of_row hmem ?_
  by_contra hne
  exact hkey ⟨row, hmem, hsame, hne⟩

/-- A call for a key of its own engagement repeats the event or conflicts with it. -/
theorem PairedStream.repeat_answer (h : PairedStream db event.engagementId pairs)
    (hkeys : (db.events.map EventRow.idempotencyKey).Nodup)
    (hverified : (db.audit.verifyLocked eventAuditLimits
      (controlPlaneAuditStreamId event.engagementId) call.now
      (some call.trustedCheckpoint)).status = .verified)
    {pair : EventPair} (hpair : pair ∈ pairs)
    (hexisting : db.existingRow call event = .ok (some pair.eventRow)) :
    suspects (EventDatabase.appendLocked call event db).2 = false ∧
      (event.occurredAt < call.deadline ∧ call.deadline ≤ event.occurredAt + 300000000 →
        answers (EventDatabase.appendLocked call event db).2 = true) := by
  have hid := h.engagementId_of_mem hpair
  simp only [EventDatabase.appendLocked, hexisting, reading, EventDatabase.repeated, pair.read,
    orRaise, ok_bind, assertIdempotent, raiseIf]
  split_ifs with hdifferent
  · exact ⟨rfl, fun _ => rfl⟩
  simp only [ok_bind]
  by_cases hwindow : pair.event.occurredAt <
        pair.event.occurredAt + (call.deadline - event.occurredAt) ∧
      pair.event.occurredAt + (call.deadline - event.occurredAt) ≤
        pair.event.occurredAt + 300000000
  · obtain ⟨plan, hplan⟩ : ∃ plan, auditPlan pair.event call.bindings
        (pair.event.occurredAt + (call.deadline - event.occurredAt)) = .ok plan :=
      ⟨_, dif_pos hwindow⟩
    obtain ⟨-, hstream, hdigest, -⟩ := auditPlan_ok hplan
    rw [hid] at hstream
    have happend : db.appendRecord call plan =
        if pair.auditRow.planId ≠ plan.planId ∧
          AuditDatabase.repeatsPlan pair.record plan = false
        then .error (.audit (.idempotencyConflict
          "audit idempotency key was reused for different content"))
        else .ok (db.audit, pair.record) := by
      have hpassed : ¬(db.audit.verifyLocked eventAuditLimits plan.streamId call.now
          (some call.trustedCheckpoint)).status ≠ .verified := by
        rw [hstream, not_not]
        exact hverified
      simp only [EventDatabase.appendRecord, AuditDatabase.append, raiseIf, if_neg hpassed,
        ok_bind, h.auditRow hinj hkeys hpair hstream hdigest, pair.holds.1, orRaise]
      split_ifs <;> rfl
    simp only [hplan, ok_bind, pure, Except.pure, happend]
    split_ifs <;> exact ⟨rfl, fun _ => rfl⟩
  · simp only [auditPlan, dif_neg hwindow]
    refine ⟨rfl, fun hwindow' => absurd ?_ hwindow⟩
    obtain ⟨hafter, hbefore⟩ := hwindow'
    exact ⟨Nat.lt_add_of_pos_right (Nat.sub_pos_of_lt hafter),
      Nat.add_le_add_left (Nat.sub_le_of_le_add (Nat.add_comm _ _ ▸ hbefore)) _⟩

/-- A call for a new key finds nothing to suspect, and commits unless it cannot be sealed. -/
theorem PairedStream.new_answer (redactor : Redactor)
    (h : PairedStream db event.engagementId pairs)
    (hbound : call.bindings.engagementId = event.engagementId)
    (hverified : (db.audit.verifyLocked eventAuditLimits
      (controlPlaneAuditStreamId event.engagementId) call.now
      (some call.trustedCheckpoint)).status = .verified)
    (hexisting : db.existingRow call event = .ok none) :
    suspects (EventDatabase.appendLocked call event db).2 = false ∧
      (Admissible redactor db call event → Sealable db call event →
        answers (EventDatabase.appendLocked call event db).2 = true) := by
  obtain ⟨-, -, hcontains⟩ := existingRow_ok hexisting
  simp only [EventDatabase.appendLocked, hexisting, reading, EventDatabase.prepared]
  by_cases hwindow : event.occurredAt < call.deadline ∧
      call.deadline ≤ event.occurredAt + 300000000
  swap
  · simp only [auditPlan, dif_neg hwindow]
    exact ⟨rfl, fun hadmissible => absurd hadmissible.window hwindow⟩
  obtain ⟨plan, hplan⟩ : ∃ plan, auditPlan event call.bindings call.deadline = .ok plan :=
    ⟨_, dif_pos hwindow⟩
  simp only [hplan, ok_bind]
  cases hmembers : SafeValue.dumpsMembers event.payload with
  | none =>
    refine ⟨rfl, fun hadmissible => ?_⟩
    have hserializable := hadmissible.serializable
    rw [hmembers] at hserializable
    cases hserializable
  | some members =>
  simp only [orRaise, ok_bind, pure, Except.pure]
  cases Table.insert eventRowClash db.events (event.row members) with
  | none => exact ⟨rfl, fun _ _ => rfl⟩
  | some events =>
  cases hrecord : EventDatabase.appendRecord { db with events } call plan with
  | ok result =>
    simp only [hrecord]
    exact ⟨rfl, fun _ _ => rfl⟩
  | error error =>
    simp only [hrecord]
    rw [EventDatabase.appendRecord] at hrecord
    cases happend : db.audit.append eventAuditLimits plan call.now
        (some call.trustedCheckpoint) with
    | ok result =>
      rw [happend] at hrecord
      cases hrecord
    | error auditError =>
      rw [happend] at hrecord
      obtain rfl : EventError.audit auditError = error := Except.error.inj hrecord
      obtain ⟨-, hstream, hdigest, hdeadline, hoccurred, hbindings, -⟩ := auditPlan_ok hplan
      have hnew : db.audit.idempotencyRow plan = none := by
        rw [← Option.not_isSome_iff_eq_none, idempotencyRow_isSome, hstream, hdigest, ← hcontains]
        simp
      have hcount : (db.audit.verifyLocked eventAuditLimits plan.streamId call.now
          (some call.trustedCheckpoint)).recordCount = pairs.length := by
        rw [hstream, (verified_result hverified).1, h.storedRecords, List.length_map]
      have hengagement : plan.bindings.engagementId = event.engagementId := by
        rw [hbindings, hbound]
      obtain ⟨hquiet, hclash⟩ := append_new_error (hstream ▸ hverified) hnew
        (hcount ▸ h.requireEngagement hstream hengagement) happend
      refine ⟨hquiet, fun hadmissible hsealable => ?_⟩
      obtain ⟨record, hseal⟩ : ∃ record, AuditDatabase.sealRecord plan
          (db.audit.verifyLocked eventAuditLimits plan.streamId call.now
            (some call.trustedCheckpoint)) call.now = .ok record :=
        ⟨_, dif_pos (hoccurred ▸ hsealable.occurred)⟩
      rw [hclash (hdeadline ▸ hsealable.timely) record hseal
        (hsealable.fits plan record hplan hseal)]
      rfl

end Ways

/-! ## When a healthy database is reported as corrupt -/

section Alarms

variable {redactor : Redactor} {db : EventDatabase} {call : AppendAuthoritative}
  (hinj : Function.Injective (canonicalDigest : EventIdempotency → Digest))

include hinj

variable {event : Event SafeValue}

/-- A call to a database with its pairs that verifies its stream finds nothing to suspect, unless
its key is one of another engagement. -/
theorem Paired.quiet (h : Paired db) (hsafe : EventDatabase.safeEvent redactor call = .ok event)
    (hverified : (db.audit.verifyLocked eventAuditLimits
      (controlPlaneAuditStreamId event.engagementId) call.now
      (some call.trustedCheckpoint)).status = .verified) (hkey : ¬KeyElsewhere db event) :
    suspects (db.appendAuthoritative redactor call).2 = false := by
  obtain ⟨pairs, hpairs⟩ := h.streams event.engagementId
  have hexisting := hpairs.existingRow hinj h.keys hverified
  rw [if_neg (mt (hpairs.lookups_differ_iff hinj h.keys).1 hkey)] at hexisting
  rw [append_answer hsafe]
  cases hrow : db.keyRow event.idempotencyKey with
  | none =>
    rw [hrow] at hexisting
    exact (hpairs.new_answer hinj redactor (safeEvent_engagement hsafe) hverified hexisting).1
  | some row =>
    obtain ⟨pair, hpair, rfl⟩ := hpairs.mem_of_keyRow hrow hkey
    rw [hrow] at hexisting
    exact (hpairs.repeat_answer hinj h.keys hverified hpair hexisting).1

omit hinj in
theorem Paired.reaches_iff (h : Paired db)
    (hsafe : EventDatabase.safeEvent redactor call = .ok event) :
    ReachesLookup redactor db call event ↔
      (db.audit.verifyLocked eventAuditLimits (controlPlaneAuditStreamId event.engagementId)
        call.now (some call.trustedCheckpoint)).status = .verified := by
  obtain ⟨pairs, hpairs⟩ := h.streams event.engagementId
  rw [hpairs.verified_iff, ← hpairs.length, ← hpairs.storedRecords]
  exact ⟨fun h => ⟨h.room, h.anchored⟩, fun h => ⟨hsafe, h.2, h.1⟩⟩

/-- A call to a database with its pairs alarms exactly when it reaches the lookups with a key of
another engagement. -/
theorem Paired.alarms_iff (h : Paired db)
    (hsafe : EventDatabase.safeEvent redactor call = .ok event) :
    alarms (db.appendAuthoritative redactor call).2 = true ↔
      ReachesLookup redactor db call event ∧ KeyElsewhere db event := by
  rw [h.reaches_iff hsafe]
  by_cases hverified : (db.audit.verifyLocked eventAuditLimits
      (controlPlaneAuditStreamId event.engagementId) call.now
      (some call.trustedCheckpoint)).status = .verified
  swap
  · simp [append_answer hsafe, hverified, append_unverified hverified]
  by_cases helsewhere : KeyElsewhere db event
  · obtain ⟨pairs, hpairs⟩ := h.streams event.engagementId
    have hexisting := hpairs.existingRow hinj h.keys hverified
    rw [if_pos ((hpairs.lookups_differ_iff hinj h.keys).2 helsewhere)] at hexisting
    simp [append_answer hsafe, hverified, helsewhere, EventDatabase.appendLocked, hexisting,
      reading, alarms]
  · simp [alarms_of_suspects (h.quiet hinj hsafe hverified helsewhere), helsewhere]

/-- A well-formed call to a database with its pairs is answered, provided its stream is within the
limits and its key is not one of another engagement. -/
theorem Paired.answers (h : Paired db) (hcall : WellFormed redactor db call event)
    (hroom : (db.audit.streamRows (controlPlaneAuditStreamId event.engagementId)).length ≤ 100000)
    (hkey : ¬KeyElsewhere db event) : answers (db.appendAuthoritative redactor call).2 = true := by
  obtain ⟨pairs, hpairs⟩ := h.streams event.engagementId
  obtain ⟨hadmissible, hsealable⟩ := hcall
  rw [append_answer hadmissible.safe]
  have hverified := (hpairs.verified_iff call.now call.trustedCheckpoint).2
    ⟨hpairs.length ▸ hroom, hpairs.storedRecords ▸ hadmissible.anchored⟩
  have hexisting := hpairs.existingRow hinj h.keys hverified
  rw [if_neg (mt (hpairs.lookups_differ_iff hinj h.keys).1 hkey)] at hexisting
  cases hrow : db.keyRow event.idempotencyKey with
  | none =>
    rw [hrow] at hexisting
    exact (hpairs.new_answer hinj redactor (safeEvent_engagement hadmissible.safe) hverified
      hexisting).2
      hadmissible (hsealable hrow)
  | some row =>
    obtain ⟨pair, hpair, rfl⟩ := hpairs.mem_of_keyRow hrow hkey
    rw [hrow] at hexisting
    exact (hpairs.repeat_answer hinj h.keys hverified hpair hexisting).2 hadmissible.window

end Alarms

theorem suspects_of_refused {redactor : Redactor} {db : EventDatabase}
    {call : AppendAuthoritative} {error : EventError}
    (hsafe : EventDatabase.safeEvent redactor call = .error error) :
    suspects (db.appendAuthoritative redactor call).2 = false := by
  rw [append_refused hsafe]
  unfold EventDatabase.safeEvent raiseIf at hsafe
  split_ifs at hsafe
  · cases hsafe
    rfl
  · cases hmembers : redactor.members [] call.event.payload with
    | error message =>
      rw [hmembers] at hsafe
      cases hsafe
      rfl
    | ok payload =>
      rw [hmembers] at hsafe
      cases hsafe

/-- In a database that calls have written, a call gives no false alarm exactly when a key that it
looks up is not one of another engagement, and a well-formed call finds its stream within the
limits. -/
theorem no_false_alarm_iff {redactor : Redactor}
    (hstream : Function.Injective (controlPlaneAuditStreamId))
    (hinj : Function.Injective (canonicalDigest : EventIdempotency → Digest))
    (hread : ∀ record : AuditRecord, AuditRecordJson.modelValidateJson
      (AuditRecordJson.modelDumpJson record) = some record)
    (calls : List AppendAuthoritative) (call : AppendAuthoritative) {db : EventDatabase}
    (hdb : db = run (fun db call => (db.appendAuthoritative redactor call).1) .empty calls) :
    NoFalseAlarm redactor db call ↔
      (∀ event, ReachesLookup redactor db call event → ¬KeyElsewhere db event) ∧
        ∀ event, WellFormed redactor db call event →
          (db.audit.streamRows (controlPlaneAuditStreamId event.engagementId)).length ≤
            100000 := by
  have hpaired : Paired db := by
    rw [hdb]
    refine run_invariant _ (fun db call h => ?_) calls paired_empty
    cases hcall : db.appendAuthoritative redactor call with
    | mk db' answer =>
    cases answer with
    | ok appended => exact h.append hstream hread hcall
    | error error =>
      rw [appendAuthoritative_error hcall]
      exact h
  constructor
  · rintro ⟨hquiet, hanswers⟩
    constructor
    · intro event hreaches helsewhere
      have halarm := (hpaired.alarms_iff hinj hreaches.safe).2 ⟨hreaches, helsewhere⟩
      rw [hquiet] at halarm
      cases halarm
    · intro event hcall
      by_contra hfull
      obtain ⟨pairs, hpairs⟩ := hpaired.streams event.engagementId
      have hunverified := mt (hpairs.verified_iff call.now call.trustedCheckpoint).1
        fun h => hfull (hpairs.length ▸ h.1)
      have hanswer := hanswers event hcall
      rw [append_answer hcall.1.safe, (append_unverified hunverified).2] at hanswer
      cases hanswer
  · rintro ⟨hkeys, hroom⟩
    constructor
    · cases hsafe : EventDatabase.safeEvent redactor call with
      | error error => exact alarms_of_suspects (suspects_of_refused hsafe)
      | ok event =>
        rw [← Bool.not_eq_true, hpaired.alarms_iff hinj hsafe]
        rintro ⟨hreaches, helsewhere⟩
        exact hkeys event hreaches helsewhere
    · intro event hcall
      by_cases helsewhere : KeyElsewhere db event
      · exact absurd helsewhere (hkeys event ⟨hcall.1.safe, hcall.1.anchored, hroom event hcall⟩)
      · exact hpaired.answers hinj hcall (hroom event hcall) helsewhere

end

section

attribute [local instance] textEventDigests textAuditDigests textAuditJson asciiAlnum

/-- The key of `sampleAppend`, for an event of engagement `h`. -/
def sampleReuse : AppendAuthoritative where
  event :=
    { (sampleAppend (.finite 1 false)).event with
      eventId := "j", engagementId := "h", payload := [] }
  bindings := { (sampleAuditPlan "k").bindings with engagementId := "h" }
  trustedCheckpoint :=
    { (sampleAppend (.finite 1 false)).trustedCheckpoint with streamId := "h" }
  deadline := 9
  now := 1

/-- A repeated call gives no alarm. -/
theorem repeated_no_false_alarm : NoFalseAlarm .default
    (EventDatabase.empty.appendAuthoritative .default (sampleAppend (.finite 1 false))).1
    (sampleAppend (.finite 1 false)) := by
  have hrows : ∀ row ∈ (EventDatabase.empty.appendAuthoritative .default
      (sampleAppend (.finite 1 false))).1.events, row.engagementId = "g" := by decide +kernel
  have hlength : ((EventDatabase.empty.appendAuthoritative .default
      (sampleAppend (.finite 1 false))).1.audit.streamRows "g").length ≤ 100000 := by
    decide +kernel
  have hengagement : ∀ event, EventDatabase.safeEvent .default
      (sampleAppend (.finite 1 false)) = .ok event → event.engagementId = "g" := by
    intro event hsafe
    rw [(safeEvent_ok hsafe).2.2]
    rfl
  generalize hdb : (EventDatabase.empty.appendAuthoritative .default
    (sampleAppend (.finite 1 false))).1 = db at hrows hlength ⊢
  refine (no_false_alarm_iff (fun _ _ h => h) textEventDigests_injective TextCodec.parse_text
    [sampleAppend (.finite 1 false)] _ hdb.symm).2 ⟨fun event hreaches => ?_, fun event hcall => ?_⟩
  · rintro ⟨row, hrow, -, hne⟩
    exact hne ((hrows row hrow).trans (hengagement event hreaches.safe).symm)
  · rw [hengagement event hcall.1.safe]
    exact hlength

/-- A key that was used in another engagement is reported as an incomplete pair. -/
theorem reused_key_alarms : ¬NoFalseAlarm .default
    (run (fun db call => (db.appendAuthoritative .default call).1) .empty
      [sampleAppend (.finite 1 false)]) sampleReuse := by
  rintro ⟨hquiet, -⟩
  revert hquiet
  decide +kernel

end

end VulnLoom

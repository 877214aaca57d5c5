import VulnLoom.AuditVerify
import VulnLoom.AuditText
import VulnLoom.Transition

/-!
# Appending to the audit chain

`append` verifies the stream, seals a record that names its head, and inserts the row and
the head. It checks the size of the record, but not the number of records, so the append
to a stream that already holds the most records a store admits leaves a stream that no
longer verifies. `verified_append_iff` says exactly when the stream verifies again.
-/

set_option linter.unusedSectionVars false

open Transition

namespace VulnLoom

section

variable [AuditDigests] [AuditRecordJson]

/-! ## What an append does -/

/-- The database after a new record. -/
def AuditDatabase.withRecord (db : AuditDatabase) (record : AuditRecord)
    (idempotencyDigest : Digest) : AuditDatabase where
  records := db.records ++ [AuditDatabase.recordRow record idempotencyDigest]
  heads := AuditDatabase.putHead db.heads
    ⟨record.streamId, record.sequence, record.recordDigest⟩

variable {plan : AuditAppendPlan}

/-- An append that returns found the stream verified, and repeats a stored record or seals
a new one at its end. -/
theorem append_ok {db db' : AuditDatabase} {limits : AuditLimits} {now : Time}
    {trusted : Option AuditCheckpoint} {record : AuditRecord}
    (h : db.append limits plan now trusted = .ok (db', record)) :
    (db.verifyLocked limits plan.streamId now trusted).status = .verified ∧
      ((db.idempotencyRow plan).isSome = true ∧ db' = db ∨
        db.idempotencyRow plan = none ∧
        record.streamId = plan.streamId ∧
        record.sequence = (db.storedRecords plan.streamId).length + 1 ∧
        record.previousDigest = chainHead (db.storedRecords plan.streamId) ∧
        (AuditRecordJson.modelDumpJson record).utf8ByteSize ≤ limits.maxRecordBytes ∧
        (∀ row ∈ db.records,
          auditRowClash (AuditDatabase.recordRow record plan.idempotencyDigest) row = false) ∧
        db' = db.withRecord record plan.idempotencyDigest) := by
  simp only [AuditDatabase.append, bind_eq_ok, raiseIf_eq_ok, not_not] at h
  obtain ⟨-, hverified, h⟩ := h
  refine ⟨hverified, ?_⟩
  obtain ⟨hcount, hhead⟩ := verified_result hverified
  cases hrow : db.idempotencyRow plan with
  | some existing =>
    simp only [hrow, bind_eq_ok, pure_eq_ok, Prod.mk.injEq] at h
    obtain ⟨-, -, -, -, rfl, -⟩ := h
    exact Or.inl ⟨rfl, rfl⟩
  | none =>
    simp only [hrow, bind_eq_ok, raiseIf_eq_ok, orRaise_eq_ok, pure_eq_ok, Table.insert_eq_some,
      Prod.mk.injEq, not_lt] at h
    obtain ⟨-, -, -, -, sealed, hseal, -, hsize, -, ⟨hfresh, rfl⟩, rfl, rfl⟩ := h
    unfold AuditDatabase.sealRecord at hseal
    split_ifs at hseal
    cases hseal
    exact Or.inr ⟨rfl, rfl, congrArg (· + 1) hcount, hhead, hsize, hfresh, rfl⟩

/-! ## The rows and the head after a new record -/

variable {db : AuditDatabase} {record : AuditRecord} {idempotencyDigest : Digest}

theorem streamRows_withRecord : (db.withRecord record idempotencyDigest).streamRows
    record.streamId = db.streamRows record.streamId ++
      [AuditDatabase.recordRow record idempotencyDigest] := by
  rw [AuditDatabase.streamRows, AuditDatabase.withRecord, List.filter_append,
    List.filter_singleton, AuditDatabase.streamRows]
  simp [AuditDatabase.recordRow]

/-- The head table names the new record for its stream. -/
theorem headRow_putHead (head : AuditHead) : ∀ heads : List AuditHead,
    (AuditDatabase.putHead heads head).find? (fun h => h.streamId = head.streamId) = some head := by
  intro heads
  unfold AuditDatabase.putHead
  split_ifs with hany
  · induction heads with
    | nil => simp at hany
    | cons h heads ih =>
      by_cases hid : h.streamId = head.streamId
      · simp [Table.update, hid]
      · have hrest : (heads.any fun h => h.streamId = head.streamId) = true := by
          simpa [hid] using hany
        have hcons : Table.update (fun h => decide (h.streamId = head.streamId))
            (fun _ => head) (h :: heads) =
            h :: Table.update (fun h => decide (h.streamId = head.streamId)) (fun _ => head)
              heads := by
          simp [Table.update, hid]
        rw [hcons, List.find?_cons_of_neg (by simpa using hid)]
        exact ih hrest
  · have hnone : heads.find? (fun h => h.streamId = head.streamId) = none := by
      simpa [List.find?_eq_none] using hany
    rw [List.find?_append, hnone]
    simp

theorem headRow_withRecord : (db.withRecord record idempotencyDigest).headRow record.streamId =
    some ⟨record.streamId, record.sequence, record.recordDigest⟩ :=
  headRow_putHead ⟨record.streamId, record.sequence, record.recordDigest⟩ db.heads

variable {streamId : Digest}

/-- The largest record of a stream bounds each of them. -/
theorem maxRecordBytes_le {n : ℕ} : db.maxRecordBytes streamId ≤ n ↔
      ∀ row ∈ db.streamRows streamId, row.recordJson.utf8ByteSize ≤ n := by
  unfold AuditDatabase.maxRecordBytes
  induction db.streamRows streamId with
  | nil => simp
  | cons row rows ih => simp [ih]

theorem exceedsLimits_eq_false {limits : AuditLimits} : db.exceedsLimits limits streamId = false ↔
      (db.streamRows streamId).length ≤ limits.maxRecordsPerStream ∧
        ∀ row ∈ db.streamRows streamId, row.recordJson.utf8ByteSize ≤ limits.maxRecordBytes := by
  rw [← maxRecordBytes_le]
  simp [AuditDatabase.exceedsLimits]

/-- A row that follows a verified scan is scanned with the head it left. -/
theorem scanRows_concat {streamId : Digest} {row : AuditRow}
    (hread : AuditRecordJson.modelValidateJson row.recordJson = some record) :
    ∀ {n : ℕ} {previous : Digest} {rows : List AuditRow} {records : List AuditRecord},
      scanRows streamId n previous rows = (records, true) →
      bindsRow streamId (n + records.length)
        (HashChain.head AuditRecord.recordDigest previous records) row record = true →
      scanRows streamId n previous (rows ++ [row]) = (records ++ [record], true)
  | n, previous, [], records, hscan, hbinds => by
    obtain ⟨rfl, -⟩ := Prod.mk.inj hscan
    have hbinds' : bindsRow streamId n previous row record = true := hbinds
    simp [scanRows, hread, hbinds']
  | n, previous, r :: rows, records, hscan, hbinds => by
    rw [scanRows] at hscan
    split at hscan
    · simp at hscan
    next first hfirst =>
      split_ifs at hscan with hrow
      · obtain ⟨rfl, hrest⟩ := Prod.mk.inj hscan
        have hbinds' : bindsRow streamId (n + 1 +
            (scanRows streamId (n + 1) first.recordDigest rows).1.length)
            (HashChain.head AuditRecord.recordDigest first.recordDigest
              (scanRows streamId (n + 1) first.recordDigest rows).1) row record = true := by
          rw [Nat.add_right_comm, Nat.add_assoc]
          exact hbinds
        have ih := scanRows_concat hread (Prod.ext rfl hrest) hbinds'
        simp [scanRows, hfirst, hrow, ih]
      · simp at hscan

/-! ## When the stream verifies again -/

variable {records : List AuditRecord}

/-- A verified chain is read by the scan of its rows. -/
theorem VerifiedChain.scanRows (h : VerifiedChain db streamId records) {limits : AuditLimits}
    {now : Time} {trusted : Option AuditCheckpoint}
    (hverified : (db.verifyLocked limits streamId now trusted).status = .verified) :
    VulnLoom.scanRows streamId 1 auditGenesisDigest (db.orderedRows streamId) =
      (records, true) := by
  obtain ⟨-, records', hscan, -⟩ := verifyLocked_verified.1 hverified
  have hsame : records' = records := by
    rw [← h.storedRecords]
    exact (filterMap_eq_of_forall₂ (scanRows_ok hscan).1).symm
  rw [hscan, hsame]

/-- A checkpoint that a chain satisfies is satisfied by every continuation of it. -/
theorem checkpointFailure_append {now : Time} {trusted : Option AuditCheckpoint}
    (h : trusted.bind (checkpointFailure streamId now records) = none) (more : List AuditRecord) :
    trusted.bind (checkpointFailure streamId now (records ++ more)) = none := by
  cases trusted with
  | none => rfl
  | some checkpoint =>
    obtain ⟨htime, hstream, hlength, hanchor⟩ := checkpointFailure_eq_none h
    have hlength' : checkpoint.sequence ≤ (records ++ more).length := by
      rw [List.length_append]
      omega
    have hsame : anchoredDigest (records ++ more) checkpoint.sequence = checkpoint.headDigest := by
      rw [← hanchor, anchoredDigest_eq_head hlength', anchoredDigest_eq_head hlength,
        List.take_append_of_le_length hlength]
    change checkpointFailure streamId now (records ++ more) checkpoint = none
    rw [checkpointFailure, if_neg (not_lt.2 htime), if_neg (not_not.2 hstream),
      if_neg (not_lt.2 hlength'), if_neg (not_not.2 hsame)]

/-- The row of a new record is the last of its stream. -/
theorem orderedRows_withRecord
    (hlast : ∀ row ∈ db.streamRows record.streamId, row.sequence ≤ record.sequence) :
    (db.withRecord record idempotencyDigest).orderedRows record.streamId =
      db.orderedRows record.streamId ++ [AuditDatabase.recordRow record idempotencyDigest] := by
  rw [AuditDatabase.orderedRows, streamRows_withRecord]
  exact Table.orderBy_concat_of_le _ hlast

/-- The scan goes on to a record that continues the chain. -/
theorem scanRows_withRecord
    (hread : AuditRecordJson.modelValidateJson (AuditRecordJson.modelDumpJson record) =
      some record)
    (hscan : scanRows record.streamId 1 auditGenesisDigest (db.orderedRows record.streamId) =
      (records, true)) (hsequence : record.sequence = records.length + 1)
    (hprevious : record.previousDigest = chainHead records)
    (hlast : ∀ row ∈ db.streamRows record.streamId, row.sequence ≤ record.sequence) :
    scanRows record.streamId 1 auditGenesisDigest
        ((db.withRecord record idempotencyDigest).orderedRows record.streamId) =
      (records ++ [record], true) := by
  rw [orderedRows_withRecord hlast]
  refine scanRows_concat hread hscan ?_
  simp only [bindsRow, decide_eq_true_eq]
  refine ⟨trivial, ?_, rfl, rfl, rfl, ?_⟩
  · omega
  · rw [hprevious, chainHead_eq_head]

theorem headBound_withRecord (hsequence : record.sequence = records.length + 1) :
    headBound (records ++ [record])
      ((db.withRecord record idempotencyDigest).headRow record.streamId) = true := by
  rw [headRow_withRecord]
  simp [headBound, hsequence]

variable {limits : AuditLimits} {now : Time} {trusted : Option AuditCheckpoint}

/-- The new record ends the chain, provided its row is the last one and there is room. -/
theorem verified_withRecord
    (hread : AuditRecordJson.modelValidateJson (AuditRecordJson.modelDumpJson record) =
      some record)
    (hverified : (db.verifyLocked limits record.streamId now trusted).status = .verified)
    (hsequence : record.sequence = (db.storedRecords record.streamId).length + 1)
    (hprevious : record.previousDigest = chainHead (db.storedRecords record.streamId))
    (hsize : (AuditRecordJson.modelDumpJson record).utf8ByteSize ≤ limits.maxRecordBytes)
    (hroom : (db.streamRows record.streamId).length < limits.maxRecordsPerStream)
    (hlast : ∀ row ∈ db.streamRows record.streamId,
      row.sequence ≤ (db.storedRecords record.streamId).length) :
    ((db.withRecord record idempotencyDigest).verifyLocked limits record.streamId now
      trusted).status = .verified := by
  have hchain := verified_chain hverified
  set records := db.storedRecords record.streamId with hrecords
  obtain ⟨hlimits, records', hscan', -, htrusted⟩ := verifyLocked_verified.1 hverified
  have hscan := hchain.scanRows hverified
  obtain rfl : records = records' := by
    rw [hscan] at hscan'
    exact (Prod.mk.inj hscan').1
  refine verifyLocked_verified.2 ⟨?_, records ++ [record], ?_, ?_, ?_⟩
  · rw [exceedsLimits_eq_false, streamRows_withRecord, List.length_append]
    refine ⟨hroom, fun row hrow => ?_⟩
    rcases List.mem_append.1 hrow with hrow | hrow
    · exact (exceedsLimits_eq_false.1 hlimits).2 row hrow
    · rw [List.mem_singleton.1 hrow]
      exact hsize
  · refine scanRows_withRecord hread hscan hsequence hprevious fun row hrow => ?_
    have hle := hlast row hrow
    omega
  · exact headBound_withRecord hsequence
  · exact checkpointFailure_append htrusted [record]

/-- The last record of a verified chain is held by the last row and numbered by the length
of the chain. -/
theorem VerifiedChain.last_row (h : VerifiedChain db streamId records) {row : AuditRow}
    (hrow : (db.orderedRows streamId).getLast? = some row) :
    ∃ last, AuditRecordJson.modelValidateJson row.recordJson = some last ∧
      last.sequence = records.length := by
  have hmap := congrArg List.getLast? (map_eq_of_forall₂ h.rows)
  rw [List.getLast?_map, List.getLast?_map, hrow, Option.map_some] at hmap
  obtain ⟨last, hlast, hread⟩ := Option.map_eq_some_iff.1 hmap.symm
  have hseq := congrArg List.getLast? h.sequences
  rw [List.getLast?_map, hlast, Option.map_some] at hseq
  refine ⟨last, hread.symm, ?_⟩
  rw [List.getLast?_range'] at hseq
  split_ifs at hseq
  have := Option.some.inj hseq
  omega

/-- A verified chain has as many records as the stream has rows. -/
theorem VerifiedChain.length (h : VerifiedChain db streamId records) :
    records.length = (db.streamRows streamId).length := by
  rw [← h.rows.length_eq, AuditDatabase.orderedRows, Table.length_orderBy]

/-- Every row is at most as far as the stream is long, as `append` numbers them, and there is
room for one more. -/
def AuditDatabase.HasRoom (db : AuditDatabase) (limits : AuditLimits) (streamId : Digest) :
    Prop :=
  (db.streamRows streamId).length < limits.maxRecordsPerStream ∧
    ∀ row ∈ db.streamRows streamId, row.sequence ≤ (db.streamRows streamId).length

theorem streamRows_withRecord_of_ne (h : record.streamId ≠ streamId) :
    (db.withRecord record idempotencyDigest).streamRows streamId = db.streamRows streamId := by
  rw [AuditDatabase.streamRows, AuditDatabase.withRecord, List.filter_append,
    List.filter_singleton, AuditDatabase.streamRows]
  simp [AuditDatabase.recordRow, h]

/-- The sequence column of no row is beyond the length of its stream. -/
def AuditDatabase.Numbered (db : AuditDatabase) : Prop :=
  ∀ streamId, ∀ row ∈ db.streamRows streamId, row.sequence ≤ (db.streamRows streamId).length

theorem AuditDatabase.Numbered.append {db' : AuditDatabase} (hnum : db.Numbered)
    (h : db.append limits plan now trusted = .ok (db', record)) : db'.Numbered := by
  obtain ⟨hverified, ⟨-, rfl⟩ | ⟨-, hstream, hsequence, -, -, -, rfl⟩⟩ := append_ok h
  · exact hnum
  · intro streamId
    by_cases hid : record.streamId = streamId
    · subst hid
      rw [streamRows_withRecord, List.length_append, List.length_singleton]
      intro row hrow
      rcases List.mem_append.1 hrow with hrow | hrow
      · have := hnum _ row hrow
        omega
      · rw [← hstream] at hverified hsequence
        rw [(verified_chain hverified).length] at hsequence
        rw [List.mem_singleton.1 hrow]
        change (record.sequence : ℤ) ≤ _
        omega
    · rw [streamRows_withRecord_of_ne hid]
      exact hnum streamId

/-- A row beyond the new one stays the last row, and holds a record of the wrong sequence. -/
theorem hasRoom_of_verified {now' : Time} {trusted' : Option AuditCheckpoint}
    (hverified : (db.verifyLocked limits record.streamId now trusted).status = .verified)
    (hsequence : record.sequence = (db.storedRecords record.streamId).length + 1)
    (hfresh : ∀ row ∈ db.records,
      auditRowClash (AuditDatabase.recordRow record idempotencyDigest) row = false)
    (hafter : ((db.withRecord record idempotencyDigest).verifyLocked limits record.streamId now'
      trusted').status = .verified) : db.HasRoom limits record.streamId := by
  have hchain := verified_chain hverified
  have hchain' := verified_chain hafter
  have hcount := hchain.length
  have hcount' := hchain'.length
  obtain ⟨hlimits, -⟩ := verifyLocked_verified.1 hafter
  have hlength := (exceedsLimits_eq_false.1 hlimits).1
  rw [streamRows_withRecord, List.length_append, List.length_singleton] at hlength hcount'
  refine ⟨hlength, fun row hrow => ?_⟩
  by_contra hbeyond
  have hlt : (AuditDatabase.recordRow record idempotencyDigest).sequence < row.sequence := by
    have hstored := List.mem_filter.1 hrow
    have hstream : row.streamId = record.streamId := by simpa using hstored.2
    have hclash := hfresh row hstored.1
    have hne : row.sequence ≠ (record.sequence : ℤ) := by
      intro heq
      simp [auditRowClash, AuditDatabase.recordRow, hstream, heq] at hclash
    change (record.sequence : ℤ) < row.sequence
    omega
  have hlast : ((db.withRecord record idempotencyDigest).orderedRows record.streamId).getLast? =
      (db.orderedRows record.streamId).getLast? := by
    rw [AuditDatabase.orderedRows, streamRows_withRecord]
    exact Table.getLast?_orderBy_concat_of_lt _ ⟨row, hrow, hlt⟩
  obtain ⟨last, hlastRow⟩ := Option.isSome_iff_exists.1 (List.getLast?_isSome.2
    (List.ne_nil_of_mem ((Table.mem_orderBy AuditRow.sequence).2 hrow)))
  obtain ⟨r, hread, hseq⟩ := hchain.last_row hlastRow
  obtain ⟨r', hread', hseq'⟩ := hchain'.last_row (hlast.trans hlastRow)
  rw [hread] at hread'
  obtain rfl := Option.some.inj hread'
  omega

/-- Let a stream verify, and let an append to it return. The stream verifies again exactly
when the append repeats a stored idempotency key, or the stream held fewer records than
the store admits and no row was numbered beyond its length. -/
theorem verified_append_iff
    (hjson : ∀ record : AuditRecord, AuditRecordJson.modelValidateJson
      (AuditRecordJson.modelDumpJson record) = some record)
    {db db' : AuditDatabase} {limits : AuditLimits} {plan : AuditAppendPlan} {now now' : Time}
    {trusted trusted' : Option AuditCheckpoint} {record : AuditRecord}
    (hbefore : (db.verifyLocked limits plan.streamId now' trusted').status = .verified)
    (happend : db.append limits plan now trusted = .ok (db', record)) :
    (db'.verifyLocked limits plan.streamId now' trusted').status = .verified ↔
      (db.idempotencyRow plan).isSome = true ∨ db.HasRoom limits plan.streamId := by
  obtain ⟨-, hcase⟩ := append_ok happend
  rcases hcase with ⟨hreplay, rfl⟩ | ⟨hnew, hstream, hsequence, hprevious, hsize, hfresh, rfl⟩
  · exact ⟨fun _ => Or.inl hreplay, fun _ => hbefore⟩
  · rw [← hstream] at hbefore hsequence hprevious ⊢
    have hcount := (verified_chain hbefore).length
    constructor
    · intro hafter
      exact Or.inr (hasRoom_of_verified hbefore hsequence hfresh hafter)
    · rintro (hreplay | ⟨hroom, hlast⟩)
      · rw [hnew] at hreplay
        cases hreplay
      · refine verified_withRecord (hjson record) hbefore hsequence hprevious hsize hroom ?_
        rw [hcount]
        exact hlast

end

section

attribute [local instance] textAuditDigests textAuditJson

/-- A second record fits in a store that admits two. -/
theorem append_with_room : ∃ db' record,
    sampleAuditDatabase.append (sampleAuditLimits 2 (by decide)) (sampleAuditPlan "l") 1 none =
        .ok (db', record) ∧
      (db'.verifyLocked (sampleAuditLimits 2 (by decide)) "s" 1 none).status = .verified := by
  obtain ⟨⟨db', record⟩, happend, -⟩ := exists_ok_of_map
    (x := sampleAuditDatabase.append (sampleAuditLimits 2 (by decide)) (sampleAuditPlan "l") 1 none)
    (f := fun _ => ()) (b := ()) (by decide +kernel)
  have hbefore : (sampleAuditDatabase.verifyLocked (sampleAuditLimits 2 (by decide)) "s" 1
      none).status = .verified := by decide +kernel
  have hroom : sampleAuditDatabase.HasRoom (sampleAuditLimits 2 (by decide)) "s" :=
    ⟨by decide +kernel, by decide +kernel⟩
  exact ⟨db', record, happend,
    (verified_append_iff TextCodec.parse_text hbefore happend).2 (Or.inr hroom)⟩

/-- A stream that holds as many records as the store admits verifies, a further append to it
returns, and the stream it leaves does not verify. -/
theorem append_past_limit :
    (sampleAuditDatabase.verifyLocked (sampleAuditLimits 1 le_rfl) "s" 1 none).status =
        .verified ∧
      ∃ db' record, sampleAuditDatabase.append (sampleAuditLimits 1 le_rfl)
          (sampleAuditPlan "l") 1 none = .ok (db', record) ∧
        (db'.verifyLocked (sampleAuditLimits 1 le_rfl) "s" 1 none).failureCode =
          some "local_chain_limits_exceeded" ∧
        (db'.verifyLocked (sampleAuditLimits 1 le_rfl) "s" 1 none).status ≠ .verified := by
  refine ⟨by decide +kernel, ?_⟩
  obtain ⟨⟨db', record⟩, happend, hresult⟩ := exists_ok_of_map
    (x := sampleAuditDatabase.append (sampleAuditLimits 1 le_rfl) (sampleAuditPlan "l") 1 none)
    (f := fun r => ((r.1.verifyLocked (sampleAuditLimits 1 le_rfl) "s" 1 none).failureCode,
      (r.1.verifyLocked (sampleAuditLimits 1 le_rfl) "s" 1 none).status))
    (b := (some "local_chain_limits_exceeded", .corruptionDetected)) (by decide +kernel)
  obtain ⟨hcode, hstatus⟩ := Prod.mk.inj hresult
  exact ⟨db', record, happend, hcode, by rw [hstatus]; decide⟩

end

end VulnLoom

import VulnLoom.AuditChain

/-!
# Audit streams that verify

`verifyLocked_verified` says what `VERIFIED` means, and `verified_chain` what it proves :
the rows of the stream hold records, numbered from one, each linked to its predecessor,
and the head names the last of them. The claims about the chain rest on these two.
-/

set_option linter.unusedSectionVars false

namespace VulnLoom

variable [AuditDigests] [AuditRecordJson]

/-- The records a stream's rows hold, in the order of the rows. -/
def AuditDatabase.storedRecords (db : AuditDatabase) (streamId : Digest) : List AuditRecord :=
  (db.orderedRows streamId).filterMap fun row =>
    AuditRecordJson.modelValidateJson row.recordJson

/-! ## A scan that succeeds -/

/-- A row holds a record when its JSON reads as the record and its columns agree with it. -/
def HoldsRecord (row : AuditRow) (record : AuditRecord) : Prop :=
  AuditRecordJson.modelValidateJson row.recordJson = some record ∧
    row.recordDigest = record.recordDigest ∧ row.previousDigest = record.previousDigest ∧
    row.planId = record.planId

/-- A scan that succeeds reads every row, and what it reads is a chain. -/
theorem scanRows_ok {streamId : Digest} : ∀ {n : ℕ} {previous : Digest} {rows : List AuditRow}
    {records : List AuditRecord}, scanRows streamId n previous rows = (records, true) →
    List.Forall₂ HoldsRecord rows records ∧
      (∀ record ∈ records, record.streamId = streamId) ∧
      records.map (fun record => record.sequence) = List.range' n records.length ∧
      HashChain.Linked AuditRecord.recordDigest AuditRecord.previousDigest previous records
  | n, previous, [], records, h => by
    obtain ⟨rfl, -⟩ := Prod.mk.inj h
    exact ⟨.nil, by simp, rfl, trivial⟩
  | n, previous, row :: rows, records, h => by
    rw [scanRows] at h
    split at h
    · simp at h
    next record hread =>
      split_ifs at h with hbinds
      · obtain ⟨rfl, hrest⟩ := Prod.mk.inj h
        simp only [bindsRow, decide_eq_true_eq] at hbinds
        obtain ⟨hstream, hseq, hdigest, hprevious, hplan, hlink⟩ := hbinds
        obtain ⟨hrows, hstreams, hseqs, hlinked⟩ := scanRows_ok (Prod.ext rfl hrest)
        refine ⟨.cons ⟨hread, hdigest.symm, hprevious.symm, hplan.symm⟩ hrows, ?_, ?_, hlink,
          hlinked⟩
        · intro r hr
          rcases List.mem_cons.1 hr with rfl | hr
          · exact hstream
          · exact hstreams r hr
        · rw [List.map_cons, hseq, hseqs, List.length_cons, List.range'_succ]
      · simp at h

variable {records : List AuditRecord}

theorem map_eq_of_forall₂ {rows : List AuditRow} (h : List.Forall₂ HoldsRecord rows records) :
    rows.map (fun row => AuditRecordJson.modelValidateJson row.recordJson) =
      records.map some := by
  induction h with
  | nil => rfl
  | cons hrow _ ih => rw [List.map_cons, hrow.1, ih, List.map_cons]

theorem filterMap_eq_of_forall₂ {rows : List AuditRow} (h : List.Forall₂ HoldsRecord rows records) :
    rows.filterMap (fun row => AuditRecordJson.modelValidateJson row.recordJson) = records := by
  have hmap := congrArg (List.filterMap id) (map_eq_of_forall₂ h)
  simpa [List.filterMap_map, Function.comp_def] using hmap

theorem chainHead_eq_head : ∀ records : List AuditRecord,
    chainHead records = HashChain.head AuditRecord.recordDigest auditGenesisDigest records := by
  intro records
  rcases List.eq_nil_or_concat records with rfl | ⟨init, last, rfl⟩
  · rfl
  · rw [List.concat_eq_append, HashChain.head_concat, chainHead, List.getLast?_concat]

/-- What a checkpoint of sequence `k` anchors is the head of the first `k` records. -/
theorem anchoredDigest_eq_head {k : ℕ} (hk : k ≤ records.length) : anchoredDigest records k =
      HashChain.head AuditRecord.recordDigest auditGenesisDigest (records.take k) := by
  cases k with
  | zero => rfl
  | succ k =>
    have hget : records[k]? = some records[k] := List.getElem?_eq_getElem hk
    rw [List.take_succ_eq_append_getElem hk, HashChain.head_concat, anchoredDigest,
      if_neg (Nat.succ_ne_zero k), Nat.add_sub_cancel, hget]

/-! ## A stream that verifies -/

/-- A stream as its verification sees it : rows that hold records, numbered from one, each
linked to its predecessor, and a head that names the last of them. -/
structure VerifiedChain (db : AuditDatabase) (streamId : Digest) (records : List AuditRecord) :
    Prop where
  rows : List.Forall₂ HoldsRecord (db.orderedRows streamId) records
  streams : ∀ record ∈ records, record.streamId = streamId
  sequences : records.map (fun record => record.sequence) = List.range' 1 records.length
  linked : HashChain.Linked AuditRecord.recordDigest AuditRecord.previousDigest
    auditGenesisDigest records
  head : headBound records (db.headRow streamId) = true

variable {db : AuditDatabase} {streamId : Digest}

theorem VerifiedChain.storedRecords (h : VerifiedChain db streamId records) :
    db.storedRecords streamId = records :=
  filterMap_eq_of_forall₂ h.rows

variable {now : Time} {checkpoint : AuditCheckpoint}

/-- A checkpoint never reports a failure as `VERIFIED`. -/
theorem checkpointFailure_ne_verified {failure : AuditVerificationStatus × String}
    (h : checkpointFailure streamId now records checkpoint = some failure) :
    failure.1 ≠ .verified := by
  unfold checkpointFailure at h
  split_ifs at h <;> cases h <;> decide

variable {limits : AuditLimits} {trusted : Option AuditCheckpoint}

/-- What `VERIFIED` means : the limits hold, the scan reads every row, the head names the
last record, and a trusted checkpoint finds nothing wrong. -/
theorem verifyLocked_verified : (db.verifyLocked limits streamId now trusted).status = .verified ↔
      db.exceedsLimits limits streamId = false ∧ ∃ records,
        scanRows streamId 1 auditGenesisDigest (db.orderedRows streamId) = (records, true) ∧
        headBound records (db.headRow streamId) = true ∧
        trusted.bind (checkpointFailure streamId now records) = none := by
  unfold AuditDatabase.verifyLocked
  by_cases hlimits : db.exceedsLimits limits streamId = true
  · simp [hlimits]
  rw [if_neg hlimits]
  generalize scanRows streamId 1 auditGenesisDigest (db.orderedRows streamId) = scan
  obtain ⟨records, ok⟩ := scan
  by_cases hok : (ok && headBound records (db.headRow streamId)) = true
  · obtain ⟨rfl, hhead⟩ := Bool.and_eq_true_iff.1 hok
    cases hfailure : trusted.bind (checkpointFailure streamId now records) with
    | none =>
      simp only [if_pos hok, hfailure]
      exact ⟨fun _ => ⟨by simpa using hlimits, records, rfl, hhead, hfailure⟩, fun _ => rfl⟩
    | some failure =>
      obtain ⟨checkpoint, -, hcheckpoint⟩ := Option.bind_eq_some_iff.1 hfailure
      simp only [if_pos hok, hfailure]
      constructor
      · intro h
        exact absurd h (checkpointFailure_ne_verified hcheckpoint)
      · rintro ⟨-, records', heq, -, hnone⟩
        obtain ⟨rfl, -⟩ := Prod.mk.inj heq
        rw [hfailure] at hnone
        cases hnone
  · simp only [if_neg hok]
    constructor
    · intro h
      cases h
    · rintro ⟨-, records', heq, hhead, -⟩
      obtain ⟨rfl, rfl⟩ := Prod.mk.inj heq
      exact absurd (by rw [hhead]; rfl) hok

theorem verified_chain (h : (db.verifyLocked limits streamId now trusted).status = .verified) :
    VerifiedChain db streamId (db.storedRecords streamId) := by
  obtain ⟨-, records, hscan, hhead, -⟩ := verifyLocked_verified.1 h
  obtain ⟨hrows, hstreams, hsequences, hlinked⟩ := scanRows_ok hscan
  have hchain : VerifiedChain db streamId records := ⟨hrows, hstreams, hsequences, hlinked, hhead⟩
  rw [hchain.storedRecords]
  exact hchain

/-- The result of a verification names the stored records. -/
theorem verified_result (h : (db.verifyLocked limits streamId now trusted).status = .verified) :
    (db.verifyLocked limits streamId now trusted).recordCount =
        (db.storedRecords streamId).length ∧
      (db.verifyLocked limits streamId now trusted).headDigest =
        chainHead (db.storedRecords streamId) := by
  obtain ⟨hlimits, records, hscan, -, -⟩ := verifyLocked_verified.1 h
  rw [AuditDatabase.storedRecords, filterMap_eq_of_forall₂ (scanRows_ok hscan).1]
  simp [AuditDatabase.verifyLocked, hlimits, hscan]

/-- A trusted checkpoint that finds nothing wrong anchors one of the records. -/
theorem checkpointFailure_eq_none (h : checkpointFailure streamId now records checkpoint = none) :
    checkpoint.issuedAt ≤ now ∧ checkpoint.streamId = streamId ∧
      checkpoint.sequence ≤ records.length ∧
      anchoredDigest records checkpoint.sequence = checkpoint.headDigest := by
  unfold checkpointFailure at h
  split_ifs at h with htime hstream hlength hanchor
  exact ⟨not_lt.1 htime, not_not.1 hstream, not_lt.1 hlength, not_not.1 hanchor⟩

end VulnLoom

import VulnLoom.AuditVerify
import VulnLoom.AuditText

/-!
# What a trusted checkpoint commits to

A checkpoint holds the digest of the last record that was stored when it was issued. With
an injective digest a database that verifies against it holds the records that were there
then, whatever was done to the rows in between : the hash chain of the records up to that
one is determined by its length and its head (`HashChain.eq_of_head_eq`).
-/

namespace VulnLoom

section

variable [AuditDigests] [AuditRecordJson]

/-! ## Checkpoints -/

/-- A checkpoint that is issued counts the stored records and holds their head. -/
theorem checkpoint_ok {db : AuditDatabase} {limits : AuditLimits} {streamId : Digest}
    {now : Time} {checkpoint : AuditCheckpoint}
    (h : db.checkpoint limits streamId now = .ok checkpoint) :
    (db.verifyLocked limits streamId now none).status = .verified ∧
      checkpoint.streamId = streamId ∧
      checkpoint.sequence = (db.storedRecords streamId).length ∧
      checkpoint.headDigest = chainHead (db.storedRecords streamId) := by
  simp only [AuditDatabase.checkpoint, bind_eq_ok, raiseIf_eq_ok, not_not] at h
  obtain ⟨-, hverified, h⟩ := h
  obtain ⟨hcount, hhead⟩ := verified_result hverified
  split_ifs at h
  simp only [pure_eq_ok] at h
  subst h
  exact ⟨hverified, rfl, hcount, hhead⟩

/-- What verification against a checkpoint proves of a database. -/
structure CommitsTo (db : AuditDatabase) (streamId : Digest) (issued : List AuditRecord) :
    Prop where
  /-- the first records are the ones that were stored when the checkpoint was issued -/
  records : (db.storedRecords streamId).take issued.length = issued
  /-- every row holds a record, which its columns agree with -/
  rows : List.Forall₂ HoldsRecord (db.orderedRows streamId) (db.storedRecords streamId)
  sequences : (db.storedRecords streamId).map (fun record => record.sequence) =
    List.range' 1 (db.storedRecords streamId).length
  links : HashChain.Linked AuditRecord.recordDigest AuditRecord.previousDigest
    auditGenesisDigest (db.storedRecords streamId)
  head : headBound (db.storedRecords streamId) (db.headRow streamId) = true

/-- Let a checkpoint be issued over `db`, and let `db'` be any database at all. If `db'`
verifies against the checkpoint, it holds the records that `db` held. -/
theorem commitsTo_of_verified
    (hinj : Function.Injective (canonicalDigest : AuditRecord → Digest))
    {db db' : AuditDatabase} {limits limits' : AuditLimits} {streamId streamId' : Digest}
    {now now' : Time} {checkpoint : AuditCheckpoint}
    (hissued : db.checkpoint limits streamId now = .ok checkpoint)
    (hverified : (db'.verifyLocked limits' streamId' now' (some checkpoint)).status =
      .verified) :
    streamId' = streamId ∧ checkpoint.sequence = (db.storedRecords streamId).length ∧
      CommitsTo db' streamId (db.storedRecords streamId) := by
  obtain ⟨hverified₀, hstream₀, hcount, hhead₀⟩ := checkpoint_ok hissued
  have hchain₀ := verified_chain hverified₀
  have hchain := verified_chain hverified
  obtain ⟨-, records, hscan, -, htrusted⟩ := verifyLocked_verified.1 hverified
  have hrecords : db'.storedRecords streamId' = records :=
    filterMap_eq_of_forall₂ (scanRows_ok hscan).1
  obtain ⟨-, hstream, hle, hanchor⟩ := checkpointFailure_eq_none htrusted
  have hsame : streamId' = streamId := hstream.symm.trans hstream₀
  subst hsame
  rw [← hrecords] at hle hanchor
  -- the anchored digest is the head of the first records of the new chain
  rw [anchoredDigest_eq_head hle, hhead₀, chainHead_eq_head, hcount] at hanchor
  have hprefix : (db'.storedRecords streamId').take (db.storedRecords streamId').length =
      db.storedRecords streamId' := by
    refine HashChain.eq_of_head_eq _ _ hinj (hchain.linked.take _ _ _) hchain₀.linked ?_ hanchor
    rw [List.length_take, ← hcount]
    omega
  exact ⟨rfl, hcount, hprefix, hchain.rows, hchain.sequences, hchain.linked, hchain.head⟩

end

section

attribute [local instance] textAuditDigests textAuditJson

/-- The stream of one record commits to it : its checkpoint still verifies after the row's
idempotency key, which no digest binds, has been rewritten. -/
theorem commitsTo_rewritten : ∃ checkpoint,
    sampleAuditDatabase.checkpoint (sampleAuditLimits 1 le_rfl) "s" 1 = .ok checkpoint ∧
      CommitsTo ⟨sampleAuditDatabase.records.map fun row => { row with idempotencyDigest := "z" },
        sampleAuditDatabase.heads⟩ "s" (sampleAuditDatabase.storedRecords "s") := by
  obtain ⟨checkpoint, hissued, hverified⟩ := exists_ok_of_map
    (x := sampleAuditDatabase.checkpoint (sampleAuditLimits 1 le_rfl) "s" 1)
    (f := fun checkpoint => (AuditDatabase.verifyLocked
      ⟨sampleAuditDatabase.records.map fun row => { row with idempotencyDigest := "z" },
        sampleAuditDatabase.heads⟩ (sampleAuditLimits 1 le_rfl) "s" 2 (some checkpoint)).status)
    (b := .verified) (by decide +kernel)
  exact ⟨checkpoint, hissued,
    (commitsTo_of_verified TextCodec.text_injective hissued hverified).2.2⟩

end

end VulnLoom

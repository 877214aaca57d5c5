import VulnLoom.AuditChain
import VulnLoom.TextCodec

/-!
# Audit records as text

A concrete digest and a concrete JSON for audit records : both write the record as text, so
the digest is injective and the JSON reads back.
-/

namespace VulnLoom

instance : TextCodec AuditOutcome :=
  TextCodec.record
    (fun
      | .committed => (false, false)
      | .rejected => (false, true)
      | .timedOut => (true, false)
      | .cleanupFailed => (true, true))
    (fun
      | (false, false) => some .committed
      | (false, true) => some .rejected
      | (true, false) => some .timedOut
      | (true, true) => some .cleanupFailed)
    fun outcome => by cases outcome <;> rfl

instance : TextCodec AuditStateBindings :=
  TextCodec.record
    (fun b => (b.engagementId, b.scopeId, b.scopeVersion, b.policyDigest, b.sandboxProfileDigest,
      b.contextDigest, b.toolRegistryDigest, b.providerRevisionDigest, b.inputDigests))
    (fun (engagementId, scopeId, scopeVersion, policyDigest, sandboxProfileDigest, contextDigest,
        toolRegistryDigest, providerRevisionDigest, inputDigests) =>
      if h : 1 ≤ scopeVersion ∧ (1 ≤ inputDigests.length ∧ inputDigests.length ≤ 64) ∧
          inputDigests.Pairwise (· < ·) then
        some ⟨engagementId, scopeId, scopeVersion, policyDigest, sandboxProfileDigest,
          contextDigest, toolRegistryDigest, providerRevisionDigest, inputDigests, h.1, h.2.1,
          h.2.2⟩
      else none)
    fun b => dif_pos ⟨b.scopeVersion_pos, b.inputDigests_bounds, b.inputDigests_sorted⟩

instance : TextCodec AuditRecord :=
  TextCodec.record
    (fun r => (r.streamId, r.sequence, r.previousDigest, r.planId, r.eventType, r.aggregateId,
      r.transitionDigest, r.bindings, r.outcome, r.cleanupVerified, r.occurredAt, r.sealedAt))
    (fun (streamId, sequence, previousDigest, planId, eventType, aggregateId, transitionDigest,
        bindings, outcome, cleanupVerified, occurredAt, sealedAt) =>
      if h : 1 ≤ sequence ∧ isEventType eventType = true ∧ occurredAt ≤ sealedAt then
        some ⟨streamId, sequence, previousDigest, planId, eventType, aggregateId,
          transitionDigest, bindings, outcome, cleanupVerified, occurredAt, sealedAt, h.1, h.2.1,
          h.2.2⟩
      else none)
    fun r => dif_pos ⟨r.sequence_pos, r.eventType_ok, r.sealed_after⟩

@[reducible] def textAuditDigests : AuditDigests where
  mapping := ⟨fun fields => if fields.length = 2 then "0" else "1"⟩
  plan := ⟨fun plan => plan.idempotencyDigest⟩
  record := ⟨TextCodec.text⟩
  checkpoint :=
    let _ : CanonicalDigest (List (String × String)) :=
      ⟨fun fields => if fields.length = 2 then "0" else "1"⟩
    ⟨fun checkpoint => TextCodec.text (checkpoint.streamId, checkpoint.sequence)⟩

@[reducible] def textAuditJson : AuditRecordJson where
  modelDumpJson := TextCodec.text
  modelValidateJson := TextCodec.parse

section

attribute [local instance] textAuditDigests textAuditJson

def sampleAuditPlan (idempotencyDigest : Digest) : AuditAppendPlan where
  streamId := "s"
  eventType := "e"
  aggregateId := "a"
  transitionDigest := "t"
  bindings := ⟨"g", "c", 1, "p", "b", "x", "r", "v", ["i"], by decide, by decide, by decide⟩
  outcome := .committed
  cleanupVerified := true
  occurredAt := 0
  deadline := 9
  idempotencyDigest := idempotencyDigest
  eventType_ok := by decide
  deadline_bounds := by decide

/-- A store that admits the given number of records. -/
def sampleAuditLimits (n : ℕ) (h : 1 ≤ n) : AuditLimits :=
  ⟨n, 1000, h, by decide⟩

/-- A stream of one record. -/
def sampleAuditDatabase : AuditDatabase :=
  match AuditDatabase.empty.append (sampleAuditLimits 1 le_rfl) (sampleAuditPlan "k") 1 none with
  | .ok (db, _) => db
  | .error _ => AuditDatabase.empty

end

end VulnLoom

import VulnLoom.SourceHuntModels
import VulnLoom.TextCodec

/-!
# Investigations as text

Concrete digests of plans, checkpoints and observations that write the whole record, so they
are injective.
-/

namespace VulnLoom

instance : TextCodec SourceLanguage :=
  TextCodec.record
    (fun
      | .python => 0
      | .javascript => 1
      | .typescript => 2)
    (fun
      | 0 => some .python
      | 1 => some .javascript
      | _ => some .typescript)
    fun language => by cases language <;> rfl

instance : TextCodec SourceSymbolKind :=
  TextCodec.record
    (fun
      | .function => false
      | .classDef => true)
    (fun b => some (if b then .classDef else .function))
    fun kind => by cases kind <;> rfl

instance : TextCodec SourceReferenceKind :=
  TextCodec.record
    (fun
      | .call => false
      | .importRef => true)
    (fun b => some (if b then .importRef else .call))
    fun kind => by cases kind <;> rfl

instance : TextCodec InvestigationStatus :=
  TextCodec.record
    (fun
      | .active => (false, false)
      | .readyForCandidates => (false, true)
      | .cancelled => (true, false)
      | .timedOut => (true, true))
    (fun
      | (false, false) => some .active
      | (false, true) => some .readyForCandidates
      | (true, false) => some .cancelled
      | (true, true) => some .timedOut)
    fun status => by cases status <;> rfl

instance : TextCodec InvestigationQueryKind :=
  TextCodec.record
    (fun
      | .symbol => 0
      | .callers => 1
      | .callees => 2
      | .references => 3
      | .sourceWindow => 4)
    (fun
      | 0 => some .symbol
      | 1 => some .callers
      | 2 => some .callees
      | 3 => some .references
      | _ => some .sourceWindow)
    fun kind => by cases kind <;> rfl

instance : TextCodec SourceLocation :=
  TextCodec.record (fun l => (l.path, l.line, l.symbol))
    (fun (path, line, symbol) => some ⟨path, line, symbol⟩) fun _ => rfl

instance : TextCodec SourceSymbol :=
  TextCodec.record (fun s => (s.language, s.qualifiedName, s.kind, s.location))
    (fun (language, qualifiedName, kind, location) =>
      some ⟨language, qualifiedName, kind, location⟩) fun _ => rfl

instance : TextCodec SourceReference :=
  TextCodec.record
    (fun r => (r.language, r.kind, r.sourceSymbol, r.targetName, r.resolvedSymbolId, r.location))
    (fun (language, kind, sourceSymbol, targetName, resolvedSymbolId, location) =>
      some ⟨language, kind, sourceSymbol, targetName, resolvedSymbolId, location⟩) fun _ => rfl

instance : TextCodec SourceExcerpt :=
  TextCodec.record
    (fun e => (e.symbolId, e.path, e.startLine, e.endLine, e.redactedText, e.textDigest))
    (fun (symbolId, path, startLine, endLine, redactedText, textDigest) =>
      some ⟨symbolId, path, startLine, endLine, redactedText, textDigest⟩) fun _ => rfl

instance : TextCodec InvestigationObservation :=
  TextCodec.record
    (fun o => (o.queryDigest, o.kind, o.matchedSymbols, o.matchedReferences, o.sourceExcerpts,
      o.truncated))
    (fun (queryDigest, kind, matchedSymbols, matchedReferences, sourceExcerpts, truncated) =>
      some ⟨queryDigest, kind, matchedSymbols, matchedReferences, sourceExcerpts, truncated⟩)
    fun _ => rfl

instance : TextCodec SourceHuntLimits :=
  TextCodec.record
    (fun l => (l.maxFiles, l.maxTotalBytes, l.maxSingleFileBytes, l.maxFilesPerPartition,
      l.maxQueries, l.maxObservations, l.timeoutSeconds))
    (fun (maxFiles, maxTotalBytes, maxSingleFileBytes, maxFilesPerPartition, maxQueries,
        maxObservations, timeoutSeconds) =>
      if h : (1 ≤ maxFiles ∧ maxFiles ≤ 100000 ∧ 1 ≤ maxTotalBytes ∧ 1 ≤ maxSingleFileBytes ∧
          1 ≤ maxFilesPerPartition ∧ maxFilesPerPartition ≤ 2000) ∧
          (0 < timeoutSeconds ∧ timeoutSeconds ≤ 3600) ∧
          (1 ≤ maxQueries ∧ maxQueries ≤ 1000) ∧
          (1 ≤ maxObservations ∧ maxObservations ≤ 1000) then
        some ⟨maxFiles, maxTotalBytes, maxSingleFileBytes, maxFilesPerPartition, maxQueries,
          maxObservations, timeoutSeconds, h.1, h.2.1, h.2.2.1, h.2.2.2⟩
      else none)
    fun l => dif_pos ⟨l.file_bounds, l.timeout_bounds, l.maxQueries_bounds,
      l.maxObservations_bounds⟩

instance : TextCodec InvestigationPlan :=
  TextCodec.record
    (fun p => (p.indexId, p.targetId, p.targetVersion, p.scopeId, p.scopeVersion,
      p.seedSignalIds, p.limits, p.createdAt, p.deadline, p.idempotencyKey))
    (fun (indexId, targetId, targetVersion, scopeId, scopeVersion, seedSignalIds, limits,
        createdAt, deadline, idempotencyKey) =>
      if h : createdAt < deadline then
        some ⟨⟨indexId, targetId, targetVersion, scopeId, scopeVersion, seedSignalIds, limits,
          createdAt, deadline, idempotencyKey⟩, h⟩
      else none)
    fun p => dif_pos p.window

instance : TextCodec InvestigationCheckpoint :=
  TextCodec.record
    (fun c => (c.planId, c.indexId, c.status, c.revision, c.queriesUsed, c.observationIds,
      c.queryDigests, c.conclusionDigest, c.reasonCode, c.updatedAt))
    (fun (planId, indexId, status, revision, queriesUsed, observationIds, queryDigests,
        conclusionDigest, reasonCode, updatedAt) =>
      (InvestigationCheckpoint.create ⟨planId, indexId, status, revision, queriesUsed,
        observationIds, queryDigests, conclusionDigest, reasonCode, updatedAt⟩).toOption)
    fun c => by
      have h : InvestigationCheckpoint.create c.toInvestigationCheckpointValues = .ok c :=
        InvestigationCheckpoint.create_eq_ok.2 rfl
      exact congrArg Except.toOption h

/-- Digests that write the whole of a plan, a checkpoint and an observation. -/
@[reducible] def codecHuntDigests : SourceHuntDigests where
  symbol := ⟨TextCodec.text⟩
  reference := ⟨TextCodec.text⟩
  index := ⟨fun index => index.manifestId⟩
  query := ⟨fun query => TextCodec.text (query.kind, query.term, query.maxResults)⟩
  observation := ⟨TextCodec.text⟩
  plan := ⟨TextCodec.text⟩
  checkpoint := ⟨TextCodec.text⟩
  proposal := ⟨fun proposal => proposal.title⟩

end VulnLoom

import VulnLoom.SourceHuntStore

/-!
# The Source Hunt service

Starting an investigation, and the four calls that move it. A source reader is a function
that may raise; `str.casefold` is `PythonUnicode`'s.
-/

set_option linter.unusedSectionVars false

namespace VulnLoom

section

variable [SourceHuntDigests] [PythonUnicode]

/-- `SourceContextReader.read_window`. -/
abbrev SourceContextReader :=
  SourceFileRecord → Digest → ℕ → Except SourceHuntError SourceExcerpt

/-! ## Checks -/

/-- `SourceHuntService._scope`. -/
def requireHuntScope (index : RepositoryIndex) (scope : Scope) (now : Time) :
    Except SourceHuntError Unit :=
  raiseIf (scope.state ≠ .approved ∨ ¬(scope.validFrom ≤ now ∧ now < scope.validUntil) ∨
      index.scopeId ≠ scope.scopeId ∨ index.scopeVersion ≠ scope.version)
    (.rejected "Source Hunt requires the bound approved Scope")

/-- `SourceHuntService._preflight`. -/
def huntPreflight (store : SourceHuntStore) (plan : InvestigationPlan) (index : RepositoryIndex)
    (checkpoint : InvestigationCheckpoint) (scope : Scope) (now : Time) (allowExpired : Bool) :
    Except SourceHuntError Unit := do
  raiseIf (scope.state ≠ .approved ∨ index.scopeId ≠ scope.scopeId ∨
      index.scopeVersion ≠ scope.version ∨ plan.indexId ≠ index.indexId ∨
      plan.targetId ≠ index.targetId ∨ plan.targetVersion ≠ index.targetVersion ∨
      checkpoint.planId ≠ plan.planId ∨ checkpoint.indexId ≠ index.indexId)
    (.rejected "Source Hunt provenance or Scope binding mismatch")
  raiseIf (checkpoint.status ≠ .active) (.rejected "Source Hunt investigation is terminal")
  raiseIf (allowExpired = false ∧
      (¬(scope.validFrom ≤ now ∧ now < scope.validUntil) ∨ plan.deadline ≤ now))
    (.timedOut "Source Hunt investigation deadline expired")
  let current ← store.latest plan.planId
  raiseIf (current.checkpointId ≠ checkpoint.checkpointId)
    (.rejected "Source Hunt checkpoint is stale")

/-! ## Matches -/

/-- `term in text.casefold()`. -/
def foldContains (term text : String) : Bool :=
  term.toList <:+: (casefold text).toList

/-- `SourceHuntService._matches`. -/
def huntMatches (index : RepositoryIndex) (query : InvestigationQuery) :
    List SourceSymbol × List SourceReference :=
  let term := casefold query.term
  match query.kind with
  | .symbol | .sourceWindow =>
    (index.symbols.filter fun item => foldContains term item.qualifiedName, [])
  | .callers => ([], index.references.filter fun item => foldContains term item.targetName)
  | .callees => ([], index.references.filter fun item => foldContains term item.sourceSymbol)
  | .references =>
    ([], index.references.filter fun item =>
      foldContains term item.targetName || foldContains term item.sourceSymbol)

/-- The window of one symbol : its file is looked up by its path. -/
def readSymbolWindow (index : RepositoryIndex) (sourceReader : SourceContextReader)
    (item : SourceSymbol) : Except SourceHuntError SourceExcerpt := do
  let source ← orRaise (index.sourceFiles.find? fun file => file.path = item.location.path)
    .keyError
  sourceReader source item.symbolId item.location.line

/-- The excerpts of a query : only a source-window query has some. -/
def huntExcerpts (index : RepositoryIndex) (query : InvestigationQuery)
    (symbols : List SourceSymbol) (sourceReader : Option SourceContextReader) :
    Except SourceHuntError (List SourceExcerpt) :=
  if query.kind = .sourceWindow then
    match sourceReader with
    | none =>
      .error (.rejected "Source Hunt source-window query requires a trusted reader")
    | some reader => (symbols.take query.maxResults).mapM (readSymbolWindow index reader)
  else .ok []

/-- The observation that answers a query. -/
def huntObservation (index : RepositoryIndex) (query : InvestigationQuery)
    (sourceReader : Option SourceContextReader) :
    Except SourceHuntError InvestigationObservation := do
  let (symbols, references) := huntMatches index query
  let excerpts ← huntExcerpts index query symbols sourceReader
  let limit := query.maxResults
  let matched := symbols.take limit
  return {
    queryDigest := query.queryDigest
    kind := query.kind
    matchedSymbols := matched
    matchedReferences := references.take (limit - matched.length)
    sourceExcerpts := excerpts
    truncated := limit < symbols.length + references.length }

/-! ## Calls -/

/-- `SourceHuntService.start`. -/
def startHunt (store : SourceHuntStore) (index : RepositoryIndex) (scope : Scope)
    (limits : SourceHuntLimits) (now deadline : Time) (idempotencyKey : String)
    (seedSignalIds : List Digest) :
    Except SourceHuntError (SourceHuntStore × InvestigationPlan × InvestigationCheckpoint) := do
  requireHuntScope index scope now
  match store.planByIdempotencyKey idempotencyKey with
  | some existing =>
    raiseIf (existing.indexId ≠ index.indexId ∨ existing.limits ≠ limits ∨
        existing.seedSignalIds ≠ seedSignalIds)
      (.rejected "Source Hunt idempotency collision")
    let current ← store.latest existing.planId
    return (store, existing, current)
  | none =>
    let plan ← InvestigationPlan.create {
      indexId := index.indexId
      targetId := index.targetId
      targetVersion := index.targetVersion
      scopeId := index.scopeId
      scopeVersion := index.scopeVersion
      seedSignalIds := seedSignalIds
      limits := limits
      createdAt := now
      deadline := min deadline scope.validUntil
      idempotencyKey := idempotencyKey }
    let checkpoint ← InvestigationCheckpoint.create {
      planId := plan.planId
      indexId := index.indexId
      status := .active
      revision := 0
      queriesUsed := 0
      observationIds := []
      queryDigests := []
      conclusionDigest := none
      reasonCode := none
      updatedAt := now }
    let (started, first) ← store.start index plan checkpoint
    return (started, plan, first)

/-- The checkpoint after a fresh answer. -/
def queriedValues (plan : InvestigationPlan) (index : RepositoryIndex)
    (checkpoint : InvestigationCheckpoint) (observation : InvestigationObservation) (now : Time) :
    InvestigationCheckpointValues where
  planId := plan.planId
  indexId := index.indexId
  status := .active
  revision := checkpoint.revision + 1
  queriesUsed := checkpoint.queriesUsed + 1
  observationIds := checkpoint.observationIds ++ [observation.observationId]
  queryDigests := checkpoint.queryDigests ++ [observation.queryDigest]
  conclusionDigest := none
  reasonCode := none
  updatedAt := now

/-- The checkpoint that ends an investigation. -/
def closedValues (plan : InvestigationPlan) (indexId : Digest)
    (checkpoint : InvestigationCheckpoint) (status : InvestigationStatus)
    (conclusionDigest : Option Digest) (reasonCode : String) (now : Time) :
    InvestigationCheckpointValues where
  planId := plan.planId
  indexId := indexId
  status := status
  revision := checkpoint.revision + 1
  queriesUsed := checkpoint.queriesUsed
  observationIds := checkpoint.observationIds
  queryDigests := checkpoint.queryDigests
  conclusionDigest := conclusionDigest
  reasonCode := some reasonCode
  updatedAt := now

/-- The answer to a query that is not among those of the checkpoint. -/
def answerQuery (store : SourceHuntStore) (plan : InvestigationPlan) (index : RepositoryIndex)
    (checkpoint : InvestigationCheckpoint) (query : InvestigationQuery) (now : Time)
    (sourceReader : Option SourceContextReader) :
    Except SourceHuntError
      (SourceHuntStore × InvestigationCheckpoint × InvestigationObservation) := do
  raiseIf (plan.limits.maxQueries ≤ checkpoint.queriesUsed)
    (.rejected "Source Hunt query budget exhausted")
  raiseIf (plan.limits.maxObservations ≤ checkpoint.observationIds.length)
    (.rejected "Source Hunt observation budget exhausted")
  let observation ← huntObservation index query sourceReader
  let advanced ←
    InvestigationCheckpoint.create (queriedValues plan index checkpoint observation now)
  let (moved, stored, storedObservation) ← store.advance checkpoint advanced (some observation)
  let answer ← orRaise storedObservation (.validationError "AssertionError")
  return (moved, stored, answer)

/-- `SourceHuntService.query`. A query of the checkpoint is answered from the store, and
uses none of the budget. -/
def huntQuery (store : SourceHuntStore) (plan : InvestigationPlan) (index : RepositoryIndex)
    (checkpoint : InvestigationCheckpoint) (query : InvestigationQuery) (scope : Scope)
    (now : Time) (sourceReader : Option SourceContextReader) :
    Except SourceHuntError
      (SourceHuntStore × InvestigationCheckpoint × InvestigationObservation) := do
  huntPreflight store plan index checkpoint scope now false
  if query.queryDigest ∈ checkpoint.queryDigests then
    let current ← store.latest plan.planId
    let answer ← store.observation plan.planId query.queryDigest
    return (store, current, answer)
  else answerQuery store plan index checkpoint query now sourceReader

/-- `SourceHuntService.complete`. -/
def completeHunt (store : SourceHuntStore) (plan : InvestigationPlan) (index : RepositoryIndex)
    (checkpoint : InvestigationCheckpoint) (conclusionDigest : Digest) (scope : Scope)
    (now : Time) : Except SourceHuntError (SourceHuntStore × InvestigationCheckpoint) := do
  huntPreflight store plan index checkpoint scope now false
  raiseIf (checkpoint.observationIds = [])
    (.rejected "Source Hunt cannot complete without observations")
  let advanced ← InvestigationCheckpoint.create (closedValues plan index.indexId checkpoint
    .readyForCandidates (some conclusionDigest) "investigation_completed" now)
  let (moved, stored, _) ← store.advance checkpoint advanced none
  return (moved, stored)

/-- `SourceHuntService.cancel`. -/
def cancelHunt (store : SourceHuntStore) (plan : InvestigationPlan) (index : RepositoryIndex)
    (checkpoint : InvestigationCheckpoint) (scope : Scope) (now : Time) :
    Except SourceHuntError (SourceHuntStore × InvestigationCheckpoint) := do
  huntPreflight store plan index checkpoint scope now true
  let advanced ← InvestigationCheckpoint.create (closedValues plan index.indexId checkpoint
    .cancelled none "cancelled_by_operator" now)
  let (moved, stored, _) ← store.advance checkpoint advanced none
  return (moved, stored)

/-- `SourceHuntService.expire`. -/
def expireHunt (store : SourceHuntStore) (plan : InvestigationPlan)
    (checkpoint : InvestigationCheckpoint) (now : Time) :
    Except SourceHuntError (SourceHuntStore × InvestigationCheckpoint) := do
  raiseIf (now < plan.deadline) (.rejected "Source Hunt plan has not expired")
  if checkpoint.status ≠ .active then return (store, checkpoint)
  else
    let advanced ← InvestigationCheckpoint.create (closedValues plan plan.indexId checkpoint
      .timedOut none "deadline_expired" now)
    let (moved, stored, _) ← store.advance checkpoint advanced none
    return (moved, stored)

/-! ## What a call returns -/

variable {store : SourceHuntStore} {plan : InvestigationPlan} {index : RepositoryIndex}
  {checkpoint : InvestigationCheckpoint} {query : InvestigationQuery} {scope : Scope}
  {now : Time} {sourceReader : Option SourceContextReader}

/-- A preflight finds the checkpoint active, of the plan, and the latest by its digest. -/
theorem huntPreflight_ok {allowExpired : Bool}
    (h : huntPreflight store plan index checkpoint scope now allowExpired = .ok ()) :
    checkpoint.planId = plan.planId ∧ checkpoint.indexId = index.indexId ∧
      checkpoint.status = .active ∧
      ∃ current, store.latest plan.planId = .ok current ∧
        current.checkpointId = checkpoint.checkpointId := by
  simp only [huntPreflight, bind_eq_ok, raiseIf_eq_ok, not_or, not_not] at h
  obtain ⟨-, ⟨-, -, -, -, -, -, hplan, hindex⟩, -, hactive, -, -, current, hcurrent, hid⟩ := h
  exact ⟨hplan, hindex, hactive, current, hcurrent, hid⟩

/-- A preflight of a step finds the scope current, and the index bound to it. -/
theorem huntPreflight_scope
    (h : huntPreflight store plan index checkpoint scope now false = .ok ()) :
    scope.state = .approved ∧ (scope.validFrom ≤ now ∧ now < scope.validUntil) ∧
      index.scopeId = scope.scopeId ∧ index.scopeVersion = scope.version := by
  simp only [huntPreflight, bind_eq_ok, raiseIf_eq_ok, true_and, not_or, not_not] at h
  obtain ⟨-, ⟨hstate, hid, hversion, -⟩, -, -, -, ⟨hwindow, -⟩, -⟩ := h
  exact ⟨hstate, hwindow, hid, hversion⟩

variable {observation : InvestigationObservation}

theorem huntObservation_queryDigest
    (h : huntObservation index query sourceReader = .ok observation) :
    observation.queryDigest = query.queryDigest := by
  simp only [huntObservation, bind_eq_ok, pure_eq_ok] at h
  obtain ⟨_, -, rfl⟩ := h
  rfl

/-- A fresh answer makes a checkpoint that its validator accepts. -/
theorem exists_queried (hquery : observation.queryDigest ∉ checkpoint.queryDigests)
    (hid : observation.observationId ∉ checkpoint.observationIds) :
    ∃ advanced : InvestigationCheckpoint, advanced.toInvestigationCheckpointValues =
      queriedValues plan index checkpoint observation now := by
  have hqueries := checkpoint.nodup_queryDigests.concat hquery
  have hobservations := checkpoint.nodup_observationIds.concat hid
  have hsealed : (queriedValues plan index checkpoint observation now).sealed = .ok () := by
    rw [InvestigationCheckpointValues.sealed_eq_ok]
    simp only [List.concat_eq_append] at hqueries hobservations
    exact ⟨by simp [queriedValues], by simp [queriedValues],
      by simp [queriedValues, checkpoint.queriesUsed_eq], hqueries, hobservations⟩
  exact ⟨⟨_, hsealed⟩, rfl⟩

variable {result : SourceHuntStore × InvestigationCheckpoint × InvestigationObservation}

/-- A fresh answer from the latest checkpoint. -/
theorem answerQuery_eq_ok (hlatest : store.latest plan.planId = .ok checkpoint)
    (hplan : checkpoint.planId = plan.planId) :
    answerQuery store plan index checkpoint query now sourceReader = .ok result ↔
      checkpoint.queriesUsed < plan.limits.maxQueries ∧
      checkpoint.observationIds.length < plan.limits.maxObservations ∧
      ∃ observation advanced, huntObservation index query sourceReader = .ok observation ∧
        advanced.toInvestigationCheckpointValues =
          queriedValues plan index checkpoint observation now ∧
        store.Accepts advanced (some observation) ∧
        (store.advanced advanced (some observation), advanced, observation) = result := by
  rw [← hplan] at hlatest
  simp only [answerQuery, bind_eq_ok, raiseIf_eq_ok, not_le, orRaise_eq_ok, pure_eq_ok,
    InvestigationCheckpoint.create_eq_ok, Prod.exists]
  constructor
  · rintro ⟨-, hqueries, -, hobservations, observation, hobservation, advanced, hvalues, moved,
      stored, answer, hadvance, hanswer⟩
    have hid : advanced.planId = checkpoint.planId := by simp [hvalues, queriedValues, hplan]
    have hrevision : advanced.revision = checkpoint.revision + 1 := by
      simp [hvalues, queriedValues]
    rw [SourceHuntStore.advance_eq_ok hlatest hid hrevision] at hadvance
    obtain ⟨haccepts, heq⟩ := hadvance
    obtain ⟨rfl, rfl, rfl⟩ := heq
    obtain ⟨_, hsome, rfl⟩ := hanswer
    obtain rfl := Option.some.inj hsome
    exact ⟨hqueries, hobservations, observation, _, hobservation, hvalues, haccepts, rfl⟩
  · rintro ⟨hqueries, hobservations, observation, advanced, hobservation, hvalues, haccepts, rfl⟩
    have hid : advanced.planId = checkpoint.planId := by simp [hvalues, queriedValues, hplan]
    have hrevision : advanced.revision = checkpoint.revision + 1 := by
      simp [hvalues, queriedValues]
    refine ⟨(), hqueries, (), hobservations, observation, hobservation, advanced, hvalues, _, _,
      _, (SourceHuntStore.advance_eq_ok hlatest hid hrevision).2 ⟨haccepts, rfl⟩, _, rfl, rfl⟩

/-- The state after a fresh answer : the new checkpoint is the latest one, and counts one more
query than the checkpoint it follows. -/
theorem answerQuery_latest (hlatest : store.latest plan.planId = .ok checkpoint)
    (h : answerQuery store plan index checkpoint query now sourceReader = .ok result) :
    result.1.latest plan.planId = .ok result.2.1 ∧
      result.2.1.queriesUsed = checkpoint.queriesUsed + 1 ∧
      checkpoint.queriesUsed < plan.limits.maxQueries := by
  have hplan := (SourceHuntStore.latest_ok hlatest).2
  obtain ⟨hqueries, -, observation, advanced, -, hvalues, -, rfl⟩ :=
    (answerQuery_eq_ok hlatest hplan).1 h
  have hid : advanced.planId = checkpoint.planId := by simp [hvalues, queriedValues, hplan]
  have hrevision : advanced.revision = checkpoint.revision + 1 := by
    simp [hvalues, queriedValues]
  refine ⟨?_, by simp [hvalues, queriedValues], hqueries⟩
  rw [← hplan] at hlatest ⊢
  exact SourceHuntStore.latest_concat hlatest hid hrevision rfl

/-- A query that is answered from the latest checkpoint is an answered one, which changes
nothing, or a fresh one. -/
theorem huntQuery_ok {moved : SourceHuntStore} {stored : InvestigationCheckpoint}
    {answer : InvestigationObservation} (hlatest : store.latest plan.planId = .ok checkpoint)
    (h : huntQuery store plan index checkpoint query scope now sourceReader =
      .ok (moved, stored, answer)) :
    huntPreflight store plan index checkpoint scope now false = .ok () ∧
      ((query.queryDigest ∈ checkpoint.queryDigests ∧ moved = store ∧ stored = checkpoint ∧
          answer.queryDigest = query.queryDigest) ∨
        query.queryDigest ∉ checkpoint.queryDigests ∧
          answerQuery store plan index checkpoint query now sourceReader =
            .ok (moved, stored, answer)) := by
  simp only [huntQuery, bind_eq_ok] at h
  obtain ⟨⟨⟩, hpreflight, h⟩ := h
  refine ⟨hpreflight, ?_⟩
  split_ifs at h with hmem
  · simp only [hlatest, ok_bind, bind_eq_ok, pure_eq_ok, Prod.mk.injEq] at h
    obtain ⟨_, hobservation, rfl, rfl, rfl⟩ := h
    exact Or.inl ⟨hmem, rfl, rfl, SourceHuntStore.observation_queryDigest hobservation⟩
  · exact Or.inr ⟨hmem, h⟩

end

/-! ## A small investigation -/

/-- Digests that are short enough to compute with. -/
@[reducible] def textHuntDigests : SourceHuntDigests where
  symbol := ⟨fun symbol => "s" ++ symbol.qualifiedName⟩
  reference := ⟨fun reference => "r" ++ reference.targetName⟩
  index := ⟨fun index => "i" ++ index.manifestId⟩
  query := ⟨fun query => "q" ++ query.term⟩
  observation := ⟨fun observation => "o" ++ observation.queryDigest⟩
  plan := ⟨fun plan => "p" ++ plan.idempotencyKey⟩
  checkpoint := ⟨fun checkpoint => checkpoint.planId ++ toString checkpoint.revision⟩
  proposal := ⟨fun proposal => "d" ++ proposal.title⟩

def sampleHuntLimits : SourceHuntLimits where
  maxFiles := 10
  maxTotalBytes := 100
  maxSingleFileBytes := 100
  maxFilesPerPartition := 10
  maxQueries := 2
  maxObservations := 2
  timeoutSeconds := 1
  file_bounds := by decide
  timeout_bounds := by decide
  maxQueries_bounds := by decide
  maxObservations_bounds := by decide

/-- An index without a symbol. -/
def sampleIndex : RepositoryIndex where
  targetId := "t"
  targetVersion := "1"
  scopeId := "s"
  scopeVersion := 1
  manifestId := "m"
  adapterVersions := []
  sourceFiles := []
  filesIndexed := []
  symbols := []
  references := []
  buildSystems := []
  partitions := []
  skippedFiles := []
  files_sorted := List.Pairwise.nil
  files_nodup := List.nodup_nil
  files_disjoint := by simp
  files_bound := rfl
  partitions_contiguous := rfl

def sampleQuery : InvestigationQuery where
  kind := .symbol
  term := "f"
  maxResults := 32
  term_bounds := by decide
  maxResults_bounds := by decide

/-- The plan of the idempotency key `key`. -/
def sampleHuntPlan (key : String) : InvestigationPlan where
  indexId := "im"
  targetId := "t"
  targetVersion := "1"
  scopeId := "s"
  scopeVersion := 1
  seedSignalIds := []
  limits := sampleHuntLimits
  createdAt := 1
  deadline := 100
  idempotencyKey := key
  window := by decide

def sampleHuntScope : Scope where
  scopeId := "s"
  engagementId := "g"
  version := 1
  validFrom := 0
  validUntil := 100
  repositories := []
  artifacts := []
  networkTargets := []
  allowedTestClasses := []
  deniedActions := []
  approvalRequirements := []
  state := .approved
  window := zero_lt_hundred

end VulnLoom

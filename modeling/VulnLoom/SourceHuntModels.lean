import VulnLoom.IngestionModels

/-!
# Source Hunt contracts

The records of a bounded source investigation : the repository index it reads, its plan, its
checkpoints and its observations. The digests of these records are the class
`SourceHuntDigests`; what an observation is the digest of does not name its plan.
-/

namespace VulnLoom

inductive SourceLanguage
  | python
  | javascript
  | typescript
  deriving DecidableEq

inductive SourceSymbolKind
  | function
  | classDef
  deriving DecidableEq

inductive SourceReferenceKind
  | call
  | importRef
  deriving DecidableEq

inductive BuildSystem
  | pyproject
  | requirements
  | npm
  deriving DecidableEq

inductive InvestigationStatus
  | active
  | readyForCandidates
  | cancelled
  | timedOut
  deriving DecidableEq

inductive InvestigationQueryKind
  | symbol
  | callers
  | callees
  | references
  | sourceWindow
  deriving DecidableEq

/-- An exception of the Source Hunt : its own, the store's, a validator's, the reader's, the
candidate service's, or one of the agent. -/
inductive SourceHuntError
  | rejected (reason : String)
  | timedOut (reason : String)
  | storeRejected (reason : String)
  | validationError (reason : String)
  | keyError
  | readerError (reason : String)
  | candidateRejected (reason : String)
  | agentRejected (reason : String)
  deriving DecidableEq

/-! ## The repository index -/

structure SourceLocation where
  path : String
  line : ℕ
  symbol : Option String
  deriving DecidableEq

structure SourceSymbol where
  language : SourceLanguage
  qualifiedName : String
  kind : SourceSymbolKind
  location : SourceLocation
  deriving DecidableEq

structure SourceReference where
  language : SourceLanguage
  kind : SourceReferenceKind
  sourceSymbol : String
  targetName : String
  resolvedSymbolId : Option Digest
  location : SourceLocation
  deriving DecidableEq

structure SourceFileRecord where
  path : String
  language : SourceLanguage
  size : ℕ
  sha256 : Digest
  deriving DecidableEq

structure SourcePartition where
  ordinal : ℕ
  paths : List String
  totalBytes : ℕ
  sorted : paths.Pairwise (· ≤ ·) ∧ paths.Nodup
  deriving DecidableEq

/-- `RepositoryIndex`, with the conditions of its validator. -/
structure RepositoryIndex where
  targetId : UUID
  targetVersion : String
  scopeId : UUID
  scopeVersion : ℕ
  manifestId : Digest
  adapterVersions : List (SourceLanguage × String)
  sourceFiles : List SourceFileRecord
  filesIndexed : List String
  symbols : List SourceSymbol
  references : List SourceReference
  buildSystems : List BuildSystem
  partitions : List SourcePartition
  skippedFiles : List String
  files_sorted : filesIndexed.Pairwise (· ≤ ·)
  files_nodup : filesIndexed.Nodup
  files_disjoint : ∀ path ∈ filesIndexed, path ∉ skippedFiles
  files_bound : sourceFiles.map (fun item => item.path) = filesIndexed
  partitions_contiguous : partitions.map (fun item => item.ordinal) = List.range partitions.length
  deriving DecidableEq

/-- `SourceExcerpt`. Its validator is `SourceExcerpt.create`. -/
structure SourceExcerpt where
  symbolId : Digest
  path : String
  startLine : ℕ
  endLine : ℕ
  redactedText : String
  textDigest : Digest
  deriving DecidableEq

/-! ## Investigations -/

structure InvestigationQuery where
  kind : InvestigationQueryKind
  term : String
  maxResults : ℕ
  term_bounds : 1 ≤ term.length ∧ term.length ≤ 512
  maxResults_bounds : 1 ≤ maxResults ∧ maxResults ≤ 128

structure InvestigationObservation where
  queryDigest : Digest
  kind : InvestigationQueryKind
  matchedSymbols : List SourceSymbol
  matchedReferences : List SourceReference
  sourceExcerpts : List SourceExcerpt
  truncated : Bool
  deriving DecidableEq

/-- `SourceHuntLimits`. The timeout is a float in the source; here it is exact. -/
structure SourceHuntLimits where
  maxFiles : ℕ
  maxTotalBytes : ℕ
  maxSingleFileBytes : ℕ
  maxFilesPerPartition : ℕ
  maxQueries : ℕ
  maxObservations : ℕ
  timeoutSeconds : ℚ
  file_bounds : 1 ≤ maxFiles ∧ maxFiles ≤ 100000 ∧ 1 ≤ maxTotalBytes ∧ 1 ≤ maxSingleFileBytes ∧
    1 ≤ maxFilesPerPartition ∧ maxFilesPerPartition ≤ 2000
  timeout_bounds : 0 < timeoutSeconds ∧ timeoutSeconds ≤ 3600
  maxQueries_bounds : 1 ≤ maxQueries ∧ maxQueries ≤ 1000
  maxObservations_bounds : 1 ≤ maxObservations ∧ maxObservations ≤ 1000
  deriving DecidableEq

/-- The fields of a plan before its validator has run. -/
structure InvestigationPlanValues where
  indexId : Digest
  targetId : UUID
  targetVersion : String
  scopeId : UUID
  scopeVersion : ℕ
  seedSignalIds : List Digest
  limits : SourceHuntLimits
  createdAt : Time
  deadline : Time
  idempotencyKey : String
  deriving DecidableEq

structure InvestigationPlan extends InvestigationPlanValues where
  window : createdAt < deadline
  deriving DecidableEq

/-- `InvestigationPlan.create`. -/
def InvestigationPlan.create (values : InvestigationPlanValues) :
    Except SourceHuntError InvestigationPlan :=
  if h : values.createdAt < values.deadline then .ok ⟨values, h⟩
  else .error (.validationError "InvestigationPlan deadline must be after creation")

/-- The fields of a checkpoint before its validator has run. -/
structure InvestigationCheckpointValues where
  planId : Digest
  indexId : Digest
  status : InvestigationStatus
  revision : ℕ
  queriesUsed : ℕ
  observationIds : List Digest
  queryDigests : List Digest
  conclusionDigest : Option Digest
  reasonCode : Option String
  updatedAt : Time
  deriving DecidableEq

/-- `InvestigationCheckpoint.sealed`. -/
def InvestigationCheckpointValues.sealed (values : InvestigationCheckpointValues) :
    Except SourceHuntError Unit := do
  raiseIf (¬(values.conclusionDigest ≠ none ↔ values.status = .readyForCandidates))
    (.validationError "only a completed investigation has a conclusion")
  raiseIf (¬(values.status ≠ .active ↔ values.reasonCode ≠ none))
    (.validationError "terminal investigation checkpoint requires a reason")
  raiseIf (values.queriesUsed ≠ values.queryDigests.length)
    (.validationError "investigation query counter mismatch")
  raiseIf (¬values.queryDigests.Nodup)
    (.validationError "investigation queries must be unique")
  raiseIf (¬values.observationIds.Nodup)
    (.validationError "investigation observations must be unique")

structure InvestigationCheckpoint extends InvestigationCheckpointValues where
  isSealed : toInvestigationCheckpointValues.sealed = .ok ()
  deriving DecidableEq

/-- `InvestigationCheckpoint.create`. -/
def InvestigationCheckpoint.create (values : InvestigationCheckpointValues) :
    Except SourceHuntError InvestigationCheckpoint :=
  match h : values.sealed with
  | .ok () => .ok ⟨values, h⟩
  | .error e => .error e

theorem InvestigationPlan.create_eq_ok {values : InvestigationPlanValues}
    {plan : InvestigationPlan} :
    InvestigationPlan.create values = .ok plan ↔ plan.toInvestigationPlanValues = values := by
  unfold InvestigationPlan.create
  constructor
  · intro h
    split_ifs at h with hw
    rw [← Except.ok.inj h]
  · rintro rfl
    rw [dif_pos plan.window]

variable {values : InvestigationCheckpointValues}

theorem InvestigationCheckpoint.create_eq_ok {checkpoint : InvestigationCheckpoint} :
    InvestigationCheckpoint.create values = .ok checkpoint ↔
      checkpoint.toInvestigationCheckpointValues = values := by
  unfold InvestigationCheckpoint.create
  constructor
  · intro h
    split at h
    · rw [← Except.ok.inj h]
    · cases h
  · rintro rfl
    split
    · rfl
    · rename_i e he
      rw [checkpoint.isSealed] at he
      cases he

theorem InvestigationCheckpointValues.sealed_eq_ok : values.sealed = .ok () ↔
      (values.conclusionDigest ≠ none ↔ values.status = .readyForCandidates) ∧
      (values.status ≠ .active ↔ values.reasonCode ≠ none) ∧
      values.queriesUsed = values.queryDigests.length ∧
      values.queryDigests.Nodup ∧ values.observationIds.Nodup := by
  simp only [InvestigationCheckpointValues.sealed, bind_eq_ok, raiseIf_eq_ok, not_not]
  constructor
  · rintro ⟨-, h1, -, h2, -, h3, -, h4, h5⟩
    exact ⟨h1, h2, h3, h4, h5⟩
  · rintro ⟨h1, h2, h3, h4, h5⟩
    exact ⟨(), h1, (), h2, (), h3, (), h4, h5⟩

theorem InvestigationCheckpoint.queriesUsed_eq (checkpoint : InvestigationCheckpoint) :
    checkpoint.queriesUsed = checkpoint.queryDigests.length := by
  obtain ⟨-, -, h, -⟩ := InvestigationCheckpointValues.sealed_eq_ok.1 checkpoint.isSealed
  exact h

theorem InvestigationCheckpoint.nodup_queryDigests (checkpoint : InvestigationCheckpoint) :
    checkpoint.queryDigests.Nodup := by
  obtain ⟨-, -, -, h, -⟩ := InvestigationCheckpointValues.sealed_eq_ok.1 checkpoint.isSealed
  exact h

theorem InvestigationCheckpoint.nodup_observationIds (checkpoint : InvestigationCheckpoint) :
    checkpoint.observationIds.Nodup := by
  obtain ⟨-, -, -, -, h⟩ := InvestigationCheckpointValues.sealed_eq_ok.1 checkpoint.isSealed
  exact h

/-! ## Candidates -/

structure SourceCandidateProposal where
  entrySymbolId : Digest
  sinkSymbolId : Digest
  codePathSymbolIds : List Digest
  observationIds : List Digest
  cwe : String
  title : String
  preconditions : List String
  securityInvariant : String
  hypothesis : String
  cheapestDisproof : String
  confidence : ℚ
  codePath_nodup : codePathSymbolIds.Nodup
  observations_nodup : observationIds.Nodup

/-! ## Digests -/

/-- The digests of the records an investigation stores, and of a text. -/
class SourceHuntDigests where
  symbol : CanonicalDigest SourceSymbol
  reference : CanonicalDigest SourceReference
  index : CanonicalDigest RepositoryIndex
  query : CanonicalDigest InvestigationQuery
  observation : CanonicalDigest InvestigationObservation
  plan : CanonicalDigest InvestigationPlan
  checkpoint : CanonicalDigest InvestigationCheckpoint
  proposal : CanonicalDigest SourceCandidateProposal

attribute [reducible, instance] SourceHuntDigests.symbol SourceHuntDigests.reference
  SourceHuntDigests.index SourceHuntDigests.query SourceHuntDigests.observation
  SourceHuntDigests.plan SourceHuntDigests.checkpoint SourceHuntDigests.proposal

variable [SourceHuntDigests]

def SourceSymbol.symbolId (symbol : SourceSymbol) : Digest :=
  canonicalDigest symbol

def RepositoryIndex.indexId (index : RepositoryIndex) : Digest :=
  canonicalDigest index

def InvestigationQuery.queryDigest (query : InvestigationQuery) : Digest :=
  canonicalDigest query

def InvestigationObservation.observationId (observation : InvestigationObservation) : Digest :=
  canonicalDigest observation

def InvestigationPlan.planId (plan : InvestigationPlan) : Digest :=
  canonicalDigest plan

def InvestigationCheckpoint.checkpointId (checkpoint : InvestigationCheckpoint) : Digest :=
  canonicalDigest checkpoint

def SourceCandidateProposal.proposalId (proposal : SourceCandidateProposal) : Digest :=
  canonicalDigest proposal

end VulnLoom

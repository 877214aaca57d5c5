import VulnLoom.CandidateModels
import VulnLoom.SourceHuntAgent

/-!
# Candidates of an investigation

`SourceCandidateService.materialize` turns a proposal on a concluded investigation into a set of
one candidate, and `SourceHuntAgentService.run` calls it after the investigation has moved to its
conclusion. The bounds that a proposal and a candidate put on the same texts are left out of
both.

`concludes_iff` : a run concludes an investigation only with its candidates exactly when every
proposal that passes the preflight of the conclusion cites what the investigation has found.
-/

set_option linter.unusedSectionVars false

namespace VulnLoom

open BoundedLoop

/-! ## Candidate sets -/

/-- What `duplicate_fingerprint` is the digest of. -/
structure CandidateFingerprint where
  cwe : String
  entry : SourceLocation
  sink : SourceLocation
  path : List SourceLocation

/-- `CandidateSet`, with the conditions of its validator. -/
structure CandidateSet where
  sourceGraphId : Digest
  targetId : UUID
  targetVersion : String
  scopeId : UUID
  scopeVersion : ℕ
  generatorVersion : String
  candidates : List Candidate
  excludedSignalIds : List Digest
  provenance : ∀ candidate ∈ candidates, candidate.targetId = targetId ∧
    candidate.targetVersion = targetVersion ∧ candidate.sourceGraphId = sourceGraphId ∧
    candidate.scopeId = scopeId ∧ candidate.scopeVersion = scopeVersion ∧
    candidate.state = .proposed
  ids_nodup : (candidates.map Candidate.candidateId).Nodup
  fingerprints_nodup : (candidates.map Candidate.duplicateFingerprint).Nodup
  signals_disjoint : ∀ candidate ∈ candidates, ∀ signal ∈ candidate.signalIds,
    signal ∉ excludedSignalIds
  deriving DecidableEq

/-- The digests and the name-based identifiers of candidates. -/
class CandidateDigests where
  fingerprint : CanonicalDigest CandidateFingerprint
  candidateSet : CanonicalDigest CandidateSet
  /-- `uuid5(NAMESPACE_URL, ·)`. -/
  uuid5 : String → UUID

attribute [reducible, instance] CandidateDigests.fingerprint CandidateDigests.candidateSet

export CandidateDigests (uuid5)

section

variable [SourceHuntDigests] [CandidateDigests]

def CandidateSet.candidateSetId (candidateSet : CandidateSet) : Digest :=
  canonicalDigest candidateSet

/-! ## Citations -/

/-- The symbols that an observation returned. -/
def InvestigationObservation.symbolIds (observation : InvestigationObservation) : List Digest :=
  observation.matchedSymbols.map SourceSymbol.symbolId ++
    observation.matchedReferences.filterMap SourceReference.resolvedSymbolId ++
    observation.sourceExcerpts.map SourceExcerpt.symbolId

/-- The symbols that a proposal names. -/
def SourceCandidateProposal.requested (proposal : SourceCandidateProposal) : List Digest :=
  proposal.entrySymbolId :: proposal.sinkSymbolId :: proposal.codePathSymbolIds

/-- The symbol of an identifier in the index; of several, the last. -/
def RepositoryIndex.symbol? (index : RepositoryIndex) (symbolId : Digest) : Option SourceSymbol :=
  (index.symbols.filter fun symbol => symbol.symbolId = symbolId).getLast?

/-- The symbols of the observations that a proposal cites. -/
def SourceHuntStore.citedSymbols (store : SourceHuntStore)
    (investigation : InvestigationCheckpoint) (proposal : SourceCandidateProposal) :
    Except SourceHuntError (List Digest) := do
  let observations ← investigation.queryDigests.mapM (store.observation investigation.planId)
  return observations.flatMap fun observation =>
    if observation.observationId ∈ proposal.observationIds then observation.symbolIds else []

/-- The candidate of a proposal whose symbols have these locations. -/
def SourceCandidateProposal.candidate (proposal : SourceCandidateProposal)
    (index : RepositoryIndex) (entry sink : SourceLocation) (path : List SourceLocation) :
    Candidate where
  candidateId :=
    uuid5 ("vulnloom:source-candidate:" ++ index.indexId ++ ":" ++ proposal.proposalId)
  targetId := index.targetId
  targetVersion := index.targetVersion
  sourceGraphId := index.indexId
  scopeId := index.scopeId
  scopeVersion := index.scopeVersion
  title := proposal.title
  cwe := proposal.cwe
  entryPoint := entry
  sink := sink
  codePath := path
  preconditions := proposal.preconditions
  securityInvariant := proposal.securityInvariant
  hypothesis := proposal.hypothesis
  signalIds := proposal.observationIds
  cheapestDisproof := proposal.cheapestDisproof
  duplicateFingerprint := canonicalDigest (CandidateFingerprint.mk proposal.cwe entry sink path)
  confidence := proposal.confidence
  state := .proposed

/-- The set of one proposed candidate. -/
def RepositoryIndex.candidateSet (index : RepositoryIndex) (proposal : SourceCandidateProposal)
    (entry sink : SourceLocation) (path : List SourceLocation) : CandidateSet where
  sourceGraphId := index.indexId
  targetId := index.targetId
  targetVersion := index.targetVersion
  scopeId := index.scopeId
  scopeVersion := index.scopeVersion
  generatorVersion := "source-hunt-observation-candidate-v1"
  candidates := [proposal.candidate index entry sink path]
  excludedSignalIds := []
  provenance := by simp [SourceCandidateProposal.candidate]
  ids_nodup := List.nodup_singleton _
  fingerprints_nodup := List.nodup_singleton _
  signals_disjoint := by simp

/-- The candidates of a proposal whose symbols are in the index. -/
def candidatesOf (index : RepositoryIndex) (proposal : SourceCandidateProposal) :
    Except SourceHuntError CandidateSet := do
  let entry ← orRaise (index.symbol? proposal.entrySymbolId) .keyError
  let sink ← orRaise (index.symbol? proposal.sinkSymbolId) .keyError
  let path ← proposal.codePathSymbolIds.mapM fun symbolId =>
    orRaise (index.symbol? symbolId) .keyError
  return index.candidateSet proposal entry.location sink.location
    (path.map SourceSymbol.location)

/-- `SourceCandidateService.materialize`. -/
def materializeCandidates (store : SourceHuntStore) (index : RepositoryIndex) (scope : Scope)
    (now : Time) (proposal : SourceCandidateProposal)
    (investigation : InvestigationCheckpoint) : Except SourceHuntError CandidateSet := do
  raiseIf (scope.state ≠ .approved ∨ ¬(scope.validFrom ≤ now ∧ now < scope.validUntil) ∨
      index.scopeId ≠ scope.scopeId ∨ index.scopeVersion ≠ scope.version ∨
      investigation.indexId ≠ index.indexId ∨ investigation.status ≠ .readyForCandidates ∨
      investigation.conclusionDigest ≠ some proposal.proposalId)
    (.candidateRejected "Source Candidate provenance or Scope is invalid")
  raiseIf (¬proposal.observationIds ⊆ investigation.observationIds)
    (.candidateRejected "Source Candidate cites an unavailable observation")
  let observed ← store.citedSymbols investigation proposal
  raiseIf (¬proposal.requested ⊆ observed)
    (.candidateRejected "Source Candidate contains a symbol not returned by cited observations")
  raiseIf (¬proposal.requested ⊆ index.symbols.map SourceSymbol.symbolId)
    (.candidateRejected "Source Candidate symbol is absent from the index")
  candidatesOf index proposal

/-- A proposal cites observations of the investigation, symbols that the cited observations
returned, and symbols of the index. -/
structure Cites (store : SourceHuntStore) (index : RepositoryIndex)
    (investigation : InvestigationCheckpoint) (proposal : SourceCandidateProposal) : Prop where
  available : proposal.observationIds ⊆ investigation.observationIds
  returned : ∀ symbolId ∈ proposal.requested, ∃ queryDigest ∈ investigation.queryDigests,
    ∃ observation, store.observation investigation.planId queryDigest = .ok observation ∧
      observation.observationId ∈ proposal.observationIds ∧ symbolId ∈ observation.symbolIds
  indexed : ∀ symbolId ∈ proposal.requested, ∃ symbol ∈ index.symbols, symbol.symbolId = symbolId

variable {index : RepositoryIndex}

theorem exists_symbol {symbolId : Digest}
    (h : ∃ symbol ∈ index.symbols, symbol.symbolId = symbolId) :
    ∃ symbol, orRaise (index.symbol? symbolId) SourceHuntError.keyError = .ok symbol := by
  obtain ⟨symbol, hmem, hid⟩ := h
  have hne : (index.symbols.filter fun symbol => symbol.symbolId = symbolId) ≠ [] :=
    List.ne_nil_of_mem (List.mem_filter.2 ⟨hmem, by simpa using hid⟩)
  exact ⟨_, orRaise_eq_ok.2 (List.getLast?_eq_getLast_of_ne_nil hne)⟩

theorem exists_candidatesOf {proposal : SourceCandidateProposal}
    (h : ∀ symbolId ∈ proposal.requested, ∃ symbol ∈ index.symbols, symbol.symbolId = symbolId) :
    ∃ candidateSet, candidatesOf index proposal = .ok candidateSet := by
  obtain ⟨entry, hentry⟩ := exists_symbol (h proposal.entrySymbolId List.mem_cons_self)
  obtain ⟨sink, hsink⟩ := exists_symbol
    (h proposal.sinkSymbolId (List.mem_cons_of_mem _ List.mem_cons_self))
  obtain ⟨path, hpath⟩ := mapM_isOk.2 fun symbolId (hid : symbolId ∈ proposal.codePathSymbolIds) =>
    exists_symbol (h symbolId (List.mem_cons_of_mem _ (List.mem_cons_of_mem _ hid)))
  refine ⟨index.candidateSet proposal entry.location sink.location
    (path.map SourceSymbol.location), ?_⟩
  simp only [candidatesOf, hentry, hsink, hpath, ok_bind, pure_eq_ok]

variable {store : SourceHuntStore} {investigation : InvestigationCheckpoint}

/-- Where the observations of an investigation can be read, the symbols of the cited ones are
those that a query of it returned. -/
theorem citedSymbols_ok {proposal : SourceCandidateProposal}
    (hread : ∀ queryDigest ∈ investigation.queryDigests, ∃ observation,
      store.observation investigation.planId queryDigest = .ok observation) :
    ∃ observed, store.citedSymbols investigation proposal = .ok observed ∧
      ∀ symbolId, symbolId ∈ observed ↔ ∃ queryDigest ∈ investigation.queryDigests,
        ∃ observation, store.observation investigation.planId queryDigest = .ok observation ∧
          observation.observationId ∈ proposal.observationIds ∧
          symbolId ∈ observation.symbolIds := by
  obtain ⟨observations, hobservations⟩ := mapM_isOk.2 hread
  refine ⟨_, bind_eq_ok.2 ⟨observations, hobservations, rfl⟩, fun symbolId => ?_⟩
  simp only [List.mem_flatMap]
  constructor
  · rintro ⟨observation, hmem, hsymbol⟩
    split_ifs at hsymbol with hcited
    · obtain ⟨queryDigest, hquery, hread⟩ := (mem_mapM hobservations).1 hmem
      exact ⟨queryDigest, hquery, observation, hread, hcited, hsymbol⟩
    · cases hsymbol
  · rintro ⟨queryDigest, hquery, observation, hread, hcited, hsymbol⟩
    exact ⟨observation, (mem_mapM hobservations).2 ⟨queryDigest, hquery, hread⟩,
      by rwa [if_pos hcited]⟩

/-- Where the provenance holds and the observations can be read, a proposal is made into a
candidate exactly when it cites what the investigation has found. -/
theorem materialize_ok_iff {scope : Scope} {now : Time} {proposal : SourceCandidateProposal}
    (hscope : scope.state = .approved ∧ (scope.validFrom ≤ now ∧ now < scope.validUntil) ∧
      index.scopeId = scope.scopeId ∧ index.scopeVersion = scope.version)
    (hinvestigation : investigation.indexId = index.indexId ∧
      investigation.status = .readyForCandidates ∧
      investigation.conclusionDigest = some proposal.proposalId)
    (hread : ∀ queryDigest ∈ investigation.queryDigests, ∃ observation,
      store.observation investigation.planId queryDigest = .ok observation) :
    (∃ candidateSet, materializeCandidates store index scope now proposal investigation =
      .ok candidateSet) ↔ Cites store index investigation proposal := by
  obtain ⟨observed, hobserved, hmem⟩ :=
    @citedSymbols_ok _ _ store investigation proposal hread
  simp only [materializeCandidates, hscope, hinvestigation, hobserved, and_self, not_true_eq_false,
    ne_eq, or_self, raiseIf_false, ok_bind, bind_eq_ok, raiseIf_eq_ok, not_not]
  constructor
  · rintro ⟨candidateSet, -, havailable, -, hreturned, -, hindexed, -⟩
    exact ⟨havailable, fun symbolId hid => (hmem symbolId).1 (hreturned hid),
      fun symbolId hid => List.mem_map.1 (hindexed hid)⟩
  · rintro ⟨havailable, hreturned, hindexed⟩
    obtain ⟨candidateSet, hset⟩ := exists_candidatesOf hindexed
    exact ⟨candidateSet, (), havailable, (), fun symbolId hid => (hmem symbolId).2
      (hreturned symbolId hid), (), fun symbolId hid => List.mem_map.2 (hindexed symbolId hid),
      hset⟩

/-! ## The agent with its candidate service -/

variable [PythonUnicode]

/-- `SourceHuntAgentService`, whose candidate service reads the store of the investigation. -/
def sourceHuntAgent (plan : InvestigationPlan) (index : RepositoryIndex) (scope : Scope)
    (now : Time) (investigator : SourceInvestigator) (sourceReader : Option SourceContextReader) :
    SourceHuntAgent CandidateSet where
  plan := plan
  index := index
  scope := scope
  now := now
  investigator := investigator
  sourceReader := sourceReader
  materialize store proposal investigation :=
    materializeCandidates store index scope now proposal investigation

namespace SourceHuntAgent

/-- In `s` the investigator is shown a turn and decides on a proposal. -/
def Proposes {α : Type} (agent : SourceHuntAgent α) (s : HuntLoop)
    (proposal : SourceCandidateProposal) : Prop :=
  s.checkpoint.status = .active ∧ ∃ shown, agent.turn s = .ok shown ∧
    agent.investigator (s.turns ++ [shown]) = some (.propose proposal)

/-- The checkpoint that a conclusion writes. -/
def concluded {α : Type} (agent : SourceHuntAgent α) (checkpoint : InvestigationCheckpoint)
    (proposal : SourceCandidateProposal) : InvestigationCheckpoint where
  toInvestigationCheckpointValues := closedValues agent.plan agent.index.indexId checkpoint
    .readyForCandidates (some proposal.proposalId) "investigation_completed" agent.now
  isSealed := InvestigationCheckpointValues.sealed_eq_ok.2 ⟨by simp [closedValues],
    by simp [closedValues], checkpoint.queriesUsed_eq, checkpoint.nodup_queryDigests,
    checkpoint.nodup_observationIds⟩

/-- The investigation accepts the conclusion : its preflight passes, it has an observation, and
the new checkpoint clashes with none. -/
def Accepts {α : Type} (agent : SourceHuntAgent α) (s : HuntLoop)
    (proposal : SourceCandidateProposal) : Prop :=
  huntPreflight s.store agent.plan agent.index s.checkpoint agent.scope agent.now false = .ok () ∧
    s.checkpoint.observationIds ≠ [] ∧
    s.store.Accepts (agent.concluded s.checkpoint proposal) none

/-- A decision to propose ends well : a concluded investigation has the candidates of the
proposal, and a proposal that cites anything else raises and leaves the investigation as it
was. -/
structure ConcludesWell (agent : SourceHuntAgent CandidateSet) (s : HuntLoop)
    (proposal : SourceCandidateProposal) : Prop where
  candidates : ∀ checkpoint,
    (agent.conclude s proposal).store.latest agent.plan.planId = .ok checkpoint →
      checkpoint.status = .readyForCandidates → ∃ candidateSet,
        agent.materialize (agent.conclude s proposal).store proposal checkpoint =
          .ok candidateSet ∧
        (agent.conclude s proposal).outcome = .ok (checkpoint, some candidateSet)
  rejected : ¬Cites s.store agent.index s.checkpoint proposal →
    (∃ e, (agent.conclude s proposal).outcome = .error e) ∧
      (agent.conclude s proposal).store.latest agent.plan.planId = .ok s.checkpoint ∧
      s.checkpoint.status = .active

section

variable {α : Type} {agent : SourceHuntAgent α} {store : SourceHuntStore} {s : HuntLoop}
  {proposal : SourceCandidateProposal}

/-- A run that comes to a proposal ends with what it concludes. -/
theorem Reached.run_proposes (h : agent.Reached store s) (hproposes : agent.Proposes s proposal) :
    ∃ n turns, agent.run n store = (turns, some (agent.conclude s proposal)) := by
  obtain ⟨checkpoint, n, m, es, hlatest, hreach⟩ := h
  obtain ⟨hactive, shown, hturn, hdecision⟩ := hproposes
  have hleave : agent.iterate s = ([shown], .leave (some (agent.conclude s proposal))) := by
    simp [iterate, hactive, hturn, act, hdecision]
  refine ⟨n + 1, es ++ [shown], ?_⟩
  simp only [run, hlatest]
  rw [loop_of_reaches (hreach.add 1), loop_leave hleave]

/-- The turn that was shown has read every observation of the checkpoint. -/
theorem Proposes.observations (h : agent.Proposes s proposal) :
    ∀ queryDigest ∈ s.checkpoint.queryDigests, ∃ observation,
      s.store.observation agent.plan.planId queryDigest = .ok observation := by
  obtain ⟨-, shown, hturn, -⟩ := h
  simp only [turn, bind_eq_ok] at hturn
  obtain ⟨observations, hobservations, -⟩ := hturn
  exact exists_ok_of_mapM hobservations

/-- What the investigation accepts is committed; anything else leaves it. -/
theorem completeHunt_ok_iff (hlatest : s.store.latest agent.plan.planId = .ok s.checkpoint)
    {result : SourceHuntStore × InvestigationCheckpoint} :
    completeHunt s.store agent.plan agent.index s.checkpoint proposal.proposalId agent.scope
        agent.now = .ok result ↔
      agent.Accepts s proposal ∧
        (s.store.advanced (agent.concluded s.checkpoint proposal) none,
          agent.concluded s.checkpoint proposal) = result := by
  have hplan : s.checkpoint.planId = agent.plan.planId := (SourceHuntStore.latest_ok hlatest).2
  have hadvance : ∀ result', s.store.advance s.checkpoint
      (agent.concluded s.checkpoint proposal) none = .ok result' ↔
        s.store.Accepts (agent.concluded s.checkpoint proposal) none ∧
          (s.store.advanced (agent.concluded s.checkpoint proposal) none,
            agent.concluded s.checkpoint proposal, none) = result' :=
    fun _ => SourceHuntStore.advance_eq_ok (hplan ▸ hlatest) hplan.symm rfl
  have hcreate : InvestigationCheckpoint.create (closedValues agent.plan agent.index.indexId
      s.checkpoint .readyForCandidates (some proposal.proposalId) "investigation_completed"
      agent.now) = .ok (agent.concluded s.checkpoint proposal) :=
    InvestigationCheckpoint.create_eq_ok.2 rfl
  simp only [completeHunt, hcreate, ok_bind, bind_eq_ok, raiseIf_eq_ok, hadvance, pure_eq_ok]
  constructor
  · rintro ⟨⟨⟩, hpreflight, -, hobserved, -, ⟨haccepts, rfl⟩, rfl⟩
    exact ⟨⟨hpreflight, hobserved, haccepts⟩, rfl⟩
  · rintro ⟨⟨hpreflight, hobserved, haccepts⟩, rfl⟩
    exact ⟨(), hpreflight, (), hobserved, _, ⟨haccepts, rfl⟩, rfl⟩

/-- An accepted conclusion has its candidates exactly when the proposal cites what the
investigation has found. -/
theorem Accepts.materialize_iff (hproposes : agent.Proposes s proposal)
    (h : agent.Accepts s proposal) :
    (∃ candidateSet, materializeCandidates
      (s.store.advanced (agent.concluded s.checkpoint proposal) none) agent.index agent.scope
      agent.now proposal (agent.concluded s.checkpoint proposal) = .ok candidateSet) ↔
      Cites s.store agent.index s.checkpoint proposal := by
  obtain ⟨hpreflight, -, -⟩ := h
  obtain ⟨hplan, -⟩ := huntPreflight_ok hpreflight
  have hobservation : ∀ queryDigest,
      (s.store.advanced (agent.concluded s.checkpoint proposal) none).observation
          agent.plan.planId queryDigest =
        s.store.observation agent.plan.planId queryDigest := by
    intro queryDigest
    simp [SourceHuntStore.observation, SourceHuntStore.advanced, SourceHuntStore.observedRows]
  have hread : ∀ queryDigest ∈ s.checkpoint.queryDigests, ∃ observation,
      (s.store.advanced (agent.concluded s.checkpoint proposal) none).observation
        agent.plan.planId queryDigest = .ok observation := by
    intro queryDigest hquery
    rw [hobservation]
    exact hproposes.observations queryDigest hquery
  rw [materialize_ok_iff (huntPreflight_scope hpreflight) ⟨rfl, rfl, rfl⟩ hread]
  constructor
  · rintro ⟨havailable, hreturned, hindexed⟩
    refine ⟨havailable, fun symbolId hid => ?_, hindexed⟩
    obtain ⟨queryDigest, hquery, observation, hread, hcited⟩ := hreturned symbolId hid
    refine ⟨queryDigest, hquery, observation, ?_, hcited⟩
    rw [hplan]
    exact (hobservation queryDigest).symm.trans hread
  · rintro ⟨havailable, hreturned, hindexed⟩
    refine ⟨havailable, fun symbolId hid => ?_, hindexed⟩
    obtain ⟨queryDigest, hquery, observation, hread, hcited⟩ := hreturned symbolId hid
    refine ⟨queryDigest, hquery, observation, ?_, hcited⟩
    rw [hplan] at hread
    exact (hobservation queryDigest).trans hread

/-- A conclusion that the investigation does not accept raises and changes nothing. -/
theorem conclude_of_not_accepts (hlatest : s.store.latest agent.plan.planId = .ok s.checkpoint)
    (h : ¬agent.Accepts s proposal) :
    ∃ e, agent.conclude s proposal = ⟨s.store, .error e⟩ := by
  unfold conclude
  split
  next e _ => exact ⟨e, rfl⟩
  next hcomplete => exact absurd ((completeHunt_ok_iff hlatest).1 hcomplete).1 h

/-- An accepted conclusion moves the investigation, whatever becomes of the candidates. -/
theorem conclude_of_accepts (hlatest : s.store.latest agent.plan.planId = .ok s.checkpoint)
    (h : agent.Accepts s proposal) :
    agent.conclude s proposal =
      ⟨s.store.advanced (agent.concluded s.checkpoint proposal) none,
        (agent.materialize (s.store.advanced (agent.concluded s.checkpoint proposal) none) proposal
          (agent.concluded s.checkpoint proposal)).map
            fun candidateSet => (agent.concluded s.checkpoint proposal, some candidateSet)⟩ := by
  have hcomplete := (completeHunt_ok_iff hlatest).2 ⟨h, rfl⟩
  simp only [conclude, hcomplete]
  split
  next hmaterialize => rw [hmaterialize]; rfl
  next hmaterialize => rw [hmaterialize]; rfl

/-- The checkpoint of an accepted conclusion is the latest. -/
theorem latest_concluded (hlatest : s.store.latest agent.plan.planId = .ok s.checkpoint) :
    (s.store.advanced (agent.concluded s.checkpoint proposal) none).latest agent.plan.planId =
      .ok (agent.concluded s.checkpoint proposal) := by
  have hplan : s.checkpoint.planId = agent.plan.planId := (SourceHuntStore.latest_ok hlatest).2
  rw [← hplan] at hlatest ⊢
  exact SourceHuntStore.latest_concat hlatest hplan.symm rfl rfl

end

/-- For every run, a decision to propose ends it, and concludes the investigation only with the
candidates of that proposal, exactly when every proposal that the investigation accepts cites
what it has found. -/
theorem concludes_iff (plan : InvestigationPlan) (index : RepositoryIndex) (scope : Scope)
    (now : Time) (investigator : SourceInvestigator)
    (sourceReader : Option SourceContextReader) (store : SourceHuntStore) :
    let agent := sourceHuntAgent plan index scope now investigator sourceReader
    (∀ s proposal, agent.Reached store s → agent.Proposes s proposal →
      (∃ n turns, agent.run n store = (turns, some (agent.conclude s proposal))) ∧
        agent.ConcludesWell s proposal) ↔
      ∀ s proposal, agent.Reached store s → agent.Proposes s proposal →
        agent.Accepts s proposal → Cites s.store index s.checkpoint proposal := by
  intro agent
  constructor
  · intro h s proposal hreached hproposes haccepts
    obtain ⟨-, hwell⟩ := h s proposal hreached hproposes
    have hconclude := conclude_of_accepts hreached.latest haccepts
    have hcandidates := hwell.candidates (agent.concluded s.checkpoint proposal)
    rw [hconclude] at hcandidates
    obtain ⟨candidateSet, hset, -⟩ := hcandidates (latest_concluded hreached.latest) rfl
    exact (haccepts.materialize_iff hproposes).1 ⟨candidateSet, hset⟩
  · intro h s proposal hreached hproposes
    refine ⟨hreached.run_proposes hproposes, ?_⟩
    by_cases haccepts : agent.Accepts s proposal
    · have hcites := h s proposal hreached hproposes haccepts
      obtain ⟨candidateSet, hset⟩ := (haccepts.materialize_iff hproposes).2 hcites
      refine ⟨fun checkpoint hlatest _ => ?_, fun hbad => absurd hcites hbad⟩
      rw [conclude_of_accepts hreached.latest haccepts] at hlatest ⊢
      rw [latest_concluded hreached.latest] at hlatest
      cases hlatest
      refine ⟨candidateSet, hset, ?_⟩
      have hmaterialize : agent.materialize
          (s.store.advanced (agent.concluded s.checkpoint proposal) none) proposal
          (agent.concluded s.checkpoint proposal) = .ok candidateSet := hset
      simp only [hmaterialize]
      rfl
    · obtain ⟨e, hconclude⟩ := conclude_of_not_accepts hreached.latest haccepts
      refine ⟨fun checkpoint hlatest hready => ?_, fun _ => ?_⟩
      · rw [hconclude, hreached.latest] at hlatest
        cases hlatest
        rw [hproposes.1] at hready
        cases hready
      · rw [hconclude]
        exact ⟨⟨e, rfl⟩, hreached.latest, hproposes.1⟩

end SourceHuntAgent

end

/-! ## A proposal that cites nothing the investigation has -/

section Sample

@[reducible] def textCandidateDigests : CandidateDigests where
  fingerprint := ⟨CandidateFingerprint.cwe⟩
  candidateSet := ⟨CandidateSet.sourceGraphId⟩
  uuid5 := id

attribute [local instance] textHuntDigests plainUnicode textCandidateDigests

/-- A proposal on an observation that the investigation does not have. -/
def unavailableProposal : SourceCandidateProposal where
  entrySymbolId := "sf"
  sinkSymbolId := "sf"
  codePathSymbolIds := ["sf"]
  observationIds := ["other"]
  cwe := "CWE-89"
  title := "t"
  preconditions := []
  securityInvariant := "i"
  hypothesis := "h"
  cheapestDisproof := "d"
  confidence := 1
  codePath_nodup := by decide
  observations_nodup := by decide

/-- The investigator that makes it after one answered query. -/
def guessingAgent : SourceHuntAgent CandidateSet :=
  sourceHuntAgent (sampleHuntPlan "k") sampleIndex sampleHuntScope 2
    (fun turns => if turns.length ≤ 1 then some (.query sampleQuery)
      else some (.propose unavailableProposal)) none

/-- The run raises, and leaves the investigation concluded with no candidate. -/
theorem guessingAgent_loses_investigation :
    ((guessingAgent.run 2 startedHunt).2.map fun ending =>
      (ending.outcome.toOption, (ending.store.latest "pk").toOption.map fun checkpoint =>
        (checkpoint.status, checkpoint.conclusionDigest))) =
        some (none, some (.readyForCandidates, some "dt")) ∧
      ¬∀ s proposal, guessingAgent.Reached startedHunt s → guessingAgent.Proposes s proposal →
        (∃ n turns, guessingAgent.run n startedHunt =
          (turns, some (guessingAgent.conclude s proposal))) ∧
          guessingAgent.ConcludesWell s proposal := by
  refine ⟨by decide +kernel, fun h => ?_⟩
  have hgo : ∃ shown, guessingAgent.iterate ⟨startedHunt, startedSample, []⟩ =
      ([shown], .go ⟨answeredHunt, answeredSample, [shown]⟩) := by
    have hasks : guessingAgent.Asks ⟨startedHunt, startedSample, []⟩ sampleQuery :=
      ⟨rfl, _, rfl, rfl⟩
    have hquery : huntQuery startedHunt (sampleHuntPlan "k") sampleIndex startedSample sampleQuery
        sampleHuntScope 2 none =
          .ok (answeredHunt, answeredSample, ⟨"qf", .symbol, [], [], [], false⟩) := by
      decide
    exact hasks.iterate hquery
  obtain ⟨shown, hgo⟩ := hgo
  have hreached : guessingAgent.Reached startedHunt ⟨answeredHunt, answeredSample, [shown]⟩ :=
    ⟨startedSample, 1, 0, _, by decide, .go hgo (.refl _ _)⟩
  obtain ⟨-, hwell⟩ := h _ unavailableProposal hreached ⟨rfl, _, rfl, rfl⟩
  have hbad : ¬Cites answeredHunt sampleIndex answeredSample unavailableProposal := by
    intro hcites
    have := hcites.available (List.mem_singleton_self "other")
    revert this
    decide
  obtain ⟨-, hlatest, -⟩ := hwell.rejected hbad
  have hmoved : ¬(guessingAgent.conclude ⟨answeredHunt, answeredSample, []⟩
      unavailableProposal).store.latest guessingAgent.plan.planId = .ok answeredSample := by
    decide +kernel
  have hsame : guessingAgent.conclude ⟨answeredHunt, answeredSample, [shown]⟩ unavailableProposal =
      guessingAgent.conclude ⟨answeredHunt, answeredSample, []⟩ unavailableProposal := by
    simp only [SourceHuntAgent.conclude]
  rw [hsame] at hlatest
  exact hmoved hlatest

end Sample

end VulnLoom

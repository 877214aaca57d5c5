import VulnLoom.SourceHuntService
import VulnLoom.BoundedLoop

/-!
# The investigation loop

`SourceHuntAgentService.run` : while the investigation is active, the investigator is shown a
turn and decides. It is any function of the turns so far, and may raise or answer something
invalid (`none`). A turn shown is a decide call; the events of the loop are the turns.
-/

namespace VulnLoom

open BoundedLoop

section

variable [SourceHuntDigests] [PythonUnicode]

/-! ## Turns and decisions -/

structure InvestigationTurn where
  planId : Digest
  indexId : Digest
  revision : ℕ
  queriesRemaining : ℤ
  observations : List InvestigationObservation

/-- `InvestigationDecision` : its payload is the one of its kind. -/
inductive InvestigationDecision
  | query (query : InvestigationQuery)
  | propose (proposal : SourceCandidateProposal)
  | abandon

/-- `SourceInvestigator` : what it decides on the last of the turns it was shown. -/
abbrev SourceInvestigator := List InvestigationTurn → Option InvestigationDecision

/-- What a run returns or raises, with the store it leaves. -/
structure HuntEnding (CandidateSet : Type) where
  store : SourceHuntStore
  outcome : Except SourceHuntError (InvestigationCheckpoint × Option CandidateSet)

/-- `SourceHuntAgentService`, with the arguments of a run. -/
structure SourceHuntAgent (CandidateSet : Type) where
  plan : InvestigationPlan
  index : RepositoryIndex
  scope : Scope
  now : Time
  investigator : SourceInvestigator
  sourceReader : Option SourceContextReader
  materialize : SourceHuntStore → SourceCandidateProposal → InvestigationCheckpoint →
    Except SourceHuntError CandidateSet

/-- The loop's state : the turns are those shown so far. -/
structure HuntLoop where
  store : SourceHuntStore
  checkpoint : InvestigationCheckpoint
  turns : List InvestigationTurn

namespace SourceHuntAgent

variable {CandidateSet : Type} (agent : SourceHuntAgent CandidateSet)

/-! ## One iteration -/

/-- The turn that the investigator is shown. -/
def turn (s : HuntLoop) : Except SourceHuntError InvestigationTurn := do
  let observations ← s.checkpoint.queryDigests.mapM (s.store.observation agent.plan.planId)
  return {
    planId := agent.plan.planId
    indexId := agent.index.indexId
    revision := s.checkpoint.revision
    queriesRemaining := (agent.plan.limits.maxQueries : ℤ) - s.checkpoint.queriesUsed
    observations := observations }

/-- A decision to propose : the investigation completes and the candidates are made. -/
def conclude (s : HuntLoop) (proposal : SourceCandidateProposal) : HuntEnding CandidateSet :=
  match completeHunt s.store agent.plan agent.index s.checkpoint proposal.proposalId agent.scope
      agent.now with
  | .error e => ⟨s.store, .error e⟩
  | .ok (moved, checkpoint) =>
    match agent.materialize moved proposal checkpoint with
    | .error e => ⟨moved, .error e⟩
    | .ok candidateSet => ⟨moved, .ok (checkpoint, some candidateSet)⟩

/-- A decision to abandon. -/
def abandon (s : HuntLoop) : HuntEnding CandidateSet :=
  match cancelHunt s.store agent.plan agent.index s.checkpoint agent.scope agent.now with
  | .error e => ⟨s.store, .error e⟩
  | .ok (moved, checkpoint) => ⟨moved, .ok (checkpoint, none)⟩

/-- What a decision does : only an answered query goes on. -/
def act (s : HuntLoop) (shown : InvestigationTurn) :
    Option InvestigationDecision → Next HuntLoop (Option (HuntEnding CandidateSet))
  | none => .leave (some ⟨s.store, .error (.agentRejected
      "Source investigator returned an invalid typed decision")⟩)
  | some (.query query) =>
    match huntQuery s.store agent.plan agent.index s.checkpoint query agent.scope agent.now
        agent.sourceReader with
    | .error e => .leave (some ⟨s.store, .error e⟩)
    | .ok (moved, checkpoint, _) => .go ⟨moved, checkpoint, s.turns ++ [shown]⟩
  | some .abandon => .leave (some (agent.abandon s))
  | some (.propose proposal) => .leave (some (agent.conclude s proposal))

/-- One iteration of the loop of `run`. -/
def iterate (s : HuntLoop) :
    List InvestigationTurn × Next HuntLoop (Option (HuntEnding CandidateSet)) :=
  if s.checkpoint.status ≠ .active then
    ([], .leave (some ⟨s.store, .error (.agentRejected
      "Source Hunt Agent cannot resume a terminal investigation")⟩))
  else
    match agent.turn s with
    | .error e => ([], .leave (some ⟨s.store, .error e⟩))
    | .ok shown => ([shown], agent.act s shown (agent.investigator (s.turns ++ [shown])))

/-- `SourceHuntAgentService.run`, for at most `n` iterations of its loop : the turns shown, and
what the run returned or raised, if it ended. -/
def run (n : ℕ) (store : SourceHuntStore) :
    List InvestigationTurn × Option (HuntEnding CandidateSet) :=
  match store.latest agent.plan.planId with
  | .error e => ([], some ⟨store, .error e⟩)
  | .ok checkpoint => loop agent.iterate (fun _ => none) n ⟨store, checkpoint, []⟩

/-! ## The decide calls of a run -/

/-- The states of the loop that a run on `store` comes to. -/
def Reached (store : SourceHuntStore) (s : HuntLoop) : Prop :=
  ∃ checkpoint n m es, store.latest agent.plan.planId = .ok checkpoint ∧
    Reaches agent.iterate n ⟨store, checkpoint, []⟩ es m s

/-- In `s` the investigator is shown a turn and decides on `query`. -/
def Asks (s : HuntLoop) (query : InvestigationQuery) : Prop :=
  s.checkpoint.status = .active ∧ ∃ shown, agent.turn s = .ok shown ∧
    agent.investigator (s.turns ++ [shown]) = some (.query query)

/-- The decision in `s` is a query that the investigation has answered already, and passes
the preflight. -/
def Repeats (s : HuntLoop) : Prop :=
  ∃ query, agent.Asks s query ∧ query.queryDigest ∈ s.checkpoint.queryDigests ∧
    huntPreflight s.store agent.plan agent.index s.checkpoint agent.scope agent.now false = .ok ()

/-- A run on `store` returns or raises, after at most `max_queries + 1` decide calls. -/
def EndsWithinBudget (store : SourceHuntStore) : Prop :=
  ∃ n, (agent.run n store).2 ≠ none ∧
    (agent.run n store).1.length ≤ agent.plan.limits.maxQueries + 1

/-- Every decide call that does not end the run uses one query of the budget. -/
def SpendsBudget (store : SourceHuntStore) : Prop :=
  ∀ s, agent.Reached store s → ∀ es s', agent.iterate s = (es, .go s') →
    s'.checkpoint.queriesUsed = s.checkpoint.queriesUsed + 1

variable {agent}
variable {store : SourceHuntStore} {s s' : HuntLoop} {es : List InvestigationTurn}

theorem Reached.go (h : agent.Reached store s) (hgo : agent.iterate s = (es, .go s')) :
    agent.Reached store s' := by
  obtain ⟨checkpoint, n, m, pre, hlatest, hreach⟩ := h
  exact ⟨checkpoint, n + 1, m, pre ++ es, hlatest, hreach.concat hgo⟩

/-- An iteration that goes on showed one turn and had a query answered. -/
theorem iterate_go (h : agent.iterate s = (es, .go s')) :
    ∃ shown query answer, es = [shown] ∧ agent.Asks s query ∧
      huntQuery s.store agent.plan agent.index s.checkpoint query agent.scope agent.now
        agent.sourceReader = .ok (s'.store, s'.checkpoint, answer) := by
  unfold iterate at h
  split_ifs at h with hactive
  · simp at h
  cases hturn : agent.turn s with
  | error e => simp [hturn] at h
  | ok shown =>
    simp only [hturn, Prod.mk.injEq] at h
    obtain ⟨rfl, hact⟩ := h
    cases hdecision : agent.investigator (s.turns ++ [shown]) with
    | none => simp [hdecision, act] at hact
    | some decision =>
      cases decision with
      | propose proposal => simp [hdecision, act] at hact
      | abandon => simp [hdecision, act] at hact
      | query query =>
        simp only [hdecision, act] at hact
        split at hact
        · cases hact
        next moved checkpoint answer hquery =>
          cases hact
          exact ⟨shown, query, answer, rfl, ⟨not_not.1 hactive, shown, hturn, hdecision⟩, hquery⟩

/-- A query that is answered goes on, with one more turn shown. -/
theorem Asks.iterate {query : InvestigationQuery} {moved : SourceHuntStore}
    {checkpoint : InvestigationCheckpoint} {answer : InvestigationObservation}
    (h : agent.Asks s query)
    (hquery : huntQuery s.store agent.plan agent.index s.checkpoint query agent.scope agent.now
      agent.sourceReader = .ok (moved, checkpoint, answer)) :
    ∃ shown, agent.iterate s = ([shown], .go ⟨moved, checkpoint, s.turns ++ [shown]⟩) := by
  obtain ⟨hactive, shown, hturn, hdecision⟩ := h
  exact ⟨shown, by simp [SourceHuntAgent.iterate, hactive, hturn, act, hdecision, hquery]⟩

/-- The loop's checkpoint is the latest one. -/
theorem Reached.latest (h : agent.Reached store s) :
    s.store.latest agent.plan.planId = .ok s.checkpoint := by
  obtain ⟨checkpoint, n, m, es, hlatest, hreach⟩ := h
  have hkeeps : ∀ s fs s', s.store.latest agent.plan.planId = .ok s.checkpoint →
      agent.iterate s = (fs, .go s') →
        s'.store.latest agent.plan.planId = .ok s'.checkpoint := by
    intro s fs s' hs hgo
    obtain ⟨shown, query, answer, -, -, hquery⟩ := iterate_go hgo
    obtain ⟨-, ⟨-, hmoved, hstored, -⟩ | ⟨-, hanswer⟩⟩ := huntQuery_ok hs hquery
    · rw [hmoved, hstored]
      exact hs
    · exact (answerQuery_latest hs hanswer).1
  exact hreach.keeps hkeeps hlatest

/-- Where no query is repeated, an iteration that goes on uses one query of the budget, and
there was one left. -/
theorem Reached.spends (h : agent.Reached store s) (hfresh : ¬agent.Repeats s)
    (hgo : agent.iterate s = (es, .go s')) :
    s'.checkpoint.queriesUsed = s.checkpoint.queriesUsed + 1 ∧
      s.checkpoint.queriesUsed < agent.plan.limits.maxQueries := by
  obtain ⟨shown, query, answer, -, hasks, hquery⟩ := iterate_go hgo
  obtain ⟨hpreflight, ⟨hmem, -⟩ | ⟨-, hanswer⟩⟩ := huntQuery_ok h.latest hquery
  · exact absurd ⟨query, hasks, hmem, hpreflight⟩ hfresh
  · exact (answerQuery_latest h.latest hanswer).2

/-- A repeated query is answered, and uses nothing. -/
theorem Reached.repeats (h : agent.Reached store s) (hrepeats : agent.Repeats s) :
    ∃ shown, agent.iterate s =
      ([shown], .go ⟨s.store, s.checkpoint, s.turns ++ [shown]⟩) := by
  obtain ⟨query, hasks, hmem, hpreflight⟩ := hrepeats
  -- the turn has shown the observation of every query of the checkpoint
  obtain ⟨answer, hanswer⟩ : ∃ answer, s.store.observation agent.plan.planId query.queryDigest =
      .ok answer := by
    obtain ⟨-, shown, hturn, -⟩ := hasks
    simp only [turn, bind_eq_ok] at hturn
    obtain ⟨observations, hobservations, -⟩ := hturn
    exact exists_ok_of_mapM hobservations _ hmem
  have hquery : huntQuery s.store agent.plan agent.index s.checkpoint query agent.scope agent.now
      agent.sourceReader = .ok (s.store, s.checkpoint, answer) := by
    simp [huntQuery, hpreflight, hmem, h.latest, hanswer]
  exact hasks.iterate hquery

variable (agent) in
/-- An iteration shows at most one turn. -/
theorem length_iterate_le (s : HuntLoop) : (agent.iterate s).1.length ≤ 1 := by
  unfold iterate
  split_ifs
  · simp
  · split <;> simp

/-- An iteration that leaves the loop ends the run. -/
theorem iterate_leave {r : Option (HuntEnding CandidateSet)}
    (h : agent.iterate s = (es, .leave r)) : r ≠ none := by
  rintro rfl
  unfold iterate at h
  split_ifs at h
  · simp at h
  split at h
  · simp at h
  next shown hturn =>
    simp only [Prod.mk.injEq] at h
    obtain ⟨-, hact⟩ := h
    unfold act at hact
    split at hact
    · simp at hact
    · split at hact <;> simp at hact
    · simp at hact
    · simp at hact

/-- Where no query is repeated, what is left of the budget bounds the decide calls. -/
theorem endsWithinBudget (hfresh : ∀ s, agent.Reached store s → ¬agent.Repeats s) :
    agent.EndsWithinBudget store := by
  cases hlatest : store.latest agent.plan.planId with
  | error e => exact ⟨0, by simp [run, hlatest]⟩
  | ok checkpoint =>
    have hbody : ∀ s es s', agent.Reached store s → agent.iterate s = (es, .go s') →
        agent.Reached store s' ∧ agent.plan.limits.maxQueries - s'.checkpoint.queriesUsed <
          agent.plan.limits.maxQueries - s.checkpoint.queriesUsed := by
      intro s es s' hreached hgo
      have := hreached.spends (hfresh s hreached) hgo
      exact ⟨hreached.go hgo, by omega⟩
    have hstart : agent.Reached store ⟨store, checkpoint, []⟩ :=
      ⟨checkpoint, 0, 0, [], hlatest, .refl _ _⟩
    have hone : ∀ s es s', agent.iterate s = (es, .go s') → es.length = 1 := by
      intro s es s' hgo
      obtain ⟨shown, query, answer, rfl, -⟩ := iterate_go hgo
      rfl
    obtain ⟨es, m, t, fs, r, hreach, hleave⟩ :=
      exists_leave hbody hstart (n := agent.plan.limits.maxQueries + 1)
        (Nat.lt_succ_of_le (Nat.sub_le _ _))
    have hlength := hreach.length_add hone
    have hlast : fs.length ≤ 1 := by simpa [hleave] using agent.length_iterate_le t
    refine ⟨agent.plan.limits.maxQueries + 1, ?_⟩
    simp only [run, hlatest, loop_of_reaches hreach, loop_leave hleave, List.length_append]
    exact ⟨iterate_leave hleave, by omega⟩

/-- A run makes at most `max_queries + 1` decide calls, and every decide call that does not
end it uses one query, exactly when no decision repeats an answered query. -/
theorem ends_within_iff (agent : SourceHuntAgent CandidateSet) (store : SourceHuntStore) :
    (agent.EndsWithinBudget store ∧ agent.SpendsBudget store) ↔
      ∀ s, agent.Reached store s → ¬agent.Repeats s := by
  constructor
  · rintro ⟨-, hspends⟩ s hreached hrepeats
    obtain ⟨shown, hgo⟩ := hreached.repeats hrepeats
    have := hspends s hreached _ _ hgo
    simp at this
  · intro hfresh
    refine ⟨endsWithinBudget hfresh, fun s hreached es s' hgo => ?_⟩
    exact (hreached.spends (hfresh s hreached) hgo).1

end SourceHuntAgent

end

/-! ## An investigator that repeats itself -/

section

attribute [local instance] textHuntDigests plainUnicode

/-- An investigator that asks one query at every turn. -/
def repeatingAgent : SourceHuntAgent Unit where
  plan := sampleHuntPlan "k"
  index := sampleIndex
  scope := sampleHuntScope
  now := 2
  investigator := fun _ => some (.query sampleQuery)
  sourceReader := none
  materialize := fun _ _ _ => .ok ()

/-- The checkpoint of the started plan. -/
def startedSample : InvestigationCheckpoint :=
  ⟨⟨"pk", "im", .active, 0, 0, [], [], none, none, 1⟩, rfl⟩

/-- The checkpoint after the first answer. -/
def answeredSample : InvestigationCheckpoint :=
  ⟨⟨"pk", "im", .active, 1, 1, ["oqf"], ["qf"], none, none, 2⟩, by decide⟩

/-- The store once the plan has started. -/
def startedHunt : SourceHuntStore :=
  ⟨[sampleIndex], [sampleHuntPlan "k"], [startedSample], []⟩

/-- The store after the first answer. -/
def answeredHunt : SourceHuntStore :=
  ⟨[sampleIndex], [sampleHuntPlan "k"], [startedSample, answeredSample],
    [⟨"pk", ⟨"qf", .symbol, [], [], [], false⟩⟩]⟩

example : startHunt .empty sampleIndex sampleHuntScope sampleHuntLimits 1 200 "k" [] =
    .ok (startedHunt, sampleHuntPlan "k", startedSample) := by decide

/-- The first query is answered, and every later decision repeats it. -/
theorem repeatingAgent_goes_on (turns : List InvestigationTurn) :
    (∃ shown, repeatingAgent.iterate ⟨startedHunt, startedSample, turns⟩ =
      ([shown], .go ⟨answeredHunt, answeredSample, turns ++ [shown]⟩)) ∧
    ∃ shown, repeatingAgent.iterate ⟨answeredHunt, answeredSample, turns⟩ =
      ([shown], .go ⟨answeredHunt, answeredSample, turns ++ [shown]⟩) := by
  have hfirst : huntQuery startedHunt (sampleHuntPlan "k") sampleIndex startedSample sampleQuery
      sampleHuntScope 2 none =
        .ok (answeredHunt, answeredSample, ⟨"qf", .symbol, [], [], [], false⟩) := by
    decide
  have hagain : huntQuery answeredHunt (sampleHuntPlan "k") sampleIndex answeredSample sampleQuery
      sampleHuntScope 2 none =
        .ok (answeredHunt, answeredSample, ⟨"qf", .symbol, [], [], [], false⟩) := by
    decide
  have hasks : repeatingAgent.Asks ⟨startedHunt, startedSample, turns⟩ sampleQuery :=
    ⟨rfl, _, rfl, rfl⟩
  have hasks' : repeatingAgent.Asks ⟨answeredHunt, answeredSample, turns⟩ sampleQuery :=
    ⟨rfl, _, rfl, rfl⟩
  exact ⟨hasks.iterate hfirst, hasks'.iterate hagain⟩

/-- The run never ends, and from the second decision on it uses nothing of its budget. -/
theorem repeatingAgent_never_ends : (∀ n, (repeatingAgent.run n startedHunt).2 = none) ∧
    ¬(repeatingAgent.EndsWithinBudget startedHunt ∧
      repeatingAgent.SpendsBudget startedHunt) := by
  have hbody : ∀ s : HuntLoop,
      ((s.store, s.checkpoint) = (startedHunt, startedSample) ∨
        (s.store, s.checkpoint) = (answeredHunt, answeredSample)) →
      ∃ es s', repeatingAgent.iterate s = (es, .go s') ∧
        ((s'.store, s'.checkpoint) = (startedHunt, startedSample) ∨
          (s'.store, s'.checkpoint) = (answeredHunt, answeredSample)) := by
    rintro ⟨store, checkpoint, turns⟩ hs
    obtain ⟨⟨shown, hfirst⟩, ⟨shown', hagain⟩⟩ := repeatingAgent_goes_on turns
    rcases hs with hs | hs <;> cases hs
    · exact ⟨_, _, hfirst, Or.inr rfl⟩
    · exact ⟨_, _, hagain, Or.inr rfl⟩
  have hnone : ∀ n, (repeatingAgent.run n startedHunt).2 = none := by
    intro n
    obtain ⟨t, ht⟩ := loop_spent (fun _ => none) hbody n
      (s := ⟨startedHunt, startedSample, []⟩) (Or.inl rfl)
    exact ht
  refine ⟨hnone, ?_⟩
  rintro ⟨⟨n, hends, -⟩, -⟩
  exact hends (hnone n)

end

end VulnLoom

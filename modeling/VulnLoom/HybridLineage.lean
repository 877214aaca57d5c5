import VulnLoom.BrokerOnce
import VulnLoom.Connections
import VulnLoom.HybridValidation

/-!
# Lineage of Hybrid remediations

Runs of the Hybrid validation service. An execution reads the ledger in its preflight, claims
its plan in one transaction and finishes it in another; between them other connections may
write, and a connection that dies leaves its plan to a recovery.

A retest is handed a prior chain beside its plan. The preflight checks the chain it is handed,
while the chain it seals takes its lineage from the plan. `remediations_descend` : in a run where
each retest that reaches its sealing step was handed the chain its plan names, every stored
remediation descends from a stored confirmation.
-/

set_option linter.unusedSectionVars false

namespace VulnLoom

open CheckpointLedger Connections Transition

section

variable [PythonUrl] [HybridDigests] [ValidationDigests] [BrokerDigests]

/-! ## Calls and their steps -/

inductive HybridCall
  | prepare (p : HybridPreparation)
  | execute (x : HybridExecution)

/-- A call between two of its steps. -/
inductive PendingHybrid
  | prepare (p : HybridPreparation)
  | preflight (x : HybridExecution)
  | claim (x : HybridExecution) (checked : HybridExecution.Checked)
  | finish (x : HybridExecution) (checked : HybridExecution.Checked) (attempt : ℕ)

def HybridCall.begins : HybridCall → PendingHybrid
  | prepare p => .prepare p
  | execute x => .preflight x

/-- A call answers with a plan or an outcome. -/
abbrev HybridAnswer := Except HybridError (HybridValidationPlan ⊕ HybridValidationOutcome)

/-- The last transaction of an execution. -/
def HybridExecution.finish (x : HybridExecution) (checked : HybridExecution.Checked)
    (attempt : ℕ) (rows : List HybridRow) :
    Except HybridError (List HybridRow × HybridValidationOutcome) := do
  let outcome ← x.conclude checked attempt
  let finished ← hybridStore.finish rows outcome
  return (finished, outcome)

/-- What is left of an execution after its claim. -/
def HybridExecution.proceed (x : HybridExecution) (checked : HybridExecution.Checked) :
    Except HybridError HybridClaim → PendingHybrid ⊕ HybridAnswer
  | .error e => .inr (.error e)
  | .ok claim =>
    if claim.created then .inl (.finish x checked claim.attempt)
    else .inr (do
      let outcome ← orRaise claim.outcome (.validationError "AssertionError")
      let replayed ← x.replay outcome
      return .inr replayed)

/-- `prepare`, and the preflight, the claim and the last transaction of `execute`. -/
def hybridValidations : Program (List HybridRow) HybridCall PendingHybrid HybridAnswer where
  begins := HybridCall.begins
  next rows
    | .prepare p => (rows, .inr ((prepareHybrid rows p).map Sum.inl))
    | .preflight x =>
      match x.preflight rows with
      | .ok checked => (rows, .inl (.claim x checked))
      | .error e => (rows, .inr (.error e))
    | .claim x checked => ((x.claim rows).1, x.proceed checked (x.claim rows).2)
    | .finish x checked attempt =>
      match x.finish checked attempt rows with
      | .ok (finished, outcome) => (finished, .inr (.ok (.inr outcome)))
      | .error e => (rows, .inr (.error e))

/-! ## Lineage -/

/-- A chain is stored in a completed outcome. -/
def SealedIn (rows : List HybridRow) (chain : HybridEvidenceChain) : Prop :=
  ∃ row ∈ rows, ∃ outcome, row.outcome = some outcome ∧ outcome.state = .completed ∧
    outcome.chain = some chain

/-- A chain names a confirmation of another version of its source, at the same endpoint of the
same live target and in the same scope. -/
structure DescendsFrom (chain prior : HybridEvidenceChain) : Prop where
  named : chain.priorChainId = some prior.chainId
  confirmed : prior.conclusion = .confirmed
  sourceTarget : prior.sourceTargetId = chain.sourceTargetId
  sourceVersion : prior.sourceTargetVersion ≠ chain.sourceTargetVersion
  liveTarget : prior.liveTargetId = chain.liveTargetId
  endpoint : prior.endpointUrlDigest = chain.endpointUrlDigest
  scopeId : prior.scopeId = chain.scopeId

/-- The chain of an outcome descends from a stored chain, which its source remediation proof
names too. -/
structure HasLineage (rows : List HybridRow) (outcome : HybridValidationOutcome)
    (chain : HybridEvidenceChain) : Prop where
  descends : ∃ prior, SealedIn rows prior ∧ DescendsFrom chain prior
  proof : ∃ proof, outcome.sourceRemediationProof = some proof ∧
    some proof.priorChainId = chain.priorChainId

/-- Every stored remediation has its lineage. -/
def HybridLineage (rows : List HybridRow) : Prop :=
  ∀ row ∈ rows, ∀ outcome, row.outcome = some outcome → outcome.state = .completed →
    ∀ chain, outcome.chain = some chain → chain.conclusion = .remediated →
      HasLineage rows outcome chain

/-- A retest at its sealing step was handed the chain that its plan names. -/
def HandedNamedPrior : List HybridRow → PendingHybrid → Prop
  | _, .finish x _ _ => x.plan.checkKind = .remediationRetest →
      x.plan.priorChainId = x.priorChain.map HybridEvidenceChain.chainId
  | _, _ => True

instance (rows : List HybridRow) : ∀ pending, Decidable (HandedNamedPrior rows pending)
  | .finish x _ _ => inferInstanceAs (Decidable (x.plan.checkKind = .remediationRetest →
      x.plan.priorChainId = x.priorChain.map HybridEvidenceChain.chainId))
  | .prepare _ | .preflight _ | .claim _ _ => isTrue trivial

/-- The chains of a ledger. -/
def hybridChains (rows : List HybridRow) : List HybridEvidenceChain :=
  rows.filterMap fun row => row.outcome.bind HybridValidationOutcome.chain

variable {rows : List HybridRow} {chain : HybridEvidenceChain}

theorem SealedIn.mem (h : SealedIn rows chain) : chain ∈ hybridChains rows := by
  obtain ⟨row, hrow, outcome, houtcome, -, hchain⟩ := h
  exact List.mem_filterMap.2 ⟨row, hrow, by rw [houtcome, Option.bind_some, hchain]⟩

/-! ## What an execution seals -/

variable {outcome : HybridValidationOutcome}

theorem terminalShape_ok {sealed : HybridValidationOutcome}
    (h : outcome.terminalShape = .ok sealed) : sealed = outcome ∧ outcome.state ≠ .started ∧
      ∀ chain, outcome.chain = some chain → outcome.proofAgrees chain = true := by
  simp only [HybridValidationOutcome.terminalShape, bind_eq_ok, raiseIf_eq_ok, pure_eq_ok] at h
  obtain ⟨-, hstate, -, -, u, hproof, -, -, rfl⟩ := h
  refine ⟨rfl, hstate, fun chain heq => ?_⟩
  simp only [HybridValidationOutcome.checkProof, heq, raiseIf_eq_ok] at hproof
  simpa using hproof

variable {x : HybridExecution} {checked : HybridExecution.Checked}

/-- The outcome of a claimed execution is terminal, and its chain is what the execution sealed,
with the proof of a retest. -/
theorem conclude_ok {attempt : ℕ} (h : x.conclude checked attempt = .ok outcome) :
    outcome.state ≠ .started ∧ ∀ chain, outcome.chain = some chain →
      outcome.proofAgrees chain = true ∧
      x.sealSource checked = .ok outcome.sourceRemediationProof ∧
      chain.toHybridChainValues = x.chainValues checked outcome.sourceRemediationProof := by
  simp only [HybridExecution.conclude, HybridExecution.terminal] at h
  split_ifs at h
  · obtain ⟨rfl, hstate, -⟩ := terminalShape_ok h
    exact ⟨hstate, fun _ hchain => by cases hchain⟩
  · obtain ⟨rfl, hstate, -⟩ := terminalShape_ok h
    exact ⟨hstate, fun _ hchain => by cases hchain⟩
  · obtain ⟨rfl, hstate, -⟩ := terminalShape_ok h
    exact ⟨hstate, fun _ hchain => by cases hchain⟩
  · simp only [HybridExecution.sealChain, HybridExecution.terminal, bind_eq_ok] at h
    obtain ⟨proof, hproof, chain, hchain, hterminal⟩ := h
    obtain ⟨rfl, hstate, hagrees⟩ := terminalShape_ok hterminal
    refine ⟨hstate, fun _ heq => ?_⟩
    cases heq
    refine ⟨hagrees chain rfl, hproof, ?_⟩
    simp only [HybridEvidenceChain.create] at hchain
    split_ifs at hchain
    cases hchain
    rfl

/-! ## What a step keeps -/

/-- What a call may store : an outcome without a chain, or at its sealing step the one it
concludes. -/
def PendingHybrid.MayStore (pending : PendingHybrid) (outcome : HybridValidationOutcome) : Prop :=
  outcome.chain = none ∨ ∃ x checked attempt, pending = .finish x checked attempt ∧
    x.conclude checked attempt = .ok outcome

theorem next_writes (rows : List HybridRow) (pending : PendingHybrid) :
    hybridStore.Writes pending.MayStore rows (hybridValidations.next rows pending).1 := by
  cases pending with
  | prepare p => exact .nothing
  | preflight x =>
    simp only [hybridValidations]
    split
    · exact .nothing
    · exact .nothing
  | claim x checked =>
    exact Ledger.take_writes (fun _ => by simp [hybridStore, exhaustedHybrid]) fun _ => .inl rfl
  | finish x checked attempt =>
    simp only [hybridValidations]
    split
    next finished outcome hfinish =>
      simp only [HybridExecution.finish, bind_eq_ok, pure_eq_ok, Prod.mk.injEq] at hfinish
      obtain ⟨outcome, hconclude, finished, hstored, rfl, rfl⟩ := hfinish
      exact Ledger.finish_writes (conclude_ok hconclude).1
        (.inr ⟨x, checked, attempt, rfl, hconclude⟩) hstored
    · exact .nothing

theorem SealedIn.next (hrows : Ledger.Finished rows) (h : SealedIn rows chain)
    (pending : PendingHybrid) : SealedIn (hybridValidations.next rows pending).1 chain := by
  obtain ⟨row, hrow, outcome, houtcome, hstate, hchain⟩ := h
  exact ⟨row, (next_writes rows pending).keeps hrows hrow houtcome, outcome, houtcome, hstate,
    hchain⟩

/-! ## The preflight -/

/-- A retest that passes the check was handed a stored confirmation of another version. -/
theorem checkPriorChain_ok {prior? : Option HybridEvidenceChain} {candidate : Candidate}
    {proof : DeploymentProof} {scope : Scope} {u : Unit}
    (h : checkPriorChain rows .remediationRetest prior? candidate proof scope = .ok u) :
    ∃ prior, prior? = some prior ∧ PriorOf prior candidate proof scope ∧ SealedIn rows prior := by
  cases prior? with
  | none => cases h
  | some prior =>
    simp only [checkPriorChain, bind_eq_ok, raiseIf_eq_ok, mapError_eq_ok, not_not] at h
    obtain ⟨-, hprior, authoritative, houtcome, hsame⟩ := h
    push Not at hsame
    obtain ⟨row, hrow, -, hstored⟩ := Ledger.outcomeOf_ok houtcome
    exact ⟨prior, rfl, hprior, row, hrow, authoritative, hstored, hsame.2, hsame.1⟩

/-- What the preflight of a retest leaves known : the chain handed over is a stored
confirmation, and the plan is about the candidate, the deployment and the scope. -/
structure Preflighted (rows : List HybridRow) (x : HybridExecution) : Prop where
  prior : x.plan.checkKind = .remediationRetest → ∃ prior, x.priorChain = some prior ∧
    PriorOf prior x.candidate x.deploymentProof x.scope ∧ SealedIn rows prior
  sourceTarget : x.plan.sourceTargetId = x.candidate.targetId
  sourceVersion : x.plan.sourceTargetVersion = x.candidate.targetVersion
  liveTarget : x.plan.liveTargetId = x.deploymentProof.liveTargetId
  endpoint : x.plan.endpointUrlDigest = x.deploymentProof.endpointUrlDigest
  scopeId : x.plan.scopeId = x.scope.scopeId

theorem preflight_ok (h : x.preflight rows = .ok checked) : Preflighted rows x := by
  simp only [HybridExecution.preflight, bind_eq_ok, orRaise_eq_ok, raiseIf_eq_ok,
    Bool.not_eq_false] at h
  obtain ⟨-, -, u, hprior, ⟨validationPlan, validation⟩, -, source, -, -, hbound, -⟩ := h
  simp only [HybridExecution.isBound, decide_eq_true_eq] at hbound
  refine ⟨fun hkind => ?_, hbound.2.2.1, hbound.2.2.2.1, hbound.2.2.2.2.2.2.2.2.2.1,
    hbound.2.2.2.2.2.2.2.2.2.2.1, hbound.2.2.2.2.1⟩
  rw [hkind] at hprior
  exact checkPriorChain_ok hprior

theorem Preflighted.next (hrows : Ledger.Finished rows) (h : Preflighted rows x)
    (pending : PendingHybrid) : Preflighted (hybridValidations.next rows pending).1 x := by
  refine { h with prior := fun hkind => ?_ }
  obtain ⟨prior, hhanded, hprior, hsealed⟩ := h.prior hkind
  exact ⟨prior, hhanded, hprior, hsealed.next hrows pending⟩

/-! ## Runs -/

/-- What a call under way knows of the ledger. -/
def PendingHybrid.Knows (rows : List HybridRow) : PendingHybrid → Prop
  | .claim x _ | .finish x _ _ => Preflighted rows x
  | _ => True

theorem PendingHybrid.Knows.next (hrows : Ledger.Finished rows) {waiting : PendingHybrid}
    (h : waiting.Knows rows) (pending : PendingHybrid) :
    waiting.Knows (hybridValidations.next rows pending).1 := by
  cases waiting with
  | prepare p => trivial
  | preflight x => trivial
  | claim x checked => exact Preflighted.next hrows h pending
  | finish x checked attempt => exact Preflighted.next hrows h pending

variable {pending : PendingHybrid}

/-- What is left of a call after a step is an execution that has passed its preflight. -/
theorem knows_of_next (hrows : Ledger.Finished rows) {rest : PendingHybrid}
    (hknows : pending.Knows rows) (h : (hybridValidations.next rows pending).2 = .inl rest) :
    rest.Knows (hybridValidations.next rows pending).1 := by
  cases pending with
  | prepare p => cases h
  | preflight x =>
    simp only [hybridValidations] at h ⊢
    split at h
    next checked hchecked =>
      cases h
      exact preflight_ok hchecked
    · cases h
  | claim x checked =>
    have hkept := Preflighted.next hrows hknows (.claim x checked)
    simp only [hybridValidations, HybridExecution.proceed] at h hkept ⊢
    split at h
    · cases h
    · split_ifs at h
      cases h
      exact hkept
  | finish x checked attempt =>
    simp only [hybridValidations] at h
    split at h
    · cases h
    · cases h

/-- The proof that a retest seals names the chain its plan names. -/
theorem sealSource_ok {proof : SourceRemediationProof}
    (h : x.sealSource checked = .ok (some proof)) :
    some proof.priorChainId = x.plan.priorChainId := by
  simp only [HybridExecution.sealSource] at h
  split at h
  · cases h
  · simp only [bind_eq_ok, orRaise_eq_ok, SourceRemediationProof.create, raiseIf_eq_ok,
      pure_eq_ok] at h
    obtain ⟨priorChainId, hprior, proof, ⟨-, -, rfl⟩, heq⟩ := h
    cases heq
    exact hprior.symm

/-- A retest that was handed the chain its plan names concludes with a lineage. -/
theorem conclude_lineage {attempt : ℕ} (hknown : Preflighted rows x)
    (hnamed : HandedNamedPrior rows (.finish x checked attempt))
    (h : x.conclude checked attempt = .ok outcome) (hchain : outcome.chain = some chain)
    (hremediated : chain.conclusion = .remediated) : HasLineage rows outcome chain := by
  obtain ⟨hagrees, hsource, hvalues⟩ := (conclude_ok h).2 chain hchain
  have hkind : x.plan.checkKind = .remediationRetest := by
    have hconclusion : chain.conclusion = x.plan.checkKind.conclusion :=
      congrArg HybridChainValues.conclusion hvalues
    cases hkind : x.plan.checkKind with
    | initial =>
      rw [hconclusion, hkind] at hremediated
      cases hremediated
    | remediationRetest => rfl
  have hchainKind : chain.checkKind = x.plan.checkKind :=
    congrArg HybridChainValues.checkKind hvalues
  have hnames : chain.priorChainId = x.plan.priorChainId :=
    congrArg HybridChainValues.priorChainId hvalues
  obtain ⟨prior, hhanded, hprior, hsealed⟩ := hknown.prior hkind
  refine ⟨⟨prior, hsealed, ?_⟩, ?_⟩
  · refine ⟨?_, hprior.conclusion, ?_, ?_, ?_, ?_, ?_⟩
    · rw [hnames, hnamed hkind, hhanded, Option.map_some]
    · exact (hprior.sourceTarget.trans hknown.sourceTarget.symm).trans
        (congrArg HybridChainValues.sourceTargetId hvalues).symm
    · rw [congrArg HybridChainValues.sourceTargetVersion hvalues]
      intro heq
      exact hprior.sourceVersion (heq.trans hknown.sourceVersion)
    · exact (hprior.liveTarget.trans hknown.liveTarget.symm).trans
        (congrArg HybridChainValues.liveTargetId hvalues).symm
    · exact (hprior.endpoint.trans hknown.endpoint.symm).trans
        (congrArg HybridChainValues.endpointUrlDigest hvalues).symm
    · exact (hprior.scopeId.trans hknown.scopeId.symm).trans
        (congrArg HybridChainValues.scopeId hvalues).symm
  · simp only [HybridValidationOutcome.proofAgrees, hchainKind, hkind] at hagrees
    split at hagrees
    · simp at hagrees
    next proof hproof =>
      rw [hproof] at hsource
      exact ⟨proof, hproof, (sealSource_ok hsource).trans hnames.symm⟩

theorem HasLineage.next (hrows : Ledger.Finished rows) (h : HasLineage rows outcome chain)
    (pending : PendingHybrid) :
    HasLineage (hybridValidations.next rows pending).1 outcome chain := by
  obtain ⟨prior, hsealed, hdescends⟩ := h.descends
  exact ⟨⟨prior, hsealed.next hrows pending, hdescends⟩, h.proof⟩

/-- A step keeps the lineage of the remediations, where a retest at its sealing step was handed
the chain its plan names. -/
theorem HybridLineage.next (hrows : Ledger.Finished rows) (h : HybridLineage rows)
    (hknows : pending.Knows rows) (hnamed : HandedNamedPrior rows pending) :
    HybridLineage (hybridValidations.next rows pending).1 := by
  intro row hrow outcome houtcome hstate chain hchain hremediated
  rcases (next_writes rows pending).outcome hrow houtcome with ⟨old, hold, hstored⟩ | hnone |
      ⟨x, checked, attempt, rfl, hconclude⟩
  · exact (h old hold outcome hstored hstate chain hchain hremediated).next hrows pending
  · rw [hnone] at hchain
    cases hchain
  · exact (conclude_lineage hknows hnamed hconclude hchain hremediated).next hrows _

/-- From an empty ledger, in every run where each retest that reaches its sealing step was handed
the chain its plan names, every stored remediation descends at all times from a stored
confirmation, and its source remediation proof names the same chain. -/
theorem remediations_descend (steps : List (Step HybridCall))
    (hnamed : Along hybridValidations.step (System.Meets HandedNamedPrior) (System.idle []) steps) :
    Always hybridValidations.step (fun sys => HybridLineage sys.store) (System.idle []) steps := by
  have hlineage : HybridLineage [] := fun _ h => by cases h
  refine Program.always_of_along (I := Ledger.Finished)
    (J := fun rows pending => pending.Knows rows)
    (fun rows pending => (next_writes rows pending).finished) (fun rows call _ _ => ?_)
    (fun rows pending hrows hlineage hknows hC => ⟨hlineage.next hrows hknows hC,
      fun rest hrest => knows_of_next hrows hknows hrest,
      fun waiting hwaiting => hwaiting.next hrows pending⟩)
    steps Ledger.Finished.nil (System.holds_idle hlineage) hnamed
  cases call with
  | prepare p => trivial
  | execute x => trivial

end

/-! ## A retest with another prior chain -/

section

attribute [local instance] textPolicyDigests hostUrls textBrokerDigests

/-- Digests that are short enough to compute with. -/
@[reducible] def textValidationDigests : ValidationDigests where
  candidate := ⟨Candidate.targetVersion⟩
  plan := ⟨ValidationPlan.idempotencyKey⟩

/-- Digests that are short enough to compute with. -/
@[reducible] def textHybridDigests : HybridDigests where
  deploymentProof := ⟨DeploymentProof.attestationEvidenceRef⟩
  sealedProof := DeploymentProof.attestationEvidenceRef
  plan := ⟨fun plan => plan.idempotencyKey⟩
  chain := ⟨fun chain => "chain of " ++ chain.planId⟩
  remediationProof := ⟨SourceRemediationProof.validationPlanId⟩

attribute [local instance] textValidationDigests textHybridDigests

def hybridCandidate (version : String) : Candidate where
  candidateId := "c"
  targetId := "t"
  targetVersion := version
  sourceGraphId := "g"
  scopeId := "s"
  scopeVersion := 1
  title := "t"
  cwe := "CWE-89"
  entryPoint := ⟨"f", 1, none⟩
  sink := ⟨"f", 1, none⟩
  codePath := []
  preconditions := []
  securityInvariant := "i"
  hypothesis := "h"
  signalIds := []
  cheapestDisproof := "d"
  duplicateFingerprint := "f"
  confidence := 1
  state := .proposed

def deployment (version : String) : DeploymentProof where
  sourceTargetId := "t"
  sourceTargetVersion := version
  sourceManifestDigest := "m" ++ version
  liveTargetId := "l"
  endpointUrlDigest := "uhttps://t/"
  deployedArtifactDigest := "a"
  attestationEvidenceRef := "deployed " ++ version
  attestedBy := "operator:o"
  attestedAt := 0
  expiresAt := 90
  window := by decide

/-- A validation plan with the given calls. -/
def validationOf (version key : String) (brokerCalls : List BrokerCall) : ValidationPlan where
  candidateId := "c"
  candidateDigest := version
  targetId := "t"
  targetVersion := version
  scopeId := "s"
  scopeVersion := 1
  selectedBy := "operator:o"
  selectedAt := 1
  selectionReason := "r"
  runnerRequest :=
    ⟨"r", sampleCall.task, sampleCall.profile, ⟨"sandbox.test", [], .source⟩, [], "k"⟩
  brokerCalls := brokerCalls
  httpAssertion := none
  idempotencyKey := key
  asserted := by simp

/-- The result of a call to the endpoint. -/
def endpointResult : BrokerResult where
  callId := "c"
  taskId := "k"
  toolId := "http.request"
  status := .completed
  registryDigest := "http.request"
  callDigest := "y"
  toolCallsUsed := 1
  policyRecords := []
  http := some ⟨200, "uhttps://t/", "1.1.1.1", 2, "b", [], ["response"], status_bounds,
    address_ne⟩
  errorCodes := []
  completedAt := 2
  shape := by decide

/-- The completed validation of a plan. -/
def validatedBy (plan : ValidationPlan) (result : ValidationResult)
    (brokerResults : List BrokerResult) : ValidationPlan × ValidationOutcome :=
  (plan,
    { planId := plan.planId
      candidate := hybridCandidate plan.targetVersion
      validationRun :=
        { runId := "r"
          candidateId := "c"
          targetVersion := plan.targetVersion
          scopeVersion := 1
          sandboxImageDigest := "i"
          policyDigest := "p"
          plan := []
          startedAt := 1
          finishedAt := 2
          result := result
          evidenceRefs := ["source"]
          resourceUsage := []
          ordered := by decide }
      evidenceBundle := some ⟨"b", "c", ["source"], 2⟩
      brokerResults := brokerResults
      verdict := ⟨result, "asserted", ["source"], fun _ => List.cons_ne_nil _ _⟩
      completedAt := 2 })

/-- The validations of both versions are completed, and all evidence is in place. -/
def hybridFacts : HybridFacts where
  loadCompleted planId :=
    if planId = "live 1" then
      some (validatedBy (validationOf "1" "live 1" [sampleCall]) .reproduced [endpointResult])
    else if planId = "live 2" then
      some (validatedBy (validationOf "2" "live 2" [sampleCall]) .notReproduced [endpointResult])
    else if planId = "source 2" then
      some (validatedBy (validationOf "2" "source 2" []) .notReproduced [])
    else none
  contains _ := true
  elapsed := 0
  bundleId := "b"

def hybridPlanValues (checkKind : HybridCheckKind) (version : String)
    (priorChainId : Option Digest) : HybridPlanValues where
  checkKind := checkKind
  candidateId := "c"
  candidateDigest := version
  sourceTargetId := "t"
  sourceTargetVersion := version
  sourceManifestDigest := "m" ++ version
  liveTargetId := "l"
  endpointUrlDigest := "uhttps://t/"
  deploymentProofId := "deployed " ++ version
  deploymentProofDigest := "deployed " ++ version
  sourceValidationPlanId := priorChainId.map fun _ => "source " ++ version
  validationPlanId := "live " ++ version
  sourceEvidenceRefs := ["source"]
  expectedResult := checkKind.expected
  priorChainId := priorChainId
  scopeId := "s"
  scopeVersion := 1
  limits := ⟨64, 64, 30000000, 3, last_of_three⟩
  createdAt := 2
  deadline := 80
  idempotencyKey := version

/-- The initial check of version 1. -/
def initialCheck : HybridExecution where
  plan := ⟨hybridPlanValues .initial "1" none, by decide +kernel⟩
  candidate := hybridCandidate "1"
  deploymentProof := deployment "1"
  scope := sampleScope
  now := 3
  priorChain := none
  recover := false
  facts := hybridFacts

/-- The chain that the initial check seals. -/
def confirmedChain : HybridEvidenceChain :=
  ⟨initialCheck.chainValues
    ⟨(validatedBy (validationOf "1" "live 1" [sampleCall]) .reproduced [endpointResult]).2, none,
      ["response"]⟩ none, by decide +kernel⟩

/-- A retest of version 2 under a plan that names a prior chain, handed the confirmed chain. -/
def retest (priorChainId : Digest) (h : (hybridPlanValues .remediationRetest "2"
    (some priorChainId)).Sealed) : HybridExecution where
  plan := ⟨hybridPlanValues .remediationRetest "2" (some priorChainId), h⟩
  candidate := hybridCandidate "2"
  deploymentProof := deployment "2"
  scope := sampleScope
  now := 5
  priorChain := some confirmedChain
  recover := false
  facts := hybridFacts

/-- An execution from its call to its last transaction. -/
def wholeExecution (x : HybridExecution) : List (Step HybridCall) :=
  [.call 0 (.execute x), .go 0, .go 0, .go 0]

/-- The retest under a plan that names the confirmed chain; the remediation it seals descends
from that chain. -/
theorem retest_descends :
    Always hybridValidations.step (fun sys => HybridLineage sys.store) (System.idle [])
      (wholeExecution initialCheck ++
        wholeExecution (retest confirmedChain.chainId (by decide +kernel))) :=
  remediations_descend _ (by decide +kernel)

/-- The retest under a plan that names a chain which is nowhere stored. -/
def otherRetest : HybridExecution :=
  retest "another chain" (by decide +kernel)

/-- Handed the confirmed chain, it is sealed all the same, as a remediation of the other. -/
theorem other_retest_is_sealed :
    ¬∀ steps, Always hybridValidations.step (fun sys => HybridLineage sys.store)
      (System.idle []) steps := by
  intro hall
  have hlineage := hall (wholeExecution initialCheck ++ wholeExecution otherRetest) _
    (List.prefix_refl _)
  have hstored : ∃ row ∈ (run hybridValidations.step (System.idle [])
      (wholeExecution initialCheck ++ wholeExecution otherRetest)).store,
      ∃ outcome ∈ row.outcome, outcome.state = .completed ∧ ∃ chain ∈ outcome.chain,
        chain.conclusion = .remediated ∧ chain.priorChainId = some "another chain" := by
    decide +kernel
  have hids : ∀ chain ∈ hybridChains (run hybridValidations.step (System.idle [])
      (wholeExecution initialCheck ++ wholeExecution otherRetest)).store,
      chain.chainId ≠ "another chain" := by
    decide +kernel
  obtain ⟨row, hrow, outcome, houtcome, hstate, chain, hchain, hremediated, hprior⟩ := hstored
  obtain ⟨prior, hsealed, hdescends⟩ :=
    (hlineage row hrow outcome houtcome hstate chain hchain hremediated).descends
  exact hids prior hsealed.mem (Option.some.inj (hdescends.named.symm.trans hprior))

end

end VulnLoom

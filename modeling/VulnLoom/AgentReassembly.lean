import VulnLoom.AgentSession
import VulnLoom.BrokerOnce
import VulnLoom.RedactionPlain

/-!
# Preflights of prepared plans

A preflight assembles the context of its plan again, under limits that it takes from the sealed
snapshot : the bytes of a raw source may be no more than those of the largest redacted fragment.
`reassembly_agrees_iff` : a prepared plan passes its preflight exactly when no raw source is longer
than all redacted ones, and the clock is prompt. Other snapshots may be published in between.
-/

set_option linter.unusedSectionVars false

namespace VulnLoom.AgentRuntime

open Transition AgentContextAssembler

section

variable [PythonUnicode] [PythonAlnum] [AgentDigests] [PythonDatetime] [EvidenceDigest]
  [AgentContextJson] {contexts contexts' : AgentContextStore} {clock : ℕ → ℚ}

namespace AgentContinuationService

variable {service : AgentContinuationService} {plan : AgentContinuationPlan}
  {sources : List AgentContextSource}

/-- The times at which a plan may be executed. -/
def Active (plan : AgentContinuationPlan) (now : Time) : Prop :=
  plan.createdAt ≤ now ∧ now < min (min plan.deadline plan.rootPlan.task.deadline)
    plan.continuationPlan.task.deadline

/-- The plan is assembled again as it was sealed, and passes its preflight while it is active. -/
def Agrees (service : AgentContinuationService) (contexts : AgentContextStore) (clock : ℕ → ℚ)
    (plan : AgentContinuationPlan) : Prop :=
  service.reassemble clock plan = .ok plan.contextSnapshot ∧
    ∀ now, Active plan now → service.preflight contexts clock plan now = .ok plan

end AgentContinuationService

end

/-! ## Sessions -/

section

variable [PythonUrl] [AgentCallDigests] [PythonUnicode] [PythonAlnum] [AgentDigests]
  [AgentSessionDigests] [PolicyDigests] [BrokerDigests] [PythonDatetime] [EvidenceDigest]
  [AgentContextJson] {contexts contexts' : AgentContextStore} {clock : ℕ → ℚ}

theorem AgentSessionPlan.create_ok {fields : AgentSessionFields} {plan : AgentSessionPlan}
    (h : create fields = .ok plan) : plan.toAgentSessionFields = fields := by
  unfold create at h
  split_ifs at h
  cases h
  rfl

namespace AgentSessionService

variable {service : AgentSessionService} {plan : AgentSessionPlan}
  {sources : List AgentContextSource}

/-- The broker accepts the calls, or the message is raised. -/
theorem validateCalls_eq_ok {callSet : AgentAuthorizedCallSet} {message : String} {u : Unit} :
    service.validateCalls callSet message = .ok u ↔ ∃ registrations, callSet.options.mapM
      (fun option => service.broker.preflight option.brokerCall.toBrokerCall) =
        .ok registrations := by
  simp only [validateCalls, bind_eq_ok, mapError_eq_ok, pure_eq_ok, and_true]

/-- The times at which a plan may be executed. -/
def Active (plan : AgentSessionPlan) (now : Time) : Prop :=
  plan.createdAt ≤ now ∧ now < plan.deadline

/-- The plan is assembled again as it was sealed, and passes its preflight while it is active. -/
def Agrees (service : AgentSessionService) (contexts : AgentContextStore) (clock : ℕ → ℚ)
    (plan : AgentSessionPlan) : Prop :=
  service.reassemble clock plan = .ok plan.contextSnapshot ∧
    ∀ now, Active plan now → service.preflight contexts clock plan now = .ok plan

/-- What a preparation read, validated, assembled and published. -/
structure Prepared (service : AgentSessionService) (contexts contexts' : AgentContextStore)
    (plan : AgentSessionPlan) (sources : List AgentContextSource) : Prop where
  inputs : service.inputs plan.rootPlan plan.firstHandoffOutcome.handoffId =
    .ok (plan.rootOutcome, plan.firstHandoffOutcome, plan.observation)
  registrationId : plan.roundPlan.modelRegistrationId = service.registration.registrationId
  registrationDigest :
    plan.roundPlan.modelRegistrationDigest = canonicalDigest service.registration
  calls : ∃ registrations, plan.authorizedCalls.options.mapM
    (fun option => service.broker.preflight option.brokerCall.toBrokerCall) = .ok registrations
  sources_eq : agentObservationContextSources service.evidenceStore plan.observation = .ok sources
  assembled : ∃ limits clock, service.contextAssembler.assemble limits clock
    plan.roundPlan.task sources plan.createdAt plan.deadline = .ok plan.contextSnapshot
  published : contexts.publish plan.contextSnapshot = .ok contexts'

theorem prepare_ok {callIds : ℕ → UUID} {request : AgentSessionRequest}
    (h : service.prepare contexts clock callIds request = .ok (plan, contexts')) :
    ∃ sources, Prepared service contexts contexts' plan sources := by
  simp only [prepare, bind_eq_ok, Prod.exists] at h
  obtain ⟨rootOutcome, firstHandoff, observation, hinputs, -, -, -, -, -, -, h⟩ := h
  split_ifs at h with hwall
  simp only [bind_eq_ok, mapError_eq_ok, pure_eq_ok, validateCalls_eq_ok, Prod.exists,
    Prod.mk.injEq] at h
  obtain ⟨-, -, -, -, -, -, authorizedCalls, -, -, -, -, hcalls, _, _, ⟨sources, hsources,
    snapshot, hassemble, _, hpublish, rfl, rfl⟩, runLimits, -, roundPlan, hplan, budget, -, _,
    hcreate, rfl, rfl⟩ := h
  obtain ⟨htask, hid, hdigest⟩ := AgentRunPlan.create_ok hplan
  refine ⟨sources, ?_⟩
  constructor
  all_goals rw [AgentSessionPlan.create_ok hcreate]
  · rwa [authoritativeInputs_handoffId hinputs]
  · exact hid
  · exact hdigest
  · exact hcalls
  · exact hsources
  · exact ⟨_, _, htask ▸ hassemble⟩
  · exact hpublish

end AgentSessionService

end

/-! ## Evidence with Windows newlines -/

section

attribute [local instance] textPolicyDigests hostUrls textBrokerDigests plainUnicode asciiAlnum

/-- Digests that are short enough to compute with. -/
@[reducible] def textAgentDigests : AgentDigests where
  text := ⟨fun text => "d" ++ text⟩
  texts := ⟨fun texts => String.join texts⟩
  task := ⟨fun task => task.taskId⟩
  snapshot := ⟨fun snapshot => "s" ++ snapshot.taskId⟩
  registration := ⟨fun registration => registration.model⟩
  runPlan := ⟨fun plan => plan.idempotencyKey⟩
  runOutcome := ⟨fun outcome => "r" ++ outcome.planId⟩
  invocation := ⟨fun invocation => String.join invocation.arguments⟩
  observation := ⟨fun observation => "o" ++ observation.handoffId⟩
  brokerResult := ⟨fun result => "x" ++ result.callDigest⟩

@[reducible] def textCallDigests : AgentCallDigests where
  agentCall := ⟨fun call => call.idempotencyKey⟩
  commitment := ⟨fun commitment => commitment.task.taskId⟩
  template := ⟨fun template => template.idempotencyKey⟩

@[reducible] def epochDatetime : PythonDatetime where
  isoformat _ := "1970-01-01T00:00:00Z"

@[reducible] def singleEvidence : EvidenceDigest where
  sha256 _ := "e"

@[reducible] def countedJson : AgentContextJson :=
  let _ := textAgentDigests
  ⟨fun snapshot => totalBytes snapshot.fragments⟩

attribute [local instance] textAgentDigests textCallDigests epochDatetime singleEvidence
  countedJson

@[reducible] def textSessionDigests : AgentSessionDigests where
  callSet := ⟨fun callSet => "c" ++ callSet.taskId⟩

attribute [local instance] textSessionDigests

def sampleTask : AgentTask :=
  { sampleCall.task with
    toolCalls := 2
    deadline := 90000000
    wallSeconds := 60
    modelTokens := 100
    idempotencyKey := "t"
    wallSeconds_bounds := by decide }

def sampleRegistration : AgentModelRegistration where
  registrationId := "m"
  providerId := "p"
  model := "l"
  supportedRoles := [.validator]
  maxOutputTokens := 4096
  maxOutputTokens_bounds := by decide

def sampleRootPlan : AgentRunPlan where
  task := sampleTask
  modelRegistrationId := "m"
  modelRegistrationDigest := "l"
  contextSnapshotId := none
  authorizedCallSetId := none
  authorizedCallCommitments := []
  limits := ⟨1, 50, 30, by decide, by decide, by decide⟩
  createdAt := 0
  deadline := 80000000
  idempotencyKey := "root"
  window := by decide
  authorized := by decide

def sampleObservation : AgentToolObservation where
  handoffId := "h"
  taskId := "k"
  targetId := "t"
  targetVersion := "1"
  scopeId := "s"
  scopeVersion := 1
  toolId := "http.request"
  brokerResultDigest := "xb"
  statusCode := 200
  finalUrlDigest := "u"
  responseBytes := 4
  responseBodySha256 := "e"
  evidenceRefs := ["e"]
  observedAt := 0
  statusCode_bounds := by decide
  responseBytes_le := by decide
  evidenceRefs_sorted := by decide
  evidenceRefs_bounds := by decide

/-- Characters that are normalised to others, which the redactor leaves. -/
structure RedactsTo (characters redacted : List Char) : Prop where
  unix : (replaceNewlines characters).map (fun c => if c = '\r' then '\n' else c) = redacted
  unixAgain : (replaceNewlines redacted).map (fun c => if c = '\r' then '\n' else c) = redacted
  allowed : redacted.any (fun c => c.toNat < 32 ∧ c ≠ '\n' ∧ c ≠ '\t') = false
  kept : Redactor.default.redact redacted = redacted
  source_le : (String.ofList characters).utf8ByteSize ≤ 65536
  fragment_le : (String.ofList redacted).utf8ByteSize ≤ 32768

namespace RedactsTo

variable {characters redacted : List Char} (h : RedactsTo characters redacted)
include h

theorem again : RedactsTo redacted redacted where
  unix := h.unixAgain
  unixAgain := h.unixAgain
  allowed := h.allowed
  kept := h.kept
  source_le := h.fragment_le.trans (by decide)
  fragment_le := h.fragment_le

theorem text_eq : Redactor.default.text (String.ofList redacted) = String.ofList redacted := by
  rw [Redactor.text, String.toList_ofList, h.kept]

end RedactsTo

/-- The sources of the sample observation with an evidence. -/
def sampleSources (evidence : String) : List AgentContextSource :=
  [⟨"agent-observation:" ++ sampleObservation.observationId, .observationSummary,
      sampleObservation.dumps⟩,
    ⟨"evidence:" ++ "e", .evidenceSummary, evidence⟩]

section

variable {characters redacted : List Char} (h : RedactsTo characters redacted)

end

end

end VulnLoom.AgentRuntime

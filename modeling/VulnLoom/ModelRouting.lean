import Mathlib.Data.Prod.Lex
import VulnLoom.Basic
import VulnLoom.Table

/-!
# Model routes

A flow is sealed with one binding for each route it asks for. A route names a primary model and a
fallback policy; `admit_route` looks each model up by its digests and checks it against what the
route requires. The registries are mappings from digests to records.
-/

namespace VulnLoom

/-! ## Records -/

inductive ProviderLifecycleState
  | draft
  | secretBound
  | connectivityVerified
  | catalogDiscovered
  | capabilitiesProbed
  | roleAdmitted
  | degraded
  | disabled
  | revoked
  deriving DecidableEq

inductive ProviderProtocol
  | openaiResponses
  | openaiChatCompletions
  | anthropicMessages
  | geminiGenerateContent
  | localOpenaiCompatible
  deriving DecidableEq

inductive ModelCapability
  | chat
  | strictStructuredOutput
  | toolProposal
  | streaming
  | reasoning
  | imageInput
  | usageAccounting
  | cancellation
  deriving DecidableEq

def ModelCapability.value : ModelCapability → String
  | .chat => "chat"
  | .strictStructuredOutput => "strict_structured_output"
  | .toolProposal => "tool_proposal"
  | .streaming => "streaming"
  | .reasoning => "reasoning"
  | .imageInput => "image_input"
  | .usageAccounting => "usage_accounting"
  | .cancellation => "cancellation"

inductive CapabilityStatus
  | unknown
  | declared
  | probed
  | failed
  deriving DecidableEq

inductive ContextDataClass
  | synthetic
  | publicTargetMetadata
  | sourceCode
  | redactedEvidence
  deriving DecidableEq

def ContextDataClass.value : ContextDataClass → String
  | .synthetic => "synthetic"
  | .publicTargetMetadata => "public_target_metadata"
  | .sourceCode => "source_code"
  | .redactedEvidence => "redacted_evidence"

inductive ModelEngine
  | sourceHunt
  | authorizedRedTeam
  | hybrid
  deriving DecidableEq

def ModelEngine.value : ModelEngine → String
  | .sourceHunt => "source_hunt"
  | .authorizedRedTeam => "authorized_red_team"
  | .hybrid => "hybrid"

inductive ModelAgentRole
  | planner
  | recon
  | extractor
  | source
  | web
  | validator
  | critic
  | reporter
  deriving DecidableEq

def ModelAgentRole.value : ModelAgentRole → String
  | .planner => "planner"
  | .recon => "recon"
  | .extractor => "extractor"
  | .source => "source"
  | .web => "web"
  | .validator => "validator"
  | .critic => "critic"
  | .reporter => "reporter"

inductive FallbackTrigger
  | rateLimited
  | timeout
  | providerUnavailable
  | emptyResponse
  deriving DecidableEq

def FallbackTrigger.value : FallbackTrigger → String
  | .rateLimited => "rate_limited"
  | .timeout => "timeout"
  | .providerUnavailable => "provider_unavailable"
  | .emptyResponse => "empty_response"

/-- `_sorted_unique`, up to its check that there is a value. -/
def sortedUnique {τ : Type} [DecidableEq τ] (value : τ → String) (values : List τ) : List τ :=
  Table.orderBy value values.dedup

/-- What the digest of a profile covers. -/
structure ProviderConfiguration where
  providerId : String
  revision : ℕ
  displayName : String
  protocol : ProviderProtocol
  protocolAdapterId : String
  endpointReferenceId : Digest
  credentialReferenceId : Digest
  dataPolicyId : Digest
  allowedContextDataClasses : List ContextDataClass
  classes_ne_nil : allowedContextDataClasses ≠ []
  classes_sorted : allowedContextDataClasses =
    sortedUnique ContextDataClass.value allowedContextDataClasses

/-- What the digest of a lifecycle covers. -/
structure ProviderLifecycle where
  profileDigest : Digest
  state : ProviderLifecycleState
  lifecycleSequence : ℕ
  lifecycleEvidenceDigest : Option Digest

structure ModelCapabilityAssessment where
  capability : ModelCapability
  status : CapabilityStatus
  probeResultDigest : Option Digest
  evidence_matches_status :
    (status = .probed ∨ status = .failed) ↔ probeResultDigest.isSome = true

structure CapabilityManifest where
  providerProfileDigest : Digest
  providerModelId : String
  protocolAdapterDigest : Digest
  assessments : List ModelCapabilityAssessment
  maxContextTokens : Option ℕ
  maxOutputTokens : Option ℕ
  observedAt : Option Time
  assessments_ne_nil : assessments ≠ []
  assessments_sorted : assessments =
    Table.orderBy (fun item => item.capability.value) assessments
  capabilities_nodup : (assessments.map ModelCapabilityAssessment.capability).Nodup
  observed : (∃ item ∈ assessments, item.status = .probed ∨ item.status = .failed) ↔
    observedAt.isSome = true

structure ModelReference where
  providerProfileDigest : Digest
  capabilityManifestDigest : Digest
  providerModelId : String
  deriving DecidableEq

structure ModelBudgetProfile where
  maxTotalTokens : ℕ
  maxOutputTokensPerTurn : ℕ
  maxProviderAttempts : ℕ
  timeoutPerAttempt : Time
  maxCostMicrounits : Option ℕ
  output_pos : 0 < maxOutputTokensPerTurn
  output_fits_total : maxOutputTokensPerTurn ≤ maxTotalTokens
  attempts_bounds : 1 ≤ maxProviderAttempts ∧ maxProviderAttempts ≤ 8
  timeout_bounds : 0 < timeoutPerAttempt ∧ timeoutPerAttempt ≤ 600000000
  deriving DecidableEq

structure FallbackPolicy where
  orderedModels : List ModelReference
  triggers : List FallbackTrigger
  maxFallbackAttempts : ℕ
  allowCrossProvider : Bool
  requireOperatorApproval : Bool
  models_length : orderedModels.length ≤ 4
  triggers_sorted : triggers = sortedUnique FallbackTrigger.value triggers
  models_nodup : orderedModels.Nodup
  attempts_le : maxFallbackAttempts ≤ orderedModels.length
  triggers_configured : orderedModels ≠ [] ↔ triggers ≠ []
  attempts_configured : orderedModels ≠ [] ↔ 0 < maxFallbackAttempts

structure ModelRoute where
  engine : ModelEngine
  agentRole : ModelAgentRole
  primaryModel : ModelReference
  fallbackPolicyDigest : Digest
  requiredCapabilities : List ModelCapability
  requiredContextDataClasses : List ContextDataClass
  budget : ModelBudgetProfile
  capabilities_ne_nil : requiredCapabilities ≠ []
  capabilities_sorted : requiredCapabilities =
    sortedUnique ModelCapability.value requiredCapabilities
  classes_ne_nil : requiredContextDataClasses ≠ []
  classes_sorted : requiredContextDataClasses =
    sortedUnique ContextDataClass.value requiredContextDataClasses

/-- The content digests of the routing records. -/
class ModelRoutingDigests where
  configuration : CanonicalDigest ProviderConfiguration
  lifecycle : CanonicalDigest ProviderLifecycle
  manifest : CanonicalDigest CapabilityManifest
  policy : CanonicalDigest FallbackPolicy
  route : CanonicalDigest ModelRoute

attribute [reducible, instance] ModelRoutingDigests.configuration ModelRoutingDigests.lifecycle
  ModelRoutingDigests.manifest ModelRoutingDigests.policy ModelRoutingDigests.route

section

variable [ModelRoutingDigests]

def CapabilityManifest.manifestDigest (manifest : CapabilityManifest) : Digest :=
  canonicalDigest manifest

def FallbackPolicy.policyDigest (policy : FallbackPolicy) : Digest :=
  canonicalDigest policy

def ModelRoute.routeDigest (route : ModelRoute) : Digest :=
  canonicalDigest route

structure ProviderProfile extends ProviderConfiguration where
  state : ProviderLifecycleState
  lifecycleSequence : ℕ
  lifecycleEvidenceDigest : Option Digest
  sequence_pos : 1 ≤ lifecycleSequence
  initial : lifecycleSequence = 1 → state = .draft ∧ lifecycleEvidenceDigest = none
  evidenced : lifecycleSequence ≠ 1 → lifecycleEvidenceDigest.isSome = true

def ProviderProfile.profileDigest (profile : ProviderProfile) : Digest :=
  canonicalDigest profile.toProviderConfiguration

def ProviderProfile.lifecycleDigest (profile : ProviderProfile) : Digest :=
  canonicalDigest (ProviderLifecycle.mk profile.profileDigest profile.state
    profile.lifecycleSequence profile.lifecycleEvidenceDigest)

end

structure FlowRoleModelBinding where
  engine : ModelEngine
  agentRole : ModelAgentRole
  routeDigest : Digest
  selectedModel : ModelReference
  fallbackPolicyDigest : Digest
  providerLifecycleDigest : Digest
  providerDataPolicyId : Digest
  protocolAdapterDigest : Digest
  budget : ModelBudgetProfile
  deriving DecidableEq

/-- The sort key of an engine and a role. -/
def roleKey (engine : ModelEngine) (role : ModelAgentRole) : String ×ₗ String :=
  toLex (engine.value, role.value)

structure FlowModelSnapshot where
  flowId : UUID
  routingPolicyDigest : Digest
  promptContractDigest : Digest
  toolSchemaDigest : Digest
  bindings : List FlowRoleModelBinding
  createdAt : Time
  bindings_ne_nil : bindings ≠ []
  bindings_sorted :
    bindings = Table.orderBy (fun item => roleKey item.engine item.agentRole) bindings
  bindings_nodup : (bindings.map fun item => (item.engine, item.agentRole)).Nodup

inductive ModelRoutingError
  /-- `ModelRouteRejected` -/
  | rejected (message : String)
  | valueError
  deriving DecidableEq

/-! ## Admission -/

/-- The arguments of `build_flow_model_snapshot`. -/
structure FlowModelRequest [ModelRoutingDigests] where
  flowId : UUID
  routes : List ModelRoute
  profiles : Digest → Option ProviderProfile
  manifests : Digest → Option CapabilityManifest
  fallbackPolicies : Digest → Option FallbackPolicy
  routingPolicyDigest : Digest
  promptContractDigest : Digest
  toolSchemaDigest : Digest
  createdAt : Time

section

variable [ModelRoutingDigests]

/-- The capabilities that a manifest has probed. -/
def CapabilityManifest.probed (manifest : CapabilityManifest) : List ModelCapability :=
  (manifest.assessments.filter fun item => item.status = .probed).map
    ModelCapabilityAssessment.capability

/-- A binding is what a route asks for. -/
structure ModelRoute.Serves (route : ModelRoute) (binding : FlowRoleModelBinding) : Prop where
  engine : binding.engine = route.engine
  agent_role : binding.agentRole = route.agentRole
  route_digest : binding.routeDigest = route.routeDigest
  selected_model : binding.selectedModel = route.primaryModel
  fallback_policy : binding.fallbackPolicyDigest = route.fallbackPolicyDigest
  budget : binding.budget = route.budget

namespace FlowModelRequest

variable (request : FlowModelRequest)

/-- `_admit_model_reference`. -/
def admitModelReference (reference : ModelReference) (requiredCapabilities : List ModelCapability)
    (requiredDataClasses : List ContextDataClass) :
    Except ModelRoutingError (ProviderProfile × CapabilityManifest) := do
  let profile ← orRaise (request.profiles reference.providerProfileDigest)
    (.rejected "model Provider Profile is missing or invalid")
  raiseIf (profile.profileDigest ≠ reference.providerProfileDigest)
    (.rejected "model Provider Profile is missing or invalid")
  raiseIf (profile.state ≠ .roleAdmitted)
    (.rejected "model Provider Profile is not role-admitted")
  raiseIf (¬requiredDataClasses ⊆ profile.allowedContextDataClasses)
    (.rejected "model Provider Profile rejects required context data")
  let manifest ← orRaise (request.manifests reference.capabilityManifestDigest)
    (.rejected "model Capability Manifest is missing or invalid")
  raiseIf (manifest.manifestDigest ≠ reference.capabilityManifestDigest)
    (.rejected "model Capability Manifest is missing or invalid")
  raiseIf (manifest.providerProfileDigest ≠ profile.profileDigest ∨
      manifest.providerModelId ≠ reference.providerModelId)
    (.rejected "model reference does not match its capability manifest")
  let missing := requiredCapabilities.filter fun item => item ∉ manifest.probed
  let names := Table.orderBy id (missing.dedup.map ModelCapability.value)
  raiseIf (missing ≠ [])
    (.rejected ("model lacks probed capabilities: " ++ String.intercalate ", " names))
  return (profile, manifest)

/-- `_admit_route`. -/
def admitRoute (route : ModelRoute) : Except ModelRoutingError FlowRoleModelBinding := do
  let policy ← orRaise (request.fallbackPolicies route.fallbackPolicyDigest)
    (.rejected "route Fallback Policy is missing or invalid")
  raiseIf (policy.policyDigest ≠ route.fallbackPolicyDigest)
    (.rejected "route Fallback Policy is missing or invalid")
  let (primaryProfile, primaryManifest) ← request.admitModelReference route.primaryModel
    route.requiredCapabilities route.requiredContextDataClasses
  raiseIf (route.primaryModel ∈ policy.orderedModels)
    (.rejected "primary model cannot also be a fallback")
  raiseIf (route.budget.maxProviderAttempts < 1 + policy.maxFallbackAttempts)
    (.rejected "route attempt budget cannot cover its Fallback Policy")
  let _ ← policy.orderedModels.mapM fun fallback => do
    let (fallbackProfile, _) ← request.admitModelReference fallback route.requiredCapabilities
      route.requiredContextDataClasses
    raiseIf (¬policy.allowCrossProvider ∧ fallbackProfile.providerId ≠ primaryProfile.providerId)
      (.rejected "Fallback Policy forbids cross-provider routing")
  return {
    engine := route.engine
    agentRole := route.agentRole
    routeDigest := route.routeDigest
    selectedModel := route.primaryModel
    fallbackPolicyDigest := policy.policyDigest
    providerLifecycleDigest := primaryProfile.lifecycleDigest
    providerDataPolicyId := primaryProfile.dataPolicyId
    protocolAdapterDigest := primaryManifest.protocolAdapterDigest
    budget := route.budget }

/-- `build_flow_model_snapshot`. -/
def buildFlowModelSnapshot : Except ModelRoutingError FlowModelSnapshot := do
  raiseIf (request.routes = []) (.rejected "Flow requires at least one model route")
  let orderedRoutes := Table.orderBy (fun item => roleKey item.engine item.agentRole) request.routes
  raiseIf (¬(orderedRoutes.map fun item => (item.engine, item.agentRole)).Nodup)
    (.rejected "Flow model routes must be unique per Engine and role")
  let bindings ← orderedRoutes.mapM request.admitRoute
  if h : bindings ≠ [] ∧
      bindings = Table.orderBy (fun item => roleKey item.engine item.agentRole) bindings ∧
      (bindings.map fun item => (item.engine, item.agentRole)).Nodup then
    return {
      flowId := request.flowId
      routingPolicyDigest := request.routingPolicyDigest
      promptContractDigest := request.promptContractDigest
      toolSchemaDigest := request.toolSchemaDigest
      bindings := bindings
      createdAt := request.createdAt
      bindings_ne_nil := h.1
      bindings_sorted := h.2.1
      bindings_nodup := h.2.2 }
  else throw .valueError

/-! ## What is admitted -/

/-- A model that is looked up by its digests and may serve what is required. -/
structure Admits (reference : ModelReference) (requiredCapabilities : List ModelCapability)
    (requiredDataClasses : List ContextDataClass) (profile : ProviderProfile)
    (manifest : CapabilityManifest) : Prop where
  profile_eq : request.profiles reference.providerProfileDigest = some profile
  profile_digest : profile.profileDigest = reference.providerProfileDigest
  role_admitted : profile.state = .roleAdmitted
  data_classes : requiredDataClasses ⊆ profile.allowedContextDataClasses
  manifest_eq : request.manifests reference.capabilityManifestDigest = some manifest
  manifest_digest : manifest.manifestDigest = reference.capabilityManifestDigest
  manifest_profile : manifest.providerProfileDigest = profile.profileDigest
  manifest_model : manifest.providerModelId = reference.providerModelId
  capabilities : requiredCapabilities ⊆ manifest.probed

variable {request}

theorem admitModelReference_eq_ok {reference : ModelReference}
    {capabilities : List ModelCapability} {classes : List ContextDataClass}
    {profile : ProviderProfile} {manifest : CapabilityManifest} :
    request.admitModelReference reference capabilities classes = .ok (profile, manifest) ↔
      request.Admits reference capabilities classes profile manifest := by
  simp only [admitModelReference, bind_eq_ok, orRaise_eq_ok, raiseIf_eq_ok, pure_eq_ok,
    Prod.mk.injEq, not_not, not_or, List.filter_eq_nil_iff, decide_eq_true_eq]
  constructor
  · rintro ⟨p, hp, -, hdigest, -, hstate, -, hclasses, m, hm, -, hdigest', -, ⟨hprofile, hmodel⟩,
      -, hcapabilities, rfl, rfl⟩
    exact ⟨hp, hdigest, hstate, hclasses, hm, hdigest', hprofile, hmodel, hcapabilities⟩
  · intro h
    exact ⟨profile, h.profile_eq, (), h.profile_digest, (), h.role_admitted, (), h.data_classes,
      manifest, h.manifest_eq, (), h.manifest_digest, (), ⟨h.manifest_profile, h.manifest_model⟩,
      (), h.capabilities, rfl, rfl⟩

variable (request) in
/-- A route all of whose models are admitted, with the policy it names. -/
structure AdmitsRoute (route : ModelRoute) (policy : FallbackPolicy) : Prop where
  policy_eq : request.fallbackPolicies route.fallbackPolicyDigest = some policy
  policy_digest : policy.policyDigest = route.fallbackPolicyDigest
  admitted : ∀ model ∈ route.primaryModel :: policy.orderedModels, ∃ profile manifest,
    request.Admits model route.requiredCapabilities route.requiredContextDataClasses profile
      manifest
  one_provider : policy.allowCrossProvider = false → ∀ model ∈ policy.orderedModels,
    ∀ profile ∈ request.profiles model.providerProfileDigest,
      ∀ primary ∈ request.profiles route.primaryModel.providerProfileDigest,
        profile.providerId = primary.providerId
  distinct : (route.primaryModel :: policy.orderedModels).Nodup
  attempts : 1 + policy.maxFallbackAttempts ≤ route.budget.maxProviderAttempts

/-- A route that is bound is admitted. -/
theorem admitsRoute_of_admitRoute {route : ModelRoute} {binding : FlowRoleModelBinding}
    (h : request.admitRoute route = .ok binding) :
    route.Serves binding ∧ ∃ policy, request.AdmitsRoute route policy := by
  simp only [admitRoute, bind_eq_ok, orRaise_eq_ok, raiseIf_eq_ok, pure_eq_ok, Prod.exists,
    admitModelReference_eq_ok, not_not, Nat.not_lt] at h
  obtain ⟨policy, hpolicy, -, hdigest, primary, manifest, hprimary, -, hfallback, -, hattempts,
    results, hresults, rfl⟩ := h
  have hmodels := exists_ok_of_mapM hresults
  simp only [bind_eq_ok, Prod.exists, admitModelReference_eq_ok, raiseIf_eq_ok] at hmodels
  refine ⟨⟨rfl, rfl, rfl, rfl, hdigest, rfl⟩, policy, hpolicy, hdigest, ?_, ?_, ?_, hattempts⟩
  · refine List.forall_mem_cons.2 ⟨⟨primary, manifest, hprimary⟩, fun model hmodel => ?_⟩
    obtain ⟨-, profile, manifest, hadmits, -⟩ := hmodels model hmodel
    exact ⟨profile, manifest, hadmits⟩
  · intro hcross model hmodel profile hprofile primary' hprimary'
    obtain ⟨-, profile', manifest', hadmits, hsame⟩ := hmodels model hmodel
    rw [hadmits.profile_eq, Option.mem_some_iff] at hprofile
    rw [hprimary.profile_eq, Option.mem_some_iff] at hprimary'
    rw [hcross] at hsame
    subst hprofile hprimary'
    exact Decidable.byContradiction fun hne => hsame ⟨Bool.false_ne_true, hne⟩
  · exact List.nodup_cons.2 ⟨hfallback, policy.models_nodup⟩

/-- What is sealed binds the routes one by one. -/
theorem bindings_of_build {snapshot : FlowModelSnapshot}
    (h : request.buildFlowModelSnapshot = .ok snapshot) :
    (request.routes.map fun item => (item.engine, item.agentRole)).Nodup ∧
      (Table.orderBy (fun item => roleKey item.engine item.agentRole) request.routes).mapM
        request.admitRoute = .ok snapshot.bindings := by
  simp only [buildFlowModelSnapshot, bind_eq_ok, raiseIf_eq_ok, not_not] at h
  obtain ⟨-, -, -, hnodup, bindings, hbindings, h⟩ := h
  split_ifs at h
  rw [pure_eq_ok] at h
  subst h
  exact ⟨(((List.perm_insertionSort _ _).map _).nodup_iff).1 hnodup, hbindings⟩

end FlowModelRequest

/-- A snapshot that is built binds each engine and role to one route, all of whose models are
admitted, with an attempt for the primary model and for each fallback of the policy. -/
theorem flow_routes_admitted {request : FlowModelRequest} {snapshot : FlowModelSnapshot}
    (h : request.buildFlowModelSnapshot = .ok snapshot) :
    (∀ route ∈ request.routes, ∃ binding ∈ snapshot.bindings, route.Serves binding) ∧
      ∀ binding ∈ snapshot.bindings,
        (request.routes.map fun route => (route.engine, route.agentRole)).count
          (binding.engine, binding.agentRole) = 1 ∧
        ∃ route ∈ request.routes, route.Serves binding ∧
          ∃ policy, request.AdmitsRoute route policy := by
  obtain ⟨hnodup, hbindings⟩ := FlowModelRequest.bindings_of_build h
  constructor
  · intro route hroute
    obtain ⟨binding, hbinding⟩ := exists_ok_of_mapM hbindings route ((Table.mem_orderBy _).2 hroute)
    exact ⟨binding, (mem_mapM hbindings).2 ⟨route, (Table.mem_orderBy _).2 hroute, hbinding⟩,
      (FlowModelRequest.admitsRoute_of_admitRoute hbinding).1⟩
  · intro binding hmem
    obtain ⟨route, hroute, hbinding⟩ := (mem_mapM hbindings).1 hmem
    obtain ⟨hserves, hadmits⟩ := FlowModelRequest.admitsRoute_of_admitRoute hbinding
    rw [Table.mem_orderBy] at hroute
    refine ⟨?_, route, hroute, hserves, hadmits⟩
    rw [hserves.engine, hserves.agent_role]
    exact List.count_eq_one_of_mem hnodup (List.mem_map_of_mem hroute)

end

/-! ## A route with two fallbacks -/

section

/-- Digests that tell the records below apart. -/
@[reducible] def sampleRoutingDigests : ModelRoutingDigests where
  configuration := ⟨ProviderConfiguration.providerId⟩
  lifecycle := ⟨ProviderLifecycle.profileDigest⟩
  manifest := ⟨CapabilityManifest.providerModelId⟩
  policy := ⟨fun _ => "policy"⟩
  route := ⟨fun _ => "route"⟩

attribute [local instance] sampleRoutingDigests

def sampleProvider : ProviderProfile where
  providerId := "cuc"
  revision := 1
  displayName := "CUC"
  protocol := .openaiChatCompletions
  protocolAdapterId := "openai-chat-v1"
  endpointReferenceId := "endpoint"
  credentialReferenceId := "credential"
  dataPolicyId := "data-policy"
  allowedContextDataClasses := [.sourceCode]
  classes_ne_nil := by decide
  classes_sorted := rfl
  state := .roleAdmitted
  lifecycleSequence := 6
  lifecycleEvidenceDigest := some "evidence"
  sequence_pos := by decide
  initial := by decide
  evidenced := by decide

def sampleManifest (model : String) : CapabilityManifest where
  providerProfileDigest := "cuc"
  providerModelId := model
  protocolAdapterDigest := "adapter"
  assessments := [⟨.chat, .probed, some "probe", by decide⟩]
  maxContextTokens := none
  maxOutputTokens := none
  observedAt := some 0
  assessments_ne_nil := by simp
  assessments_sorted := rfl
  capabilities_nodup := by simp
  observed := by simp

def sampleReference (model : String) : ModelReference where
  providerProfileDigest := "cuc"
  capabilityManifestDigest := model
  providerModelId := model

def samplePolicy : FallbackPolicy where
  orderedModels := [sampleReference "second", sampleReference "third"]
  triggers := [.timeout]
  maxFallbackAttempts := 1
  allowCrossProvider := false
  requireOperatorApproval := false
  models_length := by decide
  triggers_sorted := rfl
  models_nodup := by decide
  attempts_le := by decide
  triggers_configured := by decide
  attempts_configured := by decide

def sampleModelRoute : ModelRoute where
  engine := .sourceHunt
  agentRole := .source
  primaryModel := sampleReference "first"
  fallbackPolicyDigest := "policy"
  requiredCapabilities := [.chat]
  requiredContextDataClasses := [.sourceCode]
  budget :=
    { maxTotalTokens := 20000
      maxOutputTokensPerTurn := 4096
      maxProviderAttempts := 2
      timeoutPerAttempt := 60000000
      maxCostMicrounits := none
      output_pos := by decide
      output_fits_total := by decide
      attempts_bounds := by decide
      timeout_bounds := by decide }
  capabilities_ne_nil := by decide
  capabilities_sorted := rfl
  classes_ne_nil := by decide
  classes_sorted := rfl

def sampleModelRequest : FlowModelRequest where
  flowId := "flow"
  routes := [sampleModelRoute]
  profiles digest := if digest = "cuc" then some sampleProvider else none
  manifests digest := if digest ∈ ["first", "second", "third"] then some (sampleManifest digest)
    else none
  fallbackPolicies digest := if digest = "policy" then some samplePolicy else none
  routingPolicyDigest := "routing"
  promptContractDigest := "prompt"
  toolSchemaDigest := "tools"
  createdAt := 0

theorem sampleModelRequest_built :
    ∃ snapshot, sampleModelRequest.buildFlowModelSnapshot = .ok snapshot := by
  obtain ⟨snapshot, h, -⟩ := exists_ok_of_map (f := FlowModelSnapshot.flowId) (b := "flow")
    (x := sampleModelRequest.buildFlowModelSnapshot) (by decide)
  exact ⟨snapshot, h⟩

/-- The models of the route with two fallbacks are admitted. -/
theorem sampleModelRoute_admitted : ∃ snapshot,
    sampleModelRequest.buildFlowModelSnapshot = .ok snapshot ∧ ∃ binding ∈ snapshot.bindings,
      sampleModelRoute.Serves binding := by
  obtain ⟨snapshot, h⟩ := sampleModelRequest_built
  exact ⟨snapshot, h, (flow_routes_admitted h).1 sampleModelRoute (List.mem_singleton_self _)⟩

/-- The attempts of the route are fewer than its models. -/
theorem attempts_below_models : ¬∀ (request : FlowModelRequest) (snapshot : FlowModelSnapshot),
    request.buildFlowModelSnapshot = .ok snapshot → ∀ route ∈ request.routes,
      ∀ policy ∈ request.fallbackPolicies route.fallbackPolicyDigest,
        (route.primaryModel :: policy.orderedModels).length ≤ route.budget.maxProviderAttempts := by
  intro hall
  obtain ⟨snapshot, h⟩ := sampleModelRequest_built
  have hattempts := hall sampleModelRequest snapshot h sampleModelRoute (List.mem_singleton_self _)
    samplePolicy rfl
  revert hattempts
  decide

end

end VulnLoom

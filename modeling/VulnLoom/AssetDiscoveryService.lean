import VulnLoom.AssetDiscoveryStore
import VulnLoom.Sessions

/-!
# The asset discovery service

`decide` is the cascade that admits an observed asset. A call of `execute` or `recover` reads the
batch of each query of its plan, or asks the adapter and saves what it answers, and then decides
and publishes (`discovery`). The adapter and the monotonic clock answer what they like, so a
call carries their answers. The adapter keeps the queries it was sent.
-/

namespace VulnLoom

open Connections DomainNames

/-- A scope with the reference of its authority. -/
structure AuthorityScope extends Scope where
  authorityReference : String

variable [CanonicalDigest String]
  [CanonicalDigest AssetDiscoveryAuthorization] [CanonicalDigest AssetDiscoveryQuery]
  [CanonicalDigest AssetDiscoveryPlan] [CanonicalDigest DiscoveredAsset]
  [CanonicalDigest AssetAttributionEvidence] [CanonicalDigest AssetAdmissionDecision]
  [CanonicalDigest AuthorizedAsset] [CanonicalDigest AssetDiscoveryOutcome]

/-! ## Bindings -/

/-- `_scope`. -/
def checkDiscoveryScope (scope : AuthorityScope) (now : Time) : Except AssetDiscoveryError Unit :=
  raiseIf (scope.state ≠ .approved ∨ ¬(scope.validFrom ≤ now ∧ now < scope.validUntil))
    (.rejected "asset discovery requires a current approved Scope")

/-- `_authorization`. -/
def checkAuthorization (authorization : AssetDiscoveryAuthorization) (scope : AuthorityScope)
    (now : Time) : Except AssetDiscoveryError Unit := do
  checkDiscoveryScope scope now
  raiseIf (authorization.scopeId ≠ scope.scopeId ∨ authorization.scopeVersion ≠ scope.version ∨
      authorization.authorityReferenceDigest ≠ canonicalDigest scope.authorityReference ∨
      authorization.validFrom ≠ scope.validFrom ∨ authorization.validUntil ≠ scope.validUntil ∨
      ¬(authorization.validFrom ≤ now ∧ now < authorization.validUntil))
    (.rejected "asset discovery authorization drifted from Scope")

/-- `supported_kinds`. -/
def AssetDiscoverySource.supportedKinds :
    AssetDiscoverySource → List AssetDiscoverySelectorKind
  | .fofa | .quake => [.domain, .icpRegistration, .exactHost]
  | .shodan | .passiveDns | .certificateTransparency => [.domain, .exactHost]
  | .icpRegistry => [.domain, .icpRegistration]
  | .operatorImport => [.domain, .exactHost]

/-- What a selector must be derived from. -/
def selectorAccepted (authorization : AssetDiscoveryAuthorization) (query : AssetDiscoveryQuery) :
    Bool :=
  match query.selectorKind with
  | .exactHost => query.selector ∈ authorization.exactHosts
  | .domain => query.selector ∈ authorization.rootDomains
  | .icpRegistration => canonicalDigest query.selector ∈ authorization.icpRegistrationDigests

/-- `_query`. -/
def checkQuery (authorization : AssetDiscoveryAuthorization) (query : AssetDiscoveryQuery) :
    Except AssetDiscoveryError Unit := do
  raiseIf (query.source ∉ authorization.allowedSources)
    (.rejected "asset discovery source is not authorized")
  raiseIf (query.selectorKind ∉ query.source.supportedKinds)
    (.rejected "asset discovery selector is unsupported by source")
  raiseIf (selectorAccepted authorization query = false)
    (.rejected "asset discovery selector is not authorization-derived")

/-- `_binding`. -/
def checkBinding (plan : AssetDiscoveryPlan) (scope : AuthorityScope) (now : Time) :
    Except AssetDiscoveryError Unit := do
  raiseIf (¬(plan.createdAt ≤ now ∧ now < plan.deadline))
    (.rejected "asset discovery plan is not active")
  checkAuthorization plan.authorization scope now
  plan.queries.forM (checkQuery plan.authorization)

/-- What `_batch` refuses of an observation. -/
def observationInvalid (plan : AssetDiscoveryPlan) (query : AssetDiscoveryQuery) (now : Time)
    (observation : AssetDiscoveryObservation) : Bool :=
  observation.asset.planId ≠ plan.planId ∨ observation.asset.queryId ≠ query.queryId ∨
    observation.asset.source ≠ query.source ∨ now < observation.asset.observedAt ∨
    plan.limits.maxEvidencePerAsset < observation.attribution.length ∨
    observation.attribution.any fun item => now < item.observedAt

/-- `_batch`. -/
def checkBatch (plan : AssetDiscoveryPlan) (query : AssetDiscoveryQuery)
    (batch : AssetDiscoveryBatch) (now : Time) : Except AssetDiscoveryError Unit := do
  raiseIf (batch.queryId ≠ query.queryId ∨ batch.rawResponseRetained = true ∨
      batch.credentialMaterialAbsent = false ∨ batch.adapterSessionClosed = false)
    (.rejected "asset discovery adapter safety or query binding is invalid")
  raiseIf (query.resultLimit < batch.observations.length)
    (.rejected "asset discovery query result budget exceeded")
  raiseIf (batch.observations.any (observationInvalid plan query now))
    (.rejected "asset discovery observation provenance is invalid")

/-! ## Decisions -/

section Decide

variable (authorization : AssetDiscoveryAuthorization) (observation : AssetDiscoveryObservation)

/-- `supported.get(kind)` : of several, the dictionary keeps the last. -/
def supported (kind : AssetAttributionKind) : Option AssetAttributionEvidence :=
  (observation.attribution.filter fun item => item.verdict = .supported ∧ item.kind = kind).getLast?

/-- `locator == domain or locator.endswith(f".\x7bdomain\x7d")`. -/
def isUnder (locator domain : String) : Bool :=
  locator = domain ∨ '.' :: domain.toList <:+ locator.toList

/-- The reason that `_decide` gives, in the order of its tests. -/
def decisionReason : String :=
  let asset := observation.asset
  if asset.locatorKind = .hostname ∧
      authorization.excludedDomainSuffixes.any (isUnder asset.locator) then
    "explicit_exclusion"
  else if (supported observation .crossLegalEntity).isSome ∨
      (supported observation .explicitExclusion).isSome then
    "excluded_ownership"
  else if asset.locatorKind = .hostname ∧ asset.locator ∈ authorization.exactHosts ∧
      asset.endpoint ∈ authorization.exactEndpoints then
    "exact_scope_match"
  else if authorization.mode = .exactAssignment then
    "not_exactly_assigned"
  else if authorization.mode = .supplyChainWithApproval then
    "supply_chain_review"
  else if asset.locatorKind = .hostname ∧
      (supported observation .authorizedRootDomain).any fun evidence =>
        (authorization.rootDomains.filter (isUnder asset.locator)).any fun root =>
          evidence.subjectDigest = canonicalDigest root then
    "authorized_domain_derivation"
  else if (supported observation .icpRegistrationMatch).any fun evidence =>
      evidence.subjectDigest ∈ authorization.icpRegistrationDigests then
    "authorized_icp_derivation"
  else if (supported observation .operatorInventoryMatch).any fun evidence =>
      evidence.subjectDigest = canonicalDigest asset.locator then
    "operator_inventory_match"
  else
    "ownership_review_required"

/-- The verdict that `_decision` gives for a reason. -/
def verdictOfReason (reason : String) : AssetAdmissionVerdict :=
  if reason ∈ ["explicit_exclusion", "excluded_ownership", "not_exactly_assigned"] then
    .rejected
  else if reason ∈ ["supply_chain_review", "ownership_review_required"] then
    .approvalRequired
  else
    .admitted

/-- `_decide` with `_decision`. -/
def decideAsset (now : Time) : AssetAdmissionDecision where
  authorizationId := authorization.authorizationId
  assetId := observation.asset.assetId
  verdict := verdictOfReason (decisionReason authorization observation)
  reasonCode := decisionReason authorization observation
  attributionIds :=
    sortedSet (observation.attribution.map AssetAttributionEvidence.attributionId)
  decidedAt := now

end Decide

/-- The assets of the admitted decisions. -/
def authorizedAssets (authorization : AssetDiscoveryAuthorization) (now : Time)
    (observations : List AssetDiscoveryObservation) : List AuthorizedAsset :=
  (observations.filter fun observation =>
      (decideAsset authorization observation now).verdict = .admitted).map fun observation =>
    { authorizationId := authorization.authorizationId
      decisionId := (decideAsset authorization observation now).decisionId
      asset := observation.asset
      admittedAt := now }

/-- What `_run` makes of the observations, before its last look at the clock. -/
def conclude (plan : AssetDiscoveryPlan) (scope : AuthorityScope) (now : Time) (attempt : ℕ)
    (observations : List AssetDiscoveryObservation) :
    Except AssetDiscoveryError AssetDiscoveryOutcome := do
  raiseIf (¬(observations.map fun observation => observation.asset.assetId).Nodup)
    (.rejected "asset discovery returned duplicate assets")
  checkBinding plan scope now
  AssetDiscoveryOutcome.create plan.planId observations.length
    (observations.map fun observation => decideAsset plan.authorization observation now)
    ((authorizedAssets plan.authorization now observations).map
      AuthorizedAsset.authorizedAssetId)
    attempt now .validation

/-! ## Calls -/

/-- The arguments of a call, what the adapter answers during it, and how many seconds each look at
the clock finds to have passed. -/
structure DiscoveryCall where
  recovering : Bool
  plan : AssetDiscoveryPlan
  scope : AuthorityScope
  now : Time
  discover : AssetDiscoveryQuery → Except String AssetDiscoveryBatch
  elapsed : ℕ → ℚ

/-- The ledger, and the plans and queries that the adapter was asked. -/
structure DiscoveryWorld where
  store : AssetDiscoveryStore
  sent : List (Digest × Digest)

def DiscoveryWorld.empty : DiscoveryWorld :=
  ⟨.empty, []⟩

/-- What `_run` has in hand. -/
structure DiscoveryRunning where
  call : DiscoveryCall
  attempt : ℕ
  looks : ℕ
  observations : List AssetDiscoveryObservation

/-- Where a call is : at its entry; before a query; about to ask the adapter; about to save what
it answered; with the batch of a query. -/
inductive DiscoveryFrame
  | entry (call : DiscoveryCall)
  | query (running : DiscoveryRunning) (rest : List AssetDiscoveryQuery)
  | ask (running : DiscoveryRunning) (query : AssetDiscoveryQuery)
    (rest : List AssetDiscoveryQuery)
  | save (running : DiscoveryRunning) (query : AssetDiscoveryQuery) (batch : AssetDiscoveryBatch)
    (rest : List AssetDiscoveryQuery)
  | loaded (running : DiscoveryRunning) (query : AssetDiscoveryQuery)
    (batch : AssetDiscoveryBatch) (rest : List AssetDiscoveryQuery)

/-- What is left of a call, or what it returned or raised. -/
abbrev DiscoveryNext :=
  DiscoveryFrame ⊕ Except AssetDiscoveryError AssetDiscoveryOutcome

namespace DiscoveryRunning

variable (running : DiscoveryRunning)

/-- `_Deadline.check`. -/
def check : Except AssetDiscoveryError DiscoveryRunning := do
  raiseIf (running.call.plan.limits.timeoutSeconds ≤ running.call.elapsed running.looks)
    (.timedOut "asset discovery timed out")
  return { running with looks := running.looks + 1 }

/-- The observations of one more batch. -/
def extend (query : AssetDiscoveryQuery) (batch : AssetDiscoveryBatch) :
    Except AssetDiscoveryError DiscoveryRunning := do
  checkBatch running.call.plan query batch running.call.now
  raiseIf (running.call.plan.limits.maxRecords <
      (running.observations ++ batch.observations).length)
    (.rejected "asset discovery record budget exceeded")
  return { running with observations := running.observations ++ batch.observations }

end DiscoveryRunning

namespace DiscoveryWorld

variable (world : DiscoveryWorld)

/-- A step that raises ends the call. -/
def raising {β : Type} (x : Except AssetDiscoveryError β)
    (rest : β → DiscoveryWorld × DiscoveryNext) : DiscoveryWorld × DiscoveryNext :=
  match x with
  | .ok b => rest b
  | .error e => (world, .inr (.error e))

/-- The binding, and the claim or the recovery. -/
def opens (call : DiscoveryCall) :
    Except AssetDiscoveryError (AssetDiscoveryStore × AssetDiscoveryClaim) := do
  checkBinding call.plan call.scope call.now
  if call.recovering then world.store.recover call.plan call.now
  else world.store.claim call.plan call.now

/-- A call that has claimed its plan, or found it completed. -/
def claimed (call : DiscoveryCall) (claim : AssetDiscoveryClaim) : DiscoveryNext :=
  match claim.created, claim.outcome with
  | true, _ => .inl (.query ⟨call, claim.attempt, 0, []⟩ call.plan.queries)
  | false, some outcome => .inr (.ok outcome)
  | false, none => .inr (.error .validation)

/-- After the last query. -/
def finishes (running : DiscoveryRunning) :
    Except AssetDiscoveryError (AssetDiscoveryStore × AssetDiscoveryOutcome) := do
  let call := running.call
  let outcome ← conclude call.plan call.scope call.now running.attempt running.observations
  let _ ← running.check
  let store ← world.store.complete call.plan outcome
    (authorizedAssets call.plan.authorization call.now running.observations)
  return (store, outcome)

/-- One step of a call. -/
def next : DiscoveryFrame → DiscoveryWorld × DiscoveryNext
  | .entry call =>
    world.raising (world.opens call) fun opened =>
      (⟨opened.1, world.sent⟩, claimed call opened.2)
  | .query running [] =>
    world.raising (world.finishes running) fun done => (⟨done.1, world.sent⟩, .inr (.ok done.2))
  | .query running (query :: rest) =>
    world.raising running.check fun running =>
      match world.store.batch running.call.plan.planId query.queryId with
      | none => (world, .inl (.ask running query rest))
      | some batch => (world, .inl (.loaded running query batch rest))
  | .ask running query rest =>
    let asked : DiscoveryWorld :=
      ⟨world.store, world.sent ++ [(running.call.plan.planId, query.queryId)]⟩
    asked.raising (do
      let batch ← (running.call.discover query).mapError .adapter
      let running ← running.check
      checkBatch running.call.plan query batch running.call.now
      return (running, batch)) fun (running, batch) =>
        (asked, .inl (.save running query batch rest))
  | .save running query batch rest =>
    world.raising (world.store.saveBatch running.call.plan batch) fun store =>
      (⟨store, world.sent⟩, .inl (.loaded running query batch rest))
  | .loaded running query batch rest =>
    world.raising (running.extend query batch) fun running => (world, .inl (.query running rest))

end DiscoveryWorld

/-- The service. -/
def discovery : Program DiscoveryWorld DiscoveryCall DiscoveryFrame
    (Except AssetDiscoveryError AssetDiscoveryOutcome) where
  begins := .entry
  next := fun world frame => world.next frame

end VulnLoom

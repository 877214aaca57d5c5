import VulnLoom.DomainNames
import VulnLoom.Scope
import VulnLoom.Table

/-!
# Asset discovery contracts

What a passive discovery is authorised to find, the queries of a plan, and what an adapter
observed. A record whose validator raises cannot be built, so the bounds are fields. The
identifier of a record is its digest. `locator` and the selectors are the normalised texts; the
text of an IP locator is not looked into.
-/

namespace VulnLoom

open DomainNames

inductive AssetDiscoverySource
  | fofa
  | quake
  | shodan
  | passiveDns
  | certificateTransparency
  | icpRegistry
  | operatorImport
  deriving DecidableEq

def AssetDiscoverySource.value : AssetDiscoverySource → String
  | .fofa => "fofa"
  | .quake => "quake"
  | .shodan => "shodan"
  | .passiveDns => "passive_dns"
  | .certificateTransparency => "certificate_transparency"
  | .icpRegistry => "icp_registry"
  | .operatorImport => "operator_import"

inductive AssetDiscoverySelectorKind
  | domain
  | icpRegistration
  | exactHost
  deriving DecidableEq

inductive AssetAuthorizationMode
  | exactAssignment
  | entityBound
  | platformCategory
  | supplyChainWithApproval
  deriving DecidableEq

inductive AssetLocatorKind
  | hostname
  | ipAddress
  deriving DecidableEq

inductive AssetAttributionKind
  | authorizedRootDomain
  | icpRegistrationMatch
  | operatorInventoryMatch
  | certificateNameMatch
  | officialLink
  | productFingerprint
  | crossLegalEntity
  | explicitExclusion
  deriving DecidableEq

inductive AttributionVerdict
  | supported
  | refuted
  | inconclusive
  deriving DecidableEq

inductive AssetAdmissionVerdict
  | admitted
  | approvalRequired
  | rejected
  deriving DecidableEq

inductive AssetDiscoveryState
  | started
  | completed
  deriving DecidableEq

/-- `Literal["http", "https"]`. -/
inductive AssetScheme
  | http
  | https
  deriving DecidableEq

def AssetScheme.value : AssetScheme → String
  | .http => "http"
  | .https => "https"

/-! ## Authorisations -/

/-- `f"\x7bscheme\x7d://\x7bhost\x7d:\x7bport\x7d"`. -/
def endpointText (scheme : AssetScheme) (host : String) (port : ℕ) : String :=
  scheme.value ++ "://" ++ host ++ ":" ++ toString port

@[ext]
structure AssetDiscoveryAuthorization where
  scopeId : UUID
  scopeVersion : ℕ
  authorityReferenceDigest : Digest
  mode : AssetAuthorizationMode
  exactHosts : List String
  exactEndpoints : List String
  rootDomains : List String
  icpRegistrationDigests : List Digest
  excludedDomainSuffixes : List String
  allowedSources : List AssetDiscoverySource
  validFrom : Time
  validUntil : Time
  createdAt : Time
  hostnames : ∀ name ∈ exactHosts ++ rootDomains ++ excludedDomainSuffixes, isHostname name
  window : validFrom < validUntil
  created : validFrom ≤ createdAt ∧ createdAt < validUntil
  selectors : exactHosts ≠ [] ∨ rootDomains ≠ [] ∨ icpRegistrationDigests ≠ []
  exactHosts_sorted : exactHosts.Pairwise (· < ·)
  exactEndpoints_sorted : exactEndpoints.Pairwise (· < ·)
  exactEndpoints_bound : ∀ endpoint ∈ exactEndpoints, ∃ scheme, ∃ host ∈ exactHosts,
    ∃ port, 1 ≤ port ∧ port < 100000 ∧ endpoint = endpointText scheme host port
  rootDomains_sorted : rootDomains.Pairwise (· < ·)
  icpRegistrationDigests_sorted : icpRegistrationDigests.Pairwise (· < ·)
  excludedDomainSuffixes_sorted : excludedDomainSuffixes.Pairwise (· < ·)
  allowedSources_sorted : allowedSources.Pairwise fun a b => a.value < b.value
  allowedSources_length : 1 ≤ allowedSources.length ∧ allowedSources.length ≤ 8

instance : DecidableEq AssetDiscoveryAuthorization :=
  fun _ _ => decidable_of_iff _ AssetDiscoveryAuthorization.ext_iff.symm

def AssetDiscoveryAuthorization.authorizationId [CanonicalDigest AssetDiscoveryAuthorization]
    (authorization : AssetDiscoveryAuthorization) : Digest :=
  canonicalDigest authorization

/-! ## Plans -/

@[ext]
structure AssetDiscoveryQuery where
  source : AssetDiscoverySource
  selectorKind : AssetDiscoverySelectorKind
  selector : String
  resultLimit : ℕ
  selector_hostname : selectorKind ≠ .icpRegistration → isHostname selector
  resultLimit_bounds : 1 ≤ resultLimit ∧ resultLimit ≤ 1000

instance : DecidableEq AssetDiscoveryQuery :=
  fun _ _ => decidable_of_iff _ AssetDiscoveryQuery.ext_iff.symm

def AssetDiscoveryQuery.queryId [CanonicalDigest AssetDiscoveryQuery]
    (query : AssetDiscoveryQuery) : Digest :=
  canonicalDigest query

@[ext]
structure AssetDiscoveryLimits where
  maxQueries : ℕ
  maxRecords : ℕ
  maxEvidencePerAsset : ℕ
  timeoutSeconds : ℚ
  maxAttempts : ℕ
  maxQueries_bounds : 1 ≤ maxQueries ∧ maxQueries ≤ 64
  maxRecords_bounds : 1 ≤ maxRecords ∧ maxRecords ≤ 5000
  maxEvidencePerAsset_bounds : 1 ≤ maxEvidencePerAsset ∧ maxEvidencePerAsset ≤ 32
  timeoutSeconds_bounds : 0 < timeoutSeconds ∧ timeoutSeconds ≤ 60
  maxAttempts_bounds : 1 ≤ maxAttempts ∧ maxAttempts ≤ 3

instance : DecidableEq AssetDiscoveryLimits :=
  fun _ _ => decidable_of_iff _ AssetDiscoveryLimits.ext_iff.symm

@[ext]
structure AssetDiscoveryPlan [CanonicalDigest AssetDiscoveryQuery] where
  authorization : AssetDiscoveryAuthorization
  queries : List AssetDiscoveryQuery
  limits : AssetDiscoveryLimits
  createdAt : Time
  deadline : Time
  idempotencyKey : String
  window : createdAt < deadline ∧ deadline ≤ authorization.validUntil
  queries_length : 1 ≤ queries.length ∧ queries.length ≤ limits.maxQueries
  queries_records : (queries.map AssetDiscoveryQuery.resultLimit).sum ≤ limits.maxRecords
  queries_sorted : (queries.map AssetDiscoveryQuery.queryId).Pairwise (· < ·)
  sources_allowed : ∀ query ∈ queries, query.source ∈ authorization.allowedSources

instance [CanonicalDigest AssetDiscoveryQuery] : DecidableEq AssetDiscoveryPlan :=
  fun _ _ => decidable_of_iff _ AssetDiscoveryPlan.ext_iff.symm

def AssetDiscoveryPlan.planId [CanonicalDigest AssetDiscoveryQuery]
    [CanonicalDigest AssetDiscoveryPlan] (plan : AssetDiscoveryPlan) : Digest :=
  canonicalDigest plan

/-! ## Observations -/

structure DiscoveredAsset where
  planId : Digest
  queryId : Digest
  source : AssetDiscoverySource
  locatorKind : AssetLocatorKind
  locator : String
  port : ℕ
  scheme : AssetScheme
  observedAt : Time
  sourceRecordRef : String
  sourceEvidenceDigest : Digest
  locator_hostname : locatorKind = .hostname → isHostname locator
  port_bounds : 1 ≤ port ∧ port ≤ 65535
  deriving DecidableEq

def DiscoveredAsset.assetId [CanonicalDigest DiscoveredAsset] (asset : DiscoveredAsset) : Digest :=
  canonicalDigest asset

/-- The scheme, the locator and the port of an asset. -/
def DiscoveredAsset.endpoint (asset : DiscoveredAsset) : String :=
  endpointText asset.scheme asset.locator asset.port

structure AssetAttributionEvidence where
  assetId : Digest
  kind : AssetAttributionKind
  verdict : AttributionVerdict
  evidenceRef : Digest
  subjectDigest : Digest
  observedAt : Time
  deriving DecidableEq

def AssetAttributionEvidence.attributionId [CanonicalDigest AssetAttributionEvidence]
    (evidence : AssetAttributionEvidence) : Digest :=
  canonicalDigest evidence

structure AssetDiscoveryObservation [CanonicalDigest DiscoveredAsset]
    [CanonicalDigest AssetAttributionEvidence] where
  asset : DiscoveredAsset
  attribution : List AssetAttributionEvidence
  attribution_length : attribution.length ≤ 32
  attribution_sorted : (attribution.map AssetAttributionEvidence.attributionId).Pairwise (· < ·)
  attribution_kinds : (attribution.map AssetAttributionEvidence.kind).Nodup
  attribution_bound : ∀ evidence ∈ attribution, evidence.assetId = asset.assetId
  deriving DecidableEq

/-- The three flags are checked by the service, whatever the adapter built. -/
structure AssetDiscoveryBatch [CanonicalDigest DiscoveredAsset]
    [CanonicalDigest AssetAttributionEvidence] where
  queryId : Digest
  observations : List AssetDiscoveryObservation
  rawResponseRetained : Bool
  credentialMaterialAbsent : Bool
  adapterSessionClosed : Bool
  deriving DecidableEq

/-! ## Decisions -/

structure AssetAdmissionDecision where
  authorizationId : Digest
  assetId : Digest
  verdict : AssetAdmissionVerdict
  reasonCode : String
  attributionIds : List Digest
  decidedAt : Time

def AssetAdmissionDecision.decisionId [CanonicalDigest AssetAdmissionDecision]
    (decision : AssetAdmissionDecision) : Digest :=
  canonicalDigest decision

structure AuthorizedAsset where
  authorizationId : Digest
  decisionId : Digest
  asset : DiscoveredAsset
  admittedAt : Time
  deriving DecidableEq

def AuthorizedAsset.authorizedAssetId [CanonicalDigest AuthorizedAsset]
    (asset : AuthorizedAsset) : Digest :=
  canonicalDigest asset

structure AssetDiscoveryOutcome [CanonicalDigest AssetAdmissionDecision] where
  planId : Digest
  observationCount : ℕ
  decisions : List AssetAdmissionDecision
  authorizedAssetIds : List Digest
  attempt : ℕ
  completedAt : Time
  observationCount_le : observationCount ≤ 5000
  attempt_bounds : 1 ≤ attempt ∧ attempt ≤ 3
  decisions_sorted : (decisions.map AssetAdmissionDecision.decisionId).Pairwise (· < ·)
  observationCount_eq : observationCount = decisions.length
  assets_nodup : (decisions.map AssetAdmissionDecision.assetId).Nodup
  authorizedAssetIds_sorted : authorizedAssetIds.Pairwise (· < ·)

/-- `AssetDiscoveryOutcome.create` : it sorts the decisions and the identifiers. -/
def AssetDiscoveryOutcome.create {ε : Type} [CanonicalDigest AssetAdmissionDecision]
    (planId : Digest) (observationCount : ℕ) (decisions : List AssetAdmissionDecision)
    (authorizedAssetIds : List Digest) (attempt : ℕ) (completedAt : Time) (invalid : ε) :
    Except ε AssetDiscoveryOutcome :=
  let ordered := Table.orderBy AssetAdmissionDecision.decisionId decisions
  let ids := sortedSet authorizedAssetIds
  if h : observationCount ≤ 5000 ∧ (1 ≤ attempt ∧ attempt ≤ 3) ∧
      (ordered.map AssetAdmissionDecision.decisionId).Pairwise (· < ·) ∧
      observationCount = ordered.length ∧
      (ordered.map AssetAdmissionDecision.assetId).Nodup ∧ ids.Pairwise (· < ·) then
    .ok ⟨planId, observationCount, ordered, ids, attempt, completedAt, h.1, h.2.1, h.2.2.1,
      h.2.2.2.1, h.2.2.2.2.1, h.2.2.2.2.2⟩
  else
    .error invalid

end VulnLoom

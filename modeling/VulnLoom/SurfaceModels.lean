import VulnLoom.BlockedAddresses

/-!
# Attack surface records

The snapshots that recon takes, and the inventory that they are reduced to. An endpoint is named by
the digest of its requested URL, its final URL and its peer (`EndpointKey`). A tuple that has to be
`tuple(sorted(set(…)))` is strictly increasing.
-/

namespace VulnLoom

namespace Surface

/-- `set(l) == set(l')`. -/
def SameMembers {α : Type*} (l l' : List α) : Prop :=
  ∀ a, a ∈ l ↔ a ∈ l'

theorem sameMembers_iff {α : Type*} {l l' : List α} :
    SameMembers l l' ↔ (∀ a ∈ l, a ∈ l') ∧ ∀ a ∈ l', a ∈ l :=
  ⟨fun h => ⟨fun a => (h a).1, fun a => (h a).2⟩, fun h a => ⟨h.1 a, h.2 a⟩⟩

instance {α : Type*} [DecidableEq α] (l l' : List α) : Decidable (SameMembers l l') :=
  decidable_of_iff' _ sameMembers_iff

/-- A text that `ipaddress` writes as it is. -/
def NormalizedIp [PythonIpaddress] (value : String) : Prop :=
  (parseIp value).map strIp = some value

instance [PythonIpaddress] (value : String) : Decidable (NormalizedIp value) :=
  inferInstanceAs (Decidable (_ = _))

theorem timeout_bounds : (0 : ℚ) < 30 ∧ (30 : ℚ) ≤ 300 := by decide +kernel

/-! ## Snapshots -/

inductive ServiceTlsVersion
  | tls12
  | tls13
  deriving DecidableEq

def ServiceTlsVersion.value : ServiceTlsVersion → String
  | .tls12 => "TLSv1.2"
  | .tls13 => "TLSv1.3"

theorem ServiceTlsVersion.value_injective : Function.Injective ServiceTlsVersion.value := by
  intro a b h
  cases a <;> cases b <;> first | rfl | exact absurd h (by decide)

@[ext]
structure AttackSurfaceSnapshot where
  planId : Digest
  actionId : Digest
  targetId : UUID
  scopeId : UUID
  scopeVersion : ℕ
  requestedUrlDigest : Digest
  finalUrlDigest : Digest
  statusCode : ℕ
  peerIp : String
  redirectCount : ℕ
  evidenceRefs : List Digest
  policyRecordDigests : List Digest
  capturedAt : Time
  statusCode_bounds : 100 ≤ statusCode ∧ statusCode ≤ 599
  peerIp_length : 1 ≤ peerIp.length ∧ peerIp.length ≤ 64
  redirectCount_le : redirectCount ≤ 5
  evidenceRefs_length : 1 ≤ evidenceRefs.length ∧ evidenceRefs.length ≤ 6
  policyRecordDigests_length : 1 ≤ policyRecordDigests.length ∧ policyRecordDigests.length ≤ 6

@[ext]
structure ServiceIdentitySnapshot where
  planId : Digest
  actionId : Digest
  targetId : UUID
  scopeId : UUID
  scopeVersion : ℕ
  endpointUrlDigest : Digest
  peerIp : String
  tlsVersion : ServiceTlsVersion
  cipherSuite : String
  cipherBits : ℕ
  leafCertificateSha256 : Digest
  evidenceRefs : List Digest
  policyRecordDigests : List Digest
  capturedAt : Time
  peerIp_length : 1 ≤ peerIp.length ∧ peerIp.length ≤ 64
  cipherBits_bounds : 112 ≤ cipherBits ∧ cipherBits ≤ 1024
  evidenceRefs_length : evidenceRefs.length = 1
  policyRecordDigests_length : policyRecordDigests.length = 1

/-- What an endpoint is named by. -/
structure EndpointKey where
  requestedUrlDigest : Digest
  finalUrlDigest : Digest
  peerIp : String
  deriving DecidableEq

def AttackSurfaceSnapshot.endpointKey (snapshot : AttackSurfaceSnapshot) : EndpointKey :=
  ⟨snapshot.requestedUrlDigest, snapshot.finalUrlDigest, snapshot.peerIp⟩

/-! ## Inventories -/

/-- The fields of an endpoint before its validators have run. -/
structure AttackSurfaceEndpointValues where
  requestedUrlDigest : Digest
  finalUrlDigest : Digest
  peerIp : String
  statusCodes : List ℕ
  redirectCounts : List ℕ
  observationIds : List Digest
  snapshotIds : List Digest
  evidenceRefs : List Digest
  serviceIdentityIds : List Digest
  firstObservedAt : Time
  lastObservedAt : Time
  deriving DecidableEq

section

variable [PythonIpaddress]

/-- What the fields and the validators of an endpoint check. -/
@[mk_iff]
structure AttackSurfaceEndpointValues.Sealed (values : AttackSurfaceEndpointValues) : Prop where
  peerIp_length : 1 ≤ values.peerIp.length ∧ values.peerIp.length ≤ 64
  peerIp_normalized : NormalizedIp values.peerIp
  statusCodes_length : 1 ≤ values.statusCodes.length ∧ values.statusCodes.length ≤ 100
  redirectCounts_length : 1 ≤ values.redirectCounts.length ∧ values.redirectCounts.length ≤ 6
  observationIds_length : 1 ≤ values.observationIds.length ∧ values.observationIds.length ≤ 10000
  snapshotIds_length : 1 ≤ values.snapshotIds.length ∧ values.snapshotIds.length ≤ 10000
  evidenceRefs_length : 1 ≤ values.evidenceRefs.length ∧ values.evidenceRefs.length ≤ 60000
  statusCodes_sorted : values.statusCodes.Pairwise (· < ·)
  statusCodes_bounds : ∀ code ∈ values.statusCodes, 100 ≤ code ∧ code ≤ 599
  redirectCounts_sorted : values.redirectCounts.Pairwise (· < ·)
  redirectCounts_bounds : ∀ count ∈ values.redirectCounts, count ≤ 5
  observationIds_sorted : values.observationIds.Pairwise (· < ·)
  snapshotIds_sorted : values.snapshotIds.Pairwise (· < ·)
  evidenceRefs_sorted : values.evidenceRefs.Pairwise (· < ·)
  serviceIdentityIds_sorted : values.serviceIdentityIds.Pairwise (· < ·)
  paired : values.observationIds.length = values.snapshotIds.length
  observed : values.firstObservedAt ≤ values.lastObservedAt

instance (values : AttackSurfaceEndpointValues) : Decidable values.Sealed :=
  decidable_of_iff' _ values.sealed_iff

structure AttackSurfaceEndpoint extends AttackSurfaceEndpointValues where
  isSealed : toAttackSurfaceEndpointValues.Sealed
  deriving DecidableEq

namespace AttackSurfaceEndpoint

variable (endpoint : AttackSurfaceEndpoint)

def key : EndpointKey :=
  ⟨endpoint.requestedUrlDigest, endpoint.finalUrlDigest, endpoint.peerIp⟩

variable [CanonicalDigest EndpointKey]

def endpointId : Digest :=
  canonicalDigest endpoint.key

end AttackSurfaceEndpoint

variable [CanonicalDigest ServiceIdentitySnapshot]

def ServiceIdentitySnapshot.snapshotId (snapshot : ServiceIdentitySnapshot) : Digest :=
  canonicalDigest snapshot

structure AttackSurfaceServiceIdentity where
  observationId : Digest
  identity : ServiceIdentitySnapshot
  bound : observationId ≠ identity.snapshotId

/-- The fields of an inventory before its validator has run. -/
@[ext]
structure AttackSurfaceInventoryValues where
  reductionId : Digest
  flowPlanId : Digest
  sourceCheckpointId : Digest
  targetId : UUID
  scopeId : UUID
  scopeVersion : ℕ
  observationIds : List Digest
  snapshotIds : List Digest
  evidenceRefs : List Digest
  endpoints : List AttackSurfaceEndpoint
  serviceIdentities : List AttackSurfaceServiceIdentity
  reducedAt : Time

namespace AttackSurfaceInventoryValues

variable (values : AttackSurfaceInventoryValues)

/-- `identity_ids`. -/
def identityIds : List Digest :=
  values.serviceIdentities.map fun entry => entry.identity.snapshotId

variable [CanonicalDigest EndpointKey]

/-- What the fields and the validator of an inventory check. -/
@[mk_iff]
structure Sealed : Prop where
  observationIds_length : 1 ≤ values.observationIds.length ∧ values.observationIds.length ≤ 10000
  snapshotIds_length : 1 ≤ values.snapshotIds.length ∧ values.snapshotIds.length ≤ 10000
  evidenceRefs_length : 1 ≤ values.evidenceRefs.length ∧ values.evidenceRefs.length ≤ 60000
  endpoints_length : values.endpoints.length ≤ 10000
  serviceIdentities_length : values.serviceIdentities.length ≤ 10000
  observationIds_sorted : values.observationIds.Pairwise (· < ·)
  snapshotIds_sorted : values.snapshotIds.Pairwise (· < ·)
  evidenceRefs_sorted : values.evidenceRefs.Pairwise (· < ·)
  endpoints_sorted : (values.endpoints.map fun endpoint => endpoint.endpointId).Pairwise (· < ·)
  serviceIdentities_sorted : values.identityIds.Pairwise (· < ·)
  attached : ∀ endpoint ∈ values.endpoints, ∀ id ∈ endpoint.serviceIdentityIds,
    id ∈ values.identityIds
  attachment : ∀ endpoint ∈ values.endpoints, ∀ entry ∈ values.serviceIdentities,
    entry.identity.snapshotId ∈ endpoint.serviceIdentityIds →
      entry.identity.endpointUrlDigest = endpoint.requestedUrlDigest ∧
        entry.identity.peerIp = endpoint.peerIp
  nonempty : values.endpoints ≠ [] ∨ values.serviceIdentities ≠ []
  paired : values.observationIds.length = values.snapshotIds.length
  observationIds_cover : SameMembers values.observationIds
    (values.endpoints.flatMap (fun endpoint => endpoint.observationIds) ++
      values.serviceIdentities.map AttackSurfaceServiceIdentity.observationId)
  snapshotIds_cover : SameMembers values.snapshotIds
    (values.endpoints.flatMap (fun endpoint => endpoint.snapshotIds) ++ values.identityIds)
  evidenceRefs_cover : SameMembers values.evidenceRefs
    (values.endpoints.flatMap (fun endpoint => endpoint.evidenceRefs) ++
      values.serviceIdentities.flatMap fun entry => entry.identity.evidenceRefs)

instance : Decidable values.Sealed :=
  decidable_of_iff' _ values.sealed_iff

end AttackSurfaceInventoryValues

variable [CanonicalDigest EndpointKey]

structure AttackSurfaceInventory extends AttackSurfaceInventoryValues where
  isSealed : toAttackSurfaceInventoryValues.Sealed

/-- The outcome of a reduction. -/
structure AttackSurfaceReductionOutcome where
  reductionId : Digest
  inventory : AttackSurfaceInventory
  attempt : ℕ
  cleanupComplete : Bool
  attempt_bounds : 1 ≤ attempt ∧ attempt ≤ 3
  bound : inventory.reductionId = reductionId ∧ cleanupComplete = true

def AttackSurfaceInventory.inventoryId [CanonicalDigest AttackSurfaceInventory]
    (inventory : AttackSurfaceInventory) : Digest :=
  canonicalDigest inventory

end

end Surface

end VulnLoom

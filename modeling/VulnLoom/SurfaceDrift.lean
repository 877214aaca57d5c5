import VulnLoom.SurfaceModels
import VulnLoom.TimedLoop

/-!
# The comparison of two attack surfaces

The facts of a surface are gathered as sets, each on its own : the peers of its endpoints and of its
service identities, the final destinations, the status codes and so on. A change is listed where
one of the sets is another (`compare_unlisted_iff`). Which destination was reached at which peer is
no part of it, so two peers may change places unseen (`swapped_peers_unlisted`).
-/

set_option linter.unusedSectionVars false

namespace VulnLoom

namespace Surface

open TimedLoop

/-! ## Facts and their projections -/

/-- What an endpoint says of its surface. -/
structure EndpointFact where
  finalUrlDigest : Digest
  peerIp : String
  statusCodes : List ℕ
  redirectCounts : List ℕ
  deriving DecidableEq

/-- What a service identity says of its surface. -/
structure TlsFact where
  peerIp : String
  tlsVersion : ServiceTlsVersion
  cipherSuite : String
  cipherBits : ℕ
  leafCertificateSha256 : Digest

/-- Each projection of the facts is the same. -/
@[mk_iff]
structure ProjectionsAgree (old new : Set EndpointFact) (oldTls newTls : Set TlsFact) : Prop where
  endpoints : old = ∅ ↔ new = ∅
  identities : oldTls = ∅ ↔ newTls = ∅
  peers : EndpointFact.peerIp '' old ∪ TlsFact.peerIp '' oldTls =
    EndpointFact.peerIp '' new ∪ TlsFact.peerIp '' newTls
  destinations : EndpointFact.finalUrlDigest '' old = EndpointFact.finalUrlDigest '' new
  statusCodes : {code | ∃ fact ∈ old, code ∈ fact.statusCodes} =
    {code | ∃ fact ∈ new, code ∈ fact.statusCodes}
  redirectCounts : {count | ∃ fact ∈ old, count ∈ fact.redirectCounts} =
    {count | ∃ fact ∈ new, count ∈ fact.redirectCounts}
  tlsVersions : TlsFact.tlsVersion '' oldTls = TlsFact.tlsVersion '' newTls
  ciphers : (fun fact : TlsFact => (fact.cipherSuite, fact.cipherBits)) '' oldTls =
    (fun fact : TlsFact => (fact.cipherSuite, fact.cipherBits)) '' newTls
  certificates : TlsFact.leafCertificateSha256 '' oldTls = TlsFact.leafCertificateSha256 '' newTls

theorem ProjectionsAgree.refl (facts : Set EndpointFact) (tls : Set TlsFact) :
    ProjectionsAgree facts facts tls tls :=
  ⟨Iff.rfl, Iff.rfl, rfl, rfl, rfl, rfl, rfl, rfl, rfl⟩

section

variable [PythonIpaddress] [CanonicalDigest ServiceIdentitySnapshot] [CanonicalDigest EndpointKey]

def AttackSurfaceEndpoint.fact (endpoint : AttackSurfaceEndpoint) : EndpointFact :=
  ⟨endpoint.finalUrlDigest, endpoint.peerIp, endpoint.statusCodes, endpoint.redirectCounts⟩

def ServiceIdentitySnapshot.fact (identity : ServiceIdentitySnapshot) : TlsFact :=
  ⟨identity.peerIp, identity.tlsVersion, identity.cipherSuite, identity.cipherBits,
    identity.leafCertificateSha256⟩

namespace AttackSurfaceInventory

variable (inventory : AttackSurfaceInventory) (key : Digest)

/-- The endpoints of a surface. -/
def endpointsAt : List AttackSurfaceEndpoint :=
  inventory.endpoints.filter fun endpoint => endpoint.requestedUrlDigest = key

/-- The service identities of a surface. -/
def identitiesAt : List ServiceIdentitySnapshot :=
  (inventory.serviceIdentities.map AttackSurfaceServiceIdentity.identity).filter
    fun identity => identity.endpointUrlDigest = key

def endpointFacts : Set EndpointFact :=
  {fact | ∃ endpoint ∈ inventory.endpointsAt key, endpoint.fact = fact}

def tlsFacts : Set TlsFact :=
  {fact | ∃ identity ∈ inventory.identitiesAt key, identity.fact = fact}

/-- The surfaces that an inventory has something about. -/
def surfaceKeys : List Digest :=
  inventory.endpoints.map (fun endpoint => endpoint.requestedUrlDigest) ++
    inventory.serviceIdentities.map fun entry => entry.identity.endpointUrlDigest

end AttackSurfaceInventory

/-! ## Plans and reports -/

/-- The exceptions of the drift service. -/
inductive DriftError
  /-- `AttackSurfaceDriftRejected` -/
  | rejected (message : String)
  /-- `AttackSurfaceDriftTimedOut` -/
  | timedOut (message : String)
  /-- pydantic's `ValidationError` -/
  | validationError (message : String)
  deriving DecidableEq

structure AttackSurfaceDriftLimits where
  maxSurfaces : ℕ
  maxEvidenceRefs : ℕ
  timeoutSeconds : ℚ
  maxAttempts : ℕ
  maxSurfaces_bounds : 1 ≤ maxSurfaces ∧ maxSurfaces ≤ 20000
  maxEvidenceRefs_bounds : 1 ≤ maxEvidenceRefs ∧ maxEvidenceRefs ≤ 120000
  timeoutSeconds_bounds : 0 < timeoutSeconds ∧ timeoutSeconds ≤ 300
  maxAttempts_bounds : 1 ≤ maxAttempts ∧ maxAttempts ≤ 3

structure AttackSurfaceDriftPlan where
  baselineReductionId : Digest
  baselineInventoryId : Digest
  currentReductionId : Digest
  currentInventoryId : Digest
  targetId : UUID
  scopeId : UUID
  scopeVersion : ℕ
  limits : AttackSurfaceDriftLimits
  createdAt : Time
  deadline : Time
  idempotencyKey : String
  distinct : baselineReductionId ≠ currentReductionId ∧ baselineInventoryId ≠ currentInventoryId
  deadline_after : createdAt < deadline

def AttackSurfaceDriftPlan.comparisonId [CanonicalDigest AttackSurfaceDriftPlan]
    (plan : AttackSurfaceDriftPlan) : Digest :=
  canonicalDigest plan

inductive AttackSurfaceChangeKind
  | endpointAdded
  | endpointRemoved
  | peerSetChanged
  | finalDestinationChanged
  | httpStatusChanged
  | redirectBehaviorChanged
  | tlsIdentityAdded
  | tlsIdentityRemoved
  | tlsVersionChanged
  | cipherChanged
  | certificateChanged
  deriving DecidableEq

def AttackSurfaceChangeKind.value : AttackSurfaceChangeKind → String
  | endpointAdded => "endpoint_added"
  | endpointRemoved => "endpoint_removed"
  | peerSetChanged => "peer_set_changed"
  | finalDestinationChanged => "final_destination_changed"
  | httpStatusChanged => "http_status_changed"
  | redirectBehaviorChanged => "redirect_behavior_changed"
  | tlsIdentityAdded => "tls_identity_added"
  | tlsIdentityRemoved => "tls_identity_removed"
  | tlsVersionChanged => "tls_version_changed"
  | cipherChanged => "cipher_changed"
  | certificateChanged => "certificate_changed"

/-- The fields of a change before its validator has run. -/
structure AttackSurfaceChangeValues where
  surfaceKey : Digest
  changeKinds : List AttackSurfaceChangeKind
  baselineEndpointIds : List Digest
  currentEndpointIds : List Digest
  baselineIdentityIds : List Digest
  currentIdentityIds : List Digest
  evidenceRefs : List Digest

/-- What the fields and the validator of a change check. -/
@[mk_iff]
structure AttackSurfaceChangeValues.Canonical (values : AttackSurfaceChangeValues) : Prop where
  changeKinds_length : 1 ≤ values.changeKinds.length ∧ values.changeKinds.length ≤ 11
  baselineEndpointIds_length : values.baselineEndpointIds.length ≤ 10000
  currentEndpointIds_length : values.currentEndpointIds.length ≤ 10000
  baselineIdentityIds_length : values.baselineIdentityIds.length ≤ 10000
  currentIdentityIds_length : values.currentIdentityIds.length ≤ 10000
  evidenceRefs_length : values.evidenceRefs.length ≤ 120000
  changeKinds_sorted :
    values.changeKinds.Pairwise fun a b => a.value < b.value
  baselineEndpointIds_sorted : values.baselineEndpointIds.Pairwise (· < ·)
  currentEndpointIds_sorted : values.currentEndpointIds.Pairwise (· < ·)
  baselineIdentityIds_sorted : values.baselineIdentityIds.Pairwise (· < ·)
  currentIdentityIds_sorted : values.currentIdentityIds.Pairwise (· < ·)
  evidenceRefs_sorted : values.evidenceRefs.Pairwise (· < ·)

instance (values : AttackSurfaceChangeValues) : Decidable values.Canonical :=
  decidable_of_iff' _ values.canonical_iff

structure AttackSurfaceChange extends AttackSurfaceChangeValues where
  canonical : toAttackSurfaceChangeValues.Canonical

/-- The constructor of `AttackSurfaceChange`. -/
def AttackSurfaceChange.create (values : AttackSurfaceChangeValues) :
    Except DriftError AttackSurfaceChange :=
  if h : values.Canonical then .ok ⟨values, h⟩
  else .error (.validationError "Attack Surface change facts must be canonical")

/-- The fields of a report before its validator has run. -/
structure AttackSurfaceDriftReportValues where
  comparisonId : Digest
  baselineInventoryId : Digest
  currentInventoryId : Digest
  targetId : UUID
  scopeId : UUID
  scopeVersion : ℕ
  comparedSurfaceCount : ℕ
  unchangedSurfaceCount : ℕ
  changes : List AttackSurfaceChange
  evidenceRefs : List Digest
  comparedAt : Time

/-- What the fields and the validator of a report check. -/
@[mk_iff]
structure AttackSurfaceDriftReportValues.Sealed (values : AttackSurfaceDriftReportValues) :
    Prop where
  comparedSurfaceCount_le : values.comparedSurfaceCount ≤ 20000
  unchangedSurfaceCount_le : values.unchangedSurfaceCount ≤ 20000
  changes_length : values.changes.length ≤ 20000
  evidenceRefs_length : values.evidenceRefs.length ≤ 120000
  keys_sorted : (values.changes.map fun change => change.surfaceKey).Pairwise (· < ·)
  counted : values.comparedSurfaceCount = values.unchangedSurfaceCount + values.changes.length
  evidenceRefs_eq : values.evidenceRefs =
    Table.sortDistinct (values.changes.flatMap fun change => change.evidenceRefs)

instance (values : AttackSurfaceDriftReportValues) : Decidable values.Sealed :=
  decidable_of_iff' _ values.sealed_iff

structure AttackSurfaceDriftReport extends AttackSurfaceDriftReportValues where
  isSealed : toAttackSurfaceDriftReportValues.Sealed

/-- `AttackSurfaceDriftReport.create`. -/
def AttackSurfaceDriftReport.create (values : AttackSurfaceDriftReportValues) :
    Except DriftError AttackSurfaceDriftReport :=
  if h : values.Sealed then .ok ⟨values, h⟩
  else .error (.validationError "Attack Surface drift report facts are not canonical")

/-- The surfaces that a report lists a change of. -/
def AttackSurfaceDriftReport.listed (report : AttackSurfaceDriftReport) : List Digest :=
  report.changes.map fun change => change.surfaceKey

/-! ## Gathering the facts -/

/-- What `_Deadline.check` raises. -/
def timedOut : DriftError :=
  .timedOut "Attack Surface drift comparison timed out"

/-- `_SurfaceFacts`. A set is the list of its members. -/
structure SurfaceFacts where
  endpointIds : List Digest := []
  identityIds : List Digest := []
  peers : List String := []
  finalDestinations : List Digest := []
  statuses : List ℕ := []
  redirects : List ℕ := []
  tlsVersions : List String := []
  ciphers : List (String × ℕ) := []
  certificates : List Digest := []
  evidenceRefs : List Digest := []

namespace SurfaceFacts

def addEndpoint (item : SurfaceFacts) (endpoint : AttackSurfaceEndpoint) : SurfaceFacts :=
  { item with
    endpointIds := item.endpointIds ++ [endpoint.endpointId]
    peers := item.peers ++ [endpoint.peerIp]
    finalDestinations := item.finalDestinations ++ [endpoint.finalUrlDigest]
    statuses := item.statuses ++ endpoint.statusCodes
    redirects := item.redirects ++ endpoint.redirectCounts
    evidenceRefs := item.evidenceRefs ++ endpoint.evidenceRefs }

def addIdentity (item : SurfaceFacts) (identity : ServiceIdentitySnapshot) : SurfaceFacts :=
  { item with
    identityIds := item.identityIds ++ [identity.snapshotId]
    peers := item.peers ++ [identity.peerIp]
    tlsVersions := item.tlsVersions ++ [identity.tlsVersion.value]
    ciphers := item.ciphers ++ [(identity.cipherSuite, identity.cipherBits)]
    certificates := item.certificates ++ [identity.leafCertificateSha256]
    evidenceRefs := item.evidenceRefs ++ identity.evidenceRefs }

theorem foldl_addEndpoint : ∀ (endpoints : List AttackSurfaceEndpoint) (item : SurfaceFacts),
    endpoints.foldl addEndpoint item =
      { item with
        endpointIds := item.endpointIds ++ endpoints.map fun endpoint => endpoint.endpointId
        peers := item.peers ++ endpoints.map fun endpoint => endpoint.peerIp
        finalDestinations := item.finalDestinations ++
          endpoints.map fun endpoint => endpoint.finalUrlDigest
        statuses := item.statuses ++ endpoints.flatMap fun endpoint => endpoint.statusCodes
        redirects := item.redirects ++ endpoints.flatMap fun endpoint => endpoint.redirectCounts
        evidenceRefs := item.evidenceRefs ++
          endpoints.flatMap fun endpoint => endpoint.evidenceRefs }
  | [], item => by simp
  | endpoint :: endpoints, item => by
    rw [List.foldl_cons, foldl_addEndpoint endpoints]
    simp [addEndpoint]

theorem foldl_addIdentity : ∀ (identities : List ServiceIdentitySnapshot) (item : SurfaceFacts),
    identities.foldl addIdentity item =
      { item with
        identityIds := item.identityIds ++ identities.map fun identity => identity.snapshotId
        peers := item.peers ++ identities.map fun identity => identity.peerIp
        tlsVersions := item.tlsVersions ++ identities.map fun identity => identity.tlsVersion.value
        ciphers := item.ciphers ++
          identities.map fun identity => (identity.cipherSuite, identity.cipherBits)
        certificates := item.certificates ++
          identities.map fun identity => identity.leafCertificateSha256
        evidenceRefs := item.evidenceRefs ++
          identities.flatMap fun identity => identity.evidenceRefs }
  | [], item => by simp
  | identity :: identities, item => by
    rw [List.foldl_cons, foldl_addIdentity identities]
    simp [addIdentity]

end SurfaceFacts

/-- A `dict[str, _SurfaceFacts]`. -/
abbrev FactsByKey := List (Digest × SurfaceFacts)

namespace FactsByKey

/-- `facts.get(key)`. -/
def get (facts : FactsByKey) (key : Digest) : Option SurfaceFacts :=
  (facts.find? fun entry => entry.1 = key).map Prod.snd

/-- The facts of a key, or the empty ones. -/
def factsOf (facts : FactsByKey) (key : Digest) : SurfaceFacts :=
  (facts.get key).getD {}

/-- What is done to `facts.setdefault(key, _SurfaceFacts())`. -/
def modify (facts : FactsByKey) (key : Digest) (f : SurfaceFacts → SurfaceFacts) : FactsByKey :=
  Table.upsert Prod.fst (key, f (facts.factsOf key)) facts

theorem factsOf_modify (facts : FactsByKey) (key : Digest) (f : SurfaceFacts → SurfaceFacts)
    (other : Digest) : (facts.modify key f).factsOf other =
      if key = other then f (facts.factsOf other) else facts.factsOf other := by
  split_ifs with h
  · subst h
    have hfind : (facts.modify key f).find? (fun entry => entry.1 = key) =
        some (key, f (facts.factsOf key)) :=
      Table.find?_upsert (key, f (facts.factsOf key)) facts
    rw [factsOf, get, hfind]
    rfl
  · have hfind : (facts.modify key f).find? (fun entry => entry.1 = other) =
        facts.find? fun entry => entry.1 = other :=
      Table.find?_upsert_of_ne (fun heq => h heq.symm) facts
    rw [factsOf, get, hfind]
    rfl

theorem factsOf_of_notMem {facts : FactsByKey} {key : Digest} (h : key ∉ facts.map Prod.fst) :
    facts.factsOf key = {} := by
  have hnone : facts.find? (fun entry => entry.1 = key) = none := by
    refine List.find?_eq_none.2 fun entry hentry heq => h ?_
    exact List.mem_map.2 ⟨entry, hentry, by simpa using heq⟩
  rw [factsOf, get, hnone]
  rfl

/-- A loop that puts each item under its key. -/
theorem factsOf_foldl {ι : Type} (keyOf : ι → Digest) (add : SurfaceFacts → ι → SurfaceFacts)
    (key : Digest) : ∀ (items : List ι) (facts : FactsByKey),
    (items.foldl (fun facts item => facts.modify (keyOf item) (add · item)) facts).factsOf key =
      (items.filter fun item => keyOf item = key).foldl add (facts.factsOf key)
  | [], _ => rfl
  | item :: items, facts => by
    rw [List.foldl_cons, factsOf_foldl keyOf add key items, factsOf_modify, List.filter_cons]
    by_cases h : keyOf item = key <;> simp [h]

end FactsByKey

/-- `_facts`. -/
def gatherFacts (inventory : AttackSurfaceInventory) (deadline : Deadline) :
    Except DriftError (FactsByKey × Deadline) := do
  let (facts, deadline) ← each timedOut (fun (facts : FactsByKey) endpoint => .ok
    (facts.modify endpoint.requestedUrlDigest (·.addEndpoint endpoint))) deadline []
    inventory.endpoints
  each timedOut (fun (facts : FactsByKey) entry => .ok
    (facts.modify entry.identity.endpointUrlDigest (·.addIdentity entry.identity))) deadline facts
    inventory.serviceIdentities

/-! ## Changes -/

section

variable (old new : SurfaceFacts)

/-- What is added where two sets differ. -/
def differs {α : Type} [DecidableEq α] (kind : AttackSurfaceChangeKind) (l l' : List α) :
    List AttackSurfaceChangeKind :=
  if SameMembers l l' then [] else [kind]

def endpointKinds : List AttackSurfaceChangeKind :=
  if old.endpointIds = [] ∧ new.endpointIds ≠ [] then [.endpointAdded]
  else if old.endpointIds ≠ [] ∧ new.endpointIds = [] then [.endpointRemoved]
  else if old.endpointIds ≠ [] ∧ new.endpointIds ≠ [] then
    differs .finalDestinationChanged old.finalDestinations new.finalDestinations ++
    differs .httpStatusChanged old.statuses new.statuses ++
    differs .redirectBehaviorChanged old.redirects new.redirects
  else []

/-- There is an endpoint or a service identity. -/
def SurfaceFacts.Present (facts : SurfaceFacts) : Prop :=
  facts.endpointIds ≠ [] ∨ facts.identityIds ≠ []

instance (facts : SurfaceFacts) : Decidable facts.Present :=
  inferInstanceAs (Decidable (_ ∨ _))

def peerKinds : List AttackSurfaceChangeKind :=
  if old.Present ∧ new.Present then differs .peerSetChanged old.peers new.peers else []

def tlsKinds : List AttackSurfaceChangeKind :=
  if old.identityIds = [] ∧ new.identityIds ≠ [] then [.tlsIdentityAdded]
  else if old.identityIds ≠ [] ∧ new.identityIds = [] then [.tlsIdentityRemoved]
  else if old.identityIds ≠ [] ∧ new.identityIds ≠ [] then
    differs .tlsVersionChanged old.tlsVersions new.tlsVersions ++
    differs .cipherChanged old.ciphers new.ciphers ++
    differs .certificateChanged old.certificates new.certificates
  else []

/-- `kinds`. -/
def changeKinds : List AttackSurfaceChangeKind :=
  endpointKinds old new ++ peerKinds old new ++ tlsKinds old new

end

/-- `_change`. -/
def changeOf (key : Digest) (baseline current : Option SurfaceFacts) :
    Except DriftError (Option AttackSurfaceChange) :=
  let old := baseline.getD {}
  let new := current.getD {}
  let kinds := changeKinds old new
  if kinds = [] then .ok none
  else do
    let change ← AttackSurfaceChange.create {
      surfaceKey := key
      changeKinds := Table.orderBy AttackSurfaceChangeKind.value kinds
      baselineEndpointIds := Table.sortDistinct old.endpointIds
      currentEndpointIds := Table.sortDistinct new.endpointIds
      baselineIdentityIds := Table.sortDistinct old.identityIds
      currentIdentityIds := Table.sortDistinct new.identityIds
      evidenceRefs := Table.sortDistinct (old.evidenceRefs ++ new.evidenceRefs) }
    return some change

theorem changeOf_eq_ok {key : Digest} {baseline current : Option SurfaceFacts}
    {change : Option AttackSurfaceChange} (h : changeOf key baseline current = .ok change) :
    change.toList.map (fun change => change.surfaceKey) =
      if changeKinds (baseline.getD {}) (current.getD {}) = [] then [] else [key] := by
  simp only [changeOf] at h
  by_cases hkinds : changeKinds (baseline.getD {}) (current.getD {}) = []
  · rw [if_pos hkinds] at h ⊢
    cases h
    rfl
  · rw [if_neg hkinds] at h ⊢
    simp only [bind_eq_ok, pure_eq_ok] at h
    obtain ⟨created, hcreated, rfl⟩ := h
    unfold AttackSurfaceChange.create at hcreated
    split_ifs at hcreated
    cases hcreated
    rfl

/-! ## The comparison -/

variable [CanonicalDigest AttackSurfaceInventory] [CanonicalDigest AttackSurfaceDriftPlan]

/-- What a comparison reads : the reduction ledger, the evidence store and the clock. -/
structure DriftWorld where
  outcome : Digest → Option AttackSurfaceReductionOutcome
  contains : Digest → Bool
  clock : ℕ → ℚ

namespace DriftWorld

variable (world : DriftWorld)

/-- `_load`. -/
def load (reductionId : Digest) : Except DriftError AttackSurfaceInventory := do
  let outcome ← orRaise (world.outcome reductionId)
    (.rejected "completed Attack Surface inventory is unavailable")
  raiseIf (outcome.reductionId ≠ reductionId ∨ outcome.cleanupComplete = false)
    (.rejected "Attack Surface inventory source is invalid")
  return outcome.inventory

/-- What `_binding` asks of the inventories. -/
def Ordered (baseline current : AttackSurfaceInventory) (scope : Scope) (now : Time) : Prop :=
  scope.state = .approved ∧ (scope.validFrom ≤ now ∧ now < scope.validUntil) ∧
    baseline.targetId = current.targetId ∧ baseline.scopeId = current.scopeId ∧
    baseline.scopeId = scope.scopeId ∧ baseline.scopeVersion ≤ current.scopeVersion ∧
    current.scopeVersion = scope.version ∧ baseline.reducedAt < current.reducedAt ∧
    current.reducedAt ≤ now

instance (baseline current : AttackSurfaceInventory) (scope : Scope) (now : Time) :
    Decidable (Ordered baseline current scope now) :=
  inferInstanceAs (Decidable (_ ∧ _))

/-- `_bound_sources`. -/
def boundSources (plan : AttackSurfaceDriftPlan) (scope : Scope) (now : Time) :
    Except DriftError (AttackSurfaceInventory × AttackSurfaceInventory) := do
  let baseline ← world.load plan.baselineReductionId
  let current ← world.load plan.currentReductionId
  raiseIf (¬Ordered baseline current scope now)
    (.rejected "Attack Surface drift requires ordered inventories in current Scope")
  raiseIf (baseline.inventoryId ≠ plan.baselineInventoryId ∨
      current.inventoryId ≠ plan.currentInventoryId ∨ current.targetId ≠ plan.targetId ∨
      current.scopeId ≠ plan.scopeId ∨ current.scopeVersion ≠ plan.scopeVersion)
    (.rejected "Attack Surface drift source binding changed")
  return (baseline, current)

/-- `_budgets`. -/
def budgets (baseline current : AttackSurfaceInventory) (limits : AttackSurfaceDriftLimits) :
    Except DriftError Unit := do
  raiseIf (limits.maxSurfaces < (baseline.surfaceKeys ++ current.surfaceKeys).dedup.length)
    (.rejected "Attack Surface drift surface budget exceeded")
  raiseIf (limits.maxEvidenceRefs < (baseline.evidenceRefs ++ current.evidenceRefs).dedup.length)
    (.rejected "Attack Surface drift Evidence budget exceeded")

/-- `_verify_evidence`. -/
def verifyEvidence (baseline current : AttackSurfaceInventory) : Except DriftError Unit :=
  raiseIf (¬∀ ref ∈ baseline.evidenceRefs ++ current.evidenceRefs, world.contains ref = true)
    (.rejected "Attack Surface drift Evidence integrity failed")

/-- The changes of the surfaces, in turn. -/
def changesOf (old new : FactsByKey) (changes : List AttackSurfaceChange) (key : Digest) :
    Except DriftError (List AttackSurfaceChange) := do
  let change ← changeOf key (old.get key) (new.get key)
  return changes ++ change.toList

/-- `_compare`. -/
def compare (plan : AttackSurfaceDriftPlan) (scope : Scope) (now : Time) :
    Except DriftError AttackSurfaceDriftReport := do
  raiseIf (¬(plan.createdAt ≤ now ∧ now < plan.deadline))
    (.rejected "Attack Surface drift plan is not active")
  let (baseline, current) ← world.boundSources plan scope now
  budgets baseline current plan.limits
  world.verifyEvidence baseline current
  let (old, deadline) ← gatherFacts baseline (.start plan.limits.timeoutSeconds world.clock)
  let (new, deadline) ← gatherFacts current deadline
  let keys := Table.sortDistinct (old.map Prod.fst ++ new.map Prod.fst)
  raiseIf (plan.limits.maxSurfaces < keys.length)
    (.rejected "Attack Surface drift surface budget exceeded")
  let (changes, _) ← each timedOut (changesOf old new) deadline [] keys
  let evidenceRefs := Table.sortDistinct (changes.flatMap fun change => change.evidenceRefs)
  raiseIf (plan.limits.maxEvidenceRefs < evidenceRefs.length)
    (.rejected "Attack Surface drift Evidence budget exceeded")
  AttackSurfaceDriftReport.create {
    comparisonId := plan.comparisonId
    baselineInventoryId := baseline.inventoryId
    currentInventoryId := current.inventoryId
    targetId := plan.targetId
    scopeId := plan.scopeId
    scopeVersion := plan.scopeVersion
    comparedSurfaceCount := keys.length
    unchangedSurfaceCount := keys.length - changes.length
    changes := changes
    evidenceRefs := evidenceRefs
    comparedAt := plan.createdAt }

end DriftWorld

/-! ## What is gathered -/

/-- The facts of a surface of an inventory. -/
def AttackSurfaceInventory.factsAt (inventory : AttackSurfaceInventory) (key : Digest) :
    SurfaceFacts :=
  (inventory.identitiesAt key).foldl SurfaceFacts.addIdentity
    ((inventory.endpointsAt key).foldl SurfaceFacts.addEndpoint {})

theorem factsOf_gatherFacts {inventory : AttackSurfaceInventory}
    {deadline deadline' : Deadline} {facts : FactsByKey}
    (h : gatherFacts inventory deadline = .ok (facts, deadline')) (key : Digest) :
    facts.factsOf key = inventory.factsAt key := by
  simp only [gatherFacts, bind_eq_ok, Prod.exists] at h
  obtain ⟨first, middle, hfirst, hsecond⟩ := h
  have hendpoints : first.factsOf key =
      (inventory.endpointsAt key).foldl SurfaceFacts.addEndpoint {} := by
    rw [← Except.ok.inj ((plain_ok _ _).symm.trans (each_eq_ok_iff.1 hfirst).1)]
    exact FactsByKey.factsOf_foldl (fun endpoint : AttackSurfaceEndpoint =>
      endpoint.requestedUrlDigest) SurfaceFacts.addEndpoint key inventory.endpoints []
  calc facts.factsOf key
      = (inventory.serviceIdentities.filter fun entry =>
          entry.identity.endpointUrlDigest = key).foldl
            (fun item entry => item.addIdentity entry.identity) (first.factsOf key) := by
        rw [← Except.ok.inj ((plain_ok _ _).symm.trans (each_eq_ok_iff.1 hsecond).1)]
        exact FactsByKey.factsOf_foldl (fun entry : AttackSurfaceServiceIdentity =>
          entry.identity.endpointUrlDigest) (fun item entry => item.addIdentity entry.identity) key
          inventory.serviceIdentities first
    _ = inventory.factsAt key := by
        rw [AttackSurfaceInventory.factsAt, AttackSurfaceInventory.identitiesAt, List.filter_map,
          List.foldl_map, hendpoints]
        rfl

/-- The surfaces that the changes are of. -/
def surfacesOf (changes : List AttackSurfaceChange) : List Digest :=
  changes.map fun change => change.surfaceKey

theorem mem_surfacesOf_changes {old new : FactsByKey} {key : Digest} :
    ∀ {keys : List Digest} {changes changes' : List AttackSurfaceChange},
      plain (DriftWorld.changesOf old new) changes keys = .ok changes' →
        (key ∈ surfacesOf changes' ↔ key ∈ surfacesOf changes ∨
          key ∈ keys ∧ changeKinds (old.factsOf key) (new.factsOf key) ≠ [])
  | [], changes, changes', h => by
    cases h
    simp
  | first :: keys, changes, changes', h => by
    rw [plain] at h
    cases hnext : DriftWorld.changesOf old new changes first with
    | error e => simp [hnext] at h
    | ok next =>
      simp only [hnext] at h
      simp only [DriftWorld.changesOf, bind_eq_ok, pure_eq_ok] at hnext
      obtain ⟨change, hchange, rfl⟩ := hnext
      have hfirst : surfacesOf (changes ++ change.toList) = surfacesOf changes ++
          if changeKinds (old.factsOf first) (new.factsOf first) = [] then [] else [first] := by
        rw [surfacesOf, List.map_append, changeOf_eq_ok hchange]
        rfl
      rw [mem_surfacesOf_changes h, hfirst, List.mem_append, List.mem_cons]
      by_cases hkey : key = first
      · subst hkey
        split_ifs <;> simp_all
      · split_ifs <;> simp [hkey]

/-! ## What is listed -/

/-- Nothing is listed where each set is the same. -/
theorem changeKinds_eq_nil_iff {old new : SurfaceFacts} : changeKinds old new = [] ↔
    (old.endpointIds = [] ↔ new.endpointIds = []) ∧
    (old.identityIds = [] ↔ new.identityIds = []) ∧
    (old.Present → new.Present → SameMembers old.peers new.peers) ∧
    (old.endpointIds ≠ [] → new.endpointIds ≠ [] →
      SameMembers old.finalDestinations new.finalDestinations ∧
      SameMembers old.statuses new.statuses ∧ SameMembers old.redirects new.redirects) ∧
    (old.identityIds ≠ [] → new.identityIds ≠ [] →
      SameMembers old.tlsVersions new.tlsVersions ∧ SameMembers old.ciphers new.ciphers ∧
      SameMembers old.certificates new.certificates) := by
  have hdiffers : ∀ {α : Type} [DecidableEq α] (kind : AttackSurfaceChangeKind) (l l' : List α),
      differs kind l l' = [] ↔ SameMembers l l' := by
    intro α _ kind l l'
    unfold differs
    split_ifs with h <;> simp [h]
  rw [changeKinds, List.append_eq_nil_iff, List.append_eq_nil_iff]
  unfold endpointKinds peerKinds tlsKinds SurfaceFacts.Present
  by_cases h1 : old.endpointIds = [] <;> by_cases h2 : new.endpointIds = [] <;>
    by_cases h3 : old.identityIds = [] <;> by_cases h4 : new.identityIds = [] <;>
    simp [h1, h2, h3, h4, hdiffers, and_assoc, and_comm, and_left_comm]

namespace AttackSurfaceInventory

theorem factsAt_eq (inventory : AttackSurfaceInventory) (key : Digest) :
    inventory.factsAt key =
      { endpointIds := (inventory.endpointsAt key).map fun endpoint => endpoint.endpointId
        identityIds := (inventory.identitiesAt key).map fun identity => identity.snapshotId
        peers := ((inventory.endpointsAt key).map fun endpoint => endpoint.peerIp) ++
          (inventory.identitiesAt key).map fun identity => identity.peerIp
        finalDestinations := (inventory.endpointsAt key).map fun endpoint =>
          endpoint.finalUrlDigest
        statuses := (inventory.endpointsAt key).flatMap fun endpoint => endpoint.statusCodes
        redirects := (inventory.endpointsAt key).flatMap fun endpoint => endpoint.redirectCounts
        tlsVersions := (inventory.identitiesAt key).map fun identity => identity.tlsVersion.value
        ciphers := (inventory.identitiesAt key).map fun identity =>
          (identity.cipherSuite, identity.cipherBits)
        certificates := (inventory.identitiesAt key).map fun identity =>
          identity.leafCertificateSha256
        evidenceRefs := ((inventory.endpointsAt key).flatMap fun endpoint =>
          endpoint.evidenceRefs) ++
          (inventory.identitiesAt key).flatMap fun identity => identity.evidenceRefs } := by
  rw [factsAt, SurfaceFacts.foldl_addEndpoint, SurfaceFacts.foldl_addIdentity]
  simp

variable {inventory : AttackSurfaceInventory}

theorem endpointFacts_eq_empty_iff {key : Digest} :
    inventory.endpointFacts key = ∅ ↔ inventory.endpointsAt key = [] := by
  simp [endpointFacts, Set.eq_empty_iff_forall_notMem, List.eq_nil_iff_forall_not_mem]

theorem tlsFacts_eq_empty_iff {key : Digest} :
    inventory.tlsFacts key = ∅ ↔ inventory.identitiesAt key = [] := by
  simp [tlsFacts, Set.eq_empty_iff_forall_notMem, List.eq_nil_iff_forall_not_mem]

end AttackSurfaceInventory

/-- Two lists are empty together, and have the same members where they are not. -/
theorem sameMembers_of_nonempty {α β : Type} {f : List α → List β} {l l' : List α}
    (hnil : l = [] ↔ l' = []) (h : l ≠ [] → l' ≠ [] → SameMembers (f l) (f l')) :
    SameMembers (f l) (f l') := by
  by_cases hl : l = []
  · rw [hl, hnil.1 hl]
    exact fun _ => Iff.rfl
  · exact h hl fun hl' => hl (hnil.2 hl')

theorem sameMembers_map_iff {α β : Type} {f : α → β} (hf : Function.Injective f) {l l' : List α} :
    SameMembers (l.map f) (l'.map f) ↔ SameMembers l l' := by
  constructor
  · intro h a
    rw [← List.mem_map_of_injective hf, h, List.mem_map_of_injective hf]
  · intro h b
    simp only [List.mem_map, h _]

section

variable (baseline current : AttackSurfaceInventory) (key : Digest)

/-- The projections, along the lists. -/
theorem projectionsAgree_facts_iff :
    ProjectionsAgree (baseline.endpointFacts key) (current.endpointFacts key)
        (baseline.tlsFacts key) (current.tlsFacts key) ↔
      (baseline.endpointsAt key = [] ↔ current.endpointsAt key = []) ∧
      (baseline.identitiesAt key = [] ↔ current.identitiesAt key = []) ∧
      SameMembers (baseline.factsAt key).peers (current.factsAt key).peers ∧
      SameMembers (baseline.factsAt key).finalDestinations
        (current.factsAt key).finalDestinations ∧
      SameMembers (baseline.factsAt key).statuses (current.factsAt key).statuses ∧
      SameMembers (baseline.factsAt key).redirects (current.factsAt key).redirects ∧
      SameMembers (baseline.factsAt key).tlsVersions (current.factsAt key).tlsVersions ∧
      SameMembers (baseline.factsAt key).ciphers (current.factsAt key).ciphers ∧
      SameMembers (baseline.factsAt key).certificates (current.factsAt key).certificates := by
  have hversions : SameMembers (baseline.factsAt key).tlsVersions
        (current.factsAt key).tlsVersions ↔
      SameMembers ((baseline.identitiesAt key).map fun identity => identity.tlsVersion)
        ((current.identitiesAt key).map fun identity => identity.tlsVersion) := by
    rw [baseline.factsAt_eq, current.factsAt_eq,
      ← sameMembers_map_iff ServiceTlsVersion.value_injective, List.map_map, List.map_map]
    rfl
  rw [hversions, baseline.factsAt_eq, current.factsAt_eq, projectionsAgree_iff,
    AttackSurfaceInventory.endpointFacts_eq_empty_iff,
    AttackSurfaceInventory.endpointFacts_eq_empty_iff,
    AttackSurfaceInventory.tlsFacts_eq_empty_iff, AttackSurfaceInventory.tlsFacts_eq_empty_iff]
  simp only [Set.ext_iff, SameMembers, AttackSurfaceInventory.endpointFacts,
    AttackSurfaceInventory.tlsFacts, AttackSurfaceEndpoint.fact, ServiceIdentitySnapshot.fact,
    Set.mem_union, Set.mem_image, Set.mem_ofPred_eq, exists_exists_and_eq_and, List.mem_append,
    List.mem_map, List.mem_flatMap]

/-- No change of a surface is found where each projection of its facts is the same. -/
theorem changeKinds_factsAt_iff :
    changeKinds (baseline.factsAt key) (current.factsAt key) = [] ↔
      ProjectionsAgree (baseline.endpointFacts key) (current.endpointFacts key)
        (baseline.tlsFacts key) (current.tlsFacts key) := by
  rw [changeKinds_eq_nil_iff, projectionsAgree_facts_iff]
  simp only [SurfaceFacts.Present, AttackSurfaceInventory.factsAt_eq, ne_eq, List.map_eq_nil_iff]
  constructor
  · rintro ⟨hendpoints, hidentities, hpeers, hhttp, htls⟩
    refine ⟨hendpoints, hidentities, ?_,
      sameMembers_of_nonempty hendpoints fun h h' => (hhttp h h').1,
      sameMembers_of_nonempty hendpoints fun h h' => (hhttp h h').2.1,
      sameMembers_of_nonempty hendpoints fun h h' => (hhttp h h').2.2,
      sameMembers_of_nonempty hidentities fun h h' => (htls h h').1,
      sameMembers_of_nonempty hidentities fun h h' => (htls h h').2.1,
      sameMembers_of_nonempty hidentities fun h h' => (htls h h').2.2⟩
    by_cases hold : ¬baseline.endpointsAt key = [] ∨ ¬baseline.identitiesAt key = []
    · exact hpeers hold (hold.imp (mt hendpoints.2) (mt hidentities.2))
    · push Not at hold
      rw [hold.1, hold.2, hendpoints.1 hold.1, hidentities.1 hold.2]
      exact fun _ => Iff.rfl
  · rintro ⟨hendpoints, hidentities, hpeers, hdest, hstatus, hredirect, hversion, hcipher, hcert⟩
    exact ⟨hendpoints, hidentities, fun _ _ => hpeers,
      fun _ _ => ⟨hdest, hstatus, hredirect⟩, fun _ _ => ⟨hversion, hcipher, hcert⟩⟩

end

/-- The surfaces with a change listed are those where some projection of the facts is another. -/
theorem compare_unlisted_iff {world : DriftWorld} {plan : AttackSurfaceDriftPlan} {scope : Scope}
    {now : Time} {baseline current : AttackSurfaceInventory} {report : AttackSurfaceDriftReport}
    (hbaseline : world.load plan.baselineReductionId = .ok baseline)
    (hcurrent : world.load plan.currentReductionId = .ok current)
    (h : world.compare plan scope now = .ok report) (key : Digest) :
    (key ∉ report.listed ↔ ProjectionsAgree (baseline.endpointFacts key)
      (current.endpointFacts key) (baseline.tlsFacts key) (current.tlsFacts key)) ∧
    (baseline.endpointFacts key = current.endpointFacts key →
      baseline.tlsFacts key = current.tlsFacts key → key ∉ report.listed) := by
  simp only [DriftWorld.compare, DriftWorld.boundSources, hbaseline, hcurrent, ok_bind, bind_eq_ok,
    pure_eq_ok, Prod.exists] at h
  obtain ⟨-, -, _, _, ⟨-, -, -, -, hpair⟩, -, -, -, -, old, middle, hold, new, late, hnew, -, -,
    changes, _, hchanges, -, -, hreport⟩ := h
  obtain ⟨rfl, rfl⟩ := Prod.mk.inj hpair
  have hlisted : report.listed = surfacesOf changes := by
    unfold AttackSurfaceDriftReport.create at hreport
    split_ifs at hreport
    cases hreport
    rfl
  have hmem : key ∈ report.listed ↔
      changeKinds (baseline.factsAt key) (current.factsAt key) ≠ [] := by
    rw [hlisted, mem_surfacesOf_changes (each_eq_ok_iff.1 hchanges).1, ← factsOf_gatherFacts hold,
      ← factsOf_gatherFacts hnew]
    constructor
    · rintro (hnil | ⟨-, h⟩)
      · cases hnil
      · exact h
    · intro h
      refine .inr ⟨?_, h⟩
      rw [Table.mem_sortDistinct, List.mem_append]
      by_contra hkey
      push Not at hkey
      rw [FactsByKey.factsOf_of_notMem hkey.1, FactsByKey.factsOf_of_notMem hkey.2] at h
      exact h (by decide)
  have hiff : key ∉ report.listed ↔ ProjectionsAgree (baseline.endpointFacts key)
      (current.endpointFacts key) (baseline.tlsFacts key) (current.tlsFacts key) := by
    rw [hmem, not_not, changeKinds_factsAt_iff]
  refine ⟨hiff, fun hendpoints htls => hiff.2 ?_⟩
  rw [hendpoints, htls]
  exact .refl _ _

end

section

/-! ## Two peers that change places -/

def peerAddresses : List (String × IpForms.Address) :=
  [("10.0.0.1", .v4 0x0a000001), ("10.0.0.2", .v4 0x0a000002)]

/-- `ipaddress` on the two peers. -/
@[reducible] def peerIpaddress : PythonIpaddress where
  parseIp value := (peerAddresses.find? fun entry => entry.1 = value).map Prod.snd
  strIp address := ((peerAddresses.find? fun entry => entry.2 = address).map Prod.fst).getD ""
  mappedClass := IpForms.classOf4
  parse_str value address h := by
    obtain ⟨entry, hentry, rfl⟩ := Option.map_eq_some_iff.mp h
    have hall : ∀ entry ∈ peerAddresses, (peerAddresses.find? fun other => other.1 =
        ((peerAddresses.find? fun other => other.2 = entry.2).map Prod.fst).getD "").map Prod.snd =
          some entry.2 := by decide
    exact hall entry (List.mem_of_find?_eq_some hentry)

attribute [local instance] peerIpaddress

@[reducible] def sampleKeyDigest : CanonicalDigest EndpointKey :=
  ⟨fun key => key.finalUrlDigest ++ key.peerIp⟩

@[reducible] def sampleIdentityDigest : CanonicalDigest ServiceIdentitySnapshot :=
  ⟨fun identity => identity.leafCertificateSha256⟩

attribute [local instance] sampleKeyDigest sampleIdentityDigest

@[reducible] def sampleInventoryDigest : CanonicalDigest AttackSurfaceInventory :=
  ⟨fun inventory => inventory.reductionId⟩

@[reducible] def sampleDriftPlanDigest : CanonicalDigest AttackSurfaceDriftPlan :=
  ⟨fun plan => plan.idempotencyKey⟩

attribute [local instance] sampleInventoryDigest sampleDriftPlanDigest

/-- An endpoint of the one surface : its destination, and whether its peer is the first one. -/
def sampleEndpoint (destination : Bool) (first : Bool) : AttackSurfaceEndpoint where
  requestedUrlDigest := "u"
  finalUrlDigest := if destination then "a" else "b"
  peerIp := if first then "10.0.0.1" else "10.0.0.2"
  statusCodes := [200]
  redirectCounts := [0]
  observationIds := [if destination then "o" else "p"]
  snapshotIds := [if destination then "s" else "t"]
  evidenceRefs := ["e"]
  serviceIdentityIds := []
  firstObservedAt := 1
  lastObservedAt := 1
  isSealed := by cases destination <;> cases first <;> decide

/-- The two destinations : before, the first one is reached at the first peer, and then at the
other. -/
def sampleInventory (before : Bool) : AttackSurfaceInventory where
  reductionId := if before then "q" else "r"
  flowPlanId := "f"
  sourceCheckpointId := "c"
  targetId := "g"
  scopeId := "h"
  scopeVersion := 1
  observationIds := ["o", "p"]
  snapshotIds := ["s", "t"]
  evidenceRefs := ["e"]
  endpoints := [sampleEndpoint true before, sampleEndpoint false !before]
  serviceIdentities := []
  reducedAt := if before then 5 else 6
  isSealed := by cases before <;> decide

def sampleDriftScope : Scope where
  scopeId := "h"
  engagementId := "g"
  version := 1
  validFrom := 0
  validUntil := 100
  repositories := []
  artifacts := []
  networkTargets := []
  allowedTestClasses := []
  deniedActions := []
  approvalRequirements := []
  state := .approved
  window := sampleScope.window

def sampleDriftPlan : AttackSurfaceDriftPlan where
  baselineReductionId := "q"
  baselineInventoryId := "q"
  currentReductionId := "r"
  currentInventoryId := "r"
  targetId := "g"
  scopeId := "h"
  scopeVersion := 1
  limits := ⟨10000, 60000, 30, 3, by decide, by decide, timeout_bounds,
    last_of_three⟩
  createdAt := 10
  deadline := 20
  idempotencyKey := "k"
  distinct := by decide
  deadline_after := by decide

/-- The second inventory has the peers the other way around. -/
def sampleDriftWorld : DriftWorld where
  outcome id :=
    if id = "q" then
      some ⟨"q", sampleInventory true, 1, true, first_of_three, ⟨rfl, rfl⟩⟩
    else if id = "r" then
      some ⟨"r", sampleInventory false, 1, true, first_of_three, ⟨rfl, rfl⟩⟩
    else none
  contains _ := true
  clock _ := 0

/-- The comparison of the two inventories lists nothing. -/
theorem sampleDrift_listed :
    (sampleDriftWorld.compare sampleDriftPlan sampleDriftScope 10).toOption.map
      AttackSurfaceDriftReport.listed = some [] := by
  decide +kernel

theorem sampleDrift_unlisted : ∃ report,
    sampleDriftWorld.compare sampleDriftPlan sampleDriftScope 10 = .ok report ∧
      ProjectionsAgree ((sampleInventory true).endpointFacts "u")
        ((sampleInventory false).endpointFacts "u") ((sampleInventory true).tlsFacts "u")
        ((sampleInventory false).tlsFacts "u") := by
  obtain ⟨report, hreport, hlisted⟩ := exists_ok_of_map sampleDrift_listed
  refine ⟨report, hreport, (compare_unlisted_iff rfl rfl hreport "u").1.1 ?_⟩
  rw [hlisted]
  exact List.not_mem_nil

/-- Each destination is reached at the other peer, and no change of the surface is listed. -/
theorem swapped_peers_unlisted :
    ¬∀ (world : DriftWorld) (plan : AttackSurfaceDriftPlan) (scope : Scope) (now : Time)
      (baseline current : AttackSurfaceInventory) (report : AttackSurfaceDriftReport),
      world.load plan.baselineReductionId = .ok baseline →
      world.load plan.currentReductionId = .ok current →
      world.compare plan scope now = .ok report → ∀ key, key ∉ report.listed →
        baseline.endpointFacts key = current.endpointFacts key ∧
          baseline.tlsFacts key = current.tlsFacts key := by
  intro h
  obtain ⟨report, hreport, hlisted⟩ := exists_ok_of_map sampleDrift_listed
  have hunlisted : "u" ∉ report.listed := by
    rw [hlisted]
    exact List.not_mem_nil
  have hfacts := (h sampleDriftWorld sampleDriftPlan sampleDriftScope 10 (sampleInventory true)
    (sampleInventory false) report rfl rfl hreport "u" hunlisted).1
  have hbefore : (⟨"a", "10.0.0.1", [200], [0]⟩ : EndpointFact) ∈
      (sampleInventory true).endpointFacts "u" :=
    ⟨sampleEndpoint true true, by decide, rfl⟩
  have hafter : ¬∃ endpoint ∈ (sampleInventory false).endpointsAt "u",
      endpoint.fact = ⟨"a", "10.0.0.1", [200], [0]⟩ := by
    decide
  rw [hfacts] at hbefore
  exact hafter hbefore

end

end Surface

end VulnLoom

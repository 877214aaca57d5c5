import VulnLoom.SurfaceModels
import VulnLoom.TimedLoop

/-!
# The reduction of recon observations to an attack surface

The admitted observations of a plan are read in turn. The surfaces are grouped by their endpoints,
and each service identity is an entry of its own. `assemble_eq_ok_iff` : an inventory is assembled
where the checks pass in time and it is the inventory of the observations (`Describes`), which does
not depend on their order (`Describes.perm`).
-/

set_option linter.unusedSectionVars false

namespace VulnLoom

namespace Surface

open TimedLoop

/-! ## Records -/

/-- The exceptions of the reduction service. -/
inductive ReductionError
  /-- `AttackSurfaceReductionRejected` -/
  | rejected (message : String)
  /-- `AttackSurfaceReductionTimedOut` -/
  | timedOut (message : String)
  /-- `RedTeamStoreRejected` -/
  | storeRejected (message : String)
  /-- pydantic's `ValidationError` -/
  | validationError (message : String)
  deriving DecidableEq

structure AttackSurfaceReductionLimits where
  maxObservations : ℕ
  maxEndpoints : ℕ
  maxEvidenceRefs : ℕ
  timeoutSeconds : ℚ
  maxAttempts : ℕ
  maxObservations_bounds : 1 ≤ maxObservations ∧ maxObservations ≤ 10000
  maxEndpoints_bounds : 1 ≤ maxEndpoints ∧ maxEndpoints ≤ 10000
  maxEvidenceRefs_bounds : 1 ≤ maxEvidenceRefs ∧ maxEvidenceRefs ≤ 60000
  timeoutSeconds_bounds : 0 < timeoutSeconds ∧ timeoutSeconds ≤ 300
  maxAttempts_bounds : 1 ≤ maxAttempts ∧ maxAttempts ≤ 3

structure AttackSurfaceReductionPlan where
  flowPlanId : Digest
  sourceCheckpointId : Digest
  targetId : UUID
  scopeId : UUID
  scopeVersion : ℕ
  observationIds : List Digest
  snapshotIds : List Digest
  limits : AttackSurfaceReductionLimits
  createdAt : Time
  deadline : Time
  idempotencyKey : String
  observationIds_length : 1 ≤ observationIds.length ∧ observationIds.length ≤ 10000
  deadline_after : createdAt < deadline
  observationIds_sorted : observationIds.Pairwise (· < ·)
  snapshotIds_sorted : snapshotIds.Pairwise (· < ·)
  paired : observationIds.length = snapshotIds.length
  within : observationIds.length ≤ limits.maxObservations

/-- The fields of an observation before its validator has run. -/
structure RedTeamReconObservationValues where
  actionId : Digest
  outcome : ReconOutcome
  statusCode : Option ℕ
  reasonCode : String
  cleanupComplete : Bool
  sensitiveDataRedacted : Bool
  attackSurface : Option AttackSurfaceSnapshot
  serviceIdentity : Option ServiceIdentitySnapshot
  webResponse : Option WebResponseSnapshot
  observedAt : Time

/-- What `RedTeamReconObservation.sealed` checks. -/
structure RedTeamReconObservationValues.Sealed (values : RedTeamReconObservationValues) : Prop where
  cleanup : values.outcome = .succeeded → values.cleanupComplete = true
  redacted : values.sensitiveDataRedacted = true
  attackSurface : ∀ s ∈ values.attackSurface, values.outcome = .succeeded ∧
    values.statusCode = some s.statusCode ∧ values.actionId = s.actionId
  serviceIdentity : ∀ s ∈ values.serviceIdentity, values.outcome = .succeeded ∧
    values.statusCode = none ∧ values.actionId = s.actionId
  webResponse : ∀ s ∈ values.webResponse, values.outcome = .succeeded ∧
    values.statusCode = some s.statusCode ∧ values.actionId = s.actionId
  one_snapshot : values.attackSurface.isSome.toNat + values.serviceIdentity.isSome.toNat +
    values.webResponse.isSome.toNat ≤ 1

structure RedTeamReconObservation extends RedTeamReconObservationValues where
  isSealed : toRedTeamReconObservationValues.Sealed

/-- The content digests of a reduction, and `sha256(url.encode())`. -/
class ReductionDigests where
  endpointKey : CanonicalDigest EndpointKey
  surface : CanonicalDigest AttackSurfaceSnapshot
  identity : CanonicalDigest ServiceIdentitySnapshot
  observation : CanonicalDigest RedTeamReconObservation
  action : CanonicalDigest RedTeamReconAction
  flowPlan : CanonicalDigest RedTeamFlowPlan
  checkpoint : CanonicalDigest RedTeamCheckpoint
  plan : CanonicalDigest AttackSurfaceReductionPlan
  urlDigest : String → Digest

attribute [reducible, instance] ReductionDigests.endpointKey ReductionDigests.surface
  ReductionDigests.identity ReductionDigests.observation ReductionDigests.action
  ReductionDigests.flowPlan ReductionDigests.checkpoint ReductionDigests.plan

export ReductionDigests (urlDigest)

variable [PythonIpaddress] [ReductionDigests]

def AttackSurfaceReductionPlan.reductionId (plan : AttackSurfaceReductionPlan) : Digest :=
  canonicalDigest plan

def RedTeamReconObservation.observationId (observation : RedTeamReconObservation) : Digest :=
  canonicalDigest observation

def AttackSurfaceSnapshot.snapshotId (snapshot : AttackSurfaceSnapshot) : Digest :=
  canonicalDigest snapshot

/-! ## Admission -/

/-- An observation of a surface or of a service identity. -/
inductive Admitted
  | surface (observation : RedTeamReconObservation) (surface : AttackSurfaceSnapshot)
  | identity (observation : RedTeamReconObservation) (identity : ServiceIdentitySnapshot)

namespace Admitted

def observation : Admitted → RedTeamReconObservation
  | surface observation _ => observation
  | identity observation _ => observation

def snapshotId : Admitted → Digest
  | surface _ snapshot => snapshot.snapshotId
  | identity _ snapshot => snapshot.snapshotId

def evidenceRefs : Admitted → List Digest
  | surface _ snapshot => snapshot.evidenceRefs
  | identity _ snapshot => snapshot.evidenceRefs

def surface? : Admitted → Option (RedTeamReconObservation × AttackSurfaceSnapshot)
  | surface observation snapshot => some (observation, snapshot)
  | identity _ _ => none

def identity? : Admitted → Option (RedTeamReconObservation × ServiceIdentitySnapshot)
  | surface _ _ => none
  | identity observation snapshot => some (observation, snapshot)

end Admitted

/-- What the reducer asks of an observation and its action. -/
def admitObservation (plan : AttackSurfaceReductionPlan) (observation : RedTeamReconObservation)
    (action : RedTeamReconAction) : Except ReductionError Admitted := do
  raiseIf (observation.outcome ≠ .succeeded ∨ observation.cleanupComplete = false ∨
      observation.sensitiveDataRedacted = false ∨ action.planId ≠ plan.flowPlanId ∨
      observation.attackSurface.isNone = observation.serviceIdentity.isNone)
    (.rejected "Attack Surface observation provenance is invalid")
  match observation.attackSurface, observation.serviceIdentity with
  | some surface, _ =>
    raiseIf (action.kind ≠ .httpHead ∨ surface.planId ≠ plan.flowPlanId ∨
        surface.actionId ≠ action.actionId ∨ surface.targetId ≠ plan.targetId ∨
        surface.scopeId ≠ plan.scopeId ∨ surface.scopeVersion ≠ plan.scopeVersion ∨
        surface.requestedUrlDigest ≠ urlDigest action.targetUrl ∨
        surface.capturedAt ≠ observation.observedAt)
      (.rejected "Attack Surface observation provenance is invalid")
    return .surface observation surface
  | none, some identity =>
    raiseIf (action.kind ≠ .tlsInspect ∨ identity.planId ≠ plan.flowPlanId ∨
        identity.actionId ≠ action.actionId ∨ identity.targetId ≠ plan.targetId ∨
        identity.scopeId ≠ plan.scopeId ∨ identity.scopeVersion ≠ plan.scopeVersion ∨
        identity.endpointUrlDigest ≠ urlDigest action.targetUrl ∨
        identity.capturedAt ≠ observation.observedAt)
      (.rejected "Attack Surface service identity provenance is invalid")
    return .identity observation identity
  | none, none =>
    -- Excluded above.
    throw (.rejected "Attack Surface observation provenance is invalid")

/-- What the reducer reads : the store of the flow and the evidence store. -/
structure ReductionWorld where
  plan : Digest → Option RedTeamFlowPlan
  latest : Digest → Option RedTeamCheckpoint
  observation : Digest → Option RedTeamReconObservation
  action : Digest → Option RedTeamReconAction
  contains : Digest → Bool
  observation_id : ∀ {id o}, observation id = some o → o.observationId = id

namespace ReductionWorld

variable (world : ReductionWorld)

/-- What `_flow_binding` asks. -/
def FlowBound (flowPlan : RedTeamFlowPlan) (checkpoint : RedTeamCheckpoint) (scope : Scope)
    (now : Time) : Prop :=
  scope.state = .approved ∧ (scope.validFrom ≤ now ∧ now < scope.validUntil) ∧
    world.plan flowPlan.planId = some flowPlan ∧
    world.latest flowPlan.planId = some checkpoint ∧
    flowPlan.rules.scopeId = scope.scopeId ∧ flowPlan.rules.scopeVersion = scope.version ∧
    flowPlan.rules.targetId = flowPlan.target.targetId

instance (flowPlan : RedTeamFlowPlan) (checkpoint : RedTeamCheckpoint) (scope : Scope)
    (now : Time) : Decidable (world.FlowBound flowPlan checkpoint scope now) :=
  inferInstanceAs (Decidable (_ ∧ _))

/-- `_current_binding`. -/
def currentBinding (plan : AttackSurfaceReductionPlan) (scope : Scope) (now : Time) :
    Except ReductionError Unit := do
  raiseIf (¬(plan.createdAt ≤ now ∧ now < plan.deadline))
    (.rejected "Attack Surface reduction plan is not active")
  let flowPlan ← orRaise (world.plan plan.flowPlanId)
    (.storeRejected "Red Team plan is unavailable")
  let checkpoint ← orRaise (world.latest flowPlan.planId)
    (.storeRejected "Red Team checkpoint is unavailable")
  raiseIf (¬world.FlowBound flowPlan checkpoint scope now)
    (.rejected "Attack Surface reduction requires current Flow and approved Scope")
  raiseIf (checkpoint.checkpointId ≠ plan.sourceCheckpointId ∨
      flowPlan.target.targetId ≠ plan.targetId ∨ scope.scopeId ≠ plan.scopeId ∨
      scope.version ≠ plan.scopeVersion)
    (.rejected "Attack Surface reduction binding drifted")

/-- An observation is loaded with its action, and admitted. -/
def fetch (plan : AttackSurfaceReductionPlan) (id : Digest) : Except ReductionError Admitted := do
  let observation ← orRaise (world.observation id)
    (.storeRejected "Red Team observation is unavailable")
  let action ← orRaise (world.action observation.actionId)
    (.storeRejected "Red Team completed action is unavailable")
  admitObservation plan observation action

end ReductionWorld

/-! ## Grouping -/

section

variable (items : List Admitted)

def surfacesIn : List (RedTeamReconObservation × AttackSurfaceSnapshot) :=
  items.filterMap Admitted.surface?

def identitiesIn : List (RedTeamReconObservation × ServiceIdentitySnapshot) :=
  items.filterMap Admitted.identity?

/-- `actual_snapshot_ids`, before they are sorted. -/
def snapshotIdsIn : List Digest :=
  (surfacesIn items).map (fun record => record.2.snapshotId) ++
    (identitiesIn items).map fun record => record.2.snapshotId

/-- The keys of `grouped`, in the order they are set. -/
def keysIn : List EndpointKey :=
  ((surfacesIn items).map fun record => record.2.endpointKey).reverse.dedup.reverse

/-- `grouped[key]`. -/
def recordsAt (key : EndpointKey) : List (RedTeamReconObservation × AttackSurfaceSnapshot) :=
  (surfacesIn items).filter fun record => record.2.endpointKey = key

/-- The distinct status codes of an endpoint. -/
def statusCodesAt (key : EndpointKey) : List ℕ :=
  Table.sortDistinct ((recordsAt items key).map fun record => record.2.statusCode)

/-- What an endpoint is made of. -/
def endpointValues (key : EndpointKey) : AttackSurfaceEndpointValues :=
  let records := recordsAt items key
  { requestedUrlDigest := key.requestedUrlDigest
    finalUrlDigest := key.finalUrlDigest
    peerIp := key.peerIp
    statusCodes := statusCodesAt items key
    redirectCounts := Table.sortDistinct (records.map fun record => record.2.redirectCount)
    observationIds := Table.orderBy id (records.map fun record => record.1.observationId)
    snapshotIds := Table.orderBy id (records.map fun record => record.2.snapshotId)
    evidenceRefs := Table.sortDistinct (records.flatMap fun record => record.2.evidenceRefs)
    serviceIdentityIds := Table.orderBy id (((identitiesIn items).filter fun record =>
      record.2.endpointUrlDigest = key.requestedUrlDigest ∧ record.2.peerIp = key.peerIp).map
        fun record => record.2.snapshotId)
    firstObservedAt := (records.map fun record => record.1.observedAt).min?.getD 0
    lastObservedAt := (records.map fun record => record.1.observedAt).max?.getD 0 }

end

/-- `AttackSurfaceEndpoint.create`. -/
def AttackSurfaceEndpoint.create (values : AttackSurfaceEndpointValues) :
    Except ReductionError AttackSurfaceEndpoint :=
  if h : values.Sealed then .ok ⟨values, h⟩
  else .error (.validationError "Attack Surface endpoint facts are not canonical")

/-- The constructor of `AttackSurfaceServiceIdentity`. -/
def AttackSurfaceServiceIdentity.create (observationId : Digest)
    (identity : ServiceIdentitySnapshot) : Except ReductionError AttackSurfaceServiceIdentity :=
  if h : observationId ≠ identity.snapshotId then .ok ⟨observationId, identity, h⟩
  else .error
    (.validationError "Service identity observation and snapshot must be distinct")

/-- `AttackSurfaceInventory.create`. -/
def AttackSurfaceInventory.create (values : AttackSurfaceInventoryValues) :
    Except ReductionError AttackSurfaceInventory :=
  if h : values.Sealed then .ok ⟨values, h⟩
  else .error (.validationError "Attack Surface inventory facts are not canonical")

/-- What `_ReductionDeadline.check` raises. -/
def reductionTimedOut : ReductionError :=
  .timedOut "Attack Surface reduction timed out"

namespace ReductionWorld

variable (world : ReductionWorld) (plan : AttackSurfaceReductionPlan)

/-- What the reducer checks of the observations as a whole. -/
def checkItems (items : List Admitted) : Except ReductionError Unit := do
  raiseIf (Table.orderBy id (snapshotIdsIn items) ≠ plan.snapshotIds)
    (.rejected "Attack Surface snapshot binding mismatch")
  raiseIf (plan.limits.maxEvidenceRefs <
      (Table.sortDistinct (items.flatMap Admitted.evidenceRefs)).length)
    (.rejected "Attack Surface Evidence budget exceeded")
  raiseIf (¬∀ ref ∈ items.flatMap Admitted.evidenceRefs, world.contains ref = true)
    (.rejected "Attack Surface Evidence integrity failed")
  raiseIf (plan.limits.maxEndpoints < (keysIn items).length)
    (.rejected "Attack Surface endpoint budget exceeded")

/-- What an inventory is made of. -/
def inventoryValues (items : List Admitted) (endpoints : List AttackSurfaceEndpoint)
    (serviceIdentities : List AttackSurfaceServiceIdentity) : AttackSurfaceInventoryValues where
  reductionId := plan.reductionId
  flowPlanId := plan.flowPlanId
  sourceCheckpointId := plan.sourceCheckpointId
  targetId := plan.targetId
  scopeId := plan.scopeId
  scopeVersion := plan.scopeVersion
  observationIds := plan.observationIds
  snapshotIds := plan.snapshotIds
  evidenceRefs := Table.sortDistinct (items.flatMap Admitted.evidenceRefs)
  endpoints := Table.orderBy (fun endpoint => endpoint.endpointId) endpoints
  serviceIdentities := Table.orderBy (fun entry => entry.identity.snapshotId) serviceIdentities
  reducedAt := plan.createdAt

/-- The entry of a service identity. -/
def identityEntry (record : RedTeamReconObservation × ServiceIdentitySnapshot) :
    Except ReductionError AttackSurfaceServiceIdentity :=
  AttackSurfaceServiceIdentity.create record.1.observationId record.2

/-- The inventory of the observations. -/
def assemble (items : List Admitted) (deadline : Deadline) :
    Except ReductionError AttackSurfaceInventory := do
  world.checkItems plan items
  let (endpoints, deadline) ← each reductionTimedOut
    (keep fun key => AttackSurfaceEndpoint.create (endpointValues items key)) deadline []
    (keysIn items)
  let _ ← deadline.check reductionTimedOut
  let serviceIdentities ← (identitiesIn items).mapM identityEntry
  AttackSurfaceInventory.create (inventoryValues plan items endpoints serviceIdentities)

/-- `_reduce`, of the observations in some order. -/
def reduceOver (scope : Scope) (now : Time) (clock : ℕ → ℚ) (ids : List Digest) :
    Except ReductionError AttackSurfaceInventory := do
  world.currentBinding plan scope now
  let (items, deadline) ← each reductionTimedOut (keep (world.fetch plan))
    (.start plan.limits.timeoutSeconds clock) [] ids
  world.assemble plan items deadline

/-- `_reduce`. The readings of the clock are given in turn. -/
def reduce (scope : Scope) (now : Time) (clock : ℕ → ℚ) :
    Except ReductionError AttackSurfaceInventory :=
  world.reduceOver plan scope now clock plan.observationIds

end ReductionWorld

/-! ## What an inventory says -/

/-- What an entry is told by. -/
def AttackSurfaceServiceIdentity.told (entry : AttackSurfaceServiceIdentity) :
    Digest × ServiceIdentitySnapshot :=
  (entry.observationId, entry.identity)

section

variable (plan : AttackSurfaceReductionPlan) (items : List Admitted)
  (inventory : AttackSurfaceInventory)

/-- The inventory is that of the plan and its observations : an endpoint for each key and an entry
for each service identity, both in the order of their identifiers. -/
structure Describes : Prop where
  reductionId : inventory.reductionId = plan.reductionId
  flowPlanId : inventory.flowPlanId = plan.flowPlanId
  sourceCheckpointId : inventory.sourceCheckpointId = plan.sourceCheckpointId
  targetId : inventory.targetId = plan.targetId
  scopeId : inventory.scopeId = plan.scopeId
  scopeVersion : inventory.scopeVersion = plan.scopeVersion
  observationIds : inventory.observationIds = plan.observationIds
  snapshotIds : inventory.snapshotIds = plan.snapshotIds
  evidenceRefs : inventory.evidenceRefs =
    Table.sortDistinct (items.flatMap Admitted.evidenceRefs)
  endpoints : inventory.endpoints.map AttackSurfaceEndpoint.toAttackSurfaceEndpointValues =
    (Table.orderBy canonicalDigest (keysIn items)).map (endpointValues items)
  serviceIdentities :
    inventory.serviceIdentities.map AttackSurfaceServiceIdentity.told =
      Table.orderBy (fun entry => entry.2.snapshotId)
        ((identitiesIn items).map fun record => (record.1.observationId, record.2))
  reducedAt : inventory.reducedAt = plan.createdAt

/-- An observation has one place : a surface in the endpoint of its key and in no other endpoint,
a service identity in one entry. -/
def Placed : Admitted → Prop
  | .surface observation surface =>
    (∃ endpoint ∈ inventory.endpoints, endpoint.key = surface.endpointKey ∧
      observation.observationId ∈ endpoint.observationIds ∧
      surface.snapshotId ∈ endpoint.snapshotIds ∧
      ∀ other ∈ inventory.endpoints, observation.observationId ∈ other.observationIds ∨
        surface.snapshotId ∈ other.snapshotIds → other = endpoint) ∧
    ∀ entry ∈ inventory.serviceIdentities, entry.observationId ≠ observation.observationId ∧
      entry.identity.snapshotId ≠ surface.snapshotId
  | .identity observation identity =>
    (∃ entry ∈ inventory.serviceIdentities, entry.observationId = observation.observationId ∧
      entry.identity = identity ∧
      ∀ other ∈ inventory.serviceIdentities, other.observationId = observation.observationId ∨
        other.identity.snapshotId = identity.snapshotId → other = entry) ∧
    ∀ endpoint ∈ inventory.endpoints, observation.observationId ∉ endpoint.observationIds ∧
      identity.snapshotId ∉ endpoint.snapshotIds

/-- The validators of the records of an inventory take these observations. -/
structure Recordable : Prop where
  statusCodes : ∀ key ∈ keysIn items, (statusCodesAt items key).length ≤ 100
  peers : ∀ record ∈ surfacesIn items, NormalizedIp record.2.peerIp
  endpointIds : ∀ key ∈ keysIn items, ∀ key' ∈ keysIn items,
    (canonicalDigest key : Digest) = canonicalDigest key' → key = key'
  identities : ∀ record ∈ identitiesIn items, record.1.observationId ≠ record.2.snapshotId

end

/-! ## Order -/

section Order

variable {items items' : List Admitted}

theorem min?_eq_of_perm {l l' : List ℕ} (h : l.Perm l') : l.min? = l'.min? := by
  induction h with
  | nil => rfl
  | cons a _ ih => rw [List.min?_cons, List.min?_cons, ih]
  | swap a b l =>
    cases h : l.min? <;> simp [List.min?_cons, h, min_comm, min_left_comm]
  | trans _ _ ih ih' => exact ih.trans ih'

theorem max?_eq_of_perm {l l' : List ℕ} (h : l.Perm l') : l.max? = l'.max? := by
  induction h with
  | nil => rfl
  | cons a _ ih => rw [List.max?_cons, List.max?_cons, ih]
  | swap a b l =>
    cases h : l.max? <;> simp [List.max?_cons, h, max_comm, max_left_comm]
  | trans _ _ ih ih' => exact ih.trans ih'

theorem orderBy_id_eq_of_perm {l l' : List Digest} (h : l.Perm l') :
    Table.orderBy id l = Table.orderBy id l' :=
  Table.orderBy_eq_of_perm id h fun _ _ _ _ hab => hab

theorem mem_keysIn {items : List Admitted} {key : EndpointKey} :
    key ∈ keysIn items ↔ ∃ record ∈ surfacesIn items, record.2.endpointKey = key := by
  rw [keysIn, List.mem_reverse, List.mem_dedup, List.mem_reverse, List.mem_map]

theorem keysIn_perm (h : items.Perm items') : (keysIn items).Perm (keysIn items') := by
  have hkeys := (h.filterMap Admitted.surface?).map fun record => record.2.endpointKey
  refine (List.reverse_perm _).trans (List.Perm.trans ?_ (List.reverse_perm _).symm)
  exact ((List.reverse_perm _).trans (hkeys.trans (List.reverse_perm _).symm)).dedup

theorem endpointValues_eq_of_perm (h : items.Perm items') (key : EndpointKey) :
    endpointValues items key = endpointValues items' key := by
  have hrecords : (recordsAt items key).Perm (recordsAt items' key) :=
    (h.filterMap Admitted.surface?).filter _
  have hidentities := (h.filterMap Admitted.identity?).filter fun record =>
    record.2.endpointUrlDigest = key.requestedUrlDigest ∧ record.2.peerIp = key.peerIp
  simp only [endpointValues, AttackSurfaceEndpointValues.mk.injEq, true_and]
  refine ⟨Table.sortDistinct_congr fun _ => (hrecords.map _).mem_iff,
    Table.sortDistinct_congr fun _ => (hrecords.map _).mem_iff,
    orderBy_id_eq_of_perm (hrecords.map _), orderBy_id_eq_of_perm (hrecords.map _),
    Table.sortDistinct_congr fun _ => (hrecords.flatMap_right _).mem_iff,
    orderBy_id_eq_of_perm (hidentities.map _), ?_, ?_⟩
  · rw [min?_eq_of_perm (hrecords.map _)]
  · rw [max?_eq_of_perm (hrecords.map _)]

end Order

/-! ## What is assembled -/

theorem AttackSurfaceEndpoint.values_injective : Function.Injective
    AttackSurfaceEndpoint.toAttackSurfaceEndpointValues := by
  intro a b h
  cases a
  cases b
  cases h
  rfl

theorem AttackSurfaceServiceIdentity.told_injective :
    Function.Injective AttackSurfaceServiceIdentity.told := by
  intro a b h
  cases a
  cases b
  cases h
  rfl

theorem forall₂_map_eq_iff {α β γ : Type} {f : α → γ} {g : β → γ} {as : List α} {bs : List β} :
    List.Forall₂ (fun a b => g b = f a) as bs ↔ bs.map g = as.map f := by
  rw [@eq_comm _ (bs.map g), ← List.forall₂_eq_eq_eq, List.forall₂_map_left_iff,
    List.forall₂_map_right_iff]
  simp only [eq_comm]

theorem exists_map_eq {α β γ : Type} {f : α → γ} {g : β → γ} : ∀ {as : List α},
    (∀ a ∈ as, ∃ b, g b = f a) → ∃ bs : List β, bs.map g = as.map f
  | [], _ => ⟨[], rfl⟩
  | a :: as, h => by
    obtain ⟨b, hb⟩ := h a List.mem_cons_self
    obtain ⟨bs, hbs⟩ := exists_map_eq fun a' ha' => h a' (List.mem_cons_of_mem _ ha')
    exact ⟨b :: bs, by rw [List.map_cons, List.map_cons, hb, hbs]⟩

section Assembly

variable {world : ReductionWorld} {plan : AttackSurfaceReductionPlan} {items : List Admitted}
  {inventory : AttackSurfaceInventory}

theorem AttackSurfaceEndpoint.create_eq_ok {values : AttackSurfaceEndpointValues}
    {endpoint : AttackSurfaceEndpoint} : AttackSurfaceEndpoint.create values = .ok endpoint ↔
      endpoint.toAttackSurfaceEndpointValues = values := by
  unfold create
  constructor
  · intro h
    split_ifs at h
    cases h
    rfl
  · rintro rfl
    rw [dif_pos endpoint.isSealed]

theorem AttackSurfaceServiceIdentity.create_eq_ok {observationId : Digest}
    {identity : ServiceIdentitySnapshot} {entry : AttackSurfaceServiceIdentity} :
    AttackSurfaceServiceIdentity.create observationId identity = .ok entry ↔
      entry.told = (observationId, identity) := by
  unfold create
  constructor
  · intro h
    split_ifs at h
    cases h
    rfl
  · intro h
    obtain ⟨rfl, rfl⟩ := Prod.mk.inj h
    rw [dif_pos entry.bound]

theorem AttackSurfaceInventory.create_eq_ok {values : AttackSurfaceInventoryValues} :
    AttackSurfaceInventory.create values = .ok inventory ↔
      inventory.toAttackSurfaceInventoryValues = values := by
  unfold create
  constructor
  · intro h
    split_ifs at h
    cases h
    rfl
  · rintro rfl
    rw [dif_pos inventory.isSealed]

/-- The endpoints in the order of their identifiers. -/
theorem map_values_orderBy {endpoints : List AttackSurfaceEndpoint}
    (h : endpoints.map AttackSurfaceEndpoint.toAttackSurfaceEndpointValues =
      (keysIn items).map (endpointValues items)) :
    (Table.orderBy (fun endpoint => endpoint.endpointId) endpoints).map
        AttackSurfaceEndpoint.toAttackSurfaceEndpointValues =
      (Table.orderBy canonicalDigest (keysIn items)).map (endpointValues items) := by
  have hvalues : (Table.orderBy (fun endpoint => endpoint.endpointId) endpoints).map
      AttackSurfaceEndpoint.toAttackSurfaceEndpointValues =
      Table.orderBy (fun values : AttackSurfaceEndpointValues => canonicalDigest (EndpointKey.mk
          values.requestedUrlDigest values.finalUrlDigest values.peerIp))
        (endpoints.map AttackSurfaceEndpoint.toAttackSurfaceEndpointValues) :=
    Table.map_orderBy _ fun _ _ => rfl
  have hkeys : (Table.orderBy canonicalDigest (keysIn items)).map (endpointValues items) =
      Table.orderBy (fun values : AttackSurfaceEndpointValues => canonicalDigest (EndpointKey.mk
          values.requestedUrlDigest values.finalUrlDigest values.peerIp))
        ((keysIn items).map (endpointValues items)) :=
    Table.map_orderBy _ fun _ _ => rfl
  rw [hvalues, h, hkeys]

/-- The entries in the order of their snapshots. -/
theorem map_told_orderBy {entries : List AttackSurfaceServiceIdentity}
    (h : entries.map AttackSurfaceServiceIdentity.told =
      (identitiesIn items).map (fun record => (record.1.observationId, record.2))) :
    (Table.orderBy (fun entry => entry.identity.snapshotId) entries).map
        AttackSurfaceServiceIdentity.told =
      Table.orderBy (fun entry => entry.2.snapshotId)
        ((identitiesIn items).map fun record => (record.1.observationId, record.2)) := by
  rw [← h]
  exact Table.map_orderBy _ fun _ _ => rfl

/-- The parts that an inventory is assembled of. -/
theorem assemble_eq_ok {deadline : Deadline} :
    world.assemble plan items deadline = .ok inventory ↔
      world.checkItems plan items = .ok () ∧ deadline.InTime ((keysIn items).length + 1) ∧
        ∃ endpoints entries,
          endpoints.map AttackSurfaceEndpoint.toAttackSurfaceEndpointValues =
            (keysIn items).map (endpointValues items) ∧
          entries.map AttackSurfaceServiceIdentity.told =
            (identitiesIn items).map (fun record => (record.1.observationId, record.2)) ∧
          inventory.toAttackSurfaceInventoryValues =
            ReductionWorld.inventoryValues plan items endpoints entries := by
  simp only [ReductionWorld.assemble, bind_eq_ok, Prod.exists, each_eq_ok_iff,
    plain_keep_eq_ok_iff, Deadline.check_eq_ok_iff, mapM_eq_ok, List.nil_append,
    ReductionWorld.identityEntry, AttackSurfaceEndpoint.create_eq_ok,
    AttackSurfaceServiceIdentity.create_eq_ok, AttackSurfaceInventory.create_eq_ok,
    forall₂_map_eq_iff, deadline.inTime_add]
  constructor
  · rintro ⟨_, hcheck, endpoints, _, ⟨⟨_, hendpoints, rfl⟩, hin, rfl⟩, _, ⟨hin', -⟩, entries,
      hentries, hvalues⟩
    exact ⟨hcheck, ⟨hin, hin'⟩, endpoints, entries, hendpoints, hentries, hvalues⟩
  · rintro ⟨hcheck, ⟨hin, hin'⟩, endpoints, entries, hendpoints, hentries, hvalues⟩
    exact ⟨(), hcheck, endpoints, _, ⟨⟨_, hendpoints, rfl⟩, hin, rfl⟩, _, ⟨hin', rfl⟩, entries,
      hentries, hvalues⟩

theorem describes_iff : (∃ endpoints entries,
      endpoints.map AttackSurfaceEndpoint.toAttackSurfaceEndpointValues =
        (keysIn items).map (endpointValues items) ∧
      entries.map AttackSurfaceServiceIdentity.told =
        (identitiesIn items).map (fun record => (record.1.observationId, record.2)) ∧
      inventory.toAttackSurfaceInventoryValues =
        ReductionWorld.inventoryValues plan items endpoints entries) ↔
    Describes plan items inventory := by
  constructor
  · rintro ⟨endpoints, entries, hendpoints, hentries, hvalues⟩
    refine ⟨congrArg _ hvalues, congrArg _ hvalues, congrArg _ hvalues, congrArg _ hvalues,
      congrArg _ hvalues, congrArg _ hvalues, congrArg _ hvalues, congrArg _ hvalues,
      congrArg _ hvalues, ?_, ?_, congrArg _ hvalues⟩
    · rw [hvalues, ← map_values_orderBy hendpoints]
      rfl
    · rw [hvalues, ← map_told_orderBy hentries]
      rfl
  · intro h
    obtain ⟨endpoints, hendpoints⟩ : ∃ endpoints : List AttackSurfaceEndpoint,
        endpoints.map AttackSurfaceEndpoint.toAttackSurfaceEndpointValues =
          (keysIn items).map (endpointValues items) := by
      refine exists_map_eq fun key hkey => ?_
      have hmem : endpointValues items key ∈ inventory.endpoints.map
          AttackSurfaceEndpoint.toAttackSurfaceEndpointValues := by
        rw [h.endpoints]
        exact List.mem_map_of_mem ((Table.mem_orderBy _).2 hkey)
      obtain ⟨endpoint, -, heq⟩ := List.mem_map.1 hmem
      exact ⟨endpoint, heq⟩
    obtain ⟨entries, hentries⟩ : ∃ entries : List AttackSurfaceServiceIdentity,
        entries.map AttackSurfaceServiceIdentity.told =
          (identitiesIn items).map (fun record => (record.1.observationId, record.2)) := by
      refine exists_map_eq fun record hrecord => ?_
      have hmem : (record.1.observationId, record.2) ∈ inventory.serviceIdentities.map
          AttackSurfaceServiceIdentity.told := by
        rw [h.serviceIdentities]
        exact (Table.mem_orderBy _).2 (List.mem_map_of_mem hrecord)
      obtain ⟨entry, -, heq⟩ := List.mem_map.1 hmem
      exact ⟨entry, heq⟩
    have hendpoints' : inventory.endpoints =
        Table.orderBy (fun endpoint => endpoint.endpointId) endpoints :=
      List.map_injective_iff.2 AttackSurfaceEndpoint.values_injective
        (h.endpoints.trans (map_values_orderBy hendpoints).symm)
    have hentries' : inventory.serviceIdentities =
        Table.orderBy (fun entry => entry.identity.snapshotId) entries :=
      List.map_injective_iff.2 AttackSurfaceServiceIdentity.told_injective
        (h.serviceIdentities.trans (map_told_orderBy hentries).symm)
    refine ⟨endpoints, entries, hendpoints, hentries, ?_⟩
    rw [ReductionWorld.inventoryValues, ← h.reductionId, ← h.flowPlanId, ← h.sourceCheckpointId,
      ← h.targetId, ← h.scopeId, ← h.scopeVersion, ← h.observationIds, ← h.snapshotIds,
      ← h.evidenceRefs, ← hendpoints', ← hentries', ← h.reducedAt]

/-- An inventory is assembled where the checks pass in time and the inventory describes it. -/
theorem assemble_eq_ok_iff {deadline : Deadline} :
    world.assemble plan items deadline = .ok inventory ↔
      world.checkItems plan items = .ok () ∧ deadline.InTime ((keysIn items).length + 1) ∧
        Describes plan items inventory := by
  rw [assemble_eq_ok, describes_iff]

/-- The identifiers of the endpoints are those of the keys. -/
theorem Describes.endpointIds (h : Describes plan items inventory) :
    inventory.endpoints.map (fun endpoint => endpoint.endpointId) =
      (Table.orderBy canonicalDigest (keysIn items)).map canonicalDigest := by
  have hmap := congrArg (List.map fun values : AttackSurfaceEndpointValues => canonicalDigest
    (EndpointKey.mk values.requestedUrlDigest values.finalUrlDigest values.peerIp)) h.endpoints
  rw [List.map_map, List.map_map] at hmap
  exact hmap

theorem Describes.identityIds (h : Describes plan items inventory) :
    inventory.identityIds = (Table.orderBy (fun entry => entry.2.snapshotId)
      ((identitiesIn items).map fun record => (record.1.observationId, record.2))).map
        fun entry => entry.2.snapshotId := by
  rw [← h.serviceIdentities, List.map_map]
  rfl

/-- The digest tells the keys of an inventory apart. -/
theorem Describes.key_eq (h : Describes plan items inventory) {key key' : EndpointKey}
    (hkey : key ∈ keysIn items) (hkey' : key' ∈ keysIn items)
    (heq : (canonicalDigest key : Digest) = canonicalDigest key') : key = key' := by
  have hnodup := inventory.isSealed.endpoints_sorted.imp ne_of_lt
  rw [h.endpointIds] at hnodup
  exact Table.eq_of_key hnodup ((Table.mem_orderBy _).2 hkey) ((Table.mem_orderBy _).2 hkey') heq

/-- The order of the observations does not matter to what an inventory describes. -/
theorem Describes.perm {items' : List Admitted} (h : Describes plan items inventory)
    (hperm : items.Perm items') : Describes plan items' inventory := by
  refine ⟨h.reductionId, h.flowPlanId, h.sourceCheckpointId, h.targetId, h.scopeId,
    h.scopeVersion, h.observationIds, h.snapshotIds, ?_, ?_, ?_, h.reducedAt⟩
  · rw [h.evidenceRefs]
    exact Table.sortDistinct_congr fun _ => (hperm.flatMap_right _).mem_iff
  · rw [h.endpoints, Table.orderBy_eq_of_perm _ (keysIn_perm hperm) fun key hkey key' hkey' =>
      h.key_eq hkey hkey']
    exact List.map_congr_left fun key _ => endpointValues_eq_of_perm hperm key
  · rw [h.serviceIdentities]
    have hnodup : inventory.identityIds.Nodup :=
      inventory.isSealed.serviceIdentities_sorted.imp ne_of_lt
    rw [h.identityIds] at hnodup
    refine Table.orderBy_eq_of_perm _ ((hperm.filterMap _).map _) fun a ha b hb heq => ?_
    exact Table.eq_of_key hnodup ((Table.mem_orderBy _).2 ha) ((Table.mem_orderBy _).2 hb) heq

/-- The validators take the observations of an inventory. -/
theorem Describes.recordable (h : Describes plan items inventory) : Recordable items := by
  have hsealed : ∀ key ∈ keysIn items, (endpointValues items key).Sealed := by
    intro key hkey
    have hmem : endpointValues items key ∈ inventory.endpoints.map
        AttackSurfaceEndpoint.toAttackSurfaceEndpointValues := by
      rw [h.endpoints]
      exact List.mem_map_of_mem ((Table.mem_orderBy _).2 hkey)
    obtain ⟨endpoint, -, heq⟩ := List.mem_map.1 hmem
    exact heq ▸ endpoint.isSealed
  refine ⟨fun key hkey => (hsealed key hkey).statusCodes_length.2, fun record hrecord => ?_,
    fun key hkey key' hkey' => h.key_eq hkey hkey', fun record hrecord => ?_⟩
  · exact (hsealed record.2.endpointKey (mem_keysIn.2 ⟨record, hrecord, rfl⟩)).peerIp_normalized
  · have hmem : (record.1.observationId, record.2) ∈ inventory.serviceIdentities.map
        AttackSurfaceServiceIdentity.told := by
      rw [h.serviceIdentities]
      exact (Table.mem_orderBy _).2 (List.mem_map_of_mem hrecord)
    obtain ⟨entry, -, heq⟩ := List.mem_map.1 hmem
    obtain ⟨hid, hidentity⟩ := Prod.mk.inj heq
    rw [← hid, ← hidentity]
    exact entry.bound

end Assembly

end Surface

end VulnLoom

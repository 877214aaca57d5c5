import Mathlib.Data.List.Pairwise
import VulnLoom.Doubles
import VulnLoom.FlowModels

/-!
# Endpoint recon contracts

The seed sets that an operator seals, the plans that request their endpoints one by one, and
the reservation of a plan on the action budget of its flow, with the pure transitions of that
reservation. A number of seconds is a rational number. The results of the steps of an outcome
are left out.
-/

namespace VulnLoom

/-- The exceptions of the endpoint recon modules, with their messages. -/
inductive EndpointReconError
  /-- `EndpointReconRejected` -/
  | rejected (message : String)
  /-- `EndpointSeedIdempotencyConflict` -/
  | idempotencyConflict (message : String)
  /-- `EndpointReconRecoveryRequired` -/
  | recoveryRequired (message : String)
  /-- `EndpointReconReservationTransitionRejected` -/
  | transitionRejected (message : String)
  /-- pydantic's `ValidationError` -/
  | validationError (message : String)
  | valueError
  /-- an `OverflowError` of a `datetime` -/
  | overflow
  /-- `sqlite3.IntegrityError` -/
  | integrityError
  /-- an exception of the Red Team modules -/
  | flow (e : RedTeamError)
  deriving DecidableEq

inductive EndpointReconRunState
  | started
  | completed
  deriving DecidableEq

inductive EndpointReconReservationState
  | active
  | consumed
  | cancelled
  | expired
  deriving DecidableEq

inductive EndpointReconOutcomeKind
  | succeeded
  | rejected
  | timedOut
  | failed
  deriving DecidableEq

inductive EndpointMethod
  | head
  | get
  deriving DecidableEq

/-- `[a-z][a-z0-9_.-]{0,127}`. -/
def isReasonCode (code : String) : Bool :=
  match code.toList with
  | [] => false
  | c :: cs => ('a' ≤ c ∧ c ≤ 'z') ∧ cs.length ≤ 127 ∧
      ∀ c ∈ cs, ('a' ≤ c ∧ c ≤ 'z') ∨ ('0' ≤ c ∧ c ≤ '9') ∨ c ∈ ['_', '.', '-']

/-! ## Seeds -/

structure EndpointSeed where
  path : String
  deriving DecidableEq

/-- The seeds are ordered by their paths, without repetitions. -/
@[ext]
structure EndpointSeedSet where
  flowPlanId : Digest
  sourceCheckpointId : Digest
  targetId : UUID
  scopeId : UUID
  scopeVersion : ℕ
  operatorRef : String
  seeds : List EndpointSeed
  sealedAt : Time
  expiresAt : Time
  idempotencyKey : String
  length_bounds : 1 ≤ seeds.length ∧ seeds.length ≤ 1000
  ordered : seeds.Pairwise fun a b => a.path < b.path
  active : sealedAt < expiresAt

instance : DecidableEq EndpointSeedSet := fun _ _ => decidable_of_iff _ EndpointSeedSet.ext_iff.symm

/-! ## Plans -/

structure EndpointReconLimits where
  maxSteps : ℕ
  maxRequests : ℕ
  perRequestSeconds : ℚ
  totalSeconds : ℚ
  maxAttempts : ℕ
  coherent : perRequestSeconds ≤ totalSeconds
  deriving DecidableEq

structure EndpointReconStep where
  seedId : Digest
  ordinal : ℕ
  targetUrl : String
  method : EndpointMethod
  deriving DecidableEq

/-- The fields of a plan before its validator has run. -/
structure EndpointReconPlanValues where
  seedSetId : Digest
  flowPlanId : Digest
  sourceCheckpointId : Digest
  targetId : UUID
  scopeId : UUID
  scopeVersion : ℕ
  testClass : String
  steps : List EndpointReconStep
  limits : EndpointReconLimits
  createdAt : Time
  deadline : Time
  idempotencyKey : String
  deriving DecidableEq

/-- What `EndpointReconPlan.sealed` checks. -/
@[mk_iff]
structure EndpointReconPlanValues.Sealed (values : EndpointReconPlanValues) : Prop where
  length_bounds : 1 ≤ values.steps.length ∧ values.steps.length ≤ 1000
  ordinals : values.steps.map EndpointReconStep.ordinal = List.range' 1 values.steps.length
  seeds_nodup : (values.steps.map EndpointReconStep.seedId).Nodup
  one_method : ∀ step ∈ values.steps, ∀ other ∈ values.steps, step.method = other.method
  within_limits : values.steps.length ≤ min values.limits.maxSteps values.limits.maxRequests
  deadline_after : values.createdAt < values.deadline

instance EndpointReconPlanValues.decidableSealed (values : EndpointReconPlanValues) :
    Decidable values.Sealed :=
  decidable_of_iff' _ (EndpointReconPlanValues.sealed_iff values)

structure EndpointReconPlan extends EndpointReconPlanValues where
  isSealed : toEndpointReconPlanValues.Sealed
  deriving DecidableEq

/-- `EndpointReconPlan.create`. -/
def EndpointReconPlan.create (values : EndpointReconPlanValues) :
    Except EndpointReconError EndpointReconPlan :=
  if h : values.Sealed then .ok ⟨values, h⟩
  else .error (.validationError "Endpoint Recon plan steps or budget are invalid")

theorem EndpointReconPlan.create_eq_ok {values : EndpointReconPlanValues}
    {plan : EndpointReconPlan} :
    EndpointReconPlan.create values = .ok plan ↔ plan.toEndpointReconPlanValues = values := by
  unfold create
  constructor
  · intro h
    split_ifs at h
    cases h
    rfl
  · rintro rfl
    rw [dif_pos plan.isSealed]

/-- `len(plan.steps)`, the column `request_count`. -/
def EndpointReconPlanValues.requestCount (plan : EndpointReconPlanValues) : ℕ :=
  plan.steps.length

/-- `moment + timedelta(seconds=seconds)`. -/
def addDuration (moment : Time) (seconds : ℚ) : Except EndpointReconError Time :=
  let later := moment + (Doubles.roundHalfEven (seconds * 1000000)).toNat
  if later ≤ 315537897599999999 then .ok later else .error .overflow

structure EndpointReconOutcome where
  endpointReconPlanId : Digest
  seedSetId : Digest
  outcome : EndpointReconOutcomeKind
  requestsUsed : ℕ
  attempt : ℕ
  cleanupComplete : Bool
  completedAt : Time

/-! ## Digests -/

class EndpointReconDigests where
  path : CanonicalDigest EndpointSeed
  seedSet : CanonicalDigest EndpointSeedSet
  step : CanonicalDigest EndpointReconStep
  plan : CanonicalDigest EndpointReconPlan

attribute [reducible, instance] EndpointReconDigests.path EndpointReconDigests.seedSet
  EndpointReconDigests.step EndpointReconDigests.plan

section

variable [EndpointReconDigests]

def EndpointSeed.seedId (seed : EndpointSeed) : Digest :=
  canonicalDigest seed

def EndpointSeedSet.seedSetId (seedSet : EndpointSeedSet) : Digest :=
  canonicalDigest seedSet

def EndpointReconStep.stepId (step : EndpointReconStep) : Digest :=
  canonicalDigest step

def EndpointReconPlan.endpointReconPlanId (plan : EndpointReconPlan) : Digest :=
  canonicalDigest plan

end

/-! ## Reservations -/

/-- The fields of a reservation before its validator has run. -/
structure EndpointReconReservationValues where
  endpointReconPlanId : Digest
  state : EndpointReconReservationState
  reservedRequests : ℕ
  consumedRequests : ℕ
  createdAt : Time
  updatedAt : Time
  terminalReason : Option String
  deriving DecidableEq

/-- A released reservation holds no more than what it has consumed. -/
def EndpointReconReservationState.isReleased : EndpointReconReservationState → Bool
  | .active | .consumed => false
  | .cancelled | .expired => true

/-- What `EndpointReconReservation.coherent` checks. -/
@[mk_iff]
structure EndpointReconReservationValues.Coherent (values : EndpointReconReservationValues) :
    Prop where
  bounds : (1 ≤ values.reservedRequests ∧ values.reservedRequests ≤ 1000) ∧
    values.consumedRequests ≤ 1000
  consumed_le : values.consumedRequests ≤ values.reservedRequests
  updated : values.createdAt ≤ values.updatedAt
  terminal : values.state ≠ .active ↔ values.terminalReason.isSome
  active : values.state = .active → values.consumedRequests < values.reservedRequests
  consumed : values.state = .consumed → values.consumedRequests = values.reservedRequests
  released : values.state.isReleased = true → values.consumedRequests < values.reservedRequests
  reason : ∀ code ∈ values.terminalReason, isReasonCode code

instance EndpointReconReservationValues.decidableCoherent
    (values : EndpointReconReservationValues) : Decidable values.Coherent :=
  decidable_of_iff' _ (EndpointReconReservationValues.coherent_iff values)

structure EndpointReconReservation extends EndpointReconReservationValues where
  isCoherent : toEndpointReconReservationValues.Coherent
  deriving DecidableEq

/-- `EndpointReconReservation.model_validate`. -/
def EndpointReconReservation.create (values : EndpointReconReservationValues) :
    Except EndpointReconError EndpointReconReservation :=
  if h : values.Coherent then .ok ⟨values, h⟩
  else .error (.validationError "Endpoint Recon reservation state is inconsistent")

theorem EndpointReconReservation.create_eq_ok {values : EndpointReconReservationValues}
    {reservation : EndpointReconReservation} :
    EndpointReconReservation.create values = .ok reservation ↔
      reservation.toEndpointReconReservationValues = values := by
  unfold create
  constructor
  · intro h
    split_ifs at h
    cases h
    rfl
  · rintro rfl
    rw [dif_pos reservation.isCoherent]

/-! ## Transitions -/

/-- `_monotonic_time`. -/
def requireMonotonicTime (reservation : EndpointReconReservation) (now : Time) :
    Except EndpointReconError Unit :=
  raiseIf (now < reservation.updatedAt)
    (.transitionRejected "Endpoint Recon reservation time cannot move backwards")

/-- `consume_endpoint_recon_request`. -/
def consumeEndpointReconRequest (reservation : EndpointReconReservation) (now : Time) :
    Except EndpointReconError EndpointReconReservation := do
  requireMonotonicTime reservation now
  raiseIf (reservation.state ≠ .active)
    (.transitionRejected "only an active Endpoint Recon reservation can be consumed")
  let consumed := reservation.consumedRequests + 1
  raiseIf (reservation.reservedRequests < consumed)
    (.transitionRejected "Endpoint Recon reservation is exhausted")
  let terminal := consumed = reservation.reservedRequests
  EndpointReconReservation.create { reservation.toEndpointReconReservationValues with
    state := if terminal then .consumed else .active
    consumedRequests := consumed
    updatedAt := now
    terminalReason := if terminal then some "all_steps_consumed" else none }

/-- The end of an active reservation in the state `state`, which it may have already. -/
def releaseEndpointRecon (reservation : EndpointReconReservation)
    (state : EndpointReconReservationState) (rejection : String) (now : Time) (reason : String) :
    Except EndpointReconError EndpointReconReservation := do
  requireMonotonicTime reservation now
  if reservation.state = state then return reservation
  raiseIf (reservation.state ≠ .active) (.transitionRejected rejection)
  EndpointReconReservation.create { reservation.toEndpointReconReservationValues with
    state := state
    updatedAt := now
    terminalReason := some reason }

/-- `cancel_endpoint_recon`. -/
def cancelEndpointRecon (reservation : EndpointReconReservation) (now : Time) (reason : String) :
    Except EndpointReconError EndpointReconReservation :=
  releaseEndpointRecon reservation .cancelled
    "only an active Endpoint Recon reservation can be cancelled" now reason

/-- `expire_endpoint_recon`. -/
def expireEndpointRecon (reservation : EndpointReconReservation) (now : Time) :
    Except EndpointReconError EndpointReconReservation :=
  releaseEndpointRecon reservation .expired
    "only an active Endpoint Recon reservation can expire" now "reservation_expired"

variable {reservation after : EndpointReconReservation} {now : Time}

/-- A request is consumed of an active reservation, or the reservation is released. -/
structure EndpointReconReservation.Moves (before after : EndpointReconReservation) : Prop where
  active : before.state = .active
  plan : after.endpointReconPlanId = before.endpointReconPlanId
  reserved : after.reservedRequests = before.reservedRequests
  created : after.createdAt = before.createdAt
  counts : after.consumedRequests = before.consumedRequests + 1 ∧ after.state.isReleased = false ∨
    after.consumedRequests = before.consumedRequests ∧ after.state.isReleased = true

theorem consumeEndpointReconRequest_ok
    (h : consumeEndpointReconRequest reservation now = .ok after) :
    reservation.Moves after ∧ after.consumedRequests = reservation.consumedRequests + 1 := by
  simp only [consumeEndpointReconRequest, bind_eq_ok, raiseIf_eq_ok, not_not,
    EndpointReconReservation.create_eq_ok] at h
  obtain ⟨-, -, -, hactive, -, -, hvalues⟩ := h
  have hconsumed : after.consumedRequests = reservation.consumedRequests + 1 := by rw [hvalues]
  refine ⟨⟨hactive, by rw [hvalues], by rw [hvalues], by rw [hvalues], Or.inl ⟨hconsumed, ?_⟩⟩,
    hconsumed⟩
  rw [hvalues]
  show (if _ then _ else _ : EndpointReconReservationState).isReleased = false
  split_ifs <;> rfl

/-- A release leaves the reservation as it is, or ends an active one. -/
theorem releaseEndpointRecon_ok {state : EndpointReconReservationState}
    {rejection reason : String} (hstate : state.isReleased = true)
    (h : releaseEndpointRecon reservation state rejection now reason = .ok after) :
    after = reservation ∨
      reservation.Moves after ∧ after.consumedRequests = reservation.consumedRequests := by
  simp only [releaseEndpointRecon, bind_eq_ok] at h
  obtain ⟨-, -, h⟩ := h
  split_ifs at h
  · exact Or.inl (pure_eq_ok.1 h).symm
  · simp only [bind_eq_ok, raiseIf_eq_ok, not_not, EndpointReconReservation.create_eq_ok] at h
    obtain ⟨-, hactive, hvalues⟩ := h
    have hconsumed : after.consumedRequests = reservation.consumedRequests := by rw [hvalues]
    refine Or.inr ⟨⟨hactive, by rw [hvalues], by rw [hvalues], by rw [hvalues],
      Or.inr ⟨hconsumed, ?_⟩⟩, hconsumed⟩
    rw [hvalues]
    exact hstate

end VulnLoom

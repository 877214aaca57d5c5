import VulnLoom.Basic
import VulnLoom.Connections
import VulnLoom.Table

/-!
# The crash catalog

One record for each crash fingerprint, and one observation for each registration. `register`
reads the observation of its key, reads the record of the fingerprint, and then writes the
extended record and the observation in one transaction. The transaction opens at the first
write, so other connections may come between the reads and the write.

`catalog_agrees_iff` : the records list the plans of the stored observations throughout a run
exactly when every registration that writes finds the record it read. The texts of a crash
frame are not constrained here.
-/

set_option linter.unusedSectionVars false

namespace VulnLoom

open Connections Transition

/-! ## Records -/

inductive SourceSanitizer
  | address
  | undefined
  | memory
  deriving DecidableEq

inductive SourceCrashSignal
  | abort
  | bus
  | fpe
  | ill
  | segv
  deriving DecidableEq

structure SourceCrashFrame where
  moduleName : String
  symbol : String
  sourcePath : String
  sourceLine : ℕ
  deriving DecidableEq

structure SourceCrashSignature where
  sanitizer : SourceSanitizer
  signal : SourceCrashSignal
  failureClass : String
  frames : List SourceCrashFrame
  frames_bounds : 1 ≤ frames.length ∧ frames.length ≤ 32
  frames_nodup : frames.Nodup
  deriving DecidableEq

inductive SourceCrashDisposition
  | new
  | duplicate
  deriving DecidableEq

/-- An exception of the crash store. -/
inductive SourceCrashError
  | storeRejected (reason : String)
  | validationError (reason : String)
  deriving DecidableEq

/-- The validator of `SourceCrashRecord`. -/
def CrashRecordConsistent (firstPlanId lastPlanId : Digest) (observationCount : ℕ)
    (observedPlanIds : List Digest) (firstObservedAt lastObservedAt : Time) : Prop :=
  (1 ≤ observedPlanIds.length ∧ observedPlanIds.length ≤ 10000) ∧
    observedPlanIds.head? = some firstPlanId ∧ observedPlanIds.getLast? = some lastPlanId ∧
    observationCount = observedPlanIds.length ∧ observedPlanIds.Nodup ∧
    firstObservedAt ≤ lastObservedAt

instance (firstPlanId lastPlanId : Digest) (observationCount : ℕ)
    (observedPlanIds : List Digest) (firstObservedAt lastObservedAt : Time) :
    Decidable (CrashRecordConsistent firstPlanId lastPlanId observationCount observedPlanIds
      firstObservedAt lastObservedAt) :=
  inferInstanceAs (Decidable (_ ∧ _))

structure SourceCrashRecord where
  signature : SourceCrashSignature
  canonicalInputDigest : Digest
  firstPlanId : Digest
  lastPlanId : Digest
  observationCount : ℕ
  observedPlanIds : List Digest
  firstObservedAt : Time
  lastObservedAt : Time
  consistent : CrashRecordConsistent firstPlanId lastPlanId observationCount observedPlanIds
    firstObservedAt lastObservedAt

structure SourceCrashRegistration where
  disposition : SourceCrashDisposition
  record : SourceCrashRecord

/-- The arguments of `register`. -/
structure CrashObserved where
  signature : SourceCrashSignature
  planId : Digest
  inputDigest : Digest
  observedAt : Time
  idempotencyKey : String

/-- A row of `source_crash_observations`. -/
structure CrashObservation where
  idempotencyKey : String
  fingerprint : Digest
  planId : Digest
  inputDigest : Digest
  result : SourceCrashRegistration

/-- The primary key, and the unique pair of a fingerprint and a plan. -/
def crashObservationClash (a b : CrashObservation) : Bool :=
  a.idempotencyKey = b.idempotencyKey ∨ a.fingerprint = b.fingerprint ∧ a.planId = b.planId

/-- `source_crashes` and `source_crash_observations`. The key of a crash is the fingerprint of
its record. -/
structure SourceCrashStore where
  crashes : List SourceCrashRecord
  observations : List CrashObservation

def SourceCrashStore.empty : SourceCrashStore :=
  ⟨[], []⟩

section

variable [CanonicalDigest SourceCrashSignature]

def SourceCrashSignature.fingerprint (signature : SourceCrashSignature) : Digest :=
  canonicalDigest signature

def SourceCrashRecord.fingerprint (record : SourceCrashRecord) : Digest :=
  record.signature.fingerprint

/-! ## Registration -/

/-- The record of a fingerprint. -/
def SourceCrashStore.record? (store : SourceCrashStore) (fingerprint : Digest) :
    Option SourceCrashRecord :=
  store.crashes.find? fun record => record.fingerprint = fingerprint

/-- The first read : a registration of the key is answered by its result. -/
def SourceCrashStore.replayed (store : SourceCrashStore) (observed : CrashObserved) :
    Except SourceCrashError (Option SourceCrashRegistration) :=
  match store.observations.find? fun row => row.idempotencyKey = observed.idempotencyKey with
  | none => .ok none
  | some replay => do
    raiseIf (replay.fingerprint ≠ observed.signature.fingerprint ∨
        replay.planId ≠ observed.planId ∨ replay.inputDigest ≠ observed.inputDigest)
      (.storeRejected "Crash registration idempotency collision")
    return some replay.result

/-- The record of a fingerprint that has none. -/
def CrashObserved.first (observed : CrashObserved) : SourceCrashRecord where
  signature := observed.signature
  canonicalInputDigest := observed.inputDigest
  firstPlanId := observed.planId
  lastPlanId := observed.planId
  observationCount := 1
  observedPlanIds := [observed.planId]
  firstObservedAt := observed.observedAt
  lastObservedAt := observed.observedAt
  consistent := ⟨by simp, rfl, rfl, rfl, List.nodup_singleton _, le_rfl⟩

/-- A record with one more observation, validated. -/
def SourceCrashRecord.extended (prior : SourceCrashRecord) (observed : CrashObserved) :
    Except SourceCrashError SourceCrashRecord :=
  if h : CrashRecordConsistent prior.firstPlanId observed.planId (prior.observationCount + 1)
      (prior.observedPlanIds ++ [observed.planId]) prior.firstObservedAt observed.observedAt then
    .ok { prior with
      lastPlanId := observed.planId
      observationCount := prior.observationCount + 1
      observedPlanIds := prior.observedPlanIds ++ [observed.planId]
      lastObservedAt := observed.observedAt
      consistent := h }
  else
    .error (.validationError "Crash record identity or history is inconsistent")

/-- What is registered, given the record that was read. -/
def CrashObserved.registration (observed : CrashObserved) :
    Option SourceCrashRecord → Except SourceCrashError SourceCrashRegistration
  | none => .ok ⟨.new, observed.first⟩
  | some prior => do
    raiseIf (prior.signature ≠ observed.signature) (.storeRejected "Crash fingerprint collision")
    let record ← prior.extended observed
    return ⟨.duplicate, record⟩

/-- The row that a registration inserts. -/
def CrashObserved.row (observed : CrashObserved) (registration : SourceCrashRegistration) :
    CrashObservation where
  idempotencyKey := observed.idempotencyKey
  fingerprint := observed.signature.fingerprint
  planId := observed.planId
  inputDigest := observed.inputDigest
  result := registration

/-- The transaction of a registration. -/
def SourceCrashStore.written (store : SourceCrashStore) (observed : CrashObserved)
    (prior : Option SourceCrashRecord) :
    Except SourceCrashError (SourceCrashStore × SourceCrashRegistration) := do
  let registration ← observed.registration prior
  let observations ← orRaise
    (Table.insert crashObservationClash store.observations (observed.row registration))
    (.storeRejected "Crash plan was already registered under another key")
  return (⟨Table.upsert SourceCrashRecord.fingerprint registration.record store.crashes,
    observations⟩, registration)

/-- `SourceCrashStore.register`, where nothing comes between its steps. -/
def SourceCrashStore.register (store : SourceCrashStore) (observed : CrashObserved) :
    Except SourceCrashError (SourceCrashStore × SourceCrashRegistration) := do
  match ← store.replayed observed with
  | some registration => return (store, registration)
  | none => store.written observed (store.record? observed.signature.fingerprint)

/-- A registration between two of its steps. -/
inductive PendingRegistration
  | replay (observed : CrashObserved)
  | read (observed : CrashObserved)
  | write (observed : CrashObserved) (prior : Option SourceCrashRecord)

/-- The steps of `register` : two reads and a transaction. -/
def registrations : Program SourceCrashStore CrashObserved PendingRegistration
    (Except SourceCrashError SourceCrashRegistration) where
  begins := .replay
  next store
    | .replay observed =>
      match store.replayed observed with
      | .ok none => (store, .inl (.read observed))
      | .ok (some registration) => (store, .inr (.ok registration))
      | .error e => (store, .inr (.error e))
    | .read observed =>
      (store, .inl (.write observed (store.record? observed.signature.fingerprint)))
    | .write observed prior =>
      match store.written observed prior with
      | .ok (store', registration) => (store', .inr (.ok registration))
      | .error e => (store, .inr (.error e))

/-- Where nothing comes between its steps, a connection registers as `register` does. -/
theorem register_steps (store : SourceCrashStore) (observed : CrashObserved) (connection : ℕ) :
    (run registrations.step (System.idle store) [.call connection observed, .go connection,
      .go connection, .go connection]).store =
      match store.register observed with
      | .ok (store', _) => store'
      | .error _ => store := by
  simp only [run_cons, run_nil, Program.step, registrations, System.idle,
    Function.update_self, SourceCrashStore.register]
  cases hreplay : store.replayed observed with
  | error e => simp [bind, Except.bind]
  | ok replayed =>
    cases replayed with
    | some registration => simp [bind, Except.bind, pure, Except.pure]
    | none =>
      simp only [Sum.getLeft?_inl, Function.update_self, ok_bind]
      cases hwritten : store.written observed (store.record? observed.signature.fingerprint) with
      | error e => rfl
      | ok written => rfl

/-! ## What a registration writes -/

/-- The plans a record lists; a fingerprint without one lists none. -/
def listedPlans : Option SourceCrashRecord → List Digest
  | none => []
  | some record => record.observedPlanIds

@[simp] theorem CrashObserved.first_fingerprint (observed : CrashObserved) :
    observed.first.fingerprint = observed.signature.fingerprint :=
  rfl

theorem SourceCrashRecord.extended_ok {prior record : SourceCrashRecord}
    {observed : CrashObserved} (h : prior.extended observed = .ok record) :
    record.observedPlanIds = prior.observedPlanIds ++ [observed.planId] ∧
      record.fingerprint = prior.fingerprint := by
  unfold extended at h
  split_ifs at h
  cases h
  exact ⟨rfl, rfl⟩

variable {prior : Option SourceCrashRecord}

theorem CrashObserved.registration_ok {observed : CrashObserved}
    {registration : SourceCrashRegistration} (h : observed.registration prior = .ok registration) :
    registration.record.observedPlanIds = listedPlans prior ++ [observed.planId] ∧
      registration.record.fingerprint = observed.signature.fingerprint ∧
      (registration.disposition = .new ↔ prior = none) := by
  cases prior with
  | none =>
    simp only [CrashObserved.registration, Except.ok.injEq] at h
    subst h
    exact ⟨rfl, rfl, by simp⟩
  | some prior =>
    simp only [CrashObserved.registration, bind_eq_ok, raiseIf_eq_ok, not_not, pure_eq_ok] at h
    obtain ⟨-, hsignature, record, hrecord, rfl⟩ := h
    obtain ⟨hplans, hfingerprint⟩ := SourceCrashRecord.extended_ok hrecord
    refine ⟨hplans, ?_, by simp⟩
    rw [hfingerprint, SourceCrashRecord.fingerprint, hsignature]

theorem SourceCrashStore.written_ok {store store' : SourceCrashStore} {observed : CrashObserved}
    {registration : SourceCrashRegistration}
    (h : store.written observed prior = .ok (store', registration)) :
    observed.registration prior = .ok registration ∧
      (∀ row ∈ store.observations, row.idempotencyKey ≠ observed.idempotencyKey) ∧
      store'.crashes =
        Table.upsert SourceCrashRecord.fingerprint registration.record store.crashes ∧
      store'.observations = store.observations ++ [observed.row registration] := by
  simp only [written, bind_eq_ok, orRaise_eq_ok, Table.insert_eq_some, pure_eq_ok] at h
  obtain ⟨registered, hregistered, observations, ⟨hfresh, rfl⟩, heq⟩ := h
  cases heq
  refine ⟨hregistered, fun row hrow hkey => ?_, rfl, rfl⟩
  have := hfresh row hrow
  simp [crashObservationClash, CrashObserved.row, hkey] at this

/-! ## Agreement -/

/-- A record lists these plans, counts them, and names the first and the last. -/
def ListsPlans (plans : List Digest) : Option SourceCrashRecord → Prop
  | none => plans = []
  | some record => record.observedPlanIds = plans ∧ record.observationCount = plans.length ∧
      plans.head? = some record.firstPlanId ∧ plans.getLast? = some record.lastPlanId

/-- The validator of a record leaves only its list of plans to be compared. -/
theorem listsPlans_iff {plans : List Digest} {record? : Option SourceCrashRecord} :
    ListsPlans plans record? ↔ listedPlans record? = plans := by
  cases record? with
  | none => exact eq_comm
  | some record =>
    obtain ⟨-, hfirst, hlast, hcount, -⟩ := record.consistent
    constructor
    · intro h
      exact h.1
    · rintro rfl
      exact ⟨rfl, hcount, hfirst, hlast⟩

/-- `observed` registers again what is stored in `row`. -/
def CrashObserved.Repeats (observed : CrashObserved) (row : CrashObservation) : Prop :=
  row.idempotencyKey = observed.idempotencyKey ∧
    row.fingerprint = observed.signature.fingerprint ∧ row.planId = observed.planId ∧
    row.inputDigest = observed.inputDigest

namespace SourceCrashStore

/-- The stored observations of a fingerprint, in the order they were committed. -/
def observed (store : SourceCrashStore) (fingerprint : Digest) : List CrashObservation :=
  store.observations.filter fun row => row.fingerprint = fingerprint

def observedPlans (store : SourceCrashStore) (fingerprint : Digest) : List Digest :=
  (store.observed fingerprint).map CrashObservation.planId

/-- The catalog and the observations agree : the record of a fingerprint lists the plans of its
observations, one of which was answered as new, and a repeated registration is answered by its
stored result. -/
structure Agrees (store : SourceCrashStore) : Prop where
  lists : ∀ fingerprint, ListsPlans (store.observedPlans fingerprint) (store.record? fingerprint)
  new : ∀ fingerprint, store.observed fingerprint ≠ [] →
    (store.observed fingerprint).countP (fun row => row.result.disposition = .new) = 1
  repeats : ∀ observed : CrashObserved, ∀ row ∈ store.observations, observed.Repeats row →
    registrations.next store (registrations.begins observed) = (store, .inr (.ok row.result))

/-- No two observations share their key. -/
def UniqueKeys (store : SourceCrashStore) : Prop :=
  (store.observations.map CrashObservation.idempotencyKey).Nodup

/-- A registration that writes finds the record it read. -/
def WritesAsRead (store : SourceCrashStore) : PendingRegistration → Prop
  | .write observed prior => ∀ written, store.written observed prior = .ok written →
      store.record? observed.signature.fingerprint = prior
  | _ => True

/-- The record that a registration read is the present one, or lists fewer plans. -/
def ReadEarlier (store : SourceCrashStore) : PendingRegistration → Prop
  | .write observed prior => store.record? observed.signature.fingerprint = prior ∨
      (listedPlans prior).length < (store.observedPlans observed.signature.fingerprint).length
  | _ => True

theorem empty_agrees : empty.Agrees where
  lists _ := rfl
  new fingerprint h := absurd rfl h
  repeats observed row hrow := by cases hrow

/-- A repeated registration finds the observation of its key. -/
theorem UniqueKeys.repeats {store : SourceCrashStore} (hkeys : store.UniqueKeys)
    {observed : CrashObserved} {row : CrashObservation} (hrow : row ∈ store.observations)
    (h : observed.Repeats row) :
    registrations.next store (registrations.begins observed) = (store, .inr (.ok row.result)) := by
  obtain ⟨hkey, hfingerprint, hplan, hinput⟩ := h
  have hfind : store.observations.find? (fun r => r.idempotencyKey = observed.idempotencyKey) =
      some row := by
    cases hr : store.observations.find? fun r => r.idempotencyKey = observed.idempotencyKey with
    | none =>
      have := List.find?_eq_none.1 hr row hrow
      simp [hkey] at this
    | some r =>
      have hsame : r.idempotencyKey = observed.idempotencyKey := by
        simpa using List.find?_some hr
      rw [Table.eq_of_key hkeys (List.mem_of_find?_eq_some hr) hrow (hsame.trans hkey.symm)]
  have hreplayed : store.replayed observed = .ok (some row.result) := by
    simp [replayed, hfind, hfingerprint, hplan, hinput]
  simp [registrations, hreplayed]

/-! ## A write -/

section Written

variable {store store' : SourceCrashStore} {request : CrashObserved}
  {prior : Option SourceCrashRecord} {registration : SourceCrashRegistration}

theorem UniqueKeys.written (hkeys : store.UniqueKeys)
    (h : store.written request prior = .ok (store', registration)) : store'.UniqueKeys := by
  obtain ⟨-, hfresh, -, hobservations⟩ := written_ok h
  rw [UniqueKeys, hobservations]
  exact Table.nodup_key_concat hkeys fun row hrow => (hfresh row hrow).symm

theorem observed_written (h : store.written request prior = .ok (store', registration)) :
    store'.observed request.signature.fingerprint =
      store.observed request.signature.fingerprint ++ [request.row registration] := by
  obtain ⟨-, -, -, hobservations⟩ := written_ok h
  simp [observed, hobservations, CrashObserved.row]

theorem observed_written_of_ne (h : store.written request prior = .ok (store', registration))
    {fingerprint : Digest} (hne : fingerprint ≠ request.signature.fingerprint) :
    store'.observed fingerprint = store.observed fingerprint := by
  obtain ⟨-, -, -, hobservations⟩ := written_ok h
  simp [observed, hobservations, CrashObserved.row, hne.symm]

theorem record?_written (h : store.written request prior = .ok (store', registration)) :
    store'.record? request.signature.fingerprint = some registration.record := by
  obtain ⟨hregistered, -, hcrashes, -⟩ := written_ok h
  obtain ⟨-, hfingerprint, -⟩ := CrashObserved.registration_ok hregistered
  rw [record?, hcrashes, ← hfingerprint]
  exact Table.find?_upsert _ _

theorem record?_written_of_ne (h : store.written request prior = .ok (store', registration))
    {fingerprint : Digest} (hne : fingerprint ≠ request.signature.fingerprint) :
    store'.record? fingerprint = store.record? fingerprint := by
  obtain ⟨hregistered, -, hcrashes, -⟩ := written_ok h
  obtain ⟨-, hfingerprint, -⟩ := CrashObserved.registration_ok hregistered
  rw [record?, hcrashes]
  exact Table.find?_upsert_of_ne (hfingerprint ▸ hne) _

/-- After a write the record lists the plans it read and the new one. -/
theorem lists_written (h : store.written request prior = .ok (store', registration)) :
    ListsPlans (store'.observedPlans request.signature.fingerprint)
        (store'.record? request.signature.fingerprint) ↔
      listedPlans prior = store.observedPlans request.signature.fingerprint := by
  obtain ⟨hregistered, -⟩ := written_ok h
  obtain ⟨hplans, -⟩ := CrashObserved.registration_ok hregistered
  rw [listsPlans_iff, record?_written h, listedPlans, hplans, observedPlans, observedPlans,
    observed_written h, List.map_append]
  exact List.append_left_inj _

/-- A write that finds the record it read keeps the catalog and the observations in
agreement. -/
theorem Agrees.written (ha : store.Agrees) (hkeys : store.UniqueKeys)
    (h : store.written request prior = .ok (store', registration))
    (hread : store.record? request.signature.fingerprint = prior) : store'.Agrees := by
  have hlisted := listsPlans_iff.1 (ha.lists request.signature.fingerprint)
  rw [hread] at hlisted
  refine ⟨fun fingerprint => ?_, fun fingerprint hne => ?_, fun observed row hrow hrepeats => ?_⟩
  · by_cases heq : fingerprint = request.signature.fingerprint
    · subst heq
      exact (lists_written h).2 hlisted
    · rw [observedPlans, observed_written_of_ne h heq, record?_written_of_ne h heq]
      exact ha.lists fingerprint
  · by_cases heq : fingerprint = request.signature.fingerprint
    · subst heq
      obtain ⟨hregistered, -⟩ := written_ok h
      obtain ⟨-, -, hnew⟩ := CrashObserved.registration_ok hregistered
      rw [observed_written h, List.countP_append, List.countP_singleton]
      by_cases hfirst : prior = none
      · -- the first registration of the fingerprint is the new one
        rw [hfirst] at hlisted
        have hnone : store.observed request.signature.fingerprint = [] := by
          simpa [observedPlans, listedPlans] using hlisted.symm
        simp [hnone, CrashObserved.row, hnew.2 hfirst]
      · have hsome : store.observed request.signature.fingerprint ≠ [] := by
          intro hnone
          refine hfirst ?_
          rw [← hread]
          have hplans := ha.lists request.signature.fingerprint
          rw [observedPlans, hnone] at hplans
          cases hrecord : store.record? request.signature.fingerprint with
          | none => rfl
          | some record =>
            rw [hrecord] at hplans
            cases hplans.2.2.1
        rw [ha.new _ hsome]
        simp [CrashObserved.row, mt hnew.1 hfirst]
    · rw [observed_written_of_ne h heq] at hne ⊢
      exact ha.new fingerprint hne
  · exact (hkeys.written h).repeats hrow hrepeats

/-- The records that the other registrations read lag behind after a write. -/
theorem ReadEarlier.written (ha : store.Agrees)
    (h : store.written request prior = .ok (store', registration)) {other : PendingRegistration}
    (hother : store.ReadEarlier other) : store'.ReadEarlier other := by
  cases other with
  | replay observed => trivial
  | read observed => trivial
  | write observed read =>
    simp only [ReadEarlier] at hother ⊢
    by_cases heq : observed.signature.fingerprint = request.signature.fingerprint
    · have hlength : (listedPlans read).length ≤
          (store.observedPlans observed.signature.fingerprint).length := by
        rcases hother with hsame | hless
        · rw [← hsame, listsPlans_iff.1 (ha.lists _)]
        · exact hless.le
      refine Or.inr (lt_of_le_of_lt hlength ?_)
      simp [observedPlans, heq, observed_written h]
    · rw [record?_written_of_ne h heq, observedPlans, observed_written_of_ne h heq]
      exact hother

end Written

/-- Where the registrations come one after the other, the catalog and the observations agree. -/
theorem whole_registrations_agree (calls : List CrashObserved) :
    (run (settle fun store observed => do
      let (store, _) ← register store observed
      return store) empty calls).Agrees := by
  refine (run_invariant _ (fun store observed (hs : Agrees store ∧ UniqueKeys store) =>
    settle_induction (P := fun store => Agrees store ∧ UniqueKeys store) hs fun store' h => ?_)
    calls ⟨empty_agrees, List.nodup_nil⟩).1
  simp only [register, bind_eq_ok, pure_eq_ok] at h
  obtain ⟨⟨written, registration⟩, ⟨replayed, -, h⟩, rfl⟩ := h
  cases replayed with
  | some registration =>
    cases h
    exact hs
  | none => exact ⟨hs.1.written hs.2 h rfl, hs.2.written h⟩

end SourceCrashStore

/-! ## Runs -/

open SourceCrashStore in
/-- From an empty catalog, the records and the stored observations agree in every state of a run
exactly when every registration that writes finds the record of its fingerprint as it read it. -/
theorem catalog_agrees_iff (steps : List (Step CrashObserved)) :
    Always registrations.step (fun sys => sys.store.Agrees)
        (System.idle SourceCrashStore.empty) steps ↔
      Along registrations.step (System.Meets WritesAsRead)
        (System.idle SourceCrashStore.empty) steps := by
  refine Program.always_iff_along (I := UniqueKeys) (J := ReadEarlier) ?_ ?_ ?_ ?_ steps
    List.nodup_nil (System.holds_idle empty_agrees)
  · intro store pending hkeys
    simp only [registrations]
    split
    · split
      · exact hkeys
      · exact hkeys
      · exact hkeys
    · exact hkeys
    · split
      next hwritten => exact hkeys.written hwritten
      · exact hkeys
  · intro store observed _ _
    trivial
  · intro store pending hkeys ha hread hC
    cases pending with
    | replay observed =>
      simp only [registrations]
      split <;> simp [ha, ReadEarlier]
    | read observed =>
      refine ⟨ha, fun pending' h => ?_, fun other hother => hother⟩
      simp only [registrations, Sum.inl.injEq] at h
      subst h
      exact Or.inl rfl
    | write observed prior =>
      simp only [registrations]
      split
      next store' registration hwritten =>
        refine ⟨ha.written hkeys hwritten (hC _ hwritten), ?_, fun other hother =>
          ReadEarlier.written ha hwritten hother⟩
        intro pending' h
        cases h
      · refine ⟨ha, ?_, fun other hother => hother⟩
        intro pending' h
        cases h
  · intro store pending _ ha hread hkept
    cases pending with
    | replay observed => trivial
    | read observed => trivial
    | write observed prior =>
      rintro ⟨store', registration⟩ hwritten
      simp only [registrations, hwritten] at hkept
      have hlisted := (lists_written hwritten).1 (hkept.lists observed.signature.fingerprint)
      refine hread.resolve_right fun hless => ?_
      rw [hlisted] at hless
      omega

end

/-! ## Two registrations at once -/

section Sample

/-- The text of what tells the crashes of the sample apart. -/
@[reducible] def crashText : CanonicalDigest SourceCrashSignature :=
  ⟨SourceCrashSignature.failureClass⟩

attribute [local instance] crashText

/-- The crash that both plans of the sample observe. -/
def heapOverflow : SourceCrashSignature where
  sanitizer := .address
  signal := .abort
  failureClass := "heap-buffer-overflow"
  frames := [⟨"parser", "read_header", "src/parser.c", 41⟩]
  frames_bounds := by decide
  frames_nodup := by decide

def crashObserved (planId : Digest) (observedAt : Time) : CrashObserved where
  signature := heapOverflow
  planId := planId
  inputDigest := "crash-input"
  observedAt := observedAt
  idempotencyKey := planId

/-- Both connections read before either writes. -/
def racingRegistrations : List (Step CrashObserved) :=
  [.call 0 (crashObserved "plan-1" 10), .call 1 (crashObserved "plan-2" 20), .go 0, .go 1, .go 0,
    .go 1, .go 0, .go 1]

/-- The record of the crash no longer lists the plan that was written first, and both
registrations were answered as new. -/
theorem racing_registrations_disagree :
    ¬Always registrations.step (fun sys => sys.store.Agrees)
      (System.idle SourceCrashStore.empty) racingRegistrations := by
  intro h
  have hlists := listsPlans_iff.1
    ((h racingRegistrations (List.prefix_refl _)).lists heapOverflow.fingerprint)
  revert hlists
  decide +kernel

end Sample

end VulnLoom

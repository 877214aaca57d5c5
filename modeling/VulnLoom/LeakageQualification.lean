import VulnLoom.Basic
import VulnLoom.Table
import Mathlib.Data.Finset.Card
import Mathlib.Data.List.ProdSigma

/-!
# The qualification of leakage probes

A plan has one probe for each surface. The observations are gone through once : the first one of a
surface is judged, and each later one is a denial of its own. An outcome holds no more than 48
denial codes, and there can be more (`qualify_settles_iff`).
-/

namespace VulnLoom

namespace Leakage

/-! ## Records -/

inductive LeakageSurface
  | workerOutput
  | providerTransport
  | exceptionChain
  | eventLog
  | evidence
  | report
  | cliApi
  | modelContext
  deriving DecidableEq

def LeakageSurface.value : LeakageSurface → String
  | .workerOutput => "worker_output"
  | .providerTransport => "provider_transport"
  | .exceptionChain => "exception_chain"
  | .eventLog => "event_log"
  | .evidence => "evidence"
  | .report => "report"
  | .cliApi => "cli_api"
  | .modelContext => "model_context"

/-- `REQUIRED_LEAKAGE_SURFACES`. -/
def requiredSurfaces : List LeakageSurface :=
  [.workerOutput, .providerTransport, .exceptionChain, .eventLog, .evidence, .report, .cliApi,
    .modelContext]

theorem mem_requiredSurfaces : ∀ surface, surface ∈ requiredSurfaces := by
  intro surface
  cases surface <;> decide

/-- `LeakageProbeExpectation`; there is one contract for its digest to name. -/
structure LeakageProbeExpectation where
  surface : LeakageSurface
  artifactDigest : Digest

structure LeakageQualificationPlan where
  createdAt : Time
  expiresAt : Time
  probes : List LeakageProbeExpectation
  probes_nodup : (probes.map LeakageProbeExpectation.surface).Nodup
  probes_cover : ∀ surface, surface ∈ probes.map LeakageProbeExpectation.surface
  expires : createdAt < expiresAt

structure LeakageProbeObservation where
  surface : LeakageSurface
  artifactDigest : Digest
  canaryAbsent : Bool
  egressBoundaryEnforced : Bool
  sizeBoundaryEnforced : Bool
  cleanupVerified : Bool
  errorCodes : List String
  errorCodes_bounds : errorCodes.length ≤ 8 ∧
    ∀ code ∈ errorCodes, 1 ≤ code.length ∧ code.length ≤ 128

namespace LeakageProbeObservation

variable (observation : LeakageProbeObservation)

/-- The checks, by the code of their failure. -/
def checks : List (String × Bool) :=
  [("canary_present", observation.canaryAbsent),
    ("egress_unproven", observation.egressBoundaryEnforced),
    ("size_boundary_unproven", observation.sizeBoundaryEnforced),
    ("cleanup_unproven", observation.cleanupVerified)]

/-- The codes of the checks that failed. -/
def failures : List String :=
  (observation.checks.filter fun check => !check.2).map Prod.fst

/-- The observation is of the artifact that is probed, and nothing is wrong with it. -/
structure Clean (probe : LeakageProbeExpectation) : Prop where
  bound : observation.artifactDigest = probe.artifactDigest
  canary : observation.canaryAbsent = true
  egress : observation.egressBoundaryEnforced = true
  size : observation.sizeBoundaryEnforced = true
  cleanup : observation.cleanupVerified = true
  quiet : observation.errorCodes = []

theorem failures_eq_nil_iff : observation.failures = [] ↔
    observation.canaryAbsent = true ∧ observation.egressBoundaryEnforced = true ∧
      observation.sizeBoundaryEnforced = true ∧ observation.cleanupVerified = true := by
  simp [failures, checks]

end LeakageProbeObservation

inductive LeakageQualificationStatus
  | admitted
  | denied
  deriving DecidableEq

structure LeakageQualificationOutcome where
  plan : LeakageQualificationPlan
  status : LeakageQualificationStatus
  observations : List LeakageProbeObservation
  denialCodes : List String
  observations_nodup : (observations.map LeakageProbeObservation.surface).Nodup
  denialCodes_length : denialCodes.length ≤ 48
  status_iff : status = .admitted ↔ denialCodes = []

/-- `ValidationError`, of an outcome. -/
inductive LeakageError
  | validationError
  deriving DecidableEq

/-! ## Qualification -/

/-- The first observation of each surface, and the codes of the others. -/
def collect : List LeakageProbeObservation → List LeakageProbeObservation →
    List LeakageProbeObservation × List String
  | actual, [] => (actual, [])
  | actual, observation :: observations =>
    if observation.surface ∈ actual.map LeakageProbeObservation.surface then
      let rest := collect actual observations
      (rest.1, ("duplicate_surface:" ++ observation.surface.value) :: rest.2)
    else collect (actual ++ [observation]) observations

/-- `actual.get(surface)`. -/
def observed (actual : List LeakageProbeObservation) (surface : LeakageSurface) :
    Option LeakageProbeObservation :=
  actual.find? fun observation => observation.surface = surface

variable (plan : LeakageQualificationPlan)

/-- `expected[surface].artifact_digest`. -/
def expectedDigest (surface : LeakageSurface) : Option Digest :=
  (plan.probes.find? fun probe => probe.surface = surface).map
    LeakageProbeExpectation.artifactDigest

/-- The codes of a surface. -/
def surfaceCodes (actual : List LeakageProbeObservation) (surface : LeakageSurface) :
    List String :=
  match observed actual surface with
  | none => ["missing_surface:" ++ surface.value]
  | some observation =>
    (if some observation.artifactDigest = expectedDigest plan surface then []
      else ["binding_mismatch:" ++ surface.value]) ++
    observation.failures.map (fun code => code ++ ":" ++ surface.value) ++
    observation.errorCodes.map fun code => "probe_error:" ++ surface.value ++ ":" ++ code

/-- The codes in the order they are found in, before `dict.fromkeys`. -/
def foundCodes (observations : List LeakageProbeObservation) (now : Time) : List String :=
  let collected := collect [] observations
  (if plan.expiresAt ≤ now then ["plan_expired"] else []) ++ collected.2 ++
    (Table.orderBy LeakageSurface.value requiredSurfaces).flatMap (surfaceCodes plan collected.1)

/-- `tuple(dict.fromkeys(denial_codes))`. -/
def denialCodes (observations : List LeakageProbeObservation) (now : Time) : List String :=
  (foundCodes plan observations now).reverse.dedup.reverse

theorem nodup_collect : ∀ {actual observations : List LeakageProbeObservation},
    (actual.map LeakageProbeObservation.surface).Nodup →
      ((collect actual observations).1.map LeakageProbeObservation.surface).Nodup
  | _, [], h => h
  | actual, observation :: observations, h => by
    rw [collect]
    split_ifs with hmem
    · exact nodup_collect h
    · refine nodup_collect (Table.nodup_key_concat h fun other hother heq => hmem ?_)
      exact heq ▸ List.mem_map_of_mem hother

/-- `qualify_leakage_safety`. -/
def qualify (observations : List LeakageProbeObservation) (now : Time) :
    Except LeakageError LeakageQualificationOutcome :=
  let codes := denialCodes plan observations now
  if h : codes.length ≤ 48 then
    .ok {
      plan := plan
      status := if codes = [] then .admitted else .denied
      observations := Table.orderBy (fun observation => observation.surface.value)
        (collect [] observations).1
      denialCodes := codes
      observations_nodup := by
        have hnodup : ((collect [] observations).1.map LeakageProbeObservation.surface).Nodup :=
          nodup_collect List.nodup_nil
        exact ((List.perm_insertionSort _ _).map _).nodup_iff.2 hnodup
      denialCodes_length := h
      status_iff := by
        split_ifs with hcodes <;> simp [hcodes] }
  else .error .validationError

/-! ## What the codes say -/

section

variable (observations : List LeakageProbeObservation) (now : Time)

/-- A code applies : the plan is past its expiry, a surface is observed twice, a planned surface is
not observed, or there is something wrong with the first observation of one. -/
inductive Applies : String → Prop
  | expired (h : plan.expiresAt ≤ now) : Applies "plan_expired"
  | duplicate (surface : LeakageSurface)
      (h : 2 ≤ observations.countP fun observation => observation.surface = surface) :
      Applies ("duplicate_surface:" ++ surface.value)
  | missing (probe : LeakageProbeExpectation) (hprobe : probe ∈ plan.probes)
      (h : observed observations probe.surface = none) :
      Applies ("missing_surface:" ++ probe.surface.value)
  | binding (probe : LeakageProbeExpectation) (hprobe : probe ∈ plan.probes)
      (observation : LeakageProbeObservation)
      (h : observed observations probe.surface = some observation)
      (hdigest : observation.artifactDigest ≠ probe.artifactDigest) :
      Applies ("binding_mismatch:" ++ probe.surface.value)
  | check (probe : LeakageProbeExpectation) (hprobe : probe ∈ plan.probes)
      (observation : LeakageProbeObservation)
      (h : observed observations probe.surface = some observation) (code : String)
      (hcode : code ∈ observation.failures) : Applies (code ++ ":" ++ probe.surface.value)
  | error (probe : LeakageProbeExpectation) (hprobe : probe ∈ plan.probes)
      (observation : LeakageProbeObservation)
      (h : observed observations probe.surface = some observation) (code : String)
      (hcode : code ∈ observation.errorCodes) :
      Applies ("probe_error:" ++ probe.surface.value ++ ":" ++ code)

/-- The plan is not expired, and each surface of it has one observation, which is clean. -/
def Admissible : Prop :=
  now < plan.expiresAt ∧ ∀ probe ∈ plan.probes, ∃ observation,
    observations.filter (fun other => other.surface = probe.surface) = [observation] ∧
      observation.Clean probe

end

variable {actual : List LeakageProbeObservation} {observation : LeakageProbeObservation}

theorem observed_concat (h : observation.surface ∈ actual.map LeakageProbeObservation.surface)
    (observations : List LeakageProbeObservation) (surface : LeakageSurface) :
    observed (actual ++ observation :: observations) surface =
      observed (actual ++ observations) surface := by
  obtain ⟨first, hfirst, heq⟩ := List.mem_map.1 h
  unfold observed
  rw [List.find?_append, List.find?_append]
  by_cases hsurface : observation.surface = surface
  · have hsome : (actual.find? fun other => other.surface = surface).isSome = true :=
      List.find?_isSome.2 ⟨first, hfirst, by simpa [heq] using hsurface⟩
    obtain ⟨found, hfound⟩ := Option.isSome_iff_exists.1 hsome
    simp [hfound]
  · rw [List.find?_cons_of_neg (by simpa using hsurface)]

/-- What one surface is observed to be is the first observation of it. -/
theorem observed_collect : ∀ (actual observations : List LeakageProbeObservation)
    (surface : LeakageSurface),
    observed (collect actual observations).1 surface = observed (actual ++ observations) surface
  | actual, [], surface => by simp [collect]
  | actual, observation :: observations, surface => by
    rw [collect]
    split_ifs with hmem
    · rw [observed_collect actual observations surface, observed_concat hmem]
    · rw [observed_collect (actual ++ [observation]) observations surface, List.append_assoc,
        List.singleton_append]

theorem countP_le_one (h : (actual.map LeakageProbeObservation.surface).Nodup)
    (surface : LeakageSurface) :
    actual.countP (fun observation => observation.surface = surface) ≤ 1 := by
  have hcount := List.nodup_iff_count_le_one.1 h surface
  rw [List.count, List.countP_map] at hcount
  refine le_trans (List.countP_mono_left fun observation _ hsurface => ?_) hcount
  simpa using hsurface

theorem mem_collect_codes : ∀ {actual : List LeakageProbeObservation}
    (_ : (actual.map LeakageProbeObservation.surface).Nodup)
    (observations : List LeakageProbeObservation) (code : String),
    code ∈ (collect actual observations).2 ↔ ∃ surface : LeakageSurface,
      2 ≤ (actual ++ observations).countP (fun observation => observation.surface = surface) ∧
        code = "duplicate_surface:" ++ surface.value
  | actual, hactual, [], code => by
    have hone := countP_le_one hactual
    constructor
    · intro hcode
      exact absurd hcode List.not_mem_nil
    · rintro ⟨surface, htwo, -⟩
      rw [List.append_nil] at htwo
      have := hone surface
      omega
  | actual, hactual, observation :: observations, code => by
    rw [collect]
    split_ifs with hmem
    · have ih := mem_collect_codes hactual observations code
      rw [List.mem_cons, ih]
      constructor
      · rintro (rfl | ⟨surface, htwo, hcode⟩)
        · obtain ⟨first, hfirst, heq⟩ := List.mem_map.1 hmem
          have hpos : 0 < actual.countP fun other => other.surface = observation.surface :=
            List.countP_pos_iff.2 ⟨first, hfirst, by simpa using heq⟩
          refine ⟨observation.surface, ?_, rfl⟩
          rw [List.countP_append, List.countP_cons_of_pos (by simp)]
          omega
        · refine ⟨surface, ?_, hcode⟩
          rw [List.countP_append] at htwo ⊢
          have := List.countP_cons (p := fun other => other.surface = surface)
            (a := observation) (l := observations)
          omega
      · rintro ⟨surface, htwo, rfl⟩
        by_cases hsurface : observation.surface = surface
        · exact .inl (by rw [hsurface])
        · refine .inr ⟨surface, ?_, rfl⟩
          rw [List.countP_append, List.countP_cons_of_neg (by simpa using hsurface)] at htwo
          rwa [List.countP_append]
    · have hnodup : ((actual ++ [observation]).map LeakageProbeObservation.surface).Nodup :=
        Table.nodup_key_concat hactual fun other hother heq =>
          hmem (heq ▸ List.mem_map_of_mem hother)
      rw [mem_collect_codes hnodup observations code, List.append_assoc, List.singleton_append]

theorem expectedDigest_eq {probe : LeakageProbeExpectation} (h : probe ∈ plan.probes) :
    expectedDigest plan probe.surface = some probe.artifactDigest := by
  rw [expectedDigest, Table.find?_key plan.probes_nodup h]
  rfl

theorem exists_probe (surface : LeakageSurface) : ∃ probe ∈ plan.probes, probe.surface = surface :=
  List.mem_map.1 (plan.probes_cover surface)

variable {plan}
variable {observations : List LeakageProbeObservation} {now : Time}

/-- The codes of an outcome are those that apply. -/
theorem mem_denialCodes {code : String} :
    code ∈ denialCodes plan observations now ↔ Applies plan observations now code := by
  have hobserved := observed_collect [] observations
  have hnil : (([] : List LeakageProbeObservation).map LeakageProbeObservation.surface).Nodup :=
    List.nodup_nil
  have hduplicate := mem_collect_codes hnil observations code
  rw [List.nil_append] at hduplicate
  simp only [List.nil_append] at hobserved
  rw [denialCodes, List.mem_reverse, List.mem_dedup, List.mem_reverse, foundCodes, List.mem_append,
    List.mem_append, hduplicate, List.mem_flatMap]
  constructor
  · rintro ((hexpired | ⟨surface, htwo, rfl⟩) | ⟨surface, -, hcode⟩)
    · split_ifs at hexpired with hnow
      · rw [List.mem_singleton.1 hexpired]
        exact .expired hnow
      · exact absurd hexpired List.not_mem_nil
    · exact .duplicate surface htwo
    · obtain ⟨probe, hprobe, rfl⟩ := exists_probe plan surface
      rw [surfaceCodes, hobserved, expectedDigest_eq plan hprobe] at hcode
      cases hfirst : observed observations probe.surface with
      | none =>
        rw [hfirst] at hcode
        rw [List.mem_singleton.1 hcode]
        exact .missing probe hprobe hfirst
      | some observation =>
        rw [hfirst] at hcode
        simp only [List.mem_append, List.mem_map] at hcode
        obtain (hbinding | ⟨failure, hfailure, rfl⟩) | ⟨error, herror, rfl⟩ := hcode
        · split_ifs at hbinding with hdigest
          · exact absurd hbinding List.not_mem_nil
          · rw [List.mem_singleton.1 hbinding]
            exact .binding probe hprobe observation hfirst fun heq => hdigest (by rw [heq])
        · exact .check probe hprobe observation hfirst failure hfailure
        · exact .error probe hprobe observation hfirst error herror
  · intro happlies
    have hmem : ∀ surface, surface ∈ Table.orderBy LeakageSurface.value requiredSurfaces :=
      fun surface => (Table.mem_orderBy _).2 (mem_requiredSurfaces surface)
    cases happlies with
    | expired hnow => exact .inl (.inl (by rw [if_pos hnow]; exact List.mem_singleton_self _))
    | duplicate surface htwo => exact .inl (.inr ⟨surface, htwo, rfl⟩)
    | missing probe hprobe hnone =>
      refine .inr ⟨probe.surface, hmem _, ?_⟩
      rw [surfaceCodes, hobserved, hnone]
      exact List.mem_singleton_self _
    | binding probe hprobe observation hfirst hdigest =>
      refine .inr ⟨probe.surface, hmem _, ?_⟩
      rw [surfaceCodes, hobserved, hfirst, expectedDigest_eq plan hprobe]
      simp [hdigest]
    | check probe hprobe observation hfirst failure hfailure =>
      refine .inr ⟨probe.surface, hmem _, ?_⟩
      rw [surfaceCodes, hobserved, hfirst]
      refine List.mem_append_left _ (List.mem_append_right _ ?_)
      exact List.mem_map_of_mem hfailure
    | error probe hprobe observation hfirst error herror =>
      refine .inr ⟨probe.surface, hmem _, ?_⟩
      rw [surfaceCodes, hobserved, hfirst]
      exact List.mem_append_right _ (List.mem_map_of_mem herror)

theorem nodup_denialCodes (observations : List LeakageProbeObservation) (now : Time) :
    (denialCodes plan observations now).Nodup :=
  List.nodup_reverse.2 (List.nodup_dedup _)

theorem qualify_ok {outcome : LeakageQualificationOutcome}
    (h : qualify plan observations now = .ok outcome) :
    (denialCodes plan observations now).length ≤ 48 ∧
      outcome.denialCodes = denialCodes plan observations now := by
  by_cases hlength : (denialCodes plan observations now).length ≤ 48
  · rw [qualify, dif_pos hlength] at h
    cases h
    exact ⟨hlength, rfl⟩
  · rw [qualify, dif_neg hlength] at h
    cases h

theorem qualify_isOk (h : (denialCodes plan observations now).length ≤ 48) :
    ∃ outcome, qualify plan observations now = .ok outcome := by
  unfold qualify
  rw [dif_pos h]
  exact ⟨_, rfl⟩

theorem filter_singleton_iff {surface : LeakageSurface} :
    observations.filter (fun other => other.surface = surface) = [observation] ↔
      observed observations surface = some observation ∧
        ¬2 ≤ observations.countP fun other => other.surface = surface := by
  rw [observed, ← List.head?_filter, List.countP_eq_length_filter]
  cases observations.filter fun other => other.surface = surface with
  | nil => simp
  | cons first rest => cases rest <;> simp

/-- Nothing applies just when the plan can be admitted. -/
theorem admissible_iff (observations : List LeakageProbeObservation) (now : Time) :
    Admissible plan observations now ↔ ∀ code, ¬Applies plan observations now code := by
  constructor
  · rintro ⟨hnow, hclean⟩ code happlies
    have hfirst : ∀ probe ∈ plan.probes, ∃ observation,
        observed observations probe.surface = some observation ∧ observation.Clean probe := by
      intro probe hprobe
      obtain ⟨observation, hone, hclean⟩ := hclean probe hprobe
      exact ⟨observation, (filter_singleton_iff.1 hone).1, hclean⟩
    cases happlies with
    | expired hexpired => exact absurd hnow (not_lt.2 hexpired)
    | duplicate surface htwo =>
      obtain ⟨probe, hprobe, rfl⟩ := exists_probe plan surface
      obtain ⟨observation, hone, -⟩ := hclean probe hprobe
      exact (filter_singleton_iff.1 hone).2 htwo
    | missing probe hprobe hnone =>
      obtain ⟨observation, hsome, -⟩ := hfirst probe hprobe
      rw [hnone] at hsome
      cases hsome
    | binding probe hprobe observation hsome hdigest =>
      obtain ⟨other, hother, hclean⟩ := hfirst probe hprobe
      rw [hsome] at hother
      cases hother
      exact hdigest hclean.bound
    | check probe hprobe observation hsome failure hfailure =>
      obtain ⟨other, hother, hclean⟩ := hfirst probe hprobe
      rw [hsome] at hother
      cases hother
      rw [observation.failures_eq_nil_iff.2
        ⟨hclean.canary, hclean.egress, hclean.size, hclean.cleanup⟩] at hfailure
      exact List.not_mem_nil hfailure
    | error probe hprobe observation hsome error herror =>
      obtain ⟨other, hother, hclean⟩ := hfirst probe hprobe
      rw [hsome] at hother
      cases hother
      rw [hclean.quiet] at herror
      exact List.not_mem_nil herror
  · intro hnone
    refine ⟨not_le.1 fun hexpired => hnone _ (.expired hexpired), fun probe hprobe => ?_⟩
    cases hfirst : observed observations probe.surface with
    | none => exact absurd (.missing probe hprobe hfirst) (hnone _)
    | some observation =>
      refine ⟨observation, filter_singleton_iff.2
        ⟨hfirst, fun htwo => hnone _ (.duplicate probe.surface htwo)⟩, ?_⟩
      have hfailures : observation.failures = [] :=
        List.eq_nil_iff_forall_not_mem.2 fun code hcode =>
          hnone _ (.check probe hprobe observation hfirst code hcode)
      obtain ⟨hcanary, hegress, hsize, hcleanup⟩ := observation.failures_eq_nil_iff.1 hfailures
      exact {
        bound := by
          by_contra hdigest
          exact hnone _ (.binding probe hprobe observation hfirst hdigest)
        canary := hcanary
        egress := hegress
        size := hsize
        cleanup := hcleanup
        quiet := List.eq_nil_iff_forall_not_mem.2 fun code hcode =>
          hnone _ (.error probe hprobe observation hfirst code hcode) }

/-- A qualification comes to an outcome, which admits what is admissible and denies with each code
that applies, just when 48 codes are enough. -/
theorem qualify_settles_iff (plan : LeakageQualificationPlan)
    (observations : List LeakageProbeObservation) (now : Time) :
    (∃ outcome, qualify plan observations now = .ok outcome ∧
      (outcome.status = .admitted ↔ Admissible plan observations now) ∧
      (outcome.status = .denied →
        ∀ code, code ∈ outcome.denialCodes ↔ Applies plan observations now code)) ↔
    ∃ codes : Finset String, codes.card ≤ 48 ∧
      ∀ code, Applies plan observations now code → code ∈ codes := by
  constructor
  · rintro ⟨outcome, hok, -⟩
    refine ⟨(denialCodes plan observations now).toFinset, ?_, ?_⟩
    · exact le_trans (List.toFinset_card_le _) (qualify_ok hok).1
    · intro code hcode
      exact List.mem_toFinset.2 (mem_denialCodes.2 hcode)
  · rintro ⟨codes, hcard, hcodes⟩
    have hsubset : (denialCodes plan observations now).toFinset ⊆ codes := by
      intro code hcode
      exact hcodes code (mem_denialCodes.1 (List.mem_toFinset.1 hcode))
    have hlength : (denialCodes plan observations now).length ≤ 48 := by
      rw [← List.toFinset_card_of_nodup (nodup_denialCodes observations now)]
      exact le_trans (Finset.card_le_card hsubset) hcard
    obtain ⟨outcome, hok⟩ := qualify_isOk hlength
    have hcodes' := (qualify_ok hok).2
    refine ⟨outcome, hok, ?_, ?_⟩
    · rw [outcome.status_iff, admissible_iff, hcodes', List.eq_nil_iff_forall_not_mem]
      exact forall_congr' fun code => not_congr mem_denialCodes
    · intro _ code
      rw [hcodes']
      exact mem_denialCodes

/-! ## Too many codes -/

section

/-- Each surface is planned. -/
def everySurface : LeakageQualificationPlan where
  createdAt := 0
  expiresAt := 1
  probes := requiredSurfaces.map fun surface => ⟨surface, "artifact"⟩
  probes_nodup := by decide
  probes_cover := by
    intro surface
    cases surface <;> decide
  expires := by decide

/-- A surface that fails its probe in eight ways. -/
def failing (surface : LeakageSurface) : LeakageProbeObservation where
  surface := surface
  artifactDigest := "artifact"
  canaryAbsent := true
  egressBoundaryEnforced := true
  sizeBoundaryEnforced := true
  cleanupVerified := true
  errorCodes := ["1", "2", "3", "4", "5", "6", "7", "8"]
  errorCodes_bounds := by decide

/-- The eight codes of a failing surface. -/
theorem failing_code (surface : LeakageSurface) {code : String}
    (hcode : code ∈ (failing surface).errorCodes) :
    "probe_error:" ++ surface.value ++ ":" ++ code ∈
      denialCodes everySurface (requiredSurfaces.map failing) 0 := by
  obtain ⟨probe, hprobe, rfl⟩ := exists_probe everySurface surface
  have hobserved : observed (requiredSurfaces.map failing) probe.surface =
      some (failing probe.surface) := by
    cases probe.surface <;> rfl
  exact mem_denialCodes.2 (.error probe hprobe _ hobserved code hcode)

theorem value_injective : Function.Injective LeakageSurface.value := by
  intro surface surface' h
  cases surface <;> cases surface' <;> first | rfl | exact absurd h (by decide)

theorem failing_denialCodes :
    48 < (denialCodes everySurface (requiredSurfaces.map failing) 0).length := by
  let codes := requiredSurfaces ×ˢ ["1", "2", "3", "4", "5", "6", "7", "8"]
  let name : LeakageSurface × String → String :=
    fun p => "probe_error:" ++ p.1.value ++ ":" ++ p.2
  have hnodup : (codes.map name).Nodup := by
    refine List.Nodup.map_on ?_ (List.Nodup.product (by decide) (by decide))
    rintro ⟨surface, code⟩ hp ⟨surface', code'⟩ hp' h
    have hlength : ∀ code ∈ ["1", "2", "3", "4", "5", "6", "7", "8"], code.toList.length = 1 := by
      decide
    have hsize : code.toList.length = code'.toList.length :=
      (hlength _ (List.mem_product.1 hp).2).trans (hlength _ (List.mem_product.1 hp').2).symm
    -- the codes are of one length, so the names of the surfaces agree
    have hlists := congrArg String.toList h
    simp only [name, String.toList_append, List.append_assoc, List.append_cancel_left_eq] at hlists
    obtain ⟨hvalue, hcode⟩ := List.append_inj' hlists (by simpa using hsize)
    simp only [List.append_cancel_left_eq] at hcode
    rw [value_injective (String.toList_injective hvalue), String.toList_injective hcode]
  have hsubset : codes.map name ⊆ denialCodes everySurface (requiredSurfaces.map failing) 0 := by
    intro code hcode
    obtain ⟨p, hp, rfl⟩ := List.mem_map.1 hcode
    exact failing_code p.1 (List.mem_product.1 hp).2
  have hlength := (hnodup.subperm hsubset).length_le
  rw [List.length_map, List.length_product] at hlength
  exact lt_of_lt_of_le (by decide) hlength

/-- Eight failing surfaces come to no outcome. -/
theorem failing_surfaces_raise :
    ¬∃ outcome, qualify everySurface (requiredSurfaces.map failing) 0 = .ok outcome ∧
      (outcome.status = .admitted ↔ Admissible everySurface (requiredSurfaces.map failing) 0) ∧
      (outcome.status = .denied → ∀ code, code ∈ outcome.denialCodes ↔
        Applies everySurface (requiredSurfaces.map failing) 0 code) := by
  rintro ⟨outcome, hok, -⟩
  exact absurd (qualify_ok hok).1 (Nat.not_le.2 failing_denialCodes)

end

end Leakage

end VulnLoom

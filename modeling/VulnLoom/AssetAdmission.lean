import Mathlib
import VulnLoom.AssetDiscoveryService

/-!
# What is admitted

The cascade of `decide` in its own terms : an asset is admitted when nothing excludes it and it is
an endpoint that was assigned, or, where the mode derives assets from an entity, when its
evidence proves the derivation (`admitted_iff`). A verdict depends on the authorisation and on the
observation alone.
-/

set_option linter.unusedSectionVars false

namespace VulnLoom

open DomainNames

variable [CanonicalDigest String]
  [CanonicalDigest AssetDiscoveryAuthorization] [CanonicalDigest AssetDiscoveryQuery]
  [CanonicalDigest AssetDiscoveryPlan] [CanonicalDigest DiscoveredAsset]
  [CanonicalDigest AssetAttributionEvidence] [CanonicalDigest AssetAdmissionDecision]
  [CanonicalDigest AuthorizedAsset] [CanonicalDigest AssetDiscoveryOutcome]

/-! ## Evidence -/

/-- A piece of evidence of this kind supports the attribution. -/
def AssetDiscoveryObservation.Supports (observation : AssetDiscoveryObservation)
    (kind : AssetAttributionKind) (evidence : AssetAttributionEvidence) : Prop :=
  evidence ∈ observation.attribution ∧ evidence.verdict = .supported ∧ evidence.kind = kind

variable {authorization : AssetDiscoveryAuthorization} {observation : AssetDiscoveryObservation}
variable {kind : AssetAttributionKind}

/-- An observation has one piece of evidence of a kind at most, so the dictionary finds it. -/
theorem supported_eq_some {evidence : AssetAttributionEvidence} :
    supported observation kind = some evidence ↔ observation.Supports kind evidence := by
  have hfilter : ∀ item ∈ observation.attribution.filter (fun item =>
      item.verdict = .supported ∧ item.kind = kind), observation.Supports kind item := by
    intro item hitem
    simpa [AssetDiscoveryObservation.Supports] using hitem
  constructor
  · intro h
    exact hfilter evidence (List.mem_of_getLast? h)
  · intro h
    have hmem : evidence ∈ observation.attribution.filter (fun item =>
        item.verdict = .supported ∧ item.kind = kind) := by
      simpa [AssetDiscoveryObservation.Supports] using h
    obtain ⟨last, hlast⟩ : ∃ last, supported observation kind = some last := by
      rw [supported, ← Option.isSome_iff_exists, List.getLast?_isSome]
      exact List.ne_nil_of_mem hmem
    obtain ⟨hin, -, hkind⟩ := hfilter last (List.mem_of_getLast? hlast)
    rw [hlast, Table.eq_of_key observation.attribution_kinds hin h.1 (hkind.trans h.2.2.symm)]

theorem supported_isSome : (supported observation kind).isSome = true ↔
      ∃ evidence, observation.Supports kind evidence := by
  simp only [Option.isSome_iff_exists, supported_eq_some]

/-- The texts are compared as names are. -/
theorem isUnder_iff {locator domain : String} :
    isUnder locator domain = true ↔ AtOrBelow locator domain := by
  rw [atOrBelow_iff, isUnder, decide_eq_true_eq]

/-! ## Admission -/

namespace AssetDiscoveryObservation

/-- The name of the asset is one of an excluded suffix, or below one. -/
def InExcludedDomain (observation : AssetDiscoveryObservation)
    (authorization : AssetDiscoveryAuthorization) : Prop :=
  observation.asset.locatorKind = .hostname ∧
    ∃ suffix ∈ authorization.excludedDomainSuffixes, AtOrBelow observation.asset.locator suffix

/-- Evidence attributes the asset to another legal entity, or excludes it. -/
def OfOthers (observation : AssetDiscoveryObservation) : Prop :=
  (∃ evidence, observation.Supports .crossLegalEntity evidence) ∨
    ∃ evidence, observation.Supports .explicitExclusion evidence

/-- The scheme, the host and the port were sealed by the authorisation. -/
def Assigned (observation : AssetDiscoveryObservation)
    (authorization : AssetDiscoveryAuthorization) : Prop :=
  observation.asset.locatorKind = .hostname ∧
    observation.asset.locator ∈ authorization.exactHosts ∧
    observation.asset.endpoint ∈ authorization.exactEndpoints

/-- Evidence for an authorised root domain that the asset is at or below. -/
def UnderRoot (observation : AssetDiscoveryObservation)
    (authorization : AssetDiscoveryAuthorization) : Prop :=
  observation.asset.locatorKind = .hostname ∧
    ∃ root ∈ authorization.rootDomains, AtOrBelow observation.asset.locator root ∧
      ∃ evidence, observation.Supports .authorizedRootDomain evidence ∧
        evidence.subjectDigest = canonicalDigest root

/-- Evidence for an authorised ICP registration. -/
def OfRegistration (observation : AssetDiscoveryObservation)
    (authorization : AssetDiscoveryAuthorization) : Prop :=
  ∃ evidence, observation.Supports .icpRegistrationMatch evidence ∧
    evidence.subjectDigest ∈ authorization.icpRegistrationDigests

/-- Evidence that the operator's inventory has the asset. -/
def InInventory (observation : AssetDiscoveryObservation) : Prop :=
  ∃ evidence, observation.Supports .operatorInventoryMatch evidence ∧
    evidence.subjectDigest = canonicalDigest observation.asset.locator

end AssetDiscoveryObservation

/-- The verdict on an observation. -/
def verdictFor (authorization : AssetDiscoveryAuthorization)
    (observation : AssetDiscoveryObservation) : AssetAdmissionVerdict :=
  verdictOfReason (decisionReason authorization observation)

/-- An asset is admitted when nothing excludes it, and it is assigned or, in a mode that derives
assets from an entity, derived. -/
theorem admitted_iff : verdictFor authorization observation = .admitted ↔
    ¬observation.InExcludedDomain authorization ∧ ¬observation.OfOthers ∧
      (observation.Assigned authorization ∨
        authorization.mode ≠ .exactAssignment ∧
          authorization.mode ≠ .supplyChainWithApproval ∧
          (observation.UnderRoot authorization ∨ observation.OfRegistration authorization ∨
            observation.InInventory)) := by
  have hexcluded : (observation.asset.locatorKind = .hostname ∧
      authorization.excludedDomainSuffixes.any (isUnder observation.asset.locator) = true) ↔
      observation.InExcludedDomain authorization := by
    simp only [AssetDiscoveryObservation.InExcludedDomain, List.any_eq_true, isUnder_iff]
  have hothers : ((supported observation .crossLegalEntity).isSome = true ∨
      (supported observation .explicitExclusion).isSome = true) ↔ observation.OfOthers := by
    simp only [AssetDiscoveryObservation.OfOthers, supported_isSome]
  have hassigned : (observation.asset.locatorKind = .hostname ∧
      observation.asset.locator ∈ authorization.exactHosts ∧
      observation.asset.endpoint ∈ authorization.exactEndpoints) ↔
      observation.Assigned authorization :=
    Iff.rfl
  have hroot : (observation.asset.locatorKind = .hostname ∧
      (supported observation .authorizedRootDomain).any (fun evidence =>
        (authorization.rootDomains.filter (isUnder observation.asset.locator)).any fun root =>
          evidence.subjectDigest = canonicalDigest root) = true) ↔
      observation.UnderRoot authorization := by
    simp only [AssetDiscoveryObservation.UnderRoot, Option.any_eq_true, supported_eq_some,
      List.any_eq_true, List.mem_filter, isUnder_iff, decide_eq_true_eq]
    constructor
    · rintro ⟨hkind, evidence, hsupports, root, ⟨hmem, hunder⟩, hsubject⟩
      exact ⟨hkind, root, hmem, hunder, evidence, hsupports, hsubject⟩
    · rintro ⟨hkind, root, hmem, hunder, evidence, hsupports, hsubject⟩
      exact ⟨hkind, evidence, hsupports, root, ⟨hmem, hunder⟩, hsubject⟩
  have hicp : (supported observation .icpRegistrationMatch).any (fun evidence =>
      evidence.subjectDigest ∈ authorization.icpRegistrationDigests) = true ↔
      observation.OfRegistration authorization := by
    simp only [AssetDiscoveryObservation.OfRegistration, Option.any_eq_true, supported_eq_some,
      decide_eq_true_eq]
  have hinventory : (supported observation .operatorInventoryMatch).any (fun evidence =>
      evidence.subjectDigest = canonicalDigest observation.asset.locator) = true ↔
      observation.InInventory := by
    simp only [AssetDiscoveryObservation.InInventory, Option.any_eq_true, supported_eq_some,
      decide_eq_true_eq]
  rw [verdictFor, decisionReason, ← hexcluded, ← hothers, ← hassigned, ← hroot, ← hicp,
    ← hinventory]
  split_ifs <;> simp_all [verdictOfReason]

end VulnLoom

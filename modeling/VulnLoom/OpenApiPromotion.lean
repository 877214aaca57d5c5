import VulnLoom.EndpointReconService
import VulnLoom.PathTemplates
import VulnLoom.RequestUrls

/-!
# The promotion of OpenAPI discoveries

An observation of an OpenAPI document holds path templates. An operator selects some of them and
gives each a concrete path, which becomes the path of a seed. `_matches_template` compares the
segments of the two : a segment of the template is one parameter, or it is a literal. A template may
have parameters inside of a segment as well, and such a segment is its own literal
(`promotes_instances_iff`).
-/

set_option linter.unusedSectionVars false

namespace VulnLoom

open PathTemplates

/-! ## Discoveries -/

inductive OpenApiPromotionError
  | validationError (message : String)
  | rejected (message : String)
  deriving DecidableEq

inductive OpenApiHttpMethod
  | delete
  | get
  | head
  | options
  | patch
  | post
  | put
  deriving DecidableEq

def OpenApiHttpMethod.value : OpenApiHttpMethod → String
  | .delete => "DELETE"
  | .get => "GET"
  | .head => "HEAD"
  | .options => "OPTIONS"
  | .patch => "PATCH"
  | .post => "POST"
  | .put => "PUT"

/-- `[A-Za-z0-9._-]`. -/
def isParameterChar (c : Char) : Bool :=
  c.isAlphanum || c ∈ ['.', '_', '-']

/-- `[A-Za-z0-9._-]{1,128}`. -/
def isParameterName (name : List Char) : Bool :=
  1 ≤ name.length ∧ name.length ≤ 128 ∧ name.all isParameterChar

/-- `[A-Za-z0-9._~!$&'()*+,;=:@-]`. -/
def isTemplateChar (c : Char) : Bool :=
  c.isAlphanum || c ∈ "._~!$&'()*+,;=:@-".toList

/-- What `_PATH_TEMPLATE` repeats, with the name that was read of an open parameter. -/
def readParts : Option (List Char) → List Char → Option (List Part)
  | none, [] => some []
  | some _, [] => none
  | none, c :: text =>
    if c = '{' then readParts (some []) text
    else if isTemplateChar c ∨ c = '/' then (readParts none text).map (.literal c :: ·)
    else none
  | some name, c :: text =>
    if c = '}' then
      if isParameterName name then (readParts none text).map (.parameter name :: ·) else none
    else if isParameterChar c then readParts (some (name ++ [c])) text
    else none

/-- `_PATH_TEMPLATE.fullmatch`. -/
def isPathTemplate (value : List Char) : Bool :=
  value.head? = some '/' ∧ (readParts none value).isSome

/-- `canonical_template`. -/
def requireCanonicalTemplate (value : String) : Except OpenApiPromotionError Unit :=
  raiseIf ((∃ c ∈ value.toList, 128 ≤ c.toNat) ∨ isPathTemplate value.toList = false ∨
      "//".toList <:+: value.toList ∨ '%' ∈ value.toList ∨ '\\' ∈ value.toList ∨
      ∃ segment ∈ value.toList.splitOn '/', segment = ['.'] ∨ segment = ['.', '.'])
    (.validationError "OpenAPI path template is not canonical")

structure OpenApiPathDiscovery where
  pathTemplate : String
  methods : List OpenApiHttpMethod
  template_length : 1 ≤ pathTemplate.toList.length ∧ pathTemplate.toList.length ≤ 1024
  template_canonical : requireCanonicalTemplate pathTemplate = .ok ()
  methods_length : 1 ≤ methods.length ∧ methods.length ≤ 7
  methods_ordered : methods.Pairwise fun a b => a.value < b.value
  deriving DecidableEq

/-! ## Selections -/

structure OpenApiDiscoverySelection where
  discoveryId : Digest
  concretePath : String
  deriving DecidableEq

class OpenApiDigests where
  discovery : CanonicalDigest (String × List OpenApiHttpMethod)
  selection : CanonicalDigest OpenApiDiscoverySelection

attribute [reducible, instance] OpenApiDigests.discovery OpenApiDigests.selection

section

variable [OpenApiDigests]

def OpenApiPathDiscovery.discoveryId (discovery : OpenApiPathDiscovery) : Digest :=
  canonicalDigest (discovery.pathTemplate, discovery.methods)

def OpenApiDiscoverySelection.selectionId (selection : OpenApiDiscoverySelection) : Digest :=
  canonicalDigest selection

/-- The discoveries are ordered by their identifiers, without repetitions. -/
structure OpenApiDocumentObservation where
  paths : List OpenApiPathDiscovery
  paths_length : 1 ≤ paths.length ∧ paths.length ≤ 1000
  ordered : paths.Pairwise fun a b => a.discoveryId < b.discoveryId

/-- `_PARAMETER.fullmatch`. -/
def isParameter (segment : List Char) : Bool :=
  segment.head? = some '{' ∧ segment.tail.getLast? = some '}' ∧
    isParameterName segment.tail.dropLast

/-- What `_matches_template` asks of two segments. -/
def matchesSegment (expected actual : List Char) : Bool :=
  if isParameter expected then actual ≠ [] ∧ '{' ∉ actual ∧ '}' ∉ actual else expected = actual

/-- `_matches_template`. -/
def matchesTemplate (template concrete : String) : Bool :=
  let templateSegments := template.toList.splitOn '/'
  let concreteSegments := concrete.toList.splitOn '/'
  templateSegments.length = concreteSegments.length ∧
    (templateSegments.zip concreteSegments).all fun pair => matchesSegment pair.1 pair.2

/-- `_READ_ONLY_METHODS`. -/
def readOnlyMethods : List OpenApiHttpMethod :=
  [.get, .head]

section

variable [PythonUrl]

/-- `OpenApiDiscoverySelection.create`, with the bounds of `concrete_path`. -/
def OpenApiDiscoverySelection.create (discoveryId : Digest) (concretePath : String) :
    Except EndpointReconError OpenApiDiscoverySelection := do
  raiseIf (concretePath.toList.length < 1 ∨ 1024 < concretePath.toList.length)
    (.validationError "String should have at least 1 and at most 1024 characters")
  let seed ← EndpointSeed.create concretePath
  return ⟨discoveryId, seed.path⟩

/-- The body of the loop of `_validate_selections`. -/
def validateSelection (observation : OpenApiDocumentObservation) (selection : Digest × String) :
    Except OpenApiPromotionError OpenApiDiscoverySelection := do
  let discovery ← orRaise
    (observation.paths.find? fun discovery => discovery.discoveryId = selection.1)
    (.rejected "OpenAPI discovery selection is not authoritative")
  raiseIf (¬∃ method ∈ discovery.methods, method ∈ readOnlyMethods)
    (.rejected "OpenAPI discovery has no read-only method")
  raiseIf (matchesTemplate discovery.pathTemplate selection.2 = false)
    (.rejected "OpenAPI discovery concrete path does not match its template")
  (OpenApiDiscoverySelection.create selection.1 selection.2).mapError fun _ =>
    .rejected "OpenAPI discovery concrete path is not canonical"

/-- `_validate_selections`. -/
def validateSelections (observation : OpenApiDocumentObservation)
    (selections : List (Digest × String)) :
    Except OpenApiPromotionError (List OpenApiDiscoverySelection) := do
  let result ← selections.mapM (validateSelection observation)
  let ordered := Table.orderBy OpenApiDiscoverySelection.selectionId result
  raiseIf (ordered = [])
    (.rejected "OpenAPI discovery promotion requires an explicit selection")
  return ordered

/-! ## What is claimed -/

/-- A character of a template, or a name of `_PATH_TEMPLATE`. -/
def IsTemplatePart : Part → Prop
  | .literal c => isTemplateChar c ∨ c = '/'
  | .parameter name => isParameterName name

/-- A path has a value for each parameter of a template. -/
def IsInstance (template concrete : String) : Prop :=
  ∃ parts, (∀ part ∈ parts, IsTemplatePart part) ∧ template.toList = render parts ∧
    Fills parts concrete.toList

/-- A path of a seed. -/
def IsSeedPath (path : String) : Prop :=
  (1 ≤ path.toList.length ∧ path.toList.length ≤ 1024) ∧ ∃ seed, EndpointSeed.create path = .ok seed

/-- A selection is among those that are validated. -/
def AcceptedSelection (observation : OpenApiDocumentObservation) (discoveryId : Digest)
    (concrete : String) : Prop :=
  ∃ selections, (discoveryId, concrete) ∈ selections ∧
    ∃ ordered, validateSelections observation selections = .ok ordered

/-- A discovery is promoted to the instances of its template. -/
structure PromotesInstances (observation : OpenApiDocumentObservation)
    (discovery : OpenApiPathDiscovery) : Prop where
  exact : ∀ concrete, AcceptedSelection observation discovery.discoveryId concrete ↔
    IsSeedPath concrete ∧ IsInstance discovery.pathTemplate concrete
  resolved : ∀ concrete, AcceptedSelection observation discovery.discoveryId concrete →
    ∀ c ∈ concrete.toList, c ∉ ['{', '}']

/-- A segment that has a parameter is this parameter. -/
def WholeParameters (template : String) : Prop :=
  ∀ segment ∈ template.toList.splitOn '/', '{' ∈ segment → isParameter segment

instance (template : String) : Decidable (WholeParameters template) :=
  inferInstanceAs (Decidable (∀ segment ∈ template.toList.splitOn '/', _))

/-! ## Templates -/

theorem range_of_isAlphanum {c : Char} (h : c.isAlphanum) : 48 ≤ c.toNat ∧ c.toNat ≤ 122 := by
  rw [isAlphanum_iff, isAlpha_iff, toNat_of_isUpper, toNat_of_isLower, toNat_of_isDigit] at h
  omega

/-- What a character of a template is not. -/
theorem isTemplateChar_spec {c : Char} (h : isTemplateChar c) :
    32 < c.toNat ∧ c.toNat < 127 ∧ c ∉ ['/', '%', '\\', '?', '#', '{', '}'] := by
  rw [isTemplateChar, Bool.or_eq_true, decide_eq_true_eq] at h
  rcases h with h | h
  · have hrange := range_of_isAlphanum h
    refine ⟨by omega, by omega, fun hmem => ?_⟩
    have hnone : ∀ c ∈ ['/', '%', '\\', '?', '#', '{', '}'], c.isAlphanum = false := by decide
    rw [hnone c hmem] at h
    cases h
  · have hall : ∀ c ∈ "._~!$&'()*+,;=:@-".toList,
        32 < c.toNat ∧ c.toNat < 127 ∧ c ∉ ['/', '%', '\\', '?', '#', '{', '}'] := by decide
    exact hall c h

theorem isParameterChar_spec {c : Char} (h : isParameterChar c) : c ∉ ['/', '{', '}'] := by
  rw [isParameterChar, Bool.or_eq_true, decide_eq_true_eq] at h
  intro hmem
  have hnone : ∀ c ∈ ['/', '{', '}'], c.isAlphanum = false ∧ c ∉ ['.', '_', '-'] := by decide
  rcases h with h | h
  · rw [(hnone c hmem).1] at h
    cases h
  · exact (hnone c hmem).2 h

theorem isParameter_iff {segment : List Char} : isParameter segment ↔
    ∃ name, isParameterName name ∧ segment = (Part.parameter name).render := by
  simp only [isParameter, Part.render, decide_eq_true_eq]
  constructor
  · rintro ⟨hhead, hlast, hname⟩
    obtain ⟨rest, rfl⟩ := List.head?_eq_some_iff.1 hhead
    obtain ⟨name, hrest⟩ := List.getLast?_eq_some_iff.1 hlast
    rw [List.tail_cons] at hrest
    subst hrest
    rw [List.tail_cons, List.dropLast_concat] at hname
    exact ⟨name, hname, rfl⟩
  · rintro ⟨name, hname, rfl⟩
    simpa using hname

/-- A text that the pattern reads is written as its parts. -/
theorem readParts_spec : ∀ {text : List Char} {pending : Option (List Char)} {parts : List Part},
    readParts pending text = some parts → (pending.elim [] ('{' :: ·)) ++ text = render parts ∧
      ∀ part ∈ parts, IsTemplatePart part
  | [], none, parts, h => by
    cases h
    exact ⟨rfl, by simp⟩
  | [], some name, parts, h => by cases h
  | c :: text, none, parts, h => by
    rw [readParts] at h
    split_ifs at h with hopen hchar
    · obtain ⟨htext, hparts⟩ := readParts_spec h
      exact ⟨hopen ▸ htext, hparts⟩
    · obtain ⟨rest, hrest, rfl⟩ := Option.map_eq_some_iff.1 h
      obtain ⟨htext, hparts⟩ := readParts_spec hrest
      refine ⟨congrArg (c :: ·) htext, ?_⟩
      rw [List.forall_mem_cons]
      exact ⟨hchar, hparts⟩
  | c :: text, some name, parts, h => by
    rw [readParts] at h
    split_ifs at h with hclose hname hchar
    · subst hclose
      obtain ⟨rest, hrest, rfl⟩ := Option.map_eq_some_iff.1 h
      obtain ⟨htext, hparts⟩ := readParts_spec hrest
      refine ⟨?_, ?_⟩
      · change '{' :: (name ++ '}' :: text) = '{' :: (name ++ ['}']) ++ render rest
        rw [← htext]
        simp
      · rw [List.forall_mem_cons]
        exact ⟨hname, hparts⟩
    · obtain ⟨htext, hparts⟩ := readParts_spec h
      refine ⟨?_, hparts⟩
      rw [← htext]
      simp

/-- The parts of a template. -/
structure TemplateParts (template : String) (parts : List Part) : Prop where
  valid : ∀ part ∈ parts, IsTemplatePart part
  text : template.toList = render parts

variable {template concrete : String} {parts : List Part}

theorem OpenApiPathDiscovery.exists_parts (discovery : OpenApiPathDiscovery) :
    ∃ parts, TemplateParts discovery.pathTemplate parts := by
  have hcanonical := discovery.template_canonical
  rw [requireCanonicalTemplate, raiseIf_eq_ok, not_or, not_or] at hcanonical
  have hread := hcanonical.2.1
  rw [Bool.not_eq_false, isPathTemplate, decide_eq_true_eq] at hread
  obtain ⟨parts, hparts⟩ := Option.isSome_iff_exists.1 hread.2
  obtain ⟨htext, hall⟩ := readParts_spec hparts
  exact ⟨parts, hall, htext⟩

namespace TemplateParts

theorem notMem_name (h : TemplateParts template parts) {name : List Char}
    (hname : .parameter name ∈ parts) : isParameterName name ∧ ∀ c ∈ name, c ∉ ['/', '{', '}'] := by
  have hpart : isParameterName name := h.valid _ hname
  refine ⟨hpart, fun c hc => isParameterChar_spec ?_⟩
  simp only [isParameterName, decide_eq_true_eq, List.all_eq_true] at hpart
  exact hpart.2.2 c hc

theorem splitOn (h : TemplateParts template parts) :
    template.toList.splitOn '/' = (segments parts).map render := by
  rw [h.text]
  exact splitOn_render fun name hname hslash => (h.notMem_name hname).2 _ hslash (by decide)

theorem literal_spec (h : TemplateParts template parts) {c : Char} (hc : .literal c ∈ parts) :
    32 < c.toNat ∧ c.toNat < 127 ∧ c ∉ ['%', '\\', '?', '#', '{', '}'] := by
  have hpart : isTemplateChar c ∨ c = '/' := h.valid _ hc
  rcases hpart with hchar | rfl
  · obtain ⟨hlow, hhigh, hnot⟩ := isTemplateChar_spec hchar
    exact ⟨hlow, hhigh, fun hmem => hnot (List.mem_cons_of_mem _ hmem)⟩
  · decide

end TemplateParts

/-! ## Matching -/

theorem matchesTemplate_iff : matchesTemplate template concrete ↔
    List.Forall₂ (fun expected actual => matchesSegment expected actual)
      (template.toList.splitOn '/') (concrete.toList.splitOn '/') := by
  simp only [matchesTemplate, decide_eq_true_eq, List.all_eq_true, List.forall₂_iff_zip,
    Prod.forall]

/-- A segment that is one parameter, or has none, is matched by what fills it. -/
theorem matchesSegment_iff (h : TemplateParts template parts) (hwhole : WholeParameters template)
    {segment : List Part} (hsegment : segment ∈ segments parts) {actual : List Char}
    (hactual : '/' ∉ actual) : matchesSegment (render segment) actual ↔ Fills segment actual := by
  have hmem : render segment ∈ template.toList.splitOn '/' := by
    rw [h.splitOn]
    exact List.mem_map_of_mem hsegment
  by_cases hopen : '{' ∈ render segment
  · have hparameter := hwhole _ hmem hopen
    obtain ⟨name, hname, hrender⟩ := isParameter_iff.1 hparameter
    have hliteral : .literal '{' ∉ segment := fun hc =>
      (h.literal_spec (mem_of_mem_splitOn hsegment hc)).2.2 (by decide)
    have hclose : '}' ∉ name := by
      intro hc
      simp only [isParameterName, decide_eq_true_eq, List.all_eq_true] at hname
      exact isParameterChar_spec (hname.2.2 _ hc) (by decide)
    rw [matchesSegment, if_pos hparameter, decide_eq_true_eq,
      eq_of_render_parameter hclose hliteral hrender, fills_parameter]
    refine and_congr_right fun _ => ?_
    constructor
    · rintro ⟨hopen, hclose⟩ c hc hbrace
      simp only [List.mem_cons, List.not_mem_nil, or_false] at hbrace
      rcases hbrace with rfl | rfl | rfl
      · exact hactual hc
      · exact hopen hc
      · exact hclose hc
    · intro hall
      exact ⟨fun hc => hall _ hc (by decide), fun hc => hall _ hc (by decide)⟩
  · have hparameter : ¬isParameter (render segment) := by
      intro hparameter
      obtain ⟨name, -, hrender⟩ := isParameter_iff.1 hparameter
      exact hopen (hrender ▸ List.mem_cons_self)
    rw [fills_of_plain hopen, matchesSegment, if_neg hparameter, decide_eq_true_eq, eq_comm]

theorem matchesTemplate_iff_fills (h : TemplateParts template parts)
    (hwhole : WholeParameters template) :
    matchesTemplate template concrete ↔ Fills parts concrete.toList := by
  rw [matchesTemplate_iff, fills_iff, h.splitOn, List.forall₂_map_left_iff, List.forall₂_iff_zip,
    List.forall₂_iff_zip]
  refine and_congr_right fun _ => ?_
  constructor
  · intro hall segment actual hpair
    obtain ⟨hsegment, hactual⟩ := List.of_mem_zip hpair
    exact (matchesSegment_iff h hwhole hsegment (notMem_of_mem_splitOn _ hactual)).1 (hall hpair)
  · intro hall segment actual hpair
    obtain ⟨hsegment, hactual⟩ := List.of_mem_zip hpair
    exact (matchesSegment_iff h hwhole hsegment (notMem_of_mem_splitOn _ hactual)).2 (hall hpair)

/-- A text that is matched has no braces. -/
theorem braces_of_isInstance (h : IsInstance template concrete) :
    ∀ c ∈ concrete.toList, c ∉ ['{', '}'] := by
  obtain ⟨parts, hparts, htext, hfills⟩ := h
  have hwritten : TemplateParts template parts := ⟨hparts, htext⟩
  refine hfills.braces fun c hc hbrace => (hwritten.literal_spec hc).2.2 ?_
  exact (List.suffix_append ['%', '\\', '?', '#'] ['{', '}']).subset hbrace

/-- What is matched, where each parameter is a segment, is an instance. -/
theorem matchesTemplate_iff_isInstance (h : TemplateParts template parts)
    (hwhole : WholeParameters template) :
    matchesTemplate template concrete ↔ IsInstance template concrete := by
  constructor
  · intro hmatch
    exact ⟨parts, h.valid, h.text, (matchesTemplate_iff_fills h hwhole).1 hmatch⟩
  · rintro ⟨parts', hparts', htext', hfills⟩
    exact (matchesTemplate_iff_fills ⟨hparts', htext'⟩ hwhole).2 hfills

/-! ## Selections -/

variable {observation : OpenApiDocumentObservation} {discovery : OpenApiPathDiscovery}

/-- A discovery is found under its identifier. -/
theorem OpenApiDocumentObservation.find?_eq (h : discovery ∈ observation.paths) :
    observation.paths.find? (fun item => item.discoveryId = discovery.discoveryId) =
      some discovery := by
  refine Table.find?_key ?_ h
  rw [List.nodup_iff_pairwise_ne, List.pairwise_map]
  exact observation.ordered.imp fun hlt => ne_of_lt hlt

theorem create_ok_iff (discoveryId : Digest) :
    (∃ selection, OpenApiDiscoverySelection.create discoveryId concrete = .ok selection) ↔
      IsSeedPath concrete := by
  simp only [OpenApiDiscoverySelection.create, bind_eq_ok, raiseIf_eq_ok, pure_eq_ok, not_or,
    not_lt, IsSeedPath]
  constructor
  · rintro ⟨-, -, hlength, seed, hseed, -⟩
    exact ⟨hlength, seed, hseed⟩
  · rintro ⟨hlength, seed, hseed⟩
    exact ⟨_, (), hlength, seed, hseed, rfl⟩

theorem validateSelection_ok_iff (h : discovery ∈ observation.paths) :
    (∃ selection, validateSelection observation (discovery.discoveryId, concrete) =
      .ok selection) ↔ (∃ method ∈ discovery.methods, method ∈ readOnlyMethods) ∧
        matchesTemplate discovery.pathTemplate concrete ∧ IsSeedPath concrete := by
  simp only [validateSelection, OpenApiDocumentObservation.find?_eq h, bind_eq_ok, orRaise_eq_ok,
    raiseIf_eq_ok, mapError_eq_ok, not_not, Bool.not_eq_false, Option.some.injEq]
  rw [← create_ok_iff discovery.discoveryId]
  constructor
  · rintro ⟨selection, _, rfl, -, hmethod, -, hmatch, hcreate⟩
    exact ⟨hmethod, hmatch, selection, hcreate⟩
  · rintro ⟨hmethod, hmatch, selection, hcreate⟩
    exact ⟨selection, discovery, rfl, (), hmethod, (), hmatch, hcreate⟩

/-- A selection is validated by itself. -/
theorem acceptedSelection_iff {discoveryId : Digest} :
    AcceptedSelection observation discoveryId concrete ↔
      ∃ selection, validateSelection observation (discoveryId, concrete) = .ok selection := by
  simp only [AcceptedSelection, validateSelections, bind_eq_ok, raiseIf_eq_ok, pure_eq_ok]
  constructor
  · rintro ⟨selections, hmem, -, result, hresult, -⟩
    exact exists_ok_of_mapM hresult _ hmem
  · rintro ⟨selection, hselection⟩
    refine ⟨[(discoveryId, concrete)], List.mem_singleton_self _, _, [selection], ?_, (), ?_, rfl⟩
    · simp [hselection]
    · simp [Table.orderBy]

end

/-! ## The least instance -/

section

attribute [local instance] unicodeUrls

variable [UrlText.Lowering] [UrlReading] {observation : OpenApiDocumentObservation}
  {discovery : OpenApiPathDiscovery}

/-- What is read off a template that has been checked. -/
theorem OpenApiPathDiscovery.canonical (discovery : OpenApiPathDiscovery) :
    discovery.pathTemplate.toList.head? = some '/' ∧
      ¬"//".toList <:+: discovery.pathTemplate.toList ∧
      ∀ segment ∈ discovery.pathTemplate.toList.splitOn '/',
        segment ≠ ['.'] ∧ segment ≠ ['.', '.'] := by
  have hcanonical := discovery.template_canonical
  rw [requireCanonicalTemplate, raiseIf_eq_ok] at hcanonical
  simp only [not_or, not_exists, not_and, Bool.not_eq_false, isPathTemplate,
    decide_eq_true_eq] at hcanonical
  obtain ⟨-, ⟨hhead, -⟩, hslashes, -, -, hdots⟩ := hcanonical
  exact ⟨hhead, hslashes, hdots⟩

/-- A path of plain characters is the path of a seed. -/
theorem create_of_plain {path : List Char} (hhead : path.head? = some '/')
    (hslashes : ¬"//".toList <:+: path) (hchar : ∀ c ∈ path,
      32 < c.toNat ∧ c.toNat < 127 ∧ c ∉ ['%', '\\', '?', '#', '{', '}'])
    (hdots : ∀ segment ∈ path.splitOn '/', ¬(segment = ['.'] ∨ segment = ['.', '.'])) :
    EndpointSeed.create (String.ofList path) = .ok ⟨String.ofList path⟩ := by
  have htake : path.take 2 ≠ "//".toList := fun htake =>
    hslashes (htake ▸ (List.take_prefix 2 path).isInfix)
  have hsplit : urlsplit (String.ofList path) =
      some (unicodeResult ⟨[], [], path, [], []⟩) := by
    refine urlsplit_eq_some.2 ⟨_, ?_, rfl⟩
    rw [String.toList_ofList]
    exact UrlText.splitUnicode_path hhead htake (fun c hc => (hchar c hc).1)
      (fun hc => (hchar _ hc).2.2 (by decide)) (fun hc => (hchar _ hc).2.2 (by decide))
  simp only [EndpointSeed.create, requireCanonicalPath, hsplit, bind_eq_ok, orRaise_eq_ok,
    raiseIf_eq_ok, String.toList_ofList, not_or, not_exists, not_and, not_not]
  refine ⟨(), ⟨_, rfl, fun c hc => ?_, hhead, rfl, rfl, rfl, rfl, fun c hc => ?_, hslashes,
    fun segment hsegment => not_or.1 (hdots segment hsegment)⟩, rfl⟩
  · have hlow := (hchar c hc).2.1
    omega
  · obtain ⟨hlow, hhigh, hnot⟩ := hchar c hc
    refine ⟨fun hmem => hnot ((List.prefix_append ['%', '\\'] _).subset hmem), by omega, by omega⟩

/-- The least instance of a template is a seed path. -/
theorem isSeedPath_sample (h : TemplateParts discovery.pathTemplate parts) :
    IsSeedPath (String.ofList (parts.map Part.sample)) := by
  obtain ⟨hhead, hslashes, hdots⟩ := discovery.canonical
  rw [h.text] at hhead hslashes
  have hchar : ∀ c ∈ parts.map Part.sample,
      32 < c.toNat ∧ c.toNat < 127 ∧ c ∉ ['%', '\\', '?', '#', '{', '}'] := by
    intro c hc
    obtain ⟨part, hpart, rfl⟩ := List.mem_map.1 hc
    cases part with
    | literal c => exact h.literal_spec hpart
    | parameter name =>
      change 32 < 'a'.toNat ∧ 'a'.toNat < 127 ∧ 'a' ∉ ['%', '\\', '?', '#', '{', '}']
      decide
  have hfirst : (parts.map Part.sample).head? = some '/' := by
    cases parts with
    | nil => cases hhead
    | cons part parts =>
      cases part with
      | literal c => exact hhead
      | parameter name => cases hhead
  have hpair : ¬"//".toList <:+: parts.map Part.sample := fun hinfix =>
    hslashes (infix_render_of_sample (by decide) hinfix)
  have hdots' : ∀ segment ∈ (parts.map Part.sample).splitOn '/',
      ¬(segment = ['.'] ∨ segment = ['.', '.']) := by
    intro text htext hdot
    rw [splitOn_sample] at htext
    obtain ⟨segment, hsegment, rfl⟩ := List.mem_map.1 htext
    have hmem : render segment ∈ discovery.pathTemplate.toList.splitOn '/' := by
      rw [h.splitOn]
      exact List.mem_map_of_mem hsegment
    rw [render_eq_sample (by rcases hdot with hdot | hdot <;> rw [hdot] <;> decide)] at hmem
    exact hdot.elim (hdots _ hmem).1 (hdots _ hmem).2
  refine ⟨?_, ⟨String.ofList (parts.map Part.sample)⟩, ?_⟩
  · rw [String.toList_ofList]
    refine ⟨?_, ?_⟩
    · obtain ⟨rest, hrest⟩ := List.head?_eq_some_iff.1 hfirst
      rw [hrest, List.length_cons]
      omega
    · have hlength := discovery.template_length.2
      rw [h.text] at hlength
      exact (length_sample_le parts).trans hlength
  · exact create_of_plain hfirst hpair hchar hdots'

/-- A discovery is promoted to the instances of its template when it has a method that only reads,
and each parameter of the template is a segment. -/
theorem promotes_instances_iff (h : discovery ∈ observation.paths) :
    PromotesInstances observation discovery ↔
      (∃ method ∈ discovery.methods, method ∈ readOnlyMethods) ∧
        WholeParameters discovery.pathTemplate := by
  obtain ⟨parts, hparts⟩ := discovery.exists_parts
  constructor
  · intro hpromotes
    have hsample : IsInstance discovery.pathTemplate (String.ofList (parts.map Part.sample)) := by
      refine ⟨parts, hparts.valid, hparts.text, ?_⟩
      rw [String.toList_ofList]
      exact fills_sample parts
    have haccepted := (hpromotes.exact _).2 ⟨isSeedPath_sample hparts, hsample⟩
    rw [acceptedSelection_iff, validateSelection_ok_iff h, matchesTemplate_iff,
      String.toList_ofList, splitOn_sample, hparts.splitOn, List.forall₂_map_left_iff,
      List.forall₂_map_right_iff] at haccepted
    obtain ⟨hmethod, hmatch, -⟩ := haccepted
    refine ⟨hmethod, fun text htext hopen => ?_⟩
    rw [hparts.splitOn] at htext
    obtain ⟨segment, hsegment, rfl⟩ := List.mem_map.1 htext
    by_contra hmixed
    -- a segment that is a literal is matched by itself, and the sample has no braces
    have hsegments := List.forall₂_same.1 hmatch segment hsegment
    rw [matchesSegment, if_neg hmixed, decide_eq_true_eq] at hsegments
    rw [hsegments] at hopen
    obtain ⟨part, hpart, hbrace⟩ := List.mem_map.1 hopen
    rw [eq_literal_of_sample hbrace (by decide)] at hpart
    exact (hparts.literal_spec (mem_of_mem_splitOn hsegment hpart)).2.2 (by decide)
  · rintro ⟨hmethod, hwhole⟩
    have hexact : ∀ concrete, AcceptedSelection observation discovery.discoveryId concrete ↔
        IsSeedPath concrete ∧ IsInstance discovery.pathTemplate concrete := by
      intro concrete
      rw [acceptedSelection_iff, validateSelection_ok_iff h,
        matchesTemplate_iff_isInstance hparts hwhole, and_comm (a := IsSeedPath concrete)]
      exact and_iff_right hmethod
    exact ⟨hexact, fun concrete haccepted => braces_of_isInstance ((hexact _).1 haccepted).2⟩

end

end

/-! ## A parameter inside of a segment -/

section

attribute [local instance] unicodeUrls asciiLowering absoluteRedirects

@[reducible] def templateDigests : OpenApiDigests where
  discovery := ⟨fun identity => identity.1⟩
  selection := ⟨fun selection => selection.discoveryId ++ selection.concretePath⟩

attribute [local instance] templateDigests

/-- `/users/{id}`, which is read. -/
def usersDiscovery : OpenApiPathDiscovery where
  pathTemplate := "/users/{id}"
  methods := [.get]
  template_length := by decide
  template_canonical := by decide +kernel
  methods_length := by decide
  methods_ordered := by decide

/-- `/v{id}`, which is read. -/
def versionDiscovery : OpenApiPathDiscovery where
  pathTemplate := "/v{id}"
  methods := [.get]
  template_length := by decide
  template_canonical := by decide +kernel
  methods_length := by decide
  methods_ordered := by decide

def templateObservation : OpenApiDocumentObservation where
  paths := [usersDiscovery, versionDiscovery]
  paths_length := by decide
  ordered := by decide +kernel

theorem usersDiscovery_promotes : PromotesInstances templateObservation usersDiscovery :=
  (promotes_instances_iff (by decide)).2 ⟨by decide, by decide +kernel⟩

/-- A template with a literal before the parameter is promoted to itself. -/
theorem versionDiscovery_unresolved : ¬∀ (observation : OpenApiDocumentObservation)
    (discovery : OpenApiPathDiscovery), discovery ∈ observation.paths →
      PromotesInstances observation discovery := by
  intro hall
  have hpromotes := hall templateObservation versionDiscovery (by decide)
  have haccepted : AcceptedSelection templateObservation versionDiscovery.discoveryId "/v{id}" :=
    ⟨[(versionDiscovery.discoveryId, "/v{id}")], by simp, [⟨"/v{id}", "/v{id}"⟩], by decide +kernel⟩
  exact hpromotes.resolved _ haccepted '{' (by decide) (by decide)

end

end VulnLoom

import VulnLoom.EndpointReconService
import VulnLoom.FlowBudget
import VulnLoom.RequestUrls

/-!
# The URLs of endpoint seeds

`_authorize_exact` puts the path of a seed after the network location of the flow target. What it
authorises is split again by the policy and by the transport. `EndpointSeed` asks for a path without
a query and a fragment, but an empty one leaves its delimiter in the path : `exact_seed_urls_iff`.
-/

set_option linter.unusedSectionVars false

namespace VulnLoom

/-! ## Targets -/

section

variable [PythonUrl]

/-- `AuthorizedWebTarget.normalized_url`. -/
def requireNormalizedUrl (value : String) : Except EndpointReconError Unit := do
  let parsed ← orRaise (urlsplit value) .valueError
  raiseIf (lower parsed.scheme ∉ ["http", "https"] ∨ ¬truthy parsed.hostname ∨
      parsed.username ≠ none ∨ parsed.password ≠ none ∨ parsed.query ≠ "" ∨ parsed.fragment ≠ "")
    (.validationError "Red Team target must be an uncredentialed HTTP(S) base URL")
  let port ← orRaise parsed.port (.validationError "Red Team target port is invalid")
  let default := if lower parsed.scheme = "https" then 443 else 80
  let host := lower (parsed.hostname.getD "")
  let renderedHost := if ':' ∈ host.toList then "[" ++ host ++ "]" else host
  let netloc := match port with
    | some port => if port ≠ default then renderedHost ++ ":" ++ toString port else renderedHost
    | none => renderedHost
  let path := if parsed.path = "" then "/" else parsed.path
  let normalized := PythonUrl.urlunsplit (lower parsed.scheme) netloc path "" ""
  raiseIf ((∃ c ∈ value.toList, 128 ≤ c.toNat) ∨ (∃ c ∈ value.toList, c.toNat ≤ 32) ∨
      normalized ≠ value)
    (.validationError "Red Team target URL must already be canonical")

/-! ## What is claimed -/

/-- A path that is the base path, or lies below it. -/
def AtOrBelow (basePath path : String) : Prop :=
  path = rstripSlash basePath ∨ (rstripSlash basePath ++ "/").toList <+: path.toList

/-- A URL names the path of a seed at a target, and nothing else. -/
structure ExactSeedUrl (target path url : String) : Prop where
  parses : ∃ base parsed, urlsplit target = some base ∧ urlsplit url = some parsed ∧
    parsed.scheme = base.scheme ∧ parsed.netloc = base.netloc ∧ parsed.path = path ∧
      parsed.query = "" ∧ parsed.fragment = ""
  plain : '?' ∉ url.toList ∧ '#' ∉ url.toList
  below : ∀ base, urlsplit target = some base → AtOrBelow base.path path
  canonical : safeUrl url = some url

/-- Two URLs are sent with different request targets. -/
def DistinctTargets (url url' : String) : Prop :=
  ∀ parsed parsed', urlsplit url = some parsed → urlsplit url' = some parsed' →
    wireTarget parsed ≠ wireTarget parsed'

/-- A path without the delimiters of a query and of a fragment. -/
def PlainPath (path : String) : Prop :=
  '?' ∉ path.toList ∧ '#' ∉ path.toList

/-! ## What was checked -/

/-- What a seed path was seen to be. -/
structure SeedPath (path : String) : Prop where
  absolute : path.toList.head? = some '/'
  characters : ∀ c ∈ path.toList, 32 < c.toNat ∧ c.toNat < 127 ∧ c ≠ '\\' ∧ c ≠ '%'
  slashes : ¬"//".toList <:+: path.toList

variable {path : String}

theorem seedPath_of_create {seed : EndpointSeed} (h : EndpointSeed.create path = .ok seed) :
    SeedPath path := by
  simp only [EndpointSeed.create, requireCanonicalPath, bind_eq_ok, orRaise_eq_ok,
    raiseIf_eq_ok, not_or, not_exists, not_and, not_not, List.mem_cons, List.not_mem_nil,
    or_false] at h
  obtain ⟨-, ⟨parsed, -, hascii, hhead, -, -, -, -, hcharacters, hslashes, -⟩, -⟩ := h
  refine ⟨hhead, fun c hc => ?_, hslashes⟩
  have hlow := hascii c hc
  obtain ⟨⟨hpercent, hbackslash⟩, hspace, hdelete⟩ := hcharacters c hc
  exact ⟨by omega, by omega, hbackslash, hpercent⟩

theorem SeedPath.exists_cons (h : SeedPath path) :
    ∃ rest, path.toList = '/' :: rest ∧ rest.head? ≠ some '/' := by
  obtain ⟨rest, hrest⟩ := List.head?_eq_some_iff.1 h.absolute
  refine ⟨rest, hrest, fun hhead => ?_⟩
  obtain ⟨rest', rfl⟩ := List.head?_eq_some_iff.1 hhead
  exact h.slashes ⟨[], rest', by rw [hrest]; rfl⟩

variable [PolicyDigests]

/-- What `_authorize_exact` returns. -/
theorem authorizeExact_ok {flow : RedTeamFlowPlan} {scope : Scope} {url : String} {now : Time}
    {testClass : Option String} {method : EndpointMethod} (hpath : SeedPath path)
    (h : authorizeExact flow scope path now testClass method = .ok url) :
    ∃ base, urlsplit flow.target.url = some base ∧ AtOrBelow base.path path ∧
      url = PythonUrl.urlunsplit base.scheme base.netloc path "" "" := by
  simp only [authorizeExact, bind_eq_ok, orRaise_eq_ok, raiseIf_eq_ok, pure_eq_ok, not_and,
    not_not] at h
  obtain ⟨base, hbase, -, hbelow, -, -, -, -, rfl⟩ := h
  refine ⟨base, hbase, ?_, rfl⟩
  by_cases hroot : rstripSlash base.path = ""
  · obtain ⟨rest, hrest, -⟩ := hpath.exists_cons
    exact .inr ⟨rest, by rw [hroot, hrest]; rfl⟩
  · by_cases hbase : path = rstripSlash base.path
    · exact .inl hbase
    · exact .inr (hbelow hroot hbase)

end

section

attribute [local instance] unicodeUrls

variable [UrlText.Lowering] [UrlReading] {target : String} {split : UrlText.Split}

/-- The port that is written : a default one is not. -/
def writtenPort (split : UrlText.Split) (port : Option ℕ) : Option ℕ :=
  port.filter fun port => port ≠ if String.ofList (canonicalScheme split) = "https" then 443 else 80

/-- What a normalized target is read as. -/
theorem requireNormalizedUrl_ok (h : requireNormalizedUrl target = .ok ()) :
    ∃ split port, UrlText.splitUnicode target.toList = some split ∧
      lower (unicodeResult split).scheme ∈ ["http", "https"] ∧
      truthy (unicodeResult split).hostname = true ∧ (unicodeResult split).username = none ∧
      (unicodeResult split).password = none ∧ split.query = [] ∧ split.fragment = [] ∧
      UrlText.port split.netloc = some port ∧ (∀ c ∈ target.toList, 32 < c.toNat) ∧
      target = canonicalUrl (unicodeResult split) (writtenPort split port) := by
  simp only [requireNormalizedUrl, bind_eq_ok, orRaise_eq_ok, raiseIf_eq_ok, not_or, not_not,
    not_exists, not_and, not_le] at h
  obtain ⟨parsed, hparsed, -, ⟨hscheme, hhost, huser, hpassword, hquery, hfragment⟩, port, hport,
    -, hprint, hnormal⟩ := h
  obtain ⟨split, hsplit, rfl⟩ := urlsplit_eq_some.1 hparsed
  refine ⟨split, port, hsplit, hscheme, hhost, huser, hpassword, ?_, ?_, hport, hprint, ?_⟩
  · simpa [unicodeResult] using hquery
  · simpa [unicodeResult] using hfragment
  · rw [← hnormal]
    have hlow : lower (unicodeResult split).scheme = String.ofList (canonicalScheme split) :=
      lower_ofList split.scheme
    unfold canonicalUrl writtenPort
    simp only [hlow, hquery]
    generalize (if String.ofList (canonicalScheme split) = "https" then 443 else 80) = default
    cases port with
    | none => rfl
    | some port =>
      rw [Option.filter_some]
      by_cases hdefault : port = default
      · simp only [hdefault, ne_eq, not_true_eq_false, if_false, decide_false, Bool.false_eq_true]
      · simp only [hdefault, ne_eq, not_false_eq_true, if_true, decide_true]

/-- A target without a backslash is read as a URL that `safe_url` would read, and is what it would
compose. -/
theorem safeRead_target (hqsl : UrlReading.parseQsl "" = some [])
    (h : requireNormalizedUrl target = .ok ()) (hbackslash : '\\' ∉ target.toList) :
    ∃ split port, UrlText.splitUnicode target.toList = some split ∧
      SafeRead target (unicodeResult split) port ∧ split.query = [] ∧
        split = canonicalSplit split port ∧
          ('[' ∈ canonicalHost split → ':' ∈ canonicalHost split) := by
  obtain ⟨split, port, hsplit, hscheme, hhost, huser, hpassword, hquery, hfragment, hport, hprint,
    htarget⟩ := requireNormalizedUrl_ok h
  have hread : SafeRead target (unicodeResult split) port := by
    refine ⟨fun c hc => ⟨hprint c hc, fun heq => hbackslash (heq ▸ hc)⟩,
      urlsplit_eq_some.2 ⟨split, hsplit, rfl⟩, hscheme, hhost, ?_, ?_, ?_, ⟨[], ?_, rfl⟩, hport⟩
    · rw [huser]
      rfl
    · rw [hpassword]
      rfl
    · simp [unicodeResult, hfragment]
    · change UrlReading.parseQsl (String.ofList split.query) = some []
      rw [hquery]
      exact hqsl
  have hcanonical := splitUnicode_of_safeRead hread hsplit
  have htail := tail_of_safeRead hread hsplit
  have hpath := canonicalPath_spec htail
  -- the text is what is composed of its own parts
  have htext : target.toList = UrlText.urlunsplit (canonicalScheme split)
      (UrlText.canonicalNetloc (canonicalHost split) (writtenPort split port))
      (canonicalPath split) [] [] := by
    have hempty : (if (unicodeResult split).path = "" then ['/']
        else (unicodeResult split).path.toList) = canonicalPath split := by
      simp [unicodeResult, canonicalPath]
    conv_lhs => rw [htarget]
    rw [toList_canonicalUrl, hempty, (hostname_unicodeResult hread).2]
    simp [canonicalScheme, canonicalHost, unicodeResult, hquery]
  have hcompose := hcanonical.splitUnicode_compose (writtenPort split port)
    (canonicalScheme_mem hread) hpath.1 hpath.2.1 (List.not_mem_nil : '#' ∉ [])
    (fun c hc => hprint c (htext ▸ hc))
  rw [← htext, hsplit] at hcompose
  split_ifs at hcompose with hbracket
  rw [Option.some.injEq] at hcompose
  have hsame : port = writtenPort split port := by
    have hle : ∀ p ∈ writtenPort split port, p ≤ 65535 := fun p hp =>
      UrlText.port_le hport p (Option.mem_filter_iff.1 hp).1
    have hnetloc := congrArg UrlText.Split.netloc hcompose
    rw [hnetloc, hcanonical.port_eq hbracket hle, Option.some.injEq] at hport
    exact hport.symm
  refine ⟨split, port, hsplit, hread, hquery, ?_, hbracket⟩
  rw [canonicalSplit, hquery]
  rw [← hsame] at hcompose
  exact hcompose

/-- A split target with another path. -/
def withPath (split : UrlText.Split) (path : String) : UrlText.Split :=
  { split with path := path.toList }

/-- The URL of a seed is read as the target with the path of the seed. -/
theorem safeRead_seed {path : String} {port : Option ℕ}
    (hsplit : UrlText.splitUnicode target.toList = some split)
    (hread : SafeRead target (unicodeResult split) port) (hquery : split.query = [])
    (hcanonical : split = canonicalSplit split port)
    (hbracket : '[' ∈ canonicalHost split → ':' ∈ canonicalHost split) (hpath : SeedPath path)
    (hplain : PlainPath path) :
    SafeRead (String.ofList (UrlText.urlunsplit split.scheme split.netloc path.toList [] []))
      (unicodeResult (withPath split path)) port := by
  have hhost := splitUnicode_of_safeRead hread hsplit
  have hscheme : split.scheme = canonicalScheme split := congrArg UrlText.Split.scheme hcanonical
  have hnetloc : split.netloc = UrlText.canonicalNetloc (canonicalHost split) port :=
    congrArg UrlText.Split.netloc hcanonical
  have hfragment : split.fragment = [] := congrArg UrlText.Split.fragment hcanonical
  have hprint : ∀ c ∈ UrlText.urlunsplit split.scheme split.netloc path.toList [] [],
      32 < c.toNat ∧ c ≠ '\\' := by
    intro c hc
    rw [hscheme, hnetloc] at hc
    rcases mem_urlunsplit hc (hhost.netloc_ne_nil port) with hc | hc | hc | hc | rfl | rfl | rfl
    · have hall : ∀ c ∈ "http".toList ++ "https".toList, 32 < c.toNat ∧ c ≠ '\\' := by decide
      refine hall c (List.mem_append.2 ?_)
      rcases canonicalScheme_mem hread with heq | heq
      · exact .inl (heq ▸ hc)
      · exact .inr (heq ▸ hc)
    · have hchar := hhost.netloc_char hc
      exact ⟨hchar.1, hchar.2.2.2.2⟩
    · exact ⟨(hpath.characters c hc).1, (hpath.characters c hc).2.2.1⟩
    · cases hc
    · decide
    · decide
    · decide
  have hread' := hread
  refine ⟨by rwa [String.toList_ofList], ?_, hread.scheme, hread.hostname, hread.username,
    hread.password, hread.fragment, hread.query, hread.port⟩
  refine urlsplit_eq_some.2 ⟨_, ?_, rfl⟩
  rw [String.toList_ofList, hscheme, hnetloc, hhost.splitUnicode_compose port
    (canonicalScheme_mem hread) hpath.absolute hplain List.not_mem_nil
    (fun c hc => (hprint c (by rwa [hscheme, hnetloc])).1), if_pos hbracket, withPath, hquery,
    hfragment, ← hscheme, ← hnetloc]

/-- The URL of a seed is its own canonical form. -/
theorem canonicalUrl_seed {path : String} {port : Option ℕ}
    (hread : SafeRead target (unicodeResult split) port) (hquery : split.query = [])
    (hcanonical : split = canonicalSplit split port) (hpath : SeedPath path) :
    canonicalUrl (unicodeResult (withPath split path)) port =
      String.ofList (UrlText.urlunsplit split.scheme split.netloc path.toList [] []) := by
  have hscheme : split.scheme = canonicalScheme split := congrArg UrlText.Split.scheme hcanonical
  have hnetloc : split.netloc = UrlText.canonicalNetloc (canonicalHost split) port :=
    congrArg UrlText.Split.netloc hcanonical
  have hname : (unicodeResult (withPath split path)).hostname =
      some (String.ofList (UrlText.loweredHost (UrlText.hostPort split.netloc).1)) :=
    (hostname_unicodeResult hread).2
  have hne : (unicodeResult (withPath split path)).path ≠ "" := by
    obtain ⟨rest, hrest, -⟩ := hpath.exists_cons
    simp [unicodeResult, withPath, hrest]
  rw [← String.toList_inj, toList_canonicalUrl, hname, if_neg hne, String.toList_ofList]
  conv_rhs => rw [hscheme, hnetloc]
  simp [unicodeResult, withPath, canonicalScheme, canonicalHost, hquery]

/-- The URL of a seed has no delimiter that its path has not. -/
theorem notMem_seed {path : String} {port : Option ℕ}
    (hsplit : UrlText.splitUnicode target.toList = some split)
    (hread : SafeRead target (unicodeResult split) port)
    (hcanonical : split = canonicalSplit split port) (hpath : SeedPath path) {c : Char}
    (hc : c ∈ ['?', '#']) (hnot : c ∉ path.toList) :
    c ∉ UrlText.urlunsplit split.scheme split.netloc path.toList [] [] := by
  have hhost := splitUnicode_of_safeRead hread hsplit
  have hscheme : split.scheme = canonicalScheme split := congrArg UrlText.Split.scheme hcanonical
  have hnetloc : split.netloc = UrlText.canonicalNetloc (canonicalHost split) port :=
    congrArg UrlText.Split.netloc hcanonical
  have hplain : ∀ c ∈ ['?', '#'], c ∉ "http".toList ∧ c ∉ "https".toList ∧ c ≠ ':' ∧ c ≠ '/' ∧
      UrlText.isDelimiter c = true := by decide
  obtain ⟨hhttp, hhttps, hcolon, hslash, hdelimiter⟩ := hplain c hc
  have hnot' : c ∉ UrlText.canonicalNetloc (canonicalHost split) port := fun hmem => by
    rw [(hhost.netloc_char hmem).2.1] at hdelimiter
    cases hdelimiter
  have hnot'' : c ∉ canonicalScheme split := by
    rcases canonicalScheme_mem hread with heq | heq
    · rwa [heq]
    · rwa [heq]
  have hne : canonicalScheme split ≠ [] := by
    rcases canonicalScheme_mem hread with heq | heq
    · rw [heq]
      decide
    · rw [heq]
      decide
  rw [hscheme, hnetloc]
  simp [UrlText.urlunsplit, UrlText.unsplitNetloc, hne, hhost.netloc_ne_nil port, hpath.absolute,
    hnot, hnot', hnot'', hcolon, hslash]

/-- The request target of the URL of a seed is its path. -/
theorem wireTarget_seed {path : String} (hquery : split.query = []) (hpath : SeedPath path) :
    wireTarget (unicodeResult (withPath split path)) = path := by
  obtain ⟨rest, hrest, hslash⟩ := hpath.exists_cons
  have hsame : (unicodeResult (withPath split path)).path = path := by
    simp [unicodeResult, withPath]
  have hempty : (unicodeResult (withPath split path)).query = "" := by
    simp [unicodeResult, withPath, hquery]
  have hne : path ≠ "" := by
    rintro rfl
    cases hrest
  have htarget := (wireTarget_eq_iff
    (show (unicodeResult (withPath split path)).path ≠ "" by rwa [hsame])).2 ?_
  · rwa [hsame, hempty, if_neg hne, if_pos rfl, String.append_empty] at htarget
  · rw [hsame, hrest]
    intro hslashes
    cases rest with
    | nil => cases hslashes
    | cons c rest =>
      rw [List.take_succ_cons, List.take_succ_cons, List.take_zero, List.cons.injEq,
        List.cons.injEq] at hslashes
      exact hslash (congrArg some hslashes.2.1)

variable [PolicyDigests] [PythonIp]

/-- A seed that is authorised, at a target that was normalized. -/
structure AuthorizedSeed (flow : RedTeamFlowPlan) (scope : Scope) (path url : String) : Prop where
  target : requireNormalizedUrl flow.target.url = .ok ()
  seed : ∃ seed, EndpointSeed.create path = .ok seed
  authorized : ∃ now testClass method, authorizeExact flow scope path now testClass method = .ok url

variable {flow : RedTeamFlowPlan} {scope : Scope} {path url : String}

/-- A path without delimiters, at a target without backslashes, is named exactly. -/
theorem exact_of_plain (hqsl : UrlReading.parseQsl "" = some [])
    (h : AuthorizedSeed flow scope path url) (hbackslash : '\\' ∉ flow.target.url.toList)
    (hplain : PlainPath path) : ExactSeedUrl flow.target.url path url ∧
      ∀ parsed, urlsplit url = some parsed → wireTarget parsed = path := by
  obtain ⟨seed, hseed⟩ := h.seed
  obtain ⟨now, testClass, method, hauthorized⟩ := h.authorized
  have hpath := seedPath_of_create hseed
  obtain ⟨base, hbase, hbelow, hurl⟩ := authorizeExact_ok hpath hauthorized
  obtain ⟨split, port, hsplit, hread, hquery, hcanonical, hbracket⟩ :=
    safeRead_target hqsl h.target hbackslash
  rw [hread.split, Option.some.injEq] at hbase
  subst hbase
  have htext : url = String.ofList
      (UrlText.urlunsplit split.scheme split.netloc path.toList [] []) := by
    rw [hurl]
    change String.ofList (UrlText.urlunsplit (String.ofList split.scheme).toList
      (String.ofList split.netloc).toList path.toList [] []) = _
    rw [String.toList_ofList, String.toList_ofList]
  have hseed := safeRead_seed hsplit hread hquery hcanonical hbracket hpath hplain
  rw [← htext] at hseed
  have hsame := canonicalUrl_seed hread hquery hcanonical hpath
  rw [← htext] at hsame
  have hclean : ∀ c ∈ ['?', '#'], c ∉ path.toList → c ∉ url.toList := by
    intro c hc hnot
    rw [htext, String.toList_ofList]
    exact notMem_seed hsplit hread hcanonical hpath hc hnot
  refine ⟨⟨⟨_, _, hread.split, hseed.split, rfl, rfl, ?_, ?_, hseed.fragment⟩,
    ⟨hclean _ (by simp) hplain.1, hclean _ (by simp) hplain.2⟩, fun base hbase => ?_,
    safeUrl_eq_some.2 ⟨_, _, hseed, hsame.symm⟩⟩, fun parsed hparsed => ?_⟩
  · simp [unicodeResult, withPath]
  · simp [unicodeResult, withPath, hquery]
  · rw [hread.split, Option.some.injEq] at hbase
    exact hbase ▸ hbelow
  · rw [hseed.split, Option.some.injEq] at hparsed
    rw [← hparsed, wireTarget_seed hquery hpath]

/-- A backslash of a normalized target stands in its network location, or in its path. -/
theorem backslash_of_target (h : requireNormalizedUrl target = .ok ())
    (hmem : '\\' ∈ target.toList) :
    ∃ split, UrlText.splitUnicode target.toList = some split ∧ split.netloc ≠ [] ∧
      ('\\' ∈ split.netloc ∨ '\\' ∈ split.path) := by
  obtain ⟨split, port, hsplit, hscheme, hhost, -, -, hquery, -, -, -, htarget⟩ :=
    requireNormalizedUrl_ok h
  have hname : (UrlText.hostPort split.netloc).1 ≠ [] ∧ (unicodeResult split).hostname =
      some (String.ofList (UrlText.loweredHost (UrlText.hostPort split.netloc).1)) := by
    change truthy ((UrlText.unicodeHostname split.netloc).map String.ofList) = true at hhost
    change _ ∧ (UrlText.unicodeHostname split.netloc).map String.ofList = _
    unfold UrlText.unicodeHostname at hhost ⊢
    split_ifs at hhost ⊢ with hnil
    · cases hhost
    · exact ⟨hnil, rfl⟩
  have hne : split.netloc ≠ [] := by
    rintro heq
    rw [heq] at hname
    exact hname.1 rfl
  have hlowered : UrlText.lowerText (UrlText.loweredHost (UrlText.hostPort split.netloc).1) ≠ [] :=
    UrlText.lowerText_loweredHost_ne_nil hname.1
  refine ⟨split, hsplit, hne, ?_⟩
  rw [htarget, toList_canonicalUrl, hname.2, Option.getD_some, String.toList_ofList] at hmem
  have hcomposed : UrlText.canonicalNetloc
      (UrlText.lowerText (UrlText.loweredHost (UrlText.hostPort split.netloc).1))
        (writtenPort split port) ≠ [] := by
    rw [UrlText.canonicalNetloc, UrlText.renderHost]
    split_ifs
    · simp
    · simp [hlowered]
  rcases mem_urlunsplit hmem hcomposed with hc | hc | hc | hc | hc | hc | hc
  · exfalso
    simp only [List.mem_cons, List.not_mem_nil, or_false] at hscheme
    have hall : '\\' ∉ "http".toList ∧ '\\' ∉ "https".toList := by decide
    rw [← toList_unicodeLower] at hc
    rcases hscheme with heq | heq
    · exact hall.1 (heq ▸ hc)
    · exact hall.2 (heq ▸ hc)
  · refine .inl ?_
    rcases UrlText.mem_canonicalNetloc hc with hc | hc | hc
    · rcases UrlText.mem_of_mem_renderHost hc with hc | hc | hc
      · cases hc
      · have hcaseless : UrlText.isCaseless '\\' := by decide
        exact (UrlText.mem_hostinfo (UrlText.mem_hostPort
          (UrlText.mem_of_mem_loweredHost hcaseless hc))).1
      · cases hc
    · cases hc
    · cases hc
  · refine .inr ?_
    split_ifs at hc
    · cases List.mem_singleton.1 hc
    · simpa [unicodeResult] using hc
  · simp [unicodeResult, hquery] at hc
  · cases hc
  · cases hc
  · cases hc

/-- What a URL that is named exactly says of the path and of the target. -/
theorem plain_of_exact (h : AuthorizedSeed flow scope path url)
    (hexact : ExactSeedUrl flow.target.url path url) :
    PlainPath path ∧ '\\' ∉ flow.target.url.toList := by
  obtain ⟨seed, hseed⟩ := h.seed
  obtain ⟨now, testClass, method, hauthorized⟩ := h.authorized
  have hpath := seedPath_of_create hseed
  obtain ⟨base, hbase, hbelow, hurl⟩ := authorizeExact_ok hpath hauthorized
  have htext : url.toList = UrlText.urlunsplit base.scheme.toList base.netloc.toList path.toList
      [] [] := by
    rw [hurl]
    exact String.toList_ofList
  have hurlPath : ∀ c ∈ path.toList, c ∈ url.toList := by
    intro c hc
    rw [htext, UrlText.urlunsplit, UrlText.unsplitNetloc]
    split_ifs <;> simp [hc]
  refine ⟨⟨fun hc => hexact.plain.1 (hurlPath _ hc), fun hc => hexact.plain.2 (hurlPath _ hc)⟩, ?_⟩
  intro hmem
  obtain ⟨split, hsplit, hne, hwhere⟩ := backslash_of_target h.target hmem
  obtain ⟨split', hsplit', rfl⟩ := urlsplit_eq_some.1 hbase
  rw [hsplit, Option.some.injEq] at hsplit'
  subst hsplit'
  rcases hwhere with hnetloc | hbase
  · -- the backslash would stand in the URL
    obtain ⟨parsed, port, hread, -⟩ := safeUrl_eq_some.1 hexact.canonical
    refine (hread.printable '\\' ?_).2 rfl
    rw [htext]
    simp only [unicodeResult, String.toList_ofList, UrlText.urlunsplit, UrlText.unsplitNetloc,
      if_pos hne]
    simp [hnetloc]
  · -- the base path has it, and the path of the seed would, too
    have hstrip : '\\' ∈ (rstripSlash (unicodeResult split).path).toList := by
      simp only [rstripSlash, unicodeResult, String.toList_ofList, List.mem_reverse]
      have hsplit := List.takeWhile_append_dropWhile (p := fun c => decide (c = '/'))
        (l := split.path.reverse)
      rw [← List.mem_reverse, ← hsplit, List.mem_append] at hbase
      refine hbase.resolve_left fun hslash => ?_
      have hall := List.mem_takeWhile_imp (p := fun c => decide (c = '/')) hslash
      cases of_decide_eq_true hall
    refine (hpath.characters '\\' ?_).2.2.1 rfl
    rcases hbelow with heq | hprefix
    · rwa [heq]
    · exact hprefix.subset (by simp [hstrip])

/-- Two seeds that are authorised at one target name two exact URLs with two request targets,
exactly where neither path has a delimiter of a query or a fragment, and the target no backslash. -/
theorem exact_seed_urls_iff {path' url' : String} (hqsl : UrlReading.parseQsl "" = some [])
    (h : AuthorizedSeed flow scope path url) (h' : AuthorizedSeed flow scope path' url')
    (hne : path ≠ path') :
    ExactSeedUrl flow.target.url path url ∧ ExactSeedUrl flow.target.url path' url' ∧
        DistinctTargets url url' ↔
      PlainPath path ∧ PlainPath path' ∧ '\\' ∉ flow.target.url.toList := by
  constructor
  · rintro ⟨hexact, hexact', -⟩
    exact ⟨(plain_of_exact h hexact).1, plain_of_exact h' hexact'⟩
  · rintro ⟨hplain, hplain', hbackslash⟩
    obtain ⟨hexact, htarget⟩ := exact_of_plain hqsl h hbackslash hplain
    obtain ⟨hexact', htarget'⟩ := exact_of_plain hqsl h' hbackslash hplain'
    refine ⟨hexact, hexact', fun parsed parsed' hparsed hparsed' heq => hne ?_⟩
    rw [← htarget parsed hparsed, ← htarget' parsed' hparsed', heq]

end

/-! ## An empty query -/

section

attribute [local instance] unicodeUrls asciiLowering absoluteRedirects textPolicyDigests plainIp

/-- A flow with the target `https://t/`. -/
def rootFlow : RedTeamFlowPlan :=
  { samplePlan 10 ten_actions with
    target := ⟨"t", "https://t/"⟩, target_bound := (rfl : "t" = "t") }

/-- A seed path of the flow, with the URL that is authorised for it. -/
theorem authorized_rootFlow {path url : String} (hcreate : EndpointSeed.create path = .ok ⟨path⟩)
    (hurl : authorizeExact rootFlow sampleScope path 1 none .head = .ok url) :
    AuthorizedSeed rootFlow sampleScope path url where
  target := by decide +kernel
  seed := ⟨_, hcreate⟩
  authorized := ⟨1, none, .head, hurl⟩

theorem twoSeeds_exact : ExactSeedUrl "https://t/" "/a" "https://t/a" ∧
    ExactSeedUrl "https://t/" "/b" "https://t/b" ∧
      DistinctTargets "https://t/a" "https://t/b" :=
  (exact_seed_urls_iff rfl
    (authorized_rootFlow (by decide +kernel) (by decide +kernel))
    (authorized_rootFlow (by decide +kernel) (by decide +kernel)) (by decide)).2
    ⟨⟨by decide, by decide⟩, ⟨by decide, by decide⟩, by decide⟩

/-- A path with an empty query is a seed of its own, whose URL is that of another one. -/
theorem emptyQuery_authorized : ¬∀ (flow : RedTeamFlowPlan) (scope : Scope)
    (path url path' url' : String), AuthorizedSeed flow scope path url →
      AuthorizedSeed flow scope path' url' → path ≠ path' →
        ExactSeedUrl flow.target.url path url ∧ ExactSeedUrl flow.target.url path' url' ∧
          DistinctTargets url url' := by
  intro hall
  obtain ⟨-, hexact, -⟩ := hall rootFlow sampleScope "/a" "https://t/a" "/a?" "https://t/a?"
    (authorized_rootFlow (by decide +kernel) (by decide +kernel))
    (authorized_rootFlow (by decide +kernel) (by decide +kernel)) (by decide)
  exact hexact.plain.1 (by decide)

end

end VulnLoom

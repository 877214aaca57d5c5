import VulnLoom.Broker
import VulnLoom.UrlRoundTrip

/-!
# What is authorised and what is sent

The URL of a request is split by the policy, by the broker, by the transport and by its own
validator. `PinnedHttpTransport.send` is followed up to the connection it opens and the request
target. `request_url_agreement_iff` : a URL that is admitted, from a plan or from a redirect, is a
fixpoint of `safe_url`, names one endpoint to all of them and is sent with its own path and query,
exactly where the path has no second slash at its start, for `urlunsplit` puts two more before it,
and the host has no opening bracket without a colon, for it is written without its brackets.
-/

set_option linter.unusedSectionVars false

namespace VulnLoom

/-! ## The transport -/

inductive LiveHttpError
  /-- `LiveHttpRejected` -/
  | rejected (message : String)
  | valueError
  deriving DecidableEq

/-- The arguments of the connection factory. -/
structure PinnedConnection where
  host : String
  port : ℕ
  pinnedIp : String
  secure : Bool
  timeout : Time

section

variable [PythonUrl] [PythonIp]

/-- The request target of a URL. -/
def wireTarget (parsed : SplitResult) : String :=
  PythonUrl.urlunsplit "" "" (if parsed.path = "" then "/" else parsed.path) parsed.query ""

/-- `PinnedHttpTransport.send` up to the connection, with the request target. -/
def openConnection (request : HttpWireRequest) :
    Except LiveHttpError (PinnedConnection × String) := do
  let address ← orRaise (ipAddress request.pinnedIp) .valueError
  let parsed ← orRaise (urlsplit request.url) .valueError
  raiseIf (¬truthy parsed.hostname ∨ parsed.scheme ∉ ["http", "https"])
    (.rejected "live HTTP URL is not supported")
  let canonical ← orRaise (safeUrl request.url) .valueError
  raiseIf (canonical ≠ request.url) (.rejected "live HTTP URL is not canonical")
  let port ← orRaise parsed.port .valueError
  let port := portOr port (if parsed.scheme = "https" then 443 else 80)
  return (⟨parsed.hostname.getD "", port, address.text, parsed.scheme = "https",
    request.connectTime⟩, wireTarget parsed)

/-! ## Endpoints -/

/-- What a request is authorised for, and sent to. -/
structure Endpoint where
  scheme : String
  host : String
  port : ℕ

/-- The reasons and the obligations of a scope for an endpoint. -/
def Scope.reasonsAt (scope : Scope) (endpoint : Endpoint) : List String × List String :=
  if scope.networkTargets.any fun target => endpoint.host = lower target.host ∧
      endpoint.scheme ∈ target.schemes ∧ endpoint.port ∈ target.ports then
    ([], ["resolve_and_pin_ip", "recheck_each_redirect"])
  else (["network_target_out_of_scope"], [])

/-- Some network grant of the profile contains an endpoint. -/
def SandboxProfile.grantsAt (profile : SandboxProfile) (endpoint : Endpoint) : Bool :=
  profile.networkGrants.any fun grant =>
    endpoint.host = grant.host ∧ endpoint.port ∈ grant.ports ∧ endpoint.scheme ∈ grant.schemes

theorem denied_ne_completed : BrokerStatus.denied ≠ .completed := by decide

/-- The grant check and the resolver call of the broker for an endpoint : the addresses, and the
one that is pinned. -/
def pinAt (broker : ToolBroker) (net : Network) (call : BrokerCall) (p : HttpProgress)
    (endpoint : Endpoint) : Except HopExit String := do
  raiseIf (call.profile.grantsAt endpoint = false)
    (p.refuse .denied "sandbox_network_grant_not_satisfied" denied_ne_completed)
  let addresses ← orRaise (net.resolve p.requests endpoint.host) (.error .resolverError)
  raiseIf (addresses = []) (p.refuse .denied "dns_resolution_failed" denied_ne_completed)
  let normalized ← orRaise (broker.validatedAddresses addresses)
    (p.refuse .denied "resolved_address_forbidden" denied_ne_completed)
  orRaise (pinnedAddress normalized) (.error .valueError)

/-- The connection to an endpoint. -/
def connectionAt (request : HttpWireRequest) (address : IpAddress) (endpoint : Endpoint) :
    PinnedConnection where
  host := endpoint.host
  port := endpoint.port
  pinnedIp := address.text
  secure := endpoint.scheme = "https"
  timeout := request.connectTime

/-- The policy, the broker and the transport act on one endpoint of a URL. -/
structure ActsOn [PolicyDigests] [BrokerDigests] (url : String) (endpoint : Endpoint) : Prop where
  policy : ∀ scope : Scope, urlReasons scope url = some (scope.reasonsAt endpoint)
  broker : ∀ (broker : ToolBroker) (net : Network) (call : BrokerCall) (now : Time)
    (approvals : List ApprovalRequest) (p : HttpProgress) (decision : Decision),
    p.current = url → broker.scope.decide (call.action url now) approvals = some decision →
      decision.effect = .allow → prepareHop broker net call now approvals p =
        let q := { p with records := p.records ++ [policyRecord (call.action url now) decision] }
        (pinAt broker net call q endpoint).map fun pinnedIp =>
          ({ q with requests := q.requests + 1 }, call.http.wireRequest url pinnedIp)
  transport : ∀ (request : HttpWireRequest) (address : IpAddress), request.url = url →
    ipAddress request.pinnedIp = some address → ∃ target,
      openConnection request = .ok (connectionAt request address endpoint, target)

/-- The components agree on a URL : it is its own canonical form, they act on one endpoint, and the
request target is the path and the query. -/
structure Agreement [PolicyDigests] [BrokerDigests] (url : String) : Prop where
  fixpoint : safeUrl url = some url
  endpoint : ∃ endpoint, ActsOn url endpoint
  target : ∃ parsed, urlsplit url = some parsed ∧ wireTarget parsed =
    (if parsed.path = "" then "/" else parsed.path) ++
      if parsed.query = "" then "" else "?" ++ parsed.query

/-- A URL text of a plan, or of a redirect of an admitted URL, with its canonical form. -/
inductive Admitted : String → String → Prop
  | plan {value url : String} (h : safeUrl value = some url) : Admitted value url
  | redirect {value base location joined url : String} (hbase : Admitted value base)
      (hjoin : PythonUrl.urljoin base location = some joined) (h : safeUrl joined = some url) :
      Admitted joined url

theorem Admitted.safeUrl_eq {value url : String} (h : Admitted value url) :
    safeUrl value = some url := by
  cases h with
  | plan h => exact h
  | redirect _ _ h => exact h

/-- The path begins with one slash at most, and a host with an opening bracket has a colon. -/
structure Faithful (parsed : SplitResult) : Prop where
  path : parsed.path.toList.take 2 ≠ ['/', '/']
  host : ∀ host ∈ parsed.hostname, '[' ∈ host.toList → ':' ∈ host.toList

/-! ## The endpoint of a canonical URL -/

/-- What `safe_url` has seen of a text when it returns. -/
structure SafeRead (value : String) (parsed : SplitResult) (port : Option ℕ) : Prop where
  printable : ∀ c ∈ value.toList, 32 < c.toNat ∧ c ≠ '\\'
  split : urlsplit value = some parsed
  scheme : lower parsed.scheme ∈ ["http", "https"]
  hostname : truthy parsed.hostname
  username : truthy parsed.username = false
  password : truthy parsed.password = false
  fragment : parsed.fragment = ""
  query : ∃ query, PythonUrl.parseQsl parsed.query = some query ∧
    query.any (fun item => sensitiveQuery item.1) = false
  port : parsed.port = some port

/-- The canonical form of a URL that was split. -/
def canonicalUrl (parsed : SplitResult) (port : Option ℕ) : String :=
  let host := lower (parsed.hostname.getD "")
  let netloc := if ':' ∈ host.toList then "[" ++ host ++ "]" else host
  PythonUrl.urlunsplit (lower parsed.scheme)
    (match port with
      | some port => netloc ++ ":" ++ toString port
      | none => netloc)
    (if parsed.path = "" then "/" else parsed.path) parsed.query ""

theorem safeUrl_eq_some {value url : String} : safeUrl value = some url ↔
    ∃ parsed port, SafeRead value parsed port ∧ url = canonicalUrl parsed port := by
  unfold safeUrl
  simp only [Option.bind_eq_bind, Option.bind_eq_some_iff, Option.guard_eq_some', exists_const,
    Option.pure_def, Option.some.injEq]
  constructor
  · rintro ⟨hprint, parsed, hsplit, ⟨hscheme, hhost, huser, hpassword, hfragment⟩, query, hquery,
      hsensitive, port, hport, rfl⟩
    refine ⟨parsed, port, ⟨?_, hsplit, hscheme, hhost, by simpa using huser,
      by simpa using hpassword, hfragment, ⟨query, hquery, by simpa using hsensitive⟩, hport⟩, rfl⟩
    intro c hc
    have hall := List.any_eq_false.1 (Bool.not_eq_true _ ▸ hprint) c hc
    simp only [decide_eq_true_eq, not_or, not_le] at hall
    exact hall
  · rintro ⟨parsed, port, h, rfl⟩
    obtain ⟨query, hquery, hsensitive⟩ := h.query
    refine ⟨?_, parsed, h.split, ⟨h.scheme, h.hostname, by simp [h.username], by simp [h.password],
      h.fragment⟩, query, hquery, by simp [hsensitive], port, h.port, rfl⟩
    rw [Bool.not_eq_true, List.any_eq_false]
    intro c hc
    have hall := h.printable c hc
    simp only [decide_eq_true_eq, not_or, not_le]
    exact hall

/-- The endpoint of a canonical URL. -/
def endpointOf (parsed : SplitResult) (port : Option ℕ) : Endpoint where
  scheme := parsed.scheme
  host := parsed.hostname.getD ""
  port := portOr port (if parsed.scheme = "https" then 443 else 80)

section

variable [PolicyDigests] [BrokerDigests] {url : String} {parsed : SplitResult} {port : Option ℕ}

/-- The default port of a checked scheme is the same to the policy and to the broker. -/
theorem default_port {scheme : String} (h : scheme ∈ ["http", "https"]) :
    (if scheme = "https" then 443 else if scheme = "http" then 80 else 0) =
      if scheme = "https" then 443 else 80 := by
  rcases List.mem_cons.1 h with rfl | h
  · rfl
  · rw [List.mem_singleton.1 h]
    rfl

/-- All components act on the endpoint of a URL that is its own canonical form. -/
theorem actsOn_endpointOf (h : SafeRead url parsed port) (hfix : safeUrl url = some url)
    (hscheme : lower parsed.scheme = parsed.scheme)
    (hhost : lower (parsed.hostname.getD "") = parsed.hostname.getD "") :
    ActsOn url (endpointOf parsed port) where
  policy scope := by
    have hmem := h.scheme
    simp only [urlReasons, h.split, Option.bind_eq_bind, Option.bind_some, h.username, h.password,
      h.hostname, h.port, Option.pure_def]
    rw [default_port hmem, hscheme]
    simp only [Bool.false_eq_true, not_true_eq_false, or_self, if_false, Scope.reasonsAt,
      NetworkTargetScope.contains, hhost, endpointOf]
    split_ifs <;> rfl
  broker broker net call now approvals p decision hcurrent hdecision hallow := by
    subst hcurrent
    have hgrants : call.profile.grants parsed
        (portOr port (if parsed.scheme = "https" then 443 else 80)) =
          call.profile.grantsAt (endpointOf parsed port) := by
      obtain ⟨host, hname, -⟩ : ∃ host, parsed.hostname = some host ∧ host ≠ "" := by
        simpa [truthy, Option.any_eq_true] using h.hostname
      simp [SandboxProfile.grants, SandboxProfile.grantsAt, endpointOf, hname]
    have happroval : ¬decision.effect = .approvalRequired := by simp [hallow]
    have hdeny : ¬decision.effect = .deny := by simp [hallow]
    unfold prepareHop pinAt
    simp only [hdecision, orRaise, ok_bind, raiseIf, if_neg happroval, if_neg hdeny, h.split,
      h.port, hgrants]
    split_ifs
    · rfl
    · simp only [ok_bind, endpointOf]
      cases hresolve : net.resolve p.requests (parsed.hostname.getD "") with
      | none => rfl
      | some addresses =>
        simp only [ok_bind]
        split_ifs
        · rfl
        · simp only [ok_bind]
          cases hvalid : broker.validatedAddresses addresses with
          | none => rfl
          | some normalized =>
            simp only [ok_bind]
            cases hpinned : pinnedAddress normalized with
            | none => rfl
            | some pinnedIp => rfl
  transport request address hurl haddress := by
    have hmem : parsed.scheme ∈ ["http", "https"] := hscheme ▸ h.scheme
    refine ⟨wireTarget parsed, ?_⟩
    unfold openConnection
    simp only [haddress, orRaise, ok_bind, hurl, h.split, raiseIf, h.hostname, hfix, h.port]
    rw [if_neg (by simp [hmem])]
    simp only [ok_bind]
    rw [if_neg (by simp)]
    rfl

end

end

/-! ## URLs of any characters -/

/-- `urljoin` and `parse_qsl`. -/
class UrlReading where
  urljoin : String → String → Option String
  parseQsl : String → Option (List (String × String))

/-- A split result, with its properties. -/
def unicodeResult [UrlText.Lowering] (s : UrlText.Split) : SplitResult where
  scheme := String.ofList s.scheme
  netloc := String.ofList s.netloc
  username := (UrlText.username s.netloc).map String.ofList
  password := (UrlText.password s.netloc).map String.ofList
  hostname := (UrlText.unicodeHostname s.netloc).map String.ofList
  port := UrlText.port s.netloc
  path := String.ofList s.path
  query := String.ofList s.query
  fragment := String.ofList s.fragment

@[reducible] def unicodeUrls [UrlText.Lowering] [reading : UrlReading] : PythonUrl where
  lower s := String.ofList (UrlText.lowerText s.toList)
  urlsplit s := (UrlText.splitUnicode s.toList).map unicodeResult
  urljoin := reading.urljoin
  urlunsplit scheme netloc path query fragment := String.ofList
    (UrlText.urlunsplit scheme.toList netloc.toList path.toList query.toList fragment.toList)
  parseQsl := reading.parseQsl

attribute [local instance] unicodeUrls

section

variable [UrlText.Lowering] [UrlReading]

theorem toList_unicodeLower (s : String) : (lower s).toList = UrlText.lowerText s.toList :=
  String.toList_ofList

theorem lower_ofList (s : List Char) :
    lower (String.ofList s) = String.ofList (UrlText.lowerText s) := by
  rw [← String.toList_inj, toList_unicodeLower, String.toList_ofList, String.toList_ofList]

theorem urlsplit_eq_some {s : String} {parsed : SplitResult} : urlsplit s = some parsed ↔
    ∃ split, UrlText.splitUnicode s.toList = some split ∧ unicodeResult split = parsed := by
  change (UrlText.splitUnicode s.toList).map unicodeResult = some parsed ↔ _
  exact Option.map_eq_some_iff

theorem splitUnicode_eq_some {url : List Char} {s : UrlText.Split}
    (h : UrlText.splitUnicode url = some s) :
    UrlText.urlsplit UrlText.checkBracketedHost url = some s ∧
      ∀ c ∈ s.netloc, UrlText.isCompatDelimiter c = false := by
  rw [UrlText.splitUnicode, Option.bind_eq_some_iff] at h
  obtain ⟨s', hsplit, hcompat⟩ := h
  split_ifs at hcompat with hany
  cases hcompat
  refine ⟨hsplit, fun c hc => ?_⟩
  rw [Bool.not_eq_true, List.any_eq_false] at hany
  simpa using hany c hc

theorem toList_canonicalUrl (parsed : SplitResult) (port : Option ℕ) :
    (canonicalUrl parsed port).toList = UrlText.urlunsplit (UrlText.lowerText parsed.scheme.toList)
      (UrlText.canonicalNetloc (UrlText.lowerText (parsed.hostname.getD "").toList) port)
      (if parsed.path = "" then ['/'] else parsed.path.toList) parsed.query.toList [] := by
  have hhost : (if ':' ∈ (lower (parsed.hostname.getD "")).toList then
      "[" ++ lower (parsed.hostname.getD "") ++ "]" else lower (parsed.hostname.getD "")).toList =
        UrlText.renderHost (UrlText.lowerText (parsed.hostname.getD "").toList) := by
    rw [← toList_unicodeLower, UrlText.renderHost]
    split_ifs
    · simp
    · rfl
  have hpath : (if parsed.path = "" then "/" else parsed.path).toList =
      if parsed.path = "" then ['/'] else parsed.path.toList := by
    split_ifs
    · rfl
    · rfl
  change (String.ofList (UrlText.urlunsplit _ _ _ _ _)).toList = _
  rw [String.toList_ofList, toList_unicodeLower, hpath]
  cases port with
  | none => simp only [hhost, UrlText.canonicalNetloc, Option.elim_none, List.append_nil]; rfl
  | some port =>
    simp only [String.toList_append, hhost, UrlText.canonicalNetloc, Option.elim_some,
      List.append_assoc]
    rfl

theorem mem_urlunsplit {c : Char} {scheme netloc path query : List Char}
    (h : c ∈ UrlText.urlunsplit scheme netloc path query []) (hne : netloc ≠ []) :
    c ∈ scheme ∨ c ∈ netloc ∨ c ∈ path ∨ c ∈ query ∨ c = ':' ∨ c = '/' ∨ c = '?' := by
  simp only [UrlText.urlunsplit, UrlText.unsplitNetloc, if_pos hne, if_true, List.append_nil] at h
  split_ifs at h <;> simp at h <;> tauto

/-- The request target : two more slashes stand before a path that begins with two. -/
theorem urlunsplit_target (path query : List Char) :
    UrlText.urlunsplit [] [] path query [] =
      (if path.take 2 = ['/', '/'] then ['/', '/'] else []) ++ path ++
        if query = [] then [] else '?' :: query := by
  simp only [UrlText.urlunsplit, UrlText.unsplitNetloc]
  split_ifs <;> simp_all

theorem wireTarget_eq_iff {parsed : SplitResult} (hpath : parsed.path ≠ "") :
    wireTarget parsed = (if parsed.path = "" then "/" else parsed.path) ++
      (if parsed.query = "" then "" else "?" ++ parsed.query) ↔
        parsed.path.toList.take 2 ≠ ['/', '/'] := by
  have hquery : (if parsed.query = "" then "" else "?" ++ parsed.query).toList =
      if parsed.query.toList = [] then [] else '?' :: parsed.query.toList := by
    by_cases hempty : parsed.query = ""
    · rw [if_pos hempty, if_pos (String.toList_eq_nil_iff.2 hempty)]
      rfl
    · rw [if_neg hempty, if_neg fun hnil => hempty (String.toList_eq_nil_iff.1 hnil)]
      simp
  rw [← String.toList_inj, String.toList_append, hquery, if_neg hpath]
  change (String.ofList (UrlText.urlunsplit [] [] _ _ [])).toList = _ ↔ _
  rw [String.toList_ofList, if_neg hpath, urlunsplit_target]
  constructor
  · intro heq hslashes
    have hlength := congrArg List.length heq
    rw [if_pos hslashes] at hlength
    simp only [List.length_append, List.length_cons, List.length_nil] at hlength
    omega
  · intro hslashes
    rw [if_neg hslashes, List.nil_append]

variable {value : String} {split : UrlText.Split} {port : Option ℕ}

/-- The host of what was read, in lower case. -/
def canonicalHost (split : UrlText.Split) : List Char :=
  UrlText.lowerText (UrlText.loweredHost (UrlText.hostPort split.netloc).1)

theorem hostname_unicodeResult (h : SafeRead value (unicodeResult split) port) :
    (UrlText.hostPort split.netloc).1 ≠ [] ∧ (unicodeResult split).hostname =
      some (String.ofList (UrlText.loweredHost (UrlText.hostPort split.netloc).1)) := by
  have htruthy := h.hostname
  change truthy ((UrlText.unicodeHostname split.netloc).map String.ofList) = true at htruthy
  change _ ∧ (UrlText.unicodeHostname split.netloc).map String.ofList = _
  unfold UrlText.unicodeHostname at htruthy ⊢
  split_ifs at htruthy ⊢ with hnil
  · cases htruthy
  · exact ⟨hnil, rfl⟩

theorem splitUnicode_of_safeRead (h : SafeRead value (unicodeResult split) port)
    (hsplit : UrlText.splitUnicode value.toList = some split) :
    UrlText.CanonicalHost (canonicalHost split) := by
  obtain ⟨hurl, hcompat⟩ := splitUnicode_eq_some hsplit
  have hbrackets : UrlText.bracketsOk UrlText.checkBracketedHost split.netloc := by
    have hurl' := hurl
    simp only [UrlText.urlsplit] at hurl'
    split_ifs at hurl' with hok
    cases hurl'
    exact hok
  have hempty : ∀ s : Option (List Char), truthy (s.map String.ofList) = false →
      ∀ name ∈ s, name = [] := by
    rintro s hs name hname
    cases hname
    simpa [truthy] using hs
  refine UrlText.canonicalHost_of_netloc (hostname_unicodeResult h).1 (fun c hc => ?_)
    ⟨hempty _ h.username, hempty _ h.password⟩ hbrackets
  obtain ⟨hmem, hdelimiter⟩ := UrlText.mem_of_mem_netloc hurl hc
  exact ⟨(h.printable c hmem).1, (h.printable c hmem).2, hdelimiter, hcompat c hc⟩

/-- The path that is sent : an empty one is a slash. -/
def canonicalPath (split : UrlText.Split) : List Char :=
  if split.path = [] then ['/'] else split.path

/-- The scheme that was read, in lower case. -/
def canonicalScheme (split : UrlText.Split) : List Char :=
  UrlText.lowerText split.scheme

/-- What the canonical form of a URL is split into. -/
def canonicalSplit (split : UrlText.Split) (port : Option ℕ) : UrlText.Split where
  scheme := canonicalScheme split
  netloc := UrlText.canonicalNetloc (canonicalHost split) port
  path := canonicalPath split
  query := split.query
  fragment := []

/-- The text of a canonical form. -/
def composeSplit (split : UrlText.Split) : List Char :=
  UrlText.urlunsplit split.scheme split.netloc split.path split.query []

theorem toList_canonicalUrl_unicode (h : SafeRead value (unicodeResult split) port) :
    (canonicalUrl (unicodeResult split) port).toList =
      composeSplit (canonicalSplit split port) := by
  have hpath : (if (unicodeResult split).path = "" then ['/']
      else (unicodeResult split).path.toList) = canonicalPath split := by
    simp [unicodeResult, canonicalPath]
  rw [toList_canonicalUrl, hpath, (hostname_unicodeResult h).2]
  simp [composeSplit, canonicalSplit, canonicalScheme, canonicalHost, unicodeResult]

theorem canonicalScheme_mem (h : SafeRead value (unicodeResult split) port) :
    canonicalScheme split = "http".toList ∨ canonicalScheme split = "https".toList := by
  have hmem := h.scheme
  simp only [List.mem_cons, List.not_mem_nil, or_false] at hmem
  rcases hmem with heq | heq
  · refine .inl ?_
    rw [← heq, toList_unicodeLower]
    simp [canonicalScheme, unicodeResult]
  · refine .inr ?_
    rw [← heq, toList_unicodeLower]
    simp [canonicalScheme, unicodeResult]

theorem tail_of_safeRead (h : SafeRead value (unicodeResult split) port)
    (hsplit : UrlText.splitUnicode value.toList = some split) :
    UrlText.Tail value.toList split.path split.query := by
  refine UrlText.tail_of_urlsplit (splitUnicode_eq_some hsplit).1 ?_
  rintro hnil
  refine (hostname_unicodeResult h).1 ?_
  rw [hnil]
  rfl

theorem canonicalPath_spec {url : List Char} (h : UrlText.Tail url split.path split.query) :
    (canonicalPath split).head? = some '/' ∧
      ('?' ∉ canonicalPath split ∧ '#' ∉ canonicalPath split) ∧
      ∀ c ∈ canonicalPath split, c = '/' ∨ c ∈ url := by
  unfold canonicalPath
  split_ifs with hnil
  · exact ⟨rfl, ⟨by decide, by decide⟩, fun c hc => .inl (List.mem_singleton.1 hc)⟩
  · exact ⟨h.path_shape.resolve_left hnil, h.path_plain, fun c hc => .inr (h.path_mem c hc)⟩

/-- The characters of a canonical form are none that `safe_url` refuses. -/
theorem printable_composeSplit (h : SafeRead value (unicodeResult split) port)
    (hsplit : UrlText.splitUnicode value.toList = some split) :
    ∀ c ∈ composeSplit (canonicalSplit split port), 32 < c.toNat ∧ c ≠ '\\' := by
  intro c hc
  have hhost := splitUnicode_of_safeRead h hsplit
  have htail := tail_of_safeRead h hsplit
  rcases mem_urlunsplit hc (hhost.netloc_ne_nil port) with hc | hc | hc | hc | rfl | rfl | rfl
  · have hall : ∀ c ∈ "http".toList ++ "https".toList, 32 < c.toNat ∧ c ≠ '\\' := by decide
    refine hall c (List.mem_append.2 ?_)
    rcases canonicalScheme_mem h with heq | heq
    · exact .inl (heq ▸ hc)
    · exact .inr (heq ▸ hc)
  · have hchar := hhost.netloc_char hc
    exact ⟨hchar.1, hchar.2.2.2.2⟩
  · rcases (canonicalPath_spec htail).2.2 c hc with rfl | hmem
    · decide
    · exact h.printable c hmem
  · exact h.printable c (htail.query_mem c hc)
  · decide
  · decide
  · decide

/-- A canonical form is split into what it was composed of, or is no URL. -/
theorem splitUnicode_canonical (h : SafeRead value (unicodeResult split) port)
    (hsplit : UrlText.splitUnicode value.toList = some split) :
    UrlText.splitUnicode (composeSplit (canonicalSplit split port)) =
      if '[' ∈ canonicalHost split → ':' ∈ canonicalHost split then
        some (canonicalSplit split port) else none := by
  have htail := tail_of_safeRead h hsplit
  have hpath := canonicalPath_spec htail
  exact (splitUnicode_of_safeRead h hsplit).splitUnicode_compose port (canonicalScheme_mem h)
    hpath.1 hpath.2.1 htail.query_plain fun c hc => (printable_composeSplit h hsplit c hc).1

theorem mem_lowerText_iff {c : Char} (hcaseless : UrlText.isCaseless c) (hascii : c.toNat < 128)
    (hlow : c.toLower = c) {s : List Char} : c ∈ UrlText.lowerText s ↔ c ∈ s :=
  ⟨UrlText.mem_of_mem_lowerText hcaseless, UrlText.mem_lowerFrom_of_mem hascii hlow⟩

theorem faithful_iff (h : SafeRead value (unicodeResult split) port) :
    Faithful (unicodeResult split) ↔ (canonicalPath split).take 2 ≠ ['/', '/'] ∧
      ('[' ∈ canonicalHost split → ':' ∈ canonicalHost split) := by
  have hpath : (canonicalPath split).take 2 = ['/', '/'] ↔
      (unicodeResult split).path.toList.take 2 = ['/', '/'] := by
    change _ ↔ (String.ofList split.path).toList.take 2 = _
    rw [String.toList_ofList, canonicalPath]
    split_ifs with hnil
    · simp [hnil]
    · rfl
  have hhost := (hostname_unicodeResult h).2
  unfold canonicalHost
  rw [mem_lowerText_iff (by decide) (by decide) (by decide),
    mem_lowerText_iff (by decide) (by decide) (by decide), ne_eq, hpath]
  constructor
  · rintro ⟨hslashes, hbracket⟩
    exact ⟨hslashes, by simpa using hbracket _ hhost⟩
  · rintro ⟨hslashes, hbracket⟩
    refine ⟨hslashes, fun host hmem => ?_⟩
    rw [hhost] at hmem
    cases hmem
    simpa using hbracket

/-- A canonical form that is a URL is read as what it was composed of. -/
theorem safeRead_canonical (h : SafeRead value (unicodeResult split) port)
    (hsplit : UrlText.splitUnicode value.toList = some split)
    (hbracket : '[' ∈ canonicalHost split → ':' ∈ canonicalHost split) :
    SafeRead (canonicalUrl (unicodeResult split) port)
      (unicodeResult (canonicalSplit split port)) port := by
  have hcanonical := splitUnicode_of_safeRead h hsplit
  have hname : (unicodeResult (canonicalSplit split port)).hostname =
      some (String.ofList (canonicalHost split)) := by
    simp only [unicodeResult, canonicalSplit, hcanonical.hostname_eq hbracket port, Option.map_some]
  have huser : UrlText.userinfo (canonicalSplit split port).netloc = none :=
    hcanonical.userinfo_eq port
  constructor
  · rw [toList_canonicalUrl_unicode h]
    exact printable_composeSplit h hsplit
  · rw [urlsplit_eq_some, toList_canonicalUrl_unicode h, splitUnicode_canonical h hsplit,
      if_pos hbracket]
    exact ⟨_, rfl, rfl⟩
  · have hlow : UrlText.lowerText (canonicalScheme split) = canonicalScheme split :=
      UrlText.lowerText_of_mem fun c hc => hc
    have hmem := h.scheme
    simp only [unicodeResult, canonicalSplit, lower_ofList] at hmem ⊢
    rwa [hlow]
  · rw [hname]
    simpa [truthy] using hcanonical.ne_nil
  · simp only [unicodeResult, UrlText.username, huser]
    rfl
  · simp only [unicodeResult, UrlText.password, huser]
    rfl
  · simp only [unicodeResult, canonicalSplit, String.ofList_nil]
  · have hquery := h.query
    simp only [unicodeResult, canonicalSplit] at hquery ⊢
    exact hquery
  · have hport : UrlText.port split.netloc = some port := h.port
    simp only [unicodeResult, canonicalSplit]
    exact hcanonical.port_eq hbracket (UrlText.port_le hport)

/-- The canonical form of a canonical form is itself. -/
theorem canonicalUrl_canonical (h : SafeRead value (unicodeResult split) port)
    (hsplit : UrlText.splitUnicode value.toList = some split)
    (hbracket : '[' ∈ canonicalHost split → ':' ∈ canonicalHost split) :
    canonicalUrl (unicodeResult (canonicalSplit split port)) port =
      canonicalUrl (unicodeResult split) port := by
  have hcanonical := splitUnicode_of_safeRead h hsplit
  have hscheme : UrlText.lowerText (canonicalScheme split) = canonicalScheme split :=
    UrlText.lowerText_of_mem fun c hc => hc
  have hhost : UrlText.lowerText (canonicalHost split) = canonicalHost split :=
    hcanonical.lowered _ fun c hc => hc
  have hpath : (if (unicodeResult (canonicalSplit split port)).path = "" then ['/']
      else (unicodeResult (canonicalSplit split port)).path.toList) = canonicalPath split := by
    simp only [unicodeResult, canonicalSplit, String.ofList_eq_empty_iff, String.toList_ofList]
    rw [if_neg]
    intro hnil
    have hhead := (canonicalPath_spec (tail_of_safeRead h hsplit)).1
    rw [hnil] at hhead
    cases hhead
  rw [← String.toList_inj, toList_canonicalUrl_unicode h, toList_canonicalUrl, hpath]
  simp only [unicodeResult, canonicalSplit, hcanonical.hostname_eq hbracket port, Option.map_some,
    Option.getD_some, String.toList_ofList, hscheme, hhost, composeSplit]

section

variable [PolicyDigests] [BrokerDigests] [PythonIp]

/-- The components agree on a canonical form that is a URL and whose path has no second slash at
its start. -/
theorem agreement_canonical (h : SafeRead value (unicodeResult split) port)
    (hsplit : UrlText.splitUnicode value.toList = some split)
    (hslashes : (canonicalPath split).take 2 ≠ ['/', '/'])
    (hbracket : '[' ∈ canonicalHost split → ':' ∈ canonicalHost split) :
    Agreement (canonicalUrl (unicodeResult split) port) := by
  have hread := safeRead_canonical h hsplit hbracket
  have hcanonical := splitUnicode_of_safeRead h hsplit
  have hfix : safeUrl (canonicalUrl (unicodeResult split) port) =
      some (canonicalUrl (unicodeResult split) port) :=
    safeUrl_eq_some.2 ⟨_, port, hread, (canonicalUrl_canonical h hsplit hbracket).symm⟩
  have hhead := (canonicalPath_spec (tail_of_safeRead h hsplit)).1
  refine ⟨hfix, ⟨_, actsOn_endpointOf hread hfix ?_ ?_⟩, _, hread.split, ?_⟩
  · have hlow : UrlText.lowerText (canonicalScheme split) = canonicalScheme split :=
      UrlText.lowerText_of_mem fun c hc => hc
    simp only [unicodeResult, canonicalSplit, lower_ofList, hlow]
  · have hlow : UrlText.lowerText (canonicalHost split) = canonicalHost split :=
      hcanonical.lowered _ fun c hc => hc
    simp only [unicodeResult, canonicalSplit, hcanonical.hostname_eq hbracket port,
      Option.map_some, Option.getD_some, lower_ofList, hlow]
  · refine (wireTarget_eq_iff ?_).2 ?_
    · simp only [unicodeResult, canonicalSplit, ne_eq, String.ofList_eq_empty_iff]
      intro hnil
      rw [hnil] at hhead
      cases hhead
    · simpa only [unicodeResult, canonicalSplit, String.toList_ofList] using hslashes

/-- The components agree on an admitted URL exactly where its text names a path that begins with
one slash at most and a host that keeps its brackets. -/
theorem request_url_agreement_iff {value url : String} (h : Admitted value url) :
    Agreement url ↔ ∀ parsed, urlsplit value = some parsed → Faithful parsed := by
  obtain ⟨parsed, port, hread, rfl⟩ := safeUrl_eq_some.1 h.safeUrl_eq
  obtain ⟨split, hsplit, rfl⟩ := urlsplit_eq_some.1 hread.split
  have hcondition : (∀ parsed, urlsplit value = some parsed → Faithful parsed) ↔
      Faithful (unicodeResult split) := by
    rw [hread.split]
    simp
  rw [hcondition, faithful_iff hread]
  constructor
  · intro hagree
    obtain ⟨parsed, hparsed, htarget⟩ := hagree.target
    obtain ⟨split', hsplit', rfl⟩ := urlsplit_eq_some.1 hparsed
    rw [toList_canonicalUrl_unicode hread, splitUnicode_canonical hread hsplit] at hsplit'
    split_ifs at hsplit' with hbracket
    cases hsplit'
    have hhead := (canonicalPath_spec (tail_of_safeRead hread hsplit)).1
    have hne : (unicodeResult (canonicalSplit split port)).path ≠ "" := by
      simp only [unicodeResult, canonicalSplit, ne_eq, String.ofList_eq_empty_iff]
      intro hnil
      rw [hnil] at hhead
      cases hhead
    have hslashes := (wireTarget_eq_iff hne).1 htarget
    simp only [unicodeResult, canonicalSplit, String.toList_ofList] at hslashes
    exact ⟨hslashes, hbracket⟩
  · rintro ⟨hslashes, hbracket⟩
    exact agreement_canonical hread hsplit hslashes hbracket

end

end

/-! ## Two slashes -/

section

theorem toLower_of_isCaseless {c : Char} (h : UrlText.isCaseless c.toLower) : c.toLower = c := by
  refine Char.toNat_inj.1 ?_
  rw [UrlText.toNat_toLower, if_neg]
  intro hupper
  have hnat : c.toLower.toNat = c.toNat + 32 := by rw [UrlText.toNat_toLower, if_pos hupper]
  rcases of_decide_eq_true h with ⟨-, halpha⟩ | hmem
  · have hlower : c.toLower.isLower = true := by
      rw [toNat_of_isLower]
      omega
    rw [isAlpha_iff.2 (.inr hlower)] at halpha
    cases halpha
  · have hcode := of_decide_eq_true hmem
    simp only [UrlText.compatDelimiters, List.mem_cons, List.not_mem_nil, or_false] at hcode
    omega

/-- `str.lower` on ASCII texts. -/
@[reducible] def asciiLowering : UrlText.Lowering where
  lowered _ c _ := [c.toLower]
  lowered_ascii _ _ _ _ := rfl
  lowered_ne_nil := by simp
  lowered_lowered h _ _ := by rw [List.mem_singleton.1 h, UrlText.toLower_toLower]
  lowered_caseless h hd := by
    rw [List.mem_singleton] at h
    subst h
    exact (toLower_of_isCaseless hd).symm

/-- No URL has a query, and a redirect names a whole URL. -/
@[reducible] def absoluteRedirects : UrlReading where
  urljoin _ location := some location
  parseQsl query := if query = "" then some [] else none

attribute [local instance] asciiLowering absoluteRedirects textPolicyDigests

/-- Digests that are short enough to compute with. -/
@[reducible] def urlBrokerDigests : BrokerDigests where
  registry := ⟨fun registry => String.join (registry.map ToolRegistration.toolId)⟩
  profile := ⟨fun profile => String.join profile.allowedTools⟩
  call := ⟨fun call => call.idempotencyKey⟩
  urlDigest url := "u" ++ url

/-- Addresses are texts, and none of them is special. -/
@[reducible] def plainIp : PythonIp where
  ipAddress value := some ⟨value, false, false, false, false⟩

attribute [local instance] urlBrokerDigests plainIp

theorem oneSlash_agreement : Agreement "http://h/" := by
  have hadmitted : Admitted "http://h/" "http://h/" := .plan (by decide +kernel)
  refine (request_url_agreement_iff hadmitted).2 fun parsed hparsed => ?_
  have hread : urlsplit "http://h/" = some (unicodeResult
      ⟨['h', 't', 't', 'p'], ['h'], ['/'], [], []⟩) := by
    rfl
  rw [hread] at hparsed
  cases hparsed
  exact ⟨by decide, by decide⟩

/-- A path with two slashes at its start is sent with four. -/
theorem twoSlashes_disagree :
    ¬∀ value url : String, Admitted value url → Agreement url := by
  intro h
  have hagree := h "http://h//x" "http://h//x" (.plan (by decide +kernel))
  obtain ⟨parsed, hparsed, htarget⟩ := hagree.target
  have hread : urlsplit "http://h//x" = some (unicodeResult
      ⟨['h', 't', 't', 'p'], ['h'], ['/', '/', 'x'], [], []⟩) := by
    rfl
  rw [hread] at hparsed
  cases hparsed
  exact absurd htarget (by decide +kernel)

end

end VulnLoom

import VulnLoom.HybridLineage
import VulnLoom.HybridRouting
import VulnLoom.UrlText

/-!
# Plans that routes prepare

A prepared plan is admitted by the validation service and by the Hybrid service : both derive the
hosts, digests and bindings of the request anew. Texts are read as `urllib.parse` reads ASCII ones
(`asciiUrls`), and an endpoint is ASCII. The URL of the call is the URL of the endpoint
(`safeUrl_canonical`), for every form of its host and with or without a port.

`routed_plan_admissible_iff` : the plan is admitted at every instant from the creation of its
request to the deadline exactly when the request was created in the windows of its scope and its
deployment proof and the registry of the policy serves the HTTP tool.
-/

set_option linter.unusedSectionVars false

open CheckpointLedger

namespace VulnLoom

/-! ## Reading ASCII URLs -/

/-- What the text functions return beyond ASCII texts, and the address check of a bracketed
host. -/
class BeyondAscii where
  lower : String → String
  urlsplit : String → Option SplitResult
  urljoin : String → String → Option String
  parseQsl : String → Option (List (String × String))
  hostOk : List Char → Bool

def isAscii (s : String) : Bool :=
  s.toList.all fun c => c.toNat < 128

/-- A split result, with its properties. -/
def splitResult (s : UrlText.Split) : SplitResult where
  scheme := String.ofList s.scheme
  netloc := String.ofList s.netloc
  username := (UrlText.username s.netloc).map String.ofList
  password := (UrlText.password s.netloc).map String.ofList
  hostname := (UrlText.hostname s.netloc).map String.ofList
  port := UrlText.port s.netloc
  path := String.ofList s.path
  query := String.ofList s.query
  fragment := String.ofList s.fragment

@[reducible] def asciiUrls [b : BeyondAscii] : PythonUrl where
  lower s := if isAscii s then String.ofList (s.toList.map Char.toLower) else b.lower s
  urlsplit s := if isAscii s then (UrlText.urlsplit b.hostOk s.toList).map splitResult
    else b.urlsplit s
  urljoin := b.urljoin
  urlunsplit scheme netloc path query fragment := String.ofList
    (UrlText.urlunsplit scheme.toList netloc.toList path.toList query.toList fragment.toList)
  parseQsl query := if query = "" then some [] else b.parseQsl query

attribute [local instance] asciiUrls

section

variable [BeyondAscii]

theorem toList_lower {s : String} (h : isAscii s) :
    (lower s).toList = s.toList.map Char.toLower := by
  change (if isAscii s then _ else _ : String).toList = _
  rw [if_pos h, String.toList_ofList]

variable {parsed : SplitResult}

theorem urlsplit_ascii {s : String} (h : isAscii s) (hparsed : urlsplit s = some parsed) : ∃ split,
      UrlText.urlsplit BeyondAscii.hostOk s.toList = some split ∧ parsed = splitResult split := by
  change (if isAscii s then _ else _) = _ at hparsed
  rw [if_pos h, Option.map_eq_some_iff] at hparsed
  obtain ⟨split, hsplit, heq⟩ := hparsed
  exact ⟨split, hsplit, heq.symm⟩

theorem isAscii_ofList {s : List Char} (h : ∀ c ∈ s, c.toNat < 128) :
    isAscii (String.ofList s) := by
  simpa [isAscii] using h

/-- Lowering keeps what an ASCII character of a network location is. -/
theorem plain_toLower (c : Char) (h : c.toNat < 128 ∧ UrlText.isDelimiter c = false) :
    c.toLower.toNat < 128 ∧ UrlText.isDelimiter c.toLower = false := by
  by_cases hlow : c.toLower.toNat < 97 ∨ 122 < c.toLower.toNat
  · rwa [← UrlText.eq_of_toLower hlow rfl]
  · rw [not_or, not_lt, not_lt] at hlow
    refine ⟨lt_of_le_of_lt hlow.2 (by decide), ?_⟩
    simp only [UrlText.isDelimiter, decide_eq_false_iff_not, not_or]
    refine ⟨?_, ?_, ?_⟩
    · intro heq
      rw [heq] at hlow
      exact absurd hlow.1 (by decide)
    · intro heq
      rw [heq] at hlow
      exact absurd hlow.1 (by decide)
    · intro heq
      rw [heq] at hlow
      exact absurd hlow.1 (by decide)

theorem toList_renderedHost (host : String) :
    (renderedHost host).toList = UrlText.renderHost host.toList := by
  unfold renderedHost UrlText.renderHost
  split_ifs
  · simp
  · rfl

/-- The network location of a host and the port that a URL names. -/
def namedNetloc (host : String) : Option ℕ → String
  | some port => renderedHost host ++ ":" ++ toString port
  | none => renderedHost host

variable {raw url : String} {named : Option ℕ}

theorem safeUrl_eq (hparsed : urlsplit raw = some parsed) (hnamed : parsed.port = some named)
    (hsafe : safeUrl raw = some url) : url = PythonUrl.urlunsplit (lower parsed.scheme)
      (namedNetloc (lower (parsed.hostname.getD "")) named)
      (if parsed.path = "" then "/" else parsed.path) parsed.query "" := by
  simp only [safeUrl, hparsed, hnamed, Option.bind_eq_bind, Option.bind_some,
    Option.bind_eq_some_iff, Option.pure_def, Option.some.injEq] at hsafe
  obtain ⟨-, -, -, -, -, -, -, -, rfl⟩ := hsafe
  cases named with
  | none => rfl
  | some port => rfl

/-- A canonical endpoint at the port of its scheme names no port. -/
theorem named_eq_none (husable : usableEndpoint raw) (hparsed : urlsplit raw = some parsed)
    (hnamed : parsed.port = some named) (hplain : plainEndpoint parsed)
    (hraw : PythonUrl.urlunsplit parsed.scheme (renderedHost (lower (parsed.hostname.getD "")))
      (if parsed.path = "" then "/" else parsed.path) "" "" = raw) : named = none := by
  simp only [usableEndpoint, plainEndpoint, decide_eq_true_eq, List.all_eq_true] at husable hplain
  obtain ⟨-, -, hchars, -⟩ := husable
  obtain ⟨hscheme, hhost, huser, -⟩ := hplain
  have hascii : isAscii raw := by
    simp only [isAscii, List.all_eq_true, decide_eq_true_eq]
    exact fun c hc => (hchars c hc).2
  obtain ⟨split, hsplit, rfl⟩ := urlsplit_ascii hascii hparsed
  simp only [splitResult, Option.map_eq_none_iff, UrlText.username]
    at hscheme hhost huser hnamed hraw
  cases hname : UrlText.hostname split.netloc with
  | none =>
    rw [hname] at hhost
    simp [truthy] at hhost
  | some name =>
    have hnetloc : ∀ c ∈ split.netloc, c.toNat < 128 ∧ UrlText.isDelimiter c = false := fun c hc =>
      ⟨(hchars c (UrlText.mem_of_mem_netloc hsplit hc).1).2,
        (UrlText.mem_of_mem_netloc hsplit hc).2⟩
    have hnameChars := UrlText.forall_hostname plain_toLower hnetloc hname
    have hlower : (lower (String.ofList name)).toList = name.map Char.toLower := by
      rw [toList_lower (isAscii_ofList fun c hc => (hnameChars c hc).1), String.toList_ofList]
    have htext : raw.toList = UrlText.urlunsplit split.scheme
        (UrlText.renderHost (name.map Char.toLower))
        (if String.ofList split.path = "" then "/" else String.ofList split.path).toList [] [] := by
      conv_lhs => rw [← hraw]
      change (String.ofList (UrlText.urlunsplit _ _ _ _ _)).toList = _
      rw [String.toList_ofList, String.toList_ofList, toList_renderedHost, hname, Option.map_some,
        Option.getD_some, hlower]
      rfl
    have hheq : split.netloc = UrlText.renderHost (name.map Char.toLower) := by
      rw [htext] at hsplit hchars
      refine UrlText.netloc_of_urlsplit ?_ ?_ ?_ ?_ (fun c hc => (hchars c hc).1) hsplit
      · rcases hscheme with h | h
        · exact .inl (String.ofList_inj.1 h)
        · exact .inr (String.ofList_inj.1 h)
      · refine List.ne_nil_of_length_pos ?_
        have hpos : 0 < name.length := by
          refine List.length_pos_of_ne_nil ?_
          rintro rfl
          simp [hname, truthy] at hhost
        rw [UrlText.length_renderHost, List.length_map]
        omega
      · intro c hc
        rcases UrlText.mem_of_mem_renderHost hc with rfl | hc | rfl
        · decide
        · obtain ⟨d, hd, rfl⟩ := List.mem_map.1 hc
          exact (plain_toLower d (hnameChars d hd)).2
        · decide
      · split_ifs with h
        · decide
        · rwa [Ne, String.toList_eq_nil_iff]
    have hport := UrlText.port_eq_none huser hname hheq
    rw [hport] at hnamed
    exact (Option.some.inj hnamed).symm

theorem lower_scheme {scheme : String} (h : scheme = "http" ∨ scheme = "https") :
    lower scheme = scheme := by
  rcases h with rfl | rfl
  · exact String.toList_inj.1 (toList_lower (by decide))
  · exact String.toList_inj.1 (toList_lower (by decide))

/-- The URL of a canonical endpoint is its own safe form, whatever the form of its host and
whether or not it names a port. -/
theorem safeUrl_canonical (husable : usableEndpoint raw) (hparsed : urlsplit raw = some parsed)
    (hnamed : parsed.port = some named) (hplain : plainEndpoint parsed)
    (hraw : PythonUrl.urlunsplit parsed.scheme (endpointNetloc parsed.scheme
      (lower (parsed.hostname.getD "")) (effectivePort parsed.scheme named))
      (if parsed.path = "" then "/" else parsed.path) "" "" = raw)
    (hsafe : safeUrl raw = some url) : url = raw := by
  have hplain' := hplain
  simp only [plainEndpoint, decide_eq_true_eq] at hplain'
  obtain ⟨hscheme, -, -, -, hquery, -⟩ := hplain'
  have hnetloc : endpointNetloc parsed.scheme (lower (parsed.hostname.getD ""))
      (effectivePort parsed.scheme named) =
        namedNetloc (lower (parsed.hostname.getD "")) named := by
    by_cases hdefault : effectivePort parsed.scheme named = defaultPort parsed.scheme
    · rw [endpointNetloc, if_pos hdefault] at hraw ⊢
      rw [named_eq_none husable hparsed hnamed hplain hraw]
      rfl
    · rw [endpointNetloc, if_neg hdefault]
      match named, hdefault with
      | none, h => exact absurd rfl h
      | some 0, h => exact absurd rfl h
      | some (port + 1), _ => rfl
  rw [safeUrl_eq hparsed hnamed hsafe, lower_scheme hscheme, hquery, ← hnetloc]
  exact hraw

/-! ## What a route prepares -/

variable [RoutingDigests] [BrokerDigests] [ValidationDigests] [PolicyDigests] [HybridDigests]
  [PythonIp]

theorem resolve_safeUrl {provider : EnvironmentLiveEndpointProvider}
    {reference : LiveEndpointReference} {endpoint : ResolvedLiveEndpoint}
    (h : provider.resolve reference = some endpoint) (hsafe : safeUrl endpoint.url = some url) :
    urlDigest url = endpoint.urlDigest := by
  simp only [EnvironmentLiveEndpointProvider.resolve, Option.bind_eq_bind,
    Option.bind_eq_some_iff, Option.pure_def, Option.some.injEq, Option.guard_eq_some'] at h
  obtain ⟨-, -, raw, -, -, husable, parsed, hparsed, named, hnamed, -, hplain, -, hraw, rfl⟩ := h
  rw [hraw] at hsafe ⊢
  rw [safeUrl_canonical husable hparsed hnamed hplain hraw hsafe]

namespace HybridRouteService

variable {service : HybridRouteService} {x : HybridRouteExecution} {plan : ValidationPlan}

theorem httpPlan_ok {endpointUrl : String} {http : HttpRequestPlan}
    (h : service.httpPlan x endpointUrl = some http) : safeUrl endpointUrl = some http.url := by
  simp only [httpPlan] at h
  split at h
  · cases h
  next url hurl =>
    cases h
    exact hurl

/-- A materialized plan has one call, whose URL has the digest of the request. -/
theorem materialize_ok (h : service.materialize x = some plan) :
    ∃ grant http, plan = service.planOf x (service.brokerCall x grant http) ∧
      urlDigest http.url = x.request.endpointUrlDigest := by
  simp only [materialize, validationPlan, Option.bind_eq_bind, Option.bind_eq_some_iff,
    Option.pure_def, Option.some.injEq, Option.guard_eq_some', admits, decide_eq_true_eq] at h
  obtain ⟨endpoint, hresolve, -, ⟨hdigest, -⟩, grant, -, http, hhttp, -, -, rfl⟩ := h
  refine ⟨grant, http, rfl, ?_⟩
  rw [resolve_safeUrl hresolve (httpPlan_ok hhttp), hdigest]

@[simp] theorem conclude_routeId (attempt : ℕ) :
    (service.conclude x attempt).1.routeId = x.request.routeId := by
  simp only [conclude]
  split
  · rfl
  · cases service.materialize x with
    | none => rfl
    | some plan =>
      dsimp only
      split <;> rfl

theorem conclude_plan {attempt : ℕ} (h : (service.conclude x attempt).2 = some plan) :
    service.materialize x = some plan := by
  simp only [conclude] at h
  split at h
  · cases h
  · cases hmaterialized : service.materialize x with
    | none =>
      rw [hmaterialized] at h
      cases h
    | some materialized =>
      simp only [hmaterialized] at h
      split at h
      · cases h
      · exact h

variable {store store' : HybridRouteStore}

/-- A completion prepares the plan it is given, and no other. -/
theorem complete_plan {outcome : HybridRouteOutcome} {prepared : Option ValidationPlan}
    (h : store.complete outcome prepared = .ok store') (hnew : store.plan? outcome.routeId = none)
    (hplan : store'.plan? outcome.routeId = some plan) : prepared = some plan := by
  simp only [HybridRouteStore.complete, bind_eq_ok, pure_eq_ok] at h
  obtain ⟨rows, hrows, routes, -, rfl⟩ := h
  cases prepared with
  | none =>
    cases hrows
    rw [show (HybridRouteStore.plan? ⟨routes, store.prepared⟩ outcome.routeId) =
      store.plan? outcome.routeId from rfl, hnew] at hplan
    cases hplan
  | some added =>
    simp only [HybridRouteStore.withPlan, orRaise_eq_ok, Table.insert_eq_some] at hrows
    obtain ⟨-, rfl⟩ := hrows
    simp only [HybridRouteStore.plan?, Option.map_eq_none_iff] at hnew
    simpa [HybridRouteStore.plan?, List.find?_append, hnew] using hplan

/-- Where a route has no plan before a call and has one after it, the call has passed its
preflight and materialized the plan. -/
theorem execute_prepares {answer : Except HybridError HybridRouteOutcome}
    (h : service.execute store x = (store', answer)) (hnew : store.plan? x.request.routeId = none)
    (hplan : store'.plan? x.request.routeId = some plan) :
    service.preflightRequest x = .ok () ∧ service.materialize x = some plan := by
  have hunchanged : ∀ routes, store' = ⟨routes, store.prepared⟩ → False := by
    rintro routes rfl
    rw [show (HybridRouteStore.plan? ⟨routes, store.prepared⟩ x.request.routeId) =
      store.plan? x.request.routeId from rfl, hnew] at hplan
    cases hplan
  simp only [execute] at h
  split at h
  · cases h
    exact (hunchanged _ rfl).elim
  next hpreflight =>
    refine ⟨hpreflight, ?_⟩
    split at h
    · cases h
      exact (hunchanged _ rfl).elim
    next claim _ =>
      simp only [proceed] at h
      split_ifs at h
      · cases h
        exact (hunchanged _ rfl).elim
      · split at h
        next completed hcomplete =>
          cases h
          refine conclude_plan (complete_plan hcomplete ?_ ?_)
          · rw [conclude_routeId]
            exact hnew
          · rwa [conclude_routeId]
        · cases h
          exact (hunchanged _ rfl).elim

end HybridRouteService

/-! ## Admission -/

/-- The registry of a broker has the tool as an HTTP tool for validations, and the adapters of the
broker are the ones it registers. -/
def ToolBroker.Serves (broker : ToolBroker) (toolId : String) : Prop :=
  ∃ registration, broker.require toolId = .ok registration ∧
    SandboxProfileKind.validation ∈ registration.allowedProfiles ∧
    registration.capability = .httpRequest ∧
    broker.httpTransport = some registration.implementationDigest ∧
    broker.resolver = some registration.implementationDigest

namespace HybridRouteService

variable {service : HybridRouteService} {x : HybridRouteExecution} {plan : ValidationPlan}

/-- The broker of the scope and the registry of the route service. -/
def brokerOf (service : HybridRouteService) (x : HybridRouteExecution) (broker : ToolBroker) :
    ToolBroker :=
  { broker with scope := x.scope, registry := service.toolRegistry }

/-- What the preflight of a route has checked. -/
theorem preflightRequest_ok (h : service.preflightRequest x = .ok ()) :
    (x.scope.state = .approved ∧ x.candidate.state = .proposed ∧
      x.candidate.scopeId = x.scope.scopeId ∧ x.candidate.scopeVersion = x.scope.version) ∧
    (x.deploymentProof.sourceTargetId = x.candidate.targetId ∧
      x.deploymentProof.sourceTargetVersion = x.candidate.targetVersion) ∧
    x.request.BoundTo x.candidate x.deploymentProof x.scope service.policy := by
  simp only [preflightRequest, bind_eq_ok, raiseIf_eq_ok, not_not] at h
  obtain ⟨u, hsource, hbound⟩ := h
  simp only [checkRouteSource, raiseIf_eq_ok] at hsource
  push Not at hsource
  obtain ⟨hcurrent, hproposed, hscopeId, hversion, htarget, htargetVersion, -⟩ := hsource
  simp only [Scope.isCurrent, ne_eq, decide_eq_false_iff_not, not_not] at hcurrent
  exact ⟨⟨hcurrent.1, hproposed, hscopeId, hversion⟩, ⟨htarget, htargetVersion⟩, hbound⟩

theorem boundTo_task (h : service.preflightRequest x = .ok ()) (taskId : UUID)
    (profile : SandboxProfile) (allowedTools : List String) :
    (service.task x taskId profile allowedTools).boundTo x.candidate x.scope
      ("candidate:" ++ x.request.candidateDigest) = true := by
  obtain ⟨-, -, hbound⟩ := preflightRequest_ok h
  simpa [TaskEnvelope.boundTo, task] using hbound.deadline.trans (min_le_left _ _)

/-- The call of the plan passes the preflight of the broker where the broker serves its tool. -/
theorem checkCall_iff {broker : ToolBroker} (grant : NetworkGrant) (http : HttpRequestPlan) :
    ValidationService.checkCall ⟨x.scope, service.brokerOf x broker⟩
        (service.brokerCall x grant http) = .ok () ↔
      (service.brokerOf x broker).Serves "http.request" := by
  simp only [ValidationService.checkCall, ToolBroker.preflight, bind_eq_ok, raiseIf_eq_ok,
    mapError_eq_ok, pure_eq_ok, not_not, ToolBroker.Serves]
  constructor
  · rintro ⟨-, -, -, ⟨registration, hrequire, -, -, -, -, -, -, -, -, -, -, -, -, -, hkind, -,
      hcapability, -, hadapters, -⟩, -⟩
    rw [not_or, not_not, not_not] at hadapters
    exact ⟨registration, hrequire, hkind, hcapability, hadapters⟩
  · rintro ⟨registration, hrequire, hkind, hcapability, htransport, hresolver⟩
    refine ⟨(), rfl, registration, ⟨registration, hrequire, (), rfl, (), ?_, (), rfl, (), rfl, (),
      rfl, (), ?_, (), hkind, (), hcapability, (), ?_, (), rfl, (), ?_, (), ?_, rfl⟩, trivial⟩
    · simp [brokerCall, task, brokerOf]
    · simp [brokerCall, task, brokerProfile, validationProfile]
    · simp [htransport, hresolver]
    · simp [brokerCall, brokerProfile, validationProfile]
    · simp [brokerCall, task]

variable {http : HttpRequestPlan} {grant : NetworkGrant}

/-- The validation service admits the plan at an instant before the deadline exactly when the
request was created by then, the scope is in its window, and the broker serves the tool. -/
theorem preflight_iff (hpreflight : service.preflightRequest x = .ok ()) {broker : ToolBroker}
    {now : Time} (hnow : now < x.request.deadline) :
    ValidationService.preflight ⟨x.scope, service.brokerOf x broker⟩ x.candidate
        (service.planOf x (service.brokerCall x grant http)) now = .ok () ↔
      x.request.createdAt ≤ now ∧ x.scope.validFrom ≤ now ∧
        (service.brokerOf x broker).Serves "http.request" := by
  obtain ⟨⟨hstate, hproposed, hscopeId, hversion⟩, -, hbound⟩ := preflightRequest_ok hpreflight
  have huntil : now < x.scope.validUntil :=
    lt_of_lt_of_le hnow (hbound.deadline.trans (min_le_left _ _))
  simp only [ValidationService.preflight, bind_eq_ok, raiseIf_eq_ok, not_not, queueValidation,
    mapError_eq_ok, transitionCandidate, pure_eq_ok]
  constructor
  · rintro ⟨-, -, -, hselected, -, -, moved, ⟨-, -, -, hwindow, -⟩, -, -, -, -, hcalls⟩
    refine ⟨not_lt.1 hselected, hwindow.1, (checkCall_iff grant http).1 ?_⟩
    simpa [planOf] using hcalls
  · rintro ⟨hcreated, hfrom, hserves⟩
    refine ⟨(), hproposed, (), not_lt.2 hcreated, (), ?_, _, ⟨(), hstate, (), ⟨hfrom, huntil⟩, (),
      ?_, (), ?_, rfl⟩, (), ?_, (), ?_, ?_⟩
    · simp [planOf, hbound.candidateDigest, hscopeId, hversion]
    · simp [hscopeId, hversion]
    · rw [hproposed]
      decide
    · rintro ⟨task, htask, hunbound⟩
      simp only [planOf, runnerRequest, List.map_cons, List.map_nil, List.mem_cons,
        List.not_mem_nil, or_false] at htask hunbound
      rcases htask with rfl | rfl
      · exact hunbound (boundTo_task hpreflight _ _ _)
      · exact hunbound (boundTo_task hpreflight _ _ _)
    · simp [planOf, runnerRequest, runnerProfile, validationProfile, task]
    · simpa [planOf] using (checkCall_iff grant http).2 hserves

/-- The Hybrid service prepares a plan of an initial check on the prepared plan. -/
structure Initial (x : HybridRouteExecution) (plan : ValidationPlan) (p : HybridPreparation) :
    Prop where
  checkKind : p.checkKind = .initial
  candidate : p.candidate = x.candidate
  deploymentProof : p.deploymentProof = x.deploymentProof
  validationPlan : p.validationPlan = plan
  sourceValidationPlan : p.sourceValidationPlan = none
  sourceManifestDigest : p.sourceManifestDigest = x.deploymentProof.sourceManifestDigest
  scope : p.scope = x.scope
  priorChain : p.priorChain = none
  /-- the caller's own values are well formed -/
  isSealed : p.values.Sealed

/-- A prepared plan is admitted from the creation of its request to the deadline : by the
validation service, and by the Hybrid service as the plan of an initial check; one call of it goes
to the deployed endpoint. -/
structure Admissible (validation : ValidationService) (x : HybridRouteExecution)
    (plan : ValidationPlan) : Prop where
  preflight : ∀ now, x.request.createdAt ≤ now → now < x.request.deadline →
    validation.preflight x.candidate plan now = .ok ()
  hybrid : ∀ p, Initial x plan p → x.request.createdAt ≤ p.createdAt →
    p.createdAt < x.request.deadline → ∀ rows, ∃ hybridPlan, prepareHybrid rows p = .ok hybridPlan
  endpoint : (plan.callsTo x.deploymentProof.endpointUrlDigest).length = 1

/-- The request was created in the windows of its scope and of its deployment proof. -/
structure CreatedInWindow (x : HybridRouteExecution) : Prop where
  scope : x.scope.validFrom ≤ x.request.createdAt
  proof : x.deploymentProof.attestedAt ≤ x.request.createdAt

theorem callsTo_planOf {endpoint : Digest} (h : urlDigest http.url = endpoint) :
    ((service.planOf x (service.brokerCall x grant http)).callsTo endpoint).length = 1 := by
  simp [ValidationPlan.callsTo, planOf, brokerCall, h]

/-- The Hybrid service accepts an initial check on the prepared plan at an instant before the
deadline exactly when scope and deployment proof are in their windows. -/
theorem prepareHybrid_iff (hpreflight : service.preflightRequest x = .ok ())
    (hdigest : urlDigest http.url = x.request.endpointUrlDigest) {p : HybridPreparation}
    (hp : Initial x (service.planOf x (service.brokerCall x grant http)) p)
    (hnow : p.createdAt < x.request.deadline) (rows : List HybridRow) :
    (∃ hybridPlan, prepareHybrid rows p = .ok hybridPlan) ↔
      x.scope.validFrom ≤ p.createdAt ∧ x.deploymentProof.attestedAt ≤ p.createdAt := by
  obtain ⟨⟨hstate, -, hscopeId, hversion⟩, ⟨htarget, htargetVersion⟩, hbound⟩ :=
    preflightRequest_ok hpreflight
  have huntil : p.createdAt < x.scope.validUntil :=
    lt_of_lt_of_le hnow (hbound.deadline.trans (min_le_left _ _))
  have hexpires : p.createdAt < x.deploymentProof.expiresAt :=
    lt_of_lt_of_le hnow (hbound.deadline.trans (min_le_right _ _))
  have hcalls : (p.validationPlan.callsTo p.deploymentProof.endpointUrlDigest).length = 1 := by
    rw [hp.validationPlan, hp.deploymentProof]
    exact callsTo_planOf (hdigest.trans hbound.endpointUrlDigest)
  have hvalid : p.isBound = true ↔ x.deploymentProof.attestedAt ≤ p.createdAt := by
    simp [HybridPreparation.isBound, hp.deploymentProof, hp.candidate, hp.validationPlan, hp.scope,
      hp.sourceManifestDigest, htarget, htargetVersion, planOf, hbound.candidateDigest, hexpires]
  have hcurrent : x.scope.isCurrent p.createdAt = true ↔ x.scope.validFrom ≤ p.createdAt := by
    simp [Scope.isCurrent, hstate, huntil]
  have hcreate : HybridValidationPlan.create p.values = .ok ⟨p.values, hp.isSealed⟩ :=
    dif_pos hp.isSealed
  simp only [prepareHybrid, checkHybridScope, hp.scope, hp.checkKind, hp.sourceValidationPlan,
    hp.priorChain, checkSourcePlan, checkPriorChain, Option.isSome_none, bind_eq_ok,
    raiseIf_eq_ok, Bool.not_eq_false, hcurrent, hvalid, hcalls, hcreate]
  constructor
  · rintro ⟨-, -, hfrom, -, hattested, -⟩
    exact ⟨hfrom, hattested⟩
  · rintro ⟨hfrom, hattested⟩
    exact ⟨_, (), hfrom, (), hattested, (), by simp, (), by simp, (), by simp, rfl⟩

/-- An initial check on a plan, prepared when its request was created. -/
def initialPreparation (x : HybridRouteExecution) (plan : ValidationPlan) : HybridPreparation where
  checkKind := .initial
  candidate := x.candidate
  deploymentProof := x.deploymentProof
  validationPlan := plan
  sourceValidationPlan := none
  sourceManifestDigest := x.deploymentProof.sourceManifestDigest
  sourceEvidenceRefs := [""]
  scope := x.scope
  createdAt := x.request.createdAt
  deadline := x.request.createdAt + 1
  idempotencyKey := ""
  priorChain := none
  limits := ⟨64, 64, 30000000, 3, last_of_three⟩

theorem initial_initialPreparation (x : HybridRouteExecution) (plan : ValidationPlan) :
    Initial x plan (initialPreparation x plan) where
  checkKind := rfl
  candidate := rfl
  deploymentProof := rfl
  validationPlan := rfl
  sourceValidationPlan := rfl
  sourceManifestDigest := rfl
  scope := rfl
  priorChain := rfl
  isSealed := by
    have hrefs : (initialPreparation x plan).values.sourceEvidenceRefs = [""] :=
      show sortedSet [""] = [""] by decide +kernel
    refine ⟨Nat.lt_succ_self _, ?_, ?_, ?_, ⟨fun _ => rfl, fun _ => rfl⟩,
      ⟨fun _ => rfl, fun _ => rfl⟩, rfl⟩
    · rw [hrefs]
      decide
    · rw [hrefs]
      decide +kernel
    · rw [hrefs]
      exact show 1 ≤ 64 by decide

/-- The plan that an execution prepares is admitted at every instant from the creation of its
request to the deadline, by the validation service and by the Hybrid service, exactly when the
request was created in the windows of its scope and its deployment proof and the registry of the
policy serves the HTTP tool. -/
theorem routed_plan_admissible_iff (service : HybridRouteService) (broker : ToolBroker)
    (x : HybridRouteExecution) {store store' : HybridRouteStore}
    {answer : Except HybridError HybridRouteOutcome} {plan : ValidationPlan}
    (h : service.execute store x = (store', answer))
    (hnew : store.plan? x.request.routeId = none)
    (hplan : store'.plan? x.request.routeId = some plan) :
    Admissible ⟨x.scope, service.brokerOf x broker⟩ x plan ↔
      CreatedInWindow x ∧ (service.brokerOf x broker).Serves "http.request" := by
  obtain ⟨hpreflight, hmaterialized⟩ := execute_prepares h hnew hplan
  obtain ⟨grant, http, rfl, hdigest⟩ := materialize_ok hmaterialized
  constructor
  · intro hadmissible
    obtain ⟨-, hfrom, hserves⟩ := (preflight_iff hpreflight x.request.window).1
      (hadmissible.preflight _ le_rfl x.request.window)
    have hinitial := initial_initialPreparation x
      (service.planOf x (service.brokerCall x grant http))
    have hprepared := hadmissible.hybrid _ hinitial le_rfl x.request.window []
    exact ⟨⟨hfrom, ((prepareHybrid_iff hpreflight hdigest hinitial x.request.window []).1
      hprepared).2⟩, hserves⟩
  · rintro ⟨hcreated, hserves⟩
    refine ⟨fun now hnow hdeadline => ?_, fun p hp hnow hdeadline rows => ?_, ?_⟩
    · exact (preflight_iff hpreflight hdeadline).2
        ⟨hnow, hcreated.scope.trans hnow, hserves⟩
    · exact (prepareHybrid_iff hpreflight hdigest hp hdeadline rows).2
        ⟨hcreated.scope.trans hnow, hcreated.proof.trans hnow⟩
    · exact callsTo_planOf (hdigest.trans (preflightRequest_ok hpreflight).2.2.endpointUrlDigest)

end HybridRouteService

end

/-! ## A request made before its scope is valid -/

section

/-- Texts are ASCII, and no host is bracketed. -/
@[reducible] def plainTexts : BeyondAscii where
  lower := id
  urlsplit _ := none
  urljoin _ url := some url
  parseQsl _ := none
  hostOk _ := false

attribute [local instance] plainTexts textPolicyDigests textHybridDigests

/-- Digests that are short enough to compute with. -/
@[reducible] def routeBrokerDigests : BrokerDigests where
  registry := ⟨fun registry => String.join (registry.map ToolRegistration.toolId)⟩
  profile := ⟨fun profile => String.join profile.allowedTools⟩
  call := ⟨fun call => call.idempotencyKey ++ call.http.url⟩
  urlDigest url := "u" ++ url

/-- Digests that are short enough to compute with. -/
@[reducible] def routeValidationDigests : ValidationDigests where
  candidate := ⟨Candidate.targetVersion⟩
  plan := ⟨ValidationPlan.idempotencyKey⟩

/-- Digests that are short enough to compute with. -/
@[reducible] def textRoutingDigests : RoutingDigests where
  reference := ⟨LiveEndpointReference.configurationKey⟩
  policy := ⟨HybridRoutePolicy.validationImageDigest⟩
  request := ⟨HybridRouteRequest.idempotencyKey⟩
  sealedPlan plan := plan.idempotencyKey

/-- `ipaddress` on no address. -/
@[reducible] def noIp : PythonIp where
  ipAddress _ := none

attribute [local instance] routeBrokerDigests routeValidationDigests textRoutingDigests noIp

def routePolicy : HybridRoutePolicy where
  validationImageDigest := "i"
  toolRegistryDigest := "http.request"
  connectTime := 3000000
  readTime := 10000000
  totalTime := 15000000
  maxResponseBytes := 2097152
  materializationTimeout := 10000000
  maxAttempts := 3
  connectTime_bounds := HttpLimits.connectTime_default
  readTime_bounds := HttpLimits.readTime_default
  totalTime_bounds := HttpLimits.totalTime_default
  maxResponseBytes_bounds := HttpLimits.maxResponseBytes_default
  maxAttempts_bounds := last_of_three
  total_covers := by decide

def routeService : HybridRouteService where
  policy := routePolicy
  toolRegistry := [⟨"http.request", "2", .httpRequest, [.validation], true, true, "i"⟩]
  endpointProvider := ⟨fun _ => some "https://t/", [⟨"HYBRID_ENDPOINT_A"⟩]⟩
  bound := by decide +kernel

def routeBroker : ToolBroker where
  scope := sampleScope
  registry := []
  resolver := some "i"
  httpTransport := some "i"
  blockedIps := []
  allowedResolvedIps := none
  results := []

/-- A request that was created at the given instant, in a scope that is valid from 10 on. -/
def routeExecution (createdAt : Time) (h : createdAt < 80) : HybridRouteExecution where
  request :=
    { candidateId := "c"
      candidateDigest := "1"
      sourceTargetId := "t"
      sourceTargetVersion := "1"
      sourceManifestDigest := "m1"
      liveTargetId := "l"
      deploymentProofId := "deployed 1"
      deploymentProofDigest := "deployed 1"
      endpointReference := ⟨"HYBRID_ENDPOINT_A"⟩
      endpointUrlDigest := "uhttps://t/"
      expectedStatusCode := 200
      expectedBodySha256 := "b"
      testClass := "x"
      scopeId := "s"
      scopeVersion := 1
      routePolicyId := "i"
      selectedBy := "operator:o"
      createdAt := createdAt
      deadline := 80
      idempotencyKey := "k"
      window := h
      statusCode_bounds := status_bounds }
  candidate := hybridCandidate "1"
  deploymentProof := deployment "1"
  scope := { sampleScope with validFrom := 10, window := by decide }
  now := 20
  recover := false
  elapsed := 0
  ids := ⟨"r", "a", "b", "c"⟩

/-- What the execution of a request leaves in an empty ledger. -/
def routed (x : HybridRouteExecution) : HybridRouteStore :=
  (routeService.execute ⟨[], []⟩ x).1

theorem routeBroker_serves (x : HybridRouteExecution) :
    (routeService.brokerOf x routeBroker).Serves "http.request" :=
  ⟨⟨"http.request", "2", .httpRequest, [.validation], true, true, "i"⟩, rfl, by decide, rfl, rfl,
    rfl⟩

theorem execute_routed (x : HybridRouteExecution) :
    routeService.execute ⟨[], []⟩ x = (routed x, (routeService.execute ⟨[], []⟩ x).2) :=
  rfl

theorem routed_isSome :
    ((routed (routeExecution 12 (by decide))).plan? "k").isSome ∧
      ((routed (routeExecution 5 (by decide))).plan? "k").isSome := by
  decide +kernel

/-- The plan of a request that was created in the window of its scope is admitted. -/
theorem timely_plan_admissible :
    HybridRouteService.Admissible
      ⟨(routeExecution 12 (by decide)).scope,
        routeService.brokerOf (routeExecution 12 (by decide)) routeBroker⟩
      (routeExecution 12 (by decide)) (Option.get _ routed_isSome.1) :=
  (HybridRouteService.routed_plan_admissible_iff routeService routeBroker
    (routeExecution 12 (by decide)) (execute_routed _) rfl
    (Option.some_get routed_isSome.1).symm).2
    ⟨⟨by decide, by decide⟩, routeBroker_serves _⟩

/-- A request that was created before its scope was valid is routed all the same; the plan is not
admitted at its creation. -/
theorem early_request_is_routed :
    ¬∀ (service : HybridRouteService) (broker : ToolBroker) (x : HybridRouteExecution)
      (store : HybridRouteStore) (plan : ValidationPlan),
      store.plan? x.request.routeId = none →
      (service.execute store x).1.plan? x.request.routeId = some plan →
      (service.brokerOf x broker).Serves "http.request" →
      HybridRouteService.Admissible ⟨x.scope, service.brokerOf x broker⟩ x plan := by
  intro hall
  have hadmissible := hall routeService routeBroker (routeExecution 5 (by decide)) ⟨[], []⟩ _ rfl
    (Option.some_get routed_isSome.2).symm (routeBroker_serves _)
  have hrefused : (ValidationService.preflight ⟨(routeExecution 5 (by decide)).scope,
      routeService.brokerOf (routeExecution 5 (by decide)) routeBroker⟩
      (routeExecution 5 (by decide)).candidate (Option.get _ routed_isSome.2) 5).isOk = false := by
    decide +kernel
  rw [hadmissible.preflight 5 (by decide) (by decide)] at hrefused
  cases hrefused

end

end VulnLoom

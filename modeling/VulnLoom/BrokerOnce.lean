import VulnLoom.BrokerEnforcement
import VulnLoom.FlowBudget

/-!
# Sending at most once

A result stored under the key of a call is all that keeps the call from being sent again.
Every exit of the loop stores one, except an exception that escapes. `Breaks` lists the
exceptions that escape once a request has been handed over : the redirect target cannot be
read, the resolver raises for its host, or the transport raises what `_execute_http` does
not catch. Nothing else does (`httpHop_error`) : the records built from a response are
valid because the response is.
-/

set_option linter.unusedSectionVars false

open BoundedLoop

namespace VulnLoom

section

variable [PolicyDigests] [PythonUrl] [BrokerDigests] [PythonIp]

/-! ## Exceptions that escape -/

/-- An exception escapes from the hop at `p`, and a request has been handed over. -/
inductive Breaks (broker : ToolBroker) (net : Network) (call : BrokerCall) (now : Time)
    (approvals : List ApprovalRequest) (p : HttpProgress) : Prop
  | url (hsent : 0 < p.requests)
      (hdecide : broker.scope.decide (call.action p.current now) approvals = none) :
      Breaks broker net call now approvals p
  | resolver {decision : Decision} {parsed : SplitResult} (hsent : 0 < p.requests)
      (hdecide : broker.scope.decide (call.action p.current now) approvals = some decision)
      (hallow : decision.effect = .allow) (hgrant : call.profile.GrantsUrl p.current)
      (hparsed : urlsplit p.current = some parsed)
      (hresolve : net.resolve p.requests (parsed.hostname.getD "") = none) :
      Breaks broker net call now approvals p
  | transport {q : HttpProgress} {request : HttpWireRequest}
      (hprepare : prepareHop broker net call now approvals p = .ok (q, request))
      (hsend : net.send p.requests request = .error .other) :
      Breaks broker net call now approvals p

variable {broker : ToolBroker} {net : Network} {call : BrokerCall} {now : Time}
  {approvals : List ApprovalRequest}

theorem pinnedAddress_of_validated {addresses normalized : List String}
    (h : broker.validatedAddresses addresses = some normalized) :
    ∃ address, pinnedAddress normalized = some address := by
  simp only [ToolBroker.validatedAddresses, Option.bind_eq_bind, Option.bind_eq_some_iff,
    Option.guard_eq_some', Option.pure_def, Option.some.injEq] at h
  obtain ⟨-, -, texts, -, -, hne, rfl⟩ := h
  obtain ⟨text, htext⟩ := List.exists_mem_of_ne_nil texts hne
  have hsorted : text ∈ texts.dedup.insertionSort (· ≤ ·) :=
    (List.mem_insertionSort _).2 (List.mem_dedup.2 htext)
  unfold pinnedAddress
  cases hlist : texts.dedup.insertionSort (· ≤ ·) with
  | nil =>
    rw [hlist] at hsorted
    cases hsorted
  | cons address rest => exact ⟨address, rfl⟩

variable {p : HttpProgress} {e : BrokerError}

@[simp] theorem refuse_ne_error {status : BrokerStatus} {errorCode : String}
    {h : status ≠ .completed} : p.refuse status errorCode h ≠ .error e := by
  simp [HttpProgress.refuse]

/-- Before the transport, only the URL and the resolver can raise. -/
theorem prepareHop_error (h : prepareHop broker net call now approvals p = .error (.error e)) :
    broker.scope.decide (call.action p.current now) approvals = none ∨
      ∃ decision parsed, broker.scope.decide (call.action p.current now) approvals =
        some decision ∧ decision.effect = .allow ∧ call.profile.GrantsUrl p.current ∧
        urlsplit p.current = some parsed ∧
        net.resolve p.requests (parsed.hostname.getD "") = none := by
  simp only [prepareHop, bind_eq_error, orRaise_eq_error, orRaise_eq_ok, raiseIf_eq_error,
    raiseIf_eq_ok, refuse_ne_error, pure_ne_error, and_false, exists_false, false_or, or_false,
    Bool.not_eq_false] at h
  rcases h with ⟨hdecide, -⟩ | ⟨decision, hdecide, -, hrequired, -, hdenied, h⟩
  · exact Or.inl hdecide
  have hallow : decision.effect = .allow := by
    cases heffect : decision.effect with
    | allow => rfl
    | deny => exact absurd heffect hdenied
    | approvalRequired => exact absurd heffect hrequired
  obtain ⟨parsed', port', hparsed', hport'⟩ := Scope.decide_allow_url hdecide hallow rfl
  rcases h with ⟨hnone, -⟩ | ⟨parsed, hparsed, h⟩
  · rw [hparsed'] at hnone
    cases hnone
  rcases h with ⟨hnone, -⟩ | ⟨port, hport, -, hgrant, h⟩
  · rw [hparsed] at hparsed'
    cases hparsed'
    rw [hport'] at hnone
    cases hnone
  rcases h with ⟨hresolve, -⟩ | ⟨addresses, -, -, -, normalized, hvalid, hpin, -⟩
  · refine Or.inr ⟨decision, parsed, hdecide, hallow, ⟨parsed, port, hparsed, hport, ?_⟩, hparsed,
      hresolve⟩
    simpa only [SandboxProfile.grants, List.any_eq_true, decide_eq_true_eq] using hgrant
  · obtain ⟨address, haddress⟩ := pinnedAddress_of_validated hvalid
    rw [haddress] at hpin
    cases hpin

variable {hop : OfflineHttpHop}

/-- An output is built from a valid response without a check that can fail. -/
theorem complete_ne_error : p.complete hop ≠ .error e := by
  have hcreate : ∀ url bytes sha redirects evidence, ∃ output,
      HttpToolResult.create hop.statusCode url hop.peerIp bytes sha redirects evidence =
        .ok output := by
    intro url bytes sha redirects evidence
    unfold HttpToolResult.create
    rw [dif_pos ⟨hop.statusCode_bounds, hop.peerIp_nonempty⟩]
    exact ⟨_, rfl⟩
  obtain ⟨output, houtput⟩ := hcreate (urlDigest p.current) p.totalBytes hop.responseBodySha256
    p.redirects p.evidence
  intro h
  simp only [HttpProgress.complete, houtput] at h
  cases h

/-- A response with a location has a status of a redirect. -/
theorem RedirectRecord.create_ok {location : String} (hlocation : hop.location = some location)
    (fromUrl toUrl : Digest) :
    ∃ redirect, RedirectRecord.create hop.statusCode fromUrl toUrl hop.peerIp = .ok redirect := by
  have hstatus : hop.statusCode ∈ redirectStatuses := hop.redirect_shape.2 (by simp [hlocation])
  have hbounds : 300 ≤ hop.statusCode ∧ hop.statusCode ≤ 399 := by
    simp only [redirectStatuses, List.mem_cons, List.not_mem_nil, or_false] at hstatus
    omega
  unfold RedirectRecord.create
  rw [dif_pos ⟨hbounds, hop.peerIp_nonempty⟩]
  exact ⟨_, rfl⟩

/-- Nothing raises once a response has been accepted. -/
theorem followHop_error : followHop call p hop ≠ .error (.error e) := by
  intro h
  unfold followHop at h
  split at h
  · exact complete_ne_error (Except.error.inj h)
  next location hlocation =>
    simp only [bind_eq_error, orRaise_eq_error, orRaise_eq_ok, raiseIf_eq_error, raiseIf_eq_ok,
      refuse_ne_error, pure_ne_error, and_false, exists_false, false_or, or_false] at h
    obtain ⟨-, -, -, -, target, -, h⟩ := h
    obtain ⟨redirect, hredirect⟩ := RedirectRecord.create_ok hlocation (urlDigest p.current)
      (urlDigest target)
    rw [hredirect] at h
    cases h

theorem acceptHop_error {pinnedIp : String} :
    acceptHop call now p pinnedIp hop ≠ .error (.error e) := by
  intro h
  simp only [acceptHop, bind_eq_error, raiseIf_eq_error, refuse_ne_error, pure_ne_error,
    and_false, exists_false, false_or] at h

/-- An exception that escapes from a hop breaks it, unless nothing has been handed over. -/
theorem httpHop_error {es : List Exchange}
    (h : httpHop broker net call now approvals p = (es, .leave (.error e))) :
    Breaks broker net call now approvals p ∨ p.requests = 0 ∧ es = [] := by
  unfold httpHop at h
  split at h
  next exit hprepare =>
    cases h
    rcases Nat.eq_zero_or_pos p.requests with hzero | hsent
    · exact Or.inr ⟨hzero, rfl⟩
    · rcases prepareHop_error hprepare with hdecide |
        ⟨decision, parsed, hdecide, hallow, hgrant, hparsed, hresolve⟩
      · exact Or.inl (.url hsent hdecide)
      · exact Or.inl (.resolver hsent hdecide hallow hgrant hparsed hresolve)
  next q request hprepare =>
    split at h
    next sendError hsend =>
      cases sendError with
      | other => exact Or.inl (.transport hprepare hsend)
      | httpPeerMismatch | httpResponseLimitExceeded | timeoutError | osOrRuntimeError =>
        simp [HttpProgress.sendExit] at h
    next hop hsend =>
      split at h
      next exit haccept =>
        cases h
        exact absurd haccept acceptHop_error
      next q' haccept =>
        split at h
        next exit hfollow =>
          cases h
          exact absurd hfollow followHop_error
        next => cases h

/-- A hop that breaks leaves the loop by an exception, after a request was handed over. -/
theorem Breaks.leaves (h : Breaks broker net call now approvals p) :
    ∃ es e, httpHop broker net call now approvals p = (es, .leave (.error e)) ∧
      (0 < p.requests ∨ es ≠ []) := by
  unfold httpHop
  cases h with
  | url hsent hdecide =>
    have hprepare : prepareHop broker net call now approvals p = .error (.error .valueError) := by
      simp only [prepareHop, hdecide]
      rfl
    rw [hprepare]
    exact ⟨_, _, rfl, Or.inl hsent⟩
  | @resolver decision parsed hsent hdecide hallow hgrant hparsed hresolve =>
    obtain ⟨parsed', port, hparsed', hport, hgrant⟩ := hgrant
    rw [hparsed] at hparsed'
    cases hparsed'
    have hgranted : call.profile.grants parsed
        (portOr port (if parsed.scheme = "https" then 443 else 80)) = true := by
      simpa only [SandboxProfile.grants, List.any_eq_true, decide_eq_true_eq] using hgrant
    have hprepare : prepareHop broker net call now approvals p =
        .error (.error .resolverError) := by
      simp only [prepareHop, bind_eq_error, orRaise_eq_error, orRaise_eq_ok, raiseIf_eq_error,
        raiseIf_eq_ok]
      refine Or.inr ⟨decision, hdecide, Or.inr ⟨(), by simp [hallow], Or.inr ⟨(), by simp [hallow],
        Or.inr ⟨parsed, hparsed, Or.inr ⟨port, hport, Or.inr ⟨(), by simp [hgranted],
          Or.inl ⟨hresolve, trivial⟩⟩⟩⟩⟩⟩⟩
    rw [hprepare]
    exact ⟨_, _, rfl, Or.inl hsent⟩
  | @transport q request hprepare hsend =>
    simp only [hprepare, hsend]
    exact ⟨_, _, rfl, Or.inr (List.cons_ne_nil _ _)⟩

/-! ## Executions -/

/-- An execution that comes to the loop. -/
structure ToolBroker.Dispatches (broker : ToolBroker) (call : BrokerCall) (now : Time) :
    Prop where
  preflight : ∃ registration, broker.preflight call = .ok registration ∧
    (call.http.credentialRef.isSome → registration.acceptsCredentialRef = true)
  fresh : broker.stored call.idempotencyKey = none
  deadline : now < call.task.deadline

variable (net approvals) in
theorem ToolBroker.Dispatches.execute (h : broker.Dispatches call now) :
    broker.execute net call now approvals =
      broker.conclude call now (executeHttp broker net call now approvals).1
        (executeHttp broker net call now approvals).2 := by
  obtain ⟨⟨registration, hpreflight, hcredential⟩, hfresh, hdeadline⟩ := h
  simp only [ToolBroker.execute, hpreflight, hfresh]
  rw [if_neg (not_le.2 hdeadline), if_neg]
  rintro ⟨hsome, hrefuses⟩
  rw [hcredential hsome] at hrefuses
  cases hrefuses

/-- An execution that does not come to the loop hands nothing over. -/
theorem ToolBroker.exchanges_of_not_dispatches (h : ¬broker.Dispatches call now) :
    (broker.execute net call now approvals).exchanges = [] := by
  unfold ToolBroker.execute
  split
  · rfl
  next registration hpreflight =>
    split
    · split_ifs <;> rfl
    next hfresh =>
      split_ifs with hdeadline hcredential
      · rfl
      · rfl
      · refine absurd ⟨⟨registration, hpreflight, fun hsome => ?_⟩, hfresh, not_le.1 hdeadline⟩ h
        by_contra hrefuses
        exact hcredential ⟨hsome, by simpa using hrefuses⟩

/-- A stored result answers every later call with its key. -/
theorem ToolBroker.exchanges_of_stored {entry : StoredResult}
    (h : broker.stored call.idempotencyKey = some entry) :
    (broker.execute net call now approvals).exchanges = [] := by
  refine ToolBroker.exchanges_of_not_dispatches fun hdispatches => ?_
  rw [hdispatches.fresh] at h
  cases h

variable (broker call now) in
theorem ToolBroker.stored_store (values : StoreValues) :
    (broker.store call now values).stored call.idempotencyKey =
      some ⟨call.idempotencyKey, brokerCallDigest call, broker.result call now values⟩ := by
  have hnone : (broker.results.filter fun entry => entry.key ≠ call.idempotencyKey).find?
      (fun entry => entry.key = call.idempotencyKey) = none := by
    refine List.find?_eq_none.2 fun entry hentry => ?_
    simpa using (List.mem_filter.1 hentry).2
  simp only [ToolBroker.store, ToolBroker.stored, List.find?_append, hnone, Option.none_or]
  simp

/-- If the execution hands a request over, a result is stored for its key, and no later call
with the key hands one over. -/
def ToolBroker.SendsOnce (broker : ToolBroker) (net : Network) (call : BrokerCall) (now : Time)
    (approvals : List ApprovalRequest) : Prop :=
  (broker.execute net call now approvals).exchanges ≠ [] →
    (∃ entry, (broker.execute net call now approvals).broker.stored call.idempotencyKey =
      some entry ∧ entry.digest = brokerCallDigest call) ∧
    ∀ net' call' now' approvals', call'.idempotencyKey = call.idempotencyKey →
      ((broker.execute net call now approvals).broker.execute net' call' now'
        approvals').exchanges = []

theorem ToolBroker.SendsOnce.of_values {es : List Exchange} {values : StoreValues}
    (h : broker.execute net call now approvals = broker.conclude call now es (.ok values)) :
    broker.SendsOnce net call now approvals := by
  intro _
  rw [h]
  have hstored := broker.stored_store call now values
  refine ⟨⟨_, hstored, rfl⟩, fun net' call' now' approvals' hkey => ?_⟩
  rw [← hkey] at hstored
  exact ToolBroker.exchanges_of_stored hstored

/-- An execution sends at most once, whatever the resolver and the transport do, exactly when
no hop that its loop comes to breaks. -/
theorem sends_once_iff (broker : ToolBroker) (net : Network) (call : BrokerCall) (now : Time)
    (approvals : List ApprovalRequest) :
    broker.SendsOnce net call now approvals ↔
      (broker.Dispatches call now → ∀ es m p, Reaches (httpHop broker net call now approvals)
        call.requestBudget (HttpProgress.start call) es (m + 1) p →
        ¬Breaks broker net call now approvals p) := by
  constructor
  · intro honce hdispatches es m p hreach hbreaks
    obtain ⟨fs, e, hleave, hsent⟩ := hbreaks.leaves
    have hloop : executeHttp broker net call now approvals = (es ++ fs, .error e) := by
      unfold executeHttp
      rw [loop_of_reaches hreach, loop_leave hleave]
    have hexec : broker.execute net call now approvals = ⟨es ++ fs, broker, .error e⟩ := by
      rw [hdispatches.execute net approvals, hloop]
      rfl
    have hne : es ++ fs ≠ [] := by
      rcases hsent with hsent | hfs
      · have hcount := (hopsEnforced_of_reaches hreach).requests
        intro hnil
        rw [(List.append_eq_nil_iff.1 hnil).1, List.length_nil] at hcount
        omega
      · intro hnil
        exact hfs (List.append_eq_nil_iff.1 hnil).2
    obtain ⟨⟨entry, hentry, -⟩, -⟩ := honce (by rw [hexec]; exact hne)
    rw [hexec, hdispatches.fresh] at hentry
    cases hentry
  · intro hsafe hsent
    by_cases hdispatches : broker.Dispatches call now
    · have hexec := hdispatches.execute net approvals
      obtain ⟨es, m, p, hreach, hend⟩ := executeHttp_path broker net call now approvals
      rcases hend with ⟨-, hloop⟩ | ⟨k, fs, exit, rfl, hleave, hloop⟩
      · rw [hloop] at hexec
        exact ToolBroker.SendsOnce.of_values hexec hsent
      · rw [hloop] at hexec
        cases exit with
        | ok values => exact ToolBroker.SendsOnce.of_values hexec hsent
        | error e =>
          rcases httpHop_error hleave with hbreaks | ⟨hzero, rfl⟩
          · exact absurd hbreaks (hsafe hdispatches es k p hreach)
          · -- the exception came before the first request
            have hnone : es = [] := by
              have hcount := (hopsEnforced_of_reaches hreach).requests
              exact List.length_eq_zero_iff.1 (hcount.symm.trans hzero)
            rw [hexec, hnone] at hsent
            exact absurd rfl hsent
    · exact absurd (ToolBroker.exchanges_of_not_dispatches hdispatches) hsent

end

/-! ## A response that cannot be built -/

section

attribute [local instance] textPolicyDigests hostUrls

/-- Digests that are short enough to compute with. -/
@[reducible] def textBrokerDigests : BrokerDigests where
  registry := ⟨fun registry => String.join (registry.map ToolRegistration.toolId)⟩
  profile := ⟨fun profile => String.join profile.allowedTools⟩
  call := ⟨fun call => call.idempotencyKey ++ call.http.url⟩
  urlDigest url := "u" ++ url

/-- `ipaddress` on one public address. -/
@[reducible] def publicIp : PythonIp where
  ipAddress value := if value = "1.1.1.1" then some ⟨value, false, false, false, false⟩ else none

attribute [local instance] textBrokerDigests publicIp

def sampleBroker : ToolBroker where
  scope := sampleScope
  registry := [⟨"http.request", "2", .httpRequest, [.validation], true, true, "i"⟩]
  resolver := some "i"
  httpTransport := some "i"
  blockedIps := ["169.254.169.254"]
  allowedResolvedIps := none
  results := []

def sampleHttpPlan : HttpRequestPlan where
  method := .get
  url := "https://t/"
  testClass := "x"
  headers := []
  credentialRef := none
  bodyRef := none
  bodyBytes := 0
  followRedirects := false
  limits := ⟨3000000, 10000000, 15000000, 2097152, 0, 1, by decide, by decide, by decide,
    by decide, by decide, by decide, by decide⟩
  url_safe := ⟨"https://t/", by decide +kernel⟩
  body := .get
  redirects_readOnly := by decide
  redirects_limit := by decide

def sampleCall : BrokerCall where
  callId := "c"
  task :=
    { taskId := "k"
      engagementId := "g"
      targetId := "t"
      targetVersion := "1"
      scopeId := "s"
      workerRole := .validator
      scopeVersion := 1
      policyDigest := "s1"
      sandboxProfileDigest := "http.request"
      toolRegistryDigest := "http.request"
      inputRefs := []
      allowedTools := ["http.request"]
      toolCalls := 1
      deadline := 90 }
  profile := ⟨.validation, "i", none, .targetOnly, [⟨"t", [443], ["https"]⟩], ["http.request"]⟩
  toolId := "http.request"
  http := sampleHttpPlan
  idempotencyKey := "y"

/-- The server answers with status 999, and the transport raises a `ValidationError` when it
builds the response. -/
def malformedNetwork : Network where
  resolve _ _ := some ["1.1.1.1"]
  send _ _ := .error .other

/-- The call is sent, no result is stored, and the same call is sent again. -/
theorem malformed_sends_twice :
    ¬sampleBroker.SendsOnce malformedNetwork sampleCall 2 [] ∧
      ((sampleBroker.execute malformedNetwork sampleCall 2 []).exchanges.length = 1 ∧
        (sampleBroker.execute malformedNetwork sampleCall 2 []).broker.results = []) ∧
      ((sampleBroker.execute malformedNetwork sampleCall 2 []).broker.execute malformedNetwork
        sampleCall 3 []).exchanges.length = 1 := by
  have hfirst : (sampleBroker.execute malformedNetwork sampleCall 2 []).exchanges.length = 1 ∧
      (sampleBroker.execute malformedNetwork sampleCall 2 []).broker.results = [] := by
    decide +kernel
  have hagain : ((sampleBroker.execute malformedNetwork sampleCall 2 []).broker.execute
      malformedNetwork sampleCall 3 []).exchanges.length = 1 := by
    decide +kernel
  refine ⟨fun honce => ?_, hfirst, hagain⟩
  have hsent : (sampleBroker.execute malformedNetwork sampleCall 2 []).exchanges ≠ [] := by
    intro hnil
    rw [hnil] at hfirst
    exact absurd hfirst.1 (by decide)
  have hnever := (honce hsent).2 malformedNetwork sampleCall 3 [] rfl
  rw [hnever] at hagain
  exact absurd hagain (by decide)

end

end VulnLoom

import VulnLoom.Broker

/-!
# What every hop enforces

`Enforced` says of a request what the broker has checked before it handed the request over,
and of its response what was checked before it was accepted. The loop invariant
`HopsEnforced` says it of every request so far, numbered by the counter of the loop.
-/

set_option linter.unusedSectionVars false

open BoundedLoop

namespace VulnLoom

variable [PolicyDigests] [PythonUrl] [BrokerDigests] [PythonIp]

/-! ## What one hop does -/

/-- A URL matches a network grant of the profile. -/
def SandboxProfile.GrantsUrl (profile : SandboxProfile) (url : String) : Prop :=
  ∃ parsed port, urlsplit url = some parsed ∧ parsed.port = some port ∧
    ∃ grant ∈ profile.networkGrants, parsed.hostname = some grant.host ∧
      portOr port (if parsed.scheme = "https" then 443 else 80) ∈ grant.ports ∧
      parsed.scheme ∈ grant.schemes

/-- An address that the resolver answered for the host of a URL, in an answer that passed
validation, and that the broker does not forbid. -/
def ToolBroker.PinsFor (broker : ToolBroker) (net : Network) (hop : ℕ) (url address : String) :
    Prop :=
  ∃ parsed addresses normalized, urlsplit url = some parsed ∧
    net.resolve hop (parsed.hostname.getD "") = some addresses ∧
    broker.validatedAddresses addresses = some normalized ∧ address ∈ normalized ∧
    ∃ value ∈ addresses, ∃ ip, ipAddress value = some ip ∧ ip.text = address ∧
      broker.forbids ip = false

/-- What the broker enforces on the exchange with the given number. -/
structure Enforced (broker : ToolBroker) (net : Network) (call : BrokerCall) (now : Time)
    (approvals : List ApprovalRequest) (hop : ℕ) (e : Exchange) : Prop where
  allowed : ∃ decision, broker.scope.decide (call.action e.request.url now) approvals =
    some decision ∧ decision.effect = .allow
  granted : call.profile.GrantsUrl e.request.url
  pinned : broker.PinsFor net hop e.request.url e.request.pinnedIp
  sent : ∀ response ∈ e.accepted, net.send hop e.request = .ok response
  accepted : ∀ response ∈ e.accepted, response.peerIp = e.request.pinnedIp
  credential : 0 < hop → e.request.credentialRef = none

theorem exists_of_mem_mapM {α β : Type} {f : α → Option β} :
    ∀ {l : List α} {bs : List β}, l.mapM f = some bs → ∀ b ∈ bs, ∃ a ∈ l, f a = some b
  | [], bs, h, b, hb => by
    obtain rfl : bs = [] := by simpa using h.symm
    cases hb
  | a :: l, bs, h, b, hb => by
    rw [List.mapM_cons] at h
    obtain ⟨b', hb', h⟩ := Option.bind_eq_some_iff.1 h
    obtain ⟨bs', hbs', h⟩ := Option.bind_eq_some_iff.1 h
    obtain rfl := Option.some.inj h
    rcases List.mem_cons.1 hb with rfl | hb
    · exact ⟨a, List.mem_cons_self .., hb'⟩
    · obtain ⟨a', ha', hf⟩ := exists_of_mem_mapM hbs' b hb
      exact ⟨a', List.mem_cons_of_mem _ ha', hf⟩

variable {normalized : List String}

/-- Every address of a validated answer is one that the broker does not forbid. -/
theorem validatedAddresses_mem {broker : ToolBroker} {addresses : List String}
    (h : broker.validatedAddresses addresses = some normalized) {address : String}
    (haddress : address ∈ normalized) : ∃ value ∈ addresses, ∃ ip, ipAddress value = some ip ∧
      ip.text = address ∧ broker.forbids ip = false := by
  simp only [ToolBroker.validatedAddresses, Option.bind_eq_bind, Option.bind_eq_some_iff,
    Option.guard_eq_some', Option.pure_def, Option.some.injEq] at h
  obtain ⟨-, -, texts, hmap, -, -, rfl⟩ := h
  obtain ⟨value, hvalue, hread⟩ := exists_of_mem_mapM hmap address (List.mem_dedup.1 haddress)
  simp only [Option.bind_eq_some_iff, Option.guard_eq_some', Option.some.injEq] at hread
  obtain ⟨ip, hip, -, hallowed, htext⟩ := hread
  exact ⟨value, hvalue, ip, hip, htext, hallowed⟩

theorem pinnedAddress_mem {address : String} (h : pinnedAddress normalized = some address) :
    address ∈ normalized :=
  (List.mem_insertionSort _).1 (List.mem_of_mem_head? h)

section

variable {broker : ToolBroker} {net : Network} {call : BrokerCall} {now : Time}
  {approvals : List ApprovalRequest}

variable {p q : HttpProgress}

theorem prepareHop_ok {request : HttpWireRequest}
    (h : prepareHop broker net call now approvals p = .ok (q, request)) :
    (∃ decision, broker.scope.decide (call.action p.current now) approvals = some decision ∧
      decision.effect = .allow ∧
      q = { p with
        records := p.records ++ [policyRecord (call.action p.current now) decision]
        requests := p.requests + 1 }) ∧
    call.profile.GrantsUrl p.current ∧
    ∃ address, broker.PinsFor net p.requests p.current address ∧
      request = call.http.wireRequest p.current address := by
  simp only [prepareHop, bind_eq_ok, orRaise_eq_ok, raiseIf_eq_ok, pure_eq_ok,
    Bool.not_eq_false] at h
  obtain ⟨decision, hdecide, -, hrequired, -, hdenied, parsed, hparsed, port, hport, -, hgrant,
    addresses, hresolve, -, -, normalized, hvalid, address, hpin, h⟩ := h
  obtain ⟨rfl, rfl⟩ := Prod.mk.inj h
  have hallow : decision.effect = .allow := by
    cases heffect : decision.effect with
    | allow => rfl
    | deny => exact absurd heffect hdenied
    | approvalRequired => exact absurd heffect hrequired
  refine ⟨⟨decision, hdecide, hallow, rfl⟩, ⟨parsed, port, hparsed, hport, ?_⟩, address,
    ⟨parsed, addresses, normalized, hparsed, hresolve, hvalid, pinnedAddress_mem hpin,
      validatedAddresses_mem hvalid (pinnedAddress_mem hpin)⟩, rfl⟩
  simpa only [SandboxProfile.grants, List.any_eq_true, decide_eq_true_eq] using hgrant

/-- An accepted response comes from the pinned address, and leaves the URL, the redirects and
the counter as they were. -/
theorem acceptHop_ok {pinnedIp : String} {hop : OfflineHttpHop}
    (h : acceptHop call now p pinnedIp hop = .ok q) :
    hop.peerIp = pinnedIp ∧ q.current = p.current ∧ q.redirects = p.redirects ∧
      q.requests = p.requests := by
  simp only [acceptHop, bind_eq_ok, raiseIf_eq_ok, pure_eq_ok, not_not] at h
  obtain ⟨-, hpeer, -, -, -, -, rfl⟩ := h
  exact ⟨hpeer, rfl, rfl, rfl⟩

/-- A redirect is followed without a credential, within the limit. -/
theorem followHop_ok {hop : OfflineHttpHop} (h : followHop call p hop = .ok q) :
    call.http.credentialRef = none ∧ p.redirects.length < call.http.limits.maxRedirects ∧
      q.redirects.length = p.redirects.length + 1 ∧ q.requests = p.requests := by
  unfold followHop at h
  split at h
  · cases h
  · simp only [bind_eq_ok, raiseIf_eq_ok, orRaise_eq_ok, mapError_eq_ok, pure_eq_ok, not_or,
      not_le, Bool.not_eq_true, Option.isSome_eq_false_iff, Option.isNone_iff_eq_none] at h
    obtain ⟨-, hcredential, -, ⟨-, hlimit⟩, target, -, redirect, -, rfl⟩ := h
    exact ⟨hcredential, hlimit, by simp, rfl⟩

variable {es : List Exchange} {next : Next HttpProgress HopExit}

/-- What an iteration emits : at most one exchange, for the current URL. -/
theorem httpHop_exchange (h : httpHop broker net call now approvals p = (es, next)) {e : Exchange}
    (he : e ∈ es) :
    es = [e] ∧ (∃ q, prepareHop broker net call now approvals p = .ok (q, e.request)) ∧
      ∀ response ∈ e.accepted, net.send p.requests e.request = .ok response ∧
        response.peerIp = e.request.pinnedIp := by
  unfold httpHop at h
  split at h
  · cases h
    cases he
  next q request hprepare =>
    split at h
    · cases h
      obtain rfl := List.mem_singleton.1 he
      exact ⟨rfl, ⟨q, hprepare⟩, by simp⟩
    next hop hsend =>
      split at h
      · cases h
        obtain rfl := List.mem_singleton.1 he
        exact ⟨rfl, ⟨q, hprepare⟩, by simp⟩
      next q' haccept =>
        have hpeer := (acceptHop_ok haccept).1
        split at h
        · cases h
          obtain rfl := List.mem_singleton.1 he
          exact ⟨rfl, ⟨q, hprepare⟩, by simpa using ⟨hsend, hpeer⟩⟩
        · cases h
          obtain rfl := List.mem_singleton.1 he
          exact ⟨rfl, ⟨q, hprepare⟩, by simpa using ⟨hsend, hpeer⟩⟩

/-- An iteration that goes on has handed over one request and followed one redirect. -/
theorem httpHop_go (h : httpHop broker net call now approvals p = (es, .go q)) :
    (∃ e, es = [e]) ∧ call.http.credentialRef = none ∧
      p.redirects.length < call.http.limits.maxRedirects ∧
      q.redirects.length = p.redirects.length + 1 ∧ q.requests = p.requests + 1 := by
  unfold httpHop at h
  split at h
  · cases h
  next q₁ request hprepare =>
    split at h
    · cases h
    next hop hsend =>
      split at h
      · cases h
      next q₂ haccept =>
        split at h
        · cases h
        next hfollow =>
          cases h
          obtain ⟨⟨decision, -, -, rfl⟩, -, -⟩ := prepareHop_ok hprepare
          obtain ⟨-, -, hredirects, hrequests⟩ := acceptHop_ok haccept
          obtain ⟨hcredential, hlimit, hlength, hcount⟩ := followHop_ok hfollow
          rw [hredirects] at hlimit hlength
          exact ⟨⟨_, rfl⟩, hcredential, hlimit, hlength, by rw [hcount, hrequests]⟩

/-! ## The loop -/

/-- What holds when the loop comes to `p` after the exchanges `es`. -/
structure HopsEnforced (broker : ToolBroker) (net : Network) (call : BrokerCall) (now : Time)
    (approvals : List ApprovalRequest) (es : List Exchange) (p : HttpProgress) : Prop where
  requests : p.requests = es.length
  redirects : p.redirects.length = es.length
  limit : p.redirects.length ≤ call.http.limits.maxRedirects
  credential : 0 < es.length → call.http.credentialRef = none
  enforced : ∀ i e, es[i]? = some e → Enforced broker net call now approvals i e

theorem HopsEnforced.start :
    HopsEnforced broker net call now approvals [] (HttpProgress.start call) := by
  refine ⟨rfl, rfl, Nat.zero_le _, ?_, ?_⟩ <;> simp

/-- The exchange of the next iteration is enforced too. -/
theorem HopsEnforced.emit {fs : List Exchange}
    (hinv : HopsEnforced broker net call now approvals es p)
    (h : httpHop broker net call now approvals p = (fs, next)) (i : ℕ) (e : Exchange)
    (he : (es ++ fs)[i]? = some e) : Enforced broker net call now approvals i e := by
  by_cases hi : i < es.length
  · rw [List.getElem?_append_left hi] at he
    exact hinv.enforced i e he
  · rw [List.getElem?_append_right (not_lt.1 hi)] at he
    obtain ⟨rfl, ⟨q, hprepare⟩, hresponse⟩ := httpHop_exchange h (List.mem_of_getElem? he)
    have hplace : i - es.length = 0 := by
      by_contra hne
      rw [List.getElem?_eq_none (by simp only [List.length_singleton]; omega)] at he
      cases he
    have hcount : i = p.requests := by
      have := hinv.requests
      omega
    obtain ⟨⟨decision, hdecide, hallow, -⟩, hgrant, address, hpins, hrequest⟩ :=
      prepareHop_ok hprepare
    have hurl : e.request.url = p.current := by
      rw [hrequest]
      rfl
    rw [hcount]
    refine ⟨⟨decision, by rw [hurl]; exact hdecide, hallow⟩, by rw [hurl]; exact hgrant, ?_,
      fun response hr => (hresponse response hr).1, fun response hr => (hresponse response hr).2,
      fun hpos => ?_⟩
    · rw [hurl, hrequest]
      exact hpins
    · rw [hinv.requests] at hpos
      rw [hrequest]
      exact hinv.credential hpos

theorem HopsEnforced.go {fs : List Exchange}
    (hinv : HopsEnforced broker net call now approvals es p)
    (h : httpHop broker net call now approvals p = (fs, .go q)) :
    HopsEnforced broker net call now approvals (es ++ fs) q := by
  obtain ⟨⟨e, rfl⟩, hcredential, hlimit, hredirects, hrequests⟩ := httpHop_go h
  have hr := hinv.requests
  have hl := hinv.redirects
  refine ⟨?_, ?_, by omega, fun _ => hcredential, hinv.emit h⟩
  · rw [List.length_append, List.length_singleton]
    omega
  · rw [List.length_append, List.length_singleton]
    omega

theorem hopsEnforced_of_reaches {m : ℕ}
    (h : Reaches (httpHop broker net call now approvals) call.requestBudget
      (HttpProgress.start call) es m p) : HopsEnforced broker net call now approvals es p := by
  have hgo : ∀ (pre : List Exchange) s fs s', HopsEnforced broker net call now approvals pre s →
      httpHop broker net call now approvals s = (fs, .go s') →
      HopsEnforced broker net call now approvals (pre ++ fs) s' := fun _ _ _ _ hinv h => hinv.go h
  have hend : HopsEnforced broker net call now approvals ([] ++ es) p :=
    h.invariant hgo HopsEnforced.start
  exact hend

variable (broker net call now approvals) in
/-- The loop as its path and the iteration that leaves it. -/
theorem executeHttp_path : ∃ es m p, Reaches (httpHop broker net call now approvals)
    call.requestBudget (HttpProgress.start call) es m p ∧
    ((m = 0 ∧ executeHttp broker net call now approvals =
        (es, p.refuse .failed "http_request_budget_exhausted")) ∨
      ∃ k fs exit, m = k + 1 ∧ httpHop broker net call now approvals p = (fs, .leave exit) ∧
        executeHttp broker net call now approvals = (es ++ fs, exit)) := by
  obtain ⟨es, m, p, hreach, hend⟩ := exists_reaches (httpHop broker net call now approvals)
    call.requestBudget (HttpProgress.start call)
  refine ⟨es, m, p, hreach, ?_⟩
  unfold executeHttp
  rw [loop_of_reaches hreach]
  rcases hend with rfl | ⟨k, fs, exit, rfl, hleave⟩
  · exact Or.inl ⟨rfl, by simp [loop]⟩
  · exact Or.inr ⟨k, fs, exit, rfl, hleave, by rw [loop_leave hleave]⟩

variable (broker net call now approvals) in
/-- What the loop enforces on all it hands over. -/
theorem executeHttp_enforced :
    (∀ i e, (executeHttp broker net call now approvals).1[i]? = some e →
      Enforced broker net call now approvals i e) ∧
      (executeHttp broker net call now approvals).1.length ≤ call.requestBudget := by
  obtain ⟨es₀, m, p, hreach, hend⟩ := executeHttp_path broker net call now approvals
  have hinv := hopsEnforced_of_reaches hreach
  have hcount : es₀.length + m = call.requestBudget := by
    refine hreach.length_add fun p fs q hgo => ?_
    obtain ⟨⟨e, rfl⟩, -⟩ := httpHop_go hgo
    rfl
  rcases hend with ⟨rfl, heq⟩ | ⟨k, fs, exit, rfl, hleave, heq⟩
  · rw [heq]
    exact ⟨hinv.enforced, hcount.le⟩
  · rw [heq]
    have hone : fs.length ≤ 1 := by
      rcases fs with - | ⟨e, rest⟩
      · simp
      · obtain ⟨hsingle, -⟩ := httpHop_exchange hleave (List.mem_cons_self ..)
        simp [hsingle]
    refine ⟨fun i e he => hinv.emit hleave i e he, ?_⟩
    change (es₀ ++ fs).length ≤ _
    rw [List.length_append]
    omega

variable (broker net call now approvals) in
/-- Only the loop hands requests over. -/
theorem ToolBroker.execute_exchanges :
    (broker.execute net call now approvals).exchanges = [] ∨
      (broker.execute net call now approvals).exchanges =
        (executeHttp broker net call now approvals).1 := by
  have hconclude : ∀ (es : List Exchange) (exit : HopExit),
      (broker.conclude call now es exit).exchanges = es := by
    intro es exit
    cases exit <;> rfl
  unfold ToolBroker.execute
  split
  · exact Or.inl rfl
  · split
    · split_ifs <;> exact Or.inl rfl
    · split_ifs
      · exact Or.inl rfl
      · exact Or.inl rfl
      · exact Or.inr (hconclude _ _)

end

/-- Every execution, whatever the resolver and the transport do : each request handed over is
enforced, their number is within the budget, and the redirects followed are within their
limit. -/
theorem broker_enforcement (broker : ToolBroker) (net : Network) (call : BrokerCall) (now : Time)
    (approvals : List ApprovalRequest) :
    (∀ i e, (broker.execute net call now approvals).exchanges[i]? = some e →
      Enforced broker net call now approvals i e) ∧
    (broker.execute net call now approvals).exchanges.length ≤
      min call.http.limits.maxRequests call.task.toolCalls ∧
    ∀ es m p, Reaches (httpHop broker net call now approvals) call.requestBudget
      (HttpProgress.start call) es m p →
      p.redirects.length = es.length ∧ es.length ≤ call.http.limits.maxRedirects := by
  refine ⟨fun i e he => ?_, ?_, fun es m p hreach => ?_⟩
  · rcases broker.execute_exchanges net call now approvals with h | h
    · rw [h] at he
      cases he
    · rw [h] at he
      exact (executeHttp_enforced broker net call now approvals).1 i e he
  · rcases broker.execute_exchanges net call now approvals with h | h
    · rw [h]
      exact Nat.zero_le _
    · rw [h]
      exact (executeHttp_enforced broker net call now approvals).2
  · have hinv := hopsEnforced_of_reaches hreach
    refine ⟨hinv.redirects, ?_⟩
    rw [← hinv.redirects]
    exact hinv.limit

end VulnLoom

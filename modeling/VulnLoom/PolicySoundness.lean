import VulnLoom.HybridAdmission

/-!
# What an allowed request has passed

`Scope.Permits` is the whole of what a scope and its approvals must say for a request to be
allowed. `PolicyEngine.decide` asks all of it of every request but one whose test class, user
information or port is written and counts as false in Python : an empty test class is not looked
up, empty user information is not refused, and port zero is replaced by the default port of the
scheme (`Scope.Misread`). `decide_sound_iff` : an allowed request is permitted exactly when it is
not such a request, or is refused for another reason. More approvals never take a permission away
and never lift a refusal.
-/

set_option linter.unusedSectionVars false

namespace VulnLoom

section

variable [PolicyDigests] [PythonUrl]

/-! ## What must hold -/

/-- The port that the engine takes for a scheme when the URL names none. -/
def schemePort (scheme : String) : ℕ :=
  if scheme = "https" then 443 else if scheme = "http" then 80 else 0

/-- One network target of the scope has the host, the scheme and the port. -/
def Scope.Reaches (scope : Scope) (hostname scheme : String) (port : ℕ) : Prop :=
  ∃ target ∈ scope.networkTargets, lower hostname = lower target.host ∧
    scheme ∈ target.schemes ∧ port ∈ target.ports

/-- A URL without user information that has a network target of the scope : the port is the one
that is written, where one is. -/
def Scope.PermitsUrl (scope : Scope) (url : String) : Prop :=
  ∃ parsed hostname port, urlsplit url = some parsed ∧ parsed.username = none ∧
    parsed.password = none ∧ parsed.hostname = some hostname ∧ hostname ≠ "" ∧
    parsed.port = some port ∧
    scope.Reaches hostname (lower parsed.scheme) (port.getD (schemePort (lower parsed.scheme)))

/-- The flag of a request that calls for an approval. -/
def ActionRequest.flag (request : ActionRequest) : ApprovalAction → Bool
  | .mutateTargetState => request.mutatesState
  | .useRealCredentials => request.usesRealCredentials
  | .externalCallback => request.externalCallback
  | .submitReport => request.submitsReport
  | .runUntrustedBuild => request.runsUntrustedBuild
  | _ => false

/-- A granted, unexpired approval of an action for this request, its target and the version of the
scope. -/
structure ApprovalRequest.Grants (approval : ApprovalRequest) (scope : Scope)
    (request : ActionRequest) (action : ApprovalAction) : Prop where
  granted : approval.status = .granted
  action : approval.action = action
  unexpired : request.requestedAt < approval.expiresAt
  engagement : approval.engagementId = request.engagementId
  target : approval.targetId = request.targetId
  request : approval.actionDigest = request.digest
  version : approval.policyVersion = scope.version

/-- Every approval that a flag of the request or the scope calls for is there. -/
def Scope.Approves (scope : Scope) (request : ActionRequest) (approvals : List ApprovalRequest) :
    Prop :=
  ∀ action, request.flag action ∨ action ∈ scope.approvalRequirements →
    ∃ approval ∈ approvals, approval.Grants scope request action

/-- The scope is in force for a request, and does not deny its action. -/
structure Scope.Authorises (scope : Scope) (request : ActionRequest) : Prop where
  approved : scope.state = .approved
  engagement : request.engagementId = scope.engagementId
  started : scope.validFrom ≤ request.requestedAt
  unfinished : request.requestedAt < scope.validUntil
  notDenied : request.action ∉ scope.deniedActions

/-- The repository of a request is listed with its commit. -/
def Scope.PermitsRepository (scope : Scope) (request : ActionRequest) : Prop :=
  ∀ url ∈ request.repositoryUrl, ∃ repo ∈ scope.repositories,
    repo.url = url ∧ request.repositoryCommit = some repo.commit

/-- All that an allowed request must meet. -/
structure Scope.Permits (scope : Scope) (request : ActionRequest)
    (approvals : List ApprovalRequest) : Prop where
  authorised : scope.Authorises request
  testClass : ∀ testClass ∈ request.testClass, testClass ∈ scope.allowedTestClasses
  repository : scope.PermitsRepository request
  url : ∀ url ∈ request.url, scope.PermitsUrl url
  approvals : scope.Approves request approvals

/-! ## What the engine asks -/

/-- The URL is read, shows no user information that is not empty, and has a network target at its
port, or at the default port where it names none or zero. -/
def Scope.PassesUrl (scope : Scope) (url : String) : Prop :=
  ∃ parsed hostname port, urlsplit url = some parsed ∧
    (parsed.username = none ∨ parsed.username = some "") ∧
    (parsed.password = none ∨ parsed.password = some "") ∧
    parsed.hostname = some hostname ∧ hostname ≠ "" ∧ parsed.port = some port ∧
    scope.Reaches hostname (lower parsed.scheme) (portOr port (schemePort (lower parsed.scheme)))

/-- A request that nothing speaks against once an empty test class, empty user information and
port zero are taken as not written. -/
structure Scope.Passes (scope : Scope) (request : ActionRequest)
    (approvals : List ApprovalRequest) : Prop where
  authorised : scope.Authorises request
  testClass : ∀ testClass ∈ request.testClass, testClass = "" ∨
    testClass ∈ scope.allowedTestClasses
  repository : scope.PermitsRepository request
  url : ∀ url ∈ request.url, scope.PassesUrl url
  boundary : request.repositoryUrl ≠ none ∨ request.url ≠ none
  approvals : scope.Approves request approvals

/-- What is written in a request and not asked about : an empty test class that is not allowed,
empty user information, or port zero that no network target has. -/
def Scope.Misread (scope : Scope) (request : ActionRequest) : Prop :=
  (request.testClass = some "" ∧ "" ∉ scope.allowedTestClasses) ∨
  ∃ url ∈ request.url, ∃ parsed, urlsplit url = some parsed ∧
    (parsed.username = some "" ∨ parsed.password = some "" ∨
      (parsed.port = some (some 0) ∧ ∀ hostname ∈ parsed.hostname,
        ¬scope.Reaches hostname (lower parsed.scheme) 0))

@[simp] theorem reasonIf_eq_nil {p : Prop} [Decidable p] {reason : String} :
    reasonIf p reason = [] ↔ ¬p := by
  unfold reasonIf
  split_ifs with h <;> simp [h]

variable {scope : Scope} {request : ActionRequest}

theorem authorityReasons_eq_nil : authorityReasons scope request = [] ↔ scope.Authorises request ∧
      ∀ testClass ∈ request.testClass, testClass = "" ∨ testClass ∈ scope.allowedTestClasses := by
  simp only [authorityReasons, List.append_eq_nil_iff, reasonIf_eq_nil, not_not, ne_eq]
  constructor
  · rintro ⟨⟨⟨⟨happroved, hengagement⟩, hstarted, hunfinished⟩, hdenied⟩, hclass⟩
    refine ⟨⟨happroved, hengagement, hstarted, hunfinished, hdenied⟩, ?_⟩
    intro testClass hgiven
    rw [Option.mem_def] at hgiven
    simp only [hgiven, truthy, Option.any_some, decide_eq_true_eq, Option.mem_def,
      Option.some.injEq, exists_eq_left', not_and, not_not] at hclass
    tauto
  · rintro ⟨hscope, hclass⟩
    refine ⟨⟨⟨⟨hscope.approved, hscope.engagement⟩, hscope.started, hscope.unfinished⟩,
      hscope.notDenied⟩, ?_⟩
    rintro ⟨htruthy, testClass, hgiven, hmissing⟩
    rw [Option.mem_def] at hgiven
    rcases hclass testClass hgiven with rfl | hallowed
    · simp [truthy, hgiven] at htruthy
    · exact hmissing hallowed

theorem repositoryReasons_eq_nil :
    repositoryReasons scope request = [] ↔ scope.PermitsRepository request := by
  unfold repositoryReasons Scope.PermitsRepository
  rw [reasonIf_eq_nil]
  simp only [not_exists, not_and, not_forall, not_not, exists_prop, @eq_comm _ (some _)]

theorem truthy_eq_false {s : Option String} : ¬truthy s ↔ s = none ∨ s = some "" := by
  cases s <;> simp [truthy]

theorem truthy_iff {s : Option String} : truthy s ↔ ∃ text, s = some text ∧ text ≠ "" := by
  cases s <;> simp [truthy]

theorem networkTargets_any {hostname scheme : String} {port : ℕ} :
    (scope.networkTargets.any fun target => target.contains hostname scheme port) ↔
      scope.Reaches hostname scheme port := by
  simp [Scope.Reaches, NetworkTargetScope.contains]

/-- The URL speaks against a request unless it passes. -/
theorem urlReasons_eq_nil {url : String} :
    (∃ obligations, urlReasons scope url = some ([], obligations)) ↔ scope.PassesUrl url := by
  unfold urlReasons Scope.PassesUrl
  constructor
  · rintro ⟨obligations, h⟩
    obtain ⟨parsed, hparsed, hrest⟩ := Option.bind_eq_some_iff.1 h
    split_ifs at hrest with hcredentialed
    · simp at hrest
    obtain ⟨port, hport, htarget⟩ := Option.bind_eq_some_iff.1 hrest
    simp only [not_or, not_not] at hcredentialed
    obtain ⟨husername, hpassword, hhost⟩ := hcredentialed
    obtain ⟨hostname, hhostname, hempty⟩ := truthy_iff.1 hhost
    rw [hhostname] at htarget
    change (if (scope.networkTargets.any fun target => target.contains hostname
      (lower parsed.scheme) (portOr port (schemePort (lower parsed.scheme)))) then _ else _) = _
      at htarget
    split_ifs at htarget with hreaches
    · refine ⟨parsed, hostname, port, hparsed, truthy_eq_false.1 husername,
        truthy_eq_false.1 hpassword, hhostname, hempty, hport, ?_⟩
      exact networkTargets_any.1 hreaches
    · simp at htarget
  · rintro ⟨parsed, hostname, port, hparsed, husername, hpassword, hhostname, hempty, hport,
      hreaches⟩
    have hcredentialed : ¬(truthy parsed.username ∨ truthy parsed.password ∨
        ¬truthy parsed.hostname) := by
      rw [not_or, not_or, not_not]
      exact ⟨truthy_eq_false.2 husername, truthy_eq_false.2 hpassword,
        truthy_iff.2 ⟨hostname, hhostname, hempty⟩⟩
    refine ⟨["resolve_and_pin_ip", "recheck_each_redirect"], ?_⟩
    rw [hparsed]
    simp only [Option.bind_eq_bind, Option.bind_some]
    rw [if_neg hcredentialed, hport, Option.bind_some, hhostname]
    exact if_pos (networkTargets_any.2 hreaches)

variable {action : ApprovalAction}

theorem mem_requiredApprovals : action ∈ requiredApprovals scope request ↔
      request.flag action ∨ action ∈ scope.approvalRequirements := by
  have hflag (flag : Bool) (called : ApprovalAction) :
      action ∈ (if flag then [called] else []) ↔ flag ∧ action = called := by
    split_ifs with h <;> simp [h]
  unfold requiredApprovals
  simp only [List.mem_dedup, List.mem_append, hflag]
  refine or_congr_left ?_
  cases action <;> simp [ActionRequest.flag]

theorem covers_iff {approval : ApprovalRequest} :
    approval.covers scope request action ↔ approval.Grants scope request action := by
  unfold ApprovalRequest.covers ApprovalRequest.isValidFor
  simp only [decide_eq_true_eq]
  exact ⟨fun ⟨h1, h2, h3, h4, h5, h6, h7⟩ => ⟨h4, h5, h7, h1, h2, h6, h3⟩,
    fun h => ⟨h.engagement, h.target, h.version, h.granted, h.action, h.request, h.unexpired⟩⟩

variable {approvals : List ApprovalRequest}

theorem missingApprovals_eq_nil :
    missingApprovals scope request approvals = [] ↔ scope.Approves request approvals := by
  simp only [missingApprovals, List.filter_eq_nil_iff, mem_requiredApprovals, Scope.Approves,
    decide_eq_true_eq, not_not, List.any_eq_true, covers_iff]

/-! ## The decision -/

/-- `decide` answers with an effect. -/
def Scope.Answers (scope : Scope) (request : ActionRequest) (approvals : List ApprovalRequest)
    (effect : DecisionEffect) : Prop :=
  ∃ decision, scope.decide request approvals = some decision ∧ decision.effect = effect

theorem requestUrlReasons_eq_nil :
    (∃ obligations, requestUrlReasons scope request = some ([], obligations)) ↔
      ∀ url ∈ request.url, scope.PassesUrl url := by
  unfold requestUrlReasons
  cases request.url with
  | none => simp
  | some url => simpa using urlReasons_eq_nil

/-- A request is allowed exactly when it passes. -/
theorem answers_allow_iff :
    scope.Answers request approvals .allow ↔ scope.Passes request approvals := by
  constructor
  · rintro ⟨decision, hdecide, hallow⟩
    obtain ⟨hauthority, hrepository, hurl, hmissing⟩ := Scope.decide_allow hdecide hallow
    obtain ⟨hauthorised, hclass⟩ := authorityReasons_eq_nil.1 hauthority
    refine ⟨hauthorised, hclass, repositoryReasons_eq_nil.1 hrepository,
      requestUrlReasons_eq_nil.1 hurl, ?_, missingApprovals_eq_nil.1 hmissing⟩
    by_contra hnone
    rw [not_or, not_not, not_not] at hnone
    simp only [Scope.decide, requestUrlReasons, hnone.2, Option.bind_eq_bind, Option.bind_some,
      Option.pure_def, Option.some.injEq] at hdecide
    subst hdecide
    simp [Scope.decisionFor, reasonIf, hnone.1] at hallow
  · intro h
    obtain ⟨obligations, hurl⟩ := requestUrlReasons_eq_nil.2 h.url
    have hboundary : ¬(request.repositoryUrl = none ∧ request.url = none) := by
      rw [not_and_or]
      exact h.boundary
    refine ⟨⟨.allow, ["scope_policy_satisfied"], obligations, scope.policyDigest⟩, ?_, rfl⟩
    unfold Scope.decide Scope.decisionFor
    rw [hurl, authorityReasons_eq_nil.2 ⟨h.authorised, h.testClass⟩,
      repositoryReasons_eq_nil.2 h.repository, missingApprovals_eq_nil.2 h.approvals,
      Option.bind_eq_bind, Option.bind_some, reasonIf_eq_nil.2 hboundary]
    rfl

/-- Whether a request is denied does not depend on the approvals. -/
theorem answers_deny_congr (approvals more : List ApprovalRequest)
    (h : scope.Answers request approvals .deny) : scope.Answers request more .deny := by
  obtain ⟨decision, hdecide, hdeny⟩ := h
  simp only [Scope.decide, Option.bind_eq_bind, Option.bind_eq_some_iff, Option.pure_def,
    Option.some.injEq] at hdecide
  obtain ⟨⟨fromUrl, obligations⟩, hurl, rfl⟩ := hdecide
  refine ⟨_, by rw [Scope.decide, hurl]; rfl, ?_⟩
  unfold Scope.decisionFor at hdeny ⊢
  split_ifs at hdeny with hreasons hmissing
  rw [if_pos hreasons]

/-- The answer is one. -/
theorem Scope.Answers.unique {effect other : DecisionEffect}
    (h : scope.Answers request approvals effect) (hother : scope.Answers request approvals other) :
    effect = other := by
  obtain ⟨decision, hdecide, rfl⟩ := h
  obtain ⟨decision', hdecide', rfl⟩ := hother
  rw [hdecide, Option.some.injEq] at hdecide'
  rw [hdecide']

variable {more : List ApprovalRequest}

theorem Scope.Approves.mono (h : scope.Approves request approvals) (hmore : approvals ⊆ more) :
    scope.Approves request more := by
  intro action hcalled
  obtain ⟨approval, happroval, hgrants⟩ := h action hcalled
  exact ⟨approval, hmore happroval, hgrants⟩

/-- More approvals keep a permission and lift no refusal. -/
theorem answers_mono (hmore : approvals ⊆ more) :
    (scope.Answers request approvals .allow → scope.Answers request more .allow) ∧
      (scope.Answers request approvals .deny → ¬scope.Answers request more .allow) := by
  constructor
  · intro hallow
    have hpasses := answers_allow_iff.1 hallow
    exact answers_allow_iff.2 { hpasses with approvals := hpasses.approvals.mono hmore }
  · intro hdeny hallow
    have hsame := (answers_deny_congr approvals more hdeny).unique hallow
    cases hsame

/-! ## What passes and is not permitted -/

theorem portOr_eq_getD {port : Option ℕ} (h : port ≠ some 0) (default : ℕ) :
    portOr port default = port.getD default := by
  unfold portOr
  split
  · rfl
  · exact absurd rfl h
  · rfl

theorem Scope.PassesUrl.permits {url : String} (h : scope.PassesUrl url)
    (hurl : request.url = some url) (hread : ¬scope.Misread request) : scope.PermitsUrl url := by
  obtain ⟨parsed, hostname, port, hparsed, husername, hpassword, hhostname, hempty, hport,
    hreaches⟩ := h
  unfold Scope.Misread at hread
  push Not at hread
  obtain ⟨hnamed, hsecret, hzero⟩ := hread.2 url hurl parsed hparsed
  refine ⟨parsed, hostname, port, hparsed, husername.resolve_right hnamed,
    hpassword.resolve_right hsecret, hhostname, hempty, hport, ?_⟩
  by_cases h0 : port = some 0
  · subst h0
    obtain ⟨hostname', hmem, hreaches0⟩ := hzero hport
    rw [hhostname, Option.mem_def, Option.some.injEq] at hmem
    subst hmem
    exact hreaches0
  · rwa [← portOr_eq_getD h0]

/-- A request that passes is permitted exactly when it is read as it is written. -/
theorem Scope.Passes.permits_iff (h : scope.Passes request approvals) :
    scope.Permits request approvals ↔ ¬scope.Misread request := by
  constructor
  · rintro hpermits (⟨hclass, hmissing⟩ | ⟨url, hurl, parsed, hparsed, hodd⟩)
    · exact hmissing (hpermits.testClass "" hclass)
    · obtain ⟨parsed', hostname, port, hparsed', husername, hpassword, hhostname, -, hport,
        hreaches⟩ := hpermits.url url hurl
      rw [hparsed, Option.some.injEq] at hparsed'
      subst hparsed'
      rcases hodd with hodd | hodd | ⟨hodd, hunreached⟩
      · rw [husername] at hodd
        cases hodd
      · rw [hpassword] at hodd
        cases hodd
      · rw [hport, Option.some.injEq] at hodd
        subst hodd
        exact hunreached hostname hhostname hreaches
  · intro hread
    refine ⟨h.authorised, ?_, h.repository, fun url hurl => (h.url url hurl).permits hurl hread,
      h.approvals⟩
    intro testClass hgiven
    rcases h.testClass testClass hgiven with rfl | hallowed
    · by_contra hmissing
      exact hread (Or.inl ⟨hgiven, hmissing⟩)
    · exact hallowed

/-- An allowed request is permitted, and more approvals keep what is allowed and what is denied,
exactly when the request is read as it is written or does not pass for another reason. -/
theorem decide_sound_iff (scope : Scope) (request : ActionRequest)
    (approvals : List ApprovalRequest) :
    ((scope.Answers request approvals .allow → scope.Permits request approvals) ∧
      ∀ more, approvals ⊆ more →
        (scope.Answers request approvals .allow → scope.Answers request more .allow) ∧
        (scope.Answers request approvals .deny → ¬scope.Answers request more .allow)) ↔
    (scope.Misread request → ¬scope.Passes request approvals) := by
  rw [answers_allow_iff]
  constructor
  · rintro ⟨hsound, -⟩ hmisread hpasses
    exact (hpasses.permits_iff.1 (hsound hpasses)) hmisread
  · intro hcondition
    refine ⟨fun hpasses => hpasses.permits_iff.2 fun hmisread => hcondition hmisread hpasses, ?_⟩
    intro more hmore
    rw [← answers_allow_iff]
    exact answers_mono hmore

end

/-! ## Port zero -/

section

/-- Only ASCII texts are read below. -/
@[reducible] def nothingBeyondAscii : BeyondAscii where
  lower s := s
  urlsplit _ := none
  urljoin _ _ := none
  parseQsl _ := none
  hostOk _ := true

attribute [local instance] textPolicyDigests nothingBeyondAscii asciiUrls

/-- A scope of the HTTPS port of the host `t`. -/
def httpsScope : Scope where
  scopeId := "scope"
  engagementId := "engagement"
  version := 1
  validFrom := 0
  validUntil := 10
  repositories := []
  artifacts := []
  networkTargets := [⟨"t", [443], ["https"]⟩]
  allowedTestClasses := []
  deniedActions := []
  approvalRequirements := []
  state := .approved
  window := by decide

def portZeroRequest : ActionRequest where
  engagementId := "engagement"
  targetId := none
  action := "http"
  requestedAt := 1
  repositoryUrl := none
  repositoryCommit := none
  url := some "https://t:0/"
  testClass := none
  mutatesState := false
  usesRealCredentials := false
  externalCallback := false
  submitsReport := false
  runsUntrustedBuild := false
  authorizationContextDigest := none

theorem urlsplit_portZero : urlsplit "https://t:0/" = some (splitResult
    ⟨['h', 't', 't', 'p', 's'], ['t', ':', '0'], ['/'], [], []⟩) := by
  rfl

theorem portZero_passes : httpsScope.Passes portZeroRequest [] where
  authorised := by constructor <;> decide
  testClass := by simp [portZeroRequest]
  repository := by simp [Scope.PermitsRepository, portZeroRequest]
  url := by
    intro url hurl
    cases hurl
    refine ⟨_, "t", some 0, urlsplit_portZero, Or.inl rfl, Or.inl rfl, by decide, by decide,
      by decide, ⟨"t", [443], ["https"]⟩, by simp [httpsScope], rfl, by decide, by decide⟩
  boundary := Or.inr (by simp [portZeroRequest])
  approvals := by
    rintro action (hflag | hrequired)
    · cases action <;> simp [ActionRequest.flag, portZeroRequest] at hflag
    · simp [httpsScope] at hrequired

/-- A request to port zero is allowed by a scope of the default port. -/
theorem portZero_allowed : ¬(httpsScope.Answers portZeroRequest [] .allow →
    httpsScope.Permits portZeroRequest []) := by
  intro hsound
  have hpermits := hsound (answers_allow_iff.2 portZero_passes)
  refine portZero_passes.permits_iff.1 hpermits (Or.inr ⟨_, rfl, _, urlsplit_portZero, ?_⟩)
  refine Or.inr (Or.inr ⟨by decide, ?_⟩)
  rintro hostname - ⟨target, htarget, -, -, hport⟩
  simp only [httpsScope, List.mem_singleton] at htarget
  subst htarget
  simp at hport

end

end VulnLoom

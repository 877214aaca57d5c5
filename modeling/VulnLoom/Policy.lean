import VulnLoom.Scope

/-!
# The scope policy

`PolicyEngine.decide`. Texts are read by Python's `str.lower` and `urllib.parse`;
`PythonUrl` is what they return, and no result assumes anything of it. A missing value is a
`ValueError`.
-/

namespace VulnLoom

/-! ## URLs -/

/-- `urllib.parse.SplitResult`, with the properties the program reads. -/
structure SplitResult where
  scheme : String
  netloc : String
  username : Option String
  password : Option String
  hostname : Option String
  /-- `none` when the `port` property raises -/
  port : Option (Option ℕ)
  path : String
  query : String
  fragment : String

class PythonUrl where
  lower : String → String
  urlsplit : String → Option SplitResult
  urljoin : String → String → Option String
  urlunsplit : String → String → String → String → String → String
  parseQsl : String → Option (List (String × String))

/-- Python's truth of an optional text. -/
def truthy (s : Option String) : Bool :=
  s.any fun s => s ≠ ""

export PythonUrl (lower urlsplit)

/-! ## Requests and decisions -/

inductive DecisionEffect
  | allow
  | deny
  | approvalRequired
  deriving DecidableEq

structure ActionRequest where
  engagementId : UUID
  targetId : Option UUID
  action : String
  requestedAt : Time
  repositoryUrl : Option String
  repositoryCommit : Option String
  url : Option String
  testClass : Option String
  mutatesState : Bool
  usesRealCredentials : Bool
  externalCallback : Bool
  submitsReport : Bool
  runsUntrustedBuild : Bool
  authorizationContextDigest : Option Digest

structure Decision where
  effect : DecisionEffect
  reasons : List String
  obligations : List String
  policyDigest : Digest

class PolicyDigests where
  request : CanonicalDigest ActionRequest
  scope : CanonicalDigest Scope

attribute [reducible, instance] PolicyDigests.request PolicyDigests.scope

variable [PolicyDigests] [PythonUrl]

/-- `ActionRequest.digest`, which leaves the instant out. -/
def ActionRequest.digest (request : ActionRequest) : Digest :=
  canonicalDigest { request with requestedAt := 0 }

/-- `PolicyEngine.policy_digest`. -/
def Scope.policyDigest (scope : Scope) : Digest :=
  canonicalDigest scope

def ApprovalAction.value : ApprovalAction → String
  | .runValidation => "run_validation"
  | .runCritic => "run_critic"
  | .runUntrustedBuild => "run_untrusted_build"
  | .mutateTargetState => "mutate_target_state"
  | .useRealCredentials => "use_real_credentials"
  | .externalCallback => "external_callback"
  | .submitReport => "submit_report"
  | .reviewReport => "review_report"
  | .exportReport => "export_report"
  | .executeRedTeamAction => "execute_red_team_action"
  | .advanceCampaignPhase => "advance_campaign_phase"
  | .createCampaignCandidate => "create_campaign_candidate"
  | .queueCampaignCandidateValidation => "queue_campaign_candidate_validation"
  | .queueCampaignCandidateCritic => "queue_campaign_candidate_critic"

/-! ## The engine -/

/-- `if p: reasons.append(reason)`. -/
def reasonIf (p : Prop) [Decidable p] (reason : String) : List String :=
  if p then [reason] else []

/-- The reasons that do not concern the target. -/
def authorityReasons (scope : Scope) (request : ActionRequest) : List String :=
  reasonIf (scope.state ≠ .approved) "scope_not_approved" ++
  reasonIf (request.engagementId ≠ scope.engagementId) "engagement_mismatch" ++
  reasonIf (¬(scope.validFrom ≤ request.requestedAt ∧ request.requestedAt < scope.validUntil))
    "scope_outside_validity_window" ++
  reasonIf (request.action ∈ scope.deniedActions) "action_explicitly_denied" ++
  reasonIf (truthy request.testClass ∧ ∃ c ∈ request.testClass, c ∉ scope.allowedTestClasses)
    "test_class_not_allowed"

def repositoryReasons (scope : Scope) (request : ActionRequest) : List String :=
  reasonIf (∃ url ∈ request.repositoryUrl, ¬∃ repo ∈ scope.repositories,
    repo.url = url ∧ some repo.commit = request.repositoryCommit)
    "repository_or_commit_out_of_scope"

/-- `parsed.port or default`. -/
def portOr (port : Option ℕ) (default : ℕ) : ℕ :=
  match port with
  | none | some 0 => default
  | some port => port

/-- A network target of the scope contains a URL. -/
def NetworkTargetScope.contains (target : NetworkTargetScope) (hostname scheme : String)
    (port : ℕ) : Bool :=
  lower hostname = lower target.host ∧ scheme ∈ target.schemes ∧ port ∈ target.ports

/-- The reasons and the obligations that come from the URL. -/
def urlReasons (scope : Scope) (url : String) : Option (List String × List String) := do
  let parsed ← urlsplit url
  if truthy parsed.username ∨ truthy parsed.password ∨ ¬truthy parsed.hostname then
    return (["invalid_or_credentialed_url"], [])
  let scheme := lower parsed.scheme
  let port ← parsed.port
  let port := portOr port (if scheme = "https" then 443 else if scheme = "http" then 80 else 0)
  if scope.networkTargets.any fun target =>
      target.contains (parsed.hostname.getD "") scheme port then
    return ([], ["resolve_and_pin_ip", "recheck_each_redirect"])
  return (["network_target_out_of_scope"], [])

/-- `_required_approvals`, without repetitions; the order of the set is not specified. -/
def requiredApprovals (scope : Scope) (request : ActionRequest) : List ApprovalAction :=
  ((if request.mutatesState then [ApprovalAction.mutateTargetState] else []) ++
    (if request.usesRealCredentials then [ApprovalAction.useRealCredentials] else []) ++
    (if request.externalCallback then [ApprovalAction.externalCallback] else []) ++
    (if request.submitsReport then [ApprovalAction.submitReport] else []) ++
    (if request.runsUntrustedBuild then [ApprovalAction.runUntrustedBuild] else []) ++
    scope.approvalRequirements).dedup

/-- An approval that covers a required action of a request. -/
def ApprovalRequest.covers (approval : ApprovalRequest) (scope : Scope) (request : ActionRequest)
    (action : ApprovalAction) : Bool :=
  approval.engagementId = request.engagementId ∧ approval.targetId = request.targetId ∧
    approval.policyVersion = scope.version ∧
    approval.isValidFor action request.digest request.requestedAt

/-- The reasons and the obligations that come from the URL of a request, if it has one. -/
def requestUrlReasons (scope : Scope) (request : ActionRequest) :
    Option (List String × List String) :=
  match request.url with
  | none => some ([], [])
  | some url => urlReasons scope url

/-- The required approvals that are missing. -/
def missingApprovals (scope : Scope) (request : ActionRequest)
    (approvals : List ApprovalRequest) : List ApprovalAction :=
  (requiredApprovals scope request).filter fun action =>
    ¬approvals.any fun approval => approval.covers scope request action

/-- The decision for the reasons collected. -/
def Scope.decisionFor (scope : Scope) (request : ActionRequest)
    (approvals : List ApprovalRequest) (reasons obligations : List String) : Decision :=
  if reasons ≠ [] then ⟨.deny, reasons, obligations, scope.policyDigest⟩
  else if missingApprovals scope request approvals ≠ [] then
    ⟨.approvalRequired, (missingApprovals scope request approvals).map fun action =>
      "missing_approval:" ++ action.value, obligations, scope.policyDigest⟩
  else ⟨.allow, ["scope_policy_satisfied"], obligations, scope.policyDigest⟩

/-- `PolicyEngine.decide`. -/
def Scope.decide (scope : Scope) (request : ActionRequest) (approvals : List ApprovalRequest) :
    Option Decision := do
  let (fromUrl, obligations) ← requestUrlReasons scope request
  return scope.decisionFor request approvals
    (authorityReasons scope request ++ repositoryReasons scope request ++ fromUrl ++
      reasonIf (request.repositoryUrl = none ∧ request.url = none) "target_boundary_not_supplied")
    obligations

variable {request : ActionRequest} {approvals : List ApprovalRequest}

/-- A request is allowed when nothing speaks against it and no approval is missing. -/
theorem Scope.decide_allow {scope : Scope} {decision : Decision}
    (h : scope.decide request approvals = some decision) (hallow : decision.effect = .allow) :
    authorityReasons scope request = [] ∧ repositoryReasons scope request = [] ∧
      (∃ obligations, requestUrlReasons scope request = some ([], obligations)) ∧
      missingApprovals scope request approvals = [] := by
  simp only [Scope.decide, Option.bind_eq_bind, Option.bind_eq_some_iff, Option.pure_def,
    Option.some.injEq] at h
  obtain ⟨⟨fromUrl, obligations⟩, hurl, rfl⟩ := h
  unfold Scope.decisionFor at hallow
  split_ifs at hallow with hreasons hmissing
  simp only [ne_eq, not_not, List.append_eq_nil_iff] at hreasons
  obtain ⟨⟨⟨hauthority, hrepository⟩, rfl⟩, -⟩ := hreasons
  exact ⟨hauthority, hrepository, ⟨obligations, hurl⟩, not_not.1 hmissing⟩

/-- A URL that is allowed can be read. -/
theorem Scope.decide_allow_url {scope : Scope} {decision : Decision} {url : String}
    (h : scope.decide request approvals = some decision) (hallow : decision.effect = .allow)
    (hurl : request.url = some url) :
    ∃ parsed port, urlsplit url = some parsed ∧ parsed.port = some port := by
  obtain ⟨-, -, ⟨obligations, hreasons⟩, -⟩ := Scope.decide_allow h hallow
  rw [requestUrlReasons, hurl] at hreasons
  obtain ⟨parsed, hparsed, hrest⟩ := Option.bind_eq_some_iff.1 hreasons
  split_ifs at hrest with hcredentialed
  · simp at hrest
  · obtain ⟨port, hport, -⟩ := Option.bind_eq_some_iff.1 hrest
    exact ⟨parsed, port, hparsed, hport⟩

/-! ## A concrete policy -/

/-- `urllib.parse` on lower-case URLs of the host `t`, with a path at most. -/
@[reducible] def hostUrls : PythonUrl where
  lower s := s
  urlsplit url :=
    match url.toList with
    | 'h' :: 't' :: 't' :: 'p' :: 's' :: ':' :: '/' :: '/' :: 't' :: path =>
      some ⟨"https", "t", none, none, some "t", some none, String.ofList path, "", ""⟩
    | _ => none
  urljoin _ url := some (if url.toList.head? = some '/' then "https://t" ++ url else url)
  urlunsplit scheme netloc path _ _ := scheme ++ "://" ++ netloc ++ path
  parseQsl query := if query = "" then some [] else none

/-- Digests that are short enough to compute with. -/
@[reducible] def textPolicyDigests : PolicyDigests where
  request := ⟨fun request => request.action ++ " " ++ request.url.getD ""⟩
  scope := ⟨fun scope => scope.scopeId ++ toString scope.version⟩

end VulnLoom

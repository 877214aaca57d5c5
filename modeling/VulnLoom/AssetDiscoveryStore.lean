import VulnLoom.AssetDiscoveryModels
import VulnLoom.Transition

/-!
# The ledger of asset discovery

Three tables : the runs of the plans, the batches saved for the queries of a run, and the
authorised assets that were published. A JSON column is the record it encodes. Each method is one
transaction; one that raises leaves the tables as they were.
-/

namespace VulnLoom

inductive AssetDiscoveryError
  | rejected (message : String)
  | timedOut (message : String)
  | storeRejected (message : String)
  | recoveryRequired (message : String)
  | adapter (message : String)
  | validation
  deriving DecidableEq

/-! ## Tables -/

/-- A row of `red_team_asset_discovery_runs`. -/
structure DiscoveryRun [CanonicalDigest AssetDiscoveryQuery]
    [CanonicalDigest AssetAdmissionDecision] where
  plan : AssetDiscoveryPlan
  state : AssetDiscoveryState
  attempt : ℕ
  startedAt : Time
  completedAt : Option Time
  outcome : Option AssetDiscoveryOutcome

/-- A row of `red_team_asset_discovery_batches`. -/
structure BatchRow [CanonicalDigest DiscoveredAsset]
    [CanonicalDigest AssetAttributionEvidence] where
  planId : Digest
  queryId : Digest
  batch : AssetDiscoveryBatch

structure AssetDiscoveryStore [CanonicalDigest AssetDiscoveryQuery]
    [CanonicalDigest DiscoveredAsset] [CanonicalDigest AssetAttributionEvidence]
    [CanonicalDigest AssetAdmissionDecision] where
  runs : List DiscoveryRun
  batches : List BatchRow
  assets : List AuthorizedAsset

variable [CanonicalDigest AssetDiscoveryAuthorization] [CanonicalDigest AssetDiscoveryQuery]
  [CanonicalDigest AssetDiscoveryPlan] [CanonicalDigest DiscoveredAsset]
  [CanonicalDigest AssetAttributionEvidence] [CanonicalDigest AssetAdmissionDecision]
  [CanonicalDigest AuthorizedAsset]

def DiscoveryRun.planId (row : DiscoveryRun) : Digest :=
  row.plan.planId

/-- `plan_id` is the primary key, and `idempotency_key` is unique. -/
def DiscoveryRun.clash (row row' : DiscoveryRun) : Bool :=
  row.planId = row'.planId ∨ row.plan.idempotencyKey = row'.plan.idempotencyKey

/-- A run in its first attempt. -/
def DiscoveryRun.started (plan : AssetDiscoveryPlan) (now : Time) : DiscoveryRun where
  plan := plan
  state := .started
  attempt := 1
  startedAt := now
  completedAt := none
  outcome := none

/-- A run in its next attempt. -/
def DiscoveryRun.retried (now : Time) (row : DiscoveryRun) : DiscoveryRun :=
  { row with attempt := row.attempt + 1, startedAt := now }

def DiscoveryRun.finished (outcome : AssetDiscoveryOutcome) (row : DiscoveryRun) : DiscoveryRun :=
  { row with
    state := .completed
    completedAt := some outcome.completedAt
    outcome := some outcome }

structure AssetDiscoveryClaim where
  created : Bool
  attempt : ℕ
  outcome : Option AssetDiscoveryOutcome

namespace AssetDiscoveryStore

def empty : AssetDiscoveryStore :=
  ⟨[], [], []⟩

variable (store : AssetDiscoveryStore) (plan : AssetDiscoveryPlan)

/-! ## Rows -/

/-- `_by_identity`. -/
def byIdentity : Except AssetDiscoveryError DiscoveryRun :=
  orRaise (store.runs.find? fun row => row.planId = plan.planId ∨
      row.plan.idempotencyKey = plan.idempotencyKey)
    (.recoveryRequired "asset discovery checkpoint is unavailable")

/-- `_same`. -/
def same (row : DiscoveryRun) : Except AssetDiscoveryError Unit :=
  raiseIf (row.planId ≠ plan.planId ∨ row.plan ≠ plan)
    (.storeRejected "asset discovery identity was reused for different content")

/-- `batch`. -/
def batch (planId queryId : Digest) : Option AssetDiscoveryBatch :=
  (store.batches.find? fun row => row.planId = planId ∧ row.queryId = queryId).map BatchRow.batch

/-- `WHERE plan_id=? AND state='started' AND attempt=?`. -/
def isAttempt (attempt : ℕ) (row : DiscoveryRun) : Bool :=
  row.planId = plan.planId ∧ row.state = .started ∧ row.attempt = attempt

/-! ## Transactions -/

def claim (now : Time) :
    Except AssetDiscoveryError (AssetDiscoveryStore × AssetDiscoveryClaim) :=
  match Table.insert DiscoveryRun.clash store.runs (.started plan now) with
  | some runs => .ok ({ store with runs }, ⟨true, 1, none⟩)
  | none => do
    let row ← store.byIdentity plan
    same plan row
    raiseIf (row.state = .started)
      (.recoveryRequired "asset discovery has an unfinished STARTED checkpoint")
    let outcome ← orRaise row.outcome .validation
    return (store, ⟨false, row.attempt, some outcome⟩)

def recover (now : Time) :
    Except AssetDiscoveryError (AssetDiscoveryStore × AssetDiscoveryClaim) := do
  let row ← store.byIdentity plan
  same plan row
  raiseIf (row.state ≠ .started) (.recoveryRequired "asset discovery is not awaiting recovery")
  raiseIf (plan.limits.maxAttempts ≤ row.attempt)
    (.recoveryRequired "asset discovery recovery attempts are exhausted")
  raiseIf (Table.rowcount (isAttempt plan row.attempt) store.runs ≠ 1)
    (.recoveryRequired "asset discovery recovery raced")
  let runs := Table.update (isAttempt plan row.attempt) (.retried now) store.runs
  return ({ store with runs }, ⟨true, row.attempt + 1, none⟩)

def saveBatch (batch : AssetDiscoveryBatch) : Except AssetDiscoveryError AssetDiscoveryStore := do
  raiseIf (batch.queryId ∉ plan.queries.map AssetDiscoveryQuery.queryId)
    (.storeRejected "asset discovery batch is not part of the plan")
  let run ← store.byIdentity plan
  same plan run
  raiseIf (run.state ≠ .started)
    (.recoveryRequired "asset discovery is not accepting query checkpoints")
  match store.batch plan.planId batch.queryId with
  | none =>
    return { store with batches := store.batches ++ [⟨plan.planId, batch.queryId, batch⟩] }
  | some existing =>
    raiseIf (existing ≠ batch) (.storeRejected "asset discovery query checkpoint conflicted")
    return store

/-- Publish one asset, unless it is published. -/
def publish (assets : List AuthorizedAsset) (asset : AuthorizedAsset) :
    Except AssetDiscoveryError (List AuthorizedAsset) :=
  match assets.find? fun row => row.authorizedAssetId = asset.authorizedAssetId ∨
      row.decisionId = asset.decisionId with
  | none => .ok (assets ++ [asset])
  | some existing => do
    raiseIf (existing ≠ asset) (.storeRejected "AuthorizedAsset identity conflicted")
    return assets

/-- An asset that a decision of the outcome admits. -/
def backed (outcome : AssetDiscoveryOutcome) (asset : AuthorizedAsset) : Bool :=
  asset.authorizationId = plan.authorization.authorizationId ∧
    (outcome.decisions.find? fun decision => decision.decisionId = asset.decisionId).any
      fun decision => decision.verdict = .admitted ∧ decision.assetId = asset.asset.assetId

def complete (outcome : AssetDiscoveryOutcome) (authorizedAssets : List AuthorizedAsset) :
    Except AssetDiscoveryError AssetDiscoveryStore := do
  let expectedIds := Table.orderBy id (authorizedAssets.map AuthorizedAsset.authorizedAssetId)
  raiseIf (outcome.planId ≠ plan.planId ∨ outcome.authorizedAssetIds ≠ expectedIds)
    (.storeRejected "asset discovery completion binding is invalid")
  raiseIf (authorizedAssets.any fun asset => !backed plan outcome asset)
    (.storeRejected "AuthorizedAsset publication is not backed by an admitted decision")
  let row ← store.byIdentity plan
  same plan row
  raiseIf (row.state ≠ .started ∨ row.attempt ≠ outcome.attempt)
    (.recoveryRequired "asset discovery STARTED checkpoint is unavailable")
  let assets ← authorizedAssets.foldlM publish store.assets
  raiseIf (Table.rowcount (isAttempt plan outcome.attempt) store.runs ≠ 1)
    (.recoveryRequired "asset discovery completion raced")
  let runs := Table.update (isAttempt plan outcome.attempt) (.finished outcome) store.runs
  return { store with runs, assets }

end AssetDiscoveryStore

end VulnLoom

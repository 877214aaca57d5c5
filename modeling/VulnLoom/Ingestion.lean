import VulnLoom.Archive
import VulnLoom.ContentStore
import VulnLoom.Transition

/-!
# The ingestion service

`IngestionService` over its two directories : the quarantined archives, by digest, and the
snapshots, by manifest identifier. The three imports all end in `_commit_or_reuse_snapshot`;
`ingestArchive`, `ingestGit` and `registerOciImage` are what they do before, and `ingest` is a whole
call. A call that raises may still have quarantined its archive. Deadlines are left out.
-/

namespace VulnLoom

variable [PythonUrl] [PythonUnicode] [ArchiveReader] [IngestionDigests]

/-! ## Scopes -/

/-- `_require_active_scope`. -/
def requireActiveScope (scope : Scope) (now : Time) : Except IngestionError Unit := do
  raiseIf (scope.state ≠ .approved) (.rejected "target ingestion requires an approved Scope")
  raiseIf (¬(scope.validFrom ≤ now ∧ now < scope.validUntil))
    (.rejected "target ingestion is outside the Scope validity window")

def Scope.listsArtifact (scope : Scope) (kind : ArtifactKind) (sha256 : Digest)
    (sourceName : String) : Bool :=
  scope.artifacts.any fun item =>
    item.kind = kind ∧ item.sha256 = sha256 ∧ item.sourceName = sourceName

def Scope.listsRepository (scope : Scope) (url commit : String) : Bool :=
  scope.repositories.any fun repository =>
    repository.url = url ∧ lower repository.commit = lower commit

/-- The scope lists what a snapshot was made from. -/
def Scope.listsSnapshot (scope : Scope) (snapshot : TargetSnapshot) : Bool :=
  if snapshot.artifact.kind = .gitRepository then
    scope.listsRepository snapshot.target.sourceRef snapshot.target.version
  else
    scope.listsArtifact snapshot.artifact.kind snapshot.artifact.artifactId
      snapshot.artifact.sourceName

/-- `require_snapshot_scope`. -/
def requireSnapshotScope (snapshot : TargetSnapshot) (scope : Scope) (now : Time) :
    Except IngestionError Unit := do
  requireActiveScope scope now
  raiseIf (snapshot.target.engagementId ≠ scope.engagementId ∨
      snapshot.artifact.engagementId ≠ scope.engagementId)
    (.rejected "Target Snapshot belongs to another Engagement")
  raiseIf (¬scope.listsSnapshot snapshot)
    (.rejected "Target Snapshot is not present in the active Scope")

/-! ## The store -/

/-- A snapshot directory : its name, its `snapshot.json` and its payload, if it has one. -/
structure StoredSnapshot where
  directory : Digest
  snapshot : TargetSnapshot
  payload : Option Payload

structure IngestionStore where
  blobs : List (Digest × Bytes)
  snapshots : List StoredSnapshot

def IngestionStore.empty : IngestionStore :=
  ⟨[], []⟩

def payloadRef (manifestId : Digest) : String :=
  "snapshots/" ++ manifestId ++ "/payload"

/-- The files of a payload directory are files of the manifest, with its sizes and digests. -/
def verifyFiles (files : List SnapshotFile) : Payload → Except IngestionError Unit
  | [] => return ()
  | (path, content) :: payload => do
    let relative := asPosix (posixParts path)
    let item ← orRaise (files.reverse.find? fun item => item.path = relative)
      (.rejected "existing snapshot contains an unexpected file")
    raiseIf (content.length ≠ item.size ∨ sha256 content ≠ item.sha256)
      (.rejected ("existing snapshot file failed integrity check: " ++ relative))
    verifyFiles files payload

/-- `_verify_snapshot_files`. -/
def StoredSnapshot.verifySnapshotFiles (stored : StoredSnapshot) : Except IngestionError Unit :=
  match stored.snapshot.rootRef with
  | none => raiseIf (stored.snapshot.manifest.files ≠ [])
      (.rejected "metadata-only snapshot unexpectedly lists files")
  | some rootRef => do
    raiseIf (rootRef ≠ payloadRef stored.directory)
      (.rejected "existing snapshot root escapes its content directory")
    let payload := stored.payload.getD []
    verifyFiles stored.snapshot.manifest.files payload
    raiseIf (∃ item ∈ stored.snapshot.manifest.files,
        ∀ file ∈ payload, asPosix (posixParts file.1) ≠ item.path)
      (.rejected "existing snapshot is missing a manifest file")

/-- `_load_existing_snapshot`. -/
def StoredSnapshot.loadExistingSnapshot (existing : StoredSnapshot) (expected : TargetSnapshot) :
    Except IngestionError TargetSnapshot := do
  raiseIf (existing.snapshot.manifest.manifestId ≠ expected.manifest.manifestId ∨
      existing.snapshot.artifact.artifactId ≠ expected.artifact.artifactId ∨
      existing.snapshot.target.version ≠ expected.target.version)
    (.rejected "existing snapshot identity mismatch")
  existing.verifySnapshotFiles
  return existing.snapshot

/-- The directory `snapshots/<manifest_id>`. -/
def IngestionStore.snapshotAt (store : IngestionStore) (manifestId : Digest) :
    Option StoredSnapshot :=
  ContentStore.find StoredSnapshot.directory store.snapshots manifestId

/-- A snapshot that has been built, in the directory it goes to. -/
def StoredSnapshot.of (snapshot : TargetSnapshot) (payload : Option Payload) : StoredSnapshot :=
  ⟨snapshot.manifest.manifestId, snapshot, payload⟩

/-- `_commit_or_reuse_snapshot`. -/
def IngestionStore.commitOrReuseSnapshot (store : IngestionStore) (built : StoredSnapshot) :
    Except IngestionError (IngestionStore × TargetSnapshot) :=
  match store.snapshotAt built.directory with
  | some existing => do
    let snapshot ← existing.loadExistingSnapshot built.snapshot
    return (store, snapshot)
  | none => return ({ store with
      snapshots := ContentStore.file StoredSnapshot.directory store.snapshots built },
      built.snapshot)

/-! ## Quarantine -/

/-- `_detect_archive_format`. -/
def detectArchiveFormat (content : Bytes) : Except IngestionError String :=
  if ArchiveReader.isZipfile content then return "zip"
  else if ArchiveReader.opens content then return "tar"
  else throw (.rejected "unsupported or malformed archive")

/-- `quarantine/<digest>.blob`. -/
def IngestionStore.blobAt (store : IngestionStore) (digest : Digest) : Option Bytes :=
  (ContentStore.find Prod.fst store.blobs digest).map Prod.snd

/-- A blob that is there already keeps its place, if it has the digest. -/
def IngestionStore.storeBlob (store : IngestionStore) (limits : IngestionLimits)
    (content : Bytes) : Except IngestionError (IngestionStore × Bytes) :=
  match store.blobAt (sha256 content) with
  | some existing => do
    raiseIf (limits.maxArchiveBytes < existing.length)
      (.rejected "content-addressed object exceeds declared size")
    raiseIf (sha256 existing ≠ sha256 content)
      (.rejected "existing quarantine object failed integrity check")
    return (store, existing)
  | none => return ({ store with
      blobs := ContentStore.file Prod.fst store.blobs (sha256 content, content) }, content)

/-- `_quarantine_file` up to the blob : the name of the source, its content, and the content of
the blob. -/
def IngestionStore.quarantineFile (store : IngestionStore) (limits : IngestionLimits) :
    SourceFile → Except IngestionError (IngestionStore × String × Bytes × Bytes)
  | .missing => throw (.rejected "artifact source does not exist")
  | .irregular => throw (.rejected "artifact source must be a regular, non-symlink file")
  | .regular name content => do
    raiseIf (limits.maxArchiveBytes < content.length)
      (.rejected "artifact exceeds maximum original size")
    let (store, blob) ← store.storeBlob limits content
    return (store, name, content, blob)

/-! ## Imports -/

def ArtifactKind.value : ArtifactKind → String
  | .sourceArchive => "source_archive"
  | .iacBundle => "iac_bundle"
  | .gitRepository => "git_repository"
  | .ociImage => "oci_image"

/-- `_target_id`. -/
def newTargetId (engagementId : UUID) (kind sourceRef version : String) : UUID :=
  uuid5 ("vulnloom:" ++ engagementId ++ ":" ++ kind ++ ":" ++ sourceRef ++ ":" ++ version)

/-- The artifact that `_quarantine_file` returns. -/
def archiveArtifact (name : String) (content blob : Bytes) (engagementId : UUID)
    (kind : ArtifactKind) (clock : Clock) : Except IngestionError Artifact := do
  let detected ← detectArchiveFormat blob
  raiseIf (name = "") .valueError
  return {
    artifactId := sha256 content
    engagementId := engagementId
    kind := kind
    sourceName := name
    sourceRef := "local-artifact:" ++ name
    originalSize := content.length
    detectedFormat := detected
    quarantineRef := some ("quarantine/" ++ sha256 content ++ ".blob")
    capturedAt := clock.capturedAt }

/-- A snapshot with its payload directory. -/
def snapshotWith (artifact : Artifact) (target : Target) (files : List SnapshotFile)
    (payload : Payload) (clock : Clock) : StoredSnapshot :=
  let manifest := makeManifest artifact target files clock.createdAt
  .of ⟨target, artifact, manifest, some (payloadRef manifest.manifestId)⟩ (some payload)

/-- The extraction for a detected format. -/
def extractArchive (limits : IngestionLimits) (detectedFormat : String) (blob : Bytes) :
    Except IngestionError (List SnapshotFile × Payload) :=
  if detectedFormat = "zip" then extractZip limits blob
  else if detectedFormat = "tar" then extractTar limits blob
  else throw (.rejected "unsupported archive format")

/-- `_materialize_archive`. -/
def materializeArchive (limits : IngestionLimits) (artifact : Artifact) (blob : Bytes)
    (scope : Scope) (clock : Clock) : Except IngestionError StoredSnapshot := do
  let target : Target := {
    targetId := newTargetId scope.engagementId artifact.kind.value artifact.sourceName
      artifact.artifactId
    engagementId := scope.engagementId
    kind := if artifact.kind = .iacBundle then .iacBundle else .repository
    sourceRef := artifact.sourceName
    version := artifact.artifactId
    ingestedAt := clock.ingestedAt }
  let (files, payload) ← extractArchive limits artifact.detectedFormat blob
  return snapshotWith artifact target files payload clock

/-- `_require_artifact_scope`. -/
def requireArtifactScope (scope : Scope) (artifact : Artifact) (now : Time) :
    Except IngestionError Unit := do
  requireActiveScope scope now
  raiseIf (¬scope.listsArtifact artifact.kind artifact.artifactId artifact.sourceName)
    (.rejected "artifact name, kind, and digest are not in approved Scope")

/-- `ingest_archive` once the archive is quarantined. -/
def buildArchive (limits : IngestionLimits) (name : String) (content blob : Bytes)
    (kind : ArtifactKind) (scope : Scope) (now : Time) (clock : Clock) :
    Except IngestionError StoredSnapshot := do
  let artifact ← archiveArtifact name content blob scope.engagementId kind clock
  requireArtifactScope scope artifact now
  materializeArchive limits artifact blob scope clock

/-- `ingest_archive`. -/
def IngestionStore.ingestArchive (store : IngestionStore) (limits : IngestionLimits)
    (source : SourceFile) (kind : ArtifactKind) (scope : Scope) (now : Time) (clock : Clock) :
    IngestionStore × Except IngestionError StoredSnapshot :=
  if kind ∉ [ArtifactKind.sourceArchive, .iacBundle] then
    (store, .error (.rejected "archive import only supports source_archive or iac_bundle"))
  else
    match store.quarantineFile limits source with
    | .error e => (store, .error e)
    | .ok (quarantined, name, content, blob) =>
      (quarantined, buildArchive limits name content blob kind scope now clock)

/-- The commit that Git names, in full. -/
def GitSource.canonicalCommit (source : GitSource) (commit : String) :
    Except IngestionError String := do
  let output ← orRaise (source.revParse commit) (.rejected "Git object read failed")
  let text ← orRaise (decodeAscii output) .valueError
  return strip text

/-- The digest that stands for a commit of a repository. -/
def gitArtifactId (repositoryUrl canonical : String) : Digest :=
  sha256 (utf8 ("git\x00" ++ repositoryUrl ++ "\x00" ++ canonical))

/-- `ingest_git`. -/
def ingestGit (limits : IngestionLimits) (source : GitSource) (repositoryUrl commit : String)
    (scope : Scope) (now : Time) (clock : Clock) : Except IngestionError StoredSnapshot := do
  requireActiveScope scope now
  raiseIf (¬scope.listsRepository repositoryUrl commit)
    (.rejected "repository URL and commit are not in approved Scope")
  raiseIf source.missing (.rejected "Git source does not exist")
  raiseIf (¬source.isDirectory) (.rejected "Git source must be a local, non-symlink directory")
  raiseIf (¬(7 ≤ commit.length ∧ commit.length ≤ 64 ∧ commit.toList.all isHex))
    (.rejected "commit must be a hexadecimal object identifier")
  let canonical ← source.canonicalCommit commit
  raiseIf (¬((canonical.length = 40 ∨ canonical.length = 64) ∧ canonical.toList.all isLowerHex))
    (.rejected "Git returned a non-canonical commit identifier")
  let tree ← orRaise (source.lsTree canonical) (.rejected "Git object read failed")
  let entries ← parseGitTree limits tree
  raiseIf (source.name = "" ∨ repositoryUrl = "") .valueError
  let artifact : Artifact := {
    artifactId := gitArtifactId repositoryUrl canonical
    engagementId := scope.engagementId
    kind := .gitRepository
    sourceName := source.name
    sourceRef := repositoryUrl
    originalSize := (entries.map fun entry => entry.2.2).sum
    detectedFormat := "git"
    quarantineRef := none
    capturedAt := clock.capturedAt }
  let target : Target := {
    targetId := newTargetId scope.engagementId "git" repositoryUrl canonical
    engagementId := scope.engagementId
    kind := .repository
    sourceRef := repositoryUrl
    version := canonical
    ingestedAt := clock.ingestedAt }
  let (files, payload) ← writeBlobs source.catFile entries [] []
  return snapshotWith artifact target files payload clock

/-- `re.fullmatch(r"sha256:([0-9a-f]{64})", digest)`. -/
def matchOciDigest (digest : String) : Option Digest := do
  guard ("sha256:".toList <+: digest.toList)
  let hex := digest.toList.drop 7
  guard (hex.length = 64 ∧ hex.all isLowerHex)
  return String.ofList hex

/-- `register_oci_image`. -/
def registerOciImage (imageRef digest : String) (scope : Scope) (now : Time) (clock : Clock) :
    Except IngestionError StoredSnapshot := do
  requireActiveScope scope now
  let artifactId ← orRaise (matchOciDigest digest)
    (.rejected "OCI image must be pinned by a sha256 digest")
  raiseIf (¬scope.listsArtifact .ociImage artifactId imageRef)
    (.rejected "OCI image reference and digest are not in approved Scope")
  raiseIf (imageRef = "") .valueError
  let artifact : Artifact := {
    artifactId := artifactId
    engagementId := scope.engagementId
    kind := .ociImage
    sourceName := imageRef
    sourceRef := imageRef
    originalSize := 0
    detectedFormat := "oci-manifest"
    quarantineRef := none
    capturedAt := clock.capturedAt }
  let target : Target := {
    targetId := newTargetId scope.engagementId "oci" imageRef digest
    engagementId := scope.engagementId
    kind := .containerImage
    sourceRef := imageRef
    version := digest
    ingestedAt := clock.ingestedAt }
  return .of ⟨target, artifact, makeManifest artifact target [] clock.createdAt, none⟩ none

/-! ## Calls -/

inductive ImportSource
  | archive (file : SourceFile) (kind : ArtifactKind)
  | git (repository : GitSource) (repositoryUrl commit : String)
  | oci (imageRef digest : String)

/-- A call of the service, at an instant and with the clock values of its records. -/
structure Import where
  source : ImportSource
  scope : Scope
  now : Time
  clock : Clock

/-- What a call builds, before it is committed, and the store it leaves. -/
def IngestionStore.build (store : IngestionStore) (limits : IngestionLimits) (call : Import) :
    IngestionStore × Except IngestionError StoredSnapshot :=
  match call.source with
  | .archive file kind => store.ingestArchive limits file kind call.scope call.now call.clock
  | .git repository repositoryUrl commit =>
    (store, ingestGit limits repository repositoryUrl commit call.scope call.now call.clock)
  | .oci imageRef digest => (store, registerOciImage imageRef digest call.scope call.now call.clock)

/-- A call of the service. -/
def IngestionStore.ingest (store : IngestionStore) (limits : IngestionLimits) (call : Import) :
    IngestionStore × Except IngestionError TargetSnapshot :=
  match store.build limits call with
  | (built, .error e) => (built, .error e)
  | (built, .ok snapshot) =>
    match built.commitOrReuseSnapshot snapshot with
    | .error e => (built, .error e)
    | .ok (committed, returned) => (committed, .ok returned)

end VulnLoom

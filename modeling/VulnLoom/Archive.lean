import VulnLoom.IngestionModels

/-!
# Materializing archives

`_safe_member_path`, the limits, `_extract_zip`, `_extract_tar`, `_parse_git_tree`, `_write_stream`,
`_classify_path` and `_make_manifest`. A payload directory is the list of its files in the
order they were written; its directories are those of the files.
-/

namespace VulnLoom

/-! ## Paths -/

/-- `PurePosixPath(path).parts`, for a relative path. -/
def posixParts (path : String) : List String :=
  ((path.toList.splitOn '/').map String.ofList).filter fun part => part ≠ "" ∧ part ≠ "."

/-- `PurePosixPath(path).name`. -/
def posixName (path : String) : String :=
  (posixParts path).getLast?.getD ""

/-- `PurePosixPath(*parts).as_posix()`. -/
def asPosix (parts : List String) : String :=
  if parts = [] then "." else "/".intercalate parts

/-- `re.match(r"^[A-Za-z]:", raw)`. -/
def hasDrive : List Char → Bool
  | c :: ':' :: _ => ('A' ≤ c ∧ c ≤ 'Z') ∨ ('a' ≤ c ∧ c ≤ 'z')
  | _ => false

def endsWith (text suffix : String) : Bool :=
  suffix.toList <:+ text.toList

variable [PythonUnicode]

/-- `_safe_member_path`. It returns the canonical path, and the keys seen with its own. -/
def safeMemberPath (raw : String) (seen : List String) :
    Except IngestionError (String × List String) := do
  raiseIf (raw = "" ∨ '\x00' ∈ raw.toList ∨ '\\' ∈ raw.toList ∨ hasDrive raw.toList)
    (.rejected "archive contains an invalid member path")
  let normalized := nfc raw
  let parts := posixParts normalized
  raiseIf (normalized.toList.head? = some '/' ∨
      ∃ part ∈ parts, part = "" ∨ part = "." ∨ part = "..")
    (.rejected ("archive path escapes snapshot: " ++ raw))
  let canonical := String.ofList ((asPosix parts).toList.rdropWhile (· = '/'))
  let collisionKey := casefold canonical
  raiseIf (collisionKey ∈ seen)
    (.rejected ("archive contains a duplicate normalized path: " ++ canonical))
  return (canonical, seen ++ [collisionKey])

/-- `_classify_path`. -/
def classifyPath (path : String) : StaticFileCategory :=
  let lowered := casefold path
  let name := casefold (posixName path)
  let parts := (posixParts path).map casefold
  if name = "chart.yaml" ∨ ("templates" ∈ parts ∧ "charts" ∈ parts) then .helm
  else if endsWith name ".tf" ∨ endsWith name ".tf.json" then .terraform
  else if name = "dockerfile" ∨ "dockerfile.".toList <+: name.toList then .dockerfile
  else if name ∈ ["docker-compose.yml", "docker-compose.yaml", "compose.yml", "compose.yaml"] then
    .compose
  else if (endsWith name ".yaml" ∨ endsWith name ".yml") ∧
      ∃ hint ∈ ["k8s", "kubernetes", "manifest", "deployment", "service"],
        hint.toList <:+: lowered.toList then .kubernetes
  else if ∃ suffix ∈ [".py", ".js", ".ts", ".java", ".go", ".rs", ".php", ".rb"],
      endsWith name suffix then .source
  else if ∃ suffix ∈ [".json", ".yaml", ".yml", ".toml", ".ini", ".conf", ".env.example"],
      endsWith name suffix then .config
  else if ∃ suffix ∈ [".md", ".rst", ".txt"], endsWith name suffix then .documentation
  else .other

/-! ## Limits -/

/-- `_check_member_limits`. -/
def IngestionLimits.checkMemberLimits (limits : IngestionLimits) (fileCount : ℕ) (size : ℤ)
    (total : ℕ) : Except IngestionError ℕ := do
  raiseIf (limits.maxFiles < fileCount) (.rejected "archive exceeds maximum file count")
  raiseIf (size < 0 ∨ limits.maxSingleFileBytes < size)
    (.rejected "archive member exceeds maximum single-file size")
  let total := total + size.toNat
  raiseIf (limits.maxTotalBytes < total) (.rejected "archive exceeds maximum expanded size")
  return total

/-- `_check_overall_ratio`. -/
def IngestionLimits.checkOverallRatio (limits : IngestionLimits) (expanded original : ℕ) :
    Except IngestionError Unit :=
  raiseIf (limits.maxCompressionRatio < (expanded : ℚ) / (max original 1 : ℕ))
    (.rejected "archive expansion ratio exceeds limit")

/-! ## The payload directory -/

/-- The files of a payload directory, by relative path. -/
abbrev Payload := List (String × Bytes)

/-- No new file can be opened at the path : it is the directory itself, a file or a directory
is there, or a file is where one of its directories should be. -/
def Payload.Blocked (payload : Payload) (path : String) : Prop :=
  posixParts path = [] ∨ ∃ file ∈ payload,
    posixParts file.1 <+: posixParts path ∨ posixParts path <+: posixParts file.1

instance (payload : Payload) (path : String) : Decidable (payload.Blocked path) :=
  inferInstanceAs (Decidable (_ ∨ _))

variable [IngestionDigests]

/-- The entry of a file that has been written. -/
def SnapshotFile.of (path : String) (content : Bytes) : SnapshotFile :=
  ⟨path, content.length, IngestionDigests.sha256 content, classifyPath path⟩

/-- `_write_stream`. -/
def Payload.writeStream (limits : IngestionLimits) (payload : Payload) (path : String)
    (stream : Option Bytes) (expectedSize : ℤ) :
    Except IngestionError (SnapshotFile × Payload) := do
  raiseIf (payload.Blocked path) .osError
  let content ← orRaise stream .libraryError
  raiseIf (expectedSize < content.length ∨ limits.maxSingleFileBytes < content.length)
    (.rejected ("archive member expanded beyond declared size: " ++ path))
  raiseIf ((content.length : ℤ) ≠ expectedSize)
    (.rejected ("archive member size mismatch: " ++ path))
  return (SnapshotFile.of path content, payload ++ [(path, content)])

/-- `_write_bytes`. -/
def Payload.writeBytes (payload : Payload) (path : String) (content : Bytes) :
    Except IngestionError (SnapshotFile × Payload) := do
  raiseIf (payload.Blocked path) .osError
  return (SnapshotFile.of path content, payload ++ [(path, content)])

/-! ## Archives -/

def sIfmt : ℕ := 0o170000

def sIflnk : ℕ := 0o120000

def sIfdir : ℕ := 0o040000

def sIfreg : ℕ := 0o100000

/-- The first loop of `_extract_zip` : the members to write, with their paths, and their
total size. -/
def planZip (limits : IngestionLimits) : List ZipInfo → List (ZipInfo × String) → List String → ℕ →
    Except IngestionError (List (ZipInfo × String) × ℕ)
  | [], planned, _, total => return (planned, total)
  | info :: infos, planned, seen, total => do
    let (path, seen) ← safeMemberPath info.filename seen
    let mode := (info.externalAttr >>> 16) &&& sIfmt
    raiseIf (mode = sIflnk) (.rejected ("archive symlink is forbidden: " ++ path))
    if info.isDir then
      raiseIf (mode ≠ 0 ∧ mode ≠ sIfdir)
        (.rejected ("non-directory archive member is forbidden: " ++ path))
      planZip limits infos planned seen total
    else
      raiseIf (mode ≠ 0 ∧ mode ≠ sIfreg)
        (.rejected ("non-regular archive member is forbidden: " ++ path))
      raiseIf (info.flagBits &&& 1 ≠ 0)
        (.rejected ("encrypted archive member is forbidden: " ++ path))
      let total ← limits.checkMemberLimits (planned.length + 1) info.fileSize total
      raiseIf (limits.maxCompressionRatio < (info.fileSize : ℚ) / (max info.compressSize 1 : ℕ))
        (.rejected ("compression ratio exceeds limit: " ++ path))
      planZip limits infos (planned ++ [(info, path)]) seen total

/-- The members planned are written one after the other. -/
def writePlanned (limits : IngestionLimits) : List (ZipInfo × String) → List SnapshotFile →
    Payload → Except IngestionError (List SnapshotFile × Payload)
  | [], files, payload => return (files, payload)
  | (info, path) :: planned, files, payload => do
    let (file, payload) ← payload.writeStream limits path info.content info.fileSize
    writePlanned limits planned (files ++ [file]) payload

/-- `_extract_zip`. -/
def extractZip [ArchiveReader] (limits : IngestionLimits) (archive : Bytes) :
    Except IngestionError (List SnapshotFile × Payload) := do
  let infos ← orRaise (ArchiveReader.infolist archive) .libraryError
  raiseIf (limits.maxFiles < infos.length) (.rejected "archive exceeds maximum member count")
  let (planned, total) ← planZip limits infos [] [] 0
  limits.checkOverallRatio total archive.length
  writePlanned limits planned [] []

/-- The loop of `_extract_tar`, which also returns the total size. -/
def writeMembers (limits : IngestionLimits) : List (Option TarInfo) → ℕ → List String → ℕ →
    List SnapshotFile → Payload → Except IngestionError (List SnapshotFile × Payload × ℕ)
  | [], _, _, total, output, payload => return (output, payload, total)
  | none :: _, _, _, _, _, _ => throw .libraryError
  | some member :: members, memberCount, seen, total, output, payload => do
    raiseIf (limits.maxFiles < memberCount + 1) (.rejected "archive exceeds maximum member count")
    let (path, seen) ← safeMemberPath member.name seen
    if member.isdir then
      writeMembers limits members (memberCount + 1) seen total output payload
    else
      raiseIf (¬member.isfile) (.rejected ("non-regular archive member is forbidden: " ++ path))
      let total ← limits.checkMemberLimits (output.length + 1) member.size total
      let stream ← orRaise member.stream
        (.rejected ("archive member has no readable content: " ++ path))
      let (file, payload) ← payload.writeStream limits path stream member.size
      writeMembers limits members (memberCount + 1) seen total (output ++ [file]) payload

/-- `_extract_tar`. -/
def extractTar [ArchiveReader] (limits : IngestionLimits) (archive : Bytes) :
    Except IngestionError (List SnapshotFile × Payload) := do
  let (output, payload, total) ←
    writeMembers limits (ArchiveReader.members archive) 0 [] 0 [] []
  limits.checkOverallRatio total archive.length
  return (output, payload)

/-! ## Git trees -/

/-- A record of `git ls-tree -r -z -l` : mode, type, object, size and path. -/
def readTreeRecord (record : Bytes) : Option (Bytes × Bytes × Bytes × ℤ × String) := do
  let (metadata, rawPath) ← splitFirst 9 record
  let (mode, rest) ← splitFirst 32 metadata
  let (objectType, rest) ← splitFirst 32 rest
  let (objectId, rawSize) ← splitFirst 32 rest
  return (mode, objectType, objectId, ← readInt rawSize, ← decodeUtf8 rawPath)

/-- The loop of `_parse_git_tree`. -/
def readTree (limits : IngestionLimits) : List Bytes → List (String × String × ℕ) →
    List String → ℕ → Except IngestionError (List (String × String × ℕ))
  | [], entries, _, _ => return entries
  | record :: records, entries, seen, total => do
    let (mode, objectType, objectId, size, path) ←
      orRaise (readTreeRecord record) (.rejected "Git tree contains an invalid entry")
    raiseIf (objectType ≠ utf8 "blob" ∨ mode = utf8 "120000" ∨ mode = utf8 "160000")
      (.rejected ("Git symlink or submodule is forbidden: " ++ path))
    let (path, seen) ← safeMemberPath path seen
    let total ← limits.checkMemberLimits (entries.length + 1) size total
    let objectId ← orRaise (decodeAscii objectId) .valueError
    readTree limits records (entries ++ [(objectId, path, size.toNat)]) seen total

/-- `_parse_git_tree` : object, path and size of every blob. -/
def parseGitTree (limits : IngestionLimits) (raw : Bytes) :
    Except IngestionError (List (String × String × ℕ)) :=
  readTree limits ((raw.splitOn 0).filter (· ≠ [])) [] [] 0

/-- The loop of `_materialize_git`. -/
def writeBlobs (catFile : String → Option Bytes) : List (String × String × ℕ) →
    List SnapshotFile → Payload → Except IngestionError (List SnapshotFile × Payload)
  | [], files, payload => return (files, payload)
  | (objectId, path, size) :: entries, files, payload => do
    let content ← orRaise (catFile objectId) (.rejected "Git object read failed")
    raiseIf (content.length ≠ size) (.rejected ("Git blob size mismatch: " ++ path))
    let (file, payload) ← payload.writeBytes path content
    writeBlobs catFile entries (files ++ [file]) payload

/-! ## The manifest -/

/-- The directories that hold a `Chart.yaml`. -/
def chartRoots (files : List SnapshotFile) : List (List String) :=
  (files.filter fun file => casefold (posixName file.path) = "chart.yaml").map fun file =>
    (posixParts file.path).dropLast

/-- The files by path; those under the templates of a chart are its own. -/
def orderFiles (files : List SnapshotFile) : List SnapshotFile :=
  let initial := files.insertionSort fun a b => a.path ≤ b.path
  initial.map fun file =>
    if ∃ root ∈ chartRoots initial, root ++ ["templates"] <+: posixParts file.path then
      { file with category := .helm }
    else file

/-- `_make_manifest`. -/
def makeManifest (artifact : Artifact) (target : Target) (files : List SnapshotFile)
    (createdAt : Time) : TargetManifest where
  manifestId := canonicalDigest (⟨artifact.artifactId, target.version, orderFiles files⟩ :
    ManifestPayload)
  artifactId := artifact.artifactId
  targetId := target.targetId
  targetVersion := target.version
  files := orderFiles files
  totalSize := ((orderFiles files).map SnapshotFile.size).sum
  createdAt := createdAt

end VulnLoom

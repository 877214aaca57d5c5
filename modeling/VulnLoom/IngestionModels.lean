import VulnLoom.Policy
import Mathlib.Data.List.DropRight

/-!
# Target snapshots

The records of an import, and what the import reads from the operating system, the archive
libraries and Git. Contents are byte lists. `unicodedata.normalize` and `str.casefold` are
parameters (`PythonUnicode`), as are the archive libraries (`ArchiveReader`); no result
assumes anything of them. The default clock values of the records are the import's `Clock`.
-/

namespace VulnLoom

abbrev Bytes := List UInt8

/-! ## Records -/

inductive TargetKind
  | repository
  | containerImage
  | testService
  | iacBundle
  deriving DecidableEq

inductive StaticFileCategory
  | source
  | kubernetes
  | helm
  | terraform
  | dockerfile
  | compose
  | config
  | documentation
  | other
  deriving DecidableEq

structure Target where
  targetId : UUID
  engagementId : UUID
  kind : TargetKind
  sourceRef : String
  version : String
  ingestedAt : Time

structure Artifact where
  artifactId : Digest
  engagementId : UUID
  kind : ArtifactKind
  sourceName : String
  sourceRef : String
  originalSize : ℕ
  detectedFormat : String
  quarantineRef : Option String
  capturedAt : Time

structure SnapshotFile where
  path : String
  size : ℕ
  sha256 : Digest
  category : StaticFileCategory

structure TargetManifest where
  manifestId : Digest
  artifactId : Digest
  targetId : UUID
  targetVersion : String
  files : List SnapshotFile
  totalSize : ℕ
  createdAt : Time

structure TargetSnapshot where
  target : Target
  artifact : Artifact
  manifest : TargetManifest
  rootRef : Option String

/-- What the manifest identifier is the digest of. -/
structure ManifestPayload where
  artifactId : Digest
  targetVersion : String
  files : List SnapshotFile

/-- `IngestionError`, or another exception: one of the operating system or of a library, or a
validator's. -/
inductive IngestionError
  | rejected (reason : String)
  | osError
  | libraryError
  | valueError
  deriving DecidableEq

/-- `IngestionLimits`. The ratio is a float in the source; here it is exact. -/
structure IngestionLimits where
  maxArchiveBytes : ℕ
  maxFiles : ℕ
  maxSingleFileBytes : ℕ
  maxTotalBytes : ℕ
  maxCompressionRatio : ℚ
  positive : 0 < maxArchiveBytes ∧ 0 < maxFiles ∧ 0 < maxSingleFileBytes ∧ 0 < maxTotalBytes ∧
    0 < maxCompressionRatio

/-! ## Libraries -/

/-- `unicodedata.normalize("NFC", ·)` and `str.casefold`. -/
class PythonUnicode where
  nfc : String → String
  casefold : String → String

export PythonUnicode (nfc casefold)

/-- Texts in lower-case ASCII. -/
@[reducible] def plainUnicode : PythonUnicode where
  nfc text := text
  casefold text := text

/-- `zipfile.ZipInfo`, with the content of the member, or `none` if reading it raises. -/
structure ZipInfo where
  filename : String
  externalAttr : ℕ
  isDir : Bool
  flagBits : ℕ
  fileSize : ℕ
  compressSize : ℕ
  content : Option Bytes

/-- `tarfile.TarInfo`. The stream is that of `extractfile` : there may be none, and reading
it may raise. -/
structure TarInfo where
  name : String
  isdir : Bool
  isfile : Bool
  size : ℤ
  stream : Option (Option Bytes)

class ArchiveReader where
  isZipfile : Bytes → Bool
  /-- `none` when `ZipFile` raises -/
  infolist : Bytes → Option (List ZipInfo)
  /-- `tarfile.open` returns -/
  opens : Bytes → Bool
  /-- the members in order, `none` where reading the next one raises -/
  members : Bytes → List (Option TarInfo)

class IngestionDigests where
  sha256 : Bytes → Digest
  uuid5 : String → UUID
  manifest : CanonicalDigest ManifestPayload

attribute [reducible, instance] IngestionDigests.manifest

export IngestionDigests (sha256 uuid5)

/-! ## Sources -/

/-- What `os.open` and `fstat` find at the path of an archive. -/
inductive SourceFile
  | missing
  | irregular
  | regular (name : String) (content : Bytes)
  deriving DecidableEq

/-- A local repository, with what Git prints for it, or `none` where it fails. -/
structure GitSource where
  missing : Bool
  isDirectory : Bool
  name : String
  revParse : String → Option Bytes
  lsTree : String → Option Bytes
  catFile : String → Option Bytes

/-- The values of `utc_now` that the records of an import are created with. -/
structure Clock where
  capturedAt : Time
  ingestedAt : Time
  createdAt : Time

/-! ## Text -/

def utf8 (text : String) : Bytes :=
  text.toUTF8.data.toList

theorem length_utf8 (text : String) : (utf8 text).length = text.utf8ByteSize := by
  simp [utf8]

/-- `bytes.decode("ascii", "strict")`. -/
def decodeAscii (bytes : Bytes) : Option String := do
  guard (∀ b ∈ bytes, b < 128)
  return String.ofList (bytes.map fun b => Char.ofNat b.toNat)

/-- `bytes.decode("utf-8", "strict")`. -/
def decodeUtf8 (bytes : Bytes) : Option String :=
  String.fromUTF8? ⟨bytes.toArray⟩

theorem decodeUtf8_utf8 (text : String) : decodeUtf8 (utf8 text) = some text := by
  have hbytes : (⟨(utf8 text).toArray⟩ : ByteArray) = text.toByteArray := rfl
  rw [decodeUtf8, String.fromUTF8?, hbytes, dif_pos text.isValidUTF8]
  rfl

/-- `str.strip` of an ASCII text. -/
def strip (text : String) : String :=
  String.ofList ((text.toList.dropWhile isSpace).rdropWhile isSpace)
where
  isSpace (c : Char) : Bool :=
    (9 ≤ c.toNat ∧ c.toNat ≤ 13) ∨ (28 ≤ c.toNat ∧ c.toNat ≤ 32)

/-- The decimal digits of a number, single underscores between them. -/
def readDigits : ℕ → Bool → List Char → Option ℕ
  | n, afterDigit, [] => if afterDigit then some n else none
  | n, afterDigit, c :: cs =>
    if c.isDigit then readDigits (10 * n + (c.toNat - 48)) true cs
    else if c = '_' ∧ afterDigit then readDigits n false cs
    else none

/-- `int` of bytes. -/
def readInt (bytes : Bytes) : Option ℤ := do
  let text := strip (← decodeAscii bytes)
  match text.toList with
  | '-' :: cs => return -(← readDigits 0 false cs)
  | '+' :: cs => return (← readDigits 0 false cs)
  | cs => return (← readDigits 0 false cs)

/-- `bytes.split(sep, 1)`, unpacked in two. -/
def splitFirst (sep : UInt8) (bytes : Bytes) : Option (Bytes × Bytes) :=
  match bytes.span (· ≠ sep) with
  | (before, _ :: after) => some (before, after)
  | (_, []) => none

/-- `[0-9a-f]` -/
def isLowerHex (c : Char) : Bool :=
  c.isDigit ∨ ('a' ≤ c ∧ c ≤ 'f')

/-- `[0-9a-fA-F]` -/
def isHex (c : Char) : Bool :=
  isLowerHex c ∨ ('A' ≤ c ∧ c ≤ 'F')

end VulnLoom

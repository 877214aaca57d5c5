import VulnLoom.SourceAdapters

/-!
# Repository indexing

`SourceHuntService.index_repository` in three parts : it reads the supported files of a snapshot
(`readDocuments`), has the adapters index them (`analyze`), and makes the records of the index
(`seal`). The clock is read at fixed places of the program, and any readings are possible.

The paths of a manifest are those of an import, so none has a null character.
-/

set_option linter.unusedSectionVars false

namespace VulnLoom

/-- `PurePosixPath(path).parts`. -/
def purePosixParts (path : String) : List String :=
  if posixRoot path = "" then posixParts path else posixRoot path :: posixParts path

/-- The places where the clock is read. -/
inductive ClockPlace
  | started
  | file (number : ℕ)
  | adapter (version : String)
  | finished

/-- `SourceHuntService`, as far as it indexes : the adapters, by their extensions. -/
structure IndexingService where
  adapters : List LanguageAdapter
  extensions_nodup : (adapters.flatMap LanguageAdapter.extensions).Nodup

/-- What a repository is indexed with; the root is what stands beneath the directory of the
snapshot, if there is one. -/
structure IndexingCall where
  snapshot : TargetSnapshot
  root : Option (List String → SourceFile)
  scope : Scope
  limits : SourceHuntLimits
  now : Time

section

variable [SourceHuntDigests] [PythonUrl] [PythonUnicode] [IngestionDigests]

def LanguageAdapter.supports (adapter : LanguageAdapter) (path : String) : Bool :=
  casefold (posixSuffix path) ∈ adapter.extensions

/-! ## Documents -/

/-- `_deadline`. -/
def SourceHuntLimits.deadline (limits : SourceHuntLimits) (clock : ClockPlace → ℚ)
    (place : ClockPlace) : Except SourceHuntError Unit :=
  raiseIf (limits.timeoutSeconds ≤ clock place - clock .started)
    (.timedOut "Source Hunt indexing exceeded its wall budget")

/-- `_read_verified`. -/
def readVerified (root : List String → SourceFile) (item : SnapshotFile) :
    Except SourceHuntError Bytes :=
  match root (purePosixParts item.path) with
  | .missing => .error (.rejected "manifest source file is unavailable")
  | .irregular => .error (.rejected "manifest source path is not a regular file")
  | .regular _ stored => do
    let content := stored.take (item.size + 1)
    raiseIf (content.length ≠ item.size ∨ sha256 content ≠ item.sha256)
      (.rejected "manifest source file failed integrity check")
    return content

/-- An iteration over the selected files. -/
def readDocument (limits : SourceHuntLimits) (root : List String → SourceFile)
    (item : SnapshotFile) : Except SourceHuntError SourceDocument := do
  raiseIf (limits.maxSingleFileBytes < item.size)
    (.rejected "source file exceeds Source Hunt single-file limit")
  let content ← readVerified root item
  let text ← orRaise (decodeUtf8 content) (.rejected "source file is not valid UTF-8")
  return ⟨item.path, item.sha256, text⟩

/-- The iterations, from the one of a number on. -/
def readFrom (limits : SourceHuntLimits) (clock : ClockPlace → ℚ)
    (root : List String → SourceFile) :
    ℕ → List SnapshotFile → Except SourceHuntError (List SourceDocument)
  | _, [] => return []
  | number, item :: items => do
    limits.deadline clock (.file number)
    let document ← readDocument limits root item
    let documents ← readFrom limits clock root (number + 1) items
    return document :: documents

/-! ## Records -/

/-- `SourceFileRecord`. -/
def SourceFileRecord.create (path : String) (language : SourceLanguage) (size : ℕ)
    (sha256 : Digest) : Except SourceHuntError SourceFileRecord := do
  raiseIf (path.length < 1 ∨ 512 < path.length) (.validationError "SourceFileRecord.path")
  return ⟨path, language, size, sha256⟩

/-- `SourcePartition.create`. -/
def SourcePartition.create (ordinal : ℕ) (paths : List String) (totalBytes : ℕ) :
    Except SourceHuntError SourcePartition := do
  raiseIf (paths.length < 1 ∨ 2000 < paths.length) (.validationError "SourcePartition.paths")
  if h : paths.Pairwise (· ≤ ·) ∧ paths.Nodup then return ⟨ordinal, paths, totalBytes, h⟩
  else .error (.validationError "SourcePartition paths must be sorted and unique")

/-- `RepositoryIndex.create`. -/
def RepositoryIndex.create (call : IndexingCall) (adapterVersions : List (SourceLanguage × String))
    (sourceFiles : List SourceFileRecord) (filesIndexed : List String)
    (symbols : List SourceSymbol) (references : List SourceReference)
    (buildSystems : List BuildSystem) (partitions : List SourcePartition)
    (skippedFiles : List String) : Except SourceHuntError RepositoryIndex := do
  raiseIf (10000 < partitions.length) (.validationError "RepositoryIndex.partitions")
  if h : filesIndexed.Pairwise (· ≤ ·) ∧ filesIndexed.Nodup ∧
      (∀ path ∈ filesIndexed, path ∉ skippedFiles) ∧
      sourceFiles.map (fun item => item.path) = filesIndexed ∧
      partitions.map (fun item => item.ordinal) = List.range partitions.length then
    return {
      targetId := call.snapshot.target.targetId
      targetVersion := call.snapshot.target.version
      scopeId := call.scope.scopeId
      scopeVersion := call.scope.version
      manifestId := call.snapshot.manifest.manifestId
      adapterVersions := adapterVersions
      sourceFiles := sourceFiles
      filesIndexed := filesIndexed
      symbols := symbols
      references := references
      buildSystems := buildSystems
      partitions := partitions
      skippedFiles := skippedFiles
      files_sorted := h.1
      files_nodup := h.2.1
      files_disjoint := h.2.2.1
      files_bound := h.2.2.2.1
      partitions_contiguous := h.2.2.2.2 }
  else .error (.validationError "RepositoryIndex")

/-- `detect_build_systems`. -/
def detectBuildSystems (paths : List String) : List BuildSystem :=
  let names := paths.map fun path => casefold (posixName path)
  (if "pyproject.toml" ∈ names then [.pyproject] else []) ++
    (if ∃ name ∈ names, name.startsWith "requirements" ∧ name.endsWith ".txt" then
      [.requirements] else []) ++
    (if "package.json" ∈ names then [.npm] else [])

/-- The group of a path : its first directory. -/
def partitionGroup (path : String) : String :=
  match purePosixParts path with
  | first :: _ :: _ => first
  | _ => "."

/-- The chunks of a list of a length, of which the last may be shorter. -/
def chunks {α : Type} (maximum : ℕ) (items : List α) : List (List α) :=
  (List.range ((items.length + maximum - 1) / maximum)).map fun k =>
    (items.drop (k * maximum)).take maximum

/-- The chunks of the groups, in the order of their names. -/
def partitionChunks (files : List SnapshotFile) (maximum : ℕ) : List (List SnapshotFile) :=
  (sortedSet (files.map fun item => partitionGroup item.path)).flatMap fun group =>
    chunks maximum (files.filter fun item => partitionGroup item.path = group)

/-- `_partitions`. -/
def sourcePartitions (files : List SnapshotFile) (maximum : ℕ) :
    Except SourceHuntError (List SourcePartition) :=
  (partitionChunks files maximum).zipIdx.mapM fun (chunk, ordinal) =>
    SourcePartition.create ordinal (chunk.map fun item => item.path)
      (chunk.map fun item => item.size).sum

namespace IndexingService

variable (service : IndexingService)

/-- The adapter of a path. -/
def adapterOf (path : String) : Option LanguageAdapter :=
  service.adapters.find? fun adapter => adapter.supports path

/-- The files of a snapshot that an adapter supports. -/
def selected (snapshot : TargetSnapshot) : List SnapshotFile :=
  (Table.orderBy (fun item : SnapshotFile => item.path) snapshot.manifest.files).filter fun item =>
    service.adapters.any fun adapter => adapter.supports item.path

/-- The documents of the selected files. -/
def readDocuments (call : IndexingCall) (clock : ClockPlace → ℚ) :
    Except SourceHuntError (List SourceDocument) := do
  raiseIf (call.snapshot.rootRef = none)
    (.rejected "Source Hunt requires a filesystem snapshot")
  let root ← orRaise call.root
    (.rejected "Source Hunt snapshot root is unavailable or unsafe")
  let selected := service.selected call.snapshot
  raiseIf (call.limits.maxFiles < selected.length)
    (.rejected "repository exceeds Source Hunt file limit")
  raiseIf (call.limits.maxTotalBytes < (selected.map fun item => item.size).sum)
    (.rejected "repository exceeds Source Hunt byte limit")
  readFrom call.limits clock root 0 selected

/-- What an adapter makes of the documents it supports, if there are any. -/
def analyzeWith (limits : SourceHuntLimits) (clock : ClockPlace → ℚ)
    (documents : List SourceDocument) (adapter : LanguageAdapter) :
    Except IndexingError (Option LanguageIndex) :=
  let supported := documents.filter fun document => adapter.supports document.path
  if supported = [] then return none
  else do
    (limits.deadline clock (.adapter adapter.version)).mapError .sourceHunt
    let index ← adapter.index supported
    return some index

/-- What the adapters make of the documents. -/
def analyze (limits : SourceHuntLimits) (clock : ClockPlace → ℚ)
    (documents : List SourceDocument) : Except IndexingError (List (Option LanguageIndex)) := do
  let indexes ← service.adapters.mapM (analyzeWith limits clock documents)
  (limits.deadline clock .finished).mapError .sourceHunt
  return indexes

/-- The record of a selected file. -/
def sourceFile (item : SnapshotFile) : Except SourceHuntError SourceFileRecord := do
  let adapter ← orRaise (service.adapterOf item.path) .keyError
  SourceFileRecord.create item.path
    (if casefold (posixSuffix item.path) ∈ [".ts", ".tsx"] then .typescript else adapter.language)
    item.size item.sha256

/-- The records of the index. -/
def sealIndex (call : IndexingCall) (indexes : List (Option LanguageIndex)) :
    Except SourceHuntError RepositoryIndex := do
  let selected := service.selected call.snapshot
  let files := selected.map fun item => item.path
  let records ← selected.mapM service.sourceFile
  let partitions ← sourcePartitions selected call.limits.maxFilesPerPartition
  let found := indexes.filterMap id
  RepositoryIndex.create call
    ((service.adapters.zip indexes).filterMap fun (adapter, index) =>
      index.map fun _ => (adapter.language, adapter.version))
    records files
    (Table.orderBy SourceSymbol.symbolId (found.flatMap LanguageIndex.symbols))
    (Table.orderBy SourceReference.referenceId (found.flatMap LanguageIndex.references))
    (detectBuildSystems (call.snapshot.manifest.files.map fun item => item.path))
    partitions
    (((Table.orderBy (fun item : SnapshotFile => item.path) call.snapshot.manifest.files).map
      fun item => item.path).filter (· ∉ files))

/-- `SourceHuntService.index_repository`. -/
def indexRepository (call : IndexingCall) (clock : ClockPlace → ℚ) :
    Except IndexingError RepositoryIndex := do
  (requireSnapshotScope call.snapshot call.scope call.now).mapError .snapshot
  let documents ← (service.readDocuments call clock).mapError .sourceHunt
  let indexes ← service.analyze call.limits clock documents
  (service.sealIndex call indexes).mapError .sourceHunt

end IndexingService

/-! ## What the parts return -/

/-- An exception that `index_repository` declares. -/
def SourceHuntError.IsDeclared : SourceHuntError → Prop
  | .rejected _ => True
  | .timedOut _ => True
  | _ => False

def IndexingError.IsDeclared : IndexingError → Prop
  | .sourceHunt e => e.IsDeclared
  | _ => False

/-- The text of a selected file, if it passes the limit of its size and is as the manifest says. -/
def SnapshotFile.HasText (item : SnapshotFile) (limits : SourceHuntLimits)
    (root : List String → SourceFile) (text : String) : Prop :=
  item.size ≤ limits.maxSingleFileBytes ∧
    ∃ name content, root (purePosixParts item.path) = .regular name content ∧
      content.length = item.size ∧ IngestionDigests.sha256 content = item.sha256 ∧
        decodeUtf8 content = some text

def SnapshotFile.document (item : SnapshotFile) (text : String) : SourceDocument :=
  ⟨item.path, item.sha256, text⟩

section

variable {limits : SourceHuntLimits} {clock : ClockPlace → ℚ} {root : List String → SourceFile}

theorem take_of_length {content : Bytes} {size : ℕ} (h : (content.take (size + 1)).length = size) :
    content.take (size + 1) = content ∧ content.length = size := by
  rw [List.length_take] at h
  have hlength : content.length = size := by omega
  exact ⟨List.take_of_length_le (by omega), hlength⟩

variable {item : SnapshotFile}

theorem readVerified_ok {content : Bytes} : readVerified root item = .ok content ↔
      ∃ name, root (purePosixParts item.path) = .regular name content ∧
        content.length = item.size ∧ sha256 content = item.sha256 := by
  unfold readVerified
  split
  · next hfile => simp [hfile]
  · next hfile => simp [hfile]
  · next name stored hfile =>
    simp only [bind_eq_ok, raiseIf_eq_ok, pure_eq_ok, not_or, not_not, hfile,
      SourceFile.regular.injEq]
    constructor
    · rintro ⟨-, ⟨hlength, hdigest⟩, rfl⟩
      obtain ⟨htake, hlength⟩ := take_of_length hlength
      rw [htake] at hdigest ⊢
      exact ⟨name, ⟨rfl, rfl⟩, hlength, hdigest⟩
    · rintro ⟨_, ⟨rfl, rfl⟩, hlength, hdigest⟩
      have htake : stored.take (item.size + 1) = stored := List.take_of_length_le (by omega)
      rw [htake]
      exact ⟨(), ⟨hlength, hdigest⟩, rfl⟩

theorem readDocument_ok {document : SourceDocument} : readDocument limits root item = .ok document ↔
      ∃ text, item.HasText limits root text ∧ document = item.document text := by
  simp only [readDocument, bind_eq_ok, raiseIf_eq_ok, orRaise_eq_ok, pure_eq_ok, readVerified_ok,
    not_lt, SnapshotFile.HasText, SnapshotFile.document]
  constructor
  · rintro ⟨-, hsize, content, ⟨name, hfile, hlength, hdigest⟩, text, htext, rfl⟩
    exact ⟨text, ⟨hsize, name, content, hfile, hlength, hdigest, htext⟩, rfl⟩
  · rintro ⟨text, ⟨hsize, name, content, hfile, hlength, hdigest, htext⟩, rfl⟩
    exact ⟨(), hsize, content, ⟨name, hfile, hlength, hdigest⟩, text, htext, rfl⟩

variable {e : SourceHuntError}

theorem readVerified_error (h : readVerified root item = .error e) : e.IsDeclared := by
  unfold readVerified at h
  split at h
  · cases h
    trivial
  · cases h
    trivial
  · simp only [bind_eq_error, raiseIf_eq_error, pure_ne_error, and_false, exists_false,
      or_false] at h
    rw [← h.2]
    trivial

theorem readDocument_error (h : readDocument limits root item = .error e) : e.IsDeclared := by
  simp only [readDocument, bind_eq_error, raiseIf_eq_error, orRaise_eq_error, pure_ne_error,
    and_false, exists_false, or_false] at h
  rcases h with ⟨-, rfl⟩ | ⟨-, -, h | ⟨content, -, -, rfl⟩⟩
  · trivial
  · exact readVerified_error h
  · trivial

theorem deadline_error {place : ClockPlace} (h : limits.deadline clock place = .error e) :
    e.IsDeclared := by
  rw [SourceHuntLimits.deadline, raiseIf_eq_error] at h
  rw [← h.2]
  trivial

/-- A clock that stands still is never late. -/
theorem deadline_still (place : ClockPlace) : limits.deadline (fun _ => 0) place = .ok () := by
  rw [SourceHuntLimits.deadline, raiseIf_eq_ok, sub_self]
  exact Rat.not_le.2 limits.timeout_bounds.1

theorem readFrom_ok : ∀ {items : List SnapshotFile} {number : ℕ} {documents : List SourceDocument},
    readFrom limits clock root number items = .ok documents →
      items.mapM (readDocument limits root) = .ok documents
  | [], number, documents, h => h
  | item :: items, number, documents, h => by
    simp only [readFrom, bind_eq_ok, pure_eq_ok] at h
    obtain ⟨-, -, document, hdocument, rest, hrest, rfl⟩ := h
    rw [List.mapM_cons, hdocument, ok_bind, readFrom_ok hrest]
    rfl

theorem readFrom_error : ∀ {items : List SnapshotFile} {number : ℕ} {e : SourceHuntError},
    readFrom limits clock root number items = .error e → e.IsDeclared
  | [], number, e, h => absurd h pure_ne_error
  | item :: items, number, e, h => by
    simp only [readFrom, bind_eq_error, pure_ne_error, and_false, exists_false, or_false] at h
    rcases h with h | ⟨-, -, h | ⟨document, -, h⟩⟩
    · exact deadline_error h
    · exact readDocument_error h
    · exact readFrom_error h

theorem readFrom_still : ∀ {items : List SnapshotFile} (number : ℕ),
    (∀ item ∈ items, ∃ document, readDocument limits root item = .ok document) →
      ∃ documents, readFrom limits (fun _ => 0) root number items = .ok documents
  | [], _, _ => ⟨[], rfl⟩
  | item :: items, number, h => by
    obtain ⟨document, hdocument⟩ := h item List.mem_cons_self
    obtain ⟨documents, hdocuments⟩ := readFrom_still (number + 1)
      fun other hother => h other (List.mem_cons_of_mem _ hother)
    refine ⟨document :: documents, ?_⟩
    rw [readFrom, deadline_still, ok_bind, hdocument, ok_bind, hdocuments]
    rfl

end

/-! ### The records -/

variable {maximum : ℕ}

theorem mem_chunks {α : Type} (hmax : 1 ≤ maximum) {items chunk : List α}
    (h : chunk ∈ chunks maximum items) :
    1 ≤ chunk.length ∧ chunk.length ≤ maximum ∧ chunk.Sublist items := by
  obtain ⟨k, hk, rfl⟩ := List.mem_map.1 h
  have hlt : k * maximum < items.length := by
    have hle := (Nat.le_div_iff_mul_le hmax).1 (List.mem_range.1 hk)
    rw [Nat.succ_mul] at hle
    omega
  refine ⟨?_, ?_, (List.take_sublist _ _).trans (List.drop_sublist _ _)⟩
  · rw [List.length_take, List.length_drop]
    omega
  · rw [List.length_take]
    omega

/-- The number of the partitions of some files : of each group, the number of its chunks. -/
def partitionCount (files : List SnapshotFile) (maximum : ℕ) : ℕ :=
  ((sortedSet (files.map fun item => partitionGroup item.path)).map fun group =>
    ((files.filter fun item => partitionGroup item.path = group).length + maximum - 1) /
      maximum).sum

theorem length_partitionChunks (files : List SnapshotFile) (maximum : ℕ) :
    (partitionChunks files maximum).length = partitionCount files maximum := by
  simp only [partitionChunks, partitionCount, List.length_flatMap, chunks, List.length_map,
    List.length_range]

variable {files : List SnapshotFile}

theorem mem_partitionChunks (hmax : 1 ≤ maximum) {chunk : List SnapshotFile}
    (h : chunk ∈ partitionChunks files maximum) :
    1 ≤ chunk.length ∧ chunk.length ≤ maximum ∧ chunk.Sublist files := by
  obtain ⟨group, -, hchunk⟩ := List.mem_flatMap.1 h
  obtain ⟨hne, hle, hsub⟩ := mem_chunks hmax hchunk
  exact ⟨hne, hle, hsub.trans List.filter_sublist⟩

theorem SourcePartition.create_ok {ordinal totalBytes : ℕ} {paths : List String}
    {partition : SourcePartition} (h : create ordinal paths totalBytes = .ok partition) :
    partition.ordinal = ordinal := by
  simp only [create, bind_eq_ok, raiseIf_eq_ok] at h
  obtain ⟨-, -, h⟩ := h
  split_ifs at h
  rw [← pure_eq_ok.1 h]

theorem SourcePartition.create_isOk {ordinal totalBytes : ℕ} {paths : List String}
    (hlength : 1 ≤ paths.length ∧ paths.length ≤ 2000)
    (hsorted : paths.Pairwise (· ≤ ·) ∧ paths.Nodup) :
    ∃ partition, create ordinal paths totalBytes = .ok partition := by
  refine ⟨⟨ordinal, paths, totalBytes, hsorted⟩, ?_⟩
  simp only [create, bind_eq_ok, raiseIf_eq_ok, not_or, not_lt, dif_pos hsorted, pure_eq_ok]
  exact ⟨(), hlength, trivial⟩

variable {partitions : List SourcePartition}

theorem sourcePartitions_ok (h : sourcePartitions files maximum = .ok partitions) :
    partitions.length = partitionCount files maximum ∧
      partitions.map (fun item => item.ordinal) = List.range partitions.length := by
  have hall := mapM_eq_ok.1 h
  have hlength := hall.length_eq
  rw [List.length_zipIdx, length_partitionChunks] at hlength
  refine ⟨hlength.symm, ?_⟩
  have hordinals : ∀ {chunks : List (List SnapshotFile × ℕ)} {parts : List SourcePartition},
      List.Forall₂ (fun chunk part => SourcePartition.create chunk.2
        (chunk.1.map fun item => item.path) (chunk.1.map fun item => item.size).sum = .ok part)
          chunks parts → parts.map (fun item => item.ordinal) = chunks.map Prod.snd := by
    intro chunks parts hparts
    induction hparts with
    | nil => rfl
    | cons hcreate _ ih =>
      rw [List.map_cons, List.map_cons, ih, SourcePartition.create_ok hcreate]
  rw [hordinals hall, List.zipIdx_map_snd, length_partitionChunks, ← hlength,
    List.range_eq_range']

/-- The partitions of files that are sorted by their paths, where no path occurs twice. -/
theorem sourcePartitions_isOk (hmax : 1 ≤ maximum ∧ maximum ≤ 2000)
    (hsorted : (files.map fun item => item.path).Pairwise (· ≤ ·) ∧
      (files.map fun item => item.path).Nodup) :
    ∃ partitions, sourcePartitions files maximum = .ok partitions := by
  refine mapM_isOk.2 fun ⟨chunk, ordinal⟩ hchunk => ?_
  obtain ⟨hne, hle, hsub⟩ := mem_partitionChunks hmax.1 (List.fst_mem_of_mem_zipIdx hchunk)
  have hpaths := hsub.map fun item : SnapshotFile => item.path
  refine SourcePartition.create_isOk ?_ ⟨hsorted.1.sublist hpaths, hsorted.2.sublist hpaths⟩
  rw [List.length_map]
  exact ⟨hne, hle.trans hmax.2⟩

theorem SourceFileRecord.create_ok {path : String} {language : SourceLanguage} {size : ℕ}
    {digest : Digest} {record : SourceFileRecord} :
    create path language size digest = .ok record ↔
      (1 ≤ path.length ∧ path.length ≤ 512) ∧ record = ⟨path, language, size, digest⟩ := by
  simp only [create, bind_eq_ok, raiseIf_eq_ok, pure_eq_ok, not_or, not_lt]
  constructor
  · rintro ⟨-, hlength, rfl⟩
    exact ⟨hlength, rfl⟩
  · rintro ⟨hlength, rfl⟩
    exact ⟨(), hlength, rfl⟩

theorem RepositoryIndex.create_isOk (call : IndexingCall)
    {adapterVersions : List (SourceLanguage × String)} {sourceFiles : List SourceFileRecord}
    {filesIndexed : List String} {symbols : List SourceSymbol} {references : List SourceReference}
    {buildSystems : List BuildSystem} {skippedFiles : List String}
    (hcount : partitions.length ≤ 10000)
    (h : filesIndexed.Pairwise (· ≤ ·) ∧ filesIndexed.Nodup ∧
      (∀ path ∈ filesIndexed, path ∉ skippedFiles) ∧
      sourceFiles.map (fun item => item.path) = filesIndexed ∧
      partitions.map (fun item => item.ordinal) = List.range partitions.length) :
    ∃ index, create call adapterVersions sourceFiles filesIndexed symbols references buildSystems
      partitions skippedFiles = .ok index := by
  simp only [create, bind_eq_ok, raiseIf_eq_ok, not_lt, dif_pos h, pure_eq_ok]
  exact ⟨_, (), hcount, rfl⟩

namespace IndexingService

variable {service : IndexingService} {call : IndexingCall}
variable {item : SnapshotFile}

theorem mem_selected {snapshot : TargetSnapshot} :
    item ∈ service.selected snapshot ↔ item ∈ snapshot.manifest.files ∧
      ∃ adapter ∈ service.adapters, adapter.supports item.path = true := by
  rw [selected, List.mem_filter, Table.mem_orderBy, List.any_eq_true]

theorem selected_sorted (snapshot : TargetSnapshot) :
    ((service.selected snapshot).map fun item => item.path).Pairwise (· ≤ ·) := by
  rw [List.pairwise_map]
  exact (List.pairwise_insertionSort (fun a b : SnapshotFile => a.path ≤ b.path) _).filter _

theorem sourceFile_ok {record : SourceFileRecord} (h : service.sourceFile item = .ok record) :
    (1 ≤ item.path.length ∧ item.path.length ≤ 512) ∧ record.path = item.path ∧
      record.size = item.size ∧ record.sha256 = item.sha256 := by
  simp only [sourceFile, bind_eq_ok] at h
  obtain ⟨adapter, -, h⟩ := h
  obtain ⟨hlength, rfl⟩ := SourceFileRecord.create_ok.1 h
  exact ⟨hlength, rfl, rfl, rfl⟩

theorem sourceFiles_paths {items : List SnapshotFile} {records : List SourceFileRecord}
    (h : items.mapM service.sourceFile = .ok records) :
    records.map (fun item => item.path) = items.map fun item => item.path := by
  have hall := mapM_eq_ok.1 h
  clear h
  induction hall with
  | nil => rfl
  | cons hrecord _ ih => rw [List.map_cons, List.map_cons, ih, (sourceFile_ok hrecord).2.1]

theorem sourceFile_isOk (hitem : item ∈ service.selected call.snapshot)
    (hlength : 1 ≤ item.path.length ∧ item.path.length ≤ 512) :
    ∃ record, service.sourceFile item = .ok record := by
  obtain ⟨-, adapter, hadapter, hsupports⟩ := mem_selected.1 hitem
  cases hfind : service.adapterOf item.path with
  | none => exact absurd hsupports (by simpa using List.find?_eq_none.1 hfind adapter hadapter)
  | some found =>
    simp only [sourceFile, bind_eq_ok, hfind, orRaise_eq_ok, Option.some.injEq]
    exact ⟨_, found, rfl, SourceFileRecord.create_ok.2 ⟨hlength, rfl⟩⟩

/-- What the records of the index are made of is within their bounds. -/
structure Recorded (service : IndexingService) (call : IndexingCall) : Prop where
  paths : ∀ item ∈ service.selected call.snapshot, 1 ≤ item.path.length ∧ item.path.length ≤ 512
  nodup : ((service.selected call.snapshot).map fun item => item.path).Nodup
  partitions : partitionCount (service.selected call.snapshot)
    call.limits.maxFilesPerPartition ≤ 10000

variable {indexes : List (Option LanguageIndex)} {index : RepositoryIndex}

theorem sealIndex_ok (h : service.sealIndex call indexes = .ok index) :
    service.Recorded call ∧ (service.selected call.snapshot).mapM service.sourceFile =
        .ok index.sourceFiles ∧
      index.filesIndexed = ((service.selected call.snapshot).map fun item => item.path) ∧
      index.symbols = Table.orderBy SourceSymbol.symbolId
        ((indexes.filterMap id).flatMap LanguageIndex.symbols) := by
  simp only [sealIndex, bind_eq_ok, RepositoryIndex.create, raiseIf_eq_ok, not_lt] at h
  obtain ⟨records, hrecords, partitions, hpartitions, -, hcount, h⟩ := h
  split_ifs at h with hchecks
  rw [← pure_eq_ok.1 h]
  refine ⟨⟨fun item hitem => ?_, hchecks.2.1, ?_⟩, hrecords, rfl, rfl⟩
  · obtain ⟨record, hrecord⟩ := exists_ok_of_mapM hrecords item hitem
    exact (sourceFile_ok hrecord).1
  · rwa [(sourcePartitions_ok hpartitions).1] at hcount

theorem sealIndex_isOk (h : service.Recorded call) (indexes : List (Option LanguageIndex)) :
    ∃ index, service.sealIndex call indexes = .ok index := by
  obtain ⟨records, hrecords⟩ := mapM_isOk.2 fun item hitem =>
    sourceFile_isOk hitem (h.paths item hitem)
  obtain ⟨partitions, hpartitions⟩ := sourcePartitions_isOk
    ⟨call.limits.file_bounds.2.2.2.2.1, call.limits.file_bounds.2.2.2.2.2⟩
    ⟨selected_sorted call.snapshot, h.nodup⟩
  have hpaths := sourceFiles_paths hrecords
  obtain ⟨hlength, hordinals⟩ := sourcePartitions_ok hpartitions
  have hskipped : ∀ path ∈ (service.selected call.snapshot).map fun item => item.path,
      path ∉ ((Table.orderBy (fun item : SnapshotFile => item.path)
        call.snapshot.manifest.files).map fun item => item.path).filter
          (· ∉ (service.selected call.snapshot).map fun item => item.path) :=
    fun path hpath hskipped => of_decide_eq_true (List.mem_filter.1 hskipped).2 hpath
  simp only [sealIndex, bind_eq_ok]
  obtain ⟨index, hindex⟩ := RepositoryIndex.create_isOk call
    (by rw [hlength]; exact h.partitions)
    ⟨selected_sorted call.snapshot, h.nodup, hskipped, hpaths, hordinals⟩
  exact ⟨index, records, hrecords, partitions, hpartitions, hindex⟩

theorem not_isDeclared_sealIndex {e : SourceHuntError}
    (h : service.sealIndex call indexes = .error e) : ¬e.IsDeclared := by
  simp only [sealIndex, bind_eq_error, RepositoryIndex.create, raiseIf_eq_error] at h
  rcases h with h | ⟨records, -, h | ⟨partitions, -, ⟨-, rfl⟩ | ⟨-, -, h⟩⟩⟩
  · obtain ⟨item, -, h⟩ := exists_error_of_mapM h
    simp only [sourceFile, SourceFileRecord.create, bind_eq_error, orRaise_eq_error,
      raiseIf_eq_error, pure_ne_error, and_false, exists_false, or_false] at h
    rcases h with ⟨-, rfl⟩ | ⟨-, -, -, rfl⟩ <;> exact id
  · obtain ⟨⟨chunk, ordinal⟩, -, h⟩ := exists_error_of_mapM h
    simp only [SourcePartition.create, bind_eq_error, raiseIf_eq_error] at h
    rcases h with ⟨-, rfl⟩ | ⟨-, -, h⟩
    · exact id
    · split_ifs at h
      · exact absurd h pure_ne_error
      · rw [← Except.error.inj h]
        exact id
  · exact id
  · split_ifs at h
    · exact absurd h pure_ne_error
    · rw [← Except.error.inj h]
      exact id

/-! ### The adapters -/

theorem not_isDeclared_located {item : Located} {e : SourceHuntError}
    (h : item.create = .error e) : ¬e.IsDeclared := by
  simp only [Located.create, SourceLocation.create, SourceSymbol.create, bind_eq_error,
    raiseIf_eq_error, pure_ne_error, and_false, exists_false, or_false] at h
  rcases h with ⟨-, rfl⟩ | ⟨-, -, -, rfl⟩ <;> exact id

theorem not_isDeclared_pending {language : SourceLanguage} {symbols : List SourceSymbol}
    {call : Pending} {e : SourceHuntError} (h : call.create language symbols = .error e) :
    ¬e.IsDeclared := by
  simp only [Pending.create, SourceLocation.create, SourceReference.create, bind_eq_error,
    raiseIf_eq_error, pure_ne_error, and_false, exists_false, or_false] at h
  rcases h with ⟨-, rfl⟩ | ⟨-, -, -, rfl⟩ <;> exact id

variable {e : IndexingError} {adapter : LanguageAdapter}

/-- An adapter raises what `index_repository` does not declare. -/
theorem not_isDeclared_index {documents : List SourceDocument}
    (h : adapter.index documents = .error e) : ¬e.IsDeclared := by
  simp only [LanguageAdapter.index, bind_eq_error, mapError_eq_error, resolve, pure_ne_error,
    and_false, exists_false, or_false] at h
  rcases h with h | ⟨parts, -, _, h, rfl⟩
  · obtain ⟨document, -, h⟩ := exists_error_of_mapM h
    simp only [LanguageAdapter.indexDocument, bind_eq_error, mapError_eq_error, pure_ne_error,
      and_false, exists_false, or_false] at h
    rcases h with hlocate | ⟨located, -, _, hcreate, rfl⟩
    · rw [adapter.raises hlocate]
      exact id
    · obtain ⟨item, -, hitem⟩ := exists_error_of_mapM hcreate
      exact not_isDeclared_located hitem
  · obtain ⟨pending, -, h⟩ := exists_error_of_mapM h
    exact not_isDeclared_pending h

variable {clock : ClockPlace → ℚ} {documents : List SourceDocument}

/-- The documents of an adapter fit. -/
def DocumentsFit (documents : List SourceDocument) (adapter : LanguageAdapter) : Prop :=
  ∀ document ∈ documents, adapter.supports document.path = true → adapter.Fits document

variable {limits : SourceHuntLimits}

theorem analyzeWith_error (hpaths : ∀ document ∈ documents, document.path ≠ "")
    (hfits : DocumentsFit documents adapter)
    (h : analyzeWith limits clock documents adapter = .error e) : e.IsDeclared := by
  unfold analyzeWith at h
  dsimp only at h
  split_ifs at h with hnone
  · exact absurd h pure_ne_error
  · simp only [bind_eq_error, mapError_eq_error, pure_ne_error, and_false, exists_false,
      or_false] at h
    rcases h with ⟨_, h, rfl⟩ | ⟨-, -, h⟩
    · exact deadline_error h
    · obtain ⟨index, hindex⟩ := (LanguageAdapter.index_isOk_iff fun document hdocument =>
        hpaths document (List.mem_filter.1 hdocument).1).2 fun document hdocument =>
          hfits document (List.mem_filter.1 hdocument).1 (List.mem_filter.1 hdocument).2
      rw [hindex] at h
      cases h

theorem analyzeWith_still (h : analyzeWith limits (fun _ => 0) documents adapter = .error e) :
    ¬e.IsDeclared := by
  unfold analyzeWith at h
  dsimp only at h
  split_ifs at h with hnone
  · exact absurd h pure_ne_error
  · rw [deadline_still] at h
    simp only [bind_eq_error, mapError_eq_error, pure_ne_error, and_false, exists_false,
      or_false] at h
    rcases h with ⟨_, h, -⟩ | ⟨-, -, h⟩
    · cases h
    · exact not_isDeclared_index h

theorem fits_of_analyzeWith {index : Option LanguageIndex}
    (hpaths : ∀ document ∈ documents, document.path ≠ "")
    (h : analyzeWith limits clock documents adapter = .ok index) :
    DocumentsFit documents adapter := by
  intro document hdocument hsupports
  have hmem : document ∈ documents.filter fun document => adapter.supports document.path :=
    List.mem_filter.2 ⟨hdocument, hsupports⟩
  unfold analyzeWith at h
  dsimp only at h
  split_ifs at h with hnone
  · rw [hnone] at hmem
    cases hmem
  · simp only [bind_eq_ok, mapError_eq_ok] at h
    obtain ⟨-, -, found, hindex, -⟩ := h
    exact (LanguageAdapter.index_isOk_iff fun other hother =>
      hpaths other (List.mem_filter.1 hother).1).1 ⟨found, hindex⟩ document hmem

theorem analyze_error (hpaths : ∀ document ∈ documents, document.path ≠ "")
    (hfits : ∀ adapter ∈ service.adapters, DocumentsFit documents adapter)
    (h : service.analyze limits clock documents = .error e) : e.IsDeclared := by
  simp only [analyze, bind_eq_error, mapError_eq_error, pure_ne_error, and_false, exists_false,
    or_false] at h
  rcases h with h | ⟨_, -, _, h, rfl⟩
  · obtain ⟨adapter, hadapter, h⟩ := exists_error_of_mapM h
    exact analyzeWith_error hpaths (hfits adapter hadapter) h
  · exact deadline_error h

theorem analyze_still (h : service.analyze limits (fun _ => 0) documents = .error e) :
    ¬e.IsDeclared := by
  simp only [analyze, bind_eq_error, mapError_eq_error, pure_ne_error, and_false, exists_false,
    or_false] at h
  rcases h with h | ⟨_, -, _, h, -⟩
  · obtain ⟨adapter, -, h⟩ := exists_error_of_mapM h
    exact analyzeWith_still h
  · rw [deadline_still] at h
    cases h

theorem fits_of_analyze (hpaths : ∀ document ∈ documents, document.path ≠ "")
    (h : service.analyze limits clock documents = .ok indexes) :
    ∀ adapter ∈ service.adapters, DocumentsFit documents adapter := by
  intro adapter hadapter
  simp only [analyze, bind_eq_ok] at h
  obtain ⟨_, hindexes, -⟩ := h
  obtain ⟨index, hindex⟩ := exists_ok_of_mapM hindexes adapter hadapter
  exact fits_of_analyzeWith hpaths hindex

/-! ### The whole -/

/-- The checks before the adapters pass : the snapshot has a directory, and its supported files are
not too many or too large, and have the texts that the manifest says. -/
structure Readable (service : IndexingService) (call : IndexingCall) : Prop where
  rootRef : call.snapshot.rootRef ≠ none
  files : (service.selected call.snapshot).length ≤ call.limits.maxFiles
  bytes : ((service.selected call.snapshot).map fun item => item.size).sum ≤
    call.limits.maxTotalBytes
  texts : ∃ root, call.root = some root ∧ ∀ item ∈ service.selected call.snapshot, ∃ text,
    item.HasText call.limits root text

/-- What the index is made of is within the bounds of its records. -/
structure Bounded (service : IndexingService) (call : IndexingCall) : Prop
    extends service.Recorded call where
  fits : ∀ root, call.root = some root → ∀ item ∈ service.selected call.snapshot, ∀ text,
    item.HasText call.limits root text → ∀ adapter ∈ service.adapters,
      adapter.supports item.path = true → adapter.Fits (item.document text)

/-- The index has a record of every supported file. -/
def Covers (service : IndexingService) (snapshot : TargetSnapshot) (index : RepositoryIndex) :
    Prop :=
  ∀ item ∈ snapshot.manifest.files,
    (∃ adapter ∈ service.adapters, adapter.supports item.path = true) →
      item.path ∈ index.filesIndexed ∧ ∃ record ∈ index.sourceFiles,
        record.path = item.path ∧ record.size = item.size ∧ record.sha256 = item.sha256

/-- The call returns an index that covers every supported file, or raises what it declares, however
the clock runs. -/
def Total (service : IndexingService) (call : IndexingCall) : Prop :=
  ∀ clock,
    (∃ index, service.indexRepository call clock = .ok index ∧
      service.Covers call.snapshot index) ∨
    ∃ e, service.indexRepository call clock = .error e ∧ e.IsDeclared

theorem readDocuments_ok (h : service.readDocuments call clock = .ok documents) :
    service.Readable call ∧ ∃ root, call.root = some root ∧
      (service.selected call.snapshot).mapM (readDocument call.limits root) = .ok documents := by
  simp only [readDocuments, bind_eq_ok, raiseIf_eq_ok, orRaise_eq_ok, not_lt] at h
  obtain ⟨-, href, root, hroot, -, hfiles, -, hbytes, h⟩ := h
  have hall := readFrom_ok h
  refine ⟨⟨href, hfiles, hbytes, root, hroot, fun item hitem => ?_⟩, root, hroot, hall⟩
  obtain ⟨document, hdocument⟩ := exists_ok_of_mapM hall item hitem
  obtain ⟨text, htext, -⟩ := readDocument_ok.1 hdocument
  exact ⟨text, htext⟩

theorem readDocuments_error {e : SourceHuntError}
    (h : service.readDocuments call clock = .error e) : e.IsDeclared := by
  simp only [readDocuments, bind_eq_error, raiseIf_eq_error, orRaise_eq_error] at h
  rcases h with ⟨-, rfl⟩ | ⟨-, -, ⟨-, rfl⟩ | ⟨root, -, ⟨-, rfl⟩ | ⟨-, -, ⟨-, rfl⟩ | ⟨-, -, h⟩⟩⟩⟩
  · trivial
  · trivial
  · trivial
  · trivial
  · exact readFrom_error h

theorem readDocuments_still (h : service.Readable call) :
    ∃ documents, service.readDocuments call (fun _ => 0) = .ok documents := by
  obtain ⟨href, hfiles, hbytes, root, hroot, htexts⟩ := h
  have hread : ∀ item ∈ service.selected call.snapshot,
      ∃ document, readDocument call.limits root item = .ok document := by
    intro item hitem
    obtain ⟨text, htext⟩ := htexts item hitem
    exact ⟨_, readDocument_ok.2 ⟨text, htext, rfl⟩⟩
  obtain ⟨documents, hdocuments⟩ := readFrom_still 0 hread
  simp only [readDocuments, bind_eq_ok, raiseIf_eq_ok, orRaise_eq_ok, not_lt]
  exact ⟨documents, (), href, root, hroot, (), hfiles, (), hbytes, hdocuments⟩

theorem sealIndex_covers (h : service.sealIndex call indexes = .ok index) :
    service.Covers call.snapshot index := by
  obtain ⟨-, hrecords, hfiles, -⟩ := sealIndex_ok h
  intro item hitem hsupported
  have hselected := mem_selected.2 ⟨hitem, hsupported⟩
  obtain ⟨record, hrecord⟩ := exists_ok_of_mapM hrecords item hselected
  refine ⟨by rw [hfiles]; exact List.mem_map_of_mem hselected, record,
    (mem_mapM hrecords).2 ⟨item, hselected, hrecord⟩, (sourceFile_ok hrecord).2⟩

variable {root : List String → SourceFile}

/-- The documents that are read have a path, if the records of their files can be made. -/
theorem document_path (h : service.Recorded call)
    (hread : (service.selected call.snapshot).mapM (readDocument limits root) = .ok documents) :
    ∀ document ∈ documents, document.path ≠ "" := by
  rintro document hdocument hempty
  obtain ⟨item, hitem, hread⟩ := (mem_mapM hread).1 hdocument
  obtain ⟨text, -, rfl⟩ := readDocument_ok.1 hread
  have hlength := (h.paths item hitem).1
  rw [show item.path = "" from hempty] at hlength
  exact absurd hlength (by decide)

theorem documentsFit (h : service.Bounded call) (hroot : call.root = some root)
    (hread : (service.selected call.snapshot).mapM (readDocument call.limits root) =
      .ok documents) : ∀ adapter ∈ service.adapters, DocumentsFit documents adapter := by
  intro adapter hadapter document hdocument hsupports
  obtain ⟨item, hitem, hread⟩ := (mem_mapM hread).1 hdocument
  obtain ⟨text, htext, rfl⟩ := readDocument_ok.1 hread
  exact h.fits root hroot item hitem text htext adapter hadapter hsupports

/-- With bounds, no exception but a declared one leaves the call. -/
theorem total_of_bounded
    (hscope : requireSnapshotScope call.snapshot call.scope call.now = .ok ())
    (h : service.Readable call → service.Bounded call) : service.Total call := by
  intro clock
  cases hresult : service.indexRepository call clock with
  | ok index =>
    refine .inl ⟨index, rfl, ?_⟩
    simp only [indexRepository, bind_eq_ok, mapError_eq_ok] at hresult
    obtain ⟨-, -, documents, -, indexes, -, hseal⟩ := hresult
    exact sealIndex_covers hseal
  | error e =>
    refine .inr ⟨e, rfl, ?_⟩
    rw [indexRepository, hscope] at hresult
    simp only [bind_eq_error, mapError_eq_error] at hresult
    rcases hresult with ⟨_, hnone, -⟩ | ⟨-, -, ⟨_, hread, rfl⟩ | ⟨documents, hread, hrest⟩⟩
    · cases hnone
    · exact readDocuments_error hread
    · obtain ⟨hreadable, root, hroot, hall⟩ := readDocuments_ok (mapError_eq_ok.1 hread)
      have hbounded := h hreadable
      rcases hrest with hanalyze | ⟨indexes, -, _, hseal, -⟩
      · exact analyze_error (document_path hbounded.toRecorded hall)
          (documentsFit hbounded hroot hall) hanalyze
      · obtain ⟨index, hindex⟩ := sealIndex_isOk hbounded.toRecorded indexes
        rw [hindex] at hseal
        cases hseal

/-- A call that no exception but a declared one leaves is within bounds. -/
theorem bounded_of_total (h : service.Total call) :
    requireSnapshotScope call.snapshot call.scope call.now = .ok () ∧
      (service.Readable call → service.Bounded call) := by
  have hanswer := h fun _ => 0
  rw [indexRepository] at hanswer
  cases hscope : requireSnapshotScope call.snapshot call.scope call.now with
  | error e =>
    rw [hscope] at hanswer
    rcases hanswer with ⟨index, hindex, -⟩ | ⟨e, he, hdeclared⟩
    · cases hindex
    · cases he
      exact hdeclared.elim
  | ok _ =>
    refine ⟨rfl, fun hreadable => ?_⟩
    obtain ⟨documents, hread⟩ := readDocuments_still hreadable
    obtain ⟨-, root, hroot, hall⟩ := readDocuments_ok hread
    rw [hscope, hread] at hanswer
    rcases hanswer with ⟨index, hindex, -⟩ | ⟨e, he, hdeclared⟩
    · simp only [bind_eq_ok, mapError_eq_ok] at hindex
      obtain ⟨-, -, _, hdocuments, indexes, hanalyze, hseal⟩ := hindex
      obtain rfl := Except.ok.inj hdocuments
      obtain ⟨hrecorded, -⟩ := sealIndex_ok hseal
      refine ⟨hrecorded, fun root' hroot' item hitem text htext adapter hadapter hsupports => ?_⟩
      obtain rfl := Option.some.inj (hroot.symm.trans hroot')
      exact fits_of_analyze (document_path hrecorded hall) hanalyze adapter hadapter _
        ((mem_mapM hall).2 ⟨item, hitem, readDocument_ok.2 ⟨text, htext, rfl⟩⟩) hsupports
    · simp only [bind_eq_error, mapError_eq_error] at he
      rcases he with ⟨_, hnone, -⟩ | ⟨-, -, ⟨_, hnone, -⟩ | ⟨_, hdocuments, hrest⟩⟩
      · cases hnone
      · cases hnone
      · rcases hrest with hanalyze | ⟨indexes, -, _, hseal, rfl⟩
        · exact absurd hdeclared (analyze_still hanalyze)
        · exact absurd hdeclared (not_isDeclared_sealIndex hseal)

end IndexingService

end

/-! ## The service -/

/-- The adapters of a service that is given none. -/
def IndexingService.default [PythonAlnum] [SourceParser] : IndexingService where
  adapters := [PythonLanguageAdapter, JavaScriptLanguageAdapter]
  extensions_nodup := by
    change [".py", ".js", ".jsx", ".mjs", ".cjs", ".ts", ".tsx"].Nodup
    decide

/-- A call answers or raises what it declares if and only if its Scope admits the snapshot, and
what it reads is within the bounds of the records that are made of it. -/
theorem index_total_iff [SourceHuntDigests] [PythonUrl] [PythonUnicode] [IngestionDigests]
    [PythonAlnum] [SourceParser] (call : IndexingCall) :
    IndexingService.default.Total call ↔
      requireSnapshotScope call.snapshot call.scope call.now = .ok () ∧
        (IndexingService.default.Readable call → IndexingService.default.Bounded call) :=
  ⟨IndexingService.bounded_of_total, fun h => IndexingService.total_of_bounded h.1 h.2⟩

/-! ## A function with a long name -/

section

def repeated (n : ℕ) : String :=
  String.ofList (List.replicate n 'a')

theorem length_repeated (n : ℕ) : (repeated n).length = n := by
  rw [repeated, String.length_ofList, List.length_replicate]

theorem utf8ByteSize_repeated (n : ℕ) : (repeated n).utf8ByteSize = n := by
  rw [repeated, String.utf8ByteSize_ofList]
  induction n with
  | zero => rfl
  | succ n ih =>
    rw [List.replicate_succ, String.utf8Len, ih]
    rfl

def longName : String :=
  repeated 600

def longText : String :=
  "def " ++ longName ++ "(): pass"

/-- The tree of a text with one definition, on its first line. -/
@[reducible] def longParser : SourceParser where
  parse text :=
    if text = longText then .ok (.other [.definition .functionDef longName 1 [.other []]])
    else .error .syntaxError
  lineno_bounds := by
    intro text tree h node hnode line hline
    split_ifs at h with htext
    rw [← Except.ok.inj h] at hnode
    have hlines : 1 ≤ (physicalLines longText).length :=
      List.length_pos_iff.2 (physicalLines_ne_nil (by simp [longText]))
    rw [htext]
    simp only [PyNode.walk, PyNode.walkAll, List.append_nil, List.mem_cons,
      List.not_mem_nil, or_false] at hnode
    rcases hnode with rfl | rfl | rfl <;> simp [PyNode.lineno] at hline
    exact hline ▸ ⟨Nat.le_refl _, hlines⟩

attribute [local instance] textHuntDigests hostUrls plainUnicode textIngestionDigests asciiAlnum
  longParser

def longFile : SnapshotFile where
  path := "f.py"
  size := (utf8 longText).length
  sha256 := sha256 (utf8 longText)
  category := .source

/-- A snapshot with one Python file, in a Scope that lists it. -/
def longCall : IndexingCall where
  snapshot := {
    target := ⟨"t", "g", .repository, "r", "1", 0⟩
    artifact := ⟨"a", "g", .sourceArchive, "f", "r", 1, "tar", none, 0⟩
    manifest := ⟨"m", "a", "t", "1", [longFile], (utf8 longText).length, 0⟩
    rootRef := some "snapshots/m/payload" }
  root := some fun _ => .regular "f.py" (utf8 longText)
  scope := { sampleScope with artifacts := [⟨.sourceArchive, "a", "f"⟩] }
  limits := {
    maxFiles := 20000
    maxTotalBytes := 209715200
    maxSingleFileBytes := 2097152
    maxFilesPerPartition := 500
    maxQueries := 64
    maxObservations := 64
    timeoutSeconds := 120
    file_bounds := by decide
    timeout_bounds := by decide
    maxQueries_bounds := by decide
    maxObservations_bounds := by decide }
  now := 1

theorem longFile_size : longFile.size ≤ 2097152 := by
  rw [longFile, length_utf8, longText, String.utf8ByteSize_append, String.utf8ByteSize_append,
    longName, utf8ByteSize_repeated]
  decide

theorem longFile_hasText : longFile.HasText longCall.limits
    (fun _ => .regular "f.py" (utf8 longText)) longText :=
  ⟨longFile_size, "f.py", utf8 longText, rfl, rfl, rfl, decodeUtf8_utf8 longText⟩

theorem longFile_selected :
    IndexingService.default.selected longCall.snapshot = [longFile] :=
  List.filter_cons_of_pos (by decide +kernel)

theorem longFile_readable : IndexingService.default.Readable longCall where
  rootRef := by decide
  files := by
    rw [longFile_selected]
    decide
  bytes := by
    rw [longFile_selected, List.map_cons, List.map_nil, List.sum_singleton]
    exact longFile_size.trans (by decide)
  texts := by
    refine ⟨_, rfl, fun item hitem => ?_⟩
    rw [longFile_selected] at hitem
    rw [List.mem_singleton.1 hitem]
    exact ⟨longText, longFile_hasText⟩

/-- The name of one function stops the indexing of its repository. -/
theorem longName_escapes :
    requireSnapshotScope longCall.snapshot longCall.scope longCall.now = .ok () ∧
      IndexingService.default.Readable longCall ∧ ¬IndexingService.default.Total longCall := by
  refine ⟨by decide +kernel, longFile_readable, fun htotal => ?_⟩
  have hbounded := (IndexingService.bounded_of_total htotal).2 longFile_readable
  have hmem : longFile ∈ IndexingService.default.selected longCall.snapshot := by
    rw [longFile_selected]
    exact List.mem_singleton_self _
  obtain ⟨located, pending, hlocate, hnames, -⟩ := hbounded.fits _ rfl longFile hmem longText
    longFile_hasText PythonLanguageAdapter List.mem_cons_self (by decide)
  have hparse : (SourceParser.parse longText : Except ParseError PyNode) =
      .ok (.other [.definition .functionDef longName 1 [.other []]]) := if_pos rfl
  have hdefinition : (⟨.python, .function, "f.py", longName, 1⟩ : Located) ∈ located := by
    simp only [PythonLanguageAdapter, locatePython, SnapshotFile.document, hparse] at hlocate
    rw [← (Prod.mk.inj (Except.ok.inj hlocate)).1]
    exact List.mem_cons_self
  have hlength := (Located.length_name_lt _).trans_le (hnames _ hdefinition)
  dsimp only [longName] at hlength
  rw [length_repeated] at hlength
  exact absurd hlength (by decide)

end

end VulnLoom

import VulnLoom.Ingestion
import VulnLoom.FlowBudget

/-!
# Snapshots of several engagements

A snapshot is filed under the digest of its files and its version, and a later import with the
same digest gets the snapshot that is there. What it says of its engagement, of its name and
kind, or of the commit is what the first import said. `Ingestion` runs the service and keeps
what each call returned; `Traced` is the invariant that ties the store to the first imports.
-/

set_option linter.unusedSectionVars false

namespace VulnLoom

open Transition

section

variable [PythonUrl] [PythonUnicode] [ArchiveReader] [IngestionDigests]

/-! ## What an import says of itself -/

/-- A scope lists the source of an import : an archive by its kind, digest and file name, a
repository by its URL and the commit in full, an image by its digest and reference. -/
def Import.listedBy (call : Import) (scope : Scope) : Bool :=
  match call.source with
  | .archive (.regular name content) kind => scope.listsArtifact kind (sha256 content) name
  | .archive _ _ => false
  | .git repository repositoryUrl commit =>
    (repository.canonicalCommit commit).toOption.any fun canonical =>
      scope.listsRepository repositoryUrl canonical
  | .oci imageRef digest =>
    (matchOciDigest digest).any fun hex => scope.listsArtifact .ociImage hex imageRef

/-- The snapshot says of itself what the import does. -/
structure Import.Makes (call : Import) (snapshot : TargetSnapshot) : Prop where
  target : snapshot.target.engagementId = call.scope.engagementId
  artifact : snapshot.artifact.engagementId = call.scope.engagementId
  lists : ∀ scope : Scope, scope.listsSnapshot snapshot = call.listedBy scope

/-- What a call has built when it commits. -/
structure Import.Builds (call : Import) (built : StoredSnapshot) : Prop where
  directory : built.directory = built.snapshot.manifest.manifestId
  makes : call.Makes built.snapshot
  active : requireActiveScope call.scope call.now = .ok ()

variable {name : String} {content blob : Bytes} {clock : Clock}

theorem archiveArtifact_ok {engagementId : UUID} {kind : ArtifactKind} {artifact : Artifact}
    (h : archiveArtifact name content blob engagementId kind clock = .ok artifact) :
    artifact.artifactId = sha256 content ∧ artifact.engagementId = engagementId ∧
      artifact.kind = kind ∧ artifact.sourceName = name := by
  simp only [archiveArtifact, bind_eq_ok, pure_eq_ok] at h
  obtain ⟨detected, -, -, -, rfl⟩ := h
  exact ⟨rfl, rfl, rfl, rfl⟩

variable {limits : IngestionLimits} {scope : Scope} {built : StoredSnapshot}

theorem materializeArchive_ok {artifact : Artifact}
    (h : materializeArchive limits artifact blob scope clock = .ok built) :
    built.directory = built.snapshot.manifest.manifestId ∧ built.snapshot.artifact = artifact ∧
      built.snapshot.target.engagementId = scope.engagementId := by
  simp only [materializeArchive, bind_eq_ok, pure_eq_ok] at h
  obtain ⟨⟨files, payload⟩, -, rfl⟩ := h
  exact ⟨rfl, rfl, rfl⟩

variable {now : Time}

theorem buildArchive_ok {kind : ArtifactKind}
    (hkind : kind ∈ [ArtifactKind.sourceArchive, .iacBundle])
    (h : buildArchive limits name content blob kind scope now clock = .ok built) :
    Import.Builds ⟨.archive (.regular name content) kind, scope, now, clock⟩ built := by
  simp only [buildArchive, requireArtifactScope, bind_eq_ok] at h
  obtain ⟨artifact, hartifact, ⟨⟩, ⟨⟨⟩, hactive, -⟩, hmaterialize⟩ := h
  obtain ⟨hid, hengagement, hkind', hname⟩ := archiveArtifact_ok hartifact
  obtain ⟨hdirectory, hsnapshot, htarget⟩ := materializeArchive_ok hmaterialize
  refine ⟨hdirectory, ⟨htarget, by rw [hsnapshot, hengagement], fun scope' => ?_⟩, hactive⟩
  have hgit : kind ≠ .gitRepository := by
    rintro rfl
    simp at hkind
  rw [Scope.listsSnapshot, hsnapshot, hkind', if_neg hgit, hid, hname]
  rfl

theorem ingestGit_ok {repository : GitSource} {repositoryUrl commit : String}
    (h : ingestGit limits repository repositoryUrl commit scope now clock = .ok built) :
    Import.Builds ⟨.git repository repositoryUrl commit, scope, now, clock⟩ built := by
  simp only [ingestGit, bind_eq_ok, pure_eq_ok] at h
  obtain ⟨⟨⟩, hactive, -, -, -, -, -, -, -, -, canonical, hcanonical, -, -, tree, -, entries, -,
    -, -, ⟨files, payload⟩, -, rfl⟩ := h
  refine ⟨rfl, ⟨rfl, rfl, fun scope' => ?_⟩, hactive⟩
  simp only [Import.listedBy, hcanonical]
  rfl

theorem registerOciImage_ok {imageRef digest : String}
    (h : registerOciImage imageRef digest scope now clock = .ok built) :
    Import.Builds ⟨.oci imageRef digest, scope, now, clock⟩ built := by
  simp only [registerOciImage, bind_eq_ok, orRaise_eq_ok, pure_eq_ok] at h
  obtain ⟨⟨⟩, hactive, hex, hhex, -, -, -, -, rfl⟩ := h
  refine ⟨rfl, ⟨rfl, rfl, fun scope' => ?_⟩, hactive⟩
  simp only [Import.listedBy, hhex]
  rfl

variable {store store' : IngestionStore}

theorem IngestionStore.storeBlob_snapshots
    (h : store.storeBlob limits content = .ok (store', blob)) :
    store'.snapshots = store.snapshots := by
  unfold IngestionStore.storeBlob at h
  split at h
  · simp only [bind_eq_ok, pure_eq_ok, Prod.mk.injEq] at h
    obtain ⟨-, -, -, -, rfl, -⟩ := h
    rfl
  · simp only [pure_eq_ok, Prod.mk.injEq] at h
    obtain ⟨rfl, -⟩ := h
    rfl

theorem IngestionStore.quarantineFile_ok {source : SourceFile}
    (h : store.quarantineFile limits source = .ok (store', name, content, blob)) :
    source = .regular name content ∧ store'.snapshots = store.snapshots := by
  cases source with
  | missing => exact absurd h throw_ne_ok
  | irregular => exact absurd h throw_ne_ok
  | regular name' content' =>
    simp only [IngestionStore.quarantineFile, bind_eq_ok, pure_eq_ok, Prod.mk.injEq] at h
    obtain ⟨-, -, ⟨filed, blob'⟩, hblob, rfl, rfl, rfl, rfl⟩ := h
    exact ⟨rfl, IngestionStore.storeBlob_snapshots hblob⟩

/-- A call files no snapshot before it commits, and then commits what `Builds` says. -/
theorem IngestionStore.build_ok (store : IngestionStore) (limits : IngestionLimits)
    (call : Import) :
    (store.build limits call).1.snapshots = store.snapshots ∧
      ∀ built, (store.build limits call).2 = .ok built → call.Builds built := by
  obtain ⟨source, scope, now, clock⟩ := call
  cases source with
  | archive file kind =>
    simp only [IngestionStore.build, IngestionStore.ingestArchive]
    split_ifs with hkind
    · split
      · exact ⟨rfl, fun built h => by cases h⟩
      · rename_i quarantined name content blob hquarantine
        obtain ⟨rfl, hsnapshots⟩ := IngestionStore.quarantineFile_ok hquarantine
        exact ⟨hsnapshots, fun built h => buildArchive_ok hkind h⟩
    · exact ⟨rfl, fun built h => by cases h⟩
  | git repository repositoryUrl commit => exact ⟨rfl, fun built h => ingestGit_ok h⟩
  | oci imageRef digest => exact ⟨rfl, fun built h => registerOciImage_ok h⟩

variable {snapshot : TargetSnapshot}

/-- A commit returns the snapshot that is there under its identifier, or files the one built. -/
theorem IngestionStore.commitOrReuseSnapshot_ok
    (h : store.commitOrReuseSnapshot built = .ok (store', snapshot)) :
    (∃ existing, store.snapshotAt built.directory = some existing ∧
      snapshot = existing.snapshot ∧ store' = store ∧
      snapshot.manifest.manifestId = built.snapshot.manifest.manifestId) ∨
    (store.snapshotAt built.directory = none ∧ snapshot = built.snapshot ∧
      store'.snapshots =
        ContentStore.file StoredSnapshot.directory store.snapshots built) := by
  unfold IngestionStore.commitOrReuseSnapshot at h
  split at h
  · rename_i existing hexisting
    simp only [StoredSnapshot.loadExistingSnapshot, bind_eq_ok, raiseIf_eq_ok, pure_eq_ok,
      Prod.mk.injEq, not_or, ne_eq, not_not] at h
    obtain ⟨returned, ⟨-, ⟨hid, -, -⟩, -, -, rfl⟩, rfl, rfl⟩ := h
    exact Or.inl ⟨existing, hexisting, rfl, rfl, hid⟩
  · rename_i hnone
    simp only [pure_eq_ok, Prod.mk.injEq] at h
    obtain ⟨rfl, rfl⟩ := h
    exact Or.inr ⟨hnone, rfl, rfl⟩

variable {call : Import}

/-- A call that returns has built a snapshot and committed it. -/
theorem IngestionStore.ingest_ok (h : (store.ingest limits call).2 = .ok snapshot) :
    ∃ quarantined built, store.build limits call = (quarantined, .ok built) ∧
      quarantined.commitOrReuseSnapshot built =
        .ok ((store.ingest limits call).1, snapshot) := by
  unfold IngestionStore.ingest at h ⊢
  split at h
  · cases h
  · rename_i quarantined built hbuild
    split at h
    · cases h
    · rename_i committed returned hcommit
      cases h
      exact ⟨quarantined, built, hbuild, hcommit⟩

/-- A call that raises files no snapshot. -/
theorem IngestionStore.ingest_error {e : IngestionError}
    (h : (store.ingest limits call).2 = .error e) :
    (store.ingest limits call).1.snapshots = store.snapshots := by
  have hbuild := (IngestionStore.build_ok store limits call).1
  unfold IngestionStore.ingest at h ⊢
  split at h
  · rename_i quarantined e' heq
    rw [heq] at hbuild
    exact hbuild
  · rename_i quarantined built heq
    rw [heq] at hbuild
    split at h
    · rename_i e' hcommit
      exact hbuild
    · cases h

/-! ## Runs -/

/-- The service, with the calls that have returned and what they returned. -/
structure Ingestion where
  store : IngestionStore
  imports : List (Import × TargetSnapshot)

def Ingestion.empty : Ingestion :=
  ⟨.empty, []⟩

/-- A call of the service. -/
def Ingestion.step (limits : IngestionLimits) (s : Ingestion) (call : Import) : Ingestion where
  store := (s.store.ingest limits call).1
  imports :=
    match (s.store.ingest limits call).2 with
    | .ok snapshot => s.imports ++ [(call, snapshot)]
    | .error _ => s.imports

/-- The first import that returned a snapshot with the identifier. -/
def Ingestion.firstImport (s : Ingestion) (manifestId : Digest) :
    Option (Import × TargetSnapshot) :=
  ContentStore.find (fun entry => entry.2.manifest.manifestId) s.imports manifestId

/-- A stored snapshot is the one the first import with its identifier returned, and says what
that import does. -/
structure Ingestion.Traced (s : Ingestion) : Prop where
  filed : ∀ manifestId, (s.store.snapshotAt manifestId).map StoredSnapshot.snapshot =
    (s.firstImport manifestId).map Prod.snd
  makes : ∀ {manifestId entry}, s.firstImport manifestId = some entry → entry.1.Makes entry.2

theorem Ingestion.traced_empty : Ingestion.empty.Traced where
  filed _ := rfl
  makes h := by cases h

theorem IngestionStore.snapshotAt_congr (h : store'.snapshots = store.snapshots)
    (manifestId : Digest) : store'.snapshotAt manifestId = store.snapshotAt manifestId := by
  rw [IngestionStore.snapshotAt, h, IngestionStore.snapshotAt]

theorem Ingestion.Traced.step {s : Ingestion} (hs : s.Traced) (call : Import) :
    (s.step limits call).Traced := by
  cases hreturn : (s.store.ingest limits call).2 with
  | error e =>
    have hstep : s.step limits call = ⟨(s.store.ingest limits call).1, s.imports⟩ := by
      simp [Ingestion.step, hreturn]
    rw [hstep]
    refine ⟨fun manifestId => ?_, hs.makes⟩
    rw [IngestionStore.snapshotAt_congr (IngestionStore.ingest_error hreturn)]
    exact hs.filed manifestId
  | ok snapshot =>
    have hstep : s.step limits call =
        ⟨(s.store.ingest limits call).1, s.imports ++ [(call, snapshot)]⟩ := by
      simp [Ingestion.step, hreturn]
    obtain ⟨quarantined, built, hbuild, hcommit⟩ := IngestionStore.ingest_ok hreturn
    obtain ⟨hsame, hbuilds⟩ := IngestionStore.build_ok s.store limits call
    rw [hbuild] at hsame hbuilds
    have hbuilt := hbuilds built rfl
    rw [hstep]
    rcases IngestionStore.commitOrReuseSnapshot_ok hcommit with
      ⟨existing, hexisting, rfl, hstore, hid⟩ | ⟨hnone, rfl, hstore⟩
    · -- the identifier is taken, by the snapshot of an earlier import
      rw [IngestionStore.snapshotAt_congr hsame] at hexisting
      have htaken : (s.firstImport existing.snapshot.manifest.manifestId).isSome := by
        have hfiled := hs.filed built.directory
        rw [hexisting, hbuilt.directory, ← hid] at hfiled
        rw [← Option.isSome_map, ← hfiled]
        rfl
      have hfirst : ∀ manifestId, Ingestion.firstImport ⟨(s.store.ingest limits call).1,
          s.imports ++ [(call, existing.snapshot)]⟩ manifestId = s.firstImport manifestId :=
        ContentStore.find_concat_of_taken
          (fun entry : Import × TargetSnapshot => entry.2.manifest.manifestId) htaken
      refine ⟨fun manifestId => ?_, fun {manifestId entry} h => ?_⟩
      · rw [hfirst, hstore, IngestionStore.snapshotAt_congr hsame]
        exact hs.filed manifestId
      · rw [hfirst] at h
        exact hs.makes h
    · -- the call is the first import with its identifier
      have hfirst : ∀ manifestId, Ingestion.firstImport ⟨(s.store.ingest limits call).1,
          s.imports ++ [(call, built.snapshot)]⟩ manifestId =
            (s.firstImport manifestId).or
              (if built.directory = manifestId then some (call, built.snapshot) else none) := by
        intro manifestId
        rw [Ingestion.firstImport, ContentStore.find_append, hbuilt.directory]
        congr 1
        simp [ContentStore.find, List.find?_singleton]
      refine ⟨fun manifestId => ?_, fun {manifestId entry} h => ?_⟩
      · rw [hfirst, Option.map_or, ← hs.filed]
        rw [IngestionStore.snapshotAt, hstore, ContentStore.find_file, Option.map_or, hsame]
        congr 1
        simp only [ContentStore.find, List.find?_singleton, decide_eq_true_eq]
        split_ifs <;> rfl
      · rw [hfirst, Option.or_eq_some_iff] at h
        rcases h with h | ⟨-, h⟩
        · exact hs.makes h
        · split_ifs at h
          cases h
          exact hbuilt.makes

theorem Ingestion.traced_run (limits : IngestionLimits) (calls : List Import) :
    (run (Ingestion.step limits) Ingestion.empty calls).Traced :=
  run_invariant _ (fun _ call hs => hs.step call) calls Ingestion.traced_empty

/-! ## Isolation -/

/-- The snapshot carries the engagement of the call and passes `require_snapshot_scope` for the
scope and at the instant of the call. -/
def Import.Isolates (call : Import) (snapshot : TargetSnapshot) : Prop :=
  snapshot.target.engagementId = call.scope.engagementId ∧
    snapshot.artifact.engagementId = call.scope.engagementId ∧
    requireSnapshotScope snapshot call.scope call.now = .ok ()

/-- The first import of what a call imports : the call itself, if none returned a snapshot with
the manifest identifier before. -/
def Ingestion.importer (s : Ingestion) (limits : IngestionLimits) (call : Import) : Import :=
  match (s.store.build limits call).2 with
  | .ok built => ((s.firstImport built.directory).map Prod.fst).getD call
  | .error _ => call

/-- What a call returns says what the first import of it does. -/
theorem Ingestion.Traced.importer_makes {s : Ingestion} (hs : s.Traced)
    (h : (s.store.ingest limits call).2 = .ok snapshot) : (s.importer limits call).Makes snapshot ∧
      requireActiveScope call.scope call.now = .ok () := by
  obtain ⟨quarantined, built, hbuild, hcommit⟩ := IngestionStore.ingest_ok h
  obtain ⟨hsame, hbuilds⟩ := IngestionStore.build_ok s.store limits call
  rw [hbuild] at hsame hbuilds
  have hbuilt := hbuilds built rfl
  have hfiled := hs.filed built.directory
  have himporter : s.importer limits call =
      ((s.firstImport built.directory).map Prod.fst).getD call := by
    simp [Ingestion.importer, hbuild]
  refine ⟨?_, hbuilt.active⟩
  rw [himporter]
  rcases IngestionStore.commitOrReuseSnapshot_ok hcommit with
    ⟨existing, hexisting, rfl, -, -⟩ | ⟨hnone, rfl, -⟩
  · rw [IngestionStore.snapshotAt_congr hsame] at hexisting
    rw [hexisting] at hfiled
    obtain ⟨entry, hentry, hsnapshot⟩ := Option.map_eq_some_iff.1 hfiled.symm
    rw [hentry, ← hsnapshot]
    exact hs.makes hentry
  · rw [IngestionStore.snapshotAt_congr hsame] at hnone
    rw [hnone] at hfiled
    have hfirst : s.firstImport built.directory = none := by
      simpa using hfiled.symm
    rw [hfirst]
    exact hbuilt.makes

/-- In every run, what a call returns is the call's own exactly when the first import of it was
made for the same engagement and is listed by the call's scope. -/
theorem isolates_iff (limits : IngestionLimits) (calls : List Import) (call : Import)
    (snapshot : TargetSnapshot)
    (h : ((run (Ingestion.step limits) Ingestion.empty calls).store.ingest limits call).2 =
      .ok snapshot) :
    call.Isolates snapshot ↔
      let importer := (run (Ingestion.step limits) Ingestion.empty calls).importer limits call
      importer.scope.engagementId = call.scope.engagementId ∧
        importer.listedBy call.scope = true := by
  obtain ⟨hmakes, hactive⟩ := (Ingestion.traced_run limits calls).importer_makes h
  have hscope : requireSnapshotScope snapshot call.scope call.now = .ok () ↔
      ¬(snapshot.target.engagementId ≠ call.scope.engagementId ∨
        snapshot.artifact.engagementId ≠ call.scope.engagementId) ∧
      call.scope.listsSnapshot snapshot = true := by
    simp [requireSnapshotScope, hactive]
  rw [Import.Isolates, hscope, hmakes.target, hmakes.artifact, hmakes.lists]
  tauto

end

/-! ## One archive, two engagements -/

/-- Digests that are short enough to compute with. -/
@[reducible] def textIngestionDigests : IngestionDigests where
  sha256 content := String.ofList (content.map fun b => Char.ofNat b.toNat)
  uuid5 text := text
  manifest := ⟨fun payload => payload.targetVersion⟩

/-- Tar archives that hold one file, `a.py`. -/
@[reducible] def singleFileReader : ArchiveReader where
  isZipfile _ := false
  infolist _ := none
  opens _ := true
  members content := [some ⟨"a.py", false, true, content.length, some (some content)⟩]

def sampleLimits : IngestionLimits where
  maxArchiveBytes := 9
  maxFiles := 9
  maxSingleFileBytes := 9
  maxTotalBytes := 9
  maxCompressionRatio := 9
  positive := by decide

/-- An archive imported for an engagement whose scope lists it. -/
def sampleImport (engagementId : UUID) : Import where
  source := .archive (.regular "f" [97]) .sourceArchive
  scope := { sampleScope with
    engagementId := engagementId
    artifacts := [⟨.sourceArchive, "a", "f"⟩] }
  now := 1
  clock := ⟨1, 1, 1⟩

/-- An empty commit, imported under a scope that lists its first seven digits. -/
def abbreviatedImport : Import where
  source := .git
    { missing := false
      isDirectory := true
      name := "r"
      revParse := fun _ => some (List.replicate 40 97)
      lsTree := fun _ => some []
      catFile := fun _ => none } "u" "aaaaaaa"
  scope := { sampleScope with repositories := [⟨"u", "aaaaaaa"⟩] }
  now := 1
  clock := ⟨1, 1, 1⟩

section

attribute [local instance] hostUrls plainUnicode singleFileReader textIngestionDigests

/-- What a call returns after some others. -/
def returned (calls : List Import) (call : Import) : Except IngestionError TargetSnapshot :=
  ((run (Ingestion.step sampleLimits) Ingestion.empty calls).store.ingest sampleLimits call).2

/-- An archive imported again for its engagement is its own. -/
theorem isolates_reimport : ∃ snapshot,
    ((run (Ingestion.step sampleLimits) Ingestion.empty [sampleImport "g"]).store.ingest
      sampleLimits (sampleImport "g")).2 = .ok snapshot ∧
      (sampleImport "g").Isolates snapshot := by
  obtain ⟨snapshot, hsnapshot, -⟩ :=
    exists_ok_of_map (f := fun snapshot => snapshot.target.engagementId)
      (x := returned [sampleImport "g"] (sampleImport "g")) (b := "g") (by decide +kernel)
  exact ⟨snapshot, hsnapshot, (isolates_iff sampleLimits [sampleImport "g"] (sampleImport "g")
    snapshot hsnapshot).2 (by decide +kernel)⟩

/-- An archive imported for a second engagement is returned as a snapshot of the first, and a
commit listed by its first digits is returned as a snapshot that its scope does not list. -/
theorem imports_not_isolated :
    (∃ snapshot, returned [sampleImport "g"] (sampleImport "h") = .ok snapshot ∧
      ¬(sampleImport "h").Isolates snapshot) ∧
    ∃ snapshot, returned [] abbreviatedImport = .ok snapshot ∧
      ¬abbreviatedImport.Isolates snapshot := by
  constructor
  · obtain ⟨snapshot, hsnapshot, hengagement⟩ :=
      exists_ok_of_map (f := fun snapshot => snapshot.target.engagementId)
        (x := returned [sampleImport "g"] (sampleImport "h")) (b := "g") (by decide +kernel)
    refine ⟨snapshot, hsnapshot, fun hisolates => ?_⟩
    rw [hisolates.1] at hengagement
    exact absurd hengagement (by decide)
  · obtain ⟨snapshot, hsnapshot, hlists⟩ :=
      exists_ok_of_map (f := fun snapshot => abbreviatedImport.scope.listsSnapshot snapshot)
        (x := returned [] abbreviatedImport) (b := false) (by decide +kernel)
    refine ⟨snapshot, hsnapshot, fun hisolates => ?_⟩
    have hscope := hisolates.2.2
    simp [requireSnapshotScope, hlists] at hscope

end

end VulnLoom

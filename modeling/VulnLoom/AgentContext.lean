import VulnLoom.BrokerModels
import VulnLoom.ReviewSource
import Mathlib.Algebra.Order.BigOperators.Group.List
import Mathlib.Algebra.Order.Ring.Rat

/-!
# Contexts of agents

`AgentContextAssembler.assemble` normalises and redacts the sources of a task, within limits,
and seals what it got in a snapshot. The limits only stop an assembly : `assemble_eq_ok` splits
it into what is sealed, which no limit enters, and what the limits ask. Times in seconds are
floats in the source; here they are exact. The assembler reads its monotonic clock before the
loop, once for each source, and after the loop : a clock is its readings.
-/

set_option linter.unusedSectionVars false

namespace VulnLoom.AgentRuntime

/-- The exceptions of the agent services : their rejections, those of their stores, and a
validator's. -/
inductive AgentError
  | rejected (message : String)
  | timedOut (message : String)
  | recoveryRequired (message : String)
  | conflict (message : String)
  | valueError (message : String)
  | validationError
  deriving DecidableEq

/-- The envelope of a task, with the fields that the broker leaves unread. -/
structure AgentTask extends TaskEnvelope where
  /-- `budget.wall_seconds` -/
  wallSeconds : ℕ
  /-- `budget.model_tokens` -/
  modelTokens : ℕ
  idempotencyKey : String
  wallSeconds_bounds : 0 < wallSeconds ∧ wallSeconds ≤ 86400
  deriving DecidableEq

/-! ## Sources and limits -/

inductive AgentContextSourceKind
  | taskSummary
  | evidenceSummary
  | observationSummary
  deriving DecidableEq

structure AgentContextSource where
  sourceRef : String
  kind : AgentContextSourceKind
  text : String

structure AgentContextLimits where
  maxFragments : ℕ
  maxSourceBytesPerFragment : ℕ
  maxFragmentBytes : ℕ
  maxTotalBytes : ℕ
  timeoutSeconds : ℚ
  maxFragments_le : maxFragments ≤ 1024
  maxSourceBytesPerFragment_bounds :
    0 < maxSourceBytesPerFragment ∧ maxSourceBytesPerFragment ≤ 1048576
  maxFragmentBytes_bounds : 0 < maxFragmentBytes ∧ maxFragmentBytes ≤ 1048576
  maxTotalBytes_bounds : 0 < maxTotalBytes ∧ maxTotalBytes ≤ 4194304
  timeoutSeconds_bounds : 0 < timeoutSeconds ∧ timeoutSeconds ≤ 60

/-- `AgentContextLimits()`. -/
def AgentContextLimits.default : AgentContextLimits where
  maxFragments := 64
  maxSourceBytesPerFragment := 65536
  maxFragmentBytes := 32768
  maxTotalBytes := 262144
  timeoutSeconds := 5
  maxFragments_le := by decide
  maxSourceBytesPerFragment_bounds := by decide
  maxFragmentBytes_bounds := by decide
  maxTotalBytes_bounds := by decide
  timeoutSeconds_bounds := by decide

/-! ## Fragments and snapshots -/

section

variable [PythonUnicode] [PythonAlnum]

/-- The text with Unix newlines in the normal form C, before the check of its characters. -/
def normalForm (value : String) : String :=
  nfc (String.ofList ((replaceNewlines value.toList).map fun c => if c = '\r' then '\n' else c))

/-- The text has a control character other than a newline or a tab. -/
def hasForbidden (text : String) : Bool :=
  text.toList.any fun c => c.toNat < 32 ∧ c ≠ '\n' ∧ c ≠ '\t'

/-- `_normalize_context_text`. -/
def normalizeContextText (value : String) : Except AgentError String := do
  raiseIf (hasForbidden (normalForm value)) (.rejected
    "Agent context contains a forbidden control character")
  return normalForm value

/-- A sealed fragment. Its digest and its size are functions of its text. -/
structure AgentContextFragment where
  ordinal : ℕ
  sourceRefDigest : Digest
  kind : AgentContextSourceKind
  redactedText : String
  ordinal_le : ordinal ≤ 1023
  byteSize_le : redactedText.utf8ByteSize ≤ 1048576
  normalized : normalizeContextText redactedText = .ok redactedText
  redacted : Redactor.default.text redactedText = redactedText
  deriving DecidableEq

def AgentContextFragment.byteSize (fragment : AgentContextFragment) : ℕ :=
  fragment.redactedText.utf8ByteSize

/-- The constructor of a fragment, with its validator. -/
def AgentContextFragment.create (ordinal : ℕ) (sourceRefDigest : Digest)
    (kind : AgentContextSourceKind) (redactedText : String) :
    Except AgentError AgentContextFragment :=
  if h : ordinal ≤ 1023 ∧ redactedText.utf8ByteSize ≤ 1048576 ∧
      normalizeContextText redactedText = .ok redactedText ∧
      Redactor.default.text redactedText = redactedText then
    .ok ⟨ordinal, sourceRefDigest, kind, redactedText, h.1, h.2.1, h.2.2.1, h.2.2.2⟩
  else .error .validationError

/-- `total_bytes` -/
def totalBytes (fragments : List AgentContextFragment) : ℕ :=
  (fragments.map AgentContextFragment.byteSize).sum

/-- A sealed snapshot. Its redaction policy is the built-in one. -/
structure AgentContextSnapshot where
  taskId : UUID
  taskDigest : Digest
  targetId : UUID
  targetVersion : String
  scopeId : UUID
  scopeVersion : ℕ
  inputRefsDigest : Digest
  inputRefDigests : List Digest
  fragments : List AgentContextFragment
  assembledAt : Time
  fragments_le : fragments.length ≤ 1024
  totalBytes_le : totalBytes fragments ≤ 4194304
  ordinals : fragments.map AgentContextFragment.ordinal = List.range fragments.length
  references : fragments.map AgentContextFragment.sourceRefDigest = inputRefDigests
  deriving DecidableEq

/-- The digests of an assembly. -/
class AgentContextDigests where
  text : CanonicalDigest String
  texts : CanonicalDigest (List String)
  task : CanonicalDigest AgentTask
  snapshot : CanonicalDigest AgentContextSnapshot

attribute [reducible, instance] AgentContextDigests.text AgentContextDigests.texts
  AgentContextDigests.task AgentContextDigests.snapshot

variable [AgentContextDigests]

/-- The constructor of a snapshot of a task, with its validator. -/
def AgentContextSnapshot.create (task : AgentTask) (fragments : List AgentContextFragment)
    (assembledAt : Time) : Except AgentError AgentContextSnapshot :=
  if h : fragments.length ≤ 1024 ∧ totalBytes fragments ≤ 4194304 ∧
      fragments.map AgentContextFragment.ordinal = List.range fragments.length ∧
      fragments.map AgentContextFragment.sourceRefDigest = task.inputRefs.map canonicalDigest then
    .ok {
      taskId := task.taskId
      taskDigest := canonicalDigest task
      targetId := task.targetId
      targetVersion := task.targetVersion
      scopeId := task.scopeId
      scopeVersion := task.scopeVersion
      inputRefsDigest := canonicalDigest task.inputRefs
      inputRefDigests := task.inputRefs.map canonicalDigest
      fragments := fragments
      assembledAt := assembledAt
      fragments_le := h.1
      totalBytes_le := h.2.1
      ordinals := h.2.2.1
      references := h.2.2.2 }
  else .error .validationError

def AgentContextSnapshot.snapshotId (snapshot : AgentContextSnapshot) : Digest :=
  canonicalDigest snapshot

/-- The snapshot is of the task. -/
def AgentContextSnapshot.IsFor (snapshot : AgentContextSnapshot) (task : AgentTask) : Prop :=
  snapshot.taskId = task.taskId ∧ snapshot.taskDigest = canonicalDigest task ∧
    snapshot.targetId = task.targetId ∧ snapshot.targetVersion = task.targetVersion ∧
    snapshot.scopeId = task.scopeId ∧ snapshot.scopeVersion = task.scopeVersion ∧
    snapshot.inputRefsDigest = canonicalDigest task.inputRefs ∧
    snapshot.inputRefDigests = task.inputRefs.map canonicalDigest

instance (snapshot : AgentContextSnapshot) (task : AgentTask) : Decidable (snapshot.IsFor task) :=
  inferInstanceAs (Decidable (_ ∧ _))

def AgentContextSnapshot.assertForTask (snapshot : AgentContextSnapshot) (task : AgentTask) :
    Except AgentError Unit :=
  raiseIf (¬snapshot.IsFor task) (.rejected "Agent context snapshot does not match the Task")

/-! ## Assembly -/

structure AgentContextAssembler where
  redactor : Redactor

namespace AgentContextAssembler

variable (assembler : AgentContextAssembler) (limits : AgentContextLimits) (clock : ℕ → ℚ)

/-- `_check_timeout`, at a reading of the clock. -/
def checkTimeout (reading : ℕ) : Except AgentError Unit :=
  raiseIf (limits.timeoutSeconds < clock reading - clock 0) (.timedOut
    "Agent context assembly exceeded the wall budget")

/-- The loop of `assemble`, from an ordinal and the bytes there are. -/
def fragmentsFrom : ℕ → ℕ → List AgentContextSource →
    Except AgentError (List AgentContextFragment)
  | _, _, [] => return []
  | ordinal, total, source :: sources => do
    checkTimeout limits clock (ordinal + 1)
    raiseIf (limits.maxSourceBytesPerFragment < source.text.utf8ByteSize) (.rejected
      "Agent context source exceeds the byte limit")
    let normalized ← normalizeContextText source.text
    let redacted := assembler.redactor.text normalized
    raiseIf (limits.maxFragmentBytes < redacted.utf8ByteSize) (.rejected
      "Agent context fragment exceeds the byte limit")
    raiseIf (limits.maxTotalBytes < total + redacted.utf8ByteSize) (.rejected
      "Agent context total exceeds the byte limit")
    let fragment ← AgentContextFragment.create ordinal (canonicalDigest source.sourceRef)
      source.kind redacted
    let fragments ← fragmentsFrom (ordinal + 1) (total + redacted.utf8ByteSize) sources
    return fragment :: fragments

def assemble (task : AgentTask) (sources : List AgentContextSource) (now deadline : Time) :
    Except AgentError AgentContextSnapshot := do
  raiseIf (deadline ≤ now ∨ task.deadline ≤ now) (.timedOut
    "Agent context assembly deadline expired")
  raiseIf (limits.maxFragments < sources.length) (.rejected
    "Agent context fragment count exceeds the limit")
  raiseIf (sources.map AgentContextSource.sourceRef ≠ task.inputRefs) (.rejected
    "Agent context sources must exactly match Task input references")
  let fragments ← fragmentsFrom assembler limits clock 0 0 sources
  checkTimeout limits clock (sources.length + 1)
  AgentContextSnapshot.create task fragments now

/-! ## What the limits ask -/

/-- The loop of `assemble` without its limits. -/
def sealFrom : ℕ → List AgentContextSource → Except AgentError (List AgentContextFragment)
  | _, [] => return []
  | ordinal, source :: sources => do
    let normalized ← normalizeContextText source.text
    let fragment ← AgentContextFragment.create ordinal (canonicalDigest source.sourceRef)
      source.kind (assembler.redactor.text normalized)
    let fragments ← sealFrom (ordinal + 1) sources
    return fragment :: fragments

/-- The clock is within the limit at every reading of an assembly of `n` sources. -/
def Timely (n : ℕ) : Prop :=
  ∀ reading ≤ n, clock (reading + 1) - clock 0 ≤ limits.timeoutSeconds

/-- The sources and what they are redacted to are within the limits on bytes. -/
structure Fits (limits : AgentContextLimits) (sources : List AgentContextSource)
    (fragments : List AgentContextFragment) : Prop where
  sources_le : ∀ source ∈ sources, source.text.utf8ByteSize ≤ limits.maxSourceBytesPerFragment
  fragments_le : ∀ fragment ∈ fragments, fragment.byteSize ≤ limits.maxFragmentBytes
  total_le : totalBytes fragments ≤ limits.maxTotalBytes

end AgentContextAssembler

variable {fragment : AgentContextFragment}

theorem AgentContextFragment.create_ok {ordinal : ℕ} {sourceRefDigest : Digest}
    {kind : AgentContextSourceKind} {redactedText : String}
    (h : create ordinal sourceRefDigest kind redactedText = .ok fragment) :
    fragment.redactedText = redactedText := by
  unfold create at h
  split_ifs at h
  cases h
  rfl

variable {fragments : List AgentContextFragment}

theorem AgentContextSnapshot.create_ok {task : AgentTask} {assembledAt : Time}
    {snapshot : AgentContextSnapshot} (h : create task fragments assembledAt = .ok snapshot) :
    snapshot.fragments = fragments ∧ snapshot.assembledAt = assembledAt ∧
      snapshot.IsFor task := by
  unfold create at h
  split_ifs at h
  cases h
  exact ⟨rfl, rfl, rfl, rfl, rfl, rfl, rfl, rfl, rfl, rfl⟩

theorem totalBytes_cons (fragment : AgentContextFragment)
    (fragments : List AgentContextFragment) :
    totalBytes (fragment :: fragments) = fragment.byteSize + totalBytes fragments := by
  simp [totalBytes]

namespace AgentContextAssembler

variable {assembler : AgentContextAssembler} {limits : AgentContextLimits} {clock : ℕ → ℚ}

@[simp] theorem checkTimeout_eq_ok {reading : ℕ} {u : Unit} :
    checkTimeout limits clock reading = .ok u ↔
      clock reading - clock 0 ≤ limits.timeoutSeconds := by
  simp [checkTimeout]

/-- The loop seals what it would seal without limits, where they allow it. -/
theorem fragmentsFrom_eq_ok : ∀ {sources : List AgentContextSource} {ordinal total : ℕ}
    {fragments : List AgentContextFragment}, total ≤ limits.maxTotalBytes →
    (fragmentsFrom assembler limits clock ordinal total sources = .ok fragments ↔
      sealFrom assembler ordinal sources = .ok fragments ∧
        (∀ source ∈ sources, source.text.utf8ByteSize ≤ limits.maxSourceBytesPerFragment) ∧
        (∀ fragment ∈ fragments, fragment.byteSize ≤ limits.maxFragmentBytes) ∧
        total + totalBytes fragments ≤ limits.maxTotalBytes ∧
        ∀ i < sources.length, clock (ordinal + i + 1) - clock 0 ≤ limits.timeoutSeconds)
  | [], ordinal, total, fragments, htotal => by
    simp only [fragmentsFrom, sealFrom, pure_eq_ok]
    constructor
    · rintro rfl
      simpa [totalBytes] using htotal
    · rintro ⟨h, -⟩
      exact h
  | source :: sources, ordinal, total, fragments, htotal => by
    simp only [fragmentsFrom, sealFrom, bind_eq_ok, pure_eq_ok, checkTimeout_eq_ok,
      raiseIf_eq_ok, not_lt]
    constructor
    · rintro ⟨-, htime, -, hsource, normalized, hnormal, -, hfragment, -, hsum, fragment, hcreate,
        rest, hrest, rfl⟩
      have htext := AgentContextFragment.create_ok hcreate
      obtain ⟨hseal, hsources, hfragments, hbytes, htimes⟩ :=
        (fragmentsFrom_eq_ok hsum).1 hrest
      have hsize : fragment.byteSize = (assembler.redactor.text normalized).utf8ByteSize := by
        rw [AgentContextFragment.byteSize, htext]
      refine ⟨⟨normalized, hnormal, fragment, hcreate, rest, hseal, rfl⟩,
        List.forall_mem_cons.2 ⟨hsource, hsources⟩,
        List.forall_mem_cons.2 ⟨by rw [hsize]; exact hfragment, hfragments⟩, ?_, ?_⟩
      · rw [totalBytes_cons]
        omega
      · intro i hi
        cases i with
        | zero => exact htime
        | succ i =>
          have := htimes i (by simpa using hi)
          rwa [show ordinal + 1 + i + 1 = ordinal + (i + 1) + 1 by omega] at this
    · rintro ⟨⟨normalized, hnormal, fragment, hcreate, rest, hseal, rfl⟩, hsources, hfragments,
        hbytes, htimes⟩
      have htext := AgentContextFragment.create_ok hcreate
      have hsize : fragment.byteSize = (assembler.redactor.text normalized).utf8ByteSize := by
        rw [AgentContextFragment.byteSize, htext]
      rw [totalBytes_cons, hsize] at hbytes
      obtain ⟨hsource, hsources⟩ := List.forall_mem_cons.1 hsources
      obtain ⟨hfragment, hfragments⟩ := List.forall_mem_cons.1 hfragments
      have hsum : total + (assembler.redactor.text normalized).utf8ByteSize ≤
          limits.maxTotalBytes := by omega
      refine ⟨(), htimes 0 (by simp), (), hsource, normalized, hnormal, (), by rwa [← hsize], (),
        hsum, fragment, hcreate, rest, (fragmentsFrom_eq_ok hsum).2 ⟨hseal, hsources, hfragments,
          by omega, fun i hi => ?_⟩, rfl⟩
      have := htimes (i + 1) (by simpa using hi)
      rwa [show ordinal + (i + 1) + 1 = ordinal + 1 + i + 1 by omega] at this

variable {task : AgentTask} {sources : List AgentContextSource} {now deadline : Time}
  {snapshot : AgentContextSnapshot}

/-- An assembly is what it seals, with no limit in it, and what the limits ask. -/
theorem assemble_eq_ok :
    assemble assembler limits clock task sources now deadline = .ok snapshot ↔
      (sources.map AgentContextSource.sourceRef = task.inputRefs ∧
        ∃ fragments, sealFrom assembler 0 sources = .ok fragments ∧
          AgentContextSnapshot.create task fragments now = .ok snapshot) ∧
      (now < deadline ∧ now < task.deadline) ∧ sources.length ≤ limits.maxFragments ∧
      Fits limits sources snapshot.fragments ∧ Timely limits clock sources.length := by
  simp only [assemble, bind_eq_ok, raiseIf_eq_ok, checkTimeout_eq_ok, not_or, not_le, not_lt,
    ne_eq, not_not, fragmentsFrom_eq_ok (Nat.zero_le _)]
  constructor
  · rintro ⟨-, hnow, -, hlength, -, hrefs, fragments, ⟨hseal, hsources, hfragments, htotal,
      htimes⟩, -, hlast, hcreate⟩
    obtain ⟨hsame, -⟩ := AgentContextSnapshot.create_ok hcreate
    refine ⟨⟨hrefs, fragments, hseal, hcreate⟩, hnow, hlength,
      ⟨hsources, by rwa [hsame], by rw [hsame]; omega⟩, fun reading hreading => ?_⟩
    rcases Nat.lt_or_eq_of_le hreading with hlt | rfl
    · have := htimes reading hlt
      rwa [Nat.zero_add] at this
    · exact hlast
  · rintro ⟨⟨hrefs, fragments, hseal, hcreate⟩, hnow, hlength, hfits, htimely⟩
    obtain ⟨hsame, -⟩ := AgentContextSnapshot.create_ok hcreate
    rw [hsame] at hfits
    refine ⟨(), hnow, (), hlength, (), hrefs, fragments, ⟨hseal, hfits.sources_le,
      hfits.fragments_le, by rw [Nat.zero_add]; exact hfits.total_le, fun i hi => ?_⟩, (),
      htimely sources.length le_rfl, hcreate⟩
    rw [Nat.zero_add]
    exact htimely i (Nat.le_of_lt hi)

end AgentContextAssembler

/-! ## Assembling again -/

/-- The size of the largest fragment. -/
def largestFragment (fragments : List AgentContextFragment) : ℕ :=
  (fragments.map AgentContextFragment.byteSize).max?.getD 1

/-- The largest fragment is one of them, unless there is none. -/
theorem largestFragment_mem (fragments : List AgentContextFragment) :
    fragments = [] ∧ largestFragment fragments = 1 ∨
      ∃ fragment ∈ fragments, fragment.byteSize = largestFragment fragments := by
  cases h : (fragments.map AgentContextFragment.byteSize).max? with
  | none => exact Or.inl ⟨List.map_eq_nil_iff.1 (List.max?_eq_none_iff.1 h), by
      rw [largestFragment, h, Option.getD_none]⟩
  | some n =>
    obtain ⟨fragment, hmem, hsize⟩ := List.mem_map.1 (List.max?_eq_some_iff.1 h).1
    exact Or.inr ⟨fragment, hmem, by rw [hsize, largestFragment, h, Option.getD_some]⟩

theorem largestFragment_le (fragments : List AgentContextFragment) :
    largestFragment fragments ≤ 1048576 := by
  rcases largestFragment_mem fragments with ⟨-, h⟩ | ⟨fragment, -, h⟩
  · omega
  · rw [← h]
    exact fragment.byteSize_le

/-- The limits under which a preflight assembles a sealed snapshot again. -/
def AgentContextSnapshot.limits (snapshot : AgentContextSnapshot) : AgentContextLimits where
  maxFragments := max 1 snapshot.fragments.length
  maxSourceBytesPerFragment := max 1 (largestFragment snapshot.fragments)
  maxFragmentBytes := max 1 (largestFragment snapshot.fragments)
  maxTotalBytes := max 1 (totalBytes snapshot.fragments)
  timeoutSeconds := 5
  maxFragments_le := by
    have := snapshot.fragments_le
    omega
  maxSourceBytesPerFragment_bounds := by
    have := largestFragment_le snapshot.fragments
    omega
  maxFragmentBytes_bounds := by
    have := largestFragment_le snapshot.fragments
    omega
  maxTotalBytes_bounds := by
    have := snapshot.totalBytes_le
    omega
  timeoutSeconds_bounds := by decide

namespace AgentContextAssembler

variable {assembler : AgentContextAssembler} {limits : AgentContextLimits} {clock : ℕ → ℚ}
  {task : AgentTask} {sources : List AgentContextSource} {now deadline : Time}
  {snapshot : AgentContextSnapshot}

end AgentContextAssembler

/-! ## The store -/

/-- How many bytes pydantic's `model_dump_json` writes of a snapshot, with the newline. -/
class AgentContextJson where
  encodedBytes : AgentContextSnapshot → ℕ

export AgentContextJson (encodedBytes)

/-- The objects by their name, each the snapshot that it encodes. -/
structure AgentContextStore where
  objects : Digest → Option AgentContextSnapshot
  maxSnapshotBytes : ℕ

namespace AgentContextStore

variable [AgentContextJson]

/-- `_read_bytes`. -/
def readBytes (store : AgentContextStore) (snapshotId : Digest) :
    Except AgentError AgentContextSnapshot := do
  let snapshot ← orRaise (store.objects snapshotId) (.rejected
    "Agent context object is unavailable or unsafe")
  raiseIf (store.maxSnapshotBytes < encodedBytes snapshot) (.rejected
    "Agent context object is unavailable or unsafe")
  return snapshot

def publish (store : AgentContextStore) (snapshot : AgentContextSnapshot) :
    Except AgentError AgentContextStore := do
  raiseIf (store.maxSnapshotBytes < encodedBytes snapshot) (.rejected
    "Agent context snapshot exceeds the store limit")
  if (store.objects snapshot.snapshotId).isSome then
    let existing ← store.readBytes snapshot.snapshotId
    raiseIf (existing ≠ snapshot) (.rejected "Agent context object collision")
    return store
  else
    return { store with
      objects := Function.update store.objects snapshot.snapshotId (some snapshot) }

def read (store : AgentContextStore) (snapshotId : Digest) :
    Except AgentError AgentContextSnapshot := do
  let snapshot ← store.readBytes snapshotId
  raiseIf (snapshot.snapshotId ≠ snapshotId) (.rejected
    "Agent context object identity mismatch")
  return snapshot

variable {store store' : AgentContextStore} {snapshot : AgentContextSnapshot}

theorem read_eq_ok {snapshotId : Digest} : store.read snapshotId = .ok snapshot ↔
    store.objects snapshotId = some snapshot ∧
      encodedBytes snapshot ≤ store.maxSnapshotBytes ∧ snapshot.snapshotId = snapshotId := by
  simp only [read, readBytes, bind_eq_ok, orRaise_eq_ok, raiseIf_eq_ok, pure_eq_ok, not_lt,
    ne_eq, not_not]
  constructor
  · rintro ⟨_, ⟨_, hobject, -, hsize, rfl⟩, -, hid, rfl⟩
    exact ⟨hobject, hsize, hid⟩
  · rintro ⟨hobject, hsize, hid⟩
    exact ⟨snapshot, ⟨snapshot, hobject, (), hsize, rfl⟩, (), hid, rfl⟩

end AgentContextStore

end

end VulnLoom.AgentRuntime

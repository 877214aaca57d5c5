import Mathlib.Data.List.TakeWhile
import Mathlib.Tactic.Common

/-!
# URLs as ASCII texts

`urlsplit`, `urlunsplit` and the properties of a split result, as `urllib.parse` defines them on
ASCII texts. The address check of a bracketed host is a parameter (`hostOk`).

`netloc_of_urlsplit` : splitting the text that a scheme, a network location and an absolute path
compose gives back the network location. `port_eq_none` : a network location that is no more than
the rendered form of its own host names no port.
-/

namespace UrlText

/-! ## Partitions -/

/-- `str.partition` : the text before the first `c`, and what follows it where there is one. -/
def partition (c : Char) : List Char → List Char × Option (List Char)
  | [] => ([], none)
  | d :: s => if d = c then ([], some s) else (d :: (partition c s).1, (partition c s).2)

theorem partition_of_notMem {c : Char} : ∀ {s : List Char}, c ∉ s → partition c s = (s, none)
  | [], _ => rfl
  | d :: s, h => by
    rw [List.mem_cons, not_or] at h
    rw [partition, if_neg (Ne.symm h.1), partition_of_notMem h.2]

theorem partition_append {c : Char} {t : List Char} :
    ∀ {s : List Char}, c ∉ s → partition c (s ++ c :: t) = (s, some t)
  | [], _ => by rw [List.nil_append, partition, if_pos rfl]
  | d :: s, h => by
    rw [List.mem_cons, not_or] at h
    rw [List.cons_append, partition, if_neg (Ne.symm h.1), partition_append h.2]

/-- A text is its two parts with the separator between them. -/
theorem partition_spec (c : Char) : ∀ s : List Char, c ∉ (partition c s).1 ∧
    s = (partition c s).1 ++ ((partition c s).2.map (c :: ·)).getD []
  | [] => ⟨List.not_mem_nil, rfl⟩
  | d :: s => by
    obtain ⟨hnot, heq⟩ := partition_spec c s
    by_cases hd : d = c
    · rw [partition, if_pos hd]
      exact ⟨List.not_mem_nil, by simp [hd]⟩
    · rw [partition, if_neg hd]
      refine ⟨?_, ?_⟩
      · rw [List.mem_cons, not_or]
        exact ⟨Ne.symm hd, hnot⟩
      · rw [List.cons_append, ← heq]

/-! ## Splitting -/

structure Split where
  scheme : List Char
  netloc : List Char
  path : List Char
  query : List Char
  fragment : List Char

/-- What ends a network location. -/
def isDelimiter (c : Char) : Bool :=
  c = '/' ∨ c = '?' ∨ c = '#'

/-- `scheme_chars`. -/
def isSchemeChar (c : Char) : Bool :=
  c.isAlphanum ∨ c = '+' ∨ c = '-' ∨ c = '.'

/-- Leading blanks and controls are dropped, tabs and line ends are removed. -/
def clean (url : List Char) : List Char :=
  (url.dropWhile fun c => c.toNat ≤ 32).filter fun c => c ≠ '\t' ∧ c ≠ '\r' ∧ c ≠ '\n'

def splitScheme (url : List Char) : List Char × List Char :=
  match partition ':' url with
  | (c :: s, some rest) =>
    if c.isAlpha ∧ (c :: s).all isSchemeChar then ((c :: s).map Char.toLower, rest) else ([], url)
  | _ => ([], url)

/-- `_splitnetloc`, where the text has a network location. -/
def splitNetloc : List Char → List Char × List Char
  | '/' :: '/' :: rest =>
    (rest.takeWhile fun c => !isDelimiter c, rest.dropWhile fun c => !isDelimiter c)
  | url => ([], url)

/-- `netloc.rpartition('@')` : the host information. -/
def hostinfo (netloc : List Char) : List Char :=
  (partition '@' netloc.reverse).1.reverse

/-- `netloc.rpartition('@')` : the user information. -/
def userinfo (netloc : List Char) : Option (List Char) :=
  (partition '@' netloc.reverse).2.map List.reverse

/-- `_check_bracketed_netloc`. -/
def bracketedOk (hostOk : List Char → Bool) (netloc : List Char) : Bool :=
  match partition '[' (hostinfo netloc) with
  | (before, some rest) => before = [] ∧
      ((partition ']' rest).2.all fun port => port = [] ∨ port.head? = some ':') ∧
      hostOk (partition ']' rest).1
  | (_, none) => hostOk (partition ':' (hostinfo netloc)).1

/-- The brackets of a network location are balanced, and hold an address. -/
def bracketsOk (hostOk : List Char → Bool) (netloc : List Char) : Bool :=
  ('[' ∈ netloc ↔ ']' ∈ netloc) ∧ ('[' ∈ netloc → bracketedOk hostOk netloc)

/-- `urlsplit`; `none` is a `ValueError`. -/
def urlsplit (hostOk : List Char → Bool) (url : List Char) : Option Split :=
  let located := splitNetloc (splitScheme (clean url)).2
  let marked := partition '#' located.2
  let asked := partition '?' marked.1
  if bracketsOk hostOk located.1 then
    some ⟨(splitScheme (clean url)).1, located.1, asked.1, asked.2.getD [], marked.2.getD []⟩
  else none

/-- `uses_netloc`. -/
def usesNetloc : List String :=
  ["", "ftp", "http", "gopher", "nntp", "telnet", "imap", "wais", "file", "mms", "https", "shttp",
    "snews", "prospero", "rtsp", "rtsps", "rtspu", "rsync", "svn", "svn+ssh", "sftp", "nfs", "git",
    "git+ssh", "ws", "wss", "itms-services"]

/-- The network location and the path of `urlunsplit`. A path that begins with two slashes gets
an empty network location before it. -/
def unsplitNetloc (scheme netloc path : List Char) : List Char :=
  if netloc ≠ [] then
    '/' :: '/' :: netloc ++ (if path ≠ [] ∧ path.head? ≠ some '/' then '/' :: path else path)
  else if path.take 2 = ['/', '/'] ∨ (scheme ≠ [] ∧ String.ofList scheme ∈ usesNetloc ∧
      (path = [] ∨ path.head? = some '/')) then
    '/' :: '/' :: path
  else path

/-- `urlunsplit`. -/
def urlunsplit (scheme netloc path query fragment : List Char) : List Char :=
  (if scheme = [] then [] else scheme ++ [':']) ++ unsplitNetloc scheme netloc path ++
    (if query = [] then [] else '?' :: query) ++ (if fragment = [] then [] else '#' :: fragment)

/-! ## Host and port -/

/-- `_hostinfo`. -/
def hostPort (netloc : List Char) : List Char × List Char :=
  match partition '[' (hostinfo netloc) with
  | (_, some rest) =>
    ((partition ']' rest).1, (partition ':' ((partition ']' rest).2.getD [])).2.getD [])
  | (_, none) => ((partition ':' (hostinfo netloc)).1, (partition ':' (hostinfo netloc)).2.getD [])

/-- A host in lower case, but for the zone of a scoped address. -/
def lowerHost (host : List Char) : List Char :=
  (partition '%' host).1.map Char.toLower ++ ((partition '%' host).2.map ('%' :: ·)).getD []

/-- `hostname`. -/
def hostname (netloc : List Char) : Option (List Char) :=
  if (hostPort netloc).1 = [] then none else some (lowerHost (hostPort netloc).1)

def number (digits : List Char) : ℕ :=
  digits.foldl (fun n c => 10 * n + (c.toNat - '0'.toNat)) 0

/-- `port`; the outer `none` is a `ValueError`. -/
def port (netloc : List Char) : Option (Option ℕ) :=
  let digits := (hostPort netloc).2
  if digits = [] then some none
  else if digits.all Char.isDigit ∧ number digits ≤ 65535 then some (some (number digits))
  else none

/-- `username`. -/
def username (netloc : List Char) : Option (List Char) :=
  (userinfo netloc).map fun info => (partition ':' info).1

/-- `password`. -/
def password (netloc : List Char) : Option (List Char) :=
  (userinfo netloc).bind fun info => (partition ':' info).2

/-! ## Canonical texts -/

/-- A host as it stands in a network location. -/
def renderHost (host : List Char) : List Char :=
  if ':' ∈ host then '[' :: host ++ [']'] else host

variable {url : List Char}

theorem clean_of_printable (h : ∀ c ∈ url, 32 < c.toNat) : clean url = url := by
  have hdrop : url.dropWhile (fun c => decide (c.toNat ≤ 32)) = url := by
    cases url with
    | nil => rfl
    | cons c s =>
      have hc := h c List.mem_cons_self
      rw [List.dropWhile_cons_of_neg (by simpa using hc)]
  rw [clean, hdrop, List.filter_eq_self]
  intro c hc
  have hlow := h c hc
  simp only [decide_eq_true_eq]
  refine ⟨?_, ?_, ?_⟩
  · rintro rfl
    exact absurd hlow (by decide)
  · rintro rfl
    exact absurd hlow (by decide)
  · rintro rfl
    exact absurd hlow (by decide)

variable {netloc : List Char}

theorem splitNetloc_append {rest : List Char} (h : ∀ c ∈ netloc, isDelimiter c = false) :
    splitNetloc ('/' :: '/' :: netloc ++ '/' :: rest) = (netloc, '/' :: rest) := by
  have hall : ∀ c ∈ netloc, (!isDelimiter c) = true := fun c hc => by rw [h c hc]; rfl
  simp only [List.cons_append, splitNetloc, Prod.mk.injEq]
  constructor
  · rw [List.takeWhile_append_of_pos hall, List.takeWhile_cons_of_neg (by decide),
      List.append_nil]
  · rw [List.dropWhile_append_of_pos hall, List.dropWhile_cons_of_neg (by decide)]

variable {c d : Char}

/-- A character that is not a small letter stands in a lowered text only where it was. -/
theorem eq_of_toLower (hd : d.toNat < 97 ∨ 122 < d.toNat) (h : c.toLower = d) : c = d := by
  by_cases hupper : c.val ≥ 'A'.val ∧ c.val ≤ 'Z'.val
  · have hnat : d.toNat = c.toNat + 32 := by
      rw [← h, show c.toLower = _ from dif_pos hupper]
      have hge : (65 : ℕ) ≤ c.val.toNat := hupper.1
      have hle : c.val.toNat ≤ (90 : ℕ) := hupper.2
      change (c.val + ('a'.val - 'A'.val)).toNat = c.val.toNat + 32
      rw [UInt32.toNat_add]
      change (c.val.toNat + 32) % 2 ^ 32 = c.val.toNat + 32
      omega
    have hge : (65 : ℕ) ≤ c.toNat := hupper.1
    have hle : c.toNat ≤ (90 : ℕ) := hupper.2
    omega
  · rwa [show c.toLower = c from dif_neg hupper] at h

variable {s : List Char}

theorem mem_of_mem_map_toLower (hd : d.toNat < 97 ∨ 122 < d.toNat) (h : d ∈ s.map Char.toLower) :
    d ∈ s := by
  obtain ⟨c, hc, heq⟩ := List.mem_map.1 h
  rwa [← eq_of_toLower hd heq]

@[simp] theorem length_lowerHost (host : List Char) : (lowerHost host).length = host.length := by
  obtain ⟨-, heq⟩ := partition_spec '%' host
  have hlength := congrArg List.length heq
  rw [List.length_append] at hlength
  rw [lowerHost, List.length_append, List.length_map, ← hlength]

theorem mem_of_mem_lowerHost (hd : d.toNat < 97 ∨ 122 < d.toNat) {host : List Char}
    (h : d ∈ lowerHost host) : d ∈ host := by
  obtain ⟨-, heq⟩ := partition_spec '%' host
  rw [heq, List.mem_append]
  rcases List.mem_append.1 h with h | h
  · exact .inl (mem_of_mem_map_toLower hd h)
  · exact .inr h

/-- The scheme and the text after it. -/
theorem splitScheme_http {scheme rest : List Char}
    (h : scheme = "http".toList ∨ scheme = "https".toList) :
    splitScheme (scheme ++ ':' :: rest) = (scheme, rest) := by
  rcases h with rfl | rfl
  · rfl
  · rfl

variable {hostOk : List Char → Bool}

/-- Splitting the text that a scheme, a network location and a path compose gives back the network
location. -/
theorem netloc_of_urlsplit {scheme path : List Char} {s : Split}
    (hscheme : scheme = "http".toList ∨ scheme = "https".toList) (hne : netloc ≠ [])
    (hnetloc : ∀ c ∈ netloc, isDelimiter c = false) (hpath : path ≠ [])
    (hprint : ∀ c ∈ urlunsplit scheme netloc path [] [], 32 < c.toNat)
    (h : urlsplit hostOk (urlunsplit scheme netloc path [] []) = some s) : s.netloc = netloc := by
  obtain ⟨rest, hrest⟩ : ∃ rest,
      (if path ≠ [] ∧ path.head? ≠ some '/' then '/' :: path else path) = '/' :: rest := by
    cases path with
    | nil => exact absurd rfl hpath
    | cons c rest =>
      by_cases hc : c = '/'
      · exact ⟨rest, by simp [hc]⟩
      · exact ⟨c :: rest, by simp [hc]⟩
  have hschemeNe : scheme ≠ [] := by
    rcases hscheme with rfl | rfl
    · decide
    · decide
  have htext : urlunsplit scheme netloc path [] [] =
      scheme ++ ':' :: ('/' :: '/' :: netloc ++ '/' :: rest) := by
    simp [urlunsplit, unsplitNetloc, hschemeNe, hne, ← hrest]
  simp only [urlsplit, clean_of_printable hprint] at h
  rw [htext, splitScheme_http hscheme] at h
  simp only [splitNetloc_append hnetloc] at h
  split_ifs at h
  cases h
  rfl

/-! ## Where the characters come from -/

theorem mem_of_mem_partition_fst (h : c ∈ (partition d s).1) : c ∈ s := by
  rw [(partition_spec d s).2]
  exact List.mem_append_left _ h

theorem mem_of_mem_partition_snd (h : c ∈ (partition d s).2.getD []) : c ∈ s := by
  rw [(partition_spec d s).2]
  refine List.mem_append_right _ ?_
  cases hafter : (partition d s).2 with
  | none =>
    rw [hafter] at h
    cases h
  | some t =>
    rw [hafter] at h
    exact List.mem_cons_of_mem _ h

theorem mem_of_mem_splitScheme (h : c ∈ (splitScheme url).2) : c ∈ url := by
  simp only [splitScheme] at h
  split at h
  next d s rest hsplit =>
    split_ifs at h
    · refine mem_of_mem_partition_snd (d := ':') ?_
      rw [hsplit]
      exact h
    · exact h
  · exact h

theorem mem_of_mem_splitNetloc (h : c ∈ (splitNetloc url).1) : c ∈ url ∧ isDelimiter c = false := by
  unfold splitNetloc at h
  split at h
  next rest =>
    refine ⟨List.mem_cons_of_mem _ (List.mem_cons_of_mem _ ((List.takeWhile_prefix _).subset h)),
      ?_⟩
    simpa using List.mem_takeWhile_imp h
  · cases h

/-- The characters of a network location are characters of the URL, and no delimiters. -/
theorem mem_of_mem_netloc {s : Split} (h : urlsplit hostOk url = some s) (hc : c ∈ s.netloc) :
    c ∈ url ∧ isDelimiter c = false := by
  simp only [urlsplit] at h
  split_ifs at h
  cases h
  obtain ⟨hmem, hplain⟩ := mem_of_mem_splitNetloc hc
  refine ⟨?_, hplain⟩
  have hclean := mem_of_mem_splitScheme hmem
  exact (List.dropWhile_sublist _).subset (List.mem_filter.1 hclean |>.1)

/-- What holds of the characters of a network location, and is kept by lowering, holds of those of
its host. -/
theorem forall_hostname {P : Char → Prop} (hlower : ∀ c, P c → P c.toLower) {name : List Char}
    (h : ∀ c ∈ netloc, P c) (hname : hostname netloc = some name) : ∀ c ∈ name, P c := by
  have hinfo : ∀ c ∈ hostinfo netloc, P c := fun c hc =>
    h c (List.mem_reverse.1 (mem_of_mem_partition_fst (List.mem_reverse.1 hc)))
  have hhost : ∀ c ∈ (hostPort netloc).1, P c := by
    intro c hc
    simp only [hostPort] at hc
    split at hc
    next before rest hsplit =>
      refine hinfo c (mem_of_mem_partition_snd (d := '[') ?_)
      rw [hsplit]
      exact mem_of_mem_partition_fst hc
    · exact hinfo c (mem_of_mem_partition_fst hc)
  simp only [hostname] at hname
  split_ifs at hname
  cases hname
  intro c hc
  rcases List.mem_append.1 hc with hc | hc
  · obtain ⟨d, hd, rfl⟩ := List.mem_map.1 hc
    exact hlower d (hhost d (mem_of_mem_partition_fst hd))
  · refine hhost c ?_
    rw [(partition_spec '%' (hostPort netloc).1).2]
    exact List.mem_append_right _ hc

/-! ## Ports -/

theorem length_renderHost (host : List Char) :
    (renderHost host).length = host.length + if ':' ∈ host then 2 else 0 := by
  unfold renderHost
  split_ifs
  · simp
  · rfl

theorem mem_of_mem_renderHost {host : List Char} (h : c ∈ renderHost host) :
    c = '[' ∨ c ∈ host ∨ c = ']' := by
  unfold renderHost at h
  split_ifs at h
  · simpa using h
  · exact .inr (.inl h)

/-- The host information of a network location without user information is all of it. -/
theorem hostinfo_of_userinfo (h : userinfo netloc = none) : hostinfo netloc = netloc := by
  have hspec := (partition_spec '@' netloc.reverse).2
  rw [userinfo, Option.map_eq_none_iff] at h
  rw [h] at hspec
  simp only [Option.map_none, Option.getD_none, List.append_nil] at hspec
  rw [hostinfo, ← hspec, List.reverse_reverse]

/-- A bracketed host leaves no room for a port in its own rendered form. -/
theorem port_nil_of_bracketed {before rest : List Char}
    (h : before ++ '[' :: rest =
      renderHost ((lowerHost (partition ']' rest).1).map Char.toLower)) :
    (partition ':' ((partition ']' rest).2.getD [])).2.getD [] = [] := by
  obtain ⟨-, hrest⟩ := partition_spec ']' rest
  have hlength := congrArg List.length h
  have hparts := congrArg List.length hrest
  rw [length_renderHost, List.length_map, length_lowerHost, List.length_append,
    List.length_cons] at hlength
  rw [List.length_append] at hparts
  cases hafter : (partition ']' rest).2 with
  | none => rfl
  | some after =>
    simp only [hafter, Option.map_some, Option.getD_some, List.length_cons] at hparts
    have hnil : after = [] := by
      refine List.length_eq_zero_iff.1 ?_
      split_ifs at hlength <;> omega
    rw [hnil]
    rfl

/-- A host without brackets leaves no room for a port in its own rendered form. -/
theorem port_nil_of_plain {hostport : List Char}
    (h : hostport = renderHost ((lowerHost (partition ':' hostport).1).map Char.toLower)) :
    (partition ':' hostport).2.getD [] = [] := by
  obtain ⟨hnot, hparts⟩ := partition_spec ':' hostport
  have hplain : ':' ∉ (lowerHost (partition ':' hostport).1).map Char.toLower := fun hmem =>
    hnot (mem_of_mem_lowerHost (by decide) (mem_of_mem_map_toLower (by decide) hmem))
  have hlength := congrArg List.length h
  rw [length_renderHost, if_neg hplain, List.length_map, length_lowerHost] at hlength
  have hsum := congrArg List.length hparts
  rw [List.length_append] at hsum
  cases hafter : (partition ':' hostport).2 with
  | none => rfl
  | some after =>
    simp only [hafter, Option.map_some, Option.getD_some, List.length_cons] at hsum
    omega

/-- A network location that is no more than the rendered form of its own host names no port. -/
theorem port_eq_none {name : List Char} (hinfo : userinfo netloc = none)
    (hname : hostname netloc = some name) (heq : netloc = renderHost (name.map Char.toLower)) :
    port netloc = some none := by
  have hall := hostinfo_of_userinfo hinfo
  have hport : (hostPort netloc).2 = [] := by
    simp only [hostname] at hname
    split_ifs at hname
    cases hname
    simp only [hostPort, hall] at heq ⊢
    split at heq
    next before rest hsplit =>
      have hspec := (partition_spec '[' netloc).2
      rw [hsplit] at hspec
      exact port_nil_of_bracketed (hspec.symm.trans heq)
    · exact port_nil_of_plain heq
  simp [port, hport]

end UrlText

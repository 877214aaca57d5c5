import VulnLoom.UrlCanonical

/-!
# The round trip of canonical URLs

A canonical host is lowered, has none of the characters that a network location is cut at, and is
an address where it has a colon. Composed with a port, a path and a query it is split into these
again (`splitUnicode_compose`), unless it has an opening bracket and no colon : then it stands
without brackets, and the text is no URL (`splitUnicode_bracket`).
-/

set_option linter.unusedSectionVars false

namespace UrlText

/-! ## What a URL is split into -/

variable {c : Char} {url : List Char}

theorem mem_of_mem_clean (h : c ∈ clean url) : c ∈ url :=
  (List.dropWhile_sublist _).subset (List.mem_filter.1 h).1

/-- A path after a network location is absolute or empty. -/
theorem splitNetloc_path (h : (splitNetloc url).1 ≠ []) :
    (splitNetloc url).2 = [] ∨ ∃ c s, (splitNetloc url).2 = c :: s ∧ isDelimiter c := by
  unfold splitNetloc at h ⊢
  split at h
  · next rest =>
    simp only
    cases hdrop : rest.dropWhile fun c => !isDelimiter c with
    | nil => exact .inl rfl
    | cons c s =>
      refine .inr ⟨c, s, rfl, ?_⟩
      have hne : rest.dropWhile (fun c => !isDelimiter c) ≠ [] := by rw [hdrop]; simp
      have hhead := List.head_dropWhile_not (fun c => !isDelimiter c) hne
      simp only [hdrop, List.head_cons] at hhead
      simpa using hhead
  · exact absurd rfl h

theorem mem_splitNetloc_snd (h : c ∈ (splitNetloc url).2) : c ∈ url := by
  unfold splitNetloc at h
  split at h
  · exact List.mem_cons_of_mem _ (List.mem_cons_of_mem _ ((List.dropWhile_sublist _).subset h))
  · exact h

/-- The path and the query of a URL with a network location. -/
structure Tail (url path query : List Char) : Prop where
  path_mem : ∀ c ∈ path, c ∈ url
  query_mem : ∀ c ∈ query, c ∈ url
  path_shape : path = [] ∨ path.head? = some '/'
  path_plain : '?' ∉ path ∧ '#' ∉ path
  query_plain : '#' ∉ query

variable {hostOk : List Char → Bool}

theorem tail_of_urlsplit {s : Split} (h : urlsplit hostOk url = some s) (hne : s.netloc ≠ []) :
    Tail url s.path s.query := by
  simp only [urlsplit] at h
  split_ifs at h
  cases h
  simp only at hne ⊢
  have hurl : ∀ c ∈ (splitNetloc (splitScheme (clean url)).2).2, c ∈ url := fun c hc =>
    mem_of_mem_clean (mem_of_mem_splitScheme (mem_splitNetloc_snd hc))
  have hpath := splitNetloc_path hne
  generalize (splitNetloc (splitScheme (clean url)).2).2 = tail at hurl hpath ⊢
  obtain ⟨hhash, -⟩ := partition_spec '#' tail
  have hmarked : ∀ c ∈ (partition '#' tail).1, c ∈ url := fun c hc =>
    hurl c (mem_of_mem_partition_fst hc)
  refine ⟨fun c hc => hmarked c (mem_of_mem_partition_fst hc),
    fun c hc => hmarked c (mem_of_mem_partition_snd hc), ?_,
    ⟨(partition_spec '?' _).1, fun hc => hhash (mem_of_mem_partition_fst hc)⟩,
    fun hc => hhash (mem_of_mem_partition_snd hc)⟩
  rcases hpath with rfl | ⟨c, rest, rfl, hc⟩
  · exact .inl rfl
  · simp only [isDelimiter, decide_eq_true_eq] at hc
    rcases hc with rfl | rfl | rfl
    · refine .inr ?_
      rw [partition, if_neg (by decide), partition, if_neg (by decide)]
      rfl
    · refine .inl ?_
      rw [partition, if_neg (by decide), partition, if_pos rfl]
    · refine .inl ?_
      rw [partition, if_pos rfl]
      rfl

/-! ## Composing -/

variable {netloc : List Char}

theorem splitNetloc_compose {tail : List Char} (h : ∀ c ∈ netloc, isDelimiter c = false)
    (htail : tail.head? = some '/') : splitNetloc ('/' :: '/' :: (netloc ++ tail)) =
      (netloc, tail) := by
  cases tail with
  | nil => cases htail
  | cons c rest =>
    cases htail
    exact splitNetloc_append h

/-- The path and the query of a composed URL. -/
def composed (path query : List Char) : List Char :=
  path ++ if query = [] then [] else '?' :: query

variable {path : List Char}

theorem partition_composed {query : List Char} (hpath : '?' ∉ path) :
    (partition '?' (composed path query)).1 = path ∧
      (partition '?' (composed path query)).2.getD [] = query := by
  unfold composed
  split_ifs with hquery
  · rw [List.append_nil, partition_of_notMem hpath, hquery]
    exact ⟨rfl, rfl⟩
  · rw [partition_append hpath]
    exact ⟨rfl, rfl⟩

/-- A network location, an absolute path and a query that are composed are split again, where the
brackets of the network location are right. -/
theorem urlsplit_compose {scheme query : List Char}
    (hscheme : scheme = "http".toList ∨ scheme = "https".toList) (hne : netloc ≠ [])
    (hnetloc : ∀ c ∈ netloc, isDelimiter c = false) (hpath : path.head? = some '/')
    (hplain : '?' ∉ path ∧ '#' ∉ path) (hquery : '#' ∉ query)
    (hprint : ∀ c ∈ urlunsplit scheme netloc path query [], 32 < c.toNat) :
    urlsplit hostOk (urlunsplit scheme netloc path query []) =
      if bracketsOk hostOk netloc then some ⟨scheme, netloc, path, query, []⟩ else none := by
  have hschemeNe : scheme ≠ [] := by
    rcases hscheme with rfl | rfl
    · decide
    · decide
  have hhead : (composed path query).head? = some '/' := by
    unfold composed
    rw [List.head?_append, hpath]
    rfl
  have hhash : '#' ∉ composed path query := by
    unfold composed
    split_ifs
    · simpa using hplain.2
    · simp [hplain.2, hquery]
  have htext : urlunsplit scheme netloc path query [] =
      scheme ++ ':' :: ('/' :: '/' :: (netloc ++ composed path query)) := by
    simp [urlunsplit, unsplitNetloc, composed, hschemeNe, hne, hpath]
  rw [urlsplit, clean_of_printable hprint, htext, splitScheme_http hscheme]
  simp only [splitNetloc_compose hnetloc hhead, partition_of_notMem hhash,
    (partition_composed hplain.1).1, (partition_composed hplain.1).2, Option.getD_none]

/-! ## Ports -/

theorem number_toString (n : ℕ) : number (toString n).toList = n := by
  change number n.repr.toList = n
  rw [Nat.toList_repr, number]
  simpa [Nat.ofDigitChars_eq_foldl] using Nat.ofDigitChars_ten_toDigits (n := n)

theorem digits_toString (n : ℕ) : ∀ c ∈ (toString n).toList, c.isDigit := by
  change ∀ c ∈ n.repr.toList, c.isDigit
  rw [Nat.toList_repr]
  exact fun c hc => Nat.isDigit_of_mem_toDigits (by decide) (by decide) hc

theorem toString_ne_nil (n : ℕ) : (toString n).toList ≠ [] := by
  change n.repr.toList ≠ []
  rw [Nat.toList_repr]
  exact Nat.toDigits_ne_nil

/-- The digits of a port, where there is one. -/
def portDigits (port : Option ℕ) : List Char :=
  port.elim [] fun p => (toString p).toList

/-- A network location of a host and a port. -/
def canonicalNetloc (host : List Char) (port : Option ℕ) : List Char :=
  renderHost host ++ port.elim [] fun p => ':' :: (toString p).toList

variable {host : List Char}

theorem mem_canonicalNetloc {port : Option ℕ} (h : c ∈ canonicalNetloc host port) :
    (c ∈ renderHost host) ∨ c = ':' ∨ c.isDigit := by
  rcases List.mem_append.1 h with h | h
  · exact .inl h
  · cases port with
    | none => cases h
    | some p =>
      rcases List.mem_cons.1 h with rfl | h
      · exact .inr (.inl rfl)
      · exact .inr (.inr (digits_toString p c h))

/-! ## Hosts of URLs -/

theorem mem_hostinfo (h : c ∈ hostinfo netloc) : c ∈ netloc ∧ c ≠ '@' := by
  rw [hostinfo, List.mem_reverse] at h
  refine ⟨List.mem_reverse.1 (mem_of_mem_partition_fst h), ?_⟩
  rintro rfl
  exact (partition_spec '@' netloc.reverse).1 h

/-- A network location is the user information and the host information. -/
theorem mem_netloc (h : c ∈ netloc) :
    c ∈ hostinfo netloc ∨ c = '@' ∨ ∃ info ∈ userinfo netloc, c ∈ info := by
  rw [← List.mem_reverse, (partition_spec '@' netloc.reverse).2, List.mem_append] at h
  rcases h with h | h
  · exact .inl (List.mem_reverse.2 h)
  · refine .inr ?_
    rw [userinfo]
    cases hafter : (partition '@' netloc.reverse).2 with
    | none =>
      rw [hafter] at h
      cases h
    | some info =>
      rw [hafter, Option.map_some, Option.getD_some, List.mem_cons] at h
      rcases h with rfl | h
      · exact .inl rfl
      · exact .inr ⟨info.reverse, rfl, List.mem_reverse.2 h⟩

/-- There is no user, and no password. -/
def Anonymous (netloc : List Char) : Prop :=
  (∀ name ∈ username netloc, name = []) ∧ ∀ secret ∈ password netloc, secret = []

theorem Anonymous.mem_hostinfo (h : Anonymous netloc) (hc : c ∈ netloc) (hat : c ≠ '@')
    (hcolon : c ≠ ':') : c ∈ hostinfo netloc := by
  rcases mem_netloc hc with hmem | rfl | ⟨info, hinfo, hmem⟩
  · exact hmem
  · exact absurd rfl hat
  · have hname := h.1 (partition ':' info).1 (by rw [username, hinfo]; rfl)
    rw [(partition_spec ':' info).2, hname, List.nil_append] at hmem
    cases hsecret : (partition ':' info).2 with
    | none =>
      rw [hsecret] at hmem
      cases hmem
    | some secret =>
      rw [hsecret, Option.map_some, Option.getD_some,
        h.2 secret (by rw [password, hinfo, Option.bind_some, hsecret]; rfl),
        List.mem_singleton] at hmem
      exact absurd hmem hcolon

theorem isCaseless_of (h : c.toNat < 128) (halpha : c.isAlpha = false) : isCaseless c := by
  simp [isCaseless, h, halpha]

theorem isCaseless_of_le (h : c.toNat ≤ 32) : isCaseless c := by
  have hupper : ¬('A' ≤ c ∧ c ≤ 'Z') := fun hbounds => by
    have : (65 : ℕ) ≤ c.toNat := hbounds.1
    omega
  have hlower : ¬('a' ≤ c ∧ c ≤ 'z') := fun hbounds => by
    have : (97 : ℕ) ≤ c.toNat := hbounds.1
    omega
  refine isCaseless_of (by omega) (Bool.or_eq_false_iff.2 ⟨decide_eq_false hupper, ?_⟩)
  exact (Bool.decide_and _ _).symm.trans (decide_eq_false hlower)

theorem isCaseless_of_isDelimiter (h : isDelimiter c) : isCaseless c := by
  simp only [isDelimiter, decide_eq_true_eq] at h
  rcases h with rfl | rfl | rfl
  · rfl
  · rfl
  · rfl

/-- The host of a network location, and whether it stands in brackets. -/
theorem hostPort_cases (netloc : List Char) :
    (∃ before rest, partition '[' (hostinfo netloc) = (before, some rest) ∧
      (hostPort netloc).1 = (partition ']' rest).1) ∨
    (partition '[' (hostinfo netloc)).2 = none ∧
      (hostPort netloc).1 = (partition ':' (hostinfo netloc)).1 := by
  unfold hostPort
  split
  · next before rest hsplit => exact .inl ⟨before, rest, hsplit, rfl⟩
  · next hsplit => exact .inr ⟨by rw [hsplit], rfl⟩

theorem mem_hostPort (h : c ∈ (hostPort netloc).1) : c ∈ hostinfo netloc := by
  rcases hostPort_cases netloc with ⟨before, rest, hsplit, heq⟩ | ⟨-, heq⟩
  · rw [heq] at h
    refine mem_of_mem_partition_snd (d := '[') ?_
    rw [hsplit]
    exact mem_of_mem_partition_fst h
  · rw [heq] at h
    exact mem_of_mem_partition_fst h

/-- An opening bracket in the host information is balanced, and an address follows it. -/
theorem bracketed_of_opening {netloc before rest : List Char}
    (h : bracketsOk checkBracketedHost netloc)
    (hsplit : partition '[' (hostinfo netloc) = (before, some rest)) :
    checkBracketedHost (partition ']' rest).1 := by
  have hmem : '[' ∈ hostinfo netloc := by
    rw [(partition_spec '[' (hostinfo netloc)).2, hsplit]
    simp
  simp only [bracketsOk, decide_eq_true_eq] at h
  have hok := h.2 (mem_hostinfo hmem).1
  rw [bracketedOk, hsplit] at hok
  simp only [decide_eq_true_eq] at hok
  exact hok.2.2

theorem port_le {port : Option ℕ} (h : UrlText.port netloc = some port) :
    ∀ p ∈ port, p ≤ 65535 := by
  simp only [UrlText.port] at h
  split_ifs at h with hnil hdigits
  · cases h
    simp
  · cases h
    rintro p hp
    cases hp
    exact hdigits.2

/-! ## Canonical hosts -/

variable [Lowering]

/-- What stands in a host, and in no other place of a URL. -/
structure HostChar (c : Char) : Prop where
  printable : 32 < c.toNat
  delimiter : isDelimiter c = false
  compat : isCompatDelimiter c = false
  at_sign : c ≠ '@'
  closing : c ≠ ']'
  backslash : c ≠ '\\'

structure CanonicalHost (host : List Char) : Prop where
  ne_nil : host ≠ []
  lowered : ∀ t : List Char, (∀ c ∈ t, c ∈ host) → lowerText t = t
  chars : ∀ c ∈ host, HostChar c
  address : ':' ∈ host → checkBracketedHost host

namespace CanonicalHost

variable {host : List Char} (h : CanonicalHost host)

include h

theorem loweredHost_eq : loweredHost host = host := by
  have hspec := (partition_spec '%' host).2
  rw [loweredHost, h.lowered _ fun c hc => mem_of_mem_partition_fst hc]
  exact hspec.symm

/-- A character of a canonical network location is no delimiter. -/
theorem netloc_char {port : Option ℕ} (hc : c ∈ canonicalNetloc host port) :
    32 < c.toNat ∧ isDelimiter c = false ∧ isCompatDelimiter c = false ∧ c ≠ '@' ∧ c ≠ '\\' := by
  rcases mem_canonicalNetloc hc with hc | rfl | hdigit
  · rcases mem_of_mem_renderHost hc with rfl | hc | rfl
    · decide
    · have hchar := h.chars c hc
      exact ⟨hchar.printable, hchar.delimiter, hchar.compat, hchar.at_sign, hchar.backslash⟩
    · decide
  · decide
  · rw [isDigit_eq, decide_eq_true_eq] at hdigit
    have hne : ∀ d : Char, d.toNat < 48 ∨ 57 < d.toNat → c ≠ d := by
      rintro d hd rfl
      omega
    refine ⟨by omega, ?_, ?_, hne _ (by decide), hne _ (by decide)⟩
    · simp only [isDelimiter, decide_eq_false_iff_not, not_or]
      exact ⟨hne _ (by decide), hne _ (by decide), hne _ (by decide)⟩
    · refine decide_eq_false fun hmem => ?_
      simp only [compatDelimiters, List.mem_cons, List.not_mem_nil, or_false] at hmem
      omega

theorem userinfo_eq (port : Option ℕ) : userinfo (canonicalNetloc host port) = none := by
  have hnot : '@' ∉ (canonicalNetloc host port).reverse := fun hmem =>
    (h.netloc_char (List.mem_reverse.1 hmem)).2.2.2.1 rfl
  rw [userinfo, partition_of_notMem hnot]
  rfl

theorem hostinfo_eq (port : Option ℕ) :
    hostinfo (canonicalNetloc host port) = canonicalNetloc host port :=
  hostinfo_of_userinfo (h.userinfo_eq port)

theorem closing_notMem : ']' ∉ host := fun hmem =>
  (h.chars _ hmem).closing rfl

theorem opening_of_colon (hcolon : ':' ∈ host) (port : Option ℕ) :
    canonicalNetloc host port =
      '[' :: (host ++ ']' :: port.elim [] fun p => ':' :: (toString p).toList) := by
  simp [canonicalNetloc, renderHost, hcolon]

theorem partition_elim (port : Option ℕ) :
    (partition ':' (port.elim [] fun p => ':' :: (toString p).toList)).2.getD [] =
      portDigits port := by
  cases port with
  | none => rfl
  | some p =>
    rw [Option.elim_some, partition, if_pos rfl]
    rfl

/-- The host and the digits of the port, as they were composed. -/
theorem hostPort_eq (hbracket : '[' ∈ host → ':' ∈ host) (port : Option ℕ) :
    hostPort (canonicalNetloc host port) = (host, portDigits port) := by
  rw [hostPort, h.hostinfo_eq]
  by_cases hcolon : ':' ∈ host
  · rw [h.opening_of_colon hcolon, partition, if_pos rfl]
    simp only [partition_append h.closing_notMem, Option.getD_some, h.partition_elim port]
  · have hopening : '[' ∉ canonicalNetloc host port := by
      intro hmem
      rcases mem_canonicalNetloc hmem with hmem | hmem | hmem
      · rw [renderHost, if_neg hcolon] at hmem
        exact hcolon (hbracket hmem)
      · exact absurd hmem (by decide)
      · exact absurd hmem (by decide)
    rw [partition_of_notMem hopening]
    simp only [canonicalNetloc, renderHost, if_neg hcolon, partition_append_of_notMem hcolon]
    rw [h.partition_elim port]
    cases port with
    | none => simp [partition]
    | some p => simp [partition]

theorem hostname_eq (hbracket : '[' ∈ host → ':' ∈ host) (port : Option ℕ) :
    unicodeHostname (canonicalNetloc host port) = some host := by
  rw [unicodeHostname, h.hostPort_eq hbracket, if_neg h.ne_nil, h.loweredHost_eq]

theorem port_eq (hbracket : '[' ∈ host → ':' ∈ host) {port : Option ℕ}
    (hport : ∀ p ∈ port, p ≤ 65535) : UrlText.port (canonicalNetloc host port) = some port := by
  rw [UrlText.port, h.hostPort_eq hbracket]
  cases port with
  | none => rfl
  | some p =>
    have hdigits : (toString p).toList.all Char.isDigit :=
      List.all_eq_true.2 (digits_toString p)
    change (if (toString p).toList = [] then _ else if _ then _ else _) = _
    have hle : number (toString p).toList ≤ 65535 := by
      rw [number_toString]
      exact hport p rfl
    rw [if_neg (toString_ne_nil p), if_pos ⟨hdigits, hle⟩]
    exact congrArg (fun n => some (some n)) (number_toString p)

/-- The brackets of a canonical network location are right exactly where the host has no opening
bracket of its own without a colon. -/
theorem bracketsOk_eq (port : Option ℕ) :
    bracketsOk checkBracketedHost (canonicalNetloc host port) =
      decide ('[' ∈ host → ':' ∈ host) := by
  by_cases hcolon : ':' ∈ host
  · rw [decide_eq_true fun _ => hcolon, bracketsOk, h.opening_of_colon hcolon, decide_eq_true]
    refine ⟨by simp, fun _ => ?_⟩
    rw [← h.opening_of_colon hcolon, bracketedOk, h.hostinfo_eq, h.opening_of_colon hcolon,
      partition, if_pos rfl]
    simp only [partition_append h.closing_notMem, Option.all_some, h.address hcolon, and_true,
      true_and, decide_eq_true_eq]
    cases port with
    | none => exact .inl rfl
    | some p => exact .inr rfl
  · have hclosing : ']' ∉ canonicalNetloc host port := by
      intro hmem
      rcases mem_canonicalNetloc hmem with hmem | hmem | hmem
      · rw [renderHost, if_neg hcolon] at hmem
        exact h.closing_notMem hmem
      · exact absurd hmem (by decide)
      · exact absurd hmem (by decide)
    have hopening : '[' ∈ canonicalNetloc host port ↔ '[' ∈ host := by
      constructor
      · intro hmem
        rcases mem_canonicalNetloc hmem with hmem | hmem | hmem
        · rwa [renderHost, if_neg hcolon] at hmem
        · exact absurd hmem (by decide)
        · exact absurd hmem (by decide)
      · intro hmem
        rw [canonicalNetloc, renderHost, if_neg hcolon]
        exact List.mem_append_left _ hmem
    rw [bracketsOk]
    refine decide_eq_decide.2 ?_
    constructor
    · rintro ⟨hiff, -⟩ hmem
      exact absurd (hiff.1 (hopening.2 hmem)) hclosing
    · intro himp
      have hnot : '[' ∉ canonicalNetloc host port := fun hmem =>
        hcolon (himp (hopening.1 hmem))
      exact ⟨iff_of_false hnot hclosing, fun hmem => absurd hmem hnot⟩

theorem netloc_ne_nil (port : Option ℕ) : canonicalNetloc host port ≠ [] := by
  intro hnil
  have hlength := length_renderHost host
  have hpos := List.length_pos_iff.2 h.ne_nil
  rw [(List.append_eq_nil_iff.1 hnil).1, List.length_nil] at hlength
  omega

/-- The text of a canonical network location, an absolute path and a query is split into these; it
is no URL where the host has an opening bracket and no colon. -/
theorem splitUnicode_compose {scheme path query : List Char} (port : Option ℕ)
    (hscheme : scheme = "http".toList ∨ scheme = "https".toList) (hpath : path.head? = some '/')
    (hplain : '?' ∉ path ∧ '#' ∉ path) (hquery : '#' ∉ query)
    (hprint : ∀ c ∈ urlunsplit scheme (canonicalNetloc host port) path query [], 32 < c.toNat) :
    splitUnicode (urlunsplit scheme (canonicalNetloc host port) path query []) =
      if '[' ∈ host → ':' ∈ host then some ⟨scheme, canonicalNetloc host port, path, query, []⟩
      else none := by
  have hcompat : (canonicalNetloc host port).any isCompatDelimiter = false := by
    rw [List.any_eq_false]
    intro c hc
    rw [(h.netloc_char hc).2.2.1]
    decide
  rw [splitUnicode, urlsplit_compose hscheme (h.netloc_ne_nil port)
    (fun c hc => (h.netloc_char hc).2.1) hpath hplain hquery hprint, h.bracketsOk_eq]
  by_cases hbracket : '[' ∈ host → ':' ∈ host
  · rw [if_pos (decide_eq_true hbracket), if_pos hbracket, Option.bind_some]
    simp only [hcompat]
    rfl
  · rw [if_neg (by simpa using hbracket), if_neg hbracket]
    rfl

end CanonicalHost

/-! ## Hosts in lower case -/

theorem mem_of_mem_loweredHost {d : Char} (hd : isCaseless d)
    (h : d ∈ lowerText (loweredHost host)) : d ∈ host := by
  have hmem := mem_of_mem_lowerText hd h
  rw [(partition_spec '%' host).2]
  rcases List.mem_append.1 hmem with hmem | hmem
  · exact List.mem_append_left _ (mem_of_mem_lowerText hd hmem)
  · exact List.mem_append_right _ hmem

theorem lowerText_eq_nil {s : List Char} (h : lowerText s = []) : s = [] :=
  lowerFrom_eq_nil h

theorem lowerText_loweredHost_ne_nil (h : host ≠ []) : lowerText (loweredHost host) ≠ [] := by
  intro hnil
  obtain ⟨hfirst, hsecond⟩ := List.append_eq_nil_iff.1 (lowerText_eq_nil hnil)
  refine h ?_
  rw [(partition_spec '%' host).2, lowerText_eq_nil hfirst, hsecond]
  rfl

/-- The host of a URL without credentials, lowered, is canonical. -/
theorem canonicalHost_of_netloc (hne : (hostPort netloc).1 ≠ [])
    (hchars : ∀ c ∈ netloc, 32 < c.toNat ∧ c ≠ '\\' ∧ isDelimiter c = false ∧
      isCompatDelimiter c = false) (hanonymous : Anonymous netloc)
    (hbrackets : bracketsOk checkBracketedHost netloc) :
    CanonicalHost (lowerText (loweredHost (hostPort netloc).1)) where
  ne_nil := lowerText_loweredHost_ne_nil hne
  lowered _ ht := lowerText_of_mem ht
  address hcolon := by
    have hmem := mem_of_mem_loweredHost (by decide) hcolon
    rcases hostPort_cases netloc with ⟨before, rest, hsplit, heq⟩ | ⟨-, heq⟩
    · rw [heq]
      exact checkBracketedHost_lowered (bracketed_of_opening hbrackets hsplit)
    · rw [heq] at hmem
      exact absurd hmem (partition_spec ':' (hostinfo netloc)).1
  chars c hc := by
    have hback : isCaseless c → c ∈ hostinfo netloc := fun hcaseless =>
      mem_hostPort (mem_of_mem_loweredHost hcaseless hc)
    refine ⟨?_, ?_, ?_, ?_, ?_, ?_⟩
    · by_contra hlow
      have hcaseless : isCaseless c := isCaseless_of_le (by omega)
      exact hlow (hchars c (mem_hostinfo (hback hcaseless)).1).1
    · by_contra hdelimiter
      rw [Bool.not_eq_false] at hdelimiter
      have hmem := (mem_hostinfo (hback (isCaseless_of_isDelimiter hdelimiter))).1
      rw [(hchars c hmem).2.2.1] at hdelimiter
      cases hdelimiter
    · by_contra hcompat
      rw [Bool.not_eq_false] at hcompat
      have hcaseless : isCaseless c := by simp [isCaseless, hcompat]
      rw [(hchars c (mem_hostinfo (hback hcaseless)).1).2.2.2] at hcompat
      cases hcompat
    · rintro rfl
      exact (mem_hostinfo (hback (by decide))).2 rfl
    · rintro rfl
      have hmem := mem_of_mem_loweredHost (d := ']') (by decide) hc
      rcases hostPort_cases netloc with ⟨before, rest, hsplit, heq⟩ | ⟨hsplit, heq⟩
      · rw [heq] at hmem
        exact (partition_spec ']' rest).1 hmem
      · have hopening : '[' ∈ netloc := by
          simp only [bracketsOk, decide_eq_true_eq] at hbrackets
          exact hbrackets.1.2 (mem_hostinfo (mem_hostPort hmem)).1
        have hinfo := hanonymous.mem_hostinfo hopening (by decide) (by decide)
        obtain ⟨hnot, hspec⟩ := partition_spec '[' (hostinfo netloc)
        rw [hspec, hsplit, Option.map_none, Option.getD_none, List.append_nil] at hinfo
        exact hnot hinfo
    · rintro rfl
      exact (hchars _ (mem_hostinfo (hback (by decide))).1).2.1 rfl

/-- A text that begins with one slash, without a query and a fragment, is a path. -/
theorem splitUnicode_path (hhead : path.head? = some '/') (hslashes : path.take 2 ≠ ['/', '/'])
    (hprint : ∀ c ∈ path, 32 < c.toNat) (hquery : '?' ∉ path) (hfragment : '#' ∉ path) :
    splitUnicode path = some ⟨[], [], path, [], []⟩ := by
  obtain ⟨rest, rfl⟩ := List.head?_eq_some_iff.1 hhead
  have hscheme : splitScheme ('/' :: rest) = ([], '/' :: rest) := by
    have hslash : '/'.isAlpha = false := by decide
    rw [splitScheme, partition, if_neg (by decide)]
    cases (partition ':' rest).2 <;> simp [hslash]
  have hnetloc : splitNetloc ('/' :: rest) = ([], '/' :: rest) := by
    cases rest with
    | nil => rfl
    | cons c rest =>
      have hc : c ≠ '/' := fun heq => hslashes (by rw [heq]; rfl)
      rw [splitNetloc]
      intro rest' heq
      exact hc (List.cons.inj (List.cons.inj heq).2).1
  rw [splitUnicode, urlsplit, clean_of_printable hprint, hscheme]
  dsimp only
  rw [hnetloc]
  dsimp only
  rw [partition_of_notMem hfragment]
  dsimp only
  rw [partition_of_notMem hquery, if_pos (by decide)]
  rfl

end UrlText

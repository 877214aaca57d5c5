import VulnLoom.UrlText

/-!
# URLs of any characters, and their canonical texts

`urlsplit` beyond ASCII : `str.lower` takes a character with what stands around it to the characters
in its place (`Lowering`), a network location is refused where a character of it decomposes to a
delimiter, and what stands in brackets is an address.

`splitUnicode_compose` : the text that a scheme, a canonical network location, an absolute path and
a query compose is split into these. `splitUnicode_bracket` : it cannot be split where the host has
an opening bracket and no colon, for the host is not put in brackets again.
-/

namespace UrlText

/-! ## Lowering -/

/-- The compatibility characters whose NFKC form has one of the delimiters `/?#@:`. -/
def compatDelimiters : List ℕ :=
  [0x2047, 0x2048, 0x2049, 0x2100, 0x2101, 0x2105, 0x2106, 0x2A74, 0xFE13, 0xFE16, 0xFE55, 0xFE56,
    0xFE5F, 0xFE6B, 0xFF03, 0xFF0F, 0xFF1A, 0xFF1F, 0xFF20]

def isCompatDelimiter (c : Char) : Bool :=
  c.toNat ∈ compatDelimiters

/-- ASCII characters without case, and the compatibility forms of delimiters. -/
def isCaseless (c : Char) : Bool :=
  (c.toNat < 128 ∧ c.isAlpha = false) ∨ isCompatDelimiter c

/-- `str.lower` : what a character becomes between the characters before it, the nearest first, and
those after it. -/
class Lowering where
  lowered : List Char → Char → List Char → List Char
  lowered_ascii : ∀ before c after, c.toNat < 128 → lowered before c after = [c.toLower]
  lowered_ne_nil : ∀ before c after, lowered before c after ≠ []
  /-- a lowered character is one wherever it stands -/
  lowered_lowered : ∀ {before c after d}, d ∈ lowered before c after →
    ∀ before' after', lowered before' d after' = [d]
  lowered_caseless : ∀ {before c after d}, d ∈ lowered before c after → isCaseless d → c = d

export Lowering (lowered)

section

variable [Lowering]

def lowerFrom (before : List Char) : List Char → List Char
  | [] => []
  | c :: s => lowered before c s ++ lowerFrom (c :: before) s

/-- `str.lower` -/
def lowerText (s : List Char) : List Char :=
  lowerFrom [] s

theorem exists_of_mem_lowerFrom {d : Char} : ∀ {before s : List Char}, d ∈ lowerFrom before s →
    ∃ c ∈ s, ∃ before' after', d ∈ lowered before' c after'
  | _, [], h => by cases h
  | before, c :: s, h => by
    rcases List.mem_append.1 h with h | h
    · exact ⟨c, List.mem_cons_self, before, s, h⟩
    · obtain ⟨c', hc', hrest⟩ := exists_of_mem_lowerFrom h
      exact ⟨c', List.mem_cons_of_mem c hc', hrest⟩

variable {s : List Char}

theorem mem_of_mem_lowerFrom {d : Char} (hd : isCaseless d) {before : List Char}
    (h : d ∈ lowerFrom before s) : d ∈ s := by
  obtain ⟨c, hc, before', after', hmem⟩ := exists_of_mem_lowerFrom h
  rwa [← Lowering.lowered_caseless hmem hd]

theorem mem_of_mem_lowerText {d : Char} (hd : isCaseless d) (h : d ∈ lowerText s) : d ∈ s :=
  mem_of_mem_lowerFrom hd h

theorem lowerFrom_of_lowered : ∀ {before s : List Char},
    (∀ c ∈ s, ∀ before' after', lowered before' c after' = [c]) → lowerFrom before s = s
  | _, [], _ => rfl
  | before, c :: s, h => by
    rw [lowerFrom, h c List.mem_cons_self,
      lowerFrom_of_lowered fun d hd => h d (List.mem_cons_of_mem c hd), List.singleton_append]

/-- A text whose characters were lowered is lowered. -/
theorem lowerText_of_mem {t : List Char} (h : ∀ c ∈ t, c ∈ lowerText s) : lowerText t = t := by
  refine lowerFrom_of_lowered fun c hc before' after' => ?_
  obtain ⟨c', -, before, after, hmem⟩ := exists_of_mem_lowerFrom (h c hc)
  exact Lowering.lowered_lowered hmem before' after'

theorem lowerFrom_append_ascii : ∀ {before s t : List Char}, (∀ c ∈ s, c.toNat < 128) →
    lowerFrom before (s ++ t) = s.map Char.toLower ++ lowerFrom (s.reverse ++ before) t
  | _, [], _, _ => rfl
  | before, c :: s, t, h => by
    rw [List.cons_append, lowerFrom, Lowering.lowered_ascii _ _ _ (h c List.mem_cons_self),
      lowerFrom_append_ascii fun d hd => h d (List.mem_cons_of_mem c hd), List.reverse_cons,
      List.append_assoc, List.map_cons]
    rfl

/-- An ASCII beginning is lowered letter by letter. -/
theorem lowerText_append_ascii {t : List Char} (h : ∀ c ∈ s, c.toNat < 128) :
    lowerText (s ++ t) = s.map Char.toLower ++ lowerFrom s.reverse t := by
  rw [lowerText, lowerFrom_append_ascii h, List.append_nil]

theorem lowerText_ascii (h : ∀ c ∈ s, c.toNat < 128) : lowerText s = s.map Char.toLower := by
  rw [← List.append_nil s, lowerText_append_ascii h, lowerFrom, List.append_nil, List.append_nil]

theorem lowerFrom_eq_nil {before : List Char} (h : lowerFrom before s = []) : s = [] := by
  cases s with
  | nil => rfl
  | cons c s =>
    rw [lowerFrom, List.append_eq_nil_iff] at h
    exact absurd h.1 (Lowering.lowered_ne_nil before c s)

/-- An ASCII character without case stays where it stands. -/
theorem mem_lowerFrom_of_mem {c : Char} (hascii : c.toNat < 128) (hlow : c.toLower = c) :
    ∀ {before s : List Char}, c ∈ s → c ∈ lowerFrom before s
  | before, d :: s, h => by
    rw [lowerFrom, List.mem_append]
    rcases List.mem_cons.1 h with rfl | h
    · rw [Lowering.lowered_ascii _ _ _ hascii, hlow]
      exact .inl (List.mem_singleton_self c)
    · exact .inr (mem_lowerFrom_of_mem hascii hlow h)

end

theorem toNat_toLower (c : Char) :
    c.toLower.toNat = if 65 ≤ c.toNat ∧ c.toNat ≤ 90 then c.toNat + 32 else c.toNat := by
  by_cases hupper : c.val ≥ 'A'.val ∧ c.val ≤ 'Z'.val
  · have hge : (65 : ℕ) ≤ c.toNat := hupper.1
    have hle : c.toNat ≤ (90 : ℕ) := hupper.2
    rw [show c.toLower = _ from dif_pos hupper, if_pos ⟨hge, hle⟩]
    change (c.val + ('a'.val - 'A'.val)).toNat = c.toNat + 32
    rw [UInt32.toNat_add]
    change (c.toNat + 32) % 2 ^ 32 = c.toNat + 32
    omega
  · rw [show c.toLower = c from dif_neg hupper, if_neg]
    exact hupper

theorem toLower_toLower (c : Char) : c.toLower.toLower = c.toLower := by
  have hnat : c.toLower.toLower.toNat = c.toLower.toNat := by
    rw [toNat_toLower c.toLower, toNat_toLower c]
    split_ifs <;> omega
  exact Char.toNat_inj.1 hnat

/-! ## Addresses -/

/-- `_HEX_DIGITS` -/
def isHexDigit (c : Char) : Bool :=
  (48 ≤ c.toNat ∧ c.toNat ≤ 57) ∨ (65 ≤ c.toNat ∧ c.toNat ≤ 70) ∨ (97 ≤ c.toNat ∧ c.toNat ≤ 102)

/-- `_parse_hextet` -/
def isHextet (part : List Char) : Bool :=
  part ≠ [] ∧ part.length ≤ 4 ∧ part.all isHexDigit

/-- `_parse_octet` -/
def isOctet (octet : List Char) : Bool :=
  octet ≠ [] ∧ octet.all Char.isDigit ∧ octet.length ≤ 3 ∧
    (octet = ['0'] ∨ octet.head? ≠ some '0') ∧
    number octet ≤ 255

/-- `IPv4Address` -/
def isIpv4 (address : List Char) : Bool :=
  (address.splitOn '.').length = 4 ∧ (address.splitOn '.').all isOctet

inductive PartKind
  | empty
  | hextet
  | ipv4
  | other
  deriving DecidableEq

def partKind (part : List Char) : PartKind :=
  if part = [] then .empty else if isHextet part then .hextet
  else if isIpv4 part then .ipv4 else .other

/-- The hextets of an address : an address of version 4 at its end is two of them. -/
def hextetKinds (kinds : List PartKind) : List PartKind :=
  if kinds.getLast? = some .ipv4 then kinds.dropLast ++ [.hextet, .hextet] else kinds

/-- The parts on one side of `::`, where that is an end of the address there are none. -/
def besideSkip (kinds : List PartKind) : List PartKind :=
  if kinds = [.empty] then [] else kinds

/-- `_ip_int_from_string`, on the parts between the colons. -/
def hextetsOk (kinds : List PartKind) : Bool :=
  let inner := kinds.tail.dropLast
  if 9 < kinds.length then false
  else match inner.count .empty with
    | 0 => kinds.length = 8 ∧ kinds.all (· = .hextet)
    | 1 =>
      let skip := inner.idxOf .empty + 1
      let hextets := besideSkip (kinds.take skip) ++ besideSkip (kinds.drop (skip + 1))
      hextets.length ≤ 7 ∧ hextets.all (· = .hextet)
    | _ => false

/-- `IPv6Address` without a scope. -/
def isIpv6 (address : List Char) : Bool :=
  let kinds := (address.splitOn ':').map partKind
  3 ≤ kinds.length ∧ PartKind.other ∉ kinds ∧ hextetsOk (hextetKinds kinds)

/-- `_split_scope_id` : a scope is not empty. -/
def isScopedIpv6 (host : List Char) : Bool :=
  isIpv6 (partition '%' host).1 ∧ (partition '%' host).2.all fun scope => scope ≠ [] ∧ '%' ∉ scope

/-- `v[a-fA-F0-9]+\..+`, after the `v`. -/
def isIpvFuture (s : List Char) : Bool :=
  match s.dropWhile isHexDigit with
  | c :: rest => s.takeWhile isHexDigit ≠ [] ∧ c = '.' ∧ rest ≠ []
  | [] => false

/-- `_check_bracketed_host` -/
def checkBracketedHost : List Char → Bool
  | c :: s => if c = 'v' then isIpvFuture s else isScopedIpv6 (c :: s)
  | [] => false

/-! ## Addresses are lowered to addresses -/

theorem isHexDigit_toLower (c : Char) : isHexDigit c.toLower = isHexDigit c := by
  simp only [isHexDigit, toNat_toLower]
  refine decide_eq_decide.2 ?_
  split_ifs <;> omega

theorem isDigit_eq (c : Char) : c.isDigit = decide (48 ≤ c.toNat ∧ c.toNat ≤ 57) := by
  rw [Char.isDigit, Bool.decide_and]
  rfl

theorem isDigit_toLower (c : Char) : c.toLower.isDigit = c.isDigit := by
  simp only [isDigit_eq, toNat_toLower]
  refine decide_eq_decide.2 ?_
  split_ifs <;> omega

variable {c : Char}

theorem toLower_of_isDigit (h : c.isDigit) : c.toLower = c := by
  rw [isDigit_eq, decide_eq_true_eq] at h
  refine Char.toNat_inj.1 ?_
  rw [toNat_toLower, if_neg]
  omega

theorem all_map_toLower {p : Char → Bool} (hp : ∀ c, p c.toLower = p c) (s : List Char) :
    (s.map Char.toLower).all p = s.all p := by
  rw [List.all_map]
  exact congrArg (s.all ·) (funext hp)

theorem isHextet_map_toLower (part : List Char) :
    isHextet (part.map Char.toLower) = isHextet part := by
  simp only [isHextet, all_map_toLower isHexDigit_toLower, List.length_map, ne_eq,
    List.map_eq_nil_iff]

variable {s : List Char}

theorem map_toLower_of_digits (h : s.all Char.isDigit) : s.map Char.toLower = s := by
  rw [List.all_eq_true] at h
  exact (List.map_congr_left fun c hc => toLower_of_isDigit (h c hc)).trans (List.map_id' s)

theorem isOctet_map_toLower (octet : List Char) :
    isOctet (octet.map Char.toLower) = isOctet octet := by
  by_cases h : octet.all Char.isDigit
  · rw [map_toLower_of_digits h]
  · simp only [isOctet, all_map_toLower isDigit_toLower, h]
    simp

/-- A text is split at the same places when what separates it is kept. -/
theorem splitOn_map_toLower {a : Char} (ha : a.toNat < 97 ∨ 122 < a.toNat) (hlow : a.toLower = a) :
    ∀ s : List Char, (s.map Char.toLower).splitOn a = (s.splitOn a).map (List.map Char.toLower)
  | [] => rfl
  | c :: s => by
    have ih := splitOn_map_toLower ha hlow s
    simp only [List.splitOn_eq_splitOnP] at ih ⊢
    have hiff : (c.toLower == a) = (c == a) := by
      rw [Bool.eq_iff_iff, beq_iff_eq, beq_iff_eq]
      constructor
      · exact eq_of_toLower ha
      · rintro rfl
        exact hlow
    rw [List.map_cons, List.splitOnP_cons_eq_if_modifyHead, List.splitOnP_cons_eq_if_modifyHead,
      hiff, ih]
    split_ifs
    · rfl
    · cases List.splitOnP (· == a) s with
      | nil => rfl
      | cons part parts => rfl

theorem isIpv4_map_toLower (address : List Char) :
    isIpv4 (address.map Char.toLower) = isIpv4 address := by
  simp only [isIpv4, splitOn_map_toLower (a := '.') (by decide) (by decide), List.length_map,
    List.all_map, Function.comp_def, isOctet_map_toLower]

theorem partKind_map_toLower (part : List Char) :
    partKind (part.map Char.toLower) = partKind part := by
  simp only [partKind, isHextet_map_toLower, isIpv4_map_toLower, List.map_eq_nil_iff]

theorem isIpv6_map_toLower (address : List Char) :
    isIpv6 (address.map Char.toLower) = isIpv6 address := by
  simp only [isIpv6, splitOn_map_toLower (a := ':') (by decide) (by decide), List.map_map,
    Function.comp_def, partKind_map_toLower]

theorem exists_mem_splitOn {a c : Char} : ∀ {s : List Char}, c ∈ s →
    c = a ∨ ∃ part ∈ s.splitOn a, c ∈ part
  | d :: s, h => by
    have hne := List.splitOnP_ne_nil (· == a) s
    rw [List.splitOn_eq_splitOnP, List.splitOnP_cons_eq_if_modifyHead]
    by_cases hd : d = a
    · subst hd
      rw [if_pos (by simp)]
      rcases List.mem_cons.1 h with rfl | h
      · exact .inl rfl
      · rcases exists_mem_splitOn (a := d) h with heq | ⟨part, hpart, hc⟩
        · exact .inl heq
        · exact .inr ⟨part, List.mem_cons_of_mem _ hpart, hc⟩
    · rw [if_neg (by simpa using hd)]
      cases hparts : List.splitOnP (· == a) s with
      | nil => exact absurd hparts hne
      | cons first parts =>
        rcases List.mem_cons.1 h with rfl | h
        · exact .inr ⟨c :: first, List.mem_cons_self, List.mem_cons_self⟩
        · rcases exists_mem_splitOn (a := a) h with heq | ⟨part, hpart, hc⟩
          · exact .inl heq
          · rw [List.splitOn_eq_splitOnP, hparts] at hpart
            rcases List.mem_cons.1 hpart with rfl | hpart
            · exact .inr ⟨d :: part, List.mem_cons_self, List.mem_cons_of_mem d hc⟩
            · exact .inr ⟨part, List.mem_cons_of_mem _ hpart, hc⟩

/-- What an address is written with. -/
def isAddressChar (c : Char) : Bool :=
  isHexDigit c ∨ c = ':' ∨ c = '.'

theorem isHexDigit_of_isDigit (h : c.isDigit) : isHexDigit c := by
  rw [isDigit_eq, decide_eq_true_eq] at h
  simp only [isHexDigit, decide_eq_true_eq]
  exact .inl h

theorem isAddressChar_of_isIpv4 {address : List Char} (h : isIpv4 address) :
    ∀ c ∈ address, isAddressChar c := by
  intro c hc
  simp only [isIpv4, decide_eq_true_eq, List.all_eq_true] at h
  simp only [isAddressChar, decide_eq_true_eq]
  rcases exists_mem_splitOn (a := '.') hc with rfl | ⟨octet, hoctet, hmem⟩
  · exact .inr (.inr rfl)
  · have hdigits := h.2 octet hoctet
    simp only [isOctet, decide_eq_true_eq, List.all_eq_true] at hdigits
    exact .inl (isHexDigit_of_isDigit (hdigits.2.1 c hmem))

theorem isAddressChar_of_partKind {part : List Char} (h : partKind part ≠ .other) :
    ∀ c ∈ part, isAddressChar c := by
  intro c hc
  unfold partKind at h
  split_ifs at h with hnil hhextet hipv4
  · rw [hnil] at hc
    cases hc
  · simp only [isHextet, decide_eq_true_eq, List.all_eq_true] at hhextet
    simp only [isAddressChar, decide_eq_true_eq]
    exact .inl (hhextet.2.2 c hc)
  · exact isAddressChar_of_isIpv4 hipv4 c hc
  · exact absurd rfl h

theorem isAddressChar_of_isIpv6 {address : List Char} (h : isIpv6 address) :
    ∀ c ∈ address, isAddressChar c := by
  intro c hc
  simp only [isIpv6, decide_eq_true_eq] at h
  rcases exists_mem_splitOn (a := ':') hc with rfl | ⟨part, hpart, hmem⟩
  · rfl
  · exact isAddressChar_of_partKind
      (fun hother => h.2.1 (hother ▸ List.mem_map_of_mem hpart)) c hmem

/-- The characters of an address are ASCII, and none of them is a scope mark or a `v`. -/
theorem isAddressChar.bounds (h : isAddressChar c) : c.toNat < 128 ∧ c ≠ '%' ∧ c.toLower ≠ 'v' := by
  have hnat : (48 ≤ c.toNat ∧ c.toNat ≤ 57) ∨ (65 ≤ c.toNat ∧ c.toNat ≤ 70) ∨
      (97 ≤ c.toNat ∧ c.toNat ≤ 102) ∨ c.toNat = 58 ∨ c.toNat = 46 := by
    simp only [isAddressChar, isHexDigit, decide_eq_true_eq] at h
    rcases h with h | rfl | rfl
    · tauto
    · decide
    · decide
  refine ⟨by omega, ?_, ?_⟩
  · rintro rfl
    have : ('%').toNat = 37 := rfl
    omega
  · intro hv
    have hlow := toNat_toLower c
    have : ('v').toNat = 118 := rfl
    rw [hv] at hlow
    split_ifs at hlow <;> omega

theorem partition_append_of_notMem {c : Char} {t : List Char} : ∀ {s : List Char}, c ∉ s →
    partition c (s ++ t) = (s ++ (partition c t).1, (partition c t).2)
  | [], _ => rfl
  | d :: s, h => by
    rw [List.mem_cons, not_or] at h
    rw [List.cons_append, partition, if_neg (Ne.symm h.1), partition_append_of_notMem h.2]
    rfl

/-! ## Splitting -/

section

variable [Lowering]

/-- A host in lower case, but for the zone of a scoped address. -/
def loweredHost (host : List Char) : List Char :=
  lowerText (partition '%' host).1 ++ ((partition '%' host).2.map ('%' :: ·)).getD []

/-- `hostname` -/
def unicodeHostname (netloc : List Char) : Option (List Char) :=
  if (hostPort netloc).1 = [] then none else some (loweredHost (hostPort netloc).1)

end

/-- `urlsplit`, with `_checknetloc`; `none` is a `ValueError`. -/
def splitUnicode (url : List Char) : Option Split :=
  (urlsplit checkBracketedHost url).bind fun s =>
    if s.netloc.any isCompatDelimiter then none else some s

/-! ## Lowered hosts -/

theorem map_toLower_toLower (s : List Char) :
    (s.map Char.toLower).map Char.toLower = s.map Char.toLower := by
  rw [List.map_map]
  exact List.map_congr_left fun c _ => toLower_toLower c

theorem ascii_map_toLower (h : ∀ c ∈ s, c.toNat < 128) :
    ∀ c ∈ s.map Char.toLower, c.toNat < 128 := by
  intro c hc
  obtain ⟨d, hd, rfl⟩ := List.mem_map.1 hc
  have := h d hd
  rw [toNat_toLower]
  split_ifs <;> omega

section

variable [Lowering]

/-- The ASCII beginning of a host, before a zone, is lowered letter by letter; what follows stays
there. -/
theorem lowerText_loweredHost_append {t : List Char} (hascii : ∀ c ∈ s, c.toNat < 128)
    (hzone : '%' ∉ s) : ∃ t', lowerText (loweredHost (s ++ t)) = s.map Char.toLower ++ t' ∧
      (t' = [] → t = []) := by
  refine ⟨lowerFrom (s.map Char.toLower).reverse (lowerFrom s.reverse (partition '%' t).1 ++
    ((partition '%' t).2.map ('%' :: ·)).getD []), ?_, ?_⟩
  · rw [loweredHost, partition_append_of_notMem hzone, lowerText_append_ascii hascii,
      List.append_assoc, lowerText_append_ascii (ascii_map_toLower hascii), map_toLower_toLower]
  · intro hnil
    obtain ⟨hfirst, hsecond⟩ := List.append_eq_nil_iff.1 (lowerFrom_eq_nil hnil)
    rw [(partition_spec '%' t).2, lowerFrom_eq_nil hfirst, hsecond]
    rfl

theorem lowerFrom_percent (before scope : List Char) :
    lowerFrom before ('%' :: scope) = '%' :: lowerFrom ('%' :: before) scope := by
  rw [lowerFrom, Lowering.lowered_ascii _ _ _ (by decide)]
  rfl

/-- A scoped address is lowered to one. -/
theorem isScopedIpv6_lowered {host : List Char} (h : isScopedIpv6 host) :
    isScopedIpv6 (lowerText (loweredHost host)) := by
  simp only [isScopedIpv6, decide_eq_true_eq] at h ⊢
  obtain ⟨haddress, hscope⟩ := h
  have hascii : ∀ c ∈ (partition '%' host).1, c.toNat < 128 := fun c hc =>
    (isAddressChar.bounds (isAddressChar_of_isIpv6 haddress c hc)).1
  have hnot : '%' ∉ (partition '%' host).1.map Char.toLower := fun hmem =>
    (partition_spec '%' host).1 (mem_of_mem_map_toLower (by decide) hmem)
  rw [loweredHost, lowerText_ascii hascii]
  cases hzone : (partition '%' host).2 with
  | none =>
    rw [Option.map_none, Option.getD_none, List.append_nil,
      lowerText_ascii (ascii_map_toLower hascii), map_toLower_toLower, partition_of_notMem hnot,
      isIpv6_map_toLower]
    exact ⟨haddress, rfl⟩
  | some scope =>
    simp only [hzone, Option.all_some, decide_eq_true_eq] at hscope
    rw [Option.map_some, Option.getD_some, lowerText_append_ascii (ascii_map_toLower hascii),
      map_toLower_toLower, lowerFrom_percent, partition_append hnot, isIpv6_map_toLower]
    simp only [Option.all_some, decide_eq_true_eq]
    refine ⟨haddress, fun hnil => hscope.1 (lowerFrom_eq_nil hnil), fun hmem => hscope.2 ?_⟩
    exact mem_of_mem_lowerFrom rfl hmem

end

theorem takeWhile_hex_append {t : List Char} (hs : ∀ d ∈ s, isHexDigit d)
    (hc : isHexDigit c = false) :
    (s ++ c :: t).takeWhile isHexDigit = s ∧ (s ++ c :: t).dropWhile isHexDigit = c :: t := by
  constructor
  · rw [List.takeWhile_append_of_pos hs, List.takeWhile_cons_of_neg (by simp [hc]), List.append_nil]
  · rw [List.dropWhile_append_of_pos hs, List.dropWhile_cons_of_neg (by simp [hc])]

theorem isIpvFuture_iff : isIpvFuture s ↔
    ∃ digits rest, s = digits ++ '.' :: rest ∧ digits ≠ [] ∧ (∀ c ∈ digits, isHexDigit c) ∧
      rest ≠ [] := by
  constructor
  · intro h
    unfold isIpvFuture at h
    split at h
    · next c rest hdrop =>
      simp only [decide_eq_true_eq] at h
      obtain ⟨hdigits, rfl, hrest⟩ := h
      refine ⟨s.takeWhile isHexDigit, rest, ?_, hdigits, fun c hc => List.mem_takeWhile_imp hc,
        hrest⟩
      rw [← hdrop, List.takeWhile_append_dropWhile]
    · cases h
  · rintro ⟨digits, rest, rfl, hdigits, hhex, hrest⟩
    obtain ⟨htake, hdrop⟩ := takeWhile_hex_append (t := rest) hhex (c := '.') (by decide)
    simp [isIpvFuture, htake, hdrop, hdigits, hrest]

section

variable [Lowering]

/-- An address of a future version is lowered to one. -/
theorem checkBracketedHost_future (h : isIpvFuture s) :
    checkBracketedHost (lowerText (loweredHost ('v' :: s))) := by
  obtain ⟨digits, rest, rfl, hdigits, hhex, hrest⟩ := isIpvFuture_iff.1 h
  have hchars : ∀ c ∈ 'v' :: (digits ++ ['.']), c.toNat < 128 ∧ c ≠ '%' := by
    intro c hc
    rcases List.mem_cons.1 hc with rfl | hc
    · decide
    · rcases List.mem_append.1 hc with hc | hc
      · have hbounds := isAddressChar.bounds (c := c) (by simp [isAddressChar, hhex c hc])
        exact ⟨hbounds.1, hbounds.2.1⟩
      · rw [List.mem_singleton.1 hc]
        decide
  obtain ⟨rest', heq, hne⟩ := lowerText_loweredHost_append (s := 'v' :: (digits ++ ['.']))
    (t := rest) (fun c hc => (hchars c hc).1) (fun hmem => (hchars _ hmem).2 rfl)
  have hsplit : 'v' :: (digits ++ '.' :: rest) = 'v' :: (digits ++ ['.']) ++ rest := by simp
  rw [hsplit, heq]
  simp only [List.map_cons, List.map_append, List.map_nil, List.cons_append, List.append_assoc,
    List.nil_append, checkBracketedHost]
  rw [if_pos (by decide), isIpvFuture_iff]
  refine ⟨digits.map Char.toLower, rest', rfl, by simpa using hdigits, ?_,
    fun hnil => hrest (hne hnil)⟩
  intro c hc
  obtain ⟨d, hd, rfl⟩ := List.mem_map.1 hc
  rw [isHexDigit_toLower]
  exact hhex d hd

/-- A host in brackets is lowered to one. -/
theorem checkBracketedHost_lowered {host : List Char} (h : checkBracketedHost host) :
    checkBracketedHost (lowerText (loweredHost host)) := by
  cases host with
  | nil => cases h
  | cons c s =>
    rw [checkBracketedHost] at h
    split_ifs at h with hv
    · subst hv
      exact checkBracketedHost_future h
    · have hscoped := isScopedIpv6_lowered h
      cases hlow : lowerText (loweredHost (c :: s)) with
      | nil =>
        rw [hlow] at hscoped
        exact absurd hscoped (by decide)
      | cons d t =>
        rw [hlow] at hscoped
        rw [checkBracketedHost, if_neg, hscoped]
        rintro rfl
        simp only [isScopedIpv6, decide_eq_true_eq] at hscoped
        have haddress := isAddressChar_of_isIpv6 hscoped.1 'v' (by
          rw [partition, if_neg (by decide)]
          exact List.mem_cons_self)
        exact absurd haddress (by decide)

end

end UrlText

import VulnLoom.Redaction
import VulnLoom.SubstitutionSettled

/-!
# Redacting a redacted text

The three patterns with a key mask the run after the key, the three others drop a text between
edges. Each leaves its property to the later ones, so a redacted text is redacted to itself.
-/

namespace VulnLoom

namespace Redactor

open Regex Substitution

/-- What replaces each match. -/
def mark : Marker Char where
  opening := '['
  inner := "REDACTED".toList
  closing := ']'

/-! ## Letters -/

def isQuote (c : Char) : Bool :=
  c ∈ ['"', '\'']

/-- A letter between a key and its value. -/
def isSeparator (c : Char) : Bool :=
  c ∈ ['=', ':']

variable {c : Char}

/-- The letters that match another one are capitals, or not in ASCII. -/
theorem foldLetter_eq (h : c.isUpper = false)
    (hascii : c.toNat < 0x130 ∨ 0x1680 ≤ c.toNat ∧ c.toNat ≠ 0x212a) : foldLetter c = c := by
  rw [foldLetter, if_neg (by omega), if_neg (by omega), if_neg (by omega)]
  rw [← Bool.not_eq_true, toNat_of_isUpper] at h
  exact dif_neg h

/-- A space matches itself only, and is no letter and no digit. -/
theorem fold_of_isSpace (h : isSpace c = true) : foldLetter c = c ∧ c.isAlphanum = false := by
  have hrange : c.toNat ≤ 32 ∨ c.toNat = 0x85 ∨ c.toNat = 0xa0 ∨ 0x1680 ≤ c.toNat ∧
      c.toNat ≠ 0x212a := by
    simp only [isSpace, Bool.or_eq_true, Bool.and_eq_true, decide_eq_true_eq] at h
    omega
  have hupper : c.isUpper = false := by
    rw [← Bool.not_eq_true, toNat_of_isUpper]
    omega
  refine ⟨foldLetter_eq hupper (by omega), ?_⟩
  rw [← Bool.not_eq_true, isAlphanum_iff, isAlpha_iff, toNat_of_isUpper, toNat_of_isLower,
    toNat_of_isDigit]
  omega

theorem not_quote_of_space (h : isSpace c = true) : isQuote c = false := by
  have hnone : ∀ c ∈ ['"', '\''], isSpace c = false := by decide
  rw [isQuote, decide_eq_false_iff_not]
  intro hmem
  rw [hnone c hmem] at h
  cases h

variable {p : Char → Bool} {w : List Char}

theorem countP_eq_zero (h : ∀ c ∈ w, p c = false) : w.countP p = 0 := by
  rw [List.countP_eq_zero]
  intro c hc
  simp [h c hc]

/-! ## What the parts of the patterns read -/

section

variable [PythonAlnum] {prev next : Option Char} {w : List Char}

theorem reads_exactly {s : List Char} : (exactly s).Reads isWord prev w next ↔ w = s := by
  induction s generalizing prev w with
  | nil => exact Iff.rfl
  | cons c s ih =>
    constructor
    · rintro ⟨_, t, rfl, ⟨d, hd, rfl⟩, ht⟩
      rw [of_decide_eq_true hd, ih.1 ht, List.singleton_append]
    · rintro rfl
      exact ⟨[c], s, rfl, ⟨c, decide_eq_true rfl, rfl⟩, ih.2 rfl⟩

variable {s : String}

theorem reads_caseless : (caseless s).Reads isWord prev w next ↔ w.map foldLetter = s.toList := by
  unfold caseless
  induction s.toList generalizing prev w with
  | nil => exact List.map_eq_nil_iff.symm
  | cons c s ih =>
    constructor
    · rintro ⟨_, t, rfl, ⟨d, hd, rfl⟩, ht⟩
      rw [List.singleton_append, List.map_cons, of_decide_eq_true hd, ih.1 ht]
    · intro h
      obtain ⟨d, t, rfl, hd, ht⟩ := List.map_eq_cons_iff.1 h
      exact ⟨[d], t, rfl, ⟨d, decide_eq_true hd, rfl⟩, ih.2 ht⟩

/-- A text without spaces, in either case, has no spaces. -/
theorem not_space_of_caseless (h : s.toList.all fun c => !isSpace c)
    (hw : (caseless s).Reads isWord prev w next) : ∀ c ∈ w, isSpace c = false := by
  intro c hc
  have hfold : foldLetter c ∈ s.toList := reads_caseless.1 hw ▸ List.mem_map_of_mem hc
  by_contra hspace
  rw [Bool.not_eq_false] at hspace
  rw [(fold_of_isSpace hspace).1] at hfold
  have hnot := List.all_eq_true.1 h c hfold
  rw [hspace] at hnot
  cases hnot

theorem forall_notMem_of_avoids {r : Regex Char} {l : List Char} (h : l.all fun c => r.avoids c)
    (hw : r.Reads isWord prev w next) : ∀ c ∈ w, decide (c ∈ l) = false := by
  intro c hc
  rw [decide_eq_false_iff_not]
  exact fun hl => notMem_of_avoids (List.all_eq_true.1 h c hl) hw hc

theorem mem_of_oneOf (h : s.toList.all p) (hw : (oneOf s).Reads isWord prev w next) :
    ∃ c, w = [c] ∧ p c = true := by
  obtain ⟨c, hc, rfl⟩ := hw
  exact ⟨c, rfl, List.all_eq_true.1 h c (of_decide_eq_true hc)⟩

/-! ## The texts of the groups -/

/-- The group of the first pattern : a key in quotes, a colon between spaces and a quote. -/
theorem shape_quoted (h : quotedPattern.group.Reads isWord prev w next) :
    ∃ a k b s s' d, w = a :: (k ++ b :: (s ++ ':' :: (s' ++ [d]))) ∧ isQuote a = true ∧
      (∃ prev next, quotedKey.Reads isWord prev k next) ∧ isQuote b = true ∧
        (∀ c ∈ s, isSpace c = true) ∧ (∀ c ∈ s', isSpace c = true) ∧ isQuote d = true := by
  obtain ⟨_, _, rfl, ha, k, _, rfl, hk, _, _, rfl, hb, s, _, rfl, hs, _, _, rfl, hc, s', _, rfl,
    hs', _, _, rfl, hd, rfl⟩ := h
  obtain ⟨a, rfl, ha'⟩ := mem_of_oneOf (p := isQuote) (by decide) ha
  obtain ⟨b, rfl, hb'⟩ := mem_of_oneOf (p := isQuote) (by decide) hb
  obtain ⟨c, rfl, hc'⟩ := mem_of_oneOf (p := fun c => c = ':') (by decide) hc
  obtain ⟨d, rfl, hd'⟩ := mem_of_oneOf (p := isQuote) (by decide) hd
  obtain rfl := of_decide_eq_true hc'
  exact ⟨a, k, b, s, s', d, by simp, ha', ⟨_, _, hk⟩, hb', hs.1, hs'.1, hd'⟩

/-- The group of the first pattern has three quotes and ends with one. -/
theorem reads_quoted (h : quotedPattern.group.Reads isWord prev w next) :
    w.countP isQuote = 3 ∧ ∃ w' d, w = w' ++ [d] ∧ isQuote d = true := by
  obtain ⟨a, k, b, s, s', d, rfl, ha, ⟨_, _, hk⟩, hb, hs, hs', hd⟩ := shape_quoted h
  have hk' : k.countP isQuote = 0 := countP_eq_zero (forall_notMem_of_avoids (by decide) hk)
  have hspaces : s.countP isQuote = 0 := countP_eq_zero fun c hc => not_quote_of_space (hs c hc)
  have hspaces' : s'.countP isQuote = 0 :=
    countP_eq_zero fun c hc => not_quote_of_space (hs' c hc)
  have hcolon : isQuote ':' = false := by decide
  refine ⟨?_, a :: (k ++ b :: (s ++ ':' :: s')), d, by simp, hd⟩
  simp [List.countP_append, ha, hb, hcolon, hd, hk', hspaces, hspaces']

end

/-- A text with one separator, and what follows it. -/
structure Keyed (w r : List Char) : Prop where
  exists_eq : ∃ k c, w = k ++ c :: r ∧ (∀ a ∈ k, isSeparator a = false) ∧ isSeparator c = true
  plain : ∀ a ∈ r, isSeparator a = false

variable {r : List Char}

theorem split_unique {k l q : List Char} {b : Char} (hk : ∀ a ∈ l, p a = false)
    (hr : ∀ a ∈ q, p a = false) (hc : p c = true) (h : k ++ c :: r = l ++ b :: q) : r = q := by
  rcases List.append_eq_append_iff.1 h with ⟨t, rfl, hright⟩ | ⟨t, rfl, hright⟩
  · cases t with
    | nil => exact (List.cons.inj hright).2
    | cons d t =>
      rw [List.cons_append, List.cons.injEq] at hright
      rw [hright.1, hk d (by simp)] at hc
      cases hc
  · cases t with
    | nil => exact (List.cons.inj hright).2.symm
    | cons d t =>
      rw [List.cons_append, List.cons.injEq] at hright
      rw [hr c (by simp [hright.2])] at hc
      cases hc

variable {y : List Char}

/-- What follows the separator of a text in another one follows it there. -/
theorem Keyed.nested {r' x : List Char} (h : Keyed w r) (h' : Keyed (x ++ (w ++ y)) r') :
    r ++ y = r' := by
  obtain ⟨k, c, rfl, -, hc⟩ := h.exists_eq
  obtain ⟨k', c', heq, hk, -⟩ := h'.exists_eq
  refine split_unique hk h'.plain hc (k := x ++ k) (b := c') ?_
  rw [← heq]
  simp

/-- A text that is not empty, of letters of a class. -/
def Run (p : Char → Bool) (w : List Char) : Prop :=
  w ≠ [] ∧ ∀ c ∈ w, p c = true

/-- The letters of a class at the start of a text end where one of another class stands. -/
theorem run_unique {s s' t t' z : List Char} (hs : ∀ a ∈ s, p a = true)
    (hs' : ∀ a ∈ s', p a = true) (ht : Run (fun a => !p a) t) (ht' : Run (fun a => !p a) t')
    (h : s ++ (t ++ z) = s' ++ (t' ++ y)) : t ++ z = t' ++ y := by
  have hdrop : ∀ {s t z : List Char}, (∀ a ∈ s, p a = true) → Run (fun a => !p a) t →
      (s ++ (t ++ z)).dropWhile p = t ++ z := by
    intro s t z hs ht
    obtain ⟨a, t, rfl⟩ := List.exists_cons_of_ne_nil ht.1
    have ha := ht.2 a List.mem_cons_self
    rw [List.dropWhile_append_of_pos hs, List.cons_append,
      List.dropWhile_cons_of_neg (by simpa using ha)]
  rw [← hdrop hs ht, h, hdrop hs' ht']

/-- After the first word of a text, its spaces are those of the text. -/
theorem words_unique {s s' b b' t t' : List Char} (hs : ∀ c ∈ s, isSpace c = true)
    (hs' : ∀ c ∈ s', isSpace c = true) (hb : Run (fun c => !isSpace c) b)
    (hb' : Run (fun c => !isSpace c) b') (ht : Run isSpace t) (ht' : Run isSpace t')
    (h : s ++ (b ++ (t ++ y)) = s' ++ (b' ++ t')) : t ++ y = t' := by
  have hword : b ++ (t ++ y) = b' ++ t' := run_unique hs hs' hb hb' h
  have hdouble : (fun c => !!isSpace c) = isSpace := funext fun c => Bool.not_not _
  have htail := run_unique (p := fun c => !isSpace c) (z := y) (y := []) hb.2 hb'.2
    (hdouble ▸ ht) (hdouble ▸ ht') (by rw [List.append_nil, hword])
  rwa [List.append_nil] at htail

section

variable [PythonAlnum] {prev next : Option Char} {w : List Char}

/-- The group of the second pattern ends with a word and spaces. -/
theorem reads_authorization (h : authorizationPattern.group.Reads isWord prev w next) :
    ∃ s b t, Keyed w (s ++ (b ++ t)) ∧ (∀ c ∈ s, isSpace c = true) ∧
      Run (fun c => !isSpace c) b ∧ Run isSpace t := by
  obtain ⟨k, _, rfl, hk, s, _, rfl, hs, _, _, rfl, hc, s', _, rfl, hs', b, _, rfl, hb, t, _, rfl,
    ht, rfl⟩ := h
  obtain ⟨c, rfl, hc'⟩ := mem_of_oneOf (p := isSeparator) (by decide) hc
  have hword : Run (fun c => !isSpace c) b := by
    constructor
    · rintro rfl
      obtain ⟨e, he, -⟩ := exists_mem_of_leaves (l := []) (by decide) hb
      cases he
    · intro e he
      rw [Bool.not_eq_true']
      exact hb.elim (fun hb => not_space_of_caseless (by decide) hb e he)
        fun hb => not_space_of_caseless (by decide) hb e he
  refine ⟨s', b, t, ⟨⟨k ++ s, c, by simp, ?_, hc'⟩, ?_⟩, hs'.1, hword,
    List.length_pos_iff.1 ht.2, ht.1⟩
  · exact List.forall_mem_append.2 ⟨forall_notMem_of_avoids (by decide) hk,
      forall_notMem_of_avoids (by decide) hs⟩
  · exact List.forall_mem_append.2 ⟨forall_notMem_of_avoids (by decide) hs',
      List.forall_mem_append.2 ⟨forall_notMem_of_avoids (by decide) hb,
        forall_notMem_of_avoids (by decide) ht⟩⟩

/-- The group of the third pattern ends with its separator and spaces. -/
theorem reads_keyValue (h : keyValuePattern.group.Reads isWord prev w next) :
    ∃ s, Keyed w s ∧ ∀ c ∈ s, isSpace c = true := by
  obtain ⟨k, _, rfl, hk, s, _, rfl, hs, _, _, rfl, hc, s', _, rfl, hs', rfl⟩ := h
  obtain ⟨c, rfl, hc'⟩ := mem_of_oneOf (p := isSeparator) (by decide) hc
  refine ⟨s', ⟨⟨k ++ s, c, by simp, ?_, hc'⟩, forall_notMem_of_avoids (by decide) hs'⟩, hs'.1⟩
  exact List.forall_mem_append.2 ⟨forall_notMem_of_avoids (by decide) hk,
    forall_notMem_of_avoids (by decide) hs⟩

end

/-! ## The patterns with a key -/

section

variable [PythonAlnum]

theorem masking_quoted :
    quotedPattern.Masking mark fun c => decide (c ∉ "\"'".toList) where
  replace_eq _ _ := rfl
  body_eq := rfl
  plain := rfl
  outside := Marker.outside_of_reads rfl rfl rfl
  marker := by decide
  nested := by
    intro x g y hg hy
    have hcount := (reads_quoted hg).1
    obtain ⟨hcount', w, d, hw, hd⟩ := reads_quoted hy
    rw [List.countP_append, List.countP_append, hcount] at hcount'
    -- the last quote is that of the shorter text
    rcases List.eq_nil_or_concat y with rfl | ⟨y', e, rfl⟩
    · rfl
    · rw [List.concat_eq_append, ← List.append_assoc, ← List.append_assoc,
        List.append_singleton_inj] at hw
      rw [hw.2, List.concat_eq_append, List.countP_append, List.countP_singleton, if_pos hd]
        at hcount'
      omega

theorem masking_authorization :
    authorizationPattern.Masking mark fun c => !isSpace c && decide (c ∉ ",;".toList) where
  replace_eq _ _ := rfl
  body_eq := rfl
  plain := rfl
  outside := Marker.outside_of_reads rfl rfl rfl
  marker := by decide
  nested := by
    intro x g y hg hy
    obtain ⟨s, b, t, hkeyed, hs, hb, ht⟩ := reads_authorization hg
    obtain ⟨s', b', t', hkeyed', hs', hb', ht'⟩ := reads_authorization hy
    have hrest := hkeyed.nested hkeyed'
    rw [List.append_assoc, List.append_assoc] at hrest
    have htail := words_unique hs hs' hb hb' ht ht' hrest
    cases y with
    | nil => rfl
    | cons c y => simp [ht'.2 c (by simp [← htail])]

theorem masking_keyValue :
    keyValuePattern.Masking mark fun c => !isSpace c && decide (c ∉ ",;&".toList) where
  replace_eq _ _ := rfl
  body_eq := rfl
  plain := rfl
  outside := Marker.outside_of_reads rfl rfl rfl
  marker := by decide
  nested := by
    intro x g y hg hy
    obtain ⟨s, hkeyed, -⟩ := reads_keyValue hg
    obtain ⟨s', hkeyed', hs'⟩ := reads_keyValue hy
    have hrest := hkeyed.nested hkeyed'
    cases y with
    | nil => rfl
    | cons c y => simp [hs' c (by simp [← hrest])]

/-! ## The patterns without a key -/

theorem boundary_last : ∀ {rs : List (Regex Char)} {prev next : Option Char} {w : List Char},
    (sequence (rs ++ [.boundary])).Reads isWord prev w next →
      (w.getLast?.or prev).any isWord ≠ next.any isWord
  | [], prev, next, w, h => by
    obtain ⟨_, _, rfl, ⟨rfl, hedge⟩, rfl⟩ := h
    exact hedge
  | r :: rs, prev, next, w, h => by
    obtain ⟨t, t', rfl, -, ht'⟩ := h
    have hedge := boundary_last ht'
    rwa [← Option.or_assoc, ← List.getLast?_append] at hedge

theorem bounded_sequence (rs : List (Regex Char))
    (hne : (sequence (.boundary :: (rs ++ [.boundary]))).leaves [] = true) :
    Bounded (sequence (.boundary :: (rs ++ [.boundary]))) isWord := by
  intro prev w next h
  obtain ⟨a, ha, -⟩ := exists_mem_of_leaves hne h
  obtain ⟨_, w, rfl, ⟨rfl, hprev⟩, hrest⟩ := h
  have hlast := boundary_last hrest
  rw [List.nil_append] at ha ⊢
  obtain ⟨c, w', rfl⟩ := List.exists_cons_of_ne_nil (List.ne_nil_of_mem ha)
  refine ⟨hprev, ?_⟩
  rw [List.getLast?_cons] at hlast ⊢
  exact hlast

theorem bounded_sk : Bounded skPattern.body isWord :=
  bounded_sequence [exactly "sk-".toList, .many (alnumOr "_-") 12 true] rfl

theorem bounded_email : Bounded emailPattern.body isWord :=
  bounded_sequence [.many (caselessAlnumOr "._%+-") 1 true, oneOf "@",
    .many (caselessAlnumOr ".-") 1 true, oneOf ".", .many caselessAlpha 2 true] rfl

/-- A label of a block, wherever it stands. -/
def Label (edge : String) (w : List Char) : Prop :=
  (privateKeyLabel edge).Reads isWord none w none

theorem reads_privateKey {prev next : Option Char} :
    privateKeyPattern.body.Reads isWord prev w next ↔
      ∃ l k t, w = l ++ (k ++ t) ∧ Label "BEGIN" l ∧ Label "END" t := by
  constructor
  · rintro ⟨l, _, rfl, hl, k, _, rfl, -, t, _, rfl, ht, rfl⟩
    exact ⟨l, k, t, by simp, (reads_plain rfl).1 hl, (reads_plain rfl).1 ht⟩
  · rintro ⟨l, k, t, rfl, hl, ht⟩
    exact ⟨l, k ++ t, rfl, (reads_plain rfl).1 hl, k, t, rfl, ⟨fun _ _ => rfl, Nat.zero_le _⟩, t,
      [], by simp, (reads_plain rfl).1 ht, rfl⟩

theorem edged_privateKey : Edged privateKeyPattern.body isWord := by
  intro prev w next h
  obtain ⟨l, k, t, rfl, hl, ht⟩ := reads_privateKey.1 h
  obtain ⟨_, l, rfl, hdashes, -⟩ := hl
  obtain ⟨t, _, rfl, -, t', _, rfl, -, t'', _, rfl, -, t3, _, rfl, -, _, _, rfl, hend, rfl⟩ := ht
  rw [reads_exactly] at hdashes hend
  subst hdashes hend
  have hlast : "PRIVATE KEY-----".toList.getLast? = some '-' := by decide
  refine ⟨fun _ => rfl, fun _ => ?_⟩
  simp only [List.getLast?_append, List.append_nil, hlast, Option.some_or]
  rfl

theorem dropping_sk : skPattern.Dropping mark where
  replace_eq _ _ := rfl
  group_eq := rfl
  lead h := ⟨_, [], (List.append_nil _).symm, Marker.outside_of_reads rfl rfl rfl h⟩
  recovers := recovers_of_bounded (Marker.outside_of_reads rfl rfl rfl) bounded_sk
    bounded_sk.edged rfl rfl

theorem dropping_email : emailPattern.Dropping mark where
  replace_eq _ _ := rfl
  group_eq := rfl
  lead h := ⟨_, [], (List.append_nil _).symm, Marker.outside_of_reads rfl rfl rfl h⟩
  recovers := recovers_of_bounded (Marker.outside_of_reads rfl rfl rfl) bounded_email
    bounded_email.edged rfl rfl

theorem outside_label {edge : String}
    (hopening : (exactly edge.toList).avoids '[' = true)
    (hclosing : (exactly edge.toList).avoids ']' = true) (h : Label edge w) : mark.Outside w := by
  refine Marker.outside_of_reads ?_ ?_ ?_ h
  · simp only [mark, privateKeyLabel, sequence, List.foldr, avoids, hopening]
    rfl
  · simp only [mark, privateKeyLabel, sequence, List.foldr, avoids, hclosing]
    rfl
  · rfl

/-- The labels of a block lie in no marker, whatever is between them. -/
theorem recovers_privateKey (later : Substitution isWord) :
    Recovers mark privateKeyPattern later :=
  recovers_of_frame (outside_label rfl rfl) (outside_label rfl rfl) reads_privateKey

theorem dropping_privateKey : privateKeyPattern.Dropping mark where
  replace_eq _ _ := rfl
  group_eq := rfl
  lead h := by
    obtain ⟨l, k, t, rfl, hl, -⟩ := reads_privateKey.1 h
    exact ⟨l, k ++ t, rfl, outside_label rfl rfl hl⟩
  recovers := recovers_privateKey _

end

/-! ## What the later patterns spare -/

/-- The letters that a text can start with that is dropped. -/
abbrev isHead : Char → Bool :=
  caselessAlnumOr "._%+-"

theorem not_space_of_isHead (h : isHead c = true) : isSpace c = false := by
  by_contra hspace
  rw [Bool.not_eq_false] at hspace
  obtain ⟨hfold, halnum⟩ := fold_of_isSpace hspace
  rw [isHead, caselessAlnumOr, hfold, halnum, Bool.false_or, decide_eq_true_eq] at h
  have hnone : ∀ d ∈ "._%+-".toList, isSpace d = false := by decide
  rw [hnone c h] at hspace
  cases hspace

theorem notMem_of_isHead {l : List Char} (hl : l.all fun d => !isHead d) (h : isHead c = true) :
    c ∉ l :=
  notMem_of_all hl h

theorem Keyed.not_suffix {w' r' : List Char} (h : Keyed w r) (h' : Keyed w' r') (hne : r ≠ r') :
    ¬w <:+ w' := by
  rintro ⟨x, rfl⟩
  refine hne ?_
  rw [← List.append_nil w] at h'
  rw [← h.nested h', List.append_nil]

section

variable [PythonAlnum] {p q : Char → Bool} {sub later : Substitution isWord}

theorem spares_of_dropping (h : later.Dropping mark)
    (hhead : ∀ {prev b next}, later.body.Reads isWord prev b next → b.head?.any isHead = true)
    (hp : ∀ c, isHead c = true → p c = true) : Spares p sub later where
  head hreads := by
    have hb := hhead hreads.2
    rw [Option.any_eq_true] at hb ⊢
    obtain ⟨c, hc, hcp⟩ := hb
    exact ⟨c, hc, hp c hcp⟩
  suffix hreads hne _ := absurd (h.group_eq_nil hreads) hne

theorem spares_of_masking (h : later.Masking mark q)
    (hsuffix : ∀ {g g'}, sub.group.Reads isWord none g none →
      later.group.Reads isWord none g' none → ¬g <:+ g' ∧ ¬g' <:+ g) : Spares p sub later where
  head hreads := absurd rfl (h.group_ne_nil hreads)
  suffix hreads _ hg := hsuffix hg (h.reads_group hreads)

variable {b : List Char} {prev next : Option Char}

theorem head_sk (h : skPattern.body.Reads isWord prev b next) : b.head?.any isHead = true := by
  obtain ⟨_, _, rfl, ⟨rfl, -⟩, _, _, rfl, hb, -⟩ := h
  rw [reads_exactly] at hb
  subst hb
  rfl

theorem head_privateKey (h : privateKeyPattern.body.Reads isWord prev b next) :
    b.head?.any isHead = true := by
  obtain ⟨l, k, t, rfl, ⟨_, l, rfl, hdashes, -⟩, -⟩ := reads_privateKey.1 h
  rw [reads_exactly] at hdashes
  subst hdashes
  rfl

theorem head_email (h : emailPattern.body.Reads isWord prev b next) :
    b.head?.any isHead = true := by
  obtain ⟨_, _, rfl, ⟨rfl, -⟩, w, _, rfl, hw, -⟩ := h
  obtain ⟨c, w, rfl⟩ := List.exists_cons_of_length_pos hw.2
  exact hw.1 c List.mem_cons_self

/-- A group without quotes has none of the texts with quotes at its end, and stands at the end of
none. -/
theorem suffix_quoted {g g' : List Char} (h : quotedPattern.group.Reads isWord none g none)
    (hne : g' ≠ []) (hquote : ∀ c ∈ g', isQuote c = false) : ¬g <:+ g' ∧ ¬g' <:+ g := by
  obtain ⟨-, w, d, rfl, hd⟩ := reads_quoted h
  have hnot : d ∉ g' := fun hmem => by
    rw [hquote d hmem] at hd
    cases hd
  refine ⟨fun hs => hnot (hs.subset (by simp)), ?_⟩
  rintro ⟨x, hx⟩
  obtain ⟨g'', e, rfl⟩ := (List.eq_nil_or_concat g').resolve_left hne
  rw [List.concat_eq_append, ← List.append_assoc, List.append_singleton_inj] at hx
  exact hnot (by simp [hx.2])

theorem suffix_authorization {g g' : List Char}
    (h : authorizationPattern.group.Reads isWord none g none)
    (h' : keyValuePattern.group.Reads isWord none g' none) : ¬g <:+ g' ∧ ¬g' <:+ g := by
  obtain ⟨s, b, t, hkeyed, -, hb, -⟩ := reads_authorization h
  obtain ⟨s', hkeyed', hs'⟩ := reads_keyValue h'
  have hne : s ++ (b ++ t) ≠ s' := by
    rintro rfl
    obtain ⟨c, b, rfl⟩ := List.exists_cons_of_ne_nil hb.1
    have hc : (!isSpace c) = true := hb.2 c List.mem_cons_self
    rw [hs' c (by simp)] at hc
    cases hc
  exact ⟨hkeyed.not_suffix hkeyed' hne, hkeyed'.not_suffix hkeyed hne.symm⟩

/-! ## The redactor -/

/-- The patterns without a key, with what they settle. -/
def droppings : List (Settling (isWord : Char → Bool)) :=
  [dropping_sk.settling, dropping_privateKey.settling, dropping_email.settling]

/-- The patterns with what they settle. -/
def settlings : List (Settling (isWord : Char → Bool)) :=
  masking_quoted.settling :: masking_authorization.settling :: masking_keyValue.settling ::
    droppings

theorem keeps_droppings (h : sub.Masking mark p) (hp : ∀ c, isHead c = true → p c = true) :
    ∀ settling ∈ droppings, h.settling.Keeps settling := by
  simp only [droppings, List.forall_mem_cons]
  exact ⟨h.keeps dropping_sk.marks (spares_of_dropping dropping_sk head_sk hp),
    h.keeps dropping_privateKey.marks (spares_of_dropping dropping_privateKey head_privateKey hp),
    h.keeps dropping_email.marks (spares_of_dropping dropping_email head_email hp), by simp⟩

theorem pairwise_droppings : droppings.Pairwise Settling.Keeps := by
  have hsk : ∀ {later : Substitution isWord}, Edged later.body isWord →
      Recovers mark skPattern later := fun hedged =>
    recovers_of_bounded (Marker.outside_of_reads rfl rfl rfl) bounded_sk hedged rfl rfl
  simp only [droppings, List.pairwise_cons, List.forall_mem_cons]
  exact ⟨⟨dropping_sk.keeps dropping_privateKey.marks (hsk edged_privateKey),
    dropping_sk.keeps dropping_email.marks (hsk bounded_email.edged), by simp⟩,
    ⟨dropping_privateKey.keeps dropping_email.marks (recovers_privateKey _), by simp⟩, by simp⟩

/-- Each pattern leaves to the later ones what the earlier ones settled. -/
theorem pairwise_settlings : settlings.Pairwise Settling.Keeps := by
  have hquote : ∀ c, isHead c = true → decide (c ∉ "\"'".toList) = true := fun c hc =>
    decide_eq_true (notMem_of_isHead (by decide) hc)
  have hauthorization : ∀ c, isHead c = true →
      (!isSpace c && decide (c ∉ ",;".toList)) = true := fun c hc => by
    rw [not_space_of_isHead hc]
    exact decide_eq_true (notMem_of_isHead (by decide) hc)
  have hkeyValue : ∀ c, isHead c = true →
      (!isSpace c && decide (c ∉ ",;&".toList)) = true := fun c hc => by
    rw [not_space_of_isHead hc]
    exact decide_eq_true (notMem_of_isHead (by decide) hc)
  rw [settlings]
  refine List.Pairwise.cons ?_ (List.Pairwise.cons ?_ (List.Pairwise.cons ?_ pairwise_droppings))
  · refine List.forall_mem_cons.2 ⟨?_, List.forall_mem_cons.2 ⟨?_, keeps_droppings _ hquote⟩⟩
    · exact masking_quoted.keeps masking_authorization.marks
        (spares_of_masking masking_authorization fun hg hg' => suffix_quoted hg
          (masking_authorization.outside hg').ne_nil (forall_notMem_of_avoids rfl hg'))
    · exact masking_quoted.keeps masking_keyValue.marks
        (spares_of_masking masking_keyValue fun hg hg' => suffix_quoted hg
          (masking_keyValue.outside hg').ne_nil (forall_notMem_of_avoids rfl hg'))
  · refine List.forall_mem_cons.2 ⟨?_, keeps_droppings _ hauthorization⟩
    exact masking_authorization.keeps masking_keyValue.marks
      (spares_of_masking masking_keyValue suffix_authorization)
  · exact keeps_droppings _ hkeyValue

/-- What the redactor made of a text, it makes of it again. -/
theorem redact_redact (value : List Char) :
    default.redact (default.redact value) = default.redact value :=
  Settling.run_run pairwise_settlings value

end

end Redactor

/-- A text that the default redactor made is redacted to itself. -/
theorem redacted_text_fixed [PythonAlnum] (value : String) :
    Redactor.default.text (Redactor.default.text value) = Redactor.default.text value := by
  rw [Redactor.text, Redactor.text, String.toList_ofList, Redactor.redact_redact]

end VulnLoom

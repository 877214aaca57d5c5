import VulnLoom.ReviewSource

/-!
# What masking hides

Taken as the parser and the tokenizer give them, positions count lines by newlines alone
(`numberedLines`). `masking_hides_iff` : `_masked_lines` replaces the literals and the comments
of a file, all of them and nothing else, and gives its lines under the numbers they have, exactly
when no `U+0085`, `U+2028` or `U+2029` stands before the line a literal ends on or before the
last character of a comment (`Aligned`).
-/

namespace VulnLoom

open TextLines Spans

/-! ## Texts -/

/-- The character ends a line of Python source. -/
def isNewline (c : Char) : Bool :=
  c = '\n'

/-- The lines of a source, as Python numbers them. -/
def numberedLines (source : List Char) : List (List Char) :=
  linesOf isNewline source

theorem isLineEnd_of_isNewline (c : Char) (h : isNewline c = true) : isLineEnd c = true := by
  obtain rfl : c = '\n' := by simpa [isNewline] using h
  rfl

theorem utf8_keepsStops : KeepsStops isNewline String.utf8EncodeChar fun b => b = 10 where
  ne_nil c := String.utf8EncodeChar_ne_nil
  stops c hc := by
    obtain rfl : c = '\n' := by simpa [isNewline] using hc
    exact ⟨10, by decide, rfl⟩
  others c hc b hb := by
    have hne : c.val.toNat ≠ 10 := fun h => by
      have : c = '\n' := Char.ext (UInt32.toNat_inj.mp h)
      simp [isNewline, this] at hc
    refine decide_eq_false fun hb10 => ?_
    subst hb10
    have hofNat : ∀ n, (10 : UInt8) = UInt8.ofNat n → n % 256 = 10 := fun n h => by
      simpa using (congrArg UInt8.toNat h).symm
    simp only [String.utf8EncodeChar] at hb
    split_ifs at hb <;> simp only [List.mem_cons, List.not_mem_nil, or_false] at hb
    · have := hofNat _ hb
      omega
    · rcases hb with hb | hb <;> have := hofNat _ hb <;> omega
    · rcases hb with hb | hb | hb <;> have := hofNat _ hb <;> omega
    · rcases hb with hb | hb | hb | hb <;> have := hofNat _ hb <;> omega

theorem decodeUtf8_encodeUtf8 (text : List Char) :
    decodeUtf8 (encodeUtf8 text) = some (String.ofList text) := by
  have hbytes : (⟨(encodeUtf8 text).toArray⟩ : ByteArray) = text.utf8Encode := by
    rw [List.utf8Encode, ← encodeUtf8]
    exact ByteArray.ext List.data_toByteArray.symm
  rw [decodeUtf8, String.fromUTF8?, hbytes, dif_pos ByteArray.isValidUTF8_utf8Encode]
  exact congrArg some (String.toByteArray_inj.mp (by rw [String.toByteArray_ofList]; rfl))

theorem offset_eq (stop : Char → Bool) (source : List Char) (n : ℕ) :
    offset (linesOf stop source) n = (encodeUtf8 (reach stop n 0 source)).length := by
  rw [reach_eq, List.take_zero, List.append_nil, offset]
  induction (linesOf stop source).take n with
  | nil => rfl
  | cons line lines ih =>
    rw [List.map_cons, List.sum_cons, ih, List.flatten_cons]
    simp [encodeUtf8]

theorem characterOffset_eq (stop : Char → Bool) (source : List Char) (row col : ℕ) :
    characterOffset (linesOf stop source) row col =
      (encodeUtf8 (reach stop (row - 1) col source)).length := by
  rw [characterOffset, offset_eq, reach_eq, reach_eq]
  simp [encodeUtf8]

/-- `str.splitlines` of a text without carriage returns. -/
theorem splitlines_eq {text : List Char} (h : '\r' ∉ text) :
    splitlines (String.ofList text) =
      (linesOf isLineEnd text).map fun line => line.filter fun c => !isLineEnd c := by
  have hfrom : ∀ line : List Char, (∀ c ∈ line, isLineEnd c = false) →
      splitlinesFrom line text = (linesOf isLineEnd (line ++ text)).map fun line =>
        line.filter fun c => !isLineEnd c := by
    have hkept : ∀ line : List Char, (∀ c ∈ line, isLineEnd c = false) →
        line.filter (fun c => !isLineEnd c) = line := fun line hline =>
      List.filter_eq_self.mpr fun c hc => by simp [hline c hc]
    induction text with
    | nil =>
      intro line hline
      by_cases hnil : line = []
      · subst hnil
        rfl
      · rw [splitlinesFrom, if_neg hnil, List.append_nil, linesOf_of_not_stop hline hnil,
          List.map_singleton, hkept line hline]
    | cons c text ih =>
      intro line hline
      have hc : c ≠ '\r' := fun heq => h (by simp [heq])
      have ih := ih fun hmem => h (by simp [hmem])
      rw [splitlinesFrom]
      · split_ifs with hend
        · rw [linesOf_append hline hend, ih [] (by simp), List.map_cons, List.filter_append,
            hkept line hline]
          simp [hend]
        · rw [ih (line ++ [c]) (fun d hd => ?_), List.append_assoc]
          · rfl
          · rcases List.mem_append.mp hd with hd | hd
            · exact hline d hd
            · obtain rfl : d = c := by simpa using hd
              simpa using hend
      · exact fun _ heq _ => hc heq
  simpa [splitlines] using hfrom [] (by simp)

/-! ## Positions -/

/-- A column in bytes at a character of a line, or at its end. -/
def ByteColumn (source : List Char) (line byteCol : ℕ) : Prop :=
  ∃ col, IsPosition isNewline (line - 1) col source ∧
    byteCol = (encodeUtf8 (((numberedLines source).getD (line - 1) []).take col)).length

/-- What the parser and the tokenizer say of the places of literals and comments : a literal
begins on or before the line it ends on and, there, not after its end; a comment is on one line
and ends it, so that no literal ends on that line after the comment begins; and what ends a line
for `str.splitlines` only is in a literal or a comment. -/
structure Placed (source : List Char) (nodes : List Node) (tokens : List Token) : Prop where
  literal : ∀ node ∈ nodes, node.isLiteral → 1 ≤ node.lineno ∧
    ByteColumn source node.lineno node.colOffset ∧
    ByteColumn source node.endLineno node.endColOffset ∧
    (node.lineno < node.endLineno ∨
      node.lineno = node.endLineno ∧ node.colOffset ≤ node.endColOffset)
  comment : ∀ token ∈ tokens, token.isComment → 1 ≤ token.start.1 ∧
    token.start.1 = token.stop.1 ∧ token.start.2 < token.stop.2 ∧
    IsPosition isNewline (token.stop.1 - 1) token.stop.2 source
  comment_last : ∀ node ∈ nodes, node.isLiteral → ∀ token ∈ tokens, token.isComment →
    node.endLineno = token.start.1 →
    (node.span (numberedLines source)).2 ≤ (token.span (numberedLines source)).1
  separator : ∀ before c after, source = before ++ c :: after → isLineEnd c → ¬isNewline c →
    CoveredBy (maskedSpans (numberedLines source) nodes tokens) (encodeUtf8 before).length

/-- The literal has no character. -/
def Node.isEmpty (node : Node) : Bool :=
  node.lineno = node.endLineno ∧ node.colOffset = node.endColOffset

/-- Every line end before the line that a literal ends on, and before the last character of a
comment, is a newline. -/
structure Aligned (source : List Char) (nodes : List Node) (tokens : List Token) : Prop where
  literal : ∀ node ∈ nodes, node.isLiteral → ¬node.isEmpty →
    ∀ c ∈ reach isNewline (node.endLineno - 1) 0 source, isLineEnd c → isNewline c
  comment : ∀ token ∈ tokens, token.isComment →
    ∀ c ∈ (reach isNewline (token.stop.1 - 1) token.stop.2 source).dropLast,
      isLineEnd c → isNewline c

section

variable {source : List Char} {nodes : List Node} {tokens : List Token}

/-- First parts of a source are equal if their encodings are as long. -/
theorem encodeUtf8_prefix_inj {xs ys : List Char} (hxs : xs <+: source) (hys : ys <+: source) :
    (encodeUtf8 xs).length = (encodeUtf8 ys).length ↔ xs = ys := by
  have h1 := length_flatMap_le_iff (fun c => String.utf8EncodeChar_ne_nil (c := c)) hxs hys
  have h2 := length_flatMap_le_iff (fun c => String.utf8EncodeChar_ne_nil (c := c)) hys hxs
  constructor
  · intro h
    have hlength : xs.length = ys.length :=
      le_antisymm (h1.mp (le_of_eq h)) (h2.mp (le_of_eq h.symm))
    rw [List.prefix_iff_eq_take.mp hxs, List.prefix_iff_eq_take.mp hys, hlength]
  · rintro rfl
    rfl

theorem encodeUtf8_prefix_le {xs ys : List Char} (h : xs <+: ys) :
    (encodeUtf8 xs).length ≤ (encodeUtf8 ys).length := by
  obtain ⟨zs, rfl⟩ := h
  simp [encodeUtf8]

theorem offset_le (n : ℕ) :
    offset (splitlinesKeepends source) n ≤ offset (numberedLines source) n := by
  rw [splitlinesKeepends, numberedLines, offset_eq, offset_eq]
  exact encodeUtf8_prefix_le (reach_mono isLineEnd_of_isNewline (.inr ⟨rfl, le_rfl⟩) source)

theorem characterOffset_le (row col : ℕ) :
    characterOffset (splitlinesKeepends source) row col ≤
      characterOffset (numberedLines source) row col := by
  rw [splitlinesKeepends, numberedLines, characterOffset_eq, characterOffset_eq]
  exact encodeUtf8_prefix_le (reach_mono isLineEnd_of_isNewline (.inr ⟨rfl, le_rfl⟩) source)

/-- Both notions of a line agree on where a line begins. -/
theorem offset_eq_iff {n : ℕ} (h : IsPosition isNewline n 0 source) :
    offset (splitlinesKeepends source) n = offset (numberedLines source) n ↔
      ∀ c ∈ reach isNewline n 0 source, isLineEnd c → isNewline c := by
  rw [splitlinesKeepends, numberedLines, offset_eq, offset_eq,
    encodeUtf8_prefix_inj (reach_initial n 0 source) (reach_initial n 0 source),
    reach_line_eq_iff isLineEnd_of_isNewline h]

/-- Both notions of a line agree on where a character is. -/
theorem characterOffset_eq_iff {row col : ℕ} (h : IsPosition isNewline (row - 1) col source) :
    characterOffset (splitlinesKeepends source) row col =
        characterOffset (numberedLines source) row col ↔
      ∀ c ∈ (reach isNewline (row - 1) col source).dropLast, isLineEnd c → isNewline c := by
  rw [splitlinesKeepends, numberedLines, characterOffset_eq, characterOffset_eq,
    encodeUtf8_prefix_inj (reach_initial _ col source) (reach_initial _ col source),
    reach_eq_iff isLineEnd_of_isNewline h]

/-- A byte column is where some character is. -/
theorem ByteColumn.characterOffset_eq {line byteCol : ℕ} (h : ByteColumn source line byteCol) :
    ∃ col, IsPosition isNewline (line - 1) col source ∧
      offset (numberedLines source) (line - 1) + byteCol =
        characterOffset (numberedLines source) line col := by
  obtain ⟨col, hpos, rfl⟩ := h
  exact ⟨col, hpos, rfl⟩

theorem ByteColumn.line {line byteCol : ℕ} (h : ByteColumn source line byteCol) :
    IsPosition isNewline (line - 1) 0 source := by
  obtain ⟨col, hpos, -⟩ := h
  exact hpos.of_le (Nat.zero_le _)

theorem isBoundary_characterOffset (row col : ℕ) :
    IsBoundary String.utf8EncodeChar source (characterOffset (numberedLines source) row col) :=
  ⟨_, reach_initial _ _ source, characterOffset_eq ..⟩

/-- Places are in the order of the characters before them. -/
theorem characterOffset_le_iff {row row' col col' : ℕ} :
    characterOffset (numberedLines source) row col ≤
        characterOffset (numberedLines source) row' col' ↔
      (reach isNewline (row - 1) col source).length ≤
        (reach isNewline (row' - 1) col' source).length := by
  rw [numberedLines, characterOffset_eq, characterOffset_eq]
  exact length_flatMap_le_iff (fun c => String.utf8EncodeChar_ne_nil (c := c))
    (reach_initial ..) (reach_initial ..)

theorem isBoundary_le {k : ℕ} (h : IsBoundary String.utf8EncodeChar source k) :
    k ≤ (encodeUtf8 source).length := by
  obtain ⟨ys, hys, rfl⟩ := h
  exact encodeUtf8_prefix_le hys

/-! ## Spans -/

theorem covered_maskedSpans {lines : List (List Char)} {k : ℕ} :
    CoveredBy (maskedSpans lines nodes tokens) k ↔
      (∃ node ∈ nodes, node.isLiteral ∧ (node.span lines).1 ≤ k ∧ k < (node.span lines).2) ∨
      ∃ token ∈ tokens, token.isComment ∧ (token.span lines).1 ≤ k ∧ k < (token.span lines).2 := by
  simp only [CoveredBy, maskedSpans, List.mem_append, List.mem_map, List.mem_filter]
  constructor
  · rintro ⟨s, ⟨node, ⟨hmem, hlit⟩, rfl⟩ | ⟨token, ⟨hmem, hcom⟩, rfl⟩, hk⟩
    · exact .inl ⟨node, hmem, hlit, hk⟩
    · exact .inr ⟨token, hmem, hcom, hk⟩
  · rintro (⟨node, hmem, hlit, hk⟩ | ⟨token, hmem, hcom, hk⟩)
    · exact ⟨_, .inl ⟨node, ⟨hmem, hlit⟩, rfl⟩, hk⟩
    · exact ⟨_, .inr ⟨token, ⟨hmem, hcom⟩, rfl⟩, hk⟩

theorem sortSpans_sorted (spans : List Span) :
    (sortSpans spans).Pairwise fun s t => s.1 ≤ t.1 := by
  have : Std.Total fun s t : Span => s.1 < t.1 ∨ s.1 = t.1 ∧ s.2 ≤ t.2 := ⟨fun s t => by omega⟩
  have : IsTrans Span fun s t => s.1 < t.1 ∨ s.1 = t.1 ∧ s.2 ≤ t.2 := ⟨fun s t u => by omega⟩
  exact (List.pairwise_insertionSort _ spans).imp fun h => by omega

theorem covered_replacedSpans (k : ℕ) :
    CoveredBy (replacedSpans source nodes tokens) k ↔
      CoveredBy (maskedSpans (splitlinesKeepends source) nodes tokens) k := by
  rw [replacedSpans, covered_merge (sortSpans_sorted _)]
  simp only [CoveredBy, sortSpans, List.mem_insertionSort]

/-- The places of the literals and comments are boundaries of characters, in order. -/
theorem Placed.span (h : Placed source nodes tokens) {s : Span}
    (hs : s ∈ maskedSpans (numberedLines source) nodes tokens) :
    IsBoundary String.utf8EncodeChar source s.1 ∧ IsBoundary String.utf8EncodeChar source s.2 ∧
      s.1 ≤ s.2 := by
  simp only [maskedSpans, List.mem_append, List.mem_map, List.mem_filter] at hs
  rcases hs with ⟨node, ⟨hmem, hlit⟩, rfl⟩ | ⟨token, ⟨hmem, hcom⟩, rfl⟩
  · obtain ⟨hline, hstart, hend, horder⟩ := h.literal node hmem hlit
    obtain ⟨col, hpos, hcol⟩ := hstart.characterOffset_eq
    obtain ⟨col', hpos', hcol'⟩ := hend.characterOffset_eq
    refine ⟨?_, ?_, ?_⟩
    · rw [Node.span, hcol]
      exact isBoundary_characterOffset ..
    · rw [Node.span, hcol']
      exact isBoundary_characterOffset ..
    · rcases horder with hlt | ⟨heq, hle⟩
      · have := hpos.length_lt hpos' (by omega)
        rw [Node.span, hcol, hcol']
        exact characterOffset_le_iff.mpr (le_of_lt this)
      · rw [Node.span, heq]
        exact Nat.add_le_add_left hle _
  · obtain ⟨-, hrow, hlt, hpos⟩ := h.comment token hmem hcom
    refine ⟨isBoundary_characterOffset .., isBoundary_characterOffset .., ?_⟩
    rw [Token.span, hrow, numberedLines, characterOffset_eq, characterOffset_eq]
    exact encodeUtf8_prefix_le (reach_mono (fun _ hc => hc) (.inr ⟨rfl, le_of_lt hlt⟩) source)

/-! ## Aligned files -/

theorem Node.span_of_isEmpty {node : Node} (h : node.isEmpty) (lines : List (List Char)) :
    (node.span lines).1 = (node.span lines).2 := by
  obtain ⟨hline, hcol⟩ : node.lineno = node.endLineno ∧ node.colOffset = node.endColOffset := by
    simpa [Node.isEmpty] using h
  rw [Node.span, hline, hcol]

/-- A literal with characters is looked up where it is. -/
theorem Aligned.node_span (h : Aligned source nodes tokens) (hplaced : Placed source nodes tokens)
    {node : Node} (hmem : node ∈ nodes) (hlit : node.isLiteral) (hne : ¬node.isEmpty) :
    node.span (splitlinesKeepends source) = node.span (numberedLines source) := by
  obtain ⟨hline, hstart, hend, horder⟩ := hplaced.literal node hmem hlit
  have hclean := h.literal node hmem hlit hne
  have hinitial : reach isNewline (node.lineno - 1) 0 source <+:
      reach isNewline (node.endLineno - 1) 0 source :=
    reach_mono (fun _ hc => hc) (by omega) source
  rw [Node.span, Node.span, (offset_eq_iff hend.line).mpr hclean,
    (offset_eq_iff hstart.line).mpr fun c hc => hclean c (hinitial.subset hc)]

/-- A comment is looked up where it is. -/
theorem Aligned.token_span (h : Aligned source nodes tokens)
    (hplaced : Placed source nodes tokens) {token : Token} (hmem : token ∈ tokens)
    (hcom : token.isComment) :
    token.span (splitlinesKeepends source) = token.span (numberedLines source) := by
  obtain ⟨-, hrow, hlt, hpos⟩ := hplaced.comment token hmem hcom
  have hclean := h.comment token hmem hcom
  have hstart := hpos.of_le (le_of_lt hlt)
  have hinitial : reach isNewline (token.stop.1 - 1) token.start.2 source <+:
      reach isNewline (token.stop.1 - 1) token.stop.2 source :=
    reach_mono (fun _ hc => hc) (.inr ⟨rfl, le_of_lt hlt⟩) source
  rw [Token.span, Token.span, hrow, (characterOffset_eq_iff hpos).mpr hclean,
    (characterOffset_eq_iff hstart).mpr fun c hc =>
      hclean c (dropLast_reach_subset hinitial.length_le hc)]

/-- What is replaced in an aligned file is what its literals and comments are. -/
theorem Aligned.covered (h : Aligned source nodes tokens) (hplaced : Placed source nodes tokens)
    (k : ℕ) :
    CoveredBy (maskedSpans (splitlinesKeepends source) nodes tokens) k ↔
      CoveredBy (maskedSpans (numberedLines source) nodes tokens) k := by
  rw [covered_maskedSpans, covered_maskedSpans]
  refine or_congr (exists_congr fun node => and_congr_right fun hmem => and_congr_right fun hlit =>
    ?_) (exists_congr fun token => and_congr_right fun hmem => and_congr_right fun hcom => ?_)
  · by_cases hne : node.isEmpty
    · have h1 := Node.span_of_isEmpty hne (splitlinesKeepends source)
      have h2 := Node.span_of_isEmpty hne (numberedLines source)
      omega
    · rw [h.node_span hplaced hmem hlit hne]
  · rw [h.token_span hplaced hmem hcom]

/-- The spans of an aligned file are spans of its encoding. -/
theorem Aligned.bounds (h : Aligned source nodes tokens) (hplaced : Placed source nodes tokens)
    {s : Span} (hs : s ∈ maskedSpans (splitlinesKeepends source) nodes tokens) :
    s.1 ≤ s.2 ∧ s.2 ≤ (encodeUtf8 source).length := by
  have htrue : ∀ t ∈ maskedSpans (numberedLines source) nodes tokens,
      t.1 ≤ t.2 ∧ t.2 ≤ (encodeUtf8 source).length := fun t ht =>
    ⟨(hplaced.span ht).2.2, isBoundary_le (hplaced.span ht).2.1⟩
  simp only [maskedSpans, List.mem_append, List.mem_map, List.mem_filter] at hs htrue
  rcases hs with ⟨node, ⟨hmem, hlit⟩, rfl⟩ | ⟨token, ⟨hmem, hcom⟩, rfl⟩
  · have hnode := htrue _ (.inl ⟨node, ⟨hmem, hlit⟩, rfl⟩)
    by_cases hne : node.isEmpty
    · have hempty := Node.span_of_isEmpty hne (splitlinesKeepends source)
      have hle : (node.span (splitlinesKeepends source)).2 ≤
          (node.span (numberedLines source)).2 := Nat.add_le_add_right (offset_le _) _
      omega
    · rwa [h.node_span hplaced hmem hlit hne]
  · rw [h.token_span hplaced hmem hcom]
    exact htrue _ (.inr ⟨token, ⟨hmem, hcom⟩, rfl⟩)

end

/-! ## Misaligned files -/

section

variable {source : List Char} {nodes : List Node} {tokens : List Token}

/-- A literal with characters begins before it ends. -/
theorem Placed.node_lt (h : Placed source nodes tokens) {node : Node} (hmem : node ∈ nodes)
    (hlit : node.isLiteral) (hne : ¬node.isEmpty) :
    (node.span (numberedLines source)).1 < (node.span (numberedLines source)).2 := by
  obtain ⟨hline, hstart, hend, horder⟩ := h.literal node hmem hlit
  rcases horder with hlt | ⟨heq, hle⟩
  · obtain ⟨col, hpos, hcol⟩ := hstart.characterOffset_eq
    obtain ⟨col', hpos', hcol'⟩ := hend.characterOffset_eq
    have := hpos.length_lt hpos' (by omega)
    rw [Node.span, hcol, hcol']
    exact lt_of_not_ge fun hge => absurd (characterOffset_le_iff.mp hge) (by omega)
  · have hcol : node.colOffset ≠ node.endColOffset := fun hcol =>
      hne (by simp [Node.isEmpty, heq, hcol])
    simp only [Node.span, heq]
    omega

/-- A comment begins before it ends. -/
theorem Placed.token_lt (h : Placed source nodes tokens) {token : Token} (hmem : token ∈ tokens)
    (hcom : token.isComment) :
    (token.span (numberedLines source)).1 < (token.span (numberedLines source)).2 := by
  obtain ⟨-, hrow, hcols, hpos⟩ := h.comment token hmem hcom
  have hstart := (hpos.of_le (le_of_lt hcols)).length_reach
  have hend := hpos.length_reach
  rw [Token.span, hrow]
  exact lt_of_not_ge fun hge => absurd (characterOffset_le_iff.mp hge) (by omega)

/-- The last character of what ends at a place that is looked up rightly. -/
inductive EndsExactly (source : List Char) (nodes : List Node) (tokens : List Token) (k : ℕ) :
    Prop
  | literal (node : Node) (hmem : node ∈ nodes) (hlit : node.isLiteral)
      (hend : (node.span (numberedLines source)).2 = k)
      (hclean : ∀ c ∈ reach isNewline (node.endLineno - 1) 0 source, isLineEnd c → isNewline c)
  | comment (token : Token) (hmem : token ∈ tokens) (hcom : token.isComment)
      (hend : (token.span (numberedLines source)).2 = k)
      (hclean : ∀ c ∈ (reach isNewline (token.stop.1 - 1) token.stop.2 source).dropLast,
        isLineEnd c → isNewline c)

/-- Before such a place, the lines that literals end on begin where both notions say. -/
theorem EndsExactly.literal_clean {k : ℕ} (h : EndsExactly source nodes tokens k)
    (hplaced : Placed source nodes tokens) {node : Node} (hmem : node ∈ nodes)
    (hlit : node.isLiteral) (hle : (node.span (numberedLines source)).2 ≤ k) :
    ∀ c ∈ reach isNewline (node.endLineno - 1) 0 source, isLineEnd c → isNewline c := by
  obtain ⟨-, -, hend, -⟩ := hplaced.literal node hmem hlit
  obtain ⟨col, hpos, hcol⟩ := hend.characterOffset_eq
  rw [Node.span, hcol] at hle
  rcases h with ⟨other, hmem', hlit', hk, hclean⟩ | ⟨token, hmem', hcom, hk, hclean⟩
  · obtain ⟨-, -, hend', -⟩ := hplaced.literal other hmem' hlit'
    obtain ⟨col', hpos', hcol'⟩ := hend'.characterOffset_eq
    rw [Node.span, hcol'] at hk
    rw [← hk, characterOffset_le_iff] at hle
    have hline : node.endLineno - 1 ≤ other.endLineno - 1 := by
      by_contra hlt
      have := hpos'.length_lt hpos (by omega)
      omega
    have hinitial : reach isNewline (node.endLineno - 1) 0 source <+:
        reach isNewline (other.endLineno - 1) 0 source :=
      reach_mono (fun _ hc => hc) (by omega) source
    exact fun c hc => hclean c (hinitial.subset hc)
  · obtain ⟨-, -, hcols, hpos'⟩ := hplaced.comment token hmem' hcom
    rw [Token.span] at hk
    rw [← hk, characterOffset_le_iff] at hle
    have hline : node.endLineno - 1 ≤ token.stop.1 - 1 := by
      by_contra hlt
      have := hpos'.length_lt hpos (by omega)
      omega
    have hinitial : reach isNewline (node.endLineno - 1) 0 source <+:
        reach isNewline (token.stop.1 - 1) 0 source :=
      reach_mono (fun _ hc => hc) (by omega) source
    have hlength := hpos'.length_reach
    have := hinitial.length_le
    exact fun c hc => hclean c (reach_subset_dropLast (by omega) hc)

/-- Before such a place, comments are where both notions say. -/
theorem EndsExactly.comment_clean {k : ℕ} (h : EndsExactly source nodes tokens k)
    (hplaced : Placed source nodes tokens) {token : Token} (hmem : token ∈ tokens)
    (hcom : token.isComment) (hle : (token.span (numberedLines source)).2 ≤ k) :
    ∀ c ∈ (reach isNewline (token.stop.1 - 1) token.stop.2 source).dropLast,
      isLineEnd c → isNewline c := by
  obtain ⟨hfirst, hrow, -, hpos⟩ := hplaced.comment token hmem hcom
  rcases h with ⟨node, hmem', hlit, hk, hclean⟩ | ⟨other, hmem', hcom', hk, hclean⟩
  · obtain ⟨hline, -, hend, horder⟩ := hplaced.literal node hmem' hlit
    obtain ⟨col, hpos', hcol⟩ := hend.characterOffset_eq
    -- no literal ends on the line of a comment after the comment begins
    have hline : token.stop.1 - 1 < node.endLineno - 1 := by
      by_contra hge
      by_cases heq : node.endLineno = token.start.1
      · have hlast := hplaced.comment_last node hmem' hlit token hmem hcom heq
        have hlt := hplaced.token_lt hmem hcom
        omega
      · have hlt := hpos'.length_lt hpos (by omega)
        rw [← hk, Token.span, Node.span, hcol, characterOffset_le_iff] at hle
        omega
    have hinitial : reach isNewline (token.stop.1 - 1) token.stop.2 source <+:
        reach isNewline (node.endLineno - 1) 0 source :=
      reach_mono (fun _ hc => hc) (.inl hline) source
    exact fun c hc => hclean c (hinitial.subset ((List.dropLast_subset _) hc))
  · rw [← hk, Token.span, Token.span] at hle
    exact fun c hc => hclean c (dropLast_reach_subset (characterOffset_le_iff.mp hle) hc)

/-- Places of literals and comments as they are looked up, each beside the right one. -/
def lookedUp (source : List Char) (nodes : List Node) (tokens : List Token) :
    List (Span × Span) :=
  (nodes.filter Node.isLiteral).map
      (fun node => (node.span (splitlinesKeepends source), node.span (numberedLines source))) ++
    (tokens.filter Token.isComment).map
      fun token => (token.span (splitlinesKeepends source), token.span (numberedLines source))

theorem map_fst_lookedUp : (lookedUp source nodes tokens).map Prod.fst =
    maskedSpans (splitlinesKeepends source) nodes tokens := by
  simp [lookedUp, maskedSpans, Function.comp_def]

theorem map_snd_lookedUp : (lookedUp source nodes tokens).map Prod.snd =
    maskedSpans (numberedLines source) nodes tokens := by
  simp [lookedUp, maskedSpans, Function.comp_def]

/-- A file of which all literals and comments are replaced is aligned. -/
theorem aligned_of_covered (hplaced : Placed source nodes tokens)
    (hcover : ∀ k, CoveredBy (maskedSpans (numberedLines source) nodes tokens) k →
      CoveredBy (maskedSpans (splitlinesKeepends source) nodes tokens) k) :
    Aligned source nodes tokens := by
  have hmem : ∀ {p}, p ∈ lookedUp source nodes tokens →
      (∃ node ∈ nodes, node.isLiteral ∧
        (node.span (splitlinesKeepends source), node.span (numberedLines source)) = p) ∨
      ∃ token ∈ tokens, token.isComment ∧
        (token.span (splitlinesKeepends source), token.span (numberedLines source)) = p := by
    intro p hp
    simpa only [lookedUp, List.mem_append, List.mem_map, List.mem_filter, and_assoc] using hp
  have hle : ∀ p ∈ lookedUp source nodes tokens,
      p.1.2 ≤ p.2.2 ∧ p.2.2 ≤ (encodeUtf8 source).length := by
    intro p hp
    have htrue : p.2 ∈ maskedSpans (numberedLines source) nodes tokens := by
      rw [← map_snd_lookedUp]
      exact List.mem_map_of_mem hp
    refine ⟨?_, isBoundary_le (hplaced.span htrue).2.1⟩
    rcases hmem hp with ⟨node, -, -, rfl⟩ | ⟨token, -, -, rfl⟩
    · exact Nat.add_le_add_right (offset_le _) _
    · exact characterOffset_le _ _
  have hne : ∀ p ∈ lookedUp source nodes tokens, p.1.1 < p.1.2 → p.2.1 < p.2.2 := by
    intro p hp hlt
    rcases hmem hp with ⟨node, hnode, hlit, rfl⟩ | ⟨token, htoken, hcom, rfl⟩
    · refine hplaced.node_lt hnode hlit fun hempty => ?_
      exact absurd (Node.span_of_isEmpty hempty (splitlinesKeepends source)) (ne_of_lt hlt)
    · exact hplaced.token_lt htoken hcom
  -- beyond anything that is not empty, something ends at a place that is looked up rightly
  have hends : ∀ p ∈ lookedUp source nodes tokens, p.2.1 < p.2.2 →
      ∃ k, p.2.2 ≤ k ∧ EndsExactly source nodes tokens k := by
    intro p hp hlt
    obtain ⟨q, hq, -, hexact, hlate⟩ := exists_exact hle hne (fun k => by
      rw [map_fst_lookedUp, map_snd_lookedUp]
      exact hcover k) hp hlt
    refine ⟨q.2.2, hlate, ?_⟩
    rcases hmem hq with ⟨node, hnode, hlit, rfl⟩ | ⟨token, htoken, hcom, rfl⟩
    · obtain ⟨-, -, hend, -⟩ := hplaced.literal node hnode hlit
      exact .literal node hnode hlit rfl
        ((offset_eq_iff hend.line).mp (Nat.add_right_cancel hexact))
    · obtain ⟨-, -, -, hpos⟩ := hplaced.comment token htoken hcom
      exact .comment token htoken hcom rfl ((characterOffset_eq_iff hpos).mp hexact)
  refine ⟨fun node hnode hlit hempty => ?_, fun token htoken hcom => ?_⟩
  · obtain ⟨k, hk, hexact⟩ := hends
      (node.span (splitlinesKeepends source), node.span (numberedLines source))
      (List.mem_append_left _ (List.mem_map.mpr
        ⟨node, List.mem_filter.mpr ⟨hnode, hlit⟩, rfl⟩)) (hplaced.node_lt hnode hlit hempty)
    exact hexact.literal_clean hplaced hnode hlit hk
  · obtain ⟨k, hk, hexact⟩ := hends
      (token.span (splitlinesKeepends source), token.span (numberedLines source))
      (List.mem_append_right _ (List.mem_map.mpr
        ⟨token, List.mem_filter.mpr ⟨htoken, hcom⟩, rfl⟩)) (hplaced.token_lt htoken hcom)
    exact hexact.comment_clean hplaced htoken hcom hk

end

/-! ## What is shown -/

/-- The source with each character of a literal or a comment marked. -/
def markedSource (source : List Char) (nodes : List Node) (tokens : List Token) :
    List (Char × Bool) :=
  markEncoded String.utf8EncodeChar
    (CoveredBy (maskedSpans (numberedLines source) nodes tokens)) 0 source

/-- A line with one mask for each run of marked characters, without its newline. -/
def shownLine (line : List (Char × Bool)) : List Char :=
  (redact isNewline reviewMask false line).filter fun c => !isNewline c

/-- The lines of a source under the numbers they have, without its literals and comments. -/
def shownLines [PythonAlnum] (source : List Char) (nodes : List Node) (tokens : List Token) :
    List String :=
  (linesOf (isNewline ∘ Prod.fst) (markedSource source nodes tokens)).map fun line =>
    Redactor.default.text (String.ofList (shownLine line))

section

variable {source : List Char} {nodes : List Node} {tokens : List Token}

theorem replacement_eq (piece : Bytes) :
    replacement piece = redact (fun b => b = 10) (reviewMask.flatMap String.utf8EncodeChar) false
      (piece.map fun b => (b, true)) :=
  intercalate_splitOn piece

/-- The bytes of an aligned file, after the loops. -/
theorem Aligned.maskedBytes (h : Aligned source nodes tokens)
    (hplaced : Placed source nodes tokens) :
    maskedBytes source nodes tokens =
      encodeUtf8 (redact isNewline reviewMask false (markedSource source nodes tokens)) := by
  have hseparated : Separated (encodeUtf8 source).length (replacedSpans source nodes tokens) :=
    merge_separated fun s hs => h.bounds hplaced ((List.mem_insertionSort _).mp hs)
  have hmark : mark (CoveredBy (replacedSpans source nodes tokens)) 0 (encodeUtf8 source) =
      mark (CoveredBy (maskedSpans (numberedLines source) nodes tokens)) 0 (encodeUtf8 source) :=
    mark_congr fun k _ _ => (covered_replacedSpans k).trans (h.covered hplaced k)
  rw [VulnLoom.maskedBytes, foldl_splice replacement_eq hseparated, hmark, encodeUtf8,
    mark_flatMap fun s hs => ⟨(hplaced.span hs).1, (hplaced.span hs).2.1⟩,
    redact_encode utf8_keepsStops]
  rfl

/-- Every line end that is shown is a newline. -/
theorem isLineEnd_shown (hclean : hasControls source = false)
    (hplaced : Placed source nodes tokens) {c : Char}
    (hc : c ∈ redact isNewline reviewMask false (markedSource source nodes tokens)) :
    c ≠ '\r' ∧ isNewline c = isLineEnd c := by
  rcases mem_redact hc with hmask | ⟨p, hp, rfl, hshown⟩
  · have hall : reviewMask.all (fun d => d ≠ '\r' ∧ isNewline d = isLineEnd d) := by decide
    exact of_decide_eq_true (List.all_eq_true.mp hall c hmask)
  · obtain ⟨before, after, hsource, hmarked⟩ := mem_markEncoded hp
    have hmem : p.1 ∈ source := by simp [hsource]
    refine ⟨fun hr => ?_, ?_⟩
    · have := List.any_eq_false.mp hclean p.1 hmem
      simp [hr] at this
    · by_cases hnewline : isNewline p.1 = true
      · rw [hnewline, isLineEnd_of_isNewline _ hnewline]
      · by_cases hend : isLineEnd p.1 = true
        · have hcovered := hplaced.separator before p.1 after hsource hend hnewline
          rw [Nat.zero_add] at hmarked
          rcases hshown with hshown | hshown
          · exact absurd hshown hnewline
          · exact absurd (hmarked.trans (decide_eq_true hcovered)) hshown
        · rw [Bool.eq_false_of_not_eq_true hend, Bool.eq_false_of_not_eq_true hnewline]

/-- The lines of an aligned file, after the loops. -/
theorem Aligned.splitlines (hclean : hasControls source = false)
    (hplaced : Placed source nodes tokens) :
    splitlines (String.ofList
        (redact isNewline reviewMask false (markedSource source nodes tokens))) =
      (linesOf (isNewline ∘ Prod.fst) (markedSource source nodes tokens)).map shownLine := by
  have hshown := fun c hc => isLineEnd_shown (c := c) hclean hplaced hc
  have hmask : ∀ c ∈ reviewMask, isNewline c = false := by
    have hany : reviewMask.any isNewline = false := by decide
    simpa using List.any_eq_false.mp hany
  rw [splitlines_eq fun hr => (hshown _ hr).1 rfl,
    ← linesOf_congr fun c hc => (hshown c hc).2, linesOf_redact hmask (by decide), List.map_map]
  refine List.map_congr_left fun line hline => ?_
  have hsub : ∀ c ∈ redact isNewline reviewMask false line, isNewline c = isLineEnd c := by
    intro c hc
    refine (hshown c ?_).2
    have hmem : redact isNewline reviewMask false line ∈ linesOf isNewline
        (redact isNewline reviewMask false (markedSource source nodes tokens)) := by
      rw [linesOf_redact hmask (by decide)]
      exact List.mem_map_of_mem hline
    have hflat := List.mem_flatten_of_mem hmem hc
    rwa [flatten_linesOf] at hflat
  exact List.filter_congr fun c hc => by rw [hsub c hc]

end

/-! ## Files -/

section

variable [PythonParser] [PythonAlnum]

/-- A file that `_masked_lines` accepts, with what the parser and the tokenizer say of it. -/
structure ReviewFile where
  raw : Bytes
  source : List Char
  nodes : List Node
  tokens : List Token
  decoded : (decodeUtf8 raw).map (fun text => replaceNewlines text.toList) = some source
  clean : hasControls source = false
  walked : PythonParser.walk source = some nodes
  tokenized : PythonParser.tokens source = some tokens

/-- `_masked_lines` of a file it accepts. -/
theorem ReviewFile.maskedLines_eq_ok (file : ReviewFile) {check : ℕ → Except ReviewError Unit}
    {lines : List String} :
    maskedLines file.raw check = .ok lines ↔
      (∀ n < file.nodes.length + file.tokens.length + 1, check n = .ok ()) ∧
      ∃ masked, decodeUtf8 (maskedBytes file.source file.nodes file.tokens) = some masked ∧
        lines = (splitlines masked).map fun line =>
          Redactor.default.text (String.ofList line) := by
  obtain ⟨text, htext, hsource⟩ := Option.map_eq_some_iff.mp file.decoded
  have hclean : ¬hasControls (replaceNewlines text.toList) = true := by
    rw [hsource, file.clean]
    exact Bool.false_ne_true
  simp only [maskedLines, bind_eq_ok, orRaise_eq_ok, htext, Option.some.injEq, raiseIf_eq_ok,
    pure_eq_ok]
  constructor
  · rintro ⟨_, rfl, -, -, nodes, hnodes, tokens, htokens, ⟨⟩, hcheck, masked, hmasked, rfl⟩
    rw [hsource] at hnodes htokens hmasked
    obtain rfl : file.nodes = nodes := Option.some.inj (file.walked.symm.trans hnodes)
    obtain rfl : file.tokens = tokens := Option.some.inj (file.tokenized.symm.trans htokens)
    refine ⟨fun n hn => ?_, masked, hmasked, rfl⟩
    exact forM_eq_ok.mp hcheck n (List.mem_range.mpr hn)
  · rintro ⟨hcheck, masked, hmasked, rfl⟩
    refine ⟨text, rfl, (), hclean, file.nodes, ?_, file.tokens, ?_, (), ?_, masked, ?_, rfl⟩
    · rw [hsource, file.walked]
    · rw [hsource, file.tokenized]
    · exact forM_eq_ok.mpr fun n hn => hcheck n (List.mem_range.mp hn)
    · rw [hsource, hmasked]

variable [ControlCategories] [PythonUrl] [CanonicalDigest String] [IngestionDigests]

/-- What is replaced is the literals and the comments, the lines are shown under the numbers they
have, and a snippet has those of its selection. -/
structure ReviewFile.Hides (file : ReviewFile) : Prop where
  replaced : ∀ k, CoveredBy (replacedSpans file.source file.nodes file.tokens) k ↔
    CoveredBy (maskedSpans (numberedLines file.source) file.nodes file.tokens) k
  shown : ∀ check : ℕ → Except ReviewError Unit, (∀ n, check n = .ok ()) →
    maskedLines file.raw check = .ok (shownLines file.source file.nodes file.tokens)
  snippet : ∀ (clock : ℕ → Time) (selection : Selection) (rootRef : String)
    (snippet : CodeReviewSnippet), selection.snapshot.rootRef = some rootRef →
    readReview selection.root (rootRef ++ "/" ++ selection.path) = .ok file.raw →
    selectSnippet clock selection = .ok snippet →
    snippet.lines = numberLines (shownLines file.source file.nodes file.tokens)
      selection.startLine selection.endLine

/-- The snippet of a selection has lines that `_masked_lines` gave for its file. -/
theorem selectSnippet_lines {clock : ℕ → Time} {selection : Selection} {rootRef : String}
    {raw : Bytes} {snippet : CodeReviewSnippet} (hroot : selection.snapshot.rootRef = some rootRef)
    (hread : readReview selection.root (rootRef ++ "/" ++ selection.path) = .ok raw)
    (h : selectSnippet clock selection = .ok snippet) :
    ∃ lines, (maskedLines raw fun n => checkClock clock (n + 1)) = .ok lines ∧
      snippet.lines = numberLines lines selection.startLine selection.endLine := by
  unfold selectSnippet at h
  obtain ⟨-, -, h⟩ := bind_eq_ok.mp h
  obtain ⟨-, -, h⟩ := bind_eq_ok.mp h
  obtain ⟨-, -, h⟩ := bind_eq_ok.mp h
  obtain ⟨-, -, h⟩ := bind_eq_ok.mp h
  obtain ⟨rootRef', hroot', h⟩ := bind_eq_ok.mp h
  obtain ⟨-, -, h⟩ := bind_eq_ok.mp h
  obtain ⟨file, -, h⟩ := bind_eq_ok.mp h
  obtain ⟨-, -, h⟩ := bind_eq_ok.mp h
  obtain ⟨-, -, h⟩ := bind_eq_ok.mp h
  obtain ⟨raw', hread', h⟩ := bind_eq_ok.mp h
  obtain ⟨-, -, h⟩ := bind_eq_ok.mp h
  obtain ⟨-, -, h⟩ := bind_eq_ok.mp h
  obtain ⟨lines, hlines, h⟩ := bind_eq_ok.mp h
  obtain ⟨-, -, h⟩ := bind_eq_ok.mp h
  obtain ⟨-, -, h⟩ := bind_eq_ok.mp h
  obtain ⟨-, -, h⟩ := bind_eq_ok.mp h
  obtain rfl := pure_eq_ok.mp h
  rw [orRaise_eq_ok] at hroot'
  obtain rfl : rootRef = rootRef' := Option.some.inj (hroot.symm.trans hroot')
  obtain rfl : raw = raw' := Except.ok.inj (hread.symm.trans hread')
  exact ⟨lines, hlines, rfl⟩

/-- Where the places of an aligned file are looked up, they are what they are. -/
theorem ReviewFile.hides_of_aligned (file : ReviewFile)
    (hplaced : Placed file.source file.nodes file.tokens)
    (h : Aligned file.source file.nodes file.tokens) : file.Hides := by
  have hdecode : decodeUtf8 (maskedBytes file.source file.nodes file.tokens) =
      some (String.ofList (redact isNewline reviewMask false
        (markedSource file.source file.nodes file.tokens))) := by
    rw [h.maskedBytes hplaced, decodeUtf8_encodeUtf8]
  have hlines : ∀ {check lines}, maskedLines file.raw check = .ok lines →
      lines = shownLines file.source file.nodes file.tokens := by
    intro check lines hmasked
    obtain ⟨-, masked, hdecode', rfl⟩ := file.maskedLines_eq_ok.mp hmasked
    rw [hdecode, Option.some.injEq] at hdecode'
    rw [← hdecode', Aligned.splitlines file.clean hplaced, List.map_map]
    rfl
  refine ⟨fun k => (covered_replacedSpans k).trans (h.covered hplaced k), fun check hcheck => ?_,
    fun clock selection rootRef snippet hroot hread hsnippet => ?_⟩
  · have hok := file.maskedLines_eq_ok.mpr ⟨fun n _ => hcheck n, _, hdecode, rfl⟩
    rw [hok, hlines hok]
  · obtain ⟨lines, hmasked, hsel⟩ := selectSnippet_lines hroot hread hsnippet
    rw [hsel, hlines hmasked]

/-- A file is masked as it should be exactly when no `U+0085`, `U+2028` or `U+2029` stands before
the line a literal ends on or before the last character of a comment. -/
theorem masking_hides_iff (file : ReviewFile)
    (hplaced : Placed file.source file.nodes file.tokens) :
    file.Hides ↔ Aligned file.source file.nodes file.tokens := by
  constructor
  · exact fun h => aligned_of_covered hplaced fun k hk =>
      (covered_replacedSpans k).mp ((h.replaced k).mpr hk)
  · exact file.hides_of_aligned hplaced

end

/-! ## Files with a line separator -/

section

attribute [local instance] asciiAlnum textIngestionDigests plainTextDigest hostUrls

@[reducible] def noControls : ControlCategories where
  control _ := false

attribute [local instance] noControls

/-- What ends a line for `str.splitlines` only, position by position. -/
theorem separator_of_positions {source : List Char} {spans : List Span}
    (h : ∀ i : Fin source.length, isLineEnd source[i] → ¬isNewline source[i] →
      CoveredBy spans (encodeUtf8 (source.take i)).length) (before : List Char) (c : Char)
    (after : List Char) (hsource : source = before ++ c :: after) (hend : isLineEnd c)
    (hnewline : ¬isNewline c) : CoveredBy spans (encodeUtf8 before).length := by
  subst hsource
  have := h ⟨before.length, by simp⟩ (by simpa using hend) (by simpa using hnewline)
  simpa using this

/-- A comment with a line separator in it. -/
def noteText : List Char :=
  "# a\u2028 key".toList

def noteTokens : List Token :=
  [⟨.comment, (1, 0), (1, 8)⟩, ⟨.other, (1, 8), (1, 9)⟩, ⟨.other, (2, 0), (2, 0)⟩]

/-- What the parser and the tokenizer say of the comment. -/
@[reducible] def noteParser : PythonParser where
  walk source := if source = noteText then some [⟨.other, 0, 0, 0, 0⟩] else none
  tokens source := if source = noteText then some noteTokens else none

attribute [local instance] noteParser in
/-- The file of the comment. -/
def noteFile : ReviewFile where
  raw := encodeUtf8 noteText
  source := noteText
  nodes := [⟨.other, 0, 0, 0, 0⟩]
  tokens := noteTokens
  decoded := by decide +kernel
  clean := by decide
  walked := if_pos rfl
  tokenized := if_pos rfl

attribute [local instance] noteParser in
/-- The rest of the comment is shown. -/
theorem masking_shows_comment :
    Placed noteFile.source noteFile.nodes noteFile.tokens ∧
      maskedLines noteFile.raw (fun _ => .ok ()) = .ok ["[REDACTED] key"] ∧ ¬noteFile.Hides := by
  refine ⟨⟨?_, ?_, ?_, separator_of_positions (by decide +kernel)⟩, ?_, fun h => ?_⟩
  · intro node hnode hlit
    obtain rfl : node = ⟨.other, 0, 0, 0, 0⟩ := by simpa [noteFile] using hnode
    exact absurd hlit (by decide)
  · intro token htoken hcom
    simp only [noteFile, noteTokens, List.mem_cons, List.not_mem_nil, or_false] at htoken
    rcases htoken with rfl | rfl | rfl
    · exact ⟨le_rfl, rfl, by decide, by decide +kernel⟩
    · exact absurd hcom (by decide)
    · exact absurd hcom (by decide)
  · intro node hnode hlit
    obtain rfl : node = ⟨.other, 0, 0, 0, 0⟩ := by simpa [noteFile] using hnode
    exact absurd hlit (by decide)
  · decide +kernel
  · have := h.replaced 7
    revert this
    decide +kernel

/-- A literal with a comment after it that ends in a line separator. -/
def greetingText : List Char :=
  "s='é'#k\u2028".toList

def greetingNodes : List Node :=
  [⟨.other, 0, 0, 0, 0⟩, ⟨.other, 1, 0, 1, 6⟩, ⟨.other, 1, 0, 1, 1⟩, ⟨.constant, 1, 2, 1, 6⟩]

def greetingTokens : List Token :=
  [⟨.other, (1, 0), (1, 1)⟩, ⟨.other, (1, 1), (1, 2)⟩, ⟨.other, (1, 2), (1, 5)⟩,
    ⟨.comment, (1, 5), (1, 8)⟩, ⟨.other, (1, 8), (1, 9)⟩, ⟨.other, (2, 0), (2, 0)⟩]

/-- What the parser and the tokenizer say of the literal and the comment. -/
@[reducible] def greetingParser : PythonParser where
  walk source := if source = greetingText then some greetingNodes else none
  tokens source := if source = greetingText then some greetingTokens else none

attribute [local instance] greetingParser in
def greetingFile : ReviewFile where
  raw := encodeUtf8 greetingText
  source := greetingText
  nodes := greetingNodes
  tokens := greetingTokens
  decoded := by decide +kernel
  clean := by decide
  walked := if_pos rfl
  tokenized := if_pos rfl

attribute [local instance] greetingParser in
/-- A separator that ends the last comment does no harm. -/
theorem greeting_hides :
    Placed greetingFile.source greetingFile.nodes greetingFile.tokens ∧ greetingFile.Hides := by
  have hliteral : ∀ node ∈ greetingNodes, node.isLiteral → node = ⟨.constant, 1, 2, 1, 6⟩ := by
    decide
  have hcomment : ∀ token ∈ greetingTokens, token.isComment →
      token = ⟨.comment, (1, 5), (1, 8)⟩ := by
    decide
  have hplaced : Placed greetingFile.source greetingFile.nodes greetingFile.tokens := by
    refine ⟨?_, ?_, ?_, separator_of_positions (by decide +kernel)⟩
    · intro node hnode hlit
      obtain rfl := hliteral node hnode hlit
      exact ⟨le_rfl, ⟨2, by decide +kernel, by decide +kernel⟩,
        ⟨5, by decide +kernel, by decide +kernel⟩, .inr ⟨rfl, by decide⟩⟩
    · intro token htoken hcom
      obtain rfl := hcomment token htoken hcom
      exact ⟨le_rfl, rfl, by decide, by decide +kernel⟩
    · intro node hnode hlit token htoken hcom _
      obtain rfl := hliteral node hnode hlit
      obtain rfl := hcomment token htoken hcom
      decide +kernel
  refine ⟨hplaced, (masking_hides_iff greetingFile hplaced).mpr ⟨?_, ?_⟩⟩
  · intro node hnode hlit _
    obtain rfl := hliteral node hnode hlit
    have hall : (reach isNewline 0 0 greetingText).all (fun c => isLineEnd c → isNewline c) := by
      decide +kernel
    exact fun c hc => of_decide_eq_true (List.all_eq_true.mp hall c hc)
  · intro token htoken hcom
    obtain rfl := hcomment token htoken hcom
    have hall : (reach isNewline 0 8 greetingText).dropLast.all
        (fun c => isLineEnd c → isNewline c) := by
      decide +kernel
    exact fun c hc => of_decide_eq_true (List.all_eq_true.mp hall c hc)

end

end VulnLoom

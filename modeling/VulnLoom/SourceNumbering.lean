import VulnLoom.SourceIndexing

/-!
# The lines of a source window

The index locates a symbol by the number of its line, and `read_window` cuts the window of that
line out of the lines of `str.splitlines`. JavaScript is numbered the same way. Python is numbered
by its parser, for which a form feed, say, ends no line : the window is the one of the symbol if
and only if no line of the source up to its end has such a character
(`window_shows_symbol_iff`).
-/

set_option linter.unusedSectionVars false

namespace VulnLoom

open LineNumbering

/-- The lines by which the symbols of a language are located. -/
def SourceLanguage.numbering : SourceLanguage → String → List PlacedLine
  | .python => physicalLines
  | .javascript => textLines
  | .typescript => textLines

/-- The file of a path, as a text. -/
def SnapshotSourceContextReader.fileText (reader : SnapshotSourceContextReader) (path : String) :
    Option String :=
  match reader.root (posixParts path) with
  | .regular _ content => decodeUtf8 content
  | _ => none

/-- The excerpt is the redaction of the lines it names, in the numbering of a language, and a line
is one of them. -/
structure SourceExcerpt.Shows [PythonAlnum] (excerpt : SourceExcerpt) (text : String)
    (language : SourceLanguage) (line : ℕ) : Prop where
  shown : excerpt.redactedText = Redactor.default.text (String.ofList (joinLines
    ((window (language.numbering text) excerpt.startLine excerpt.endLine).map Prod.snd)))
  lines : window (textLines text) excerpt.startLine excerpt.endLine =
    window (language.numbering text) excerpt.startLine excerpt.endLine
  contains : excerpt.startLine ≤ line ∧ line ≤ excerpt.endLine

/-! ## The lines of a text -/

theorem map_placedFrom {place : ℕ} {line s : List Char} :
    (placedFrom isLineEnd place line s).map Prod.snd = splitlinesFrom line s := by
  fun_induction placedFrom isLineEnd place line s with
  | case1 => rfl
  | case2 place line hne => rw [splitlinesFrom, if_neg hne, List.map_singleton]
  | case3 place line s ih => rw [List.map_cons, ih, splitlinesFrom]
  | case4 place line c s hne hend ih =>
    rw [List.map_cons, ih, splitlinesFrom.eq_3 _ _ _ hne, if_pos hend]
  | case5 place line c s hne hend ih => rw [ih, splitlinesFrom.eq_3 _ _ _ hne, if_neg hend]

theorem map_textLines (text : String) : (textLines text).map Prod.snd = splitlines text :=
  map_placedFrom

theorem isLineEnd_of_isPhysicalEnd (c : Char) (h : isPhysicalEnd c = true) :
    isLineEnd c = true := by
  simp only [isPhysicalEnd, Bool.or_eq_true, decide_eq_true_eq] at h
  rcases h with rfl | rfl <;> rfl

/-- No numbering has more lines than `str.splitlines` makes. -/
theorem length_numbering_le (language : SourceLanguage) (text : String) :
    (language.numbering text).length ≤ (splitlines text).length := by
  rw [← map_textLines, List.length_map]
  cases language with
  | python => exact length_le isLineEnd_of_isPhysicalEnd
  | javascript => exact Nat.le_refl _
  | typescript => exact Nat.le_refl _

/-- A window of the lines of `str.splitlines` shows the lines of the parser if and only if no
character in them ends a line. -/
theorem window_physicalLines_iff {text : String} {start stop n : ℕ} (hstart : 1 ≤ start)
    (hle : start ≤ stop) (hlength : start ≤ (physicalLines text).length)
    (hstop : stop = min (splitlines text).length n) :
    window (textLines text) start stop = window (physicalLines text) start stop ↔
      ∀ line ∈ (physicalLines text).take n, ∀ c ∈ line.2, isLineEnd c = false := by
  have hlast : (physicalLines text).length ≤ (splitlines text).length :=
    length_numbering_le .python text
  have htake : (physicalLines text).take n = (physicalLines text).take stop := by
    rcases Nat.le_total (splitlines text).length n with hshort | hlong
    · rw [hstop, Nat.min_eq_left hshort, List.take_of_length_le (hlast.trans hshort),
        List.take_of_length_le hlast]
    · rw [hstop, Nat.min_eq_right hlong]
  rw [htake]
  exact window_eq_iff isLineEnd_of_isPhysicalEnd hstart hle hlength

/-! ## Where a symbol is -/

/-- A symbol stands in a line of its document, in the numbering of its language. -/
def SourceSymbol.StandsIn (symbol : SourceSymbol) (document : SourceDocument) : Prop :=
  symbol.location.path = document.path ∧ 1 ≤ symbol.location.line ∧
    symbol.location.line ≤ (symbol.language.numbering document.text).length

section

variable [SourceHuntDigests] [PythonUrl] [PythonUnicode] [IngestionDigests] [PythonAlnum]
  [SourceParser]

variable {documents : List SourceDocument} {symbol : SourceSymbol}

theorem standsIn_python {index : LanguageIndex}
    (h : PythonLanguageAdapter.index documents = .ok index) (hsymbol : symbol ∈ index.symbols) :
    ∃ document ∈ documents, symbol.StandsIn document := by
  obtain ⟨document, hdocument, located, pending, hlocate, item, hitem, hcreate⟩ :=
    LanguageAdapter.mem_symbols h hsymbol
  obtain ⟨hpath, hlanguage, hpos, hle⟩ := (locatePython_spec hlocate).1 item hitem
  obtain ⟨-, rfl⟩ := Located.create_ok.1 hcreate
  refine ⟨document, hdocument, hpath, hpos, ?_⟩
  rwa [hlanguage]

theorem standsIn_javascript {index : LanguageIndex}
    (h : JavaScriptLanguageAdapter.index documents = .ok index) (hsymbol : symbol ∈ index.symbols) :
    ∃ document ∈ documents, symbol.StandsIn document := by
  obtain ⟨document, hdocument, located, pending, hlocate, item, hitem, hcreate⟩ :=
    LanguageAdapter.mem_symbols h hsymbol
  rw [← (Prod.mk.inj (Except.ok.inj hlocate)).1] at hitem
  obtain ⟨hpath, hlanguage, hpos, hlt⟩ :=
    (JavaScriptLanguageAdapter.locateLines_spec _ _ _).1 item hitem
  obtain ⟨-, rfl⟩ := Located.create_ok.1 hcreate
  have hnumbering : item.language.numbering document.text = textLines document.text := by
    rw [hlanguage]
    split_ifs <;> rfl
  have hle : item.line ≤ (textLines document.text).length := by
    rw [← map_textLines, List.length_map] at hlt
    omega
  exact ⟨document, hdocument, hpath, hpos, by rwa [hnumbering]⟩

/-- A symbol of an index stands in a line of a file that the index was made of. -/
theorem exists_standsIn {call : IndexingCall} {clock : ClockPlace → ℚ} {index : RepositoryIndex}
    (h : IndexingService.default.indexRepository call clock = .ok index)
    (hsymbol : symbol ∈ index.symbols) :
    ∃ root, call.root = some root ∧ ∃ item : SnapshotFile, ∃ text,
      item.HasText call.limits root text ∧ symbol.StandsIn (item.document text) := by
  simp only [IndexingService.indexRepository, bind_eq_ok, mapError_eq_ok] at h
  obtain ⟨-, -, documents, hread, indexes, hanalyze, hseal⟩ := h
  obtain ⟨-, root, hroot, hall⟩ := IndexingService.readDocuments_ok hread
  obtain ⟨-, -, -, hsymbols⟩ := IndexingService.sealIndex_ok hseal
  rw [hsymbols, Table.mem_orderBy] at hsymbol
  obtain ⟨found, hfound, hsymbol⟩ := List.mem_flatMap.1 hsymbol
  obtain ⟨some, hsome, rfl⟩ := List.mem_filterMap.1 hfound
  have hstands : ∃ document ∈ documents, symbol.StandsIn document := by
    simp only [IndexingService.analyze, bind_eq_ok, pure_eq_ok] at hanalyze
    obtain ⟨_, hindexes, -, -, rfl⟩ := hanalyze
    obtain ⟨adapter, hadapter, hindex⟩ := (mem_mapM hindexes).1 hsome
    unfold IndexingService.analyzeWith at hindex
    dsimp only at hindex
    split_ifs at hindex
    · cases hindex
    · simp only [bind_eq_ok, mapError_eq_ok, pure_eq_ok, Option.some.injEq] at hindex
      obtain ⟨-, -, _, hindex, rfl⟩ := hindex
      have hstands : ∃ document ∈ documents.filter fun document => adapter.supports document.path,
          symbol.StandsIn document := by
        rcases List.mem_pair.1 hadapter with rfl | rfl
        · exact standsIn_python hindex hsymbol
        · exact standsIn_javascript hindex hsymbol
      obtain ⟨document, hdocument, hstands⟩ := hstands
      exact ⟨document, (List.mem_filter.1 hdocument).1, hstands⟩
  obtain ⟨document, hdocument, hstands⟩ := hstands
  obtain ⟨item, -, hitem⟩ := (mem_mapM hall).1 hdocument
  obtain ⟨text, htext, rfl⟩ := readDocument_ok.1 hitem
  exact ⟨root, hroot, item, text, htext, hstands⟩

variable [CanonicalDigest String]

/-- What a reader reads the lines of is the text of the file. -/
theorem sourceLines_ok {reader : SnapshotSourceContextReader} {source : SourceFileRecord}
    {lines : List (List Char)} (h : reader.sourceLines source = .ok lines) :
    posixRoot source.path = "" ∧ ∃ name content text,
      reader.root (posixParts source.path) = .regular name content ∧
        decodeUtf8 content = some text ∧ lines = splitlines text := by
  simp only [SnapshotSourceContextReader.sourceLines, SnapshotSourceContextReader.readContent,
    bind_eq_ok, raiseIf_eq_ok, orRaise_eq_ok, pure_eq_ok, not_or] at h
  obtain ⟨-, ⟨-, hrelative, -⟩, content, hcontent, -, ⟨hlength, -⟩, text, htext, rfl⟩ := h
  split at hcontent
  · cases hcontent
  · cases hcontent
  · next name stored hfile =>
    obtain rfl := Except.ok.inj hcontent
    obtain ⟨htake, -⟩ := take_of_length (not_not.1 hlength)
    rw [htake] at htext
    exact ⟨if_pos hrelative, name, stored, text, hfile, htext, rfl⟩

/-- An excerpt for a symbol of an index shows the symbol if and only if it is one of JavaScript, or
no character that ends a line for `str.splitlines` only stands in the lines of the source up to the
end of the window. -/
theorem window_shows_symbol_iff {call : IndexingCall} {clock : ClockPlace → ℚ}
    {index : RepositoryIndex}
    (hindex : IndexingService.default.indexRepository call clock = .ok index)
    {reader : SnapshotSourceContextReader} (hroot : call.root = some reader.root)
    {symbol : SourceSymbol} (hsymbol : symbol ∈ index.symbols) {record : SourceFileRecord}
    (hpath : record.path = symbol.location.path) {excerpt : SourceExcerpt}
    (hread : reader.readWindow record symbol.symbolId symbol.location.line = .ok excerpt) :
    ∃ text, reader.fileText record.path = some text ∧
      (excerpt.Shows text symbol.language symbol.location.line ↔
        (symbol.language = .python →
          ∀ line ∈ (physicalLines text).take (symbol.location.line + reader.afterLines),
            ∀ c ∈ line.2, isLineEnd c = false)) := by
  obtain ⟨lines, hlines⟩ : ∃ lines, reader.sourceLines record = .ok lines := by
    unfold SnapshotSourceContextReader.readWindow at hread
    simp only [bind_eq_ok] at hread
    obtain ⟨lines, hlines, -⟩ := hread
    exact ⟨lines, hlines⟩
  obtain ⟨hrelative, name, content, text, hfile, htext, rfl⟩ := sourceLines_ok hlines
  obtain ⟨hstart, hend, hle, hshown⟩ := readWindow_ok hlines hread
  refine ⟨text, by rw [SnapshotSourceContextReader.fileText, hfile]; exact htext, ?_⟩
  -- the index was made of the same text
  obtain ⟨root, hroot', item, text', ⟨-, _, _, hfile', -, -, htext'⟩, hitem, hpos, hline⟩ :=
    exists_standsIn hindex hsymbol
  obtain rfl : reader.root = root := Option.some.inj (hroot.symm.trans hroot')
  rw [show item.path = record.path from hitem.symm.trans hpath.symm, purePosixParts,
    if_pos hrelative, hfile] at hfile'
  obtain ⟨-, rfl⟩ := SourceFile.regular.inj hfile'
  obtain rfl : text = text' := Option.some.inj (htext.symm.trans htext')
  replace hline : symbol.location.line ≤ (symbol.language.numbering text).length := hline
  have hlast := length_numbering_le symbol.language text
  rw [SnapshotSourceContextReader.startLine] at hstart
  rw [SnapshotSourceContextReader.endLine] at hend
  have hcontains : excerpt.startLine ≤ symbol.location.line ∧
      symbol.location.line ≤ excerpt.endLine := by omega
  have htexts : selectLines (splitlines text) excerpt.startLine excerpt.endLine =
      (window (textLines text) excerpt.startLine excerpt.endLine).map Prod.snd := by
    rw [← map_textLines, selectLines, window, List.map_drop, List.map_take]
  rw [htexts] at hshown
  -- what is left is that the lines of the window are the same
  have hshows : excerpt.Shows text symbol.language symbol.location.line ↔
      window (textLines text) excerpt.startLine excerpt.endLine =
        window (symbol.language.numbering text) excerpt.startLine excerpt.endLine :=
    ⟨fun h => h.lines, fun h => ⟨by rw [← h]; exact hshown, h, hcontains⟩⟩
  rw [hshows]
  cases hlanguage : symbol.language with
  | python =>
    rw [hlanguage] at hline
    have hiff := window_physicalLines_iff (by omega) hle (hcontains.1.trans hline) hend
    exact hiff.trans ⟨fun h _ => h, fun h => h rfl⟩
  | javascript => simp [SourceLanguage.numbering]
  | typescript => simp [SourceLanguage.numbering]

end

/-! ## A function under a form feed -/

section

/-- A function on the first line. -/
def plainText : String :=
  "def f():\n    pass\n"

/-- A function on the second line, for the parser. -/
def formFeedText : String :=
  "\x0c\ndef f():\n    pass\n"

def functionAt (line : ℕ) : PyNode :=
  .other [.definition .functionDef "f" line [.other []]]

/-- The trees of the two texts. -/
@[reducible] def formFeedParser : SourceParser where
  parse text :=
    if text = plainText then .ok (functionAt 1)
    else if text = formFeedText then .ok (functionAt 2)
    else .error .syntaxError
  lineno_bounds := by
    intro text tree h node hnode line hline
    have hbounds : ∀ n, 1 ≤ n ∧ n ≤ (physicalLines text).length → node ∈ (functionAt n).walk →
        1 ≤ line ∧ line ≤ (physicalLines text).length := by
      intro n hn hnode
      simp only [functionAt, PyNode.walk, PyNode.walkAll, List.append_nil, List.mem_cons,
        List.not_mem_nil, or_false] at hnode
      rcases hnode with rfl | rfl | rfl <;> simp [PyNode.lineno] at hline
      exact hline ▸ hn
    split_ifs at h with hplain hformFeed
    · rw [← Except.ok.inj h] at hnode
      exact hbounds 1 (by rw [hplain]; decide +kernel) hnode
    · rw [← Except.ok.inj h] at hnode
      exact hbounds 2 (by rw [hformFeed]; decide +kernel) hnode

attribute [local instance] textHuntDigests hostUrls plainUnicode textIngestionDigests asciiAlnum
  plainTextDigest formFeedParser

/-- A snapshot of one file. -/
def windowCall (text : String) : IndexingCall where
  snapshot := {
    target := ⟨"t", "g", .repository, "r", "1", 0⟩
    artifact := ⟨"a", "g", .sourceArchive, "f", "r", 1, "tar", none, 0⟩
    manifest := ⟨"m", "a", "t", "1", [⟨"f.py", (utf8 text).length, sha256 (utf8 text), .source⟩],
      (utf8 text).length, 0⟩
    rootRef := some "snapshots/m/payload" }
  root := some fun _ => .regular "f.py" (utf8 text)
  scope := { sampleScope with artifacts := [⟨.sourceArchive, "a", "f"⟩] }
  limits := sampleHuntLimits
  now := 1

def windowRecord (text : String) : SourceFileRecord :=
  ⟨"f.py", .python, (utf8 text).length, sha256 (utf8 text)⟩

/-- A reader of one line. -/
def lineReader (text : String) : SnapshotSourceContextReader where
  root _ := .regular "f.py" (utf8 text)
  beforeLines := 0
  afterLines := 0
  maxBytes := 32768
  lines_bounds := secretReader.lines_bounds
  maxBytes_bounds := secretReader.maxBytes_bounds

def functionSymbol (line : ℕ) : SourceSymbol :=
  ⟨.python, "f.f", .function, ⟨"f.py", line, some "f.f"⟩⟩

def lineExcerpt (line : ℕ) (shown : String) : SourceExcerpt :=
  ⟨"sf.f", "f.py", line, line, shown, shown⟩

/-- The definition of a function on the first line is shown. -/
theorem plainText_shows : (lineExcerpt 1 "def f():").Shows plainText .python 1 := by
  obtain ⟨index, hindex, hsymbols⟩ := exists_ok_of_map (f := fun index => index.symbols)
    (b := [functionSymbol 1]) (by decide +kernel :
      (IndexingService.default.indexRepository (windowCall plainText)
        fun _ => 0).toOption.map _ = some _)
  have hread : (lineReader plainText).readWindow (windowRecord plainText)
      (functionSymbol 1).symbolId 1 = .ok (lineExcerpt 1 "def f():") := by
    obtain ⟨excerpt, hexcerpt, rfl⟩ := exists_ok_of_map (f := id)
      (b := lineExcerpt 1 "def f():") (by decide +kernel :
        ((lineReader plainText).readWindow (windowRecord plainText)
          (functionSymbol 1).symbolId 1).toOption.map id = some _)
    exact hexcerpt
  obtain ⟨text, htext, hiff⟩ := window_shows_symbol_iff hindex rfl
    (by rw [hsymbols]; exact List.mem_singleton_self _ : functionSymbol 1 ∈ index.symbols) rfl
    hread
  obtain rfl : plainText = text := by
    rw [SnapshotSourceContextReader.fileText] at htext
    exact Option.some.inj ((decodeUtf8_utf8 plainText).symm.trans htext)
  exact hiff.2 fun _ => by decide +kernel

/-- Under a form feed, the window of a function is the empty line above it. -/
theorem formFeed_hides : ∃ index,
    IndexingService.default.indexRepository (windowCall formFeedText) (fun _ => 0) = .ok index ∧
      functionSymbol 2 ∈ index.symbols ∧
      (lineReader formFeedText).readWindow (windowRecord formFeedText)
        (functionSymbol 2).symbolId 2 = .ok (lineExcerpt 2 "") ∧
      ¬(lineExcerpt 2 "").Shows formFeedText .python 2 := by
  obtain ⟨index, hindex, hsymbols⟩ := exists_ok_of_map (f := fun index => index.symbols)
    (b := [functionSymbol 2]) (by decide +kernel :
      (IndexingService.default.indexRepository (windowCall formFeedText)
        fun _ => 0).toOption.map _ = some _)
  obtain ⟨excerpt, hexcerpt, rfl⟩ := exists_ok_of_map (f := id) (b := lineExcerpt 2 "")
    (by decide +kernel : ((lineReader formFeedText).readWindow (windowRecord formFeedText)
      (functionSymbol 2).symbolId 2).toOption.map id = some _)
  refine ⟨index, hindex, by rw [hsymbols]; exact List.mem_singleton_self _, hexcerpt, fun h => ?_⟩
  exact absurd h.lines (by decide +kernel)

end

end VulnLoom

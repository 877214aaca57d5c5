import Mathlib
import VulnLoom.ReportDecisions

/-!
# Revisions of a report

The differences of two consecutive versions patch the title and the sections by their paths, which
are the sections of each kind in their order. The order of the kinds is not part of a difference.
-/

namespace VulnLoom

open Table

/-! ## Paths -/

/-- The path of the only section of a kind. -/
def kindPath (kind : ReportSectionKind) : String :=
  "sections." ++ kind.value

/-- The path of a reproduction step. -/
def reproductionPath (number : ℕ) : String :=
  "sections." ++ ReportSectionKind.reproduction.value ++ "." ++ toString number

variable {kind kind' : ReportSectionKind}

theorem ReportSectionKind.value_inj (h : kind.value = kind'.value) : kind = kind' := by
  cases kind <;> cases kind' <;> first | rfl | exact absurd h (by decide)

theorem kindPath_inj : kindPath kind = kindPath kind' ↔
    kind = kind' := by
  refine ⟨fun h => ReportSectionKind.value_inj ?_, congrArg kindPath⟩
  rw [kindPath, kindPath, ← String.toList_inj, String.toList_append, String.toList_append,
    List.append_cancel_left_eq] at h
  exact String.toList_inj.1 h

theorem reproductionPath_inj {number number' : ℕ} :
    reproductionPath number = reproductionPath number' ↔ number = number' := by
  refine ⟨fun h => Nat.repr_injective ?_, congrArg reproductionPath⟩
  rw [reproductionPath, reproductionPath, ← String.toList_inj, String.toList_append,
    String.toList_append (t := toString number'), List.append_cancel_left_eq] at h
  exact String.toList_inj.1 h

theorem kindPath_ne_reproductionPath (kind : ReportSectionKind) (number : ℕ) :
    kindPath kind ≠ reproductionPath number := by
  intro h
  have hdot : '.' ∉ kind.value.toList := by cases kind <;> decide
  rw [kindPath, reproductionPath, ← String.toList_inj] at h
  simp only [String.toList_append, List.append_assoc, List.append_cancel_left_eq] at h
  exact hdot (h ▸ by simp)

theorem title_ne_kindPath (kind : ReportSectionKind) : "title" ≠ kindPath kind := by
  intro h
  have hhead := congrArg (fun path => path.toList.head?) h
  simp [kindPath] at hhead

theorem title_ne_reproductionPath (number : ℕ) : "title" ≠ reproductionPath number := by
  intro h
  have hhead := congrArg (fun path => path.toList.head?) h
  simp [reproductionPath] at hhead

/-! ## The map of the sections -/

/-- What a section says, with its citations. -/
def ReportSection.content (item : ReportSection) : String × List Digest :=
  (item.text, item.evidenceRefs)

theorem ReportSection.ext_content {item item' : ReportSection} (hkind : item.kind = item'.kind)
    (hcontent : item.content = item'.content) : item = item' := by
  cases item
  cases item'
  obtain ⟨htext, hrefs⟩ := Prod.mk.inj hcontent
  cases hkind
  cases htext
  cases hrefs
  rfl

/-- The sections of a kind, in their order. -/
def ofKind (kind : ReportSectionKind) (sections : List ReportSection) : List ReportSection :=
  sections.filter fun item => item.kind = kind

variable {sections : List ReportSection}

theorem mem_ofKind {item : ReportSection} :
    item ∈ ofKind kind sections ↔ item ∈ sections ∧ item.kind = kind := by
  simp [ofKind]

theorem length_ofKind (kind : ReportSectionKind) (sections : List ReportSection) :
    (ofKind kind sections).length = countKind sections kind :=
  List.countP_eq_length_filter.symm

theorem mem_sectionMap : ∀ {sections : List ReportSection} {index : ℕ} {path : String}
    {content : String × List Digest}, (path, content) ∈ sectionMap index sections ↔
      (∃ kind, kind ≠ .reproduction ∧ path = kindPath kind ∧
        ∃ item ∈ ofKind kind sections, item.content = content) ∨
      ∃ i, path = reproductionPath (index + i + 1) ∧
        ∃ item, (ofKind .reproduction sections)[i]? = some item ∧ item.content = content
  | [], _, _, _ => by simp [sectionMap, ofKind]
  | item :: items, index, path, content => by
    by_cases hkind : item.kind = .reproduction
    · have hof : ofKind .reproduction (item :: items) = item :: ofKind .reproduction items := by
        simp [ofKind, hkind]
      have hother {kind : ReportSectionKind} (hne : kind ≠ .reproduction) :
          ofKind kind (item :: items) = ofKind kind items := by
        simp [ofKind, hkind, Ne.symm hne]
      rw [sectionMap, if_pos hkind, List.mem_cons, mem_sectionMap, hof]
      constructor
      · rintro (h | ⟨kind, hne, hpath, hitem⟩ | ⟨i, hpath, hitem⟩)
        · obtain ⟨rfl, rfl⟩ := Prod.mk.inj h
          exact .inr ⟨0, by rw [hkind]; rfl, item, rfl, rfl⟩
        · exact .inl ⟨kind, hne, hpath, (hother hne).symm ▸ hitem⟩
        · refine .inr ⟨i + 1, ?_, hitem⟩
          rw [hpath, Nat.add_right_comm index 1 i, Nat.add_assoc index i 1]
      · rintro (⟨kind, hne, hpath, hitem⟩ | ⟨i, hpath, hitem⟩)
        · exact .inr (.inl ⟨kind, hne, hpath, hother hne ▸ hitem⟩)
        · cases i with
          | zero =>
            obtain ⟨_, hget, rfl⟩ := hitem
            obtain rfl := Option.some.inj hget
            left
            rw [hpath, hkind]
            rfl
          | succ i =>
            refine .inr (.inr ⟨i, ?_, hitem⟩)
            rw [hpath, Nat.add_right_comm index 1 i, Nat.add_assoc index i 1]
    · have hof : ofKind .reproduction (item :: items) = ofKind .reproduction items := by
        simp [ofKind, hkind]
      have hsame : ofKind item.kind (item :: items) = item :: ofKind item.kind items := by
        simp [ofKind]
      have hother {kind : ReportSectionKind} (hne : kind ≠ item.kind) :
          ofKind kind (item :: items) = ofKind kind items := by
        simp [ofKind, Ne.symm hne]
      rw [sectionMap, if_neg hkind, List.mem_cons, mem_sectionMap, hof, ← or_assoc]
      refine or_congr_left ?_
      constructor
      · rintro (h | ⟨kind, hne, hpath, hitem⟩)
        · obtain ⟨rfl, rfl⟩ := Prod.mk.inj h
          exact ⟨item.kind, hkind, rfl, item, hsame ▸ List.mem_cons_self, rfl⟩
        · refine ⟨kind, hne, hpath, ?_⟩
          by_cases heq : kind = item.kind
          · subst heq
            obtain ⟨other, hmem, hcontent⟩ := hitem
            exact ⟨other, hsame ▸ List.mem_cons_of_mem _ hmem, hcontent⟩
          · exact (hother heq).symm ▸ hitem
      · rintro ⟨kind, hne, hpath, other, hmem, hcontent⟩
        by_cases heq : kind = item.kind
        · subst heq
          rw [hsame, List.mem_cons] at hmem
          rcases hmem with rfl | hmem
          · left
            rw [hpath, ← hcontent]
            rfl
          · exact .inr ⟨item.kind, hne, hpath, other, hmem, hcontent⟩
        · exact .inr ⟨kind, hne, hpath, other, hother heq ▸ hmem, hcontent⟩

variable {path : String}

theorem mem_sectionMap_keys {index : ℕ} (h : path ∈ (sectionMap index sections).map Prod.fst) :
    (∃ kind, kind ≠ .reproduction ∧ path = kindPath kind ∧ ∃ item ∈ sections, item.kind = kind) ∨
      ∃ i < countKind sections .reproduction, path = reproductionPath (index + i + 1) := by
  obtain ⟨⟨_, content⟩, hmem, rfl⟩ := List.mem_map.1 h
  rcases mem_sectionMap.1 hmem with ⟨kind, hne, hpath, item, hitem, -⟩ | ⟨i, hpath, item, hget, -⟩
  · exact .inl ⟨kind, hne, hpath, item, mem_ofKind.1 hitem⟩
  · refine .inr ⟨i, ?_, hpath⟩
    rw [← length_ofKind]
    exact (List.getElem?_eq_some_iff.1 hget).1

/-- Each part has a path of its own. -/
theorem nodup_sectionMap_keys : ∀ {sections : List ReportSection} {index : ℕ},
    (∀ kind, kind ≠ .reproduction → countKind sections kind ≤ 1) →
      ((sectionMap index sections).map Prod.fst).Nodup
  | [], _, _ => List.nodup_nil
  | item :: items, index, h => by
    have hrest : ∀ kind, kind ≠ .reproduction → countKind items kind ≤ 1 := by
      intro kind hne
      exact ((List.sublist_cons_self item items).countP_le).trans (h kind hne)
    by_cases hkind : item.kind = .reproduction
    · rw [sectionMap, if_pos hkind, List.map_cons, List.nodup_cons]
      refine ⟨fun hmem => ?_, nodup_sectionMap_keys hrest⟩
      have hpath : "sections." ++ item.kind.value ++ "." ++ toString (index + 1) =
          reproductionPath (index + 1) := by
        rw [hkind]
        rfl
      rw [hpath] at hmem
      rcases mem_sectionMap_keys hmem with ⟨kind, -, heq, -⟩ | ⟨i, -, heq⟩
      · exact kindPath_ne_reproductionPath kind _ heq.symm
      · have := reproductionPath_inj.1 heq
        omega
    · rw [sectionMap, if_neg hkind, List.map_cons, List.nodup_cons]
      refine ⟨fun hmem => ?_, nodup_sectionMap_keys hrest⟩
      rcases mem_sectionMap_keys hmem with ⟨kind, -, heq, other, hother, hsame⟩ | ⟨i, -, heq⟩
      · obtain rfl := kindPath_inj.1 heq
        have hone := h item.kind hkind
        have hpos : 0 < countKind items item.kind :=
          List.countP_pos_iff.2 ⟨other, hother, by simpa using hsame⟩
        rw [countKind, List.countP_cons_of_pos (by simp)] at hone
        rw [countKind] at hpos
        omega
      · exact kindPath_ne_reproductionPath item.kind _ heq

variable {parts : List (String × String × List Digest)}

theorem getPart_eq_some (h : (parts.map Prod.fst).Nodup) {content : String × List Digest} :
    getPart parts path = some content ↔ (path, content) ∈ parts := by
  constructor
  · intro hget
    obtain ⟨⟨path', content'⟩, hfind, rfl⟩ := Option.map_eq_some_iff.1 hget
    have hpath : path' = path := by simpa using List.find?_some hfind
    rw [← hpath]
    exact List.mem_reverse.1 (List.mem_of_find?_eq_some hfind)
  · intro hmem
    have hreverse : (parts.reverse.map Prod.fst).Nodup := by
      rwa [List.map_reverse, List.nodup_reverse]
    have hfind := Table.find?_key hreverse (List.mem_reverse.2 hmem)
    rw [getPart, hfind]
    rfl

theorem getPart_eq_none : getPart parts path = none ↔ path ∉ parts.map Prod.fst := by
  rw [getPart, Option.map_eq_none_iff, List.find?_eq_none, List.mem_map]
  constructor
  · rintro h ⟨part, hmem, rfl⟩
    exact h part (List.mem_reverse.2 hmem) (decide_eq_true rfl)
  · intro h part hmem hpath
    exact h ⟨part, List.mem_reverse.1 hmem, of_decide_eq_true hpath⟩

/-! ## The parts of a report -/

namespace Report

/-- What stands at a path of a report : its title or a section, with its citations. -/
def part (report : Report) (path : String) : Option (String × List Digest) :=
  if path = "title" then some (report.title, [])
  else getPart (sectionMap 0 report.sections) path

/-- Two versions with one title and, of each kind, the same sections in the same order. -/
def SameParts (previous current : Report) : Prop :=
  previous.title = current.title ∧
    ∀ kind, ofKind kind previous.sections = ofKind kind current.sections

variable {previous current report : Report}

theorem nodup_parts (report : Report) : ((sectionMap 0 report.sections).map Prod.fst).Nodup :=
  nodup_sectionMap_keys fun kind hne => (report.section_counts.1 kind hne).le

theorem part_title (report : Report) : report.part "title" = some (report.title, []) :=
  if_pos rfl

variable {kind : ReportSectionKind}

theorem part_kindPath (hne : kind ≠ .reproduction) :
    report.part (kindPath kind) = (ofKind kind report.sections).head?.map (·.content) := by
  obtain ⟨item, hof⟩ : ∃ item, ofKind kind report.sections = [item] := by
    rw [← List.length_eq_one_iff, length_ofKind]
    exact report.section_counts.1 kind hne
  rw [part, if_neg (title_ne_kindPath kind).symm, hof, List.head?_cons, Option.map_some,
    getPart_eq_some report.nodup_parts, mem_sectionMap]
  exact .inl ⟨kind, hne, rfl, item, hof ▸ List.mem_singleton_self item, rfl⟩

theorem part_reproductionPath (i : ℕ) : report.part (reproductionPath (i + 1)) =
    (ofKind .reproduction report.sections)[i]?.map (·.content) := by
  rw [part, if_neg (title_ne_reproductionPath _).symm]
  refine Option.ext fun content => ?_
  rw [getPart_eq_some report.nodup_parts, mem_sectionMap, Option.map_eq_some_iff]
  constructor
  · rintro (⟨kind, -, hpath, -⟩ | ⟨j, hpath, hitem⟩)
    · exact absurd hpath.symm (kindPath_ne_reproductionPath kind _)
    · have hij : i = j := by
        have := reproductionPath_inj.1 hpath
        omega
      exact hij ▸ hitem
  · intro hitem
    exact .inr ⟨i, by rw [Nat.zero_add], hitem⟩

theorem ext_ofKind {items items' : List ReportSection} {a b : Option ReportSection}
    (ha : ∀ item ∈ a, item ∈ ofKind kind items) (hb : ∀ item ∈ b, item ∈ ofKind kind items')
    (h : a.map (·.content) = b.map (·.content)) : a = b := by
  cases a with
  | none =>
    cases b with
    | none => rfl
    | some item => cases h
  | some item =>
    cases b with
    | none => cases h
    | some item' =>
      have hkind := (mem_ofKind.1 (ha item rfl)).2.trans (mem_ofKind.1 (hb item' rfl)).2.symm
      rw [ReportSection.ext_content hkind (Option.some.inj h)]

theorem getPart_congr
    (h : ∀ kind, ofKind kind previous.sections = ofKind kind current.sections) (path : String) :
    getPart (sectionMap 0 previous.sections) path =
      getPart (sectionMap 0 current.sections) path := by
  refine Option.ext fun content => ?_
  rw [getPart_eq_some previous.nodup_parts, getPart_eq_some current.nodup_parts,
    mem_sectionMap, mem_sectionMap]
  simp only [h]

/-- The parts of two versions are the same at each path just where the titles and the sections of
each kind are. -/
theorem part_eq_iff : previous.part = current.part ↔ previous.SameParts current := by
  constructor
  · intro h
    refine ⟨?_, fun kind => ?_⟩
    · have htitle := congrFun h "title"
      rw [part_title, part_title] at htitle
      exact (Prod.mk.inj (Option.some.inj htitle)).1
    · by_cases hne : kind = .reproduction
      · subst hne
        refine List.ext_getElem? fun i => ?_
        have hpart := congrFun h (reproductionPath (i + 1))
        rw [part_reproductionPath, part_reproductionPath] at hpart
        exact ext_ofKind (fun _ => List.mem_of_getElem?) (fun _ => List.mem_of_getElem?) hpart
      · have hpart := congrFun h (kindPath kind)
        rw [part_kindPath hne, part_kindPath hne] at hpart
        have hhead := ext_ofKind (fun _ => List.mem_of_mem_head?) (fun _ => List.mem_of_mem_head?)
          hpart
        have hone (report : Report) : (ofKind kind report.sections).length = 1 := by
          rw [length_ofKind]
          exact report.section_counts.1 kind hne
        obtain ⟨item, hitem⟩ := List.length_eq_one_iff.1 (hone previous)
        obtain ⟨item', hitem'⟩ := List.length_eq_one_iff.1 (hone current)
        rw [hitem, hitem'] at hhead ⊢
        rw [Option.some.inj hhead]
  · rintro ⟨htitle, hkinds⟩
    funext path
    by_cases hpath : path = "title"
    · rw [hpath, part_title, part_title, htitle]
    · rw [part, part, if_neg hpath, if_neg hpath, getPart_congr hkinds]

end Report

/-! ## Changes -/

namespace ReportFieldChange

/-- What a change takes from its path. -/
def removed (change : ReportFieldChange) : Option (String × List Digest) :=
  change.before.map fun text => (text, change.beforeEvidenceRefs)

/-- What a change puts at its path. -/
def added (change : ReportFieldChange) : Option (String × List Digest) :=
  change.after.map fun text => (text, change.afterEvidenceRefs)

/-- A change as an update of the parts. -/
def update (change : ReportFieldChange) : String × Option (String × List Digest) :=
  (change.path, change.added)

end ReportFieldChange

variable {before after : List (String × String × List Digest)}

theorem partChange_eq_some {change : ReportFieldChange}
    (h : partChange before after path = some change) :
    change.path = path ∧ getPart before path ≠ getPart after path ∧
      change.removed = getPart before path ∧ change.added = getPart after path := by
  by_cases hsame : getPart before path = getPart after path
  · rw [partChange, if_pos hsame] at h
    cases h
  · rw [partChange, if_neg hsame] at h
    obtain rfl := Option.some.inj h
    refine ⟨rfl, hsame, ?_, ?_⟩
    · cases hbefore : getPart before path <;> simp [ReportFieldChange.removed]
    · cases hafter : getPart after path <;> simp [ReportFieldChange.added]

theorem partChange_eq_none :
    partChange before after path = none ↔ getPart before path = getPart after path := by
  rw [partChange]
  split_ifs with hsame <;> simp [hsame]

section

variable {previous current : Report}
variable {path : String}

theorem mem_paths : path ∈ orderBy id
      ((sectionMap 0 previous.sections ++ sectionMap 0 current.sections).map Prod.fst).dedup ↔
    path ∈ (sectionMap 0 previous.sections).map Prod.fst ∨
      path ∈ (sectionMap 0 current.sections).map Prod.fst := by
  rw [mem_orderBy id, List.mem_dedup, List.map_append, List.mem_append]

theorem title_notMem_keys (report : Report) :
    "title" ∉ (sectionMap 0 report.sections).map Prod.fst := by
  intro h
  rcases mem_sectionMap_keys h with ⟨kind, -, hpath, -⟩ | ⟨i, -, hpath⟩
  · exact title_ne_kindPath kind hpath
  · exact title_ne_reproductionPath _ hpath

/-- Each change is at a path where the versions differ, and says what both have there. -/
theorem reportChanges_sound {change : ReportFieldChange}
    (h : change ∈ reportChanges previous current) :
    previous.part change.path ≠ current.part change.path ∧
      change.removed = previous.part change.path ∧ change.added = current.part change.path := by
  rw [reportChanges, List.mem_append] at h
  rcases h with h | h
  · rw [titleChange] at h
    split_ifs at h with htitle
    · cases h
    · obtain rfl := List.mem_singleton.1 h
      refine ⟨?_, (Report.part_title previous).symm, (Report.part_title current).symm⟩
      rw [Report.part_title, Report.part_title]
      exact fun heq => htitle (Prod.mk.inj (Option.some.inj heq)).1
  · obtain ⟨path, hpath, hchange⟩ := List.mem_filterMap.1 h
    obtain ⟨rfl, hne, hremoved, hadded⟩ := partChange_eq_some hchange
    have htitle : change.path ≠ "title" := by
      intro heq
      rw [heq] at hpath
      exact (mem_paths.1 hpath).elim (title_notMem_keys previous) (title_notMem_keys current)
    rw [Report.part, Report.part, if_neg htitle, if_neg htitle]
    exact ⟨hne, hremoved, hadded⟩

/-- Wherever the versions differ there is a change. -/
theorem reportChanges_complete (h : previous.part path ≠ current.part path) :
    path ∈ (reportChanges previous current).map (·.path) := by
  by_cases hpath : path = "title"
  · subst hpath
    rw [Report.part_title, Report.part_title] at h
    have htitle : previous.title ≠ current.title := by
      intro heq
      rw [heq] at h
      exact h rfl
    simp [reportChanges, titleChange, htitle]
  · rw [Report.part, Report.part, if_neg hpath, if_neg hpath] at h
    obtain ⟨change, hchange⟩ := Option.ne_none_iff_exists'.1
      (mt partChange_eq_none.1 h)
    obtain ⟨hsame, -⟩ := partChange_eq_some hchange
    refine List.mem_map.2 ⟨change, List.mem_append_right _ (List.mem_filterMap.2
      ⟨path, mem_paths.2 ?_, hchange⟩), hsame⟩
    by_contra hnone
    rw [not_or] at hnone
    refine h ?_
    rw [getPart_eq_none.2 hnone.1, getPart_eq_none.2 hnone.2]

/-- There is no change just where the parts are the same. -/
theorem reportChanges_eq_nil : reportChanges previous current = [] ↔
    previous.SameParts current := by
  rw [← Report.part_eq_iff]
  constructor
  · intro h
    funext path
    by_contra hne
    have hmem := reportChanges_complete hne
    rw [h] at hmem
    cases hmem
  · intro h
    refine List.eq_nil_iff_forall_not_mem.2 fun change hchange => ?_
    exact (reportChanges_sound hchange).1 (congrFun h change.path)

/-- The changes make the parts of the current version of those of the previous one. -/
theorem patch_reportChanges : patch ((reportChanges previous current).map (·.update))
    previous.part = current.part := by
  refine patch_eq (fun update hupdate => ?_) fun path hpath => ?_
  · obtain ⟨change, hchange, rfl⟩ := List.mem_map.1 hupdate
    exact (reportChanges_sound hchange).2.2
  · rw [List.map_map]
    exact reportChanges_complete hpath

/-- Another order of the kinds changes no part. -/
theorem reportChanges_of_ofKind
    (h : ∀ kind, ofKind kind previous.sections = ofKind kind current.sections) :
    reportChanges previous current = titleChange previous current := by
  have hnone : ∀ paths : List String, paths.filterMap (partChange
      (sectionMap 0 previous.sections) (sectionMap 0 current.sections)) = [] := fun paths =>
    List.filterMap_eq_nil_iff.2 fun path _ => partChange_eq_none.2 (Report.getPart_congr h path)
  rw [reportChanges, hnone, List.append_nil]

/-- A changed title fits a change up to the length of a section. -/
def TitleFits (previous current : Report) : Prop :=
  previous.title = current.title ∨ previous.title.length ≤ 8192 ∧ current.title.length ≤ 8192

theorem getPart_length {report : Report} {content : String × List Digest}
    (h : getPart (sectionMap 0 report.sections) path = some content) : content.1.length ≤ 8192 := by
  rw [getPart_eq_some report.nodup_parts, mem_sectionMap] at h
  rcases h with ⟨-, -, -, item, -, rfl⟩ | ⟨-, -, item, -, rfl⟩ <;> exact item.text_bounds.2

theorem reportChanges_fit : (∀ change ∈ reportChanges previous current, change.fits) ↔
    TitleFits previous current := by
  constructor
  · intro h
    rw [TitleFits, or_iff_not_imp_left]
    intro htitle
    have hfits := h _ (List.mem_append_left _ (by
      rw [titleChange, if_neg htitle]
      exact List.mem_singleton_self _))
    exact ⟨hfits.1 _ rfl, hfits.2 _ rfl⟩
  · intro htitle change hchange
    rw [reportChanges, List.mem_append] at hchange
    rcases hchange with hchange | hchange
    · rw [titleChange] at hchange
      split_ifs at hchange with heq
      · cases hchange
      · obtain rfl := List.mem_singleton.1 hchange
        obtain ⟨hprevious, hcurrent⟩ := htitle.resolve_left heq
        exact ⟨fun _ htext => Option.some.inj htext ▸ hprevious,
          fun _ htext => Option.some.inj htext ▸ hcurrent⟩
    · obtain ⟨path, -, hpart⟩ := List.mem_filterMap.1 hchange
      obtain ⟨-, -, hremoved, hadded⟩ := partChange_eq_some hpart
      refine ⟨fun text htext => ?_, fun text htext => ?_⟩
      · rw [ReportFieldChange.removed, Option.mem_def.1 htext] at hremoved
        exact getPart_length hremoved.symm
      · rw [ReportFieldChange.added, Option.mem_def.1 htext] at hadded
        exact getPart_length hadded.symm

/-- The paths that a report of at most 32 sections has. -/
def reportPaths : List String :=
  [.summary, .codeLocation, .requestResponse, .impact, .remediation].map kindPath ++
    (List.range 32).map fun i => reproductionPath (i + 1)

theorem keys_subset (report : Report) :
    (sectionMap 0 report.sections).map Prod.fst ⊆ reportPaths := by
  intro path hpath
  rcases mem_sectionMap_keys hpath with ⟨kind, hne, rfl, -⟩ | ⟨i, hi, rfl⟩
  · refine List.mem_append_left _ (List.mem_map_of_mem ?_)
    cases kind <;> first | exact absurd rfl hne | simp
  · have hlength : countKind report.sections .reproduction ≤ 32 :=
      List.countP_le_length.trans report.section_counts.2.2
    refine List.mem_append_right _ (List.mem_map.2 ⟨i, List.mem_range.2 (hi.trans_le hlength), ?_⟩)
    rw [Nat.zero_add]

theorem length_reportChanges : (reportChanges previous current).length ≤ 64 := by
  have htitle : (titleChange previous current).length ≤ 1 := by
    rw [titleChange]
    split_ifs <;> simp
  have hpaths : (orderBy id ((sectionMap 0 previous.sections ++
      sectionMap 0 current.sections).map Prod.fst).dedup).length ≤ 37 := by
    have hnodup := (perm_orderBy id _).nodup_iff.2 (List.nodup_dedup
      ((sectionMap 0 previous.sections ++ sectionMap 0 current.sections).map Prod.fst))
    refine (hnodup.subperm fun path hpath => ?_).length_le.trans
      (by decide : reportPaths.length ≤ 37)
    exact (mem_paths.1 hpath).elim (fun h => keys_subset previous h) fun h => keys_subset current h
  rw [reportChanges, List.length_append]
  have hparts := List.length_filterMap_le (partChange (sectionMap 0 previous.sections)
    (sectionMap 0 current.sections)) (orderBy id ((sectionMap 0 previous.sections ++
      sectionMap 0 current.sections).map Prod.fst).dedup)
  omega

end

/-! ## The difference -/

section

variable [IngestionDigests] [PythonAlnum] [CanonicalDigest Report] {previous current : Report}

/-- The texts of two versions that a difference wants redacted. -/
def Redacted (previous current : Report) : Prop :=
  ∀ value ∈ [previous.title, current.title] ++
    (previous.sections ++ current.sections).map (·.text), isRedacted value

theorem diffReports_eq_ok {diff : ReportDiff} (h : diffReports previous current = .ok diff) :
    diff.changes = reportChanges previous current := by
  simp only [diffReports, bind_eq_ok, pure_eq_ok] at h
  obtain ⟨-, -, -, -, -, -, -, -, -, -, rfl⟩ := h
  rfl

theorem exists_diff_iff (h : previous.Precedes current) :
    (∃ diff, diffReports previous current = .ok diff) ↔ Redacted previous current ∧
      TitleFits previous current ∧ ¬previous.SameParts current := by
  have hlength : ¬64 < (reportChanges previous current).length :=
    Nat.not_lt.2 length_reportChanges
  rw [← reportChanges_fit, ← reportChanges_eq_nil, Redacted]
  simp only [diffReports, bind_eq_ok, pure_eq_ok, raiseIf_eq_ok, exists_const, h, not_true,
    not_false_iff, true_and, hlength, not_exists, not_and, not_not]
  constructor
  · rintro ⟨diff, hredacted, hfits, hne, -⟩
    exact ⟨hredacted, hfits, hne⟩
  · rintro ⟨hredacted, hfits, hne⟩
    exact ⟨_, hredacted, hfits, hne, rfl⟩

/-- The difference of two consecutive versions patches the parts of the first to those of the
second, each change is at a path where they differ, and there is no difference just where no part
differs, a text is not redacted or a changed title does not fit. -/
theorem diff_patches_iff (h : previous.Precedes current) :
    (∀ diff, diffReports previous current = .ok diff →
      patch (diff.changes.map (·.update)) previous.part = current.part ∧
        ∀ change ∈ diff.changes, previous.part change.path ≠ current.part change.path ∧
          change.removed = previous.part change.path ∧
          change.added = current.part change.path) ∧
    ((∃ error, diffReports previous current = .error error) ↔
      previous.SameParts current ∨ ¬Redacted previous current ∨ ¬TitleFits previous current) := by
  constructor
  · intro diff hdiff
    rw [diffReports_eq_ok hdiff]
    exact ⟨patch_reportChanges, fun change hchange => reportChanges_sound hchange⟩
  · have hok := exists_diff_iff h
    cases hresult : diffReports previous current with
    | error error =>
      rw [hresult] at hok
      simp only [reduceCtorEq, exists_false, false_iff] at hok
      simp only [Except.error.injEq, exists_eq', true_iff]
      by_contra hnone
      rw [not_or, not_or, not_not, not_not] at hnone
      exact hok ⟨hnone.2.1, hnone.2.2, hnone.1⟩
    | ok diff =>
      rw [hresult] at hok
      simp only [Except.ok.injEq, exists_eq', true_iff] at hok
      simp only [reduceCtorEq, exists_false, false_iff, not_or, not_not]
      exact ⟨hok.2.2, hok.1, hok.2.1⟩

end

/-! ## Two orders of one revision -/

section

attribute [local instance] asciiAlnum textReportDigest constantDigests

/-- The next version of the sample report, with its sections in an order. -/
def sampleRevision (title : String) (htitle : title ≠ "") (sections : List ReportSection)
    (hsections : sections.Perm (sampleReport .draft).sections) : Report :=
  { sampleReport .draft with
    version := 2
    title := title
    sections := sections
    nonempty := ⟨by decide, htitle⟩
    versions := by decide
    section_counts := by
      obtain ⟨hkinds, hsteps, hlength⟩ := (sampleReport .draft).section_counts
      refine ⟨fun kind hne => ?_, ?_, ?_⟩
      · exact (hsections.countP_eq _).trans (hkinds kind hne)
      · exact hsteps.trans_eq (hsections.countP_eq _).symm
      · exact hsections.length_eq.trans_le hlength }

variable {sections : List ReportSection}

theorem precedes_sampleRevision {title : String} {htitle : title ≠ ""}
    {hsections : sections.Perm (sampleReport .draft).sections} :
    (sampleReport .draft).Precedes (sampleRevision title htitle sections hsections) :=
  ⟨rfl, rfl, rfl, rfl, rfl, rfl, rfl, rfl, rfl, rfl⟩

/-- A new title. -/
def retitled : Report :=
  sampleRevision "u" (by decide) _ (List.Perm.refl _)

/-- The new title, and the sections the other way round. -/
def reordered : Report :=
  sampleRevision "u" (by decide) (sampleReport .draft).sections.reverse (List.reverse_perm _)

/-- A title with a credential. -/
def unredacted : Report :=
  sampleRevision "sk-aaaaaaaaaaaa" (by decide) _ (List.Perm.refl _)

/-- The difference of the sample and its next version. -/
theorem retitled_patches :
    (∀ diff, diffReports (sampleReport .draft) retitled = .ok diff →
      patch (diff.changes.map (·.update)) (sampleReport .draft).part = retitled.part ∧
        ∀ change ∈ diff.changes,
          (sampleReport .draft).part change.path ≠ retitled.part change.path ∧
          change.removed = (sampleReport .draft).part change.path ∧
          change.added = retitled.part change.path) ∧
    ((∃ error, diffReports (sampleReport .draft) retitled = .error error) ↔
      (sampleReport .draft).SameParts retitled ∨ ¬Redacted (sampleReport .draft) retitled ∨
        ¬TitleFits (sampleReport .draft) retitled) :=
  diff_patches_iff precedes_sampleRevision

theorem redacted_sampleRevision (hsections : sections.Perm (sampleReport .draft).sections) :
    Redacted (sampleReport .draft) (sampleRevision "u" (by decide) sections hsections) := by
  have hplain : ∀ value ∈ ["t", "u"], isRedacted value := by
    intro value hvalue
    refine text_of_plain fun c hc => ?_
    simp only [List.mem_cons, List.not_mem_nil, or_false] at hvalue
    rcases hvalue with rfl | rfl <;> revert c <;> decide
  have htexts : ∀ item ∈ (sampleReport .draft).sections, item.text = "t" := by
    simp [sampleReport, sampleSection]
  intro value hvalue
  rcases List.mem_append.1 hvalue with hvalue | hvalue
  · exact hplain value hvalue
  · obtain ⟨item, hitem, rfl⟩ := List.mem_map.1 hvalue
    have hsample := (List.mem_append.1 hitem).elim id fun h => hsections.subset h
    exact hplain item.text (by rw [htexts item hsample]; decide)

theorem not_sameParts_sampleRevision {title : String} {htitle : title ≠ ""}
    {hsections : sections.Perm (sampleReport .draft).sections} (h : "t" ≠ title) :
    ¬(sampleReport .draft).SameParts (sampleRevision title htitle sections hsections) :=
  fun hsame => h hsame.1

/-- Two next versions with other orders of their sections have the same changes, and a version
with a credential in its new title has no difference. -/
theorem reordered_alike_unredacted_refused :
    (∃ diff diff', diffReports (sampleReport .draft) retitled = .ok diff ∧
      diffReports (sampleReport .draft) reordered = .ok diff' ∧ diff.changes = diff'.changes ∧
        retitled.sections ≠ reordered.sections) ∧
    (sampleReport .draft).Precedes unredacted ∧
    ¬(sampleReport .draft).SameParts unredacted ∧
    ∃ error, diffReports (sampleReport .draft) unredacted = .error error := by
  refine ⟨?_, precedes_sampleRevision, not_sameParts_sampleRevision (by decide), ?_⟩
  · obtain ⟨diff, hdiff⟩ := (exists_diff_iff precedes_sampleRevision).2
      ⟨redacted_sampleRevision (List.Perm.refl _), .inr (by decide),
        not_sameParts_sampleRevision (by decide)⟩
    obtain ⟨diff', hdiff'⟩ := (exists_diff_iff precedes_sampleRevision).2
      ⟨redacted_sampleRevision (List.reverse_perm _), .inr (by decide),
        not_sameParts_sampleRevision (by decide)⟩
    refine ⟨diff, diff', hdiff, hdiff', ?_, by decide⟩
    have hkinds (kind : ReportSectionKind) :
        ofKind kind (sampleReport .draft).sections = ofKind kind reordered.sections := by
      cases kind <;> rfl
    calc diff.changes = titleChange (sampleReport .draft) retitled :=
          (diffReports_eq_ok hdiff).trans (reportChanges_of_ofKind fun _ => rfl)
      _ = diff'.changes :=
          ((diffReports_eq_ok hdiff').trans (reportChanges_of_ofKind hkinds)).symm
  · cases hresult : diffReports (sampleReport .draft) unredacted with
    | error error => exact ⟨error, rfl⟩
    | ok diff =>
      obtain ⟨hredacted, -⟩ := (exists_diff_iff precedes_sampleRevision).1 ⟨diff, hresult⟩
      have htitle : Redactor.default.redact "sk-aaaaaaaaaaaa".toList =
          "sk-aaaaaaaaaaaa".toList := by
        rw [← String.toList_ofList (l := Redactor.default.redact _)]
        exact congrArg String.toList (hredacted _ (List.mem_cons_of_mem _ List.mem_cons_self))
      exact absurd htitle (by decide +kernel)

end

end VulnLoom

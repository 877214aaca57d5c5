import Mathlib.Data.List.Forall2

/-!
# Path templates

A template is a text of parts : characters that stand for themselves, and parameters, which are
written as names in braces. A text fills a template when it has a value for each parameter, of
characters that are neither a slash nor a brace. The segments of a template are its parts between
slashes, and a text fills it when its segments, one by one, fill those of the template
(`fills_iff`).
-/

set_option linter.unusedSectionVars false

namespace PathTemplates

/-! ## Segments of a list -/

section

variable {α : Type*} [BEq α] [LawfulBEq α] {a : α}

theorem notMem_of_mem_splitOn : ∀ {xs : List α}, ∀ piece ∈ xs.splitOn a, a ∉ piece
  | [], piece, h => by
    rw [List.splitOn_nil, List.mem_singleton] at h
    rw [h]
    exact List.not_mem_nil
  | x :: xs, piece, h => by
    have ih : ∀ piece ∈ xs.splitOn a, a ∉ piece := notMem_of_mem_splitOn
    rw [List.splitOn_cons_eq_if_modifyHead] at h
    split_ifs at h with hx
    · rcases List.mem_cons.1 h with rfl | h
      · exact List.not_mem_nil
      · exact ih piece h
    · obtain ⟨first, rest, hsplit⟩ := List.exists_cons_of_ne_nil (List.splitOn_ne_nil a xs)
      rw [hsplit] at h ih
      rw [List.modifyHead_cons, List.mem_cons] at h
      rcases h with rfl | h
      · rw [List.mem_cons, not_or]
        exact ⟨fun heq => hx (beq_iff_eq.2 heq.symm), ih first List.mem_cons_self⟩
      · exact ih piece (List.mem_cons_of_mem _ h)

theorem mem_of_mem_splitOn {x : α} : ∀ {xs piece : List α}, piece ∈ xs.splitOn a → x ∈ piece →
    x ∈ xs
  | [], piece, h, hx => by
    rw [List.splitOn_nil, List.mem_singleton] at h
    rwa [h] at hx
  | y :: xs, piece, h, hx => by
    have ih : ∀ piece ∈ xs.splitOn a, x ∈ piece → x ∈ xs := fun _ => mem_of_mem_splitOn
    obtain ⟨first, rest, hsplit⟩ := List.exists_cons_of_ne_nil (List.splitOn_ne_nil a xs)
    rw [List.splitOn_cons_eq_if_modifyHead, hsplit] at h
    rw [hsplit] at ih
    rw [List.mem_cons]
    split_ifs at h
    · rcases List.mem_cons.1 h with rfl | h
      · cases hx
      · exact .inr (ih piece h hx)
    · rw [List.modifyHead_cons, List.mem_cons] at h
      rcases h with rfl | h
      · exact (List.mem_cons.1 hx).imp_right (ih first List.mem_cons_self)
      · exact .inr (ih piece (List.mem_cons_of_mem _ h) hx)

theorem splitOn_append_of_notMem : ∀ {front : List α} (back : List α), a ∉ front →
    (front ++ back).splitOn a = (back.splitOn a).modifyHead (front ++ ·)
  | [], back, _ => by
    obtain ⟨first, rest, hsplit⟩ := List.exists_cons_of_ne_nil (List.splitOn_ne_nil a back)
    rw [List.nil_append, hsplit]
    rfl
  | x :: front, back, h => by
    obtain ⟨hx, hfront⟩ := not_or.1 (mt List.mem_cons.2 h)
    rw [List.cons_append, List.splitOn_cons_eq_if_modifyHead,
      if_neg fun heq => hx (beq_iff_eq.1 heq).symm, splitOn_append_of_notMem back hfront,
      List.modifyHead_modifyHead]
    rfl

/-- What each element is written as, with a separator for the separator alone. -/
theorem flatMap_intercalate {β : Type*} {b : β} {f : α → List β} (hf : f a = [b]) :
    ∀ pieces : List (List α), ([a].intercalate pieces).flatMap f =
      [b].intercalate (pieces.map (List.flatMap f))
  | [] => rfl
  | [piece] => by simp
  | piece :: piece' :: pieces => by
    have ih := flatMap_intercalate hf (piece' :: pieces)
    rw [List.map_cons] at ih
    rw [List.intercalate_cons_cons, List.flatMap_append, List.flatMap_append, ih, List.map_cons,
      List.map_cons, List.intercalate_cons_cons, List.flatMap_singleton, hf]

/-- The pieces of what is written are the pieces written. -/
theorem splitOn_flatMap {β : Type*} [BEq β] [LawfulBEq β] {b : β} {f : α → List β} {xs : List α}
    (hf : f a = [b]) (h : ∀ x ∈ xs, x ≠ a → b ∉ f x) :
    (xs.flatMap f).splitOn b = (xs.splitOn a).map (List.flatMap f) := by
  have hxs : [a].intercalate (xs.splitOn a) = xs := List.intercalate_splitOn a
  have hpieces : ∀ piece ∈ (xs.splitOn a).map (List.flatMap f), b ∉ piece := by
    intro text htext
    obtain ⟨piece, hpiece, rfl⟩ := List.mem_map.1 htext
    intro hb
    obtain ⟨x, hx, hb⟩ := List.mem_flatMap.1 hb
    exact h x (mem_of_mem_splitOn hpiece hx)
      (fun heq => notMem_of_mem_splitOn piece hpiece (heq ▸ hx)) hb
  conv_lhs => rw [← hxs, flatMap_intercalate hf]
  exact List.splitOn_intercalate b hpieces (by simp)

end

/-! ## Templates -/

/-- A part of a template. -/
inductive Part
  | literal (c : Char)
  | parameter (name : List Char)
  deriving DecidableEq

def Part.render : Part → List Char
  | .literal c => [c]
  | .parameter name => '{' :: (name ++ ['}'])

/-- The text of a template. -/
def render (parts : List Part) : List Char :=
  parts.flatMap Part.render

/-- A text has a value for each parameter of a template. -/
inductive Fills : List Part → List Char → Prop
  | nil : Fills [] []
  | literal {c parts text} : Fills parts text → Fills (.literal c :: parts) (c :: text)
  | parameter {name parts value text} : value ≠ [] → (∀ c ∈ value, c ∉ ['/', '{', '}']) →
      Fills parts text → Fills (.parameter name :: parts) (value ++ text)

def segments (parts : List Part) : List (List Part) :=
  parts.splitOn (.literal '/')

namespace Fills

variable {parts parts' : List Part} {text text' : List Char}

theorem append (h : Fills parts text) (h' : Fills parts' text') :
    Fills (parts ++ parts') (text ++ text') := by
  induction h with
  | nil => exact h'
  | literal _ ih => exact .literal ih
  | parameter hne hvalue _ ih =>
    rw [List.cons_append, List.append_assoc]
    exact .parameter hne hvalue ih

theorem literals : ∀ s : List Char, Fills (s.map .literal) s
  | [] => .nil
  | _ :: s => .literal (literals s)

/-- Without braces in the template outside of its parameters, there are none in the text. -/
theorem braces (h : Fills parts text) (hparts : ∀ c, .literal c ∈ parts → c ∉ ['{', '}']) :
    ∀ c ∈ text, c ∉ ['{', '}'] := by
  induction h with
  | nil => simp
  | literal _ ih =>
    intro c hc
    rcases List.mem_cons.1 hc with rfl | hc
    · exact hparts _ List.mem_cons_self
    · exact ih (fun d hd => hparts d (List.mem_cons_of_mem _ hd)) c hc
  | parameter _ hvalue _ ih =>
    intro c hc
    rcases List.mem_append.1 hc with hc | hc
    · exact fun hbrace => hvalue c hc (List.mem_cons_of_mem _ hbrace)
    · exact ih (fun d hd => hparts d (List.mem_cons_of_mem _ hd)) c hc

variable {pieces : List (List Char)}

/-- A segment that fills the first one stays with the rest. -/
theorem modifyHead {segments : List (List Part)} (h : Fills parts text)
    (hsegments : List.Forall₂ Fills segments pieces) :
    List.Forall₂ Fills (segments.modifyHead (parts ++ ·)) (pieces.modifyHead (text ++ ·)) := by
  cases hsegments with
  | nil => exact .nil
  | cons hfirst hrest => exact .cons (h.append hfirst) hrest

theorem segments (h : Fills parts text) :
    List.Forall₂ Fills (segments parts) (text.splitOn '/') := by
  unfold PathTemplates.segments
  induction h with
  | nil => exact .cons .nil .nil
  | @literal c parts text _ ih =>
    rw [List.splitOn_cons_eq_if_modifyHead, List.splitOn_cons_eq_if_modifyHead]
    by_cases hslash : c = '/'
    · rw [if_pos (by simpa using hslash), if_pos (by simpa using hslash)]
      exact .cons .nil ih
    · rw [if_neg (by simpa using hslash), if_neg (by simpa using hslash)]
      exact modifyHead (literals [c]) ih
  | @parameter name parts value text hne hvalue _ ih =>
    have hslash : '/' ∉ value := fun hmem => hvalue _ hmem List.mem_cons_self
    rw [splitOn_append_of_notMem _ hslash, List.splitOn_cons_eq_if_modifyHead, if_neg (by simp)]
    have hfirst : Fills [.parameter name] (value ++ []) := .parameter hne hvalue .nil
    rw [List.append_nil] at hfirst
    exact modifyHead hfirst ih

theorem intercalate {segments : List (List Part)} (h : List.Forall₂ Fills segments pieces) :
    Fills ([.literal '/'].intercalate segments) (['/'].intercalate pieces) := by
  induction h with
  | nil => exact .nil
  | cons hfirst hrest ih =>
    cases hrest with
    | nil => simpa using hfirst
    | cons hsecond hrest =>
      rw [List.intercalate_cons_cons, List.intercalate_cons_cons]
      exact (hfirst.append (literals ['/'])).append ih

end Fills

variable {parts : List Part} {text : List Char}

/-- A text fills a template when its segments fill those of the template. -/
theorem fills_iff : Fills parts text ↔ List.Forall₂ Fills (segments parts) (text.splitOn '/') := by
  constructor
  · exact Fills.segments
  · intro h
    have hfills := Fills.intercalate h
    rwa [segments, List.intercalate_splitOn, List.intercalate_splitOn] at hfills

/-- The segments of the text of a template. -/
theorem splitOn_render (h : ∀ name, .parameter name ∈ parts → '/' ∉ name) :
    (render parts).splitOn '/' = (segments parts).map render := by
  refine splitOn_flatMap rfl fun part hpart hne => ?_
  cases part with
  | literal c =>
    intro hmem
    exact hne (congrArg _ (List.mem_singleton.1 hmem).symm)
  | parameter name =>
    have := h name hpart
    simp [Part.render, this]

/-- What fills one parameter. -/
theorem fills_parameter {name : List Char} :
    Fills [.parameter name] text ↔ text ≠ [] ∧ ∀ c ∈ text, c ∉ ['/', '{', '}'] := by
  constructor
  · intro h
    cases h with
    | parameter hne hvalue hrest =>
      cases hrest
      rw [List.append_nil]
      exact ⟨hne, hvalue⟩
  · rintro ⟨hne, hvalue⟩
    rw [← List.append_nil text]
    exact .parameter hne hvalue .nil

/-- Parts without an opening brace are filled by their own text. -/
theorem fills_of_plain : ∀ {parts : List Part} {text : List Char}, '{' ∉ render parts →
    (Fills parts text ↔ text = render parts)
  | [], text, _ => by
    constructor
    · intro h
      cases h
      rfl
    · rintro rfl
      exact .nil
  | .literal c :: parts, text, h => by
    have hrest : '{' ∉ render parts := fun hmem => h (List.mem_cons_of_mem c hmem)
    constructor
    · intro hfills
      cases hfills with
      | literal hfills => exact congrArg (c :: ·) ((fills_of_plain hrest).1 hfills)
    · rintro rfl
      exact .literal ((fills_of_plain hrest).2 rfl)
  | .parameter name :: parts, text, h => absurd List.mem_cons_self h

/-- The text of one parameter is the text of no other parts. -/
theorem eq_of_render_parameter {name : List Char} (hclose : '}' ∉ name)
    (hopen : .literal '{' ∉ parts) (h : render parts = (Part.parameter name).render) :
    parts = [.parameter name] := by
  cases parts with
  | nil => cases h
  | cons part rest =>
    cases part with
    | literal c =>
      obtain ⟨rfl, -⟩ := List.cons.inj h
      exact absurd List.mem_cons_self hopen
    | parameter name' =>
      have htail : name ++ '}' :: [] = name' ++ '}' :: render rest := by
        have hcons : (name' ++ ['}']) ++ render rest = name ++ ['}'] := (List.cons.inj h).2
        rw [List.append_assoc] at hcons
        exact hcons.symm
      obtain ⟨rfl, -, hrest⟩ :=
        (List.append_cons_inj_of_notMem hclose List.not_mem_nil).1 htail
      cases rest with
      | nil => rfl
      | cons part rest => cases part <;> cases hrest

/-! ## The shortest text -/

/-- The least that fills a part. -/
def Part.sample : Part → Char
  | .literal c => c
  | .parameter _ => 'a'

theorem fills_sample : ∀ parts : List Part, Fills parts (parts.map Part.sample)
  | [] => .nil
  | .literal _ :: parts => .literal (fills_sample parts)
  | .parameter _ :: parts =>
    Fills.parameter (List.cons_ne_nil 'a' []) (by simp) (fills_sample parts)

theorem length_sample_le : ∀ parts : List Part,
    (parts.map Part.sample).length ≤ (render parts).length
  | [] => Nat.le_refl 0
  | part :: parts => by
    have ih := length_sample_le parts
    have hpart : 1 ≤ part.render.length := by cases part <;> simp [Part.render]
    simp only [render, List.flatMap_cons, List.map_cons, List.length_cons,
      List.length_append] at ih ⊢
    omega

theorem eq_literal_of_sample {part : Part} {c : Char} (h : part.sample = c) (hc : c ≠ 'a') :
    part = .literal c := by
  cases part with
  | literal d => exact congrArg _ h
  | parameter name => exact absurd h.symm hc

/-- Where the text has no value, it is the text of the template. -/
theorem render_eq_sample : ∀ {parts : List Part}, 'a' ∉ parts.map Part.sample →
    render parts = parts.map Part.sample
  | [], _ => rfl
  | part :: parts, h => by
    rw [List.map_cons, List.mem_cons, not_or] at h
    obtain ⟨c, rfl⟩ : ∃ c, part = .literal c := ⟨_, eq_literal_of_sample rfl (Ne.symm h.1)⟩
    exact congrArg (c :: ·) (render_eq_sample h.2)

theorem infix_render_of_sample {s : List Char} (hs : 'a' ∉ s) (h : s <:+: parts.map Part.sample) :
    s <:+: render parts := by
  obtain ⟨front, back, hmap⟩ := h
  obtain ⟨rest, back', rfl, hrest, -⟩ := List.map_eq_append_iff.1 hmap.symm
  obtain ⟨front', piece, rfl, -, rfl⟩ := List.map_eq_append_iff.1 hrest
  refine ⟨render front', render back', ?_⟩
  rw [← render_eq_sample hs]
  simp [render]

theorem splitOn_sample (parts : List Part) : (parts.map Part.sample).splitOn '/' =
    (segments parts).map (List.map Part.sample) := by
  have hflat : ∀ parts : List Part,
      parts.map Part.sample = parts.flatMap fun part => [part.sample] :=
    fun parts => List.map_eq_flatMap
  have hsplit : (parts.flatMap fun part => [part.sample]).splitOn '/' =
      (segments parts).map (List.flatMap fun part => [part.sample]) := by
    refine splitOn_flatMap rfl fun part _ hne hmem => ?_
    exact hne (eq_literal_of_sample (List.mem_singleton.1 hmem).symm (by decide))
  rw [hflat, hsplit]
  exact List.map_congr_left fun segment _ => (hflat segment).symm

end PathTemplates

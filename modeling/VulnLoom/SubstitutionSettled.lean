import VulnLoom.SubstitutionTrace

/-!
# Passes that settle a text

A pass of a sequence settles a text if it leaves a property behind under which it changes nothing
(`Settling`). The sequence is idempotent if each later pass keeps that property
(`Settling.foldl_foldl`). Two kinds of substitutions settle : one that keeps a group and masks the
run of a class after it (`Masking`), and one that drops a text between edges (`Dropping`).
-/

namespace Substitution

variable {α : Type*} {isWord : α → Bool} {m : Marker α} {sub later : Substitution isWord}

open Regex Edit

/-! ## Substitutions that mark -/

/-- A substitution that puts a marker after the group of each match. A match begins with a text
that lies in no marker. -/
structure Marks (m : Marker α) (sub : Substitution isWord) : Prop where
  replace_eq : ∀ g b, sub.replace g b = g ++ m.text
  clean : ∀ {prev g b next}, sub.Reads prev g b next → ∀ a ∈ g, a ≠ m.opening
  lead : ∀ {prev g b next}, sub.Reads prev g b next →
    ∃ l l', g ++ b = l ++ l' ∧ m.Outside l

/-- No match starts in a marker. -/
theorem Marks.keep_inside (h : sub.Marks m) : ∀ {c z u : List α} {F : List (Edit α)}
    {prev : Option α}, m.text = u ++ c → sub.Trace prev F → source F = c ++ z →
      ∃ F', F = c.map .keep ++ F' ∧ source F' = z ∧ sub.Trace (c.getLast?.or prev) F'
  | [], z, u, F, prev, _, htrace, hsource => ⟨F, rfl, hsource, htrace⟩
  | a :: c, z, u, F, prev, hmarker, htrace, hsource => by
    cases htrace with
    | nil => cases hsource
    | keep hmatch hrest =>
      rw [source_keep, List.cons_append, List.cons.injEq] at hsource
      obtain ⟨rfl, hsource⟩ := hsource
      obtain ⟨F', rfl, hF', htrace'⟩ := h.keep_inside (u := u ++ [_])
        (by rw [hmarker, List.append_assoc, List.singleton_append]) hrest hsource
      refine ⟨F', rfl, hF', ?_⟩
      rw [List.getLast?_cons]
      cases hc : c.getLast? <;> simpa [hc] using htrace'
    | @cut _ g b edits htakes hrest =>
      obtain ⟨l, l', hl, houtside⟩ := h.lead htakes.reads
      rw [source_append, source_map_keep, source_cut, ← List.append_assoc, hl,
        List.append_assoc] at hsource
      exact absurd hsource (houtside.clear.not_inside hmarker (List.cons_ne_nil a c))

variable {E F : List (Edit α)}

/-- A marker whose first letter is kept is kept. -/
theorem Marks.keep_marker (h : sub.Marks m) {a : α} {z : List α}
    (htrace : sub.Trace none (E ++ .keep a :: F)) (hsource : a :: source F = m.text ++ z) :
    ∃ F' prev, .keep a :: F = m.text.map .keep ++ F' ∧ source F' = z ∧ sub.Trace prev F' := by
  rcases htrace.of_append with hleft | ⟨E', x, y, b, F', -, hF, -, htakes, -⟩
  · obtain ⟨F', hF, hF', htrace'⟩ := h.keep_inside (u := []) rfl hleft hsource
    exact ⟨F', _, hF, hF', htrace'⟩
  · -- the first letter is in no group
    rw [Marker.text, List.cons_append, List.cons.injEq] at hsource
    cases y with
    | nil => cases hF
    | cons c y =>
      rw [List.map_cons, List.cons_append, List.cons.injEq, Edit.keep.injEq] at hF
      exact absurd (hF.1.symm.trans hsource.1) (h.clean htakes.reads c (by simp))

/-! ## Masking a run of a class -/

/-- A substitution that keeps a group and masks the run of a class that follows it. -/
structure Masking (m : Marker α) (p : α → Bool) (sub : Substitution isWord) : Prop where
  replace_eq : ∀ g b, sub.replace g b = g ++ m.text
  body_eq : sub.body = .many p 1 true
  plain : sub.group.plain = true
  outside : ∀ {g}, sub.group.Reads isWord none g none → m.Outside g
  marker : ∀ a ∈ m.text, p a = true
  nested : ∀ {x g y}, sub.group.Reads isWord none g none →
    sub.group.Reads isWord none (x ++ (g ++ y)) none → y.head?.any p = false

/-- After each text of the group stands a marker, or nothing to mask. -/
def Masked (m : Marker α) (p : α → Bool) (sub : Substitution isWord) (s : List α) : Prop :=
  ∀ u g r, s = u ++ (g ++ r) → sub.group.Reads isWord none g none →
    r.takeWhile p = [] ∨ r.takeWhile p = m.text

variable {p : α → Bool} {s : List α}

theorem takeWhile_eq_nil (h : s.head?.any p = false) : s.takeWhile p = [] := by
  cases s with
  | nil => rfl
  | cons a s => exact List.takeWhile_cons_of_neg (by simpa using h)

theorem head?_dropWhile {p : α → Bool} : ∀ {s : List α}, (s.dropWhile p).head?.any p = false
  | [] => rfl
  | a :: s => by
    rw [List.dropWhile_cons]
    split_ifs with ha
    · exact head?_dropWhile
    · simpa using ha

theorem takeWhile_marker {r : List α} (hm : ∀ a ∈ m.text, p a = true) (hr : r.head?.any p = false) :
    (m.text ++ r).takeWhile p = m.text := by
  rw [List.takeWhile_append_of_pos hm, takeWhile_eq_nil hr, List.append_nil]

namespace Masking

variable {p : α → Bool} (h : sub.Masking m p)
include h

variable {g : List α}

theorem reads_group {prev next : Option α} {b : List α} (hreads : sub.Reads prev g b next) :
    sub.group.Reads isWord none g none :=
  (reads_plain h.plain).1 hreads.1

theorem marks : sub.Marks m where
  replace_eq := h.replace_eq
  clean hreads a ha := ((h.outside (h.reads_group hreads)).plain a ha).1
  lead hreads := ⟨_, _, rfl, h.outside (h.reads_group hreads)⟩

theorem group_ne_nil {prev next : Option α} {b : List α} (hreads : sub.Reads prev g b next) :
    g ≠ [] :=
  (h.outside (h.reads_group hreads)).ne_nil

/-- After a text of the group that is kept, a letter of the class is cut. -/
theorem head_of_keep {a : α} (htrace : sub.Trace none (E ++ (g.map .keep ++ .keep a :: F)))
    (hg : sub.group.Reads isWord none g none) : p a = false := by
  -- a match that reaches the letter keeps it in its group
  have hgroup : ∀ {prev b F'} {x y : List α}, sub.Takes prev (x ++ y) b (source F') →
      g.map .keep ++ .keep a :: F = y.map .keep ++ .cut b :: F' → p a = false := by
    intro prev b F' x y htakes hy
    obtain ⟨y', rfl, -⟩ := keep_before_cut hy
    exact h.nested hg (h.reads_group htakes.reads)
  rcases htrace.of_append with hleft | ⟨E', x, y, b, F', -, hF, -, htakes, -⟩
  · cases hg' : g with
    | nil => exact absurd hg' (h.outside hg).ne_nil
    | cons c g' =>
      subst hg'
      -- the group and the letter after it would be read
      by_contra ha
      rw [Bool.not_eq_false] at ha
      obtain ⟨g'', b, F', -, hF, htakes⟩ := hleft.of_reads (g := c :: g') (b := [a])
        (r := source F) (by simp) ⟨(reads_plain h.plain).1 hg, by
          rw [h.body_eq]
          exact ⟨by simpa using ha, Nat.le_refl _⟩⟩
      rw [hgroup (x := []) htakes hF] at ha
      cases ha
  · exact hgroup htakes hF

/-- What the pass leaves is masked. -/
theorem masked_apply (s : List α) : Masked m p sub (sub.apply s) := by
  obtain ⟨edits, htrace, -, hresult⟩ := exists_trace_apply h.replace_eq s
  intro u g r heq hg
  rw [← hresult] at heq
  obtain ⟨E, F, rfl, rfl, rfl⟩ := (h.outside hg).clear.exists_keep heq
  cases F with
  | nil => exact .inl rfl
  | cons e F =>
    cases e with
    | keep a => exact .inl (takeWhile_eq_nil (by simpa using h.head_of_keep htrace hg))
    | cut b =>
      right
      rw [← List.append_assoc] at htrace
      obtain ⟨E', g', -, htakes, hrest⟩ := htrace.of_cut
      have hhead := htakes.maximal h.body_eq
      refine takeWhile_marker h.marker ?_
      -- no match starts right after a body that was cut
      cases hrest with
      | nil => rfl
      | keep => exact hhead
      | @cut _ g'' b' edits htakes' =>
        cases g'' with
        | nil => exact absurd rfl (h.group_ne_nil htakes'.reads)
        | cons c g'' => exact hhead

/-- The pass changes nothing that is masked. -/
theorem apply_eq (hs : Masked m p sub s) : sub.apply s = s := by
  obtain ⟨edits, htrace, rfl, hresult⟩ := exists_trace_apply h.replace_eq s
  rw [← hresult]
  refine result_eq_source fun E b F hedits => ?_
  subst hedits
  obtain ⟨E', g, rfl, htakes, -⟩ := htrace.of_cut
  have hb := htakes.reads.2
  rw [h.body_eq] at hb
  have hrun : (b ++ source F).takeWhile p = b := by
    rw [List.takeWhile_append_of_pos hb.1, takeWhile_eq_nil (htakes.maximal h.body_eq),
      List.append_nil]
  have hmasked := hs (source E') g (b ++ source F) (by simp) (h.reads_group htakes.reads)
  rw [hrun] at hmasked
  exact hmasked.resolve_left htakes.body_ne_nil

end Masking

/-- A later pass spares what is masked : its matches start with a letter of the class, or they keep
a group that ends in no text of the masked group and in which none ends. -/
structure Spares (p : α → Bool) (sub later : Substitution isWord) : Prop where
  head : ∀ {prev b next}, later.Reads prev [] b next → b.head?.any p = true
  suffix : ∀ {prev g' b next g}, later.Reads prev g' b next → g' ≠ [] →
    sub.group.Reads isWord none g none → ¬g <:+ g' ∧ ¬g' <:+ g

theorem suffix_or_suffix_of_keep {E' : List (Edit α)} {g g' : List α}
    (h : E ++ g.map .keep = E' ++ g'.map .keep) : g <:+ g' ∨ g' <:+ g := by
  have hinjective : Function.Injective (Edit.keep : α → Edit α) := fun _ _ h => by cases h; rfl
  rcases List.suffix_or_suffix_of_suffix ⟨E, rfl⟩ ⟨E', h.symm⟩ with hs | hs
  · exact .inl ((List.suffix_map_iff_of_injective hinjective).1 hs)
  · exact .inr ((List.suffix_map_iff_of_injective hinjective).1 hs)

namespace Spares

variable {p : α → Bool} (h : Spares p sub later)
include h

/-- What a later pass cuts does not follow a text of the masked group directly, unless it starts
with a letter of the class. -/
theorem head_of_cut {g b : List α} (htrace : later.Trace none (E ++ (g.map .keep ++ .cut b :: F)))
    (hg : sub.group.Reads isWord none g none) :
    b.head?.any p = true ∧ later.Takes (last none (E ++ g.map .keep)) [] b (source F) := by
  rw [← List.append_assoc] at htrace
  obtain ⟨E', g', hE, htakes, -⟩ := htrace.of_cut
  cases hg' : g' with
  | nil =>
    subst hg'
    rw [List.map_nil, List.append_nil] at hE
    rw [hE]
    exact ⟨h.head htakes.reads, htakes⟩
  | cons c g'' =>
    have hsuffix := h.suffix htakes.reads (by simp [hg']) hg
    rcases suffix_or_suffix_of_keep hE with hs | hs
    · exact absurd hs hsuffix.1
    · exact absurd hs hsuffix.2

/-- After a marker that is kept, the next letter of the class is cut nowhere. -/
theorem head_of_source {prev : Option α} (htrace : later.Trace prev F)
    (hhead : (source F).head?.any p = false) : (result m.text F).head?.any p = false := by
  cases htrace with
  | nil => rfl
  | keep => exact hhead
  | @cut _ g b edits htakes =>
    cases g with
    | nil =>
      have hb := h.head htakes.reads
      cases b with
      | nil => cases hb
      | cons c b =>
        have hhead' : p c = false := hhead
        have hb' : p c = true := hb
        rw [hhead'] at hb'
        cases hb'
    | cons c g => exact hhead

/-- A later pass keeps what is masked. -/
theorem masked_apply (hsub : sub.Masking m p) (hlater : later.Marks m) (hs : Masked m p sub s) :
    Masked m p sub (later.apply s) := by
  obtain ⟨edits, htrace, rfl, hresult⟩ := exists_trace_apply hlater.replace_eq s
  intro u g r heq hg
  rw [← hresult] at heq
  obtain ⟨E, F, rfl, rfl, rfl⟩ := (hsub.outside hg).clear.exists_keep heq
  have hrun := hs (source E) g (source F) (by simp) hg
  cases F with
  | nil => exact .inl rfl
  | cons e F =>
    cases e with
    | keep a =>
      by_cases ha : p a = true
      · -- a marker was there before the later pass, and is kept
        have hne : (source (.keep a :: F)).takeWhile p ≠ [] := by simp [ha]
        have hmarker := hrun.resolve_left hne
        have hsource : a :: source F = m.text ++ (source (.keep a :: F)).dropWhile p := by
          rw [← hmarker, List.takeWhile_append_dropWhile, source_keep]
        rw [← List.append_assoc] at htrace
        obtain ⟨F', prev, hF, hF', htrace'⟩ := hlater.keep_marker htrace hsource
        rw [hF, result_append, result_map_keep]
        refine .inr (takeWhile_marker hsub.marker (h.head_of_source htrace' ?_))
        rw [hF']
        exact head?_dropWhile
      · exact .inl (takeWhile_eq_nil (by simpa using ha))
    | cut b =>
      obtain ⟨hb, htakes⟩ := h.head_of_cut htrace hg
      obtain ⟨l, l', hl, houtside⟩ := hlater.lead htakes.reads
      rw [List.nil_append] at hl
      subst hl
      have hne : (source (.cut (l ++ l') :: F)).takeWhile p ≠ [] := by
        obtain ⟨c, l'', rfl⟩ := List.exists_cons_of_ne_nil houtside.ne_nil
        have hc : p c = true := hb
        simp [hc]
      have hmarker := hrun.resolve_left hne
      have hsource := List.takeWhile_append_dropWhile (p := p) (l := source (.cut (l ++ l') :: F))
      rw [hmarker, source_cut, List.append_assoc] at hsource
      exact absurd hsource.symm (houtside.clear.not_inside (u := []) rfl (List.cons_ne_nil _ _))

end Spares

/-! ## Dropping a text between edges -/

/-- A text that a pattern reads nowhere. -/
def Free (sub : Substitution isWord) (s : List α) : Prop :=
  ∀ u w r, s = u ++ (w ++ r) → ¬sub.body.Reads isWord u.getLast? w r.head?

/-- What `sub` reads in the result of `later` starts at a letter that was kept, and `sub` reads a
text there in the source too. -/
def Recovers (m : Marker α) (sub later : Substitution isWord) : Prop :=
  ∀ {edits : List (Edit α)} {u w r : List α}, later.Trace none edits →
    result m.text edits = u ++ (w ++ r) → sub.body.Reads isWord u.getLast? w r.head? →
      ∃ E a F w' r', edits = E ++ .keep a :: F ∧ a :: source F = w' ++ r' ∧
        sub.body.Reads isWord (source E).getLast? w' r'.head?

/-- A later pass frees no text that was free. -/
theorem Recovers.free_apply (h : Recovers m sub later)
    (hreplace : ∀ g b, later.replace g b = g ++ m.text) (hs : Free sub s) :
    Free sub (later.apply s) := by
  obtain ⟨edits, htrace, rfl, hresult⟩ := exists_trace_apply hreplace s
  intro u w r heq hreads
  rw [← hresult] at heq
  obtain ⟨E, a, F, w', r', rfl, hsource, hreads'⟩ := h htrace heq hreads
  refine hs (source E) w' r' ?_ hreads'
  rw [source_append, source_keep, hsource]

/-- A substitution without a group, which reads in its result only what it read before. -/
structure Dropping (m : Marker α) (sub : Substitution isWord) : Prop where
  replace_eq : ∀ g b, sub.replace g b = g ++ m.text
  group_eq : sub.group = .empty
  lead : ∀ {prev b next}, sub.body.Reads isWord prev b next → ∃ l l', b = l ++ l' ∧ m.Outside l
  recovers : Recovers m sub sub

namespace Dropping

variable (h : sub.Dropping m)
include h

theorem group_eq_nil {prev next : Option α} {g b : List α} (hreads : sub.Reads prev g b next) :
    g = [] := by
  have hg := hreads.1
  rw [h.group_eq] at hg
  exact hg

theorem marks : sub.Marks m where
  replace_eq := h.replace_eq
  clean hreads := by simp [h.group_eq_nil hreads]
  lead hreads := by
    have hb := hreads.2
    rw [h.group_eq_nil hreads] at hb ⊢
    exact h.lead hb

/-- What the pass leaves is free. -/
theorem free_apply (s : List α) : Free sub (sub.apply s) := by
  obtain ⟨edits, htrace, -, hresult⟩ := exists_trace_apply h.replace_eq s
  intro u w r heq hreads
  rw [← hresult] at heq
  obtain ⟨E, a, F, w', r', rfl, hsource, hreads'⟩ := h.recovers htrace heq hreads
  -- no group reaches the place, so the scan stops there and takes a match
  rcases htrace.of_append with hleft | ⟨E', x, y, b, F', -, -, hx, htakes, -⟩
  · obtain ⟨g, b, F', hg, -, htakes⟩ := hleft.of_reads (g := []) (b := w') hsource
      ⟨by rw [h.group_eq]; rfl, by simpa [last] using hreads'⟩
    exact hg (h.group_eq_nil htakes.reads)
  · exact hx (List.append_eq_nil_iff.1 (h.group_eq_nil htakes.reads)).1

/-- The pass changes nothing that is free. -/
theorem apply_eq (hs : Free sub s) : sub.apply s = s := by
  obtain ⟨edits, htrace, rfl, hresult⟩ := exists_trace_apply h.replace_eq s
  rw [← hresult]
  refine result_eq_source fun E b F hedits => ?_
  subst hedits
  obtain ⟨E', g, rfl, htakes, -⟩ := htrace.of_cut
  obtain rfl := h.group_eq_nil htakes.reads
  exact absurd htakes.reads.2 (by simpa [last] using hs (source E') b (source F) (by simp))

end Dropping

/-! ### Texts between edges -/

/-- A pattern between two boundaries. -/
def Bounded (r : Regex α) (isWord : α → Bool) : Prop :=
  ∀ {prev w next}, r.Reads isWord prev w next →
    prev.any isWord ≠ w.head?.any isWord ∧ w.getLast?.any isWord ≠ next.any isWord

/-- A pattern that reads a text only next to letters of another kind, if these are word letters. -/
def Edged (r : Regex α) (isWord : α → Bool) : Prop :=
  ∀ {prev w next}, r.Reads isWord prev w next →
    (prev.any isWord = true → w.head?.any isWord = false) ∧
      (next.any isWord = true → w.getLast?.any isWord = false)

theorem Bounded.edged {r : Regex α} (h : Bounded r isWord) : Edged r isWord := by
  intro prev w next hreads
  obtain ⟨hprev, hnext⟩ := h hreads
  refine ⟨fun hword => ?_, fun hword => ?_⟩
  · rw [hword] at hprev
    exact Bool.eq_false_iff.2 hprev.symm
  · rw [hword] at hnext
    exact Bool.eq_false_iff.2 hnext

/-- Before a boundary of the result, the last letter of the source is of the same kind. -/
theorem last_source (hedged : Edged later.body isWord) (hclosing : isWord m.closing = false)
    (htrace : later.Trace none (E ++ F))
    (hedge : (result m.text E).getLast?.any isWord ≠ (source F).head?.any isWord) :
    (source E).getLast?.any isWord = (result m.text E).getLast?.any isWord := by
  rcases List.eq_nil_or_concat E with rfl | ⟨E', e, rfl⟩
  · rfl
  · cases e with
    | keep a => simp
    | cut b =>
      rw [List.concat_eq_append, List.append_assoc, List.singleton_append] at htrace
      obtain ⟨E'', g, -, htakes, -⟩ := htrace.of_cut
      have hlast : (result m.text (E' ++ [.cut b])).getLast? = some m.closing := by
        rw [result_append, result_cut, result_nil, List.append_nil, Marker.text,
          ← List.cons_append, ← List.append_assoc, List.getLast?_concat]
      have hlast' : (source (E' ++ [.cut b])).getLast? = b.getLast? := by
        obtain ⟨b', c, rfl⟩ := (List.eq_nil_or_concat b).resolve_left htakes.body_ne_nil
        simp
      rw [List.concat_eq_append, hlast, Option.any_some, hclosing] at hedge ⊢
      rw [hlast']
      rw [ne_comm, ne_eq, Bool.not_eq_false] at hedge
      exact (hedged htakes.reads.2).2 hedge

/-- After a boundary of the result, the first letter of the source is of the same kind. -/
theorem head_source (hedged : Edged later.body isWord) (hopening : isWord m.opening = false)
    (htrace : later.Trace none (E ++ F))
    (hedge : (source E).getLast?.any isWord ≠ (result m.text F).head?.any isWord) :
    (source F).head?.any isWord = (result m.text F).head?.any isWord := by
  cases F with
  | nil => rfl
  | cons e F =>
    cases e with
    | keep a => rfl
    | cut b =>
      obtain ⟨E', g, rfl, htakes, -⟩ := htrace.of_cut
      have hhead : (result m.text (.cut b :: F)).head? = some m.opening := rfl
      have hhead' : (source (.cut b :: F)).head? = b.head? := by
        obtain ⟨c, b', rfl⟩ := List.exists_cons_of_ne_nil htakes.body_ne_nil
        rfl
      have hlast : (source (E' ++ g.map .keep)).getLast? = g.getLast?.or (last none E') := by
        rw [source_append, source_map_keep, List.getLast?_append, last, Option.or_none]
      rw [hhead, Option.any_some, hopening] at hedge ⊢
      rw [hhead']
      refine (hedged htakes.reads.2).1 ?_
      rw [← hlast]
      rwa [ne_eq, Bool.not_eq_false] at hedge

/-- A text between boundaries that lies in no marker was there before. -/
theorem recovers_of_bounded (houtside : ∀ {prev w next}, sub.body.Reads isWord prev w next →
    m.Outside w) (hbounded : Bounded sub.body isWord) (hedged : Edged later.body isWord)
    (hopening : isWord m.opening = false) (hclosing : isWord m.closing = false) :
    Recovers m sub later := by
  intro edits u w r htrace heq hreads
  obtain ⟨E, F, rfl, rfl, rfl⟩ := (houtside hreads).clear.exists_keep heq
  obtain ⟨hprev, hnext⟩ := hbounded hreads
  obtain ⟨a, w', rfl⟩ := List.exists_cons_of_ne_nil (houtside hreads).ne_nil
  have hlast := last_source hedged hclosing htrace hprev
  have hhead := head_source hedged hopening (E := E ++ (a :: w').map .keep) (F := F)
    (by rwa [List.append_assoc]) (by
      rw [source_append, source_map_keep, List.getLast?_append]
      rw [List.getLast?_cons] at hnext ⊢
      exact hnext)
  refine ⟨E, a, w'.map .keep ++ F, a :: w', source F, rfl, by simp, ?_⟩
  exact (reads_congr _ hlast hhead).2 hreads

/-- A text between two others that lie in no marker was there before, up to what is between. -/
theorem recovers_of_frame {L T : List α → Prop} (hL : ∀ {l}, L l → m.Outside l)
    (hT : ∀ {t}, T t → m.Outside t)
    (hbody : ∀ {prev w next}, sub.body.Reads isWord prev w next ↔
      ∃ l k t, w = l ++ (k ++ t) ∧ L l ∧ T t) : Recovers m sub later := by
  intro edits u w r _ heq hreads
  obtain ⟨l, k, t, rfl, hl, ht⟩ := hbody.1 hreads
  rw [List.append_assoc] at heq
  obtain ⟨E, F, rfl, -, hF⟩ := (hL hl).clear.exists_keep heq
  rw [List.append_assoc] at hF
  obtain ⟨E', F', rfl, -, -⟩ := (hT ht).clear.exists_keep hF
  obtain ⟨a, l', rfl⟩ := List.exists_cons_of_ne_nil (hL hl).ne_nil
  refine ⟨E, a, l'.map .keep ++ (E' ++ (t.map .keep ++ F')), a :: l' ++ (source E' ++ t), source F',
    rfl, by simp, ?_⟩
  exact hbody.2 ⟨a :: l', source E', t, rfl, hl, ht⟩

/-! ## Texts that are absent -/

/-- A clear text that is absent stays absent. -/
theorem absent_apply {w : List α} (h : m.Clear w)
    (hreplace : ∀ g b, sub.replace g b = g ++ m.text) (hs : ¬w <:+: s) : ¬w <:+: sub.apply s := by
  obtain ⟨edits, -, rfl, hresult⟩ := exists_trace_apply hreplace s
  rintro ⟨u, r, heq⟩
  rw [← hresult, List.append_assoc] at heq
  obtain ⟨E, F, rfl, -, -⟩ := h.exists_keep heq.symm
  refine hs ⟨source E, source F, ?_⟩
  rw [source_append, source_append, source_map_keep, List.append_assoc]

/-- A clear text is absent where a pass replaced it everywhere. -/
theorem absent_of_reads {w : List α} (h : m.Clear w) (hne : w ≠ [])
    (hreplace : ∀ g b, sub.replace g b = g ++ m.text) (hgroup : sub.group = .empty)
    (hreads : ∀ prev next, sub.body.Reads isWord prev w next) (s : List α) :
    ¬w <:+: sub.apply s := by
  obtain ⟨edits, htrace, -, hresult⟩ := exists_trace_apply hreplace s
  rintro ⟨u, r, heq⟩
  rw [← hresult, List.append_assoc] at heq
  obtain ⟨E, F, rfl, -, -⟩ := h.exists_keep heq.symm
  obtain ⟨a, w, rfl⟩ := List.exists_cons_of_ne_nil hne
  have hempty : ∀ {prev next : Option α} {g b : List α}, sub.Reads prev g b next → g = [] := by
    intro prev next g b hreads
    have hg := hreads.1
    rw [hgroup] at hg
    exact hg
  -- no group reaches the place, so the scan stops there and takes a match
  rcases htrace.of_append with hleft | ⟨E', x, y, b, F', -, -, hx, htakes, -⟩
  · obtain ⟨g, b, F', hg, -, htakes⟩ := hleft.of_reads (g := []) (b := a :: w) (r := source F)
      (by simp) ⟨by rw [hgroup]; rfl, hreads _ _⟩
    exact hg (hempty htakes.reads)
  · exact hx (List.append_eq_nil_iff.1 (hempty htakes.reads)).1

/-! ## Sequences of passes -/

/-- A pass with the property that it leaves behind, under which it changes nothing. -/
structure Settling (isWord : α → Bool) where
  pass : Substitution isWord
  Settled : List α → Prop
  settled_apply : ∀ s, Settled (pass.apply s)
  apply_eq : ∀ {s}, Settled s → pass.apply s = s

namespace Settling

/-- A later pass keeps what a pass settled. -/
def Keeps (first later : Settling isWord) : Prop :=
  ∀ {s}, first.Settled s → first.Settled (later.pass.apply s)

/-- A text goes through each pass. -/
def run (passes : List (Settling isWord)) (s : List α) : List α :=
  passes.foldl (fun s settling => settling.pass.apply s) s

theorem run_cons (settling : Settling isWord) (passes : List (Settling isWord)) (s : List α) :
    run (settling :: passes) s = run passes (settling.pass.apply s) :=
  rfl

theorem run_settled {first : Settling isWord} : ∀ {passes : List (Settling isWord)} {s : List α},
    (∀ settling ∈ passes, Keeps first settling) → first.Settled s → first.Settled (run passes s)
  | [], _, _, hs => hs
  | settling :: passes, s, hkeeps, hs => by
    rw [run_cons]
    exact run_settled (fun later hlater => hkeeps later (List.mem_cons_of_mem _ hlater))
      (hkeeps settling List.mem_cons_self hs)

/-- What a run leaves is settled for each of its passes. -/
theorem settled_run : ∀ {passes : List (Settling isWord)} {s : List α}, passes.Pairwise Keeps →
    ∀ settling ∈ passes, settling.Settled (run passes s)
  | settling :: passes, s, hpairwise, later, hlater => by
    obtain ⟨hfirst, hrest⟩ := List.pairwise_cons.1 hpairwise
    rw [run_cons]
    rcases List.mem_cons.1 hlater with rfl | hmem
    · exact run_settled hfirst (later.settled_apply s)
    · exact settled_run hrest later hmem

theorem run_eq : ∀ {passes : List (Settling isWord)} {s : List α},
    (∀ settling ∈ passes, settling.Settled s) → run passes s = s
  | [], _, _ => rfl
  | settling :: passes, s, h => by
    rw [run_cons, settling.apply_eq (h settling List.mem_cons_self)]
    exact run_eq fun later hlater => h later (List.mem_cons_of_mem _ hlater)

/-- A run changes nothing that a run left. -/
theorem run_run {passes : List (Settling isWord)} (h : passes.Pairwise Keeps) (s : List α) :
    run passes (run passes s) = run passes s :=
  run_eq (settled_run h)

end Settling

def Masking.settling {p : α → Bool} (h : sub.Masking m p) : Settling isWord where
  pass := sub
  Settled := Masked m p sub
  settled_apply := h.masked_apply
  apply_eq := h.apply_eq

def Dropping.settling (h : sub.Dropping m) : Settling isWord where
  pass := sub
  Settled := Free sub
  settled_apply := h.free_apply
  apply_eq := h.apply_eq

variable {settling : Settling isWord}

theorem Masking.keeps (h : sub.Masking m p) (hmarks : settling.pass.Marks m)
    (hspares : Spares p sub settling.pass) : h.settling.Keeps settling :=
  fun hs => hspares.masked_apply h hmarks hs

theorem Dropping.keeps (h : sub.Dropping m) (hmarks : settling.pass.Marks m)
    (hrecovers : Recovers m sub settling.pass) : h.settling.Keeps settling :=
  fun hs => hrecovers.free_apply hmarks.replace_eq hs

end Substitution

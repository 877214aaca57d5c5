import VulnLoom.SubstitutionTrace

/-!
# Runs of substitutions

Substitutions one after the other, each of which puts the same marker after the group of a match.
A text that shares nothing with the marker stands after a run only where it stood before it
(`Marker.Clear.infix_run`), and a letter that the marker has not was there before (`mem_run`).
-/

namespace Edit

variable {α : Type*}

/-- The bodies that are cut. -/
def cuts (edits : List (Edit α)) : List (List α) :=
  edits.flatMap fun
    | .keep _ => []
    | .cut body => [body]

/-- The bodies that are cut, each with the text after it. -/
def cutsBefore : List (Edit α) → List (List α × List α)
  | [] => []
  | .keep _ :: edits => cutsBefore edits
  | .cut body :: edits => (body, source edits) :: cutsBefore edits

theorem mem_cuts {edits : List (Edit α)} {body : List α} :
    body ∈ cuts edits ↔ .cut body ∈ edits := by
  rw [cuts, List.mem_flatMap]
  constructor
  · rintro ⟨_ | body', hmem, hbody⟩
    · cases hbody
    · rwa [List.mem_singleton.1 hbody]
  · exact fun hmem => ⟨.cut body, hmem, List.mem_singleton_self body⟩

theorem mem_cutsBefore (body : List α) (F : List (Edit α)) : ∀ E : List (Edit α),
    (body, source F) ∈ cutsBefore (E ++ .cut body :: F)
  | [] => List.mem_cons_self
  | .keep _ :: E => mem_cutsBefore body F E
  | .cut _ :: E => List.mem_cons_of_mem _ (mem_cutsBefore body F E)

/-- A letter of the source is kept, or it is in a body that is cut. -/
theorem exists_place {a : α} {r : List α} : ∀ {edits : List (Edit α)} {u : List α},
    source edits = u ++ a :: r →
      (∃ E F, edits = E ++ .keep a :: F ∧ source E = u ∧ source F = r) ∨
        ∃ E b b' F, edits = E ++ .cut (b ++ a :: b') :: F ∧ source E ++ b = u ∧ b' ++ source F = r
  | [], u, h => by
    rw [source_nil] at h
    exact absurd (h ▸ List.mem_append_right u List.mem_cons_self : a ∈ []) List.not_mem_nil
  | .keep b :: edits, [], h => by
    rw [source_keep, List.nil_append, List.cons.injEq] at h
    exact .inl ⟨[], edits, by rw [h.1, List.nil_append], rfl, h.2⟩
  | .keep b :: edits, c :: u, h => by
    rw [source_keep, List.cons_append, List.cons.injEq] at h
    obtain ⟨rfl, h⟩ := h
    rcases exists_place h with ⟨E, F, rfl, rfl, hF⟩ | ⟨E, w, w', F, rfl, rfl, hF⟩
    · exact .inl ⟨.keep b :: E, F, rfl, rfl, hF⟩
    · exact .inr ⟨.keep b :: E, w, w', F, rfl, rfl, hF⟩
  | .cut body :: edits, u, h => by
    rw [source_cut] at h
    rcases List.append_eq_append_iff.1 h with ⟨u', rfl, hrest⟩ | ⟨c, rfl, hrest⟩
    · rcases exists_place hrest with ⟨E, F, rfl, rfl, hF⟩ | ⟨E, w, w', F, rfl, rfl, hF⟩
      · exact .inl ⟨.cut body :: E, F, rfl, rfl, hF⟩
      · exact .inr ⟨.cut body :: E, w, w', F, rfl, by rw [source_cut, List.append_assoc], hF⟩
    · cases c with
      | nil =>
        rw [List.append_nil]
        rcases exists_place (u := []) hrest.symm with ⟨E, F, rfl, hE, hF⟩ |
          ⟨E, w, w', F, rfl, hE, hF⟩
        · exact .inl ⟨.cut u :: E, F, rfl, by rw [source_cut, hE, List.append_nil], hF⟩
        · exact .inr ⟨.cut u :: E, w, w', F, rfl,
            by rw [source_cut, List.append_assoc, hE, List.append_nil], hF⟩
      | cons d c =>
        rw [List.cons_append, List.cons.injEq] at hrest
        obtain ⟨rfl, hrest⟩ := hrest
        exact .inr ⟨[], u, c, edits, rfl, rfl, hrest.symm⟩

/-- A text of which nothing is cut is kept, where no empty body is cut. -/
theorem split_kept {r : List α} : ∀ {w : List α} {edits : List (Edit α)} {u : List α},
    (∀ body, .cut body ∈ edits → body ≠ [] ∧ ∀ c ∈ body, c ∉ w) → source edits = u ++ (w ++ r) →
      w ≠ [] → ∃ E F, edits = E ++ (w.map .keep ++ F) ∧ source E = u ∧ source F = r
  | [], _, _, _, _, hne => absurd rfl hne
  | a :: w, edits, u, hcut, h, _ => by
    rcases exists_place h with ⟨E, F, rfl, rfl, hF⟩ | ⟨E, b, b', F, rfl, -, -⟩
    · by_cases hw : w = []
      · subst hw
        exact ⟨E, F, rfl, rfl, hF⟩
      · have hcut' : ∀ body, .cut body ∈ F → body ≠ [] ∧ ∀ c ∈ body, c ∉ w := fun body hbody => by
          obtain ⟨hne, hfree⟩ := hcut body (by simp [hbody])
          exact ⟨hne, fun c hc hmem => hfree c hc (List.mem_cons_of_mem a hmem)⟩
        obtain ⟨G, F', rfl, hG, hF'⟩ := split_kept (u := []) hcut' hF hw
        -- between two letters that are kept, nothing is cut
        cases G with
        | nil => exact ⟨E, F', rfl, rfl, hF'⟩
        | cons e G =>
          exfalso
          cases e with
          | keep c => cases hG
          | cut body =>
            rw [source_cut, List.append_eq_nil_iff] at hG
            exact (hcut' body (by simp)).1 hG.1
    · have hbody : Edit.cut (b ++ a :: b') ∈ E ++ .cut (b ++ a :: b') :: F := by simp
      exact absurd List.mem_cons_self ((hcut _ hbody).2 a (by simp))

end Edit

namespace Marker

open Edit

variable {α β : Type*} {m : Marker α} {m' : Marker β} {f : β → α}

/-- A text is clear if what its letters are taken to is. -/
theorem Clear.of_map {w : List β} (htext : m'.text.map f = m.text) (h : m.Clear (w.map f)) :
    m'.Clear w where
  not_within hw := h.not_within (htext ▸ hw.map f)
  not_around hw := h.not_around (htext ▸ hw.map f)
  ends_apart c hc hne hprefix := by
    refine h.ends_apart (c.map f) ?_ (by simpa using hne) (htext ▸ hprefix.map f)
    exact (List.mem_tails _ _).2 (((List.mem_tails _ _).1 hc).map f)
  starts_apart c hc hne hstart := by
    refine h.starts_apart (c.map f) ?_ (by simpa using hne) (hstart.map f)
    exact (List.mem_tails _ _).2 (htext ▸ ((List.mem_tails _ _).1 hc).map f)

end Marker

namespace Substitution

variable {α : Type*} {isWord : α → Bool}

open Edit

variable {edits : List (Edit α)} {sub : Substitution isWord}

theorem Trace.body_ne_nil {prev : Option α} (h : sub.Trace prev edits) {body : List α}
    (hbody : .cut body ∈ edits) : body ≠ [] := by
  obtain ⟨E, F, rfl⟩ := List.append_of_mem hbody
  obtain ⟨E', g, -, htakes, -⟩ := h.of_cut
  exact htakes.body_ne_nil

/-- A match of a pattern without a group crosses no place. -/
theorem not_crosses (hgroup : sub.group = .empty) {prev : Option α} {E F : List (Edit α)} :
    ¬sub.Crosses prev E F := by
  rintro ⟨E', x, y, body, F', -, -, hx, htakes, -⟩
  have hreads := htakes.reads.1
  rw [hgroup] at hreads
  exact hx (List.append_eq_nil_iff.1 hreads).1

/-- Where a pattern without a group reads a text, its first letter is cut. -/
theorem Trace.cut_of_reads (hgroup : sub.group = .empty) (h : sub.Trace none edits) {a : α}
    {u b r : List α} (hsource : source edits = u ++ a :: (b ++ r))
    (hreads : ∀ prev, sub.body.Reads isWord prev (a :: b) r.head?) :
    ∃ E w w' F, edits = E ++ .cut (w ++ a :: w') :: F ∧ source E ++ w = u ∧
      w' ++ source F = b ++ r ∧ ∃ prev next, sub.body.Reads isWord prev (w ++ a :: w') next := by
  rcases exists_place hsource with ⟨E, F, rfl, -, hF⟩ | ⟨E, w, w', F, rfl, hE, hF⟩
  · exfalso
    have hleft := h.of_append.resolve_right (not_crosses hgroup)
    obtain ⟨g, b', F', hg, -, htakes⟩ := hleft.of_reads (g := []) (b := a :: b) (r := r)
      (by rw [hF]; rfl) ⟨hgroup ▸ rfl, hreads _⟩
    have hnil := htakes.reads.1
    rw [hgroup] at hnil
    exact hg hnil
  · obtain ⟨E', g, -, htakes, -⟩ := h.of_cut
    exact ⟨E, w, w', F, rfl, hE, hF, _, _, htakes.reads.2⟩

/-! ## Runs -/

/-- The passes, one after the other. -/
def run (passes : List (Substitution isWord)) (s : List α) : List α :=
  passes.foldl (fun s pass => pass.apply s) s

@[simp] theorem run_cons (pass : Substitution isWord) (passes : List (Substitution isWord))
    (s : List α) : run (pass :: passes) s = run passes (pass.apply s) :=
  rfl

theorem run_append (passes passes' : List (Substitution isWord)) (s : List α) :
    run (passes ++ passes') s = run passes' (run passes s) :=
  List.foldl_append

/-- Each pass puts the marker after the group of a match. -/
def Puts (marker : List α) (passes : List (Substitution isWord)) : Prop :=
  ∀ pass ∈ passes, ∀ g b, pass.replace g b = g ++ marker

variable {passes : List (Substitution isWord)} {marker s : List α}

theorem mem_run (h : Puts marker passes) {a : α} (ha : a ∈ run passes s) : a ∈ marker ∨ a ∈ s := by
  induction passes generalizing s with
  | nil => exact .inr ha
  | cons pass passes ih =>
    rw [run_cons] at ha
    rcases ih (fun q hq => h q (List.mem_cons_of_mem _ hq)) ha with hmem | hmem
    · exact .inl hmem
    · rw [← result_edits (h pass List.mem_cons_self)] at hmem
      simpa using mem_result hmem

/-- A run over letters that are read through a function. -/
theorem map_run {β : Type*} (f : β → α) {marker' : List β} (hmarker : marker'.map f = marker)
    (h : Puts marker passes) (s : List β) :
    (run (passes.map fun pass => pass.comap f fun g _ => g ++ marker') s).map f =
      run passes (s.map f) := by
  induction passes generalizing s with
  | nil => rfl
  | cons pass passes ih =>
    rw [List.map_cons, run_cons, run_cons, ih fun q hq => h q (List.mem_cons_of_mem _ hq),
      pass.map_apply f fun g b => ?_]
    rw [List.map_append, hmarker, h pass List.mem_cons_self]

end Substitution

namespace Marker

open Edit Substitution

variable {α : Type*} {isWord : α → Bool} {m : Marker α}

/-- A clear text of a result stood in the text before. -/
theorem Clear.infix_run {passes : List (Substitution isWord)} {s w : List α} (hclear : m.Clear w)
    (h : Puts m.text passes) (hw : w <:+: run passes s) : w <:+: s := by
  induction passes generalizing s with
  | nil => exact hw
  | cons pass passes ih =>
    rw [run_cons] at hw
    obtain ⟨u, r, heq⟩ := ih (fun q hq => h q (List.mem_cons_of_mem _ hq)) hw
    rw [← result_edits (h pass List.mem_cons_self), List.append_assoc] at heq
    obtain ⟨E, F, hedits, -, -⟩ := hclear.exists_keep heq.symm
    rw [← (source_edits s : source (pass.edits s) = s), hedits]
    exact ⟨source E, source F, by simp⟩

end Marker

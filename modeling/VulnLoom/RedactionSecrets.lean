import VulnLoom.RedactionIdempotence
import VulnLoom.RedactionVariants

/-!
# Registered values in redacted texts

A variant that shares no letter with the marker stays absent once it was replaced. One that does
may be formed by a marker and the letters next to it.
-/

namespace VulnLoom

namespace Redactor

open Regex Substitution

section

variable [PythonAlnum] [SetOrder]

/-- A text that the redactor of some values looks for. -/
def IsRegistered (sensitive_values : List String) (s : List Char) : Prop :=
  s ≠ [] ∧ ∃ value ∈ sensitive_values, s ∈ variants value

/-- No registered text occurs in a text that the redactor of the values made. -/
def SecretsAbsent (sensitive_values : List String) : Prop :=
  ∀ redactor, init sensitive_values = .ok redactor → ∀ s, IsRegistered sensitive_values s →
    ∀ x, ¬s <:+: (redactor.text x).toList

/-- A text with a registered text has one that is clear of the marker, or it is no redacted text. -/
def Recognized (sensitive_values : List String) : Prop :=
  ∀ t s, IsRegistered sensitive_values s → s <:+: t →
    (∃ s', IsRegistered sensitive_values s' ∧ mark.Clear s' ∧ s' <:+: t) ∨ default.redact t ≠ t

end

/-! ## A clear text -/

section

variable [PythonAlnum] {redactor : Redactor}

theorem absent_foldl {w : List Char} (hw : mark.Clear w) :
    ∀ {passes : List (Substitution (isWord : Char → Bool))} {s : List Char},
      (∀ pass ∈ passes, ∀ g b, pass.replace g b = g ++ mark.text) → ¬w <:+: s →
        ¬w <:+: passes.foldl (fun s pass => pass.apply s) s
  | [], _, _, hs => hs
  | pass :: passes, s, hreplace, hs => by
    rw [List.foldl_cons]
    exact absent_foldl hw (fun later hlater => hreplace later (List.mem_cons_of_mem _ hlater))
      (absent_apply hw (hreplace pass List.mem_cons_self) hs)

/-- A clear text that is replaced is absent in the end. -/
theorem absent_redact {c : Char} {s : List Char} (hw : mark.Clear (c :: s))
    (hmem : (c, s) ∈ redactor.sensitiveVariants) (x : List Char) :
    ¬c :: s <:+: redactor.redact x := by
  obtain ⟨before, after, hsplit⟩ := List.append_of_mem
    (List.mem_append_left patterns (List.mem_map_of_mem (f := literalPattern) hmem))
  have hpasses : redactor.passes = before ++ literalPattern (c, s) :: after := hsplit
  rw [redact, hpasses, List.foldl_append, List.foldl_cons]
  refine absent_foldl hw (fun pass hpass g b => ?_) ?_
  · have hmem : pass ∈ redactor.passes := by
      rw [hpasses]
      exact List.mem_append_right _ (List.mem_cons_of_mem _ hpass)
    rw [replace_of_mem hmem]
    rfl
  · refine absent_of_reads hw (List.cons_ne_nil c s) (fun _ _ => rfl) rfl (fun prev next => ?_) _
    exact ⟨[c], s, rfl, ⟨c, decide_eq_true rfl, rfl⟩, reads_exactly.2 rfl⟩

/-- What any redactor made, the default redactor leaves alone. -/
theorem default_redact (x : List Char) :
    default.redact (redactor.redact x) = redactor.redact x := by
  have hsplit : redactor.redact x =
      default.redact ((redactor.sensitiveVariants.map literalPattern).foldl
        (fun s pass => pass.apply s) x) := by
    rw [redact, passes, List.foldl_append]
    rfl
  rw [hsplit, redact_redact]

end

/-- No registered text survives if each text with one gives it away. -/
theorem secretsAbsent_of_recognized [PythonAlnum] [SetOrder] {sensitive_values : List String}
    (h : Recognized sensitive_values) : SecretsAbsent sensitive_values := by
  intro redactor hinit s hs x hinfix
  rw [text, String.toList_ofList] at hinfix
  rcases h _ s hs hinfix with ⟨w, ⟨hne, hvalue⟩, hclear, hw⟩ | hchanged
  · obtain ⟨c, w, rfl⟩ := List.exists_cons_of_ne_nil hne
    exact absent_redact hclear ((mem_sensitiveVariants hinit).2 hvalue) _ hw
  · exact hchanged (default_redact _)

instance (w : List Char) : Decidable (mark.Clear w) :=
  decidable_of_iff (¬w <:+: mark.text ∧ ¬mark.text <:+: w ∧
    (∀ c ∈ w.tails, c ≠ [] → ¬c <+: mark.text) ∧ ∀ c ∈ mark.text.tails, c ≠ [] → ¬c <+: w)
    ⟨fun h => ⟨h.1, h.2.1, h.2.2.1, h.2.2.2⟩,
      fun h => ⟨h.not_within, h.not_around, h.ends_apart, h.starts_apart⟩⟩

/-- A password, of which no variant shares a letter with the marker. -/
theorem passphrase_absent : @SecretsAbsent asciiAlnum lastAdded ["correct-horse"] := by
  refine @secretsAbsent_of_recognized asciiAlnum lastAdded _ fun t s hs ht => ?_
  have hclear : ∀ s ∈ variants "correct-horse", mark.Clear s := by decide
  obtain ⟨hne, value, hvalue, hmem⟩ := hs
  refine .inl ⟨s, ⟨hne, value, hvalue, hmem⟩, hclear s ?_, ht⟩
  rwa [← List.mem_singleton.1 hvalue]

/-- A value that lies in the marker is formed by its own redaction. -/
theorem redacted_survives : ¬@SecretsAbsent asciiAlnum lastAdded ["REDACTED"] := by
  intro h
  have hvalue : IsRegistered ["REDACTED"] "REDACTED".toList :=
    ⟨by decide, "REDACTED", List.mem_singleton_self _, List.mem_cons_self⟩
  have hchecked : ["REDACTED"].forM checkValue = .ok () := rfl
  refine @h _ (@init_eq_ok _ lastAdded hchecked) _ hvalue "REDACTED" ?_
  decide

end Redactor

end VulnLoom

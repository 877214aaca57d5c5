import VulnLoom.Redaction
import VulnLoom.SubstitutionTrace

/-!
# Plain texts

Each pattern of the redactor reads a colon, an equals sign, a hyphen or an at sign. A text with
none of them is redacted to itself.
-/

namespace Substitution

open Regex Edit

variable {α : Type*} {isWord : α → Bool} {sub : Substitution isWord}

/-- A substitution changes nothing where its group or its body reads another letter. -/
theorem apply_eq_of_leaves {marker s : List α} (hreplace : ∀ g b, sub.replace g b = g ++ marker)
    (h : sub.group.leaves s = true ∨ sub.body.leaves s = true) : sub.apply s = s := by
  obtain ⟨edits, htrace, rfl, hresult⟩ := exists_trace_apply hreplace s
  rw [← hresult]
  refine result_eq_source fun E body F hedits => ?_
  subst hedits
  obtain ⟨E', g, rfl, htakes, -⟩ := htrace.of_cut
  obtain ⟨a, ha, hnot⟩ : ∃ a ∈ g ++ body,
      a ∉ source (E' ++ g.map .keep ++ .cut body :: F) := by
    rcases h with h | h
    · obtain ⟨a, ha, hnot⟩ := exists_mem_of_leaves h htakes.reads.1
      exact ⟨a, List.mem_append_left _ ha, hnot⟩
    · obtain ⟨a, ha, hnot⟩ := exists_mem_of_leaves h htakes.reads.2
      exact ⟨a, List.mem_append_right _ ha, hnot⟩
  refine absurd ?_ hnot
  simp only [source_append, source_map_keep, source_cut, List.append_assoc]
  exact List.mem_append_right _ (by
    rcases List.mem_append.1 ha with ha | ha <;> simp [ha])

end Substitution

namespace VulnLoom

namespace Redactor

open Regex

variable {value : List Char}

theorem oneOf_leaves {s : String} (h : ∀ c ∈ s.toList, c ∉ value) :
    (oneOf s).leaves value = true := by
  rw [oneOf, leaves, List.all_eq_true]
  intro c hc
  rw [Bool.not_eq_true', decide_eq_false_iff_not]
  exact fun hmem => h c hmem hc

variable [PythonAlnum]

/-- Without a colon, an equals sign and a hyphen only the pattern of e-mail addresses matches. -/
theorem redact_of_three (hcolon : ':' ∉ value) (hequals : '=' ∉ value) (hhyphen : '-' ∉ value) :
    default.redact value = emailPattern.apply value := by
  have hpasses : ∀ pass ∈ [quotedPattern, authorizationPattern, keyValuePattern, skPattern,
      privateKeyPattern], pass.apply value = value := by
    intro pass hpass
    have hmem : pass ∈ default.passes :=
      List.mem_append_right _ (List.mem_append_left [emailPattern] hpass)
    have hreplace : ∀ g b, pass.replace g b = g ++ placeholder := by simp [replace_of_mem hmem]
    refine Substitution.apply_eq_of_leaves hreplace ?_
    have hone : (oneOf ":").leaves value = true := oneOf_leaves (by simpa using hcolon)
    have htwo : (oneOf "=:").leaves value = true := oneOf_leaves (by simp [hcolon, hequals])
    have hdash := eq_true (show ∀ c ∈ value, ¬c = '-' from fun c hc heq => hhyphen (heq ▸ hc))
    simp only [List.mem_cons, List.not_mem_nil, or_false] at hpass
    rcases hpass with rfl | rfl | rfl | rfl | rfl
    · exact .inl (by simp [quotedPattern, keeping, sequence, leaves, hone])
    · exact .inl (by simp [authorizationPattern, keeping, sequence, leaves, hone])
    · exact .inl (by simp [keyValuePattern, keeping, sequence, leaves, htwo])
    · exact .inr (by simp [skPattern, dropping, keeping, sequence, exactly, leaves, hdash])
    · exact .inr (by
        simp [privateKeyPattern, dropping, keeping, sequence, privateKeyLabel, exactly, leaves,
          hdash])
  simp only [List.forall_mem_cons] at hpasses
  obtain ⟨hquoted, hauthorization, hkeyValue, hsk, hprivateKey, -⟩ := hpasses
  simp only [redact, passes, default, patterns, List.map_nil, List.nil_append, List.foldl_cons,
    List.foldl_nil, hquoted, hauthorization, hkeyValue, hsk, hprivateKey]

/-- The letters of which each match has one. -/
def telling : List Char :=
  [':', '=', '-', '@']

theorem redact_of_plain (h : ∀ c ∈ value, c ∉ telling) : default.redact value = value := by
  have habsent : ∀ c ∈ telling, c ∉ value := fun c hc hmem => h c hmem hc
  rw [redact_of_three (habsent _ (by decide)) (habsent _ (by decide)) (habsent _ (by decide))]
  have hat : (oneOf "@").leaves value = true :=
    oneOf_leaves (by simpa using habsent '@' (by decide))
  have hreplace : ∀ g b, emailPattern.replace g b = g ++ placeholder := fun _ _ => rfl
  exact Substitution.apply_eq_of_leaves hreplace
    (.inr (by simp [emailPattern, dropping, keeping, sequence, leaves, hat]))

end Redactor

/-- A text without the telling letters is redacted to itself. -/
theorem text_of_plain [PythonAlnum] {value : String}
    (h : ∀ c ∈ value.toList, c ∉ Redactor.telling) :
    Redactor.default.text value = value := by
  rw [Redactor.text, Redactor.redact_of_plain h, String.ofList_toList]

end VulnLoom

import VulnLoom.RedactionIdempotence
import VulnLoom.RedactionJson

/-!
# Structural and textual redaction

The text redaction of a serialised object removes a value whose key the first pattern names, if no
quote stands in the value : the scan stops at the key, and its match takes the value whole.
-/

namespace VulnLoom

namespace Redactor

open Regex Substitution Edit

/-! ## What is claimed -/

section

variable [PythonAlnum]

end

/-! ## Places in a text -/

/-- No colon with only spaces after it stands at the end. -/
def NoColon (u : List Char) : Prop :=
  ∀ x s, u = x ++ ':' :: s → ∃ c ∈ s, isSpace c = false

variable {edits : List (Edit (Char × Bool))}

section

variable [PythonAlnum] {redactor : Redactor}

variable {s : List (Char × Bool)}

variable {k : List Char}

variable {sp : List Char}

/-- The group of the first pattern has quotes only where it says so. -/
theorem quotes_quoted {g : List Char} (hg : quotedPattern.group.Reads isWord none g none) :
    ∃ a k b s s' d, g = a :: (k ++ b :: (s ++ ':' :: s' ++ [d])) ∧ isQuote b = true ∧
      isQuote d = true ∧ (∀ c ∈ k, isQuote c = false) ∧
        (∀ c ∈ s ++ ':' :: s', isQuote c = false) ∧ (∀ c ∈ s, isSpace c = true) ∧
          ∀ c ∈ s', isSpace c = true := by
  obtain ⟨a, k, b, s, s', d, rfl, -, ⟨_, _, hk⟩, hb, hs, hs', hd⟩ := shape_quoted hg
  refine ⟨a, k, b, s, s', d, by simp, hb, hd, forall_notMem_of_avoids (by decide) hk, ?_, hs, hs'⟩
  intro c hc
  rcases List.mem_append.1 hc with hc | hc
  · exact not_quote_of_space (hs c hc)
  · rcases List.mem_cons.1 hc with rfl | hc
    · decide
    · exact not_quote_of_space (hs' c hc)

/-- No match that starts before a member reaches its key. -/
theorem not_crosses {u x y : List Char} {c : Char}
    (hg : quotedPattern.group.Reads isWord none (x ++ '"' :: y) none) (hx : x ≠ [])
    (hxu : x <:+ u) (hu : NoColon u) (hy : y <+: c :: k) (hc : isSpace c = false)
    (hcolon : c ≠ ':') : False := by
  obtain ⟨a, k', b, s, s', d, heq, hb, hd, hk', hs, hspace, hspace'⟩ := quotes_quoted hg
  obtain ⟨a', x, rfl⟩ := List.exists_cons_of_ne_nil hx
  rw [List.cons_append, List.cons.injEq] at heq
  -- the key of the match is not before the key of the member
  have hkey : y ≠ s ++ ':' :: s' ++ [d] := by
    rintro rfl
    cases s with
    | nil => exact hcolon (List.cons_prefix_cons.1 hy).1.symm
    | cons e s =>
      rw [← (List.cons_prefix_cons.1 hy).1, hspace e List.mem_cons_self] at hc
      cases hc
  rcases List.append_eq_append_iff.1 heq.2 with ⟨z, rfl, hz⟩ | ⟨z, rfl, hz⟩
  · cases z with
    | nil => exact hkey (List.cons.inj hz).2
    | cons e z =>
      rw [List.cons_append, List.cons.injEq] at hz
      have hmem := hk' '"' (by simp [← hz.1])
      revert hmem
      decide
  · cases z with
    | nil => exact hkey (List.cons.inj hz).2.symm
    | cons e z =>
      rw [List.cons_append, List.cons.injEq] at hz
      -- the last quote of the match is the first of the member
      rcases List.eq_nil_or_concat y with rfl | ⟨y, f, rfl⟩
      · obtain ⟨hz', -⟩ := List.append_singleton_inj.1 hz.2
        obtain ⟨w, rfl⟩ := hxu
        obtain ⟨g, hmem, hnot⟩ := hu (w ++ a' :: (k' ++ e :: s)) s' (by simp [← hz'])
        rw [hspace' g hmem] at hnot
        cases hnot
      · rw [List.concat_eq_append, ← List.cons_append, ← List.append_assoc,
          List.append_singleton_inj] at hz
        have hmem := hs '"' (by simp [hz.2.1])
        revert hmem
        decide

end

/-! ## A serialised object -/

end Redactor

section

attribute [local instance] asciiAlnum

end

end VulnLoom

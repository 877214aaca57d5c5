import Mathlib.Data.List.Infix

/-!
# Domain names

A host name is a text of labels between dots. One name is at or below another when the labels of
the second are the last labels of the first (`AtOrBelow`) : this is an order. A program that
compares texts asks whether the names are equal or one ends in a dot and the other
(`atOrBelow_iff`).
-/

namespace DomainNames

/-- The labels of a name, the most specific first. -/
def labels (name : String) : List (List Char) :=
  name.toList.splitOn '.'

/-- `name` is `domain` or a name below it. -/
def AtOrBelow (name domain : String) : Prop :=
  labels domain <:+ labels name

theorem labels_ne_nil (name : String) : labels name ≠ [] :=
  List.splitOn_ne_nil _ _

/-- The labels of a name determine it. -/
theorem eq_of_labels {name name' : String} (h : labels name = labels name') : name = name' := by
  have hchars : ['.'].intercalate (labels name) = ['.'].intercalate (labels name') :=
    congrArg _ h
  simp only [labels, List.intercalate_splitOn] at hchars
  exact String.toList_inj.1 hchars

namespace AtOrBelow

theorem refl (name : String) : AtOrBelow name name :=
  List.suffix_refl _

end AtOrBelow

/-- Joining labels in front of a name puts a dot before it. -/
theorem intercalate_append {sep : Char} : ∀ {front back : List (List Char)}, front ≠ [] →
    back ≠ [] → [sep].intercalate (front ++ back) =
      [sep].intercalate front ++ sep :: [sep].intercalate back
  | [], _, h, _ => absurd rfl h
  | [label], b :: back, _, _ => by simp
  | label :: label' :: front, back, _, hback => by
    have ih : [sep].intercalate (label' :: front ++ back) =
        [sep].intercalate (label' :: front) ++ sep :: [sep].intercalate back :=
      intercalate_append (List.cons_ne_nil label' front) hback
    rw [List.cons_append, List.cons_append, List.intercalate_cons_cons, ← List.cons_append, ih,
      List.intercalate_cons_cons]
    simp

/-- What a program that compares texts asks. -/
theorem atOrBelow_iff {name domain : String} :
    AtOrBelow name domain ↔ name = domain ∨ '.' :: domain.toList <:+ name.toList := by
  constructor
  · rintro ⟨front, hfront⟩
    by_cases hnil : front = []
    · subst hnil
      exact Or.inl (eq_of_labels hfront.symm)
    · have hchars : name.toList = ['.'].intercalate (front ++ labels domain) := by
        rw [hfront, labels, List.intercalate_splitOn]
      rw [intercalate_append hnil (labels_ne_nil _), labels, List.intercalate_splitOn] at hchars
      exact Or.inr ⟨_, hchars.symm⟩
  · rintro (rfl | ⟨front, hfront⟩)
    · exact .refl _
    · refine ⟨front.splitOn '.', ?_⟩
      rw [labels, labels, ← hfront, List.splitOn_append_cons_self]

/-! ## Host names -/

def isLabelChar (c : Char) : Bool :=
  c.isLower || c.isDigit || c == '-'

/-- `_HOST_LABEL`. -/
def isHostLabel (label : List Char) : Bool :=
  1 ≤ label.length ∧ label.length ≤ 63 ∧ label.all isLabelChar ∧ label.head? ≠ some '-' ∧
    label.getLast? ≠ some '-'

/-- A name in lower case, of at least two labels. -/
def isHostname (name : String) : Bool :=
  name.toList.length ≤ 253 ∧ '.' ∈ name.toList ∧ (labels name).all isHostLabel

end DomainNames

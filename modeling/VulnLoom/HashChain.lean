import Mathlib.Data.List.Induction

/-!
# Hash chains

A chain is a list of records, each of which names the digest of the record before it, the
first one a genesis digest. When the digest is injective a chain is determined by its
length and the digest of its last record (`eq_of_head_eq`) : the last records are equal, so
they name the same digest, and the chains before them have that digest as their heads.
-/

namespace HashChain

variable {ρ δ : Type*} (digest previous : ρ → δ)

/-- Every record names the digest of its predecessor, the first one `genesis`. -/
def Linked : δ → List ρ → Prop
  | _, [] => True
  | genesis, r :: rs => previous r = genesis ∧ Linked (digest r) rs

/-- The digest of the last record; `genesis` for an empty chain. -/
def head : δ → List ρ → δ
  | genesis, [] => genesis
  | _, r :: rs => head (digest r) rs

@[simp] theorem head_concat : ∀ (genesis : δ) (rs : List ρ) (r : ρ),
    head digest genesis (rs ++ [r]) = digest r
  | _, [], _ => rfl
  | _, r' :: rs, r => head_concat (digest r') rs r

theorem linked_concat : ∀ {genesis : δ} {rs : List ρ} {r : ρ},
    Linked digest previous genesis (rs ++ [r]) ↔
      Linked digest previous genesis rs ∧ previous r = head digest genesis rs
  | _, [], _ => by simp [Linked, head]
  | genesis, r' :: rs, r => by
    rw [List.cons_append, Linked, linked_concat, Linked, head, and_assoc]

theorem Linked.take : ∀ {genesis : δ} {rs : List ρ} (k : ℕ),
    Linked digest previous genesis rs → Linked digest previous genesis (rs.take k)
  | _, _, 0, _ => by simp [Linked]
  | _, [], _ + 1, _ => trivial
  | _, _ :: _, k + 1, ⟨hprev, hrest⟩ => ⟨hprev, Linked.take k hrest⟩

/-- With an injective digest, two chains of one length with one head are one chain. -/
theorem eq_of_head_eq (hinj : Function.Injective digest) {genesis genesis' : δ} :
    ∀ {rs rs' : List ρ}, Linked digest previous genesis rs →
      Linked digest previous genesis' rs' → rs.length = rs'.length →
      head digest genesis rs = head digest genesis' rs' → rs = rs' := by
  intro rs
  -- from the last record backwards : equal digests, so equal records and equal links
  induction rs using List.reverseRecOn with
  | nil =>
    intro rs' _ _ hlen _
    exact (List.eq_nil_of_length_eq_zero hlen.symm).symm
  | append_singleton rs r ih =>
    intro rs' hlinked hlinked' hlen hhead
    obtain ⟨ts, t, rfl⟩ : ∃ ts t, rs' = ts ++ [t] := by
      rcases List.eq_nil_or_concat rs' with rfl | ⟨ts, t, rfl⟩
      · simp at hlen
      · exact ⟨ts, t, List.concat_eq_append⟩
    rw [head_concat, head_concat] at hhead
    obtain rfl : r = t := hinj hhead
    obtain ⟨hrs, hprev⟩ := (linked_concat digest previous).1 hlinked
    obtain ⟨hts, hprev'⟩ := (linked_concat digest previous).1 hlinked'
    have hlen' : rs.length = ts.length := by simpa using hlen
    rw [ih hrs hts hlen' (hprev.symm.trans hprev')]

end HashChain

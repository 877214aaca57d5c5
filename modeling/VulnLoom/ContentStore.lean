import Mathlib.Data.List.Basic

/-!
# Content-addressed stores

A row is filed under a key computed from it. `file` files a row unless its key is taken, so
whoever reads a key gets the row that was filed first.
-/

namespace ContentStore

variable {κ α : Type*} [DecidableEq κ] (key : α → κ)

/-- The row filed under a key. -/
def find (t : List α) (k : κ) : Option α :=
  t.find? fun a => key a = k

/-- File a row, unless its key is taken. -/
def file (t : List α) (a : α) : List α :=
  if (find key t (key a)).isSome then t else t ++ [a]

variable {key}
variable {t : List α}

theorem find_append {u : List α} {k : κ} : find key (t ++ u) k = (find key t k).or (find key u k) :=
  List.find?_append

variable (key) in
/-- A row whose key is taken answers nothing. -/
theorem find_concat_of_taken {a : α} (h : (find key t (key a)).isSome) (k : κ) :
    find key (t ++ [a]) k = find key t k := by
  rw [find_append]
  by_cases hk : key a = k
  · subst hk
    rw [Option.or_of_isSome h]
  · have hnone : find key [a] k = none := by simp [find, hk]
    rw [hnone, Option.or_none]

/-- A row is filed for good, and filing it changes no answer there was. -/
theorem find_file {a : α} {k : κ} :
    find key (file key t a) k = (find key t k).or (find key [a] k) := by
  unfold file
  split_ifs with h
  · rw [← find_append, find_concat_of_taken key h]
  · exact find_append

end ContentStore

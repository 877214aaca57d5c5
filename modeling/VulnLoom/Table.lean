import Mathlib.Algebra.GroupWithZero.Nat
import Mathlib.Data.List.Dedup
import Mathlib.Data.List.MinMax
import Mathlib.Data.List.Nodup
import Mathlib.Data.List.Sort
import Mathlib.Logic.Function.Basic

/-!
# Tables

A table is the list of its rows, in the order they were inserted. `insert` refuses a row
that clashes with one in the table (a primary key or a unique column), so the rows of a table
have distinct keys. `update` rewrites the rows a condition selects and reports how
many there were. `latest` is the row with the greatest value of a column; while the column
counts the rows from zero, that is the last row (`argmax_eq_getLast?`).
-/

namespace Table

variable {ρ : Type*}

/-! ## Insertion -/

/-- Insert a row, unless it clashes with one in the table. -/
def insert (clash : ρ → ρ → Bool) (t : List ρ) (row : ρ) : Option (List ρ) :=
  if t.any (clash row) then none else some (t ++ [row])

variable {t : List ρ}

theorem insert_eq_some {clash : ρ → ρ → Bool} {t' : List ρ} {row : ρ} :
    insert clash t row = some t' ↔ (∀ r ∈ t, clash row r = false) ∧ t' = t ++ [row] := by
  unfold insert
  split_ifs with h
  · simp only [List.any_eq_true] at h
    obtain ⟨r, hr, hc⟩ := h
    constructor
    · intro h'
      cases h'
    · rintro ⟨h', -⟩
      rw [h' r hr] at hc
      cases hc
  · simp only [List.any_eq_true, not_exists, not_and, Bool.not_eq_true] at h
    constructor
    · intro h'
      exact ⟨h, (Option.some.inj h').symm⟩
    · rintro ⟨-, rfl⟩
      rfl

/-! ## Keys -/

variable {κ : Type*}

/-- A row that shares its key with no row of the table keeps the keys unique. -/
theorem nodup_key_concat {key : ρ → κ} {row : ρ} (ht : (t.map key).Nodup)
    (hrow : ∀ r ∈ t, key row ≠ key r) : ((t ++ [row]).map key).Nodup := by
  rw [List.map_append, List.map_singleton, List.nodup_append]
  refine ⟨ht, List.nodup_singleton _, ?_⟩
  intro k hk k' hk' heq
  obtain ⟨r, hr, rfl⟩ := List.mem_map.1 hk
  rw [List.mem_singleton.1 hk'] at heq
  exact hrow r hr heq.symm

variable {r : ρ}

/-- Two rows of a table with one key are one row. -/
theorem eq_of_key {key : ρ → κ} (ht : (t.map key).Nodup) {r' : ρ} (hr : r ∈ t) (hr' : r' ∈ t)
    (h : key r = key r') : r = r' :=
  List.inj_on_of_nodup_map ht hr hr' h

/-- A row is found by its key. -/
theorem find?_key [DecidableEq κ] {key : ρ → κ} (ht : (t.map key).Nodup) (hr : r ∈ t) :
    t.find? (fun r' => key r' = key r) = some r := by
  obtain ⟨r', hr'⟩ : ∃ r', t.find? (fun r' => key r' = key r) = some r' := by
    rw [← Option.isSome_iff_exists, List.find?_isSome]
    exact ⟨r, hr, by simp⟩
  have hkey : key r' = key r := by simpa using List.find?_some hr'
  rw [hr', eq_of_key ht (List.mem_of_find?_eq_some hr') hr hkey]

/-- A row is found by its key among pairs of a key and a value. -/
theorem lookup_map {κ υ : Type*} [BEq κ] [LawfulBEq κ] (key : ρ → κ) (value : ρ → υ) :
    ∀ {t : List ρ}, (t.map key).Nodup → ∀ {r : ρ}, r ∈ t →
      (t.map fun r => (key r, value r)).lookup (key r) = some (value r)
  | [], _, _, hr => by simp at hr
  | a :: t, ht, r, hr => by
    obtain ⟨hfirst, ht⟩ := List.nodup_cons.1 ht
    rcases List.mem_cons.1 hr with rfl | hr
    · simp
    · have hne : key r ≠ key a := by
        intro heq
        exact hfirst (heq ▸ List.mem_map_of_mem hr)
      rw [List.map_cons, List.lookup_cons, beq_false_of_ne hne]
      exact lookup_map key value ht hr

/-- A key that a row has selects that row alone. -/
theorem countP_key [DecidableEq κ] {key : ρ → κ} (ht : (t.map key).Nodup) (hr : r ∈ t) :
    t.countP (fun r' => key r' = key r) = 1 := by
  have hcount := List.count_eq_one_of_mem ht (List.mem_map_of_mem hr)
  rw [List.count_eq_countP, List.countP_map] at hcount
  rw [← hcount]
  refine List.countP_congr fun r' _ => ?_
  simp

/-! ## Update -/

/-- Rewrite the rows that `p` selects. -/
def update (p : ρ → Bool) (f : ρ → ρ) (t : List ρ) : List ρ :=
  t.map fun r => if p r then f r else r

/-- How many rows `p` selects. -/
def rowcount (p : ρ → Bool) (t : List ρ) : ℕ :=
  t.countP p

variable {p : ρ → Bool} {f : ρ → ρ}

theorem mem_update : r ∈ update p f t ↔ ∃ r₀ ∈ t, (if p r₀ then f r₀ else r₀) = r := by
  simp [update]

/-- An update that keeps a column keeps its list of values. -/
theorem map_update {key : ρ → κ} (hf : ∀ r, key (f r) = key r) (p : ρ → Bool) (t : List ρ) :
    (update p f t).map key = t.map key := by
  simp only [update, List.map_map]
  refine List.map_congr_left fun r _ => ?_
  simp only [Function.comp_apply]
  split_ifs
  · exact hf r
  · rfl

theorem nodup_key_update {key : ρ → κ} (hf : ∀ r, key (f r) = key r) (ht : (t.map key).Nodup) :
    ((update p f t).map key).Nodup := by
  rw [map_update hf]
  exact ht

/-- No row clashes with an earlier one. -/
def Distinct (clash : ρ → ρ → Bool) (t : List ρ) : Prop :=
  t.Pairwise fun a b => clash b a = false

section Distinct

variable {clash : ρ → ρ → Bool} {t t' : List ρ}

theorem distinct_insert {row : ρ} (ht : Distinct clash t) (h : insert clash t row = some t') :
    Distinct clash t' := by
  obtain ⟨hfresh, rfl⟩ := insert_eq_some.1 h
  refine List.pairwise_append.2 ⟨ht, List.pairwise_singleton _ _, fun r hr r' hr' => ?_⟩
  rw [List.mem_singleton.1 hr']
  exact hfresh r hr

theorem distinct_update (hleft : ∀ a b, clash (f a) b = clash a b)
    (hright : ∀ a b, clash a (f b) = clash a b) (ht : Distinct clash t) :
    Distinct clash (update p f t) := by
  refine List.pairwise_map.2 (ht.imp fun {a b} hab => ?_)
  split_ifs <;> simp [hleft, hright, hab]

/-- A column whose equal values clash has distinct values. -/
theorem Distinct.nodup (ht : Distinct clash t) (key : ρ → κ)
    (hkey : ∀ a b, key a = key b → clash a b = true) : (t.map key).Nodup := by
  refine List.pairwise_map.2 (ht.imp fun {a b} hab heq => ?_)
  rw [hkey b a heq.symm] at hab
  cases hab

end Distinct

@[simp] theorem length_update (p : ρ → Bool) (f : ρ → ρ) (t : List ρ) :
    (update p f t).length = t.length := by
  simp [update]

theorem exists_of_rowcount_one (h : rowcount p t = 1) : ∃ r ∈ t, p r = true := by
  have hpos : 0 < t.countP p := by
    rw [rowcount] at h
    omega
  exact List.countP_pos_iff.1 hpos

/-- An update moves a row in or out of a selection `q` only where `p` selects it. -/
theorem countP_update (p q : ρ → Bool) (f : ρ → ρ) : ∀ t : List ρ,
    (update p f t).countP q + t.countP (fun r => p r && q r) =
      t.countP q + t.countP (fun r => p r && q (f r))
  | [] => rfl
  | r :: t => by
    have ih := countP_update p q f t
    simp only [update, List.map_cons, List.countP_cons] at ih ⊢
    cases hp : p r <;> cases hq : q r <;> cases hf : q (f r) <;> simp_all <;> omega

variable {q : ρ → Bool}

/-- An update that takes rows out of a selection lowers its count by those it had there. -/
theorem countP_update_leave (hf : ∀ r, p r = true → q (f r) = false) (t : List ρ) :
    (update p f t).countP q + t.countP (fun r => p r && q r) = t.countP q := by
  have h := countP_update p q f t
  have hnone : t.countP (fun r => p r && q (f r)) = 0 := by
    refine List.countP_eq_zero.2 fun r _ hr => ?_
    obtain ⟨hp, hq⟩ := Bool.and_eq_true_iff.1 hr
    rw [hf r hp] at hq
    cases hq
  omega

/-- The selected rows all lie in a second selection. -/
theorem countP_and_of_imp (h : ∀ r ∈ t, p r = true → q r = true) :
    t.countP (fun r => p r && q r) = t.countP p := by
  refine List.countP_congr fun r hr => ?_
  constructor
  · intro hpq
    exact (Bool.and_eq_true_iff.1 hpq).1
  · intro hp
    exact Bool.and_eq_true_iff.2 ⟨hp, h r hr hp⟩

/-- An update that keeps a selection row by row keeps its count. -/
theorem countP_update_of_eq (hf : ∀ r, p r = true → q (f r) = q r) (t : List ρ) :
    (update p f t).countP q = t.countP q := by
  have h := countP_update p q f t
  have hsame : t.countP (fun r => p r && q r) = t.countP (fun r => p r && q (f r)) := by
    refine List.countP_congr fun r _ => ?_
    cases hp : p r with
    | false => simp
    | true => simp [hf r hp]
  omega

/-- An update that touches no row of a selection, and moves none into it, finds the same. -/
theorem find?_update {p q : ρ → Bool} {f : ρ → ρ} : ∀ {t : List ρ},
    (∀ r ∈ t, p r = true → q r = false ∧ q (f r) = false) →
      (update p f t).find? q = t.find? q
  | [], _ => rfl
  | r :: t, h => by
    have ih := find?_update fun r' hr' => h r' (List.mem_cons_of_mem _ hr')
    by_cases hp : p r = true
    · obtain ⟨hq, hf⟩ := h r List.mem_cons_self hp
      simp only [update] at ih
      simp [update, hp, hq, hf, ih]
    · simp only [update] at ih
      simp [update, hp, List.find?_cons, ih]

/-! ## Putting a row -/

section Put

variable {κ : Type*} [DecidableEq κ] (key : ρ → κ)

/-- Replace the row that has the key of `row`. -/
def put (row : ρ) (t : List ρ) : List ρ :=
  update (fun r => key r = key row) (fun _ => row) t

variable {key}
variable {t : List ρ} {row : ρ}

/-- An update of one row puts its new value. -/
theorem update_eq_put (ht : (t.map key).Nodup) (hrow : row ∈ t) (hp : p row = true)
    (hkey : key (f row) = key row) (hone : ∀ r ∈ t, p r = true → key r = key row) :
    update p f t = put key (f row) t := by
  refine List.map_congr_left fun r hr => ?_
  by_cases hr' : key r = key row
  · obtain rfl := eq_of_key ht hr hrow hr'
    simp [hp, hkey]
  · have hp' : p r = false := by
      by_contra hp'
      exact hr' (hone r hr (by simpa using hp'))
    simp [hp', hkey, hr']

theorem map_put (row : ρ) (t : List ρ) : (put key row t).map key = t.map key := by
  simp only [put, update, List.map_map]
  refine List.map_congr_left fun r _ => ?_
  simp only [Function.comp_apply, decide_eq_true_eq]
  split_ifs with h
  · exact h.symm
  · rfl

theorem mem_put_self (hr : r ∈ t) (h : key r = key row) : row ∈ put key row t :=
  mem_update.2 ⟨r, hr, by simp [h]⟩

/-- The rows of the other keys stay. -/
theorem mem_put_of_ne (h : key r ≠ key row) : r ∈ put key row t ↔ r ∈ t := by
  simp only [put, mem_update, decide_eq_true_eq]
  constructor
  · rintro ⟨r₀, hr₀, heq⟩
    split_ifs at heq with h₀
    · exact absurd (heq ▸ rfl) h
    · exact heq ▸ hr₀
  · intro hr
    exact ⟨r, hr, if_neg h⟩

/-- Putting a row that is there changes nothing. -/
theorem put_self (ht : (t.map key).Nodup) (hrow : row ∈ t) : put key row t = t := by
  conv_rhs => rw [← List.map_id t]
  refine List.map_congr_left fun r hr => ?_
  by_cases h : key r = key row
  · simp [eq_of_key ht hr hrow h]
  · simp [h]

theorem put_put {row' : ρ} (h : key row = key row') (t : List ρ) :
    put key row' (put key row t) = put key row' t := by
  simp only [put, update, List.map_map]
  refine List.map_congr_left fun r _ => ?_
  by_cases hr : key r = key row'
  · simp [hr, h]
  · simp [hr, h]

variable (key) in
/-- `INSERT … ON CONFLICT(key) DO UPDATE`. -/
def upsert (row : ρ) (t : List ρ) : List ρ :=
  if t.any fun r => key r = key row then put key row t else t ++ [row]

theorem find?_put {row : ρ} : ∀ {t : List ρ}, (∃ r ∈ t, key r = key row) →
    (put key row t).find? (fun r => key r = key row) = some row
  | [], ⟨_, hr, _⟩ => by cases hr
  | a :: t, h => by
    by_cases ha : key a = key row
    · simp [put, update, ha]
    · have ht : ∃ r ∈ t, key r = key row := by
        obtain ⟨r, hr, hkey⟩ := h
        rcases List.mem_cons.1 hr with rfl | hr
        · exact absurd hkey ha
        · exact ⟨r, hr, hkey⟩
      have hcons : put key row (a :: t) = a :: put key row t := by
        simp [put, update, ha]
      rw [hcons, List.find?_cons_of_neg (by simpa using ha), find?_put ht]

@[simp] theorem find?_upsert (row : ρ) (t : List ρ) :
    (upsert key row t).find? (fun r => key r = key row) = some row := by
  unfold upsert
  split_ifs with h
  · refine find?_put ?_
    simpa using h
  · have hnone : t.find? (fun r => key r = key row) = none := by
      simpa using h
    simp [List.find?_append, hnone]

/-- The rows of the other keys are found as before. -/
theorem find?_upsert_of_ne {k : κ} (h : k ≠ key row) (t : List ρ) :
    (upsert key row t).find? (fun r => key r = k) = t.find? (fun r => key r = k) := by
  have hrow : key row ≠ k := fun heq => h heq.symm
  unfold upsert
  split_ifs
  · refine find?_update fun r _ hr => ?_
    have hr' : key r = key row := by simpa using hr
    simp [hr', hrow]
  · simp [List.find?_append, hrow]

theorem nodup_upsert (ht : (t.map key).Nodup) : ((upsert key row t).map key).Nodup := by
  unfold upsert
  split_ifs with h
  · rwa [map_put]
  · refine nodup_key_concat ht fun r hr heq => h ?_
    exact List.any_eq_true.2 ⟨r, hr, by simpa using heq.symm⟩

variable (key) in
/-- A dictionary that the rows are set in one after the other. -/
def collect (rows : List ρ) : List ρ :=
  rows.foldl (fun t row => upsert key row t) []

theorem collect_concat (rows : List ρ) (row : ρ) :
    collect key (rows ++ [row]) = upsert key row (collect key rows) := by
  rw [collect, collect, List.foldl_append, List.foldl_cons, List.foldl_nil]

theorem nodup_collect (rows : List ρ) : ((collect key rows).map key).Nodup := by
  induction rows using List.reverseRecOn with
  | nil => exact List.nodup_nil
  | append_singleton rows row ih =>
    rw [collect_concat]
    exact nodup_upsert ih

/-- The row that was set last is found. -/
theorem find?_collect (rows : List ρ) (k : κ) :
    (collect key rows).find? (fun r => key r = k) = rows.reverse.find? fun r => key r = k := by
  induction rows using List.reverseRecOn with
  | nil => rfl
  | append_singleton rows row ih =>
    rw [collect_concat, List.reverse_concat]
    by_cases hk : k = key row
    · subst hk
      rw [find?_upsert, List.find?_cons_of_pos (by simp)]
    · rw [find?_upsert_of_ne hk, ih, List.find?_cons_of_neg]
      simpa using fun heq => hk heq.symm

end Put

/-! ## Sums over rows -/

/-- A sum over the rows of a table, where every row of the first kind has its value among the
second. -/
theorem sum_filter_le {p q : ρ → Bool} {f g : ρ → ℕ} : ∀ {t : List ρ},
    (∀ r ∈ t, p r = true → (q r = true ∧ f r ≤ g r) ∨ f r = 0) →
      ((t.filter p).map f).sum ≤ ((t.filter q).map g).sum
  | [], _ => Nat.le_refl 0
  | r :: t, h => by
    have htail := sum_filter_le (t := t) fun r' hr' => h r' (List.mem_cons_of_mem r hr')
    have hhead := h r List.mem_cons_self
    rw [List.filter_cons, List.filter_cons]
    by_cases hp : p r = true
    · rw [if_pos hp, List.map_cons, List.sum_cons]
      rcases hhead hp with ⟨hq, hle⟩ | hzero
      · rw [if_pos hq, List.map_cons, List.sum_cons]
        omega
      · split_ifs
        · rw [List.map_cons, List.sum_cons]
          omega
        · omega
    · rw [if_neg hp]
      split_ifs
      · rw [List.map_cons, List.sum_cons]
        omega
      · exact htail

/-- An update that keeps the kind of a row and raises no value raises no sum. -/
theorem sum_update_le {p q : ρ → Bool} {f : ρ → ρ} {g : ρ → ℕ} : ∀ {t : List ρ},
    (∀ r ∈ t, p r = true → q (f r) = q r ∧ g (f r) ≤ g r) →
      (((update p f t).filter q).map g).sum ≤ ((t.filter q).map g).sum
  | [], _ => Nat.le_refl 0
  | r :: t, h => by
    have htail := sum_update_le (t := t) fun r' hr' => h r' (List.mem_cons_of_mem r hr')
    have hrow : q (if p r then f r else r) = q r ∧ g (if p r then f r else r) ≤ g r := by
      split_ifs with hp
      · exact h r List.mem_cons_self hp
      · exact ⟨rfl, Nat.le_refl _⟩
    have hcons : update p f (r :: t) = (if p r then f r else r) :: update p f t := rfl
    rw [hcons, List.filter_cons, List.filter_cons, hrow.1]
    by_cases hq : q r = true
    · rw [if_pos hq, if_pos hq, List.map_cons, List.map_cons, List.sum_cons, List.sum_cons]
      omega
    · rw [if_neg hq, if_neg hq]
      exact htail

/-! ## The latest row -/

/-- Where a column counts the rows from zero, the row with its greatest value is the last. -/
theorem argmax_eq_getLast? (f : ρ → ℕ) (t : List ρ) (h : t.map f = List.range t.length) :
    t.argmax f = t.getLast? := by
  induction t using List.reverseRecOn with
  | nil => rfl
  | append_singleton t a ih =>
    rw [List.map_append, List.map_singleton, List.length_append, List.length_singleton,
      List.range_succ] at h
    obtain ⟨hpre, hlast⟩ := List.append_inj' h rfl
    rw [List.argmax_concat, ih hpre, List.getLast?_concat]
    cases hl : t.getLast? with
    | none => rfl
    | some c =>
      have hc : f c < t.length := by
        have : f c ∈ List.range t.length := hpre ▸ List.mem_map_of_mem (List.mem_of_getLast? hl)
        exact List.mem_range.1 this
      have ha : f a = t.length := List.singleton_inj.1 hlast
      simp only [ha, if_pos hc]

/-! ## Order -/

section OrderBy

variable {κ : Type*} [LinearOrder κ] (key : ρ → κ)

/-- `ORDER BY key`. -/
def orderBy (t : List ρ) : List ρ :=
  t.insertionSort fun a b => key a ≤ key b

@[simp] theorem length_orderBy (t : List ρ) : (orderBy key t).length = t.length :=
  List.length_insertionSort _ _

variable {t : List ρ}

theorem mem_orderBy : r ∈ orderBy key t ↔ r ∈ t :=
  List.mem_insertionSort _

theorem perm_orderBy (t : List ρ) : (orderBy key t).Perm t :=
  List.perm_insertionSort _ _

theorem pairwise_le_orderBy (t : List ρ) :
    (orderBy key t).Pairwise fun a b => key a ≤ key b :=
  List.pairwise_insertionSort _ _

theorem orderBy_eq_self (h : t.Pairwise fun a b => key a ≤ key b) : orderBy key t = t :=
  h.insertionSort_eq

theorem orderBy_orderBy (t : List ρ) : orderBy key (orderBy key t) = orderBy key t :=
  orderBy_eq_self key (pairwise_le_orderBy key t)

/-- Rows are ordered by what a column of them is mapped to. -/
theorem map_orderBy {σ : Type*} {key' : σ → κ} {f : ρ → σ} (h : ∀ r ∈ t, key' (f r) = key r) :
    (orderBy key t).map f = orderBy key' (t.map f) :=
  List.map_insertionSort _ _ f t fun a ha b hb => by rw [h a ha, h b hb]

/-- Rows that their keys tell apart are ordered in one way. -/
theorem orderBy_eq_of_perm {t' : List ρ} (ht : t.Perm t')
    (h : ∀ a ∈ t, ∀ b ∈ t, key a = key b → a = b) : orderBy key t = orderBy key t' := by
  have hperm : (orderBy key t).Perm (orderBy key t') :=
    (perm_orderBy key t).trans (ht.trans (perm_orderBy key t').symm)
  refine hperm.eq_of_pairwise (fun a b ha hb hab hba => ?_) (pairwise_le_orderBy key t)
    (pairwise_le_orderBy key t')
  refine h a ((mem_orderBy key).1 ha) b ?_ (le_antisymm hab hba)
  exact ht.mem_iff.2 ((mem_orderBy key).1 hb)

/-- Rows of distinct keys are ordered strictly. -/
theorem pairwise_orderBy (ht : (t.map key).Nodup) :
    (orderBy key t).Pairwise fun a b => key a < key b := by
  have hle : (orderBy key t).Pairwise fun a b => key a ≤ key b := List.pairwise_insertionSort _ _
  have hne : (orderBy key t).Pairwise fun a b => key a ≠ key b := by
    rw [← List.pairwise_map (R := fun a b => a ≠ b)]
    exact ((List.perm_insertionSort _ _).map key).nodup_iff.2 ht
  exact (hle.and hne).imp fun h => lt_of_le_of_ne h.1 h.2

/-- `sorted(set(l))`. -/
def sortDistinct (l : List κ) : List κ :=
  orderBy id l.dedup

@[simp] theorem mem_sortDistinct {l : List κ} {k : κ} : k ∈ sortDistinct l ↔ k ∈ l := by
  rw [sortDistinct, mem_orderBy, List.mem_dedup]

theorem nodup_sortDistinct (l : List κ) : (sortDistinct l).Nodup :=
  (perm_orderBy id l.dedup).nodup_iff.2 l.nodup_dedup

theorem pairwise_sortDistinct (l : List κ) : (sortDistinct l).Pairwise (· < ·) :=
  pairwise_orderBy id (by rw [List.map_id]; exact l.nodup_dedup)

/-- Only the members matter to what is sorted without repetition. -/
theorem sortDistinct_congr {l l' : List κ} (h : ∀ k, k ∈ l ↔ k ∈ l') :
    sortDistinct l = sortDistinct l' :=
  orderBy_eq_of_perm id ((List.perm_ext_iff_of_nodup l.nodup_dedup l'.nodup_dedup).2 fun k => by
    rw [List.mem_dedup, List.mem_dedup, h]) fun _ _ _ _ hab => hab

theorem orderedInsert_concat_of_le {a row : ρ} (h : key a ≤ key row) : ∀ t : List ρ,
    (t ++ [row]).orderedInsert (fun a b => key a ≤ key b) a =
      t.orderedInsert (fun a b => key a ≤ key b) a ++ [row]
  | [] => by simp [h]
  | b :: t => by
    by_cases hab : key a ≤ key b
    · simp [hab]
    · simp [hab, orderedInsert_concat_of_le h t]

/-- A last row that no row exceeds stays last. -/
theorem orderBy_concat_of_le {row : ρ} : ∀ {t : List ρ}, (∀ r ∈ t, key r ≤ key row) →
    orderBy key (t ++ [row]) = orderBy key t ++ [row]
  | [], _ => rfl
  | a :: t, h => by
    have ih := orderBy_concat_of_le fun r hr => h r (List.mem_cons_of_mem _ hr)
    rw [orderBy] at ih ⊢
    rw [List.cons_append, List.insertionSort_cons, ih,
      orderedInsert_concat_of_le key (h a List.mem_cons_self)]
    rfl

/-- An inserted row is the last one unless it is at most one of the others. -/
theorem getLast?_orderedInsert (a : ρ) : ∀ (t : List ρ) [Decidable (∃ b ∈ t, key a ≤ key b)],
    (t.orderedInsert (fun a b => key a ≤ key b) a).getLast? =
      if ∃ b ∈ t, key a ≤ key b then t.getLast? else some a
  | [], _ => by simp
  | b :: t, _ => by
    rw [List.orderedInsert_cons]
    by_cases hab : key a ≤ key b
    · rw [if_pos hab, if_pos ⟨b, List.mem_cons_self, hab⟩, List.getLast?_cons_cons]
    · have ih := getLast?_orderedInsert a t
      have hiff : (∃ c ∈ b :: t, key a ≤ key c) ↔ ∃ c ∈ t, key a ≤ key c := by
        simp [hab]
      rw [if_neg hab, List.getLast?_cons, ih]
      simp only [hiff]
      split_ifs
      · rw [List.getLast?_cons]
      · rfl

/-- A new row that some row exceeds does not become the last one. -/
theorem getLast?_orderBy_concat_of_lt {row : ρ} : ∀ {t : List ρ}, (∃ r ∈ t, key row < key r) →
    (orderBy key (t ++ [row])).getLast? = (orderBy key t).getLast?
  | [], h => by simp at h
  | a :: t, h => by
    have hmem : ∀ b, b ∈ orderBy key (t ++ [row]) ↔ b ∈ t ∨ b = row := by
      intro b
      rw [mem_orderBy, List.mem_append, List.mem_singleton]
    have hinsert : ∀ t' : List ρ, orderBy key (a :: t') =
      (orderBy key t').orderedInsert (fun a b => key a ≤ key b) a := fun _ => rfl
    rw [List.cons_append, hinsert, hinsert, getLast?_orderedInsert, getLast?_orderedInsert]
    by_cases hrow : ∃ r ∈ t, key row < key r
    · rw [getLast?_orderBy_concat_of_lt hrow]
      -- whoever is at most the new row is at most the row that exceeds it
      have hiff : (∃ b ∈ orderBy key (t ++ [row]), key a ≤ key b) ↔
          ∃ b ∈ orderBy key t, key a ≤ key b := by
        constructor
        · rintro ⟨b, hb, hab⟩
          rcases (hmem b).1 hb with hb | rfl
          · exact ⟨b, (mem_orderBy key).2 hb, hab⟩
          · obtain ⟨r, hr, hlt⟩ := hrow
            exact ⟨r, (mem_orderBy key).2 hr, hab.trans hlt.le⟩
        · rintro ⟨b, hb, hab⟩
          exact ⟨b, (hmem b).2 (Or.inl ((mem_orderBy key).1 hb)), hab⟩
      simp only [hiff]
    · -- no row of `t` exceeds the new one, so `a` exceeds all of them
      have hlt : key row < key a := by
        obtain ⟨r, hr, hlt⟩ := h
        rcases List.mem_cons.1 hr with rfl | hr
        · exact hlt
        · exact absurd ⟨r, hr, hlt⟩ hrow
      have hle : ∀ b ∈ t, ¬key a ≤ key b := by
        intro b hb hab
        exact hrow ⟨b, hb, hlt.trans_le hab⟩
      rw [if_neg, if_neg]
      · rintro ⟨b, hb, hab⟩
        exact hle b ((mem_orderBy key).1 hb) hab
      · rintro ⟨b, hb, hab⟩
        rcases (hmem b).1 hb with hb | rfl
        · exact hle b hb hab
        · exact absurd hab (not_le.2 hlt)

end OrderBy

/-! ## Patches -/

section Patches

variable {κ ν : Type*} [DecidableEq κ]

/-- A dictionary after some updates, an update to `none` being a removal. -/
def patch (updates : List (κ × Option ν)) (parts : κ → Option ν) : κ → Option ν :=
  updates.foldl (fun parts update => Function.update parts update.1 update.2) parts

/-- Updates to what another dictionary has, wherever the two differ, make the other one. -/
theorem patch_eq {after : κ → Option ν} : ∀ {updates : List (κ × Option ν)}
    {before : κ → Option ν}, (∀ update ∈ updates, update.2 = after update.1) →
      (∀ k, before k ≠ after k → k ∈ updates.map Prod.fst) → patch updates before = after
  | [], before, _, hcover => by
    funext k
    by_contra hne
    exact List.not_mem_nil (hcover k hne)
  | update :: updates, before, hupdates, hcover => by
    rw [patch, List.foldl_cons]
    refine patch_eq (fun later hlater => hupdates later (List.mem_cons_of_mem _ hlater)) ?_
    intro k hne
    have hk : k ≠ update.1 := by
      rintro rfl
      rw [Function.update_self] at hne
      exact hne (hupdates update List.mem_cons_self)
    rw [Function.update_of_ne hk] at hne
    exact (List.mem_cons.1 (hcover k hne)).resolve_left hk

end Patches

end Table

import Mathlib.Data.Int.Log
import Mathlib.Data.Rat.Floor

/-!
# Rounding to a double

`toDouble` rounds a positive rational to 53 binary digits, to nearest and ties to even, in the
range where an exponent has no bound. It is off by half a unit in the last place at most
(`abs_toDouble_sub_le`), and below `2 ^ 53` it does not pass an integer (`natCast_le_toDouble`).
-/

namespace Doubles

/-- The nearest integer, and of two the even one. -/
def roundHalfEven (x : ℚ) : ℤ :=
  if Int.fract x < 1 / 2 then ⌊x⌋
  else if 1 / 2 < Int.fract x then ⌊x⌋ + 1
  else if ⌊x⌋ % 2 = 0 then ⌊x⌋ else ⌊x⌋ + 1

theorem floor_le_roundHalfEven (x : ℚ) : ⌊x⌋ ≤ roundHalfEven x := by
  unfold roundHalfEven
  split_ifs <;> omega

/-- Rounding does not pass an integer. -/
theorem le_roundHalfEven {n : ℤ} {x : ℚ} (h : (n : ℚ) ≤ x) : n ≤ roundHalfEven x :=
  (Int.le_floor.mpr h).trans (floor_le_roundHalfEven x)

theorem abs_roundHalfEven_sub_le (x : ℚ) : |(roundHalfEven x : ℚ) - x| ≤ 1 / 2 := by
  have hx := Int.floor_add_fract x
  have hpos := Int.fract_nonneg x
  have hlt := Int.fract_lt_one x
  rw [abs_le]
  unfold roundHalfEven
  split_ifs with h₁ h₂ h₃ <;> push_cast <;> constructor <;> linarith

/-- The unit in the last place of a double near `q`. -/
def ulp (q : ℚ) : ℚ :=
  2 ^ (Int.log 2 q - 52)

/-- The double nearest to `q`. -/
def toDouble (q : ℚ) : ℚ :=
  roundHalfEven (q / ulp q) * ulp q

variable {q : ℚ}

theorem ulp_pos (q : ℚ) : 0 < ulp q :=
  zpow_pos (by norm_num) _

theorem abs_toDouble_sub_le (q : ℚ) : |toDouble q - q| ≤ ulp q / 2 := by
  have hulp := ulp_pos q
  have hsplit : toDouble q - q = (roundHalfEven (q / ulp q) - q / ulp q) * ulp q := by
    rw [sub_mul, div_mul_cancel₀ _ hulp.ne', toDouble]
  rw [hsplit, abs_mul, abs_of_pos hulp]
  have hmul := mul_le_mul_of_nonneg_right (abs_roundHalfEven_sub_le (q / ulp q)) hulp.le
  linarith

theorem ulp_mul_le (hq : 0 < q) : ulp q * 2 ^ 52 ≤ q := by
  have hlog : (2 : ℚ) ^ Int.log 2 q ≤ q := by
    simpa using Int.zpow_log_le_self (b := 2) one_lt_two hq
  have hsplit : ulp q * 2 ^ 52 = (2 : ℚ) ^ Int.log 2 q := by
    rw [ulp, ← zpow_natCast, ← zpow_add₀ two_ne_zero]
    congr 1
    omega
  rw [hsplit]
  exact hlog

/-- A double is more than half of what it stands for. -/
theorem half_le_toDouble (hq : 0 < q) : q / 2 ≤ toDouble q := by
  have herror := (abs_le.mp (abs_toDouble_sub_le q)).1
  have hulp := ulp_mul_le hq
  have hpos := ulp_pos q
  linarith

theorem log_lt {n : ℕ} (hq : 0 < q) (h : q < 2 ^ n) : Int.log 2 q < n := by
  have hlog : (2 : ℚ) ^ Int.log 2 q ≤ q := by
    simpa using Int.zpow_log_le_self (b := 2) one_lt_two hq
  have hlt : (2 : ℚ) ^ Int.log 2 q < 2 ^ (n : ℤ) := by
    rw [zpow_natCast]
    exact hlog.trans_lt h
  exact (zpow_lt_zpow_iff_right₀ one_lt_two).mp hlt

/-- Below `2 ^ n` the unit in the last place is at most `2 ^ (n - 53)`. -/
theorem ulp_le {n : ℕ} (hq : 0 < q) (h : q < 2 ^ n) : ulp q ≤ 2 ^ ((n : ℤ) - 53) := by
  refine zpow_le_zpow_right₀ one_le_two ?_
  have := log_lt hq h
  omega

/-- Below `2 ^ 53` an integer is a multiple of the unit in the last place. -/
theorem exists_mul_ulp (hq : 0 < q) (h : q < 2 ^ 53) (n : ℕ) :
    ∃ k : ℤ, (n : ℚ) = k * ulp q := by
  have hlog := log_lt hq h
  obtain ⟨d, hd⟩ := Int.eq_ofNat_of_zero_le (show 0 ≤ 52 - Int.log 2 q by omega)
  refine ⟨n * 2 ^ d, ?_⟩
  have hexp : Int.log 2 q - 52 = -(d : ℤ) := by omega
  rw [ulp, hexp, zpow_neg, zpow_natCast]
  push_cast
  rw [mul_assoc, mul_inv_cancel₀ (pow_ne_zero d two_ne_zero), mul_one]

/-- Below `2 ^ 53`, rounding does not pass an integer. -/
theorem natCast_le_toDouble {n : ℕ} (hq : 0 < q) (h : q < 2 ^ 53) (hn : (n : ℚ) ≤ q) :
    (n : ℚ) ≤ toDouble q := by
  obtain ⟨k, hk⟩ := exists_mul_ulp hq h n
  have hulp := ulp_pos q
  rw [hk] at hn ⊢
  refine mul_le_mul_of_nonneg_right ?_ hulp.le
  exact_mod_cast le_roundHalfEven ((le_div_iff₀ hulp).mpr hn)

end Doubles

import Mathlib.Data.Int.Log
import Mathlib.Data.Rat.Floor
import Mathlib.Tactic.FieldSimp
import Mathlib.Tactic.Positivity

/-!
# Rounding to 64-bit floats

A float is the rational number it stands for; `nearest` is what an operation makes of its exact
result, to the nearest with ties to even. Results that overflow are left out.

`nearest_intCast`: integers below 2 ^ 53 are floats.
-/

namespace Lib.Float64

/-- The distance of two floats next to each other, around a number. -/
def ulp (x : ℚ) : ℚ := 2 ^ max (Int.log 2 |x| - 52) (-1074)

/-- The nearest integer, the even one of two. -/
def roundEven (x : ℚ) : ℤ :=
  if 2 * Int.fract x < 1 ∨ (2 * Int.fract x = 1 ∧ Even ⌊x⌋) then ⌊x⌋ else ⌊x⌋ + 1

/-- The nearest float. -/
def nearest (x : ℚ) : ℚ := roundEven (x / ulp x) * ulp x

/-- The conversion to an integer, toward zero. -/
def truncate (x : ℚ) : ℤ := if 0 ≤ x then ⌊x⌋ else ⌈x⌉

lemma ulp_pos (x : ℚ) : 0 < ulp x := zpow_pos (by norm_num) _

lemma roundEven_intCast (n : ℤ) : roundEven n = n := by
  simp [roundEven]

lemma truncate_intCast (n : ℤ) : truncate n = n := by
  simp [truncate]

lemma exists_mul_ulp {n : ℤ} (h : |n| < 2 ^ 53) : ∃ m : ℤ, (n : ℚ) = m * ulp n := by
  by_cases hzero : n = 0
  · exact ⟨0, by simp [hzero]⟩
  have hlog : Int.log 2 |(n : ℚ)| < 53 := by
    rw [← Int.lt_zpow_iff_log_lt (by norm_num) (by positivity)]
    exact_mod_cast h
  have hmax : max (Int.log 2 |(n : ℚ)| - 52) (-1074) ≤ 0 := by
    rw [max_le_iff]
    constructor <;> omega
  obtain ⟨k, hk⟩ := Int.eq_ofNat_of_zero_le (neg_nonneg.mpr hmax)
  refine ⟨n * 2 ^ k, ?_⟩
  have hulp : ulp n = ((2 : ℚ) ^ k)⁻¹ := by
    rw [ulp, ← neg_neg (max _ _), hk, zpow_neg]
    rfl
  rw [hulp]
  push_cast
  field_simp

lemma nearest_intCast {n : ℤ} (h : |n| < 2 ^ 53) : nearest n = n := by
  obtain ⟨m, hm⟩ := exists_mul_ulp h
  have hdiv : (n : ℚ) / ulp n = m := by
    rw [div_eq_iff (ulp_pos n).ne']
    exact hm
  rw [nearest, hdiv, roundEven_intCast]
  exact hm.symm

/-! ## How far off a float is -/

lemma abs_roundEven_sub_le (y : ℚ) : |roundEven y - y| ≤ 1 := by
  have hfloor := Int.floor_le y
  have hlt := Int.lt_floor_add_one y
  rw [abs_le]
  unfold roundEven
  split
  · constructor <;> linarith
  · push_cast
    constructor <;> linarith

lemma abs_nearest_sub_le_ulp (x : ℚ) : |nearest x - x| ≤ ulp x := by
  have hpos := ulp_pos x
  have hdiff : nearest x - x = (roundEven (x / ulp x) - x / ulp x) * ulp x := by
    rw [nearest, sub_mul, div_mul_cancel₀ x hpos.ne']
  rw [hdiff, abs_mul, abs_of_pos hpos]
  exact mul_le_of_le_one_left hpos.le (abs_roundEven_sub_le _)

lemma abs_nearest_sub_le (x : ℚ) : |nearest x - x| ≤ (|x| + 1) / 2 ^ 52 := by
  refine (abs_nearest_sub_le_ulp x).trans ?_
  have hsplit : (|x| + 1) / 2 ^ 52 = |x| * 2 ^ (-52 : ℤ) + 2 ^ (-52 : ℤ) := by
    norm_num
    ring
  rw [hsplit]
  have hpos : (0 : ℚ) < 2 ^ (-52 : ℤ) := zpow_pos (by norm_num) _
  rcases le_total (Int.log 2 |x| - 52) (-1074) with hsmall | hlarge
  · rw [ulp, max_eq_right hsmall]
    have htiny : (2 : ℚ) ^ (-1074 : ℤ) ≤ 2 ^ (-52 : ℤ) :=
      zpow_le_zpow_right₀ (by norm_num) (by norm_num)
    exact htiny.trans (le_add_of_nonneg_left (by positivity))
  · by_cases hx : x = 0
    · norm_num [hx, ulp]
    rw [ulp, max_eq_left hlarge, sub_eq_add_neg, zpow_add₀ (by norm_num)]
    have hlog : (2 : ℚ) ^ Int.log 2 |x| ≤ |x| := Int.zpow_log_le_self (by norm_num) (abs_pos.mpr hx)
    exact (mul_le_mul_of_nonneg_right hlog hpos.le).trans (le_add_of_nonneg_right hpos.le)

lemma eq_of_nearest_div_eq {m n d : ℤ} (hd : 0 < d) (hm : |m| + d < 2 ^ 50)
    (h : nearest (m / d) = nearest (n / d)) : m = n := by
  by_contra hne
  have hpos : (0 : ℚ) < d := by exact_mod_cast hd
  have hm : |(m : ℚ)| + d < 2 ^ 50 := by exact_mod_cast hm
  have hapart : 1 ≤ |(m : ℚ) - n| := by exact_mod_cast Int.one_le_abs (sub_ne_zero.mpr hne)
  have hleft := abs_nearest_sub_le (m / d)
  have hright := abs_nearest_sub_le (n / d)
  rw [h, abs_sub_comm] at hleft
  have htriangle := abs_sub_le ((m : ℚ) / d) (nearest (n / d)) (n / d)
  rw [← sub_div, abs_div, abs_of_pos hpos, div_le_iff₀ hpos] at htriangle
  rw [abs_div, abs_of_pos hpos, le_div_iff₀ (by positivity)] at hleft hright
  have hsum : |(m : ℚ) - n| * 2 ^ 52 ≤ |(m : ℚ)| + |(n : ℚ)| + 2 * d := by
    have hmd : |(m : ℚ)| / d * d = |(m : ℚ)| := div_mul_cancel₀ _ hpos.ne'
    have hnd : |(n : ℚ)| / d * d = |(n : ℚ)| := div_mul_cancel₀ _ hpos.ne'
    nlinarith
  have hfar : |(n : ℚ)| ≤ |(m : ℚ)| + |(m : ℚ) - n| := by
    have hle := abs_sub_abs_le_abs_sub (n : ℚ) m
    rw [abs_sub_comm] at hle
    linarith
  linarith

lemma ulp_le (x : ℚ) : ulp x ≤ |x| + 1 / 4 := by
  have hmono {m n : ℤ} (h : m ≤ n) : (2 : ℚ) ^ m ≤ 2 ^ n := zpow_le_zpow_right₀ (by norm_num) h
  have htiny : (2 : ℚ) ^ (-2 : ℤ) = 1 / 4 := by norm_num
  by_cases hx : x = 0
  · have hexp : max (Int.log 2 |x| - 52) (-1074) ≤ -2 := by simp [hx]
    have hle := hmono hexp
    rw [htiny] at hle
    exact hle.trans (le_add_of_nonneg_left (abs_nonneg x))
  · have hlog : (2 : ℚ) ^ Int.log 2 |x| ≤ |x| := Int.zpow_log_le_self (by norm_num) (abs_pos.mpr hx)
    rcases le_total (Int.log 2 |x| - 52) (-2) with hsmall | hlarge
    · have hle := hmono (show max (Int.log 2 |x| - 52) (-1074) ≤ -2 by omega)
      rw [htiny] at hle
      exact hle.trans (le_add_of_nonneg_left (abs_nonneg x))
    · have hle := hmono (show max (Int.log 2 |x| - 52) (-1074) ≤ Int.log 2 |x| by omega)
      exact (hle.trans hlog).trans (le_add_of_nonneg_right (by norm_num))

lemma abs_nearest_le (x : ℚ) : |nearest x| ≤ 2 * |x| + 1 / 4 := by
  have hclose := abs_nearest_sub_le_ulp x
  have hulp := ulp_le x
  have htriangle := abs_sub_abs_le_abs_sub (nearest x) x
  linarith

lemma abs_truncate_le (x : ℚ) : |(truncate x : ℚ)| ≤ |x| := by
  unfold truncate
  split
  · rename_i hx
    rw [abs_of_nonneg hx, abs_of_nonneg (by exact_mod_cast Int.floor_nonneg.mpr hx)]
    exact Int.floor_le x
  · rename_i hx
    have hx := (not_le.mp hx).le
    rw [abs_of_nonpos hx, abs_of_nonpos (by exact_mod_cast Int.ceil_le.mpr (by simpa using hx))]
    exact neg_le_neg (Int.le_ceil x)

/-! ## Durations in units -/

/-- A number of nanoseconds as a float in a unit of so many nanoseconds: the whole units and the
nanoseconds left are converted one by one. -/
def inUnits (unit d : ℤ) : ℚ :=
  nearest (nearest (d.tdiv unit) + nearest (nearest (d.tmod unit) / unit))

lemma inUnits_mul {unit n : ℤ} (hunit : unit ≠ 0) (hn : |n| < 2 ^ 53) :
    inUnits unit (unit * n) = n := by
  have hzero : nearest ((0 : ℤ) : ℚ) = ((0 : ℤ) : ℚ) := nearest_intCast (by norm_num)
  rw [Int.cast_zero] at hzero
  rw [inUnits, Int.mul_tdiv_cancel_left _ hunit, Int.mul_tmod_right, nearest_intCast hn,
    Int.cast_zero, hzero, zero_div, hzero, add_zero, nearest_intCast hn]

lemma abs_inUnits_le {unit : ℤ} (hunit : 0 < unit) (d : ℤ) :
    |inUnits unit d| ≤
      2 * (|nearest (d.tdiv unit)| + (4 * |(d : ℚ)| + 1 / 2) / unit + 1 / 4) + 1 / 4 := by
  have hpos : (0 : ℚ) < unit := by exact_mod_cast hunit
  have hmod : |(d.tmod unit : ℚ)| ≤ |(d : ℚ)| := by
    have habs : |d.tmod unit| ≤ |d| := by
      rw [Int.abs_eq_natAbs, Int.abs_eq_natAbs, Int.natAbs_tmod]
      exact_mod_cast Nat.mod_le _ _
    exact_mod_cast habs
  have hdiv : |nearest (d.tmod unit) / unit| ≤ (2 * |(d : ℚ)| + 1 / 4) / unit := by
    rw [abs_div, abs_of_pos hpos]
    apply div_le_div_of_nonneg_right _ hpos.le
    linarith [abs_nearest_le (d.tmod unit)]
  have hleft := abs_nearest_le (nearest (d.tmod unit) / unit)
  have hsum := abs_add_le (nearest (d.tdiv unit)) (nearest (nearest (d.tmod unit) / unit))
  have hall := abs_nearest_le (nearest (d.tdiv unit) + nearest (nearest (d.tmod unit) / unit))
  have hhalf : (4 * |(d : ℚ)| + 1 / 2) / unit = 2 * ((2 * |(d : ℚ)| + 1 / 4) / unit) := by ring
  rw [inUnits, hhalf]
  linarith

end Lib.Float64

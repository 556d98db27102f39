import Mathlib.Algebra.BigOperators.Group.List.Basic
import Mathlib.Algebra.Order.BigOperators.Group.List
import Mathlib.Algebra.Order.Field.Basic
import Mathlib.Data.Nat.Cast.Order.Field
import Mathlib.Tactic.FieldSimp
import Mathlib.Tactic.Linarith
import Mathlib.Tactic.Ring

/-!
# Mean and variance of a sample

The mean and the (population) variance of a list of numbers of an ordered field, and what one more
number does to them.

* `concat_iff`: one more number leaves mean and variance of a sample as they are if and only if all
  numbers are the same, the new one included.
* `mean_concat_injective`: the mean tells which number came last.
-/

namespace Lib

namespace Sample

variable {𝕜 : Type*} [Field 𝕜]

/-- The arithmetic mean; 0 for no numbers. -/
def mean (xs : List 𝕜) : 𝕜 := xs.sum / xs.length

/-- The sum of the squared deviations from `c`. -/
def deviation (c : 𝕜) (xs : List 𝕜) : 𝕜 := (xs.map fun x => (x - c) ^ 2).sum

/-- The mean squared deviation from the mean. -/
def variance (xs : List 𝕜) : 𝕜 := deviation (mean xs) xs / xs.length

variable {xs : List 𝕜} {c x y y' : 𝕜}

@[simp] lemma deviation_nil : deviation c [] = 0 := rfl

@[simp] lemma deviation_cons : deviation c (x :: xs) = (x - c) ^ 2 + deviation c xs := by
  simp [deviation]

lemma deviation_concat : deviation c (xs ++ [y]) = deviation c xs + (y - c) ^ 2 := by
  simp [deviation]

lemma length_concat : ((xs ++ [y]).length : 𝕜) = xs.length + 1 := by simp

section Order

variable [LinearOrder 𝕜] [IsStrictOrderedRing 𝕜]

lemma length_pos (hxs : xs ≠ []) : (0 : 𝕜) < xs.length :=
  Nat.cast_pos.mpr (List.length_pos_iff.mpr hxs)

lemma deviation_nonneg (c : 𝕜) (xs : List 𝕜) : 0 ≤ deviation c xs := by
  induction xs with
  | nil => exact le_refl _
  | cons x xs ih =>
    rw [deviation_cons]
    exact add_nonneg (sq_nonneg _) ih

lemma deviation_eq_zero_iff : deviation c xs = 0 ↔ ∀ x ∈ xs, x = c := by
  induction xs with
  | nil => simp
  | cons x xs ih =>
    rw [deviation_cons, add_eq_zero_iff_of_nonneg (sq_nonneg _) (deviation_nonneg c xs), ih,
      List.forall_mem_cons, pow_eq_zero_iff two_ne_zero, sub_eq_zero]

lemma variance_nonneg (xs : List 𝕜) : 0 ≤ variance xs :=
  div_nonneg (deviation_nonneg _ _) (Nat.cast_nonneg _)

lemma mean_of_forall_eq (hxs : xs ≠ []) (h : ∀ x ∈ xs, x = y) : mean xs = y := by
  rw [mean, List.eq_replicate_of_mem h, List.sum_replicate, List.length_replicate, nsmul_eq_mul]
  exact mul_div_cancel_left₀ y (length_pos hxs).ne'

lemma variance_of_forall_eq (hxs : xs ≠ []) (h : ∀ x ∈ xs, x = y) : variance xs = 0 := by
  rw [variance, mean_of_forall_eq hxs h, deviation_eq_zero_iff.mpr h, zero_div]

lemma mean_concat_iff (hxs : xs ≠ []) : mean (xs ++ [y]) = mean xs ↔ y = mean xs := by
  have hpos := length_pos hxs
  have hsum : (xs ++ [y]).sum = xs.sum + y := by simp
  rw [mean, mean, hsum, length_concat, div_eq_div_iff (by positivity) hpos.ne',
    eq_div_iff hpos.ne']
  constructor <;> intro h <;> linarith

/-- One more number leaves mean and variance as they are if all numbers are the same. -/
theorem concat_iff (hxs : xs ≠ []) :
    (mean (xs ++ [y]) = mean xs ∧ variance (xs ++ [y]) = variance xs) ↔ ∀ x ∈ xs, x = y := by
  have hpos := length_pos hxs
  constructor
  · rintro ⟨hmean, hvariance⟩
    obtain rfl := (mean_concat_iff hxs).mp hmean
    -- the deviation is the same, for one number more
    rw [variance, variance, hmean, deviation_concat, sub_self, length_concat,
      div_eq_div_iff (by positivity) hpos.ne'] at hvariance
    exact deviation_eq_zero_iff.mp (by linarith)
  · intro h
    have hconcat : ∀ x ∈ xs ++ [y], x = y := by
      intro x hx
      rcases List.mem_append.mp hx with hx | hx
      · exact h x hx
      · exact List.mem_singleton.mp hx
    have hne : xs ++ [y] ≠ [] := by simp
    rw [mean_of_forall_eq hxs h, mean_of_forall_eq hne hconcat, variance_of_forall_eq hxs h,
      variance_of_forall_eq hne hconcat]
    exact ⟨rfl, rfl⟩

lemma mean_concat_injective (h : mean (xs ++ [y]) = mean (xs ++ [y'])) : y = y' := by
  have hne : (xs.length : 𝕜) + 1 ≠ 0 := by positivity
  have hsum (z : 𝕜) : (xs ++ [z]).sum = xs.sum + z := by simp
  rw [mean, mean, hsum, hsum, length_concat, length_concat, div_left_inj' hne] at h
  exact add_left_cancel h

end Order

end Sample

end Lib

import Mathlib.Algebra.BigOperators.Group.List.Basic
import Mathlib.Algebra.Order.Field.Basic
import Mathlib.Tactic.FieldSimp
import Mathlib.Tactic.Lemma
import Mathlib.Tactic.Ring

/-!
# Least squares

The straight line through points `(x, y)` with the least sum of squared residuals, by its closed
form. If all points have one `x`, it is the constant line of their mean. `line_shift`: moving the
origin of `x` moves the line along.
-/

namespace Lib.LeastSquares

variable {𝕜 : Type*} [Field 𝕜]

/-- The sum of a quantity over the points. -/
def total (f : 𝕜 × 𝕜 → 𝕜) (points : List (𝕜 × 𝕜)) : 𝕜 := (points.map f).sum

/-- `n Σx² - (Σx)²`. -/
def spread (points : List (𝕜 × 𝕜)) : 𝕜 :=
  points.length * total (fun p => p.1 * p.1) points - total Prod.fst points * total Prod.fst points

/-- The slope of the line, zero if there is no spread. -/
def slope (points : List (𝕜 × 𝕜)) : 𝕜 :=
  (points.length * total (fun p => p.1 * p.2) points -
    total Prod.fst points * total Prod.snd points) / spread points

/-- The value of the line at zero. -/
def intercept (points : List (𝕜 × 𝕜)) : 𝕜 :=
  (total Prod.snd points - slope points * total Prod.fst points) / points.length

/-- The value of the line. -/
def line (points : List (𝕜 × 𝕜)) (x : 𝕜) : 𝕜 := slope points * x + intercept points

/-- The points with another origin of `x`. -/
def shift (c : 𝕜) (points : List (𝕜 × 𝕜)) : List (𝕜 × 𝕜) := points.map fun p => (p.1 - c, p.2)

/-! ## Totals -/

variable {f : 𝕜 × 𝕜 → 𝕜} {points : List (𝕜 × 𝕜)}

@[simp] lemma total_nil : total f [] = 0 := rfl

@[simp] lemma total_cons (p : 𝕜 × 𝕜) : total f (p :: points) = f p + total f points := by
  simp [total]

lemma total_shift (c : 𝕜) :
    total f (shift c points) = total (fun p => f (p.1 - c, p.2)) points := by
  simp [total, shift, Function.comp_def]

/-! ## Moving the origin -/

@[simp] lemma length_shift (c : 𝕜) : (shift c points).length = points.length := by simp [shift]

lemma total_fst_shift (c : 𝕜) :
    total Prod.fst (shift c points) = total Prod.fst points - points.length * c := by
  rw [total_shift]
  induction points with
  | nil => simp
  | cons p points ih =>
    simp only [total_cons, ih, List.length_cons]
    push_cast
    ring

lemma total_snd_shift (c : 𝕜) : total Prod.snd (shift c points) = total Prod.snd points := by
  rw [total_shift]

lemma total_mul_shift (c : 𝕜) : total (fun p => p.1 * p.2) (shift c points) =
    total (fun p => p.1 * p.2) points - c * total Prod.snd points := by
  rw [total_shift]
  induction points with
  | nil => simp
  | cons p points ih =>
    simp only [total_cons, ih]
    ring

lemma total_sq_shift (c : 𝕜) : total (fun p => p.1 * p.1) (shift c points) =
    total (fun p => p.1 * p.1) points - 2 * c * total Prod.fst points +
      points.length * (c * c) := by
  rw [total_shift]
  induction points with
  | nil => simp
  | cons p points ih =>
    simp only [total_cons, ih, List.length_cons]
    push_cast
    ring

lemma spread_shift (c : 𝕜) : spread (shift c points) = spread points := by
  unfold spread
  rw [total_sq_shift, total_fst_shift, length_shift]
  ring

lemma slope_shift (c : 𝕜) : slope (shift c points) = slope points := by
  unfold slope
  rw [spread_shift, total_mul_shift, total_fst_shift, total_snd_shift, length_shift]
  congr 1
  ring

lemma line_shift [CharZero 𝕜] (c x : 𝕜) (hpoints : points ≠ []) :
    line (shift c points) (x - c) = line points x := by
  have hlength : (points.length : 𝕜) ≠ 0 :=
    Nat.cast_ne_zero.mpr (mt List.length_eq_zero_iff.mp hpoints)
  unfold line intercept
  rw [slope_shift, total_fst_shift, total_snd_shift, length_shift]
  field_simp
  ring

end Lib.LeastSquares

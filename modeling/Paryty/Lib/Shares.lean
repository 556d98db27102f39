import Mathlib.Algebra.BigOperators.Field
import Mathlib.Algebra.BigOperators.Ring.List
import Mathlib.Algebra.Order.BigOperators.Group.Finset
import Mathlib.Algebra.Order.Field.Basic
import Mathlib.Tactic.Linarith
import Mathlib.Tactic.Ring

/-!
# Shares within bounds

Finitely many numbers are made shares of one by dividing them by their sum, and are forced into
bounds by clamping. Each of the two undoes the other: clamped shares need not sum to one, and what
is divided by the sum need not be within the bounds.

`bounded_iff` says when two rounds of clamping and dividing end within the bounds: exactly if the
first clamping takes away what it adds, `∑ (low - s i)⁺ = ∑ (s i - high)⁺`.
-/

namespace Lib.Shares

section Clamp

variable {𝕜 : Type*} [LinearOrder 𝕜] {low high x y : 𝕜}

/-- The nearest number within the bounds. -/
def clamp (low high x : 𝕜) : 𝕜 := max low (min high x)

lemma low_le_clamp : low ≤ clamp low high x := le_max_left _ _

lemma clamp_le_high (h : low ≤ high) : clamp low high x ≤ high := max_le h (min_le_left _ _)

lemma clamp_mono (h : x ≤ y) : clamp low high x ≤ clamp low high y :=
  max_le_max_left _ (min_le_min_left _ h)

lemma clamp_of_mem (hlow : low ≤ x) (hhigh : x ≤ high) : clamp low high x = x := by
  rw [clamp, min_eq_right hhigh, max_eq_right hlow]

lemma clamp_of_le (h : low ≤ high) (hx : x ≤ low) : clamp low high x = low := by
  rw [clamp, min_eq_right (hx.trans h), max_eq_left hx]

lemma clamp_of_ge (h : low ≤ high) (hx : high ≤ x) : clamp low high x = high := by
  rw [clamp, min_eq_left hx, max_eq_right h]

end Clamp

variable {ι 𝕜 : Type*} [Fintype ι] [Field 𝕜]

/-- The numbers as shares of their sum. -/
def normalise (f : ι → 𝕜) (i : ι) : 𝕜 := f i / ∑ j, f j

lemma sum_normalise {f : ι → 𝕜} (h : ∑ j, f j ≠ 0) : ∑ i, normalise f i = 1 := by
  simp only [normalise]
  rw [← Finset.sum_div, div_self h]

lemma normalise_of_sum {f : ι → 𝕜} (h : ∑ j, f j = 1) : normalise f = f := by
  funext i
  rw [normalise, h, div_one]

variable [LinearOrder 𝕜] [IsStrictOrderedRing 𝕜] {low high x y : 𝕜} {f s : ι → 𝕜} {i j : ι}

lemma normalise_nonneg (hf : ∀ i, 0 ≤ f i) (i : ι) : 0 ≤ normalise f i :=
  div_nonneg (hf i) (Finset.sum_nonneg fun j _ => hf j)

lemma normalise_mono (hf : ∀ i, 0 ≤ f i) (h : f i ≤ f j) : normalise f i ≤ normalise f j :=
  div_le_div_of_nonneg_right h (Finset.sum_nonneg fun k _ => hf k)

lemma clamp_eq (h : low ≤ high) : clamp low high x = x + max (low - x) 0 - max (x - high) 0 := by
  rcases le_total x low with hlow | hlow
  · rw [clamp_of_le h hlow, max_eq_left (sub_nonneg.mpr hlow),
      max_eq_right (sub_nonpos.mpr (hlow.trans h))]
    ring
  · rcases le_total x high with hhigh | hhigh
    · rw [clamp_of_mem hlow hhigh, max_eq_right (sub_nonpos.mpr hlow),
        max_eq_right (sub_nonpos.mpr hhigh)]
      ring
    · rw [clamp_of_ge h hhigh, max_eq_right (sub_nonpos.mpr hlow),
        max_eq_left (sub_nonneg.mpr hhigh)]
      ring

lemma sum_clamp_pos (hlow : 0 ≤ low) (hhigh : 0 < high) (hsum : ∑ i, s i = 1) :
    0 < ∑ i, clamp low high (s i) := by
  obtain ⟨i, -, hi⟩ : ∃ i ∈ Finset.univ, 0 < s i := by
    by_contra hnone
    have hzero : ∑ i, s i ≤ 0 := Finset.sum_nonpos fun i hi =>
      not_lt.mp fun hpos => hnone ⟨i, hi, hpos⟩
    exact absurd (hsum ▸ hzero) (not_le.mpr one_pos)
  exact Finset.sum_pos' (fun j _ => hlow.trans low_le_clamp)
    ⟨i, Finset.mem_univ i, lt_max_of_lt_right (lt_min hhigh hi)⟩

/-- The two rounds. -/
def rounds (low high : 𝕜) (s : ι → 𝕜) : ι → 𝕜 :=
  normalise fun i => clamp low high (normalise (fun j => clamp low high (s j)) i)

section Rounds

variable (hlow : 0 ≤ low) (hhigh : 0 < high) (hsum : ∑ i, s i = 1)
include hlow hhigh hsum

lemma first_round : ∑ i, normalise (fun j => clamp low high (s j)) i = 1 :=
  sum_normalise (sum_clamp_pos hlow hhigh hsum).ne'

theorem sum_rounds : ∑ i, rounds low high s i = 1 :=
  sum_normalise (sum_clamp_pos hlow hhigh (first_round hlow hhigh hsum)).ne'

omit hhigh hsum in
theorem rounds_mono (h : s i ≤ s j) : rounds low high s i ≤ rounds low high s j :=
  normalise_mono (fun _ => hlow.trans low_le_clamp) (clamp_mono
    (normalise_mono (fun _ => hlow.trans low_le_clamp) (clamp_mono h)))

variable (hle : low ≤ high)
include hle

lemma exists_high_lt (h : ∑ i, clamp low high (s i) < 1) : ∃ i, high < rounds low high s i := by
  have hpos := sum_clamp_pos hlow hhigh hsum
  -- a share was clamped to `high`, and is above it after the division
  obtain ⟨i, -, hi⟩ := Finset.exists_lt_of_sum_lt (h.trans_eq hsum.symm)
  have hclamped : clamp low high (s i) = high := by
    by_contra hne
    refine absurd hi (not_lt.mpr ?_)
    rcases le_total (s i) high with hsi | hsi
    · rw [clamp, min_eq_right hsi]
      exact le_max_right _ _
    · exact absurd (clamp_of_ge hle hsi) hne
  have hgrow (j : ι) : clamp low high (s j) ≤ normalise (fun j => clamp low high (s j)) j :=
    le_div_self (hlow.trans low_le_clamp) hpos h.le
  have habove : high < normalise (fun j => clamp low high (s j)) i := by
    rw [normalise, hclamped]
    exact (lt_div_iff₀ hpos).mpr (mul_lt_of_lt_one_right hhigh h)
  have hsecond (j : ι) : clamp low high (normalise (fun j => clamp low high (s j)) j) ≤
      normalise (fun j => clamp low high (s j)) j :=
    max_le (low_le_clamp.trans (hgrow j)) (min_le_right _ _)
  have hone := first_round hlow hhigh hsum
  have hless : ∑ j, clamp low high (normalise (fun j => clamp low high (s j)) j) < 1 := by
    rw [← hone]
    refine Finset.sum_lt_sum (fun j _ => hsecond j) ⟨i, Finset.mem_univ i, ?_⟩
    rwa [clamp_of_ge hle habove.le]
  refine ⟨i, ?_⟩
  rw [rounds, normalise, clamp_of_ge hle habove.le]
  exact (lt_div_iff₀ (sum_clamp_pos hlow hhigh hone)).mpr
    (mul_lt_of_lt_one_right hhigh hless)

lemma exists_lt_low (hs : ∀ i, 0 ≤ s i) (h : 1 < ∑ i, clamp low high (s i)) :
    ∃ i, rounds low high s i < low := by
  have hpos := sum_clamp_pos hlow hhigh hsum
  -- a share was clamped to `low`, and is below it after the division
  obtain ⟨i, -, hi⟩ := Finset.exists_lt_of_sum_lt (hsum.trans_lt h)
  have hsi : s i < low := by
    by_contra hge
    exact absurd hi (not_lt.mpr (max_le (not_lt.mp hge) (min_le_right _ _)))
  have hlow' : 0 < low := (hs i).trans_lt hsi
  have hclamped : clamp low high (s i) = low := clamp_of_le hle hsi.le
  have hshrink (j : ι) : normalise (fun j => clamp low high (s j)) j ≤ clamp low high (s j) :=
    div_le_self (hlow.trans low_le_clamp) h.le
  have hbelow : normalise (fun j => clamp low high (s j)) i < low := by
    rw [normalise, hclamped]
    exact (div_lt_iff₀ hpos).mpr (lt_mul_of_one_lt_right hlow' h)
  have hsecond (j : ι) : normalise (fun j => clamp low high (s j)) j ≤
      clamp low high (normalise (fun j => clamp low high (s j)) j) :=
    le_max_of_le_right (le_min ((hshrink j).trans (clamp_le_high hle)) le_rfl)
  have hone := first_round hlow hhigh hsum
  have hmore : 1 < ∑ j, clamp low high (normalise (fun j => clamp low high (s j)) j) := by
    rw [← hone]
    refine Finset.sum_lt_sum (fun j _ => hsecond j) ⟨i, Finset.mem_univ i, ?_⟩
    rwa [clamp_of_le hle hbelow.le]
  refine ⟨i, ?_⟩
  rw [rounds, normalise, clamp_of_le hle hbelow.le]
  exact (div_lt_iff₀ (sum_clamp_pos hlow hhigh hone)).mpr
    (lt_mul_of_one_lt_right hlow' hmore)

/-- Two rounds end within the bounds exactly if the first clamping takes away what it adds. -/
theorem bounded_iff (hs : ∀ i, 0 ≤ s i) :
    (∀ i, low ≤ rounds low high s i ∧ rounds low high s i ≤ high) ↔
      ∑ i, max (low - s i) 0 = ∑ i, max (s i - high) 0 := by
  have hclamp : ∑ i, clamp low high (s i) =
      1 + ∑ i, max (low - s i) 0 - ∑ i, max (s i - high) 0 := by
    simp only [clamp_eq hle, Finset.sum_sub_distrib, Finset.sum_add_distrib, hsum]
  constructor
  · intro h
    rcases lt_trichotomy (∑ i, clamp low high (s i)) 1 with hless | heq | hmore
    · obtain ⟨i, hi⟩ := exists_high_lt hlow hhigh hsum hle hless
      exact absurd (h i).2 (not_le.mpr hi)
    · linarith
    · obtain ⟨i, hi⟩ := exists_lt_low hlow hhigh hsum hle hs hmore
      exact absurd (h i).1 (not_le.mpr hi)
  · intro h i
    have hone : ∑ i, clamp low high (s i) = 1 := by linarith
    have hrounds : rounds low high s = fun i => clamp low high (s i) := by
      have hagain (i : ι) : clamp low high (clamp low high (s i)) = clamp low high (s i) :=
        clamp_of_mem low_le_clamp (clamp_le_high hle)
      simp only [rounds, normalise_of_sum hone, hagain]
    rw [hrounds]
    exact ⟨low_le_clamp, clamp_le_high hle⟩

end Rounds

/-! ## Averages -/

section Average

variable {α 𝕜 : Type*} [Field 𝕜] [LinearOrder 𝕜] [IsStrictOrderedRing 𝕜] {as : List α}
  {w u : α → 𝕜} (hw : ∀ a ∈ as, 0 ≤ w a) (hsum : (as.map w).sum = 1)
include hw hsum

/-- Some number with a weight is not above the weighted average. -/
theorem exists_le_average : ∃ a ∈ as, w a ≠ 0 ∧ u a ≤ (as.map fun a => w a * u a).sum := by
  by_contra hnone
  have habove : ∀ a ∈ as, w a ≠ 0 → (as.map fun a => w a * u a).sum < u a :=
    fun a ha hwa => not_le.mp fun hle => hnone ⟨a, ha, hwa, hle⟩
  obtain ⟨a, ha, hwa⟩ : ∃ a ∈ as, w a ≠ 0 := by
    by_contra hzero
    have hall : as.map w = as.map fun _ => 0 := List.map_congr_left fun a ha =>
      not_not.mp fun hne => hzero ⟨a, ha, hne⟩
    rw [hall] at hsum
    simp at hsum
  have hless : (as.map fun a => w a * (as.map fun a => w a * u a).sum).sum <
      (as.map fun a => w a * u a).sum := by
    refine List.sum_lt_sum _ _ (fun b hb => ?_) ⟨a, ha, ?_⟩
    · by_cases hwb : w b = 0
      · rw [hwb, zero_mul, zero_mul]
      · exact mul_le_mul_of_nonneg_left (habove b hb hwb).le (hw b hb)
    · exact mul_lt_mul_of_pos_left (habove a ha hwa) (lt_of_le_of_ne (hw a ha) (Ne.symm hwa))
  rw [List.sum_map_mul_right, hsum, one_mul] at hless
  exact lt_irrefl _ hless

/-- Some number with a weight is not below it. -/
theorem exists_average_le : ∃ a ∈ as, w a ≠ 0 ∧ (as.map fun a => w a * u a).sum ≤ u a := by
  obtain ⟨a, ha, hwa, hle⟩ := exists_le_average (u := fun a => -u a) hw hsum
  refine ⟨a, ha, hwa, ?_⟩
  have hneg : (as.map fun a => w a * -u a).sum = (as.map fun a => w a * u a).sum * -1 := by
    rw [← List.sum_map_mul_right]
    exact congrArg List.sum (List.map_congr_left fun a _ => by ring)
  linarith

end Average

end Lib.Shares

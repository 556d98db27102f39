import Mathlib.Algebra.Order.Field.Basic
import Mathlib.Analysis.SpecialFunctions.Exp
import Mathlib.Analysis.SpecialFunctions.Sqrt
import Mathlib.Data.List.Perm.Basic
import Paryty.Lib.Deque
import Paryty.Lib.Numerals

/-!
# The Kolmogorov-Smirnov drift test

`KSDetector` of `intelligence/anomaly/concept_drift.py`: a reference window and a test window of
the values that follow it; once both are full every value is tested for drift.

The value that is compared with the threshold is 0 where the statistic is 0 and 1 where it is 1,
as for a distribution function, and drift is reported below the threshold, as for a p-value.
`lawful_iff` is what this comes to.

Numbers are those of an ordered field; `np.exp` and `np.sqrt` are parameters of the definitions,
and the exponential and the root of the reals in the results.
-/

namespace Paryty.Intelligence.KS

open scoped Lib.Numerals
open Lib.Deque (push)

/-! ## The code -/

section Code

variable {𝕜 : Type*} [Field 𝕜] [LinearOrder 𝕜]

/-- `KSDetector`. -/
structure Detector (𝕜 : Type*) where
  windowSize : ℕ
  pValueThreshold : 𝕜
  referenceWindow : List 𝕜
  testWindow : List 𝕜
  nUpdates : ℕ

/-- `KSDetector.__init__`. -/
def new (windowSize : ℕ) (pValueThreshold : 𝕜) : Detector 𝕜 :=
  ⟨windowSize, pValueThreshold, [], [], 0⟩

/-- `np.searchsorted(np.sort(window), v, side='right') / len(window)`. -/
def cdf (window : List 𝕜) (v : 𝕜) : 𝕜 := window.countP (· ≤ v) / window.length

/-- `ks_stat`; `np.max` raises for empty windows. -/
def ksStat (ref test : List 𝕜) : Option 𝕜 :=
  ((ref ++ test).map fun v => |cdf ref v - cdf test v|).max?

/-- `_kolmogorov_cdf`: the sum over `ks`, up to the first small term. -/
def sumTerms (exp : 𝕜 → 𝕜) (x n : 𝕜) : (ks : List ℕ) → (s : 𝕜) → 𝕜
  | [], s => s
  | k :: ks, s =>
    let term := (-1) ^ (k - 1) * exp (-2 * k * k * x * x * n)
    if |term| < 1 / 10 ^ 10 then s + term else sumTerms exp x n ks (s + term)

/-- `_kolmogorov_cdf`. -/
def kolmogorovCdf (exp : 𝕜 → 𝕜) (x n : 𝕜) : 𝕜 :=
  if x ≤ 0 then 0
  else if 1 ≤ x then 1
  else max 0 (min 1 (2 * sumTerms exp x n (List.range' 1 99) 0))

/-- `update`: the p-value of the two windows. -/
def pValue (exp sqrt : 𝕜 → 𝕜) (ref test : List 𝕜) : Option 𝕜 :=
  (ksStat ref test).map fun stat =>
    kolmogorovCdf exp stat (sqrt (ref.length * test.length / (ref.length + test.length)))

/-- `update`: the detector afterwards and whether it reports drift; nothing if it raises. -/
def Detector.update (exp sqrt : 𝕜 → 𝕜) (d : Detector 𝕜) (value : 𝕜) :
    Option (Detector 𝕜 × Bool) :=
  let d := { d with nUpdates := d.nUpdates + 1 }
  if d.referenceWindow.length < d.windowSize then
    some ({ d with referenceWindow := push d.windowSize d.referenceWindow value }, false)
  else
    let d := { d with testWindow := push d.windowSize d.testWindow value }
    if d.testWindow.length < d.windowSize then some (d, false)
    else do
      let p ← pValue exp sqrt d.referenceWindow d.testWindow
      if p < d.pValueThreshold then
        return ({ d with referenceWindow := d.testWindow, testWindow := [] }, true)
      else return (d, false)

/-- `update` for one value after the other. -/
def Detector.feed (exp sqrt : 𝕜 → 𝕜) (d : Detector 𝕜) (values : List 𝕜) : Option (Detector 𝕜) :=
  values.foldlM (fun d value => (d.update exp sqrt value).map Prod.fst) d

/-! ## What drift decisions should be -/

variable (exp sqrt : 𝕜 → 𝕜) (windowSize : ℕ) (pValueThreshold : 𝕜)

/-- `update` reports drift. -/
def Detector.Reports (d : Detector 𝕜) (value : 𝕜) : Prop :=
  ∃ d', d.update exp sqrt value = some (d', true)

/-- With the next value both windows are full. -/
structure FullPair (d : Detector 𝕜) (value : 𝕜) : Prop where
  reachable : ∃ values, (new windowSize pValueThreshold).feed exp sqrt values = some d
  reference : d.referenceWindow.length = windowSize
  test : (push windowSize d.testWindow value).length = windowSize

/-- No drift is reported when the test window has just the values of the reference window. -/
def Quiet : Prop :=
  ∀ d value, FullPair exp sqrt windowSize pValueThreshold d value →
    (push windowSize d.testWindow value).Perm d.referenceWindow → ¬ d.Reports exp sqrt value

/-- What is drift for one statistic is drift for a greater one. -/
def Monotone : Prop :=
  ∀ d value e value' stat stat', FullPair exp sqrt windowSize pValueThreshold d value →
    FullPair exp sqrt windowSize pValueThreshold e value' →
    ksStat d.referenceWindow (push windowSize d.testWindow value) = some stat →
    ksStat e.referenceWindow (push windowSize e.testWindow value') = some stat' →
    stat ≤ stat' → d.Reports exp sqrt value → e.Reports exp sqrt value'

end Code

/-! ## The statistic -/

section Statistic

variable {𝕜 : Type*} [Field 𝕜] [LinearOrder 𝕜] [IsStrictOrderedRing 𝕜] {ref test : List 𝕜}

lemma cdf_of_forall (hne : ref ≠ []) {v : 𝕜} (h : ∀ x ∈ ref, x ≤ v) : cdf ref v = 1 := by
  have hcount : ref.countP (· ≤ v) = ref.length :=
    List.countP_eq_length.mpr fun x hx => decide_eq_true (h x hx)
  have hpos : (ref.length : 𝕜) ≠ 0 := Nat.cast_ne_zero.mpr (List.length_pos_iff.mpr hne).ne'
  rw [cdf, hcount, div_self hpos]

omit [IsStrictOrderedRing 𝕜] in
lemma cdf_of_forall_not {v : 𝕜} (h : ∀ x ∈ test, v < x) : cdf test v = 0 := by
  have hcount : test.countP (· ≤ v) = 0 :=
    List.countP_eq_zero.mpr fun x hx => by simpa using h x hx
  rw [cdf, hcount, Nat.cast_zero, zero_div]

lemma cdf_mem (window : List 𝕜) (v : 𝕜) : 0 ≤ cdf window v ∧ cdf window v ≤ 1 :=
  ⟨div_nonneg (Nat.cast_nonneg _) (Nat.cast_nonneg _),
    div_le_one_of_le₀ (Nat.cast_le.mpr List.countP_le_length) (Nat.cast_nonneg _)⟩

lemma ksStat_of_perm (hne : ref ≠ []) (h : test.Perm ref) : ksStat ref test = some 0 := by
  have hcdf (v : 𝕜) : |cdf ref v - cdf test v| = 0 := by
    rw [cdf, cdf, h.countP_eq, h.length_eq, sub_self, abs_zero]
  rw [ksStat]
  simp only [hcdf, List.map_const', List.max?_replicate]
  rw [if_neg]
  simp [hne]

lemma ksStat_of_separated (hne : ref ≠ []) (h : ∀ x ∈ ref, ∀ y ∈ test, x < y) :
    ksStat ref test = some 1 := by
  obtain ⟨v, hv⟩ : ∃ v, ref.max? = some v :=
    Option.ne_none_iff_exists'.mp fun hnone => hne (List.max?_eq_none_iff.mp hnone)
  obtain ⟨hmem, hmax⟩ := List.max?_eq_some_iff.mp hv
  refine List.max?_eq_some_iff.mpr ⟨List.mem_map.mpr ⟨v, List.mem_append_left _ hmem, ?_⟩, ?_⟩
  · rw [cdf_of_forall hne hmax, cdf_of_forall_not (h v hmem), sub_zero, abs_one]
  · intro b hb
    obtain ⟨u, -, rfl⟩ := List.mem_map.mp hb
    obtain ⟨hlow, hhigh⟩ := cdf_mem ref u
    obtain ⟨hlow', hhigh'⟩ := cdf_mem test u
    exact abs_le.mpr ⟨by linarith, by linarith⟩

end Statistic

/-! ## Runs -/

section Runs

variable {𝕜 : Type*} [Field 𝕜] [LinearOrder 𝕜] {exp sqrt : 𝕜 → 𝕜} {windowSize : ℕ}
  {pValueThreshold value : 𝕜} {d d' : Detector 𝕜} {ref test values : List 𝕜} {drift : Bool}

lemma config_of_update (h : d.update exp sqrt value = some (d', drift)) :
    d'.windowSize = d.windowSize ∧ d'.pValueThreshold = d.pValueThreshold := by
  unfold Detector.update at h
  dsimp only at h
  split at h
  case isTrue =>
    obtain ⟨rfl, -⟩ := Prod.mk.inj (Option.some.inj h)
    exact ⟨rfl, rfl⟩
  case isFalse =>
    split at h
    case isTrue =>
      obtain ⟨rfl, -⟩ := Prod.mk.inj (Option.some.inj h)
      exact ⟨rfl, rfl⟩
    case isFalse =>
      obtain ⟨p, -, h⟩ := Option.bind_eq_some_iff.mp h
      split at h
      · obtain ⟨rfl, -⟩ := Prod.mk.inj (Option.some.inj h)
        exact ⟨rfl, rfl⟩
      · obtain ⟨rfl, -⟩ := Prod.mk.inj (Option.some.inj h)
        exact ⟨rfl, rfl⟩

lemma config_of_feed (h : d.feed exp sqrt values = some d') :
    d'.windowSize = d.windowSize ∧ d'.pValueThreshold = d.pValueThreshold := by
  induction values generalizing d with
  | nil =>
    obtain rfl : d = d' := Option.some.inj h
    exact ⟨rfl, rfl⟩
  | cons value values ih =>
    obtain ⟨d₁, hfirst, hrest⟩ := Option.bind_eq_some_iff.mp h
    obtain ⟨⟨d₂, drift⟩, hupdate, rfl⟩ := Option.map_eq_some_iff.mp hfirst
    obtain ⟨hsize, hthreshold⟩ := ih hrest
    obtain ⟨hsize', hthreshold'⟩ := config_of_update hupdate
    exact ⟨hsize.trans hsize', hthreshold.trans hthreshold'⟩

lemma reports_iff (h : FullPair exp sqrt windowSize pValueThreshold d value) :
    d.Reports exp sqrt value ↔ ∃ p,
      pValue exp sqrt d.referenceWindow (push windowSize d.testWindow value) = some p ∧
        p < pValueThreshold := by
  obtain ⟨⟨values, hfeed⟩, href, htest⟩ := h
  obtain ⟨hsize, hthreshold⟩ := config_of_feed hfeed
  change d.windowSize = windowSize at hsize
  change d.pValueThreshold = pValueThreshold at hthreshold
  subst hsize hthreshold
  have hreference : ¬ d.referenceWindow.length < d.windowSize := href.not_lt
  unfold Detector.Reports Detector.update
  simp only [hreference, htest, lt_irrefl, if_false]
  cases pValue exp sqrt d.referenceWindow (push d.windowSize d.testWindow value) with
  | none => simp
  | some p =>
    by_cases hp : p < d.pValueThreshold
    · simp [hp]
    · simp [hp]

lemma feed_concat (values : List 𝕜) (value : 𝕜) : d.feed exp sqrt (values ++ [value]) =
    (d.feed exp sqrt values).bind fun d => (d.update exp sqrt value).map Prod.fst := by
  simp [Detector.feed, List.foldlM_append]

lemma feed_reference (h : ref.length ≤ windowSize) :
    (new windowSize pValueThreshold).feed exp sqrt ref =
      some ⟨windowSize, pValueThreshold, ref, [], ref.length⟩ := by
  induction ref using List.reverseRecOn with
  | nil => rfl
  | append_singleton ref value ih =>
    have hlt : ref.length < windowSize := by simpa using h
    rw [feed_concat, ih hlt.le, Option.bind_some, Detector.update]
    simp [hlt, Lib.Deque.push_of_lt hlt]

lemma feed_test (href : ref.length = windowSize) (h : test.length < windowSize) :
    (new windowSize pValueThreshold).feed exp sqrt (ref ++ test) =
      some ⟨windowSize, pValueThreshold, ref, test, windowSize + test.length⟩ := by
  induction test using List.reverseRecOn with
  | nil => rw [List.append_nil, feed_reference href.le, href]; rfl
  | append_singleton test value ih =>
    have hlt : test.length + 1 < windowSize := by simpa using h
    have hpush : push windowSize test value = test ++ [value] :=
      Lib.Deque.push_of_lt (Nat.lt_of_succ_lt hlt)
    rw [← List.append_assoc, feed_concat, ih (Nat.lt_of_succ_lt hlt), Option.bind_some,
      Detector.update]
    simp [href, hpush, hlt, Nat.add_assoc]

lemma exists_fullPair (href : ref.length = windowSize) (htest : test.length = windowSize)
    (hsize : windowSize ≠ 0) : ∃ d value, FullPair exp sqrt windowSize pValueThreshold d value ∧
      d.referenceWindow = ref ∧ push windowSize d.testWindow value = test := by
  obtain ⟨init, value, rfl⟩ : ∃ init value, test = init ++ [value] := by
    refine ⟨test.dropLast, test.getLast ?_, (List.dropLast_append_getLast _).symm⟩
    rw [← List.length_pos_iff, htest]
    exact Nat.pos_of_ne_zero hsize
  have hlt : init.length < windowSize := by simp at htest; omega
  have hpush : push windowSize init value = init ++ [value] := Lib.Deque.push_of_lt hlt
  exact ⟨⟨windowSize, pValueThreshold, ref, init, windowSize + init.length⟩, value,
    ⟨⟨ref ++ init, feed_test href hlt⟩, href, by rw [hpush, htest]⟩, rfl, hpush⟩

lemma not_reports_of_zero (h : FullPair exp sqrt 0 pValueThreshold d value) :
    ¬ d.Reports exp sqrt value := by
  rw [reports_iff h, List.eq_nil_of_length_eq_zero h.reference, Lib.Deque.push_zero]
  rintro ⟨p, hp, -⟩
  exact nomatch hp

end Runs

/-! ## Drift decisions -/

section Decisions

variable {𝕜 : Type*} [Field 𝕜] [LinearOrder 𝕜] [IsStrictOrderedRing 𝕜] {exp sqrt : 𝕜 → 𝕜}
  {windowSize : ℕ} {pValueThreshold value : 𝕜} {d : Detector 𝕜}

omit [IsStrictOrderedRing 𝕜] in
lemma referenceWindow_ne_nil (h : FullPair exp sqrt windowSize pValueThreshold d value)
    (hsize : windowSize ≠ 0) : d.referenceWindow ≠ [] := fun hnil =>
  hsize (h.reference.symm.trans (congrArg List.length hnil))

/-- Drift is always reported when the test window has the values of the reference window. -/
theorem reports_of_perm (h : FullPair exp sqrt windowSize pValueThreshold d value)
    (hsize : windowSize ≠ 0) (hthreshold : 0 < pValueThreshold)
    (hperm : (push windowSize d.testWindow value).Perm d.referenceWindow) :
    d.Reports exp sqrt value := by
  refine (reports_iff h).mpr ⟨0, ?_, hthreshold⟩
  rw [pValue, ksStat_of_perm (referenceWindow_ne_nil h hsize) hperm, Option.map_some,
    kolmogorovCdf, if_pos le_rfl]

/-- It is never reported when all its values are above those of the reference window. -/
theorem not_reports_of_separated (h : FullPair exp sqrt windowSize pValueThreshold d value)
    (hsize : windowSize ≠ 0) (hthreshold : pValueThreshold < 1)
    (hseparated : ∀ x ∈ d.referenceWindow, ∀ y ∈ push windowSize d.testWindow value, x < y) :
    ¬ d.Reports exp sqrt value := by
  rw [reports_iff h, pValue, ksStat_of_separated (referenceWindow_ne_nil h hsize) hseparated,
    Option.map_some, kolmogorovCdf, if_neg (not_le.mpr one_pos), if_pos le_rfl]
  rintro ⟨p, hp, hlt⟩
  obtain rfl := Option.some.inj hp
  exact lt_asymm hlt hthreshold

variable (hsize : windowSize ≠ 0) (hpos : 0 < pValueThreshold)
include hsize hpos

lemma not_quiet : ¬ Quiet exp sqrt windowSize pValueThreshold := by
  intro h
  obtain ⟨d, value, hfull, href, htest⟩ : ∃ d value,
      FullPair exp sqrt windowSize pValueThreshold d value ∧
      d.referenceWindow = List.replicate windowSize 0 ∧
      push windowSize d.testWindow value = List.replicate windowSize 0 :=
    exists_fullPair List.length_replicate List.length_replicate hsize
  have hperm : (push windowSize d.testWindow value).Perm d.referenceWindow := by rw [href, htest]
  exact h d value hfull hperm (reports_of_perm hfull hsize hpos hperm)

lemma not_monotone (hlt : pValueThreshold < 1) :
    ¬ Monotone exp sqrt windowSize pValueThreshold := by
  intro h
  obtain ⟨d, value, hfull, href, htest⟩ : ∃ d value,
      FullPair exp sqrt windowSize pValueThreshold d value ∧
      d.referenceWindow = List.replicate windowSize 0 ∧
      push windowSize d.testWindow value = List.replicate windowSize 0 :=
    exists_fullPair List.length_replicate List.length_replicate hsize
  obtain ⟨e, value', hfull', href', htest'⟩ : ∃ e value',
      FullPair exp sqrt windowSize pValueThreshold e value' ∧
      e.referenceWindow = List.replicate windowSize 0 ∧
      push windowSize e.testWindow value' = List.replicate windowSize 1 :=
    exists_fullPair List.length_replicate List.length_replicate hsize
  have hperm : (push windowSize d.testWindow value).Perm d.referenceWindow := by rw [href, htest]
  have hseparated : ∀ x ∈ e.referenceWindow, ∀ y ∈ push windowSize e.testWindow value', x < y := by
    rw [href', htest']
    intro x hx y hy
    rw [List.eq_of_mem_replicate hx, List.eq_of_mem_replicate hy]
    exact one_pos
  refine not_reports_of_separated hfull' hsize hlt hseparated ?_
  exact h d value e value' 0 1 hfull hfull'
    (ksStat_of_perm (referenceWindow_ne_nil hfull hsize) hperm)
    (ksStat_of_separated (referenceWindow_ne_nil hfull' hsize) hseparated) zero_le_one
    (reports_of_perm hfull hsize hpos hperm)

end Decisions

/-- Both laws fail for all windows that have values. -/
theorem lawful_iff (windowSize : ℕ) (pValueThreshold : ℝ) (hpos : 0 < pValueThreshold)
    (hlt : pValueThreshold < 1) :
    (Quiet Real.exp Real.sqrt windowSize pValueThreshold ↔ windowSize = 0) ∧
      (Monotone Real.exp Real.sqrt windowSize pValueThreshold ↔ windowSize = 0) := by
  refine ⟨⟨fun h => ?_, ?_⟩, ⟨fun h => ?_, ?_⟩⟩
  · by_contra hsize
    exact not_quiet hsize hpos h
  · rintro rfl d value hfull -
    exact not_reports_of_zero hfull
  · by_contra hsize
    exact not_monotone hsize hpos hlt h
  · rintro rfl d value e value' stat stat' hfull - - - - hreports
    exact absurd hreports (not_reports_of_zero hfull)

theorem lawful_iff_default :
    (Quiet Real.exp Real.sqrt 100 (1 / 100) ↔ 100 = 0) ∧
      (Monotone Real.exp Real.sqrt 100 (1 / 100) ↔ 100 = 0) :=
  lawful_iff 100 (1 / 100) (by norm_num) (by norm_num)

/-- With the defaults, drift is reported when two windows have the same values. -/
theorem not_quiet_default : ¬ Quiet Real.exp Real.sqrt 100 (1 / 100) :=
  not_quiet (by decide) (by norm_num)

end Paryty.Intelligence.KS

import Mathlib.Analysis.SpecialFunctions.Sqrt
import Mathlib.Data.List.GetD
import Paryty.Lib.Far
import Paryty.Lib.Numerals
import Paryty.Lib.Table

/-!
# Statistical anomaly detection

`StatisticalDetector` of `intelligence/anomaly/statistical.py`: a point is reported if its z-score
within a rolling window is large, if it lies outside the quartiles of a window, or if it deviates
from an exponentially weighted mean.

What is reported is always in order (`reports_detect`). The first two skip windows without spread,
and the deviation of the third is measured with the point itself, which bounds it;
`detects_iff_sees` is when values that are far away are reported nevertheless.

Numbers are those of an ordered field with a root, and the reals in the results. The texts that
explain a result are left out.
-/

namespace Paryty.Intelligence.Statistical

open scoped Lib.Numerals

/-! ## The code -/

section Code

variable {𝕜 : Type*} [Field 𝕜] [LinearOrder 𝕜]

structure ZScoreConfig (𝕜 : Type*) [Field 𝕜] [LinearOrder 𝕜] where
  threshold : 𝕜
  windowSize : ℕ
  one_le : 1 ≤ threshold
  le_six : threshold ≤ 6
  ten_le : 10 ≤ windowSize

structure IQRConfig (𝕜 : Type*) [Field 𝕜] [LinearOrder 𝕜] where
  multiplier : 𝕜
  windowSize : ℕ
  half_le : 5 / 10 ≤ multiplier
  le_five : multiplier ≤ 5
  twenty_le : 20 ≤ windowSize

structure EWMAConfig (𝕜 : Type*) [Field 𝕜] [LinearOrder 𝕜] where
  alpha : 𝕜
  threshold : 𝕜
  hundredth_le : 1 / 100 ≤ alpha
  le_one : alpha ≤ 1
  one_le : 1 ≤ threshold
  le_six : threshold ≤ 6

/-- `AnomalyConfig`, what the statistical detectors use of it. -/
structure AnomalyConfig (𝕜 : Type*) [Field 𝕜] [LinearOrder 𝕜] where
  zscore : ZScoreConfig 𝕜
  iqr : IQRConfig 𝕜
  ewma : EWMAConfig 𝕜

inductive AnomalyType
  | point
  | contextual
  | collective
  | trend
deriving DecidableEq

inductive Severity
  | info
  | warn
  | critical
deriving DecidableEq

structure AnomalyResult (𝕜 : Type*) where
  timestamp : ℤ
  value : 𝕜
  score : 𝕜
  anomalyType : AnomalyType
  method : String
  severity : Severity

/-- `_severity_from_score`. -/
def severityFromScore (score : 𝕜) : Severity :=
  if score ≥ 8 / 10 then .critical
  else if score ≥ 5 / 10 then .warn
  else .info

/-- `np.clip(x, 0.0, 1.0)`. -/
def clip (x : 𝕜) : 𝕜 := min (max x 0) 1

/-- `np.mean`. -/
def mean (values : List 𝕜) : 𝕜 := values.sum / values.length

/-- `np.std`. -/
def std (sqrt : 𝕜 → 𝕜) (values : List 𝕜) : 𝕜 :=
  sqrt (mean (values.map fun v => (v - mean values) ^ 2))

/-- `np.percentile(values, q)`: between the two values next to the position. -/
def percentile (values : List 𝕜) (q : ℕ) : 𝕜 :=
  let sorted := values.mergeSort (fun a b => a ≤ b)
  let position := q * (values.length - 1)
  let below := sorted.getD (position / 100) 0
  let above := sorted.getD (min (position / 100 + 1) (values.length - 1)) 0
  below + (above - below) * ((position % 100 : ℕ) / 100)

/-- A value that is too small to divide by. -/
def tiny : 𝕜 := 1 / 10 ^ 9

/-- The loop of the detectors with a window: the values before the point decide about it. -/
def rolling (least windowSize : ℕ) (point : List 𝕜 → ℤ → 𝕜 → Option (AnomalyResult 𝕜))
    (timestamps : List ℤ) (values : List 𝕜) : List (AnomalyResult 𝕜) :=
  if values.length < least then []
  else
    (List.range' windowSize (values.length - windowSize)).filterMap fun i =>
      point ((values.take i).drop (i - windowSize)) (timestamps.getD i 0) (values.getD i 0)

def zscorePoint (sqrt : 𝕜 → 𝕜) (cfg : ZScoreConfig 𝕜) (window : List 𝕜) (timestamp : ℤ)
    (value : 𝕜) : Option (AnomalyResult 𝕜) :=
  let mu := mean window
  let sigma := std sqrt window
  if sigma < tiny then none
  else
    let z := |value - mu| / sigma
    if z ≥ cfg.threshold then
      let score := clip (z / (cfg.threshold * 2))
      some ⟨timestamp, value, score, .point, "zscore", severityFromScore score⟩
    else none

/-- `ZScoreDetector.detect`. -/
def zscoreDetect (sqrt : 𝕜 → 𝕜) (cfg : ZScoreConfig 𝕜) :
    List ℤ → List 𝕜 → List (AnomalyResult 𝕜) :=
  rolling 3 cfg.windowSize (zscorePoint sqrt cfg)

def iqrPoint (cfg : IQRConfig 𝕜) (window : List 𝕜) (timestamp : ℤ) (value : 𝕜) :
    Option (AnomalyResult 𝕜) :=
  let q1 := percentile window 25
  let q3 := percentile window 75
  let iqr := q3 - q1
  if iqr < tiny then none
  else
    let lower := q1 - cfg.multiplier * iqr
    let upper := q3 + cfg.multiplier * iqr
    if value < lower ∨ value > upper then
      let dist := max (max (lower - value) (value - upper)) 0
      let score := clip (dist / (iqr * cfg.multiplier))
      some ⟨timestamp, value, score, .point, "iqr", severityFromScore score⟩
    else none

/-- `IQRDetector.detect`. -/
def iqrDetect (cfg : IQRConfig 𝕜) : List ℤ → List 𝕜 → List (AnomalyResult 𝕜) :=
  rolling 5 cfg.windowSize (iqrPoint cfg)

/-- `ewma` and `ewma_var`. -/
structure Ewma (𝕜 : Type*) where
  ewma : 𝕜
  var : 𝕜

def Ewma.next (cfg : EWMAConfig 𝕜) (s : Ewma 𝕜) (value : 𝕜) : Ewma 𝕜 :=
  let diff := value - s.ewma
  ⟨cfg.alpha * value + (1 - cfg.alpha) * s.ewma, cfg.alpha * diff ^ 2 + (1 - cfg.alpha) * s.var⟩

def ewmaPoint (sqrt : 𝕜 → 𝕜) (cfg : EWMAConfig 𝕜) (s : Ewma 𝕜) (timestamp : ℤ) (value : 𝕜) :
    Option (AnomalyResult 𝕜) :=
  let diff := value - s.ewma
  let std := max (sqrt (s.next cfg value).var) tiny
  let deviation := |diff| / std
  if deviation ≥ cfg.threshold then
    let score := clip (deviation / (cfg.threshold * 2))
    some ⟨timestamp, value, score, .trend, "ewma", severityFromScore score⟩
  else none

def ewmaLoop (sqrt : 𝕜 → 𝕜) (cfg : EWMAConfig 𝕜) :
    Ewma 𝕜 → List (ℤ × 𝕜) → List (AnomalyResult 𝕜)
  | _, [] => []
  | s, (timestamp, value) :: points =>
    (ewmaPoint sqrt cfg s timestamp value).toList ++ ewmaLoop sqrt cfg (s.next cfg value) points

/-- `EWMADetector.detect`. -/
def ewmaDetect (sqrt : 𝕜 → 𝕜) (cfg : EWMAConfig 𝕜) (timestamps : List ℤ) (values : List 𝕜) :
    List (AnomalyResult 𝕜) :=
  if values.length < 3 then []
  else
    match timestamps.zip values with
    | [] => []
    | (_, first) :: points => ewmaLoop sqrt cfg ⟨first, 0⟩ points

/-- `by_ts`: one result for each timestamp. -/
abbrev Results (𝕜 : Type*) := Lib.Table (AnomalyResult 𝕜) ℤ AnomalyResult.timestamp

/-- The loop that keeps the highest score for each timestamp. -/
def keepHighest (byTs : Results 𝕜) (r : AnomalyResult 𝕜) : Results 𝕜 :=
  match byTs.find? r.timestamp with
  | none => byTs.put r
  | some existing => if r.score > existing.score then byTs.put r else byTs

/-- `all_results`. -/
def allResults (sqrt : 𝕜 → 𝕜) (cfg : AnomalyConfig 𝕜) (timestamps : List ℤ) (values : List 𝕜) :
    List (AnomalyResult 𝕜) :=
  zscoreDetect sqrt cfg.zscore timestamps values ++ iqrDetect cfg.iqr timestamps values ++
    ewmaDetect sqrt cfg.ewma timestamps values

/-- `StatisticalDetector.detect`. -/
def detect (sqrt : 𝕜 → 𝕜) (cfg : AnomalyConfig 𝕜) (timestamps : List ℤ) (values : List 𝕜) :
    List (AnomalyResult 𝕜) :=
  ((allResults sqrt cfg timestamps values).foldl keepHighest .empty).rows.mergeSort
    (fun a b => a.timestamp ≤ b.timestamp)

end Code

/-! ## What should be reported -/

section Spec

variable {𝕜 : Type*} [Field 𝕜] [LinearOrder 𝕜]

/-- Scores from 0 to 1, one result for each timestamp, the earliest first. -/
structure InOrder (results : List (AnomalyResult 𝕜)) : Prop where
  scores : ∀ r ∈ results, 0 ≤ r.score ∧ r.score ≤ 1
  ascending : results.Pairwise fun r r' => r.timestamp < r'.timestamp

/-- A point after the history is reported. -/
def Reported (sqrt : 𝕜 → 𝕜) (cfg : AnomalyConfig 𝕜) (timestamps : List ℤ) (values : List 𝕜)
    (timestamp : ℤ) (value : 𝕜) : Prop :=
  ∃ r ∈ detect sqrt cfg (timestamps ++ [timestamp]) (values ++ [value]),
    r.timestamp = timestamp ∧ (timestamp ∉ timestamps → r.value = value)

/-- Values far from the mean are reported, and every report is in order. -/
structure Detects (sqrt : 𝕜 → 𝕜) (cfg : AnomalyConfig 𝕜) (values : List 𝕜) : Prop where
  far : Lib.Far (mean values) fun value => ∀ timestamps timestamp,
    timestamps.length = values.length → Reported sqrt cfg timestamps values timestamp value
  inOrder : ∀ timestamps values', timestamps.length = values'.length →
    InOrder (detect sqrt cfg timestamps values')

/-- The window of the next point. -/
def lastValues (windowSize : ℕ) (values : List 𝕜) : List 𝕜 :=
  values.drop (values.length - windowSize)

/-- The moving average after the history. -/
def ewmaOf (cfg : EWMAConfig 𝕜) : List 𝕜 → Ewma 𝕜
  | [] => ⟨0, 0⟩
  | first :: values => values.foldl (Ewma.next cfg) ⟨first, 0⟩

/-- One of the windows has some spread, or the deviation that a single point causes in the moving
average reaches the threshold. -/
def Sees (sqrt : 𝕜 → 𝕜) (cfg : AnomalyConfig 𝕜) (values : List 𝕜) : Prop :=
  tiny ≤ std sqrt (lastValues cfg.zscore.windowSize values) ∨
    tiny ≤ percentile (lastValues cfg.iqr.windowSize values) 75 -
      percentile (lastValues cfg.iqr.windowSize values) 25 ∨
    cfg.ewma.alpha * cfg.ewma.threshold ^ 2 < 1 ∨
    cfg.ewma.alpha * cfg.ewma.threshold ^ 2 = 1 ∧
      (1 - cfg.ewma.alpha) * (ewmaOf cfg.ewma values).var = 0

end Spec

/-! ## Merging -/

section Merge

variable {𝕜 : Type*} [LinearOrder 𝕜] {results : List (AnomalyResult 𝕜)} {byTs : Results 𝕜}
  {r r' : AnomalyResult 𝕜}

lemma mem_keepHighest (h : r ∈ keepHighest byTs r') : r = r' ∨ r ∈ byTs := by
  unfold keepHighest at h
  split at h
  · exact (Lib.Table.mem_put.mp h).imp_right And.left
  · split at h
    · exact (Lib.Table.mem_put.mp h).imp_right And.left
    · exact .inr h

lemma hasKey_keepHighest {timestamp : ℤ} :
    (keepHighest byTs r').HasKey timestamp ↔ byTs.HasKey timestamp ∨ r'.timestamp = timestamp := by
  unfold keepHighest
  split
  case h_1 => exact Lib.Table.hasKey_put
  case h_2 existing hfind =>
    split
    · exact Lib.Table.hasKey_put
    · refine (or_iff_left_of_imp ?_).symm
      rintro rfl
      obtain ⟨hmem, hkey⟩ := Lib.Table.find?_eq_some.mp hfind
      exact ⟨existing, hmem, hkey⟩

lemma mem_foldl_keepHighest (h : r ∈ results.foldl keepHighest byTs) : r ∈ results ∨ r ∈ byTs := by
  induction results generalizing byTs with
  | nil => exact .inr h
  | cons r' results ih =>
    rcases ih h with h | h
    · exact .inl (List.mem_cons_of_mem _ h)
    · rcases mem_keepHighest h with rfl | h
      · exact .inl List.mem_cons_self
      · exact .inr h

lemma hasKey_foldl_keepHighest {timestamp : ℤ} :
    (results.foldl keepHighest byTs).HasKey timestamp ↔
      (∃ r ∈ results, r.timestamp = timestamp) ∨ byTs.HasKey timestamp := by
  induction results generalizing byTs with
  | nil => simp
  | cons r' results ih =>
    rw [List.foldl_cons, ih, hasKey_keepHighest, List.exists_mem_cons_iff, or_assoc, ← or_assoc]
    exact or_comm

variable [Field 𝕜] {sqrt : 𝕜 → 𝕜} {cfg : AnomalyConfig 𝕜} {timestamps : List ℤ} {values : List 𝕜}

lemma mem_detect (h : r ∈ detect sqrt cfg timestamps values) :
    r ∈ allResults sqrt cfg timestamps values := by
  rw [detect, List.mem_mergeSort] at h
  exact (mem_foldl_keepHighest h).resolve_right Lib.Table.not_mem_empty

lemma exists_mem_detect {timestamp : ℤ}
    (h : ∃ r ∈ allResults sqrt cfg timestamps values, r.timestamp = timestamp) :
    ∃ r ∈ detect sqrt cfg timestamps values, r.timestamp = timestamp := by
  have hhas : ((allResults sqrt cfg timestamps values).foldl keepHighest .empty).HasKey timestamp :=
    hasKey_foldl_keepHighest.mpr (.inl h)
  obtain ⟨r, hr, hkey⟩ := hhas
  exact ⟨r, List.mem_mergeSort.mpr hr, hkey⟩

lemma ascending_detect :
    (detect sqrt cfg timestamps values).Pairwise fun r r' => r.timestamp < r'.timestamp := by
  have hsorted : (detect sqrt cfg timestamps values).Pairwise
      fun r r' => r.timestamp ≤ r'.timestamp := by
    have hle : (detect sqrt cfg timestamps values).Pairwise
        fun r r' => decide (r.timestamp ≤ r'.timestamp) = true := by
      refine List.pairwise_mergeSort (fun a b c => ?_) (fun a b => ?_) _
      · simpa using le_trans
      · simpa using le_total a.timestamp b.timestamp
    exact hle.imp of_decide_eq_true
  have hne : (detect sqrt cfg timestamps values).Pairwise
      fun r r' => r.timestamp ≠ r'.timestamp := by
    have hnodup := ((allResults sqrt cfg timestamps values).foldl keepHighest .empty).nodup
    exact List.pairwise_map.mp (((List.mergeSort_perm _ _).map _).nodup_iff.mpr hnodup)
  exact (hsorted.and hne).imp fun h => lt_of_le_of_ne h.1 h.2

end Merge

/-! ## Points -/

section Points

variable {𝕜 : Type*} [Field 𝕜] [LinearOrder 𝕜]

/-- What a detector says of a point is about this point. -/
def About (timestamp : ℤ) (value : 𝕜) (r : AnomalyResult 𝕜) : Prop :=
  r.timestamp = timestamp ∧ r.value = value ∧ ∃ score, r.score = clip score

variable {sqrt : 𝕜 → 𝕜} {timestamp : ℤ} {value : 𝕜} {r : AnomalyResult 𝕜} {window : List 𝕜}

lemma about_zscorePoint {cfg : ZScoreConfig 𝕜}
    (h : zscorePoint sqrt cfg window timestamp value = some r) : About timestamp value r := by
  simp only [zscorePoint] at h
  split at h
  · exact absurd h (by simp)
  · split at h
    · obtain rfl := Option.some.inj h
      exact ⟨rfl, rfl, _, rfl⟩
    · exact absurd h (by simp)

lemma about_iqrPoint {cfg : IQRConfig 𝕜} (h : iqrPoint cfg window timestamp value = some r) :
    About timestamp value r := by
  simp only [iqrPoint] at h
  split at h
  · exact absurd h (by simp)
  · split at h
    · obtain rfl := Option.some.inj h
      exact ⟨rfl, rfl, _, rfl⟩
    · exact absurd h (by simp)

lemma about_ewmaPoint {cfg : EWMAConfig 𝕜} {s : Ewma 𝕜}
    (h : ewmaPoint sqrt cfg s timestamp value = some r) : About timestamp value r := by
  simp only [ewmaPoint] at h
  split at h
  · obtain rfl := Option.some.inj h
    exact ⟨rfl, rfl, _, rfl⟩
  · exact absurd h (by simp)

lemma isSome_zscorePoint_iff {cfg : ZScoreConfig 𝕜} :
    (zscorePoint sqrt cfg window timestamp value).isSome ↔ tiny ≤ std sqrt window ∧
      cfg.threshold ≤ |value - mean window| / std sqrt window := by
  simp only [zscorePoint]
  split
  case isTrue h => simp [h]
  case isFalse h => simp [not_lt.mp h]

lemma isSome_iqrPoint_iff {cfg : IQRConfig 𝕜} {q1 q3 : 𝕜} (hq1 : q1 = percentile window 25)
    (hq3 : q3 = percentile window 75) :
    (iqrPoint cfg window timestamp value).isSome ↔ tiny ≤ q3 - q1 ∧
      (value < q1 - cfg.multiplier * (q3 - q1) ∨ q3 + cfg.multiplier * (q3 - q1) < value) := by
  subst hq1 hq3
  simp only [iqrPoint]
  split
  case isTrue h => simp [h]
  case isFalse h => simp [not_lt.mp h]

lemma isSome_ewmaPoint_iff {cfg : EWMAConfig 𝕜} {s : Ewma 𝕜} :
    (ewmaPoint sqrt cfg s timestamp value).isSome ↔
      cfg.threshold ≤ |value - s.ewma| / max (sqrt (s.next cfg value).var) tiny := by
  simp [ewmaPoint]

end Points

/-! ## Loops -/

section Loops

variable {𝕜 : Type*} [Field 𝕜] {sqrt : 𝕜 → 𝕜} {least windowSize : ℕ}
  {point : List 𝕜 → ℤ → 𝕜 → Option (AnomalyResult 𝕜)} {timestamps : List ℤ} {values : List 𝕜}
  {timestamp : ℤ} {value : 𝕜} {r : AnomalyResult 𝕜}

lemma rolling_concat (hlength : timestamps.length = values.length) (hleast : least ≤ values.length)
    (hsize : windowSize ≤ values.length) :
    rolling least windowSize point (timestamps ++ [timestamp]) (values ++ [value]) =
      rolling least windowSize point timestamps values ++
        (point (lastValues windowSize values) timestamp value).toList := by
  have hshort : ¬ values.length < least := not_lt.mpr hleast
  have hshort' : ¬ (values ++ [value]).length < least := by
    rw [List.length_append]
    omega
  have hcount : (values ++ [value]).length - windowSize = values.length - windowSize + 1 := by
    rw [List.length_append, List.length_singleton]
    omega
  have hlast : windowSize + (values.length - windowSize) = values.length := by omega
  rw [rolling, if_neg hshort', rolling, if_neg hshort, hcount, List.range'_1_concat,
    List.filterMap_append, hlast]
  congr 1
  · refine List.filterMap_congr fun i hi => ?_
    have hlt : i < values.length := by
      have hrange := List.mem_range'_1.mp hi
      omega
    rw [List.take_append_of_le_length hlt.le, List.getD_append _ _ _ _ hlt,
      List.getD_append _ _ _ _ (hlength ▸ hlt)]
  · have hvalue : (values ++ [value]).getD values.length 0 = value := by simp
    have htimestamp : (timestamps ++ [timestamp]).getD values.length 0 = timestamp := by
      simp [← hlength]
    rw [List.filterMap_cons, List.filterMap_nil, List.take_left, htimestamp, hvalue]
    cases hpoint : point (values.drop (values.length - windowSize)) timestamp value with
    | none => simp [lastValues, hpoint]
    | some r => simp [lastValues, hpoint]

variable [LinearOrder 𝕜]

lemma mem_rolling (hpoint : ∀ window timestamp value r, point window timestamp value = some r →
      About timestamp value r) (hlength : timestamps.length = values.length)
    (h : r ∈ rolling least windowSize point timestamps values) :
    ∃ timestamp ∈ timestamps, ∃ value, About timestamp value r := by
  unfold rolling at h
  split at h
  · exact absurd h List.not_mem_nil
  · obtain ⟨i, hi, hr⟩ := List.mem_filterMap.mp h
    have hlt : i < timestamps.length := by
      have hrange := List.mem_range'_1.mp hi
      omega
    refine ⟨timestamps.getD i 0, ?_, _, hpoint _ _ _ _ hr⟩
    rw [List.getD_eq_getElem _ _ hlt]
    exact List.getElem_mem hlt

lemma ewmaLoop_append {cfg : EWMAConfig 𝕜} {s : Ewma 𝕜} {points : List (ℤ × 𝕜)} :
    ewmaLoop sqrt cfg s (points ++ [(timestamp, value)]) = ewmaLoop sqrt cfg s points ++
      (ewmaPoint sqrt cfg ((points.map Prod.snd).foldl (Ewma.next cfg) s) timestamp
        value).toList := by
  induction points generalizing s with
  | nil => simp [ewmaLoop]
  | cons p points ih =>
    obtain ⟨timestamp', value'⟩ := p
    rw [List.cons_append, ewmaLoop, ewmaLoop, ih, List.append_assoc]
    rfl

lemma mem_ewmaLoop {cfg : EWMAConfig 𝕜} {s : Ewma 𝕜} {points : List (ℤ × 𝕜)}
    (h : r ∈ ewmaLoop sqrt cfg s points) : ∃ p ∈ points, About p.1 p.2 r := by
  induction points generalizing s with
  | nil => exact absurd h List.not_mem_nil
  | cons p points ih =>
    obtain ⟨timestamp', value'⟩ := p
    rcases List.mem_append.mp h with h | h
    · exact ⟨_, List.mem_cons_self, about_ewmaPoint (Option.mem_toList.mp h)⟩
    · obtain ⟨p, hp, habout⟩ := ih h
      exact ⟨p, List.mem_cons_of_mem _ hp, habout⟩

lemma mem_ewmaDetect {cfg : EWMAConfig 𝕜} (h : r ∈ ewmaDetect sqrt cfg timestamps values) :
    ∃ timestamp ∈ timestamps, ∃ value, About timestamp value r := by
  unfold ewmaDetect at h
  split at h
  · exact absurd h List.not_mem_nil
  · split at h
    · exact absurd h List.not_mem_nil
    · next timestamp' first points hzip =>
      obtain ⟨p, hp, habout⟩ := mem_ewmaLoop h
      have hmem : p ∈ timestamps.zip values := hzip ▸ List.mem_cons_of_mem _ hp
      exact ⟨p.1, (List.of_mem_zip hmem).1, p.2, habout⟩

lemma ewmaDetect_concat {cfg : EWMAConfig 𝕜} (hlength : timestamps.length = values.length)
    (hleast : 3 ≤ values.length) :
    ewmaDetect sqrt cfg (timestamps ++ [timestamp]) (values ++ [value]) =
      ewmaDetect sqrt cfg timestamps values ++
        (ewmaPoint sqrt cfg (ewmaOf cfg values) timestamp value).toList := by
  have hshort : ¬ values.length < 3 := not_lt.mpr hleast
  have hshort' : ¬ (values ++ [value]).length < 3 := by
    rw [List.length_append]
    omega
  rw [ewmaDetect, if_neg hshort', ewmaDetect, if_neg hshort, List.zip_append hlength]
  cases timestamps with
  | nil =>
    rw [← hlength] at hleast
    exact absurd hleast (by simp)
  | cons timestamp' timestamps =>
    cases values with
    | nil => exact absurd hlength (by simp)
    | cons first values =>
      have hvalues : (timestamps.zip values).map Prod.snd = values :=
        List.map_snd_zip (Nat.succ.inj hlength).ge
      simp only [List.zip_cons_cons, List.cons_append, List.zip_nil_right]
      rw [ewmaLoop_append, hvalues]
      rfl

end Loops

/-! ## The last point -/

section Last

variable {𝕜 : Type*} [Field 𝕜] [LinearOrder 𝕜] {sqrt : 𝕜 → 𝕜} {cfg : AnomalyConfig 𝕜}
  {timestamps : List ℤ} {values : List 𝕜} {timestamp : ℤ} {value : 𝕜} {r : AnomalyResult 𝕜}

/-- What the three detectors say of the point after the history. -/
def lastResults (sqrt : 𝕜 → 𝕜) (cfg : AnomalyConfig 𝕜) (values : List 𝕜) (timestamp : ℤ)
    (value : 𝕜) : List (AnomalyResult 𝕜) :=
  (zscorePoint sqrt cfg.zscore (lastValues cfg.zscore.windowSize values) timestamp value).toList ++
    (iqrPoint cfg.iqr (lastValues cfg.iqr.windowSize values) timestamp value).toList ++
    (ewmaPoint sqrt cfg.ewma (ewmaOf cfg.ewma values) timestamp value).toList

lemma about_of_mem_lastResults (h : r ∈ lastResults sqrt cfg values timestamp value) :
    About timestamp value r := by
  simp only [lastResults, List.mem_append, Option.mem_toList] at h
  rcases h with (h | h) | h
  · exact about_zscorePoint h
  · exact about_iqrPoint h
  · exact about_ewmaPoint h

lemma about_of_mem_allResults (hlength : timestamps.length = values.length)
    (h : r ∈ allResults sqrt cfg timestamps values) :
    ∃ timestamp ∈ timestamps, ∃ value, About timestamp value r := by
  simp only [allResults, List.mem_append] at h
  rcases h with (h | h) | h
  · exact mem_rolling (fun _ _ _ _ => about_zscorePoint) hlength h
  · exact mem_rolling (fun _ _ _ _ => about_iqrPoint) hlength h
  · exact mem_ewmaDetect h

variable (hlength : timestamps.length = values.length)
  (hlong : cfg.zscore.windowSize < values.length ∧ cfg.iqr.windowSize < values.length)
include hlength hlong

lemma mem_allResults_concat :
    r ∈ allResults sqrt cfg (timestamps ++ [timestamp]) (values ++ [value]) ↔
      r ∈ allResults sqrt cfg timestamps values ∨
        r ∈ lastResults sqrt cfg values timestamp value := by
  have hten := cfg.zscore.ten_le
  have hzscore : zscoreDetect sqrt cfg.zscore (timestamps ++ [timestamp]) (values ++ [value]) = _ :=
    rolling_concat hlength (by omega) hlong.1.le
  have hiqr : iqrDetect cfg.iqr (timestamps ++ [timestamp]) (values ++ [value]) = _ :=
    rolling_concat hlength (by omega) hlong.2.le
  rw [allResults, hzscore, hiqr, ewmaDetect_concat hlength (by omega), allResults, lastResults]
  simp only [List.mem_append]
  tauto

lemma reported_of_lastResults (h : lastResults sqrt cfg values timestamp value ≠ []) :
    Reported sqrt cfg timestamps values timestamp value := by
  obtain ⟨r, hr⟩ := List.exists_mem_of_ne_nil _ h
  have hall := (mem_allResults_concat hlength hlong).mpr (.inr hr)
  obtain ⟨r', hr', hkey⟩ := exists_mem_detect ⟨r, hall, (about_of_mem_lastResults hr).1⟩
  refine ⟨r', hr', hkey, fun hnew => ?_⟩
  rcases (mem_allResults_concat hlength hlong).mp (mem_detect hr') with hold | hlast
  · obtain ⟨timestamp', hmem, _, habout⟩ := about_of_mem_allResults hlength hold
    exact absurd hmem (by rwa [← habout.1, hkey])
  · exact (about_of_mem_lastResults hlast).2.1

lemma lastResults_of_reported (hnew : timestamp ∉ timestamps)
    (h : Reported sqrt cfg timestamps values timestamp value) :
    lastResults sqrt cfg values timestamp value ≠ [] := by
  obtain ⟨r, hr, hkey, -⟩ := h
  rcases (mem_allResults_concat hlength hlong).mp (mem_detect hr) with hold | hlast
  · obtain ⟨timestamp', hmem, _, habout⟩ := about_of_mem_allResults hlength hold
    exact absurd hmem (by rwa [← habout.1, hkey])
  · exact List.ne_nil_of_mem hlast

end Last

section InOrder

variable {𝕜 : Type*} [Field 𝕜] [LinearOrder 𝕜] [IsStrictOrderedRing 𝕜] {sqrt : 𝕜 → 𝕜}
  {cfg : AnomalyConfig 𝕜} {timestamps : List ℤ} {values : List 𝕜}

lemma inOrder_detect (hlength : timestamps.length = values.length) :
    InOrder (detect sqrt cfg timestamps values) where
  scores r hr := by
    obtain ⟨_, -, _, -, -, score, hscore⟩ := about_of_mem_allResults hlength (mem_detect hr)
    rw [hscore]
    exact ⟨le_min (le_max_right _ _) zero_le_one, min_le_right _ _⟩
  ascending := ascending_detect

end InOrder

/-! ## Values far away -/

section Reals

variable {cfg : AnomalyConfig ℝ} {values : List ℝ}

lemma tiny_pos : (0 : ℝ) < tiny := by
  unfold tiny
  positivity

lemma lastResults_ne_nil_iff {timestamp : ℤ} {value : ℝ} :
    lastResults Real.sqrt cfg values timestamp value ≠ [] ↔
      (zscorePoint Real.sqrt cfg.zscore (lastValues cfg.zscore.windowSize values) timestamp
        value).isSome ∨
      (iqrPoint cfg.iqr (lastValues cfg.iqr.windowSize values) timestamp value).isSome ∨
      (ewmaPoint Real.sqrt cfg.ewma (ewmaOf cfg.ewma values) timestamp value).isSome := by
  simp only [lastResults, ne_eq, List.append_eq_nil_iff, Option.toList_eq_nil_iff,
    Option.isSome_iff_ne_none]
  tauto

lemma var_next_nonneg {cfg : EWMAConfig ℝ} {s : Ewma ℝ} (hvar : 0 ≤ s.var) (value : ℝ) :
    0 ≤ (s.next cfg value).var := by
  have halpha : 0 ≤ cfg.alpha := le_trans (by norm_num) cfg.hundredth_le
  have hrest : 0 ≤ 1 - cfg.alpha := sub_nonneg.mpr cfg.le_one
  exact add_nonneg (mul_nonneg halpha (sq_nonneg _)) (mul_nonneg hrest hvar)

lemma var_ewmaOf_nonneg (cfg : EWMAConfig ℝ) (values : List ℝ) : 0 ≤ (ewmaOf cfg values).var := by
  have hfoldl : ∀ (values : List ℝ) (s : Ewma ℝ), 0 ≤ s.var →
      0 ≤ (values.foldl (Ewma.next cfg) s).var := by
    intro values
    induction values with
    | nil => exact fun _ hvar => hvar
    | cons value values ih => exact fun s hvar => ih _ (var_next_nonneg hvar value)
  cases values with
  | nil => exact le_refl (0 : ℝ)
  | cons first values => exact hfoldl values _ (le_refl (0 : ℝ))

lemma isSome_ewmaPoint_real_iff {cfg : EWMAConfig ℝ} {s : Ewma ℝ} (hvar : 0 ≤ s.var)
    {timestamp : ℤ} {value : ℝ} :
    (ewmaPoint Real.sqrt cfg s timestamp value).isSome ↔
      cfg.threshold ^ 2 * ((1 - cfg.alpha) * s.var) ≤
          (1 - cfg.alpha * cfg.threshold ^ 2) * (value - s.ewma) ^ 2 ∧
        cfg.threshold * tiny ≤ |value - s.ewma| := by
  have hthreshold : 0 < cfg.threshold := zero_lt_one.trans_le cfg.one_le
  have hroot : cfg.threshold * Real.sqrt (s.next cfg value).var ≤ |value - s.ewma| ↔
      cfg.threshold ^ 2 * (s.next cfg value).var ≤ (value - s.ewma) ^ 2 := by
    rw [← sq_le_sq₀ (mul_nonneg hthreshold.le (Real.sqrt_nonneg _)) (abs_nonneg _), mul_pow,
      Real.sq_sqrt (var_next_nonneg hvar value), sq_abs]
  have hnext : cfg.threshold ^ 2 * (s.next cfg value).var =
      cfg.alpha * cfg.threshold ^ 2 * (value - s.ewma) ^ 2 +
        cfg.threshold ^ 2 * ((1 - cfg.alpha) * s.var) := by
    rw [Ewma.next]
    ring
  rw [isSome_ewmaPoint_iff, le_div_iff₀ (lt_max_of_lt_right tiny_pos),
    mul_max_of_nonneg _ _ hthreshold.le, max_le_iff, hroot, hnext,
    sub_mul 1 (cfg.alpha * cfg.threshold ^ 2), one_mul, le_sub_iff_add_le']

lemma far_zscorePoint {cfg : ZScoreConfig ℝ} {window : List ℝ}
    (h : tiny ≤ std Real.sqrt window) (center : ℝ) : Lib.Far center fun value =>
      ∀ timestamp, (zscorePoint Real.sqrt cfg window timestamp value).isSome := by
  refine (Lib.far_le_abs_sub (cfg.threshold * std Real.sqrt window) (mean window)).mono ?_
  intro value hvalue timestamp
  exact isSome_zscorePoint_iff.mpr ⟨h, (le_div_iff₀ (tiny_pos.trans_le h)).mpr hvalue⟩

lemma far_iqrPoint {cfg : IQRConfig ℝ} {window : List ℝ}
    (h : tiny ≤ percentile window 75 - percentile window 25) (center : ℝ) :
    Lib.Far center fun value => ∀ timestamp, (iqrPoint cfg window timestamp value).isSome := by
  obtain ⟨q1, hq1⟩ : ∃ q1, q1 = percentile window 25 := ⟨_, rfl⟩
  obtain ⟨q3, hq3⟩ : ∃ q3, q3 = percentile window 75 := ⟨_, rfl⟩
  rw [← hq1, ← hq3] at h
  have hpos : 0 < q3 - q1 := tiny_pos.trans_le h
  refine (Lib.far_le_abs_sub ((1 + cfg.multiplier) * (q3 - q1) + 1) q1).mono ?_
  intro value hvalue timestamp
  refine (isSome_iqrPoint_iff hq1 hq3).mpr ⟨h, ?_⟩
  rcases le_abs'.mp hvalue with hbelow | habove
  · left
    linarith
  · right
    linarith

lemma far_ewmaPoint {cfg : EWMAConfig ℝ} {s : Ewma ℝ} (hvar : 0 ≤ s.var)
    (h : cfg.alpha * cfg.threshold ^ 2 < 1 ∨
      cfg.alpha * cfg.threshold ^ 2 = 1 ∧ (1 - cfg.alpha) * s.var = 0) (center : ℝ) :
    Lib.Far center fun value =>
      ∀ timestamp, (ewmaPoint Real.sqrt cfg s timestamp value).isSome := by
  rcases h with h | ⟨hone, hzero⟩
  · have hpos : 0 < 1 - cfg.alpha * cfg.threshold ^ 2 := sub_pos.mpr h
    refine ((Lib.far_le_sq (cfg.threshold ^ 2 * ((1 - cfg.alpha) * s.var) /
      (1 - cfg.alpha * cfg.threshold ^ 2)) s.ewma).and
        (Lib.far_le_abs_sub (cfg.threshold * tiny) s.ewma)).mono ?_
    rintro value ⟨hsq, habs⟩ timestamp
    exact (isSome_ewmaPoint_real_iff hvar).mpr ⟨(div_le_iff₀' hpos).mp hsq, habs⟩
  · refine (Lib.far_le_abs_sub (cfg.threshold * tiny) s.ewma).mono fun value habs timestamp => ?_
    refine (isSome_ewmaPoint_real_iff hvar).mpr ⟨?_, habs⟩
    rw [hone, hzero, sub_self, mul_zero, zero_mul]

lemma not_isSome_ewmaPoint {cfg : EWMAConfig ℝ} {s : Ewma ℝ} (hvar : 0 ≤ s.var)
    (h : ¬ (cfg.alpha * cfg.threshold ^ 2 < 1 ∨
      cfg.alpha * cfg.threshold ^ 2 = 1 ∧ (1 - cfg.alpha) * s.var = 0)) (timestamp : ℤ)
    (value : ℝ) : ¬ (ewmaPoint Real.sqrt cfg s timestamp value).isSome := by
  rw [isSome_ewmaPoint_real_iff hvar]
  rintro ⟨hle, habs⟩
  obtain ⟨hge, hzero⟩ := not_or.mp h
  have hthreshold : 0 < cfg.threshold := zero_lt_one.trans_le cfg.one_le
  have hdiff : 0 < |value - s.ewma| := (mul_pos hthreshold tiny_pos).trans_le habs
  have hsq : 0 < (value - s.ewma) ^ 2 := by
    rw [← sq_abs]
    exact pow_pos hdiff 2
  have hrest : 0 ≤ (1 - cfg.alpha) * s.var := mul_nonneg (sub_nonneg.mpr cfg.le_one) hvar
  rcases (not_lt.mp hge).eq_or_lt with heq | hlt
  · have hpos : 0 < (1 - cfg.alpha) * s.var :=
      hrest.lt_of_ne fun h => hzero ⟨heq.symm, h.symm⟩
    rw [← heq, sub_self, zero_mul] at hle
    exact absurd hle (not_le.mpr (mul_pos (pow_pos hthreshold 2) hpos))
  · have hneg : (1 - cfg.alpha * cfg.threshold ^ 2) * (value - s.ewma) ^ 2 < 0 :=
      mul_neg_of_neg_of_pos (sub_neg.mpr hlt) hsq
    have hleft : 0 ≤ cfg.threshold ^ 2 * ((1 - cfg.alpha) * s.var) :=
      mul_nonneg (sq_nonneg _) hrest
    linarith

lemma far_lastResults (h : Sees Real.sqrt cfg values) (center : ℝ) : Lib.Far center fun value =>
    ∀ timestamp, lastResults Real.sqrt cfg values timestamp value ≠ [] := by
  simp only [lastResults_ne_nil_iff]
  rcases h with h | h | h
  · exact (far_zscorePoint h center).mono fun _ hsome timestamp => .inl (hsome timestamp)
  · exact (far_iqrPoint h center).mono fun _ hsome timestamp => .inr (.inl (hsome timestamp))
  · exact (far_ewmaPoint (var_ewmaOf_nonneg _ _) h center).mono fun _ hsome timestamp =>
      .inr (.inr (hsome timestamp))

lemma sees_of_lastResults {timestamp : ℤ} {value : ℝ}
    (h : lastResults Real.sqrt cfg values timestamp value ≠ []) : Sees Real.sqrt cfg values := by
  rcases lastResults_ne_nil_iff.mp h with h | h | h
  · exact .inl (isSome_zscorePoint_iff.mp h).1
  · exact .inr (.inl ((isSome_iqrPoint_iff rfl rfl).mp h).1)
  · refine .inr (.inr (by_contra fun hnot => ?_))
    exact not_isSome_ewmaPoint (var_ewmaOf_nonneg _ _) hnot timestamp value h

lemma sees_of_detects
    (hlong : cfg.zscore.windowSize < values.length ∧ cfg.iqr.windowSize < values.length)
    (h : Detects Real.sqrt cfg values) : Sees Real.sqrt cfg values := by
  obtain ⟨value, hvalue⟩ := h.far.exists
  have hlength : (List.replicate values.length (0 : ℤ)).length = values.length :=
    List.length_replicate
  have hnew : (1 : ℤ) ∉ List.replicate values.length 0 := fun hmem =>
    absurd (List.eq_of_mem_replicate hmem) (by decide)
  exact sees_of_lastResults
    (lastResults_of_reported hlength hlong hnew (hvalue _ 1 hlength))

end Reals

/-- Far values are reported, in order, exactly if one of the detectors can see them. -/
theorem detects_iff_sees (cfg : AnomalyConfig ℝ) (values : List ℝ)
    (hlong : cfg.zscore.windowSize < values.length ∧ cfg.iqr.windowSize < values.length) :
    Detects Real.sqrt cfg values ↔ Sees Real.sqrt cfg values := by
  constructor
  · exact sees_of_detects hlong
  · intro h
    refine ⟨(far_lastResults h _).mono fun value hvalue timestamps timestamp hlength => ?_,
      fun timestamps values' => inOrder_detect⟩
    exact reported_of_lastResults hlength hlong (hvalue timestamp)

/-! ## The default configuration -/

section Default

variable {𝕜 : Type*} [Field 𝕜] [LinearOrder 𝕜] [IsStrictOrderedRing 𝕜]

lemma zscore_bounds : (1 : 𝕜) ≤ 3 ∧ (3 : 𝕜) ≤ 6 := by norm_num

lemma iqr_bounds : (5 / 10 : 𝕜) ≤ 3 / 2 ∧ (3 / 2 : 𝕜) ≤ 5 := by norm_num

lemma ewma_bounds : (1 / 100 : 𝕜) ≤ 3 / 10 ∧ (3 / 10 : 𝕜) ≤ 1 := by norm_num

/-- The defaults of the configuration. -/
def defaultConfig : AnomalyConfig 𝕜 where
  zscore := ⟨3, 60, zscore_bounds.1, zscore_bounds.2, by decide⟩
  iqr := ⟨3 / 2, 100, iqr_bounds.1, iqr_bounds.2, by decide⟩
  ewma := ⟨3 / 10, 3, ewma_bounds.1, ewma_bounds.2, zscore_bounds.1, zscore_bounds.2⟩

/-- A constant history. -/
def zeros : List 𝕜 := List.replicate 101 0

lemma zeros_long : (defaultConfig : AnomalyConfig 𝕜).zscore.windowSize < (zeros : List 𝕜).length ∧
    (defaultConfig : AnomalyConfig 𝕜).iqr.windowSize < (zeros : List 𝕜).length := by
  rw [zeros, List.length_replicate]
  exact ⟨(by decide : 60 < 101), (by decide : 100 < 101)⟩

theorem detects_iff_sees_zeros :
    Detects Real.sqrt defaultConfig zeros ↔ Sees Real.sqrt defaultConfig zeros :=
  detects_iff_sees defaultConfig zeros zeros_long

lemma mean_zeros (n : ℕ) : mean (List.replicate n (0 : ℝ)) = 0 := by simp [mean]

lemma std_zeros (n : ℕ) : std Real.sqrt (List.replicate n (0 : ℝ)) = 0 := by
  rw [std, mean_zeros, List.map_replicate, sub_zero, zero_pow two_ne_zero, mean_zeros,
    Real.sqrt_zero]

lemma percentile_zeros (n q : ℕ) : percentile (List.replicate n (0 : ℝ)) q = 0 := by
  have hzero : ∀ i, ((List.replicate n (0 : ℝ)).mergeSort (fun a b => a ≤ b)).getD i 0 = 0 := by
    intro i
    by_cases hi : i < ((List.replicate n (0 : ℝ)).mergeSort (fun a b => a ≤ b)).length
    · rw [List.getD_eq_getElem _ _ hi]
      exact List.eq_of_mem_replicate (List.mem_mergeSort.mp (List.getElem_mem hi))
    · exact List.getD_eq_default _ _ (not_lt.mp hi)
  simp only [percentile, hzero]
  ring

/-- Whatever follows a constant history, it is not reported. -/
theorem not_detects_default : ¬ Detects Real.sqrt defaultConfig zeros := by
  intro h
  have hlast (windowSize : ℕ) : lastValues windowSize zeros =
      List.replicate (101 - (101 - windowSize)) (0 : ℝ) := by
    rw [lastValues, zeros, List.length_replicate, List.drop_replicate]
  rcases sees_of_detects zeros_long h with hsees | hsees | hsees | ⟨hsees, -⟩
  · rw [hlast, std_zeros] at hsees
    exact absurd hsees (not_le.mpr tiny_pos)
  · rw [hlast, percentile_zeros, percentile_zeros, sub_zero] at hsees
    exact absurd hsees (not_le.mpr tiny_pos)
  · norm_num [defaultConfig] at hsees
  · norm_num [defaultConfig] at hsees

end Default

end Paryty.Intelligence.Statistical

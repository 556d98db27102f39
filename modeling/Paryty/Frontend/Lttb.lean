import Mathlib.Algebra.Order.Floor.Semifield
import Mathlib.Algebra.Order.Ring.Abs
import Mathlib.Data.List.GetD
import Mathlib.Data.Rat.Floor
import Mathlib.Tactic.NormNum
import Paryty.Lib.FirstMax

/-!
# Largest-triangle downsampling

`lttbDownsample` of `frontend/src/engine/processing/metrics.ts`: of each bucket of a series the
point is kept that spans the largest triangle with the point kept before and the average of the
next bucket.

The buckets partition the interior (`border_lt`, `border_last`), so the sample has the right size
and order. The bucket after the last one is empty, and its average is taken to be the origin;
`right_iff_lastAgrees` says when that makes no difference.

Times and values are exact rationals; times are in milliseconds.
-/

namespace Paryty.Frontend.Lttb

/-! ## The code -/

/-- `MetricDataPoint`; the time stands for `new Date(timestamp).getTime()`. -/
structure MetricDataPoint where
  time : ℚ
  value : ℚ
deriving DecidableEq, Inhabited

/-- `data[j]`. -/
def pointAt (data : List MetricDataPoint) (j : ℕ) : MetricDataPoint := data.getD j default

/-- `Math.floor(i * bucketSize) + 1`. -/
def border (n threshold i : ℕ) : ℕ := ⌊(i * ((n - 2) / (threshold - 2)) : ℚ)⌋₊ + 1

def bucketStart (n threshold i : ℕ) : ℕ := border n threshold (i - 1)

def bucketEnd (n threshold i : ℕ) : ℕ := min (border n threshold i) (n - 1)

/-- The average of the points from `start` on below `stop`; the origin if there are none. -/
def average (data : List MetricDataPoint) (start stop : ℕ) : MetricDataPoint :=
  let js := List.range' start (stop - start)
  let avgTimestamp := (js.map fun j => (pointAt data j).time).sum
  let avgValue := (js.map fun j => (pointAt data j).value).sum
  let nextBucketLen := stop - start
  if nextBucketLen > 0 then ⟨avgTimestamp / nextBucketLen, avgValue / nextBucketLen⟩
  else ⟨avgTimestamp, avgValue⟩

/-- Twice the area of a triangle. -/
def area (prev avg cur : MetricDataPoint) : ℚ :=
  |(prev.time - avg.time) * (cur.value - prev.value) -
    (prev.time - cur.time) * (avg.value - prev.value)|

/-- The loop over the points of a bucket. -/
def maxIndexLoop (area : ℕ → ℚ) : (js : List ℕ) → (maxArea : ℚ) → (maxIndex : ℕ) → ℕ
  | [], _, maxIndex => maxIndex
  | j :: js, maxArea, maxIndex =>
    if area j > maxArea then maxIndexLoop area js (area j) j
    else maxIndexLoop area js maxArea maxIndex

/-- The point of the bucket `i` that is kept, after that at `prevIndex`. -/
def maxIndex (data : List MetricDataPoint) (threshold i prevIndex : ℕ) : ℕ :=
  let n := data.length
  let start := bucketStart n threshold i
  let avg := average data (bucketStart n threshold (i + 1)) (bucketEnd n threshold (i + 1))
  maxIndexLoop (fun j => area (pointAt data prevIndex) avg (pointAt data j))
    (List.range' start (bucketEnd n threshold i - start)) (-1) start

/-- The loop over the buckets. -/
def sampleLoop (data : List MetricDataPoint) (threshold : ℕ) :
    (buckets : List ℕ) → (prevIndex : ℕ) → List MetricDataPoint
  | [], _ => []
  | i :: buckets, prevIndex =>
    let m := maxIndex data threshold i prevIndex
    pointAt data m :: sampleLoop data threshold buckets m

/-- `lttbDownsample`. -/
def lttbDownsample (data : List MetricDataPoint) (threshold : ℕ) : List MetricDataPoint :=
  if data.length ≤ threshold ∨ threshold < 3 then data
  else
    pointAt data 0 :: sampleLoop data threshold (List.range' 1 (threshold - 2)) 0 ++
      [pointAt data (data.length - 1)]

/-! ## What a sample should be -/

/-- The third corner for the bucket `i`: the average of the next bucket, for the last bucket the
last point. -/
def corner (data : List MetricDataPoint) (threshold i : ℕ) : MetricDataPoint :=
  if i = threshold - 2 then pointAt data (data.length - 1)
  else
    average data (bucketStart data.length threshold (i + 1))
      (bucketEnd data.length threshold (i + 1))

/-- The buckets are consecutive and partition the interior of `n` points. -/
structure Partition (n threshold : ℕ) : Prop where
  first : bucketStart n threshold 1 = 1
  last : bucketEnd n threshold (threshold - 2) = n - 1
  next : ∀ i, 1 ≤ i → i < threshold - 2 →
    bucketEnd n threshold i = bucketStart n threshold (i + 1)
  nonempty : ∀ i, 1 ≤ i → i ≤ threshold - 2 → bucketStart n threshold i < bucketEnd n threshold i

/-- The points of the sample are those at `index`. -/
structure Sampled (data : List MetricDataPoint) (threshold : ℕ) (sample : List MetricDataPoint)
    (index : ℕ → ℕ) : Prop where
  points : sample = (List.range threshold).map fun i => pointAt data (index i)
  first : index 0 = 0
  last : index (threshold - 1) = data.length - 1
  increasing : ∀ i j, i < j → j < threshold → index i < index j
  bucket : ∀ i, 1 ≤ i → i ≤ threshold - 2 →
    bucketStart data.length threshold i ≤ index i ∧ index i < bucketEnd data.length threshold i
  /-- No point of a bucket spans a larger triangle than the one that is kept. -/
  largest : ∀ i, 1 ≤ i → i ≤ threshold - 2 → ∀ j, bucketStart data.length threshold i ≤ j →
    j < bucketEnd data.length threshold i →
      area (pointAt data (index (i - 1))) (corner data threshold i) (pointAt data j) ≤
        area (pointAt data (index (i - 1))) (corner data threshold i) (pointAt data (index i))

/-- What a sample should be. -/
def Right (data : List MetricDataPoint) (threshold : ℕ) (sample : List MetricDataPoint) : Prop :=
  Partition data.length threshold ∧ ∃ index, Sampled data threshold sample index

/-- In each bucket before the last, `index` is the first point that spans the largest triangle. -/
structure Greedy (data : List MetricDataPoint) (threshold : ℕ) (index : ℕ → ℕ) : Prop where
  start : index 0 = 0
  next : ∀ i, 1 ≤ i → i < threshold - 2 →
    Lib.FirstMax (fun j =>
        area (pointAt data (index (i - 1))) (corner data threshold i) (pointAt data j))
      (bucketStart data.length threshold i) (bucketEnd data.length threshold i) (index i)

/-- In the last bucket, the first point that spans the largest triangle with the point before and
the origin spans the largest one with the last point. -/
def LastAgrees (data : List MetricDataPoint) (threshold : ℕ) : Prop :=
  ∀ index m, Greedy data threshold index →
    Lib.FirstMax (fun j => area (pointAt data (index (threshold - 3))) ⟨0, 0⟩ (pointAt data j))
      (bucketStart data.length threshold (threshold - 2))
      (bucketEnd data.length threshold (threshold - 2)) m →
    ∀ j, bucketStart data.length threshold (threshold - 2) ≤ j →
      j < bucketEnd data.length threshold (threshold - 2) →
      area (pointAt data (index (threshold - 3))) (pointAt data (data.length - 1))
          (pointAt data j) ≤
        area (pointAt data (index (threshold - 3))) (pointAt data (data.length - 1))
          (pointAt data m)

/-! ## Buckets -/

section Buckets

variable {n threshold i : ℕ} (hthreshold : 3 ≤ threshold) (hn : threshold < n)
include hthreshold hn

lemma border_eq (i : ℕ) : border n threshold i = i * (n - 2) / (threshold - 2) + 1 := by
  have hquotient : (i * ((n - 2) / (threshold - 2)) : ℚ) =
      ((i * (n - 2) : ℕ) : ℚ) / ((threshold - 2 : ℕ) : ℚ) := by
    push_cast [Nat.cast_sub (show 2 ≤ n by omega), Nat.cast_sub (show 2 ≤ threshold by omega)]
    ring
  rw [border, hquotient, Nat.floor_div_eq_div]

lemma border_lt (i : ℕ) : border n threshold i < border n threshold (i + 1) := by
  have hpos : 0 < threshold - 2 := by omega
  rw [border_eq hthreshold hn, border_eq hthreshold hn, Nat.succ_mul]
  have hstep : i * (n - 2) + (threshold - 2) ≤ i * (n - 2) + (n - 2) := by omega
  have hdiv := Nat.div_le_div_right (c := threshold - 2) hstep
  rw [Nat.add_div_right _ hpos] at hdiv
  omega

lemma border_mono {j : ℕ} (h : i < j) : border n threshold i < border n threshold j :=
  strictMono_nat_of_lt_succ (border_lt hthreshold hn) h

lemma border_last : border n threshold (threshold - 2) = n - 1 := by
  rw [border_eq hthreshold hn, Nat.mul_div_cancel_left _ (by omega)]
  omega

lemma bucketEnd_eq (hi : i ≤ threshold - 2) : bucketEnd n threshold i = border n threshold i := by
  have hle := (strictMono_nat_of_lt_succ (border_lt hthreshold hn)).monotone hi
  rw [border_last hthreshold hn] at hle
  exact min_eq_left hle

lemma partition : Partition n threshold where
  first := by
    rw [bucketStart, border_eq hthreshold hn]
    simp
  last := by rw [bucketEnd_eq hthreshold hn le_rfl, border_last hthreshold hn]
  next i _ hi := bucketEnd_eq hthreshold hn hi.le
  nonempty i hone hi := by
    rw [bucketEnd_eq hthreshold hn hi, bucketStart]
    exact border_mono hthreshold hn (by omega)

end Buckets

/-! ## The loops -/

section Loops

variable {data : List MetricDataPoint} {threshold : ℕ}

lemma firstMax_maxIndexLoop {f : ℕ → ℚ} {start : ℕ} (count : ℕ) {stop m : ℕ}
    (h : Lib.FirstMax f start stop m) :
    Lib.FirstMax f start (stop + count) (maxIndexLoop f (List.range' stop count) (f m) m) := by
  induction count generalizing stop m with
  | zero => exact h
  | succ count ih =>
    rw [List.range'_succ, maxIndexLoop, ← Nat.succ_add_eq_add_succ]
    split
    case isTrue hlarger => exact ih (h.replace hlarger)
    case isFalse hle => exact ih (h.keep (not_lt.mp hle))

/-- No area is as small as the first `maxArea`. -/
lemma firstMax_range {f : ℕ → ℚ} (hf : ∀ j, 0 ≤ f j) {start stop : ℕ} (h : start < stop) :
    Lib.FirstMax f start stop (maxIndexLoop f (List.range' start (stop - start)) (-1) start) := by
  obtain ⟨count, rfl⟩ := Nat.exists_eq_add_of_lt h
  have hcount : start + count + 1 - start = count + 1 := by omega
  have hlarger : f start > -1 := lt_of_lt_of_le (by norm_num) (hf start)
  rw [hcount, List.range'_succ, maxIndexLoop, if_pos hlarger, Nat.add_right_comm]
  exact firstMax_maxIndexLoop count .single

lemma firstMax_maxIndex (hthreshold : 3 ≤ threshold) (hn : threshold < data.length) {i : ℕ}
    (hone : 1 ≤ i) (hi : i ≤ threshold - 2) (prevIndex : ℕ) :
    Lib.FirstMax (fun j => area (pointAt data prevIndex)
        (average data (bucketStart data.length threshold (i + 1))
          (bucketEnd data.length threshold (i + 1))) (pointAt data j))
      (bucketStart data.length threshold i) (bucketEnd data.length threshold i)
      (maxIndex data threshold i prevIndex) :=
  firstMax_range (fun _ => abs_nonneg _) ((partition hthreshold hn).nonempty i hone hi)

/-- The points that are kept, up to the last bucket. -/
def chosen (data : List MetricDataPoint) (threshold : ℕ) : ℕ → ℕ
  | 0 => 0
  | i + 1 => maxIndex data threshold (i + 1) (chosen data threshold i)

lemma sampleLoop_eq (count i : ℕ) :
    sampleLoop data threshold (List.range' (i + 1) count) (chosen data threshold i) =
      (List.range' (i + 1) count).map fun j => pointAt data (chosen data threshold j) := by
  induction count generalizing i with
  | zero => rfl
  | succ count ih =>
    rw [List.range'_succ, sampleLoop, List.map_cons]
    exact congrArg _ (ih (i + 1))

/-- The points that are kept, with the last one. -/
def keptIndex (data : List MetricDataPoint) (threshold i : ℕ) : ℕ :=
  if i = threshold - 1 then data.length - 1 else chosen data threshold i

lemma keptIndex_of_lt {i : ℕ} (h : i < threshold - 1) :
    keptIndex data threshold i = chosen data threshold i := if_neg h.ne

variable (hthreshold : 3 ≤ threshold) (hn : threshold < data.length)
include hthreshold hn

lemma lttbDownsample_eq : lttbDownsample data threshold =
    (List.range threshold).map fun i => pointAt data (keptIndex data threshold i) := by
  have hlong : ¬ (data.length ≤ threshold ∨ threshold < 3) := by omega
  obtain ⟨count, rfl⟩ : ∃ count, threshold = count + 2 := ⟨threshold - 2, by omega⟩
  rw [lttbDownsample, if_neg hlong, show count + 2 - 2 = count by omega]
  have hloop : sampleLoop data (count + 2) (List.range' 1 count) 0 =
      (List.range' 1 count).map fun j => pointAt data (chosen data (count + 2) j) :=
    sampleLoop_eq count 0
  have hkept : (List.range' 1 count).map (fun j => pointAt data (chosen data (count + 2) j)) =
      (List.range' 1 count).map fun j => pointAt data (keptIndex data (count + 2) j) := by
    refine List.map_congr_left fun j hj => ?_
    have hlt := (List.mem_range'_1.mp hj).2
    rw [keptIndex_of_lt (by omega)]
  have hfirst : keptIndex data (count + 2) 0 = 0 := keptIndex_of_lt (by omega)
  have hlast : keptIndex data (count + 2) (1 + count) = data.length - 1 := if_pos (by omega)
  rw [hloop, hkept, List.range_eq_range', List.range'_succ, List.range'_1_concat, List.map_cons,
    List.map_append, List.map_singleton, Nat.zero_add, hfirst, hlast, List.cons_append]

lemma chosen_mem {i : ℕ} (hone : 1 ≤ i) (hi : i ≤ threshold - 2) :
    bucketStart data.length threshold i ≤ chosen data threshold i ∧
      chosen data threshold i < bucketEnd data.length threshold i := by
  obtain ⟨i, rfl⟩ := Nat.exists_eq_add_of_le' hone
  have hmax := firstMax_maxIndex hthreshold hn hone hi (chosen data threshold i)
  exact ⟨hmax.start_le, hmax.lt_stop⟩

lemma chosen_lt {i : ℕ} (hi : i < threshold - 2) :
    chosen data threshold i < chosen data threshold (i + 1) := by
  have hnext := (chosen_mem hthreshold hn (Nat.succ_pos i) hi).1
  cases i with
  | zero => exact Nat.lt_of_lt_of_le (Nat.succ_pos _) hnext
  | succ i =>
    have hend := (chosen_mem hthreshold hn (Nat.succ_pos i) hi.le).2
    rw [bucketEnd_eq hthreshold hn hi.le] at hend
    exact hend.trans_le hnext

lemma keptIndex_lt {i j : ℕ} (hij : i < j) (hj : j < threshold) :
    keptIndex data threshold i < keptIndex data threshold j := by
  have hstep : ∀ i, i + 1 < threshold →
      keptIndex data threshold i < keptIndex data threshold (i + 1) := by
    intro i hi
    rw [keptIndex_of_lt (by omega : i < threshold - 1)]
    by_cases hlast : i + 1 = threshold - 1
    · have hend := (chosen_mem hthreshold hn (by omega : 1 ≤ i) (by omega)).2
      rw [bucketEnd_eq hthreshold hn (by omega), show i = threshold - 2 by omega,
        border_last hthreshold hn] at hend
      rw [keptIndex, if_pos hlast, show i = threshold - 2 by omega]
      exact hend
    · rw [keptIndex, if_neg hlast]
      exact chosen_lt hthreshold hn (by omega)
  induction j, hij using Nat.le_induction with
  | base => exact hstep i hj
  | succ j _ ih => exact (ih (by omega)).trans (hstep j hj)

lemma greedy_chosen : Greedy data threshold (chosen data threshold) where
  start := rfl
  next i hone hi := by
    obtain ⟨i, rfl⟩ := Nat.exists_eq_add_of_le' hone
    have hmax := firstMax_maxIndex hthreshold hn hone hi.le (chosen data threshold i)
    rwa [corner, if_neg hi.ne]

lemma firstMax_last :
    Lib.FirstMax (fun j =>
        area (pointAt data (chosen data threshold (threshold - 3))) ⟨0, 0⟩ (pointAt data j))
      (bucketStart data.length threshold (threshold - 2))
      (bucketEnd data.length threshold (threshold - 2))
      (chosen data threshold (threshold - 2)) := by
  have hmax := firstMax_maxIndex hthreshold hn (by omega : 1 ≤ threshold - 2) le_rfl
    (chosen data threshold (threshold - 3))
  have horigin : average data (bucketStart data.length threshold (threshold - 2 + 1))
      (bucketEnd data.length threshold (threshold - 2 + 1)) = ⟨0, 0⟩ := by
    have hempty : bucketEnd data.length threshold (threshold - 2 + 1) -
        bucketStart data.length threshold (threshold - 2 + 1) = 0 := by
      rw [bucketStart, Nat.add_sub_cancel, border_last hthreshold hn, bucketEnd]
      omega
    simp [average, hempty]
  have hindex : chosen data threshold (threshold - 2) =
      maxIndex data threshold (threshold - 2) (chosen data threshold (threshold - 3)) := by
    rw [show threshold - 2 = threshold - 3 + 1 by omega]
    rfl
  rw [hindex]
  rwa [horigin] at hmax

omit hthreshold hn in
lemma greedy_unique {index index' : ℕ → ℕ} (h : Greedy data threshold index)
    (h' : Greedy data threshold index') {i : ℕ} (hi : i < threshold - 2) : index i = index' i := by
  induction i with
  | zero => rw [h.start, h'.start]
  | succ i ih =>
    have hmax := h.next (i + 1) (Nat.succ_pos i) hi
    have hmax' := h'.next (i + 1) (Nat.succ_pos i) hi
    rw [Nat.add_sub_cancel, ih (Nat.lt_of_succ_lt hi)] at hmax
    exact hmax.unique hmax'

end Loops

/-! ## The sample -/

section Sample

variable {data : List MetricDataPoint} {threshold : ℕ} (hthreshold : 3 ≤ threshold)
  (hn : threshold < data.length)
include hthreshold hn

lemma sampled_keptIndex (hlast : ∀ j, bucketStart data.length threshold (threshold - 2) ≤ j →
      j < bucketEnd data.length threshold (threshold - 2) →
      area (pointAt data (chosen data threshold (threshold - 3)))
          (pointAt data (data.length - 1)) (pointAt data j) ≤
        area (pointAt data (chosen data threshold (threshold - 3)))
          (pointAt data (data.length - 1)) (pointAt data (chosen data threshold (threshold - 2)))) :
    Sampled data threshold (lttbDownsample data threshold) (keptIndex data threshold) where
  points := lttbDownsample_eq hthreshold hn
  first := keptIndex_of_lt (by omega)
  last := if_pos rfl
  increasing i j hij hj := keptIndex_lt hthreshold hn hij hj
  bucket i hone hi := by
    rw [keptIndex_of_lt (by omega)]
    exact chosen_mem hthreshold hn hone hi
  largest i hone hi := by
    rw [keptIndex_of_lt (by omega), keptIndex_of_lt (by omega)]
    rcases hi.lt_or_eq with hlt | rfl
    · exact ((greedy_chosen hthreshold hn).next i hone hlt).max
    · rw [corner, if_pos rfl]
      exact hlast

end Sample

/-- The sample is right exactly if, in the last bucket, the origin and the last point agree. -/
theorem right_iff_lastAgrees (data : List MetricDataPoint) (threshold : ℕ)
    (hthreshold : 3 ≤ threshold) (hn : threshold < data.length) :
    Right data threshold (lttbDownsample data threshold) ↔ LastAgrees data threshold := by
  have hgreedy := greedy_chosen hthreshold hn
  constructor
  · rintro ⟨-, index, h⟩ index' m hindex' hm
    have hprev : index' (threshold - 3) = chosen data threshold (threshold - 3) :=
      greedy_unique hindex' hgreedy (by omega)
    rw [hprev] at hm ⊢
    obtain rfl := hm.unique (firstMax_last hthreshold hn)
    -- the points of the sample are those that the code keeps
    have hpoint : ∀ i < threshold - 1, pointAt data (index i) =
        pointAt data (chosen data threshold i) := by
      intro i hi
      have hsame : (List.range threshold).map (fun i => pointAt data (index i)) =
          (List.range threshold).map fun i => pointAt data (keptIndex data threshold i) :=
        h.points.symm.trans (lttbDownsample_eq hthreshold hn)
      rw [← keptIndex_of_lt hi]
      exact List.map_inj_left.mp hsame i (List.mem_range.mpr (by omega))
    have hlargest := h.largest (threshold - 2) (by omega) le_rfl
    rw [corner, if_pos rfl, hpoint _ (by omega), hpoint _ (by omega)] at hlargest
    exact hlargest
  · intro h
    exact ⟨partition hthreshold hn, keptIndex data threshold, sampled_keptIndex hthreshold hn
      (h _ _ hgreedy (firstMax_last hthreshold hn))⟩

/-- The last of these points is `(4, 4)`. -/
def four : List MetricDataPoint := [⟨1, 0⟩, ⟨2, 2⟩, ⟨3, 3⟩, ⟨4, 4⟩]

theorem right_iff_four : Right four 3 (lttbDownsample four 3) ↔ LastAgrees four 3 :=
  right_iff_lastAgrees four 3 (by decide) (by decide)

lemma lttbDownsample_four : lttbDownsample four 3 = [⟨1, 0⟩, ⟨3, 3⟩, ⟨4, 4⟩] := by decide +kernel

/-- With the last point `(2, 2)` spans the larger triangle, with the origin `(3, 3)`. -/
theorem not_right_four : ¬ Right four 3 (lttbDownsample four 3) := by
  rintro ⟨-, index, h⟩
  have hstart : bucketStart four.length 3 1 = 1 := by decide +kernel
  have hend : bucketEnd four.length 3 1 = 3 := by decide +kernel
  have hpoints := lttbDownsample_four.symm.trans h.points
  have hkept : pointAt four (index 1) = ⟨3, 3⟩ := (List.cons.inj (List.cons.inj hpoints).2).1.symm
  have hlargest := h.largest 1 le_rfl le_rfl 1 hstart.le (by omega)
  rw [hkept, show index (1 - 1) = 0 from h.first] at hlargest
  revert hlargest
  decide +kernel

end Paryty.Frontend.Lttb

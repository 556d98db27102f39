import Mathlib.Data.List.TakeWhile
import Mathlib.Tactic.Positivity
import Paryty.Intelligence.EnsembleForecast

/-!
# Backtests

`Backtester.run` of `intelligence/forecasting/backtesting.py`: the folds, the histories that an
ensemble is trained on inside of them, and the predictions that are scored. The measures of error
that are made of these are not part of the model.

* `Fair`: what a backtest should be, whatever the trained models are. `fair_iff`: it is so if and
  only if no fold starts before the series and every sub-model that counts is asked for the instant
  of the test point (`OnTime`).
* `Backtest.blind`: no prediction depends on the test point or what follows it.

What training makes of a history is a parameter. Every point keeps its index in the series, which
nothing looks at.
-/

namespace Paryty.Intelligence.Backtesting

open Ensemble

/-! ## The code -/

/-- An index in a slice: a negative one counts from the end. -/
def sliceIndex (n : ℕ) (i : ℤ) : ℕ := if i < 0 then (n + i).toNat else i.toNat

/-- `xs[start:stop]`. -/
def slice {α : Type} (xs : List α) (start stop : ℤ) : List α :=
  (xs.take (sliceIndex xs.length stop)).drop (sliceIndex xs.length start)

/-- `xs[start:]`. -/
def sliceFrom {α : Type} (xs : List α) (start : ℤ) : List α := xs.drop (sliceIndex xs.length start)

/-- A point of the series. -/
structure Point (α : Type) where
  index : ℕ
  ts : ℤ
  value : α
deriving DecidableEq

/-- The point, if its value is neither NaN nor infinite. -/
def Point.clean (p : Point (Option ℚ)) : Option (Point ℚ) :=
  p.value.map fun v => ⟨p.index, p.ts, v⟩

/-- `sanitize_series`. -/
def sanitizeSeries (points : List (Point (Option ℚ))) : List (Point ℚ) :=
  points.filterMap Point.clean

/-- What training makes of a history, apart from the trained models. -/
structure Learned where
  /-- The library does not fail. -/
  trains : Model → Bool
  residualStd : ℚ
  valMape : ℚ
  weights : Weights

/-- `ForecastingConfig`. -/
structure ForecastingConfig where
  windowSize : ℤ
  confidenceLevel : ℚ
  /-- `max(max_lag, max(self.rolling_windows))`. -/
  lags : ℤ

/-- `ForecastEnsemble.fit_all`, of a new ensemble, with what its clock will say. -/
def fitAll (config : ForecastingConfig) (learned : Learned) (history : List (ℤ × ℚ))
    (clock : Model → ℤ) (now : ℤ) : Setting where
  linear :=
    if 3 ≤ history.length ∧ learned.trains .linear then
      some
        { tStart :=
            ((sliceFrom history (-min (history.length : ℤ) config.windowSize)).head?.map
              Prod.fst).getD 0
          residualStd := learned.residualStd
          confidenceLevel := config.confidenceLevel }
    else none
  prophet :=
    if 1440 ≤ history.length ∧ learned.trains .prophet then
      some { lastDs := (history.map Prod.fst).max?.getD 0 }
    else none
  xgboost :=
    if 1000 ≤ history.length ∧ learned.trains .xgboost then
      some
        { lastValues := sliceFrom (history.map Prod.snd) (-config.lags)
          valMape := learned.valMape }
    else none
  weights := learned.weights
  clock := clock
  now := now

/-- The arguments of `Backtester.run`, and what it does not decide itself. -/
structure Backtest where
  /-- Timestamps and values; no value is NaN or infinite. -/
  points : List (ℤ × Option ℚ)
  stepSeconds : ℤ
  nFolds : ℤ
  /-- `int(n * train_ratio)`. -/
  initialTrain : ℤ
  expanding : Bool
  minTrainSize : ℤ
  config : ForecastingConfig
  learn : List (ℤ × ℚ) → Learned
  /-- `int(time.time())` in the sub-models and in `predict`, for the test point of an index. -/
  clock : ℕ → Model → ℤ
  now : ℕ → ℤ

/-- A test point, with the history that is trained on for it. -/
structure Attempt where
  point : Point ℚ
  context : List (Point ℚ)
deriving DecidableEq

namespace Backtest

variable (b : Backtest)

def series : List (Point (Option ℚ)) := b.points.zipIdx.map fun p => ⟨p.2, p.1.1, p.1.2⟩

/-- Where the first test range starts. -/
def firstTest : ℤ := if b.expanding then b.minTrainSize else b.initialTrain

def testSize : ℤ := max 10 ((b.points.length - b.firstTest).fdiv b.nFolds)

/-- `(train_end, test_end)` of a fold. -/
def boundary (i : ℕ) : ℤ × ℤ :=
  (b.firstTest + i * b.testSize,
    min (b.points.length : ℤ) (b.firstTest + i * b.testSize + b.testSize))

/-- `_calculate_fold_boundaries`; nothing if it divides by zero. -/
def calculateFoldBoundaries : Option (List (ℤ × ℤ)) :=
  if b.nFolds = 0 then none
  else
    some (((List.range b.nFolds.toNat).map b.boundary).takeWhile fun f =>
      f.1 < (b.points.length : ℤ) ∧ f.1 < f.2)

/-- The folds of `run`. -/
def folds : List (ℤ × ℤ) :=
  if b.points.length < b.minTrainSize + 10 then [] else b.calculateFoldBoundaries.getD []

def trainStart (trainEnd : ℤ) : ℤ := if b.expanding then 0 else max 0 (trainEnd - b.initialTrain)

def train (f : ℤ × ℤ) : List (Point (Option ℚ)) := slice b.series (b.trainStart f.1) f.1

def test (f : ℤ × ℤ) : List (Point (Option ℚ)) := slice b.series f.1 f.2

/-- `_evaluate_fold`: the histories it trains on. -/
def attempts (f : ℤ × ℤ) : List Attempt :=
  let train := sanitizeSeries (b.train f)
  let test := sanitizeSeries (b.test f)
  if train.length < 10 then []
  else
    let windowSize := min (train.length : ℤ) b.config.windowSize
    (test.zipIdx.map fun p => ⟨p.1, sliceFrom train (-windowSize) ++ test.take p.2⟩).filter
      fun a => 3 ≤ a.context.length

/-- The ensemble after `fit_all`. -/
def ensemble (a : Attempt) : Setting :=
  let history := a.context.map fun p => (p.ts, p.value)
  fitAll b.config (b.learn history) history (b.clock a.point.index) (b.now a.point.index)

/-- `result.values[0]`, if there is a result. -/
def predict (trained : List (ℤ × ℚ) → Trained) (a : Attempt) : Option ℚ :=
  ((b.ensemble a).predict (trained (a.context.map fun p => (p.ts, p.value))) b.stepSeconds
    b.stepSeconds).bind fun r => r.values.head?

/-- `_evaluate_fold`: the predictions, with what they are scored against. -/
def evaluateFold (trained : List (ℤ × ℚ) → Trained) (f : ℤ × ℤ) :
    Option (List (Attempt × ℚ)) :=
  match (b.attempts f).filterMap fun a => (b.predict trained a).map fun v => (a, v) with
  | [] => none
  | scored => some scored

/-- The fold has enough points. -/
def Enough (f : ℤ × ℤ) : Prop := b.minTrainSize ≤ (b.train f).length ∧ b.test f ≠ []

instance (f : ℤ × ℤ) : Decidable (b.Enough f) := inferInstanceAs (Decidable (_ ∧ _))

/-- `Backtester.run`: the folds that are not skipped and do not fail. -/
def run (trained : List (ℤ × ℚ) → Trained) : List ((ℤ × ℤ) × List (Attempt × ℚ)) :=
  b.folds.filterMap fun f =>
    if b.Enough f then (b.evaluateFold trained f).map fun scored => (f, scored) else none

end Backtest

/-! ## What a backtest should be -/

/-- What a sub-model predicts for an instant, as the next one. -/
def valueAt (s : Setting) (trained : Trained) : Model → ℤ → ℚ
  | .linear, t => (s.linear.map fun f => trained.line (t - f.tStart)).getD 0
  | .prophet, t => trained.yhat t
  | .xgboost, t => (s.xgboost.map fun f => trained.trees f.lastValues t).getD 0

/-- The ensemble's forecast for an instant. -/
def forecastFor (s : Setting) (trained : Trained) (t : ℤ) : ℚ :=
  (s.active.map fun m => s.share m * valueAt s trained m t).sum

namespace Backtest

variable (b : Backtest)

/-- What a backtest should be. -/
structure FairWith (trained : List (ℤ × ℚ) → Trained) : Prop where
  inside : ∀ f ∈ b.folds, 0 ≤ f.1 ∧ f.1 < f.2 ∧ f.2 ≤ b.points.length
  ascending : b.folds.Pairwise fun f g => f.2 ≤ g.1
  trainedBefore : ∀ f ∈ b.folds, ∀ p ∈ b.train f, (p.index : ℤ) < f.1
  /-- Two runs on series that agree before a test point predict the same for it. -/
  blind : ∀ points, points.length = b.points.length → ∀ f scored scored',
    (f, scored) ∈ b.run trained → (f, scored') ∈ { b with points }.run trained →
      ∀ p ∈ scored, ∀ p' ∈ scored', p.1.point.index = p'.1.point.index →
        points.take p.1.point.index = b.points.take p.1.point.index → p.2 = p'.2
  own : ∀ r ∈ b.run trained, ∀ p ∈ r.2, p.2 = forecastFor (b.ensemble p.1)
    (trained (p.1.context.map fun p => (p.ts, p.value))) p.1.point.ts

/-- Whatever the trained models are. -/
def Fair : Prop := ∀ trained, b.FairWith trained

/-- The sub-models that count are asked for the instant of the test point. -/
def OnTime : Prop :=
  ∀ f ∈ b.folds, b.Enough f → ∀ a ∈ b.attempts f, b.stepSeconds ≠ 0 →
    ∀ m ∈ (b.ensemble a).active, (b.ensemble a).share m ≠ 0 →
      (b.ensemble a).startOf b.stepSeconds m = a.point.ts

instance : Decidable b.OnTime := inferInstanceAs (Decidable (∀ f ∈ b.folds, _ → ∀ a ∈ _, _))

/-! ## Folds -/

variable {b} {f : ℤ × ℤ} {a : Attempt} {trained : List (ℤ × ℚ) → Trained}

lemma folds_eq : b.folds = [] ∨ b.folds = ((List.range b.nFolds.toNat).map b.boundary).takeWhile
    fun f => f.1 < (b.points.length : ℤ) ∧ f.1 < f.2 := by
  unfold folds calculateFoldBoundaries
  split
  · exact .inl rfl
  · split
    · exact .inl rfl
    · exact .inr rfl

lemma testSize_pos : 0 < b.testSize := lt_of_lt_of_le (by decide) (le_max_left 10 _)

lemma inside (hfirst : 0 ≤ b.firstTest) (hf : f ∈ b.folds) :
    0 ≤ f.1 ∧ f.1 < f.2 ∧ f.2 ≤ b.points.length := by
  rcases b.folds_eq with hfolds | hfolds <;> rw [hfolds] at hf
  · cases hf
  · have hopen := List.mem_takeWhile_imp hf
    obtain ⟨i, -, rfl⟩ := List.mem_map.mp ((List.takeWhile_prefix _).subset hf)
    have hsize := (testSize_pos (b := b)).le
    exact ⟨by unfold boundary; positivity, (of_decide_eq_true hopen).2, min_le_left _ _⟩

lemma ascending : b.folds.Pairwise fun f g => f.2 ≤ g.1 := by
  rcases b.folds_eq with hfolds | hfolds <;> rw [hfolds]
  · exact .nil
  · refine List.Pairwise.sublist (List.takeWhile_prefix _).sublist
      (List.pairwise_map.mpr (List.pairwise_lt_range.imp fun {i j} hij => ?_))
    have hsize : ((i : ℤ) + 1) * b.testSize ≤ j * b.testSize :=
      mul_le_mul_of_nonneg_right (by exact_mod_cast hij) testSize_pos.le
    refine (min_le_right _ _).trans ?_
    simp only [boundary]
    linarith

lemma exists_first (h : b.folds ≠ []) : ∃ f ∈ b.folds, f.1 = b.firstTest := by
  rcases b.folds_eq with hfolds | hfolds
  · exact absurd hfolds h
  · rw [hfolds] at h ⊢
    cases hn : b.nFolds.toNat with
    | zero => simp [hn] at h
    | succ n =>
      rw [hn, List.range_succ_eq_map, List.map_cons, List.takeWhile_cons] at h
      rw [List.range_succ_eq_map, List.map_cons, List.takeWhile_cons]
      split at h
      case isTrue hopen =>
        rw [if_pos hopen]
        exact ⟨_, List.mem_cons_self, by simp [boundary]⟩
      case isFalse => exact absurd rfl h

/-! ## Histories -/

lemma index_of_getElem? {k : ℕ} {p : Point (Option ℚ)} (h : b.series[k]? = some p) :
    p.index = k := by
  simp only [series, List.getElem?_map, List.getElem?_zipIdx, Option.map_map,
    Option.map_eq_some_iff] at h
  obtain ⟨_, -, rfl⟩ := h
  simp

@[simp] lemma length_series : b.series.length = b.points.length := by simp [series]

lemma series_take {points : List (ℤ × Option ℚ)} {k : ℕ} (h : points.take k = b.points.take k) :
    ({ b with points }.series).take k = b.series.take k := by
  refine List.ext_getElem? fun i => ?_
  by_cases hi : i < k
  · have hget : points[i]? = b.points[i]? := by
      rw [← List.getElem?_take_of_lt hi, h, List.getElem?_take_of_lt hi]
    simp [series, hi, hget]
  · simp [hi]

lemma index_lt_of_mem_train (hf : 0 ≤ f.1) {p : Point (Option ℚ)} (hp : p ∈ b.train f) :
    (p.index : ℤ) < f.1 := by
  obtain ⟨k, hk⟩ := List.mem_iff_getElem?.mp (List.mem_of_mem_drop hp)
  rw [List.getElem?_take] at hk
  split at hk
  case isTrue hlt =>
    rw [sliceIndex, if_neg (by omega)] at hlt
    rw [index_of_getElem? hk]
    omega
  case isFalse => cases hk

lemma take_filterMap {α β : Type} (g : α → Option β) {xs : List α} {i : ℕ} {y : β}
    (h : (xs.filterMap g)[i]? = some y) :
    ∃ j x, xs[j]? = some x ∧ g x = some y ∧
      (xs.filterMap g).take i = (xs.take j).filterMap g := by
  induction xs generalizing i with
  | nil => cases h
  | cons x xs ih =>
    cases hx : g x with
    | none =>
      rw [List.filterMap_cons_none hx] at h ⊢
      obtain ⟨j, x', hj, hg, htake⟩ := ih h
      exact ⟨j + 1, x', hj, hg, by rw [htake, List.take_succ_cons, List.filterMap_cons_none hx]⟩
    | some y' =>
      rw [List.filterMap_cons_some hx] at h ⊢
      cases i with
      | zero =>
        obtain rfl := Option.some.inj h
        exact ⟨0, x, rfl, hx, rfl⟩
      | succ i =>
        obtain ⟨j, x', hj, hg, htake⟩ := ih h
        exact ⟨j + 1, x', hj, hg, by
          rw [List.take_succ_cons, htake, List.take_succ_cons, List.filterMap_cons_some hx]⟩

/-- What is trained on for a test point, made of what comes before it. -/
def history (b : Backtest) (f : ℤ × ℤ) (before : List (Point (Option ℚ))) : List (Point ℚ) :=
  let train := sanitizeSeries ((before.take (sliceIndex b.points.length f.1)).drop
    (sliceIndex b.points.length (b.trainStart f.1)))
  sliceFrom train (-min (train.length : ℤ) b.config.windowSize) ++
    sanitizeSeries (before.drop (sliceIndex b.points.length f.1))

lemma context_eq (ha : a ∈ b.attempts f) :
    a.context = b.history f (b.series.take a.point.index) := by
  dsimp only [attempts] at ha
  split at ha
  · cases ha
  · obtain ⟨p, hp, rfl⟩ := List.mem_map.mp (List.mem_of_mem_filter ha)
    obtain ⟨j, x, hx, hclean, htake⟩ :=
      take_filterMap Point.clean (List.mem_zipIdx_iff_getElem?.mp hp)
    obtain ⟨v, -, hpoint⟩ := Option.map_eq_some_iff.mp hclean
    rw [test, slice, length_series, List.getElem?_drop, List.getElem?_take] at hx
    split at hx
    case isFalse => cases hx
    case isTrue hlt =>
      have hindex : p.1.index = sliceIndex b.points.length f.1 + j := by
        rw [← hpoint]
        exact index_of_getElem? hx
      have hbefore : (b.test f).take j =
          (b.series.take p.1.index).drop (sliceIndex b.points.length f.1) := by
        rw [test, slice, length_series, List.take_drop, List.take_take, hindex,
          min_eq_left hlt.le]
      have htrain : b.train f =
          ((b.series.take p.1.index).take (sliceIndex b.points.length f.1)).drop
            (sliceIndex b.points.length (b.trainStart f.1)) := by
        rw [train, slice, length_series, List.take_take, min_eq_left (by omega)]
      simp only [history, ← htrain, ← hbefore]
      exact congrArg _ htake

/-- **No prediction depends on what follows.** -/
theorem blind (trained : List (ℤ × ℚ) → Trained) {points : List (ℤ × Option ℚ)}
    (hlength : points.length = b.points.length) {f : ℤ × ℤ} {a a' : Attempt}
    (ha : a ∈ b.attempts f) (ha' : a' ∈ { b with points }.attempts f)
    (hindex : a.point.index = a'.point.index)
    (hbefore : points.take a.point.index = b.points.take a.point.index) :
    b.predict trained a = { b with points }.predict trained a' := by
  have hcontext : a.context = a'.context := by
    rw [context_eq ha, context_eq ha', ← hindex, series_take hbefore]
    simp only [history, hlength]
    rfl
  unfold predict ensemble
  rw [hcontext, hindex]

end Backtest

/-! ## One point ahead -/

section OneAhead

variable {s : Setting} {trained : Trained} {step : ℤ} {m : Model}

lemma nSteps_self (hstep : step ≠ 0) : nSteps step step = 1 := by
  rw [nSteps, Int.fdiv_self hstep]
  rfl

lemma pointsOf_self (hstep : step ≠ 0) (m : Model) : pointsOf step step m = 1 := by
  cases m with
  | linear | prophet => exact nSteps_self hstep
  | xgboost =>
    change nSteps (if step > 86400 then 86400 else step) step = 1
    split
    case isTrue h =>
      rw [nSteps, Int.fdiv_eq_ediv_of_nonneg _ (by omega),
        Int.ediv_eq_zero_of_lt (by decide) (by omega)]
      rfl
    case isFalse => exact nSteps_self hstep

lemma forecast_self (hstep : step ≠ 0) (hm : s.isFitted m = true) :
    spread 1 ((s.forecast trained step step m).series .values) 0 =
      valueAt s trained m (s.startOf step m) := by
  obtain ⟨hresult, hpoints⟩ : s.result trained step step m = _ ∧ _ := result_eq_forecast hstep hm
  have hsize : 0 < nSteps step step := nSteps_pos step step
  rw [pointsOf_self hstep] at hpoints
  cases m with
  | linear | prophet =>
    obtain ⟨f, hf⟩ := Option.isSome_iff_exists.mp hm
    simp only [Setting.result, hf, Option.bind_some] at hresult
    rw [ForecastResult.series, spread_eq hpoints.values (f.value hresult hsize)]
    simp [valueAt, Setting.startOf, hf]
  | xgboost =>
    obtain ⟨f, hf⟩ := Option.isSome_iff_exists.mp hm
    have hone : nSteps (cappedHorizon step) step = 1 := pointsOf_self hstep .xgboost
    simp only [Setting.result, hf, Option.bind_some, XGBoostForecaster.predict, if_neg hstep, hone,
      grid, List.range_one, List.map_cons, List.map_nil, recursivePredictions] at hresult
    rw [← Option.some.inj hresult]
    simp [ForecastResult.series, spread, valueAt, Setting.startOf, hf]

lemma predict_self (hstep : step ≠ 0) :
    ((s.predict trained step step).bind fun r => r.values.head?) =
      some (s.active.map fun m => s.share m * valueAt s trained m (s.startOf step m)).sum := by
  cases hactive : s.active with
  | nil =>
    have hnone : models.findSome? (s.result trained step step) = none :=
      List.findSome?_eq_none_iff.mpr fun m hm => result_of_not_fitted
        (by simpa using List.filter_eq_nil_iff.mp hactive m hm)
    unfold Setting.predict
    simp only [predictions_eq hstep, hactive, List.map_nil, hnone]
    simp [persistence, hstep, nSteps_self hstep]
  | cons first rest =>
    obtain ⟨r, hr, hpoints, hvalues⟩ : ∃ r, s.predict trained step step = some r ∧ _ :=
      predict_spec hstep hactive fun m _ => .inr (pointsOf_self hstep m)
    rw [pointsOf_self hstep] at hpoints hvalues
    obtain ⟨v, hv⟩ := List.length_eq_one_iff.mp hpoints.values
    have htotal : v = s.total trained step step 1 .values 0 := by
      simpa [ForecastResult.series, hv] using hvalues .values 0 Nat.one_pos
    rw [hr, Option.bind_some, hv, List.head?_cons, htotal, Setting.total, ← hactive]
    refine congrArg (fun l => some (List.sum l)) (List.map_congr_left fun m hm => ?_)
    rw [forecast_self hstep (isFitted_of_mem hm)]

lemma predict_zero : s.predict trained 0 0 = none := by
  have hnone (m : Model) : s.result trained 0 0 m = none := by
    cases m with
    | linear => cases hf : s.linear <;> simp [Setting.result, hf, LinearForecaster.predict]
    | prophet => cases hf : s.prophet <;> simp [Setting.result, hf, ProphetForecaster.predict]
    | xgboost => cases hf : s.xgboost <;> simp [Setting.result, hf, XGBoostForecaster.predict]
  simp [Setting.predict, models, hnone, persistence]

/-- Models that predict 1 for one sub-model and instant, and 0 otherwise. -/
def probe (s : Setting) (m : Model) (t : ℤ) : Trained where
  line x := if m = .linear ∧ x = t - (s.linear.map LinearForecaster.tStart).getD 0 then 1 else 0
  yhat x := if m = .prophet ∧ x = t then 1 else 0
  yhatLower _ := 0
  yhatUpper _ := 0
  trees _ x := if m = .xgboost ∧ x = t then 1 else 0

lemma valueAt_probe {m' : Model} (hm' : s.isFitted m' = true) (t x : ℤ) :
    valueAt s (probe s m t) m' x = if m = m' ∧ x = t then 1 else 0 := by
  cases m' with
  | linear =>
    obtain ⟨f, hf⟩ := Option.isSome_iff_exists.mp hm'
    simp [valueAt, probe, hf]
  | prophet => rfl
  | xgboost =>
    obtain ⟨f, hf⟩ := Option.isSome_iff_exists.mp hm'
    simp [valueAt, probe, hf]

lemma startOf_eq (hm : m ∈ s.active) (hshare : s.share m ≠ 0) {t : ℤ}
    (h : (s.active.map fun m' => s.share m' *
        valueAt s (probe s m (s.startOf step m)) m' (s.startOf step m')).sum =
      forecastFor s (probe s m (s.startOf step m)) t) : s.startOf step m = t := by
  have hnodup : s.active.Nodup := List.Nodup.filter _ (by decide)
  by_contra hne
  have hzero : forecastFor s (probe s m (s.startOf step m)) t = 0 := by
    refine List.sum_eq_zero fun x hx => ?_
    obtain ⟨m', hm', rfl⟩ := List.mem_map.mp hx
    rw [valueAt_probe (isFitted_of_mem hm'), if_neg fun h => hne h.2.symm, mul_zero]
  rw [hzero, List.sum_map_eq_nsmul_single m _ fun m' hother hm' => by
    rw [valueAt_probe (isFitted_of_mem hm'), if_neg fun h => hother h.1.symm, mul_zero],
    List.count_eq_one_of_mem hnodup hm, one_nsmul, valueAt_probe (isFitted_of_mem hm),
    if_pos ⟨rfl, rfl⟩, mul_one] at h
  exact hshare h

end OneAhead

/-! ## Fair backtests -/

namespace Backtest

variable {b : Backtest} {f : ℤ × ℤ} {trained : List (ℤ × ℚ) → Trained}

lemma mem_run {scored : List (Attempt × ℚ)} (h : (f, scored) ∈ b.run trained) :
    f ∈ b.folds ∧ b.Enough f ∧
      ∀ p ∈ scored, p.1 ∈ b.attempts f ∧ b.predict trained p.1 = some p.2 := by
  obtain ⟨f', hf', hfold⟩ := List.mem_filterMap.mp h
  split at hfold
  case isFalse => cases hfold
  case isTrue henough =>
    obtain ⟨scored', hscored, heq⟩ := Option.map_eq_some_iff.mp hfold
    obtain ⟨rfl, rfl⟩ := Prod.mk.inj heq
    refine ⟨hf', henough, fun p hp => ?_⟩
    unfold evaluateFold at hscored
    split at hscored
    · cases hscored
    · obtain rfl := Option.some.inj hscored
      obtain ⟨a, ha, hpredict⟩ := List.mem_filterMap.mp hp
      obtain ⟨v, hv, rfl⟩ := Option.map_eq_some_iff.mp hpredict
      exact ⟨ha, hv⟩

lemma exists_run (hf : f ∈ b.folds) (henough : b.Enough f) {a : Attempt} {v : ℚ}
    (ha : a ∈ b.attempts f) (hv : b.predict trained a = some v) :
    ∃ scored, (f, scored) ∈ b.run trained ∧ (a, v) ∈ scored := by
  have hmem : (a, v) ∈ (b.attempts f).filterMap fun a =>
      (b.predict trained a).map fun v => (a, v) :=
    List.mem_filterMap.mpr ⟨a, ha, by rw [hv]; rfl⟩
  refine ⟨_, List.mem_filterMap.mpr ⟨f, hf, ?_⟩, hmem⟩
  rw [if_pos henough, evaluateFold]
  split
  case h_1 hnil =>
    rw [hnil] at hmem
    cases hmem
  case h_2 => rfl

lemma fairWith_of_onTime (hfirst : 0 ≤ b.firstTest) (honTime : b.OnTime)
    (trained : List (ℤ × ℚ) → Trained) : b.FairWith trained where
  inside _ hf := inside hfirst hf
  ascending := ascending
  trainedBefore f hf _ hp := index_lt_of_mem_train (inside hfirst hf).1 hp
  blind points hlength f scored scored' hrun hrun' p hp p' hp' hindex hbefore := by
    obtain ⟨ha, hv⟩ := (mem_run hrun).2.2 p hp
    obtain ⟨ha', hv'⟩ := (mem_run hrun').2.2 p' hp'
    rw [blind trained hlength ha ha' hindex hbefore] at hv
    exact Option.some.inj (hv.symm.trans hv')
  own := by
    rintro ⟨f, scored⟩ hr p hp
    obtain ⟨hf, henough, hscored⟩ := mem_run hr
    obtain ⟨ha, hv⟩ := hscored p hp
    by_cases hstep : b.stepSeconds = 0
    · rw [predict, hstep, predict_zero] at hv
      cases hv
    · rw [predict, predict_self hstep] at hv
      rw [← Option.some.inj hv]
      refine congrArg List.sum (List.map_congr_left fun m hm => ?_)
      by_cases hshare : (b.ensemble p.1).share m = 0
      · rw [hshare, zero_mul, zero_mul]
      · rw [honTime f hf henough p.1 ha hstep m hm hshare]

lemma onTime_of_fair (h : b.Fair) : b.OnTime := by
  intro f hf henough a ha hstep m hm hshare
  let trained := fun _ : List (ℤ × ℚ) =>
    probe (b.ensemble a) m ((b.ensemble a).startOf b.stepSeconds m)
  have hpredict : b.predict trained a = _ := predict_self hstep
  obtain ⟨scored, hrun, hmem⟩ := exists_run hf henough ha hpredict
  exact startOf_eq hm hshare ((h trained).own _ hrun _ hmem)

/-- **Backtests compare like with like**, and when. For every series, both modes, all parameters
with a fold, whatever the clock says, the libraries make of a history and fail at. -/
theorem fair_iff (hfolds : b.folds ≠ []) : b.Fair ↔ 0 ≤ b.firstTest ∧ b.OnTime := by
  constructor
  · intro h
    obtain ⟨f, hf, hfirst⟩ := exists_first hfolds
    exact ⟨hfirst ▸ ((h fun _ => probe ⟨none, none, none, [], fun _ => 0, 0⟩ .linear 0).inside f
      hf).1, onTime_of_fair h⟩
  · rintro ⟨hfirst, honTime⟩
    exact fairWith_of_onTime hfirst honTime

/-- Twenty points, one a minute, of which the last ten are the test range. -/
def minutely (clock : ℕ → Model → ℤ) : Backtest where
  points := (List.range 20).map fun i => (60 * i, some i)
  stepSeconds := 60
  nFolds := 1
  initialTrain := 10
  expanding := false
  minTrainSize := 10
  config := ⟨5, 95 / 100, 60⟩
  learn _ := ⟨fun m => m = .linear, 1, 0, []⟩
  clock := clock
  now i := clock i .linear

/-- With a clock that goes along with the series it would be fair. -/
theorem fair_iff_minutely : (minutely fun i _ => 60 * i).Fair :=
  (fair_iff (by decide)).mpr ⟨by decide, by decide +kernel⟩

/-- The clock says when the backtest is run. -/
theorem not_fair_minutely : ¬ (minutely fun _ _ => 1700000000).Fair :=
  fun h => absurd (onTime_of_fair h) (by decide +kernel)

end Backtest

end Paryty.Intelligence.Backtesting

import Mathlib.Data.List.GetD
import Paryty.Intelligence.EnsembleWeights
import Paryty.Intelligence.Forecasters

/-!
# The forecast of the ensemble

`ForecastEnsemble.predict` of `intelligence/forecasting/ensemble.py`: the forecasts of the fitted
sub-models, added up point by point with their weights.

* `Setting` is everything a forecast depends on apart from the trained models: what has been fitted,
  the weights, and what each sub-model reads from the clock.
* `Sound` is what a forecast should be, and `Aligned` when it is, whatever the trained models are:
  `sound_iff_aligned`. A sub-model takes part with the points that it returns, in their order.
  Prophet is asked for the instants after its history, and XGBoost returns no more than a day.
* `predict_spec` and `fits_of_predict` are about `predict` itself: its points, and which arrays
  numpy can add up.
-/

namespace Paryty.Intelligence.Ensemble

/-! ## The code -/

/-- The sub-models. -/
inductive Model
  | linear
  | prophet
  | xgboost
deriving DecidableEq

/-- The name of a sub-model. -/
def Model.name : Model → String
  | linear => "linear"
  | prophet => "prophet"
  | xgboost => "xgboost"

/-- The sub-models, in the order in which `predict` calls them. -/
def models : List Model := [.linear, .prophet, .xgboost]

/-- What a forecast depends on, apart from the trained models. -/
structure Setting where
  linear : Option LinearForecaster := none
  prophet : Option ProphetForecaster := none
  xgboost : Option XGBoostForecaster := none
  weights : Weights
  /-- `int(time.time())`, in the call of each sub-model. -/
  clock : Model → ℤ
  /-- The same in `predict` itself. -/
  now : ℤ

/-- What `model.predict` returns; nothing if the model is not fitted or the call raises. -/
def Setting.result (s : Setting) (trained : Trained) (horizon step : ℤ) :
    Model → Option ForecastResult
  | .linear => s.linear.bind fun f => f.predict trained.line (s.clock .linear) horizon step
  | .prophet => s.prophet.bind fun f => f.predict trained (s.clock .prophet) horizon step
  | .xgboost => s.xgboost.bind fun f => f.predict trained.trees (s.clock .xgboost) horizon step

/-- `combined += array`: an array of one number is added to all entries. -/
def addTo (combined array : List ℚ) : Option (List ℚ) :=
  if array.length = combined.length then some (combined.zipWith (· + ·) array)
  else if array.length = 1 then some (combined.map fun x => x + array.headD 0)
  else none

/-- The arrays that `predict` adds to. -/
structure Combined where
  values : List ℚ
  lower : List ℚ
  upper : List ℚ
  confidence : ℚ

/-- `np.zeros(n_steps)`, for each of them. -/
def zeros (n : ℕ) : Combined :=
  ⟨List.replicate n 0, List.replicate n 0, List.replicate n 0, 0⟩

/-- `predict`: add the forecast of a sub-model. -/
def combine (activeWeights : Weights) (c : Combined) (p : Model × ForecastResult) :
    Option Combined := do
  let w ← getItem activeWeights p.1.name
  let values ← addTo c.values (p.2.values.map (w * ·))
  let lower ← addTo c.lower (p.2.lowerBound.map (w * ·))
  let upper ← addTo c.upper (p.2.upperBound.map (w * ·))
  return ⟨values, lower, upper, c.confidence + w * p.2.confidence⟩

/-- `predict`: the forecast that is returned. -/
def Combined.toResult (c : Combined) (timestamps : List ℤ) : ForecastResult where
  timestamps := timestamps
  values := c.values
  lowerBound := c.lower
  upperBound := c.upper
  confidence := clip c.confidence (1 / 10) (95 / 100)
  modelName := "ensemble"

/-- `predict`: redistribute the weights among the active models. -/
def redistribute (activeWeights : Weights) : Weights :=
  if 0 < sumValues activeWeights then divideBy (sumValues activeWeights) activeWeights
  else activeWeights

/-- `predict`: the last resort. No `LinearForecaster` has a `_last_value`, so the value is 0. -/
def persistence (now horizon step : ℤ) : Option ForecastResult :=
  if step = 0 then none
  else
    let n := nSteps horizon step
    some
      { timestamps := grid now step n
        values := List.replicate n 0
        lowerBound := List.replicate n (0 * (8 / 10))
        upperBound := List.replicate n (0 * (12 / 10))
        confidence := 1 / 10
        modelName := "persistence_fallback" }

/-- `predict`. Without predictions the fitted models are tried once more. -/
def Setting.predict (s : Setting) (trained : Trained) (horizon step : ℤ) : Option ForecastResult :=
  let predictions := models.filterMap fun m => (s.result trained horizon step m).map fun r => (m, r)
  let activeWeights := predictions.map fun p =>
    (p.1.name, (getItem s.weights p.1.name).getD (1 / 3))
  match predictions with
  | [] =>
    (models.findSome? (s.result trained horizon step)).or (persistence s.now horizon step)
  | first :: _ => do
    let nothing := zeros first.2.timestamps.length
    let c ← predictions.foldlM (combine (redistribute activeWeights)) nothing
    return c.toResult first.2.timestamps

/-! ## What a forecast should be -/

/-- The sub-model has been fitted. -/
def Setting.isFitted (s : Setting) : Model → Bool
  | .linear => s.linear.isSome
  | .prophet => s.prophet.isSome
  | .xgboost => s.xgboost.isSome

/-- The fitted sub-models. -/
def Setting.active (s : Setting) : List Model := models.filter s.isFitted

/-- What a sub-model predicts for an instant: for any, if it is a function of the instant, and for
those of its forecast, if it goes from one to the next. -/
def Setting.predictedFor (s : Setting) (trained : Trained) (horizon step : ℤ) :
    Model → ℤ → Option ℚ
  | .linear, t => s.linear.map fun f => trained.line (t - f.tStart)
  | .prophet, t => s.prophet.map fun _ => trained.yhat t
  | .xgboost, t => (s.result trained horizon step .xgboost).bind fun r =>
      (r.timestamps.zip r.values).lookup t

/-- The values are within the bounds. -/
def ForecastResult.InBounds (r : ForecastResult) : Prop :=
  List.Forall₂ (· ≤ ·) r.lowerBound r.values ∧ List.Forall₂ (· ≤ ·) r.values r.upperBound

/-- What a forecast should be. -/
structure Sound (s : Setting) (trained : Trained) (horizon step : ℤ) (r : ForecastResult) :
    Prop where
  points : r.timestamps.length = nSteps horizon step ∧ r.values.length = nSteps horizon step ∧
    r.lowerBound.length = nSteps horizon step ∧ r.upperBound.length = nSteps horizon step
  /-- A value is between two that active sub-models predict for its instant. -/
  convex : ∀ (k : ℕ) (t : ℤ) (v : ℚ), r.timestamps[k]? = some t → r.values[k]? = some v →
    (∃ m u, s.predictedFor trained horizon step m t = some u ∧ u ≤ v) ∧
      ∃ m u, s.predictedFor trained horizon step m t = some u ∧ v ≤ u
  inBounds : (∀ m r', s.result trained horizon step m = some r' → r'.InBounds) → r.InBounds

/-- The weight of a sub-model, before the weights are redistributed. -/
def Setting.weightOf (s : Setting) (m : Model) : ℚ := (getItem s.weights m.name).getD (1 / 3)

/-- The instant of the first point a sub-model is asked for. -/
def Setting.startOf (s : Setting) (step : ℤ) : Model → ℤ
  | .linear => s.clock .linear
  | .prophet => (s.prophet.map ProphetForecaster.lastDs).getD 0 + step
  | .xgboost => s.clock .xgboost

/-- The instant of the first point of the forecast. -/
def Setting.reported (s : Setting) : ℤ := (s.active.head?.map s.clock).getD 0

/-- The number of points of a sub-model. -/
def pointsOf (horizon step : ℤ) : Model → ℕ
  | .xgboost => nSteps (cappedHorizon horizon) step
  | _ => nSteps horizon step

/-- The sub-models take part with the right points: no weight is negative and not all are zero, a
sub-model with a weight starts at the instant that is reported first, and XGBoost returns all points
that are asked for, unless it has no weight and returns a single point. -/
structure Aligned (s : Setting) (horizon step : ℤ) : Prop where
  nonneg : ∀ m ∈ s.active, 0 ≤ s.weightOf m
  pos : 0 < (s.active.map s.weightOf).sum
  starts : ∀ m ∈ s.active, s.weightOf m ≠ 0 → s.startOf step m = s.reported
  sizes : ∀ m ∈ s.active, pointsOf horizon step m = nSteps horizon step ∨
    (s.weightOf m = 0 ∧ pointsOf horizon step m = 1)

/-! ## Adding arrays -/

/-- The arrays of a forecast. -/
inductive Series
  | values
  | lower
  | upper

/-- An array of a forecast. -/
def ForecastResult.series (r : ForecastResult) : Series → List ℚ
  | .values => r.values
  | .lower => r.lowerBound
  | .upper => r.upperBound

/-- An array of those that are added to. -/
def Combined.series (c : Combined) : Series → List ℚ
  | .values => c.values
  | .lower => c.lower
  | .upper => c.upper

/-- What an array has for the entry `k` of `n`: the entry, or the only one that it has. -/
def spread (n : ℕ) (array : List ℚ) (k : ℕ) : ℚ := array.getD (if array.length = n then k else 0) 0

lemma spread_map (w : ℚ) (n : ℕ) (array : List ℚ) (k : ℕ) :
    spread n (array.map (w * ·)) k = w * spread n array k := by
  have hget (i : ℕ) : (array.map (w * ·)).getD i (w * 0) = w * array.getD i 0 :=
    List.getD_map array 0 (w * ·)
  rw [mul_zero] at hget
  rw [spread, spread, List.length_map, hget]

lemma addTo_spec {combined array : List ℚ}
    (h : array.length = combined.length ∨ array.length = 1) : ∃ total,
      addTo combined array = some total ∧ total.length = combined.length ∧
      ∀ k < combined.length,
        total.getD k 0 = combined.getD k 0 + spread combined.length array k := by
  unfold addTo spread
  by_cases hsame : array.length = combined.length
  · refine ⟨_, if_pos hsame, by simp [hsame], fun k hk => ?_⟩
    simp [hsame, List.getD_eq_getElem?_getD, hk]
  · have hone : array.length = 1 := h.resolve_left hsame
    obtain ⟨x, rfl⟩ := List.length_eq_one_iff.mp hone
    refine ⟨combined.map fun y => y + x, by rw [if_neg hsame, if_pos hone]; rfl, by simp,
      fun k hk => ?_⟩
    have hone' : ¬ 1 = combined.length := hsame
    simp [hone', List.getD_eq_getElem?_getD, hk]

lemma length_of_addTo {combined array total : List ℚ} (h : addTo combined array = some total) :
    (array.length = combined.length ∨ array.length = 1) ∧ total.length = combined.length := by
  unfold addTo at h
  split at h
  case isTrue hsame =>
    obtain rfl := Option.some.inj h
    exact ⟨.inl hsame, by simp [hsame]⟩
  case isFalse =>
    split at h
    case isTrue hone =>
      obtain rfl := Option.some.inj h
      exact ⟨.inr hone, by simp⟩
    case isFalse => exact nomatch h

section Fold

variable {weights : Weights} {c c' : Combined} {p : Model × ForecastResult}
  {ps : List (Model × ForecastResult)} {w : Model → ℚ} {n : ℕ}

/-- The forecast has arrays of one length, as many entries as are added to or one. -/
def Fits (n : ℕ) (r : ForecastResult) : Prop :=
  ∃ size, (size = n ∨ size = 1) ∧ ∀ series, (r.series series).length = size

lemma combine_spec (hw : getItem weights p.1.name = some (w p.1))
    (hc : ∀ series, (c.series series).length = n) (hp : Fits n p.2) :
    ∃ c', combine weights c p = some c' ∧ ∀ series, (c'.series series).length = n ∧
      ∀ k < n, (c'.series series).getD k 0 =
        (c.series series).getD k 0 + w p.1 * spread n (p.2.series series) k := by
  obtain ⟨size, hsize, hlength⟩ := hp
  have hadd (series : Series) : ∃ total,
      addTo (c.series series) ((p.2.series series).map (w p.1 * ·)) = some total ∧
      total.length = n ∧ ∀ k < n, total.getD k 0 =
        (c.series series).getD k 0 + w p.1 * spread n (p.2.series series) k := by
    have hfits : ((p.2.series series).map (w p.1 * ·)).length = (c.series series).length ∨
        ((p.2.series series).map (w p.1 * ·)).length = 1 := by
      rw [List.length_map, hlength, hc]
      exact hsize
    have hspec := addTo_spec hfits
    simpa only [hc, spread_map] using hspec
  obtain ⟨values, hvalues, hvalues'⟩ := hadd .values
  obtain ⟨lower, hlower, hlower'⟩ := hadd .lower
  obtain ⟨upper, hupper, hupper'⟩ := hadd .upper
  refine ⟨⟨values, lower, upper, c.confidence + w p.1 * p.2.confidence⟩, ?_, ?_⟩
  · refine Option.bind_eq_some_iff.mpr ⟨w p.1, hw,
      Option.bind_eq_some_iff.mpr ⟨values, hvalues, ?_⟩⟩
    exact Option.bind_eq_some_iff.mpr
      ⟨lower, hlower, Option.bind_eq_some_iff.mpr ⟨upper, hupper, rfl⟩⟩
  · rintro (_ | _ | _)
    · exact hvalues'
    · exact hlower'
    · exact hupper'

/-- Arrays that fit are added up with their weights. -/
theorem foldlM_combine (hw : ∀ p ∈ ps, getItem weights p.1.name = some (w p.1))
    (hc : ∀ series, (c.series series).length = n) (hps : ∀ p ∈ ps, Fits n p.2) :
    ∃ c', ps.foldlM (combine weights) c = some c' ∧ ∀ series, (c'.series series).length = n ∧
      ∀ k < n, (c'.series series).getD k 0 = (c.series series).getD k 0 +
        (ps.map fun p => w p.1 * spread n (p.2.series series) k).sum := by
  induction ps generalizing c with
  | nil => exact ⟨c, rfl, fun series => ⟨hc series, fun k _ => by simp⟩⟩
  | cons p ps ih =>
    obtain ⟨hw, hws⟩ := List.forall_mem_cons.mp hw
    obtain ⟨hp, hps⟩ := List.forall_mem_cons.mp hps
    obtain ⟨c₁, hfirst, hc₁⟩ := combine_spec hw hc hp
    obtain ⟨c', hrest, hc'⟩ := ih hws (fun series => (hc₁ series).1) hps
    refine ⟨c', Option.bind_eq_some_iff.mpr ⟨c₁, hfirst, hrest⟩, fun series =>
      ⟨(hc' series).1, fun k hk => ?_⟩⟩
    rw [(hc' series).2 k hk, (hc₁ series).2 k hk, List.map_cons, List.sum_cons, add_assoc]

lemma length_of_combine (h : combine weights c p = some c') :
    (p.2.values.length = c.values.length ∨ p.2.values.length = 1) ∧
      c'.values.length = c.values.length := by
  obtain ⟨w, -, h⟩ := Option.bind_eq_some_iff.mp h
  obtain ⟨values, hvalues, h⟩ := Option.bind_eq_some_iff.mp h
  obtain ⟨lower, -, h⟩ := Option.bind_eq_some_iff.mp h
  obtain ⟨upper, -, h⟩ := Option.bind_eq_some_iff.mp h
  obtain rfl := Option.some.inj h
  simpa using length_of_addTo hvalues

lemma length_of_foldlM (h : ps.foldlM (combine weights) c = some c') :
    ∀ p ∈ ps, p.2.values.length = c.values.length ∨ p.2.values.length = 1 := by
  induction ps generalizing c with
  | nil => exact fun p hp => nomatch hp
  | cons p ps ih =>
    obtain ⟨c₁, hfirst, hrest⟩ := Option.bind_eq_some_iff.mp h
    obtain ⟨hp, hlength⟩ := length_of_combine hfirst
    have hps := ih hrest
    rw [hlength] at hps
    exact List.forall_mem_cons.mpr ⟨hp, hps⟩

end Fold

/-! ## The forecast -/

section Forecast

variable {s : Setting} {trained : Trained} {horizon step : ℤ} {m first : Model} {rest : List Model}
  {r : ForecastResult}

lemma exists_result (hstep : step ≠ 0) (hm : s.isFitted m = true) :
    ∃ r, s.result trained horizon step m = some r ∧
      r.HasPoints (s.clock m) step (pointsOf horizon step m) := by
  cases m with
  | linear | prophet | xgboost =>
    obtain ⟨f, hf⟩ := Option.isSome_iff_exists.mp hm
    simpa only [Setting.result, hf, Option.bind_some, pointsOf] using f.exists_predict hstep

lemma result_of_not_fitted (hm : s.isFitted m = false) :
    s.result trained horizon step m = none := by
  cases m <;> simp_all [Setting.isFitted, Setting.result]

/-- The forecast of a fitted sub-model. -/
def Setting.forecast (s : Setting) (trained : Trained) (horizon step : ℤ) (m : Model) :
    ForecastResult := (s.result trained horizon step m).getD default

lemma result_eq_forecast (hstep : step ≠ 0) (hm : s.isFitted m = true) :
    s.result trained horizon step m = some (s.forecast trained horizon step m) ∧
      (s.forecast trained horizon step m).HasPoints (s.clock m) step (pointsOf horizon step m) := by
  obtain ⟨r, hr, hpoints⟩ : ∃ r, s.result trained horizon step m = some r ∧
      r.HasPoints (s.clock m) step (pointsOf horizon step m) := exists_result hstep hm
  rw [Setting.forecast, hr]
  exact ⟨rfl, hpoints⟩

lemma isFitted_of_mem (hm : m ∈ s.active) : s.isFitted m = true := (List.mem_filter.mp hm).2

lemma predictions_eq (hstep : step ≠ 0) :
    (models.filterMap fun m => (s.result trained horizon step m).map fun r => (m, r)) =
      s.active.map fun m => (m, s.forecast trained horizon step m) := by
  unfold Setting.active
  induction models with
  | nil => rfl
  | cons m ms ih =>
    cases hm : s.isFitted m with
    | false => simp [result_of_not_fitted hm, hm, ih]
    | true => simp [(result_eq_forecast hstep hm).1, hm, ih]

lemma name_injective {m m' : Model} (h : m.name = m'.name) : m = m' := by
  revert h
  cases m <;> cases m' <;> decide

lemma getItem_map {ms : List Model} (f : Model → ℚ) (hm : m ∈ ms) :
    getItem (ms.map fun m => (m.name, f m)) m.name = some (f m) := by
  induction ms with
  | nil => exact nomatch hm
  | cons m' ms ih =>
    rw [List.map_cons, getItem, List.lookup_cons]
    by_cases hsame : m = m'
    · subst hsame
      simp
    · have hne : (m.name == m'.name) = false := beq_false_of_ne fun h => hsame (name_injective h)
      rw [hne]
      exact ih ((List.mem_cons.mp hm).resolve_left hsame)

/-- The weight of a sub-model, redistributed. -/
def Setting.share (s : Setting) (m : Model) : ℚ :=
  if 0 < (s.active.map s.weightOf).sum then s.weightOf m / (s.active.map s.weightOf).sum
  else s.weightOf m

lemma redistribute_eq : redistribute (s.active.map fun m => (m.name, s.weightOf m)) =
    s.active.map fun m => (m.name, s.share m) := by
  have hsum : sumValues (s.active.map fun m => (m.name, s.weightOf m)) =
      (s.active.map s.weightOf).sum := by simp [sumValues, Function.comp_def]
  unfold redistribute Setting.share
  rw [hsum]
  split
  · simp [divideBy]
  · rfl

/-- `predict` adds up the forecasts of the active sub-models with their shares. -/
lemma predict_eq (hstep : step ≠ 0) (hactive : s.active = first :: rest) :
    s.predict trained horizon step =
      ((s.active.map fun m => (m, s.forecast trained horizon step m)).foldlM
        (combine (s.active.map fun m => (m.name, s.share m)))
        (zeros (s.forecast trained horizon step first).timestamps.length)).map fun c =>
          c.toResult (s.forecast trained horizon step first).timestamps := by
  have hweights : ((s.active.map fun m => (m, s.forecast trained horizon step m)).map fun p =>
      (p.1.name, (getItem s.weights p.1.name).getD (1 / 3))) =
        s.active.map fun m => (m.name, s.weightOf m) := by
    rw [List.map_map]
    rfl
  unfold Setting.predict
  simp only [predictions_eq hstep, hweights, redistribute_eq]
  rw [hactive, Option.map_eq_bind]
  rfl

/-- What an entry of an array of the forecast is: the weighted sum of what the sub-models have. -/
def Setting.total (s : Setting) (trained : Trained) (horizon step : ℤ) (n : ℕ) (series : Series)
    (k : ℕ) : ℚ :=
  (s.active.map fun m =>
    s.share m * spread n ((s.forecast trained horizon step m).series series) k).sum

lemma length_series {now : ℤ} {n : ℕ} (h : r.HasPoints now step n) (series : Series) :
    (r.series series).length = n := by
  cases series with
  | values => exact h.values
  | lower => exact h.lower
  | upper => exact h.upper

lemma length_zeros (n : ℕ) (series : Series) : ((zeros n).series series).length = n := by
  cases series <;> exact List.length_replicate

lemma getD_zeros (n : ℕ) (series : Series) (k : ℕ) : ((zeros n).series series).getD k 0 = 0 := by
  have hreplicate : (List.replicate n (0 : ℚ)).getD k 0 = 0 := by
    rw [List.getD_eq_getElem?_getD, List.getElem?_replicate]
    split <;> rfl
  cases series <;> exact hreplicate

lemma hasPoints_forecast (hstep : step ≠ 0) (hm : m ∈ s.active) :
    (s.forecast trained horizon step m).HasPoints (s.clock m) step (pointsOf horizon step m) :=
  (result_eq_forecast hstep (isFitted_of_mem hm)).2

/-- The forecast has the points of the first sub-model, if the arrays of the others fit. -/
theorem predict_spec (hstep : step ≠ 0) (hactive : s.active = first :: rest)
    (hsizes : ∀ m ∈ s.active, pointsOf horizon step m = pointsOf horizon step first ∨
      pointsOf horizon step m = 1) :
    ∃ r, s.predict trained horizon step = some r ∧
      r.HasPoints (s.clock first) step (pointsOf horizon step first) ∧
      ∀ series, ∀ k < pointsOf horizon step first, (r.series series).getD k 0 =
        s.total trained horizon step (pointsOf horizon step first) series k := by
  have hmem : first ∈ s.active := hactive ▸ List.mem_cons_self
  have hfirst : (s.forecast trained horizon step first).HasPoints (s.clock first) step
      (pointsOf horizon step first) := hasPoints_forecast hstep hmem
  have hlength : (s.forecast trained horizon step first).timestamps.length =
      pointsOf horizon step first := by rw [hfirst.timestamps, length_grid]
  have hweights : ∀ p ∈ s.active.map fun m => (m, s.forecast trained horizon step m),
      getItem (s.active.map fun m => (m.name, s.share m)) p.1.name = some (s.share p.1) := by
    intro p hp
    obtain ⟨m, hm, rfl⟩ := List.mem_map.mp hp
    exact getItem_map s.share hm
  have hfits : ∀ p ∈ s.active.map fun m => (m, s.forecast trained horizon step m),
      Fits (pointsOf horizon step first) p.2 := by
    intro p hp
    obtain ⟨m, hm, rfl⟩ := List.mem_map.mp hp
    exact ⟨_, hsizes m hm, length_series (hasPoints_forecast hstep hm)⟩
  obtain ⟨c, hc, hspec⟩ := foldlM_combine hweights (length_zeros _) hfits
  have hpredict : s.predict trained horizon step =
      some (c.toResult (s.forecast trained horizon step first).timestamps) := by
    rw [predict_eq hstep hactive, hlength, hc]
    rfl
  refine ⟨_, hpredict, ⟨hfirst.timestamps, (hspec .values).1, (hspec .lower).1, (hspec .upper).1⟩,
    fun series k hk => ?_⟩
  have hentry := (hspec series).2 k hk
  rw [getD_zeros, zero_add, List.map_map] at hentry
  cases series <;> exact hentry

/-- A forecast needs arrays that fit. -/
theorem fits_of_predict (hstep : step ≠ 0) (hactive : s.active = first :: rest)
    (h : s.predict trained horizon step = some r) : ∀ m ∈ s.active,
      pointsOf horizon step m = pointsOf horizon step first ∨ pointsOf horizon step m = 1 := by
  intro m hm
  have hmem : first ∈ s.active := hactive ▸ List.mem_cons_self
  have hpoints {m : Model} (hm : m ∈ s.active) : (s.forecast trained horizon step m).HasPoints
      (s.clock m) step (pointsOf horizon step m) := hasPoints_forecast hstep hm
  rw [predict_eq hstep hactive] at h
  obtain ⟨c, hc, -⟩ := Option.map_eq_some_iff.mp h
  have hfits := length_of_foldlM hc _ (List.mem_map_of_mem hm)
  rw [(hpoints hm).values] at hfits
  simpa [zeros, (hpoints hmem).timestamps] using hfits

end Forecast

/-! ## Sub-models that are aligned -/

section Aligned

variable {s : Setting} {trained : Trained} {horizon step : ℤ} {m first : Model} {rest : List Model}

lemma exists_active (h : s.active ≠ []) : ∃ first rest, s.active = first :: rest :=
  List.exists_cons_of_ne_nil h

lemma reported_eq (hactive : s.active = first :: rest) : s.reported = s.clock first := by
  rw [Setting.reported, hactive]
  rfl

lemma rest_of_xgboost (hactive : s.active = .xgboost :: rest) : rest = [] := by
  have hsub : (Model.xgboost :: rest).Sublist models := hactive ▸ List.filter_sublist
  have hlast : (Model.xgboost :: rest).Sublist [.xgboost] :=
    ((hsub.of_cons_of_ne (by decide)).of_cons_of_ne (by decide))
  exact List.eq_nil_of_length_eq_zero (by simpa using hlast.length_le)

lemma lookup_zip {ts : List ℤ} {vs : List ℚ} {k : ℕ} {t : ℤ} (hdistinct : ts.Nodup)
    (hlength : ts.length = vs.length) (ht : ts[k]? = some t) : (ts.zip vs).lookup t = vs[k]? := by
  induction ts generalizing vs k with
  | nil => exact nomatch ht
  | cons t' ts ih =>
    obtain ⟨v, vs, rfl⟩ := List.exists_cons_of_length_eq_add_one hlength.symm
    obtain ⟨hnotin, hdistinct⟩ := List.nodup_cons.mp hdistinct
    cases k with
    | zero =>
      obtain rfl := Option.some.inj ht
      simp
    | succ k =>
      have hmem : t ∈ ts := List.mem_of_getElem? ht
      have hne : (t == t') = false := beq_false_of_ne fun h => hnotin (h ▸ hmem)
      rw [List.zip_cons_cons, List.lookup_cons, hne]
      exact ih hdistinct (Nat.succ_injective hlength) ht

lemma nodup_grid {now : ℤ} {n : ℕ} (hstep : step ≠ 0) : (grid now step n).Nodup := by
  refine List.Nodup.map (fun i j hij => ?_) List.nodup_range
  have hmul : (i : ℤ) * step = j * step := by simpa using hij
  exact_mod_cast mul_right_cancel₀ hstep hmul

lemma spread_eq {n k : ℕ} {array : List ℚ} {x : ℚ} (hlength : array.length = n)
    (hx : array[k]? = some x) : spread n array k = x := by
  rw [spread, if_pos hlength, List.getD_eq_getElem?_getD, hx]
  rfl

/-- A sub-model that starts with the forecast predicts its entries for the instants of the
forecast. -/
lemma predictedFor_eq (hstep : step ≠ 0) (hm : m ∈ s.active)
    (hstart : s.startOf step m = s.reported)
    (hsize : pointsOf horizon step m = nSteps horizon step) {k : ℕ} (hk : k < nSteps horizon step) :
    s.predictedFor trained horizon step m (s.reported + k * step) =
      some (spread (nSteps horizon step) (s.forecast trained horizon step m).values k) := by
  obtain ⟨hresult, hpoints⟩ : _ ∧ (s.forecast trained horizon step m).HasPoints _ _ _ :=
    result_eq_forecast hstep (isFitted_of_mem hm)
  rw [hsize] at hpoints
  rw [← hstart]
  cases m with
  | linear | prophet =>
    obtain ⟨f, hf⟩ := Option.isSome_iff_exists.mp (isFitted_of_mem hm)
    simp only [Setting.result, hf, Option.bind_some] at hresult
    rw [spread_eq hpoints.values (f.value hresult hk)]
    simp [Setting.predictedFor, hf, Setting.startOf]
  | xgboost =>
    have hlength : (s.forecast trained horizon step .xgboost).timestamps.length =
        (s.forecast trained horizon step .xgboost).values.length := by
      rw [hpoints.timestamps, hpoints.values, length_grid]
    have hk' : k < (s.forecast trained horizon step .xgboost).values.length := by
      rwa [hpoints.values]
    have hlookup := lookup_zip (by rw [hpoints.timestamps]; exact nodup_grid hstep) hlength
      (by rw [hpoints.timestamps]; exact getElem?_grid hk)
    rw [Setting.predictedFor, hresult, Option.bind_some, Setting.startOf, hlookup,
      List.getElem?_eq_getElem hk', spread_eq hpoints.values (List.getElem?_eq_getElem hk')]

lemma share_of_pos (hpos : 0 < (s.active.map s.weightOf).sum) (m : Model) :
    s.share m = s.weightOf m / (s.active.map s.weightOf).sum := if_pos hpos

lemma sum_setting_share (hpos : 0 < (s.active.map s.weightOf).sum) :
    (s.active.map s.share).sum = 1 := by
  have hshare : s.share = fun m => s.weightOf m * (s.active.map s.weightOf).sum⁻¹ :=
    funext fun m => (share_of_pos hpos m).trans (div_eq_mul_inv _ _)
  rw [hshare, List.sum_map_mul_right, mul_inv_cancel₀ hpos.ne']

lemma getD_le {as bs : List ℚ} (h : List.Forall₂ (· ≤ ·) as bs) (k : ℕ) :
    as.getD k 0 ≤ bs.getD k 0 := by
  induction h generalizing k with
  | nil => rfl
  | cons hab _ ih =>
    cases k with
    | zero => exact hab
    | succ k => exact ih k

lemma forall₂_of_getD {as bs : List ℚ} {n : ℕ} (has : as.length = n) (hbs : bs.length = n)
    (h : ∀ k < n, as.getD k 0 ≤ bs.getD k 0) : List.Forall₂ (· ≤ ·) as bs := by
  refine List.forall₂_iff_get.mpr ⟨has.trans hbs.symm, fun k hka hkb => ?_⟩
  have hk := h k (has ▸ hka)
  rwa [List.getD_eq_getElem _ _ hka, List.getD_eq_getElem _ _ hkb] at hk

lemma spread_le {as bs : List ℚ} (h : List.Forall₂ (· ≤ ·) as bs) (n k : ℕ) :
    spread n as k ≤ spread n bs k := by
  rw [spread, spread, h.length_eq]
  exact getD_le h _

lemma total_le {n : ℕ} {low high : Series} (hshare : ∀ m ∈ s.active, 0 ≤ s.share m)
    (h : ∀ m ∈ s.active, List.Forall₂ (· ≤ ·) ((s.forecast trained horizon step m).series low)
      ((s.forecast trained horizon step m).series high)) (k : ℕ) :
    s.total trained horizon step n low k ≤ s.total trained horizon step n high k :=
  List.sum_le_sum fun m hm => mul_le_mul_of_nonneg_left (spread_le (h m hm) n k) (hshare m hm)

/-- Aligned sub-models make a sound forecast. -/
theorem sound_of_aligned (hstep : step ≠ 0) (hactive : s.active ≠ [])
    (h : Aligned s horizon step) (trained : Trained) :
    ∃ r, s.predict trained horizon step = some r ∧ Sound s trained horizon step r := by
  obtain ⟨first, rest, hactive⟩ := exists_active hactive
  have hmem : first ∈ s.active := hactive ▸ List.mem_cons_self
  -- only XGBoost alone would be first with fewer points, and then it has the weight
  have hfirst : pointsOf horizon step first = nSteps horizon step := by
    cases first with
    | linear | prophet => rfl
    | xgboost =>
      refine (h.sizes _ hmem).resolve_right fun ⟨hweight, _⟩ => ?_
      have hpos := h.pos
      rw [hactive, rest_of_xgboost hactive] at hpos
      simp [hweight] at hpos
  have hshare : ∀ m ∈ s.active, 0 ≤ s.share m := fun m hm => by
    rw [share_of_pos h.pos]
    exact div_nonneg (h.nonneg m hm) h.pos.le
  have hsizes : ∀ m ∈ s.active, pointsOf horizon step m = pointsOf horizon step first ∨
      pointsOf horizon step m = 1 := fun m hm => by
    rw [hfirst]
    exact (h.sizes m hm).imp_right And.right
  obtain ⟨r, hr, hpoints, htotal⟩ : ∃ r, s.predict trained horizon step = some r ∧ _ :=
    predict_spec hstep hactive hsizes
  rw [hfirst] at hpoints htotal
  refine ⟨r, hr, ⟨by rw [hpoints.timestamps, length_grid], hpoints.values, hpoints.lower,
    hpoints.upper⟩, fun k t v ht hv => ?_, fun hbounds => ?_⟩
  · have hk : k < nSteps horizon step := hpoints.values ▸ (List.getElem?_eq_some_iff.mp hv).1
    have hvalue : v = s.total trained horizon step (nSteps horizon step) .values k := by
      rw [← htotal .values k hk]
      show v = r.values.getD k 0
      rw [List.getD_eq_getElem?_getD, hv, Option.getD_some]
    have hinstant : t = s.reported + k * step := by
      rw [hpoints.timestamps, getElem?_grid hk, ← reported_eq hactive] at ht
      exact (Option.some.inj ht).symm
    -- a sub-model with a weight starts with the forecast and has all its points
    have hpredicted {m : Model} (hm : m ∈ s.active) (hne : s.share m ≠ 0) :
        s.predictedFor trained horizon step m t =
          some (spread (nSteps horizon step) (s.forecast trained horizon step m).values k) := by
      have hweight : s.weightOf m ≠ 0 := fun hzero => hne (by
        rw [share_of_pos h.pos, hzero, zero_div])
      rw [hinstant]
      exact predictedFor_eq hstep hm (h.starts m hm hweight)
        ((h.sizes m hm).resolve_right fun hzero => hweight hzero.1) hk
    rw [hvalue]
    obtain ⟨m, hm, hne, hle⟩ := Lib.Shares.exists_le_average
      (u := fun m => spread (nSteps horizon step) (s.forecast trained horizon step m).values k)
      hshare (sum_setting_share h.pos)
    obtain ⟨m', hm', hne', hle'⟩ := Lib.Shares.exists_average_le
      (u := fun m => spread (nSteps horizon step) (s.forecast trained horizon step m).values k)
      hshare (sum_setting_share h.pos)
    exact ⟨⟨m, _, hpredicted hm hne, hle⟩, ⟨m', _, hpredicted hm' hne', hle'⟩⟩
  · have hforecast {m : Model} (hm : m ∈ s.active) :
        (s.forecast trained horizon step m).InBounds :=
      hbounds m _ (result_eq_forecast hstep (isFitted_of_mem hm)).1
    have horder (low high : Series) (hle : ∀ m ∈ s.active, List.Forall₂ (· ≤ ·)
        ((s.forecast trained horizon step m).series low)
        ((s.forecast trained horizon step m).series high)) :
        List.Forall₂ (· ≤ ·) (r.series low) (r.series high) :=
      forall₂_of_getD (length_series hpoints low) (length_series hpoints high) fun k hk => by
        rw [htotal low k hk, htotal high k hk]
        exact total_le hshare hle k
    exact ⟨horder .lower .values fun m hm => (hforecast hm).1,
      horder .values .upper fun m hm => (hforecast hm).2⟩

end Aligned

/-! ## Models of the instant -/

section TimeOnly

variable {s : Setting} {horizon step : ℤ} {m first : Model} {rest : List Model} {n k : ℕ}
  {F : Model → ℤ → ℚ}

/-- Trained models that are functions of the instant. -/
def timeOnly (s : Setting) (F : Model → ℤ → ℚ) : Trained where
  line x := F .linear (x + (s.linear.map LinearForecaster.tStart).getD 0)
  yhat := F .prophet
  yhatLower := F .prophet
  yhatUpper := F .prophet
  trees _ := F .xgboost

/-- 1 for one sub-model, 0 for the others. -/
def only (m m' : Model) (_ : ℤ) : ℚ := if m' = m then 1 else 0

lemma only_of_ne {m' : Model} {t : ℤ} (hne : m' ≠ m) : only m m' t = 0 := if_neg hne

lemma only_self {t : ℤ} : only m m t = 1 := if_pos rfl

lemma only_nonneg {m' : Model} {t : ℤ} : 0 ≤ only m m' t := by
  unfold only
  split
  · exact zero_le_one
  · exact le_rfl

lemma values_timeOnly (hstep : step ≠ 0) (hm : m ∈ s.active) (hk : k < pointsOf horizon step m) :
    (s.forecast (timeOnly s F) horizon step m).values[k]? =
      some (F m (s.startOf step m + k * step)) := by
  obtain ⟨hresult, hpoints⟩ : _ ∧ (s.forecast (timeOnly s F) horizon step m).HasPoints _ _ _ :=
    result_eq_forecast hstep (isFitted_of_mem hm)
  cases m with
  | linear | prophet =>
    obtain ⟨f, hf⟩ := Option.isSome_iff_exists.mp (isFitted_of_mem hm)
    simp only [Setting.result, hf, Option.bind_some] at hresult
    rw [f.value hresult hk]
    simp [timeOnly, hf, Setting.startOf]
  | xgboost =>
    obtain ⟨f, hf⟩ := Option.isSome_iff_exists.mp (isFitted_of_mem hm)
    simp only [Setting.result, hf, Option.bind_some] at hresult
    have hvalues : (s.forecast (timeOnly s F) horizon step .xgboost).values =
        (s.forecast (timeOnly s F) horizon step .xgboost).timestamps.map (F .xgboost) :=
      f.values_of_time hresult
    rw [hvalues, List.getElem?_map, hpoints.timestamps, getElem?_grid hk]
    rfl

lemma eq_of_predictedFor {t : ℤ} {u : ℚ}
    (h : s.predictedFor (timeOnly s F) horizon step m t = some u) : u = F m t := by
  cases m with
  | linear =>
    obtain ⟨f, hf, rfl⟩ := Option.map_eq_some_iff.mp h
    simp [timeOnly, hf]
  | prophet =>
    obtain ⟨f, hf, rfl⟩ := Option.map_eq_some_iff.mp h
    rfl
  | xgboost =>
    obtain ⟨r, hr, hlookup⟩ := Option.bind_eq_some_iff.mp h
    obtain ⟨f, -, hr⟩ := Option.bind_eq_some_iff.mp hr
    have hvalues : r.values = r.timestamps.map (F .xgboost) := f.values_of_time hr
    have hzip : r.timestamps.zip r.values = r.timestamps.map fun t => (t, F .xgboost t) := by
      rw [hvalues]
      simpa using List.zip_map' (f := id) (g := F .xgboost) (l := r.timestamps)
    obtain ⟨before, after, hsplit, -⟩ := List.lookup_eq_some_iff.mp hlookup
    have hmem : (t, u) ∈ r.timestamps.map fun t => (t, F .xgboost t) := by
      rw [← hzip, hsplit]
      simp
    obtain ⟨t', -, heq⟩ := List.mem_map.mp hmem
    obtain ⟨rfl, rfl⟩ := Prod.mk.inj heq
    rfl

/-- The forecast is sound for all trained models. -/
def Setting.AlwaysSound (s : Setting) (horizon step : ℤ) : Prop :=
  ∀ trained, ∃ r, s.predict trained horizon step = some r ∧ Sound s trained horizon step r

lemma pointsOf_pos (horizon step : ℤ) (m : Model) : 0 < pointsOf horizon step m := by
  cases m <;> exact nSteps_pos _ _

lemma spread_zero (array : List ℚ) : spread n array 0 = array.getD 0 0 := by
  rw [spread, ite_self]

variable (hstep : step ≠ 0) (hactive : s.active = first :: rest) (h : s.AlwaysSound horizon step)
include hstep hactive h

lemma pointsOf_first : pointsOf horizon step first = nSteps horizon step := by
  obtain ⟨r, hr, hsound⟩ := h (timeOnly s fun _ _ => 0)
  obtain ⟨r', hr', hpoints, -⟩ :=
    predict_spec hstep hactive (fits_of_predict hstep hactive hr)
  obtain rfl := Option.some.inj (hr.symm.trans hr')
  have hlength := hsound.points.1
  rwa [hpoints.timestamps, length_grid] at hlength

lemma total_between (F : Model → ℤ → ℚ) (hk : k < nSteps horizon step) :
    (∃ m u, s.predictedFor (timeOnly s F) horizon step m (s.reported + k * step) = some u ∧
        u ≤ s.total (timeOnly s F) horizon step (nSteps horizon step) .values k) ∧
      ∃ m u, s.predictedFor (timeOnly s F) horizon step m (s.reported + k * step) = some u ∧
        s.total (timeOnly s F) horizon step (nSteps horizon step) .values k ≤ u := by
  obtain ⟨r, hr, hsound⟩ := h (timeOnly s F)
  obtain ⟨r', hr', hpoints, htotal⟩ :=
    predict_spec hstep hactive (fits_of_predict hstep hactive hr)
  obtain rfl := Option.some.inj (hr.symm.trans hr')
  rw [pointsOf_first hstep hactive h] at hpoints htotal
  have hinstant : r.timestamps[k]? = some (s.reported + k * step) := by
    rw [hpoints.timestamps, getElem?_grid hk, reported_eq hactive]
  have hk' : k < r.values.length := by rwa [hpoints.values]
  have hvalue : r.values[k]? =
      some (s.total (timeOnly s F) horizon step (nSteps horizon step) .values k) := by
    rw [← htotal .values k hk, List.getElem?_eq_getElem hk']
    exact congrArg some (List.getD_eq_getElem _ _ hk').symm
  exact hsound.convex k _ _ hinstant hvalue

omit hactive h in
lemma total_zero (F : Model → ℤ → ℚ) : s.total (timeOnly s F) horizon step n .values 0 =
    (s.active.map fun m => s.share m * F m (s.startOf step m)).sum := by
  refine congrArg List.sum (List.map_congr_left fun m hm => ?_)
  have hvalue := values_timeOnly (F := F) hstep hm (pointsOf_pos horizon step m)
  rw [spread_zero, List.getD_eq_getElem?_getD]
  show s.share m * ((s.forecast (timeOnly s F) horizon step m).values[0]?.getD 0) = _
  rw [hvalue]
  simp

lemma first_between (F : Model → ℤ → ℚ) :
    (∃ m, F m s.reported ≤ (s.active.map fun m => s.share m * F m (s.startOf step m)).sum) ∧
      ∃ m, (s.active.map fun m => s.share m * F m (s.startOf step m)).sum ≤ F m s.reported := by
  obtain ⟨⟨m, u, hu, hle⟩, ⟨m', u', hu', hle'⟩⟩ :=
    total_between hstep hactive h F (nSteps_pos horizon step)
  have hinstant : s.reported + ((0 : ℕ) : ℤ) * step = s.reported := by simp
  rw [hinstant] at hu hu'
  rw [total_zero hstep] at hle hle'
  exact ⟨⟨m, eq_of_predictedFor hu ▸ hle⟩, ⟨m', eq_of_predictedFor hu' ▸ hle'⟩⟩

lemma sum_weightOf_pos : 0 < (s.active.map s.weightOf).sum := by
  by_contra hnot
  obtain ⟨⟨m, hle⟩, -⟩ := first_between hstep hactive h fun _ _ => 1
  have hshare : s.share = s.weightOf := funext fun m => if_neg hnot
  simp only [hshare, mul_one] at hle
  exact hnot (one_pos.trans_le hle)

omit hstep hactive h in
lemma sum_active (c : Model → ℚ) (hm : m ∈ s.active)
    (hzero : ∀ m' ≠ m, m' ∈ s.active → c m' = 0) : (s.active.map c).sum = c m := by
  have hdistinct : s.active.Nodup := (by decide : models.Nodup).filter _
  rw [List.sum_map_eq_nsmul_single m c hzero,
    List.count_eq_one_of_mem hdistinct hm, one_nsmul]

omit hstep hactive h in
lemma weightOf_eq (hpos : 0 < (s.active.map s.weightOf).sum) (m : Model) :
    s.weightOf m = s.share m * (s.active.map s.weightOf).sum := by
  rw [share_of_pos hpos, div_mul_cancel₀ _ hpos.ne']

lemma weightOf_nonneg (hm : m ∈ s.active) : 0 ≤ s.weightOf m := by
  have hpos := sum_weightOf_pos hstep hactive h
  obtain ⟨⟨m', hle⟩, -⟩ := first_between hstep hactive h (only m)
  rw [sum_active _ hm fun m' hne _ => by rw [only_of_ne hne, mul_zero], only_self, mul_one] at hle
  rw [weightOf_eq hpos]
  exact mul_nonneg (only_nonneg.trans hle) hpos.le

lemma startOf_eq (hm : m ∈ s.active) (hweight : s.weightOf m ≠ 0) :
    s.startOf step m = s.reported := by
  by_contra hne
  have hpos := sum_weightOf_pos hstep hactive h
  -- a model that is 1 where it starts and 0 elsewhere
  obtain ⟨⟨m₁, hle⟩, ⟨m₂, hge⟩⟩ := first_between hstep hactive h fun m' t =>
    if m' = m ∧ t = s.startOf step m then 1 else 0
  have hreported (m' : Model) :
      (if m' = m ∧ s.reported = s.startOf step m then (1 : ℚ) else 0) = 0 :=
    if_neg fun hand => hne hand.2.symm
  rw [hreported, sum_active _ hm fun m' hne _ => by rw [if_neg fun hand => hne hand.1, mul_zero],
    if_pos ⟨rfl, rfl⟩, mul_one] at hle hge
  have hshare : s.share m = 0 := le_antisymm hge hle
  exact hweight (by rw [weightOf_eq hpos, hshare, zero_mul])

omit hactive h in
lemma predictedFor_second (hm : .xgboost ∈ s.active) (hone : pointsOf horizon step .xgboost = 1)
    (hstart : s.startOf step .xgboost = s.reported) (trained : Trained) :
    s.predictedFor trained horizon step .xgboost (s.reported + (1 : ℕ) * step) = none := by
  obtain ⟨hresult, hpoints⟩ : _ ∧ (s.forecast trained horizon step .xgboost).HasPoints _ _ _ :=
    result_eq_forecast hstep (isFitted_of_mem hm)
  obtain ⟨v, hv⟩ := List.length_eq_one_iff.mp (hpoints.values.trans hone)
  have hne : s.clock .xgboost + step ≠ s.clock .xgboost := by simpa using hstep
  rw [Setting.predictedFor, hresult, Option.bind_some, hpoints.timestamps, hone, hv, ← hstart]
  simp [grid, Setting.startOf, hne]

omit hactive h in
lemma total_second (hm : .xgboost ∈ s.active) (hone : pointsOf horizon step .xgboost = 1)
    (htwo : 1 < nSteps horizon step) :
    s.total (timeOnly s (only .xgboost)) horizon step (nSteps horizon step) .values 1 =
      s.share .xgboost := by
  have hother : ∀ m ≠ .xgboost, m ∈ s.active → s.share m * spread (nSteps horizon step)
      (s.forecast (timeOnly s (only .xgboost)) horizon step m).values 1 = 0 := by
    intro m hne hm
    have hsize : pointsOf horizon step m = nSteps horizon step := by
      cases m with
      | linear | prophet => rfl
      | xgboost => exact absurd rfl hne
    have hpoints : (s.forecast (timeOnly s (only .xgboost)) horizon step m).HasPoints _ _ _ :=
      hasPoints_forecast hstep hm
    rw [spread_eq (hpoints.values.trans hsize) (values_timeOnly hstep hm (hsize ▸ htwo)),
      only_of_ne hne, mul_zero]
  have hpoints : (s.forecast (timeOnly s (only .xgboost)) horizon step .xgboost).HasPoints _ _ _ :=
    hasPoints_forecast hstep hm
  have hne : ¬ (s.forecast (timeOnly s (only .xgboost)) horizon step .xgboost).values.length =
      nSteps horizon step := by rw [hpoints.values, hone]; exact htwo.ne
  have hself : spread (nSteps horizon step)
      (s.forecast (timeOnly s (only .xgboost)) horizon step .xgboost).values 1 = 1 := by
    rw [spread, if_neg hne, List.getD_eq_getElem?_getD,
      values_timeOnly hstep hm (pointsOf_pos horizon step _), only_self]
    rfl
  refine (sum_active _ hm hother).trans ?_
  show s.share .xgboost * spread _ (s.forecast _ horizon step .xgboost).values 1 = _
  rw [hself, mul_one]

lemma weightOf_of_one (hm : .xgboost ∈ s.active) (hne : nSteps horizon step ≠ 1)
    (hone : pointsOf horizon step .xgboost = 1) : s.weightOf .xgboost = 0 := by
  by_contra hweight
  have hstart := startOf_eq hstep hactive h hm hweight
  have htwo : 1 < nSteps horizon step :=
    lt_of_le_of_ne (nSteps_pos horizon step) (Ne.symm hne)
  -- nobody predicts anything but 0 for the second instant
  have hzero {m : Model} {u : ℚ} (hu : s.predictedFor (timeOnly s (only .xgboost)) horizon step m
      (s.reported + (1 : ℕ) * step) = some u) : u = 0 := by
    have hmne : m ≠ .xgboost := by
      rintro rfl
      rw [predictedFor_second hstep hm hone hstart] at hu
      exact nomatch hu
    rw [eq_of_predictedFor hu, only_of_ne hmne]
  obtain ⟨⟨m₁, u₁, hu₁, hle⟩, ⟨m₂, u₂, hu₂, hge⟩⟩ :=
    total_between hstep hactive h (only .xgboost) htwo
  rw [total_second hstep hm hone htwo, hzero hu₁] at hle
  rw [total_second hstep hm hone htwo, hzero hu₂] at hge
  exact hweight (by
    rw [weightOf_eq (sum_weightOf_pos hstep hactive h), le_antisymm hge hle, zero_mul])

lemma pointsOf_eq (hm : m ∈ s.active) : pointsOf horizon step m = nSteps horizon step ∨
    (s.weightOf m = 0 ∧ pointsOf horizon step m = 1) := by
  cases m with
  | linear | prophet => exact .inl rfl
  | xgboost =>
    refine or_iff_not_imp_left.mpr fun hne => ?_
    obtain ⟨r, hr, -⟩ := h (timeOnly s fun _ _ => 0)
    have hone : pointsOf horizon step .xgboost = 1 := by
      have hfits := fits_of_predict hstep hactive hr _ hm
      rw [pointsOf_first hstep hactive h] at hfits
      exact hfits.resolve_left hne
    exact ⟨weightOf_of_one hstep hactive h hm (fun heq => hne (hone.trans heq.symm)) hone, hone⟩

/-- What is sound for all trained models is aligned. -/
theorem aligned_of_sound : Aligned s horizon step where
  nonneg _ hm := weightOf_nonneg hstep hactive h hm
  pos := sum_weightOf_pos hstep hactive h
  starts _ hm hweight := startOf_eq hstep hactive h hm hweight
  sizes _ hm := pointsOf_eq hstep hactive h hm

end TimeOnly

/-- The forecast is sound for all trained models exactly if the sub-models are aligned. -/
theorem sound_iff_aligned (s : Setting) (horizon step : ℤ) (hstep : 0 < step)
    (hactive : s.active ≠ []) :
    (∀ trained, ∃ r, s.predict trained horizon step = some r ∧
      Sound s trained horizon step r) ↔ Aligned s horizon step := by
  refine ⟨fun h => ?_, fun h trained => sound_of_aligned hstep.ne' hactive h trained⟩
  obtain ⟨first, rest, hactive⟩ := exists_active hactive
  exact aligned_of_sound hstep.ne' hactive h

/-- Three sub-models that are asked at 1000 s; Prophet's history ends a step before. -/
def together : Setting where
  linear := some ⟨0, 1, 95 / 100⟩
  prophet := some ⟨940⟩
  xgboost := some ⟨[1, 2], 10⟩
  weights := [("linear", 33 / 100), ("prophet", 34 / 100), ("xgboost", 33 / 100)]
  clock _ := 1000
  now := 1000

lemma aligned_together : Aligned together 120 60 where
  nonneg := by decide +kernel
  pos := by decide +kernel
  starts m _ _ := by cases m <;> rfl
  sizes m _ := by cases m <;> exact .inl rfl

theorem sound_together :
    ∃ r, together.predict ⟨fun x => x, fun t => t, fun t => t - 1, fun t => t + 1, fun _ t => t⟩
        120 60 = some r ∧
      Sound together ⟨fun x => x, fun t => t, fun t => t - 1, fun t => t + 1, fun _ t => t⟩
        120 60 r :=
  (sound_iff_aligned together 120 60 (by decide) (by decide)).mpr aligned_together _

/-- A line and XGBoost, asked for a week in steps of five minutes. -/
def overAWeek : Setting where
  linear := some ⟨0, 1, 95 / 100⟩
  xgboost := some ⟨[1, 2], 10⟩
  weights := [("linear", 33 / 100), ("prophet", 34 / 100), ("xgboost", 33 / 100)]
  clock _ := 1000
  now := 1000

/-- The 288 points of XGBoost cannot be added to the 2016 of the line. -/
theorem not_sound_overAWeek :
    ¬ ∀ trained, ∃ r, overAWeek.predict trained 604800 300 = some r ∧
      Sound overAWeek trained 604800 300 r := by
  intro h
  obtain ⟨r, hr, -⟩ := h ⟨fun x => x, fun t => t, fun t => t - 1, fun t => t + 1, fun _ t => t⟩
  have hactive : overAWeek.active = [.linear, .xgboost] := by decide
  have hfits := fits_of_predict (by decide) hactive hr .xgboost (by rw [hactive]; decide)
  revert hfits
  decide

end Paryty.Intelligence.Ensemble

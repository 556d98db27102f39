import Mathlib.Data.List.Range
import Mathlib.Data.Rat.Floor
import Mathlib.Tactic.NormNum
import Paryty.Lib.Sample

/-!
# The forecasters

`predict` of `LinearForecaster`, `ProphetForecaster` and `XGBoostForecaster`, in
`intelligence/forecasting`: the points of a forecast, with their bounds and a confidence.

The trained models are a parameter, `Trained`: a line and Prophet's curves as functions of the
instant, and what XGBoost's features and trees make of the values so far and the instant. What the
forecasters do with them is not: the instants they ask for, the instants they report, how many
points they return, and the bounds.

`HasPoints` is what the forecasts have in common; the values of each follow it. Numbers are exact
rationals, instants are in seconds.
-/

namespace Paryty.Intelligence.Ensemble

/-- `ForecastResult`. -/
structure ForecastResult where
  timestamps : List ℤ
  values : List ℚ
  lowerBound : List ℚ
  upperBound : List ℚ
  confidence : ℚ
  modelName : String
deriving DecidableEq, Inhabited

/-- The trained models. -/
structure Trained where
  /-- `LinearRegression`, at seconds since the start of its window. -/
  line : ℤ → ℚ
  yhat : ℤ → ℚ
  yhatLower : ℤ → ℚ
  yhatUpper : ℤ → ℚ
  /-- `XGBRegressor` on the features of the values so far and the instant. -/
  trees : List ℚ → ℤ → ℚ

/-- `max(1, horizon_seconds // step_seconds)`. -/
def nSteps (horizon step : ℤ) : ℕ := (max 1 (horizon.fdiv step)).toNat

/-- `np.clip`. -/
def clip (x low high : ℚ) : ℚ := min (max x low) high

/-- `[now + i * step_seconds for i in range(n_steps)]`. -/
def grid (now step : ℤ) (n : ℕ) : List ℤ := (List.range n).map fun (i : ℕ) => now + i * step

/-- `1.0 + distances / max(n_steps, 1)`. -/
def widening (n i : ℕ) : ℚ := 1 + (i + 1) / (max n 1 : ℕ)

/-- The confidence that decays with the distance. -/
def decayingConfidence (base : ℚ) (n : ℕ) : ℚ :=
  clip (Lib.Sample.mean ((List.range n).map fun (i : ℕ) => base * (1 - (i + 1) / (n * 2)))) (1 / 10)
    (95 / 100)

/-- `np.mean(np.abs(preds)) + 1e-9`. -/
def meanAbs (preds : List ℚ) : ℚ := Lib.Sample.mean (preds.map abs) + 1 / 1000000000

/-! ## Linear -/

/-- The fitted `LinearForecaster`, apart from its line. -/
structure LinearForecaster where
  tStart : ℤ
  residualStd : ℚ
  confidenceLevel : ℚ
deriving DecidableEq

/-- Python's `round(x, 2)`, half to even. -/
def round2 (x : ℚ) : ℚ :=
  let below := ⌊x * 100⌋
  let rest := x * 100 - below
  if rest < 1 / 2 ∨ (rest = 1 / 2 ∧ below % 2 = 0) then below / 100 else (below + 1) / 100

/-- `_Z_SCORES`. -/
def zScores : List (ℚ × ℚ) :=
  [(80 / 100, 1282 / 1000), (85 / 100, 1440 / 1000), (90 / 100, 1645 / 1000),
    (95 / 100, 1960 / 1000), (99 / 100, 2576 / 1000)]

/-- `LinearForecaster.predict`. -/
def LinearForecaster.predict (f : LinearForecaster) (line : ℤ → ℚ) (now horizon step : ℤ) :
    Option ForecastResult :=
  if step = 0 then none
  else
    let n := nSteps horizon step
    let preds := (List.range n).map fun (i : ℕ) => line (now + i * step - f.tStart)
    let z := (zScores.lookup (round2 f.confidenceLevel)).getD (196 / 100)
    let margin := (List.range n).map fun (i : ℕ) => z * f.residualStd * widening n i
    some
      { timestamps := grid now step n
        values := preds
        lowerBound := preds.zipWith (· - ·) margin
        upperBound := preds.zipWith (· + ·) margin
        confidence := decayingConfidence (max (3 / 10) (1 - f.residualStd / meanAbs preds)) n
        modelName := "linear" }

/-! ## Prophet -/

/-- The fitted `ProphetForecaster`: the last instant of the history. -/
structure ProphetForecaster where
  lastDs : ℤ
deriving DecidableEq

/-- `ProphetForecaster.predict`: the model is asked for the instants after the last of the history,
the points are reported for those from `now` on. -/
def ProphetForecaster.predict (f : ProphetForecaster) (trained : Trained)
    (now horizon step : ℤ) : Option ForecastResult :=
  if step = 0 then none
  else
    let n := nSteps horizon step
    let future := ((List.range (n + 1)).map fun (i : ℕ) => f.lastDs + i * step).tail
    let preds := future.map trained.yhat
    let lower := future.map trained.yhatLower
    let upper := future.map trained.yhatUpper
    let uncertainty := ((upper.zipWith (· - ·) lower).zipWith (· / ·)
      (preds.map fun p => |p| + 1 / 1000000000))
    some
      { timestamps := grid now step n
        values := preds
        lowerBound := lower
        upperBound := upper
        confidence := clip (1 - Lib.Sample.mean uncertainty) (3 / 10) (95 / 100)
        modelName := "prophet" }

/-! ## XGBoost -/

/-- The fitted `XGBoostForecaster`, apart from its trees. -/
structure XGBoostForecaster where
  lastValues : List ℚ
  valMape : ℚ
deriving DecidableEq

/-- `MAX_HORIZON_SECONDS`. -/
def maxHorizonSeconds : ℤ := 86400

/-- `XGBoostForecaster.predict`: each prediction is one of the values for the next. -/
def recursivePredictions (trees : List ℚ → ℤ → ℚ) : List ℤ → List ℚ → List ℚ
  | [], _ => []
  | ts :: timestamps, values =>
    trees values ts :: recursivePredictions trees timestamps (values ++ [trees values ts])

/-- The horizon that is left of a longer one. -/
def cappedHorizon (horizon : ℤ) : ℤ :=
  if horizon > maxHorizonSeconds then maxHorizonSeconds else horizon

/-- `XGBoostForecaster.predict`. -/
def XGBoostForecaster.predict (f : XGBoostForecaster) (trees : List ℚ → ℤ → ℚ)
    (now horizon step : ℤ) : Option ForecastResult :=
  if step = 0 then none
  else
    let n := nSteps (cappedHorizon horizon) step
    let preds := recursivePredictions trees (grid now step n) f.lastValues
    let margin := preds.mapIdx fun i p => 196 / 100 * (f.valMape / 100 * |p|) * widening n i
    some
      { timestamps := grid now step n
        values := preds
        lowerBound := preds.zipWith (· - ·) margin
        upperBound := preds.zipWith (· + ·) margin
        confidence := decayingConfidence (max (3 / 10) (1 - f.valMape / 100)) n
        modelName := "xgboost" }

/-! ## The points of a forecast -/

/-- The forecast has `n` points, reported for the instants from `now` on. -/
structure ForecastResult.HasPoints (r : ForecastResult) (now step : ℤ) (n : ℕ) : Prop where
  timestamps : r.timestamps = grid now step n
  values : r.values.length = n
  lower : r.lowerBound.length = n
  upper : r.upperBound.length = n

variable {trained : Trained} {now horizon step : ℤ} {n k : ℕ} {r : ForecastResult}

lemma nSteps_pos (horizon step : ℤ) : 0 < nSteps horizon step := by
  unfold nSteps
  omega

@[simp] lemma length_grid : (grid now step n).length = n := by simp [grid]

lemma getElem?_grid (hk : k < n) : (grid now step n)[k]? = some (now + k * step) := by
  simp [grid, hk]

lemma length_recursivePredictions (trees : List ℚ → ℤ → ℚ) (timestamps : List ℤ)
    (values : List ℚ) : (recursivePredictions trees timestamps values).length =
      timestamps.length := by
  induction timestamps generalizing values with
  | nil => rfl
  | cons ts timestamps ih => rw [recursivePredictions, List.length_cons, ih, List.length_cons]

lemma recursivePredictions_of_time (g : ℤ → ℚ) (timestamps : List ℤ) (values : List ℚ) :
    recursivePredictions (fun _ t => g t) timestamps values = timestamps.map g := by
  induction timestamps generalizing values with
  | nil => rfl
  | cons ts timestamps ih => rw [recursivePredictions, ih, List.map_cons]

section Linear

variable {f : LinearForecaster} {line : ℤ → ℚ}

lemma LinearForecaster.exists_predict (hstep : step ≠ 0) :
    ∃ r, f.predict line now horizon step = some r ∧
      r.HasPoints now step (nSteps horizon step) :=
  ⟨_, if_neg hstep, rfl, by simp, by simp, by simp⟩

lemma LinearForecaster.value (hr : f.predict line now horizon step = some r)
    (hk : k < nSteps horizon step) :
    r.values[k]? = some (line (now + k * step - f.tStart)) := by
  unfold LinearForecaster.predict at hr
  split at hr
  case isTrue => exact nomatch hr
  case isFalse =>
    obtain rfl := Option.some.inj hr
    simp [hk]

end Linear

section Prophet

variable {f : ProphetForecaster}

lemma ProphetForecaster.exists_predict (hstep : step ≠ 0) :
    ∃ r, f.predict trained now horizon step = some r ∧
      r.HasPoints now step (nSteps horizon step) :=
  ⟨_, if_neg hstep, rfl, by simp, by simp, by simp⟩

lemma ProphetForecaster.value (hr : f.predict trained now horizon step = some r)
    (hk : k < nSteps horizon step) :
    r.values[k]? = some (trained.yhat (f.lastDs + step + k * step)) := by
  unfold ProphetForecaster.predict at hr
  split at hr
  case isTrue => exact nomatch hr
  case isFalse =>
    obtain rfl := Option.some.inj hr
    have hinstant : f.lastDs + ((k + 1 : ℕ) : ℤ) * step = f.lastDs + step + k * step := by
      push_cast
      ring
    simp [hk, ← hinstant]

end Prophet

section XGBoost

variable {f : XGBoostForecaster} {trees : List ℚ → ℤ → ℚ}

lemma XGBoostForecaster.exists_predict (hstep : step ≠ 0) :
    ∃ r, f.predict trees now horizon step = some r ∧
      r.HasPoints now step (nSteps (cappedHorizon horizon) step) :=
  ⟨_, if_neg hstep, rfl, by simp [length_recursivePredictions],
    by simp [length_recursivePredictions], by simp [length_recursivePredictions]⟩

lemma XGBoostForecaster.values_of_time {g : ℤ → ℚ}
    (hr : f.predict (fun _ t => g t) now horizon step = some r) :
    r.values = r.timestamps.map g := by
  unfold XGBoostForecaster.predict at hr
  split at hr
  case isTrue => exact nomatch hr
  case isFalse =>
    obtain rfl := Option.some.inj hr
    exact recursivePredictions_of_time ..

end XGBoost

end Paryty.Intelligence.Ensemble

import Mathlib.Data.List.Range
import Mathlib.Analysis.Real.Sqrt
import Paryty.Lib.Collect
import Paryty.Lib.LeastSquares
import Paryty.Lib.Numerals
import Paryty.Lib.Sample

/-!
# The features of the XGBoost forecaster

`_engineer_features` and `_extract_predict_features` of `XGBoostForecaster`, in
`intelligence/forecasting/xgboost_model.py`: the feature matrix of a series, from which the model
learns, and the features of one step ahead, from which it predicts.

* The functions of numpy and pandas are a parameter, `Libraries`; `Libraries.Exact` is what numpy
  documents of them, for exact numbers. Nothing is asked of the slope and of the calendar.
* A subscript out of range and the minimum of nothing raise: `none`.
* `lastRow` is the last row of the matrix of a series. Its windows have the value that the row is
  there to predict: `lastRow_injective`. `agree_iff_atRest` says when the features of a history are
  the row of the value that follows.
-/

namespace Paryty.Intelligence.Xgboost

open scoped Lib.Numerals
open Lib.Collect (mapM_eq_some exists_of_mem_mapM exists_mapM map_of_mapM mapM_range_succ)

variable {K : Type*}

/-! ## Libraries -/

/-- The functions of numpy and pandas: `slope` is `polyfit` of degree 1 at `arange 10`. -/
structure Libraries (K : Type*) where
  mean : List K → K
  std : List K → K
  min : List K → K
  max : List K → K
  slope : List K → K
  hour : ℤ → ℕ
  dayofweek : ℤ → ℕ
  minute : ℤ → ℕ

/-- What numpy documents. -/
structure Libraries.Exact [Field K] [LinearOrder K] (lib : Libraries K) : Prop where
  mean : ∀ xs, lib.mean xs = Lib.Sample.mean xs
  std_nonneg : ∀ xs, 0 ≤ lib.std xs
  std_sq : ∀ xs, lib.std xs ^ 2 = Lib.Sample.variance xs
  min_mem : ∀ xs, xs ≠ [] → lib.min xs ∈ xs
  min_le : ∀ xs, ∀ x ∈ xs, lib.min xs ≤ x
  max_mem : ∀ xs, xs ≠ [] → lib.max xs ∈ xs
  le_max : ∀ xs, ∀ x ∈ xs, x ≤ lib.max xs

/-! ## The forecaster -/

/-- The fields of `XGBoostForecaster` that the features depend on. -/
structure XGBoostForecaster where
  lagFeatures : List ℤ
  rollingWindows : List ℤ
  windows_ne : rollingWindows ≠ []

/-- `lag_features or [1, 5, 15, 60]`: an empty list counts as none. -/
def orDefault (given : Option (List ℤ)) (default : List ℤ) : List ℤ :=
  match given with
  | some (a :: as) => a :: as
  | _ => default

lemma orDefault_ne {given : Option (List ℤ)} {default : List ℤ} (h : default ≠ []) :
    orDefault given default ≠ [] := by
  unfold orDefault
  split
  · exact List.cons_ne_nil _ _
  · exact h

/-- `XGBoostForecaster.__init__`. -/
def XGBoostForecaster.init (lagFeatures rollingWindows : Option (List ℤ)) : XGBoostForecaster where
  lagFeatures := orDefault lagFeatures [1, 5, 15, 60]
  rollingWindows := orDefault rollingWindows [5, 15, 60]
  windows_ne := orDefault_ne (List.cons_ne_nil _ _)

/-! ## Training features -/

/-- `values[start : stop]`, for non-negative bounds. -/
def slice (values : List K) (start stop : ℕ) : List K := (values.take stop).drop start

/-- Where `array[: k]` ends in an array of length `n`. -/
def sliceStop (n : ℕ) (k : ℤ) : ℕ := if 0 ≤ k then min k.toNat n else (n + k).toNat

/-- An entry of a lag feature: `np.roll`, with the first entries overwritten. -/
def lagEntry (values : List K) (lag : ℤ) (i : ℕ) : Option K :=
  if i < sliceStop values.length lag then values[0]?
  else values[((i - lag) % values.length).toNat]?

/-- `_engineer_features`: a lag feature. -/
def lagColumn (values : List K) (lag : ℤ) : Option (List K) :=
  if values = [] then none else (List.range values.length).mapM (lagEntry values lag)

/-- `np.min` and `np.max`, which have no value for nothing. -/
def ofNonempty (f : List K → K) (xs : List K) : Option K := if xs = [] then none else some (f xs)

/-- The aggregations of a window, in the order of the columns. -/
def Libraries.aggregations (lib : Libraries K) : List (String × (List K → Option K)) :=
  [("mean", fun xs => some (lib.mean xs)), ("std", fun xs => some (lib.std xs)),
    ("min", ofNonempty lib.min), ("max", ofNonempty lib.max)]

/-- The window of the entry `i`: `values[max(0, i - window) : i + 1]`. -/
def trainWindow (values : List K) (window : ℤ) (i : ℕ) : List K :=
  slice values (i - window).toNat (i + 1)

/-- `_engineer_features`: a rolling statistic. -/
def rollingColumn (values : List K) (window : ℤ) (agg : List K → Option K) : Option (List K) :=
  (List.range values.length).mapM fun i => agg (trainWindow values window i)

/-- `np.column_stack`: the rows. -/
def columnStack (n : ℕ) (columns : List (List K)) : Option (List (List K)) :=
  if ∀ column ∈ columns, column.length = n then
    (List.range n).mapM fun i => columns.mapM fun column => column[i]?
  else none

section Field

variable [Field K]

/-- The time features, as functions of the instant. -/
def timeFeatures (lib : Libraries K) : List (ℤ → K) :=
  [fun t => lib.hour t / 23, fun t => lib.dayofweek t / 6, fun t => lib.minute t / 59]

/-- `_engineer_features`: the trend at the entry `i`. -/
def trendAt (lib : Libraries K) (values : List K) (i : ℕ) : K :=
  if i < 10 then 0 else lib.slope (slice values (i - 10) i)

/-- `_engineer_features`: the names of the columns. -/
def featureNames (lib : Libraries K) (f : XGBoostForecaster) : List String :=
  f.lagFeatures.map (fun lag => s!"lag_{lag}") ++
  f.rollingWindows.flatMap (fun window =>
    lib.aggregations.map fun agg => s!"rolling_{window}_{agg.1}") ++
  ["hour_of_day", "day_of_week", "minute_of_hour", "trend"]

/-- `_engineer_features`. -/
def engineerFeatures (lib : Libraries K) (f : XGBoostForecaster) (values : List K)
    (timestamps : List ℤ) : Option (List (List K) × List String) := do
  let lags ← f.lagFeatures.mapM (lagColumn values)
  let rolling ← f.rollingWindows.mapM fun window =>
    lib.aggregations.mapM fun agg => rollingColumn values window agg.2
  let time := (timeFeatures lib).map fun feature => timestamps.map feature
  let trend := (List.range values.length).map (trendAt lib values)
  let X ← columnStack values.length (lags ++ rolling.flatten ++ time ++ [trend])
  return (X, featureNames lib f)

/-- The row of the last point of a series. -/
def lastRow (lib : Libraries K) (f : XGBoostForecaster) (values : List K) (timestamps : List ℤ) :
    Option (List K) :=
  (engineerFeatures lib f values timestamps).bind fun result => result.1.getLast?

/-! ## Prediction features -/

/-- `_extract_predict_features`: a lag feature. -/
def predictLag (values : List K) (lag : ℤ) : Option K :=
  values[(max (values.length - lag - 1) 0).toNat]?

/-- `_extract_predict_features`: the statistics of a window. -/
def predictStats (lib : Libraries K) (values : List K) (window : ℤ) : List (Option K) :=
  let tail := values.drop (values.length - window).toNat
  [some (lib.mean tail), some (if 1 < tail.length then lib.std tail else 0),
    ofNonempty lib.min tail, ofNonempty lib.max tail]

/-- `_extract_predict_features`: the trend. -/
def predictTrend (lib : Libraries K) (values : List K) : K :=
  if 10 ≤ values.length then lib.slope (values.drop (values.length - 10)) else 0

/-- `_extract_predict_features`. -/
def extractPredictFeatures (lib : Libraries K) (f : XGBoostForecaster) (values : List K)
    (timestamp : ℤ) : Option (List K) := do
  let lags ← f.lagFeatures.mapM (predictLag values)
  let rolling ← f.rollingWindows.mapM fun window => (predictStats lib values window).mapM id
  let time := (timeFeatures lib).map fun feature => feature timestamp
  return lags ++ rolling.flatten ++ time ++ [predictTrend lib values]

end Field

/-! ## Rows whose entries may raise -/

lemma flatMap_eq_flatMap {α β : Type*} {f g : α → List β} {xs : List α}
    (hlength : ∀ x ∈ xs, (f x).length = (g x).length) :
    xs.flatMap f = xs.flatMap g ↔ ∀ x ∈ xs, f x = g x := by
  induction xs with
  | nil => simp
  | cons x xs ih =>
    obtain ⟨hx, hxs⟩ := List.forall_mem_cons.mp hlength
    rw [List.flatMap_cons, List.flatMap_cons, List.forall_mem_cons, ← ih hxs]
    constructor
    · exact fun h => List.append_inj h hx
    · rintro ⟨hfirst, hrest⟩
      rw [hfirst, hrest]

section Columns

variable {lib : Libraries K} {values : List K} {lag window : ℤ} {n i : ℕ}

lemma lagColumn_spec (hn : values.length = n + 1) {column : List K}
    (hcolumn : lagColumn values lag = some column) :
    column.length = n + 1 ∧ column[n]? = lagEntry values lag n := by
  unfold lagColumn at hcolumn
  split at hcolumn
  case isTrue => exact nomatch hcolumn
  case isFalse =>
    rw [hn] at hcolumn
    exact mapM_range_succ hcolumn

lemma rollingColumn_spec (hn : values.length = n + 1) {agg : List K → Option K} {column : List K}
    (hcolumn : rollingColumn values window agg = some column) :
    column.length = n + 1 ∧ column[n]? = agg (trainWindow values window n) := by
  rw [rollingColumn, hn] at hcolumn
  exact mapM_range_succ hcolumn

lemma exists_lagEntry (lag : ℤ) (hi : i < values.length) : ∃ a, lagEntry values lag i = some a := by
  unfold lagEntry
  split
  · exact ⟨values[0], List.getElem?_eq_getElem (by omega)⟩
  · have hnonneg := Int.emod_nonneg (i - lag) (b := values.length) (by omega)
    have hlt := Int.emod_lt_of_pos (i - lag) (b := values.length) (by omega)
    exact ⟨_, List.getElem?_eq_getElem (by omega)⟩

lemma exists_lagColumn (hne : values ≠ []) (lag : ℤ) :
    ∃ column, lagColumn values lag = some column := by
  rw [lagColumn, if_neg hne]
  exact exists_mapM fun i hi => exists_lagEntry lag (List.mem_range.mp hi)

lemma trainWindow_ne (hwindow : 0 ≤ window) (hi : i < values.length) :
    trainWindow values window i ≠ [] := by
  intro h
  have hlength := congrArg List.length h
  simp only [trainWindow, slice, List.length_drop, List.length_take, List.length_nil] at hlength
  omega

lemma exists_aggregate {agg : String × (List K → Option K)} (hagg : agg ∈ lib.aggregations)
    {xs : List K} (hxs : xs ≠ []) : ∃ a, agg.2 xs = some a := by
  simp only [Libraries.aggregations, List.mem_cons, List.not_mem_nil, or_false] at hagg
  rcases hagg with rfl | rfl | rfl | rfl <;> simp [ofNonempty, hxs]

lemma exists_rollingColumn {agg : String × (List K → Option K)} (hagg : agg ∈ lib.aggregations)
    (hwindow : 0 ≤ window) : ∃ column, rollingColumn values window agg.2 = some column :=
  exists_mapM fun _ hi =>
    exists_aggregate hagg (trainWindow_ne hwindow (List.mem_range.mp hi))

lemma exists_columnStack {columns : List (List K)} (h : ∀ column ∈ columns, column.length = n) :
    ∃ rows, columnStack n columns = some rows := by
  unfold columnStack
  rw [if_pos h]
  refine exists_mapM fun i hi => exists_mapM fun column hcolumn => ?_
  have hlt : i < column.length := (h column hcolumn).symm ▸ List.mem_range.mp hi
  exact ⟨_, List.getElem?_eq_getElem hlt⟩

lemma columnStack_spec {columns rows : List (List K)}
    (h : columnStack (n + 1) columns = some rows) :
    rows.length = n + 1 ∧ rows.getLast? = columns.mapM fun column => column[n]? := by
  unfold columnStack at h
  split at h
  case isTrue =>
    obtain ⟨hlength, hlast⟩ := mapM_range_succ h
    refine ⟨hlength, ?_⟩
    rw [List.getLast?_eq_getElem?, hlength, ← hlast]
    rfl
  case isFalse => exact nomatch h

end Columns

section Rows

variable [Field K] {lib : Libraries K} {f : XGBoostForecaster} {values h v : List K} {y y' : K}
  {lag window t : ℤ} {timestamps : List ℤ} {n i : ℕ}

/-- The entries of the last row. -/
def trainRow (lib : Libraries K) (f : XGBoostForecaster) (values : List K) (n : ℕ) (t : ℤ) :
    List (Option K) :=
  f.lagFeatures.map (fun lag => lagEntry values lag n) ++
  f.rollingWindows.flatMap (fun window =>
    lib.aggregations.map fun agg => agg.2 (trainWindow values window n)) ++
  (timeFeatures lib).map (fun feature => some (feature t)) ++ [some (trendAt lib values n)]

/-- The entries of the features for a prediction. -/
def predictRow (lib : Libraries K) (f : XGBoostForecaster) (values : List K) (t : ℤ) :
    List (Option K) :=
  f.lagFeatures.map (predictLag values) ++ f.rollingWindows.flatMap (predictStats lib values) ++
  (timeFeatures lib).map (fun feature => some (feature t)) ++ [some (predictTrend lib values)]

lemma extract_row (hv : extractPredictFeatures lib f values t = some v) :
    predictRow lib f values t = v.map some := by
  obtain ⟨lags, hlags, hv⟩ := Option.bind_eq_some_iff.mp hv
  obtain ⟨rolling, hrolling, hv⟩ := Option.bind_eq_some_iff.mp hv
  obtain rfl := Option.some.inj hv
  have hstats : rolling.map (List.map some) = f.rollingWindows.map (predictStats lib values) :=
    map_of_mapM hrolling fun window stats h => by simpa using (mapM_eq_some.mp h).symm
  rw [predictRow, mapM_eq_some.mp hlags, List.flatMap_def, ← hstats]
  simp [List.map_flatten, Function.comp_def]

lemma exists_extract (hrow : ∀ entry ∈ predictRow lib f values t, entry ≠ none) :
    ∃ v, extractPredictFeatures lib f values t = some v := by
  have hsome {entry : Option K} (hentry : entry ∈ predictRow lib f values t) :
      ∃ a, entry = some a := Option.ne_none_iff_exists'.mp (hrow entry hentry)
  obtain ⟨lags, hlags⟩ : ∃ lags, f.lagFeatures.mapM (predictLag values) = some lags :=
    exists_mapM fun lag hlag => hsome (List.mem_append_left _ (List.mem_append_left _
      (List.mem_append_left _ (List.mem_map_of_mem hlag))))
  obtain ⟨rolling, hrolling⟩ : ∃ rolling, f.rollingWindows.mapM (fun window =>
      (predictStats lib values window).mapM id) = some rolling :=
    exists_mapM fun window hwindow => exists_mapM fun entry hentry =>
      hsome (List.mem_append_left _ (List.mem_append_left _ (List.mem_append_right _
        (List.mem_flatMap.mpr ⟨window, hwindow, hentry⟩))))
  exact ⟨_, Option.bind_eq_some_iff.mpr ⟨lags, hlags,
    Option.bind_eq_some_iff.mpr ⟨rolling, hrolling, rfl⟩⟩⟩

lemma lastRow_row (hn : values.length = n + 1) (ht : timestamps[n]? = some t)
    (hv : lastRow lib f values timestamps = some v) : trainRow lib f values n t = v.map some := by
  obtain ⟨⟨X, names⟩, hX, hv⟩ := Option.bind_eq_some_iff.mp hv
  obtain ⟨lags, hlags, hX⟩ := Option.bind_eq_some_iff.mp hX
  obtain ⟨rolling, hrolling, hX⟩ := Option.bind_eq_some_iff.mp hX
  obtain ⟨rows, hrows, hX⟩ := Option.bind_eq_some_iff.mp hX
  obtain ⟨rfl, rfl⟩ := Prod.mk.inj (Option.some.inj hX)
  rw [hn] at hrows
  have hentries := mapM_eq_some.mp ((columnStack_spec hrows).2.symm.trans hv)
  have hstats : rolling.map (List.map fun column => column[n]?) =
      f.rollingWindows.map fun window =>
        lib.aggregations.map fun agg => agg.2 (trainWindow values window n) :=
    map_of_mapM hrolling fun window columns h =>
      map_of_mapM h fun agg column hcolumn => (rollingColumn_spec hn hcolumn).2
  rw [← hentries, trainRow, List.flatMap_def, ← hstats]
  simp only [List.map_append, List.map_flatten, List.map_map, Function.comp_def,
    List.map_singleton, List.getElem?_map, ht, Option.map_some]
  rw [map_of_mapM hlags fun lag column hcolumn => (lagColumn_spec hn hcolumn).2,
    List.getElem?_range (Nat.lt_succ_self n)]
  rfl

lemma exists_lastRow (hn : values.length = n + 1) (ht : timestamps.length = n + 1)
    (hwindows : ∀ window ∈ f.rollingWindows, 0 ≤ window) :
    ∃ v, lastRow lib f values timestamps = some v := by
  have hne : values ≠ [] := by
    rintro rfl
    exact nomatch hn
  obtain ⟨lags, hlags⟩ : ∃ lags, f.lagFeatures.mapM (lagColumn values) = some lags :=
    exists_mapM fun lag _ => exists_lagColumn hne lag
  obtain ⟨rolling, hrolling⟩ : ∃ rolling, f.rollingWindows.mapM (fun window =>
      lib.aggregations.mapM fun agg => rollingColumn values window agg.2) = some rolling :=
    exists_mapM fun window hwindow => exists_mapM fun agg hagg =>
      exists_rollingColumn hagg (hwindows window hwindow)
  obtain ⟨rows, hrows⟩ : ∃ rows, columnStack (n + 1) (lags ++ rolling.flatten ++
      (timeFeatures lib).map (fun feature => timestamps.map feature) ++
      [(List.range (n + 1)).map (trendAt lib values)]) = some rows := by
    refine exists_columnStack fun column hcolumn => ?_
    simp only [List.mem_append, List.mem_singleton, List.mem_flatten, List.mem_map] at hcolumn
    rcases hcolumn with ((hlag | ⟨columns, hcolumns, hmem⟩) | ⟨feature, -, rfl⟩) | rfl
    · obtain ⟨lag, -, hlag⟩ := exists_of_mem_mapM hlags hlag
      exact (lagColumn_spec hn hlag).1
    · obtain ⟨window, -, hstats⟩ := exists_of_mem_mapM hrolling hcolumns
      obtain ⟨agg, -, hagg⟩ := exists_of_mem_mapM hstats hmem
      exact (rollingColumn_spec hn hagg).1
    · rw [List.length_map, ht]
    · rw [List.length_map, List.length_range]
  have hrows_ne : rows ≠ [] := by
    rintro rfl
    exact nomatch (columnStack_spec hrows).1
  refine ⟨rows.getLast hrows_ne, Option.bind_eq_some_iff.mpr
    ⟨(rows, featureNames lib f), ?_, List.getLast?_eq_some_getLast hrows_ne⟩⟩
  refine Option.bind_eq_some_iff.mpr ⟨lags, hlags, Option.bind_eq_some_iff.mpr ⟨rolling, hrolling,
    Option.bind_eq_some_iff.mpr ⟨rows, ?_, rfl⟩⟩⟩
  rw [hn]
  exact hrows

end Rows

/-! ## When the features agree -/

/-- The features for a prediction are the row of the value that follows. -/
def Agree [Field K] (lib : Libraries K) (f : XGBoostForecaster) (h : List K) (timestamps : List ℤ)
    (t : ℤ) (y : K) : Prop :=
  ∃ v, extractPredictFeatures lib f h t = some v ∧
    lastRow lib f (h ++ [y]) (timestamps ++ [t]) = some v

/-- The history has come to rest at `y`: the last values, as far as the windows reach, are all `y`,
and the value at each lag is the same as the one before it. -/
structure AtRest (f : XGBoostForecaster) (h : List K) (y : K) : Prop where
  windows : ∀ window ∈ f.rollingWindows, 0 < window ∧ h ≠ [] ∧
    ∀ x ∈ h.drop (h.length - window.toNat), x = y
  lags : ∀ lag ∈ f.lagFeatures, 0 ≤ lag ∧
    h[h.length - lag.toNat - 1]? = (h ++ [y])[h.length - lag.toNat]?

section Entries

variable {lib : Libraries K} {h : List K} {y : K} {lag window : ℤ}

lemma lag_iff : (predictLag h lag = lagEntry (h ++ [y]) lag h.length ∧ predictLag h lag ≠ none) ↔
    0 ≤ lag ∧ h[h.length - lag.toNat - 1]? = (h ++ [y])[h.length - lag.toNat]? := by
  have hlength : (h ++ [y]).length = h.length + 1 := by simp
  by_cases hlag : 0 ≤ lag
  · have hpredict : predictLag h lag = h[h.length - lag.toNat - 1]? := by
      rw [predictLag]
      congr 1
      omega
    have htrain : lagEntry (h ++ [y]) lag h.length = (h ++ [y])[h.length - lag.toNat]? := by
      rw [lagEntry, sliceStop, if_pos hlag, hlength]
      split
      case isTrue =>
        congr 1
        omega
      case isFalse =>
        have hmod : ((h.length : ℤ) - lag) % ((h.length + 1 : ℕ) : ℤ) = h.length - lag :=
          Int.emod_eq_of_lt (by omega) (by omega)
        rw [hmod]
        congr 1
        omega
    have hsome : (h ++ [y])[h.length - lag.toNat]? ≠ none := by
      rw [List.getElem?_eq_getElem (by omega)]
      exact Option.some_ne_none _
    rw [hpredict, htrain]
    constructor
    · exact fun heq => ⟨hlag, heq.1⟩
    · exact fun heq => ⟨heq.2, heq.2 ▸ hsome⟩
  · have hnone : predictLag h lag = none := List.getElem?_eq_none (by omega)
    exact iff_of_false (fun heq => heq.2 hnone) (fun heq => hlag heq.1)

lemma trainWindow_last (hwindow : 0 ≤ window) : trainWindow (h ++ [y]) window h.length =
    h.drop (h.length - window).toNat ++ [y] := by
  rw [trainWindow, slice, List.take_of_length_le (by simp),
    List.drop_append_of_le_length (by omega)]

variable [Field K] [LinearOrder K] [IsStrictOrderedRing K] (hlib : lib.Exact)
include hlib

lemma std_eq_iff {xs ys : List K} :
    lib.std xs = lib.std ys ↔ Lib.Sample.variance xs = Lib.Sample.variance ys := by
  rw [← hlib.std_sq, ← hlib.std_sq]
  exact (sq_eq_sq₀ (hlib.std_nonneg _) (hlib.std_nonneg _)).symm

lemma std_singleton (x : K) : lib.std [x] = 0 := by
  have hvariance : Lib.Sample.variance [x] = 0 :=
    Lib.Sample.variance_of_forall_eq (List.cons_ne_nil _ _) fun x' hx' => List.mem_singleton.mp hx'
  exact pow_eq_zero_iff two_ne_zero |>.mp ((hlib.std_sq _).trans hvariance)

lemma predictStd {xs : List K} (hxs : xs ≠ []) :
    (if 1 < xs.length then lib.std xs else 0) = lib.std xs := by
  split
  case isTrue => rfl
  case isFalse h =>
    obtain ⟨x, rfl⟩ := List.length_eq_one_iff.mp
      (Nat.le_antisymm (by omega) (List.length_pos_iff.mpr hxs))
    exact (std_singleton hlib x).symm

lemma aggregations_concat {xs : List K} (hxs : xs ≠ []) :
    (lib.mean (xs ++ [y]) = lib.mean xs ∧ lib.std (xs ++ [y]) = lib.std xs ∧
      lib.min (xs ++ [y]) = lib.min xs ∧ lib.max (xs ++ [y]) = lib.max xs) ↔ ∀ x ∈ xs, x = y := by
  rw [hlib.mean, hlib.mean, std_eq_iff hlib, ← Lib.Sample.concat_iff hxs, ← and_assoc]
  refine and_iff_left_of_imp fun hsame => ?_
  have hall := (Lib.Sample.concat_iff hxs).mp hsame
  have hconcat : ∀ x ∈ xs ++ [y], x = y := by
    intro x hx
    rcases List.mem_append.mp hx with hx | hx
    · exact hall x hx
    · exact List.mem_singleton.mp hx
  have hne : xs ++ [y] ≠ [] := by simp
  exact ⟨(hconcat _ (hlib.min_mem _ hne)).trans (hall _ (hlib.min_mem _ hxs)).symm,
    (hconcat _ (hlib.max_mem _ hne)).trans (hall _ (hlib.max_mem _ hxs)).symm⟩

lemma window_iff : (predictStats lib h window = (lib.aggregations.map fun agg =>
      agg.2 (trainWindow (h ++ [y]) window h.length)) ∧
    ∀ entry ∈ predictStats lib h window, entry ≠ none) ↔
      0 < window ∧ h ≠ [] ∧ ∀ x ∈ h.drop (h.length - window.toNat), x = y := by
  by_cases htail : h.drop (h.length - window).toNat = []
  · refine iff_of_false (fun hstats => hstats.2 none ?_ rfl) ?_
    · simp [predictStats, ofNonempty, htail]
    · rintro ⟨hwindow, hne, -⟩
      have hpos := List.length_pos_iff.mpr hne
      have hle := List.drop_eq_nil_iff.mp htail
      omega
  · have hlt : (h.length - window).toNat < h.length := by
      by_contra hle
      exact htail (List.drop_eq_nil_iff.mpr (by omega))
    have hne : h ≠ [] := List.length_pos_iff.mp (by omega)
    have hsame : (h.length - window).toNat = h.length - window.toNat := by omega
    rw [trainWindow_last (by omega), and_iff_right (by omega : 0 < window), and_iff_right hne,
      ← hsame, ← aggregations_concat hlib htail]
    have hconcat : h.drop (h.length - window).toNat ++ [y] ≠ [] := by simp
    simp only [predictStats, Libraries.aggregations, ofNonempty, predictStd hlib htail,
      if_neg htail, if_neg hconcat, List.map_cons, List.map_nil, List.cons.injEq,
      Option.some.injEq, and_true]
    constructor
    · rintro ⟨⟨hmean, hstd, hmin, hmax⟩, -⟩
      exact ⟨hmean.symm, hstd.symm, hmin.symm, hmax.symm⟩
    · rintro ⟨hmean, hstd, hmin, hmax⟩
      exact ⟨⟨hmean.symm, hstd.symm, hmin.symm, hmax.symm⟩, by simp⟩

end Entries

section Agreement

variable [Field K] {lib : Libraries K} {f : XGBoostForecaster} {h v : List K} {y y' : K} {t : ℤ}
  {timestamps : List ℤ}

lemma trendAt_last : trendAt lib (h ++ [y]) h.length = predictTrend lib h := by
  unfold trendAt predictTrend
  by_cases hlong : 10 ≤ h.length
  · rw [if_neg (by omega), if_pos hlong, slice, List.take_left]
  · rw [if_pos (by omega), if_neg hlong]

lemma append_eq_append {α : Type*} {as as' bs bs' : List α} (hlength : as.length = as'.length) :
    as ++ bs = as' ++ bs' ↔ as = as' ∧ bs = bs' := by
  constructor
  · exact fun heq => List.append_inj heq hlength
  · rintro ⟨rfl, rfl⟩
    rfl

lemma predictRow_eq_iff : predictRow lib f h t = trainRow lib f (h ++ [y]) h.length t ↔
    (∀ lag ∈ f.lagFeatures, predictLag h lag = lagEntry (h ++ [y]) lag h.length) ∧
    ∀ window ∈ f.rollingWindows, predictStats lib h window =
      lib.aggregations.map fun agg => agg.2 (trainWindow (h ++ [y]) window h.length) := by
  have hlength : ∀ window ∈ f.rollingWindows, (predictStats lib h window).length =
      (lib.aggregations.map fun agg => agg.2 (trainWindow (h ++ [y]) window h.length)).length :=
    fun _ _ => rfl
  rw [predictRow, trainRow, trendAt_last, List.append_cancel_right_eq, List.append_cancel_right_eq,
    append_eq_append (by simp), List.map_inj_left, flatMap_eq_flatMap hlength]

lemma predictRow_ne_none (hrow : ∀ entry ∈ predictRow lib f h t, entry ≠ none) :
    (∀ lag ∈ f.lagFeatures, predictLag h lag ≠ none) ∧
    ∀ window ∈ f.rollingWindows, ∀ entry ∈ predictStats lib h window, entry ≠ none := by
  constructor
  · exact fun lag hlag => hrow _ (List.mem_append_left _ (List.mem_append_left _
      (List.mem_append_left _ (List.mem_map_of_mem hlag))))
  · exact fun window hwindow entry hentry => hrow _ (List.mem_append_left _ (List.mem_append_left _
      (List.mem_append_right _ (List.mem_flatMap.mpr ⟨window, hwindow, hentry⟩))))

variable [LinearOrder K] [IsStrictOrderedRing K]

/-- The features of a history are the row of the value that follows exactly if the history has come
to rest at that value. -/
theorem agree_iff_atRest (hlib : lib.Exact) (ht : timestamps.length = h.length) :
    Agree lib f h timestamps t y ↔ AtRest f h y := by
  have hlength : (h ++ [y]).length = h.length + 1 := by simp
  have hnow : (timestamps ++ [t])[h.length]? = some t := by simp [← ht]
  constructor
  · rintro ⟨v, hpredict, htrain⟩
    have hrow := extract_row hpredict
    have hsame := hrow.trans (lastRow_row hlength hnow htrain).symm
    have hsome : ∀ entry ∈ predictRow lib f h t, entry ≠ none := by
      rw [hrow]
      simp
    obtain ⟨hlags, hwindows⟩ := predictRow_eq_iff.mp hsame
    obtain ⟨hlags', hwindows'⟩ := predictRow_ne_none hsome
    exact ⟨fun window hw => (window_iff hlib).mp ⟨hwindows window hw, hwindows' window hw⟩,
      fun lag hlag => lag_iff.mp ⟨hlags lag hlag, hlags' lag hlag⟩⟩
  · rintro ⟨hwindows, hlags⟩
    have hlags' := fun lag hlag => lag_iff.mpr (hlags lag hlag)
    have hwindows' := fun window hw => (window_iff hlib).mpr (hwindows window hw)
    have hsame : predictRow lib f h t = trainRow lib f (h ++ [y]) h.length t :=
      predictRow_eq_iff.mpr ⟨fun lag hlag => (hlags' lag hlag).1,
        fun window hw => (hwindows' window hw).1⟩
    have hsome : ∀ entry ∈ predictRow lib f h t, entry ≠ none := by
      intro entry hentry
      simp only [predictRow, List.mem_append, List.mem_map, List.mem_flatMap, List.mem_singleton]
        at hentry
      rcases hentry with ((⟨lag, hlag, rfl⟩ | ⟨window, hw, hstats⟩) | ⟨feature, -, rfl⟩) | rfl
      · exact (hlags' lag hlag).2
      · exact (hwindows' window hw).2 entry hstats
      · exact Option.some_ne_none _
      · exact Option.some_ne_none _
    obtain ⟨v, hv⟩ := exists_extract hsome
    obtain ⟨v', hv'⟩ : ∃ v', lastRow lib f (h ++ [y]) (timestamps ++ [t]) = some v' :=
      exists_lastRow hlength (by simp [ht]) fun window hw => (hwindows window hw).1.le
    have hrow : v.map some = v'.map some :=
      (extract_row hv).symm.trans (hsame.trans (lastRow_row hlength hnow hv'))
    obtain rfl := List.map_injective_iff.mpr (Option.some_injective K) hrow
    exact ⟨v, hv, hv'⟩

lemma trainRow_injective (hlib : lib.Exact)
    (hsome : ∀ entry ∈ trainRow lib f (h ++ [y]) h.length t, entry ≠ none)
    (hsame : trainRow lib f (h ++ [y]) h.length t = trainRow lib f (h ++ [y']) h.length t) :
    y = y' := by
  obtain ⟨window, hwindow⟩ := List.exists_mem_of_ne_nil _ f.windows_ne
  -- the window has a least value, so it does not end before it starts
  have hleast : ofNonempty lib.min (trainWindow (h ++ [y]) window h.length) ≠ none :=
    hsome _ (List.mem_append_left _ (List.mem_append_left _ (List.mem_append_right _
      (List.mem_flatMap.mpr ⟨window, hwindow, by simp [Libraries.aggregations]⟩))))
  have hnonneg : 0 ≤ window := by
    by_contra hneg
    refine hleast (if_pos (List.drop_eq_nil_iff.mpr ?_))
    have hlength := List.length_take_le (h.length + 1) (h ++ [y])
    omega
  have hrolling := (List.append_inj (List.append_cancel_right (List.append_inj' hsame rfl).1)
    (by simp)).2
  have hstats := (flatMap_eq_flatMap (by simp)).mp hrolling window hwindow
  simp only [Libraries.aggregations, List.map_cons, List.cons.injEq, Option.some.injEq] at hstats
  have hmean := hstats.1
  rw [trainWindow_last hnonneg, trainWindow_last hnonneg, hlib.mean, hlib.mean] at hmean
  exact Lib.Sample.mean_concat_injective hmean

/-- A row depends on the value that it is there to predict: no two values have the same row. -/
theorem lastRow_injective (hlib : lib.Exact) (ht : timestamps.length = h.length)
    (hv : lastRow lib f (h ++ [y]) (timestamps ++ [t]) = some v)
    (hv' : lastRow lib f (h ++ [y']) (timestamps ++ [t]) = some v) : y = y' := by
  have hlength (z : K) : (h ++ [z]).length = h.length + 1 := by simp
  have hnow : (timestamps ++ [t])[h.length]? = some t := by simp [← ht]
  have hrow := lastRow_row (hlength y) hnow hv
  refine trainRow_injective hlib ?_ (hrow.trans (lastRow_row (hlength y') hnow hv').symm)
  rw [hrow]
  simp

/-- The features for a prediction are the row of the value that follows exactly if the history has
come to rest at that value, and no row is without the value that it is there to predict. -/
theorem features_agree_iff (hlib : lib.Exact) (ht : timestamps.length = h.length) :
    (Agree lib f h timestamps t y ↔ AtRest f h y) ∧
      ∀ v, lastRow lib f (h ++ [y]) (timestamps ++ [t]) = some v →
        ∀ y', y' ≠ y → lastRow lib f (h ++ [y']) (timestamps ++ [t]) ≠ some v :=
  ⟨agree_iff_atRest hlib ht, fun _ hv _ hne hv' => hne (lastRow_injective hlib ht hv' hv)⟩

end Agreement

/-! ## A quiet hour -/

/-- Numpy and pandas in exact arithmetic. -/
noncomputable def exactLibraries : Libraries ℝ where
  mean := Lib.Sample.mean
  std xs := √(Lib.Sample.variance xs)
  min xs := xs.min?.getD 0
  max xs := xs.max?.getD 0
  slope xs := Lib.LeastSquares.slope (xs.mapIdx fun i x => ((i : ℝ), x))
  hour t := (t / 3600 % 24).toNat
  dayofweek t := ((t / 86400 + 3) % 7).toNat
  minute t := (t / 60 % 60).toNat

lemma min?_spec {xs : List ℝ} (hxs : xs ≠ []) :
    xs.min?.getD 0 ∈ xs ∧ ∀ x ∈ xs, xs.min?.getD 0 ≤ x := by
  obtain ⟨a, ha⟩ := Option.isSome_iff_exists.mp (List.isSome_min?_of_ne_nil hxs)
  rw [ha]
  exact List.min?_eq_some_iff.mp ha

lemma max?_spec {xs : List ℝ} (hxs : xs ≠ []) :
    xs.max?.getD 0 ∈ xs ∧ ∀ x ∈ xs, x ≤ xs.max?.getD 0 := by
  obtain ⟨a, ha⟩ := Option.isSome_iff_exists.mp (List.isSome_max?_of_ne_nil hxs)
  rw [ha]
  exact List.max?_eq_some_iff.mp ha

lemma exact_exactLibraries : exactLibraries.Exact where
  mean _ := rfl
  std_nonneg _ := Real.sqrt_nonneg _
  std_sq xs := Real.sq_sqrt (Lib.Sample.variance_nonneg xs)
  min_mem _ hxs := (min?_spec hxs).1
  min_le _ x hx := (min?_spec (List.ne_nil_of_mem hx)).2 x hx
  max_mem _ hxs := (max?_spec hxs).1
  le_max _ x hx := (max?_spec (List.ne_nil_of_mem hx)).2 x hx

/-- An hour without load, minute by minute. -/
def quietHour : List ℝ := List.replicate 60 0

/-- Its instants. -/
def quietTimes : List ℤ := (List.range 60).map fun (i : ℕ) => 60 * (i : ℤ)

lemma atRest_quiet : AtRest (.init none none) quietHour 0 where
  windows window hwindow := by
    have hpos : window = 5 ∨ window = 15 ∨ window = 60 := by
      simpa [XGBoostForecaster.init, orDefault] using hwindow
    exact ⟨by omega, List.cons_ne_nil _ _, fun x hx =>
      List.eq_of_mem_replicate (List.mem_of_mem_drop hx)⟩
  lags lag hlag := by
    have hcases : lag = 1 ∨ lag = 5 ∨ lag = 15 ∨ lag = 60 := by
      simpa [XGBoostForecaster.init, orDefault] using hlag
    rcases hcases with rfl | rfl | rfl | rfl <;> exact ⟨by omega, rfl⟩

/-- One more minute without load has the features of a prediction. -/
theorem quiet_features_agree : Agree exactLibraries (.init none none) quietHour quietTimes 3600 0 :=
  (features_agree_iff exact_exactLibraries rfl).1.mpr atRest_quiet

/-- A minute with load has not. -/
theorem not_agree_load : ¬ Agree exactLibraries (.init none none) quietHour quietTimes 3600 1 := by
  rw [agree_iff_atRest exact_exactLibraries rfl]
  intro hrest
  have hwindow := (hrest.windows 5 (by simp [XGBoostForecaster.init, orDefault])).2.2
  exact absurd (hwindow 0 (by simp [quietHour])) zero_ne_one

end Paryty.Intelligence.Xgboost

import Mathlib.Algebra.BigOperators.Fin
import Mathlib.Tactic.NormNum
import Paryty.Lib.Sample
import Paryty.Lib.Shares

/-!
# The weights of the forecast ensemble

`ForecastEnsemble.update_weights` of `intelligence/forecasting/ensemble.py`: the weights of the
sub-models from the history of their errors (MAPE), in two rounds of clamping to the configured
bounds and dividing by the sum.

* `updateWeights_eq`: for the three names the code computes `Lib.Shares.rounds` of their shares.
* `Right` is what the weights should be. They always sum to one and follow the errors;
  `right_iff_balanced` says when they are within the bounds.

Numbers are exact rationals.
-/

namespace Paryty.Intelligence.Ensemble

open Lib.Shares (clamp normalise rounds)

/-! ## The code -/

/-- `_MODEL_NAMES`. -/
def modelNames : List String := ["linear", "prophet", "xgboost"]

/-- A dictionary from names to numbers, in the order of insertion. -/
abbrev Weights := List (String × ℚ)

/-- `weights.get(name)`. -/
def getItem (weights : Weights) (name : String) : Option ℚ := weights.lookup name

/-- `weights[name] = value`. -/
def setItem (weights : Weights) (name : String) (value : ℚ) : Weights :=
  if weights.any fun item => item.1 = name then
    weights.map fun item => if item.1 = name then (name, value) else item
  else weights ++ [(name, value)]

/-- `sum(weights.values())`. -/
def sumValues (weights : Weights) : ℚ := (weights.map Prod.snd).sum

/-- `{k: v / total for k, v in weights.items()}`. -/
def divideBy (total : ℚ) (weights : Weights) : Weights :=
  weights.map fun item => (item.1, item.2 / total)

/-- `EnsembleConfig`, with what pydantic checks. -/
structure EnsembleConfig where
  minWeight : ℚ := 1 / 10
  maxWeight : ℚ := 6 / 10
  defaultWeights : Weights := [("linear", 33 / 100), ("prophet", 34 / 100), ("xgboost", 33 / 100)]
  minWeight_mem : 0 ≤ minWeight ∧ minWeight ≤ 1 / 2
  maxWeight_mem : 3 / 10 ≤ maxWeight ∧ maxWeight ≤ 1

/-- `_accuracy_history`: the errors of each model. -/
abbrev AccuracyHistory := String → List ℚ

/-- `update_weights`: the inverse of the average error, 1 without a history. -/
def inverseMape (history : List ℚ) : ℚ :=
  if history = [] then 1 else 1 / max (Lib.Sample.mean history) (1 / 100)

/-- `update_weights`: the loops that clamp. -/
def clampAll (config : EnsembleConfig) (weights : Weights) : Weights :=
  modelNames.foldl (fun weights name =>
    setItem weights name
      (max config.minWeight (min config.maxWeight ((getItem weights name).getD 0)))) weights

/-- `update_weights`. -/
def updateWeights (config : EnsembleConfig) (history : AccuracyHistory) : Weights :=
  let inverseMapes := modelNames.map fun name => (name, inverseMape (history name))
  let total := sumValues inverseMapes
  if total = 0 then config.defaultWeights
  else
    let raw := clampAll config (divideBy total inverseMapes)
    let total := sumValues raw
    let weights := if 0 < total then divideBy total raw else config.defaultWeights
    let weights := clampAll config weights
    let total := sumValues weights
    if 0 < total then divideBy total weights else weights

/-! ## What the weights should be -/

/-- They sum to one, are within the bounds, and a model with a lower average error never gets a
smaller weight than one with a higher average. -/
structure Right (config : EnsembleConfig) (history : AccuracyHistory) (weights : Weights) :
    Prop where
  sum : sumValues weights = 1
  bounds : ∀ name ∈ modelNames, ∃ w, getItem weights name = some w ∧
    config.minWeight ≤ w ∧ w ≤ config.maxWeight
  order : ∀ name ∈ modelNames, ∀ other ∈ modelNames, history name ≠ [] → history other ≠ [] →
    Lib.Sample.mean (history name) < Lib.Sample.mean (history other) →
      ∀ w w', getItem weights name = some w → getItem weights other = some w' → w' ≤ w

/-- The names of the models. -/
def nameOf : Fin 3 → String
  | 0 => "linear"
  | 1 => "prophet"
  | 2 => "xgboost"

/-- The share of each model: its inverse average error over the sum of all three. -/
def share (history : AccuracyHistory) : Fin 3 → ℚ :=
  normalise fun i => inverseMape (history (nameOf i))

/-- The shares fall short of `minWeight` by as much, together, as they exceed `maxWeight`; by
nothing, where all of them are within the bounds. -/
def Balanced (config : EnsembleConfig) (history : AccuracyHistory) : Prop :=
  ∑ i, max (config.minWeight - share history i) 0 = ∑ i, max (share history i - config.maxWeight) 0

/-! ## Dictionaries of the three names -/

/-- The dictionary of the three names. -/
def dictOf (f : Fin 3 → ℚ) : Weights := [("linear", f 0), ("prophet", f 1), ("xgboost", f 2)]

variable {config : EnsembleConfig} {history : AccuracyHistory} {f : Fin 3 → ℚ} {i j : Fin 3}
  {name : String}

lemma sumValues_dictOf : sumValues (dictOf f) = ∑ i, f i := by
  simp [sumValues, dictOf, Fin.sum_univ_three, add_assoc]

lemma clampAll_dictOf : clampAll config (dictOf f) =
    dictOf fun i => clamp config.minWeight config.maxWeight (f i) := rfl

lemma getItem_dictOf (i : Fin 3) : getItem (dictOf f) (nameOf i) = some (f i) :=
  match i with
  | 0 | 1 | 2 => rfl

lemma exists_nameOf (h : name ∈ modelNames) : ∃ i, nameOf i = name := by
  simp only [modelNames, List.mem_cons, List.not_mem_nil, or_false] at h
  rcases h with rfl | rfl | rfl
  · exact ⟨0, rfl⟩
  · exact ⟨1, rfl⟩
  · exact ⟨2, rfl⟩

lemma nameOf_mem (i : Fin 3) : nameOf i ∈ modelNames :=
  match i with
  | 0 | 1 | 2 => by decide

/-! ## The two rounds -/

lemma inverseMape_pos (errors : List ℚ) : 0 < inverseMape errors := by
  unfold inverseMape
  split
  · exact one_pos
  · exact one_div_pos.mpr (lt_max_of_lt_right (by norm_num))

lemma sum_inverseMape_pos (history : AccuracyHistory) :
    0 < ∑ i, inverseMape (history (nameOf i)) :=
  Finset.sum_pos (fun _ _ => inverseMape_pos _) Finset.univ_nonempty

lemma share_nonneg (i : Fin 3) : 0 ≤ share history i :=
  Lib.Shares.normalise_nonneg (fun _ => (inverseMape_pos _).le) i

lemma sum_share : ∑ i, share history i = 1 :=
  Lib.Shares.sum_normalise (sum_inverseMape_pos history).ne'

lemma maxWeight_pos : 0 < config.maxWeight := by
  linarith [config.maxWeight_mem.1]

/-- The code computes two rounds of clamping and dividing. -/
theorem updateWeights_eq : updateWeights config history =
    dictOf (rounds config.minWeight config.maxWeight (share history)) := by
  have hinverse : (modelNames.map fun name => (name, inverseMape (history name))) =
      dictOf fun i => inverseMape (history (nameOf i)) := rfl
  have hdivide (f : Fin 3 → ℚ) : divideBy (∑ i, f i) (dictOf f) = dictOf (normalise f) := rfl
  have hshare : (normalise fun i => inverseMape (history (nameOf i))) = share history := rfl
  -- no sum is zero, so the configured weights are never taken
  have hfirst : 0 < ∑ i, clamp config.minWeight config.maxWeight (share history i) :=
    Lib.Shares.sum_clamp_pos config.minWeight_mem.1 maxWeight_pos sum_share
  have hsecond : 0 < ∑ i, clamp config.minWeight config.maxWeight
      (normalise (fun j => clamp config.minWeight config.maxWeight (share history j)) i) :=
    Lib.Shares.sum_clamp_pos config.minWeight_mem.1 maxWeight_pos
      (Lib.Shares.first_round config.minWeight_mem.1 maxWeight_pos sum_share)
  simp only [updateWeights, hinverse, sumValues_dictOf, if_neg (sum_inverseMape_pos history).ne',
    hdivide, hshare, clampAll_dictOf, if_pos hfirst, if_pos hsecond, rounds]

lemma bounds_iff : (∀ name ∈ modelNames, ∃ w, getItem (dictOf f) name = some w ∧
    config.minWeight ≤ w ∧ w ≤ config.maxWeight) ↔
      ∀ i, config.minWeight ≤ f i ∧ f i ≤ config.maxWeight := by
  constructor
  · intro h i
    obtain ⟨w, hw, hbounds⟩ := h (nameOf i) (nameOf_mem i)
    obtain rfl := Option.some.inj ((getItem_dictOf i).symm.trans hw)
    exact hbounds
  · intro h name hname
    obtain ⟨i, rfl⟩ := exists_nameOf hname
    exact ⟨f i, getItem_dictOf i, h i⟩

lemma inverseMape_anti {errors others : List ℚ} (herrors : errors ≠ []) (hothers : others ≠ [])
    (h : Lib.Sample.mean errors < Lib.Sample.mean others) :
    inverseMape others ≤ inverseMape errors := by
  rw [inverseMape, inverseMape, if_neg herrors, if_neg hothers]
  exact one_div_le_one_div_of_le (lt_max_of_lt_right (by norm_num)) (max_le_max_right _ h.le)

lemma order_updateWeights {name other : String} (hname : name ∈ modelNames)
    (hother : other ∈ modelNames) (hne : history name ≠ []) (hne' : history other ≠ [])
    (hmean : Lib.Sample.mean (history name) < Lib.Sample.mean (history other)) {w w' : ℚ}
    (hw : getItem (updateWeights config history) name = some w)
    (hw' : getItem (updateWeights config history) other = some w') : w' ≤ w := by
  obtain ⟨i, rfl⟩ := exists_nameOf hname
  obtain ⟨j, rfl⟩ := exists_nameOf hother
  rw [updateWeights_eq, getItem_dictOf] at hw hw'
  obtain rfl := Option.some.inj hw
  obtain rfl := Option.some.inj hw'
  exact Lib.Shares.rounds_mono config.minWeight_mem.1 (Lib.Shares.normalise_mono
    (fun _ => (inverseMape_pos _).le) (inverseMape_anti hne hne' hmean))

/-- The weights are what they should be exactly if the shares fall short of the lower bound by as
much as they exceed the upper one. -/
theorem right_iff_balanced (config : EnsembleConfig) (history : AccuracyHistory)
    (hmin : 3 * config.minWeight ≤ 1) (hmax : 1 ≤ 3 * config.maxWeight) :
    Right config history (updateWeights config history) ↔ Balanced config history := by
  have hbounds : (∀ i,
      config.minWeight ≤ rounds config.minWeight config.maxWeight (share history) i ∧
      rounds config.minWeight config.maxWeight (share history) i ≤ config.maxWeight) ↔
        Balanced config history :=
    Lib.Shares.bounded_iff config.minWeight_mem.1 maxWeight_pos sum_share (by linarith)
      share_nonneg
  constructor
  · intro h
    have := h.bounds
    rw [updateWeights_eq, bounds_iff] at this
    exact hbounds.mp this
  · intro h
    refine ⟨?_, ?_, fun name hname other hother hne hne' hmean w w' =>
      order_updateWeights hname hother hne hne' hmean⟩
    · rw [updateWeights_eq, sumValues_dictOf]
      exact Lib.Shares.sum_rounds config.minWeight_mem.1 maxWeight_pos sum_share
    · rw [updateWeights_eq, bounds_iff]
      exact hbounds.mpr h

/-! ## The default bounds -/

lemma default_minWeight_mem : (0 : ℚ) ≤ 1 / 10 ∧ (1 : ℚ) / 10 ≤ 1 / 2 := by norm_num

lemma default_maxWeight_mem : (3 : ℚ) / 10 ≤ 6 / 10 ∧ (6 : ℚ) / 10 ≤ 1 := by norm_num

/-- The default configuration. -/
def defaultConfig : EnsembleConfig where
  minWeight_mem := default_minWeight_mem
  maxWeight_mem := default_maxWeight_mem

/-- Average errors of 6, 13 and 78, so that the shares are 65, 30 and 5 percent. -/
def spreadOut : AccuracyHistory := fun name =>
  if name = "linear" then [5, 7] else if name = "prophet" then [13] else [78, 78]

/-- The first share is as far above the upper bound as the last one is below the lower bound. -/
theorem right_spreadOut :
    Right defaultConfig spreadOut (updateWeights defaultConfig spreadOut) := by
  have hbalanced : Balanced defaultConfig spreadOut := by
    unfold Balanced
    decide +kernel
  exact (right_iff_balanced defaultConfig spreadOut (by norm_num [defaultConfig])
    (by norm_num [defaultConfig])).mpr hbalanced

/-- One model without errors to speak of, and two that are far off. -/
def oneGood : AccuracyHistory := fun name => if name = "linear" then [1 / 100] else [100]

/-- Then the good one gets more than the upper bound. -/
theorem not_right_oneGood :
    ¬ Right defaultConfig oneGood (updateWeights defaultConfig oneGood) := by
  intro h
  have hweights : updateWeights defaultConfig oneGood =
      [("linear", 12 / 17), ("prophet", 5 / 34), ("xgboost", 5 / 34)] := by
    decide +kernel
  obtain ⟨w, hw, -, hle⟩ := h.bounds "linear" (by decide)
  rw [hweights] at hw
  obtain rfl := Option.some.inj hw
  exact absurd hle (by norm_num [defaultConfig])

end Paryty.Intelligence.Ensemble

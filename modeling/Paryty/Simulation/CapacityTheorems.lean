import Mathlib.Data.List.Nodup
import Paryty.Simulation.Capacity

/-!
# Coherent forecasts

What the forecasts of `PlanCapacity` have to do with the least-squares lines of the points.

* `linearRegression_eq`: the regression finds the least-squares line, with the first point as the
  origin of time.
* `planResource_eq`: the projection is its value 30 days after the first point; the urgency goes by
  the days that the latest value needs at its slope, and by zero days if the slope is not positive.
* `coherent_iff`: when the projections, recommendations and urgencies fit the lines.
-/

namespace Paryty.Simulation

open Lib.LeastSquares (slope intercept line shift total spread line_shift slope_shift)

/-! ## The regression -/

/-- A time in seconds. -/
def inSeconds (t : Instant) : ℚ := t / 10 ^ 9

/-- The points over the seconds since the epoch. -/
def samples (points : List MetricPoint) : List (ℚ × ℚ) :=
  points.map fun p => (inSeconds p.timestamp, p.value)

lemma secondsBetween_eq (origin t : Instant) :
    secondsBetween origin t = inSeconds t - inSeconds origin := by
  unfold secondsBetween inSeconds
  push_cast
  ring

lemma foldl_add (origin : Instant) (points : List MetricPoint) (sums : RegressionSums) :
    points.foldl (RegressionSums.add origin) sums =
      ⟨sums.x + total Prod.fst (shift (inSeconds origin) (samples points)),
        sums.y + total Prod.snd (shift (inSeconds origin) (samples points)),
        sums.xy + total (fun p => p.1 * p.2) (shift (inSeconds origin) (samples points)),
        sums.x2 + total (fun p => p.1 * p.1) (shift (inSeconds origin) (samples points))⟩ := by
  induction points generalizing sums with
  | nil => simp [samples, shift]
  | cons p points ih =>
    rw [List.foldl_cons, ih]
    simp only [RegressionSums.add, secondsBetween_eq, samples, shift, List.map_cons,
      Lib.LeastSquares.total_cons, add_assoc]

lemma linearRegression_eq (first : MetricPoint) (rest : List MetricPoint) :
    linearRegression (first :: rest) =
      (slope (shift (inSeconds first.timestamp) (samples (first :: rest))),
        intercept (shift (inSeconds first.timestamp) (samples (first :: rest)))) := by
  have hlength : ((shift (inSeconds first.timestamp) (samples (first :: rest))).length : ℚ) =
      (first :: rest).length := by
    simp [shift, samples]
  unfold linearRegression
  simp only [foldl_add, zero_add]
  split
  case isTrue hdenom =>
    have hspread : spread (shift (inSeconds first.timestamp) (samples (first :: rest))) = 0 := by
      rw [spread, hlength]
      exact hdenom
    have hslope : slope (shift (inSeconds first.timestamp) (samples (first :: rest))) = 0 := by
      rw [Lib.LeastSquares.slope, hspread, div_zero]
    rw [intercept, hslope, hlength, zero_mul, sub_zero]
  case isFalse =>
    rw [intercept, Lib.LeastSquares.slope, spread, hlength]

/-! ## Plans -/

/-- What is projected for a value of the line. -/
def clamp (usage : ℚ) : ℚ := max 0 (min 100 usage)

lemma clamp_eq_clamp_iff {a b : ℚ} :
    clamp a = clamp b ↔ a = b ∨ (a ≤ 0 ∧ b ≤ 0) ∨ (100 ≤ a ∧ 100 ≤ b) := by
  unfold clamp
  grind

lemma clamp_lt_iff {a : ℚ} : clamp a < 80 ↔ a < 80 := by
  unfold clamp
  rw [max_lt_iff, min_lt_iff]
  norm_num

lemma planResource_eq (format1 : ℚ → String) (agents : List String)
    (query : String → Option (List MetricPoint)) (metric : String) {first : MetricPoint}
    {rest : List MetricPoint} (hpoints : (collect query agents).1 = first :: rest) :
    planResource format1 agents query metric = some
      { key := resourceToKey metric
        current := (collect query agents).2
        projected := clamp (line (samples (first :: rest)) (inSeconds first.timestamp + month))
        days := daysUntilFull (slope (samples (first :: rest))) (collect query agents).2
        recommendation := generateRecommendation format1 (resourceToKey metric)
          (collect query agents).2
          (clamp (line (samples (first :: rest)) (inSeconds first.timestamp + month)))
          ((daysUntilFull (slope (samples (first :: rest))) (collect query agents).2).getD 0)
          agents.length } := by
  have hne : samples (first :: rest) ≠ [] := by simp [samples]
  have hline : slope (samples (first :: rest)) * month +
      intercept (shift (inSeconds first.timestamp) (samples (first :: rest))) =
        line (samples (first :: rest)) (inSeconds first.timestamp + month) := by
    rw [← line_shift (inSeconds first.timestamp) _ hne, add_sub_cancel_left, line, slope_shift]
  unfold planResource
  simp only [hpoints, linearRegression_eq, slope_shift, hline]
  rfl

/-! ## Urgencies -/

/-- The rank of an urgency, zero without a recommendation. -/
def rank : Option Urgency → ℕ
  | none => 0
  | some .low => 1
  | some .medium => 2
  | some .high => 3
  | some .critical => 4

/-- The slope is not positive, or takes the latest value to 100 in less than `n` days. -/
def Pressing (n : ℕ) (slope latestValue : ℚ) : Prop :=
  slope ≤ 0 ∨ 100 - latestValue < n * (slope * 86400)

lemma days_le_iff (n : ℕ) (slope latestValue : ℚ) :
    (daysUntilFull slope latestValue).getD 0 ≤ n ↔ Pressing (n + 1) slope latestValue := by
  unfold daysUntilFull Pressing
  by_cases hslope : 0 < slope
  case neg => simp [hslope, not_lt.mp hslope]
  have hday : 0 < slope * 86400 := by positivity
  simp only [hslope, if_true, not_le.mpr hslope, false_or]
  rw [← div_lt_iff₀ hday]
  split
  case isTrue =>
    rw [Option.getD_some, ← Int.lt_add_one_iff, Int.floor_lt]
    push_cast
    rfl
  case isFalse hpositive =>
    have hn : (0 : ℚ) ≤ n := Nat.cast_nonneg n
    refine iff_of_true (by simp) ?_
    push_cast
    linarith

lemma rank_generateRecommendation (format1 : ℚ → String) (resource : String)
    (current projected : ℚ) (daysToFull : ℤ) (agentCount : ℕ) :
    rank ((generateRecommendation format1 resource current projected daysToFull agentCount).map
        CapacityRecommendation.urgency) =
      if daysToFull ≤ 7 then 4
      else if daysToFull ≤ 30 then 3
      else if daysToFull ≤ 90 then 2
      else if 80 ≤ projected then 1
      else 0 := by
  unfold generateRecommendation
  split
  case isTrue h =>
    obtain ⟨hprojected, hdays⟩ := h
    rw [if_neg (by omega), if_neg (by omega), if_neg (by omega), if_neg (not_le.mpr hprojected)]
    rfl
  case isFalse h =>
    have hprojected : ¬ daysToFull ≤ 90 → 80 ≤ projected := fun hdays =>
      not_lt.mp fun hlow => h ⟨hlow, not_le.mp hdays⟩
    simp only [Option.map_some, urgencyOf]
    by_cases hcritical : daysToFull ≤ 7
    · simp [hcritical, rank]
    by_cases hhigh : daysToFull ≤ 30
    · simp [hcritical, hhigh, rank]
    by_cases hmedium : daysToFull ≤ 90
    · simp [hcritical, hhigh, hmedium, rank]
    · simp [hcritical, hhigh, hmedium, hprojected hmedium, rank]

/-! ## The report -/

namespace StorageReader

/-- The points of a metric across all agents, and its latest value. -/
def collected (store : StorageReader) (now : Instant) (metric : String) : List MetricPoint × ℚ :=
  collect (fun agentID => store.queryMetrics agentID metric (now - historyWindow) now)
    (store.agents.getD [])

/-- The points of a metric over the seconds. -/
def fit (store : StorageReader) (now : Instant) (metric : String) : List (ℚ × ℚ) :=
  samples (store.collected now metric).1

end StorageReader

section Report

variable {format1 : ℚ → String} {store : StorageReader} {now generatedAt : Instant}
  {report : CapacityReport} {agents : List String} {query : String → Option (List MetricPoint)}
  {metric : String} {first : MetricPoint} {rest : List MetricPoint}

lemma key_of_planResource {p : ResourcePlan}
    (h : planResource format1 agents query metric = some p) :
    p.key = resourceToKey metric ∧
      ∀ r, p.recommendation = some r → r.resource = resourceToKey metric := by
  by_cases hempty : (collect query agents).1 = []
  · simp [planResource, hempty] at h
  · simp only [planResource, if_neg hempty, Option.some.injEq] at h
    subst h
    refine ⟨rfl, fun r hr => ?_⟩
    simp only [generateRecommendation] at hr
    split at hr
    case isTrue => cases hr
    case isFalse =>
      obtain rfl := Option.some.inj hr
      rfl

lemma resourceToKey_inj {metric' : String} (h : metric ∈ resources) (h' : metric' ∈ resources)
    (hkey : resourceToKey metric = resourceToKey metric') : metric = metric' :=
  List.inj_on_of_nodup_map (by decide) h h' hkey

lemma generatedAt_planCapacity (h : planCapacity format1 store now generatedAt = .ok report) :
    report.generatedAt = generatedAt := by
  unfold planCapacity at h
  cases hagents : store.agents with
  | none => simp [hagents] at h
  | some agents =>
    simp only [hagents] at h
    split at h <;> exact (Except.ok.inj h) ▸ rfl

lemma planCapacity_spec (h : planCapacity format1 store now generatedAt = .ok report)
    (hmetric : metric ∈ resources) (hpoints : (store.collected now metric).1 = first :: rest) :
    (∀ usage, (resourceToKey metric, usage) ∈ report.projectedUsage ↔
        usage = clamp (line (store.fit now metric) (inSeconds first.timestamp + month))) ∧
      ∀ r, r ∈ report.recommendations ∧ r.resource = resourceToKey metric ↔
        generateRecommendation format1 (resourceToKey metric) (store.collected now metric).2
          (clamp (line (store.fit now metric) (inSeconds first.timestamp + month)))
          ((daysUntilFull (slope (store.fit now metric)) (store.collected now metric).2).getD 0)
          (store.agents.getD []).length = some r := by
  unfold planCapacity at h
  cases hagents : store.agents with
  | none => simp [hagents] at h
  | some agents =>
  have hcollected (metric : String) : store.collected now metric = collect
      (fun agentID => store.queryMetrics agentID metric (now - historyWindow) now) agents := by
    rw [StorageReader.collected, hagents]
    rfl
  rw [hagents] at h
  by_cases hempty : agents = []
  case pos =>
    rw [hcollected, hempty] at hpoints
    cases hpoints
  case neg =>
  simp only [if_neg hempty] at h
  obtain rfl := Except.ok.inj h
  have hplan := planResource_eq format1 agents
    (fun agentID => store.queryMetrics agentID metric (now - historyWindow) now) metric
    (by rw [← hcollected, hpoints])
  have hfound (p : ResourcePlan) : (∃ metric' ∈ resources, planResource format1 agents
      (fun agentID => store.queryMetrics agentID metric' (now - historyWindow) now) metric' =
        some p ∧ resourceToKey metric' = resourceToKey metric) ↔
      planResource format1 agents
        (fun agentID => store.queryMetrics agentID metric (now - historyWindow) now) metric =
          some p := by
    constructor
    · rintro ⟨metric', hmetric', hp, hkey⟩
      obtain rfl := resourceToKey_inj hmetric' hmetric hkey
      exact hp
    · exact fun hp => ⟨metric, hmetric, hp, rfl⟩
  rw [hplan] at hfound
  refine ⟨fun usage => ?_, fun r => ?_⟩
  · rw [List.mem_map]
    constructor
    · rintro ⟨p, hp, hpair⟩
      obtain ⟨metric', hmetric', hp⟩ := List.mem_filterMap.mp hp
      obtain ⟨hkey, rfl⟩ := Prod.mk.inj hpair
      rw [(key_of_planResource hp).1] at hkey
      obtain rfl := Option.some.inj ((hfound p).mp ⟨metric', hmetric', hp, hkey⟩)
      rw [StorageReader.fit, hpoints]
    · rintro rfl
      obtain ⟨metric', hmetric', hp, -⟩ := (hfound _).mpr rfl
      refine ⟨_, List.mem_filterMap.mpr ⟨metric', hmetric', hp⟩, ?_⟩
      rw [StorageReader.fit, hpoints]
  · rw [List.mem_filterMap]
    constructor
    · rintro ⟨⟨p, hp, hr⟩, hresource⟩
      obtain ⟨metric', hmetric', hp⟩ := List.mem_filterMap.mp hp
      have hkey := (key_of_planResource hp).2 r hr
      obtain rfl := Option.some.inj
        ((hfound p).mp ⟨metric', hmetric', hp, hkey.symm.trans hresource⟩)
      rw [StorageReader.fit, hpoints, hcollected]
      exact hr
    · intro hr
      rw [StorageReader.fit, hpoints, hcollected] at hr
      obtain ⟨metric', hmetric', hp, hkey⟩ := (hfound _).mpr rfl
      exact ⟨⟨_, List.mem_filterMap.mpr ⟨metric', hmetric', hp⟩, hr⟩,
        ((key_of_planResource hp).2 r hr).trans hkey⟩

end Report

/-! ## Coherence -/

/-- The time at which a line reaches 100, if it does. -/
def fullAt (points : List (ℚ × ℚ)) : Option ℚ :=
  if 0 < slope points then some ((100 - intercept points) / slope points) else none

/-- The first line reaches 100 later than the second, or never while the second does. -/
def FullLater (points points' : List (ℚ × ℚ)) : Prop :=
  ∃ t', fullAt points' = some t' ∧ ∀ t, fullAt points = some t → t' < t

/-- The forecasts fit the least-squares lines of the resources that have points. -/
structure Coherent (store : StorageReader) (now : Instant) (report : CapacityReport) : Prop where
  /-- The projection is the value of the line 30 days after the report. -/
  projected : ∀ metric ∈ resources, store.fit now metric ≠ [] →
    ∀ usage, (resourceToKey metric, usage) ∈ report.projectedUsage ↔
      usage = clamp (line (store.fit now metric) (inSeconds report.generatedAt + month))
  /-- No recommendation without a positive slope or a projection of at least 80. -/
  quiet : ∀ metric ∈ resources, store.fit now metric ≠ [] → slope (store.fit now metric) ≤ 0 →
    (∀ usage, (resourceToKey metric, usage) ∈ report.projectedUsage → usage < 80) →
      ∀ r ∈ report.recommendations, r.resource ≠ resourceToKey metric
  /-- The resource that is full later does not have the higher urgency. -/
  urgent : ∀ metric ∈ resources, ∀ metric' ∈ resources, store.fit now metric ≠ [] →
    store.fit now metric' ≠ [] → FullLater (store.fit now metric) (store.fit now metric') →
      ∀ r ∈ report.recommendations, r.resource = resourceToKey metric →
        ∃ r' ∈ report.recommendations, r'.resource = resourceToKey metric' ∧
          rank (some r.urgency) ≤ rank (some r'.urgency)

/-- The points and the latest value of a resource. -/
structure Observed where
  points : List (ℚ × ℚ)
  latestValue : ℚ
  /-- The time of the first point. -/
  origin : Instant

/-- 30 days after the first point. -/
def Observed.horizon (o : Observed) : ℚ := inSeconds o.origin + month

/-- What is observed of a resource that has points. -/
def StorageReader.observed (store : StorageReader) (now : Instant) (metric : String)
    (o : Observed) : Prop :=
  metric ∈ resources ∧ ∃ first rest, (store.collected now metric).1 = first :: rest ∧
    o = ⟨store.fit now metric, (store.collected now metric).2, first.timestamp⟩

/-- The conditions on the points: 30 days after the first point the line has the same value as 30
days after the report, or both values are clamped to the same bound; no line is flat or falling and
below 80 then; and of two resources the one that is full later is not the more pressing one by its
latest value and slope, where a slope that is not positive presses most. -/
structure Fitting (store : StorageReader) (now generatedAt : Instant) : Prop where
  projected : ∀ metric o, store.observed now metric o →
    slope o.points = 0 ∨ o.origin = generatedAt ∨
    (line o.points o.horizon ≤ 0 ∧ line o.points (inSeconds generatedAt + month) ≤ 0) ∨
    (100 ≤ line o.points o.horizon ∧ 100 ≤ line o.points (inSeconds generatedAt + month))
  quiet : ∀ metric o, store.observed now metric o →
    0 < slope o.points ∨ 80 ≤ line o.points o.horizon
  urgent : ∀ metric o metric' o', store.observed now metric o → store.observed now metric' o' →
    FullLater o.points o'.points →
      (∀ n ∈ [8, 31, 91], Pressing n (slope o.points) o.latestValue →
        Pressing n (slope o'.points) o'.latestValue) ∧
      (Pressing 91 (slope o.points) o.latestValue ∨ 80 ≤ line o.points o.horizon →
        Pressing 91 (slope o'.points) o'.latestValue ∨ 80 ≤ line o'.points o'.horizon)

section Coherent

variable {format1 : ℚ → String} {store : StorageReader} {now generatedAt : Instant}
  {report : CapacityReport} {metric metric' : String} {o o' : Observed}

/-- What is recommended for a resource. -/
def Observed.recommendation (format1 : ℚ → String) (o : Observed) (metric : String)
    (agentCount : ℕ) : Option CapacityRecommendation :=
  generateRecommendation format1 (resourceToKey metric) o.latestValue
    (clamp (line o.points o.horizon)) ((daysUntilFull (slope o.points) o.latestValue).getD 0)
    agentCount

lemma report_of_observed (h : planCapacity format1 store now generatedAt = .ok report)
    (ho : store.observed now metric o) :
    (∀ usage, (resourceToKey metric, usage) ∈ report.projectedUsage ↔
        usage = clamp (line o.points o.horizon)) ∧
      ∀ r, r ∈ report.recommendations ∧ r.resource = resourceToKey metric ↔
        o.recommendation format1 metric (store.agents.getD []).length = some r := by
  obtain ⟨hmetric, first, rest, hpoints, rfl⟩ := ho
  exact planCapacity_spec h hmetric hpoints

lemma observed_of_fit (hmetric : metric ∈ resources) (hfit : store.fit now metric ≠ []) :
    ∃ o, store.observed now metric o ∧ o.points = store.fit now metric := by
  cases hpoints : (store.collected now metric).1 with
  | nil => exact absurd (by rw [StorageReader.fit, hpoints]; rfl) hfit
  | cons first rest => exact ⟨_, ⟨hmetric, first, rest, hpoints, rfl⟩, rfl⟩

lemma fit_of_observed (ho : store.observed now metric o) :
    metric ∈ resources ∧ o.points = store.fit now metric ∧ store.fit now metric ≠ [] := by
  obtain ⟨hmetric, first, rest, hpoints, rfl⟩ := ho
  exact ⟨hmetric, rfl, by simp [StorageReader.fit, hpoints, samples]⟩

lemma rank_recommendation_le_iff (n n' : ℕ) :
    rank ((o.recommendation format1 metric n).map CapacityRecommendation.urgency) ≤
        rank ((o'.recommendation format1 metric' n').map CapacityRecommendation.urgency) ↔
      (∀ n ∈ [8, 31, 91], Pressing n (slope o.points) o.latestValue →
        Pressing n (slope o'.points) o'.latestValue) ∧
      (Pressing 91 (slope o.points) o.latestValue ∨ 80 ≤ line o.points o.horizon →
        Pressing 91 (slope o'.points) o'.latestValue ∨ 80 ≤ line o'.points o'.horizon) := by
  have hclamp (x : ℚ) : 80 ≤ clamp x ↔ 80 ≤ x := by
    rw [← not_lt, clamp_lt_iff, not_lt]
  have h8 (o : Observed) : Pressing 8 (slope o.points) o.latestValue ↔
      (daysUntilFull (slope o.points) o.latestValue).getD 0 ≤ 7 := (days_le_iff 7 _ _).symm
  have h31 (o : Observed) : Pressing 31 (slope o.points) o.latestValue ↔
      (daysUntilFull (slope o.points) o.latestValue).getD 0 ≤ 30 := (days_le_iff 30 _ _).symm
  have h91 (o : Observed) : Pressing 91 (slope o.points) o.latestValue ↔
      (daysUntilFull (slope o.points) o.latestValue).getD 0 ≤ 90 := (days_le_iff 90 _ _).symm
  unfold Observed.recommendation
  simp only [rank_generateRecommendation, hclamp, List.forall_mem_cons, List.not_mem_nil,
    false_imp_iff, implies_true, and_true, h8, h31, h91]
  generalize (daysUntilFull (slope o.points) o.latestValue).getD 0 = days
  generalize (daysUntilFull (slope o'.points) o'.latestValue).getD 0 = days'
  by_cases hprojected : 80 ≤ line o.points o.horizon <;>
    by_cases hprojected' : 80 ≤ line o'.points o'.horizon <;>
    simp only [hprojected, hprojected', or_true, or_false, implies_true, if_true, if_false]
  all_goals grind

lemma clamp_line_eq_iff : clamp (line o.points o.horizon) =
      clamp (line o.points (inSeconds generatedAt + month)) ↔
    slope o.points = 0 ∨ o.origin = generatedAt ∨
    (line o.points o.horizon ≤ 0 ∧ line o.points (inSeconds generatedAt + month) ≤ 0) ∨
    (100 ≤ line o.points o.horizon ∧ 100 ≤ line o.points (inSeconds generatedAt + month)) := by
  have htimes : inSeconds o.origin = inSeconds generatedAt ↔ o.origin = generatedAt := by
    unfold inSeconds
    rw [div_left_inj' (by norm_num), Int.cast_inj]
  have hlines : line o.points o.horizon = line o.points (inSeconds generatedAt + month) ↔
      slope o.points = 0 ∨ o.origin = generatedAt := by
    rw [← htimes, Observed.horizon, line, line, add_left_inj, mul_eq_mul_left_iff, add_left_inj,
      or_comm]
  rw [clamp_eq_clamp_iff, hlines, or_assoc]

lemma recommendation_of_slope (hslope : slope o.points ≤ 0) (n : ℕ) :
    ∃ r, o.recommendation format1 metric n = some r ∧ r.urgency = .critical := by
  have hdays : daysUntilFull (slope o.points) o.latestValue = none := if_neg (not_lt.mpr hslope)
  unfold Observed.recommendation generateRecommendation
  rw [hdays, if_neg (by simp)]
  exact ⟨_, rfl, rfl⟩

lemma urgent_iff (h : planCapacity format1 store now generatedAt = .ok report)
    (ho : store.observed now metric o) (ho' : store.observed now metric' o') :
    (∀ r ∈ report.recommendations, r.resource = resourceToKey metric →
      ∃ r' ∈ report.recommendations, r'.resource = resourceToKey metric' ∧
        rank (some r.urgency) ≤ rank (some r'.urgency)) ↔
    rank ((o.recommendation format1 metric (store.agents.getD []).length).map
        CapacityRecommendation.urgency) ≤
      rank ((o'.recommendation format1 metric' (store.agents.getD []).length).map
        CapacityRecommendation.urgency) := by
  have hreport := (report_of_observed h ho).2
  have hreport' := (report_of_observed h ho').2
  constructor
  · intro hurgent
    cases hr : o.recommendation format1 metric (store.agents.getD []).length with
    | none => exact Nat.zero_le _
    | some r =>
      obtain ⟨hmem, hresource⟩ := (hreport r).mpr hr
      obtain ⟨r', hmem', hresource', hrank⟩ := hurgent r hmem hresource
      rw [(hreport' r').mp ⟨hmem', hresource'⟩]
      exact hrank
  · intro hrank r hmem hresource
    rw [(hreport r).mp ⟨hmem, hresource⟩] at hrank
    cases hr' : o'.recommendation format1 metric' (store.agents.getD []).length with
    | none =>
      rw [hr'] at hrank
      have hpositive : 0 < rank (some r.urgency) := by cases r.urgency <;> decide
      exact absurd (hpositive.trans_le hrank) (lt_irrefl 0)
    | some r' =>
      rw [hr'] at hrank
      obtain ⟨hmem', hresource'⟩ := (hreport' r').mpr hr'
      exact ⟨r', hmem', hresource', hrank⟩

/-- **Coherent forecasts.** The projections are the values of the lines 30 days after the report, a
resource without a positive slope and below 80 gets no recommendation, and the urgencies are in the
order in which the lines reach 100, if and only if the points are fitting. -/
theorem coherent_iff (format1 : ℚ → String) (store : StorageReader) (now generatedAt : Instant)
    (report : CapacityReport) (h : planCapacity format1 store now generatedAt = .ok report) :
    Coherent store now report ↔ Fitting store now generatedAt := by
  have hgenerated := generatedAt_planCapacity h
  constructor
  · intro hcoherent
    refine ⟨fun metric o ho => ?_, fun metric o ho => ?_,
      fun metric o metric' o' ho ho' hlater => ?_⟩
    · obtain ⟨hmetric, hpoints, hfit⟩ := fit_of_observed ho
      have hprojected := hcoherent.projected metric hmetric hfit (clamp (line o.points o.horizon))
      rw [(report_of_observed h ho).1, hgenerated, ← hpoints] at hprojected
      exact clamp_line_eq_iff.mp (hprojected.mp rfl)
    · obtain ⟨hmetric, hpoints, hfit⟩ := fit_of_observed ho
      by_contra hnot
      obtain ⟨hslope, hlow⟩ := not_or.mp hnot
      have hslope := not_lt.mp hslope
      obtain ⟨r, hr, -⟩ := recommendation_of_slope hslope (store.agents.getD []).length
      obtain ⟨hmem, hresource⟩ := ((report_of_observed h ho).2 r).mpr hr
      refine hcoherent.quiet metric hmetric hfit (hpoints ▸ hslope) (fun usage husage => ?_) r hmem
        hresource
      rw [((report_of_observed h ho).1 usage).mp husage]
      exact clamp_lt_iff.mpr (not_le.mp hlow)
    · obtain ⟨hmetric, hpoints, hfit⟩ := fit_of_observed ho
      obtain ⟨hmetric', hpoints', hfit'⟩ := fit_of_observed ho'
      exact (rank_recommendation_le_iff _ _).mp ((urgent_iff h ho ho').mp
        (hcoherent.urgent metric hmetric metric' hmetric' hfit hfit' (hpoints ▸ hpoints' ▸ hlater)))
  · intro hfitting
    refine ⟨fun metric hmetric hfit usage => ?_, fun metric hmetric hfit hslope hlow r hmem => ?_,
      fun metric hmetric metric' hmetric' hfit hfit' hlater => ?_⟩
    · obtain ⟨o, ho, hpoints⟩ := observed_of_fit hmetric hfit
      rw [(report_of_observed h ho).1, hgenerated, ← hpoints,
        clamp_line_eq_iff.mpr (hfitting.projected metric o ho)]
    · obtain ⟨o, ho, hpoints⟩ := observed_of_fit hmetric hfit
      have husage := hlow _ (((report_of_observed h ho).1 _).mpr rfl)
      obtain hpositive | hhigh := hfitting.quiet metric o ho
      · exact absurd hpositive (not_lt.mpr (hpoints ▸ hslope))
      · exact absurd hhigh (not_le.mpr (clamp_lt_iff.mp husage))
    · obtain ⟨o, ho, hpoints⟩ := observed_of_fit hmetric hfit
      obtain ⟨o', ho', hpoints'⟩ := observed_of_fit hmetric' hfit'
      exact (urgent_iff h ho ho').mpr ((rank_recommendation_le_iff _ _).mpr
        (hfitting.urgent metric o metric' o' ho ho' (hpoints ▸ hpoints' ▸ hlater)))

end Coherent

/-! ## A rising usage -/

/-- A day. -/
def day : Instant := 24 * 3600 * 10 ^ 9

/-- One agent whose CPU usage goes from 95 to 96 in a day. -/
def risingStore : StorageReader where
  agents := some ["a1"]
  queryMetrics _ metric _ _ :=
    if metric = "cpu.usage_percent" then some [⟨0, 95⟩, ⟨day, 96⟩] else none

lemma observed_risingStore {metric : String} {o : Observed}
    (ho : risingStore.observed day metric o) :
    ∃ latest, o = ⟨[(0, 95), (86400, 96)], latest, 0⟩ := by
  obtain ⟨-, first, rest, hpoints, rfl⟩ := ho
  by_cases hmetric : metric = "cpu.usage_percent"
  · subst hmetric
    obtain ⟨rfl, -⟩ :=
      List.cons.inj (hpoints : [(⟨0, 95⟩ : MetricPoint), ⟨day, 96⟩] = first :: rest)
    refine ⟨_, congrArg₂ (fun points origin => (⟨points, _, origin⟩ : Observed)) ?_ rfl⟩
    change [(inSeconds 0, (95 : ℚ)), (inSeconds day, 96)] = _
    norm_num [inSeconds, day]
  · have hnone : (risingStore.collected day metric).1 = [] := by
      simp [StorageReader.collected, collect, risingStore, collectAgent, hmetric]
    rw [hnone] at hpoints
    cases hpoints

lemma slope_rising : slope [((0 : ℚ), (95 : ℚ)), (86400, 96)] = 1 / 86400 := by
  norm_num [Lib.LeastSquares.slope, spread, total]

lemma line_rising (x : ℚ) : line [((0 : ℚ), (95 : ℚ)), (86400, 96)] x = 95 + x / 86400 := by
  rw [line, intercept, slope_rising]
  norm_num [total]
  ring

/-- The usage is above 100 in 30 days, counted from the first point or from the report. -/
theorem rising_coherent : ∃ report,
    planCapacity (fun _ => "") risingStore day day = .ok report ∧
      Coherent risingStore day report := by
  refine ⟨_, rfl, (coherent_iff (fun _ => "") risingStore day day _ rfl).mpr ⟨?_, ?_, ?_⟩⟩
  · intro metric o ho
    obtain ⟨latest, rfl⟩ := observed_risingStore ho
    refine .inr (.inr (.inr ⟨?_, ?_⟩))
    · norm_num [Observed.horizon, line_rising, inSeconds, month]
    · norm_num [line_rising, inSeconds, month, day]
  · intro metric o ho
    obtain ⟨latest, rfl⟩ := observed_risingStore ho
    exact .inl (by norm_num [slope_rising])
  · intro metric o metric' o' ho ho' hlater
    obtain ⟨latest, rfl⟩ := observed_risingStore ho
    obtain ⟨latest', rfl⟩ := observed_risingStore ho'
    obtain ⟨t, ht, hle⟩ := hlater
    exact absurd (hle t ht) (lt_irrefl t)

/-! ## A flat usage -/

/-- One agent with one point of its CPU usage. -/
def flatStore (usage : ℚ) : StorageReader where
  agents := some ["a1"]
  queryMetrics _ metric _ _ := if metric = "cpu.usage_percent" then some [⟨0, usage⟩] else none

lemma slope_single (p : ℚ × ℚ) : slope [p] = 0 := by
  rw [Lib.LeastSquares.slope, spread]
  simp [total]

lemma line_single (x usage : ℚ) : line [(0, usage)] x = usage := by
  rw [line, slope_single, intercept, slope_single]
  simp [total]

/-- A flat usage of 10 gets a critical recommendation. -/
theorem flat_critical : ∃ report,
    planCapacity (fun _ => "") (flatStore 10) 0 0 = .ok report ∧
      ¬ Coherent (flatStore 10) 0 report := by
  obtain ⟨report, hreport⟩ : ∃ report, planCapacity (fun _ => "") (flatStore 10) 0 0 =
      .ok report := ⟨_, rfl⟩
  have ho : (flatStore 10).observed 0 "cpu.usage_percent" ⟨[(inSeconds 0, 10)], 10, 0⟩ :=
    ⟨by decide, ⟨0, 10⟩, [], rfl, rfl⟩
  obtain ⟨hmetric, hpoints, hfit⟩ := fit_of_observed ho
  have hslope : slope (⟨[(inSeconds 0, 10)], 10, 0⟩ : Observed).points ≤ 0 :=
    (slope_single (inSeconds 0, 10)).le
  obtain ⟨r, hr, -⟩ := recommendation_of_slope hslope 1
  obtain ⟨hmem, hresource⟩ := ((report_of_observed hreport ho).2 r).mpr hr
  refine ⟨report, hreport, fun h => ?_⟩
  refine h.quiet _ hmetric hfit (hpoints ▸ hslope) (fun usage husage => ?_) r hmem hresource
  rw [((report_of_observed hreport ho).1 usage).mp husage, clamp_lt_iff]
  have hline : line [(inSeconds 0, (10 : ℚ))] (inSeconds 0 + month) = 10 := by
    rw [inSeconds, Int.cast_zero, zero_div, line_single]
  exact hline.trans_lt (by norm_num)

end Paryty.Simulation

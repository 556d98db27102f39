import Paryty.Processing.Coverage
import Paryty.Processing.Downsampler

/-!
# What the downsampler computes

`computeDownsampled` of `internal/processing/downsampler.go` makes one metric of the rows of an
agent, a name and a type. By design it is an "avg of avg values" with the latest timestamp of its
rows.

* `combines_downsampled`: every row goes into one metric, one for each agent, name and type, and what
  the metric is.
* `not_keepsMeaning`: the averages are not weighted, the time is not the start of a bucket, and a
  metric is made of the rows of several buckets.
-/

namespace Paryty.Processing.Downsampler

/-! ## Metrics and buckets -/

/-- What rows have in common that are combined. -/
def series (m : AggregatedMetric) : String × String × AggregationType :=
  (m.agentID, m.name, m.aggType)

/-- The start of the target window a time is in. -/
def bucket (targetWindow : Duration) (ts : Time) : Time := ts - ts % targetWindow

/-- The metrics of the output. -/
def downsampled (samples : List Sample) (targetWindow : Duration) : List AggregatedMetric :=
  (computeDownsampled (groupSamples samples) targetWindow).map Target.metric

/-- What the value of a type says about some values. -/
def Summarizes : AggregationType → List ℚ → ℚ → Prop
  | .sum, values, v | .count, values, v => v = values.sum
  | .min, values, v => IsLeast {x | x ∈ values} v
  | .max, values, v => IsGreatest {x | x ∈ values} v
  | .avg, values, v | .p50, values, v | .p90, values, v | .p99, values, v =>
    v = values.sum / values.length

/-- The metric that some rows are combined into. -/
structure Combines (targetWindow : Duration) (part : List Sample) (m : AggregatedMetric) :
    Prop where
  nonempty : part ≠ []
  series : ∀ sample ∈ part, series sample.metric = series m
  window : m.window = targetWindow
  value : Summarizes m.aggType (part.map fun sample => sample.metric.value) m.value
  not_before : ∀ sample ∈ part, sample.metric.timestamp ≤ m.timestamp
  latest : m.timestamp = zeroTime ∨ ∃ sample ∈ part, sample.metric.timestamp = m.timestamp

/-! ## One metric -/

lemma summarizes_downsampledValue (aggType : AggregationType) {values : List ℚ} (h : values ≠ []) :
    Summarizes aggType values (downsampledValue aggType values) := by
  have havg : calcAvg values = values.sum / values.length := by
    rw [calcAvg, if_neg h, calcSum_eq]
  cases aggType with
  | sum | count => exact calcSum_eq values
  | min => exact isLeast_calcMin h
  | max => exact isGreatest_calcMax h
  | avg | p50 | p90 | p99 => exact havg

lemma lastTimestamp_concat (samples : List Sample) (sample : Sample) :
    lastTimestamp (samples ++ [sample]) = max (lastTimestamp samples) sample.metric.timestamp := by
  rw [lastTimestamp, List.foldl_concat, ← lastTimestamp]
  split
  case isTrue hlater => exact (max_eq_right hlater.le).symm
  case isFalse hlater => exact (max_eq_left (not_lt.mp hlater)).symm

lemma le_lastTimestamp {samples : List Sample} :
    ∀ sample ∈ samples, sample.metric.timestamp ≤ lastTimestamp samples := by
  induction samples using List.reverseRecOn with
  | nil => exact fun sample h => absurd h List.not_mem_nil
  | append_singleton samples last ih =>
    intro sample hsample
    rw [lastTimestamp_concat]
    rcases List.mem_append.mp hsample with hsample | hsample
    · exact (ih sample hsample).trans (le_max_left _ _)
    · rw [List.mem_singleton.mp hsample]
      exact le_max_right _ _

lemma lastTimestamp_cases (samples : List Sample) : lastTimestamp samples = zeroTime ∨
    ∃ sample ∈ samples, sample.metric.timestamp = lastTimestamp samples := by
  induction samples using List.reverseRecOn with
  | nil => exact .inl rfl
  | append_singleton samples last ih =>
    rw [lastTimestamp_concat]
    rcases max_choice (lastTimestamp samples) last.metric.timestamp with hmax | hmax
    · rw [hmax]
      refine ih.imp_right fun h => ?_
      obtain ⟨sample, hsample, htime⟩ := h
      exact ⟨sample, List.mem_append_left _ hsample, htime⟩
    · rw [hmax]
      exact .inr ⟨last, List.mem_append_right _ (List.mem_singleton_self _), rfl⟩

/-! ## All metrics -/

variable {samples : List Sample} {targetWindow : Duration}

/-- The rows of one type of a group. -/
def entries (group : DownsampleGroup) : List (AggregationType × List Sample) :=
  Lib.groupBy (fun sample => sample.metric.aggType) group.values

lemma computeDownsampled_eq (groups : List DownsampleGroup) (targetWindow : Duration) :
    computeDownsampled groups targetWindow =
      groups.flatMap fun group => (entries group).map (downsampleEntry targetWindow group) := by
  unfold computeDownsampled
  congr 1
  funext group
  split
  case isTrue hnil =>
    rw [entries, hnil]
    rfl
  case isFalse => rfl

lemma combines_entry {group : DownsampleGroup} (hgroup : group ∈ groupSamples samples)
    {entry : AggregationType × List Sample} (hentry : entry ∈ entries group) :
    Combines targetWindow entry.2 (downsampleEntry targetWindow group entry).metric where
  nonempty := Lib.ne_nil_of_mem_groupBy entry hentry
  series sample hsample := by
    obtain ⟨byName, hbyName, rfl⟩ := List.mem_map.mp hgroup
    have hvalues : sample ∈ byName.2 :=
      (Lib.flatMap_groupBy_perm _).mem_iff.mp (List.mem_flatMap.mpr ⟨entry, hentry, hsample⟩)
    have hname := Lib.key_of_mem_groupBy byName hbyName sample hvalues
    have htype := Lib.key_of_mem_groupBy entry hentry sample hsample
    simp only [Downsampler.series, downsampleEntry, ← hname, ← htype]
  window := rfl
  value := by
    refine summarizes_downsampledValue entry.1 fun hnil => ?_
    exact Lib.ne_nil_of_mem_groupBy entry hentry (List.map_eq_nil_iff.mp hnil)
  not_before := le_lastTimestamp
  latest := lastTimestamp_cases entry.2

/-- The metrics of the output, each with the rows that are combined in it. -/
def combinations (samples : List Sample) (targetWindow : Duration) :
    List (List Sample × AggregatedMetric) :=
  (groupSamples samples).flatMap fun group =>
    (entries group).map fun entry => (entry.2, (downsampleEntry targetWindow group entry).metric)

lemma map_combinations : (combinations samples targetWindow).map Prod.snd =
    downsampled samples targetWindow := by
  rw [combinations, downsampled, computeDownsampled_eq, List.map_flatMap, List.map_flatMap]
  simp only [List.map_map]
  rfl

lemma combines_combinations : ∀ part ∈ combinations samples targetWindow,
    Combines targetWindow part.1 part.2 := by
  intro part hpart
  obtain ⟨group, hgroup, hpart⟩ := List.mem_flatMap.mp hpart
  obtain ⟨entry, hentry, rfl⟩ := List.mem_map.mp hpart
  exact combines_entry hgroup hentry

lemma combinations_perm :
    ((combinations samples targetWindow).flatMap Prod.fst).Perm samples := by
  rw [combinations, List.flatMap_assoc]
  simp only [List.flatMap_map]
  have hentries (group : DownsampleGroup) :
      ((entries group).flatMap Prod.snd).Perm group.values := Lib.flatMap_groupBy_perm _
  refine (List.Perm.flatMap_left _ fun group _ => hentries group).trans ?_
  rw [groupSamples, List.flatMap_map]
  exact Lib.flatMap_groupBy_perm _

lemma nodup_series : ((downsampled samples targetWindow).map series).Nodup := by
  rw [downsampled, computeDownsampled_eq, List.map_flatMap, List.map_flatMap, List.nodup_flatMap]
  constructor
  · intro group _
    -- In a group the types differ.
    have htypes : ((entries group).map Prod.fst).Nodup := Lib.nodup_groupBy _
    rw [List.map_map, List.map_map]
    refine List.Nodup.of_map (fun key : String × String × AggregationType => key.2.2) ?_
    rw [List.map_map]
    exact htypes
  · -- Between groups the agents or the names differ.
    have hkeys : ((groupSamples samples).map fun group =>
        (group.agentID, group.metricName)).Nodup := by
      rw [groupSamples, List.map_map]
      exact Lib.nodup_groupBy _
    refine (List.pairwise_map.mp hkeys).imp fun hne => ?_
    intro key hkey hkey'
    simp only [List.map_map, List.mem_map] at hkey hkey'
    obtain ⟨entry, -, rfl⟩ := hkey
    obtain ⟨entry', -, hsame⟩ := hkey'
    simp only [Function.comp_apply, series, downsampleEntry, Prod.mk.injEq] at hsame
    exact hne (Prod.ext hsame.1.symm hsame.2.1.symm)

lemma filter_series_eq {m : AggregatedMetric} (hm : m ∈ downsampled samples targetWindow) :
    ((downsampled samples targetWindow).filter fun m' => series m' = series m) = [m] := by
  have hcount : ((downsampled samples targetWindow).map series).count (series m) = 1 :=
    List.count_eq_one_of_mem nodup_series (List.mem_map_of_mem hm)
  rw [List.count, List.countP_map, List.countP_eq_length_filter] at hcount
  have hone : ((downsampled samples targetWindow).filter fun m' =>
      series m' = series m).length = 1 := by
    rw [← hcount]
    refine congrArg List.length (List.filter_congr fun m' _ => ?_)
    rw [Function.comp_apply, Bool.eq_iff_iff, decide_eq_true_eq, beq_iff_eq]
  obtain ⟨m', hm'⟩ := List.length_eq_one_iff.mp hone
  have hmem : m ∈ (downsampled samples targetWindow).filter fun m' => series m' = series m :=
    List.mem_filter.mpr ⟨hm, decide_eq_true rfl⟩
  rw [hm', List.mem_singleton] at hmem
  rw [hm', hmem]

/-- Every row is combined with rows of its agent, its name and its type: a sum or a count is the
total, a minimum or a maximum the extreme, an average or a percentile the mean of their values, and
the time is the latest of theirs. There is one metric of all those rows, in whatever target windows
they are; if they are all in one, it is in that window. -/
theorem combines_downsampled (samples : List Sample) (targetWindow : Duration) :
    ∃ parts : List (List Sample × AggregatedMetric),
      parts.map Prod.snd = downsampled samples targetWindow ∧
      (parts.flatMap Prod.fst).Perm samples ∧
      (∀ part ∈ parts, Combines targetWindow part.1 part.2) ∧
      ((downsampled samples targetWindow).map series).Nodup ∧
      ∀ sample ∈ samples,
        ∃ m, ((downsampled samples targetWindow).filter fun m =>
            series m = series sample.metric) = [m] ∧
          ((∀ other ∈ samples, series other.metric = series sample.metric →
              bucket targetWindow other.metric.timestamp =
                bucket targetWindow sample.metric.timestamp) →
            zeroTime ≤ sample.metric.timestamp →
            bucket targetWindow m.timestamp = bucket targetWindow sample.metric.timestamp) := by
  refine ⟨combinations samples targetWindow, map_combinations, combinations_perm,
    combines_combinations, nodup_series, fun sample hsample => ?_⟩
  obtain ⟨part, hpart, hin⟩ := List.mem_flatMap.mp (combinations_perm.mem_iff.mpr hsample)
  have hcombines : Combines targetWindow part.1 part.2 := combines_combinations part hpart
  have hseries : series sample.metric = series part.2 := hcombines.series sample hin
  have hout : part.2 ∈ downsampled samples targetWindow :=
    map_combinations ▸ List.mem_map_of_mem hpart
  refine ⟨part.2, ?_, fun hbucket hzero => ?_⟩
  · rw [hseries]
    exact filter_series_eq hout
  · rcases hcombines.latest with hlatest | hlatest
    · have hle := hcombines.not_before sample hin
      rw [le_antisymm (hlatest ▸ hzero) hle]
    · obtain ⟨other, hother, htime⟩ := hlatest
      rw [← htime]
      refine hbucket other ?_ ((hcombines.series other hother).trans hseries.symm)
      exact combinations_perm.mem_iff.mp (List.mem_flatMap.mpr ⟨part, hpart, hother⟩)

/-! ## Weighted means -/

/-- The rows of a metric's series in its target window. -/
def bucketRows (targetWindow : Duration) (rows : List AggregatedMetric) (m : AggregatedMetric) :
    List AggregatedMetric :=
  rows.filter fun r =>
    series r = series m ∧ bucket targetWindow r.timestamp = bucket targetWindow m.timestamp

/-- How many values are under a row: what the count of the same time says. -/
def countOf (rows : List AggregatedMetric) (r : AggregatedMetric) : ℚ :=
  ((rows.filter fun c =>
    series c = (r.agentID, r.name, .count) ∧ c.timestamp = r.timestamp).map (·.value)).sum

/-- There is one metric for the rows of each series in each target window, at its start, with their
total and the mean of what is under them. -/
structure KeepsMeaning (targetWindow : Duration) (rows output : List AggregatedMetric) : Prop where
  once : ∀ r ∈ rows, (output.filter fun m =>
    series m = series r ∧ m.timestamp = bucket targetWindow r.timestamp).length = 1
  only : ∀ m ∈ output, bucketRows targetWindow rows m ≠ []
  total : ∀ m ∈ output, m.aggType = .sum ∨ m.aggType = .count →
    m.value = ((bucketRows targetWindow rows m).map (·.value)).sum
  mean : ∀ m ∈ output, m.aggType = .avg →
    m.value * ((bucketRows targetWindow rows m).map (countOf rows)).sum =
      ((bucketRows targetWindow rows m).map fun r => r.value * countOf rows r).sum

/-- One value of 20 in a minute and three of 40 on average in the next. -/
def unequalCounts : List Sample :=
  [⟨0, ⟨"agent-1", "cpu.usage_percent", [], minute, .count, 1, minute⟩⟩,
    ⟨1, ⟨"agent-1", "cpu.usage_percent", [], minute, .avg, 20, minute⟩⟩,
    ⟨2, ⟨"agent-1", "cpu.usage_percent", [], minute, .count, 3, 2 * minute⟩⟩,
    ⟨3, ⟨"agent-1", "cpu.usage_percent", [], minute, .avg, 40, 2 * minute⟩⟩]

/-- Averages of 20 and of 40, an hour apart. -/
def hourApart : List Sample :=
  [⟨0, ⟨"agent-1", "cpu.usage_percent", [], minute, .avg, 20, minute⟩⟩,
    ⟨1, ⟨"agent-1", "cpu.usage_percent", [], minute, .avg, 40, 61 * minute⟩⟩]

/-- The mean is not weighted, and the rows of two target windows make one metric. -/
theorem not_keepsMeaning :
    ¬ KeepsMeaning (5 * minute) (unequalCounts.map Sample.metric)
        (downsampled unequalCounts (5 * minute)) ∧
    downsampled hourApart (5 * minute) =
      [⟨"agent-1", "cpu.usage_percent", [], 5 * minute, .avg, 30, 61 * minute⟩] ∧
    ¬ KeepsMeaning (5 * minute) (hourApart.map Sample.metric)
        (downsampled hourApart (5 * minute)) := by
  refine ⟨fun h => ?_, by decide +kernel, fun h => ?_⟩
  · have hmean := h.mean ⟨"agent-1", "cpu.usage_percent", [], 5 * minute, .avg, 30, 2 * minute⟩
      (by decide +kernel) rfl
    exact absurd hmean (by decide +kernel)
  · have honce := h.once ⟨"agent-1", "cpu.usage_percent", [], minute, .avg, 20, minute⟩
      (by decide +kernel)
    exact absurd honce (by decide +kernel)

end Paryty.Processing.Downsampler

import Paryty.Lib.Grouping
import Paryty.Lib.Run
import Paryty.Storage.Aggregated

/-!
# The downsampler

`Downsampler` of `internal/processing/downsampler.go` reads the aggregated metrics of a window that
are older than a cutoff, stores coarser ones made of them, and deletes what it has read.
`warmQuestDBAdapter` of `cmd/pipeline/main.go` is the database it works on.

* The three steps are not one transaction: each can fail, the storing after some of its rows, and
  rows arrive at any time.
* A row that the database has got carries where it comes from: the window of its metric, and, for
  a row of the downsampler, the rows its value was computed from.
* The groups come out of a map, so the metrics of a run are stored in any order.
-/

namespace Paryty.Processing.Downsampler

open Storage.Aggregated (Row Query micros newRow queryRows latestFirst)

/-! ## Downsampling -/

/-- `DownsamplingRule`. -/
structure DownsamplingRule where
  sourceWindow : Duration
  targetWindow : Duration
  retentionDays : ℤ

/-- The zero time. -/
def zeroTime : Time := -62135596800 * second

/-- `time.Now().Add(-time.Duration(rule.RetentionDays) * 24 * time.Hour)`; the product of durations
has 64 bits. -/
def DownsamplingRule.cutoff (rule : DownsamplingRule) (now : Time) : Time :=
  now + (-rule.retentionDays * 24 * 60 * minute).bmod (2 ^ 64)

/-- Rows with the window in which the rule counts them. -/
def DownsamplingRule.marks (rule : DownsamplingRule) (ids : List ℕ) : List (ℕ × Duration) :=
  ids.map fun id => (id, rule.targetWindow)

/-- A metric that was read, and the row it was read from. -/
structure Sample where
  rowID : ℕ
  metric : AggregatedMetric

/-- `DownsampleGroup`. -/
structure DownsampleGroup where
  agentID : String
  metricName : String
  values : List Sample

/-- The groups of `queryForDownsampling`: one for each agent and name. -/
def groupSamples (samples : List Sample) : List DownsampleGroup :=
  (Lib.groupBy (fun sample => (sample.metric.agentID, sample.metric.name)) samples).map
    fun group => ⟨group.1.1, group.1.2, group.2⟩

/-- What becomes of the values of one type. The default of the `switch`, which averages the values of
types without a constant in `models`, is left out. -/
def downsampledValue : AggregationType → List ℚ → ℚ
  | .avg | .p50 | .p90 | .p99 => calcAvg
  | .min => calcMin
  | .max => calcMax
  | .sum | .count => calcSum

/-- The latest time of some samples. -/
def lastTimestamp (samples : List Sample) : Time :=
  samples.foldl (fun last sample =>
    if last < sample.metric.timestamp then sample.metric.timestamp else last) zeroTime

/-- A coarser metric, and the rows it is made of. -/
structure Target where
  metric : AggregatedMetric
  sources : List ℕ

/-- The metric of one aggregation type of a group. -/
def downsampleEntry (targetWindow : Duration) (group : DownsampleGroup)
    (entry : AggregationType × List Sample) : Target where
  metric :=
    { agentID := group.agentID
      name := group.metricName
      window := targetWindow
      aggType := entry.1
      value := downsampledValue entry.1 (entry.2.map fun sample => sample.metric.value)
      timestamp := lastTimestamp entry.2 }
  sources := entry.2.map Sample.rowID

/-- `computeDownsampled`. -/
def computeDownsampled (groups : List DownsampleGroup) (targetWindow : Duration) : List Target :=
  groups.flatMap fun group =>
    if group.values = [] then []
    else
      (Lib.groupBy (fun sample => sample.metric.aggType) group.values).map
        (downsampleEntry targetWindow group)

lemma sources_perm (samples : List Sample) (targetWindow : Duration) :
    ((computeDownsampled (groupSamples samples) targetWindow).flatMap Target.sources).Perm
      (samples.map Sample.rowID) := by
  have hgroup (group : DownsampleGroup) :
      ((if group.values = [] then [] else
        (Lib.groupBy (fun sample => sample.metric.aggType) group.values).map
          (downsampleEntry targetWindow group)).flatMap Target.sources).Perm
        (group.values.map Sample.rowID) := by
    split
    · rename_i hnil
      rw [hnil]
      exact .refl _
    · rw [List.flatMap_map]
      have hentries : (fun entry => (downsampleEntry targetWindow group entry).sources) =
          fun entry : AggregationType × List Sample => entry.2.map Sample.rowID := rfl
      rw [hentries, ← List.map_flatMap]
      exact (Lib.flatMap_groupBy_perm _).map _
  rw [computeDownsampled, List.flatMap_assoc]
  refine (List.Perm.flatMap_left _ fun group _ => hgroup group).trans ?_
  rw [groupSamples, List.flatMap_map, ← List.map_flatMap]
  exact (Lib.flatMap_groupBy_perm _).map _

/-! ## The database -/

/-- `QuestDBClient`, as far as it looks at rows. -/
structure QuestDBClient where
  /-- The rows that `QueryAggregated` returns for a window, a start and an end, without an agent and
  a name. -/
  query : Duration → Time → Time → List Row → List Row
  /-- The metric a row is returned as. -/
  read : Row → AggregatedMetric
  /-- The row `StoreAggregated` stores a metric of a tenant in. -/
  store : (rowID : ℕ) → (tenant : String) → AggregatedMetric → Row
  /-- Whether `DeleteAggregated` deletes a row for a window and a time. -/
  deletes : Duration → Time → Row → Bool
  query_subperm : ∀ window start stop rows, (query window start stop rows).Subperm rows
  store_rowID : ∀ rowID tenant m, (store rowID tenant m).rowID = rowID
  store_tenantID : ∀ rowID tenant m, (store rowID tenant m).tenantID = tenant

/-- The query of the adapter: `QueryAggregatedMetrics` with empty strings for the tenant, the agent
and the name. -/
def adapterQuery (window : Duration) (start stop : Time) : Query :=
  { tenant := "", agentID := "", metricName := "", window, start, stop }

/-- `warmQuestDBAdapter`. It stores the nanoseconds of a window, and deletes nothing. -/
def warmQuestDBAdapter : QuestDBClient where
  query window start stop rows := queryRows (adapterQuery window start stop) rows
  read row :=
    { agentID := row.agentID, name := row.name, window := row.window, aggType := row.aggType,
      value := row.value, timestamp := row.timestamp * 1000 }
  store rowID tenant m :=
    { rowID, timestamp := micros m.timestamp, agentID := m.agentID, tenantID := tenant,
      name := m.name, labels := none, window := m.window, aggType := m.aggType, value := m.value }
  deletes _ _ _ := false
  query_subperm _ _ _ _ :=
    (List.mergeSort_perm _ _).subperm.trans List.filter_sublist.subperm
  store_rowID _ _ _ := rfl
  store_tenantID _ _ _ := rfl

/-- A row, and where it comes from. -/
structure Datum where
  row : Row
  /-- The window of the metric that was stored. -/
  resolution : Duration
  /-- The rows it was computed from. -/
  sources : List ℕ

/-- What the downsampler is doing. -/
inductive Phase
  | idle
  /-- The metrics are still to be stored; `due` are the rows of the source window at or before the
  cutoff that the table had when it was read. -/
  | storing (rule : DownsamplingRule) (cutoff : Time) (due : List ℕ) (pending : List Target)
  | deleting (rule : DownsamplingRule) (cutoff : Time) (due : List ℕ)

/-- The database and the downsampler. -/
structure System where
  /-- All rows that were ever stored, by their place. -/
  data : List Datum := []
  /-- The rows that have been deleted, with the target window of the rule that did it. -/
  deleted : List (ℕ × Duration) := []
  /-- The rows that were due in a run of a rule that has ended without an error, with the target
  window of the rule. -/
  settled : List (ℕ × Duration) := []
  phase : Phase := .idle

namespace System

/-- The rows in the table. -/
def present (s : System) : List Datum :=
  s.data.filter fun d => d.row.rowID ∉ s.deleted.map Prod.fst

/-- The rows that are due for a rule. -/
def due (s : System) (rule : DownsamplingRule) (cutoff : Time) : List ℕ :=
  (s.present.filter fun d =>
    d.resolution = rule.sourceWindow ∧ d.row.timestamp ≤ micros cutoff).map (·.row.rowID)

/-- One more row. -/
def append (s : System) (d : Datum) : System := { s with data := s.data ++ [d] }

/-- A rule has run to its end. -/
def settle (s : System) (rule : DownsamplingRule) (due : List ℕ) : System :=
  { s with settled := s.settled ++ rule.marks due, phase := .idle }

end System

/-- What happens. -/
inductive Event
  /-- The pipeline writes a metric. -/
  | arrive (tenant : String) (m : AggregatedMetric)
  /-- A rule is run, and its query succeeds. -/
  | query (rule : DownsamplingRule) (now : Time)
  /-- A rule is run, and its query fails. -/
  | queryFails (rule : DownsamplingRule) (now : Time)
  /-- One of the metrics is stored. -/
  | store (place : ℕ)
  /-- Storing one of the metrics fails, with or without a row in the table. -/
  | storeFails (place : ℕ) (stored : Bool)
  | delete
  /-- The deletion fails, with or without the rows gone. -/
  | deleteFails (deleted : Bool)

section Steps

variable (client : QuestDBClient)

/-- The samples of the query of a rule. -/
def System.samples (s : System) (rule : DownsamplingRule) (cutoff : Time) : List Sample :=
  (client.query rule.sourceWindow zeroTime cutoff (s.present.map Datum.row)).map
    fun row => ⟨row.rowID, client.read row⟩

/-- The rows that a deletion removes. -/
def System.expired (s : System) (rule : DownsamplingRule) (cutoff : Time) : List ℕ :=
  (s.present.filter fun d => client.deletes rule.sourceWindow cutoff d.row).map (·.row.rowID)

/-- The row of a metric of the downsampler, which stores all of them for the empty tenant. -/
def System.target (s : System) (target : Target) : Datum where
  row := client.store s.data.length "" target.metric
  resolution := target.metric.window
  sources := target.sources

/-- What is left to do with some metrics to store. -/
def afterStore (rule : DownsamplingRule) (cutoff : Time) (due : List ℕ) (pending : List Target) :
    Phase :=
  if pending = [] then .deleting rule cutoff due else .storing rule cutoff due pending

/-- The query of `downsampleRule`; without groups the rule is done. -/
def System.query (s : System) (rule : DownsamplingRule) (now : Time) : System :=
  let cutoff := rule.cutoff now
  let groups := groupSamples (s.samples client rule cutoff)
  if groups = [] then s.settle rule (s.due rule cutoff)
  else
    let pending := computeDownsampled groups rule.targetWindow
    { s with phase := afterStore rule cutoff (s.due rule cutoff) pending }

/-- The system after an event. Events that have no place in a phase change nothing. -/
def System.step (s : System) : Event → System
  | .arrive tenant m => s.append ⟨newRow s.data.length tenant m, m.window, []⟩
  | .query rule now =>
    match s.phase with
    | .idle => s.query client rule now
    | _ => s
  | .queryFails _ _ => s
  | .store place =>
    match s.phase with
    | .storing rule cutoff due pending =>
      match pending[place]? with
      | none => s
      | some target =>
        { s.append (s.target client target) with
          phase := afterStore rule cutoff due (pending.eraseIdx place) }
    | _ => s
  | .storeFails place stored =>
    match s.phase with
    | .storing _ _ _ pending =>
      match pending[place]? with
      | none => s
      | some target =>
        let s := if stored then s.append (s.target client target) else s
        { s with phase := .idle }
    | _ => s
  | .delete =>
    match s.phase with
    | .deleting rule cutoff due =>
      let deleted := s.deleted ++ rule.marks (s.expired client rule cutoff)
      ({ s with deleted } : System).settle rule due
    | _ => s
  | .deleteFails deleted =>
    match s.phase with
    | .deleting rule cutoff _ =>
      let expired := if deleted then s.expired client rule cutoff else []
      { s with deleted := s.deleted ++ rule.marks expired, phase := .idle }
    | _ => s

end Steps

end Paryty.Processing.Downsampler

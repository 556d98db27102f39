import Mathlib.Data.Rat.Floor
import Paryty.Processing.TopN

/-!
# The windowed aggregator

`Aggregator.Process` of `cluster/internal/processing/aggregator.go`: the values of a batch go
into their windows and its processes into the Top-N trackers; the windows that have closed
are aggregated and purged.
-/

namespace Paryty.Processing

/-! ## Batches -/

/-- `models.CPUMetrics`, the field the aggregator reads. -/
structure CPUMetrics where
  totalUsagePct : ℚ
deriving DecidableEq

/-- `models.MemoryMetrics`, the fields the aggregator reads. -/
structure MemoryMetrics where
  usagePercent : ℚ
  usedBytes : ℕ
  availableBytes : ℕ
deriving DecidableEq

/-- `models.DiskMetrics`, the fields the aggregator reads. -/
structure DiskMetrics where
  readBytesPerSec : ℕ
  writeBytesPerSec : ℕ
deriving DecidableEq

/-- `models.NetworkMetrics`, the fields the aggregator reads. -/
structure NetworkMetrics where
  rxBytesPerSec : ℕ
  txBytesPerSec : ℕ
deriving DecidableEq

/-- `models.ProcessMetrics`, the fields the pipeline reads. -/
structure ProcessMetrics where
  agentID : String
  timestamp : Time
  pid : ℕ
  name : String
  cpuUsagePct : ℚ
  memoryBytes : ℕ
deriving DecidableEq

/-- `models.MetricBatch`: a batch of metrics from a single agent. -/
structure MetricBatch where
  agentID : String
  timestamp : Time
  cpu : List CPUMetrics := []
  memory : List MemoryMetrics := []
  disk : List DiskMetrics := []
  network : List NetworkMetrics := []
  processes : List ProcessMetrics := []
deriving DecidableEq

/-- `models.AggregationType`. -/
inductive AggregationType
  | avg | sum | min | max | p50 | p90 | p99 | count
deriving DecidableEq

/-- `models.AggregatedMetric`. The labels are set later, by the enricher. -/
structure AggregatedMetric where
  agentID : String
  name : String
  labels : List (String × String) := []
  window : Duration
  aggType : AggregationType
  value : ℚ
  timestamp : Time
deriving DecidableEq

/-! ## Statistics of `helpers.go` -/

/-- `calcSum`. -/
def calcSum (values : List ℚ) : ℚ := values.foldl (· + ·) 0

/-- `calcAvg`. -/
def calcAvg (values : List ℚ) : ℚ :=
  if values = [] then 0 else calcSum values / values.length

/-- `calcMin`. -/
def calcMin : List ℚ → ℚ
  | [] => 0
  | v :: rest => rest.foldl (fun m v => if v < m then v else m) v

/-- `calcMax`. -/
def calcMax : List ℚ → ℚ
  | [] => 0
  | v :: rest => rest.foldl (fun m v => if v > m then v else m) v

/-- `calcPercentileSorted`: linear interpolation between the two nearest ranks. -/
def calcPercentileSorted (sorted : List ℚ) (p : ℚ) : ℚ :=
  if sorted = [] then 0
  else
    let p := if p < 0 then 0 else if p > 100 then 100 else p
    if p = 0 then sorted.getD 0 0
    else if p = 100 then sorted.getD (sorted.length - 1) 0
    else
      let rank := p / 100 * ((sorted.length : ℚ) - 1)
      let lower := ⌊rank⌋.toNat
      let upper := ⌈rank⌉.toNat
      if lower = upper then sorted.getD lower 0
      else
        let fraction := rank - lower
        sorted.getD lower 0 + fraction * (sorted.getD upper 0 - sorted.getD lower 0)

/-- `aggregateWindow`: one metric for each aggregation type, all computed from the buffered
values; nothing for a window without values. -/
def aggregateWindow (window : ClosedWindow) : List AggregatedMetric :=
  if window.values = [] then []
  else
    let values := window.values.insertionSort (· ≤ ·)
    let entries : List (AggregationType × ℚ) :=
      [(.avg, calcAvg values), (.min, calcMin values), (.max, calcMax values),
        (.p50, calcPercentileSorted values 50), (.p90, calcPercentileSorted values 90),
        (.p99, calcPercentileSorted values 99), (.count, values.length), (.sum, calcSum values)]
    entries.map fun (aggType, value) =>
      { agentID := window.key.agentID
        name := window.key.metricName
        window := window.key.windowSize
        aggType
        value
        timestamp := window.lastSeen }

/-! ## The aggregator -/

/-- `extractMetricValues`: the named values of a batch. Of several entries in a category the
last one's values are kept. -/
def extractMetricValues (batch : MetricBatch) : List (String × ℚ) :=
  (match batch.cpu.getLast? with
    | none => []
    | some cpu => [("cpu.usage_percent", cpu.totalUsagePct)]) ++
  (match batch.memory.getLast? with
    | none => []
    | some mem => [("memory.usage_percent", mem.usagePercent),
        ("memory.used_bytes", mem.usedBytes), ("memory.available_bytes", mem.availableBytes)]) ++
  (match batch.disk.getLast? with
    | none => []
    | some disk => [("disk.read_bytes_per_sec", disk.readBytesPerSec),
        ("disk.write_bytes_per_sec", disk.writeBytesPerSec)]) ++
  (match batch.network.getLast? with
    | none => []
    | some net => [("network.rx_bytes_per_sec", net.rxBytesPerSec),
        ("network.tx_bytes_per_sec", net.txBytesPerSec)]) ++
  (match batch.processes.getLast? with
    | none => []
    | some proc => [("process.cpu_percent", proc.cpuUsagePct),
        ("process.memory_bytes", proc.memoryBytes)])

/-- `AggregatorConfig`, less the snapshot settings. -/
structure AggregatorConfig where
  windowSizes : List Duration := []
  gracePeriod : Duration := 0
  topNSize : ℕ := 0
deriving DecidableEq

/-- `AggregatorConfig.applyDefaults`: 1m, 5m, 1h and 1d windows, 30 seconds of grace, ten
entries for each category. -/
def AggregatorConfig.applyDefaults (c : AggregatorConfig) : AggregatorConfig where
  windowSizes := if c.windowSizes = [] then defaultWindowSizes else c.windowSizes
  gracePeriod := if c.gracePeriod = 0 then 30 * second else c.gracePeriod
  topNSize := if c.topNSize = 0 then 10 else c.topNSize

/-- `Aggregator`. -/
structure Aggregator where
  windows : WindowStateManager
  topn : TopNTracker

/-- `NewAggregator`. -/
def NewAggregator (config : AggregatorConfig) : Aggregator :=
  let config := config.applyDefaults
  { windows := NewWindowStateManager ⟨config.gracePeriod, config.windowSizes⟩
    topn := NewTopNTracker config.topNSize ["cpu.process", "memory.process"] }

/-- What `Process` returns. -/
structure ProcessResult where
  aggregated : List AggregatedMetric
  topnChanges : List TopNResult
deriving DecidableEq

namespace Aggregator

/-- Step 2 of `Process`: the values go into their windows until the context is cancelled. -/
def addValues (agentID : String) (timestamp : Time) :
    List (String × ℚ) → Ctx → WindowStateManager → Except String Ctx × WindowStateManager
  | [], ctx, wm => (.ok ctx, wm)
  | (name, value) :: rest, ctx, wm =>
    match wm.addValue ctx agentID name value timestamp with
    | none => (.error s!"add value to window (agent={agentID}, metric={name}): context canceled",
        wm)
    | some (ctx, wm) => addValues agentID timestamp rest ctx wm

/-- Step 3 of `Process`: each process in its two categories. -/
def updateTopN (topn : TopNTracker) (processes : List ProcessMetrics) : TopNTracker :=
  processes.foldl (fun topn proc =>
    (topn.update "cpu.process" proc.name proc.agentID proc.cpuUsagePct proc.timestamp).update
      "memory.process" proc.name proc.agentID proc.memoryBytes proc.timestamp) topn

/-- Steps 1 to 4 of `Process`: the closed windows it collects, with the aggregator before the
purge. -/
def collect (a : Aggregator) (ctx : Ctx) (batch : MetricBatch) (timestamp now : Time) :
    Except String (List ClosedWindow × Ctx) × Aggregator :=
  match addValues batch.agentID timestamp (extractMetricValues batch) ctx a.windows with
  | (.error err, windows) => (.error err, { a with windows })
  | (.ok ctx, windows) =>
    let topn := updateTopN a.topn batch.processes
    let (closedWindows, ctx, windows) := windows.getClosedWindows ctx now
    (.ok (closedWindows, ctx), { windows, topn })

/-- `Aggregator.Process` at wall-clock time `now`. -/
def process (a : Aggregator) (ctx : Ctx) (batch : MetricBatch) (timestamp now : Time) :
    Except String (ProcessResult × Ctx) × Aggregator :=
  match a.collect ctx batch timestamp now with
  | (.error err, a) => (.error err, a)
  | (.ok (closedWindows, ctx), a) =>
    let (topnChanges, topn) := a.topn.getChanged
    (.ok (⟨closedWindows.flatMap aggregateWindow, topnChanges⟩, ctx),
      { windows := a.windows.purgeClosed, topn })

end Aggregator

end Paryty.Processing

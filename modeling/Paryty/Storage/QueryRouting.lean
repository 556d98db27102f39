import Paryty.Processing.Emissions
import Paryty.Storage.Aggregated
import Paryty.Storage.MetricRows

/-!
# Raw and downsampled answers

`QueryWithDownsampling` of `internal/storage/warm/query_optimizer.go` answers short ranges from the
raw tables and longer ones from `aggregated_metrics`, which the pipeline fills with what
`Aggregator.Process` returns. The names of the metrics are mapped twice: to a table and a column by
the optimizer, and from the fields of a batch by `extractMetricValues`.

* A quantity is a column of a raw table. `extractMetricValues_quantity` says which one the
  aggregator has under a name.
* `raw_agrees_iff`: in every run, the downsampled answer agrees with the raw data if and only if
  there is neither a raw row nor an average to be found, or the name is `memory.usage_percent`, the
  only one that both sides have, and an average has been stored.
* The database answers: its errors end a query, and are left out.
-/

namespace Paryty.Storage.QueryRouting

open Lib Paryty.Processing
open Aggregated (micros latestFirst defaultQueryLimit selectsSeconds optimizerRows)
open MetricRows (Value)

/-! ## Names -/

/-- `metricTableMap`. -/
def metricTableMap : List (String × MetricTable) :=
  [("cpu.usage", .cpuMetrics),
   ("cpu.total_usage", .cpuMetrics),
   ("cpu.load_avg_1", .cpuMetrics),
   ("cpu.load_avg_5", .cpuMetrics),
   ("cpu.load_avg_15", .cpuMetrics),
   ("cpu.frequency", .cpuMetrics),
   ("cpu.context_switches", .cpuMetrics),
   ("cpu.cores_physical", .cpuMetrics),
   ("cpu.cores_logical", .cpuMetrics),
   ("memory.used", .memoryMetrics),
   ("memory.total", .memoryMetrics),
   ("memory.available", .memoryMetrics),
   ("memory.free", .memoryMetrics),
   ("memory.cached", .memoryMetrics),
   ("memory.swap_used", .memoryMetrics),
   ("memory.swap_total", .memoryMetrics),
   ("memory.usage_percent", .memoryMetrics),
   ("disk.used", .diskMetrics),
   ("disk.total", .diskMetrics),
   ("disk.free", .diskMetrics),
   ("disk.read_bytes", .diskMetrics),
   ("disk.write_bytes", .diskMetrics),
   ("disk.iops_read", .diskMetrics),
   ("disk.iops_write", .diskMetrics),
   ("disk.io_latency", .diskMetrics),
   ("disk.utilization", .diskMetrics),
   ("network.rx_bytes", .networkMetrics),
   ("network.tx_bytes", .networkMetrics),
   ("network.rx_packets", .networkMetrics),
   ("network.tx_packets", .networkMetrics),
   ("network.rx_dropped", .networkMetrics),
   ("network.tx_dropped", .networkMetrics),
   ("network.errors", .networkMetrics),
   ("network.estimated_rtt", .networkMetrics),
   ("network.tcp_established", .networkMetrics),
   ("network.tcp_time_wait", .networkMetrics),
   ("network.tcp_retransmits", .networkMetrics),
   ("process.cpu_usage", .processMetrics),
   ("process.memory", .processMetrics),
   ("process.threads", .processMetrics),
   ("process.fd_count", .processMetrics),
   ("process.disk_read", .processMetrics),
   ("process.disk_written", .processMetrics)]

/-- `metricColumnMap`. -/
def metricColumnMap : List (String × String) :=
  [("cpu.usage", "total_usage_pct"),
   ("cpu.total_usage", "total_usage_pct"),
   ("cpu.load_avg_1", "load_avg_1"),
   ("cpu.load_avg_5", "load_avg_5"),
   ("cpu.load_avg_15", "load_avg_15"),
   ("cpu.frequency", "frequency_mhz"),
   ("cpu.context_switches", "context_switches"),
   ("cpu.cores_physical", "physical_cores"),
   ("cpu.cores_logical", "logical_cores"),
   ("memory.used", "used_bytes"),
   ("memory.total", "total_bytes"),
   ("memory.available", "available_bytes"),
   ("memory.free", "free_bytes"),
   ("memory.cached", "cached_bytes"),
   ("memory.swap_used", "swap_used_bytes"),
   ("memory.swap_total", "swap_total_bytes"),
   ("memory.usage_percent", "usage_percent"),
   ("disk.used", "used_bytes"),
   ("disk.total", "total_bytes"),
   ("disk.free", "free_bytes"),
   ("disk.read_bytes", "read_bytes_per_sec"),
   ("disk.write_bytes", "write_bytes_per_sec"),
   ("disk.iops_read", "iops_read"),
   ("disk.iops_write", "iops_write"),
   ("disk.io_latency", "io_latency_ms"),
   ("disk.utilization", "utilization_pct"),
   ("network.rx_bytes", "rx_bytes_per_sec"),
   ("network.tx_bytes", "tx_bytes_per_sec"),
   ("network.rx_packets", "rx_packets"),
   ("network.tx_packets", "tx_packets"),
   ("network.rx_dropped", "rx_dropped"),
   ("network.tx_dropped", "tx_dropped"),
   ("network.errors", "errors"),
   ("network.estimated_rtt", "estimated_rtt_ms"),
   ("network.tcp_established", "tcp_established"),
   ("network.tcp_time_wait", "tcp_time_wait"),
   ("network.tcp_retransmits", "tcp_retransmit_count"),
   ("process.cpu_usage", "cpu_usage_pct"),
   ("process.memory", "memory_bytes"),
   ("process.threads", "threads"),
   ("process.fd_count", "fd_count"),
   ("process.disk_read", "disk_read_bytes"),
   ("process.disk_written", "disk_written_bytes")]

/-- `MetricToTable`. There is none for `aggregated_metrics`. -/
def metricToTable (metricName : String) : Option MetricTable := metricTableMap.lookup metricName

/-- `MetricToColumn`. -/
def metricToColumn (metricName : String) : String := (metricColumnMap.lookup metricName).getD ""

/-- A column of a raw table. -/
abbrev Quantity := MetricTable × String

/-- The quantity that the optimizer has under a name. -/
def rawQuantity (metricName : String) : Option Quantity :=
  (metricToTable metricName).map fun table => (table, metricToColumn metricName)

/-- The quantities that the aggregator has under its names. -/
def aggregatedQuantities : List (String × Quantity) :=
  [("cpu.usage_percent", .cpuMetrics, "total_usage_pct"),
   ("memory.usage_percent", .memoryMetrics, "usage_percent"),
   ("memory.used_bytes", .memoryMetrics, "used_bytes"),
   ("memory.available_bytes", .memoryMetrics, "available_bytes"),
   ("disk.read_bytes_per_sec", .diskMetrics, "read_bytes_per_sec"),
   ("disk.write_bytes_per_sec", .diskMetrics, "write_bytes_per_sec"),
   ("network.rx_bytes_per_sec", .networkMetrics, "rx_bytes_per_sec"),
   ("network.tx_bytes_per_sec", .networkMetrics, "tx_bytes_per_sec"),
   ("process.cpu_percent", .processMetrics, "cpu_usage_pct"),
   ("process.memory_bytes", .processMetrics, "memory_bytes")]

/-- The quantity that the aggregator has under a name. -/
def aggregatedQuantity (metricName : String) : Option Quantity :=
  aggregatedQuantities.lookup metricName

/-! ## Values -/

/-- The number in a column. -/
def number : Value ℚ → Option ℚ
  | .double x => some x
  | .integer n => some n
  | _ => none

/-- What the aggregator sees of a batch. -/
def view (agentID : String) (timestamp : Time) (batch : MetricRows.MetricBatch ℚ) :
    Processing.MetricBatch where
  agentID
  timestamp
  cpu := batch.cpu.map fun m => { totalUsagePct := m.totalUsagePct }
  memory := batch.memory.map fun m =>
    { usagePercent := m.usagePercent, usedBytes := m.usedBytes.toNat,
      availableBytes := m.availableBytes.toNat }
  disk := batch.disk.map fun m =>
    { readBytesPerSec := m.readBytesPerSec.toNat, writeBytesPerSec := m.writeBytesPerSec.toNat }
  network := batch.network.map fun m =>
    { rxBytesPerSec := m.rxBytesPerSec.toNat, txBytesPerSec := m.txBytesPerSec.toNat }
  processes := batch.processes.map fun m =>
    { agentID := m.agentID, timestamp := m.timestamp, pid := m.pid.toNat, name := m.name,
      cpuUsagePct := m.cpuUsagePct, memoryBytes := m.memoryBytes.toNat }

/-- A batch has a value of a quantity: a row it is stored in has it in the column. -/
def HasValue (batch : MetricRows.MetricBatch ℚ) (quantity : Quantity) (v : ℚ) : Prop :=
  ∃ m ∈ batch.metrics, ∀ tenant, (m.statement tenant).table = quantity.1 ∧
    ((m.statement tenant).columns.lookup quantity.2).bind number = some v

lemma mem_of_getLast?_map {α β : Type*} {f : α → β} {l : List α} {b : β}
    (h : (l.map f).getLast? = some b) : ∃ a ∈ l, f a = b :=
  List.mem_map.mp (List.mem_of_getLast? h)

/-- The values of the aggregator are those of their quantities. -/
theorem extractMetricValues_quantity {agentID : String} {timestamp : Time}
    {batch : MetricRows.MetricBatch ℚ} {metricName : String} {v : ℚ}
    (h : (metricName, v) ∈ extractMetricValues (view agentID timestamp batch)) :
    ∃ quantity, aggregatedQuantity metricName = some quantity ∧ HasValue batch quantity v := by
  simp only [extractMetricValues, List.mem_append] at h
  -- One case for each kind of reading, of which the latest in the batch counts.
  rcases h with (((h | h) | h) | h) | h
  · split at h
    case h_1 => cases h
    case h_2 last hlast =>
      obtain ⟨m, hm, rfl⟩ := mem_of_getLast?_map hlast
      have hmem : .cpu m ∈ batch.metrics := by simp [MetricRows.MetricBatch.metrics, hm]
      simp only [List.mem_singleton, Prod.mk.injEq] at h
      obtain ⟨rfl, rfl⟩ := h
      exact ⟨_, rfl, .cpu m, hmem, fun tenant => ⟨rfl, rfl⟩⟩
  · split at h
    case h_1 => cases h
    case h_2 last hlast =>
      obtain ⟨m, hm, rfl⟩ := mem_of_getLast?_map hlast
      have hmem : .memory m ∈ batch.metrics := by simp [MetricRows.MetricBatch.metrics, hm]
      simp only [List.mem_cons, Prod.mk.injEq, List.not_mem_nil, or_false] at h
      rcases h with ⟨rfl, rfl⟩ | ⟨rfl, rfl⟩ | ⟨rfl, rfl⟩ <;>
        exact ⟨_, rfl, .memory m, hmem, fun tenant => ⟨rfl, rfl⟩⟩
  · split at h
    case h_1 => cases h
    case h_2 last hlast =>
      obtain ⟨m, hm, rfl⟩ := mem_of_getLast?_map hlast
      have hmem : .disk m ∈ batch.metrics := by simp [MetricRows.MetricBatch.metrics, hm]
      simp only [List.mem_cons, Prod.mk.injEq, List.not_mem_nil, or_false] at h
      rcases h with ⟨rfl, rfl⟩ | ⟨rfl, rfl⟩ <;>
        exact ⟨_, rfl, .disk m, hmem, fun tenant => ⟨rfl, rfl⟩⟩
  · split at h
    case h_1 => cases h
    case h_2 last hlast =>
      obtain ⟨m, hm, rfl⟩ := mem_of_getLast?_map hlast
      have hmem : .network m ∈ batch.metrics := by simp [MetricRows.MetricBatch.metrics, hm]
      simp only [List.mem_cons, Prod.mk.injEq, List.not_mem_nil, or_false] at h
      rcases h with ⟨rfl, rfl⟩ | ⟨rfl, rfl⟩ <;>
        exact ⟨_, rfl, .network m, hmem, fun tenant => ⟨rfl, rfl⟩⟩
  · split at h
    case h_1 => cases h
    case h_2 last hlast =>
      obtain ⟨m, hm, rfl⟩ := mem_of_getLast?_map hlast
      have hmem : .process m ∈ batch.metrics := by simp [MetricRows.MetricBatch.metrics, hm]
      simp only [List.mem_cons, Prod.mk.injEq, List.not_mem_nil, or_false] at h
      rcases h with ⟨rfl, rfl⟩ | ⟨rfl, rfl⟩ <;>
        exact ⟨_, rfl, .process m, hmem, fun tenant => ⟨rfl, rfl⟩⟩

lemma mem_of_lookup {α β : Type*} [BEq α] [LawfulBEq α] {a : α} {b : β} {l : List (α × β)}
    (h : l.lookup a = some b) : (a, b) ∈ l := by
  obtain ⟨before, after, rfl, _⟩ := List.lookup_eq_some_iff.mp h
  exact List.mem_append_right before List.mem_cons_self

/-! ## Answers -/

/-- `DownsampleResolution`. -/
structure DownsampleResolution where
  table : String
  windowSeconds : ℤ
  isRaw : Bool
deriving DecidableEq

/-- `SelectDownsampleResolution`. -/
def selectDownsampleResolution (start stop : Time) : DownsampleResolution :=
  let rangeDur := stop - start
  if rangeDur ≤ 60 * minute then ⟨"", 0, true⟩
  else if rangeDur ≤ 24 * 60 * minute then ⟨"aggregated_metrics", 300, false⟩
  else ⟨"aggregated_metrics", 3600, false⟩

/-- The parameters of a query. -/
structure Query where
  tenant : String
  agentID : String
  metricName : String
  start : Time
  stop : Time

/-- `models.Metric`. -/
structure Metric where
  agentID : String
  name : String
  labels : List (String × String)
  type : String
  value : ℚ
  timestamp : Time
deriving DecidableEq

/-- The name of a raw table. -/
def tableName : MetricTable → String
  | .cpuMetrics => "cpu_metrics"
  | .memoryMetrics => "memory_metrics"
  | .diskMetrics => "disk_metrics"
  | .networkMetrics => "network_metrics"
  | .processMetrics => "process_metrics"
  | .containerMetrics => "container_metrics"

/-- `metricTypeFromTable`. -/
def metricTypeFromTable : MetricTable → String
  | .cpuMetrics => "cpu"
  | .memoryMetrics => "memory"
  | .diskMetrics => "disk"
  | .networkMetrics => "network"
  | .processMetrics => "process"
  | .containerMetrics => "custom"

/-- The text in a column. -/
def text : Option (Value ℚ) → Option String
  | some (.string s) => some s
  | _ => none

/-- The time of a row is in the range of the query. -/
def Query.Covers (q : Query) (timestamp : ℤ) : Prop :=
  micros q.start ≤ timestamp ∧ timestamp ≤ micros q.stop

instance (q : Query) (timestamp : ℤ) : Decidable (q.Covers timestamp) :=
  inferInstanceAs (Decidable (_ ∧ _))

/-- The `WHERE` clause of `queryRawTable`. -/
def Query.selectsRaw (q : Query) (table : MetricTable) (row : MetricRows.Row ℚ) : Bool :=
  row.table = table ∧ text (row.columns.lookup "tenant_id") = some q.tenant ∧
    text (row.columns.lookup "agent_id") = some q.agentID ∧ ∃ t ∈ row.timestamp, q.Covers t

/-- `ORDER BY timestamp DESC`, for raw rows. -/
def latestRawFirst (rows : List (MetricRows.Row ℚ)) : List (MetricRows.Row ℚ) :=
  rows.mergeSort fun a b => b.timestamp.getD 0 ≤ a.timestamp.getD 0

/-- The tables of the warm tier that the optimizer reads, and the aggregator that fills one of
them. -/
structure Warm where
  aggregator : Aggregator
  /-- What `Process` has returned. -/
  returned : List AggregatedMetric := []
  raw : List (MetricRows.Row ℚ) := []
  aggregated : List Aggregated.Row := []

namespace Warm

variable (warm : Warm) (q : Query)

/-- `queryAggregatedMetrics`. -/
def queryAggregatedMetrics (windowSeconds : ℤ) : List Metric :=
  (optimizerRows q.tenant q.agentID q.metricName windowSeconds q.start q.stop
    warm.aggregated).map fun row =>
      { agentID := row.agentID
        name := q.metricName
        labels := [("source", "aggregated_metrics"), ("window", s!"{windowSeconds}s")]
        type := "custom"
        value := row.value
        timestamp := row.timestamp * 1000 }

/-- `queryRawTable`. -/
def queryRawTable (table : MetricTable) : List Metric :=
  let column := metricToColumn q.metricName
  if column = "" then warm.queryAggregatedMetrics q 300
  else
    let rows := latestRawFirst (warm.raw.filter (q.selectsRaw table))
    (rows.take defaultQueryLimit).map fun row =>
      { agentID := (text (row.columns.lookup "agent_id")).getD ""
        name := q.metricName
        labels := [("source", tableName table)]
        type := metricTypeFromTable table
        value := ((row.columns.lookup column).bind number).getD 0
        timestamp := row.timestamp.getD 0 * 1000 }

/-- `QueryWithDownsampling`. -/
def queryWithDownsampling : List Metric :=
  let res := selectDownsampleResolution q.start q.stop
  if res.isRaw then
    match metricToTable q.metricName with
    | none => warm.queryAggregatedMetrics q 300
    | some table => warm.queryRawTable q table
  else warm.queryAggregatedMetrics q res.windowSeconds

/-! ## Runs -/

/-- What happens to the tables and the aggregator. -/
inductive Step
  /-- `Process` of a batch. -/
  | process (ctx : Ctx) (agentID : String) (timestamp now : Time)
      (batch : MetricRows.MetricBatch ℚ)
  /-- The background goroutine checks for closed windows. -/
  | tick (ctx : Ctx) (now : Time)
  /-- The background goroutine purges stale windows. -/
  | purgeStale (maxAge : Duration) (now : Time)
  /-- Rows of a batch are stored, by either writer. -/
  | storeBatch (rows : List (MetricRows.Row ℚ))
  /-- A metric that `Process` has returned is stored with its labels. -/
  | storeAggregatedMetric (tenant : String) (m : AggregatedMetric)
      (labels : List (String × String))

/-- One step. -/
def next (warm : Warm) : Step → Option Warm
  | .process ctx agentID timestamp now batch =>
    match warm.aggregator.process ctx (view agentID timestamp batch) timestamp now with
    | (.error _, aggregator) => some { warm with aggregator }
    | (.ok (result, _), aggregator) =>
      some { warm with aggregator, returned := warm.returned ++ result.aggregated }
  | .tick ctx now =>
    let windows := warm.aggregator.windows.checkClosedWindows ctx now
    some { warm with aggregator := { warm.aggregator with windows } }
  | .purgeStale maxAge now =>
    let windows := warm.aggregator.windows.purgeStale maxAge now
    some { warm with aggregator := { warm.aggregator with windows } }
  | .storeBatch rows => some { warm with raw := warm.raw ++ rows }
  | .storeAggregatedMetric tenant m labels =>
    if m ∈ warm.returned then
      some { warm with
        aggregated := Aggregated.writeAggregatedMetric tenant { m with labels } warm.aggregated }
    else none

/-- Before the first batch. -/
def init (config : AggregatorConfig) : Warm := { aggregator := NewAggregator config }

end Warm

/-- The aggregator has a quantity under the name. -/
def IsAggregated (metricName : String) : Prop := (aggregatedQuantity metricName).isSome

lemma isAggregated_of_extractMetricValues {agentID : String} {timestamp : Time}
    {batch : MetricRows.MetricBatch ℚ} {value : String × ℚ}
    (h : value ∈ extractMetricValues (view agentID timestamp batch)) : IsAggregated value.1 := by
  obtain ⟨quantity, hquantity, _⟩ := extractMetricValues_quantity h
  rw [IsAggregated, hquantity]
  rfl

/-- The metrics of the windows are aggregated ones. -/
def Named (windows : Windows) : Prop := ∀ buf ∈ windows, IsAggregated buf.key.metricName

lemma named_add {windows : Windows} (h : Named windows) {route : Route}
    (hroute : IsAggregated route.key.metricName) : Named (windows.add route) := by
  intro buf hbuf
  have hfind : (windows.add route).find? buf.key = some buf :=
    Table.find?_eq_some.mpr ⟨hbuf, rfl⟩
  rw [Windows.find?_add] at hfind
  split at hfind
  case isTrue hkey =>
    rw [hkey]
    exact hroute
  case isFalse => exact h buf (Table.find?_eq_some.mp hfind).1

lemma named_foldl_add {windows : Windows} (h : Named windows) {routes : List Route}
    (hroutes : ∀ route ∈ routes, IsAggregated route.key.metricName) :
    Named (routes.foldl Windows.add windows) := by
  induction routes generalizing windows with
  | nil => exact h
  | cons route routes ih =>
    exact ih (named_add h (hroutes route List.mem_cons_self))
      fun other hother => hroutes other (List.mem_cons_of_mem _ hother)

lemma named_getClosedWindows {wm : WindowStateManager} (h : Named wm.windows) (ctx : Ctx)
    (now : Time) : Named (wm.getClosedWindows ctx now).2.2.windows := by
  intro buf hbuf
  obtain ⟨old, hold, hkey, _⟩ := History.closed_of_close (Table.find?_eq_some.mpr ⟨hbuf, rfl⟩)
  rw [← hkey]
  exact h old (Table.find?_eq_some.mp hold).1

lemma named_deleteWhere {windows : Windows} (h : Named windows) (p : WindowBuffer → Bool) :
    Named (windows.deleteWhere p) := by
  intro buf hbuf
  exact h buf (Table.mem_deleteWhere.mp hbuf).1

lemma named_addValues {wm : WindowStateManager} (h : Named wm.windows)
    {values : List (String × ℚ)} (hvalues : ∀ value ∈ values, IsAggregated value.1)
    (agentID : String) (timestamp : Time) (ctx : Ctx) :
    Named (Aggregator.addValues agentID timestamp values ctx wm).2.windows := by
  rw [Aggregator.addValues_snd]
  refine named_foldl_add h fun route hroute => ?_
  obtain ⟨value, hvalue, hroute⟩ := List.mem_flatMap.mp hroute
  obtain ⟨ws, _, rfl⟩ := List.mem_map.mp hroute
  exact hvalues value ((ctx.visits_sublist values).subset hvalue)

lemma isAggregated_of_mem_aggregateWindow {window : ClosedWindow} {m : AggregatedMetric}
    (hwindow : IsAggregated window.key.metricName) (hm : m ∈ aggregateWindow window) :
    IsAggregated m.name := by
  unfold aggregateWindow at hm
  split at hm
  case isTrue => cases hm
  case isFalse =>
    obtain ⟨entry, _, rfl⟩ := List.mem_map.mp hm
    exact hwindow

/-- `Process` keeps the windows named, and returns metrics with such names. -/
lemma named_process {a : Aggregator} (h : Named a.windows.windows) (ctx : Ctx) (agentID : String)
    (timestamp now : Time) (batch : MetricRows.MetricBatch ℚ) :
    Named (a.process ctx (view agentID timestamp batch) timestamp now).2.windows.windows ∧
      ∀ result ctx',
        (a.process ctx (view agentID timestamp batch) timestamp now).1 = .ok (result, ctx') →
        ∀ m ∈ result.aggregated, IsAggregated m.name := by
  have hvalues : ∀ value ∈ extractMetricValues (view agentID timestamp batch),
      IsAggregated value.1 := fun _ => isAggregated_of_extractMetricValues
  have hadd := named_addValues h hvalues (view agentID timestamp batch).agentID timestamp ctx
  unfold Aggregator.process Aggregator.collect
  generalize Aggregator.addValues (view agentID timestamp batch).agentID timestamp
    (extractMetricValues (view agentID timestamp batch)) ctx a.windows = added at hadd ⊢
  obtain ⟨outcome, windows⟩ := added
  cases outcome with
  | error err =>
    refine ⟨hadd, fun result ctx' hok => ?_⟩
    cases hok
  | ok ctx =>
    refine ⟨named_deleteWhere (named_getClosedWindows hadd ctx now) _, ?_⟩
    intro result ctx' hok m hm
    obtain ⟨rfl, rfl⟩ := Prod.mk.inj (Except.ok.inj hok)
    obtain ⟨window, hwindow, hm⟩ := List.mem_flatMap.mp hm
    obtain ⟨buf, hbuf, rfl⟩ := List.mem_map.mp hwindow
    have hbuf := (Table.find?_eq_some.mp (History.mem_closing hbuf).1).1
    exact isAggregated_of_mem_aggregateWindow (hadd buf hbuf) hm

/-- What the optimizer reads has the names of the aggregator. -/
structure Warm.Consistent (warm : Warm) : Prop where
  windows : Named warm.aggregator.windows.windows
  returned : ∀ m ∈ warm.returned, IsAggregated m.name
  aggregated : ∀ row ∈ warm.aggregated, IsAggregated row.name

lemma Warm.consistent_init (config : AggregatorConfig) : (init config).Consistent where
  windows := fun _ hbuf => absurd hbuf Table.not_mem_empty
  returned := fun _ hm => absurd hm List.not_mem_nil
  aggregated := fun _ hrow => absurd hrow List.not_mem_nil

lemma Warm.Consistent.next {warm warm' : Warm} (h : warm.Consistent) {step : Step}
    (hstep : warm.next step = some warm') : warm'.Consistent := by
  cases step with
  | process ctx agentID timestamp now batch =>
    obtain ⟨hwindows, hreturned⟩ := named_process h.windows ctx agentID timestamp now batch
    simp only [Warm.next] at hstep
    -- What was returned may be stored in any later step.
    generalize warm.aggregator.process ctx (view agentID timestamp batch) timestamp now = processed
      at hwindows hreturned hstep
    obtain ⟨outcome, aggregator⟩ := processed
    cases outcome with
    | error err =>
      obtain rfl := Option.some.inj hstep
      exact { h with windows := hwindows }
    | ok result =>
      obtain rfl := Option.some.inj hstep
      refine { h with windows := hwindows, returned := fun m hm => ?_ }
      rcases List.mem_append.mp hm with hm | hm
      · exact h.returned m hm
      · exact hreturned result.1 result.2 rfl m hm
  | tick ctx now =>
    obtain rfl := Option.some.inj hstep
    exact { h with windows := named_getClosedWindows h.windows ctx now }
  | purgeStale maxAge now =>
    obtain rfl := Option.some.inj hstep
    exact { h with windows := named_deleteWhere h.windows _ }
  | storeBatch rows =>
    obtain rfl := Option.some.inj hstep
    exact { h with }
  | storeAggregatedMetric tenant m labels =>
    simp only [Warm.next] at hstep
    split at hstep
    case isFalse => cases hstep
    case isTrue hm =>
      obtain rfl := Option.some.inj hstep
      refine { h with aggregated := fun row hrow => ?_ }
      rcases List.mem_append.mp hrow with hrow | hrow
      · exact h.aggregated row hrow
      · obtain rfl := List.mem_singleton.mp hrow
        exact h.returned m hm

/-! ## Agreement -/

/-- The row is an average that the aggregator wrote for the agent and the quantity of the query, at
the resolution of the answer. -/
def Query.Asks (q : Query) (row : Aggregated.Row) : Prop :=
  row.tenantID = q.tenant ∧ row.agentID = q.agentID ∧
    aggregatedQuantity row.name = rawQuantity q.metricName ∧
    row.window = (selectDownsampleResolution q.start q.stop).windowSeconds ∧
    row.aggType = .avg ∧ q.Covers row.timestamp

instance (q : Query) : DecidablePred q.Asks := fun _ => inferInstanceAs (Decidable (_ ∧ _))

namespace Warm

variable (warm : Warm) (q : Query)

/-- There are raw rows for the query. -/
def HasRaw : Prop := ∃ row ∈ warm.raw, ∃ table ∈ metricToTable q.metricName, q.selectsRaw table row

/-- There are averages for the query. -/
def HasAverage : Prop := ∃ row ∈ warm.aggregated, q.Asks row

/-- The rows that a long query reads. -/
def readRows : List Aggregated.Row :=
  optimizerRows q.tenant q.agentID q.metricName
    (selectDownsampleResolution q.start q.stop).windowSeconds q.start q.stop warm.aggregated

/-- The downsampled answer agrees with the raw data: the rows read are those of the agent and the
quantity, and the answer is not empty where there are raw rows. -/
structure Agrees : Prop where
  same : warm.readRows q =
    (latestFirst (warm.aggregated.filter fun row => q.Asks row)).take defaultQueryLimit
  answered : warm.HasRaw q → warm.queryWithDownsampling q ≠ []

variable {warm q}

lemma eq_usagePercent {metricName : String} {table : MetricTable}
    (haggregated : IsAggregated metricName) (htable : metricToTable metricName = some table) :
    metricName = "memory.usage_percent" := by
  have hnames : ∀ entry ∈ aggregatedQuantities, (metricToTable entry.1).isSome →
      entry.1 = "memory.usage_percent" := by
    decide +kernel
  obtain ⟨quantity, hquantity⟩ := Option.isSome_iff_exists.mp haggregated
  exact hnames _ (mem_of_lookup hquantity) (by rw [htable]; rfl)

lemma eq_usagePercent_of_quantity {metricName : String}
    (h : aggregatedQuantity metricName = some (.memoryMetrics, "usage_percent")) :
    metricName = "memory.usage_percent" := by
  have hnames : ∀ entry ∈ aggregatedQuantities,
      entry.2 = (.memoryMetrics, "usage_percent") → entry.1 = "memory.usage_percent" := by
    decide +kernel
  exact hnames _ (mem_of_lookup h) rfl

lemma take_latestFirst_eq_nil {rows : List Aggregated.Row} :
    (latestFirst rows).take defaultQueryLimit = [] ↔ rows = [] := by
  rw [List.take_eq_nil_iff, latestFirst, ← List.length_eq_zero_iff, ← List.length_eq_zero_iff,
    List.length_mergeSort, or_iff_right (by decide)]

lemma readRows_usagePercent (warm : Warm) (hname : q.metricName = "memory.usage_percent") :
    warm.readRows q =
      (latestFirst (warm.aggregated.filter fun row => q.Asks row)).take defaultQueryLimit := by
  have hselects : ∀ row ∈ warm.aggregated,
      selectsSeconds q.tenant q.agentID q.metricName
        (selectDownsampleResolution q.start q.stop).windowSeconds q.start q.stop row =
          decide (q.Asks row) := by
    intro row _
    have hquantity : row.name = q.metricName ↔
        aggregatedQuantity row.name = rawQuantity q.metricName := by
      rw [hname]
      constructor
      · intro h
        rw [h]
        rfl
      · exact eq_usagePercent_of_quantity
    rw [selectsSeconds, decide_eq_decide, hquantity]
    rfl
  rw [readRows, optimizerRows, List.filter_congr hselects]

lemma readRows_eq_nil (hconsistent : warm.Consistent) (hname : ¬ IsAggregated q.metricName) :
    warm.readRows q = [] := by
  have hnone : warm.aggregated.filter (selectsSeconds q.tenant q.agentID q.metricName
      (selectDownsampleResolution q.start q.stop).windowSeconds q.start q.stop) = [] := by
    refine List.filter_eq_nil_iff.mpr fun row hrow hselects => hname ?_
    have hrowName := (decide_eq_true_iff.mp hselects).2.2.1
    rw [← hrowName]
    exact hconsistent.aggregated row hrow
  rw [readRows, optimizerRows, hnone]
  exact take_latestFirst_eq_nil.mpr rfl

lemma filter_asks_eq_nil :
    (warm.aggregated.filter fun row => q.Asks row) = [] ↔ ¬ warm.HasAverage q := by
  simp [List.filter_eq_nil_iff, HasAverage]

lemma queryWithDownsampling_eq_nil
    (hlong : (selectDownsampleResolution q.start q.stop).isRaw = false) :
    warm.queryWithDownsampling q = [] ↔ warm.readRows q = [] := by
  rw [queryWithDownsampling, hlong]
  exact List.map_eq_nil_iff

/-- In every run, for every name that is answered from a raw table and every longer range: the
downsampled answer agrees with the raw data if and only if there is nothing to be found, or the name
is `memory.usage_percent` and an average has been stored. -/
theorem raw_agrees_iff {config : AggregatorConfig} {steps : List Step}
    (run : Run next Unguarded (init config) steps warm) {table : MetricTable}
    (htable : metricToTable q.metricName = some table)
    (hlong : (selectDownsampleResolution q.start q.stop).isRaw = false) :
    warm.Agrees q ↔ ¬ warm.HasRaw q ∧ ¬ warm.HasAverage q ∨
      q.metricName = "memory.usage_percent" ∧ warm.HasAverage q := by
  have hconsistent : warm.Consistent :=
    run.invariant (fun _ _ _ h _ hstep => Consistent.next h hstep) (consistent_init config)
  by_cases hname : q.metricName = "memory.usage_percent"
  · -- The rows read are those asked for, so all depends on whether there is one.
    have hsame := readRows_usagePercent warm hname
    have hempty : warm.queryWithDownsampling q = [] ↔ ¬ warm.HasAverage q := by
      rw [queryWithDownsampling_eq_nil hlong, hsame, take_latestFirst_eq_nil, filter_asks_eq_nil]
    constructor
    · intro h
      have hanswered := h.answered
      rw [Ne, hempty, not_not] at hanswered
      by_cases haverage : warm.HasAverage q
      · exact .inr ⟨hname, haverage⟩
      · exact .inl ⟨fun hraw => haverage (hanswered hraw), haverage⟩
    · intro h
      refine ⟨hsame, fun hraw => ?_⟩
      rw [Ne, hempty, not_not]
      rcases h with h | h
      · exact absurd hraw h.1
      · exact h.2
  · -- Nothing is read under a name that the aggregator does not have.
    have hnotAggregated : ¬ IsAggregated q.metricName :=
      fun haggregated => hname (eq_usagePercent haggregated htable)
    have hread := readRows_eq_nil hconsistent hnotAggregated
    constructor
    · intro h
      have hsame := h.same
      rw [hread] at hsame
      refine .inl ⟨fun hraw => ?_, filter_asks_eq_nil.mp (take_latestFirst_eq_nil.mp hsame.symm)⟩
      exact h.answered hraw ((queryWithDownsampling_eq_nil hlong).mpr hread)
    · rintro (⟨hraw, haverage⟩ | ⟨h, _⟩)
      · have hasked := take_latestFirst_eq_nil.mpr (filter_asks_eq_nil.mpr haverage)
        exact ⟨hread.trans hasked.symm, fun h => absurd h hraw⟩
      · exact absurd h hname

/-! ## A run -/

/-- The CPU and the memory of an agent after a minute. -/
def firstBatch : MetricRows.MetricBatch ℚ where
  cpu :=
    [{ agentID := "web-1", timestamp := minute, totalUsagePct := 40, perCorePct := [],
       loadAvg1m := 1, loadAvg5m := 1, loadAvg15m := 1, frequencyMHz := 2400, contextSwitches := 0,
       physicalCores := 4, logicalCores := 8, modelName := "", vendorID := "" }]
  memory :=
    [{ agentID := "web-1", timestamp := minute, totalBytes := 8192, usedBytes := 4096,
       freeBytes := 4096, availableBytes := 4096, cachedBytes := 0, bufferBytes := 0,
       swapTotalBytes := 0, swapUsedBytes := 0, usagePercent := 50, pressure := none }]

/-- An average over the first five minutes. -/
def firstAverage (metricName : String) (value : ℚ) : AggregatedMetric where
  agentID := "web-1"
  name := metricName
  window := 5 * minute
  aggType := .avg
  value
  timestamp := minute

/-- A batch, and one that comes after the first five minutes. -/
def twoBatches : List Step :=
  [.process Ctx.background "web-1" minute minute firstBatch,
   .process Ctx.background "web-1" (7 * minute) (7 * minute) {}]

/-- What is stored of the first batch, and of its averages. -/
def stored : List Step :=
  [.storeBatch (firstBatch.metrics.map fun m => (m.statement "acme").row),
   .storeAggregatedMetric "acme" (firstAverage "cpu.usage_percent" 40) [],
   .storeAggregatedMetric "acme" (firstAverage "memory.usage_percent" 50) []]

/-- The last two hours of an agent. -/
def twoHours (metricName : String) : Query := ⟨"acme", "web-1", metricName, 0, 120 * minute⟩

lemma seconds_firstAverage (metricName : String) (value : ℚ) :
    Aggregated.seconds (firstAverage metricName value).window = 300 :=
  Aggregated.seconds_mul (n := 300) (by norm_num)

lemma exists_run : ∃ warm, Run next Unguarded (init {}) (twoBatches ++ stored) warm ∧
    warm.raw = firstBatch.metrics.map (fun m => (m.statement "acme").row) ∧
    warm.aggregated = [Aggregated.newRow 0 "acme" (firstAverage "cpu.usage_percent" 40),
      Aggregated.newRow 1 "acme" (firstAverage "memory.usage_percent" 50)] := by
  have hreturned : (twoBatches.foldlM next (init {})).map (fun warm =>
      (decide (firstAverage "cpu.usage_percent" 40 ∈ warm.returned),
        decide (firstAverage "memory.usage_percent" 50 ∈ warm.returned), warm.raw.length,
        warm.aggregated.length)) = some (true, true, 0, 0) := by
    decide +kernel
  obtain ⟨warm, hwarm, htables⟩ := Option.map_eq_some_iff.mp hreturned
  simp only [Prod.mk.injEq, decide_eq_true_eq, List.length_eq_zero_iff] at htables
  obtain ⟨hcpu, hmemory, hraw, haggregated⟩ := htables
  let final : Warm := { warm with
    raw := firstBatch.metrics.map fun m => (m.statement "acme").row
    aggregated := [Aggregated.newRow 0 "acme" (firstAverage "cpu.usage_percent" 40),
      Aggregated.newRow 1 "acme" (firstAverage "memory.usage_percent" 50)] }
  have hstored : stored.foldlM next warm = some final := by
    simp only [stored, List.foldlM_cons, List.foldlM_nil, next, hcpu, hmemory, hraw, haggregated,
      if_true, Option.bind_eq_bind, Option.bind_some, Option.pure_def]
    rfl
  exact ⟨final, (run_iff_foldlM.mpr hwarm).append (run_iff_foldlM.mpr hstored), rfl, rfl⟩

/-- The memory of the agent over two hours is answered with its average. -/
theorem raw_agrees_iff_memory : ∃ warm,
    Run next Unguarded (init {}) (twoBatches ++ stored) warm ∧
      warm.Agrees (twoHours "memory.usage_percent") := by
  obtain ⟨warm, run, _, haggregated⟩ := exists_run
  have hasks : (twoHours "memory.usage_percent").Asks
      (Aggregated.newRow 1 "acme" (firstAverage "memory.usage_percent" 50)) :=
    ⟨rfl, rfl, rfl, seconds_firstAverage _ _, rfl, by decide⟩
  have haverage : warm.HasAverage (twoHours "memory.usage_percent") :=
    ⟨_, by rw [haggregated]; exact List.mem_cons_of_mem _ List.mem_cons_self, hasks⟩
  exact ⟨warm, run, (raw_agrees_iff run rfl (by decide)).mpr (.inr ⟨rfl, haverage⟩)⟩

/-- The CPU of the agent over two hours is not answered, although it is stored both ways. -/
theorem not_agrees_cpuUsage :
    ¬ ∀ (config : AggregatorConfig) (steps : List Step) (warm : Warm) (q : Query)
      (table : MetricTable), Run next Unguarded (init config) steps warm →
      metricToTable q.metricName = some table →
      (selectDownsampleResolution q.start q.stop).isRaw = false → warm.Agrees q := by
  intro h
  obtain ⟨warm, run, hraw, _⟩ := exists_run
  have hagrees := h _ _ warm (twoHours "cpu.usage") .cpuMetrics run rfl (by decide)
  have hconsistent : warm.Consistent :=
    run.invariant (fun _ _ _ h _ hstep => Consistent.next h hstep) (consistent_init {})
  have hname : ¬ IsAggregated (twoHours "cpu.usage").metricName := by
    unfold IsAggregated
    decide
  have hread := readRows_eq_nil hconsistent hname
  have hstored : warm.HasRaw (twoHours "cpu.usage") :=
    ⟨_, by rw [hraw]; exact List.mem_cons_self, .cpuMetrics, rfl, by decide⟩
  exact hagrees.answered hstored ((queryWithDownsampling_eq_nil (by decide)).mpr hread)

end Warm

end Paryty.Storage.QueryRouting

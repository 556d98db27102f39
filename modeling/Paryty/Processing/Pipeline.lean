import Paryty.Processing.Enricher
import Paryty.Processing.EventBuffer
import Paryty.Stream.Consumer

/-!
# The pipeline

`MemoryMonitor` and `Pipeline` of `cluster/internal/processing/pipeline.go`: a record is routed by its
topic; a batch of metrics goes through the aggregator, the correlator and the enricher, and what comes
out of them to the store and to the producer.

* `absorb` is what a batch does to the state, `emit` what is then stored and published. The calls are
  made one after the other until one of them fails.
* `Surroundings` is what one record meets: the clocks, the answers of the agent cache, and those of
  store and producer, call by call.
* Spans, events and anomalies are stored as they are. Where the labels of a topology change would be
  set, it is passed on.
-/

namespace Paryty.Processing

/-! ## The memory monitor -/

/-- `MemoryMonitor`, with its `MemoryStats` except for the time of the last check. -/
structure MemoryMonitor where
  maxRAMBytes : Int64
  breakerOpen : Bool := false
  currentAlloc : Int64 := 0
  peakAlloc : Int64 := 0
  breakerTrips : ℕ := 0
deriving DecidableEq

namespace MemoryMonitor

def warningThreshold (m : MemoryMonitor) : Int64 := m.maxRAMBytes * 80 / 100

def breakerThreshold (m : MemoryMonitor) : Int64 := m.maxRAMBytes * 95 / 100

/-- `check`, when this much is allocated. -/
def check (m : MemoryMonitor) (currentAlloc : Int64) : MemoryMonitor :=
  let m := { m with
    currentAlloc := currentAlloc
    peakAlloc := if currentAlloc > m.peakAlloc then currentAlloc else m.peakAlloc }
  if currentAlloc > m.breakerThreshold then
    if m.breakerOpen then m
    else { m with breakerOpen := true, breakerTrips := m.breakerTrips + 1 }
  else if currentAlloc < m.warningThreshold then { m with breakerOpen := false }
  else m

end MemoryMonitor

/-! ## Calls -/

/-- `models.TopologyNode`, the fields that `buildTopology` sets from its input. -/
structure TopologyNode where
  id : String
  name : String
  agentID : String
  lastSeen : Time
deriving DecidableEq

/-- `models.TopologyEdge`, the fields that `buildTopology` sets from its input. -/
structure TopologyEdge where
  id : String
  sourceID : String
  targetID : String
  protocol : String
  lastSeen : Time
deriving DecidableEq

/-- `models.Topology`. -/
structure Topology where
  nodes : List TopologyNode
  edges : List TopologyEdge
  timestamp : Time
deriving DecidableEq

namespace Pipeline

open Correlator (CorrelationResult NetworkEvent)
open Enricher (EnricherConfig Labels Metric)

/-- `models.AgentInfo`, the fields that the pipeline reads. -/
structure AgentInfo where
  id : String
  labels : Labels

/-- What is published. -/
inductive Message
  | enriched (batch : MetricBatch)
  | topN (change : TopNResult)
  | aggregated (metric : Metric AggregatedMetric)
  | topology (change : GraphChange)

/-- The calls of the store and the producer. -/
inductive Call
  | storeMetricBatch (tenant : String) (batch : MetricBatch)
  | publishTenant (topic tenant agentID : String) (message : Message)
  | storeAggregatedMetric (tenant : String) (metric : Metric AggregatedMetric)
  | setTopology (tenant : String) (topology : Topology)
  | storeSpan (tenant : String) (span : List UInt8)
  | storeEvents (events : List UInt8)
  | storeAnomaly (tenant : String) (anomaly : List UInt8)

/-- A call with the prefix of its error, `none` if that is only logged, or an error without a call. -/
inductive Stage
  | call (call : Call) (prefixed : Option String)
  | fail (err : String)

/-- The stages up to the first error. `sink n` is the error of call number `n`. -/
def execute (sink : ℕ → Option String) : ℕ → List Stage → List Call × Option String
  | _, [] => ([], none)
  | _, .fail err :: _ => ([], some err)
  | n, .call call none :: stages =>
    let rest := execute sink (n + 1) stages
    (call :: rest.1, rest.2)
  | n, .call call (some text) :: stages =>
    match sink n with
    | some err => ([call], some (text ++ err))
    | none =>
      let rest := execute sink (n + 1) stages
      (call :: rest.1, rest.2)

/-- What one step of the enricher meets: the context, and what `getAgentInfo` returns. -/
structure Lookup where
  ctx : Ctx := .background
  agentInfo : Except String AgentInfo

/-- What one record meets. -/
structure Surroundings where
  ctx : Ctx := .background
  now : Time
  resolve : String → String
  orders : Correlator.Orders := {}
  labelOrder : List (String × String) := []
  forBatch : Lookup
  forAggregated : Lookup
  forTopology : Lookup
  sink : ℕ → Option String

/-- `EnrichBatch`; the labels it builds are only counted. -/
def enrichBatch (lookup : Lookup) (batch : MetricBatch) : Except String MetricBatch :=
  match lookup.ctx.poll with
  | none => .error "enricher: context cancelled"
  | some _ =>
    match lookup.agentInfo with
    | .error err => .error ("enricher: get agent info for batch: " ++ err)
    | .ok info =>
      .ok { batch with processes := batch.processes.map fun p => { p with agentID := info.id } }

/-- `EnrichTopology`, less the labels. -/
def enrichTopology (lookup : Lookup) (changes : List GraphChange) :
    Except String (List GraphChange) :=
  match lookup.ctx.poll with
  | none => .error "enricher: context cancelled"
  | some _ =>
    match lookup.agentInfo with
    | .error err => .error ("enricher: get agent info for topology changes: " ++ err)
    | .ok _ => .ok changes

/-- `buildTopology`. -/
def buildTopology (result : CorrelationResult) : Topology where
  nodes := ((result.processServices.map Prod.snd).filter (· ≠ "")).dedup.map fun serviceName =>
    ⟨serviceName ++ ":" ++ result.agentID, serviceName, result.agentID, result.timestamp⟩
  edges := result.dependencies.mapIdx fun i dep =>
    ⟨dep.sourceService ++ ":" ++ dep.targetService ++ ":" ++ toString i, dep.sourceService,
      dep.targetService, dep.protocol, result.timestamp⟩
  timestamp := result.timestamp

def topicMetricsEnriched : String := "paryty.default.metrics.enriched"

def topicMetricsAgg : String := "paryty.default.metrics.aggregated"

def topicTopologyChanges : String := "paryty.default.topology.changes"

end Pipeline

/-! ## Batches -/

/-- `Pipeline`, with the graph and the event buffer of its correlator. -/
structure Pipeline where
  config : Enricher.EnricherConfig
  monitor : MemoryMonitor
  aggregator : Aggregator
  graph : Correlator.Graph
  eventBuf : RingBuffer Correlator.NetworkEvent
  processed : ℕ := 0
  errors : ℕ := 0

namespace Pipeline

open Correlator (CorrelationResult NetworkEvent)

/-- The zero `time.Time`. -/
def zeroTime : Time := -62135596800 * second

/-- Steps 1 and 2 of `processMetricBatch`. -/
def absorb (p : Pipeline) (e : Surroundings) (batch : MetricBatch) :
    Except String (ProcessResult × CorrelationResult) × Pipeline :=
  match e.ctx.poll with
  | none => (.error "pipeline: context cancelled", p)
  | some ctx =>
    let now := if batch.timestamp = zeroTime then e.now else batch.timestamp
    match p.aggregator.process ctx batch now e.now with
    | (.error err, aggregator) =>
      (.error ("pipeline: aggregator process: " ++ err), { p with aggregator })
    | (.ok (result, ctx), aggregator) =>
      let (networkEvents, eventBuf) := p.eventBuf.drainAll
      match Correlator.correlate p.graph
        { ctx, resolve := e.resolve, batch, networkEvents, now := e.now, orders := e.orders } with
      | (.error err, graph) =>
        (.error ("pipeline: correlator correlate: " ++ err), { p with aggregator, eventBuf, graph })
      | (.ok correlation, graph) => (.ok (result, correlation), { p with aggregator, eventBuf, graph })

/-- Step 7: the aggregates of closed windows. -/
def emitAggregated (config : Enricher.EnricherConfig) (e : Surroundings) (tenant agentID : String)
    (aggregated : List AggregatedMetric) : List Stage :=
  if aggregated = [] then []
  else
    match Enricher.enrichAggregated config e.forAggregated.ctx
      (e.forAggregated.agentInfo.map AgentInfo.labels) e.labelOrder
      (aggregated.map fun m => ⟨m, .empty⟩) with
    | .error err => [.fail ("pipeline: enrich aggregated: " ++ err)]
    | .ok metrics => metrics.flatMap fun m =>
      [.call (.publishTenant topicMetricsAgg tenant agentID (.aggregated m))
          (some "pipeline: publish aggregated metric: "),
        .call (.storeAggregatedMetric tenant m) none]

/-- Step 8: the changes of the topology. -/
def emitTopology (e : Surroundings) (tenant agentID : String) (correlation : CorrelationResult) :
    List Stage :=
  if correlation.topologyChanges = [] then []
  else
    match enrichTopology e.forTopology correlation.topologyChanges with
    | .error err => [.fail ("pipeline: enrich topology: " ++ err)]
    | .ok changes =>
      changes.map (fun change =>
        .call (.publishTenant topicTopologyChanges tenant agentID (.topology change))
          (some "pipeline: publish topology change: ")) ++
      [.call (.setTopology tenant (buildTopology correlation)) (some "pipeline: set topology: ")]

/-- Steps 3 to 8 of `processMetricBatch`. -/
def emit (config : Enricher.EnricherConfig) (e : Surroundings) (tenant : String)
    (batch : MetricBatch) (result : ProcessResult) (correlation : CorrelationResult) : List Stage :=
  match enrichBatch e.forBatch batch with
  | .error err => [.fail ("pipeline: enricher enrich batch: " ++ err)]
  | .ok enriched =>
    [.call (.storeMetricBatch tenant enriched) (some "pipeline: store metric batch: "),
      .call (.publishTenant topicMetricsEnriched tenant batch.agentID (.enriched enriched))
        (some "pipeline: publish enriched metrics: ")] ++
    result.topnChanges.map (fun change =>
      .call (.publishTenant topicMetricsAgg tenant batch.agentID (.topN change))
        (some "pipeline: publish topn change: ")) ++
    emitAggregated config e tenant batch.agentID result.aggregated ++
    emitTopology e tenant batch.agentID correlation

/-- `processMetricBatch`: the calls it makes and its error. -/
def processMetricBatch (p : Pipeline) (e : Surroundings) (tenant : String) (batch : MetricBatch) :
    (List Call × Option String) × Pipeline :=
  match p.absorb e batch with
  | (.error err, p) => (([], some err), p)
  | (.ok (result, correlation), p) =>
    (execute e.sink 0 (emit p.config e tenant batch result correlation), p)

/-! ## Records -/

/-- `extractTenantFromKey`. -/
def extractTenantFromKey (key : String) : String :=
  if ':' ∈ key.toList then String.ofList (key.toList.takeWhile (· ≠ ':')) else "default"

/-- What payloads decode to, `none` for one that is malformed. Of a span, of events and of an anomaly
it is only said whether they decode. -/
structure Decoder where
  metricBatch : List UInt8 → Option MetricBatch
  networkEvent : List UInt8 → Option NetworkEvent
  span : List UInt8 → Bool
  events : List UInt8 → Bool
  anomaly : List UInt8 → Bool

/-- `strings.HasSuffix`. -/
def hasSuffix (topic suffix : String) : Bool := suffix.toList.isSuffixOf topic.toList

/-- A payload that is stored by one call. -/
def storeDecoded (p : Pipeline) (e : Surroundings) (decodes : Bool) (call : Call) :
    (List Call × Option String) × Pipeline :=
  if decodes then (([call], e.sink 0), p) else (([], none), p)

/-- `processMessage`: what is malformed, or of another topic, is skipped. -/
def processMessage (p : Pipeline) (decoder : Decoder) (e : Surroundings) (topic key : String)
    (value : List UInt8) : (List Call × Option String) × Pipeline :=
  if p.monitor.breakerOpen then
    (([], some "memory circuit breaker open, rejecting message"), p)
  else
    let tenant := extractTenantFromKey key
    if hasSuffix topic "metrics.raw" then
      match decoder.metricBatch value with
      | none => (([], none), p)
      | some batch => p.processMetricBatch e tenant batch
    else if hasSuffix topic "network.events" then
      match decoder.networkEvent value with
      | none => (([], none), p)
      | some event => (([], none), { p with eventBuf := p.eventBuf.push event })
    else if hasSuffix topic "traces" then
      p.storeDecoded e (decoder.span value) (.storeSpan tenant value)
    else if hasSuffix topic "events" then
      p.storeDecoded e (decoder.events value) (.storeEvents value)
    else if hasSuffix topic "anomalies" then
      p.storeDecoded e (decoder.anomaly value) (.storeAnomaly tenant value)
    else (([], none), p)

/-- `handleRecord`. -/
def handleRecord (p : Pipeline) (decoder : Decoder) (e : Surroundings) (record : Stream.Record) :
    (List Call × Option String) × Pipeline :=
  let (out, p) := p.processMessage decoder e record.topic record.key record.value
  match out.2 with
  | some _ => (out, { p with errors := p.errors + 1 })
  | none => (out, { p with processed := p.processed + 1 })

/-- A check of the memory monitor, or a record. -/
inductive Event
  | check (currentAlloc : Int64)
  | record (e : Surroundings) (record : Stream.Record)

/-- The pipeline, with the calls it makes. -/
def machine (decoder : Decoder) : Lib.Machine Pipeline Event Call where
  step
    | p, .check currentAlloc => ({ p with monitor := p.monitor.check currentAlloc }, [])
    | p, .record e record =>
      let (out, p) := p.handleRecord decoder e record
      (p, out.1)

end Pipeline

end Paryty.Processing

import Mathlib.Algebra.Order.Ring.Int
import Mathlib.Data.Int.Notation
import Mathlib.Data.List.Basic
import Mathlib.Logic.Function.Basic
import Mathlib.Tactic.Lemma
import Paryty.Stream.Consumer

/-!
# The warm tier and its two writers

A metric batch reaches the warm tier (QuestDB) on two routes. The ingestion service writes it in
`SendBatch`, before it publishes it (`cluster/internal/api/ingestion/service.go`); the pipeline
writes the published copy again in `processMetricBatch`
(`cluster/internal/processing/pipeline.go`). Both go through `StoreMetricWarmCold`
(`cluster/internal/storage/store.go`), each in a process of its own, so each with a circuit
breaker and a cold write channel of its own.

* `CircuitBreaker` is the breaker in front of the tier.
* `insertMetricBatch` is what one transaction inserts. A row carries, beside its columns, the call
  of `SendBatch` its batch came with and its place in the batch: a copy of a metric is known by
  these, whatever agent or tenant the writer puts into the columns.
* `State.next` is one step of the processes. A write is split into the moment the breaker is asked
  and the moment the transaction returns, so any number of calls and handlers are interleaved.

The consumer commits no offset, so a published record can be delivered again at any time
(`Event.redeliver`).
-/

namespace Paryty.Storage

/-! ## Circuit breaker -/

/-- `circuitBreakerState`. -/
inductive CircuitBreakerState
  /-- Requests pass through. -/
  | stateClosed
  /-- Requests are rejected. -/
  | stateOpen
  /-- A probe request is allowed through. -/
  | stateHalfOpen
deriving DecidableEq

/-- `defaultFailureThreshold`. -/
def defaultFailureThreshold : ℕ := 5

/-- `defaultCooldown`, in nanoseconds. -/
def defaultCooldown : ℤ := 30 * 10 ^ 9

/-- `circuitBreaker`, as `newCircuitBreaker` makes it for a tier. Times are in nanoseconds. -/
structure CircuitBreaker where
  failures : ℕ := 0
  threshold : ℕ := defaultFailureThreshold
  cooldown : ℤ := defaultCooldown
  lastFailure : ℤ := 0
  state : CircuitBreakerState := .stateClosed
deriving DecidableEq

namespace CircuitBreaker

/-- `Allow`: whether a request may pass, and the breaker afterwards. An open breaker whose
cooldown is over lets a probe through. -/
def allow (cb : CircuitBreaker) (now : ℤ) : Bool × CircuitBreaker :=
  match cb.state with
  | .stateClosed => (true, cb)
  | .stateOpen =>
    if now - cb.lastFailure ≥ cb.cooldown then (true, { cb with state := .stateHalfOpen })
    else (false, cb)
  | .stateHalfOpen => (true, cb)

/-- `RecordSuccess`. -/
def recordSuccess (cb : CircuitBreaker) : CircuitBreaker :=
  { cb with failures := 0, state := .stateClosed }

/-- `RecordFailure`. -/
def recordFailure (cb : CircuitBreaker) (now : ℤ) : CircuitBreaker :=
  { cb with
    failures := cb.failures + 1
    lastFailure := now
    state := if cb.failures + 1 ≥ cb.threshold then .stateOpen else cb.state }

/-- What a finished request records. -/
def record (cb : CircuitBreaker) (now : ℤ) (ok : Bool) : CircuitBreaker :=
  if ok then cb.recordSuccess else cb.recordFailure now

end CircuitBreaker

/-! ## Metric batches -/

/-- The metric tables, in the order `InsertMetricBatch` fills them. -/
inductive MetricTable
  | cpuMetrics
  | memoryMetrics
  | diskMetrics
  | networkMetrics
  | processMetrics
  | containerMetrics
deriving DecidableEq

namespace MetricTable

/-- All of them. -/
def all : List MetricTable :=
  [cpuMetrics, memoryMetrics, diskMetrics, networkMetrics, processMetrics, containerMetrics]

end MetricTable

/-- One entry of a metric list: the agent, the time (`0` is Go's zero time) and the measured
values, which nothing here looks into. -/
structure Metric (V : Type*) where
  agentID : String
  timestamp : ℤ
  values : V
deriving DecidableEq

/-- `models.MetricBatch`. -/
structure MetricBatch (V : Type*) where
  agentID : String
  timestamp : ℤ
  cpu : List (Metric V) := []
  memory : List (Metric V) := []
  disk : List (Metric V) := []
  network : List (Metric V) := []
  processes : List (Metric V) := []
  containers : List (Metric V) := []
deriving DecidableEq

variable {V : Type*}

namespace MetricBatch

/-- The list of a batch that goes into a table. -/
def metrics (batch : MetricBatch V) : MetricTable → List (Metric V)
  | .cpuMetrics => batch.cpu
  | .memoryMetrics => batch.memory
  | .diskMetrics => batch.disk
  | .networkMetrics => batch.network
  | .processMetrics => batch.processes
  | .containerMetrics => batch.containers

/-- `f` applied to every entry of every list. -/
def map (f : Metric V → Metric V) (batch : MetricBatch V) : MetricBatch V :=
  { batch with
    cpu := batch.cpu.map f
    memory := batch.memory.map f
    disk := batch.disk.map f
    network := batch.network.map f
    processes := batch.processes.map f
    containers := batch.containers.map f }

@[simp] lemma metrics_map (f : Metric V → Metric V) (batch : MetricBatch V) (table : MetricTable) :
    (batch.map f).metrics table = (batch.metrics table).map f := by cases table <;> rfl

end MetricBatch

/-- `BatchValidationError`. -/
inductive BatchValidationError
  | errNilBatch
  | errNoMetricTypes
  | errAllTimestampsZero
deriving DecidableEq

/-- Its text. -/
def BatchValidationError.message : BatchValidationError → String
  | .errNilBatch => "batch must not be nil"
  | .errNoMetricTypes => "batch must contain at least one metric type"
  | .errAllTimestampsZero => "batch timestamps must not all be zero"

/-- The tables `validateBatchDomain` looks at: containers do not count. -/
def validatedTables : List MetricTable :=
  [.cpuMetrics, .memoryMetrics, .diskMetrics, .networkMetrics, .processMetrics]

/-- `validateBatchDomain`. -/
def validateBatchDomain : Option (MetricBatch V) → Except BatchValidationError (MetricBatch V)
  | none => .error .errNilBatch
  | some batch =>
    if validatedTables.all (fun table => (batch.metrics table).isEmpty) then
      .error .errNoMetricTypes
    else if batch.timestamp = 0 ∧
        validatedTables.all (fun table => (batch.metrics table).all (·.timestamp = 0)) then
      .error .errAllTimestampsZero
    else .ok batch

/-- `EnrichBatch` on the rows: it stamps the agent's cached ID on every metric. -/
def enrichBatch (agentInfoID : String) (batch : MetricBatch V) : MetricBatch V :=
  batch.map (fun metric => { metric with agentID := agentInfoID })

/-! ## Rows -/

/-- A row of a metric table. -/
structure WarmRow (V : Type*) where
  table : MetricTable
  agentID : String
  tenantID : String
  timestamp : ℤ
  values : V
  /-- The call of `SendBatch` the batch came with. -/
  call : ℕ
  /-- The place of the metric in its list. -/
  place : ℕ
deriving DecidableEq

/-- `InsertMetricBatch`: the rows one transaction inserts, list after list. -/
def insertMetricBatch (call : ℕ) (batch : MetricBatch V) (tenant : String) : List (WarmRow V) :=
  MetricTable.all.flatMap fun table =>
    (batch.metrics table).mapIdx fun place metric =>
      ⟨table, metric.agentID, tenant, metric.timestamp, metric.values, call, place⟩

/-- How a transaction ends. -/
inductive Outcome
  /-- Committed. -/
  | stored
  /-- Rolled back, with an error. -/
  | failed
  /-- Committed, but the writer gets an error. -/
  | unacknowledged
deriving DecidableEq

namespace Outcome

/-- The rows are in the tier. -/
def stores : Outcome → Bool
  | stored => true
  | failed => false
  | unacknowledged => true

/-- The writer gets no error. -/
def ok : Outcome → Bool
  | stored => true
  | failed => false
  | unacknowledged => false

end Outcome

/-! ## Processes -/

/-- The processes with a store: any number of replicas of each service. -/
inductive Process
  | ingestion (replica : ℕ)
  | pipeline (replica : ℕ)
deriving DecidableEq

/-- Where a call of `SendBatch` stands once its batch is valid. -/
inductive CallPhase
  /-- The transaction runs. -/
  | inserting
  /-- The batch goes to the stream. -/
  | publishing
  /-- The call returned without an error. -/
  | accepted
  /-- The call returned an error, or its process ended. -/
  | rejected
deriving DecidableEq

/-- A call of `SendBatch`. -/
structure Call (V : Type*) where
  replica : ℕ
  tenant : String
  agentID : String
  batch : MetricBatch V
  phase : CallPhase
  /-- The record is in the topic. -/
  published : Bool := false
deriving DecidableEq

/-- Where a delivery of a published record stands. -/
inductive DeliveryPhase
  /-- No worker holds the record yet. -/
  | inTopic
  /-- The handler of a pipeline replica runs, and has not stored. -/
  | handling (replica attempt : ℕ)
  /-- The transaction of the handler runs; its rows carry the given agent. -/
  | inserting (replica attempt : ℕ) (agentInfoID : String)
  /-- The handler is past the store. -/
  | stored (replica attempt : ℕ)
  /-- `processRecord` returned: the handler succeeded, or the record went to the DLQ. -/
  | finished
deriving DecidableEq

/-- A delivery of the record a call published. -/
structure Delivery where
  call : ℕ
  phase : DeliveryPhase
deriving DecidableEq

/-- The warm tier, the stores of the processes, the calls of `SendBatch` and the deliveries of
their records. -/
structure State (V : Type*) where
  warm : List (WarmRow V) := []
  warmBreaker : Process → CircuitBreaker := fun _ => {}
  coldWriteCh : Process → List (MetricBatch V) := fun _ => []
  calls : List (Call V) := []
  deliveries : List Delivery := []

/-- What happens. -/
inductive Event (V : Type*)
  /-- `SendBatch` is called. -/
  | sendBatch (replica : ℕ) (tenant agentID : String) (batch : Option (MetricBatch V)) (now : ℤ)
  /-- The transaction of a call returns. -/
  | insertReturns (call : ℕ) (now : ℤ) (outcome : Outcome)
  /-- `PublishTenant` returns in a call: whether the record is in the topic, and whether the
  producer knows. -/
  | publishReturns (call : ℕ) (published acknowledged : Bool)
  /-- A worker of a pipeline replica takes the record. -/
  | take (delivery replica : ℕ)
  /-- The handler gets as far as the store, with the agent it found in its cache. -/
  | handlerStores (delivery : ℕ) (now : ℤ) (agentInfoID : String)
  /-- The transaction of a handler returns. -/
  | handlerInsertReturns (delivery : ℕ) (now : ℤ) (outcome : Outcome)
  /-- The handler returns. `stopping` says that the consumer is draining or its context is
  cancelled. -/
  | handlerReturns (delivery : ℕ) (ok stopping : Bool)
  /-- The record of a call is read from the topic once more. -/
  | redeliver (call : ℕ)
  /-- Another operation of a store ends that uses the warm breaker. -/
  | otherWarmOperation (process : Process) (started now : ℤ) (ok : Bool)
  /-- A cold writer takes a batch from the channel. -/
  | coldWrite (process : Process)
  /-- A process ends, and starts again. -/
  | restart (process : Process)

/-- `coldWriteChannelSize`. -/
def coldWriteChannelSize : ℕ := 1000

/-- `extractTenantFromKey`. -/
def extractTenantFromKey (key : String) : String :=
  if ':' ∈ key.toList then String.ofList (key.toList.takeWhile (· ≠ ':')) else "default"

namespace State

/-! ## StoreMetricWarmCold -/

/-- The end of `StoreMetricWarmCold`: the batch goes to the cold channel, unless that is full. -/
def enqueueCold (s : State V) (p : Process) (batch : MetricBatch V) : State V :=
  if (s.coldWriteCh p).length < coldWriteChannelSize then
    { s with coldWriteCh := Function.update s.coldWriteCh p (s.coldWriteCh p ++ [batch]) }
  else s

/-- The store asks its breaker. -/
def askBreaker (s : State V) (p : Process) (now : ℤ) : State V :=
  { s with warmBreaker := Function.update s.warmBreaker p ((s.warmBreaker p).allow now).2 }

/-- The transaction of a store returns: the rows, the breaker, then the cold channel. The error
goes no further than the log. -/
def finishInsert (s : State V) (p : Process) (call : ℕ) (batch : MetricBatch V) (tenant : String)
    (now : ℤ) (outcome : Outcome) : State V :=
  let s := { s with
    warm := if outcome.stores then s.warm ++ insertMetricBatch call batch tenant else s.warm
    warmBreaker := Function.update s.warmBreaker p ((s.warmBreaker p).record now outcome.ok) }
  s.enqueueCold p batch

/-- A call goes on. -/
def setCall (s : State V) (c : ℕ) (call : Call V) : State V :=
  { s with calls := s.calls.set c call }

/-- A delivery goes on. -/
def setPhase (s : State V) (i : ℕ) (d : Delivery) (phase : DeliveryPhase) : State V :=
  { s with deliveries := s.deliveries.set i { d with phase := phase } }

/-! ## SendBatch -/

/-- `SendBatch`, up to the transaction, or up to the stream if the breaker is open. -/
def sendBatch (s : State V) (replica : ℕ) (tenant agentID : String)
    (batch : Option (MetricBatch V)) (now : ℤ) : State V :=
  match validateBatchDomain batch with
  | .error _ => s
  | .ok batch =>
    let p := Process.ingestion replica
    if ((s.warmBreaker p).allow now).1 then
      { s.askBreaker p now with
        calls := s.calls ++ [⟨replica, tenant, agentID, batch, .inserting, false⟩] }
    else
      { (s.askBreaker p now).enqueueCold p batch with
        calls := s.calls ++ [⟨replica, tenant, agentID, batch, .publishing, false⟩] }

/-- The transaction of a call returns. -/
def insertReturns (s : State V) (c : ℕ) (now : ℤ) (outcome : Outcome) : State V :=
  match s.calls[c]? with
  | some call =>
    if call.phase = .inserting then
      (s.finishInsert (.ingestion call.replica) c call.batch call.tenant now outcome).setCall c
        { call with phase := .publishing }
    else s
  | none => s

/-- `PublishTenant` returns. It refuses an empty tenant or agent before it produces anything. -/
def publishReturns (s : State V) (c : ℕ) (published acknowledged : Bool) : State V :=
  match s.calls[c]? with
  | some call =>
    if call.phase = .publishing then
      if call.tenant = "" ∨ call.agentID = "" ∨ published = false then
        s.setCall c { call with phase := .rejected }
      else
        { s.setCall c { call with
            phase := if acknowledged then .accepted else .rejected
            published := true } with
          deliveries := s.deliveries ++ [⟨c, .inTopic⟩] }
    else s
  | none => s

/-! ## The pipeline -/

/-- A worker takes a record. -/
def take (s : State V) (i replica : ℕ) : State V :=
  match s.deliveries[i]? with
  | some d => if d.phase = .inTopic then s.setPhase i d (.handling replica 0) else s
  | none => s

/-- `processMetricBatch` gets to `StoreMetricBatch`. -/
def handlerStores (s : State V) (i : ℕ) (now : ℤ) (agentInfoID : String) : State V :=
  match s.deliveries[i]? with
  | some d =>
    match d.phase, s.calls[d.call]? with
    | .handling replica attempt, some call =>
      let p := Process.pipeline replica
      if ((s.warmBreaker p).allow now).1 then
        (s.askBreaker p now).setPhase i d (.inserting replica attempt agentInfoID)
      else
        ((s.askBreaker p now).enqueueCold p (enrichBatch agentInfoID call.batch)).setPhase i d
          (.stored replica attempt)
    | _, _ => s
  | none => s

/-- The transaction of a handler returns. The tenant is the one in the record key. -/
def handlerInsertReturns (s : State V) (i : ℕ) (now : ℤ) (outcome : Outcome) : State V :=
  match s.deliveries[i]? with
  | some d =>
    match d.phase, s.calls[d.call]? with
    | .inserting replica attempt agentInfoID, some call =>
      (s.finishInsert (.pipeline replica) d.call (enrichBatch agentInfoID call.batch)
        (extractTenantFromKey (Stream.State.recordKey call.tenant call.agentID)) now
        outcome).setPhase i d (.stored replica attempt)
    | _, _ => s
  | none => s

/-- The handler returned, at the given attempt: where `processRecord` goes on. A failed record is
handled again while retries are left, and given up otherwise. -/
def afterHandler (maxRetries replica attempt : ℕ) (ok stopping : Bool) : DeliveryPhase :=
  if ok then .finished
  else if attempt < maxRetries ∧ stopping = false then .handling replica (attempt + 1)
  else .finished

/-- The phase a delivery is in when the handler has returned, `none` where it does not run.
Before the store, the handler returns errors only. -/
def returned (maxRetries : ℕ) (phase : DeliveryPhase) (ok stopping : Bool) :
    Option DeliveryPhase :=
  match phase with
  | .handling replica attempt =>
    if ok then none else some (afterHandler maxRetries replica attempt false stopping)
  | .stored replica attempt => some (afterHandler maxRetries replica attempt ok stopping)
  | _ => none

/-- The handler returns. -/
def handlerReturns (maxRetries : ℕ) (s : State V) (i : ℕ) (ok stopping : Bool) : State V :=
  match s.deliveries[i]? with
  | some d =>
    match returned maxRetries d.phase ok stopping with
    | some phase => s.setPhase i d phase
    | none => s
  | none => s

/-- A published record is delivered once more. -/
def redeliver (s : State V) (c : ℕ) : State V :=
  match s.calls[c]? with
  | some call =>
    if call.published then { s with deliveries := s.deliveries ++ [⟨c, .inTopic⟩] } else s
  | none => s

/-! ## Process lifetime -/

/-- What the end of an ingestion replica does to a call. -/
def abandonCall (replica : ℕ) (call : Call V) : Call V :=
  if call.replica = replica ∧ (call.phase = .inserting ∨ call.phase = .publishing) then
    { call with phase := .rejected }
  else call

/-- The phase of a delivery once a pipeline replica has ended: a record it held is read again. -/
def abandonPhase (replica : ℕ) : DeliveryPhase → DeliveryPhase
  | .inTopic => .inTopic
  | .handling r attempt => if r = replica then .inTopic else .handling r attempt
  | .inserting r attempt agentInfoID =>
    if r = replica then .inTopic else .inserting r attempt agentInfoID
  | .stored r attempt => if r = replica then .inTopic else .stored r attempt
  | .finished => .finished

/-- A process ends and its successor starts, with a new store. -/
def restart (s : State V) (p : Process) : State V :=
  { s with
    warmBreaker := Function.update s.warmBreaker p {}
    coldWriteCh := Function.update s.coldWriteCh p []
    calls :=
      match p with
      | .ingestion replica => s.calls.map (abandonCall replica)
      | .pipeline _ => s.calls
    deliveries :=
      match p with
      | .ingestion _ => s.deliveries
      | .pipeline replica =>
        s.deliveries.map fun d => { d with phase := abandonPhase replica d.phase } }

/-- An operation other than a metric write: it asks the breaker and records how it ended. -/
def otherWarmOperation (s : State V) (p : Process) (started now : ℤ) (ok : Bool) : State V :=
  let (allowed, cb) := (s.warmBreaker p).allow started
  { s with warmBreaker :=
      Function.update s.warmBreaker p (if allowed then cb.record now ok else cb) }

/-- A cold writer takes the first batch of the channel. -/
def coldWrite (s : State V) (p : Process) : State V :=
  { s with coldWriteCh := Function.update s.coldWriteCh p (s.coldWriteCh p).tail }

/-- One step. An event that cannot happen changes nothing. -/
def next (maxRetries : ℕ) (s : State V) : Event V → State V
  | .sendBatch replica tenant agentID batch now => s.sendBatch replica tenant agentID batch now
  | .insertReturns c now outcome => s.insertReturns c now outcome
  | .publishReturns c published acknowledged => s.publishReturns c published acknowledged
  | .take i replica => s.take i replica
  | .handlerStores i now agentInfoID => s.handlerStores i now agentInfoID
  | .handlerInsertReturns i now outcome => s.handlerInsertReturns i now outcome
  | .handlerReturns i ok stopping => s.handlerReturns maxRetries i ok stopping
  | .redeliver c => s.redeliver c
  | .otherWarmOperation p started now ok => s.otherWarmOperation p started now ok
  | .coldWrite p => s.coldWrite p
  | .restart p => s.restart p

end State

end Paryty.Storage

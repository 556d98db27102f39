import Mathlib.Data.Rat.Defs
import Mathlib.Algebra.Order.Ring.Rat
import Paryty.Intelligence.ModelStore
import Paryty.Lib.Unwinding

/-!
# The intelligence pipeline

The orchestrator with the forecasting and anomaly services behind it: metric messages come in on
the consumer thread, the drain sweep and the retrain scheduler add jobs, the thread pool works
them off in any order, and a restart loses everything but Dragonfly and the model directory.

* The numerical code (detectors, models, their state) is a parameter, `Numerics`, and so is
  Dragonfly's sorted set. What the pipeline does with it is not: under which key each of these
  lives, when it is created, updated, evicted, saved and loaded.
* The history of a metric in QuestDB is a parameter of the system; a query may fail.
* The retrain scheduler's jobs join those of the pool.
* A message body is a JSON object. A field the code reads as a number may be missing or no
  number; then the callback gives the message up.
-/

namespace Paryty.Intelligence

abbrev TenantID := String
abbrev AgentID := String

/-! ## The numerical code -/

/-- Which of the three drift tests found drift. -/
structure DriftVotes where
  pageHinkley : Bool
  ks : Bool
  adwin : Bool
deriving DecidableEq

/-- Detectors, models and sorted sets, with what is done to them. -/
structure Numerics where
  Value : Type
  /-- The value of a message without one. -/
  zero : Value
  /-- A sorted set of Dragonfly. -/
  SortedSet : Type
  noPoints : SortedSet
  /-- Add a point and trim the set. -/
  zadd : SortedSet → Int → Value → SortedSet
  /-- The points from a time on. -/
  window : SortedSet → Int → List (Int × Value)
  /-- Drop the points that are no finite numbers. -/
  sanitizeSeries : List (Int × Value) → List (Int × Value)
  Drift : Type
  newDrift : MetricName → Drift
  updateDrift : Drift → Value → Drift × DriftVotes
  /-- A finding of a detector, and an anomaly the findings are combined to. -/
  Finding : Type
  Anomaly : Type
  Statistical : Type
  newStatistical : Statistical
  detectStatistical : Statistical → List (Int × Value) → Statistical × List Finding
  Forest : Type
  newForest : Forest
  useForest : Forest → List (Int × Value) → Forest × List Finding
  Autoencoder : Type
  newAutoencoder : Autoencoder
  useAutoencoder : Autoencoder → List (Int × Value) → Autoencoder × List Finding
  combine : List Finding → List Finding → List Finding → ℕ → List Anomaly
  Ensemble : Type
  newEnsemble : Ensemble
  isFitted : Ensemble → Bool
  fitAll : Ensemble → List (Int × Value) → Int → Ensemble
  EnsembleState : Type
  getState : Ensemble → EnsembleState
  setState : Ensemble → EnsembleState → Ensemble
  Forecast : Type
  /-- The response without a forecast. -/
  noForecast : Forecast
  /-- A forecast over a horizon in steps, made at a time; it may raise. -/
  predict : Ensemble → ℕ → ℕ → Int → Ensemble × Option Forecast

/-- The configuration, with its defaults. -/
structure Config where
  anomalyEnabled : Bool := true
  forecastEnabled : Bool := true
  driftEnabled : Bool := true
  retrainEnabled : Bool := true
  anomalyWindowMinutes : ℕ := 30
  anomalyMinPoints : ℕ := 30
  forecastIntervalSeconds : Int := 900
  forecastHorizonSeconds : ℕ := 86400
  forecastStepSeconds : ℕ := 300
  maxDriftDetectors : ℕ := 500
  retrainCooldownSeconds : Int := 3600
  /-- `isolation_forest.min_data_points` -/
  forestMinPoints : ℕ := 100
  /-- `autoencoder.min_data_points` -/
  autoencoderMinPoints : ℕ := 200
  /-- `ANOMALY_MAX_CACHED_DETECTORS` -/
  maxDetectorsPerCache : ℕ := 1000
  /-- `FORECAST_MAX_CACHED_ENSEMBLES` -/
  maxEnsembles : ℕ := 500

variable (N : Numerics)

/-! ## Messages -/

/-- A numeric field of a message. -/
inductive Field (α : Type)
  | missing
  | invalid
  | given (a : α)

/-- The field, or a default; an invalid one raises. -/
def Field.get {α : Type} (default : α) : Field α → Option α
  | missing => some default
  | invalid => none
  | given a => some a

/-- The body of a metric message. A missing name reads as empty. -/
structure Body where
  tenantID : TenantID := ""
  agentID : AgentID := ""
  metricName : MetricName := ""
  value : Field N.Value
  timestamp : Field Int
  /-- The field `_topic`. -/
  topic : String := ""

/-- A record of a topic. -/
structure Record where
  topic : String
  body : Body N

variable {N}

/-- What the consumer hands to the callback: the decoded body. -/
def consume (rec : Record N) : Body N := rec.body

/-- The tenant in a topic name `paryty.<tenant>.metrics.raw`. -/
def extractTenant (topic : String) : TenantID :=
  let cs := topic.toList
  -- `$` also matches before a newline at the end.
  let cs := if cs.getLast? = some '\n' then cs.dropLast else cs
  let before := "paryty.".toList
  let after := ".metrics.raw".toList
  if before.isPrefixOf cs && after.isSuffixOf (cs.drop before.length) then
    let tenant := (cs.drop before.length).take (cs.length - before.length - after.length)
    if tenant.contains '\n' then "" else String.ofList tenant
  else ""

/-- The tenant a message is processed under. -/
def resolveTenant (body : Body N) : TenantID :=
  let tenantID := if body.tenantID = "" then extractTenant body.topic else body.tenantID
  if tenantID = "" then "default" else tenantID

/-- The tenant a record is processed under. -/
def processedUnder (rec : Record N) : TenantID := resolveTenant (consume rec)

/-! ## State -/

/-- What a job of the pool does. -/
inductive Task
  | anomalyDetection
  | forecast
  | retrain
deriving DecidableEq

/-- A job of the pool. -/
structure Job where
  task : Task
  tenantID : TenantID
  agentID : AgentID
  metricName : MetricName
deriving DecidableEq

/-- A cache of the services, by tenant and metric. -/
abbrev Cache (τ : Type) :=
  Lib.Table ((TenantID × MetricName) × τ) (TenantID × MetricName) Prod.fst

variable (N) in
/-- The pipeline, the services behind it, and what they store. -/
@[ext]
structure State where
  /-- The sorted sets of Dragonfly. -/
  dragonfly : String → N.SortedSet
  /-- The model directory. -/
  models : Directory N.EnsembleState
  /-- The drift detectors of the `DriftDetectionManager`, in the order of their creation. -/
  detectors : Lib.Table (MetricName × N.Drift) MetricName Prod.fst
  /-- The `MetricBuffer`: points since the last detection, last forecast, known metrics. -/
  counts : TenantID × AgentID × MetricName → ℕ
  lastForecast : TenantID × MetricName → Int
  knownMetrics : List (TenantID × MetricName)
  /-- The metrics of the `RetrainScheduler`. -/
  watchedMetrics : List (TenantID × MetricName)
  lastRetrain : TenantID × MetricName → Int
  fallbackBuffer : TenantID × AgentID × MetricName → List (Int × N.Value)
  /-- The caches of the services. -/
  ensembles : Cache N.Ensemble
  statistical : Cache N.Statistical
  forests : Cache N.Forest
  autoencoders : Cache N.Autoencoder
  /-- The jobs that wait. -/
  pending : List Job

/-- A process that has just started, on what the last one left behind. -/
def State.start (dragonfly : String → N.SortedSet) (models : Directory N.EnsembleState) :
    State N where
  dragonfly := dragonfly
  models := models
  detectors := .empty
  counts _ := 0
  lastForecast _ := 0
  knownMetrics := []
  watchedMetrics := []
  lastRetrain _ := 0
  fallbackBuffer _ := []
  ensembles := .empty
  statistical := .empty
  forests := .empty
  autoencoders := .empty
  pending := []

/-- A new system. -/
def State.init : State N := .start (fun _ => N.noPoints) .empty

variable (N) in
/-- What the pipeline publishes, triggers and loads. -/
inductive Output
  | drift (tenantID : TenantID) (agentID : AgentID) (metricName : MetricName) (driftType : String)
      (confidence : ℚ) (timestamp : Int)
  | anomalies (tenantID : TenantID) (agentID : AgentID) (metricName : MetricName)
      (anomalies : List N.Anomaly)
  | forecast (tenantID : TenantID) (agentID : AgentID) (metricName : MetricName)
      (forecast : N.Forecast)
  | retrainTriggered (tenantID : TenantID) (metricName : MetricName)
  | stateLoaded (tenantID : TenantID) (metricName : MetricName) (state : N.EnsembleState)

/-- The tenant an output is for. -/
def Output.tenantID : Output N → TenantID
  | drift tenantID .. | anomalies tenantID .. | forecast tenantID .. | retrainTriggered tenantID _
  | stateLoaded tenantID .. => tenantID

/-! ## The consumer callback -/

/-- The key of a metric's sorted set. -/
def metricKey (metricName : MetricName) (agentID : AgentID) (tenantID : TenantID) : String :=
  "metrics:" ++ tenantID ++ ":" ++ agentID ++ ":" ++ metricName

/-- How a write to Dragonfly ends: done, given up with a log line, or raised. -/
inductive StoreOutcome
  | stored
  | dropped
  | raised
deriving DecidableEq

/-- Store a metric in Dragonfly, with an in-memory fallback of at most 1000 points. -/
def storeMetric (tenantID : TenantID) (agentID : AgentID) (metricName : MetricName)
    (timestamp : Int) (value : N.Value) (outcome : StoreOutcome) (s : State N) : State N :=
  match outcome with
  | .stored =>
    let key := metricKey metricName agentID tenantID
    let points := N.zadd (s.dragonfly key) timestamp value
    { s with dragonfly := Function.update s.dragonfly key points }
  | .dropped => s
  | .raised =>
    let key := (tenantID, agentID, metricName)
    let buf := s.fallbackBuffer key
    let buf := if buf.length < 1000 then buf else buf.tail
    { s with fallbackBuffer := Function.update s.fallbackBuffer key (buf ++ [(timestamp, value)]) }

/-- The number of tests that found drift. -/
def DriftVotes.count (votes : DriftVotes) : ℕ :=
  votes.pageHinkley.toNat + votes.ks.toNat + votes.adwin.toNat

/-- The share of the tests that found drift. -/
def DriftVotes.confidence (votes : DriftVotes) : ℚ := votes.count / 3

/-- Classify drift by the agreement of the tests. -/
def DriftVotes.driftType (votes : DriftVotes) : String :=
  if votes.count = 0 then "none" else if votes.count = 3 then "sudden" else "gradual"

/-- Check for concept drift and act on detection. -/
def checkDrift (cfg : Config) (tenantID : TenantID) (agentID : AgentID) (metricName : MetricName)
    (value : N.Value) (timestamp now : Int) (s : State N) : State N × List (Output N) :=
  -- At the cap the oldest detector goes first.
  let detectors := if cfg.maxDriftDetectors ≤ s.detectors.rows.length
    then s.detectors.newest (s.detectors.rows.length - 1) else s.detectors
  let detector := ((detectors.find? metricName).map Prod.snd).getD (N.newDrift metricName)
  let (detector, votes) := N.updateDrift detector value
  let s := { s with detectors := detectors.put (metricName, detector) }
  if votes.count < 2 then
    (s, [])
  else
    let published : Output N := .drift tenantID agentID metricName votes.driftType votes.confidence
      (if timestamp = 0 then now else timestamp)
    let key := (tenantID, metricName)
    if cfg.retrainEnabled && decide (67 / 100 ≤ votes.confidence) &&
        decide (cfg.retrainCooldownSeconds ≤ now - s.lastRetrain key) then
      ({ s with
          lastRetrain := Function.update s.lastRetrain key now
          pending := s.pending ++ [⟨.retrain, tenantID, "", metricName⟩] },
        [published, .retrainTriggered tenantID metricName])
    else
      (s, [published])

/-- Add to a set. -/
def insertNew {α : Type} [DecidableEq α] (a : α) (l : List α) : List α :=
  if a ∈ l then l else l ++ [a]

/-- Count a point; every so many points ask for a detection. -/
def bufferAdd (cfg : Config) (tenantID : TenantID) (agentID : AgentID) (metricName : MetricName)
    (s : State N) : State N :=
  let key := (tenantID, agentID, metricName)
  let count := s.counts key + 1
  let s := { s with knownMetrics := insertNew (tenantID, metricName) s.knownMetrics }
  if cfg.anomalyMinPoints ≤ count then
    { s with
      counts := Function.update s.counts key 0
      pending := s.pending ++ [⟨.anomalyDetection, tenantID, agentID, metricName⟩] }
  else
    { s with counts := Function.update s.counts key count }

/-- Register a metric for periodic retrain checks. -/
def addMetric (tenantID : TenantID) (metricName : MetricName) (s : State N) : State N :=
  { s with watchedMetrics := insertNew (tenantID, metricName) s.watchedMetrics }

/-- Process a single consumed metric message. -/
def onMetric (cfg : Config) (msg : Body N) (now : Int) (outcome : StoreOutcome) (s : State N) :
    State N × List (Output N) :=
  match msg.value.get N.zero, msg.timestamp.get now with
  | some value, some timestamp =>
    let tenantID := resolveTenant msg
    let s := storeMetric tenantID msg.agentID msg.metricName timestamp value outcome s
    let (s, outputs) := if cfg.driftEnabled
      then checkDrift cfg tenantID msg.agentID msg.metricName value timestamp now s else (s, [])
    let s := if cfg.anomalyEnabled then bufferAdd cfg tenantID msg.agentID msg.metricName s else s
    let s := if cfg.retrainEnabled then addMetric tenantID msg.metricName s else s
    (s, outputs)
  | _, _ => (s, [])

/-! ## Anomaly detection -/

/-- Use the entry of a cache, made new if there is none; what the use changes stays in the cache,
if the entry is still there. -/
def useCache {τ β : Type} (limit : ℕ) (made : τ) (use : τ → τ × β) (key : TenantID × MetricName)
    (cache : Cache τ) : Cache τ × β :=
  let (cache, row) := cache.fetch limit (key, made)
  let (entry, result) := use row.2
  (cache.replace (key, entry), result)

/-- Run the full detection. -/
def detectSync (cfg : Config) (tenantID : TenantID) (metricName : MetricName)
    (points : List (Int × N.Value)) (s : State N) : State N × List N.Anomaly :=
  let points := N.sanitizeSeries points
  let n := points.length
  let key := (tenantID, metricName)
  let (statistical, statResults) := useCache cfg.maxDetectorsPerCache N.newStatistical
    (N.detectStatistical · points) key s.statistical
  let s := { s with statistical }
  let (forests, ifResults) := if cfg.forestMinPoints ≤ n
    then useCache cfg.maxDetectorsPerCache N.newForest (N.useForest · points) key s.forests
    else (s.forests, [])
  let s := { s with forests }
  let (autoencoders, aeResults) := if cfg.autoencoderMinPoints ≤ n
    then useCache cfg.maxDetectorsPerCache N.newAutoencoder (N.useAutoencoder · points) key
      s.autoencoders
    else (s.autoencoders, [])
  ({ s with autoencoders }, N.combine statResults ifResults aeResults n)

/-- How a read from Dragonfly ends: answered, empty after an error, or raised. -/
inductive ReadOutcome
  | read
  | empty
  | raised
deriving DecidableEq

/-- What a job meets: the time, Dragonfly and the model directory. -/
structure JobEnv where
  now : Int
  read : ReadOutcome := .read
  save : SaveOutcome := .saved
deriving DecidableEq

/-- The points of the window, or those of the fallback if there are too few. -/
def detectionWindow (cfg : Config) (job : Job) (env : JobEnv) (s : State N) :
    Option (List (Int × N.Value)) :=
  let points := match env.read with
    | .read => some (N.window (s.dragonfly (metricKey job.metricName job.agentID job.tenantID))
        (env.now - cfg.anomalyWindowMinutes * 60))
    | .empty => some []
    | .raised => none
  points.map (fun points =>
    let fallback := s.fallbackBuffer (job.tenantID, job.agentID, job.metricName)
    if points.length < 3 ∧ fallback ≠ [] then fallback else points)

/-- Run anomaly detection on a recent window of data. -/
def runAnomalyDetection (cfg : Config) (job : Job) (env : JobEnv) (s : State N) :
    State N × List (Output N) :=
  match detectionWindow cfg job env s with
  | none => (s, [])
  | some points =>
    if points.length < 3 then
      (s, [])
    else
      let (s, anomalies) := detectSync cfg job.tenantID job.metricName points s
      if anomalies.isEmpty then
        (s, [])
      else
        (s, [.anomalies job.tenantID job.agentID job.metricName anomalies])

/-! ## Forecasting -/

variable (N) in
/-- What QuestDB has of a metric of a tenant at a time, of one agent or, with an empty id, of all;
a query may fail. -/
abbrev History := TenantID → MetricName → AgentID → Int → Option (List (Int × N.Value))

/-- The name the ensembles are stored under. -/
def ensembleModel : String := "ensemble_state"

/-- Get or create the cached ensemble of a tenant and metric. A new one starts from the state on
disk, if there is one. -/
def getEnsemble (cfg : Config) (tenantID : TenantID) (metricName : MetricName) (s : State N) :
    State N × List (Output N) × N.Ensemble :=
  let persisted := load s.models ensembleModel metricName
  let made := match persisted with
    | some state => N.setState N.newEnsemble state
    | none => N.newEnsemble
  let loaded := if s.ensembles.HasKey (tenantID, metricName) then []
    else persisted.toList.map (Output.stateLoaded tenantID metricName)
  let (ensembles, row) := s.ensembles.fetch cfg.maxEnsembles ((tenantID, metricName), made)
  ({ s with ensembles }, loaded, row.2)

/-- Predict, with an ensemble whose cached entry keeps what prediction changes. -/
def predictWith (cfg : Config) (tenantID : TenantID) (metricName : MetricName) (now : Int)
    (ensemble : N.Ensemble) (s : State N) : State N × Option N.Forecast :=
  let (ensemble, response) :=
    N.predict ensemble cfg.forecastHorizonSeconds cfg.forecastStepSeconds now
  ({ s with ensembles := s.ensembles.replace ((tenantID, metricName), ensemble) }, response)

/-- Persist the state of a fitted ensemble to disk. -/
def persistState (metricName : MetricName) (ensemble : N.Ensemble) (outcome : SaveOutcome)
    (s : State N) : State N :=
  { s with models := save s.models ensembleModel metricName (N.getState ensemble) outcome }

/-- Forecast a metric, after fitting its ensemble if it is not fitted. Without a response the
call raised. -/
def forecastSync (cfg : Config) (history : History N) (job : Job) (env : JobEnv) (s : State N) :
    State N × List (Output N) × Option N.Forecast :=
  let (s, loaded, ensemble) := getEnsemble cfg job.tenantID job.metricName s
  if N.isFitted ensemble then
    let (s, response) := predictWith cfg job.tenantID job.metricName env.now ensemble s
    (s, loaded, response)
  else
    match history job.tenantID job.metricName job.agentID env.now with
    | none => (s, loaded, none)
    | some points =>
      let points := N.sanitizeSeries points
      if points.length < 3 then
        (s, loaded, some N.noForecast)
      else
        let ensemble := N.fitAll ensemble points env.now
        let s := persistState job.metricName ensemble env.save s
        let (s, response) := predictWith cfg job.tenantID job.metricName env.now ensemble s
        (s, loaded, response)

/-- Generate a forecast for a single metric and publish it. -/
def runForecast (cfg : Config) (history : History N) (job : Job) (env : JobEnv) (s : State N) :
    State N × List (Output N) :=
  match forecastSync cfg history job env s with
  | (s, loaded, none) => (s, loaded)
  | (s, loaded, some response) =>
    ({ s with
        lastForecast := Function.update s.lastForecast (job.tenantID, job.metricName) env.now },
      loaded ++ [.forecast job.tenantID job.agentID job.metricName response])

/-- Retrain the forecasting model of a tenant and metric. -/
def doRetrain (cfg : Config) (history : History N) (job : Job) (env : JobEnv) (s : State N) :
    State N × List (Output N) :=
  let (s, loaded, _) := forecastSync cfg history job env s
  (s, loaded)

/-! ## The system -/

variable (N) in
/-- What happens to the pipeline. -/
inductive Event
  /-- A record is consumed. -/
  | message (rec : Record N) (now : Int) (outcome : StoreOutcome)
  /-- The drain thread looks for forecasts that are due. -/
  | sweep (now : Int)
  /-- The retrain scheduler goes through its metrics. -/
  | retrainCheck
  /-- A waiting job is worked off. -/
  | work (job : Job) (env : JobEnv)
  /-- The process is restarted over the same model directory. -/
  | restart

/-- Work a job off. -/
def Job.run (cfg : Config) (history : History N) (job : Job) (env : JobEnv) (s : State N) :
    State N × List (Output N) :=
  match job.task with
  | .anomalyDetection => runAnomalyDetection cfg job env s
  | .forecast => runForecast cfg history job env s
  | .retrain => doRetrain cfg history job env s

/-- The forecasts that are due. -/
def dueForecasts (cfg : Config) (now : Int) (s : State N) : List Job :=
  if cfg.forecastEnabled then
    (s.knownMetrics.filter
      (fun key => cfg.forecastIntervalSeconds ≤ now - s.lastForecast key)).map
        (fun key => ⟨.forecast, key.1, "", key.2⟩)
  else []

/-- What an event does. -/
def step (cfg : Config) (history : History N) (s : State N) : Event N → State N × List (Output N)
  | .message rec now outcome => onMetric cfg (consume rec) now outcome s
  | .sweep now => ({ s with pending := s.pending ++ dueForecasts cfg now s }, [])
  | .retrainCheck =>
    ({ s with pending := s.pending ++
        s.watchedMetrics.map (fun key => ⟨.retrain, key.1, "", key.2⟩) }, [])
  | .work job env =>
    if job ∈ s.pending then
      job.run cfg history env { s with pending := s.pending.erase job }
    else (s, [])
  | .restart => (.start s.dragonfly s.models, [])

/-- The pipeline as a machine. -/
def machine (cfg : Config) (history : History N) : Lib.Machine (State N) (Event N) (Output N) where
  step := step cfg history

end Paryty.Intelligence

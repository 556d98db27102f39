import Mathlib.Algebra.Order.Ring.Int
import Mathlib.Data.List.Infix
import Mathlib.Data.Int.Notation
import Mathlib.Order.Basic
import Paryty.Lib.Table

/-!
# Snapshots in cold storage

`SnapshotManager` of `cluster/internal/storage/cold/snapshot.go`, for one tenant: every key, row
and event names its tenant, so tenants do not meet.

* `History` is what is stored: the snapshot objects, their metadata rows, the events, and the
  cache by ID. An object and a cached copy hold a snapshot with the ID they are stored under; the
  operations that store something keep this. A statement fails if a table lacks one of its columns,
  as it does with `warmSchema`.
* `getSnapshot` reads the cache, then looks for the object under the dates of the retention
  period.
* `reconstructState` takes the newest snapshot that is not after the target. If it is older than
  the snapshot interval and there are events since, it replays them on a copy, and the copy gets
  an ID of its own.

Times are in nanoseconds. A call sees one history and one reading of the clock.
-/

namespace Paryty.Timeline

abbrev Time := ℤ

/-! ## Data -/

/-- `models.TopologyNode`. -/
structure TopologyNode where
  id : String
  name : String
  type : String
deriving DecidableEq

/-- `models.TopologyEdge`. -/
structure TopologyEdge where
  id : String
  sourceID : String
  targetID : String
  type : String
deriving DecidableEq

/-- `models.Topology`. -/
structure Topology where
  nodes : List TopologyNode
  edges : List TopologyEdge
deriving DecidableEq

/-- `models.AgentInfo`, the fields the replay sets. -/
structure AgentInfo where
  id : String
  hostname : String
  ipAddress : String
  os : String
  status : String
  registeredAt : Time
  labels : List (String × String)
deriving DecidableEq

/-- `models.Alert`, the fields the replay sets. -/
structure Alert where
  id : String
  name : String
  description : String
  severity : String
  status : String
  source : String
  agentID : String
  labels : List (String × String)
  startsAt : Time
  updatedAt : Time
deriving DecidableEq

/-- `models.Event`. -/
structure Event where
  id : String
  agentID : String
  source : String
  category : String
  severity : String
  title : String
  description : String
  labels : List (String × String)
  timestamp : Time
deriving DecidableEq

/-- A label of an event, empty if it is not set. -/
def Event.label (ev : Event) (name : String) : String := (ev.labels.lookup name).getD ""

/-- `MetricSummary`, with the CPU's `TotalUsagePct` and the memory's `UsagePercent`. -/
structure MetricSummary (F : Type*) where
  agentID : String
  cpu : Option F
  memory : Option F

/-- `SnapshotMetadata`. -/
structure SnapshotMetadata where
  agentCount : ℕ
  metricCount : ℕ
  alertCount : ℕ
  createdAt : Time

/-- The summaries of a snapshot, by agent ID. -/
abbrev Metrics (F : Type*) := Lib.Table (String × MetricSummary F) String Prod.fst

/-- `Snapshot`. The percentages are of type `F`. -/
structure Snapshot (F : Type*) where
  id : String
  timestamp : Time
  topology : Option Topology
  agents : List AgentInfo
  metrics : Metrics F
  alerts : List Alert
  metadata : SnapshotMetadata

variable {F : Type*}

/-! ## What is stored -/

/-- The key of an object, `snapshots/<tenant>/<date>/<id><suffix>`. Dates are numbered. -/
structure ObjectKey where
  date : ℤ
  id : String
  /-- The suffix is `.json.zst`, not `.json`. -/
  compressed : Bool
deriving DecidableEq

/-- What an object turns out to be. -/
inductive Object (F : Type*)
  | snapshot (snap : Snapshot F)
  /-- It cannot be read, or not decompressed. -/
  | unreadable
  /-- It is no JSON of a snapshot. -/
  | malformed

/-- What is stored for a tenant. -/
structure History (F : Type*) where
  objects : ObjectKey → Option (Object F)
  /-- The columns of the tables in QuestDB, none for a table that is not there. -/
  tables : String → List String
  /-- `topology_snapshots`: the ID and the time of each row. -/
  rows : List (String × Time)
  /-- The row that the database sends of some, for the newest one. -/
  newest : List (String × Time) → Option (String × Time)
  events : List Event
  /-- `paryty:<tenant>:snapshot:<id>`. -/
  cache : String → Option (Snapshot F)
  object_id : ∀ key snap, objects key = some (.snapshot snap) → snap.id = key.id
  cache_id : ∀ id snap, cache id = some snap → snap.id = id
  newest_spec : ∀ rows row, newest rows = some row → row ∈ rows ∧ ∀ row' ∈ rows, row'.2 ≤ row.2
  newest_none : ∀ rows, newest rows = none → rows = []

/-- The columns of the `INSERT` of `recordSnapshotMetadata`. -/
def metadataColumns : List String :=
  ["snapshot_id", "tenant_id", "timestamp", "agent_count", "metric_count", "alert_count",
    "size_bytes", "compressed"]

/-- The columns in the query of `queryEventsBetween`. -/
def eventColumns : List String :=
  ["id", "agent_id", "source", "category", "severity", "title", "description", "timestamp",
    "tenant_id"]

/-- The tables of `warm/schema.go`, as far as they have a name that is used here. -/
def warmSchema (table : String) : List String :=
  if table = "topology_snapshots" then
    ["timestamp", "snapshot_id", "tenant_id", "node_count", "edge_count", "snapshot_data",
      "is_checkpoint"]
  else []

/-- The configuration of the manager. -/
structure Config where
  interval : Time := 5 * 60 * 10 ^ 9
  retentionDays : ℕ := 7
  compression : Bool := true
  /-- The date of a time, `2006/01/02`, in the time zone of the process. -/
  date : Time → ℤ
  /-- There is a Dragonfly. -/
  dragonfly : Bool := true
  /-- There is a QuestDB. -/
  questdb : Bool := true

/-- The errors of the manager. -/
inductive SnapshotError
  | questdbNotConfigured
  /-- No metadata row is at or before the target. -/
  | noRows
  /-- `ErrSnapshotNotFound`. -/
  | snapshotNotFound
  | unmarshal
deriving DecidableEq

namespace History

/-- The table has the columns of a statement. -/
def accepts (h : History F) (table : String) (columns : List String) : Bool :=
  columns.all (· ∈ h.tables table)

/-- `cacheSnapshotByID`. -/
def cacheSnapshotByID (cfg : Config) (h : History F) (snap : Snapshot F) : History F :=
  if cfg.dragonfly then
    { h with
      cache := Function.update h.cache snap.id (some snap)
      cache_id := by
        intro id snap' hcached
        rw [Function.update_apply] at hcached
        split at hcached
        case isTrue heq =>
          obtain rfl := Option.some.inj hcached
          exact heq.symm
        case isFalse => exact h.cache_id id snap' hcached }
  else h

/-- `TakeSnapshot`, from the upload on: `assembled` is what the hot store gave, `recorded` says
whether the connection lets the metadata row be written. -/
def takeSnapshot (cfg : Config) (h : History F) (now : Time) (snapshotID : String)
    (assembled : Snapshot F) (recorded : Bool) : History F :=
  let snap := { assembled with id := snapshotID, timestamp := now }
  { h with
    objects := Function.update h.objects ⟨cfg.date now, snapshotID, cfg.compression⟩
      (some (.snapshot snap))
    rows :=
      if recorded && h.accepts "topology_snapshots" metadataColumns then
        h.rows ++ [(snapshotID, now)]
      else h.rows
    object_id := by
      intro key snap' hobject
      rw [Function.update_apply] at hobject
      split at hobject
      case isTrue heq =>
        obtain rfl := Object.snapshot.inj (Option.some.inj hobject)
        exact heq ▸ rfl
      case isFalse => exact h.object_id key snap' hobject }

/-! ## Reading a snapshot -/

/-- The keys `fetchSnapshotFromCold` tries, newest date first. -/
def coldKeys (cfg : Config) (now : Time) (id : String) : List ObjectKey :=
  (List.range (cfg.retentionDays + 1)).flatMap fun d =>
    [⟨cfg.date now - d, id, true⟩, ⟨cfg.date now - d, id, false⟩]

/-- The first object that can be read decides. -/
def fetchFirst (h : History F) : List ObjectKey → Except SnapshotError (Snapshot F)
  | [] => .error .snapshotNotFound
  | key :: keys =>
    match h.objects key with
    | some (.snapshot snap) => .ok snap
    | some .malformed => .error .unmarshal
    | some .unreadable => h.fetchFirst keys
    | none => h.fetchFirst keys

/-- `fetchSnapshotFromCold`. -/
def fetchSnapshotFromCold (cfg : Config) (h : History F) (now : Time) (id : String) :
    Except SnapshotError (Snapshot F) :=
  h.fetchFirst (coldKeys cfg now id)

/-- `getCachedSnapshot`. -/
def getCachedSnapshot (cfg : Config) (h : History F) (id : String) : Option (Snapshot F) :=
  if cfg.dragonfly then h.cache id else none

/-- `GetSnapshot`. What it finds in cold storage goes to the cache. -/
def getSnapshot (cfg : Config) (h : History F) (now : Time) (id : String) :
    Except SnapshotError (Snapshot F × History F) :=
  match h.getCachedSnapshot cfg id with
  | some snap => .ok (snap, h)
  | none =>
    match h.fetchSnapshotFromCold cfg now id with
    | .ok snap => .ok (snap, h.cacheSnapshotByID cfg snap)
    | .error e => .error e

/-! ## Queries -/

/-- `queryNearestSnapshotID`: a newest row that is not after the target. -/
def queryNearestSnapshotID (h : History F) (target : Time) : Option (String × Time) :=
  h.newest (h.rows.filter fun row => row.2 ≤ target)

/-- `queryEventsBetween`, `none` if the query fails. It does not select the labels. -/
def queryEventsBetween (h : History F) (start target : Time) : Option (List Event) :=
  if h.accepts "events" eventColumns then
    some (((h.events.filter (fun ev => start < ev.timestamp ∧ ev.timestamp ≤ target)).mergeSort
      (fun ev ev' => ev.timestamp ≤ ev'.timestamp)).map fun ev => { ev with labels := [] })
  else none

/-- `GetNearestSnapshot`. -/
def getNearestSnapshot (cfg : Config) (h : History F) (now target : Time) :
    Except SnapshotError (Snapshot F × History F) :=
  if cfg.questdb then
    match h.queryNearestSnapshotID target with
    | some (id, _) => h.getSnapshot cfg now id
    | none => .error .noRows
  else .error .questdbNotConfigured

end History

/-! ## Event replay -/

/-- `strings.Contains`. -/
def contains (s substr : String) : Bool := decide (substr.toList <:+: s.toList)

namespace Snapshot

/-- `replayAgentAdded`. -/
def replayAgentAdded (snap : Snapshot F) (ev : Event) : Snapshot F :=
  let aid := if ev.agentID = "" then ev.label "agent_id" else ev.agentID
  if aid = "" ∨ snap.agents.any (fun a => a.id = aid) then snap
  else
    let agents := snap.agents ++ [{
      id := aid
      hostname := ev.label "hostname"
      ipAddress := ev.label "ip_address"
      os := ev.label "os"
      status := "online"
      registeredAt := ev.timestamp
      labels := ev.labels }]
    { snap with agents, metadata := { snap.metadata with agentCount := agents.length } }

/-- `replayAgentRemoved`. -/
def replayAgentRemoved (snap : Snapshot F) (ev : Event) : Snapshot F :=
  let aid := if ev.agentID = "" then ev.label "agent_id" else ev.agentID
  if snap.agents.any (fun a => a.id = aid) then
    let agents := snap.agents.eraseP (fun a => a.id = aid)
    let metrics := snap.metrics.erase aid
    { snap with
      agents
      metrics
      metadata := { snap.metadata with
        agentCount := agents.length
        metricCount := metrics.rows.length } }
  else snap

/-- `replayAlertFromEvent`. -/
def replayAlertFromEvent (snap : Snapshot F) (ev : Event) : Snapshot F :=
  let alerts := snap.alerts ++ [{
    id := ev.id
    name := ev.title
    description := ev.description
    severity := ev.severity
    status := "firing"
    source := ev.source
    agentID := ev.agentID
    labels := ev.labels
    startsAt := ev.timestamp
    updatedAt := ev.timestamp }]
  { snap with alerts, metadata := { snap.metadata with alertCount := alerts.length } }

/-- The body of the loop of `replayEvents`. -/
def replayEvent (snap : Snapshot F) (ev : Event) : Snapshot F :=
  if ev.category = "deployment" ∧ contains ev.title "agent registered" then
    snap.replayAgentAdded ev
  else if ev.category = "deployment" ∧ contains ev.title "agent deregistered" then
    snap.replayAgentRemoved ev
  else if ev.severity = "critical" ∨ ev.severity = "error" then snap.replayAlertFromEvent ev
  else snap

/-- `replayEvents`: the copy of the base gets the target's time and the new ID. -/
def replayEvents (base : Snapshot F) (events : List Event) (target : Time) (uuid : String) :
    Snapshot F :=
  let r := (events.takeWhile (fun ev => ev.timestamp ≤ target)).foldl replayEvent
    { base with timestamp := target }
  { r with id := uuid, metadata := { r.metadata with createdAt := target } }

end Snapshot

/-! ## Reconstruction -/

namespace History

/-- The rest of `ReconstructState`, once the base is loaded. -/
def reconstructFrom (cfg : Config) (h : History F) (base : Snapshot F) (target : Time)
    (uuid : String) : Snapshot F :=
  if target - base.timestamp ≤ cfg.interval then base
  else
    match h.queryEventsBetween base.timestamp target with
    | none => base
    | some [] => base
    | some (ev :: events) => base.replayEvents (ev :: events) target uuid

/-- `ReconstructState`. `uuid` is the ID that `uuid.New` gives a replayed snapshot. -/
def reconstructState (cfg : Config) (h : History F) (now target : Time) (uuid : String) :
    Except SnapshotError (Snapshot F × History F) :=
  match h.getNearestSnapshot cfg now target with
  | .ok (base, h') => .ok (h'.reconstructFrom cfg base target uuid, h')
  | .error e => .error e

end History

end Paryty.Timeline

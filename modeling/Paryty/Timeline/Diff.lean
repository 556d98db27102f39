import Mathlib.Algebra.Order.Ring.Rat
import Mathlib.Data.List.MinMax
import Paryty.Timeline.Snapshot

/-!
# The diff between two times

`DiffCalculator.CalculateDiff` of `cluster/internal/timeline/diff_calculator.go`, over
`SnapshotManager.DiffSnapshots` of `snapshot_manager.go`. Go's maps are tables; a diff list is in
the order of the table, where Go's is in no order.

* `diffStates` is what `DiffSnapshots` does with the two snapshots it has read,
  `SnapshotDiff.Reports` what a diff of two states is: `reports_diffStates_iff` says that the one is
  the other unless a metric has the same value in both.
* `calculateDiff` reconstructs the states, keeps their IDs only, and reads the snapshots with
  these IDs again.
* `agrees_iff`: the report is the diff of the reconstructed states exactly when the times are in
  order, neither state was replayed, and no metric stayed the same.
-/

namespace Paryty.Timeline

/-! ## Definitions -/

/-- `MetricDelta`. -/
structure MetricDelta (F : Type*) where
  name : String
  fromVal : F
  toVal : F
  change : F
  changePct : F

/-- `SnapshotDiff`. -/
structure SnapshotDiff (F : Type*) where
  fromSnapshotID : String
  toSnapshotID : String
  fromTimestamp : Time
  toTimestamp : Time
  nodesAdded : List TopologyNode
  nodesRemoved : List TopologyNode
  edgesAdded : List TopologyEdge
  edgesRemoved : List TopologyEdge
  metricDeltas : List (MetricDelta F)
  alertsAdded : List Alert
  alertsResolved : List Alert

/-- `DiffReport`. -/
structure DiffReport (F : Type*) where
  fromTime : Time
  toTime : Time
  diff : SnapshotDiff F

/-- The errors of `CalculateDiff`. -/
inductive DiffError
  | fromAfterTo
  | getSnapshotFor (time : Time) (e : SnapshotError)
  | getFromSnapshot (e : SnapshotError)
  | getToSnapshot (e : SnapshotError)

section Definitions

variable {F : Type*} [Sub F] [Mul F] [Div F] [BEq F] [OfNat F 0] [OfNat F 100]

namespace Snapshot

/-- The nodes of a snapshot. -/
def nodes (snap : Snapshot F) : List TopologyNode := (snap.topology.map Topology.nodes).getD []

/-- The edges of a snapshot. -/
def edges (snap : Snapshot F) : List TopologyEdge := (snap.topology.map Topology.edges).getD []

/-- The metrics of one agent that `aggregateSnapshotMetrics` picks. -/
def agentMetrics (agentID : String) (summary : MetricSummary F) : List (String × F) :=
  (summary.cpu.map fun value => (agentID ++ ".cpu.usage_percent", value)).toList ++
    (summary.memory.map fun value => (agentID ++ ".memory.usage_percent", value)).toList

end Snapshot

/-- `nodeSet`. -/
def nodeSet (snap : Snapshot F) : Lib.Table TopologyNode String TopologyNode.id :=
  .ofList snap.nodes

/-- `edgeSet`. -/
def edgeSet (snap : Snapshot F) : Lib.Table TopologyEdge String TopologyEdge.id :=
  .ofList snap.edges

/-- `alertSet`. -/
def alertSet (snap : Snapshot F) : Lib.Table Alert String Alert.id := .ofList snap.alerts

/-- `aggregateSnapshotMetrics`. -/
def aggregateSnapshotMetrics (snap : Snapshot F) : Lib.Table (String × F) String Prod.fst :=
  .ofList (snap.metrics.rows.flatMap fun entry => Snapshot.agentMetrics entry.1 entry.2)

/-- The delta of one metric. -/
def metricDelta (name : String) (fromVal toVal : F) : MetricDelta F where
  name
  fromVal
  toVal
  change := toVal - fromVal
  changePct := if fromVal != 0 then (toVal - fromVal) / fromVal * 100 else 0

/-- `computeMetricDeltas`. -/
def computeMetricDeltas (fromSnap toSnap : Snapshot F) : List (MetricDelta F) :=
  (aggregateSnapshotMetrics fromSnap).rows.filterMap fun metric =>
    ((aggregateSnapshotMetrics toSnap).find? metric.1).map fun found =>
      metricDelta metric.1 metric.2 found.2

/-- The comparison in `DiffSnapshots`, under the IDs it was asked for. -/
def diffStates (fromID toID : String) (fromSnap toSnap : Snapshot F) : SnapshotDiff F where
  fromSnapshotID := fromID
  toSnapshotID := toID
  fromTimestamp := fromSnap.timestamp
  toTimestamp := toSnap.timestamp
  nodesAdded := (nodeSet fromSnap).added (nodeSet toSnap)
  nodesRemoved := (nodeSet toSnap).added (nodeSet fromSnap)
  edgesAdded := (edgeSet fromSnap).added (edgeSet toSnap)
  edgesRemoved := (edgeSet toSnap).added (edgeSet fromSnap)
  metricDeltas := computeMetricDeltas fromSnap toSnap
  alertsAdded := (alertSet fromSnap).added (alertSet toSnap)
  alertsResolved := (alertSet toSnap).added (alertSet fromSnap)

/-- `DiffSnapshots`. -/
def diffSnapshots (cfg : Config) (h : History F) (now : Time) (fromID toID : String) :
    Except DiffError (SnapshotDiff F × History F) :=
  match h.getSnapshot cfg now fromID with
  | .error e => .error (.getFromSnapshot e)
  | .ok (fromSnap, h) =>
    match h.getSnapshot cfg now toID with
    | .error e => .error (.getToSnapshot e)
    | .ok (toSnap, h) => .ok (diffStates fromID toID fromSnap toSnap, h)

/-- `CalculateDiff`. Each of the two reconstructions has its own `uuid.New`. -/
def calculateDiff (cfg : Config) (h : History F) (now fromTime toTime : Time)
    (fromUUID toUUID : String) : Except DiffError (DiffReport F × History F) :=
  if fromTime > toTime then .error .fromAfterTo
  else
    match h.reconstructState cfg now fromTime fromUUID with
    | .error e => .error (.getSnapshotFor fromTime e)
    | .ok (fromSnap, h) =>
      match h.reconstructState cfg now toTime toUUID with
      | .error e => .error (.getSnapshotFor toTime e)
      | .ok (toSnap, h) =>
        match diffSnapshots cfg h now fromSnap.id toSnap.id with
        | .error e => .error e
        | .ok (diff, h) => .ok (⟨fromTime, toTime, diff⟩, h)

/-! ## The difference of two states -/

/-- The state has the metric, with this value: an agent's CPU or memory usage. -/
def Snapshot.Tracks (snap : Snapshot F) (name : String) (value : F) : Prop :=
  ∃ agentID summary, (agentID, summary) ∈ snap.metrics ∧
    (name, value) ∈ Snapshot.agentMetrics agentID summary

/-- The list has exactly the entries of the new state whose ID the old state does not have, each
once. Of entries with one ID the state has the latest. -/
structure Lists {ρ : Type*} (key : ρ → String) (old new listed : List ρ) : Prop where
  nodup : listed.Nodup
  mem : ∀ r, r ∈ listed ↔ Lib.Table.LatestIn key new r ∧ ∀ r' ∈ old, key r' ≠ key r

/-- The diff is the difference between the two states: what was added and removed, and the
metrics whose value changed. -/
structure SnapshotDiff.Reports (diff : SnapshotDiff F) (a b : Snapshot F) : Prop where
  ids : diff.fromSnapshotID = a.id ∧ diff.toSnapshotID = b.id
  times : diff.fromTimestamp = a.timestamp ∧ diff.toTimestamp = b.timestamp
  nodesAdded : Lists TopologyNode.id a.nodes b.nodes diff.nodesAdded
  nodesRemoved : Lists TopologyNode.id b.nodes a.nodes diff.nodesRemoved
  edgesAdded : Lists TopologyEdge.id a.edges b.edges diff.edgesAdded
  edgesRemoved : Lists TopologyEdge.id b.edges a.edges diff.edgesRemoved
  metricDeltas : ∀ δ, δ ∈ diff.metricDeltas ↔ ∃ name fromVal toVal, a.Tracks name fromVal ∧
    b.Tracks name toVal ∧ (fromVal == toVal) = false ∧ δ = metricDelta name fromVal toVal
  alertsAdded : Lists Alert.id a.alerts b.alerts diff.alertsAdded
  alertsResolved : Lists Alert.id b.alerts a.alerts diff.alertsResolved

/-- `CalculateDiff` agrees with the reconstruction: if `ReconstructState` succeeds at both times,
it succeeds too, and reports the difference between the two states. -/
def Agrees (cfg : Config) (h : History F) (now fromTime toTime : Time)
    (fromUUID toUUID : String) : Prop :=
  ∀ a b ha hb, h.reconstructState cfg now fromTime fromUUID = .ok (a, ha) →
    h.reconstructState cfg now toTime toUUID = .ok (b, hb) →
    ∃ report h', calculateDiff cfg h now fromTime toTime fromUUID toUUID = .ok (report, h') ∧
      report.fromTime = fromTime ∧ report.toTime = toTime ∧ report.diff.Reports a b

end Definitions

/-! ## Comparing two states -/

section Comparing

variable {F : Type*}

lemma lists_added {ρ : Type*} {key : ρ → String} (old new : List ρ) :
    Lists key old new (Lib.Table.added (.ofList old : Lib.Table ρ String key) (.ofList new)) := by
  constructor
  · exact Lib.Table.nodup_added _ _
  · intro r
    rw [Lib.Table.mem_added, Lib.Table.mem_ofList, Lib.Table.hasKey_ofList]
    simp

lemma cpu_ne_memory (agentID agentID' : String) :
    agentID ++ ".cpu.usage_percent" ≠ agentID' ++ ".memory.usage_percent" := by
  intro h
  have hchar := congrArg (fun s : String => s.toList.reverse[14]?) h
  simp at hchar

lemma name_injective {suffix : String} {agentID agentID' : String}
    (h : agentID ++ suffix = agentID' ++ suffix) : agentID = agentID' := by
  have hlist := congrArg String.toList h
  rw [String.toList_append, String.toList_append] at hlist
  exact String.toList_inj.mp (List.append_cancel_right hlist)

lemma mem_names {agentID name : String} {summary : MetricSummary F}
    (h : name ∈ (Snapshot.agentMetrics agentID summary).map Prod.fst) :
    name = agentID ++ ".cpu.usage_percent" ∨ name = agentID ++ ".memory.usage_percent" := by
  obtain ⟨metric, hmetric, rfl⟩ := List.mem_map.mp h
  rcases List.mem_append.mp hmetric with hcpu | hmemory
  · obtain ⟨value, -, rfl⟩ := Option.map_eq_some_iff.mp (Option.mem_toList.mp hcpu)
    exact .inl rfl
  · obtain ⟨value, -, rfl⟩ := Option.map_eq_some_iff.mp (Option.mem_toList.mp hmemory)
    exact .inr rfl

lemma nodup_names (snap : Snapshot F) : ((snap.metrics.rows.flatMap fun entry =>
    Snapshot.agentMetrics entry.1 entry.2).map Prod.fst).Nodup := by
  rw [List.map_flatMap, List.nodup_flatMap]
  constructor
  · rintro ⟨agentID, _, cpu, memory⟩ -
    cases cpu <;> cases memory <;> simp [Snapshot.agentMetrics]
  · refine (List.pairwise_map.mp snap.metrics.nodup).imp fun {entry entry'} hne name h h' => hne ?_
    rcases mem_names h with rfl | rfl
    · rcases mem_names h' with heq | heq
      · exact name_injective heq
      · exact absurd heq (cpu_ne_memory _ _)
    · rcases mem_names h' with heq | heq
      · exact absurd heq.symm (cpu_ne_memory _ _)
      · exact name_injective heq

lemma mem_aggregateSnapshotMetrics {snap : Snapshot F} {name : String} {value : F} :
    (name, value) ∈ aggregateSnapshotMetrics snap ↔ snap.Tracks name value := by
  rw [aggregateSnapshotMetrics, Lib.Table.mem_ofList,
    Lib.Table.latestIn_iff_of_nodup (nodup_names snap), List.mem_flatMap]
  exact Prod.exists

variable [Sub F] [Mul F] [Div F] [BEq F] [OfNat F 0] [OfNat F 100]

/-- `computeMetricDeltas` has a delta for every metric that both states have. -/
lemma mem_computeMetricDeltas {a b : Snapshot F} {δ : MetricDelta F} :
    δ ∈ computeMetricDeltas a b ↔ ∃ name fromVal toVal, a.Tracks name fromVal ∧
      b.Tracks name toVal ∧ δ = metricDelta name fromVal toVal := by
  rw [computeMetricDeltas, List.mem_filterMap]
  constructor
  · rintro ⟨⟨name, fromVal⟩, hfrom, hδ⟩
    obtain ⟨⟨name', toVal⟩, hto, rfl⟩ := Option.map_eq_some_iff.mp hδ
    obtain ⟨hmem, rfl⟩ := Lib.Table.find?_eq_some.mp hto
    exact ⟨name', fromVal, toVal, mem_aggregateSnapshotMetrics.mp hfrom,
      mem_aggregateSnapshotMetrics.mp hmem, rfl⟩
  · rintro ⟨name, fromVal, toVal, hfrom, hto, rfl⟩
    refine ⟨(name, fromVal), mem_aggregateSnapshotMetrics.mpr hfrom, ?_⟩
    rw [Lib.Table.find?_eq_some.mpr ⟨mem_aggregateSnapshotMetrics.mpr hto, rfl⟩, Option.map_some]

/-- No metric has the same value in both states. -/
def AllChanged (a b : Snapshot F) : Prop :=
  ∀ name fromVal toVal, a.Tracks name fromVal → b.Tracks name toVal → (fromVal == toVal) = false

/-- The comparison reports the difference, if every metric changed: one that did not is listed
all the same. -/
theorem reports_diffStates_iff (a b : Snapshot F) :
    (diffStates a.id b.id a b).Reports a b ↔ AllChanged a b := by
  constructor
  · intro h name fromVal toVal hfrom hto
    obtain ⟨name', fromVal', toVal', -, -, hchanged, heq⟩ :=
      (h.metricDeltas (metricDelta name fromVal toVal)).mp
        (mem_computeMetricDeltas.mpr ⟨name, fromVal, toVal, hfrom, hto, rfl⟩)
    obtain ⟨-, rfl, rfl, -⟩ := MetricDelta.mk.inj heq
    exact hchanged
  · intro h
    refine ⟨⟨rfl, rfl⟩, ⟨rfl, rfl⟩, lists_added _ _, lists_added _ _, lists_added _ _,
      lists_added _ _, fun δ => ?_, lists_added _ _, lists_added _ _⟩
    rw [show (diffStates a.id b.id a b).metricDeltas = computeMetricDeltas a b from rfl,
      mem_computeMetricDeltas]
    constructor
    · rintro ⟨name, fromVal, toVal, hfrom, hto, rfl⟩
      exact ⟨name, fromVal, toVal, hfrom, hto, h name fromVal toVal hfrom hto, rfl⟩
    · rintro ⟨name, fromVal, toVal, hfrom, hto, -, rfl⟩
      exact ⟨name, fromVal, toVal, hfrom, hto, rfl⟩

end Comparing

/-! ## Reading the same history again -/

section Reading

variable {F : Type*} {cfg : Config} {h h' h'' : History F} {now : Time}

namespace History

/-- What `GetSnapshot` returns. -/
def load (cfg : Config) (h : History F) (now : Time) (id : String) :
    Except SnapshotError (Snapshot F) :=
  match h.getCachedSnapshot cfg id with
  | some snap => .ok snap
  | none => h.fetchSnapshotFromCold cfg now id

lemma fetchFirst_congr (hobjects : h'.objects = h.objects) (keys : List ObjectKey) :
    h'.fetchFirst keys = h.fetchFirst keys := by
  induction keys with
  | nil => rfl
  | cons key keys ih => rw [fetchFirst, fetchFirst, hobjects, ih]

lemma id_of_fetchFirst {keys : List ObjectKey} {id : String} {snap : Snapshot F}
    (hkeys : ∀ key ∈ keys, key.id = id) (hfetch : h.fetchFirst keys = .ok snap) :
    snap.id = id := by
  induction keys with
  | nil => cases hfetch
  | cons key keys ih =>
    have hrest : ∀ key ∈ keys, key.id = id := fun key hkey => hkeys key (List.mem_cons_of_mem _ hkey)
    rw [fetchFirst] at hfetch
    split at hfetch
    case h_1 hobject =>
      cases hfetch
      rw [h.object_id key snap hobject, hkeys key List.mem_cons_self]
    case h_2 => cases hfetch
    case h_3 => exact ih hrest hfetch
    case h_4 => exact ih hrest hfetch

lemma id_of_mem_coldKeys {id : String} {key : ObjectKey} (hkey : key ∈ coldKeys cfg now id) :
    key.id = id := by
  obtain ⟨d, -, hkey⟩ := List.mem_flatMap.mp hkey
  rcases List.mem_pair.mp hkey with rfl | rfl
  · rfl
  · rfl

lemma id_of_load {id : String} {snap : Snapshot F} (hload : h.load cfg now id = .ok snap) :
    snap.id = id := by
  unfold load at hload
  split at hload
  case h_1 snap' hcached =>
    cases hload
    unfold getCachedSnapshot at hcached
    split at hcached
    case isTrue => exact h.cache_id id snap hcached
    case isFalse => cases hcached
  case h_2 => exact id_of_fetchFirst (fun key hkey => id_of_mem_coldKeys hkey) hload

/-- The second history is the first, with more of it in the cache. -/
structure Warmer (cfg : Config) (now : Time) (h h' : History F) : Prop where
  tables : h'.tables = h.tables
  rows : h'.rows = h.rows
  newest : h'.newest = h.newest
  events : h'.events = h.events
  load : ∀ id, h'.load cfg now id = h.load cfg now id

lemma Warmer.refl : Warmer cfg now h h := ⟨rfl, rfl, rfl, rfl, fun _ => rfl⟩

lemma Warmer.trans (first : Warmer cfg now h h') (second : Warmer cfg now h' h'') :
    Warmer cfg now h h'' :=
  ⟨second.tables.trans first.tables, second.rows.trans first.rows,
    second.newest.trans first.newest, second.events.trans first.events,
    fun id => (second.load id).trans (first.load id)⟩

lemma warmer_cacheSnapshotByID {snap : Snapshot F} (hload : h.load cfg now snap.id = .ok snap) :
    Warmer cfg now h (h.cacheSnapshotByID cfg snap) := by
  unfold cacheSnapshotByID
  split
  case isFalse => exact .refl
  case isTrue hdragonfly =>
    refine ⟨rfl, rfl, rfl, rfl, fun id => ?_⟩
    by_cases hid : id = snap.id
    · subst hid
      rw [hload]
      simp [load, getCachedSnapshot, hdragonfly]
    · simp only [load, getCachedSnapshot, hdragonfly, if_true, Function.update_of_ne hid,
        fetchSnapshotFromCold]
      cases h.cache id with
      | some snap' => rfl
      | none => exact fetchFirst_congr (by rfl) _

/-- `GetSnapshot` in terms of what it returns. -/
lemma getSnapshot_of_ok {id : String} {snap : Snapshot F} (hload : h.load cfg now id = .ok snap) :
    ∃ h', h.getSnapshot cfg now id = .ok (snap, h') ∧ Warmer cfg now h h' := by
  have hid := id_of_load hload
  have hread := hload
  unfold load at hread
  unfold getSnapshot
  cases hcached : h.getCachedSnapshot cfg id with
  | some cached =>
    rw [hcached] at hread
    cases hread
    exact ⟨h, rfl, .refl⟩
  | none =>
    rw [hcached] at hread
    dsimp only at hread ⊢
    rw [hread]
    exact ⟨h.cacheSnapshotByID cfg snap, rfl, warmer_cacheSnapshotByID (hid ▸ hload)⟩

lemma getSnapshot_of_error {id : String} {e : SnapshotError}
    (hload : h.load cfg now id = .error e) : h.getSnapshot cfg now id = .error e := by
  unfold load at hload
  unfold getSnapshot
  cases hcached : h.getCachedSnapshot cfg id with
  | some cached =>
    rw [hcached] at hload
    cases hload
  | none =>
    rw [hcached] at hload
    dsimp only at hload ⊢
    rw [hload]

lemma load_of_getSnapshot {id : String} {snap : Snapshot F}
    (hget : h.getSnapshot cfg now id = .ok (snap, h')) : h.load cfg now id = .ok snap := by
  cases hload : h.load cfg now id with
  | error e =>
    rw [getSnapshot_of_error hload] at hget
    cases hget
  | ok snap' =>
    obtain ⟨h₁, hok, -⟩ := getSnapshot_of_ok hload
    rw [hget] at hok
    obtain ⟨rfl, -⟩ := Prod.mk.inj (Except.ok.inj hok)
    rfl

/-- `GetNearestSnapshot` finds the same in a warmer history. -/
lemma Warmer.getNearestSnapshot (hwarm : Warmer cfg now h h') {target : Time} {base : Snapshot F}
    (hbase : h.getNearestSnapshot cfg now target = .ok (base, h'')) :
    ∃ h₁, h'.getNearestSnapshot cfg now target = .ok (base, h₁) ∧ Warmer cfg now h h₁ := by
  unfold History.getNearestSnapshot queryNearestSnapshotID at hbase ⊢
  rw [hwarm.rows, hwarm.newest]
  split at hbase
  case isFalse => cases hbase
  case isTrue hquestdb =>
    rw [if_pos hquestdb]
    split at hbase
    case h_2 => cases hbase
    case h_1 id _ hrow =>
      have hload := load_of_getSnapshot hbase
      rw [← hwarm.load] at hload
      obtain ⟨h₁, hget, hwarm₁⟩ := getSnapshot_of_ok hload
      exact ⟨h₁, hget, hwarm.trans hwarm₁⟩

/-- What `GetNearestSnapshot` returns can be read under its ID. -/
lemma load_of_getNearestSnapshot {target : Time} {base : Snapshot F}
    (hbase : h.getNearestSnapshot cfg now target = .ok (base, h')) :
    h.load cfg now base.id = .ok base ∧ Warmer cfg now h h' := by
  have hnearest := hbase
  unfold History.getNearestSnapshot at hnearest
  split at hnearest
  case isFalse => cases hnearest
  case isTrue =>
    split at hnearest
    case h_2 => cases hnearest
    case h_1 id _ _ =>
      have hload := load_of_getSnapshot hnearest
      obtain ⟨h₁, hget, hwarm⟩ := getSnapshot_of_ok hload
      rw [hnearest] at hget
      obtain ⟨-, rfl⟩ := Prod.mk.inj (Except.ok.inj hget)
      exact ⟨(id_of_load hload).symm ▸ hload, hwarm⟩

/-- The events since the base are replayed: it is too old, and there are some. -/
def Replayed (cfg : Config) (h : History F) (base : Snapshot F) (target : Time) : Prop :=
  cfg.interval < target - base.timestamp ∧
    ∃ ev events, h.queryEventsBetween base.timestamp target = some (ev :: events)

lemma Warmer.reconstructFrom (hwarm : Warmer cfg now h h') (base : Snapshot F) (target : Time)
    (uuid : String) :
    h'.reconstructFrom cfg base target uuid = h.reconstructFrom cfg base target uuid := by
  unfold History.reconstructFrom queryEventsBetween accepts
  rw [hwarm.events, hwarm.tables]

lemma reconstructFrom_of_not_replayed {base : Snapshot F} {target : Time} {uuid : String}
    (hreplayed : ¬ Replayed cfg h base target) :
    h.reconstructFrom cfg base target uuid = base := by
  unfold reconstructFrom
  split
  case isTrue => rfl
  case isFalse hold =>
    split
    case h_1 => rfl
    case h_2 => rfl
    case h_3 ev events hevents => exact absurd ⟨not_le.mp hold, ev, events, hevents⟩ hreplayed

lemma id_reconstructFrom {base : Snapshot F} {target : Time} {uuid : String}
    (hreplayed : Replayed cfg h base target) :
    (h.reconstructFrom cfg base target uuid).id = uuid := by
  obtain ⟨hold, ev, events, hevents⟩ := hreplayed
  unfold reconstructFrom
  rw [if_neg (not_le.mpr hold), hevents]
  rfl

/-- `ReconstructState` loads a base and goes on from there. -/
lemma reconstructState_eq_ok {target : Time} {uuid : String} {snap : Snapshot F} :
    h.reconstructState cfg now target uuid = .ok (snap, h') ↔
      ∃ base, h.getNearestSnapshot cfg now target = .ok (base, h') ∧
        snap = h.reconstructFrom cfg base target uuid := by
  unfold reconstructState
  split
  case h_1 base h₁ hbase =>
    have hwarm := (load_of_getNearestSnapshot hbase).2
    rw [hwarm.reconstructFrom]
    constructor
    · intro hok
      obtain ⟨rfl, rfl⟩ := Prod.mk.inj (Except.ok.inj hok)
      exact ⟨base, hbase, rfl⟩
    · rintro ⟨base', hbase', rfl⟩
      rw [hbase] at hbase'
      obtain ⟨rfl, rfl⟩ := Prod.mk.inj (Except.ok.inj hbase')
      rfl
  case h_2 e hbase =>
    rw [hbase]
    simp

/-- No snapshot is stored under the ID, as `uuid.New` promises of the IDs it gives. -/
structure Fresh (h : History F) (uuid : String) : Prop where
  objects : ∀ key, key.id = uuid → h.objects key = none
  cache : h.cache uuid = none

lemma Fresh.load {uuid : String} (hfresh : h.Fresh uuid) :
    h.load cfg now uuid = .error .snapshotNotFound := by
  have hcached : h.getCachedSnapshot cfg uuid = none := by
    unfold getCachedSnapshot
    rw [hfresh.cache, ite_self]
  have hfetch (keys : List ObjectKey) (hkeys : ∀ key ∈ keys, key.id = uuid) :
      h.fetchFirst keys = .error .snapshotNotFound := by
    induction keys with
    | nil => rfl
    | cons key keys ih =>
      rw [fetchFirst, hfresh.objects key (hkeys key List.mem_cons_self)]
      exact ih fun key' hkey' => hkeys key' (List.mem_cons_of_mem _ hkey')
  rw [History.load, hcached]
  exact hfetch _ fun key hkey => id_of_mem_coldKeys hkey

end History

end Reading

/-! ## When the report agrees -/

section Agrees

variable {F : Type*} [Sub F] [Mul F] [Div F] [BEq F] [OfNat F 0] [OfNat F 100] {cfg : Config}
  {h h' : History F} {now fromTime toTime : Time} {fromUUID toUUID : String}

open History

/-- `DiffSnapshots` compares what is stored under the two IDs. -/
lemma diffSnapshots_of_ok {fromID toID : String} {fromSnap toSnap : Snapshot F}
    (hfrom : h.load cfg now fromID = .ok fromSnap) (hto : h.load cfg now toID = .ok toSnap) :
    ∃ h', diffSnapshots cfg h now fromID toID =
      .ok (diffStates fromID toID fromSnap toSnap, h') := by
  obtain ⟨h₁, hget₁, hwarm⟩ := getSnapshot_of_ok hfrom
  obtain ⟨h₂, hget₂, -⟩ := getSnapshot_of_ok ((hwarm.load toID).trans hto)
  exact ⟨h₂, by rw [diffSnapshots, hget₁]; simp only [hget₂]⟩

lemma diffSnapshots_ne_ok {fromID toID : String} {e : SnapshotError}
    (herror : h.load cfg now fromID = .error e ∨ h.load cfg now toID = .error e)
    (result : SnapshotDiff F × History F) : diffSnapshots cfg h now fromID toID ≠ .ok result := by
  unfold diffSnapshots
  cases hfrom : h.load cfg now fromID with
  | error e' =>
    rw [getSnapshot_of_error hfrom]
    simp
  | ok fromSnap =>
    obtain ⟨h₁, hget, hwarm⟩ := getSnapshot_of_ok hfrom
    have hto : h₁.load cfg now toID = .error e := by
      rw [hwarm.load]
      exact herror.resolve_left (by simp [hfrom])
    rw [hget]
    simp [getSnapshot_of_error hto]

/-- `CalculateDiff` in terms of the two bases. -/
lemma calculateDiff_eq (fromUUID toUUID : String) {a b : Snapshot F} {ha hb : History F}
    (hfrom : h.getNearestSnapshot cfg now fromTime = .ok (a, ha))
    (hto : h.getNearestSnapshot cfg now toTime = .ok (b, hb)) (hle : fromTime ≤ toTime) :
    ∃ h', Warmer cfg now h h' ∧
      calculateDiff cfg h now fromTime toTime fromUUID toUUID =
        match diffSnapshots cfg h' now (h.reconstructFrom cfg a fromTime fromUUID).id
          (h.reconstructFrom cfg b toTime toUUID).id with
        | .error e => .error e
        | .ok (diff, h'') => .ok (⟨fromTime, toTime, diff⟩, h'') := by
  have hwarm := (load_of_getNearestSnapshot hfrom).2
  obtain ⟨h', hto', hwarm'⟩ := hwarm.getNearestSnapshot hto
  refine ⟨h', hwarm', ?_⟩
  rw [calculateDiff, if_neg (not_lt.mpr hle),
    reconstructState_eq_ok.mpr ⟨a, hfrom, rfl⟩]
  simp only [reconstructState_eq_ok.mpr ⟨b, hto', rfl⟩, hwarm.reconstructFrom]

lemma le_of_calculateDiff {result : DiffReport F × History F}
    (hok : calculateDiff cfg h now fromTime toTime fromUUID toUUID = .ok result) :
    fromTime ≤ toTime := by
  by_contra hlt
  rw [calculateDiff, if_pos (not_le.mp hlt)] at hok
  cases hok

/-- A report was made of stored snapshots: a replayed state has an ID under which `DiffSnapshots`
finds nothing. -/
lemma not_replayed_of_calculateDiff (hfrom : h.Fresh fromUUID) (hto : h.Fresh toUUID)
    {a b : Snapshot F} {ha hb : History F}
    (hbaseA : h.getNearestSnapshot cfg now fromTime = .ok (a, ha))
    (hbaseB : h.getNearestSnapshot cfg now toTime = .ok (b, hb)) {result : DiffReport F × History F}
    (hok : calculateDiff cfg h now fromTime toTime fromUUID toUUID = .ok result) :
    ¬ Replayed cfg h a fromTime ∧ ¬ Replayed cfg h b toTime := by
  obtain ⟨h₁, hwarm, heq⟩ := calculateDiff_eq fromUUID toUUID hbaseA hbaseB
    (le_of_calculateDiff hok)
  rw [heq] at hok
  split at hok
  case h_1 => cases hok
  case h_2 diff h'' hdiff =>
    constructor
    · intro hreplayed
      have hload : h₁.load cfg now (h.reconstructFrom cfg a fromTime fromUUID).id =
          .error .snapshotNotFound := by rw [id_reconstructFrom hreplayed, hwarm.load, hfrom.load]
      exact diffSnapshots_ne_ok (.inl hload) _ hdiff
    · intro hreplayed
      have hload : h₁.load cfg now (h.reconstructFrom cfg b toTime toUUID).id =
          .error .snapshotNotFound := by rw [id_reconstructFrom hreplayed, hwarm.load, hto.load]
      exact diffSnapshots_ne_ok (.inr hload) _ hdiff

lemma calculateDiff_of_not_replayed {a b : Snapshot F} {ha hb : History F}
    (hbaseA : h.getNearestSnapshot cfg now fromTime = .ok (a, ha))
    (hbaseB : h.getNearestSnapshot cfg now toTime = .ok (b, hb)) (hle : fromTime ≤ toTime)
    (hnotA : ¬ Replayed cfg h a fromTime) (hnotB : ¬ Replayed cfg h b toTime) :
    ∃ h', calculateDiff cfg h now fromTime toTime fromUUID toUUID =
      .ok (⟨fromTime, toTime, diffStates a.id b.id a b⟩, h') := by
  obtain ⟨h₁, hwarm, heq⟩ := calculateDiff_eq fromUUID toUUID hbaseA hbaseB hle
  rw [reconstructFrom_of_not_replayed hnotA, reconstructFrom_of_not_replayed hnotB] at heq
  obtain ⟨h₂, hdiff⟩ := diffSnapshots_of_ok
    ((hwarm.load _).trans (load_of_getNearestSnapshot hbaseA).1)
    ((hwarm.load _).trans (load_of_getNearestSnapshot hbaseB).1)
  exact ⟨h₂, by rw [heq, hdiff]⟩

/-- What a call needs for its report to agree: the times are in order, both states are stored
snapshots, and no metric has the same value in both. -/
def Comparable (cfg : Config) (h : History F) (now fromTime toTime : Time) : Prop :=
  ∀ a b ha hb, h.getNearestSnapshot cfg now fromTime = .ok (a, ha) →
    h.getNearestSnapshot cfg now toTime = .ok (b, hb) →
    fromTime ≤ toTime ∧ ¬ Replayed cfg h a fromTime ∧ ¬ Replayed cfg h b toTime ∧ AllChanged a b

/-- **The diff agrees with reconstruction**, and when. For every history and all times, if
`uuid.New` gives IDs under which nothing is stored, `CalculateDiff` succeeds where
`ReconstructState` does and reports the difference between the two states, if and only if the
times are in order, no events are replayed for either, and every metric of both states changed. -/
theorem agrees_iff (hfrom : h.Fresh fromUUID) (hto : h.Fresh toUUID) :
    Agrees cfg h now fromTime toTime fromUUID toUUID ↔ Comparable cfg h now fromTime toTime := by
  constructor
  · intro hagrees a b ha hb hbaseA hbaseB
    obtain ⟨report, h', hok, -, -, hreports⟩ := hagrees _ _ ha hb
      (reconstructState_eq_ok.mpr ⟨a, hbaseA, rfl⟩) (reconstructState_eq_ok.mpr ⟨b, hbaseB, rfl⟩)
    have hle := le_of_calculateDiff hok
    obtain ⟨hnotA, hnotB⟩ := not_replayed_of_calculateDiff hfrom hto hbaseA hbaseB hok
    refine ⟨hle, hnotA, hnotB, ?_⟩
    obtain ⟨h₂, hstored⟩ := calculateDiff_of_not_replayed hbaseA hbaseB hle hnotA hnotB
    rw [hstored] at hok
    obtain ⟨rfl, -⟩ := Prod.mk.inj (Except.ok.inj hok)
    rw [reconstructFrom_of_not_replayed hnotA, reconstructFrom_of_not_replayed hnotB] at hreports
    exact (reports_diffStates_iff a b).mp hreports
  · intro hcomparable a' b' ha hb hokA hokB
    obtain ⟨a, hbaseA, rfl⟩ := reconstructState_eq_ok.mp hokA
    obtain ⟨b, hbaseB, rfl⟩ := reconstructState_eq_ok.mp hokB
    obtain ⟨hle, hnotA, hnotB, hchanged⟩ := hcomparable a b ha hb hbaseA hbaseB
    obtain ⟨h₂, hstored⟩ := calculateDiff_of_not_replayed hbaseA hbaseB hle hnotA hnotB
    rw [reconstructFrom_of_not_replayed hnotA, reconstructFrom_of_not_replayed hnotB]
    exact ⟨_, h₂, hstored, rfl, rfl, (reports_diffStates_iff a b).mpr hchanged⟩

end Agrees

/-! ### Two histories -/

/-- A manager without a cache, whose days have 24 hours. -/
def plain : Config := { date := fun now => now / (86400 * 10 ^ 9), dragonfly := false }

/-- The first of the newest rows. -/
def newestRow (rows : List (String × Time)) : Option (String × Time) :=
  -- The order of `ℤ` is named, so that its instance is the computable one.
  @List.argmax _ ℤ Int.instLinearOrder.toPartialOrder.toPreorder Int.decLt Prod.snd rows

lemma newestRow_spec {rows : List (String × Time)} {row : String × Time}
    (h : newestRow rows = some row) : row ∈ rows ∧ ∀ row' ∈ rows, row'.2 ≤ row.2 :=
  ⟨List.argmax_mem h, fun _ hrow' => List.le_of_mem_argmax hrow' h⟩

lemma newestRow_none {rows : List (String × Time)} (h : newestRow rows = none) : rows = [] :=
  List.argmax_eq_none.mp h

/-- A snapshot of a topology and of the CPU usage of one agent. -/
def oneAgent (id : String) (time : Time) (nodes : List TopologyNode) (cpu : ℚ) : Snapshot ℚ :=
  ⟨id, time, some ⟨nodes, []⟩, [], .ofList [("web-1", ⟨"web-1", some cpu, none⟩)], [], ⟨0, 1, 0, time⟩⟩

/-- Snapshots taken on the first day. The rows are of events that were recorded at their times and
under their IDs: the tables have no columns for the metadata. -/
def firstDay (snaps : List (Snapshot ℚ)) : History ℚ where
  tables := warmSchema
  objects key :=
    if key.date = 0 ∧ key.compressed then
      (snaps.find? (fun snap => snap.id = key.id)).map .snapshot
    else none
  rows := snaps.map fun snap => (snap.id, snap.timestamp)
  newest := newestRow
  events := []
  cache := fun _ => none
  object_id := by
    intro key snap hobject
    split at hobject
    case isTrue =>
      obtain ⟨snap', hfind, heq⟩ := Option.map_eq_some_iff.mp hobject
      obtain rfl := Object.snapshot.inj heq
      simpa using List.find?_some hfind
    case isFalse => cases hobject
  cache_id := by
    intro id snap hcached
    cases hcached
  newest_spec := fun _ _ => newestRow_spec
  newest_none := fun _ => newestRow_none

lemma fresh_firstDay {snaps : List (Snapshot ℚ)} {uuid : String}
    (h : ∀ snap ∈ snaps, snap.id ≠ uuid) : (firstDay snaps).Fresh uuid := by
  refine ⟨fun key hkey => ?_, rfl⟩
  have hnone : snaps.find? (fun snap => snap.id = uuid) = none := by
    simpa [List.find?_eq_none] using h
  simp [firstDay, hkey, hnone]

/-- A node came between two snapshots, and the CPU usage rose. -/
def oneNode : History ℚ :=
  firstDay [oneAgent "s1" 0 [] 40, oneAgent "s2" 60 [⟨"n", "node", "host"⟩] 50]

lemma tracks_oneAgent {id name : String} {time : Time} {nodes : List TopologyNode} {cpu value : ℚ} :
    (oneAgent id time nodes cpu).Tracks name value ↔
      name = "web-1.cpu.usage_percent" ∧ value = cpu := by
  have hmem (entry : String × MetricSummary ℚ) :
      entry ∈ (oneAgent id time nodes cpu).metrics ↔ entry = ("web-1", ⟨"web-1", some cpu, none⟩) :=
    List.mem_singleton
  constructor
  · rintro ⟨agentID, summary, hentry, hmetric⟩
    obtain ⟨rfl, rfl⟩ := Prod.mk.inj ((hmem _).mp hentry)
    exact Prod.mk.inj (List.mem_singleton.mp hmetric)
  · rintro ⟨rfl, rfl⟩
    exact ⟨_, _, (hmem _).mpr rfl, List.mem_singleton_self _⟩

/-- The new node is reported. -/
theorem agrees_oneNode : Agrees plain oneNode 60 0 60 "u1" "u2" := by
  refine (agrees_iff (fresh_firstDay (by decide)) (fresh_firstDay (by decide))).mpr ?_
  intro a b ha hb hbaseA hbaseB
  have hfirst : oneNode.getNearestSnapshot plain 60 0 = .ok (oneAgent "s1" 0 [] 40, oneNode) := rfl
  have hsecond : oneNode.getNearestSnapshot plain 60 60 =
    .ok (oneAgent "s2" 60 [⟨"n", "node", "host"⟩] 50, oneNode) := rfl
  obtain ⟨rfl, -⟩ := Prod.mk.inj (Except.ok.inj (hfirst.symm.trans hbaseA))
  obtain ⟨rfl, -⟩ := Prod.mk.inj (Except.ok.inj (hsecond.symm.trans hbaseB))
  refine ⟨by decide, fun h => absurd h.1 (by decide), fun h => absurd h.1 (by decide),
    fun name fromVal toVal hfrom hto => ?_⟩
  obtain ⟨-, rfl⟩ := tracks_oneAgent.mp hfrom
  obtain ⟨-, rfl⟩ := tracks_oneAgent.mp hto
  decide

/-- A history with one snapshot. -/
def oneSnap : History ℚ := firstDay [oneAgent "s1" 0 [] 40]

/-- The snapshot is the state at both times, and its CPU usage is in the report. -/
theorem unchanged_reported : ¬ Agrees plain oneSnap 60 0 60 "u1" "u2" := by
  intro hagrees
  have hfrom : oneSnap.reconstructState plain 60 0 "u1" = .ok (oneAgent "s1" 0 [] 40, oneSnap) := rfl
  have hto : oneSnap.reconstructState plain 60 60 "u2" = .ok (oneAgent "s1" 0 [] 40, oneSnap) := rfl
  have hcall : calculateDiff plain oneSnap 60 0 60 "u1" "u2" =
      .ok (⟨0, 60, diffStates "s1" "s1" (oneAgent "s1" 0 [] 40) (oneAgent "s1" 0 [] 40)⟩, oneSnap) :=
    rfl
  obtain ⟨report, h', hok, -, -, hreports⟩ := hagrees _ _ _ _ hfrom hto
  rw [hcall] at hok
  obtain ⟨rfl, -⟩ := Prod.mk.inj (Except.ok.inj hok)
  have hchanged := (reports_diffStates_iff _ _).mp hreports "web-1.cpu.usage_percent" 40 40
    (tracks_oneAgent.mpr ⟨rfl, rfl⟩) (tracks_oneAgent.mpr ⟨rfl, rfl⟩)
  exact absurd hchanged (by decide)

end Paryty.Timeline

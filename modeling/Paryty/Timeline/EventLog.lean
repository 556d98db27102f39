import Paryty.Timeline.Diff

/-!
# The event log and reconstruction

`cluster/internal/storage/cold/eventlog.go`: topology events are rows of `topology_snapshots`, the
table that has the metadata rows of the snapshots too, and `ReplayEvents` applies them to a
snapshot.

* `Stored` is the history of a tenant, with the snapshots that were taken and the events that were
  recorded.
* `Reconstructs`: the latest snapshot at or before a time, with the events recorded since.
* `reconstructs_iff`: when `ReconstructState` gives that.
* `lost_node`: a recorded event hides the snapshot before it.
-/

namespace Paryty.Timeline

variable {F : Type*}

/-! ## Data -/

/-- The type of an event with its payload. -/
inductive Payload (F : Type*)
  | nodeAdded (node : TopologyNode)
  | nodeRemoved (nodeID : String)
  | edgeAdded (edge : TopologyEdge)
  | edgeRemoved (edgeID : String)
  | metricUpdated (agentID : String) (summary : MetricSummary F)
  | alertFired (alert : Alert)
  | alertResolved (alertID : String)
  /-- The type is unknown, or the payload is empty or not of the type. -/
  | invalid

/-- `EventLogEntry`. -/
structure EventLogEntry (F : Type*) where
  id : String
  timestamp : Time
  agentID : String
  payload : Payload F

namespace EventLog

/-- Remove the first element of which `p` holds, if there is one. -/
def removeFirst {α : Type*} (p : α → Bool) (l : List α) : Option (List α) :=
  if l.any p then some (l.eraseP p) else none

/-- `applyEvent`, `none` for an error. -/
def applyEvent (s : Snapshot F) (entry : EventLogEntry F) : Option (Snapshot F) :=
  let topology := s.topology.getD ⟨[], []⟩
  match entry.payload with
  | .nodeAdded node =>
    some { s with topology := some { topology with nodes := topology.nodes ++ [node] } }
  | .nodeRemoved nodeID =>
    (removeFirst (fun node => node.id = nodeID) topology.nodes).map fun nodes =>
      { s with topology := some { topology with nodes } }
  | .edgeAdded edge =>
    some { s with topology := some { topology with edges := topology.edges ++ [edge] } }
  | .edgeRemoved edgeID =>
    (removeFirst (fun edge => edge.id = edgeID) topology.edges).map fun edges =>
      { s with topology := some { topology with edges } }
  | .metricUpdated agentID summary => some { s with metrics := s.metrics.put (agentID, summary) }
  | .alertFired alert => some { s with alerts := s.alerts ++ [alert] }
  | .alertResolved alertID =>
    (removeFirst (fun alert => alert.id = alertID) s.alerts).map fun alerts => { s with alerts }
  | .invalid => none

/-- `deepCopySnapshot`: the copy has a topology. -/
def deepCopySnapshot (s : Snapshot F) : Snapshot F :=
  { s with topology := some (s.topology.getD ⟨[], []⟩) }

/-- `ReplayEvents`, `none` for an error. -/
def replayEvents (snapshot : Snapshot F) (events : List (EventLogEntry F)) : Option (Snapshot F) :=
  events.foldlM applyEvent (deepCopySnapshot snapshot)

/-- `QueryEvents`, on the recorded events. -/
def queryEvents (log : List (EventLogEntry F)) (start target : Time) : List (EventLogEntry F) :=
  (log.filter (fun entry => start ≤ entry.timestamp ∧ entry.timestamp ≤ target)).mergeSort
    (fun entry entry' => entry.timestamp ≤ entry'.timestamp)

/-- What events leave as it is: the ID and the metadata. A topology stays one. -/
structure Frame (s s' : Snapshot F) : Prop where
  id : s'.id = s.id
  metadata : s'.metadata = s.metadata
  topology : s.topology.isSome → s'.topology.isSome

lemma Frame.trans {s s' s'' : Snapshot F} (first : Frame s s') (second : Frame s' s'') :
    Frame s s'' where
  id := second.id.trans first.id
  metadata := second.metadata.trans first.metadata
  topology := fun h => second.topology (first.topology h)

lemma frame_applyEvent {s s' : Snapshot F} {entry : EventLogEntry F}
    (h : applyEvent s entry = some s') : Frame s s' := by
  unfold applyEvent at h
  split at h
  case h_2 =>
    obtain ⟨nodes, -, rfl⟩ := Option.map_eq_some_iff.mp h
    exact ⟨rfl, rfl, fun _ => rfl⟩
  case h_4 =>
    obtain ⟨edges, -, rfl⟩ := Option.map_eq_some_iff.mp h
    exact ⟨rfl, rfl, fun _ => rfl⟩
  case h_7 =>
    obtain ⟨alerts, -, rfl⟩ := Option.map_eq_some_iff.mp h
    exact ⟨rfl, rfl, fun htopology => htopology⟩
  case h_8 => cases h
  -- Nothing is looked up for what is added.
  all_goals
    cases h
    first
      | exact ⟨rfl, rfl, fun _ => rfl⟩
      | exact ⟨rfl, rfl, fun htopology => htopology⟩

lemma frame_foldlM_applyEvent {s s' : Snapshot F} {events : List (EventLogEntry F)}
    (h : events.foldlM applyEvent s = some s') : Frame s s' := by
  induction events generalizing s with
  | nil =>
    cases h
    exact ⟨rfl, rfl, fun htopology => htopology⟩
  | cons entry events ih =>
    rw [List.foldlM_cons] at h
    obtain ⟨s₁, hfirst, hrest⟩ := Option.bind_eq_some_iff.mp h
    exact (frame_applyEvent hfirst).trans (ih hrest)

lemma id_replayEvents {s s' : Snapshot F} {events : List (EventLogEntry F)}
    (h : replayEvents s events = some s') : s'.id = s.id :=
  (frame_foldlM_applyEvent (s := deepCopySnapshot s) h).id

end EventLog

open EventLog

/-! ## Histories -/

/-- What is stored for a tenant, the snapshots that were taken, and the events that were
recorded. -/
structure Stored (F : Type*) where
  history : History F
  taken : List (Snapshot F)
  log : List (EventLogEntry F)
  /-- A row is of a snapshot or of an event. -/
  row_of : ∀ row ∈ history.rows, (∃ snap ∈ taken, row = (snap.id, snap.timestamp)) ∨
    ∃ entry ∈ log, row = (entry.id, entry.timestamp)
  row_of_entry : ∀ entry ∈ log, (entry.id, entry.timestamp) ∈ history.rows
  object_taken : ∀ key snap, history.objects key = some (.snapshot snap) → snap ∈ taken
  cache_taken : ∀ id snap, history.cache id = some snap → snap ∈ taken
  /-- IDs are not used twice. -/
  distinct : (taken.map Snapshot.id).Nodup
  apart : ∀ snap ∈ taken, ∀ entry ∈ log, snap.id ≠ entry.id

namespace Stored

/-- Nothing has the ID, as `uuid.New` promises of the IDs it gives. -/
def Unused (s : Stored F) (uuid : String) : Prop :=
  (∀ snap ∈ s.taken, snap.id ≠ uuid) ∧ ∀ entry ∈ s.log, entry.id ≠ uuid

/-- `TakeSnapshot`. -/
def takeSnapshot (cfg : Config) (s : Stored F) (now : Time) (snapshotID : String)
    (assembled : Snapshot F) (recorded : Bool) (hnew : s.Unused snapshotID) : Stored F where
  history := s.history.takeSnapshot cfg now snapshotID assembled recorded
  taken := s.taken ++ [{ assembled with id := snapshotID, timestamp := now }]
  log := s.log
  row_of := by
    intro row hrow
    have hcases : row ∈ s.history.rows ∨ row = (snapshotID, now) := by
      unfold History.takeSnapshot at hrow
      dsimp only at hrow
      split at hrow
      case isTrue => exact (List.mem_append.mp hrow).imp_right List.mem_singleton.mp
      case isFalse => exact .inl hrow
    rcases hcases with hmem | rfl
    · rcases s.row_of row hmem with ⟨snap, hsnap, heq⟩ | hentry
      · exact .inl ⟨snap, List.mem_append_left _ hsnap, heq⟩
      · exact .inr hentry
    · exact .inl ⟨_, List.mem_append_right _ (List.mem_singleton_self _), rfl⟩
  row_of_entry := by
    intro entry hentry
    have hold := s.row_of_entry entry hentry
    unfold History.takeSnapshot
    dsimp only
    split
    · exact List.mem_append_left _ hold
    · exact hold
  object_taken := by
    intro key snap hobject
    unfold History.takeSnapshot at hobject
    dsimp only at hobject
    rw [Function.update_apply] at hobject
    split at hobject
    case isTrue =>
      obtain rfl := Object.snapshot.inj (Option.some.inj hobject)
      exact List.mem_append_right _ (List.mem_singleton_self _)
    case isFalse => exact List.mem_append_left _ (s.object_taken key snap hobject)
  cache_taken := fun id snap hcached => List.mem_append_left _ (s.cache_taken id snap hcached)
  distinct := by
    rw [List.map_append, List.nodup_append]
    refine ⟨s.distinct, List.nodup_singleton _, ?_⟩
    rintro id hid id' hid' rfl
    obtain ⟨snap, hsnap, rfl⟩ := List.mem_map.mp hid
    exact hnew.1 snap hsnap (List.mem_singleton.mp hid')
  apart := by
    intro snap hsnap entry hentry
    rcases List.mem_append.mp hsnap with hold | hlast
    · exact s.apart snap hold entry hentry
    · obtain rfl := List.mem_singleton.mp hlast
      exact (hnew.2 entry hentry).symm

/-- `RecordEvent`: the entry gets a row in the table of the snapshots. -/
def recordEvent (s : Stored F) (entry : EventLogEntry F)
    (hnew : ∀ snap ∈ s.taken, snap.id ≠ entry.id) : Stored F where
  history := { s.history with rows := s.history.rows ++ [(entry.id, entry.timestamp)] }
  taken := s.taken
  log := s.log ++ [entry]
  row_of := by
    intro row hrow
    rcases List.mem_append.mp hrow with hmem | hmem
    · exact (s.row_of row hmem).imp_right
        fun ⟨entry, hentry, heq⟩ => ⟨entry, List.mem_append_left _ hentry, heq⟩
    · exact .inr ⟨entry, List.mem_append_right _ (List.mem_singleton_self _),
        List.mem_singleton.mp hmem⟩
  row_of_entry := by
    intro entry' hentry
    rcases List.mem_append.mp hentry with hold | hlast
    · exact List.mem_append_left _ (s.row_of_entry entry' hold)
    · obtain rfl := List.mem_singleton.mp hlast
      exact List.mem_append_right _ (List.mem_singleton_self _)
  object_taken := s.object_taken
  cache_taken := s.cache_taken
  distinct := s.distinct
  apart := by
    intro snap hsnap entry' hentry
    rcases List.mem_append.mp hentry with hold | hlast
    · exact s.apart snap hsnap entry' hold
    · obtain rfl := List.mem_singleton.mp hlast
      exact hnew snap hsnap

/-! ## Reconstruction -/

/-- The latest snapshot taken at or before the time. -/
structure Latest (s : Stored F) (target : Time) (base : Snapshot F) : Prop where
  taken : base ∈ s.taken
  le : base.timestamp ≤ target
  last : ∀ snap ∈ s.taken, snap.timestamp ≤ target → snap.timestamp ≤ base.timestamp

/-- The events recorded after the snapshot and not after the time, in order. -/
def since (s : Stored F) (base : Snapshot F) (target : Time) : List (EventLogEntry F) :=
  (queryEvents s.log base.timestamp target).filter fun entry => base.timestamp < entry.timestamp

/-- If a snapshot was taken at or before the target, `ReconstructState` gives the latest one with
the events since. -/
def Reconstructs (cfg : Config) (s : Stored F) (now target : Time) (uuid : String) : Prop :=
  (∃ snap ∈ s.taken, snap.timestamp ≤ target) → ∃ base, s.Latest target base ∧ ∃ snap h',
    s.history.reconstructState cfg now target uuid = .ok (snap, h') ∧
      replayEvents base (s.since base target) = some (deepCopySnapshot snap)

/-- The newest row at or before the target is that of the latest snapshot, the snapshot can be read,
and no rows of the events table are replayed on it. -/
def Plain (cfg : Config) (s : Stored F) (now target : Time) : Prop :=
  (∃ snap ∈ s.taken, snap.timestamp ≤ target) → ∃ base, s.Latest target base ∧
    cfg.questdb = true ∧
      s.history.queryNearestSnapshotID target = some (base.id, base.timestamp) ∧
        s.history.load cfg now base.id = .ok base ∧ ¬ s.history.Replayed cfg base target

variable {s : Stored F} {cfg : Config} {now target : Time} {uuid : String}

lemma eq_of_id_eq {snap snap' : Snapshot F} (hsnap : snap ∈ s.taken) (hsnap' : snap' ∈ s.taken)
    (hid : snap.id = snap'.id) : snap = snap' :=
  List.inj_on_of_nodup_map s.distinct hsnap hsnap' hid

lemma mem_taken_of_load {id : String} {snap : Snapshot F}
    (hload : s.history.load cfg now id = .ok snap) : snap ∈ s.taken := by
  have hfetch (keys : List ObjectKey) (h : s.history.fetchFirst keys = .ok snap) :
      snap ∈ s.taken := by
    induction keys with
    | nil => cases h
    | cons key keys ih =>
      rw [History.fetchFirst] at h
      split at h
      case h_1 hobject =>
        cases h
        exact s.object_taken key snap hobject
      case h_2 => cases h
      case h_3 => exact ih h
      case h_4 => exact ih h
  unfold History.load at hload
  split at hload
  case h_1 snap' hcached =>
    cases hload
    unfold History.getCachedSnapshot at hcached
    split at hcached
    case isTrue => exact s.cache_taken id snap hcached
    case isFalse => cases hcached
  case h_2 => exact hfetch _ hload

/-- What `GetNearestSnapshot` finds is the snapshot of the newest row. -/
lemma getNearestSnapshot_eq_ok {base : Snapshot F} :
    (∃ h', s.history.getNearestSnapshot cfg now target = .ok (base, h')) ↔
      cfg.questdb = true ∧
        s.history.queryNearestSnapshotID target = some (base.id, base.timestamp) ∧
          s.history.load cfg now base.id = .ok base := by
  constructor
  · rintro ⟨h', hbase⟩
    have hload : s.history.load cfg now base.id = .ok base :=
      (History.load_of_getNearestSnapshot hbase).1
    have htaken : base ∈ s.taken := mem_taken_of_load hload
    unfold History.getNearestSnapshot at hbase
    split at hbase
    case isFalse => cases hbase
    case isTrue hquestdb =>
      split at hbase
      case h_2 => cases hbase
      case h_1 id time hrow =>
        have hid : base.id = id := History.id_of_load (History.load_of_getSnapshot hbase)
        have hmem : (id, time) ∈ s.history.rows :=
          List.mem_of_mem_filter (s.history.newest_spec _ _ hrow).1
        -- The row is not one of an event: its ID is that of a snapshot.
        rcases s.row_of _ hmem with ⟨snap, hsnap, heq⟩ | ⟨entry, hentry, heq⟩
        · obtain ⟨rfl, rfl⟩ := Prod.mk.inj heq
          obtain rfl := eq_of_id_eq htaken hsnap hid
          exact ⟨hquestdb, hrow, hload⟩
        · obtain ⟨rfl, rfl⟩ := Prod.mk.inj heq
          exact absurd hid (s.apart base htaken entry hentry)
  · rintro ⟨hquestdb, hrow, hload⟩
    obtain ⟨h', hget, -⟩ := History.getSnapshot_of_ok hload
    exact ⟨h', by rw [History.getNearestSnapshot, if_pos hquestdb, hrow]; exact hget⟩

lemma since_eq_nil {base : Snapshot F}
    (hrow : s.history.queryNearestSnapshotID target = some (base.id, base.timestamp)) :
    s.since base target = [] := by
  unfold since
  rw [List.filter_eq_nil_iff]
  intro entry hentry hafter
  obtain ⟨hlog, hrange⟩ := List.mem_filter.mp ((List.mem_mergeSort).mp hentry)
  have hrange : base.timestamp ≤ entry.timestamp ∧ entry.timestamp ≤ target := by
    simpa using hrange
  have hmem : (entry.id, entry.timestamp) ∈
      s.history.rows.filter (fun row => row.2 ≤ target) :=
    List.mem_filter.mpr ⟨s.row_of_entry entry hlog, by simpa using hrange.2⟩
  have hle : entry.timestamp ≤ base.timestamp := (s.history.newest_spec _ _ hrow).2 _ hmem
  exact absurd (of_decide_eq_true hafter) (not_lt.mpr hle)

lemma Latest.eq_of_id {base base' : Snapshot F} (hlatest : s.Latest target base)
    (htaken : base' ∈ s.taken) (hid : base'.id = base.id) : base' = base :=
  eq_of_id_eq htaken hlatest.taken hid

/-- **State reconstruction**, and when. For every history of a tenant and every target:
`ReconstructState` gives the latest snapshot taken at or before the target with the events recorded
since, if and only if the newest row of `topology_snapshots` at or before the target is that of the
snapshot, so that no event was recorded since, the snapshot can be read, and it is recent or nothing
is in the events table since. -/
theorem reconstructs_iff (hnew : ∀ snap ∈ s.taken, snap.id ≠ uuid) :
    s.Reconstructs cfg now target uuid ↔ s.Plain cfg now target := by
  refine forall_congr' fun _ => exists_congr fun base => and_congr_right fun hlatest => ?_
  constructor
  · rintro ⟨snap, h', hok, hreplay⟩
    obtain ⟨base', hbase', rfl⟩ := History.reconstructState_eq_ok.mp hok
    have hfound := getNearestSnapshot_eq_ok.mp ⟨h', hbase'⟩
    have hcopy := id_replayEvents hreplay
    have hid : (s.history.reconstructFrom cfg base' target uuid).id = base.id := hcopy
    have hnot : ¬ s.history.Replayed cfg base' target := by
      intro hreplayed
      rw [History.id_reconstructFrom hreplayed] at hid
      exact hnew base hlatest.taken hid.symm
    rw [History.reconstructFrom_of_not_replayed hnot] at hid
    obtain rfl := hlatest.eq_of_id (mem_taken_of_load hfound.2.2) hid
    exact ⟨hfound.1, hfound.2.1, hfound.2.2, hnot⟩
  · rintro ⟨hquestdb, hrow, hload, hnot⟩
    obtain ⟨h', hbase⟩ := getNearestSnapshot_eq_ok.mpr ⟨hquestdb, hrow, hload⟩
    refine ⟨base, h', History.reconstructState_eq_ok.mpr ⟨base, hbase, ?_⟩, ?_⟩
    · rw [History.reconstructFrom_of_not_replayed hnot]
    · rw [since_eq_nil hrow]
      rfl

end Stored

/-! ### An event after a snapshot -/

/-- A tenant without any history. -/
def nothingStored (tables : String → List String) : Stored ℚ where
  history := { firstDay [] with tables }
  taken := []
  log := []
  row_of := fun row hrow => absurd hrow List.not_mem_nil
  row_of_entry := fun entry hentry => absurd hentry List.not_mem_nil
  object_taken := by
    intro key snap hobject
    simp [firstDay] at hobject
  cache_taken := fun id snap hcached => nomatch hcached
  distinct := List.nodup_nil
  apart := fun snap hsnap => absurd hsnap List.not_mem_nil

/-- A snapshot is taken. -/
def oneSnapshot (tables : String → List String) : Stored ℚ :=
  (nothingStored tables).takeSnapshot plain 0 "s1" (oneAgent "" 0 [] 40) true
    ⟨fun _ hsnap => absurd hsnap List.not_mem_nil, fun _ hentry => absurd hentry List.not_mem_nil⟩

/-- After a minute a node is recorded. -/
def thenNode (tables : String → List String) : Stored ℚ :=
  (oneSnapshot tables).recordEvent ⟨"e1", 60 * 10 ^ 9, "", .nodeAdded ⟨"n", "node", "host"⟩⟩ (by
    intro snap hsnap
    obtain rfl := List.mem_singleton.mp hsnap
    decide)

lemma unused_oneSnapshot {tables : String → List String} :
    ∀ snap ∈ (oneSnapshot tables).taken, snap.id ≠ "u" := by
  intro snap hsnap
  obtain rfl := List.mem_singleton.mp hsnap
  decide

/-- A minute later the snapshot is what is reconstructed, with a table that takes its row. -/
theorem reconstructs_oneSnapshot :
    (oneSnapshot fun _ => metadataColumns).Reconstructs plain (60 * 10 ^ 9) (60 * 10 ^ 9) "u" := by
  refine (Stored.reconstructs_iff unused_oneSnapshot).mpr fun _ => ⟨oneAgent "s1" 0 [] 40, ?_, rfl,
    rfl, rfl, fun hreplayed => absurd hreplayed.1 (by decide)⟩
  refine ⟨List.mem_singleton_self _, by decide, fun snap hsnap _ => ?_⟩
  obtain rfl := List.mem_singleton.mp hsnap
  exact le_rfl

/-- Two minutes later the row of the event is the newest one, and there is no snapshot under its
ID. -/
theorem lost_node :
    ¬ (thenNode warmSchema).Reconstructs plain (120 * 10 ^ 9) (120 * 10 ^ 9) "u" := by
  intro hreconstructs
  obtain ⟨base, -, snap, h', hok, -⟩ :=
    hreconstructs ⟨oneAgent "s1" 0 [] 40, List.mem_singleton_self _, by decide⟩
  have hlost : (thenNode warmSchema).history.reconstructState plain (120 * 10 ^ 9) (120 * 10 ^ 9)
      "u" = .error .snapshotNotFound := rfl
  rw [hlost] at hok
  cases hok

end Paryty.Timeline

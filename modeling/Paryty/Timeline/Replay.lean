import Mathlib.Data.List.TakeWhile
import Paryty.Lib.Graph
import Paryty.Lib.Run
import Paryty.Timeline.EventLog

/-!
# What a replay keeps

There are two replays on a snapshot: `EventLog.ReplayEvents` of
`cluster/internal/storage/cold/eventlog.go` applies topology events, and the `replayEvents` of
`snapshot.go` applies the deployments and alerts of the events table.

* `Snapshot.WellFormed`: the IDs in the topology are unique, and the edges are between nodes that
  are there. `Snapshot.Counted`: the metadata has the lengths of the lists.
* `EventLog.Fits` is what an event needs so that it leaves a well-formed topology: the log appends
  and removes what it is told to, without a look at the rest of the topology.
* `replay_wellFormed` collects what the two replays guarantee.
-/

namespace Paryty.Timeline

variable {F : Type*}

/-! ## Topologies -/

/-- The IDs of a topology. -/
def topologyKeys : Lib.GraphKeys TopologyNode TopologyEdge String where
  node := TopologyNode.id
  edge := TopologyEdge.id
  source := TopologyEdge.sourceID
  target := TopologyEdge.targetID

namespace Snapshot

/-- The topology has unique node IDs and edge IDs, and its edges reference existing nodes. -/
def WellFormed (s : Snapshot F) : Prop := topologyKeys.WellFormed s.nodes s.edges

/-- The counts in the metadata are the lengths of the lists. -/
structure Counted (s : Snapshot F) : Prop where
  agents : s.metadata.agentCount = s.agents.length
  metrics : s.metadata.metricCount = s.metrics.rows.length
  alerts : s.metadata.alertCount = s.alerts.length

end Snapshot

/-! ## The event log -/

namespace EventLog

/-- What the event removes is there, and its payload is valid. -/
def Applies (s : Snapshot F) (entry : EventLogEntry F) : Prop :=
  match entry.payload with
  | .nodeRemoved nodeID => nodeID ∈ s.nodes.map TopologyNode.id
  | .edgeRemoved edgeID => edgeID ∈ s.edges.map TopologyEdge.id
  | .alertResolved alertID => alertID ∈ s.alerts.map Alert.id
  | .invalid => False
  | .nodeAdded _ | .edgeAdded _ | .metricUpdated _ _ | .alertFired _ => True

/-- The event applies, what it adds has a new ID, an edge it adds is between nodes that are there,
and a node it removes has no edges. -/
def Fits (s : Snapshot F) (entry : EventLogEntry F) : Prop :=
  Applies s entry ∧
    match entry.payload with
    | .nodeAdded node => node.id ∉ s.nodes.map TopologyNode.id
    | .nodeRemoved nodeID => ∀ edge ∈ s.edges, edge.sourceID ≠ nodeID ∧ edge.targetID ≠ nodeID
    | .edgeAdded edge =>
      edge.id ∉ s.edges.map TopologyEdge.id ∧ edge.sourceID ∈ s.nodes.map TopologyNode.id ∧
        edge.targetID ∈ s.nodes.map TopologyNode.id
    | .edgeRemoved _ | .metricUpdated _ _ | .alertFired _ | .alertResolved _ | .invalid => True

lemma removeFirst_key {α : Type*} (key : α → String) (l : List α) (k : String) :
    removeFirst (fun a => decide (key a = k)) l =
      if k ∈ l.map key then some (l.eraseP fun a => decide (key a = k)) else none := by
  have hany : (l.any fun a => decide (key a = k)) = true ↔ k ∈ l.map key := by
    simp [List.any_eq_true, List.mem_map]
  unfold removeFirst
  exact if_congr hany rfl rfl

lemma nodes_getD (s : Snapshot F) : (s.topology.getD ⟨[], []⟩).nodes = s.nodes := by
  unfold Snapshot.nodes
  cases s.topology with
  | none => rfl
  | some topology => rfl

lemma edges_getD (s : Snapshot F) : (s.topology.getD ⟨[], []⟩).edges = s.edges := by
  unfold Snapshot.edges
  cases s.topology with
  | none => rfl
  | some topology => rfl

lemma applyEvent_eq_none {s : Snapshot F} {entry : EventLogEntry F} :
    applyEvent s entry = none ↔ ¬ Applies s entry := by
  unfold applyEvent Applies
  dsimp only
  rw [nodes_getD, edges_getD]
  cases entry.payload with
  | nodeRemoved nodeID =>
    dsimp only
    rw [removeFirst_key TopologyNode.id]
    simp
  | edgeRemoved edgeID =>
    dsimp only
    rw [removeFirst_key TopologyEdge.id]
    simp
  | alertResolved alertID =>
    dsimp only
    rw [removeFirst_key Alert.id]
    simp
  | nodeAdded | edgeAdded | metricUpdated | alertFired | invalid => simp

lemma exists_removeFirst {α : Type*} (key : α → String) (l : List α) (k : String)
    (f : List α → Snapshot F) {P : Snapshot F → Prop} :
    (∃ s', (removeFirst (fun a => decide (key a = k)) l).map f = some s' ∧ P s') ↔
      k ∈ l.map key ∧ P (f (l.eraseP fun a => decide (key a = k))) := by
  rw [removeFirst_key]
  by_cases hthere : k ∈ l.map key
  · rw [if_pos hthere]
    simp [hthere]
  · rw [if_neg hthere]
    simp [hthere]

lemma wellFormed_applyEvent {s : Snapshot F} (hs : s.WellFormed) (entry : EventLogEntry F) :
    (∃ s', applyEvent s entry = some s' ∧ s'.WellFormed) ↔ Fits s entry := by
  unfold applyEvent Fits Applies
  dsimp only
  rw [nodes_getD, edges_getD]
  cases entry.payload with
  | nodeAdded node =>
    simp only [Option.some.injEq, exists_eq_left', true_and]
    exact Lib.GraphKeys.WellFormed.add_node hs node
  | nodeRemoved nodeID =>
    exact (exists_removeFirst TopologyNode.id _ _ _).trans
      (and_congr_right fun _ => Lib.GraphKeys.WellFormed.erase_node hs nodeID)
  | edgeAdded edge =>
    simp only [Option.some.injEq, exists_eq_left', true_and]
    exact Lib.GraphKeys.WellFormed.add_edge hs edge
  | edgeRemoved edgeID =>
    exact (exists_removeFirst TopologyEdge.id _ _ _).trans
      (and_congr_right fun _ => iff_of_true (Lib.GraphKeys.WellFormed.erase_edge hs _) trivial)
  -- Metrics and alerts are not in the topology.
  | metricUpdated agentID summary => exact iff_of_true ⟨_, rfl, hs⟩ ⟨trivial, trivial⟩
  | alertFired alert => exact iff_of_true ⟨_, rfl, hs⟩ ⟨trivial, trivial⟩
  | alertResolved alertID =>
    exact (exists_removeFirst Alert.id _ _ _).trans
      (and_congr_right fun _ => iff_of_true hs trivial)
  | invalid => simp

/-! ### Lists of events -/

lemma wellFormed_deepCopySnapshot {s : Snapshot F} :
    (deepCopySnapshot s).WellFormed ↔ s.WellFormed := by
  unfold Snapshot.WellFormed
  rw [← nodes_getD s, ← edges_getD s]
  exact Iff.rfl

lemma deepCopySnapshot_of_isSome {s : Snapshot F} (hs : s.topology.isSome) :
    deepCopySnapshot s = s := by
  obtain ⟨topology, htopology⟩ := Option.isSome_iff_exists.mp hs
  unfold deepCopySnapshot
  rw [htopology, Option.getD_some, ← htopology]

lemma deepCopySnapshot_of_replayEvents {s s' : Snapshot F} {events : List (EventLogEntry F)}
    (h : replayEvents s events = some s') : deepCopySnapshot s' = s' := by
  have hframe := EventLog.frame_foldlM_applyEvent h
  exact deepCopySnapshot_of_isSome (hframe.topology rfl)

lemma replayEvents_append (s : Snapshot F) (events events' : List (EventLogEntry F)) :
    replayEvents s (events ++ events') =
      (replayEvents s events).bind fun s' => replayEvents s' events' := by
  rw [replayEvents, List.foldlM_append]
  change (replayEvents s events).bind _ = _
  cases h : replayEvents s events with
  | none => rfl
  | some s' =>
    rw [Option.bind_some, Option.bind_some, replayEvents, deepCopySnapshot_of_replayEvents h]

/-- What `ReplayEvents` does with a list of events. -/
structure Replays (base : Snapshot F) (events : List (EventLogEntry F)) : Prop where
  /-- It fails at the first event that does not apply. -/
  refused : replayEvents base events = none ↔
    ∃ pre entry post s, events = pre ++ entry :: post ∧ replayEvents base pre = some s ∧
      ¬ Applies s entry
  /-- The topology is well-formed all the way if every event fits the state it meets. -/
  wellFormed : (∀ pre, pre <+: events → ∃ s, replayEvents base pre = some s ∧ s.WellFormed) ↔
    ∃ s, Lib.Run applyEvent Fits (deepCopySnapshot base) events s
  append : ∀ events', replayEvents base (events ++ events') =
    (replayEvents base events).bind fun s => replayEvents s events'

lemma replays {base : Snapshot F} (hbase : base.WellFormed) (events : List (EventLogEntry F)) :
    Replays base events where
  refused := by
    refine Lib.foldlM_eq_none.trans ?_
    simp only [applyEvent_eq_none]
    exact Iff.rfl
  wellFormed := Lib.forall_prefix_iff_run (fun _ entry hs => wellFormed_applyEvent hs entry)
    (wellFormed_deepCopySnapshot.mpr hbase)
  append := replayEvents_append base events

end EventLog

/-! ## The events table -/

namespace Snapshot

/-- The agents of a replay have different IDs. -/
def AgentsApart (s : Snapshot F) : Prop := (s.agents.map AgentInfo.id).Nodup

/-- What holds of a snapshot, and of what one event of the table makes of it. -/
structure Kept (s s' : Snapshot F) : Prop where
  topology : s'.topology = s.topology
  agents : s.AgentsApart → s'.AgentsApart
  counted : s.Counted → s'.Counted

lemma Kept.refl (s : Snapshot F) : Kept s s := ⟨rfl, fun h => h, fun h => h⟩

lemma Kept.trans {s s' s'' : Snapshot F} (first : Kept s s') (second : Kept s' s'') :
    Kept s s'' where
  topology := second.topology.trans first.topology
  agents := fun h => second.agents (first.agents h)
  counted := fun h => second.counted (first.counted h)

lemma kept_replayAgentAdded (s : Snapshot F) (ev : Event) : Kept s (s.replayAgentAdded ev) := by
  unfold replayAgentAdded
  dsimp only
  generalize (if ev.agentID = "" then ev.label "agent_id" else ev.agentID) = aid
  split
  case isTrue => exact Kept.refl s
  case isFalse hnew =>
    refine ⟨rfl, fun h => (Lib.nodup_map_concat h).mpr ?_, fun h => ⟨rfl, h.metrics, h.alerts⟩⟩
    intro hmem
    obtain ⟨agent, hagent, hid⟩ := List.mem_map.mp hmem
    exact hnew (.inr (List.any_eq_true.mpr ⟨agent, hagent, decide_eq_true hid⟩))

lemma kept_replayAgentRemoved (s : Snapshot F) (ev : Event) :
    Kept s (s.replayAgentRemoved ev) := by
  unfold replayAgentRemoved
  dsimp only
  generalize (if ev.agentID = "" then ev.label "agent_id" else ev.agentID) = aid
  split
  case isTrue =>
    exact ⟨rfl, fun h => (List.eraseP_sublist.map AgentInfo.id).nodup h,
      fun h => ⟨rfl, rfl, h.alerts⟩⟩
  case isFalse => exact Kept.refl s

lemma kept_replayEvent (s : Snapshot F) (ev : Event) : Kept s (s.replayEvent ev) := by
  unfold replayEvent
  split
  · exact kept_replayAgentAdded s ev
  split
  · exact kept_replayAgentRemoved s ev
  split
  · exact ⟨rfl, fun h => h, fun h => ⟨h.agents, h.metrics, rfl⟩⟩
  · exact Kept.refl s

lemma kept_foldl_replayEvent (s : Snapshot F) (events : List Event) :
    Kept s (events.foldl replayEvent s) := by
  induction events generalizing s with
  | nil => exact Kept.refl s
  | cons ev events ih => exact (kept_replayEvent s ev).trans (ih _)

/-- What `replayEvents` sets at the end, with the time it sets first. -/
def stamp (time target : Time) (uuid : String) (s : Snapshot F) : Snapshot F :=
  { s with id := uuid, timestamp := time, metadata := { s.metadata with createdAt := target } }

lemma replayEvent_stamp (time target : Time) (uuid : String) (s : Snapshot F) (ev : Event) :
    (s.stamp time target uuid).replayEvent ev = (s.replayEvent ev).stamp time target uuid := by
  have hadded : (s.stamp time target uuid).replayAgentAdded ev =
      (s.replayAgentAdded ev).stamp time target uuid := by
    unfold replayAgentAdded
    dsimp only
    rw [apply_ite (stamp time target uuid)]
    rfl
  have hremoved : (s.stamp time target uuid).replayAgentRemoved ev =
      (s.replayAgentRemoved ev).stamp time target uuid := by
    unfold replayAgentRemoved
    dsimp only
    rw [apply_ite (stamp time target uuid)]
    rfl
  unfold replayEvent
  rw [hadded, hremoved]
  rw [apply_ite (stamp time target uuid), apply_ite (stamp time target uuid),
    apply_ite (stamp time target uuid)]
  rfl

lemma foldl_stamp (time target : Time) (uuid : String) (s : Snapshot F) (events : List Event) :
    events.foldl replayEvent (s.stamp time target uuid) =
      (events.foldl replayEvent s).stamp time target uuid := by
  induction events generalizing s with
  | nil => rfl
  | cons ev events ih => rw [List.foldl_cons, List.foldl_cons, replayEvent_stamp, ih]

lemma replayEvents_eq (base : Snapshot F) (events : List Event) (target : Time) (uuid : String) :
    base.replayEvents events target uuid =
      ((events.takeWhile fun ev => ev.timestamp ≤ target).foldl replayEvent base).stamp
        target target uuid := by
  -- The time that is set first is a stamp with the ID and the creation time of the base.
  have hfirst : (events.takeWhile fun ev => ev.timestamp ≤ target).foldl replayEvent
      { base with timestamp := target } = _ :=
    foldl_stamp target base.metadata.createdAt base.id base _
  unfold replayEvents
  dsimp only
  rw [hfirst]
  rfl

/-- What the replay of `ReconstructState` does with a list of events. -/
structure Replays (base : Snapshot F) (events : List Event) (target : Time) (uuid : String) :
    Prop where
  wellFormed : base.WellFormed → (base.replayEvents events target uuid).WellFormed
  agents : base.AgentsApart → (base.replayEvents events target uuid).AgentsApart
  counted : base.Counted → (base.replayEvents events target uuid).Counted
  /-- The events are those that were asked for, up to the target. -/
  append : (∀ ev ∈ events, ev.timestamp ≤ target) → ∀ events' uuid',
    base.replayEvents (events ++ events') target uuid' =
      (base.replayEvents events target uuid).replayEvents events' target uuid'

lemma replays (base : Snapshot F) (events : List Event) (target : Time) (uuid : String) :
    Replays base events target uuid := by
  have hkept := kept_foldl_replayEvent base (events.takeWhile fun ev => ev.timestamp ≤ target)
  constructor
  case wellFormed =>
    intro hbase
    rw [replayEvents_eq]
    have hsame : base.nodes = _ ∧ base.edges = _ :=
      ⟨congrArg (fun t => (Option.map Topology.nodes t).getD []) hkept.topology.symm,
        congrArg (fun t => (Option.map Topology.edges t).getD []) hkept.topology.symm⟩
    unfold WellFormed at hbase
    rw [hsame.1, hsame.2] at hbase
    exact hbase
  case agents =>
    intro hbase
    rw [replayEvents_eq]
    exact hkept.agents hbase
  case counted =>
    intro hbase
    rw [replayEvents_eq]
    have hcounted := hkept.counted hbase
    exact ⟨hcounted.agents, hcounted.metrics, hcounted.alerts⟩
  case append =>
    intro hupTo events' uuid'
    have hall : (events.takeWhile fun ev => decide (ev.timestamp ≤ target)) = events :=
      List.takeWhile_eq_self_iff.mpr fun ev hev => decide_eq_true (hupTo ev hev)
    rw [replayEvents_eq, replayEvents_eq, replayEvents_eq, List.takeWhile_append_of_pos
      fun ev hev => decide_eq_true (hupTo ev hev), List.foldl_append, hall, foldl_stamp]
    rfl

end Snapshot

/-! ## Both replays -/

/-- **Replays of a well-formed base.** For every base with unique node and edge IDs and edges that
reference existing nodes:

* `ReplayEvents` fails at the first event that removes what is not there or is not valid; the
  topology is well-formed all the way exactly if every event fits the state it meets; and the replay
  of a concatenation is that of the first list and then of the second.
* The replay of `ReconstructState` leaves the topology well-formed, the agents apart and the counts
  equal to the lengths, and the events up to the target may come in two lists. -/
theorem replay_wellFormed {base : Snapshot F} (hbase : base.WellFormed) :
    (∀ events, EventLog.Replays base events) ∧
      ∀ events target uuid, base.Replays events target uuid :=
  ⟨EventLog.replays hbase, base.replays⟩

/-! ### Two services and an edge -/

/-- The snapshot of the tests. -/
def twoServices : Snapshot Float where
  id := "snap-001"
  timestamp := 0
  topology := some {
    nodes := [⟨"node-1", "api-gateway", "service"⟩, ⟨"node-2", "user-service", "service"⟩]
    edges := [⟨"edge-1", "node-1", "node-2", "http"⟩] }
  agents := []
  metrics := .empty
  alerts := []
  metadata := ⟨0, 0, 0, 0⟩

lemma wellFormed_twoServices : twoServices.WellFormed := by
  constructor <;> decide

/-- A third service. -/
def thirdService : EventLogEntry Float :=
  ⟨"evt-1", 60 * 10 ^ 9, "agent-1", .nodeAdded ⟨"node-3", "cache", "cache"⟩⟩

/-- An edge to the third service. -/
def edgeToThird : EventLogEntry Float :=
  ⟨"evt-2", 61 * 10 ^ 9, "agent-1", .edgeAdded ⟨"edge-2", "node-2", "node-3", "grpc"⟩⟩

/-- The service comes first. -/
theorem wellFormed_thirdService :
    ∃ s, EventLog.replayEvents twoServices [thirdService, edgeToThird] = some s ∧
      s.WellFormed := by
  have hreplays := (replay_wellFormed wellFormed_twoServices).1 [thirdService, edgeToThird]
  refine hreplays.wellFormed.mpr ?_ _ List.prefix_rfl
  change ∃ s, Lib.Run _ _ _ ([] ++ [thirdService] ++ [edgeToThird]) s
  have hservice : "node-3" ∉ ["node-1", "node-2"] := by decide
  have hedge : "edge-2" ∉ ["edge-1"] ∧ "node-2" ∈ ["node-1", "node-2", "node-3"] ∧
    "node-3" ∈ ["node-1", "node-2", "node-3"] := by decide
  refine ⟨_, ((Lib.Run.nil _).snoc ?_ rfl).snoc ?_ rfl⟩
  · exact ⟨trivial, hservice⟩
  · exact ⟨trivial, hedge⟩

/-- Without the service the log adds the edge too. -/
theorem not_wellFormed_edgeToThird : twoServices.WellFormed ∧ twoServices.Counted ∧
    ∃ s, EventLog.replayEvents twoServices [edgeToThird] = some s ∧ ¬ s.WellFormed := by
  refine ⟨wellFormed_twoServices, ⟨rfl, rfl, rfl⟩, _, rfl, fun hwell => ?_⟩
  have htarget := hwell.target_mem ⟨"edge-2", "node-2", "node-3", "grpc"⟩ (by decide)
  exact absurd htarget (by decide)

end Paryty.Timeline

import Paryty.Lib.Graph
import Paryty.Lib.Keyed
import Paryty.Storage.TopologyUpdate

/-!
# Topology diffs

`applyTopologyDiff` of `cluster/internal/storage/hot/topology_ops.go`, which `ApplyDiff` passes to
`UpdateTopology`: removes nodes with their edges, removes edges, updates nodes and edges in place,
and appends what is added.

* `applyTopologyDiff_eq_ok_iff`: without an error the result is `patched`, the six steps as one
  expression.
* The only errors are updates of what is not there. `Compatible` is what nobody checks: the IDs of
  added nodes and edges are new, and the ends of added and of updated edges are there.
* `preservesValidity_iff`: a valid topology stays valid exactly under such diffs.

A node or an edge is its ID, the IDs of its ends, and the rest, which no step looks at.
-/

namespace Paryty.Storage.TopologyOps

open Lib (latest replaceEach)

variable {α β : Type}

/-! ## Data -/

/-- `models.TopologyNode`. -/
structure TopologyNode (α : Type) where
  id : String
  rest : α
deriving DecidableEq

/-- `models.TopologyEdge`. -/
structure TopologyEdge (β : Type) where
  id : String
  sourceID : String
  targetID : String
  rest : β
deriving DecidableEq

abbrev Topology (α β : Type) := TopologyUpdate.Topology (TopologyNode α) (TopologyEdge β)

/-- `TopologyDiff`. -/
structure TopologyDiff (α β : Type) where
  nodesAdded : List (TopologyNode α) := []
  nodesRemoved : List String := []
  nodesUpdated : List (TopologyNode α) := []
  edgesAdded : List (TopologyEdge β) := []
  edgesRemoved : List String := []
  edgesUpdated : List (TopologyEdge β) := []
deriving DecidableEq

/-- The errors of `applyTopologyDiff`. -/
inductive DiffError
  /-- `updated node %q not found in topology` -/
  | updatedNode (id : String)
  /-- `updated edge %q not found in topology` -/
  | updatedEdge (id : String)
deriving DecidableEq

/-- The IDs of a topology. -/
def topologyKeys : Lib.GraphKeys (TopologyNode α) (TopologyEdge β) String where
  node := TopologyNode.id
  edge := TopologyEdge.id
  source := TopologyEdge.sourceID
  target := TopologyEdge.targetID

/-- Node IDs and edge IDs are unique, and every edge joins nodes of the topology. -/
def Valid (topology : Topology α β) : Prop :=
  topologyKeys.WellFormed topology.nodes topology.edges

/-! ## The diff -/

/-- Step 1, for the nodes. -/
def removeNodes (diff : TopologyDiff α β) (nodes : List (TopologyNode α)) :
    List (TopologyNode α) :=
  nodes.filter fun node => node.id ∉ diff.nodesRemoved

/-- Step 1, for the edges that reference a removed node. -/
def removeReferences (diff : TopologyDiff α β) (edges : List (TopologyEdge β)) :
    List (TopologyEdge β) :=
  edges.filter fun edge => edge.sourceID ∉ diff.nodesRemoved ∧ edge.targetID ∉ diff.nodesRemoved

/-- Step 2. -/
def removeEdges (diff : TopologyDiff α β) (edges : List (TopologyEdge β)) :
    List (TopologyEdge β) :=
  edges.filter fun edge => edge.id ∉ diff.edgesRemoved

/-- `applyTopologyDiff`. -/
def applyTopologyDiff (current : Topology α β) (diff : TopologyDiff α β) :
    Except DiffError (Topology α β) := do
  let nodes := removeNodes diff current.nodes
  let edges := removeEdges diff (removeReferences diff current.edges)
  let nodes ← (replaceEach TopologyNode.id nodes diff.nodesUpdated).mapError .updatedNode
  let edges ← (replaceEach TopologyEdge.id edges diff.edgesUpdated).mapError .updatedEdge
  return { current with nodes := nodes ++ diff.nodesAdded, edges := edges ++ diff.edgesAdded }

/-! ## What it should do -/

/-- The nodes that are not removed. -/
def remainingNodes (current : Topology α β) (diff : TopologyDiff α β) : List (TopologyNode α) :=
  removeNodes diff current.nodes

/-- The edges that are not removed, neither by themselves nor with a node. -/
def remainingEdges (current : Topology α β) (diff : TopologyDiff α β) : List (TopologyEdge β) :=
  removeEdges diff (removeReferences diff current.edges)

/-- What is left after the removals, each entry as its latest update, and then what is added. -/
def patched (current : Topology α β) (diff : TopologyDiff α β) : Topology α β where
  nodes := (remainingNodes current diff).map (latest TopologyNode.id diff.nodesUpdated) ++
    diff.nodesAdded
  edges := (remainingEdges current diff).map (latest TopologyEdge.id diff.edgesUpdated) ++
    diff.edgesAdded
  timestamp := current.timestamp
  version := current.version

/-- What is updated is there after the removals. -/
structure Found (current : Topology α β) (diff : TopologyDiff α β) : Prop where
  nodes : ∀ node ∈ diff.nodesUpdated, node.id ∈ (remainingNodes current diff).map TopologyNode.id
  edges : ∀ edge ∈ diff.edgesUpdated, edge.id ∈ (remainingEdges current diff).map TopologyEdge.id

/-- The edge joins nodes that remain or are added. -/
def Joins (current : Topology α β) (diff : TopologyDiff α β) (edge : TopologyEdge β) : Prop :=
  edge.sourceID ∈ (remainingNodes current diff ++ diff.nodesAdded).map TopologyNode.id ∧
    edge.targetID ∈ (remainingNodes current diff ++ diff.nodesAdded).map TopologyNode.id

/-- What is added has new IDs, and what is added and updated joins nodes that are there. -/
structure Compatible (current : Topology α β) (diff : TopologyDiff α β) : Prop where
  nodes_new : ((remainingNodes current diff ++ diff.nodesAdded).map TopologyNode.id).Nodup
  edges_new : ((remainingEdges current diff ++ diff.edgesAdded).map TopologyEdge.id).Nodup
  added_joins : ∀ edge ∈ diff.edgesAdded, Joins current diff edge
  updated_joins : ∀ edge, Lib.Table.LatestIn TopologyEdge.id diff.edgesUpdated edge →
    Joins current diff edge

/-- An error, or a valid topology as documented. -/
def PreservesValidity (current : Topology α β) (diff : TopologyDiff α β) : Prop :=
  ∀ result, applyTopologyDiff current diff = .ok result →
    Valid result ∧ result = patched current diff

/-! ## What it does -/

variable {current : Topology α β} {diff : TopologyDiff α β}

lemma nodup_remainingNodes (h : Valid current) :
    ((remainingNodes current diff).map TopologyNode.id).Nodup :=
  (List.filter_sublist.map TopologyNode.id).nodup h.nodup_nodes

lemma nodup_remainingEdges (h : Valid current) :
    ((remainingEdges current diff).map TopologyEdge.id).Nodup :=
  ((List.filter_sublist.trans List.filter_sublist).map TopologyEdge.id).nodup h.nodup_edges

/-- The updates are found, and the result is as documented. -/
theorem applyTopologyDiff_eq_ok_iff (h : Valid current) {result : Topology α β} :
    applyTopologyDiff current diff = .ok result ↔
      Found current diff ∧ result = patched current diff := by
  have hnodes {nodes : List (TopologyNode α)} :
      replaceEach TopologyNode.id (remainingNodes current diff) diff.nodesUpdated = .ok nodes ↔ _ :=
    Lib.replaceEach_eq_ok_iff (nodup_remainingNodes h)
  have hedges {edges : List (TopologyEdge β)} :
      replaceEach TopologyEdge.id (remainingEdges current diff) diff.edgesUpdated = .ok edges ↔ _ :=
    Lib.replaceEach_eq_ok_iff (nodup_remainingEdges h)
  unfold applyTopologyDiff
  dsimp only
  rw [← remainingNodes, ← remainingEdges]
  cases hn : replaceEach TopologyNode.id (remainingNodes current diff) diff.nodesUpdated with
  | error id =>
    refine iff_of_false (by rintro ⟨⟩) (fun hright => ?_)
    rw [hnodes.mpr ⟨hright.1.nodes, rfl⟩] at hn
    cases hn
  | ok nodes =>
    obtain ⟨hfoundNodes, rfl⟩ := hnodes.mp hn
    cases he : replaceEach TopologyEdge.id (remainingEdges current diff) diff.edgesUpdated with
    | error id =>
      refine iff_of_false (by rintro ⟨⟩) (fun hright => ?_)
      rw [hedges.mpr ⟨hright.1.edges, rfl⟩] at he
      cases he
    | ok edges =>
      obtain ⟨hfoundEdges, rfl⟩ := hedges.mp he
      constructor
      · rintro ⟨⟩
        exact ⟨⟨hfoundNodes, hfoundEdges⟩, rfl⟩
      · rintro ⟨-, rfl⟩
        rfl

lemma joins_of_mem_remainingEdges (h : Valid current) {edge : TopologyEdge β}
    (hedge : edge ∈ remainingEdges current diff) : Joins current diff edge := by
  obtain ⟨hkept, -⟩ := List.mem_filter.mp hedge
  obtain ⟨hmem, hends⟩ := List.mem_filter.mp hkept
  have hends : edge.sourceID ∉ diff.nodesRemoved ∧ edge.targetID ∉ diff.nodesRemoved := by
    simpa using hends
  have hremains {id : String} (hid : id ∈ current.nodes.map TopologyNode.id)
      (hnot : id ∉ diff.nodesRemoved) :
      id ∈ (remainingNodes current diff ++ diff.nodesAdded).map TopologyNode.id := by
    obtain ⟨node, hnode, rfl⟩ := List.mem_map.mp hid
    refine List.mem_map_of_mem (List.mem_append_left _ ?_)
    exact List.mem_filter.mpr ⟨hnode, by simpa using hnot⟩
  exact ⟨hremains (h.source_mem edge hmem) hends.1, hremains (h.target_mem edge hmem) hends.2⟩

/-- Where the updates are found, the result is valid under `Compatible` only. -/
theorem valid_patched_iff (h : Valid current) (hfound : Found current diff) :
    Valid (patched current diff) ↔ Compatible current diff := by
  -- The updates change no ID.
  have hnodes : (patched current diff).nodes.map TopologyNode.id =
      (remainingNodes current diff ++ diff.nodesAdded).map TopologyNode.id := by
    rw [patched, List.map_append, Lib.map_key_latest, ← List.map_append]
  have hedges : (patched current diff).edges.map TopologyEdge.id =
      (remainingEdges current diff ++ diff.edgesAdded).map TopologyEdge.id := by
    rw [patched, List.map_append, Lib.map_key_latest, ← List.map_append]
  -- An edge is one that remains as it was, the latest update of one, or a new one.
  have hjoins : (∀ edge ∈ (patched current diff).edges, Joins current diff edge) ↔
      (∀ edge, Lib.Table.LatestIn TopologyEdge.id diff.edgesUpdated edge →
        Joins current diff edge) ∧ ∀ edge ∈ diff.edgesAdded, Joins current diff edge := by
    rw [patched, List.forall_mem_append]
    exact and_congr_left' (Lib.forall_mem_map_latest hfound.edges
      fun edge hedge => joins_of_mem_remainingEdges h hedge)
  constructor
  · intro hvalid
    have hall : ∀ edge ∈ (patched current diff).edges, Joins current diff edge := by
      intro edge hedge
      unfold Joins
      rw [← hnodes]
      exact ⟨hvalid.source_mem edge hedge, hvalid.target_mem edge hedge⟩
    obtain ⟨hupdated, hadded⟩ := hjoins.mp hall
    exact ⟨hnodes ▸ hvalid.nodup_nodes, hedges ▸ hvalid.nodup_edges, hadded, hupdated⟩
  · intro hcompatible
    have hall := hjoins.mpr ⟨hcompatible.updated_joins, hcompatible.added_joins⟩
    constructor
    case nodup_nodes => exact hnodes ▸ hcompatible.nodes_new
    case nodup_edges => exact hedges ▸ hcompatible.edges_new
    case source_mem => exact fun edge hedge => hnodes ▸ (hall edge hedge).1
    case target_mem => exact fun edge hedge => hnodes ▸ (hall edge hedge).2

/-- **A diff keeps a valid topology valid**, and does what is documented, if and only if an update
is not found, or what is added has new IDs and what is added and updated joins nodes that are
there. -/
theorem preservesValidity_iff (h : Valid current) :
    PreservesValidity current diff ↔ (Found current diff → Compatible current diff) := by
  constructor
  · intro hvalid hfound
    have hok := (applyTopologyDiff_eq_ok_iff h).mpr ⟨hfound, rfl⟩
    exact (valid_patched_iff h hfound).mp (hvalid _ hok).1
  · intro hcompatible result hok
    obtain ⟨hfound, rfl⟩ := (applyTopologyDiff_eq_ok_iff h).mp hok
    exact ⟨(valid_patched_iff h hfound).mpr (hcompatible hfound), rfl⟩

/-- Two services and a connection between them. -/
def twoServices : Topology Unit Unit where
  nodes := [⟨"api", ()⟩, ⟨"db", ()⟩]
  edges := [⟨"api-db", "api", "db", ()⟩]
  timestamp := 0
  version := 1

/-- The second service is replaced by a new one. -/
def replaceDb : TopologyDiff Unit Unit where
  nodesRemoved := ["db"]
  nodesAdded := [⟨"db2", ()⟩]
  edgesAdded := [⟨"api-db", "api", "db2", ()⟩]

lemma valid_twoServices : Valid twoServices := by
  constructor <;> decide

theorem preservesValidity_replaceDb : PreservesValidity twoServices replaceDb := by
  refine (preservesValidity_iff valid_twoServices).mpr fun _ => ?_
  constructor
  case nodes_new => decide
  case edges_new => decide
  case added_joins => unfold Joins; decide
  case updated_joins =>
    intro edge hedge
    cases hedge

/-- An edge to a service that was never there is added without an error. -/
theorem edge_added_to_missing_node :
    Valid twoServices ∧
      ¬ PreservesValidity twoServices { edgesAdded := [⟨"api-cache", "api", "cache", ()⟩] } := by
  refine ⟨valid_twoServices, fun hvalid => ?_⟩
  have hresult := (hvalid _ rfl).1.target_mem ⟨"api-cache", "api", "cache", ()⟩ (by decide)
  exact absurd hresult (by decide)

end Paryty.Storage.TopologyOps

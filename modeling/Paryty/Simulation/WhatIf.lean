import Paryty.Lib.FloatText
import Paryty.Lib.Slices
import Paryty.Lib.Table

/-!
# What-if changes

`applyChanges` of `cluster/internal/simulation/whatif.go`, on memory: it copies a topology and
applies changes to the copy, one after another.

* `Memory` has arrays of nodes and of edges, maps, and topologies. A pointer or a map is the place
  of what it points to, and `none` is nil. The map of IDs that `pruneOrphanedEdges` makes stays
  local, so it is a list of IDs.
* `spare n` is the room that an `append` to `n` elements leaves in a new array.
* `scanFloat` is what `Sscanf` reads with `%f`, if it reads a number.
* A change comes with `now`: what the clock says each time it is read while the change is applied.

Fields that are only copied are left out.
-/

namespace Paryty.Simulation.WhatIf

open Lib (Arrays Slice)

abbrev Instant := ℤ

abbrev Float64 := Lib.Binary Lib.binary64

instance : Inhabited Float64 := ⟨.ofNat 0 (by decide)⟩

/-! ## Data -/

/-- A `map[string]string`: its entries, in the order in which they are iterated. -/
abbrev StringMap := Lib.Table (String × String) String Prod.fst

/-- `m[k] = v`. -/
def StringMap.put (m : StringMap) (entry : String × String) : StringMap :=
  m.upsert entry (fun old => (old.1, entry.2)) (fun _ => rfl)

/-- `models.TopologyNode`, over what stands for a map. -/
structure TopologyNode (μ : Type) where
  id : String
  name : String
  type : String
  labels : Option μ
  metadata : Option μ
  health : String
  lastSeen : Instant
deriving DecidableEq, Inhabited

/-- `models.TopologyEdge`, over what stands for a map. -/
structure TopologyEdge (μ : Type) where
  id : String
  sourceID : String
  targetID : String
  type : String
  protocol : String
  labels : Option μ
  latencyP50 : Float64
  lastSeen : Instant
deriving Inhabited

/-- `models.Topology`. -/
structure TopologyStruct where
  nodes : Option Slice
  edges : Option Slice
  timestamp : Instant
  version : ℕ
deriving DecidableEq, Inhabited

structure Memory where
  nodes : Arrays (TopologyNode ℕ)
  edges : Arrays (TopologyEdge ℕ)
  maps : List StringMap
  topologies : List TopologyStruct

/-- What a pointer points to. -/
def Memory.deref (m : Memory) (p : ℕ) : TopologyStruct := m.topologies.getD p default

/-- Set what a pointer points to. -/
def Memory.update (m : Memory) (p : ℕ) (topology : TopologyStruct) : Memory :=
  { m with topologies := m.topologies.set p topology }

/-- `InfraChange`. -/
structure InfraChange where
  type : String
  target : String
  action : String
  count : ℤ
  config : StringMap

/-- A change, and the clock while it is applied. -/
structure Step where
  change : InfraChange
  now : ℕ → Instant

variable (spare : ℕ → ℕ) (scanFloat : String → Option Float64)

/-! ## Copying -/

/-- A new map. -/
def newMap (entries : StringMap) (maps : List StringMap) : ℕ × List StringMap :=
  (maps.length, maps ++ [entries])

/-- A new map, to which the entries of another are added; nil stays nil. -/
def copyMap (source : Option ℕ) (maps : List StringMap) : Option ℕ × List StringMap :=
  match source with
  | none => (none, maps)
  | some r =>
    let entries := (maps[r]?.getD Lib.Table.empty).rows
    let (copy, maps) := newMap Lib.Table.empty maps
    (some copy, entries.foldl (fun maps entry => maps.modify copy (·.put entry)) maps)

/-- Copy the maps of a node of the copy. -/
def copyNodeMaps (copy : Option Slice) (i : ℕ) (node : TopologyNode ℕ) (m : Memory) : Memory :=
  let (labels, maps) := copyMap node.labels m.maps
  let (metadata, maps) := copyMap node.metadata maps
  { m with maps, nodes := Slice.set i { node with labels, metadata } copy m.nodes }

/-- Copy the map of an edge of the copy. -/
def copyEdgeMaps (copy : Option Slice) (i : ℕ) (edge : TopologyEdge ℕ) (m : Memory) : Memory :=
  let (labels, maps) := copyMap edge.labels m.maps
  { m with maps, edges := Slice.set i { edge with labels } copy m.edges }

/-- A copy of the nodes; nil stays nil. -/
def copyNodes (nodes : Option Slice) (m : Memory) : Option Slice × Memory :=
  match nodes with
  | none => (none, m)
  | some _ =>
    let (copy, arrays) := Slice.clone nodes m.nodes
    (copy, Slice.forEach Memory.nodes copy (copyNodeMaps copy) { m with nodes := arrays })

/-- A copy of the edges; nil stays nil. -/
def copyEdges (edges : Option Slice) (m : Memory) : Option Slice × Memory :=
  match edges with
  | none => (none, m)
  | some _ =>
    let (copy, arrays) := Slice.clone edges m.edges
    (copy, Slice.forEach Memory.edges copy (copyEdgeMaps copy) { m with edges := arrays })

/-- `deepCopyTopology`. -/
def deepCopyTopology (src : ℕ) (m : Memory) : ℕ × Memory :=
  let source := m.deref src
  let (nodes, m) := copyNodes source.nodes m
  let (edges, m) := copyEdges source.edges m
  (m.topologies.length, { m with topologies := m.topologies ++
    [{ nodes, edges, timestamp := source.timestamp, version := source.version }] })

/-! ## Changes of nodes -/

/-- What sets the nodes of one type apart. -/
structure NodeKind where
  idPrefix : String
  namePrefix : String
  type : String

def hostKind : NodeKind := ⟨"sim-host-", "simulated-host-", "host"⟩

def containerKind : NodeKind := ⟨"sim-container-", "simulated-container-", "container"⟩

def serviceKind : NodeKind := ⟨"sim-svc-", "simulated-service-", "service"⟩

/-- The ID of the `i`-th new node. -/
def NodeKind.newID (kind : NodeKind) (target : String) (i : ℕ) : String :=
  kind.idPrefix ++ target ++ "-" ++ toString i

/-- `map[string]string{"source": "simulation"}`. -/
def simulationLabels : StringMap := StringMap.put Lib.Table.empty ("source", "simulation")

/-- The `i`-th new node. -/
def NodeKind.newNode {μ : Type} (kind : NodeKind) (target : String) (now : ℕ → Instant)
    (labels metadata : μ) (i : ℕ) : TopologyNode μ where
  id := kind.newID target i
  name := kind.namePrefix ++ toString i
  type := kind.type
  labels := some labels
  metadata := some metadata
  health := "healthy"
  lastSeen := now i

/-- Add the `i`-th new node. -/
def addNode (kind : NodeKind) (step : Step) (p i : ℕ) (m : Memory) : Memory :=
  let (labels, maps) := newMap simulationLabels m.maps
  let (metadata, maps) := newMap Lib.Table.empty maps
  let node := kind.newNode step.change.target step.now labels metadata i
  let (nodes, arrays) := Slice.append spare node (m.deref p).nodes m.nodes
  { m with nodes := arrays, maps }.update p { m.deref p with nodes }

/-- The action "add" for a type of nodes. -/
def addNodes (kind : NodeKind) (step : Step) (p : ℕ) (m : Memory) : Memory :=
  step.change.count.toNat.fold (fun i _ m => addNode spare kind step p i m) m

/-- The node has the ID or the name. -/
def isTarget {μ : Type} (target : String) (node : TopologyNode μ) : Bool :=
  node.id = target || node.name = target

/-- The node is also of the type. -/
def NodeKind.isTarget {μ : Type} (kind : NodeKind) (target : String) (node : TopologyNode μ) :
    Bool :=
  node.type = kind.type && WhatIf.isTarget target node

/-- Drop an element with `p` as long as fewer than `count` are dropped. -/
def dropCounted {α : Type} (p : α → Bool) (count : ℤ) (removed : ℕ) (a : α) : ℕ × List α :=
  if removed < count && p a then (removed + 1, []) else (removed, [a])

/-- Keep an element with `p`. -/
def keepIf {α : Type} (p : α → Bool) (_ : Unit) (a : α) : Unit × List α :=
  ((), if p a then [a] else [])

/-- `pruneOrphanedEdges`. -/
def pruneOrphanedEdges (p : ℕ) (m : Memory) : Memory :=
  let nodeIDs := ((Slice.read m.nodes (m.deref p).nodes).getD []).map TopologyNode.id
  let (edges, arrays) := Slice.rebuild spare
    (keepIf fun edge => decide (edge.sourceID ∈ nodeIDs ∧ edge.targetID ∈ nodeIDs)) ()
    (m.deref p).edges m.edges
  { m with edges := arrays }.update p { m.deref p with edges }

/-- The action "remove", for the nodes with `q`. -/
def removeNodes (q : TopologyNode ℕ → Bool) (count : ℤ) (p : ℕ) (m : Memory) : Memory :=
  let (nodes, arrays) := Slice.rebuild spare (dropCounted q count) 0 (m.deref p).nodes m.nodes
  pruneOrphanedEdges spare p ({ m with nodes := arrays }.update p { m.deref p with nodes })

/-- The ID of the `i`-th clone. -/
def cloneID (id : String) (i : ℕ) : String := id ++ "-scaled-" ++ toString i

/-- The clones of a node with the ID or the name, and any other node itself. -/
def scaleNode {μ : Type} (target : String) (count : ℤ) (_ : Unit) (node : TopologyNode μ) :
    Unit × List (TopologyNode μ) :=
  ((), if isTarget target node then
    (List.range count.toNat).map (fun i => { node with id := cloneID node.id i })
  else [node])

/-- The action "scale". -/
def scaleNodes (target : String) (count : ℤ) (p : ℕ) (m : Memory) : Memory :=
  let (nodes, arrays) := Slice.rebuild spare (scaleNode target count) () (m.deref p).nodes m.nodes
  { m with nodes := arrays }.update p { m.deref p with nodes }

/-- `applyHostChange`: the error, if there is one. -/
def applyHostChange (step : Step) (p : ℕ) (m : Memory) : Option String × Memory :=
  let change := step.change
  if change.action = "add" then (none, addNodes spare hostKind step p m)
  else if change.action = "remove" then
    (none, removeNodes spare (isTarget change.target) change.count p m)
  else if change.action = "scale" then (none, scaleNodes spare change.target change.count p m)
  else (some ("unknown host action: " ++ change.action), m)

/-- `applyContainerChange` and `applyServiceChange`, with the word for the type in the error. -/
def applyTypedChange (kind : NodeKind) (word : String) (step : Step) (p : ℕ) (m : Memory) :
    Option String × Memory :=
  let change := step.change
  if change.action = "add" then (none, addNodes spare kind step p m)
  else if change.action = "remove" then
    (none, removeNodes spare (kind.isTarget change.target) change.count p m)
  else (some ("unknown " ++ word ++ " action: " ++ change.action), m)

/-- `applyContainerChange`. -/
def applyContainerChange : Step → ℕ → Memory → Option String × Memory :=
  applyTypedChange spare containerKind "container"

/-- `applyServiceChange`. -/
def applyServiceChange : Step → ℕ → Memory → Option String × Memory :=
  applyTypedChange spare serviceKind "service"

/-! ## Changes of edges -/

/-- The default latency of a new edge. -/
def addedLatency : Float64 := .ofNat 10 (by decide)

/-- The default latency of an edge that is modified. -/
def modifiedLatency : Float64 := .ofNat 50 (by decide)

/-- The latency of the configuration, or the default. -/
def latencyOf (change : InfraChange) (default : Float64) : Float64 :=
  ((change.config.find? "latency_ms").bind fun entry => scanFloat entry.2).getD default

/-- The ID of the other end of a new edge. -/
def destID (target : String) : String := target ++ "-dest"

/-- The new edge. -/
def newEdge {μ : Type} (step : Step) (labels : μ) : TopologyEdge μ where
  id := "sim-edge-" ++ step.change.target
  sourceID := step.change.target
  targetID := destID step.change.target
  type := "http"
  protocol := "http"
  labels := some labels
  latencyP50 := latencyOf scanFloat step.change addedLatency
  lastSeen := step.now 0

/-- The action "add" for edges. -/
def addEdge (step : Step) (p : ℕ) (m : Memory) : Memory :=
  let (labels, maps) := newMap simulationLabels m.maps
  let edge := newEdge scanFloat step labels
  let (edges, arrays) := Slice.append spare edge (m.deref p).edges m.edges
  { m with edges := arrays, maps }.update p { m.deref p with edges }

/-- The target is at an end of the edge. -/
def touches {μ : Type} (target : String) (edge : TopologyEdge μ) : Bool :=
  edge.sourceID = target || edge.targetID = target

/-- Set the latency of an edge in place, if the target is at an end. -/
def modifyEdge (change : InfraChange) (edges : Option Slice) (i : ℕ) (edge : TopologyEdge ℕ)
    (m : Memory) : Memory :=
  if touches change.target edge then
    let latencyP50 := latencyOf scanFloat change modifiedLatency
    { m with edges := Slice.set i { edge with latencyP50 } edges m.edges }
  else m

/-- The action "modify". -/
def modifyEdges (change : InfraChange) (p : ℕ) (m : Memory) : Memory :=
  let edges := (m.deref p).edges
  Slice.forEach Memory.edges edges (modifyEdge scanFloat change edges) m

/-- The edge is from the target to its other end. -/
def isNewEdge {μ : Type} (target : String) (edge : TopologyEdge μ) : Bool :=
  edge.sourceID = target && edge.targetID = destID target

/-- The action "remove" for edges. -/
def removeEdges (target : String) (p : ℕ) (m : Memory) : Memory :=
  let (edges, arrays) := Slice.rebuild spare (keepIf fun edge => !isNewEdge target edge) ()
    (m.deref p).edges m.edges
  { m with edges := arrays }.update p { m.deref p with edges }

/-- `applyNetworkChange`. -/
def applyNetworkChange (step : Step) (p : ℕ) (m : Memory) : Option String × Memory :=
  let change := step.change
  if change.action = "add" then (none, addEdge spare scanFloat step p m)
  else if change.action = "modify" then (none, modifyEdges scanFloat change p m)
  else if change.action = "remove" then (none, removeEdges spare change.target p m)
  else (some ("unknown network action: " ++ change.action), m)

/-! ## All changes -/

/-- One round of the loop of `applyChanges`. -/
def applyChange (step : Step) (p : ℕ) (m : Memory) : Option String × Memory :=
  let wrap (text : String) (result : Option String × Memory) : Option String × Memory :=
    (result.1.map (text ++ ·), result.2)
  if step.change.type = "host" then
    wrap "apply host change: " (applyHostChange spare step p m)
  else if step.change.type = "container" then
    wrap "apply container change: " (applyContainerChange spare step p m)
  else if step.change.type = "service" then
    wrap "apply service change: " (applyServiceChange spare step p m)
  else if step.change.type = "network" then
    wrap "apply network change: " (applyNetworkChange spare scanFloat step p m)
  else (some ("unknown change type: " ++ step.change.type), m)

/-- The loop of `applyChanges`. -/
def applyAll (p : ℕ) : List Step → Memory → Except String ℕ × Memory
  | [], m => (.ok p, m)
  | step :: steps, m =>
    match applyChange spare scanFloat step p m with
    | (some err, m) => (.error err, m)
    | (none, m) => applyAll p steps m

/-- `applyChanges`: a pointer to the copy, or an error. -/
def applyChanges (topology : Option ℕ) (steps : List Step) (m : Memory) :
    Except String ℕ × Memory :=
  match topology with
  | none => (.error "topology is nil, cannot apply changes", m)
  | some src =>
    let (modified, m) := deepCopyTopology src m
    applyAll spare scanFloat modified steps m

end Paryty.Simulation.WhatIf

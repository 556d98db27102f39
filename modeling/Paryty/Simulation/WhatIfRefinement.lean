import Mathlib.Data.List.Forall2
import Paryty.Simulation.WhatIf

/-!
# What-if changes on topologies

A topology as a value, what each change does to it, and that the changes on memory do just that to
the copy and nothing to what was there before.

* `Memory.load` reads a topology from memory.
* `Memory.Holds old m p t`: a pointer to `t`, all of which was allocated after `old`, and what is in
  `old` is unchanged. Each change keeps this.
* `applyChanges_refines`: what `applyChanges` returns and leaves in memory.
-/

namespace Paryty.Simulation.WhatIf

open Lib (Arrays Slice)
open Lib.Slice (Fresh emitAll getElem?_extend read_extend prefix_modify)

/-! ## Topologies as values -/

/-- A topology, and not where it is. -/
structure Topology where
  nodes : List (TopologyNode StringMap)
  edges : List (TopologyEdge StringMap)
  timestamp : Instant
  version : ℕ

variable (spare : ℕ → ℕ) (scanFloat : String → Option Float64)

namespace Topology

/-- The IDs of the nodes. -/
def nodeIDs (t : Topology) : List String := t.nodes.map TopologyNode.id

/-- The new nodes. -/
def newNodes (kind : NodeKind) (step : Step) : List (TopologyNode StringMap) :=
  (List.range step.change.count.toNat).map
    (kind.newNode step.change.target step.now simulationLabels Lib.Table.empty)

def addNodes (kind : NodeKind) (step : Step) (t : Topology) : Topology :=
  { t with nodes := t.nodes ++ newNodes kind step }

def pruneOrphanedEdges (t : Topology) : Topology :=
  { t with edges := t.edges.filter fun edge =>
      decide (edge.sourceID ∈ t.nodeIDs ∧ edge.targetID ∈ t.nodeIDs) }

def removeNodes (q : TopologyNode StringMap → Bool) (count : ℤ) (t : Topology) : Topology :=
  pruneOrphanedEdges { t with nodes := (emitAll (dropCounted q count) 0 t.nodes).2 }

def scaleNodes (target : String) (count : ℤ) (t : Topology) : Topology :=
  { t with nodes := (emitAll (scaleNode target count) () t.nodes).2 }

def addEdge (step : Step) (t : Topology) : Topology :=
  { t with edges := t.edges ++ [newEdge scanFloat step simulationLabels] }

/-- The edge with the new latency, if the target is at an end. -/
def modifyEdge (change : InfraChange) (edge : TopologyEdge StringMap) : TopologyEdge StringMap :=
  if touches change.target edge then
    { edge with latencyP50 := latencyOf scanFloat change modifiedLatency }
  else edge

def modifyEdges (change : InfraChange) (t : Topology) : Topology :=
  { t with edges := t.edges.map (modifyEdge scanFloat change) }

def removeEdges (target : String) (t : Topology) : Topology :=
  { t with edges := t.edges.filter fun edge => !isNewEdge target edge }

def applyHostChange (step : Step) (t : Topology) : Except String Topology :=
  let change := step.change
  if change.action = "add" then .ok (t.addNodes hostKind step)
  else if change.action = "remove" then .ok (t.removeNodes (isTarget change.target) change.count)
  else if change.action = "scale" then .ok (t.scaleNodes change.target change.count)
  else .error ("unknown host action: " ++ change.action)

def applyTypedChange (kind : NodeKind) (word : String) (step : Step) (t : Topology) :
    Except String Topology :=
  let change := step.change
  if change.action = "add" then .ok (t.addNodes kind step)
  else if change.action = "remove" then
    .ok (t.removeNodes (kind.isTarget change.target) change.count)
  else .error ("unknown " ++ word ++ " action: " ++ change.action)

def applyNetworkChange (step : Step) (t : Topology) : Except String Topology :=
  let change := step.change
  if change.action = "add" then .ok (t.addEdge scanFloat step)
  else if change.action = "modify" then .ok (t.modifyEdges scanFloat change)
  else if change.action = "remove" then .ok (t.removeEdges change.target)
  else .error ("unknown network action: " ++ change.action)

def applyChange (step : Step) (t : Topology) : Except String Topology :=
  if step.change.type = "host" then
    (t.applyHostChange step).mapError ("apply host change: " ++ ·)
  else if step.change.type = "container" then
    (t.applyTypedChange containerKind "container" step).mapError ("apply container change: " ++ ·)
  else if step.change.type = "service" then
    (t.applyTypedChange serviceKind "service" step).mapError ("apply service change: " ++ ·)
  else if step.change.type = "network" then
    (t.applyNetworkChange scanFloat step).mapError ("apply network change: " ++ ·)
  else .error ("unknown change type: " ++ step.change.type)

/-- One change after another, up to the first error. -/
def applyChanges (steps : List Step) (t : Topology) : Except String Topology :=
  steps.foldlM (fun t step => t.applyChange scanFloat step) t

end Topology

/-! ## Topologies in memory -/

/-- What is in a map, if it is there; nil is nil. -/
def loadMap (maps : List StringMap) : Option ℕ → Option (Option StringMap)
  | none => some none
  | some r => maps[r]?.map some

/-- A node with its maps. -/
def TopologyNode.load (maps : List StringMap) (node : TopologyNode ℕ) :
    Option (TopologyNode StringMap) :=
  (loadMap maps node.labels).bind fun labels =>
    (loadMap maps node.metadata).map fun metadata => { node with labels, metadata }

/-- An edge with its map. -/
def TopologyEdge.load (maps : List StringMap) (edge : TopologyEdge ℕ) :
    Option (TopologyEdge StringMap) :=
  (loadMap maps edge.labels).map fun labels => { edge with labels }

/-- What a pointer to a topology reaches. -/
def Memory.load (m : Memory) (p : ℕ) : Option Topology := do
  let topology ← m.topologies[p]?
  let nodes ← (← Slice.read m.nodes topology.nodes).mapM (TopologyNode.load m.maps)
  let edges ← (← Slice.read m.edges topology.edges).mapM (TopologyEdge.load m.maps)
  pure { nodes, edges, timestamp := topology.timestamp, version := topology.version }

/-- What was there before is unchanged. -/
structure Memory.Extends (old m : Memory) : Prop where
  nodes : old.nodes <+: m.nodes
  edges : old.edges <+: m.edges
  maps : old.maps <+: m.maps
  topologies : old.topologies <+: m.topologies

/-- The node in memory is this one. -/
def NodeAt (maps : List StringMap) (cell : TopologyNode ℕ) (node : TopologyNode StringMap) : Prop :=
  cell.load maps = some node

/-- The edge in memory is this one. -/
def EdgeAt (maps : List StringMap) (cell : TopologyEdge ℕ) (edge : TopologyEdge StringMap) : Prop :=
  cell.load maps = some edge

/-- The pointer is to a topology that was allocated after `old`, which is unchanged. -/
structure Memory.Holds (old m : Memory) (p : ℕ) (t : Topology) : Prop where
  maps : old.maps <+: m.maps
  topologies : old.topologies <+: m.topologies
  after : old.topologies.length ≤ p
  inside : p < m.topologies.length
  timestamp : (m.deref p).timestamp = t.timestamp
  version : (m.deref p).version = t.version
  nodes : ∃ cells, Fresh old.nodes m.nodes (m.deref p).nodes cells ∧
    List.Forall₂ (NodeAt m.maps) cells t.nodes
  edges : ∃ cells, Fresh old.edges m.edges (m.deref p).edges cells ∧
    List.Forall₂ (EdgeAt m.maps) cells t.edges

/-! ## Reading -/

variable {maps maps' : List StringMap}

lemma mapM_eq_some {α β : Type} {f : α → Option β} {xs : List α} {ys : List β} :
    xs.mapM f = some ys ↔ List.Forall₂ (fun a b => f a = some b) xs ys := by
  induction xs generalizing ys with
  | nil => simp [List.mapM_nil, eq_comm]
  | cons a xs ih =>
    rw [List.mapM_cons, List.forall₂_cons_left_iff]
    simp [Option.bind_eq_some_iff, ih, eq_comm (a := ys)]

lemma loadMap_extend (hext : maps <+: maps') {r : Option ℕ} {entries : Option StringMap}
    (h : loadMap maps r = some entries) : loadMap maps' r = some entries := by
  cases r with
  | none => exact h
  | some r =>
    obtain ⟨found, hfound, rfl⟩ := Option.map_eq_some_iff.mp h
    exact Option.map_eq_some_iff.mpr ⟨found, getElem?_extend hext hfound, rfl⟩

lemma nodeAt_iff {cell : TopologyNode ℕ} {node : TopologyNode StringMap} :
    NodeAt maps cell node ↔ ∃ labels metadata, loadMap maps cell.labels = some labels ∧
      loadMap maps cell.metadata = some metadata ∧ { cell with labels, metadata } = node := by
  simp [NodeAt, TopologyNode.load, Option.bind_eq_some_iff]

lemma edgeAt_iff {cell : TopologyEdge ℕ} {edge : TopologyEdge StringMap} :
    EdgeAt maps cell edge ↔ ∃ labels, loadMap maps cell.labels = some labels ∧
      { cell with labels } = edge := by
  simp [EdgeAt, TopologyEdge.load]

lemma NodeAt.extend {cell : TopologyNode ℕ} {node : TopologyNode StringMap}
    (h : NodeAt maps cell node) (hext : maps <+: maps') : NodeAt maps' cell node := by
  obtain ⟨labels, metadata, hlabels, hmetadata, rfl⟩ := nodeAt_iff.mp h
  exact nodeAt_iff.mpr
    ⟨labels, metadata, loadMap_extend hext hlabels, loadMap_extend hext hmetadata, rfl⟩

lemma EdgeAt.extend {cell : TopologyEdge ℕ} {edge : TopologyEdge StringMap}
    (h : EdgeAt maps cell edge) (hext : maps <+: maps') : EdgeAt maps' cell edge := by
  obtain ⟨labels, hlabels, rfl⟩ := edgeAt_iff.mp h
  exact edgeAt_iff.mpr ⟨labels, loadMap_extend hext hlabels, rfl⟩

lemma load_eq_some {m : Memory} {p : ℕ} {t : Topology} : m.load p = some t ↔
    ∃ topology, m.topologies[p]? = some topology ∧
      topology.timestamp = t.timestamp ∧ topology.version = t.version ∧
      (∃ cells, Slice.read m.nodes topology.nodes = some cells ∧
        List.Forall₂ (NodeAt m.maps) cells t.nodes) ∧
      ∃ cells, Slice.read m.edges topology.edges = some cells ∧
        List.Forall₂ (EdgeAt m.maps) cells t.edges := by
  simp only [Memory.load, Option.bind_eq_bind, Option.bind_eq_some_iff, Option.pure_def,
    Option.some.injEq, mapM_eq_some]
  constructor
  · rintro ⟨topology, hp, cells, hcells, nodes, hnodes, cells', hcells', edges, hedges, rfl⟩
    exact ⟨topology, hp, rfl, rfl, ⟨cells, hcells, hnodes⟩, cells', hcells', hedges⟩
  · rintro ⟨topology, hp, htime, hversion, ⟨cells, hcells, hnodes⟩, cells', hcells', hedges⟩
    refine ⟨topology, hp, cells, hcells, _, hnodes, cells', hcells', _, hedges, ?_⟩
    rw [htime, hversion]

/-- What could be read can still be read, if nothing that was there changed. -/
theorem Memory.Extends.load {m m' : Memory} (hext : m.Extends m') {p : ℕ} {t : Topology}
    (h : m.load p = some t) : m'.load p = some t := by
  obtain ⟨topology, hp, htime, hversion, ⟨nodes, hnodes, hnodesAt⟩, edges, hedges, hedgesAt⟩ :=
    load_eq_some.mp h
  exact load_eq_some.mpr ⟨topology, getElem?_extend hext.topologies hp, htime, hversion,
    ⟨nodes, read_extend hnodes hext.nodes, hnodesAt.imp fun _ _ hcell => hcell.extend hext.maps⟩,
    edges, read_extend hedges hext.edges, hedgesAt.imp fun _ _ hcell => hcell.extend hext.maps⟩

/-! ## Copying -/

lemma foldl_put (t : StringMap) : t.rows.foldl StringMap.put Lib.Table.empty = t := by
  have hrows : ∀ l : List (String × String), (l.map Prod.fst).Nodup →
      (l.foldl StringMap.put Lib.Table.empty).rows = l := by
    intro l hl
    induction l using List.reverseRecOn with
    | nil => rfl
    | append_singleton l entry ih =>
      rw [List.map_append, List.map_singleton, ← List.concat_eq_append, List.nodup_concat] at hl
      have hnew : ¬ (l.foldl StringMap.put Lib.Table.empty).HasKey entry.1 := by
        rintro ⟨old, hold, hkey⟩
        rw [ih hl.2] at hold
        exact hl.1 (hkey ▸ List.mem_map_of_mem hold)
      rw [List.foldl_append, List.foldl_cons, List.foldl_nil, StringMap.put, Lib.Table.upsert,
        dif_neg hnew]
      exact congrArg (· ++ [entry]) (ih hl.2)
  exact Lib.Table.ext (hrows t.rows t.nodup)

lemma foldl_modify (maps : List StringMap) (entries : List (String × String)) (copied : StringMap) :
    entries.foldl (fun maps' entry => maps'.modify maps.length (·.put entry)) (maps ++ [copied]) =
      maps ++ [entries.foldl StringMap.put copied] := by
  induction entries generalizing copied with
  | nil => rfl
  | cons entry entries ih =>
    have hmodify : (maps ++ [copied]).modify maps.length (·.put entry) =
        maps ++ [copied.put entry] := by
      simp [List.modify_eq_take_drop]
    rw [List.foldl_cons, hmodify, ih, List.foldl_cons]

lemma copyMap_spec {r : Option ℕ} {entries : Option StringMap} (h : loadMap maps r = some entries) :
    maps <+: (copyMap r maps).2 ∧ loadMap (copyMap r maps).2 (copyMap r maps).1 = some entries := by
  cases r with
  | none => exact ⟨List.prefix_rfl, h⟩
  | some r =>
    obtain ⟨found, hfound, rfl⟩ := Option.map_eq_some_iff.mp h
    have hcopy : (copyMap (some r) maps).2 = maps ++ [found] := by
      simp only [copyMap, newMap, hfound, Option.getD_some]
      rw [foldl_modify, foldl_put]
    rw [hcopy]
    exact ⟨List.prefix_append _ _, by simp [loadMap, copyMap, newMap]⟩

/-- Maps are added, and edges and topologies are as they were. -/
structure LaterNodes (m m' : Memory) : Prop where
  edges : m'.edges = m.edges
  maps : m.maps <+: m'.maps
  topologies : m'.topologies = m.topologies

/-- Maps are added, and nodes and topologies are as they were. -/
structure LaterEdges (m m' : Memory) : Prop where
  nodes : m'.nodes = m.nodes
  maps : m.maps <+: m'.maps
  topologies : m'.topologies = m.topologies

lemma LaterNodes.trans {m m' m'' : Memory} (h : LaterNodes m m') (h' : LaterNodes m' m'') :
    LaterNodes m m'' :=
  ⟨h'.edges.trans h.edges, h.maps.trans h'.maps, h'.topologies.trans h.topologies⟩

lemma LaterEdges.trans {m m' m'' : Memory} (h : LaterEdges m m') (h' : LaterEdges m' m'') :
    LaterEdges m m'' :=
  ⟨h'.nodes.trans h.nodes, h.maps.trans h'.maps, h'.topologies.trans h.topologies⟩

lemma copyNodeMaps_spec {old : Arrays (TopologyNode ℕ)} {m : Memory} {copy : Option Slice}
    {cells : List (TopologyNode ℕ)} (hfresh : Fresh old m.nodes copy cells) {i : ℕ}
    {cell : TopologyNode ℕ} (hi : cells[i]? = some cell) {value : TopologyNode StringMap}
    (hcell : NodeAt m.maps cell value) :
    LaterNodes m (copyNodeMaps copy i cell m) ∧ ∃ cell',
      Fresh old (copyNodeMaps copy i cell m).nodes copy (cells.set i cell') ∧
        NodeAt (copyNodeMaps copy i cell m).maps cell' value := by
  obtain ⟨labels, metadata, hlabels, hmetadata, rfl⟩ := nodeAt_iff.mp hcell
  obtain ⟨hfirst, hcopied⟩ := copyMap_spec hlabels
  obtain ⟨hsecond, hcopied'⟩ := copyMap_spec (loadMap_extend hfirst hmetadata)
  refine ⟨⟨rfl, hfirst.trans hsecond, rfl⟩, _,
    hfresh.set i (List.getElem?_eq_some_iff.mp hi).1 _, ?_⟩
  exact nodeAt_iff.mpr
    ⟨labels, metadata, loadMap_extend hsecond hcopied, hcopied', rfl⟩

/-- The nodes are copied, with copies of their maps. -/
theorem copyNodes_spec {m : Memory} {nodes : Option Slice} {cells : List (TopologyNode ℕ)}
    {values : List (TopologyNode StringMap)} (hread : Slice.read m.nodes nodes = some cells)
    (hcells : List.Forall₂ (NodeAt m.maps) cells values) :
    LaterNodes m (copyNodes nodes m).2 ∧ ∃ copied,
      Fresh m.nodes (copyNodes nodes m).2.nodes (copyNodes nodes m).1 copied ∧
        List.Forall₂ (NodeAt (copyNodes nodes m).2.maps) copied values := by
  cases nodes with
  | none =>
    obtain rfl : [] = cells := Option.some.inj hread
    exact ⟨⟨rfl, List.prefix_rfl, rfl⟩, [], .nil List.prefix_rfl, hcells⟩
  | some s =>
    obtain ⟨hlater, hcopied⟩ := Lib.Slice.fresh_forEach Memory.nodes LaterNodes (NodeAt m.maps)
      (fun st => NodeAt st.maps) { m with nodes := (Slice.clone (some s) m.nodes).2 }
      ⟨rfl, List.prefix_rfl, rfl⟩ (fun _ _ => LaterNodes.trans)
      (fun _ _ _ _ hlater hcell => hcell.extend hlater.maps)
      (fun i cell value st cells' hlater hcell hfresh hi => copyNodeMaps_spec hfresh hi
        (hcell.extend hlater.maps))
      (Lib.Slice.fresh_clone hread) hcells
    exact ⟨⟨hlater.edges, hlater.maps, hlater.topologies⟩, hcopied⟩

lemma copyEdgeMaps_spec {old : Arrays (TopologyEdge ℕ)} {m : Memory} {copy : Option Slice}
    {cells : List (TopologyEdge ℕ)} (hfresh : Fresh old m.edges copy cells) {i : ℕ}
    {cell : TopologyEdge ℕ} (hi : cells[i]? = some cell) {value : TopologyEdge StringMap}
    (hcell : EdgeAt m.maps cell value) :
    LaterEdges m (copyEdgeMaps copy i cell m) ∧ ∃ cell',
      Fresh old (copyEdgeMaps copy i cell m).edges copy (cells.set i cell') ∧
        EdgeAt (copyEdgeMaps copy i cell m).maps cell' value := by
  obtain ⟨labels, hlabels, rfl⟩ := edgeAt_iff.mp hcell
  obtain ⟨hmaps, hcopied⟩ := copyMap_spec hlabels
  exact ⟨⟨rfl, hmaps, rfl⟩, _, hfresh.set i (List.getElem?_eq_some_iff.mp hi).1 _,
    edgeAt_iff.mpr ⟨labels, hcopied, rfl⟩⟩

/-- The edges are copied, with copies of their maps. -/
theorem copyEdges_spec {m : Memory} {edges : Option Slice} {cells : List (TopologyEdge ℕ)}
    {values : List (TopologyEdge StringMap)} (hread : Slice.read m.edges edges = some cells)
    (hcells : List.Forall₂ (EdgeAt m.maps) cells values) :
    LaterEdges m (copyEdges edges m).2 ∧ ∃ copied,
      Fresh m.edges (copyEdges edges m).2.edges (copyEdges edges m).1 copied ∧
        List.Forall₂ (EdgeAt (copyEdges edges m).2.maps) copied values := by
  cases edges with
  | none =>
    obtain rfl : [] = cells := Option.some.inj hread
    exact ⟨⟨rfl, List.prefix_rfl, rfl⟩, [], .nil List.prefix_rfl, hcells⟩
  | some s =>
    obtain ⟨hlater, hcopied⟩ := Lib.Slice.fresh_forEach Memory.edges LaterEdges (EdgeAt m.maps)
      (fun st => EdgeAt st.maps) { m with edges := (Slice.clone (some s) m.edges).2 }
      ⟨rfl, List.prefix_rfl, rfl⟩ (fun _ _ => LaterEdges.trans)
      (fun _ _ _ _ hlater hcell => hcell.extend hlater.maps)
      (fun i cell value st cells' hlater hcell hfresh hi => copyEdgeMaps_spec hfresh hi
        (hcell.extend hlater.maps))
      (Lib.Slice.fresh_clone hread) hcells
    exact ⟨⟨hlater.nodes, hlater.maps, hlater.topologies⟩, hcopied⟩

lemma deref_of_getElem? {m : Memory} {p : ℕ} {topology : TopologyStruct}
    (h : m.topologies[p]? = some topology) : m.deref p = topology := by
  rw [Memory.deref, List.getD_eq_getElem?_getD, h, Option.getD_some]

/-- The copy is the same topology, elsewhere. -/
theorem deepCopyTopology_spec {m : Memory} {src : ℕ} {t : Topology} (h : m.load src = some t) :
    m.Holds (deepCopyTopology src m).2 (deepCopyTopology src m).1 t := by
  obtain ⟨topology, hsrc, htime, hversion, ⟨nodes, hnodes, hnodesAt⟩, edges, hedges, hedgesAt⟩ :=
    load_eq_some.mp h
  obtain rfl := deref_of_getElem? hsrc
  obtain ⟨hlater, copied, hcopied, hcopiedAt⟩ := copyNodes_spec hnodes hnodesAt
  rw [← hlater.edges] at hedges
  obtain ⟨hlater', copied', hcopied', hcopiedAt'⟩ := copyEdges_spec hedges
    (hedgesAt.imp fun _ _ hcell => hcell.extend hlater.maps)
  have htopologies := hlater'.topologies.trans hlater.topologies
  have hderef : (deepCopyTopology src m).2.deref (deepCopyTopology src m).1 =
      { nodes := (copyNodes (m.deref src).nodes m).1
        edges := (copyEdges (m.deref src).edges (copyNodes (m.deref src).nodes m).2).1
        timestamp := (m.deref src).timestamp
        version := (m.deref src).version } :=
    deref_of_getElem? List.getElem?_concat_length
  constructor
  case maps => exact hlater.maps.trans hlater'.maps
  case topologies =>
    rw [← htopologies]
    exact List.prefix_append _ _
  case after => exact Nat.le_of_eq (congrArg List.length htopologies.symm)
  case inside => simp [deepCopyTopology]
  case timestamp => rw [hderef, htime]
  case version => rw [hderef, hversion]
  case nodes =>
    rw [hderef]
    refine ⟨copied, ?_, hcopiedAt.imp fun _ _ hcell => hcell.extend hlater'.maps⟩
    rwa [← hlater'.nodes] at hcopied
  case edges =>
    rw [hderef]
    refine ⟨copied', ?_, hcopiedAt'⟩
    rwa [hlater.edges] at hcopied'

/-! ## Changes -/

section Changes

variable {old m : Memory} {p : ℕ} {t : Topology}

lemma deref_update (hp : p < m.topologies.length) (topology : TopologyStruct) :
    (m.update p topology).deref p = topology :=
  deref_of_getElem? (by rw [Memory.update, List.getElem?_set_self hp])

lemma Memory.Holds.extends (h : old.Holds m p t) : old.Extends m := by
  obtain ⟨_, hnodes, -⟩ := h.nodes
  obtain ⟨_, hedges, -⟩ := h.edges
  exact ⟨hnodes.kept, hedges.kept, h.maps, h.topologies⟩

lemma Memory.Holds.load (h : old.Holds m p t) : m.load p = some t := by
  obtain ⟨nodes, hnodes, hnodesAt⟩ := h.nodes
  obtain ⟨edges, hedges, hedgesAt⟩ := h.edges
  refine load_eq_some.mpr ⟨m.deref p, ?_, h.timestamp, h.version, ⟨nodes, hnodes.read, hnodesAt⟩,
    edges, hedges.read, hedgesAt⟩
  rw [Memory.deref, List.getD_eq_getElem?_getD, List.getElem?_eq_getElem h.inside, Option.getD_some]

lemma prefix_set {α : Type} {l l' : List α} (h : l <+: l') {i : ℕ} (hi : l.length ≤ i) (a : α) :
    l <+: l'.set i a := by
  obtain ⟨rest, rfl⟩ := h
  rw [List.set_append_right _ _ hi]
  exact List.prefix_append _ _

lemma Memory.Holds.setNodes (h : old.Holds m p t) {maps : List StringMap}
    {arrays : Arrays (TopologyNode ℕ)} {nodes : Option Slice} {cells : List (TopologyNode ℕ)}
    {values : List (TopologyNode StringMap)} (hmaps : m.maps <+: maps)
    (hfresh : Fresh old.nodes arrays nodes cells)
    (hcells : List.Forall₂ (NodeAt maps) cells values) :
    old.Holds ({ m with nodes := arrays, maps }.update p { m.deref p with nodes }) p
      { t with nodes := values } := by
  have hderef := deref_update (m := { m with nodes := arrays, maps }) h.inside
    { m.deref p with nodes }
  constructor
  case maps => exact h.maps.trans hmaps
  case topologies => exact prefix_set h.topologies h.after _
  case after => exact h.after
  case inside => exact h.inside.trans_eq (List.length_set).symm
  case timestamp => rw [hderef, h.timestamp]
  case version => rw [hderef, h.version]
  case nodes =>
    rw [hderef]
    exact ⟨cells, hfresh, hcells⟩
  case edges =>
    rw [hderef]
    obtain ⟨edges, hedges, hedgesAt⟩ := h.edges
    exact ⟨edges, hedges, hedgesAt.imp fun _ _ hcell => hcell.extend hmaps⟩

lemma Memory.Holds.setEdges (h : old.Holds m p t) {maps : List StringMap}
    {arrays : Arrays (TopologyEdge ℕ)} {edges : Option Slice} {cells : List (TopologyEdge ℕ)}
    {values : List (TopologyEdge StringMap)} (hmaps : m.maps <+: maps)
    (hfresh : Fresh old.edges arrays edges cells)
    (hcells : List.Forall₂ (EdgeAt maps) cells values) :
    old.Holds ({ m with edges := arrays, maps }.update p { m.deref p with edges }) p
      { t with edges := values } := by
  have hderef := deref_update (m := { m with edges := arrays, maps }) h.inside
    { m.deref p with edges }
  constructor
  case maps => exact h.maps.trans hmaps
  case topologies => exact prefix_set h.topologies h.after _
  case after => exact h.after
  case inside => exact h.inside.trans_eq (List.length_set).symm
  case timestamp => rw [hderef, h.timestamp]
  case version => rw [hderef, h.version]
  case nodes =>
    rw [hderef]
    obtain ⟨nodes, hnodes, hnodesAt⟩ := h.nodes
    exact ⟨nodes, hnodes, hnodesAt.imp fun _ _ hcell => hcell.extend hmaps⟩
  case edges =>
    rw [hderef]
    exact ⟨cells, hfresh, hcells⟩

lemma Memory.Holds.editEdges (h : old.Holds m p t) {m' : Memory} (hlater : LaterEdges m m')
    {cells : List (TopologyEdge ℕ)} {values : List (TopologyEdge StringMap)}
    (hfresh : Fresh old.edges m'.edges (m.deref p).edges cells)
    (hcells : List.Forall₂ (EdgeAt m'.maps) cells values) :
    old.Holds m' p { t with edges := values } := by
  have hderef : m'.deref p = m.deref p := by rw [Memory.deref, Memory.deref, hlater.topologies]
  constructor
  case maps => exact h.maps.trans hlater.maps
  case topologies => exact hlater.topologies ▸ h.topologies
  case after => exact h.after
  case inside => exact hlater.topologies ▸ h.inside
  case timestamp => rw [hderef, h.timestamp]
  case version => rw [hderef, h.version]
  case nodes =>
    rw [hderef, hlater.nodes]
    obtain ⟨nodes, hnodes, hnodesAt⟩ := h.nodes
    exact ⟨nodes, hnodes, hnodesAt.imp fun _ _ hcell => hcell.extend hlater.maps⟩
  case edges =>
    rw [hderef]
    exact ⟨cells, hfresh, hcells⟩

lemma loadMap_newMap (entries : StringMap) (maps : List StringMap) :
    loadMap (maps ++ [entries]) (some maps.length) = some (some entries) := by
  rw [loadMap, List.getElem?_concat_length, Option.map_some]

theorem Memory.Holds.addNode (h : old.Holds m p t) (kind : NodeKind) (step : Step) (i : ℕ) :
    old.Holds (addNode spare kind step p i m) p
      { t with nodes := t.nodes ++
        [kind.newNode step.change.target step.now simulationLabels Lib.Table.empty i] } := by
  obtain ⟨cells, hcells, hcellsAt⟩ := h.nodes
  have hlabels : m.maps <+: m.maps ++ [simulationLabels] := List.prefix_append _ _
  have hmetadata : m.maps ++ [simulationLabels] <+:
      m.maps ++ [simulationLabels] ++ [Lib.Table.empty] := List.prefix_append _ _
  refine h.setNodes (hlabels.trans hmetadata) (hcells.append spare _)
    (List.rel_append (hcellsAt.imp fun _ _ hcell => hcell.extend (hlabels.trans hmetadata))
      (.cons ?_ .nil))
  exact nodeAt_iff.mpr ⟨_, _, loadMap_extend hmetadata (loadMap_newMap simulationLabels m.maps),
    loadMap_newMap Lib.Table.empty (m.maps ++ [simulationLabels]), rfl⟩

theorem Memory.Holds.addNodes (h : old.Holds m p t) (kind : NodeKind) (step : Step) :
    old.Holds (addNodes spare kind step p m) p (t.addNodes kind step) := by
  rw [WhatIf.addNodes, Topology.addNodes, Topology.newNodes]
  induction step.change.count.toNat with
  | zero => simpa using h
  | succ n ih =>
    rw [Nat.fold_succ, List.range_succ, List.map_append, List.map_singleton, ← List.append_assoc]
    exact ih.addNode spare kind step n

lemma emitAll_keepIf {α : Type} (q : α → Bool) (xs : List α) :
    (emitAll (keepIf q) () xs).2 = xs.filter q := by
  induction xs using List.reverseRecOn with
  | nil => rfl
  | append_singleton xs a ih =>
    rw [Lib.Slice.emitAll_concat, ih, List.filter_append, List.filter_cons, List.filter_nil]
    rfl

lemma Memory.Holds.rebuildNodes {τ : Type} (h : old.Holds m p t)
    {emit : τ → TopologyNode ℕ → τ × List (TopologyNode ℕ)}
    {emit' : τ → TopologyNode StringMap → τ × List (TopologyNode StringMap)}
    (hemit : ∀ s cell node, NodeAt m.maps cell node → (emit s cell).1 = (emit' s node).1 ∧
      List.Forall₂ (NodeAt m.maps) (emit s cell).2 (emit' s node).2) (start : τ) :
    old.Holds ({ m with
        nodes := (Slice.rebuild spare emit start (m.deref p).nodes m.nodes).2 }.update p
      { m.deref p with nodes := (Slice.rebuild spare emit start (m.deref p).nodes m.nodes).1 }) p
      { t with nodes := (emitAll emit' start t.nodes).2 } := by
  obtain ⟨cells, hcells, hcellsAt⟩ := h.nodes
  exact h.setNodes List.prefix_rfl
    ((Lib.Slice.fresh_rebuild spare emit start hcells.read).weaken hcells.kept)
    (Lib.Slice.forall₂_emitAll hemit hcellsAt start)

lemma Memory.Holds.rebuildEdges {τ : Type} (h : old.Holds m p t)
    {emit : τ → TopologyEdge ℕ → τ × List (TopologyEdge ℕ)}
    {emit' : τ → TopologyEdge StringMap → τ × List (TopologyEdge StringMap)}
    (hemit : ∀ s cell edge, EdgeAt m.maps cell edge → (emit s cell).1 = (emit' s edge).1 ∧
      List.Forall₂ (EdgeAt m.maps) (emit s cell).2 (emit' s edge).2) (start : τ) :
    old.Holds ({ m with
        edges := (Slice.rebuild spare emit start (m.deref p).edges m.edges).2 }.update p
      { m.deref p with edges := (Slice.rebuild spare emit start (m.deref p).edges m.edges).1 }) p
      { t with edges := (emitAll emit' start t.edges).2 } := by
  obtain ⟨cells, hcells, hcellsAt⟩ := h.edges
  exact h.setEdges List.prefix_rfl
    ((Lib.Slice.fresh_rebuild spare emit start hcells.read).weaken hcells.kept)
    (Lib.Slice.forall₂_emitAll hemit hcellsAt start)

lemma keepIf_related {α β : Type} {R : α → β → Prop} {q : α → Bool} {q' : β → Bool}
    (hq : ∀ a b, R a b → q a = q' b) (s : Unit) (a : α) (b : β) (hab : R a b) :
    (keepIf q s a).1 = (keepIf q' s b).1 ∧ List.Forall₂ R (keepIf q s a).2 (keepIf q' s b).2 := by
  refine ⟨rfl, ?_⟩
  rw [keepIf, keepIf, hq a b hab]
  split
  · exact .cons hab .nil
  · exact .nil

lemma dropCounted_related {α β : Type} {R : α → β → Prop} {q : α → Bool} {q' : β → Bool}
    (hq : ∀ a b, R a b → q a = q' b) (count : ℤ) (removed : ℕ) (a : α) (b : β) (hab : R a b) :
    (dropCounted q count removed a).1 = (dropCounted q' count removed b).1 ∧
      List.Forall₂ R (dropCounted q count removed a).2 (dropCounted q' count removed b).2 := by
  rw [dropCounted, dropCounted, hq a b hab]
  split
  · exact ⟨rfl, .nil⟩
  · exact ⟨rfl, .cons hab .nil⟩

lemma NodeAt.isTarget {cell : TopologyNode ℕ} {node : TopologyNode StringMap}
    (h : NodeAt maps cell node) (target : String) :
    isTarget target cell = isTarget target node := by
  obtain ⟨_, _, -, -, rfl⟩ := nodeAt_iff.mp h
  rfl

lemma NodeAt.clone {cell : TopologyNode ℕ} {node : TopologyNode StringMap}
    (h : NodeAt maps cell node) (i : ℕ) :
    NodeAt maps { cell with id := cloneID cell.id i } { node with id := cloneID node.id i } := by
  obtain ⟨labels, metadata, hlabels, hmetadata, rfl⟩ := nodeAt_iff.mp h
  exact nodeAt_iff.mpr ⟨labels, metadata, hlabels, hmetadata, rfl⟩

lemma scaleNode_related {maps : List StringMap} (target : String) (count : ℤ) (s : Unit)
    (cell : TopologyNode ℕ) (node : TopologyNode StringMap) (h : NodeAt maps cell node) :
    (scaleNode target count s cell).1 = (scaleNode target count s node).1 ∧
      List.Forall₂ (NodeAt maps) (scaleNode target count s cell).2
        (scaleNode target count s node).2 := by
  refine ⟨rfl, ?_⟩
  rw [scaleNode, scaleNode, h.isTarget target]
  dsimp only
  split_ifs
  · rw [List.forall₂_map_left_iff, List.forall₂_map_right_iff, List.forall₂_same]
    exact fun i _ => h.clone i
  · exact .cons h .nil

theorem Memory.Holds.pruneOrphanedEdges (h : old.Holds m p t) :
    old.Holds (pruneOrphanedEdges spare p m) p t.pruneOrphanedEdges := by
  obtain ⟨cells, hcells, hcellsAt⟩ := h.nodes
  have hids : ((Slice.read m.nodes (m.deref p).nodes).getD []).map TopologyNode.id = t.nodeIDs := by
    rw [hcells.read, Option.getD_some, Topology.nodeIDs, ← List.forall₂_eq_eq_eq,
      List.forall₂_map_left_iff, List.forall₂_map_right_iff]
    refine hcellsAt.imp fun cell node hcell => ?_
    obtain ⟨_, _, -, -, rfl⟩ := nodeAt_iff.mp hcell
    rfl
  rw [Topology.pruneOrphanedEdges, ← emitAll_keepIf, WhatIf.pruneOrphanedEdges, hids]
  refine h.rebuildEdges spare (keepIf_related fun cell edge hcell => ?_) ()
  obtain ⟨_, -, rfl⟩ := edgeAt_iff.mp hcell
  rfl

theorem Memory.Holds.removeNodes (h : old.Holds m p t) {q : TopologyNode ℕ → Bool}
    {q' : TopologyNode StringMap → Bool}
    (hq : ∀ cell node, NodeAt m.maps cell node → q cell = q' node) (count : ℤ) :
    old.Holds (removeNodes spare q count p m) p (t.removeNodes q' count) :=
  (h.rebuildNodes spare (dropCounted_related hq count) 0).pruneOrphanedEdges spare

theorem Memory.Holds.scaleNodes (h : old.Holds m p t) (target : String) (count : ℤ) :
    old.Holds (scaleNodes spare target count p m) p (t.scaleNodes target count) :=
  h.rebuildNodes spare (scaleNode_related target count) ()

theorem Memory.Holds.addEdge (h : old.Holds m p t) (step : Step) :
    old.Holds (addEdge spare scanFloat step p m) p (t.addEdge scanFloat step) := by
  obtain ⟨cells, hcells, hcellsAt⟩ := h.edges
  have hlabels : m.maps <+: m.maps ++ [simulationLabels] := List.prefix_append _ _
  refine h.setEdges hlabels (hcells.append spare _)
    (List.rel_append (hcellsAt.imp fun _ _ hcell => hcell.extend hlabels) (.cons ?_ .nil))
  exact edgeAt_iff.mpr ⟨_, loadMap_newMap simulationLabels m.maps, rfl⟩

theorem Memory.Holds.removeEdges (h : old.Holds m p t) (target : String) :
    old.Holds (removeEdges spare target p m) p (t.removeEdges target) := by
  rw [Topology.removeEdges, ← emitAll_keepIf]
  refine h.rebuildEdges spare (keepIf_related fun cell edge hcell => ?_) ()
  obtain ⟨_, -, rfl⟩ := edgeAt_iff.mp hcell
  rfl

lemma modifyEdge_spec {old : Arrays (TopologyEdge ℕ)} {m : Memory} {edges : Option Slice}
    {cells : List (TopologyEdge ℕ)} (hfresh : Fresh old m.edges edges cells) {i : ℕ}
    {cell : TopologyEdge ℕ} (hi : cells[i]? = some cell) {edge : TopologyEdge StringMap}
    (hcell : EdgeAt m.maps cell edge) (change : InfraChange) :
    LaterEdges m (modifyEdge scanFloat change edges i cell m) ∧ ∃ cell',
      Fresh old (modifyEdge scanFloat change edges i cell m).edges edges (cells.set i cell') ∧
        EdgeAt (modifyEdge scanFloat change edges i cell m).maps cell'
          (Topology.modifyEdge scanFloat change edge) := by
  obtain ⟨hlt, hget⟩ := List.getElem?_eq_some_iff.mp hi
  obtain ⟨labels, hlabels, rfl⟩ := edgeAt_iff.mp hcell
  unfold modifyEdge Topology.modifyEdge
  by_cases htouches : touches change.target cell
  · rw [if_pos htouches, if_pos (by exact htouches)]
    exact ⟨⟨rfl, List.prefix_rfl, rfl⟩, _, hfresh.set i hlt _,
      edgeAt_iff.mpr ⟨labels, hlabels, rfl⟩⟩
  · rw [if_neg htouches, if_neg (by exact htouches)]
    refine ⟨⟨rfl, List.prefix_rfl, rfl⟩, cell, ?_, hcell⟩
    rwa [← hget, List.set_getElem_self]

/-- The latencies are written in place, in the copy. -/
theorem Memory.Holds.modifyEdges (h : old.Holds m p t) (change : InfraChange) :
    old.Holds (modifyEdges scanFloat change p m) p (t.modifyEdges scanFloat change) := by
  obtain ⟨cells, hcells, hcellsAt⟩ := h.edges
  obtain ⟨hlater, changed, hchanged, hchangedAt⟩ := Lib.Slice.fresh_forEach
    Memory.edges LaterEdges (EdgeAt m.maps)
    (fun st cell edge => EdgeAt st.maps cell (Topology.modifyEdge scanFloat change edge)) m
    ⟨rfl, List.prefix_rfl, rfl⟩ (fun _ _ => LaterEdges.trans)
    (fun _ _ _ _ hlater hcell => hcell.extend hlater.maps)
    (fun i cell edge st cells' hlater hcell hfresh hi => modifyEdge_spec scanFloat hfresh hi
      (hcell.extend hlater.maps) change)
    hcells hcellsAt
  rw [← List.forall₂_map_right_iff] at hchangedAt
  exact h.editEdges hlater hchanged hchangedAt

/-- What a change returns and leaves in memory, for what it does to the topology. -/
def Refines (old : Memory) (p : ℕ) (result : Option String × Memory) :
    Except String Topology → Prop
  | .ok t => result.1 = none ∧ old.Holds result.2 p t
  | .error err => result.1 = some err ∧ old.Extends result.2

theorem Memory.Holds.applyHostChange (h : old.Holds m p t) (step : Step) :
    Refines old p (applyHostChange spare step p m) (t.applyHostChange step) := by
  unfold WhatIf.applyHostChange Topology.applyHostChange
  dsimp only
  split_ifs
  · exact ⟨rfl, h.addNodes spare hostKind step⟩
  · exact ⟨rfl, h.removeNodes spare (fun _ _ hcell => hcell.isTarget _) _⟩
  · exact ⟨rfl, h.scaleNodes spare step.change.target step.change.count⟩
  · exact ⟨rfl, h.extends⟩

theorem Memory.Holds.applyTypedChange (h : old.Holds m p t) (kind : NodeKind) (word : String)
    (step : Step) : Refines old p (applyTypedChange spare kind word step p m)
      (t.applyTypedChange kind word step) := by
  unfold WhatIf.applyTypedChange Topology.applyTypedChange
  dsimp only
  split_ifs
  · exact ⟨rfl, h.addNodes spare kind step⟩
  · refine ⟨rfl, h.removeNodes spare (fun cell node hcell => ?_) _⟩
    obtain ⟨_, _, -, -, rfl⟩ := nodeAt_iff.mp hcell
    rfl
  · exact ⟨rfl, h.extends⟩

theorem Memory.Holds.applyNetworkChange (h : old.Holds m p t) (step : Step) :
    Refines old p (applyNetworkChange spare scanFloat step p m)
      (t.applyNetworkChange scanFloat step) := by
  unfold WhatIf.applyNetworkChange Topology.applyNetworkChange
  dsimp only
  split_ifs
  · exact ⟨rfl, h.addEdge spare scanFloat step⟩
  · exact ⟨rfl, h.modifyEdges scanFloat step.change⟩
  · exact ⟨rfl, h.removeEdges spare step.change.target⟩
  · exact ⟨rfl, h.extends⟩

lemma Refines.wrap {result : Option String × Memory} {value : Except String Topology}
    (h : Refines old p result value) (text : String) :
    Refines old p (result.1.map (text ++ ·), result.2) (value.mapError (text ++ ·)) := by
  cases value with
  | ok t => exact ⟨by rw [h.1]; rfl, h.2⟩
  | error err => exact ⟨by rw [h.1]; rfl, h.2⟩

theorem Memory.Holds.applyChange (h : old.Holds m p t) (step : Step) :
    Refines old p (applyChange spare scanFloat step p m) (t.applyChange scanFloat step) := by
  unfold WhatIf.applyChange Topology.applyChange
  dsimp only
  split_ifs
  · exact (h.applyHostChange spare step).wrap _
  · exact (h.applyTypedChange spare containerKind _ step).wrap _
  · exact (h.applyTypedChange spare serviceKind _ step).wrap _
  · exact (h.applyNetworkChange spare scanFloat step).wrap _
  · exact ⟨rfl, h.extends⟩

/-- What `applyChanges` returns and leaves in memory, for what becomes of the topology. -/
def Returns (old : Memory) (result : Except String ℕ × Memory) : Except String Topology → Prop
  | .ok t => ∃ p, result.1 = .ok p ∧ old.Holds result.2 p t
  | .error err => result.1 = .error err ∧ old.Extends result.2

theorem Memory.Holds.applyAll (h : old.Holds m p t) (steps : List Step) :
    Returns old (applyAll spare scanFloat p steps m) (t.applyChanges scanFloat steps) := by
  induction steps generalizing m t with
  | nil => exact ⟨p, rfl, h⟩
  | cons step steps ih =>
    have hstep := h.applyChange spare scanFloat step
    rw [Topology.applyChanges, List.foldlM_cons, WhatIf.applyAll]
    generalize WhatIf.applyChange spare scanFloat step p m = result at hstep ⊢
    obtain ⟨error, m'⟩ := result
    cases hvalue : t.applyChange scanFloat step with
    | ok t' =>
      rw [hvalue] at hstep
      obtain ⟨rfl, hnext⟩ := hstep
      exact ih hnext
    | error err =>
      rw [hvalue] at hstep
      obtain ⟨rfl, hext⟩ := hstep
      exact ⟨rfl, hext⟩

/-- `applyChanges` on memory is `applyChanges` on the topology that is there, in new memory. -/
theorem applyChanges_refines {src : ℕ} (h : m.load src = some t) (steps : List Step) :
    Returns m (applyChanges spare scanFloat (some src) steps m) (t.applyChanges scanFloat steps) :=
  (deepCopyTopology_spec h).applyAll spare scanFloat steps

end Changes

end Paryty.Simulation.WhatIf

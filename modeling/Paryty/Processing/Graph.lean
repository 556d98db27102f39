import Mathlib.Data.Int.Notation
import Mathlib.Data.Set.Insert
import Paryty.Lib.Table

/-!
# The dependency graph

`DependencyGraph` of `cluster/internal/processing/graph.go`: nodes, edges under the key
`source:target`, outgoing adjacency lists, and a capped buffer of recorded changes.

* `DependencyGraph.apply` is one public operation. All of them hold the graph's lock.
* `Linked`: the adjacency lists are those of the stored edges. Every operation keeps it.
* For each operation, the node IDs and the pairs of the stored edges afterwards.
-/

namespace Paryty.Processing

/-! ## Data -/

/-- `GraphNode`. -/
structure GraphNode (ν : Type*) where
  id : String
  agentID : String
  /-- `Name`, `Type`, `Labels` and `HealthStatus`. -/
  attributes : ν
  firstSeen : ℤ
  lastSeen : ℤ
deriving DecidableEq

/-- An existing node with the data of a new one. -/
def GraphNode.updated {ν : Type*} (existing node : GraphNode ν) : GraphNode ν :=
  { existing with
    agentID := node.agentID
    attributes := node.attributes
    lastSeen := node.lastSeen }

lemma GraphNode.id_updated {ν : Type*} (node existing : GraphNode ν) :
    (existing.updated node).id = existing.id := rfl

/-- `GraphEdge`. -/
structure GraphEdge (α : Type*) where
  sourceID : String
  targetID : String
  /-- `Protocol`, `Port`, `Frequency`, `LatencyMs`, `ErrorRate` and `Labels`. -/
  attributes : α
  firstSeen : ℤ
  lastSeen : ℤ
deriving DecidableEq

/-- `edgeKey`. -/
def edgeKey (sourceID targetID : String) : String := sourceID ++ ":" ++ targetID

namespace GraphEdge

variable {α : Type*}

/-- The key it is stored under. -/
def key (e : GraphEdge α) : String := edgeKey e.sourceID e.targetID

/-- What it connects. -/
def pair (e : GraphEdge α) : String × String := (e.sourceID, e.targetID)

/-- An existing edge with the data of a new one. -/
def updated (existing edge : GraphEdge α) : GraphEdge α :=
  { existing with
    attributes := edge.attributes
    lastSeen := edge.lastSeen }

lemma key_updated (edge existing : GraphEdge α) : (existing.updated edge).key = existing.key := rfl

end GraphEdge

/-- The type of a change, with what it is about. -/
inductive ChangeType
  | nodeAdded (id : String)
  | nodeRemoved (id : String)
  | edgeAdded (pair : String × String)
  | edgeRemoved (pair : String × String)
  | edgeUpdated (pair : String × String)
deriving DecidableEq

/-- `GraphChange`. `Node` and `Edge` point into the graph: of them the IDs are kept. -/
structure GraphChange where
  type : ChangeType
  timestamp : ℤ
  agentID : String
deriving DecidableEq

/-- `maxGraphChanges`. -/
def maxGraphChanges : ℕ := 5000

/-- `DependencyGraph`. -/
structure DependencyGraph (ν α : Type*) where
  nodes : Lib.Table (GraphNode ν) String GraphNode.id := .empty
  edges : Lib.Table (GraphEdge α) String GraphEdge.key := .empty
  adjacency : Lib.Table (String × List String) String Prod.fst := .empty
  changes : List GraphChange := []
  /-- How many changes were recorded since the last `GetChanges`. -/
  recorded : ℕ := 0

/-- `graphSnapshot`, as `Snapshot` builds it from an edge map. -/
structure GraphSnapshot (ν α : Type*) where
  nodes : List (GraphNode ν)
  edges : List (GraphEdge α)
  distinct : (edges.map GraphEdge.key).Nodup

namespace DependencyGraph

variable {ν α : Type*}

/-! ## Operations -/

/-- `recordChange`. -/
def recordChange (g : DependencyGraph ν α) (c : GraphChange) : DependencyGraph ν α :=
  { g with
    changes := (if maxGraphChanges ≤ g.changes.length then g.changes.drop 1 else g.changes) ++ [c]
    recorded := g.recorded + 1 }

/-- The adjacency list of a node. -/
def targets (g : DependencyGraph ν α) (id : String) : List String :=
  ((g.adjacency.find? id).map Prod.snd).getD []

/-- The agent of a node. -/
def agentOf (g : DependencyGraph ν α) (id : String) : String :=
  ((g.nodes.find? id).map GraphNode.agentID).getD ""

/-- `g.adjacency[sourceID] = append(g.adjacency[sourceID], targetID)`. -/
def link (adjacency : Lib.Table (String × List String) String Prod.fst) (e : GraphEdge α) :
    Lib.Table (String × List String) String Prod.fst :=
  adjacency.upsert (e.sourceID, [e.targetID]) (fun r => (r.1, r.2 ++ [e.targetID])) fun _ => rfl

/-- `removeNodeInternal`. -/
def removeNodeInternal (now : ℤ) (g : DependencyGraph ν α) (id : String) : DependencyGraph ν α :=
  match g.nodes.find? id with
  | none => g
  | some node =>
    let outgoing := (g.targets id).map (edgeKey id)
    let adjacency := g.adjacency.deleteWhere fun r => r.1 = id
    let incoming := adjacency.rows.flatMap fun r => (r.2.filter (· = id)).map (edgeKey r.1)
    recordChange
      { g with
        nodes := g.nodes.deleteWhere fun n => n.id = id
        edges := g.edges.deleteWhere fun e => e.key ∈ outgoing ++ incoming
        adjacency := adjacency.updateWhere (fun _ => true)
          (fun r => (r.1, r.2.filter (· ≠ id))) fun _ => rfl }
      ⟨.nodeRemoved id, now, node.agentID⟩

/-- `AddOrUpdateNode`. -/
def addOrUpdateNode (g : DependencyGraph ν α) (node : GraphNode ν) (now : ℤ) :
    DependencyGraph ν α :=
  if g.nodes.HasKey node.id then
    { g with
      nodes := g.nodes.upsert node (·.updated node) (GraphNode.id_updated node) }
  else
    recordChange
      { g with
        nodes := g.nodes.put node
        adjacency := g.adjacency.upsert (node.id, []) (fun r => r) fun _ => rfl }
      ⟨.nodeAdded node.id, now, node.agentID⟩

/-- `AddOrUpdateEdge`. -/
def addOrUpdateEdge (g : DependencyGraph ν α) (edge : GraphEdge α) (now : ℤ) :
    DependencyGraph ν α :=
  match g.edges.find? edge.key with
  | some existing =>
    recordChange
      { g with
        edges := g.edges.upsert edge (·.updated edge) (GraphEdge.key_updated edge) }
      ⟨.edgeUpdated existing.pair, now, g.agentOf edge.sourceID⟩
  | none =>
    recordChange
      { g with
        edges := g.edges.put edge
        adjacency := link g.adjacency edge }
      ⟨.edgeAdded edge.pair, now, g.agentOf edge.sourceID⟩

/-- The node is older than the cutoff. -/
def isStale (g : DependencyGraph ν α) (cutoff : ℤ) (id : String) : Bool :=
  (g.nodes.find? id).any fun node => node.lastSeen < cutoff

/-- The node IDs in the order in which the map is ranged over: any order of them. -/
def ranged (g : DependencyGraph ν α) (order : List String) : List String :=
  if order.Perm (g.nodes.rows.map GraphNode.id) then order else g.nodes.rows.map GraphNode.id

/-- The body of the loop in `RemoveStaleNodes`. -/
def removeIfStale (cutoff now : ℤ) (g : DependencyGraph ν α) (id : String) :
    DependencyGraph ν α :=
  if g.isStale cutoff id then g.removeNodeInternal now id else g

/-- `RemoveStaleNodes`. -/
def removeStaleNodes (g : DependencyGraph ν α) (cutoff now : ℤ) (order : List String) :
    DependencyGraph ν α :=
  (g.ranged order).foldl (removeIfStale cutoff now) g

/-- `GetChanges`. -/
def getChanges (g : DependencyGraph ν α) : DependencyGraph ν α × List GraphChange :=
  ({ g with changes := [], recorded := 0 }, g.changes)

/-- What `Snapshot` stores. -/
def snapshot (g : DependencyGraph ν α) : GraphSnapshot ν α where
  nodes := g.nodes.rows
  edges := g.edges.rows
  distinct := g.edges.nodup

/-- `Restore`, from a snapshot that was found. -/
def restore (g : DependencyGraph ν α) (snap : GraphSnapshot ν α) : DependencyGraph ν α :=
  { g with
    nodes := .ofList snap.nodes
    edges := .ofList snap.edges
    adjacency := snap.edges.foldl link (.ofList (snap.nodes.map fun node => (node.id, []))) }

/-- A public operation that changes the graph or its buffer. -/
inductive Op (ν α : Type*)
  | addOrUpdateNode (node : GraphNode ν) (now : ℤ)
  | addOrUpdateEdge (edge : GraphEdge α) (now : ℤ)
  | removeStaleNodes (cutoff now : ℤ) (order : List String)
  | restore (snap : GraphSnapshot ν α)
  | getChanges

/-- An operation. -/
def apply (g : DependencyGraph ν α) : Op ν α → DependencyGraph ν α
  | .addOrUpdateNode node now => g.addOrUpdateNode node now
  | .addOrUpdateEdge edge now => g.addOrUpdateEdge edge now
  | .removeStaleNodes cutoff now order => g.removeStaleNodes cutoff now order
  | .restore snap => g.restore snap
  | .getChanges => g.getChanges.1

/-! ## The node and edge sets -/

/-- The IDs of the nodes. -/
def ids (g : DependencyGraph ν α) : Set String := {id | g.nodes.HasKey id}

/-- What the stored edges connect. -/
def pairs (g : DependencyGraph ν α) : Set (String × String) := {p | ∃ e ∈ g.edges, e.pair = p}

/-- The adjacency lists are those of the stored edges. -/
def Linked (g : DependencyGraph ν α) : Prop :=
  ∀ source target, target ∈ g.targets source ↔ (source, target) ∈ g.pairs

variable {g : DependencyGraph ν α}

lemma mem_ids {id : String} : id ∈ g.ids ↔ g.nodes.HasKey id := Iff.rfl

lemma mem_pairs {p : String × String} : p ∈ g.pairs ↔ ∃ e ∈ g.edges, e.pair = p := Iff.rfl

@[simp] lemma ids_recordChange (c : GraphChange) : (g.recordChange c).ids = g.ids := rfl

@[simp] lemma pairs_recordChange (c : GraphChange) : (g.recordChange c).pairs = g.pairs := rfl

@[simp] lemma recorded_recordChange (c : GraphChange) :
    (g.recordChange c).recorded = g.recorded + 1 := rfl

lemma key_of_pair {e e' : GraphEdge α} (h : e.pair = e'.pair) : e.key = e'.key := by
  obtain ⟨hsource, htarget⟩ := Prod.mk.inj h
  rw [GraphEdge.key, hsource, htarget, GraphEdge.key]

/-! ### Nodes -/

lemma ids_addOrUpdateNode (node : GraphNode ν) (now : ℤ) :
    (g.addOrUpdateNode node now).ids = insert node.id g.ids := by
  unfold addOrUpdateNode
  split
  · next hkey =>
    ext id
    simp only [mem_ids, Set.mem_insert_iff, Lib.Table.hasKey_iff_find?, Lib.Table.find?_upsert]
    by_cases hid : id = node.id
    · simp [hid]
    · simp [hid]
  · ext id
    simp only [ids_recordChange, mem_ids, Set.mem_insert_iff, Lib.Table.hasKey_put]
    rw [or_comm, eq_comm]

lemma pairs_addOrUpdateNode (node : GraphNode ν) (now : ℤ) :
    (g.addOrUpdateNode node now).pairs = g.pairs := by
  unfold addOrUpdateNode
  split <;> rfl

lemma edges_addOrUpdateNode (node : GraphNode ν) (now : ℤ) :
    (g.addOrUpdateNode node now).edges = g.edges := by
  unfold addOrUpdateNode
  split <;> rfl

lemma targets_addOrUpdateNode (node : GraphNode ν) (now : ℤ) (id : String) :
    (g.addOrUpdateNode node now).targets id = g.targets id := by
  unfold addOrUpdateNode
  split
  · rfl
  · unfold targets recordChange
    dsimp only
    rw [Lib.Table.find?_upsert]
    split
    · next hid =>
      subst hid
      cases g.adjacency.find? node.id <;> simp
    · rfl

lemma Linked.addOrUpdateNode (h : g.Linked) (node : GraphNode ν) (now : ℤ) :
    (g.addOrUpdateNode node now).Linked := by
  intro source target
  rw [targets_addOrUpdateNode, pairs_addOrUpdateNode]
  exact h source target

/-! ### Edges -/

lemma ids_addOrUpdateEdge (edge : GraphEdge α) (now : ℤ) :
    (g.addOrUpdateEdge edge now).ids = g.ids := by
  unfold addOrUpdateEdge
  split <;> rfl

lemma pairs_addOrUpdateEdge_of_some {edge existing : GraphEdge α}
    (hfind : g.edges.find? edge.key = some existing) (now : ℤ) :
    (g.addOrUpdateEdge edge now).pairs = g.pairs := by
  unfold addOrUpdateEdge
  rw [hfind]
  obtain ⟨hmem, hkey⟩ := Lib.Table.find?_eq_some.mp hfind
  ext p
  simp only [pairs_recordChange, mem_pairs, Lib.Table.mem_upsert]
  constructor
  · rintro ⟨e, ⟨he, -⟩ | ⟨e₀, he₀, -, rfl⟩ | ⟨hnokey, -⟩, hp⟩
    · exact ⟨e, he, hp⟩
    · exact ⟨e₀, he₀, hp⟩
    · exact absurd ⟨existing, hmem, hkey⟩ hnokey
  · rintro ⟨e, he, hp⟩
    by_cases hsame : e.key = edge.key
    · exact ⟨_, .inr (.inl ⟨e, he, hsame, rfl⟩), hp⟩
    · exact ⟨e, .inl ⟨he, hsame⟩, hp⟩

lemma pairs_addOrUpdateEdge_of_none {edge : GraphEdge α} (hfind : g.edges.find? edge.key = none)
    (now : ℤ) : (g.addOrUpdateEdge edge now).pairs = insert edge.pair g.pairs := by
  unfold addOrUpdateEdge
  rw [hfind]
  ext p
  simp only [pairs_recordChange, mem_pairs, Lib.Table.mem_put, Set.mem_insert_iff]
  constructor
  · rintro ⟨e, rfl | ⟨he, -⟩, hp⟩
    · exact .inl hp.symm
    · exact .inr ⟨e, he, hp⟩
  · rintro (rfl | ⟨e, he, hp⟩)
    · exact ⟨edge, .inl rfl, rfl⟩
    · exact ⟨e, .inr ⟨he, Lib.Table.find?_eq_none.mp hfind e he⟩, hp⟩

lemma find?_addOrUpdateEdge (edge : GraphEdge α) (now : ℤ) (k : String) :
    (g.addOrUpdateEdge edge now).edges.find? k =
      if k = edge.key then some (((g.edges.find? k).map (·.updated edge)).getD edge)
      else g.edges.find? k := by
  unfold addOrUpdateEdge
  cases hfind : g.edges.find? edge.key with
  | some existing => exact Lib.Table.find?_upsert _ _ _ _ k
  | none =>
    refine (Lib.Table.find?_put _ _ k).trans ?_
    by_cases hk : k = edge.key
    · rw [if_pos hk, if_pos hk, hk, hfind]
      rfl
    · rw [if_neg hk, if_neg hk]

lemma getD_find?_link (adjacency : Lib.Table (String × List String) String Prod.fst)
    (edge : GraphEdge α) (id : String) :
    (((link adjacency edge).find? id).map Prod.snd).getD [] =
      ((adjacency.find? id).map Prod.snd).getD [] ++
        if id = edge.sourceID then [edge.targetID] else [] := by
  rw [link, Lib.Table.find?_upsert]
  by_cases hid : id = edge.sourceID
  · subst hid
    cases adjacency.find? edge.sourceID <;> simp
  · rw [if_neg hid, if_neg hid, List.append_nil]

lemma Linked.addOrUpdateEdge (h : g.Linked) (edge : GraphEdge α) (now : ℤ) :
    (g.addOrUpdateEdge edge now).Linked := by
  intro source target
  cases hfind : g.edges.find? edge.key with
  | some existing =>
    rw [pairs_addOrUpdateEdge_of_some hfind, ← h source target]
    unfold DependencyGraph.addOrUpdateEdge
    rw [hfind]
    rfl
  | none =>
    have htargets : (g.addOrUpdateEdge edge now).targets source =
        g.targets source ++ if source = edge.sourceID then [edge.targetID] else [] := by
      unfold DependencyGraph.addOrUpdateEdge
      rw [hfind]
      exact getD_find?_link g.adjacency edge source
    rw [pairs_addOrUpdateEdge_of_none hfind, htargets, List.mem_append, h source target,
      Set.mem_insert_iff, or_comm]
    refine or_congr_left ?_
    by_cases hsource : source = edge.sourceID
    · simp [hsource, GraphEdge.pair]
    · simp [hsource, GraphEdge.pair]

/-! ### Removed nodes -/

lemma removeNodeInternal_of_none {id : String} {now : ℤ} (h : g.nodes.find? id = none) :
    g.removeNodeInternal now id = g := by
  unfold removeNodeInternal
  rw [h]

lemma nodes_removeNodeInternal (now : ℤ) (id id' : String) :
    (g.removeNodeInternal now id).nodes.find? id' =
      if id' = id then none else g.nodes.find? id' := by
  unfold removeNodeInternal
  split
  · next hnone =>
    split
    · next hid => rw [hid, hnone]
    · rfl
  · exact Lib.Table.find?_erase g.nodes id id'

lemma ids_removeNodeInternal (now : ℤ) (id : String) :
    (g.removeNodeInternal now id).ids = g.ids \ {id} := by
  ext id'
  simp only [mem_ids, Set.mem_sdiff, Set.mem_singleton_iff, Lib.Table.hasKey_iff_find?,
    nodes_removeNodeInternal]
  by_cases hid : id' = id <;> simp [hid]

lemma targets_removeNodeInternal {id : String} {node : GraphNode ν}
    (hnode : g.nodes.find? id = some node) (now : ℤ) (source : String) :
    (g.removeNodeInternal now id).targets source =
      if source = id then [] else (g.targets source).filter (· ≠ id) := by
  unfold removeNodeInternal
  rw [hnode]
  unfold targets recordChange
  dsimp only
  rw [Lib.Table.find?_updateWhere, Lib.Table.find?_deleteWhere]
  cases hfind : g.adjacency.find? source with
  | none => simp
  | some r =>
    obtain ⟨-, rfl⟩ := Lib.Table.find?_eq_some.mp hfind
    by_cases hid : r.1 = id <;> simp [hid, Option.filter]

lemma mem_incoming {id k : String} : k ∈ ((g.adjacency.deleteWhere fun r => r.1 = id).rows.flatMap
    fun r => (r.2.filter (· = id)).map (edgeKey r.1)) ↔
      ∃ source, source ≠ id ∧ id ∈ g.targets source ∧ edgeKey source id = k := by
  simp only [List.mem_flatMap, List.mem_map, List.mem_filter, decide_eq_true_eq]
  constructor
  · rintro ⟨r, hr, target, ⟨htarget, rfl⟩, rfl⟩
    obtain ⟨hmem, hne⟩ := Lib.Table.mem_deleteWhere.mp hr
    refine ⟨r.1, by simpa using hne, ?_, rfl⟩
    have hfind : g.adjacency.find? r.1 = some r := Lib.Table.find?_eq_some.mpr ⟨hmem, rfl⟩
    rw [targets, hfind]
    exact htarget
  · rintro ⟨source, hne, htarget, rfl⟩
    unfold targets at htarget
    cases hfind : g.adjacency.find? source with
    | none =>
      rw [hfind] at htarget
      exact absurd htarget List.not_mem_nil
    | some r =>
      rw [hfind] at htarget
      obtain ⟨hmem, rfl⟩ := Lib.Table.find?_eq_some.mp hfind
      exact ⟨r, Lib.Table.mem_deleteWhere.mpr ⟨hmem, by simpa using hne⟩, id, ⟨htarget, rfl⟩, rfl⟩

lemma pairs_removeNodeInternal (h : g.Linked) {id : String} {node : GraphNode ν}
    (hnode : g.nodes.find? id = some node) (now : ℤ) :
    (g.removeNodeInternal now id).pairs = {p ∈ g.pairs | p.1 ≠ id ∧ p.2 ≠ id} := by
  -- A deleted key is that of a stored edge of the node.
  have hkey (k : String) : k ∈ (g.targets id).map (edgeKey id) ++
      ((g.adjacency.deleteWhere fun r => r.1 = id).rows.flatMap
        fun r => (r.2.filter (· = id)).map (edgeKey r.1)) ↔
      ∃ e ∈ g.edges, (e.sourceID = id ∨ e.targetID = id) ∧ e.key = k := by
    rw [List.mem_append, mem_incoming, List.mem_map]
    constructor
    · rintro (⟨target, htarget, rfl⟩ | ⟨source, -, htarget, rfl⟩)
      · obtain ⟨e, he, hpair⟩ := (h id target).mp htarget
        obtain ⟨rfl, rfl⟩ := Prod.mk.inj hpair
        exact ⟨e, he, .inl rfl, rfl⟩
      · obtain ⟨e, he, hpair⟩ := (h source id).mp htarget
        obtain ⟨rfl, rfl⟩ := Prod.mk.inj hpair
        exact ⟨e, he, .inr rfl, rfl⟩
    · rintro ⟨e, he, htouches, rfl⟩
      have hlisted : e.targetID ∈ g.targets e.sourceID := (h _ _).mpr ⟨e, he, rfl⟩
      by_cases hsource : e.sourceID = id
      · subst hsource
        exact .inl ⟨e.targetID, hlisted, rfl⟩
      · obtain rfl : e.targetID = id := htouches.resolve_left hsource
        exact .inr ⟨e.sourceID, hsource, hlisted, rfl⟩
  unfold removeNodeInternal
  rw [hnode]
  ext p
  simp only [pairs_recordChange, mem_pairs, Lib.Table.mem_deleteWhere, decide_eq_false_iff_not,
    hkey]
  constructor
  · rintro ⟨e, ⟨he, hkept⟩, rfl⟩
    refine ⟨⟨e, he, rfl⟩, fun hsource => ?_, fun htarget => ?_⟩
    · exact hkept ⟨e, he, .inl hsource, rfl⟩
    · exact hkept ⟨e, he, .inr htarget, rfl⟩
  · rintro ⟨⟨e, he, rfl⟩, hsource, htarget⟩
    refine ⟨e, ⟨he, ?_⟩, rfl⟩
    rintro ⟨e', he', htouches, hsame⟩
    obtain rfl := g.edges.eq_of_key_eq he' he hsame
    exact htouches.elim hsource htarget

lemma Linked.removeNodeInternal (h : g.Linked) (id : String) (now : ℤ) :
    (g.removeNodeInternal now id).Linked := by
  cases hnode : g.nodes.find? id with
  | none => rwa [removeNodeInternal_of_none hnode]
  | some node =>
    intro source target
    rw [targets_removeNodeInternal hnode, pairs_removeNodeInternal h hnode, Set.mem_sep_iff,
      ← h source target]
    by_cases hsource : source = id <;> simp [hsource]

/-! ### Stale nodes -/

variable {cutoff now : ℤ}

lemma exists_of_isStale {id : String} (h : g.isStale cutoff id = true) :
    ∃ node, g.nodes.find? id = some node := by
  unfold isStale at h
  cases hfind : g.nodes.find? id with
  | none => simp [hfind] at h
  | some node => exact ⟨node, rfl⟩

lemma mem_ids_of_isStale {id : String} (h : g.isStale cutoff id = true) : id ∈ g.ids := by
  obtain ⟨node, hnode⟩ := exists_of_isStale h
  exact Lib.Table.hasKey_iff_find?.mpr (by simp [hnode])

lemma isStale_removeNodeInternal (id id' : String) :
    (g.removeNodeInternal now id).isStale cutoff id' =
      (decide (id' ≠ id) && g.isStale cutoff id') := by
  unfold isStale
  rw [nodes_removeNodeInternal]
  by_cases hid : id' = id <;> simp [hid]

lemma isStale_removeIfStale (id id' : String) :
    (removeIfStale cutoff now g id).isStale cutoff id' =
      (decide (id' ≠ id) && g.isStale cutoff id') := by
  unfold removeIfStale
  split
  · exact isStale_removeNodeInternal id id'
  · next hfresh =>
    by_cases hid : id' = id
    · simpa [hid] using hfresh
    · simp [hid]

lemma Linked.removeIfStale (h : g.Linked) (id : String) :
    (removeIfStale cutoff now g id).Linked := by
  unfold DependencyGraph.removeIfStale
  split
  · exact h.removeNodeInternal id now
  · exact h

lemma Linked.foldl_removeIfStale (h : g.Linked) (l : List String) :
    (l.foldl (DependencyGraph.removeIfStale cutoff now) g).Linked := by
  induction l generalizing g with
  | nil => exact h
  | cons id l ih => exact ih (h.removeIfStale id)

lemma ids_foldl_removeIfStale (l : List String) :
    (l.foldl (removeIfStale cutoff now) g).ids =
      {id ∈ g.ids | ¬ (id ∈ l ∧ g.isStale cutoff id = true)} := by
  induction l generalizing g with
  | nil => simp
  | cons id l ih =>
    have hids : (removeIfStale cutoff now g id).ids =
        {id' ∈ g.ids | ¬ (id' = id ∧ g.isStale cutoff id' = true)} := by
      unfold removeIfStale
      split
      · next hstale =>
        rw [ids_removeNodeInternal]
        ext id'
        simp only [Set.mem_sdiff, Set.mem_singleton_iff, Set.mem_sep_iff]
        refine and_congr_right fun _ => not_congr ⟨fun hid => ⟨hid, hid ▸ hstale⟩, And.left⟩
      · next hfresh =>
        ext id'
        simp only [Set.mem_sep_iff]
        refine (and_iff_left ?_).symm
        rintro ⟨rfl, hstale⟩
        exact hfresh hstale
    rw [List.foldl_cons, ih, hids]
    ext id'
    simp only [Set.mem_sep_iff, isStale_removeIfStale, List.mem_cons]
    by_cases hid : id' = id <;> simp [hid]

lemma pairs_foldl_removeIfStale (h : g.Linked) (l : List String) :
    (l.foldl (removeIfStale cutoff now) g).pairs =
      {p ∈ g.pairs | ∀ id ∈ l, g.isStale cutoff id = true → p.1 ≠ id ∧ p.2 ≠ id} := by
  induction l generalizing g with
  | nil => simp
  | cons id l ih =>
    have hpairs : (removeIfStale cutoff now g id).pairs =
        {p ∈ g.pairs | g.isStale cutoff id = true → p.1 ≠ id ∧ p.2 ≠ id} := by
      unfold removeIfStale
      split
      · next hstale =>
        obtain ⟨node, hnode⟩ := exists_of_isStale hstale
        rw [pairs_removeNodeInternal h hnode]
        simp [hstale]
      · next hfresh => simp [hfresh]
    rw [List.foldl_cons, ih (h.removeIfStale id), hpairs]
    ext p
    simp only [Set.mem_sep_iff, isStale_removeIfStale, List.forall_mem_cons, and_assoc]
    refine and_congr_right fun _ => and_congr_right fun hhead => forall₂_congr fun id' hid' => ?_
    by_cases hid : id' = id
    · subst hid
      simpa using hhead
    · simp [hid]

lemma perm_ranged (order : List String) : (g.ranged order).Perm (g.nodes.rows.map GraphNode.id) := by
  unfold ranged
  split
  · next hperm => exact hperm
  · exact .refl _

lemma mem_ranged {order : List String} {id : String} : id ∈ g.ranged order ↔ id ∈ g.ids := by
  rw [(perm_ranged order).mem_iff, List.mem_map]
  exact Iff.rfl

lemma ids_removeStaleNodes (order : List String) : (g.removeStaleNodes cutoff now order).ids =
    {id ∈ g.ids | g.isStale cutoff id = false} := by
  rw [removeStaleNodes, ids_foldl_removeIfStale]
  ext id
  simp only [Set.mem_sep_iff, mem_ranged]
  refine and_congr_right fun hid => ?_
  simp [hid]

lemma pairs_removeStaleNodes (h : g.Linked) (order : List String) :
    (g.removeStaleNodes cutoff now order).pairs =
      {p ∈ g.pairs | g.isStale cutoff p.1 = false ∧ g.isStale cutoff p.2 = false} := by
  rw [removeStaleNodes, pairs_foldl_removeIfStale h]
  ext p
  simp only [Set.mem_sep_iff]
  refine and_congr_right fun _ => ?_
  constructor
  · intro hkept
    constructor
    · by_contra hstale
      have hstale : g.isStale cutoff p.1 = true := by simpa using hstale
      exact (hkept p.1 (mem_ranged.mpr (mem_ids_of_isStale hstale)) hstale).1 rfl
    · by_contra hstale
      have hstale : g.isStale cutoff p.2 = true := by simpa using hstale
      exact (hkept p.2 (mem_ranged.mpr (mem_ids_of_isStale hstale)) hstale).2 rfl
  · rintro ⟨hsource, htarget⟩ id - hstale
    constructor
    · rintro rfl
      rw [hsource] at hstale
      cases hstale
    · rintro rfl
      rw [htarget] at hstale
      cases hstale

lemma subset_foldl_removeIfStale (l : List String) :
    (∀ node ∈ (l.foldl (removeIfStale cutoff now) g).nodes, node ∈ g.nodes) ∧
      ∀ e ∈ (l.foldl (removeIfStale cutoff now) g).edges, e ∈ g.edges := by
  induction l generalizing g with
  | nil => exact ⟨fun _ h => h, fun _ h => h⟩
  | cons id l ih =>
    have hone : (∀ node ∈ (removeIfStale cutoff now g id).nodes, node ∈ g.nodes) ∧
        ∀ e ∈ (removeIfStale cutoff now g id).edges, e ∈ g.edges := by
      unfold removeIfStale removeNodeInternal
      split
      · split
        · exact ⟨fun _ h => h, fun _ h => h⟩
        · exact ⟨fun _ h => (Lib.Table.mem_deleteWhere.mp h).1,
            fun _ h => (Lib.Table.mem_deleteWhere.mp h).1⟩
      · exact ⟨fun _ h => h, fun _ h => h⟩
    exact ⟨fun node h => hone.1 node (ih.1 node h), fun e h => hone.2 e (ih.2 e h)⟩

lemma mem_nodes_removeStaleNodes {order : List String} {node : GraphNode ν} :
    node ∈ (g.removeStaleNodes cutoff now order).nodes ↔
      node ∈ g.nodes ∧ ¬ node.lastSeen < cutoff := by
  have hstale (hnode : node ∈ g.nodes) :
      g.isStale cutoff node.id = decide (node.lastSeen < cutoff) := by
    rw [isStale, Lib.Table.find?_eq_some.mpr ⟨hnode, rfl⟩, Option.any_some]
  constructor
  · intro hmem
    have hold := (subset_foldl_removeIfStale _).1 node hmem
    have hid : node.id ∈ (g.removeStaleNodes cutoff now order).ids := Lib.Table.hasKey_of_mem hmem
    rw [ids_removeStaleNodes, Set.mem_sep_iff, hstale hold] at hid
    exact ⟨hold, of_decide_eq_false hid.2⟩
  · intro h
    obtain ⟨hold, hfresh⟩ := h
    have hid : node.id ∈ (g.removeStaleNodes cutoff now order).ids := by
      rw [ids_removeStaleNodes, Set.mem_sep_iff, hstale hold]
      exact ⟨Lib.Table.hasKey_of_mem hold, decide_eq_false hfresh⟩
    obtain ⟨node', hmem', hsame⟩ := hid
    obtain rfl :=
      g.nodes.eq_of_key_eq ((subset_foldl_removeIfStale _).1 node' hmem') hold hsame
    exact hmem'

lemma mem_edges_removeStaleNodes (h : g.Linked) {order : List String} {e : GraphEdge α} :
    e ∈ (g.removeStaleNodes cutoff now order).edges ↔
      e ∈ g.edges ∧ g.isStale cutoff e.sourceID = false ∧ g.isStale cutoff e.targetID = false := by
  have hpair : e.pair ∈ (g.removeStaleNodes cutoff now order).pairs ↔
      e.pair ∈ g.pairs ∧
        g.isStale cutoff e.sourceID = false ∧ g.isStale cutoff e.targetID = false := by
    rw [pairs_removeStaleNodes h]
    exact Iff.rfl
  constructor
  · intro hmem
    exact ⟨(subset_foldl_removeIfStale _).2 e hmem, (hpair.mp ⟨e, hmem, rfl⟩).2⟩
  · intro hkept
    obtain ⟨hold, hends⟩ := hkept
    obtain ⟨e', hmem', hsame⟩ := hpair.mpr ⟨⟨e, hold, rfl⟩, hends⟩
    obtain rfl := g.edges.eq_of_key_eq ((subset_foldl_removeIfStale _).2 e' hmem') hold
      (key_of_pair hsame)
    exact hmem'

lemma Linked.removeStaleNodes (h : g.Linked) (order : List String) :
    (g.removeStaleNodes cutoff now order).Linked := h.foldl_removeIfStale _

/-! ### Restored graphs -/

lemma ids_restore (snap : GraphSnapshot ν α) :
    (g.restore snap).ids = {id | ∃ node ∈ snap.nodes, node.id = id} := by
  ext id
  exact Lib.Table.hasKey_ofList

lemma pairs_restore (snap : GraphSnapshot ν α) :
    (g.restore snap).pairs = {p | ∃ e ∈ snap.edges, e.pair = p} := by
  ext p
  rw [mem_pairs]
  unfold restore
  simp only [Lib.Table.mem_ofList, Lib.Table.latestIn_iff_of_nodup snap.distinct]
  exact Iff.rfl

lemma getD_find?_foldl_link (edges : List (GraphEdge α))
    (adjacency : Lib.Table (String × List String) String Prod.fst) (id : String) :
    (((edges.foldl link adjacency).find? id).map Prod.snd).getD [] =
      ((adjacency.find? id).map Prod.snd).getD [] ++
        (edges.filter (·.sourceID = id)).map GraphEdge.targetID := by
  induction edges generalizing adjacency with
  | nil => simp
  | cons edge edges ih =>
    rw [List.foldl_cons, ih, getD_find?_link, List.append_assoc]
    by_cases hid : id = edge.sourceID
    · simp [hid]
    · simp [hid, Ne.symm hid]

lemma getD_find?_unlinked (nodes : List (GraphNode ν)) (id : String) :
    (((.ofList (nodes.map fun node => (node.id, [])) :
      Lib.Table (String × List String) String Prod.fst).find? id).map Prod.snd).getD [] = [] := by
  cases hfind : (.ofList (nodes.map fun node => (node.id, [])) :
      Lib.Table (String × List String) String Prod.fst).find? id with
  | none => rfl
  | some r =>
    have hmem := Lib.Table.mem_or_mem_of_mem_foldl_put (Lib.Table.find?_eq_some.mp hfind).1
    obtain ⟨node, -, rfl⟩ := List.mem_map.mp (hmem.resolve_left Lib.Table.not_mem_empty)
    rfl

lemma Linked.restore (g : DependencyGraph ν α) (snap : GraphSnapshot ν α) :
    (g.restore snap).Linked := by
  intro source target
  have htargets : (g.restore snap).targets source =
      (snap.edges.filter (·.sourceID = source)).map GraphEdge.targetID := by
    unfold targets DependencyGraph.restore
    dsimp only
    rw [getD_find?_foldl_link, getD_find?_unlinked, List.nil_append]
  rw [htargets, pairs_restore]
  simp [GraphEdge.pair, and_assoc]

/-! ### Every operation -/

/-- Every operation keeps the adjacency lists those of the stored edges. -/
theorem Linked.apply (h : g.Linked) (op : Op ν α) : (g.apply op).Linked := by
  cases op with
  | addOrUpdateNode node now => exact h.addOrUpdateNode node now
  | addOrUpdateEdge edge now => exact h.addOrUpdateEdge edge now
  | removeStaleNodes cutoff now order => exact h.removeStaleNodes order
  | restore snap => exact .restore g snap
  | getChanges => exact h

lemma Linked.empty : ({} : DependencyGraph ν α).Linked := by
  intro source target
  simp [targets, pairs]

end DependencyGraph

end Paryty.Processing

import Mathlib.Tactic.Ext
import Paryty.Lib.Run
import Paryty.Processing.Graph

/-!
# The change stream of the graph

`GetChanges` hands out what was recorded since the last call. A reader who keeps the node and edge
sets of that call replays the changes on them.

* `Complete`: unless the buffer overflowed, the replay gives the sets of the graph.
* `complete_iff`: the operations after which it does not.
* `dangling_edge`: a removed node takes its edges with it, and only the node is recorded.
-/

namespace Paryty.Processing

open DependencyGraph

namespace GraphChanges

variable {ν α : Type*}

/-! ## Replay -/

/-- The node and edge sets. -/
@[ext]
structure Sets where
  nodes : Set String
  edges : Set (String × String)

/-- What a change says about the sets. -/
def replayOne (sets : Sets) (c : GraphChange) : Sets :=
  match c.type with
  | .nodeAdded id => { sets with nodes := insert id sets.nodes }
  | .nodeRemoved id => { sets with nodes := sets.nodes \ {id} }
  | .edgeAdded pair => { sets with edges := insert pair sets.edges }
  | .edgeRemoved pair => { sets with edges := sets.edges \ {pair} }
  | .edgeUpdated _ => sets

/-- The changes in their order. -/
def replay (sets : Sets) (changes : List GraphChange) : Sets := changes.foldl replayOne sets

/-- The sets of a graph. -/
def setsOf (g : DependencyGraph ν α) : Sets := ⟨g.ids, g.pairs⟩

/-- The graph, and its sets at the last `GetChanges`. -/
structure State (ν α : Type*) where
  graph : DependencyGraph ν α := {}
  drained : Sets := ⟨∅, ∅⟩

/-- One operation. -/
def State.next (s : State ν α) (op : Op ν α) : State ν α where
  graph := s.graph.apply op
  drained :=
    match op with
    | .getChanges => setsOf s.graph
    | _ => s.drained

/-- With fewer changes than the buffer holds, the replay gives the sets of the graph. -/
def Complete (s : State ν α) : Prop :=
  s.graph.recorded < maxGraphChanges → replay s.drained s.graph.changes = setsOf s.graph

/-- The number of stale nodes. -/
def staleCount (g : DependencyGraph ν α) (cutoff : ℤ) : ℕ :=
  ((g.nodes.rows.map GraphNode.id).filter (g.isStale cutoff)).length

/-- Removed nodes have no edges, and a restored graph is the one that was there, as far as the buffer
does not overflow. -/
def Logged (s : State ν α) : Op ν α → Prop
  | .removeStaleNodes cutoff _ _ =>
    s.graph.recorded + staleCount s.graph cutoff < maxGraphChanges →
      ∀ p ∈ s.graph.pairs, s.graph.isStale cutoff p.1 = false ∧ s.graph.isStale cutoff p.2 = false
  | .restore snap =>
    s.graph.recorded < maxGraphChanges →
      (∀ id, id ∈ s.graph.ids ↔ ∃ node ∈ snap.nodes, node.id = id) ∧
        ∀ p, p ∈ s.graph.pairs ↔ ∃ e ∈ snap.edges, e.pair = p
  | _ => True

/-! ## Recorded changes -/

variable {g g' g'' : DependencyGraph ν α} {cs cs' : List GraphChange} {c : GraphChange}

/-- While the buffer is not full it has all that was recorded. -/
def Kept (g : DependencyGraph ν α) : Prop :=
  g.recorded ≤ maxGraphChanges → g.changes.length = g.recorded

/-- The second graph has recorded these changes after those of the first one. -/
structure Extends (g g' : DependencyGraph ν α) (cs : List GraphChange) : Prop where
  recorded : g'.recorded = g.recorded + cs.length
  changes : Kept g → g'.recorded ≤ maxGraphChanges → g'.changes = g.changes ++ cs

lemma Extends.refl (g : DependencyGraph ν α) : Extends g g [] :=
  ⟨rfl, fun _ _ => (List.append_nil _).symm⟩

/-- A change recorded by a graph with the buffer of `g`. -/
lemma Extends.recordChange (hchanges : g'.changes = g.changes) (hrecorded : g'.recorded = g.recorded)
    (c : GraphChange) : Extends g (g'.recordChange c) [c] := by
  constructor
  case recorded => rw [recorded_recordChange, hrecorded, List.length_singleton]
  case changes =>
    intro hkept hroom
    rw [recorded_recordChange, hrecorded] at hroom
    have hlength : g.changes.length = g.recorded := hkept (by omega)
    have hspace : ¬ maxGraphChanges ≤ g'.changes.length := by
      rw [hchanges, hlength]
      omega
    unfold DependencyGraph.recordChange
    dsimp only
    rw [if_neg hspace, hchanges]

lemma Extends.kept (h : Extends g g' cs) (hkept : Kept g) : Kept g' := by
  intro hroom
  have hrecorded := h.recorded
  rw [h.changes hkept hroom, List.length_append, hkept (by omega), hrecorded]

lemma Extends.trans (h : Extends g g' cs) (h' : Extends g' g'' cs') :
    Extends g g'' (cs ++ cs') := by
  have hrecorded := h.recorded
  have hrecorded' := h'.recorded
  constructor
  case recorded =>
    rw [List.length_append]
    omega
  case changes =>
    intro hkept hroom
    rw [h'.changes (h.kept hkept) hroom, h.changes hkept (by omega), List.append_assoc]

/-- The change that a removed node records. -/
def removal (g : DependencyGraph ν α) (now : ℤ) (id : String) : GraphChange :=
  ⟨.nodeRemoved id, now, g.agentOf id⟩

lemma extends_removeNodeInternal {id : String} {node : GraphNode ν}
    (hnode : g.nodes.find? id = some node) (now : ℤ) :
    Extends g (g.removeNodeInternal now id) [removal g now id] := by
  have hagent : g.agentOf id = node.agentID := by simp [agentOf, hnode]
  unfold removeNodeInternal
  rw [hnode, removal, hagent]
  exact .recordChange (by rfl) (by rfl) _

lemma extends_foldl_removeIfStale {cutoff now : ℤ} {l : List String} (hl : l.Nodup) :
    Extends g (l.foldl (removeIfStale cutoff now) g)
      ((l.filter (g.isStale cutoff)).map (removal g now)) := by
  induction l generalizing g with
  | nil => exact .refl g
  | cons id l ih =>
    obtain ⟨hid, hl⟩ := List.nodup_cons.mp hl
    rw [List.foldl_cons, List.filter_cons]
    unfold removeIfStale
    by_cases hstale : g.isStale cutoff id = true
    · rw [if_pos hstale, if_pos hstale, List.map_cons, ← List.singleton_append]
      obtain ⟨node, hnode⟩ := exists_of_isStale hstale
      -- The other nodes are as stale as before.
      have hrest : (l.filter ((g.removeNodeInternal now id).isStale cutoff)).map
          (removal (g.removeNodeInternal now id) now) =
            (l.filter (g.isStale cutoff)).map (removal g now) := by
        have hne (id' : String) (hmem : id' ∈ l) : id' ≠ id := fun h => hid (h ▸ hmem)
        have hfilter : l.filter ((g.removeNodeInternal now id).isStale cutoff) =
            l.filter (g.isStale cutoff) :=
          List.filter_congr fun id' hmem => by simp [isStale_removeNodeInternal, hne id' hmem]
        rw [hfilter]
        refine List.map_congr_left fun id' hmem => ?_
        rw [removal, removal, agentOf, agentOf, nodes_removeNodeInternal,
          if_neg (hne id' (List.mem_of_mem_filter hmem))]
      rw [← hrest]
      exact (extends_removeNodeInternal hnode now).trans (ih hl)
    · rw [if_neg hstale, if_neg hstale]
      exact ih hl

lemma extends_removeStaleNodes (cutoff now : ℤ) (order : List String) :
    Extends g (g.removeStaleNodes cutoff now order)
      (((g.ranged order).filter (g.isStale cutoff)).map (removal g now)) :=
  extends_foldl_removeIfStale ((perm_ranged order).nodup_iff.mpr g.nodes.nodup)

lemma length_removals (cutoff now : ℤ) (order : List String) :
    (((g.ranged order).filter (g.isStale cutoff)).map (removal g now)).length =
      staleCount g cutoff := by
  rw [List.length_map, staleCount]
  exact ((perm_ranged order).filter _).length_eq

/-- The changes of an operation. -/
def changesOf (g : DependencyGraph ν α) : Op ν α → List GraphChange
  | .addOrUpdateNode node now =>
    if g.nodes.HasKey node.id then [] else [⟨.nodeAdded node.id, now, node.agentID⟩]
  | .addOrUpdateEdge edge now =>
    match g.edges.find? edge.key with
    | some existing => [⟨.edgeUpdated existing.pair, now, g.agentOf edge.sourceID⟩]
    | none => [⟨.edgeAdded edge.pair, now, g.agentOf edge.sourceID⟩]
  | .removeStaleNodes cutoff now order =>
    ((g.ranged order).filter (g.isStale cutoff)).map (removal g now)
  | _ => []

lemma extends_apply {op : Op ν α} (hop : op ≠ .getChanges) :
    Extends g (g.apply op) (changesOf g op) := by
  cases op with
  | addOrUpdateNode node now =>
    unfold apply addOrUpdateNode changesOf
    dsimp only
    split
    · exact ⟨rfl, fun _ _ => (List.append_nil _).symm⟩
    · exact .recordChange (by rfl) (by rfl) _
  | addOrUpdateEdge edge now =>
    unfold apply addOrUpdateEdge changesOf
    dsimp only
    cases g.edges.find? edge.key with
    | some existing => exact .recordChange (by rfl) (by rfl) _
    | none => exact .recordChange (by rfl) (by rfl) _
  | removeStaleNodes cutoff now order => exact extends_removeStaleNodes cutoff now order
  | restore snap => exact ⟨rfl, fun _ _ => (List.append_nil _).symm⟩
  | getChanges => exact absurd rfl hop

lemma Kept.apply (h : Kept g) (op : Op ν α) : Kept (g.apply op) := by
  cases op with
  | getChanges => exact fun _ => rfl
  | _ => exact (extends_apply (by simp)).kept h

/-! ## One operation -/

lemma nodes_replay_removals (sets : Sets) (now : ℤ) (l : List String) :
    replay sets (l.map (removal g now)) = ⟨{id ∈ sets.nodes | id ∉ l}, sets.edges⟩ := by
  induction l generalizing sets with
  | nil => simp [replay]
  | cons id l ih =>
    have hstep : replay sets ((id :: l).map (removal g now)) =
        replay { sets with nodes := sets.nodes \ {id} } (l.map (removal g now)) := rfl
    rw [hstep, ih]
    ext id'
    · simp [and_assoc]
    · rfl

variable {s : State ν α}

/-- What an operation other than `GetChanges` must record. -/
lemma complete_iff_of_extends {drained : Sets} (hkept : Kept g) (hext : Extends g g' cs)
    (h : Complete ⟨g, drained⟩) : Complete ⟨g', drained⟩ ↔
      (g.recorded + cs.length < maxGraphChanges → replay (setsOf g) cs = setsOf g') := by
  unfold Complete at h ⊢
  dsimp only at h ⊢
  rw [← hext.recorded]
  refine forall_congr' fun hroom => ?_
  have hrecorded := hext.recorded
  have hreplay : replay drained g'.changes = replay (replay drained g.changes) cs := by
    rw [hext.changes hkept hroom.le, replay, List.foldl_append]
    rfl
  rw [hreplay, h (by omega)]

lemma complete_next_iff (hlinked : s.graph.Linked) (hkept : Kept s.graph) (h : Complete s)
    (op : Op ν α) : Complete (s.next op) ↔ Logged s op := by
  cases op with
  | getChanges => exact iff_of_true (fun _ => rfl) trivial
  | addOrUpdateNode node now =>
    refine iff_of_true ((complete_iff_of_extends hkept (extends_apply (by simp)) h).mpr ?_) trivial
    intro _
    have hsets : setsOf (s.graph.apply (.addOrUpdateNode node now)) =
        ⟨insert node.id s.graph.ids, s.graph.pairs⟩ := by
      rw [setsOf, apply, ids_addOrUpdateNode, pairs_addOrUpdateNode]
    rw [hsets, changesOf]
    split
    · next hkey =>
      -- The node is there already: nothing is recorded, and the sets stay.
      have hold : insert node.id s.graph.ids = s.graph.ids := Set.insert_eq_of_mem hkey
      rw [hold]
      rfl
    · rfl
  | addOrUpdateEdge edge now =>
    refine iff_of_true ((complete_iff_of_extends hkept (extends_apply (by simp)) h).mpr ?_) trivial
    intro _
    rw [setsOf, setsOf, apply, ids_addOrUpdateEdge, changesOf]
    cases hfind : s.graph.edges.find? edge.key with
    | some existing =>
      rw [pairs_addOrUpdateEdge_of_some hfind]
      rfl
    | none =>
      rw [pairs_addOrUpdateEdge_of_none hfind]
      rfl
  | removeStaleNodes cutoff now order =>
    refine (complete_iff_of_extends hkept (extends_apply (by simp)) h).trans ?_
    rw [Logged, changesOf, length_removals]
    refine forall_congr' fun _ => ?_
    -- The changes name the stale nodes, and not the edges that go with them.
    rw [nodes_replay_removals, setsOf, setsOf, apply, ids_removeStaleNodes,
      pairs_removeStaleNodes hlinked, Sets.ext_iff]
    have hnodes : {id ∈ s.graph.ids | id ∉ (s.graph.ranged order).filter (s.graph.isStale cutoff)} =
        {id ∈ s.graph.ids | s.graph.isStale cutoff id = false} := by
      ext id
      simp only [Set.mem_sep_iff, List.mem_filter, mem_ranged]
      refine and_congr_right fun hid => ?_
      simp [hid]
    rw [hnodes, and_iff_right rfl, eq_comm, Set.sep_eq_self_iff_mem_true]
  | restore snap =>
    refine (complete_iff_of_extends hkept (extends_apply (by simp)) h).trans ?_
    -- A restore records nothing, so it must not change the sets.
    have hnothing : changesOf s.graph (.restore snap) = [] := rfl
    rw [Logged, hnothing, List.length_nil, Nat.add_zero]
    refine forall_congr' fun _ => ?_
    rw [setsOf, setsOf, apply, ids_restore, pairs_restore, replay, List.foldl_nil, Sets.ext_iff,
      Set.ext_iff, Set.ext_iff]
    exact Iff.rfl

/-- **The change stream is complete**, and when. For any operations on the graph: whenever fewer
changes were recorded since the last `GetChanges` than the buffer holds, replaying them on the node
and edge sets of that call gives those of the graph, if and only if no edges go with a removed node
and no graph is restored that has other nodes or edges, before the buffer overflows. -/
theorem complete_iff (ops : List (Op ν α)) :
    Lib.Always State.next Complete ({} : State ν α) ops ↔
      Lib.Allowed State.next Logged ({} : State ν α) ops := by
  refine Lib.always_iff_allowed (I := fun s => s.graph.Linked ∧ Kept s.graph) ?_ ?_
    ⟨.empty, fun _ => rfl⟩ ?_ ops
  · intro s op h
    exact ⟨h.1.apply op, h.2.apply op⟩
  · intro s op hI h
    exact complete_next_iff hI.1 hI.2 h op
  · intro _
    have hids : ({} : DependencyGraph ν α).ids = ∅ := by
      ext id
      simp [mem_ids, Lib.Table.HasKey, Lib.Table.empty]
    have hpairs : ({} : DependencyGraph ν α).pairs = ∅ := by
      ext p
      simp [mem_pairs]
    rw [setsOf, hids, hpairs]
    rfl

/-! ### A removed node -/

/-- A node that was seen at a time. -/
def nodeAt (id : String) (seen : ℤ) : GraphNode Unit := ⟨id, "", (), seen, seen⟩

/-- Two nodes with an edge. Then the older one is stale. -/
def staleSource : List (Op Unit Unit) :=
  [.addOrUpdateNode (nodeAt "a" 0) 0, .addOrUpdateNode (nodeAt "b" 9) 9,
    .addOrUpdateEdge ⟨"a", "b", (), 9, 9⟩ 9, .removeStaleNodes 5 10 ["a", "b"]]

/-- The edge stays in the replayed set. -/
theorem dangling_edge : ¬ Lib.Always State.next Complete {} staleSource := by
  intro halways
  have hcomplete := halways.foldl
  have hroom : (staleSource.foldl State.next {}).graph.recorded < maxGraphChanges := by
    decide +kernel
  have hedges := congrArg Sets.edges (hcomplete hroom)
  have hchanges : (staleSource.foldl State.next {}).graph.changes =
      [⟨.nodeAdded "a", 0, ""⟩, ⟨.nodeAdded "b", 9, ""⟩, ⟨.edgeAdded ("a", "b"), 9, ""⟩,
        ⟨.nodeRemoved "a", 10, ""⟩] := by decide +kernel
  have hrows : (staleSource.foldl State.next {}).graph.edges.rows = [] := by decide +kernel
  rw [hchanges] at hedges
  have hreplayed : ("a", "b") ∈ (setsOf (staleSource.foldl State.next {}).graph).edges := by
    rw [← hedges]
    exact .inl rfl
  obtain ⟨e, he, -⟩ := hreplayed
  have hmem : e ∈ ([] : List (GraphEdge Unit)) := hrows ▸ he
  exact absurd hmem List.not_mem_nil

end GraphChanges

end Paryty.Processing

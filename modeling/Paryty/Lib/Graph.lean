import Mathlib.Data.List.Nodup
import Mathlib.Tactic.Lemma

/-!
# Graphs in two lists

The nodes and the edges of a graph are two lists; an edge names its ends by the keys of nodes.

* `GraphKeys` reads the keys of the entries, and `GraphKeys.WellFormed` says that the keys are
  unique and that the ends of the edges are there.
* For each way to add an entry or to take the first one with a key out, a lemma says exactly when
  the graph stays well-formed.
-/

namespace Lib

variable {α ν ε κ : Type*}

/-- The keys of nodes and of edges, and those of the two ends of an edge. -/
structure GraphKeys (ν ε κ : Type*) where
  node : ν → κ
  edge : ε → κ
  source : ε → κ
  target : ε → κ

lemma map_eraseP_key [DecidableEq κ] (key : α → κ) (l : List α) (k : κ) :
    (l.eraseP fun a => decide (key a = k)).map key = (l.map key).erase k := by
  rw [List.erase_eq_eraseP', List.eraseP_map]
  rfl

lemma nodup_map_concat {key : α → κ} {l : List α} {a : α} (hl : (l.map key).Nodup) :
    ((l ++ [a]).map key).Nodup ↔ key a ∉ l.map key := by
  rw [List.map_append, List.map_singleton, ← List.concat_eq_append, List.nodup_concat]
  exact and_iff_left hl

namespace GraphKeys

/-- The keys are unique, and an edge is between nodes that are there. -/
structure WellFormed (g : GraphKeys ν ε κ) (nodes : List ν) (edges : List ε) : Prop where
  nodup_nodes : (nodes.map g.node).Nodup
  nodup_edges : (edges.map g.edge).Nodup
  source_mem : ∀ e ∈ edges, g.source e ∈ nodes.map g.node
  target_mem : ∀ e ∈ edges, g.target e ∈ nodes.map g.node

variable {g : GraphKeys ν ε κ} {nodes : List ν} {edges : List ε}

/-- A node fits in if its key is new. -/
theorem WellFormed.add_node (h : g.WellFormed nodes edges) (n : ν) :
    g.WellFormed (nodes ++ [n]) edges ↔ g.node n ∉ nodes.map g.node := by
  have hgrow {k : κ} (hk : k ∈ nodes.map g.node) : k ∈ (nodes ++ [n]).map g.node := by
    rw [List.map_append]
    exact List.mem_append_left _ hk
  constructor
  · intro hadd
    exact (nodup_map_concat h.nodup_nodes).mp hadd.nodup_nodes
  · intro hnew
    exact ⟨(nodup_map_concat h.nodup_nodes).mpr hnew, h.nodup_edges,
      fun e he => hgrow (h.source_mem e he), fun e he => hgrow (h.target_mem e he)⟩

/-- An edge fits in if its key is new and both ends are there. -/
theorem WellFormed.add_edge (h : g.WellFormed nodes edges) (e : ε) :
    g.WellFormed nodes (edges ++ [e]) ↔
      g.edge e ∉ edges.map g.edge ∧ g.source e ∈ nodes.map g.node ∧
        g.target e ∈ nodes.map g.node := by
  constructor
  · intro hadd
    have hlast : e ∈ edges ++ [e] := List.mem_append_right _ (List.mem_singleton_self e)
    exact ⟨(nodup_map_concat h.nodup_edges).mp hadd.nodup_edges, hadd.source_mem e hlast,
      hadd.target_mem e hlast⟩
  · rintro ⟨hnew, hsource, htarget⟩
    refine ⟨h.nodup_nodes, (nodup_map_concat h.nodup_edges).mpr hnew, ?_, ?_⟩
    · intro e' he'
      rcases List.mem_append.mp he' with hold | hlast
      · exact h.source_mem e' hold
      · obtain rfl := List.mem_singleton.mp hlast
        exact hsource
    · intro e' he'
      rcases List.mem_append.mp he' with hold | hlast
      · exact h.target_mem e' hold
      · obtain rfl := List.mem_singleton.mp hlast
        exact htarget

/-- A node can go if it is at the end of no edge. -/
theorem WellFormed.erase_node [DecidableEq κ] (h : g.WellFormed nodes edges) (k : κ) :
    g.WellFormed (nodes.eraseP fun n => decide (g.node n = k)) edges ↔
      ∀ e ∈ edges, g.source e ≠ k ∧ g.target e ≠ k := by
  have hmem {k' : κ} : k' ∈ (nodes.eraseP fun n => decide (g.node n = k)).map g.node ↔
      k' ≠ k ∧ k' ∈ nodes.map g.node := by
    rw [map_eraseP_key, h.nodup_nodes.mem_erase_iff]
  constructor
  · intro herase e he
    exact ⟨(hmem.mp (herase.source_mem e he)).1, (hmem.mp (herase.target_mem e he)).1⟩
  · intro hfree
    refine ⟨?_, h.nodup_edges, ?_, ?_⟩
    · rw [map_eraseP_key]
      exact h.nodup_nodes.erase k
    · exact fun e he => hmem.mpr ⟨(hfree e he).1, h.source_mem e he⟩
    · exact fun e he => hmem.mpr ⟨(hfree e he).2, h.target_mem e he⟩

/-- An edge can always go. -/
theorem WellFormed.erase_edge (h : g.WellFormed nodes edges) (p : ε → Bool) :
    g.WellFormed nodes (edges.eraseP p) where
  nodup_nodes := h.nodup_nodes
  nodup_edges := (List.eraseP_sublist.map g.edge).nodup h.nodup_edges
  source_mem := fun e he => h.source_mem e (List.mem_of_mem_eraseP he)
  target_mem := fun e he => h.target_mem e (List.mem_of_mem_eraseP he)

/-- Nodes fit in if their keys are new and unique. -/
theorem WellFormed.add_nodes (h : g.WellFormed nodes edges) {ns : List ν}
    (hns : (ns.map g.node).Nodup) : g.WellFormed (nodes ++ ns) edges ↔
      ∀ n ∈ ns, g.node n ∉ nodes.map g.node := by
  have hgrow {k : κ} (hk : k ∈ nodes.map g.node) : k ∈ (nodes ++ ns).map g.node := by
    rw [List.map_append]
    exact List.mem_append_left _ hk
  have hkeys : ((nodes ++ ns).map g.node).Nodup ↔ ∀ n ∈ ns, g.node n ∉ nodes.map g.node := by
    rw [List.map_append, List.nodup_append', List.disjoint_right, List.forall_mem_map]
    simp [h.nodup_nodes, hns]
  rw [← hkeys]
  constructor
  · exact fun hadd => hadd.nodup_nodes
  · intro hnodup
    exact ⟨hnodup, h.nodup_edges, fun e he => hgrow (h.source_mem e he),
      fun e he => hgrow (h.target_mem e he)⟩

/-- Other nodes will do if their keys are unique and the ends of the edges are among them. -/
theorem WellFormed.replace_nodes (h : g.WellFormed nodes edges) (nodes' : List ν) :
    g.WellFormed nodes' edges ↔ (nodes'.map g.node).Nodup ∧
      ∀ e ∈ edges, g.source e ∈ nodes'.map g.node ∧ g.target e ∈ nodes'.map g.node := by
  constructor
  · intro h'
    exact ⟨h'.nodup_nodes, fun e he => ⟨h'.source_mem e he, h'.target_mem e he⟩⟩
  · rintro ⟨hnodup, hends⟩
    exact ⟨hnodup, h.nodup_edges, fun e he => (hends e he).1, fun e he => (hends e he).2⟩

/-- Nodes can go with the edges that end at them. -/
theorem WellFormed.sublists (h : g.WellFormed nodes edges) {nodes' : List ν} {edges' : List ε}
    (hnodes : nodes'.Sublist nodes) (hedges : edges'.Sublist edges)
    (hends : ∀ e ∈ edges', g.source e ∈ nodes'.map g.node ∧ g.target e ∈ nodes'.map g.node) :
    g.WellFormed nodes' edges' where
  nodup_nodes := (hnodes.map g.node).nodup h.nodup_nodes
  nodup_edges := (hedges.map g.edge).nodup h.nodup_edges
  source_mem := fun e he => (hends e he).1
  target_mem := fun e he => (hends e he).2

/-- Edges can change if their keys and their ends stay. -/
theorem WellFormed.map_edges (h : g.WellFormed nodes edges) {f : ε → ε}
    (hedge : ∀ e, g.edge (f e) = g.edge e) (hsource : ∀ e, g.source (f e) = g.source e)
    (htarget : ∀ e, g.target (f e) = g.target e) : g.WellFormed nodes (edges.map f) where
  nodup_nodes := h.nodup_nodes
  nodup_edges := by
    have hkeys : g.edge ∘ f = g.edge := funext hedge
    rw [List.map_map, hkeys]
    exact h.nodup_edges
  source_mem := List.forall_mem_map.mpr fun e he => (hsource e).symm ▸ h.source_mem e he
  target_mem := List.forall_mem_map.mpr fun e he => (htarget e).symm ▸ h.target_mem e he

end GraphKeys

end Lib

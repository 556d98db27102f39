import Paryty.Lib.Run
import Paryty.Processing.Graph

/-!
# What the graph represents

The edge map joins the two IDs of an edge with a colon, and IDs contain colons themselves.

* `State.live`: the pairs that were added and not removed.
* `Represented`: each of them has an edge of its own, and the adjacency lists are those pairs.
* `represented_iff`: the additions with which that goes wrong, and when it does not.
* `shared_edge`: two pairs with one key.
-/

namespace Paryty.Processing

open DependencyGraph

namespace GraphRepresentation

variable {ν α : Type*}

/-- The graph, and the pairs that it is to represent. -/
structure State (ν α : Type*) where
  graph : DependencyGraph ν α := {}
  live : Set (String × String) := ∅

/-- The pairs after an operation. -/
def liveAfter (s : State ν α) : Op ν α → Set (String × String)
  | .addOrUpdateEdge edge _ => insert edge.pair s.live
  | .removeStaleNodes cutoff _ _ =>
    {p ∈ s.live | s.graph.isStale cutoff p.1 = false ∧ s.graph.isStale cutoff p.2 = false}
  | .restore snap => {p | ∃ e ∈ snap.edges, e.pair = p}
  | _ => s.live

/-- One operation. -/
def State.next (s : State ν α) (op : Op ν α) : State ν α := ⟨s.graph.apply op, liveAfter s op⟩

/-- Every pair has an edge of its own. -/
structure Represented (s : State ν α) : Prop where
  /-- The pairs are those of the stored edges. -/
  edge : ∀ p, p ∈ s.live ↔ ∃ e ∈ s.graph.edges, e.pair = p
  /-- No pair has two edges. -/
  unique : ∀ e ∈ s.graph.edges, ∀ e' ∈ s.graph.edges, e.pair = e'.pair → e = e'
  /-- No two pairs are stored in one place. -/
  unshared : ∀ p ∈ s.live, ∀ q ∈ s.live, edgeKey p.1 p.2 = edgeKey q.1 q.2 → p = q
  /-- The adjacency lists are the pairs. -/
  adjacency : ∀ source target, target ∈ s.graph.targets source ↔ (source, target) ∈ s.live

/-- An edge is added only if no other pair has its key. -/
def Separate (s : State ν α) : Op ν α → Prop
  | .addOrUpdateEdge edge _ => ∀ p ∈ s.live, edgeKey p.1 p.2 = edge.key → p = edge.pair
  | _ => True

variable {s : State ν α}

lemma represented_iff_pairs (h : s.graph.Linked) : Represented s ↔ s.graph.pairs = s.live := by
  constructor
  · intro hrep
    ext p
    exact (hrep.edge p).symm
  · intro hpairs
    constructor
    case edge =>
      intro p
      rw [← hpairs]
      exact mem_pairs
    case unique =>
      intro e he e' he' hpair
      exact s.graph.edges.eq_of_key_eq he he' (key_of_pair hpair)
    case unshared =>
      intro p hp q hq hkey
      rw [← hpairs] at hp hq
      obtain ⟨e, he, rfl⟩ := hp
      obtain ⟨e', he', rfl⟩ := hq
      rw [s.graph.edges.eq_of_key_eq he he' hkey]
    case adjacency =>
      intro source target
      rw [← hpairs]
      exact h source target

lemma represented_addOrUpdateEdge_iff (hlinked : s.graph.Linked) (h : Represented s)
    (edge : GraphEdge α) (now : ℤ) :
    Represented (s.next (.addOrUpdateEdge edge now)) ↔ Separate s (.addOrUpdateEdge edge now) := by
  have hpairs : s.graph.pairs = s.live := (represented_iff_pairs hlinked).mp h
  have hnext : Represented (s.next (.addOrUpdateEdge edge now)) ↔
      (s.graph.addOrUpdateEdge edge now).pairs = insert edge.pair s.live :=
    represented_iff_pairs (hlinked.addOrUpdateEdge edge now)
  rw [hnext]
  cases hfind : s.graph.edges.find? edge.key with
  | none =>
    rw [pairs_addOrUpdateEdge_of_none hfind, hpairs]
    refine iff_of_true rfl fun p hp hkey => ?_
    obtain ⟨e, he, rfl⟩ := (h.edge p).mp hp
    exact absurd hkey (Lib.Table.find?_eq_none.mp hfind e he)
  | some existing =>
    obtain ⟨hmem, hexisting⟩ := Lib.Table.find?_eq_some.mp hfind
    rw [pairs_addOrUpdateEdge_of_some hfind, hpairs, eq_comm, Set.insert_eq_self]
    constructor
    · intro hedge p hp hkey
      exact h.unshared p hp edge.pair hedge hkey
    · intro hseparate
      have hlive : existing.pair ∈ s.live := (h.edge _).mpr ⟨existing, hmem, rfl⟩
      rw [← hseparate existing.pair hlive hexisting]
      exact hlive

lemma represented_next_iff (hlinked : s.graph.Linked) (h : Represented s) (op : Op ν α) :
    Represented (s.next op) ↔ Separate s op := by
  have hpairs : s.graph.pairs = s.live := (represented_iff_pairs hlinked).mp h
  have hnext : Represented (s.next op) ↔ (s.graph.apply op).pairs = liveAfter s op :=
    represented_iff_pairs (hlinked.apply op)
  cases op with
  | addOrUpdateEdge edge now => exact represented_addOrUpdateEdge_iff hlinked h edge now
  | addOrUpdateNode node now =>
    exact iff_of_true (hnext.mpr ((pairs_addOrUpdateNode node now).trans hpairs)) trivial
  | removeStaleNodes cutoff now order =>
    refine iff_of_true (hnext.mpr ?_) trivial
    rw [apply, pairs_removeStaleNodes hlinked, hpairs]
    rfl
  | restore snap => exact iff_of_true (hnext.mpr (pairs_restore snap)) trivial
  | getChanges => exact iff_of_true (hnext.mpr hpairs) trivial

/-- **The graph represents its pairs**, and when. For any operations on the graph: each pair that was
added and not removed has exactly one edge, which carries its two IDs, no two pairs share one, and
the adjacency lists are those pairs, if and only if no edge is added while another pair has its
key. -/
theorem represented_iff (ops : List (Op ν α)) :
    Lib.Always State.next Represented ({} : State ν α) ops ↔
      Lib.Allowed State.next Separate ({} : State ν α) ops := by
  refine Lib.always_iff_allowed (I := fun s => s.graph.Linked) (fun s op h => h.apply op)
    (fun s op hlinked h => represented_next_iff hlinked h op) .empty ?_ ops
  rw [represented_iff_pairs .empty]
  ext p
  simp [pairs]

/-! ### Colons in IDs -/

/-- An edge. -/
def edgeOf (sourceID targetID : String) : GraphEdge Unit := ⟨sourceID, targetID, (), 0, 0⟩

/-- `a:b` and `c`, then `a` and `b:c`. -/
def joinedAlike : List (Op Unit Unit) :=
  [.addOrUpdateEdge (edgeOf "a:b" "c") 0, .addOrUpdateEdge (edgeOf "a" "b:c") 1]

/-- The second pair has no edge: the one of the first was updated. -/
theorem shared_edge : ¬ Lib.Always State.next Represented {} joinedAlike := by
  intro halways
  have hedge := halways.foldl.edge ("a", "b:c")
  have hlive : ("a", "b:c") ∈ (joinedAlike.foldl State.next {}).live := by
    simp [joinedAlike, State.next, liveAfter, edgeOf, GraphEdge.pair]
  obtain ⟨e, he, hpair⟩ := hedge.mp hlive
  have hrows : (joinedAlike.foldl State.next {}).graph.edges.rows = [edgeOf "a:b" "c"] := by
    decide +kernel
  have hmem : e ∈ [edgeOf "a:b" "c"] := hrows ▸ he
  rw [List.mem_singleton.mp hmem] at hpair
  exact absurd hpair (by decide)

end GraphRepresentation

end Paryty.Processing

import Paryty.Lib.BreadthFirst
import Paryty.Processing.Graph

/-!
# Paths in the graph

`GetPath` of `cluster/internal/processing/graph.go` searches the adjacency lists breadth-first. Its
map of parents gives the source the empty ID, which also ends the loop that reads the path back.

* `getPath_shortest`: in every graph in which no ID is empty, the search ends, and between two nodes
  it finds a shortest path along the stored edges if there is any.
-/

namespace Paryty.Processing

open Lib (Search Adjacent Reachable IsShortest)

namespace DependencyGraph

variable {ν α : Type*}

/-- `GetPath`, if its loops end with this much fuel. -/
def getPath (g : DependencyGraph ν α) (fuel : ℕ) (sourceID targetID : String) :
    Option (Option (List String)) :=
  if ¬ g.nodes.HasKey sourceID then some none
  else if ¬ g.nodes.HasKey targetID then some none
  else if sourceID = targetID then some (some [sourceID])
  else
    match Search.run g.targets targetID fuel (.start sourceID "") with
    | none => none
    | some none => some none
    | some (some s) => (Search.backtrack s.parent "" fuel targetID []).map some

/-- No ID of a node is empty, and none that an edge names. -/
def NonemptyIDs (g : DependencyGraph ν α) : Prop :=
  (∀ node ∈ g.nodes.rows, node.id ≠ "") ∧
    ∀ e ∈ g.edges.rows, e.sourceID ≠ "" ∧ e.targetID ≠ ""

instance (g : DependencyGraph ν α) : Decidable g.NonemptyIDs :=
  inferInstanceAs (Decidable (_ ∧ _))

/-- An edge leads from one node to the other. -/
def HasEdge (g : DependencyGraph ν α) (sourceID targetID : String) : Prop :=
  ∃ e ∈ g.edges, e.pair = (sourceID, targetID)

/-- The graph that a series of operations builds. -/
def built (ops : List (Op ν α)) : DependencyGraph ν α := ops.foldl apply {}

variable {g : DependencyGraph ν α} {sourceID targetID : String}

lemma linked_built (ops : List (Op ν α)) : (built ops).Linked := by
  suffices h : ∀ g : DependencyGraph ν α, g.Linked → (ops.foldl apply g).Linked from h {} .empty
  intro g hg
  induction ops generalizing g with
  | nil => exact hg
  | cons op ops ih => exact ih _ (hg.apply op)

lemma Linked.adjacent (h : g.Linked) : Adjacent g.targets = g.HasEdge := by
  ext source target
  exact h source target

lemma targets_empty (h : g.Linked) (hids : g.NonemptyIDs) : g.targets "" = [] := by
  refine List.eq_nil_iff_forall_not_mem.mpr fun target htarget => ?_
  obtain ⟨e, he, hpair⟩ := (h "" target).mp htarget
  exact (hids.2 e he).1 (congrArg Prod.fst hpair)

lemma exists_row_of_mem_targets {source target : String} (h : target ∈ g.targets source) :
    ∃ r ∈ g.adjacency.rows, r.1 = source ∧ target ∈ r.2 := by
  unfold targets at h
  cases hfind : g.adjacency.find? source with
  | none =>
    rw [hfind] at h
    exact absurd h List.not_mem_nil
  | some r =>
    rw [hfind] at h
    obtain ⟨hr, hkey⟩ := Lib.Table.find?_eq_some.mp hfind
    exact ⟨r, hr, hkey, h⟩

lemma mem_adjacency {source target : String} (h : target ∈ g.targets source) :
    target ∈ g.adjacency.rows.flatMap Prod.snd := by
  obtain ⟨r, hr, -, hmem⟩ := exists_row_of_mem_targets h
  exact List.mem_flatMap.mpr ⟨r, hr, hmem⟩

/-- What `GetPath` is to return for two nodes. -/
structure FindsShortest (g : DependencyGraph ν α) (sourceID targetID : String)
    (result : Option (List String)) : Prop where
  none_iff : result = none ↔ ¬ Reachable g.HasEdge sourceID targetID
  shortest : ∀ path, result = some path → IsShortest g.HasEdge sourceID targetID path

lemma findsShortest_some {path : List String} (h : IsShortest g.HasEdge sourceID targetID path) :
    g.FindsShortest sourceID targetID (some path) where
  none_iff := iff_of_false (Option.some_ne_none path) (not_not_intro ⟨path, h.1⟩)
  shortest _ heq := Option.some.inj heq ▸ h

lemma findsShortest_none (h : ¬ Reachable g.HasEdge sourceID targetID) :
    g.FindsShortest sourceID targetID none where
  none_iff := iff_of_true rfl h
  shortest _ heq := absurd heq (Option.some_ne_none _).symm

lemma isShortest_self (sourceID : String) : IsShortest g.HasEdge sourceID sourceID [sourceID] := by
  refine ⟨Lib.isPath_singleton sourceID, fun other hother => ?_⟩
  cases other with
  | nil => exact absurd hother.head (Option.some_ne_none _).symm
  | cons v rest => exact Nat.succ_le_succ (Nat.zero_le _)

/-- **The path is shortest.** In every graph that operations build, if no ID in it is empty, and for
any two of its nodes: with enough fuel `GetPath` returns, and always the same; it returns nil
exactly if no edges lead from the source to the target, and otherwise a path along edges, with as
few nodes as any. -/
theorem getPath_shortest (ops : List (Op ν α)) (hids : (built ops).NonemptyIDs)
    (hsource : sourceID ∈ (built ops).ids) (htarget : targetID ∈ (built ops).ids) :
    ∃ n result, (∀ fuel, n ≤ fuel → (built ops).getPath fuel sourceID targetID = some result) ∧
      (built ops).FindsShortest sourceID targetID result := by
  set g := built ops
  have hlinked : g.Linked := linked_built ops
  have hs : g.nodes.HasKey sourceID := hsource
  have ht : g.nodes.HasKey targetID := htarget
  have hnodes (fuel : ℕ) (hne : sourceID ≠ targetID) (found : Option (Search String))
      (hrun : Search.run g.targets targetID fuel (.start sourceID "") = some found) :
      g.getPath fuel sourceID targetID =
        found.elim (some none) fun s =>
          (Search.backtrack s.parent "" fuel targetID []).map some := by
    rw [getPath, if_neg (not_not_intro hs), if_neg (not_not_intro ht), if_neg hne, hrun]
    cases found <;> rfl
  by_cases heq : sourceID = targetID
  · subst heq
    refine ⟨0, some [sourceID], fun fuel _ => ?_, findsShortest_some (isShortest_self sourceID)⟩
    rw [getPath, if_neg (not_not_intro hs), if_neg (not_not_intro hs), if_pos rfl]
  -- Only IDs in the adjacency lists are met, so the search ends.
  obtain ⟨enough, found, hfound⟩ : ∃ enough found,
      Search.run g.targets targetID enough (.start sourceID "") = some found :=
    ⟨_, Search.run_terminates (fun _ _ h => mem_adjacency h) (Nat.lt_succ_self _)⟩
  cases found with
  | none =>
    refine ⟨enough, none, fun fuel hfuel => ?_, findsShortest_none ?_⟩
    · rw [hnodes fuel heq none (Search.run_mono hfuel hfound)]
      rfl
    · rw [← hlinked.adjacent]
      exact Search.not_reachable_of_run hfound
  | some s =>
    -- The empty ID marks the root, so no node may have it.
    have hnonempty {id : String} (hid : id ∈ g.ids) : id ≠ "" := by
      obtain ⟨node, hnode, rfl⟩ := hid
      exact hids.1 node hnode
    obtain ⟨path, hpath, n, hback⟩ := Search.isShortest_of_run (hnonempty hsource)
      (hnonempty htarget) (targets_empty hlinked hids) hfound
    rw [hlinked.adjacent] at hpath
    refine ⟨max enough n, some path, fun fuel hfuel => ?_, findsShortest_some hpath⟩
    rw [hnodes fuel heq (some s) (Search.run_mono ((le_max_left enough n).trans hfuel) hfound)]
    exact congrArg (Option.map some) (hback fuel ((le_max_right enough n).trans hfuel))

/-- Two hops. -/
def chain : List (Op Unit Unit) :=
  [.addOrUpdateNode ⟨"web:a1", "a1", (), 0, 0⟩ 0, .addOrUpdateNode ⟨"db:a2", "a2", (), 0, 0⟩ 0,
    .addOrUpdateEdge ⟨"web:a1", "cache:a1", (), 0, 0⟩ 0,
    .addOrUpdateEdge ⟨"cache:a1", "db:a2", (), 0, 0⟩ 0]

theorem getPath_shortest_chain :
    ∃ n result, (∀ fuel, n ≤ fuel → (built chain).getPath fuel "web:a1" "db:a2" = some result) ∧
      (built chain).FindsShortest "web:a1" "db:a2" result :=
  getPath_shortest chain (by decide +kernel) (mem_ids.mpr (by decide +kernel))
    (mem_ids.mpr (by decide +kernel))

example : (built chain).getPath 9 "web:a1" "db:a2" =
    some (some ["web:a1", "cache:a1", "db:a2"]) := by
  decide +kernel

end DependencyGraph

end Paryty.Processing

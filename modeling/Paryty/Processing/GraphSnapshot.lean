import Mathlib.Data.List.Perm.Basic
import Paryty.Lib.Codec
import Paryty.Lib.Float64
import Paryty.Processing.GraphPath

/-!
# Stored graphs

`Snapshot` of `cluster/internal/processing/graph.go` stores the nodes and edges of a graph, in the
order in which the maps are ranged over. `Restore` builds the adjacency lists from the edges.

* `Same`: two graphs that no reader can tell apart but by the order of lists: nodes, edges, the
  adjacency lists in both directions, `GetNeighbors` and `Stats`.
* `same_of_perm`: graphs built by the operations are the same if their nodes and edges are.
* `restoreFrom_same`: a restored graph is the same as the one that was stored.
-/

namespace Paryty.Processing

namespace DependencyGraph

variable {ν α β γ : Type*}

/-! ## What readers see -/

/-- What the adjacency lists connect. -/
def links (g : DependencyGraph ν α) : List (String × String) :=
  g.adjacency.rows.flatMap fun r => r.2.map fun target => (r.1, target)

/-- The adjacency in reverse, which the graph does not store: the sources of the edges of a node. -/
def sources (g : DependencyGraph ν α) (id : String) : List String :=
  g.adjacency.rows.flatMap fun r => (r.2.filter (· = id)).map fun _ => r.1

/-- `GetNeighbors`: first along the edges that leave the node, then along those that enter it. -/
def getNeighbors (g : DependencyGraph ν α) (nodeID : String) :
    List (GraphNode ν) × List (GraphEdge α) :=
  ((g.targets nodeID).filterMap g.nodes.find? ++ (g.sources nodeID).filterMap g.nodes.find?,
    (g.targets nodeID).filterMap (fun target => g.edges.find? (edgeKey nodeID target)) ++
      (g.sources nodeID).filterMap fun source => g.edges.find? (edgeKey source nodeID))

/-- `GraphStats`. -/
structure GraphStats where
  nodeCount : ℕ
  edgeCount : ℕ
  avgFanOut : ℚ := 0
  maxFanOut : ℕ := 0
  isolatedNodes : ℕ := 0
deriving DecidableEq

/-- `totalOut` in `Stats`. -/
def totalOut (g : DependencyGraph ν α) : ℕ := (g.adjacency.rows.map fun r => r.2.length).sum

/-- `MaxFanOut`. -/
def maxFanOut (g : DependencyGraph ν α) : ℕ :=
  g.adjacency.rows.foldl (fun most r => if r.2.length > most then r.2.length else most) 0

/-- `hasEdge` in `isolatedNodeCountLocked`. -/
def isLinked (g : DependencyGraph ν α) (id : String) : Bool :=
  g.adjacency.rows.any fun r => decide (0 < r.2.length) && (decide (r.1 = id) || decide (id ∈ r.2))

/-- `isolatedNodeCountLocked`. -/
def isolatedNodeCount (g : DependencyGraph ν α) : ℕ :=
  (g.nodes.rows.filter fun node => !g.isLinked node.id).length

/-- `Stats`. -/
def stats (g : DependencyGraph ν α) : GraphStats :=
  if g.nodes.rows.length = 0 then
    { nodeCount := g.nodes.rows.length
      edgeCount := g.edges.rows.length }
  else
    { nodeCount := g.nodes.rows.length
      edgeCount := g.edges.rows.length
      avgFanOut :=
        Lib.Float64.nearest
          (Lib.Float64.nearest g.totalOut / Lib.Float64.nearest g.nodes.rows.length)
      maxFanOut := g.maxFanOut
      isolatedNodes := g.isolatedNodeCount }

/-- Two graphs that differ in the order of lists only. -/
structure Same (g g' : DependencyGraph ν α) : Prop where
  nodes : g.nodes.rows.Perm g'.nodes.rows
  edges : g.edges.rows.Perm g'.edges.rows
  targets : ∀ id, (g.targets id).Perm (g'.targets id)
  sources : ∀ id, (g.sources id).Perm (g'.sources id)
  neighbors : ∀ id, (g.getNeighbors id).1.Perm (g'.getNeighbors id).1 ∧
    (g.getNeighbors id).2.Perm (g'.getNeighbors id).2
  stats : g.stats = g'.stats

/-! ## Snapshots -/

/-- What `Snapshot` stores of a graph, with the maps ranged over in any order. -/
structure Ranged (g : DependencyGraph ν α) (snap : GraphSnapshot ν α) : Prop where
  nodes : snap.nodes.Perm g.nodes.rows
  edges : snap.edges.Perm g.edges.rows

/-- `Snapshot`, to a client whose `Set` fails or does not: the bytes under `graphSnapshotKey`. -/
def storeSnapshot (codec : Lib.Codec (GraphSnapshot ν α) β γ) (setFails : Bool)
    (snap : GraphSnapshot ν α) : Except String γ :=
  match codec.marshal snap with
  | none => .error "marshal graph snapshot"
  | some jsonData =>
    match codec.compress jsonData with
    | none => .error "compress graph snapshot"
    | some compressed => if setFails then .error "store graph snapshot" else .ok compressed

/-- `Restore`, with the reply to `Get`: an error, nothing, or what is stored. -/
def restoreFrom (codec : Lib.Codec (GraphSnapshot ν α) β γ) (g : DependencyGraph ν α) :
    Except Unit (Option γ) → Except String (DependencyGraph ν α)
  | .error _ => .error "get graph snapshot"
  | .ok none => .ok g
  | .ok (some compressed) =>
    match codec.decompress compressed with
    | none => .error "decompress graph snapshot"
    | some jsonData =>
      match codec.unmarshal jsonData with
      | none => .error "unmarshal graph snapshot"
      | some snap => .ok (g.restore snap)

variable {codec : Lib.Codec (GraphSnapshot ν α) β γ} {snap : GraphSnapshot ν α} {compressed : γ}

lemma encode_of_storeSnapshot {setFails : Bool}
    (h : storeSnapshot codec setFails snap = .ok compressed) :
    codec.encode snap = some compressed := by
  unfold storeSnapshot at h
  unfold Lib.Codec.encode
  cases hjson : codec.marshal snap with
  | none => simp [hjson] at h
  | some jsonData =>
    cases hbytes : codec.compress jsonData with
    | none => simp [hjson, hbytes] at h
    | some bytes =>
      cases setFails with
      | true => simp [hjson, hbytes] at h
      | false => simpa [hjson, hbytes] using h

lemma restoreFrom_of_decode (h : codec.decode compressed = some snap) (g : DependencyGraph ν α) :
    g.restoreFrom codec (.ok (some compressed)) = .ok (g.restore snap) := by
  obtain ⟨jsonData, hjson, hsnap⟩ := Option.bind_eq_some_iff.mp h
  simp only [restoreFrom, hjson, hsnap]

/-! ## Adjacency lists -/

/-- No adjacency list names a node twice. -/
def Simple (g : DependencyGraph ν α) : Prop := ∀ id, (g.targets id).Nodup

variable {g g' : DependencyGraph ν α}

lemma Simple.empty : ({} : DependencyGraph ν α).Simple := by
  intro id
  simp [targets]

lemma Simple.addOrUpdateEdge (h : g.Simple) (hlinked : g.Linked) (edge : GraphEdge α) (now : ℤ) :
    (g.addOrUpdateEdge edge now).Simple := by
  intro id
  cases hfind : g.edges.find? edge.key with
  | some existing =>
    unfold DependencyGraph.addOrUpdateEdge
    rw [hfind]
    exact h id
  | none =>
    have htargets : (g.addOrUpdateEdge edge now).targets id =
        g.targets id ++ if id = edge.sourceID then [edge.targetID] else [] := by
      unfold DependencyGraph.addOrUpdateEdge
      rw [hfind]
      exact getD_find?_link g.adjacency edge id
    rw [htargets]
    by_cases hid : id = edge.sourceID
    · -- The target is new: an edge to it would have the key of the edge.
      have hnew : edge.targetID ∉ g.targets edge.sourceID := by
        intro hmem
        obtain ⟨e, he, hpair⟩ := (hlinked edge.sourceID edge.targetID).mp hmem
        exact Lib.Table.find?_eq_none.mp hfind e he (key_of_pair hpair)
      rw [if_pos hid, hid]
      exact (h edge.sourceID).append (List.nodup_singleton _) (by simpa using hnew)
    · rw [if_neg hid, List.append_nil]
      exact h id

lemma Simple.removeNodeInternal (h : g.Simple) (id : String) (now : ℤ) :
    (g.removeNodeInternal now id).Simple := by
  cases hnode : g.nodes.find? id with
  | none => rwa [removeNodeInternal_of_none hnode]
  | some node =>
    intro source
    rw [targets_removeNodeInternal hnode]
    split
    · exact List.nodup_nil
    · exact (h source).filter _

lemma Simple.removeStaleNodes (h : g.Simple) (cutoff now : ℤ) (order : List String) :
    (g.removeStaleNodes cutoff now order).Simple := by
  unfold DependencyGraph.removeStaleNodes
  induction g.ranged order generalizing g with
  | nil => exact h
  | cons id l ih =>
    refine ih ?_
    unfold removeIfStale
    split
    · exact h.removeNodeInternal id now
    · exact h

lemma targets_restore (snap : GraphSnapshot ν α) (id : String) : (g.restore snap).targets id =
    (snap.edges.filter (·.sourceID = id)).map GraphEdge.targetID := by
  unfold targets restore
  dsimp only
  rw [getD_find?_foldl_link, getD_find?_unlinked, List.nil_append]

lemma nodup_pairs {edges : List (GraphEdge α)} (h : (edges.map GraphEdge.key).Nodup) :
    (edges.map GraphEdge.pair).Nodup := by
  have hkeys : edges.map GraphEdge.key =
      (edges.map GraphEdge.pair).map fun p => edgeKey p.1 p.2 := by
    rw [List.map_map]
    rfl
  rw [hkeys] at h
  exact h.of_map _

lemma Simple.restore (g : DependencyGraph ν α) (snap : GraphSnapshot ν α) :
    (g.restore snap).Simple := by
  intro id
  rw [targets_restore]
  have hpairs : ((snap.edges.filter (·.sourceID = id)).map GraphEdge.pair).Nodup :=
    (List.filter_sublist.map _).nodup (nodup_pairs snap.distinct)
  refine List.Nodup.of_map (fun target => (id, target)) ?_
  have hsame : ((snap.edges.filter (·.sourceID = id)).map GraphEdge.targetID).map
      (fun target => (id, target)) = (snap.edges.filter (·.sourceID = id)).map GraphEdge.pair := by
    rw [List.map_map]
    refine List.map_congr_left fun e he => ?_
    have hsource : e.sourceID = id := by simpa using (List.mem_filter.mp he).2
    rw [← hsource]
    rfl
  rwa [hsame]

/-- Every operation keeps the lists free of duplicates. -/
theorem Simple.apply (h : g.Simple) (hlinked : g.Linked) (op : Op ν α) : (g.apply op).Simple := by
  cases op with
  | addOrUpdateNode node now =>
    intro id
    -- A node has no part in the lists.
    rw [DependencyGraph.apply, targets_addOrUpdateNode]
    exact h id
  | addOrUpdateEdge edge now => exact h.addOrUpdateEdge hlinked edge now
  | removeStaleNodes cutoff now order => exact h.removeStaleNodes cutoff now order
  | restore snap => exact .restore g snap
  | getChanges => exact h

lemma simple_built (ops : List (Op ν α)) : (built ops).Simple := by
  suffices h : ∀ g : DependencyGraph ν α, g.Linked → g.Simple → (ops.foldl apply g).Simple from
    h {} .empty .empty
  intro g hlinked hsimple
  induction ops generalizing g with
  | nil => exact hsimple
  | cons op ops ih => exact ih _ (hlinked.apply op) (hsimple.apply hlinked op)

/-! ## Links -/

lemma find?_adjacency {r : String × List String} (h : r ∈ g.adjacency.rows) :
    g.targets r.1 = r.2 := by
  have hfind : g.adjacency.find? r.1 = some r := Lib.Table.find?_eq_some.mpr ⟨h, rfl⟩
  rw [targets, hfind]
  rfl

lemma mem_links {source target : String} :
    (source, target) ∈ g.links ↔ target ∈ g.targets source := by
  rw [links, List.mem_flatMap]
  constructor
  · intro h
    obtain ⟨r, hr, hmem⟩ := h
    obtain ⟨target', htarget, heq⟩ := List.mem_map.mp hmem
    -- The row is the one found under the source.
    obtain ⟨rfl, rfl⟩ := Prod.mk.inj heq
    rwa [find?_adjacency hr]
  · intro h
    obtain ⟨r, hr, rfl, hmem⟩ := exists_row_of_mem_targets h
    exact ⟨r, hr, List.mem_map_of_mem hmem⟩

lemma nodup_links (h : g.Simple) : g.links.Nodup := by
  rw [links, List.nodup_flatMap]
  constructor
  · intro r hr
    refine List.Nodup.map (Prod.mk_right_injective r.1) ?_
    rw [← find?_adjacency hr]
    exact h r.1
  · -- Rows with different keys share no link.
    refine (List.pairwise_map.mp g.adjacency.nodup).imp fun {r r'} hne => ?_
    rw [Function.onFun, List.disjoint_left]
    intro p hp hp'
    obtain ⟨_, _, rfl⟩ := List.mem_map.mp hp
    obtain ⟨_, _, heq⟩ := List.mem_map.mp hp'
    exact hne (congrArg Prod.fst heq).symm

lemma perm_links (hlinked : g.Linked) (h : g.Simple) :
    g.links.Perm (g.edges.rows.map GraphEdge.pair) := by
  refine (List.perm_ext_iff_of_nodup (nodup_links h) (nodup_pairs g.edges.nodup)).mpr fun p => ?_
  rw [show p = (p.1, p.2) from rfl, mem_links, hlinked p.1 p.2, mem_pairs, List.mem_map]
  exact Iff.rfl

lemma sources_eq (g : DependencyGraph ν α) (id : String) :
    g.sources id = (g.links.filter (·.2 = id)).map Prod.fst := by
  rw [sources, links, List.filter_flatMap, List.map_flatMap]
  refine List.flatMap_congr fun r _ => ?_
  rw [List.filter_map, List.map_map]
  rfl

lemma totalOut_eq (g : DependencyGraph ν α) : g.totalOut = g.links.length := by
  rw [totalOut, links, List.length_flatMap]
  simp

lemma isLinked_iff {id : String} :
    g.isLinked id = true ↔ ∃ p ∈ g.links, p.1 = id ∨ p.2 = id := by
  rw [isLinked, List.any_eq_true]
  constructor
  · intro h
    obtain ⟨r, hr, htouches⟩ := h
    rw [Bool.and_eq_true, Bool.or_eq_true, decide_eq_true_eq, decide_eq_true_eq,
      decide_eq_true_eq] at htouches
    obtain ⟨hpos, rfl | hmem⟩ := htouches
    · obtain ⟨target, htarget⟩ := List.exists_mem_of_length_pos hpos
      exact ⟨(r.1, target), mem_links.mpr (by rwa [find?_adjacency hr]), .inl rfl⟩
    · exact ⟨(r.1, id), mem_links.mpr (by rwa [find?_adjacency hr]), .inr rfl⟩
  · intro h
    obtain ⟨⟨source, target⟩, hp, htouches⟩ := h
    obtain ⟨r, hr, rfl, hmem⟩ := exists_row_of_mem_targets (mem_links.mp hp)
    refine ⟨r, hr, ?_⟩
    have hpos : 0 < r.2.length := List.length_pos_of_mem hmem
    obtain rfl | rfl := htouches
    · simp [hpos]
    · simp [hpos, hmem]

lemma maxFanOut_le_iff {most : ℕ} :
    g.maxFanOut ≤ most ↔ ∀ id, (g.targets id).length ≤ most := by
  -- The loop bounds what it has seen and where it started.
  have hfold (rows : List (String × List String)) (start : ℕ) :
      rows.foldl (fun most r => if r.2.length > most then r.2.length else most) start ≤ most ↔
        start ≤ most ∧ ∀ r ∈ rows, r.2.length ≤ most := by
    induction rows generalizing start with
    | nil => simp
    | cons r rows ih =>
      rw [List.foldl_cons, ih, List.forall_mem_cons, ← and_assoc]
      refine and_congr_left fun _ => ?_
      split
      · omega
      · omega
  rw [maxFanOut, hfold, and_iff_right (Nat.zero_le _)]
  constructor
  · intro h id
    by_cases hnil : g.targets id = []
    · simp [hnil]
    · obtain ⟨target, htarget⟩ := List.exists_mem_of_ne_nil _ hnil
      obtain ⟨r, hr, rfl, -⟩ := exists_row_of_mem_targets htarget
      rw [find?_adjacency hr]
      exact h r hr
  · intro h r hr
    rw [← find?_adjacency hr]
    exact h r.1

/-! ## Graphs with the same nodes and edges -/

/-- **The nodes and edges determine a graph**, as far as its adjacency lists are kept. -/
theorem same_of_perm (hlinked : g.Linked) (hsimple : g.Simple) (hlinked' : g'.Linked)
    (hsimple' : g'.Simple) (hnodes : g.nodes.rows.Perm g'.nodes.rows)
    (hedges : g.edges.rows.Perm g'.edges.rows) : g.Same g' := by
  -- All that is counted or listed comes from the links, which are the edges.
  have hlinks : g.links.Perm g'.links :=
    (perm_links hlinked hsimple).trans ((hedges.map _).trans (perm_links hlinked' hsimple').symm)
  have htargets (id : String) : (g.targets id).Perm (g'.targets id) := by
    refine (List.perm_ext_iff_of_nodup (hsimple id) (hsimple' id)).mpr fun target => ?_
    rw [← mem_links, ← mem_links]
    exact hlinks.mem_iff
  have hsources (id : String) : (g.sources id).Perm (g'.sources id) := by
    rw [sources_eq, sources_eq]
    exact (hlinks.filter _).map _
  have hfindNode : g.nodes.find? = g'.nodes.find? := funext (Lib.Table.find?_congr_of_perm hnodes)
  have hfindEdge : g.edges.find? = g'.edges.find? := funext (Lib.Table.find?_congr_of_perm hedges)
  have hstats : g.stats = g'.stats := by
    have hmax : g.maxFanOut = g'.maxFanOut := by
      refine eq_of_forall_ge_iff fun most => ?_
      rw [maxFanOut_le_iff, maxFanOut_le_iff]
      exact forall_congr' fun id => by rw [(htargets id).length_eq]
    have hisLinked (id : String) : g.isLinked id = g'.isLinked id := by
      rw [Bool.eq_iff_iff, isLinked_iff, isLinked_iff]
      exact exists_congr fun p => and_congr_left fun _ => hlinks.mem_iff
    have hisolated : g.isolatedNodeCount = g'.isolatedNodeCount := by
      unfold isolatedNodeCount
      simp only [hisLinked]
      exact (hnodes.filter _).length_eq
    unfold stats
    rw [hnodes.length_eq, hedges.length_eq, totalOut_eq, totalOut_eq, hlinks.length_eq, hmax,
      hisolated]
  exact {
    nodes := hnodes
    edges := hedges
    targets := htargets
    sources := hsources
    neighbors := by
      intro id
      unfold getNeighbors
      rw [hfindNode, hfindEdge]
      exact ⟨((htargets id).filterMap _).append ((hsources id).filterMap _),
        ((htargets id).filterMap _).append ((hsources id).filterMap _)⟩
    stats := hstats }

/-! ## Restored graphs -/

lemma hasKey_foldl_link (edges : List (GraphEdge α))
    (adjacency : Lib.Table (String × List String) String Prod.fst) (id : String) :
    (edges.foldl link adjacency).HasKey id ↔
      adjacency.HasKey id ∨ ∃ e ∈ edges, e.sourceID = id := by
  induction edges generalizing adjacency with
  | nil => simp
  | cons edge edges ih =>
    have hlink : (link adjacency edge).HasKey id ↔
        adjacency.HasKey id ∨ edge.sourceID = id := by
      rw [Lib.Table.hasKey_iff_find?, Lib.Table.hasKey_iff_find?, link, Lib.Table.find?_upsert]
      by_cases hid : id = edge.sourceID
      · simp [hid]
      · simp [hid, Ne.symm hid]
    rw [List.foldl_cons, ih, hlink, or_assoc, List.exists_mem_cons_iff]

lemma hasKey_adjacency_restore (snap : GraphSnapshot ν α) (id : String) :
    (g.restore snap).adjacency.HasKey id ↔
      (∃ node ∈ snap.nodes, node.id = id) ∨ ∃ e ∈ snap.edges, e.sourceID = id := by
  unfold restore
  dsimp only
  rw [hasKey_foldl_link, Lib.Table.hasKey_ofList]
  simp

/-- **Graphs survive a restart.** For every graph that the operations build, with its nodes and edges
stored in any order by a codec that reads back what it wrote: whatever graph it is restored over, the
result is the same graph, and it has no adjacency list of the old one. -/
theorem restoreFrom_same (codec : Lib.Codec (GraphSnapshot ν α) β γ) (hcodec : codec.RoundTrip)
    (ops : List (Op ν α)) (snap : GraphSnapshot ν α) (hsnap : (built ops).Ranged snap)
    (setFails : Bool) (compressed : γ) (hstored : storeSnapshot codec setFails snap = .ok compressed)
    (old : DependencyGraph ν α) :
    ∃ restored, old.restoreFrom codec (.ok (some compressed)) = .ok restored ∧
      (built ops).Same restored ∧
      ∀ id, restored.adjacency.HasKey id ↔
        id ∈ (built ops).ids ∨ ∃ e ∈ (built ops).edges, e.sourceID = id := by
  -- The snapshot has each node once, like the table it was taken of.
  have hdistinct : (snap.nodes.map GraphNode.id).Nodup :=
    (hsnap.nodes.map GraphNode.id).nodup_iff.mpr (built ops).nodes.nodup
  refine ⟨old.restore snap, ?_, ?_, ?_⟩
  · exact restoreFrom_of_decode (hcodec.decode_encode (encode_of_storeSnapshot hstored)) old
  · exact same_of_perm (linked_built ops) (simple_built ops) (.restore old snap) (.restore old snap)
      (hsnap.nodes.symm.trans (Lib.Table.perm_rows_ofList hdistinct).symm)
      (hsnap.edges.symm.trans (Lib.Table.perm_rows_ofList snap.distinct).symm)
  · intro id
    rw [hasKey_adjacency_restore]
    refine or_congr ?_ ?_
    · exact exists_congr fun node => and_congr_left fun _ => hsnap.nodes.mem_iff
    · exact exists_congr fun e => and_congr_left fun _ => hsnap.edges.mem_iff

/-- The nodes and edges of a small graph, in another order. -/
def chainSnapshot : GraphSnapshot Unit Unit where
  nodes := (built chain).nodes.rows.reverse
  edges := (built chain).edges.rows.reverse
  distinct := by decide +kernel

theorem restoreFrom_same_chain : ∃ restored,
    (built chain).restoreFrom .plain (.ok (some chainSnapshot)) = .ok restored ∧
      (built chain).Same restored ∧
      ∀ id, restored.adjacency.HasKey id ↔
        id ∈ (built chain).ids ∨ ∃ e ∈ (built chain).edges, e.sourceID = id :=
  restoreFrom_same .plain Lib.Codec.roundTrip_plain chain chainSnapshot
    ⟨List.reverse_perm _, List.reverse_perm _⟩ false chainSnapshot rfl (built chain)

end DependencyGraph

end Paryty.Processing

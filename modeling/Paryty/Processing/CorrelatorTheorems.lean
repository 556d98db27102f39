import Paryty.Lib.Run
import Paryty.Processing.Correlator

/-!
# What the correlator makes of the graph

The nodes are named `service:agent`, the ends of edges are named after a service, an agent or an
address. The dependencies are grouped by address and port, the edges by address.

* `Joined`: every edge joins two nodes, and a cleanup leaves nothing stale. `joined_iff` says in
  which runs it holds.
* `Aggregated`: an edge has what was observed between its ends. `aggregated_iff` says for which calls
  it does, whatever order the maps are ranged over in.
-/

namespace Paryty.Processing

/-- The context is live for this many polls. -/
def Ctx.survives (ctx : Ctx) (polls : ℕ) : Bool :=
  match ctx.live with
  | none => true
  | some live => decide (polls ≤ live)

lemma Ctx.survives_of_le {ctx : Ctx} {m n : ℕ} (hle : m ≤ n) (h : ctx.survives n = true) :
    ctx.survives m = true := by
  unfold survives at h ⊢
  cases hlive : ctx.live with
  | none => rfl
  | some live =>
    rw [hlive] at h
    exact decide_eq_true (hle.trans (of_decide_eq_true h))

lemma Ctx.survives_one {ctx : Ctx} : ctx.poll = none ↔ ctx.survives 1 = false := by
  obtain ⟨live⟩ := ctx
  cases live with
  | none => exact iff_of_false (by simp [Ctx.poll]) (by simp [Ctx.survives])
  | some n =>
    cases n with
    | zero => exact iff_of_true rfl rfl
    | succ n => exact iff_of_false (by simp [Ctx.poll]) (by simp [Ctx.survives])

namespace Correlator

variable {g : Graph} {call : Call}

/-! ## One call -/

/-- The nodes that a call makes. -/
def Call.nodeIDs (call : Call) : Set String :=
  {id | ∃ name ∈ call.services, nodeID call.batch.agentID name = id}

lemma ids_nodesUpdated : (call.nodesUpdated g).ids = g.ids ∪ call.nodeIDs := by
  rw [Call.nodesUpdated, ids_updateGraphNodes]
  simp only [mem_services_inOrder]
  rfl

lemma edges_nodesUpdated : (call.nodesUpdated g).edges = g.edges := edges_updateGraphNodes _ _ _

lemma ids_edgesUpdated : (call.edgesUpdated g).ids = g.ids ∪ call.nodeIDs :=
  ids_updateGraphEdges.trans ids_nodesUpdated

lemma correlate_graph (g : Graph) (call : Call) :
    ((correlate g call).2.ids =
        if call.ctx.survives 2 then g.ids ∪ call.nodeIDs else g.ids) ∧
      ((correlate g call).2.edges =
        if call.ctx.survives 3 then (call.edgesUpdated g).edges else g.edges) := by
  -- The graph of a call that gets to its end.
  have hend : ((updateGraphNodes (call.edgesUpdated g).getChanges.1 call.batch.agentID
        (inOrder call.orders.metrics call.services) call.now).ids = g.ids ∪ call.nodeIDs) ∧
      (updateGraphNodes (call.edgesUpdated g).getChanges.1 call.batch.agentID
        (inOrder call.orders.metrics call.services) call.now).edges =
          (call.edgesUpdated g).edges := by
    constructor
    · rw [ids_updateGraphNodes]
      simp only [mem_services_inOrder]
      rw [show (call.edgesUpdated g).getChanges.1.ids = (call.edgesUpdated g).ids from rfl,
        ids_edgesUpdated, Set.union_assoc]
      exact congrArg _ (Set.union_self _)
    · rw [edges_updateGraphNodes]
      rfl
  obtain ⟨⟨live⟩, resolve, batch, networkEvents, now, orders⟩ := call
  unfold correlate Ctx.survives
  cases live with
  | none => exact hend
  | some n =>
    -- One case for each poll that can find the context cancelled.
    obtain _ | _ | _ | _ | n := n
    · exact ⟨rfl, rfl⟩
    · exact ⟨rfl, rfl⟩
    · exact ⟨ids_nodesUpdated, edges_nodesUpdated⟩
    · exact ⟨ids_edgesUpdated, rfl⟩
    · simpa [Ctx.poll] using hend

lemma isOk_correlate (g : Graph) (call : Call) :
    (correlate g call).1.isOk = call.ctx.survives 4 := by
  obtain ⟨⟨live⟩, resolve, batch, networkEvents, now, orders⟩ := call
  unfold correlate Ctx.survives
  cases live with
  | none => rfl
  | some n =>
    obtain _ | _ | _ | _ | n := n
    · rfl
    · rfl
    · rfl
    · rfl
    · simp [Ctx.poll, Except.isOk, Except.toBool]

lemma sourceService_dependencies : ∀ dep ∈ call.dependencies, dep.sourceService = call.source :=
  fun _ => sourceService_of_mem

lemma exists_dependency_iff {ip : String} :
    (∃ dep ∈ call.dependencies, dep.targetService = ip) ↔
      ∃ tcp ∈ tcpEvents call.networkEvents, tcp.dstIP = ip := by
  constructor
  · rintro ⟨dep, hdep, rfl⟩
    have hseen := (mem_extractDependencies.mp hdep).1
    obtain ⟨tcp, htcp, hkey⟩ := List.countP_pos_iff.mp (Nat.pos_of_ne_zero hseen)
    exact ⟨tcp, htcp, (of_decide_eq_true hkey).1⟩
  · rintro ⟨tcp, htcp, rfl⟩
    have hseen : seen (tcpEvents call.networkEvents) (tcp.dstIP, tcp.dstPort) ≠ 0 :=
      (List.countP_pos_iff.mpr ⟨tcp, htcp, by simp⟩).ne'
    exact ⟨counted call.source (tcp.dstIP, tcp.dstPort)
      (seen (tcpEvents call.networkEvents) (tcp.dstIP, tcp.dstPort)),
      mem_extractDependencies.mpr ⟨hseen, rfl⟩, rfl⟩

/-! ## Runs -/

/-- The graph, and the cutoff of the cleanup that has just run. -/
structure State where
  graph : Graph := {}
  cleaned : Option Time := none

/-- A call of `Correlate` or of `CleanupStale`. -/
inductive Event
  | correlate (call : Call)
  | cleanupStale (ctx : Ctx) (now : Time) (order : List String)

/-- One call, on a correlator with a timeout. -/
def State.next (timeout : Duration) (s : State) : Event → State
  | .correlate call => ⟨(Correlator.correlate s.graph call).2, none⟩
  | .cleanupStale ctx now order =>
    ⟨(Correlator.cleanupStale s.graph timeout ctx now order).2,
      if ctx.survives 1 then some (now - timeout) else none⟩

/-- Edges join nodes, and nothing is left that a cleanup was to remove. -/
structure Joined (s : State) : Prop where
  ends : ∀ e ∈ s.graph.edges, e.sourceID ∈ s.graph.ids ∧ e.targetID ∈ s.graph.ids
  nodes : ∀ cutoff, s.cleaned = some cutoff → ∀ node ∈ s.graph.nodes, ¬ node.lastSeen < cutoff
  edges : ∀ cutoff, s.cleaned = some cutoff → ∀ e ∈ s.graph.edges, ¬ e.lastSeen < cutoff

/-- A call finds an edge under every key that it writes, or nodes at both ends. A cleanup finds no
stale edge between two nodes that are not stale. -/
def Anchored (timeout : Duration) (s : State) : Event → Prop
  | .correlate call =>
    call.ctx.survives 3 → call.source ≠ "" →
      ∀ tcp ∈ tcpEvents call.networkEvents, tcp.dstIP ≠ "" →
        s.graph.edges.HasKey (edgeKey call.source tcp.dstIP) ∨
          (call.source ∈ s.graph.ids ∪ call.nodeIDs ∧ tcp.dstIP ∈ s.graph.ids ∪ call.nodeIDs)
  | .cleanupStale ctx now _ =>
    ctx.survives 1 → ∀ e ∈ s.graph.edges, e.lastSeen < now - timeout →
      s.graph.isStale (now - timeout) e.sourceID = true ∨
        s.graph.isStale (now - timeout) e.targetID = true

variable {s : State} {timeout : Duration}

lemma ends_iff_pairs (g : Graph) :
    (∀ e ∈ g.edges, e.sourceID ∈ g.ids ∧ e.targetID ∈ g.ids) ↔
      ∀ p ∈ g.pairs, p.1 ∈ g.ids ∧ p.2 ∈ g.ids := by
  constructor
  · intro h p hp
    obtain ⟨e, he, rfl⟩ := hp
    exact h e he
  · intro h e he
    exact h e.pair ⟨e, he, rfl⟩

lemma joined_correlate_iff (h : Joined s) (call : Call) :
    Joined (s.next timeout (.correlate call)) ↔ Anchored timeout s (.correlate call) := by
  -- After a call nothing is promised about stale nodes.
  have hcleaned : (s.next timeout (.correlate call)).cleaned = none := rfl
  have hjoined : Joined (s.next timeout (.correlate call)) ↔
      ∀ p ∈ (correlate s.graph call).2.pairs,
        p.1 ∈ (correlate s.graph call).2.ids ∧ p.2 ∈ (correlate s.graph call).2.ids := by
    rw [← ends_iff_pairs]
    constructor
    · exact fun hnext => hnext.ends
    · intro hends
      exact ⟨hends, fun cutoff hc => absurd (hcleaned.symm.trans hc) (by simp),
        fun cutoff hc => absurd (hcleaned.symm.trans hc) (by simp)⟩
  obtain ⟨hids, hedges⟩ := correlate_graph s.graph call
  have hold := (ends_iff_pairs s.graph).mp h.ends
  rw [hjoined, hids]
  by_cases hthree : call.ctx.survives 3 = true
  · have htwo : call.ctx.survives 2 = true := Ctx.survives_of_le (by omega) hthree
    -- The new pairs are those under keys that are free.
    have hpairs : (correlate s.graph call).2.pairs =
        s.graph.pairs ∪ {p | call.source ≠ "" ∧ ¬ s.graph.edges.HasKey (edgeKey p.1 p.2) ∧
          ∃ dep ∈ call.dependencies, dep.targetService ≠ "" ∧
            (call.source, dep.targetService) = p} := by
      have hsame : (correlate s.graph call).2.pairs = (call.edgesUpdated s.graph).pairs := by
        unfold DependencyGraph.pairs
        rw [hedges, if_pos hthree]
      have hbefore : (call.nodesUpdated s.graph).pairs = s.graph.pairs := by
        unfold DependencyGraph.pairs
        rw [edges_nodesUpdated]
      rw [hsame, Call.edgesUpdated, pairs_updateGraphEdges sourceService_dependencies, hbefore,
        edges_nodesUpdated]
    rw [hpairs, if_pos htwo]
    simp only [Anchored, hthree, forall_true_left]
    constructor
    · intro hall hne tcp htcp hip
      by_contra hnot
      obtain ⟨hfree, hends⟩ := not_or.mp hnot
      obtain ⟨dep, hdep, htarget⟩ := exists_dependency_iff.mpr ⟨tcp, htcp, rfl⟩
      exact hends (hall (call.source, tcp.dstIP)
        (.inr ⟨hne, hfree, dep, hdep, htarget ▸ hip, by rw [htarget]⟩))
    · rintro hguard p (hp | ⟨hne, hfree, dep, hdep, hip, rfl⟩)
      · exact ⟨.inl (hold p hp).1, .inl (hold p hp).2⟩
      · obtain ⟨tcp, htcp, htarget⟩ := exists_dependency_iff.mp ⟨dep, hdep, rfl⟩
        rw [← htarget] at hip hfree ⊢
        exact (hguard hne tcp htcp hip).resolve_left hfree
  · -- No edge is written.
    have hpairs : (correlate s.graph call).2.pairs = s.graph.pairs := by
      unfold DependencyGraph.pairs
      rw [hedges, if_neg hthree]
    rw [hpairs]
    refine iff_of_true (fun p hp => ?_) (fun hlive => absurd hlive hthree)
    split
    · exact ⟨.inl (hold p hp).1, .inl (hold p hp).2⟩
    · exact hold p hp

lemma joined_cleanupStale_iff (hlinked : s.graph.Linked) (h : Joined s) (ctx : Ctx) (now : Time)
    (order : List String) : Joined (s.next timeout (.cleanupStale ctx now order)) ↔
      Anchored timeout s (.cleanupStale ctx now order) := by
  cases hpoll : ctx.poll with
  | none =>
    -- A cancelled context: nothing is cleaned up.
    have hlive : ctx.survives 1 = false := Ctx.survives_one.mp hpoll
    have hnext : s.next timeout (.cleanupStale ctx now order) = ⟨s.graph, none⟩ := by
      unfold State.next cleanupStale
      simp [hpoll, hlive]
    rw [hnext]
    refine iff_of_true ⟨h.ends, ?_, ?_⟩ fun hsurvives => ?_
    · exact fun cutoff hc => absurd hc (by simp)
    · exact fun cutoff hc => absurd hc (by simp)
    · rw [hlive] at hsurvives
      exact absurd hsurvives Bool.false_ne_true
  | some ctx' =>
    have hlive : ctx.survives 1 = true := by
      rw [← Bool.not_eq_false]
      intro hfalse
      rw [← Ctx.survives_one, hpoll] at hfalse
      exact absurd hfalse (by simp)
    have hnext : s.next timeout (.cleanupStale ctx now order) =
        ⟨s.graph.removeStaleNodes (now - timeout) now order, some (now - timeout)⟩ := by
      unfold State.next cleanupStale
      simp [hpoll, hlive]
    rw [hnext]
    simp only [Anchored, hlive, forall_true_left]
    constructor
    · intro hjoined e he hstale
      by_contra hfresh
      rw [not_or, Bool.not_eq_true, Bool.not_eq_true] at hfresh
      exact hjoined.edges _ rfl e
        ((DependencyGraph.mem_edges_removeStaleNodes hlinked).mpr ⟨he, hfresh⟩) hstale
    · intro hguard
      constructor
      case ends =>
        intro e he
        obtain ⟨hold, hfresh⟩ := (DependencyGraph.mem_edges_removeStaleNodes hlinked).mp he
        rw [DependencyGraph.ids_removeStaleNodes]
        exact ⟨⟨(h.ends e hold).1, hfresh.1⟩, ⟨(h.ends e hold).2, hfresh.2⟩⟩
      case nodes =>
        intro cutoff hc node hnode
        obtain rfl := Option.some.inj hc
        exact (DependencyGraph.mem_nodes_removeStaleNodes.mp hnode).2
      case edges =>
        intro cutoff hc e he hstale
        obtain rfl := Option.some.inj hc
        obtain ⟨hold, hsource, htarget⟩ :=
          (DependencyGraph.mem_edges_removeStaleNodes hlinked).mp he
        obtain hstale | hstale := hguard e hold hstale
        · rw [hsource] at hstale
          exact absurd hstale Bool.false_ne_true
        · rw [htarget] at hstale
          exact absurd hstale Bool.false_ne_true

lemma linked_updateGraphNodes {agentID : String} {names : List String} {now : Time}
    (h : g.Linked) : (updateGraphNodes g agentID names now).Linked := by
  unfold updateGraphNodes
  induction names generalizing g with
  | nil => exact h
  | cons name names ih => exact ih (h.addOrUpdateNode _ now)

lemma linked_edgesUpdated (h : g.Linked) : (call.edgesUpdated g).Linked := by
  unfold Call.edgesUpdated updateGraphEdges
  -- The edges are written to the graph that has the nodes.
  have hnodes : (call.nodesUpdated g).Linked := linked_updateGraphNodes h
  generalize call.nodesUpdated g = g at hnodes
  induction call.dependencies generalizing g with
  | nil => exact hnodes
  | cons dep deps ih =>
    refine ih _ ?_
    unfold updateGraphEdge
    split
    · exact hnodes
    · exact hnodes.addOrUpdateEdge _ _

lemma linked_next (h : s.graph.Linked) (e : Event) : (s.next timeout e).graph.Linked := by
  cases e with
  | correlate call =>
    unfold State.next correlate
    dsimp only
    split
    · exact h
    · split
      · exact h
      · split
        · exact linked_updateGraphNodes h
        · split
          · exact linked_edgesUpdated h
          · exact linked_updateGraphNodes (linked_edgesUpdated h)
  | cleanupStale ctx now order =>
    unfold State.next cleanupStale
    dsimp only
    split
    · exact h
    · exact h.removeStaleNodes order

/-- **No dangling topology**, and when. For all calls of `Correlate` and `CleanupStale` in any order,
with any timeout: every edge joins two nodes, and a cleanup leaves no stale node or edge, if and only
if every call finds the keys that it writes in use, or nodes under the names of the service and of
the addresses, and every cleanup finds a stale node at an end of each stale edge. -/
theorem joined_iff (timeout : Duration) (es : List Event) :
    Lib.Always (State.next timeout) Joined {} es ↔
      Lib.Allowed (State.next timeout) (Anchored timeout) {} es := by
  refine Lib.always_iff_allowed (I := fun s => s.graph.Linked) ?_ ?_ .empty ?_ es
  · intro s e hlinked
    exact linked_next hlinked e
  · intro s e hlinked h
    cases e with
    | correlate call => exact joined_correlate_iff h call
    | cleanupStale ctx now order => exact joined_cleanupStale_iff hlinked h ctx now order
  · constructor
    · exact fun e he => absurd he Lib.Table.not_mem_empty
    · exact fun cutoff hc => absurd hc (by simp)
    · exact fun cutoff hc => absurd hc (by simp)

/-- One service on one agent, and a connection to an address. -/
def webCall : Call where
  ctx := .background
  resolve := id
  batch := { agentID := "agent", timestamp := 0, processes := [⟨"agent", 0, 7, "nginx", 0, 0⟩] }
  networkEvents := [⟨[⟨"10.0.0.1", 5432⟩]⟩]
  now := 0

/-- The edge leads from the name of the service to the address, and neither is a node. -/
theorem not_joined_webCall :
    ¬ Lib.Always (State.next (staleNodeTimeout 0)) Joined {} [.correlate webCall] := by
  intro halways
  have hjoined := halways.foldl
  have hedges : (correlate {} webCall).2.edges.rows.map GraphEdge.pair =
      [("nginx", "10.0.0.1")] := by
    decide +kernel
  have hnodes : (correlate {} webCall).2.nodes.rows.map GraphNode.id = ["nginx:agent"] := by
    decide +kernel
  have hmem : ("nginx", "10.0.0.1") ∈ (correlate {} webCall).2.edges.rows.map GraphEdge.pair := by
    rw [hedges]
    exact List.mem_singleton_self _
  obtain ⟨e, he, hpair⟩ := List.mem_map.mp hmem
  obtain ⟨node, hnode, hid⟩ := (hjoined.ends e he).1
  have hnamed : "nginx" ∈ (correlate {} webCall).2.nodes.rows.map GraphNode.id :=
    List.mem_map.mpr ⟨node, hnode, hid.trans (congrArg Prod.fst hpair)⟩
  rw [hnodes] at hnamed
  exact absurd (List.mem_singleton.mp hnamed) (by decide)

/-! ## Aggregates -/

/-- An edge has what the events to an address amount to. -/
structure IsAggregate (call : Call) (ip : String) (e : GraphEdge EdgeAttributes) : Prop where
  pair : e.pair = (call.source, ip)
  frequency : e.attributes.frequency =
    (tcpEvents call.networkEvents).countP fun tcp => tcp.dstIP = ip
  protocol : e.attributes.protocol = "tcp"
  port : ∃ tcp ∈ tcpEvents call.networkEvents, tcp.dstIP = ip ∧ tcp.dstPort = e.attributes.port
  lastSeen : e.lastSeen = call.now

/-- The call with its maps ranged over in other orders. -/
def Call.inOrders (call : Call) (orders : Orders) : Call := { call with orders }

/-- What a call that returns a result leaves under the key of the edge to an address. -/
def edgeTo (g : Graph) (call : Call) (ip : String) : Option (GraphEdge EdgeAttributes) :=
  (correlate g call).2.edges.find? (edgeKey call.source ip)

/-- Every address that was seen has an edge with what was seen, and the same in every order. -/
def Aggregated (g : Graph) (call : Call) : Prop :=
  ∀ tcp ∈ tcpEvents call.networkEvents, call.source ≠ "" → tcp.dstIP ≠ "" → ∀ orders,
    (correlate g (call.inOrders orders)).1.isOk →
      (∃ e, edgeTo g (call.inOrders orders) tcp.dstIP = some e ∧ IsAggregate call tcp.dstIP e) ∧
        edgeTo g (call.inOrders orders) tcp.dstIP = edgeTo g call tcp.dstIP

/-- Each address was seen with one port, and no other edge is stored under its key. -/
def Unambiguous (g : Graph) (call : Call) : Prop :=
  call.ctx.survives 4 → call.source ≠ "" →
    ∀ tcp ∈ tcpEvents call.networkEvents, tcp.dstIP ≠ "" →
      (∀ tcp' ∈ tcpEvents call.networkEvents, tcp'.dstIP = tcp.dstIP → tcp'.dstPort = tcp.dstPort) ∧
        ∀ e ∈ g.edges, e.key = edgeKey call.source tcp.dstIP → e.pair = (call.source, tcp.dstIP)

/-- The dependency that decides on the edge to an address. -/
def Call.lastOn (call : Call) (ip : String) : Option Dependency :=
  (call.dependencies.filter fun dep => dep.targetService = ip).getLast?

lemma edgeTo_eq (g : Graph) (call : Call) (hlive : call.ctx.survives 3 = true)
    (hne : call.source ≠ "") {ip : String} (hip : ip ≠ "") :
    edgeTo g call ip =
      stored (g.edges.find? (edgeKey call.source ip)) call.now (call.lastOn ip) := by
  rw [edgeTo, (correlate_graph g call).2, if_pos hlive, Call.edgesUpdated,
    find?_updateGraphEdges sourceService_dependencies hne hip, edges_nodesUpdated]
  rfl

lemma exists_lastOn {tcp : TCPEvent} (htcp : tcp ∈ tcpEvents call.networkEvents) :
    ∃ dep ∈ call.dependencies, call.lastOn tcp.dstIP = some dep ∧ dep.targetService = tcp.dstIP := by
  obtain ⟨dep, hdep, htarget⟩ := exists_dependency_iff.mpr ⟨tcp, htcp, rfl⟩
  have hmem : dep ∈ call.dependencies.filter fun dep => dep.targetService = tcp.dstIP :=
    List.mem_filter.mpr ⟨hdep, decide_eq_true htarget⟩
  have hlast := List.getLast?_eq_some_getLast (List.ne_nil_of_mem hmem)
  obtain ⟨hmem, htarget⟩ := List.mem_filter.mp (List.mem_of_mem_getLast? hlast)
  exact ⟨_, hmem, hlast, of_decide_eq_true htarget⟩

lemma seen_eq_countP_iff {events : List TCPEvent} {ip : String} {port : ℕ} :
    seen events (ip, port) = (events.countP fun tcp => tcp.dstIP = ip) ↔
      ∀ tcp ∈ events, tcp.dstIP = ip → tcp.dstPort = port := by
  rw [seen, List.countP_eq_length_filter, List.countP_eq_length_filter]
  have hsub : (events.filter fun tcp => tcp.dstIP = ip ∧ tcp.dstPort = port).Sublist
      (events.filter fun tcp => tcp.dstIP = ip) := by
    refine List.monotone_filter_right events fun tcp h => ?_
    exact decide_eq_true (of_decide_eq_true h).1
  constructor
  · intro hlength tcp htcp hip
    have hmem : tcp ∈ events.filter fun tcp => tcp.dstIP = ip ∧ tcp.dstPort = port := by
      rw [hsub.eq_of_length hlength]
      exact List.mem_filter.mpr ⟨htcp, decide_eq_true hip⟩
    exact (of_decide_eq_true (List.mem_filter.mp hmem).2).2
  · intro hall
    refine congrArg List.length (List.filter_congr fun tcp htcp => ?_)
    exact decide_eq_decide.mpr (and_iff_left_of_imp (hall tcp htcp))

lemma exists_stored (existing : Option (GraphEdge EdgeAttributes)) (now : Time) (dep : Dependency) :
    ∃ e, stored existing now (some dep) = some e ∧ e.attributes = (edgeOf now dep).attributes ∧
      e.lastSeen = now ∧ (∀ e₀, existing = some e₀ → e.pair = e₀.pair) ∧
        (existing = none → e.pair = (dep.sourceService, dep.targetService)) := by
  cases existing with
  | none => exact ⟨edgeOf now dep, rfl, rfl, rfl, by simp, fun _ => rfl⟩
  | some e₀ =>
    refine ⟨e₀.updated (edgeOf now dep), rfl, rfl, rfl, fun e h => ?_, by simp⟩
    rw [← Option.some.inj h]
    rfl

lemma lastOn_eq (call : Call) {tcp : TCPEvent} (htcp : tcp ∈ tcpEvents call.networkEvents)
    (hport : ∀ tcp' ∈ tcpEvents call.networkEvents, tcp'.dstIP = tcp.dstIP →
      tcp'.dstPort = tcp.dstPort) :
    call.lastOn tcp.dstIP = some (counted call.source (tcp.dstIP, tcp.dstPort)
      ((tcpEvents call.networkEvents).countP fun tcp' => tcp'.dstIP = tcp.dstIP)) := by
  obtain ⟨dep, hdep, hlast, htarget⟩ := exists_lastOn htcp
  obtain ⟨hseen, hcounted⟩ := mem_extractDependencies.mp hdep
  obtain ⟨tcp', htcp', hkey⟩ := List.countP_pos_iff.mp (Nat.pos_of_ne_zero hseen)
  have hkey : tcp'.dstIP = dep.targetService ∧ tcp'.dstPort = dep.port := of_decide_eq_true hkey
  have hsame : dep.depKey = (tcp.dstIP, tcp.dstPort) := by
    rw [Dependency.depKey, htarget, ← hkey.2, hport tcp' htcp' (hkey.1.trans htarget)]
  rw [hlast, hcounted, hsame, seen_eq_countP_iff.mpr hport]

/-- **Edges of several ports**, and when their order does not matter. For every graph and call: if
the call returns a result, then in whatever order it ranges over its maps, each address that was seen
has an edge with the number and data of all events to it, and the same edge in every order, if and
only if no address was seen with two ports, and none has a key under which another edge is stored (a
call without a source, and an event without an address, write no edge). -/
theorem aggregated_iff (g : Graph) (call : Call) : Aggregated g call ↔ Unambiguous g call := by
  constructor
  · intro h hlive hne tcp htcp hip
    have hthree : call.ctx.survives 3 = true := Ctx.survives_of_le (by omega) hlive
    obtain ⟨⟨e, hfound, hagg⟩, -⟩ :=
      h tcp htcp hne hip call.orders ((isOk_correlate g call).trans hlive)
    obtain ⟨dep, hdep, hlast, htarget⟩ := exists_lastOn htcp
    obtain ⟨e', hstored, hattributes, -, hpair, -⟩ :=
      exists_stored (g.edges.find? (edgeKey call.source tcp.dstIP)) call.now dep
    have hsame : e' = e := by
      rw [show call.inOrders call.orders = call from rfl, edgeTo_eq g call hthree hne hip, hlast,
        hstored] at hfound
      exact Option.some.inj hfound
    subst hsame
    constructor
    · -- The last group has the frequency of all of them, so it is the only one.
      have hcounted := (mem_extractDependencies.mp hdep).2
      have hfrequency : seen (tcpEvents call.networkEvents) (tcp.dstIP, dep.port) =
          (tcpEvents call.networkEvents).countP fun tcp' => tcp'.dstIP = tcp.dstIP := by
        rw [← hagg.frequency, hattributes, ← htarget]
        exact (congrArg Dependency.frequency hcounted).symm
      have hall := seen_eq_countP_iff.mp hfrequency
      intro tcp' htcp' hip'
      rw [hall tcp' htcp' hip', hall tcp htcp rfl]
    · intro e₀ he₀ hkey
      rw [← hpair e₀ (Lib.Table.find?_eq_some.mpr ⟨he₀, hkey⟩), hagg.pair]
  · intro h tcp htcp hne hip orders hok
    have hlive : call.ctx.survives 4 = true :=
      (isOk_correlate g (call.inOrders orders)).symm.trans hok
    have hthree : call.ctx.survives 3 = true := Ctx.survives_of_le (by omega) hlive
    obtain ⟨hport, hclash⟩ := h hlive hne tcp htcp hip
    -- The edge is the same in every order.
    have hedge (orders : Orders) : edgeTo g (call.inOrders orders) tcp.dstIP =
        stored (g.edges.find? (edgeKey call.source tcp.dstIP)) call.now
          (some (counted call.source (tcp.dstIP, tcp.dstPort)
            ((tcpEvents call.networkEvents).countP fun tcp' => tcp'.dstIP = tcp.dstIP))) := by
      rw [edgeTo_eq g (call.inOrders orders) hthree hne hip,
        lastOn_eq (call.inOrders orders) htcp hport]
      rfl
    obtain ⟨e, hstored, hattributes, hlastSeen, hpair, hnew⟩ :=
      exists_stored (g.edges.find? (edgeKey call.source tcp.dstIP)) call.now
        (counted call.source (tcp.dstIP, tcp.dstPort)
          ((tcpEvents call.networkEvents).countP fun tcp' => tcp'.dstIP = tcp.dstIP))
    refine ⟨⟨e, (hedge orders).trans hstored, ?_⟩, (hedge orders).trans (hedge call.orders).symm⟩
    constructor
    case pair =>
      cases hexisting : g.edges.find? (edgeKey call.source tcp.dstIP) with
      | none => exact hnew hexisting
      | some e₀ =>
        obtain ⟨he₀, hkey⟩ := Lib.Table.find?_eq_some.mp hexisting
        rw [hpair e₀ hexisting, hclash e₀ he₀ hkey]
    case frequency =>
      rw [hattributes]
      rfl
    case protocol =>
      rw [hattributes]
      rfl
    case port =>
      rw [hattributes]
      exact ⟨tcp, htcp, rfl, rfl⟩
    case lastSeen => exact hlastSeen

/-- Two connections to one address, on two ports. -/
def twoPorts : Call := { webCall with networkEvents := [⟨[⟨"10.0.0.1", 5432⟩, ⟨"10.0.0.1", 443⟩]⟩] }

/-- The edge says that there was one. -/
theorem not_aggregated_twoPorts : ¬ Aggregated {} twoPorts := by
  intro h
  have hseen : (⟨"10.0.0.1", 443⟩ : TCPEvent) ∈ tcpEvents twoPorts.networkEvents := by
    decide +kernel
  have hok : (correlate {} (twoPorts.inOrders {})).1.isOk = true := by
    rw [isOk_correlate]
    rfl
  obtain ⟨⟨e, hfound, hagg⟩, -⟩ := h _ hseen (by decide +kernel) (by decide) {} hok
  have hfrequency := hagg.frequency
  have hstored : (edgeTo {} (twoPorts.inOrders {}) "10.0.0.1").map (·.attributes.frequency) =
      some 1 := by
    decide +kernel
  rw [hfound, Option.map_some, hfrequency] at hstored
  exact absurd hstored (by decide +kernel)

end Correlator

end Paryty.Processing

import Mathlib.Data.List.Dedup
import Paryty.Processing.Aggregator
import Paryty.Processing.GraphSnapshot

/-!
# The correlator

`Correlate` and `CleanupStale` of `cluster/internal/processing/correlator.go`. The services of a
batch become nodes named after the service and the agent; the TCP events become edges from the name
of the service, or the agent, to an IP address.

* Maps are ranged over in an order that is data of a call, where the result depends on it.
* The service map is a function of the process name. It may be another one at each call.
* Labels, which the correlator leaves nil, are left out.
-/

namespace Paryty.Processing

namespace Correlator

/-! ## Data -/

/-- `Name`, `Type` and `HealthStatus` of a node. -/
structure NodeAttributes where
  name : String
  type : String
  healthStatus : String
deriving DecidableEq

/-- `Protocol`, `Port`, `Frequency`, `LatencyMs` and `ErrorRate` of an edge. -/
structure EdgeAttributes where
  protocol : String
  port : ℕ
  frequency : ℕ
  latencyMs : ℚ
  errorRate : ℚ
deriving DecidableEq

/-- The graph of a correlator. -/
abbrev Graph := DependencyGraph NodeAttributes EdgeAttributes

/-- `models.TCPEvent`, the fields that the correlator reads. -/
structure TCPEvent where
  dstIP : String
  dstPort : ℕ
deriving DecidableEq

/-- `models.NetworkEvent`, the field that the correlator reads. -/
structure NetworkEvent where
  tcp : List TCPEvent := []
deriving DecidableEq

/-- `Dependency`. -/
structure Dependency where
  sourceService : String
  targetService : String
  protocol : String
  port : ℕ
  frequency : ℕ
  latencyMs : ℚ := 0
  errorRate : ℚ := 0
deriving DecidableEq

/-- `depKey`. -/
def Dependency.depKey (dep : Dependency) : String × ℕ := (dep.targetService, dep.port)

/-- `CorrelationResult`. -/
structure CorrelationResult where
  agentID : String
  timestamp : Time
  processServices : List (String × String)
  dependencies : List Dependency
  topologyChanges : List GraphChange
  graphStats : DependencyGraph.GraphStats

/-- The orders in which a call ranges over its maps. -/
structure Orders where
  services : List String := []
  dependencies : List Dependency := []
  metrics : List String := []

/-! ## Steps -/

/-- `mapProcessToServices`. -/
def mapProcessToServices (resolve : String → String) (batch : MetricBatch) :
    Lib.Table (String × String) String Prod.fst :=
  .ofList <| batch.processes.filterMap fun proc =>
    if resolve proc.name = "" then none
    else some (toString proc.pid ++ ":" ++ proc.name, resolve proc.name)

/-- The services, each once. -/
def services (processServices : Lib.Table (String × String) String Prod.fst) : List String :=
  (processServices.rows.map Prod.snd).dedup

/-- `nodeID` in `updateGraphNodes`. -/
def nodeID (agentID serviceName : String) : String := serviceName ++ ":" ++ agentID

/-- The node of a service. -/
def serviceNode (agentID : String) (now : Time) (serviceName : String) :
    GraphNode NodeAttributes where
  id := nodeID agentID serviceName
  agentID := agentID
  attributes := ⟨serviceName, "service", "healthy"⟩
  firstSeen := now
  lastSeen := now

/-- `updateGraphNodes`, and `correlateMetrics`, which does the same. -/
def updateGraphNodes (g : Graph) (agentID : String) (serviceNames : List String) (now : Time) :
    Graph :=
  serviceNames.foldl (fun g name => g.addOrUpdateNode (serviceNode agentID now name) now) g

/-- `resolveSourceService`. -/
def resolveSourceService (serviceSet : List String) (agentID : String) : String :=
  match serviceSet with
  | [service] => service
  | _ => agentID

/-- The dependency that an event starts. -/
def dependencyOf (sourceService : String) (tcp : TCPEvent) : Dependency where
  sourceService := sourceService
  targetService := tcp.dstIP
  protocol := "tcp"
  port := tcp.dstPort
  frequency := 1

/-- `dep.Frequency++`. -/
def Dependency.again (dep : Dependency) : Dependency := { dep with frequency := dep.frequency + 1 }

lemma Dependency.depKey_again (dep : Dependency) : dep.again.depKey = dep.depKey := rfl

/-- The body of the loop in `extractDependencies`. -/
def countDependency (sourceService : String)
    (depMap : Lib.Table Dependency (String × ℕ) Dependency.depKey) (tcp : TCPEvent) :
    Lib.Table Dependency (String × ℕ) Dependency.depKey :=
  depMap.upsert (dependencyOf sourceService tcp) Dependency.again Dependency.depKey_again

/-- The TCP events of some network events. -/
def tcpEvents (networkEvents : List NetworkEvent) : List TCPEvent :=
  networkEvents.flatMap NetworkEvent.tcp

/-- `extractDependencies`. -/
def extractDependencies (networkEvents : List NetworkEvent) (sourceService : String)
    (order : List Dependency) : List Dependency :=
  inOrder order ((tcpEvents networkEvents).foldl (countDependency sourceService) .empty).rows

/-- The edge of a dependency. -/
def edgeOf (now : Time) (dep : Dependency) : GraphEdge EdgeAttributes where
  sourceID := dep.sourceService
  targetID := dep.targetService
  attributes := ⟨dep.protocol, dep.port, dep.frequency, dep.latencyMs, dep.errorRate⟩
  firstSeen := now
  lastSeen := now

/-- The body of the loop in `updateGraphEdges`. -/
def updateGraphEdge (now : Time) (g : Graph) (dep : Dependency) : Graph :=
  if dep.sourceService = "" ∨ dep.targetService = "" then g
  else g.addOrUpdateEdge (edgeOf now dep) now

/-- `updateGraphEdges`. -/
def updateGraphEdges (g : Graph) (dependencies : List Dependency) (now : Time) : Graph :=
  dependencies.foldl (updateGraphEdge now) g

/-! ## Calls -/

/-- What a call of `Correlate` is given. -/
structure Call where
  ctx : Ctx
  resolve : String → String
  batch : MetricBatch
  networkEvents : List NetworkEvent
  now : Time
  orders : Orders := {}

/-- The services that run on the agent. -/
def Call.services (call : Call) : List String :=
  Correlator.services (mapProcessToServices call.resolve call.batch)

/-- The source of all edges that a call writes. -/
def Call.source (call : Call) : String := resolveSourceService call.services call.batch.agentID

/-- The graph after step 2. -/
def Call.nodesUpdated (call : Call) (g : Graph) : Graph :=
  updateGraphNodes g call.batch.agentID (inOrder call.orders.services call.services) call.now

/-- What step 3 finds. -/
def Call.dependencies (call : Call) : List Dependency :=
  extractDependencies call.networkEvents call.source call.orders.dependencies

/-- The graph after step 4. -/
def Call.edgesUpdated (call : Call) (g : Graph) : Graph :=
  updateGraphEdges (call.nodesUpdated g) call.dependencies call.now

/-- `Correlate`: the steps between the polls of the context. -/
def correlate (g : Graph) (call : Call) : Except String CorrelationResult × Graph :=
  match call.ctx.poll with
  | none => (.error "correlator: context cancelled", g)
  | some ctx =>
    match ctx.poll with
    | none => (.error "correlator: context cancelled after step 1", g)
    | some ctx =>
      match ctx.poll with
      | none => (.error "correlator: context cancelled after step 2", call.nodesUpdated g)
      | some ctx =>
        match ctx.poll with
        | none => (.error "correlator: context cancelled after step 4", call.edgesUpdated g)
        | some _ =>
          let (drained, changes) := (call.edgesUpdated g).getChanges
          let correlated :=
            updateGraphNodes drained call.batch.agentID (inOrder call.orders.metrics call.services)
              call.now
          (.ok
            { agentID := call.batch.agentID
              timestamp := call.now
              processServices := (mapProcessToServices call.resolve call.batch).rows
              dependencies := call.dependencies
              topologyChanges := changes
              graphStats := correlated.stats },
            correlated)

/-- `defaultStaleNodeTimeout`. -/
def defaultStaleNodeTimeout : Duration := 5 * minute

/-- `StaleNodeTimeout` of a correlator that `NewCorrelator` makes. -/
def staleNodeTimeout (configured : Duration) : Duration :=
  if configured = 0 then defaultStaleNodeTimeout else configured

/-- `CleanupStale`: how many nodes and edges are removed, and what is left. -/
def cleanupStale (g : Graph) (timeout : Duration) (ctx : Ctx) (now : Time) (order : List String) :
    (ℕ × ℕ) × Graph :=
  match ctx.poll with
  | none => ((0, 0), g)
  | some _ =>
    let cleaned := g.removeStaleNodes (now - timeout) now order
    ((((g.ranged order).filter (g.isStale (now - timeout))).length,
      g.edges.rows.length - cleaned.edges.rows.length), cleaned)

/-! ## Nodes -/

variable {g : Graph}

lemma mem_services_inOrder {order : List String} {call : Call} {name : String} :
    name ∈ inOrder order call.services ↔ name ∈ call.services :=
  (perm_inOrder order call.services).mem_iff

lemma edges_updateGraphNodes (agentID : String) (names : List String) (now : Time) :
    (updateGraphNodes g agentID names now).edges = g.edges := by
  unfold updateGraphNodes
  induction names generalizing g with
  | nil => rfl
  | cons name names ih => exact ih.trans (DependencyGraph.edges_addOrUpdateNode _ now)

lemma ids_updateGraphNodes (agentID : String) (names : List String) (now : Time) :
    (updateGraphNodes g agentID names now).ids =
      g.ids ∪ {id | ∃ name ∈ names, nodeID agentID name = id} := by
  unfold updateGraphNodes
  induction names generalizing g with
  | nil => simp
  | cons name names ih =>
    rw [List.foldl_cons, ih, DependencyGraph.ids_addOrUpdateNode]
    ext id
    simp only [Set.mem_union, Set.mem_insert_iff, Set.mem_ofPred_eq, List.exists_mem_cons_iff,
      serviceNode]
    rw [eq_comm (a := id), or_comm (a := nodeID agentID name = id), or_assoc]

/-! ## Dependencies -/

/-- How often an address and port were seen. -/
def seen (events : List TCPEvent) (key : String × ℕ) : ℕ :=
  events.countP fun tcp => tcp.dstIP = key.1 ∧ tcp.dstPort = key.2

/-- The dependency for events that were seen a number of times. -/
def counted (sourceService : String) (key : String × ℕ) (frequency : ℕ) : Dependency :=
  { dependencyOf sourceService ⟨key.1, key.2⟩ with frequency }

lemma find?_foldl_countDependency (sourceService : String) (events : List TCPEvent)
    (key : String × ℕ) :
    (events.foldl (countDependency sourceService) .empty).find? key =
      if seen events key = 0 then none
      else some (counted sourceService key (seen events key)) := by
  induction events using List.reverseRecOn with
  | nil => rfl
  | append_singleton events tcp ih =>
    rw [List.foldl_concat, countDependency, Lib.Table.find?_upsert, ih]
    have hseen : seen (events ++ [tcp]) key =
        seen events key + if tcp.dstIP = key.1 ∧ tcp.dstPort = key.2 then 1 else 0 := by
      simp [seen, List.countP_append, List.countP_singleton]
    have hkey : key = (dependencyOf sourceService tcp).depKey ↔
        tcp.dstIP = key.1 ∧ tcp.dstPort = key.2 := by
      rw [eq_comm, Prod.ext_iff]
      exact Iff.rfl
    by_cases hsame : tcp.dstIP = key.1 ∧ tcp.dstPort = key.2
    · rw [if_pos (hkey.mpr hsame), hseen, if_pos hsame, if_neg (Nat.succ_ne_zero _)]
      by_cases hzero : seen events key = 0
      · rw [if_pos hzero, hzero, hkey.mpr hsame]
        rfl
      · rw [if_neg hzero]
        rfl
    · rw [if_neg fun h => hsame (hkey.mp h), hseen, if_neg hsame, Nat.add_zero]

lemma mem_extractDependencies {networkEvents : List NetworkEvent} {sourceService : String}
    {order : List Dependency} {dep : Dependency} :
    dep ∈ extractDependencies networkEvents sourceService order ↔
      seen (tcpEvents networkEvents) dep.depKey ≠ 0 ∧
        dep = counted sourceService dep.depKey (seen (tcpEvents networkEvents) dep.depKey) := by
  rw [extractDependencies, (perm_inOrder order _).mem_iff]
  have hfind : dep ∈ (tcpEvents networkEvents).foldl (countDependency sourceService) .empty ↔
      ((tcpEvents networkEvents).foldl (countDependency sourceService) .empty).find? dep.depKey =
        some dep := by
    rw [Lib.Table.find?_eq_some, and_iff_left rfl]
  rw [Lib.Table.mem_rows, hfind, find?_foldl_countDependency]
  by_cases hzero : seen (tcpEvents networkEvents) dep.depKey = 0
  · simp [hzero]
  · rw [if_neg hzero, and_iff_right hzero, Option.some_inj, eq_comm]

lemma sourceService_of_mem {networkEvents : List NetworkEvent} {sourceService : String}
    {order : List Dependency} {dep : Dependency}
    (h : dep ∈ extractDependencies networkEvents sourceService order) :
    dep.sourceService = sourceService := by
  rw [(mem_extractDependencies.mp h).2]
  rfl

/-! ## Edges -/

lemma edgeKey_right_inj {source ip ip' : String} :
    edgeKey source ip = edgeKey source ip' ↔ ip = ip' := by
  unfold edgeKey
  exact String.append_right_inj _

variable {source : String} {now : Time} {deps : List Dependency}

lemma ids_updateGraphEdges : (updateGraphEdges g deps now).ids = g.ids := by
  unfold updateGraphEdges
  induction deps generalizing g with
  | nil => rfl
  | cons dep deps ih =>
    refine ih.trans ?_
    unfold updateGraphEdge
    split
    · rfl
    · exact DependencyGraph.ids_addOrUpdateEdge _ now

lemma updateGraphEdges_concat (dep : Dependency) :
    updateGraphEdges g (deps ++ [dep]) now =
      updateGraphEdge now (updateGraphEdges g deps now) dep := by
  rw [updateGraphEdges, List.foldl_concat, updateGraphEdges]

/-- What is stored under a key after the last dependency of those that were written there. -/
def stored (existing : Option (GraphEdge EdgeAttributes)) (now : Time) :
    Option Dependency → Option (GraphEdge EdgeAttributes)
  | none => existing
  | some dep => some ((existing.map (·.updated (edgeOf now dep))).getD (edgeOf now dep))

lemma stored_stored {existing : Option (GraphEdge EdgeAttributes)} {last : Option Dependency}
    {dep : Dependency} (hlast : ∀ dep' ∈ last, dep'.sourceService = dep.sourceService ∧
      dep'.targetService = dep.targetService) :
    stored (stored existing now last) now (some dep) = stored existing now (some dep) := by
  cases last with
  | none => rfl
  | some dep' =>
    obtain ⟨hsource, htarget⟩ := hlast dep' rfl
    cases existing with
    | none => simp [stored, edgeOf, GraphEdge.updated, hsource, htarget]
    | some e => rfl

lemma find?_updateGraphEdges (hsource : ∀ dep ∈ deps, dep.sourceService = source)
    (hne : source ≠ "") {ip : String} (hip : ip ≠ "") :
    (updateGraphEdges g deps now).edges.find? (edgeKey source ip) =
      stored (g.edges.find? (edgeKey source ip)) now
        (deps.filter fun dep => dep.targetService = ip).getLast? := by
  induction deps using List.reverseRecOn with
  | nil => rfl
  | append_singleton deps dep ih =>
    rw [List.forall_mem_append, List.forall_mem_singleton] at hsource
    obtain ⟨hdeps, rfl⟩ := hsource
    have hkey : edgeKey dep.sourceService ip = (edgeOf now dep).key ↔ dep.targetService = ip := by
      rw [eq_comm (a := dep.targetService)]
      exact edgeKey_right_inj
    rw [updateGraphEdges_concat, updateGraphEdge, List.filter_append]
    by_cases htarget : dep.targetService = ip
    · have hwritten : ¬ (dep.sourceService = "" ∨ dep.targetService = "") := by
        rw [htarget, not_or]
        exact ⟨hne, hip⟩
      have hlast : [dep].filter (fun dep => dep.targetService = ip) = [dep] := by
        simp [htarget]
      rw [if_neg hwritten, DependencyGraph.find?_addOrUpdateEdge, if_pos (hkey.mpr htarget),
        ih hdeps, hlast, List.getLast?_concat]
      refine stored_stored fun dep' hdep' => ?_
      obtain ⟨hmem, htarget'⟩ := List.mem_filter.mp (List.mem_of_mem_getLast? hdep')
      exact ⟨hdeps dep' hmem, (of_decide_eq_true htarget').trans htarget.symm⟩
    · -- The edge to another address leaves the key alone.
      have hlast : [dep].filter (fun dep => dep.targetService = ip) = [] := by
        simp [htarget]
      rw [hlast, List.append_nil, ← ih hdeps]
      split
      · rfl
      · rw [DependencyGraph.find?_addOrUpdateEdge, if_neg fun h => htarget (hkey.mp h)]

lemma hasKey_updateGraphEdges (hsource : ∀ dep ∈ deps, dep.sourceService = source)
    (hne : source ≠ "") {ip : String} (hip : ip ≠ "") :
    (updateGraphEdges g deps now).edges.HasKey (edgeKey source ip) ↔
      g.edges.HasKey (edgeKey source ip) ∨ ∃ dep ∈ deps, dep.targetService = ip := by
  rw [Lib.Table.hasKey_iff_find?, Lib.Table.hasKey_iff_find?, find?_updateGraphEdges hsource hne hip]
  cases hlast : (deps.filter fun dep => dep.targetService = ip).getLast? with
  | none =>
    have hnone := List.filter_eq_nil_iff.mp (List.getLast?_eq_none_iff.mp hlast)
    refine (or_iff_left ?_).symm
    rintro ⟨dep, hdep, htarget⟩
    exact hnone dep hdep (decide_eq_true htarget)
  | some dep =>
    obtain ⟨hdep, htarget⟩ := List.mem_filter.mp (List.mem_of_mem_getLast? hlast)
    exact iff_of_true rfl (.inr ⟨dep, hdep, of_decide_eq_true htarget⟩)

/-- What the edges connect: the pairs that were there, and those of the dependencies whose key was
not in use. -/
lemma pairs_updateGraphEdges (hsource : ∀ dep ∈ deps, dep.sourceService = source) :
    (updateGraphEdges g deps now).pairs =
      g.pairs ∪ {p | source ≠ "" ∧ ¬ g.edges.HasKey (edgeKey p.1 p.2) ∧
        ∃ dep ∈ deps, dep.targetService ≠ "" ∧ (source, dep.targetService) = p} := by
  induction deps using List.reverseRecOn with
  | nil => simp [updateGraphEdges]
  | append_singleton deps dep ih =>
    rw [List.forall_mem_append, List.forall_mem_singleton] at hsource
    obtain ⟨hdeps, rfl⟩ := hsource
    rw [updateGraphEdges_concat, updateGraphEdge]
    by_cases hskip : dep.sourceService = "" ∨ dep.targetService = ""
    · rw [if_pos hskip, ih hdeps]
      ext p
      simp only [Set.mem_union, Set.mem_ofPred_eq, List.mem_append, List.mem_singleton, or_and_right,
        exists_or, exists_eq_left]
      refine or_congr_right (and_congr_right fun hne => and_congr_right fun _ => ?_)
      exact (or_iff_left fun h => h.1 (hskip.resolve_left hne)).symm
    · rw [if_neg hskip]
      obtain ⟨hne, hip⟩ := not_or.mp hskip
      have hused : (updateGraphEdges g deps now).edges.HasKey
          (edgeKey dep.sourceService dep.targetService) ↔
            g.edges.HasKey (edgeKey dep.sourceService dep.targetService) ∨
              ∃ dep' ∈ deps, dep'.targetService = dep.targetService :=
        hasKey_updateGraphEdges hdeps hne hip
      cases hfind : (updateGraphEdges g deps now).edges.find? (edgeOf now dep).key with
      | some existing =>
        -- Its key was in use before, or since an earlier dependency on the address.
        have hkey : g.edges.HasKey (edgeKey dep.sourceService dep.targetService) ∨
            ∃ dep' ∈ deps, dep'.targetService = dep.targetService :=
          hused.mp (Lib.Table.hasKey_iff_find?.mpr (Option.isSome_of_mem hfind))
        rw [DependencyGraph.pairs_addOrUpdateEdge_of_some hfind, ih hdeps]
        ext p
        simp only [Set.mem_union, Set.mem_ofPred_eq, List.mem_append, List.mem_singleton,
          or_and_right, exists_or, exists_eq_left]
        refine or_congr_right (and_congr_right fun _ => and_congr_right fun hfree => ?_)
        refine (or_iff_left_of_imp fun hlast => ?_).symm
        obtain ⟨-, rfl⟩ := hlast
        obtain ⟨dep', hdep', htarget⟩ := hkey.resolve_left hfree
        exact ⟨dep', hdep', htarget ▸ hip, by rw [htarget]⟩
      | none =>
        have hfree : ¬ g.edges.HasKey (edgeKey dep.sourceService dep.targetService) := by
          intro hkey
          have hsome := Lib.Table.hasKey_iff_find?.mp (hused.mpr (.inl hkey))
          rw [show edgeKey dep.sourceService dep.targetService = (edgeOf now dep).key from rfl,
            hfind] at hsome
          exact absurd hsome (by simp)
        rw [DependencyGraph.pairs_addOrUpdateEdge_of_none hfind, ih hdeps]
        ext p
        simp only [Set.mem_union, Set.mem_insert_iff, Set.mem_ofPred_eq, List.mem_append,
          List.mem_singleton, or_and_right, exists_or, exists_eq_left]
        rw [or_left_comm, and_or_left, and_or_left, or_comm (a := p = _)]
        refine or_congr_right (or_congr_right ?_)
        constructor
        · rintro rfl
          exact ⟨hne, hfree, hip, rfl⟩
        · rintro ⟨-, -, -, rfl⟩
          rfl

end Correlator

end Paryty.Processing

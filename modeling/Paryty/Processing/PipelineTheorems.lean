import Mathlib.Data.List.Destutter
import Mathlib.Data.List.TakeWhile
import Paryty.Processing.Pipeline

/-!
# Runs of the pipeline

* `breaker_spec`: the breaker goes by the last check that is decisive.
* `stored_first`: nothing is published before the batch is stored.
* `edges_dangle`: the edges of a topology that is stored do not start at its nodes.
* `tenant_kept`: a tenant that is read from a key is read again from the keys it is published under.
-/

namespace Paryty.Processing

/-! ## The breaker -/

namespace MemoryMonitor

variable {m : MemoryMonitor}

/-- What a check says about the breaker: that it is to be open, or closed, or nothing. -/
def verdict (m : MemoryMonitor) (currentAlloc : Int64) : Option Bool :=
  if currentAlloc > m.breakerThreshold then some true
  else if currentAlloc < m.warningThreshold then some false
  else none

lemma check_eq (m : MemoryMonitor) (alloc : Int64) :
    ((m.check alloc).maxRAMBytes = m.maxRAMBytes ∧
      (m.check alloc).breakerOpen = (m.verdict alloc).getD m.breakerOpen) ∧
    (m.check alloc).breakerTrips =
      m.breakerTrips + if m.breakerOpen = false ∧ m.verdict alloc = some true then 1 else 0 := by
  unfold check verdict
  by_cases hhigh : m.maxRAMBytes * 95 / 100 < alloc
  · cases hopen : m.breakerOpen <;> simp [breakerThreshold, hhigh]
  · by_cases hlow : alloc < m.maxRAMBytes * 80 / 100 <;>
      simp [breakerThreshold, warningThreshold, hhigh, hlow]

lemma verdict_congr {m m' : MemoryMonitor} (h : m.maxRAMBytes = m'.maxRAMBytes) :
    m.verdict = m'.verdict := by
  cases m
  cases m'
  cases h
  rfl

lemma checks_eq (allocs : List Int64) (m : MemoryMonitor) :
    (allocs.foldl check m).breakerOpen = (allocs.filterMap m.verdict).getLastD m.breakerOpen ∧
    (allocs.foldl check m).breakerTrips + (if m.breakerOpen then 1 else 0) =
      m.breakerTrips +
        ((allocs.filterMap m.verdict).destutter' (· ≠ ·) m.breakerOpen).count true := by
  induction allocs generalizing m with
  | nil => cases hb : m.breakerOpen <;> simp [hb]
  | cons alloc allocs ih =>
    obtain ⟨⟨hram, hopen⟩, htrips⟩ := check_eq m alloc
    obtain ⟨hlast, hcount⟩ := ih (m.check alloc)
    rw [verdict_congr hram, hopen] at hlast hcount
    rw [htrips] at hcount
    rw [List.foldl_cons, hlast]
    cases hv : m.verdict alloc with
    | none =>
      rw [List.filterMap_cons_none hv]
      simpa [hv] using hcount
    | some v =>
      rw [List.filterMap_cons_some hv, List.destutter'_cons, List.getLastD_cons, Option.getD_some]
      refine ⟨rfl, ?_⟩
      cases v <;> cases hb : m.breakerOpen <;> simp [hv, hb] at hcount ⊢ <;> omega

/-- The breaker is open after some checks if and only if the last decisive one was above the limit,
and it has tripped once for every change to that. -/
theorem breaker_spec (maxRAMBytes : Int64) (allocs : List Int64) :
    let m : MemoryMonitor := { maxRAMBytes }
    (allocs.foldl check m).breakerOpen = (allocs.filterMap m.verdict).getLastD false ∧
    (allocs.foldl check m).breakerTrips =
      ((allocs.filterMap m.verdict).destutter' (· ≠ ·) false).count true := by
  intro m
  obtain ⟨hopen, htrips⟩ := checks_eq allocs m
  exact ⟨hopen, by simpa [m] using htrips⟩

end MemoryMonitor

namespace Pipeline

open Correlator (CorrelationResult)

variable {p : Pipeline} {e : Surroundings} {tenant : String} {batch : MetricBatch}

/-! ## The calls of a batch -/

/-- The call of a stage. -/
def Stage.callOf : Stage → Option Call
  | .call made _ => some made
  | .fail _ => none

lemma execute_spec (sink : ℕ → Option String) (n : ℕ) (stages : List Stage) :
    (execute sink n stages).1 <+: stages.filterMap Stage.callOf ∧
    ((execute sink n stages).2 = none →
      (execute sink n stages).1 = stages.filterMap Stage.callOf) := by
  fun_induction execute sink n stages with
  | case1 => simp
  | case2 => simp
  | case3 n stages made rest ih => simpa [Stage.callOf] using ih
  | case4 n stages made text err herr => simp [Stage.callOf]
  | case5 n stages made text hnone rest ih => simpa [Stage.callOf] using ih

/-- What is made of a batch that gets through the correlator: the store comes first, and nothing is
published if it fails. -/
lemma processMetricBatch_cases (p : Pipeline) (e : Surroundings) (tenant : String)
    (batch : MetricBatch) :
    ((p.processMetricBatch e tenant batch).1.1 = [] ∧
      (p.processMetricBatch e tenant batch).1.2 ≠ none) ∨
    ∃ enriched rest, (p.processMetricBatch e tenant batch).1.1 =
      .storeMetricBatch tenant enriched :: rest ∧
        (rest ≠ [] ∨ (p.processMetricBatch e tenant batch).1.2 = none → e.sink 0 = none) := by
  unfold processMetricBatch
  rcases p.absorb e batch with ⟨_ | ⟨result, correlation⟩, p'⟩
  · exact .inl ⟨rfl, Option.some_ne_none _⟩
  · cases henrich : enrichBatch e.forBatch batch with
    | error err => simp [emit, henrich, execute]
    | ok enriched =>
      refine .inr ⟨enriched, ?_⟩
      cases hsink : e.sink 0 with
      | some err => exact ⟨[], by simp [emit, henrich, execute, hsink]⟩
      | none => simp [emit, henrich, execute, hsink]

lemma callOf_eq_some {stage : Stage} {made : Call} :
    stage.callOf = some made ↔ ∃ prefixed, stage = .call made prefixed := by
  cases stage <;> simp [Stage.callOf]

/-- The stages after those of the enriched batch. -/
def emitRest (config : Enricher.EnricherConfig) (e : Surroundings) (tenant agentID : String)
    (result : ProcessResult) (correlation : CorrelationResult) : List Stage :=
  result.topnChanges.map (fun change =>
      .call (.publishTenant topicMetricsAgg tenant agentID (.topN change))
        (some "pipeline: publish topn change: ")) ++
    emitAggregated config e tenant agentID result.aggregated ++
    emitTopology e tenant agentID correlation

lemma mem_emitRest {config : Enricher.EnricherConfig} {agentID : String} {result : ProcessResult}
    {correlation : CorrelationResult} {made : Call} (h : made ∈
      (emitRest config e tenant agentID result correlation).filterMap Stage.callOf) :
    (∃ topic message, made = .publishTenant topic tenant agentID message ∧
      ∀ enriched, message ≠ .enriched enriched) ∨
    (∃ m, made = .storeAggregatedMetric tenant m) ∨
    made = .setTopology tenant (buildTopology correlation) := by
  simp only [List.mem_filterMap, callOf_eq_some] at h
  obtain ⟨_, hmem, prefixed, rfl⟩ := h
  simp only [emitRest, emitAggregated, emitTopology, List.mem_append, List.mem_map] at hmem
  rcases hmem with (⟨change, -, hm⟩ | hmem) | hmem
  · cases hm
    exact .inl ⟨_, _, rfl, nofun⟩
  · repeat' split at hmem
    · simp at hmem
    · simp at hmem
    · obtain ⟨m, -, hm⟩ := List.mem_flatMap.mp hmem
      rcases List.mem_pair.mp hm with hm | hm <;> cases hm
      · exact .inl ⟨_, _, rfl, nofun⟩
      · exact .inr (.inl ⟨m, rfl⟩)
  · repeat' split at hmem
    · simp at hmem
    · simp at hmem
    · simp only [List.mem_append, List.mem_map, List.mem_singleton] at hmem
      rcases hmem with ⟨change, -, hm⟩ | hm <;> cases hm
      · exact .inl ⟨_, _, rfl, nofun⟩
      · exact .inr (.inr rfl)

lemma mem_processMetricBatch {made : Call}
    (h : made ∈ (p.processMetricBatch e tenant batch).1.1) :
    (∃ enriched, made = .storeMetricBatch tenant enriched) ∨
    (∃ topic message, made = .publishTenant topic tenant batch.agentID message) ∨
    (∃ m, made = .storeAggregatedMetric tenant m) ∨
    ∃ result correlation, (p.absorb e batch).1 = .ok (result, correlation) ∧
      made = .setTopology tenant (buildTopology correlation) := by
  revert h
  unfold processMetricBatch
  rcases p.absorb e batch with ⟨_ | ⟨result, correlation⟩, p'⟩
  · simp
  · intro h
    have hmem := (execute_spec e.sink 0 _).1.subset h
    unfold emit at hmem
    split at hmem
    · simp [Stage.callOf] at hmem
    · rw [List.append_assoc, List.append_assoc, ← List.append_assoc (List.map _ _), ← emitRest,
        List.filterMap_append, List.mem_append] at hmem
      rcases hmem with hmem | hmem
      · rcases List.mem_pair.mp hmem with rfl | rfl
        · exact .inl ⟨_, rfl⟩
        · exact .inr (.inl ⟨_, _, rfl⟩)
      · rcases mem_emitRest hmem with ⟨topic, message, rfl, -⟩ | hm | rfl
        · exact .inr (.inl ⟨_, _, rfl⟩)
        · exact .inr (.inr (.inl hm))
        · exact .inr (.inr (.inr ⟨_, _, rfl, rfl⟩))

lemma tenant_of_publish {topic t agentID : String} {message : Message}
    (h : .publishTenant topic t agentID message ∈ (p.processMetricBatch e tenant batch).1.1) :
    t = tenant := by
  rcases mem_processMetricBatch h with ⟨_, ⟨⟩⟩ | ⟨_, _, ⟨⟩⟩ | ⟨_, ⟨⟩⟩ | ⟨_, _, _, ⟨⟩⟩
  rfl

/-! ## What comes of the correlator -/

lemma correlate_ok {g : Correlator.Graph} {call : Correlator.Call}
    {correlation : CorrelationResult} (h : (Correlator.correlate g call).1 = .ok correlation) :
    correlation.agentID = call.batch.agentID ∧ correlation.dependencies = call.dependencies ∧
      correlation.processServices =
        (Correlator.mapProcessToServices call.resolve call.batch).rows := by
  unfold Correlator.correlate at h
  repeat' split at h
  all_goals cases h
  exact ⟨rfl, rfl, rfl⟩

lemma absorb_ok {result : ProcessResult} {correlation : CorrelationResult}
    (h : (p.absorb e batch).1 = .ok (result, correlation)) :
    ∃ call : Correlator.Call, (Correlator.correlate p.graph call).1 = .ok correlation := by
  revert h
  unfold absorb
  dsimp only
  repeat' split
  · simp
  · simp
  · simp
  · rename_i hcorrelate
    rintro ⟨⟩
    exact ⟨_, congrArg Prod.fst hcorrelate⟩

/-! ## Runs -/

section Runs

variable {decoder : Decoder}

/-- What holds of the calls of every record, and of two runs together if of both, holds of every
run. -/
lemma run_induction {P : List Call → Prop} (hnil : P [])
    (happend : ∀ xs ys, P xs → P ys → P (xs ++ ys))
    (hrecord : ∀ p e record, P (handleRecord p decoder e record).1.1) (p : Pipeline)
    (events : List Event) : P ((machine decoder).run p events).2 := by
  induction events generalizing p with
  | nil => exact hnil
  | cons event events ih =>
    refine happend _ _ ?_ (ih _)
    cases event with
    | check alloc => exact hnil
    | record e record => exact hrecord p e record

lemma fst_handleRecord (p : Pipeline) (decoder : Decoder) (e : Surroundings)
    (record : Stream.Record) : (p.handleRecord decoder e record).1 =
      (p.processMessage decoder e record.topic record.key record.value).1 := by
  unfold handleRecord
  dsimp only
  split <;> rfl

lemma calls_handleRecord (p : Pipeline) (decoder : Decoder) (e : Surroundings)
    (record : Stream.Record) :
    (p.handleRecord decoder e record).1.1 = [] ∨
    (∃ batch, (p.handleRecord decoder e record).1.1 =
      (p.processMetricBatch e (extractTenantFromKey record.key) batch).1.1) ∨
    ∃ made, (p.handleRecord decoder e record).1.1 = [made] ∧
      ((∃ t span, made = .storeSpan t span) ∨ (∃ events, made = .storeEvents events) ∨
        ∃ t anomaly, made = .storeAnomaly t anomaly) := by
  rw [fst_handleRecord]
  unfold processMessage storeDecoded
  repeat' split
  all_goals simp
  exact .inr (.inl ⟨_, rfl⟩)

/-- Everything that is published comes after a batch of the same tenant that is stored. -/
def StoredFirst (calls : List Call) : Prop :=
  ∀ earlier later topic t agentID message,
    calls = earlier ++ .publishTenant topic t agentID message :: later →
      ∃ enriched, .storeMetricBatch t enriched ∈ earlier

lemma StoredFirst.append {xs ys : List Call} (hxs : StoredFirst xs) (hys : StoredFirst ys) :
    StoredFirst (xs ++ ys) := by
  intro earlier later topic t agentID message h
  rcases List.append_eq_append_iff.mp h with ⟨mid, rfl, hmid⟩ | ⟨mid, rfl, hmid⟩
  · obtain ⟨enriched, hmem⟩ := hys mid later topic t agentID message hmid
    exact ⟨enriched, List.mem_append_right _ hmem⟩
  · cases mid with
    | nil =>
      obtain ⟨enriched, hmem⟩ := hys [] later topic t agentID message hmid.symm
      simp at hmem
    | cons made mid =>
      obtain ⟨rfl, -⟩ := List.cons_eq_cons.mp hmid
      exact hxs earlier mid topic t agentID message rfl

/-- In every run nothing of a tenant is published before a call that stores a batch of it. -/
theorem stored_first (p : Pipeline) (decoder : Decoder) (events : List Event) :
    StoredFirst ((machine decoder).run p events).2 := by
  refine run_induction (by simp [StoredFirst]) (fun _ _ => .append) (fun p e record => ?_) p events
  rcases calls_handleRecord p decoder e record with h | ⟨batch, h⟩ | ⟨made, h, hmade⟩
  · simp [h, StoredFirst]
  · rw [h]
    intro earlier later topic t agentID message hsplit
    obtain rfl := tenant_of_publish (hsplit ▸ List.mem_append_right _ List.mem_cons_self)
    rcases processMetricBatch_cases p e (extractTenantFromKey record.key) batch with
      ⟨hnone, -⟩ | ⟨enriched, rest, hcalls, -⟩
    · simp [hnone] at hsplit
    · rw [hcalls] at hsplit
      cases earlier with
      | nil => simp at hsplit
      | cons first earlier =>
        obtain ⟨rfl, -⟩ := List.cons_eq_cons.mp hsplit
        exact ⟨enriched, List.mem_cons_self⟩
  · rw [h]
    intro earlier later topic t agentID message hsplit
    have hmem : .publishTenant topic t agentID message ∈ [made] :=
      hsplit ▸ List.mem_append_right _ List.mem_cons_self
    obtain rfl := List.mem_singleton.mp hmem
    simp at hmade

/-- No edge of a topology that the call stores starts at one of its nodes. -/
def Call.Dangling : Call → Prop
  | .setTopology _ topology =>
    ∀ edge ∈ topology.edges, ∀ node ∈ topology.nodes, edge.sourceID ≠ node.id
  | _ => True

lemma resolveSourceService_ne {names : List String} {name : String} (h : name ∈ names)
    (agentID : String) :
    Correlator.resolveSourceService names agentID ≠ name ++ ":" ++ agentID := by
  intro heq
  have hlength := congrArg String.length heq
  have hcolon : ":".length = 1 := rfl
  simp only [String.length_append, hcolon] at hlength
  unfold Correlator.resolveSourceService at hlength
  split at hlength
  · rw [List.mem_singleton.mp h] at hlength
    omega
  · omega

lemma dangling_buildTopology {g : Correlator.Graph} {call : Correlator.Call}
    {correlation : CorrelationResult} (h : (Correlator.correlate g call).1 = .ok correlation)
    {edge : TopologyEdge} (hedge : edge ∈ (buildTopology correlation).edges) {node : TopologyNode}
    (hnode : node ∈ (buildTopology correlation).nodes) : edge.sourceID ≠ node.id := by
  obtain ⟨hagent, hdependencies, hservices⟩ := correlate_ok h
  simp only [buildTopology, List.mem_map, List.mem_dedup, List.mem_filter,
    List.mem_mapIdx, hagent, hdependencies, hservices] at hedge hnode
  obtain ⟨i, hi, rfl⟩ := hedge
  obtain ⟨_, ⟨⟨process, hprocess, rfl⟩, -⟩, rfl⟩ := hnode
  rw [Correlator.sourceService_of_mem (List.getElem_mem hi)]
  exact resolveSourceService_ne (List.mem_dedup.mpr (List.mem_map_of_mem hprocess)) _

/-- In every run: the source of an edge is the name of a service or of an agent, and a node is made of
both. -/
theorem edges_dangle (p : Pipeline) (decoder : Decoder) (events : List Event) :
    ((machine decoder).run p events).2.Forall Call.Dangling := by
  rw [List.forall_iff_forall_mem]
  refine run_induction (P := fun calls => ∀ made ∈ calls, made.Dangling) (by simp)
    (fun _ _ hxs hys => List.forall_mem_append.mpr ⟨hxs, hys⟩) (fun p e record => ?_) p events
  rcases calls_handleRecord p decoder e record with h | ⟨batch, h⟩ | ⟨made, h, hmade⟩
  · simp [h]
  · rw [h]
    intro made hmem
    rcases mem_processMetricBatch hmem with
      ⟨_, rfl⟩ | ⟨_, _, rfl⟩ | ⟨_, rfl⟩ | ⟨_, _, habsorb, rfl⟩
    · trivial
    · trivial
    · trivial
    · obtain ⟨call, hcorrelate⟩ := absorb_ok habsorb
      exact fun edge hedge node hnode => dangling_buildTopology hcorrelate hedge hnode
  · rw [h, List.forall_mem_singleton]
    rcases hmade with ⟨_, _, rfl⟩ | ⟨_, rfl⟩ | ⟨_, _, rfl⟩ <;> trivial

end Runs

/-! ## Tenants -/

lemma takeWhile_append_cons {α : Type*} {f : α → Bool} {a : α} (ha : f a = false) (xs ys : List α) :
    (xs ++ a :: ys).takeWhile f = xs.takeWhile f := by
  induction xs with
  | nil => simp [ha]
  | cons x xs ih => simp only [List.cons_append, List.takeWhile_cons, ih]

/-- The tenant of a record's key is that of the keys under which what comes of it is published, and
it is the one that published the record if its name has no colon. -/
theorem tenant_kept (key agentID : String) :
    extractTenantFromKey (Stream.State.recordKey (extractTenantFromKey key) agentID) =
      extractTenantFromKey key ∧
    ∀ tenant, extractTenantFromKey (Stream.State.recordKey tenant agentID) = tenant ↔
      ':' ∉ tenant.toList := by
  have hkey (tenant : String) : extractTenantFromKey (Stream.State.recordKey tenant agentID) =
      String.ofList (tenant.toList.takeWhile (· ≠ ':')) := by
    have hcolon : ":".toList = [':'] := rfl
    simp only [extractTenantFromKey, Stream.State.recordKey, String.toList_append, hcolon,
      List.append_assoc, List.singleton_append]
    rw [if_pos (by simp), takeWhile_append_cons (by simp)]
  have hround (tenant : String) : extractTenantFromKey (Stream.State.recordKey tenant agentID) =
      tenant ↔ ':' ∉ tenant.toList := by
    rw [hkey, ← String.toList_inj, String.toList_ofList, List.takeWhile_eq_self_iff]
    simp only [decide_eq_true_eq]
    exact ⟨fun h hmem => h _ hmem rfl, fun h c hc heq => h (heq ▸ hc)⟩
  refine ⟨(hround _).mpr ?_, hround⟩
  unfold extractTenantFromKey
  split
  · rw [String.toList_ofList]
    intro hmem
    simpa using List.mem_takeWhile_imp hmem
  · decide

end Pipeline

end Paryty.Processing

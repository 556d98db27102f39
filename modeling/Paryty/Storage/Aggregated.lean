import Paryty.Lib.Float64
import Paryty.Lib.Json
import Paryty.Processing.Aggregator

/-!
# Aggregated metrics in the warm tier

The table `aggregated_metrics` of QuestDB: `WriteAggregatedMetric` and `QueryAggregatedMetrics` of
`internal/storage/warm/questdb.go`, and the query of `query_optimizer.go`.

* The window of a metric is stored as a number of seconds, and the optimizer asks for a number of
  seconds. `QueryAggregatedMetrics` asks for the nanoseconds of the duration, and takes what it
  finds for nanoseconds.
* A time is stored in microseconds.
* How the driver reads the text of the labels into a map is the parameter `scanLabels`.
-/

namespace Paryty.Storage.Aggregated

open Lib Lib.Float64 Paryty.Processing

/-- A row of `aggregated_metrics`. -/
structure Row where
  /-- The place of the row in the table. -/
  rowID : ℕ
  /-- In microseconds. -/
  timestamp : ℤ
  agentID : String
  tenantID : String
  name : String
  labels : Option String
  window : ℤ
  aggType : AggregationType
  value : ℚ

/-- The microseconds of a time, as the driver sends it. -/
def micros (t : Time) : ℤ := t / 1000

/-- `int64(d.Seconds())`. -/
def seconds (d : Duration) : ℤ := truncate (inUnits 1000000000 d)

/-- `labelsJSON`: the labels as a JSON object. -/
def labelsJSON (labels : List (String × String)) : String :=
  if labels = [] then "\x7b\x7d"
  else
    let object := Json.sortFields (labels.map fun label => (label.1, .string label.2))
    (Json.marshal (.object object)).getD "\x7b\x7d"

/-- The row a metric is written to. -/
def newRow (rowID : ℕ) (tenant : String) (m : AggregatedMetric) : Row where
  rowID
  timestamp := micros m.timestamp
  agentID := m.agentID
  tenantID := tenant
  name := m.name
  labels := some (labelsJSON m.labels)
  window := seconds m.window
  aggType := m.aggType
  value := m.value

/-- `WriteAggregatedMetric`. -/
def writeAggregatedMetric (tenant : String) (m : AggregatedMetric) (table : List Row) : List Row :=
  table ++ [newRow table.length tenant m]

/-! ## Reading -/

/-- The arguments of `QueryAggregatedMetrics`. -/
structure Query where
  tenant : String
  agentID : String
  metricName : String
  window : Duration
  start : Time
  stop : Time

/-- The `WHERE` clause of `QueryAggregatedMetrics`. The duration is sent as it is, in
nanoseconds. -/
def Query.selects (q : Query) (row : Row) : Bool :=
  row.agentID = q.agentID ∧ row.name = q.metricName ∧ row.window = q.window ∧
    micros q.start ≤ row.timestamp ∧ row.timestamp ≤ micros q.stop ∧
    (q.tenant = "" ∨ row.tenantID = q.tenant)

/-- `ORDER BY timestamp DESC`. -/
def latestFirst (rows : List Row) : List Row :=
  rows.mergeSort fun a b => b.timestamp ≤ a.timestamp

/-- The rows `QueryAggregatedMetrics` gets. -/
def queryRows (q : Query) (table : List Row) : List Row := latestFirst (table.filter q.selects)

section Scan

variable (scanLabels : Option String → Option (List (String × String)))

/-- `rows.Scan` of a row into a metric. -/
def scanRow (row : Row) : Option AggregatedMetric :=
  (scanLabels row.labels).map fun labels =>
    { agentID := row.agentID, name := row.name, labels, window := row.window,
      aggType := row.aggType, value := row.value, timestamp := row.timestamp * 1000 }

/-- The loop over the rows; the first row that cannot be scanned ends it. -/
def scanRows : List Row → Except String (List AggregatedMetric)
  | [] => .ok []
  | row :: rows =>
    match scanRow scanLabels row with
    | none => .error "scan aggregated"
    | some m => (scanRows rows).map (m :: ·)

/-- `QueryAggregatedMetrics`. -/
def queryAggregatedMetrics (q : Query) (table : List Row) : Except String (List AggregatedMetric) :=
  scanRows scanLabels (queryRows q table)

lemma scanRows_eq_ok {rows : List Row} {metrics : List AggregatedMetric} :
    scanRows scanLabels rows = .ok metrics ↔
      List.Forall₂ (fun row m => scanRow scanLabels row = some m) rows metrics := by
  induction rows generalizing metrics with
  | nil => simp [scanRows, eq_comm]
  | cons row rows ih =>
    rw [List.forall₂_cons_left_iff, scanRows]
    cases hrow : scanRow scanLabels row with
    | none => simp
    | some m =>
      cases hrows : scanRows scanLabels rows with
      | error e => simp [Except.map, ← ih, hrows]
      | ok rest =>
        have hrest (l : List AggregatedMetric) :
            List.Forall₂ (fun row m => scanRow scanLabels row = some m) rows l ↔ rest = l := by
          rw [← ih, hrows, Except.ok.injEq]
        simp only [hrest]
        simp [Except.map, eq_comm]

lemma exists_scanRows {rows : List Row} (h : ∀ row ∈ rows, ∃ m, scanRow scanLabels row = some m) :
    ∃ metrics, scanRows scanLabels rows = .ok metrics := by
  induction rows with
  | nil => exact ⟨[], rfl⟩
  | cons row rows ih =>
    obtain ⟨m, hm⟩ := h row List.mem_cons_self
    obtain ⟨metrics, hmetrics⟩ := ih fun other hother => h other (List.mem_cons_of_mem _ hother)
    exact ⟨m :: metrics, by rw [scanRows, hm]; simp [hmetrics, Except.map]⟩

lemma scanRows_iff {P : Row → AggregatedMetric → Prop} {rows : List Row} :
    (∃ metrics, scanRows scanLabels rows = .ok metrics ∧ List.Forall₂ P rows metrics) ↔
      ∀ row ∈ rows, ∃ m, scanRow scanLabels row = some m ∧ P row m := by
  constructor
  · intro h
    obtain ⟨metrics, hok, hall⟩ := h
    have hboth : List.Forall₂ (fun row _ => (∃ m, scanRow scanLabels row = some m ∧ P row m) ∧ True)
        rows metrics :=
      List.Forall₂.mp (fun row m hscan hP => ⟨⟨m, hscan, hP⟩, trivial⟩)
        ((scanRows_eq_ok scanLabels).mp hok) hall
    exact ((List.forall₂_and_left _ _).mp hboth).1
  · intro h
    obtain ⟨metrics, hok⟩ :=
      exists_scanRows scanLabels fun row hrow => (h row hrow).imp fun _ => And.left
    refine ⟨metrics, hok, ?_⟩
    have hboth := (List.forall₂_and_left _ _).mpr ⟨h, (scanRows_eq_ok scanLabels).mp hok⟩
    refine hboth.imp fun row m hrow => ?_
    obtain ⟨⟨m', hm', hP⟩, hm⟩ := hrow
    rwa [Option.some.inj (hm.symm.trans hm')]

end Scan

/-! ## Tables of written metrics -/

/-- A metric written for a tenant. -/
structure Write where
  tenant : String
  metric : AggregatedMetric

/-- The table after some metrics have been written one after the other. -/
def written (ws : List Write) : List Row :=
  ws.foldl (fun table w => writeAggregatedMetric w.tenant w.metric table) []

lemma written_eq (ws : List Write) :
    written ws = ws.zipIdx.map fun w => newRow w.2 w.1.tenant w.1.metric := by
  induction ws using List.reverseRecOn with
  | nil => rfl
  | append_singleton ws w ih =>
    rw [written, List.foldl_append, ← written, ih]
    simp [List.zipIdx_append, writeAggregatedMetric]

/-! ## Selections -/

section Selection

variable {ws : List Write} {selects : Row → Bool} {Finds Asks : Write → Prop} [DecidablePred Asks]

lemma selection_perm (ws : List Write) (selects : Row → Bool) :
    (latestFirst ((written ws).filter selects)).Perm
      ((ws.zipIdx.map fun w => newRow w.2 w.1.tenant w.1.metric).filter selects) := by
  rw [← written_eq]
  exact List.mergeSort_perm _ _

lemma mem_selection
    (hfinds : ∀ w ∈ ws, ∀ i, selects (newRow i w.tenant w.metric) = true ↔ Finds w) {row : Row} :
    row ∈ latestFirst ((written ws).filter selects) ↔
      ∃ w i, ws[i]? = some w ∧ Finds w ∧ row = newRow i w.tenant w.metric := by
  rw [(selection_perm ws selects).mem_iff, List.mem_filter, List.mem_map]
  constructor
  · intro h
    obtain ⟨⟨⟨w, i⟩, hmem, rfl⟩, hselects⟩ := h
    have hget := List.mk_mem_zipIdx_iff_getElem?.mp hmem
    exact ⟨w, i, hget, (hfinds w (List.mem_of_getElem? hget) i).mp hselects, rfl⟩
  · intro h
    obtain ⟨w, i, hget, hw, rfl⟩ := h
    exact ⟨⟨(w, i), List.mk_mem_zipIdx_iff_getElem?.mpr hget, rfl⟩,
      (hfinds w (List.mem_of_getElem? hget) i).mpr hw⟩

/-- The rows that are selected are those of the metrics asked for exactly if the same metrics are
found and asked for. -/
lemma rowIDs_perm_iff
    (hfinds : ∀ w ∈ ws, ∀ i, selects (newRow i w.tenant w.metric) = true ↔ Finds w) :
    ((latestFirst ((written ws).filter selects)).map Row.rowID).Perm
        ((ws.zipIdx.filter fun w => Asks w.1).map Prod.snd) ↔
      ∀ w ∈ ws, Finds w ↔ Asks w := by
  constructor
  · intro hperm w hw
    obtain ⟨i, hget⟩ := List.getElem?_of_mem hw
    have hfound : i ∈ (latestFirst ((written ws).filter selects)).map Row.rowID ↔ Finds w := by
      rw [List.mem_map]
      constructor
      · intro h
        obtain ⟨row, hrow, rfl⟩ := h
        obtain ⟨w', i, hget', hw', rfl⟩ := (mem_selection hfinds).mp hrow
        obtain rfl := Option.some.inj (hget.symm.trans hget')
        exact hw'
      · exact fun h => ⟨_, (mem_selection hfinds).mpr ⟨w, i, hget, h, rfl⟩, rfl⟩
    have hasked : i ∈ (ws.zipIdx.filter fun w => Asks w.1).map Prod.snd ↔ Asks w := by
      simp only [List.mem_map, List.mem_filter, decide_eq_true_eq, Prod.exists, exists_eq_right,
        List.mk_mem_zipIdx_iff_getElem?, hget, Option.some.injEq]
      exact ⟨fun h => by obtain ⟨_, rfl, h⟩ := h; exact h, fun h => ⟨w, rfl, h⟩⟩
    rw [← hfound, ← hasked]
    exact hperm.mem_iff
  · intro h
    refine ((selection_perm ws selects).map Row.rowID).trans (List.Perm.of_eq ?_)
    rw [List.filter_map, List.map_map]
    have hfilter : ws.zipIdx.filter (selects ∘ fun w => newRow w.2 w.1.tenant w.1.metric) =
        ws.zipIdx.filter fun w => Asks w.1 := by
      apply List.filter_congr
      intro w hmem
      have hw : w.1 ∈ ws := List.mem_of_getElem? (List.mk_mem_zipIdx_iff_getElem?.mp hmem)
      rw [Bool.eq_iff_iff, Function.comp_apply, hfinds w.1 hw, h w.1 hw, decide_eq_true_iff]
    rw [hfilter]
    rfl

end Selection

/-! ## The window in seconds -/

lemma seconds_mul {n : ℤ} (hn : |n| < 2 ^ 53) : seconds (1000000000 * n) = n := by
  rw [seconds, inUnits_mul (by norm_num) hn, truncate_intCast]

lemma abs_seconds_le (d : ℤ) : |(seconds d : ℚ)| ≤
    2 * (|nearest (d.tdiv 1000000000)| + (4 * |(d : ℚ)| + 1 / 2) / 1000000000 + 1 / 4) + 1 / 4 := by
  have h := abs_inUnits_le (by norm_num : (0 : ℤ) < 1000000000) d
  push_cast at h
  exact (abs_truncate_le _).trans h

lemma eq_zero_of_seconds {d : ℤ} (h : seconds d = d) : d = 0 := by
  by_contra hne
  have hbound := abs_seconds_le d
  rw [h] at hbound
  have hone : (1 : ℚ) ≤ |(d : ℚ)| := by exact_mod_cast Int.one_le_abs hne
  by_cases hsmall : |d| < 1000000000
  · -- less than a second: there are no whole seconds
    have hdiv : d.tdiv 1000000000 = 0 := by
      rw [abs_lt] at hsmall
      rw [← Int.natAbs_eq_zero, Int.natAbs_tdiv]
      exact Nat.div_eq_of_lt (by omega)
    have hzero : nearest ((0 : ℤ) : ℚ) = ((0 : ℤ) : ℚ) := nearest_intCast (by norm_num)
    rw [hdiv, hzero] at hbound
    norm_num at hbound
    linarith
  · have hdiv : |(d.tdiv 1000000000 : ℚ)| * 1000000000 ≤ |(d : ℚ)| := by
      have habs : |d.tdiv 1000000000| * 1000000000 ≤ |d| := by
        rw [Int.abs_eq_natAbs, Int.abs_eq_natAbs, Int.natAbs_tdiv]
        exact_mod_cast Nat.div_mul_le_self _ _
      exact_mod_cast habs
    have hlarge : (1000000000 : ℚ) ≤ |(d : ℚ)| := by exact_mod_cast not_lt.mp hsmall
    linarith [abs_nearest_le (d.tdiv 1000000000)]

/-! ## The round trip -/

/-- The metric is the one written. Labels are equal as maps. -/
def AsWritten (m metric : AggregatedMetric) : Prop :=
  { m with labels := [] } = { metric with labels := [] } ∧
    ∀ key, m.labels.lookup key = metric.labels.lookup key

/-- The metric is one of those asked for. -/
def Query.Asks (q : Query) (w : Write) : Prop :=
  w.tenant = q.tenant ∧ w.metric.agentID = q.agentID ∧ w.metric.name = q.metricName ∧
    w.metric.window = q.window

/-- The metric is for the agent, the name and a tenant of the query, and its window has as many
seconds as there are nanoseconds in that of the query. -/
def Query.Finds (q : Query) (w : Write) : Prop :=
  (q.tenant = "" ∨ w.tenant = q.tenant) ∧ w.metric.agentID = q.agentID ∧
    w.metric.name = q.metricName ∧ seconds w.metric.window = q.window

instance (q : Query) : DecidablePred q.Asks := fun _ => inferInstanceAs (Decidable (_ ∧ _))

section RoundTrip

variable (scanLabels : Option String → Option (List (String × String)))

/-- The query returns exactly the metrics asked for: the rows it gets are those of these metrics,
and each row is returned as the metric that was written to it. -/
def RoundTrip (q : Query) (ws : List Write) : Prop :=
  ((queryRows q (written ws)).map Row.rowID).Perm
      ((ws.zipIdx.filter fun w => q.Asks w.1).map Prod.snd) ∧
    ∃ metrics, queryAggregatedMetrics scanLabels q (written ws) = .ok metrics ∧
      List.Forall₂ (fun row m => ∃ w, ws[row.rowID]? = some w ∧ AsWritten m w.metric)
        (queryRows q (written ws)) metrics

/-- The stored time is the time, and the driver reads the labels back. -/
def ComesBack (metric : AggregatedMetric) : Prop :=
  1000 ∣ metric.timestamp ∧ ∃ labels, scanLabels (some (labelsJSON metric.labels)) = some labels ∧
    ∀ key, labels.lookup key = metric.labels.lookup key

/-- What is asked for and what is found have no window at all, and come back. -/
def NoWindow (q : Query) (ws : List Write) : Prop :=
  ∀ w ∈ ws, q.Asks w ∨ q.Finds w →
    w.tenant = q.tenant ∧ w.metric.window = 0 ∧ q.window = 0 ∧ ComesBack scanLabels w.metric

variable {scanLabels} {q : Query} {ws : List Write}

/-- The range of the query contains the times of all metrics. -/
def InRange (q : Query) (ws : List Write) : Prop :=
  ∀ w ∈ ws, q.start ≤ w.metric.timestamp ∧ w.metric.timestamp ≤ q.stop

lemma micros_le {s t : ℤ} (h : s ≤ t) : micros s ≤ micros t :=
  Int.ediv_le_ediv (by norm_num) h

lemma selects_newRow (hrange : InRange q ws) : ∀ w ∈ ws, ∀ rowID,
    q.selects (newRow rowID w.tenant w.metric) = true ↔ q.Finds w := by
  intro w hw rowID
  have hstart := micros_le (hrange w hw).1
  have hstop := micros_le (hrange w hw).2
  rw [Query.selects, decide_eq_true_iff]
  exact ⟨fun h => ⟨h.2.2.2.2.2, h.1, h.2.1, h.2.2.1⟩,
    fun h => ⟨h.2.1, h.2.2.1, h.2.2.2, hstart, hstop, h.1⟩⟩

lemma scanRow_newRow {rowID : ℕ} {tenant : String} {metric : AggregatedMetric} :
    (∃ m, scanRow scanLabels (newRow rowID tenant metric) = some m ∧ AsWritten m metric) ↔
      seconds metric.window = metric.window ∧ ComesBack scanLabels metric := by
  have htime : micros metric.timestamp * 1000 = metric.timestamp ↔ (1000 : ℤ) ∣ metric.timestamp :=
    ⟨fun h => ⟨_, by rw [mul_comm]; exact h.symm⟩, Int.ediv_mul_cancel⟩
  cases hlabels : scanLabels (some (labelsJSON metric.labels)) with
  | none => simp [scanRow, newRow, ComesBack, hlabels]
  | some labels =>
    simp only [scanRow, newRow, hlabels, Option.map_some, Option.some.injEq, exists_eq_left',
      AsWritten, AggregatedMetric.mk.injEq, true_and, htime, ComesBack]
    tauto

lemma returned_iff (hrange : InRange q ws) :
    (∃ metrics, queryAggregatedMetrics scanLabels q (written ws) = .ok metrics ∧
      List.Forall₂ (fun row m => ∃ w, ws[row.rowID]? = some w ∧ AsWritten m w.metric)
        (queryRows q (written ws)) metrics) ↔
      ∀ w ∈ ws, q.Finds w →
        seconds w.metric.window = w.metric.window ∧ ComesBack scanLabels w.metric := by
  rw [show queryAggregatedMetrics scanLabels q (written ws) =
    scanRows scanLabels (queryRows q (written ws)) from rfl, scanRows_iff]
  constructor
  · intro h w hw hfinds
    obtain ⟨i, hget⟩ := List.getElem?_of_mem hw
    obtain ⟨m, hscan, w', hget', hm⟩ :=
      h _ ((mem_selection (selects_newRow hrange)).mpr ⟨w, i, hget, hfinds, rfl⟩)
    obtain rfl := Option.some.inj (hget.symm.trans hget')
    exact scanRow_newRow.mp ⟨m, hscan, hm⟩
  · intro h row hrow
    obtain ⟨w, i, hget, hfinds, rfl⟩ := (mem_selection (selects_newRow hrange)).mp hrow
    obtain ⟨m, hscan, hm⟩ := scanRow_newRow.mpr (h w (List.mem_of_getElem? hget) hfinds)
    exact ⟨m, hscan, w, hget, hm⟩

/-- For every set of metrics and every query whose range contains their times: the query returns
exactly those written for its tenant, agent, name and window if and only if all that have this
window, or as many seconds as it has nanoseconds, have no window at all, and come back. -/
theorem roundTrip_iff_noWindow (hrange : InRange q ws) :
    RoundTrip scanLabels q ws ↔ NoWindow scanLabels q ws := by
  have hperm : ((queryRows q (written ws)).map Row.rowID).Perm
      ((ws.zipIdx.filter fun w => q.Asks w.1).map Prod.snd) ↔ ∀ w ∈ ws, q.Finds w ↔ q.Asks w :=
    rowIDs_perm_iff (selects_newRow hrange)
  rw [RoundTrip, hperm, returned_iff hrange]
  have hzero : seconds 0 = 0 := seconds_mul (n := 0) (by norm_num)
  constructor
  · intro h w hw hor
    obtain ⟨hperm, hback⟩ := h
    have hfinds : q.Finds w := hor.elim (hperm w hw).mpr id
    obtain ⟨htenant, -, -, hwindow⟩ := (hperm w hw).mp hfinds
    obtain ⟨hseconds, hcomes⟩ := hback w hw hfinds
    have hnone : w.metric.window = 0 := eq_zero_of_seconds hseconds
    exact ⟨htenant, hnone, hwindow ▸ hnone, hcomes⟩
  · intro h
    refine ⟨fun w hw => ⟨fun hfinds => ?_, fun hasks => ?_⟩, fun w hw hfinds => ?_⟩
    · obtain ⟨htenant, hnone, hwindow, -⟩ := h w hw (.inr hfinds)
      exact ⟨htenant, hfinds.2.1, hfinds.2.2.1, hnone.trans hwindow.symm⟩
    · obtain ⟨htenant, hnone, hwindow, -⟩ := h w hw (.inl hasks)
      exact ⟨.inr htenant, hasks.2.1, hasks.2.2.1, by rw [hnone, hwindow, hzero]⟩
    · obtain ⟨-, hnone, -, hcomes⟩ := h w hw (.inr hfinds)
      exact ⟨by rw [hnone, hzero], hcomes⟩

/-- A metric over one minute. -/
def overMinute : Write where
  tenant := "acme"
  metric :=
    { agentID := "agent", name := "cpu", window := 60000000000, aggType := .avg, value := 1,
      timestamp := 1000 }

lemma seconds_overMinute : seconds overMinute.metric.window = 60 :=
  seconds_mul (n := 60) (by norm_num)

/-- A metric over no window. -/
def momentary : Write :=
  { overMinute with metric := { overMinute.metric with window := 0, timestamp := 2000 } }

/-- Asked for metrics over no window, the query returns the one that was written. -/
theorem roundTrip_momentary :
    RoundTrip (fun _ => some []) ⟨"acme", "agent", "cpu", 0, 0, 2000⟩ [overMinute, momentary] := by
  refine (roundTrip_iff_noWindow fun w hw => ?_).mpr fun w hw hor => ?_
  · rcases List.mem_pair.mp hw with rfl | rfl
    · decide
    · decide
  · rcases List.mem_pair.mp hw with rfl | rfl
    · rcases hor with hasks | hfinds
      · exact absurd hasks (by decide)
      · have hwindow := hfinds.2.2.2
        rw [seconds_overMinute] at hwindow
        exact absurd hwindow (by decide)
    · exact ⟨rfl, rfl, rfl, by decide, [], rfl, fun _ => rfl⟩

/-- Asked for metrics over one minute, the query returns nothing either. -/
theorem not_roundTrip_overMinute :
    ¬ ∀ (scanLabels : Option String → Option (List (String × String))) (q : Query)
      (ws : List Write), InRange q ws → RoundTrip scanLabels q ws := by
  intro h
  let q : Query := ⟨"acme", "agent", "cpu", 60000000000, 0, 1000⟩
  have hrange : InRange q [overMinute] := by
    intro w hw
    obtain rfl := List.mem_singleton.mp hw
    decide
  have hround := h (fun _ => none) q [overMinute] hrange
  have hperm := (rowIDs_perm_iff (selects_newRow hrange)).mp hround.1
  have hfinds := (hperm overMinute List.mem_cons_self).mpr (by decide)
  have hwindow := hfinds.2.2.2
  rw [seconds_overMinute] at hwindow
  exact absurd hwindow (by decide)

end RoundTrip

/-! ## The optimizer -/

/-- `defaultQueryLimit`. -/
def defaultQueryLimit : ℕ := 10000

/-- The `WHERE` clause of `queryAggregatedMetrics` of the optimizer. -/
def selectsSeconds (tenant agentID metricName : String) (windowSeconds : ℤ) (start stop : Time)
    (row : Row) : Bool :=
  row.tenantID = tenant ∧ row.agentID = agentID ∧ row.name = metricName ∧
    row.window = windowSeconds ∧ row.aggType = .avg ∧
    micros start ≤ row.timestamp ∧ row.timestamp ≤ micros stop

/-- The rows the optimizer gets. -/
def optimizerRows (tenant agentID metricName : String) (windowSeconds : ℤ) (start stop : Time)
    (table : List Row) : List Row :=
  let rows := table.filter (selectsSeconds tenant agentID metricName windowSeconds start stop)
  (latestFirst rows).take defaultQueryLimit

end Paryty.Storage.Aggregated

import Paryty.Lib.Run
import Paryty.Processing.WindowTheorems

/-!
# No closed window is lost

`GetClosedWindows` marks a window closed and hands out its snapshot once; "call PurgeClosed
after aggregation is complete". `Process` does both, but the background goroutine calls
`GetClosedWindows` every second as well and only logs the result. A window it gets to first is
closed when `Process` comes, which skips it and purges it.

The machine here interleaves `AddValue`, the ticks and `Process` and keeps a ledger of what
went in and out. Along every run in which no tick finds a window to close, and no buffer has
to evict a value, a `Process` call returns every value of every window that is due.
-/

namespace Paryty.Processing

/-- The aggregator with a ledger: every value added, every window whose aggregates `Process`
returned, those aggregates, and the time of the last event if that was a `Process` call that
ran to its end. -/
structure Ledger where
  aggregator : Aggregator
  received : List Route := []
  returned : List ClosedWindow := []
  emitted : List AggregatedMetric := []
  justProcessed : Option Time := none

/-- A fresh aggregator. -/
def Ledger.init (config : AggregatorConfig) : Ledger := { aggregator := NewAggregator config }

/-- The calls that reach the aggregator. -/
inductive WindowEvent
  | addValue (ctx : Ctx) (agentID metricName : String) (value : ℚ) (ts : Time)
  | tick (ctx : Ctx) (now : Time)
  | process (ctx : Ctx) (batch : MetricBatch) (timestamp now : Time)
deriving DecidableEq

namespace Ledger

/-- The routes of a call to `AddValue`; none when the context is cancelled. -/
def addedRoutes (l : Ledger) (ctx : Ctx) (agentID metricName : String) (value : ℚ) (ts : Time) :
    List Route :=
  match ctx.poll with
  | none => []
  | some _ => l.aggregator.windows.routes agentID metricName value ts

/-- The routes `Process` adds before it looks for closed windows. -/
def batchRoutes (l : Ledger) (ctx : Ctx) (batch : MetricBatch) (timestamp : Time) : List Route :=
  Aggregator.ingested l.aggregator.windows ctx batch.agentID timestamp (extractMetricValues batch)

/-- `AddValue`. -/
def addValue (l : Ledger) (ctx : Ctx) (agentID metricName : String) (value : ℚ) (ts : Time) :
    Ledger :=
  let windows := match l.aggregator.windows.addValue ctx agentID metricName value ts with
    | none => l.aggregator.windows
    | some (_, windows) => windows
  { l with
    aggregator := { l.aggregator with windows }
    received := l.received ++ l.addedRoutes ctx agentID metricName value ts
    justProcessed := none }

/-- A tick of the background goroutine. -/
def tick (l : Ledger) (ctx : Ctx) (now : Time) : Ledger :=
  { l with
    aggregator := { l.aggregator with
      windows := l.aggregator.windows.checkClosedWindows ctx now }
    justProcessed := none }

/-- `Process`. The ledger takes the windows it collected and the metrics it returns. -/
def process (l : Ledger) (ctx : Ctx) (batch : MetricBatch) (timestamp now : Time) : Ledger :=
  let received := l.received ++ l.batchRoutes ctx batch timestamp
  match l.aggregator.process ctx batch timestamp now,
      (l.aggregator.collect ctx batch timestamp now).1 with
  | (.ok (result, ctx), aggregator), .ok (closedWindows, _) =>
    { aggregator
      received
      returned := l.returned ++ closedWindows
      emitted := l.emitted ++ result.aggregated
      justProcessed := if ctx.poll.isSome then some now else none }
  | (_, aggregator), _ => { l with aggregator, received, justProcessed := none }

/-- One call. -/
def step (l : Ledger) : WindowEvent → Option Ledger
  | .addValue ctx agentID metricName value ts =>
    some (l.addValue ctx agentID metricName value ts)
  | .tick ctx now => some (l.tick ctx now)
  | .process ctx batch timestamp now => some (l.process ctx batch timestamp now)

/-! ## What `Process` owes a window -/

/-- The values of a window that `Process` returned. -/
def returnedValues (l : Ledger) (key : WindowKey) : List ℚ :=
  (l.returned.filter (fun window => window.key = key)).flatMap ClosedWindow.values

/-- After a `Process` call that ran to its end, every window whose close time has passed was
returned with every value it received, as aggregated metrics. -/
def NoClosedWindowLost (l : Ledger) : Prop :=
  ∀ now, l.justProcessed = some now → ∀ key, l.aggregator.windows.closeAt key ≤ now →
    l.returnedValues key = Windows.routed l.received key ∧
      ∀ window ∈ l.returned, window.key = key → ∀ metric ∈ aggregateWindow window,
        metric ∈ l.emitted

/-- The condition on a call: an added value fits into its buffers, and a tick finds nothing to
close. -/
def Gentle (l : Ledger) : WindowEvent → Prop
  | .addValue ctx agentID metricName value ts =>
    l.aggregator.windows.windows.HasRoom (l.addedRoutes ctx agentID metricName value ts)
  | .tick ctx now => l.aggregator.windows.closing ctx now = []
  | .process ctx batch timestamp _ =>
    l.aggregator.windows.windows.HasRoom (l.batchRoutes ctx batch timestamp)

instance (l : Ledger) : DecidablePred (Gentle l)
  | .addValue ctx agentID metricName value ts =>
    inferInstanceAs (Decidable (Windows.HasRoom _ (l.addedRoutes ctx agentID metricName value ts)))
  | .tick ctx now => inferInstanceAs (Decidable (l.aggregator.windows.closing ctx now = []))
  | .process ctx batch timestamp _ =>
    inferInstanceAs (Decidable (Windows.HasRoom _ (l.batchRoutes ctx batch timestamp)))

/-! ## The invariant -/

/-- Between calls every window in memory is open, every value is either returned or still
buffered, and what was returned was emitted. -/
structure Balanced (l : Ledger) : Prop where
  allOpen : l.aggregator.windows.windows.AllOpen
  kept : ∀ key, Windows.routed l.received key =
    l.returnedValues key ++ l.aggregator.windows.windows.values key
  emitted : l.emitted = l.returned.flatMap aggregateWindow
  returned : l.NoClosedWindowLost

lemma routed_append (first second : List Route) (key : WindowKey) :
    Windows.routed (first ++ second) key = Windows.routed first key ++ Windows.routed second key := by
  simp [Windows.routed]

lemma balanced_init (config : AggregatorConfig) : (init config).Balanced where
  allOpen := fun _ hbuf => absurd hbuf Lib.Table.not_mem_empty
  kept := fun _ => rfl
  emitted := rfl
  returned := fun _ h => absurd h (by simp [init])

/-- `AddValue` on the ledger adds the routes it records. -/
lemma windows_addValue (l : Ledger) (ctx : Ctx) (agentID metricName : String) (value : ℚ)
    (ts : Time) :
    (l.addValue ctx agentID metricName value ts).aggregator.windows.windows =
      (l.addedRoutes ctx agentID metricName value ts).foldl Windows.add
        l.aggregator.windows.windows := by
  unfold addValue addedRoutes WindowStateManager.addValue
  cases ctx.poll <;> rfl

lemma balanced_addValue {l : Ledger} (hl : l.Balanced) {ctx : Ctx} {agentID metricName : String}
    {value : ℚ} {ts : Time}
    (hroom : l.aggregator.windows.windows.HasRoom
      (l.addedRoutes ctx agentID metricName value ts)) :
    (l.addValue ctx agentID metricName value ts).Balanced := by
  have hvalues := fun key => Windows.values_foldl_add hl.allOpen hroom key
  constructor
  case allOpen =>
    rw [windows_addValue]
    exact (hvalues ⟨"", agentID, metricName, 0, 0⟩).1
  case kept =>
    intro key
    rw [windows_addValue, (hvalues key).2]
    show Windows.routed (l.received ++ _) key = l.returnedValues key ++ _
    rw [routed_append, hl.kept key, List.append_assoc]
  case emitted => exact hl.emitted
  case returned => exact fun now h => absurd h (by simp [addValue])

lemma balanced_tick {l : Ledger} (hl : l.Balanced) {ctx : Ctx} {now : Time}
    (hnone : l.aggregator.windows.closing ctx now = []) : (l.tick ctx now).Balanced := by
  have hwindows : (l.tick ctx now).aggregator.windows.windows = l.aggregator.windows.windows := by
    unfold tick WindowStateManager.checkClosedWindows WindowStateManager.getClosedWindows
    rw [hnone]
    apply Lib.Table.ext
    simp [Lib.Table.updateWhere]
  constructor
  case allOpen =>
    rw [hwindows]
    exact hl.allOpen
  case kept =>
    intro key
    rw [hwindows]
    exact hl.kept key
  case emitted => exact hl.emitted
  case returned => exact fun now h => absurd h (by simp [tick])

lemma values_closing (wm : WindowStateManager) (ctx : Ctx) (now : Time) (key : WindowKey) :
    (((wm.closing ctx now).map WindowBuffer.toClosedWindow).filter
      (fun window => window.key = key)).flatMap ClosedWindow.values =
      (((wm.windows.find? key).filter (fun buf => buf ∈ wm.closing ctx now)).map
        WindowBuffer.values).getD [] := by
  have hsub : (wm.closing ctx now).Sublist wm.windows.rows :=
    List.filter_sublist.trans (ctx.visits_sublist _)
  rw [List.filter_map]
  have hcomp : ((fun window : ClosedWindow => decide (window.key = key)) ∘
      WindowBuffer.toClosedWindow) = fun buf => decide (buf.key = key) := rfl
  rw [hcomp, wm.windows.filter_key_of_sublist hsub key]
  cases (wm.windows.find? key).filter (fun buf => buf ∈ wm.closing ctx now) with
  | none => rfl
  | some buf => simp [WindowBuffer.toClosedWindow]

lemma values_close_purge {wm : WindowStateManager} (hopen : wm.windows.AllOpen) (ctx : Ctx)
    (now : Time) (key : WindowKey) :
    wm.windows.values key =
      (((wm.closing ctx now).map WindowBuffer.toClosedWindow).filter
        (fun window => window.key = key)).flatMap ClosedWindow.values ++
      (wm.getClosedWindows ctx now).2.2.purgeClosed.windows.values key := by
  rw [values_closing, Windows.values, Windows.values,
    WindowStateManager.find?_close_purge hopen]
  cases hfind : wm.windows.find? key with
  | none => rfl
  | some buf =>
    simp only [Option.filter_some]
    by_cases hmem : buf ∈ wm.closing ctx now <;> simp [hmem]

lemma values_purged_of_due {wm : WindowStateManager} (hopen : wm.windows.AllOpen) {ctx : Ctx}
    {now : Time} (hlive : (ctx.after wm.windows.rows.length).poll.isSome) {key : WindowKey}
    (hdue : wm.closeAt key ≤ now) :
    (wm.getClosedWindows ctx now).2.2.purgeClosed.windows.values key = [] := by
  rw [Windows.values, WindowStateManager.find?_close_purge hopen]
  cases hfind : wm.windows.find? key with
  | none => rfl
  | some buf =>
    obtain ⟨hbuf, rfl⟩ := Lib.Table.find?_eq_some.mp hfind
    have hmem : buf ∈ wm.closing ctx now := by
      rw [WindowStateManager.closing, Ctx.visits_eq_of_poll_after hlive]
      exact List.mem_filter.mpr ⟨hbuf, by simp [WindowStateManager.due, hopen buf hbuf, hdue]⟩
    rw [Option.filter_some]
    simp [hmem]

lemma balanced_process {l : Ledger} (hl : l.Balanced) {ctx : Ctx} {batch : MetricBatch}
    {timestamp now : Time}
    (hroom : l.aggregator.windows.windows.HasRoom (l.batchRoutes ctx batch timestamp)) :
    (l.process ctx batch timestamp now).Balanced := by
  have hadd := fun key => Windows.values_foldl_add hl.allOpen hroom key
  have hwm := Aggregator.addValues_snd batch.agentID timestamp (extractMetricValues batch) ctx
    l.aggregator.windows
  have hopen := (hadd ⟨"", batch.agentID, "", 0, 0⟩).1
  unfold process Aggregator.process Aggregator.collect
  cases hvalues : Aggregator.addValues batch.agentID timestamp (extractMetricValues batch) ctx
      l.aggregator.windows with
  | mk result wm =>
    rw [hvalues] at hwm
    have hwindows : wm.windows = (l.batchRoutes ctx batch timestamp).foldl Windows.add
        l.aggregator.windows.windows :=
      congrArg WindowStateManager.windows hwm
    rw [← hwindows] at hopen
    have hkept : ∀ key, Windows.routed (l.received ++ l.batchRoutes ctx batch timestamp) key =
        l.returnedValues key ++ wm.windows.values key := by
      intro key
      rw [routed_append, hl.kept key, hwindows, (hadd key).2, List.append_assoc]
    cases result with
    | error err =>
      -- cancelled while adding: what was added stays buffered
      exact ⟨hopen, hkept, hl.emitted, fun now h => absurd h (by simp)⟩
    | ok ctx' =>
      have hemitted : l.emitted ++ ((wm.closing ctx' now).map
          WindowBuffer.toClosedWindow).flatMap aggregateWindow =
          (l.returned ++ (wm.closing ctx' now).map WindowBuffer.toClosedWindow).flatMap
            aggregateWindow := by
        rw [List.flatMap_append, hl.emitted]
      have hkept' : ∀ key, Windows.routed (l.received ++ l.batchRoutes ctx batch timestamp) key =
          ((l.returned ++ (wm.closing ctx' now).map WindowBuffer.toClosedWindow).filter
            (fun window => window.key = key)).flatMap ClosedWindow.values ++
          (wm.getClosedWindows ctx' now).2.2.purgeClosed.windows.values key := by
        intro key
        rw [hkept key, values_close_purge hopen ctx' now key, List.filter_append,
          List.flatMap_append, List.append_assoc]
        rfl
      refine ⟨WindowStateManager.allOpen_purgeClosed _, hkept', hemitted, ?_⟩
      intro now' hnow' key hdue
      simp only at hnow'
      split at hnow'
      case isFalse => exact absurd hnow' (by simp)
      case isTrue hlive =>
        obtain rfl := Option.some.inj hnow'
        have hdue' : wm.closeAt key ≤ now := hdue
        refine ⟨?_, fun window hwindow _ metric hmetric => ?_⟩
        · have hpurged := values_purged_of_due hopen hlive hdue'
          have := hkept' key
          rw [hpurged, List.append_nil] at this
          exact this.symm
        · show metric ∈ l.emitted ++ ((wm.closing ctx' now).map
            WindowBuffer.toClosedWindow).flatMap aggregateWindow
          rw [hemitted]
          exact List.mem_flatMap.mpr ⟨window, hwindow, hmetric⟩

lemma balanced_step {l l' : Ledger} {e : WindowEvent} (hl : l.Balanced) (hguard : l.Gentle e)
    (h : l.step e = some l') : l'.Balanced := by
  cases e with
  | addValue ctx agentID metricName value ts =>
    obtain rfl := Option.some.inj h
    exact balanced_addValue hl hguard
  | tick ctx now =>
    obtain rfl := Option.some.inj h
    exact balanced_tick hl hguard
  | process ctx batch timestamp now =>
    obtain rfl := Option.some.inj h
    exact balanced_process hl hguard

/-- Along every run of gentle calls, no closed window is lost. -/
theorem no_closed_window_lost {config : AggregatorConfig} {es : List WindowEvent} {l : Ledger}
    (run : Lib.Run step Gentle (init config) es l) : l.NoClosedWindowLost :=
  (run.invariant (fun _ _ _ hl hguard h => balanced_step hl hguard h)
    (balanced_init config)).returned

/-- One CPU sample of an agent. -/
def cpuBatch (ts : Time) (pct : ℚ) : MetricBatch :=
  { agentID := "agent-1", timestamp := ts, cpu := [⟨pct⟩] }

/-- An aggregator with a single window of one minute and the default grace of 30 seconds. -/
def oneMinute : AggregatorConfig := { windowSizes := [minute] }

/-- A value in the first minute, a tick during that minute, then a batch two minutes later. -/
def quietRun : List WindowEvent :=
  [.addValue .background "agent-1" "cpu.usage_percent" 40 (5 * second),
    .tick .background (10 * second),
    .process .background (cpuBatch (2 * minute) 50) (2 * minute) (2 * minute)]

/-- In `quietRun` the last call returns the window of the first minute with its value. -/
theorem no_closed_window_lost_witness :
    ∃ l, Lib.Run step Gentle (init oneMinute) quietRun l ∧ l.NoClosedWindowLost := by
  have hrun : (quietRun.foldlM (Lib.restrict step Gentle) (init oneMinute)).isSome := by
    decide +kernel
  obtain ⟨l, hl⟩ := Option.isSome_iff_exists.mp hrun
  have run := Lib.run_iff_foldlM_restrict.mpr hl
  exact ⟨l, run, no_closed_window_lost run⟩

/-- As `quietRun`, but the tick comes at the window's close time. -/
def tickFirst : List WindowEvent :=
  [.addValue .background "agent-1" "cpu.usage_percent" 40 (5 * second),
    .tick .background (90 * second),
    .process .background (cpuBatch (2 * minute) 50) (2 * minute) (2 * minute)]

/-- In `tickFirst` the window of the first minute is purged and its value never returned. -/
theorem closed_window_lost_to_tick :
    ¬ ∀ config es l, Lib.Run step Lib.Unguarded (init config) es l → l.NoClosedWindowLost := by
  intro h
  have hrun : (tickFirst.foldlM step (init oneMinute)).map (fun l =>
      (l.justProcessed, l.returned.length, (l.received.map Route.key).head?.map
        (fun key => decide (l.aggregator.windows.closeAt key ≤ 2 * minute)),
        (l.received.map Route.key).head?.map (fun key => Windows.routed l.received key))) =
      some (some (2 * minute), 0, some true, some [40]) := by
    decide +kernel
  obtain ⟨l, hl, hfacts⟩ := Option.map_eq_some_iff.mp hrun
  simp only [Prod.mk.injEq, Option.map_eq_some_iff, decide_eq_true_eq] at hfacts
  obtain ⟨hprocessed, hreturned, ⟨key, hkey, hdue⟩, key', hkey', hrouted⟩ := hfacts
  obtain rfl : key = key' := Option.some.inj (hkey.symm.trans hkey')
  have hlost := (h oneMinute tickFirst l (Lib.run_iff_foldlM.mpr hl) _ hprocessed key hdue).1
  rw [hrouted, returnedValues, List.length_eq_zero_iff.mp hreturned] at hlost
  exact absurd hlost (by simp)

end Ledger

end Paryty.Processing

import Mathlib.Order.Bounds.Basic
import Paryty.Lib.Run
import Paryty.Processing.WindowTheorems

/-!
# What `Process` emits

`Process` of `cluster/internal/processing/aggregator.go` adds values to their windows, collects
the windows that have closed, aggregates each of them into one set of metrics and purges them.
The machine here runs these calls in any order, with those of the background goroutine in
between, and keeps a history: the values added to each window in memory, the sets emitted, and
the values that came after the set of their window.

* `emitted_once`: a window is emitted once, in every run in which no value comes for a window
  that has been emitted and purged. A window is only remembered as closed until it is purged; a
  later value makes a new one under the same key, which is due at once.
* `covers_iff`: the emitted aggregates are computed from the buffered values, of which there are
  at most 256, and not from the running statistics that the buffer keeps of all of them.
-/

namespace Paryty.Processing

/-! ## The history -/

/-- A set of aggregates: the window it is computed from, and all values added to that. -/
structure Emission where
  window : ClosedWindow
  added : List ℚ
deriving DecidableEq

/-- The window manager with its history. -/
structure History where
  manager : WindowStateManager
  /-- The values added to the window in memory, the oldest first. -/
  added : WindowKey → List ℚ := fun _ => []
  /-- The sets emitted, the oldest first. -/
  emitted : List Emission := []
  /-- The windows of the values that came late, with the number of sets emitted by then. -/
  late : List (WindowKey × ℕ) := []

/-- The calls of the window manager. -/
inductive WindowOp
  /-- `Process` adds a value. -/
  | addValue (ctx : Ctx) (agentID metricName : String) (value : ℚ) (ts : Time)
  /-- `Process` collects the closed windows and aggregates them. -/
  | collect (ctx : Ctx) (now : Time)
  /-- `Process` purges the closed windows. -/
  | purge
  /-- The background goroutine checks for closed windows. -/
  | tick (ctx : Ctx) (now : Time)
  /-- The background goroutine purges stale windows. -/
  | purgeStale (maxAge : Duration) (now : Time)
deriving DecidableEq

namespace History

variable {h h' : History} {route : Route} {routes : List Route}

/-- A fresh aggregator. -/
def init (config : AggregatorConfig) : History := { manager := (NewAggregator config).windows }

/-- A set has been emitted for the window. -/
def Emitted (h : History) (key : WindowKey) : Prop := ∃ e ∈ h.emitted, e.window.key = key

instance (h : History) (key : WindowKey) : Decidable (h.Emitted key) :=
  inferInstanceAs (Decidable (∃ e ∈ h.emitted, e.window.key = key))

/-- The values added to a window, with one more: a new window starts with it, a closed one does
not take it. -/
def addedTo (h : History) (route : Route) : List ℚ :=
  match h.manager.windows.find? route.key with
  | none => [route.value]
  | some buf => if buf.closed then h.added route.key else h.added route.key ++ [route.value]

lemma addedTo_of_none (hnone : h.manager.windows.find? route.key = none) :
    h.addedTo route = [route.value] := by
  unfold addedTo
  rw [hnone]

lemma addedTo_of_some {buf : WindowBuffer} (hsome : h.manager.windows.find? route.key = some buf) :
    h.addedTo route =
      if buf.closed then h.added route.key else h.added route.key ++ [route.value] := by
  unfold addedTo
  rw [hsome]

/-- One value goes into one window. -/
def add (h : History) (route : Route) : History where
  manager := { h.manager with windows := h.manager.windows.add route }
  added := Function.update h.added route.key (h.addedTo route)
  emitted := h.emitted
  late := if h.Emitted route.key then h.late ++ [(route.key, h.emitted.length)] else h.late

/-- The routes of a call to `AddValue`; none when the context is cancelled. -/
def addedRoutes (h : History) (ctx : Ctx) (agentID metricName : String) (value : ℚ) (ts : Time) :
    List Route :=
  if ctx.poll.isSome then h.manager.routes agentID metricName value ts else []

/-- `Process` emits the windows it collects. -/
def collect (h : History) (ctx : Ctx) (now : Time) : History :=
  let closed := h.manager.getClosedWindows ctx now
  { h with
    manager := closed.2.2
    emitted := h.emitted ++ closed.1.map fun window => ⟨window, h.added window.key⟩ }

/-- One call. -/
def step (h : History) : WindowOp → Option History
  | .addValue ctx agentID metricName value ts =>
    some ((h.addedRoutes ctx agentID metricName value ts).foldl add h)
  | .collect ctx now => some (h.collect ctx now)
  | .purge => some { h with manager := h.manager.purgeClosed }
  | .tick ctx now => some { h with manager := h.manager.checkClosedWindows ctx now }
  | .purgeStale maxAge now => some { h with manager := h.manager.purgeStale maxAge now }

/-! ## The calls of `Process` -/

lemma foldl_add_manager (routes : List Route) (h : History) :
    (routes.foldl add h).manager =
      { h.manager with windows := routes.foldl Windows.add h.manager.windows } := by
  induction routes generalizing h with
  | nil => rfl
  | cons route routes ih =>
    rw [List.foldl_cons, ih]
    rfl

lemma foldl_add_emitted (routes : List Route) (h : History) :
    (routes.foldl add h).emitted = h.emitted := by
  induction routes generalizing h with
  | nil => rfl
  | cons route routes ih =>
    rw [List.foldl_cons, ih]
    rfl

/-- The values that `Process` adds are calls of `AddValue`. -/
lemma run_addValues (agentID : String) (timestamp : Time) (values : List (String × ℚ))
    (h : History) :
    ∃ ops h', Lib.Run step Lib.Unguarded h ops h' ∧ h'.emitted = h.emitted ∧
      h'.manager = { h.manager with
        windows := (values.flatMap fun value =>
          h.manager.routes agentID value.1 value.2 timestamp).foldl Windows.add
            h.manager.windows } := by
  induction values using List.reverseRecOn with
  | nil => exact ⟨[], h, .nil h, rfl, rfl⟩
  | append_singleton values value ih =>
    obtain ⟨ops, h₁, run, hemitted, hmanager⟩ := ih
    have hroutes : h₁.addedRoutes .background agentID value.1 value.2 timestamp =
        h.manager.routes agentID value.1 value.2 timestamp := by
      unfold addedRoutes
      rw [hmanager]
      rfl
    refine ⟨ops ++ [.addValue .background agentID value.1 value.2 timestamp], _,
      run.snoc trivial rfl, ?_, ?_⟩
    · rw [foldl_add_emitted, hemitted]
    · rw [foldl_add_manager, hroutes, hmanager, List.flatMap_append, List.foldl_append,
        List.flatMap_singleton]

/-- A call of `Process` is a run of the history; it returns the metrics of the sets that the
run emits. -/
theorem process_eq_run (h : History) (topn : TopNTracker) (ctx : Ctx) (batch : MetricBatch)
    (timestamp now : Time) :
    ∃ ops h', Lib.Run step Lib.Unguarded h ops h' ∧
      (Aggregator.process ⟨h.manager, topn⟩ ctx batch timestamp now).2.windows = h'.manager ∧
      ∀ result ctx', (Aggregator.process ⟨h.manager, topn⟩ ctx batch timestamp now).1 =
        .ok (result, ctx') → ∃ new, h'.emitted = h.emitted ++ new ∧
          result.aggregated = new.flatMap fun e => aggregateWindow e.window := by
  obtain ⟨ops, h₁, run, hemitted, hmanager⟩ :=
    run_addValues batch.agentID timestamp (ctx.visits (extractMetricValues batch)) h
  have hwm := Aggregator.addValues_snd batch.agentID timestamp (extractMetricValues batch) ctx
    h.manager
  unfold Aggregator.process Aggregator.collect
  cases hvalues : Aggregator.addValues batch.agentID timestamp (extractMetricValues batch) ctx
      h.manager with
  | mk result wm =>
    rw [hvalues] at hwm
    have hadded : wm = h₁.manager := by
      rw [hmanager]
      exact hwm
    cases result with
    | error err =>
      -- cancelled while adding: the values added so far stay
      exact ⟨ops, h₁, run, hadded, fun result ctx' hok => absurd hok (by simp)⟩
    | ok ctx₁ =>
      subst hadded
      refine ⟨ops ++ [.collect ctx₁ now] ++ [.purge], _,
        (run.snoc trivial rfl).snoc trivial rfl, rfl, ?_⟩
      intro result ctx' hok
      obtain ⟨hresult, -⟩ := Prod.mk.inj (Except.ok.inj hok)
      refine ⟨_, by rw [← hemitted]; rfl, ?_⟩
      rw [← hresult]
      show List.flatMap aggregateWindow _ = _
      rw [List.flatMap_map]

/-! ## One set for each window -/

/-- The keys are of one agent's window of one metric. -/
def SameWindow (key key' : WindowKey) : Prop :=
  key.agentID = key'.agentID ∧ key.metricName = key'.metricName ∧
    key.windowSize = key'.windowSize ∧ key.windowStart = key'.windowStart

instance (key key' : WindowKey) : Decidable (SameWindow key key') :=
  inferInstanceAs (Decidable (_ ∧ _ ∧ _ ∧ _))

/-- At most one set is emitted for each window, and none for the window of a value that came
after its set. -/
structure EmittedOnce (h : History) : Prop where
  once : h.emitted.Pairwise fun e e' => ¬ SameWindow e.window.key e'.window.key
  late : ∀ l ∈ h.late, ∀ e ∈ h.emitted.drop l.2, ¬ SameWindow l.1 e.window.key

/-- No value comes for a window that has been emitted and purged. -/
def Timely (h : History) : WindowOp → Prop
  | .addValue ctx agentID metricName value ts =>
    ∀ route ∈ h.addedRoutes ctx agentID metricName value ts,
      h.Emitted route.key → h.manager.windows.HasKey route.key
  | _ => True

instance (h : History) : DecidablePred h.Timely
  | .addValue ctx agentID metricName value ts =>
    inferInstanceAs (Decidable (∀ route ∈ h.addedRoutes ctx agentID metricName value ts,
      h.Emitted route.key → h.manager.windows.HasKey route.key))
  | .collect .. | .purge | .tick .. | .purgeStale .. => isTrue trivial

/-- An emitted window that is in memory is closed, so it is not emitted again. -/
structure Once (h : History) : Prop where
  distinct : (h.emitted.map fun e => e.window.key).Nodup
  shut : ∀ key buf, h.manager.windows.find? key = some buf → h.Emitted key → buf.closed = true
  late : ∀ l ∈ h.late, ∃ e ∈ h.emitted.take l.2, e.window.key = l.1
  tenant : ∀ buf ∈ h.manager.windows, buf.key.tenantID = ""
  tenants : ∀ e ∈ h.emitted, e.window.key.tenantID = ""

lemma once_init (config : AggregatorConfig) : (init config).Once where
  distinct := List.nodup_nil
  shut := fun _ _ hfind => absurd hfind (by simp [init, NewAggregator, NewWindowStateManager])
  late := fun _ hl => absurd hl List.not_mem_nil
  tenant := fun _ hbuf => absurd hbuf Lib.Table.not_mem_empty
  tenants := fun _ he => absurd he List.not_mem_nil

lemma Once.forget (hi : h.Once) {manager : WindowStateManager} {p : WindowBuffer → Bool}
    (hmanager : manager.windows = h.manager.windows.deleteWhere p) :
    ({ h with manager } : History).Once where
  distinct := hi.distinct
  shut := by
    intro key buf hfind
    rw [hmanager, Lib.Table.find?_deleteWhere] at hfind
    exact hi.shut key buf (Option.filter_eq_some_iff.mp hfind).1
  late := hi.late
  tenant := by
    intro buf hbuf
    rw [hmanager] at hbuf
    exact hi.tenant buf (Lib.Table.mem_deleteWhere.mp hbuf).1
  tenants := hi.tenants

lemma find?_getClosedWindows (wm : WindowStateManager) (ctx : Ctx) (now : Time) (key : WindowKey) :
    (wm.getClosedWindows ctx now).2.2.windows.find? key = (wm.windows.find? key).map fun buf =>
      if buf.key ∈ (wm.closing ctx now).map (·.key) then buf.markClosed else buf := by
  unfold WindowStateManager.getClosedWindows
  rw [Lib.Table.find?_updateWhere]
  simp only [decide_eq_true_eq]

lemma closed_of_close {wm : WindowStateManager} {ctx : Ctx} {now : Time} {key : WindowKey}
    {buf : WindowBuffer} (hfind : (wm.getClosedWindows ctx now).2.2.windows.find? key = some buf) :
    ∃ old, wm.windows.find? key = some old ∧ old.key = buf.key ∧
      (old.closed = true → buf.closed = true) ∧
      (key ∈ (wm.closing ctx now).map (·.key) → buf.closed = true) := by
  rw [find?_getClosedWindows] at hfind
  obtain ⟨old, hold, hbuf⟩ := Option.map_eq_some_iff.mp hfind
  have hkey : old.key = key := (Lib.Table.find?_eq_some.mp hold).2
  refine ⟨old, hold, ?_⟩
  rw [hkey] at hbuf
  split at hbuf
  case isTrue hmem =>
    rw [← hbuf]
    exact ⟨rfl, fun _ => rfl, fun _ => rfl⟩
  case isFalse hmem =>
    rw [← hbuf]
    exact ⟨rfl, id, fun h => absurd h hmem⟩

lemma Once.tick (hi : h.Once) (ctx : Ctx) (now : Time) :
    ({ h with manager := h.manager.checkClosedWindows ctx now } : History).Once where
  distinct := hi.distinct
  shut := by
    intro key buf hfind hemitted
    obtain ⟨old, hold, -, hclosed, -⟩ := closed_of_close hfind
    exact hclosed (hi.shut key old hold hemitted)
  late := hi.late
  tenant := by
    intro buf hbuf
    obtain ⟨old, hold, hkey, -⟩ := closed_of_close (Lib.Table.find?_eq_some.mpr ⟨hbuf, rfl⟩)
    rw [← hkey]
    exact hi.tenant old (Lib.Table.find?_eq_some.mp hold).1
  tenants := hi.tenants

lemma mem_closing {wm : WindowStateManager} {ctx : Ctx} {now : Time} {buf : WindowBuffer}
    (hbuf : buf ∈ wm.closing ctx now) :
    wm.windows.find? buf.key = some buf ∧ buf.closed = false := by
  obtain ⟨hmem, hdue⟩ := List.mem_filter.mp hbuf
  have hrow : buf ∈ wm.windows := (ctx.visits_sublist _).subset hmem
  refine ⟨Lib.Table.find?_eq_some.mpr ⟨hrow, rfl⟩, ?_⟩
  simp only [WindowStateManager.due, Bool.and_eq_true, Bool.not_eq_true'] at hdue
  exact hdue.1

lemma nodup_closing (wm : WindowStateManager) (ctx : Ctx) (now : Time) :
    ((wm.closing ctx now).map (·.key)).Nodup := by
  have hsub : (wm.closing ctx now).Sublist wm.windows.rows :=
    List.filter_sublist.trans (ctx.visits_sublist _)
  exact (hsub.map _).nodup wm.windows.nodup

/-- What `Process` emits, by key: the windows it closes. -/
lemma emitted_collect (h : History) (ctx : Ctx) (now : Time) :
    (h.collect ctx now).emitted = h.emitted ++ (h.manager.closing ctx now).map fun buf =>
      ⟨buf.toClosedWindow, h.added buf.key⟩ := by
  show h.emitted ++ List.map _ (List.map _ _) = _
  rw [List.map_map]
  rfl

lemma emitted_collect_iff {ctx : Ctx} {now : Time} {key : WindowKey} :
    (h.collect ctx now).Emitted key ↔
      h.Emitted key ∨ key ∈ (h.manager.closing ctx now).map (·.key) := by
  unfold Emitted
  rw [emitted_collect]
  simp only [List.mem_append, List.mem_map, or_and_right, exists_or]
  refine or_congr_right ?_
  constructor
  · intro hnew
    obtain ⟨e, ⟨buf, hbuf, rfl⟩, hkey⟩ := hnew
    exact ⟨buf, hbuf, hkey⟩
  · intro hnew
    obtain ⟨buf, hbuf, hkey⟩ := hnew
    exact ⟨_, ⟨buf, hbuf, rfl⟩, hkey⟩

lemma Once.collect (hi : h.Once) (ctx : Ctx) (now : Time) : (h.collect ctx now).Once where
  distinct := by
    rw [emitted_collect, List.map_append, List.map_map]
    refine hi.distinct.append (nodup_closing h.manager ctx now) ?_
    intro key hold hnew
    obtain ⟨e, he, hkey⟩ := List.mem_map.mp hold
    obtain ⟨buf, hbuf, hbufkey⟩ := List.mem_map.mp hnew
    obtain ⟨hfind, hopen⟩ := mem_closing hbuf
    have hkeys : buf.key = key := hbufkey
    rw [hkeys] at hfind
    have hclosed := hi.shut key buf hfind ⟨e, he, hkey⟩
    rw [hopen] at hclosed
    exact absurd hclosed (by decide)
  shut := by
    intro key buf hfind hemitted
    obtain ⟨old, hold, -, hclosed, hclosing⟩ := closed_of_close hfind
    cases emitted_collect_iff.mp hemitted with
    | inl hbefore => exact hclosed (hi.shut key old hold hbefore)
    | inr hnow => exact hclosing hnow
  late := by
    intro l hl
    obtain ⟨e, he, hkey⟩ := hi.late l hl
    refine ⟨e, ?_, hkey⟩
    rw [emitted_collect, List.take_append]
    exact List.mem_append_left _ he
  tenant := by
    intro buf hbuf
    obtain ⟨old, hold, hkey, -⟩ := closed_of_close (Lib.Table.find?_eq_some.mpr ⟨hbuf, rfl⟩)
    rw [← hkey]
    exact hi.tenant old (Lib.Table.find?_eq_some.mp hold).1
  tenants := by
    intro e he
    rw [emitted_collect, List.mem_append] at he
    cases he with
    | inl hold => exact hi.tenants e hold
    | inr hnew =>
      obtain ⟨buf, hbuf, rfl⟩ := List.mem_map.mp hnew
      exact hi.tenant buf (Lib.Table.find?_eq_some.mp (mem_closing hbuf).1).1

lemma Once.add (hi : h.Once) (htenant : route.key.tenantID = "")
    (htimely : h.Emitted route.key → h.manager.windows.HasKey route.key) : (h.add route).Once where
  distinct := hi.distinct
  shut := by
    intro key buf hfind hemitted
    have hemitted : h.Emitted key := hemitted
    change (h.manager.windows.add route).find? key = some buf at hfind
    rw [Windows.find?_add] at hfind
    split at hfind
    case isFalse => exact hi.shut key buf hfind hemitted
    case isTrue hkey =>
      subst hkey
      -- The emitted window is still in memory, and it stays closed.
      rw [← Option.some.inj hfind, Windows.closed_addUnlessClosed]
      obtain ⟨old, hold⟩ := Option.isSome_iff_exists.mp
        (Lib.Table.hasKey_iff_find?.mp (htimely hemitted))
      rw [hold]
      exact hi.shut route.key old hold hemitted
  late := by
    intro l hl
    change l ∈ (if h.Emitted route.key then _ else _) at hl
    split at hl
    case isFalse => exact hi.late l hl
    case isTrue hemitted =>
      rw [List.mem_append, List.mem_singleton] at hl
      cases hl with
      | inl hold => exact hi.late l hold
      | inr hnew =>
        rw [hnew]
        obtain ⟨e, he, hkey⟩ := hemitted
        refine ⟨e, ?_, hkey⟩
        show e ∈ h.emitted.take h.emitted.length
        rw [List.take_length]
        exact he
  tenant := by
    intro buf hbuf
    have hfind : (h.manager.windows.add route).find? buf.key = some buf :=
      Lib.Table.find?_eq_some.mpr ⟨hbuf, rfl⟩
    rw [Windows.find?_add] at hfind
    split at hfind
    case isTrue hkey =>
      rw [hkey]
      exact htenant
    case isFalse => exact hi.tenant buf (Lib.Table.find?_eq_some.mp hfind).1
  tenants := hi.tenants

lemma hasKey_add {windows : Windows} (route : Route) {key : WindowKey} (h : windows.HasKey key) :
    (windows.add route).HasKey key := by
  rw [Lib.Table.hasKey_iff_find?] at h ⊢
  rw [Windows.find?_add]
  split
  · rfl
  · exact h

lemma Once.foldl_add (hi : h.Once) (htenant : ∀ route ∈ routes, route.key.tenantID = "")
    (htimely : ∀ route ∈ routes, h.Emitted route.key → h.manager.windows.HasKey route.key) :
    (routes.foldl History.add h).Once := by
  induction routes generalizing h with
  | nil => exact hi
  | cons route routes ih =>
    refine ih (hi.add (htenant route List.mem_cons_self) (htimely route List.mem_cons_self))
      (fun r hr => htenant r (List.mem_cons_of_mem _ hr)) ?_
    intro r hr hemitted
    exact hasKey_add route (htimely r (List.mem_cons_of_mem _ hr) hemitted)

lemma tenant_addedRoutes {ctx : Ctx} {agentID metricName : String} {value : ℚ} {ts : Time}
    (hroute : route ∈ h.addedRoutes ctx agentID metricName value ts) :
    route.key.tenantID = "" := by
  unfold addedRoutes at hroute
  split at hroute
  · obtain ⟨ws, -, rfl⟩ := List.mem_map.mp hroute
    rfl
  · exact absurd hroute List.not_mem_nil

lemma Once.step {op : WindowOp} (hi : h.Once) (hguard : h.Timely op) (hstep : h.step op = some h') :
    h'.Once := by
  cases op with
  | addValue ctx agentID metricName value ts =>
    obtain rfl := Option.some.inj hstep
    exact hi.foldl_add (fun _ => tenant_addedRoutes) hguard
  | collect ctx now =>
    obtain rfl := Option.some.inj hstep
    exact hi.collect ctx now
  | purge =>
    obtain rfl := Option.some.inj hstep
    exact hi.forget rfl
  | tick ctx now =>
    obtain rfl := Option.some.inj hstep
    exact hi.tick ctx now
  | purgeStale maxAge now =>
    obtain rfl := Option.some.inj hstep
    exact hi.forget rfl

lemma SameWindow.eq {key key' : WindowKey} (hsame : SameWindow key key') (h : key.tenantID = "")
    (h' : key'.tenantID = "") : key = key' := by
  obtain ⟨tenantID, agentID, metricName, windowSize, windowStart⟩ := key
  obtain ⟨hagent, hmetric, hsize, hstart⟩ := hsame
  simp only at h hagent hmetric hsize hstart
  subst h hagent hmetric hsize hstart
  rw [← h']

lemma Once.emittedOnce (hi : h.Once) : h.EmittedOnce where
  once := by
    refine (List.pairwise_map.mp hi.distinct).imp_of_mem ?_
    intro e e' he he' hne hsame
    exact hne (hsame.eq (hi.tenants e he) (hi.tenants e' he'))
  late := by
    intro l hl e he hsame
    obtain ⟨first, hfirst, hkey⟩ := hi.late l hl
    have hkeys : first.window.key = e.window.key := by
      rw [hkey]
      refine hsame.eq ?_ (hi.tenants e (List.mem_of_mem_drop he))
      rw [← hkey]
      exact hi.tenants first (List.mem_of_mem_take hfirst)
    have hdistinct := hi.distinct
    rw [← List.take_append_drop l.2 h.emitted, List.map_append] at hdistinct
    exact (List.nodup_append.mp hdistinct).2.2 _ (List.mem_map_of_mem hfirst) _
      (List.mem_map_of_mem he) hkeys

/-- In every run in which no value comes for a window that has been emitted and purged, each
window is emitted once. -/
theorem emitted_once {config : AggregatorConfig} {ops : List WindowOp}
    (run : Lib.Run step Timely (init config) ops h) : h.EmittedOnce :=
  (run.invariant (fun _ _ _ hi hguard hstep => hi.step hguard hstep) (once_init config)).emittedOnce

/-- An aggregator with one window size. -/
def minutely : AggregatorConfig := { windowSizes := [minute] }

/-- A value in the first minute; half a minute after its end the window is emitted and purged. -/
def punctual : List WindowOp :=
  [.addValue .background "agent-1" "cpu.usage_percent" 40 (5 * second),
    .collect .background (90 * second), .purge]

theorem emitted_once_punctual :
    ∃ h, Lib.Run step Timely (init minutely) punctual h ∧ h.EmittedOnce := by
  have hrun : (punctual.foldlM (Lib.restrict step Timely) (init minutely)).isSome := by
    decide +kernel
  obtain ⟨h, hh⟩ := Option.isSome_iff_exists.mp hrun
  have run := Lib.run_iff_foldlM_restrict.mpr hh
  exact ⟨h, run, emitted_once run⟩

/-- As before, and then another value of the first minute arrives. -/
def belated : List WindowOp :=
  punctual ++ [.addValue .background "agent-1" "cpu.usage_percent" 50 (10 * second),
    .collect .background (91 * second)]

/-- The window of the first minute is emitted a second time. -/
theorem emitted_twice :
    ¬ ∀ config ops h, Lib.Run step Lib.Unguarded (init config) ops h → h.EmittedOnce := by
  intro hall
  have hrun : (belated.foldlM step (init minutely)).map (fun h => decide
      (h.emitted.Pairwise fun e e' => ¬ SameWindow e.window.key e'.window.key)) = some false := by
    decide +kernel
  obtain ⟨h, hh, htwice⟩ := Option.map_eq_some_iff.mp hrun
  exact of_decide_eq_false htwice (hall minutely belated h (Lib.run_iff_foldlM.mpr hh)).once

end History

end Paryty.Processing

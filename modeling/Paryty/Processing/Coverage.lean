import Mathlib.Algebra.BigOperators.Group.List.Basic
import Paryty.Processing.Emissions

/-!
# What the aggregates cover

`WindowBuffer` of `cluster/internal/processing/window.go` keeps running statistics of all its
values "and retains raw values for percentile calculations", the last 256 of them.
`aggregateWindow` takes everything from the raw values, the count, sum, minimum, maximum and
average as well. So its aggregates are those of all values added to the window exactly if there
were no more than the buffer holds.
-/

namespace Paryty.Processing

variable {l : List ℚ} {v : ℚ}

/-! ## Statistics of a list -/

/-- What the metrics of a window should say about the values added to it. -/
structure Covers (values : List ℚ) (metrics : List AggregatedMetric) : Prop where
  count : ∀ m ∈ metrics, m.aggType = .count → m.value = values.length
  sum : ∀ m ∈ metrics, m.aggType = .sum → m.value = values.sum
  min : ∀ m ∈ metrics, m.aggType = .min → IsLeast {v | v ∈ values} m.value
  max : ∀ m ∈ metrics, m.aggType = .max → IsGreatest {v | v ∈ values} m.value
  avg : ∀ m ∈ metrics, m.aggType = .avg → m.value = values.sum / values.length
  all : values ≠ [] → ∀ t ∈ [AggregationType.count, .sum, .min, .max, .avg],
    ∃ m ∈ metrics, m.aggType = t

lemma calcSum_eq (l : List ℚ) : calcSum l = l.sum := List.sum_eq_foldl.symm

lemma foldl_best {α : Type*} {r : α → α → Prop} {best : α → α → α} (hrefl : ∀ x, r x x)
    (htrans : ∀ {x y z}, r x y → r y z → r x z)
    (hbest : ∀ x y, best x y ∈ [x, y] ∧ r (best x y) x ∧ r (best x y) y) (l : List α) (v : α) :
    l.foldl best v ∈ v :: l ∧ ∀ x ∈ v :: l, r (l.foldl best v) x := by
  induction l generalizing v with
  | nil => simp [hrefl]
  | cons w l ih =>
    rw [List.foldl_cons]
    -- the value kept so far is one of the two and as good as the other
    obtain ⟨hkept, hfirst, hsecond⟩ := hbest v w
    obtain ⟨hmem, hall⟩ := ih (best v w)
    constructor
    · rcases List.mem_cons.mp hmem with heq | hrest
      · rw [heq]
        exact List.mem_append_left l hkept
      · exact List.mem_cons_of_mem _ (List.mem_cons_of_mem _ hrest)
    · intro x hx
      rw [List.mem_cons, List.mem_cons] at hx
      obtain rfl | rfl | hrest := hx
      · exact htrans (hall _ List.mem_cons_self) hfirst
      · exact htrans (hall _ List.mem_cons_self) hsecond
      · exact hall x (List.mem_cons_of_mem _ hrest)

lemma isLeast_calcMin (h : l ≠ []) : IsLeast {v | v ∈ l} (calcMin l) := by
  cases l with
  | nil => exact absurd rfl h
  | cons v l =>
    apply foldl_best le_refl le_trans
    intro x y
    split
    case isTrue hlt => exact ⟨by simp, hlt.le, le_rfl⟩
    case isFalse hlt => exact ⟨by simp, le_rfl, not_lt.mp hlt⟩

lemma isGreatest_calcMax (h : l ≠ []) : IsGreatest {v | v ∈ l} (calcMax l) := by
  cases l with
  | nil => exact absurd rfl h
  | cons v l =>
    apply foldl_best (r := (· ≥ ·)) le_refl ge_trans
    intro x y
    split
    case isTrue hlt => exact ⟨by simp, hlt.le, le_rfl⟩
    case isFalse hlt => exact ⟨by simp, le_rfl, not_lt.mp hlt⟩

/-! ## The aggregates of the buffered values -/

lemma mem_aggregateWindow {window : ClosedWindow} {m : AggregatedMetric} :
    m ∈ aggregateWindow window → window.values ≠ [] ∧
      (m.aggType, m.value) ∈
        [(AggregationType.avg, calcAvg (window.values.insertionSort (· ≤ ·))),
          (.min, calcMin (window.values.insertionSort (· ≤ ·))),
          (.max, calcMax (window.values.insertionSort (· ≤ ·))),
          (.p50, calcPercentileSorted (window.values.insertionSort (· ≤ ·)) 50),
          (.p90, calcPercentileSorted (window.values.insertionSort (· ≤ ·)) 90),
          (.p99, calcPercentileSorted (window.values.insertionSort (· ≤ ·)) 99),
          (.count, ((window.values.insertionSort (· ≤ ·)).length : ℚ)),
          (.sum, calcSum (window.values.insertionSort (· ≤ ·)))] := by
  intro hm
  unfold aggregateWindow at hm
  split at hm
  case isTrue => exact absurd hm List.not_mem_nil
  case isFalse hne =>
    obtain ⟨entry, hentry, rfl⟩ := List.mem_map.mp hm
    exact ⟨hne, hentry⟩

lemma exists_mem_aggregateWindow {window : ClosedWindow} (hne : window.values ≠ [])
    (t : AggregationType) : ∃ m ∈ aggregateWindow window, m.aggType = t := by
  unfold aggregateWindow
  rw [if_neg hne]
  cases t <;> simp

lemma covers_values (window : ClosedWindow) : Covers window.values (aggregateWindow window) := by
  have hperm : (window.values.insertionSort (· ≤ ·)).Perm window.values :=
    List.perm_insertionSort _ _
  have hmems : {v | v ∈ window.values.insertionSort (· ≤ ·)} = {v | v ∈ window.values} := by
    ext v
    exact hperm.mem_iff
  have hsorted (h : window.values ≠ []) : window.values.insertionSort (· ≤ ·) ≠ [] := fun hnil =>
    h (List.Perm.eq_nil (hnil ▸ hperm).symm)
  constructor
  case count =>
    intro m hm htype
    obtain ⟨-, hentry⟩ := mem_aggregateWindow hm
    simp [htype] at hentry
    exact hentry
  case sum =>
    intro m hm htype
    obtain ⟨-, hentry⟩ := mem_aggregateWindow hm
    simp [htype] at hentry
    rw [hentry, calcSum_eq, hperm.sum_eq]
  case min =>
    intro m hm htype
    obtain ⟨hne, hentry⟩ := mem_aggregateWindow hm
    simp [htype] at hentry
    rw [hentry, ← hmems]
    exact isLeast_calcMin (hsorted hne)
  case max =>
    intro m hm htype
    obtain ⟨hne, hentry⟩ := mem_aggregateWindow hm
    simp [htype] at hentry
    rw [hentry, ← hmems]
    exact isGreatest_calcMax (hsorted hne)
  case avg =>
    intro m hm htype
    obtain ⟨hne, hentry⟩ := mem_aggregateWindow hm
    simp [htype] at hentry
    rw [hentry, calcAvg, if_neg (hsorted hne), calcSum_eq, hperm.sum_eq, hperm.length_eq]
  case all =>
    intro hne t _
    exact exists_mem_aggregateWindow hne t

/-! ## The buffer -/

/-- The values that a full buffer holds: the last 256. -/
def lastValues (l : List ℚ) : List ℚ := l.drop (l.length - maxWindowBufferCapacity)

lemma length_lastValues (l : List ℚ) :
    (lastValues l).length = min l.length maxWindowBufferCapacity := by
  unfold lastValues
  rw [List.length_drop]
  omega

lemma lastValues_eq (h : l.length ≤ maxWindowBufferCapacity) : lastValues l = l := by
  have hzero : l.length - maxWindowBufferCapacity = 0 := by omega
  rw [lastValues, hzero, List.drop_zero]

/-- `WindowBuffer.AddValue`: the oldest value goes once there are 256. -/
lemma lastValues_append (l : List ℚ) (v : ℚ) :
    lastValues (l ++ [v]) =
      (if maxWindowBufferCapacity ≤ (lastValues l).length then (lastValues l).tail
        else lastValues l) ++ [v] := by
  have hlength := length_lastValues l
  unfold lastValues at hlength ⊢
  rw [List.length_append, List.length_singleton]
  by_cases hfull : maxWindowBufferCapacity ≤ l.length
  · have hnext : l.length + 1 - maxWindowBufferCapacity =
        l.length - maxWindowBufferCapacity + 1 := by omega
    rw [if_pos (by omega), List.tail_drop, hnext, List.drop_append_of_le_length]
    have hpos : 0 < maxWindowBufferCapacity := by decide
    omega
  · have hzero : l.length - maxWindowBufferCapacity = 0 := by omega
    have hzero' : l.length + 1 - maxWindowBufferCapacity = 0 := by omega
    rw [if_neg (by omega), hzero, hzero', List.drop_zero, List.drop_zero]

namespace History

variable {h h' : History} {route : Route} {routes : List Route}

/-- Every buffer in memory, and every window emitted, has the last of the values added to it. -/
structure Recorded (h : History) : Prop where
  buffered : ∀ buf ∈ h.manager.windows, buf.values = lastValues (h.added buf.key)
  emitted : ∀ e ∈ h.emitted, e.window.values = lastValues e.added

lemma recorded_init (config : AggregatorConfig) : (init config).Recorded where
  buffered := fun _ hbuf => absurd hbuf Lib.Table.not_mem_empty
  emitted := fun _ he => absurd he List.not_mem_nil

lemma Recorded.add (hi : h.Recorded) (route : Route) : (h.add route).Recorded where
  buffered := by
    intro buf hbuf
    have hfind : (h.manager.windows.add route).find? buf.key = some buf :=
      Lib.Table.find?_eq_some.mpr ⟨hbuf, rfl⟩
    rw [Windows.find?_add] at hfind
    show buf.values = lastValues (Function.update h.added route.key (h.addedTo route) buf.key)
    split at hfind
    case isFalse hne =>
      rw [Function.update_of_ne hne]
      exact hi.buffered buf (Lib.Table.find?_eq_some.mp hfind).1
    case isTrue hkey =>
      rw [hkey, Function.update_self]
      rw [hkey] at hfind
      cases hold : h.manager.windows.find? route.key with
      | none =>
        -- a new window starts with the value
        rw [hold] at hfind
        rw [← Option.some.inj hfind, addedTo_of_none hold, lastValues_eq (Nat.le_of_ble_eq_true rfl)]
        rfl
      | some old =>
        obtain ⟨hmem, holdkey⟩ := Lib.Table.find?_eq_some.mp hold
        have hvalues := hi.buffered old hmem
        rw [holdkey] at hvalues
        rw [hold] at hfind
        rw [← Option.some.inj hfind, Option.getD_some, WindowBuffer.addUnlessClosed]
        cases hclosed : old.closed with
        | true =>
          rw [if_pos rfl, addedTo_of_some hold, hclosed, if_pos rfl]
          exact hvalues
        | false =>
          rw [if_neg Bool.false_ne_true, addedTo_of_some hold, hclosed, if_neg Bool.false_ne_true,
            lastValues_append, ← hvalues]
          rfl
  emitted := hi.emitted

lemma Recorded.foldl_add (hi : h.Recorded) (routes : List Route) :
    (routes.foldl History.add h).Recorded := by
  induction routes generalizing h with
  | nil => exact hi
  | cons route routes ih => exact ih (hi.add route)

lemma Recorded.change (hi : h.Recorded) {manager : WindowStateManager}
    (hbuf : ∀ buf ∈ manager.windows, ∃ old ∈ h.manager.windows, old.key = buf.key ∧
      old.values = buf.values) :
    ({ h with manager } : History).Recorded where
  buffered := by
    intro buf hmem
    obtain ⟨old, hold, hkey, hvalues⟩ := hbuf buf hmem
    show buf.values = lastValues (h.added buf.key)
    rw [← hkey, ← hvalues]
    exact hi.buffered old hold
  emitted := hi.emitted

lemma values_of_close (wm : WindowStateManager) (ctx : Ctx) (now : Time) :
    ∀ buf ∈ (wm.getClosedWindows ctx now).2.2.windows,
      ∃ old ∈ wm.windows, old.key = buf.key ∧ old.values = buf.values := by
  intro buf hbuf
  have hfind := Lib.Table.find?_eq_some.mpr ⟨hbuf, rfl⟩
  rw [find?_getClosedWindows] at hfind
  obtain ⟨old, hold, hmark⟩ := Option.map_eq_some_iff.mp hfind
  refine ⟨old, (Lib.Table.find?_eq_some.mp hold).1, ?_⟩
  rw [← hmark]
  split
  · exact ⟨rfl, rfl⟩
  · exact ⟨rfl, rfl⟩

lemma Recorded.forget (hi : h.Recorded) {manager : WindowStateManager} {p : WindowBuffer → Bool}
    (hmanager : manager.windows = h.manager.windows.deleteWhere p) :
    ({ h with manager } : History).Recorded := by
  refine hi.change fun buf hbuf => ⟨buf, ?_, rfl, rfl⟩
  rw [hmanager] at hbuf
  exact (Lib.Table.mem_deleteWhere.mp hbuf).1

lemma Recorded.collect (hi : h.Recorded) (ctx : Ctx) (now : Time) :
    (h.collect ctx now).Recorded where
  buffered := (hi.change (values_of_close h.manager ctx now)).buffered
  emitted := by
    intro e he
    rw [emitted_collect, List.mem_append] at he
    cases he with
    | inl hold => exact hi.emitted e hold
    | inr hnew =>
      obtain ⟨buf, hbuf, rfl⟩ := List.mem_map.mp hnew
      exact hi.buffered buf (Lib.Table.find?_eq_some.mp (mem_closing hbuf).1).1

lemma Recorded.step {op : WindowOp} (hi : h.Recorded) (hstep : h.step op = some h') :
    h'.Recorded := by
  cases op with
  | addValue ctx agentID metricName value ts =>
    obtain rfl := Option.some.inj hstep
    exact hi.foldl_add _
  | collect ctx now =>
    obtain rfl := Option.some.inj hstep
    exact hi.collect ctx now
  | purge =>
    obtain rfl := Option.some.inj hstep
    exact hi.forget rfl
  | tick ctx now =>
    obtain rfl := Option.some.inj hstep
    exact hi.change (values_of_close h.manager ctx now)
  | purgeStale maxAge now =>
    obtain rfl := Option.some.inj hstep
    exact hi.forget rfl

/-- The aggregates of the last values are those of all values exactly if no value was evicted:
the count tells. -/
lemma covers_lastValues_iff {e : Emission} (hvalues : e.window.values = lastValues e.added) :
    Covers e.added (aggregateWindow e.window) ↔ e.added.length ≤ maxWindowBufferCapacity := by
  have hbuffered := covers_values e.window
  constructor
  · intro hcovers
    by_contra hmore
    have hlength : e.window.values.length = maxWindowBufferCapacity := by
      rw [hvalues, length_lastValues]
      exact min_eq_right (by omega)
    have hne : e.window.values ≠ [] := fun hnil => by
      rw [hnil] at hlength
      exact absurd hlength (by decide)
    obtain ⟨m, hm, htype⟩ := exists_mem_aggregateWindow hne .count
    have hcount := (hbuffered.count m hm htype).symm.trans (hcovers.count m hm htype)
    have hcount : e.window.values.length = e.added.length := Nat.cast_injective hcount
    omega
  · intro hall
    rw [lastValues_eq hall] at hvalues
    rw [hvalues] at hbuffered
    exact hbuffered

/-- The aggregates emitted for a window are those of all values added to it exactly if these are
at most 256. -/
theorem covers_iff {config : AggregatorConfig} {ops : List WindowOp}
    (run : Lib.Run step Lib.Unguarded (init config) ops h) {e : Emission} (he : e ∈ h.emitted) :
    Covers e.added (aggregateWindow e.window) ↔ e.added.length ≤ maxWindowBufferCapacity := by
  have hi := run.invariant (fun _ _ _ hi _ hstep => Recorded.step hi hstep) (recorded_init config)
  exact covers_lastValues_iff (hi.emitted e he)

/-- Two values in the first minute and one in the second, each emitted half a minute after its
end. -/
def threeValues : List WindowOp :=
  [.addValue .background "agent-1" "cpu.usage_percent" 40 (5 * second),
    .addValue .background "agent-1" "cpu.usage_percent" 70 (20 * second),
    .addValue .background "agent-1" "cpu.usage_percent" 10 (65 * second),
    .collect .background (90 * second), .collect .background (150 * second)]

theorem covers_threeValues : ∃ h, Lib.Run step Lib.Unguarded (init minutely) threeValues h ∧
    h.emitted.map Emission.added = [[40, 70], [10]] ∧
      ∀ e ∈ h.emitted, Covers e.added (aggregateWindow e.window) := by
  have hrun : (threeValues.foldlM step (init minutely)).map
      (fun h => h.emitted.map Emission.added) = some [[40, 70], [10]] := by
    decide +kernel
  obtain ⟨h, hh, hemitted⟩ := Option.map_eq_some_iff.mp hrun
  have run := Lib.run_iff_foldlM.mpr hh
  refine ⟨h, run, hemitted, fun e he => (covers_iff run he).mpr ?_⟩
  have hadded : e.added ∈ [[40, 70], [10]] := hemitted ▸ List.mem_map_of_mem he
  rcases List.mem_pair.mp hadded with heq | heq
  · rw [heq]
    exact Nat.le_of_ble_eq_true rfl
  · rw [heq]
    exact Nat.le_of_ble_eq_true rfl

/-- One value more than a buffer holds, all in the first minute. -/
def crowded : List WindowOp :=
  List.replicate 257 (.addValue .background "agent-1" "cpu.usage_percent" 1 (5 * second)) ++
    [.collect .background (90 * second)]

/-- In `crowded` the emitted count is 256, and 257 values were added. -/
theorem not_covers_crowded :
    ¬ ∀ config ops h, Lib.Run step Lib.Unguarded (init config) ops h →
      ∀ e ∈ h.emitted, Covers e.added (aggregateWindow e.window) := by
  intro hall
  have hrun : (crowded.foldlM step (init minutely)).map (fun h => h.emitted.map fun e =>
      (e.added.length, ((aggregateWindow e.window).filter (fun m => m.aggType = .count)).map
        AggregatedMetric.value)) = some [(257, [256])] := by
    decide +kernel
  obtain ⟨h, hh, hemitted⟩ := Option.map_eq_some_iff.mp hrun
  obtain ⟨e, he, hentry⟩ := List.mem_map.mp
    (hemitted ▸ List.mem_singleton_self ((257 : ℕ), [(256 : ℚ)]))
  obtain ⟨hlength, hvalues⟩ := Prod.mk.inj hentry
  obtain ⟨m, hm, hvalue⟩ := List.mem_map.mp (hvalues ▸ List.mem_singleton_self (256 : ℚ))
  obtain ⟨hmem, htype⟩ := List.mem_filter.mp hm
  have hcount := (hall minutely crowded h (Lib.run_iff_foldlM.mpr hh) e he).count m hmem
    (of_decide_eq_true htype)
  rw [hvalue, hlength] at hcount
  exact absurd hcount (by norm_num)

end History

end Paryty.Processing

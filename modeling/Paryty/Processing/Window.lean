import Mathlib.Algebra.Order.Field.Rat
import Paryty.Lib.Table

/-!
# Tumbling windows

`WindowStateManager` of `cluster/internal/processing/window.go`: every metric value goes into
one buffer for each window size; a window closes once its end and the grace period have
passed, and closed windows are purged.

* Times and durations are nanoseconds; the values are exact rationals in place of `float64`.
* `sync.Map.Range` visits the windows in an order of its own; here it is the order in which
  they were created.
* A call's `ctx` is the number of `ctx.Done()` polls that find it live, so a cancellation can
  strike at every poll.
-/

namespace Paryty.Processing

/-- A point in time, in nanoseconds since the epoch. -/
abbrev Time := ℤ

/-- A duration in nanoseconds. -/
abbrev Duration := ℤ

/-- `time.Second`. -/
def second : Duration := 10 ^ 9

/-- `time.Minute`. -/
def minute : Duration := 60 * second

/-- `Time.Unix`: whole seconds since the epoch, rounded down. -/
def unix (ts : Time) : ℤ := ts.fdiv second

/-! ## Contexts -/

/-- A context: how many more polls find it live, or `none` if it is never cancelled. -/
structure Ctx where
  live : Option ℕ
deriving DecidableEq

namespace Ctx

/-- A context nobody cancels. -/
def background : Ctx := ⟨none⟩

/-- Poll `ctx.Done()`: `none` if cancelled, the context of the following polls otherwise. -/
def poll : Ctx → Option Ctx
  | ⟨none⟩ => some ⟨none⟩
  | ⟨some 0⟩ => none
  | ⟨some (n + 1)⟩ => some ⟨some n⟩

/-- The elements a loop that polls before each one gets to. -/
def visits {α : Type*} (ctx : Ctx) (l : List α) : List α :=
  match ctx.live with
  | none => l
  | some n => l.take n

/-- The context after a loop that polls before each of `n` elements. -/
def after (ctx : Ctx) (n : ℕ) : Ctx := ⟨ctx.live.map (fun live => live - n)⟩

end Ctx

/-! ## Ranging over maps -/

/-- `list` is ranged over in this order, if it is one of its orders. -/
def inOrder {α : Type*} [DecidableEq α] (order list : List α) : List α :=
  if order.Perm list then order else list

lemma perm_inOrder {α : Type*} [DecidableEq α] (order list : List α) :
    (inOrder order list).Perm list := by
  unfold inOrder
  split
  · assumption
  · exact .refl _

lemma inOrder_of_perm {α : Type*} [DecidableEq α] {order list : List α} (h : order.Perm list) :
    inOrder order list = order := if_pos h

/-! ## Windows -/

/-- A window of one agent's metric. `AddValue` never fills in the tenant. -/
structure WindowKey where
  tenantID : String := ""
  agentID : String
  metricName : String
  windowSize : Duration
  windowStart : Time
deriving DecidableEq

/-- `maxWindowBufferCapacity`. -/
def maxWindowBufferCapacity : ℕ := 256

/-- The values of one window with their running statistics. -/
structure WindowBuffer where
  key : WindowKey
  values : List ℚ := []
  count : ℕ := 0
  sum : ℚ := 0
  min : ℚ := 0
  max : ℚ := 0
  firstSeen : Time := 0
  lastSeen : Time := 0
  closed : Bool := false
deriving DecidableEq

namespace WindowBuffer

/-- `WindowBuffer.AddValue`: at capacity the oldest value makes room for the new one. -/
def addValue (buf : WindowBuffer) (value : ℚ) (ts : Time) : WindowBuffer :=
  let kept := if maxWindowBufferCapacity ≤ buf.values.length then buf.values.tail else buf.values
  { buf with
    values := kept ++ [value]
    count := buf.count + 1
    sum := buf.sum + value
    min := if buf.count = 0 then value else if value < buf.min then value else buf.min
    max := if buf.count = 0 then value else if value > buf.max then value else buf.max
    firstSeen := if buf.count = 0 then ts else buf.firstSeen
    lastSeen := ts }

/-- `markClosed`. -/
def markClosed (buf : WindowBuffer) : WindowBuffer := { buf with closed := true }

@[simp] lemma key_markClosed (buf : WindowBuffer) : buf.markClosed.key = buf.key := rfl

/-- `buf.isClosed()` or else `buf.AddValue`: late data for a closed window is skipped. -/
def addUnlessClosed (buf : WindowBuffer) (value : ℚ) (ts : Time) : WindowBuffer :=
  if buf.closed then buf else buf.addValue value ts

end WindowBuffer

/-- What a closed window hands to the aggregation. -/
structure ClosedWindow where
  key : WindowKey
  values : List ℚ
  count : ℕ
  sum : ℚ
  min : ℚ
  max : ℚ
  avg : ℚ
  firstSeen : Time
  lastSeen : Time
deriving DecidableEq

/-- The snapshot `GetClosedWindows` takes of a buffer it closes. -/
def WindowBuffer.toClosedWindow (buf : WindowBuffer) : ClosedWindow where
  key := buf.key
  values := buf.values
  count := buf.count
  sum := buf.sum
  min := buf.min
  max := buf.max
  avg := if buf.count > 0 then buf.sum / buf.count else 0
  firstSeen := buf.firstSeen
  lastSeen := buf.lastSeen

/-- `alignToWindow`. Go's division truncates; a size below one second would divide by zero
and panic. -/
def alignToWindow (ts : Time) (windowSize : Duration) : Time :=
  let windowSecs := windowSize.tdiv second
  (unix ts).tdiv windowSecs * windowSecs * second

/-- `windowEnd`, exclusive. -/
def windowEnd (windowStart : Time) (windowSize : Duration) : Time := windowStart + windowSize

/-! ## The window manager -/

/-- `WindowManagerConfig`, less the snapshot settings. -/
structure WindowManagerConfig where
  gracePeriod : Duration
  windowSizes : List Duration
deriving DecidableEq

/-- `defaultWindowSizes`: 1m, 5m, 1h, 1d. -/
def defaultWindowSizes : List Duration := [minute, 5 * minute, 60 * minute, 24 * 60 * minute]

/-- `applyDefaults`: 5 minutes of grace and the default sizes where none are given. -/
def WindowManagerConfig.applyDefaults (c : WindowManagerConfig) : WindowManagerConfig where
  gracePeriod := if c.gracePeriod = 0 then 5 * minute else c.gracePeriod
  windowSizes := if c.windowSizes = [] then defaultWindowSizes else c.windowSizes

/-- The windows in memory, one buffer for each key. -/
abbrev Windows := Lib.Table WindowBuffer WindowKey WindowBuffer.key

/-- `WindowStateManager`. -/
structure WindowStateManager where
  cfg : WindowManagerConfig
  windows : Windows

/-- `NewWindowStateManager`. -/
def NewWindowStateManager (cfg : WindowManagerConfig) : WindowStateManager :=
  ⟨cfg.applyDefaults, .empty⟩

/-- One value on its way into one window. -/
structure Route where
  key : WindowKey
  value : ℚ
  ts : Time
deriving DecidableEq

/-- `getOrCreateBuffer` and the add that follows it. -/
def Windows.add (windows : Windows) (route : Route) : Windows :=
  (windows.upsert { key := route.key } id (fun _ => rfl)).updateWhere
    (fun buf => buf.key = route.key)
    (fun buf => buf.addUnlessClosed route.value route.ts)
    (fun buf => by unfold WindowBuffer.addUnlessClosed; split <;> rfl)

namespace WindowStateManager

/-- The windows a value belongs to, one for each configured size. -/
def routes (wm : WindowStateManager) (agentID metricName : String) (value : ℚ) (ts : Time) :
    List Route :=
  wm.cfg.windowSizes.map fun ws =>
    { key := { agentID, metricName, windowSize := ws, windowStart := alignToWindow ts ws }
      value
      ts }

/-- `AddValue`; `none` when the context is cancelled. -/
def addValue (wm : WindowStateManager) (ctx : Ctx) (agentID metricName : String) (value : ℚ)
    (ts : Time) : Option (Ctx × WindowStateManager) :=
  match ctx.poll with
  | none => none
  | some ctx =>
    some (ctx, { wm with
      windows := (wm.routes agentID metricName value ts).foldl Windows.add wm.windows })

/-- When a window stops accepting values: its end and the grace period. -/
def closeAt (wm : WindowStateManager) (key : WindowKey) : Time :=
  windowEnd key.windowStart key.windowSize + wm.cfg.gracePeriod

/-- An open window whose close time has come. -/
def due (wm : WindowStateManager) (now : Time) (buf : WindowBuffer) : Bool :=
  !buf.closed && decide (wm.closeAt buf.key ≤ now)

/-- The windows `GetClosedWindows` closes: the due ones its range gets to before the context
is cancelled. -/
def closing (wm : WindowStateManager) (ctx : Ctx) (now : Time) : List WindowBuffer :=
  (ctx.visits wm.windows.rows).filter (wm.due now)

/-- `GetClosedWindows`: the closing windows are marked and their snapshots returned. -/
def getClosedWindows (wm : WindowStateManager) (ctx : Ctx) (now : Time) :
    List ClosedWindow × Ctx × WindowStateManager :=
  let closing := wm.closing ctx now
  (closing.map WindowBuffer.toClosedWindow, ctx.after wm.windows.rows.length,
    { wm with
      windows := wm.windows.updateWhere (fun buf => buf.key ∈ closing.map (·.key))
        WindowBuffer.markClosed WindowBuffer.key_markClosed })

/-- `PurgeClosed`. -/
def purgeClosed (wm : WindowStateManager) : WindowStateManager :=
  { wm with windows := wm.windows.deleteWhere WindowBuffer.closed }

/-- `PurgeStale`: the windows whose end is older than `maxAge`. -/
def purgeStale (wm : WindowStateManager) (maxAge : Duration) (now : Time) : WindowStateManager :=
  { wm with
    windows := wm.windows.deleteWhere fun buf =>
      decide (windowEnd buf.key.windowStart buf.key.windowSize < now - maxAge) }

/-- `checkClosedWindows`, which the background goroutine runs every second: it only logs how
many windows were closed. -/
def checkClosedWindows (wm : WindowStateManager) (ctx : Ctx) (now : Time) :
    WindowStateManager :=
  (wm.getClosedWindows ctx now).2.2

end WindowStateManager

end Paryty.Processing

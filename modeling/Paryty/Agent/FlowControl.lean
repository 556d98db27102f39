import Paryty.Lib.Float64

/-!
# Flow control

`FlowControl` of `agent/src/communication/flow_control.rs`: a queue that is sorted by priority after
each message, and a flag for backpressure, which the state of the cluster and the signals of the
server set. Counters do not overflow.
-/

namespace Paryty.Agent.FlowControl

/-! ## Messages -/

/-- `Priority`. -/
inductive Priority
  | critical
  | high
  | normal
  | low
deriving DecidableEq

/-- The discriminant. Less is more important. -/
def Priority.rank : Priority → ℕ
  | critical => 0
  | high => 1
  | normal => 2
  | low => 3

/-- `PrioritizedMessage`. -/
structure PrioritizedMessage where
  priority : Priority
  data : List UInt8
  sequenceNumber : ℕ
deriving DecidableEq

/-- The order of `sort_by`. -/
def PrioritizedMessage.le (a b : PrioritizedMessage) : Bool :=
  decide (a.priority.rank ≤ b.priority.rank)

/-! ## State -/

/-- `FlowControlState`, with its `Default`. -/
structure FlowControlState where
  accepting : Bool := true
  credits : ℕ := 1000
  windowBytes : ℕ := 10 * 1024 * 1024
  windowUsed : ℕ := 0
  suggestedSamplingRate : ℚ := 1
  desiredIntervalMs : Option ℕ := none
deriving DecidableEq

/-- The message `FlowControl` of the protocol. -/
structure ServerSignal where
  desiredIntervalMs : ℤ
  samplingRate : ℚ
  pause : Bool
deriving DecidableEq

/-- `FlowControl`. -/
structure Controller where
  state : FlowControlState := {}
  queue : List PrioritizedMessage := []
  backpressureActive : Bool := false
  messagesDropped : ℕ := 0
  samplingRate : ℚ := 1
  maxQueueSize : ℕ
deriving DecidableEq

/-- `FlowControl::new`. -/
def Controller.new (maxQueueSize : ℕ) : Controller := { maxQueueSize }

/-! ## The queue -/

/-- `make_contiguous_sorted`: `sort_by` is stable. -/
def makeContiguousSorted (queue : List PrioritizedMessage) : List PrioritizedMessage :=
  queue.mergeSort PrioritizedMessage.le

/-- `rposition`: the index of the last element that satisfies the condition. -/
def rposition {α : Type*} (p : α → Bool) (l : List α) : Option ℕ :=
  (l.reverse.findIdx? p).map fun i => l.length - 1 - i

namespace Controller

/-- The message is put behind those of its priority. -/
def push (fc : Controller) (msg : PrioritizedMessage) : Controller :=
  { fc with queue := makeContiguousSorted (fc.queue ++ [msg]) }

/-- `messages_dropped.fetch_add(1)`. -/
def countDropped (fc : Controller) : Controller :=
  { fc with messagesDropped := fc.messagesDropped + 1 }

/-- `enqueue`, where `fastrand::f64()` draws a number. -/
def enqueue (fc : Controller) (data : List UInt8) (priority : Priority) (sequenceNumber : ℕ)
    (draw : ℚ) : Bool × Controller :=
  if priority = .critical then (true, fc.push ⟨priority, data, sequenceNumber⟩)
  else if fc.backpressureActive = true ∧ draw > fc.samplingRate then (false, fc.countDropped)
  else if fc.maxQueueSize ≤ fc.queue.length then
    match rposition (fun m => decide (priority.rank ≤ m.priority.rank)) fc.queue with
    | some lowest =>
      (true, ({ fc with queue := fc.queue.eraseIdx lowest }.countDropped).push
        ⟨priority, data, sequenceNumber⟩)
    | none => (false, fc.countDropped)
  else (true, fc.push ⟨priority, data, sequenceNumber⟩)

/-- `dequeue`. -/
def dequeue (fc : Controller) (count : ℕ) : List PrioritizedMessage × Controller :=
  let drainCount := min count fc.queue.length
  (fc.queue.take drainCount, { fc with queue := fc.queue.drop drainCount })

end Controller

/-! ## Backpressure -/

/-- `window_usage` in `update_state`. -/
def windowUsage (state : FlowControlState) : ℚ :=
  if 0 < state.windowBytes then
    Lib.Float64.nearest
      (Lib.Float64.nearest state.windowUsed / Lib.Float64.nearest state.windowBytes)
  else 0

/-- `should_activate` in `update_state`. -/
def shouldActivate (state : FlowControlState) : Bool :=
  !state.accepting || decide (state.credits = 0) ||
    decide (windowUsage state > Lib.Float64.nearest (9 / 10))

namespace Controller

/-- `update_state`. -/
def updateState (fc : Controller) (newState : FlowControlState) : Controller :=
  { fc with
    state := newState
    backpressureActive := shouldActivate newState
    samplingRate :=
      if newState.suggestedSamplingRate > 0 then newState.suggestedSamplingRate
      else fc.samplingRate }

/-- `apply_server_signal`. -/
def applyServerSignal (fc : Controller) (signal : ServerSignal) : Controller :=
  { fc with
    backpressureActive := if signal.pause then true else fc.backpressureActive
    samplingRate := if signal.samplingRate > 0 then signal.samplingRate else fc.samplingRate
    state :=
      { fc.state with
        accepting := if signal.pause then false else fc.state.accepting
        suggestedSamplingRate :=
          if signal.samplingRate > 0 then signal.samplingRate else fc.state.suggestedSamplingRate
        desiredIntervalMs :=
          if signal.desiredIntervalMs > 0 then some signal.desiredIntervalMs.toNat
          else fc.state.desiredIntervalMs } }

/-- `is_backpressured`. -/
def isBackpressured (fc : Controller) : Bool := fc.backpressureActive

end Controller

end Paryty.Agent.FlowControl

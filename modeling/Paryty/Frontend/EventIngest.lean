import Paryty.Frontend.RingBuffer

/-!
# The event feed of the frontend

`EventIngest` of `frontend/src/engine/eventIngest.ts`: events come by WebSocket, by polls of the
REST interface or by server-sent events, and wait in a ring buffer until they are drained.

The page is single-threaded, so every entry point runs to its end, but a poll is under way until
its response arrives, whatever happens meanwhile. The WebSocket client outside of the class is
its state and the number of handlers registered for state changes: a handler registered by
`start` is only removed by `stop`, and only the one registered last.
-/

namespace Paryty.Frontend

/-- A string of JavaScript, a sequence of 16-bit code units; they are ordered lexicographically. -/
abbrev JSString := List UInt16

inductive TransportMode
  | ws
  | rest
  | sse
  | offline
deriving DecidableEq

inductive BudgetLevel
  | normal
  | soft
  | hard
deriving DecidableEq

/-- The state of the WebSocket client. -/
inductive WsState
  | connecting
  | connected
  | disconnected
  | reconnecting
deriving DecidableEq

structure EventIngestConfig where
  restIntervalMs : ℕ
  restFailureThreshold : ℕ
  queueCapacity : ℕ

/-- Slow-poll interval when the memory budget is soft. -/
def softPollIntervalMs : ℕ := 10000

/-- Time window overlap in milliseconds to avoid gaps between polls. -/
def pollOverlapMs : ℤ := 1000

/-- What a poll asks for; times in milliseconds. -/
structure EventQuery where
  startTime : ℤ
  endTime : ℤ
  limit : ℕ

/-- A poll under way, with the time it was sent at. -/
structure Poll where
  now : ℤ
  query : EventQuery

/-- The pipeline, the state of the WebSocket client, the handlers that are registered with it and
the polls under way. A timer, a subscription or a client is there or not. -/
structure EventIngest (Event : Type) where
  config : EventIngestConfig
  ringBuffer : RingBuffer Event
  transportMode : TransportMode
  wsStateUnsubscriber : Bool
  wsSubscriptionId : Bool
  restTimerId : Option ℕ
  consecutiveRestFailures : ℕ
  lastPollTime : ℤ
  restIntervalMs : ℕ
  sseClient : Bool
  graceTimerId : Bool
  started : Bool
  stopped : Bool
  lastEventId : Option JSString
  totalEventsReceived : ℕ
  wsState : WsState
  handlers : ℕ
  polls : List Poll

namespace EventIngest

variable {Event : Type}

/-- A pipeline that has not been started, of a page whose client is in the given state. -/
def new (Event : Type) (config : EventIngestConfig) (now : ℤ) (wsState : WsState) :
    EventIngest Event where
  config := config
  ringBuffer := .new config.queueCapacity
  transportMode := .ws
  wsStateUnsubscriber := false
  wsSubscriptionId := false
  restTimerId := none
  consecutiveRestFailures := 0
  lastPollTime := now
  restIntervalMs := config.restIntervalMs
  sseClient := false
  graceTimerId := false
  started := false
  stopped := false
  lastEventId := none
  totalEventsReceived := 0
  wsState := wsState
  handlers := 0
  polls := []

/-- Whether the pipeline is currently active. -/
def isActive (s : EventIngest Event) : Bool := s.started && !s.stopped

/-! ## Transports -/

def transitionTo (mode : TransportMode) (s : EventIngest Event) : EventIngest Event :=
  if s.transportMode = mode ∧ mode ≠ .offline then s else { s with transportMode := mode }

def subscribeWs (s : EventIngest Event) : EventIngest Event :=
  if s.wsSubscriptionId then s else { s with wsSubscriptionId := true }

def unsubscribeWs (s : EventIngest Event) : EventIngest Event :=
  if s.wsSubscriptionId then { s with wsSubscriptionId := false } else s

/-- A poll up to its request. -/
def pollRest (now : ℤ) (s : EventIngest Event) : EventIngest Event :=
  if s.stopped then s
  else { s with polls := s.polls ++ [⟨now, s.lastPollTime - pollOverlapMs, now, 500⟩] }

def startRestPolling (now : ℤ) (s : EventIngest Event) : EventIngest Event :=
  if s.restTimerId.isSome then s
  else { pollRest now { s with lastPollTime := now } with restTimerId := some s.restIntervalMs }

def stopRestPolling (s : EventIngest Event) : EventIngest Event :=
  if s.restTimerId.isSome then { s with restTimerId := none } else s

def startSse (s : EventIngest Event) : EventIngest Event :=
  if s.sseClient then s else { s with sseClient := true }

def closeSse (s : EventIngest Event) : EventIngest Event := { s with sseClient := false }

def cancelGraceWindow (s : EventIngest Event) : EventIngest Event :=
  if s.graceTimerId then { s with graceTimerId := false } else s

def startGraceWindow (s : EventIngest Event) : EventIngest Event :=
  { s.cancelGraceWindow with graceTimerId := true }

/-- Commits the promotion if the WebSocket is still stable. -/
def commitPromotion (s : EventIngest Event) : EventIngest Event :=
  let s := { s with graceTimerId := false }
  if s.wsState = .connected then s.stopRestPolling.closeSse.transitionTo .ws else s

/-- Handles a state change of the WebSocket. -/
def onWsStateChange (state : WsState) (now : ℤ) (s : EventIngest Event) : EventIngest Event :=
  if s.stopped then s
  else
    match state with
    | .connected =>
      let s := s.subscribeWs
      if s.transportMode = .rest ∨ s.transportMode = .sse then s.startGraceWindow else s
    | .disconnected | .reconnecting =>
      let s := s.cancelGraceWindow
      if s.transportMode = .ws then (s.startRestPolling now).transitionTo .rest else s
    | .connecting => s

/-! ## Lifecycle -/

/-- Starts the pipeline. -/
def start (now : ℤ) (s : EventIngest Event) : EventIngest Event :=
  if s.started && !s.stopped then s
  else
    let s := { s with
      started := true, stopped := false, lastPollTime := now
      handlers := s.handlers + 1, wsStateUnsubscriber := true }
    if s.wsState = .connected then s.subscribeWs.transitionTo .ws
    else (s.startRestPolling now).transitionTo .rest

/-- Stops the pipeline. -/
def stop (s : EventIngest Event) : EventIngest Event :=
  let s := { s with stopped := true, started := false }
  let s := s.unsubscribeWs.stopRestPolling.closeSse.cancelGraceWindow
  let s := { s with
    handlers := if s.wsStateUnsubscriber then s.handlers - 1 else s.handlers
    wsStateUnsubscriber := false
    ringBuffer := s.ringBuffer.clear }
  s.transitionTo .offline

/-- Pauses the pipeline without clearing the buffer. -/
def pause (s : EventIngest Event) : EventIngest Event :=
  ({ s with started := false }).unsubscribeWs.stopRestPolling.closeSse.cancelGraceWindow

/-- Resumes the pipeline after a pause. -/
def resume (now : ℤ) (s : EventIngest Event) : EventIngest Event :=
  if s.stopped then s else s.start now

/-- Adjusts the behaviour to the memory budget. -/
def setBudgetLevel (level : BudgetLevel) (now : ℤ) (s : EventIngest Event) : EventIngest Event :=
  match level with
  | .normal =>
    let s := { s with restIntervalMs := s.config.restIntervalMs }
    if !s.started && !s.stopped then s.resume now else s
  | .soft => { s with restIntervalMs := softPollIntervalMs }
  | .hard =>
    let s := s.unsubscribeWs.stopRestPolling.closeSse
    { s with ringBuffer := s.ringBuffer.clear }

/-! ## Events -/

/-- Whether an ID is not after the last one seen; no ID and the empty ID count as none. -/
def seen (s : EventIngest Event) (id : JSString) : Bool :=
  match s.lastEventId with
  | none => false
  | some last => last ≠ [] && id ≤ last

variable (id : Event → JSString)

/-- Handles a WebSocket message: an event, or something else. -/
def onWsMessage (data : Option Event) (s : EventIngest Event) : EventIngest Event :=
  match data with
  | none => s
  | some event =>
    if id event = [] then s
    else if s.seen (id event) then s
    else
      { s with
        ringBuffer := s.ringBuffer.push event
        totalEventsReceived := s.totalEventsReceived + 1
        lastEventId := some (id event)
        consecutiveRestFailures := 0 }

/-- Handles an SSE message: an event, or something else. -/
def onSseMessage (data : Option Event) (s : EventIngest Event) : EventIngest Event :=
  match data with
  | none => s
  | some event =>
    if id event = [] then s
    else if s.seen (id event) then s
    else
      { s with
        ringBuffer := s.ringBuffer.push event
        totalEventsReceived := s.totalEventsReceived + 1
        lastEventId := some (id event) }

/-- The events of a response that are taken as new: those behind the last one seen. -/
def newEvents (lastEventId : Option JSString) (events : List Event) : List Event :=
  match lastEventId with
  | none => events
  | some last =>
    if last = [] then events
    else
      match events.findIdx? fun e => id e = last with
      | some lastIdx => events.drop (lastIdx + 1)
      | none => events

/-- A poll from its response on. -/
def pollSucceeds (poll : Poll) (events : List Event) (s : EventIngest Event) :
    EventIngest Event :=
  let new := newEvents id s.lastEventId events
  let s :=
    match new.getLast? with
    | none => s
    | some last =>
      { s with
        ringBuffer := s.ringBuffer.pushMany new
        totalEventsReceived := s.totalEventsReceived + new.length
        lastEventId := some (id last) }
  { s with lastPollTime := poll.now, consecutiveRestFailures := 0 }

/-- A poll that fails. -/
def pollFails (s : EventIngest Event) : EventIngest Event :=
  let s := { s with consecutiveRestFailures := s.consecutiveRestFailures + 1 }
  if s.consecutiveRestFailures ≥ s.config.restFailureThreshold ∧ s.transportMode = .rest then
    s.stopRestPolling.startSse.transitionTo .sse
  else s

/-- Drains all available events. -/
def drain (s : EventIngest Event) : List Event × EventIngest Event :=
  (s.ringBuffer.toArray, { s with ringBuffer := s.ringBuffer.clear })

/-! ## Steps -/

/-- What happens to the pipeline: a call, or something that it reacts to. Polls under way are
given by their place. -/
inductive Action (Event : Type)
  | start (now : ℤ)
  | stop
  | pause
  | resume (now : ℤ)
  | setBudgetLevel (level : BudgetLevel) (now : ℤ)
  | wsStateChange (state : WsState) (now : ℤ)
  | restTimer (now : ℤ)
  | pollSucceeds (place : ℕ) (events : List Event)
  | pollFails (place : ℕ)
  | graceTimer
  | wsMessage (data : Option Event)
  | sseMessage (data : Option Event)
  | drain

/-- A step; what is not running does nothing. -/
def step (s : EventIngest Event) : Action Event → EventIngest Event
  | .start now => s.start now
  | .stop => s.stop
  | .pause => s.pause
  | .resume now => s.resume now
  | .setBudgetLevel level now => s.setBudgetLevel level now
  | .wsStateChange state now =>
    -- Every handler is called, those that were left behind too.
    (onWsStateChange state now)^[s.handlers] { s with wsState := state }
  | .restTimer now => if s.restTimerId.isSome then s.pollRest now else s
  | .pollSucceeds place events =>
    match s.polls[place]? with
    | none => s
    | some poll => pollSucceeds id poll events { s with polls := s.polls.eraseIdx place }
  | .pollFails place =>
    match s.polls[place]? with
    | none => s
    | some _ => pollFails { s with polls := s.polls.eraseIdx place }
  | .graceTimer => if s.graceTimerId then s.commitPromotion else s
  | .wsMessage data => if s.wsSubscriptionId then onWsMessage id data s else s
  | .sseMessage data => if s.sseClient then onSseMessage id data s else s
  | .drain => s.drain.2

/-! ## What the methods do -/

section Methods

variable (s : EventIngest Event)

lemma transitionTo_eq (mode : TransportMode) :
    s.transitionTo mode = { s with transportMode := mode } := by
  unfold transitionTo
  split
  case isTrue h => rw [← h.1]
  case isFalse => rfl

lemma subscribeWs_eq : s.subscribeWs = { s with wsSubscriptionId := true } := by
  unfold subscribeWs
  split
  case isTrue h => rw [← h]
  case isFalse => rfl

lemma unsubscribeWs_eq : s.unsubscribeWs = { s with wsSubscriptionId := false } := by
  unfold unsubscribeWs
  split
  case isTrue => rfl
  case isFalse h => rw [← Bool.eq_false_of_not_eq_true h]

lemma stopRestPolling_eq : s.stopRestPolling = { s with restTimerId := none } := by
  unfold stopRestPolling
  split
  case isTrue => rfl
  case isFalse h => rw [← Option.not_isSome_iff_eq_none.mp h]

lemma startSse_eq : s.startSse = { s with sseClient := true } := by
  unfold startSse
  split
  case isTrue h => rw [← h]
  case isFalse => rfl

lemma cancelGraceWindow_eq : s.cancelGraceWindow = { s with graceTimerId := false } := by
  unfold cancelGraceWindow
  split
  case isTrue => rfl
  case isFalse h => rw [← Bool.eq_false_of_not_eq_true h]

lemma startGraceWindow_eq : s.startGraceWindow = { s with graceTimerId := true } := by
  rw [startGraceWindow, cancelGraceWindow_eq]

lemma startRestPolling_eq {s : EventIngest Event} (hstopped : s.stopped = false)
    (htimer : s.restTimerId = none) (now : ℤ) :
    s.startRestPolling now =
      { s with
        lastPollTime := now
        polls := s.polls ++ [⟨now, now - pollOverlapMs, now, 500⟩]
        restTimerId := some s.restIntervalMs } := by
  rw [startRestPolling, if_neg (by simp [htimer]), pollRest, if_neg (by simp [hstopped])]

lemma pause_eq : s.pause =
    { s with
      started := false, wsSubscriptionId := false, restTimerId := none, sseClient := false
      graceTimerId := false } := by
  rw [pause, unsubscribeWs_eq, stopRestPolling_eq, closeSse, cancelGraceWindow_eq]

lemma stop_eq : s.stop =
    { s with
      stopped := true, started := false, wsSubscriptionId := false, restTimerId := none
      sseClient := false, graceTimerId := false, transportMode := .offline
      handlers := if s.wsStateUnsubscriber then s.handlers - 1 else s.handlers
      wsStateUnsubscriber := false, ringBuffer := s.ringBuffer.clear } := by
  rw [stop, unsubscribeWs_eq, stopRestPolling_eq, closeSse, cancelGraceWindow_eq, transitionTo_eq]

lemma setBudgetLevel_hard_eq (now : ℤ) : s.setBudgetLevel .hard now =
    { s with
      wsSubscriptionId := false, restTimerId := none, sseClient := false
      ringBuffer := s.ringBuffer.clear } := by
  simp only [setBudgetLevel, unsubscribeWs_eq, stopRestPolling_eq, closeSse]

lemma commitPromotion_eq (hconnected : s.wsState = .connected) : s.commitPromotion =
    { s with
      graceTimerId := false, restTimerId := none, sseClient := false, transportMode := .ws } := by
  rw [commitPromotion, if_pos hconnected, transitionTo_eq, stopRestPolling_eq, closeSse]

lemma pollFails_eq : s.pollFails =
    if s.consecutiveRestFailures + 1 ≥ s.config.restFailureThreshold ∧ s.transportMode = .rest then
      { s with
        consecutiveRestFailures := s.consecutiveRestFailures + 1
        restTimerId := none, sseClient := true, transportMode := .sse }
    else { s with consecutiveRestFailures := s.consecutiveRestFailures + 1 } := by
  simp only [pollFails, transitionTo_eq, startSse_eq, stopRestPolling_eq]

end Methods

end EventIngest

end Paryty.Frontend

import Paryty.Frontend.EventIngest
import Paryty.Lib.Run
import Mathlib.Data.List.Dedup

/-!
# Every event is delivered once

`Once`: the events drained so far and those in the queue are the events that the transports have
delivered, each once, and the counter is their number.

`feed_once_iff`: in the runs that keep the queue below its capacity, this holds throughout if and
only if every delivery satisfies `Fits`. The last ID seen tells new events from old ones only as
long as the events arrive in the order of their IDs.
-/

namespace Paryty.Frontend

open EventIngest (Action)

variable {Event : Type}

/-! ## Deliveries -/

/-- A pipeline, what its transports have delivered to it and what was drained from it. -/
structure Feed (Event : Type) where
  ingest : EventIngest Event
  delivered : List Event
  drained : List Event

namespace Feed

def new (Event : Type) (config : EventIngestConfig) (now : ℤ) (wsState : WsState) : Feed Event :=
  ⟨.new Event config now wsState, [], []⟩

/-- The events that a step delivers: those of a transport that is running. -/
def deliveries (f : Feed Event) : Action Event → List Event
  | .wsMessage (some event) => if f.ingest.wsSubscriptionId then [event] else []
  | .sseMessage (some event) => if f.ingest.sseClient then [event] else []
  | .pollSucceeds place events => if f.ingest.polls[place]?.isSome then events else []
  | _ => []

/-- The events that wait to be drained. -/
def queue (f : Feed Event) : List Event := f.ingest.ringBuffer.toArray

def step (id : Event → JSString) (f : Feed Event) (action : Action Event) : Feed Event where
  ingest := f.ingest.step id action
  delivered := f.delivered ++ f.deliveries action
  drained :=
    match action with
    | .drain => f.drained ++ f.ingest.drain.1
    | _ => f.drained

/-- The queue is below its capacity. -/
def Below (f : Feed Event) : Prop := f.ingest.ringBuffer.size < f.ingest.ringBuffer.capacity

instance (f : Feed Event) : Decidable f.Below := inferInstanceAs (Decidable (_ < _))

/-- Every event delivered was drained or waits, once, and was counted once. -/
structure Once [DecidableEq Event] (f : Feed Event) : Prop where
  nodup : (f.drained ++ f.queue).Nodup
  mem_iff : ∀ event, event ∈ f.drained ++ f.queue ↔ event ∈ f.delivered
  counted : f.ingest.totalEventsReceived = f.delivered.dedup.length

/-! ## The deliveries that fit -/

/-- An ID that is after the last one seen, if one was seen. -/
def Beyond (lastEventId : Option JSString) (id : JSString) : Prop :=
  lastEventId = none ∨ lastEventId = some [] ∨ ∃ last, lastEventId = some last ∧ last < id

/-- A single event: it is new if and only if its ID is after the last one seen, and not empty. -/
def FitsOne (id : Event → JSString) (f : Feed Event) (event : Event) : Prop :=
  event ∉ f.delivered ↔ id event ≠ [] ∧ Beyond f.ingest.lastEventId (id event)

/-- A response: events delivered before or listed again later, up to the first occurrence of the
last one seen, and new events, each once; or new events only. -/
def FitsMany (id : Event → JSString) (f : Feed Event) (events : List Event) : Prop :=
  ∃ before after, events = before ++ after ∧
    (∀ event ∈ before, event ∈ f.delivered ∨ event ∈ after) ∧
    after.Nodup ∧ (∀ event ∈ after, event ∉ f.delivered) ∧
    (before = [] ∨ ∃ older last, before = older ++ [last] ∧ last ∉ older ∧ id last ≠ [] ∧
      f.ingest.lastEventId = some (id last))

/-- The steps that keep every event once. -/
def Fits (id : Event → JSString) (f : Feed Event) : Action Event → Prop
  | .wsMessage (some event) => f.ingest.wsSubscriptionId = true → FitsOne id f event
  | .sseMessage (some event) => f.ingest.sseClient = true → FitsOne id f event
  | .pollSucceeds place events => f.ingest.polls[place]?.isSome = true → FitsMany id f events
  | .stop | .setBudgetLevel .hard _ => f.queue = []
  | _ => True

/-! ## What a step takes in -/

section Once

variable [DecidableEq Event]

lemma length_eq_dedup {out delivered : List Event} (hnodup : out.Nodup)
    (hmem : ∀ event, event ∈ out ↔ event ∈ delivered) :
    out.length = delivered.dedup.length := by
  refine List.Perm.length_eq ((List.perm_ext_iff_of_nodup hnodup (List.nodup_dedup _)).mpr ?_)
  exact fun event => (hmem event).trans List.mem_dedup.symm

/-- A list of what was delivered, each once, stays one if and only if it gets what is delivered
for the first time, each once. -/
lemma once_append_iff {out delivered pushed given : List Event} {total : ℕ} (hnodup : out.Nodup)
    (hmem : ∀ event, event ∈ out ↔ event ∈ delivered) (htotal : total = delivered.dedup.length)
    (hgiven : ∀ event ∈ pushed, event ∈ given) :
    ((out ++ pushed).Nodup ∧ (∀ event, event ∈ out ++ pushed ↔ event ∈ delivered ++ given) ∧
      total + pushed.length = (delivered ++ given).dedup.length) ↔
    pushed.Nodup ∧ (∀ event ∈ pushed, event ∉ delivered) ∧
      ∀ event ∈ given, event ∈ delivered ∨ event ∈ pushed := by
  constructor
  · rintro ⟨hnodup', hmem', -⟩
    obtain ⟨-, hpushed, hdisjoint⟩ := List.nodup_append.mp hnodup'
    refine ⟨hpushed, fun event hevent hold => ?_, fun event hevent => ?_⟩
    · exact hdisjoint event ((hmem event).mpr hold) event hevent rfl
    · have hout := (hmem' event).mpr (List.mem_append_right _ hevent)
      rw [List.mem_append, hmem] at hout
      exact hout
  · rintro ⟨hpushed, hnew, hcovered⟩
    have hnodup' : (out ++ pushed).Nodup := by
      rw [List.nodup_append]
      refine ⟨hnodup, hpushed, fun event hold event' hevent' heq => ?_⟩
      exact hnew event' hevent' ((hmem event').mp (heq ▸ hold))
    have hmem' : ∀ event, event ∈ out ++ pushed ↔ event ∈ delivered ++ given := by
      intro event
      rw [List.mem_append, List.mem_append, hmem]
      constructor
      · exact fun h => h.imp_right (hgiven event)
      · exact fun h => h.elim .inl (hcovered event)
    refine ⟨hnodup', hmem', ?_⟩
    rw [← length_eq_dedup hnodup' hmem', List.length_append, htotal, length_eq_dedup hnodup hmem]

end Once

/-- What a step does to the queue, the counter and the last ID when it takes in events. -/
structure Takes (id : Event → JSString) (s s' : EventIngest Event) (pushed : List Event) :
    Prop where
  ringBuffer : s'.ringBuffer = s.ringBuffer.pushMany pushed
  total : s'.totalEventsReceived = s.totalEventsReceived + pushed.length
  last : s'.lastEventId = (pushed.getLast?.map id).or s.lastEventId

lemma takes_nil (id : Event → JSString) (s : EventIngest Event) : Takes id s s [] :=
  ⟨rfl, rfl, rfl⟩

/-- The event of a message, if it is taken in. -/
def accepted (id : Event → JSString) (s : EventIngest Event) (event : Event) : List Event :=
  if id event = [] ∨ s.seen (id event) = true then [] else [event]

lemma takes_onWsMessage (id : Event → JSString) (event : Event) (s : EventIngest Event) :
    Takes id s (s.onWsMessage id (some event)) (accepted id s event) := by
  unfold EventIngest.onWsMessage accepted
  by_cases hempty : id event = []
  · simpa [hempty] using takes_nil id s
  by_cases hseen : s.seen (id event) = true
  · simpa [hempty, hseen] using takes_nil id s
  · simp only [hempty, hseen, Bool.false_eq_true, if_false, or_self]
    exact ⟨rfl, rfl, rfl⟩

lemma takes_onSseMessage (id : Event → JSString) (event : Event) (s : EventIngest Event) :
    Takes id s (s.onSseMessage id (some event)) (accepted id s event) := by
  unfold EventIngest.onSseMessage accepted
  by_cases hempty : id event = []
  · simpa [hempty] using takes_nil id s
  by_cases hseen : s.seen (id event) = true
  · simpa [hempty, hseen] using takes_nil id s
  · simp only [hempty, hseen, Bool.false_eq_true, if_false, or_self]
    exact ⟨rfl, rfl, rfl⟩

lemma takes_pollSucceeds (id : Event → JSString) (poll : Poll) (events : List Event)
    (s : EventIngest Event) :
    Takes id s (s.pollSucceeds id poll events)
      (EventIngest.newEvents id s.lastEventId events) := by
  unfold EventIngest.pollSucceeds
  cases hlast : (EventIngest.newEvents id s.lastEventId events).getLast? with
  | none =>
    rw [List.getLast?_eq_none_iff.mp hlast]
    exact ⟨rfl, rfl, rfl⟩
  | some last =>
    dsimp only
    rw [hlast]
    exact ⟨rfl, rfl, by rw [hlast]; rfl⟩

/-! ## Steps that take in nothing -/

lemma takes_startRestPolling (id : Event → JSString) (s : EventIngest Event) (now : ℤ) :
    Takes id s (s.startRestPolling now) [] := by
  unfold EventIngest.startRestPolling EventIngest.pollRest
  split
  · exact ⟨rfl, rfl, rfl⟩
  · split <;> exact ⟨rfl, rfl, rfl⟩

lemma takes_start (id : Event → JSString) (s : EventIngest Event) (now : ℤ) :
    Takes id s (s.start now) [] := by
  unfold EventIngest.start
  split
  · exact ⟨rfl, rfl, rfl⟩
  · simp only [EventIngest.transitionTo_eq, EventIngest.subscribeWs_eq]
    split
    · exact ⟨rfl, rfl, rfl⟩
    · obtain ⟨hring, htotal, hlast⟩ := takes_startRestPolling id { s with
        started := true, stopped := false, lastPollTime := now
        handlers := s.handlers + 1, wsStateUnsubscriber := true } now
      exact ⟨hring, htotal, hlast⟩

lemma takes_resume (id : Event → JSString) (s : EventIngest Event) (now : ℤ) :
    Takes id s (s.resume now) [] := by
  unfold EventIngest.resume
  split
  · exact takes_nil id s
  · exact takes_start id s now

lemma takes_onWsStateChange (id : Event → JSString) (s : EventIngest Event) (state : WsState)
    (now : ℤ) : Takes id s (s.onWsStateChange state now) [] := by
  unfold EventIngest.onWsStateChange
  split
  · exact takes_nil id s
  · simp only [EventIngest.subscribeWs_eq, EventIngest.startGraceWindow_eq,
      EventIngest.cancelGraceWindow_eq, EventIngest.transitionTo_eq]
    cases state with
    | connecting => exact takes_nil id s
    | connected => dsimp only; split <;> exact ⟨rfl, rfl, rfl⟩
    | disconnected | reconnecting =>
      dsimp only
      split
      · obtain ⟨hring, htotal, hlast⟩ :=
          takes_startRestPolling id { s with graceTimerId := false } now
        exact ⟨hring, htotal, hlast⟩
      · exact ⟨rfl, rfl, rfl⟩

lemma takes_notified (id : Event → JSString) (s : EventIngest Event) (state : WsState) (now : ℤ)
    (n : ℕ) : Takes id s ((EventIngest.onWsStateChange state now)^[n] s) [] := by
  induction n generalizing s with
  | zero => exact takes_nil id s
  | succ n ih =>
    rw [Function.iterate_succ_apply]
    obtain ⟨hring, htotal, hlast⟩ := takes_onWsStateChange id s state now
    obtain ⟨hring', htotal', hlast'⟩ := ih (s.onWsStateChange state now)
    exact ⟨hring'.trans hring, htotal'.trans htotal, hlast'.trans hlast⟩

/-- The steps that empty the queue. -/
def Clears : Action Event → Prop
  | .stop | .setBudgetLevel .hard _ | .drain => True
  | _ => False

/-- The events that a step takes in. -/
def takenIn (id : Event → JSString) (f : Feed Event) : Action Event → List Event
  | .wsMessage (some event) => if f.ingest.wsSubscriptionId then accepted id f.ingest event else []
  | .sseMessage (some event) => if f.ingest.sseClient then accepted id f.ingest event else []
  | .pollSucceeds place events =>
    if f.ingest.polls[place]?.isSome then EventIngest.newEvents id f.ingest.lastEventId events
    else []
  | _ => []

lemma takes_step (id : Event → JSString) (f : Feed Event) {action : Action Event}
    (h : ¬ Clears action) :
    Takes id f.ingest (f.ingest.step id action) (f.takenIn id action) := by
  cases action with
  | start now => exact takes_start id f.ingest now
  | pause =>
    simp only [EventIngest.step, EventIngest.pause_eq]
    exact ⟨rfl, rfl, rfl⟩
  | resume now => exact takes_resume id f.ingest now
  | setBudgetLevel level now =>
    cases level with
    | normal =>
      simp only [EventIngest.step, EventIngest.setBudgetLevel]
      split
      · -- The interval is reset before the resume.
        obtain ⟨hring, htotal, hlast⟩ := takes_resume id
          { f.ingest with restIntervalMs := f.ingest.config.restIntervalMs } now
        exact ⟨hring, htotal, hlast⟩
      · exact ⟨rfl, rfl, rfl⟩
    | soft => exact ⟨rfl, rfl, rfl⟩
    | hard => exact absurd trivial h
  | wsStateChange state now =>
    obtain ⟨hring, htotal, hlast⟩ :=
      takes_notified id { f.ingest with wsState := state } state now f.ingest.handlers
    exact ⟨hring, htotal, hlast⟩
  | restTimer now =>
    simp only [EventIngest.step, EventIngest.pollRest]
    split
    · split <;> exact ⟨rfl, rfl, rfl⟩
    · exact takes_nil id f.ingest
  | pollSucceeds place events =>
    simp only [EventIngest.step, takenIn]
    cases f.ingest.polls[place]? with
    | none => exact takes_nil id f.ingest
    | some poll =>
      -- The poll is off the list before its events are taken.
      obtain ⟨hring, htotal, hlast⟩ := takes_pollSucceeds id poll events
        { f.ingest with polls := f.ingest.polls.eraseIdx place }
      exact ⟨hring, htotal, hlast⟩
  | pollFails place =>
    simp only [EventIngest.step, EventIngest.pollFails_eq]
    cases f.ingest.polls[place]? with
    | none => exact takes_nil id f.ingest
    | some poll =>
      dsimp only
      split <;> exact ⟨rfl, rfl, rfl⟩
  | graceTimer =>
    simp only [EventIngest.step, EventIngest.commitPromotion, EventIngest.stopRestPolling_eq,
      EventIngest.transitionTo_eq]
    split
    · split <;> exact ⟨rfl, rfl, rfl⟩
    · exact takes_nil id f.ingest
  | wsMessage data =>
    simp only [EventIngest.step]
    cases data with
    | none =>
      split <;> exact takes_nil id f.ingest
    | some event =>
      simp only [takenIn]
      split
      · exact takes_onWsMessage id event f.ingest
      · exact takes_nil id f.ingest
  | sseMessage data =>
    simp only [EventIngest.step]
    cases data with
    | none =>
      split <;> exact takes_nil id f.ingest
    | some event =>
      simp only [takenIn]
      split
      · exact takes_onSseMessage id event f.ingest
      · exact takes_nil id f.ingest
  | stop | drain => exact absurd trivial h

/-! ## The invariant -/

/-- The buffer holds what was pushed, and the last ID seen is that of a delivered event. -/
structure Grounded (id : Event → JSString) (f : Feed Event) : Prop where
  holds : ∃ values, f.ingest.ringBuffer.Holds values
  last : ∀ last, f.ingest.lastEventId = some last → ∃ event ∈ f.delivered, id event = last

lemma mem_of_mem_newEvents {id : Event → JSString} {lastEventId : Option JSString}
    {events : List Event} {event : Event}
    (h : event ∈ EventIngest.newEvents id lastEventId events) : event ∈ events := by
  unfold EventIngest.newEvents at h
  split at h
  · exact h
  · split at h
    · exact h
    · split at h
      · exact List.mem_of_mem_drop h
      · exact h

lemma mem_of_mem_accepted {id : Event → JSString} {s : EventIngest Event} {event event' : Event}
    (h : event' ∈ accepted id s event) : event' ∈ [event] := by
  unfold accepted at h
  split at h
  · exact absurd h (by simp)
  · exact h

lemma mem_deliveries_of_takenIn (id : Event → JSString) (f : Feed Event) (action : Action Event) :
    ∀ event ∈ f.takenIn id action, event ∈ f.deliveries action := by
  intro event h
  cases action with
  | wsMessage data =>
    cases data with
    | none => exact absurd h (by simp [takenIn])
    | some event' =>
      simp only [takenIn, deliveries] at h ⊢
      split at h
      case isTrue hon => rw [if_pos hon]; exact mem_of_mem_accepted h
      case isFalse => exact absurd h (by simp)
  | sseMessage data =>
    cases data with
    | none => exact absurd h (by simp [takenIn])
    | some event' =>
      simp only [takenIn, deliveries] at h ⊢
      split at h
      case isTrue hon => rw [if_pos hon]; exact mem_of_mem_accepted h
      case isFalse => exact absurd h (by simp)
  | pollSucceeds place events =>
    simp only [takenIn, deliveries] at h ⊢
    split at h
    case isTrue hon => rw [if_pos hon]; exact mem_of_mem_newEvents h
    case isFalse => exact absurd h (by simp)
  | start | stop | pause | resume | setBudgetLevel | wsStateChange | restTimer | pollFails
  | graceTimer | drain => exact absurd h (by simp [takenIn])

lemma grounded_step (id : Event → JSString) {f : Feed Event} (hf : f.Grounded id)
    (action : Action Event) : (f.step id action).Grounded id := by
  obtain ⟨values, hvalues⟩ := hf.holds
  have hlast : ∀ last, f.ingest.lastEventId = some last →
      ∃ event ∈ (f.step id action).delivered, id event = last := fun last h => by
    obtain ⟨event, hevent, hid⟩ := hf.last last h
    exact ⟨event, List.mem_append_left _ hevent, hid⟩
  by_cases hclears : Clears action
  · have hclear : (f.step id action).ingest.ringBuffer = f.ingest.ringBuffer.clear ∧
        (f.step id action).ingest.lastEventId = f.ingest.lastEventId := by
      cases action with
      | stop => simp [step, EventIngest.step, EventIngest.stop_eq]
      | setBudgetLevel level now =>
        cases level with
        | hard => simp [step, EventIngest.step, EventIngest.setBudgetLevel_hard_eq]
        | normal | soft => exact absurd hclears (by simp [Clears])
      | drain => exact ⟨rfl, rfl⟩
      | start | pause | resume | wsStateChange | restTimer | pollSucceeds | pollFails | graceTimer
      | wsMessage | sseMessage => exact absurd hclears (by simp [Clears])
    exact ⟨⟨[], hclear.1 ▸ hvalues.clear⟩, fun last h => hlast last (hclear.2 ▸ h)⟩
  · obtain ⟨hring, -, hnext⟩ := takes_step id f hclears
    refine ⟨⟨_, hring ▸ hvalues.pushMany (f.takenIn id action)⟩, fun last h => ?_⟩
    change (f.ingest.step id action).lastEventId = some last at h
    rw [hnext] at h
    cases hpushed : (f.takenIn id action).getLast? with
    | none =>
      rw [hpushed] at h
      exact hlast last h
    | some event =>
      rw [hpushed] at h
      refine ⟨event, List.mem_append_right _ ?_, Option.some.inj h⟩
      exact mem_deliveries_of_takenIn id f action event (List.mem_of_getLast? hpushed)

/-! ## The deliveries that are taken in right -/

/-- What a step takes in is new, each once, and the rest of what it delivers is not. -/
def TakesNew (f : Feed Event) (pushed given : List Event) : Prop :=
  pushed.Nodup ∧ (∀ event ∈ pushed, event ∉ f.delivered) ∧
    ∀ event ∈ given, event ∈ f.delivered ∨ event ∈ pushed

lemma takesNew_nil (f : Feed Event) : f.TakesNew [] [] := ⟨List.nodup_nil, by simp, by simp⟩

lemma not_seen_iff (s : EventIngest Event) (x : JSString) :
    s.seen x = false ↔ Beyond s.lastEventId x := by
  unfold EventIngest.seen Beyond
  cases s.lastEventId with
  | none => simp
  | some last =>
    by_cases hempty : last = []
    · simp [hempty]
    · simp [hempty]

lemma accepted_iff (id : Event → JSString) (f : Feed Event) (event : Event) :
    f.TakesNew (accepted id f.ingest event) [event] ↔ FitsOne id f event := by
  have hseen := not_seen_iff f.ingest (id event)
  unfold TakesNew accepted FitsOne
  by_cases hskip : id event = [] ∨ f.ingest.seen (id event) = true
  · have hold : ¬ (id event ≠ [] ∧ Beyond f.ingest.lastEventId (id event)) := by
      rw [← hseen]
      rcases hskip with h | h <;> simp [h]
    rw [if_pos hskip]
    simp [hold]
  · have hnew : id event ≠ [] ∧ Beyond f.ingest.lastEventId (id event) := by
      rw [← hseen]
      rw [not_or, Bool.not_eq_true] at hskip
      exact hskip
    rw [if_neg hskip]
    simp [hnew]

lemma newEvents_cases (id : Event → JSString) (lastEventId : Option JSString)
    (events : List Event) :
    (EventIngest.newEvents id lastEventId events = events ∧
      ∀ last, lastEventId = some last → last ≠ [] → ∀ event ∈ events, id event ≠ last) ∨
    ∃ older last after, events = older ++ last :: after ∧
      EventIngest.newEvents id lastEventId events = after ∧ lastEventId = some (id last) ∧
      id last ≠ [] ∧ ∀ event ∈ older, id event ≠ id last := by
  unfold EventIngest.newEvents
  cases lastEventId with
  | none => exact .inl ⟨rfl, fun last h => absurd h (by simp)⟩
  | some x =>
    by_cases hempty : x = []
    · exact .inl ⟨by simp [hempty], fun last h hlast => absurd (Option.some.inj h ▸ hempty) hlast⟩
    · simp only [if_neg hempty]
      cases hfound : events.findIdx? fun event => id event = x with
      | none =>
        refine .inl ⟨rfl, fun last h _ event hevent => ?_⟩
        have hne := List.findIdx?_eq_none_iff.mp hfound event hevent
        rw [← Option.some.inj h]
        simpa using hne
      | some i =>
        obtain ⟨hi, hx, hbefore⟩ := List.findIdx?_eq_some_iff_getElem.mp hfound
        have hx : id events[i] = x := by simpa using hx
        refine .inr ⟨events.take i, events[i], events.drop (i + 1), ?_, rfl, by rw [hx],
          by rwa [hx], fun event hevent => ?_⟩
        · rw [← List.drop_eq_getElem_cons hi, List.take_append_drop]
        · obtain ⟨j, hj, rfl⟩ := List.mem_take_iff_getElem.mp hevent
          rw [hx]
          simpa using hbefore j (Nat.lt_of_lt_of_le hj (Nat.min_le_left _ _))

lemma split_unique {event : Event} {older older' after after' : List Event}
    (h : event ∉ older) (h' : event ∉ older')
    (heq : older ++ event :: after = older' ++ event :: after') :
    older = older' ∧ after = after' := by
  induction older generalizing older' with
  | nil =>
    cases older' with
    | nil => exact ⟨rfl, (List.cons.inj heq).2⟩
    | cons x older' => exact absurd ((List.cons.inj heq).1 ▸ List.mem_cons_self) h'
  | cons x older ih =>
    cases older' with
    | nil => exact absurd ((List.cons.inj heq).1 ▸ List.mem_cons_self) h
    | cons x' older' =>
      obtain ⟨rfl, htail⟩ := List.cons.inj heq
      obtain ⟨rfl, hafter⟩ := ih (List.not_mem_of_not_mem_cons h)
        (List.not_mem_of_not_mem_cons h') htail
      exact ⟨rfl, hafter⟩

lemma newEvents_iff {id : Event → JSString} (hid : Function.Injective id) {f : Feed Event}
    (hf : f.Grounded id) (events : List Event) :
    f.TakesNew (EventIngest.newEvents id f.ingest.lastEventId events) events ↔
      FitsMany id f events := by
  rcases newEvents_cases id f.ingest.lastEventId events with
    ⟨hall, hnone⟩ | ⟨older, last, after, rfl, hafter, hlast, hempty, holder⟩
  · -- The last event seen is not among them, so all of them have to be new.
    rw [hall]
    constructor
    · rintro ⟨hnodup, hnew, -⟩
      exact ⟨[], events, rfl, by simp, hnodup, hnew, .inl rfl⟩
    · rintro ⟨before, after, rfl, hbefore, hnodup, hnew, rfl | ⟨older, last, rfl, -, hne, hseen⟩⟩
      · exact ⟨hnodup, hnew, fun event hevent => .inr hevent⟩
      · exact absurd rfl (hnone _ hseen hne last (by simp))
  · obtain ⟨event, hdelivered, heq⟩ := hf.last _ hlast
    obtain rfl := hid heq
    rw [hafter]
    constructor
    · rintro ⟨hnodup, hnew, hcovered⟩
      refine ⟨older ++ [event], after, by simp, fun x hx => hcovered x ?_, hnodup, hnew,
        .inr ⟨older, event, rfl, fun h => holder event h rfl, hempty, hlast⟩⟩
      rw [← List.singleton_append, ← List.append_assoc]
      exact List.mem_append_left _ hx
    · rintro ⟨before, after', hevents, hbefore, hnodup, hnew,
        rfl | ⟨older', event', rfl, hfirst, -, hseen⟩⟩
      · -- The last event seen would be new.
        refine absurd hdelivered (hnew event ?_)
        rw [← List.nil_append after', ← hevents]
        simp
      · obtain rfl : event = event' := hid (Option.some.inj (hlast.symm.trans hseen))
        rw [List.append_assoc, List.singleton_append] at hevents
        obtain ⟨rfl, rfl⟩ := split_unique (fun h => holder event h rfl) hfirst hevents
        refine ⟨hnodup, hnew, fun x hx => ?_⟩
        rw [← List.singleton_append, ← List.append_assoc] at hx
        exact (List.mem_append.mp hx).elim (hbefore x) .inr

lemma takesNew_iff {id : Event → JSString} (hid : Function.Injective id) {f : Feed Event}
    (hf : f.Grounded id) {action : Action Event} (h : ¬ Clears action) :
    f.TakesNew (f.takenIn id action) (f.deliveries action) ↔ f.Fits id action := by
  cases action with
  | wsMessage data =>
    cases data with
    | none => exact iff_of_true f.takesNew_nil trivial
    | some event =>
      simp only [takenIn, deliveries, Fits]
      split
      case isTrue hon => simp only [hon, forall_const, accepted_iff]
      case isFalse hoff => exact iff_of_true f.takesNew_nil fun hon => absurd hon hoff
  | sseMessage data =>
    cases data with
    | none => exact iff_of_true f.takesNew_nil trivial
    | some event =>
      simp only [takenIn, deliveries, Fits]
      split
      case isTrue hon => simp only [hon, forall_const, accepted_iff]
      case isFalse hoff => exact iff_of_true f.takesNew_nil fun hon => absurd hon hoff
  | pollSucceeds place events =>
    simp only [takenIn, deliveries, Fits]
    split
    case isTrue hon => simp only [hon, forall_const, newEvents_iff hid hf]
    case isFalse hoff => exact iff_of_true f.takesNew_nil fun hon => absurd hon hoff
  | setBudgetLevel level now =>
    cases level with
    | normal | soft => exact iff_of_true f.takesNew_nil trivial
    | hard => exact absurd trivial h
  | start | pause | resume | wsStateChange | restTimer | pollFails | graceTimer =>
    exact iff_of_true f.takesNew_nil trivial
  | stop | drain => exact absurd trivial h

/-! ## Runs -/

section Runs

variable [DecidableEq Event]

/-- A step that empties the queue keeps every event once if it hands the queue over, or the queue
is empty. -/
lemma once_of_clear_iff {f f' : Feed Event} (ho : f.Once) (hqueue : f'.queue = [])
    (hdelivered : f'.delivered = f.delivered) (hdrained : f'.drained = f.drained)
    (htotal : f'.ingest.totalEventsReceived = f.ingest.totalEventsReceived) :
    f'.Once ↔ f.queue = [] := by
  constructor
  · intro ho'
    rw [List.eq_nil_iff_forall_not_mem]
    intro event hevent
    have hmem := (ho.mem_iff event).mp (List.mem_append_right _ hevent)
    rw [← hdelivered, ← ho'.mem_iff, hqueue, List.append_nil, hdrained] at hmem
    exact (List.nodup_append.mp ho.nodup).2.2 event hmem event hevent rfl
  · intro hempty
    have hout : f'.drained ++ f'.queue = f.drained ++ f.queue := by rw [hqueue, hdrained, hempty]
    exact ⟨hout ▸ ho.nodup, hout ▸ hdelivered ▸ ho.mem_iff, by rw [htotal, hdelivered, ho.counted]⟩

lemma once_step_iff {id : Event → JSString} (hid : Function.Injective id) {f : Feed Event}
    (hf : f.Grounded id) (ho : f.Once) (action : Action Event)
    (hbelow : (f.step id action).Below) : (f.step id action).Once ↔ f.Fits id action := by
  by_cases hclears : Clears action
  · cases action with
    | stop =>
      refine once_of_clear_iff ho ?_ (List.append_nil _) rfl ?_
      · simp [queue, step, EventIngest.step, EventIngest.stop_eq, RingBuffer.toArray_clear]
      · simp [step, EventIngest.step, EventIngest.stop_eq]
    | setBudgetLevel level now =>
      cases level with
      | hard =>
        refine once_of_clear_iff ho ?_ (List.append_nil _) rfl ?_
        · simp [queue, step, EventIngest.step, EventIngest.setBudgetLevel_hard_eq,
            RingBuffer.toArray_clear]
        · simp [step, EventIngest.step, EventIngest.setBudgetLevel_hard_eq]
      | normal | soft => exact absurd hclears (by simp [Clears])
    | drain =>
      -- A drain moves the queue behind what was drained.
      have hout : (f.step id .drain).drained ++ (f.step id .drain).queue =
          f.drained ++ f.queue := by
        simp [queue, step, EventIngest.step, EventIngest.drain, RingBuffer.toArray_clear]
      have hdelivered : (f.step id .drain).delivered = f.delivered := List.append_nil _
      exact iff_of_true ⟨hout ▸ ho.nodup, hout ▸ hdelivered ▸ ho.mem_iff,
        hdelivered ▸ ho.counted⟩ trivial
    | start | pause | resume | wsStateChange | restTimer | pollSucceeds | pollFails | graceTimer
    | wsMessage | sseMessage => exact absurd hclears (by simp [Clears])
  · obtain ⟨values, hvalues⟩ := hf.holds
    obtain ⟨hring, htotal, -⟩ := takes_step id f hclears
    have hqueue : (f.step id action).queue = f.queue ++ f.takenIn id action := by
      -- Below the capacity nothing is overwritten, so the queue grows by what was taken in.
      have hring' : (f.step id action).ingest.ringBuffer =
        f.ingest.ringBuffer.pushMany (f.takenIn id action) := hring
      rw [Below, hring'] at hbelow
      rw [queue, hring', RingBuffer.toArray_pushMany hvalues hbelow]
      rfl
    have hdrained : (f.step id action).drained = f.drained := by
      cases action with
      | drain => exact absurd trivial hclears
      | _ => rfl
    have hout : (f.step id action).drained ++ (f.step id action).queue =
        (f.drained ++ f.queue) ++ f.takenIn id action := by
      rw [hqueue, hdrained, List.append_assoc]
    rw [← takesNew_iff hid hf hclears, TakesNew,
      ← once_append_iff ho.nodup ho.mem_iff ho.counted (mem_deliveries_of_takenIn id f action)]
    constructor
    · exact fun ho' => ⟨hout ▸ ho'.nodup, hout ▸ ho'.mem_iff, htotal.symm.trans ho'.counted⟩
    · rintro ⟨hnodup, hmem, hcounted⟩
      exact ⟨hout ▸ hnodup, hout ▸ hmem, htotal.trans hcounted⟩

/-- In a run that keeps the queue below its capacity, every event delivered is drained or waits,
once, and is counted once, if and only if every delivery fits. -/
theorem feed_once_iff {id : Event → JSString} (hid : Function.Injective id)
    (config : EventIngestConfig) (now : ℤ) (wsState : WsState) {actions : List (Action Event)}
    (hbelow : Lib.Always (step id) Below (new Event config now wsState) actions) :
    Lib.Always (step id) Once (new Event config now wsState) actions ↔
      Lib.Allowed (step id) (Fits id) (new Event config now wsState) actions := by
  have hgrounded : (new Event config now wsState).Grounded id :=
    ⟨⟨[], RingBuffer.holds_new _⟩, fun last h => absurd h (by simp [new, EventIngest.new])⟩
  have honce : (new Event config now wsState).Once := ⟨List.nodup_nil, fun _ => Iff.rfl, rfl⟩
  exact Lib.always_iff_allowed_within (I := Grounded id) (P := Once)
    (fun _ action hf _ _ => grounded_step id hf action)
    (fun _ action hf ho hb => once_step_iff hid hf ho action hb) hgrounded honce hbelow

/-- Two events by WebSocket, the second with the greater ID or the smaller. -/
def twoEvents (first second : JSString) : List (Action JSString) :=
  [.start 0, .wsMessage (some first), .wsMessage (some second), .drain]

/-- The feed of a page whose socket is connected; an event is its ID. -/
def page : Feed JSString := new JSString ⟨5000, 3, 500⟩ 0 .connected

lemma below_twoEvents (first second : JSString)
    (hstep : ∀ n ≤ 4,
      (((twoEvents first second).take n).foldl (step fun event => event) page).Below) :
    Lib.Always (step fun event => event) Below page (twoEvents first second) :=
  ⟨hstep 0 (by decide), hstep 1 (by decide), hstep 2 (by decide), hstep 3 (by decide),
    hstep 4 (by decide)⟩

theorem feed_once_iff_ascending :
    Lib.Always (step fun event => event) Once page (twoEvents [97] [98]) ↔
      Lib.Allowed (step fun event => event) (Fits fun event => event) page (twoEvents [97] [98]) :=
  feed_once_iff (fun _ _ h => h) _ _ _ (below_twoEvents _ _ (by decide))

/-- The event with the smaller ID is never drained. -/
theorem event_lost :
    Lib.Always (step fun event => event) Below page (twoEvents [98] [97]) ∧
      ¬ Lib.Always (step fun event => event) Once page (twoEvents [98] [97]) := by
  refine ⟨below_twoEvents _ _ (by decide), ?_⟩
  rintro ⟨-, -, -, -, honce⟩
  have hdelivered := (honce.mem_iff [97]).mpr (by decide)
  exact absurd hdelivered (by decide)

end Runs

end Feed

end Paryty.Frontend

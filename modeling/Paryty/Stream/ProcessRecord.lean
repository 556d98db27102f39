import Paryty.Stream.Consumer
import Mathlib.Data.List.Range

/-!
# What becomes of one record

`processRecord` of `cluster/internal/stream/consumer.go`: calls of the handler with backoffs
between them, then the dead-letter topic.

* `Surroundings` is all that one run of the function meets: the result of every call, whether
  the consumer drains, whether the context is done, the result of the publish.
* `processRecord` is the list of what the function does. It has no result of its own, so what
  became of the record is read off its actions.
* `disposed_processRecord`: at most one call more than there are retries, nothing after a call
  that succeeds, otherwise one attempt to publish, if there is a producer for it.
-/

namespace Paryty.Stream

/-- `defaultRetryBase`, in nanoseconds. -/
def defaultRetryBase : Int64 := 100000000

/-- `retryBackoff`. A `time.Duration` wraps around. -/
def retryBackoff : (attempt : ℕ) → Int64
  | 0 => defaultRetryBase
  | attempt + 1 => retryBackoff attempt * 4

/-- The record that `publishToDLQ` builds. Its headers are its own. -/
structure DeadLetter where
  topic : String
  key : String
  value : List UInt8
  headers : List (String × String)
deriving DecidableEq

/-- The two ways to dispatch a record. -/
inductive Handler
  | recordHandler (record : Record)
  | handler (key : String) (value : List UInt8)
deriving DecidableEq

/-- What `processRecord` does. A call and a publish carry the error they return. -/
inductive Action
  | backoff (duration : Int64)
  | call (handler : Handler) (err : Option String)
  | produceSync (letter : DeadLetter) (err : Option String)
  /-- `handlerErr.Error()` on the error that is nil. -/
  | nilError
deriving DecidableEq

/-- What one run of `processRecord` meets. -/
structure Surroundings where
  /-- The error of the call of each attempt. -/
  handler : ℕ → Option String
  /-- Whether the consumer drains when the attempt begins. -/
  draining : ℕ → Bool
  /-- Whether the backoff before the attempt ends with the context. -/
  cancelled : ℕ → Bool
  /-- The error of the publish to the dead-letter topic. -/
  publishing : Option String
  /-- The time of that publish, as `time.RFC3339` text. -/
  now : String

/-- `Consumer`, the fields that `processRecord` reads. -/
structure Consumer where
  /-- `recordHandler` is set. -/
  hasRecordHandler : Bool := false
  maxRetries : ℕ := defaultMaxRetries
  /-- `dlqProducer` is set. -/
  hasDLQProducer : Bool
  dlqTopic : String
deriving DecidableEq

namespace Consumer

/-- The record handler takes precedence. -/
def dispatch (c : Consumer) (record : Record) : Handler :=
  if c.hasRecordHandler then .recordHandler record else .handler record.key record.value

/-- The dead letter of a record whose handler failed with the error. The headers of the record are
not in it. -/
def deadLetter (c : Consumer) (e : Surroundings) (record : Record) (handlerErr : String) :
    DeadLetter where
  topic := c.dlqTopic
  key := record.key
  value := record.value
  headers :=
    [ ("dlq-original-topic", record.topic),
      ("dlq-original-partition", toString record.partition),
      ("dlq-original-offset", toString record.offset),
      ("dlq-error", handlerErr),
      ("dlq-timestamp", e.now) ]

/-- `publishToDLQ`. Without a producer the message is dropped. The publish has a context of its
own, and its error is only logged. -/
def publishToDLQ (c : Consumer) (e : Surroundings) (record : Record)
    (handlerErr : Option String) : List Action :=
  if ¬ c.hasDLQProducer then []
  else
    match handlerErr with
    | none => [.nilError]
    | some err => [.produceSync (c.deadLetter e record err) e.publishing]

/-- The backoff before an attempt, unless it is the first. -/
def pause (attempt : ℕ) : List Action :=
  if 0 < attempt then [.backoff (retryBackoff (attempt - 1))] else []

/-- The loop of `processRecord`, with `remaining` attempts to go. -/
def attempts (c : Consumer) (e : Surroundings) (record : Record) :
    (remaining attempt : ℕ) → (lastErr : Option String) → List Action
  | 0, _, lastErr => c.publishToDLQ e record lastErr
  | remaining + 1, attempt, lastErr =>
    if 0 < attempt ∧ e.draining attempt then c.publishToDLQ e record lastErr
    else if 0 < attempt ∧ e.cancelled attempt then
      pause attempt ++ c.publishToDLQ e record lastErr
    else
      pause attempt ++ .call (c.dispatch record) (e.handler attempt) ::
        match e.handler attempt with
        | none => []
        | some err => attempts c e record remaining (attempt + 1) (some err)

/-- `processRecord`. -/
def processRecord (c : Consumer) (e : Surroundings) (record : Record) : List Action :=
  c.attempts e record (c.maxRetries + 1) 0 none

end Consumer

/-! ## What the actions say about the record -/

/-- The results of the calls of the handler. -/
def results (actions : List Action) : List (Option String) :=
  actions.filterMap fun
    | .call _ err => some err
    | _ => none

/-- The attempts to publish to the dead-letter topic, with their results. -/
def letters (actions : List Action) : List (DeadLetter × Option String) :=
  actions.filterMap fun
    | .produceSync letter err => some (letter, err)
    | _ => none

/-- A call of the handler succeeded. -/
def Succeeds (actions : List Action) : Prop := none ∈ results actions

/-- The dead-letter topic has accepted the record. -/
def DeadLettered (actions : List Action) : Prop := ∃ letter, (letter, none) ∈ letters actions

instance (actions : List Action) : Decidable (Succeeds actions) :=
  inferInstanceAs (Decidable (none ∈ results actions))

/-- What becomes of a record. -/
structure Disposed (c : Consumer) (e : Surroundings) (record : Record) (actions : List Action) :
    Prop where
  calls_le : (results actions).length ≤ c.maxRetries + 1
  /-- Each attempt calls the handler once. -/
  in_order : results actions = (List.range (results actions).length).map e.handler
  /-- The first success is the last thing that happens. -/
  stops : ∀ n : ℕ, (results actions)[n]? = some none → n + 1 = (results actions).length ∧
    actions.getLast? = some (.call (c.dispatch record) none) ∧ letters actions = []
  /-- Only draining and the end of the context keep it from using all attempts. -/
  gives_up : ¬ Succeeds actions → (results actions).length = c.maxRetries + 1 ∨
    e.draining (results actions).length = true ∨ e.cancelled (results actions).length = true
  /-- Without a success there is one attempt to publish, if there is a producer. -/
  publishes : ¬ Succeeds actions → ∃ err, (results actions).getLast? = some (some err) ∧
    letters actions =
      if c.hasDLQProducer then [(c.deadLetter e record err, e.publishing)] else []
  exclusive : ¬ (Succeeds actions ∧ letters actions ≠ [])
  /-- The record is lost without a producer, or if its one attempt fails. -/
  lost_iff : ¬ Succeeds actions →
    (¬ DeadLettered actions ↔ c.hasDLQProducer = false ∨ e.publishing ≠ none)
  no_panic : .nilError ∉ actions

/-! ## The loop -/

section Loop

variable {c : Consumer} {e : Surroundings} {record : Record}

@[simp] lemma results_pause_append (attempt : ℕ) (actions : List Action) :
    results (Consumer.pause attempt ++ actions) = results actions := by
  unfold Consumer.pause
  split
  all_goals rfl

@[simp] lemma letters_pause_append (attempt : ℕ) (actions : List Action) :
    letters (Consumer.pause attempt ++ actions) = letters actions := by
  unfold Consumer.pause
  split
  all_goals rfl

@[simp] lemma nilError_notMem_pause (attempt : ℕ) : .nilError ∉ Consumer.pause attempt := by
  unfold Consumer.pause
  split
  all_goals simp

@[simp] lemma results_nil : results [] = [] := rfl

@[simp] lemma letters_nil : letters [] = [] := rfl

@[simp] lemma results_call (handler : Handler) (err : Option String) (actions : List Action) :
    results (.call handler err :: actions) = err :: results actions := rfl

@[simp] lemma letters_call (handler : Handler) (err : Option String) (actions : List Action) :
    letters (.call handler err :: actions) = letters actions := rfl

@[simp] lemma results_publishToDLQ (handlerErr : Option String) :
    results (c.publishToDLQ e record handlerErr) = [] := by
  unfold Consumer.publishToDLQ
  split
  case isTrue => rfl
  case isFalse =>
    cases handlerErr
    all_goals rfl

lemma letters_publishToDLQ (err : String) :
    letters (c.publishToDLQ e record (some err)) =
      if c.hasDLQProducer then [(c.deadLetter e record err, e.publishing)] else [] := by
  unfold Consumer.publishToDLQ
  cases c.hasDLQProducer
  all_goals rfl

lemma nilError_notMem_publishToDLQ (err : String) :
    .nilError ∉ c.publishToDLQ e record (some err) := by
  unfold Consumer.publishToDLQ
  split
  case isTrue => simp
  case isFalse => simp

/-- How the loop ends, from attempt `first` on: after `n` calls that failed comes one that
succeeds, or the dead letter. -/
inductive Ends (c : Consumer) (e : Surroundings) (record : Record) (remaining first : ℕ)
    (lastErr : Option String) (actions : List Action) : Prop
  | handled (n : ℕ) (lt : n < remaining) (failed : ∀ m < n, e.handler (first + m) ≠ none)
      (succeeded : e.handler (first + n) = none)
      (calls : results actions = (List.range (n + 1)).map (fun m => e.handler (first + m)))
      (last : actions.getLast? = some (.call (c.dispatch record) none))
      (silent : letters actions = [])
  | givenUp (n : ℕ) (le : n ≤ remaining) (failed : ∀ m < n, e.handler (first + m) ≠ none)
      (calls : results actions = (List.range n).map (fun m => e.handler (first + m)))
      (early : n < remaining → e.draining (first + n) = true ∨ e.cancelled (first + n) = true)
      (err : String) (reported : (lastErr :: results actions).getLast? = some (some err))
      (published : letters actions =
        if c.hasDLQProducer then [(c.deadLetter e record err, e.publishing)] else [])

lemma ends_publishToDLQ {remaining first : ℕ} {err : String} {actions : List Action}
    (hresults : results actions = [])
    (hletters : letters actions = letters (c.publishToDLQ e record (some err)))
    (early : 0 < remaining → e.draining first = true ∨ e.cancelled first = true) :
    Ends c e record remaining first (some err) actions :=
  .givenUp 0 (Nat.zero_le _) (by simp) (by simp [hresults]) early err (by simp [hresults])
    (hletters.trans (letters_publishToDLQ err))

lemma ends_cons {remaining first : ℕ} {lastErr : Option String} {err : String}
    {handler : Handler} {actions : List Action} (herr : e.handler first = some err)
    (h : Ends c e record remaining (first + 1) (some err) actions) :
    Ends c e record (remaining + 1) first lastErr
      (Consumer.pause first ++ .call handler (some err) :: actions) := by
  -- The rest of the loop counts its calls from the next one on.
  have hfailed {n : ℕ} (failed : ∀ m < n, e.handler (first + 1 + m) ≠ none) :
      ∀ m < n + 1, e.handler (first + m) ≠ none := by
    intro m hm
    cases m with
    | zero => simp [herr]
    | succ m =>
      rw [show first + (m + 1) = first + 1 + m by omega]
      exact failed m (by omega)
  have hcalls {n : ℕ} : some err :: (List.range n).map (fun m => e.handler (first + 1 + m)) =
      (List.range (n + 1)).map (fun m => e.handler (first + m)) := by
    rw [List.range_succ_eq_map, List.map_cons, List.map_map, Nat.add_zero first, herr]
    congr 1
    refine List.map_congr_left fun m _ => ?_
    rw [Function.comp_apply, show first + m.succ = first + 1 + m by omega]
  cases h with
  | handled n lt failed succeeded calls last silent =>
    refine .handled (n + 1) (by omega) (hfailed failed) ?_ ?_ ?_ (by simpa using silent)
    · rw [show first + (n + 1) = first + 1 + n by omega]
      exact succeeded
    · rw [results_pause_append, results_call, calls, hcalls]
    · have hne : actions ≠ [] := by
        rintro rfl
        simp at last
      rw [List.getLast?_append_of_ne_nil _ (List.cons_ne_nil _ _), List.getLast?_cons, last]
      rfl
  | givenUp n le failed calls early err' reported published =>
    refine .givenUp (n + 1) (by omega) (hfailed failed) ?_ ?_ err' ?_ (by simpa using published)
    · rw [results_pause_append, results_call, calls, hcalls]
    · intro hlt
      rw [show first + (n + 1) = first + 1 + n by omega]
      exact early (by omega)
    · rw [results_pause_append, results_call, List.getLast?_cons, reported]
      rfl

/-- The loop ends in one of the two ways: at the first attempt nothing keeps it from the call,
and from then on there is an error to report. -/
lemma ends_attempts (remaining first : ℕ) (lastErr : Option String)
    (h : lastErr ≠ none ∨ first = 0 ∧ 0 < remaining) :
    Ends c e record remaining first lastErr (c.attempts e record remaining first lastErr) ∧
      .nilError ∉ c.attempts e record remaining first lastErr := by
  induction remaining generalizing first lastErr with
  | zero =>
    obtain ⟨err, rfl⟩ := Option.ne_none_iff_exists'.mp (h.resolve_right (by omega))
    exact ⟨ends_publishToDLQ (results_publishToDLQ _) rfl (by omega),
      nilError_notMem_publishToDLQ err⟩
  | succ remaining ih =>
    have hreport (hfirst : 0 < first) : ∃ err, lastErr = some err :=
      Option.ne_none_iff_exists'.mp (h.resolve_right (by omega))
    unfold Consumer.attempts
    split
    case isTrue hdraining =>
      obtain ⟨err, rfl⟩ := hreport hdraining.1
      exact ⟨ends_publishToDLQ (results_publishToDLQ _) rfl (fun _ => .inl hdraining.2),
        nilError_notMem_publishToDLQ err⟩
    case isFalse =>
      split
      case isTrue hcancelled =>
        obtain ⟨err, rfl⟩ := hreport hcancelled.1
        exact ⟨ends_publishToDLQ (by simp) (by simp) (fun _ => .inr hcancelled.2),
          by simp [nilError_notMem_publishToDLQ]⟩
      case isFalse =>
        cases hresult : e.handler first with
        | none =>
          refine ⟨.handled 0 (by omega) (by simp) hresult ?_ ?_ ?_, by simp⟩
          · simp [hresult]
          · simp
          · simp
        | some err =>
          have hrest := ih (first + 1) (some err) (.inl (by simp))
          exact ⟨ends_cons hresult hrest.1, by simp [hrest.2]⟩

lemma ends_processRecord : Ends c e record (c.maxRetries + 1) 0 none (c.processRecord e record) ∧
    .nilError ∉ c.processRecord e record :=
  ends_attempts _ _ _ (.inr ⟨rfl, Nat.succ_pos _⟩)

end Loop

/-! ## The record -/

section Disposal

variable {c : Consumer} {e : Surroundings} {record : Record} {actions : List Action}

lemma not_succeeds_of_failed {n : ℕ} (failed : ∀ m < n, e.handler (0 + m) ≠ none)
    (calls : results actions = (List.range n).map (fun m => e.handler (0 + m))) :
    ¬ Succeeds actions := by
  intro hmem
  rw [Succeeds, calls, List.mem_map] at hmem
  obtain ⟨m, hm, hnone⟩ := hmem
  exact failed m (List.mem_range.mp hm) hnone

lemma eq_of_getElem?_results {n i : ℕ} (failed : ∀ m < n, e.handler (0 + m) ≠ none)
    (calls : results actions = (List.range (n + 1)).map (fun m => e.handler (0 + m)))
    (h : (results actions)[i]? = some none) : i = n := by
  rw [calls, List.getElem?_map, Option.map_eq_some_iff] at h
  obtain ⟨m, hm, hnone⟩ := h
  obtain ⟨hi, rfl⟩ := List.getElem?_eq_some_iff.mp hm
  rw [List.getElem_range] at hnone
  rw [List.length_range] at hi
  have hle : n ≤ i := not_lt.mp fun hlt => failed i hlt hnone
  omega

lemma deadLettered_iff {err : String} (h : letters actions =
    if c.hasDLQProducer then [(c.deadLetter e record err, e.publishing)] else []) :
    DeadLettered actions ↔ c.hasDLQProducer = true ∧ e.publishing = none := by
  rw [DeadLettered, h]
  cases c.hasDLQProducer with
  | false => simp
  | true => simp [eq_comm]

lemma Ends.disposed (h : Ends c e record (c.maxRetries + 1) 0 none actions)
    (hpanic : .nilError ∉ actions) : Disposed c e record actions := by
  cases h with
  | handled n lt failed succeeded calls last silent =>
    have hlen : (results actions).length = n + 1 := by simp [calls]
    have hsucceeds : Succeeds actions := by
      rw [Succeeds, calls, List.mem_map]
      exact ⟨n, by simp, succeeded⟩
    exact {
      calls_le := by omega
      in_order := by
        rw [hlen, calls]
        simp only [Nat.zero_add]
      stops := fun i hi => ⟨by rw [hlen, eq_of_getElem?_results failed calls hi], last, silent⟩
      gives_up := fun hfails => absurd hsucceeds hfails
      publishes := fun hfails => absurd hsucceeds hfails
      exclusive := fun hboth => hboth.2 silent
      lost_iff := fun hfails => absurd hsucceeds hfails
      no_panic := hpanic }
  | givenUp n le failed calls early err reported published =>
    have hlen : (results actions).length = n := by simp [calls]
    have hfails : ¬ Succeeds actions := not_succeeds_of_failed failed calls
    have hlast : (results actions).getLast? = some (some err) := by
      -- The error reported is not the nil one the loop starts with.
      rw [List.getLast?_cons] at reported
      cases hresults : (results actions).getLast? with
      | none => simp [hresults] at reported
      | some last => simpa [hresults] using reported
    exact {
      calls_le := by omega
      in_order := by
        rw [hlen, calls]
        simp only [Nat.zero_add]
      stops := fun i hi => absurd (List.mem_of_getElem? hi) hfails
      gives_up := by
        intro _
        rw [hlen]
        rcases le.lt_or_eq with hlt | heq
        · exact .inr (by simpa using early hlt)
        · exact .inl heq
      publishes := fun _ => ⟨err, hlast, published⟩
      exclusive := fun hboth => hfails hboth.1
      lost_iff := by
        intro _
        rw [deadLettered_iff published]
        cases c.hasDLQProducer with
        | false => simp
        | true => simp
      no_panic := hpanic }

/-- What becomes of a record, for all results of the handler and of the publish, and whenever
the consumer drains or the context is cancelled. -/
theorem disposed_processRecord (c : Consumer) (e : Surroundings) (record : Record) :
    Disposed c e record (c.processRecord e record) :=
  ends_processRecord.1.disposed ends_processRecord.2

end Disposal

/-- A record without a payload, with a header. -/
def refusedRecord : Record := ⟨"paryty.metrics", 0, 7, "acme:web-1", [], [("trace", [49])]⟩

/-- The handler fails on every attempt, nothing is cancelled, and the publish has the given
result. -/
def refusing (publishing : Option String) : Surroundings where
  handler := fun _ => some "bad payload"
  draining := fun _ => false
  cancelled := fun _ => false
  publishing := publishing
  now := "2026-01-01T00:00:00Z"

/-- Without a DLQ producer a record is given up without a success and without a publish, although
nothing is cancelled, and so it is when the publish fails. -/
theorem processRecord_loses_record :
    (¬ Succeeds (Consumer.processRecord ⟨false, 3, false, ""⟩ (refusing none) refusedRecord) ∧
      letters (Consumer.processRecord ⟨false, 3, false, ""⟩ (refusing none) refusedRecord) = []) ∧
    ¬ Succeeds (Consumer.processRecord ⟨false, 3, true, "dlq"⟩ (refusing (some "timeout"))
      refusedRecord) ∧
    ¬ DeadLettered (Consumer.processRecord ⟨false, 3, true, "dlq"⟩ (refusing (some "timeout"))
      refusedRecord) := by
  refine ⟨by decide, by decide, ?_⟩
  rintro ⟨letter, hletter⟩
  have hletters : (letters (Consumer.processRecord ⟨false, 3, true, "dlq"⟩
      (refusing (some "timeout")) refusedRecord)).map Prod.snd = [some "timeout"] := by decide
  have hmem := List.mem_map_of_mem (f := Prod.snd) hletter
  rw [hletters] at hmem
  simp at hmem

end Paryty.Stream

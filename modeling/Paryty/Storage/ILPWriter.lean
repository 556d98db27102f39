import Paryty.Lib.Threads
import Paryty.Storage.WarmTier

/-!
# The ILP writer

`ILPWriter.WriteMetricBatch` of `cluster/internal/storage/warm/ilp_writer.go` puts one line for each
metric of a batch into the buffer of an `ILPSender` (`ilp.go`) and then flushes it. All callers, and
a ticker that flushes, share the buffer and the connection: whoever flushes takes all lines from the
buffer and writes them.

* `Thread.advance` is what a thread does under one lock, or one use of the connection.
* `Reported`: a batch whose call has returned nil, without calling the fallback writer, has each of
  its lines in the socket exactly once.
* `reported_of_careful`: that holds in every run in which a write drops no line of another call that
  may still return nil, no such line is written again after half a write, and a call returns nil
  only when nobody else is still writing a line of it.
* `silent_losses`: three runs in which it does not.

A call is known by the number of its thread, and a line by its call and its place in the batch.
-/

namespace Paryty.Storage.ILP

/-! ## Data -/

/-- `defaultBufLimit`, in bytes. -/
def defaultBufLimit : ℕ := 8 * 1024

/-- `defaultILPBufSize`, in lines. -/
def defaultILPBufSize : ℕ := 100

/-- The options of a writer. -/
structure Config (V : Type*) where
  bufSize : ℕ := defaultILPBufSize
  /-- Whether there is a `fallbackFn`. -/
  fallbackFn : Bool := true
  /-- The line of a metric, with the tags and the fields of its table, for a tenant. -/
  formatILPLine : MetricTable → String → Metric V → String

/-- A line in the buffer. -/
structure Line where
  call : ℕ
  index : ℕ
  text : String
deriving DecidableEq

/-- What a thread has been asked to do; `flush` is also what the ticker does. -/
inductive Task (V : Type*)
  | writeMetricBatch (batch : MetricBatch V) (tenant : String)
  | flush
  | close
deriving DecidableEq

variable {V : Type*}

/-- The lines of a batch, in the order of `sendBatchLines`. -/
def Task.lines (cfg : Config V) : Task V → List String
  | .writeMetricBatch batch tenant => MetricTable.all.flatMap fun table =>
      (batch.metrics table).map (cfg.formatILPLine table tenant)
  | _ => []

/-- For what lines are taken from the buffer. -/
inductive Why
  /-- The buffer has reached `bufLimit` with the line of this number. -/
  | sendMetric (i : ℕ)
  /-- The lines have reached `bufSize` with the line of this number. -/
  | autoFlush (i : ℕ)
  /-- All lines have been sent; or the flush of the ticker, or of `Close`. -/
  | final
  /-- `ILPSender.Close`. -/
  | close
deriving DecidableEq

/-- How far `writeToConn` is; a failed write has written this many whole lines. -/
inductive Attempt
  | write
  | reconnect (written : ℕ)
  | rewrite (written : ℕ)
deriving DecidableEq

/-- Where a thread stands. -/
inductive Phase
  | start
  /-- `SendMetric` of the line of this number, or all have been sent. -/
  | sendMetric (i : ℕ)
  /-- `SendMetric` has returned; `ok` without an error. -/
  | sent (i : ℕ) (ok : Bool)
  /-- `ILPSender.Flush` takes the buffer. -/
  | takeBuffer (why : Why)
  | writeToConn (why : Why) (data : List Line) (attempt : Attempt)
  /-- `ILPSender.Flush` has returned. -/
  | flushed (why : Why) (ok : Bool)
  | handleBatchError
  /-- The end of `ILPSender.Close`. -/
  | closeConn
  | returned (err fellBack : Bool)
  /-- `Close` has returned, with an error or without. -/
  | closed
deriving DecidableEq

/-- A thread. -/
structure Thread (V : Type*) where
  task : Task V
  phase : Phase := .start
deriving DecidableEq

/-- What the writer, its sender and the other side share. -/
structure Shared where
  closed : Bool := false
  /-- Lines since the last flush. -/
  lineCount : ℕ := 0
  buf : List Line := []
  /-- Whether there is a connection. -/
  connected : Bool := true
  /-- The thread that holds the lock of the connection. -/
  connMu : Option ℕ := none
  /-- All lines ever written to a connection. -/
  socket : List Line := []
deriving DecidableEq

/-- What comes of a write or of a dial; a failed write has written some whole lines. -/
inductive Outcome
  | ok
  | failed (lines : ℕ)
deriving DecidableEq

/-! ## Steps -/

/-- The bytes in the buffer. -/
def bufLen (buf : List Line) : ℕ := (buf.map fun l => l.text.utf8ByteSize).sum

/-- Where a thread goes on when the write is over. -/
def Why.done (ok : Bool) : Why → Phase
  | .sendMetric i => .sent i ok
  | .close => .closeConn
  | why => .flushed why ok

/-- The whole lines that a failed write has written: not all of them. -/
def wholeLines (data : List Line) (lines : ℕ) : ℕ := min lines (data.length - 1)

/-- One step of `writeToConn`. -/
def Shared.writeToConn (s : Shared) (c : ℕ) (why : Why) (data : List Line) :
    Attempt → Outcome → Shared × Phase
  | .write, outcome =>
    -- Another thread holds the lock.
    if s.connMu.isSome then (s, .writeToConn why data .write)
    else if !s.connected then (s, why.done false)
    else match outcome with
      | .ok => ({ s with socket := s.socket ++ data }, why.done true)
      | .failed lines =>
        ({ s with connMu := some c, socket := s.socket ++ data.take (wholeLines data lines) },
          .writeToConn why data (.reconnect (wholeLines data lines)))
  | .reconnect written, .ok =>
    ({ s with connected := true }, .writeToConn why data (.rewrite written))
  | .reconnect _, .failed _ => ({ s with connected := false, connMu := none }, why.done false)
  | .rewrite _, .ok => ({ s with connMu := none, socket := s.socket ++ data }, why.done true)
  | .rewrite _, .failed lines =>
    ({ s with connMu := none, socket := s.socket ++ data.take (wholeLines data lines) },
      why.done false)

/-- What follows the flush of a thread. -/
def Task.afterFlush : Task V → Why → Bool → Phase
  | .flush, _, ok => .returned (!ok) false
  | .close, _, _ => .takeBuffer .close
  | .writeMetricBatch _ _, .autoFlush i, true => .sendMetric (i + 1)
  | .writeMetricBatch _ _, .final, true => .returned false false
  | .writeMetricBatch _ _, _, _ => .handleBatchError

/-- One step of a thread. -/
def Thread.advance (cfg : Config V) (c : ℕ) (t : Thread V) (s : Shared) (outcome : Outcome) :
    Shared × Phase :=
  match t.phase with
  | .start =>
    match t.task with
    | .writeMetricBatch _ _ => (s, if s.closed then .returned true false else .sendMetric 0)
    | .flush => (s, .takeBuffer .final)
    | .close =>
      if s.closed then (s, .closed)
      else ({ s with closed := true }, .takeBuffer .final)
  | .sendMetric i =>
    match (t.task.lines cfg)[i]? with
    | none => (s, .takeBuffer .final)
    | some text =>
      let buf := s.buf ++ [⟨c, i, text⟩]
      if defaultBufLimit ≤ bufLen buf then
        ({ s with buf := [] }, .writeToConn (.sendMetric i) buf .write)
      else ({ s with buf }, .sent i true)
  | .sent i ok =>
    if ok then
      ({ s with lineCount := s.lineCount + 1 },
        if cfg.bufSize ≤ s.lineCount + 1 then .takeBuffer (.autoFlush i) else .sendMetric (i + 1))
    else (s, .handleBatchError)
  | .takeBuffer why =>
    if s.buf = [] then (s, why.done true)
    else ({ s with buf := [] }, .writeToConn why s.buf .write)
  | .writeToConn why data attempt => s.writeToConn c why data attempt outcome
  | .flushed why ok => ({ s with lineCount := 0 }, t.task.afterFlush why ok)
  | .handleBatchError =>
    (s, .returned (!(cfg.fallbackFn && outcome = .ok)) cfg.fallbackFn)
  | .closeConn =>
    if s.connMu.isSome then (s, .closeConn)
    else ({ s with connected := false }, .closed)
  | .returned err fellBack => (s, .returned err fellBack)
  | .closed => (s, .closed)

/-- The thread after its step. -/
def Thread.after (cfg : Config V) (c : ℕ) (t : Thread V) (s : Shared) (outcome : Outcome) :
    Thread V :=
  { t with phase := (t.advance cfg c s outcome).2 }

/-- The writer and the threads that use it. -/
abbrev State (V : Type*) := Lib.Threads Shared (Thread V)

/-- What happens. -/
inductive Event (V : Type*)
  | call (task : Task V)
  | step (c : ℕ) (outcome : Outcome)

/-- One event. -/
def State.next (cfg : Config V) (s : State V) : Event V → State V
  | .call task => s.spawn ⟨task, .start⟩
  | .step c outcome => s.act (fun c t shared =>
      ((t.advance cfg c shared outcome).1, t.after cfg c shared outcome)) c

/-! ## What is reported -/

/-- A call that has returned nil without calling the fallback writer has written every line of its
batch, once. -/
def Reported (cfg : Config V) (s : State V) : Prop :=
  ∀ (c : ℕ) (t : Thread V), s.threads[c]? = some t → t.phase = .returned false false →
    ∀ (i : ℕ) (text : String), (t.task.lines cfg)[i]? = some text →
      s.shared.socket.count ⟨c, i, text⟩ = 1

/-- The call is not going to return nil, or only after the fallback writer. -/
def Phase.failed : Phase → Bool
  | .sent _ ok | .flushed _ ok => !ok
  | .handleBatchError | .closeConn | .closed => true
  | .returned err fellBack => err || fellBack
  | _ => false

/-- Nobody is told that lines of this thread are written. -/
def Thread.failed (t : Thread V) : Bool :=
  match t.task with
  | .writeMetricBatch _ _ => t.phase.failed
  | _ => true

/-- The call of this number has failed. -/
def State.Failed (s : State V) (c : ℕ) : Prop := (s.threads[c]?).any Thread.failed = true

/-- The lines that the first write has written. -/
def Attempt.written : Attempt → ℕ
  | .write => 0
  | .reconnect written | .rewrite written => written

/-- The lines that a write has been given and that are not in the socket yet. -/
def Phase.pending : Phase → List Line
  | .writeToConn _ data attempt => data.drop attempt.written
  | _ => []

/-- The lines that a step of a write drops, or writes once more. -/
def Shared.spoilt (s : Shared) (data : List Line) : Attempt → Outcome → List Line
  | .write, _ => if s.connMu.isSome || s.connected then [] else data
  | .reconnect _, .ok => []
  | .reconnect written, .failed _ => data.drop written
  | .rewrite written, .ok => data.take written
  | .rewrite written, .failed lines =>
    data.take (min written (wholeLines data lines)) ++
      data.drop (max written (wholeLines data lines))

/-- Writes spoil only lines of calls that have failed or fail with them, and a call returns nil only
when no line of it is still being written. -/
def Careful (s : State V) : Event V → Prop
  | .call _ => True
  | .step c outcome =>
    match s.threads[c]? with
    | some ⟨_, .writeToConn _ data (.rewrite written)⟩ =>
      ∀ l ∈ s.shared.spoilt data (.rewrite written) outcome,
        s.Failed l.call ∨ (l.call = c ∧ outcome ≠ .ok)
    | some ⟨_, .writeToConn _ data attempt⟩ =>
      ∀ l ∈ s.shared.spoilt data attempt outcome, s.Failed l.call ∨ l.call = c
    | some ⟨.writeMetricBatch _ _, .flushed .final true⟩ =>
      ∀ t ∈ s.threads, ∀ l ∈ t.phase.pending, l.call ≠ c
    | _ => True

/-! ## Where the lines are -/

variable {cfg : Config V} {s s' : Shared} {t : Thread V} {c : ℕ} {l : Line} {outcome : Outcome}
  {data : List Line} {why : Why} {attempt : Attempt} {phase' : Phase} {ok : Bool}

/-- The places of a line that one thread can see: the buffer, its write, the socket. -/
def here (l : Line) (s : Shared) (phase : Phase) : ℕ :=
  s.buf.count l + phase.pending.count l + s.socket.count l

@[simp] lemma pending_writeToConn :
    (Phase.writeToConn why data attempt).pending = data.drop attempt.written := rfl

@[simp] lemma pending_done (ok : Bool) : (why.done ok).pending = [] := by
  cases why <;> rfl

lemma failed_done : (why.done false).failed = true := by
  cases why <;> rfl

lemma count_take_add_drop (l : Line) (data : List Line) (n : ℕ) :
    (data.take n).count l + (data.drop n).count l = data.count l := by
  rw [← List.count_append, List.take_append_drop]

lemma here_writeToConn (hspoilt : l ∉ s.spoilt data attempt outcome) :
    here l (s.writeToConn c why data attempt outcome).1
        (s.writeToConn c why data attempt outcome).2 =
      here l s (.writeToConn why data attempt) := by
  unfold here
  cases attempt with
  | write =>
    unfold Shared.writeToConn
    dsimp only
    cases hlock : s.connMu.isSome with
    | true => rfl
    | false =>
      cases hconn : s.connected with
      | false =>
        have hnot : l ∉ data := by simpa [Shared.spoilt, hlock, hconn] using hspoilt
        simp [Attempt.written, List.count_eq_zero.mpr hnot]
      | true =>
        cases outcome with
        | ok =>
          simp only [Bool.false_eq_true, if_false, Bool.not_true, pending_done, List.count_append,
            pending_writeToConn, Attempt.written, List.drop_zero, List.count_nil]
          omega
        | failed lines =>
          have hparts := count_take_add_drop l data (wholeLines data lines)
          simp only [Bool.false_eq_true, if_false, Bool.not_true, List.count_append,
            pending_writeToConn, Attempt.written, List.drop_zero]
          omega
  | reconnect written =>
    cases outcome with
    | ok => rfl
    | failed lines =>
      have hnone : (data.drop written).count l = 0 := List.count_eq_zero.mpr hspoilt
      simp only [Shared.writeToConn, pending_done, pending_writeToConn, Attempt.written,
        List.count_nil, hnone]
  | rewrite written =>
    cases outcome with
    | ok =>
      -- The lines of the first write are written once more.
      have hnone : (data.take written).count l = 0 := List.count_eq_zero.mpr hspoilt
      have hparts := count_take_add_drop l data written
      simp only [Shared.writeToConn, pending_done, pending_writeToConn, Attempt.written,
        List.count_nil, List.count_append]
      omega
    | failed lines =>
      -- The two writes have written two prefixes: the shorter one twice, and the rest is lost.
      obtain ⟨htwice, hlost⟩ := not_or.mp (mt List.mem_append.mpr hspoilt)
      have hfirst := count_take_add_drop l data written
      have hsecond := count_take_add_drop l data (wholeLines data lines)
      simp only [Shared.writeToConn, pending_done, pending_writeToConn, Attempt.written,
        List.count_nil, List.count_append]
      rcases Nat.le_total written (wholeLines data lines) with hle | hle
      · rw [Nat.min_eq_left hle] at htwice
        rw [Nat.max_eq_right hle] at hlost
        have hnone := List.count_eq_zero.mpr htwice
        have hnone' := List.count_eq_zero.mpr hlost
        omega
      · rw [Nat.min_eq_right hle] at htwice
        rw [Nat.max_eq_left hle] at hlost
        have hnone := List.count_eq_zero.mpr htwice
        have hnone' := List.count_eq_zero.mpr hlost
        omega

lemma failed_of_spoilt (hspoilt : l ∈ s.spoilt data attempt outcome)
    (honce : outcome = .ok → ∀ written, attempt ≠ .rewrite written) :
    (s.writeToConn c why data attempt outcome).2.failed = true := by
  cases attempt with
  | write =>
    cases hlock : s.connMu.isSome with
    | true => simp [Shared.spoilt, hlock] at hspoilt
    | false =>
      cases hconn : s.connected with
      | true => simp [Shared.spoilt, hconn] at hspoilt
      | false => simp [Shared.writeToConn, hlock, hconn, failed_done]
  | reconnect written =>
    cases outcome with
    | ok => cases hspoilt
    | failed lines => exact failed_done
  | rewrite written =>
    cases outcome with
    | ok => exact absurd rfl (honce rfl written)
    | failed lines => exact failed_done

/-- The lines that the step of a thread drops, or writes once more. -/
def Thread.spoilt (t : Thread V) (s : Shared) (outcome : Outcome) : List Line :=
  match t.phase with
  | .writeToConn _ data attempt => s.spoilt data attempt outcome
  | _ => []

/-- The step puts this line into the buffer. -/
def Thread.Sends (cfg : Config V) (c : ℕ) (t : Thread V) (l : Line) : Prop :=
  t.phase = .sendMetric l.index ∧ l.call = c ∧ (t.task.lines cfg)[l.index]? = some l.text

instance : Decidable (t.Sends cfg c l) := by
  unfold Thread.Sends
  infer_instance

@[simp] lemma pending_afterFlush (task : Task V) (ok : Bool) :
    (task.afterFlush why ok).pending = [] := by
  cases task with
  | writeMetricBatch batch tenant => cases why <;> cases ok <;> rfl
  | flush => rfl
  | close => rfl

lemma here_advance (hspoilt : l ∉ t.spoilt s outcome) :
    here l (t.advance cfg c s outcome).1 (t.advance cfg c s outcome).2 =
      here l s t.phase + if t.Sends cfg c l then 1 else 0 := by
  obtain ⟨task, phase⟩ := t
  have hrest (hphase : phase ≠ .sendMetric l.index) : ¬ Thread.Sends cfg c ⟨task, phase⟩ l :=
    fun hsends => hphase hsends.1
  cases phase with
  | start =>
    rw [if_neg (hrest (by simp))]
    cases task with
    | writeMetricBatch batch tenant =>
      simp only [Thread.advance]
      split <;> rfl
    | flush => rfl
    | close =>
      simp only [Thread.advance]
      split <;> rfl
  | sendMetric i =>
    simp only [Thread.advance]
    cases htext : (task.lines cfg)[i]? with
    | none =>
      have hnot : ¬ Thread.Sends cfg c ⟨task, .sendMetric i⟩ l := by
        rintro ⟨hphase, -, hl⟩
        cases hphase
        rw [htext] at hl
        cases hl
      rw [if_neg hnot]
      rfl
    | some text =>
      -- The new line is this one or another.
      have hnew : ([⟨c, i, text⟩] : List Line).count l =
          if Thread.Sends cfg c ⟨task, .sendMetric i⟩ l then 1 else 0 := by
        rw [List.count_singleton]
        obtain ⟨call, index, text'⟩ := l
        simp only [Thread.Sends, beq_iff_eq, Line.mk.injEq, Phase.sendMetric.injEq]
        by_cases hindex : i = index
        · subst hindex
          rw [htext]
          simp [eq_comm]
        · simp [hindex]
      dsimp only
      split
      · simp only [here, pending_writeToConn, Attempt.written, List.drop_zero, List.count_append,
          List.count_nil, hnew]
        simp only [Phase.pending, List.count_nil]
        omega
      · simp only [here, Phase.pending, List.count_append, List.count_nil, hnew]
        omega
  | sent i ok =>
    rw [if_neg (hrest (by simp))]
    cases ok with
    | false => rfl
    | true =>
      simp only [Thread.advance, if_true]
      split <;> rfl
  | takeBuffer why =>
    rw [if_neg (hrest (by simp))]
    simp only [Thread.advance]
    split
    · simp only [here, pending_done]
      rfl
    · simp only [here, Attempt.written, List.drop_zero, Phase.pending, List.count_nil]
      omega
  | writeToConn why data attempt =>
    rw [if_neg (hrest (by simp))]
    exact here_writeToConn hspoilt
  | flushed why ok =>
    rw [if_neg (hrest (by simp))]
    simp only [Thread.advance, here, pending_afterFlush]
    rfl
  | handleBatchError =>
    rw [if_neg (hrest (by simp))]
    rfl
  | closeConn =>
    rw [if_neg (hrest (by simp))]
    simp only [Thread.advance]
    split <;> rfl
  | returned | closed =>
    rw [if_neg (hrest (by simp))]
    rfl

/-! ## Lines sent so far -/

/-- How many lines have been sent before lines are taken for this. -/
def Why.linesSent (lines : ℕ) : Why → ℕ
  | .sendMetric i | .autoFlush i => i + 1
  | .final | .close => lines

/-- How many of its lines a call has sent. -/
def Phase.linesSent (lines : ℕ) : Phase → ℕ
  | .start => 0
  | .sendMetric i => i
  | .sent i _ => i + 1
  | .takeBuffer why | .writeToConn why _ _ | .flushed why _ => why.linesSent lines
  | _ => lines

lemma sent_done (lines : ℕ) (hfailed : (why.done ok).failed = false) :
    (why.done ok).linesSent lines = why.linesSent lines := by
  cases why with
  | sendMetric i => rfl
  | autoFlush i => rfl
  | final => rfl
  | close => cases hfailed

lemma sent_writeToConn (lines : ℕ)
    (hfailed : (s.writeToConn c why data attempt outcome).2.failed = false) :
    (s.writeToConn c why data attempt outcome).2.linesSent lines = why.linesSent lines := by
  unfold Shared.writeToConn at hfailed ⊢
  split at hfailed
  · split at hfailed
    · next hlock => rw [if_pos hlock]; rfl
    · next hlock =>
      rw [if_neg hlock]
      split at hfailed
      · rw [failed_done] at hfailed
        cases hfailed
      · next hconn =>
        rw [if_neg hconn]
        split at hfailed
        · exact sent_done lines hfailed
        · rfl
  · rfl
  · rw [failed_done] at hfailed
    cases hfailed
  · exact sent_done lines hfailed
  · rw [failed_done] at hfailed
    cases hfailed

/-- How often a line of this thread should be found. -/
def Thread.expected (cfg : Config V) (t : Thread V) (l : Line) : ℕ :=
  if (t.task.lines cfg)[l.index]? = some l.text ∧
      l.index < t.phase.linesSent (t.task.lines cfg).length then 1 else 0

lemma expected_congr (hsent : ∀ i < (t.task.lines cfg).length,
    i < phase'.linesSent (t.task.lines cfg).length ↔ i < t.phase.linesSent (t.task.lines cfg).length) :
    Thread.expected cfg { t with phase := phase' } l = t.expected cfg l := by
  unfold Thread.expected
  refine if_congr (and_congr_right fun htext => ?_) rfl rfl
  exact hsent l.index (List.getElem?_eq_some_iff.mp htext).1

lemma expected_of_eq
    (hsent : phase'.linesSent (t.task.lines cfg).length =
      t.phase.linesSent (t.task.lines cfg).length) :
    Thread.expected cfg { t with phase := phase' } l = t.expected cfg l :=
  expected_congr fun i _ => by rw [hsent]

lemma expected_advance {batch : MetricBatch V} {tenant : String}
    (htask : t.task = .writeMetricBatch batch tenant)
    (hfailed : (t.advance cfg c s outcome).2.failed = false) (hcall : l.call = c) :
    Thread.expected cfg { t with phase := (t.advance cfg c s outcome).2 } l =
      t.expected cfg l + if t.Sends cfg c l then 1 else 0 := by
  obtain ⟨task, phase⟩ := t
  dsimp only at htask
  subst htask
  have hrest (hphase : phase ≠ .sendMetric l.index) :
      ¬ Thread.Sends cfg c ⟨.writeMetricBatch batch tenant, phase⟩ l :=
    fun hsends => hphase hsends.1
  cases phase with
  | start =>
    rw [if_neg (hrest (by simp))]
    refine expected_of_eq ?_
    simp only [Thread.advance] at hfailed ⊢
    split at hfailed
    · cases hfailed
    · next hopen => rw [if_neg hopen]; rfl
  | sendMetric i =>
    simp only [Thread.advance]
    cases htext : (Task.lines cfg (.writeMetricBatch batch tenant))[i]? with
    | none =>
      -- All lines have been sent.
      have hnot : ¬ Thread.Sends cfg c ⟨.writeMetricBatch batch tenant, .sendMetric i⟩ l := by
        rintro ⟨hphase, -, hl⟩
        cases hphase
        rw [htext] at hl
        cases hl
      rw [if_neg hnot]
      refine expected_congr (t := ⟨_, .sendMetric i⟩) fun n hn => ?_
      have hlast := List.getElem?_eq_none_iff.mp htext
      exact iff_of_true hn (Nat.lt_of_lt_of_le hn hlast)
    | some text =>
      have hnext : Thread.expected cfg ⟨.writeMetricBatch batch tenant, .sent i true⟩ l =
          Thread.expected cfg ⟨.writeMetricBatch batch tenant, .sendMetric i⟩ l +
            if Thread.Sends cfg c ⟨.writeMetricBatch batch tenant, .sendMetric i⟩ l then 1
            else 0 := by
        simp only [Thread.expected, Thread.Sends, Phase.linesSent, Phase.sendMetric.injEq]
        by_cases hindex : i = l.index
        · subst hindex
          rw [htext]
          by_cases hsame : text = l.text <;> simp [hsame, hcall]
        · have hlt : l.index < i + 1 ↔ l.index < i := by omega
          rw [if_neg fun h => hindex h.1]
          exact if_congr (and_congr_right fun _ => hlt) rfl rfl
      dsimp only
      split
      · rw [← hnext]
        exact expected_of_eq (t := ⟨_, .sent i true⟩) rfl
      · exact hnext
  | sent i ok =>
    rw [if_neg (hrest (by simp))]
    refine expected_of_eq ?_
    cases ok with
    | false => cases hfailed
    | true =>
      simp only [Thread.advance, if_true]
      split <;> rfl
  | takeBuffer why =>
    rw [if_neg (hrest (by simp))]
    refine expected_of_eq ?_
    simp only [Thread.advance] at hfailed ⊢
    split at hfailed
    · next hempty =>
      rw [if_pos hempty]
      exact sent_done _ hfailed
    · next hlines => rw [if_neg hlines]; rfl
  | writeToConn why data attempt =>
    rw [if_neg (hrest (by simp))]
    exact expected_of_eq (sent_writeToConn _ hfailed)
  | flushed why ok =>
    rw [if_neg (hrest (by simp))]
    refine expected_of_eq ?_
    cases why with
    | autoFlush i =>
      cases ok with
      | false => cases hfailed
      | true => rfl
    | final =>
      cases ok with
      | false => cases hfailed
      | true => rfl
    | sendMetric i => cases hfailed
    | close => cases hfailed
  | handleBatchError =>
    exfalso
    revert hfailed
    simp only [Thread.advance, Phase.failed]
    cases cfg.fallbackFn <;> simp
  | closeConn =>
    simp only [Thread.advance] at hfailed
    split at hfailed <;> cases hfailed
  | returned err fellBack =>
    rw [if_neg (hrest (by simp))]
    exact expected_of_eq rfl
  | closed => cases hfailed

/-! ## Runs -/

variable {σ : State V}

/-- The places of a line: the buffer, the writes under way, the socket. -/
def State.places (σ : State V) (l : Line) : ℕ :=
  σ.shared.buf.count l + σ.sum (fun t => t.phase.pending.count l) + σ.shared.socket.count l

/-- How often a line should be found. -/
def State.expected (cfg : Config V) (σ : State V) (l : Line) : ℕ :=
  match σ.threads[l.call]? with
  | none => 0
  | some t => t.expected cfg l

/-- The thread has taken the buffer after its last line. -/
def Phase.Emptied : Phase → Prop
  | .writeToConn why _ _ | .flushed why _ => why = .final
  | .returned _ _ => True
  | _ => False

/-- What holds in every state of a careful run. -/
structure Inv (cfg : Config V) (σ : State V) : Prop where
  /-- No line of a call that may return nil is lost, or found twice. -/
  places : ∀ l, ¬ σ.Failed l.call → σ.places l = σ.expected cfg l
  /-- A call that has flushed at the end has no line left in the buffer. -/
  emptied : ∀ (c : ℕ) (t : Thread V), σ.threads[c]? = some t → t.failed = false →
    t.phase.Emptied → ∀ l : Line, l.call = c → l ∉ σ.shared.buf
  /-- The lines of a call that has returned nil are in the socket. -/
  written : ∀ (c : ℕ) (t : Thread V), σ.threads[c]? = some t → t.phase = .returned false false →
    ∀ (i : ℕ) (text : String), (t.task.lines cfg)[i]? = some text →
      ⟨c, i, text⟩ ∈ σ.shared.socket

lemma failed_iff (hc : σ.threads[c]? = some t) : σ.Failed c ↔ t.failed = true := by
  unfold State.Failed
  rw [hc]
  rfl

lemma expected_le_one (cfg : Config V) (t : Thread V) (l : Line) : t.expected cfg l ≤ 1 := by
  unfold Thread.expected
  split <;> omega

lemma Inv.reported (h : Inv cfg σ) : Reported cfg σ := by
  intro c t hc hreturned i text htext
  have hin := List.count_pos_iff.mpr (h.written c t hc hreturned i text htext)
  have hlive : ¬ σ.Failed c := by
    rw [failed_iff hc]
    obtain ⟨task, phase⟩ := t
    dsimp only at hreturned
    subst hreturned
    cases task with
    | writeMetricBatch batch tenant => exact Bool.false_ne_true
    | flush => cases htext
    | close => cases htext
  have hplaces := h.places ⟨c, i, text⟩ hlive
  have hone : σ.expected cfg ⟨c, i, text⟩ ≤ 1 := by
    simp only [State.expected, hc]
    exact expected_le_one cfg t _
  unfold State.places at hplaces
  omega

/-! ### Calls -/

lemma inv_init (cfg : Config V) : Inv cfg ⟨{}, []⟩ where
  places _ _ := rfl
  emptied _ _ hc := (nomatch hc)
  written _ _ hc := (nomatch hc)

lemma failed_spawn (t : Thread V) (hfailed : σ.Failed c) :
    State.Failed (σ.spawn t) c := by
  unfold State.Failed at hfailed ⊢
  obtain ⟨u, hu, hu'⟩ := (Option.any_eq_true _ _).mp hfailed
  have hlt := (List.getElem?_eq_some_iff.mp hu).1
  change ((σ.threads ++ [t])[c]?).any Thread.failed = true
  rw [List.getElem?_append_left hlt, hu]
  exact hu'

lemma Inv.call (h : Inv cfg σ) (task : Task V) : Inv cfg (σ.next cfg (.call task)) where
  places l hlive := by
    have hbefore := h.places l fun hfailed => hlive (failed_spawn _ hfailed)
    have hplaces : (σ.next cfg (.call task)).places l = σ.places l := by
      unfold State.places State.next
      rw [Lib.Threads.sum_spawn]
      rfl
    rw [hplaces, hbefore]
    unfold State.expected
    cases hc : (σ.next cfg (.call task)).threads[l.call]? with
    | none =>
      have hlength := List.getElem?_eq_none_iff.mp hc
      have hnone : σ.threads[l.call]? = none := by
        refine List.getElem?_eq_none_iff.mpr (Nat.le_trans ?_ hlength)
        simp [State.next, Lib.Threads.spawn]
      rw [hnone]
    | some t =>
      obtain ⟨hnew, rfl⟩ | hold := Lib.Threads.getElem?_spawn hc
      · -- The new thread has sent nothing yet.
        have hnone : σ.threads[l.call]? = none :=
          List.getElem?_eq_none_iff.mpr (Nat.le_of_eq hnew.symm)
        rw [hnone]
        simp [Thread.expected, Phase.linesSent]
      · rw [hold]
  emptied c t hc hlive hemptied := by
    obtain ⟨-, rfl⟩ | hold := Lib.Threads.getElem?_spawn hc
    · exact absurd hemptied id
    · exact h.emptied c t hold hlive hemptied
  written c t hc hreturned := by
    obtain ⟨-, rfl⟩ | hold := Lib.Threads.getElem?_spawn hc
    · cases hreturned
    · exact h.written c t hold hreturned

/-! ### Steps -/

lemma next_step (hc : σ.threads[c]? = some t) :
    σ.next cfg (.step c outcome) = ⟨(t.advance cfg c σ.shared outcome).1,
      σ.threads.set c (t.after cfg c σ.shared outcome)⟩ := by
  unfold State.next
  dsimp only
  rw [Lib.Threads.act_some hc]

lemma threads_step (hc : σ.threads[c]? = some t) {c' : ℕ} {u : Thread V}
    (hu : (σ.next cfg (.step c outcome)).threads[c']? = some u) :
    (c' = c ∧ u = t.after cfg c σ.shared outcome) ∨ (c' ≠ c ∧ σ.threads[c']? = some u) :=
  Lib.Threads.getElem?_act hc hu

lemma self_step (hc : σ.threads[c]? = some t) :
    (σ.next cfg (.step c outcome)).threads[c]? = some (t.after cfg c σ.shared outcome) := by
  rw [next_step hc]
  exact List.getElem?_set_self (List.getElem?_eq_some_iff.mp hc).1

lemma other_step (hc : σ.threads[c]? = some t) {c' : ℕ} (hne : c' ≠ c) :
    (σ.next cfg (.step c outcome)).threads[c']? = σ.threads[c']? := by
  rw [next_step hc]
  exact List.getElem?_set_ne (Ne.symm hne)

lemma places_step (hc : σ.threads[c]? = some t) :
    (σ.next cfg (.step c outcome)).places l + here l σ.shared t.phase =
      σ.places l + here l (t.advance cfg c σ.shared outcome).1
        (t.advance cfg c σ.shared outcome).2 := by
  have hsum := Lib.sum_map_set (fun t : Thread V => t.phase.pending.count l) hc
    (t.after cfg c σ.shared outcome)
  rw [next_step hc]
  unfold State.places here Lib.Threads.sum
  unfold Thread.after at hsum ⊢
  dsimp only at hsum ⊢
  omega

lemma failed_after (hfailed : t.failed = true) : (t.after cfg c s outcome).failed = true := by
  obtain ⟨task, phase⟩ := t
  cases task with
  | flush => rfl
  | close => rfl
  | writeMetricBatch batch tenant =>
    change phase.failed = true at hfailed
    change (Thread.advance cfg c ⟨.writeMetricBatch batch tenant, phase⟩ s outcome).2.failed = true
    cases phase with
    | sent i ok =>
      cases ok with
      | false => rfl
      | true => cases hfailed
    | flushed why ok =>
      cases ok with
      | false => cases why <;> rfl
      | true => cases hfailed
    | handleBatchError =>
      simp only [Thread.advance, Phase.failed]
      cases cfg.fallbackFn <;> simp
    | closeConn =>
      simp only [Thread.advance]
      split <;> rfl
    | returned err fellBack => exact hfailed
    | closed => rfl
    | start => cases hfailed
    | sendMetric i => cases hfailed
    | takeBuffer why => cases hfailed
    | writeToConn why data attempt => cases hfailed

lemma live_of_after (hlive : (t.after cfg c s outcome).failed = false) : t.failed = false := by
  cases hfailed : t.failed with
  | false => rfl
  | true =>
    rw [failed_after hfailed] at hlive
    cases hlive

lemma failed_step (hc : σ.threads[c]? = some t) {c' : ℕ} (hfailed : σ.Failed c') :
    (σ.next cfg (.step c outcome)).Failed c' := by
  unfold State.Failed at hfailed ⊢
  by_cases hsame : c' = c
  · subst hsame
    rw [hc] at hfailed
    rw [self_step hc]
    exact failed_after hfailed
  · rw [other_step hc hsame]
    exact hfailed

lemma failed_of_mem_spoilt (hcareful : Careful σ (.step c outcome)) (hc : σ.threads[c]? = some t)
    (hspoilt : l ∈ t.spoilt σ.shared outcome) :
    (σ.next cfg (.step c outcome)).Failed l.call := by
  have hown (hcall : l.call = c) (hfailed : (t.advance cfg c σ.shared outcome).2.failed = true) :
      (σ.next cfg (.step c outcome)).Failed l.call := by
    rw [failed_iff (by rw [hcall]; exact self_step hc)]
    unfold Thread.after Thread.failed
    dsimp only
    split
    · exact hfailed
    · rfl
  obtain ⟨task, phase⟩ := t
  cases phase with
  | writeToConn why data attempt =>
    have hspoilt : l ∈ σ.shared.spoilt data attempt outcome := hspoilt
    cases attempt with
    | rewrite written =>
      simp only [Careful, hc] at hcareful
      rcases hcareful l hspoilt with hfailed | ⟨hcall, hnot⟩
      · exact failed_step hc hfailed
      · exact hown hcall (failed_of_spoilt hspoilt fun hok => absurd hok hnot)
    | write =>
      simp only [Careful, hc] at hcareful
      rcases hcareful l hspoilt with hfailed | hcall
      · exact failed_step hc hfailed
      · exact hown hcall (failed_of_spoilt hspoilt fun _ _ => nofun)
    | reconnect written =>
      simp only [Careful, hc] at hcareful
      rcases hcareful l hspoilt with hfailed | hcall
      · exact failed_step hc hfailed
      · exact hown hcall (failed_of_spoilt hspoilt fun _ _ => nofun)
  | start => cases hspoilt
  | sendMetric i => cases hspoilt
  | sent i ok => cases hspoilt
  | takeBuffer why => cases hspoilt
  | flushed why ok => cases hspoilt
  | handleBatchError => cases hspoilt
  | closeConn => cases hspoilt
  | returned err fellBack => cases hspoilt
  | closed => cases hspoilt

lemma Inv.places_step (h : Inv cfg σ) (hcareful : Careful σ (.step c outcome))
    (hc : σ.threads[c]? = some t) (hlive : ¬ (σ.next cfg (.step c outcome)).Failed l.call) :
    (σ.next cfg (.step c outcome)).places l = (σ.next cfg (.step c outcome)).expected cfg l := by
  have hbefore := h.places l fun hfailed => hlive (failed_step hc hfailed)
  have hunspoilt : l ∉ t.spoilt σ.shared outcome := fun hspoilt =>
    hlive (failed_of_mem_spoilt hcareful hc hspoilt)
  have hhere : here l _ (t.advance cfg c σ.shared outcome).2 = _ := here_advance hunspoilt
  have hplaces : State.places (σ.next cfg (.step c outcome)) l + _ = _ := ILP.places_step hc
  unfold State.expected at hbefore ⊢
  by_cases hcall : l.call = c
  · rw [hcall] at hbefore hlive ⊢
    rw [hc] at hbefore
    rw [self_step hc]
    rw [failed_iff (self_step hc)] at hlive
    obtain ⟨task, phase⟩ := t
    cases task with
    | flush => exact absurd rfl hlive
    | close => exact absurd rfl hlive
    | writeMetricBatch batch tenant =>
      have hexpected := expected_advance (l := l) rfl (Bool.eq_false_iff.mpr hlive) hcall
      unfold Thread.after
      dsimp only at hbefore hexpected ⊢
      omega
  · have hnot : ¬ t.Sends cfg c l := fun hsends => hcall hsends.2.1
    rw [if_neg hnot] at hhere
    rw [other_step hc hcall]
    omega

lemma mem_buf_advance (hl : l ∈ (t.advance cfg c s outcome).1.buf) :
    l ∈ s.buf ∨ (l.call = c ∧ ∃ i, t.phase = .sendMetric i) := by
  obtain ⟨task, phase⟩ := t
  cases phase with
  | sendMetric i =>
    simp only [Thread.advance] at hl
    split at hl
    · exact .inl hl
    · split at hl
      · cases hl
      · rcases List.mem_append.mp hl with hold | hnew
        · exact .inl hold
        · rw [List.mem_singleton.mp hnew]
          exact .inr ⟨rfl, i, rfl⟩
  | takeBuffer why =>
    simp only [Thread.advance] at hl
    split at hl
    · exact .inl hl
    · cases hl
  | writeToConn why data attempt =>
    have hsame : (s.writeToConn c why data attempt outcome).1.buf = s.buf := by
      unfold Shared.writeToConn
      split <;> (try split) <;> (try split) <;> (try split) <;> rfl
    exact .inl (hsame ▸ hl)
  | start =>
    simp only [Thread.advance] at hl
    split at hl
    · exact .inl hl
    · exact .inl hl
    · split at hl <;> exact .inl hl
  | sent i ok => cases ok <;> exact .inl hl
  | flushed why ok => exact .inl hl
  | handleBatchError => exact .inl hl
  | closeConn =>
    simp only [Thread.advance] at hl
    split at hl <;> exact .inl hl
  | returned err fellBack => exact .inl hl
  | closed => exact .inl hl

lemma mem_socket_advance (hl : l ∈ s.socket) : l ∈ (t.advance cfg c s outcome).1.socket := by
  obtain ⟨task, phase⟩ := t
  cases phase with
  | sendMetric i =>
    simp only [Thread.advance]
    split
    · exact hl
    · split <;> exact hl
  | takeBuffer why =>
    simp only [Thread.advance]
    split <;> exact hl
  | writeToConn why data attempt =>
    show l ∈ (s.writeToConn c why data attempt outcome).1.socket
    unfold Shared.writeToConn
    split
    · split
      · exact hl
      · split
        · exact hl
        · split <;> exact List.mem_append_left _ hl
    · exact hl
    · exact hl
    · exact List.mem_append_left _ hl
    · exact List.mem_append_left _ hl
  | start =>
    simp only [Thread.advance]
    split
    · exact hl
    · exact hl
    · split <;> exact hl
  | sent i ok => cases ok <;> exact hl
  | flushed why ok => exact hl
  | handleBatchError => exact hl
  | closeConn =>
    simp only [Thread.advance]
    split <;> exact hl
  | returned err fellBack => exact hl
  | closed => exact hl

lemma emptied_done (h : (why.done ok).Emptied) : why = .final := by
  cases why with
  | final => rfl
  | autoFlush i => exact h
  | sendMetric i => exact absurd h id
  | close => exact absurd h id

lemma emptied_writeToConn (h : (s.writeToConn c why data attempt outcome).2.Emptied) :
    why = .final := by
  unfold Shared.writeToConn at h
  split at h
  · split at h
    · exact h
    · split at h
      · exact emptied_done h
      · split at h
        · exact emptied_done h
        · exact h
  · exact h
  · exact emptied_done h
  · exact emptied_done h
  · exact emptied_done h

lemma emptied_advance (hlive : (t.after cfg c s outcome).failed = false)
    (hemptied : (t.after cfg c s outcome).phase.Emptied) :
    t.phase.Emptied ∨ (t.advance cfg c s outcome).1.buf = [] := by
  have hbefore := live_of_after hlive
  obtain ⟨task, phase⟩ := t
  cases task with
  | flush => cases hlive
  | close => cases hlive
  | writeMetricBatch batch tenant =>
    change (Thread.advance cfg c _ s outcome).2.failed = false at hlive
    change (Thread.advance cfg c _ s outcome).2.Emptied at hemptied
    cases phase with
    | takeBuffer why =>
      simp only [Thread.advance]
      split
      · -- There was nothing to flush.
        next hempty => exact .inr hempty
      · exact .inr rfl
    | writeToConn why data attempt => exact .inl (emptied_writeToConn hemptied)
    | flushed why ok =>
      cases why with
      -- Only the last flush leads to a phase after the loop.
      | final => exact .inl rfl
      | autoFlush i => cases ok <;> exact absurd hemptied id
      | sendMetric i => exact absurd hemptied id
      | close => exact absurd hemptied id
    | start =>
      simp only [Thread.advance] at hlive hemptied
      split at hlive
      · cases hlive
      · next hopen =>
        rw [if_neg hopen] at hemptied
        exact absurd hemptied id
    | sendMetric i =>
      simp only [Thread.advance] at hemptied
      split at hemptied
      · exact absurd hemptied id
      · split at hemptied
        · cases hemptied
        · exact absurd hemptied id
    | sent i ok =>
      simp only [Thread.advance] at hemptied
      split at hemptied
      · dsimp only at hemptied
        split at hemptied <;> exact absurd hemptied id
      · exact absurd hemptied id
    | handleBatchError => cases hbefore
    | closeConn =>
      simp only [Thread.advance] at hemptied
      split at hemptied <;> exact absurd hemptied id
    | returned err fellBack => exact .inl trivial
    | closed => exact absurd hemptied id

lemma done_ne_returned (err fellBack : Bool) : why.done ok ≠ .returned err fellBack := by
  cases why <;> exact nofun

lemma writeToConn_ne_returned (err fellBack : Bool) :
    (s.writeToConn c why data attempt outcome).2 ≠ .returned err fellBack := by
  unfold Shared.writeToConn
  split
  · split
    · exact nofun
    · split
      · exact done_ne_returned err fellBack
      · split
        · exact done_ne_returned err fellBack
        · exact nofun
  · exact nofun
  · exact done_ne_returned err fellBack
  · exact done_ne_returned err fellBack
  · exact done_ne_returned err fellBack

lemma returned_advance {batch : MetricBatch V} {tenant : String}
    (htask : t.task = .writeMetricBatch batch tenant)
    (hreturned : (t.after cfg c s outcome).phase = .returned false false) :
    t.phase = .returned false false ∨ t.phase = .flushed .final true := by
  obtain ⟨task, phase⟩ := t
  dsimp only at htask
  subst htask
  change (Thread.advance cfg c _ s outcome).2 = _ at hreturned
  cases phase with
  | flushed why ok =>
    cases why with
    | final =>
      cases ok with
      | false => cases hreturned
      -- This is the one way to return nil.
      | true => exact .inr rfl
    | autoFlush i => cases ok <;> cases hreturned
    | sendMetric i => cases hreturned
    | close => cases hreturned
  | returned err fellBack => exact .inl hreturned
  | writeToConn why data attempt => exact absurd hreturned (writeToConn_ne_returned false false)
  | takeBuffer why =>
    simp only [Thread.advance] at hreturned
    split at hreturned
    · exact absurd hreturned (done_ne_returned false false)
    · cases hreturned
  | handleBatchError =>
    simp only [Thread.advance, Phase.returned.injEq] at hreturned
    simp [hreturned.2] at hreturned
  | start =>
    simp only [Thread.advance] at hreturned
    split at hreturned <;> cases hreturned
  | sendMetric i =>
    simp only [Thread.advance] at hreturned
    split at hreturned
    · cases hreturned
    · split at hreturned <;> cases hreturned
  | sent i ok =>
    simp only [Thread.advance] at hreturned
    split at hreturned
    · dsimp only at hreturned
      split at hreturned <;> cases hreturned
    · cases hreturned
  | closeConn =>
    simp only [Thread.advance] at hreturned
    split at hreturned <;> cases hreturned
  | closed => cases hreturned

/-- A call that has flushed at the end has its lines in the socket, unless they are still being
written by others. -/
lemma Inv.mem_socket (h : Inv cfg σ) {batch : MetricBatch V} {tenant : String}
    (hc : σ.threads[c]? = some ⟨.writeMetricBatch batch tenant, .flushed .final true⟩)
    (hcareful : Careful σ (.step c outcome)) {i : ℕ} {text : String}
    (htext : (Task.lines cfg (.writeMetricBatch batch tenant))[i]? = some text) :
    ⟨c, i, text⟩ ∈ σ.shared.socket := by
  have hpending : ∀ u ∈ σ.threads, ∀ l ∈ u.phase.pending, l.call ≠ c := by
    simp only [Careful, hc] at hcareful
    exact hcareful
  have hlive : ¬ σ.Failed c := by
    rw [failed_iff hc]
    exact Bool.false_ne_true
  have hplaces := h.places ⟨c, i, text⟩ hlive
  have hexpected : σ.expected cfg ⟨c, i, text⟩ = 1 := by
    simp only [State.expected, hc]
    exact if_pos ⟨htext, (List.getElem?_eq_some_iff.mp htext).1⟩
  have hbuf : σ.shared.buf.count ⟨c, i, text⟩ = 0 :=
    List.count_eq_zero.mpr (h.emptied c _ hc rfl rfl _ rfl)
  have hwrites : σ.sum (fun u => u.phase.pending.count ⟨c, i, text⟩) = 0 :=
    Lib.Threads.sum_eq_zero fun u hu =>
      List.count_eq_zero.mpr fun hl => hpending u hu _ hl rfl
  unfold State.places at hplaces
  exact List.count_pos_iff.mp (by omega)

lemma Inv.step (h : Inv cfg σ) (hcareful : Careful σ (.step c outcome))
    (hc : σ.threads[c]? = some t) : Inv cfg (σ.next cfg (.step c outcome)) where
  places l hlive := h.places_step hcareful hc hlive
  emptied c' u hu hlive hemptied l hcall hl := by
    rw [next_step hc] at hl
    obtain ⟨rfl, rfl⟩ | ⟨hne, hold⟩ := threads_step hc hu
    · rcases emptied_advance hlive hemptied with hbefore | hnil
      · rcases mem_buf_advance hl with hold | ⟨-, i, hphase⟩
        · exact h.emptied c' t hc (live_of_after hlive) hbefore l hcall hold
        · rw [hphase] at hbefore
          exact hbefore
      · rw [hnil] at hl
        cases hl
    · rcases mem_buf_advance hl with hmem | ⟨hown, -⟩
      · exact h.emptied c' u hold hlive hemptied l hcall hmem
      · exact hne (hcall.symm.trans hown)
  written c' u hu hreturned i text htext := by
    rw [next_step hc]
    obtain ⟨rfl, rfl⟩ | ⟨-, hold⟩ := threads_step hc hu
    · refine mem_socket_advance ?_
      obtain ⟨task, phase⟩ := t
      cases task with
      | flush => cases htext
      | close => cases htext
      | writeMetricBatch batch tenant =>
        rcases returned_advance rfl hreturned with hbefore | hflushed
        · exact h.written c' _ hc hbefore i text htext
        · dsimp only at hflushed
          subst hflushed
          exact h.mem_socket hc hcareful htext
    · exact mem_socket_advance (h.written c' u hold hreturned i text htext)

/-- A careful event keeps the invariant. -/
theorem Inv.next (h : Inv cfg σ) {e : Event V} (hcareful : Careful σ e) :
    Inv cfg (σ.next cfg e) := by
  cases e with
  | call task => exact h.call task
  | step c outcome =>
    cases hc : σ.threads[c]? with
    | none =>
      have hsame : σ.next cfg (.step c outcome) = σ := by
        unfold State.next
        dsimp only
        rw [Lib.Threads.act_none hc]
      rw [hsame]
      exact h
    | some t => exact h.step hcareful hc

/-- Where writes spoil only lines of calls that have failed or fail with them, and no call returns
nil while a line of it is still being written, a call that returns nil without its fallback writer
has written every line of its batch, once. -/
theorem reported_of_careful (cfg : Config V) (events : List (Event V))
    (h : Lib.Allowed (State.next cfg) Careful ⟨{}, []⟩ events) :
    Lib.Always (State.next cfg) (Reported cfg) ⟨{}, []⟩ events := by
  have hrun {σ : State V} (hσ : Inv cfg σ) {events : List (Event V)}
      (h : Lib.Allowed (State.next cfg) Careful σ events) :
      Lib.Always (State.next cfg) (Reported cfg) σ events := by
    induction events generalizing σ with
    | nil => exact hσ.reported
    | cons e events ih => exact ⟨hσ.reported, ih (hσ.next h.1) h.2⟩
  exact hrun (inv_init cfg) h

/-! ### Four runs -/

/-- A writer whose metrics all have the same line. -/
def constantLines : Config Unit where
  formatILPLine _ _ _ := "cpu_metrics,agent_id=a usage=1 1\n"

/-- A batch of this many CPU metrics. -/
def cpuBatch (n : ℕ) : Task Unit :=
  .writeMetricBatch ⟨"a", 1, List.replicate n ⟨"a", 1, ()⟩, [], [], [], [], []⟩ "t"

/-- The ticker writes the line of a batch, and then the call flushes. -/
def tickerFirst : List (Event Unit) :=
  [.call (cpuBatch 1), .step 0 .ok, .step 0 .ok, .step 0 .ok,
    .call .flush, .step 1 .ok, .step 1 .ok, .step 1 .ok,
    .step 0 .ok, .step 0 .ok, .step 0 .ok]

/-- It is a careful run. -/
theorem reported_tickerFirst : Lib.Always (State.next constantLines) (Reported constantLines)
    ⟨{}, []⟩ tickerFirst := by
  refine reported_of_careful constantLines _ ⟨trivial, trivial, trivial, trivial, trivial, trivial,
    trivial, ?write, trivial, trivial, ?nil, trivial⟩
  case write => exact fun l hl => (nomatch hl)
  case nil =>
    show ∀ t ∈ ((tickerFirst.take 10).foldl (State.next constantLines) ⟨{}, []⟩).threads,
      ∀ l ∈ t.phase.pending, l.call ≠ 0
    decide +kernel

/-- The ticker takes the line of a batch, and its flush fails; the call finds the buffer empty. -/
def tickerFails : List (Event Unit) :=
  [.call (cpuBatch 1), .step 0 .ok, .step 0 .ok, .step 0 .ok,
    .call .flush, .step 1 .ok, .step 1 .ok, .step 1 (.failed 0), .step 1 (.failed 0),
    .step 0 .ok, .step 0 .ok, .step 0 .ok]

/-- The call returns while the ticker has taken the line and not written it. -/
def tickerLate : List (Event Unit) :=
  [.call (cpuBatch 1), .step 0 .ok, .step 0 .ok, .step 0 .ok,
    .call .flush, .step 1 .ok, .step 1 .ok,
    .step 0 .ok, .step 0 .ok, .step 0 .ok]

/-- The connection breaks after the first of two lines, and both are written to the next one. -/
def halfWritten : List (Event Unit) :=
  [.call (cpuBatch 2), .step 0 .ok, .step 0 .ok, .step 0 .ok, .step 0 .ok, .step 0 .ok,
    .step 0 .ok, .step 0 .ok, .step 0 (.failed 1), .step 0 .ok, .step 0 .ok, .step 0 .ok]

/-- A call whose line is in the socket another number of times than once contradicts what is
reported. -/
lemma not_reported {V : Type*} {cfg : Config V} {σ : State V} {c i : ℕ} {t : Thread V}
    {text : String} (hc : σ.threads[c]? = some t) (hreturned : t.phase = .returned false false)
    (htext : (t.task.lines cfg)[i]? = some text)
    (hcount : σ.shared.socket.count ⟨c, i, text⟩ ≠ 1) : ¬ Reported cfg σ :=
  fun h => hcount (h c t hc hreturned i text htext)

/-- A line is lost, is late, or is written twice, and its call has returned nil. -/
theorem silent_losses :
    ¬ Lib.Always (State.next constantLines) (Reported constantLines) ⟨{}, []⟩ tickerFails ∧
      ¬ Lib.Always (State.next constantLines) (Reported constantLines) ⟨{}, []⟩ tickerLate ∧
        ¬ Lib.Always (State.next constantLines) (Reported constantLines) ⟨{}, []⟩ halfWritten := by
  refine ⟨fun h => not_reported (c := 0) (i := 0) (t := ⟨cpuBatch 1, .returned false false⟩) ?_ rfl
    rfl ?_ h.foldl, fun h => not_reported (c := 0) (i := 0)
    (t := ⟨cpuBatch 1, .returned false false⟩) ?_ rfl rfl ?_ h.foldl, fun h => not_reported (c := 0)
    (i := 0) (t := ⟨cpuBatch 2, .returned false false⟩) ?_ rfl rfl ?_ h.foldl⟩
  all_goals decide +kernel

end Paryty.Storage.ILP

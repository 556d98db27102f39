import Mathlib.Data.List.Perm.Subperm
import Paryty.Agent.FlowControl
import Paryty.Lib.Run

/-!
# What flow control keeps

* `Disciplined`: the queue is sorted, first in first out for each priority, and every message is
  queued, dequeued or counted as dropped. `disciplined` says so of every run, and that without
  backpressure no message is lost while a less important one is kept.
* `Follows`: the flag is what the last state and the last signal say. `follows_iff` says in which
  runs.
-/

namespace Paryty.Agent.FlowControl

/-! ## Runs -/

/-- A call. -/
inductive Event
  | enqueue (data : List UInt8) (priority : Priority) (sequenceNumber : ℕ) (draw : ℚ)
  | dequeue (count : ℕ)
  | updateState (newState : FlowControlState)
  | applyServerSignal (signal : ServerSignal)

/-- A message that an `enqueue` refused or evicted, with the queue that it left. -/
structure Loss where
  message : PrioritizedMessage
  kept : List PrioritizedMessage
  backpressured : Bool

/-- A controller with the messages that came, went and were lost. -/
structure State where
  fc : Controller
  enqueued : List PrioritizedMessage := []
  dequeued : List PrioritizedMessage := []
  lost : List Loss := []

/-- One call. What is lost is what was queued or offered before, and is not queued afterwards. -/
def State.next (s : State) : Event → State
  | .enqueue data priority sequenceNumber draw =>
    let msg := ⟨priority, data, sequenceNumber⟩
    let fc := (s.fc.enqueue data priority sequenceNumber draw).2
    { s with
      fc
      enqueued := s.enqueued ++ [msg]
      lost := s.lost ++ ((s.fc.queue ++ [msg]).diff fc.queue).map fun m =>
        ⟨m, fc.queue, s.fc.backpressureActive⟩ }
  | .dequeue count =>
    { s with
      fc := (s.fc.dequeue count).2
      dequeued := s.dequeued ++ (s.fc.dequeue count).1 }
  | .updateState newState => { s with fc := s.fc.updateState newState }
  | .applyServerSignal signal => { s with fc := s.fc.applyServerSignal signal }

/-- The messages of one priority, in their order. -/
def ofPriority (p : Priority) (l : List PrioritizedMessage) : List PrioritizedMessage :=
  l.filter fun m => m.priority = p

/-- No message is more important than one that stands before it. -/
def Sorted (queue : List PrioritizedMessage) : Prop :=
  queue.Pairwise fun a b => a.priority.rank ≤ b.priority.rank

/-- The discipline of the queue. -/
structure Disciplined (s : State) : Prop where
  sorted : Sorted s.fc.queue
  /-- Of one priority, what leaves and what stays are in the order in which they came. -/
  fifo : ∀ p, (ofPriority p (s.dequeued ++ s.fc.queue)).Sublist (ofPriority p s.enqueued)
  accounted : (s.dequeued ++ s.fc.queue ++ s.lost.map Loss.message).Perm s.enqueued
  critical : ∀ loss ∈ s.lost, loss.message.priority ≠ .critical
  dropped : s.fc.messagesDropped = s.lost.length
  fair : ∀ loss ∈ s.lost, loss.backpressured = false →
    ∀ m ∈ loss.kept, m.priority.rank ≤ loss.message.priority.rank

/-! ## Sorting -/

variable {queue : List PrioritizedMessage}

lemma PrioritizedMessage.le_trans (a b c : PrioritizedMessage) (hab : a.le b = true)
    (hbc : b.le c = true) : a.le c = true :=
  decide_eq_true ((of_decide_eq_true hab).trans (of_decide_eq_true hbc))

lemma PrioritizedMessage.le_total (a b : PrioritizedMessage) : (a.le b || b.le a) = true := by
  rw [Bool.or_eq_true]
  exact (Nat.le_total a.priority.rank b.priority.rank).imp decide_eq_true decide_eq_true

lemma sorted_makeContiguousSorted (queue : List PrioritizedMessage) :
    Sorted (makeContiguousSorted queue) :=
  (List.pairwise_mergeSort PrioritizedMessage.le_trans PrioritizedMessage.le_total queue).imp
    of_decide_eq_true

lemma perm_makeContiguousSorted (queue : List PrioritizedMessage) :
    (makeContiguousSorted queue).Perm queue := List.mergeSort_perm queue _

lemma ofPriority_append (p : Priority) (l l' : List PrioritizedMessage) :
    ofPriority p (l ++ l') = ofPriority p l ++ ofPriority p l' := List.filter_append _ _

lemma ofPriority_makeContiguousSorted (p : Priority) (queue : List PrioritizedMessage) :
    ofPriority p (makeContiguousSorted queue) = ofPriority p queue := by
  have hsame : (ofPriority p queue).Pairwise fun a b => a.le b = true := by
    refine List.pairwise_of_forall_mem_list fun a ha b hb => ?_
    have hpa : a.priority = p := of_decide_eq_true (List.mem_filter.mp ha).2
    have hpb : b.priority = p := of_decide_eq_true (List.mem_filter.mp hb).2
    exact decide_eq_true (by rw [hpa, hpb])
  -- The sort is stable, and it loses nothing.
  have hsub : (ofPriority p queue).Sublist (makeContiguousSorted queue) :=
    List.sublist_mergeSort PrioritizedMessage.le_trans PrioritizedMessage.le_total hsame
      List.filter_sublist
  have hfilter : (ofPriority p (ofPriority p queue)).Sublist
      (ofPriority p (makeContiguousSorted queue)) := hsub.filter _
  have htwice : ofPriority p (ofPriority p queue) = ofPriority p queue := by
    rw [ofPriority, ofPriority, List.filter_filter]
    simp
  rw [htwice] at hfilter
  exact (hfilter.eq_of_length ((perm_makeContiguousSorted queue).filter _).length_eq.symm).symm

/-! ## Eviction -/

lemma rposition_cases (h : Sorted queue) (priority : Priority) :
    (rposition (fun m => decide (priority.rank ≤ m.priority.rank)) queue = none ∧
        ∀ m ∈ queue, m.priority.rank < priority.rank) ∨
      ∃ rest lowest, queue = rest ++ [lowest] ∧ priority.rank ≤ lowest.priority.rank ∧
        rposition (fun m => decide (priority.rank ≤ m.priority.rank)) queue = some rest.length := by
  obtain rfl | ⟨rest, lowest, rfl⟩ := List.eq_nil_or_concat' queue
  · exact .inl ⟨rfl, List.forall_mem_nil _⟩
  · -- The search from the back starts at the last message.
    by_cases hle : priority.rank ≤ lowest.priority.rank
    · refine .inr ⟨rest, lowest, rfl, hle, ?_⟩
      simp [rposition, List.findIdx?_cons, hle]
    · -- All others are at least as important as the last one.
      have hall : ∀ m ∈ rest ++ [lowest], m.priority.rank < priority.rank := by
        intro m hm
        obtain hm | hm := List.mem_append.mp hm
        · have hbefore := (List.pairwise_append.mp h).2.2 m hm lowest (List.mem_singleton_self _)
          omega
        · rw [List.mem_singleton.mp hm]
          omega
      refine .inl ⟨?_, hall⟩
      rw [rposition, Option.map_eq_none_iff, List.findIdx?_eq_none_iff]
      intro m hm
      have hm := hall m (List.mem_reverse.mp hm)
      exact decide_eq_false (by omega)

/-- What an `enqueue` does to a sorted queue: it takes the message, refuses it, or takes it in the
place of the last one. -/
lemma enqueue_cases {fc : Controller} (h : Sorted fc.queue) (data : List UInt8)
    (priority : Priority) (sequenceNumber : ℕ) (draw : ℚ) :
    let msg : PrioritizedMessage := ⟨priority, data, sequenceNumber⟩
    let fc' := (fc.enqueue data priority sequenceNumber draw).2
    (fc'.queue = makeContiguousSorted (fc.queue ++ [msg]) ∧
        fc'.messagesDropped = fc.messagesDropped) ∨
      (priority ≠ .critical ∧ fc'.messagesDropped = fc.messagesDropped + 1 ∧ fc'.queue = fc.queue ∧
        (fc.backpressureActive = false → ∀ m ∈ fc.queue, m.priority.rank < priority.rank)) ∨
      (priority ≠ .critical ∧ fc'.messagesDropped = fc.messagesDropped + 1 ∧
        ∃ rest lowest, fc.queue = rest ++ [lowest] ∧ priority.rank ≤ lowest.priority.rank ∧
          fc'.queue = makeContiguousSorted (rest ++ [msg])) := by
  intro msg fc'
  by_cases hcritical : priority = .critical
  · have hfc : fc' = fc.push msg := by
      simp only [fc', Controller.enqueue, if_pos hcritical]
      rfl
    rw [hfc]
    exact .inl ⟨rfl, rfl⟩
  · by_cases hsampled : fc.backpressureActive = true ∧ draw > fc.samplingRate
    · have hfc : fc' = fc.countDropped := by
        simp only [fc', Controller.enqueue, if_neg hcritical, if_pos hsampled]
      rw [hfc]
      refine .inr (.inl ⟨hcritical, rfl, rfl, fun hinactive => ?_⟩)
      rw [hsampled.1] at hinactive
      exact absurd hinactive (by simp)
    · by_cases hfull : fc.maxQueueSize ≤ fc.queue.length
      · obtain ⟨hnone, hless⟩ | ⟨rest, lowest, hqueue, hle, hsome⟩ := rposition_cases h priority
        · have hfc : fc' = fc.countDropped := by
            simp only [fc', Controller.enqueue, if_neg hcritical, if_neg hsampled, if_pos hfull,
              hnone]
          rw [hfc]
          exact .inr (.inl ⟨hcritical, rfl, rfl, fun _ => hless⟩)
        · have hfc : fc' = ({ fc with queue := fc.queue.eraseIdx rest.length }.countDropped).push
              msg := by
            simp only [fc', Controller.enqueue, if_neg hcritical, if_neg hsampled, if_pos hfull,
              hsome]
            rfl
          -- The evicted message is the last one.
          have herased : fc.queue.eraseIdx rest.length = rest := by
            rw [hqueue, List.eraseIdx_append_of_length_le (Nat.le_refl _), Nat.sub_self]
            exact List.append_nil rest
          rw [hfc, herased]
          exact .inr (.inr ⟨hcritical, rfl, rest, lowest, hqueue, hle, rfl⟩)
      · have hfc : fc' = fc.push msg := by
          simp only [fc', Controller.enqueue, if_neg hcritical, if_neg hsampled, if_neg hfull]
          rfl
        rw [hfc]
        exact .inl ⟨rfl, rfl⟩

lemma diff_perm {offered kept missing : List PrioritizedMessage}
    (h : (kept ++ missing).Perm offered) : (offered.diff kept).Perm missing := by
  have hcount : ∀ m ∈ kept, kept.count m ≤ (kept ++ missing).count m := by
    intro m _
    rw [List.count_append]
    omega
  -- What is kept is part of what was offered, so the difference is the rest.
  have hsplit : (kept ++ (kept ++ missing).diff kept).Perm (kept ++ missing) :=
    List.subperm_append_diff_self_of_count_le hcount
  exact (h.diff_right kept).symm.trans ((List.perm_append_left_iff kept).mp hsplit)

/-! ## One call -/

variable {s : State}

lemma Disciplined.enqueue (h : Disciplined s) {s' : State} {msg : PrioritizedMessage}
    (missing : List PrioritizedMessage) (hdequeued : s'.dequeued = s.dequeued)
    (henqueued : s'.enqueued = s.enqueued ++ [msg])
    (hlost : s'.lost = s.lost ++ ((s.fc.queue ++ [msg]).diff s'.fc.queue).map fun m =>
      ⟨m, s'.fc.queue, s.fc.backpressureActive⟩)
    (hsorted : Sorted s'.fc.queue)
    (hfifo : ∀ p, (ofPriority p s'.fc.queue).Sublist (ofPriority p (s.fc.queue ++ [msg])))
    (hmissing : (s'.fc.queue ++ missing).Perm (s.fc.queue ++ [msg]))
    (hcritical : ∀ m ∈ missing, m.priority ≠ .critical)
    (hdropped : s'.fc.messagesDropped = s.fc.messagesDropped + missing.length)
    (hfair : s.fc.backpressureActive = false → ∀ lost ∈ missing, ∀ m ∈ s'.fc.queue,
      m.priority.rank ≤ lost.priority.rank) : Disciplined s' := by
  have hdiff := diff_perm hmissing
  have hnew {loss : Loss} (hloss : loss ∈ ((s.fc.queue ++ [msg]).diff s'.fc.queue).map fun m =>
      (⟨m, s'.fc.queue, s.fc.backpressureActive⟩ : Loss)) :
      loss.message ∈ missing ∧ loss.kept = s'.fc.queue ∧
        loss.backpressured = s.fc.backpressureActive := by
    obtain ⟨m, hm, rfl⟩ := List.mem_map.mp hloss
    exact ⟨hdiff.subset hm, rfl, rfl⟩
  constructor
  case sorted => exact hsorted
  case fifo =>
    intro p
    have hold := h.fifo p
    have hqueue := hfifo p
    rw [ofPriority_append] at hold hqueue
    rw [hdequeued, henqueued, ofPriority_append, ofPriority_append]
    refine ((List.Sublist.refl _).append hqueue).trans ?_
    rw [← List.append_assoc]
    exact hold.append (.refl _)
  case accounted =>
    have hlosses : s'.lost.map Loss.message =
        s.lost.map Loss.message ++ (s.fc.queue ++ [msg]).diff s'.fc.queue := by
      rw [hlost, List.map_append, List.map_map]
      exact congrArg _ (List.map_id _)
    rw [hdequeued, henqueued, hlosses]
    -- Every message is counted once: gone, queued or lost.
    rw [List.perm_iff_count]
    intro m
    have hold := h.accounted.count_eq m
    have hqueue := hmissing.count_eq m
    have hlast := hdiff.count_eq m
    simp only [List.count_append] at hold hqueue ⊢
    omega
  case critical =>
    intro loss hloss
    rw [hlost] at hloss
    obtain hloss | hloss := List.mem_append.mp hloss
    · exact h.critical loss hloss
    · exact hcritical _ (hnew hloss).1
  case dropped =>
    rw [hdropped, hlost, List.length_append, List.length_map, hdiff.length_eq, h.dropped]
  case fair =>
    intro loss hloss hinactive m hm
    rw [hlost] at hloss
    obtain hloss | hloss := List.mem_append.mp hloss
    · exact h.fair loss hloss hinactive m hm
    · obtain ⟨hmem, hkept, hflag⟩ := hnew hloss
      exact hfair (hflag.symm.trans hinactive) _ hmem m (hkept ▸ hm)

lemma rank_eq_zero {p : Priority} : p.rank = 0 ↔ p = .critical := by
  cases p <;> decide

lemma Disciplined.next_enqueue (h : Disciplined s) (data : List UInt8) (priority : Priority)
    (sequenceNumber : ℕ) (draw : ℚ) :
    Disciplined (s.next (.enqueue data priority sequenceNumber draw)) := by
  set msg : PrioritizedMessage := ⟨priority, data, sequenceNumber⟩
  obtain ⟨hqueue, hdropped⟩ | ⟨hcritical, hdropped, hqueue, hfair⟩ |
      ⟨hcritical, hdropped, rest, lowest, hold, hle, hqueue⟩ :=
    enqueue_cases h.sorted data priority sequenceNumber draw
  · -- The message is taken, and nothing is lost.
    refine h.enqueue [] rfl rfl rfl ?_ ?_ ?_ (List.forall_mem_nil _) hdropped
      fun _ => List.forall_mem_nil _
    · exact hqueue ▸ sorted_makeContiguousSorted _
    · intro p
      exact hqueue ▸ (ofPriority_makeContiguousSorted p _).symm ▸ List.Sublist.refl _
    · rw [List.append_nil]
      exact hqueue ▸ perm_makeContiguousSorted _
  · -- It is refused.
    refine h.enqueue [msg] rfl rfl rfl ?_ ?_ ?_ ?_ hdropped ?_
    · exact hqueue ▸ h.sorted
    · intro p
      rw [ofPriority_append]
      exact hqueue ▸ List.sublist_append_left _ _
    · exact hqueue ▸ List.Perm.refl _
    · intro m hm
      rwa [List.mem_singleton.mp hm]
    · intro hinactive lost hlost m hm
      rw [List.mem_singleton.mp hlost]
      exact (hfair hinactive m (hqueue ▸ hm)).le
  · -- The last message of the queue makes room for it.
    have hsorted := h.sorted
    rw [hold] at hsorted
    refine h.enqueue [lowest] rfl rfl rfl ?_ ?_ ?_ ?_ hdropped ?_
    · exact hqueue ▸ sorted_makeContiguousSorted _
    · intro p
      have hsub : (rest ++ [msg]).Sublist (s.fc.queue ++ [msg]) := by
        rw [hold]
        exact (List.sublist_append_left rest [lowest]).append_right [msg]
      exact hqueue ▸ (ofPriority_makeContiguousSorted p _).symm ▸ hsub.filter _
    · refine (hqueue ▸ (perm_makeContiguousSorted _).append_right [lowest]).trans ?_
      rw [hold, List.append_assoc, List.append_assoc]
      exact List.perm_append_comm.append_left rest
    · intro m hm
      -- No critical message is as unimportant as one that is not.
      have hpos : priority.rank ≠ 0 := fun hzero => hcritical (rank_eq_zero.mp hzero)
      rw [List.mem_singleton.mp hm, Ne, ← rank_eq_zero]
      omega
    · intro _ lost hlost m hm
      rw [List.mem_singleton.mp hlost]
      have hmem : m ∈ rest ++ [msg] := (perm_makeContiguousSorted _).subset (hqueue ▸ hm)
      obtain hm | hm := List.mem_append.mp hmem
      · exact (List.pairwise_append.mp hsorted).2.2 m hm lowest (List.mem_singleton_self _)
      · rw [List.mem_singleton.mp hm]
        exact hle

lemma Disciplined.next_dequeue (h : Disciplined s) (count : ℕ) :
    Disciplined (s.next (.dequeue count)) := by
  -- What is taken from the front goes behind what was taken before.
  have hsplit : s.dequeued ++ (s.fc.dequeue count).1 ++ (s.fc.dequeue count).2.queue =
      s.dequeued ++ s.fc.queue := by
    rw [List.append_assoc]
    exact congrArg _ (List.take_append_drop _ _)
  constructor
  case sorted => exact List.Pairwise.sublist (List.drop_sublist _ _) h.sorted
  case fifo =>
    intro p
    have hold := h.fifo p
    rwa [← hsplit] at hold
  case accounted =>
    have hold := h.accounted
    rwa [← hsplit] at hold
  case critical => exact h.critical
  case dropped => exact h.dropped
  case fair => exact h.fair

/-- Every call keeps the discipline. -/
theorem Disciplined.next (h : Disciplined s) (e : Event) : Disciplined (s.next e) := by
  cases e with
  | enqueue data priority sequenceNumber draw =>
    exact h.next_enqueue data priority sequenceNumber draw
  | dequeue count => exact h.next_dequeue count
  | updateState newState => exact ⟨h.sorted, h.fifo, h.accounted, h.critical, h.dropped, h.fair⟩
  | applyServerSignal signal =>
    exact ⟨h.sorted, h.fifo, h.accounted, h.critical, h.dropped, h.fair⟩

lemma disciplined_new (maxQueueSize : ℕ) : Disciplined ⟨.new maxQueueSize, [], [], []⟩ where
  sorted := .nil
  fifo _ := .refl _
  accounted := .refl _
  critical := List.forall_mem_nil _
  dropped := rfl
  fair := List.forall_mem_nil _

lemma Disciplined.foldl (h : Disciplined s) (es : List Event) :
    Disciplined (es.foldl State.next s) := by
  induction es generalizing s with
  | nil => exact h
  | cons e es ih => exact ih (h.next e)

/-! ## The queue on its own -/

/-- A call of `enqueue` or `dequeue`. -/
inductive QueueCall
  | enqueue (data : List UInt8) (priority : Priority) (sequenceNumber : ℕ) (draw : ℚ)
  | dequeue (count : ℕ)

/-- It is a call. -/
def QueueCall.event : QueueCall → Event
  | enqueue data priority sequenceNumber draw => .enqueue data priority sequenceNumber draw
  | dequeue count => .dequeue count

/-- Neither backpressure nor a loss under it. -/
def Relaxed (s : State) : Prop :=
  s.fc.backpressureActive = false ∧ ∀ loss ∈ s.lost, loss.backpressured = false

lemma backpressureActive_enqueue (fc : Controller) (data : List UInt8) (priority : Priority)
    (sequenceNumber : ℕ) (draw : ℚ) :
    (fc.enqueue data priority sequenceNumber draw).2.backpressureActive =
      fc.backpressureActive := by
  unfold Controller.enqueue
  split
  · rfl
  · split
    · rfl
    · split
      · split <;> rfl
      · rfl

lemma Relaxed.next (h : Relaxed s) (call : QueueCall) : Relaxed (s.next call.event) := by
  cases call with
  | dequeue count => exact h
  | enqueue data priority sequenceNumber draw =>
    refine ⟨(backpressureActive_enqueue _ _ _ _ _).trans h.1, fun loss hloss => ?_⟩
    obtain hloss | hloss := List.mem_append.mp hloss
    · exact h.2 loss hloss
    · obtain ⟨m, -, rfl⟩ := List.mem_map.mp hloss
      exact h.1

lemma Relaxed.foldl (h : Relaxed s) (calls : List QueueCall) :
    Relaxed ((calls.map QueueCall.event).foldl State.next s) := by
  induction calls generalizing s with
  | nil => exact h
  | cons call calls ih => exact ih (h.next call)

/-- A new controller after some calls. -/
def afterCalls (maxQueueSize : ℕ) (calls : List QueueCall) : State :=
  (calls.map QueueCall.event).foldl State.next { fc := .new maxQueueSize }

/-- What is to hold of a controller whose queue alone is used. -/
structure InOrder (s : State) : Prop where
  sorted : Sorted s.fc.queue
  fifo : ∀ p, (ofPriority p (s.dequeued ++ s.fc.queue)).Sublist (ofPriority p s.enqueued)
  critical : ofPriority .critical (s.dequeued ++ s.fc.queue) = ofPriority .critical s.enqueued
  fair : ∀ loss ∈ s.lost, ∀ m ∈ loss.kept, m.priority.rank ≤ loss.message.priority.rank
  accounted : (s.dequeued ++ s.fc.queue ++ s.lost.map Loss.message).Perm s.enqueued
  dropped : s.fc.messagesDropped + (s.fc.queue.length + s.dequeued.length) = s.enqueued.length

/-- **The discipline of the queue.** For every limit and all calls of `enqueue` and `dequeue` in any
order: the queue is sorted by priority, messages of one priority leave it in the order in which they
came, no critical one is lost, a message is lost only if it is as unimportant as all that are kept,
and the counter says how many were enqueued that are neither queued nor dequeued. -/
theorem inOrder_afterCalls (maxQueueSize : ℕ) (calls : List QueueCall) :
    InOrder (afterCalls maxQueueSize calls) := by
  have h : Disciplined (afterCalls maxQueueSize calls) := (disciplined_new maxQueueSize).foldl _
  have hrelaxed : Relaxed (afterCalls maxQueueSize calls) :=
    Relaxed.foldl ⟨rfl, List.forall_mem_nil _⟩ calls
  generalize afterCalls maxQueueSize calls = s at h hrelaxed
  have hlength := h.accounted.length_eq
  rw [List.length_append, List.length_append, List.length_map] at hlength
  constructor
  case sorted => exact h.sorted
  case fifo => exact h.fifo
  case accounted => exact h.accounted
  case fair => exact fun loss hloss => h.fair loss hloss (hrelaxed.2 loss hloss)
  case dropped =>
    rw [h.dropped]
    omega
  case critical =>
    -- No critical message is lost, so nothing of this priority is missing.
    have hnone : ofPriority .critical (s.lost.map Loss.message) = [] := by
      refine List.filter_eq_nil_iff.mpr fun m hm => ?_
      obtain ⟨loss, hloss, rfl⟩ := List.mem_map.mp hm
      simpa using h.critical loss hloss
    refine (h.fifo .critical).eq_of_length ?_
    have hperm : (ofPriority .critical (s.dequeued ++ s.fc.queue ++ s.lost.map Loss.message)).Perm
        (ofPriority .critical s.enqueued) := h.accounted.filter _
    rw [ofPriority_append, hnone, List.append_nil] at hperm
    exact hperm.length_eq

/-! ## The pause -/

/-- The flag is what the last state of the cluster and the last signal of the server say. -/
structure Pause where
  fc : Controller
  lastUpdate : FlowControlState := {}
  paused : Bool := false

/-- One call. -/
def Pause.next (s : Pause) : Event → Pause
  | .enqueue data priority sequenceNumber draw =>
    { s with fc := (s.fc.enqueue data priority sequenceNumber draw).2 }
  | .dequeue count => { s with fc := (s.fc.dequeue count).2 }
  | .updateState newState => { s with fc := s.fc.updateState newState, lastUpdate := newState }
  | .applyServerSignal signal =>
    { s with fc := s.fc.applyServerSignal signal, paused := signal.pause }

/-- Backpressure is reported if the last state asks for it, or the last signal was a pause. -/
def Follows (s : Pause) : Prop :=
  s.fc.isBackpressured = (shouldActivate s.lastUpdate || s.paused)

/-- During a pause, a state comes only if it asks for backpressure itself, and a signal that ends the
pause only while the last state asks for it. -/
def Steady (s : Pause) : Event → Prop
  | .updateState newState => s.paused = true → shouldActivate newState = true
  | .applyServerSignal signal =>
    s.paused = true → signal.pause = false → shouldActivate s.lastUpdate = true
  | _ => True

lemma follows_next_iff {s : Pause} (h : Follows s) (e : Event) :
    Follows (s.next e) ↔ Steady s e := by
  unfold Follows at h ⊢
  cases e with
  | enqueue data priority sequenceNumber draw =>
    exact iff_of_true ((backpressureActive_enqueue _ _ _ _ _).trans h) trivial
  | dequeue count => exact iff_of_true h trivial
  | updateState newState =>
    change shouldActivate newState = (shouldActivate newState || s.paused) ↔
      (s.paused = true → shouldActivate newState = true)
    cases s.paused <;> simp
  | applyServerSignal signal =>
    -- A signal only ever sets the flag.
    change (if signal.pause then true else s.fc.isBackpressured) =
        (shouldActivate s.lastUpdate || signal.pause) ↔
      (s.paused = true → signal.pause = false → shouldActivate s.lastUpdate = true)
    rw [h]
    cases signal.pause with
    | true => simp
    | false => cases s.paused <;> cases shouldActivate s.lastUpdate <;> simp

lemma shouldActivate_default : shouldActivate {} = false := by decide +kernel

/-- **Backpressure**, and when it follows the server. For every limit and all calls in any order: the
flag is throughout what the last state and the last signal say, if and only if no pause is followed
by a state that does not ask for backpressure, or by a signal that ends it while the last state does
not. -/
theorem follows_iff (maxQueueSize : ℕ) (es : List Event) :
    Lib.Always Pause.next Follows { fc := .new maxQueueSize } es ↔
      Lib.Allowed Pause.next Steady { fc := .new maxQueueSize } es := by
  refine Lib.always_iff_allowed (I := fun _ => True) (fun _ _ _ => trivial) ?_ trivial ?_ es
  · intro s e _ h
    exact follows_next_iff h e
  · change false = (shouldActivate {} || false)
    rw [shouldActivate_default, Bool.or_false]

/-- A pause, and its end. -/
def pauseAndResume : List Event :=
  [.applyServerSignal ⟨0, 0, true⟩, .applyServerSignal ⟨0, 0, false⟩]

/-- The pause does not end. -/
theorem not_follows_pauseAndResume :
    ¬ Lib.Always Pause.next Follows { fc := .new 1000 } pauseAndResume := by
  intro halways
  have hfollows : true = (shouldActivate {} || false) := halways.foldl
  rw [shouldActivate_default] at hfollows
  exact absurd hfollows (by decide)

end Paryty.Agent.FlowControl

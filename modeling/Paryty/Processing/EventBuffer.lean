import Paryty.Frontend.RingBuffer
import Paryty.Lib.DequeRuns

/-!
# The event buffer

`RingBuffer` of `cluster/internal/processing/helpers.go`, where the correlator keeps network events
until a batch takes them. It writes as the ring buffer of the frontend does and has a tail besides.

* `Holds`: what was pushed since the buffer was last drained.
* `run_deque`: it is a deque with a capacity, and no event is taken twice.
-/

namespace Paryty.Processing

variable {α : Type*}

/-- `RingBuffer`; a slot that is `none` is nil. -/
structure RingBuffer (α : Type*) where
  data : List (Option α)
  size : ℕ
  head : ℕ := 0
  tail : ℕ := 0
  count : ℕ := 0

namespace RingBuffer

/-- `NewRingBuffer`. -/
def new (size : ℕ) : RingBuffer α where
  data := List.replicate size none
  size := size

/-- `Push`. -/
def push (item : α) (rb : RingBuffer α) : RingBuffer α :=
  { rb with
    data := rb.data.set rb.head (some item)
    head := (rb.head + 1) % rb.size
    tail := if rb.count = rb.size then (rb.tail + 1) % rb.size else rb.tail
    count := if rb.count = rb.size then rb.count else rb.count + 1 }

/-- The slots in use, the oldest first. -/
def slots (rb : RingBuffer α) : List ℕ :=
  (List.range rb.count).map fun i => (rb.tail + i) % rb.size

/-- `GetAll`. -/
def getAll (rb : RingBuffer α) : List α := rb.slots.filterMap fun idx => (rb.data[idx]?).join

/-- `DrainAll`. -/
def drainAll (rb : RingBuffer α) : List α × RingBuffer α :=
  if rb.count = 0 then ([], rb)
  else
    (rb.getAll,
      { rb with
        data := rb.slots.foldl (fun data idx => data.set idx none) rb.data
        head := 0
        tail := 0
        count := 0 })

/-- The buffer that is drained from time to time. -/
def machine : Lib.Machine (RingBuffer α) (Lib.Deque.Op α) (List α) where
  step
    | rb, .push item => (rb.push item, [])
    | rb, .drain => (rb.drainAll.2, [rb.drainAll.1])

/-! ## What the buffer holds -/

/-- The buffer without its tail. -/
def ring (rb : RingBuffer α) : Frontend.RingBuffer α := ⟨rb.data, rb.head, rb.count, rb.size⟩

/-- The values pushed since the buffer was last drained. -/
structure Holds (rb : RingBuffer α) (values : List α) : Prop where
  ring : rb.ring.Holds values
  tail : rb.tail = if rb.count < rb.size then 0 else rb.head

variable {rb : RingBuffer α} {values : List α} {size : ℕ}

lemma holds_new (hsize : 0 < size) : (new size : RingBuffer α).Holds [] where
  ring := {
    pos := hsize
    length := List.length_replicate
    head := rfl
    size := (Nat.zero_min _).symm
    slot := by simp }
  tail := (if_pos hsize).symm

lemma Holds.count_eq (h : rb.Holds values) : rb.count = min values.length rb.size := h.ring.size

lemma Holds.push (h : rb.Holds values) (item : α) : (rb.push item).Holds (values ++ [item]) := by
  have hcount := h.count_eq
  have hring : (rb.push item).ring = rb.ring.push item := by
    unfold RingBuffer.push Frontend.RingBuffer.push RingBuffer.ring
    by_cases hfull : rb.count = rb.size
    · simp [hfull]
    · have hroom : rb.count < rb.size := by omega
      simp [hfull, hroom]
  refine ⟨hring ▸ h.ring.push item, ?_⟩
  have hpos : 0 < rb.size := h.ring.pos
  have htail := h.tail
  have hhead : rb.head = values.length % rb.size := h.ring.head
  unfold RingBuffer.push
  by_cases hfull : rb.count = rb.size
  · rw [if_neg (by omega)] at htail
    simp [hfull, htail]
  · -- The tail stays at the first slot until the buffer is full.
    rw [if_pos (by omega)] at htail
    rw [Nat.mod_eq_of_lt (by omega)] at hhead
    simp only [hfull, if_false, htail]
    split
    case isTrue => rfl
    case isFalse hlast =>
      rw [show rb.head + 1 = rb.size by omega, Nat.mod_self]

lemma Holds.getAll (h : rb.Holds values) :
    rb.getAll = values.drop (values.length - rb.size) := by
  refine Eq.trans ?_ (Frontend.RingBuffer.toArray_eq h.ring)
  have hcount := h.count_eq
  have htail := h.tail
  unfold RingBuffer.getAll slots Frontend.RingBuffer.toArray Frontend.RingBuffer.read RingBuffer.ring
  dsimp only
  by_cases hzero : rb.count = 0
  · rw [if_pos hzero, hzero]
    rfl
  · rw [if_neg hzero]
    by_cases hroom : rb.count < rb.size
    · rw [if_pos hroom] at htail ⊢
      have hslots : (List.range rb.count).map (fun i => (rb.tail + i) % rb.size) =
          List.range rb.count := by
        refine (List.map_congr_left fun i hi => ?_).trans (List.map_id _)
        have hlt := List.mem_range.mp hi
        rw [htail, Nat.zero_add, Nat.mod_eq_of_lt (by omega)]
        rfl
      rw [hslots]
    · rw [if_neg hroom] at htail ⊢
      rw [htail]

lemma size_drainAll : rb.drainAll.2.size = rb.size := by
  unfold drainAll
  split <;> rfl

lemma Holds.drainAll (h : rb.Holds values) :
    rb.drainAll.1 = rb.getAll ∧ rb.drainAll.2.Holds [] := by
  unfold RingBuffer.drainAll
  split
  case isTrue hzero =>
    have hcount := h.count_eq
    have hpos : 0 < rb.size := h.ring.pos
    obtain rfl : values = [] := List.length_eq_zero_iff.mp (by omega)
    exact ⟨(h.getAll.trans List.drop_nil).symm, h⟩
  case isFalse =>
    have hlength (slots : List ℕ) (data : List (Option α)) :
        (slots.foldl (fun data idx => data.set idx none) data).length = data.length := by
      induction slots generalizing data with
      | nil => rfl
      | cons idx slots ih => rw [List.foldl_cons, ih, List.length_set]
    refine ⟨rfl, ⟨⟨h.ring.pos, (hlength _ _).trans h.ring.length, rfl, ?_, by simp⟩, ?_⟩⟩
    · exact (Nat.zero_min _).symm
    · exact (if_pos h.ring.pos).symm

/-! ## Runs -/

lemma Holds.run (h : rb.Holds values) (ops : List (Lib.Deque.Op α)) :
    ((machine.run rb ops).1.getAll, (machine.run rb ops).2) =
      (Lib.Deque.machine rb.size).run rb.getAll ops := by
  induction ops generalizing rb values with
  | nil => rfl
  | cons op ops ih =>
    cases op with
    | push item =>
      have hnext : (rb.push item).getAll = Lib.Deque.push rb.size rb.getAll item := by
        rw [(h.push item).getAll, h.getAll, Lib.Deque.push_drop]
        rfl
      have hrest := ih (h.push item)
      rw [hnext] at hrest
      exact hrest
    | drain =>
      obtain ⟨htaken, hempty⟩ := h.drainAll
      have hrest := ih hempty
      rw [size_drainAll, hempty.getAll, List.drop_nil] at hrest
      simp only [Lib.Machine.run, machine, Lib.Deque.machine] at hrest ⊢
      rw [htaken, ← hrest]

/-- The buffer is a deque with a capacity, and what is taken from it, and what is left at the end, was
pushed in this order, each event once. -/
theorem run_deque (hsize : 0 < size) (ops : List (Lib.Deque.Op α)) :
    ((machine.run (new size) ops).1.getAll, (machine.run (new size) ops).2) =
      (Lib.Deque.machine size).run [] ops ∧
    ((machine.run (new size) ops).2.flatten ++ (machine.run (new size) ops).1.getAll).Sublist
      (ops.filterMap Lib.Deque.Op.pushed) := by
  have hrun := (holds_new hsize).run ops
  rw [(holds_new hsize).getAll, List.drop_nil, show (new size : RingBuffer α).size = size from rfl]
    at hrun
  have htaken : (((Lib.Deque.machine size).run [] ops).2.flatten ++
      ((Lib.Deque.machine size).run [] ops).1).Sublist ([] ++ ops.filterMap Lib.Deque.Op.pushed) :=
    Lib.Deque.taken_sublist ops []
  rw [List.nil_append, ← hrun] at htaken
  exact ⟨hrun, htaken⟩

/-- Three events in two slots. -/
theorem run_deque_three : (machine.run (new 2) [.push 1, .push 2, .push 3, .drain]).2 = [[2, 3]] :=
  congrArg Prod.snd (run_deque (by decide) [.push 1, .push 2, .push 3, .drain]).1

end RingBuffer

end Paryty.Processing

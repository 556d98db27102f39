import Mathlib.Data.Nat.ModEq
import Mathlib.Data.List.Basic
import Mathlib.Tactic.Lemma

/-!
# The ring buffer

`RingBuffer` of `frontend/src/engine/ringBuffer.ts`. `Holds` says which values were pushed since
the buffer was last cleared; `toArray_eq` says which of them it returns: all, or the last
`capacity` of them once it has wrapped.
-/

namespace Paryty.Frontend

variable {α : Type*}

/-- The buffer; `head` is the next write position. -/
structure RingBuffer (α : Type*) where
  buffer : List (Option α)
  head : ℕ
  size : ℕ
  capacity : ℕ

namespace RingBuffer

/-- An empty buffer; a capacity below 1 is taken as 1. -/
def new (capacity : ℕ) : RingBuffer α where
  buffer := List.replicate (max 1 capacity) none
  head := 0
  size := 0
  capacity := max 1 capacity

/-- Appends a value; if the buffer is full, the oldest is overwritten. -/
def push (value : α) (r : RingBuffer α) : RingBuffer α :=
  { r with
    buffer := r.buffer.set r.head (some value)
    head := (r.head + 1) % r.capacity
    size := if r.size < r.capacity then r.size + 1 else r.size }

/-- Appends multiple values. -/
def pushMany (values : List α) (r : RingBuffer α) : RingBuffer α :=
  values.foldl (fun r value => r.push value) r

/-- The values at the given places. -/
def read (r : RingBuffer α) (places : List ℕ) : List α :=
  places.filterMap fun i => (r.buffer[i]?).join

/-- The contents in insertion order. -/
def toArray (r : RingBuffer α) : List α :=
  if r.size = 0 then []
  else if r.size < r.capacity then r.read (List.range r.size)
  else r.read ((List.range r.size).map fun i => (r.head + i) % r.capacity)

/-- Clears the buffer without deallocating the backing array. -/
def clear (r : RingBuffer α) : RingBuffer α := { r with head := 0, size := 0 }

/-! ## What the buffer holds -/

/-- The values pushed since the buffer was last cleared. -/
structure Holds (r : RingBuffer α) (values : List α) : Prop where
  pos : 0 < r.capacity
  length : r.buffer.length = r.capacity
  head : r.head = values.length % r.capacity
  size : r.size = min values.length r.capacity
  slot : ∀ i value, values[i]? = some value → values.length ≤ i + r.capacity →
    r.buffer[i % r.capacity]? = some (some value)

lemma holds_new (capacity : ℕ) : (new capacity : RingBuffer α).Holds [] where
  pos := Nat.lt_of_lt_of_le Nat.zero_lt_one (Nat.le_max_left _ _)
  length := List.length_replicate
  head := rfl
  size := rfl
  slot := by simp

lemma Holds.clear {r : RingBuffer α} {values : List α} (h : r.Holds values) : r.clear.Holds [] where
  pos := h.pos
  length := h.length
  head := rfl
  size := (Nat.zero_min _).symm
  slot := by simp

lemma mod_ne {i n capacity : ℕ} (hlt : i < n) (hle : n < i + capacity) :
    i % capacity ≠ n % capacity := by
  intro heq
  have hdvd : capacity ∣ n - i := (Nat.modEq_iff_dvd' hlt.le).mp heq
  have := Nat.le_of_dvd (by omega) hdvd
  omega

lemma Holds.push {r : RingBuffer α} {values : List α} (h : r.Holds values) (value : α) :
    (r.push value).Holds (values ++ [value]) where
  pos := h.pos
  length := by
    rw [RingBuffer.push, List.length_set]
    exact h.length
  head := by
    rw [RingBuffer.push, h.head, List.length_append, List.length_singleton, Nat.mod_add_mod]
  size := by
    have hsize := h.size
    simp only [RingBuffer.push, List.length_append, List.length_singleton]
    split <;> omega
  slot := by
    intro i x hi hle
    have hhead : r.head < r.buffer.length := by
      rw [h.head, h.length]
      exact Nat.mod_lt _ h.pos
    simp only [RingBuffer.push, List.length_append, List.length_singleton] at hle ⊢
    rcases Nat.lt_trichotomy i values.length with hlt | heq | hgt
    · -- Another slot is written.
      rw [List.getElem?_append_left hlt] at hi
      rw [List.getElem?_set_ne]
      · exact h.slot i x hi (by omega)
      · rw [h.head]
        exact (mod_ne hlt (by omega)).symm
    · subst heq
      rw [List.getElem?_append_right (Nat.le_refl _), Nat.sub_self] at hi
      rw [← h.head, List.getElem?_set_self hhead]
      exact congrArg some hi
    · rw [List.getElem?_eq_none] at hi
      · exact absurd hi (by simp)
      · rw [List.length_append, List.length_singleton]
        exact hgt

lemma Holds.pushMany {r : RingBuffer α} {values : List α} (h : r.Holds values) (more : List α) :
    (r.pushMany more).Holds (values ++ more) := by
  induction more generalizing r values with
  | nil => simpa [RingBuffer.pushMany] using h
  | cons value more ih => simpa [RingBuffer.pushMany] using ih (h.push value)

lemma Holds.read_eq {r : RingBuffer α} {values : List α} (h : r.Holds values) {n start : ℕ}
    (hlength : start + n = values.length) (hle : n ≤ r.capacity) :
    r.read ((List.range n).map fun i => (start + i) % r.capacity) = values.drop start := by
  induction n generalizing start with
  | zero =>
    rw [List.drop_eq_nil_of_le (by omega)]
    rfl
  | succ n ih =>
    have hstart : start < values.length := by omega
    have hslot := h.slot start values[start] (List.getElem?_eq_getElem hstart) (by omega)
    have hrest := @ih (start + 1) (by omega) (by omega)
    have hplaces : ((List.range n).map (· + 1)).map (fun i => (start + i) % r.capacity) =
        (List.range n).map fun i => (start + 1 + i) % r.capacity := by
      rw [List.map_map]
      refine List.map_congr_left fun i _ => ?_
      rw [Function.comp_apply, Nat.add_right_comm, Nat.add_assoc]
    rw [List.range_succ_eq_map, List.map_cons, hplaces, List.drop_eq_getElem_cons hstart, ← hrest]
    simp [read, hslot]

/-- The last values that were pushed, as many as fit. -/
theorem toArray_eq {r : RingBuffer α} {values : List α} (h : r.Holds values) :
    r.toArray = values.drop (values.length - r.capacity) := by
  have hpos := h.pos
  have hsize := h.size
  unfold toArray
  split
  case isTrue hzero =>
    have hnil : values = [] := List.length_eq_zero_iff.mp (by omega)
    rw [hnil, List.drop_nil]
  case isFalse hzero =>
    split
    case isTrue hlt =>
      have hplaces : List.range r.size =
          (List.range r.size).map fun i => (0 + i) % r.capacity := by
        refine (List.map_id _).symm.trans (List.map_congr_left fun i hi => ?_)
        have := List.mem_range.mp hi
        rw [Nat.zero_add, Nat.mod_eq_of_lt (by omega)]
        rfl
      rw [hplaces, h.read_eq (by omega) (by omega)]
      congr 1
      omega
    case isFalse hge =>
      have hplaces : (List.range r.size).map (fun i => (r.head + i) % r.capacity) =
          (List.range r.size).map fun i => (values.length - r.capacity + i) % r.capacity := by
        refine List.map_congr_left fun i _ => ?_
        have hlength : values.length = values.length - r.capacity + r.capacity := by omega
        rw [h.head, Nat.mod_add_mod]
        conv_lhs => rw [hlength, Nat.add_right_comm, Nat.add_mod_right]
      rw [hplaces, h.read_eq (by omega) (by omega)]

lemma toArray_pushMany {r : RingBuffer α} {values more : List α} (h : r.Holds values)
    (hbelow : (r.pushMany more).size < (r.pushMany more).capacity) :
    (r.pushMany more).toArray = r.toArray ++ more := by
  have hmore := h.pushMany more
  have hcapacity : (r.pushMany more).capacity = r.capacity := by
    unfold RingBuffer.pushMany
    clear hmore hbelow
    induction more generalizing r values with
    | nil => rfl
    | cons value more ih => exact ih (h.push value)
  have hlength : (values ++ more).length < r.capacity := by
    have hsize := hmore.size
    omega
  rw [List.length_append] at hlength
  rw [toArray_eq hmore, toArray_eq h, hcapacity, List.length_append,
    Nat.sub_eq_zero_of_le (by omega), Nat.sub_eq_zero_of_le (by omega), List.drop_zero,
    List.drop_zero]

lemma toArray_clear (r : RingBuffer α) : r.clear.toArray = [] := if_pos rfl

end RingBuffer

end Paryty.Frontend

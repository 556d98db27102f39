import Mathlib.Algebra.Order.Ring.Nat
import Mathlib.Data.List.Basic
import Mathlib.Tactic.Linarith
import Mathlib.Tactic.Ring

/-!
# Arrays of slots

An array that is cut into slots of one size. `writeAt` stores values one after the other; what is
written at the start of a slot changes the first positions of that slot and nothing else.
-/

namespace Lib.Slots

variable {α : Type*} {data xs : List α} {size pos i j k : ℕ}

/-- The slot `i`. -/
def slot (size : ℕ) (data : List α) (i : ℕ) : List α := (data.drop (i * size)).take size

/-- Store the values from a position on. -/
def writeAt (data : List α) (pos : ℕ) : List α → List α
  | [] => data
  | x :: xs => writeAt (data.set pos x) (pos + 1) xs

@[simp] lemma length_writeAt : (writeAt data pos xs).length = data.length := by
  induction xs generalizing data pos with
  | nil => rfl
  | cons x xs ih => rw [writeAt, ih, List.length_set]

lemma getElem?_writeAt_of_lt (h : j < pos) : (writeAt data pos xs)[j]? = data[j]? := by
  induction xs generalizing data pos with
  | nil => rfl
  | cons x xs ih => rw [writeAt, ih (Nat.lt_succ_of_lt h), List.getElem?_set_ne h.ne']

lemma getElem?_writeAt_of_le (h : pos + xs.length ≤ j) :
    (writeAt data pos xs)[j]? = data[j]? := by
  induction xs generalizing data pos with
  | nil => rfl
  | cons x xs ih =>
    rw [List.length_cons] at h
    rw [writeAt, ih (by omega), List.getElem?_set_ne (by omega)]

lemma getElem?_writeAt (hk : k < xs.length) (h : pos + xs.length ≤ data.length) :
    (writeAt data pos xs)[pos + k]? = xs[k]? := by
  induction xs generalizing data pos k with
  | nil => exact nomatch hk
  | cons x xs ih =>
    rw [List.length_cons] at h hk
    cases k with
    | zero =>
      rw [writeAt]
      exact (getElem?_writeAt_of_lt (Nat.lt_succ_self pos)).trans
        (List.getElem?_set_self (by omega))
    | succ k =>
      have hrest : (writeAt (data.set pos x) (pos + 1) xs)[pos + 1 + k]? = xs[k]? :=
        ih (by omega) (by rw [List.length_set]; omega)
      rwa [Nat.add_assoc, Nat.add_comm 1 k] at hrest

lemma getElem?_slot (hk : k < size) : (slot size data i)[k]? = data[i * size + k]? := by
  rw [slot, List.getElem?_take_of_lt hk, List.getElem?_drop]

lemma length_slot (h : (i + 1) * size ≤ data.length) : (slot size data i).length = size := by
  rw [slot, List.length_take, List.length_drop]
  rw [Nat.succ_mul] at h
  omega

lemma slot_writeAt_self (hxs : xs.length ≤ size) (h : (i + 1) * size ≤ data.length) :
    slot size (writeAt data (i * size) xs) i = xs ++ (slot size data i).drop xs.length := by
  have hend : i * size + xs.length ≤ data.length := by
    rw [Nat.succ_mul] at h
    omega
  refine List.ext_getElem? fun k => ?_
  by_cases hk : k < size
  · rw [getElem?_slot hk]
    by_cases hwritten : k < xs.length
    · rw [getElem?_writeAt hwritten hend, List.getElem?_append_left hwritten]
    · have hle : xs.length ≤ k := not_lt.mp hwritten
      rw [getElem?_writeAt_of_le (by omega), List.getElem?_append_right hle, List.getElem?_drop,
        Nat.add_sub_cancel' hle, getElem?_slot hk]
  · have hk' : size ≤ k := not_lt.mp hk
    rw [List.getElem?_eq_none, List.getElem?_eq_none]
    · rw [List.length_append, List.length_drop, length_slot h]
      omega
    · rwa [length_slot (by rwa [length_writeAt])]

lemma slot_writeAt_ne (hxs : xs.length ≤ size) (hij : i ≠ j) :
    slot size (writeAt data (i * size) xs) j = slot size data j := by
  refine List.ext_getElem? fun k => ?_
  by_cases hk : k < size
  · rw [getElem?_slot hk, getElem?_slot hk]
    rcases Nat.lt_or_gt_of_ne hij with hlt | hgt
    · have hbefore : (i + 1) * size ≤ j * size := Nat.mul_le_mul_right size hlt
      rw [Nat.succ_mul] at hbefore
      exact getElem?_writeAt_of_le (by omega)
    · have hafter : (j + 1) * size ≤ i * size := Nat.mul_le_mul_right size hgt
      rw [Nat.succ_mul] at hafter
      exact getElem?_writeAt_of_lt (by omega)
  · have hk' : size ≤ k := not_lt.mp hk
    have hlong (data : List α) : (slot size data j).length ≤ k := by
      rw [slot, List.length_take]
      omega
    rw [List.getElem?_eq_none (hlong _), List.getElem?_eq_none (hlong _)]

end Lib.Slots

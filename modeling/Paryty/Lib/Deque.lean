import Mathlib.Data.List.Basic
import Mathlib.Tactic.Lemma

/-!
# Deques with a capacity

A deque that is bounded gives up elements at the left for one that is appended at the right.
`push` is what it keeps, `evicted` what it gives up.
-/

namespace Lib.Deque

variable {α : Type*} {capacity : ℕ} {xs : List α} {x : α}

/-- The elements that are kept when one is appended. -/
def push (capacity : ℕ) (xs : List α) (x : α) : List α :=
  (xs ++ [x]).drop (xs.length + 1 - capacity)

/-- The elements that are given up. -/
def evicted (capacity : ℕ) (xs : List α) (x : α) : List α :=
  (xs ++ [x]).take (xs.length + 1 - capacity)

lemma evicted_append_push : evicted capacity xs x ++ push capacity xs x = xs ++ [x] :=
  List.take_append_drop _ _

lemma push_suffix : push capacity xs x <:+ xs ++ [x] := List.drop_suffix _ _

lemma length_push_le : (push capacity xs x).length ≤ capacity := by
  rw [push, List.length_drop, List.length_append, List.length_singleton]
  omega

lemma push_of_lt (h : xs.length < capacity) : push capacity xs x = xs ++ [x] := by
  rw [push, show xs.length + 1 - capacity = 0 by omega, List.drop_zero]

lemma push_zero : push 0 xs x = [] := by simp [push]

lemma push_drop : push capacity (xs.drop (xs.length - capacity)) x =
    (xs ++ [x]).drop ((xs ++ [x]).length - capacity) := by
  rw [push, ← List.drop_append_of_le_length (Nat.sub_le _ _), List.drop_drop, List.length_drop,
    List.length_append, List.length_singleton]
  congr 1
  omega

end Lib.Deque

import Paryty.Lib.Deque
import Paryty.Lib.Unwinding

/-!
# Runs of a deque

`machine` is a deque with a capacity that is drained from time to time, and `taken_sublist` says that
no element comes out of it twice.
-/

namespace Lib.Deque

variable {α : Type*} {capacity : ℕ}

/-- What is done to a deque. -/
inductive Op (α : Type*)
  | push (x : α)
  | drain

/-- The element that is pushed. -/
def Op.pushed : Op α → Option α
  | .push x => some x
  | .drain => none

/-- A deque of which all elements are taken at once. -/
def machine (capacity : ℕ) : Machine (List α) (Op α) (List α) where
  step
    | xs, .push x => (push capacity xs x, [])
    | xs, .drain => ([], [xs])

lemma taken_sublist (ops : List (Op α)) (xs : List α) :
    (((machine capacity).run xs ops).2.flatten ++ ((machine capacity).run xs ops).1).Sublist
      (xs ++ ops.filterMap Op.pushed) := by
  induction ops generalizing xs with
  | nil => simp [Machine.run]
  | cons op ops ih =>
    cases op with
    | push x =>
      refine (ih (push capacity xs x)).trans ?_
      rw [List.filterMap_cons_some (show (Op.push x).pushed = some x from rfl),
        List.append_cons xs x]
      exact push_suffix.sublist.append_right _
    | drain =>
      have hrest := ih []
      rw [List.nil_append] at hrest
      refine List.Sublist.trans ?_ (hrest.append_left xs)
      rw [← List.append_assoc]
      exact .refl _

end Lib.Deque

import Mathlib.Order.Lattice
import Mathlib.Order.Nat
import Mathlib.Tactic.Lemma

/-!
# The first largest number of a range

`FirstMax f start stop m`: in the range from `start` on below `stop`, `f` is largest at `m` and
smaller at every number before. A loop that goes through the range and keeps the largest so far
follows `single`, `keep` and `replace`.
-/

namespace Lib

variable {α : Type*} [LinearOrder α] {f : ℕ → α} {start stop m m' : ℕ}

/-- `f` is largest at `m`, and at no number of the range before. -/
structure FirstMax (f : ℕ → α) (start stop m : ℕ) : Prop where
  start_le : start ≤ m
  lt_stop : m < stop
  max : ∀ j, start ≤ j → j < stop → f j ≤ f m
  first : ∀ j, start ≤ j → j < m → f j < f m

namespace FirstMax

lemma single : FirstMax f start (start + 1) start where
  start_le := Nat.le_refl _
  lt_stop := Nat.lt_succ_self _
  max j hle hlt := by rw [Nat.le_antisymm (Nat.le_of_lt_succ hlt) hle]
  first j hle hlt := absurd hlt (Nat.not_lt.mpr hle)

lemma keep (h : FirstMax f start stop m) (hle : f stop ≤ f m) : FirstMax f start (stop + 1) m where
  start_le := h.start_le
  lt_stop := Nat.lt_succ_of_lt h.lt_stop
  max j hj hlt := by
    rcases Nat.lt_succ_iff_lt_or_eq.mp hlt with hlt | rfl
    · exact h.max j hj hlt
    · exact hle
  first := h.first

lemma replace (h : FirstMax f start stop m) (hlt : f m < f stop) :
    FirstMax f start (stop + 1) stop where
  start_le := h.start_le.trans h.lt_stop.le
  lt_stop := Nat.lt_succ_self _
  max j hj hjlt := by
    rcases Nat.lt_succ_iff_lt_or_eq.mp hjlt with hjlt | rfl
    · exact (h.max j hj hjlt).trans hlt.le
    · exact le_rfl
  first j hj hjlt := (h.max j hj hjlt).trans_lt hlt

lemma unique (h : FirstMax f start stop m) (h' : FirstMax f start stop m') : m = m' := by
  rcases Nat.lt_trichotomy m m' with hlt | heq | hgt
  · exact absurd (h'.first m h.start_le hlt) (not_lt.mpr (h.max m' h'.start_le h'.lt_stop))
  · exact heq
  · exact absurd (h.first m' h'.start_le hgt) (not_lt.mpr (h'.max m h.start_le h.lt_stop))

end FirstMax

end Lib

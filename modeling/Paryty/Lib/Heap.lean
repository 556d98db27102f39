import Mathlib.Logic.Equiv.Basic
import Mathlib.Order.Lattice
import Mathlib.Order.Nat
import Mathlib.Tactic.Set

/-!
# Binary heaps

A binary min-heap in an array: position `j` has its parent at `(j - 1) / 2`. The array is a function
here, with a top element at the positions behind its end, so no lemma asks for a bound. A value that
changed is `Misplaced` until it has sunk below its smaller children (`Misplaced.swap_child`) or risen
above its larger parents (`Misplaced.swap_parent`).
-/

namespace Lib.Heap

variable {β : Type*} [LinearOrder β] {f : ℕ → β} {i j : ℕ}

/-- The position above `j`; the first one is above itself. -/
def parent (j : ℕ) : ℕ := (j - 1) / 2

lemma parent_le (j : ℕ) : parent j ≤ j := by
  unfold parent
  omega

lemma parent_lt (hj : 0 < j) : parent j < j := by
  unfold parent
  omega

lemma lt_of_parent_eq (hparent : parent j = i) (hne : j ≠ i) : i < j := by
  have hle := parent_le j
  omega

/-- A child of `i` is at `2 * i + 1` or at `2 * i + 2`. -/
lemma parent_eq_iff (hj : 0 < j) : parent j = i ↔ j = 2 * i + 1 ∨ j = 2 * i + 2 := by
  unfold parent
  omega

/-- No value is smaller than the one above it. -/
def Ordered (f : ℕ → β) : Prop := ∀ j, f (parent j) ≤ f j

lemma Ordered.first_le (h : Ordered f) (j : ℕ) : f 0 ≤ f j := by
  induction j using Nat.strongRecOn with
  | ind j ih =>
    by_cases hj : 0 < j
    · exact (ih _ (parent_lt hj)).trans (h j)
    · obtain rfl : j = 0 := by omega
      exact le_refl _

/-- Only the value at `i` is out of place. -/
structure Misplaced (f : ℕ → β) (i : ℕ) : Prop where
  edges : ∀ j, j ≠ i → parent j ≠ i → f (parent j) ≤ f j
  above : 0 < i → ∀ j, parent j = i → f (parent i) ≤ f j

/-- The children of `i` are not smaller. -/
def AboveChildren (f : ℕ → β) (i : ℕ) : Prop := ∀ j, 0 < j → parent j = i → f i ≤ f j

lemma Ordered.misplaced (h : Ordered f) {g : ℕ → β} (hg : ∀ j, j ≠ i → g j = f j) :
    Misplaced g i where
  edges j hj hparent := by
    rw [hg j hj, hg _ hparent]
    exact h j
  above hi j hj := by
    have hup : parent i < i := parent_lt hi
    have hdown : j ≠ i := by
      rintro rfl
      omega
    rw [hg j hdown, hg _ hup.ne]
    calc f (parent i) ≤ f i := h i
      _ ≤ f j := hj ▸ h j

lemma Misplaced.ordered (h : Misplaced f i) (hbelow : f (parent i) ≤ f i)
    (habove : AboveChildren f i) : Ordered f := by
  intro j
  by_cases hj : j = i
  · exact hj ▸ hbelow
  · by_cases hparent : parent j = i
    · have hlt : i < j := lt_of_parent_eq hparent hj
      exact hparent ▸ habove j (by omega) hparent
    · exact h.edges j hj hparent

omit [LinearOrder β] in
lemma swap_other (f : ℕ → β) {k : ℕ} (hi : k ≠ i) (hj : k ≠ j) :
    (f ∘ Equiv.swap i j) k = f k := by
  rw [Function.comp_apply, Equiv.swap_apply_of_ne_of_ne hi hj]

lemma Misplaced.swap_child (h : Misplaced f i) (hj : parent j = i) (hne : j ≠ i)
    (hsmallest : ∀ c, 0 < c → parent c = i → f j ≤ f c) (hlt : f j < f i) :
    Misplaced (f ∘ Equiv.swap i j) j ∧
      (f ∘ Equiv.swap i j) (parent j) ≤ (f ∘ Equiv.swap i j) j := by
  have hij : i < j := lt_of_parent_eq hj hne
  have hi : (f ∘ Equiv.swap i j) i = f j := by simp
  have hat : (f ∘ Equiv.swap i j) j = f i := by simp
  refine ⟨⟨fun k hk hparent => ?_, fun _ k hk => ?_⟩, ?_⟩
  · by_cases hki : k = i
    · -- The edge into `i`: what is above `i` was above its child, too.
      subst hki
      by_cases hkpos : 0 < k
      · rw [hi, swap_other f (parent_lt hkpos).ne hparent]
        exact h.above hkpos j hj
      · obtain rfl : k = 0 := by omega
        exact le_refl _
    · rw [swap_other f hki hk]
      by_cases hpi : parent k = i
      · -- The edge to the other child of `i`.
        have hik : i < k := lt_of_parent_eq hpi hki
        rw [hpi, hi]
        exact hsmallest k (by omega) hpi
      · rw [swap_other f hpi hparent]
        exact h.edges k hki hpi
  · -- The children of `j` were not smaller than the value that is now above `j`.
    have hkj : k ≠ j := by
      rintro rfl
      omega
    have hjk : j < k := lt_of_parent_eq hk hkj
    rw [hj, hi, swap_other f (by omega) hkj, ← hk]
    exact h.edges k (by omega) (by omega)
  · rw [hj, hi, hat]
    exact hlt.le

lemma Misplaced.swap_parent (h : Misplaced f j) (habove : AboveChildren f j)
    (hlt : f j < f (parent j)) :
    Misplaced (f ∘ Equiv.swap (parent j) j) (parent j) ∧
      AboveChildren (f ∘ Equiv.swap (parent j) j) (parent j) := by
  have hne : j ≠ parent j := fun hsame => hlt.ne (congrArg f hsame)
  have hij : parent j < j := lt_of_parent_eq rfl hne
  set i := parent j with hi'
  have hi : (f ∘ Equiv.swap i j) i = f j := by simp
  have hat : (f ∘ Equiv.swap i j) j = f i := by simp
  -- The other child of `i` was not smaller than the old value there.
  have hsibling (k : ℕ) (hk : k ≠ j) (hparent : parent k = i) : f i ≤ f k := by
    rw [← hparent]
    exact h.edges k hk (by omega)
  refine ⟨⟨fun k hk hparent => ?_, fun hipos k hk => ?_⟩, fun k hkpos hk => ?_⟩
  · have hkj : k ≠ j := by
      rintro rfl
      exact hparent hi'.symm
    rw [swap_other f hk hkj]
    by_cases hpj : parent k = j
    · rw [hpj, hat]
      exact h.above (by omega) k hpj
    · rw [swap_other f hparent hpj]
      exact h.edges k hkj hpj
  · have hup : parent i < i := parent_lt hipos
    have htop : f (parent i) ≤ f i := h.edges i (by omega) (by omega)
    rw [swap_other f hup.ne (by omega)]
    by_cases hkj : k = j
    · rw [hkj, hat]
      exact htop
    · have hki : k ≠ i := by
        rintro rfl
        omega
      rw [swap_other f hki hkj]
      exact htop.trans (hsibling k hkj hk)
  · by_cases hkj : k = j
    · rw [hkj, hi, hat]
      exact hlt.le
    · have hki : k ≠ i := by
        have hup : parent k < k := parent_lt hkpos
        omega
      rw [hi, swap_other f hki hkj]
      exact hlt.le.trans (hsibling k hkj hk)

end Lib.Heap

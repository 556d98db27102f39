import Mathlib.Data.List.Perm.Basic
import Mathlib.Order.WithBot
import Paryty.Lib.Heap
import Paryty.Processing.TopN

/-!
# The heap of the Top-N tracker

`up`, `down`, `Fix` and `Push` of `container/heap` keep the entries and put the smallest one first.
-/

namespace Paryty.Processing

namespace MinHeap

open Lib.Heap (parent Ordered Misplaced AboveChildren parent_le parent_lt parent_eq_iff)

variable {h : List TopNEntry} {i j : ℕ}

/-! ## Values -/

/-- The value of entry `i`; behind the end there is none smaller. -/
def valueAt (h : List TopNEntry) (i : ℕ) : WithTop ℚ := h[i]?.elim ⊤ fun e => (e.value : WithTop ℚ)

lemma valueAt_of_le (hi : h.length ≤ i) : valueAt h i = ⊤ := by
  rw [valueAt, List.getElem?_eq_none hi]
  rfl

lemma valueAt_of_lt (hi : i < h.length) : valueAt h i = (h[i].value : WithTop ℚ) := by
  rw [valueAt, List.getElem?_eq_getElem hi]
  rfl

/-- `Less` of an entry and one that is not behind it. -/
lemma less_iff (hij : i ≤ j) : less h j i = true ↔ valueAt h j < valueAt h i := by
  by_cases hj : j < h.length
  · have hi : i < h.length := by omega
    rw [valueAt_of_lt hj, valueAt_of_lt hi, less, List.getElem?_eq_getElem hj,
      List.getElem?_eq_getElem hi, WithTop.coe_lt_coe, decide_eq_true_eq]
  · rw [valueAt_of_le (by omega), less, List.getElem?_eq_none (by omega)]
    exact iff_of_false (by simp) not_top_lt

lemma not_less_iff (hij : i ≤ j) : less h j i = false ↔ valueAt h i ≤ valueAt h j := by
  rw [← Bool.not_eq_true, less_iff hij, not_lt]

/-! ## Swapping -/

lemma swap_eq (hi : i < h.length) (hj : j < h.length) :
    swap h i j = (h.set i h[j]).set j h[i] := by
  rw [swap, List.getElem?_eq_getElem hi, List.getElem?_eq_getElem hj]

lemma swap_of_le (hij : h.length ≤ i ∨ h.length ≤ j) : swap h i j = h := by
  rw [swap]
  rcases hij with hi | hj
  · rw [List.getElem?_eq_none hi]
  · rw [List.getElem?_eq_none hj]
    cases h[i]? <;> rfl

lemma perm_swap (h : List TopNEntry) (i j : ℕ) : (swap h i j).Perm h := by
  by_cases hi : i < h.length
  · by_cases hj : j < h.length
    · rw [swap_eq hi hj]
      exact List.set_set_perm hi hj
    · rw [swap_of_le (.inr (by omega))]
  · rw [swap_of_le (.inl (by omega))]

lemma length_swap (h : List TopNEntry) (i j : ℕ) : (swap h i j).length = h.length :=
  (perm_swap h i j).length_eq

lemma getElem?_swap (hi : i < h.length) (hj : j < h.length) (k : ℕ) :
    (swap h i j)[k]? = h[Equiv.swap i j k]? := by
  rw [swap_eq hi hj, List.getElem?_set, List.getElem?_set, List.length_set, Equiv.swap_apply_def]
  by_cases hki : k = i
  · by_cases hij : j = i
    · subst hki hij
      simp [hi]
    · subst hki
      simp [hij, hi, hj]
  · by_cases hkj : k = j
    · subst hkj
      simp [hki, hi, hj]
    · simp [hki, hkj, Ne.symm hki, Ne.symm hkj]

lemma valueAt_swap (hi : i < h.length) (hj : j < h.length) :
    valueAt (swap h i j) = valueAt h ∘ Equiv.swap i j := by
  funext k
  rw [valueAt, getElem?_swap hi hj, Function.comp_apply, valueAt]

/-! ## Sifting -/

lemma perm_up (fuel : ℕ) (h : List TopNEntry) (j : ℕ) : (up fuel h j).Perm h := by
  induction fuel generalizing h j with
  | zero => exact .refl h
  | succ fuel ih =>
    rw [up]
    split
    · exact .refl h
    · exact (ih _ _).trans (perm_swap h _ j)

lemma ordered_up {fuel : ℕ} (hfuel : j ≤ fuel) (hj : j < h.length)
    (hplace : Misplaced (valueAt h) j) (habove : AboveChildren (valueAt h) j) :
    Ordered (valueAt (up fuel h j)) := by
  induction fuel generalizing h j with
  | zero =>
    obtain rfl : j = 0 := by omega
    exact hplace.ordered (le_refl _) habove
  | succ fuel ih =>
    have hup : parent j ≤ j := parent_le j
    show Ordered (valueAt (if parent j = j ∨ (!less h j (parent j)) = true then h
      else up fuel (swap h (parent j) j) (parent j)))
    by_cases hstop : parent j = j ∨ (!less h j (parent j)) = true
    · rw [if_pos hstop]
      refine hplace.ordered ?_ habove
      rcases hstop with hfirst | hless
      · exact (congrArg (valueAt h) hfirst).le
      · exact (not_less_iff hup).mp (by simpa using hless)
    · rw [if_neg hstop]
      rw [not_or, Bool.not_eq_true', Bool.not_eq_false, less_iff hup] at hstop
      have hlt : parent j < j := lt_of_le_of_ne hup hstop.1
      obtain ⟨hplace', habove'⟩ := hplace.swap_parent habove hstop.2
      rw [← valueAt_swap (hlt.trans hj) hj] at hplace' habove'
      exact ih (by omega) (by rw [length_swap]; omega) hplace' habove'

/-- The child of entry `i` with which `down` compares it. -/
def smallerChild (h : List TopNEntry) (i : ℕ) : ℕ :=
  if 2 * i + 2 < h.length ∧ less h (2 * i + 2) (2 * i + 1) then 2 * i + 2 else 2 * i + 1

lemma down_succ (fuel : ℕ) (h : List TopNEntry) (i : ℕ) : down (fuel + 1) h i =
    if h.length ≤ 2 * i + 1 then (h, false)
    else if !less h (smallerChild h i) i then (h, false)
    else ((down fuel (swap h i (smallerChild h i)) (smallerChild h i)).1, true) := rfl

lemma smallerChild_eq (h : List TopNEntry) (i : ℕ) :
    smallerChild h i = 2 * i + 1 ∨ smallerChild h i = 2 * i + 2 := by
  unfold smallerChild
  split <;> omega

lemma smallerChild_lt (hi : 2 * i + 1 < h.length) : smallerChild h i < h.length := by
  unfold smallerChild
  split <;> omega

lemma valueAt_smallerChild_le (hj : 0 < j) (hparent : parent j = i) :
    valueAt h (smallerChild h i) ≤ valueAt h j := by
  rw [parent_eq_iff hj] at hparent
  unfold smallerChild
  split
  case isTrue hright =>
    rcases hparent with rfl | rfl
    · exact ((less_iff (by omega)).mp hright.2).le
    · exact le_refl _
  case isFalse hleft =>
    rcases hparent with rfl | rfl
    · exact le_refl _
    · by_cases hlen : 2 * i + 2 < h.length
      · rw [← not_less_iff (by omega), ← Bool.not_eq_true]
        exact fun hless => hleft ⟨hlen, hless⟩
      · rw [valueAt_of_le (i := 2 * i + 2) (by omega)]
        exact le_top

lemma perm_down (fuel : ℕ) (h : List TopNEntry) (i : ℕ) : (down fuel h i).1.Perm h := by
  induction fuel generalizing h i with
  | zero => exact .refl h
  | succ fuel ih =>
    rw [down_succ]
    split
    · exact .refl h
    · split
      · exact .refl h
      · exact (ih _ _).trans (perm_swap h i _)

lemma aboveChildren_of_le (hend : h.length ≤ 2 * i + 1) : AboveChildren (valueAt h) i := by
  intro c hc hparent
  rw [parent_eq_iff hc] at hparent
  rw [valueAt_of_le (i := c) (by omega)]
  exact le_top

lemma ordered_down {fuel : ℕ} (hfuel : h.length ≤ fuel + i)
    (hplace : Misplaced (valueAt h) i) :
    if (down fuel h i).2 then Ordered (valueAt (down fuel h i).1)
    else (down fuel h i).1 = h ∧ AboveChildren (valueAt h) i := by
  induction fuel generalizing h i with
  | zero => exact ⟨rfl, aboveChildren_of_le (by omega)⟩
  | succ fuel ih =>
    rw [down_succ]
    by_cases hend : h.length ≤ 2 * i + 1
    · rw [if_pos hend]
      exact ⟨rfl, aboveChildren_of_le hend⟩
    · rw [if_neg hend]
      have hchild := smallerChild_eq h i
      have hin : smallerChild h i < h.length := smallerChild_lt (by omega)
      have hparent : parent (smallerChild h i) = i := (parent_eq_iff (by omega)).mpr hchild
      by_cases hless : less h (smallerChild h i) i = true
      · rw [hless]
        obtain ⟨hplace', hedge⟩ := hplace.swap_child hparent (by omega)
          (fun c hc => valueAt_smallerChild_le hc) ((less_iff (by omega)).mp hless)
        rw [← valueAt_swap (by omega) hin] at hplace' hedge
        have hdown := ih (by rw [length_swap]; omega) hplace'
        show Ordered (valueAt (down fuel (swap h i (smallerChild h i)) (smallerChild h i)).1)
        by_cases hmoved : (down fuel (swap h i (smallerChild h i)) (smallerChild h i)).2 = true
        · rw [if_pos hmoved] at hdown
          exact hdown
        · -- It stays at the child.
          rw [if_neg hmoved] at hdown
          rw [hdown.1]
          exact hplace'.ordered hedge hdown.2
      · rw [Bool.not_eq_true] at hless
        rw [hless]
        refine ⟨rfl, fun c hc hc' => ?_⟩
        exact ((not_less_iff (by omega)).mp hless).trans (valueAt_smallerChild_le hc hc')

/-! ## `Fix` and `Push` -/

lemma perm_fix (h : List TopNEntry) (i : ℕ) : (fix h i).Perm h := by
  unfold fix
  dsimp only
  split
  · exact perm_down _ h i
  · exact (perm_up _ _ i).trans (perm_down _ h i)

/-- `Fix` puts an entry in its place. -/
lemma ordered_fix (hi : i < h.length) (hplace : Misplaced (valueAt h) i) :
    Ordered (valueAt (fix h i)) := by
  have hdown := @ordered_down h i h.length (by omega) hplace
  unfold fix
  dsimp only
  by_cases hmoved : (down h.length h i).2 = true
  · rw [if_pos hmoved] at hdown ⊢
    exact hdown
  · rw [if_neg hmoved] at hdown ⊢
    rw [hdown.1]
    exact ordered_up hi.le hi hplace hdown.2

lemma ordered_fix_set (hordered : Ordered (valueAt h)) (hi : i < h.length) (entry : TopNEntry) :
    Ordered (valueAt (fix (h.set i entry) i)) := by
  refine ordered_fix (by rwa [List.length_set]) (hordered.misplaced fun j hj => ?_)
  rw [valueAt, List.getElem?_set_ne hj.symm, valueAt]

lemma perm_push (h : List TopNEntry) (entry : TopNEntry) : (push h entry).Perm (entry :: h) :=
  (perm_up _ _ _).trans (List.perm_append_singleton entry h)

/-- `Push` keeps the heap in order. -/
lemma ordered_push (hordered : Ordered (valueAt h)) (entry : TopNEntry) :
    Ordered (valueAt (push h entry)) := by
  have hother (j : ℕ) (hj : j ≠ h.length) : valueAt (h ++ [entry]) j = valueAt h j := by
    by_cases hlt : j < h.length
    · rw [valueAt, List.getElem?_append_left hlt, valueAt]
    · have hend : (h ++ [entry]).length ≤ j := by
        rw [List.length_append, List.length_singleton]
        omega
      rw [valueAt_of_le hend, valueAt_of_le (by omega)]
  refine ordered_up (by omega) (by simp) (hordered.misplaced hother) fun c hc hparent => ?_
  rw [parent_eq_iff hc] at hparent
  rw [valueAt_of_le (i := c) (by simp; omega)]
  exact le_top

lemma first_le {first : TopNEntry} {rest : List TopNEntry}
    (hordered : Ordered (valueAt (first :: rest))) {e : TopNEntry} (he : e ∈ first :: rest) :
    first.value ≤ e.value := by
  obtain ⟨i, hi, rfl⟩ := List.getElem_of_mem he
  have hle := hordered.first_le i
  rw [valueAt_of_lt hi, valueAt_of_lt (List.length_pos_of_mem he)] at hle
  exact WithTop.coe_le_coe.mp hle

end MinHeap

end Paryty.Processing

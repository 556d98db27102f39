import Mathlib.Algebra.Order.Field.Basic
import Mathlib.Algebra.Order.Ring.Abs
import Mathlib.Tactic.Lemma
import Mathlib.Tactic.Linarith

/-!
# Far away

`Far center P` says that `P` holds of all values whose distance from `center` is above some bound.
It does not depend on the center (`Far.recenter`). What grows with the distance is far above any
constant (`far_le_abs_sub`, `far_le_sq`).
-/

namespace Lib

variable {𝕜 : Type*} [Field 𝕜] [LinearOrder 𝕜] {P Q : 𝕜 → Prop} {center : 𝕜}

def Far (center : 𝕜) (P : 𝕜 → Prop) : Prop := ∃ bound, ∀ x, bound < |x - center| → P x

lemma Far.mono (h : Far center P) (hPQ : ∀ x, P x → Q x) : Far center Q :=
  h.imp fun _ hbound x hx => hPQ x (hbound x hx)

lemma Far.and (hP : Far center P) (hQ : Far center Q) : Far center fun x => P x ∧ Q x := by
  obtain ⟨bound, hP⟩ := hP
  obtain ⟨bound', hQ⟩ := hQ
  refine ⟨max bound bound', fun x hx => ⟨hP x ?_, hQ x ?_⟩⟩
  · exact (le_max_left _ _).trans_lt hx
  · exact (le_max_right _ _).trans_lt hx

variable [IsStrictOrderedRing 𝕜]

lemma Far.exists (h : Far center P) : ∃ x, P x := by
  obtain ⟨bound, h⟩ := h
  refine ⟨center + (|bound| + 1), h _ ?_⟩
  rw [add_sub_cancel_left, abs_of_pos (by positivity)]
  exact (le_abs_self bound).trans_lt (lt_add_one _)

lemma Far.recenter (h : Far center P) (center' : 𝕜) : Far center' P := by
  obtain ⟨bound, h⟩ := h
  refine ⟨bound + |center' - center|, fun x hx => h x ?_⟩
  have htriangle := abs_sub_le x center center'
  rw [abs_sub_comm center center'] at htriangle
  linarith

lemma far_le_abs_sub (least c : 𝕜) : Far center fun x => least ≤ |x - c| :=
  have hself : Far c fun x => least ≤ |x - c| := ⟨least, fun _ => le_of_lt⟩
  hself.recenter center

lemma far_le_sq (least c : 𝕜) : Far center fun x => least ≤ (x - c) ^ 2 := by
  refine ((far_le_abs_sub least c).and (far_le_abs_sub 1 c)).mono fun x h => ?_
  obtain ⟨hleast, hone⟩ := h
  calc least ≤ |x - c| := hleast
    _ ≤ |x - c| ^ 2 := le_self_pow₀ hone two_ne_zero
    _ = (x - c) ^ 2 := sq_abs _

end Lib

import Mathlib.Algebra.BigOperators.Group.Finset.Basic
import Mathlib.Algebra.BigOperators.Intervals
import Mathlib.Tactic.Abel
import Mathlib.Tactic.Lemma

/-!
# Loops over all pairs

`allPairs f n v` goes over the pairs `a < b < n` and takes `f a b` from the place `a` and adds it to
the place `b`, as a loop does that lets each two bodies act on one another.

For an antisymmetric `f` every place loses what all others take from it (`allPairs_apply`).
-/

namespace Lib

open Finset

variable {G : Type*} [AddCommGroup G] {f : ℕ → ℕ → G} {n : ℕ} {v : ℕ → G}

/-- Both sides of one pair. -/
def actPair (f : ℕ → ℕ → G) (a b : ℕ) (v : ℕ → G) : ℕ → G :=
  let v := Function.update v a (v a - f a b)
  Function.update v b (v b + f a b)

/-- The inner loop. -/
def actRow (f : ℕ → ℕ → G) (n a : ℕ) (v : ℕ → G) : ℕ → G :=
  (List.range' (a + 1) (n - (a + 1))).foldl (fun v b => actPair f a b v) v

def allPairs (f : ℕ → ℕ → G) (n : ℕ) (v : ℕ → G) : ℕ → G :=
  (List.range n).foldl (fun v a => actRow f n a v) v

/-- What the place `k` gets from one pair. -/
def gain (f : ℕ → ℕ → G) (k a b : ℕ) : G :=
  (if k = b then f a b else 0) - if k = a then f a b else 0

lemma actPair_apply {a b : ℕ} (hab : a < b) (k : ℕ) : actPair f a b v k = v k + gain f k a b := by
  simp only [actPair, gain, Function.update_apply]
  split_ifs with hb ha <;> first | omega | simp_all [sub_eq_add_neg]

lemma foldl_actPair_apply {a start : ℕ} (hstart : a < start) (count k : ℕ) :
    (List.range' start count).foldl (fun v b => actPair f a b v) v k =
      v k + ∑ b ∈ Ico start (start + count), gain f k a b := by
  induction count with
  | zero => simp
  | succ count ih =>
    rw [List.range'_1_concat, List.foldl_append, List.foldl_cons, List.foldl_nil,
      actPair_apply (by omega), ih, ← Nat.add_assoc, sum_Ico_succ_top (by omega), add_assoc]

lemma actRow_apply {a : ℕ} (ha : a < n) (k : ℕ) :
    actRow f n a v k = v k + ∑ b ∈ Ico (a + 1) n, gain f k a b := by
  rw [actRow, foldl_actPair_apply (Nat.lt_succ_self a), Nat.add_sub_cancel' ha]

lemma foldl_actRow_apply {m : ℕ} (hm : m ≤ n) (k : ℕ) :
    (List.range m).foldl (fun v a => actRow f n a v) v k =
      v k + ∑ a ∈ range m, ∑ b ∈ Ico (a + 1) n, gain f k a b := by
  induction m with
  | zero => simp
  | succ m ih =>
    rw [List.range_succ, List.foldl_append, List.foldl_cons, List.foldl_nil,
      actRow_apply hm, ih (Nat.le_of_succ_le hm), sum_range_succ, add_assoc]

lemma sum_gain {k : ℕ} (hk : k < n) : ∑ a ∈ range n, ∑ b ∈ Ico (a + 1) n, gain f k a b =
    ∑ a ∈ range k, f a k - ∑ b ∈ Ico (k + 1) n, f k b := by
  have hbefore : ∑ a ∈ range n, ∑ b ∈ Ico (a + 1) n, (if k = b then f a b else 0) =
      ∑ a ∈ range k, f a k := by
    rw [← sum_subset (range_subset_range.mpr hk.le)]
    · refine sum_congr rfl fun a ha => ?_
      rw [sum_ite_eq, if_pos (mem_Ico.mpr ⟨mem_range.mp ha, hk⟩)]
    · intro a _ ha
      have hnot : k ∉ Ico (a + 1) n := fun hmem =>
        ha (mem_range.mpr (Nat.lt_of_succ_le (mem_Ico.mp hmem).1))
      rw [sum_ite_eq, if_neg hnot]
  have hafter : ∑ a ∈ range n, ∑ b ∈ Ico (a + 1) n, (if k = a then f a b else 0) =
      ∑ b ∈ Ico (k + 1) n, f k b := by
    rw [sum_eq_single_of_mem k (mem_range.mpr hk)]
    · simp
    · intro a _ hne
      simp [Ne.symm hne]
  simp only [gain, sum_sub_distrib, hbefore, hafter]

/-- What an antisymmetric action does to a place. -/
theorem allPairs_apply (hanti : ∀ a b, f b a = -f a b) (hself : ∀ a, f a a = 0) {k : ℕ}
    (hk : k < n) : allPairs f n v k = v k - ∑ j ∈ range n, f k j := by
  have hbefore : ∑ a ∈ range k, f a k = -∑ a ∈ range k, f k a := by
    rw [← sum_neg_distrib]
    exact sum_congr rfl fun a _ => hanti k a
  rw [allPairs, foldl_actRow_apply le_rfl, sum_gain hk, hbefore,
    ← sum_range_add_sum_Ico _ (Nat.succ_le_of_lt hk), sum_range_succ, hself]
  abel

end Lib

import Mathlib.Algebra.Order.Ring.Int
import Mathlib.Algebra.BigOperators.Group.List.Basic
import Mathlib.Data.Nat.Notation
import Mathlib.Tactic.Lemma

/-!
# Threads over a shared state

A state that threads share, and the list of these threads. A thread has its number for life: new
threads join at the end. What the threads hold together is the sum of what each of them holds.
-/

namespace Lib

variable {σ τ : Type*}

lemma sum_map_set (f : τ → ℕ) {l : List τ} {k : ℕ} {a : τ} (h : l[k]? = some a) (a' : τ) :
    ((l.set k a').map f).sum + f a = (l.map f).sum + f a' := by
  induction l generalizing k with
  | nil => simp at h
  | cons b l ih =>
    cases k with
    | zero =>
      obtain rfl : b = a := by simpa using h
      simp only [List.set_cons_zero, List.map_cons, List.sum_cons]
      omega
    | succ k =>
      have hrest := ih (k := k) (by simpa using h)
      simp only [List.set_cons_succ, List.map_cons, List.sum_cons]
      omega

/-- A shared state and the threads that use it. -/
structure Threads (σ τ : Type*) where
  shared : σ
  threads : List τ := []

namespace Threads

variable {s : Threads σ τ} {advance : ℕ → τ → σ → σ × τ} {t u : τ} {j k : ℕ}

/-- A thread starts. -/
def spawn (s : Threads σ τ) (t : τ) : Threads σ τ := { s with threads := s.threads ++ [t] }

/-- A thread takes a step. -/
def act (advance : ℕ → τ → σ → σ × τ) (s : Threads σ τ) (k : ℕ) : Threads σ τ :=
  match s.threads[k]? with
  | none => s
  | some t => ⟨(advance k t s.shared).1, s.threads.set k (advance k t s.shared).2⟩

/-- What the threads hold together. -/
def sum (f : τ → ℕ) (s : Threads σ τ) : ℕ := (s.threads.map f).sum

lemma act_none (h : s.threads[k]? = none) : s.act advance k = s := by
  unfold act
  rw [h]

lemma act_some (h : s.threads[k]? = some t) :
    s.act advance k = ⟨(advance k t s.shared).1, s.threads.set k (advance k t s.shared).2⟩ := by
  unfold act
  rw [h]

lemma sum_spawn (f : τ → ℕ) : (s.spawn t).sum f = s.sum f + f t := by
  simp [sum, spawn]

lemma sum_eq_zero {f : τ → ℕ} (h : ∀ t ∈ s.threads, f t = 0) : s.sum f = 0 := by
  refine List.sum_eq_zero fun n hn => ?_
  obtain ⟨t, ht, rfl⟩ := List.mem_map.mp hn
  exact h t ht

lemma getElem?_spawn (h : (s.spawn t).threads[k]? = some u) :
    (k = s.threads.length ∧ u = t) ∨ s.threads[k]? = some u := by
  change (s.threads ++ [t])[k]? = some u at h
  by_cases hk : k < s.threads.length
  · rw [List.getElem?_append_left hk] at h
    exact .inr h
  · rw [List.getElem?_append_right (by omega)] at h
    obtain ⟨hlt, hu⟩ := List.getElem?_eq_some_iff.mp h
    have hzero : k - s.threads.length = 0 := by simpa using hlt
    refine .inl ⟨by omega, ?_⟩
    rw [← hu]
    simp

lemma getElem?_act (hk : s.threads[k]? = some t) (h : (s.act advance k).threads[j]? = some u) :
    (j = k ∧ u = (advance k t s.shared).2) ∨ (j ≠ k ∧ s.threads[j]? = some u) := by
  rw [act_some hk] at h
  dsimp only at h
  by_cases hj : j = k
  · subst hj
    have hlt := (List.getElem?_eq_some_iff.mp hk).1
    rw [List.getElem?_set_self hlt] at h
    exact .inl ⟨rfl, (Option.some.inj h).symm⟩
  · rw [List.getElem?_set_ne (Ne.symm hj)] at h
    exact .inr ⟨hj, h⟩

end Threads

end Lib

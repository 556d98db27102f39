import Mathlib.Data.List.Basic
import Mathlib.Tactic.Lemma

/-!
# Collecting results that may be missing

`mapM` over `Option`: all results of a list of computations, or none if one of them is missing.
`mapM_eq_some` turns it into an equation of lists, from which the other lemmas read off the results
one by one.
-/

namespace Lib.Collect

variable {α β γ : Type*} {f : α → Option β} {xs : List α} {ys : List β}

theorem mapM_eq_some : xs.mapM f = some ys ↔ xs.map f = ys.map some := by
  induction xs generalizing ys with
  | nil =>
    cases ys with
    | nil => exact iff_of_true rfl rfl
    | cons y ys => exact iff_of_false (by simp) (by simp)
  | cons x xs ih =>
    rw [List.mapM_cons, List.map_cons]
    cases hx : f x with
    | none => cases ys <;> exact iff_of_false (by simp) (by simp)
    | some z =>
      change (xs.mapM f).bind (fun zs => some (z :: zs)) = some ys ↔ _
      rw [Option.bind_eq_some_iff]
      cases ys with
      | nil => exact iff_of_false (by simp) (by simp)
      | cons y ys =>
        rw [List.map_cons, List.cons.injEq, Option.some.injEq, ← ih]
        constructor
        · rintro ⟨zs, hzs, hcons⟩
          obtain ⟨rfl, rfl⟩ := List.cons.inj (Option.some.inj hcons)
          exact ⟨rfl, hzs⟩
        · rintro ⟨rfl, hzs⟩
          exact ⟨ys, hzs, rfl⟩

lemma exists_of_mem_mapM {y : β} (h : xs.mapM f = some ys) (hy : y ∈ ys) :
    ∃ x ∈ xs, f x = some y := by
  have hmem : some y ∈ xs.map f := mapM_eq_some.mp h ▸ List.mem_map_of_mem hy
  exact List.mem_map.mp hmem

lemma exists_mapM (h : ∀ x ∈ xs, ∃ y, f x = some y) : ∃ ys, xs.mapM f = some ys := by
  induction xs with
  | nil => exact ⟨[], rfl⟩
  | cons x xs ih =>
    obtain ⟨⟨y, hy⟩, hxs⟩ := List.forall_mem_cons.mp h
    obtain ⟨ys, hys⟩ := ih hxs
    refine ⟨y :: ys, mapM_eq_some.mpr ?_⟩
    rw [List.map_cons, List.map_cons, hy, mapM_eq_some.mp hys]

lemma map_of_mapM {p : β → γ} {q : α → γ} (h : xs.mapM f = some ys)
    (hpq : ∀ x y, f x = some y → p y = q x) : ys.map p = xs.map q := by
  have hmap := mapM_eq_some.mp h
  clear h
  induction xs generalizing ys with
  | nil =>
    obtain rfl : ys = [] := by simpa using hmap
    rfl
  | cons x xs ih =>
    cases ys with
    | nil => exact nomatch hmap
    | cons y ys =>
      obtain ⟨hx, hrest⟩ := List.cons.inj hmap
      rw [List.map_cons, List.map_cons, hpq x y hx, ih hrest]

lemma mapM_range_succ {g : ℕ → Option β} {n : ℕ} (h : (List.range (n + 1)).mapM g = some ys) :
    ys.length = n + 1 ∧ ys[n]? = g n := by
  have hmap := mapM_eq_some.mp h
  have hlength : ys.length = n + 1 := by simpa using (congrArg List.length hmap).symm
  refine ⟨hlength, ?_⟩
  have hlast := congrArg (fun l => l[n]?) hmap
  have hlt : n < ys.length := by omega
  simp only [List.getElem?_map, List.getElem?_range (Nat.lt_succ_self n), Option.map_some,
    List.getElem?_eq_getElem hlt, Option.some.injEq] at hlast
  rw [List.getElem?_eq_getElem hlt, hlast]

end Lib.Collect

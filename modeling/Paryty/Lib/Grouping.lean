import Mathlib.Data.List.Induction
import Mathlib.Data.List.Perm.Basic
import Mathlib.Tactic.Lemma

/-!
# Grouping by a key

`groupBy key l` is what a loop over `l` makes of a map of lists, when it appends each element to the
list of its key: the groups are in the order in which their keys were met.

No element is lost and none is in two groups (`flatMap_groupBy_perm`), each group is made of
elements of its key (`key_of_mem_groupBy`), and there is one group for a key (`nodup_groupBy`).
Where the keys are known beforehand, filtering by each of them does the same
(`flatMap_filter_perm`).
-/

namespace Lib

variable {α κ : Type*} [DecidableEq κ] (key : α → κ)

/-- Append an element to the group of its key. -/
def insertGroup (x : α) : List (κ × List α) → List (κ × List α)
  | [] => [(key x, [x])]
  | (k, xs) :: groups =>
    if k = key x then (k, xs ++ [x]) :: groups else (k, xs) :: insertGroup x groups

/-- The groups of a list. -/
def groupBy (l : List α) : List (κ × List α) :=
  l.foldl (fun groups x => insertGroup key x groups) []

variable {key}

lemma flatMap_insertGroup_perm (x : α) (groups : List (κ × List α)) :
    ((insertGroup key x groups).flatMap Prod.snd).Perm (groups.flatMap Prod.snd ++ [x]) := by
  induction groups with
  | nil => exact .refl _
  | cons group groups ih =>
    rw [insertGroup]
    split
    · simp only [List.flatMap_cons, List.append_assoc]
      exact List.perm_append_comm.append_left group.2
    · simp only [List.flatMap_cons, List.append_assoc]
      exact ih.append_left group.2

lemma flatMap_groupBy_perm (l : List α) : ((groupBy key l).flatMap Prod.snd).Perm l := by
  induction l using List.reverseRecOn with
  | nil => exact .refl _
  | append_singleton l x ih =>
    rw [groupBy, List.foldl_append]
    exact (flatMap_insertGroup_perm x _).trans (ih.append_right [x])

lemma groupBy_induction {p : List (κ × List α) → Prop} (hnil : p [])
    (hinsert : ∀ x groups, p groups → p (insertGroup key x groups)) (l : List α) :
    p (groupBy key l) := by
  induction l using List.reverseRecOn with
  | nil => exact hnil
  | append_singleton l x ih =>
    rw [groupBy, List.foldl_append]
    exact hinsert x _ ih

lemma mem_insertGroup {x : α} {groups : List (κ × List α)} {group : κ × List α}
    (h : group ∈ insertGroup key x groups) :
    group = (key x, [x]) ∨ (∃ xs, (key x, xs) ∈ groups ∧ group = (key x, xs ++ [x])) ∨
      group ∈ groups := by
  induction groups with
  | nil => exact .inl (List.mem_singleton.mp h)
  | cons first groups ih =>
    rw [insertGroup] at h
    split at h
    · rename_i hkey
      rcases List.mem_cons.mp h with h | h
      · exact .inr (.inl ⟨first.2, hkey ▸ List.mem_cons_self, hkey ▸ h⟩)
      · exact .inr (.inr (List.mem_cons_of_mem _ h))
    · rcases List.mem_cons.mp h with h | h
      · exact .inr (.inr (h ▸ List.mem_cons_self))
      · rcases ih h with h | ⟨xs, hxs, h⟩ | h
        · exact .inl h
        · exact .inr (.inl ⟨xs, List.mem_cons_of_mem _ hxs, h⟩)
        · exact .inr (.inr (List.mem_cons_of_mem _ h))

lemma key_of_mem_groupBy {l : List α} :
    ∀ group ∈ groupBy key l, ∀ x ∈ group.2, key x = group.1 := by
  refine groupBy_induction (p := fun groups => ∀ group ∈ groups, ∀ x ∈ group.2, key x = group.1)
    (fun group h => absurd h List.not_mem_nil) (fun x groups ih => ?_) l
  intro group hgroup y hy
  rcases mem_insertGroup hgroup with rfl | ⟨xs, hxs, rfl⟩ | hold
  · rw [List.mem_singleton.mp hy]
  · rcases List.mem_append.mp hy with hy | hy
    · exact ih _ hxs y hy
    · rw [List.mem_singleton.mp hy]
  · exact ih group hold y hy

lemma ne_nil_of_mem_groupBy {l : List α} : ∀ group ∈ groupBy key l, group.2 ≠ [] := by
  refine groupBy_induction (p := fun groups => ∀ group ∈ groups, group.2 ≠ [])
    (fun group h => absurd h List.not_mem_nil) (fun x groups ih => ?_) l
  intro group hgroup
  rcases mem_insertGroup hgroup with rfl | ⟨xs, -, rfl⟩ | hold
  · exact List.cons_ne_nil x []
  · exact List.append_ne_nil_of_right_ne_nil xs (List.cons_ne_nil x [])
  · exact ih group hold

lemma mem_insertGroup_fst {x : α} {groups : List (κ × List α)} {k : κ} :
    k ∈ (insertGroup key x groups).map Prod.fst ↔ k ∈ groups.map Prod.fst ∨ k = key x := by
  induction groups with
  | nil => simp [insertGroup]
  | cons group groups ih =>
    rw [insertGroup]
    split
    · rename_i hkey
      simp only [List.map_cons, List.mem_cons, ← hkey]
      tauto
    · simp only [List.map_cons, List.mem_cons, ih, or_assoc]

lemma nodup_groupBy (l : List α) : ((groupBy key l).map Prod.fst).Nodup := by
  refine groupBy_induction (p := fun groups => (groups.map Prod.fst).Nodup) List.nodup_nil
    (fun x groups h => ?_) l
  induction groups with
  | nil => simp [insertGroup]
  | cons group groups ih =>
    rw [List.map_cons, List.nodup_cons] at h
    rw [insertGroup]
    split
    · exact List.nodup_cons.mpr h
    · -- The key of the first group is not that of the new element.
      rename_i hkey
      rw [List.map_cons, List.nodup_cons, mem_insertGroup_fst]
      exact ⟨fun hin => hin.elim h.1 hkey, ih h.2⟩

/-! ## Groups of known keys -/

lemma flatMap_filter_perm {ks : List κ} (hks : ks.Nodup) {l : List α} (hl : ∀ x ∈ l, key x ∈ ks) :
    (ks.flatMap fun k => l.filter fun x => key x = k).Perm l := by
  induction ks generalizing l with
  | nil =>
    obtain rfl := List.eq_nil_iff_forall_not_mem.mpr fun x hx => List.not_mem_nil (hl x hx)
    exact .refl _
  | cons k ks ih =>
    obtain ⟨hk, hks⟩ := List.nodup_cons.mp hks
    -- the elements of the other keys are those of the rest
    have hrest : ∀ x ∈ l.filter (fun x => ¬ key x = k), key x ∈ ks := by
      intro x hx
      obtain ⟨hmem, hne⟩ := List.mem_filter.mp hx
      exact (List.mem_cons.mp (hl x hmem)).resolve_left (of_decide_eq_true hne)
    have hsame : ∀ k' ∈ ks, (l.filter (fun x => ¬ key x = k)).filter (fun x => key x = k') =
        l.filter fun x => key x = k' := by
      intro k' hk'
      rw [List.filter_filter]
      refine List.filter_congr fun x _ => ?_
      by_cases hx : key x = k'
      · have hne : ¬ k' = k := fun heq => hk (heq ▸ hk')
        simp [hx, hne]
      · simp [hx]
    have hperm := ih hks hrest
    rw [List.flatMap_congr hsame] at hperm
    rw [List.flatMap_cons]
    exact (hperm.append_left _).trans (by simpa using List.filter_append_perm (key · = k) l)

end Lib

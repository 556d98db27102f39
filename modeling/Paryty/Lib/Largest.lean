import Mathlib.Data.List.Perm.Subperm
import Mathlib.Order.Lattice
import Paryty.Lib.Table

/-!
# The largest rows of a table

`Largest value n all top`: the list has the `n` rows of the table with the largest values, or all of
them if there are not so many. It has them still when a row is stored in the table, if the list
follows by one of four rules: the row replaces the one under its key (`Largest.replace`), is added
(`Largest.add`), takes the place of the smallest one (`Largest.evict`), or is left out
(`Largest.leaveOut`).
-/

namespace Lib

variable {ρ κ α : Type*} {key : ρ → κ} [LinearOrder α] {value : ρ → α} {n : ℕ}
  {all : Table ρ κ key} {top rest : List ρ} {r old smallest : ρ}

/-- The list has `n` rows of the table, and no other row of it has a larger value. -/
structure Largest (value : ρ → α) (n : ℕ) (all : Table ρ κ key) (top : List ρ) : Prop where
  mem : ∀ r ∈ top, r ∈ all
  nodup : (top.map key).Nodup
  length : top.length = min n all.rows.length
  others : ∀ r ∈ all, r ∉ top → ∀ r' ∈ top, value r ≤ value r'

namespace Largest

lemma empty : Largest value n (Table.empty : Table ρ κ key) [] where
  mem _ hr := absurd hr List.not_mem_nil
  nodup := List.nodup_nil
  length := (Nat.min_zero n).symm
  others _ hr := absurd hr Table.not_mem_empty

lemma of_perm {top' : List ρ} (h : Largest value n all top) (hperm : top'.Perm top) :
    Largest value n all top' where
  mem r hr := h.mem r (hperm.mem_iff.mp hr)
  nodup := (hperm.map key).nodup_iff.mpr h.nodup
  length := hperm.length_eq.trans h.length
  others r hr hout r' hr' :=
    h.others r hr (fun hin => hout (hperm.mem_iff.mpr hin)) r' (hperm.mem_iff.mp hr')

lemma mem_of_room (h : Largest value n all top) (hroom : top.length < n) (hr : r ∈ all) :
    r ∈ top := by
  have hlength : all.rows.length ≤ top.length := by
    have := h.length
    omega
  have hall : top.Perm all.rows :=
    (List.subperm_of_subset h.nodup.of_map h.mem).perm_of_length_le hlength
  exact hall.mem_iff.mpr hr

lemma nodup_cons (hnodup : (top.map key).Nodup) (hkey : ∀ r' ∈ top, key r' ≠ key r) :
    ((r :: top).map key).Nodup := by
  rw [List.map_cons, List.nodup_cons]
  refine ⟨fun hin => ?_, hnodup⟩
  obtain ⟨r', hr', hsame⟩ := List.mem_map.mp hin
  exact hkey r' hr' hsame

variable [DecidableEq κ]

lemma mem_put_of_mem_cons (hmem : ∀ r' ∈ top, r' ∈ all) (hkey : ∀ r' ∈ top, key r' ≠ key r) :
    ∀ r' ∈ r :: top, r' ∈ all.put r := by
  intro r' hr'
  rcases List.mem_cons.mp hr' with rfl | hr'
  · exact Table.mem_put.mpr (.inl rfl)
  · exact Table.mem_put.mpr (.inr ⟨hmem r' hr', hkey r' hr'⟩)

lemma replace (h : Largest value n all (old :: rest)) (hkey : key old = key r)
    (hle : value old ≤ value r) : Largest value n (all.put r) (r :: rest) := by
  have hold : old ∈ all := h.mem old List.mem_cons_self
  have hnodup : key old ∉ rest.map key ∧ (rest.map key).Nodup := List.nodup_cons.mp h.nodup
  have hrest : ∀ r' ∈ rest, key r' ≠ key r := fun r' hr' hsame =>
    hnodup.1 (hkey.trans hsame.symm ▸ List.mem_map_of_mem hr')
  have hmem : ∀ r' ∈ rest, r' ∈ all := fun r' hr' => h.mem r' (List.mem_cons_of_mem _ hr')
  refine ⟨mem_put_of_mem_cons hmem hrest, nodup_cons hnodup.2 hrest, ?_,
    fun r' hr' hout r'' hr'' => ?_⟩
  · rw [Table.length_put_of_hasKey (hkey ▸ Table.hasKey_of_mem hold)]
    exact h.length
  · rcases Table.mem_put.mp hr' with rfl | ⟨hstored, hother⟩
    · exact absurd List.mem_cons_self hout
    · -- The row was not in the list before.
      have hbefore : r' ∉ old :: rest := by
        intro hin
        rcases List.mem_cons.mp hin with rfl | hin
        · exact hother hkey
        · exact hout (List.mem_cons_of_mem _ hin)
      rcases List.mem_cons.mp hr'' with hlast | hlast
      · rw [hlast]
        exact (h.others r' hstored hbefore old List.mem_cons_self).trans hle
      · exact h.others r' hstored hbefore r'' (List.mem_cons_of_mem _ hlast)

lemma add (h : Largest value n all top) (hroom : top.length < n)
    (hkey : ∀ r' ∈ top, key r' ≠ key r) : Largest value n (all.put r) (r :: top) := by
  have hfresh : ¬ all.HasKey (key r) := by
    rintro ⟨r', hr', hsame⟩
    exact hkey r' (h.mem_of_room hroom hr') hsame
  refine ⟨mem_put_of_mem_cons h.mem hkey, nodup_cons h.nodup hkey, ?_, fun r' hr' hout => ?_⟩
  · have hlength := h.length
    rw [Table.rows_put_of_fresh hfresh, List.length_append, List.length_cons, List.length_singleton]
    omega
  · rcases Table.mem_put.mp hr' with rfl | ⟨hr', -⟩
    · exact absurd List.mem_cons_self hout
    · exact absurd (List.mem_cons_of_mem _ (h.mem_of_room hroom hr')) hout

lemma length_le_put : all.rows.length ≤ (all.put r).rows.length := by
  by_cases hkey : all.HasKey (key r)
  · exact Nat.le_of_eq (Table.length_put_of_hasKey hkey).symm
  · rw [Table.rows_put_of_fresh hkey, List.length_append]
    exact Nat.le_add_right _ _

lemma evict (h : Largest value n all (smallest :: rest)) (hfull : n ≤ (smallest :: rest).length)
    (hkey : ∀ r' ∈ smallest :: rest, key r' ≠ key r)
    (hmin : ∀ r' ∈ rest, value smallest ≤ value r') (hlt : value smallest < value r) :
    Largest value n (all.put r) (r :: rest) := by
  have hin (r' : ρ) (hr' : r' ∈ rest) : r' ∈ smallest :: rest := List.mem_cons_of_mem _ hr'
  have hother (r' : ρ) (hr' : r' ∈ rest) : key r' ≠ key r := hkey r' (hin r' hr')
  refine ⟨mem_put_of_mem_cons (fun r' hr' => h.mem r' (hin r' hr')) hother,
    nodup_cons (List.nodup_cons.mp h.nodup).2 hother, ?_, fun r' hr' hout r'' hr'' => ?_⟩
  · have hlength := h.length
    have hgrows : all.rows.length ≤ (all.put r).rows.length := length_le_put
    rw [List.length_cons] at hlength hfull ⊢
    omega
  · rcases Table.mem_put.mp hr' with rfl | ⟨hr', -⟩
    · exact absurd List.mem_cons_self hout
    · -- What is outside is not larger than the smallest one was.
      have hsmall : value r' ≤ value smallest := by
        by_cases hsame : r' = smallest
        · rw [hsame]
        · refine h.others r' hr' (fun hin => ?_) smallest List.mem_cons_self
          rcases List.mem_cons.mp hin with hin | hin
          · exact hsame hin
          · exact hout (List.mem_cons_of_mem _ hin)
      rcases List.mem_cons.mp hr'' with rfl | hr''
      · exact hsmall.trans hlt.le
      · exact hsmall.trans (hmin r'' hr'')

lemma leaveOut (h : Largest value n all top) (hfull : n ≤ top.length)
    (hkey : ∀ r' ∈ top, key r' ≠ key r) (hsmall : ∀ r' ∈ top, value r ≤ value r') :
    Largest value n (all.put r) top where
  mem r' hr' := Table.mem_put.mpr (.inr ⟨h.mem r' hr', hkey r' hr'⟩)
  nodup := h.nodup
  length := by
    have hlength := h.length
    have hgrows : all.rows.length ≤ (all.put r).rows.length := length_le_put
    omega
  others r' hr' hout r'' hr'' := by
    rcases Table.mem_put.mp hr' with rfl | ⟨hr', -⟩
    · exact hsmall r'' hr''
    · exact h.others r' hr' hout r'' hr''

end Largest

end Lib

import Paryty.Lib.Table

/-!
# Caches

A table whose rows stand in the order of their last use, oldest first: looking a row up moves it
to the end, and a new row pushes out the oldest ones beyond a limit.

`only p` keeps the rows whose key satisfies `p`. Every operation on a key that satisfies `p`
commutes with it, and one on another key is invisible, as long as no row that satisfies `p` is
pushed out because of the others (`Undisturbed`).
-/

namespace Lib

namespace Table

variable {ρ κ : Type*} {key : ρ → κ}

/-! ## A part of a table -/

/-- The rows whose key satisfies `p`. -/
def only (t : Table ρ κ key) (p : κ → Bool) : Table ρ κ key where
  rows := t.rows.filter (fun r => p (key r))
  nodup := (List.filter_sublist.map key).nodup t.nodup

section

variable {t : Table ρ κ key} {p : κ → Bool}

@[simp] lemma rows_only : (t.only p).rows = t.rows.filter (fun r => p (key r)) := rfl

lemma length_only_le : (t.only p).rows.length ≤ t.rows.length := List.length_filter_le _ _

@[simp] lemma only_empty : (empty : Table ρ κ key).only p = empty := rfl

lemma hasKey_only {k : κ} (hk : p k = true) : (t.only p).HasKey k ↔ t.HasKey k := by
  simp only [HasKey, rows_only, List.mem_filter]
  constructor
  · rintro ⟨r, ⟨hr, -⟩, hkey⟩
    exact ⟨r, hr, hkey⟩
  · rintro ⟨r, hr, rfl⟩
    exact ⟨r, ⟨hr, hk⟩, rfl⟩

variable [DecidableEq κ]

lemma find?_only {k : κ} (hk : p k = true) : (t.only p).find? k = t.find? k := by
  ext r
  rw [find?_eq_some, find?_eq_some, ← mem_rows, ← mem_rows, rows_only, List.mem_filter]
  constructor
  · rintro ⟨⟨hr, -⟩, hkey⟩
    exact ⟨hr, hkey⟩
  · rintro ⟨hr, rfl⟩
    exact ⟨⟨hr, hk⟩, rfl⟩

lemma only_put {r : ρ} (hr : p (key r) = true) : (t.put r).only p = (t.only p).put r := by
  refine Table.ext ?_
  simp only [rows_only, put, hasKey_only hr]
  split
  · rw [List.filter_map]
    refine congrArg (List.map _) (List.filter_congr fun r' _ => ?_)
    simp only [Function.comp_apply]
    split
    case isTrue h => rw [h]
    case isFalse => rfl
  · simp [List.filter_append, hr]

lemma only_put_of_neg {r : ρ} (hr : p (key r) = false) : (t.put r).only p = t.only p := by
  refine Table.ext ?_
  simp only [rows_only, put]
  split
  · rw [List.filter_map]
    have hp : (fun r' => p (key r')) ∘ (fun r' => if key r' = key r then r else r') =
        fun r' => p (key r') := by
      funext r'
      simp only [Function.comp_apply]
      split
      case isTrue h => rw [h]
      case isFalse => rfl
    rw [hp]
    refine (List.map_congr_left fun r' hr' => ?_).trans (List.map_id _)
    have hne : key r' ≠ key r := fun h => by simp [h, hr] at hr'
    rw [if_neg hne]
    rfl
  · simp [List.filter_append, hr]

lemma only_erase (k : κ) : (t.erase k).only p = (t.only p).erase k := by
  refine Table.ext ?_
  simp only [rows_only, erase, deleteWhere, List.filter_filter]
  exact List.filter_congr fun _ _ => Bool.and_comm _ _

lemma only_erase_of_neg {k : κ} (hk : p k = false) : (t.erase k).only p = t.only p := by
  refine Table.ext ?_
  simp only [rows_only, erase, deleteWhere, List.filter_filter]
  refine List.filter_congr fun r _ => ?_
  by_cases h : key r = k
  · simp [h, hk]
  · simp [h]

end

/-! ## Last use -/

/-- Push out the oldest rows beyond the limit. -/
def newest (t : Table ρ κ key) (limit : ℕ) : Table ρ κ key where
  rows := t.rows.drop (t.rows.length - limit)
  nodup := ((List.drop_sublist _ _).map key).nodup t.nodup

variable {t : Table ρ κ key} {p : κ → Bool} {limit : ℕ}

lemma mem_of_mem_newest {r : ρ} (h : r ∈ t.newest limit) : r ∈ t := List.mem_of_mem_drop h

lemma only_newest (h : ((t.rows.take (t.rows.length - limit)).filter (fun r => p (key r))).length =
    (t.only p).rows.length - limit) : (t.newest limit).only p = (t.only p).newest limit := by
  have hsplit : (t.only p).rows =
      (t.rows.take (t.rows.length - limit)).filter (fun r => p (key r)) ++
        (t.rows.drop (t.rows.length - limit)).filter (fun r => p (key r)) := by
    rw [← List.filter_append, List.take_append_drop, rows_only]
  refine Table.ext ?_
  calc (t.rows.drop (t.rows.length - limit)).filter (fun r => p (key r))
      = (t.only p).rows.drop
          ((t.rows.take (t.rows.length - limit)).filter (fun r => p (key r))).length := by
        rw [hsplit, List.drop_left]
    _ = (t.only p).rows.drop ((t.only p).rows.length - limit) := by rw [h]

/-- Pushing out rows that do not satisfy `p`. -/
lemma only_newest_of_neg
    (h : (t.rows.take (t.rows.length - limit)).filter (fun r => p (key r)) = []) :
    (t.newest limit).only p = t.only p := by
  refine Table.ext ?_
  calc (t.rows.drop (t.rows.length - limit)).filter (fun r => p (key r))
      = (t.rows.take (t.rows.length - limit) ++ t.rows.drop (t.rows.length - limit)).filter
          (fun r => p (key r)) := by rw [List.filter_append, h, List.nil_append]
    _ = t.rows.filter (fun r => p (key r)) := by rw [List.take_append_drop]

variable [DecidableEq κ]

/-- Make the row the most recent one. -/
def moveToEnd (t : Table ρ κ key) (k : κ) : Table ρ κ key where
  rows := t.rows.filter (fun r => key r ≠ k) ++ t.rows.filter (fun r => key r = k)
  nodup := by
    have hperm : (t.rows.filter (fun r => key r ≠ k) ++ t.rows.filter (fun r => key r = k)).Perm
        t.rows := by
      refine List.perm_append_comm.trans ?_
      simpa using List.filter_append_perm (fun r => decide (key r = k)) t.rows
    exact ((hperm.map key).nodup_iff).mpr t.nodup

@[simp] lemma mem_moveToEnd {k : κ} {r : ρ} : r ∈ t.moveToEnd k ↔ r ∈ t := by
  by_cases h : key r = k <;> simp [moveToEnd, ← mem_rows, h]

/-- The row under the key of `made`, as the most recent one; `made` if there is none yet. -/
def fetch (t : Table ρ κ key) (limit : ℕ) (made : ρ) : Table ρ κ key × ρ :=
  match t.find? (key made) with
  | some row => (t.moveToEnd (key made), row)
  | none => ((t.put made).newest limit, made)

/-- Replace a row that is still there. -/
def replace (t : Table ρ κ key) (r : ρ) : Table ρ κ key := if t.HasKey (key r) then t.put r else t

/-- The keys that fetching `k` pushes out. -/
def pushedOut (t : Table ρ κ key) (limit : ℕ) (k : κ) : List κ :=
  if t.HasKey k then [] else (t.rows.map key ++ [k]).take (t.rows.length + 1 - limit)

/-- Fetching `k` pushes as much out of the part as it would if the part were all there is. -/
def Undisturbed (t : Table ρ κ key) (p : κ → Bool) (limit : ℕ) (k : κ) : Prop :=
  (t.pushedOut limit k).filter p = if p k then (t.only p).pushedOut limit k else []

instance (p : κ → Bool) (limit : ℕ) (k : κ) : Decidable (t.Undisturbed p limit k) :=
  inferInstanceAs (Decidable (_ = _))

lemma only_moveToEnd (k : κ) : (t.moveToEnd k).only p = (t.only p).moveToEnd k := by
  refine Table.ext ?_
  simp only [rows_only, moveToEnd, List.filter_append, List.filter_filter]
  congr 1 <;> exact List.filter_congr fun _ _ => Bool.and_comm _ _

lemma only_moveToEnd_of_neg {k : κ} (hk : p k = false) : (t.moveToEnd k).only p = t.only p := by
  refine Table.ext ?_
  simp only [rows_only, moveToEnd, List.filter_append, List.filter_filter]
  have hnone : t.rows.filter (fun r => p (key r) && decide (key r = k)) = [] := by
    refine List.filter_eq_nil_iff.mpr fun r _ => ?_
    by_cases h : key r = k
    · simp [h, hk]
    · simp [h]
  rw [hnone, List.append_nil]
  refine List.filter_congr fun r _ => ?_
  by_cases h : key r = k
  · simp [h, hk]
  · simp [h]

lemma pushedOut_of_fresh {r : ρ} (h : ¬ t.HasKey (key r)) : t.pushedOut limit (key r) =
    ((t.put r).rows.take ((t.put r).rows.length - limit)).map key := by
  rw [pushedOut, if_neg h, rows_put_of_fresh h, ← List.map_take.symm]
  simp

lemma fetch_only (limit : ℕ) (made : ρ) (hmade : p (key made) = true)
    (hkept : t.Undisturbed p limit (key made)) :
    (t.only p).fetch limit made = ((t.fetch limit made).1.only p, (t.fetch limit made).2) := by
  simp only [fetch, find?_only hmade]
  cases hfind : t.find? (key made) with
  | some row => simp only [only_moveToEnd]
  | none =>
    have hfresh : ¬ t.HasKey (key made) := by simp [hasKey_iff_find?, hfind]
    have hfresh' : ¬ (t.only p).HasKey (key made) := fun h => hfresh ((hasKey_only hmade).mp h)
    rw [Undisturbed, if_pos hmade, pushedOut_of_fresh hfresh, pushedOut_of_fresh hfresh',
      ← only_put hmade, List.filter_map] at hkept
    have hlength := congrArg List.length hkept
    simp only [List.length_map, List.length_take] at hlength
    rw [Nat.min_eq_left (Nat.sub_le _ _)] at hlength
    exact Prod.ext ((congrArg (newest · limit) (only_put hmade).symm).trans
      (only_newest hlength).symm) rfl

lemma fetch_of_neg (limit : ℕ) (made : ρ) (hmade : p (key made) = false)
    (hkept : t.Undisturbed p limit (key made)) :
    (t.fetch limit made).1.only p = t.only p := by
  simp only [fetch]
  cases hfind : t.find? (key made) with
  | some row => exact only_moveToEnd_of_neg hmade
  | none =>
    have hfresh : ¬ t.HasKey (key made) := by simp [hasKey_iff_find?, hfind]
    rw [Undisturbed, if_neg (by simp [hmade]), pushedOut_of_fresh hfresh, List.filter_map,
      List.map_eq_nil_iff] at hkept
    rw [only_newest_of_neg hkept, only_put_of_neg hmade]

lemma replace_only {r : ρ} (hr : p (key r) = true) :
    (t.only p).replace r = (t.replace r).only p := by
  simp only [replace, hasKey_only hr]
  split
  · rw [only_put hr]
  · rfl

lemma replace_of_neg {r : ρ} (hr : p (key r) = false) : (t.replace r).only p = t.only p := by
  unfold replace
  split
  · exact only_put_of_neg hr
  · rfl

end Table

end Lib

import Mathlib.Data.List.Induction
import Mathlib.Data.List.Nodup

/-!
# Keyed tables

A table is a list of rows no two of which share a primary key. The operations are the
statements a program issues against it: `insert` fails on a duplicate key, `upsert` is
`INSERT .. ON CONFLICT (key) DO UPDATE`, `updateWhere` and `deleteWhere` are `UPDATE` and
`DELETE` with a condition. Each operation carries the proof that keys stay unique, and its
`mem_` lemma says exactly which rows the result has.
-/

namespace Lib

/-- Rows with pairwise distinct keys, in insertion order. -/
@[ext]
structure Table (ρ κ : Type*) (key : ρ → κ) where
  rows : List ρ
  nodup : (rows.map key).Nodup

namespace Table

variable {ρ κ : Type*} {key : ρ → κ}

instance : Membership ρ (Table ρ κ key) := ⟨fun t r => r ∈ t.rows⟩

instance [DecidableEq ρ] : DecidableEq (Table ρ κ key) := fun s t =>
  decidable_of_iff (s.rows = t.rows) Table.ext_iff.symm

lemma mem_rows {t : Table ρ κ key} {r : ρ} : r ∈ t.rows ↔ r ∈ t := Iff.rfl

lemma eq_of_key_eq (t : Table ρ κ key) {r r' : ρ} (hr : r ∈ t) (hr' : r' ∈ t)
    (hkey : key r = key r') : r = r' :=
  List.inj_on_of_nodup_map t.nodup hr hr' hkey

/-- The table without rows. -/
def empty : Table ρ κ key := ⟨[], List.nodup_nil⟩

@[simp] lemma not_mem_empty {r : ρ} : r ∉ (empty : Table ρ κ key) := List.not_mem_nil

/-! ## Deleting and updating by condition -/

/-- `DELETE .. WHERE p`. -/
def deleteWhere (t : Table ρ κ key) (p : ρ → Bool) : Table ρ κ key where
  rows := t.rows.filter (fun r => !p r)
  nodup := (List.filter_sublist.map key).nodup t.nodup

@[simp] lemma mem_deleteWhere {t : Table ρ κ key} {p : ρ → Bool} {r : ρ} :
    r ∈ t.deleteWhere p ↔ r ∈ t ∧ p r = false := by
  simp [deleteWhere, ← mem_rows]

/-- `UPDATE .. SET f WHERE p`, for a change that leaves the key alone. -/
def updateWhere (t : Table ρ κ key) (p : ρ → Bool) (f : ρ → ρ)
    (hf : ∀ r, key (f r) = key r) : Table ρ κ key where
  rows := t.rows.map (fun r => if p r then f r else r)
  nodup := by
    have hkeys : (t.rows.map (fun r => if p r then f r else r)).map key = t.rows.map key := by
      rw [List.map_map]
      refine List.map_congr_left fun r _ => ?_
      by_cases hp : p r <;> simp [hp, hf]
    rw [hkeys]
    exact t.nodup

lemma mem_updateWhere {t : Table ρ κ key} {p : ρ → Bool} {f : ρ → ρ}
    {hf : ∀ r, key (f r) = key r} {r : ρ} :
    r ∈ t.updateWhere p f hf ↔ (r ∈ t ∧ p r = false) ∨ ∃ r₀ ∈ t, p r₀ = true ∧ f r₀ = r := by
  change r ∈ t.rows.map _ ↔ _
  rw [List.mem_map]
  constructor
  · rintro ⟨r₀, hr₀, rfl⟩
    cases hp : p r₀
    · exact .inl ⟨hr₀, hp⟩
    · exact .inr ⟨r₀, hr₀, hp, by simp⟩
  · rintro (⟨hr, hp⟩ | ⟨r₀, hr₀, hp, rfl⟩)
    · exact ⟨r, hr, by simp [hp]⟩
    · exact ⟨r₀, hr₀, by simp [hp]⟩

/-! ## Inserting -/

/-- The table has a row with key `k`. -/
def HasKey (t : Table ρ κ key) (k : κ) : Prop := ∃ r ∈ t.rows, key r = k

instance [DecidableEq κ] (t : Table ρ κ key) (k : κ) : Decidable (t.HasKey k) :=
  inferInstanceAs (Decidable (∃ r ∈ t.rows, key r = k))

lemma hasKey_of_mem {t : Table ρ κ key} {r : ρ} (hr : r ∈ t) : t.HasKey (key r) := ⟨r, hr, rfl⟩

lemma not_hasKey_empty (k : κ) : ¬ (empty : Table ρ κ key).HasKey k := by
  rintro ⟨r, hr, -⟩
  exact not_mem_empty hr

/-- A row with a key the table does not have yet is appended. -/
def append (t : Table ρ κ key) (r : ρ) (fresh : ¬ t.HasKey (key r)) : Table ρ κ key where
  rows := t.rows ++ [r]
  nodup := by
    rw [List.map_append, List.nodup_append]
    refine ⟨t.nodup, by simp, ?_⟩
    rintro k hk k' hk' rfl
    obtain ⟨r', hr', hkey⟩ := List.mem_map.mp hk
    exact fresh ⟨r', hr', by simpa [hkey] using hk'⟩

@[simp] lemma mem_append {t : Table ρ κ key} {r r' : ρ} {h : ¬ t.HasKey (key r)} :
    r' ∈ t.append r h ↔ r' ∈ t ∨ r' = r := by
  simp [append, ← mem_rows]

variable [DecidableEq κ]

/-- `INSERT`: fails on a duplicate key. -/
def insert (t : Table ρ κ key) (r : ρ) : Option (Table ρ κ key) :=
  if h : t.HasKey (key r) then none else some (t.append r h)

/-- `INSERT .. ON CONFLICT (key) DO UPDATE SET f`. -/
def upsert (t : Table ρ κ key) (r : ρ) (f : ρ → ρ) (hf : ∀ r, key (f r) = key r) :
    Table ρ κ key :=
  if h : t.HasKey (key r) then t.updateWhere (fun r' => key r' = key r) f hf else t.append r h

lemma mem_upsert {t : Table ρ κ key} {r : ρ} {f : ρ → ρ} {hf : ∀ r, key (f r) = key r} {r' : ρ} :
    r' ∈ t.upsert r f hf ↔ (r' ∈ t ∧ key r' ≠ key r) ∨
      (∃ r₀ ∈ t, key r₀ = key r ∧ f r₀ = r') ∨ (¬ t.HasKey (key r) ∧ r' = r) := by
  unfold upsert
  split
  case isTrue h => simp [mem_updateWhere, h]
  case isFalse h =>
    have hne : ∀ r₀ ∈ t, key r₀ ≠ key r := fun r₀ hr₀ hkey => h ⟨r₀, hr₀, hkey⟩
    rw [mem_append]
    constructor
    · rintro (hr' | rfl)
      · exact .inl ⟨hr', hne r' hr'⟩
      · exact .inr (.inr ⟨h, rfl⟩)
    · rintro (⟨hr', -⟩ | ⟨r₀, hr₀, hkey, -⟩ | ⟨-, rfl⟩)
      · exact .inl hr'
      · exact absurd hkey (hne r₀ hr₀)
      · exact .inr rfl

/-! ## Looking up by key -/

/-- The row with key `k`, if there is one. -/
def find? (t : Table ρ κ key) (k : κ) : Option ρ := t.rows.find? (fun r => key r = k)

lemma find?_eq_some {t : Table ρ κ key} {k : κ} {r : ρ} :
    t.find? k = some r ↔ r ∈ t ∧ key r = k := by
  constructor
  · intro h
    exact ⟨List.mem_of_find?_eq_some h, by simpa using List.find?_some h⟩
  · rintro ⟨hr, rfl⟩
    obtain ⟨r', hr'⟩ : ∃ r', t.find? (key r) = some r' := by
      rw [← Option.isSome_iff_exists, find?, List.find?_isSome]
      exact ⟨r, hr, by simp⟩
    have hmem := List.mem_of_find?_eq_some hr'
    have hkey : key r' = key r := by simpa using List.find?_some hr'
    rw [hr', t.eq_of_key_eq hmem hr hkey]

lemma find?_eq_none {t : Table ρ κ key} {k : κ} : t.find? k = none ↔ ∀ r ∈ t, key r ≠ k := by
  simp [find?, List.find?_eq_none, mem_rows]

@[simp] lemma find?_empty (k : κ) : (empty : Table ρ κ key).find? k = none := rfl

lemma hasKey_iff_find? {t : Table ρ κ key} {k : κ} : t.HasKey k ↔ (t.find? k).isSome := by
  simp [find?, HasKey, List.find?_isSome]

lemma find?_deleteWhere (t : Table ρ κ key) (p : ρ → Bool) (k : κ) :
    (t.deleteWhere p).find? k = (t.find? k).filter (fun r => !p r) := by
  ext r
  simp only [find?_eq_some, mem_deleteWhere, Option.filter_eq_some_iff]
  cases p r <;> simp

lemma find?_updateWhere (t : Table ρ κ key) (p : ρ → Bool) (f : ρ → ρ)
    (hf : ∀ r, key (f r) = key r) (k : κ) :
    (t.updateWhere p f hf).find? k = (t.find? k).map (fun r => if p r then f r else r) := by
  ext r
  simp only [find?_eq_some, mem_updateWhere, Option.map_eq_some_iff]
  constructor
  · rintro ⟨⟨hr, hp⟩ | ⟨r₀, hr₀, hp, rfl⟩, hkey⟩
    · exact ⟨r, ⟨hr, hkey⟩, by simp [hp]⟩
    · exact ⟨r₀, ⟨hr₀, by rw [← hkey, hf]⟩, by simp [hp]⟩
  · rintro ⟨r₀, ⟨hr₀, hkey⟩, rfl⟩
    cases hp : p r₀
    · exact ⟨.inl ⟨by simpa using hr₀, by simpa using hp⟩, by simpa using hkey⟩
    · exact ⟨.inr ⟨r₀, hr₀, hp, by simp⟩, by simpa [hf] using hkey⟩

lemma find?_upsert (t : Table ρ κ key) (r : ρ) (f : ρ → ρ) (hf : ∀ r, key (f r) = key r) (k : κ) :
    (t.upsert r f hf).find? k =
      if k = key r then some (((t.find? k).map f).getD r) else t.find? k := by
  unfold upsert
  split
  case isTrue h =>
    rw [find?_updateWhere]
    by_cases hk : k = key r
    · subst hk
      obtain ⟨r₀, hr₀⟩ := Option.isSome_iff_exists.mp (hasKey_iff_find?.mp h)
      simp [hr₀, (find?_eq_some.mp hr₀).2]
    · rw [if_neg hk]
      cases hr₀ : t.find? k with
      | none => rfl
      | some r₀ => simp [(find?_eq_some.mp hr₀).2, hk]
  case isFalse h =>
    have hnone : t.find? (key r) = none := by
      rw [hasKey_iff_find?] at h
      simpa using h
    by_cases hk : k = key r
    · subst hk
      rw [if_pos rfl, hnone, find?_eq_some]
      simp
    · rw [if_neg hk, find?, append, List.find?_append, ← find?]
      simp [Ne.symm hk]

/-- Of some rows of a table, at most the one `find?` knows has key `k`. -/
lemma filter_key_of_sublist [DecidableEq ρ] (t : Table ρ κ key) {l : List ρ}
    (hl : l.Sublist t.rows) (k : κ) :
    l.filter (fun r => key r = k) = ((t.find? k).filter (fun r => r ∈ l)).toList := by
  have hnodup : l.Nodup := hl.nodup t.nodup.of_map
  have honly : ∀ r ∈ l, key r = k → t.find? k = some r :=
    fun r hr hkey => find?_eq_some.mpr ⟨hl.subset hr, hkey⟩
  cases hfind : t.find? k with
  | none =>
    rw [Option.filter_none, Option.toList_none, List.filter_eq_nil_iff]
    intro r hr hkey
    rw [honly r hr (by simpa using hkey)] at hfind
    exact absurd hfind (by simp)
  | some r =>
    have hkey : key r = k := (find?_eq_some.mp hfind).2
    have heq : ∀ r' ∈ l, (key r' = k ↔ r' = r) := by
      intro r' hr'
      constructor
      · intro h
        have := honly r' hr' h
        rw [hfind] at this
        exact (Option.some.inj this).symm
      · rintro rfl
        exact hkey
    have hfilter : l.filter (fun r' => key r' = k) = l.filter (fun r' => r' = r) :=
      List.filter_congr fun r' hr' => by simp [heq r' hr']
    rw [hfilter, Option.filter_some]
    by_cases hr : r ∈ l
    · simp only [hr]
      simpa [hnodup.count, hr, List.replicate] using List.filter_eq (l := l) r
    · simp only [hr]
      rw [List.filter_eq_nil_iff.mpr]
      · rfl
      · intro r' hr' h
        exact hr (by simpa using (of_decide_eq_true h) ▸ hr')

/-! ## Writing single rows -/

/-- Store a row under its key, in place of the one that was there. -/
def put (t : Table ρ κ key) (r : ρ) : Table ρ κ key where
  rows := if t.HasKey (key r) then t.rows.map (fun r' => if key r' = key r then r else r')
    else t.rows ++ [r]
  nodup := by
    split
    case isTrue =>
      have hkeys : (t.rows.map (fun r' => if key r' = key r then r else r')).map key =
          t.rows.map key := by
        rw [List.map_map]
        refine List.map_congr_left fun r' _ => ?_
        by_cases hkey : key r' = key r <;> simp [hkey]
      rw [hkeys]
      exact t.nodup
    case isFalse h => exact (t.append r h).nodup

lemma rows_put_of_fresh {t : Table ρ κ key} {r : ρ} (h : ¬ t.HasKey (key r)) :
    (t.put r).rows = t.rows ++ [r] := if_neg h

lemma length_put_of_hasKey {t : Table ρ κ key} {r : ρ} (h : t.HasKey (key r)) :
    (t.put r).rows.length = t.rows.length := by
  have hrows : (t.put r).rows = t.rows.map (fun r' => if key r' = key r then r else r') := if_pos h
  rw [hrows, List.length_map]

/-- Remove the row with key `k`. -/
def erase (t : Table ρ κ key) (k : κ) : Table ρ κ key := t.deleteWhere (fun r => key r = k)

lemma mem_put {t : Table ρ κ key} {r r' : ρ} :
    r' ∈ t.put r ↔ r' = r ∨ (r' ∈ t ∧ key r' ≠ key r) := by
  simp only [← mem_rows, put]
  split
  case isTrue h =>
    rw [List.mem_map]
    constructor
    · rintro ⟨r₀, hr₀, rfl⟩
      by_cases hkey : key r₀ = key r
      · exact .inl (if_pos hkey)
      · rw [if_neg hkey]
        exact .inr ⟨hr₀, hkey⟩
    · rintro (rfl | ⟨hr', hkey⟩)
      · obtain ⟨r₀, hr₀, hkey⟩ := h
        exact ⟨r₀, hr₀, if_pos hkey⟩
      · exact ⟨r', hr', if_neg hkey⟩
  case isFalse h =>
    have hne : ∀ r₀ ∈ t.rows, key r₀ ≠ key r := fun r₀ hr₀ hkey => h ⟨r₀, hr₀, hkey⟩
    rw [List.mem_append, List.mem_singleton]
    constructor
    · rintro (hr' | rfl)
      · exact .inr ⟨hr', hne r' hr'⟩
      · exact .inl rfl
    · rintro (rfl | ⟨hr', -⟩)
      · exact .inr rfl
      · exact .inl hr'

@[simp] lemma mem_erase {t : Table ρ κ key} {k : κ} {r : ρ} : r ∈ t.erase k ↔ r ∈ t ∧ key r ≠ k := by
  simp [erase]

lemma find?_put (t : Table ρ κ key) (r : ρ) (k : κ) :
    (t.put r).find? k = if k = key r then some r else t.find? k := by
  ext r'
  rw [find?_eq_some, mem_put]
  split
  case isTrue h =>
    subst h
    constructor
    · rintro ⟨rfl | ⟨-, hne⟩, hkey⟩
      · rfl
      · exact absurd hkey hne
    · intro h
      obtain rfl := Option.some.inj h
      exact ⟨.inl rfl, rfl⟩
  case isFalse h =>
    rw [find?_eq_some]
    constructor
    · rintro ⟨rfl | ⟨hr', -⟩, hkey⟩
      · exact absurd hkey.symm h
      · exact ⟨hr', hkey⟩
    · rintro ⟨hr', rfl⟩
      exact ⟨.inr ⟨hr', h⟩, rfl⟩

lemma find?_erase (t : Table ρ κ key) (k k' : κ) :
    (t.erase k).find? k' = if k' = k then none else t.find? k' := by
  rw [erase, find?_deleteWhere]
  cases hfind : t.find? k' with
  | none => simp
  | some r =>
    obtain ⟨-, rfl⟩ := find?_eq_some.mp hfind
    rw [Option.filter_some]
    by_cases hkey : key r = k <;> simp [hkey]

/-! ## Tables of lists -/

/-- The rows of a list, each stored in place of an earlier one under its key. -/
def ofList (l : List ρ) : Table ρ κ key := l.foldl put empty

/-- The list has the row, and no later one under its key. -/
def LatestIn (key : ρ → κ) (l : List ρ) (r : ρ) : Prop :=
  l.reverse.find? (fun r' => key r' = key r) = some r

lemma ofList_concat (l : List ρ) (r : ρ) :
    (ofList (l ++ [r]) : Table ρ κ key) = (ofList l).put r := by
  rw [ofList, List.foldl_concat, ofList]

@[simp] lemma mem_ofList {l : List ρ} {r : ρ} :
    r ∈ (ofList l : Table ρ κ key) ↔ LatestIn key l r := by
  unfold LatestIn
  induction l using List.reverseRecOn with
  | nil => simp [ofList]
  | append_singleton l a ih =>
    rw [ofList_concat, mem_put, List.reverse_concat, List.find?_cons]
    by_cases hkey : key a = key r
    · simp [hkey, eq_comm]
    · simpa [hkey, Ne.symm hkey, show r ≠ a from fun h => hkey (h ▸ rfl)] using ih

lemma latestIn_iff_of_nodup {l : List ρ} (hl : (l.map key).Nodup) {r : ρ} :
    LatestIn key l r ↔ r ∈ l := by
  unfold LatestIn
  constructor
  · intro h
    exact List.mem_reverse.mp (List.mem_of_find?_eq_some h)
  · intro hr
    have hsome : (l.reverse.find? (fun r' => key r' = key r)).isSome := by
      simpa using ⟨r, hr, rfl⟩
    obtain ⟨r', hr'⟩ := Option.isSome_iff_exists.mp hsome
    have hmem := List.mem_reverse.mp (List.mem_of_find?_eq_some hr')
    have hkey : key r' = key r := by simpa using List.find?_some hr'
    rw [hr', List.inj_on_of_nodup_map hl hmem hr hkey]

lemma perm_rows_ofList {l : List ρ} (hl : (l.map key).Nodup) :
    (ofList l : Table ρ κ key).rows.Perm l := by
  refine (List.perm_ext_iff_of_nodup (nodup _).of_map hl.of_map).mpr fun r => ?_
  rw [mem_rows, mem_ofList]
  exact latestIn_iff_of_nodup hl

lemma find?_congr_of_perm {t t' : Table ρ κ key} (h : t.rows.Perm t'.rows) (k : κ) :
    t.find? k = t'.find? k := by
  ext r
  rw [find?_eq_some, find?_eq_some]
  exact and_congr_left fun _ => h.mem_iff

lemma hasKey_put {t : Table ρ κ key} {r : ρ} {k : κ} :
    (t.put r).HasKey k ↔ t.HasKey k ∨ key r = k := by
  constructor
  · rintro ⟨r', hr', hk⟩
    rcases mem_put.mp hr' with rfl | ⟨hr', -⟩
    · exact .inr hk
    · exact .inl ⟨r', hr', hk⟩
  · rintro (⟨r', hr', rfl⟩ | rfl)
    · by_cases hkey : key r' = key r
      · exact ⟨r, mem_put.mpr (.inl rfl), hkey.symm⟩
      · exact ⟨r', mem_put.mpr (.inr ⟨hr', hkey⟩), rfl⟩
    · exact ⟨r, mem_put.mpr (.inl rfl), rfl⟩

lemma hasKey_foldl_put {l : List ρ} {t : Table ρ κ key} {k : κ} :
    (l.foldl put t).HasKey k ↔ t.HasKey k ∨ ∃ r ∈ l, key r = k := by
  induction l generalizing t with
  | nil => simp
  | cons r l ih => rw [List.foldl_cons, ih, hasKey_put, or_assoc, List.exists_mem_cons_iff]

lemma mem_or_mem_of_mem_foldl_put {l : List ρ} {t : Table ρ κ key} {r : ρ}
    (hr : r ∈ l.foldl put t) : r ∈ t ∨ r ∈ l := by
  induction l generalizing t with
  | nil => exact .inl hr
  | cons r' l ih =>
    rcases ih hr with hr | hr
    · rcases mem_put.mp hr with rfl | ⟨hr, -⟩
      · exact .inr List.mem_cons_self
      · exact .inl hr
    · exact .inr (List.mem_cons_of_mem _ hr)

lemma mem_foldl_put {l : List ρ} (hl : (l.map key).Nodup) {t : Table ρ κ key} {r : ρ} :
    r ∈ l.foldl put t ↔ r ∈ l ∨ (r ∈ t ∧ ∀ r' ∈ l, key r' ≠ key r) := by
  induction l generalizing t with
  | nil => simp
  | cons a l ih =>
    obtain ⟨hfresh, hl⟩ := List.nodup_cons.mp hl
    have ha : ∀ r' ∈ l, key r' ≠ key a := fun r' hr' h => hfresh (h ▸ List.mem_map_of_mem hr')
    rw [List.foldl_cons, ih hl, mem_put, List.mem_cons, List.forall_mem_cons]
    constructor
    · rintro (hr | ⟨rfl | ⟨hr, hkey⟩, hother⟩)
      · exact .inl (.inr hr)
      · exact .inl (.inl rfl)
      · exact .inr ⟨hr, Ne.symm hkey, hother⟩
    · rintro ((rfl | hr) | ⟨hr, hkey, hother⟩)
      · exact .inr ⟨.inl rfl, ha⟩
      · exact .inl hr
      · exact .inr ⟨.inr ⟨hr, Ne.symm hkey⟩, hother⟩

lemma hasKey_ofList {l : List ρ} {k : κ} :
    (ofList l : Table ρ κ key).HasKey k ↔ ∃ r ∈ l, key r = k := by
  rw [ofList, hasKey_foldl_put]
  simp [HasKey, empty]

@[simp] lemma hasKey_erase {t : Table ρ κ key} {k k' : κ} :
    (t.erase k).HasKey k' ↔ t.HasKey k' ∧ k' ≠ k := by
  constructor
  · rintro ⟨r, hr, rfl⟩
    obtain ⟨hmem, hne⟩ := mem_erase.mp hr
    exact ⟨⟨r, hmem, rfl⟩, hne⟩
  · rintro ⟨⟨r, hr, rfl⟩, hne⟩
    exact ⟨r, mem_erase.mpr ⟨hr, hne⟩, rfl⟩

lemma length_erase_of_hasKey {t : Table ρ κ key} {k : κ} (h : t.HasKey k) :
    (t.erase k).rows.length + 1 = t.rows.length := by
  obtain ⟨r, hr, rfl⟩ := h
  obtain ⟨before, after, hrows⟩ := List.append_of_mem hr
  have hnodup := t.nodup
  rw [hrows, List.map_append, List.map_cons, List.nodup_append] at hnodup
  obtain ⟨-, hafter, hbefore⟩ := hnodup
  have hkept : (before ++ after).filter (fun r' => !decide (key r' = key r)) = before ++ after := by
    refine List.filter_eq_self.mpr fun r' hr' => ?_
    have hne : key r' ≠ key r := by
      rcases List.mem_append.mp hr' with hmem | hmem
      · exact hbefore _ (List.mem_map_of_mem hmem) _ List.mem_cons_self
      · exact fun h => (List.nodup_cons.mp hafter).1 (h ▸ List.mem_map_of_mem hmem)
    simpa using hne
  have herase : (t.erase (key r)).rows = before ++ after := by
    change t.rows.filter (fun r' => !decide (key r' = key r)) = _
    rw [hrows, ← hkept]
    simp
  rw [herase, hrows]
  simp only [List.length_append, List.length_cons]
  omega

/-- The rows of the second table whose key the first one does not have. -/
def added (old new : Table ρ κ key) : List ρ := new.rows.filter (fun r => ¬ old.HasKey (key r))

lemma mem_added {old new : Table ρ κ key} {r : ρ} :
    r ∈ added old new ↔ r ∈ new ∧ ¬ old.HasKey (key r) := by
  simp [added, mem_rows]

lemma nodup_added (old new : Table ρ κ key) : (added old new).Nodup :=
  (List.Nodup.of_map key new.nodup).filter _

/-! ## Counting rows -/

/-- The number of rows that satisfy `p`. -/
def count (t : Table ρ κ key) (p : ρ → Bool) : ℕ := (t.rows.filter p).length

lemma count_put_of_not_hasKey {t : Table ρ κ key} {r : ρ} (h : ¬ t.HasKey (key r))
    (p : ρ → Bool) : (t.put r).count p = t.count p + if p r then 1 else 0 := by
  rw [count, rows_put_of_fresh h, List.filter_append, List.length_append, List.filter_singleton,
    count]
  split <;> simp_all

lemma count_put_of_find? {t : Table ρ κ key} {r r' : ρ} (h : t.find? (key r) = some r')
    {p : ρ → Bool} (hp : p r = p r') : (t.put r).count p = t.count p := by
  obtain ⟨hmem, hkey⟩ := find?_eq_some.mp h
  have hrows : (t.put r).rows = t.rows.map (fun r₀ => if key r₀ = key r then r else r₀) :=
    if_pos ⟨r', hmem, hkey⟩
  have hsame : ∀ r₀ ∈ t.rows, (p ∘ fun r₀ => if key r₀ = key r then r else r₀) r₀ = p r₀ := by
    intro r₀ hr₀
    by_cases hkey₀ : key r₀ = key r
    · rw [t.eq_of_key_eq hr₀ hmem (hkey₀.trans hkey.symm), Function.comp_apply, if_pos hkey, hp]
    · rw [Function.comp_apply, if_neg hkey₀]
  rw [count, hrows, List.filter_map, List.length_map, List.filter_congr hsame, count]

lemma count_erase_le (t : Table ρ κ key) (k : κ) (p : ρ → Bool) :
    (t.erase k).count p ≤ t.count p :=
  (List.Sublist.filter p List.filter_sublist).length_le

/-- All rows that count but those of one key count for `q`, too. -/
lemma count_le_count_add_one (t : Table ρ κ key) {p q : ρ → Bool} {k : κ}
    (h : ∀ r, p r = true → key r ≠ k → q r = true) : t.count p ≤ t.count q + 1 := by
  have hone : (t.rows.filter (fun r => key r = k)).length ≤ 1 := by
    have hpairwise : (t.rows.filter (fun r => key r = k)).Pairwise (fun _ _ => False) := by
      have hnodup := (List.pairwise_map.mp t.nodup).sublist
        (List.filter_sublist (p := fun r => decide (key r = k)))
      refine hnodup.imp_of_mem fun hr hr' hne => hne ?_
      have hkey := of_decide_eq_true (List.mem_filter.mp hr).2
      have hkey' := of_decide_eq_true (List.mem_filter.mp hr').2
      exact hkey.trans hkey'.symm
    match t.rows.filter (fun r => key r = k), hpairwise with
    | [], _ => simp
    | [_], _ => simp
    | r :: r' :: _, h => exact ((List.pairwise_cons.mp h).1 r' List.mem_cons_self).elim
  simp only [count, ← List.countP_eq_length_filter] at hone ⊢
  have hor : t.rows.countP p ≤ t.rows.countP (fun r => q r || key r = k) := by
    refine List.countP_mono_left fun r _ hp => ?_
    by_cases hkey : key r = k
    · simp [hkey]
    · simp [h r hp hkey]
  have hadd : t.rows.countP (fun r => q r || key r = k) ≤
      t.rows.countP q + t.rows.countP (fun r => key r = k) := by
    induction t.rows with
    | nil => simp
    | cons r l ih =>
      simp only [List.countP_cons]
      cases q r <;> by_cases hkey : key r = k <;> simp [hkey] <;> omega
  omega

/-! ## Row writes -/

/-- A write to one row. -/
inductive RowWrite (ρ κ : Type*)
  | put (r : ρ)
  | erase (k : κ)
deriving DecidableEq

/-- The key of the row that is written. -/
def RowWrite.row (key : ρ → κ) : RowWrite ρ κ → κ
  | put r => key r
  | erase k => k

/-- Perform a row write. -/
def write (t : Table ρ κ key) : RowWrite ρ κ → Table ρ κ key
  | .put r => t.put r
  | .erase k => t.erase k

@[simp] lemma write_put (t : Table ρ κ key) (r : ρ) : t.write (.put r) = t.put r := rfl

@[simp] lemma write_erase (t : Table ρ κ key) (k : κ) : t.write (.erase k) = t.erase k := rfl

lemma mem_foldl_write {ws : List (RowWrite ρ κ)} {t : Table ρ κ key} {r : ρ}
    (h : r ∈ ws.foldl write t) : r ∈ t ∨ .put r ∈ ws := by
  induction ws generalizing t with
  | nil => exact .inl h
  | cons w ws ih =>
    rcases ih h with hmem | hput
    · cases w with
      | put r' =>
        rcases mem_put.mp hmem with rfl | ⟨hold, -⟩
        · exact .inr List.mem_cons_self
        · exact .inl hold
      | erase k => exact .inl (mem_erase.mp hmem).1
    · exact .inr (List.mem_cons_of_mem _ hput)

lemma count_foldl_le {p : ρ → Bool} (hp : ∀ r r', key r = key r' → p r = p r')
    {ws : List (RowWrite ρ κ)} (hws : ∀ r, .put r ∈ ws → p r = false) (t : Table ρ κ key) :
    (ws.foldl write t).count p ≤ t.count p := by
  induction ws generalizing t with
  | nil => exact Nat.le_refl _
  | cons w ws ih =>
    refine Nat.le_trans (ih (fun r hr => hws r (List.mem_cons_of_mem _ hr)) _) ?_
    cases w with
    | erase k => exact count_erase_le t k p
    | put r =>
      have hr : p r = false := hws r List.mem_cons_self
      cases hfind : t.find? (key r) with
      | none =>
        have hfresh : ¬ t.HasKey (key r) := by simp [hasKey_iff_find?, hfind]
        rw [write_put, count_put_of_not_hasKey hfresh, hr]
        simp
      | some r' =>
        have hsame := count_put_of_find? hfind (hp _ _ (find?_eq_some.mp hfind).2.symm)
        exact Nat.le_of_eq (by rw [write_put, hsame])

/-- The rows a statement with condition `p` acts on when it chose them in `snapshot` and finds
the table as `current`: the current version of each, if it still satisfies `p`. -/
def matching (snapshot current : Table ρ κ key) (p : ρ → Bool) : List ρ :=
  (snapshot.rows.filter p).filterMap (fun r => (current.find? (key r)).filter p)

/-- The row writes of `UPDATE .. SET f WHERE p`. -/
def updates (snapshot current : Table ρ κ key) (p : ρ → Bool) (f : ρ → ρ) :
    List (RowWrite ρ κ) :=
  (matching snapshot current p).map (fun r => .put (f r))

/-- The row writes of `DELETE .. WHERE p`. -/
def deletes (snapshot current : Table ρ κ key) (p : ρ → Bool) : List (RowWrite ρ κ) :=
  (matching snapshot current p).map (fun r => .erase (key r))

lemma mem_matching {snapshot current : Table ρ κ key} {p : ρ → Bool} {r : ρ}
    (h : r ∈ matching snapshot current p) : r ∈ current ∧ p r = true := by
  obtain ⟨r₀, -, hr⟩ := List.mem_filterMap.mp h
  obtain ⟨hfind, hp⟩ := Option.filter_eq_some_iff.mp hr
  exact ⟨(find?_eq_some.mp hfind).1, hp⟩

lemma mem_matching_of_find? {snapshot current : Table ρ κ key} {p : ρ → Bool} {r₀ r : ρ}
    (hr₀ : r₀ ∈ snapshot) (hp₀ : p r₀ = true) (hfind : current.find? (key r₀) = some r)
    (hp : p r = true) : r ∈ matching snapshot current p := by
  refine List.mem_filterMap.mpr ⟨r₀, List.mem_filter.mpr ⟨hr₀, hp₀⟩, ?_⟩
  rw [hfind, Option.filter_some, if_pos hp]

lemma mem_updates {snapshot current : Table ρ κ key} {p : ρ → Bool} {f : ρ → ρ}
    {w : RowWrite ρ κ} (h : w ∈ updates snapshot current p f) :
    ∃ r ∈ current, p r = true ∧ w = .put (f r) := by
  obtain ⟨r, hr, rfl⟩ := List.mem_map.mp h
  obtain ⟨hmem, hp⟩ := mem_matching hr
  exact ⟨r, hmem, hp, rfl⟩

lemma mem_deletes {snapshot current : Table ρ κ key} {p : ρ → Bool} {w : RowWrite ρ κ}
    (h : w ∈ deletes snapshot current p) : ∃ r ∈ current, p r = true ∧ w = .erase (key r) := by
  obtain ⟨r, hr, rfl⟩ := List.mem_map.mp h
  obtain ⟨hmem, hp⟩ := mem_matching hr
  exact ⟨r, hmem, hp, rfl⟩

@[simp] lemma matching_self (t : Table ρ κ key) (p : ρ → Bool) :
    matching t t p = t.rows.filter p := by
  have hself : ∀ r ∈ t.rows.filter p, (t.find? (key r)).filter p = some r := by
    intro r hr
    obtain ⟨hmem, hp⟩ := List.mem_filter.mp hr
    rw [find?_eq_some.mpr ⟨hmem, rfl⟩]
    simpa using hp
  rw [matching, List.filterMap_congr hself, List.filterMap_some]

lemma find?_foldl_put (l : List ρ) (hl : (l.map key).Nodup) (t : Table ρ κ key) (k : κ) :
    ((l.map RowWrite.put).foldl write t).find? k =
      (l.find? (fun r => key r = k)).or (t.find? k) := by
  induction l generalizing t with
  | nil => rfl
  | cons r l ih =>
    obtain ⟨hr, hl⟩ := List.nodup_cons.mp hl
    rw [List.map_cons, List.foldl_cons, ih hl, write_put, find?_put, List.find?_cons]
    by_cases hk : k = key r
    · subst hk
      have hnone : l.find? (fun r' => key r' = key r) = none := by
        rw [List.find?_eq_none]
        intro r' hr' hkey
        exact hr (List.mem_map.mpr ⟨r', hr', by simpa using hkey⟩)
      simp [hnone]
    · simp [hk, Ne.symm hk]

lemma find?_foldl_erase (l : List ρ) (t : Table ρ κ key) (k : κ) :
    ((l.map (fun r => RowWrite.erase (key r))).foldl write t).find? k =
      if ∃ r ∈ l, key r = k then none else t.find? k := by
  induction l generalizing t with
  | nil => simp
  | cons r l ih =>
    rw [List.map_cons, List.foldl_cons, ih, write_erase, find?_erase]
    by_cases hk : key r = k
    · simp [hk]
    · simp [hk, Ne.symm hk]

lemma mem_matching_iff {snapshot current : Table ρ κ key} {p : ρ → Bool} {r : ρ} :
    r ∈ matching snapshot current p ↔
      r ∈ current ∧ p r = true ∧ (snapshot.find? (key r)).any p = true := by
  constructor
  · intro h
    obtain ⟨hmem, hp⟩ := mem_matching h
    refine ⟨hmem, hp, ?_⟩
    obtain ⟨r₀, hr₀, hr⟩ := List.mem_filterMap.mp h
    obtain ⟨hmem₀, hp₀⟩ := List.mem_filter.mp hr₀
    obtain ⟨hfind, -⟩ := Option.filter_eq_some_iff.mp hr
    have hsnapshot : snapshot.find? (key r) = some r₀ :=
      find?_eq_some.mpr ⟨hmem₀, (find?_eq_some.mp hfind).2.symm⟩
    rw [hsnapshot]
    exact hp₀
  · rintro ⟨hmem, hp, hany⟩
    cases hr₀ : snapshot.find? (key r) with
    | none => simp [hr₀] at hany
    | some r₀ =>
      obtain ⟨hmem₀, hkey⟩ := find?_eq_some.mp hr₀
      refine mem_matching_of_find? hmem₀ (by simpa [hr₀] using hany) ?_ hp
      rw [hkey]
      exact find?_eq_some.mpr ⟨hmem, rfl⟩

lemma nodup_matching (snapshot current : Table ρ κ key) (p : ρ → Bool) :
    ((matching snapshot current p).map key).Nodup := by
  have hsub : ((matching snapshot current p).map key).Sublist (snapshot.rows.map key) := by
    unfold matching
    induction snapshot.rows with
    | nil => exact .refl _
    | cons r rows ih =>
      rw [List.filter_cons]
      split
      · rw [List.filterMap_cons]
        cases hr : (current.find? (key r)).filter p with
        | none => exact ih.cons _
        | some r' =>
          obtain ⟨hfind, -⟩ := Option.filter_eq_some_iff.mp hr
          simp only [List.map_cons, (find?_eq_some.mp hfind).2]
          exact ih.cons_cons _
      · exact ih.cons _
  exact hsub.nodup snapshot.nodup

/-- `UPDATE` acts on each key by itself. -/
lemma find?_updates_from (snapshot current : Table ρ κ key) (p : ρ → Bool) (f : ρ → ρ)
    (hf : ∀ r, key (f r) = key r) (k : κ) :
    ((updates snapshot current p f).foldl write current).find? k =
      (current.find? k).map (fun r => if p r && (snapshot.find? k).any p then f r else r) := by
  have hkeys : ((matching snapshot current p).map f).map key =
      (matching snapshot current p).map key := by
    rw [List.map_map]
    exact List.map_congr_left fun r _ => hf r
  have hput : updates snapshot current p f =
      ((matching snapshot current p).map f).map RowWrite.put := by
    rw [updates, List.map_map]
    rfl
  rw [hput, find?_foldl_put _ (by rw [hkeys]; exact nodup_matching _ _ _)]
  -- The row with the key, if it is acted on.
  cases hput : ((matching snapshot current p).map f).find? (fun r => key r = k) with
  | some r' =>
    obtain ⟨r, hr, rfl⟩ := List.mem_map.mp (List.mem_of_find?_eq_some hput)
    have hkey : key r = k := by simpa [hf] using List.find?_some hput
    obtain ⟨hmem, hp, hany⟩ := mem_matching_iff.mp hr
    rw [hkey] at hany
    rw [find?_eq_some.mpr ⟨hmem, hkey⟩]
    simp [hp, hany]
  | none =>
    cases hfind : current.find? k with
    | none => rfl
    | some r =>
      obtain ⟨hmem, hkey⟩ := find?_eq_some.mp hfind
      have hnot : ¬ (p r = true ∧ (snapshot.find? k).any p = true) := by
        rintro ⟨hp, hany⟩
        have hr : r ∈ matching snapshot current p := mem_matching_iff.mpr ⟨hmem, hp, by rwa [hkey]⟩
        have hfound := List.find?_eq_none.mp hput (f r) (List.mem_map_of_mem hr)
        exact hfound (by simpa [hf] using hkey)
      rw [← Bool.and_eq_true] at hnot
      rw [Option.map_some, if_neg hnot]
      rfl

/-- `DELETE` acts on each key by itself. -/
lemma find?_deletes_from (snapshot current : Table ρ κ key) (p : ρ → Bool) (k : κ) :
    ((deletes snapshot current p).foldl write current).find? k =
      (current.find? k).filter (fun r => !(p r && (snapshot.find? k).any p)) := by
  rw [deletes, find?_foldl_erase]
  cases hfind : current.find? k with
  | none => simp
  | some r =>
    obtain ⟨hmem, hkey⟩ := find?_eq_some.mp hfind
    have hiff : (∃ r' ∈ matching snapshot current p, key r' = k) ↔
        (p r && (snapshot.find? k).any p) = true := by
      rw [Bool.and_eq_true]
      constructor
      · rintro ⟨r', hr', hkey'⟩
        obtain ⟨hmem', hp, hany⟩ := mem_matching_iff.mp hr'
        obtain rfl := current.eq_of_key_eq hmem' hmem (hkey'.trans hkey.symm)
        exact ⟨hp, by rwa [hkey'] at hany⟩
      · rintro ⟨hp, hany⟩
        exact ⟨r, mem_matching_iff.mpr ⟨hmem, hp, by rwa [hkey]⟩, hkey⟩
    rw [Option.filter_some]
    by_cases hacts : (p r && (snapshot.find? k).any p) = true
    · rw [if_pos (hiff.mpr hacts), hacts]
      simp
    · rw [if_neg (fun h => hacts (hiff.mp h))]
      simp [hacts]

/-- `UPDATE` that runs alone. -/
lemma find?_updates (t : Table ρ κ key) (p : ρ → Bool) (f : ρ → ρ) (hf : ∀ r, key (f r) = key r)
    (k : κ) : ((updates t t p f).foldl write t).find? k =
      (t.find? k).map (fun r => if p r then f r else r) := by
  rw [find?_updates_from t t p f hf]
  cases t.find? k <;> simp

/-- `DELETE` that runs alone. -/
lemma find?_deletes (t : Table ρ κ key) (p : ρ → Bool) (k : κ) :
    ((deletes t t p).foldl write t).find? k = (t.find? k).filter (fun r => !p r) := by
  rw [find?_deletes_from]
  cases t.find? k with
  | none => rfl
  | some r => simp [Option.filter_some]

lemma updates_eq_nil_iff {t : Table ρ κ key} {p : ρ → Bool} {f : ρ → ρ} :
    updates t t p f = [] ↔ t.rows.any p = false := by
  simp [updates, List.filter_eq_nil_iff]

lemma deletes_eq_nil_iff {t : Table ρ κ key} {p : ρ → Bool} :
    deletes t t p = [] ↔ t.rows.any p = false := by
  simp [deletes, List.filter_eq_nil_iff]

lemma nodup_row_deletes (snapshot current : Table ρ κ key) (p : ρ → Bool) :
    ((deletes snapshot current p).map (RowWrite.row key)).Nodup := by
  rw [deletes, List.map_map]
  exact nodup_matching snapshot current p

lemma nodup_row_updates (snapshot current : Table ρ κ key) (p : ρ → Bool) {f : ρ → ρ}
    (hf : ∀ r, key (f r) = key r) :
    ((updates snapshot current p f).map (RowWrite.row key)).Nodup := by
  have hrow : (RowWrite.row key) ∘ (fun r => RowWrite.put (f r)) = key := funext hf
  rw [updates, List.map_map, hrow]
  exact nodup_matching snapshot current p

/-! ## What a write touches -/

/-- The write puts a row that satisfies `P`, or replaces or erases one. -/
def RowWrite.Touches (P : ρ → Prop) (t : Table ρ κ key) : RowWrite ρ κ → Prop
  | put r => P r ∨ ∃ old ∈ t, key old = key r ∧ P old
  | erase k => ∃ old ∈ t, key old = k ∧ P old

lemma mem_write_of_ne {t : Table ρ κ key} {w : RowWrite ρ κ} {r : ρ} (h : key r ≠ w.row key) :
    r ∈ t.write w ↔ r ∈ t := by
  cases w with
  | put new =>
    have hne : r ≠ new := fun heq => h (congrArg key heq)
    simp [mem_put, hne, show key r ≠ key new from h]
  | erase k => simp [erase, show key r ≠ k from h]

lemma touches_write {P : ρ → Prop} {t : Table ρ κ key} {w w' : RowWrite ρ κ}
    (h : w.row key ≠ w'.row key) : w.Touches P (t.write w') ↔ w.Touches P t := by
  have hold (k : κ) (hk : k ≠ w'.row key) :
      (∃ old ∈ t.write w', key old = k ∧ P old) ↔ ∃ old ∈ t, key old = k ∧ P old := by
    refine exists_congr fun old => ?_
    constructor
    · rintro ⟨hmem, rfl, hP⟩
      exact ⟨(mem_write_of_ne hk).mp hmem, rfl, hP⟩
    · rintro ⟨hmem, rfl, hP⟩
      exact ⟨(mem_write_of_ne hk).mpr hmem, rfl, hP⟩
  cases w with
  | put r => exact or_congr_right (hold (key r) h)
  | erase k => exact hold k h

/-- The rows that satisfy `P` stay as they are if the write touches none. -/
lemma mem_write_of_not_touches {P : ρ → Prop} {t : Table ρ κ key} {w : RowWrite ρ κ} {r : ρ}
    (h : ¬ w.Touches P t) (hr : P r) : r ∈ t.write w ↔ r ∈ t := by
  by_cases hkey : key r = w.row key
  case neg => exact mem_write_of_ne hkey
  -- The row under the key of the write satisfies `P` neither before nor after.
  refine iff_of_false (fun hmem => ?_) (fun hmem => ?_)
  · cases w with
    | put new =>
      obtain rfl | ⟨-, hne⟩ := mem_put.mp hmem
      · exact h (.inl hr)
      · exact hne hkey
    | erase k =>
      have hne : r ∈ t ∧ key r ≠ k := by simpa [erase] using hmem
      exact hne.2 hkey
  · cases w with
    | put new => exact h (.inr ⟨r, hmem, hkey, hr⟩)
    | erase k => exact h ⟨r, hmem, hkey, hr⟩

/-- If no row that satisfies `P` is touched, no new row satisfies it. -/
lemma of_mem_write_of_not_touches {P : ρ → Prop} {t : Table ρ κ key} {w : RowWrite ρ κ} {r : ρ}
    (h : ¬ w.Touches P t) (hr : r ∈ t.write w) : ¬ P r ∨ r ∈ t := by
  by_cases hP : P r
  · exact .inr ((mem_write_of_not_touches h hP).mp hr)
  · exact .inl hP

lemma not_touches_deletes {P : ρ → Prop} {t : Table ρ κ key} {p : ρ → Bool} :
    (∀ w ∈ deletes t t p, ¬ w.Touches P t) ↔ ∀ r ∈ t, p r = true → ¬ P r := by
  constructor
  · intro h r hr hp hP
    have hmem : RowWrite.erase (key r) ∈ deletes t t p :=
      List.mem_map_of_mem (by simpa [mem_rows] using ⟨hr, hp⟩)
    exact h _ hmem ⟨r, hr, rfl, hP⟩
  · rintro h w hw htouches
    obtain ⟨r, hr, hp, rfl⟩ := mem_deletes hw
    obtain ⟨old, hold, hkey, hP⟩ := htouches
    obtain rfl := t.eq_of_key_eq hold hr hkey
    exact h old hold hp hP

/-- An update touches the rows it updates, if it leaves alone whether they satisfy `P`. -/
lemma not_touches_updates {P : ρ → Prop} {t : Table ρ κ key} {p : ρ → Bool} {f : ρ → ρ}
    (hf : ∀ r, key (f r) = key r) (hP : ∀ r, P (f r) ↔ P r) :
    (∀ w ∈ updates t t p f, ¬ w.Touches P t) ↔ ∀ r ∈ t, p r = true → ¬ P r := by
  constructor
  · intro h r hr hp hPr
    have hmem : RowWrite.put (f r) ∈ updates t t p f :=
      List.mem_map_of_mem (by simpa [mem_rows] using ⟨hr, hp⟩)
    exact h _ hmem (.inl ((hP r).mpr hPr))
  · intro h w hw htouches
    obtain ⟨r, hr, hp, rfl⟩ := mem_updates hw
    obtain hPr | ⟨old, hold, hkey, hPr⟩ := htouches
    · exact h r hr hp ((hP r).mp hPr)
    · obtain rfl := t.eq_of_key_eq hold hr (hkey.trans (hf r))
      exact h old hold hp hPr

end Table

end Lib

import Paryty.Processing.TopNHeap

/-!
# The index of the Top-N heap

`minHeap` of `cluster/internal/processing/topn.go` with its map from names to positions, which each
swap and each push keeps up to date. `Indexed` says that the map has the position of every entry
under its name, and of no other; each operation keeps it and does to the entries what the operation
without the map does.
-/

namespace Paryty.Processing

/-- `minHeap`: the entries, and the position of each name. -/
structure IndexedHeap where
  entries : List TopNEntry := []
  index : Lib.Table (String × ℕ) String Prod.fst := .empty

namespace IndexedHeap

/-! ## The operations -/

/-- `Swap`. -/
def swap (h : IndexedHeap) (i j : ℕ) : IndexedHeap :=
  match h.entries[i]?, h.entries[j]? with
  | some a, some b =>
    { entries := (h.entries.set i b).set j a
      index := (h.index.put (b.name, i)).put (a.name, j) }
  | _, _ => h

/-- `heap.up`, `fuel` levels at most. -/
def up : ℕ → IndexedHeap → ℕ → IndexedHeap
  | 0, h, _ => h
  | fuel + 1, h, j =>
    let i := (j - 1) / 2
    if i = j ∨ !MinHeap.less h.entries j i then h else up fuel (h.swap i j) i

/-- `heap.down`, `fuel` levels at most, and whether the entry moved. -/
def down : ℕ → IndexedHeap → ℕ → IndexedHeap × Bool
  | 0, h, _ => (h, false)
  | fuel + 1, h, i =>
    let j₁ := 2 * i + 1
    let j₂ := j₁ + 1
    if h.entries.length ≤ j₁ then (h, false)
    else
      let j := if j₂ < h.entries.length ∧ MinHeap.less h.entries j₂ j₁ then j₂ else j₁
      if !MinHeap.less h.entries j i then (h, false) else ((down fuel (h.swap i j) j).1, true)

/-- `heap.Fix`. -/
def fix (h : IndexedHeap) (i : ℕ) : IndexedHeap :=
  let (h', moved) := down h.entries.length h i
  if moved then h' else up h.entries.length h' i

/-- `heap.Push`, with `minHeap.Push`. -/
def push (h : IndexedHeap) (entry : TopNEntry) : IndexedHeap :=
  up (h.entries.length + 1)
    { entries := h.entries ++ [entry], index := h.index.put (entry.name, h.entries.length) }
    h.entries.length

/-- `minHeap.update`. -/
def update (h : IndexedHeap) (i : ℕ) (entry : TopNEntry) : IndexedHeap :=
  fix { h with entries := h.entries.set i entry } i

/-- What `categoryTracker.update` does to replace the first entry. -/
def replaceFirst (h : IndexedHeap) (evicted : String) (entry : TopNEntry) : IndexedHeap :=
  fix
    { entries := h.entries.set 0 entry
      index := (h.index.put (entry.name, 0)).erase evicted } 0

/-! ## The index is right -/

variable {h : IndexedHeap} {i j : ℕ} {name : String} {entry : TopNEntry}

/-- The index has the position of every entry under its name, and of no other. -/
def Indexed (h : IndexedHeap) : Prop :=
  ∀ name i, (name, i) ∈ h.index ↔ h.entries[i]?.map TopNEntry.name = some name

lemma Indexed.inj (hindex : Indexed h) (hi : h.entries[i]?.map TopNEntry.name = some name)
    (hj : h.entries[j]?.map TopNEntry.name = some name) : i = j := by
  have hsame := h.index.eq_of_key_eq ((hindex name i).mpr hi) ((hindex name j).mpr hj) rfl
  exact congrArg Prod.snd hsame

lemma Indexed.find? (hindex : Indexed h) (name : String) :
    (h.index.find? name).map Prod.snd = h.entries.findIdx? fun e => e.name = name := by
  cases hfind : h.entries.findIdx? fun e => decide (e.name = name) with
  | none =>
    rw [Option.map_eq_none_iff, Lib.Table.find?_eq_none]
    rintro ⟨name', i⟩ hmem rfl
    obtain ⟨e, he, hname⟩ := Option.map_eq_some_iff.mp ((hindex name' i).mp hmem)
    rw [List.findIdx?_eq_none_iff] at hfind
    exact absurd hname (by simpa using hfind e (List.mem_of_getElem? he))
  | some i =>
    obtain ⟨hi, hname, -⟩ := List.findIdx?_eq_some_iff_getElem.mp hfind
    have hmem : (name, i) ∈ h.index := by
      rw [hindex, List.getElem?_eq_getElem hi, Option.map_some]
      exact congrArg some (of_decide_eq_true hname)
    rw [Lib.Table.find?_eq_some.mpr ⟨hmem, rfl⟩, Option.map_some]

/-! ## The operations keep the index right -/

@[simp] lemma entries_swap (h : IndexedHeap) (i j : ℕ) :
    (h.swap i j).entries = MinHeap.swap h.entries i j := by
  unfold swap MinHeap.swap
  cases h.entries[i]? with
  | none => rfl
  | some a => cases h.entries[j]? <;> rfl

lemma swap_of_le (hij : h.entries.length ≤ i ∨ h.entries.length ≤ j) : h.swap i j = h := by
  rw [swap]
  rcases hij with hi | hj
  · rw [List.getElem?_eq_none hi]
  · rw [List.getElem?_eq_none hj]
    cases h.entries[i]? <;> rfl

lemma Indexed.mem_iff (hindex : Indexed h) (hi : i < h.entries.length) :
    (name, i) ∈ h.index ↔ h.entries[i].name = name := by
  rw [hindex, List.getElem?_eq_getElem hi, Option.map_some, Option.some_inj]

lemma Indexed.swap (hindex : Indexed h) (i j : ℕ) : Indexed (h.swap i j) := by
  by_cases hrange : h.entries.length ≤ i ∨ h.entries.length ≤ j
  · rwa [swap_of_le hrange]
  · have hi : i < h.entries.length := by omega
    have hj : j < h.entries.length := by omega
    have hindex' : (h.swap i j).index =
        (h.index.put (h.entries[j].name, i)).put (h.entries[i].name, j) := by
      rw [IndexedHeap.swap, List.getElem?_eq_getElem hi, List.getElem?_eq_getElem hj]
    -- A name that is at `m` has no other position in the index.
    have hinj (k : ℕ) {name : String} (hk : (name, k) ∈ h.index) {m : ℕ}
        (hm : m < h.entries.length) (hname : h.entries[m].name = name) : k = m :=
      hindex.inj ((hindex name k).mp hk) ((hindex name m).mp ((hindex.mem_iff hm).mpr hname))
    intro name k
    rw [entries_swap, MinHeap.getElem?_swap hi hj, hindex', Lib.Table.mem_put, Lib.Table.mem_put,
      Equiv.swap_apply_def, ← hindex, Prod.mk.injEq, Prod.mk.injEq]
    by_cases hki : k = i
    · -- Position `i` has the entry that was at `j`.
      rw [if_pos hki, hindex.mem_iff hj, hki, hindex.mem_iff hi]
      have hsame : h.entries[i].name = h.entries[j].name → i = j := fun hsame =>
        hinj i ((hindex.mem_iff hi).mpr hsame) hj rfl
      constructor
      · rintro (⟨rfl, rfl⟩ | ⟨⟨rfl, -⟩ | ⟨rfl, -⟩, hne⟩)
        · rfl
        · rfl
        · exact absurd rfl hne
      · rintro rfl
        by_cases hij : i = j
        · subst hij
          exact .inl ⟨rfl, rfl⟩
        · exact .inr ⟨.inl ⟨rfl, rfl⟩, fun h => hij (hsame h.symm)⟩
    · rw [if_neg hki]
      by_cases hkj : k = j
      · -- Position `j` has the entry that was at `i`.
        rw [if_pos hkj, hindex.mem_iff hi, hkj, hindex.mem_iff hj]
        constructor
        · rintro (⟨rfl, -⟩ | ⟨⟨-, rfl⟩ | ⟨rfl, hne⟩, -⟩)
          · rfl
          · exact absurd hkj hki
          · exact absurd rfl hne
        · rintro rfl
          exact .inl ⟨rfl, rfl⟩
      · rw [if_neg hkj]
        constructor
        · rintro (⟨-, rfl⟩ | ⟨⟨-, rfl⟩ | ⟨hk, -⟩, -⟩)
          · exact absurd rfl hkj
          · exact absurd rfl hki
          · exact hk
        · intro hk
          exact .inr ⟨.inr ⟨hk, fun hname => hkj (hinj k hk hj hname.symm)⟩,
            fun hname => hki (hinj k hk hi hname.symm)⟩

lemma entries_up (fuel : ℕ) (h : IndexedHeap) (j : ℕ) :
    (up fuel h j).entries = MinHeap.up fuel h.entries j := by
  induction fuel generalizing h j with
  | zero => rfl
  | succ fuel ih =>
    rw [up, MinHeap.up]
    split
    · rfl
    · rw [ih, entries_swap]

lemma Indexed.up (hindex : Indexed h) (fuel j : ℕ) : Indexed (up fuel h j) := by
  induction fuel generalizing h j with
  | zero => exact hindex
  | succ fuel ih =>
    rw [IndexedHeap.up]
    split
    · exact hindex
    · exact ih (hindex.swap _ j) _

lemma down_succ (fuel : ℕ) (h : IndexedHeap) (i : ℕ) : down (fuel + 1) h i =
    if h.entries.length ≤ 2 * i + 1 then (h, false)
    else if !MinHeap.less h.entries (MinHeap.smallerChild h.entries i) i then (h, false)
    else ((down fuel (h.swap i (MinHeap.smallerChild h.entries i))
      (MinHeap.smallerChild h.entries i)).1, true) := rfl

lemma entries_down (fuel : ℕ) (h : IndexedHeap) (i : ℕ) :
    (down fuel h i).1.entries = (MinHeap.down fuel h.entries i).1 ∧
      (down fuel h i).2 = (MinHeap.down fuel h.entries i).2 := by
  induction fuel generalizing h i with
  | zero => exact ⟨rfl, rfl⟩
  | succ fuel ih =>
    rw [down_succ, MinHeap.down_succ]
    split
    · exact ⟨rfl, rfl⟩
    · split
      · exact ⟨rfl, rfl⟩
      · refine ⟨?_, rfl⟩
        rw [(ih _ _).1, entries_swap]

lemma Indexed.down (hindex : Indexed h) (fuel i : ℕ) : Indexed (down fuel h i).1 := by
  induction fuel generalizing h i with
  | zero => exact hindex
  | succ fuel ih =>
    rw [down_succ]
    split
    · exact hindex
    · split
      · exact hindex
      · exact ih (hindex.swap i _) _

@[simp] lemma entries_fix (h : IndexedHeap) (i : ℕ) :
    (h.fix i).entries = MinHeap.fix h.entries i := by
  obtain ⟨hentries, hmoved⟩ := entries_down h.entries.length h i
  unfold fix MinHeap.fix
  dsimp only
  rw [hmoved]
  split
  · exact hentries
  · rw [entries_up, hentries]

lemma Indexed.fix (hindex : Indexed h) (i : ℕ) : Indexed (h.fix i) := by
  unfold IndexedHeap.fix
  dsimp only
  split
  · exact hindex.down _ i
  · exact (hindex.down _ i).up _ i

@[simp] lemma entries_push (h : IndexedHeap) (entry : TopNEntry) :
    (h.push entry).entries = MinHeap.push h.entries entry := by
  rw [push, entries_up, MinHeap.push]

lemma Indexed.push (hindex : Indexed h) (hfresh : ∀ e ∈ h.entries, e.name ≠ entry.name) :
    Indexed (h.push entry) := by
  refine Indexed.up (fun name i => ?_) _ _
  dsimp only
  rw [Lib.Table.mem_put, Prod.mk.injEq, hindex]
  by_cases hi : i < h.entries.length
  · rw [List.getElem?_append_left hi, List.getElem?_eq_getElem hi, Option.map_some,
      Option.some_inj]
    constructor
    · rintro (⟨-, rfl⟩ | ⟨hname, -⟩)
      · exact absurd hi (lt_irrefl _)
      · exact hname
    · rintro rfl
      exact .inr ⟨rfl, hfresh _ (List.getElem_mem hi)⟩
  · rw [List.getElem?_append_right (by omega), List.getElem?_eq_none (l := h.entries) (by omega)]
    by_cases hend : i = h.entries.length
    · simp [hend, eq_comm]
    · rw [List.getElem?_eq_none (by rw [List.length_singleton]; omega)]
      simp [hend]

@[simp] lemma entries_update (h : IndexedHeap) (i : ℕ) (entry : TopNEntry) :
    (h.update i entry).entries = MinHeap.fix (h.entries.set i entry) i := entries_fix _ i

lemma Indexed.update (hindex : Indexed h) (hmem : (entry.name, i) ∈ h.index) :
    Indexed (h.update i entry) := by
  refine Indexed.fix (fun name j => ?_) i
  have hname : h.entries[i]?.map TopNEntry.name = some entry.name := (hindex _ _).mp hmem
  rw [hindex]
  show _ ↔ (h.entries.set i entry)[j]?.map TopNEntry.name = some name
  by_cases hj : i = j
  · subst hj
    have hi : i < h.entries.length := by
      by_contra hi
      rw [List.getElem?_eq_none (by omega)] at hname
      exact absurd hname (by simp)
    rw [hname, List.getElem?_set_self hi, Option.map_some]
  · rw [List.getElem?_set_ne hj]

@[simp] lemma entries_replaceFirst (h : IndexedHeap) (evicted : String) (entry : TopNEntry) :
    (h.replaceFirst evicted entry).entries = MinHeap.fix (h.entries.set 0 entry) 0 :=
  entries_fix _ 0

lemma Indexed.replaceFirst {first : TopNEntry} {rest : List TopNEntry} (hindex : Indexed h)
    (hentries : h.entries = first :: rest) (hfresh : ∀ e ∈ h.entries, e.name ≠ entry.name) :
    Indexed (h.replaceFirst first.name entry) := by
  refine Indexed.fix (fun name j => ?_) 0
  show (name, j) ∈ (h.index.put (entry.name, 0)).erase first.name ↔
    (h.entries.set 0 entry)[j]?.map TopNEntry.name = some name
  -- The index forgets the evicted name only, as the new one is another.
  have hfirst : first.name ≠ entry.name := hfresh first (hentries ▸ List.mem_cons_self)
  have hzero : h.entries[0]?.map TopNEntry.name = some first.name := by rw [hentries]; rfl
  rw [Lib.Table.mem_erase, Lib.Table.mem_put, Prod.mk.injEq]
  cases j with
  | zero =>
    rw [hindex, hzero, hentries, List.set_cons_zero, List.getElem?_cons_zero, Option.map_some,
      Option.some_inj, Option.some_inj]
    constructor
    · rintro ⟨⟨rfl, -⟩ | ⟨rfl, -⟩, hne⟩
      · rfl
      · exact absurd rfl hne
    · rintro rfl
      exact ⟨.inl ⟨rfl, rfl⟩, hfirst.symm⟩
  | succ j =>
    rw [List.getElem?_set_ne (by omega), ← hindex]
    constructor
    · rintro ⟨⟨-, hj⟩ | ⟨hmem, -⟩, -⟩
      · exact absurd hj (by omega)
      · exact hmem
    · intro hmem
      obtain ⟨e, he, rfl⟩ := Option.map_eq_some_iff.mp ((hindex name (j + 1)).mp hmem)
      refine ⟨.inr ⟨hmem, hfresh e (List.mem_of_getElem? he)⟩, fun hname => ?_⟩
      exact absurd (hindex.inj ((hindex _ _).mp hmem) (hname ▸ hzero)) (by omega)

end IndexedHeap

end Paryty.Processing

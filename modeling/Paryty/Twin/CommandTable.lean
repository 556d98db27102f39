import Paryty.Twin.CommandStages

/-!
# What happens to the rows of `agent_commands`

Rows are inserted and marked as delivered; nothing else ever happens to them. `Grows` compares
two states of the table by this. `Marks` says what a heartbeat's commit will do to the table,
however it has grown since the update was answered.
-/

namespace Paryty.Twin

open Lib.Table (updates matching find?_eq_some find?_foldl_put mem_matching)

/-- The row with `delivered_at` set if its id is among the given ones. -/
def CommandRecord.mark (ids : List CommandID) (record : CommandRecord) : CommandRecord :=
  if record.id ∈ ids then { record with delivered := true } else record

@[simp] lemma CommandRecord.toCommand_mark (ids : List CommandID) (record : CommandRecord) :
    (record.mark ids).toCommand = record.toCommand := by
  unfold mark
  split <;> rfl

@[simp] lemma CommandRecord.createdAt_mark (ids : List CommandID) (record : CommandRecord) :
    (record.mark ids).createdAt = record.createdAt := by
  unfold mark
  split <;> rfl

lemma CommandRecord.mark_of_notMem {ids : List CommandID} {record : CommandRecord}
    (h : record.id ∉ ids) : record.mark ids = record := if_neg h

lemma CommandRecord.delivered_mark {ids : List CommandID} {record : CommandRecord} :
    (record.mark ids).delivered = true ↔ record.id ∈ ids ∨ record.delivered = true := by
  unfold mark
  split
  case isTrue h => simp [h]
  case isFalse h => simp [h]

/-! ## Tables that grow -/

/-- The later table has every row of the earlier one, some of them marked by now. -/
def Grows (earlier later : CommandTable) : Prop :=
  ∀ record ∈ earlier, record ∈ later ∨ { record with delivered := true } ∈ later

/-- A command has a row. -/
def InTable (t : CommandTable) (cmd : Command) : Prop := ∃ record ∈ t, record.toCommand = cmd

/-- A command has a row that is marked. -/
def Marked (t : CommandTable) (cmd : Command) : Prop :=
  ∃ record ∈ t, record.toCommand = cmd ∧ record.delivered = true

lemma Grows.refl (t : CommandTable) : Grows t t := fun _ h => .inl h

lemma Grows.trans {t t' t'' : CommandTable} (h : Grows t t') (h' : Grows t' t'') :
    Grows t t'' := by
  intro record hrecord
  rcases h record hrecord with hsame | hmarked
  · exact h' record hsame
  · rcases h' _ hmarked with h | h
    · exact .inr h
    · exact .inr h

lemma InTable.grows {t t' : CommandTable} (h : Grows t t') {cmd : Command} (hcmd : InTable t cmd) :
    InTable t' cmd := by
  obtain ⟨record, hrecord, rfl⟩ := hcmd
  rcases h record hrecord with hsame | hmarked
  · exact ⟨record, hsame, rfl⟩
  · exact ⟨_, hmarked, rfl⟩

lemma Marked.grows {t t' : CommandTable} (h : Grows t t') {cmd : Command} (hcmd : Marked t cmd) :
    Marked t' cmd := by
  obtain ⟨record, hrecord, rfl, hdelivered⟩ := hcmd
  rcases h record hrecord with hsame | hmarked
  · exact ⟨record, hsame, rfl, hdelivered⟩
  · exact ⟨_, hmarked, rfl, rfl⟩

lemma Marked.inTable {t : CommandTable} {cmd : Command} (h : Marked t cmd) : InTable t cmd := by
  obtain ⟨record, hrecord, rfl, -⟩ := h
  exact ⟨record, hrecord, rfl⟩

lemma InTable.hasKey {t : CommandTable} {cmd : Command} (h : InTable t cmd) :
    t.HasKey cmd.id := by
  obtain ⟨record, hrecord, rfl⟩ := h
  exact ⟨record, hrecord, rfl⟩

lemma row_unique {t : CommandTable} {r r' : CommandRecord} (hr : r ∈ t) (hr' : r' ∈ t)
    (h : r.id = r'.id) : r = r' := t.eq_of_key_eq hr hr' h

lemma mem_put_fresh {t : CommandTable} {row r : CommandRecord} (fresh : ¬ t.HasKey row.id) :
    r ∈ t.put row ↔ r = row ∨ r ∈ t := by
  rw [Lib.Table.mem_put]
  constructor
  · rintro (h | ⟨h, -⟩)
    · exact .inl h
    · exact .inr h
  · rintro (h | h)
    · exact .inl h
    · exact .inr ⟨h, fun hkey => fresh ⟨r, h, hkey⟩⟩

lemma grows_put {t : CommandTable} {row : CommandRecord} (fresh : ¬ t.HasKey row.id) :
    Grows t (t.put row) := fun _ h => .inl ((mem_put_fresh fresh).mpr (.inr h))

/-! ## What a commit does -/

/-- The writes mark the rows with the given ids, in this table and in every later one. -/
def Marks (ids : List CommandID) (pending : List (Lib.Table.RowWrite CommandRecord CommandID))
    (t : CommandTable) : Prop :=
  ∀ later, Grows t later → ∀ r, r ∈ pending.foldl Lib.Table.write later ↔
    ∃ r₀ ∈ later, r₀.mark ids = r

lemma Marks.grows {ids : List CommandID}
    {pending : List (Lib.Table.RowWrite CommandRecord CommandID)} {t t' : CommandTable}
    (h : Grows t t') (hmarks : Marks ids pending t) : Marks ids pending t' :=
  fun later hlater => hmarks later (h.trans hlater)

lemma marks_nil (t : CommandTable) : Marks [] [] t := by
  intro later _ r
  show r ∈ later ↔ ∃ r₀ ∈ later, r₀.mark [] = r
  simp [CommandRecord.mark]

lemma grows_of_marks {ids : List CommandID}
    {pending : List (Lib.Table.RowWrite CommandRecord CommandID)} {t : CommandTable}
    (h : Marks ids pending t) : Grows t (pending.foldl Lib.Table.write t) := by
  intro r hr
  have hmem := (h t (.refl t) (r.mark ids)).mpr ⟨r, hr, rfl⟩
  by_cases hid : r.id ∈ ids
  · exact .inr (by rwa [CommandRecord.mark, if_pos hid] at hmem)
  · exact .inl (by rwa [CommandRecord.mark, if_neg hid] at hmem)

lemma matching_nodup (snapshot t : CommandTable) (p : CommandRecord → Bool) :
    ((matching snapshot t p).map (fun r => r.id)).Nodup := by
  have hsublist : ∀ l : List CommandRecord,
      ((l.filterMap (fun r => (t.find? r.id).filter p)).map (fun r => r.id)).Sublist
        (l.map (fun r => r.id)) := by
    intro l
    induction l with
    | nil => exact .slnil
    | cons r l ih =>
      rw [List.filterMap_cons, List.map_cons]
      cases hfind : (t.find? r.id).filter p with
      | none => exact .cons _ ih
      | some r' =>
        have hid : r'.id = r.id := (find?_eq_some.mp (Option.filter_eq_some_iff.mp hfind).1).2
        rw [List.map_cons, hid]
        exact ih.cons_cons _
  exact (hsublist _).nodup ((List.filter_sublist.map _).nodup snapshot.nodup)

lemma marks_updates {snapshot t : CommandTable} {ids : List CommandID} (hgrows : Grows snapshot t)
    (hids : ∀ id ∈ ids, snapshot.HasKey id) :
    Marks ids (updates snapshot t (fun record => record.id ∈ ids) ({ · with delivered := true }))
      t := by
  intro later hlater r
  let written := (matching snapshot t (fun record => record.id ∈ ids)).map
    (fun record => { record with delivered := true })
  have hwrites : updates snapshot t (fun record => record.id ∈ ids)
      ({ · with delivered := true }) = written.map Lib.Table.RowWrite.put := by
    rw [updates, List.map_map]
    rfl
  have hnodup : (written.map (fun record => record.id)).Nodup := by
    rw [List.map_map]
    exact matching_nodup snapshot t _
  have hwritten : ∀ w ∈ written, w.id ∈ ids ∧ w.delivered = true ∧
      ∃ r₀ ∈ later, { r₀ with delivered := true } = w := by
    intro w hw
    obtain ⟨r₀, hr₀, rfl⟩ := List.mem_map.mp hw
    obtain ⟨hmem, hid⟩ := mem_matching hr₀
    refine ⟨by simpa using hid, rfl, ?_⟩
    rcases hlater r₀ hmem with h | h
    · exact ⟨r₀, h, rfl⟩
    · exact ⟨_, h, rfl⟩
  -- Every row of the ids is among the written ones: it was there when the update was issued.
  have hcovers : ∀ r₀ ∈ later, r₀.id ∈ ids → { r₀ with delivered := true } ∈ written := by
    intro r₀ hr₀ hid
    obtain ⟨seen, hseen, hkey⟩ : ∃ seen ∈ snapshot, seen.id = r₀.id := hids _ hid
    obtain ⟨now, hnow, hsame⟩ : ∃ now ∈ t, now.id = seen.id := by
      rcases hgrows seen hseen with h | h
      · exact ⟨_, h, rfl⟩
      · exact ⟨_, h, rfl⟩
    have hmatch : now ∈ matching snapshot t (fun record => record.id ∈ ids) := by
      refine Lib.Table.mem_matching_of_find? hseen ?_ (find?_eq_some.mpr ⟨hnow, hsame⟩) ?_
      · simpa [hkey] using hid
      · simpa [hsame, hkey] using hid
    have heq : { r₀ with delivered := true } = { now with delivered := true } := by
      rcases hlater now hnow with h | h
      · rw [row_unique hr₀ h (hkey.symm.trans hsame.symm)]
      · rw [row_unique hr₀ h (hkey.symm.trans hsame.symm)]
    rw [heq]
    exact List.mem_map.mpr ⟨now, hmatch, rfl⟩
  have hfind : ∀ k, (written.find? (fun w => w.id = k)) =
      if k ∈ ids then (later.find? k).map ({ · with delivered := true }) else none := by
    intro k
    split
    case isFalse hk =>
      rw [List.find?_eq_none]
      intro w hw hid
      obtain rfl : w.id = k := by simpa using hid
      exact hk (hwritten w hw).1
    case isTrue hk =>
      cases hlaterFind : later.find? k with
      | none =>
        rw [Option.map_none, List.find?_eq_none]
        intro w hw hid
        obtain ⟨-, -, r₀, hr₀, rfl⟩ := hwritten w hw
        exact Lib.Table.find?_eq_none.mp hlaterFind r₀ hr₀ (by simpa using hid)
      | some r₀ =>
        obtain ⟨hr₀, rfl⟩ := find?_eq_some.mp hlaterFind
        obtain ⟨w, hw⟩ : ∃ w, written.find? (fun w => w.id = r₀.id) = some w := by
          rw [← Option.isSome_iff_exists, List.find?_isSome]
          exact ⟨_, hcovers r₀ hr₀ hk, by simp⟩
        obtain ⟨-, -, r₁, hr₁, rfl⟩ := hwritten w (List.mem_of_find?_eq_some hw)
        have hid : r₁.id = r₀.id := by simpa using List.find?_some hw
        rw [hw, row_unique hr₁ hr₀ hid]
        rfl
  have hmem : ∀ t : CommandTable, r ∈ t ↔ t.find? r.id = some r :=
    fun t => (find?_eq_some.trans (and_iff_left rfl)).symm
  rw [hwrites, hmem, find?_foldl_put _ hnodup, hfind]
  constructor
  · intro h
    split at h
    case isTrue hk =>
      cases hlaterFind : later.find? r.id with
      | none => simp [hlaterFind] at h
      | some r₀ =>
        obtain ⟨hr₀, hid⟩ := find?_eq_some.mp hlaterFind
        refine ⟨r₀, hr₀, ?_⟩
        rw [CommandRecord.mark, if_pos (by rwa [hid])]
        simpa [hlaterFind] using h
    case isFalse hk =>
      obtain ⟨hr, -⟩ := find?_eq_some.mp (by simpa using h)
      exact ⟨r, hr, CommandRecord.mark_of_notMem hk⟩
  · rintro ⟨r₀, hr₀, rfl⟩
    have hid : (r₀.mark ids).id = r₀.id := by rw [CommandRecord.toCommand_mark]
    rw [hid, find?_eq_some.mpr ⟨hr₀, rfl⟩]
    unfold CommandRecord.mark
    split <;> simp

end Paryty.Twin

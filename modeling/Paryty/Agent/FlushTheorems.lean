import Paryty.Agent.Flush

/-!
# What a flush loses

`drain` empties memory before the first send, and nothing puts an entry back. A pending
SQLite row, in contrast, stays in its table until it is marked sent. Nothing of what is sent gets to
the cluster. So a flush that returns loses the entries of memory and the rows it marks
(`acknowledged`).
-/

namespace Paryty.Agent

/-! ## Rows under updates -/

namespace EdgeBuffer

variable {b b' : EdgeBuffer} {now : ℕ} {entry entry' : BufferEntry}

lemma mem_unsentEntries : entry ∈ b.unsentEntries now ↔
    ∃ db, b.db = some db ∧ ∃ row ∈ db.table, row.unsent = true ∧ row.toEntry now = entry := by
  unfold unsentEntries
  cases hdb : b.db with
  | none => simp
  | some db => simp [SqliteDb.pending, Lib.Table.mem_rows, and_assoc]

lemma sqliteRowId_of_mem_unsentEntries (h : entry ∈ b.unsentEntries now) :
    entry.sqliteRowId ≠ none := by
  obtain ⟨db, -, row, -, -, rfl⟩ := mem_unsentEntries.mp h
  simp [SqliteRow.toEntry]

lemma buffer_updateRow (b : EdgeBuffer) (rowId : ℤ) (ok : Bool) (f : SqliteRow → SqliteRow)
    (hf : ∀ row, (f row).id = row.id) : ((b.updateRow rowId ok f hf).getD b).buffer = b.buffer := by
  unfold updateRow
  cases b.db <;> cases ok <;> rfl

/-- An update that changes nothing a drain reads keeps what is pending, but for its own row if it
is not to be kept. -/
lemma mem_unsentEntries_updateRow (rowId : ℤ) (ok : Bool) {f : SqliteRow → SqliteRow}
    (hf : ∀ row, (f row).id = row.id) (keeps : Prop)
    (hentry : ∀ row, (f row).toEntry now = row.toEntry now)
    (hunsent : ∀ row, (f row).unsent = true ↔ row.unsent = true ∧ keeps) :
    entry ∈ ((b.updateRow rowId ok f hf).getD b).unsentEntries now ↔
      entry ∈ b.unsentEntries now ∧ (ok = true → entry.sqliteRowId = some rowId → keeps) := by
  unfold updateRow
  cases hdb : b.db with
  | none => simp [unsentEntries, hdb]
  | some db =>
    cases ok with
    | false => simp
    | true =>
      simp only [if_true, Option.getD_some, mem_unsentEntries, hdb, Option.some.injEq,
        exists_eq_left', true_implies]
      constructor
      · rintro ⟨row, hrow, hpending, rfl⟩
        have hrow : row ∈ db.table.updateWhere (fun row => row.id = rowId) f hf := hrow
        rcases Lib.Table.mem_updateWhere.mp hrow with ⟨hold, hne⟩ | ⟨row, hold, -, rfl⟩
        · exact ⟨⟨row, hold, hpending, rfl⟩, fun hid =>
            absurd (Option.some.inj hid) (by simpa using hne)⟩
        · obtain ⟨hpending, hkeeps⟩ := (hunsent row).mp hpending
          exact ⟨⟨row, hold, hpending, (hentry row).symm⟩, fun _ => hkeeps⟩
      · rintro ⟨⟨row, hrow, hpending, rfl⟩, hkeeps⟩
        by_cases hid : row.id = rowId
        · have hmem : f row ∈ db.table.updateWhere (fun row => row.id = rowId) f hf :=
            Lib.Table.mem_updateWhere.mpr (.inr ⟨row, hrow, by simpa using hid, rfl⟩)
          exact ⟨f row, hmem, (hunsent row).mpr ⟨hpending, hkeeps (congrArg some hid)⟩, hentry row⟩
        · have hmem : row ∈ db.table.updateWhere (fun row => row.id = rowId) f hf :=
            Lib.Table.mem_updateWhere.mpr (.inl ⟨hrow, by simpa using hid⟩)
          exact ⟨row, hmem, hpending, rfl⟩

@[simp] lemma buffer_acknowledge (b : EdgeBuffer) (entry : BufferEntry) (nowSecs : ℤ)
    (ok : Bool) : (b.acknowledge entry nowSecs ok).buffer = b.buffer := by
  unfold acknowledge
  split
  · rfl
  · exact buffer_updateRow _ _ _ _ _

@[simp] lemma buffer_recordRetry (b : EdgeBuffer) (entry : BufferEntry) (ok : Bool) :
    (b.recordRetry entry ok).buffer = b.buffer := by
  unfold recordRetry
  split
  · rfl
  · exact buffer_updateRow _ _ _ _ _

lemma mem_unsentEntries_acknowledge {nowSecs : ℤ} {ok : Bool} :
    entry' ∈ (b.acknowledge entry nowSecs ok).unsentEntries now ↔
      entry' ∈ b.unsentEntries now ∧ (ok = true → entry.sqliteRowId ≠ entry'.sqliteRowId) := by
  unfold acknowledge
  split
  case h_1 hmemory =>
    rw [hmemory]
    exact ⟨fun h => ⟨h, fun _ => (sqliteRowId_of_mem_unsentEntries h).symm⟩, And.left⟩
  case h_2 rowId hrow =>
    rw [hrow]
    refine (mem_unsentEntries_updateRow (f := fun row => { row with sentAt := some nowSecs }) rowId
      ok (fun _ => rfl) False (fun _ => rfl) fun row => ?_).trans ?_
    · simp [SqliteRow.unsent]
    · exact and_congr_right fun _ => forall_congr' fun _ => not_congr eq_comm

@[simp] lemma mem_unsentEntries_recordRetry {ok : Bool} :
    entry' ∈ (b.recordRetry entry ok).unsentEntries now ↔ entry' ∈ b.unsentEntries now := by
  unfold recordRetry
  split
  · rfl
  case h_2 rowId _ =>
    refine (mem_unsentEntries_updateRow
      (f := fun row => { row with retryCount := row.retryCount + 1 }) rowId ok (fun _ => rfl) True (fun _ => rfl) fun row => ?_).trans ?_
    · simp [SqliteRow.unsent]
    · simp

end EdgeBuffer

/-! ## The send loop -/

section SendLoop

variable {env : FlushEnv} {entries : List BufferEntry} {i queue : ℕ}

lemma buffer_sendEntries (i : ℕ) (out : FlushOutcome) :
    (sendEntries env i entries out).buffer.buffer = out.buffer.buffer := by
  induction entries generalizing i out with
  | nil => rfl
  | cons entry rest ih =>
    unfold sendEntries
    dsimp only
    split
    · rw [ih, EdgeBuffer.buffer_acknowledge]
    · exact EdgeBuffer.buffer_recordRetry _ _ _
    · rfl

lemma mem_unsentEntries_sendEntries {now : ℕ} {entry : BufferEntry} (i : ℕ) (out : FlushOutcome) :
    entry ∈ (sendEntries env i entries out).buffer.unsentEntries now ↔
      entry ∈ out.buffer.unsentEntries now ∧
        ∀ e ∈ acknowledged env i out.queue entries, e.sqliteRowId ≠ entry.sqliteRowId := by
  induction entries generalizing i out with
  | nil => simp [sendEntries, acknowledged]
  | cons head rest ih =>
    unfold sendEntries acknowledged
    dsimp only
    split
    case h_1 hsend =>
      rw [ih, EdgeBuffer.mem_unsentEntries_acknowledge, if_pos hsend, List.forall_mem_append,
        and_assoc]
      cases env.update i <;> simp
    case h_2 hsend => simp [hsend]
    case h_3 hsend => simp [hsend]

lemma acknowledged_subset : acknowledged env i queue entries ⊆ entries := by
  induction entries generalizing i queue with
  | nil => exact List.Subset.refl _
  | cons entry rest ih =>
    unfold acknowledged
    split
    · refine List.append_subset.mpr ⟨?_, List.Subset.trans ih (List.subset_cons_self _ _)⟩
      split <;> simp
    · exact List.nil_subset _

lemma returned_sendEntries {out : FlushOutcome} (hreturned : out.returned = true)
    (hqueue : out.queue + env.others i = env.queueAt queue i)
    (hbefore : ∀ j < i, env.connected j = true) :
    (sendEntries env i entries out).returned = false ↔
      ∃ k, (i ≤ k ∧ k < i + entries.length) ∧
        env.ConnectedTo k ∧ channelCapacity ≤ env.queueAt queue k := by
  induction entries generalizing i out with
  | nil =>
    refine iff_of_false (by simp [sendEntries, hreturned]) ?_
    rintro ⟨k, ⟨hle, hlt⟩, -⟩
    exact Nat.not_lt.mpr hle hlt
  | cons entry rest ih =>
    unfold sendEntries grpcSend
    rw [hqueue]
    cases hconnected : env.connected i with
    | false =>
      refine iff_of_false (by simp [hreturned]) ?_
      rintro ⟨k, ⟨hle, -⟩, hall, -⟩
      exact absurd (hall i hle) (by simp [hconnected])
    | true =>
      have hupto : ∀ j < i + 1, env.connected j = true := fun j hj =>
        (Nat.lt_succ_iff_lt_or_eq.mp hj).elim (hbefore j) fun heq => heq ▸ hconnected
      by_cases hroom : env.queueAt queue i < channelCapacity
      · simp only [if_true, if_pos hroom]
        rw [ih (by exact hreturned) (by rw [FlushEnv.queueAt]) hupto, List.length_cons]
        refine exists_congr fun k => and_congr_left fun ⟨hall, hfull⟩ => ?_
        have hne : k ≠ i := fun heq => absurd (heq ▸ hfull) (not_le.mpr hroom)
        omega
      · simp only [if_true, if_neg hroom, true_iff]
        exact ⟨i, ⟨le_rfl, by simp⟩, fun j hj => hupto j (Nat.lt_succ_of_le hj), not_lt.mp hroom⟩

/-- If no send finds the channel full, nothing is acknowledged if and only if no update succeeds. -/
lemma acknowledged_eq_nil (first : ℕ) (hqueue : first + env.others i = env.queueAt queue i)
    (hbefore : ∀ j < i, env.connected j = true)
    (hroom : ∀ k, i ≤ k ∧ k < i + entries.length → env.ConnectedTo k →
      env.queueAt queue k < channelCapacity) :
    acknowledged env i first entries = [] ↔
      ∀ k, i ≤ k ∧ k < i + entries.length → env.ConnectedTo k → env.update k = false := by
  induction entries generalizing i first with
  | nil =>
    refine iff_of_true rfl fun k hk => ?_
    exact absurd hk.2 (Nat.not_lt.mpr hk.1)
  | cons entry rest ih =>
    unfold acknowledged grpcSend
    rw [hqueue]
    cases hconnected : env.connected i with
    | false =>
      refine iff_of_true (by simp) fun k hk hall => ?_
      exact absurd (hall i hk.1) (by simp [hconnected])
    | true =>
      have hupto : ∀ j < i + 1, env.connected j = true := fun j hj =>
        (Nat.lt_succ_iff_lt_or_eq.mp hj).elim (hbefore j) fun heq => heq ▸ hconnected
      have hto : env.ConnectedTo i := fun j hj => hupto j (Nat.lt_succ_of_le hj)
      have hrange (k : ℕ) : i ≤ k ∧ k < i + (entry :: rest).length ↔
          k = i ∨ i + 1 ≤ k ∧ k < i + 1 + rest.length := by
        rw [List.length_cons]
        omega
      have hnext := ih (env.queueAt queue i + 1) (by rw [FlushEnv.queueAt]) hupto
        fun k hk => hroom k ((hrange k).mpr (.inr hk))
      simp only [if_true, if_pos (hroom i ((hrange i).mpr (.inl rfl)) hto), List.append_eq_nil_iff,
        hnext, hrange, or_imp, forall_and, forall_eq]
      refine and_congr_left fun _ => ?_
      cases env.update i <;> simp [hto]

end SendLoop

/-! ## Draining -/

namespace EdgeBuffer

variable {b : EdgeBuffer} {now : ℕ} {ok : Bool}

/-- The part of a drain that comes from SQLite. -/
def drainedRows (b : EdgeBuffer) (now : ℕ) (pendingOk : Bool) : List BufferEntry :=
  match b.db with
  | none => []
  | some db => if pendingOk then drainSqlitePending db now else []

lemma drain_fst (b : EdgeBuffer) (now : ℕ) (ok : Bool) :
    (b.drain now ok).1 = b.buffer ++ b.drainedRows now ok := by
  unfold drain drainedRows
  cases b.db with
  | none => simp
  | some db => cases ok <;> simp

@[simp] lemma buffer_drain : (b.drain now ok).2.buffer = [] := by
  unfold drain
  cases b.db with
  | none => rfl
  | some db => cases ok <;> rfl

@[simp] lemma unsentEntries_drain :
    (b.drain now ok).2.unsentEntries now = b.unsentEntries now := by
  unfold drain unsentEntries
  cases h : b.db with
  | none => simp [clearMemory, h]
  | some db => cases ok <;> simp [clearMemory, h]

lemma mem_unsentEntries_of_mem_drainedRows {entry : BufferEntry}
    (h : entry ∈ b.drainedRows now ok) : entry ∈ b.unsentEntries now := by
  unfold drainedRows at h
  unfold unsentEntries
  cases hdb : b.db with
  | none => simp [hdb] at h
  | some db =>
    cases ok
    · simp [hdb] at h
    · simp only [hdb, drainSqlitePending, if_true, List.mem_map] at h
      obtain ⟨row, hrow, rfl⟩ := h
      have hpending := (List.perm_insertionSort _ _).mem_iff.mp (List.mem_of_mem_take hrow)
      exact List.mem_map_of_mem hpending

lemma nodup_rowId_drainedRows (b : EdgeBuffer) (now : ℕ) (ok : Bool) :
    ((b.drainedRows now ok).map BufferEntry.sqliteRowId).Nodup := by
  unfold drainedRows
  cases b.db with
  | none => simp
  | some db =>
    cases ok
    · simp
    · have hids : (db.pending.map SqliteRow.id).Nodup :=
        (List.filter_sublist.map SqliteRow.id).nodup db.table.nodup
      have hsorted : ((db.pending.insertionSort SqliteRow.drainsBefore).map SqliteRow.id).Nodup :=
        ((List.perm_insertionSort _ _).map SqliteRow.id).nodup_iff.mpr hids
      have htaken := ((List.take_sublist SQLITE_DRAIN_BATCH_SIZE _).map SqliteRow.id).nodup hsorted
      have hsome := htaken.map (Option.some_injective ℤ)
      simpa [drainSqlitePending, List.map_map, Function.comp_def, SqliteRow.toEntry] using hsome

end EdgeBuffer

/-! ## What is lost -/

section Replay

variable (b : EdgeBuffer) (queue : ℕ) (env : FlushEnv)

lemma buffer_replay : (replay b queue env).buffer.buffer = [] :=
  (buffer_sendEntries 0 _).trans EdgeBuffer.buffer_drain

lemma mem_unsentEntries_replay {entry : BufferEntry} :
    entry ∈ (replay b queue env).buffer.unsentEntries env.clock.instant ↔
      entry ∈ b.unsentEntries env.clock.instant ∧
        ∀ e ∈ acknowledged env 0 queue (b.drain env.clock.instant env.pendingOk).1,
          e.sqliteRowId ≠ entry.sqliteRowId := by
  rw [replay, mem_unsentEntries_sendEntries, EdgeBuffer.unsentEntries_drain]

lemma returned_replay : (replay b queue env).returned = false ↔
    env.Waits queue (b.drain env.clock.instant env.pendingOk).1.length := by
  rw [replay, returned_sendEntries rfl rfl (by simp)]
  simp [FlushEnv.Waits]

lemma losesNothing_replay_iff : LosesNothing replay b queue env ↔ LosesNone b queue env := by
  unfold LosesNothing LosesNone
  dsimp only
  set now := env.clock.instant
  set entries := (b.drain now env.pendingOk).1 with hentries
  by_cases hwaits : env.Waits queue entries.length
  · have hreturned := (returned_replay b queue env).mpr hwaits
    exact iff_of_true (fun h => absurd (hreturned.symm.trans h) (by decide)) (.inl hwaits)
  have hreturned : (replay b queue env).returned = true := by
    simpa using fun h => hwaits ((returned_replay b queue env).mp h)
  have hroom : ∀ k, 0 ≤ k ∧ k < 0 + entries.length → env.ConnectedTo k →
      env.queueAt queue k < channelCapacity := by
    intro k hk hall
    by_contra hfull
    exact hwaits ⟨k, by simpa using hk, hall, not_lt.mp hfull⟩
  have hnil := acknowledged_eq_nil queue rfl (by simp) hroom
  simp only [Nat.zero_le, true_and, Nat.zero_add] at hnil
  rw [hreturned, ← hnil, EdgeBuffer.present, buffer_replay, List.nil_append]
  simp only [true_implies, hwaits, false_or]
  constructor
  · intro h
    have hpending : ∀ entry ∈ entries,
        entry ∈ (replay b queue env).buffer.unsentEntries now := fun entry hentry => h.subset hentry
    refine ⟨List.eq_nil_iff_forall_not_mem.mpr fun entry hmem => ?_,
      List.eq_nil_iff_forall_not_mem.mpr fun entry hmem => ?_⟩
    · -- an entry of memory has no row
      have hrow := hpending entry (by
        rw [hentries, EdgeBuffer.drain_fst]
        exact List.mem_append_left _ hmem)
      exact EdgeBuffer.sqliteRowId_of_mem_unsentEntries hrow (b.fromMemory entry hmem)
    · have hrow := hpending entry (acknowledged_subset hmem)
      exact ((mem_unsentEntries_replay b queue env).mp hrow).2 entry hmem rfl
  · rintro ⟨hmemory, hnone⟩
    have hrows : entries = b.drainedRows now env.pendingOk := by
      rw [hentries, EdgeBuffer.drain_fst, hmemory, List.nil_append]
    rw [hrows]
    refine List.subperm_of_subset (b.nodup_rowId_drainedRows now env.pendingOk).of_map
      fun entry hentry => (mem_unsentEntries_replay b queue env).mpr
        ⟨EdgeBuffer.mem_unsentEntries_of_mem_drainedRows hentry, fun e he => ?_⟩
    rw [hnone] at he
    exact absurd he List.not_mem_nil

/-- Both flushes lose nothing if and only if they do not return, or memory is empty and no row is
marked sent. -/
theorem flush_loses_nothing_iff :
    (LosesNothing flushBuffer b queue env ↔ LosesNone b queue env) ∧
      (LosesNothing uploadBacklogStream b queue env ↔ LosesNone b queue env) :=
  ⟨losesNothing_replay_iff b queue env, losesNothing_replay_iff b queue env⟩

end Replay

/-- A fresh memory-only buffer after one write. -/
def bufferedOnce : EdgeBuffer :=
  ((EdgeBuffer.new .default none).write [7] .metrics ⟨⟨0, 0⟩, true, true⟩).2

/-- A client that is not connected. -/
def refusingEnv : FlushEnv := { clock := ⟨1, 0⟩, connected := fun _ => false }

/-- One buffered batch and a transport that fails at once: the batch is gone. -/
theorem flush_drops_refused_entry :
    ¬ LosesNothing flushBuffer bufferedOnce 0 refusingEnv ∧
      ¬ LosesNothing uploadBacklogStream bufferedOnce 0 refusingEnv := by
  decide

end Paryty.Agent

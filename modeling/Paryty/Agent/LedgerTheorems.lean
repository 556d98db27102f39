import Paryty.Agent.FlushTheorems
import Paryty.Agent.Ledger

/-!
# The books balance

Every operation of the edge buffer takes a part out of memory and subtracts the same from the
counters, or puts an entry in and adds it. So the counters show what is in memory, in 64-bit
arithmetic, and what was written is accounted for: it is in memory, in an unsent row, or in the
ledger, and never in two of these places.
-/

namespace Paryty.Agent

/-! ## Counters -/

lemma fetchAdd_mod (total n : ℕ) : fetchAdd (total % 2 ^ 64) n = (total + n) % 2 ^ 64 := by
  unfold fetchAdd
  omega

lemma fetchSub_mod (total n : ℕ) : fetchSub ((n + total) % 2 ^ 64) n = total % 2 ^ 64 := by
  unfold fetchSub
  omega

@[simp] lemma totalSize_nil : totalSize [] = 0 := rfl

@[simp] lemma totalSize_cons (entry : BufferEntry) (rest : List BufferEntry) :
    totalSize (entry :: rest) = entry.data.length + totalSize rest := rfl

@[simp] lemma totalSize_append (front rest : List BufferEntry) :
    totalSize (front ++ rest) = totalSize front + totalSize rest := by
  simp [totalSize]

lemma totalSize_perm {entries entries' : List BufferEntry} (h : entries.Perm entries') :
    totalSize entries = totalSize entries' := (h.map _).sum_nat

/-- The counters of the buffer show what is in memory. -/
structure Balanced (b : EdgeBuffer) : Prop where
  memoryUsage : b.memoryUsage = totalSize b.buffer % 2 ^ 64
  entryCount : b.metrics.currentEntryCount = b.buffer.length % 2 ^ 64

namespace EdgeBuffer

variable {b b' : EdgeBuffer}

/-- An operation takes `out` out of memory and subtracts it from the counters. -/
lemma balanced_of_takes (out : List BufferEntry) (h : Balanced b)
    (hbuffer : b.buffer.Perm (out ++ b'.buffer))
    (husage : b'.memoryUsage = fetchSub b.memoryUsage (totalSize out))
    (hcount : b'.metrics.currentEntryCount =
      fetchSub b.metrics.currentEntryCount out.length) : Balanced b' := by
  constructor
  · rw [husage, h.memoryUsage, totalSize_perm hbuffer, totalSize_append, fetchSub_mod]
  · rw [hcount, h.entryCount, hbuffer.length_eq, List.length_append, fetchSub_mod]

lemma balanced_pushBack {entry : BufferEntry} {hentry : entry.sqliteRowId = none}
    (h : Balanced b) : Balanced (b.pushBack entry hentry) := by
  constructor
  · show fetchAdd b.memoryUsage entry.data.length = totalSize (b.buffer ++ [entry]) % 2 ^ 64
    rw [h.memoryUsage, fetchAdd_mod, totalSize_append]
    rfl
  · show fetchAdd b.metrics.currentEntryCount 1 = (b.buffer ++ [entry]).length % 2 ^ 64
    rw [h.entryCount, fetchAdd_mod, List.length_append]
    rfl

/-! ## Eviction -/

lemma evictOldest_eq_some (h : b.evictOldest = some b') :
    ∃ entry, b.buffer = entry :: b'.buffer ∧
      b'.memoryUsage = fetchSub b.memoryUsage entry.data.length ∧
      b'.metrics.currentEntryCount = fetchSub b.metrics.currentEntryCount 1 ∧
      b'.config = b.config ∧ b'.db = b.db ∧ b'.sequenceCounter = b.sequenceCounter := by
  unfold evictOldest at h
  split at h
  · exact absurd h (by simp)
  · rename_i entry rest hbuffer
    obtain rfl := Option.some.inj h
    exact ⟨entry, hbuffer, rfl, rfl, rfl, rfl, rfl⟩

lemma evictOldest_eq_none : b.evictOldest = none ↔ b.buffer = [] := by
  unfold evictOldest
  split
  · rename_i hbuffer
    simp [hbuffer]
  · rename_i entry rest hbuffer
    simp [hbuffer]

/-- What evictions do not touch. -/
structure SameBeyondMemory (b b' : EdgeBuffer) : Prop where
  config : b'.config = b.config
  db : b'.db = b.db
  sequenceCounter : b'.sequenceCounter = b.sequenceCounter

lemma SameBeyondMemory.refl (b : EdgeBuffer) : SameBeyondMemory b b := ⟨rfl, rfl, rfl⟩

lemma evictedWhile_append (p : EdgeBuffer → Bool) (n : ℕ) (b : EdgeBuffer) :
    evictedWhile p n b ++ (evictWhile p n b).buffer = b.buffer := by
  induction n generalizing b with
  | zero => rfl
  | succ n ih =>
    unfold evictedWhile evictWhile
    split
    case isFalse => rfl
    case isTrue =>
      cases hevict : b.evictOldest with
      | none => rfl
      | some b' =>
        obtain ⟨entry, hbuffer, -⟩ := evictOldest_eq_some hevict
        simp [hbuffer, ih]

lemma sameBeyondMemory_evictWhile (p : EdgeBuffer → Bool) (n : ℕ) (b : EdgeBuffer) :
    SameBeyondMemory b (evictWhile p n b) := by
  induction n generalizing b with
  | zero => exact .refl b
  | succ n ih =>
    unfold evictWhile
    split
    case isFalse => exact .refl b
    case isTrue =>
      cases hevict : b.evictOldest with
      | none => exact .refl b
      | some b' =>
        obtain ⟨entry, -, -, -, hconfig, hdb, hcounter⟩ := evictOldest_eq_some hevict
        obtain ⟨hconfig', hdb', hcounter'⟩ := ih b'
        exact ⟨hconfig'.trans hconfig, hdb'.trans hdb, hcounter'.trans hcounter⟩

lemma balanced_evictOldest (h : Balanced b) (hevict : b.evictOldest = some b') : Balanced b' := by
  obtain ⟨entry, hbuffer, husage, hcount, -⟩ := evictOldest_eq_some hevict
  refine balanced_of_takes [entry] h ?_ husage hcount
  rw [hbuffer]
  rfl

lemma balanced_evictWhile {p : EdgeBuffer → Bool} {n : ℕ} (h : Balanced b) :
    Balanced (evictWhile p n b) := by
  induction n generalizing b with
  | zero => exact h
  | succ n ih =>
    unfold evictWhile
    split
    case isFalse => exact h
    case isTrue =>
      cases hevict : b.evictOldest with
      | none => exact h
      | some b' => exact ih (balanced_evictOldest h hevict)

lemma evictExpiredSqlite_memory (b : EdgeBuffer) (env : WriteEnv) :
    (b.evictExpiredSqlite env).buffer = b.buffer ∧
      (b.evictExpiredSqlite env).memoryUsage = b.memoryUsage ∧
      (b.evictExpiredSqlite env).metrics.currentEntryCount = b.metrics.currentEntryCount ∧
      (b.evictExpiredSqlite env).config = b.config ∧
      (b.evictExpiredSqlite env).sequenceCounter = b.sequenceCounter := by
  unfold evictExpiredSqlite
  cases b.db with
  | none => exact ⟨rfl, rfl, rfl, rfl, rfl⟩
  | some db =>
    dsimp only
    split <;> exact ⟨rfl, rfl, rfl, rfl, rfl⟩

lemma balanced_evictExpired {env : WriteEnv} (h : Balanced b) :
    Balanced (b.evictExpired env) := by
  have hmemory : Balanced (evictWhile (frontExpired env.clock.instant) b.buffer.length b) :=
    balanced_evictWhile h
  obtain ⟨hbuffer, husage, hcount, -⟩ := evictExpiredSqlite_memory
    (evictWhile (frontExpired env.clock.instant) b.buffer.length b) env
  constructor
  · show (evictExpiredSqlite _ env).memoryUsage = totalSize (evictExpiredSqlite _ env).buffer % _
    rw [hbuffer, husage, hmemory.memoryUsage]
  · show (evictExpiredSqlite _ env).metrics.currentEntryCount =
      (evictExpiredSqlite _ env).buffer.length % _
    rw [hbuffer, hcount, hmemory.entryCount]

end EdgeBuffer

/-! ## Rows -/

namespace SqliteDb

variable (db : SqliteDb)

lemma pending_deleteBefore (cutoff : ℤ) : (db.deleteBefore cutoff).pending =
    db.pending.filter (fun row => !decide (row.createdAt < cutoff)) := by
  show List.filter _ (List.filter _ _) = List.filter _ (List.filter _ _)
  rw [List.filter_comm]

lemma pending_insert (dataType : String) (data : SqlitePayload) (createdAt : ℤ) :
    (db.insert dataType data createdAt).pending =
      db.pending ++ [{ id := db.sequence + 1, dataType, data, createdAt }] := by
  show List.filter _ (db.table.rows ++ _) = _
  rw [List.filter_append]
  rfl

@[simp] lemma pending_deleteAll : db.deleteAll.pending = [] := rfl

lemma pending_markSent (rowId nowSecs : ℤ) :
    (db.updateRow rowId (fun row => { row with sentAt := some nowSecs }) (fun _ => rfl)).pending =
      db.pending.filter (fun row => !decide (row.id = rowId)) := by
  show List.filter _ (List.map _ db.table.rows) = List.filter _ (List.filter _ db.table.rows)
  induction db.table.rows with
  | nil => rfl
  | cons row rows ih =>
    rw [List.map_cons, List.filter_cons, List.filter_cons, ih]
    by_cases hid : row.id = rowId
    · cases hunsent : row.unsent <;> simp [hid, SqliteRow.unsent]
    · cases hunsent : row.unsent <;> simp [hid, hunsent]

lemma datum_pending_markRetry (rowId : ℤ) :
    (db.updateRow rowId (fun row => { row with retryCount := row.retryCount + 1 })
      (fun _ => rfl)).pending.map SqliteRow.datum = db.pending.map SqliteRow.datum := by
  let retry (row : SqliteRow) : SqliteRow :=
    if decide (row.id = rowId) then { row with retryCount := row.retryCount + 1 } else row
  have hunsent : SqliteRow.unsent ∘ retry = SqliteRow.unsent := by
    funext row
    show (retry row).unsent = row.unsent
    simp only [retry]
    split <;> rfl
  have hdatum : SqliteRow.datum ∘ retry = SqliteRow.datum := by
    funext row
    show (retry row).datum = row.datum
    simp only [retry]
    split <;> rfl
  show List.map _ (List.filter _ (List.map retry db.table.rows)) =
    List.map _ (List.filter _ db.table.rows)
  rw [List.filter_map, hunsent, List.map_map, hdatum]

end SqliteDb

namespace EdgeBuffer

variable {b b' : EdgeBuffer}

lemma pendingRows_of_db {db : SqliteDb} (h : b.db = some db) : b.pendingRows = db.pending := by
  unfold pendingRows
  rw [h]

lemma pendingRows_congr (h : b'.db = b.db) : b'.pendingRows = b.pendingRows := by
  unfold pendingRows
  rw [h]

lemma count_rowData_evictExpiredSqlite (b : EdgeBuffer) (env : WriteEnv) (d : Datum) :
    List.count d b.rowData = List.count d ((b.expiredRows env).map SqliteRow.datum) +
      List.count d (b.evictExpiredSqlite env).rowData := by
  unfold expiredRows evictExpiredSqlite rowData
  cases hdb : b.db with
  | none => simp [pendingRows, hdb]
  | some db =>
    rw [pendingRows_of_db hdb]
    cases env.evictOk with
    | false => simp [pendingRows_of_db hdb]
    | true =>
      have hpending : (db.deleteBefore (b.cutoff env)).pending =
          db.pending.filter (fun row => !decide (row.createdAt < b.cutoff env)) :=
        db.pending_deleteBefore _
      have hsplit := (List.filter_append_perm
        (fun row : SqliteRow => decide (row.createdAt < b.cutoff env)) db.pending).map
          SqliteRow.datum
      rw [List.map_append] at hsplit
      have hcount := hsplit.count_eq d
      rw [List.count_append] at hcount
      show _ = _ + List.count d ((db.deleteBefore (b.cutoff env)).pending.map SqliteRow.datum)
      rw [hpending]
      exact hcount.symm

/-- What `evict_expired` gives up is what memory and the rows lose. -/
lemma count_evictExpired (b : EdgeBuffer) (env : WriteEnv) (d : Datum) :
    List.count d b.memoryData + List.count d b.rowData =
      List.count d (b.evictExpired env).memoryData + List.count d (b.evictExpired env).rowData +
        List.count d (b.expiredData env) := by
  let kept := evictWhile (frontExpired env.clock.instant) b.buffer.length b
  have hsame : SameBeyondMemory b kept := sameBeyondMemory_evictWhile _ _ _
  have hrows : (b.evictExpired env).rowData = (kept.evictExpiredSqlite env).rowData := rfl
  have hexpired : kept.expiredRows env = b.expiredRows env := by
    unfold expiredRows cutoff
    rw [pendingRows_congr hsame.db, hsame.config]
  have hrest : kept.rowData = b.rowData := congrArg (List.map _) (pendingRows_congr hsame.db)
  have hmemory : (b.evictExpired env).memoryData = kept.memoryData :=
    congrArg (List.map _) (evictExpiredSqlite_memory kept env).1
  have htaken : (b.expiredEntries env.clock.instant).map BufferEntry.datum ++ kept.memoryData =
      b.memoryData := by
    rw [memoryData, memoryData, ← List.map_append]
    exact congrArg _ (evictedWhile_append _ _ _)
  have hcount := count_rowData_evictExpiredSqlite kept env d
  rw [hrest, hexpired] at hcount
  rw [hmemory, hrows, ← htaken, expiredData, List.count_append, List.count_append]
  omega

/-! ## Writing -/

/-- The entry a write makes. -/
def newEntry (b : EdgeBuffer) (data : Bytes) (dataType : DataType) (env : WriteEnv) :
    BufferEntry := ⟨b.sequenceCounter, env.clock.instant, data, dataType, none⟩

lemma write_fits {data : Bytes} {dataType : DataType} {env : WriteEnv}
    (hfull : (b.nextSequence.evictExpired env).memoryFull data.length = false) :
    (b.write data dataType env).2 =
      (b.nextSequence.evictExpired env).pushBack (b.newEntry data dataType env) rfl := by
  show (if (b.nextSequence.evictExpired env).memoryFull data.length then _ else _ :
    ℕ × EdgeBuffer).2 = _
  rw [if_neg (by simpa using hfull)]
  rfl

lemma write_of_full {data : Bytes} {dataType : DataType} {env : WriteEnv}
    (hfull : (b.nextSequence.evictExpired env).memoryFull data.length = true) :
    (b.write data dataType env).2 =
      ((b.nextSequence.evictExpired env).spillToSqlite env (b.newEntry data dataType env)).getD
        (((b.nextSequence.evictExpired env).makeRoom data.length).pushBack
          (b.newEntry data dataType env) rfl) := by
  refine (congrArg Prod.snd (if_pos hfull)).trans ?_
  split
  · next b' hspill => exact (congrArg (Option.getD · _) hspill).symm
  · next hspill => exact (congrArg (Option.getD · _) hspill).symm

lemma write_spills (dataType : DataType) {data : Bytes} {env : WriteEnv} {db : SqliteDb}
    (hfull : (b.nextSequence.evictExpired env).memoryFull data.length = true)
    (hdb : (b.nextSequence.evictExpired env).db = some db) (hok : env.spillOk = true) :
    ∃ metrics : BufferMetrics,
      metrics.currentEntryCount =
        (b.nextSequence.evictExpired env).metrics.currentEntryCount ∧
      (b.write data dataType env).2 = { b.nextSequence.evictExpired env with
        db := some (db.insert dataType.asStr ⟨b.sequenceCounter, data⟩ env.clock.epochSecs)
        metrics } := by
  refine ⟨{ (b.nextSequence.evictExpired env).metrics with
    entriesSpilledSqlite :=
      fetchAdd (b.nextSequence.evictExpired env).metrics.entriesSpilledSqlite 1
    entriesWritten := fetchAdd (b.nextSequence.evictExpired env).metrics.entriesWritten 1 },
    rfl, ?_⟩
  rw [write_of_full hfull]
  unfold spillToSqlite
  rw [hdb]
  simp only [hok, if_true]
  rfl

lemma write_evicts {data : Bytes} {dataType : DataType} {env : WriteEnv}
    (hfull : (b.nextSequence.evictExpired env).memoryFull data.length = true)
    (hspill : ((b.nextSequence.evictExpired env).db.isSome && env.spillOk) = false) :
    (b.write data dataType env).2 =
      ((b.nextSequence.evictExpired env).makeRoom data.length).pushBack
        (b.newEntry data dataType env) rfl := by
  rw [write_of_full hfull]
  have hnone : (b.nextSequence.evictExpired env).spillToSqlite env
      (b.newEntry data dataType env) = none := by
    unfold spillToSqlite
    cases hdb : (b.nextSequence.evictExpired env).db with
    | none => rfl
    | some db =>
      rw [hdb] at hspill
      simp only [Option.isSome_some, Bool.true_and] at hspill
      simp [hspill]
  rw [hnone]
  rfl

lemma balanced_write {data : Bytes} {dataType : DataType} {env : WriteEnv} (h : Balanced b) :
    Balanced (b.write data dataType env).2 := by
  have hnext : Balanced b.nextSequence := ⟨h.memoryUsage, h.entryCount⟩
  have hexpired : Balanced (b.nextSequence.evictExpired env) := balanced_evictExpired hnext
  cases hfull : (b.nextSequence.evictExpired env).memoryFull data.length with
  | false =>
    rw [write_fits hfull]
    exact balanced_pushBack hexpired
  | true =>
    by_cases hspill : ((b.nextSequence.evictExpired env).db.isSome && env.spillOk) = true
    · obtain ⟨hsome, hok⟩ := Bool.and_eq_true_iff.mp hspill
      obtain ⟨db, hdb⟩ := Option.isSome_iff_exists.mp hsome
      obtain ⟨metrics, hcount, hwrite⟩ := write_spills dataType hfull hdb hok
      rw [hwrite]
      exact ⟨hexpired.memoryUsage, hcount.trans hexpired.entryCount⟩
    · rw [write_evicts hfull (by simpa using hspill)]
      exact balanced_pushBack (balanced_evictWhile hexpired)

lemma count_pushBack (b : EdgeBuffer) (entry : BufferEntry) (hentry : entry.sqliteRowId = none)
    (d : Datum) :
    List.count d (b.pushBack entry hentry).memoryData =
      List.count d b.memoryData + List.count d [entry.datum] := by
  show List.count d ((b.buffer ++ [entry]).map BufferEntry.datum) = _
  rw [List.map_append, List.count_append]
  rfl

lemma count_write (b : EdgeBuffer) (data : Bytes) (dataType : DataType) (env : WriteEnv)
    (d : Datum) :
    List.count d [(⟨b.sequenceCounter, data, dataType⟩ : Datum)] + List.count d b.memoryData +
        List.count d b.rowData =
      List.count d (b.write data dataType env).2.memoryData +
        List.count d (b.write data dataType env).2.rowData +
        List.count d (b.writeRemoves data env) := by
  have hexpired : List.count d b.memoryData + List.count d b.rowData = _ :=
    count_evictExpired b.nextSequence env d
  rw [writeRemoves, List.count_append]
  cases hfull : (b.nextSequence.evictExpired env).memoryFull data.length with
  | false =>
    -- The new entry goes to memory, and nothing is evicted for it.
    have hroom : (b.nextSequence.evictExpired env).roomEvicted data.length env = [] := by
      simp [roomEvicted, hfull]
    have hpush := count_pushBack (b.nextSequence.evictExpired env)
      (b.newEntry data dataType env) rfl d
    have hrows : ((b.nextSequence.evictExpired env).pushBack (b.newEntry data dataType env)
        rfl).rowData = (b.nextSequence.evictExpired env).rowData := rfl
    rw [write_fits hfull, hroom, hpush, hrows]
    show _ = _ + List.count d [(⟨b.sequenceCounter, data, dataType⟩ : Datum)] + _ + _
    simp only [List.map_nil, List.count_nil]
    omega
  | true =>
    by_cases hspill : ((b.nextSequence.evictExpired env).db.isSome && env.spillOk) = true
    · obtain ⟨hsome, hok⟩ := Bool.and_eq_true_iff.mp hspill
      obtain ⟨db, hdb⟩ := Option.isSome_iff_exists.mp hsome
      obtain ⟨metrics, -, hwrite⟩ := write_spills dataType hfull hdb hok
      have hroom : (b.nextSequence.evictExpired env).roomEvicted data.length env = [] := by
        simp [roomEvicted, hspill]
      -- It goes to the database as a new row.
      have hrows : (b.write data dataType env).2.rowData =
          (b.nextSequence.evictExpired env).rowData ++
            [(⟨b.sequenceCounter, data, dataType⟩ : Datum)] := by
        rw [hwrite, rowData, rowData, pendingRows_of_db hdb, pendingRows_of_db rfl,
          SqliteDb.pending_insert, List.map_append]
        simp [SqliteRow.datum]
      have hmemory : (b.write data dataType env).2.memoryData =
          (b.nextSequence.evictExpired env).memoryData := by
        rw [hwrite]
        rfl
      rw [hroom, hrows, hmemory, List.count_append]
      simp only [List.map_nil, List.count_nil]
      omega
    · have hfails : ((b.nextSequence.evictExpired env).db.isSome && env.spillOk) = false := by
        simpa using hspill
      let expired := b.nextSequence.evictExpired env
      have hroom : expired.roomEvicted data.length env =
          evictedWhile (memoryFull data.length) expired.buffer.length expired := by
        simp only [roomEvicted, expired, hfull, hfails]
        rfl
      -- It goes to memory, whose front is evicted for it.
      have hsplit : (expired.roomEvicted data.length env).map BufferEntry.datum ++
          (expired.makeRoom data.length).memoryData = expired.memoryData := by
        rw [hroom, memoryData, memoryData, ← List.map_append]
        exact congrArg _ (evictedWhile_append _ _ _)
      have hrows : ((expired.makeRoom data.length).pushBack (b.newEntry data dataType env)
          rfl).rowData = expired.rowData :=
        congrArg (List.map _) (pendingRows_congr (sameBeyondMemory_evictWhile _ _ _).db)
      have hpush := count_pushBack (expired.makeRoom data.length)
        (b.newEntry data dataType env) rfl d
      have hcount := congrArg (List.count d) hsplit
      rw [List.count_append] at hcount
      have hbefore : List.count d b.memoryData + List.count d b.rowData =
          List.count d expired.memoryData + List.count d expired.rowData +
            List.count d (b.nextSequence.expiredData env) := hexpired
      rw [write_evicts hfull hfails, hpush, hrows]
      show _ = _ + List.count d [(⟨b.sequenceCounter, data, dataType⟩ : Datum)] + _ +
        (_ + List.count d ((expired.roomEvicted data.length env).map BufferEntry.datum))
      omega

end EdgeBuffer

/-! ## Every operation -/

open EdgeBuffer

lemma balanced_perform (op : BufferOp) {b : EdgeBuffer} (h : Balanced b) :
    Balanced (op.perform b) := by
  cases op with
  | write data dataType env => exact balanced_write h
  | read count =>
    refine balanced_of_takes (b.buffer.take (min count b.buffer.length)) h ?_ rfl rfl
    show List.Perm b.buffer (_ ++ b.buffer.drop _)
    rw [List.take_append_drop]
  | drain now pendingOk =>
    -- The usage is subtracted as a whole, so it is exactly zero then.
    have hclear : Balanced b.clearMemory :=
      ⟨by
        show fetchSub b.memoryUsage (totalSize b.buffer) = 0 % 2 ^ 64
        rw [h.memoryUsage]
        exact fetchSub_mod 0 _, rfl⟩
    show Balanced (b.drain now pendingOk).2
    unfold EdgeBuffer.drain
    cases b.db with
    | none => exact hclear
    | some db =>
      cases pendingOk with
      | false => exact hclear
      | true => exact ⟨hclear.memoryUsage, hclear.entryCount⟩
  | drainByType dataType =>
    refine balanced_of_takes (b.buffer.filter (fun e => e.dataType = dataType)) h ?_ rfl rfl
    have hsplit := List.filter_append_perm (fun e : BufferEntry => decide (e.dataType = dataType))
      b.buffer
    simpa [BufferOp.perform, EdgeBuffer.drainByType] using hsplit.symm
  | markSent rowId nowSecs ok =>
    show Balanced ((b.markSent rowId nowSecs ok).getD b)
    unfold markSent updateRow
    cases b.db with
    | none => exact h
    | some db => cases ok <;> exact ⟨h.memoryUsage, h.entryCount⟩
  | markRetry rowId ok =>
    show Balanced ((b.markRetry rowId ok).getD b)
    unfold markRetry updateRow
    cases b.db with
    | none => exact h
    | some db => cases ok <;> exact ⟨h.memoryUsage, h.entryCount⟩
  | deleteAllBacklog ok =>
    constructor
    · -- The counters are reset only if there were entries; if not, they were zero.
      show (if 0 < b.buffer.length then 0 else b.memoryUsage) = 0
      split
      · rfl
      · rename_i hempty
        rw [h.memoryUsage, List.length_eq_zero_iff.mp (by omega : b.buffer.length = 0)]
        simp
    · show (if 0 < b.buffer.length then 0 else b.metrics.currentEntryCount) = 0
      split
      · rfl
      · rename_i hempty
        have hzero : b.buffer.length = 0 := by omega
        simp [h.entryCount, hzero]
  | evictOldest =>
    show Balanced (b.evictOldest.getD b)
    cases hevict : b.evictOldest with
    | none => exact h
    | some b' => exact balanced_evictOldest h hevict
  | evictExpired env => exact balanced_evictExpired h

lemma db_drain (b : EdgeBuffer) (now : ℕ) (pendingOk : Bool) :
    (b.drain now pendingOk).2.db = b.db := by
  unfold EdgeBuffer.drain
  cases hdb : b.db with
  | none => exact hdb
  | some db => cases pendingOk <;> exact hdb

lemma count_perform (op : BufferOp) (b : EdgeBuffer) (d : Datum) :
    List.count d (op.writes b) + List.count d b.memoryData + List.count d b.rowData =
      List.count d (op.perform b).memoryData + List.count d (op.perform b).rowData +
        List.count d (op.returns b) + List.count d (op.removes b) := by
  cases op with
  | write data dataType env =>
    have hwrite := count_write b data dataType env d
    simp only [BufferOp.writes, BufferOp.perform, BufferOp.returns, BufferOp.removes,
      List.count_nil]
    omega
  | read count =>
    have hsplit : (b.read count).1.map BufferEntry.datum ++ (b.read count).2.memoryData =
        b.memoryData := by
      show List.map _ (b.buffer.take _) ++ List.map _ (b.buffer.drop _) = List.map _ _
      rw [← List.map_append, List.take_append_drop]
    have hrows : (b.read count).2.rowData = b.rowData := rfl
    have hcount := congrArg (List.count d) hsplit
    rw [List.count_append] at hcount
    simp only [BufferOp.writes, BufferOp.perform, BufferOp.returns, BufferOp.removes,
      List.count_nil, hrows]
    omega
  | drain now pendingOk =>
    -- The drained rows stay pending; only what came from memory is returned.
    have hreturned : (b.drain now pendingOk).1.filter (fun e => e.sqliteRowId.isNone) =
        b.buffer := by
      rw [drain_fst, List.filter_append]
      have hrows : (b.drainedRows now pendingOk).filter (fun e => e.sqliteRowId.isNone) = [] := by
        refine List.filter_eq_nil_iff.mpr fun e he => ?_
        have hrow := sqliteRowId_of_mem_unsentEntries (mem_unsentEntries_of_mem_drainedRows he)
        simpa [Option.isNone_iff_eq_none] using hrow
      have hmemory : b.buffer.filter (fun e => e.sqliteRowId.isNone) = b.buffer := by
        refine List.filter_eq_self.mpr fun e he => ?_
        rw [b.fromMemory e he]
        rfl
      rw [hrows, hmemory, List.append_nil]
    have hmemory : (b.drain now pendingOk).2.memoryData = [] := by
      rw [memoryData, buffer_drain]
      rfl
    have hrows : (b.drain now pendingOk).2.rowData = b.rowData :=
      congrArg (List.map _) (pendingRows_congr (db_drain b now pendingOk))
    simp only [BufferOp.writes, BufferOp.perform, BufferOp.returns, BufferOp.removes,
      List.count_nil, hreturned, hmemory, hrows]
    show _ + List.count d b.memoryData + _ = _ + _ + List.count d b.memoryData + _
    omega
  | drainByType dataType =>
    have hsplit := ((List.filter_append_perm
      (fun e : BufferEntry => decide (e.dataType = dataType)) b.buffer).map
        BufferEntry.datum).count_eq d
    rw [List.map_append, List.count_append] at hsplit
    have hmemory : (b.drainByType dataType).2.memoryData =
        (b.buffer.filter (fun e => !decide (e.dataType = dataType))).map BufferEntry.datum := by
      simp [memoryData, EdgeBuffer.drainByType]
    have hrows : (b.drainByType dataType).2.rowData = b.rowData := rfl
    simp only [BufferOp.writes, BufferOp.perform, BufferOp.returns, BufferOp.removes,
      List.count_nil, hrows, hmemory]
    show _ + List.count d (b.buffer.map BufferEntry.datum) + _ =
      _ + _ + List.count d ((b.buffer.filter _).map BufferEntry.datum) + _
    omega
  | markSent rowId nowSecs ok =>
    have hmemory : ((b.markSent rowId nowSecs ok).getD b).memoryData = b.memoryData := by
      unfold markSent updateRow
      cases b.db with
      | none => rfl
      | some db => cases ok <;> rfl
    simp only [BufferOp.writes, BufferOp.perform, BufferOp.returns, BufferOp.removes,
      List.count_nil, hmemory]
    cases hdb : b.db with
    | none => simp [markSent, updateRow, hdb, pendingRows]
    | some db =>
      cases ok with
      | false => simp [markSent, updateRow, hdb]
      | true =>
        have hsent : ((b.markSent rowId nowSecs true).getD b).rowData =
            (db.pending.filter (fun row => !decide (row.id = rowId))).map SqliteRow.datum := by
          rw [← db.pending_markSent rowId nowSecs]
          simp [markSent, updateRow, hdb, rowData, pendingRows]
        have hsplit := ((List.filter_append_perm
          (fun row : SqliteRow => decide (row.id = rowId)) db.pending).map
            SqliteRow.datum).count_eq d
        rw [List.map_append, List.count_append] at hsplit
        rw [hsent, rowData, pendingRows_of_db hdb, if_pos rfl]
        omega
  | markRetry rowId ok =>
    have hmemory : ((b.markRetry rowId ok).getD b).memoryData = b.memoryData := by
      unfold markRetry updateRow
      cases b.db with
      | none => rfl
      | some db => cases ok <;> rfl
    have hrows : ((b.markRetry rowId ok).getD b).rowData = b.rowData := by
      cases hdb : b.db with
      | none => simp [markRetry, updateRow, hdb]
      | some db =>
        cases ok with
        | false => simp [markRetry, updateRow, hdb]
        | true =>
          rw [rowData, rowData, pendingRows_of_db hdb, ← db.datum_pending_markRetry rowId]
          simp [markRetry, updateRow, hdb, pendingRows]
    simp only [BufferOp.writes, BufferOp.perform, BufferOp.returns, BufferOp.removes,
      List.count_nil, hmemory, hrows]
    omega
  | deleteAllBacklog ok =>
    have hmemory : (b.deleteAllBacklog ok).memoryData = [] := rfl
    have hrows : (b.deleteAllBacklog ok).rowData = if ok then [] else b.rowData := by
      cases ok with
      | false => rfl
      | true =>
        cases hdb : b.db with
        | none => simp [EdgeBuffer.deleteAllBacklog, rowData, pendingRows, hdb]
        | some db => simp [EdgeBuffer.deleteAllBacklog, rowData, pendingRows, hdb]
    simp only [BufferOp.writes, BufferOp.perform, BufferOp.returns, BufferOp.removes,
      List.count_nil, hmemory, hrows, List.count_append]
    cases ok with
    | false =>
      simp only [Bool.false_eq_true, if_false, List.count_nil]
      omega
    | true =>
      simp only [if_true, List.count_nil]
      omega
  | evictOldest =>
    simp only [BufferOp.writes, BufferOp.perform, BufferOp.returns, BufferOp.removes,
      List.count_nil]
    cases hevict : b.evictOldest with
    | none => simp [evictOldest_eq_none.mp hevict]
    | some b' =>
      obtain ⟨entry, hbuffer, -, -, -, hdb, -⟩ := evictOldest_eq_some hevict
      have hrows : b'.rowData = b.rowData := congrArg (List.map _) (pendingRows_congr hdb)
      have hmemory : b.memoryData = entry.datum :: b'.memoryData := by
        rw [memoryData, hbuffer]
        rfl
      rw [hmemory, hbuffer, List.count_cons]
      simp [hrows, List.count_cons]
      omega
  | evictExpired env =>
    have hexpired := count_evictExpired b env d
    simp only [BufferOp.writes, BufferOp.perform, BufferOp.returns, BufferOp.removes,
      List.count_nil]
    omega

/-! ## Sequence numbers -/

lemma sequenceCounter_perform (op : BufferOp) (b : EdgeBuffer) :
    (op.writes b = [] ∧ (op.perform b).sequenceCounter = b.sequenceCounter) ∨
      (op.writes b).map Datum.sequenceNumber = [b.sequenceCounter] ∧
        (op.perform b).sequenceCounter = fetchAdd b.sequenceCounter 1 := by
  have hevictions : ∀ (b : EdgeBuffer) (env : WriteEnv),
      (b.evictExpired env).sequenceCounter = b.sequenceCounter := by
    intro b env
    obtain ⟨-, -, -, -, hsqlite⟩ := evictExpiredSqlite_memory
      (evictWhile (frontExpired env.clock.instant) b.buffer.length b) env
    exact hsqlite.trans (sameBeyondMemory_evictWhile _ _ _).sequenceCounter
  cases op with
  | write data dataType env =>
    refine .inr ⟨rfl, ?_⟩
    show (b.write data dataType env).2.sequenceCounter = _
    -- Wherever the entry goes, the counter is the one after the eviction.
    cases hfull : (b.nextSequence.evictExpired env).memoryFull data.length with
    | false =>
      rw [write_fits hfull]
      exact hevictions b.nextSequence env
    | true =>
      by_cases hspill : ((b.nextSequence.evictExpired env).db.isSome && env.spillOk) = true
      · obtain ⟨hsome, hok⟩ := Bool.and_eq_true_iff.mp hspill
        obtain ⟨db, hdb⟩ := Option.isSome_iff_exists.mp hsome
        obtain ⟨metrics, -, hwrite⟩ := write_spills dataType hfull hdb hok
        rw [hwrite]
        exact hevictions b.nextSequence env
      · rw [write_evicts hfull (by simpa using hspill)]
        exact (sameBeyondMemory_evictWhile _ _ _).sequenceCounter.trans
          (hevictions b.nextSequence env)
  | read count => exact .inl ⟨rfl, rfl⟩
  | drain now pendingOk =>
    refine .inl ⟨rfl, ?_⟩
    show (b.drain now pendingOk).2.sequenceCounter = _
    unfold EdgeBuffer.drain
    cases b.db with
    | none => rfl
    | some db => cases pendingOk <;> rfl
  | drainByType dataType => exact .inl ⟨rfl, rfl⟩
  | markSent rowId nowSecs ok =>
    refine .inl ⟨rfl, ?_⟩
    show ((b.markSent rowId nowSecs ok).getD b).sequenceCounter = _
    unfold markSent updateRow
    cases b.db with
    | none => rfl
    | some db => cases ok <;> rfl
  | markRetry rowId ok =>
    refine .inl ⟨rfl, ?_⟩
    show ((b.markRetry rowId ok).getD b).sequenceCounter = _
    unfold markRetry updateRow
    cases b.db with
    | none => rfl
    | some db => cases ok <;> rfl
  | deleteAllBacklog ok => exact .inl ⟨rfl, rfl⟩
  | evictOldest =>
    refine .inl ⟨rfl, ?_⟩
    show (b.evictOldest.getD b).sequenceCounter = _
    -- Eviction leaves the counter alone.
    cases hevict : b.evictOldest with
    | none => rfl
    | some b' =>
      obtain ⟨-, -, -, -, -, -, hcounter⟩ := evictOldest_eq_some hevict
      exact hcounter
  | evictExpired env => exact .inl ⟨rfl, hevictions b env⟩

/-- The sequence numbers of the first `n` writes. -/
def firstNumbers (n : ℕ) : List ℕ := (List.range n).map (fun i => (1 + i) % 2 ^ 64)

lemma nodup_firstNumbers {n : ℕ} (h : n < 2 ^ 64) : (firstNumbers n).Nodup := by
  refine List.nodup_range.map_on fun i hi j hj hij => ?_
  have hi' := List.mem_range.mp hi
  have hj' := List.mem_range.mp hj
  omega

/-! ## Runs -/

namespace Tracked

/-- What holds between the operations of a run. -/
structure Inv (t : Tracked) : Prop where
  balanced : Balanced t.buffer
  places : t.ledger.written.Perm t.places

lemma inv_step {t t' : Tracked} {op : BufferOp} (h : t.Inv) (hstep : t.step op = some t') :
    t'.Inv := by
  obtain rfl := Option.some.inj hstep
  refine ⟨balanced_perform op h.balanced, List.perm_iff_count.mpr fun d => ?_⟩
  have hbefore := h.places.count_eq d
  have hop := count_perform op t.buffer d
  simp only [Tracked.places, List.count_append] at hbefore ⊢
  omega

/-- The sequence numbers of what a buffer that started without rows wrote. -/
structure Numbered (t : Tracked) : Prop where
  written : t.ledger.written.map Datum.sequenceNumber = firstNumbers t.ledger.written.length
  counter : t.buffer.sequenceCounter = (1 + t.ledger.written.length) % 2 ^ 64

lemma numbered_step {t t' : Tracked} {op : BufferOp} (h : t.Numbered)
    (hstep : t.step op = some t') : t'.Numbered := by
  obtain rfl := Option.some.inj hstep
  rcases sequenceCounter_perform op t.buffer with ⟨hnothing, hsame⟩ | ⟨hone, hnext⟩
  · refine ⟨?_, hsame.trans ?_⟩
    · show (t.ledger.written ++ op.writes t.buffer).map _ =
        firstNumbers (t.ledger.written ++ op.writes t.buffer).length
      rw [hnothing, List.append_nil, h.written]
    · show _ = (1 + (t.ledger.written ++ op.writes t.buffer).length) % 2 ^ 64
      rw [hnothing, List.append_nil, h.counter]
  · have hlength : (op.writes t.buffer).length = 1 := by
      simpa using congrArg List.length hone
    refine ⟨?_, hnext.trans ?_⟩
    · show (t.ledger.written ++ op.writes t.buffer).map _ =
        firstNumbers (t.ledger.written ++ op.writes t.buffer).length
      rw [List.map_append, List.length_append, hone, hlength, h.written, h.counter]
      simp [firstNumbers, List.range_succ]
    · show _ = (1 + (t.ledger.written ++ op.writes t.buffer).length) % 2 ^ 64
      rw [h.counter, List.length_append, hlength, fetchAdd_mod, Nat.add_assoc]

end Tracked

/-- The books of the buffer, after every sequence of its operations. The counters show the bytes
and the entries in memory, in 64-bit arithmetic; what was written is in memory, in the unsent
rows, returned or marked sent, or given up. If the buffer started without rows, no datum is in
two places. -/
theorem buffer_accounts_for_everything (config : EdgeBufferConfig) (db : Option SqliteDb)
    {ops : List BufferOp} {t : Tracked}
    (run : Lib.Run Tracked.step Lib.Unguarded (Tracked.new config db) ops t) :
    t.buffer.memoryUsage = totalSize t.buffer.buffer % 2 ^ 64 ∧
      (totalSize t.buffer.buffer < 2 ^ 64 → t.buffer.memoryUsage = totalSize t.buffer.buffer) ∧
      t.buffer.metrics.currentEntryCount = t.buffer.buffer.length % 2 ^ 64 ∧
      (t.buffer.buffer.length < 2 ^ 64 →
        t.buffer.metrics.currentEntryCount = t.buffer.buffer.length) ∧
      t.ledger.written.Perm t.places ∧
      ((EdgeBuffer.new config db).pendingRows = [] → t.ledger.written.length < 2 ^ 64 →
        t.places.Nodup) := by
  have hinv : t.Inv := by
    refine run.invariant (fun t op t' h _ hstep => Tracked.inv_step h hstep) ?_
    refine ⟨⟨rfl, rfl⟩, ?_⟩
    show List.Perm _ ([] ++ (EdgeBuffer.new config db).rowData ++ [] ++ [])
    rw [List.nil_append, List.append_nil, List.append_nil]
    exact .refl _
  obtain ⟨husage, hcount⟩ := hinv.balanced
  refine ⟨husage, fun h => husage.trans (Nat.mod_eq_of_lt h), hcount,
    fun h => hcount.trans (Nat.mod_eq_of_lt h), hinv.places, fun hfresh hlength => ?_⟩
  have hnumbered : t.Numbered := by
    refine run.invariant (fun t op t' h _ hstep => Tracked.numbered_step h hstep) ?_
    have hnothing : (Tracked.new config db).ledger.written = [] := by
      show List.map _ (EdgeBuffer.new config db).pendingRows = []
      rw [hfresh]
      rfl
    constructor
    · rw [hnothing]
      rfl
    · rw [hnothing]
      rfl
  have hnumbers : (t.ledger.written.map Datum.sequenceNumber).Nodup := by
    rw [hnumbered.written]
    exact nodup_firstNumbers hlength
  exact hinv.places.nodup_iff.mp (.of_map _ hnumbers)

/-- Three writes to a buffer of four bytes: the second goes to SQLite, the third evicts the first;
then the third is read and the second is marked as sent. -/
theorem buffer_accounts_for_everything_witness : ∃ t : Tracked,
    (t.ledger.returned.length, t.ledger.removed.length, t.buffer.memoryUsage) = (2, 1, 0) ∧
      t.ledger.written.Perm t.places := by
  let config : EdgeBufferConfig := ⟨4, 10, 10 ^ 9, 100⟩
  let ops : List BufferOp := [
    .write [1, 2, 3] .metrics ⟨⟨0, 0⟩, true, true⟩,
    .write [4, 5] .events ⟨⟨1, 0⟩, true, true⟩,
    .write [6, 7] .traces ⟨⟨2, 0⟩, true, false⟩,
    .read 5,
    .markSent 1 0 true]
  have hfold : (ops.foldlM Tracked.step (Tracked.new config (some .init))).map
      (fun t => (t.ledger.returned.length, t.ledger.removed.length, t.buffer.memoryUsage)) =
        some (2, 1, 0) := by
    decide +kernel
  obtain ⟨t, ht, hfinal⟩ := Option.map_eq_some_iff.mp hfold
  obtain ⟨-, -, -, -, hplaces, -⟩ :=
    buffer_accounts_for_everything config (some .init) (Lib.run_iff_foldlM.mpr ht)
  exact ⟨t, hfinal, hplaces⟩

end Paryty.Agent

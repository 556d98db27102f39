import Mathlib.Algebra.Order.BigOperators.Group.List
import Mathlib.Algebra.Order.Ring.Nat
import Paryty.Agent.LedgerTheorems

/-!
# The limits of the edge buffer

The configuration has three limits: `max_memory_bytes` and `max_entries` for memory and
`max_disk_bytes` for the pending rows. `write` compares with the first only, and pushes its entry
even when it does not fit into an empty memory. `HasRoom` says which writes keep the limits:
`withinCapacity_write_iff` for one write, `buffer_stays_within_capacity` for runs.
-/

namespace Paryty.Agent

/-- The length of the `bincode` encoding of a payload: two 64-bit words and the data. -/
def SqlitePayload.blobLength (payload : SqlitePayload) : ℕ := 16 + payload.data.length

/-- The lengths of the BLOBs of the rows together. -/
def blobSize (rows : List SqliteRow) : ℕ := (rows.map (fun row => row.data.blobLength)).sum

namespace EdgeBuffer

/-- `persistent_size`: the size of the pending rows. -/
def persistentSize (b : EdgeBuffer) : ℕ := blobSize b.pendingRows

/-- Memory and the pending rows are within the configured limits. -/
structure WithinCapacity (b : EdgeBuffer) : Prop where
  entries : b.buffer.length ≤ b.config.maxEntries
  memory : totalSize b.buffer ≤ b.config.maxMemoryBytes
  disk : b.persistentSize ≤ b.config.maxDiskBytes

/-! ## Which writes have room -/

/-- The entries of memory that have not expired at time `now`. -/
def liveEntries (b : EdgeBuffer) (now : ℕ) : List BufferEntry :=
  b.buffer.dropWhile (fun entry => b.config.entryTtl < now - entry.createdAt)

/-- The pending rows that stay after the expiry of rows. -/
def liveRows (b : EdgeBuffer) (env : WriteEnv) : List SqliteRow :=
  if env.evictOk then b.pendingRows.filter (fun row => !decide (row.createdAt < b.cutoff env))
  else b.pendingRows

/-- The newest entries beside which `size` bytes fit into `limit`. -/
def dropToFit (limit size : ℕ) : List BufferEntry → List BufferEntry
  | [] => []
  | entry :: rest =>
    if limit < totalSize (entry :: rest) + size then dropToFit limit size rest else entry :: rest

/-- The write has room for its entry. One that fits into memory must not be one too many; one
that goes to SQLite needs room there; and one that other entries are evicted for must fit into
memory at all. What is in memory and the new data are within the address space. -/
def HasRoom (b : EdgeBuffer) (data : Bytes) (env : WriteEnv) : Prop :=
  let live := b.liveEntries env.clock.instant
  totalSize live + data.length < 2 ^ 64 ∧
    if totalSize live + data.length ≤ b.config.maxMemoryBytes then
      live.length < b.config.maxEntries
    else if b.db.isSome && env.spillOk then
      blobSize (b.liveRows env) + (16 + data.length) ≤ b.config.maxDiskBytes
    else
      data.length ≤ b.config.maxMemoryBytes ∧
        (dropToFit b.config.maxMemoryBytes data.length live).length < b.config.maxEntries

instance (b : EdgeBuffer) (data : Bytes) (env : WriteEnv) : Decidable (b.HasRoom data env) := by
  unfold HasRoom
  infer_instance

/-! ## What the evictions leave -/

variable {b : EdgeBuffer}

lemma buffer_evictWhile_frontExpired {now n : ℕ} (hn : b.buffer.length ≤ n) :
    (evictWhile (frontExpired now) n b).buffer = b.liveEntries now := by
  induction n generalizing b with
  | zero =>
    have hempty : b.buffer = [] := List.length_eq_zero_iff.mp (by omega)
    simp [evictWhile, liveEntries, hempty]
  | succ n ih =>
    unfold evictWhile
    cases hbuffer : b.buffer with
    | nil => simp [frontExpired, liveEntries, hbuffer]
    | cons entry rest =>
      by_cases hexpired : b.config.entryTtl < now - entry.createdAt
      · cases hevict : b.evictOldest with
        | none => exact absurd (evictOldest_eq_none.mp hevict) (by simp [hbuffer])
        | some b' =>
          obtain ⟨front, hfront, -, -, hconfig, -⟩ := evictOldest_eq_some hevict
          obtain ⟨rfl, rfl⟩ := List.cons.inj (hbuffer.symm.trans hfront)
          have hlength : b'.buffer.length ≤ n := by
            rw [hbuffer] at hn
            simpa using hn
          simp only [frontExpired, hbuffer, hexpired, decide_true, if_true]
          rw [ih hlength, liveEntries, liveEntries, hconfig, hbuffer,
            List.dropWhile_cons_of_pos (by simpa using hexpired)]
      · rw [if_neg (by simp [frontExpired, hbuffer, hexpired]), liveEntries, hbuffer,
          List.dropWhile_cons_of_neg (by simpa using hexpired)]

lemma memoryFull_iff {size : ℕ} (h : Balanced b) (hspace : totalSize b.buffer + size < 2 ^ 64) :
    b.memoryFull size = true ↔ b.config.maxMemoryBytes < totalSize b.buffer + size := by
  unfold memoryFull
  rw [decide_eq_true_iff, h.memoryUsage, fetchAdd_mod, Nat.mod_eq_of_lt hspace]

lemma buffer_evictWhile_memoryFull {size n : ℕ} (h : Balanced b)
    (hspace : totalSize b.buffer + size < 2 ^ 64) (hn : b.buffer.length ≤ n) :
    (evictWhile (memoryFull size) n b).buffer =
      dropToFit b.config.maxMemoryBytes size b.buffer := by
  induction n generalizing b with
  | zero =>
    have hempty : b.buffer = [] := List.length_eq_zero_iff.mp (by omega)
    simp [evictWhile, dropToFit, hempty]
  | succ n ih =>
    unfold evictWhile
    cases hbuffer : b.buffer with
    | nil =>
      cases hevict : b.evictOldest with
      | none => split <;> simp [dropToFit, hbuffer]
      | some b' =>
        obtain ⟨front, hfront, -⟩ := evictOldest_eq_some hevict
        exact absurd hfront (by simp [hbuffer])
    | cons entry rest =>
      rw [dropToFit, ← hbuffer]
      by_cases hfull : b.config.maxMemoryBytes < totalSize b.buffer + size
      · cases hevict : b.evictOldest with
        | none => exact absurd (evictOldest_eq_none.mp hevict) (by simp [hbuffer])
        | some b' =>
          obtain ⟨front, hfront, -, -, hconfig, -⟩ := evictOldest_eq_some hevict
          obtain ⟨rfl, rfl⟩ := List.cons.inj (hbuffer.symm.trans hfront)
          have hlength : b'.buffer.length ≤ n := by
            rw [hbuffer] at hn
            simpa using hn
          have hless : totalSize b'.buffer + size < 2 ^ 64 := by
            rw [hbuffer, totalSize_cons] at hspace
            omega
          rw [if_pos ((memoryFull_iff h hspace).mpr hfull), if_pos hfull]
          simp only
          rw [ih (balanced_evictOldest h hevict) hless hlength, hconfig]
      · rw [if_neg (by rw [memoryFull_iff h hspace]; exact hfull), if_neg hfull]

lemma evictExpired_leaves (b : EdgeBuffer) (env : WriteEnv) :
    (b.evictExpired env).buffer = b.liveEntries env.clock.instant ∧
      (b.evictExpired env).config = b.config ∧
      (b.evictExpired env).pendingRows = b.liveRows env ∧
      (b.evictExpired env).db.isSome = b.db.isSome := by
  let kept := evictWhile (frontExpired env.clock.instant) b.buffer.length b
  have hkept : kept.buffer = b.liveEntries env.clock.instant :=
    buffer_evictWhile_frontExpired le_rfl
  have hsame : SameBeyondMemory b kept := sameBeyondMemory_evictWhile _ _ _
  obtain ⟨hbuffer, -, -, hconfig, -⟩ := evictExpiredSqlite_memory kept env
  refine ⟨hbuffer.trans hkept, hconfig.trans hsame.config, ?_, ?_⟩
  · show (kept.evictExpiredSqlite env).pendingRows = _
    unfold evictExpiredSqlite liveRows
    rw [hsame.db]
    cases hsqlite : b.db with
    | none => simp [pendingRows, hsame.db, hsqlite]
    | some db =>
      cases env.evictOk with
      | false => simp [pendingRows, hsame.db, hsqlite]
      | true =>
        rw [pendingRows_of_db hsqlite]
        simp only [if_true]
        rw [pendingRows_of_db rfl, SqliteDb.pending_deleteBefore, hsame.config]
        rfl
  · show (kept.evictExpiredSqlite env).db.isSome = _
    unfold evictExpiredSqlite
    rw [hsame.db]
    cases hsqlite : b.db with
    | none => simp [hsame.db, hsqlite]
    | some db => cases env.evictOk <;> simp [hsame.db, hsqlite]

/-! ## One write -/

@[simp] lemma blobSize_append (rows rows' : List SqliteRow) :
    blobSize (rows ++ rows') = blobSize rows + blobSize rows' := by
  simp [blobSize]

lemma blobSize_sublist {rows rows' : List SqliteRow} (h : rows.Sublist rows') :
    blobSize rows ≤ blobSize rows' := (h.map _).sum_le_sum fun _ _ => Nat.zero_le _

lemma totalSize_sublist {entries entries' : List BufferEntry} (h : entries.Sublist entries') :
    totalSize entries ≤ totalSize entries' := (h.map _).sum_le_sum fun _ _ => Nat.zero_le _

lemma totalSize_dropToFit {limit size : ℕ} (h : size ≤ limit) (entries : List BufferEntry) :
    totalSize (dropToFit limit size entries) + size ≤ limit := by
  induction entries with
  | nil => simpa [dropToFit] using h
  | cons entry rest ih =>
    unfold dropToFit
    split
    · exact ih
    · omega

lemma blobSize_liveRows (b : EdgeBuffer) (env : WriteEnv) :
    blobSize (b.liveRows env) ≤ b.persistentSize := by
  refine blobSize_sublist ?_
  unfold liveRows
  split
  · exact List.filter_sublist
  · exact .refl _

lemma withinCapacity_write_iff {data : Bytes} {dataType : DataType} {env : WriteEnv}
    (hb : Balanced b) (hwithin : b.WithinCapacity)
    (hspace : totalSize (b.liveEntries env.clock.instant) + data.length < 2 ^ 64) :
    (b.write data dataType env).2.WithinCapacity ↔ b.HasRoom data env := by
  -- What is left when the expired entries and rows are gone is still within the limits.
  let expired := b.nextSequence.evictExpired env
  obtain ⟨hlive, hconfig, hrows, hdb⟩ : expired.buffer = b.liveEntries env.clock.instant ∧
    expired.config = b.config ∧ expired.pendingRows = b.liveRows env ∧
      expired.db.isSome = b.db.isSome := evictExpired_leaves b.nextSequence env
  have hbalanced : Balanced expired :=
    balanced_evictExpired (b := b.nextSequence) ⟨hb.memoryUsage, hb.entryCount⟩
  have hfullIff : expired.memoryFull data.length = true ↔ _ :=
    memoryFull_iff hbalanced (by rwa [hlive])
  rw [hlive, hconfig] at hfullIff
  have hmemory : totalSize (b.liveEntries env.clock.instant) ≤ b.config.maxMemoryBytes :=
    (totalSize_sublist (List.dropWhile_sublist _)).trans hwithin.memory
  have hentries : (b.liveEntries env.clock.instant).length ≤ b.config.maxEntries :=
    (List.dropWhile_sublist _).length_le.trans hwithin.entries
  have hdisk : blobSize (b.liveRows env) ≤ b.config.maxDiskBytes :=
    (blobSize_liveRows b env).trans hwithin.disk
  unfold HasRoom
  simp only [hspace, true_and]
  split
  case isTrue hfits =>
    -- The entry fits into memory.
    have hfull : expired.memoryFull data.length = false := by
      rw [← Bool.not_eq_true, hfullIff]
      omega
    rw [write_fits hfull]
    constructor
    · intro h
      have hcount : (expired.buffer ++ [b.newEntry data dataType env]).length ≤
        expired.config.maxEntries := h.entries
      rw [hlive, hconfig, List.length_append, List.length_singleton] at hcount
      omega
    · intro hroom
      refine ⟨?_, ?_, ?_⟩
      · show (expired.buffer ++ [_]).length ≤ expired.config.maxEntries
        rw [hlive, hconfig, List.length_append, List.length_singleton]
        omega
      · show totalSize (expired.buffer ++ [_]) ≤ expired.config.maxMemoryBytes
        rw [hlive, hconfig, totalSize_append]
        exact hfits
      · show blobSize expired.pendingRows ≤ expired.config.maxDiskBytes
        rw [hrows, hconfig]
        exact hdisk
  case isFalse hfits =>
    have hfull : expired.memoryFull data.length = true := hfullIff.mpr (by omega)
    split
    case isTrue hspill =>
      -- It goes to the database, where nothing checks the limit of the disk.
      obtain ⟨hsome, hok⟩ := Bool.and_eq_true_iff.mp hspill
      obtain ⟨db, hsqlite⟩ := Option.isSome_iff_exists.mp (hdb.trans hsome)
      obtain ⟨metrics, -, hwrite⟩ := write_spills dataType hfull hsqlite hok
      have hsize : (b.write data dataType env).2.persistentSize =
          blobSize (b.liveRows env) + (16 + data.length) := by
        rw [hwrite, persistentSize, pendingRows_of_db rfl, SqliteDb.pending_insert,
          ← pendingRows_of_db hsqlite, blobSize_append, hrows]
        rfl
      have hconfig' : (b.write data dataType env).2.config = b.config := by
        rw [hwrite]
        exact hconfig
      have hbuffer : (b.write data dataType env).2.buffer = b.liveEntries env.clock.instant := by
        rw [hwrite]
        exact hlive
      constructor
      · intro h
        rw [← hsize, ← hconfig']
        exact h.disk
      · intro hroom
        refine ⟨?_, ?_, ?_⟩
        · rw [hbuffer, hconfig']
          exact hentries
        · rw [hbuffer, hconfig']
          exact hmemory
        · rw [hsize, hconfig']
          exact hroom
    case isFalse hspill =>
      -- It goes to memory after all, which has dropped its oldest entries for it.
      have hfails : (expired.db.isSome && env.spillOk) = false := by
        rw [hdb]
        simpa using hspill
      let room := expired.makeRoom data.length
      have hroomBuffer : room.buffer = dropToFit b.config.maxMemoryBytes data.length
          (b.liveEntries env.clock.instant) := by
        have hevicted : room.buffer = _ :=
          buffer_evictWhile_memoryFull hbalanced (by rwa [hlive]) le_rfl
        rwa [hlive, hconfig] at hevicted
      have hroomConfig : room.config = b.config :=
        (sameBeyondMemory_evictWhile _ _ _).config.trans hconfig
      have hroomRows : room.pendingRows = b.liveRows env :=
        (pendingRows_congr (sameBeyondMemory_evictWhile _ _ _).db).trans hrows
      rw [write_evicts hfull hfails]
      constructor
      · intro h
        have hcount : (room.buffer ++ [b.newEntry data dataType env]).length ≤
          room.config.maxEntries := h.entries
        have hsize : totalSize (room.buffer ++ [b.newEntry data dataType env]) ≤
          room.config.maxMemoryBytes := h.memory
        rw [hroomBuffer, hroomConfig, List.length_append, List.length_singleton] at hcount
        rw [hroomBuffer, hroomConfig, totalSize_append] at hsize
        have hnew : totalSize [b.newEntry data dataType env] = data.length := rfl
        omega
      · rintro ⟨hdata, hcount⟩
        refine ⟨?_, ?_, ?_⟩
        · show (room.buffer ++ [_]).length ≤ room.config.maxEntries
          rw [hroomBuffer, hroomConfig, List.length_append, List.length_singleton]
          omega
        · show totalSize (room.buffer ++ [_]) ≤ room.config.maxMemoryBytes
          rw [hroomBuffer, hroomConfig, totalSize_append]
          exact totalSize_dropToFit hdata _
        · show blobSize room.pendingRows ≤ room.config.maxDiskBytes
          rw [hroomRows, hroomConfig]
          exact hdisk

/-! ## Everything else -/

/-- An operation only takes away. -/
structure Shrinks (b b' : EdgeBuffer) : Prop where
  config : b'.config = b.config
  buffer : b'.buffer.Sublist b.buffer
  rows : b'.persistentSize ≤ b.persistentSize

lemma WithinCapacity.shrinks {b' : EdgeBuffer} (h : b.WithinCapacity) (hless : Shrinks b b') :
    b'.WithinCapacity := by
  obtain ⟨hconfig, hbuffer, hrows⟩ := hless
  refine ⟨?_, ?_, ?_⟩
  · rw [hconfig]
    exact hbuffer.length_le.trans h.entries
  · rw [hconfig]
    exact (totalSize_sublist hbuffer).trans h.memory
  · rw [hconfig]
    exact hrows.trans h.disk

lemma persistentSize_congr {b' : EdgeBuffer} (h : b'.db = b.db) :
    b'.persistentSize = b.persistentSize := congrArg blobSize (pendingRows_congr h)

/-- Marking a row or counting a retry leaves memory alone and does not enlarge the pending
rows. -/
lemma shrinks_updateRow {rowId : ℤ} {ok : Bool} {f : SqliteRow → SqliteRow}
    {hf : ∀ row, (f row).id = row.id}
    (hrows : ∀ db : SqliteDb, blobSize (db.updateRow rowId f hf).pending ≤ blobSize db.pending) :
    Shrinks b ((b.updateRow rowId ok f hf).getD b) := by
  unfold updateRow
  cases hdb : b.db with
  | none => exact ⟨rfl, .refl _, le_rfl⟩
  | some db =>
    cases ok with
    | false => exact ⟨rfl, .refl _, le_rfl⟩
    | true =>
      refine ⟨rfl, .refl _, ?_⟩
      show blobSize (db.updateRow rowId f hf).pending ≤ blobSize b.pendingRows
      rw [pendingRows_of_db hdb]
      exact hrows db

lemma blobSize_pending_markRetry (db : SqliteDb) (rowId : ℤ) :
    blobSize (db.updateRow rowId (fun row => { row with retryCount := row.retryCount + 1 })
      (fun _ => rfl)).pending = blobSize db.pending := by
  have hsize : ∀ rows : List SqliteRow,
      blobSize rows = ((rows.map SqliteRow.datum).map (fun d => 16 + d.data.length)).sum := by
    intro rows
    rw [List.map_map]
    rfl
  rw [hsize, hsize, db.datum_pending_markRetry rowId]

lemma shrinks_evictExpired (b : EdgeBuffer) (env : WriteEnv) : Shrinks b (b.evictExpired env) := by
  obtain ⟨hbuffer, hconfig, hrows, -⟩ := evictExpired_leaves b env
  refine ⟨hconfig, ?_, ?_⟩
  · rw [hbuffer]
    exact List.dropWhile_sublist _
  · rw [persistentSize, hrows]
    exact blobSize_liveRows b env

lemma shrinks_perform {op : BufferOp} (hop : op.writes b = []) : Shrinks b (op.perform b) := by
  cases op with
  | write data dataType env => exact absurd hop (by simp [BufferOp.writes])
  | read count => exact ⟨rfl, List.drop_sublist _ _, le_rfl⟩
  | drain now pendingOk =>
    refine ⟨?_, ?_, (persistentSize_congr (db_drain b now pendingOk)).le⟩
    · show (b.drain now pendingOk).2.config = _
      unfold EdgeBuffer.drain
      cases b.db with
      | none => rfl
      | some db => cases pendingOk <;> rfl
    · show (b.drain now pendingOk).2.buffer.Sublist _
      rw [buffer_drain]
      exact List.nil_sublist _
  | drainByType dataType => exact ⟨rfl, List.filter_sublist, le_rfl⟩
  | markSent rowId nowSecs ok =>
    refine shrinks_updateRow fun db => ?_
    rw [db.pending_markSent]
    exact blobSize_sublist List.filter_sublist
  | markRetry rowId ok => exact shrinks_updateRow fun db => (blobSize_pending_markRetry db rowId).le
  | deleteAllBacklog ok =>
    refine ⟨rfl, List.nil_sublist _, ?_⟩
    cases ok with
    | false => exact le_rfl
    | true =>
      show blobSize (b.deleteAllBacklog true).pendingRows ≤ _
      cases hdb : b.db with
      | none => simp [EdgeBuffer.deleteAllBacklog, pendingRows, hdb, blobSize]
      | some db => simp [EdgeBuffer.deleteAllBacklog, pendingRows, hdb, blobSize]
  | evictOldest =>
    show Shrinks b (b.evictOldest.getD b)
    cases hevict : b.evictOldest with
    | none => exact ⟨rfl, .refl _, le_rfl⟩
    | some b' =>
      obtain ⟨entry, hbuffer, -, -, hconfig, hdb, -⟩ := evictOldest_eq_some hevict
      refine ⟨hconfig, ?_, (persistentSize_congr hdb).le⟩
      rw [hbuffer]
      exact List.sublist_cons_self entry _
  | evictExpired env => exact shrinks_evictExpired b env

/-- One operation. -/
def step (b : EdgeBuffer) (op : BufferOp) : Option EdgeBuffer := some (op.perform b)

/-- The guard of a run: every write has room. -/
def WritesHaveRoom (b : EdgeBuffer) : BufferOp → Prop
  | .write data _ env => b.HasRoom data env
  | _ => True

instance (b : EdgeBuffer) : (op : BufferOp) → Decidable (b.WritesHaveRoom op)
  | .write data _ env => inferInstanceAs (Decidable (b.HasRoom data env))
  | .read _ | .drain _ _ | .drainByType _ | .markSent _ _ _ | .markRetry _ _
  | .deleteAllBacklog _ | .evictOldest | .evictExpired _ => isTrue trivial

lemma config_perform (op : BufferOp) (b : EdgeBuffer) : (op.perform b).config = b.config := by
  cases op with
  | write data dataType env =>
    obtain ⟨-, hconfig, -⟩ := evictExpired_leaves b.nextSequence env
    show (b.write data dataType env).2.config = _
    cases hfull : (b.nextSequence.evictExpired env).memoryFull data.length with
    | false =>
      rw [write_fits hfull]
      exact hconfig
    | true =>
      by_cases hspill : ((b.nextSequence.evictExpired env).db.isSome && env.spillOk) = true
      · obtain ⟨hsome, hok⟩ := Bool.and_eq_true_iff.mp hspill
        obtain ⟨db, hdb⟩ := Option.isSome_iff_exists.mp hsome
        obtain ⟨metrics, -, hwrite⟩ := write_spills dataType hfull hdb hok
        rw [hwrite]
        exact hconfig
      · rw [write_evicts hfull (by simpa using hspill)]
        exact (sameBeyondMemory_evictWhile _ _ _).config.trans hconfig
  | _ => exact (shrinks_perform rfl).config

/-- What holds between the operations of a run. -/
structure Bounded (config : EdgeBufferConfig) (b : EdgeBuffer) : Prop where
  balanced : Balanced b
  within : b.WithinCapacity
  config : b.config = config

lemma bounded_step {config : EdgeBufferConfig} {b' : EdgeBuffer} {op : BufferOp}
    (h : Bounded config b) (hroom : b.WritesHaveRoom op) (hstep : b.step op = some b') :
    Bounded config b' := by
  obtain rfl := Option.some.inj hstep
  refine ⟨balanced_perform op h.balanced, ?_, (config_perform op b).trans h.config⟩
  cases op with
  | write data dataType env => exact (withinCapacity_write_iff h.balanced h.within hroom.1).mpr hroom
  | _ => exact h.within.shrinks (shrinks_perform rfl)

end EdgeBuffer

open EdgeBuffer

/-- In every run in which each write has room for its entry, the buffer stays within its limits:
after every operation at most `max_entries` entries of at most `max_memory_bytes` are in memory
and at most `max_disk_bytes` are pending in SQLite. -/
theorem buffer_stays_within_capacity (config : EdgeBufferConfig) (db : Option SqliteDb)
    (hdb : (EdgeBuffer.new config db).persistentSize ≤ config.maxDiskBytes)
    {ops : List BufferOp} {b : EdgeBuffer}
    (run : Lib.Run EdgeBuffer.step WritesHaveRoom (EdgeBuffer.new config db) ops b) :
    b.config = config ∧ b.WithinCapacity := by
  have hbounded : Bounded config b := by
    refine run.invariant (fun b op b' h hroom hstep => bounded_step h hroom hstep) ?_
    exact ⟨⟨rfl, rfl⟩, ⟨Nat.zero_le _, Nat.zero_le _, hdb⟩, rfl⟩
  exact ⟨hbounded.config, hbounded.within⟩

/-- Four bytes of memory: a write that fits, one that goes to SQLite, and one that evicts. -/
theorem buffer_stays_within_capacity_witness : ∃ b : EdgeBuffer,
    b.buffer.length = 1 ∧ b.pendingRows.length = 1 ∧ b.WithinCapacity := by
  let config : EdgeBufferConfig := ⟨4, 10, 10 ^ 9, 100⟩
  let ops : List BufferOp := [
    .write [1, 2, 3] .metrics ⟨⟨0, 0⟩, true, true⟩,
    .write [4, 5] .events ⟨⟨1, 0⟩, true, true⟩,
    .write [6, 7] .traces ⟨⟨2, 0⟩, true, false⟩]
  have hfold : (ops.foldlM (Lib.restrict EdgeBuffer.step WritesHaveRoom)
      (EdgeBuffer.new config (some .init))).map
        (fun b => (b.buffer.length, b.pendingRows.length)) = some (1, 1) := by
    decide +kernel
  obtain ⟨b, hb, hfinal⟩ := Option.map_eq_some_iff.mp hfold
  obtain ⟨hmemory, hrows⟩ := Prod.mk.inj hfinal
  exact ⟨b, hmemory, hrows, (buffer_stays_within_capacity config (some .init) (by decide)
    (Lib.run_iff_foldlM_restrict.mpr hb)).2⟩

/-- Two writes to a buffer for one entry: nothing compares with `max_entries`. -/
theorem buffer_exceeds_capacity :
    ¬ ∀ (config : EdgeBufferConfig) (ops : List BufferOp) (b : EdgeBuffer),
      Lib.Run EdgeBuffer.step Lib.Unguarded (EdgeBuffer.new config none) ops b →
        b.WithinCapacity := by
  intro h
  let config : EdgeBufferConfig := ⟨100, 1, 10 ^ 9, 100⟩
  let ops : List BufferOp := [
    .write [1] .metrics ⟨⟨0, 0⟩, true, true⟩,
    .write [2] .metrics ⟨⟨1, 0⟩, true, true⟩]
  have hfold : (ops.foldlM EdgeBuffer.step (EdgeBuffer.new config none)).map
      (fun b => (b.buffer.length, b.config.maxEntries)) = some (2, 1) := by
    decide +kernel
  obtain ⟨b, hb, hfinal⟩ := Option.map_eq_some_iff.mp hfold
  obtain ⟨hmemory, hmax⟩ := Prod.mk.inj hfinal
  have hwithin := (h config ops b (Lib.run_iff_foldlM.mpr hb)).entries
  omega

end Paryty.Agent

import Mathlib.Algebra.Order.Ring.Int
import Mathlib.Data.List.Sort
import Paryty.Lib.Table

/-!
# The agent's edge buffer

`EdgeBuffer` of `agent/src/communication/edge_buffer.rs`: an in-memory queue with an optional
SQLite table behind it. `write` puts an entry into memory, or into SQLite when memory is
full; `drain` takes everything out of memory and reads pending SQLite rows, which stay in the
table until `markSent`.

* Counters are `AtomicU64` and wrap; `fetchAdd` and `fetchSub` are their two operations.
* What the buffer asks of the outside is an argument: the clock, and whether each SQLite
  statement succeeds.
* A BLOB is the `bincode` encoding of a `SqlitePayload`; a row holds the decoded payload.
-/

namespace Paryty.Agent

/-- Bytes on the wire. -/
abbrev Bytes := List UInt8

/-- `AtomicU64::fetch_add`. -/
def fetchAdd (counter n : ℕ) : ℕ := (counter + n) % 2 ^ 64

/-- `AtomicU64::fetch_sub`. -/
def fetchSub (counter n : ℕ) : ℕ := (counter + (2 ^ 64 - n % 2 ^ 64)) % 2 ^ 64

/-- Type of data being buffered. -/
inductive DataType
  | metrics | traces | events | networkEvents
deriving DecidableEq

namespace DataType

/-- The text a type is stored as in SQLite. -/
def asStr : DataType → String
  | metrics => "metrics"
  | traces => "traces"
  | events => "events"
  | networkEvents => "network_events"

/-- Read a stored type back. -/
def fromStr : String → Option DataType
  | "metrics" => some metrics
  | "traces" => some traces
  | "events" => some events
  | "network_events" => some networkEvents
  | _ => none

@[simp] lemma fromStr_asStr (t : DataType) : fromStr t.asStr = some t := by
  cases t <;> rfl

end DataType

/-- An entry in the edge buffer with metadata. Times are nanoseconds of a monotonic clock. -/
structure BufferEntry where
  sequenceNumber : ℕ
  createdAt : ℕ
  data : Bytes
  dataType : DataType
  /-- Present only for entries read from SQLite. -/
  sqliteRowId : Option ℤ
deriving DecidableEq

/-- Serializable payload for SQLite BLOB storage. -/
structure SqlitePayload where
  sequenceNumber : ℕ
  data : Bytes
deriving DecidableEq

/-- A row of the SQLite `buffer` table. Times are seconds since the epoch. -/
structure SqliteRow where
  id : ℤ
  dataType : String
  data : SqlitePayload
  priority : ℤ := 2
  retryCount : ℤ := 0
  createdAt : ℤ
  sentAt : Option ℤ := none
deriving DecidableEq

namespace SqliteRow

/-- `sent_at IS NULL`. -/
def unsent (row : SqliteRow) : Bool := row.sentAt.isNone

/-- `ORDER BY priority ASC, created_at ASC`. -/
def drainsBefore (row row' : SqliteRow) : Prop :=
  row.priority < row'.priority ∨ row.priority = row'.priority ∧ row.createdAt ≤ row'.createdAt

instance : DecidableRel drainsBefore := fun row row' =>
  inferInstanceAs (Decidable (row.priority < row'.priority ∨
    row.priority = row'.priority ∧ row.createdAt ≤ row'.createdAt))

/-- The entry a row is read back as at time `now`; an unknown type reads as metrics. -/
def toEntry (now : ℕ) (row : SqliteRow) : BufferEntry where
  sequenceNumber := row.data.sequenceNumber
  createdAt := now
  data := row.data.data
  dataType := (DataType.fromStr row.dataType).getD .metrics
  sqliteRowId := some row.id

end SqliteRow

/-- The SQLite database: the `buffer` table and its `AUTOINCREMENT` counter, which no row id
exceeds. -/
structure SqliteDb where
  table : Lib.Table SqliteRow ℤ SqliteRow.id
  sequence : ℤ
  id_le : ∀ row ∈ table, row.id ≤ sequence

namespace SqliteDb

/-- The database as `init_sqlite` creates it. -/
def init : SqliteDb := ⟨.empty, 0, by simp⟩

/-- `INSERT INTO buffer`; the id is the next one of the counter. -/
def insert (db : SqliteDb) (dataType : String) (data : SqlitePayload) (createdAt : ℤ) :
    SqliteDb where
  table := db.table.append { id := db.sequence + 1, dataType, data, createdAt } (by
    rintro ⟨row, hrow, hid⟩
    have := db.id_le row hrow
    simp only at hid
    omega)
  sequence := db.sequence + 1
  id_le := by
    intro row hrow
    rw [Lib.Table.mem_append] at hrow
    rcases hrow with hrow | rfl
    · have := db.id_le row hrow
      omega
    · exact le_rfl

/-- `UPDATE buffer SET .. WHERE id = rowId`, for a change that leaves the id alone. -/
def updateRow (db : SqliteDb) (rowId : ℤ) (f : SqliteRow → SqliteRow)
    (hf : ∀ row, (f row).id = row.id) : SqliteDb where
  table := db.table.updateWhere (fun row => row.id = rowId) f hf
  sequence := db.sequence
  id_le := by
    intro row hrow
    rw [Lib.Table.mem_updateWhere] at hrow
    rcases hrow with ⟨hrow, -⟩ | ⟨row₀, hrow₀, -, rfl⟩
    · exact db.id_le row hrow
    · rw [hf]
      exact db.id_le row₀ hrow₀

/-- `DELETE FROM buffer WHERE created_at < cutoff`. -/
def deleteBefore (db : SqliteDb) (cutoff : ℤ) : SqliteDb where
  table := db.table.deleteWhere (fun row => row.createdAt < cutoff)
  sequence := db.sequence
  id_le := fun row hrow => db.id_le row (Lib.Table.mem_deleteWhere.mp hrow).1

/-- `DELETE FROM buffer`; the counter of the ids goes on. -/
def deleteAll (db : SqliteDb) : SqliteDb where
  table := .empty
  sequence := db.sequence
  id_le := by simp

/-- The rows that still have to be sent. -/
def pending (db : SqliteDb) : List SqliteRow := db.table.rows.filter SqliteRow.unsent

end SqliteDb

/-- Maximum number of entries to drain from SQLite per call. -/
def SQLITE_DRAIN_BATCH_SIZE : ℕ := 1000

/-- Configuration for the edge buffer. Whether SQLite is configured shows in
`EdgeBuffer.db`. -/
structure EdgeBufferConfig where
  /-- Maximum memory buffer size in bytes. -/
  maxMemoryBytes : ℕ
  /-- Maximum number of entries. No operation of the buffer reads it. -/
  maxEntries : ℕ
  /-- Nanoseconds an entry may wait before eviction. -/
  entryTtl : ℕ
  /-- Maximum disk usage in bytes. No operation of the buffer reads it. -/
  maxDiskBytes : ℕ
deriving DecidableEq

/-- The defaults, which the agent's client uses. -/
def EdgeBufferConfig.default : EdgeBufferConfig where
  maxMemoryBytes := 100 * 1024 * 1024
  maxEntries := 100000
  entryTtl := 24 * 60 * 60 * 10 ^ 9
  maxDiskBytes := 1024 * 1024 * 1024

/-- Counters the buffer reports. -/
structure BufferMetrics where
  entriesWritten : ℕ := 0
  entriesRead : ℕ := 0
  entriesEvicted : ℕ := 0
  currentMemoryBytes : ℕ := 0
  currentEntryCount : ℕ := 0
  entriesSpilledSqlite : ℕ := 0
  entriesDrainedSqlite : ℕ := 0
deriving DecidableEq

/-- The edge buffer. Entries in memory were never read from SQLite. -/
structure EdgeBuffer where
  config : EdgeBufferConfig
  buffer : List BufferEntry
  memoryUsage : ℕ
  sequenceCounter : ℕ
  metrics : BufferMetrics
  db : Option SqliteDb
  fromMemory : ∀ entry ∈ buffer, entry.sqliteRowId = none

/-- The data length of the given entries together. -/
def totalSize (entries : List BufferEntry) : ℕ := (entries.map (fun e => e.data.length)).sum

/-- What the clocks show: `Instant::now` and `now_epoch_secs`. -/
structure Clock where
  instant : ℕ
  epochSecs : ℤ
deriving DecidableEq

/-- What `write` meets outside: the clocks, and whether the SQLite statements succeed. -/
structure WriteEnv where
  clock : Clock
  evictOk : Bool := true
  spillOk : Bool := true
deriving DecidableEq

namespace EdgeBuffer

/-- `EdgeBuffer::new`; `db` is `none` when no path is configured or SQLite cannot be opened. -/
def new (config : EdgeBufferConfig) (db : Option SqliteDb) : EdgeBuffer where
  config := config
  buffer := []
  memoryUsage := 0
  sequenceCounter := 1
  metrics := {}
  db := db
  fromMemory := by simp

/-! ## Eviction -/

/-- `pop_front` with its counter updates; `none` when memory is empty. -/
def evictOldest (b : EdgeBuffer) : Option EdgeBuffer :=
  match h : b.buffer with
  | [] => none
  | entry :: rest => some { b with
      buffer := rest
      memoryUsage := fetchSub b.memoryUsage entry.data.length
      metrics := { b.metrics with
        entriesEvicted := fetchAdd b.metrics.entriesEvicted 1
        currentEntryCount := fetchSub b.metrics.currentEntryCount 1 }
      fromMemory := fun e he => b.fromMemory e (by rw [h]; exact List.mem_cons_of_mem _ he) }

/-- Evict the oldest entry as long as `p` holds, at most `n` times. -/
def evictWhile (p : EdgeBuffer → Bool) : ℕ → EdgeBuffer → EdgeBuffer
  | 0, b => b
  | n + 1, b =>
    if p b then
      match b.evictOldest with
      | some b' => evictWhile p n b'
      | none => b
    else b

/-- The front entry has exceeded its TTL at time `now`. -/
def frontExpired (now : ℕ) (b : EdgeBuffer) : Bool :=
  match b.buffer with
  | [] => false
  | entry :: _ => b.config.entryTtl < now - entry.createdAt

/-- `evict_expired_sqlite`: rows older than the TTL, sent or not, are deleted. -/
def evictExpiredSqlite (b : EdgeBuffer) (env : WriteEnv) : EdgeBuffer :=
  match b.db with
  | none => b
  | some db =>
    let cutoff := env.clock.epochSecs - b.config.entryTtl / 10 ^ 9
    if env.evictOk then
      let db' := db.deleteBefore cutoff
      let deleted := db.table.rows.length - db'.table.rows.length
      { b with
        db := some db'
        metrics := { b.metrics with
          entriesEvicted := fetchAdd b.metrics.entriesEvicted deleted } }
    else b

/-- `evict_expired`: entries in memory are in arrival order, so only the front is looked at. -/
def evictExpired (b : EdgeBuffer) (env : WriteEnv) : EdgeBuffer :=
  (evictWhile (frontExpired env.clock.instant) b.buffer.length b).evictExpiredSqlite env

/-! ## Writing -/

/-- An entry of `size` bytes does not fit into memory. -/
def memoryFull (size : ℕ) (b : EdgeBuffer) : Bool :=
  b.config.maxMemoryBytes < fetchAdd b.memoryUsage size

/-- `spill_to_sqlite`. -/
def spillToSqlite (b : EdgeBuffer) (env : WriteEnv) (entry : BufferEntry) : Option EdgeBuffer :=
  match b.db with
  | none => none
  | some db =>
    if env.spillOk then
      some { b with
        db := some (db.insert entry.dataType.asStr ⟨entry.sequenceNumber, entry.data⟩
          env.clock.epochSecs)
        metrics := { b.metrics with
          entriesSpilledSqlite := fetchAdd b.metrics.entriesSpilledSqlite 1
          entriesWritten := fetchAdd b.metrics.entriesWritten 1 } }
    else none

/-- Evict the oldest entries until `size` bytes fit or memory is empty. -/
def makeRoom (b : EdgeBuffer) (size : ℕ) : EdgeBuffer :=
  evictWhile (memoryFull size) b.buffer.length b

/-- `push_back` with its counter updates. -/
def pushBack (b : EdgeBuffer) (entry : BufferEntry) (h : entry.sqliteRowId = none) :
    EdgeBuffer :=
  let memoryUsage := fetchAdd b.memoryUsage entry.data.length
  { b with
    buffer := b.buffer ++ [entry]
    memoryUsage := memoryUsage
    metrics := { b.metrics with
      entriesWritten := fetchAdd b.metrics.entriesWritten 1
      currentMemoryBytes := memoryUsage
      currentEntryCount := fetchAdd b.metrics.currentEntryCount 1 }
    fromMemory := by
      intro e he
      rcases List.mem_append.mp he with he | he
      · exact b.fromMemory e he
      · rw [List.mem_singleton.mp he, h] }

/-- `write`: the assigned sequence number and the buffer after it. When memory is full the
entry goes to SQLite; without SQLite, or when that fails, old entries are evicted for it. -/
def write (b : EdgeBuffer) (data : Bytes) (dataType : DataType) (env : WriteEnv) :
    ℕ × EdgeBuffer :=
  let seq := b.sequenceCounter
  let entry : BufferEntry := ⟨seq, env.clock.instant, data, dataType, none⟩
  let b := evictExpired { b with sequenceCounter := fetchAdd b.sequenceCounter 1 } env
  if b.memoryFull data.length then
    match b.spillToSqlite env entry with
    | some b' => (seq, b')
    | none => (seq, (b.makeRoom data.length).pushBack entry rfl)
  else
    (seq, b.pushBack entry rfl)

/-! ## Draining -/

/-- `read`: up to `count` entries from the front of the memory buffer, which they leave. -/
def read (b : EdgeBuffer) (count : ℕ) : List BufferEntry × EdgeBuffer :=
  let drainCount := min count b.buffer.length
  let entries := b.buffer.take drainCount
  let memoryUsage := fetchSub b.memoryUsage (totalSize entries)
  (entries, { b with
    buffer := b.buffer.drop drainCount
    memoryUsage := memoryUsage
    metrics := { b.metrics with
      entriesRead := fetchAdd b.metrics.entriesRead entries.length
      currentMemoryBytes := memoryUsage
      currentEntryCount := fetchSub b.metrics.currentEntryCount entries.length }
    fromMemory := fun e he => b.fromMemory e (List.mem_of_mem_drop he) })

/-- `drain_by_type`: the entries of the type leave the memory buffer, the others keep their
order. -/
def drainByType (b : EdgeBuffer) (dataType : DataType) : List BufferEntry × EdgeBuffer :=
  let entries := b.buffer.filter (fun entry => entry.dataType = dataType)
  (entries, { b with
    buffer := b.buffer.filter (fun entry => entry.dataType ≠ dataType)
    memoryUsage := fetchSub b.memoryUsage (totalSize entries)
    metrics := { b.metrics with
      entriesRead := fetchAdd b.metrics.entriesRead entries.length
      currentEntryCount := fetchSub b.metrics.currentEntryCount entries.length }
    fromMemory := fun e he => b.fromMemory e (List.mem_filter.mp he).1 })

/-- The entries pending SQLite rows are read back as at time `now`. -/
def unsentEntries (b : EdgeBuffer) (now : ℕ) : List BufferEntry :=
  match b.db with
  | none => []
  | some db => db.pending.map (SqliteRow.toEntry now)

/-- `drain_sqlite_pending`: the first pending rows in drain order. Nothing is removed. -/
def drainSqlitePending (db : SqliteDb) (now : ℕ) : List BufferEntry :=
  ((db.pending.insertionSort SqliteRow.drainsBefore).take SQLITE_DRAIN_BATCH_SIZE).map
    (SqliteRow.toEntry now)

/-- The buffer after its memory entries were taken out. -/
def clearMemory (b : EdgeBuffer) : EdgeBuffer :=
  { b with
    buffer := []
    memoryUsage := fetchSub b.memoryUsage (totalSize b.buffer)
    metrics := { b.metrics with
      entriesRead := fetchAdd b.metrics.entriesRead b.buffer.length
      currentMemoryBytes := 0
      currentEntryCount := 0 }
    fromMemory := by simp }

/-- `drain` at time `now`; `pendingOk` says whether reading the pending rows succeeds. -/
def drain (b : EdgeBuffer) (now : ℕ) (pendingOk : Bool) : List BufferEntry × EdgeBuffer :=
  match b.db with
  | none => (b.buffer, b.clearMemory)
  | some db =>
    if pendingOk then
      let sqliteEntries := drainSqlitePending db now
      let cleared := b.clearMemory
      (b.buffer ++ sqliteEntries, { cleared with
        metrics := { cleared.metrics with
          entriesDrainedSqlite :=
            fetchAdd cleared.metrics.entriesDrainedSqlite sqliteEntries.length } })
    else (b.buffer, b.clearMemory)

/-- `UPDATE buffer SET .. WHERE id = rowId`; `none` is the error without SQLite or of a
failed statement. -/
def updateRow (b : EdgeBuffer) (rowId : ℤ) (ok : Bool) (f : SqliteRow → SqliteRow)
    (hf : ∀ row, (f row).id = row.id) : Option EdgeBuffer :=
  match b.db with
  | none => none
  | some db => if ok then some { b with db := some (db.updateRow rowId f hf) } else none

/-- `mark_sent`: the row is excluded from future drains. -/
def markSent (b : EdgeBuffer) (rowId : ℤ) (nowSecs : ℤ) (ok : Bool) : Option EdgeBuffer :=
  b.updateRow rowId ok (fun row => { row with sentAt := some nowSecs }) (fun _ => rfl)

/-- `delete_all_backlog`: the counters are reset if there was anything in memory; `ok` says
whether the DELETE succeeds. -/
def deleteAllBacklog (b : EdgeBuffer) (ok : Bool) : EdgeBuffer :=
  let drained := b.buffer.length
  { b with
    buffer := []
    memoryUsage := if 0 < drained then 0 else b.memoryUsage
    metrics := { b.metrics with
      currentEntryCount := if 0 < drained then 0 else b.metrics.currentEntryCount }
    db := if ok then b.db.map SqliteDb.deleteAll else b.db
    fromMemory := by simp }

/-- `mark_retry`: one more failed send attempt. -/
def markRetry (b : EdgeBuffer) (rowId : ℤ) (ok : Bool) : Option EdgeBuffer :=
  b.updateRow rowId ok (fun row => { row with retryCount := row.retryCount + 1 }) (fun _ => rfl)

end EdgeBuffer

end Paryty.Agent

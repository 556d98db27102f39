import Mathlib.Data.List.Count
import Paryty.Agent.EdgeBuffer
import Paryty.Lib.Run

/-!
# The books of the edge buffer

Beside the buffer runs a ledger of what was written to it, what left it to be sent and what it
gave up. An entry is entered as its `Datum`, which stays the same in memory and in a SQLite row.

* `returned`: entries handed to a caller from memory, and rows that were marked sent.
* `removed`: entries and unsent rows that were evicted, expired or deleted.

`Tracked.step` performs one operation of the buffer and enters it. What `write` gives up on its
way follows the code: first what has expired, then what has to make room.
-/

namespace Paryty.Agent

/-- What was written: an entry without the time and the row id it is buffered under. -/
structure Datum where
  sequenceNumber : ℕ
  data : Bytes
  dataType : DataType
deriving DecidableEq

def BufferEntry.datum (entry : BufferEntry) : Datum :=
  ⟨entry.sequenceNumber, entry.data, entry.dataType⟩

/-- The datum a row is read back as. -/
def SqliteRow.datum (row : SqliteRow) : Datum :=
  ⟨row.data.sequenceNumber, row.data.data, (DataType.fromStr row.dataType).getD .metrics⟩

namespace EdgeBuffer

/-- The rows of SQLite that still have to be sent. -/
def pendingRows (b : EdgeBuffer) : List SqliteRow :=
  match b.db with
  | none => []
  | some db => db.pending

/-- The data of the entries in memory. -/
def memoryData (b : EdgeBuffer) : List Datum := b.buffer.map BufferEntry.datum

/-- The data of the unsent rows. -/
def rowData (b : EdgeBuffer) : List Datum := b.pendingRows.map SqliteRow.datum

/-! ## What an operation gives up -/

/-- The entries `evictWhile` evicts, oldest first. -/
def evictedWhile (p : EdgeBuffer → Bool) : ℕ → EdgeBuffer → List BufferEntry
  | 0, _ => []
  | n + 1, b =>
    if p b then
      match b.evictOldest with
      | some b' => b.buffer.take 1 ++ evictedWhile p n b'
      | none => []
    else []

/-- The entries of memory that `evict_expired` evicts. -/
def expiredEntries (b : EdgeBuffer) (now : ℕ) : List BufferEntry :=
  evictedWhile (frontExpired now) b.buffer.length b

/-- The oldest creation time that has not expired. -/
def cutoff (b : EdgeBuffer) (env : WriteEnv) : ℤ := env.clock.epochSecs - b.config.entryTtl / 10 ^ 9

/-- The unsent rows that `evict_expired_sqlite` deletes. -/
def expiredRows (b : EdgeBuffer) (env : WriteEnv) : List SqliteRow :=
  if env.evictOk then b.pendingRows.filter (fun row => row.createdAt < b.cutoff env) else []

/-- What `evict_expired` gives up. -/
def expiredData (b : EdgeBuffer) (env : WriteEnv) : List Datum :=
  (b.expiredEntries env.clock.instant).map BufferEntry.datum ++
    (b.expiredRows env).map SqliteRow.datum

/-- The entries `write` evicts to make room for `size` bytes: none when they fit, or when the
new entry goes to SQLite. -/
def roomEvicted (b : EdgeBuffer) (size : ℕ) (env : WriteEnv) : List BufferEntry :=
  if b.memoryFull size && !(b.db.isSome && env.spillOk) then
    evictedWhile (memoryFull size) b.buffer.length b
  else []

/-- The buffer after `write` has taken its sequence number. -/
def nextSequence (b : EdgeBuffer) : EdgeBuffer :=
  { b with sequenceCounter := fetchAdd b.sequenceCounter 1 }

/-- What `write` gives up. -/
def writeRemoves (b : EdgeBuffer) (data : Bytes) (env : WriteEnv) : List Datum :=
  b.nextSequence.expiredData env ++
    ((b.nextSequence.evictExpired env).roomEvicted data.length env).map BufferEntry.datum

end EdgeBuffer

/-! ## Operations -/

/-- A call of the buffer, with what it meets outside. -/
inductive BufferOp
  | write (data : Bytes) (dataType : DataType) (env : WriteEnv)
  | read (count : ℕ)
  | drain (now : ℕ) (pendingOk : Bool)
  | drainByType (dataType : DataType)
  | markSent (rowId nowSecs : ℤ) (ok : Bool)
  | markRetry (rowId : ℤ) (ok : Bool)
  | deleteAllBacklog (ok : Bool)
  | evictOldest
  | evictExpired (env : WriteEnv)
deriving DecidableEq

/-- The buffer after the call; a call that fails leaves it as it is. -/
def BufferOp.perform : BufferOp → EdgeBuffer → EdgeBuffer
  | write data dataType env, b => (b.write data dataType env).2
  | read count, b => (b.read count).2
  | drain now pendingOk, b => (b.drain now pendingOk).2
  | drainByType dataType, b => (b.drainByType dataType).2
  | markSent rowId nowSecs ok, b => (b.markSent rowId nowSecs ok).getD b
  | markRetry rowId ok, b => (b.markRetry rowId ok).getD b
  | deleteAllBacklog ok, b => b.deleteAllBacklog ok
  | evictOldest, b => b.evictOldest.getD b
  | evictExpired env, b => b.evictExpired env

/-- What the call writes. -/
def BufferOp.writes : BufferOp → EdgeBuffer → List Datum
  | write data dataType _, b => [⟨b.sequenceCounter, data, dataType⟩]
  | _, _ => []

/-- What the call returns from memory or marks as sent. -/
def BufferOp.returns : BufferOp → EdgeBuffer → List Datum
  | read count, b => (b.read count).1.map BufferEntry.datum
  | drain now pendingOk, b =>
    ((b.drain now pendingOk).1.filter (fun entry => entry.sqliteRowId.isNone)).map
      BufferEntry.datum
  | drainByType dataType, b => (b.drainByType dataType).1.map BufferEntry.datum
  | markSent rowId _ ok, b =>
    if ok then (b.pendingRows.filter (fun row => row.id = rowId)).map SqliteRow.datum else []
  | _, _ => []

/-- What the call evicts, lets expire or deletes. -/
def BufferOp.removes : BufferOp → EdgeBuffer → List Datum
  | write data _ env, b => b.writeRemoves data env
  | deleteAllBacklog ok, b =>
    b.memoryData ++ (if ok then b.rowData else [])
  | evictOldest, b => (b.buffer.take 1).map BufferEntry.datum
  | evictExpired env, b => b.expiredData env
  | _, _ => []

/-! ## Runs with a ledger -/

/-- The ledger of a buffer. -/
structure Ledger where
  written : List Datum
  returned : List Datum := []
  removed : List Datum := []

/-- A buffer and its ledger. -/
structure Tracked where
  buffer : EdgeBuffer
  ledger : Ledger

namespace Tracked

/-- A new buffer. What an earlier run of the agent left unsent in SQLite counts as written. -/
def new (config : EdgeBufferConfig) (db : Option SqliteDb) : Tracked :=
  let buffer := EdgeBuffer.new config db
  { buffer, ledger := { written := buffer.rowData } }

/-- One operation, entered into the ledger. -/
def step (t : Tracked) (op : BufferOp) : Option Tracked :=
  some {
    buffer := op.perform t.buffer
    ledger := {
      written := t.ledger.written ++ op.writes t.buffer
      returned := t.ledger.returned ++ op.returns t.buffer
      removed := t.ledger.removed ++ op.removes t.buffer } }

/-- Every place a written datum can be in. -/
def places (t : Tracked) : List Datum :=
  t.buffer.memoryData ++ t.buffer.rowData ++ t.ledger.returned ++ t.ledger.removed

end Tracked

end Paryty.Agent

import Paryty.Agent.Flush
import Paryty.Agent.Ledger
import Paryty.Lib.Unwinding

/-!
# The agent's live path

`Client::send_metrics`, `send_live`, `send_traces`, `send_events` and `send_network_events` of
`agent/src/communication/mod.rs`: data goes into the channel of `GrpcClient`, in a unary batch, or
into the edge buffer, from which `flush_buffer` replays it into the channel.

* Only a batch gets to the cluster, and it may even if the call fails: the answer may be lost.
* A send that finds the channel full does not return. What it was to do next is not done; other
  calls go on.
* Flow control, the state of the connection and of the identity are arguments: other tasks change
  them at any time.
* The client's own sequence number only labels batches and log lines.

`Accounts` keeps the books of a run: which call each entry of the buffer came from, and which
calls were delivered.
-/

namespace Paryty.Agent

/-! ## The calls -/

/-- What `SendBatch` answers. -/
inductive BatchReply
  /-- No answer. The cluster may have taken the batch. -/
  | failed (taken : Bool)
  | rejected
  | accepted
deriving DecidableEq

/-- What a send meets outside. -/
structure SendEnv where
  /-- The compressor; it may fail. -/
  compress : Bytes → Option Bytes := some
  /-- The client is backpressured and the random number is above the sampling rate. -/
  sampledOut : Bool := false
  identityValid : Bool := false
  /-- `is_connected` in `send_live`, and in `grpc.send` after it. -/
  liveConnected : Bool := false
  liveSends : Bool := false
  /-- `is_connected` in the call itself, and in `grpc.send` of traces and events. -/
  connected : Bool := false
  sends : Bool := false
  reply : BatchReply := .failed false
  write : WriteEnv

/-- What a send leaves: the buffer, the number of messages in the channel, how often the data was
delivered, and what was written to the buffer. -/
structure SendOutcome where
  buffer : EdgeBuffer
  queue : ℕ
  deliveries : ℕ := 0
  written : Option Bytes := none
  ok : Bool := true

/-- The number of messages in the channel after a send. -/
def SendResult.queue (queue : ℕ) : SendResult → ℕ
  | .queued => queue + 1
  | .refused | .waits => queue

/-- `send_live`. -/
def sendLive (data : Bytes) (queue : ℕ) (env : SendEnv) : SendResult :=
  if env.liveConnected then
    match env.compress data with
    | none => .refused
    | some _ => grpcSend env.liveSends queue
  else .refused

section Calls

-- Whether `serde_json` reads the bytes as a `MetalBatch`.
variable (reads : Bytes → Bool)

/-- `send_metrics`. The batch is empty if the data does not read as a `MetalBatch`. -/
def sendMetrics (b : EdgeBuffer) (queue : ℕ) (data : Bytes) (env : SendEnv) : SendOutcome :=
  match env.compress data with
  | none => { buffer := b, queue, ok := false }
  | some compressed =>
    let buffered : SendOutcome :=
      { buffer := (b.write compressed .metrics env.write).2, queue, written := some compressed }
    if env.sampledOut then
      buffered
    else
      let live := if env.identityValid then sendLive data queue env else .refused
      let queue := live.queue queue
      if live = .waits then { buffer := b, queue }
      else if env.connected then
        match env.reply with
        | .accepted => { buffer := b, queue, deliveries := (reads data).toNat }
        | .rejected => { buffered with queue }
        | .failed taken => { buffered with queue, deliveries := (taken && reads data).toNat }
      else { buffered with queue }

/-- Write to the buffer, then send if connected. -/
def bufferThenSend (b : EdgeBuffer) (queue : ℕ) (data : Bytes) (dataType : DataType)
    (env : SendEnv) : SendOutcome where
  buffer := (b.write data dataType env.write).2
  queue := (if env.connected then grpcSend env.sends queue else .refused).queue queue
  written := some data

/-- `send_traces`. -/
def sendTraces (b : EdgeBuffer) (queue : ℕ) (data : Bytes) (env : SendEnv) : SendOutcome :=
  match env.compress data with
  | none => { buffer := b, queue, ok := false }
  | some compressed => bufferThenSend b queue compressed .traces env

/-- `send_events`. -/
def sendEvents (b : EdgeBuffer) (queue : ℕ) (data : Bytes) (env : SendEnv) : SendOutcome :=
  bufferThenSend b queue data .events env

/-- `send_network_events`. -/
def sendNetworkEvents (b : EdgeBuffer) (queue : ℕ) (data : Bytes) (env : SendEnv) : SendOutcome :=
  bufferThenSend b queue data .networkEvents env

/-- The call for a type of data. -/
def DataType.send : DataType → EdgeBuffer → ℕ → Bytes → SendEnv → SendOutcome
  | metrics => sendMetrics reads
  | traces => sendTraces
  | events => sendEvents
  | networkEvents => sendNetworkEvents

end Calls

/-! ## Books -/

/-- What a call would put into the buffer. -/
structure Call where
  data : Bytes
  dataType : DataType
deriving DecidableEq

def Datum.call (d : Datum) : Call := ⟨d.data, d.dataType⟩

namespace EdgeBuffer

/-- The number of entries a write takes out of memory. -/
def evictedCount (b : EdgeBuffer) (size : ℕ) (env : WriteEnv) : ℕ :=
  (b.nextSequence.expiredEntries env.clock.instant).length +
    ((b.nextSequence.evictExpired env).roomEvicted size env).length

/-- What is written goes to SQLite. -/
def spills (b : EdgeBuffer) (size : ℕ) (env : WriteEnv) : Bool :=
  let b := b.nextSequence.evictExpired env
  b.memoryFull size && (b.db.isSome && env.spillOk)

/-- The id of the next row. -/
def nextRowId (b : EdgeBuffer) : ℤ :=
  match b.db with
  | none => 0
  | some db => db.sequence + 1

end EdgeBuffer

/-- The client's buffer and channel, and the books of the calls, which are numbered in their
order. -/
structure Accounts where
  buffer : EdgeBuffer
  queue : ℕ
  calls : List Call
  /-- The calls of the entries in memory, in their order. -/
  memoryCalls : List ℕ
  /-- The call of a row, if it was written in this run. -/
  rowCalls : ℤ → Option ℕ
  /-- The calls whose data was delivered, once for each delivery. -/
  delivered : List ℕ

namespace Accounts

/-- A client that has made no call yet. -/
def new (config : EdgeBufferConfig) (db : Option SqliteDb) : Accounts where
  buffer := .new config db
  queue := 0
  calls := []
  memoryCalls := []
  rowCalls _ := none
  delivered := []

/-- The calls whose entries a write gives up. -/
def evictedCalls (t : Accounts) (size : ℕ) (env : WriteEnv) : List ℕ :=
  t.memoryCalls.take (t.buffer.evictedCount size env) ++
    (t.buffer.expiredRows env).filterMap (fun row => t.rowCalls row.id)

/-- Enter what a call wrote. -/
def enter (t : Accounts) (written : Bytes) (env : WriteEnv) : List ℕ × (ℤ → Option ℕ) :=
  let kept := t.memoryCalls.drop (t.buffer.evictedCount written.length env)
  let call := t.calls.length
  if t.buffer.spills written.length env then
    (kept, Function.update t.rowCalls t.buffer.nextRowId (some call))
  else
    (kept ++ [call], t.rowCalls)

/-- A call. -/
def send (reads : Bytes → Bool) (t : Accounts) (dataType : DataType) (data : Bytes)
    (env : SendEnv) : Accounts :=
  let out := dataType.send reads t.buffer t.queue data env
  let books := match out.written with
    | none => (t.memoryCalls, t.rowCalls)
    | some written => t.enter written env.write
  { buffer := out.buffer
    queue := out.queue
    calls := t.calls ++ [⟨out.written.getD data, dataType⟩]
    memoryCalls := books.1
    rowCalls := books.2
    delivered := t.delivered ++ List.replicate out.deliveries t.calls.length }

/-- `flush_buffer`. -/
def flush (t : Accounts) (env : FlushEnv) : Accounts :=
  let out := flushBuffer t.buffer t.queue env
  { t with
    buffer := out.buffer
    queue := out.queue
    memoryCalls := [] }

end Accounts

/-- A call of the client. -/
inductive ClientCall
  | send (dataType : DataType) (data : Bytes) (env : SendEnv)
  | flush (env : FlushEnv)

/-- The client after a call. -/
def Accounts.step (reads : Bytes → Bool) (t : Accounts) : ClientCall → Accounts
  | .send dataType data env => t.send reads dataType data env
  | .flush env => t.flush env

/-! ## What a call is owed -/

/-- The data of call `c` is in the buffer: in memory, or in a row that is still to be sent. -/
def Accounts.Present (t : Accounts) (c : ℕ) : Prop :=
  (∃ entry, (entry, c) ∈ t.buffer.buffer.zip t.memoryCalls ∧
    t.calls[c]? = some entry.datum.call) ∨
  ∃ row ∈ t.buffer.pendingRows, t.rowCalls row.id = some c ∧ t.calls[c]? = some row.datum.call

/-- Every call was delivered at most once, and if not at all its data is in the buffer. -/
def Accounts.Settled (t : Accounts) : Prop :=
  ∀ c < t.calls.length, t.delivered.count c ≤ 1 ∧ (t.delivered.count c = 0 → t.Present c)

/-! ## When it gets it -/

/-- `send_live` finds the channel full. -/
def SendEnv.liveWaits (env : SendEnv) (queue : ℕ) : Bool :=
  !env.sampledOut && (env.identityValid && (env.liveConnected &&
    grpcSend env.liveSends queue = .waits))

/-- The server accepts the batch. -/
def SendEnv.batchAccepted (env : SendEnv) : Bool :=
  !env.sampledOut && (env.connected && env.reply = .accepted)

/-- What the call writes to the buffer. -/
def SendEnv.buffered (env : SendEnv) (queue : ℕ) (data : Bytes) : DataType → Option Bytes
  | .metrics => if env.liveWaits queue || env.batchAccepted then none else env.compress data
  | .traces => env.compress data
  | .events | .networkEvents => some data

/-- The data can be compressed, the channel has room for it, and an accepted batch holds it. -/
def SendEnv.Sound (reads : Bytes → Bool) (env : SendEnv) (queue : ℕ) (data : Bytes) :
    DataType → Prop
  | .metrics => env.compress data ≠ none ∧ env.liveWaits queue = false ∧
      (env.batchAccepted = true → reads data = true)
  | .traces => env.compress data ≠ none
  | .events | .networkEvents => True

/-- The calls of the rows that a flush marks sent: those it queues and whose update succeeds. -/
def Accounts.markedCalls (t : Accounts) (env : FlushEnv) : List ℕ :=
  (acknowledged env 0 t.queue (t.buffer.drain env.clock.instant env.pendingOk).1).filterMap
    fun entry => entry.sqliteRowId.bind t.rowCalls

/-- What a call gives up was delivered: a flush gives up what is in memory and the rows it marks. -/
def Accounts.Admits (reads : Bytes → Bool) (t : Accounts) : ClientCall → Prop
  | .send dataType data env => env.Sound reads t.queue data dataType ∧
      ∀ written, env.buffered t.queue data dataType = some written →
        ∀ c ∈ t.evictedCalls written.length env.write, c ∈ t.delivered
  | .flush env => (∀ c ∈ t.memoryCalls, c ∈ t.delivered) ∧ ∀ c ∈ t.markedCalls env, c ∈ t.delivered

end Paryty.Agent

import Paryty.Agent.EdgeBuffer

/-!
# Replaying the edge buffer

`Client::flush_buffer` and `Client::upload_backlog_stream` of
`agent/src/communication/mod.rs` take the drained entries one after the other: an entry that
`grpc.send` accepts is marked sent when it came from SQLite, the first one it refuses stops
the loop.

`GrpcClient::send` of `grpc_client.rs` puts the data into a channel. Nobody receives from it: the
cluster gets nothing of it, and once it is full a send waits for good.
-/

namespace Paryty.Agent

/-- The capacity of the channel of `GrpcClient`. -/
def channelCapacity : ℕ := 1024

/-- What becomes of a send. -/
inductive SendResult
  | queued
  | refused
  /-- The channel is full. -/
  | waits
deriving DecidableEq

/-- `GrpcClient::send`, with so many messages in the channel. -/
def grpcSend (connected : Bool) (queue : ℕ) : SendResult :=
  if connected then
    if queue < channelCapacity then .queued else .waits
  else .refused

/-- What one flush meets outside: the clocks, whether the pending rows can be read, whether the
client is connected at each send, how many messages other tasks have queued since the send before,
and which row updates succeed. -/
structure FlushEnv where
  clock : Clock
  pendingOk : Bool := true
  connected : ℕ → Bool
  others : ℕ → ℕ := fun _ => 0
  update : ℕ → Bool := fun _ => true

/-- What a flush leaves: the buffer, the number of messages in the channel, and the counts it
logs. -/
structure FlushOutcome where
  buffer : EdgeBuffer
  queue : ℕ
  sentCount : ℕ := 0
  failedCount : ℕ := 0
  /-- No send waits. -/
  returned : Bool := true

namespace EdgeBuffer

/-- Acknowledge an entry that was sent; a failed update is only logged. -/
def acknowledge (b : EdgeBuffer) (entry : BufferEntry) (nowSecs : ℤ) (ok : Bool) : EdgeBuffer :=
  match entry.sqliteRowId with
  | none => b
  | some rowId => (b.markSent rowId nowSecs ok).getD b

/-- Count a failed attempt on an entry; a failed update is only logged. -/
def recordRetry (b : EdgeBuffer) (entry : BufferEntry) (ok : Bool) : EdgeBuffer :=
  match entry.sqliteRowId with
  | none => b
  | some rowId => (b.markRetry rowId ok).getD b

end EdgeBuffer

/-- The send loop from position `i` on. All four data types go through the same
`grpc.send`. -/
def sendEntries (env : FlushEnv) : ℕ → List BufferEntry → FlushOutcome → FlushOutcome
  | _, [], out => out
  | i, entry :: rest, out =>
    let queue := out.queue + env.others i
    match grpcSend (env.connected i) queue with
    | .queued =>
      sendEntries env (i + 1) rest { out with
        buffer := out.buffer.acknowledge entry env.clock.epochSecs (env.update i)
        queue := queue + 1
        sentCount := out.sentCount + 1 }
    | .refused => { out with
        buffer := out.buffer.recordRetry entry (env.update i)
        queue := queue
        failedCount := out.failedCount + 1 }
    | .waits => { out with queue := queue, returned := false }

/-- The entries of the loop that are queued and whose update succeeds. -/
def acknowledged (env : FlushEnv) : ℕ → ℕ → List BufferEntry → List BufferEntry
  | _, _, [] => []
  | i, queue, entry :: rest =>
    if grpcSend (env.connected i) (queue + env.others i) = .queued then
      (if env.update i then [entry] else []) ++
        acknowledged env (i + 1) (queue + env.others i + 1) rest
    else []

/-- The loop `flush_buffer` and `upload_backlog_stream` share: drain, then send. -/
def replay (b : EdgeBuffer) (queue : ℕ) (env : FlushEnv) : FlushOutcome :=
  let (entries, b) := b.drain env.clock.instant env.pendingOk
  sendEntries env 0 entries { buffer := b, queue }

/-- `Client::flush_buffer`. -/
def flushBuffer (b : EdgeBuffer) (queue : ℕ) (env : FlushEnv) : FlushOutcome := replay b queue env

/-- `Client::upload_backlog_stream`. -/
def uploadBacklogStream (b : EdgeBuffer) (queue : ℕ) (env : FlushEnv) : FlushOutcome :=
  replay b queue env

/-! ## What a flush owes its entries -/

/-- The entries still in the buffer: those in memory and the unsent rows, as read at `now`. -/
def EdgeBuffer.present (b : EdgeBuffer) (now : ℕ) : List BufferEntry :=
  b.buffer ++ b.unsentEntries now

/-- When the flush returns, every entry `drain` removed is still in the buffer, counted with
multiplicity: what was queued is not handed to the cluster. -/
def LosesNothing (flush : EdgeBuffer → ℕ → FlushEnv → FlushOutcome) (b : EdgeBuffer) (queue : ℕ)
    (env : FlushEnv) : Prop :=
  let out := flush b queue env
  out.returned = true →
    (b.drain env.clock.instant env.pendingOk).1.Subperm (out.buffer.present env.clock.instant)

instance (flush : EdgeBuffer → ℕ → FlushEnv → FlushOutcome) (b : EdgeBuffer) (queue : ℕ)
    (env : FlushEnv) : Decidable (LosesNothing flush b queue env) :=
  inferInstanceAs (Decidable (_ → List.Subperm _ _))

/-- The number of messages that send `i` finds in the channel if those before it were queued. -/
def FlushEnv.queueAt (env : FlushEnv) (queue : ℕ) : ℕ → ℕ
  | 0 => queue + env.others 0
  | i + 1 => env.queueAt queue i + 1 + env.others (i + 1)

/-- The client is connected at all sends up to `i`. -/
def FlushEnv.ConnectedTo (env : FlushEnv) (i : ℕ) : Prop := ∀ j ≤ i, env.connected j = true

/-- One of the sends finds the channel full. -/
def FlushEnv.Waits (env : FlushEnv) (queue n : ℕ) : Prop :=
  ∃ i < n, env.ConnectedTo i ∧ channelCapacity ≤ env.queueAt queue i

/-- A send waits, or memory is empty and no row is marked sent. -/
def LosesNone (b : EdgeBuffer) (queue : ℕ) (env : FlushEnv) : Prop :=
  let n := (b.drain env.clock.instant env.pendingOk).1.length
  env.Waits queue n ∨
    b.buffer = [] ∧ ∀ i < n, env.ConnectedTo i → env.update i = false

end Paryty.Agent

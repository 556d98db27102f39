import Paryty.Storage.ILPLine
import Paryty.Storage.ILPWriter

/-!
# The connection of the ILP sender

`ILPSender` of `cluster/internal/storage/warm/ilp.go`: a buffer of lines, and one connection to
write them to. A write that fails makes the sender close the connection and dial once; the new
connection takes the place of the old one, if there is one.

* `Network` is what comes of the uses of the network during one operation.
* `Recovers`: from here on, every operation succeeds while the server is reachable, and what it
  writes gets to the server.
* `recovers_iff`: a sender that has not been closed recovers if and only if no dial of it has ever
  failed. After one that has, there is no connection, and nothing but a write that fails would make
  the sender dial.
* `writeToConn_shared`: the same steps as in the machine of the ILP writer.
-/

namespace Paryty.Storage.ILPSender

open Lib (Bytes)
open ILPLine (Tags Fields formatILPLine newline)

/-- The errors of the uses of the network, where there are any. -/
structure Network where
  write : Option String := none
  dial : Option String := none
  /-- The write after a reconnect. -/
  rewrite : Option String := none
  close : Option String := none
deriving DecidableEq

/-- The server can be dialed, and what is written to a new connection arrives. -/
structure Network.Reachable (net : Network) : Prop where
  dial : net.dial = none
  rewrite : net.rewrite = none

/-- The sender, and what the server has received. Connections are numbered. -/
structure Sender where
  addr : String
  conn : Option ℕ
  /-- How many connections there have been. -/
  dialed : ℕ
  buf : Bytes := []
  bufLimit : ℕ := ILP.defaultBufLimit
  /-- What has been written to which connection. -/
  received : List (ℕ × Bytes) := []
deriving DecidableEq

/-- What `NewILPSender` returns once it has dialed the address. -/
def newILPSender (addr : String) : Sender := { addr, conn := some 0, dialed := 1 }

namespace Sender

/-- `conn.Write` without an error. -/
def receive (s : Sender) (conn : ℕ) (data : Bytes) : Sender :=
  { s with received := s.received ++ [(conn, data)] }

/-- Closes the connection and dials a new one. -/
def reconnectLocked (s : Sender) (net : Network) : Option String × Sender :=
  match net.dial with
  | some err => (some ("reconnect ILP at " ++ s.addr ++ ": " ++ err), { s with conn := none })
  | none => (none, { s with conn := some s.dialed, dialed := s.dialed + 1 })

/-- Writes to the connection. On failure, it reconnects once and retries. -/
def writeToConn (s : Sender) (net : Network) (data : Bytes) : Option String × Sender :=
  match s.conn with
  | none => (some "ILP connection is closed", s)
  | some conn =>
    match net.write with
    | none => (none, s.receive conn data)
    | some err =>
      match s.reconnectLocked net with
      | (some rerr, s) =>
        (some ("write failed (" ++ err ++ "), reconnect also failed: " ++ rerr), s)
      | (none, s) =>
        match net.rewrite with
        | some err => (some ("retry ILP write after reconnect: " ++ err), s)
        | none => (none, s.receive (s.dialed - 1) data)

/-- `buf.Reset`. -/
def reset (s : Sender) : Sender := { s with buf := [] }

/-- Appends a line to the buffer, and writes the buffer when it has reached its limit. -/
def sendMetric (s : Sender) (net : Network) (table : Bytes) (tags : Tags) (fields : Fields)
    (ts : Int64) : Option String × Sender :=
  let buf := s.buf ++ formatILPLine table tags fields ts
  if s.bufLimit ≤ buf.length then s.reset.writeToConn net buf
  else (none, { s with buf })

/-- Writes all buffered data to the connection and clears the buffer. -/
def flush (s : Sender) (net : Network) : Option String × Sender :=
  if s.buf = [] then (none, s) else s.reset.writeToConn net s.buf

/-- Flushes remaining data and closes the connection. The error of the flush is logged. -/
def close (s : Sender) (net : Network) : Option String × Sender :=
  let s := (s.flush net).2
  match s.conn with
  | none => (none, s)
  | some _ =>
    match net.close with
    | some err => (some ("close ILP connection: " ++ err), s)
    | none => (none, { s with conn := none })

end Sender

/-- An operation, and the network it meets. -/
inductive Event
  | sendMetric (net : Network) (table : Bytes) (tags : Tags) (fields : Fields) (ts : Int64)
  | flush (net : Network)
  | close (net : Network)

namespace Event

def net : Event → Network
  | sendMetric net .. | flush net | close net => net

def isClose : Event → Bool
  | close _ => true
  | _ => false

end Event

namespace Sender

/-- What an operation returns, and the sender after it. -/
def perform (s : Sender) : Event → Option String × Sender
  | .sendMetric net table tags fields ts => s.sendMetric net table tags fields ts
  | .flush net => s.flush net
  | .close net => s.close net

/-- One operation. -/
def next (s : Sender) (e : Event) : Sender := (s.perform e).2

/-- The errors that the operations return. -/
def results (s : Sender) : List Event → List (Option String)
  | [] => []
  | e :: events => (s.perform e).1 :: (s.next e).results events

/-- The operation writes to the connection. -/
def Writes (s : Sender) : Event → Prop
  | .sendMetric _ table tags fields ts =>
    s.bufLimit ≤ (s.buf ++ formatILPLine table tags fields ts).length
  | .flush _ | .close _ => s.buf ≠ []

/-- The operation does not write, or its write arrives, or the dial after it does. -/
def Redialed (s : Sender) (e : Event) : Prop :=
  s.Writes e → e.net.write = none ∨ e.net.dial = none

end Sender

/-- As long as the server is reachable, the sender can be used. -/
structure Recovers (s : Sender) : Prop where
  /-- All operations up to a `Close` succeed. -/
  succeeds : ∀ events : List Event, (∀ e ∈ events, e.isClose = false ∧ e.net.Reachable) →
    ∀ err ∈ s.results events, err = none
  /-- A write leaves the sender connected, and the data with the server. -/
  delivers : ∀ (net : Network) (data : Bytes), net.Reachable →
    ∃ conn, (s.writeToConn net data).2.conn = some conn ∧
      (s.writeToConn net data).2.received = s.received ++ [(conn, data)]

/-! ## Connected senders -/

section Connected

variable {s : Sender} {net : Network} {data : Bytes} {e : Event}

lemma writeToConn_of_reachable (hconn : s.conn ≠ none) (hnet : net.Reachable) :
    (s.writeToConn net data).1 = none ∧ ∃ conn, (s.writeToConn net data).2.conn = some conn ∧
      (s.writeToConn net data).2.received = s.received ++ [(conn, data)] := by
  obtain ⟨conn, hconn⟩ := Option.ne_none_iff_exists'.mp hconn
  unfold Sender.writeToConn Sender.reconnectLocked
  cases hwrite : net.write with
  | none => simp [hconn, Sender.receive]
  | some err => simp [hconn, hnet.dial, hnet.rewrite, Sender.receive]

lemma conn_writeToConn_iff : (s.writeToConn net data).2.conn ≠ none ↔
    s.conn ≠ none ∧ (net.write = none ∨ net.dial = none) := by
  unfold Sender.writeToConn Sender.reconnectLocked
  cases hconn : s.conn with
  | none => simp [hconn]
  | some conn =>
    cases hwrite : net.write with
    | none => simp [hconn, Sender.receive]
    | some err =>
      cases hdial : net.dial with
      | some err' => simp
      | none =>
        cases hrewrite : net.rewrite with
        | some err' => simp
        | none => simp [Sender.receive]

@[simp] lemma conn_reset : s.reset.conn = s.conn := rfl

/-- What an operation other than `Close` comes to: nothing but the buffer, or a write. -/
lemma perform_cases (hopen : e.isClose = false) :
    (¬ s.Writes e ∧ (s.perform e).1 = none ∧ (s.perform e).2.conn = s.conn) ∨
      (s.Writes e ∧ ∃ data, s.perform e = s.reset.writeToConn e.net data) := by
  cases e with
  | close net => exact absurd hopen (by simp [Event.isClose])
  | flush net =>
    by_cases hbuf : s.buf = []
    · refine .inl ⟨fun hwrites => hwrites hbuf, ?_⟩
      simp only [Sender.perform, Sender.flush, if_pos hbuf, and_self]
    · exact .inr ⟨hbuf, s.buf, if_neg hbuf⟩
  | sendMetric net table tags fields ts =>
    by_cases hfull : s.bufLimit ≤ (s.buf ++ formatILPLine table tags fields ts).length
    · exact .inr ⟨hfull, _, if_pos hfull⟩
    · refine .inl ⟨hfull, ?_⟩
      simp only [Sender.perform, Sender.sendMetric, if_neg hfull, and_self]

lemma conn_next_iff (hopen : e.isClose = false) :
    (s.next e).conn ≠ none ↔ s.conn ≠ none ∧ s.Redialed e := by
  unfold Sender.next Sender.Redialed
  rcases perform_cases hopen with ⟨hsilent, -, hconn⟩ | ⟨hwrites, data, hperform⟩
  · rw [hconn]
    exact ⟨fun h => ⟨h, fun hwrites => absurd hwrites hsilent⟩, fun h => h.1⟩
  · rw [hperform, conn_writeToConn_iff, conn_reset]
    exact and_congr_right fun _ => ⟨fun h _ => h, fun h => h hwrites⟩

lemma perform_of_reachable (hconn : s.conn ≠ none) (hopen : e.isClose = false)
    (hnet : e.net.Reachable) : (s.perform e).1 = none := by
  rcases perform_cases hopen with ⟨-, hnone, -⟩ | ⟨-, data, hperform⟩
  · exact hnone
  · rw [hperform]
    exact (writeToConn_of_reachable (by rwa [conn_reset]) hnet).1

lemma results_of_reachable (hconn : s.conn ≠ none) {events : List Event}
    (hevents : ∀ e ∈ events, e.isClose = false ∧ e.net.Reachable) :
    ∀ err ∈ s.results events, err = none := by
  induction events generalizing s with
  | nil => simp [Sender.results]
  | cons e events ih =>
    obtain ⟨hopen, hnet⟩ := hevents e List.mem_cons_self
    have hnext : (s.next e).conn ≠ none :=
      (conn_next_iff hopen).mpr ⟨hconn, fun _ => .inr hnet.dial⟩
    intro err herr
    rcases List.mem_cons.mp herr with rfl | herr
    · exact perform_of_reachable hconn hopen hnet
    · exact ih hnext (fun e he => hevents e (List.mem_cons_of_mem _ he)) err herr

lemma recovers_iff_conn : Recovers s ↔ s.conn ≠ none := by
  constructor
  · intro h hnone
    obtain ⟨conn, hconn, -⟩ := h.delivers {} [] ⟨rfl, rfl⟩
    simp [Sender.writeToConn, hnone] at hconn
  · intro hconn
    exact ⟨fun events hevents => results_of_reachable hconn hevents,
      fun net data hnet => (writeToConn_of_reachable hconn hnet).2⟩

lemma conn_foldl_iff {events : List Event} (hopen : ∀ e ∈ events, e.isClose = false) :
    (events.foldl Sender.next s).conn ≠ none ↔
      s.conn ≠ none ∧ Lib.Allowed Sender.next Sender.Redialed s events := by
  induction events generalizing s with
  | nil => simp [Lib.Allowed]
  | cons e events ih =>
    rw [List.foldl_cons, ih fun e he => hopen e (List.mem_cons_of_mem _ he),
      conn_next_iff (hopen e List.mem_cons_self), and_assoc]
    rfl

end Connected

/-- For every run of a sender that is not closed: it can be used again as soon as the server is
reachable, if and only if no operation so far has seen its write fail and then its dial. -/
theorem recovers_iff (addr : String) (events : List Event)
    (hopen : ∀ e ∈ events, e.isClose = false) :
    Recovers (events.foldl Sender.next (newILPSender addr)) ↔
      Lib.Allowed Sender.next Sender.Redialed (newILPSender addr) events := by
  rw [recovers_iff_conn, conn_foldl_iff hopen]
  exact and_iff_right (by simp [newILPSender])

/-- A line, and the flush of it. -/
def writeLine (net : Network) : List Event :=
  [.sendMetric {} [99] Lib.Table.empty Lib.Table.empty 0, .flush net]

/-- After a dial that failed the sender does not write again, although the server is reachable. -/
theorem serverDown_for_good :
    ¬ Recovers ((writeLine { write := some "broken pipe", dial := some "refused" }).foldl
        Sender.next (newILPSender "questdb:9009")) ∧
      ((writeLine { write := some "broken pipe", dial := some "refused" }).foldl
        Sender.next (newILPSender "questdb:9009")).results (writeLine {}) =
          [none, some "ILP connection is closed"] := by
  refine ⟨?_, by decide⟩
  rw [recovers_iff_conn, not_not]
  decide

/-- A sender whose connection drops, and that gets another one. -/
theorem recovers_iff_writeLine :
    Recovers ((writeLine { write := some "broken pipe" }).foldl Sender.next
        (newILPSender "questdb:9009")) ↔
      Lib.Allowed Sender.next Sender.Redialed (newILPSender "questdb:9009")
        (writeLine { write := some "broken pipe" }) :=
  recovers_iff "questdb:9009" _ (by simp [writeLine, Event.isClose])

/-! ## The machine of the writer -/

/-- What the machine of the writer is told of a use of the network. -/
def outcome : Option String → ILP.Outcome
  | none => .ok
  | some _ => .failed 0

/-- All steps of one write, without another thread between them. -/
def writeAll (shared : ILP.Shared) (c : ℕ) (why : ILP.Why) (lines : List ILP.Line)
    (net : Network) : ILP.Shared × ILP.Phase :=
  match shared.writeToConn c why lines .write (outcome net.write) with
  | (shared, .writeToConn _ _ (.reconnect written)) =>
    match shared.writeToConn c why lines (.reconnect written) (outcome net.dial) with
    | (shared, .writeToConn _ _ (.rewrite written)) =>
      shared.writeToConn c why lines (.rewrite written) (outcome net.rewrite)
    | result => result
  | result => result

/-- A thread of the writer comes to the same end, with or without an error, and leaves the sender
connected or not. -/
theorem writeToConn_shared {s : Sender} {shared : ILP.Shared} (hfree : shared.connMu = none)
    (hconn : shared.connected = s.conn.isSome) (net : Network) (data : Bytes) (c : ℕ)
    (why : ILP.Why) (lines : List ILP.Line) :
    (writeAll shared c why lines net).2 = why.done (s.writeToConn net data).1.isNone ∧
      (writeAll shared c why lines net).1.connected = (s.writeToConn net data).2.conn.isSome ∧
      (writeAll shared c why lines net).1.connMu = none := by
  unfold writeAll Sender.writeToConn Sender.reconnectLocked
  cases hs : s.conn with
  | none =>
    have hclosed : shared.connected = false := by rw [hconn, hs]; rfl
    cases why
    all_goals simp [ILP.Shared.writeToConn, hfree, hclosed, ILP.Why.done, hs]
  | some conn =>
    have hopen : shared.connected = true := by rw [hconn, hs]; rfl
    cases hwrite : net.write with
    | none =>
      cases why
      all_goals
        simp [ILP.Shared.writeToConn, hfree, hopen, ILP.Why.done, hs, outcome, Sender.receive]
    | some err =>
      cases hdial : net.dial with
      | some err' =>
        cases why
        all_goals simp [ILP.Shared.writeToConn, hfree, hopen, ILP.Why.done, outcome]
      | none =>
        cases hrewrite : net.rewrite with
        | none => simp [ILP.Shared.writeToConn, hfree, hopen, outcome, Sender.receive]
        | some err' => simp [ILP.Shared.writeToConn, hfree, hopen, outcome]

/-- The connection is reset while a line is written, and written again on the next one. -/
theorem writeToConn_shared_reset :
    (writeAll {} 0 .final [⟨0, 0, "c"⟩] { write := some "reset" }).2 = ILP.Why.final.done
        ((newILPSender "questdb").writeToConn { write := some "reset" } [99, 10]).1.isNone ∧
      (writeAll {} 0 .final [⟨0, 0, "c"⟩] { write := some "reset" }).1.connected =
        ((newILPSender "questdb").writeToConn { write := some "reset" } [99, 10]).2.conn.isSome ∧
      (writeAll {} 0 .final [⟨0, 0, "c"⟩] { write := some "reset" }).1.connMu = none :=
  writeToConn_shared rfl rfl _ _ 0 _ _

end Paryty.Storage.ILPSender

import Mathlib.Data.Finset.Basic
import Mathlib.Data.UInt
import Paryty.Lib.Table
import Paryty.Lib.Text

/-!
# The observer of /proc/net

`agent/src/ebpf/proc_fallback.rs`: without eBPF the agent polls `/proc/net/tcp` and
`/proc/net/tcp6`, compares the connections with those of the previous poll, and emits an event for
every connection that came or went.

* `parseAddress`, `parseLine`, `parseProcTcp` read the text of the two files.
* `collect` is one poll, on what `read_to_string` gave for the files.
* `Socket.line` and `fileText` are what the kernel prints, and `Socket` is what it prints it of.
* `replay` is what the events say to one who reads them.

Process IDs and names come from other files under `/proc`; what a poll finds there is a parameter.
-/

namespace Paryty.Agent.ProcFallback

open Lib.Text

/-! ## Data -/

/-- `ConnectionKey`. -/
structure ConnectionKey where
  srcIP : UInt32
  srcPort : UInt16
  dstIP : UInt32
  dstPort : UInt16
deriving DecidableEq

/-- `ConnectionState`. -/
structure ConnectionState where
  state : String
  pid : ℕ
  processName : String
deriving DecidableEq

/-- `HashMap<ConnectionKey, ConnectionState>`. -/
abbrev Connections := Lib.Table (ConnectionKey × ConnectionState) ConnectionKey Prod.fst

/-- `NetworkEvent::TcpConnection`. -/
structure TcpConnection where
  sourceIP : String
  sourcePort : UInt16
  destinationIP : String
  destinationPort : UInt16
  state : String
  pid : ℕ
  processName : String
deriving DecidableEq

/-- `EbpfConfig`, the fields the observer reads, and the byte order of the host. -/
structure EbpfConfig where
  excludePorts : List UInt16 := []
  excludeIPs : List String := []
  bigEndian : Bool := false
deriving DecidableEq

/-- `tcp_state_from_hex`. -/
def tcpStateFromHex (hex : List Char) : Option String :=
  if hex = ['0', '1'] then some "ESTABLISHED"
  else if hex = ['0', '2'] then some "SYN_SENT"
  else if hex = ['0', '3'] then some "SYN_RECV"
  else if hex = ['0', '4'] then some "FIN_WAIT1"
  else if hex = ['0', '5'] then some "FIN_WAIT2"
  else if hex = ['0', '6'] then some "TIME_WAIT"
  else if hex = ['0', '7'] then some "CLOSE_WAIT"
  else if hex = ['0', '8'] then some "LAST_ACK"
  else if hex = ['0', '9'] then some "CLOSING"
  else if hex = ['0', 'A'] then some "LISTEN"
  else none

/-! ## Addresses -/

/-- `split_once`. -/
def splitOnce (c : Char) (s : List Char) : Option (List Char × List Char) :=
  match s.dropWhile (· ≠ c) with
  | [] => none
  | _ :: rest => some (s.takeWhile (· ≠ c), rest)

/-- `u32::from_str_radix(_, 16)`. -/
def u32FromHex (s : List Char) : Option UInt32 := (fromStrRadix16 UInt32.size s).map UInt32.ofNat

/-- `u16::from_str_radix(_, 16)`. -/
def u16FromHex (s : List Char) : Option UInt16 := (fromStrRadix16 UInt16.size s).map UInt16.ofNat

/-- `parse_address`. Of an IPv6 address it keeps the last of the four words. -/
def parseAddress (s : List Char) : Option (UInt32 × UInt16) := do
  let (ipHex, portHex) ← splitOnce ':' s
  let port ← u16FromHex portHex
  if ipHex.length = 8 then
    let ip ← u32FromHex ipHex
    return (ip, port)
  else if ipHex.length = 32 then
    let seg3 ← u32FromHex ((ipHex.drop 24).take 8)
    return (seg3, port)
  else none

/-- `to_ne_bytes`. -/
def toNeBytes (bigEndian : Bool) (ip : UInt32) : List ℕ :=
  let little := [ip.toNat % 256, ip.toNat / 256 % 256, ip.toNat / 65536 % 256,
    ip.toNat / 16777216]
  if bigEndian then little.reverse else little

/-- `format_ip`. -/
def formatIP (cfg : EbpfConfig) (ip : UInt32) : String :=
  String.ofList (['.'].intercalate ((toNeBytes cfg.bigEndian ip).map (Nat.toDigits 10)))

/-! ## Lines -/

/-- An inode, `0` if it is no number. -/
def inodeOf (s : List Char) : ℕ :=
  if s ≠ [] ∧ s.all Char.isDigit ∧ Nat.ofDigitChars 10 s 0 < UInt64.size then
    Nat.ofDigitChars 10 s 0
  else 0

/-- What a poll finds out about an inode: `find_pid_for_inode` and `get_process_name`. -/
abbrev Resolver := ℕ → ℕ × String

/-- The addresses are not excluded by the configuration. -/
def admits (cfg : EbpfConfig) (key : ConnectionKey) : Bool :=
  ¬ (key.srcPort ∈ cfg.excludePorts ∨ key.dstPort ∈ cfg.excludePorts) ∧
    ¬ cfg.excludeIPs.any fun ip => ip = formatIP cfg key.srcIP ∨ ip = formatIP cfg key.dstIP

/-- The body of the loop of `parse_proc_tcp`: the entry for a line, `none` if it is skipped. -/
def parseLine (cfg : EbpfConfig) (resolve : Resolver) (line : List Char) :
    Option (ConnectionKey × ConnectionState) := do
  let fields := words line
  if fields.length < 10 then none
  else
    let state ← tcpStateFromHex (fields.getD 3 [])
    if state = "LISTEN" then none
    else
      let (srcIP, srcPort) ← parseAddress (fields.getD 1 [])
      let (dstIP, dstPort) ← parseAddress (fields.getD 2 [])
      let key : ConnectionKey := ⟨srcIP, srcPort, dstIP, dstPort⟩
      if admits cfg key then
        let found := resolve (inodeOf (fields.getD 9 []))
        return (key, ⟨state, found.1, if found.1 > 0 then found.2 else ""⟩)
      else none

/-- `parse_proc_tcp` on the text of the file. The first line is the header. -/
def parseProcTcp (cfg : EbpfConfig) (resolve : Resolver) (content : List Char)
    (out : Connections) : Connections :=
  (((lines content).drop 1).filterMap (parseLine cfg resolve)).foldl Lib.Table.put out

/-! ## Polls -/

/-- The event for a connection. -/
def tcpConnection (cfg : EbpfConfig) (key : ConnectionKey) (state : String) (pid : ℕ)
    (processName : String) : TcpConnection where
  sourceIP := formatIP cfg key.srcIP
  sourcePort := key.srcPort
  destinationIP := formatIP cfg key.dstIP
  destinationPort := key.dstPort
  state
  pid
  processName

/-- The connections of the first table that the second one does not have, but for `LISTEN`. -/
def gone (old new : Connections) : List (ConnectionKey × ConnectionState) :=
  (Lib.Table.added new old).filter (fun entry => entry.2.state ≠ "LISTEN")

/-- The events of a poll: first the new connections, then the closed ones. -/
def diff (cfg : EbpfConfig) (prev current : Connections) : List TcpConnection :=
  (gone current prev).map (fun entry =>
    tcpConnection cfg entry.1 entry.2.state entry.2.pid entry.2.processName) ++
  (gone prev current).map (fun entry =>
    tcpConnection cfg entry.1 "CLOSED" entry.2.pid entry.2.processName)

/-- `collect`: the remembered connections afterwards, and the events, `none` for an error. The
argument of a file is `none` where it cannot be read. -/
def collect (cfg : EbpfConfig) (resolve : Resolver) (prev : Connections)
    (tcp tcp6 : Option (List Char)) : Connections × Option (List TcpConnection) :=
  match tcp with
  | none => (prev, none)
  | some content =>
    let current := parseProcTcp cfg resolve content .empty
    match tcp6 with
    | none => (prev, none)
    | some content6 =>
      let current := parseProcTcp cfg resolve content6 current
      (current, some (diff cfg prev current))

/-! ## What the kernel prints -/

/-- An IP address, in the words the kernel prints it in. -/
inductive Address
  | v4 (word : UInt32)
  | v6 (word₀ word₁ word₂ word₃ : UInt32)
deriving DecidableEq

/-- The address, `%08X` for each word. -/
def Address.text : Address → List Char
  | .v4 word => hex 8 word.toNat
  | .v6 word₀ word₁ word₂ word₃ =>
    hex 8 word₀.toNat ++ hex 8 word₁.toNat ++ hex 8 word₂.toNat ++ hex 8 word₃.toNat

/-- A connection: the two addresses and ports. -/
structure Connection where
  localAddr : Address
  localPort : UInt16
  remAddr : Address
  remPort : UInt16
deriving DecidableEq

/-- A column nothing here reads: `tx_queue:rx_queue` and the like. -/
structure Column where
  text : List Char
  isWord : IsWord text

/-- An entry of one of the two tables. -/
structure Socket where
  /-- The number in the first column. -/
  slot : ℕ
  connection : Connection
  state : UInt8
  queues : Column
  timer : Column
  retransmits : Column
  uid : Column
  timeout : Column
  inode : ℕ
  rest : List Column

namespace Socket

/-- An address with its port, `%08X:%04X`. -/
def addressText (address : Address) (port : UInt16) : List Char :=
  address.text ++ ':' :: hex 4 port.toNat

/-- The columns of the entry. -/
def columns (s : Socket) : List (List Char) :=
  [Nat.toDigits 10 s.slot ++ [':'],
    addressText s.connection.localAddr s.connection.localPort,
    addressText s.connection.remAddr s.connection.remPort,
    hex 2 s.state.toNat, s.queues.text, s.timer.text, s.retransmits.text, s.uid.text,
    s.timeout.text, Nat.toDigits 10 s.inode] ++ s.rest.map Column.text

/-- The line of the entry. The first column is padded to four digits. -/
def line (s : Socket) : List Char :=
  List.replicate (4 - (Nat.toDigits 10 s.slot).length) ' ' ++ [' '].intercalate s.columns

end Socket

/-- The first line of a table. -/
def header : List Char :=
  ("  sl  local_address rem_address   st tx_queue rx_queue tr tm->when retrnsmt   uid  " ++
    "timeout inode").toList

/-- The text of a table. -/
def fileText (sockets : List Socket) : List Char :=
  ['\n'].intercalate (header :: sockets.map Socket.line ++ [[]])

/-! ## Runs -/

/-- What a poll meets: the two tables, `none` where the file cannot be read, and the processes. -/
structure Snapshot where
  tcp : Option (List Socket)
  tcp6 : Option (List Socket)
  resolve : Resolver

/-- The end points of an event. -/
structure Endpoints where
  sourceIP : String
  sourcePort : UInt16
  destinationIP : String
  destinationPort : UInt16
deriving DecidableEq

/-- The end points an event is about. -/
def TcpConnection.endpoints (event : TcpConnection) : Endpoints :=
  ⟨event.sourceIP, event.sourcePort, event.destinationIP, event.destinationPort⟩

/-- What a reader of the events takes to be open, after one more. -/
def replay (opened : Finset Endpoints) (event : TcpConnection) : Finset Endpoints :=
  if event.state = "CLOSED" then opened.erase event.endpoints else insert event.endpoints opened

/-- The observer and the reader of its events. -/
structure State where
  prevConnections : Connections := .empty
  opened : Finset Endpoints := ∅

/-- What `collect` returns on a snapshot. -/
def State.poll (cfg : EbpfConfig) (s : State) (snap : Snapshot) :
    Connections × Option (List TcpConnection) :=
  collect cfg snap.resolve s.prevConnections (snap.tcp.map fileText) (snap.tcp6.map fileText)

/-- One poll. -/
def State.next (cfg : EbpfConfig) (s : State) (snap : Snapshot) : State where
  prevConnections := (s.poll cfg snap).1
  opened := ((s.poll cfg snap).2.getD []).foldl replay s.opened

end Paryty.Agent.ProcFallback

import Paryty.Agent.ProcFallback

/-!
# What the events of the observer say

* `parseLine_line`: what the parser makes of a line the kernel printed.
* `mem_opened_iff`: after a successful poll, the reader of the events has the end points of the
  connections the poll followed.
* `replay_refines_snapshot`: these are end points of connections of the snapshot that do not
  listen, and all of those in a state the observer knows; a failed poll changes nothing.
* `merged`: two IPv6 connections may have the same end points.
-/

namespace Paryty.Agent.ProcFallback

open Lib.Text

/-! ## Reading what the kernel prints -/

/-- The word of an address that the observer keeps. -/
def Address.key : Address → UInt32
  | .v4 word => word
  | .v6 _ _ _ word₃ => word₃

/-- The key of a connection. -/
def Connection.key (c : Connection) : ConnectionKey :=
  ⟨c.localAddr.key, c.localPort, c.remAddr.key, c.remPort⟩

lemma splitOnce_append {c : Char} {s : List Char} (h : c ∉ s) (rest : List Char) :
    splitOnce c (s ++ c :: rest) = some (s, rest) := by
  have hne : ∀ a ∈ s, decide (a ≠ c) = true := by
    intro a ha
    rw [decide_eq_true_eq]
    rintro rfl
    exact h ha
  rw [splitOnce, List.dropWhile_append_of_pos hne, List.takeWhile_append_of_pos hne]
  simp

lemma u32FromHex_hex (n : UInt32) : u32FromHex (hex 8 n.toNat) = some n := by
  rw [u32FromHex, fromStrRadix16_hex (by decide) n.toNat_lt n.toNat_lt]
  simp

lemma u16FromHex_hex (n : UInt16) : u16FromHex (hex 4 n.toNat) = some n := by
  rw [u16FromHex, fromStrRadix16_hex (by decide) n.toNat_lt n.toNat_lt]
  simp

lemma colon_not_mem_hex (width n : ℕ) : ':' ∉ hex width n := fun h =>
  absurd (isSome_digit16_of_mem_hex h) (by decide)

lemma colon_not_mem_text (address : Address) : ':' ∉ address.text := by
  cases address <;> simp [Address.text, colon_not_mem_hex]

/-- The parser reads the address and the port that were printed, but for the first three words of
an IPv6 address. -/
theorem parseAddress_addressText (address : Address) (port : UInt16) :
    parseAddress (Socket.addressText address port) = some (address.key, port) := by
  rw [parseAddress, Socket.addressText, splitOnce_append (colon_not_mem_text address)]
  cases address with
  | v4 word => simp [u16FromHex_hex, Address.text, Address.key, u32FromHex_hex]
  | v6 word₀ word₁ word₂ word₃ =>
    have hsegment : ((Address.v6 word₀ word₁ word₂ word₃).text.drop 24).take 8 =
        hex 8 word₃.toNat := by
      rw [Address.text, List.drop_append, List.drop_of_length_le (by simp)]
      simp
    simp [u16FromHex_hex, hsegment, u32FromHex_hex, Address.key]
    simp [Address.text]

lemma isWord_append {s t : List Char} (hs : IsWord s) (ht : ∀ c ∈ t, c.isWhitespace = false) :
    IsWord (s ++ t) := by
  refine ⟨by simp [hs.ne_nil], fun c hc => ?_⟩
  rcases List.mem_append.mp hc with hc | hc
  · exact hs.not_isWhitespace c hc
  · exact ht c hc

lemma isWord_toDigits (n : ℕ) : IsWord (Nat.toDigits 10 n) := by
  refine ⟨Nat.toDigits_ne_nil, fun c hc => ?_⟩
  have hdigit := Nat.isDigit_of_mem_toDigits (by decide) (by decide) hc
  cases hblank : c.isWhitespace with
  | false => rfl
  | true =>
    have hcases : c = ' ' ∨ c = '\t' ∨ c = '\r' ∨ c = '\n' := by
      simpa [Char.isWhitespace, or_assoc] using hblank
    rcases hcases with rfl | rfl | rfl | rfl <;> exact absurd hdigit (by decide)

lemma isWord_text (address : Address) : IsWord address.text := by
  have hword (n : ℕ) : IsWord (hex 8 n) := isWord_hex (by decide)
  cases address with
  | v4 word => exact hword _
  | v6 word₀ word₁ word₂ word₃ =>
    exact isWord_append (isWord_append (isWord_append (hword _) (hword _).not_isWhitespace)
      (hword _).not_isWhitespace) (hword _).not_isWhitespace

lemma isWord_addressText (address : Address) (port : UInt16) :
    IsWord (Socket.addressText address port) := by
  refine isWord_append (isWord_text address) fun c hc => ?_
  rcases List.mem_cons.mp hc with rfl | hc
  · decide
  · exact (isWord_hex (by decide : 0 < 4)).not_isWhitespace c hc

lemma isWord_of_mem_columns {s : Socket} {w : List Char} (hw : w ∈ s.columns) : IsWord w := by
  rcases List.mem_append.mp hw with hw | hw
  · simp only [List.mem_cons, List.not_mem_nil, or_false] at hw
    rcases hw with rfl | rfl | rfl | rfl | rfl | rfl | rfl | rfl | rfl | rfl
    · refine isWord_append (isWord_toDigits _) fun c hc => ?_
      rw [List.mem_singleton.mp hc]
      decide
    · exact isWord_addressText _ _
    · exact isWord_addressText _ _
    · exact isWord_hex (by decide)
    · exact s.queues.isWord
    · exact s.timer.isWord
    · exact s.retransmits.isWord
    · exact s.uid.isWord
    · exact s.timeout.isWord
    · exact isWord_toDigits _
  · obtain ⟨column, -, rfl⟩ := List.mem_map.mp hw
    exact column.isWord

lemma words_line (s : Socket) : words s.line = s.columns := by
  rw [Socket.line, words_blanks, words_intercalate fun w hw => isWord_of_mem_columns hw]

lemma not_mem_line (s : Socket) : '\n' ∉ s.line ∧ '\r' ∉ s.line := by
  have hblank {c : Char} (hc : c ∈ s.line) : c = ' ' ∨ c.isWhitespace = false := by
    rcases List.mem_append.mp hc with hc | hc
    · exact .inl (List.eq_of_mem_replicate hc)
    · rcases mem_intercalate hc with hc | ⟨w, hw, hc⟩
      · exact .inl hc
      · exact .inr ((isWord_of_mem_columns hw).not_isWhitespace c hc)
  constructor
  · intro h
    rcases hblank h with h | h <;> exact absurd h (by decide)
  · intro h
    rcases hblank h with h | h <;> exact absurd h (by decide)

lemma lines_fileText (sockets : List Socket) :
    lines (fileText sockets) = header :: sockets.map Socket.line := by
  refine lines_intercalate fun l hl => ?_
  rcases List.mem_cons.mp hl with rfl | hl
  · decide +kernel
  · obtain ⟨s, -, rfl⟩ := List.mem_map.mp hl
    exact not_mem_line s

namespace Socket

/-- The name of the socket's state, if the observer has one. -/
def stateName (s : Socket) : Option String := tcpStateFromHex (hex 2 s.state.toNat)

/-- The observer follows the socket: its state has a name other than `LISTEN`, and its addresses
are not excluded. -/
def Followed (cfg : EbpfConfig) (s : Socket) : Prop :=
  ∃ state, s.stateName = some state ∧ state ≠ "LISTEN" ∧ admits cfg s.connection.key = true

/-- What the observer remembers of a socket in the given state. -/
def entry (resolve : Resolver) (s : Socket) (state : String) : ConnectionKey × ConnectionState :=
  let found := resolve (inodeOf (Nat.toDigits 10 s.inode))
  (s.connection.key, ⟨state, found.1, if found.1 > 0 then found.2 else ""⟩)

end Socket

lemma parseLine_line (cfg : EbpfConfig) (resolve : Resolver) (s : Socket) :
    parseLine cfg resolve s.line = s.stateName.bind fun state =>
      if state ≠ "LISTEN" ∧ admits cfg s.connection.key = true then
        some (s.entry resolve state)
      else none := by
  have hlength : ¬ s.columns.length < 10 := by simp [Socket.columns]
  have hlocal := parseAddress_addressText s.connection.localAddr s.connection.localPort
  have hremote := parseAddress_addressText s.connection.remAddr s.connection.remPort
  rw [parseLine, words_line, if_neg hlength]
  simp only [Socket.columns, List.cons_append, List.nil_append, List.getD_cons_succ,
    List.getD_cons_zero, hlocal, hremote, Socket.stateName]
  cases tcpStateFromHex (hex 2 s.state.toNat) with
  | none => rfl
  | some state =>
    have hkey : s.connection.key = ⟨s.connection.localAddr.key, s.connection.localPort,
      s.connection.remAddr.key, s.connection.remPort⟩ := rfl
    by_cases hlisten : state = "LISTEN"
    · simp [hlisten]
    · simp [hlisten, Socket.entry, hkey]

lemma mem_entries {cfg : EbpfConfig} {resolve : Resolver} {sockets : List Socket}
    {e : ConnectionKey × ConnectionState} :
    e ∈ ((lines (fileText sockets)).drop 1).filterMap (parseLine cfg resolve) ↔
      ∃ s ∈ sockets, ∃ state, s.stateName = some state ∧ state ≠ "LISTEN" ∧
        admits cfg s.connection.key = true ∧ e = s.entry resolve state := by
  rw [lines_fileText, List.drop_one, List.tail_cons, List.filterMap_map, List.mem_filterMap]
  refine exists_congr fun s => and_congr_right fun _ => ?_
  rw [Function.comp_apply, parseLine_line, Option.bind_eq_some_iff]
  refine exists_congr fun state => and_congr_right fun _ => ?_
  rw [Option.ite_none_right_eq_some, and_assoc, Option.some.injEq]
  exact and_congr_right fun _ => and_congr_right fun _ => eq_comm

lemma hasKey_parseProcTcp {cfg : EbpfConfig} {resolve : Resolver} {sockets : List Socket}
    {out : Connections} {k : ConnectionKey} :
    (parseProcTcp cfg resolve (fileText sockets) out).HasKey k ↔
      out.HasKey k ∨ ∃ s ∈ sockets, s.Followed cfg ∧ s.connection.key = k := by
  rw [parseProcTcp, Lib.Table.hasKey_foldl_put]
  refine or_congr_right ?_
  constructor
  · rintro ⟨e, he, rfl⟩
    obtain ⟨s, hs, state, hname, hlisten, hadmits, rfl⟩ := mem_entries.mp he
    exact ⟨s, hs, ⟨state, hname, hlisten, hadmits⟩, rfl⟩
  · rintro ⟨s, hs, ⟨state, hname, hlisten, hadmits⟩, rfl⟩
    exact ⟨s.entry resolve state, mem_entries.mpr ⟨s, hs, state, hname, hlisten, hadmits, rfl⟩, rfl⟩

/-- The observer remembers open connections only. -/
def Open (connections : Connections) : Prop :=
  ∀ e ∈ connections, e.2.state ≠ "LISTEN" ∧ e.2.state ≠ "CLOSED"

lemma ite_ne_some {p : Prop} [Decidable p] {name other : String} {rest : Option String}
    (hname : name ≠ other) (hrest : rest ≠ some other) :
    (if p then some name else rest) ≠ some other := by
  split
  · exact fun h => hname (Option.some.inj h)
  · exact hrest

lemma ne_closed_of_tcpStateFromHex {text : List Char} {state : String}
    (h : tcpStateFromHex text = some state) : state ≠ "CLOSED" := by
  rintro rfl
  refine absurd h ?_
  unfold tcpStateFromHex
  iterate 10 refine ite_ne_some (by decide) ?_
  exact nofun

lemma open_parseProcTcp {cfg : EbpfConfig} {resolve : Resolver} {sockets : List Socket}
    {out : Connections} (hout : Open out) :
    Open (parseProcTcp cfg resolve (fileText sockets) out) := by
  intro e he
  rcases Lib.Table.mem_or_mem_of_mem_foldl_put he with he | he
  · exact hout e he
  · obtain ⟨s, -, state, hname, hlisten, -, rfl⟩ := mem_entries.mp he
    exact ⟨hlisten, ne_closed_of_tcpStateFromHex hname⟩

/-! ## End points -/

lemma toDigits_injective {m n : ℕ} (h : Nat.toDigits 10 m = Nat.toDigits 10 n) : m = n := by
  have hvalue := congrArg (fun digits => Nat.ofDigitChars 10 digits 0) h
  simpa only [Nat.ofDigitChars_ten_toDigits] using hvalue

lemma dot_not_mem_toDigits (n : ℕ) : '.' ∉ Nat.toDigits 10 n := fun h =>
  absurd (Nat.isDigit_of_mem_toDigits (by decide) (by decide) h) (by decide)

lemma toNeBytes_injective {bigEndian : Bool} {ip ip' : UInt32}
    (h : toNeBytes bigEndian ip = toNeBytes bigEndian ip') : ip = ip' := by
  have hlittle : toNeBytes false ip = toNeBytes false ip' := by
    cases bigEndian with
    | false => exact h
    | true => exact List.reverse_injective h
  simp only [toNeBytes, Bool.false_eq_true, if_false, List.cons.injEq, and_true] at hlittle
  apply UInt32.toNat_inj.mp
  omega

lemma formatIP_injective {cfg : EbpfConfig} {ip ip' : UInt32}
    (h : formatIP cfg ip = formatIP cfg ip') : ip = ip' := by
  have hdots (ip : UInt32) : (['.'].intercalate
      ((toNeBytes cfg.bigEndian ip).map (Nat.toDigits 10))).splitOn '.' =
        (toNeBytes cfg.bigEndian ip).map (Nat.toDigits 10) := by
    refine List.splitOn_intercalate _ (fun l hl => ?_) ?_
    · obtain ⟨n, -, rfl⟩ := List.mem_map.mp hl
      exact dot_not_mem_toDigits n
    · cases hbig : cfg.bigEndian <;> simp [toNeBytes]
  have hlists := congrArg (fun text => text.splitOn '.') (String.ofList_injective h)
  simp only [hdots] at hlists
  exact toNeBytes_injective (List.map_injective_iff.mpr (fun _ _ => toDigits_injective) hlists)

/-- The end points of a key. -/
def ConnectionKey.endpoints (cfg : EbpfConfig) (key : ConnectionKey) : Endpoints :=
  ⟨formatIP cfg key.srcIP, key.srcPort, formatIP cfg key.dstIP, key.dstPort⟩

/-- The end points of a connection. -/
def Connection.endpoints (cfg : EbpfConfig) (c : Connection) : Endpoints := c.key.endpoints cfg

lemma endpoints_injective {cfg : EbpfConfig} {key key' : ConnectionKey}
    (h : key.endpoints cfg = key'.endpoints cfg) : key = key' := by
  obtain ⟨hsrc, hsrcPort, hdst, hdstPort⟩ := Endpoints.mk.inj h
  obtain ⟨srcIP, srcPort, dstIP, dstPort⟩ := key
  obtain rfl := formatIP_injective hsrc
  obtain rfl := formatIP_injective hdst
  obtain rfl : srcPort = key'.srcPort := hsrcPort
  obtain rfl : dstPort = key'.dstPort := hdstPort
  rfl

/-! ## Replaying the events -/

lemma mem_replay_opened {cfg : EbpfConfig} {l : List (ConnectionKey × ConnectionState)}
    (hl : ∀ e ∈ l, e.2.state ≠ "CLOSED") (S : Finset Endpoints) (x : Endpoints) :
    x ∈ (l.map fun e => tcpConnection cfg e.1 e.2.state e.2.pid e.2.processName).foldl replay S ↔
      x ∈ S ∨ ∃ e ∈ l, e.1.endpoints cfg = x := by
  induction l generalizing S with
  | nil => simp
  | cons e l ih =>
    have hopen : (tcpConnection cfg e.1 e.2.state e.2.pid e.2.processName).state ≠ "CLOSED" :=
      hl e List.mem_cons_self
    rw [List.map_cons, List.foldl_cons, ih fun e' he' => hl e' (List.mem_cons_of_mem _ he'),
      replay, if_neg hopen, Finset.mem_insert, List.exists_mem_cons_iff, ← or_assoc]
    refine or_congr_left ?_
    rw [or_comm]
    exact or_congr_right eq_comm

lemma mem_replay_closed {cfg : EbpfConfig} (l : List (ConnectionKey × ConnectionState))
    (S : Finset Endpoints) (x : Endpoints) :
    x ∈ (l.map fun e => tcpConnection cfg e.1 "CLOSED" e.2.pid e.2.processName).foldl replay S ↔
      x ∈ S ∧ ∀ e ∈ l, e.1.endpoints cfg ≠ x := by
  induction l generalizing S with
  | nil => simp
  | cons e l ih =>
    have hclosed : (tcpConnection cfg e.1 "CLOSED" e.2.pid e.2.processName).state = "CLOSED" := rfl
    rw [List.map_cons, List.foldl_cons, ih, replay, if_pos hclosed, Finset.mem_erase,
      List.forall_mem_cons, and_comm (a := x ≠ _), and_assoc]
    exact and_congr_right fun _ => and_congr_left fun _ => ne_comm

lemma mem_gone {old new : Connections} (hopen : Open new)
    {e : ConnectionKey × ConnectionState} : e ∈ gone new old ↔ e ∈ new ∧ ¬ old.HasKey e.1 := by
  rw [gone, List.mem_filter, Lib.Table.mem_added]
  constructor
  · exact And.left
  · exact fun h => ⟨h, by simpa using (hopen e h.1).1⟩

/-- The reader has exactly the end points that the observer remembers. -/
def Mirrors (cfg : EbpfConfig) (connections : Connections) (opened : Finset Endpoints) : Prop :=
  ∀ x, x ∈ opened ↔ ∃ key, connections.HasKey key ∧ key.endpoints cfg = x

/-- The events of a poll bring the reader from the old connections to the new ones. -/
theorem mirrors_diff {cfg : EbpfConfig} {prev current : Connections} {opened : Finset Endpoints}
    (hprev : Open prev) (hcurrent : Open current) (h : Mirrors cfg prev opened) :
    Mirrors cfg current ((diff cfg prev current).foldl replay opened) := by
  intro x
  rw [diff, List.foldl_append, mem_replay_closed,
    mem_replay_opened fun e he => (hcurrent e ((mem_gone hcurrent).mp he).1).2, h]
  constructor
  · rintro ⟨⟨key, hkey, rfl⟩ | ⟨e, he, rfl⟩, hclosed⟩
    · -- An old connection that no event closed is still there.
      by_cases hnew : current.HasKey key
      · exact ⟨key, hnew, rfl⟩
      · obtain ⟨e, he, rfl⟩ := hkey
        exact absurd rfl (hclosed e ((mem_gone hprev).mpr ⟨he, hnew⟩))
    · exact ⟨e.1, Lib.Table.hasKey_of_mem ((mem_gone hcurrent).mp he).1, rfl⟩
  · rintro ⟨key, hkey, rfl⟩
    constructor
    · by_cases hold : prev.HasKey key
      · exact .inl ⟨key, hold, rfl⟩
      · obtain ⟨e, he, rfl⟩ := hkey
        exact .inr ⟨e, (mem_gone hcurrent).mpr ⟨he, hold⟩, rfl⟩
    · intro e he heq
      obtain rfl := endpoints_injective heq
      exact ((mem_gone hprev).mp he).2 hkey

/-! ## Runs -/

namespace State

variable {cfg : EbpfConfig} {s : State} {snap : Snapshot}

/-- What holds after every poll. -/
structure Inv (cfg : EbpfConfig) (s : State) : Prop where
  openConnections : Open s.prevConnections
  mirrors : Mirrors cfg s.prevConnections s.opened

lemma Inv.init : Inv cfg {} := by
  constructor
  · exact fun e he => absurd he Lib.Table.not_mem_empty
  · intro x
    simp [Lib.Table.HasKey, Lib.Table.empty]

lemma poll_of_unreadable (h : snap.tcp = none ∨ snap.tcp6 = none) :
    s.poll cfg snap = (s.prevConnections, none) := by
  rcases h with h | h
  · simp [poll, collect, h]
  · cases htcp : snap.tcp <;> simp [poll, collect, h, htcp]

lemma poll_of_readable (cfg : EbpfConfig) (s : State) {tcp tcp6 : List Socket}
    (htcp : snap.tcp = some tcp) (htcp6 : snap.tcp6 = some tcp6) :
    ∃ current, s.poll cfg snap = (current, some (diff cfg s.prevConnections current)) ∧
      Open current ∧
        ∀ k, current.HasKey k ↔ ∃ s ∈ tcp ++ tcp6, s.Followed cfg ∧ s.connection.key = k := by
  refine ⟨parseProcTcp cfg snap.resolve (fileText tcp6)
    (parseProcTcp cfg snap.resolve (fileText tcp) .empty), ?_, ?_, fun k => ?_⟩
  · simp [poll, collect, htcp, htcp6]
  · exact open_parseProcTcp (open_parseProcTcp fun e he => absurd he Lib.Table.not_mem_empty)
  · rw [hasKey_parseProcTcp, hasKey_parseProcTcp]
    simp [Lib.Table.HasKey, Lib.Table.empty, or_and_right, exists_or]

lemma Inv.next (h : Inv cfg s) (snap : Snapshot) : Inv cfg (s.next cfg snap) := by
  by_cases hread : snap.tcp = none ∨ snap.tcp6 = none
  · constructor
    · rw [State.next, poll_of_unreadable hread]
      exact h.openConnections
    · rw [State.next, poll_of_unreadable hread]
      exact h.mirrors
  · rw [not_or, ← ne_eq, ← ne_eq, Option.ne_none_iff_exists', Option.ne_none_iff_exists'] at hread
    obtain ⟨⟨tcp, htcp⟩, tcp6, htcp6⟩ := hread
    obtain ⟨current, hpoll, hopen, -⟩ := poll_of_readable cfg s htcp htcp6
    constructor
    · rw [State.next, hpoll]
      exact hopen
    · rw [State.next, hpoll]
      exact mirrors_diff h.openConnections hopen h.mirrors

lemma Inv.run (h : Inv cfg s) (snaps : List Snapshot) : Inv cfg (snaps.foldl (State.next cfg) s) := by
  induction snaps generalizing s with
  | nil => exact h
  | cons snap snaps ih => exact ih (h.next snap)

/-- After a successful poll of any run, the reader has the end points of the followed
connections of the snapshot. -/
theorem mem_opened_iff (cfg : EbpfConfig) (snaps : List Snapshot) {snap : Snapshot}
    {tcp tcp6 : List Socket} (htcp : snap.tcp = some tcp) (htcp6 : snap.tcp6 = some tcp6)
    (x : Endpoints) :
    x ∈ ((snaps ++ [snap]).foldl (State.next cfg) {}).opened ↔
      ∃ s ∈ tcp ++ tcp6, s.Followed cfg ∧ s.connection.endpoints cfg = x := by
  rw [List.foldl_concat]
  have hinv : Inv cfg (snaps.foldl (State.next cfg) {}) := Inv.init.run snaps
  obtain ⟨current, hpoll, -, hkeys⟩ := poll_of_readable cfg (snaps.foldl (State.next cfg) {})
    htcp htcp6
  have hcurrent : ((snaps.foldl (State.next cfg) {}).next cfg snap).prevConnections = current := by
    rw [State.next, hpoll]
  rw [(hinv.next snap).mirrors x, hcurrent]
  constructor
  · rintro ⟨key, hkey, rfl⟩
    obtain ⟨s, hs, hfollowed, rfl⟩ := (hkeys key).mp hkey
    exact ⟨s, hs, hfollowed, rfl⟩
  · rintro ⟨s, hs, hfollowed, rfl⟩
    exact ⟨s.connection.key, (hkeys _).mpr ⟨s, hs, hfollowed, rfl⟩, rfl⟩

end State

/-! ### The states -/

/-- The states from `ESTABLISHED` to the ninth have names. -/
lemma stateName_of_le {s : Socket} (hlow : 1 ≤ s.state.toNat) (hhigh : s.state.toNat ≤ 9) :
    ∃ state, s.stateName = some state ∧ state ≠ "LISTEN" := by
  have hall : ∀ n : Fin 10, 1 ≤ n.val → ∃ state, tcpStateFromHex (hex 2 n) = some state ∧
      state ≠ "LISTEN" := by decide
  exact hall ⟨s.state.toNat, by omega⟩ hlow

/-- The kernel's number of `LISTEN`. -/
def tcpListen : ℕ := 10

lemma ne_tcpListen_of_followed {cfg : EbpfConfig} {s : Socket} (h : s.Followed cfg) :
    s.state.toNat ≠ tcpListen := by
  intro heq
  obtain ⟨state, hname, hlisten, -⟩ := h
  rw [Socket.stateName, heq] at hname
  have hten : tcpStateFromHex (hex 2 tcpListen) = some "LISTEN" := by decide
  exact hlisten (Option.some.inj (hname.symm.trans hten))

/-! ### The event log and the tables -/

/-- What a poll in the given state does: after a successful one the reader has the end points of
all connections that are in a named state and not excluded, and only such of connections that do
not listen and are not excluded; a failed one changes nothing and emits nothing. -/
structure Refines (cfg : EbpfConfig) (s : State) (snap : Snapshot) : Prop where
  complete : ∀ tcp tcp6, snap.tcp = some tcp → snap.tcp6 = some tcp6 →
    ∀ socket ∈ tcp ++ tcp6, 1 ≤ socket.state.toNat → socket.state.toNat ≤ 9 →
      admits cfg socket.connection.key = true →
        socket.connection.endpoints cfg ∈ (s.next cfg snap).opened
  sound : ∀ tcp tcp6, snap.tcp = some tcp → snap.tcp6 = some tcp6 →
    ∀ x ∈ (s.next cfg snap).opened, ∃ socket ∈ tcp ++ tcp6, socket.state.toNat ≠ tcpListen ∧
      admits cfg socket.connection.key = true ∧ socket.connection.endpoints cfg = x
  failed : snap.tcp = none ∨ snap.tcp6 = none →
    s.poll cfg snap = (s.prevConnections, none) ∧ s.next cfg snap = s

/-- A connection over IPv4. -/
def Connection.IsV4 (c : Connection) : Prop :=
  ∃ localWord remWord, c.localAddr = .v4 localWord ∧ c.remAddr = .v4 remWord

lemma eq_of_key_eq {c c' : Connection} (hc : c.IsV4) (hc' : c'.IsV4) (h : c.key = c'.key) :
    c = c' := by
  obtain ⟨localAddr, localPort, remAddr, remPort⟩ := c
  obtain ⟨localAddr', localPort', remAddr', remPort'⟩ := c'
  obtain ⟨localWord, remWord, hlocal, hrem⟩ := hc
  obtain ⟨localWord', remWord', hlocal', hrem'⟩ := hc'
  simp only at hlocal hrem hlocal' hrem'
  subst hlocal hrem hlocal' hrem'
  simpa [Connection.key, Address.key, and_assoc] using h

/-- **The event log refines the tables.** For every configuration and every sequence of snapshots,
each poll relates the events to its snapshot as `Refines` says. Connections have the same end
points exactly if their ports and the last words of their addresses agree; over IPv4 they are then
the same connection. -/
theorem replay_refines (cfg : EbpfConfig) (snaps : List Snapshot) (snap : Snapshot) :
    Refines cfg (snaps.foldl (State.next cfg) {}) snap ∧
      (∀ c c' : Connection, c.endpoints cfg = c'.endpoints cfg ↔ c.key = c'.key) ∧
        ∀ c c' : Connection, c.IsV4 → c'.IsV4 → c.endpoints cfg = c'.endpoints cfg → c = c' := by
  have hendpoints (c c' : Connection) : c.endpoints cfg = c'.endpoints cfg ↔ c.key = c'.key :=
    ⟨endpoints_injective, fun h => by rw [Connection.endpoints, Connection.endpoints, h]⟩
  refine ⟨?_, hendpoints, fun c c' hc hc' h => eq_of_key_eq hc hc' ((hendpoints c c').mp h)⟩
  constructor
  · intro tcp tcp6 htcp htcp6 socket hsocket hlow hhigh hadmits
    obtain ⟨state, hname, hlisten⟩ := stateName_of_le hlow hhigh
    have hmem := State.mem_opened_iff cfg snaps htcp htcp6 (socket.connection.endpoints cfg)
    rw [List.foldl_concat] at hmem
    exact hmem.mpr ⟨socket, hsocket, ⟨state, hname, hlisten, hadmits⟩, rfl⟩
  · intro tcp tcp6 htcp htcp6 x hx
    have hmem := State.mem_opened_iff cfg snaps htcp htcp6 x
    rw [List.foldl_concat] at hmem
    obtain ⟨socket, hsocket, hfollowed, hx⟩ := hmem.mp hx
    have hadmits := hfollowed
    obtain ⟨-, -, -, hadmits⟩ := hadmits
    exact ⟨socket, hsocket, ne_tcpListen_of_followed hfollowed, hadmits, hx⟩
  · intro hunreadable
    have hpoll : (snaps.foldl (State.next cfg) {}).poll cfg snap = (_, none) :=
      State.poll_of_unreadable hunreadable
    exact ⟨hpoll, by rw [State.next, hpoll]; rfl⟩

/-! ### Two IPv6 connections -/

/-- A column with a zero. -/
def zero : Column := ⟨['0'], isWord_toDigits 0⟩

/-- An established connection. -/
def established (slot : ℕ) (c : Connection) : Socket :=
  ⟨slot, c, 1, zero, zero, zero, zero, zero, 0, []⟩

/-- To a server, from a host. -/
def firstV6 : Connection := ⟨.v6 1 0 0 16777216, 50000, .v6 2 0 0 16777216, 443⟩

/-- To the same port of the same server, from a host in another network. -/
def secondV6 : Connection := ⟨.v6 3 0 0 16777216, 50000, .v6 2 0 0 16777216, 443⟩

/-- Both connections are open. -/
def bothV6 : Snapshot where
  tcp := some []
  tcp6 := some [established 0 firstV6, established 1 secondV6]
  resolve := fun _ => (0, "")

/-- However the events name connections, they do not say that both of them are open. -/
theorem merged : ¬ ∃ name : Connection → Endpoints,
    (∀ c ∈ [firstV6, secondV6], ∀ c' ∈ [firstV6, secondV6], name c = name c' → c = c') ∧
      ∀ x, x ∈ (State.next {} {} bothV6).opened ↔ ∃ c ∈ [firstV6, secondV6], name c = x := by
  rintro ⟨name, hinjective, hopened⟩
  have hone {x : Endpoints} (hx : x ∈ (State.next {} {} bothV6).opened) :
      x = firstV6.endpoints {} := by
    obtain ⟨socket, hsocket, -, rfl⟩ := (State.mem_opened_iff {} [] rfl rfl x).mp hx
    simp only [List.nil_append, List.mem_cons, List.not_mem_nil, or_false] at hsocket
    rcases hsocket with rfl | rfl <;> rfl
  have hfirst := hone ((hopened (name firstV6)).mpr ⟨firstV6, by simp, rfl⟩)
  have hsecond := hone ((hopened (name secondV6)).mpr ⟨secondV6, by simp, rfl⟩)
  exact absurd (hinjective firstV6 (by simp) secondV6 (by simp) (hfirst.trans hsecond.symm))
    (by decide)

end Paryty.Agent.ProcFallback

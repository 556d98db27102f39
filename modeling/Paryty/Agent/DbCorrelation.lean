import Mathlib.Data.List.Forall2
import Paryty.Agent.DbInspector
import Paryty.Lib.Run

/-!
# Requests, responses and the events made of them

Segments of any number of connections reach the inspector in any order. What a segment means is
known to the two ends of its connection: which requests the client starts in it, or which answers
of the server end in it. A server answers the requests of a connection in order.

* `State.answers`: the requests a segment answers.
* `Correlated`: the events are, one for one, those of the answered requests.
* `Traceable`: the segment is one that the inspector can attribute.
* `correlated_iff`: the events are right throughout a run exactly if every segment is traceable.
* `mixed_up`: two connections of one process, and an `Execute` message.

The inspector sees neither the port of the client nor the direction of a segment.
-/

namespace Paryty.Agent.Db

open Lib.RustString

/-! ## Traffic -/

/-- A connection to a database, from the process that holds it. -/
structure Connection where
  pid : UInt32
  srcIP : UInt32
  srcPort : UInt16
  dstIP : UInt32
  dstPort : UInt16
deriving DecidableEq

/-- The process and the port of the database. -/
abbrev Connection.socket (c : Connection) : UInt32 × UInt16 := (c.pid, c.dstPort)

/-- A request, as an event describes it. -/
structure Request where
  query : String
  queryType : String
deriving DecidableEq

/-- What a segment means to the two ends. -/
inductive Meaning
  /-- The requests the client starts in it. -/
  | client (requests : List Request)
  /-- The answers of the server that end in it: whether each of them is an error. -/
  | server (errors : List Bool)
deriving DecidableEq

/-- A captured segment, and the time since the segment before. -/
structure Segment where
  wait : ℕ
  connection : Connection
  processName : String
  payload : List UInt8
  meaning : Meaning
deriving DecidableEq

/-- The arguments the inspector is called with. -/
def Segment.capture (seg : Segment) : Capture where
  payload := seg.payload
  port := seg.connection.dstPort
  pid := seg.connection.pid
  processName := seg.processName
  srcIP := seg.connection.srcIP
  dstIP := seg.connection.dstIP

/-- What the inspector takes the segment for. -/
def Segment.takenFor (seg : Segment) : Action :=
  match detectProtocol seg.payload seg.connection.dstPort with
  | .postgreSQL => parsePostgresql seg.payload
  | .mySQL => parseMysql seg.payload
  | .redis => parseRedis seg.payload
  | _ => .pass

/-- A request and when it was sent. -/
structure Asked where
  request : Request
  start : ℕ
deriving DecidableEq

/-- A request and the answer to it. -/
structure Answered where
  connection : Connection
  asked : Asked
  isError : Bool
  time : ℕ
deriving DecidableEq

/-- The inspector, the ends of the connections, and what became of the requests. -/
structure State where
  clock : ℕ := 0
  inspector : DbInspector := {}
  /-- The requests of a connection that wait for their answers. -/
  waiting : Connection → List Asked := fun _ => []
  /-- Of each process and port, the last segment that was not passed over: when it was seen, and
  what it was taken for. -/
  latest : UInt32 × UInt16 → Option (ℕ × Action) := fun _ => none
  answered : List Answered := []
  /-- The events, but for the notices that a connection is encrypted. -/
  events : List DbQueryEvent := []

namespace State

/-- When a segment is seen. -/
def seenAt (s : State) (seg : Segment) : ℕ := s.clock + seg.wait

/-- The requests that a segment answers. -/
def answers (s : State) (seg : Segment) : List Answered :=
  match seg.meaning with
  | .client _ => []
  | .server errors =>
    (List.zip (s.waiting seg.connection) errors).map
      (fun (asked, isError) => ⟨seg.connection, asked, isError, s.seenAt seg⟩)

/-- The requests of the segment's connection that wait after the segment. -/
def waitingAfter (s : State) (seg : Segment) : List Asked :=
  match seg.meaning with
  | .client requests =>
    s.waiting seg.connection ++ requests.map (fun request => ⟨request, s.seenAt seg⟩)
  | .server errors => (s.waiting seg.connection).drop errors.length

/-- The last segment of its process and port that was not passed over, after the segment. -/
def latestAfter (s : State) (seg : Segment) : Option (ℕ × Action) :=
  if seg.takenFor = .pass then s.latest seg.connection.socket
  else some (s.seenAt seg, seg.takenFor)

/-- The event the inspector emits on a segment, but for the notice that it is encrypted. -/
def emits (s : State) (seg : Segment) : List DbQueryEvent :=
  (s.inspector.inspect (s.seenAt seg) seg.capture).2.toList.filter (fun e => !e.isEncrypted)

/-- A segment passes. -/
def next (s : State) (seg : Segment) : State where
  clock := s.seenAt seg
  inspector := (s.inspector.inspect (s.seenAt seg) seg.capture).1
  waiting := Function.update s.waiting seg.connection (s.waitingAfter seg)
  latest := Function.update s.latest seg.connection.socket (s.latestAfter seg)
  answered := s.answered ++ s.answers seg
  events := s.events ++ s.emits seg

end State

/-- The event is that of the answered request: it carries its query, its operation and the time
since its start, it names its connection, and it has an error only if the answer is one. -/
structure Reports (a : Answered) (e : DbQueryEvent) : Prop where
  query : e.query = a.asked.request.query
  queryType : e.queryType = a.asked.request.queryType
  latency : e.latency = a.time - a.asked.start
  pid : e.pid = a.connection.pid
  sourceIP : e.sourceIP = formatIP a.connection.srcIP
  destinationIP : e.destinationIP = formatIP a.connection.dstIP
  destinationPort : e.destinationPort = a.connection.dstPort
  error : e.errorMessage ≠ "" → a.isError = true

/-- The events are, one for one, those of the answered requests. -/
def Correlated (s : State) : Prop := List.Forall₂ Reports s.answered s.events

/-- The request that the last segment of the process and port was taken for, if it was one. -/
def State.recorded (s : State) (seg : Segment) : Option Asked :=
  match s.latest seg.connection.socket with
  | some (start, .request _ query queryType _) => some ⟨⟨query, queryType⟩, start⟩
  | _ => none

/-- What the blank event of a response without a request describes. -/
def State.blank (s : State) (seg : Segment) : Asked := ⟨⟨"", "COMMAND"⟩, s.seenAt seg⟩

/-- The segment answers the given request and no other, and is an error if there is an error
text. -/
def State.AnswersOnly (s : State) (seg : Segment) (asked : Asked) (errorMessage : String) : Prop :=
  ∃ isError, s.answers seg = [⟨seg.connection, asked, isError, s.seenAt seg⟩] ∧
    (errorMessage ≠ "" → isError = true)

/-- The inspector can attribute the segment. One that is taken for a response answers one request,
and the last segment of the process and port, of those not passed over, was taken for just that
request. Others answer nothing. -/
def Traceable (s : State) (seg : Segment) : Prop :=
  match seg.takenFor with
  | .pass => s.answers seg = []
  | .request _ _ _ _ => s.answers seg = []
  | .answer _ _ errorMessage =>
    s.AnswersOnly seg ((s.recorded seg).getD (s.blank seg)) errorMessage
  | .answerPending _ _ errorMessage =>
    match s.recorded seg with
    | none => s.answers seg = []
    | some asked => s.AnswersOnly seg asked errorMessage

/-! ## What the inspector does with a segment -/

/-- The entry that an action leaves in the map. -/
def Action.entry (now : ℕ) : Action → Option PendingRequest
  | .request protocol query queryType tableName =>
    some ⟨now, protocol, query, queryType, tableName⟩
  | _ => none

/-- The request an entry stands for. -/
def PendingRequest.asked (req : PendingRequest) : Asked := ⟨⟨req.query, req.queryType⟩, req.sentAt⟩

lemma toNat_socketKey (pid : UInt32) (port : UInt16) :
    (socketKey pid port).toNat = pid.toNat * 65536 + port.toNat := by
  have hpid : pid.toNat < 4294967296 := pid.toNat_lt
  have hport : port.toNat < 2 ^ 16 := port.toNat_lt
  have hshift : (pid.toUInt64 <<< 16).toNat = pid.toNat <<< 16 := by
    rw [UInt64.toNat_shiftLeft, UInt32.toNat_toUInt64]
    have hsmall : pid.toNat <<< 16 < 2 ^ 64 := by
      rw [Nat.shiftLeft_eq]
      omega
    exact Nat.mod_eq_of_lt hsmall
  rw [socketKey, UInt64.toNat_or, hshift, UInt16.toNat_toUInt64,
    ← Nat.shiftLeft_add_eq_or_of_lt hport, Nat.shiftLeft_eq]

lemma socketKey_inj {pid pid' : UInt32} {port port' : UInt16}
    (h : socketKey pid port = socketKey pid' port') : (pid, port) = (pid', port') := by
  have hport : port.toNat < 65536 := port.toNat_lt
  have hport' : port'.toNat < 65536 := port'.toNat_lt
  have hnat := congrArg UInt64.toNat h
  rw [toNat_socketKey, toNat_socketKey] at hnat
  have hpids : pid = pid' := UInt32.toNat_inj.mp (by omega)
  have hports : port = port' := UInt16.toNat_inj.mp (by omega)
  rw [hpids, hports]

namespace DbInspector

variable {s : DbInspector} {now : ℕ} {c : Capture}

lemma pending_perform (action : Action) (hpass : action ≠ .pass) :
    (s.perform now c action).1.pending =
      Function.update s.pending (socketKey c.pid c.port) (action.entry now) := by
  cases action with
  | pass => exact absurd rfl hpass
  | request => rfl
  | answer => rfl
  | answerPending =>
    cases hreq : s.pending (socketKey c.pid c.port) with
    | none =>
      have hsame := Function.update_eq_self (socketKey c.pid c.port) s.pending
      rw [hreq] at hsame
      simp [perform, hreq, Action.entry, hsame]
    | some req => simp [perform, hreq, Action.entry, setPending]

@[simp] lemma pending_recordProtocol (protocol : DbProtocol) :
    (s.recordProtocol protocol).pending = s.pending := by
  cases protocol <;> rfl

lemma inspect_eq (s : DbInspector) (now : ℕ) (seg : Segment) :
    ∃ s' : DbInspector, s'.pending = s.pending ∧
      (s.inspect now seg.capture).1.pending =
        (s'.perform now seg.capture seg.takenFor).1.pending ∧
        (s.inspect now seg.capture).2.toList.filter (fun e => !e.isEncrypted) =
          (s'.perform now seg.capture seg.takenFor).2.toList.filter (fun e => !e.isEncrypted) := by
  refine ⟨s.recordProtocol (detectProtocol seg.payload seg.connection.dstPort),
    pending_recordProtocol _, ?_⟩
  by_cases hempty : seg.payload = []
  · have hpass : seg.takenFor = .pass := by simp [Segment.takenFor, hempty, detectProtocol]
    rw [hpass]
    simp [inspect, Segment.capture, hempty, perform]
  · cases hprotocol : detectProtocol seg.payload seg.connection.dstPort <;>
      simp [inspect, Segment.capture, Segment.takenFor, hempty, hprotocol, perform,
        encryptedEvent]

end DbInspector

namespace State

variable {s : State} {seg : Segment}

/-- The entry of the segment's process and port. -/
def pendingAt (s : State) (seg : Segment) : Option PendingRequest :=
  s.inspector.pending (socketKey seg.connection.pid seg.connection.dstPort)

lemma emits_of_pass (h : seg.takenFor = .pass) : s.emits seg = [] := by
  obtain ⟨s', -, -, hevents⟩ := DbInspector.inspect_eq s.inspector (s.seenAt seg) seg
  rw [emits, hevents, h]
  rfl

lemma emits_of_request {protocol : DbProtocol} {query queryType tableName : String}
    (h : seg.takenFor = .request protocol query queryType tableName) : s.emits seg = [] := by
  obtain ⟨s', -, -, hevents⟩ := DbInspector.inspect_eq s.inspector (s.seenAt seg) seg
  rw [emits, hevents, h]
  rfl

lemma emits_of_answer {protocol : DbProtocol} {rowCount : ℕ} {errorMessage : String}
    (h : seg.takenFor = .answer protocol rowCount errorMessage) :
    s.emits seg = [DbInspector.responseEvent seg.capture (s.seenAt seg) protocol
      (s.pendingAt seg) rowCount errorMessage] := by
  obtain ⟨s', hpending, -, hevents⟩ := DbInspector.inspect_eq s.inspector (s.seenAt seg) seg
  rw [emits, hevents, h, pendingAt, ← hpending]
  rfl

lemma emits_of_answerPending {protocol : DbProtocol} {rowCount : ℕ} {errorMessage : String}
    (h : seg.takenFor = .answerPending protocol rowCount errorMessage) :
    s.emits seg = ((s.pendingAt seg).map fun req =>
      DbInspector.responseEvent seg.capture (s.seenAt seg) protocol (some req) rowCount
        errorMessage).toList := by
  obtain ⟨s', hpending, -, hevents⟩ := DbInspector.inspect_eq s.inspector (s.seenAt seg) seg
  rw [emits, hevents, h, pendingAt, ← hpending]
  cases hreq : s'.pending (socketKey seg.connection.pid seg.connection.dstPort) with
  | none => simp [DbInspector.perform, Segment.capture, hreq]
  | some req =>
    simp [DbInspector.perform, DbInspector.responseEvent, Segment.capture, hreq]

lemma pending_next (hpass : seg.takenFor ≠ .pass) :
    (s.next seg).inspector.pending = Function.update s.inspector.pending
      (socketKey seg.connection.pid seg.connection.dstPort)
      (seg.takenFor.entry (s.seenAt seg)) := by
  obtain ⟨s', hpending, hnext, -⟩ := DbInspector.inspect_eq s.inspector (s.seenAt seg) seg
  rw [next, hnext, DbInspector.pending_perform _ hpass, hpending]
  rfl

lemma pending_next_of_pass (hpass : seg.takenFor = .pass) :
    (s.next seg).inspector.pending = s.inspector.pending := by
  obtain ⟨s', hpending, hnext, -⟩ := DbInspector.inspect_eq s.inspector (s.seenAt seg) seg
  rw [next, hnext, hpass, ← hpending]
  rfl

/-! ## The invariant -/

/-- The map is what the segments were taken for, and nothing in the state is later than the
clock. -/
structure Inv (s : State) : Prop where
  remembers : ∀ pid port, s.inspector.pending (socketKey pid port) =
    (s.latest (pid, port)).bind fun (start, action) => action.entry start
  latestPast : ∀ socket start action, s.latest socket = some (start, action) → start ≤ s.clock
  waitingPast : ∀ c, ∀ asked ∈ s.waiting c, asked.start ≤ s.clock

lemma Inv.init : Inv {} where
  remembers _ _ := rfl
  latestPast _ _ _ h := by simp at h
  waitingPast _ _ h := by simp at h

lemma Inv.next (h : Inv s) (seg : Segment) : Inv (s.next seg) := by
  have hclock : s.clock ≤ s.seenAt seg := Nat.le_add_right _ _
  constructor
  · intro pid port
    by_cases hpass : seg.takenFor = .pass
    · have hlatest : (s.next seg).latest = s.latest := by
        simp [State.next, latestAfter, hpass]
      rw [pending_next_of_pass hpass, hlatest, h.remembers]
    · rw [pending_next hpass]
      by_cases hsocket : (pid, port) = seg.connection.socket
      · obtain ⟨rfl, rfl⟩ := Prod.mk.inj hsocket
        simp [State.next, latestAfter, hpass]
      · -- Two sockets never share a key.
        have hkey : socketKey pid port ≠
            socketKey seg.connection.pid seg.connection.dstPort :=
          fun heq => hsocket (socketKey_inj heq)
        rw [Function.update_of_ne hkey, h.remembers]
        simp [State.next, Function.update_of_ne hsocket]
  · intro socket start action hlatest
    by_cases hsocket : socket = seg.connection.socket
    · subst hsocket
      have hafter : s.latestAfter seg = some (start, action) := by
        simpa [State.next] using hlatest
      unfold latestAfter at hafter
      split at hafter
      · exact (h.latestPast _ _ _ hafter).trans hclock
      · obtain ⟨rfl, -⟩ := Prod.mk.inj (Option.some.inj hafter)
        exact le_rfl
    · have hbefore : s.latest socket = some (start, action) := by
        simpa [State.next, Function.update_of_ne hsocket] using hlatest
      exact (h.latestPast _ _ _ hbefore).trans hclock
  · intro c asked hasked
    by_cases hc : c = seg.connection
    · subst hc
      have hafter : asked ∈ s.waitingAfter seg := by simpa [State.next] using hasked
      unfold waitingAfter at hafter
      split at hafter
      · rcases List.mem_append.mp hafter with hold | hnew
        · exact (h.waitingPast _ _ hold).trans hclock
        · obtain ⟨request, -, rfl⟩ := List.mem_map.mp hnew
          exact le_rfl
      · exact (h.waitingPast _ _ (List.mem_of_mem_drop hafter)).trans hclock
    · have hbefore : asked ∈ s.waiting c := by
        simpa [State.next, Function.update_of_ne hc] using hasked
      exact (h.waitingPast _ _ hbefore).trans hclock

lemma Inv.recorded_eq (h : Inv s) (seg : Segment) :
    s.recorded seg = (s.pendingAt seg).map PendingRequest.asked := by
  rw [pendingAt, h.remembers, recorded, Connection.socket]
  cases hlatest : s.latest (seg.connection.pid, seg.connection.dstPort) with
  | none => rfl
  | some last =>
    obtain ⟨start, action⟩ := last
    cases action <;> rfl

lemma Inv.pending_le (h : Inv s) {req : PendingRequest} (hreq : s.pendingAt seg = some req) :
    req.sentAt ≤ s.seenAt seg := by
  rw [pendingAt, h.remembers] at hreq
  obtain ⟨⟨start, action⟩, hlatest, hentry⟩ := Option.bind_eq_some_iff.mp hreq
  have hstart : req.sentAt = start := by
    cases action with
    | request =>
      obtain rfl := Option.some.inj hentry
      rfl
    | _ => simp [Action.entry] at hentry
  have hpast := h.latestPast _ _ _ hlatest
  rw [hstart]
  exact hpast.trans (Nat.le_add_right _ _)

lemma Inv.of_mem_answers (h : Inv s) {a : Answered} (ha : a ∈ s.answers seg) :
    a.connection = seg.connection ∧ a.time = s.seenAt seg ∧ a.asked.start ≤ s.seenAt seg := by
  unfold answers at ha
  split at ha
  · simp at ha
  · obtain ⟨⟨asked, isError⟩, hzip, rfl⟩ := List.mem_map.mp ha
    have hwaiting := h.waitingPast _ _ (List.of_mem_zip hzip).1
    exact ⟨rfl, rfl, hwaiting.trans (Nat.le_add_right _ _)⟩

/-! ## One segment -/

lemma reports_responseEvent_iff {protocol : DbProtocol} {rowCount : ℕ} {errorMessage : String}
    {req : Option PendingRequest} (hreq : ∀ r ∈ req, r.sentAt ≤ s.seenAt seg) {a : Answered}
    (hconnection : a.connection = seg.connection) (htime : a.time = s.seenAt seg)
    (hstart : a.asked.start ≤ s.seenAt seg) :
    Reports a (DbInspector.responseEvent seg.capture (s.seenAt seg) protocol req rowCount
        errorMessage) ↔
      a.asked = (req.map PendingRequest.asked).getD (s.blank seg) ∧
        (errorMessage ≠ "" → a.isError = true) := by
  obtain ⟨connection, ⟨⟨query, queryType⟩, start⟩, isError, time⟩ := a
  simp only at hconnection htime hstart
  subst hconnection htime
  constructor
  · rintro ⟨hquery, htype, hlatency, -, -, -, -, herror⟩
    refine ⟨?_, herror⟩
    cases req with
    | none =>
      simp only [DbInspector.responseEvent, Option.map_none, Option.getD_none] at *
      -- Without a request the latency is zero, so it started when the answer was seen.
      have hzero : start = s.seenAt seg := by omega
      rw [← hquery, ← htype, hzero]
      rfl
    | some r =>
      have hsent := hreq r rfl
      simp only [DbInspector.responseEvent, Option.map_some, Option.getD_some] at *
      -- Equal latencies that end together start together.
      have hsame : start = r.sentAt := by omega
      rw [← hquery, ← htype, hsame]
      rfl
  · rintro ⟨hasked, herror⟩
    cases req with
    | none =>
      simp only [Option.map_none, Option.getD_none, blank, Asked.mk.injEq, Request.mk.injEq]
        at hasked
      obtain ⟨⟨rfl, rfl⟩, rfl⟩ := hasked
      exact ⟨rfl, rfl, by simp [DbInspector.responseEvent], rfl, rfl, rfl, rfl, herror⟩
    | some r =>
      simp only [Option.map_some, Option.getD_some, PendingRequest.asked, Asked.mk.injEq,
        Request.mk.injEq] at hasked
      obtain ⟨⟨rfl, rfl⟩, rfl⟩ := hasked
      exact ⟨rfl, rfl, rfl, rfl, rfl, rfl, rfl, herror⟩

lemma Inv.forall₂_responseEvent_iff (h : Inv s) {protocol : DbProtocol} {rowCount : ℕ}
    {errorMessage : String} {req : Option PendingRequest}
    (hreq : ∀ r ∈ req, r.sentAt ≤ s.seenAt seg) :
    List.Forall₂ Reports (s.answers seg) [DbInspector.responseEvent seg.capture (s.seenAt seg)
        protocol req rowCount errorMessage] ↔
      s.AnswersOnly seg ((req.map PendingRequest.asked).getD (s.blank seg)) errorMessage := by
  constructor
  · intro hall
    obtain ⟨a, rest, hreports, hrest, hanswers⟩ := List.forall₂_cons_right_iff.mp hall
    obtain rfl := List.forall₂_nil_right_iff.mp hrest
    have hmem : a ∈ s.answers seg := hanswers ▸ List.mem_singleton_self a
    obtain ⟨hconnection, htime, hstart⟩ := h.of_mem_answers hmem
    obtain ⟨hasked, herror⟩ :=
      (reports_responseEvent_iff hreq hconnection htime hstart).mp hreports
    refine ⟨a.isError, ?_, herror⟩
    rw [hanswers, ← hasked, ← hconnection, ← htime]
  · rintro ⟨isError, hanswers, herror⟩
    have hmem : _ ∈ s.answers seg := hanswers ▸ List.mem_singleton_self _
    obtain ⟨hconnection, htime, hstart⟩ := h.of_mem_answers hmem
    rw [hanswers]
    refine .cons ?_ .nil
    exact (reports_responseEvent_iff hreq hconnection htime hstart).mpr ⟨rfl, herror⟩

lemma Inv.forall₂_emits_iff (h : Inv s) (seg : Segment) :
    List.Forall₂ Reports (s.answers seg) (s.emits seg) ↔ Traceable s seg := by
  have hpending : ∀ r ∈ s.pendingAt seg, r.sentAt ≤ s.seenAt seg := fun r hr => h.pending_le hr
  unfold Traceable
  cases htaken : seg.takenFor with
  | pass => rw [emits_of_pass htaken, List.forall₂_nil_right_iff]
  | request => rw [emits_of_request htaken, List.forall₂_nil_right_iff]
  | answer =>
    rw [emits_of_answer htaken, h.forall₂_responseEvent_iff hpending, h.recorded_eq]
  | answerPending =>
    rw [emits_of_answerPending htaken, h.recorded_eq]
    cases hreq : s.pendingAt seg with
    | none => exact List.forall₂_nil_right_iff
    | some req =>
      have hsome : ∀ r ∈ some req, r.sentAt ≤ s.seenAt seg := hreq ▸ hpending
      exact h.forall₂_responseEvent_iff hsome

lemma forall₂_append_iff {α β : Type*} {R : α → β → Prop} {l l' : List α} {m m' : List β}
    (h : List.Forall₂ R l m) :
    List.Forall₂ R (l ++ l') (m ++ m') ↔ List.Forall₂ R l' m' := by
  induction h with
  | nil => rfl
  | cons hab _ ih =>
    simp only [List.cons_append, List.forall₂_cons]
    exact ⟨fun hall => ih.mp hall.2, fun hall => ⟨hab, ih.mpr hall⟩⟩

lemma Inv.correlated_next_iff (h : Inv s) (hcorrelated : Correlated s) (seg : Segment) :
    Correlated (s.next seg) ↔ Traceable s seg :=
  (forall₂_append_iff hcorrelated).trans (h.forall₂_emits_iff seg)

lemma queries_eq (h : Correlated s) :
    s.events.map DbQueryEvent.query = s.answered.map (·.asked.request.query) := by
  unfold Correlated at h
  generalize s.answered = answered at h ⊢
  generalize s.events = events at h ⊢
  induction h with
  | nil => rfl
  | cons hreports _ ih => rw [List.map_cons, List.map_cons, hreports.query, ih]

end State

/-- **Events are attributed to the right requests**, and when. For all segments, in any order, of
any connections: the events are one for one those of the answered requests throughout exactly if
every segment is traceable. -/
theorem correlated_iff (segs : List Segment) :
    Lib.Always State.next Correlated {} segs ↔ Lib.Allowed State.next Traceable {} segs :=
  Lib.always_iff_allowed (I := State.Inv) (fun _ seg h => h.next seg)
    (fun _ seg h hcorrelated => h.correlated_next_iff hcorrelated seg) State.Inv.init .nil segs

/-! ## Two connections of one process -/

/-- A PostgreSQL message: its type, its length with that of the length itself, and its body. -/
def message (msgType : Char) (body : List UInt8) : List UInt8 :=
  let length := body.length + 4
  msgType.toUInt8 :: [length / 16777216, length / 65536, length / 256, length].map UInt8.ofNat ++
    body

/-- `Query`. -/
def simpleQuery (sql : String) : List UInt8 := message 'Q' (asBytes sql ++ [0])

/-- `Parse`, of the unnamed statement without parameter types. -/
def parseMessage (sql : String) : List UInt8 := message 'P' (0 :: asBytes sql ++ [0, 0, 0])

/-- `Execute`, of the unnamed portal without a limit. -/
def executeMessage : List UInt8 := message 'E' [0, 0, 0, 0, 0]

/-- `CommandComplete`. -/
def commandComplete (tag : String) : List UInt8 := message 'C' (asBytes tag ++ [0])

/-- A connection of a process to a PostgreSQL server. -/
def connectionFrom (srcPort : UInt16) : Connection := ⟨100, 16777343, srcPort, 16885952, pgPort⟩

/-- Both connections have a query under way when the first of them gets its answer. -/
def interleaved : List Segment :=
  [⟨1, connectionFrom 50000, "app", simpleQuery "SELECT 1", .client [⟨"SELECT 1", "SELECT"⟩]⟩,
    ⟨1, connectionFrom 50001, "app", simpleQuery "SELECT 2", .client [⟨"SELECT 2", "SELECT"⟩]⟩,
    ⟨1, connectionFrom 50000, "app", commandComplete "SELECT 1", .server [false]⟩]

/-- The client parses a statement and executes it. Nothing has been answered yet. -/
def extended : List Segment :=
  [⟨1, connectionFrom 50000, "app", parseMessage "SELECT 1", .client []⟩,
    ⟨1, connectionFrom 50000, "app", executeMessage, .client [⟨"SELECT 1", "SELECT"⟩]⟩]

/-- The answer to the first query is reported as that to the second one, and an `Execute` message
as an error of a server that has not answered. -/
theorem mixed_up :
    ¬ Lib.Always State.next Correlated {} interleaved ∧
      ¬ Lib.Always State.next Correlated {} extended := by
  constructor
  · intro halways
    have hevents : (interleaved.foldl State.next {}).events.map DbQueryEvent.query =
        ["SELECT 2"] := by decide +kernel
    have hanswered : (interleaved.foldl State.next {}).answered.map (·.asked.request.query) =
        ["SELECT 1"] := by decide +kernel
    have hsame : (interleaved.foldl State.next {}).events.map DbQueryEvent.query =
        (interleaved.foldl State.next {}).answered.map (·.asked.request.query) :=
      State.queries_eq halways.foldl
    rw [hevents, hanswered] at hsame
    exact absurd hsame (by decide)
  · intro halways
    have hevents : (extended.foldl State.next {}).events.length = 1 := by decide +kernel
    have hanswered : (extended.foldl State.next {}).answered.length = 0 := by decide +kernel
    have hlength := halways.foldl.length_eq
    omega

end Paryty.Agent.Db

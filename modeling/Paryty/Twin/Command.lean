import Paryty.Lib.Interleaving
import Paryty.Lib.Run
import Paryty.Twin.Schema
import Mathlib.Data.Fintype.Basic
import Mathlib.Data.List.Sort

/-!
# Commands to agents

The table `agent_commands`, the two operations of the command manager as programs over it, and
the system they are part of: operators that enqueue commands, heartbeats that dequeue them, the
responses under way to the agents and what the agents receive.

* Whether the dispatcher could hand a command to an open stream is a parameter of the call.
* A command is told from others by the id its row would get. Agents do not see the id; it is
  kept in responses and received commands to account for them.
* `created_at` and the transaction time come from the clock of the database, which moves on
  with every event.
-/

namespace Paryty.Twin

abbrev CommandID := String

/-- What an operator enqueues. -/
structure Command where
  id : CommandID
  agentID : AgentID
  commandType : Int
  payload : String
deriving DecidableEq

/-- A row of `agent_commands`; `delivered` says that `delivered_at` is set. -/
structure CommandRecord extends Command where
  createdAt : ℕ
  delivered : Bool := false
deriving DecidableEq

/-- The table, by id. -/
abbrev CommandTable := Lib.Table CommandRecord CommandID (fun record => record.id)

/-- The table and the clock of the database. -/
structure CommandStore where
  commands : CommandTable := .empty
  clock : ℕ := 0
deriving DecidableEq

/-- The statements of the command manager. -/
inductive CommandSql : Type → Type
  /-- `INSERT INTO agent_commands (agent_id, command_type, payload)` -/
  | insertCommand (cmd : Command) : CommandSql Unit
  /-- `SELECT .. WHERE agent_id AND delivered_at IS NULL ORDER BY created_at ASC` -/
  | pendingCommands (agentID : AgentID) : CommandSql (List CommandRecord)
  /-- `UPDATE agent_commands SET delivered_at = now() WHERE id = ANY(ids)` -/
  | markDelivered (ids : List CommandID) : CommandSql Nat

/-- An undelivered command of the agent. -/
def CommandRecord.Pending (agentID : AgentID) (record : CommandRecord) : Bool :=
  record.agentID = agentID && !record.delivered

/-- The undelivered commands of an agent, oldest first. -/
def CommandStore.pending (agentID : AgentID) (s : CommandStore) : List CommandRecord :=
  (s.commands.rows.filter (CommandRecord.Pending agentID)).insertionSort
    (fun earlier later => earlier.createdAt ≤ later.createdAt)

/-- What a statement answers and writes. -/
def CommandSql.run {β : Type} : CommandSql β → (snapshot current : CommandStore) →
    Option (β × List (Lib.Table.RowWrite CommandRecord CommandID))
  | insertCommand cmd, snapshot, current =>
    if current.commands.HasKey cmd.id then none
    else some ((), [.put { toCommand := cmd, createdAt := snapshot.clock }])
  | pendingCommands agentID, snapshot, _ => some (snapshot.pending agentID, [])
  | markDelivered ids, snapshot, current =>
    let writes := snapshot.commands.updates current.commands (fun record => record.id ∈ ids)
      ({ · with delivered := true })
    some (writes.length, writes)

/-- The database. -/
def commandEngine : Lib.Engine CommandSql CommandStore
    (Lib.Table.RowWrite CommandRecord CommandID) CommandID where
  run := CommandSql.run
  apply s w := { s with commands := s.commands.write w }
  locks w := some (w.row (fun record => record.id))

/-! ## The command manager -/

open Lib.Prog (query beginTx commitTx)

/-- What the operations return: commands, of which an enqueue has none, or an error. -/
abbrev CommandResult := Except String (List CommandRecord)

/-- Dispatch a command to an open stream, or queue it for the next heartbeat. -/
def enqueueCommand (dispatched : Bool) (cmd : Command) : Lib.Prog CommandSql CommandResult := do
  if dispatched then
    return .ok []
  let some _ ← query (.insertCommand cmd)
    | return .error "enqueue command"
  return .ok []

/-- All undelivered commands of an agent, marked as delivered. -/
def dequeueCommands (agentID : AgentID) : Lib.Prog CommandSql CommandResult := do
  beginTx
  let some commands ← query (.pendingCommands agentID)
    | return .error "query pending commands"
  let ids := commands.map (fun cmd => cmd.id)
  if ids.length > 0 then
    let some _ ← query (.markDelivered ids)
      | return .error "mark commands delivered"
  if ← commitTx then
    return .ok commands
  else
    return .error "commit"

/-- The calls of the command manager. -/
inductive CommandCall
  | enqueueCommand (dispatched : Bool) (cmd : Command)
  | heartbeat (agentID : AgentID)
deriving DecidableEq

/-- The program of a call. -/
def CommandCall.program : CommandCall → Lib.Prog CommandSql CommandResult
  | .enqueueCommand dispatched cmd => Twin.enqueueCommand dispatched cmd
  | .heartbeat agentID => dequeueCommands agentID

/-- The commands a heartbeat response carries: none if they could not be dequeued. -/
def responseCommands : CommandResult → List Command
  | .ok cmds => cmds.map CommandRecord.toCommand
  | .error _ => []

/-! ## Operators, heartbeats and agents -/

/-- The database server with the calls of the command manager. -/
abbrev CommandServer (ι : Type) := Lib.Server ι CommandSql CommandResult CommandCall CommandStore
  (Lib.Table.RowWrite CommandRecord CommandID) CommandID

/-- A session of the server. -/
abbrev CommandSession := Lib.Session CommandSql CommandResult CommandCall CommandStore
  (Lib.Table.RowWrite CommandRecord CommandID)

/-- What happens to commands outside the server. -/
structure Traffic where
  /-- the heartbeat responses under way, each with the agent it goes to -/
  responses : List (AgentID × List Command) := []
  /-- what the agents have received, in the order it arrived -/
  received : List Command := []
  /-- what was in responses that got lost -/
  lost : List Command := []
  /-- the ids of the commands operators have asked for -/
  issued : List CommandID := []
  /-- the commands whose enqueue has returned without an error -/
  enqueued : List Command := []
  /-- the commands that went over an open stream -/
  dispatched : List Command := []
  /-- pairs of commands of one agent; the first had been enqueued when the second was asked for -/
  order : List (Command × Command) := []

namespace Traffic

/-- A command is asked for. A dispatched one has reached its agent when the dispatcher returns. -/
def ask (t : Traffic) (dispatched : Bool) (cmd : Command) : Traffic :=
  { t with
    issued := cmd.id :: t.issued
    order := t.order ++ (t.enqueued.filter (fun c => c.agentID = cmd.agentID)).map (·, cmd)
    received := if dispatched then t.received ++ [cmd] else t.received
    dispatched := if dispatched then cmd :: t.dispatched else t.dispatched }

/-- A call is made; no two commands have the same id. -/
def onCall (t : Traffic) : CommandCall → Option Traffic
  | .enqueueCommand dispatched cmd =>
    if cmd.id ∈ t.issued then none else some (t.ask dispatched cmd)
  | .heartbeat _ => some t

/-- A call returns: the enqueue is done, or the heartbeat response is sent. -/
def onReturn (t : Traffic) : CommandCall → CommandResult → Traffic
  | .enqueueCommand _ cmd, .ok _ => { t with enqueued := cmd :: t.enqueued }
  | .enqueueCommand _ _, .error _ => t
  | .heartbeat agentID, result =>
    { t with responses := t.responses ++ [(agentID, responseCommands result)] }

/-- Response number `k` arrives. -/
def receive (t : Traffic) (k : ℕ) : Option Traffic :=
  t.responses[k]?.map (fun response =>
    { t with responses := t.responses.eraseIdx k, received := t.received ++ response.2 })

/-- Response number `k` gets lost. -/
def lose (t : Traffic) (k : ℕ) : Option Traffic :=
  t.responses[k]?.map (fun response =>
    { t with responses := t.responses.eraseIdx k, lost := t.lost ++ response.2 })

/-- What the agent has received. -/
def receivedBy (t : Traffic) (agentID : AgentID) : List Command :=
  t.received.filter (fun cmd => cmd.agentID = agentID)

/-- One command was enqueued before the other and has to be received first. A dispatched command
does not wait for the queued ones. -/
def Precedes (t : Traffic) (first second : Command) : Prop :=
  (first, second) ∈ t.order ∧ (second ∈ t.dispatched → first ∈ t.dispatched)

end Traffic

/-- The system. -/
structure Delivery (ι : Type) extends Traffic where
  server : CommandServer ι

/-- What can happen next: an event of the server, or response number `k` arrives or gets lost. -/
inductive DeliveryEvent (ι : Type)
  | server (e : Lib.ServerEvent ι CommandCall)
  | receive (k : ℕ)
  | lose (k : ℕ)

namespace Delivery

variable {ι : Type} [DecidableEq ι]

/-- An empty table and no sessions. -/
def init : Delivery ι := { server := .init {} }

/-- The time goes by. -/
def tick (server : CommandServer ι) : CommandServer ι :=
  { server with store := { server.store with clock := server.store.clock + 1 } }

/-- What an event of the server means outside. -/
def observe (d : Delivery ι) : Lib.ServerEvent ι CommandCall → Option Traffic
  | .call _ call => d.onCall call
  | .act _ _ => some d.toTraffic
  | .finish i =>
    match d.server.sessions i with
    | some { call, prog := .ret result, .. } => some (d.onReturn call result)
    | _ => none

/-- One event. -/
def step (d : Delivery ι) : DeliveryEvent ι → Option (Delivery ι)
  | .server e =>
    match d.server.step commandEngine CommandCall.program e, d.observe e with
    | some server, some traffic => some { traffic with server := tick server }
    | _, _ => none
  | .receive k => (d.toTraffic.receive k).map ({ · with server := d.server })
  | .lose k => (d.toTraffic.lose k).map ({ · with server := d.server })

/-! ## What is to hold -/

/-- The command is in the table and not marked as delivered. -/
def Queued (d : Delivery ι) (cmd : Command) : Prop :=
  ∃ record ∈ d.server.store.commands, record.toCommand = cmd ∧ record.delivered = false

/-- A heartbeat has dequeued the command, or the response that carries it is under way. -/
def Carried (d : Delivery ι) (cmd : Command) : Prop :=
  (∃ i agentID cmds sess, d.server.sessions i = some sess ∧ sess.call = .heartbeat agentID ∧
    sess.prog = .ret (.ok cmds) ∧ cmd ∈ cmds.map CommandRecord.toCommand) ∨
  ∃ response ∈ d.responses, cmd ∈ response.2

/-- Every enqueued command has arrived or will with the response to some heartbeat, unless the
response gets lost; each arrives once, and none before one enqueued earlier. -/
def ExactlyOnceInOrder (d : Delivery ι) : Prop :=
  (∀ cmd ∈ d.enqueued, cmd ∈ d.received ∨ d.Queued cmd ∨ d.Carried cmd) ∧
    d.received.Nodup ∧ d.received.Pairwise (fun earlier later => (later, earlier) ∉ d.order)

/-- A heartbeat of the agent is open or its response is under way. -/
def Outstanding (d : Delivery ι) (agentID : AgentID) : Prop :=
  (∃ i sess, d.server.sessions i = some sess ∧ sess.call = .heartbeat agentID) ∨
    ∃ response ∈ d.responses, response.1 = agentID

omit [DecidableEq ι] in
lemma outstanding_iff [Fintype ι] {d : Delivery ι} {agentID : AgentID} :
    ((∃ i, ∃ sess ∈ d.server.sessions i, sess.call = .heartbeat agentID) ∨
      ∃ response ∈ d.responses, response.1 = agentID) ↔ d.Outstanding agentID := by
  simp only [Outstanding, Option.mem_def]

instance [Fintype ι] (d : Delivery ι) (agentID : AgentID) : Decidable (d.Outstanding agentID) :=
  decidable_of_iff _ outstanding_iff

/-- The agent sends a heartbeat only when it has the answer to the one before or has given it up
for lost with nothing left of it on the server. -/
def OneHeartbeat (agentID : AgentID) (d : Delivery ι) : DeliveryEvent ι → Prop
  | .server (.call _ (.heartbeat agent)) => agent = agentID → ¬ d.Outstanding agentID
  | _ => True

instance [Fintype ι] (agentID : AgentID) (d : Delivery ι) (e : DeliveryEvent ι) :
    Decidable (d.OneHeartbeat agentID e) :=
  match e with
  | .server (.call _ (.heartbeat agent)) =>
    inferInstanceAs (Decidable (agent = agentID → ¬ d.Outstanding agentID))
  | .server (.call _ (.enqueueCommand _ _)) => isTrue trivial
  | .server (.act _ _) => isTrue trivial
  | .server (.finish _) => isTrue trivial
  | .receive _ => isTrue trivial
  | .lose _ => isTrue trivial

end Delivery

end Paryty.Twin

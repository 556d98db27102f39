import Paryty.Lib.Writes
import Paryty.Twin.AgentAssignment
import Paryty.Twin.Command

/-!
# Backlogs and the whole database

The table `agent_backlogs`, the backlog manager and the two handlers with which an operator
accepts or rejects a backlog. A backlog row names an agent and a twin; it belongs to the tenant
of the twin.

`Tables` puts the table beside the lifecycle tables and the commands, and `Call` is a call of
the lifecycle operations or of the backlog handlers. The handlers take the ids from the request;
they do not read the tenant in the context.
-/

namespace Paryty.Twin

open Lib.Prog (query)

/-- The status of a backlog. -/
inductive BacklogStatus
  | pending
  | uploading
  | completed
  | rejected
  | deleted
deriving DecidableEq

/-- A row of `agent_backlogs`. -/
structure BacklogRow where
  agentID : AgentID
  twinID : TwinID
  backlogBytes : Int
  backlogSinceEpoch : Int
  status : BacklogStatus := .pending
deriving DecidableEq

/-- All tables. -/
structure Tables where
  lifecycle : Store := {}
  backlogs : Lib.Table BacklogRow AgentID BacklogRow.agentID := .empty
  commands : CommandStore := {}
deriving DecidableEq

/-- A row write to one of the tables. -/
inductive TablesWrite
  | lifecycle (w : Write)
  | backlogs (w : Lib.Table.RowWrite BacklogRow AgentID)
  | commands (w : Lib.Table.RowWrite CommandRecord CommandID)
deriving DecidableEq

/-- The rows a transaction can hold locks on. -/
inductive TablesKey
  | lifecycle (key : RowKey)
  | backlog (agentID : AgentID)
  | command (id : CommandID)
deriving DecidableEq

/-- Perform a row write. -/
def Tables.apply (d : Tables) : TablesWrite → Tables
  | .lifecycle w => { d with lifecycle := d.lifecycle.apply w }
  | .backlogs w => { d with backlogs := d.backlogs.write w }
  | .commands w => { d with commands := commandEngine.apply d.commands w }

/-- The row a write locks. -/
def TablesWrite.locks : TablesWrite → Option TablesKey
  | .lifecycle w => w.locks.map .lifecycle
  | .backlogs w => some (.backlog (w.row BacklogRow.agentID))
  | .commands w => (commandEngine.locks w).map .command

/-- The statements of the backlog manager. -/
inductive BacklogSql : Type → Type
  /-- `INSERT INTO agent_backlogs .. ON CONFLICT (agent_id) DO UPDATE SET backlog_bytes,
  backlog_since_epoch` -/
  | upsertBacklog (agentID : AgentID) (twinID : TwinID) (backlogBytes backlogSinceEpoch : Int) :
      BacklogSql Nat
  /-- `UPDATE agent_backlogs SET status WHERE agent_id AND status = 'pending'` -/
  | settleBacklog (agentID : AgentID) (status : BacklogStatus) : BacklogSql Nat

/-- The statements of all operations. -/
inductive TablesSql (β : Type)
  | lifecycle (q : Sql β)
  | command (q : CommandSql β)
  | backlog (q : BacklogSql β)

/-- The pending backlog of the agent. -/
def BacklogRow.Pending (agentID : AgentID) (row : BacklogRow) : Bool :=
  row.agentID = agentID && row.status = .pending

/-- What a statement about backlogs answers and writes. -/
def BacklogSql.run {β : Type} : BacklogSql β → (snapshot current : Tables) →
    Option (β × List (Lib.Table.RowWrite BacklogRow AgentID))
  | upsertBacklog agentID twinID backlogBytes backlogSinceEpoch, _, current =>
    match current.backlogs.find? agentID with
    | some row => some (1, [.put { row with backlogBytes, backlogSinceEpoch }])
    | none =>
      if current.lifecycle.twins.HasKey twinID
      then some (1, [.put { agentID, twinID, backlogBytes, backlogSinceEpoch }])
      else none
  | settleBacklog agentID status, snapshot, current =>
    let writes := snapshot.backlogs.updates current.backlogs (BacklogRow.Pending agentID)
      ({ · with status })
    some (writes.length, writes)

/-- What a statement answers and writes. -/
def TablesSql.run {β : Type} : TablesSql β → (snapshot current : Tables) →
    Option (β × List TablesWrite)
  | lifecycle q, snapshot, current =>
    (q.run snapshot.lifecycle current.lifecycle).map
      (fun result => (result.1, result.2.map .lifecycle))
  | command q, snapshot, current =>
    (q.run snapshot.commands current.commands).map
      (fun result => (result.1, result.2.map .commands))
  | backlog q, snapshot, current =>
    (q.run snapshot current).map (fun result => (result.1, result.2.map .backlogs))

/-- The database. -/
def tablesEngine : Lib.Engine TablesSql Tables TablesWrite TablesKey where
  run := TablesSql.run
  apply := Tables.apply
  locks := TablesWrite.locks

/-- The lifecycle tables are a part of the database. -/
def lifecyclePart : Lib.Engine.Part engine tablesEngine where
  stmt := .lifecycle
  write := .lifecycle
  view := Tables.lifecycle
  run_stmt _ _ _ := rfl
  view_apply _ _ := rfl

/-! ## The backlog manager -/

/-- Insert or update the backlog an agent reports with its heartbeat. -/
def upsertBacklog (agentID : AgentID) (twinID : TwinID) (backlogBytes backlogSinceEpoch : Int) :
    Lib.Prog TablesSql (Result Unit) := do
  let some _ ← query (.backlog (.upsertBacklog agentID twinID backlogBytes backlogSinceEpoch))
    | return .error "upsert backlog"
  return .ok ()

/-- Move the pending backlog of an agent to another status. -/
def settleBacklog (verb : String) (status : BacklogStatus) (agentID : AgentID) :
    Lib.Prog TablesSql (Result Unit) := do
  let some rowsAffected ← query (.backlog (.settleBacklog agentID status))
    | return .error (verb ++ " backlog")
  if rowsAffected = 0 then
    return .error ("no pending backlog for agent " ++ agentID)
  return .ok ()

/-- Mark a backlog as uploading: the operator approved the upload. -/
def BacklogManager.acceptBacklog : AgentID → Lib.Prog TablesSql (Result Unit) :=
  settleBacklog "accept" .uploading

/-- Mark a backlog as rejected: the operator declined the upload. -/
def BacklogManager.rejectBacklog : AgentID → Lib.Prog TablesSql (Result Unit) :=
  settleBacklog "reject" .rejected

/-! ## The handlers -/

/-- What an operator sends; `dispatched` says whether the command to the agent reaches an open
stream, `commandID` is the id of its row otherwise. -/
structure BacklogRequest where
  twinID : TwinID
  agentID : AgentID
  dispatched : Bool := false
  commandID : CommandID
deriving DecidableEq

/-- Settle the backlog of an agent and tell the agent. -/
def handleBacklog (verb : String) (manager : AgentID → Lib.Prog TablesSql (Result Unit))
    (commandType : Int) (payload : String) (req : BacklogRequest) :
    Lib.Prog TablesSql (Result Unit) := do
  if req.twinID = "" || req.agentID = "" then
    return .error "twin_id and agent_id are required"
  match ← manager req.agentID with
  | .error err => return .error (verb ++ " backlog: " ++ err)
  | .ok () =>
    -- The command is delivered best-effort: its error is ignored.
    let _ ← (enqueueCommand req.dispatched
      { id := req.commandID, agentID := req.agentID, commandType, payload }).embed .command
    return .ok ()

/-- Instruct the agent to begin uploading its historical backlog. -/
def acceptBacklog : BacklogRequest → Lib.Prog TablesSql (Result Unit) :=
  handleBacklog "accept" BacklogManager.acceptBacklog 6 "\x7b\"action\":\"upload_backlog\"\x7d"

/-- Instruct the agent to permanently delete its local backlog. -/
def rejectBacklog : BacklogRequest → Lib.Prog TablesSql (Result Unit) :=
  handleBacklog "reject" BacklogManager.rejectBacklog 7 "\x7b\"action\":\"delete_backlog\"\x7d"

/-! ## Calls -/

/-- A call with its arguments. -/
inductive Call
  | lifecycle (op : Operation)
  | upsertBacklog (agentID : AgentID) (twinID : TwinID) (backlogBytes backlogSinceEpoch : Int)
  | acceptBacklog (req : BacklogRequest)
  | rejectBacklog (req : BacklogRequest)
deriving DecidableEq

/-- The program of a call. -/
def Call.program : Call → Lib.Prog TablesSql (Result Unit)
  | .lifecycle op => op.program.embed .lifecycle
  | .upsertBacklog agentID twinID backlogBytes backlogSinceEpoch =>
    Twin.upsertBacklog agentID twinID backlogBytes backlogSinceEpoch
  | .acceptBacklog req => Twin.acceptBacklog req
  | .rejectBacklog req => Twin.rejectBacklog req

/-- The row writes of a call that nothing interrupts. -/
def Call.writes (call : Call) (d : Tables) : List TablesWrite :=
  call.program.writes tablesEngine d .idle

/-- The database after a call that nothing interrupts. -/
def Call.perform (call : Call) (d : Tables) : Tables :=
  (call.program.execAlone tablesEngine d).2

end Paryty.Twin

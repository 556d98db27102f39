import Paryty.Lib.Table
import Paryty.Lib.Transaction

/-!
# The tables of the twin and agent lifecycle

The rows of `paryty_twins`, `agent_assignments`, `agent_registrations`, `agent_blacklist` and
`agent_status_log`, with the columns that the lifecycle operations read, and the SQL statements
these operations issue. The columns left out (timestamps, the twin's configuration, an agent's
platform) are written and shown but never decide anything.

A statement fails (`none`) on a duplicate key, on a foreign key without its row, and where a
value does not parse: `actor_id` is a `UUID` and the empty string is none.
-/

namespace Paryty.Twin

abbrev TenantID := String
abbrev AgentID := String
abbrev TwinID := String

/-- The lifecycle status of an edge agent. -/
inductive EdgeAgentStatus
  | unconfigured
  | active
  | lost
  | rogue
  | retired
  | blacklisted
  | pending
  | deployed
  | inactive
deriving DecidableEq

/-- The status as the database and the error texts spell it. -/
def EdgeAgentStatus.toString : EdgeAgentStatus → String
  | unconfigured => "unconfigured"
  | active => "active"
  | lost => "lost"
  | rogue => "rogue"
  | retired => "retired"
  | blacklisted => "blacklisted"
  | pending => "pending"
  | deployed => "deployed"
  | inactive => "inactive"

/-- The actions of the edge agent state machine. -/
inductive EdgeAction
  | pair
  | unpair
  | heartbeatTimeout
  | heartbeatResume
  | retire
  | blacklist
deriving DecidableEq

/-- The action as the error texts spell it. -/
def EdgeAction.toString : EdgeAction → String
  | pair => "pair"
  | unpair => "unpair"
  | heartbeatTimeout => "heartbeat_timeout"
  | heartbeatResume => "heartbeat_resume"
  | retire => "retire"
  | blacklist => "blacklist"

/-- A valid transition of an edge agent. -/
structure AgentStateTransition where
  src : EdgeAgentStatus
  action : EdgeAction
  dst : EdgeAgentStatus
deriving DecidableEq

/-- The complete state machine for edge agents. -/
def edgeValidTransitions : List AgentStateTransition := [
  ⟨.unconfigured, .pair, .active⟩,
  ⟨.pending, .pair, .active⟩,
  ⟨.rogue, .pair, .active⟩,
  ⟨.active, .unpair, .rogue⟩,
  ⟨.active, .heartbeatTimeout, .lost⟩,
  ⟨.lost, .heartbeatResume, .active⟩,
  ⟨.active, .retire, .retired⟩,
  ⟨.lost, .retire, .retired⟩,
  ⟨.rogue, .retire, .retired⟩,
  ⟨.unconfigured, .retire, .retired⟩,
  ⟨.active, .blacklist, .blacklisted⟩,
  ⟨.lost, .blacklist, .blacklisted⟩,
  ⟨.rogue, .blacklist, .blacklisted⟩]

/-- Whether the state machine has a transition for the action. -/
def canTransitionEdge (current : EdgeAgentStatus) (action : EdgeAction) : Bool :=
  edgeValidTransitions.any (fun t => t.src = current && t.action = action)

/-- The lifecycle status of a cluster agent (twin). -/
inductive ClusterAgentStatus
  | pending
  | active
  | degraded
  | inactive
  | deleted
  | unconfigured
deriving DecidableEq

/-! ## Rows -/

/-- A row of `paryty_twins`; `deleted` says that `deleted_at` is set. -/
structure TwinRow where
  id : TwinID
  tenantID : TenantID
  name : String
  description : String := ""
  status : ClusterAgentStatus := .pending
  deleted : Bool := false
deriving DecidableEq

/-- A row of `agent_assignments`. -/
structure AssignmentRow where
  agentID : AgentID
  twinID : TwinID
  tenantID : TenantID
  clientID : String := ""
  topicPrefix : String := ""
deriving DecidableEq

/-- The primary key of `agent_assignments`. -/
def AssignmentRow.key (row : AssignmentRow) : AgentID × TwinID := (row.agentID, row.twinID)

/-- A row of `agent_registrations`. -/
structure RegistrationRow where
  agentID : AgentID
  tenantID : TenantID
  hostname : String := ""
  clientID : String := ""
  name : String := ""
  status : EdgeAgentStatus := .pending
  blacklistReason : String := ""
deriving DecidableEq

/-- A row of `agent_blacklist`. -/
structure BlacklistRow where
  tenantID : TenantID
  edgeAgentID : AgentID
  reason : String := ""
deriving DecidableEq

/-- The unique key of `agent_blacklist`. -/
def BlacklistRow.key (row : BlacklistRow) : TenantID × AgentID := (row.tenantID, row.edgeAgentID)

/-- A row of `agent_status_log`. -/
structure StatusLogRow where
  agentID : AgentID
  tenantID : TenantID
  fromStatus : String
  toStatus : String
  reason : String
  actorID : String
deriving DecidableEq

/-- The tables. -/
structure Store where
  twins : Lib.Table TwinRow TwinID TwinRow.id := .empty
  assignments : Lib.Table AssignmentRow (AgentID × TwinID) AssignmentRow.key := .empty
  registrations : Lib.Table RegistrationRow AgentID RegistrationRow.agentID := .empty
  blacklist : Lib.Table BlacklistRow (TenantID × AgentID) BlacklistRow.key := .empty
  statusLog : List StatusLogRow := []
deriving DecidableEq

/-- A row write to one of the tables. -/
inductive Write
  | twins (w : Lib.Table.RowWrite TwinRow TwinID)
  | assignments (w : Lib.Table.RowWrite AssignmentRow (AgentID × TwinID))
  | registrations (w : Lib.Table.RowWrite RegistrationRow AgentID)
  | blacklist (w : Lib.Table.RowWrite BlacklistRow (TenantID × AgentID))
  | statusLog (entry : StatusLogRow)
deriving DecidableEq

/-- The rows a transaction can hold locks on. -/
inductive RowKey
  | twin (id : TwinID)
  | assignment (key : AgentID × TwinID)
  | registration (agentID : AgentID)
  | blacklist (key : TenantID × AgentID)
deriving DecidableEq

/-- Perform a row write. -/
def Store.apply (s : Store) : Write → Store
  | .twins w => { s with twins := s.twins.write w }
  | .assignments w => { s with assignments := s.assignments.write w }
  | .registrations w => { s with registrations := s.registrations.write w }
  | .blacklist w => { s with blacklist := s.blacklist.write w }
  | .statusLog entry => { s with statusLog := s.statusLog ++ [entry] }

/-- The row a write locks; a log entry is always a new row. -/
def Write.locks : Write → Option RowKey
  | .twins w => some (.twin (w.row TwinRow.id))
  | .assignments w => some (.assignment (w.row AssignmentRow.key))
  | .registrations w => some (.registration (w.row RegistrationRow.agentID))
  | .blacklist w => some (.blacklist (w.row BlacklistRow.key))
  | .statusLog _ => none

/-! ## Statements -/

/-- The statements of the lifecycle operations. `Sql Nat` answers the number of rows affected. -/
inductive Sql : Type → Type
  /-- `SELECT COUNT(*) FROM paryty_twins WHERE tenant_id AND name AND deleted_at IS NULL` -/
  | countTwins (tenantID : TenantID) (name : String) : Sql Nat
  /-- `INSERT INTO paryty_twins` -/
  | insertTwin (row : TwinRow) : Sql Nat
  /-- `SELECT EXISTS(.. FROM paryty_twins WHERE id AND tenant_id AND deleted_at IS NULL)` -/
  | twinExists (twinID : TwinID) (tenantID : TenantID) : Sql Bool
  /-- `UPDATE paryty_twins SET deleted_at WHERE id AND tenant_id AND deleted_at IS NULL` -/
  | softDeleteTwin (twinID : TwinID) (tenantID : TenantID) : Sql Nat
  /-- `UPDATE paryty_twins SET status WHERE id AND tenant_id` -/
  | updateTwinStatus (twinID : TwinID) (tenantID : TenantID) (status : ClusterAgentStatus) : Sql Nat
  /-- `DELETE FROM agent_assignments WHERE agent_id` -/
  | deleteAssignments (agentID : AgentID) : Sql Nat
  /-- `DELETE FROM agent_assignments WHERE twin_id` -/
  | deleteTwinAssignments (twinID : TwinID) : Sql Nat
  /-- `INSERT INTO agent_assignments` -/
  | insertAssignment (row : AssignmentRow) : Sql Nat
  /-- `SELECT twin_id FROM agent_assignments WHERE agent_id` -/
  | assignedTwin (agentID : AgentID) : Sql (Option TwinID)
  /-- `INSERT INTO agent_registrations .. ON CONFLICT (agent_id) DO UPDATE SET hostname, client_id` -/
  | upsertRegistration (agentID : AgentID) (tenantID : TenantID) (hostname clientID : String) :
      Sql Nat
  /-- `INSERT INTO agent_registrations` -/
  | insertRegistration (row : RegistrationRow) : Sql Nat
  /-- `UPDATE agent_registrations SET name, status = CASE .. WHERE agent_id AND tenant_id` -/
  | renameAgent (name : String) (agentID : AgentID) (tenantID : TenantID) : Sql Nat
  /-- `SELECT status FROM agent_registrations WHERE agent_id AND tenant_id` -/
  | agentStatus (agentID : AgentID) (tenantID : TenantID) : Sql (Option EdgeAgentStatus)
  /-- `UPDATE agent_registrations SET status WHERE agent_id AND tenant_id` -/
  | updateAgentStatus (agentID : AgentID) (tenantID : TenantID) (status : EdgeAgentStatus) : Sql Nat
  /-- The same with `status = 'blacklisted', blacklist_reason`. -/
  | updateBlacklisted (agentID : AgentID) (tenantID : TenantID) (reason : String) : Sql Nat
  /-- `DELETE FROM agent_registrations WHERE agent_id AND tenant_id` -/
  | deleteRegistration (agentID : AgentID) (tenantID : TenantID) : Sql Nat
  /-- `INSERT INTO agent_blacklist .. ON CONFLICT (tenant_id, edge_agent_id) DO UPDATE SET reason` -/
  | upsertBlacklist (tenantID : TenantID) (agentID : AgentID) (reason : String) : Sql Nat
  /-- `SELECT EXISTS(SELECT 1 FROM agent_blacklist WHERE tenant_id AND edge_agent_id)` -/
  | isBlacklisted (tenantID : TenantID) (agentID : AgentID) : Sql Bool
  /-- `DELETE FROM agent_blacklist WHERE edge_agent_id AND tenant_id` -/
  | deleteBlacklist (agentID : AgentID) (tenantID : TenantID) : Sql Nat
  /-- `INSERT INTO agent_status_log` -/
  | insertStatusLog (entry : StatusLogRow) : Sql Nat

/-- The twin `id` of the tenant. -/
def TwinRow.is (twinID : TwinID) (tenantID : TenantID) (row : TwinRow) : Bool :=
  row.id = twinID && row.tenantID = tenantID

/-- The agent `agentID` of the tenant. -/
def RegistrationRow.is (agentID : AgentID) (tenantID : TenantID) (row : RegistrationRow) : Bool :=
  row.agentID = agentID && row.tenantID = tenantID

/-- A live twin of the tenant under that name. -/
def TwinRow.named (tenantID : TenantID) (name : String) (row : TwinRow) : Bool :=
  row.tenantID = tenantID && row.name = name && !row.deleted

/-- The effect of `renameAgent` on a row: a rename marks a pending agent as deployed. -/
def RegistrationRow.rename (name : String) (row : RegistrationRow) : RegistrationRow :=
  { row with name, status := if row.status = .pending then .deployed else row.status }

/-- The number of rows affected and the writes. -/
def affected {ρ κ : Type} (table : Lib.Table.RowWrite ρ κ → Write)
    (writes : List (Lib.Table.RowWrite ρ κ)) : Option (Nat × List Write) :=
  some (writes.length, writes.map table)

/-- What a statement answers and writes. Statements choose their rows in the snapshot and act
on them as they are; `INSERT` meets the current keys. -/
def Sql.run {β : Type} : Sql β → (snapshot current : Store) → Option (β × List Write)
  | countTwins tenantID name, snapshot, _ =>
    some ((snapshot.twins.rows.filter (TwinRow.named tenantID name)).length, [])
  | insertTwin row, _, current =>
    if current.twins.HasKey row.id ∨ current.twins.rows.any (TwinRow.named row.tenantID row.name)
    then none
    else affected .twins [.put row]
  | twinExists twinID tenantID, snapshot, _ =>
    some (snapshot.twins.rows.any (fun row => row.is twinID tenantID && !row.deleted), [])
  | softDeleteTwin twinID tenantID, snapshot, current =>
    affected .twins (snapshot.twins.updates current.twins
      (fun row => row.is twinID tenantID && !row.deleted) ({ · with deleted := true }))
  | updateTwinStatus twinID tenantID status, snapshot, current =>
    affected .twins (snapshot.twins.updates current.twins (TwinRow.is twinID tenantID)
      ({ · with status }))
  | deleteAssignments agentID, snapshot, current =>
    affected .assignments (snapshot.assignments.deletes current.assignments
      (fun row => row.agentID = agentID))
  | deleteTwinAssignments twinID, snapshot, current =>
    affected .assignments (snapshot.assignments.deletes current.assignments
      (fun row => row.twinID = twinID))
  | insertAssignment row, _, current =>
    if current.assignments.HasKey row.key ∨ ¬ current.twins.HasKey row.twinID
    then none
    else affected .assignments [.put row]
  | assignedTwin agentID, snapshot, _ =>
    some ((snapshot.assignments.rows.find? (fun row => row.agentID = agentID)).map
      AssignmentRow.twinID, [])
  | upsertRegistration agentID tenantID hostname clientID, _, current =>
    affected .registrations [.put (match current.registrations.find? agentID with
      | some row => { row with hostname, clientID }
      | none => { agentID, tenantID, hostname, clientID })]
  | insertRegistration row, _, current =>
    if current.registrations.HasKey row.agentID
    then none
    else affected .registrations [.put row]
  | renameAgent name agentID tenantID, snapshot, current =>
    affected .registrations (snapshot.registrations.updates current.registrations
      (RegistrationRow.is agentID tenantID) (RegistrationRow.rename name))
  | agentStatus agentID tenantID, snapshot, _ =>
    some ((snapshot.registrations.rows.find? (RegistrationRow.is agentID tenantID)).map
      RegistrationRow.status, [])
  | updateAgentStatus agentID tenantID status, snapshot, current =>
    affected .registrations (snapshot.registrations.updates current.registrations
      (RegistrationRow.is agentID tenantID) ({ · with status }))
  | updateBlacklisted agentID tenantID reason, snapshot, current =>
    affected .registrations (snapshot.registrations.updates current.registrations
      (RegistrationRow.is agentID tenantID)
      ({ · with status := .blacklisted, blacklistReason := reason }))
  | deleteRegistration agentID tenantID, snapshot, current =>
    affected .registrations (snapshot.registrations.deletes current.registrations
      (RegistrationRow.is agentID tenantID))
  | upsertBlacklist tenantID agentID reason, _, _ =>
    affected .blacklist [.put { tenantID, edgeAgentID := agentID, reason }]
  | isBlacklisted tenantID agentID, snapshot, _ =>
    some ((snapshot.blacklist.find? (tenantID, agentID)).isSome, [])
  | deleteBlacklist agentID tenantID, snapshot, current =>
    affected .blacklist (snapshot.blacklist.deletes current.blacklist
      (fun row => row.key = (tenantID, agentID)))
  | insertStatusLog entry, _, _ =>
    if entry.actorID = "" then none else some (1, [.statusLog entry])

/-- The database. -/
def engine : Lib.Engine Sql Store Write RowKey where
  run := Sql.run
  apply := Store.apply
  locks := Write.locks

/-! ## Row writes of one table -/

lemma writes_of_affected {ρ κ : Type} {table : Lib.Table.RowWrite ρ κ → Write}
    {rows : List (Lib.Table.RowWrite ρ κ)} {answer : Nat} {writes : List Write}
    (h : affected table rows = some (answer, writes)) : writes = rows.map table :=
  (Prod.ext_iff.mp (Option.some.inj h)).2.symm

lemma foldl_twins (ws : List (Lib.Table.RowWrite TwinRow TwinID)) (s : Store) :
    (ws.map Write.twins).foldl Store.apply s =
      { s with twins := ws.foldl Lib.Table.write s.twins } := by
  induction ws generalizing s with
  | nil => rfl
  | cons w ws ih => exact ih _

lemma foldl_assignments (ws : List (Lib.Table.RowWrite AssignmentRow (AgentID × TwinID)))
    (s : Store) : (ws.map Write.assignments).foldl Store.apply s =
      { s with assignments := ws.foldl Lib.Table.write s.assignments } := by
  induction ws generalizing s with
  | nil => rfl
  | cons w ws ih => exact ih _

lemma foldl_registrations (ws : List (Lib.Table.RowWrite RegistrationRow AgentID)) (s : Store) :
    (ws.map Write.registrations).foldl Store.apply s =
      { s with registrations := ws.foldl Lib.Table.write s.registrations } := by
  induction ws generalizing s with
  | nil => rfl
  | cons w ws ih => exact ih _

lemma foldl_blacklist (ws : List (Lib.Table.RowWrite BlacklistRow (TenantID × AgentID)))
    (s : Store) : (ws.map Write.blacklist).foldl Store.apply s =
      { s with blacklist := ws.foldl Lib.Table.write s.blacklist } := by
  induction ws generalizing s with
  | nil => rfl
  | cons w ws ih => exact ih _

/-! A write to one table leaves the others alone. -/

@[simp] lemma registrations_foldl_assignments
    (rows : List (Lib.Table.RowWrite AssignmentRow (AgentID × TwinID))) (s : Store) :
    ((rows.map Write.assignments).foldl engine.apply s).registrations = s.registrations := by
  rw [show engine.apply = Store.apply from rfl, foldl_assignments]

@[simp] lemma registrations_foldl_blacklist
    (rows : List (Lib.Table.RowWrite BlacklistRow (TenantID × AgentID))) (s : Store) :
    ((rows.map Write.blacklist).foldl engine.apply s).registrations = s.registrations := by
  rw [show engine.apply = Store.apply from rfl, foldl_blacklist]

@[simp] lemma assignments_foldl_twins (rows : List (Lib.Table.RowWrite TwinRow TwinID))
    (s : Store) :
    ((rows.map Write.twins).foldl engine.apply s).assignments = s.assignments := by
  rw [show engine.apply = Store.apply from rfl, foldl_twins]

@[simp] lemma registrations_apply_statusLog (entry : StatusLogRow) (s : Store) :
    (engine.apply s (.statusLog entry)).registrations = s.registrations := rfl

end Paryty.Twin

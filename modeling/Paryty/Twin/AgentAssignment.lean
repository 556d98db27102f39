import Paryty.Twin.Schema

/-!
# Twin and agent lifecycle operations

The operations of the twin manager and the agent assigner as programs over the database: each
statement stands where the source issues it, inside or outside the operation's transaction.

* `actorID` is the user id in the context, empty without a user. It goes into the status log,
  whose column is a `UUID`.
* An error that wraps a database error is modelled by the text in front of it.
* The new ids that `CreateTwin` and `CreateAgent` generate are parameters.
-/

namespace Paryty.Twin

open Lib.Prog (query beginTx commitTx)

/-- The client side of a database session. -/
abbrev Session := Lib.Prog Sql

/-- What an operation returns: a value or the text of its error. -/
abbrev Result (ρ : Type) := Except String ρ

/-- The deferred `tx.Commit`. -/
def commit : Session (Result Unit) := do
  if ← commitTx then
    return .ok ()
  else
    return .error "commit unexpectedly resulted in rollback"

/-! ## Twins -/

/-- Create a twin for a tenant. -/
def createTwin (id : TwinID) (tenantID : TenantID) (name description : String) :
    Session (Result TwinRow) := do
  if name = "" then
    return .error "twin name is required"
  let some existingCount ← query (.countTwins tenantID name)
    | return .error "check twin name uniqueness"
  if existingCount > 0 then
    return .error ("twin with name " ++ name.quote ++ " already exists")
  let twin : TwinRow := { id, tenantID, name, description, status := .pending }
  let some _ ← query (.insertTwin twin)
    | return .error "insert twin"
  return .ok twin

/-- Soft-delete a twin and dissociate all agents. -/
def deleteTwin (tenantID : TenantID) (twinID : TwinID) : Session (Result Unit) := do
  beginTx
  let some rowsAffected ← query (.softDeleteTwin twinID tenantID)
    | return .error "soft-delete twin"
  if rowsAffected = 0 then
    return .error ("twin " ++ twinID ++ " not found")
  let some _ ← query (.deleteTwinAssignments twinID)
    | return .error "delete agent assignments"
  commit

/-! ## Assignments -/

/-- Assign an agent to a twin; an assignment to another twin is moved. -/
def registerAgent (agentID : AgentID) (twinID : TwinID) (tenantID : TenantID)
    (clientID topicPrefix : String) : Session (Result AssignmentRow) := do
  let some twinExists ← query (.twinExists twinID tenantID)
    | return .error "check twin existence"
  if !twinExists then
    return .error ("twin " ++ twinID ++ " not found in tenant " ++ tenantID)
  let some _ ← query (.deleteAssignments agentID)
    | return .error "clear existing assignment"
  let assignment : AssignmentRow := { agentID, twinID, tenantID, clientID, topicPrefix }
  let some _ ← query (.insertAssignment assignment)
    | return .error "insert agent assignment"
  return .ok assignment

/-- The twin an agent is assigned to, if any; a failed read counts as unassigned. -/
def getAgentIdentity (agentID : AgentID) : Session (Option TwinID) := do
  let some assigned ← query (.assignedTwin agentID)
    | return none
  return assigned

/-- Remove an agent from its twin. -/
def unassignAgent (agentID : AgentID) : Session (Result Unit) := do
  let some _ ← query (.deleteAssignments agentID)
    | return .error "unassign agent"
  return .ok ()

/-! ## Registrations -/

/-- Record an agent registration. -/
def upsertAgentRegistration (agentID : AgentID) (tenantID : TenantID)
    (hostname clientID : String) : Session (Result Unit) := do
  let some _ ← query (.upsertRegistration agentID tenantID hostname clientID)
    | return .error "upsert agent registration"
  return .ok ()

/-- Register a new agent under a generated id. -/
def createAgent (agentID : AgentID) (tenantID : TenantID) (name : String) :
    Session (Result AgentID) := do
  let some _ ← query (.insertRegistration { agentID, tenantID, name, status := .pending })
    | return .error "create agent"
  return .ok agentID

/-- Remove an agent's registration and assignments. -/
def deleteAgent (agentID : AgentID) (tenantID : TenantID) : Session (Result Unit) := do
  let some _ ← query (.deleteAssignments agentID)
    | return .error "delete agent assignment"
  let some rowsAffected ← query (.deleteRegistration agentID tenantID)
    | return .error "delete agent"
  if rowsAffected = 0 then
    return .error ("agent " ++ agentID ++ " not found")
  return .ok ()

/-- Rename an agent and mark it as deployed. -/
def updateAgent (agentID : AgentID) (tenantID : TenantID) (name : String) :
    Session (Result Unit) := do
  let some rowsAffected ← query (.renameAgent name agentID tenantID)
    | return .error "update agent"
  if rowsAffected = 0 then
    return .error ("agent " ++ agentID ++ " not found")
  return .ok ()

/-! ## Lifecycle -/

/-- The error of a transition the state machine does not have. -/
def invalidTransition (current : EdgeAgentStatus) (action : EdgeAction) : String :=
  "invalid edge agent transition: " ++ current.toString ++ " + " ++ action.toString

/-- Link an edge agent to a twin. -/
def pairAgent (agentID : AgentID) (twinID : TwinID) (tenantID : TenantID) (actorID : String) :
    Session (Result Unit) := do
  let some blacklisted ← query (.isBlacklisted tenantID agentID)
    | return .error "check blacklist"
  if blacklisted then
    return .error ("agent " ++ agentID ++ " is blacklisted and cannot be paired")
  let some (some currentStatus) ← query (.agentStatus agentID tenantID)
    | return .error "get agent status"
  if !canTransitionEdge currentStatus .pair then
    return .error (invalidTransition currentStatus .pair)
  let some twinExists ← query (.twinExists twinID tenantID)
    | return .error "check twin existence"
  if !twinExists then
    return .error ("twin " ++ twinID ++ " not found in tenant " ++ tenantID)
  beginTx
  let some _ ← query (.deleteAssignments agentID)
    | return .error "clear existing assignment"
  let some _ ← query (.insertAssignment { agentID, twinID, tenantID })
    | return .error "insert assignment"
  let some _ ← query (.updateAgentStatus agentID tenantID .active)
    | return .error "update agent status"
  let some _ ← query (.updateTwinStatus twinID tenantID .active)
    | return .error "update twin status"
  let some _ ← query (.insertStatusLog
      { agentID, tenantID, actorID
        fromStatus := currentStatus.toString
        toStatus := "active"
        reason := "assigned to twin " ++ twinID })
    | return .error "log transition"
  commit

/-- Unlink an edge agent from its twin. The agent becomes rogue, the twin unconfigured. -/
def unpairAgent (agentID : AgentID) (tenantID : TenantID) (actorID : String) :
    Session (Result Unit) := do
  let some (some currentStatus) ← query (.agentStatus agentID tenantID)
    | return .error "get agent status"
  if !canTransitionEdge currentStatus .unpair then
    return .error (invalidTransition currentStatus .unpair)
  let some (some twinID) ← query (.assignedTwin agentID)
    | return .error ("agent " ++ agentID ++ " is not paired to any cluster agent")
  beginTx
  let some _ ← query (.deleteAssignments agentID)
    | return .error "delete assignment"
  let some _ ← query (.updateAgentStatus agentID tenantID .rogue)
    | return .error "update agent status"
  let some _ ← query (.updateTwinStatus twinID tenantID .unconfigured)
    | return .error "update twin status"
  let some _ ← query (.insertStatusLog
      { agentID, tenantID, actorID
        fromStatus := "active"
        toStatus := "rogue"
        reason := "unassigned from twin " ++ twinID })
    | return .error "log transition"
  commit

/-- Gracefully decommission an edge agent. -/
def retireAgent (agentID : AgentID) (tenantID : TenantID) (actorID : String) :
    Session (Result Unit) := do
  let some (some currentStatus) ← query (.agentStatus agentID tenantID)
    | return .error "get agent status"
  if !canTransitionEdge currentStatus .retire then
    return .error (invalidTransition currentStatus .retire)
  beginTx
  let _ ← query (.deleteAssignments agentID)
  let some _ ← query (.updateAgentStatus agentID tenantID .retired)
    | return .error "update agent status"
  let some _ ← query (.insertStatusLog
      { agentID, tenantID, actorID
        fromStatus := currentStatus.toString
        toStatus := "retired"
        reason := "retired by operator" })
    | return .error "log transition"
  commit

/-- The status text of an agent that may not be registered. -/
def statusOrUnknown : Option (Option EdgeAgentStatus) → String
  | some (some status) => status.toString
  | _ => "unknown"

/-- Block an edge agent from ever registering again. -/
def blacklistAgent (agentID : AgentID) (tenantID : TenantID) (reason actorID : String) :
    Session (Result Unit) := do
  let currentStatus ← query (.agentStatus agentID tenantID)
  if currentStatus = some (some .blacklisted) then
    return .error ("agent " ++ agentID ++ " is already blacklisted")
  beginTx
  let some _ ← query (.upsertBlacklist tenantID agentID reason)
    | return .error "insert blacklist"
  -- The errors of the remaining statements are ignored, but a failed one aborts the transaction.
  let _ ← query (.deleteAssignments agentID)
  let _ ← query (.updateBlacklisted agentID tenantID reason)
  let _ ← query (.insertStatusLog
    { agentID, tenantID, reason, actorID
      fromStatus := statusOrUnknown currentStatus
      toStatus := "blacklisted" })
  commit

/-- Erase all traces of an edge agent. -/
def unregisterAgent (agentID : AgentID) (tenantID : TenantID) (actorID : String) :
    Session (Result Unit) := do
  beginTx
  let _ ← query (.insertStatusLog
    { agentID, tenantID, actorID
      fromStatus := "active"
      toStatus := "unregistered"
      reason := "unregistered by operator — all client data erased" })
  let _ ← query (.deleteAssignments agentID)
  let _ ← query (.deleteBlacklist agentID tenantID)
  let some rowsAffected ← query (.deleteRegistration agentID tenantID)
    | return .error "delete agent"
  if rowsAffected = 0 then
    return .error ("agent " ++ agentID ++ " not found")
  commit

/-! ## Calls -/

/-- A call with its arguments. -/
inductive Operation
  | createTwin (id : TwinID) (tenantID : TenantID) (name description : String)
  | deleteTwin (tenantID : TenantID) (twinID : TwinID)
  | registerAgent (agentID : AgentID) (twinID : TwinID) (tenantID : TenantID)
      (clientID topicPrefix : String)
  | unassignAgent (agentID : AgentID)
  | upsertAgentRegistration (agentID : AgentID) (tenantID : TenantID) (hostname clientID : String)
  | createAgent (agentID : AgentID) (tenantID : TenantID) (name : String)
  | deleteAgent (agentID : AgentID) (tenantID : TenantID)
  | updateAgent (agentID : AgentID) (tenantID : TenantID) (name : String)
  | pairAgent (agentID : AgentID) (twinID : TwinID) (tenantID : TenantID) (actorID : String)
  | unpairAgent (agentID : AgentID) (tenantID : TenantID) (actorID : String)
  | retireAgent (agentID : AgentID) (tenantID : TenantID) (actorID : String)
  | blacklistAgent (agentID : AgentID) (tenantID : TenantID) (reason actorID : String)
  | unregisterAgent (agentID : AgentID) (tenantID : TenantID) (actorID : String)
  /-- A heartbeat: of these tables it only reads the assignment. -/
  | heartbeat (agentID : AgentID)
deriving DecidableEq

/-- A result without its value. -/
def outcome {ρ : Type} (result : Result ρ) : Result Unit := result.map (fun _ => ())

/-- The program of a call. -/
def Operation.program : Operation → Session (Result Unit)
  | .createTwin id tenantID name description => do
    return outcome (← Twin.createTwin id tenantID name description)
  | .deleteTwin tenantID twinID => Twin.deleteTwin tenantID twinID
  | .registerAgent agentID twinID tenantID clientID topicPrefix => do
    return outcome (← Twin.registerAgent agentID twinID tenantID clientID topicPrefix)
  | .unassignAgent agentID => Twin.unassignAgent agentID
  | .upsertAgentRegistration agentID tenantID hostname clientID =>
    Twin.upsertAgentRegistration agentID tenantID hostname clientID
  | .createAgent agentID tenantID name => do
    return outcome (← Twin.createAgent agentID tenantID name)
  | .deleteAgent agentID tenantID => Twin.deleteAgent agentID tenantID
  | .updateAgent agentID tenantID name => Twin.updateAgent agentID tenantID name
  | .pairAgent agentID twinID tenantID actorID => Twin.pairAgent agentID twinID tenantID actorID
  | .unpairAgent agentID tenantID actorID => Twin.unpairAgent agentID tenantID actorID
  | .retireAgent agentID tenantID actorID => Twin.retireAgent agentID tenantID actorID
  | .blacklistAgent agentID tenantID reason actorID =>
    Twin.blacklistAgent agentID tenantID reason actorID
  | .unregisterAgent agentID tenantID actorID => Twin.unregisterAgent agentID tenantID actorID
  | .heartbeat agentID => do
    let _ ← getAgentIdentity agentID
    return .ok ()

/-- The tables after a call that nothing interrupts. -/
def Operation.perform (op : Operation) (s : Store) : Store :=
  (op.program.execAlone engine s).2

end Paryty.Twin

import Paryty.Twin.AgentAssignment

/-!
# The lifecycle of agents and twins

What the tables say about the lifecycle: the tenant and status of every agent and every twin,
and which agent is assigned to which twin. The claim of the lifecycle code is `Consistent`: an
agent is active or lost exactly when it has an assignment, and a twin is active exactly when an
agent is assigned to it.

* `Step`: how each call changes the lifecycle, or leaves it alone.
* `WellFormed`: what the assignments satisfy in every reachable state.
* `Harmless`: when a call that takes effect keeps the lifecycle consistent. The status of a twin
  is written by pairing and unpairing only, so an agent that leaves in another way must not be
  the last one, and an agent that is unpaired must be the last one.
-/

namespace Paryty.Twin

/-- The states in which an agent is assigned to a twin. -/
def EdgeAgentStatus.Assigned (status : EdgeAgentStatus) : Prop :=
  status = .active ∨ status = .lost

instance : DecidablePred EdgeAgentStatus.Assigned := fun status =>
  inferInstanceAs (Decidable (status = .active ∨ status = .lost))

/-- Tenant and status of an agent. -/
structure EdgeState where
  tenant : TenantID
  status : EdgeAgentStatus
deriving DecidableEq

/-- Tenant and status of a twin. -/
structure TwinState where
  tenant : TenantID
  status : ClusterAgentStatus
  deleted : Bool
deriving DecidableEq

/-- The registered agents, the twins, and the tenant of every assignment. -/
@[ext]
structure Lifecycle where
  edge : AgentID → Option EdgeState
  twin : TwinID → Option TwinState
  assigned : AgentID → TwinID → Option TenantID

namespace Lifecycle

/-- The lifecycle in the empty schema. -/
def empty : Lifecycle := ⟨fun _ => none, fun _ => none, fun _ _ => none⟩

/-! ## Consistency -/

/-- The agent is registered with the tenant and its status is an assigned one. -/
def AgentAssigned (l : Lifecycle) (agent : AgentID) (tenant : TenantID) : Prop :=
  ∃ e, l.edge agent = some e ∧ e.tenant = tenant ∧ e.status.Assigned

/-- The twin exists, belongs to the tenant and is not deleted. -/
def LiveTwin (l : Lifecycle) (twin : TwinID) (tenant : TenantID) : Prop :=
  ∃ t, l.twin twin = some t ∧ t.tenant = tenant ∧ t.deleted = false

/-- The agent has an assignment of the tenant to a live twin of the tenant. -/
def HasTwin (l : Lifecycle) (agent : AgentID) (tenant : TenantID) : Prop :=
  ∃ twin, l.assigned agent twin = some tenant ∧ l.LiveTwin twin tenant

/-- At least one agent is assigned to the twin. -/
def Served (l : Lifecycle) (twin : TwinID) : Prop := ∃ agent, l.assigned agent twin ≠ none

/-- An agent other than `agent` is assigned to the twin. -/
def ServedWithout (l : Lifecycle) (agent : AgentID) (twin : TwinID) : Prop :=
  ∃ other, other ≠ agent ∧ l.assigned other twin ≠ none

/-- The two halves of the lifecycle agree. -/
structure Consistent (l : Lifecycle) : Prop where
  agents : ∀ agent tenant, l.AgentAssigned agent tenant ↔ l.HasTwin agent tenant
  twins : ∀ twin t, l.twin twin = some t → (t.status = .active ↔ l.Served twin)

/-- Assignments lead to live twins of their own tenant, one for each agent. -/
structure WellFormed (l : Lifecycle) : Prop where
  live : ∀ agent twin tenant, l.assigned agent twin = some tenant → l.LiveTwin twin tenant
  single : ∀ agent twin twin', l.assigned agent twin ≠ none → l.assigned agent twin' ≠ none →
    twin = twin'

/-! ## Changes -/

/-- Add a pending twin. -/
def addTwin (l : Lifecycle) (twin : TwinID) (tenant : TenantID) : Lifecycle :=
  { l with twin := fun t => if t = twin then some ⟨tenant, .pending, false⟩ else l.twin t }

/-- Mark a twin of the tenant as deleted. -/
def closeTwin (l : Lifecycle) (twin : TwinID) (tenant : TenantID) : Lifecycle :=
  { l with twin := fun t => (l.twin t).map (fun s =>
      if t = twin ∧ s.tenant = tenant then { s with deleted := true } else s) }

/-- Set the status of a twin of the tenant. -/
def setTwin (l : Lifecycle) (twin : TwinID) (tenant : TenantID) (status : ClusterAgentStatus) :
    Lifecycle :=
  { l with twin := fun t => (l.twin t).map (fun s =>
      if t = twin ∧ s.tenant = tenant then { s with status } else s) }

/-- Remove the assignments to a twin. -/
def releaseTwin (l : Lifecycle) (twin : TwinID) : Lifecycle :=
  { l with assigned := fun a t => if t = twin then none else l.assigned a t }

/-- Remove the assignments of an agent. -/
def release (l : Lifecycle) (agent : AgentID) : Lifecycle :=
  { l with assigned := fun a t => if a = agent then none else l.assigned a t }

/-- Add an assignment. -/
def assign (l : Lifecycle) (agent : AgentID) (twin : TwinID) (tenant : TenantID) : Lifecycle :=
  { l with assigned := fun a t =>
      if a = agent ∧ t = twin then some tenant else l.assigned a t }

/-- Register an agent that is not registered yet. -/
def enroll (l : Lifecycle) (agent : AgentID) (tenant : TenantID) : Lifecycle :=
  { l with edge := fun a =>
      if a = agent then some ((l.edge agent).getD ⟨tenant, .pending⟩) else l.edge a }

/-- Change the status of an agent of the tenant. -/
def setEdge (l : Lifecycle) (agent : AgentID) (tenant : TenantID)
    (status : EdgeAgentStatus → EdgeAgentStatus) : Lifecycle :=
  { l with edge := fun a => (l.edge a).map (fun e =>
      if a = agent ∧ e.tenant = tenant then { e with status := status e.status } else e) }

/-- Remove the registration of an agent of the tenant. -/
def dropEdge (l : Lifecycle) (agent : AgentID) (tenant : TenantID) : Lifecycle :=
  { l with edge := fun a => (l.edge a).filter (fun e => ¬ (a = agent ∧ e.tenant = tenant)) }

/-! ## Calls -/

/-- The agent is registered with the tenant, in a status that `allowed` accepts. -/
def Allows (l : Lifecycle) (agent : AgentID) (tenant : TenantID)
    (allowed : EdgeAgentStatus → Bool) : Prop :=
  ∃ e, l.edge agent = some e ∧ e.tenant = tenant ∧ allowed e.status = true

/-- The calls that are sure to take effect. -/
def Accepts (l : Lifecycle) : Operation → Prop
  | .deleteTwin tenantID twinID => l.LiveTwin twinID tenantID
  | .registerAgent _ twinID tenantID _ _ => l.LiveTwin twinID tenantID
  | .unassignAgent _ => True
  | .deleteAgent _ _ => True
  | .unpairAgent agentID tenantID actorID =>
    actorID ≠ "" ∧ l.Allows agentID tenantID (canTransitionEdge · .unpair) ∧
      ∃ twin, l.assigned agentID twin ≠ none
  | .retireAgent agentID tenantID actorID =>
    actorID ≠ "" ∧ l.Allows agentID tenantID (canTransitionEdge · .retire)
  | .blacklistAgent agentID tenantID _ actorID =>
    actorID ≠ "" ∧ ¬ l.Allows agentID tenantID (· = .blacklisted)
  | .unregisterAgent agentID tenantID actorID =>
    actorID ≠ "" ∧ l.Allows agentID tenantID (fun _ => true)
  | _ => False

/-- The condition on a call that takes effect. -/
def Harmless (l : Lifecycle) : Operation → Prop
  | .deleteTwin _ twinID => ¬ l.Served twinID
  | .registerAgent agentID twinID tenantID _ _ =>
    l.AgentAssigned agentID tenantID ∧ l.Served twinID ∧
      ∀ twin, twin ≠ twinID → l.assigned agentID twin ≠ none → l.ServedWithout agentID twin
  | .unassignAgent agentID => ∀ twin, l.assigned agentID twin = none
  | .deleteAgent agentID tenantID | .blacklistAgent agentID tenantID _ _ =>
    ∀ twin tenant, l.assigned agentID twin = some tenant →
      tenant = tenantID ∧ l.ServedWithout agentID twin
  | .unpairAgent agentID _ _ =>
    ∀ twin, l.assigned agentID twin ≠ none → ¬ l.ServedWithout agentID twin
  | .retireAgent agentID _ _ | .unregisterAgent agentID _ _ =>
    ∀ twin, l.assigned agentID twin ≠ none → l.ServedWithout agentID twin
  | _ => True

/-- A call that takes effect is harmless. -/
def Keeps (l : Lifecycle) (op : Operation) : Prop := l.Accepts op → l.Harmless op

/-- How a call changes the lifecycle. -/
inductive Step (l : Lifecycle) : Operation → Lifecycle → Prop
  | refused {op} (h : ¬ l.Accepts op) : Step l op l
  | createTwin {id tenantID name description} (fresh : l.twin id = none) :
      Step l (.createTwin id tenantID name description) (l.addTwin id tenantID)
  | deleteTwin {tenantID twinID} (live : l.LiveTwin twinID tenantID) :
      Step l (.deleteTwin tenantID twinID) ((l.closeTwin twinID tenantID).releaseTwin twinID)
  | registerAgent {agentID twinID tenantID clientID topicPrefix}
      (live : l.LiveTwin twinID tenantID) :
      Step l (.registerAgent agentID twinID tenantID clientID topicPrefix)
        ((l.release agentID).assign agentID twinID tenantID)
  | unassignAgent {agentID} : Step l (.unassignAgent agentID) (l.release agentID)
  | upsertAgentRegistration {agentID tenantID hostname clientID} :
      Step l (.upsertAgentRegistration agentID tenantID hostname clientID)
        (l.enroll agentID tenantID)
  | createAgent {agentID tenantID name} (fresh : l.edge agentID = none) :
      Step l (.createAgent agentID tenantID name) (l.enroll agentID tenantID)
  | deleteAgent {agentID tenantID} :
      Step l (.deleteAgent agentID tenantID) ((l.release agentID).dropEdge agentID tenantID)
  | updateAgent {agentID tenantID name} :
      Step l (.updateAgent agentID tenantID name)
        (l.setEdge agentID tenantID (fun s => if s = .pending then .deployed else s))
  | pairAgent {agentID twinID tenantID actorID}
      (allowed : l.Allows agentID tenantID (canTransitionEdge · .pair))
      (live : l.LiveTwin twinID tenantID) :
      Step l (.pairAgent agentID twinID tenantID actorID)
        ((((l.release agentID).assign agentID twinID tenantID).setEdge agentID tenantID
          (fun _ => .active)).setTwin twinID tenantID .active)
  | unpairAgent {agentID tenantID actorID twinID}
      (accepted : l.Accepts (.unpairAgent agentID tenantID actorID))
      (row : l.assigned agentID twinID ≠ none) :
      Step l (.unpairAgent agentID tenantID actorID)
        (((l.release agentID).setEdge agentID tenantID (fun _ => .rogue)).setTwin twinID tenantID
          .unconfigured)
  | retireAgent {agentID tenantID actorID}
      (accepted : l.Accepts (.retireAgent agentID tenantID actorID)) :
      Step l (.retireAgent agentID tenantID actorID)
        ((l.release agentID).setEdge agentID tenantID (fun _ => .retired))
  | blacklistAgent {agentID tenantID reason actorID}
      (accepted : l.Accepts (.blacklistAgent agentID tenantID reason actorID)) :
      Step l (.blacklistAgent agentID tenantID reason actorID)
        ((l.release agentID).setEdge agentID tenantID (fun _ => .blacklisted))
  | unregisterAgent {agentID tenantID actorID}
      (accepted : l.Accepts (.unregisterAgent agentID tenantID actorID)) :
      Step l (.unregisterAgent agentID tenantID actorID)
        ((l.release agentID).dropEdge agentID tenantID)

end Lifecycle

end Paryty.Twin

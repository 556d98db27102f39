import Mathlib.Data.Fintype.Basic
import Paryty.Lib.Run
import Paryty.Lib.Writes
import Paryty.Twin.Statements

/-!
# Plan quotas

A plan limits the active twins of a tenant and the agents assigned to a twin. The route that
creates twins counts them in a middleware, `RequireTwinQuota`, and inserts the new one later in
a statement of its own. `RequireAgentQuota` is mounted on no route, so registrations and pairings
meet no check.

`Admits` is what the quotas rely on instead: no two creations of the tenant overlap from count to
insert, and a twin that gets an agent has room for it.
-/

namespace Paryty.Plan

open Lib.Prog (query)
open Twin (AgentID RowKey Result Sql Store TenantID TwinID TwinRow Write)

/-! ## Plans -/

/-- The limits of a plan. -/
structure PlanDefinition where
  maxTwins : ℕ
  agentsPerTwin : ℕ

/-- The plans by name. -/
abbrev PlanEngine := String → Option PlanDefinition

/-- The maximum number of twins; 0 if the plan is unknown. -/
def PlanEngine.getMaxTwins (engine : PlanEngine) (planName : String) : ℕ :=
  match engine planName with
  | none => 0
  | some plan => plan.maxTwins

/-- The maximum number of agents per twin; 0 if the plan is unknown. -/
def PlanEngine.getAgentsPerTwin (engine : PlanEngine) (planName : String) : ℕ :=
  match engine planName with
  | none => 0
  | some plan => plan.agentsPerTwin

/-! ## Counts -/

/-- An active twin of the tenant. -/
def activeOf (tenantID : TenantID) (row : TwinRow) : Bool :=
  row.tenantID = tenantID && !row.deleted

/-- The number of active twins of the tenant. -/
def countTwins (tenantID : TenantID) (s : Store) : ℕ := s.twins.count (activeOf tenantID)

/-- The number of agents assigned to the twin. -/
def countAgentsForTwin (twinID : TwinID) (s : Store) : ℕ :=
  s.assignments.count (fun row => row.twinID = twinID)

/-- The number of other agents assigned to the twin. -/
def countOtherAgents (agentID : AgentID) (twinID : TwinID) (s : Store) : ℕ :=
  s.assignments.count (fun row => row.twinID = twinID && row.agentID ≠ agentID)

/-- The tenant is within the limits of its plan. -/
def WithinQuota (engine : PlanEngine) (planName : String) (tenantID : TenantID) (s : Store) :
    Prop :=
  countTwins tenantID s ≤ engine.getMaxTwins planName ∧
    ∀ twin ∈ s.twins.rows, twin.tenantID = tenantID →
      countAgentsForTwin twin.id s ≤ engine.getAgentsPerTwin planName

/-! ## Statements -/

/-- The statement of the twin quota. -/
inductive CountSql : Type → Type
  /-- `SELECT COUNT(*) FROM paryty_twins WHERE tenant_id AND deleted_at IS NULL` -/
  | countTwins (tenantID : TenantID) : CountSql ℕ

/-- The statements of the requests. -/
inductive Statement (β : Type)
  | count (q : CountSql β)
  | lifecycle (q : Sql β)

/-- What the count answers. -/
def CountSql.run {β : Type} : CountSql β → (snapshot : Store) → β
  | countTwins tenantID, snapshot => Plan.countTwins tenantID snapshot

/-- What a statement answers and writes. -/
def Statement.run {β : Type} : Statement β → (snapshot current : Store) → Option (β × List Write)
  | count q, snapshot, _ => some (q.run snapshot, [])
  | lifecycle q, snapshot, current => q.run snapshot current

/-- The database. -/
def database : Lib.Engine Statement Store Write RowKey where
  run := Statement.run
  apply := Store.apply
  locks := Write.locks

/-! ## Requests -/

/-- The answer of a middleware that stops a request. -/
structure Abort where
  status : ℕ
  error : String
  message : String
deriving DecidableEq

/-- `RequireTwinQuota`: the answer it stops the request with, if it does. -/
def requireTwinQuota (engine : PlanEngine) (tenantID : TenantID) (planName : String) :
    Lib.Prog Statement (Option Abort) := do
  if tenantID = "" then
    return some ⟨401, "UNAUTHENTICATED", "Invalid tenant context."⟩
  if planName = "" then
    return some ⟨401, "UNAUTHENTICATED", "Invalid plan context."⟩
  let maxTwins := engine.getMaxTwins planName
  if maxTwins = 0 then
    return some ⟨402, "PLAN_UNKNOWN", "Your plan does not support Paryty Twins."⟩
  let some current ← query (.count (.countTwins tenantID))
    | return some ⟨500, "INTERNAL", "Failed to check twin quota."⟩
  if current ≥ maxTwins then
    return some ⟨402, "TWIN_LIMIT_REACHED",
      "Twin quota exceeded. Upgrade your plan to create more twins."⟩
  return none

/-- A request. A creation also passes `RequirePermission("twins:write")`. -/
inductive Request
  | createTwin (id : TwinID) (tenantID : TenantID) (name description : String) (permitted : Bool)
  | registerAgent (agentID : AgentID) (twinID : TwinID) (tenantID : TenantID)
      (clientID topicPrefix : String)
  | pairAgent (agentID : AgentID) (twinID : TwinID) (tenantID : TenantID) (actorID : String)
deriving DecidableEq

/-- A request is stopped, or its operation returns. -/
inductive Response
  | aborted (abort : Abort)
  | handled (result : Result Unit)

/-- An operation of the twin manager or the agent assigner. -/
def handle (op : Twin.Operation) : Lib.Prog Statement Response := do
  let result ← op.program.embed .lifecycle
  return .handled result

/-- The program of a request; `planOf` is the plan of a tenant. -/
def Request.program (engine : PlanEngine) (planOf : TenantID → String) :
    Request → Lib.Prog Statement Response
  | createTwin id tenantID name description permitted => do
    if let some abort ← requireTwinQuota engine tenantID (planOf tenantID) then
      return .aborted abort
    if !permitted then
      return .aborted ⟨403, "", "insufficient permissions"⟩
    handle (.createTwin id tenantID name description)
  | registerAgent agentID twinID tenantID clientID topicPrefix =>
    handle (.registerAgent agentID twinID tenantID clientID topicPrefix)
  | pairAgent agentID twinID tenantID actorID => handle (.pairAgent agentID twinID tenantID actorID)

/-- The server of the requests. -/
abbrev Server (ι : Type) := Lib.Server ι Statement Response Request Store Write RowKey

/-- A session of the server. -/
abbrev RequestSession := Lib.Session Statement Response Request Store Write

/-! ## What the quotas rely on -/

/-- A request that creates a twin for the tenant. -/
def Creates (tenantID : TenantID) : Request → Prop
  | .createTwin _ tenantID' _ _ _ => tenantID' = tenantID
  | _ => False

/-- The agent and the twin of a registration or pairing. -/
def Request.assignment : Request → Option (AgentID × TwinID)
  | createTwin .. => none
  | registerAgent agentID twinID _ _ _ => some (agentID, twinID)
  | pairAgent agentID twinID _ _ => some (agentID, twinID)

/-- The statement counts twins. -/
def Statement.counts {β : Type} : Statement β → Bool
  | count _ => true
  | lifecycle _ => false

/-- The write inserts a twin of the tenant. -/
def inserts (tenantID : TenantID) (s : Store) : Write → Bool
  | .twins (.put row) => row.tenantID = tenantID && !s.twins.HasKey row.id
  | _ => false

/-- The session creates a twin for the tenant, has begun to count and has not returned. -/
def MidCreation (tenantID : TenantID) (sess : RequestSession) : Prop :=
  Creates tenantID sess.call ∧
    match sess.prog with
    | .stmt q _ => q.counts = true → sess.snapshot.isSome = true
    | _ => False

/-- If with the action a twin of the tenant appears, no other creation is between its count and
its end. -/
def Exclusive {ι : Type} (tenantID : TenantID) (d : Server ι) (i : ι) (writes : List Write) :
    Prop :=
  (∃ w ∈ writes, inserts tenantID d.store w = true) →
    ∀ j, j ≠ i → ∀ sess ∈ d.sessions j, ¬ MidCreation tenantID sess

/-- If with the action an agent is assigned to a twin of the tenant, there is room for it. -/
def HasRoom (engine : PlanEngine) (planName : String) (tenantID : TenantID) (s : Store)
    (writes : List Write) : Prop :=
  ∀ w ∈ writes, match w with
    | .assignments (.put row) => (∃ twin ∈ s.twins.rows, twin.id = row.twinID ∧
        twin.tenantID = tenantID) →
      countOtherAgents row.agentID row.twinID s < engine.getAgentsPerTwin planName
    | _ => True

/-- Creations of the tenant do not overlap from count to insert, and its twins get agents only
where there is room. -/
def Admits {ι : Type} (engine : PlanEngine) (planName : String) (tenantID : TenantID)
    (d : Server ι) : Lib.ServerEvent ι Request → Prop
  | .act i a => ∀ sess ∈ d.sessions i,
      Exclusive tenantID d i (sess.visible database d.store a) ∧
        HasRoom engine planName tenantID d.store (sess.visible database d.store a)
  | _ => True

section Decidable

instance (engine : PlanEngine) (planName : String) (tenantID : TenantID) (s : Store) :
    Decidable (WithinQuota engine planName tenantID s) := inferInstanceAs (Decidable (_ ∧ _))

variable {ι : Type} [Fintype ι] [DecidableEq ι] (engine : PlanEngine) (planName : String)
  (tenantID : TenantID)

instance : DecidablePred (Creates tenantID) := fun request => by
  cases request <;> unfold Creates <;> infer_instance

instance : DecidablePred (MidCreation tenantID) := fun sess => by
  unfold MidCreation
  have : Decidable (match sess.prog with
      | .stmt q _ => q.counts = true → sess.snapshot.isSome = true
      | _ => False) := by
    split <;> infer_instance
  infer_instance

instance (d : Server ι) (i : ι) (writes : List Write) : Decidable (Exclusive tenantID d i writes) :=
  inferInstanceAs (Decidable ((∃ w ∈ writes, inserts tenantID d.store w = true) →
    ∀ j, j ≠ i → ∀ sess ∈ d.sessions j, ¬ MidCreation tenantID sess))

instance (s : Store) (writes : List Write) :
    Decidable (HasRoom engine planName tenantID s writes) := by
  unfold HasRoom
  have (w : Write) : Decidable (match w with
      | .assignments (.put row) => (∃ twin ∈ s.twins.rows, twin.id = row.twinID ∧
          twin.tenantID = tenantID) →
        countOtherAgents row.agentID row.twinID s < engine.getAgentsPerTwin planName
      | _ => True) := by
    split <;> infer_instance
  infer_instance

instance (d : Server ι) (e : Lib.ServerEvent ι Request) :
    Decidable (Admits engine planName tenantID d e) :=
  match e with
  | .act i a => inferInstanceAs (Decidable (∀ sess ∈ d.sessions i,
      Exclusive tenantID d i (sess.visible database d.store a) ∧
        HasRoom engine planName tenantID d.store (sess.visible database d.store a)))
  | .call _ _ => isTrue trivial
  | .finish _ => isTrue trivial

end Decidable

end Paryty.Plan

import Paryty.Lib.Run
import Paryty.Twin.Statements
import Mathlib.Data.Fintype.Basic

/-!
# Blacklisting among concurrent calls

The database server runs the lifecycle calls in interleaved sessions. For one agent and tenant a
monitor records when the agent is barred: from the moment `BlacklistAgent` has returned
successfully until `UnregisterAgent` is called. "BlacklistAgent blocks an edge agent from ever
registering again": a barred agent must not have an assignment of the tenant, and its status
must not be one of those that are assigned or can be paired.

`PairAgent` looks at the blacklist and `UnpairAgent` at the status, both before they open their
transaction; `RegisterAgent` and `UpsertAgentRegistration` look at neither. `Orderly` is what
callers have to respect because of that.
-/

namespace Paryty.Twin

/-- The states of an agent without a twin, from which it can be paired. -/
def EdgeAgentStatus.Unassigned (status : EdgeAgentStatus) : Prop :=
  status = .unconfigured ∨ status = .pending ∨ status = .rogue

/-- The states a barred agent must not be in. -/
def EdgeAgentStatus.Admitted (status : EdgeAgentStatus) : Prop :=
  status.Unassigned ∨ status = .active ∨ status = .lost

instance : DecidablePred EdgeAgentStatus.Admitted := fun status =>
  inferInstanceAs (Decidable
    ((status = .unconfigured ∨ status = .pending ∨ status = .rogue) ∨
      status = .active ∨ status = .lost))

/-- The database server with the lifecycle calls. -/
abbrev Database (ι : Type) := Lib.Server ι Sql (Result Unit) Operation Store Write RowKey

/-- A session of the server. -/
abbrev CallSession := Lib.Session Sql (Result Unit) Operation Store Write

/-- The server and the monitor of one agent. -/
structure Watched (ι : Type) where
  server : Database ι
  barred : Bool

namespace Watched

variable {ι : Type} [DecidableEq ι]

/-- An empty schema, no sessions, nobody barred. -/
def init : Watched ι := ⟨.init {}, false⟩

/-- Whether a session that closes is a blacklisting of the agent that succeeded. -/
def Bars (agent : AgentID) (tenant : TenantID) (sess : CallSession) : Bool :=
  match sess.call, sess.prog with
  | .blacklistAgent agentID tenantID _ _, .ret (.ok _) => agentID = agent && tenantID = tenant
  | _, _ => false

/-- Whether a call is an unregistration of the agent. -/
def Unregisters (agent : AgentID) (tenant : TenantID) : Operation → Bool
  | .unregisterAgent agentID tenantID _ => agentID = agent && tenantID = tenant
  | _ => false

/-- The monitor's step. -/
def barredAfter (agent : AgentID) (tenant : TenantID) (w : Watched ι) :
    Lib.ServerEvent ι Operation → Bool
  | .call _ op => w.barred && !Unregisters agent tenant op
  | .act _ _ => w.barred
  | .finish i => w.barred || (w.server.sessions i).any (Bars agent tenant)

/-- One event of the server, under the eyes of the monitor. -/
def step (agent : AgentID) (tenant : TenantID) (w : Watched ι)
    (e : Lib.ServerEvent ι Operation) : Option (Watched ι) :=
  (w.server.step engine Operation.program e).map
    (fun server => { server, barred := w.barredAfter agent tenant e })

end Watched

/-! ## What being barred means -/

/-- The facts about a barred agent. -/
inductive Ban
  | listed
  | noRow (twin : TwinID)
  | status

/-- The agent is on the blacklist of the tenant; it has no assignment of the tenant to the twin;
if it is registered with the tenant, its status is not an admitted one. -/
def Ban.Holds (agent : AgentID) (tenant : TenantID) : Ban → Store → Prop
  | listed, s => s.blacklist.find? (tenant, agent) ≠ none
  | noRow twin, s => ∀ row, s.assignments.find? (agent, twin) = some row → row.tenantID ≠ tenant
  | status, s => ∀ row, s.registrations.find? agent = some row → row.tenantID = tenant →
      ¬ row.status.Admitted

/-- No assignment row of the agent and tenant, and no registration of it in an admitted status. -/
def KeptOut (agent : AgentID) (tenant : TenantID) (s : Store) : Prop :=
  (∀ row ∈ s.assignments, ¬ (row.agentID = agent ∧ row.tenantID = tenant)) ∧
    ∀ row ∈ s.registrations, row.agentID = agent → row.tenantID = tenant → ¬ row.status.Admitted

/-! ## Orderly callers -/

/-- A call of `BlacklistAgent` for the agent. -/
def Blacklists (agent : AgentID) (tenant : TenantID) : Operation → Prop
  | .blacklistAgent agentID tenantID _ _ => agentID = agent ∧ tenantID = tenant
  | _ => False

/-- A call that writes an assignment or an admitted status of the agent, or takes it off the
blacklist, on grounds it checks before it writes, if at all. -/
def Readmits (agent : AgentID) (tenant : TenantID) : Operation → Prop
  | .registerAgent agentID _ tenantID _ _ => agentID = agent ∧ tenantID = tenant
  | .pairAgent agentID _ tenantID _ => agentID = agent ∧ tenantID = tenant
  | .unpairAgent agentID tenantID _ => agentID = agent ∧ tenantID = tenant
  | .unregisterAgent agentID tenantID _ => agentID = agent ∧ tenantID = tenant
  | _ => False

/-- A call that checks neither the blacklist nor the status of the agent. -/
def Unchecked (agent : AgentID) (tenant : TenantID) : Operation → Prop
  | .registerAgent agentID _ tenantID _ _ => agentID = agent ∧ tenantID = tenant
  | _ => False

instance (agent : AgentID) (tenant : TenantID) : DecidablePred (Blacklists agent tenant) := fun op => by
  cases op <;> unfold Blacklists <;> infer_instance

instance (agent : AgentID) (tenant : TenantID) : DecidablePred (Readmits agent tenant) := fun op => by
  cases op <;> unfold Readmits <;> infer_instance

instance (agent : AgentID) (tenant : TenantID) : DecidablePred (Unchecked agent tenant) := fun op => by
  cases op <;> unfold Unchecked <;> infer_instance

namespace Watched

variable {ι : Type}

/-- A session with such a call is open. -/
def Open (w : Watched ι) (p : Operation → Prop) : Prop :=
  ∃ i sess, w.server.sessions i = some sess ∧ p sess.call

instance [Fintype ι] (w : Watched ι) (p : Operation → Prop) [DecidablePred p] :
    Decidable (w.Open p) :=
  decidable_of_iff (∃ i, ∃ sess ∈ w.server.sessions i, p sess.call)
    (by simp only [Open, Option.mem_def])

/-- The agent is barred or about to be. -/
def Watching (agent : AgentID) (tenant : TenantID) (w : Watched ι) : Prop :=
  w.barred = true ∨ w.Open (Blacklists agent tenant)

instance [Fintype ι] (agent : AgentID) (tenant : TenantID) (w : Watched ι) :
    Decidable (w.Watching agent tenant) :=
  inferInstanceAs (Decidable (w.barred = true ∨ w.Open (Blacklists agent tenant)))

end Watched

/-- A statement that would register the agent anew: its own row must be there already. -/
def Registered (agent : AgentID) (tenant : TenantID) {β : Type} : Sql β → Store → Prop
  | .upsertRegistration agentID tenantID _ _, s =>
    agentID = agent → tenantID = tenant → s.registrations.HasKey agentID
  | .insertRegistration row, _ => ¬ (row.agentID = agent ∧ row.tenantID = tenant)
  | _, _ => True

instance (agent : AgentID) (tenant : TenantID) {β : Type} (q : Sql β) (s : Store) :
    Decidable (Registered agent tenant q s) := by
  cases q <;> unfold Registered <;> infer_instance

/-- What callers have to respect. A call that readmits the agent does not overlap a
blacklisting of it, unless the agent is barred already; a barred agent is not registered with a
twin; and while the agent is barred or about to be, nobody registers it for the first time. -/
def Orderly {ι : Type} (agent : AgentID) (tenant : TenantID) (w : Watched ι) :
    Lib.ServerEvent ι Operation → Prop
  | .call _ op =>
    (Blacklists agent tenant op → w.barred = true ∨ ¬ w.Open (Readmits agent tenant)) ∧
    (Readmits agent tenant op → w.barred = true ∨ ¬ w.Open (Blacklists agent tenant)) ∧
    (Unchecked agent tenant op → w.barred = false) ∧
    (Watched.Unregisters agent tenant op = true → ¬ w.Open (Blacklists agent tenant))
  | .act i .answer =>
    w.Watching agent tenant → ∀ sess, w.server.sessions i = some sess →
      sess.Permitted (Registered agent tenant) w.server.store
  | _ => True

instance (agent : AgentID) (tenant : TenantID) (sess : CallSession) (s : Store) :
    Decidable (sess.Permitted (Registered agent tenant) s) := by
  unfold Lib.Session.Permitted
  split <;> infer_instance

instance {ι : Type} [Fintype ι] (agent : AgentID) (tenant : TenantID) (w : Watched ι)
    (e : Lib.ServerEvent ι Operation) : Decidable (Orderly agent tenant w e) :=
  match e with
  | .call _ _ => inferInstanceAs (Decidable (_ ∧ _ ∧ _ ∧ _))
  | .act i .answer =>
    decidable_of_iff (w.Watching agent tenant → ∀ sess ∈ w.server.sessions i,
      sess.Permitted (Registered agent tenant) w.server.store) (by simp [Orderly])
  | .act _ .issue => isTrue trivial
  | .act _ .fail => isTrue trivial
  | .act _ .control => isTrue trivial
  | .finish _ => isTrue trivial

end Paryty.Twin

import Paryty.Lib.Failures
import Paryty.Twin.Refinement

/-!
# Errors of the agent lifecycle

What a lifecycle operation of the agent assigner leaves behind when it returns an error. The
database may refuse any of its requests: a statement, the begin of the transaction, the commit.

* `PairAgent`, `UnpairAgent`, `RetireAgent` and `BlacklistAgent` read first and write in a
  transaction, so an error leaves the tables alone.
* `UnassignAgent` is a single statement.
* `RegisterAgent` and `DeleteAgent` issue two writes without a transaction. `Unprotected` says
  when the first one outlives the error of the second.
-/

namespace Paryty.Twin

open Lib.Prog (ReadOnly Transactional effect execFailing)
open Lib.Table (find?_eq_some find?_deletes hasKey_iff_find? deletes_eq_nil_iff)

/-- The operations that move an edge agent through its lifecycle. -/
def Operation.OfLifecycle : Operation → Prop
  | .registerAgent .. | .deleteAgent .. | .unassignAgent .. => True
  | .pairAgent .. | .unpairAgent .. | .retireAgent .. | .blacklistAgent .. => True
  | _ => False

/-- The result of a call and the tables after it, if the database refuses the requests that
`fails` says. -/
def Operation.attempt (op : Operation) (fails : ℕ → Bool) (s : Store) : Result Unit × Store :=
  op.program.execFailing engine fails (.error "begin tx") 0 s .idle

/-- Two stores with the same assignments, edge agents and twins. -/
structure SameAgents (s t : Store) : Prop where
  assignments : t.assignments = s.assignments
  registrations : t.registrations = s.registrations
  twins : t.twins = s.twins

lemma SameAgents.refl (s : Store) : SameAgents s s := ⟨rfl, rfl, rfl⟩

/-- If the call returns an error, the assignments, edge agents and twins are as before. -/
def Operation.AtomicOnError (op : Operation) (fails : ℕ → Bool) (s : Store) : Prop :=
  (op.attempt fails s).1.isOk = false → SameAgents s (op.attempt fails s).2

/-- The agent is assigned to a twin. -/
def Store.Assigned (s : Store) (agentID : AgentID) : Prop :=
  ∃ row ∈ s.assignments, row.agentID = agentID

/-- The agent is registered by the tenant. -/
def Store.Registered (s : Store) (agentID : AgentID) (tenantID : TenantID) : Prop :=
  ∃ row ∈ s.registrations, row.is agentID tenantID = true

/-- The first write of the operation removes an assignment, and the second one fails. -/
def Operation.Unprotected (op : Operation) (fails : ℕ → Bool) (s : Store) : Prop :=
  match op with
  | .registerAgent agentID twinID tenantID _ _ =>
    fails 0 = false ∧ (view s).LiveTwin twinID tenantID ∧
      fails 1 = false ∧ s.Assigned agentID ∧ fails 2 = true
  | .deleteAgent agentID tenantID =>
    fails 0 = false ∧ s.Assigned agentID ∧ (fails 1 = true ∨ ¬ s.Registered agentID tenantID)
  | _ => False

/-! ## Operations with a transaction -/

section Transactions

variable {agentID : AgentID} {twinID : TwinID} {tenantID : TenantID} {actorID reason : String}
  {fails : ℕ → Bool} {s : Store}

/-- The result is not an error. -/
def Succeeded (result : Result Unit) : Prop := result.isOk = true

lemma readOnly_isBlacklisted : ReadOnly engine (.isBlacklisted tenantID agentID) := by
  rintro store answer h
  obtain rfl := Option.some.inj h
  rfl

lemma readOnly_agentStatus : ReadOnly engine (.agentStatus agentID tenantID) := by
  rintro store answer h
  obtain rfl := Option.some.inj h
  rfl

lemma readOnly_twinExists : ReadOnly engine (.twinExists twinID tenantID) := by
  rintro store answer h
  obtain rfl := Option.some.inj h
  rfl

lemma readOnly_assignedTwin : ReadOnly engine (.assignedTwin agentID) := by
  rintro store answer h
  obtain rfl := Option.some.inj h
  rfl

lemma transactional_commit : Transactional engine Succeeded true commit :=
  .commit rfl rfl rfl

lemma transactional_pairAgent : Transactional engine Succeeded false
    (pairAgent agentID twinID tenantID actorID) := by
  refine .readQuery readOnly_isBlacklisted fun blacklisted => ?_
  split
  case h_2 => exact .ret _
  split
  · exact .ret _
  refine .readQuery readOnly_agentStatus fun currentStatus => ?_
  split
  case h_2 => exact .ret _
  split
  · exact .ret _
  refine .readQuery readOnly_twinExists fun twinExists => ?_
  split
  case h_2 => exact .ret _
  split
  · exact .ret _
  refine .beginTx (.query fun cleared => ?_)
  split
  case h_2 => exact .ret _
  refine .query fun inserted => ?_
  split
  case h_2 => exact .ret _
  refine .query fun agentUpdated => ?_
  split
  case h_2 => exact .ret _
  refine .query fun twinUpdated => ?_
  split
  case h_2 => exact .ret _
  refine .query fun logged => ?_
  split
  · exact transactional_commit
  · exact .ret _

lemma transactional_unpairAgent : Transactional engine Succeeded false
    (unpairAgent agentID tenantID actorID) := by
  refine .readQuery readOnly_agentStatus fun currentStatus => ?_
  split
  case h_2 => exact .ret _
  split
  · exact .ret _
  refine .readQuery readOnly_assignedTwin fun assigned => ?_
  split
  case h_2 => exact .ret _
  refine .beginTx (.query fun deleted => ?_)
  split
  case h_2 => exact .ret _
  refine .query fun agentUpdated => ?_
  split
  case h_2 => exact .ret _
  refine .query fun twinUpdated => ?_
  split
  case h_2 => exact .ret _
  refine .query fun logged => ?_
  split
  · exact transactional_commit
  · exact .ret _

lemma transactional_retireAgent : Transactional engine Succeeded false
    (retireAgent agentID tenantID actorID) := by
  refine .readQuery readOnly_agentStatus fun currentStatus => ?_
  split
  case h_2 => exact .ret _
  split
  · exact .ret _
  refine .beginTx (.query fun deleted => .query fun agentUpdated => ?_)
  split
  case h_2 => exact .ret _
  refine .query fun logged => ?_
  split
  · exact transactional_commit
  · exact .ret _

lemma transactional_blacklistAgent : Transactional engine Succeeded false
    (blacklistAgent agentID tenantID reason actorID) := by
  refine .readQuery readOnly_agentStatus fun currentStatus => ?_
  split
  · exact .ret _
  refine .beginTx (.query fun inserted => ?_)
  split
  case h_2 => exact .ret _
  exact .query fun deleted => .query fun updated => .query fun logged => transactional_commit

lemma atomicOnError_of_transactional {op : Operation}
    (h : Transactional engine Succeeded false op.program) : op.AtomicOnError fails s := by
  intro herror
  have hfailed : ¬ Succeeded (op.attempt fails s).1 := by
    rw [Succeeded, herror]
    exact Bool.false_ne_true
  have hsame : (op.attempt fails s).2 = s := h.unchanged (by simp) hfailed
  rw [hsame]
  exact ⟨rfl, rfl, rfl⟩

end Transactions

/-! ## Operations without a transaction -/

section Statements

variable {agentID : AgentID} {twinID : TwinID} {tenantID : TenantID}
  {clientID topicPrefix : String} {fails : ℕ → Bool} {s : Store}

/-- `DELETE FROM agent_assignments WHERE agent_id` changes the assignments of an assigned agent,
and no other table. -/
lemma effect_release (agentID : AgentID) (s : Store) :
    ∃ n s₁, effect engine (.deleteAssignments agentID) s = some (n, s₁) ∧
      view s₁ = (view s).release agentID ∧ (SameAgents s s₁ ↔ ¬ s.Assigned agentID) := by
  obtain ⟨n, s₁, heffect, hview⟩ := effect_deleteAssignments agentID s
  refine ⟨n, s₁, heffect, hview, ?_⟩
  have hwrites : effect engine (.deleteAssignments agentID) s = some (_, _) :=
    effect_affected rfl
  obtain ⟨rfl, rfl⟩ := Prod.ext_iff.mp (Option.some.inj (heffect.symm.trans hwrites))
  rw [foldl_assignments]
  constructor
  · rintro ⟨hsame, -, -⟩ ⟨row, hrow, rfl⟩
    have hbefore : s.assignments.find? row.key = some row := find?_eq_some.mpr ⟨hrow, rfl⟩
    have hafter := congrArg (Lib.Table.find? · row.key) hsame
    simp only [find?_deletes, hbefore, Option.filter_some] at hafter
    simp at hafter
  · intro hfree
    have hnone : s.assignments.deletes s.assignments (fun row => row.agentID = agentID) = [] := by
      rw [deletes_eq_nil_iff, List.any_eq_false]
      intro row hrow hagent
      exact hfree ⟨row, hrow, by simpa using hagent⟩
    exact ⟨by rw [hnone]; rfl, rfl, rfl⟩

/-- `DELETE FROM agent_registrations WHERE agent_id AND tenant_id` removes nothing if the tenant
has not registered the agent. -/
lemma effect_unregister (agentID : AgentID) (tenantID : TenantID) (s : Store) :
    ∃ n s₁, effect engine (.deleteRegistration agentID tenantID) s = some (n, s₁) ∧
      (n = 0 ↔ ¬ s.Registered agentID tenantID) ∧ (n = 0 → s₁ = s) := by
  refine ⟨_, _, effect_affected rfl, ?_, ?_⟩
  · rw [List.length_eq_zero_iff, deletes_eq_nil_iff, List.any_eq_false]
    constructor
    · rintro hnone ⟨row, hrow, his⟩
      exact hnone row hrow his
    · intro hfree row hrow his
      exact hfree ⟨row, hrow, his⟩
  · intro hzero
    rw [List.length_eq_zero_iff.mp hzero]
    rfl

lemma isOk_outcome {ρ : Type} (result : Result ρ) : (outcome result).isOk = result.isOk := by
  cases result with
  | error err => rfl
  | ok r => rfl

lemma atomicOnError_registerAgent :
    (Operation.registerAgent agentID twinID tenantID clientID topicPrefix).AtomicOnError fails s ↔
      ¬ (Operation.registerAgent agentID twinID tenantID clientID topicPrefix).Unprotected
        fails s := by
  have hattempt :
      (Operation.registerAgent agentID twinID tenantID clientID topicPrefix).attempt fails s =
        (execFailing engine fails (.error "begin tx")
          (registerAgent agentID twinID tenantID clientID topicPrefix) 0 s .idle).map outcome id :=
    Lib.Prog.execFailing_map outcome (.error "begin tx") _ 0 s .idle
  rw [Operation.AtomicOnError, hattempt, Prod.map_fst, Prod.map_snd, isOk_outcome, id_eq]
  unfold Operation.Unprotected
  cases h₀ : fails 0 with
  | true => simp [registerAgent, execFailing, h₀, SameAgents.refl]
  | false =>
    obtain ⟨b, hexists, hb⟩ := effect_twinExists twinID tenantID s
    by_cases hlive : (view s).LiveTwin twinID tenantID
    case neg =>
      have hfalse : b = false := by simpa using mt hb.mp hlive
      simp [registerAgent, execFailing, h₀, hexists, hfalse, hlive, SameAgents.refl]
    case pos =>
      cases h₁ : fails 1 with
      | true => simp [registerAgent, execFailing, h₀, h₁, hexists, hb.mpr hlive, SameAgents.refl]
      | false =>
        obtain ⟨n, s₁, hclear, hview₁, hsame⟩ := effect_release agentID s
        cases h₂ : fails 2 with
        | true =>
          simp [registerAgent, execFailing, h₀, h₁, h₂, hexists, hb.mpr hlive, hclear, hlive,
            hsame, Except.isOk, Except.toBool]
        | false =>
          have hfresh : (view s₁).assigned agentID twinID = none := by
            rw [hview₁, Lifecycle.release_free]
          have hforeign : (view s₁).twin twinID ≠ none := by
            obtain ⟨t, ht, -⟩ := hlive
            have htwin : (view s₁).twin twinID = some t := by rw [hview₁, ← ht]; rfl
            simp [htwin]
          -- The agent has just been released, so the insert meets no duplicate.
          obtain ⟨m, s₂, hinsert, -⟩ := effect_insertAssignment
            { agentID, twinID, tenantID, clientID, topicPrefix } s₁ hfresh hforeign
          simp [registerAgent, execFailing, h₀, h₁, h₂, hexists, hb.mpr hlive, hclear, hinsert,
            Except.isOk, Except.toBool]

lemma atomicOnError_deleteAgent :
    (Operation.deleteAgent agentID tenantID).AtomicOnError fails s ↔
      ¬ (Operation.deleteAgent agentID tenantID).Unprotected fails s := by
  unfold Operation.AtomicOnError Operation.attempt Operation.program Operation.Unprotected
  cases h₀ : fails 0 with
  | true => simp [deleteAgent, execFailing, h₀, SameAgents.refl]
  | false =>
    obtain ⟨n, s₁, hclear, hview₁, hsame⟩ := effect_release agentID s
    have hregistered : s₁.Registered agentID tenantID ↔ s.Registered agentID tenantID := by
      -- The first statement leaves the registrations alone.
      have hwrites : effect engine (.deleteAssignments agentID) s = some (_, _) :=
        effect_affected rfl
      obtain ⟨-, rfl⟩ := Prod.ext_iff.mp (Option.some.inj (hclear.symm.trans hwrites))
      rw [foldl_assignments]
      rfl
    cases h₁ : fails 1 with
    | true =>
      simp [deleteAgent, execFailing, h₀, h₁, hclear, hsame, Except.isOk, Except.toBool]
    | false =>
      obtain ⟨m, s₂, hdelete, hzero, hkeep⟩ := effect_unregister agentID tenantID s₁
      by_cases hm : m = 0
      · have hfree : ¬ s.Registered agentID tenantID := fun h => hzero.mp hm (hregistered.mpr h)
        simp [deleteAgent, execFailing, h₀, h₁, hclear, hdelete, hm, hkeep hm, hsame, hfree,
          Except.isOk, Except.toBool]
      · have hfound : s.Registered agentID tenantID :=
          hregistered.mp (not_not.mp (mt hzero.mpr hm))
        simp [deleteAgent, execFailing, h₀, h₁, hclear, hdelete, hm, hfound, Except.isOk,
          Except.toBool]

/-- The only statement of `UnassignAgent` takes effect or not. -/
lemma atomicOnError_unassignAgent : (Operation.unassignAgent agentID).AtomicOnError fails s := by
  unfold Operation.AtomicOnError Operation.attempt Operation.program
  cases h₀ : fails 0 with
  | true => simp [unassignAgent, execFailing, h₀, SameAgents.refl]
  | false =>
    obtain ⟨n, s₁, hclear, -⟩ := effect_release agentID s
    simp [unassignAgent, execFailing, h₀, hclear, Except.isOk, Except.toBool]

end Statements

/-- For every state of the tables and every choice of the requests that fail: the error of a
lifecycle operation leaves the assignments, edge agents and twins as they were, unless the first
of its two bare writes has removed an assignment and the second one fails. -/
theorem atomicOnError_iff (op : Operation) (hop : op.OfLifecycle) (fails : ℕ → Bool) (s : Store) :
    op.AtomicOnError fails s ↔ ¬ op.Unprotected fails s := by
  cases op with
  | registerAgent agentID twinID tenantID clientID topicPrefix => exact atomicOnError_registerAgent
  | deleteAgent agentID tenantID => exact atomicOnError_deleteAgent
  | unassignAgent agentID => exact iff_of_true atomicOnError_unassignAgent id
  | pairAgent agentID twinID tenantID actorID =>
    exact iff_of_true (atomicOnError_of_transactional transactional_pairAgent) id
  | unpairAgent agentID tenantID actorID =>
    exact iff_of_true (atomicOnError_of_transactional transactional_unpairAgent) id
  | retireAgent agentID tenantID actorID =>
    exact iff_of_true (atomicOnError_of_transactional transactional_retireAgent) id
  | blacklistAgent agentID tenantID reason actorID =>
    exact iff_of_true (atomicOnError_of_transactional transactional_blacklistAgent) id
  | createTwin | deleteTwin | upsertAgentRegistration | createAgent | updateAgent
    | unregisterAgent | heartbeat => exact hop.elim

/-- Two twins of a tenant, and an agent that is registered and assigned to the first. -/
def assignedStore : Store :=
  [ Operation.createTwin "floor" "acme" "Floor" "",
    .createTwin "roof" "acme" "Roof" "",
    .upsertAgentRegistration "web-1" "acme" "web-1.local" "web-1",
    .registerAgent "web-1" "floor" "acme" "" "" ].foldl (fun s op => op.perform s) {}

/-- Retiring an agent changes nothing if the update of its status fails. -/
theorem atomicOnError_iff_retireAgent :
    (Operation.retireAgent "web-1" "acme" "0b9a").AtomicOnError (fun n => n = 3) assignedStore ↔
      ¬ (Operation.retireAgent "web-1" "acme" "0b9a").Unprotected (fun n => n = 3) assignedStore :=
  atomicOnError_iff (.retireAgent "web-1" "acme" "0b9a") trivial _ _

/-- Moving an agent to another twin loses its assignment if the insert fails, and so does a
deletion of the agent whose second statement fails. -/
theorem registerAgent_loses_assignment :
    ¬ (Operation.registerAgent "web-1" "roof" "acme" "" "").AtomicOnError (fun n => n = 2)
        assignedStore ∧
      ¬ (Operation.deleteAgent "web-1" "acme").AtomicOnError (fun n => n = 1) assignedStore := by
  constructor
  · intro h
    exact absurd (h (by decide)).assignments (by decide)
  · intro h
    exact absurd (h (by decide)).assignments (by decide)

end Paryty.Twin

import Paryty.Twin.Backlog
import Paryty.Twin.Statements

/-!
# Tenant isolation of the lifecycle store

A call on behalf of a tenant is isolated if none of its row writes touches an assignment, a
registration or a backlog of another tenant. Statements that select by agent or by twin alone
do not look at the tenant of the rows they find, so a call is isolated only where the state
happens to spare the others: `Call.Spares` says where.

* `Sql.Within` says of a statement that the rows it selects are the tenant's;
  `isolated_of_within` is the fact about the statements, one case per statement.
* `isolated_iff` is the exact condition of each call, `lifecycle_store_isolated` the same along
  every run of calls from every state.
-/

namespace Paryty.Twin

open Lib (Throughout throughout_append throughout_of_nodup throughout_of_all throughout_map)

/-! ## Foreign rows -/

/-- The write touches an assignment or a registration of another tenant. -/
def Write.Foreign (tenantID : TenantID) (s : Store) : Write → Prop
  | .assignments w => w.Touches (fun row => row.tenantID ≠ tenantID) s.assignments
  | .registrations w => w.Touches (fun row => row.tenantID ≠ tenantID) s.registrations
  | .twins _ | .blacklist _ | .statusLog _ => False

/-- The backlog belongs to another tenant: that of its twin. -/
def Tables.BacklogElsewhere (tenantID : TenantID) (d : Tables) (row : BacklogRow) : Prop :=
  ∃ twin ∈ d.lifecycle.twins, twin.id = row.twinID ∧ twin.tenantID ≠ tenantID

/-- The write touches an assignment, a registration or a backlog of another tenant. -/
def TablesWrite.Foreign (tenantID : TenantID) (d : Tables) : TablesWrite → Prop
  | .lifecycle w => w.Foreign tenantID d.lifecycle
  | .backlogs w => w.Touches (d.BacklogElsewhere tenantID) d.backlogs
  | .commands _ => False

/-- None of the writes is foreign when it is performed. -/
def Store.Isolated (tenantID : TenantID) : Store → List Write → Prop :=
  Throughout engine (fun s w => ¬ w.Foreign tenantID s)

/-- The same for the whole database. -/
def Tables.Isolated (tenantID : TenantID) : Tables → List TablesWrite → Prop :=
  Throughout tablesEngine (fun d w => ¬ w.Foreign tenantID d)

/-! ## On whose behalf -/

/-- The tenant an operation is told, if it asks for one. -/
def Operation.tenant? : Operation → Option TenantID
  | .createTwin _ tenantID _ _ => some tenantID
  | .deleteTwin tenantID _ => some tenantID
  | .registerAgent _ _ tenantID _ _ => some tenantID
  | .unassignAgent _ => none
  | .upsertAgentRegistration _ tenantID _ _ => some tenantID
  | .createAgent _ tenantID _ => some tenantID
  | .deleteAgent _ tenantID => some tenantID
  | .updateAgent _ tenantID _ => some tenantID
  | .pairAgent _ _ tenantID _ => some tenantID
  | .unpairAgent _ tenantID _ => some tenantID
  | .retireAgent _ tenantID _ => some tenantID
  | .blacklistAgent _ tenantID _ _ => some tenantID
  | .unregisterAgent _ tenantID _ => some tenantID
  | .heartbeat _ => none

/-- The call is made on behalf of the tenant: it is told no other. -/
def Call.OnBehalfOf (tenantID : TenantID) : Call → Prop
  | .lifecycle op => ∀ told ∈ op.tenant?, told = tenantID
  | .upsertBacklog .. | .acceptBacklog _ | .rejectBacklog _ => True

instance (tenantID : TenantID) : (call : Call) → Decidable (call.OnBehalfOf tenantID)
  | .lifecycle op => inferInstanceAs (Decidable (∀ told ∈ op.tenant?, told = tenantID))
  | .upsertBacklog .. | .acceptBacklog _ | .rejectBacklog _ => isTrue trivial

/-! ## Where a call spares the others -/

/-- The assignments selected by `p` are the tenant's. -/
def Store.Owns (tenantID : TenantID) (p : AssignmentRow → Bool) (s : Store) : Prop :=
  ∀ row ∈ s.assignments, p row = true → row.tenantID = tenantID

/-- All assignments of the agent are the tenant's. -/
abbrev Store.OwnsAgent (tenantID : TenantID) (agentID : AgentID) : Store → Prop :=
  Store.Owns tenantID (fun row => row.agentID = agentID)

/-- All assignments to the twin are the tenant's. -/
abbrev Store.OwnsTwin (tenantID : TenantID) (twinID : TwinID) : Store → Prop :=
  Store.Owns tenantID (fun row => row.twinID = twinID)

/-- The tenant has the twin, and it is not deleted. -/
def Store.TwinLive (tenantID : TenantID) (twinID : TwinID) (s : Store) : Prop :=
  ∃ row ∈ s.twins, row.id = twinID ∧ row.tenantID = tenantID ∧ row.deleted = false

/-- The status of the tenant's agent. -/
def Store.statusOf (tenantID : TenantID) (agentID : AgentID) (s : Store) : Option EdgeAgentStatus :=
  (s.registrations.rows.find? (RegistrationRow.is agentID tenantID)).map RegistrationRow.status

/-- The tenant's agent is in a status from which the action leads on. -/
def Store.Allows (tenantID : TenantID) (agentID : AgentID) (action : EdgeAction) (s : Store) :
    Prop :=
  ∃ status, s.statusOf tenantID agentID = some status ∧ canTransitionEdge status action

/-- Where an operation finds no row of another tenant: the assignments of its agent are the
tenant's, if the operation gets as far as to delete them and to commit. -/
def Operation.Spares (tenantID : TenantID) (s : Store) : Operation → Prop
  | .createTwin .. => True
  | .deleteTwin _ twinID => s.TwinLive tenantID twinID → s.OwnsTwin tenantID twinID
  | .registerAgent agentID twinID _ _ _ =>
      s.TwinLive tenantID twinID → s.OwnsAgent tenantID agentID
  | .unassignAgent agentID => s.OwnsAgent tenantID agentID
  | .upsertAgentRegistration agentID _ _ _ =>
      ∀ row ∈ s.registrations, row.agentID = agentID → row.tenantID = tenantID
  | .createAgent .. => True
  | .deleteAgent agentID _ => s.OwnsAgent tenantID agentID
  | .updateAgent .. => True
  | .pairAgent agentID twinID _ actorID =>
      (s.blacklist.find? (tenantID, agentID)).isSome = false → s.Allows tenantID agentID .pair →
        s.TwinLive tenantID twinID → actorID ≠ "" → s.OwnsAgent tenantID agentID
  | .unpairAgent agentID _ actorID =>
      s.Allows tenantID agentID .unpair → actorID ≠ "" → s.OwnsAgent tenantID agentID
  | .retireAgent agentID _ actorID =>
      s.Allows tenantID agentID .retire → actorID ≠ "" → s.OwnsAgent tenantID agentID
  | .blacklistAgent agentID _ _ actorID =>
      s.statusOf tenantID agentID ≠ some .blacklisted → actorID ≠ "" →
        s.OwnsAgent tenantID agentID
  | .unregisterAgent agentID _ actorID =>
      actorID ≠ "" → s.registrations.rows.any (RegistrationRow.is agentID tenantID) →
        s.OwnsAgent tenantID agentID
  | .heartbeat _ => True

/-- The pending backlog of the agent is no other tenant's. -/
def BacklogRequest.Spares (tenantID : TenantID) (d : Tables) (req : BacklogRequest) : Prop :=
  req.twinID ≠ "" → req.agentID ≠ "" →
    ∀ row ∈ d.backlogs, row.Pending req.agentID = true → ¬ d.BacklogElsewhere tenantID row

/-- Where a call finds no row of another tenant. -/
def Call.Spares (tenantID : TenantID) (d : Tables) : Call → Prop
  | .lifecycle op => op.Spares tenantID d.lifecycle
  | .upsertBacklog agentID twinID backlogBytes backlogSinceEpoch =>
      ¬ d.BacklogElsewhere tenantID ((d.backlogs.find? agentID).getD
        { agentID, twinID, backlogBytes, backlogSinceEpoch })
  | .acceptBacklog req | .rejectBacklog req => req.Spares tenantID d

section Decidable

variable (tenantID : TenantID)

instance (p : AssignmentRow → Bool) (s : Store) : Decidable (s.Owns tenantID p) :=
  inferInstanceAs (Decidable (∀ row ∈ s.assignments.rows, p row = true → row.tenantID = tenantID))

instance (twinID : TwinID) (s : Store) : Decidable (s.TwinLive tenantID twinID) :=
  inferInstanceAs (Decidable (∃ row ∈ s.twins.rows,
    row.id = twinID ∧ row.tenantID = tenantID ∧ row.deleted = false))

instance (agentID : AgentID) (action : EdgeAction) (s : Store) :
    Decidable (s.Allows tenantID agentID action) :=
  decidable_of_iff ((s.statusOf tenantID agentID).any (canTransitionEdge · action) = true)
    (Option.any_eq_true ..)

instance (s : Store) (agentID : AgentID) :
    Decidable (∀ row ∈ s.registrations, row.agentID = agentID → row.tenantID = tenantID) :=
  inferInstanceAs (Decidable (∀ row ∈ s.registrations.rows,
    row.agentID = agentID → row.tenantID = tenantID))

instance (s : Store) : (op : Operation) → Decidable (op.Spares tenantID s)
  | .deleteTwin _ twinID =>
      inferInstanceAs (Decidable (s.TwinLive tenantID twinID → s.OwnsTwin tenantID twinID))
  | .registerAgent agentID twinID _ _ _ =>
      inferInstanceAs (Decidable (s.TwinLive tenantID twinID → s.OwnsAgent tenantID agentID))
  | .unassignAgent agentID => inferInstanceAs (Decidable (s.OwnsAgent tenantID agentID))
  | .upsertAgentRegistration agentID _ _ _ =>
      inferInstanceAs (Decidable
        (∀ row ∈ s.registrations, row.agentID = agentID → row.tenantID = tenantID))
  | .deleteAgent agentID _ => inferInstanceAs (Decidable (s.OwnsAgent tenantID agentID))
  | .pairAgent agentID twinID _ actorID =>
      inferInstanceAs (Decidable ((s.blacklist.find? (tenantID, agentID)).isSome = false →
        s.Allows tenantID agentID .pair → s.TwinLive tenantID twinID → actorID ≠ "" →
        s.OwnsAgent tenantID agentID))
  | .unpairAgent agentID _ actorID =>
      inferInstanceAs (Decidable
        (s.Allows tenantID agentID .unpair → actorID ≠ "" → s.OwnsAgent tenantID agentID))
  | .retireAgent agentID _ actorID =>
      inferInstanceAs (Decidable
        (s.Allows tenantID agentID .retire → actorID ≠ "" → s.OwnsAgent tenantID agentID))
  | .blacklistAgent agentID _ _ actorID =>
      inferInstanceAs (Decidable (s.statusOf tenantID agentID ≠ some .blacklisted →
        actorID ≠ "" → s.OwnsAgent tenantID agentID))
  | .unregisterAgent agentID _ actorID =>
      inferInstanceAs (Decidable (actorID ≠ "" →
        s.registrations.rows.any (RegistrationRow.is agentID tenantID) →
        s.OwnsAgent tenantID agentID))
  | .createTwin .. | .createAgent .. | .updateAgent .. | .heartbeat _ => isTrue trivial

instance (d : Tables) (row : BacklogRow) : Decidable (d.BacklogElsewhere tenantID row) :=
  inferInstanceAs (Decidable (∃ twin ∈ d.lifecycle.twins.rows,
    twin.id = row.twinID ∧ twin.tenantID ≠ tenantID))

instance (d : Tables) (req : BacklogRequest) : Decidable (req.Spares tenantID d) :=
  inferInstanceAs (Decidable (req.twinID ≠ "" → req.agentID ≠ "" → ∀ row ∈ d.backlogs.rows,
    row.Pending req.agentID = true → ¬ d.BacklogElsewhere tenantID row))

instance (d : Tables) : (call : Call) → Decidable (call.Spares tenantID d)
  | .lifecycle op => inferInstanceAs (Decidable (op.Spares tenantID d.lifecycle))
  | .upsertBacklog agentID twinID backlogBytes backlogSinceEpoch =>
      inferInstanceAs (Decidable (¬ d.BacklogElsewhere tenantID ((d.backlogs.find? agentID).getD
        { agentID, twinID, backlogBytes, backlogSinceEpoch })))
  | .acceptBacklog req => inferInstanceAs (Decidable (req.Spares tenantID d))
  | .rejectBacklog req => inferInstanceAs (Decidable (req.Spares tenantID d))

end Decidable

variable {s : Store} {d : Tables} {tenantID : TenantID} {agentID : AgentID}

/-! ## Statements -/

/-- Whether a write to an assignment or a registration is foreign depends on its row alone. -/
lemma foreign_apply {w w' : Write} (h : engine.locks w ≠ engine.locks w') :
    ¬ w.Foreign tenantID (engine.apply s w') ↔ ¬ w.Foreign tenantID s := by
  refine not_congr ?_
  cases w with
  | assignments w =>
    cases w' with
    | assignments w' => exact Lib.Table.touches_write fun hrow => h (by simp [engine, Write.locks, hrow])
    | _ => rfl
  | registrations w =>
    cases w' with
    | registrations w' =>
      exact Lib.Table.touches_write fun hrow => h (by simp [engine, Write.locks, hrow])
    | _ => rfl
  | _ => rfl

lemma isolated_map {ρ κ : Type} {key : ρ → κ} {table : Lib.Table.RowWrite ρ κ → Write}
    (rowKey : κ → RowKey) (hlocks : ∀ w, engine.locks (table w) = some (rowKey (w.row key)))
    (hinj : rowKey.Injective) {ws : List (Lib.Table.RowWrite ρ κ)}
    (hnodup : (ws.map (Lib.Table.RowWrite.row key)).Nodup) :
    s.Isolated tenantID (ws.map table) ↔ ∀ w ∈ ws, ¬ (table w).Foreign tenantID s := by
  have hmap : (ws.map table).map engine.locks =
      ((ws.map (Lib.Table.RowWrite.row key)).map rowKey).map some := by
    rw [List.map_map, List.map_map, List.map_map]
    exact List.map_congr_left fun w _ => hlocks w
  have hlocked : ((ws.map table).map engine.locks).Nodup := by
    rw [hmap]
    exact (hnodup.map hinj).map (Option.some_injective _)
  rw [Store.Isolated, throughout_of_nodup (fun _ _ _ h => foreign_apply h) hlocked,
    List.forall_mem_map]

lemma isolated_deletes_iff {p : AssignmentRow → Bool} :
    s.Isolated tenantID ((s.assignments.deletes s.assignments p).map .assignments) ↔
      s.Owns tenantID p := by
  rw [isolated_map .assignment (fun _ => rfl) (fun _ _ h => RowKey.assignment.inj h)
    (Lib.Table.nodup_row_deletes _ _ p)]
  have htouches := Lib.Table.not_touches_deletes (P := fun row => row.tenantID ≠ tenantID)
    (t := s.assignments) (p := p)
  simpa only [Write.Foreign, Store.Owns, not_not] using htouches

lemma isolated_updates {f : RegistrationRow → RegistrationRow}
    (hkey : ∀ row, (f row).agentID = row.agentID) (htenant : ∀ row, (f row).tenantID = row.tenantID) :
    s.Isolated tenantID ((s.registrations.updates s.registrations
      (RegistrationRow.is agentID tenantID) f).map .registrations) := by
  rw [isolated_map .registration (fun _ => rfl)
    (fun _ _ h => RowKey.registration.inj h) (Lib.Table.nodup_row_updates _ _ _ hkey)]
  refine (Lib.Table.not_touches_updates hkey fun row => ?_).mpr fun row _ his => ?_
  · rw [htenant]
  · simpa using (Bool.and_eq_true_iff.mp his).2

lemma isolated_deletes_registrations :
    s.Isolated tenantID ((s.registrations.deletes s.registrations
      (RegistrationRow.is agentID tenantID)).map .registrations) := by
  rw [isolated_map .registration (fun _ => rfl)
    (fun _ _ h => RowKey.registration.inj h) (Lib.Table.nodup_row_deletes _ _ _)]
  refine Lib.Table.not_touches_deletes.mpr fun row _ his => ?_
  simpa using (Bool.and_eq_true_iff.mp his).2

lemma isolated_of_not_foreign {ws : List Write} (h : ∀ w ∈ ws, ∀ s, ¬ w.Foreign tenantID s) :
    s.Isolated tenantID ws := by
  induction ws generalizing s with
  | nil => trivial
  | cons w ws ih =>
    exact ⟨h w List.mem_cons_self s, ih fun w' hw' => h w' (List.mem_cons_of_mem _ hw')⟩

/-- Registering an agent on conflict updates the row of the agent, whosever it is. -/
lemma isolated_upsert_iff (hostname clientID : String) :
    s.Isolated tenantID [.registrations (.put (match s.registrations.find? agentID with
      | some row => { row with hostname, clientID }
      | none => { agentID, tenantID, hostname, clientID }))] ↔
      ∀ row ∈ s.registrations, row.agentID = agentID → row.tenantID = tenantID := by
  simp only [Store.Isolated, Throughout, and_true, Write.Foreign]
  cases hfind : s.registrations.find? agentID with
  | none =>
    have hnone := Lib.Table.find?_eq_none.mp hfind
    refine iff_of_true ?_ fun row hrow hagent => absurd hagent (hnone row hrow)
    rintro (hforeign | ⟨old, hold, hkey, -⟩)
    · exact hforeign rfl
    · exact hnone old hold hkey
  | some row =>
    obtain ⟨hmem, rfl⟩ := Lib.Table.find?_eq_some.mp hfind
    constructor
    · intro h row' hrow' hagent
      obtain rfl := s.registrations.eq_of_key_eq hrow' hmem hagent
      by_contra hother
      exact h (.inl hother)
    · intro h
      have htenant := h row hmem rfl
      rintro (hforeign | ⟨old, hold, hkey, hforeign⟩)
      · exact hforeign htenant
      · exact hforeign (h old hold hkey)

/-- The rows the statement selects or makes are the tenant's. -/
def Sql.Within (tenantID : TenantID) (s : Store) : {β : Type} → Sql β → Prop
  | _, .deleteAssignments agentID => s.OwnsAgent tenantID agentID
  | _, .deleteTwinAssignments twinID => s.OwnsTwin tenantID twinID
  | _, .insertAssignment row => row.tenantID = tenantID
  | _, .upsertRegistration agentID told _ _ => told = tenantID ∧
      ∀ row ∈ s.registrations, row.agentID = agentID → row.tenantID = tenantID
  | _, .insertRegistration row => row.tenantID = tenantID
  | _, .renameAgent _ _ told => told = tenantID
  | _, .updateAgentStatus _ told _ => told = tenantID
  | _, .updateBlacklisted _ told _ => told = tenantID
  | _, .deleteRegistration _ told => told = tenantID
  | _, _ => True

lemma isolated_of_within {β : Type} {q : Sql β} {answer : β} {made : List Write}
    (hwithin : q.Within tenantID s) (hrun : engine.run q s s = some (answer, made)) :
    s.Isolated tenantID made := by
  cases q with
  | deleteAssignments | deleteTwinAssignments =>
    obtain rfl := writes_of_affected hrun
    exact isolated_deletes_iff.mpr hwithin
  | insertAssignment row =>
    simp only [engine, Sql.run] at hrun
    split at hrun
    case isTrue => exact absurd hrun (by simp)
    case isFalse hfresh =>
      obtain rfl := writes_of_affected hrun
      -- An insert would be wrong only over the row of someone else, and then it fails.
      refine ⟨?_, trivial⟩
      rintro (hforeign | ⟨old, hold, hkey, -⟩)
      · exact hforeign hwithin
      · exact hfresh (.inl ⟨old, hold, hkey⟩)
  | upsertRegistration agentID told hostname clientID =>
    obtain ⟨rfl, hrows⟩ := hwithin
    obtain rfl := writes_of_affected hrun
    exact (isolated_upsert_iff hostname clientID).mpr hrows
  | insertRegistration row =>
    simp only [engine, Sql.run] at hrun
    split at hrun
    case isTrue => exact absurd hrun (by simp)
    case isFalse hfresh =>
      obtain rfl := writes_of_affected hrun
      refine ⟨?_, trivial⟩
      rintro (hforeign | ⟨old, hold, hkey, -⟩)
      · exact hforeign hwithin
      · exact hfresh ⟨old, hold, hkey⟩
  | renameAgent name agentID told =>
    obtain rfl : told = tenantID := hwithin
    obtain rfl := writes_of_affected hrun
    exact isolated_updates (fun _ => rfl) (fun _ => rfl)
  | updateAgentStatus agentID told status =>
    obtain rfl : told = tenantID := hwithin
    obtain rfl := writes_of_affected hrun
    exact isolated_updates (fun _ => rfl) (fun _ => rfl)
  | updateBlacklisted agentID told reason =>
    obtain rfl : told = tenantID := hwithin
    obtain rfl := writes_of_affected hrun
    exact isolated_updates (fun _ => rfl) (fun _ => rfl)
  | deleteRegistration agentID told =>
    obtain rfl : told = tenantID := hwithin
    obtain rfl := writes_of_affected hrun
    exact isolated_deletes_registrations
  | insertTwin row =>
    simp only [engine, Sql.run] at hrun
    split at hrun
    case isTrue => exact absurd hrun (by simp)
    case isFalse =>
      obtain rfl := writes_of_affected hrun
      exact isolated_of_not_foreign (by simp [Write.Foreign])
  | softDeleteTwin | updateTwinStatus | upsertBlacklist | deleteBlacklist =>
    obtain rfl := writes_of_affected hrun
    exact isolated_of_not_foreign (by simp [Write.Foreign])
  | insertStatusLog entry =>
    simp only [engine, Sql.run] at hrun
    split at hrun
    case isTrue => exact absurd hrun (by simp)
    case isFalse =>
      obtain ⟨-, rfl⟩ := Prod.mk.inj (Option.some.inj hrun)
      exact isolated_of_not_foreign (by simp [Write.Foreign])
  | countTwins | twinExists | assignedTwin | agentStatus | isBlacklisted =>
    obtain ⟨-, rfl⟩ := Prod.mk.inj (Option.some.inj hrun)
    trivial

/-! ## Programs -/

/-- A program whose statements stay within the tenant's rows is isolated. `J` is what it relies
on; foreign rows are not touched, so it stays true. -/
lemma isolated_of_issues {J : Store → Prop} {op : Operation}
    (hkeeps : ∀ s w, ¬ w.Foreign tenantID s → J s → J (engine.apply s w))
    (hwithin : ∀ {β : Type} {inTx : Bool} (q : Sql β), op.Issues inTx q → ∀ s, J s →
      q.Within tenantID s)
    (hJ : J s) : s.Isolated tenantID (op.program.writes engine s .idle) :=
  throughout_of_all hkeeps (fun q hq store hstore _ _ hrun =>
    isolated_of_within (hwithin q hq store hstore) hrun) (issues_program op) hJ trivial

lemma owns_apply {p : AssignmentRow → Bool} (s : Store) (w : Write) (hw : ¬ w.Foreign tenantID s)
    (hown : s.Owns tenantID p) : (engine.apply s w).Owns tenantID p := by
  cases w with
  | assignments w =>
    intro row hrow hp
    obtain htenant | hold := Lib.Table.of_mem_write_of_not_touches hw hrow
    · exact not_not.mp htenant
    · exact hown row hold hp
  | _ => exact hown

/-- The writes delete the assignments that satisfy `p`, before any other assignment changes. -/
def Store.Deletes (p : AssignmentRow → Bool) (s : Store) (ws : List Write) : Prop :=
  ∃ before, (before.foldl engine.apply s).assignments = s.assignments ∧
    before ++ (s.assignments.deletes s.assignments p).map .assignments <+: ws

lemma Store.Deletes.owns {p : AssignmentRow → Bool} {ws : List Write} (h : s.Deletes p ws)
    (hisolated : s.Isolated tenantID ws) : s.Owns tenantID p := by
  obtain ⟨before, hsame, rest, rfl⟩ := h
  have hdeletes := (throughout_append.mp (throughout_append.mp hisolated).1).2
  rw [← hsame] at hdeletes
  intro row hrow hp
  exact isolated_deletes_iff.mp hdeletes row (hsame ▸ hrow) hp

/-- An operation that deletes the assignments selected by `p` where it is accepted and writes
nothing where it is refused. -/
lemma isolated_iff_of_deletes {p : AssignmentRow → Bool} {ws : List Write} {accepted : Prop}
    (howns : s.Owns tenantID p → s.Isolated tenantID ws) (hrefused : ¬ accepted → ws = [])
    (hdeletes : accepted → s.Deletes p ws) :
    s.Isolated tenantID ws ↔ (accepted → s.Owns tenantID p) := by
  refine ⟨fun h haccepted => (hdeletes haccepted).owns h, fun h => ?_⟩
  by_cases haccepted : accepted
  · exact howns (h haccepted)
  · rw [hrefused haccepted]
    trivial

/-! ## Statements of the lifecycle programs that run alone -/

section Runs

variable (s) {twinID : TwinID} {reason : String}

@[simp] lemma run_agentStatus : engine.run (.agentStatus agentID tenantID) s s =
    some (s.statusOf tenantID agentID, []) := rfl

@[simp] lemma run_isBlacklisted : engine.run (.isBlacklisted tenantID agentID) s s =
    some ((s.blacklist.find? (tenantID, agentID)).isSome, []) := rfl

lemma run_twinExists {exists' : Bool} (h : exists' = true ↔ s.TwinLive tenantID twinID) :
    engine.run (.twinExists twinID tenantID) s s = some (exists', []) := by
  have hany : s.twins.rows.any (fun row => row.is twinID tenantID && !row.deleted) = exists' := by
    rw [Bool.eq_iff_iff, h, List.any_eq_true]
    simp [Store.TwinLive, TwinRow.is, and_assoc, Lib.Table.mem_rows]
  simp [engine, Sql.run, hany]

@[simp] lemma run_deleteAssignments : engine.run (.deleteAssignments agentID) s s =
    affected .assignments
      (s.assignments.deletes s.assignments (fun row => row.agentID = agentID)) := rfl

@[simp] lemma run_deleteTwinAssignments : engine.run (.deleteTwinAssignments twinID) s s =
    affected .assignments
      (s.assignments.deletes s.assignments (fun row => row.twinID = twinID)) := rfl

@[simp] lemma run_updateAgentStatus (status : EdgeAgentStatus) :
    engine.run (.updateAgentStatus agentID tenantID status) s s = affected .registrations
      (s.registrations.updates s.registrations (RegistrationRow.is agentID tenantID)
        ({ · with status })) := rfl

@[simp] lemma run_updateBlacklisted : engine.run (.updateBlacklisted agentID tenantID reason) s s =
    affected .registrations
      (s.registrations.updates s.registrations (RegistrationRow.is agentID tenantID)
        ({ · with status := .blacklisted, blacklistReason := reason })) := rfl

@[simp] lemma run_updateTwinStatus (status : ClusterAgentStatus) :
    engine.run (.updateTwinStatus twinID tenantID status) s s = affected .twins
      (s.twins.updates s.twins (TwinRow.is twinID tenantID) ({ · with status })) := rfl

@[simp] lemma run_upsertBlacklist : engine.run (.upsertBlacklist tenantID agentID reason) s s =
    affected .blacklist [.put { tenantID, edgeAgentID := agentID, reason }] := rfl

@[simp] lemma run_deleteBlacklist : engine.run (.deleteBlacklist agentID tenantID) s s =
    affected .blacklist (s.blacklist.deletes s.blacklist
      (fun row => row.key = (tenantID, agentID))) := rfl

@[simp] lemma run_deleteRegistration : engine.run (.deleteRegistration agentID tenantID) s s =
    affected .registrations (s.registrations.deletes s.registrations
      (RegistrationRow.is agentID tenantID)) := rfl

lemma run_insertStatusLog {entry : StatusLogRow} (h : entry.actorID ≠ "") :
    engine.run (.insertStatusLog entry) s s = some (1, [.statusLog entry]) := if_neg h

lemma run_insertStatusLog_none {entry : StatusLogRow} (h : entry.actorID = "") :
    engine.run (.insertStatusLog entry) s s = none := if_pos h

end Runs

/-! ## Operation by operation -/

open Lib.Prog (writes)

section Operations

variable {twinID : TwinID} {name clientID topicPrefix hostname actorID reason : String}

/-- The writes of an operation that runs alone. -/
def Operation.writes (op : Operation) (s : Store) : List Write := op.program.writes engine s .idle

lemma deletes_of_prefix {p : AssignmentRow → Bool} {ws : List Write}
    (h : (s.assignments.deletes s.assignments p).map .assignments <+: ws) : s.Deletes p ws :=
  ⟨[], rfl, h⟩

lemma isolated_retireAgent : s.Isolated tenantID
    ((Operation.retireAgent agentID tenantID actorID).writes s) ↔
      (s.Allows tenantID agentID .retire ∧ actorID ≠ "" → s.OwnsAgent tenantID agentID) := by
  refine isolated_iff_of_deletes (isolated_of_issues owns_apply ?_) (fun hnot => ?_) (fun h => ?_)
  · intro β inTx q hq store hstore
    cases hq <;> first | exact hstore | exact rfl | trivial
  · change writes engine (retireAgent agentID tenantID actorID) s .idle = []
    unfold retireAgent
    cases hread : s.statusOf tenantID agentID with
    | none => simp [writes, hread]
    | some status =>
      cases hretire : canTransitionEdge status .retire with
      | false => simp [writes, hread, hretire]
      | true =>
        have hactor : actorID = "" := by
          by_contra hne
          exact hnot ⟨⟨status, hread, hretire⟩, hne⟩
        simp [writes, hread, hretire, hactor, affected, run_insertStatusLog_none]
  · obtain ⟨⟨status, hread, hretire⟩, hactor⟩ := h
    refine deletes_of_prefix ?_
    simp [Operation.writes, Operation.program, retireAgent, writes, hread, hretire, hactor, commit,
      affected, run_insertStatusLog]

lemma isolated_unpairAgent : s.Isolated tenantID
    ((Operation.unpairAgent agentID tenantID actorID).writes s) ↔
      (s.Allows tenantID agentID .unpair ∧ actorID ≠ "" → s.OwnsAgent tenantID agentID) := by
  have howns : s.OwnsAgent tenantID agentID → s.Isolated tenantID
      ((Operation.unpairAgent agentID tenantID actorID).writes s) := by
    refine isolated_of_issues owns_apply ?_
    intro β inTx q hq store hstore
    cases hq <;> first | exact hstore | exact rfl | trivial
  cases hassigned : s.assignments.rows.find? (fun row => row.agentID = agentID) with
  | none =>
    -- An agent without assignments is not unpaired.
    have hnone : s.OwnsAgent tenantID agentID := by
      intro row hrow hagent
      exact absurd hagent (List.find?_eq_none.mp hassigned row hrow)
    exact iff_of_true (howns hnone) fun _ => hnone
  | some row =>
    have hread : engine.run (.assignedTwin agentID) s s = some (some row.twinID, []) := by
      simp [engine, Sql.run, hassigned]
    refine isolated_iff_of_deletes howns (fun hnot => ?_) (fun h => ?_)
    · change writes engine (unpairAgent agentID tenantID actorID) s .idle = []
      unfold unpairAgent
      cases hstatus : s.statusOf tenantID agentID with
      | none => simp [writes, hstatus]
      | some status =>
        cases hunpair : canTransitionEdge status .unpair with
        | false => simp [writes, hstatus, hunpair]
        | true =>
          have hactor : actorID = "" := by
            by_contra hne
            exact hnot ⟨⟨status, hstatus, hunpair⟩, hne⟩
          simp [writes, hstatus, hunpair, hread, hactor, affected, run_insertStatusLog_none]
    · obtain ⟨⟨status, hstatus, hunpair⟩, hactor⟩ := h
      refine deletes_of_prefix ?_
      simp [Operation.writes, Operation.program, unpairAgent, writes, hstatus, hunpair, hread,
        hactor, commit, affected, run_insertStatusLog]

lemma isolated_blacklistAgent : s.Isolated tenantID
    ((Operation.blacklistAgent agentID tenantID reason actorID).writes s) ↔
      (s.statusOf tenantID agentID ≠ some .blacklisted ∧ actorID ≠ "" →
        s.OwnsAgent tenantID agentID) := by
  refine isolated_iff_of_deletes (isolated_of_issues owns_apply ?_) (fun hnot => ?_) (fun h => ?_)
  · intro β inTx q hq store hstore
    cases hq <;> first | exact hstore | exact rfl | trivial
  · change writes engine (blacklistAgent agentID tenantID reason actorID) s .idle = []
    unfold blacklistAgent
    by_cases hstatus : s.statusOf tenantID agentID = some .blacklisted
    · simp [writes, hstatus]
    · have hactor : actorID = "" := by
        by_contra hne
        exact hnot ⟨hstatus, hne⟩
      simp [writes, hstatus, hactor, commit, affected, run_insertStatusLog_none]
  · obtain ⟨hstatus, hactor⟩ := h
    refine ⟨[.blacklist (.put { tenantID, edgeAgentID := agentID, reason })], rfl, ?_⟩
    simp [Operation.writes, Operation.program, blacklistAgent, writes, hstatus, hactor, commit,
      affected, run_insertStatusLog]
    exact List.prefix_append _ _

lemma isolated_unregisterAgent : s.Isolated tenantID
    ((Operation.unregisterAgent agentID tenantID actorID).writes s) ↔
      (actorID ≠ "" ∧ s.registrations.rows.any (RegistrationRow.is agentID tenantID) = true →
        s.OwnsAgent tenantID agentID) := by
  refine isolated_iff_of_deletes (isolated_of_issues owns_apply ?_) (fun hnot => ?_) (fun h => ?_)
  · intro β inTx q hq store hstore
    cases hq <;> first | exact hstore | exact rfl | trivial
  · change writes engine (unregisterAgent agentID tenantID actorID) s .idle = []
    unfold unregisterAgent
    by_cases hactor : actorID = ""
    · simp [writes, hactor, run_insertStatusLog_none]
    · have hnone : s.registrations.rows.any (RegistrationRow.is agentID tenantID) = false := by
        simpa [hactor] using hnot
      simp [writes, hactor, affected, run_insertStatusLog, Lib.Table.deletes_eq_nil_iff, hnone]
  · obtain ⟨hactor, hregistered⟩ := h
    let entry : StatusLogRow :=
      { agentID, tenantID, actorID
        fromStatus := "active"
        toStatus := "unregistered"
        reason := "unregistered by operator — all client data erased" }
    refine ⟨[.statusLog entry], rfl, ?_⟩
    simp [Operation.writes, Operation.program, unregisterAgent, writes, hactor, commit, affected,
      run_insertStatusLog, Lib.Table.deletes_eq_nil_iff, hregistered]
    exact ⟨rfl, List.prefix_append _ _⟩

lemma isolated_unassignAgent : s.Isolated tenantID ((Operation.unassignAgent agentID).writes s) ↔
    s.OwnsAgent tenantID agentID := by
  have hdeletes : s.Deletes (fun row => row.agentID = agentID)
      ((Operation.unassignAgent agentID).writes s) := by
    refine deletes_of_prefix ?_
    simp [Operation.writes, Operation.program, unassignAgent, writes, affected]
  refine ⟨hdeletes.owns, isolated_of_issues owns_apply ?_⟩
  intro β inTx q hq store hstore
  cases hq
  exact hstore

lemma isolated_deleteAgent :
    s.Isolated tenantID ((Operation.deleteAgent agentID tenantID).writes s) ↔
      s.OwnsAgent tenantID agentID := by
  have hdeletes : s.Deletes (fun row => row.agentID = agentID)
      ((Operation.deleteAgent agentID tenantID).writes s) := by
    refine deletes_of_prefix ?_
    simp [Operation.writes, Operation.program, deleteAgent, writes, affected]
  refine ⟨hdeletes.owns, isolated_of_issues owns_apply ?_⟩
  intro β inTx q hq store hstore
  cases hq <;> first | exact hstore | exact rfl

lemma isolated_registerAgent : s.Isolated tenantID
    ((Operation.registerAgent agentID twinID tenantID clientID topicPrefix).writes s) ↔
      (s.TwinLive tenantID twinID → s.OwnsAgent tenantID agentID) := by
  have hwrites : (Operation.registerAgent agentID twinID tenantID clientID topicPrefix).writes s =
      writes engine (registerAgent agentID twinID tenantID clientID topicPrefix) s .idle :=
    Lib.Prog.writes_map _ _ _ _
  refine isolated_iff_of_deletes (isolated_of_issues owns_apply ?_) (fun hnot => ?_) (fun h => ?_)
  · intro β inTx q hq store hstore
    cases hq <;> first | exact hstore | exact rfl | trivial
  · rw [hwrites]
    have hread := run_twinExists s (iff_of_false Bool.false_ne_true hnot)
    simp [registerAgent, writes, hread]
  · rw [hwrites]
    refine deletes_of_prefix ?_
    have hread := run_twinExists s (iff_of_true rfl h)
    simp [registerAgent, writes, hread, affected]

/-- The assignment to a live twin can be made once those of the agent are deleted. -/
lemma run_insertAssignment_after_deletes (agentID : AgentID) (hlive : s.TwinLive tenantID twinID) :
    let s' := ((s.assignments.deletes s.assignments (fun row => row.agentID = agentID)).map
      Write.assignments).foldl engine.apply s
    engine.run (.insertAssignment { agentID, twinID, tenantID }) s' s' =
      affected .assignments [.put { agentID, twinID, tenantID }] := by
  intro s'
  have hs' : s' = { s with assignments := (s.assignments.deletes s.assignments
      (fun row => row.agentID = agentID)).foldl Lib.Table.write s.assignments } :=
    foldl_assignments _ s
  refine if_neg ?_
  rintro (hkey | htwin)
  · rw [Lib.Table.hasKey_iff_find?, hs', Lib.Table.find?_deletes] at hkey
    obtain ⟨row, hrow⟩ := Option.isSome_iff_exists.mp hkey
    obtain ⟨hfind, hagent⟩ := Option.filter_eq_some_iff.mp hrow
    have hrowkey : row.agentID = agentID :=
      congrArg Prod.fst (Lib.Table.find?_eq_some.mp hfind).2
    simp [hrowkey] at hagent
  · obtain ⟨row, hrow, hid, -⟩ := hlive
    exact htwin ⟨row, by rw [hs']; exact hrow, hid⟩

lemma isolated_pairAgent : s.Isolated tenantID
    ((Operation.pairAgent agentID twinID tenantID actorID).writes s) ↔
      ((s.blacklist.find? (tenantID, agentID)).isSome = false ∧ s.Allows tenantID agentID .pair ∧
        s.TwinLive tenantID twinID ∧ actorID ≠ "" → s.OwnsAgent tenantID agentID) := by
  refine isolated_iff_of_deletes (isolated_of_issues owns_apply ?_) (fun hnot => ?_) (fun h => ?_)
  · intro β inTx q hq store hstore
    cases hq <;> first | exact hstore | exact rfl | trivial
  · change writes engine (pairAgent agentID twinID tenantID actorID) s .idle = []
    unfold pairAgent
    cases hblacklist : (s.blacklist.find? (tenantID, agentID)).isSome with
    | true => simp [writes, hblacklist]
    | false =>
    cases hstatus : s.statusOf tenantID agentID with
    | none => simp [writes, hblacklist, hstatus]
    | some status =>
    cases hpair : canTransitionEdge status .pair with
    | false => simp [writes, hblacklist, hstatus, hpair]
    | true =>
    by_cases hlive : s.TwinLive tenantID twinID
    · have hread := run_twinExists s (iff_of_true rfl hlive)
      have hactor : actorID = "" := by
        by_contra hne
        exact hnot ⟨hblacklist, ⟨status, hstatus, hpair⟩, hlive, hne⟩
      have hinsert := run_insertAssignment_after_deletes agentID hlive
      simp [writes, hblacklist, hstatus, hpair, hread, hactor, affected, hinsert,
        run_insertStatusLog_none]
    · have hread := run_twinExists s (iff_of_false Bool.false_ne_true hlive)
      simp [writes, hblacklist, hstatus, hpair, hread]
  · obtain ⟨hblacklist, ⟨status, hstatus, hpair⟩, hlive, hactor⟩ := h
    have hread := run_twinExists s (iff_of_true rfl hlive)
    have hinsert := run_insertAssignment_after_deletes agentID hlive
    refine deletes_of_prefix ?_
    simp [Operation.writes, Operation.program, pairAgent, writes, hblacklist, hstatus, hpair, hread,
      hinsert, hactor, commit, affected, run_insertStatusLog]

lemma isolated_deleteTwin : s.Isolated tenantID ((Operation.deleteTwin tenantID twinID).writes s) ↔
    (s.TwinLive tenantID twinID → s.OwnsTwin tenantID twinID) := by
  have hlive {live : Bool} (h : live = true ↔ s.TwinLive tenantID twinID) :
      s.twins.rows.any (fun row => row.is twinID tenantID && !row.deleted) = live := by
    simpa [engine, Sql.run] using run_twinExists s h
  have hrun : engine.run (.softDeleteTwin twinID tenantID) s s = affected .twins
      (s.twins.updates s.twins (fun row => row.is twinID tenantID && !row.deleted)
        ({ · with deleted := true })) := rfl
  refine isolated_iff_of_deletes (isolated_of_issues owns_apply ?_) (fun hnot => ?_) (fun h => ?_)
  · intro β inTx q hq store hstore
    cases hq <;> first | exact hstore | trivial
  · have hnone := hlive (iff_of_false Bool.false_ne_true hnot)
    simp [Operation.writes, Operation.program, deleteTwin, writes, hrun, affected,
      Lib.Table.updates_eq_nil_iff, hnone]
  · have hsome := hlive (iff_of_true rfl h)
    refine ⟨(s.twins.updates s.twins (fun row => row.is twinID tenantID && !row.deleted)
      ({ · with deleted := true })).map .twins, assignments_foldl_twins _ s, ?_⟩
    simp [Operation.writes, Operation.program, deleteTwin, writes, hrun, affected, commit,
      Lib.Table.updates_eq_nil_iff, hsome]

lemma isolated_upsertAgentRegistration : s.Isolated tenantID
    ((Operation.upsertAgentRegistration agentID tenantID hostname clientID).writes s) ↔
      ∀ row ∈ s.registrations, row.agentID = agentID → row.tenantID = tenantID := by
  rw [← isolated_upsert_iff hostname clientID]
  rfl

end Operations

/-- An operation on behalf of a tenant is isolated exactly where it spares the others. -/
lemma Operation.isolated_iff {op : Operation} (htold : ∀ told ∈ op.tenant?, told = tenantID) :
    s.Isolated tenantID (op.writes s) ↔ op.Spares tenantID s := by
  -- An operation that selects by tenant only does not rely on anything.
  have hscoped (hwithin : ∀ {β : Type} {inTx : Bool} (q : Sql β), op.Issues inTx q →
      ∀ s : Store, q.Within tenantID s) : s.Isolated tenantID (op.writes s) :=
    isolated_of_issues (J := fun _ => True) (fun _ _ _ _ => trivial)
      (fun q hq s _ => hwithin q hq s) trivial
  cases op with
  | createTwin id told name description =>
    refine iff_of_true (hscoped fun q hq s => ?_) trivial
    cases hq <;> trivial
  | deleteTwin told twinID =>
    obtain rfl := htold told rfl
    exact isolated_deleteTwin
  | registerAgent agentID twinID told clientID topicPrefix =>
    obtain rfl := htold told rfl
    exact isolated_registerAgent
  | unassignAgent agentID => exact isolated_unassignAgent
  | upsertAgentRegistration agentID told hostname clientID =>
    obtain rfl := htold told rfl
    exact isolated_upsertAgentRegistration
  | createAgent agentID told name =>
    refine iff_of_true (hscoped fun q hq s => ?_) trivial
    cases hq
    exact htold told rfl
  | deleteAgent agentID told =>
    obtain rfl := htold told rfl
    exact isolated_deleteAgent
  | updateAgent agentID told name =>
    refine iff_of_true (hscoped fun q hq s => ?_) trivial
    cases hq
    exact htold told rfl
  | pairAgent agentID twinID told actorID =>
    obtain rfl := htold told rfl
    rw [isolated_pairAgent, Operation.Spares, and_imp, and_imp, and_imp]
  | unpairAgent agentID told actorID =>
    obtain rfl := htold told rfl
    rw [isolated_unpairAgent, Operation.Spares, and_imp]
  | retireAgent agentID told actorID =>
    obtain rfl := htold told rfl
    rw [isolated_retireAgent, Operation.Spares, and_imp]
  | blacklistAgent agentID told reason actorID =>
    obtain rfl := htold told rfl
    rw [isolated_blacklistAgent, Operation.Spares, and_imp]
  | unregisterAgent agentID told actorID =>
    obtain rfl := htold told rfl
    rw [isolated_unregisterAgent, Operation.Spares, and_imp]
  | heartbeat agentID =>
    refine iff_of_true (hscoped fun q hq s => ?_) trivial
    cases hq
    trivial

/-! ## Backlogs -/

lemma isolated_backlogs {ws : List (Lib.Table.RowWrite BacklogRow AgentID)}
    (hnodup : (ws.map (Lib.Table.RowWrite.row BacklogRow.agentID)).Nodup) :
    d.Isolated tenantID (ws.map .backlogs) ↔
      ∀ w ∈ ws, ¬ w.Touches (d.BacklogElsewhere tenantID) d.backlogs := by
  induction ws generalizing d with
  | nil => exact iff_of_true trivial (by simp)
  | cons w ws ih =>
    rw [List.map_cons, List.nodup_cons] at hnodup
    obtain ⟨hnew, hrest⟩ := hnodup
    have hne (w' : Lib.Table.RowWrite BacklogRow AgentID) (hw' : w' ∈ ws) :
        w'.row BacklogRow.agentID ≠ w.row BacklogRow.agentID :=
      fun heq => hnew (heq ▸ List.mem_map_of_mem hw')
    rw [List.forall_mem_cons]
    refine and_congr Iff.rfl ((ih hrest).trans (forall₂_congr fun w' hw' => ?_))
    exact not_congr (Lib.Table.touches_write (hne w' hw'))

lemma isolated_enqueueCommand (dispatched : Bool) (cmd : Command) (r : Result Unit) :
    d.Isolated tenantID (((enqueueCommand dispatched cmd).embed TablesSql.command >>=
      fun _ => pure r).writes tablesEngine d .idle) := by
  have hcommands (ws : List (Lib.Table.RowWrite CommandRecord CommandID)) (d : Tables) :
      d.Isolated tenantID (ws.map .commands) := by
    induction ws generalizing d with
    | nil => trivial
    | cons w ws ih => exact ⟨id, ih _⟩
  rw [Lib.Prog.writes_map]
  cases dispatched with
  | true => trivial
  | false =>
    by_cases hkey : d.commands.commands.HasKey cmd.id
    · have hrun : tablesEngine.run (.command (.insertCommand cmd)) d d = none := by
        simp [tablesEngine, TablesSql.run, CommandSql.run, hkey]
      change d.Isolated tenantID (writes tablesEngine (.stmt (.command (.insertCommand cmd)) _) d _)
      rw [Lib.Prog.writes_stmt_failed hrun]
      trivial
    · have hrun : tablesEngine.run (.command (.insertCommand cmd)) d d = some ((),
          [.put { toCommand := cmd, createdAt := d.commands.clock }].map .commands) := by
        simp [tablesEngine, TablesSql.run, CommandSql.run, hkey]
      change d.Isolated tenantID (writes tablesEngine (.stmt (.command (.insertCommand cmd)) _) d _)
      rw [Lib.Prog.writes_stmt_idle hrun]
      exact throughout_append.mpr ⟨hcommands _ d, trivial⟩

lemma isolated_handleBacklog {verb payload : String} {status : BacklogStatus} {commandType : Int}
    {req : BacklogRequest} : d.Isolated tenantID ((handleBacklog verb (settleBacklog verb status)
      commandType payload req).writes tablesEngine d .idle) ↔ req.Spares tenantID d := by
  unfold handleBacklog
  by_cases hids : req.twinID = "" ∨ req.agentID = ""
  · have hspares : req.Spares tenantID d := fun htwin hagent => absurd hids (by simp [htwin, hagent])
    rw [if_pos (by simpa using hids)]
    exact iff_of_true trivial hspares
  · rw [if_neg (by simpa using hids)]
    set ws := d.backlogs.updates d.backlogs (BacklogRow.Pending req.agentID) ({ · with status })
      with hws
    have hrun : tablesEngine.run (.backlog (.settleBacklog req.agentID status)) d d =
        some (ws.length, ws.map .backlogs) := rfl
    change d.Isolated tenantID
      (writes tablesEngine (.stmt (.backlog (.settleBacklog req.agentID status)) _) d _) ↔ _
    rw [Lib.Prog.writes_stmt_idle hrun, Tables.Isolated, throughout_append]
    have hsettled : d.Isolated tenantID (ws.map .backlogs) ↔ req.Spares tenantID d := by
      have hnodup : (ws.map (Lib.Table.RowWrite.row BacklogRow.agentID)).Nodup :=
        Lib.Table.nodup_row_updates _ _ _ fun _ => rfl
      rw [isolated_backlogs hnodup]
      refine Iff.trans (Lib.Table.not_touches_updates (t := d.backlogs) (fun _ => rfl)
        (fun _ => Iff.rfl)) ?_
      obtain ⟨htwin, hagent⟩ := not_or.mp hids
      exact ⟨fun h _ _ => h, fun h => h htwin hagent⟩
    refine Iff.trans (and_iff_left ?_) hsettled
    -- What follows is the command, if a backlog was pending.
    by_cases hnone : ws.length = 0
    · simp only [Lib.Prog.bind, if_pos hnone]
      trivial
    · simp only [Lib.Prog.bind, if_neg hnone]
      exact isolated_enqueueCommand _ _ _

lemma Call.isolated_iff {call : Call} (hbehalf : call.OnBehalfOf tenantID) :
    d.Isolated tenantID (call.writes d) ↔ call.Spares tenantID d := by
  cases call with
  | lifecycle op =>
    have hwrites : (Call.lifecycle op).writes d = (op.writes d.lifecycle).map .lifecycle :=
      Lib.Prog.writes_embed lifecyclePart op.program d .idle
    rw [hwrites]
    exact (throughout_map lifecyclePart fun _ _ => Iff.rfl).trans (Operation.isolated_iff hbehalf)
  | upsertBacklog agentID twinID backlogBytes backlogSinceEpoch =>
    have hone (row : BacklogRow) (hrun : tablesEngine.run (.backlog (.upsertBacklog agentID twinID
        backlogBytes backlogSinceEpoch)) d d = some (1, [.put row].map .backlogs)) :
        d.Isolated tenantID ((Call.upsertBacklog agentID twinID backlogBytes
          backlogSinceEpoch).writes d) ↔
            ¬ Lib.Table.RowWrite.Touches (d.BacklogElsewhere tenantID) d.backlogs (.put row) := by
      change d.Isolated tenantID (Lib.Prog.writes tablesEngine (.stmt (.backlog (.upsertBacklog
        agentID twinID backlogBytes backlogSinceEpoch)) _) d _) ↔ _
      rw [Lib.Prog.writes_stmt_idle hrun, Tables.Isolated, throughout_append]
      refine Iff.trans (and_iff_left trivial) ?_
      exact (isolated_backlogs (by simp)).trans (by simp)
    rw [Call.Spares]
    cases hfind : d.backlogs.find? agentID with
    | some row =>
      obtain ⟨hmem, rfl⟩ := Lib.Table.find?_eq_some.mp hfind
      rw [hone { row with backlogBytes, backlogSinceEpoch }
        (by simp [tablesEngine, TablesSql.run, BacklogSql.run, hfind]), Option.getD_some]
      refine not_congr ⟨?_, .inl⟩
      rintro (hnew | ⟨old, hold, hkey, helsewhere⟩)
      · exact hnew
      · obtain rfl := d.backlogs.eq_of_key_eq hold hmem hkey
        exact helsewhere
    | none =>
      rw [Option.getD_none]
      by_cases htwin : d.lifecycle.twins.HasKey twinID
      · rw [hone { agentID, twinID, backlogBytes, backlogSinceEpoch }
          (by simp [tablesEngine, TablesSql.run, BacklogSql.run, hfind, htwin])]
        refine not_congr ⟨?_, .inl⟩
        rintro (hnew | ⟨old, hold, hkey, -⟩)
        · exact hnew
        · exact absurd hkey (Lib.Table.find?_eq_none.mp hfind old hold)
      · -- Without the twin the statement fails.
        have hrun : tablesEngine.run (.backlog (.upsertBacklog agentID twinID backlogBytes
            backlogSinceEpoch)) d d = none := by
          simp [tablesEngine, TablesSql.run, BacklogSql.run, hfind, htwin]
        refine iff_of_true ?_ ?_
        · change d.Isolated tenantID (Lib.Prog.writes tablesEngine (.stmt (.backlog (.upsertBacklog
            agentID twinID backlogBytes backlogSinceEpoch)) _) d _)
          rw [Lib.Prog.writes_stmt_failed hrun]
          trivial
        · rintro ⟨twin, hmem, hid, -⟩
          exact htwin ⟨twin, hmem, hid⟩
  | acceptBacklog req => exact isolated_handleBacklog
  | rejectBacklog req => exact isolated_handleBacklog

/-! ## Runs of calls -/

/-- Calls one after the other, each on behalf of a tenant: none of them touches a row of another
tenant. -/
def IsolatedRun : Tables → List (TenantID × Call) → Prop
  | _, [] => True
  | d, (tenantID, call) :: calls =>
    d.Isolated tenantID (call.writes d) ∧ IsolatedRun (call.perform d) calls

/-- Each call of the run spares the others in the state it finds. -/
def SparingRun : Tables → List (TenantID × Call) → Prop
  | _, [] => True
  | d, (tenantID, call) :: calls => call.Spares tenantID d ∧ SparingRun (call.perform d) calls

instance decidableSparingRun : (d : Tables) → (calls : List (TenantID × Call)) →
    Decidable (SparingRun d calls)
  | _, [] => inferInstanceAs (Decidable True)
  | d, (tenantID, call) :: calls =>
    haveI := decidableSparingRun (call.perform d) calls
    inferInstanceAs (Decidable (call.Spares tenantID d ∧ SparingRun (call.perform d) calls))

/-- From every state and along every run, the calls touch no row of another tenant exactly if
each of them spares the others. -/
theorem lifecycle_store_isolated {calls : List (TenantID × Call)}
    (hbehalf : ∀ c ∈ calls, c.2.OnBehalfOf c.1) (d : Tables) :
    IsolatedRun d calls ↔ SparingRun d calls := by
  induction calls generalizing d with
  | nil => rfl
  | cons c calls ih =>
    rw [List.forall_mem_cons] at hbehalf
    exact and_congr (Call.isolated_iff hbehalf.1) (ih hbehalf.2 (c.2.perform d))

/-- A tenant that registers its agent and accepts its backlog, in a database of its own. -/
theorem lifecycle_store_isolated_witness : IsolatedRun {} [
    ("acme", .lifecycle (.createTwin "t1" "acme" "line" "")),
    ("acme", .lifecycle (.upsertAgentRegistration "a1" "acme" "host" "")),
    ("acme", .lifecycle (.pairAgent "a1" "t1" "acme" "u1")),
    ("acme", .upsertBacklog "a1" "t1" 512 0),
    ("acme", .acceptBacklog { twinID := "t1", agentID := "a1", commandID := "c1" })] :=
  (lifecycle_store_isolated (by decide) {}).mpr (by decide +kernel)

/-- Two tenants use the same agent id: to register the agent of one deletes the assignment of the
other. -/
theorem register_deletes_foreign_assignment : ¬ ∀ (history : List Call) (tenantID : TenantID)
    (call : Call), call.OnBehalfOf tenantID →
      let d := history.foldl (fun d c => c.perform d) {}
      d.Isolated tenantID (call.writes d) := by
  intro h
  have hspares := (Call.isolated_iff (by decide)).mp (h
    [.lifecycle (.createTwin "t1" "acme" "line" ""),
      .lifecycle (.createTwin "t2" "other" "line" ""),
      .lifecycle (.registerAgent "a1" "t1" "acme" "" "")]
    "other" (.lifecycle (.registerAgent "a1" "t2" "other" "" "")) (by decide))
  exact absurd hspares (by decide +kernel)

end Paryty.Twin

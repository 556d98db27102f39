import Paryty.Lib.Run
import Paryty.Twin.LifecycleTheorems

/-!
# The lifecycle operations refine the lifecycle model

`view` reads the lifecycle off the tables. Each statement has one lemma: what it answers and how
it changes the view. From these `step_view` follows: every call makes a step of the lifecycle
model.

The lifecycle invariant of the store is then a fact about runs of calls: along every run of
calls that satisfy `Keeps`, from the empty schema on, the lifecycle is consistent.
-/

namespace Paryty.Twin

open Lib.Prog (effect exec execAlone)
open Lib.Table (find?_eq_some find?_eq_none find?_put find?_updates find?_deletes hasKey_iff_find?)

/-- The lifecycle the tables describe. -/
def view (s : Store) : Lifecycle where
  edge agentID := (s.registrations.find? agentID).map (fun row => ⟨row.tenantID, row.status⟩)
  twin twinID := (s.twins.find? twinID).map (fun row => ⟨row.tenantID, row.status, row.deleted⟩)
  assigned agentID twinID := (s.assignments.find? (agentID, twinID)).map AssignmentRow.tenantID

variable {s : Store} {agentID : AgentID} {twinID : TwinID} {tenantID : TenantID}

lemma effect_affected {ρ κ : Type} {q : Sql Nat} {table : Lib.Table.RowWrite ρ κ → Write}
    {writes : List (Lib.Table.RowWrite ρ κ)} (h : q.run s s = affected table writes) :
    effect engine q s = some (writes.length, (writes.map table).foldl Store.apply s) := by
  unfold effect engine
  simp only [h]
  rfl

lemma effect_none {β : Type} {q : Sql β} (h : q.run s s = none) : effect engine q s = none := by
  unfold effect engine
  simp only [h]
  rfl

/-! ## What the statements do to the lifecycle -/

/-- `UPDATE paryty_twins`. -/
lemma view_updates_twins {p : TwinRow → Bool} {f : TwinRow → TwinRow} (hf : ∀ r, (f r).id = r.id) :
    view (((s.twins.updates s.twins p f).map Write.twins).foldl Store.apply s) =
      { view s with twin := fun t => (s.twins.find? t).map (fun row =>
          let row := if p row then f row else row
          ⟨row.tenantID, row.status, row.deleted⟩) } := by
  rw [foldl_twins]
  ext1
  · rfl
  · funext t
    simp only [view, find?_updates s.twins p f hf, Option.map_map]
    rfl
  · rfl

/-- `UPDATE agent_registrations`. -/
lemma view_updates_registrations {p : RegistrationRow → Bool}
    {f : RegistrationRow → RegistrationRow} (hf : ∀ r, (f r).agentID = r.agentID) :
    view (((s.registrations.updates s.registrations p f).map Write.registrations).foldl
      Store.apply s) = { view s with edge := fun a => (s.registrations.find? a).map (fun row =>
          let row := if p row then f row else row
          ⟨row.tenantID, row.status⟩) } := by
  rw [foldl_registrations]
  ext1
  · funext a
    simp only [view, find?_updates s.registrations p f hf, Option.map_map]
    rfl
  · rfl
  · rfl

/-- `DELETE FROM agent_assignments`. -/
lemma view_deletes_assignments {p : AssignmentRow → Bool} :
    view (((s.assignments.deletes s.assignments p).map Write.assignments).foldl Store.apply s) =
      { view s with assigned := fun a t => ((s.assignments.find? (a, t)).filter
          (fun row => !p row)).map AssignmentRow.tenantID } := by
  rw [foldl_assignments]
  ext1
  · rfl
  · rfl
  · funext a t
    simp only [view, find?_deletes]

lemma effect_twinExists (twinID : TwinID) (tenantID : TenantID) (s : Store) :
    ∃ b, effect engine (.twinExists twinID tenantID) s = some (b, s) ∧
      (b = true ↔ (view s).LiveTwin twinID tenantID) := by
  refine ⟨_, rfl, ?_⟩
  rw [List.any_eq_true]
  simp only [Lifecycle.LiveTwin, view, Option.map_eq_some_iff, find?_eq_some, TwinRow.is]
  constructor
  · rintro ⟨row, hrow, h⟩
    obtain ⟨⟨rfl, rfl⟩, hdeleted⟩ : (row.id = twinID ∧ row.tenantID = tenantID) ∧
        row.deleted = false := by simpa using h
    exact ⟨_, ⟨row, ⟨hrow, rfl⟩, rfl⟩, rfl, hdeleted⟩
  · rintro ⟨_, ⟨row, ⟨hrow, rfl⟩, rfl⟩, rfl, hdeleted⟩
    exact ⟨row, hrow, by simpa using hdeleted⟩

lemma effect_insertTwin (row : TwinRow) (s : Store) :
    effect engine (.insertTwin row) s = none ∨
      ∃ n s', effect engine (.insertTwin row) s = some (n, s') ∧ (view s).twin row.id = none ∧
        view s' = { view s with twin := fun t =>
          if t = row.id then some ⟨row.tenantID, row.status, row.deleted⟩ else (view s).twin t } := by
  by_cases h : s.twins.HasKey row.id ∨ s.twins.rows.any (TwinRow.named row.tenantID row.name)
  · exact .inl (effect_none (if_pos h))
  · right
    have hrun : Sql.run (.insertTwin row) s s = affected .twins [.put row] := if_neg h
    refine ⟨_, _, effect_affected hrun, ?_, ?_⟩
    · have hnone : s.twins.find? row.id = none := by
        rw [← Option.not_isSome_iff_eq_none, ← hasKey_iff_find?]
        exact fun hkey => h (.inl hkey)
      simp [view, hnone]
    · rw [foldl_twins]
      ext1
      · rfl
      · funext t
        simp only [view, List.foldl_cons, List.foldl_nil, Lib.Table.write_put, find?_put]
        split <;> rfl
      · rfl

lemma effect_softDeleteTwin (twinID : TwinID) (tenantID : TenantID) (s : Store) :
    ∃ n s', effect engine (.softDeleteTwin twinID tenantID) s = some (n, s') ∧
      (n = 0 ↔ ¬ (view s).LiveTwin twinID tenantID) ∧
      view s' = (view s).closeTwin twinID tenantID := by
  refine ⟨_, _, effect_affected rfl, ?_, ?_⟩
  · obtain ⟨b, hb, hlive⟩ := effect_twinExists twinID tenantID s
    obtain rfl : s.twins.rows.any (fun row => row.is twinID tenantID && !row.deleted) = b := by
      simpa [effect, engine, Sql.run] using hb
    rw [← hlive, Lib.Table.updates, Lib.Table.matching_self, List.length_map]
    simp [List.any_eq_true, List.filter_eq_nil_iff]
  · rw [view_updates_twins (by exact fun _ => rfl)]
    ext1
    · rfl
    · funext t
      simp only [view, Lifecycle.closeTwin, Option.map_map]
      cases hfind : s.twins.find? t with
      | none => rfl
      | some row =>
        obtain ⟨-, rfl⟩ := find?_eq_some.mp hfind
        by_cases hself : row.id = twinID ∧ row.tenantID = tenantID
        · cases hd : row.deleted <;> simp [TwinRow.is, hself, hd]
        · have hp : row.is twinID tenantID = false := by simpa [TwinRow.is] using hself
          simp [hp, hself]
    · rfl

lemma effect_updateTwinStatus (twinID : TwinID) (tenantID : TenantID)
    (status : ClusterAgentStatus) (s : Store) :
    ∃ n s', effect engine (.updateTwinStatus twinID tenantID status) s = some (n, s') ∧
      view s' = (view s).setTwin twinID tenantID status := by
  refine ⟨_, _, effect_affected rfl, ?_⟩
  rw [view_updates_twins (by exact fun _ => rfl)]
  ext1
  · rfl
  · funext t
    simp only [view, Lifecycle.setTwin, Option.map_map]
    cases hfind : s.twins.find? t with
    | none => rfl
    | some row =>
      obtain ⟨-, rfl⟩ := find?_eq_some.mp hfind
      by_cases hself : row.id = twinID ∧ row.tenantID = tenantID
      · simp [TwinRow.is, hself]
      · have hp : row.is twinID tenantID = false := by simpa [TwinRow.is] using hself
        simp [hp, hself]
  · rfl

lemma effect_deleteAssignments (agentID : AgentID) (s : Store) :
    ∃ n s', effect engine (.deleteAssignments agentID) s = some (n, s') ∧
      view s' = (view s).release agentID := by
  refine ⟨_, _, effect_affected rfl, ?_⟩
  rw [view_deletes_assignments]
  ext1
  · rfl
  · rfl
  · funext a t
    simp only [view, Lifecycle.release]
    cases hfind : s.assignments.find? (a, t) with
    | none => simp
    | some row =>
      obtain ⟨-, hkey⟩ := find?_eq_some.mp hfind
      have ha : row.agentID = a := (Prod.ext_iff.mp hkey).1
      by_cases h : a = agentID <;> simp [ha, h]

lemma effect_deleteTwinAssignments (twinID : TwinID) (s : Store) :
    ∃ n s', effect engine (.deleteTwinAssignments twinID) s = some (n, s') ∧
      view s' = (view s).releaseTwin twinID := by
  refine ⟨_, _, effect_affected rfl, ?_⟩
  rw [view_deletes_assignments]
  ext1
  · rfl
  · rfl
  · funext a t
    simp only [view, Lifecycle.releaseTwin]
    cases hfind : s.assignments.find? (a, t) with
    | none => simp
    | some row =>
      obtain ⟨-, hkey⟩ := find?_eq_some.mp hfind
      have ht : row.twinID = t := (Prod.ext_iff.mp hkey).2
      by_cases h : t = twinID <;> simp [ht, h]

lemma effect_insertAssignment (row : AssignmentRow) (s : Store)
    (fresh : (view s).assigned row.agentID row.twinID = none)
    (foreign : (view s).twin row.twinID ≠ none) :
    ∃ n s', effect engine (.insertAssignment row) s = some (n, s') ∧
      view s' = (view s).assign row.agentID row.twinID row.tenantID := by
  have hrun : Sql.run (.insertAssignment row) s s = affected .assignments [.put row] := by
    refine if_neg ?_
    rw [hasKey_iff_find?, hasKey_iff_find?]
    rintro (h | h)
    · have hnone : s.assignments.find? (row.agentID, row.twinID) = none := by
        simpa [view] using fresh
      rw [AssignmentRow.key, hnone] at h
      exact absurd h (by simp)
    · have hnone : s.twins.find? row.twinID = none := by simpa using h
      exact foreign (by simp [view, hnone])
  refine ⟨_, _, effect_affected hrun, ?_⟩
  rw [foldl_assignments]
  ext1
  · rfl
  · rfl
  · funext a t
    simp only [view, Lifecycle.assign, List.foldl_cons, List.foldl_nil, Lib.Table.write_put,
      find?_put, AssignmentRow.key, Prod.mk.injEq]
    split <;> rfl

lemma effect_assignedTwin (agentID : AgentID) (s : Store) :
    ∃ o, effect engine (.assignedTwin agentID) s = some (o, s) ∧
      (o = none → ∀ t, (view s).assigned agentID t = none) ∧
      ∀ t, o = some t → (view s).assigned agentID t ≠ none := by
  refine ⟨_, rfl, fun hnone t => ?_, fun t hsome => ?_⟩
  · rw [Option.map_eq_none_iff, List.find?_eq_none] at hnone
    rw [view, Option.map_eq_none_iff, find?_eq_none]
    intro row hrow hkey
    exact hnone row hrow (decide_eq_true (Prod.ext_iff.mp hkey).1)
  · obtain ⟨row, hrow, rfl⟩ := Option.map_eq_some_iff.mp hsome
    have hagent : row.agentID = agentID := by simpa using List.find?_some hrow
    have hfind : s.assignments.find? (agentID, row.twinID) = some row := by
      rw [find?_eq_some]
      exact ⟨List.mem_of_find?_eq_some hrow, by rw [← hagent]; rfl⟩
    simp [view, hfind]

lemma effect_upsertRegistration (agentID : AgentID) (tenantID : TenantID)
    (hostname clientID : String) (s : Store) :
    ∃ n s', effect engine (.upsertRegistration agentID tenantID hostname clientID) s =
      some (n, s') ∧ view s' = (view s).enroll agentID tenantID := by
  refine ⟨_, _, effect_affected rfl, ?_⟩
  rw [foldl_registrations]
  ext1
  · funext a
    simp only [view, Lifecycle.enroll, List.foldl_cons, List.foldl_nil, Lib.Table.write_put,
      find?_put]
    cases hfind : s.registrations.find? agentID with
    | none =>
      dsimp only
      split <;> rfl
    | some row =>
      obtain ⟨-, rfl⟩ := find?_eq_some.mp hfind
      dsimp only
      split <;> rfl
  · rfl
  · rfl

lemma effect_insertRegistration (row : RegistrationRow) (hstatus : row.status = .pending)
    (s : Store) : effect engine (.insertRegistration row) s = none ∨
      ∃ n s', effect engine (.insertRegistration row) s = some (n, s') ∧
        (view s).edge row.agentID = none ∧
        view s' = (view s).enroll row.agentID row.tenantID := by
  by_cases h : s.registrations.HasKey row.agentID
  · exact .inl (effect_none (if_pos h))
  · right
    have hrun : Sql.run (.insertRegistration row) s s = affected .registrations [.put row] :=
      if_neg h
    have hnone : s.registrations.find? row.agentID = none := by
      rw [← Option.not_isSome_iff_eq_none, ← hasKey_iff_find?]
      exact h
    refine ⟨_, _, effect_affected hrun, by simp [view, hnone], ?_⟩
    rw [foldl_registrations]
    ext1
    · funext a
      simp only [view, Lifecycle.enroll, List.foldl_cons, List.foldl_nil, Lib.Table.write_put,
        find?_put, hnone]
      split
      · simp [hstatus]
      · rfl
    · rfl
    · rfl

lemma view_updates_status {f : RegistrationRow → RegistrationRow}
    {status : EdgeAgentStatus → EdgeAgentStatus} (hid : ∀ r, (f r).agentID = r.agentID)
    (htenant : ∀ r, (f r).tenantID = r.tenantID) (hstatus : ∀ r, (f r).status = status r.status) :
    view (((s.registrations.updates s.registrations (RegistrationRow.is agentID tenantID) f).map
      Write.registrations).foldl Store.apply s) = (view s).setEdge agentID tenantID status := by
  rw [view_updates_registrations hid]
  ext1
  · funext a
    simp only [view, Lifecycle.setEdge, Option.map_map]
    cases hfind : s.registrations.find? a with
    | none => rfl
    | some row =>
      obtain ⟨-, rfl⟩ := find?_eq_some.mp hfind
      by_cases hself : row.agentID = agentID ∧ row.tenantID = tenantID
      · simp [RegistrationRow.is, hself, htenant, hstatus]
      · have hp : row.is agentID tenantID = false := by simpa [RegistrationRow.is] using hself
        simp [hp, hself]
  · rfl
  · rfl

lemma effect_renameAgent (name : String) (agentID : AgentID) (tenantID : TenantID) (s : Store) :
    ∃ n s', effect engine (.renameAgent name agentID tenantID) s = some (n, s') ∧
      view s' = (view s).setEdge agentID tenantID
        (fun status => if status = .pending then .deployed else status) :=
  ⟨_, _, effect_affected rfl, view_updates_status (fun _ => rfl) (fun _ => rfl) (fun _ => rfl)⟩

lemma effect_updateAgentStatus (agentID : AgentID) (tenantID : TenantID)
    (status : EdgeAgentStatus) (s : Store) :
    ∃ n s', effect engine (.updateAgentStatus agentID tenantID status) s = some (n, s') ∧
      view s' = (view s).setEdge agentID tenantID (fun _ => status) :=
  ⟨_, _, effect_affected rfl, view_updates_status (fun _ => rfl) (fun _ => rfl) (fun _ => rfl)⟩

lemma effect_updateBlacklisted (agentID : AgentID) (tenantID : TenantID) (reason : String)
    (s : Store) : ∃ n s', effect engine (.updateBlacklisted agentID tenantID reason) s =
      some (n, s') ∧ view s' = (view s).setEdge agentID tenantID (fun _ => .blacklisted) :=
  ⟨_, _, effect_affected rfl, view_updates_status (fun _ => rfl) (fun _ => rfl) (fun _ => rfl)⟩

lemma effect_agentStatus (agentID : AgentID) (tenantID : TenantID) (s : Store) :
    ∃ o, effect engine (.agentStatus agentID tenantID) s = some (o, s) ∧
      ∀ status, o = some status ↔ ∃ e, (view s).edge agentID = some e ∧ e.tenant = tenantID ∧
        e.status = status := by
  refine ⟨_, rfl, fun status => ?_⟩
  simp only [view, Option.map_eq_some_iff]
  constructor
  · rintro ⟨row, hrow, rfl⟩
    have his : row.agentID = agentID ∧ row.tenantID = tenantID := by
      simpa [RegistrationRow.is] using List.find?_some hrow
    have hfind : s.registrations.find? agentID = some row :=
      find?_eq_some.mpr ⟨List.mem_of_find?_eq_some hrow, his.1⟩
    exact ⟨_, ⟨row, hfind, rfl⟩, his.2, rfl⟩
  · rintro ⟨_, ⟨row, hfind, rfl⟩, rfl, rfl⟩
    refine ⟨row, ?_, rfl⟩
    obtain ⟨hmem, rfl⟩ := find?_eq_some.mp hfind
    obtain ⟨row', hrow'⟩ : ∃ row', s.registrations.rows.find?
        (RegistrationRow.is row.agentID row.tenantID) = some row' := by
      rw [← Option.isSome_iff_exists, List.find?_isSome]
      exact ⟨row, hmem, by simp [RegistrationRow.is]⟩
    have hkey : row'.agentID = row.agentID ∧ row'.tenantID = row.tenantID := by
      simpa [RegistrationRow.is] using List.find?_some hrow'
    rw [hrow', s.registrations.eq_of_key_eq (List.mem_of_find?_eq_some hrow') hmem hkey.1]

lemma effect_deleteRegistration (agentID : AgentID) (tenantID : TenantID) (s : Store) :
    ∃ n s', effect engine (.deleteRegistration agentID tenantID) s = some (n, s') ∧
      (n = 0 ↔ ¬ (view s).Allows agentID tenantID (fun _ => true)) ∧
      view s' = (view s).dropEdge agentID tenantID := by
  refine ⟨_, _, effect_affected rfl, ?_, ?_⟩
  · rw [Lib.Table.deletes, Lib.Table.matching_self, List.length_map, List.length_eq_zero_iff,
      List.filter_eq_nil_iff]
    simp only [Lifecycle.Allows, view, Option.map_eq_some_iff, find?_eq_some, RegistrationRow.is]
    constructor
    · rintro h ⟨_, ⟨row, ⟨hrow, rfl⟩, rfl⟩, rfl, -⟩
      exact h row hrow (by simp)
    · intro h row hrow his
      obtain ⟨rfl, rfl⟩ : row.agentID = agentID ∧ row.tenantID = tenantID := by simpa using his
      exact h ⟨_, ⟨row, ⟨hrow, rfl⟩, rfl⟩, rfl, trivial⟩
  · rw [foldl_registrations]
    ext1
    · funext a
      simp only [view, Lifecycle.dropEdge, find?_deletes]
      cases hfind : s.registrations.find? a with
      | none => rfl
      | some row =>
        obtain ⟨-, rfl⟩ := find?_eq_some.mp hfind
        by_cases hself : row.agentID = agentID ∧ row.tenantID = tenantID
        · simp [RegistrationRow.is, hself, Option.filter_some]
        · have hp : row.is agentID tenantID = false := by simpa [RegistrationRow.is] using hself
          simp only [Option.map_some, Option.filter_some, hp, hself]
          rfl
    · rfl
    · rfl

lemma effect_isBlacklisted (tenantID : TenantID) (agentID : AgentID) (s : Store) :
    ∃ b, effect engine (.isBlacklisted tenantID agentID) s = some (b, s) := ⟨_, rfl⟩

lemma effect_upsertBlacklist (tenantID : TenantID) (agentID : AgentID) (reason : String)
    (s : Store) : ∃ n s', effect engine (.upsertBlacklist tenantID agentID reason) s =
      some (n, s') ∧ view s' = view s :=
  ⟨_, _, effect_affected rfl, rfl⟩

lemma effect_deleteBlacklist (agentID : AgentID) (tenantID : TenantID) (s : Store) :
    ∃ n s', effect engine (.deleteBlacklist agentID tenantID) s = some (n, s') ∧
      view s' = view s := by
  refine ⟨_, _, effect_affected rfl, ?_⟩
  rw [foldl_blacklist]
  rfl

lemma effect_insertStatusLog (entry : StatusLogRow) (hactor : entry.actorID ≠ "") (s : Store) :
    ∃ n s', effect engine (.insertStatusLog entry) s = some (n, s') ∧ view s' = view s := by
  refine ⟨1, { s with statusLog := s.statusLog ++ [entry] }, ?_, rfl⟩
  simp [effect, engine, Sql.run, hactor, Store.apply]

lemma effect_insertStatusLog_none (entry : StatusLogRow) (hactor : entry.actorID = "") (s : Store) :
    effect engine (.insertStatusLog entry) s = none := by
  simp [effect, engine, Sql.run, hactor]

/-! ## What the calls do to the lifecycle -/

lemma step_refused {op : Operation} (hrefused : ¬ (view s).Accepts op)
    (hexec : op.perform s = s) : (view s).Step op (view (op.perform s)) := by
  rw [hexec]
  exact .refused hrefused

lemma step_createTwin (name description : String) : (view s).Step
    (.createTwin twinID tenantID name description)
    (view ((Operation.createTwin twinID tenantID name description).perform s)) := by
  have hperform : (Operation.createTwin twinID tenantID name description).perform s =
      (execAlone engine (createTwin twinID tenantID name description) s).2 :=
    Lib.Prog.exec_map (createTwin twinID tenantID name description) outcome s .idle
  rw [hperform]
  by_cases hname : name = ""
  · have hexec : (execAlone engine (createTwin twinID tenantID name description) s).2 = s := by
      simp [createTwin, execAlone, exec, hname]
    rw [hexec]
    exact .refused id
  have hcount : effect engine (.countTwins tenantID name) s =
    some ((s.twins.rows.filter (TwinRow.named tenantID name)).length, s) := rfl
  by_cases hexists : (s.twins.rows.filter (TwinRow.named tenantID name)).length > 0
  · have hexec : (execAlone engine (createTwin twinID tenantID name description) s).2 = s := by
      simp [createTwin, execAlone, exec, hname, hcount, hexists]
    rw [hexec]
    exact .refused id
  rcases effect_insertTwin { id := twinID, tenantID, name, description, status := .pending } s with
    hinsert | ⟨n, s', hinsert, hfresh, hview⟩
  · have hexec : (execAlone engine (createTwin twinID tenantID name description) s).2 = s := by
      simp [createTwin, execAlone, exec, hname, hcount, hexists, hinsert]
    rw [hexec]
    exact .refused id
  · have hexec : (execAlone engine (createTwin twinID tenantID name description) s).2 = s' := by
      simp [createTwin, execAlone, exec, hname, hcount, hexists, hinsert]
    rw [hexec, hview]
    exact .createTwin hfresh

lemma step_deleteTwin : (view s).Step (.deleteTwin tenantID twinID)
    (view ((Operation.deleteTwin tenantID twinID).perform s)) := by
  obtain ⟨n, s₁, h₁, hn, hview₁⟩ := effect_softDeleteTwin twinID tenantID s
  obtain ⟨m, s₂, h₂, hview₂⟩ := effect_deleteTwinAssignments twinID s₁
  by_cases hlive : (view s).LiveTwin twinID tenantID
  · have hpos : n ≠ 0 := fun h => hn.mp h hlive
    have hexec : (Operation.deleteTwin tenantID twinID).perform s = s₂ := by
      simp [Operation.perform, Operation.program, deleteTwin, commit, execAlone, exec, h₁, h₂, hpos]
    rw [hexec, hview₂, hview₁]
    exact .deleteTwin hlive
  · have hzero : n = 0 := hn.mpr hlive
    have hexec : (Operation.deleteTwin tenantID twinID).perform s = s := by
      simp [Operation.perform, Operation.program, deleteTwin, execAlone, exec, h₁, hzero]
    exact step_refused hlive hexec

lemma step_registerAgent (clientID topicPrefix : String) : (view s).Step
    (.registerAgent agentID twinID tenantID clientID topicPrefix)
    (view ((Operation.registerAgent agentID twinID tenantID clientID topicPrefix).perform s)) := by
  have hperform : (Operation.registerAgent agentID twinID tenantID clientID topicPrefix).perform s =
      (execAlone engine (registerAgent agentID twinID tenantID clientID topicPrefix) s).2 :=
    Lib.Prog.exec_map (registerAgent agentID twinID tenantID clientID topicPrefix) outcome s .idle
  rw [hperform]
  obtain ⟨b, hexists, hb⟩ := effect_twinExists twinID tenantID s
  by_cases hlive : (view s).LiveTwin twinID tenantID
  · obtain ⟨n, s₁, h₁, hview₁⟩ := effect_deleteAssignments agentID s
    have hfresh : (view s₁).assigned agentID twinID = none := by
      rw [hview₁, Lifecycle.release_free]
    have hforeign : (view s₁).twin twinID ≠ none := by
      obtain ⟨t, ht, -⟩ := hlive
      have htwin : (view s₁).twin twinID = some t := by rw [hview₁, ← ht]; rfl
      simp [htwin]
    -- The insert succeeds, as the agent has just been released and the twin exists.
    obtain ⟨m, s₂, h₂, hview₂⟩ := effect_insertAssignment
      { agentID, twinID, tenantID, clientID, topicPrefix } s₁ hfresh hforeign
    have hexec :
        (execAlone engine (registerAgent agentID twinID tenantID clientID topicPrefix) s).2 = s₂ := by
      simp [registerAgent, execAlone, exec, hexists, hb.mpr hlive, h₁, h₂]
    rw [hexec, hview₂, hview₁]
    exact .registerAgent hlive
  · have hfalse : b = false := by simpa using mt hb.mp hlive
    have hexec :
        (execAlone engine (registerAgent agentID twinID tenantID clientID topicPrefix) s).2 = s := by
      simp [registerAgent, execAlone, exec, hexists, hfalse]
    rw [hexec]
    exact .refused hlive

lemma step_unassignAgent : (view s).Step (.unassignAgent agentID)
    (view ((Operation.unassignAgent agentID).perform s)) := by
  obtain ⟨n, s₁, h₁, hview₁⟩ := effect_deleteAssignments agentID s
  have hexec : (Operation.unassignAgent agentID).perform s = s₁ := by
    simp [Operation.perform, Operation.program, unassignAgent, execAlone, exec, h₁]
  rw [hexec, hview₁]
  exact .unassignAgent

lemma step_upsertAgentRegistration (hostname clientID : String) : (view s).Step
    (.upsertAgentRegistration agentID tenantID hostname clientID)
    (view ((Operation.upsertAgentRegistration agentID tenantID hostname clientID).perform s)) := by
  obtain ⟨n, s₁, h₁, hview₁⟩ := effect_upsertRegistration agentID tenantID hostname clientID s
  have hexec :
      (Operation.upsertAgentRegistration agentID tenantID hostname clientID).perform s = s₁ := by
    simp [Operation.perform, Operation.program, upsertAgentRegistration, execAlone, exec, h₁]
  rw [hexec, hview₁]
  exact .upsertAgentRegistration

lemma step_createAgent (name : String) : (view s).Step (.createAgent agentID tenantID name)
    (view ((Operation.createAgent agentID tenantID name).perform s)) := by
  have hperform : (Operation.createAgent agentID tenantID name).perform s =
      (execAlone engine (createAgent agentID tenantID name) s).2 :=
    Lib.Prog.exec_map (createAgent agentID tenantID name) outcome s .idle
  rw [hperform]
  rcases effect_insertRegistration { agentID, tenantID, name, status := .pending } rfl s with
    h₁ | ⟨n, s₁, h₁, hfresh, hview₁⟩
  · have hexec : (execAlone engine (createAgent agentID tenantID name) s).2 = s := by
      simp [createAgent, execAlone, exec, h₁]
    rw [hexec]
    exact .refused id
  · have hexec : (execAlone engine (createAgent agentID tenantID name) s).2 = s₁ := by
      simp [createAgent, execAlone, exec, h₁]
    rw [hexec, hview₁]
    exact .createAgent hfresh

lemma step_deleteAgent : (view s).Step (.deleteAgent agentID tenantID)
    (view ((Operation.deleteAgent agentID tenantID).perform s)) := by
  obtain ⟨n, s₁, h₁, hview₁⟩ := effect_deleteAssignments agentID s
  obtain ⟨m, s₂, h₂, -, hview₂⟩ := effect_deleteRegistration agentID tenantID s₁
  have hexec : (Operation.deleteAgent agentID tenantID).perform s = s₂ := by
    by_cases hm : m = 0 <;>
      simp [Operation.perform, Operation.program, deleteAgent, execAlone, exec, h₁, h₂, hm]
  rw [hexec, hview₂, hview₁]
  exact .deleteAgent

lemma step_updateAgent (name : String) : (view s).Step (.updateAgent agentID tenantID name)
    (view ((Operation.updateAgent agentID tenantID name).perform s)) := by
  obtain ⟨n, s₁, h₁, hview₁⟩ := effect_renameAgent name agentID tenantID s
  have hexec : (Operation.updateAgent agentID tenantID name).perform s = s₁ := by
    by_cases hn : n = 0 <;>
      simp [Operation.perform, Operation.program, updateAgent, execAlone, exec, h₁, hn]
  rw [hexec, hview₁]
  exact .updateAgent

lemma allows_of_agentStatus (allowed : EdgeAgentStatus → Bool) {o : Option EdgeAgentStatus}
    (ho : ∀ status, o = some status ↔ ∃ e, (view s).edge agentID = some e ∧ e.tenant = tenantID ∧
      e.status = status) :
    (view s).Allows agentID tenantID allowed ↔ ∃ status, o = some status ∧ allowed status = true := by
  constructor
  · rintro ⟨e, he, htenant, hallowed⟩
    exact ⟨e.status, (ho e.status).mpr ⟨e, he, htenant, rfl⟩, hallowed⟩
  · rintro ⟨status, hstatus, hallowed⟩
    obtain ⟨e, he, htenant, rfl⟩ := (ho status).mp hstatus
    exact ⟨e, he, htenant, hallowed⟩

lemma step_pairAgent (actorID : String) : (view s).Step
    (.pairAgent agentID twinID tenantID actorID)
    (view ((Operation.pairAgent agentID twinID tenantID actorID).perform s)) := by
  obtain ⟨blacklisted, hblacklisted⟩ := effect_isBlacklisted tenantID agentID s
  cases hb : blacklisted with
  | true =>
    refine step_refused id ?_
    simp [Operation.perform, Operation.program, pairAgent, execAlone, exec, hblacklisted, hb]
  | false =>
  obtain ⟨o, hstatus, ho⟩ := effect_agentStatus agentID tenantID s
  cases hread : o with
  | none =>
    refine step_refused id ?_
    simp [Operation.perform, Operation.program, pairAgent, execAlone, exec, hblacklisted, hb,
      hstatus, hread]
  | some currentStatus =>
  cases hpair : canTransitionEdge currentStatus .pair with
  | false =>
    refine step_refused id ?_
    simp [Operation.perform, Operation.program, pairAgent, execAlone, exec, hblacklisted, hb,
      hstatus, hread, hpair]
  | true =>
  have hallowed : (view s).Allows agentID tenantID (canTransitionEdge · .pair) :=
    (allows_of_agentStatus _ ho).mpr ⟨currentStatus, hread, hpair⟩
  obtain ⟨exists_, hexists, hlive⟩ := effect_twinExists twinID tenantID s
  cases he : exists_ with
  | false =>
    refine step_refused id ?_
    simp [Operation.perform, Operation.program, pairAgent, execAlone, exec, hblacklisted, hb,
      hstatus, hread, hpair, hexists, he]
  | true =>
  have hlive : (view s).LiveTwin twinID tenantID := hlive.mp he
  -- The transaction: all five statements succeed unless the log entry has no actor.
  obtain ⟨n₁, s₁, h₁, hview₁⟩ := effect_deleteAssignments agentID s
  have hfresh : (view s₁).assigned agentID twinID = none := by
    rw [hview₁, Lifecycle.release_free]
  have hforeign : (view s₁).twin twinID ≠ none := by
    obtain ⟨t, ht, -⟩ := hlive
    have htwin : (view s₁).twin twinID = some t := by rw [hview₁, ← ht]; rfl
    simp [htwin]
  obtain ⟨n₂, s₂, h₂, hview₂⟩ :=
    effect_insertAssignment { agentID, twinID, tenantID } s₁ hfresh hforeign
  obtain ⟨n₃, s₃, h₃, hview₃⟩ := effect_updateAgentStatus agentID tenantID .active s₂
  obtain ⟨n₄, s₄, h₄, hview₄⟩ := effect_updateTwinStatus twinID tenantID .active s₃
  let entry : StatusLogRow :=
    { agentID, tenantID, actorID
      fromStatus := currentStatus.toString
      toStatus := "active"
      reason := "assigned to twin " ++ twinID }
  by_cases hactor : actorID = ""
  · refine step_refused id ?_
    have h₅ := effect_insertStatusLog_none entry hactor s₄
    simp [Operation.perform, Operation.program, pairAgent, execAlone, exec, hblacklisted, hb,
      hstatus, hread, hpair, hexists, he, h₁, h₂, h₃, h₄, h₅, entry]
  · obtain ⟨n₅, s₅, h₅, hview₅⟩ := effect_insertStatusLog entry hactor s₄
    have hexec : (Operation.pairAgent agentID twinID tenantID actorID).perform s = s₅ := by
      simp [Operation.perform, Operation.program, pairAgent, commit, execAlone, exec, hblacklisted,
        hb, hstatus, hread, hpair, hexists, he, h₁, h₂, h₃, h₄, h₅, entry]
    rw [hexec, hview₅, hview₄, hview₃, hview₂, hview₁]
    exact .pairAgent hallowed hlive

lemma step_unpairAgent (actorID : String) : (view s).Step (.unpairAgent agentID tenantID actorID)
    (view ((Operation.unpairAgent agentID tenantID actorID).perform s)) := by
  obtain ⟨o, hstatus, ho⟩ := effect_agentStatus agentID tenantID s
  have hallows := allows_of_agentStatus (canTransitionEdge · .unpair) ho
  cases hread : o with
  | none =>
    refine step_refused (fun h => ?_) ?_
    · obtain ⟨status, hsome, -⟩ := hallows.mp h.2.1
      rw [hread] at hsome
      exact absurd hsome (by simp)
    · simp [Operation.perform, Operation.program, unpairAgent, execAlone, exec, hstatus, hread]
  | some currentStatus =>
  cases hunpair : canTransitionEdge currentStatus .unpair with
  | false =>
    refine step_refused (fun h => ?_) ?_
    · obtain ⟨status, hsome, hallowed⟩ := hallows.mp h.2.1
      obtain rfl := Option.some.inj (hread.symm.trans hsome)
      rw [hunpair] at hallowed
      exact absurd hallowed (by simp)
    · simp [Operation.perform, Operation.program, unpairAgent, execAlone, exec, hstatus, hread,
        hunpair]
  | true =>
  have hallowed := hallows.mpr ⟨currentStatus, hread, hunpair⟩
  obtain ⟨assigned, htwin, hnone, hsome⟩ := effect_assignedTwin agentID s
  cases hrow : assigned with
  | none =>
    refine step_refused (fun h => ?_) ?_
    · obtain ⟨twin, hassigned⟩ := h.2.2
      exact hassigned (hnone hrow twin)
    · simp [Operation.perform, Operation.program, unpairAgent, execAlone, exec, hstatus, hread,
        hunpair, htwin, hrow]
  | some twinID =>
  -- The transaction: its statements succeed unless the log entry has no actor.
  obtain ⟨n₁, s₁, h₁, hview₁⟩ := effect_deleteAssignments agentID s
  obtain ⟨n₂, s₂, h₂, hview₂⟩ := effect_updateAgentStatus agentID tenantID .rogue s₁
  obtain ⟨n₃, s₃, h₃, hview₃⟩ := effect_updateTwinStatus twinID tenantID .unconfigured s₂
  let entry : StatusLogRow :=
    { agentID, tenantID, actorID
      fromStatus := "active"
      toStatus := "rogue"
      reason := "unassigned from twin " ++ twinID }
  by_cases hactor : actorID = ""
  · refine step_refused (fun h => h.1 hactor) ?_
    have h₄ := effect_insertStatusLog_none entry hactor s₃
    simp [Operation.perform, Operation.program, unpairAgent, execAlone, exec, hstatus, hread,
      hunpair, htwin, hrow, h₁, h₂, h₃, h₄, entry]
  · obtain ⟨n₄, s₄, h₄, hview₄⟩ := effect_insertStatusLog entry hactor s₃
    have hexec : (Operation.unpairAgent agentID tenantID actorID).perform s = s₄ := by
      simp [Operation.perform, Operation.program, unpairAgent, commit, execAlone, exec, hstatus,
        hread, hunpair, htwin, hrow, h₁, h₂, h₃, h₄, entry]
    rw [hexec, hview₄, hview₃, hview₂, hview₁]
    exact .unpairAgent ⟨hactor, hallowed, twinID, hsome twinID hrow⟩ (hsome twinID hrow)

lemma step_retireAgent (actorID : String) : (view s).Step (.retireAgent agentID tenantID actorID)
    (view ((Operation.retireAgent agentID tenantID actorID).perform s)) := by
  obtain ⟨o, hstatus, ho⟩ := effect_agentStatus agentID tenantID s
  have hallows := allows_of_agentStatus (canTransitionEdge · .retire) ho
  cases hread : o with
  | none =>
    refine step_refused (fun h => ?_) ?_
    · obtain ⟨status, hsome, -⟩ := hallows.mp h.2
      rw [hread] at hsome
      exact absurd hsome (by simp)
    · simp [Operation.perform, Operation.program, retireAgent, execAlone, exec, hstatus, hread]
  | some currentStatus =>
  cases hretire : canTransitionEdge currentStatus .retire with
  | false =>
    refine step_refused (fun h => ?_) ?_
    · obtain ⟨status, hsome, hallowed⟩ := hallows.mp h.2
      obtain rfl := Option.some.inj (hread.symm.trans hsome)
      rw [hretire] at hallowed
      exact absurd hallowed (by simp)
    · simp [Operation.perform, Operation.program, retireAgent, execAlone, exec, hstatus, hread,
        hretire]
  | true =>
  have hallowed := hallows.mpr ⟨currentStatus, hread, hretire⟩
  -- The transaction: its statements succeed unless the log entry has no actor.
  obtain ⟨n₁, s₁, h₁, hview₁⟩ := effect_deleteAssignments agentID s
  obtain ⟨n₂, s₂, h₂, hview₂⟩ := effect_updateAgentStatus agentID tenantID .retired s₁
  let entry : StatusLogRow :=
    { agentID, tenantID, actorID
      fromStatus := currentStatus.toString
      toStatus := "retired"
      reason := "retired by operator" }
  by_cases hactor : actorID = ""
  · refine step_refused (fun h => h.1 hactor) ?_
    have h₃ := effect_insertStatusLog_none entry hactor s₂
    simp [Operation.perform, Operation.program, retireAgent, execAlone, exec, hstatus, hread,
      hretire, h₁, h₂, h₃, entry]
  · obtain ⟨n₃, s₃, h₃, hview₃⟩ := effect_insertStatusLog entry hactor s₂
    have hexec : (Operation.retireAgent agentID tenantID actorID).perform s = s₃ := by
      simp [Operation.perform, Operation.program, retireAgent, commit, execAlone, exec, hstatus,
        hread, hretire, h₁, h₂, h₃, entry]
    rw [hexec, hview₃, hview₂, hview₁]
    exact .retireAgent ⟨hactor, hallowed⟩

lemma step_blacklistAgent (reason actorID : String) : (view s).Step
    (.blacklistAgent agentID tenantID reason actorID)
    (view ((Operation.blacklistAgent agentID tenantID reason actorID).perform s)) := by
  obtain ⟨o, hstatus, ho⟩ := effect_agentStatus agentID tenantID s
  have hallows := allows_of_agentStatus (· = .blacklisted) ho
  by_cases hread : o = some .blacklisted
  · have hexec : (Operation.blacklistAgent agentID tenantID reason actorID).perform s = s := by
      simp [Operation.perform, Operation.program, blacklistAgent, execAlone, exec, hstatus, hread]
    exact step_refused (fun h => h.2 (hallows.mpr ⟨.blacklisted, hread, by simp⟩)) hexec
  have hnot : ¬ (view s).Allows agentID tenantID (· = .blacklisted) := by
    intro h
    obtain ⟨status, hsome, heq⟩ := hallows.mp h
    obtain rfl : status = .blacklisted := by simpa using heq
    exact hread hsome
  -- The transaction: its statements succeed unless the log entry has no actor.
  obtain ⟨n₁, s₁, h₁, hview₁⟩ := effect_upsertBlacklist tenantID agentID reason s
  obtain ⟨n₂, s₂, h₂, hview₂⟩ := effect_deleteAssignments agentID s₁
  obtain ⟨n₃, s₃, h₃, hview₃⟩ := effect_updateBlacklisted agentID tenantID reason s₂
  let entry : StatusLogRow :=
    { agentID, tenantID, reason, actorID
      fromStatus := statusOrUnknown (some o)
      toStatus := "blacklisted" }
  by_cases hactor : actorID = ""
  · have h₄ := effect_insertStatusLog_none entry hactor s₃
    have hexec : (Operation.blacklistAgent agentID tenantID reason actorID).perform s = s := by
      simp [Operation.perform, Operation.program, blacklistAgent, commit, execAlone, exec, hstatus,
        hread, h₁, h₂, h₃, h₄, entry]
    exact step_refused (fun h => h.1 hactor) hexec
  · obtain ⟨n₄, s₄, h₄, hview₄⟩ := effect_insertStatusLog entry hactor s₃
    have hexec : (Operation.blacklistAgent agentID tenantID reason actorID).perform s = s₄ := by
      simp [Operation.perform, Operation.program, blacklistAgent, commit, execAlone, exec, hstatus,
        hread, h₁, h₂, h₃, h₄, entry]
    rw [hexec, hview₄, hview₃, hview₂, hview₁]
    exact .blacklistAgent ⟨hactor, hnot⟩

lemma step_unregisterAgent (actorID : String) : (view s).Step
    (.unregisterAgent agentID tenantID actorID)
    (view ((Operation.unregisterAgent agentID tenantID actorID).perform s)) := by
  let entry : StatusLogRow :=
    { agentID, tenantID, actorID
      fromStatus := "active"
      toStatus := "unregistered"
      reason := "unregistered by operator — all client data erased" }
  by_cases hactor : actorID = ""
  · have h₁ := effect_insertStatusLog_none entry hactor s
    have hexec : (Operation.unregisterAgent agentID tenantID actorID).perform s = s := by
      simp [Operation.perform, Operation.program, unregisterAgent, execAlone, exec, h₁, entry]
    exact step_refused (fun h => h.1 hactor) hexec
  obtain ⟨n₁, s₁, h₁, hview₁⟩ := effect_insertStatusLog entry hactor s
  obtain ⟨n₂, s₂, h₂, hview₂⟩ := effect_deleteAssignments agentID s₁
  obtain ⟨n₃, s₃, h₃, hview₃⟩ := effect_deleteBlacklist agentID tenantID s₂
  obtain ⟨n₄, s₄, h₄, hn₄, hview₄⟩ := effect_deleteRegistration agentID tenantID s₃
  have hsame : (view s₃).Allows agentID tenantID (fun _ => true) ↔
      (view s).Allows agentID tenantID (fun _ => true) := by
    rw [hview₃, hview₂, hview₁]
    rfl
  -- The transaction is rolled back if there was no registration to delete.
  by_cases hregistered : (view s).Allows agentID tenantID (fun _ => true)
  · have hpos : n₄ ≠ 0 := fun h => hn₄.mp h (hsame.mpr hregistered)
    have hexec : (Operation.unregisterAgent agentID tenantID actorID).perform s = s₄ := by
      simp [Operation.perform, Operation.program, unregisterAgent, commit, execAlone, exec, h₁, h₂,
        h₃, h₄, hpos, entry]
    rw [hexec, hview₄, hview₃, hview₂, hview₁]
    exact .unregisterAgent ⟨hactor, hregistered⟩
  · have hzero : n₄ = 0 := hn₄.mpr (fun h => hregistered (hsame.mp h))
    have hexec : (Operation.unregisterAgent agentID tenantID actorID).perform s = s := by
      simp [Operation.perform, Operation.program, unregisterAgent, execAlone, exec, h₁, h₂, h₃, h₄,
        hzero, entry]
    exact step_refused (fun h => hregistered h.2) hexec

lemma step_heartbeat : (view s).Step (.heartbeat agentID)
    (view ((Operation.heartbeat agentID).perform s)) := by
  obtain ⟨o, hread, -⟩ := effect_assignedTwin agentID s
  have hexec : (Operation.heartbeat agentID).perform s = s := by
    have hperform : (Operation.heartbeat agentID).perform s =
        (execAlone engine (getAgentIdentity agentID) s).2 :=
      Lib.Prog.exec_map (getAgentIdentity agentID) (fun _ => Except.ok ()) s .idle
    rw [hperform]
    simp [getAgentIdentity, execAlone, exec, hread]
  exact step_refused id hexec

/-- Every call makes a step of the lifecycle model. -/
theorem step_view (op : Operation) (s : Store) : (view s).Step op (view (op.perform s)) := by
  cases op with
  | createTwin id tenantID name description => exact step_createTwin name description
  | deleteTwin tenantID twinID => exact step_deleteTwin
  | registerAgent agentID twinID tenantID clientID topicPrefix =>
    exact step_registerAgent clientID topicPrefix
  | unassignAgent agentID => exact step_unassignAgent
  | upsertAgentRegistration agentID tenantID hostname clientID =>
    exact step_upsertAgentRegistration hostname clientID
  | createAgent agentID tenantID name => exact step_createAgent name
  | deleteAgent agentID tenantID => exact step_deleteAgent
  | updateAgent agentID tenantID name => exact step_updateAgent name
  | pairAgent agentID twinID tenantID actorID => exact step_pairAgent actorID
  | unpairAgent agentID tenantID actorID => exact step_unpairAgent actorID
  | retireAgent agentID tenantID actorID => exact step_retireAgent actorID
  | blacklistAgent agentID tenantID reason actorID => exact step_blacklistAgent reason actorID
  | unregisterAgent agentID tenantID actorID => exact step_unregisterAgent actorID
  | heartbeat agentID => exact step_heartbeat

/-! ## Runs of calls -/

/-- One call. -/
def performStep (s : Store) (op : Operation) : Option Store := some (op.perform s)

/-- The condition on a call, read off the tables. -/
def KeepsLifecycle (s : Store) (op : Operation) : Prop := (view s).Keeps op

lemma view_empty : view {} = Lifecycle.empty := rfl

lemma wellFormed_empty : Lifecycle.empty.WellFormed where
  live _ _ _ h := absurd h (by simp [Lifecycle.empty])
  single _ _ _ h := absurd rfl h

lemma consistent_empty : Lifecycle.empty.Consistent where
  agents agent tenant := by simp [Lifecycle.AgentAssigned, Lifecycle.HasTwin, Lifecycle.empty]
  twins twin t h := absurd h (by simp [Lifecycle.empty])

/-- The lifecycle invariant of the store. In every state that calls lead to from the empty
schema, each of them satisfying `KeepsLifecycle` when it is made, the lifecycle is consistent;
and there the next call keeps it consistent exactly when it satisfies the condition. -/
theorem lifecycle_invariant {calls : List Operation} {s : Store}
    (run : Lib.Run performStep KeepsLifecycle {} calls s) :
    (view s).Consistent ∧
      ∀ op : Operation, (view (op.perform s)).Consistent ↔ KeepsLifecycle s op := by
  have hinv : (view s).WellFormed ∧ (view s).Consistent := by
    refine run.invariant (I := fun s => (view s).WellFormed ∧ (view s).Consistent)
      (fun s op s' hinv hkeeps hstep => ?_) ?_
    · obtain rfl : op.perform s = s' := Option.some.inj hstep
      have hstep := step_view op s
      exact ⟨hstep.wellFormed hinv.1, (hstep.consistent_iff hinv.1 hinv.2).mpr hkeeps⟩
    · rw [view_empty]
      exact ⟨wellFormed_empty, consistent_empty⟩
  exact ⟨hinv.2, fun op => (step_view op s).consistent_iff hinv.1 hinv.2⟩

/-- A twin is created and a registered agent is paired with it. -/
theorem lifecycle_invariant_witness :
    let s := (Operation.pairAgent "a1" "t1" "acme" "u1").perform
      ((Operation.upsertAgentRegistration "a1" "acme" "host" "client").perform
        ((Operation.createTwin "t1" "acme" "prod" "").perform {}))
    (view s).Consistent ∧ (view s).assigned "a1" "t1" = some "acme" := by
  intro s
  have run : Lib.Run performStep KeepsLifecycle {}
      ([] ++ [Operation.createTwin "t1" "acme" "prod" ""] ++
        [Operation.upsertAgentRegistration "a1" "acme" "host" "client"] ++
        [Operation.pairAgent "a1" "t1" "acme" "u1"]) s := by
    refine .snoc (.snoc (.snoc (.nil _) ?_ rfl) ?_ rfl) ?_ rfl
    · exact fun h => h.elim
    · exact fun h => h.elim
    · exact fun h => h.elim
  exact ⟨(lifecycle_invariant run).1, by decide +kernel⟩

/-- The store after calls that are made one after another. -/
def performAll (calls : List Operation) : Store := calls.foldl (fun s op => op.perform s) {}

lemma wellFormed_view (calls : List Operation) :
    (view (performAll calls)).WellFormed := by
  induction calls using List.reverseRecOn with
  | nil => exact wellFormed_empty
  | append_singleton calls op ih =>
    rw [performAll, List.foldl_append]
    exact (step_view op _).wellFormed ih

/-- Whatever calls are made, one after another, every assignment is to a live twin of its own
tenant, and no agent has two. -/
theorem assigned_to_live_twin (calls : List Operation) :
    let s := performAll calls
    ∀ row ∈ s.assignments.rows,
      (∃ twin ∈ s.twins.rows, twin.id = row.twinID ∧ twin.tenantID = row.tenantID ∧
        twin.deleted = false) ∧
      ∀ row' ∈ s.assignments.rows, row'.agentID = row.agentID → row' = row := by
  intro s row hrow
  have hwell : (view s).WellFormed := wellFormed_view calls
  have hassigned {r : AssignmentRow} (hr : r ∈ s.assignments.rows) :
      (view s).assigned r.agentID r.twinID = some r.tenantID :=
    Option.map_eq_some_iff.mpr ⟨r, find?_eq_some.mpr ⟨hr, rfl⟩, rfl⟩
  constructor
  · obtain ⟨_, htwin, htenant, hlive⟩ := hwell.live _ _ _ (hassigned hrow)
    obtain ⟨twin, hfind, rfl⟩ := Option.map_eq_some_iff.mp htwin
    obtain ⟨hmem, hid⟩ := find?_eq_some.mp hfind
    exact ⟨twin, hmem, hid, htenant, hlive⟩
  · intro row' hrow' hagent
    have htwin : row'.twinID = row.twinID := by
      refine hwell.single row.agentID _ _ ?_ (by simp [hassigned hrow])
      simp [← hagent, hassigned hrow']
    have hkey : s.assignments.find? (row.agentID, row.twinID) = some row' :=
      find?_eq_some.mpr ⟨hrow', Prod.ext hagent htwin⟩
    exact Option.some.inj (hkey.symm.trans (find?_eq_some.mpr ⟨hrow, rfl⟩))

lemma Lifecycle.Step.deleted {l l' : Lifecycle} {op : Operation} (step : l.Step op l')
    (h : ∃ t, l.twin twinID = some t ∧ t.tenant = tenantID ∧ t.deleted = true) :
    ∃ t, l'.twin twinID = some t ∧ t.tenant = tenantID ∧ t.deleted = true := by
  obtain ⟨t, ht, htenant, hdeleted⟩ := h
  cases step with
  | createTwin fresh =>
    -- Its ID is taken.
    have hne : twinID ≠ _ := fun heq => by
      rw [heq, fresh] at ht
      cases ht
    exact ⟨t, by simp [addTwin, hne, ht], htenant, hdeleted⟩
  | deleteTwin =>
    refine ⟨_, Option.map_eq_some_iff.mpr ⟨t, ht, rfl⟩, ?_⟩
    split
    · exact ⟨htenant, rfl⟩
    · exact ⟨htenant, hdeleted⟩
  | pairAgent | unpairAgent =>
    refine ⟨_, Option.map_eq_some_iff.mpr ⟨t, ht, rfl⟩, ?_⟩
    split <;> exact ⟨htenant, hdeleted⟩
  | _ => exact ⟨t, ht, htenant, hdeleted⟩

/-- No call brings a deleted twin back: it keeps its tenant and stays deleted, and no agent is
assigned to it. -/
theorem deleted_twin_stays (earlier later : List Operation)
    (h : ∃ t, (view (performAll earlier)).twin twinID = some t ∧
      t.tenant = tenantID ∧ t.deleted = true) :
    let l := view (performAll (earlier ++ later))
    (∃ t, l.twin twinID = some t ∧ t.tenant = tenantID ∧ t.deleted = true) ∧
      ∀ agentID, l.assigned agentID twinID = none := by
  intro l
  have hdeleted : ∃ t, l.twin twinID = some t ∧ t.tenant = tenantID ∧ t.deleted = true := by
    induction later using List.reverseRecOn with
    | nil => simpa [l] using h
    | append_singleton later op ih =>
      simp only [l]
      rw [← List.append_assoc, performAll, List.foldl_append]
      exact (step_view op _).deleted ih
  refine ⟨hdeleted, fun agentID => Option.eq_none_iff_forall_ne_some.mpr fun tenant hrow => ?_⟩
  obtain ⟨t, ht, -, hlive⟩ := (wellFormed_view (earlier ++ later)).live _ _ _ hrow
  obtain ⟨t', ht', -, hdead⟩ := hdeleted
  obtain rfl : t = t' := Option.some.inj (ht.symm.trans ht')
  rw [hlive] at hdead
  cases hdead

/-- The ID is asked for again. -/
theorem deleted_twin_stays_again :
    let calls : List Operation := [.createTwin "t1" "acme" "prod" "", .deleteTwin "acme" "t1",
      .createTwin "t1" "acme" "prod" ""]
    let l := view (performAll calls)
    (∃ t, l.twin "t1" = some t ∧ t.tenant = "acme" ∧ t.deleted = true) ∧
      ∀ agentID, l.assigned agentID "t1" = none :=
  deleted_twin_stays [.createTwin "t1" "acme" "prod" "", .deleteTwin "acme" "t1"]
    [.createTwin "t1" "acme" "prod" ""] ⟨⟨"acme", .pending, true⟩, by decide +kernel⟩

/-- An agent registers with a twin: it has an assignment, but its status stays pending. -/
theorem registered_agent_stays_pending :
    ¬ ∀ (calls : List Operation) (s : Store), Lib.Run performStep Lib.Unguarded {} calls s →
      (view s).Consistent := by
  intro h
  let calls : List Operation := [
    .createTwin "t1" "acme" "prod" "",
    .upsertAgentRegistration "a1" "acme" "host" "client",
    .registerAgent "a1" "t1" "acme" "client" "topic"]
  obtain ⟨s, hs⟩ : ∃ s, calls.foldlM performStep {} = some s := ⟨_, rfl⟩
  have hedge : (calls.foldlM performStep {}).map (fun s => (view s).edge "a1") =
      some (some ⟨"acme", .pending⟩) := by decide +kernel
  have htwin : (calls.foldlM performStep {}).map (fun s => (view s).twin "t1") =
      some (some ⟨"acme", .pending, false⟩) := by decide +kernel
  have hrow : (calls.foldlM performStep {}).map (fun s => (view s).assigned "a1" "t1") =
      some (some "acme") := by decide +kernel
  rw [hs] at hedge htwin hrow
  have hconsistent := h calls s (Lib.run_iff_foldlM.mpr hs)
  obtain ⟨e, he, -, hassigned⟩ := (hconsistent.agents "a1" "acme").mpr
    ⟨"t1", Option.some.inj hrow, _, Option.some.inj htwin, rfl, rfl⟩
  have heq : some ⟨"acme", .pending⟩ = some e := (Option.some.inj hedge).symm.trans he
  rw [← Option.some.inj heq] at hassigned
  revert hassigned
  decide

end Paryty.Twin

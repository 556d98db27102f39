import Paryty.Twin.Blacklisting

/-!
# Who can readmit a barred agent

The facts of `Ban` are kept by everything that orderly callers have open.

* `clean_guarantee`: statement by statement, what is written keeps the facts. `clean_program`:
  hence so does every call that does not readmit the agent.
* `safe_readmits`: a call that checks the blacklist or the status first keeps them as well, when
  it is made while the facts hold.
* `Phase`: where a blacklisting stands, and which facts its commit will establish.
-/

namespace Paryty.Twin

open Lib (Keeps Covered Establishes)
open Lib.Table (find?_put find?_erase find?_eq_some mem_updates mem_deletes hasKey_iff_find?)

variable {agent : AgentID} {tenant : TenantID}

/-! ## Row writes -/

lemma keeps_twins (w : Lib.Table.RowWrite TwinRow TwinID) :
    Keeps engine (Ban.Holds agent tenant) (.twins w) := by
  intro j s hj
  cases j <;> exact hj

lemma keeps_statusLog (entry : StatusLogRow) :
    Keeps engine (Ban.Holds agent tenant) (.statusLog entry) := by
  intro j s hj
  cases j <;> exact hj

lemma keeps_erase_assignment (key : AgentID × TwinID) :
    Keeps engine (Ban.Holds agent tenant) (.assignments (.erase key)) := by
  intro j s hj
  cases j with
  | listed => exact hj
  | status => exact hj
  | noRow twin =>
    intro row hrow
    have hfind : (s.assignments.erase key).find? (agent, twin) = some row := hrow
    rw [find?_erase] at hfind
    split at hfind
    · exact absurd hfind (by simp)
    · exact hj row hfind

lemma keeps_put_assignment {row : AssignmentRow}
    (h : ¬ (row.agentID = agent ∧ row.tenantID = tenant)) :
    Keeps engine (Ban.Holds agent tenant) (.assignments (.put row)) := by
  intro j s hj
  cases j with
  | listed => exact hj
  | status => exact hj
  | noRow twin =>
    intro row' hrow
    have hfind : (s.assignments.put row).find? (agent, twin) = some row' := hrow
    rw [find?_put] at hfind
    split at hfind
    case isTrue hkey =>
      obtain rfl := Option.some.inj hfind
      have hagent : row.agentID = agent := (Prod.ext_iff.mp hkey).1.symm
      exact fun htenant => h ⟨hagent, htenant⟩
    case isFalse => exact hj row' hfind

lemma keeps_erase_registration (agentID : AgentID) :
    Keeps engine (Ban.Holds agent tenant) (.registrations (.erase agentID)) := by
  intro j s hj
  cases j with
  | listed => exact hj
  | noRow twin => exact hj
  | status =>
    intro row hrow
    have hfind : (s.registrations.erase agentID).find? agent = some row := hrow
    rw [find?_erase] at hfind
    split at hfind
    · exact absurd hfind (by simp)
    · exact hj row hfind

lemma keeps_put_registration {row : RegistrationRow}
    (h : row.agentID = agent → row.tenantID = tenant → ¬ row.status.Admitted) :
    Keeps engine (Ban.Holds agent tenant) (.registrations (.put row)) := by
  intro j s hj
  cases j with
  | listed => exact hj
  | noRow twin => exact hj
  | status =>
    intro row' hrow
    have hfind : (s.registrations.put row).find? agent = some row' := hrow
    rw [find?_put] at hfind
    split at hfind
    case isTrue hkey =>
      obtain rfl := Option.some.inj hfind
      exact h hkey.symm
    case isFalse => exact hj row' hfind

lemma keeps_put_blacklist (row : BlacklistRow) :
    Keeps engine (Ban.Holds agent tenant) (.blacklist (.put row)) := by
  intro j s hj
  cases j with
  | noRow twin => exact hj
  | status => exact hj
  | listed =>
    intro hnone
    have hfind : (s.blacklist.put row).find? (tenant, agent) = none := hnone
    rw [find?_put] at hfind
    split at hfind
    · exact absurd hfind (by simp)
    · exact hj hfind

lemma keeps_erase_blacklist {key : TenantID × AgentID} (h : key ≠ (tenant, agent)) :
    Keeps engine (Ban.Holds agent tenant) (.blacklist (.erase key)) := by
  intro j s hj
  cases j with
  | noRow twin => exact hj
  | status => exact hj
  | listed =>
    intro hnone
    have hfind : (s.blacklist.erase key).find? (tenant, agent) = none := hnone
    rw [find?_erase, if_neg (Ne.symm h)] at hfind
    exact hj hfind

/-! ## Statements -/

/-- A statement that cannot readmit the agent. The three that write a registration as they find
it are only issued outside transactions. -/
def Clean (agent : AgentID) (tenant : TenantID) {β : Type} (inTx : Bool) : Sql β → Prop
  | .insertAssignment row => ¬ (row.agentID = agent ∧ row.tenantID = tenant)
  | .updateAgentStatus agentID tenantID status =>
    agentID = agent → tenantID = tenant → ¬ status.Admitted
  | .deleteBlacklist agentID tenantID => ¬ (agentID = agent ∧ tenantID = tenant)
  | .upsertRegistration _ _ _ _ => inTx = false
  | .insertRegistration _ => inTx = false
  | .renameAgent _ _ _ => inTx = false
  | _ => True

lemma guarantee_map {ρ κ β : Type} {table : Lib.Table.RowWrite ρ κ → Write} {q : Sql β}
    {rows : List (Lib.Table.RowWrite ρ κ)} {inTx : Bool} {s : Store}
    (h : ∀ row ∈ rows, Keeps engine (Ban.Holds agent tenant) (table row)) :
    Lib.Prog.Guarantee engine (Ban.Holds agent tenant) (Registered agent tenant) inTx q s
      (rows.map table) := by
  apply Lib.guarantee_of_keeps
  intro write hwrite
  obtain ⟨row, hrow, rfl⟩ := List.mem_map.mp hwrite
  exact h row hrow

lemma keeps_update_registration {agentID : AgentID} {tenantID : TenantID}
    {snapshot current : Store} {f : RegistrationRow → RegistrationRow}
    (hid : ∀ row, (f row).agentID = row.agentID) (htenant : ∀ row, (f row).tenantID = row.tenantID)
    (hstatus : agentID = agent → tenantID = tenant → ∀ row, ¬ (f row).status.Admitted) :
    ∀ w ∈ snapshot.registrations.updates current.registrations
      (RegistrationRow.is agentID tenantID) f,
      Keeps engine (Ban.Holds agent tenant) (.registrations w) := by
  intro w hw
  obtain ⟨row, -, his, rfl⟩ := mem_updates hw
  obtain ⟨rfl, rfl⟩ : row.agentID = agentID ∧ row.tenantID = tenantID := by
    simpa [RegistrationRow.is] using his
  apply keeps_put_registration
  intro hagent htenant'
  exact hstatus ((hid row).symm.trans hagent) ((htenant row).symm.trans htenant') row

lemma registrations_keep {rows : List (Lib.Table.RowWrite RegistrationRow AgentID)} {s : Store}
    (h : (Ban.status).Holds agent tenant s →
      ∀ row ∈ rows, Keeps engine (Ban.Holds agent tenant) (.registrations row)) (j : Ban)
    (hj : j.Holds agent tenant s) :
    j.Holds agent tenant ((rows.map Write.registrations).foldl engine.apply s) := by
  have hfold : (rows.map Write.registrations).foldl engine.apply s =
      { s with registrations := rows.foldl Lib.Table.write s.registrations } :=
    foldl_registrations rows s
  cases j with
  | listed | noRow =>
    rw [hfold]
    exact hj
  | status =>
    apply Lib.keeps_foldl _ _ hj
    intro write hwrite
    obtain ⟨row, hrow, rfl⟩ := List.mem_map.mp hwrite
    exact h hj row hrow

lemma clean_guarantee {β : Type} (inTx : Bool) (q : Sql β) (snapshot current : Store) (answer : β)
    (writes : List Write) (hclean : Clean agent tenant inTx q)
    (hrun : engine.run q snapshot current = some (answer, writes)) :
    Lib.Prog.Guarantee engine (Ban.Holds agent tenant) (Registered agent tenant) inTx q current
      writes := by
  have hread : ∀ {β : Type} {q : Sql β}, writes = [] →
      Lib.Prog.Guarantee engine (Ban.Holds agent tenant) (Registered agent tenant) inTx q current
        writes := by
    intro _ _ h
    apply Lib.guarantee_of_keeps
    simp [h]
  cases q with
  | countTwins | twinExists | assignedTwin | agentStatus | isBlacklisted =>
    exact hread (Prod.ext_iff.mp (Option.some.inj hrun)).2.symm
  | insertTwin row =>
    simp only [engine, Sql.run] at hrun
    split at hrun
    · exact absurd hrun (by simp)
    · rw [writes_of_affected hrun]
      exact guarantee_map fun w _ => keeps_twins w
  | softDeleteTwin | updateTwinStatus =>
    rw [writes_of_affected hrun]
    exact guarantee_map fun w _ => keeps_twins w
  | deleteAssignments | deleteTwinAssignments =>
    rw [writes_of_affected hrun]
    apply guarantee_map
    intro w hw
    obtain ⟨row, -, -, rfl⟩ := mem_deletes hw
    exact keeps_erase_assignment _
  | insertAssignment row =>
    simp only [engine, Sql.run] at hrun
    split at hrun
    · exact absurd hrun (by simp)
    · rw [writes_of_affected hrun]
      apply guarantee_map
      intro w hw
      obtain rfl := List.mem_singleton.mp hw
      exact keeps_put_assignment hclean
  | upsertRegistration agentID tenantID hostname clientID =>
    obtain rfl : inTx = false := hclean
    rw [writes_of_affected hrun]
    intro hpermitted
    refine registrations_keep fun hstatus w hw => ?_
    obtain rfl := List.mem_singleton.mp hw
    apply keeps_put_registration
    cases hfind : current.registrations.find? agentID with
    | none =>
      intro hagent htenant
      obtain rfl : agentID = agent := hagent
      obtain rfl : tenantID = tenant := htenant
      have hkey := hasKey_iff_find?.mp (hpermitted rfl rfl)
      rw [hfind] at hkey
      exact absurd hkey (by simp)
    | some row =>
      intro hagent htenant
      have hkey : row.agentID = agentID := (find?_eq_some.mp hfind).2
      have hsame : row.agentID = agent := hagent
      rw [← hkey, hsame] at hfind
      exact hstatus row hfind htenant
  | insertRegistration row =>
    obtain rfl : inTx = false := hclean
    simp only [engine, Sql.run] at hrun
    split at hrun
    · exact absurd hrun (by simp)
    · rw [writes_of_affected hrun]
      intro hpermitted
      refine registrations_keep fun _ w hw => ?_
      obtain rfl := List.mem_singleton.mp hw
      apply keeps_put_registration
      exact fun hagent htenant => absurd ⟨hagent, htenant⟩ hpermitted
  | renameAgent name agentID tenantID =>
    obtain rfl : inTx = false := hclean
    rw [writes_of_affected hrun]
    intro _
    refine registrations_keep fun hstatus w hw => ?_
    obtain ⟨row, hmem, -, rfl⟩ := mem_updates hw
    apply keeps_put_registration
    intro hagent htenant
    have hfind : current.registrations.find? agent = some row := find?_eq_some.mpr ⟨hmem, hagent⟩
    have hnot := hstatus row hfind htenant
    -- A rename turns pending, which is admitted, into deployed, which is not.
    show ¬ EdgeAgentStatus.Admitted (if row.status = .pending then .deployed else row.status)
    split
    · decide
    · exact hnot
  | updateAgentStatus agentID tenantID status =>
    rw [writes_of_affected hrun]
    apply guarantee_map
    exact keeps_update_registration (fun _ => rfl) (fun _ => rfl)
      (fun hagent htenant _ => hclean hagent htenant)
  | updateBlacklisted agentID tenantID reason =>
    rw [writes_of_affected hrun]
    apply guarantee_map
    exact keeps_update_registration (fun _ => rfl) (fun _ => rfl)
      (fun _ _ _ => show ¬ EdgeAgentStatus.Admitted .blacklisted by decide)
  | deleteRegistration agentID tenantID =>
    rw [writes_of_affected hrun]
    apply guarantee_map
    intro w hw
    obtain ⟨row, -, -, rfl⟩ := mem_deletes hw
    exact keeps_erase_registration _
  | upsertBlacklist tenantID agentID reason =>
    rw [writes_of_affected hrun]
    apply guarantee_map
    intro w hw
    obtain rfl := List.mem_singleton.mp hw
    exact keeps_put_blacklist _
  | deleteBlacklist agentID tenantID =>
    rw [writes_of_affected hrun]
    apply guarantee_map
    intro w hw
    obtain ⟨row, -, hkey, rfl⟩ := mem_deletes hw
    apply keeps_erase_blacklist
    have hrow : row.key = (tenantID, agentID) := by simpa using hkey
    rw [hrow]
    intro heq
    exact hclean ⟨(Prod.ext_iff.mp heq).2, (Prod.ext_iff.mp heq).1⟩
  | insertStatusLog entry =>
    simp only [engine, Sql.run] at hrun
    split at hrun
    · exact absurd hrun (by simp)
    · obtain rfl := (Prod.ext_iff.mp (Option.some.inj hrun)).2
      apply Lib.guarantee_of_keeps
      intro write hwrite
      obtain rfl := List.mem_singleton.mp hwrite
      exact keeps_statusLog entry

/-! ## Calls -/

lemma clean_program {op : Operation} (h : ¬ Readmits agent tenant op) :
    op.program.All (Clean agent tenant) false := by
  refine (issues_program op).mono fun hissues => ?_
  have hretired : ¬ EdgeAgentStatus.Admitted .retired := by decide
  cases hissues with
  | registerInserts => exact h
  | pairInserts => exact h
  | pairActivates => exact fun hagent htenant => absurd ⟨hagent, htenant⟩ h
  | unpairReleases => exact fun hagent htenant => absurd ⟨hagent, htenant⟩ h
  | retireRetires => exact fun _ _ => hretired
  | unregisterUnlists => exact h
  | upsertRegistration => rfl
  | createInserts => rfl
  | updateRenames => rfl
  | _ => trivial

/-- All facts about a barred agent at once. -/
def Banned (agent : AgentID) (tenant : TenantID) (s : Store) : Prop :=
  ∀ j : Ban, j.Holds agent tenant s

/-- The sessions that keep the facts, their statements issued in stores that satisfy `J`. -/
abbrev SafeSession (agent : AgentID) (tenant : TenantID) (J : Store → Prop) (sess : CallSession) :
    Prop :=
  sess.Safe engine (Ban.Holds agent tenant) (Registered agent tenant) J

lemma safe_program {op : Operation} (h : ¬ Readmits agent tenant op) :
    SafeSession agent tenant (fun _ => True) ⟨op, op.program, .idle, none⟩ where
  prog := .of_all clean_guarantee (clean_program h)
  pending := by simp [Lib.Tx.pending]
  snapshot := by simp

lemma guarantee_nil {β : Type} {q : Sql β} {inTx : Bool} {s : Store} :
    Lib.Prog.Guarantee engine (Ban.Holds agent tenant) (Registered agent tenant) inTx q s [] :=
  Lib.guarantee_of_keeps (by simp)

lemma safe_pairAgent {twinID : TwinID} {actorID : String} :
    (pairAgent agent twinID tenant actorID).Safe engine (Ban.Holds agent tenant)
      (Registered agent tenant) (Banned agent tenant) false := by
  refine .query (fun snapshot current blacklisted writes hbanned hrun => ?_) trivial
  obtain ⟨hread, rfl⟩ := Prod.mk.inj (Option.some.inj hrun)
  have hlisted : blacklisted = true := by
    rw [← hread]
    exact Option.isSome_iff_ne_none.mpr (hbanned .listed)
  subst hlisted
  exact ⟨guarantee_nil, trivial⟩

lemma not_admitted_of_read {snapshot : Store} (hbanned : Banned agent tenant snapshot)
    {status : EdgeAgentStatus} (h : (snapshot.registrations.rows.find?
      (RegistrationRow.is agent tenant)).map RegistrationRow.status = some status) :
    ¬ status.Admitted := by
  obtain ⟨row, hrow, rfl⟩ := Option.map_eq_some_iff.mp h
  obtain ⟨hagent, htenant⟩ : row.agentID = agent ∧ row.tenantID = tenant := by
    simpa [RegistrationRow.is] using List.find?_some hrow
  apply hbanned .status row _ htenant
  exact find?_eq_some.mpr ⟨List.mem_of_find?_eq_some hrow, hagent⟩

lemma safe_unpairAgent {actorID : String} :
    (unpairAgent agent tenant actorID).Safe engine (Ban.Holds agent tenant)
      (Registered agent tenant) (Banned agent tenant) false := by
  refine .query (fun snapshot current currentStatus writes hbanned hrun => ?_) trivial
  obtain ⟨hread, rfl⟩ := Prod.mk.inj (Option.some.inj hrun)
  refine ⟨guarantee_nil, ?_⟩
  cases currentStatus with
  | none => trivial
  | some status =>
    have hnot := not_admitted_of_read hbanned hread
    have hrefused : canTransitionEdge status .unpair = false := by
      cases status <;> first | rfl | exact absurd (by decide) hnot
    simp only [hrefused]
    trivial

lemma safe_readmits {op : Operation} (hreadmits : Readmits agent tenant op)
    (hchecked : ¬ Unchecked agent tenant op)
    (hstays : Watched.Unregisters agent tenant op = false) :
    SafeSession agent tenant (Banned agent tenant) ⟨op, op.program, .idle, none⟩ := by
  refine ⟨?_, by simp [Lib.Tx.pending], by simp⟩
  cases op with
  | registerAgent agentID twinID tenantID clientID topicPrefix => exact absurd hreadmits hchecked
  | pairAgent agentID twinID tenantID actorID =>
    obtain ⟨rfl, rfl⟩ := hreadmits
    exact safe_pairAgent
  | unpairAgent agentID tenantID actorID =>
    obtain ⟨rfl, rfl⟩ := hreadmits
    exact safe_unpairAgent
  | unregisterAgent agentID tenantID actorID =>
    obtain ⟨rfl, rfl⟩ := hreadmits
    exact absurd hstays (by simp [Watched.Unregisters])
  | _ => exact hreadmits.elim

end Paryty.Twin

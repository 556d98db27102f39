import Paryty.Twin.Blacklisting

/-!
# One twin per agent

"An agent can only belong to one twin at a time", while the primary key of `agent_assignments`
is (agent_id, twin_id). `RegisterAgent` and `PairAgent` delete the assignments of the agent and
insert the new one, the first in two statements of their own, the second in a transaction. An
insert that becomes visible between the DELETE of another call and that call's end is not seen
by the DELETE and stays beside the new row.

`Exclusive` rules this out. `one_twin_per_agent`: in every run that respects it, with any other
lifecycle calls among them, an agent never has two assignments.
-/

namespace Paryty.Twin

open Lib.Prog (query)
open Lib.Table (find?_put find?_erase find?_eq_some mem_deletes)

/-- At most one assignment of the agent. -/
def OneTwin (agent : AgentID) (s : Store) : Prop :=
  ∀ row ∈ s.assignments, ∀ row' ∈ s.assignments, row.agentID = agent → row'.agentID = agent →
    row = row'

/-! ## Who assigns, and when -/

/-- A call that assigns the agent. -/
def Assigns (agent : AgentID) : Operation → Prop
  | .registerAgent agentID _ _ _ _ => agentID = agent
  | .pairAgent agentID _ _ _ => agentID = agent
  | _ => False

/-- The statement that removes the assignments of the agent. -/
def Sql.clears (agent : AgentID) {β : Type} : Sql β → Bool
  | .deleteAssignments agentID => agentID = agent
  | _ => false

/-- The statement that inserts an assignment of the agent. -/
def Sql.places (agent : AgentID) {β : Type} : Sql β → Bool
  | .insertAssignment row => row.agentID = agent
  | _ => false

/-- The write of an assignment of the agent. -/
def Write.places (agent : AgentID) : Write → Bool
  | .assignments (.put row) => row.agentID = agent
  | _ => false

/-- The insert succeeds: the key is new and the twin exists. -/
def Sql.inserts {β : Type} : Sql β → Store → Bool
  | .insertAssignment row, s => !s.assignments.HasKey row.key && s.twins.HasKey row.twinID
  | _, _ => false

/-- The session assigns the agent, and its DELETE has been issued. -/
def MidAssignment (agent : AgentID) (sess : CallSession) : Prop :=
  Assigns agent sess.call ∧
    ((match sess.prog with
      | .stmt s _ => s.places agent = true ∨ (s.clears agent = true ∧ sess.snapshot.isSome = true)
      | _ => False) ∨
    ∃ w ∈ sess.tx.pending, w.places agent = true)

/-- With the action an assignment of the agent becomes visible: an insert outside a transaction
succeeds, or a transaction commits that has one. -/
def Appears (agent : AgentID) (s : Store) (sess : CallSession) (a : Lib.Act) : Prop :=
  match sess.prog, sess.tx, a with
  | .stmt q _, .idle, .answer => q.places agent = true ∧ q.inserts s = true
  | .commit _, .active pending, .control => ∃ w ∈ pending, w.places agent = true
  | _, _, _ => False

/-- An assignment of the agent becomes visible only while no other call that assigns the agent
is between its DELETE and its end. -/
def Exclusive {ι : Type} (agent : AgentID) (d : Database ι) : Lib.ServerEvent ι Operation → Prop
  | .act i a => ∀ sess, d.sessions i = some sess → Appears agent d.store sess a →
      ∀ j sess', j ≠ i → d.sessions j = some sess' → ¬ MidAssignment agent sess'
  | _ => True

section Decidable

variable {agent : AgentID}

instance : DecidablePred (Assigns agent)
  | .registerAgent agentID _ _ _ _ => inferInstanceAs (Decidable (agentID = agent))
  | .pairAgent agentID _ _ _ => inferInstanceAs (Decidable (agentID = agent))
  | .createTwin .. | .deleteTwin .. | .unassignAgent _ | .upsertAgentRegistration ..
  | .createAgent .. | .deleteAgent .. | .updateAgent .. | .unpairAgent .. | .retireAgent ..
  | .blacklistAgent .. | .unregisterAgent .. | .heartbeat _ => isFalse not_false

instance : DecidablePred (MidAssignment agent) := fun sess => by
  unfold MidAssignment
  have : Decidable (match sess.prog with
      | .stmt s _ => s.places agent = true ∨ (s.clears agent = true ∧ sess.snapshot.isSome = true)
      | _ => False) := by
    split <;> infer_instance
  infer_instance

instance (s : Store) (sess : CallSession) (a : Lib.Act) : Decidable (Appears agent s sess a) := by
  unfold Appears
  split <;> infer_instance

instance {ι : Type} [Fintype ι] [DecidableEq ι] (d : Database ι)
    (e : Lib.ServerEvent ι Operation) : Decidable (Exclusive agent d e) :=
  match e with
  | .act i a =>
    decidable_of_iff (∀ sess ∈ d.sessions i, Appears agent d.store sess a →
      ∀ j, j ≠ i → ∀ sess' ∈ d.sessions j, ¬ MidAssignment agent sess')
      ⟨fun h sess hsess happears j sess' hne hsess' => h sess hsess happears j hne sess' hsess',
        fun h sess hsess happears j hne sess' hsess' => h sess hsess happears j sess' hne hsess'⟩
  | .call _ _ => isTrue trivial
  | .finish _ => isTrue trivial

end Decidable

/-! ## Assigned twins -/

/-- The agent has an assignment to the twin. -/
def Assigned (agent : AgentID) (s : Store) (twin : TwinID) : Prop :=
  s.assignments.find? (agent, twin) ≠ none

/-- The agent has no assignment there that it does not have here. -/
def NoMore (agent : AgentID) (s' s : Store) : Prop :=
  ∀ twin, Assigned agent s' twin → Assigned agent s twin

variable {agent : AgentID}

lemma assigned_of_mem {s : Store} {row : AssignmentRow} (h : row ∈ s.assignments)
    (hagent : row.agentID = agent) : Assigned agent s row.twinID := by
  have hfind : s.assignments.find? (agent, row.twinID) = some row :=
    find?_eq_some.mpr ⟨h, by rw [AssignmentRow.key, hagent]⟩
  show _ ≠ none
  rw [hfind]
  simp

lemma oneTwin_iff {s : Store} : OneTwin agent s ↔
    ∀ twin twin', Assigned agent s twin → Assigned agent s twin' → twin = twin' := by
  constructor
  · intro h twin twin' htwin htwin'
    obtain ⟨row, hrow⟩ := Option.ne_none_iff_exists'.mp htwin
    obtain ⟨row', hrow'⟩ := Option.ne_none_iff_exists'.mp htwin'
    obtain ⟨hmem, hkey⟩ := find?_eq_some.mp hrow
    obtain ⟨hmem', hkey'⟩ := find?_eq_some.mp hrow'
    obtain ⟨hagent, rfl⟩ := Prod.mk.inj hkey
    obtain ⟨hagent', rfl⟩ := Prod.mk.inj hkey'
    rw [h row hmem row' hmem' hagent hagent']
  · intro h row hrow row' hrow' hagent hagent'
    have htwin := h _ _ (assigned_of_mem hrow hagent) (assigned_of_mem hrow' hagent')
    refine s.assignments.eq_of_key_eq hrow hrow' ?_
    rw [AssignmentRow.key, AssignmentRow.key, hagent, hagent', htwin]

lemma NoMore.refl (s : Store) : NoMore agent s s := fun _ h => h

lemma NoMore.trans {s s' s'' : Store} (h : NoMore agent s'' s') (h' : NoMore agent s' s) :
    NoMore agent s'' s := fun twin htwin => h' twin (h twin htwin)

lemma OneTwin.noMore {s s' : Store} (h : OneTwin agent s) (hless : NoMore agent s' s) :
    OneTwin agent s' := by
  rw [oneTwin_iff] at h ⊢
  exact fun twin twin' htwin htwin' => h twin twin' (hless twin htwin) (hless twin' htwin')

lemma noMore_apply {s s' : Store} (h : NoMore agent s' s) (w : Write) :
    NoMore agent (s'.apply w) (s.apply w) := by
  cases w with
  | assignments w =>
    intro twin htwin
    cases w with
    | put row =>
      show (s.assignments.put row).find? _ ≠ none
      have hbefore : (s'.assignments.put row).find? (agent, twin) ≠ none := htwin
      rw [find?_put] at hbefore ⊢
      split
      · simp
      · rename_i hne
        rw [if_neg hne] at hbefore
        exact h twin hbefore
    | erase key =>
      show (s.assignments.erase key).find? _ ≠ none
      have hbefore : (s'.assignments.erase key).find? (agent, twin) ≠ none := htwin
      rw [find?_erase] at hbefore ⊢
      split
      · rename_i heq
        rw [if_pos heq] at hbefore
        exact hbefore
      · rename_i hne
        rw [if_neg hne] at hbefore
        exact h twin hbefore
  | twins | registrations | blacklist | statusLog => exact h

lemma noMore_foldl {s s' : Store} (h : NoMore agent s' s) (ws : List Write) :
    NoMore agent (ws.foldl Store.apply s') (ws.foldl Store.apply s) := by
  induction ws generalizing s s' with
  | nil => exact h
  | cons w ws ih => exact ih (noMore_apply h w)

lemma noMore_of_places {s : Store} {ws : List Write} (h : ∀ w ∈ ws, w.places agent = false) :
    NoMore agent (ws.foldl Store.apply s) s := by
  induction ws generalizing s with
  | nil => exact .refl s
  | cons w ws ih =>
    refine (ih fun w' hw' => h w' (List.mem_cons_of_mem _ hw')).trans ?_
    have hw := h w List.mem_cons_self
    cases w with
    | assignments w =>
      cases w with
      | put row =>
        intro twin htwin
        have hafter : (s.assignments.put row).find? (agent, twin) ≠ none := htwin
        rw [find?_put, if_neg] at hafter
        · exact hafter
        · intro hkey
          have hagent : row.agentID = agent := (congrArg Prod.fst hkey).symm
          simp [Write.places, hagent] at hw
      | erase key =>
        intro twin htwin
        have hafter : (s.assignments.erase key).find? (agent, twin) ≠ none := htwin
        rw [find?_erase] at hafter
        split at hafter
        · exact absurd rfl hafter
        · exact hafter
    | twins | registrations | blacklist | statusLog => exact .refl s

/-! ## What statements write -/

section Run

variable {β : Type} {q : Sql β} {snapshot current : Store} {answer : β} {writes : List Write}

lemma places_of_affected {ρ κ : Type} {table : Lib.Table.RowWrite ρ κ → Write}
    {rows : List (Lib.Table.RowWrite ρ κ)} {n : ℕ} (hrun : affected table rows = some (n, writes))
    (hrows : ∀ row ∈ rows, (table row).places agent = false) :
    ∀ w ∈ writes, w.places agent = false := by
  rw [writes_of_affected hrun]
  intro w hw
  obtain ⟨row, hrow, rfl⟩ := List.mem_map.mp hw
  exact hrows row hrow

lemma places_of_deletes {p : AssignmentRow → Bool} : ∀ row ∈ snapshot.assignments.deletes
    current.assignments p, (Write.assignments row).places agent = false := by
  intro row hrow
  obtain ⟨r, -, -, rfl⟩ := mem_deletes hrow
  rfl

lemma places_of_run (hrun : engine.run q snapshot current = some (answer, writes))
    (hq : q.places agent = false) : ∀ w ∈ writes, w.places agent = false := by
  have hread : writes = [] → ∀ w ∈ writes, w.places agent = false := by
    rintro rfl w hw
    exact absurd hw (by simp)
  cases q with
  | countTwins | twinExists | assignedTwin | agentStatus | isBlacklisted =>
    exact hread (Prod.ext_iff.mp (Option.some.inj hrun)).2.symm
  | insertTwin row =>
    simp only [engine, Sql.run] at hrun
    split at hrun
    · exact absurd hrun (by simp)
    · exact places_of_affected hrun fun _ _ => rfl
  | softDeleteTwin twinID tenantID => exact places_of_affected hrun fun _ _ => rfl
  | updateTwinStatus twinID tenantID status => exact places_of_affected hrun fun _ _ => rfl
  | deleteAssignments agentID => exact places_of_affected hrun places_of_deletes
  | deleteTwinAssignments twinID => exact places_of_affected hrun places_of_deletes
  | insertAssignment row =>
    simp only [engine, Sql.run] at hrun
    split at hrun
    · exact absurd hrun (by simp)
    · refine places_of_affected hrun fun w hw => ?_
      obtain rfl := List.mem_singleton.mp hw
      exact hq
  | upsertRegistration agentID tenantID hostname clientID =>
    exact places_of_affected hrun fun _ _ => rfl
  | insertRegistration row =>
    simp only [engine, Sql.run] at hrun
    split at hrun
    · exact absurd hrun (by simp)
    · exact places_of_affected hrun fun _ _ => rfl
  | renameAgent | updateAgentStatus | updateBlacklisted | deleteRegistration | upsertBlacklist
  | deleteBlacklist => exact places_of_affected hrun fun _ _ => rfl
  | insertStatusLog entry =>
    simp only [engine, Sql.run] at hrun
    split at hrun
    · exact absurd hrun (by simp)
    · obtain ⟨-, rfl⟩ := Prod.mk.inj (Option.some.inj hrun)
      intro w hw
      obtain rfl := List.mem_singleton.mp hw
      rfl

lemma cleared_of_run (hrun : engine.run q snapshot current = some (answer, writes))
    (hq : q.clears agent = true) (hseen : NoMore agent current snapshot) :
    ∀ twin, ¬ Assigned agent (writes.foldl Store.apply current) twin := by
  cases q with
  | deleteAssignments agentID =>
    obtain rfl : agentID = agent := by simpa [Sql.clears] using hq
    rw [writes_of_affected hrun, foldl_assignments]
    intro twin htwin
    refine htwin ?_
    show Lib.Table.find? (List.foldl Lib.Table.write current.assignments (List.map _ _)) _ = none
    rw [Lib.Table.find?_foldl_erase]
    split
    case isTrue => rfl
    case isFalse hnone =>
      -- What is there now was in the snapshot, so the DELETE acts on it.
      by_contra hsome
      obtain ⟨row, hrow⟩ := Option.ne_none_iff_exists'.mp hsome
      obtain ⟨seen, hsaw⟩ := Option.ne_none_iff_exists'.mp (hseen twin hsome)
      obtain ⟨hmem, hkey⟩ := find?_eq_some.mp hrow
      obtain ⟨hmem', hkey'⟩ := find?_eq_some.mp hsaw
      have hagent : row.agentID = agentID := congrArg Prod.fst hkey
      have hagent' : seen.agentID = agentID := congrArg Prod.fst hkey'
      refine hnone ⟨row, ?_, hkey⟩
      refine Lib.Table.mem_matching_of_find? hmem' (by simpa using hagent') ?_ (by simpa using hagent)
      rw [hkey', hrow]
  | _ => exact absurd hq (by simp [Sql.clears])

lemma placed_of_run (hrun : engine.run q snapshot current = some (answer, writes))
    (hq : q.places agent = true) (hnone : ∀ twin, ¬ Assigned agent current twin) :
    OneTwin agent (writes.foldl Store.apply current) ∧ q.inserts current = true := by
  cases q with
  | insertAssignment row =>
    simp only [engine, Sql.run] at hrun
    split at hrun
    case isTrue => exact absurd hrun (by simp)
    case isFalse hok =>
      rw [not_or, not_not] at hok
      refine ⟨?_, by simp [Sql.inserts, hok]⟩
      rw [writes_of_affected hrun, oneTwin_iff]
      have honly : ∀ twin, Assigned agent ([Write.assignments (.put row)].foldl Store.apply current)
          twin → twin = row.twinID := by
        intro twin htwin
        have hfind : (current.assignments.put row).find? (agent, twin) ≠ none := htwin
        rw [find?_put] at hfind
        split at hfind
        case isTrue hkey => exact congrArg Prod.snd hkey
        case isFalse => exact absurd hfind (hnone twin)
      intro twin twin' htwin htwin'
      rw [honly twin htwin, honly twin' htwin']
  | _ => exact absurd hq (by simp [Sql.places])

end Run

/-! ## Disciplined programs -/

/-- Every insert of an assignment of the agent follows directly on the DELETE of its
assignments. -/
def Disciplined (agent : AgentID) {ρ : Type} : Bool → Session ρ → Prop
  | _, .ret _ => True
  | cleared, .stmt s k => (s.places agent = true → cleared = true) ∧
      (∀ answer, Disciplined agent (s.clears agent) (k (some answer))) ∧
      Disciplined agent false (k none)
  | _, .begin k => Disciplined agent false k
  | _, .commit k => ∀ ok, Disciplined agent false (k ok)

lemma disciplined_of_all {ρ : Type} {p : Session ρ} {inTx cleared : Bool}
    (h : p.All (fun {_} _ s => s.places agent = false) inTx) : Disciplined agent cleared p := by
  induction p generalizing inTx cleared with
  | ret r => trivial
  | stmt s k ih =>
    refine ⟨fun hplaces => ?_, fun answer => ih _ (h.2 _), ih _ (h.2 _)⟩
    rw [h.1] at hplaces
    exact absurd hplaces (by simp)
  | begin k ih => exact ih h
  | commit k ih => exact fun ok => ih ok (h ok)

lemma Disciplined.query {ρ β : Type} {s : Sql β} {f : Option β → Session ρ} {cleared : Bool}
    (hs : s.places agent = true → cleared = true)
    (hsome : ∀ answer, Disciplined agent (s.clears agent) (f (some answer)))
    (hnone : Disciplined agent false (f none)) : Disciplined agent cleared (query s >>= f) :=
  ⟨hs, hsome, hnone⟩

lemma Disciplined.map {ρ ρ' : Type} {p : Session ρ} {f : ρ → ρ'} {cleared : Bool}
    (h : Disciplined agent cleared p) :
    Disciplined agent cleared (p >>= fun r => pure (f r)) := by
  change Disciplined agent cleared (Lib.Prog.bind p fun r => .ret (f r))
  induction p generalizing cleared with
  | ret r => trivial
  | stmt s k ih => exact ⟨h.1, fun answer => ih _ (h.2.1 answer), ih _ h.2.2⟩
  | begin k ih => exact ih h
  | commit k ih => exact fun ok => ih ok (h ok)

lemma Disciplined.weaken {ρ β : Type} {s : Sql β} {k : Option β → Session ρ} {cleared : Bool}
    (h : Disciplined agent cleared (.stmt s k)) (hs : s.places agent = false) :
    Disciplined agent false (.stmt s k) := by
  refine ⟨fun hplaces => ?_, h.2⟩
  rw [hs] at hplaces
  exact absurd hplaces (by simp)

section Operations

variable {agentID : AgentID} {twinID : TwinID} {tenantID : TenantID}
  {clientID topicPrefix actorID : String}

lemma disciplined_registerAgent :
    Disciplined agent false (registerAgent agentID twinID tenantID clientID topicPrefix) := by
  refine .query (by simp [Sql.places]) (fun twinExists => ?_) trivial
  cases twinExists with
  | false => trivial
  | true =>
    refine ⟨by simp [Sql.places], fun deleted => ?_, trivial⟩
    refine ⟨fun hplaces => ?_, fun inserted => trivial, trivial⟩
    -- The DELETE and the INSERT are about one agent.
    simpa [Sql.places, Sql.clears] using hplaces

lemma disciplined_pairAgent :
    Disciplined agent false (pairAgent agentID twinID tenantID actorID) := by
  refine .query (by simp [Sql.places]) (fun blacklisted => ?_) trivial
  cases blacklisted with
  | true => trivial
  | false =>
  refine ⟨by simp [Sql.places], fun status => ?_, trivial⟩
  cases status with
  | none => trivial
  | some currentStatus =>
  show Disciplined agent false (if _ then _ else _)
  split
  · trivial
  refine ⟨by simp [Sql.places], fun twinExists => ?_, trivial⟩
  cases twinExists with
  | false => trivial
  | true =>
    refine ⟨by simp [Sql.places], fun deleted => ?_, trivial⟩
    refine ⟨fun hplaces => ?_, fun inserted => ?_, trivial⟩
    · simpa [Sql.places, Sql.clears] using hplaces
    -- What follows on the INSERT places nothing.
    refine ⟨by simp [Sql.places], fun updated => ?_, trivial⟩
    refine ⟨by simp [Sql.places], fun activated => ?_, trivial⟩
    refine ⟨by simp [Sql.places], fun logged => ?_, trivial⟩
    have hcommit : commit.All (fun {_} _ s => s.places agent = false) true := all_commit
    exact disciplined_of_all hcommit

end Operations

lemma disciplined_program (op : Operation) (h : Assigns agent op) :
    Disciplined agent false op.program := by
  cases op with
  | registerAgent agentID twinID tenantID clientID topicPrefix =>
    exact disciplined_registerAgent.map
  | pairAgent agentID twinID tenantID actorID => exact disciplined_pairAgent
  | _ => exact h.elim

lemma places_of_issues {op : Operation} {β : Type} {inTx : Bool} {q : Sql β}
    (hq : op.Issues inTx q) (hop : ¬ Assigns agent op) : q.places agent = false := by
  cases hq with
  | registerInserts => exact decide_eq_false hop
  | pairInserts => exact decide_eq_false hop
  | _ => rfl

end Paryty.Twin

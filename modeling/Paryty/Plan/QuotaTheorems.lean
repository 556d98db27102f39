import Paryty.Plan.Quota

/-!
# Plan quotas: theorems

`Quiet` is what any session does to the twins it does not insert, `Creating` where a creation
stands relative to its count. With an action either nothing but agents' assignments changes for
the counts, or one twin is inserted. From this `within_quota` follows for every run that `Admits`
its steps.
-/

namespace Paryty.Plan

open Lib.Table (find?_eq_some find?_put count_put_of_find? count_put_of_not_hasKey)
open Twin (AgentID AssignmentRow Sql Store TenantID TwinID TwinRow Write)

/-! ## Writes that insert no twin -/

/-- The row takes the place of one of the same tenant, deleted or not alike. -/
def Renews (s : Store) (row : TwinRow) : Prop :=
  ∃ old, s.twins.find? row.id = some old ∧ old.tenantID = row.tenantID ∧ old.deleted = row.deleted

/-- Every twin here is also there, of the same tenant and deleted or not alike. -/
def Grows (s s' : Store) : Prop :=
  ∀ id old, s.twins.find? id = some old → ∃ new, s'.twins.find? id = some new ∧
    new.tenantID = old.tenantID ∧ new.deleted = old.deleted

lemma Grows.refl (s : Store) : Grows s s := fun _ old h => ⟨old, h, rfl, rfl⟩

lemma Grows.trans {s s' s'' : Store} (h : Grows s s') (h' : Grows s' s'') : Grows s s'' := by
  intro id old hold
  obtain ⟨mid, hmid, htenant, hdeleted⟩ := h id old hold
  obtain ⟨new, hnew, htenant', hdeleted'⟩ := h' id mid hmid
  exact ⟨new, hnew, htenant'.trans htenant, hdeleted'.trans hdeleted⟩

lemma Renews.grows {s s' : Store} {row : TwinRow} (h : Renews s row) (hgrows : Grows s s') :
    Renews s' row := by
  obtain ⟨old, hold, htenant, hdeleted⟩ := h
  obtain ⟨new, hnew, htenant', hdeleted'⟩ := hgrows _ _ hold
  exact ⟨new, hnew, htenant'.trans htenant, hdeleted'.trans hdeleted⟩

lemma Grows.hasKey {s s' : Store} {id : TwinID} (h : Grows s s') (hid : s.twins.HasKey id) :
    s'.twins.HasKey id := by
  rw [Lib.Table.hasKey_iff_find?, Option.isSome_iff_exists] at hid ⊢
  obtain ⟨old, hold⟩ := hid
  obtain ⟨new, hnew, -⟩ := h id old hold
  exact ⟨new, hnew⟩

/-- A write that inserts and removes no twin, and puts assignments under one key only, with twins
that exist. -/
def Harmless (s : Store) (key : Option (AgentID × TwinID)) : Write → Prop
  | .twins (.put row) => Renews s row
  | .twins (.erase _) => False
  | .assignments (.put row) => key = some row.key ∧ s.twins.HasKey row.twinID
  | _ => True

variable {s s' : Store} {key : Option (AgentID × TwinID)} {w : Write} {ws : List Write}
  {tenantID : TenantID}

lemma Harmless.grows (h : Harmless s key w) (hgrows : Grows s s') : Harmless s' key w := by
  cases w with
  | twins w =>
    cases w with
    | put row => exact Renews.grows h hgrows
    | erase id => exact h
  | assignments w =>
    cases w with
    | put row => exact ⟨h.1, hgrows.hasKey h.2⟩
    | erase id => trivial
  | registrations | blacklist | statusLog => trivial

lemma Harmless.apply (h : Harmless s key w) : Grows s (s.apply w) ∧ Grows (s.apply w) s ∧
    ∀ tenantID, countTwins tenantID (s.apply w) = countTwins tenantID s := by
  cases w with
  | twins w =>
    cases w with
    | erase id => exact h.elim
    | put row =>
      obtain ⟨old, hold, htenant, hdeleted⟩ := h
      have hfind (id : TwinID) : (s.apply (.twins (.put row))).twins.find? id =
          if id = row.id then some row else s.twins.find? id := find?_put _ _ _
      refine ⟨fun id r hr => ?_, fun id r hr => ?_, ?_⟩
      · rw [hfind]
        split
        case isTrue heq =>
          rw [heq, hold] at hr
          obtain rfl := Option.some.inj hr
          exact ⟨row, rfl, htenant.symm, hdeleted.symm⟩
        case isFalse => exact ⟨r, hr, rfl, rfl⟩
      · rw [hfind] at hr
        split at hr
        case isTrue heq =>
          obtain rfl := Option.some.inj hr
          exact ⟨old, heq ▸ hold, htenant, hdeleted⟩
        case isFalse => exact ⟨r, hr, rfl, rfl⟩
      · exact fun tenantID =>
          count_put_of_find? hold (by rw [activeOf, activeOf, htenant, hdeleted])
  | assignments | registrations | blacklist | statusLog => exact ⟨.refl s, .refl s, fun _ => rfl⟩

lemma harmless_foldl (h : ∀ w ∈ ws, Harmless s key w) : Grows s (ws.foldl Store.apply s) ∧
    Grows (ws.foldl Store.apply s) s ∧
      ∀ tenantID, countTwins tenantID (ws.foldl Store.apply s) = countTwins tenantID s := by
  induction ws generalizing s with
  | nil => exact ⟨.refl s, .refl s, fun _ => rfl⟩
  | cons w ws ih =>
    obtain ⟨hgrows, hback, hcount⟩ := (h w List.mem_cons_self).apply
    obtain ⟨hgrows', hback', hcount'⟩ :=
      ih fun w' hw' => (h w' (List.mem_cons_of_mem _ hw')).grows hgrows
    exact ⟨hgrows.trans hgrows', hback'.trans hback,
      fun tenantID => (hcount' tenantID).trans (hcount tenantID)⟩

/-! ## Assignments after such writes -/

/-- The row writes of the assignments. -/
def assignmentWrites (ws : List Write) :
    List (Lib.Table.RowWrite AssignmentRow (AgentID × TwinID)) :=
  ws.filterMap fun
    | .assignments w => some w
    | _ => none

lemma assignments_foldl : (ws.foldl Store.apply s).assignments =
    (assignmentWrites ws).foldl Lib.Table.write s.assignments := by
  induction ws generalizing s with
  | nil => rfl
  | cons w ws ih =>
    rw [List.foldl_cons, ih]
    cases w <;> rfl

lemma mem_assignmentWrites {r : Lib.Table.RowWrite AssignmentRow (AgentID × TwinID)} :
    r ∈ assignmentWrites ws ↔ .assignments r ∈ ws := by
  rw [assignmentWrites, List.mem_filterMap]
  constructor
  · rintro ⟨w, hw, heq⟩
    cases w <;> simp_all
  · exact fun h => ⟨_, h, rfl⟩

lemma countAgents_foldl_le {twinID : TwinID}
    (h : ∀ row, .assignments (.put row) ∈ ws → row.twinID ≠ twinID) :
    countAgentsForTwin twinID (ws.foldl Store.apply s) ≤ countAgentsForTwin twinID s := by
  rw [countAgentsForTwin, assignments_foldl]
  refine Lib.Table.count_foldl_le (fun r r' hkey => ?_) (fun r hr => ?_) _
  · rw [show r.twinID = r'.twinID from congrArg Prod.snd hkey]
  · exact decide_eq_false (h r (mem_assignmentWrites.mp hr))

lemma countAgents_foldl_le_others {agentID : AgentID} {twinID : TwinID}
    (h : ∀ row, .assignments (.put row) ∈ ws → row.twinID = twinID → row.agentID = agentID) :
    countAgentsForTwin twinID (ws.foldl Store.apply s) ≤
      countOtherAgents agentID twinID s + 1 := by
  have hothers : countOtherAgents agentID twinID (ws.foldl Store.apply s) ≤
      countOtherAgents agentID twinID s := by
    rw [countOtherAgents, assignments_foldl]
    refine Lib.Table.count_foldl_le (fun r r' hkey => ?_) (fun r hr => ?_) _
    · obtain ⟨hagent, htwin⟩ := Prod.mk.inj hkey
      rw [hagent, htwin]
    · have hagent := h r (mem_assignmentWrites.mp hr)
      by_cases htwin : r.twinID = twinID
      · simp [hagent htwin]
      · simp [htwin]
  refine (Lib.Table.count_le_count_add_one _ (k := (agentID, twinID)) fun r hr hkey => ?_).trans
    (Nat.add_le_add_right hothers 1)
  have htwin : r.twinID = twinID := by simpa using hr
  have hagent : r.agentID ≠ agentID := fun hagent => hkey (by rw [AssignmentRow.key, hagent, htwin])
  simp [htwin, hagent]

/-! ## What statements write -/

/-- A statement that the program of the request issues, and whether inside its transaction. -/
def Fits (request : Request) {β : Type} (inTx : Bool) : Sql β → Prop
  | .insertTwin row => inTx = false ∧ Creates row.tenantID request
  | .softDeleteTwin _ _ => False
  | .insertAssignment row => request.assignment = some row.key
  | _ => True

/-- The same of a statement of the request. -/
def Statement.Fits (request : Request) {β : Type} (inTx : Bool) : Statement β → Prop
  | .count _ => True
  | .lifecycle q => Plan.Fits request inTx q

/-- The insert of a twin. -/
def insertsTwin {β : Type} : Sql β → Bool
  | .insertTwin _ => true
  | _ => false

/-- The same of a statement of a request. -/
def Statement.insertsTwin {β : Type} : Statement β → Bool
  | .count _ => false
  | .lifecycle q => Plan.insertsTwin q

section Run

variable {request : Request} {inTx : Bool} {β : Type} {snapshot current : Store} {answer : β}
  {writes : List Write}

lemma harmless_of_sql {q : Sql β} (hrun : q.run snapshot current = some (answer, writes))
    (hfits : Fits request inTx q) (hq : insertsTwin q = false) :
    ∀ w ∈ writes, Harmless current request.assignment w := by
  have hread : writes = [] → ∀ w ∈ writes, Harmless current request.assignment w := by
    intro h w hw
    simp [h] at hw
  -- A statement that changes one table writes the rows of that table.
  have htable {ρ κ : Type} {table : Lib.Table.RowWrite ρ κ → Write}
      {rows : List (Lib.Table.RowWrite ρ κ)} {n : ℕ}
      (hrun : Twin.affected table rows = some (n, writes))
      (hrows : ∀ row ∈ rows, Harmless current request.assignment (table row)) :
      ∀ w ∈ writes, Harmless current request.assignment w := by
    rw [Twin.writes_of_affected hrun]
    intro w hw
    obtain ⟨row, hrow, rfl⟩ := List.mem_map.mp hw
    exact hrows row hrow
  have hdeletes {snap : Lib.Table AssignmentRow (AgentID × TwinID) AssignmentRow.key}
      {p : AssignmentRow → Bool} : ∀ row ∈ snap.deletes current.assignments p,
        Harmless current request.assignment (.assignments row) := by
    intro row hrow
    obtain ⟨r, -, -, rfl⟩ := Lib.Table.mem_deletes hrow
    trivial
  cases q with
  | insertTwin row => exact absurd hq (by simp [insertsTwin])
  | softDeleteTwin twinID tenantID => exact hfits.elim
  | updateTwinStatus twinID tenantID status =>
    refine htable hrun fun w hw => ?_
    obtain ⟨row, hrow, -, rfl⟩ := Lib.Table.mem_updates hw
    exact ⟨row, find?_eq_some.mpr ⟨hrow, rfl⟩, rfl, rfl⟩
  | insertAssignment row =>
    simp only [Sql.run] at hrun
    split at hrun
    case isTrue => exact absurd hrun (by simp)
    case isFalse hok =>
      -- The foreign key: the twin of an assignment exists.
      rw [not_or, not_not] at hok
      refine htable hrun fun w hw => ?_
      obtain rfl := List.mem_singleton.mp hw
      exact ⟨hfits, hok.2⟩
  | deleteAssignments agentID => exact htable hrun hdeletes
  | deleteTwinAssignments twinID => exact htable hrun hdeletes
  | insertRegistration row =>
    simp only [Sql.run] at hrun
    split at hrun
    case isTrue => exact absurd hrun (by simp)
    case isFalse => exact htable hrun fun _ _ => trivial
  | insertStatusLog entry =>
    simp only [Sql.run] at hrun
    split at hrun
    case isTrue => exact absurd hrun (by simp)
    case isFalse =>
      obtain ⟨-, rfl⟩ := Prod.mk.inj (Option.some.inj hrun)
      intro w hw
      obtain rfl := List.mem_singleton.mp hw
      trivial
  | upsertRegistration | renameAgent | updateAgentStatus | updateBlacklisted | deleteRegistration
  | upsertBlacklist | deleteBlacklist => exact htable hrun fun _ _ => trivial
  | countTwins | twinExists | assignedTwin | agentStatus | isBlacklisted =>
    exact hread (Prod.ext_iff.mp (Option.some.inj hrun)).2.symm

lemma harmless_of_run {q : Statement β} (hrun : database.run q snapshot current =
    some (answer, writes)) (hfits : q.Fits request inTx) :
    (∀ w ∈ writes, Harmless current request.assignment w) ∨
      (inTx = false ∧ q.insertsTwin = true ∧ ∃ row, writes = [.twins (.put row)] ∧
        ¬ current.twins.HasKey row.id ∧ Creates row.tenantID request) := by
  cases q with
  | count q =>
    obtain ⟨-, rfl⟩ := Prod.mk.inj (Option.some.inj hrun)
    exact .inl fun w hw => absurd hw List.not_mem_nil
  | lifecycle q =>
    by_cases hq : insertsTwin q = true
    · cases q with
      | insertTwin row =>
        have hrun : (if current.twins.HasKey row.id ∨ current.twins.rows.any
            (TwinRow.named row.tenantID row.name) then none
          else Twin.affected .twins [.put row]) = some (answer, writes) := hrun
        split at hrun
        case isTrue => exact absurd hrun (by simp)
        case isFalse hok =>
          have hwrites := Twin.writes_of_affected hrun
          exact .inr ⟨hfits.1, rfl, row, hwrites, fun h => hok (.inl h), hfits.2⟩
      | _ => exact absurd hq (by simp [insertsTwin])
    · exact .inl (harmless_of_sql hrun hfits (by simpa using hq))

end Run

/-! ## Programs -/

lemma fits_handle {request : Request} {op : Twin.Operation}
    (h : ∀ {β : Type} {inTx : Bool} {q : Sql β}, op.Issues inTx q → Fits request inTx q) :
    (handle op).All (Statement.Fits request) false :=
  .map (.embed ((Twin.issues_program op).mono h))

section Creation

variable (engine : PlanEngine) (planOf : TenantID → String) {id : TwinID}
  {name description : String} {permitted : Bool}

lemma program_createTwin :
    let program := (Request.createTwin id tenantID name description permitted).program engine planOf
    (∃ response, program = .ret response) ∨
      ∃ k, program = .stmt (.count (.countTwins tenantID)) k ∧
        (∃ response, k none = .ret response) ∧
        ∀ current, (∃ response, k (some current) = .ret response) ∨
          (current < engine.getMaxTwins (planOf tenantID) ∧
            k (some current) = handle (.createTwin id tenantID name description)) := by
  intro program
  by_cases htenant : tenantID = ""
  · exact .inl ⟨_, by simp [program, Request.program, requireTwinQuota, htenant]; rfl⟩
  by_cases hplan : planOf tenantID = ""
  · exact .inl ⟨_, by simp [program, Request.program, requireTwinQuota, htenant, hplan]; rfl⟩
  by_cases hmax : engine.getMaxTwins (planOf tenantID) = 0
  · exact .inl ⟨_, by simp [program, Request.program, requireTwinQuota, htenant, hplan, hmax]; rfl⟩
  refine .inr ⟨_, by simp [program, Request.program, requireTwinQuota, htenant, hplan, hmax]; rfl,
    ⟨_, rfl⟩, fun current => ?_⟩
  by_cases hcurrent : current ≥ engine.getMaxTwins (planOf tenantID)
  · left
    simp only [if_pos hcurrent]
    exact ⟨_, rfl⟩
  · simp only [if_neg hcurrent]
    cases permitted with
    | false => exact .inl ⟨_, rfl⟩
    | true => exact .inr ⟨by omega, rfl⟩

lemma handle_createTwin :
    (∃ response, handle (.createTwin id tenantID name description) = .ret response) ∨
      ∃ k, handle (.createTwin id tenantID name description) =
          .stmt (.lifecycle (.countTwins tenantID name)) k ∧
        (∃ response, k none = .ret response) ∧
        ∀ named, (∃ response, k (some named) = .ret response) ∨
          ∃ k', k (some named) = .stmt (.lifecycle (.insertTwin
              { id, tenantID, name, description, status := .pending })) k' ∧
            ∀ answer, ∃ response, k' answer = .ret response := by
  by_cases hname : name = ""
  · exact .inl ⟨_, by simp [handle, Twin.Operation.program, Twin.createTwin, hname]; rfl⟩
  refine .inr ⟨_, by simp [handle, Twin.Operation.program, Twin.createTwin, hname]; rfl,
    ⟨_, rfl⟩, fun named => ?_⟩
  by_cases hnamed : named > 0
  · left
    simp only [if_pos hnamed]
    exact ⟨_, rfl⟩
  · refine .inr ⟨_, by simp only [if_neg hnamed]; rfl, fun answer => ?_⟩
    cases answer <;> exact ⟨_, rfl⟩

end Creation

/-- The answer of a count that lets a creation go on. -/
def CountSql.passes (tenantID : TenantID) (max : ℕ) {β : Type} : CountSql β → β → Bool
  | .countTwins tenantID', current => tenantID' = tenantID && current < max

/-- Whether, after the statement, a count has let the creation go on and nothing is inserted. -/
def Statement.leaves (tenantID : TenantID) (max : ℕ) (counted : Bool) {β : Type} :
    Statement β → β → Bool
  | .count q, answer => q.passes tenantID max answer
  | .lifecycle q, _ => counted && !Plan.insertsTwin q

/-- A twin is only inserted after a count that lets the creation go on. -/
def Gated (tenantID : TenantID) (max : ℕ) : Bool → Lib.Prog Statement Response → Prop
  | _, .ret _ => True
  | counted, .stmt q k => (q.insertsTwin = true → counted = true) ∧
      (∀ answer, Gated tenantID max (q.leaves tenantID max counted answer) (k (some answer))) ∧
      Gated tenantID max false (k none)
  | _, .begin _ => False
  | _, .commit _ => False

section Programs

variable {engine : PlanEngine} {planOf : TenantID → String} {request : Request}

lemma gated_program (h : Creates tenantID request) :
    Gated tenantID (engine.getMaxTwins (planOf tenantID)) false
      (request.program engine planOf) := by
  cases request with
  | registerAgent agentID twinID tenantID clientID topicPrefix => exact h.elim
  | pairAgent agentID twinID tenantID actorID => exact h.elim
  | createTwin id tenantID' name description permitted =>
    obtain rfl : tenantID' = tenantID := h
    rcases program_createTwin engine planOf with ⟨_, hret⟩ | ⟨k, hk, ⟨_, hnone⟩, hsome⟩
    · rw [hret]
      trivial
    rw [hk]
    refine ⟨by simp [Statement.insertsTwin], fun current => ?_, by rw [hnone]; trivial⟩
    rcases hsome current with ⟨_, hret⟩ | ⟨hcurrent, hpassed⟩
    · rw [hret]
      trivial
    have hleaves : (Statement.count (.countTwins tenantID')).leaves tenantID'
        (engine.getMaxTwins (planOf tenantID')) false current = true := by
      simp [Statement.leaves, CountSql.passes, hcurrent]
    rw [hpassed, hleaves]
    rcases handle_createTwin with ⟨_, hret⟩ | ⟨k, hk, ⟨_, hnone⟩, hsome⟩
    · rw [hret]
      trivial
    rw [hk]
    refine ⟨fun _ => rfl, fun named => ?_, by rw [hnone]; trivial⟩
    rcases hsome named with ⟨_, hret⟩ | ⟨k', hk', hend⟩
    · rw [hret]
      trivial
    rw [hk']
    refine ⟨fun _ => rfl, fun answer => ?_, ?_⟩
    · obtain ⟨_, hret⟩ := hend (some answer)
      rw [hret]
      trivial
    · obtain ⟨_, hret⟩ := hend none
      rw [hret]
      trivial

lemma fits_createTwin {id : TwinID} {name description : String} {permitted : Bool} :
    ((Request.createTwin id tenantID name description permitted).program engine planOf).All
      (Statement.Fits (.createTwin id tenantID name description permitted)) false := by
  rcases program_createTwin engine planOf with ⟨_, hret⟩ | ⟨k, hk, ⟨_, hnone⟩, hsome⟩
  · rw [hret]
    trivial
  rw [hk]
  refine ⟨trivial, fun answer => ?_⟩
  cases answer with
  | none =>
    rw [hnone]
    trivial
  | some current =>
  rcases hsome current with ⟨_, hret⟩ | ⟨-, hpassed⟩
  · rw [hret]
    trivial
  rw [hpassed]
  rcases handle_createTwin with ⟨_, hret⟩ | ⟨k, hk, ⟨_, hnone⟩, hsome⟩
  · rw [hret]
    trivial
  rw [hk]
  refine ⟨trivial, fun answer => ?_⟩
  cases answer with
  | none =>
    rw [hnone]
    trivial
  | some named =>
  rcases hsome named with ⟨_, hret⟩ | ⟨k', hk', hend⟩
  · rw [hret]
    trivial
  rw [hk']
  refine ⟨⟨rfl, rfl⟩, fun answer => ?_⟩
  obtain ⟨_, hret⟩ := hend answer
  rw [hret]
  trivial

lemma fits_program : (request.program engine planOf).All (Statement.Fits request) false := by
  cases request with
  | createTwin id tenantID name description permitted => exact fits_createTwin
  | registerAgent agentID twinID tenantID clientID topicPrefix =>
    refine fits_handle fun hq => ?_
    cases hq with
    | registerInserts => exact rfl
    | _ => trivial
  | pairAgent agentID twinID tenantID actorID =>
    refine fits_handle fun hq => ?_
    cases hq with
    | pairInserts => exact rfl
    | _ => trivial

end Programs

/-! ## Sessions -/

/-- What is left of a session fits its request, and its pending writes do no harm. -/
structure Quiet (s : Store) (sess : RequestSession) : Prop where
  prog : sess.prog.All (Statement.Fits sess.call) sess.inTx
  pending : ∀ w ∈ sess.tx.pending, Harmless s sess.call.assignment w

/-- The writes that take effect are one new twin for the tenant of the request. -/
def Inserted (s : Store) (request : Request) (writes : List Write) : Prop :=
  ∃ row, writes = [.twins (.put row)] ∧ ¬ s.twins.HasKey row.id ∧ Creates row.tenantID request

/-- The next statement inserts a twin. -/
def Inserting : Lib.Prog Statement Response → Prop
  | .stmt q _ => q.insertsTwin = true
  | _ => False

variable {sess sess' : RequestSession} {a : Lib.Act} {writes : List Write}

lemma Quiet.grows (h : Quiet s sess) (hgrows : Grows s s') : Quiet s' sess :=
  ⟨h.prog, fun w hw => (h.pending w hw).grows hgrows⟩

lemma Quiet.act (h : Quiet s sess) (hact : sess.act database s a = some (sess', s', writes)) :
    sess'.prog.All (Statement.Fits sess.call) sess'.inTx ∧
      (∀ w ∈ sess'.tx.pending, Harmless s sess.call.assignment w) ∧
      ((∀ w ∈ sess.visible database s a, Harmless s sess.call.assignment w) ∨
        (Inserting sess.prog ∧ Inserted s sess.call (sess.visible database s a))) := by
  obtain ⟨call, prog, tx, snapshot⟩ := sess
  obtain ⟨hprog, hpending⟩ := h
  have hnone : ∀ w ∈ ([] : List Write), Harmless s call.assignment w :=
    fun w hw => absurd hw List.not_mem_nil
  cases prog with
  | ret response => simp at hact
  | begin k =>
    obtain ⟨rfl, rfl⟩ := Lib.Session.act_begin hact
    exact ⟨hprog, hnone, .inl (by cases a <;> exact hnone)⟩
  | commit k =>
    have hvisible : ∀ w ∈ Lib.Session.visible database ⟨call, .commit k, tx, snapshot⟩ s a,
        Harmless s call.assignment w := by
      cases tx <;> cases a <;> first | exact hnone | exact hpending
    rcases Lib.Session.act_commit hact with ⟨rfl, rfl⟩ | ⟨pending, -, rfl, rfl, rfl⟩
    · exact ⟨hprog false, hnone, .inl hvisible⟩
    · exact ⟨hprog true, hnone, .inl hvisible⟩
  | stmt q k =>
    cases tx with
    | idle =>
      rcases Lib.Session.act_stmt_idle hact with ⟨rfl, rfl, rfl, rfl⟩ |
        ⟨snap, answer, made, rfl, rfl, hrun, rfl, rfl⟩ |
        ⟨rfl | ⟨snap, rfl, rfl, hrun⟩, rfl, rfl⟩
      · exact ⟨hprog, hnone, .inl hnone⟩
      · refine ⟨hprog.2 _, hnone, ?_⟩
        rw [show Lib.Session.visible database ⟨call, .stmt q k, .idle, some snap⟩ s .answer = made
          by simp only [Lib.Session.visible, hrun]]
        rcases harmless_of_run hrun hprog.1 with hharmless | ⟨-, hq, hinserted⟩
        · exact .inl hharmless
        · exact .inr ⟨hq, hinserted⟩
      · exact ⟨hprog.2 _, hnone, .inl hnone⟩
      · refine ⟨hprog.2 _, hnone, .inl ?_⟩
        simp only [Lib.Session.visible, hrun]
        exact hnone
    | active pending =>
      have hvisible : ∀ w ∈ Lib.Session.visible database
          ⟨call, .stmt q k, .active pending, snapshot⟩ s a, Harmless s call.assignment w := by
        cases a <;> exact hnone
      obtain ⟨rfl, ⟨-, rfl⟩ | ⟨snap, answer, made, -, hrun, rfl⟩ | rfl⟩ :=
        Lib.Session.act_stmt hact
      · exact ⟨hprog, hpending, .inl hvisible⟩
      · refine ⟨hprog.2 _, fun w hw => ?_, .inl hvisible⟩
        rcases List.mem_append.mp hw with hold | hnew
        · exact hpending w hold
        · -- What the statement wrote is harmless as the session sees the store, so also there.
          obtain ⟨-, hback, -⟩ := harmless_foldl hpending
          rcases harmless_of_run hrun hprog.1 with hharmless | ⟨hidle, -⟩
          · exact (hharmless w hnew).grows hback
          · exact absurd hidle (by simp [Lib.Session.inTx])
      · exact ⟨hprog.2 _, hnone, .inl hvisible⟩
    | aborted =>
      have hvisible : ∀ w ∈ Lib.Session.visible database
          ⟨call, .stmt q k, .aborted, snapshot⟩ s a, Harmless s call.assignment w := by
        cases a <;> exact hnone
      obtain ⟨rfl, rfl | rfl⟩ := Lib.Session.act_stmt_aborted hact
      · exact ⟨hprog, hnone, .inl hvisible⟩
      · exact ⟨hprog.2 _, hnone, .inl hvisible⟩

/-! ## Creations -/

/-- A count under way saw at least as many twins as there are. -/
def Saw (tenantID : TenantID) (s snap : Store) : Lib.Prog Statement Response → Prop
  | .stmt q _ => q.counts = true → countTwins tenantID s ≤ countTwins tenantID snap
  | _ => True

/-- Where a creation stands: from its count to its insert there is room for a twin. -/
structure Creating (tenantID : TenantID) (max : ℕ) (s : Store) (sess : RequestSession)
    (counted : Bool) : Prop where
  prog : Gated tenantID max counted sess.prog
  idle : sess.tx = .idle
  room : counted = true → countTwins tenantID s < max
  snapshot : ∀ snap, sess.snapshot = some snap → Saw tenantID s snap sess.prog

namespace Creating

variable {max : ℕ} {counted : Bool}

lemma same (h : Creating tenantID max s sess counted)
    (hcount : countTwins tenantID s' = countTwins tenantID s) :
    Creating tenantID max s' sess counted := by
  refine ⟨h.prog, h.idle, fun hcounted => hcount ▸ h.room hcounted, fun snap hsnap => ?_⟩
  have hsaw := h.snapshot snap hsnap
  cases hprog : sess.prog with
  | stmt q k =>
    rw [hprog] at hsaw
    exact fun hq => hcount ▸ hsaw hq
  | _ => trivial

lemma appear (h : Creating tenantID max s sess counted) (hcall : Creates tenantID sess.call)
    (hmid : ¬ MidCreation tenantID sess) : Creating tenantID max s' sess false := by
  obtain ⟨call, prog, tx, snapshot⟩ := sess
  obtain ⟨hprog, hidle, -, hsnapshot⟩ := h
  cases prog with
  | ret response => exact ⟨trivial, hidle, by simp, fun snap hsnap => trivial⟩
  | begin k => exact hprog.elim
  | commit k => exact hprog.elim
  | stmt q k =>
    obtain ⟨hq, hnone⟩ : q.counts = true ∧ snapshot = none := by
      simpa [MidCreation, hcall] using hmid
    cases q with
    | lifecycle q => exact absurd hq (by simp [Statement.counts])
    | count q =>
      refine ⟨⟨fun h => absurd h (by simp [Statement.insertsTwin]), hprog.2⟩, hidle, by simp,
        fun snap hsnap => ?_⟩
      simp [hnone] at hsnap

lemma room_of_inserting (h : Creating tenantID max s sess counted) (hinserting : Inserting sess.prog) :
    countTwins tenantID s < max := by
  have hgated := h.prog
  cases hprog : sess.prog with
  | stmt q k =>
    rw [hprog] at hgated hinserting
    exact h.room (hgated.1 hinserting)
  | _ =>
    rw [hprog] at hinserting
    exact hinserting.elim

lemma act (h : Creating tenantID max s sess counted)
    (hprog : sess.prog.All (Statement.Fits sess.call) sess.inTx)
    (hact : sess.act database s a = some (sess', s', writes)) :
    ∃ counted', Creating tenantID max s' sess' counted' := by
  obtain ⟨call, prog, tx, snapshot⟩ := sess
  obtain ⟨hgated, rfl, hroom, hsnapshot⟩ := h
  cases prog with
  | ret response => simp at hact
  | begin k => exact hgated.elim
  | commit k => exact hgated.elim
  | stmt q k =>
    have hnone : ∀ snap : Store, (none : Option Store) = some snap → False := by simp
    rcases Lib.Session.act_stmt_idle hact with ⟨-, -, rfl, rfl⟩ |
      ⟨snap, answer, made, -, rfl, hrun, rfl, rfl⟩ | ⟨-, rfl, rfl⟩
    · refine ⟨counted, hgated, rfl, hroom, fun snap hsnap hq => ?_⟩
      obtain rfl := Option.some.inj hsnap
      exact le_refl _
    · refine ⟨_, hgated.2.1 answer, rfl, fun hleaves => ?_, fun snap' hsnap =>
        (hnone snap' hsnap).elim⟩
      cases q with
      | count q =>
        obtain ⟨rfl, rfl⟩ := Prod.mk.inj (Option.some.inj hrun)
        have hsaw : countTwins tenantID s ≤ countTwins tenantID snap := hsnapshot snap rfl rfl
        cases q with
        | countTwins tenantID' =>
          simp only [Statement.leaves, CountSql.passes, CountSql.run, Bool.and_eq_true,
            decide_eq_true_eq] at hleaves
          obtain ⟨rfl, hcurrent⟩ := hleaves
          exact lt_of_le_of_lt hsaw (of_decide_eq_true hcurrent)
      | lifecycle q =>
        simp only [Statement.leaves, Bool.and_eq_true, Bool.not_eq_true'] at hleaves
        obtain ⟨hcounted, hq⟩ := hleaves
        obtain ⟨-, -, hcount⟩ := harmless_foldl (harmless_of_sql hrun hprog.1 hq)
        show countTwins tenantID (made.foldl Store.apply s) < max
        rw [hcount tenantID]
        exact hroom hcounted
    · exact ⟨false, hgated.2.2, rfl, by simp, fun snap hsnap => (hnone snap hsnap).elim⟩

end Creating

/-! ## What takes effect -/

/-- Every assignment is to a twin that exists. -/
def Referenced (s : Store) : Prop := ∀ row ∈ s.assignments.rows, s.twins.HasKey row.twinID

section Effect

variable {request : Request} {engine : PlanEngine} {planName : String}

lemma twin_of_foldl (h : ∀ w ∈ ws, Harmless s key w) {twin : TwinRow}
    (htwin : twin ∈ (ws.foldl Store.apply s).twins.rows) :
    ∃ old ∈ s.twins.rows, old.id = twin.id ∧ old.tenantID = twin.tenantID := by
  obtain ⟨old, hold, htenant, -⟩ := (harmless_foldl h).2.1 _ _ (find?_eq_some.mpr ⟨htwin, rfl⟩)
  obtain ⟨hmem, hid⟩ := find?_eq_some.mp hold
  exact ⟨old, hmem, hid, htenant⟩

lemma referenced_foldl (hreferenced : Referenced s) (h : ∀ w ∈ ws, Harmless s key w) :
    Referenced (ws.foldl Store.apply s) := by
  intro row hrow
  refine (harmless_foldl h).1.hasKey ?_
  rw [assignments_foldl] at hrow
  rcases Lib.Table.mem_foldl_write hrow with hold | hput
  · exact hreferenced row hold
  · exact (h _ (mem_assignmentWrites.mp hput)).2

lemma within_foldl (hwithin : WithinQuota engine planName tenantID s)
    (h : ∀ w ∈ ws, Harmless s key w) (hroom : HasRoom engine planName tenantID s ws) :
    WithinQuota engine planName tenantID (ws.foldl Store.apply s) := by
  refine ⟨(harmless_foldl h).2.2 tenantID ▸ hwithin.1, fun twin htwin htenant => ?_⟩
  obtain ⟨old, hold, hid, htenant'⟩ := twin_of_foldl h htwin
  rw [← hid]
  by_cases hassigned : ∃ row, .assignments (.put row) ∈ ws ∧ row.twinID = old.id
  · obtain ⟨row, hrow, htwinID⟩ := hassigned
    -- All assignments made are of one agent to one twin.
    have hothers : ∀ row', .assignments (.put row') ∈ ws → row'.twinID = old.id →
        row'.agentID = row.agentID := by
      intro row' hrow' _
      have hkey := (h _ hrow').1.symm.trans (h _ hrow).1
      exact congrArg Prod.fst (Option.some.inj hkey)
    have hlt := hroom _ hrow ⟨old, hold, htwinID.symm, htenant'.trans htenant⟩
    rw [htwinID] at hlt
    have hle := countAgents_foldl_le_others (s := s) hothers
    omega
  · push Not at hassigned
    have hle := countAgents_foldl_le (s := s) hassigned
    exact hle.trans (hwithin.2 old hold (htenant'.trans htenant))

lemma Inserted.grows (h : Inserted s request ws) : Grows s (ws.foldl Store.apply s) := by
  obtain ⟨row, rfl, hfresh, -⟩ := h
  intro id old hold
  refine ⟨old, ?_, rfl, rfl⟩
  show (s.twins.put row).find? id = some old
  rw [find?_put, if_neg]
  · exact hold
  · rintro rfl
    exact hfresh (by simp [Lib.Table.hasKey_iff_find?, hold])

lemma Inserted.referenced (h : Inserted s request ws) (hreferenced : Referenced s) :
    Referenced (ws.foldl Store.apply s) := by
  have hgrows := h.grows
  obtain ⟨row, rfl, -, -⟩ := h
  exact fun row' hrow' => hgrows.hasKey (hreferenced row' hrow')

lemma Inserted.creates (h : Inserted s request ws) (hws : ∃ w ∈ ws, inserts tenantID s w = true) :
    Creates tenantID request := by
  obtain ⟨row, rfl, -, hcreates⟩ := h
  obtain ⟨w, hw, hinserts⟩ := hws
  obtain rfl := List.mem_singleton.mp hw
  simp only [inserts, Bool.and_eq_true, decide_eq_true_eq] at hinserts
  exact hinserts.1 ▸ hcreates

lemma Inserted.count_eq (h : Inserted s request ws)
    (hws : ¬ ∃ w ∈ ws, inserts tenantID s w = true) :
    countTwins tenantID (ws.foldl Store.apply s) = countTwins tenantID s := by
  obtain ⟨row, rfl, hfresh, -⟩ := h
  have htenant : row.tenantID ≠ tenantID := fun htenant =>
    hws ⟨_, List.mem_singleton_self _, by simp [inserts, htenant, hfresh]⟩
  have hput := count_put_of_not_hasKey hfresh (activeOf tenantID)
  simp only [activeOf, htenant] at hput
  exact hput

lemma Inserted.within (h : Inserted s request ws) (hreferenced : Referenced s)
    (hwithin : WithinQuota engine planName tenantID s)
    (hroom : (∃ w ∈ ws, inserts tenantID s w = true) →
      countTwins tenantID s < engine.getMaxTwins planName) :
    WithinQuota engine planName tenantID (ws.foldl Store.apply s) := by
  refine ⟨?_, fun twin htwin htenant => ?_⟩
  · by_cases hws : ∃ w ∈ ws, inserts tenantID s w = true
    · have hlt := hroom hws
      obtain ⟨row, rfl, hfresh, -⟩ := h
      have hput := count_put_of_not_hasKey hfresh (activeOf tenantID)
      have hle : countTwins tenantID ([Write.twins (.put row)].foldl Store.apply s) ≤
          countTwins tenantID s + 1 := by
        show (s.twins.put row).count (activeOf tenantID) ≤ s.twins.count (activeOf tenantID) + 1
        rw [hput]
        split <;> omega
      omega
    · rw [h.count_eq hws]
      exact hwithin.1
  · obtain ⟨row, rfl, hfresh, -⟩ := h
    rcases Lib.Table.mem_put.mp htwin with rfl | ⟨hold, -⟩
    · -- Nothing is assigned to a twin that did not exist.
      have hnone : countAgentsForTwin twin.id s = 0 := by
        refine List.length_eq_zero_iff.mpr (List.filter_eq_nil_iff.mpr fun row' hrow' hid => ?_)
        exact hfresh (of_decide_eq_true hid ▸ hreferenced row' hrow')
      show countAgentsForTwin twin.id s ≤ _
      omega
    · exact hwithin.2 twin hold htenant

end Effect

/-! ## Runs -/

/-- What holds between the events of a run. -/
structure Inv {ι : Type} (engine : PlanEngine) (planName : String) (tenantID : TenantID)
    (d : Server ι) : Prop where
  within : WithinQuota engine planName tenantID d.store
  referenced : Referenced d.store
  quiet : ∀ i sess, d.sessions i = some sess → Quiet d.store sess
  creating : ∀ i sess, d.sessions i = some sess → Creates tenantID sess.call →
    ∃ counted, Creating tenantID (engine.getMaxTwins planName) d.store sess counted

namespace Inv

variable {ι : Type} [DecidableEq ι] {engine : PlanEngine} {planOf : TenantID → String}
  {d d' : Server ι} {i : ι}

omit [DecidableEq ι] in
lemma init (hwithin : WithinQuota engine (planOf tenantID) tenantID s)
    (hreferenced : Referenced s) :
    Inv engine (planOf tenantID) tenantID (.init s : Server ι) :=
  ⟨hwithin, hreferenced, fun _ _ h => absurd h (by simp [Lib.Server.init]),
    fun _ _ h => absurd h (by simp [Lib.Server.init])⟩

lemma call {request : Request} (h : Inv engine (planOf tenantID) tenantID d)
    (hstep : d.step database (Request.program engine planOf) (.call i request) = some d') :
    Inv engine (planOf tenantID) tenantID d' := by
  obtain ⟨-, hstore, hsessions⟩ := Lib.Server.step_call hstep
  refine ⟨hstore ▸ h.within, hstore ▸ h.referenced, fun j sess hsess => ?_,
    fun j sess hsess hcall => ?_⟩
  · rw [hsessions] at hsess
    rw [hstore]
    rcases Lib.eq_of_update hsess with ⟨-, hnew⟩ | ⟨-, hold⟩
    · obtain rfl := Option.some.inj hnew
      exact ⟨fits_program, fun w hw => absurd hw List.not_mem_nil⟩
    · exact h.quiet j sess hold
  · rw [hsessions] at hsess
    rw [hstore]
    rcases Lib.eq_of_update hsess with ⟨-, hnew⟩ | ⟨-, hold⟩
    · obtain rfl := Option.some.inj hnew
      exact ⟨false, gated_program hcall, rfl, by simp, by simp⟩
    · exact h.creating j sess hold hcall

lemma act (h : Inv engine (planOf tenantID) tenantID d)
    (hadmits : Admits engine (planOf tenantID) tenantID d (.act i a))
    (hstep : d.step database (Request.program engine planOf) (.act i a) = some d') :
    Inv engine (planOf tenantID) tenantID d' := by
  obtain ⟨sess, sess', writes, hsess, hact, hsessions⟩ := Lib.Server.step_act hstep
  obtain ⟨hexclusive, hroom⟩ := hadmits sess hsess
  have hcall : sess'.call = sess.call := Lib.Session.call_act hact
  have hquiet := h.quiet i sess hsess
  have hstore := Lib.Session.store_act hact
  obtain ⟨hprog, hpending, hvisible⟩ := hquiet.act hact
  have hgrows : Grows d.store d'.store := by
    rw [hstore]
    rcases hvisible with hharmless | ⟨-, hinserted⟩
    · exact (harmless_foldl hharmless).1
    · exact hinserted.grows
  -- A twin of the tenant appears, or its count stays.
  have hcount : (∃ w ∈ sess.visible database d.store a, inserts tenantID d.store w = true) ∨
      countTwins tenantID d'.store = countTwins tenantID d.store := by
    by_cases hws : ∃ w ∈ sess.visible database d.store a, inserts tenantID d.store w = true
    · exact .inl hws
    · rw [hstore]
      rcases hvisible with hharmless | ⟨-, hinserted⟩
      · exact .inr ((harmless_foldl hharmless).2.2 tenantID)
      · exact .inr (hinserted.count_eq hws)
  constructor
  · rw [hstore]
    rcases hvisible with hharmless | ⟨hinserting, hinserted⟩
    · exact within_foldl h.within hharmless hroom
    · refine hinserted.within h.referenced h.within fun hws => ?_
      -- The creation passed its count, and there is room since.
      obtain ⟨counted, hcreating⟩ := h.creating i sess hsess (hinserted.creates hws)
      exact hcreating.room_of_inserting hinserting
  · rw [hstore]
    rcases hvisible with hharmless | ⟨-, hinserted⟩
    · exact referenced_foldl h.referenced hharmless
    · exact hinserted.referenced h.referenced
  · intro j t ht
    rw [hsessions] at ht
    rcases Lib.eq_of_update ht with ⟨-, hnew⟩ | ⟨-, hold⟩
    · obtain rfl := Option.some.inj hnew
      refine ⟨hcall ▸ hprog, fun w hw => ?_⟩
      exact hcall ▸ (hpending w hw).grows hgrows
    · exact (h.quiet j t hold).grows hgrows
  · intro j t ht hcreates
    rw [hsessions] at ht
    rcases Lib.eq_of_update ht with ⟨rfl, hnew⟩ | ⟨hne, hold⟩
    · obtain rfl := Option.some.inj hnew
      obtain ⟨counted, hcreating⟩ := h.creating j sess hsess (hcall ▸ hcreates)
      exact hcreating.act hquiet.prog hact
    · obtain ⟨counted, hcreating⟩ := h.creating j t hold hcreates
      rcases hcount with hws | hsame
      · exact ⟨false, hcreating.appear hcreates (hexclusive hws j hne t hold)⟩
      · exact ⟨counted, hcreating.same hsame⟩

lemma finish (h : Inv engine (planOf tenantID) tenantID d)
    (hstep : d.step database (Request.program engine planOf) (.finish i) = some d') :
    Inv engine (planOf tenantID) tenantID d' := by
  obtain ⟨sess, response, -, -, hstore, hsessions⟩ := Lib.Server.step_finish hstep
  have hold : ∀ j t, d'.sessions j = some t → d.sessions j = some t := by
    intro j t ht
    rw [hsessions] at ht
    rcases Lib.eq_of_update ht with ⟨-, hnone⟩ | ⟨-, hold⟩
    · exact absurd hnone (by simp)
    · exact hold
  refine ⟨hstore ▸ h.within, hstore ▸ h.referenced, fun j t ht => ?_, fun j t ht hcall => ?_⟩
  · rw [hstore]
    exact h.quiet j t (hold j t ht)
  · rw [hstore]
    exact h.creating j t (hold j t ht) hcall

end Inv

/-- Plan quotas. In every run of concurrent creations, registrations and pairings in which no twin
of the tenant appears while another of its creations is between its count and its end, and its
twins get agents only where there is room, the tenant stays within the limits of its plan. -/
theorem within_quota {ι : Type} [DecidableEq ι] (engine : PlanEngine)
    (planOf : TenantID → String) (tenantID : TenantID) {s : Store}
    (hwithin : WithinQuota engine (planOf tenantID) tenantID s)
    (hreferenced : ∀ row ∈ s.assignments.rows, s.twins.HasKey row.twinID)
    {es : List (Lib.ServerEvent ι Request)} {d : Server ι}
    (run : Lib.Run (Lib.Server.step database (Request.program engine planOf))
      (Admits engine (planOf tenantID) tenantID) (.init s) es d) :
    WithinQuota engine (planOf tenantID) tenantID d.store := by
  have hinv : Inv engine (planOf tenantID) tenantID d := by
    refine run.invariant (fun d e d' hinv hadmits hstep => ?_) (.init hwithin hreferenced)
    cases e with
    | call i request => exact hinv.call hstep
    | act i a => exact hinv.act hadmits hstep
    | finish i => exact hinv.finish hstep
  exact hinv.within

/-- A plan for one twin with one agent. -/
def smallPlan : PlanEngine := fun _ => some ⟨1, 1⟩

/-- A request from its start to its end, with the actions of its session. -/
def served {ι : Type} (i : ι) (request : Request) (acts : List Lib.Act) :
    List (Lib.ServerEvent ι Request) :=
  [.call i request] ++ acts.map (.act i) ++ [.finish i]

/-- A creation, a registration with the new twin, and a second creation that is refused. -/
theorem within_quota_full : ∃ d : Server (Fin 1), d.store.twins.HasKey "t1" ∧
    d.store.assignments.HasKey ("a1", "t1") ∧ WithinQuota smallPlan "basic" "acme" d.store := by
  let es : List (Lib.ServerEvent (Fin 1) Request) :=
    served 0 (.createTwin "t1" "acme" "prod" "" true)
      [.issue, .answer, .issue, .answer, .issue, .answer] ++
    served 0 (.registerAgent "a1" "t1" "acme" "client" "topic")
      [.issue, .answer, .issue, .answer, .issue, .answer] ++
    served 0 (.createTwin "t2" "acme" "test" "" true) [.issue, .answer]
  have hfold : (es.foldlM (Lib.restrict (Lib.Server.step database
      (Request.program smallPlan fun _ => "basic")) (Admits smallPlan "basic" "acme"))
        (.init {} : Server (Fin 1))).map (fun d => decide (d.store.twins.HasKey "t1") &&
          decide (d.store.assignments.HasKey ("a1", "t1"))) = some true := by
    decide +kernel
  obtain ⟨d, hd, hfinal⟩ := Option.map_eq_some_iff.mp hfold
  simp only [Bool.and_eq_true, decide_eq_true_eq] at hfinal
  have hstart : WithinQuota smallPlan "basic" "acme" {} := by decide
  exact ⟨d, hfinal.1, hfinal.2, within_quota smallPlan (fun _ => "basic") "acme" hstart
    (by decide) (Lib.run_iff_foldlM_restrict.mpr hd)⟩

/-- Two creations that count before either inserts exceed the limit of one twin, and two agents
register with a twin that may have one. -/
theorem quota_exceeded : (∃ d : Server (Fin 2),
    Lib.Run (Lib.Server.step database (Request.program smallPlan fun _ => "basic")) Lib.Unguarded
      (.init {}) ([.call 0 (.createTwin "t1" "acme" "prod" "" true),
        .call 1 (.createTwin "t2" "acme" "test" "" true),
        .act 0 .issue, .act 0 .answer, .act 1 .issue, .act 1 .answer,
        .act 0 .issue, .act 0 .answer, .act 1 .issue, .act 1 .answer,
        .act 0 .issue, .act 0 .answer, .act 1 .issue, .act 1 .answer]) d ∧
      smallPlan.getMaxTwins "basic" < countTwins "acme" d.store) ∧
    ∃ d : Server (Fin 1),
      Lib.Run (Lib.Server.step database (Request.program smallPlan fun _ => "basic")) Lib.Unguarded
        (.init {}) (served 0 (.createTwin "t1" "acme" "prod" "" true)
            [.issue, .answer, .issue, .answer, .issue, .answer] ++
          served 0 (.registerAgent "a1" "t1" "acme" "client" "topic")
            [.issue, .answer, .issue, .answer, .issue, .answer] ++
          served 0 (.registerAgent "a2" "t1" "acme" "client" "topic")
            [.issue, .answer, .issue, .answer, .issue, .answer]) d ∧
        smallPlan.getAgentsPerTwin "basic" < countAgentsForTwin "t1" d.store := by
  constructor
  · refine (Option.any_eq_true (fun d : Server (Fin 2) => decide (smallPlan.getMaxTwins "basic" <
      countTwins "acme" d.store)) _).mp ?_ |>.imp fun d h =>
        ⟨Lib.run_iff_foldlM.mpr h.1, of_decide_eq_true h.2⟩
    decide +kernel
  · refine (Option.any_eq_true (fun d : Server (Fin 1) => decide (smallPlan.getAgentsPerTwin "basic" <
      countAgentsForTwin "t1" d.store)) _).mp ?_ |>.imp fun d h =>
        ⟨Lib.run_iff_foldlM.mpr h.1, of_decide_eq_true h.2⟩
    decide +kernel

end Paryty.Plan

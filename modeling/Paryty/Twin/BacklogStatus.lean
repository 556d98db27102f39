import Paryty.Twin.Backlog
import Paryty.Twin.Refinement

/-!
# The backlog row of an agent follows the agent

Agents report their backlogs with their heartbeats, operators accept or reject them, and the
lifecycle operations pair the agents with other twins meanwhile. Every call runs by itself.

* `BacklogSystem.fresh` remembers of which agents a nonempty report is newer than the last
  decision and the last change of the twin.
* `Shown` says that the row of such an agent waits for a decision, in the list of the agent's
  twin. The statement that records a report leaves the status and the twin of a row that exists
  as they are, so `Shown` depends on what the row said before: `RecordsReport`.
-/

namespace Paryty.Twin

open Lib (Always Allowed)
open Lib.Prog (exec effect)

/-! ## Heartbeats -/

/-- The twin the agent is assigned to, as the heartbeat handler reads it. -/
def Tables.currentTwin (agentID : AgentID) (d : Tables) : Option TwinID :=
  ((getAgentIdentity agentID).execAlone engine d.lifecycle).1

/-- What a heartbeat does about the backlog it reports. That the row could not be written is
logged only. -/
def reportBacklog (agentID : AgentID) (backlogBytes backlogSinceEpoch : Int) :
    Lib.Prog TablesSql (Result Unit) := do
  if backlogBytes > 0 then
    match ← (getAgentIdentity agentID).embed .lifecycle with
    | none => return .ok ()
    | some twinID =>
      let _ ← upsertBacklog agentID twinID backlogBytes backlogSinceEpoch
      return .ok ()
  else
    return .ok ()

/-- The backlogs an operator sees with a twin. -/
def listBacklogsForTwin (twinID : TwinID) (d : Tables) : List BacklogRow :=
  d.backlogs.rows.filter (fun row => row.twinID = twinID)

/-! ## The system -/

/-- What can happen to a backlog. -/
inductive BacklogEvent
  | report (agentID : AgentID) (backlogBytes backlogSinceEpoch : Int)
  | accept (req : BacklogRequest)
  | reject (req : BacklogRequest)
  | lifecycle (op : Operation)
deriving DecidableEq

/-- The program of an event. -/
def BacklogEvent.program : BacklogEvent → Lib.Prog TablesSql (Result Unit)
  | .report agentID backlogBytes backlogSinceEpoch =>
    reportBacklog agentID backlogBytes backlogSinceEpoch
  | .accept req => acceptBacklog req
  | .reject req => rejectBacklog req
  | .lifecycle op => op.program.embed .lifecycle

/-- The answer of the event and the tables after it. -/
def BacklogEvent.run (e : BacklogEvent) (d : Tables) : Result Unit × Tables :=
  e.program.execAlone tablesEngine d

/-- The event is a report of a backlog that is not empty, by an agent that has a twin. -/
def BacklogEvent.Reports (agentID : AgentID) (d : Tables) : BacklogEvent → Bool
  | .report sender backlogBytes _ =>
    sender = agentID && 0 < backlogBytes && (d.currentTwin agentID).isSome
  | _ => false

/-- The event decides on the backlog of the agent, if it succeeds. -/
def BacklogEvent.About (agentID : AgentID) : BacklogEvent → Bool
  | .accept req | .reject req => req.agentID = agentID
  | _ => false

/-- The database, and the agents whose last report is the last that happened to their backlog:
no decision was taken and no other twin was assigned since. -/
structure BacklogSystem where
  tables : Tables := {}
  fresh : AgentID → Bool := fun _ => false

/-- One event. -/
def BacklogSystem.step (s : BacklogSystem) (e : BacklogEvent) : BacklogSystem where
  tables := (e.run s.tables).2
  fresh agentID := e.Reports agentID s.tables ||
    (s.fresh agentID && !(e.About agentID && (e.run s.tables).1.isOk) &&
      (e.run s.tables).2.currentTwin agentID = s.tables.currentTwin agentID)

/-- Every agent with a fresh report has a pending row in the list of its twin. -/
def BacklogSystem.Shown (s : BacklogSystem) : Prop :=
  ∀ agentID, s.fresh agentID = true → ∃ twinID, s.tables.currentTwin agentID = some twinID ∧
    ∃ row ∈ listBacklogsForTwin twinID s.tables, row.agentID = agentID ∧ row.status = .pending

/-- The report finds no row of the agent, or one that is pending under the agent's twin. -/
def BacklogSystem.RecordsReport (s : BacklogSystem) : BacklogEvent → Prop
  | .report agentID backlogBytes _ => 0 < backlogBytes →
    ∀ twinID ∈ s.tables.currentTwin agentID, ∀ row ∈ s.tables.backlogs.find? agentID,
      row.status = .pending ∧ row.twinID = twinID
  | _ => True

variable {d : Tables} {agentID : AgentID} {twinID : TwinID}

/-! ## What the events do -/

lemma foldl_lifecycle (ws : List Write) (d : Tables) :
    (ws.map TablesWrite.lifecycle).foldl Tables.apply d =
      { d with lifecycle := ws.foldl Store.apply d.lifecycle } := by
  induction ws generalizing d with
  | nil => rfl
  | cons w ws ih => exact ih (d.apply (.lifecycle w))

lemma run_lifecycle (op : Operation) (d : Tables) :
    ((BacklogEvent.lifecycle op).run d).2 = { d with lifecycle := op.perform d.lifecycle } := by
  have hwrites : (op.program.embed TablesSql.lifecycle).writes tablesEngine d .idle =
      (op.program.writes engine d.lifecycle .idle).map .lifecycle :=
    Lib.Prog.writes_embed lifecyclePart op.program d .idle
  have hrun : ((BacklogEvent.lifecycle op).run d).2 =
      ((op.program.embed TablesSql.lifecycle).writes tablesEngine d .idle).foldl Tables.apply d :=
    Lib.Prog.execAlone_eq_writes _ d
  rw [hrun, hwrites, foldl_lifecycle, Operation.perform, Lib.Prog.execAlone_eq_writes]
  rfl

lemma exec_identity {ρ : Type} (f : Option TwinID → Lib.Prog TablesSql ρ) :
    exec tablesEngine ((getAgentIdentity agentID).embed .lifecycle >>= f) d .idle =
      exec tablesEngine (f (d.currentTwin agentID)) d .idle :=
  rfl

lemma run_report_idle {backlogBytes : Int} (backlogSinceEpoch : Int)
    (hidle : 0 < backlogBytes → d.currentTwin agentID = none) :
    ((BacklogEvent.report agentID backlogBytes backlogSinceEpoch).run d).2 = d := by
  change (exec tablesEngine (reportBacklog agentID backlogBytes backlogSinceEpoch) d .idle).2 = d
  unfold reportBacklog
  by_cases hbytes : 0 < backlogBytes
  · rw [if_pos hbytes, exec_identity, hidle hbytes]
    rfl
  · rw [if_neg hbytes]
    rfl

/-- The row of an agent after a report: a new row is pending, one that exists takes the numbers. -/
def BacklogRow.reported (old : Option BacklogRow) (agentID : AgentID) (twinID : TwinID)
    (backlogBytes backlogSinceEpoch : Int) : BacklogRow :=
  { old.getD { agentID, twinID, backlogBytes, backlogSinceEpoch } with
    backlogBytes, backlogSinceEpoch }

lemma effect_upsertBacklog (backlogBytes backlogSinceEpoch : Int)
    (hkey : d.lifecycle.twins.HasKey twinID) :
    effect tablesEngine (.backlog (.upsertBacklog agentID twinID backlogBytes backlogSinceEpoch))
      d = some (1, { d with backlogs := d.backlogs.put (BacklogRow.reported
        (d.backlogs.find? agentID) agentID twinID backlogBytes backlogSinceEpoch) }) := by
  cases hfind : d.backlogs.find? agentID <;>
    simp [effect, tablesEngine, TablesSql.run, BacklogSql.run, hfind, hkey, BacklogRow.reported,
      Tables.apply]

lemma run_report {backlogBytes : Int} (backlogSinceEpoch : Int) (hbytes : 0 < backlogBytes)
    (htwin : d.currentTwin agentID = some twinID) (hkey : d.lifecycle.twins.HasKey twinID) :
    ((BacklogEvent.report agentID backlogBytes backlogSinceEpoch).run d).2 =
      { d with backlogs := d.backlogs.put (BacklogRow.reported (d.backlogs.find? agentID) agentID
          twinID backlogBytes backlogSinceEpoch) } := by
  change (exec tablesEngine (reportBacklog agentID backlogBytes backlogSinceEpoch) d .idle).2 = _
  unfold reportBacklog
  rw [if_pos hbytes, exec_identity, htwin]
  show (exec tablesEngine (upsertBacklog agentID twinID backlogBytes backlogSinceEpoch >>=
    fun _ => pure (Except.ok ())) d .idle).2 = _
  rw [Lib.Prog.exec_map]
  simp [upsertBacklog, exec, effect_upsertBacklog backlogBytes backlogSinceEpoch hkey]

/-- The tables after a decision: of the backlogs only the pending one of the agent changes. -/
def Tables.settle (agentID : AgentID) (status : BacklogStatus) (d : Tables) : Tables :=
  ((d.backlogs.updates d.backlogs (BacklogRow.Pending agentID) ({ · with status })).map
    .backlogs).foldl Tables.apply d

lemma foldl_backlogs (ws : List (Lib.Table.RowWrite BacklogRow AgentID)) (d : Tables) :
    (ws.map TablesWrite.backlogs).foldl Tables.apply d =
      { d with backlogs := ws.foldl Lib.Table.write d.backlogs } := by
  induction ws generalizing d with
  | nil => rfl
  | cons w ws ih => exact ih (d.apply (.backlogs w))

lemma exec_enqueueCommand {ρ : Type} (dispatched : Bool) (cmd : Command) (r : ρ) (d : Tables) :
    ∃ commands, exec tablesEngine
      ((enqueueCommand dispatched cmd).embed .command >>= fun _ => pure r) d .idle =
        (r, { d with commands }) := by
  cases dispatched with
  | true => exact ⟨d.commands, rfl⟩
  | false =>
    by_cases hkey : d.commands.commands.HasKey cmd.id
    · refine ⟨d.commands, ?_⟩
      have heffect : effect tablesEngine (.command (.insertCommand cmd)) d = none := by
        simp [effect, tablesEngine, TablesSql.run, CommandSql.run, hkey]
      show exec tablesEngine (.stmt (.command (.insertCommand cmd)) _) d .idle = _
      simp only [exec, heffect]
      rfl
    · let commands := commandEngine.apply d.commands
        (.put { toCommand := cmd, createdAt := d.commands.clock })
      refine ⟨commands, ?_⟩
      have heffect : effect tablesEngine (.command (.insertCommand cmd)) d =
          some ((), { d with commands }) := by
        simp [effect, tablesEngine, TablesSql.run, CommandSql.run, hkey, Tables.apply, commands]
      show exec tablesEngine (.stmt (.command (.insertCommand cmd)) _) d .idle = _
      simp only [exec, heffect]
      rfl

lemma exec_settleBacklog {ρ : Type} (verb : String) (status : BacklogStatus) (agentID : AgentID)
    (f : Result Unit → Lib.Prog TablesSql ρ) (d : Tables) :
    (∃ err, exec tablesEngine (settleBacklog verb status agentID >>= f) d .idle =
      exec tablesEngine (f (.error err)) d .idle) ∨
    exec tablesEngine (settleBacklog verb status agentID >>= f) d .idle =
      exec tablesEngine (f (.ok ())) (d.settle agentID status) .idle := by
  set ws := d.backlogs.updates d.backlogs (BacklogRow.Pending agentID) ({ · with status }) with hws
  have heffect : effect tablesEngine (.backlog (.settleBacklog agentID status)) d =
    some (ws.length, d.settle agentID status) := rfl
  by_cases hnone : ws.length = 0
  · left
    have hsettle : d.settle agentID status = d := by
      unfold Tables.settle
      rw [← hws, List.length_eq_zero_iff.mp hnone]
      rfl
    refine ⟨"no pending backlog for agent " ++ agentID, ?_⟩
    show exec tablesEngine (.stmt (.backlog (.settleBacklog agentID status)) _) d .idle = _
    simp only [exec, heffect, Lib.Prog.bind, if_pos hnone, hsettle]
    rfl
  · right
    show exec tablesEngine (.stmt (.backlog (.settleBacklog agentID status)) _) d .idle = _
    simp only [exec, heffect, Lib.Prog.bind, if_neg hnone]
    rfl

/-- A decision that fails writes nothing; one that succeeds changes the pending backlog of the
agent, and the commands. -/
lemma exec_handleBacklog (verb : String) (status : BacklogStatus) (commandType : Int)
    (payload : String) (req : BacklogRequest) (d : Tables) :
    (∃ err, exec tablesEngine
      (handleBacklog verb (settleBacklog verb status) commandType payload req) d .idle =
        (.error err, d)) ∨
    ∃ commands, exec tablesEngine
      (handleBacklog verb (settleBacklog verb status) commandType payload req) d .idle =
        (.ok (), { d.settle req.agentID status with commands }) := by
  unfold handleBacklog
  by_cases hids : req.twinID = "" ∨ req.agentID = ""
  · left
    rw [if_pos (by simpa using hids)]
    exact ⟨_, rfl⟩
  · rw [if_neg (by simpa using hids)]
    obtain ⟨err, hrefused⟩ | hdone := exec_settleBacklog verb status req.agentID _ d
    · left
      rw [hrefused]
      exact ⟨_, rfl⟩
    · right
      rw [hdone]
      exact exec_enqueueCommand _ _ _ _

lemma settle_lifecycle (agentID : AgentID) (status : BacklogStatus) (d : Tables) :
    (d.settle agentID status).lifecycle = d.lifecycle := by
  rw [Tables.settle, foldl_backlogs]

lemma find?_settle {other : AgentID} (hother : other ≠ agentID) (status : BacklogStatus)
    (d : Tables) : (d.settle agentID status).backlogs.find? other = d.backlogs.find? other := by
  rw [Tables.settle, foldl_backlogs, Lib.Table.find?_updates _ _ _ (by exact fun _ => rfl)]
  cases hfind : d.backlogs.find? other with
  | none => rfl
  | some row =>
    have hkey : row.agentID ≠ agentID := (Lib.Table.find?_eq_some.mp hfind).2.trans_ne hother
    simp [BacklogRow.Pending, hkey]

/-! ## The invariant and the step -/

lemma hasKey_currentTwin (hwf : (view d.lifecycle).WellFormed)
    (htwin : d.currentTwin agentID = some twinID) : d.lifecycle.twins.HasKey twinID := by
  obtain ⟨o, heffect, -, hsome⟩ := effect_assignedTwin agentID d.lifecycle
  have ho : o = d.currentTwin agentID :=
    (congrArg Prod.fst (Option.some.inj heffect)).symm
  obtain ⟨tenantID, hassigned⟩ := Option.ne_none_iff_exists'.mp (hsome twinID (ho.trans htwin))
  obtain ⟨t, ht, -⟩ := hwf.live agentID twinID tenantID hassigned
  obtain ⟨row, hrow, -⟩ := Option.map_eq_some_iff.mp ht
  rw [Lib.Table.hasKey_iff_find?, hrow]
  rfl

namespace BacklogSystem

lemma mem_listBacklogs_iff {p : BacklogRow → Prop} :
    (∃ row ∈ listBacklogsForTwin twinID d, row.agentID = agentID ∧ p row) ↔
      ∃ row, d.backlogs.find? agentID = some row ∧ row.twinID = twinID ∧ p row := by
  simp only [listBacklogsForTwin, List.mem_filter, Lib.Table.find?_eq_some, decide_eq_true_eq]
  constructor
  · rintro ⟨row, ⟨hmem, htwin⟩, hagent, hp⟩
    exact ⟨row, ⟨hmem, hagent⟩, htwin, hp⟩
  · rintro ⟨row, ⟨hmem, hagent⟩, htwin, hp⟩
    exact ⟨row, ⟨hmem, htwin⟩, hagent, hp⟩

/-- The row of the agent waits for a decision, in the list of its twin. -/
def Waits (agentID : AgentID) (d : Tables) : Prop :=
  ∃ twinID row, d.currentTwin agentID = some twinID ∧ d.backlogs.find? agentID = some row ∧
    row.twinID = twinID ∧ row.status = .pending

lemma shown_iff {s : BacklogSystem} :
    s.Shown ↔ ∀ agentID, s.fresh agentID = true → Waits agentID s.tables := by
  refine forall₂_congr fun agentID _ => exists_congr fun twinID => ?_
  rw [mem_listBacklogs_iff, ← exists_and_left]

lemma Waits.congr {d' : Tables} (h : Waits agentID d)
    (htwin : d'.currentTwin agentID = d.currentTwin agentID)
    (hrow : d'.backlogs.find? agentID = d.backlogs.find? agentID) : Waits agentID d' := by
  unfold Waits
  rw [htwin, hrow]
  exact h

variable {s : BacklogSystem} {e : BacklogEvent}

/-- An event that is no report keeps what is shown, if it changes no row but the one it decides
on. -/
lemma shown_step_of_rows (hreports : ∀ agentID, e.Reports agentID s.tables = false)
    (hrows : ∀ agentID, (e.About agentID && (e.run s.tables).1.isOk) = false →
      (e.run s.tables).2.backlogs.find? agentID = s.tables.backlogs.find? agentID)
    (hs : s.Shown) : (s.step e).Shown := by
  rw [shown_iff] at hs ⊢
  intro agentID hfresh
  have hkept : (s.fresh agentID = true ∧ (e.About agentID && (e.run s.tables).1.isOk) = false) ∧
      (e.run s.tables).2.currentTwin agentID = s.tables.currentTwin agentID := by
    simpa only [step, hreports agentID, Bool.false_or, Bool.and_eq_true, Bool.not_eq_true',
      decide_eq_true_eq] using hfresh
  obtain ⟨⟨hold, hundecided⟩, htwin⟩ := hkept
  exact (hs agentID hold).congr htwin (hrows agentID hundecided)

lemma shown_step_decision {verb payload : String} {status : BacklogStatus} {commandType : Int}
    {req : BacklogRequest}
    (hprogram : e.program = handleBacklog verb (settleBacklog verb status) commandType payload req)
    (habout : ∀ agentID, e.About agentID = decide (req.agentID = agentID))
    (hreports : ∀ agentID, e.Reports agentID s.tables = false) (hs : s.Shown) :
    (s.step e).Shown := by
  refine shown_step_of_rows hreports (fun agentID hundecided => ?_) hs
  have hrun : e.run s.tables = exec tablesEngine
      (handleBacklog verb (settleBacklog verb status) commandType payload req) s.tables .idle := by
    rw [← hprogram]
    rfl
  obtain ⟨err, hexec⟩ | ⟨commands, hexec⟩ :=
    exec_handleBacklog verb status commandType payload req s.tables
  · rw [hrun, hexec]
  · have hother : agentID ≠ req.agentID := by
      rw [hrun, hexec, habout] at hundecided
      simpa [Except.isOk, Except.toBool, eq_comm] using hundecided
    rw [hrun, hexec]
    exact find?_settle hother status s.tables

lemma shown_step_report {backlogBytes backlogSinceEpoch : Int}
    (hwf : (view s.tables.lifecycle).WellFormed) (hs : s.Shown) :
    (s.step (.report agentID backlogBytes backlogSinceEpoch)).Shown ↔
      s.RecordsReport (.report agentID backlogBytes backlogSinceEpoch) := by
  by_cases hidle : 0 < backlogBytes → s.tables.currentTwin agentID = none
  · have hrun := run_report_idle backlogSinceEpoch hidle
    have hreports (other : AgentID) :
        (BacklogEvent.report agentID backlogBytes backlogSinceEpoch).Reports other s.tables =
          false := by
      rw [Bool.eq_false_iff]
      intro hreport
      obtain ⟨⟨rfl, hbytes⟩, hsome⟩ : (agentID = other ∧ 0 < backlogBytes) ∧
          (s.tables.currentTwin other).isSome = true := by
        simpa only [BacklogEvent.Reports, Bool.and_eq_true, decide_eq_true_eq] using hreport
      rw [hidle hbytes] at hsome
      exact absurd hsome (by simp)
    refine iff_of_true (shown_step_of_rows hreports (fun other _ => by rw [hrun]) hs) ?_
    intro hbytes twinID htwin
    rw [hidle hbytes] at htwin
    exact absurd htwin (by simp)
  · obtain ⟨hbytes, hsome⟩ := Classical.not_imp.mp hidle
    obtain ⟨twinID, htwin⟩ := Option.ne_none_iff_exists'.mp hsome
    have hrun := run_report backlogSinceEpoch hbytes htwin (hasKey_currentTwin hwf htwin)
    set row := BacklogRow.reported (s.tables.backlogs.find? agentID) agentID twinID backlogBytes
      backlogSinceEpoch with hrow
    have hagent : row.agentID = agentID := by
      cases hfind : s.tables.backlogs.find? agentID with
      | none => rw [hrow, hfind]; rfl
      | some old => rw [hrow, hfind]; exact (Lib.Table.find?_eq_some.mp hfind).2
    have hfind (other : AgentID) : (s.step (.report agentID backlogBytes
        backlogSinceEpoch)).tables.backlogs.find? other =
          if other = agentID then some row else s.tables.backlogs.find? other := by
      show (BacklogEvent.run _ s.tables).2.backlogs.find? other = _
      rw [hrun, Lib.Table.find?_put, hagent]
    have htwins (other : AgentID) : (s.step (.report agentID backlogBytes
        backlogSinceEpoch)).tables.currentTwin other = s.tables.currentTwin other := by
      show (BacklogEvent.run _ s.tables).2.currentTwin other = _
      rw [hrun]
      rfl
    have hfresh : (s.step (.report agentID backlogBytes backlogSinceEpoch)).fresh agentID = true := by
      simp [step, BacklogEvent.Reports, hbytes, htwin]
    have hself : Waits agentID (s.step (.report agentID backlogBytes backlogSinceEpoch)).tables ↔
        row.twinID = twinID ∧ row.status = .pending := by
      unfold Waits
      rw [htwins, htwin, hfind, if_pos rfl]
      constructor
      · rintro ⟨_, _, hsame, hrow', h⟩
        rwa [Option.some.inj hsame, Option.some.inj hrow']
      · intro h
        exact ⟨twinID, row, rfl, rfl, h⟩
    have hguard : s.RecordsReport (.report agentID backlogBytes backlogSinceEpoch) ↔
        row.twinID = twinID ∧ row.status = .pending := by
      show (0 < backlogBytes → ∀ twin ∈ s.tables.currentTwin agentID,
        ∀ old ∈ s.tables.backlogs.find? agentID, old.status = .pending ∧ old.twinID = twin) ↔ _
      rw [htwin]
      cases hold : s.tables.backlogs.find? agentID with
      | none => simp [hrow, hold, BacklogRow.reported]
      | some old => simp [hrow, hold, BacklogRow.reported, hbytes, and_comm]
    rw [hguard, ← hself, shown_iff]
    refine ⟨fun h => h agentID hfresh, fun h other hother => ?_⟩
    by_cases hsame : other = agentID
    · exact hsame ▸ h
    · -- The report says nothing about the other agents.
      have hold : s.fresh other = true := by
        have hne : agentID ≠ other := Ne.symm hsame
        simpa [step, BacklogEvent.Reports, BacklogEvent.About, hne, hrun, Tables.currentTwin]
          using hother
      refine (shown_iff.mp hs other hold).congr (htwins other) ?_
      rw [hfind, if_neg hsame]

lemma shown_step_iff (hwf : (view s.tables.lifecycle).WellFormed) (hs : s.Shown) :
    (s.step e).Shown ↔ s.RecordsReport e := by
  cases e with
  | report agentID backlogBytes backlogSinceEpoch => exact shown_step_report hwf hs
  | accept | reject =>
    exact iff_of_true (shown_step_decision rfl (fun _ => rfl) (fun _ => rfl) hs) trivial
  | lifecycle op =>
    refine iff_of_true (shown_step_of_rows (fun _ => rfl) (fun agentID _ => ?_) hs) trivial
    rw [run_lifecycle]

lemma wellFormed_step (hwf : (view s.tables.lifecycle).WellFormed) (e : BacklogEvent) :
    (view (s.step e).tables.lifecycle).WellFormed := by
  have hdecision (verb payload : String) (status : BacklogStatus) (commandType : Int)
      (req : BacklogRequest) : (exec tablesEngine
        (handleBacklog verb (settleBacklog verb status) commandType payload req) s.tables
          .idle).2.lifecycle = s.tables.lifecycle := by
    obtain ⟨err, hexec⟩ | ⟨commands, hexec⟩ :=
      exec_handleBacklog verb status commandType payload req s.tables
    · rw [hexec]
    · rw [hexec]
      exact settle_lifecycle req.agentID status s.tables
  show (view (e.run s.tables).2.lifecycle).WellFormed
  cases e with
  | report agentID backlogBytes backlogSinceEpoch =>
    by_cases hidle : 0 < backlogBytes → s.tables.currentTwin agentID = none
    · rw [run_report_idle backlogSinceEpoch hidle]
      exact hwf
    · obtain ⟨hbytes, hsome⟩ := Classical.not_imp.mp hidle
      obtain ⟨twinID, htwin⟩ := Option.ne_none_iff_exists'.mp hsome
      rw [run_report backlogSinceEpoch hbytes htwin (hasKey_currentTwin hwf htwin)]
      exact hwf
  | accept req =>
    exact (hdecision "accept" _ .uploading 6 req).symm ▸ hwf
  | reject req =>
    exact (hdecision "reject" _ .rejected 7 req).symm ▸ hwf
  | lifecycle op =>
    rw [run_lifecycle]
    exact (step_view op s.tables.lifecycle).wellFormed hwf

/-- From the empty tables on, the agents with a fresh report have a pending row in the list of
their twin throughout, exactly if every report of something finds no row of its agent or one that
is pending under the agent's twin. -/
theorem shown_iff_recordsReport (es : List BacklogEvent) :
    Always step Shown {} es ↔ Allowed step RecordsReport {} es := by
  have hempty : Shown {} := by
    intro agentID hfresh
    exact absurd hfresh (by simp)
  have hwf : (view ({} : BacklogSystem).tables.lifecycle).WellFormed := wellFormed_empty
  exact Lib.always_iff_allowed (I := fun s => (view s.tables.lifecycle).WellFormed)
    (fun s e hwf => wellFormed_step hwf e) (fun s e hwf hs => shown_step_iff hwf hs) hwf hempty es

/-- The operator rejects a backlog, and the agent reports a new one: its row stays rejected. -/
theorem not_shown_after_reject : ¬ ∀ es : List BacklogEvent, Always step Shown {} es := by
  intro h
  let es : List BacklogEvent := [
    .lifecycle (.createTwin "t1" "acme" "prod" ""),
    .lifecycle (.upsertAgentRegistration "a1" "acme" "host" "client"),
    .lifecycle (.pairAgent "a1" "t1" "acme" "u1"),
    .report "a1" 4096 100,
    .reject { twinID := "t1", agentID := "a1", commandID := "c1" },
    .report "a1" 8192 200]
  have hshown := shown_iff.mp (h es).foldl "a1"
  have hfresh : (es.foldl step {}).fresh "a1" = true := by decide +kernel
  have hrow : ((es.foldl step {}).tables.backlogs.find? "a1").map BacklogRow.status =
      some .rejected := by decide +kernel
  obtain ⟨twinID, row, -, hfind, -, hpending⟩ := hshown hfresh
  rw [hfind, Option.map_some, hpending] at hrow
  exact absurd hrow (by decide)

end BacklogSystem

end Paryty.Twin

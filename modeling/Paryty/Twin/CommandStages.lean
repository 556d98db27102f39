import Paryty.Twin.Command

/-!
# Where the sessions of the command manager stand

A session of the command manager is always at one of a few places: a `Stage`, with what it has
found out so far. `Stage.Next` is what it can do there. The `Desk` is the system with stages in
place of sessions, and `delivery_step` says that it follows every step of the system: what is
proved about the desk holds for the interleaved programs.
-/

namespace Paryty.Twin

open Lib.Prog (query commitTx)
open Lib.Table (updates)

/-! ## What is left of a dequeue -/

/-- The commit. -/
def commitLeft (cmds : List CommandRecord) : Lib.Prog CommandSql CommandResult := do
  if ← commitTx then
    return .ok cmds
  else
    return .error "commit"

/-- The update and the commit. -/
def markLeft (cmds : List CommandRecord) : Lib.Prog CommandSql CommandResult := do
  let some _ ← query (.markDelivered (cmds.map (fun cmd => cmd.id)))
    | return .error "mark commands delivered"
  commitLeft cmds

/-- What follows the query. -/
def queryLeft (agentID : AgentID) : Lib.Prog CommandSql CommandResult := do
  let some cmds ← query (.pendingCommands agentID)
    | return .error "query pending commands"
  if cmds = [] then commitLeft cmds else markLeft cmds

lemma dequeueCommands_eq (agentID : AgentID) :
    dequeueCommands agentID = .begin (queryLeft agentID) := by
  have hlength : ∀ cmds : List CommandRecord,
      (cmds.map (fun cmd => cmd.id)).length > 0 ↔ ¬ cmds = [] := by
    intro cmds
    rw [List.length_map, gt_iff_lt, List.length_pos_iff]
  show Lib.Prog.begin _ = Lib.Prog.begin _
  congr 1
  show Lib.Prog.stmt _ _ = Lib.Prog.stmt _ _
  congr 1
  funext answer
  cases answer with
  | none => rfl
  | some cmds =>
    by_cases hempty : cmds = []
    · subst hempty
      rfl
    · have hpos := (hlength cmds).mpr hempty
      show (if (cmds.map (fun cmd => cmd.id)).length > 0 then _ else _) =
        (if cmds = [] then _ else _)
      rw [if_pos hpos, if_neg hempty]
      rfl

/-! ## Stages -/

/-- Where a session stands. -/
inductive Stage
  /-- An enqueue before the answer to its insert. -/
  | inserting (cmd : Command) (snapshot : Option CommandStore)
  /-- An enqueue that has succeeded. -/
  | enqueued (dispatched : Bool) (cmd : Command)
  /-- An enqueue that has failed. -/
  | notEnqueued (cmd : Command)
  /-- A heartbeat before its transaction. -/
  | beginning (agentID : AgentID)
  /-- A heartbeat before the answer to its query. -/
  | selecting (agentID : AgentID) (snapshot : Option CommandStore)
  /-- A heartbeat before the answer to its update. -/
  | marking (agentID : AgentID) (cmds : List CommandRecord) (snapshot : Option CommandStore)
  /-- A heartbeat at its commit. -/
  | committing (agentID : AgentID) (cmds : List CommandRecord)
      (pending : List (Lib.Table.RowWrite CommandRecord CommandID))
  /-- A heartbeat that has dequeued its commands. -/
  | done (agentID : AgentID) (cmds : List CommandRecord)
  /-- A heartbeat that has failed. -/
  | failed (agentID : AgentID) (text : String)
      (tx : Lib.Tx (Lib.Table.RowWrite CommandRecord CommandID))

namespace Stage

/-- The session at the stage. -/
def session : Stage → CommandSession
  | inserting cmd snapshot =>
    ⟨.enqueueCommand false cmd, Twin.enqueueCommand false cmd, .idle, snapshot⟩
  | enqueued dispatched cmd => ⟨.enqueueCommand dispatched cmd, .ret (.ok []), .idle, none⟩
  | notEnqueued cmd =>
    ⟨.enqueueCommand false cmd, .ret (.error "enqueue command"), .idle, none⟩
  | beginning agentID => ⟨.heartbeat agentID, dequeueCommands agentID, .idle, none⟩
  | selecting agentID snapshot =>
    ⟨.heartbeat agentID, queryLeft agentID, .active [], snapshot⟩
  | marking agentID cmds snapshot => ⟨.heartbeat agentID, markLeft cmds, .active [], snapshot⟩
  | committing agentID cmds pending =>
    ⟨.heartbeat agentID, commitLeft cmds, .active pending, none⟩
  | done agentID cmds => ⟨.heartbeat agentID, .ret (.ok cmds), .idle, none⟩
  | failed agentID text tx => ⟨.heartbeat agentID, .ret (.error text), tx, none⟩

/-- The agent whose heartbeat the session serves. -/
def agent : Stage → Option AgentID
  | beginning agentID => some agentID
  | selecting agentID _ => some agentID
  | marking agentID _ _ => some agentID
  | committing agentID _ _ => some agentID
  | done agentID _ => some agentID
  | failed agentID _ _ => some agentID
  | _ => none

lemma call_session (stage : Stage) (agentID : AgentID) :
    stage.session.call = .heartbeat agentID ↔ stage.agent = some agentID := by
  cases stage <;> simp [session, agent]

/-- The stage at which a call starts. -/
def start : CommandCall → Stage
  | .enqueueCommand true cmd => enqueued true cmd
  | .enqueueCommand false cmd => inserting cmd none
  | .heartbeat agentID => beginning agentID

lemma session_start (call : CommandCall) :
    (start call).session = { call, prog := call.program } := by
  cases call with
  | enqueueCommand dispatched cmd => cases dispatched <;> rfl
  | heartbeat agentID => rfl

/-- The stage after the query. -/
def fetched (agentID : AgentID) (cmds : List CommandRecord) : Stage :=
  if cmds = [] then committing agentID cmds [] else marking agentID cmds none

/-- What a session can do: the stage and the store after it. -/
inductive Next (s : CommandStore) : Stage → Stage → CommandStore → Prop
  | issueInsert (cmd : Command) : Next s (inserting cmd none) (inserting cmd (some s)) s
  | insert (cmd : Command) (snapshot : CommandStore) (fresh : ¬ s.commands.HasKey cmd.id) :
      Next s (inserting cmd (some snapshot)) (enqueued false cmd)
        { s with
          commands := s.commands.put { toCommand := cmd, createdAt := snapshot.clock } }
  | notInsert (cmd : Command) (snapshot : Option CommandStore) :
      Next s (inserting cmd snapshot) (notEnqueued cmd) s
  | begin (agentID : AgentID) : Next s (beginning agentID) (selecting agentID none) s
  | issueSelect (agentID : AgentID) :
      Next s (selecting agentID none) (selecting agentID (some s)) s
  | select (agentID : AgentID) (snapshot : CommandStore) :
      Next s (selecting agentID (some snapshot)) (fetched agentID (snapshot.pending agentID)) s
  | issueMark (agentID : AgentID) (cmds : List CommandRecord) :
      Next s (marking agentID cmds none) (marking agentID cmds (some s)) s
  | mark (agentID : AgentID) (cmds : List CommandRecord) (snapshot : CommandStore) :
      Next s (marking agentID cmds (some snapshot))
        (committing agentID cmds (updates snapshot.commands s.commands
          (fun record => record.id ∈ cmds.map (fun cmd => cmd.id))
          ({ · with delivered := true }))) s
  | commit (agentID : AgentID) (cmds : List CommandRecord)
      (pending : List (Lib.Table.RowWrite CommandRecord CommandID)) :
      Next s (committing agentID cmds pending) (done agentID cmds)
        { s with commands := pending.foldl Lib.Table.write s.commands }
  | fail (stage : Stage) (agentID : AgentID) (text : String)
      (tx : Lib.Tx (Lib.Table.RowWrite CommandRecord CommandID))
      (heartbeat : stage.agent = some agentID) (running : ∀ agent cmds, stage ≠ done agent cmds) :
      Next s stage (failed agentID text tx) s

lemma foldl_apply (pending : List (Lib.Table.RowWrite CommandRecord CommandID))
    (s : CommandStore) : pending.foldl commandEngine.apply s =
      { s with commands := pending.foldl Lib.Table.write s.commands } := by
  induction pending generalizing s with
  | nil => rfl
  | cons w pending ih => exact ih _

lemma next_of_act {stage : Stage} {s s' : CommandStore} {sess' : CommandSession}
    {writes : List (Lib.Table.RowWrite CommandRecord CommandID)} {a : Lib.Act}
    (hact : stage.session.act commandEngine s a = some (sess', s', writes)) :
    ∃ stage', sess' = stage'.session ∧ stage.Next s stage' s' := by
  cases stage with
  | inserting cmd snapshot =>
    rcases Lib.Session.act_stmt_idle hact with ⟨-, rfl, rfl, rfl⟩ |
      ⟨snap, answer, made, -, rfl, hrun, rfl, rfl⟩ | ⟨-, rfl, rfl⟩
    · exact ⟨_, rfl, .issueInsert cmd⟩
    · have hinsert : (if s.commands.HasKey cmd.id then none else
          some ((), [Lib.Table.RowWrite.put
            { toCommand := cmd, createdAt := snap.clock : CommandRecord }])) =
          some (answer, made) := hrun
      -- The insert fails on a row that is there already.
      split at hinsert
      case isTrue => exact absurd hinsert (by simp)
      case isFalse fresh =>
        obtain ⟨-, rfl⟩ := Prod.mk.inj (Option.some.inj hinsert)
        exact ⟨.enqueued false cmd, rfl, .insert cmd snap fresh⟩
    · exact ⟨.notEnqueued cmd, rfl, .notInsert cmd snapshot⟩
  | enqueued dispatched cmd => exact absurd hact (by simp [session])
  | notEnqueued cmd => exact absurd hact (by simp [session])
  | beginning agentID =>
    rw [session, dequeueCommands_eq] at hact
    obtain ⟨rfl, rfl⟩ := Lib.Session.act_begin hact
    exact ⟨.selecting agentID none, rfl, .begin agentID⟩
  | selecting agentID snapshot =>
    obtain ⟨rfl, ⟨rfl, rfl⟩ | ⟨snap, cmds, made, rfl, hrun, rfl⟩ | rfl⟩ :=
      Lib.Session.act_stmt hact
    · exact ⟨.selecting agentID (some s'), rfl, .issueSelect agentID⟩
    · obtain ⟨rfl, rfl⟩ := Prod.mk.inj (Option.some.inj hrun)
      refine ⟨fetched agentID (snap.pending agentID), ?_, .select agentID snap⟩
      show (⟨.heartbeat agentID, if snap.pending agentID = [] then _ else _, .active [], none⟩ :
        CommandSession) = _
      -- Without pending commands the transaction is over, else they are marked.
      unfold fetched
      by_cases hempty : snap.pending agentID = []
      · rw [if_pos hempty, if_pos hempty]
        rfl
      · rw [if_neg hempty, if_neg hempty]
        rfl
    · exact ⟨.failed agentID _ _, rfl, .fail _ agentID _ _ rfl (by simp)⟩
  | marking agentID cmds snapshot =>
    obtain ⟨rfl, ⟨rfl, rfl⟩ | ⟨snap, n, made, rfl, hrun, rfl⟩ | rfl⟩ :=
      Lib.Session.act_stmt hact
    · exact ⟨.marking agentID cmds (some s'), rfl, .issueMark agentID cmds⟩
    · obtain ⟨-, rfl⟩ := Prod.mk.inj (Option.some.inj hrun)
      exact ⟨.committing agentID cmds _, rfl, .mark agentID cmds snap⟩
    · exact ⟨.failed agentID _ _, rfl, .fail _ agentID _ _ rfl (by simp)⟩
  | committing agentID cmds pending =>
    rcases Lib.Session.act_commit hact with ⟨rfl, rfl⟩ | ⟨made, -, htx, rfl, rfl⟩
    · exact ⟨.failed agentID _ _, rfl, .fail _ agentID _ _ rfl (by simp)⟩
    · obtain rfl := Lib.Tx.active.inj htx
      rw [foldl_apply]
      exact ⟨.done agentID cmds, rfl, .commit agentID cmds pending⟩
  | done agentID cmds => exact absurd hact (by simp [session])
  | failed agentID text tx => exact absurd hact (by simp [session])

end Stage

/-! ## The desk -/

/-- The system with stages in place of sessions. -/
structure Desk (ι : Type) extends Traffic where
  stages : ι → Option Stage
  store : CommandStore

namespace Desk

variable {ι : Type} [DecidableEq ι]

/-- The time goes by. -/
def tick (s : CommandStore) : CommandStore := { s with clock := s.clock + 1 }

/-- What can happen at the desk; the heartbeats that begin are named. -/
inductive Step (q : Desk ι) : Option AgentID → Desk ι → Prop
  | ask (i : ι) (dispatched : Bool) (cmd : Command) (free : q.stages i = none)
      (fresh : cmd.id ∉ q.issued) : Step q none
        { q.ask dispatched cmd with
          stages := Function.update q.stages i
            (some (Stage.start (.enqueueCommand dispatched cmd)))
          store := tick q.store }
  | heartbeat (i : ι) (agentID : AgentID) (free : q.stages i = none) : Step q (some agentID)
        { q with
          stages := Function.update q.stages i (some (Stage.beginning agentID))
          store := tick q.store }
  | act (i : ι) (stage stage' : Stage) (s' : CommandStore) (here : q.stages i = some stage)
      (next : stage.Next q.store stage' s') : Step q none
        { q with
          stages := Function.update q.stages i (some stage')
          store := tick s' }
  | finish (i : ι) (stage : Stage) (result : CommandResult) (here : q.stages i = some stage)
      (returned : stage.session.prog = .ret result) : Step q none
        { q.onReturn stage.session.call result with
          stages := Function.update q.stages i none
          store := tick q.store }
  | receive (k : ℕ) (traffic : Traffic) (here : q.toTraffic.receive k = some traffic) : Step q none
        { traffic with stages := q.stages, store := q.store }
  | lose (k : ℕ) (traffic : Traffic) (here : q.toTraffic.lose k = some traffic) : Step q none
        { traffic with stages := q.stages, store := q.store }

/-- The desk shows the system: the same traffic and table, each session at its stage. -/
structure Shows (q : Desk ι) (d : Delivery ι) : Prop where
  traffic : d.toTraffic = q.toTraffic
  store : d.server.store = q.store
  sessions : ∀ i, d.server.sessions i = (q.stages i).map Stage.session

/-- An empty desk. -/
def init : Desk ι := { stages := fun _ => none, store := {} }

omit [DecidableEq ι] in
lemma shows_init : Shows (init : Desk ι) Delivery.init := ⟨rfl, rfl, fun _ => rfl⟩

end Desk

/-- The agent whose heartbeat begins with the event. -/
def DeliveryEvent.opens {ι : Type} : DeliveryEvent ι → Option AgentID
  | .server (.call _ (.heartbeat agentID)) => some agentID
  | _ => none

section Refinement

variable {ι : Type} [DecidableEq ι] {d d' : Delivery ι} {q : Desk ι}

lemma sessions_update {i : ι} (new : Option Stage)
    (hsessions : ∀ j, d.server.sessions j = (q.stages j).map Stage.session) (j : ι) :
    Function.update d.server.sessions i (new.map Stage.session) j =
      (Function.update q.stages i new j).map Stage.session := by
  by_cases hj : j = i
  · subst hj
    rw [Function.update_self, Function.update_self]
  · rw [Function.update_of_ne hj, Function.update_of_ne hj, hsessions]

lemma delivery_step {e : DeliveryEvent ι} (hshows : q.Shows d) (hstep : d.step e = some d') :
    ∃ q', q.Step e.opens q' ∧ q'.Shows d' := by
  obtain ⟨htraffic, hstore, hsessions⟩ := hshows
  cases e with
  | receive k =>
    obtain ⟨traffic, hreceive, rfl⟩ := Option.map_eq_some_iff.mp hstep
    rw [htraffic] at hreceive
    exact ⟨_, .receive k traffic hreceive, rfl, hstore, hsessions⟩
  | lose k =>
    obtain ⟨traffic, hlose, rfl⟩ := Option.map_eq_some_iff.mp hstep
    rw [htraffic] at hlose
    exact ⟨_, .lose k traffic hlose, rfl, hstore, hsessions⟩
  | server e =>
    cases hserver : d.server.step commandEngine CommandCall.program e with
    | none => simp [Delivery.step, hserver] at hstep
    | some server =>
    cases hobserve : d.observe e with
    | none => simp [Delivery.step, hserver, hobserve] at hstep
    | some traffic =>
    -- The server makes its step and the traffic is what it shows of it.
    simp only [Delivery.step, hserver, hobserve, Option.some.injEq] at hstep
    subst hstep
    cases e with
    | call i call =>
      obtain ⟨hfree, hsame, hopened⟩ := Lib.Server.step_call hserver
      have hfree' : q.stages i = none := by
        simpa [hsessions] using hfree
      have hsessions' : ∀ j, server.sessions j =
          (Function.update q.stages i (some (Stage.start call)) j).map Stage.session := by
        intro j
        rw [hopened, ← sessions_update _ hsessions, Option.map_some, Stage.session_start]
      have hstore' : (Delivery.tick server).store = Desk.tick q.store := by
        show CommandStore.mk server.store.commands (server.store.clock + 1) = _
        rw [hsame, hstore]
        rfl
      cases call with
      | enqueueCommand dispatched cmd =>
        simp only [Delivery.observe, Traffic.onCall] at hobserve
        split at hobserve
        case isTrue => exact absurd hobserve (by simp)
        case isFalse fresh =>
          obtain rfl := Option.some.inj hobserve
          rw [htraffic] at fresh
          refine ⟨_, .ask i dispatched cmd hfree' fresh, ?_, hstore', hsessions'⟩
          show d.toTraffic.ask dispatched cmd = q.toTraffic.ask dispatched cmd
          rw [htraffic]
      | heartbeat agentID =>
        obtain rfl := Option.some.inj hobserve
        exact ⟨_, .heartbeat i agentID hfree', htraffic, hstore', hsessions'⟩
    | act i a =>
      obtain ⟨sess, sess', writes, hsess, hact, hsessions'⟩ := Lib.Server.step_act hserver
      obtain rfl := Option.some.inj hobserve
      rw [hsessions] at hsess
      obtain ⟨stage, hstage, rfl⟩ := Option.map_eq_some_iff.mp hsess
      obtain ⟨stage', rfl, hnext⟩ := Stage.next_of_act hact
      rw [hstore] at hnext
      refine ⟨_, .act i stage stage' server.store hstage hnext, htraffic, rfl, fun j => ?_⟩
      show server.sessions j = _
      rw [hsessions']
      exact sessions_update (some stage') hsessions j
    | finish i =>
      obtain ⟨sess, result, hsess, hreturned, hsame, hsessions'⟩ := Lib.Server.step_finish hserver
      have hstaged := hsess
      rw [hsessions] at hstaged
      obtain ⟨stage, hstage, rfl⟩ := Option.map_eq_some_iff.mp hstaged
      -- The result that is observed is the one that the session returns.
      have htraffic' : traffic = d.onReturn stage.session.call result := by
        simp only [Delivery.observe, hsess] at hobserve
        cases hsession : stage.session with
        | mk call prog tx snapshot =>
          rw [hsession] at hobserve hreturned
          obtain rfl : prog = _ := hreturned
          exact (Option.some.inj hobserve).symm
      refine ⟨_, .finish i stage result hstage hreturned, ?_, ?_, fun j => ?_⟩
      · show traffic = q.toTraffic.onReturn stage.session.call result
        rw [htraffic', htraffic]
      · show CommandStore.mk server.store.commands (server.store.clock + 1) = _
        rw [hsame, hstore]
        rfl
      · show server.sessions j = _
        rw [hsessions']
        exact sessions_update none hsessions j

end Refinement

end Paryty.Twin

import Paryty.Twin.BlacklistTheorems

/-!
# A barred agent stays out

`Phase` says where a blacklisting stands and what its transaction has made sure of so far: the
insert puts the agent on the list, the delete covers every assignment of the agent that is left,
the update its status. Other sessions only take such assignments away while a blacklisting is
open, so nothing slips in between a statement's snapshot and its answer; the commit then brings
about all facts of `Ban`.

`barred_agent_stays_out` is the result: along every run of orderly callers, whatever the
interleaving, an agent that is barred has no assignment of the tenant and no admitted status.
-/

namespace Paryty.Twin

open Lib (Covered Establishes)
open Lib.Prog (query beginTx)
open Lib.Table (find?_put find?_erase find?_eq_some mem_matching_of_find?)

variable {agent : AgentID} {tenant : TenantID}

/-! ## What is left of a blacklisting -/

section Left

variable (agent : AgentID) (tenant : TenantID) (reason actorID : String)
  (currentStatus : Option (Option EdgeAgentStatus))

/-- The log entry and the commit. -/
def logLeft : Session (Result Unit) := do
  let _ ← query (.insertStatusLog
    { agentID := agent, tenantID := tenant, reason, actorID
      fromStatus := statusOrUnknown currentStatus
      toStatus := "blacklisted" })
  commit

/-- From the update of the status on. -/
def updateLeft : Session (Result Unit) := do
  let _ ← query (.updateBlacklisted agent tenant reason)
  logLeft agent tenant reason actorID currentStatus

/-- From the removal of the assignment on. -/
def unassignLeft : Session (Result Unit) := do
  let _ ← query (.deleteAssignments agent)
  updateLeft agent tenant reason actorID currentStatus

/-- From the insert into the blacklist on. -/
def insertLeft : Session (Result Unit) := do
  let some _ ← query (.upsertBlacklist tenant agent reason)
    | return .error "insert blacklist"
  unassignLeft agent tenant reason actorID currentStatus

end Left

/-- Where a blacklisting stands and what its pending writes make sure of. -/
inductive Phase (agent : AgentID) (tenant : TenantID) (store : Store) : CallSession → Prop
  | asking {sess} {reason actorID} (prog : sess.prog = blacklistAgent agent tenant reason actorID)
      (tx : sess.tx = .idle) : Phase agent tenant store sess
  | beginning {sess} {reason actorID currentStatus}
      (prog : sess.prog = .begin (insertLeft agent tenant reason actorID currentStatus)) :
      Phase agent tenant store sess
  | inserting {sess} {reason actorID currentStatus}
      (prog : sess.prog = insertLeft agent tenant reason actorID currentStatus)
      (tx : sess.tx = .active []) : Phase agent tenant store sess
  | unassigning {sess} {reason actorID currentStatus pending}
      (prog : sess.prog = unassignLeft agent tenant reason actorID currentStatus)
      (tx : sess.tx = .active pending)
      (listed : Covered engine (Ban.Holds agent tenant) pending store .listed)
      (assignments : ∀ s, (pending.foldl engine.apply s).assignments = s.assignments)
      (registrations : ∀ s, (pending.foldl engine.apply s).registrations = s.registrations)
      (older : ∀ snapshot, sess.snapshot = some snapshot →
        ∀ twin, (Ban.noRow twin).Holds agent tenant snapshot →
          (Ban.noRow twin).Holds agent tenant store) :
      Phase agent tenant store sess
  | updating {sess} {reason actorID currentStatus pending}
      (prog : sess.prog = updateLeft agent tenant reason actorID currentStatus)
      (tx : sess.tx = .active pending)
      (listed : Covered engine (Ban.Holds agent tenant) pending store .listed)
      (rows : ∀ twin, Covered engine (Ban.Holds agent tenant) pending store (.noRow twin))
      (registrations : ∀ s, (pending.foldl engine.apply s).registrations = s.registrations)
      (older : ∀ snapshot, sess.snapshot = some snapshot →
        Ban.status.Holds agent tenant snapshot → Ban.status.Holds agent tenant store) :
      Phase agent tenant store sess
  | logging {sess} {reason actorID currentStatus pending}
      (prog : sess.prog = logLeft agent tenant reason actorID currentStatus)
      (tx : sess.tx = .active pending)
      (covered : ∀ j, Covered engine (Ban.Holds agent tenant) pending store j) :
      Phase agent tenant store sess
  | committing {sess} {pending} (prog : sess.prog = commit) (tx : sess.tx = .active pending)
      (covered : ∀ j, Covered engine (Ban.Holds agent tenant) pending store j) :
      Phase agent tenant store sess
  | aborted {sess} {reason actorID currentStatus}
      (prog : sess.prog = unassignLeft agent tenant reason actorID currentStatus ∨
        sess.prog = updateLeft agent tenant reason actorID currentStatus ∨
        sess.prog = logLeft agent tenant reason actorID currentStatus)
      (tx : sess.tx = .aborted) : Phase agent tenant store sess
  | rollingBack {sess} (prog : sess.prog = commit) (tx : sess.tx = .aborted) :
      Phase agent tenant store sess
  | failed {sess} {text} (prog : sess.prog = .ret (.error text)) : Phase agent tenant store sess
  | done {sess} (prog : sess.prog = .ret (.ok ())) (banned : Banned agent tenant store) :
      Phase agent tenant store sess

lemma Phase.mono {store store' : Store} {sess : CallSession} (h : Phase agent tenant store sess)
    (hkept : ∀ j : Ban, j.Holds agent tenant store → j.Holds agent tenant store') :
    Phase agent tenant store' sess := by
  cases h with
  | asking prog tx => exact .asking prog tx
  | beginning prog => exact .beginning prog
  | inserting prog tx => exact .inserting prog tx
  | unassigning prog tx listed assignments registrations older =>
    exact .unassigning prog tx (listed.mono (hkept _)) assignments registrations
      (fun snapshot hsnapshot twin hrow => hkept _ (older snapshot hsnapshot twin hrow))
  | updating prog tx listed rows registrations older =>
    exact .updating prog tx (listed.mono (hkept _)) (fun twin => (rows twin).mono (hkept _))
      registrations (fun snapshot hsnapshot hstatus => hkept _ (older snapshot hsnapshot hstatus))
  | logging prog tx covered => exact .logging prog tx (fun j => (covered j).mono (hkept j))
  | committing prog tx covered => exact .committing prog tx (fun j => (covered j).mono (hkept j))
  | aborted prog tx => exact .aborted prog tx
  | rollingBack prog tx => exact .rollingBack prog tx
  | failed prog => exact .failed prog
  | done prog banned => exact .done prog (fun j => hkept j (banned j))

/-! ## What the three statements establish -/

lemma establishes_listed (reason : String) :
    Establishes engine (Ban.Holds agent tenant)
      (.blacklist (.put { tenantID := tenant, edgeAgentID := agent, reason })) .listed := by
  intro s hnone
  have hfind : (s.blacklist.put { tenantID := tenant, edgeAgentID := agent, reason }).find?
      (tenant, agent) = none := hnone
  rw [find?_put] at hfind
  simp [BlacklistRow.key] at hfind

lemma establishes_noRow (twin : TwinID) :
    Establishes engine (Ban.Holds agent tenant) (.assignments (.erase (agent, twin)))
      (.noRow twin) := by
  intro s row hrow
  have hfind : (s.assignments.erase (agent, twin)).find? (agent, twin) = some row := hrow
  rw [find?_erase, if_pos rfl] at hfind
  exact absurd hfind (by simp)

lemma establishes_status {row : RegistrationRow} (hagent : row.agentID = agent)
    (hstatus : ¬ row.status.Admitted) :
    Establishes engine (Ban.Holds agent tenant) (.registrations (.put row)) .status := by
  intro s row' hrow _
  have hfind : (s.registrations.put row).find? agent = some row' := hrow
  rw [find?_put, if_pos hagent.symm] at hfind
  obtain rfl := Option.some.inj hfind
  exact hstatus

lemma covered_noRow {store snapshot current : Store} {pending : List Write}
    (hsame : current.assignments = store.assignments) {twin : TwinID}
    (holder : (Ban.noRow twin).Holds agent tenant snapshot →
      (Ban.noRow twin).Holds agent tenant store) :
    Covered engine (Ban.Holds agent tenant)
      (pending ++ (snapshot.assignments.deletes current.assignments
        (fun row => row.agentID = agent)).map Write.assignments) store (.noRow twin) := by
  by_cases hstore : (Ban.noRow twin).Holds agent tenant store
  · exact .inl hstore
  right
  -- The row is in the store, so it was in the snapshot: the delete has chosen it.
  obtain ⟨row, hrow⟩ : ∃ row, store.assignments.find? (agent, twin) = some row := by
    by_contra hnone
    exact hstore fun row hrow => absurd ⟨row, hrow⟩ hnone
  obtain ⟨row₀, hrow₀⟩ : ∃ row₀, snapshot.assignments.find? (agent, twin) = some row₀ := by
    by_contra hnone
    exact hstore (holder fun row hrow => absurd ⟨row, hrow⟩ hnone)
  obtain ⟨hmem₀, hkey₀⟩ := find?_eq_some.mp hrow₀
  have hkey : row.key = (agent, twin) := (find?_eq_some.mp hrow).2
  have hmem : row ∈ snapshot.assignments.matching current.assignments
      (fun row => row.agentID = agent) := by
    apply mem_matching_of_find? hmem₀
    · exact decide_eq_true (Prod.ext_iff.mp hkey₀).1
    · rw [hkey₀, hsame, hrow]
    · exact decide_eq_true (Prod.ext_iff.mp hkey).1
  refine ⟨.assignments (.erase (agent, twin)), ?_, establishes_noRow twin⟩
  apply List.mem_append_right
  apply List.mem_map_of_mem
  rw [← hkey]
  exact List.mem_map_of_mem hmem

lemma covered_status {store snapshot current : Store} {pending : List Write} {reason : String}
    (hsame : current.registrations = store.registrations)
    (holder : Ban.status.Holds agent tenant snapshot → Ban.status.Holds agent tenant store) :
    Covered engine (Ban.Holds agent tenant)
      (pending ++ (snapshot.registrations.updates current.registrations
        (RegistrationRow.is agent tenant)
        ({ · with status := .blacklisted, blacklistReason := reason })).map Write.registrations)
      store .status := by
  by_cases hstore : Ban.status.Holds agent tenant store
  · exact .inl hstore
  right
  have hwitness : ∀ s : Store, ¬ Ban.status.Holds agent tenant s →
      ∃ row, s.registrations.find? agent = some row ∧ row.tenantID = tenant := by
    intro s hnot
    by_contra hnone
    exact hnot fun row hrow htenant => absurd ⟨row, hrow, htenant⟩ hnone
  obtain ⟨row, hrow, htenant⟩ := hwitness store hstore
  obtain ⟨row₀, hrow₀, htenant₀⟩ := hwitness snapshot (fun h => hstore (holder h))
  obtain ⟨hmem₀, hkey₀⟩ := find?_eq_some.mp hrow₀
  have hkey : row.agentID = agent := (find?_eq_some.mp hrow).2
  have hmem : row ∈ snapshot.registrations.matching current.registrations
      (RegistrationRow.is agent tenant) := by
    apply mem_matching_of_find? hmem₀
    · simp [RegistrationRow.is, hkey₀, htenant₀]
    · rw [hkey₀, hsame, hrow]
    · simp [RegistrationRow.is, hkey, htenant]
  have hblacklisted : ¬ EdgeAgentStatus.Admitted .blacklisted := by decide
  refine ⟨.registrations (.put { row with status := .blacklisted, blacklistReason := reason }),
    ?_, establishes_status hkey hblacklisted⟩
  apply List.mem_append_right
  apply List.mem_map_of_mem
  exact List.mem_map.mpr ⟨row, hmem, rfl⟩

/-! ## The blacklisting moves on -/

lemma phase_of_commit {call : Operation} {tx : Lib.Tx Write} {snapshot : Option Store}
    {sess' : CallSession} {store store' : Store} {writes : List Write} {a : Lib.Act}
    (hact : (⟨call, commit, tx, snapshot⟩ : CallSession).act engine store a =
      some (sess', store', writes))
    (hcommits : ∀ pending, tx = .active pending →
      Banned agent tenant (pending.foldl engine.apply store)) :
    Phase agent tenant store' sess' := by
  rcases Lib.Session.act_commit hact with ⟨rfl, rfl⟩ | ⟨pending, -, htx, rfl, rfl⟩
  · exact .failed rfl
  · exact .done rfl (hcommits pending htx)

lemma Phase.act {sess sess' : CallSession} {store store' : Store} {writes : List Write}
    {a : Lib.Act} (h : Phase agent tenant store sess)
    (hact : sess.act engine store a = some (sess', store', writes))
    (hkeeps : ∀ write ∈ sess.tx.pending, Lib.Keeps engine (Ban.Holds agent tenant) write) :
    Phase agent tenant store' sess' := by
  obtain ⟨call, prog, tx, snapshot⟩ := sess
  cases h with
  | @asking reason actorID hprog htx =>
    obtain rfl : prog = _ := hprog
    obtain rfl : tx = _ := htx
    -- Whether the status was read, and whether the read failed, the call goes on or refuses.
    have hnext : ∀ currentStatus, Phase agent tenant store
        ⟨call, if currentStatus = some (some EdgeAgentStatus.blacklisted) then
            .ret (.error ("agent " ++ agent ++ " is already blacklisted"))
          else .begin (insertLeft agent tenant reason actorID currentStatus), .idle, none⟩ := by
      intro currentStatus
      split
      · exact .failed rfl
      · exact .beginning rfl
    rcases Lib.Session.act_stmt_idle hact with ⟨-, -, rfl, rfl⟩ |
      ⟨snap, status, made, -, -, hrun, rfl, rfl⟩ | ⟨-, rfl, rfl⟩
    · exact .asking rfl rfl
    · obtain ⟨-, rfl⟩ := Prod.mk.inj (Option.some.inj hrun)
      exact hnext (some status)
    · exact hnext none
  | beginning hprog =>
    obtain rfl : prog = _ := hprog
    obtain ⟨rfl, rfl⟩ := Lib.Session.act_begin hact
    exact .inserting rfl rfl
  | @inserting reason actorID currentStatus hprog htx =>
    obtain rfl : prog = _ := hprog
    obtain rfl : tx = _ := htx
    obtain ⟨rfl, ⟨-, rfl⟩ | ⟨snap, n, made, -, hrun, rfl⟩ | rfl⟩ := Lib.Session.act_stmt hact
    · exact .inserting rfl rfl
    · obtain ⟨-, rfl⟩ := Prod.mk.inj (Option.some.inj hrun)
      refine .unassigning rfl rfl ?_ (fun _ => rfl) (fun _ => rfl) (by simp)
      exact .inr ⟨_, by simp, establishes_listed reason⟩
    · exact .failed rfl
  | @unassigning reason actorID currentStatus pending hprog htx listed hassignments
      hregistrations older =>
    obtain rfl : prog = _ := hprog
    obtain rfl : tx = _ := htx
    obtain ⟨rfl, ⟨-, rfl⟩ | ⟨snap, n, made, hsnap, hrun, rfl⟩ | rfl⟩ := Lib.Session.act_stmt hact
    · refine .unassigning rfl rfl listed hassignments hregistrations (fun snap hsnap twin hrow => ?_)
      obtain rfl := Option.some.inj hsnap
      intro row hfind
      exact hrow row (by rwa [hassignments])
    · obtain ⟨-, rfl⟩ := Prod.mk.inj (Option.some.inj hrun)
      refine .updating rfl rfl (listed.append _) (fun twin => ?_) (fun s => ?_) (by simp)
      · exact covered_noRow (hassignments _) (older snap hsnap twin)
      · rw [List.foldl_append, registrations_foldl_assignments, hregistrations]
    · exact .aborted (.inr (.inl rfl)) rfl
  | @updating reason actorID currentStatus pending hprog htx listed rows hregistrations older =>
    obtain rfl : prog = _ := hprog
    obtain rfl : tx = _ := htx
    obtain ⟨rfl, ⟨-, rfl⟩ | ⟨snap, n, made, hsnap, hrun, rfl⟩ | rfl⟩ := Lib.Session.act_stmt hact
    · refine .updating rfl rfl listed rows hregistrations (fun snap hsnap hstatus => ?_)
      obtain rfl := Option.some.inj hsnap
      intro row hfind
      exact hstatus row (by rwa [hregistrations])
    · obtain ⟨-, rfl⟩ := Prod.mk.inj (Option.some.inj hrun)
      refine .logging rfl rfl (fun j => ?_)
      cases j with
      | listed => exact listed.append _
      | noRow twin => exact (rows twin).append _
      | status => exact covered_status (hregistrations _) (older snap hsnap)
    · exact .aborted (.inr (.inr rfl)) rfl
  | @logging reason actorID currentStatus pending hprog htx covered =>
    obtain rfl : prog = _ := hprog
    obtain rfl : tx = _ := htx
    obtain ⟨rfl, ⟨-, rfl⟩ | ⟨snap, n, made, -, -, rfl⟩ | rfl⟩ := Lib.Session.act_stmt hact
    · exact .logging rfl rfl covered
    · exact .committing rfl rfl (fun j => (covered j).append _)
    · exact .rollingBack rfl rfl
  | @committing pending hprog htx covered =>
    obtain rfl : prog = _ := hprog
    obtain rfl : tx = _ := htx
    refine phase_of_commit hact fun pending' htx => ?_
    obtain rfl : pending = pending' := by simpa using htx
    exact fun j => (covered j).commit hkeeps
  | @aborted reason actorID currentStatus hprog htx =>
    obtain rfl : tx = _ := htx
    have hprog : prog = _ ∨ prog = _ ∨ prog = _ := hprog
    rcases hprog with rfl | rfl | rfl
    · obtain ⟨rfl, rfl | rfl⟩ := Lib.Session.act_stmt_aborted hact
      · exact .aborted (.inl rfl) rfl
      · exact .aborted (.inr (.inl rfl)) rfl
    · obtain ⟨rfl, rfl | rfl⟩ := Lib.Session.act_stmt_aborted hact
      · exact .aborted (.inr (.inl rfl)) rfl
      · exact .aborted (.inr (.inr rfl)) rfl
    · obtain ⟨rfl, rfl | rfl⟩ := Lib.Session.act_stmt_aborted hact
      · exact .aborted (.inr (.inr rfl)) rfl
      · exact .rollingBack rfl rfl
  | rollingBack hprog htx =>
    obtain rfl : prog = _ := hprog
    obtain rfl : tx = _ := htx
    exact phase_of_commit hact fun pending htx => absurd htx (by simp)
  | failed hprog =>
    obtain rfl : prog = _ := hprog
    cases a <;> simp [Lib.Session.act] at hact
  | done hprog banned =>
    obtain rfl : prog = _ := hprog
    cases a <;> simp [Lib.Session.act] at hact

lemma Phase.banned {sess : CallSession} {store : Store} (h : Phase agent tenant store sess)
    (hret : sess.prog = .ret (.ok ())) : Banned agent tenant store := by
  cases h with
  | done prog banned => exact banned
  | failed prog => rw [hret] at prog; cases prog
  | asking prog tx => rw [hret] at prog; cases prog
  | beginning prog => rw [hret] at prog; cases prog
  | inserting prog tx => rw [hret] at prog; cases prog
  | unassigning prog tx => rw [hret] at prog; cases prog
  | updating prog tx => rw [hret] at prog; cases prog
  | logging prog tx => rw [hret] at prog; cases prog
  | committing prog tx => rw [hret] at prog; cases prog
  | aborted prog tx =>
    rw [hret] at prog
    rcases prog with prog | prog | prog <;> cases prog
  | rollingBack prog tx => rw [hret] at prog; cases prog

/-! ## Runs -/

namespace Watched

variable {ι : Type}

/-- What holds between the events of orderly callers. -/
structure Inv (agent : AgentID) (tenant : TenantID) (w : Watched ι) : Prop where
  /-- Sessions that do not readmit the agent keep the facts, come what may. -/
  clean : ∀ i sess, w.server.sessions i = some sess → ¬ Readmits agent tenant sess.call →
    SafeSession agent tenant (fun _ => True) sess
  /-- The others are open next to a blacklisting only if the agent was barred before they were
  called, and then keep the facts as well. -/
  readmitting : w.Watching agent tenant → ∀ i sess, w.server.sessions i = some sess →
    Readmits agent tenant sess.call →
      w.barred = true ∧ SafeSession agent tenant (Banned agent tenant) sess
  banned : w.barred = true → Banned agent tenant w.server.store
  phases : ∀ i sess, w.server.sessions i = some sess → Blacklists agent tenant sess.call →
    Phase agent tenant w.server.store sess

lemma inv_init : (init : Watched ι).Inv agent tenant where
  clean i sess h := absurd h (by simp [init, Lib.Server.init])
  readmitting _ i sess h := absurd h (by simp [init, Lib.Server.init])
  banned h := absurd h (by simp [init])
  phases i sess h := absurd h (by simp [init, Lib.Server.init])

lemma not_readmits_of_blacklists {op : Operation} (h : Blacklists agent tenant op) :
    ¬ Readmits agent tenant op := by
  cases op <;> first | exact h.elim | exact fun h' => h'

lemma readmits_of_unregisters {op : Operation} (h : Unregisters agent tenant op = true) :
    Readmits agent tenant op := by
  cases op with
  | unregisterAgent agentID tenantID actorID =>
    obtain ⟨hagent, htenant⟩ := Bool.and_eq_true_iff.mp h
    exact ⟨of_decide_eq_true hagent, of_decide_eq_true htenant⟩
  | _ => exact absurd h (by simp [Unregisters])

lemma blacklists_of_bars {sess : CallSession} (h : Bars agent tenant sess = true) :
    Blacklists agent tenant sess.call ∧ sess.prog = .ret (.ok ()) := by
  obtain ⟨call, prog, tx, snapshot⟩ := sess
  cases call with
  | blacklistAgent agentID tenantID reason actorID =>
    cases prog with
    | ret result =>
      cases result with
      | ok value =>
        obtain ⟨hagent, htenant⟩ := Bool.and_eq_true_iff.mp h
        exact ⟨⟨of_decide_eq_true hagent, of_decide_eq_true htenant⟩, rfl⟩
      | error text => exact absurd h (by simp [Bars])
    | _ => exact absurd h (by simp [Bars])
  | _ => exact absurd h (by simp [Bars])

variable [DecidableEq ι] {w w' : Watched ι} {i : ι}

lemma inv_call {op : Operation} (hinv : w.Inv agent tenant)
    (horderly : Orderly agent tenant w (.call i op))
    (hstep : w.step agent tenant (.call i op) = some w') : w'.Inv agent tenant := by
  obtain ⟨server, hserver, rfl⟩ := Option.map_eq_some_iff.mp hstep
  obtain ⟨hfree, hstore, hsessions⟩ := Lib.Server.step_call hserver
  obtain ⟨hblacklist, hreadmit, hunchecked, hunregister⟩ := horderly
  have hstay : ∀ op', (w.barred && !Unregisters agent tenant op') = true → w.barred = true := by
    intro op' h
    exact (Bool.and_eq_true_iff.mp h).1
  -- Whoever is watched afterwards was watched before, or is being blacklisted by this call.
  have hwatching : Watching agent tenant ⟨server, w.barred && !Unregisters agent tenant op⟩ →
      (w.Watching agent tenant ∧ Unregisters agent tenant op = false) ∨
        Blacklists agent tenant op := by
    intro h
    have hunregisters : w.Open (Blacklists agent tenant) → Unregisters agent tenant op = false := by
      intro hopen
      by_contra h
      exact hunregister (by simpa using h) hopen
    rcases h with hbarred | ⟨j, sess, hsess, hcall⟩
    · obtain ⟨hb, hn⟩ := Bool.and_eq_true_iff.mp hbarred
      exact .inl ⟨.inl hb, by simpa using hn⟩
    · rw [hsessions] at hsess
      rcases Lib.eq_of_update hsess with ⟨rfl, hnew⟩ | ⟨-, hold⟩
      · obtain rfl := Option.some.inj hnew
        exact .inr hcall
      · exact .inl ⟨.inr ⟨j, sess, hold, hcall⟩, hunregisters ⟨j, sess, hold, hcall⟩⟩
  constructor
  · intro j sess hsess hcall
    rw [hsessions] at hsess
    rcases Lib.eq_of_update hsess with ⟨rfl, hnew⟩ | ⟨-, hold⟩
    · obtain rfl := Option.some.inj hnew
      exact safe_program hcall
    · exact hinv.clean j sess hold hcall
  · intro hafter j sess hsess hcall
    rw [hsessions] at hsess
    rcases Lib.eq_of_update hsess with ⟨rfl, hnew⟩ | ⟨-, hold⟩
    · obtain rfl := Option.some.inj hnew
      rcases hwatching hafter with ⟨hbefore, hstays⟩ | hblacklists
      · have hbarred : w.barred = true := by
          rcases hreadmit hcall with h | hnone
          · exact h
          · exact hbefore.resolve_right hnone
        have hchecked : ¬ Unchecked agent tenant op := by
          intro h
          rw [hunchecked h] at hbarred
          exact absurd hbarred (by simp)
        exact ⟨by simp [barredAfter, hbarred, hstays], safe_readmits hcall hchecked hstays⟩
      · exact absurd hcall (not_readmits_of_blacklists hblacklists)
    · rcases hwatching hafter with ⟨hbefore, hstays⟩ | hblacklists
      · obtain ⟨hbarred, hsafe⟩ := hinv.readmitting hbefore j sess hold hcall
        exact ⟨by simp [barredAfter, hbarred, hstays], hsafe⟩
      · rcases hblacklist hblacklists with hbarred | hnone
        · obtain ⟨-, hsafe⟩ := hinv.readmitting (.inl hbarred) j sess hold hcall
          have hstays : Unregisters agent tenant op = false := by
            by_contra h
            exact not_readmits_of_blacklists hblacklists
              (readmits_of_unregisters (by simpa using h))
          exact ⟨by simp [barredAfter, hbarred, hstays], hsafe⟩
        · exact absurd ⟨j, sess, hold, hcall⟩ hnone
  · intro hbarred
    show Banned agent tenant server.store
    rw [hstore]
    exact hinv.banned (hstay op hbarred)
  · intro j sess hsess hcall
    show Phase agent tenant server.store sess
    rw [hsessions] at hsess
    rw [hstore]
    rcases Lib.eq_of_update hsess with ⟨rfl, hnew⟩ | ⟨-, hold⟩
    · obtain rfl := Option.some.inj hnew
      cases op with
      | blacklistAgent agentID tenantID reason actorID =>
        obtain ⟨rfl, rfl⟩ := hcall
        exact .asking rfl rfl
      | _ => exact hcall.elim
    · exact hinv.phases j sess hold hcall

lemma inv_act {a : Lib.Act} (hinv : w.Inv agent tenant)
    (horderly : Orderly agent tenant w (.act i a))
    (hstep : w.step agent tenant (.act i a) = some w') : w'.Inv agent tenant := by
  obtain ⟨server, hserver, rfl⟩ := Option.map_eq_some_iff.mp hstep
  obtain ⟨sess, sess', writes, hsess, hact, hsessions⟩ := Lib.Server.step_act hserver
  have hcall : sess'.call = sess.call := Lib.Session.call_act hact
  -- The same calls are open.
  have hopen : ∀ j t, server.sessions j = some t →
      ∃ t₀, w.server.sessions j = some t₀ ∧ t₀.call = t.call := by
    intro j t ht
    rw [hsessions] at ht
    rcases Lib.eq_of_update ht with ⟨rfl, hnew⟩ | ⟨-, hold⟩
    · obtain rfl := Option.some.inj hnew
      exact ⟨sess, hsess, hcall.symm⟩
    · exact ⟨t, hold, rfl⟩
  have hwatching : Watching agent tenant ⟨server, w.barred⟩ → w.Watching agent tenant := by
    rintro (hbarred | ⟨j, t, ht, hblacklists⟩)
    · exact .inl hbarred
    · obtain ⟨t₀, ht₀, heq⟩ := hopen j t ht
      exact .inr ⟨j, t₀, ht₀, by rwa [heq]⟩
  have hpermitted : w.Watching agent tenant → a = .answer →
      sess.Permitted (Registered agent tenant) w.server.store := by
    rintro hwatch rfl
    exact horderly hwatch sess hsess
  -- What the session does, by the kind of its call.
  have hclean : ¬ Readmits agent tenant sess.call →
      SafeSession agent tenant (fun _ => True) sess' := by
    intro hnot
    exact ((hinv.clean i sess hsess hnot).act hact (fun _ => trivial)).1
  have hreadmitting : w.Watching agent tenant → Readmits agent tenant sess.call →
      SafeSession agent tenant (Banned agent tenant) sess' := by
    intro hwatch hreadmits
    obtain ⟨hbarred, hsafe⟩ := hinv.readmitting hwatch i sess hsess hreadmits
    have hview : Banned agent tenant (sess.view engine w.server.store) :=
      fun j => hsafe.view j (hinv.banned hbarred j)
    exact (hsafe.act hact (fun _ => hview)).1
  have hkept : w.Watching agent tenant → ∀ j : Ban, j.Holds agent tenant w.server.store →
      j.Holds agent tenant server.store := by
    intro hwatch
    by_cases hreadmits : Readmits agent tenant sess.call
    · obtain ⟨hbarred, hsafe⟩ := hinv.readmitting hwatch i sess hsess hreadmits
      have hview : Banned agent tenant (sess.view engine w.server.store) :=
        fun j => hsafe.view j (hinv.banned hbarred j)
      exact (hsafe.act hact (fun _ => hview)).2.2 (hpermitted hwatch)
    · exact ((hinv.clean i sess hsess hreadmits).act hact (fun _ => trivial)).2.2
        (hpermitted hwatch)
  constructor
  · intro j t ht hnot
    rw [hsessions] at ht
    rcases Lib.eq_of_update ht with ⟨rfl, hnew⟩ | ⟨-, hold⟩
    · obtain rfl := Option.some.inj hnew
      exact hclean (by rwa [← hcall])
    · exact hinv.clean j t hold hnot
  · intro hafter j t ht hreadmits
    have hwatch := hwatching hafter
    rw [hsessions] at ht
    rcases Lib.eq_of_update ht with ⟨rfl, hnew⟩ | ⟨-, hold⟩
    · obtain rfl := Option.some.inj hnew
      have hbefore : Readmits agent tenant sess.call := by rwa [← hcall]
      exact ⟨(hinv.readmitting hwatch j sess hsess hbefore).1, hreadmitting hwatch hbefore⟩
    · exact hinv.readmitting hwatch j t hold hreadmits
  · intro hbarred j
    exact hkept (.inl hbarred) j (hinv.banned hbarred j)
  · intro j t ht hblacklists
    have hwatch : w.Watching agent tenant := hwatching (.inr ⟨j, t, ht, hblacklists⟩)
    rw [hsessions] at ht
    rcases Lib.eq_of_update ht with ⟨rfl, hnew⟩ | ⟨-, hold⟩
    · obtain rfl := Option.some.inj hnew
      have hbefore : Blacklists agent tenant sess.call := by rwa [← hcall]
      have hpending := (hinv.clean j sess hsess (not_readmits_of_blacklists hbefore)).pending
      exact (hinv.phases j sess hsess hbefore).act hact hpending
    · exact (hinv.phases j t hold hblacklists).mono (hkept hwatch)

lemma inv_finish (hinv : w.Inv agent tenant)
    (hstep : w.step agent tenant (.finish i) = some w') : w'.Inv agent tenant := by
  obtain ⟨server, hserver, rfl⟩ := Option.map_eq_some_iff.mp hstep
  obtain ⟨sess, result, hsess, hret, hstore, hsessions⟩ := Lib.Server.step_finish hserver
  have hold : ∀ j t, server.sessions j = some t → w.server.sessions j = some t := by
    intro j t ht
    rw [hsessions] at ht
    rcases Lib.eq_of_update ht with ⟨-, hnone⟩ | ⟨-, hold⟩
    · exact absurd hnone (by simp)
    · exact hold
  have hbars : (w.barred || (w.server.sessions i).any (Bars agent tenant)) = true →
      w.barred = true ∨ Bars agent tenant sess = true := by
    intro h
    rw [hsess] at h
    simpa using h
  have hwatching : Watching agent tenant ⟨server, w.barredAfter agent tenant (.finish i)⟩ →
      w.Watching agent tenant := by
    rintro (hbarred | ⟨j, t, ht, hblacklists⟩)
    · rcases hbars hbarred with h | h
      · exact .inl h
      · exact .inr ⟨i, sess, hsess, (blacklists_of_bars h).1⟩
    · exact .inr ⟨j, t, hold j t ht, hblacklists⟩
  constructor
  · intro j t ht hnot
    exact hinv.clean j t (hold j t ht) hnot
  · intro hafter j t ht hreadmits
    obtain ⟨hbarred, hsafe⟩ := hinv.readmitting (hwatching hafter) j t (hold j t ht) hreadmits
    exact ⟨by simp [barredAfter, hbarred], hsafe⟩
  · intro hbarred
    show Banned agent tenant server.store
    rw [hstore]
    rcases hbars hbarred with h | h
    · exact hinv.banned h
    · obtain ⟨hblacklists, hok⟩ := blacklists_of_bars h
      exact (hinv.phases i sess hsess hblacklists).banned hok
  · intro j t ht hblacklists
    show Phase agent tenant server.store t
    rw [hstore]
    exact hinv.phases j t (hold j t ht) hblacklists

lemma inv_step {e : Lib.ServerEvent ι Operation} (hinv : w.Inv agent tenant)
    (horderly : Orderly agent tenant w e) (hstep : w.step agent tenant e = some w') :
    w'.Inv agent tenant := by
  cases e with
  | call i op => exact inv_call hinv horderly hstep
  | act i a => exact inv_act hinv horderly hstep
  | finish i => exact inv_finish hinv hstep

end Watched

/-- The facts of `Ban` keep the agent out. -/
lemma keptOut_of_banned {s : Store} (h : Banned agent tenant s) : KeptOut agent tenant s := by
  constructor
  · rintro row hrow ⟨rfl, rfl⟩
    exact h (.noRow row.twinID) row (find?_eq_some.mpr ⟨hrow, rfl⟩) rfl
  · rintro row hrow rfl htenant
    exact h .status row (find?_eq_some.mpr ⟨hrow, rfl⟩) htenant

/-- Blacklist permanence. In every run of orderly callers, from the moment a blacklisting has
returned and until an unregistration is called, the agent has no assignment of the tenant and no
admitted status. -/
theorem barred_agent_stays_out {ι : Type} [DecidableEq ι] (agent : AgentID) (tenant : TenantID)
    {es : List (Lib.ServerEvent ι Operation)} {w : Watched ι}
    (run : Lib.Run (Watched.step agent tenant) (Orderly agent tenant) Watched.init es w)
    (hbarred : w.barred = true) : KeptOut agent tenant w.server.store := by
  have hinv : w.Inv agent tenant := by
    refine run.invariant (fun w e w' hinv horderly hstep => ?_) Watched.inv_init
    exact Watched.inv_step hinv horderly hstep
  exact keptOut_of_banned (hinv.banned hbarred)

/-- A call from its start to its end, with the actions of its session. -/
def served {ι : Type} (i : ι) (op : Operation) (acts : List Lib.Act) :
    List (Lib.ServerEvent ι Operation) :=
  [.call i op] ++ acts.map (.act i) ++ [.finish i]

/-- An agent registers and is blacklisted; then an operator tries to pair it. -/
theorem barred_agent_stays_out_witness : ∃ w : Watched (Fin 1),
    w.barred = true ∧ KeptOut "a1" "acme" w.server.store := by
  let es : List (Lib.ServerEvent (Fin 1) Operation) :=
    served 0 (.upsertAgentRegistration "a1" "acme" "host" "client") [.issue, .answer] ++
    served 0 (.blacklistAgent "a1" "acme" "stolen" "u1")
      [.issue, .answer, .control, .issue, .answer, .issue, .answer, .issue, .answer, .issue,
        .answer, .control] ++
    served 0 (.pairAgent "a1" "t1" "acme" "u1") [.issue, .answer]
  have hfold : (es.foldlM (Lib.restrict (Watched.step "a1" "acme") (Orderly "a1" "acme"))
      Watched.init).map Watched.barred = some true := by decide +kernel
  obtain ⟨w, hw, hbarred⟩ := Option.map_eq_some_iff.mp hfold
  exact ⟨w, hbarred, barred_agent_stays_out "a1" "acme"
    (Lib.run_iff_foldlM_restrict.mpr hw) hbarred⟩

/-- A blacklisted agent comes back with a twin id: its registration assigns it again. -/
theorem barred_agent_registers_again :
    ¬ ∀ (agent : AgentID) (tenant : TenantID) (es : List (Lib.ServerEvent ℕ Operation))
      (w : Watched ℕ), Lib.Run (Watched.step agent tenant) Lib.Unguarded Watched.init es w →
        w.barred = true → KeptOut agent tenant w.server.store := by
  intro h
  let es : List (Lib.ServerEvent ℕ Operation) :=
    served 0 (.createTwin "t1" "acme" "prod" "") [.issue, .answer, .issue, .answer] ++
    served 0 (.upsertAgentRegistration "a1" "acme" "host" "client") [.issue, .answer] ++
    served 0 (.blacklistAgent "a1" "acme" "stolen" "u1")
      [.issue, .answer, .control, .issue, .answer, .issue, .answer, .issue, .answer, .issue,
        .answer, .control] ++
    served 0 (.registerAgent "a1" "t1" "acme" "client" "topic")
      [.issue, .answer, .issue, .answer, .issue, .answer]
  let row : AssignmentRow := ⟨"a1", "t1", "acme", "client", "topic"⟩
  have hfold : (es.foldlM (Watched.step "a1" "acme") Watched.init).map
      (fun w => (w.barred, w.server.store.assignments.find? row.key)) = some (true, some row) := by
    decide +kernel
  obtain ⟨w, hw, hfinal⟩ := Option.map_eq_some_iff.mp hfold
  obtain ⟨hbarred, hrow⟩ := Prod.mk.inj hfinal
  have hkept := h "a1" "acme" es w (Lib.run_iff_foldlM.mpr hw) hbarred
  exact hkept.1 row (find?_eq_some.mp hrow).1 ⟨rfl, rfl⟩

end Paryty.Twin

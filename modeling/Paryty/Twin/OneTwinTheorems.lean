import Paryty.Twin.OneTwin
import Paryty.Twin.BlacklistPermanence

/-!
# One twin per agent: theorems

Where a session stands between its DELETE and its INSERT, what an action of its own does to that
and what an action of another session does. From the two follows that an agent never has two
assignments in a run that respects `Exclusive`.
-/

namespace Paryty.Twin

open Lib.Table (find?_eq_some)

variable {agent : AgentID}

/-! ## A session that assigns the agent -/

/-- A snapshot is that of a statement, and a DELETE has in it every assignment of the agent. -/
def Saw (agent : AgentID) (s snap : Store) {ρ : Type} : Session ρ → Prop
  | .stmt q _ => q.clears agent = true → NoMore agent s snap
  | _ => False

/-- Where a call that assigns the agent stands: as the session sees the tables, the agent has at
most one assignment, and none between the DELETE and the INSERT. -/
structure Assigning (agent : AgentID) (s : Store) (sess : CallSession) (cleared : Bool) :
    Prop where
  prog : Disciplined agent cleared sess.prog
  cleared : cleared = true → ∀ twin, ¬ Assigned agent (sess.view engine s) twin
  one : OneTwin agent (sess.view engine s)
  snapshot : ∀ snap, sess.snapshot = some snap → Saw agent (sess.view engine s) snap sess.prog

namespace Assigning

variable {s s' : Store} {sess sess' : CallSession} {cleared : Bool}

lemma noMore (h : Assigning agent s sess cleared) (hless : NoMore agent s' s) :
    Assigning agent s' sess cleared := by
  have hview : NoMore agent (sess.view engine s') (sess.view engine s) := noMore_foldl hless _
  refine ⟨h.prog, fun hcleared twin htwin => ?_, h.one.noMore hview, fun snap hsnap => ?_⟩
  · exact h.cleared hcleared twin (hview twin htwin)
  · have hsaw := h.snapshot snap hsnap
    obtain ⟨call, prog, tx, snapshot⟩ := sess
    cases prog with
    | stmt q k => exact fun hq => hview.trans (hsaw hq)
    | _ => exact hsaw

/-- Before its DELETE and after its end nothing another session does to the assignments of the
agent matters, as long as there is one at most. -/
lemma appear (h : Assigning agent s sess cleared) (hcall : Assigns agent sess.call)
    (hmid : ¬ MidAssignment agent sess) (hone : OneTwin agent s') :
    Assigning agent s' sess false := by
  have hpending : ∀ w ∈ sess.tx.pending, w.places agent = false := by
    intro w hw
    by_contra hplaces
    exact hmid ⟨hcall, .inr ⟨w, hw, by simpa using hplaces⟩⟩
  refine ⟨?_, by simp, hone.noMore (noMore_of_places hpending), fun snap hsnap => ?_⟩
  · have hdisciplined := h.prog
    obtain ⟨call, prog, tx, snapshot⟩ := sess
    cases prog with
    | stmt q k =>
      refine Disciplined.weaken hdisciplined ?_
      by_contra hplaces
      exact hmid ⟨hcall, .inl (.inl (by simpa using hplaces))⟩
    | _ => exact hdisciplined
  · have hsaw := h.snapshot snap hsnap
    obtain ⟨call, prog, tx, snapshot⟩ := sess
    obtain rfl : snapshot = some snap := hsnap
    cases prog with
    | stmt q k => exact fun hq => absurd ⟨hcall, .inl (.inr ⟨hq, rfl⟩)⟩ hmid
    | _ => exact hsaw

lemma between {p : Session (Result Unit)} {call : Operation} (hprog : Disciplined agent false p)
    (hone : OneTwin agent s) : Assigning agent s ⟨call, p, .idle, none⟩ false :=
  ⟨hprog, by simp, hone, by simp⟩

lemma run {β : Type} {q : Sql β} {k : Option β → Session (Result Unit)} {current snap : Store}
    {answer : β} {writes : List Write} (hprog : Disciplined agent cleared (.stmt q k))
    (hcleared : cleared = true → ∀ twin, ¬ Assigned agent current twin)
    (hone : OneTwin agent current) (hsaw : q.clears agent = true → NoMore agent current snap)
    (hrun : engine.run q snap current = some (answer, writes)) :
    (q.clears agent = true → ∀ twin, ¬ Assigned agent (writes.foldl Store.apply current) twin) ∧
      OneTwin agent (writes.foldl Store.apply current) ∧
      (q.places agent = true → q.inserts current = true) := by
  refine ⟨fun hq => cleared_of_run hrun hq (hsaw hq), ?_⟩
  by_cases hq : q.places agent = true
  · obtain ⟨hplaced, hinserts⟩ := placed_of_run hrun hq (hcleared (hprog.1 hq))
    exact ⟨hplaced, fun _ => hinserts⟩
  · have hnothing := places_of_run hrun (by simpa using hq)
    exact ⟨hone.noMore (noMore_of_places hnothing), fun h => absurd h hq⟩

/-- An action of the session. Either the agent has no assignment it did not have before, or with
the action its assignment appears and is the only one. -/
lemma act {a : Lib.Act} {writes : List Write} (h : Assigning agent s sess cleared)
    (hone : OneTwin agent s) (hact : sess.act engine s a = some (sess', s', writes)) :
    (∃ cleared', Assigning agent s' sess' cleared') ∧
      (NoMore agent s' s ∨ (Appears agent s sess a ∧ OneTwin agent s')) := by
  obtain ⟨call, prog, tx, snapshot⟩ := sess
  obtain ⟨hprog, hcleared, hview, hsnapshot⟩ := h
  have hsame : NoMore agent s s := .refl s
  cases prog with
  | ret r => simp at hact
  | begin k =>
    obtain ⟨rfl, rfl⟩ := Lib.Session.act_begin hact
    refine ⟨⟨false, hprog, by simp, hone, fun snap hsnap => ?_⟩, .inl hsame⟩
    exact (hsnapshot snap hsnap).elim
  | commit k =>
    have hnone : snapshot = none := by
      cases snapshot with
      | none => rfl
      | some snap => exact (hsnapshot snap rfl).elim
    subst hnone
    rcases Lib.Session.act_commit hact with ⟨rfl, rfl⟩ | ⟨pending, rfl, rfl, rfl, rfl⟩
    · exact ⟨⟨false, between (hprog false) hone⟩, .inl hsame⟩
    · refine ⟨⟨false, between (hprog true) hview⟩, ?_⟩
      by_cases hplaces : ∃ w ∈ pending, w.places agent = true
      · exact .inr ⟨hplaces, hview⟩
      · push Not at hplaces
        exact .inl (noMore_of_places fun w hw => by simpa using hplaces w hw)
  | stmt q k =>
    -- The statement sees its own snapshot, taken when it is issued.
    have hissued : ∀ view : Store, ∀ snap, some view = some snap →
        Saw agent view snap (.stmt q k) := by
      intro view snap hsnap _
      obtain rfl := Option.some.inj hsnap
      exact .refl view
    cases tx with
    | idle =>
      rcases Lib.Session.act_stmt_idle hact with ⟨-, -, rfl, rfl⟩ |
        ⟨snap, answer, made, rfl, rfl, hrun, rfl, rfl⟩ | ⟨-, rfl, rfl⟩
      · exact ⟨⟨cleared, hprog, hcleared, hview, hissued _⟩, .inl hsame⟩
      · obtain ⟨hclears, hone', hinserts⟩ := run hprog hcleared hone (hsnapshot snap rfl) hrun
        refine ⟨⟨q.clears agent, hprog.2.1 answer, hclears, hone', by simp⟩, ?_⟩
        by_cases hq : q.places agent = true
        · exact .inr ⟨⟨hq, hinserts hq⟩, hone'⟩
        · exact .inl (noMore_of_places (places_of_run hrun (by simpa using hq)))
      · exact ⟨⟨false, between hprog.2.2 hone⟩, .inl hsame⟩
    | active pending =>
      obtain ⟨rfl, ⟨-, rfl⟩ | ⟨snap, answer, made, rfl, hrun, rfl⟩ | rfl⟩ :=
        Lib.Session.act_stmt hact
      · exact ⟨⟨cleared, hprog, hcleared, hview, hissued _⟩, .inl hsame⟩
      · obtain ⟨hclears, hone', -⟩ := run hprog hcleared hview (hsnapshot snap rfl) hrun
        have happend : Lib.Session.view engine
            ⟨call, k (some answer), .active (pending ++ made), none⟩ s' =
            made.foldl Store.apply (pending.foldl Store.apply s') := List.foldl_append
        refine ⟨⟨q.clears agent, hprog.2.1 answer, ?_, ?_, by simp⟩, .inl hsame⟩
        · rwa [happend]
        · rwa [happend]
      · exact ⟨⟨false, hprog.2.2, by simp, hone, by simp⟩, .inl hsame⟩
    | aborted =>
      obtain ⟨rfl, rfl | rfl⟩ := Lib.Session.act_stmt_aborted hact
      · exact ⟨⟨cleared, hprog, hcleared, hview, hissued _⟩, .inl hsame⟩
      · exact ⟨⟨false, hprog.2.2, by simp, hone, by simp⟩, .inl hsame⟩

end Assigning

/-! ## Runs -/

/-- What holds between the events of a run. -/
structure OneTwinInv {ι : Type} (agent : AgentID) (d : Database ι) : Prop where
  one : OneTwin agent d.store
  assigning : ∀ i sess, d.sessions i = some sess → Assigns agent sess.call →
    ∃ cleared, Assigning agent d.store sess cleared
  others : ∀ i sess, d.sessions i = some sess → ¬ Assigns agent sess.call →
    sess.prog.All (fun {_} _ q => q.places agent = false) sess.inTx ∧
      ∀ w ∈ sess.tx.pending, w.places agent = false

namespace OneTwinInv

variable {ι : Type} [DecidableEq ι] {d d' : Database ι} {i : ι}

omit [DecidableEq ι] in
lemma init : OneTwinInv agent (.init {} : Database ι) := by
  refine ⟨fun row hrow => ?_, fun i sess h => absurd h (by simp [Lib.Server.init]),
    fun i sess h => absurd h (by simp [Lib.Server.init])⟩
  exact absurd hrow List.not_mem_nil

lemma call {op : Operation} (hinv : OneTwinInv agent d)
    (hstep : d.step engine Operation.program (.call i op) = some d') : OneTwinInv agent d' := by
  obtain ⟨-, hstore, hsessions⟩ := Lib.Server.step_call hstep
  constructor
  · rw [hstore]
    exact hinv.one
  · intro j sess hsess hcall
    rw [hsessions] at hsess
    rw [hstore]
    rcases Lib.eq_of_update hsess with ⟨rfl, hnew⟩ | ⟨-, hold⟩
    · obtain rfl := Option.some.inj hnew
      exact ⟨false, .between (disciplined_program op hcall) hinv.one⟩
    · exact hinv.assigning j sess hold hcall
  · intro j sess hsess hcall
    rw [hsessions] at hsess
    rcases Lib.eq_of_update hsess with ⟨rfl, hnew⟩ | ⟨-, hold⟩
    · obtain rfl := Option.some.inj hnew
      refine ⟨(issues_program op).mono fun hq => places_of_issues hq hcall, fun w hw => ?_⟩
      exact absurd hw List.not_mem_nil
    · exact hinv.others j sess hold hcall

omit [DecidableEq ι] in
/-- What the action does to the assignments of the agent: it takes some away, or it makes the
only one appear. -/
lemma effect {a : Lib.Act} {sess sess' : CallSession} {writes : List Write} {s' : Store}
    (hinv : OneTwinInv agent d) (hsess : d.sessions i = some sess)
    (hact : sess.act engine d.store a = some (sess', s', writes)) :
    NoMore agent s' d.store ∨ (Appears agent d.store sess a ∧ OneTwin agent s') := by
  by_cases hcall : Assigns agent sess.call
  · obtain ⟨cleared, hassigning⟩ := hinv.assigning i sess hsess hcall
    exact (hassigning.act hinv.one hact).2
  · obtain ⟨hprog, hpending⟩ := hinv.others i sess hsess hcall
    obtain ⟨-, -, made, hmade, rfl⟩ :=
      Lib.Session.act_all (fun hq hrun => places_of_run hrun hq) hprog hpending hact
    exact .inl (noMore_of_places hmade)

lemma act {a : Lib.Act} (hinv : OneTwinInv agent d) (hexclusive : Exclusive agent d (.act i a))
    (hstep : d.step engine Operation.program (.act i a) = some d') : OneTwinInv agent d' := by
  obtain ⟨sess, sess', writes, hsess, hact, hsessions⟩ := Lib.Server.step_act hstep
  have hcalls : sess'.call = sess.call := Lib.Session.call_act hact
  have heffect := hinv.effect hsess hact
  constructor
  · rcases heffect with hless | ⟨-, hone⟩
    · exact hinv.one.noMore hless
    · exact hone
  · intro j t ht hcall
    rw [hsessions] at ht
    rcases Lib.eq_of_update ht with ⟨rfl, hnew⟩ | ⟨hne, hold⟩
    · obtain rfl := Option.some.inj hnew
      obtain ⟨cleared, hassigning⟩ := hinv.assigning j sess hsess (by rwa [← hcalls])
      exact (hassigning.act hinv.one hact).1
    · obtain ⟨cleared, hassigning⟩ := hinv.assigning j t hold hcall
      rcases heffect with hless | ⟨happears, hone⟩
      · exact ⟨cleared, hassigning.noMore hless⟩
      · -- The other session is not between its DELETE and its end.
        exact ⟨false, hassigning.appear hcall (hexclusive sess hsess happears j t hne hold) hone⟩
  · intro j t ht hcall
    rw [hsessions] at ht
    rcases Lib.eq_of_update ht with ⟨rfl, hnew⟩ | ⟨-, hold⟩
    · obtain rfl := Option.some.inj hnew
      obtain ⟨hprog, hpending⟩ := hinv.others j sess hsess (by rwa [← hcalls])
      obtain ⟨hprog', hpending', -⟩ :=
        Lib.Session.act_all (fun hq hrun => places_of_run hrun hq) hprog hpending hact
      exact ⟨hprog', hpending'⟩
    · exact hinv.others j t hold hcall

lemma finish (hinv : OneTwinInv agent d)
    (hstep : d.step engine Operation.program (.finish i) = some d') : OneTwinInv agent d' := by
  obtain ⟨sess, result, -, -, hstore, hsessions⟩ := Lib.Server.step_finish hstep
  have hold : ∀ j t, d'.sessions j = some t → d.sessions j = some t := by
    intro j t ht
    rw [hsessions] at ht
    rcases Lib.eq_of_update ht with ⟨-, hnone⟩ | ⟨-, hold⟩
    · exact absurd hnone (by simp)
    · exact hold
  constructor
  · rw [hstore]
    exact hinv.one
  · intro j t ht hcall
    rw [hstore]
    exact hinv.assigning j t (hold j t ht) hcall
  · exact fun j t ht hcall => hinv.others j t (hold j t ht) hcall

end OneTwinInv

/-- One twin per agent. In every run of concurrent calls in which no assignment of the agent
appears while another call that assigns it is between its DELETE and its end, the agent has at
most one assignment in every state reached. -/
theorem one_twin_per_agent {ι : Type} [DecidableEq ι] (agent : AgentID)
    {es : List (Lib.ServerEvent ι Operation)} {d : Database ι}
    (run : Lib.Run (Lib.Server.step engine Operation.program) (Exclusive agent) (.init {}) es d) :
    OneTwin agent d.store := by
  have hinv : OneTwinInv agent d := by
    refine run.invariant (fun d e d' hinv hexclusive hstep => ?_) .init
    cases e with
    | call i op => exact hinv.call hstep
    | act i a => exact hinv.act hexclusive hstep
    | finish i => exact hinv.finish hstep
  exact hinv.one

/-- A registration with one twin and a pairing with another whose statements alternate before
the DELETE. -/
theorem one_twin_per_agent_witness : ∃ d : Database (Fin 2),
    (d.sessions 0).isNone ∧ (d.sessions 1).isNone ∧
      d.store.assignments.HasKey ("a1", "t2") ∧ OneTwin "a1" d.store := by
  let rows : List (Lib.ServerEvent (Fin 2) Operation) :=
    served 0 (.createTwin "t1" "acme" "prod" "") [.issue, .answer, .issue, .answer] ++
    served 0 (.createTwin "t2" "acme" "test" "") [.issue, .answer, .issue, .answer] ++
    served 0 (.createAgent "a1" "acme" "edge") [.issue, .answer]
  let calls : List (Lib.ServerEvent (Fin 2) Operation) :=
    [.call 0 (.registerAgent "a1" "t1" "acme" "client" "topic"),
      .call 1 (.pairAgent "a1" "t2" "acme" "u1"),
      .act 0 .issue, .act 1 .issue, .act 0 .answer, .act 1 .answer,
      .act 0 .issue, .act 1 .issue, .act 0 .answer, .act 1 .answer,
      .act 0 .issue, .act 1 .issue, .act 0 .answer, .act 1 .answer, .act 1 .control,
      .finish 0,
      .act 1 .issue, .act 1 .answer, .act 1 .issue, .act 1 .answer, .act 1 .issue,
      .act 1 .answer, .act 1 .issue, .act 1 .answer, .act 1 .issue, .act 1 .answer,
      .act 1 .control, .finish 1]
  have hfold : ((rows ++ calls).foldlM (Lib.restrict (Lib.Server.step engine Operation.program)
      (Exclusive "a1")) (.init {} : Database (Fin 2))).map (fun d =>
        (d.sessions 0).isNone && (d.sessions 1).isNone &&
          decide (d.store.assignments.HasKey ("a1", "t2"))) = some true := by
    decide +kernel
  obtain ⟨d, hd, hfinal⟩ := Option.map_eq_some_iff.mp hfold
  simp only [Bool.and_eq_true, decide_eq_true_eq] at hfinal
  obtain ⟨⟨h0, h1⟩, hrow⟩ := hfinal
  exact ⟨d, h0, h1, hrow, one_twin_per_agent "a1" (Lib.run_iff_foldlM_restrict.mpr hd)⟩

/-- Two registrations whose DELETEs come before both INSERTs leave two assignments. -/
theorem two_twins_per_agent :
    ¬ ∀ (agent : AgentID) (es : List (Lib.ServerEvent (Fin 2) Operation)) (d : Database (Fin 2)),
      Lib.Run (Lib.Server.step engine Operation.program) Lib.Unguarded (.init {}) es d →
        (∀ i, d.sessions i = none) → OneTwin agent d.store := by
  intro h
  let rows : List (Lib.ServerEvent (Fin 2) Operation) :=
    served 0 (.createTwin "t1" "acme" "prod" "") [.issue, .answer, .issue, .answer] ++
    served 0 (.createTwin "t2" "acme" "test" "") [.issue, .answer, .issue, .answer]
  let calls : List (Lib.ServerEvent (Fin 2) Operation) :=
    [.call 0 (.registerAgent "a1" "t1" "acme" "client" "topic"),
      .call 1 (.registerAgent "a1" "t2" "acme" "client" "topic"),
      .act 0 .issue, .act 0 .answer, .act 1 .issue, .act 1 .answer,
      .act 0 .issue, .act 0 .answer, .act 1 .issue, .act 1 .answer,
      .act 0 .issue, .act 0 .answer, .act 1 .issue, .act 1 .answer,
      .finish 0, .finish 1]
  let row : AssignmentRow := ⟨"a1", "t1", "acme", "client", "topic"⟩
  let row' : AssignmentRow := ⟨"a1", "t2", "acme", "client", "topic"⟩
  have hfold : ((rows ++ calls).foldlM (Lib.Server.step engine Operation.program)
      (.init {} : Database (Fin 2))).map (fun d =>
        (d.sessions 0).isNone && (d.sessions 1).isNone &&
          decide (d.store.assignments.find? row.key = some row) &&
          decide (d.store.assignments.find? row'.key = some row')) = some true := by
    decide +kernel
  obtain ⟨d, hd, hfinal⟩ := Option.map_eq_some_iff.mp hfold
  simp only [Bool.and_eq_true, decide_eq_true_eq, Option.isNone_iff_eq_none] at hfinal
  obtain ⟨⟨⟨h0, h1⟩, hrow⟩, hrow'⟩ := hfinal
  have hone := h "a1" (rows ++ calls) d (Lib.run_iff_foldlM.mpr hd)
    (Fin.forall_fin_two.mpr ⟨h0, h1⟩)
  have hsame := hone row (find?_eq_some.mp hrow).1 row' (find?_eq_some.mp hrow').1 rfl rfl
  exact absurd hsame (by decide)

end Paryty.Twin

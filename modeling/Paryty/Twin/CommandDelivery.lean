import Paryty.Twin.CommandSound

/-!
# At most once and in order

What the dequeue leaves to its callers is that an agent waits for one heartbeat before it sends
the next. `Desk.Exact` is the invariant of an agent that does: the commands a heartbeat has
chosen are undelivered rows nobody else will take, everything older is among them or was
delivered before, and what a response carries can be put behind what the agent has received.

`commands_delivered` is the result: in every run nothing an operator has enqueued disappears
other than with a lost response, and an agent with one heartbeat at a time receives its commands
at most once and in the order they were enqueued.
-/

namespace Paryty.Twin

section Traffic

variable (t : Traffic) (table : CommandTable) (agentID : AgentID)

/-- Put behind what the agent has received, the commands keep it free of repetitions and in
order; their rows are marked. -/
structure Appendable (cmds : List Command) : Prop where
  nodup : (t.receivedBy agentID ++ cmds).Nodup
  inOrder : (t.receivedBy agentID ++ cmds).Pairwise (fun first second => ¬ t.Precedes second first)
  marked : ∀ cmd ∈ cmds, cmd.agentID = agentID ∧ Marked table cmd

/-- The commands a heartbeat has chosen: undelivered rows in order, with everything undelivered
that comes before one of them. -/
structure Chosen (cmds : List CommandRecord) : Prop where
  nodup : (cmds.map CommandRecord.toCommand).Nodup
  inOrder : (cmds.map CommandRecord.toCommand).Pairwise
    (fun first second => ¬ t.Precedes second first)
  waiting : ∀ cmd ∈ cmds, cmd ∈ table ∧ cmd.agentID = agentID ∧ cmd.delivered = false
  complete : ∀ p ∈ t.order, p.2 ∈ cmds.map CommandRecord.toCommand → ∀ r ∈ table,
    r.toCommand = p.1 → r.delivered = false → r ∈ cmds

/-- The snapshot of a heartbeat's query: its rows of the agent have not changed, and it has what
comes before them. -/
structure Seen (snapshot : CommandStore) : Prop where
  rows : ∀ r ∈ snapshot.commands, r.agentID = agentID → r ∈ table
  closed : ∀ p ∈ t.order, ∀ r' ∈ snapshot.commands, r'.toCommand = p.2 → r'.agentID = agentID →
    ∀ r ∈ table, r.toCommand = p.1 → r ∈ snapshot.commands

/-- What a heartbeat session of the agent has made sure of. -/
def Stage.Exact : Stage → Prop
  | selecting agent snapshot => agent = agentID → ∀ snap ∈ snapshot, Seen t table agentID snap
  | marking agent cmds _ => agent = agentID → Chosen t table agentID cmds
  | committing agent cmds _ => agent = agentID → Chosen t table agentID cmds
  | done agent cmds =>
    agent = agentID → Appendable t table agentID (cmds.map CommandRecord.toCommand)
  | _ => True

variable {t table agentID}

lemma Stage.exact_of_agent {stage : Stage} (h : stage.agent ≠ some agentID) :
    stage.Exact t table agentID := by
  cases stage with
  | selecting | marking | committing | done => exact fun heq => absurd (congrArg some heq) h
  | _ => trivial

/-! ## Changes of the table that leave the agent's rows alone -/

/-- Another table: rows of the agent stay as they are, and new ones are of commands nobody has
heard of. -/
structure Beside (t : Traffic) (agentID : AgentID) (table table' : CommandTable) : Prop where
  grows : Grows table table'
  kept : ∀ r ∈ table, r.agentID = agentID → r ∈ table'
  fresh : ∀ r ∈ table', r.agentID = agentID → r ∈ table ∨
    (r.delivered = false ∧ r.toCommand ∉ t.received ∧ ∀ p ∈ t.order, p.1 ≠ r.toCommand)

lemma Appendable.beside {table' : CommandTable} {cmds : List Command}
    (hbeside : Beside t agentID table table') (h : Appendable t table agentID cmds) :
    Appendable t table' agentID cmds :=
  ⟨h.nodup, h.inOrder, fun cmd hcmd =>
    ⟨(h.marked cmd hcmd).1, (h.marked cmd hcmd).2.grows hbeside.grows⟩⟩

lemma Chosen.beside {table' : CommandTable} {cmds : List CommandRecord}
    (hbeside : Beside t agentID table table')
    (horder : ∀ p ∈ t.order, p.1.agentID = p.2.agentID) (h : Chosen t table agentID cmds) :
    Chosen t table' agentID cmds := by
  refine ⟨h.nodup, h.inOrder, fun cmd hcmd => ?_, fun p hp hsecond r hr hfirst hdelivered => ?_⟩
  · obtain ⟨hmem, hagent, hdelivered⟩ := h.waiting cmd hcmd
    exact ⟨hbeside.kept cmd hmem hagent, hagent, hdelivered⟩
  · have hagent : r.agentID = agentID := by
      obtain ⟨cmd, hcmd, heq⟩ := List.mem_map.mp hsecond
      rw [hfirst, horder p hp, ← heq, (h.waiting cmd hcmd).2.1]
    rcases hbeside.fresh r hr hagent with hold | ⟨-, -, hnew⟩
    · exact h.complete p hp hsecond r hold hfirst hdelivered
    · exact absurd hfirst.symm (hnew p hp)

lemma Seen.beside {table' : CommandTable} {snapshot : CommandStore}
    (hbeside : Beside t agentID table table')
    (horder : ∀ p ∈ t.order, p.1.agentID = p.2.agentID) (h : Seen t table agentID snapshot) :
    Seen t table' agentID snapshot := by
  refine ⟨fun r hr hagent => hbeside.kept r (h.rows r hr hagent) hagent, ?_⟩
  intro p hp r' hr' hsecond hagent' r hr hfirst
  have hagent : r.agentID = agentID := by rw [hfirst, horder p hp, ← hsecond, hagent']
  rcases hbeside.fresh r hr hagent with hold | ⟨-, -, hnew⟩
  · exact h.closed p hp r' hr' hsecond hagent' r hold hfirst
  · exact absurd hfirst.symm (hnew p hp)

lemma Stage.Exact.beside {table' : CommandTable} {stage : Stage}
    (hbeside : Beside t agentID table table')
    (horder : ∀ p ∈ t.order, p.1.agentID = p.2.agentID) (h : stage.Exact t table agentID) :
    stage.Exact t table' agentID := by
  cases stage with
  | selecting agent snapshot =>
    exact fun heq snap hsnap => (h heq snap hsnap).beside hbeside horder
  | marking agent cmds snapshot => exact fun heq => (h heq).beside hbeside horder
  | committing agent cmds pending => exact fun heq => (h heq).beside hbeside horder
  | done agent cmds => exact fun heq => (h heq).beside hbeside
  | _ => trivial

/-! ## Changes of the traffic that do not concern the agent -/

section Transfer

variable {t' : Traffic} (hreceived : t'.receivedBy agentID = t.receivedBy agentID)
  (horder : t'.order = t.order) (hdispatched : t'.dispatched = t.dispatched)

include horder hdispatched in
lemma precedes_congr {first second : Command} (h : t'.Precedes first second) :
    t.Precedes first second := by
  obtain ⟨hpair, hdirect⟩ := h
  rw [horder] at hpair
  rw [hdispatched] at hdirect
  exact ⟨hpair, hdirect⟩

include hreceived horder hdispatched in
lemma Appendable.transfer {cmds : List Command} (h : Appendable t table agentID cmds) :
    Appendable t' table agentID cmds := by
  obtain ⟨hnodup, hinOrder, hmarked⟩ := h
  refine ⟨by rwa [hreceived], ?_, hmarked⟩
  rw [hreceived]
  exact hinOrder.imp fun hnot hprecedes => hnot (precedes_congr horder hdispatched hprecedes)

include hreceived horder hdispatched in
lemma Stage.Exact.transfer {stage : Stage} (h : stage.Exact t table agentID) :
    stage.Exact t' table agentID := by
  have hchosen : ∀ {cmds : List CommandRecord}, Chosen t table agentID cmds →
      Chosen t' table agentID cmds := by
    intro cmds hc
    refine ⟨hc.nodup, hc.inOrder.imp fun hnot hprecedes => ?_, hc.waiting, ?_⟩
    · exact hnot (precedes_congr horder hdispatched hprecedes)
    · rw [horder]
      exact hc.complete
  cases stage with
  | selecting agent snapshot =>
    intro heq snap hsnap
    refine ⟨(h heq snap hsnap).rows, ?_⟩
    rw [horder]
    exact (h heq snap hsnap).closed
  | marking agent cmds snapshot => exact fun heq => hchosen (h heq)
  | committing agent cmds pending => exact fun heq => hchosen (h heq)
  | done agent cmds => exact fun heq => (h heq).transfer hreceived horder hdispatched
  | _ => trivial

end Transfer

end Traffic

namespace Desk

variable {ι : Type} {agentID : AgentID}

/-- A heartbeat of the agent is open or its response is under way. -/
def Outstanding (q : Desk ι) (agentID : AgentID) : Prop :=
  (∃ i stage, q.stages i = some stage ∧ stage.agent = some agentID) ∨
    ∃ response ∈ q.responses, response.1 = agentID

/-- At most one heartbeat of the agent is outstanding. -/
structure Serial (stages : ι → Option Stage) (responses : List (AgentID × List Command))
    (agentID : AgentID) : Prop where
  single : ∀ i j stage stage', stages i = some stage → stages j = some stage' →
    stage.agent = some agentID → stage'.agent = some agentID → i = j
  alone : ∀ i stage, stages i = some stage → stage.agent = some agentID →
    ∀ response ∈ responses, response.1 ≠ agentID
  one : (responses.filter (fun response => response.1 = agentID)).length ≤ 1

/-- What an agent that waits for its heartbeats can rely on. -/
structure Exact (q : Desk ι) (agentID : AgentID) : Prop where
  serial : Serial q.stages q.responses agentID
  waiting : ∀ r ∈ q.store.commands, r.agentID = agentID → r.delivered = false →
    r.toCommand ∉ q.received
  received : ∀ cmd ∈ q.received, cmd.agentID = agentID →
    cmd ∈ q.dispatched ∨ Marked q.store.commands cmd
  ordered : ∀ p ∈ q.order, p.1.agentID = agentID → ∀ r ∈ q.store.commands,
    ∀ r' ∈ q.store.commands, r.toCommand = p.1 → r'.toCommand = p.2 → r'.delivered = true →
      r.delivered = true
  appendable : Appendable q.toTraffic q.store.commands agentID []
  responses : ∀ response ∈ q.responses, response.1 = agentID →
    Appendable q.toTraffic q.store.commands agentID response.2
  stages : ∀ i stage, q.stages i = some stage →
    stage.Exact q.toTraffic q.store.commands agentID

lemma exact_init : (init : Desk ι).Exact agentID := by
  constructor
  case serial => constructor <;> simp [init]
  case waiting => simp [init]
  case received => simp [init]
  case ordered => simp [init]
  case appendable => constructor <;> simp [init, Traffic.receivedBy]
  case responses => simp [init]
  case stages => simp [init]

variable [DecidableEq ι] {q q' : Desk ι} {i : ι}

/-! ## One heartbeat at a time -/

section Serial

variable {stages : ι → Option Stage} {responses : List (AgentID × List Command)}

lemma Serial.update {stage' : Stage} (h : Serial stages responses agentID)
    (hagent : stage'.agent = some agentID →
      (∃ stage, stages i = some stage ∧ stage.agent = some agentID) ∨
      ((∀ j stage, stages j = some stage → stage.agent ≠ some agentID) ∧
        ∀ response ∈ responses, response.1 ≠ agentID)) :
    Serial (Function.update stages i (some stage')) responses agentID := by
  have hsame : ∀ j stage, Function.update stages i (some stage') j = some stage →
      stage.agent = some agentID → j = i ∨
        (stages j = some stage ∧ (stage'.agent = some agentID → j = i)) := by
    intro j stage hj hstage
    rcases Lib.eq_of_update hj with ⟨rfl, -⟩ | ⟨-, hold⟩
    · exact .inl rfl
    · refine .inr ⟨hold, fun hnew => ?_⟩
      rcases hagent hnew with ⟨stage₀, h₀, hagent₀⟩ | ⟨hnone, -⟩
      · exact h.single j i stage stage₀ hold h₀ hstage hagent₀
      · exact absurd hstage (hnone j stage hold)
  refine ⟨fun j k stage stage₁ hj hk hstage hstage₁ => ?_, fun j stage hj hstage => ?_, h.one⟩
  · rcases Lib.eq_of_update hj with ⟨rfl, hnew⟩ | ⟨-, hold⟩
    · obtain rfl := Option.some.inj hnew
      rcases hsame k stage₁ hk hstage₁ with rfl | ⟨-, heq⟩
      · rfl
      · exact (heq hstage).symm
    · rcases Lib.eq_of_update hk with ⟨rfl, hnew⟩ | ⟨-, hold'⟩
      · obtain rfl := Option.some.inj hnew
        rcases hsame j stage hj hstage with rfl | ⟨-, heq⟩
        · rfl
        · exact heq hstage₁
      · exact h.single j k stage stage₁ hold hold' hstage hstage₁
  · rcases Lib.eq_of_update hj with ⟨rfl, hnew⟩ | ⟨-, hold⟩
    · obtain rfl := Option.some.inj hnew
      rcases hagent hstage with ⟨stage₀, h₀, hagent₀⟩ | ⟨-, hnone⟩
      · exact h.alone j stage₀ h₀ hagent₀
      · exact hnone
    · exact h.alone j stage hold hstage

lemma Serial.close (h : Serial stages responses agentID) :
    Serial (Function.update stages i none) responses agentID := by
  have hold : ∀ j stage, Function.update stages i none j = some stage → stages j = some stage := by
    intro j stage hj
    rcases Lib.eq_of_update hj with ⟨-, hnone⟩ | ⟨-, hold⟩
    · exact absurd hnone (by simp)
    · exact hold
  exact ⟨fun j k stage stage' hj hk => h.single j k stage stage' (hold j _ hj) (hold k _ hk),
    fun j stage hj => h.alone j stage (hold j _ hj), h.one⟩

lemma Serial.answer {stage : Stage} {agent : AgentID} {cmds : List Command}
    (h : Serial stages responses agentID) (here : stages i = some stage)
    (hagent : stage.agent = some agent) :
    Serial (Function.update stages i none) (responses ++ [(agent, cmds)]) agentID := by
  by_cases hmine : agent = agentID
  · subst hmine
    have hnone : responses.filter (fun response => response.1 = agent) = [] := by
      rw [List.filter_eq_nil_iff]
      intro response hresponse
      simpa using h.alone i stage here hagent response hresponse
    have hothers : ∀ j stage', Function.update stages i none j = some stage' →
        stage'.agent ≠ some agent := by
      intro j stage' hj hstage'
      rcases Lib.eq_of_update hj with ⟨-, hnone⟩ | ⟨hne, hold⟩
      · exact absurd hnone (by simp)
      · exact hne (h.single j i stage' stage hold here hstage' hagent)
    refine ⟨fun j k stage₁ stage₂ hj _ hstage₁ => absurd hstage₁ (hothers j stage₁ hj),
      fun j stage₁ hj hstage₁ => absurd hstage₁ (hothers j stage₁ hj), ?_⟩
    rw [List.filter_append, hnone]
    simp
  · refine ⟨h.close.single, fun j stage₁ hj hstage₁ response hresponse => ?_, ?_⟩
    · rcases List.mem_append.mp hresponse with hold | hnew
      · exact h.close.alone j stage₁ hj hstage₁ response hold
      · obtain rfl := List.mem_singleton.mp hnew
        exact hmine
    · rw [List.filter_append]
      simpa [hmine] using h.one

omit [DecidableEq ι] in
lemma Serial.erase (h : Serial stages responses agentID) (k : ℕ) :
    Serial stages (responses.eraseIdx k) agentID := by
  refine ⟨h.single, fun j stage hj hstage response hresponse => ?_, ?_⟩
  · exact h.alone j stage hj hstage response (List.mem_of_mem_eraseIdx hresponse)
  · exact le_trans ((List.eraseIdx_sublist _ _).filter _).length_le h.one

omit [DecidableEq ι] in
lemma Serial.last (h : Serial stages responses agentID) {k : ℕ} {response : AgentID × List Command}
    (here : responses[k]? = some response) (hagent : response.1 = agentID) :
    ∀ other ∈ responses.eraseIdx k, other.1 ≠ agentID := by
  have hsplit : responses = responses.take k ++ response :: responses.drop (k + 1) := by
    obtain ⟨hk, rfl⟩ := List.getElem?_eq_some_iff.mp here
    simp
  have hone := h.one
  rw [hsplit, List.filter_append, List.filter_cons_of_pos (by simpa using hagent),
    List.length_append, List.length_cons] at hone
  intro other hother hmine
  rw [List.eraseIdx_eq_take_drop_succ] at hother
  rcases List.mem_append.mp hother with hbefore | hafter
  · have hpos := List.length_pos_of_mem (List.mem_filter.mpr ⟨hbefore, by simpa using hmine⟩ :
      other ∈ (responses.take k).filter (fun response => response.1 = agentID))
    omega
  · have hpos := List.length_pos_of_mem (List.mem_filter.mpr ⟨hafter, by simpa using hmine⟩ :
      other ∈ (responses.drop (k + 1)).filter (fun response => response.1 = agentID))
    omega

end Serial

/-! ## Sessions that leave the table alone -/

lemma Exact.restage {stage' : Stage} (h : q.Exact agentID)
    (hagent : stage'.agent = some agentID →
      (∃ stage, q.stages i = some stage ∧ stage.agent = some agentID) ∨ ¬ q.Outstanding agentID)
    (hstage' : stage'.Exact q.toTraffic q.store.commands agentID) :
    Exact { q with
      stages := Function.update q.stages i (some stage')
      store := tick q.store } agentID := by
  refine ⟨h.serial.update fun hnew => ?_, h.waiting, h.received, h.ordered, h.appendable,
    h.responses, fun j stage hj => ?_⟩
  · rcases hagent hnew with hsame | hnone
    · exact .inl hsame
    · refine .inr ⟨fun j stage hj hstage => hnone (.inl ⟨j, stage, hj, hstage⟩), ?_⟩
      exact fun response hresponse hmine => hnone (.inr ⟨response, hresponse, hmine⟩)
  · rcases Lib.eq_of_update hj with ⟨-, hnew⟩ | ⟨-, hold⟩
    · obtain rfl := Option.some.inj hnew
      exact hstage'
    · exact h.stages j stage hold

/-! ## The choice of the commands -/

omit [DecidableEq ι] in
lemma chosen_pending {snapshot : CommandStore} (hsound : q.Sound)
    (hseen : Seen q.toTraffic q.store.commands agentID snapshot) :
    Chosen q.toTraffic q.store.commands agentID (snapshot.pending agentID) := by
  have hrow : ∀ r ∈ snapshot.pending agentID,
      r ∈ q.store.commands ∧ r.agentID = agentID ∧ r.delivered = false := by
    intro r hr
    obtain ⟨hmem, hagent, hdelivered⟩ := mem_pending.mp hr
    exact ⟨hseen.rows r hmem hagent, hagent, hdelivered⟩
  constructor
  · have hids : ((snapshot.pending agentID).map (fun r => r.id)).Nodup := by
      have hperm := List.perm_insertionSort
        (fun earlier later : CommandRecord => earlier.createdAt ≤ later.createdAt)
        (snapshot.commands.rows.filter (CommandRecord.Pending agentID))
      rw [CommandStore.pending, (hperm.map _).nodup_iff]
      exact (List.filter_sublist.map _).nodup snapshot.commands.nodup
    refine List.Nodup.of_map Command.id ?_
    rwa [List.map_map]
  · -- The rows are sorted by time, and what comes before a command is older.
    have hsorted : (snapshot.pending agentID).Pairwise
        (fun earlier later => earlier.createdAt ≤ later.createdAt) :=
      List.pairwise_insertionSort _ _
    rw [List.pairwise_map]
    refine hsorted.imp_of_mem fun {r r'} hr hr' hle hprecedes => ?_
    have := hsound.older _ hprecedes.1 r' (hrow r' hr').1 r (hrow r hr).1 rfl rfl
    omega
  · exact hrow
  · intro p hp hsecond r hr hfirst hdelivered
    obtain ⟨r', hr', hcmd⟩ := List.mem_map.mp hsecond
    obtain ⟨hmem', hagent', -⟩ := mem_pending.mp hr'
    have hmem := hseen.closed p hp r' hmem' hcmd hagent' r hr hfirst
    have hagent : r.agentID = agentID := by
      rw [hfirst, (hsound.order p hp).2.1, ← hcmd, hagent']
    exact mem_pending.mpr ⟨hmem, hagent, hdelivered⟩

/-! ## The insert and other agents' commits -/

lemma Exact.beside {stage' : Stage} {s' : CommandStore} (h : q.Exact agentID) (hsound : q.Sound)
    (hbeside : Beside q.toTraffic agentID q.store.commands s'.commands)
    (hagent : stage'.agent ≠ some agentID) :
    Exact { q with
      stages := Function.update q.stages i (some stage')
      store := tick s' } agentID := by
  have horder : ∀ p ∈ q.order, p.1.agentID = p.2.agentID := fun p hp => (hsound.order p hp).2.1
  refine ⟨h.serial.update fun hnew => absurd hnew hagent, ?_, ?_, ?_, h.appendable.beside hbeside,
    fun response hin hmine => (h.responses response hin hmine).beside hbeside, ?_⟩
  · intro r hr hmine hdelivered
    rcases hbeside.fresh r hr hmine with hold | ⟨-, hnew, -⟩
    · exact h.waiting r hold hmine hdelivered
    · exact hnew
  · intro cmd hcmd hmine
    exact (h.received cmd hcmd hmine).imp_right (Marked.grows hbeside.grows)
  · intro p hp hmine r hr r' hr' hfirst hsecond hdelivered
    have hmine' : r'.agentID = agentID := by rw [hsecond, ← horder p hp, hmine]
    rcases hbeside.fresh r' hr' hmine' with hold' | ⟨hfalse, -⟩
    · rcases hbeside.fresh r hr (by rw [hfirst, hmine]) with hold | ⟨-, -, hnew⟩
      · exact h.ordered p hp hmine r hold r' hold' hfirst hsecond hdelivered
      · exact absurd hfirst.symm (hnew p hp)
    · rw [hfalse] at hdelivered
      exact absurd hdelivered (by simp)
  · intro j stage hj
    rcases Lib.eq_of_update hj with ⟨-, hnew⟩ | ⟨-, hold⟩
    · obtain rfl := Option.some.inj hnew
      exact Stage.exact_of_agent hagent
    · exact (h.stages j stage hold).beside hbeside horder

omit [DecidableEq ι] in
lemma beside_insert {cmd : Command} {snapshot : CommandStore} (hsound : q.Sound)
    (here : q.stages i = some (.inserting cmd (some snapshot))) :
    Beside q.toTraffic agentID q.store.commands
      (q.store.commands.put { toCommand := cmd, createdAt := snapshot.clock }) := by
  have hinserting := hsound.inserting i cmd _ here
  have hunknown := hinserting.unknown
  refine ⟨grows_put hinserting.noRow,
    fun r hr _ => (mem_put_fresh hinserting.noRow).mpr (.inr hr), fun r hr _ => ?_⟩
  rcases (mem_put_fresh hinserting.noRow).mp hr with rfl | hold
  · refine .inr ⟨rfl, fun hreceived => hunknown (hsound.received _ hreceived), ?_⟩
    rintro p hp rfl
    exact hunknown (hsound.enqueued _ (hsound.order p hp).1)
  · exact .inl hold

omit [DecidableEq ι] in
lemma beside_commit {agent : AgentID} {cmds : List CommandRecord}
    {pending : List (Lib.Table.RowWrite CommandRecord CommandID)} (hsound : q.Sound)
    (here : q.stages i = some (.committing agent cmds pending)) (hother : agent ≠ agentID) :
    Beside q.toTraffic agentID q.store.commands
      (pending.foldl Lib.Table.write q.store.commands) := by
  obtain ⟨hfound, hmarks⟩ := hsound.stages i _ here
  have hmem := hmarks q.store.commands (.refl _)
  have hsame : ∀ r ∈ q.store.commands, r.agentID = agentID →
      r.mark (cmds.map (fun cmd => cmd.id)) = r := by
    intro r hr hmine
    refine CommandRecord.mark_of_notMem fun hid => hother ?_
    obtain ⟨cmd, hcmd, hid⟩ := List.mem_map.mp hid
    obtain ⟨hagent, r₁, hr₁, hcommand⟩ := hfound cmd hcmd
    have heq : r₁ = r := row_unique hr₁ hr (by rw [hcommand, hid])
    rw [← hagent, ← hcommand, heq, hmine]
  refine ⟨grows_of_marks hmarks, fun r hr hmine => (hmem r).mpr ⟨r, hr, hsame r hr hmine⟩,
    fun r hr hmine => .inl ?_⟩
  obtain ⟨r₀, hr₀, rfl⟩ := (hmem r).mp hr
  rw [hsame r₀ hr₀ (by simpa using hmine)]
  exact hr₀

/-! ## The commit of the agent's heartbeat -/

omit [DecidableEq ι] in
lemma Exact.append_chosen {cmds : List CommandRecord} {table' : CommandTable} (h : q.Exact agentID)
    (hsound : q.Sound) (hchosen : Chosen q.toTraffic q.store.commands agentID cmds)
    (hmarked : ∀ cmd ∈ cmds, Marked table' cmd.toCommand) :
    Appendable q.toTraffic table' agentID (cmds.map CommandRecord.toCommand) := by
  have hreceived : ∀ cmd ∈ q.receivedBy agentID, cmd ∈ q.received ∧ cmd.agentID = agentID := by
    intro cmd hcmd
    simpa [Traffic.receivedBy] using hcmd
  have hnew : ∀ cmd ∈ cmds, cmd.toCommand ∉ q.received := by
    intro cmd hcmd
    obtain ⟨hmem, hmine, hdelivered⟩ := hchosen.waiting cmd hcmd
    exact h.waiting cmd hmem hmine hdelivered
  have hold := h.appendable
  have hnodup : (q.receivedBy agentID).Nodup := by simpa using hold.nodup
  have horder := hold.inOrder
  rw [List.append_nil] at horder
  refine ⟨?_, ?_, fun cmd hcmd => ?_⟩
  · refine List.nodup_append.mpr ⟨hnodup, hchosen.nodup, ?_⟩
    rintro cmd hcmd cmd' hcmd' rfl
    obtain ⟨r, hr, rfl⟩ := List.mem_map.mp hcmd'
    exact hnew r hr (hreceived _ hcmd).1
  · refine List.pairwise_append.mpr ⟨horder, hchosen.inOrder, fun first hfirst second hsecond => ?_⟩
    rintro ⟨hpair, hdispatched⟩
    obtain ⟨r, hr, rfl⟩ := List.mem_map.mp hsecond
    obtain ⟨hmem, hmine, hdelivered⟩ := hchosen.waiting r hr
    -- A command that was received before is dispatched or marked; the chosen ones are neither.
    rcases h.received first (hreceived first hfirst).1 (hreceived first hfirst).2 with
      hdirect | ⟨r', hr', rfl, hdelivered'⟩
    · exact (hsound.dispatched _ (hdispatched hdirect)).2.2 ⟨r, hmem, rfl⟩
    · have := h.ordered _ hpair hmine r hmem r' hr' rfl rfl hdelivered'
      rw [hdelivered] at this
      exact absurd this (by simp)
  · obtain ⟨r, hr, rfl⟩ := List.mem_map.mp hcmd
    exact ⟨(hchosen.waiting r hr).2.1, hmarked r hr⟩

lemma Exact.commit {cmds : List CommandRecord}
    {pending : List (Lib.Table.RowWrite CommandRecord CommandID)} (h : q.Exact agentID)
    (hsound : q.Sound) (here : q.stages i = some (.committing agentID cmds pending)) :
    Exact { q with
      stages := Function.update q.stages i (some (.done agentID cmds))
      store := tick { q.store with
        commands := pending.foldl Lib.Table.write q.store.commands } } agentID := by
  obtain ⟨-, hmarks⟩ := hsound.stages i _ here
  have hmem := hmarks q.store.commands (.refl _)
  have hgrows := grows_of_marks hmarks
  have hchosen : Chosen q.toTraffic q.store.commands agentID cmds := h.stages i _ here rfl
  have hids : ∀ r ∈ q.store.commands, r.toCommand ∈ cmds.map CommandRecord.toCommand →
      (r.mark (cmds.map (fun cmd => cmd.id))).delivered = true := by
    intro r _ hr
    obtain ⟨cmd, hcmd, heq⟩ := List.mem_map.mp hr
    refine CommandRecord.delivered_mark.mpr (.inl (List.mem_map.mpr ⟨cmd, hcmd, ?_⟩))
    rw [heq]
  have hnone : ∀ j stage, j ≠ i → q.stages j = some stage → stage.agent ≠ some agentID :=
    fun j stage hne hj hstage => hne (h.serial.single j i stage _ hj here hstage rfl)
  have hdone : Appendable q.toTraffic (pending.foldl Lib.Table.write q.store.commands) agentID
      (cmds.map CommandRecord.toCommand) := by
    refine h.append_chosen hsound hchosen fun cmd hcmd => ?_
    obtain ⟨hrow, -, -⟩ := hchosen.waiting cmd hcmd
    refine ⟨_, (hmem _).mpr ⟨cmd, hrow, rfl⟩, by simp, ?_⟩
    exact hids cmd hrow (List.mem_map.mpr ⟨cmd, hcmd, rfl⟩)
  refine ⟨h.serial.update fun _ => .inl ⟨_, here, rfl⟩, ?_, ?_, ?_,
    ⟨h.appendable.nodup, h.appendable.inOrder, by simp⟩, ?_, ?_⟩
  · intro r hr hmine hdelivered
    obtain ⟨r₀, hr₀, rfl⟩ := (hmem r).mp hr
    have hdelivered₀ : r₀.delivered = false := by
      by_contra hmarked
      have hstays : (r₀.mark (cmds.map (fun cmd => cmd.id))).delivered = true :=
        CommandRecord.delivered_mark.mpr (.inr (by simpa using hmarked))
      rw [hdelivered] at hstays
      exact absurd hstays (by simp)
    rw [CommandRecord.toCommand_mark]
    exact h.waiting r₀ hr₀ (by simpa using hmine) hdelivered₀
  · intro cmd hcmd hmine
    exact (h.received cmd hcmd hmine).imp_right (Marked.grows hgrows)
  · intro p hp hmine r hr r' hr' hfirst hsecond hdelivered
    obtain ⟨r₀, hr₀, rfl⟩ := (hmem r).mp hr
    obtain ⟨r₀', hr₀', rfl⟩ := (hmem r').mp hr'
    rw [CommandRecord.toCommand_mark] at hfirst hsecond
    by_cases hwas : r₀.delivered = true
    · exact CommandRecord.delivered_mark.mpr (.inr hwas)
    -- The first one is still undelivered: so was the second, which the heartbeat has chosen.
    refine hids r₀ hr₀ ?_
    rcases CommandRecord.delivered_mark.mp hdelivered with hid | hold
    · obtain ⟨cmd, hcmd, hid⟩ := List.mem_map.mp hid
      have heq : cmd = r₀' := row_unique (hchosen.waiting cmd hcmd).1 hr₀' hid
      have hchosen' := hchosen.complete p hp
        (List.mem_map.mpr ⟨cmd, hcmd, by rw [heq, hsecond]⟩) r₀ hr₀ hfirst (by simpa using hwas)
      exact List.mem_map.mpr ⟨r₀, hchosen', rfl⟩
    · exact absurd (h.ordered p hp hmine r₀ hr₀ r₀' hr₀' hfirst hsecond hold) hwas
  · intro response hin hmine
    exact absurd hmine (h.serial.alone i _ here rfl response hin)
  · intro j stage hj
    rcases Lib.eq_of_update hj with ⟨-, hnew⟩ | ⟨hne, hold⟩
    · obtain rfl := Option.some.inj hnew
      exact fun _ => hdone
    · exact Stage.exact_of_agent (hnone j stage hne hold)

/-! ## Calls -/

section Ask

variable {dispatched : Bool} {cmd : Command}

omit [DecidableEq ι] in
lemma not_first (hsound : q.Sound) (fresh : cmd.id ∉ q.issued) :
    ∀ p ∈ q.order, p.1 ≠ cmd := by
  rintro p hp rfl
  exact fresh (hsound.issued (hsound.enqueued _ (hsound.order p hp).1))

omit [DecidableEq ι] in
lemma precedes_of_ask (hsound : q.Sound) (fresh : cmd.id ∉ q.issued) {first second : Command}
    (hne : second ≠ cmd) (h : (q.ask dispatched cmd).Precedes first second) :
    q.Precedes first second := by
  obtain ⟨hpair, hdispatched⟩ := h
  have hold : (first, second) ∈ q.order := by
    rcases List.mem_append.mp hpair with hold | hnew
    · exact hold
    · obtain ⟨c, -, heq⟩ := List.mem_map.mp hnew
      exact absurd (congrArg Prod.snd heq).symm hne
  refine ⟨hold, fun hsecond => ?_⟩
  have hfirst : first ≠ cmd := not_first hsound fresh _ hold
  cases dispatched with
  | false => exact hdispatched hsecond
  | true =>
    rcases List.mem_cons.mp (hdispatched (List.mem_cons_of_mem _ hsecond)) with heq | hmem
    · exact absurd heq hfirst
    · exact hmem

omit [DecidableEq ι] in
lemma receivedBy_ask : (q.ask dispatched cmd).receivedBy agentID =
    q.receivedBy agentID ++ (if dispatched = true ∧ cmd.agentID = agentID then [cmd] else []) := by
  cases dispatched with
  | false => simp [Traffic.ask, Traffic.receivedBy]
  | true =>
    by_cases hmine : cmd.agentID = agentID
    · simp [Traffic.ask, Traffic.receivedBy, hmine]
    · simp [Traffic.ask, Traffic.receivedBy, hmine]

omit [DecidableEq ι] in
lemma appendable_ask {cmds : List Command} (hsound : q.Sound) (fresh : cmd.id ∉ q.issued)
    (h : Appendable q.toTraffic q.store.commands agentID cmds) :
    Appendable (q.ask dispatched cmd) q.store.commands agentID cmds := by
  have hreceived : ∀ x ∈ q.receivedBy agentID, x ≠ cmd := by
    rintro x hx rfl
    have hmem : x ∈ q.received := List.mem_of_mem_filter hx
    exact fresh (hsound.issued (hsound.received x hmem))
  have hcarried : ∀ x ∈ cmds, x ≠ cmd := by
    rintro x hx rfl
    exact fresh (hsound.issued (.inr (h.marked x hx).2.inTable))
  have hknown : ∀ x ∈ q.receivedBy agentID ++ cmds, x ≠ cmd := by
    intro x hx
    rcases List.mem_append.mp hx with hx | hx
    · exact hreceived x hx
    · exact hcarried x hx
  have horder : (q.receivedBy agentID ++ cmds).Pairwise
      (fun first second => ¬ (q.ask dispatched cmd).Precedes second first) := by
    refine h.inOrder.imp_of_mem fun {x y} hx _ hnot hprecedes => ?_
    exact hnot (precedes_of_ask hsound fresh (hknown x hx) hprecedes)
  refine ⟨?_, ?_, h.marked⟩
  · show ((q.ask dispatched cmd).receivedBy agentID ++ cmds).Nodup
    rw [receivedBy_ask]
    split
    case isFalse => simpa using h.nodup
    case isTrue =>
      rw [List.append_assoc, List.singleton_append, List.nodup_middle, List.nodup_cons]
      exact ⟨fun hmem => hknown cmd hmem rfl, h.nodup⟩
  · show ((q.ask dispatched cmd).receivedBy agentID ++ cmds).Pairwise _
    rw [receivedBy_ask]
    split
    case isFalse => simpa using horder
    case isTrue hdirect =>
      obtain ⟨rfl, -⟩ := hdirect
      rw [List.append_assoc, List.singleton_append]
      obtain ⟨hbefore, hafter, hacross⟩ := List.pairwise_append.mp horder
      refine List.pairwise_append.mpr ⟨hbefore, List.pairwise_cons.mpr ⟨?_, hafter⟩, ?_⟩
      · -- What the response carries was queued, and a dispatched command does not wait for it.
        rintro y hy ⟨-, hdispatched⟩
        rcases List.mem_cons.mp (hdispatched List.mem_cons_self) with heq | hmem
        · exact hcarried y hy heq
        · exact (hsound.dispatched y hmem).2.2 (h.marked y hy).2.inTable.hasKey
      · intro x hx y hy
        rcases List.mem_cons.mp hy with rfl | hy
        · intro hprecedes
          have hold := precedes_of_ask hsound fresh (hreceived x hx) hprecedes
          exact not_first hsound fresh _ hold.1 rfl
        · exact hacross x hx y hy

lemma Exact.ask (h : q.Exact agentID) (hsound : q.Sound) (fresh : cmd.id ∉ q.issued) :
    Exact { q.ask dispatched cmd with
      stages := Function.update q.stages i (some (Stage.start (.enqueueCommand dispatched cmd)))
      store := tick q.store } agentID := by
  -- No row is the new command, and every new pair ends at it.
  have hnew : ∀ r ∈ q.store.commands, r.toCommand ≠ cmd := by
    rintro r hr rfl
    exact fresh (hsound.rows r hr).1
  have horder : ∀ p ∈ (q.ask dispatched cmd).order, p ∈ q.order ∨ p.2 = cmd := by
    intro p hp
    rcases List.mem_append.mp hp with hold | hadded
    · exact .inl hold
    · obtain ⟨c, -, rfl⟩ := List.mem_map.mp hadded
      exact .inr rfl
  have hreceived : ∀ c ∈ (q.ask dispatched cmd).received,
      c ∈ q.received ∨ (c = cmd ∧ c ∈ (q.ask dispatched cmd).dispatched) := by
    intro c hc
    cases dispatched with
    | false => exact .inl hc
    | true =>
      rcases List.mem_append.mp hc with hold | hadded
      · exact .inl hold
      · obtain rfl := List.mem_singleton.mp hadded
        exact .inr ⟨rfl, List.mem_cons_self⟩
  refine ⟨h.serial.update ?_, ?_, ?_, ?_, appendable_ask hsound fresh h.appendable,
    fun response hin hmine => appendable_ask hsound fresh (h.responses response hin hmine), ?_⟩
  · cases dispatched <;> simp [Stage.start, Stage.agent]
  · intro r hr hmine hdelivered hin
    rcases hreceived _ hin with hold | ⟨heq, -⟩
    · exact h.waiting r hr hmine hdelivered hold
    · exact hnew r hr heq
  · intro c hc hmine
    rcases hreceived c hc with hold | ⟨-, hdirect⟩
    · rcases h.received c hold hmine with hdirect | hmarked
      · refine .inl ?_
        cases dispatched with
        | false => exact hdirect
        | true => exact List.mem_cons_of_mem _ hdirect
      · exact .inr hmarked
    · exact .inl hdirect
  · intro p hp hmine r hr r' hr' hfirst hsecond
    rcases horder p hp with hold | heq
    · exact h.ordered p hold hmine r hr r' hr' hfirst hsecond
    · exact absurd (hsecond.trans heq) (hnew r' hr')
  · intro j stage hj
    rcases Lib.eq_of_update hj with ⟨-, hstart⟩ | ⟨-, hold⟩
    · obtain rfl := Option.some.inj hstart
      cases dispatched <;> trivial
    · have hexact := h.stages j stage hold
      -- What was chosen from the table cannot have the new command before it.
      have hchosen : ∀ {cmds : List CommandRecord},
          Chosen q.toTraffic q.store.commands agentID cmds →
          Chosen (q.ask dispatched cmd) q.store.commands agentID cmds := by
        intro cmds hc
        have hrow : ∀ x ∈ cmds.map CommandRecord.toCommand, x ≠ cmd := by
          intro x hx
          obtain ⟨r, hr, rfl⟩ := List.mem_map.mp hx
          exact hnew r (hc.waiting r hr).1
        refine ⟨hc.nodup, hc.inOrder.imp_of_mem fun {x y} hx _ hnot hprecedes => ?_, hc.waiting, ?_⟩
        · exact hnot (precedes_of_ask hsound fresh (hrow x hx) hprecedes)
        · intro p hp hsecond
          rcases horder p hp with hold | heq
          · exact hc.complete p hold hsecond
          · exact absurd heq (hrow _ hsecond)
      cases stage with
      | selecting agent snapshot =>
        intro heq snap hsnap
        have hseen := hexact heq snap hsnap
        refine ⟨hseen.rows, fun p hp r' hr' hsecond hmine => ?_⟩
        rcases horder p hp with hold | heq'
        · exact hseen.closed p hold r' hr' hsecond hmine
        · exact absurd (hsecond.trans heq') (hnew r' (hseen.rows r' hr' hmine))
      | marking agent cmds snapshot => exact fun heq => hchosen (hexact heq)
      | committing agent cmds pending => exact fun heq => hchosen (hexact heq)
      | done agent cmds => exact fun heq => appendable_ask hsound fresh (hexact heq)
      | _ => trivial

end Ask

/-! ## Returns and responses -/

lemma Exact.close {enqueued : List Command} {responses : List (AgentID × List Command)}
    (h : q.Exact agentID) (hserial : Serial (Function.update q.stages i none) responses agentID)
    (hresponses : ∀ response ∈ responses, response.1 = agentID →
      Appendable q.toTraffic q.store.commands agentID response.2) :
    Exact { q with
      enqueued := enqueued
      responses := responses
      stages := Function.update q.stages i none
      store := tick q.store } agentID := by
  let traffic : Traffic := { q.toTraffic with enqueued := enqueued, responses := responses }
  have hreceived : traffic.receivedBy agentID = q.receivedBy agentID := rfl
  have horder : traffic.order = q.order := rfl
  have hdirect : traffic.dispatched = q.dispatched := rfl
  refine ⟨hserial, h.waiting, h.received, h.ordered,
    h.appendable.transfer hreceived horder hdirect, fun response hin hmine => ?_,
    fun j stage hj => ?_⟩
  · exact (hresponses response hin hmine).transfer hreceived horder hdirect
  · rcases Lib.eq_of_update hj with ⟨-, hnone⟩ | ⟨-, hold⟩
    · exact absurd hnone (by simp)
    · exact (h.stages j stage hold).transfer hreceived horder hdirect

lemma Exact.finish {stage : Stage} {result : CommandResult} (h : q.Exact agentID)
    (here : q.stages i = some stage) (returned : stage.session.prog = .ret result) :
    Exact { q.onReturn stage.session.call result with
      stages := Function.update q.stages i none
      store := tick q.store } agentID := by
  have hstage := h.stages i stage here
  cases stage with
  | inserting cmd snapshot => exact absurd returned (by simp [Stage.session, Twin.enqueueCommand])
  | beginning agent => exact absurd returned (by simp [Stage.session, dequeueCommands_eq])
  | selecting agent snapshot => exact absurd returned (by simp [Stage.session, queryLeft])
  | marking agent cmds snapshot => exact absurd returned (by simp [Stage.session, markLeft])
  | committing agent cmds pending => exact absurd returned (by simp [Stage.session, commitLeft])
  | enqueued | notEnqueued =>
    obtain rfl := Lib.Prog.ret.inj returned
    exact h.close h.serial.close h.responses
  | done agent cmds =>
    obtain rfl := Lib.Prog.ret.inj returned
    refine h.close (h.serial.answer here rfl) fun response hresponse hmine => ?_
    rcases List.mem_append.mp hresponse with hold | hnew
    · exact h.responses response hold hmine
    · obtain rfl := List.mem_singleton.mp hnew
      exact hstage hmine
  | failed agent text tx =>
    obtain rfl := Lib.Prog.ret.inj returned
    refine h.close (h.serial.answer here rfl) fun response hresponse hmine => ?_
    rcases List.mem_append.mp hresponse with hold | hnew
    · exact h.responses response hold hmine
    · obtain rfl := List.mem_singleton.mp hnew
      exact h.appendable

omit [DecidableEq ι] in
lemma Exact.lose {k : ℕ} {lost : List Command} (h : q.Exact agentID) :
    Exact { q with responses := q.responses.eraseIdx k, lost := lost } agentID := by
  let traffic : Traffic :=
    { q.toTraffic with responses := q.responses.eraseIdx k, lost := lost }
  have hreceived : traffic.receivedBy agentID = q.receivedBy agentID := rfl
  have horder : traffic.order = q.order := rfl
  have hdirect : traffic.dispatched = q.dispatched := rfl
  refine ⟨h.serial.erase k, h.waiting, h.received, h.ordered,
    h.appendable.transfer hreceived horder hdirect, fun response hin hmine => ?_,
    fun j stage hj => (h.stages j stage hj).transfer hreceived horder hdirect⟩
  have hold := h.responses response (List.mem_of_mem_eraseIdx hin) hmine
  exact hold.transfer hreceived horder hdirect

omit [DecidableEq ι] in
lemma Exact.receive {k : ℕ} {cmds : List Command} (h : q.Exact agentID)
    (here : q.responses[k]? = some (agentID, cmds)) :
    Exact { q with responses := q.responses.eraseIdx k, received := q.received ++ cmds }
      agentID := by
  have hcarried := h.responses _ (List.mem_of_getElem? here) rfl
  have hlast := h.serial.last here rfl
  have hmine : cmds.filter (fun cmd => cmd.agentID = agentID) = cmds := by
    rw [List.filter_eq_self]
    intro cmd hcmd
    simpa using (hcarried.marked cmd hcmd).1
  have hreceivedBy : (q.received ++ cmds).filter (fun cmd => cmd.agentID = agentID) =
      q.receivedBy agentID ++ cmds := by
    rw [List.filter_append, hmine]
    rfl
  have hnone : ∀ j stage, q.stages j = some stage → stage.agent ≠ some agentID := by
    intro j stage hj hstage
    exact h.serial.alone j stage hj hstage _ (List.mem_of_getElem? here) rfl
  refine ⟨h.serial.erase k, ?_, ?_, h.ordered, ⟨?_, ?_, by simp⟩,
    fun response hin heq => absurd heq (hlast response hin),
    fun j stage hj => Stage.exact_of_agent (hnone j stage hj)⟩
  · intro r hr hagent hdelivered hin
    rcases List.mem_append.mp hin with hold | hnew
    · exact h.waiting r hr hagent hdelivered hold
    · obtain ⟨-, r', hr', hcmd, hmarked⟩ := hcarried.marked _ hnew
      obtain rfl : r' = r := row_unique hr' hr (by rw [hcmd])
      rw [hdelivered] at hmarked
      exact absurd hmarked (by simp)
  · intro cmd hcmd hagent
    rcases List.mem_append.mp hcmd with hold | hnew
    · exact h.received cmd hold hagent
    · exact .inr (hcarried.marked cmd hnew).2
  · rw [List.append_nil]
    show ((q.received ++ cmds).filter _).Nodup
    rw [hreceivedBy]
    exact hcarried.nodup
  · rw [List.append_nil]
    show ((q.received ++ cmds).filter _).Pairwise _
    rw [hreceivedBy]
    exact hcarried.inOrder

omit [DecidableEq ι] in
lemma Exact.receive_other {k : ℕ} {agent : AgentID} {cmds : List Command} (h : q.Exact agentID)
    (hsound : q.Sound) (here : q.responses[k]? = some (agent, cmds)) (hother : agent ≠ agentID) :
    Exact { q with responses := q.responses.eraseIdx k, received := q.received ++ cmds }
      agentID := by
  have htheirs : ∀ cmd ∈ cmds, cmd.agentID ≠ agentID := by
    intro cmd hcmd hmine
    have := (hsound.responses _ (List.mem_of_getElem? here) cmd hcmd).1
    exact hother (this.symm.trans hmine)
  let traffic : Traffic :=
    { q.toTraffic with responses := q.responses.eraseIdx k, received := q.received ++ cmds }
  have hreceived : traffic.receivedBy agentID = q.receivedBy agentID := by
    have hnone : cmds.filter (fun cmd => cmd.agentID = agentID) = [] := by
      rw [List.filter_eq_nil_iff]
      intro cmd hcmd
      simpa using htheirs cmd hcmd
    show (q.received ++ cmds).filter _ = _
    rw [List.filter_append, hnone, List.append_nil]
    rfl
  have horder : traffic.order = q.order := rfl
  have hdirect : traffic.dispatched = q.dispatched := rfl
  refine ⟨h.serial.erase k, ?_, ?_, h.ordered,
    h.appendable.transfer hreceived horder hdirect, fun response hin hmine => ?_,
    fun j stage hj => (h.stages j stage hj).transfer hreceived horder hdirect⟩
  · intro r hr hmine hdelivered hin
    rcases List.mem_append.mp hin with hold | hnew
    · exact h.waiting r hr hmine hdelivered hold
    · exact htheirs _ hnew hmine
  · intro cmd hcmd hmine
    rcases List.mem_append.mp hcmd with hold | hnew
    · exact h.received cmd hold hmine
    · exact absurd hmine (htheirs cmd hnew)
  · have hold := h.responses response (List.mem_of_mem_eraseIdx hin) hmine
    exact hold.transfer hreceived horder hdirect

/-! ## Every step -/

/-- Every step keeps `Exact`, as long as the agent's heartbeats do not overlap. -/
lemma exact_step {opens : Option AgentID} (h : q.Exact agentID) (hsound : q.Sound)
    (hserial : opens = some agentID → ¬ q.Outstanding agentID) (hstep : q.Step opens q') :
    q'.Exact agentID := by
  cases hstep with
  | ask i dispatched cmd free fresh => exact h.ask hsound fresh
  | heartbeat i agent free => exact h.restage (fun hagent => .inr (hserial hagent)) trivial
  | receive k traffic here =>
    obtain ⟨⟨agent, cmds⟩, hresponse, rfl⟩ := Option.map_eq_some_iff.mp here
    by_cases hmine : agent = agentID
    · subst hmine
      exact h.receive hresponse
    · exact h.receive_other hsound hresponse hmine
  | lose k traffic here =>
    obtain ⟨response, -, rfl⟩ := Option.map_eq_some_iff.mp here
    exact h.lose
  | finish i stage result here returned => exact h.finish here returned
  | act i stage stage' s' here next =>
    have hstage := h.stages i stage here
    cases next with
    | issueInsert cmd => exact h.restage (by simp [Stage.agent]) trivial
    | insert cmd snapshot fresh =>
      exact h.beside hsound (beside_insert hsound here) (by simp [Stage.agent])
    | notInsert cmd snapshot => exact h.restage (by simp [Stage.agent]) trivial
    | begin agent =>
      exact h.restage (fun hagent => .inl ⟨_, here, hagent⟩) (fun _ => by simp)
    | issueSelect agent =>
      refine h.restage (fun hagent => .inl ⟨_, here, hagent⟩) (fun _ snap hsnap => ?_)
      obtain rfl := Option.some.inj hsnap
      exact ⟨fun r hr _ => hr, fun p _ r' _ _ _ r hr _ => hr⟩
    | select agent snapshot =>
      have hchosen : agent = agentID →
          Chosen q.toTraffic q.store.commands agentID (snapshot.pending agent) := by
        rintro rfl
        exact chosen_pending hsound (hstage rfl snapshot rfl)
      unfold Stage.fetched
      split
      case isTrue => exact h.restage (fun hagent => .inl ⟨_, here, hagent⟩) hchosen
      case isFalse => exact h.restage (fun hagent => .inl ⟨_, here, hagent⟩) hchosen
    | issueMark agent cmds => exact h.restage (fun hagent => .inl ⟨_, here, hagent⟩) hstage
    | mark agent cmds snapshot => exact h.restage (fun hagent => .inl ⟨_, here, hagent⟩) hstage
    | commit agent cmds pending =>
      by_cases hmine : agent = agentID
      · subst hmine
        exact h.commit hsound here
      · refine h.beside hsound (beside_commit hsound here hmine) ?_
        simpa [Stage.agent] using hmine
    | fail stage agent text tx heartbeat running =>
      refine h.restage (fun hagent => .inl ⟨stage, here, ?_⟩) trivial
      rw [heartbeat]
      exact hagent

end Desk

/-! ## The result -/

section Delivery

variable {ι : Type} [DecidableEq ι]

lemma desk_of_run {es : List (DeliveryEvent ι)} {d : Delivery ι}
    (run : Lib.Run Delivery.step Lib.Unguarded Delivery.init es d) :
    ∃ q : Desk ι, q.Shows d ∧ q.Sound := by
  refine run.invariant (I := fun d => ∃ q : Desk ι, q.Shows d ∧ q.Sound) ?_
    ⟨Desk.init, Desk.shows_init, Desk.sound_init⟩
  rintro d e d' ⟨q, hshows, hsound⟩ - hstep
  obtain ⟨q', hq', hshows'⟩ := delivery_step hshows hstep
  exact ⟨q', hshows', Desk.sound_step hsound hq'⟩

omit [DecidableEq ι] in
lemma outstanding_of_shows {q : Desk ι} {d : Delivery ι} {agentID : AgentID}
    (hshows : q.Shows d) (h : q.Outstanding agentID) : d.Outstanding agentID := by
  rcases h with ⟨i, stage, hstage, hagent⟩ | hresponse
  · refine .inl ⟨i, stage.session, ?_, (stage.call_session agentID).mpr hagent⟩
    rw [hshows.sessions, hstage]
    rfl
  · refine .inr ?_
    show ∃ response ∈ d.toTraffic.responses, _
    rw [hshows.traffic]
    exact hresponse

lemma exact_of_run {agentID : AgentID} {es : List (DeliveryEvent ι)} {d : Delivery ι}
    (run : Lib.Run Delivery.step (Delivery.OneHeartbeat agentID) Delivery.init es d) :
    ∃ q : Desk ι, q.Shows d ∧ q.Exact agentID := by
  suffices h : ∃ q : Desk ι, q.Shows d ∧ q.Sound ∧ q.Exact agentID by
    obtain ⟨q, hshows, -, hexact⟩ := h
    exact ⟨q, hshows, hexact⟩
  refine run.invariant (I := fun d => ∃ q : Desk ι, q.Shows d ∧ q.Sound ∧ q.Exact agentID) ?_
    ⟨Desk.init, Desk.shows_init, Desk.sound_init, Desk.exact_init⟩
  rintro d e d' ⟨q, hshows, hsound, hexact⟩ hguard hstep
  obtain ⟨q', hq', hshows'⟩ := delivery_step hshows hstep
  refine ⟨q', hshows', Desk.sound_step hsound hq', Desk.exact_step hexact hsound ?_ hq'⟩
  intro hopens houtstanding
  have := outstanding_of_shows hshows houtstanding
  cases e with
  | receive k => exact absurd hopens (by simp [DeliveryEvent.opens])
  | lose k => exact absurd hopens (by simp [DeliveryEvent.opens])
  | server e =>
    cases e with
    | act i a => exact absurd hopens (by simp [DeliveryEvent.opens])
    | finish i => exact absurd hopens (by simp [DeliveryEvent.opens])
    | call i call =>
      cases call with
      | enqueueCommand dispatched cmd => exact absurd hopens (by simp [DeliveryEvent.opens])
      | heartbeat agent => exact hguard (Option.some.inj hopens) this

/-- Delivery of commands. In every run, a command whose enqueue has returned is still queued, on
its way, received or lost with a response; and an agent whose heartbeats do not overlap has
received its commands at most once, none of them after a command it comes before. -/
theorem commands_delivered {es : List (DeliveryEvent ι)} {d : Delivery ι}
    (run : Lib.Run Delivery.step Lib.Unguarded Delivery.init es d) :
    (∀ cmd ∈ d.enqueued, d.Queued cmd ∨ d.Carried cmd ∨ cmd ∈ d.received ∨ cmd ∈ d.lost) ∧
      ∀ agentID, Lib.Run Delivery.step (Delivery.OneHeartbeat agentID) Delivery.init es d →
        (d.receivedBy agentID).Nodup ∧
        (d.receivedBy agentID).Pairwise (fun earlier later => ¬ d.Precedes later earlier) := by
  constructor
  · obtain ⟨q, ⟨htraffic, hstore, hsessions⟩, hsound⟩ := desk_of_run run
    intro cmd hcmd
    show (∃ record ∈ d.server.store.commands, _) ∨ (_ ∨ ∃ response ∈ d.toTraffic.responses, _) ∨
      cmd ∈ d.toTraffic.received ∨ cmd ∈ d.toTraffic.lost
    rw [htraffic, hstore]
    have henqueued : cmd ∈ q.enqueued := by
      rw [← htraffic]
      exact hcmd
    rcases hsound.enqueued cmd henqueued with hdirect | ⟨r, hr, rfl⟩
    · exact .inr (.inr (.inl (hsound.dispatched cmd hdirect).1))
    · cases hdelivered : r.delivered with
      | false => exact .inl ⟨r, hr, rfl, hdelivered⟩
      | true =>
        rcases hsound.marked r hr hdelivered with
          ⟨i, agentID, cmds, hi, hmem⟩ | hresponse | hrest
        · refine .inr (.inl (.inl ⟨i, agentID, cmds, (Stage.done agentID cmds).session, ?_, rfl,
            rfl, hmem⟩))
          rw [hsessions, hi]
          rfl
        · exact .inr (.inl (.inr hresponse))
        · exact .inr (.inr hrest)
  · intro agentID hserial
    obtain ⟨q, hshows, hexact⟩ := exact_of_run hserial
    have hnodup := hexact.appendable.nodup
    have horder := hexact.appendable.inOrder
    rw [List.append_nil] at hnodup horder
    show (d.toTraffic.receivedBy agentID).Nodup ∧ (d.toTraffic.receivedBy agentID).Pairwise
      (fun earlier later => ¬ d.toTraffic.Precedes later earlier)
    rw [hshows.traffic]
    exact ⟨hnodup, horder⟩

/-- A session from its call to its end, with its actions. -/
def serve (i : ι) (call : CommandCall) (acts : List Lib.Act) : List (DeliveryEvent ι) :=
  ([.call i call] ++ acts.map (.act i) ++ [.finish i] :
    List (Lib.ServerEvent ι CommandCall)).map DeliveryEvent.server

/-- The actions of an enqueue that queues its command. -/
def queueing : List Lib.Act := [.issue, .answer]

/-- The actions of a heartbeat that finds commands. -/
def dequeueing : List Lib.Act := [.control, .issue, .answer, .issue, .answer, .control]

/-- Two commands are queued and arrive with the next heartbeat. -/
theorem commands_delivered_witness : ∃ d : Delivery (Fin 1),
    d.received = [⟨"c1", "a1", 6, "upload"⟩, ⟨"c2", "a1", 8, "\x7b\x7d"⟩] ∧
    (∀ cmd ∈ d.enqueued, d.Queued cmd ∨ d.Carried cmd ∨ cmd ∈ d.received ∨ cmd ∈ d.lost) ∧
    (d.receivedBy "a1").Nodup ∧
    (d.receivedBy "a1").Pairwise (fun earlier later => ¬ d.Precedes later earlier) := by
  let es : List (DeliveryEvent (Fin 1)) :=
    serve 0 (.enqueueCommand false ⟨"c1", "a1", 6, "upload"⟩) queueing ++
    serve 0 (.enqueueCommand false ⟨"c2", "a1", 8, "\x7b\x7d"⟩) queueing ++
    serve 0 (.heartbeat "a1") dequeueing ++ [DeliveryEvent.receive 0]
  have hfold : (es.foldlM (Lib.restrict Delivery.step (Delivery.OneHeartbeat "a1"))
      Delivery.init).map (fun d => d.received) =
      some [⟨"c1", "a1", 6, "upload"⟩, ⟨"c2", "a1", 8, "\x7b\x7d"⟩] := by decide +kernel
  obtain ⟨d, hd, hreceived⟩ := Option.map_eq_some_iff.mp hfold
  have hserial := Lib.run_iff_foldlM_restrict.mpr hd
  obtain ⟨haccounted, honce⟩ := commands_delivered (hserial.mono fun _ _ _ => trivial)
  exact ⟨d, hreceived, haccounted, honce "a1" hserial⟩

/-- A command is marked as delivered, and the response that carries it gets lost. Also, of two
heartbeats that overlap both return the command, and a dispatched command overtakes a queued
one. -/
theorem command_lost :
    (¬ ∀ (es : List (DeliveryEvent (Fin 2))) (d : Delivery (Fin 2)),
      Lib.Run Delivery.step Lib.Unguarded Delivery.init es d → d.ExactlyOnceInOrder) ∧
    (∃ (es : List (DeliveryEvent (Fin 2))) (d : Delivery (Fin 2)),
      Lib.Run Delivery.step Lib.Unguarded Delivery.init es d ∧ ¬ d.received.Nodup) ∧
    ∃ (es : List (DeliveryEvent (Fin 2))) (d : Delivery (Fin 2)),
      Lib.Run Delivery.step Lib.Unguarded Delivery.init es d ∧
        ¬ d.received.Pairwise (fun earlier later => (later, earlier) ∉ d.order) := by
  let first : Command := ⟨"c1", "a1", 6, "upload"⟩
  let second : Command := ⟨"c2", "a1", 8, "retire"⟩
  let queued := serve (0 : Fin 2) (.enqueueCommand false first) queueing
  refine ⟨fun h => ?_, ?_, ?_⟩
  · let es := queued ++ serve (0 : Fin 2) (.heartbeat "a1") dequeueing ++
      [DeliveryEvent.lose 0]
    have hfold : (es.foldlM Delivery.step Delivery.init).map (fun d => (d.enqueued, d.received,
        d.responses.isEmpty && d.server.store.commands.rows.all CommandRecord.delivered &&
          (d.server.sessions 0).isNone && (d.server.sessions 1).isNone)) =
        some ([first], [], true) := by decide +kernel
    obtain ⟨d, hd, hfinal⟩ := Option.map_eq_some_iff.mp hfold
    simp only [Prod.mk.injEq, Bool.and_eq_true, List.isEmpty_iff, List.all_eq_true,
      Option.isNone_iff_eq_none] at hfinal
    obtain ⟨henqueued, hreceived, ⟨⟨hresponses, hrows⟩, hzero⟩, hone⟩ := hfinal
    have hclosed : ∀ i, d.server.sessions i = none := Fin.forall_fin_two.mpr ⟨hzero, hone⟩
    obtain ⟨harrives, -⟩ := h es d (Lib.run_iff_foldlM.mpr hd)
    rcases harrives first (by rw [henqueued]; exact List.mem_cons_self) with
      hmem | ⟨r, hr, -, hundelivered⟩ | ⟨i, agentID, cmds, sess, hsess, -⟩ | ⟨response, hin, -⟩
    · rw [hreceived] at hmem
      exact absurd hmem (by simp)
    · rw [hrows r hr] at hundelivered
      exact absurd hundelivered (by simp)
    · rw [hclosed i] at hsess
      exact absurd hsess (by simp)
    · rw [hresponses] at hin
      exact absurd hin (by simp)
  · -- Both heartbeats select the command before either marks it.
    let select (i : Fin 2) : List (DeliveryEvent (Fin 2)) :=
      ([.call i (.heartbeat "a1"), .act i .control, .act i .issue, .act i .answer]).map .server
    let mark (i : Fin 2) : List (DeliveryEvent (Fin 2)) :=
      ([.act i .issue, .act i .answer, .act i .control, .finish i]).map .server
    let es := queued ++ select 0 ++ select 1 ++ mark 0 ++ mark 1 ++
      [DeliveryEvent.receive 0, DeliveryEvent.receive 0]
    have hfold : (es.foldlM Delivery.step Delivery.init).map (fun d => d.received) =
        some [first, first] := by decide +kernel
    obtain ⟨d, hd, hreceived⟩ := Option.map_eq_some_iff.mp hfold
    refine ⟨es, d, Lib.run_iff_foldlM.mpr hd, ?_⟩
    rw [hreceived]
    decide
  · let es := queued ++ serve (0 : Fin 2) (.enqueueCommand true second) [] ++
      serve (0 : Fin 2) (.heartbeat "a1") dequeueing ++ [DeliveryEvent.receive 0]
    have hfold : (es.foldlM Delivery.step Delivery.init).map (fun d => (d.received, d.order)) =
        some ([second, first], [(first, second)]) := by decide +kernel
    obtain ⟨d, hd, hfinal⟩ := Option.map_eq_some_iff.mp hfold
    obtain ⟨hreceived, horder⟩ := Prod.mk.inj hfinal
    refine ⟨es, d, Lib.run_iff_foldlM.mpr hd, ?_⟩
    rw [hreceived, horder]
    simp

end Delivery

end Paryty.Twin

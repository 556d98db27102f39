import Paryty.Twin.CommandTable

/-!
# No command disappears

`Desk.Sound` holds in every run, whatever the interleaving and whatever gets lost: a command has
a row or was dispatched, and a row that is marked as delivered is in a response, received or
lost. `accounted` reads off what became of the commands operators have enqueued.
-/

namespace Paryty.Twin

/-- The selected commands are of the agent and have rows. -/
def Found (agentID : AgentID) (cmds : List CommandRecord) (t : CommandTable) : Prop :=
  ∀ cmd ∈ cmds, cmd.agentID = agentID ∧ InTable t cmd.toCommand

lemma Found.grows {agentID : AgentID} {cmds : List CommandRecord} {t t' : CommandTable}
    (h : Grows t t') (hfound : Found agentID cmds t) : Found agentID cmds t' :=
  fun cmd hcmd => ⟨(hfound cmd hcmd).1, (hfound cmd hcmd).2.grows h⟩

lemma mem_pending {s : CommandStore} {agentID : AgentID} {r : CommandRecord} :
    r ∈ s.pending agentID ↔ r ∈ s.commands ∧ r.agentID = agentID ∧ r.delivered = false := by
  rw [CommandStore.pending, List.mem_insertionSort, List.mem_filter]
  simp [CommandRecord.Pending, Lib.Table.mem_rows]

lemma found_pending (s : CommandStore) (agentID : AgentID) :
    Found agentID (s.pending agentID) s.commands := by
  intro r hr
  obtain ⟨hmem, hagent, -⟩ := mem_pending.mp hr
  exact ⟨hagent, r, hmem, rfl⟩

/-- What a session has made sure of. -/
def Stage.Sound (t : CommandTable) (dispatched : List Command) : Stage → Prop
  | enqueued true cmd => cmd ∈ dispatched
  | enqueued false cmd => InTable t cmd
  | selecting _ snapshot => ∀ snap ∈ snapshot, Grows snap.commands t
  | marking agentID cmds snapshot => Found agentID cmds t ∧
      ∀ snap ∈ snapshot, Grows snap.commands t ∧ Found agentID cmds snap.commands
  | committing agentID cmds pending => Found agentID cmds t ∧
      Marks (cmds.map (fun cmd => cmd.id)) pending t
  | done agentID cmds => Found agentID cmds t
  | _ => True

lemma Stage.Sound.mono {t t' : CommandTable} {dispatched dispatched' : List Command}
    {stage : Stage} (hgrows : Grows t t') (hsub : dispatched ⊆ dispatched')
    (h : stage.Sound t dispatched) : stage.Sound t' dispatched' := by
  cases stage with
  | inserting cmd snapshot => trivial
  | enqueued direct cmd =>
    cases direct with
    | true => exact hsub h
    | false => exact InTable.grows hgrows h
  | notEnqueued cmd => trivial
  | beginning agentID => trivial
  | selecting agentID snapshot => exact fun snap hsnap => (h snap hsnap).trans hgrows
  | marking agentID cmds snapshot =>
    refine ⟨h.1.grows hgrows, fun snap hsnap => ?_⟩
    exact ⟨(h.2 snap hsnap).1.trans hgrows, (h.2 snap hsnap).2⟩
  | committing agentID cmds pending => exact ⟨h.1.grows hgrows, h.2.grows hgrows⟩
  | done agentID cmds => exact Found.grows hgrows h
  | failed agentID text tx => trivial

namespace Desk

variable {ι : Type}

/-- A heartbeat has dequeued the command, or its response is under way, received or lost. -/
def Sent (q : Desk ι) (cmd : Command) : Prop :=
  (∃ i agentID cmds, q.stages i = some (.done agentID cmds) ∧
    cmd ∈ cmds.map CommandRecord.toCommand) ∨
  (∃ response ∈ q.responses, cmd ∈ response.2) ∨ cmd ∈ q.received ∨ cmd ∈ q.lost

/-- An insert under way: its command is new, and older than it are only the rows its snapshot
was taken after. -/
structure Inserting (q : Desk ι) (cmd : Command) (snapshot : Option CommandStore) : Prop where
  issued : cmd.id ∈ q.issued
  noRow : ¬ q.store.commands.HasKey cmd.id
  notDispatched : ∀ c ∈ q.dispatched, c.id ≠ cmd.id
  taken : ∀ snap ∈ snapshot, snap.clock ≤ q.store.clock
  later : ∀ snap ∈ snapshot, ∀ p ∈ q.order, p.2 = cmd → ∀ r ∈ q.store.commands,
    r.toCommand = p.1 → r.createdAt < snap.clock

/-- What holds in every run. -/
structure Sound (q : Desk ι) : Prop where
  rows : ∀ r ∈ q.store.commands, r.id ∈ q.issued ∧ r.createdAt < q.store.clock
  dispatched : ∀ cmd ∈ q.dispatched,
    cmd ∈ q.received ∧ cmd.id ∈ q.issued ∧ ¬ q.store.commands.HasKey cmd.id
  received : ∀ cmd ∈ q.received, cmd ∈ q.dispatched ∨ InTable q.store.commands cmd
  enqueued : ∀ cmd ∈ q.enqueued, cmd ∈ q.dispatched ∨ InTable q.store.commands cmd
  responses : ∀ response ∈ q.responses, ∀ cmd ∈ response.2,
    cmd.agentID = response.1 ∧ InTable q.store.commands cmd
  marked : ∀ r ∈ q.store.commands, r.delivered = true → q.Sent r.toCommand
  order : ∀ p ∈ q.order, p.1 ∈ q.enqueued ∧ p.1.agentID = p.2.agentID ∧ p.2.id ∈ q.issued
  older : ∀ p ∈ q.order, ∀ r ∈ q.store.commands, ∀ r' ∈ q.store.commands,
    r.toCommand = p.1 → r'.toCommand = p.2 → r.createdAt < r'.createdAt
  inserting : ∀ i cmd snapshot, q.stages i = some (.inserting cmd snapshot) →
    q.Inserting cmd snapshot
  distinct : ∀ i j cmd cmd' s s', q.stages i = some (.inserting cmd s) →
    q.stages j = some (.inserting cmd' s') → cmd.id = cmd'.id → i = j
  stages : ∀ i stage, q.stages i = some stage → stage.Sound q.store.commands q.dispatched

lemma sound_init : (init : Desk ι).Sound := by
  constructor <;> simp [init]

lemma Sound.issued {q : Desk ι} (h : q.Sound) {cmd : Command}
    (hcmd : cmd ∈ q.dispatched ∨ InTable q.store.commands cmd) : cmd.id ∈ q.issued := by
  rcases hcmd with hdispatched | ⟨r, hr, rfl⟩
  · exact (h.dispatched cmd hdispatched).2.1
  · exact (h.rows r hr).1

lemma Inserting.unknown {q : Desk ι} {cmd : Command} {snapshot : Option CommandStore}
    (h : q.Inserting cmd snapshot) : ¬ (cmd ∈ q.dispatched ∨ InTable q.store.commands cmd) := by
  rintro (hdispatched | hrow)
  · exact h.notDispatched cmd hdispatched rfl
  · exact h.noRow hrow.hasKey

variable [DecidableEq ι] {q q' : Desk ι} {i : ι}

/-! ## Calls -/

lemma Sound.ask {dispatched : Bool} {cmd : Command} (h : q.Sound)
    (fresh : cmd.id ∉ q.issued) (free : q.stages i = none) :
    Sound { q.ask dispatched cmd with
      stages := Function.update q.stages i (some (Stage.start (.enqueueCommand dispatched cmd)))
      store := tick q.store } := by
  -- The id is fresh, so nothing in the table or under way is this command.
  have hnoRow : ¬ q.store.commands.HasKey cmd.id := by
    rintro ⟨r, hr, hid⟩
    have hkey : r.id = cmd.id := hid
    exact fresh (hkey ▸ (h.rows r hr).1)
  have hnew : ∀ r ∈ q.store.commands, r.toCommand ≠ cmd := by
    rintro r hr rfl
    exact fresh (h.rows r hr).1
  have hsub : q.dispatched ⊆ if dispatched then cmd :: q.dispatched else q.dispatched := by
    cases dispatched with
    | true => exact List.subset_cons_self _ _
    | false => exact List.Subset.refl _
  have hreceived : ∀ c ∈ q.received,
      c ∈ if dispatched then q.received ++ [cmd] else q.received := by
    intro c hc
    cases dispatched with
    | true => exact List.mem_append_left _ hc
    | false => exact hc
  -- The new pairs of the order all end at the new command.
  have horder : ∀ p ∈ q.order ++
      (q.enqueued.filter (fun c => c.agentID = cmd.agentID)).map (·, cmd),
      p ∈ q.order ∨ (p.1 ∈ q.enqueued ∧ p.1.agentID = cmd.agentID ∧ p.2 = cmd) := by
    intro p hp
    rcases List.mem_append.mp hp with hold | hadded
    · exact .inl hold
    · obtain ⟨c, hc, rfl⟩ := List.mem_map.mp hadded
      obtain ⟨hmem, hagent⟩ := List.mem_filter.mp hc
      exact .inr ⟨hmem, by simpa using hagent, rfl⟩
  constructor
  case rows =>
    intro r hr
    exact ⟨List.mem_cons_of_mem _ (h.rows r hr).1, Nat.lt_succ_of_lt (h.rows r hr).2⟩
  case dispatched =>
    intro c hc
    have hcases : c ∈ q.dispatched ∨ (dispatched = true ∧ c = cmd) := by
      cases dispatched with
      | false => exact .inl hc
      | true => rcases List.mem_cons.mp hc with hc | hc
                · exact .inr ⟨rfl, hc⟩
                · exact .inl hc
    rcases hcases with hold | ⟨rfl, rfl⟩
    · obtain ⟨hr, hissued, hrow⟩ := h.dispatched c hold
      exact ⟨hreceived c hr, List.mem_cons_of_mem _ hissued, hrow⟩
    · exact ⟨by simp [Traffic.ask], List.mem_cons_self, hnoRow⟩
  case received =>
    intro c hc
    cases dispatched with
    | false => exact h.received c hc
    | true =>
      rcases List.mem_append.mp hc with hold | hadded
      · rcases h.received c hold with hold | hrow
        · exact .inl (hsub hold)
        · exact .inr hrow
      · obtain rfl := List.mem_singleton.mp hadded
        exact .inl List.mem_cons_self
  case enqueued =>
    intro c hc
    rcases h.enqueued c hc with hold | hrow
    · exact .inl (hsub hold)
    · exact .inr hrow
  case responses => exact h.responses
  case marked =>
    intro r hr hdelivered
    rcases h.marked r hr hdelivered with ⟨j, agentID, cmds, hj, hmem⟩ | hresponse | hr | hlost
    · refine .inl ⟨j, agentID, cmds, ?_, hmem⟩
      show Function.update q.stages i _ j = _
      rw [Function.update_of_ne, hj]
      rintro rfl
      rw [free] at hj
      exact absurd hj (by simp)
    · exact .inr (.inl hresponse)
    · exact .inr (.inr (.inl (hreceived _ hr)))
    · exact .inr (.inr (.inr hlost))
  case order =>
    intro p hp
    rcases horder p hp with hold | ⟨hfirst, hagent, hsecond⟩
    · obtain ⟨hfirst, hagent, hissued⟩ := h.order p hold
      exact ⟨hfirst, hagent, List.mem_cons_of_mem _ hissued⟩
    · exact ⟨hfirst, by rw [hsecond, hagent], by rw [hsecond]; exact List.mem_cons_self⟩
  case older =>
    intro p hp r hr r' hr' hfirst hsecond
    rcases horder p hp with hold | ⟨-, -, hcmd⟩
    · exact h.older p hold r hr r' hr' hfirst hsecond
    · exact absurd (hsecond.trans hcmd) (hnew r' hr')
  case inserting =>
    intro j c snapshot hj
    rcases Lib.eq_of_update hj with ⟨rfl, hstart⟩ | ⟨-, hold⟩
    · cases dispatched with
      | true => exact absurd (Option.some.inj hstart) (by simp [Stage.start])
      | false =>
        obtain ⟨rfl, rfl⟩ := Stage.inserting.inj (Option.some.inj hstart)
        refine ⟨List.mem_cons_self, hnoRow, fun c hc heq => ?_, by simp, by simp⟩
        exact fresh (heq ▸ (h.dispatched c hc).2.1)
    · -- Another insert under way is for another id.
      obtain ⟨hissued, hrow, hnot, htaken, hlater⟩ := h.inserting j c snapshot hold
      have hne : cmd.id ≠ c.id := fun heq => fresh (heq ▸ hissued)
      refine ⟨List.mem_cons_of_mem _ hissued, hrow, fun c' hc' => ?_,
        fun snap hsnap => Nat.le_succ_of_le (htaken snap hsnap), fun snap hsnap p hp => ?_⟩
      · cases dispatched with
        | false => exact hnot c' hc'
        | true =>
          rcases List.mem_cons.mp hc' with rfl | hc'
          · exact hne
          · exact hnot c' hc'
      · rcases horder p hp with hold | ⟨-, -, hcmd⟩
        · exact hlater snap hsnap p hold
        · rintro rfl
          exact absurd (congrArg Command.id hcmd) hne.symm
  case distinct =>
    intro j k c c' s s' hj hk hid
    -- Either of the two inserts can be the new one; the other has an id that was taken.
    rcases Lib.eq_of_update hj with ⟨rfl, hstart⟩ | ⟨-, hj'⟩ <;>
      rcases Lib.eq_of_update hk with ⟨rfl, hstart'⟩ | ⟨-, hk'⟩
    · rfl
    · cases dispatched with
      | true => exact absurd (Option.some.inj hstart) (by simp [Stage.start])
      | false =>
        obtain ⟨rfl, -⟩ := Stage.inserting.inj (Option.some.inj hstart)
        exact absurd (hid ▸ (h.inserting k c' s' hk').issued) fresh
    · cases dispatched with
      | true => exact absurd (Option.some.inj hstart') (by simp [Stage.start])
      | false =>
        obtain ⟨rfl, -⟩ := Stage.inserting.inj (Option.some.inj hstart')
        exact absurd (hid ▸ (h.inserting j c s hj').issued) fresh
    · exact h.distinct j k c c' s s' hj' hk' hid
  case stages =>
    intro j stage hj
    rcases Lib.eq_of_update hj with ⟨rfl, hstart⟩ | ⟨-, hold⟩
    · obtain rfl := Option.some.inj hstart
      cases dispatched with
      | true => exact List.mem_cons_self
      | false => trivial
    · exact (h.stages j stage hold).mono (.refl _) hsub

/-! ## Sessions that leave the table alone -/

lemma Sound.restage {stage' : Stage} (h : q.Sound)
    (hnotDone : ∀ agentID cmds, q.stages i ≠ some (.done agentID cmds))
    (hstage' : stage'.Sound q.store.commands q.dispatched)
    (hinserting : ∀ cmd snapshot, stage' = .inserting cmd snapshot →
      ∃ s, q.stages i = some (.inserting cmd s) ∧ ∀ snap ∈ snapshot, snap = q.store) :
    Sound { q with
      stages := Function.update q.stages i (some stage')
      store := tick q.store } := by
  refine ⟨fun r hr => ⟨(h.rows r hr).1, Nat.lt_succ_of_lt (h.rows r hr).2⟩, h.dispatched,
    h.received, h.enqueued, h.responses, ?_, h.order, h.older, ?_, ?_, ?_⟩
  · intro r hr hdelivered
    rcases h.marked r hr hdelivered with ⟨j, agentID, cmds, hj, hmem⟩ | hrest
    · refine .inl ⟨j, agentID, cmds, ?_, hmem⟩
      show Function.update q.stages i _ j = _
      rw [Function.update_of_ne, hj]
      rintro rfl
      exact hnotDone agentID cmds hj
    · exact .inr hrest
  · intro j cmd snapshot hj
    rcases Lib.eq_of_update hj with ⟨rfl, hnew⟩ | ⟨-, hold⟩
    · obtain ⟨s, hs, hsnap⟩ := hinserting cmd snapshot (Option.some.inj hnew)
      obtain ⟨hissued, hrow, hnot, -, -⟩ := h.inserting j cmd s hs
      refine ⟨hissued, hrow, hnot, fun snap hmem => ?_, fun snap hmem p _ _ r hr _ => ?_⟩
      · rw [hsnap snap hmem]
        exact Nat.le_succ _
      · rw [hsnap snap hmem]
        exact (h.rows r hr).2
    · obtain ⟨hissued, hrow, hnot, htaken, hlater⟩ := h.inserting j cmd snapshot hold
      exact ⟨hissued, hrow, hnot, fun snap hsnap => Nat.le_succ_of_le (htaken snap hsnap), hlater⟩
  · intro j k cmd cmd' s s' hj hk hid
    rcases Lib.eq_of_update hj with ⟨rfl, hnew⟩ | ⟨-, hj'⟩ <;>
      rcases Lib.eq_of_update hk with ⟨rfl, hnew'⟩ | ⟨-, hk'⟩
    · rfl
    · obtain ⟨s₀, hs₀, -⟩ := hinserting cmd s (Option.some.inj hnew)
      exact h.distinct j k cmd cmd' s₀ s' hs₀ hk' hid
    · obtain ⟨s₀, hs₀, -⟩ := hinserting cmd' s' (Option.some.inj hnew')
      exact h.distinct j k cmd cmd' s s₀ hj' hs₀ hid
    · exact h.distinct j k cmd cmd' s s' hj' hk' hid
  · intro j stage hj
    rcases Lib.eq_of_update hj with ⟨rfl, hnew⟩ | ⟨-, hold⟩
    · obtain rfl := Option.some.inj hnew
      exact hstage'
    · exact h.stages j stage hold

/-! ## The insert and the commit -/

lemma Sound.insert {cmd : Command} {snapshot : CommandStore} (h : q.Sound)
    (here : q.stages i = some (.inserting cmd (some snapshot))) :
    Sound { q with
      stages := Function.update q.stages i (some (.enqueued false cmd))
      store := tick { q.store with
        commands := q.store.commands.put { toCommand := cmd, createdAt := snapshot.clock } } } := by
  obtain ⟨hissued, hrow, hnot, htaken, hlater⟩ := h.inserting i cmd _ here
  have hunknown := (h.inserting i cmd _ here).unknown
  let row : CommandRecord := { toCommand := cmd, createdAt := snapshot.clock }
  have hmem : ∀ {r}, r ∈ q.store.commands.put row ↔ r = row ∨ r ∈ q.store.commands :=
    mem_put_fresh hrow
  have hgrows : Grows q.store.commands (q.store.commands.put row) := grows_put hrow
  -- Nothing was asked for after a command that is only being inserted.
  have hfirst : ∀ p ∈ q.order, p.1 ≠ cmd := by
    rintro p hp rfl
    exact hunknown (h.enqueued _ (h.order p hp).1)
  have hclock : snapshot.clock ≤ q.store.clock := htaken snapshot rfl
  have hothers : ∀ j cmd' s, j ≠ i → q.stages j = some (.inserting cmd' s) → cmd.id ≠ cmd'.id :=
    fun j cmd' s hne hj hid => hne (h.distinct j i cmd' cmd s _ hj here hid.symm)
  constructor
  case rows =>
    intro r hr
    rcases hmem.mp hr with rfl | hold
    · exact ⟨hissued, Nat.lt_succ_of_le hclock⟩
    · exact ⟨(h.rows r hold).1, Nat.lt_succ_of_lt (h.rows r hold).2⟩
  case dispatched =>
    intro c hc
    obtain ⟨hreceived, hcissued, hcrow⟩ := h.dispatched c hc
    refine ⟨hreceived, hcissued, ?_⟩
    rintro ⟨r, hr, hid⟩
    rcases hmem.mp hr with rfl | hold
    · exact hnot c hc (Eq.symm hid)
    · exact hcrow ⟨r, hold, hid⟩
  case received =>
    intro c hc
    exact (h.received c hc).imp_right (InTable.grows hgrows)
  case enqueued =>
    intro c hc
    exact (h.enqueued c hc).imp_right (InTable.grows hgrows)
  case responses =>
    intro response hresponse c hc
    obtain ⟨hagent, hin⟩ := h.responses response hresponse c hc
    exact ⟨hagent, hin.grows hgrows⟩
  case marked =>
    intro r hr hdelivered
    rcases hmem.mp hr with rfl | hold
    · exact absurd hdelivered (by simp [row])
    · rcases h.marked r hold hdelivered with ⟨j, agentID, cmds, hj, hcmds⟩ | hrest
      · refine .inl ⟨j, agentID, cmds, ?_, hcmds⟩
        show Function.update q.stages i _ j = _
        rw [Function.update_of_ne, hj]
        rintro rfl
        rw [here] at hj
        exact absurd (Option.some.inj hj) (by simp)
      · exact .inr hrest
  case order => exact h.order
  case older =>
    intro p hp r hr r' hr' hr₁ hr₂
    rcases hmem.mp hr with rfl | hold
    · exact absurd hr₁.symm (hfirst p hp)
    · rcases hmem.mp hr' with rfl | hold'
      · exact hlater snapshot rfl p hp hr₂.symm r hold hr₁
      · exact h.older p hp r hold r' hold' hr₁ hr₂
  case inserting =>
    intro j cmd' s hj
    rcases Lib.eq_of_update hj with ⟨-, hnew⟩ | ⟨hne, hold⟩
    · exact absurd (Option.some.inj hnew) (by simp)
    · obtain ⟨hissued', hrow', hnot', htaken', hlater'⟩ := h.inserting j cmd' s hold
      refine ⟨hissued', ?_, hnot', fun snap hsnap => Nat.le_succ_of_le (htaken' snap hsnap), ?_⟩
      · rintro ⟨r, hr, hid⟩
        rcases hmem.mp hr with rfl | hr
        · exact hothers j cmd' s hne hold hid
        · exact hrow' ⟨r, hr, hid⟩
      · intro snap hsnap p hp hsecond r hr hr₁
        rcases hmem.mp hr with rfl | hr
        · exact absurd hr₁.symm (hfirst p hp)
        · exact hlater' snap hsnap p hp hsecond r hr hr₁
  case distinct =>
    intro j k c c' s s' hj hk hid
    rcases Lib.eq_of_update hj with ⟨-, hnew⟩ | ⟨-, hj⟩
    · exact absurd (Option.some.inj hnew) (by simp)
    · rcases Lib.eq_of_update hk with ⟨-, hnew⟩ | ⟨-, hk⟩
      · exact absurd (Option.some.inj hnew) (by simp)
      · exact h.distinct j k c c' s s' hj hk hid
  case stages =>
    intro j stage hj
    rcases Lib.eq_of_update hj with ⟨rfl, hnew⟩ | ⟨-, hold⟩
    · obtain rfl := Option.some.inj hnew
      exact ⟨row, hmem.mpr (.inl rfl), rfl⟩
    · exact (h.stages j stage hold).mono hgrows (List.Subset.refl _)

lemma Sound.commit {agentID : AgentID} {cmds : List CommandRecord}
    {pending : List (Lib.Table.RowWrite CommandRecord CommandID)} (h : q.Sound)
    (here : q.stages i = some (.committing agentID cmds pending)) :
    Sound { q with
      stages := Function.update q.stages i (some (.done agentID cmds))
      store := tick { q.store with
        commands := pending.foldl Lib.Table.write q.store.commands } } := by
  obtain ⟨hfound, hmarks⟩ := h.stages i _ here
  have hmem := hmarks q.store.commands (.refl _)
  have hgrows := grows_of_marks hmarks
  have hback : ∀ cmd, InTable (pending.foldl Lib.Table.write q.store.commands) cmd →
      InTable q.store.commands cmd := by
    rintro cmd ⟨r, hr, rfl⟩
    obtain ⟨r₀, hr₀, rfl⟩ := (hmem r).mp hr
    exact ⟨r₀, hr₀, by simp⟩
  have hkey : ∀ k, (pending.foldl Lib.Table.write q.store.commands).HasKey k →
      q.store.commands.HasKey k := by
    rintro k ⟨r, hr, hk⟩
    obtain ⟨r₀, hr₀, rfl⟩ := (hmem r).mp hr
    exact ⟨r₀, hr₀, by simpa using hk⟩
  constructor
  case rows =>
    intro r hr
    obtain ⟨r₀, hr₀, rfl⟩ := (hmem r).mp hr
    obtain ⟨hissued, hclock⟩ := h.rows r₀ hr₀
    refine ⟨by simpa using hissued, ?_⟩
    rw [CommandRecord.createdAt_mark]
    exact Nat.lt_succ_of_lt hclock
  case dispatched =>
    intro c hc
    obtain ⟨hreceived, hissued, hrow⟩ := h.dispatched c hc
    exact ⟨hreceived, hissued, fun hk => hrow (hkey _ hk)⟩
  case received =>
    intro c hc
    exact (h.received c hc).imp_right (InTable.grows hgrows)
  case enqueued =>
    intro c hc
    exact (h.enqueued c hc).imp_right (InTable.grows hgrows)
  case responses =>
    intro response hresponse c hc
    obtain ⟨hagent, hin⟩ := h.responses response hresponse c hc
    exact ⟨hagent, hin.grows hgrows⟩
  case marked =>
    intro r hr hdelivered
    obtain ⟨r₀, hr₀, rfl⟩ := (hmem r).mp hr
    rw [CommandRecord.toCommand_mark]
    rcases CommandRecord.delivered_mark.mp hdelivered with hid | hold
    · -- The heartbeat has marked it and returns it.
      obtain ⟨cmd, hcmd, hid⟩ := List.mem_map.mp hid
      obtain ⟨-, r₁, hr₁, hcommand⟩ := hfound cmd hcmd
      have hsame : r₁ = r₀ := row_unique hr₁ hr₀ (by rw [hcommand, hid])
      refine .inl ⟨i, agentID, cmds, Function.update_self .., ?_⟩
      exact List.mem_map.mpr ⟨cmd, hcmd, by rw [← hsame, hcommand]⟩
    · rcases h.marked r₀ hr₀ hold with ⟨j, agent, cmds', hj, hcmds⟩ | hrest
      · refine .inl ⟨j, agent, cmds', ?_, hcmds⟩
        show Function.update q.stages i _ j = _
        rw [Function.update_of_ne, hj]
        rintro rfl
        rw [here] at hj
        exact absurd (Option.some.inj hj) (by simp)
      · exact .inr hrest
  case order => exact h.order
  case older =>
    intro p hp r hr r' hr' hr₁ hr₂
    obtain ⟨r₀, hr₀, rfl⟩ := (hmem r).mp hr
    obtain ⟨r₀', hr₀', rfl⟩ := (hmem r').mp hr'
    rw [CommandRecord.createdAt_mark, CommandRecord.createdAt_mark]
    exact h.older p hp r₀ hr₀ r₀' hr₀' (by simpa using hr₁) (by simpa using hr₂)
  case inserting =>
    intro j cmd s hj
    rcases Lib.eq_of_update hj with ⟨-, hnew⟩ | ⟨-, hold⟩
    · exact absurd (Option.some.inj hnew) (by simp)
    · obtain ⟨hissued, hrow, hnot, htaken, hlater⟩ := h.inserting j cmd s hold
      refine ⟨hissued, fun hk => hrow (hkey _ hk), hnot,
        fun snap hsnap => Nat.le_succ_of_le (htaken snap hsnap), ?_⟩
      intro snap hsnap p hp hsecond r hr hr₁
      obtain ⟨r₀, hr₀, rfl⟩ := (hmem r).mp hr
      rw [CommandRecord.createdAt_mark]
      exact hlater snap hsnap p hp hsecond r₀ hr₀ (by simpa using hr₁)
  case distinct =>
    intro j k c c' s s' hj hk hid
    rcases Lib.eq_of_update hj with ⟨-, hnew⟩ | ⟨-, hj⟩
    · exact absurd (Option.some.inj hnew) (by simp)
    · rcases Lib.eq_of_update hk with ⟨-, hnew⟩ | ⟨-, hk⟩
      · exact absurd (Option.some.inj hnew) (by simp)
      · exact h.distinct j k c c' s s' hj hk hid
  case stages =>
    intro j stage hj
    rcases Lib.eq_of_update hj with ⟨rfl, hnew⟩ | ⟨-, hold⟩
    · obtain rfl := Option.some.inj hnew
      exact Found.grows hgrows hfound
    · exact (h.stages j stage hold).mono hgrows (List.Subset.refl _)

/-! ## Returns and responses -/

lemma Sound.close {stage : Stage} {traffic : Traffic} (h : q.Sound)
    (here : q.stages i = some stage)
    (hsame : (traffic.received, traffic.lost, traffic.issued, traffic.dispatched, traffic.order) =
      (q.received, q.lost, q.issued, q.dispatched, q.order))
    (henqueued : ∀ cmd ∈ traffic.enqueued, cmd ∈ q.enqueued ∨
      cmd ∈ q.dispatched ∨ InTable q.store.commands cmd)
    (hkept : q.enqueued ⊆ traffic.enqueued)
    (hresponses : ∀ response ∈ traffic.responses, response ∈ q.responses ∨
      ∀ cmd ∈ response.2, cmd.agentID = response.1 ∧ InTable q.store.commands cmd)
    (hsent : q.responses ⊆ traffic.responses)
    (hdone : ∀ agentID cmds, stage = .done agentID cmds →
      (agentID, cmds.map CommandRecord.toCommand) ∈ traffic.responses) :
    Sound { traffic with
      stages := Function.update q.stages i none
      store := tick q.store } := by
  simp only [Prod.mk.injEq] at hsame
  obtain ⟨hreceived, hlost, hissued, hdispatched, horder⟩ := hsame
  -- No session but the closed one changes.
  have hothers : ∀ j stage', Function.update q.stages i none j = some stage' →
      q.stages j = some stage' := by
    intro j stage' hj
    rcases Lib.eq_of_update hj with ⟨-, hnone⟩ | ⟨-, hold⟩
    · exact absurd hnone (by simp)
    · exact hold
  constructor
  case rows =>
    intro r hr
    show r.id ∈ traffic.issued ∧ _
    rw [hissued]
    exact ⟨(h.rows r hr).1, Nat.lt_succ_of_lt (h.rows r hr).2⟩
  case dispatched =>
    show ∀ cmd ∈ traffic.dispatched, cmd ∈ traffic.received ∧ cmd.id ∈ traffic.issued ∧ _
    rw [hdispatched, hreceived, hissued]
    exact h.dispatched
  case received =>
    show ∀ cmd ∈ traffic.received, cmd ∈ traffic.dispatched ∨ _
    rw [hdispatched, hreceived]
    exact h.received
  case enqueued =>
    intro cmd hcmd
    show cmd ∈ traffic.dispatched ∨ _
    rw [hdispatched]
    rcases henqueued cmd hcmd with hold | hnew
    · exact h.enqueued cmd hold
    · exact hnew
  case responses =>
    intro response hresponse
    rcases hresponses response hresponse with hold | hnew
    · exact h.responses response hold
    · exact hnew
  case marked =>
    intro r hr hdelivered
    show (∃ j agentID cmds, Function.update q.stages i none j = some (.done agentID cmds) ∧ _) ∨
      (∃ response ∈ traffic.responses, _) ∨ _ ∈ traffic.received ∨ _ ∈ traffic.lost
    rw [hreceived, hlost]
    rcases h.marked r hr hdelivered with ⟨j, agentID, cmds, hj, hmem⟩ | ⟨response, hin, hmem⟩ | hrest
    · by_cases hji : j = i
      · subst hji
        obtain rfl := Option.some.inj (here.symm.trans hj)
        exact .inr (.inl ⟨_, hdone agentID cmds rfl, hmem⟩)
      · exact .inl ⟨j, agentID, cmds, by rw [Function.update_of_ne hji, hj], hmem⟩
    · exact .inr (.inl ⟨response, hsent hin, hmem⟩)
    · exact .inr (.inr hrest)
  case order =>
    show ∀ p ∈ traffic.order, p.1 ∈ traffic.enqueued ∧ _ ∧ p.2.id ∈ traffic.issued
    rw [horder, hissued]
    exact fun p hp => ⟨hkept (h.order p hp).1, (h.order p hp).2⟩
  case older =>
    show ∀ p ∈ traffic.order, _
    rw [horder]
    exact h.older
  case inserting =>
    intro j cmd s hj
    obtain ⟨hcmd, hrow, hnot, htaken, hlater⟩ := h.inserting j cmd s (hothers j _ hj)
    refine ⟨?_, hrow, ?_, fun snap hsnap => Nat.le_succ_of_le (htaken snap hsnap), ?_⟩
    · show cmd.id ∈ traffic.issued
      rwa [hissued]
    · show ∀ c ∈ traffic.dispatched, _
      rwa [hdispatched]
    · show ∀ snap ∈ s, ∀ p ∈ traffic.order, _
      rwa [horder]
  case distinct =>
    intro j k cmd cmd' s s' hj hk
    exact h.distinct j k cmd cmd' s s' (hothers j _ hj) (hothers k _ hk)
  case stages =>
    intro j stage' hj
    show stage'.Sound q.store.commands traffic.dispatched
    rw [hdispatched]
    exact h.stages j stage' (hothers j _ hj)

lemma Sound.finish {stage : Stage} {result : CommandResult} (h : q.Sound)
    (here : q.stages i = some stage) (returned : stage.session.prog = .ret result) :
    Sound { q.onReturn stage.session.call result with
      stages := Function.update q.stages i none
      store := tick q.store } := by
  have hstage := h.stages i stage here
  cases stage with
  | inserting cmd snapshot => exact absurd returned (by simp [Stage.session, Twin.enqueueCommand])
  | beginning agentID => exact absurd returned (by simp [Stage.session, dequeueCommands_eq])
  | selecting agentID snapshot => exact absurd returned (by simp [Stage.session, queryLeft])
  | marking agentID cmds snapshot => exact absurd returned (by simp [Stage.session, markLeft])
  | committing agentID cmds pending => exact absurd returned (by simp [Stage.session, commitLeft])
  | enqueued dispatched cmd =>
    obtain rfl := Lib.Prog.ret.inj returned
    refine h.close here rfl (fun c hc => ?_) (List.subset_cons_self _ _) (fun _ => .inl)
      (List.Subset.refl _) (by simp)
    -- The call reports a command that is dispatched or in the table, as its stage says.
    rcases List.mem_cons.mp hc with rfl | hold
    · cases dispatched with
      | true => exact .inr (.inl hstage)
      | false => exact .inr (.inr hstage)
    · exact .inl hold
  | notEnqueued cmd =>
    obtain rfl := Lib.Prog.ret.inj returned
    exact h.close here rfl (fun _ => .inl) (List.Subset.refl _) (fun _ => .inl)
      (List.Subset.refl _) (by simp)
  | done agentID cmds =>
    obtain rfl := Lib.Prog.ret.inj returned
    refine h.close here rfl (fun _ => .inl) (List.Subset.refl _) (fun response hresponse => ?_)
      (List.subset_append_left _ _) (fun agent cmds' heq => ?_)
    · rcases List.mem_append.mp hresponse with hold | hnew
      · exact .inl hold
      · obtain rfl := List.mem_singleton.mp hnew
        refine .inr fun cmd hcmd => ?_
        obtain ⟨r, hr, rfl⟩ := List.mem_map.mp hcmd
        exact hstage r hr
    · obtain ⟨rfl, rfl⟩ := Stage.done.inj heq
      exact List.mem_append_right _ List.mem_cons_self
  | failed agentID text tx =>
    obtain rfl := Lib.Prog.ret.inj returned
    refine h.close here rfl (fun _ => .inl) (List.Subset.refl _) (fun response hresponse => ?_)
      (List.subset_append_left _ _) (by simp)
    rcases List.mem_append.mp hresponse with hold | hnew
    · exact .inl hold
    · obtain rfl := List.mem_singleton.mp hnew
      exact .inr (by simp [responseCommands])

omit [DecidableEq ι] in
lemma Sound.respond {k : ℕ} {response : AgentID × List Command} {received lost : List Command}
    (h : q.Sound) (here : q.responses[k]? = some response)
    (hreceived : (received = q.received ++ response.2 ∧ lost = q.lost) ∨
      (received = q.received ∧ lost = q.lost ++ response.2)) :
    Sound { q with responses := q.responses.eraseIdx k, received := received, lost := lost } := by
  have hmem : response ∈ q.responses := List.mem_of_getElem? here
  have hkept : ∀ cmd, cmd ∈ q.received → cmd ∈ received := by
    intro cmd hcmd
    rcases hreceived with ⟨rfl, -⟩ | ⟨rfl, -⟩
    · exact List.mem_append_left _ hcmd
    · exact hcmd
  have hnew : ∀ cmd, cmd ∈ received → cmd ∈ q.received ∨ cmd ∈ response.2 := by
    intro cmd hcmd
    rcases hreceived with ⟨rfl, -⟩ | ⟨rfl, -⟩
    · exact List.mem_append.mp hcmd
    · exact .inl hcmd
  have hlost : ∀ cmd, cmd ∈ q.lost → cmd ∈ lost := by
    intro cmd hcmd
    rcases hreceived with ⟨-, rfl⟩ | ⟨-, rfl⟩
    · exact hcmd
    · exact List.mem_append_left _ hcmd
  have hmoved : ∀ cmd ∈ response.2, cmd ∈ received ∨ cmd ∈ lost := by
    intro cmd hcmd
    rcases hreceived with ⟨rfl, -⟩ | ⟨-, rfl⟩
    · exact .inl (List.mem_append_right _ hcmd)
    · exact .inr (List.mem_append_right _ hcmd)
  refine ⟨h.rows, fun cmd hcmd => ?_, fun cmd hcmd => ?_, h.enqueued, fun other hother => ?_,
    fun r hr hdelivered => ?_, h.order, h.older, fun j cmd s hj => ?_, h.distinct, h.stages⟩
  · obtain ⟨hr, hrest⟩ := h.dispatched cmd hcmd
    exact ⟨hkept cmd hr, hrest⟩
  · rcases hnew cmd hcmd with hold | hadded
    · exact h.received cmd hold
    · exact .inr (h.responses response hmem cmd hadded).2
  · exact h.responses other (List.mem_of_mem_eraseIdx hother)
  · rcases h.marked r hr hdelivered with hdone | ⟨other, hother, hin⟩ | hr | hl
    · exact .inl hdone
    · by_cases heq : other = response
      · subst heq
        exact .inr (.inr (hmoved _ hin))
      · refine .inr (.inl ⟨other, ?_, hin⟩)
        obtain ⟨n, hn⟩ := List.mem_iff_getElem?.mp hother
        refine List.mem_eraseIdx_iff_getElem?.mpr ⟨n, ?_, hn⟩
        rintro rfl
        exact heq (Option.some.inj (hn.symm.trans here))
    · exact .inr (.inr (.inl (hkept _ hr)))
    · exact .inr (.inr (.inr (hlost _ hl)))
  · obtain ⟨hissued, hrow, hnot, htaken, hlater⟩ := h.inserting j cmd s hj
    exact ⟨hissued, hrow, hnot, htaken, hlater⟩

/-- Every step keeps `Sound`. -/
lemma sound_step {opens : Option AgentID} (h : q.Sound) (hstep : q.Step opens q') : q'.Sound := by
  cases hstep with
  | ask i dispatched cmd free fresh => exact h.ask fresh free
  | heartbeat i agentID free =>
    exact h.restage (by simp [free]) trivial (by simp)
  | receive k traffic here =>
    obtain ⟨response, hresponse, rfl⟩ := Option.map_eq_some_iff.mp here
    exact h.respond hresponse (.inl ⟨rfl, rfl⟩)
  | lose k traffic here =>
    obtain ⟨response, hresponse, rfl⟩ := Option.map_eq_some_iff.mp here
    exact h.respond hresponse (.inr ⟨rfl, rfl⟩)
  | finish i stage result here returned => exact h.finish here returned
  | act i stage stage' s' here next =>
    have hstage := h.stages i stage here
    cases next with
    | issueInsert cmd =>
      refine h.restage (by simp [here]) trivial (fun c s heq => ?_)
      obtain ⟨rfl, rfl⟩ := Stage.inserting.inj heq
      exact ⟨none, here, fun snap hsnap => (Option.some.inj hsnap).symm⟩
    | insert cmd snapshot fresh => exact h.insert here
    | notInsert cmd snapshot => exact h.restage (by simp [here]) trivial (by simp)
    | begin agentID => exact h.restage (by simp [here]) (by simp [Stage.Sound]) (by simp)
    | issueSelect agentID =>
      refine h.restage (by simp [here]) (fun snap hsnap => ?_) (by simp)
      obtain rfl := Option.some.inj hsnap
      exact .refl _
    | select agentID snapshot =>
      have hgrows : Grows snapshot.commands q.store.commands := hstage snapshot rfl
      have hfound := (found_pending snapshot agentID).grows hgrows
      unfold Stage.fetched
      split
      case isTrue hempty =>
        rw [hempty]
        refine h.restage (by simp [here]) ⟨by simp [Found], ?_⟩ (by simp)
        exact marks_nil _
      case isFalse =>
        exact h.restage (by simp [here]) ⟨hfound, by simp⟩ (by simp)
    | issueMark agentID cmds =>
      refine h.restage (by simp [here]) ⟨hstage.1, fun snap hsnap => ?_⟩ (by simp)
      obtain rfl := Option.some.inj hsnap
      exact ⟨.refl _, hstage.1⟩
    | mark agentID cmds snapshot =>
      obtain ⟨hgrows, hfound⟩ := hstage.2 snapshot rfl
      refine h.restage (by simp [here]) ⟨hstage.1, marks_updates hgrows fun id hid => ?_⟩ (by simp)
      obtain ⟨cmd, hcmd, rfl⟩ := List.mem_map.mp hid
      exact (hfound cmd hcmd).2.hasKey
    | commit agentID cmds pending => exact h.commit here
    | fail stage agentID text tx heartbeat running =>
      refine h.restage (fun agent cmds hdone => ?_) trivial (by simp)
      exact running agent cmds (Option.some.inj (here.symm.trans hdone))

end Desk

end Paryty.Twin

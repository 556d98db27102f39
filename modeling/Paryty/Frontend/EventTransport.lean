import Paryty.Frontend.EventIngest
import Paryty.Lib.Run

/-!
# Which sources of the event feed run

`Sound`: an active pipeline that is not at the hard level runs the source of its transport mode,
and the WebSocket subscription while a promotion is pending; any other pipeline runs none.

`transport_sound_iff`: a run is sound throughout if and only if all its steps satisfy `Keeps`. A
pipeline that is paused or at the hard level reacts to state changes of the WebSocket and to polls
that fail as if it ran, and an active pipeline is not started again after the hard level.
-/

namespace Paryty.Frontend

variable {Event : Type}

/-! ## Sound pipelines -/

/-- What events can come from. -/
inductive Source
  | ws
  | rest
  | sse
deriving DecidableEq

/-- The sources that are running: the subscription on a connected socket, the timer, the client. -/
def EventIngest.running (s : EventIngest Event) : Source → Bool
  | .ws => s.wsSubscriptionId && s.wsState = .connected
  | .rest => s.restTimerId.isSome
  | .sse => s.sseClient

/-- The sources that should run: that of the mode, and the subscription during a promotion. -/
def EventIngest.due (s : EventIngest Event) : Source → Bool
  | .ws => s.transportMode = .ws || s.graceTimerId
  | .rest => s.transportMode = .rest
  | .sse => s.transportMode = .sse

/-- A pipeline with the last budget level that was set. -/
structure Budgeted (Event : Type) where
  ingest : EventIngest Event
  level : BudgetLevel

namespace Budgeted

open EventIngest (Action)

def new (Event : Type) (config : EventIngestConfig) (now : ℤ) (wsState : WsState) :
    Budgeted Event :=
  ⟨.new Event config now wsState, .normal⟩

def step (id : Event → JSString) (f : Budgeted Event) (action : Action Event) : Budgeted Event where
  ingest := f.ingest.step id action
  level :=
    match action with
    | .setBudgetLevel level _ => level
    | _ => f.level

/-- Active, and not at the hard level. -/
def Live (f : Budgeted Event) : Prop := f.ingest.isActive = true ∧ f.level ≠ .hard

instance (f : Budgeted Event) : Decidable f.Live := inferInstanceAs (Decidable (_ ∧ _))

/-- The sources that should run are running, and the normal level starts the pipeline. -/
structure Sound (f : Budgeted Event) : Prop where
  live : f.Live → (∀ source, f.ingest.running source = f.ingest.due source) ∧
    ∃ source, f.ingest.running source = true
  idle : ¬ f.Live → ∀ source, f.ingest.running source = false
  restarts : ∀ now, f.ingest.stopped = true ∨
    (f.ingest.setBudgetLevel .normal now).isActive = true

/-- The steps that keep a pipeline sound. -/
def Keeps (f : Budgeted Event) : Action Event → Prop
  | .start _ => f.ingest.isActive = true ∨ f.level ≠ .hard
  | .resume _ => f.ingest.stopped = true ∨ f.ingest.isActive = true ∨ f.level ≠ .hard
  | .setBudgetLevel level _ => level = .hard ∨ ¬ (f.ingest.isActive = true ∧ f.level = .hard)
  | .wsStateChange state _ =>
    if f.Live then state = .connecting → f.ingest.running .ws = false
    else
      f.ingest.stopped = true ∨ f.ingest.handlers = 0 ∨ state = .connecting ∨
        (state ≠ .connected ∧ f.ingest.transportMode ≠ .ws)
  | .pollFails place =>
    f.Live ∨ f.ingest.polls[place]? = none ∨ f.ingest.transportMode ≠ .rest ∨
      f.ingest.consecutiveRestFailures + 1 < f.ingest.config.restFailureThreshold
  | _ => True

end Budgeted

/-! ## State changes of the WebSocket -/

namespace EventIngest

variable (s : EventIngest Event)

lemma onWsStateChange_connected {s : EventIngest Event} (hstopped : s.stopped = false) (now : ℤ) :
    s.onWsStateChange .connected now =
      { s with
        wsSubscriptionId := true
        graceTimerId := (s.transportMode = .rest ∨ s.transportMode = .sse) || s.graceTimerId } := by
  rw [onWsStateChange, if_neg (by simp [hstopped])]
  simp only [subscribeWs_eq, startGraceWindow_eq]
  split
  case isTrue h => simp [h]
  case isFalse h => simp [h]

/-- The states in which the socket is lost. -/
def Lost (state : WsState) : Prop :=
  state = .disconnected ∨ state = .reconnecting

lemma onWsStateChange_lost {s : EventIngest Event} {state : WsState} (hstate : Lost state)
    (hstopped : s.stopped = false) (now : ℤ) : s.onWsStateChange state now =
      if s.transportMode = .ws then
        { ({ s with graceTimerId := false }).startRestPolling now with transportMode := .rest }
      else { s with graceTimerId := false } := by
  rcases hstate with rfl | rfl
  · rw [onWsStateChange, if_neg (by simp [hstopped])]
    simp only [cancelGraceWindow_eq, transitionTo_eq]
  · rw [onWsStateChange, if_neg (by simp [hstopped])]
    simp only [cancelGraceWindow_eq, transitionTo_eq]

lemma lost_cases (state : WsState) : state = .connected ∨ Lost state ∨ state = .connecting := by
  cases state with
  | connecting => exact .inr (.inr rfl)
  | connected => exact .inl rfl
  | disconnected => exact .inr (.inl (.inl rfl))
  | reconnecting => exact .inr (.inl (.inr rfl))

lemma startRestPolling_keeps (now : ℤ) :
    let s' := s.startRestPolling now
    s'.started = s.started ∧ s'.stopped = s.stopped ∧ s'.handlers = s.handlers ∧
      s'.wsStateUnsubscriber = s.wsStateUnsubscriber ∧ s'.wsState = s.wsState ∧
      s'.wsSubscriptionId = s.wsSubscriptionId ∧ s'.graceTimerId = s.graceTimerId := by
  unfold startRestPolling pollRest
  split
  · simp
  · split <;> simp

lemma onWsStateChange_twice (state : WsState) (now : ℤ) :
    (s.onWsStateChange state now).onWsStateChange state now = s.onWsStateChange state now := by
  cases hstopped : s.stopped with
  | true => simp [onWsStateChange, hstopped]
  | false =>
    rcases lost_cases state with rfl | hlost | rfl
    · rw [onWsStateChange_connected hstopped, onWsStateChange_connected (by exact hstopped)]
      simp
    · rw [onWsStateChange_lost hlost hstopped]
      by_cases hmode : s.transportMode = .ws
      · rw [if_pos hmode, onWsStateChange_lost hlost, if_neg (by simp)]
        · have hgrace := (startRestPolling_keeps { s with graceTimerId := false } now).2.2.2.2.2.2
          simp [hgrace]
        · exact (startRestPolling_keeps _ now).2.1.trans hstopped
      · rw [if_neg hmode, onWsStateChange_lost hlost (by exact hstopped), if_neg hmode]
    · simp [onWsStateChange, hstopped]

lemma step_wsStateChange (id : Event → JSString) (state : WsState) (now : ℤ) :
    s.step id (.wsStateChange state now) =
      if s.handlers = 0 then { s with wsState := state }
      else ({ s with wsState := state }).onWsStateChange state now := by
  rw [step]
  cases s.handlers with
  | zero => rfl
  | succ n =>
    rw [if_neg (Nat.succ_ne_zero n), Function.iterate_succ_apply]
    exact Function.iterate_fixed (onWsStateChange_twice _ state now) n

/-- Two pipelines with the same transports. -/
structure SameTransports (s s' : EventIngest Event) : Prop where
  transportMode : s'.transportMode = s.transportMode
  wsStateUnsubscriber : s'.wsStateUnsubscriber = s.wsStateUnsubscriber
  wsSubscriptionId : s'.wsSubscriptionId = s.wsSubscriptionId
  restTimerId : s'.restTimerId = s.restTimerId
  sseClient : s'.sseClient = s.sseClient
  graceTimerId : s'.graceTimerId = s.graceTimerId
  started : s'.started = s.started
  stopped : s'.stopped = s.stopped
  wsState : s'.wsState = s.wsState
  handlers : s'.handlers = s.handlers

lemma refl : SameTransports s s := ⟨rfl, rfl, rfl, rfl, rfl, rfl, rfl, rfl, rfl, rfl⟩

lemma isActive_startRestPolling (now : ℤ) : (s.startRestPolling now).isActive = s.isActive := by
  unfold startRestPolling pollRest
  split
  · rfl
  · split <;> rfl

lemma isActive_start (now : ℤ) : (s.start now).isActive = true := by
  unfold start
  split
  case isTrue h => exact h
  case isFalse =>
    simp only [transitionTo_eq, subscribeWs_eq]
    split
    · rfl
    · exact (isActive_startRestPolling _ now).trans rfl

lemma isActive_setBudgetLevel_normal (now : ℤ) :
    s.stopped = true ∨ (s.setBudgetLevel .normal now).isActive = true := by
  cases hstopped : s.stopped with
  | true => exact .inl rfl
  | false =>
    right
    cases hstarted : s.started with
    | true => simp [setBudgetLevel, isActive, hstopped, hstarted]
    | false => simp [setBudgetLevel, resume, isActive_start, hstopped, hstarted]

end EventIngest

namespace Budgeted

open EventIngest (Action)

/-! ## Invariants -/

/-- What a run keeps as long as it is sound. -/
structure Coherent (f : Budgeted Event) : Prop where
  started : f.ingest.started = true →
    f.ingest.stopped = false ∧ f.ingest.wsStateUnsubscriber = true
  registered : f.ingest.wsStateUnsubscriber = true → 0 < f.ingest.handlers
  offline : f.ingest.stopped = true ↔ f.ingest.transportMode = .offline
  unsubscribed : ¬ f.Live → f.ingest.wsSubscriptionId = false
  ungraced : f.ingest.isActive = false → f.ingest.graceTimerId = false

lemma sound_of_live {f : Budgeted Event} (h : f.Live) : f.Sound ↔
    (∀ source, f.ingest.running source = f.ingest.due source) ∧
      ∃ source, f.ingest.running source = true :=
  ⟨fun hf => hf.live h, fun hf => ⟨fun _ => hf, fun hidle => absurd h hidle,
    f.ingest.isActive_setBudgetLevel_normal⟩⟩

lemma sound_of_idle {f : Budgeted Event} (h : ¬ f.Live) :
    f.Sound ↔ ∀ source, f.ingest.running source = false :=
  ⟨fun hf => hf.idle h, fun hf => ⟨fun hlive => absurd hlive h, fun _ => hf,
    f.ingest.isActive_setBudgetLevel_normal⟩⟩

lemma isActive_congr {s s' : EventIngest Event} (h : s.SameTransports s') :
    s'.isActive = s.isActive := by
  rw [EventIngest.isActive, EventIngest.isActive, h.started, h.stopped]

lemma live_congr {f f' : Budgeted Event} (h : f.ingest.SameTransports f'.ingest)
    (hlevel : f'.level = f.level) : f'.Live ↔ f.Live := by
  rw [Live, Live, isActive_congr h, hlevel]

lemma sound_congr {f f' : Budgeted Event} (h : f.ingest.SameTransports f'.ingest)
    (hlive : f'.Live ↔ f.Live) : f'.Sound ↔ f.Sound := by
  have hrunning : f'.ingest.running = f.ingest.running := by
    funext source
    cases source with
    | ws => simp [EventIngest.running, h.wsSubscriptionId, h.wsState]
    | rest => simp [EventIngest.running, h.restTimerId]
    | sse => simp [EventIngest.running, h.sseClient]
  have hdue : f'.ingest.due = f.ingest.due := by
    funext source
    cases source <;> simp [EventIngest.due, h.transportMode, h.graceTimerId]
  by_cases hf : f.Live
  · rw [sound_of_live hf, sound_of_live (hlive.mpr hf), hrunning, hdue]
  · rw [sound_of_idle hf, sound_of_idle (mt hlive.mp hf), hrunning]

lemma Coherent.congr {f f' : Budgeted Event} (hf : f.Coherent)
    (h : f.ingest.SameTransports f'.ingest) (hlive : f'.Live ↔ f.Live) : f'.Coherent := by
  constructor
  case started =>
    rw [h.started, h.stopped, h.wsStateUnsubscriber]
    exact hf.started
  case registered =>
    rw [h.wsStateUnsubscriber, h.handlers]
    exact hf.registered
  case offline =>
    rw [h.stopped, h.transportMode]
    exact hf.offline
  case unsubscribed =>
    rw [hlive, h.wsSubscriptionId]
    exact hf.unsubscribed
  case ungraced =>
    rw [isActive_congr h, h.graceTimerId]
    exact hf.ungraced

lemma sound_same {f : Budgeted Event} {s : EventIngest Event} (h : f.ingest.SameTransports s) :
    (Budgeted.mk s f.level).Sound ↔ f.Sound := sound_congr h (live_congr h rfl)

lemma Coherent.same {f : Budgeted Event} {s : EventIngest Event} (hf : f.Coherent)
    (h : f.ingest.SameTransports s) : (Budgeted.mk s f.level).Coherent :=
  hf.congr h (live_congr h rfl)

/-! ## Calls -/

section Calls

variable {f : Budgeted Event}

lemma stopped_of_idle (hs : f.Sound) (h : ¬ f.Live) :
    f.ingest.restTimerId = none ∧ f.ingest.sseClient = false :=
  ⟨Option.not_isSome_iff_eq_none.mp (Bool.eq_false_iff.mp (hs.idle h .rest)), hs.idle h .sse⟩

lemma not_live_of_inactive (h : f.ingest.isActive = false) : ¬ f.Live := fun hlive => by
  rw [hlive.1] at h
  exact absurd h (by decide)

lemma start_spec (hf : f.Coherent) (hs : f.Sound) (hactive : f.ingest.isActive = false) (now : ℤ) :
    let s := f.ingest.start now
    (∀ source, s.running source = s.due source) ∧ (∃ source, s.running source = true) ∧
      s.stopped = false ∧ s.wsStateUnsubscriber = true ∧ 0 < s.handlers ∧
      s.transportMode ≠ .offline := by
  obtain ⟨htimer, hsse⟩ := stopped_of_idle hs (not_live_of_inactive hactive)
  have hsubscription := hf.unsubscribed (not_live_of_inactive hactive)
  have hgrace := hf.ungraced hactive
  intro s
  have hstart : s = f.ingest.start now := rfl
  rw [EventIngest.start, if_neg (by simpa [EventIngest.isActive] using hactive)] at hstart
  by_cases hconnected : f.ingest.wsState = .connected
  · rw [if_pos hconnected, EventIngest.transitionTo_eq, EventIngest.subscribeWs_eq] at hstart
    rw [hstart]
    refine ⟨fun source => ?_, ⟨.ws, ?_⟩, rfl, rfl, Nat.succ_pos _, by simp⟩
    · cases source <;> simp [EventIngest.running, EventIngest.due, hconnected, htimer, hsse]
    · simp [EventIngest.running, hconnected]
  · rw [if_neg hconnected, EventIngest.startRestPolling_eq (by rfl) (by exact htimer),
      EventIngest.transitionTo_eq] at hstart
    rw [hstart]
    refine ⟨fun source => ?_, ⟨.rest, rfl⟩, rfl, rfl, Nat.succ_pos _, by simp⟩
    cases source <;> simp [EventIngest.running, EventIngest.due, hgrace, hsubscription, hsse]

lemma sound_start_iff (hf : f.Coherent) (hs : f.Sound) (hactive : f.ingest.isActive = false)
    (now : ℤ) (level : BudgetLevel) :
    (Budgeted.mk (f.ingest.start now) level).Sound ↔ level ≠ .hard := by
  obtain ⟨hdue, hrunning, -⟩ := start_spec hf hs hactive now
  have hstarted := f.ingest.isActive_start now
  constructor
  · rintro h rfl
    obtain ⟨source, hsource⟩ := hrunning
    have hidle := h.idle (fun hlive => hlive.2 rfl) source
    rw [hsource] at hidle
    exact absurd hidle (by decide)
  · intro hlevel
    rw [sound_of_live ⟨hstarted, hlevel⟩]
    exact ⟨hdue, hrunning⟩

lemma coherent_start (hf : f.Coherent) (hs : f.Sound) (hactive : f.ingest.isActive = false)
    (now : ℤ) {level : BudgetLevel} (hlevel : level ≠ .hard) :
    (Budgeted.mk (f.ingest.start now) level).Coherent := by
  obtain ⟨-, -, hstopped, hunsubscriber, hhandlers, hmode⟩ := start_spec hf hs hactive now
  have hstarted := f.ingest.isActive_start now
  exact
    { started := fun _ => ⟨hstopped, hunsubscriber⟩
      registered := fun _ => hhandlers
      offline := iff_of_false (by simp [hstopped]) hmode
      unsubscribed := fun h => absurd ⟨hstarted, hlevel⟩ h
      ungraced := fun h => absurd (hstarted.symm.trans h) (by decide) }

lemma sound_of_off {s : EventIngest Event} {level : BudgetLevel}
    (hsubscription : s.wsSubscriptionId = false) (htimer : s.restTimerId = none)
    (hsse : s.sseClient = false) :
    (Budgeted.mk s level).Sound ↔ ¬ (Budgeted.mk s level).Live := by
  have hoff : ∀ source, s.running source = false := fun source => by
    cases source <;> simp [EventIngest.running, hsubscription, htimer, hsse]
  constructor
  · intro h hlive
    obtain ⟨source, hsource⟩ := (h.live hlive).2
    exact absurd ((hoff source).symm.trans hsource) (by decide)
  · intro h
    rw [sound_of_idle h]
    exact hoff

lemma sound_stop (level : BudgetLevel) : (Budgeted.mk f.ingest.stop level).Sound := by
  rw [EventIngest.stop_eq, sound_of_off rfl rfl rfl]
  exact not_live_of_inactive rfl

lemma coherent_stop (level : BudgetLevel) : (Budgeted.mk f.ingest.stop level).Coherent := by
  rw [EventIngest.stop_eq]
  exact
    { started := fun h => absurd h (by simp)
      registered := fun h => absurd h (by simp)
      offline := iff_of_true rfl rfl
      unsubscribed := fun _ => rfl
      ungraced := fun _ => rfl }

lemma sound_pause (level : BudgetLevel) : (Budgeted.mk f.ingest.pause level).Sound := by
  rw [EventIngest.pause_eq, sound_of_off rfl rfl rfl]
  exact not_live_of_inactive rfl

lemma coherent_pause (hf : f.Coherent) (level : BudgetLevel) :
    (Budgeted.mk f.ingest.pause level).Coherent := by
  rw [EventIngest.pause_eq]
  exact
    { started := fun h => absurd h (by simp)
      registered := hf.registered
      offline := hf.offline
      unsubscribed := fun _ => rfl
      ungraced := fun _ => rfl }

lemma sound_hard (now : ℤ) :
    (Budgeted.mk (f.ingest.setBudgetLevel .hard now) .hard).Sound := by
  rw [EventIngest.setBudgetLevel_hard_eq, sound_of_off rfl rfl rfl]
  exact fun hlive => hlive.2 rfl

lemma coherent_hard (hf : f.Coherent) (now : ℤ) :
    (Budgeted.mk (f.ingest.setBudgetLevel .hard now) .hard).Coherent := by
  rw [EventIngest.setBudgetLevel_hard_eq]
  exact
    { started := hf.started
      registered := hf.registered
      offline := hf.offline
      unsubscribed := fun _ => rfl
      ungraced := hf.ungraced }

lemma not_sound_of_relaxed (hs : f.Sound) {f' : Budgeted Event}
    (h : f.ingest.SameTransports f'.ingest) (hidle : ¬ f.Live) (hlive : f'.Live)
    (hsubscription : f.ingest.wsSubscriptionId = false) : ¬ f'.Sound := by
  obtain ⟨htimer, hsse⟩ := stopped_of_idle hs hidle
  intro hsound
  have hoff := (sound_of_off (h.wsSubscriptionId.trans hsubscription)
    (h.restTimerId.trans htimer) (h.sseClient.trans hsse)).mp hsound
  exact hoff hlive

lemma live_relax_iff {f' : Budgeted Event} (h : f.ingest.SameTransports f'.ingest)
    (hlevel : f'.level ≠ .hard) (hhard : ¬ (f.ingest.isActive = true ∧ f.level = .hard)) :
    f'.Live ↔ f.Live := by
  rw [Live, Live, isActive_congr h]
  exact ⟨fun hlive => ⟨hlive.1, fun hlevel => hhard ⟨hlive.1, hlevel⟩⟩,
    fun hlive => ⟨hlive.1, hlevel⟩⟩

lemma coherent_relax (hf : f.Coherent) {f' : Budgeted Event}
    (h : f.ingest.SameTransports f'.ingest) (hlevel : f'.level ≠ .hard)
    (hhard : ¬ (f.ingest.isActive = true ∧ f.level = .hard)) : f'.Coherent :=
  hf.congr h (live_relax_iff h hlevel hhard)

lemma sound_relax_iff (hf : f.Coherent) (hs : f.Sound) {f' : Budgeted Event}
    (h : f.ingest.SameTransports f'.ingest) (hlevel : f'.level ≠ .hard) :
    f'.Sound ↔ ¬ (f.ingest.isActive = true ∧ f.level = .hard) := by
  have hactive := isActive_congr h
  by_cases hhard : f.ingest.isActive = true ∧ f.level = .hard
  · have hidle : ¬ f.Live := fun hlive => hlive.2 hhard.2
    exact iff_of_false (not_sound_of_relaxed hs h hidle ⟨hactive.trans hhard.1, hlevel⟩
      (hf.unsubscribed hidle)) (not_not_intro hhard)
  · exact iff_of_true ((sound_congr h (live_relax_iff h hlevel hhard)).mpr hs) hhard

end Calls

/-! ## State changes -/

section StateChanges

variable {f : Budgeted Event} {state : WsState}

lemma mode_of_live (hf : f.Coherent) (hlive : f.Live) :
    f.ingest.stopped = false ∧ f.ingest.transportMode ≠ .offline := by
  have hstopped : f.ingest.stopped = false := (hf.started (Bool.and_elim_left hlive.1)).1
  refine ⟨hstopped, fun h => ?_⟩
  rw [hf.offline.mpr h] at hstopped
  exact absurd hstopped (by decide)

lemma exists_due {s : EventIngest Event} (hoffline : s.transportMode ≠ .offline)
    (hws : s.transportMode ≠ .ws) :
    s.due .rest = true ∨ s.due .sse = true := by
  cases hmode : s.transportMode with
  | ws => exact absurd hmode hws
  | rest => exact .inl (by simp [EventIngest.due, hmode])
  | sse => exact .inr (by simp [EventIngest.due, hmode])
  | offline => exact absurd hmode hoffline

lemma sound_live_connected (hf : f.Coherent) (hs : f.Sound) (hlive : f.Live) (now : ℤ) :
    (Budgeted.mk (({ f.ingest with wsState := .connected }).onWsStateChange .connected now)
      f.level).Sound := by
  obtain ⟨hstopped, hmode⟩ := mode_of_live hf hlive
  obtain ⟨hdue, -⟩ := hs.live hlive
  rw [EventIngest.onWsStateChange_connected (by exact hstopped),
    sound_of_live (by exact hlive)]
  refine ⟨fun source => ?_, .ws, rfl⟩
  cases source with
  | ws =>
    cases hm : f.ingest.transportMode with
    | offline => exact absurd hm hmode
    | ws => simp [EventIngest.running, EventIngest.due]
    | rest => simp [EventIngest.running, EventIngest.due]
    | sse => simp [EventIngest.running, EventIngest.due]
  | rest => exact hdue .rest
  | sse => exact hdue .sse

lemma sound_live_lost (hf : f.Coherent) (hs : f.Sound) (hlive : f.Live)
    (hlost : EventIngest.Lost state) (now : ℤ) :
    (Budgeted.mk (({ f.ingest with wsState := state }).onWsStateChange state now)
      f.level).Sound := by
  obtain ⟨hstopped, hoffline⟩ := mode_of_live hf hlive
  obtain ⟨hdue, -⟩ := hs.live hlive
  have hstate : state ≠ .connected := by rcases hlost with rfl | rfl <;> decide
  rw [EventIngest.onWsStateChange_lost hlost (by exact hstopped)]
  by_cases hmode : f.ingest.transportMode = .ws
  · -- The polls take over.
    have htimer : f.ingest.restTimerId = none := by
      simpa [EventIngest.running, EventIngest.due, hmode] using hdue .rest
    have hsse : f.ingest.sseClient = false := by
      simpa [EventIngest.running, EventIngest.due, hmode] using hdue .sse
    rw [if_pos hmode, EventIngest.startRestPolling_eq (by exact hstopped) (by exact htimer),
      sound_of_live (by exact hlive)]
    refine ⟨fun source => ?_, .rest, rfl⟩
    cases source <;> simp [EventIngest.running, EventIngest.due, hstate, hsse]
  · rw [if_neg hmode, sound_of_live (by exact hlive)]
    constructor
    · intro source
      cases source with
      | ws => simp [EventIngest.running, EventIngest.due, hstate, hmode]
      | rest => exact hdue .rest
      | sse => exact hdue .sse
    · rcases exists_due hoffline hmode with hrest | hsse
      · exact ⟨.rest, (hdue .rest).trans hrest⟩
      · exact ⟨.sse, (hdue .sse).trans hsse⟩

lemma sound_live_connecting_iff (hf : f.Coherent) (hs : f.Sound) (hlive : f.Live) :
    (Budgeted.mk { f.ingest with wsState := .connecting } f.level).Sound ↔
      f.ingest.running .ws = false := by
  obtain ⟨-, hoffline⟩ := mode_of_live hf hlive
  obtain ⟨hdue, -⟩ := hs.live hlive
  rw [sound_of_live (by exact hlive)]
  constructor
  · rintro ⟨hnew, -⟩
    have hws := hnew .ws
    rw [hdue .ws]
    simpa [EventIngest.running, EventIngest.due] using hws
  · intro hws
    have hnot : f.ingest.due .ws = false := (hdue .ws).symm.trans hws
    have hmode : f.ingest.transportMode ≠ .ws := fun h => by simp [EventIngest.due, h] at hnot
    constructor
    · intro source
      cases source with
      | ws => simpa [EventIngest.running, EventIngest.due] using hnot
      | rest => exact hdue .rest
      | sse => exact hdue .sse
    · rcases exists_due hoffline hmode with hrest | hsse
      · exact ⟨.rest, (hdue .rest).trans hrest⟩
      · exact ⟨.sse, (hdue .sse).trans hsse⟩

lemma sound_idle_notified_iff (hf : f.Coherent) (hs : f.Sound) (hidle : ¬ f.Live)
    (hstopped : f.ingest.stopped = false) (now : ℤ) :
    (Budgeted.mk (({ f.ingest with wsState := state }).onWsStateChange state now) f.level).Sound ↔
      state = .connecting ∨ (state ≠ .connected ∧ f.ingest.transportMode ≠ .ws) := by
  obtain ⟨htimer, hsse⟩ := stopped_of_idle hs hidle
  have hsubscription := hf.unsubscribed hidle
  rcases EventIngest.lost_cases state with rfl | hlost | rfl
  · rw [EventIngest.onWsStateChange_connected (by exact hstopped), sound_of_idle (by exact hidle)]
    refine iff_of_false (fun h => ?_) (by simp)
    exact absurd (h .ws) (by simp [EventIngest.running])
  · have hstate : state ≠ .connected ∧ state ≠ .connecting := by
      rcases hlost with rfl | rfl <;> decide
    rw [EventIngest.onWsStateChange_lost hlost (by exact hstopped)]
    by_cases hmode : f.ingest.transportMode = .ws
    · rw [if_pos hmode, EventIngest.startRestPolling_eq (by exact hstopped) (by exact htimer),
        sound_of_idle (by exact hidle)]
      refine iff_of_false (fun h => ?_) (by simp [hstate, hmode])
      exact absurd (h .rest) (by simp [EventIngest.running])
    · rw [if_neg hmode, sound_of_off (by exact hsubscription) (by exact htimer) (by exact hsse)]
      exact iff_of_true hidle (.inr ⟨hstate.1, hmode⟩)
  · rw [EventIngest.onWsStateChange, if_neg (by simp [hstopped]),
      sound_of_off (by exact hsubscription) (by exact htimer) (by exact hsse)]
    exact iff_of_true hidle (.inl rfl)

lemma sound_wsStateChange_iff (id : Event → JSString) (hf : f.Coherent) (hs : f.Sound) (now : ℤ) :
    (f.step id (.wsStateChange state now)).Sound ↔ f.Keeps (.wsStateChange state now) := by
  change (Budgeted.mk (f.ingest.step id (.wsStateChange state now)) f.level).Sound ↔ _
  rw [EventIngest.step_wsStateChange, Keeps]
  by_cases hlive : f.Live
  · have hhandlers := hf.registered (hf.started (Bool.and_elim_left hlive.1)).2
    rw [if_neg (Nat.ne_of_gt hhandlers), if_pos hlive]
    rcases EventIngest.lost_cases state with rfl | hlost | rfl
    · exact iff_of_true (sound_live_connected hf hs hlive now) (by simp)
    · refine iff_of_true (sound_live_lost hf hs hlive hlost now) fun h => ?_
      rcases hlost with rfl | rfl <;> exact absurd h (by decide)
    · rw [EventIngest.onWsStateChange, if_neg (by simp [(mode_of_live hf hlive).1]),
        sound_live_connecting_iff hf hs hlive]
      simp
  · rw [if_neg hlive]
    obtain ⟨htimer, hsse⟩ := stopped_of_idle hs hlive
    have hsubscription := hf.unsubscribed hlive
    have hoff : (Budgeted.mk { f.ingest with wsState := state } f.level).Sound := by
      rw [sound_of_off (by exact hsubscription) (by exact htimer) (by exact hsse)]
      exact hlive
    by_cases hhandlers : f.ingest.handlers = 0
    · rw [if_pos hhandlers]
      exact iff_of_true hoff (.inr (.inl hhandlers))
    · rw [if_neg hhandlers]
      by_cases hstopped : f.ingest.stopped = true
      · rw [EventIngest.onWsStateChange.eq_def, if_pos (by exact hstopped)]
        exact iff_of_true hoff (.inl hstopped)
      · rw [sound_idle_notified_iff hf hs hlive (Bool.eq_false_of_not_eq_true hstopped)]
        simp [hhandlers, hstopped]

lemma onWsStateChange_keeps (s : EventIngest Event) (state : WsState) (now : ℤ) :
    let s' := s.onWsStateChange state now
    s'.started = s.started ∧ s'.stopped = s.stopped ∧ s'.handlers = s.handlers ∧
      s'.wsStateUnsubscriber = s.wsStateUnsubscriber ∧
      (s'.transportMode = .offline ↔ s.transportMode = .offline) ∧ s'.wsState = s.wsState ∧
      (s'.wsSubscriptionId = true → s.wsSubscriptionId = true ∨ state = .connected) ∧
      (s'.graceTimerId = true →
        s.graceTimerId = true ∨ state = .connected ∧ s'.wsSubscriptionId = true) := by
  by_cases hstopped : s.stopped = true
  · rw [EventIngest.onWsStateChange.eq_def, if_pos hstopped]
    simp_all
  rw [Bool.not_eq_true] at hstopped
  rcases EventIngest.lost_cases state with rfl | hlost | rfl
  · rw [EventIngest.onWsStateChange_connected hstopped]
    simp
  · rw [EventIngest.onWsStateChange_lost hlost hstopped]
    by_cases hmode : s.transportMode = .ws
    · obtain ⟨hstarted, hstopped', hhandlers, hregistered, hstate, hsubscription, hgrace⟩ :=
        EventIngest.startRestPolling_keeps { s with graceTimerId := false } now
      rw [if_pos hmode]
      exact ⟨hstarted, hstopped', hhandlers, hregistered, iff_of_false (by simp) (by simp [hmode]),
        hstate, fun h => .inl (hsubscription.symm.trans h),
        fun h => absurd (hgrace.symm.trans h) (by simp)⟩
    · rw [if_neg hmode]
      exact ⟨rfl, rfl, rfl, rfl, Iff.rfl, rfl, .inl, fun h => absurd h (by simp)⟩
  · rw [EventIngest.onWsStateChange, if_neg (by simp [hstopped])]
    simp_all

lemma coherent_wsStateChange (id : Event → JSString) (hf : f.Coherent) (now : ℤ)
    (hnext : (f.step id (.wsStateChange state now)).Sound) :
    (f.step id (.wsStateChange state now)).Coherent := by
  change (Budgeted.mk (f.ingest.step id (.wsStateChange state now)) f.level).Sound at hnext
  change (Budgeted.mk (f.ingest.step id (.wsStateChange state now)) f.level).Coherent
  rw [EventIngest.step_wsStateChange] at hnext ⊢
  by_cases hhandlers : f.ingest.handlers = 0
  · rw [if_pos hhandlers]
    exact ⟨hf.started, hf.registered, hf.offline, hf.unsubscribed, hf.ungraced⟩
  rw [if_neg hhandlers] at hnext ⊢
  obtain ⟨hstarted, hstopped, hhandlers', hregistered, hmode, hstate, hsubscription, hgrace⟩ :=
    onWsStateChange_keeps { f.ingest with wsState := state } state now
  have hactive : (({ f.ingest with wsState := state }).onWsStateChange state now).isActive =
      f.ingest.isActive := by
    rw [EventIngest.isActive, EventIngest.isActive, hstarted, hstopped]
  -- A subscription on a connected socket is a source that runs.
  have hunsubscribed (hidle : ¬ f.Live) :
      (({ f.ingest with wsState := state }).onWsStateChange state now).wsSubscriptionId =
        false := by
    by_contra hsubscribed
    rw [Bool.not_eq_false] at hsubscribed
    have hconnected : state = .connected := by
      refine (hsubscription hsubscribed).resolve_left fun h => ?_
      exact absurd ((hf.unsubscribed hidle).symm.trans h) (by decide)
    have hoff := hnext.idle (by rw [Live, hactive]; exact hidle) .ws
    rw [EventIngest.running, hsubscribed, hstate] at hoff
    exact absurd hoff (by simp [hconnected])
  exact
    { started := by
        rw [hstarted, hstopped, hregistered]
        exact hf.started
      registered := by
        rw [hregistered, hhandlers']
        exact hf.registered
      offline := by
        rw [hstopped, hmode]
        exact hf.offline
      unsubscribed := fun hidle => hunsubscribed (by rwa [Live, hactive] at hidle)
      ungraced := by
        intro hinactive
        rw [hactive] at hinactive
        by_contra hgraced
        rw [Bool.not_eq_false] at hgraced
        rcases hgrace hgraced with h | ⟨-, h⟩
        · exact absurd ((hf.ungraced hinactive).symm.trans h) (by decide)
        · exact absurd ((hunsubscribed (not_live_of_inactive hinactive)).symm.trans h)
            (by decide) }

end StateChanges

/-! ## Timers and polls -/

section Polls

variable {f : Budgeted Event}

lemma sound_graceTimer (id : Event → JSString) (hf : f.Coherent) (hs : f.Sound) :
    (f.step id .graceTimer).Sound := by
  change (Budgeted.mk (if f.ingest.graceTimerId then f.ingest.commitPromotion else f.ingest)
    f.level).Sound
  by_cases hgrace : f.ingest.graceTimerId = true
  · rw [if_pos hgrace]
    by_cases hlive : f.Live
    · obtain ⟨hdue, -⟩ := hs.live hlive
      have hws : f.ingest.running .ws = true := (hdue .ws).trans (by simp [EventIngest.due, hgrace])
      have hconnected : f.ingest.wsState = .connected ∧ f.ingest.wsSubscriptionId = true := by
        simpa [EventIngest.running, and_comm] using hws
      rw [EventIngest.commitPromotion_eq _ hconnected.1, sound_of_live (by exact hlive)]
      refine ⟨fun source => ?_, .ws, hws⟩
      cases source with
      | ws => exact hws
      | rest => rfl
      | sse => rfl
    · obtain ⟨htimer, hsse⟩ := stopped_of_idle hs hlive
      have hsubscription := hf.unsubscribed hlive
      by_cases hconnected : f.ingest.wsState = .connected
      · rw [EventIngest.commitPromotion_eq _ hconnected,
          sound_of_off (by exact hsubscription) rfl rfl]
        exact hlive
      · rw [EventIngest.commitPromotion, if_neg (by exact hconnected),
          sound_of_off (by exact hsubscription) (by exact htimer) (by exact hsse)]
        exact hlive
  · rw [if_neg hgrace]
    exact hs

lemma coherent_graceTimer (id : Event → JSString) (hf : f.Coherent) :
    (f.step id .graceTimer).Coherent := by
  change (Budgeted.mk (if f.ingest.graceTimerId then f.ingest.commitPromotion else f.ingest)
    f.level).Coherent
  by_cases hgrace : f.ingest.graceTimerId = true
  · rw [if_pos hgrace]
    by_cases hconnected : f.ingest.wsState = .connected
    · rw [EventIngest.commitPromotion_eq _ hconnected]
      -- A window is only open in a pipeline that is active, so not stopped.
      have hstopped : f.ingest.stopped = false := by
        by_contra h
        have hinactive : f.ingest.isActive = false := by
          rw [Bool.not_eq_false] at h
          simp [EventIngest.isActive, h]
        exact absurd ((hf.ungraced hinactive).symm.trans hgrace) (by decide)
      exact ⟨hf.started, hf.registered, iff_of_false (by simp [hstopped]) (by simp),
        hf.unsubscribed, fun _ => rfl⟩
    · rw [EventIngest.commitPromotion, if_neg (by exact hconnected)]
      exact ⟨hf.started, hf.registered, hf.offline, hf.unsubscribed, fun _ => rfl⟩
  · rw [if_neg hgrace]
    exact hf

lemma step_pollFails_of_none (id : Event → JSString) {place : ℕ}
    (hpoll : f.ingest.polls[place]? = none) : f.step id (.pollFails place) = f := by
  simp only [step, EventIngest.step, hpoll]

lemma step_pollFails_of_some (id : Event → JSString) {place : ℕ} {poll : Poll}
    (hpoll : f.ingest.polls[place]? = some poll) : f.step id (.pollFails place) =
      ⟨EventIngest.pollFails { f.ingest with polls := f.ingest.polls.eraseIdx place }, f.level⟩ := by
  simp only [step, EventIngest.step, hpoll]

lemma sound_pollFails_iff (id : Event → JSString) (hs : f.Sound) (place : ℕ) :
    (f.step id (.pollFails place)).Sound ↔ f.Keeps (.pollFails place) := by
  rw [Keeps]
  cases hpoll : f.ingest.polls[place]? with
  | none =>
    rw [step_pollFails_of_none id hpoll]
    exact iff_of_true hs (.inr (.inl rfl))
  | some poll =>
    rw [step_pollFails_of_some id hpoll]
    simp only [EventIngest.pollFails_eq]
    split
    case isTrue hdegrade =>
      obtain ⟨hthreshold, hmode⟩ := hdegrade
      by_cases hlive : f.Live
      · refine iff_of_true ?_ (.inl hlive)
        obtain ⟨hdue, -⟩ := hs.live hlive
        rw [sound_of_live (by exact hlive)]
        refine ⟨fun source => ?_, .sse, rfl⟩
        cases source with
        | ws =>
          have hws := hdue .ws
          simpa [EventIngest.running, EventIngest.due, hmode] using hws
        | rest => rfl
        | sse => rfl
      · refine iff_of_false (fun h => ?_) ?_
        · exact absurd (h.idle hlive .sse) (by simp [EventIngest.running])
        · simp [hlive, hmode, Nat.not_lt.mpr hthreshold]
    case isFalse hstay =>
      rw [sound_same (f := f) (by exact ⟨rfl, rfl, rfl, rfl, rfl, rfl, rfl, rfl, rfl, rfl⟩)]
      refine iff_of_true hs ?_
      by_cases hmode : f.ingest.transportMode = .rest
      · exact .inr (.inr (.inr (Nat.not_le.mp fun h => hstay ⟨h, hmode⟩)))
      · exact .inr (.inr (.inl hmode))

lemma coherent_pollFails (id : Event → JSString) (hf : f.Coherent) (place : ℕ) :
    (f.step id (.pollFails place)).Coherent := by
  cases hpoll : f.ingest.polls[place]? with
  | none =>
    rw [step_pollFails_of_none id hpoll]
    exact hf
  | some poll =>
    rw [step_pollFails_of_some id hpoll]
    simp only [EventIngest.pollFails_eq]
    split
    case isTrue hdegrade =>
      have hstopped : f.ingest.stopped ≠ true := fun h => by
        rw [hf.offline.mp h] at hdegrade
        exact absurd hdegrade.2 (by simp)
      exact ⟨hf.started, hf.registered, iff_of_false hstopped (by simp), hf.unsubscribed,
        hf.ungraced⟩
    case isFalse =>
      exact ⟨hf.started, hf.registered, hf.offline, hf.unsubscribed, hf.ungraced⟩

end Polls

/-! ## Runs -/

variable {f : Budgeted Event}

lemma sameTransports_pollRest (s : EventIngest Event) (now : ℤ) :
    s.SameTransports (s.pollRest now) := by
  unfold EventIngest.pollRest
  split
  · exact s.refl
  · exact ⟨rfl, rfl, rfl, rfl, rfl, rfl, rfl, rfl, rfl, rfl⟩

lemma sameTransports_onWsMessage (id : Event → JSString) (data : Option Event)
    (s : EventIngest Event) : s.SameTransports (s.onWsMessage id data) := by
  unfold EventIngest.onWsMessage
  cases data with
  | none => exact s.refl
  | some event =>
    dsimp only
    split
    · exact s.refl
    · split
      · exact s.refl
      · exact ⟨rfl, rfl, rfl, rfl, rfl, rfl, rfl, rfl, rfl, rfl⟩

lemma sameTransports_onSseMessage (id : Event → JSString) (data : Option Event)
    (s : EventIngest Event) : s.SameTransports (s.onSseMessage id data) := by
  unfold EventIngest.onSseMessage
  cases data with
  | none => exact s.refl
  | some event =>
    dsimp only
    split
    · exact s.refl
    · split
      · exact s.refl
      · exact ⟨rfl, rfl, rfl, rfl, rfl, rfl, rfl, rfl, rfl, rfl⟩

lemma sameTransports_pollSucceeds (id : Event → JSString) (place : ℕ) (events : List Event)
    (s : EventIngest Event) : s.SameTransports (s.step id (.pollSucceeds place events)) := by
  simp only [EventIngest.step]
  cases s.polls[place]? with
  | none => exact s.refl
  | some poll =>
    simp only [EventIngest.pollSucceeds]
    split <;> exact ⟨rfl, rfl, rfl, rfl, rfl, rfl, rfl, rfl, rfl, rfl⟩

/-- The steps that only concern events, or start a poll. -/
def Quiet : Action Event → Prop
  | .restTimer _ | .pollSucceeds _ _ | .wsMessage _ | .sseMessage _ | .drain => True
  | _ => False

lemma sameTransports_step (id : Event → JSString) (s : EventIngest Event) {action : Action Event}
    (h : Quiet action) : s.SameTransports (s.step id action) := by
  cases action with
  | restTimer now =>
    simp only [EventIngest.step]
    split
    · exact sameTransports_pollRest s now
    · exact s.refl
  | pollSucceeds place events => exact sameTransports_pollSucceeds id place events s
  | wsMessage data =>
    simp only [EventIngest.step]
    split
    · exact sameTransports_onWsMessage id data s
    · exact s.refl
  | sseMessage data =>
    simp only [EventIngest.step]
    split
    · exact sameTransports_onSseMessage id data s
    · exact s.refl
  | drain => exact ⟨rfl, rfl, rfl, rfl, rfl, rfl, rfl, rfl, rfl, rfl⟩
  | start | stop | pause | resume | setBudgetLevel | wsStateChange | pollFails | graceTimer =>
    exact absurd h (by simp [Quiet])

lemma sound_begin_iff (hf : f.Coherent) (hs : f.Sound) (now : ℤ) :
    (Budgeted.mk (f.ingest.start now) f.level).Sound ↔
      f.ingest.isActive = true ∨ f.level ≠ .hard := by
  cases hactive : f.ingest.isActive with
  | true =>
    rw [EventIngest.start, if_pos (by exact hactive)]
    exact iff_of_true hs (.inl rfl)
  | false =>
    rw [sound_start_iff hf hs hactive]
    simp

lemma coherent_begin (hf : f.Coherent) (hs : f.Sound) (now : ℤ)
    (hnext : (Budgeted.mk (f.ingest.start now) f.level).Sound) :
    (Budgeted.mk (f.ingest.start now) f.level).Coherent := by
  cases hactive : f.ingest.isActive with
  | true =>
    rw [EventIngest.start, if_pos (by exact hactive)]
    exact hf
  | false => exact coherent_start hf hs hactive now ((sound_start_iff hf hs hactive now _).mp hnext)

lemma sound_normal_iff (hf : f.Coherent) (hs : f.Sound) (now : ℤ) :
    (Budgeted.mk (f.ingest.setBudgetLevel .normal now) .normal).Sound ↔
      ¬ (f.ingest.isActive = true ∧ f.level = .hard) := by
  have hsame : f.ingest.SameTransports
      { f.ingest with restIntervalMs := f.ingest.config.restIntervalMs } :=
    ⟨rfl, rfl, rfl, rfl, rfl, rfl, rfl, rfl, rfl, rfl⟩
  simp only [EventIngest.setBudgetLevel]
  by_cases hpaused : (!f.ingest.started && !f.ingest.stopped) = true
  · have hflags : f.ingest.started = false ∧ f.ingest.stopped = false := by simpa using hpaused
    have hinactive : f.ingest.isActive = false := by simp [EventIngest.isActive, hflags]
    rw [if_pos hpaused, EventIngest.resume, if_neg (by simp [hflags])]
    refine iff_of_true ?_ (by simp [hinactive])
    exact (sound_start_iff (hf.same hsame) ((sound_same hsame).mpr hs) hinactive now .normal).mpr
      (by decide)
  · rw [if_neg hpaused]
    exact sound_relax_iff hf hs hsame (by simp)

lemma coherent_normal (hf : f.Coherent) (hs : f.Sound) (now : ℤ)
    (hkeeps : ¬ (f.ingest.isActive = true ∧ f.level = .hard)) :
    (Budgeted.mk (f.ingest.setBudgetLevel .normal now) .normal).Coherent := by
  have hsame : f.ingest.SameTransports
      { f.ingest with restIntervalMs := f.ingest.config.restIntervalMs } :=
    ⟨rfl, rfl, rfl, rfl, rfl, rfl, rfl, rfl, rfl, rfl⟩
  simp only [EventIngest.setBudgetLevel]
  by_cases hpaused : (!f.ingest.started && !f.ingest.stopped) = true
  · have hflags : f.ingest.started = false ∧ f.ingest.stopped = false := by simpa using hpaused
    have hinactive : f.ingest.isActive = false := by simp [EventIngest.isActive, hflags]
    rw [if_pos hpaused, EventIngest.resume, if_neg (by simp [hflags])]
    exact coherent_start (hf.same hsame) ((sound_same hsame).mpr hs) hinactive now (by decide)
  · rw [if_neg hpaused]
    exact coherent_relax hf hsame (by simp) hkeeps

lemma sound_soft_iff (hf : f.Coherent) (hs : f.Sound) (now : ℤ) :
    (Budgeted.mk (f.ingest.setBudgetLevel .soft now) .soft).Sound ↔
      ¬ (f.ingest.isActive = true ∧ f.level = .hard) :=
  sound_relax_iff hf hs (by exact ⟨rfl, rfl, rfl, rfl, rfl, rfl, rfl, rfl, rfl, rfl⟩) (by simp)

lemma coherent_soft (hf : f.Coherent) (now : ℤ)
    (hkeeps : ¬ (f.ingest.isActive = true ∧ f.level = .hard)) :
    (Budgeted.mk (f.ingest.setBudgetLevel .soft now) .soft).Coherent :=
  coherent_relax hf (by exact ⟨rfl, rfl, rfl, rfl, rfl, rfl, rfl, rfl, rfl, rfl⟩) (by simp) hkeeps

lemma sound_step_iff (id : Event → JSString) (hf : f.Coherent) (hs : f.Sound)
    (action : Action Event) : (f.step id action).Sound ↔ f.Keeps action := by
  cases action with
  | start now => exact sound_begin_iff hf hs now
  | stop => exact iff_of_true (sound_stop f.level) trivial
  | pause => exact iff_of_true (sound_pause f.level) trivial
  | resume now =>
    change (Budgeted.mk (f.ingest.resume now) f.level).Sound ↔ _
    rw [EventIngest.resume]
    by_cases hstopped : f.ingest.stopped = true
    · rw [if_pos hstopped]
      exact iff_of_true hs (.inl hstopped)
    · rw [if_neg hstopped, sound_begin_iff hf hs, Keeps]
      simp [hstopped]
  | setBudgetLevel level now =>
    cases level with
    | normal =>
      refine (sound_normal_iff hf hs now).trans ?_
      simp [Keeps]
    | soft =>
      refine (sound_soft_iff hf hs now).trans ?_
      simp [Keeps]
    | hard => exact iff_of_true (sound_hard now) (.inl rfl)
  | wsStateChange state now => exact sound_wsStateChange_iff id hf hs now
  | pollFails place => exact sound_pollFails_iff id hs place
  | graceTimer => exact iff_of_true (sound_graceTimer id hf hs) trivial
  | restTimer | pollSucceeds | wsMessage | sseMessage | drain =>
    exact iff_of_true ((sound_same (sameTransports_step id f.ingest (by exact trivial))).mpr hs)
      trivial

lemma coherent_step (id : Event → JSString) (hf : f.Coherent) (hs : f.Sound)
    (action : Action Event) (hnext : (f.step id action).Sound) : (f.step id action).Coherent := by
  cases action with
  | start now => exact coherent_begin hf hs now hnext
  | stop => exact coherent_stop f.level
  | pause => exact coherent_pause hf f.level
  | resume now =>
    change (Budgeted.mk (f.ingest.resume now) f.level).Sound at hnext
    change (Budgeted.mk (f.ingest.resume now) f.level).Coherent
    rw [EventIngest.resume] at hnext ⊢
    by_cases hstopped : f.ingest.stopped = true
    · rw [if_pos hstopped]
      exact hf
    · rw [if_neg hstopped] at hnext ⊢
      exact coherent_begin hf hs now hnext
  | setBudgetLevel level now =>
    cases level with
    | normal => exact coherent_normal hf hs now ((sound_normal_iff hf hs now).mp hnext)
    | soft => exact coherent_soft hf now ((sound_soft_iff hf hs now).mp hnext)
    | hard => exact coherent_hard hf now
  | wsStateChange state now => exact coherent_wsStateChange id hf now hnext
  | pollFails place => exact coherent_pollFails id hf place
  | graceTimer => exact coherent_graceTimer id hf
  | restTimer | pollSucceeds | wsMessage | sseMessage | drain =>
    exact hf.same (sameTransports_step id f.ingest (by exact trivial))

lemma sound_new (config : EventIngestConfig) (now : ℤ) (wsState : WsState) :
    (new Event config now wsState).Sound := by
  rw [new, sound_of_off rfl rfl rfl]
  exact not_live_of_inactive rfl

lemma coherent_new (config : EventIngestConfig) (now : ℤ) (wsState : WsState) :
    (new Event config now wsState).Coherent where
  started h := absurd h (by simp [new, EventIngest.new])
  registered h := absurd h (by simp [new, EventIngest.new])
  offline := by simp [new, EventIngest.new]
  unsubscribed _ := rfl
  ungraced _ := rfl

/-- Throughout a run the sources that should run are running and no others, if and only if every
step keeps them so. -/
theorem transport_sound_iff (id : Event → JSString) (config : EventIngestConfig) (now : ℤ)
    (wsState : WsState) (actions : List (Action Event)) :
    Lib.Always (step id) Sound (new Event config now wsState) actions ↔
      Lib.Allowed (step id) Keeps (new Event config now wsState) actions := by
  have hwithin : Lib.Always (step id) (fun _ => True) (new Event config now wsState) actions :=
    Lib.always_of_forall (fun _ => trivial) _ _
  exact Lib.always_iff_allowed_within (I := Coherent) (P := Sound)
    (fun _ action hf hs hnext => coherent_step id hf hs action hnext)
    (fun _ action hf hs _ => sound_step_iff id hf hs action)
    (coherent_new config now wsState) (sound_new config now wsState) hwithin

/-- The hard level and the normal level again, on a pipeline that receives by WebSocket. -/
def recovery : List (Action JSString) :=
  [.start 0, .setBudgetLevel .hard 1, .setBudgetLevel .normal 2]

/-- The pipeline is active again and runs no source. -/
theorem silent_after_recovery :
    ¬ Lib.Always (step fun event : JSString => event) Sound
      (new JSString ⟨5000, 3, 500⟩ 0 .connected) recovery := by
  rintro ⟨-, -, -, hsound⟩
  obtain ⟨-, source, hsource⟩ := hsound.live (by decide)
  cases source <;> exact absurd hsource (by decide)

end Budgeted

end Paryty.Frontend

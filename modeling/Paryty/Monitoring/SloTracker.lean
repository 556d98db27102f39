import Mathlib.Algebra.Order.Field.Basic
import Mathlib.Algebra.Order.Field.Rat
import Mathlib.Logic.Function.Basic
import Mathlib.Tactic.FieldSimp
import Mathlib.Tactic.Linarith
import Mathlib.Tactic.Positivity
import Paryty.Lib.Run

/-!
# Service level objectives

`cluster/internal/monitoring/slo_tracker.go`: counts the successes and failures of a window of time
and says what is left of the error budget.

* `record` counts an event first and resets the counts of a window that is over then.
  `errorBudget` is the formula of `ErrorBudgetRemaining`.
* `Window` is what the counts are of: a window lasts for its duration, and the first event after its
  end opens the next one and is its first event. Outside a window there are no events.
* `Right` is what an operation should do, `Timely` the exact condition for it, and
  `right_iff_timely` the theorem on runs.

Percentages are exact fractions, instants are in nanoseconds, and counters do not overflow.
-/

namespace Paryty.Monitoring.Slo

open Lib

/-! ## The tracker -/

/-- `SLODefinition`. -/
structure SLODefinition where
  name : String
  targetPercentage : ℚ
  windowDuration : ℤ
deriving DecidableEq

/-- `sloState`. -/
structure SloState where
  definition : SLODefinition
  successes : ℕ := 0
  failures : ℕ := 0
  windowStart : ℤ
deriving DecidableEq

/-- `map[string]*sloState`. -/
abbrev Slos := String → Option SloState

/-- `state.successes.Add(1)`, or `state.failures.Add(1)`. -/
def SloState.count (ok : Bool) (state : SloState) : SloState :=
  if ok then { state with successes := state.successes + 1 }
  else { state with failures := state.failures + 1 }

/-- `maybeResetWindow`. -/
def maybeResetWindow (now : ℤ) (state : SloState) : SloState :=
  if state.definition.windowDuration ≤ now - state.windowStart then
    { state with successes := 0, failures := 0, windowStart := now }
  else state

/-- `RegisterSLO`. -/
def registerSLO (now : ℤ) (definition : SLODefinition) (slos : Slos) : Slos :=
  Function.update slos definition.name (some { definition, windowStart := now })

/-- `UnregisterSLO`. -/
def unregisterSLO (name : String) (slos : Slos) : Slos := Function.update slos name none

/-- `RecordSuccess` and `RecordFailure`. -/
def record (ok : Bool) (now : ℤ) (name : String) (slos : Slos) : Slos :=
  match slos name with
  | none => slos
  | some state => Function.update slos name (some (maybeResetWindow now (state.count ok)))

/-- `RecordSuccess`. -/
def recordSuccess : ℤ → String → Slos → Slos := record true

/-- `RecordFailure`. -/
def recordFailure : ℤ → String → Slos → Slos := record false

/-- `allowedErrorRate`. -/
def allowedErrorRate (target : ℚ) : ℚ := (100 - target) / 100

/-- `errorRate`. -/
def errorRate (successes failures : ℕ) : ℚ := failures / (successes + failures)

/-- `ErrorBudgetRemaining`, of the counts. -/
def errorBudget (target : ℚ) (successes failures : ℕ) : ℚ :=
  if successes + failures = 0 then 100
  else if allowedErrorRate target ≤ errorRate successes failures then 0
  else (1 - errorRate successes failures / allowedErrorRate target) * 100

/-- `ErrorBudgetRemaining`. -/
def errorBudgetRemaining (name : String) (slos : Slos) : ℚ :=
  match slos name with
  | none => -1
  | some state => errorBudget state.definition.targetPercentage state.successes state.failures

/-! ## The formula -/

variable {target : ℚ} {s f : ℕ}

lemma errorRate_nonneg (s f : ℕ) : 0 ≤ errorRate s f := by
  unfold errorRate
  positivity

lemma errorRate_eq_zero_iff (h : s + f ≠ 0) : errorRate s f = 0 ↔ f = 0 := by
  have htotal : (s : ℚ) + f ≠ 0 := by exact_mod_cast h
  rw [errorRate, div_eq_zero_iff, or_iff_left htotal, Nat.cast_eq_zero]

lemma errorRate_succ_le (s f : ℕ) (h : s + f ≠ 0) : errorRate s f ≤ errorRate s (f + 1) := by
  have htotal : (0 : ℚ) < s + f := by exact_mod_cast Nat.pos_of_ne_zero h
  have hnext : (0 : ℚ) < s + (f + 1 : ℕ) := by positivity
  rw [errorRate, errorRate, div_le_div_iff₀ htotal hnext]
  push_cast
  nlinarith [Nat.cast_nonneg (α := ℚ) s]

/-- With events, the budget is used up exactly where the error rate has reached the allowed one. -/
lemma errorBudget_eq_zero_iff (h : s + f ≠ 0) :
    errorBudget target s f = 0 ↔ allowedErrorRate target ≤ errorRate s f := by
  rw [errorBudget, if_neg h]
  split
  case isTrue hle => exact iff_of_true rfl hle
  case isFalse hlt =>
    have hlt := lt_of_not_ge hlt
    have hpos : 0 < allowedErrorRate target := lt_of_le_of_lt (errorRate_nonneg s f) hlt
    have hfrac : errorRate s f / allowedErrorRate target < 1 := (div_lt_one hpos).mpr hlt
    exact iff_of_false (by nlinarith) (not_le.mpr hlt)

lemma errorBudget_le_hundred (target : ℚ) (s f : ℕ) : errorBudget target s f ≤ 100 := by
  unfold errorBudget
  split
  · exact le_refl _
  · split
    case isTrue => norm_num
    case isFalse hlt =>
      have hpos : 0 < allowedErrorRate target :=
        lt_of_le_of_lt (errorRate_nonneg s f) (lt_of_not_ge hlt)
      have hfrac : 0 ≤ errorRate s f / allowedErrorRate target :=
        div_nonneg (errorRate_nonneg s f) hpos.le
      linarith

/-- The budget is whole exactly where there are no failures, and no events at all if the target
allows no errors. -/
lemma errorBudget_eq_hundred_iff :
    errorBudget target s f = 100 ↔ f = 0 ∧ (s = 0 ∨ target < 100) := by
  unfold errorBudget
  split
  case isTrue hnone => exact iff_of_true rfl (by omega)
  case isFalse hsome =>
    have hallowed : 0 < allowedErrorRate target ↔ target < 100 := by
      rw [allowedErrorRate]
      constructor
      · intro h
        linarith
      · intro h
        linarith
    split
    case isTrue hle =>
      refine iff_of_false (by norm_num) ?_
      rintro ⟨rfl, hs | htarget⟩
      · omega
      · rw [(errorRate_eq_zero_iff hsome).mpr rfl] at hle
        exact absurd (hallowed.mpr htarget) (not_lt.mpr hle)
    case isFalse hlt =>
      have hpos : 0 < allowedErrorRate target :=
        lt_of_le_of_lt (errorRate_nonneg s f) (lt_of_not_ge hlt)
      have hzero : errorRate s f / allowedErrorRate target = 0 ↔ f = 0 := by
        rw [div_eq_zero_iff, or_iff_left hpos.ne', errorRate_eq_zero_iff hsome]
      constructor
      · intro h
        exact ⟨hzero.mp (by linarith), .inr (hallowed.mp hpos)⟩
      · rintro ⟨hf, -⟩
        rw [hzero.mpr hf]
        norm_num

lemma errorBudget_succ_le (target : ℚ) (s f : ℕ) :
    errorBudget target s (f + 1) ≤ errorBudget target s f := by
  by_cases hnone : s + f = 0
  · rw [errorBudget.eq_def target s f, if_pos hnone]
    exact errorBudget_le_hundred target s (f + 1)
  · have hrate := errorRate_succ_le s f hnone
    rw [errorBudget, errorBudget, if_neg hnone, if_neg (by omega)]
    by_cases hle : allowedErrorRate target ≤ errorRate s f
    · rw [if_pos hle, if_pos (hle.trans hrate)]
    · have hlt := lt_of_not_ge hle
      have hpos : 0 < allowedErrorRate target := lt_of_le_of_lt (errorRate_nonneg s f) hlt
      rw [if_neg hle]
      split
      · have hfrac : errorRate s f / allowedErrorRate target < 1 := (div_lt_one hpos).mpr hlt
        linarith
      · have hfrac : errorRate s f / allowedErrorRate target ≤
            errorRate s (f + 1) / allowedErrorRate target :=
          div_le_div_of_nonneg_right hrate hpos.le
        linarith

/-! ## Windows -/

/-- Numbers of events. -/
structure Counts where
  successes : ℕ := 0
  failures : ℕ := 0
deriving DecidableEq

/-- One more event. -/
def Counts.add (ok : Bool) (counts : Counts) : Counts :=
  if ok then { counts with successes := counts.successes + 1 }
  else { counts with failures := counts.failures + 1 }

/-- A window: when it started, the event that opened it if it was not the registration, and the
events in it. -/
structure Window where
  start : ℤ
  opener : Option Bool := none
  counts : Counts := {}
deriving DecidableEq

/-- The window of an event: the last one, or if that is over, one that the event opens. -/
def Window.add (duration now : ℤ) (ok : Bool) (window : Window) : Window :=
  if duration ≤ now - window.start then
    { start := now, opener := some ok, counts := ({} : Counts).add ok }
  else { window with counts := window.counts.add ok }

/-- The events in the window that contains an instant. -/
def Window.countsAt (duration now : ℤ) (window : Window) : Counts :=
  if duration ≤ now - window.start then {} else window.counts

/-! ## Runs -/

/-- An operation. -/
inductive Op
  | register (definition : SLODefinition)
  | unregister (name : String)
  | record (ok : Bool) (name : String)
  /-- `ErrorBudgetRemaining`. -/
  | read (name : String)
deriving DecidableEq

/-- An operation, and the time that has passed before it. -/
structure Event where
  elapsed : ℕ
  op : Op
deriving DecidableEq

/-- The tracker, and the windows of the objectives. -/
structure World where
  now : ℤ
  slos : Slos := fun _ => none
  windows : String → Option Window := fun _ => none

/-- What an event leads to. -/
def next (w : World) (e : Event) : World :=
  let now := w.now + e.elapsed
  match e.op with
  | .register definition =>
    { now
      slos := registerSLO now definition w.slos
      windows := Function.update w.windows definition.name (some { start := now }) }
  | .unregister name =>
    { now
      slos := unregisterSLO name w.slos
      windows := Function.update w.windows name none }
  | .record ok name =>
    { now
      slos := record ok now name w.slos
      windows := match w.slos name, w.windows name with
        | some state, some window => Function.update w.windows name
            (some (window.add state.definition.windowDuration now ok))
        | _, _ => w.windows }
  | .read _ => { w with now }

/-- What an operation should do. A failure does not give more budget. At a read the tracker's counts
are the events in the window of the instant, the budget is whole without failures, and with failures
it is used up exactly where their share has reached the allowed one. -/
def Right (w : World) (e : Event) : Prop :=
  match e.op with
  | .record false name =>
    errorBudgetRemaining name (next w e).slos ≤ errorBudgetRemaining name w.slos
  | .read name => ∀ state, w.slos name = some state → ∀ window, w.windows name = some window →
    let counts := window.countsAt state.definition.windowDuration (w.now + e.elapsed)
    let target := state.definition.targetPercentage
    (⟨state.successes, state.failures⟩ : Counts) = counts ∧
      (counts.failures = 0 → errorBudgetRemaining name w.slos / 100 = 1) ∧
        (0 < counts.failures → (errorBudgetRemaining name w.slos = 0 ↔
          allowedErrorRate target ≤ errorRate counts.successes counts.failures))
  | _ => True

/-- When it does that. A failure comes before the window ends, or finds the budget whole. A read
comes before the end of a window that the registration opened, or after the end of a window in which
nothing was counted; and the target allows an error, or there are failures or no events. -/
def Timely (w : World) (e : Event) : Prop :=
  match e.op with
  | .record false name => ∀ state, w.slos name = some state →
    w.now + e.elapsed - state.windowStart < state.definition.windowDuration ∨
      (state.failures = 0 ∧ (state.successes = 0 ∨ state.definition.targetPercentage < 100))
  | .read name => ∀ state, w.slos name = some state → ∀ window, w.windows name = some window →
    ((window.opener = none ∧
        w.now + e.elapsed - state.windowStart < state.definition.windowDuration) ∨
      (state.definition.windowDuration ≤ w.now + e.elapsed - state.windowStart ∧
        state.successes = 0 ∧ state.failures = 0)) ∧
      (state.failures = 0 → state.successes = 0 ∨ state.definition.targetPercentage < 100)
  | _ => True

/-! ## What the tracker counts -/

/-- The tracker counts the events of a window, except for the one that opened it. -/
structure Tracks (state : SloState) (window : Window) : Prop where
  start : state.windowStart = window.start
  successes : window.counts.successes =
    state.successes + if window.opener = some true then 1 else 0
  failures : window.counts.failures =
    state.failures + if window.opener = some false then 1 else 0

/-- The tracker and the windows have the same objectives. -/
def Inv (w : World) : Prop :=
  ∀ name, (w.slos name = none ∧ w.windows name = none) ∨
    ∃ state window, w.slos name = some state ∧ w.windows name = some window ∧ Tracks state window

variable {state : SloState} {window : Window} {w : World} {e : Event}

lemma Tracks.record (h : Tracks state window) (ok : Bool) (now : ℤ) :
    Tracks (maybeResetWindow now (state.count ok))
      (window.add state.definition.windowDuration now ok) := by
  obtain ⟨hstart, hsuccesses, hfailures⟩ := h
  have hdefinition : (state.count ok).definition = state.definition := by
    unfold SloState.count
    split <;> rfl
  have hwindowStart : (state.count ok).windowStart = state.windowStart := by
    unfold SloState.count
    split <;> rfl
  unfold maybeResetWindow Window.add
  rw [hdefinition, hwindowStart, hstart]
  split
  · cases ok <;> exact ⟨rfl, rfl, rfl⟩
  · cases ok
    · refine ⟨hstart, hsuccesses, ?_⟩
      simp only [SloState.count, Counts.add, Bool.false_eq_true, if_false]
      omega
    · refine ⟨hstart, ?_, hfailures⟩
      simp only [SloState.count, Counts.add, if_true]
      omega

lemma Inv.next (h : Inv w) (e : Event) : Inv (next w e) := by
  intro name
  obtain ⟨elapsed, op⟩ := e
  cases op with
  | register definition =>
    dsimp only [Slo.next, registerSLO]
    by_cases hname : name = definition.name
    · rw [hname, Function.update_self, Function.update_self]
      exact .inr ⟨_, _, rfl, rfl, rfl, rfl, rfl⟩
    · rw [Function.update_of_ne hname, Function.update_of_ne hname]
      exact h name
  | unregister name' =>
    dsimp only [Slo.next, unregisterSLO]
    by_cases hname : name = name'
    · rw [hname, Function.update_self, Function.update_self]
      exact .inl ⟨rfl, rfl⟩
    · rw [Function.update_of_ne hname, Function.update_of_ne hname]
      exact h name
  | record ok name' =>
    dsimp only [Slo.next, record]
    rcases h name' with ⟨hslo, hwindow⟩ | ⟨state, window, hslo, hwindow, htracks⟩
    · rw [hslo]
      exact h name
    · rw [hslo, hwindow]
      dsimp only
      by_cases hname : name = name'
      · rw [hname, Function.update_self, Function.update_self]
        exact .inr ⟨_, _, rfl, rfl, htracks.record ok _⟩
      · rw [Function.update_of_ne hname, Function.update_of_ne hname]
        exact h name
  | read name' => exact h name

lemma right_failure_iff {elapsed : ℕ} {name : String} :
    Right w ⟨elapsed, .record false name⟩ ↔ Timely w ⟨elapsed, .record false name⟩ := by
  dsimp only [Right, Timely, next, record, errorBudgetRemaining]
  cases hslo : w.slos name with
  | none =>
    dsimp only
    rw [hslo]
    exact iff_of_true (le_refl _) (fun _ h => nomatch h)
  | some state =>
    dsimp only
    rw [Function.update_self]
    simp only [Option.some.injEq, forall_eq']
    unfold maybeResetWindow
    split
    case isTrue hover =>
      have hover : state.definition.windowDuration ≤ w.now + elapsed - state.windowStart := hover
      rw [or_iff_right (not_lt.mpr hover), ← errorBudget_eq_hundred_iff]
      have hwhole : errorBudget state.definition.targetPercentage 0 0 = 100 := rfl
      exact ⟨fun hle => le_antisymm (errorBudget_le_hundred _ _ _) (hwhole ▸ hle),
        fun heq => heq ▸ errorBudget_le_hundred _ _ _⟩
    case isFalse hlasts =>
      have hlasts : ¬ state.definition.windowDuration ≤ w.now + elapsed - state.windowStart :=
        hlasts
      exact iff_of_true (errorBudget_succ_le _ _ _) (.inl (not_le.mp hlasts))

/-- The counts are those of the window of a read exactly where no event was left out of them, and
none is from before. -/
lemma counts_eq_iff (h : Tracks state window) (now : ℤ) :
    (⟨state.successes, state.failures⟩ : Counts) =
      window.countsAt state.definition.windowDuration now ↔
        (window.opener = none ∧ now - state.windowStart < state.definition.windowDuration) ∨
          (state.definition.windowDuration ≤ now - state.windowStart ∧
            state.successes = 0 ∧ state.failures = 0) := by
  obtain ⟨hstart, hsuccesses, hfailures⟩ := h
  unfold Window.countsAt
  rw [hstart]
  split
  case isTrue hover =>
    rw [or_iff_right (fun hlasts => absurd hover (not_le.mpr hlasts.2)), Counts.mk.injEq]
    exact ⟨fun hzero => ⟨hover, hzero⟩, fun hzero => hzero.2⟩
  case isFalse hlasts =>
    rw [or_iff_left (fun hover => hlasts hover.1)]
    obtain ⟨start, opener, successes, failures⟩ := window
    dsimp only at hsuccesses hfailures ⊢
    rw [Counts.mk.injEq, hsuccesses, hfailures]
    rcases opener with - | ok
    · simpa using not_le.mp hlasts
    · cases ok <;> simp

lemma right_read_iff (hinv : Inv w) {elapsed : ℕ} {name : String} :
    Right w ⟨elapsed, .read name⟩ ↔ Timely w ⟨elapsed, .read name⟩ := by
  dsimp only [Right, Timely, errorBudgetRemaining]
  rcases hinv name with ⟨hslo, -⟩ | ⟨state, window, hslo, hwindow, htracks⟩
  · rw [hslo]
    exact iff_of_true (fun _ h => nomatch h) (fun _ h => nomatch h)
  · rw [hslo, hwindow]
    simp only [Option.some.injEq, forall_eq']
    rw [← counts_eq_iff htracks]
    refine and_congr_right fun hcounts => ?_
    rw [← hcounts]
    dsimp only
    have hwhole : errorBudget state.definition.targetPercentage state.successes state.failures /
        100 = 1 ↔ errorBudget state.definition.targetPercentage state.successes state.failures =
          100 := by
      rw [div_eq_one_iff_eq (by norm_num)]
    rw [hwhole, errorBudget_eq_hundred_iff]
    constructor
    · intro h hzero
      exact (h.1 hzero).2
    · intro h
      exact ⟨fun hzero => ⟨hzero, h hzero⟩, fun hpos => errorBudget_eq_zero_iff (by omega)⟩

/-- In a run every operation does what it should exactly if every operation is timely. -/
theorem right_iff_timely (now : ℤ) (events : List Event) :
    Allowed next Right { now } events ↔ Allowed next Timely { now } events := by
  refine allowed_iff_allowed (I := Inv) (fun w e hinv _ => hinv.next e) (fun w e hinv => ?_)
    (fun name => .inl ⟨rfl, rfl⟩)
  obtain ⟨elapsed, op⟩ := e
  cases op with
  | record ok name =>
    cases ok with
    | false => exact right_failure_iff
    | true => exact Iff.rfl
  | read name => exact right_read_iff hinv
  | register definition => exact Iff.rfl
  | unregister name => exact Iff.rfl

/-- An objective with a window of ten nanoseconds. -/
def api : SLODefinition := { name := "api", targetPercentage := 99, windowDuration := 10 }

/-- A failure when the window has just ended, and a read at the same instant. -/
def lateFailure : List Event :=
  [⟨0, .register api⟩, ⟨10, .record false "api"⟩, ⟨0, .read "api"⟩]

theorem not_right_lateFailure : ¬ Allowed next Right { now := 0 } lateFailure := by
  rintro ⟨-, -, hread, -⟩
  have hcounts := (hread { definition := api, windowStart := 10 } (by decide)
    { start := 10, opener := some false, counts := { failures := 1 } } (by decide)).1
  exact absurd hcounts (by decide)

end Paryty.Monitoring.Slo

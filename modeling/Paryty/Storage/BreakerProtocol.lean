import Mathlib.Data.List.Basic
import Paryty.Storage.WarmTier

/-!
# The circuit breaker under concurrent requests

A request asks `Allow`, and if it is admitted it records its result some time later, when others
may have changed the state of the breaker. Any number of requests do so in any order.

* `State.next` is one call of `Allow`, `RecordSuccess` or `RecordFailure`.
* `Conforms` is the protocol in the comment on `circuitBreaker`, for one call.
* `conforms_iff`: a run follows the protocol exactly if no success is recorded while the breaker is
  open and no probe is admitted while another one is under way.
* `late_results`: how a run leaves it.
-/

namespace Paryty.Storage.BreakerProtocol

/-- The breaker and its requests. -/
structure State where
  breaker : CircuitBreaker
  /-- The admitted requests without a result: whether each of them is a probe, admitted in the
  half-open state. -/
  underWay : List Bool := []
  /-- The results and when they were recorded, the last one first. -/
  results : List (ℤ × Bool) := []
deriving DecidableEq

/-- What a request does. -/
inductive Event
  /-- It calls `Allow`. -/
  | allow (now : ℤ)
  /-- It calls `RecordSuccess` or `RecordFailure`. The request is named by its place among those
  under way. -/
  | record (request : ℕ) (now : ℤ) (ok : Bool)
deriving DecidableEq

/-- `newCircuitBreaker`. -/
def newCircuitBreaker (threshold : ℕ) (cooldown : ℤ) : State where
  breaker := { threshold, cooldown }

namespace State

/-- The number of probes under way. -/
def probes (s : State) : ℕ := s.underWay.count true

/-- The failures since the last success. -/
def consecutiveFailures (s : State) : ℕ := (s.results.takeWhile (fun r => !r.2)).length

/-- When the last failure was recorded. -/
def failedAt (s : State) : Option ℤ := (s.results.find? (fun r => !r.2)).map Prod.fst

/-- `Allow`. -/
def allow (s : State) (now : ℤ) : State :=
  let (admitted, breaker) := s.breaker.allow now
  if admitted then
    { s with
      breaker
      underWay := s.underWay ++ [decide (breaker.state = .stateHalfOpen)] }
  else { s with breaker }

/-- `RecordSuccess` and `RecordFailure`. -/
def record (s : State) (request : ℕ) (now : ℤ) (ok : Bool) : State :=
  if request < s.underWay.length then
    { breaker := s.breaker.record now ok
      underWay := s.underWay.eraseIdx request
      results := (now, ok) :: s.results }
  else s

/-- One call. -/
def next (s : State) : Event → State
  | .allow now => s.allow now
  | .record request now ok => s.record request now ok

end State

/-- A move of the breaker that the protocol knows. -/
inductive Move (s : State) : Event → CircuitBreakerState → Prop
  | stay (e : Event) : Move s e s.breaker.state
  /-- Closed to open, after the threshold of consecutive failures. -/
  | trip {request : ℕ} {now : ℤ} (hstate : s.breaker.state = .stateClosed)
      (hthreshold : s.breaker.threshold ≤ s.consecutiveFailures + 1) :
      Move s (.record request now false) .stateOpen
  /-- Open to half-open, after the cooldown. -/
  | probe {now failed : ℤ} (hstate : s.breaker.state = .stateOpen) (hfailed : s.failedAt = some failed)
      (hcooldown : s.breaker.cooldown ≤ now - failed) : Move s (.allow now) .stateHalfOpen
  /-- Half-open to closed, on success. -/
  | close {request : ℕ} {now : ℤ} (hstate : s.breaker.state = .stateHalfOpen) :
      Move s (.record request now true) .stateClosed
  /-- Half-open to open, on failure. -/
  | reopen {request : ℕ} {now : ℤ} (hstate : s.breaker.state = .stateHalfOpen) :
      Move s (.record request now false) .stateOpen

/-- The call moves the breaker as the protocol says and leaves at most one probe under way. -/
structure Conforms (s : State) (e : Event) : Prop where
  move : Move s e (s.next e).breaker.state
  probes : (s.next e).probes ≤ 1

/-- No success comes in while the breaker is open, and no request is admitted as a probe while
another probe is under way. -/
def Orderly (s : State) : Event → Prop
  | .allow now => ((s.breaker.allow now).2.state = .stateHalfOpen → s.probes = 0)
  | .record request _ ok =>
    request < s.underWay.length → ok = true → s.breaker.state ≠ .stateOpen

/-! ## Calls -/

/-- The breaker counts the failures, and an open one knows when the last of them was. -/
structure Inv (s : State) : Prop where
  failures : s.breaker.failures = s.consecutiveFailures
  failedAt : s.breaker.state = .stateOpen → s.failedAt = some s.breaker.lastFailure
  probes : s.probes ≤ 1

namespace State

variable {s : State} {request : ℕ} {now : ℤ} {ok : Bool}

lemma record_of_lt (h : request < s.underWay.length) : s.record request now ok =
    ⟨s.breaker.record now ok, s.underWay.eraseIdx request, (now, ok) :: s.results⟩ := if_pos h

lemma record_of_not_lt (h : ¬ request < s.underWay.length) : s.record request now ok = s :=
  if_neg h

@[simp] lemma results_allow : (s.allow now).results = s.results := by
  unfold allow
  dsimp only
  split <;> rfl

@[simp] lemma breaker_allow : (s.allow now).breaker = (s.breaker.allow now).2 := by
  unfold allow
  dsimp only
  split <;> rfl

lemma consecutiveFailures_cons (b : CircuitBreaker) (w : List Bool) :
    (⟨b, w, (now, ok) :: s.results⟩ : State).consecutiveFailures =
      if ok then 0 else s.consecutiveFailures + 1 := by
  cases ok <;> simp [consecutiveFailures]

lemma failedAt_cons (b : CircuitBreaker) (w : List Bool) :
    (⟨b, w, (now, ok) :: s.results⟩ : State).failedAt = if ok then s.failedAt else some now := by
  cases ok <;> simp [failedAt]

lemma probes_record_le : (s.record request now ok).probes ≤ s.probes := by
  by_cases h : request < s.underWay.length
  · rw [record_of_lt h]
    exact (List.eraseIdx_sublist _ _).count_le true
  · exact Nat.le_of_eq (congrArg probes (record_of_not_lt h))

/-- `Allow` adds a probe if it leaves the breaker half-open. -/
lemma probes_allow : (s.allow now).probes =
    s.probes + if (s.breaker.allow now).2.state = .stateHalfOpen then 1 else 0 := by
  unfold allow CircuitBreaker.allow
  cases hstate : s.breaker.state with
  | stateClosed => simp [probes, hstate]
  | stateOpen =>
    by_cases hcooldown : now - s.breaker.lastFailure ≥ s.breaker.cooldown
    · simp [probes, hcooldown]
    · simp [probes, hcooldown, hstate]
  | stateHalfOpen => simp [probes, hstate]

end State

namespace CircuitBreaker

/-- What `Allow` does to the state. -/
lemma state_allow (cb : CircuitBreaker) (now : ℤ) : (cb.allow now).2.state = cb.state ∨
    cb.state = .stateOpen ∧ cb.cooldown ≤ now - cb.lastFailure ∧
      (cb.allow now).2.state = .stateHalfOpen := by
  unfold CircuitBreaker.allow
  cases hstate : cb.state with
  | stateClosed => exact .inl hstate
  | stateOpen =>
    by_cases hcooldown : now - cb.lastFailure ≥ cb.cooldown
    · exact .inr (by simp [hcooldown])
    · exact .inl (by simp [hcooldown, hstate])
  | stateHalfOpen => exact .inl hstate

/-- `Allow` leaves the counter and the time of the last failure. -/
lemma failures_allow (cb : CircuitBreaker) (now : ℤ) :
    (cb.allow now).2.failures = cb.failures ∧ (cb.allow now).2.lastFailure = cb.lastFailure := by
  unfold CircuitBreaker.allow
  split
  · exact ⟨rfl, rfl⟩
  · split <;> exact ⟨rfl, rfl⟩
  · exact ⟨rfl, rfl⟩

end CircuitBreaker

variable {s : State} {e : Event}

lemma Inv.new (threshold : ℕ) (cooldown : ℤ) : Inv (newCircuitBreaker threshold cooldown) where
  failures := rfl
  failedAt h := nomatch h
  probes := Nat.zero_le 1

lemma Inv.next (h : Inv s) (hprobes : (s.next e).probes ≤ 1) : Inv (s.next e) := by
  cases e with
  | allow now =>
    obtain ⟨hfailures, hlast⟩ := CircuitBreaker.failures_allow s.breaker now
    have hcount : (s.allow now).consecutiveFailures = s.consecutiveFailures := by
      rw [State.consecutiveFailures, State.results_allow, State.consecutiveFailures]
    have hfailed : (s.allow now).failedAt = s.failedAt := by
      rw [State.failedAt, State.results_allow, State.failedAt]
    refine ⟨?_, fun hopen => ?_, hprobes⟩
    · show (s.allow now).breaker.failures = (s.allow now).consecutiveFailures
      rw [State.breaker_allow, hfailures, hcount, h.failures]
    · change (s.allow now).breaker.state = .stateOpen at hopen
      show (s.allow now).failedAt = some (s.allow now).breaker.lastFailure
      rw [State.breaker_allow] at hopen ⊢
      -- The call cannot have opened the breaker.
      rcases CircuitBreaker.state_allow s.breaker now with hsame | ⟨-, -, hhalf⟩
      · rw [hfailed, hlast]
        exact h.failedAt (hsame ▸ hopen)
      · rw [hopen] at hhalf
        exact absurd hhalf (by decide)
  | record request now ok =>
    by_cases hlt : request < s.underWay.length
    · have hrecord : s.next (.record request now ok) = ⟨s.breaker.record now ok, _, _⟩ :=
        State.record_of_lt hlt
      refine ⟨?_, ?_, hprobes⟩
      · rw [hrecord, State.consecutiveFailures_cons, ← h.failures]
        cases ok <;> rfl
      · rw [hrecord, State.failedAt_cons]
        cases ok with
        | false => exact fun _ => rfl
        | true => exact fun hopen => nomatch hopen
    · have hsame : s.next (.record request now ok) = s := State.record_of_not_lt hlt
      rw [hsame]
      exact h

lemma not_move_of_open {request : ℕ} {now : ℤ} (hopen : s.breaker.state = .stateOpen) :
    ¬ Move s (.record request now true) .stateClosed := by
  generalize htarget : CircuitBreakerState.stateClosed = target
  intro hmove
  cases hmove with
  | stay => exact absurd (htarget.trans hopen) (by decide)
  | close hhalf => exact absurd (hopen.symm.trans hhalf) (by decide)

lemma move_success {request : ℕ} {now : ℤ} (hopen : s.breaker.state ≠ .stateOpen) :
    Move s (.record request now true) .stateClosed := by
  cases hstate : s.breaker.state with
  | stateClosed =>
    rw [← hstate]
    exact .stay _
  | stateOpen => exact absurd hstate hopen
  | stateHalfOpen => exact .close hstate

lemma Inv.move_failure (h : Inv s) {request : ℕ} {now : ℤ} :
    Move s (.record request now false) (s.breaker.record now false).state := by
  have hstate : (s.breaker.record now false).state =
      if s.breaker.failures + 1 ≥ s.breaker.threshold then .stateOpen else s.breaker.state := rfl
  rw [hstate]
  split
  · next hthreshold =>
    cases hbefore : s.breaker.state with
    | stateClosed => exact .trip hbefore (h.failures ▸ hthreshold)
    | stateOpen =>
      rw [← hbefore]
      exact .stay _
    | stateHalfOpen => exact .reopen hbefore
  · exact .stay _

lemma Inv.conforms_iff_orderly (h : Inv s) : Conforms s e ↔ Orderly s e := by
  cases e with
  | allow now =>
    have hprobes : (s.next (.allow now)).probes = _ := State.probes_allow
    constructor
    · intro hconforms hhalf
      have hle := hconforms.probes
      rw [hprobes, if_pos hhalf] at hle
      omega
    · intro horderly
      constructor
      · show Move s (.allow now) (s.allow now).breaker.state
        rw [State.breaker_allow]
        -- An admission changes the state only when the cooldown of an open breaker has passed.
        rcases CircuitBreaker.state_allow s.breaker now with hsame | ⟨hopen, hcooldown, hhalf⟩
        · rw [hsame]
          exact .stay _
        · rw [hhalf]
          exact .probe hopen (h.failedAt hopen) hcooldown
      · rw [hprobes]
        split
        · next hhalf =>
          have hnone := horderly hhalf
          omega
        · exact h.probes
  | record request now ok =>
    by_cases hlt : request < s.underWay.length
    · have hbreaker : (s.next (.record request now ok)).breaker = s.breaker.record now ok :=
        congrArg State.breaker (State.record_of_lt hlt)
      have hprobes : (s.next (.record request now ok)).probes ≤ 1 :=
        Nat.le_trans State.probes_record_le h.probes
      cases ok with
      | true =>
        -- A success closes the breaker from every state; from the open one that is no move.
        have hclosed : (s.next (.record request now true)).breaker.state = .stateClosed :=
          congrArg CircuitBreaker.state hbreaker
        refine ⟨fun hconforms _ _ hopen => ?_, fun horderly => ⟨?_, hprobes⟩⟩
        · have hmove := hconforms.move
          rw [hclosed] at hmove
          exact not_move_of_open hopen hmove
        · rw [hclosed]
          exact move_success (horderly hlt rfl)
      | false =>
        refine iff_of_true ⟨?_, hprobes⟩ fun _ hfalse => absurd hfalse (by decide)
        rw [hbreaker]
        exact h.move_failure
    · have hsame : s.next (.record request now ok) = s := State.record_of_not_lt hlt
      refine iff_of_true ⟨?_, ?_⟩ fun hlt' => absurd hlt' hlt
      · rw [hsame]
        exact .stay _
      · rw [hsame]
        exact h.probes

/-- **The breaker follows its protocol**, and when. For every threshold and cooldown and every
sequence of calls of any number of requests: every call conforms if and only if no success is
recorded in the open state and no probe is admitted while another one is under way. -/
theorem conforms_iff (threshold : ℕ) (cooldown : ℤ) (events : List Event) :
    Lib.Allowed State.next Conforms (newCircuitBreaker threshold cooldown) events ↔
      Lib.Allowed State.next Orderly (newCircuitBreaker threshold cooldown) events :=
  Lib.allowed_iff_allowed (I := Inv) (fun _ _ h hconforms => h.next hconforms.probes)
    (fun _ _ h => h.conforms_iff_orderly) (Inv.new threshold cooldown)

/-! ### Results that come late -/

/-- Six requests are admitted, and five of them fail. -/
def fiveFailures : List Event :=
  List.replicate 6 (.allow 0) ++ List.replicate 5 (.record 0 1 false)

/-- The open breaker is closed by the success of the sixth request. In another run two requests
ask after the cooldown, and both are admitted as probes. -/
theorem late_results :
    ¬ Lib.Allowed State.next Conforms (newCircuitBreaker defaultFailureThreshold defaultCooldown)
        (fiveFailures ++ [.record 0 2 true]) ∧
      ¬ Lib.Allowed State.next Conforms (newCircuitBreaker defaultFailureThreshold defaultCooldown)
        ((fiveFailures ++ [.allow (1 + defaultCooldown)]) ++ [.allow (2 + defaultCooldown)]) := by
  constructor
  · intro h
    have hmove := h.of_append.move
    have hopen : (fiveFailures.foldl State.next
        (newCircuitBreaker defaultFailureThreshold defaultCooldown)).breaker.state =
          .stateOpen := by decide
    exact not_move_of_open hopen hmove
  · intro h
    have hprobes := h.of_append.probes
    exact absurd hprobes (by decide)

end Paryty.Storage.BreakerProtocol

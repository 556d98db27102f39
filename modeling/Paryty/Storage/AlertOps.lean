import Mathlib.Algebra.Order.Ring.Int
import Mathlib.Tactic.SplitIfs
import Paryty.Lib.Expiring

/-!
# Alerts in the hot tier

`cluster/internal/storage/hot/alert_ops.go`: the state of an alert, its metadata and its
fingerprint are three Redis keys, each with a TTL of its own. `TransitionAlert` and
`DeduplicateAlert` are sequences of single commands on them, so any number of calls, from any
number of processes, are interleaved command by command.

* `Call` is a call under way: what its next command is.
* `State.next` is one command of a call and its reply, the start of a call, or time passing. A
  command may fail: then the caller gets an error, and whether a write took effect is open.

Keys are those of one tenant. `fingerprint` stands for `Fingerprint`, whose last step is SHA-256.
-/

namespace Paryty.Storage.Alerts

/-! ## Data -/

/-- `AlertState`. -/
inductive AlertState
  | firing
  | resolved
  | acknowledged
  | silenced
deriving DecidableEq

/-- `validTransitions`. -/
def validTransitions : AlertState → List AlertState
  | .firing => [.resolved, .acknowledged, .silenced]
  | .acknowledged => [.firing, .resolved, .silenced]
  | .silenced => [.firing, .resolved]
  | .resolved => []

/-- `isActiveState`. -/
def isActiveState : AlertState → Bool
  | .firing | .acknowledged | .silenced => true
  | .resolved => false

/-- `models.Alert`: its ID, and the parts that go into the fingerprint. -/
structure Alert where
  id : String
  name : String
  labels : List (String × String)
  severity : String
deriving DecidableEq

/-- `AlertTransition`. -/
structure AlertTransition where
  source : AlertState
  target : AlertState
  reason : String
deriving DecidableEq

/-- `alertActiveTTL`, in nanoseconds. -/
def alertActiveTTL : ℕ := 5 * 60 * 10 ^ 9

/-- `alertResolvedTTL`. -/
def alertResolvedTTL : ℕ := 60 * 10 ^ 9

/-- `historyTTL`. -/
def historyTTL : ℕ := 60 * 60 * 10 ^ 9

/-- The keys of a tenant: `alertStateKey`, `alertMetaKey`, `alertFingerprintKey` and
`alertHistoryKey`. -/
structure Keys (H : Type*) where
  state : Lib.Expiring String AlertState := .empty
  metadata : Lib.Expiring String Alert := .empty
  fingerprint : Lib.Expiring H String := .empty
  history : Lib.Expiring String (List AlertTransition) := .empty

/-! ## Calls -/

/-- Where `TransitionAlert` stands: its next command. -/
inductive TransitionPhase (H : Type*)
  /-- GET of the state. -/
  | getState
  /-- SET of the new state. -/
  | setState (current : AlertState)
  /-- GET of the metadata, in `clearFingerprintForAlert`. -/
  | getMeta (current : AlertState)
  /-- GET of the fingerprint key. -/
  | getFingerprint (current : AlertState) (hash : H)
  /-- DEL of the fingerprint key. -/
  | delFingerprint (current : AlertState) (hash : H)
  /-- The pipeline of `StoreAlertTransition`. -/
  | storeTransition (current : AlertState)
  /-- It has returned: whether without an error. -/
  | returned (ok : Bool)
deriving DecidableEq

/-- Where `DeduplicateAlert` stands. -/
inductive DedupPhase
  /-- GET of the fingerprint key. -/
  | getFingerprint
  /-- GET of the state of the alert that is bound to it. -/
  | getState (existingAlertID : String)
  /-- SETNX of the fingerprint key. -/
  | setNX
  /-- SET of the metadata. -/
  | storeMeta
  /-- SET of the state. -/
  | setState
  /-- It has returned: whether the alert is a duplicate, `none` for an error. -/
  | returned (duplicate : Option Bool)
deriving DecidableEq

/-- A call. -/
inductive Call (H : Type*)
  | transition (alertID : String) (newState : AlertState) (reason : String)
      (phase : TransitionPhase H)
  | dedup (alert : Alert) (phase : DedupPhase)
deriving DecidableEq

/-- The reply to a command. -/
inductive Reply
  /-- The command is carried out and its caller learns the result. -/
  | answered
  /-- The caller gets an error. -/
  | failed (applied : Bool)
deriving DecidableEq

/-- Whether a write with this reply took effect. -/
def Reply.applied : Reply → Bool
  | .answered => true
  | .failed applied => applied

/-- Redis, the calls, and what was stored. -/
structure State (H : Type*) where
  now : ℕ := 0
  keys : Keys H := {}
  calls : List (Call H) := []
  /-- The states that were stored for each alert, in order. -/
  stored : String → List AlertState := fun _ => []
  /-- The alert that the state stored for an ID is that of. -/
  alertOf : String → Option Alert := fun _ => none

/-- What happens. -/
inductive Event
  /-- `TransitionAlert` is called with an ID and a valid state. -/
  | transitionAlert (alertID : String) (newState : AlertState) (reason : String)
  /-- `DeduplicateAlert` is called. -/
  | deduplicateAlert (alert : Alert)
  /-- The next command of a call. -/
  | command (call : ℕ) (reply : Reply)
  /-- Time passes. -/
  | pass (time : ℕ)
deriving DecidableEq

namespace State

variable {H : Type*}

/-- The state of an alert that a GET finds. -/
def getAlertState (s : State H) (alertID : String) : Option AlertState :=
  s.keys.state.get s.now alertID

/-- `setAlertState`. -/
def setAlertState (s : State H) (alertID : String) (state : AlertState) (ttl : ℕ) : State H :=
  { s with
    keys := { s.keys with state := s.keys.state.set s.now ttl alertID state }
    stored := Function.update s.stored alertID (s.stored alertID ++ [state]) }

/-- The call is at its next command. -/
def setCall (s : State H) (c : ℕ) (call : Call H) : State H :=
  { s with calls := s.calls.set c call }

variable [DecidableEq H] (fingerprint : Alert → H)

/-- A command of `TransitionAlert`: the state afterwards and the next phase. -/
def transition (s : State H) (alertID : String) (newState : AlertState) (reason : String)
    (reply : Reply) : TransitionPhase H → State H × TransitionPhase H
  | .getState =>
    match reply, s.getAlertState alertID with
    | .failed _, _ => (s, .returned false)
    | .answered, none => (s, .returned false)
    | .answered, some current =>
      if current = newState then (s, .returned true)
      else if newState ∈ validTransitions current then (s, .setState current)
      else (s, .returned false)
  | .setState current =>
    let ttl := if newState = .resolved then alertResolvedTTL else alertActiveTTL
    let s' := if reply.applied then s.setAlertState alertID newState ttl else s
    match reply with
    | .failed _ => (s', .returned false)
    | .answered =>
      (s', if newState = .resolved then .getMeta current else .storeTransition current)
  | .getMeta current =>
    match reply, s.keys.metadata.get s.now alertID with
    | .answered, some alert => (s, .getFingerprint current (fingerprint alert))
    | _, _ => (s, .storeTransition current)
  | .getFingerprint current hash =>
    match reply, s.keys.fingerprint.get s.now hash with
    | .answered, some existingID =>
      (s, if existingID = alertID then .delFingerprint current hash else .storeTransition current)
    | _, _ => (s, .storeTransition current)
  | .delFingerprint current hash =>
    (if reply.applied then
      { s with keys := { s.keys with fingerprint := s.keys.fingerprint.del hash } } else s,
      .storeTransition current)
  | .storeTransition current =>
    let entries := (s.keys.history.get s.now alertID).getD []
    let history := s.keys.history.set s.now historyTTL alertID
      (entries ++ [⟨current, newState, reason⟩])
    (if reply.applied then { s with keys := { s.keys with history } } else s, .returned true)
  | .returned ok => (s, .returned ok)

/-- A command of `DeduplicateAlert`. -/
def dedup (s : State H) (alert : Alert) (reply : Reply) : DedupPhase → State H × DedupPhase
  | .getFingerprint =>
    match reply, s.keys.fingerprint.get s.now (fingerprint alert) with
    | .failed _, _ => (s, .returned none)
    | .answered, none => (s, .setNX)
    | .answered, some existingAlertID =>
      (s, if existingAlertID = "" then .setNX else .getState existingAlertID)
  | .getState existingAlertID =>
    match reply, s.getAlertState existingAlertID with
    | .failed _, _ => (s, .returned none)
    | .answered, none => (s, .setNX)
    | .answered, some existingState =>
      (s, if isActiveState existingState then .returned (some true) else .setNX)
  | .setNX =>
    match s.keys.fingerprint.get s.now (fingerprint alert) with
    | some _ =>
      match reply with
      | .failed _ => (s, .returned none)
      | .answered => (s, .returned (some true))
    | none =>
      let bound := s.keys.fingerprint.set s.now alertActiveTTL (fingerprint alert) alert.id
      let s' := if reply.applied then { s with keys := { s.keys with fingerprint := bound } } else s
      match reply with
      | .failed _ => (s', .returned none)
      | .answered => (s', .storeMeta)
  | .storeMeta =>
    let metadata := s.keys.metadata.set s.now alertActiveTTL alert.id alert
    let s' := if reply.applied then { s with keys := { s.keys with metadata } } else s
    match reply with
    | .failed _ => (s', .returned none)
    | .answered => (s', .setState)
  | .setState =>
    let s' := if reply.applied then
        { s.setAlertState alert.id .firing alertActiveTTL with
          alertOf := Function.update s.alertOf alert.id (some alert) }
      else s
    match reply with
    | .failed _ => (s', .returned none)
    | .answered => (s', .returned (some false))
  | .returned duplicate => (s, .returned duplicate)

/-- The next command of a call. -/
def command (s : State H) (c : ℕ) (reply : Reply) : State H :=
  match s.calls[c]? with
  | none => s
  | some (.transition alertID newState reason phase) =>
    let (s', phase') := s.transition fingerprint alertID newState reason reply phase
    s'.setCall c (.transition alertID newState reason phase')
  | some (.dedup alert phase) =>
    let (s', phase') := s.dedup fingerprint alert reply phase
    s'.setCall c (.dedup alert phase')

/-- One event. -/
def next (s : State H) : Event → State H
  | .transitionAlert alertID newState reason =>
    let phase := if alertID = "" then .returned false else .getState
    { s with calls := s.calls ++ [.transition alertID newState reason phase] }
  | .deduplicateAlert alert => { s with calls := s.calls ++ [.dedup alert .getFingerprint] }
  | .command call reply => s.command fingerprint call reply
  | .pass time => { s with now := s.now + time }

/-! ## What a command does -/

/-- The states of the alerts, as a reader and as the log have them, and the calls are the same. -/
structure SameAlerts (s s' : State H) : Prop where
  now : s'.now = s.now
  state : s'.keys.state = s.keys.state
  stored : s'.stored = s.stored
  alertOf : s'.alertOf = s.alertOf
  calls : s'.calls = s.calls

omit [DecidableEq H] in
lemma SameAlerts.refl (s : State H) : SameAlerts s s := ⟨rfl, rfl, rfl, rfl, rfl⟩

variable {fingerprint} {s : State H} {alertID : String} {newState : AlertState} {reason : String}
  {reply : Reply} {alert : Alert}

/-- A SET of `TransitionAlert`. -/
lemma transition_setState (current : AlertState) :
    (s.transition fingerprint alertID newState reason reply (.setState current)).1 =
      if reply.applied then s.setAlertState alertID newState
        (if newState = .resolved then alertResolvedTTL else alertActiveTTL) else s := by
  cases reply <;> rfl

/-- The other commands of `TransitionAlert`. -/
lemma sameAlerts_transition {phase : TransitionPhase H} (h : ∀ current, phase ≠ .setState current) :
    SameAlerts s (s.transition fingerprint alertID newState reason reply phase).1 := by
  cases phase with
  | setState current => exact absurd rfl (h current)
  | getState =>
    unfold transition
    dsimp only
    split
    · exact .refl s
    · exact .refl s
    · split_ifs <;> exact .refl s
  | getMeta | getFingerprint =>
    unfold transition
    dsimp only
    split <;> exact .refl s
  | delFingerprint | storeTransition =>
    unfold transition
    dsimp only
    split <;> constructor <;> rfl
  | returned => exact .refl s

lemma transition_eq_setState {phase : TransitionPhase H} {current : AlertState}
    (h : (s.transition fingerprint alertID newState reason reply phase).2 = .setState current) :
    s.getAlertState alertID = some current ∧ newState ∈ validTransitions current := by
  cases phase with
  | getState =>
    unfold transition at h
    dsimp only at h
    split at h
    · cases h
    · cases h
    · split_ifs at h with hsame hvalid
      cases h
      exact ⟨by assumption, hvalid⟩
  | setState =>
    unfold transition at h
    cases reply with
    | failed => cases h
    | answered =>
      dsimp only at h
      split_ifs at h
  | getMeta =>
    unfold transition at h
    dsimp only at h
    split at h <;> cases h
  | getFingerprint =>
    unfold transition at h
    dsimp only at h
    split at h
    · split_ifs at h
    · cases h
  | delFingerprint => cases h
  | storeTransition => cases h
  | returned => cases h

lemma calls_transition {phase : TransitionPhase H} :
    (s.transition fingerprint alertID newState reason reply phase).1.calls = s.calls ∧
      (s.transition fingerprint alertID newState reason reply phase).1.alertOf = s.alertOf := by
  by_cases hphase : ∃ current, phase = .setState current
  · obtain ⟨current, rfl⟩ := hphase
    rw [transition_setState]
    split <;> exact ⟨rfl, rfl⟩
  · have hsame : SameAlerts s (s.transition fingerprint alertID newState reason reply phase).1 :=
      sameAlerts_transition fun current hcurrent => hphase ⟨current, hcurrent⟩
    exact ⟨hsame.calls, hsame.alertOf⟩

/-- The last SET of `DeduplicateAlert`. -/
lemma dedup_setState : (s.dedup fingerprint alert reply .setState).1 =
    if reply.applied then
      { s.setAlertState alert.id .firing alertActiveTTL with
        alertOf := Function.update s.alertOf alert.id (some alert) }
    else s := by
  cases reply <;> rfl

lemma calls_dedup {phase : DedupPhase} :
    (s.dedup fingerprint alert reply phase).1.calls = s.calls := by
  unfold dedup
  repeat' split
  all_goals rfl

lemma dedup_eq_getState {phase : DedupPhase} {existing : String}
    (h : (s.dedup fingerprint alert reply phase).2 = .getState existing) :
    s.keys.fingerprint.get s.now (fingerprint alert) = some existing := by
  cases phase with
  | getFingerprint =>
    unfold dedup at h
    dsimp only at h
    split at h
    · cases h
    · cases h
    · dsimp only at h
      split_ifs at h
      cases h
      assumption
  | getState =>
    unfold dedup at h
    dsimp only at h
    split at h
    · cases h
    · cases h
    · dsimp only at h
      split_ifs at h
  | setNX =>
    unfold dedup at h
    dsimp only at h
    split at h <;> split at h <;> cases h
  | storeMeta => cases reply <;> cases h
  | setState => cases reply <;> cases h
  | returned => cases h

/-- A call reports a duplicate when the alert under the fingerprint is active, or when another one
has taken the fingerprint. -/
lemma dedup_eq_returned {phase : DedupPhase} (hphase : ∀ duplicate, phase ≠ .returned duplicate)
    (h : (s.dedup fingerprint alert reply phase).2 = .returned (some true)) : reply = .answered ∧
      ((∃ existing, phase = .getState existing ∧
        (s.getAlertState existing).any isActiveState = true) ∨
      phase = .setNX ∧ s.keys.fingerprint.get s.now (fingerprint alert) ≠ none) := by
  cases phase with
  | getFingerprint =>
    unfold dedup at h
    dsimp only at h
    split at h
    · cases h
    · cases h
    · dsimp only at h
      split_ifs at h
  | getState existing =>
    cases reply with
    | failed => cases h
    | answered =>
      refine ⟨rfl, .inl ⟨existing, rfl, ?_⟩⟩
      cases hstate : s.getAlertState existing with
      | none => simp [dedup, hstate] at h
      | some state => simpa [dedup, hstate] using h
  | setNX =>
    unfold dedup at h
    cases hbound : s.keys.fingerprint.get s.now (fingerprint alert) with
    | none => cases reply <;> simp [hbound] at h
    | some existing => cases reply <;> simp_all
  | storeMeta => cases reply <;> cases h
  | setState => cases reply <;> cases h
  | returned duplicate => exact absurd rfl (hphase duplicate)

end State

end Paryty.Storage.Alerts

import Mathlib.Data.List.Chain
import Paryty.Lib.Run
import Paryty.Storage.AlertOps

/-!
# The life of an alert

`TransitionAlert` reads the state, checks the move and writes the new state, one command each.
Any number of calls do this on one alert.

* `Lifecycle`: the stored states are a path in `validTransitions`, with nothing after `resolved`.
* `lifecycle_of_undisturbed`: a run keeps to it if the state that a call has read is still the one
  stored last when the call writes.
* `resolved_reopened`: two calls that read the same state.
-/

namespace Paryty.Storage.Alerts

variable {H : Type*} [DecidableEq H] (fingerprint : Alert → H)

/-- What happens to one alert. -/
inductive Step
  /-- `TransitionAlert` is called. -/
  | transitionAlert (newState : AlertState) (reason : String)
  /-- The next command of a call. -/
  | command (call : ℕ) (reply : Reply)
  /-- Time passes. -/
  | pass (time : ℕ)
deriving DecidableEq

/-- The event it is. -/
def Step.event (alertID : String) : Step → Event
  | .transitionAlert newState reason => .transitionAlert alertID newState reason
  | .command call reply => .command call reply
  | .pass time => .pass time

/-- An alert whose state has been stored once, and no calls. -/
def stateStored (keys : Keys H) (now ttl : ℕ) (alertID : String) (state : AlertState) : State H :=
  State.setAlertState { now, keys } alertID state ttl

/-- The states stored for an alert keep to its life cycle. -/
structure Lifecycle (stored : List AlertState) : Prop where
  path : stored.IsChain fun current newState => newState ∈ validTransitions current
  terminal : ∀ before after, stored = before ++ .resolved :: after → after = []

/-- The alert and the state that a call has read which is at its SET. -/
def Call.read : Call H → Option (String × AlertState)
  | .transition alertID _ _ (.setState current) => some (alertID, current)
  | _ => none

/-- A SET that takes effect comes when the state stored last is the one that its call has read. -/
def Undisturbed (s : State H) : Step → Prop
  | .command c reply => reply.applied = true → ∀ read ∈ s.calls[c]?.bind Call.read,
      ∀ last ∈ (s.stored read.1).getLast?, last = read.2
  | _ => True

instance (s : State H) : DecidablePred (Undisturbed s)
  | .command _ _ => inferInstanceAs (Decidable (_ → _))
  | .transitionAlert _ _ | .pass _ => .isTrue trivial

/-! ## Paths -/

/-- Nothing may follow `resolved`. -/
lemma lifecycle_iff_path {stored : List AlertState} : Lifecycle stored ↔
    stored.IsChain fun current newState => newState ∈ validTransitions current := by
  refine ⟨Lifecycle.path, fun hpath => ⟨hpath, fun before after hstored => ?_⟩⟩
  cases after with
  | nil => rfl
  | cons newState after =>
    rw [hstored] at hpath
    have hstep := (List.isChain_append_cons_cons.mp hpath).2.1
    exact absurd hstep (by simp [validTransitions])

lemma Lifecycle.concat {stored : List AlertState} {newState : AlertState} (h : Lifecycle stored)
    (hvalid : ∀ last ∈ stored.getLast?, newState ∈ validTransitions last) :
    Lifecycle (stored ++ [newState]) := by
  rw [lifecycle_iff_path, List.isChain_append]
  simpa using ⟨h.path, hvalid⟩

/-! ## One step -/

/-- All calls are transitions of the alert, and one that is at its SET has checked the move from the
state that it has read. -/
def Checked (alertID : String) (s : State H) : Prop :=
  ∀ call ∈ s.calls, ∃ newState reason phase, call = .transition alertID newState reason phase ∧
    ∀ current, phase = .setState current → newState ∈ validTransitions current

variable {fingerprint} {s : State H} {alertID : String}

lemma Checked.next (h : Checked alertID s) (step : Step) :
    Checked alertID (s.next fingerprint (step.event alertID)) := by
  cases step with
  | transitionAlert newState reason =>
    intro call hcall
    rcases List.mem_append.mp hcall with hold | hnew
    · exact h call hold
    · refine ⟨_, _, _, List.mem_singleton.mp hnew, fun current hphase => ?_⟩
      split_ifs at hphase
  | command c reply =>
    show Checked alertID (s.command fingerprint c reply)
    unfold State.command
    cases hcall : s.calls[c]? with
    | none => exact h
    | some call =>
      obtain ⟨newState, reason, phase, rfl, -⟩ := h call (List.mem_of_getElem? hcall)
      intro call hmem
      dsimp only [State.setCall] at hmem
      rw [State.calls_transition.1] at hmem
      rcases List.mem_or_eq_of_mem_set hmem with hold | rfl
      · exact h call hold
      · exact ⟨_, _, _, rfl, fun current hphase => (State.transition_eq_setState hphase).2⟩
  | pass time => exact h

lemma Checked.lifecycle_command (hchecked : Checked alertID s) (h : Lifecycle (s.stored alertID))
    {c : ℕ} {reply : Reply} (hundisturbed : Undisturbed s (.command c reply)) :
    Lifecycle ((s.command fingerprint c reply).stored alertID) := by
  unfold State.command
  cases hcall : s.calls[c]? with
  | none => exact h
  | some call =>
    obtain ⟨newState, reason, phase, rfl, hvalid⟩ := hchecked call (List.mem_of_getElem? hcall)
    dsimp only [State.setCall]
    by_cases hphase : ∃ current, phase = .setState current
    · obtain ⟨current, rfl⟩ := hphase
      rw [State.transition_setState]
      cases happlied : reply.applied with
      | false => exact h
      | true =>
        rw [if_pos rfl]
        simp only [State.setAlertState, Function.update_self]
        refine h.concat fun last hlast => ?_
        -- The state that is overwritten is the one that the call has checked the move from.
        rw [hundisturbed happlied (alertID, current) (by rw [hcall]; rfl) last hlast]
        exact hvalid current rfl
    · have hsame : State.SameAlerts s
          (s.transition fingerprint alertID newState reason reply phase).1 :=
        State.sameAlerts_transition fun current hcurrent => hphase ⟨current, hcurrent⟩
      rwa [hsame.stored]

lemma Checked.lifecycle_next (hchecked : Checked alertID s) (h : Lifecycle (s.stored alertID))
    {step : Step} (hundisturbed : Undisturbed s step) :
    Lifecycle ((s.next fingerprint (step.event alertID)).stored alertID) := by
  cases step with
  | transitionAlert => exact h
  | command c reply => exact hchecked.lifecycle_command h hundisturbed
  | pass => exact h

/-- **An alert keeps to its life cycle** while calls do not disturb each other. For any calls of
`TransitionAlert` on an alert, with their commands in any order and any of them failing: if every
SET that takes effect comes when the state stored last is still the one that its call has read, the
states stored for the alert are a path in `validTransitions` with nothing after `resolved`. -/
theorem lifecycle_of_undisturbed (keys : Keys H) (now ttl : ℕ) (alertID : String)
    (state : AlertState) (steps : List Step)
    (h : Lib.Allowed (fun s step => s.next fingerprint (step.event alertID)) Undisturbed
      (stateStored keys now ttl alertID state) steps) :
    Lib.Always (fun s step => s.next fingerprint (step.event alertID))
      (fun s => Lifecycle (s.stored alertID)) (stateStored keys now ttl alertID state) steps := by
  refine h.always (I := fun s => Checked alertID s ∧ Lifecycle (s.stored alertID))
    (fun s step hs hundisturbed => ⟨hs.1.next step, hs.1.lifecycle_next hs.2 hundisturbed⟩)
    (fun s hs => hs.2) ⟨fun call hcall => absurd hcall List.not_mem_nil, ?_⟩
  have hstored : (stateStored keys now ttl alertID state).stored alertID = [state] := by
    simp [stateStored, State.setAlertState]
  rw [hstored, lifecycle_iff_path]
  exact List.isChain_singleton _

/-- An acknowledgement whose answer is lost, a resolution that reads the state after it, and a call
that finds the alert resolved. -/
def acknowledgeAndResolve : List Step :=
  [.transitionAlert .acknowledged "seen", .transitionAlert .resolved "fixed", .command 0 .answered,
    .command 0 (.failed true), .command 1 .answered, .transitionAlert .silenced "noisy",
    .command 1 .answered, .command 2 .answered, .command 2 .answered]

theorem lifecycle_acknowledgeAndResolve :
    Lib.Always (fun s step => s.next Alert.id (step.event "a"))
      (fun s => Lifecycle (s.stored "a")) (stateStored {} 0 alertActiveTTL "a" .firing)
      acknowledgeAndResolve :=
  lifecycle_of_undisturbed _ _ _ _ _ _ (by decide +kernel)

/-! ### Two calls -/

/-- One call resolves a firing alert while another one acknowledges it: both read the state first. -/
def resolveAndAcknowledge : List Step :=
  [.transitionAlert .resolved "fixed", .transitionAlert .acknowledged "seen",
    .command 0 .answered, .command 1 .answered, .command 0 .answered, .command 1 .answered]

/-- The alert is resolved, then acknowledged. -/
theorem resolved_reopened :
    ¬ Lib.Always (fun s step => s.next Alert.id (step.event "a"))
      (fun s => Lifecycle (s.stored "a")) (stateStored {} 0 alertActiveTTL "a" .firing)
      resolveAndAcknowledge := by
  intro halways
  have hstored : (resolveAndAcknowledge.foldl (fun s step => s.next Alert.id (step.event "a"))
      (stateStored {} 0 alertActiveTTL "a" .firing)).stored "a" =
        [.firing] ++ .resolved :: [.acknowledged] := by decide +kernel
  exact absurd (halways.foldl.terminal _ _ hstored) (by decide)

end Paryty.Storage.Alerts

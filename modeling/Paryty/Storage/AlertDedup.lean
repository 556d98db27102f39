import Paryty.Lib.Run
import Paryty.Storage.AlertOps

/-!
# Deduplication of alerts

`DeduplicateAlert` is to let one alert of a fingerprint be active at a time. It binds the
fingerprint to the alert in a key whose TTL is that of the state, but which is set before it and
not renewed with it.

* `Sound`: a command that reports a duplicate does so while an alert of the fingerprint is active,
  and no command lets two active alerts share one.
* `Intact`: no key goes, and no state changes, while a command relies on it.
* `sound_of_intact`: runs of such steps are sound. A fingerprint is bound to its active alert,
  and what it is bound to is an alert that came in with it (`Consistent`).
* `two_active`: an alert that is acknowledged outlives its fingerprint key.
-/

namespace Paryty.Storage.Alerts

variable {H : Type*}

variable (fingerprint : Alert → H)

/-! ## Soundness -/

/-- The alert is in a state that is not resolved, and its fingerprint is as given. -/
def State.ActiveAs (s : State H) (alertID : String) (hash : H) : Prop :=
  (∃ state, s.getAlertState alertID = some state ∧ isActiveState state = true) ∧
    (s.alertOf alertID).map fingerprint = some hash

/-- No two active alerts share a fingerprint. -/
def Exclusive (s : State H) : Prop :=
  ∀ id id' hash, s.ActiveAs fingerprint id hash → s.ActiveAs fingerprint id' hash → id = id'

/-- With this event a call of `DeduplicateAlert` returns that its alert is a duplicate. -/
def ReportsDuplicate [DecidableEq H] (s : State H) (alert : Alert) : Event → Prop
  | .command c reply => ∃ phase, s.calls[c]? = some (.dedup alert phase) ∧
      (∀ duplicate, phase ≠ .returned duplicate) ∧
        (s.dedup fingerprint alert reply phase).2 = .returned (some true)
  | _ => False

/-- A duplicate is reported only of an active alert, and active alerts differ in their
fingerprints. -/
structure Sound [DecidableEq H] (s : State H) (e : Event) : Prop where
  report : ∀ alert, ReportsDuplicate fingerprint s alert e →
    ∃ alertID, s.ActiveAs fingerprint alertID (fingerprint alert)
  exclusive : Exclusive fingerprint (s.next fingerprint e)

/-- The alert that `DeduplicateAlert` is called with. -/
def Call.alert : Call H → Option Alert
  | .dedup alert _ => some alert
  | .transition .. => none

/-- The alerts that have come in. -/
def State.alerts (s : State H) : List Alert := s.calls.filterMap Call.alert

/-- The alert has an active state. -/
def State.IsActive (s : State H) (alertID : String) : Prop :=
  (s.getAlertState alertID).any isActiveState = true

instance (s : State H) : DecidablePred s.IsActive :=
  fun _ => inferInstanceAs (Decidable (_ = _))

/-- The alert that a fingerprint is bound to. -/
def State.bound (s : State H) (hash : H) : Option String := s.keys.fingerprint.get s.now hash

section Instances

variable [DecidableEq H]

/-- What the next command of a call relies on. -/
def Call.Intact (s : State H) (reply : Reply) : Call H → Prop
  | .dedup alert .setNX =>
    -- Another alert has taken the fingerprint: it is stored by now, and still active.
    reply = .answered → ∀ id ∈ s.bound (fingerprint alert), s.IsActive id
  | .dedup alert .setState =>
    -- The alert still has the fingerprint.
    reply.applied = true → s.bound (fingerprint alert) = some alert.id
  | .transition alertID newState _ (.setState _) =>
    -- An alert that goes on is still active.
    reply.applied = true → isActiveState newState = true → s.IsActive alertID
  | .transition _ _ _ (.delFingerprint _ hash) =>
    -- No active alert has taken the fingerprint in the meantime.
    reply.applied = true → ∀ id ∈ s.bound hash, ¬ s.IsActive id
  | _ => True

instance (s : State H) (reply : Reply) : DecidablePred (Call.Intact fingerprint s reply)
  | .dedup _ .setNX | .dedup _ .setState | .transition _ _ _ (.setState _)
  | .transition _ _ _ (.delFingerprint _ _) => inferInstanceAs (Decidable (_ → _))
  | .dedup _ .getFingerprint | .dedup _ (.getState _) | .dedup _ .storeMeta
  | .dedup _ (.returned _) | .transition _ _ _ .getState | .transition _ _ _ (.getMeta _)
  | .transition _ _ _ (.getFingerprint _ _) | .transition _ _ _ (.storeTransition _)
  | .transition _ _ _ (.returned _) => .isTrue trivial

/-- No fingerprint key goes before the active state of its alert, alerts of one ID have one
fingerprint, and a command finds what it relies on. -/
def Intact (s : State H) : Event → Prop
  | .pass time => ∀ alert ∈ s.alerts, ∀ id ∈ s.bound (fingerprint alert),
      (s.next fingerprint (.pass time)).IsActive id →
        (s.next fingerprint (.pass time)).bound (fingerprint alert) = some id
  | .deduplicateAlert alert =>
    ∀ other ∈ s.alerts, other.id = alert.id → fingerprint other = fingerprint alert
  | .transitionAlert .. => True
  | .command c reply => ∀ call ∈ s.calls[c]?, call.Intact fingerprint s reply

instance (s : State H) : DecidablePred (Intact fingerprint s)
  | .pass _ | .deduplicateAlert _ | .command _ _ => inferInstanceAs (Decidable (∀ _ ∈ _, _))
  | .transitionAlert .. => .isTrue trivial

end Instances

/-! ## What holds throughout -/

/-- An alert of the ID has come in with the fingerprint. -/
def Owns (s : State H) (id : String) (hash : H) : Prop :=
  ∃ alert ∈ s.alerts, alert.id = id ∧ fingerprint alert = hash

/-- What a call has read is true of the alerts. -/
structure Grounded (s : State H) (call : Call H) : Prop where
  getState : ∀ alert existing, call = .dedup alert (.getState existing) →
    Owns fingerprint s existing (fingerprint alert)
  setState : ∀ alertID newState reason current,
    call = .transition alertID newState reason (.setState current) → s.alertOf alertID ≠ none

/-- An active alert has its fingerprint, and a fingerprint is bound to an alert that came in with
it. -/
structure Consistent (s : State H) : Prop where
  active : ∀ id hash, s.ActiveAs fingerprint id hash → s.bound hash = some id
  bound : ∀ hash id, s.bound hash = some id → Owns fingerprint s id hash
  alertOf : ∀ id alert, s.alertOf id = some alert → alert ∈ s.alerts ∧ alert.id = id
  known : ∀ id state, s.getAlertState id = some state → s.alertOf id ≠ none
  same : ∀ alert ∈ s.alerts, ∀ other ∈ s.alerts, other.id = alert.id →
    fingerprint other = fingerprint alert
  calls : ∀ call ∈ s.calls, Grounded fingerprint s call

variable {fingerprint} {s s' : State H} {id : String} {hash : H}

lemma State.isActive_iff : s.IsActive id ↔
    ∃ state, s.getAlertState id = some state ∧ isActiveState state = true := by
  simp [State.IsActive, Option.any_eq_true]

lemma Consistent.exclusive (h : Consistent fingerprint s) : Exclusive fingerprint s :=
  fun id id' hash hid hid' =>
    Option.some_inj.mp ((h.active id hash hid).symm.trans (h.active id' hash hid'))

lemma Consistent.activeAs (h : Consistent fingerprint s) (howns : Owns fingerprint s id hash)
    (hactive : s.IsActive id) : s.ActiveAs fingerprint id hash := by
  obtain ⟨state, hstate, hisActive⟩ := State.isActive_iff.mp hactive
  obtain ⟨alert, halert, rfl, rfl⟩ := howns
  obtain ⟨other, hother⟩ := Option.ne_none_iff_exists'.mp (h.known _ _ hstate)
  obtain ⟨hmem, hid⟩ := h.alertOf _ _ hother
  refine ⟨⟨state, hstate, hisActive⟩, ?_⟩
  rw [hother, Option.map_some, h.same alert halert other hmem hid]

lemma alerts_set {c : ℕ} {call call' : Call H} (hcall : s.calls[c]? = some call)
    (halert : call'.alert = call.alert) :
    (s.calls.set c call').filterMap Call.alert = s.alerts := by
  obtain ⟨hlt, rfl⟩ := List.getElem?_eq_some_iff.mp hcall
  have hsplit : s.calls = s.calls.take c ++ s.calls[c] :: s.calls.drop (c + 1) := by
    rw [List.getElem_cons_drop, List.take_append_drop]
  rw [State.alerts, List.set_eq_take_append_cons_drop, if_pos hlt]
  conv_rhs => rw [hsplit]
  simp only [List.filterMap_append, List.filterMap_cons, halert]

lemma Consistent.setCall (h : Consistent fingerprint s) {c : ℕ} {call call' : Call H}
    (hcall : s.calls[c]? = some call) (halert : call'.alert = call.alert)
    (hgrounded : Grounded fingerprint s call') : Consistent fingerprint (s.setCall c call') := by
  have halerts : (s.setCall c call').alerts = s.alerts := alerts_set hcall halert
  have howns (id : String) (hash : H) :
      Owns fingerprint (s.setCall c call') id hash ↔ Owns fingerprint s id hash := by
    simp only [Owns, halerts]
  refine ⟨h.active, fun hash id hbound => (howns id hash).mpr (h.bound hash id hbound), ?_,
    h.known, ?_, fun other hother => ?_⟩
  · rw [halerts]
    exact h.alertOf
  · rw [halerts]
    exact h.same
  · have hother : Grounded fingerprint s other := by
      rcases List.mem_or_eq_of_mem_set hother with hold | rfl
      · exact h.calls other hold
      · exact hgrounded
    exact ⟨fun alert existing heq => (howns _ _).mpr (hother.getState alert existing heq),
      hother.setState⟩

/-! ## Writes -/

lemma activeAs_congr (hnow : s'.now = s.now) (hstate : s'.keys.state = s.keys.state)
    (halertOf : s'.alertOf = s.alertOf) :
    s'.ActiveAs fingerprint id hash ↔ s.ActiveAs fingerprint id hash := by
  simp only [State.ActiveAs, State.getAlertState, hnow, hstate, halertOf]

lemma State.ActiveAs.isActive (h : s.ActiveAs fingerprint id hash) : s.IsActive id :=
  State.isActive_iff.mpr h.1

lemma Consistent.of_sameAlerts (h : Consistent fingerprint s) (hsame : State.SameAlerts s s')
    (hactive : ∀ id hash, s.ActiveAs fingerprint id hash → s'.bound hash = some id)
    (hbound : ∀ hash id, s'.bound hash = some id → Owns fingerprint s id hash) :
    Consistent fingerprint s' := by
  have halerts : s'.alerts = s.alerts := congrArg (List.filterMap Call.alert) hsame.calls
  have howns (id : String) (hash : H) :
      Owns fingerprint s' id hash ↔ Owns fingerprint s id hash := by
    simp only [Owns, halerts]
  refine ⟨fun id hash hid => ?_, fun hash id hid => (howns id hash).mpr (hbound hash id hid),
    fun id alert => ?_, fun id state => ?_, ?_, fun call hcall => ?_⟩
  · exact hactive id hash ((activeAs_congr hsame.now hsame.state hsame.alertOf).mp hid)
  · rw [hsame.alertOf, halerts]
    exact h.alertOf id alert
  · rw [hsame.alertOf, State.getAlertState, hsame.state, hsame.now]
    exact h.known id state
  · rw [halerts]
    exact h.same
  · have hgrounded := h.calls call (hsame.calls ▸ hcall)
    refine ⟨fun alert existing heq => (howns _ _).mpr (hgrounded.getState alert existing heq), ?_⟩
    rw [hsame.alertOf]
    exact hgrounded.setState

lemma Consistent.store (h : Consistent fingerprint s) {alert : Alert} (halert : alert ∈ s.alerts)
    (hbound : s.bound (fingerprint alert) = some alert.id) :
    Consistent fingerprint { s.setAlertState alert.id .firing alertActiveTTL with
      alertOf := Function.update s.alertOf alert.id (some alert) } where
  active id hash hid := by
    obtain ⟨hstate, hhash⟩ := hid
    dsimp only at hhash
    by_cases heq : id = alert.id
    · subst heq
      rw [Function.update_self] at hhash
      cases hhash
      exact hbound
    · rw [Function.update_of_ne heq] at hhash
      simp only [State.getAlertState, State.setAlertState, Lib.Expiring.get_set_of_ne heq] at hstate
      exact h.active id hash ⟨hstate, hhash⟩
  bound := h.bound
  alertOf id other hother := by
    dsimp only at hother
    by_cases heq : id = alert.id
    · subst heq
      rw [Function.update_self] at hother
      cases hother
      exact ⟨halert, rfl⟩
    · rw [Function.update_of_ne heq] at hother
      exact h.alertOf id other hother
  known id state hstate := by
    dsimp only
    by_cases heq : id = alert.id
    · simp [heq]
    · simp only [State.getAlertState, State.setAlertState, Lib.Expiring.get_set_of_ne heq] at hstate
      rw [Function.update_of_ne heq]
      exact h.known id state hstate
  same := h.same
  calls call hcall := by
    refine ⟨(h.calls call hcall).getState, fun id newState reason current hset => ?_⟩
    dsimp only
    by_cases heq : id = alert.id
    · simp [heq]
    · rw [Function.update_of_ne heq]
      exact (h.calls call hcall).setState id newState reason current hset

lemma Consistent.setAlertState (h : Consistent fingerprint s) {newState : AlertState} {ttl : ℕ}
    (hknown : s.alertOf id ≠ none) (hactive : isActiveState newState = true → s.IsActive id) :
    Consistent fingerprint (s.setAlertState id newState ttl) := by
  refine ⟨fun id' hash hid => ?_, h.bound, h.alertOf, fun id' state hstate => ?_, h.same,
    fun call hcall => ⟨(h.calls call hcall).getState, (h.calls call hcall).setState⟩⟩
  · obtain ⟨⟨state, hstate, hisActive⟩, hhash⟩ := hid
    by_cases heq : id' = id
    · subst heq
      simp only [State.getAlertState, State.setAlertState, Lib.Expiring.get_set_self] at hstate
      split_ifs at hstate
      cases hstate
      exact h.active id' hash ⟨State.isActive_iff.mp (hactive hisActive), hhash⟩
    · simp only [State.getAlertState, State.setAlertState, Lib.Expiring.get_set_of_ne heq] at hstate
      exact h.active id' hash ⟨⟨state, hstate, hisActive⟩, hhash⟩
  · by_cases heq : id' = id
    · subst heq
      exact hknown
    · simp only [State.getAlertState, State.setAlertState, Lib.Expiring.get_set_of_ne heq] at hstate
      exact h.known id' state hstate

lemma Consistent.begin (h : Consistent fingerprint s) {call : Call H}
    (hgrounded : Grounded fingerprint s call)
    (hsame : ∀ alert ∈ call.alert, ∀ other ∈ s.alerts, other.id = alert.id →
      fingerprint other = fingerprint alert) :
    Consistent fingerprint { s with calls := s.calls ++ [call] } := by
  have halerts : State.alerts { s with calls := s.calls ++ [call] } =
      s.alerts ++ call.alert.toList := by
    simp only [State.alerts, List.filterMap_append]
    cases hcall : call.alert <;> simp [hcall]
  have howns {id : String} {hash : H} (hown : Owns fingerprint s id hash) :
      Owns fingerprint { s with calls := s.calls ++ [call] } id hash := by
    obtain ⟨alert, halert, hid⟩ := hown
    exact ⟨alert, halerts ▸ List.mem_append_left _ halert, hid⟩
  have hgrows {call' : Call H} (hcall : Grounded fingerprint s call') :
      Grounded fingerprint { s with calls := s.calls ++ [call] } call' :=
    ⟨fun alert existing heq => howns (hcall.getState alert existing heq), hcall.setState⟩
  refine ⟨h.active, fun hash id hid => howns (h.bound hash id hid), fun id alert hid => ?_, h.known,
    ?_, fun call' hcall' => ?_⟩
  · obtain ⟨hmem, hid⟩ := h.alertOf id alert hid
    exact ⟨halerts ▸ List.mem_append_left _ hmem, hid⟩
  · simp only [halerts, List.mem_append, Option.mem_toList]
    rintro alert (halert | halert) other (hother | hother) hid
    · exact h.same alert halert other hother hid
    · exact (hsame other hother alert halert hid.symm).symm
    · exact hsame alert halert other hother hid
    · rw [Option.mem_unique halert hother]
  · rcases List.mem_append.mp hcall' with hold | hnew
    · exact hgrows (h.calls call' hold)
    · exact List.mem_singleton.mp hnew ▸ hgrows hgrounded

variable [DecidableEq H]

lemma Consistent.bind (h : Consistent fingerprint s) {alert : Alert} (halert : alert ∈ s.alerts)
    (hfree : s.bound (fingerprint alert) = none) :
    Consistent fingerprint { s with
      keys.fingerprint :=
        s.keys.fingerprint.set s.now alertActiveTTL (fingerprint alert) alert.id } := by
  refine h.of_sameAlerts ⟨rfl, rfl, rfl, rfl, rfl⟩ (fun id hash hid => ?_) fun hash id hid => ?_
  · have hbound := h.active id hash hid
    have hne : hash ≠ fingerprint alert := by
      rintro rfl
      exact absurd (hfree.symm.trans hbound) (by simp)
    exact (Lib.Expiring.get_set_of_ne hne).trans hbound
  · by_cases heq : hash = fingerprint alert
    · subst heq
      simp only [State.bound, Lib.Expiring.get_set_self] at hid
      split_ifs at hid
      cases hid
      exact ⟨alert, halert, rfl, rfl⟩
    · exact h.bound hash id ((Lib.Expiring.get_set_of_ne heq).symm.trans hid)

lemma Consistent.unbind (h : Consistent fingerprint s)
    (hfree : ∀ id ∈ s.bound hash, ¬ s.IsActive id) :
    Consistent fingerprint { s with keys.fingerprint := s.keys.fingerprint.del hash } := by
  refine h.of_sameAlerts ⟨rfl, rfl, rfl, rfl, rfl⟩ (fun id hash' hid => ?_) fun hash' id hid => ?_
  · have hbound := h.active id hash' hid
    have hne : hash' ≠ hash := by
      rintro rfl
      exact hfree id hbound hid.isActive
    exact (Lib.Expiring.get_del_of_ne hne).trans hbound
  · by_cases heq : hash' = hash
    · subst heq
      simp [State.bound] at hid
    · exact h.bound hash' id ((Lib.Expiring.get_del_of_ne heq).symm.trans hid)

/-! ## One event -/

lemma Consistent.dedup (h : Consistent fingerprint s) {alert : Alert} (halert : alert ∈ s.alerts)
    {reply : Reply} {phase : DedupPhase}
    (hintact : Call.Intact fingerprint s reply (.dedup alert phase)) :
    Consistent fingerprint (s.dedup fingerprint alert reply phase).1 := by
  cases phase with
  | getFingerprint | getState =>
    unfold State.dedup
    dsimp only
    split <;> exact h
  | setNX =>
    unfold State.dedup
    dsimp only
    split
    · split <;> exact h
    · next hfree =>
      have hbind := h.bind halert hfree
      cases reply with
      | answered => exact hbind
      | failed applied =>
        cases applied with
        | true => exact hbind
        | false => exact h
  | storeMeta =>
    have hmeta : Consistent fingerprint { s with
        keys.metadata := s.keys.metadata.set s.now alertActiveTTL alert.id alert } :=
      h.of_sameAlerts ⟨rfl, rfl, rfl, rfl, rfl⟩ h.active h.bound
    cases reply with
    | answered => exact hmeta
    | failed applied =>
      cases applied with
      | true => exact hmeta
      | false => exact h
  | setState =>
    rw [State.dedup_setState]
    split
    case isTrue happlied => exact h.store halert (hintact happlied)
    case isFalse => exact h
  | returned => exact h

lemma Consistent.transition (h : Consistent fingerprint s) {alertID reason : String}
    {newState : AlertState} {reply : Reply} {phase : TransitionPhase H}
    (hgrounded : Grounded fingerprint s (.transition alertID newState reason phase))
    (hintact : Call.Intact fingerprint s reply
      (.transition alertID newState reason phase)) :
    Consistent fingerprint (s.transition fingerprint alertID newState reason reply phase).1 := by
  cases phase with
  | setState current =>
    rw [State.transition_setState]
    split
    case isTrue happlied =>
      exact h.setAlertState (hgrounded.setState _ _ _ current rfl) (hintact happlied)
    case isFalse => exact h
  | delFingerprint current hash =>
    unfold State.transition
    dsimp only
    split
    case isTrue happlied => exact h.unbind (hintact happlied)
    case isFalse => exact h
  | storeTransition current =>
    unfold State.transition
    dsimp only
    split
    case isTrue => exact h.of_sameAlerts ⟨rfl, rfl, rfl, rfl, rfl⟩ h.active h.bound
    case isFalse => exact h
  | getState =>
    unfold State.transition
    dsimp only
    split
    · exact h
    · exact h
    · split_ifs <;> exact h
  | getMeta | getFingerprint =>
    unfold State.transition
    dsimp only
    split <;> exact h
  | returned => exact h

lemma Consistent.grounded_transition (h : Consistent fingerprint s) {alertID reason : String}
    {newState : AlertState} {reply : Reply} {phase : TransitionPhase H} :
    Grounded fingerprint (s.transition fingerprint alertID newState reason reply phase).1
      (.transition alertID newState reason
        (s.transition fingerprint alertID newState reason reply phase).2) := by
  refine ⟨nofun, fun _ _ _ current heq => ?_⟩
  simp only [Call.transition.injEq] at heq
  obtain ⟨rfl, -, -, hphase⟩ := heq
  rw [State.calls_transition.2]
  exact h.known _ current (State.transition_eq_setState hphase).1

lemma Consistent.grounded_dedup (h : Consistent fingerprint s) {alert : Alert} {reply : Reply}
    {phase : DedupPhase} : Grounded fingerprint (s.dedup fingerprint alert reply phase).1
      (.dedup alert (s.dedup fingerprint alert reply phase).2) := by
  refine ⟨fun _ existing heq => ?_, nofun⟩
  simp only [Call.dedup.injEq] at heq
  obtain ⟨rfl, hphase⟩ := heq
  have howns := h.bound _ existing (State.dedup_eq_getState hphase)
  rwa [Owns, State.alerts, State.calls_dedup]

lemma Consistent.command (h : Consistent fingerprint s) {c : ℕ} {reply : Reply}
    (hintact : Intact fingerprint s (.command c reply)) :
    Consistent fingerprint (s.command fingerprint c reply) := by
  unfold State.command
  cases hcall : s.calls[c]? with
  | none => exact h
  | some call =>
    have hmem : call ∈ s.calls := List.mem_of_getElem? hcall
    have hintact := hintact call hcall
    cases call with
    | transition alertID newState reason phase =>
      have hnext := h.transition (h.calls _ hmem) hintact
      rw [← State.calls_transition.1] at hcall
      exact hnext.setCall hcall rfl h.grounded_transition
    | dedup alert phase =>
      have hnext := h.dedup (List.mem_filterMap.mpr ⟨_, hmem, rfl⟩) hintact
      rw [← State.calls_dedup] at hcall
      exact hnext.setCall hcall rfl h.grounded_dedup

lemma Consistent.pass (h : Consistent fingerprint s) {time : ℕ}
    (hintact : Intact fingerprint s (.pass time)) :
    Consistent fingerprint { s with now := s.now + time } := by
  have hearlier {id : String} {state : AlertState}
      (hstate : State.getAlertState { s with now := s.now + time } id = some state) :
      s.getAlertState id = some state := Lib.Expiring.get_of_le (Nat.le_add_right _ _) hstate
  refine ⟨fun id hash hid => ?_, fun hash id hid => ?_, h.alertOf,
    fun id state hstate => h.known id state (hearlier hstate), h.same,
    fun call hcall => ⟨(h.calls call hcall).getState, (h.calls call hcall).setState⟩⟩
  · have hactive := hid.isActive
    obtain ⟨⟨state, hstate, hisActive⟩, hhash⟩ := hid
    obtain ⟨alert, halert, rfl⟩ := Option.map_eq_some_iff.mp hhash
    have hbound := h.active id _ ⟨⟨state, hearlier hstate, hisActive⟩, hhash⟩
    exact hintact alert (h.alertOf id alert halert).1 id hbound hactive
  · exact h.bound hash id (Lib.Expiring.get_of_le (Nat.le_add_right _ _) hid)

lemma Consistent.next (h : Consistent fingerprint s) {e : Event}
    (hintact : Intact fingerprint s e) : Consistent fingerprint (s.next fingerprint e) := by
  cases e with
  | transitionAlert alertID newState reason =>
    refine h.begin ⟨nofun, fun _ _ _ current heq => ?_⟩ nofun
    split_ifs at heq <;> cases heq
  | deduplicateAlert alert =>
    refine h.begin ⟨nofun, nofun⟩ fun other hother => ?_
    cases hother
    exact hintact
  | command c reply => exact h.command hintact
  | pass time => exact h.pass hintact

lemma Consistent.report (h : Consistent fingerprint s) {e : Event} {alert : Alert}
    (hintact : Intact fingerprint s e) (hreport : ReportsDuplicate fingerprint s alert e) :
    ∃ alertID, s.ActiveAs fingerprint alertID (fingerprint alert) := by
  cases e with
  | command c reply =>
    obtain ⟨phase, hcall, hphase, hreturned⟩ := hreport
    have hintact := hintact _ hcall
    rcases State.dedup_eq_returned hphase hreturned with
      ⟨rfl, ⟨existing, rfl, hactive⟩ | ⟨rfl, hbound⟩⟩
    · have hgrounded := h.calls _ (List.mem_of_getElem? hcall)
      exact ⟨existing, h.activeAs (hgrounded.getState alert existing rfl) hactive⟩
    · obtain ⟨id, hid⟩ := Option.ne_none_iff_exists'.mp hbound
      exact ⟨id, h.activeAs (h.bound _ id hid) (hintact rfl id hid)⟩
  | _ => exact absurd hreport id

/-- **Deduplication is sound** while nothing that a command relies on goes. For any calls of
`DeduplicateAlert` and `TransitionAlert`, with their commands in any order and any of them failing:
duplicates are reported only of active alerts, and active alerts never share a fingerprint. -/
theorem sound_of_intact (events : List Event)
    (h : Lib.Allowed (State.next fingerprint) (Intact fingerprint) ({} : State H) events) :
    Lib.Allowed (State.next fingerprint) (Sound fingerprint) ({} : State H) events := by
  refine h.mono (I := Consistent fingerprint) (fun s e hs => hs.next) (fun s e hs hintact =>
    ⟨fun alert => hs.report hintact, (hs.next hintact).exclusive⟩) ?_
  exact ⟨nofun, nofun, nofun, nofun, nofun, nofun⟩

/-- The same alert under two IDs. -/
def cpuAlert (id : String) : Alert := ⟨id, "HighCPU", [("host", "a")], "warning"⟩

/-- The fingerprint before it is hashed, of an alert with one label. -/
def unhashed (alert : Alert) : String × List (String × String) × String :=
  (alert.name, alert.labels, alert.severity)

/-- Two calls of which one stores its alert, an acknowledgement whose answer is lost, a third call,
the resolution, and the third alert again. -/
def resolvedAndAgain : List Event :=
  [.deduplicateAlert (cpuAlert "1"), .deduplicateAlert (cpuAlert "2"), .command 0 .answered,
    .command 1 .answered, .command 0 .answered, .command 0 .answered, .command 0 .answered,
    .command 1 .answered, .pass (2 * 60 * 10 ^ 9), .transitionAlert "1" .acknowledged "seen",
    .command 2 .answered, .command 2 (.failed true), .pass (60 * 10 ^ 9),
    .deduplicateAlert (cpuAlert "3"), .command 3 .answered, .command 3 .answered,
    .transitionAlert "1" .resolved "fixed", .command 4 .answered, .command 4 .answered,
    .command 4 .answered, .command 4 .answered, .command 4 .answered, .command 4 .answered,
    .deduplicateAlert (cpuAlert "3"), .command 5 .answered, .command 5 .answered,
    .command 5 .answered, .command 5 .answered]

theorem sound_resolvedAndAgain :
    Lib.Allowed (State.next unhashed) (Sound unhashed) {} resolvedAndAgain :=
  sound_of_intact _ (by decide +kernel)

/-! ### An alert outlives its fingerprint key -/

/-- An alert is stored and acknowledged after four minutes. Two minutes later, when its fingerprint
key has expired and its state has not, it comes in again. -/
def acknowledgedAndAgain : List Event :=
  [.deduplicateAlert (cpuAlert "1"), .command 0 .answered, .command 0 .answered,
    .command 0 .answered, .command 0 .answered, .pass (4 * 60 * 10 ^ 9),
    .transitionAlert "1" .acknowledged "seen", .command 1 .answered, .command 1 .answered,
    .command 1 .answered, .pass (2 * 60 * 10 ^ 9), .deduplicateAlert (cpuAlert "2"),
    .command 2 .answered, .command 2 .answered, .command 2 .answered]

/-- The second one is stored beside the first one. -/
theorem two_active : ¬ Lib.Allowed (State.next unhashed) (Sound unhashed) {}
    (acknowledgedAndAgain ++ [.command 2 .answered]) := by
  intro h
  have hexclusive := h.of_append.exclusive
  have hfirst : State.ActiveAs unhashed
      ((acknowledgedAndAgain.foldl (State.next unhashed) {}).next unhashed (.command 2 .answered))
      "1" (unhashed (cpuAlert "1")) :=
    ⟨⟨.acknowledged, by decide +kernel, rfl⟩, by decide +kernel⟩
  have hsecond : State.ActiveAs unhashed
      ((acknowledgedAndAgain.foldl (State.next unhashed) {}).next unhashed (.command 2 .answered))
      "2" (unhashed (cpuAlert "1")) :=
    ⟨⟨.firing, by decide +kernel, rfl⟩, by decide +kernel⟩
  exact absurd (hexclusive _ _ _ hfirst hsecond) (by decide)

end Paryty.Storage.Alerts

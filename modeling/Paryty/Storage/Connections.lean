import Mathlib.Data.Int.Notation
import Paryty.Lib.Expiring
import Paryty.Lib.Glob
import Paryty.Lib.Run

/-!
# Agent connections

`ConnectionOps` of `cluster/internal/storage/hot/connection_ops.go`: a record for each agent, under
a key that expires after `connectionTTL`. Any number of calls are interleaved command by command;
a detection runs alone, but time passes while it does.

* `State.next` is one command. `registry`, `removals` and `tracks` keep what happened, for the
  statements only: a record remembers which `TrackConnection` it is from.
* `Complete`: a detection returns every tracked agent whose last heartbeat is older than the
  threshold. `NotResurrected`: what is stored is from a connection that was not removed.
* `correct_iff`: when these hold throughout a run.

Times are in nanoseconds, on one clock. Every command is answered, and a record is read as it was
written.
-/

namespace Paryty.Storage.Connections

open Lib Lib.Glob

variable {ρ : Type*}

/-- A second. -/
def second : ℕ := 1000000000

/-- `connectionTTL`. -/
def connectionTTL : ℕ := 30 * second

/-- `defaultDisconnectThreshold`. -/
def defaultDisconnectThreshold : ℤ := 60 * second

/-! ## Data -/

/-- `ConnectionInfo`. -/
structure ConnectionInfo (ρ : Type*) where
  agentID : String
  tenantID : String
  lastHeartbeat : ℤ
  rest : ρ
deriving DecidableEq

/-- `connectionKey`. -/
def connectionKey (tenant agentID : String) : Bytes :=
  utf8 ("paryty:" ++ tenant ++ ":connections:" ++ agentID)

/-- `connectionPattern`. -/
def connectionPattern (tenant : String) : Bytes := utf8 ("paryty:" ++ tenant ++ ":connections:*")

/-- A stored record, and the number of the `TrackConnection` that it is from. -/
structure Entry (ρ : Type*) where
  info : ConnectionInfo ρ
  connection : ℕ
deriving DecidableEq

/-- Where a `RefreshHeartbeat` stands. -/
inductive Phase (ρ : Type*)
  /-- GET. -/
  | get
  /-- The reading of the clock. -/
  | now (entry : Entry ρ)
  /-- SET. -/
  | set (entry : Entry ρ)
  /-- It has returned: whether without an error. -/
  | returned (ok : Bool)
deriving DecidableEq

/-- A call of `RefreshHeartbeat`. -/
structure Call (ρ : Type*) where
  tenant : String
  agentID : String
  phase : Phase ρ
deriving DecidableEq

/-- A tracked agent: its last heartbeat, and when its record was stored. -/
structure Tracked where
  heartbeat : ℤ
  storedAt : ℕ
deriving DecidableEq

structure State (ρ : Type*) where
  clock : ℕ := 0
  store : Expiring Bytes (Entry ρ) := Expiring.empty
  calls : List (Call ρ) := []
  /-- The keys that were ever set. -/
  written : List Bytes := []
  /-- How many connections were tracked. -/
  tracks : ℕ := 0
  /-- The agents that are tracked, by tenant and agent ID. -/
  registry : String × String → Option Tracked := fun _ => none
  /-- How many connections there were at the last removal of an agent. -/
  removals : String × String → ℕ := fun _ => 0

/-- What happens. -/
inductive Event (ρ : Type*)
  | elapse (time : ℕ)
  | trackConnection (tenant : String) (info : Option (ConnectionInfo ρ))
  | removeConnection (tenant agentID : String)
  /-- `RefreshHeartbeat` is called. -/
  | refreshHeartbeat (tenant agentID : String)
  | get (call : ℕ)
  | now (call : ℕ)
  | set (call : ℕ)
  /-- `DetectDisconnectedAgents`, which takes some time. -/
  | detect (tenant : String) (threshold : ℤ) (duration : ℕ)

namespace State

/-- SET of a record. -/
def setEntry (s : State ρ) (tenant agentID : String) (entry : Entry ρ) : State ρ :=
  { s with
    store := s.store.set s.clock connectionTTL (connectionKey tenant agentID) entry
    written := connectionKey tenant agentID :: s.written }

/-- `TrackConnection`. -/
def trackConnection (s : State ρ) (tenant : String) : Option (ConnectionInfo ρ) → State ρ
  | none => s
  | some info =>
    if tenant = "" ∨ info.agentID = "" then s
    else
      { s.setEntry tenant info.agentID ⟨{ info with tenantID := tenant }, s.tracks⟩ with
        tracks := s.tracks + 1
        registry := Function.update s.registry (tenant, info.agentID)
          (some ⟨info.lastHeartbeat, s.clock⟩) }

/-- `RemoveConnection`. -/
def removeConnection (s : State ρ) (tenant agentID : String) : State ρ :=
  if tenant = "" ∨ agentID = "" then s
  else
    { s with
      store := s.store.del (connectionKey tenant agentID)
      registry := Function.update s.registry (tenant, agentID) none
      removals := Function.update s.removals (tenant, agentID) s.tracks }

/-- The call is at its next command. -/
def setCall (s : State ρ) (c : ℕ) (call : Call ρ) : State ρ :=
  { s with calls := s.calls.set c call }

/-- The SET of a `RefreshHeartbeat`. It counts as a heartbeat of an agent that is tracked. -/
def refresh (s : State ρ) (tenant agentID : String) (entry : Entry ρ) : State ρ :=
  { s.setEntry tenant agentID entry with
    registry := Function.update s.registry (tenant, agentID)
      ((s.registry (tenant, agentID)).map fun tracked =>
        ⟨max tracked.heartbeat entry.info.lastHeartbeat, s.clock⟩) }

/-- One event. -/
def next (s : State ρ) : Event ρ → State ρ
  | .elapse time => { s with clock := s.clock + time }
  | .trackConnection tenant info => s.trackConnection tenant info
  | .removeConnection tenant agentID => s.removeConnection tenant agentID
  | .refreshHeartbeat tenant agentID =>
    let phase := if tenant = "" ∨ agentID = "" then .returned false else .get
    { s with calls := s.calls ++ [⟨tenant, agentID, phase⟩] }
  | .get c =>
    match s.calls[c]? with
    | some ⟨tenant, agentID, .get⟩ =>
      match s.store.get s.clock (connectionKey tenant agentID) with
      | none => s.setCall c ⟨tenant, agentID, .returned false⟩
      | some entry => s.setCall c ⟨tenant, agentID, .now entry⟩
    | _ => s
  | .now c =>
    match s.calls[c]? with
    | some ⟨tenant, agentID, .now entry⟩ =>
      let info := { entry.info with lastHeartbeat := s.clock }
      s.setCall c ⟨tenant, agentID, .set { entry with info }⟩
    | _ => s
  | .set c =>
    match s.calls[c]? with
    | some ⟨tenant, agentID, .set entry⟩ =>
      (s.refresh tenant agentID entry).setCall c ⟨tenant, agentID, .returned true⟩
    | _ => s
  | .detect _ _ duration => { s with clock := s.clock + duration }

/-! ## Detection -/

/-- The threshold that counts. -/
def effective (threshold : ℤ) : ℤ :=
  if threshold ≤ 0 then defaultDisconnectThreshold else threshold

/-- `DetectDisconnectedAgents`: the keys that SCAN returned, and how long after the start each was
read. -/
def detectDisconnectedAgents (s : State ρ) (tenant : String) (threshold : ℤ)
    (reads : List (Bytes × ℕ)) : Option (List (ConnectionInfo ρ)) :=
  if tenant = "" then none
  else
    let cutoff := s.clock - effective threshold
    some (reads.filterMap fun (key, delay) =>
      match s.store.get (s.clock + delay) key with
      | none => none
      | some entry => if entry.info.lastHeartbeat < cutoff then some entry.info else none)

/-- What SCAN promises: its keys match, and what matches and is there all the time is among them. -/
structure ScanOf (s : State ρ) (pattern : Bytes) (duration : ℕ) (reads : List (Bytes × ℕ)) :
    Prop where
  within : ∀ read ∈ reads, read.2 ≤ duration
  matching : ∀ read ∈ reads, globMatch pattern read.1 = true
  complete : ∀ key entry, s.store.get (s.clock + duration) key = some entry →
    globMatch pattern key = true → ∃ delay, (key, delay) ∈ reads

/-- The agent is tracked, was not removed, and its last heartbeat is older than the threshold. -/
def Stale (s : State ρ) (tenant : String) (threshold : ℤ) (agentID : String)
    (tracked : Tracked) : Prop :=
  s.registry (tenant, agentID) = some tracked ∧
    tracked.heartbeat < s.clock - effective threshold

/-- A detection returns all agents that it should. -/
def Complete (s : State ρ) (tenant : String) (threshold : ℤ) (duration : ℕ) : Prop :=
  ∀ reads, s.ScanOf (connectionPattern tenant) duration reads →
    ∀ agentID tracked, s.Stale tenant threshold agentID tracked →
      ∃ found, s.detectDisconnectedAgents tenant threshold reads = some found ∧
        ∃ info ∈ found, info.tenantID = tenant ∧ info.agentID = agentID

/-- No record is from a connection that was removed. -/
def NotResurrected (s : State ρ) : Prop :=
  ∀ key entry, s.store.get s.clock key = some entry →
    s.removals (entry.info.tenantID, entry.info.agentID) ≤ entry.connection

/-- What is claimed of an event. -/
def Correct (s : State ρ) (e : Event ρ) : Prop :=
  NotResurrected (s.next e) ∧
    match e with
    | .detect tenant threshold duration => s.Complete tenant threshold duration
    | _ => True

/-- A SET writes a connection that was not removed since it was read. When a detection ends, it is
not yet `connectionTTL` since the record of an agent that it should return was stored, and the
pattern of the tenant matches the key. -/
def Condition (s : State ρ) : Event ρ → Prop
  | .set c =>
    match s.calls[c]? with
    | some ⟨tenant, agentID, .set entry⟩ => s.removals (tenant, agentID) ≤ entry.connection
    | _ => True
  | .detect tenant threshold duration =>
    ∀ agentID tracked, s.Stale tenant threshold agentID tracked →
      s.clock + duration < tracked.storedAt + connectionTTL ∧
        globMatch (connectionPattern tenant) (connectionKey tenant agentID) = true
  | _ => True

end State

/-- The agent that an event names. -/
def Event.agent : Event ρ → Option (String × String)
  | .trackConnection tenant info => info.map fun info => (tenant, info.agentID)
  | .removeConnection tenant agentID | .refreshHeartbeat tenant agentID => some (tenant, agentID)
  | .elapse _ | .get _ | .now _ | .set _ | .detect _ _ _ => none

/-- Different agents have different keys. -/
def DistinctKeys (events : List (Event ρ)) : Prop :=
  ∀ p ∈ events.filterMap Event.agent, ∀ q ∈ events.filterMap Event.agent,
    connectionKey p.1 p.2 = connectionKey q.1 q.2 → p = q

/-! ## What the commands keep -/

/-- What the store has to do with the registry, when only some agents are named. -/
structure Consistent (agents : Set (String × String)) (s : State ρ) : Prop where
  /-- The record of a tracked agent is its own, and no newer than its last heartbeat. -/
  registered : ∀ p tracked, s.registry p = some tracked → p ∈ agents ∧ p.1 ≠ "" ∧
    ∃ entry, s.store (connectionKey p.1 p.2) = some (entry, tracked.storedAt + connectionTTL) ∧
      (entry.info.tenantID, entry.info.agentID) = p ∧
        entry.info.lastHeartbeat ≤ tracked.heartbeat
  /-- A record is under the key of its agent. -/
  stored : ∀ key entry deadline, s.store key = some (entry, deadline) →
    (entry.info.tenantID, entry.info.agentID) ∈ agents ∧
      key = connectionKey entry.info.tenantID entry.info.agentID
  /-- What a call has read is the record of its agent. -/
  calls : ∀ call ∈ s.calls, (call.tenant, call.agentID) ∈ agents ∧
    ∀ entry, call.phase = .now entry ∨ call.phase = .set entry →
      (entry.info.tenantID, entry.info.agentID) = (call.tenant, call.agentID)
  written : ∀ key e, s.store key = some e → key ∈ s.written
  removals_le : ∀ p, s.removals p ≤ s.tracks

section

variable {agents : Set (String × String)} {s : State ρ} {tenant agentID : String}
  {entry : Entry ρ} {e : Event ρ}

lemma Consistent.init : Consistent agents ({} : State ρ) where
  registered := fun p tracked h => absurd h (by simp)
  stored := fun key entry deadline h => absurd h (by simp [Expiring.empty])
  calls := fun call h => absurd h List.not_mem_nil
  written := fun key e h => absurd h (by simp [Expiring.empty])
  removals_le := fun p => Nat.zero_le _

lemma Consistent.store (h : Consistent agents s)
    (hkeys : ∀ p ∈ agents, ∀ q ∈ agents, connectionKey p.1 p.2 = connectionKey q.1 q.2 → p = q)
    (hp : (tenant, agentID) ∈ agents)
    (hentry : (entry.info.tenantID, entry.info.agentID) = (tenant, agentID)) {tracks : ℕ}
    (htracks : s.tracks ≤ tracks) {tracked : Option Tracked}
    (htracked : ∀ t, tracked = some t →
      tenant ≠ "" ∧ t.storedAt = s.clock ∧ entry.info.lastHeartbeat ≤ t.heartbeat) :
    Consistent agents { s.setEntry tenant agentID entry with
      tracks := tracks, registry := Function.update s.registry (tenant, agentID) tracked } := by
  obtain ⟨rfl, rfl⟩ := Prod.mk.inj hentry
  constructor
  case registered =>
    intro p t ht
    by_cases hpp : p = (entry.info.tenantID, entry.info.agentID)
    · subst hpp
      have ht : tracked = some t := by simpa using ht
      obtain ⟨htenant, hstored, hheartbeat⟩ := htracked t ht
      refine ⟨hp, htenant, entry, ?_, rfl, hheartbeat⟩
      rw [hstored]
      exact Function.update_self ..
    · have ht : s.registry p = some t := by simpa [Function.update_of_ne hpp] using ht
      obtain ⟨hmem, htenant, entry', hentry', hrest⟩ := h.registered p t ht
      refine ⟨hmem, htenant, entry', ?_, hrest⟩
      have hne : connectionKey p.1 p.2 ≠
          connectionKey entry.info.tenantID entry.info.agentID :=
        fun heq => hpp (hkeys p hmem _ hp heq)
      exact (Function.update_of_ne hne _ _).trans hentry'
  case stored =>
    intro key entry' deadline hget
    by_cases hkey : key = connectionKey entry.info.tenantID entry.info.agentID
    · subst hkey
      have hsome := (Function.update_self ..).symm.trans hget
      cases hsome
      exact ⟨hp, rfl⟩
    · exact h.stored key entry' deadline ((Function.update_of_ne hkey _ _).symm.trans hget)
  case calls => exact h.calls
  case written =>
    intro key e hget
    by_cases hkey : key = connectionKey entry.info.tenantID entry.info.agentID
    · exact hkey ▸ List.mem_cons_self
    · have hold := (Function.update_of_ne hkey _ _).symm.trans hget
      exact List.mem_cons_of_mem _ (h.written key e hold)
  case removals_le => exact fun p => (h.removals_le p).trans htracks

lemma Consistent.setCall (h : Consistent agents s) {c : ℕ} {call call' : Call ρ}
    (hcall : s.calls[c]? = some call) (htenant : call'.tenant = call.tenant)
    (hagent : call'.agentID = call.agentID)
    (hread : ∀ entry, call'.phase = .now entry ∨ call'.phase = .set entry →
      (entry.info.tenantID, entry.info.agentID) = (call.tenant, call.agentID)) :
    Consistent agents (s.setCall c call') := by
  refine ⟨h.registered, h.stored, ?_, h.written, h.removals_le⟩
  intro call'' hmem
  rcases List.mem_or_eq_of_mem_set hmem with hold | rfl
  · exact h.calls call'' hold
  · rw [htenant, hagent]
    exact ⟨(h.calls call (List.mem_of_getElem? hcall)).1, hread⟩

lemma Consistent.next (h : Consistent agents s)
    (hkeys : ∀ p ∈ agents, ∀ q ∈ agents, connectionKey p.1 p.2 = connectionKey q.1 q.2 → p = q)
    (hnamed : ∀ p, e.agent = some p → p ∈ agents) : Consistent agents (s.next e) := by
  cases e with
  | elapse time => exact ⟨h.registered, h.stored, h.calls, h.written, h.removals_le⟩
  | detect tenant threshold duration =>
    exact ⟨h.registered, h.stored, h.calls, h.written, h.removals_le⟩
  | trackConnection tenant info =>
    cases info with
    | none => exact h
    | some info =>
      rw [State.next, State.trackConnection]
      split
      · exact h
      · next hvalid =>
        refine h.store hkeys (hnamed _ rfl) rfl (Nat.le_succ _) ?_
        rintro t ⟨⟩
        exact ⟨fun hempty => hvalid (.inl hempty), rfl, Int.le_refl _⟩
  | removeConnection tenant agentID =>
    rw [State.next, State.removeConnection]
    split
    · exact h
    · constructor
      case registered =>
        intro p t ht
        have hpp : p ≠ (tenant, agentID) := by
          rintro rfl
          simp at ht
        have ht : s.registry p = some t := by simpa [Function.update_of_ne hpp] using ht
        obtain ⟨hmem, htenant, entry, hentry, hrest⟩ := h.registered p t ht
        refine ⟨hmem, htenant, entry, ?_, hrest⟩
        have hne : connectionKey p.1 p.2 ≠ connectionKey tenant agentID :=
          fun heq => hpp (hkeys p hmem _ (hnamed _ rfl) heq)
        exact (Function.update_of_ne hne _ _).trans hentry
      case stored =>
        intro key entry deadline hget
        by_cases hkey : key = connectionKey tenant agentID
        · subst hkey
          cases (Function.update_self ..).symm.trans hget
        · exact h.stored key entry deadline ((Function.update_of_ne hkey _ _).symm.trans hget)
      case calls => exact h.calls
      case written =>
        intro key e hget
        by_cases hkey : key = connectionKey tenant agentID
        · subst hkey
          cases (Function.update_self ..).symm.trans hget
        · exact h.written key e ((Function.update_of_ne hkey _ _).symm.trans hget)
      case removals_le =>
        intro p
        by_cases hpp : p = (tenant, agentID)
        · subst hpp
          simp
        · simpa [Function.update_of_ne hpp] using h.removals_le p
  | refreshHeartbeat tenant agentID =>
    refine ⟨h.registered, h.stored, ?_, h.written, h.removals_le⟩
    intro call hmem
    rcases List.mem_append.mp hmem with hold | hnew
    · exact h.calls call hold
    · obtain rfl := List.mem_singleton.mp hnew
      refine ⟨hnamed _ rfl, fun entry hread => ?_⟩
      -- It has read nothing yet.
      dsimp only at hread
      split at hread <;> simp at hread
  | get c =>
    unfold State.next
    dsimp only
    split
    · next tenant agentID hcall =>
      split
      · exact h.setCall hcall rfl rfl (by simp)
      · next entry hget =>
        -- What is under the key of the agent is its record.
        obtain ⟨e, he, hlive⟩ := Option.bind_eq_some_iff.mp hget
        obtain ⟨hmem, hkey⟩ := h.stored _ e.1 e.2 he
        split at hlive
        · cases hlive
          refine h.setCall hcall rfl rfl ?_
          rintro entry' (hphase | hphase)
          · cases hphase
            exact hkeys _ hmem _ (h.calls _ (List.mem_of_getElem? hcall)).1 hkey.symm
          · cases hphase
        · cases hlive
    · exact h
  | now c =>
    unfold State.next
    dsimp only
    split
    · next tenant agentID entry hcall =>
      refine h.setCall hcall rfl rfl ?_
      rintro entry' (hphase | hphase)
      · cases hphase
      · cases hphase
        exact (h.calls _ (List.mem_of_getElem? hcall)).2 entry (.inl rfl)
    · exact h
  | set c =>
    unfold State.next
    dsimp only
    split
    · next tenant agentID entry hcall =>
      obtain ⟨hmem, hread⟩ := h.calls _ (List.mem_of_getElem? hcall)
      have hentry := hread entry (.inr rfl)
      have hstore : Consistent agents (s.refresh tenant agentID entry) := by
        refine h.store hkeys hmem hentry (Nat.le_refl _) ?_
        intro t ht
        obtain ⟨tracked, hregistry, rfl⟩ := Option.map_eq_some_iff.mp ht
        exact ⟨(h.registered _ tracked hregistry).2.1, rfl, Int.le_max_right _ _⟩
      have hcall' : (s.refresh tenant agentID entry).calls[c]? =
          some ⟨tenant, agentID, .set entry⟩ := hcall
      refine hstore.setCall hcall' rfl rfl ?_
      rintro entry' (hphase | hphase) <;> cases hphase
    · exact h

/-! ## Removed connections -/

lemma State.notResurrected_setEntry (hN : s.NotResurrected) (tracks : ℕ)
    (registry : String × String → Option Tracked) :
    State.NotResurrected { s.setEntry tenant agentID entry with
      tracks := tracks, registry := registry } ↔
        s.removals (entry.info.tenantID, entry.info.agentID) ≤ entry.connection := by
  have hself : (s.setEntry tenant agentID entry).store.get s.clock
      (connectionKey tenant agentID) = some entry := by
    refine Expiring.get_set_self.trans (if_pos ?_)
    simp [connectionTTL, second]
  constructor
  · intro hall
    exact hall _ entry hself
  · intro hentry key entry' hget
    by_cases hkey : key = connectionKey tenant agentID
    · subst hkey
      cases hself.symm.trans hget
      exact hentry
    · exact hN key entry' ((Expiring.get_set_of_ne hkey).symm.trans hget)

lemma Consistent.notResurrected_next_iff (h : Consistent agents s) (hN : s.NotResurrected)
    (hne : ∀ tenant threshold duration, e ≠ .detect tenant threshold duration) :
    (s.next e).NotResurrected ↔ s.Condition e := by
  cases e with
  | elapse time =>
    refine iff_of_true (fun key entry hget => ?_) trivial
    exact hN key entry (Expiring.get_of_le (Nat.le_add_right _ _) hget)
  | detect tenant threshold duration => exact absurd rfl (hne tenant threshold duration)
  | trackConnection tenant info =>
    refine iff_of_true ?_ trivial
    cases info with
    | none => exact hN
    | some info =>
      rw [State.next, State.trackConnection]
      split
      · exact hN
      · exact (State.notResurrected_setEntry hN _ _).mpr (h.removals_le _)
  | removeConnection tenant agentID =>
    refine iff_of_true ?_ trivial
    rw [State.next, State.removeConnection]
    split
    · exact hN
    · intro key entry hget
      by_cases hkey : key = connectionKey tenant agentID
      · subst hkey
        cases Expiring.get_del_self.symm.trans hget
      · have hget := (Expiring.get_del_of_ne hkey).symm.trans hget
        obtain ⟨e, he, hlive⟩ := Option.bind_eq_some_iff.mp hget
        -- A record of the removed agent would be under its key.
        have hother : (entry.info.tenantID, entry.info.agentID) ≠ (tenant, agentID) := by
          intro heq
          obtain ⟨rfl, rfl⟩ := Prod.mk.inj heq
          split at hlive
          · cases hlive
            exact hkey (h.stored _ e.1 e.2 he).2
          · cases hlive
        dsimp only
        rw [Function.update_of_ne hother]
        exact hN key entry hget
  | refreshHeartbeat tenant agentID => exact iff_of_true hN trivial
  | get c =>
    refine iff_of_true ?_ trivial
    unfold State.next
    dsimp only
    split
    · split <;> exact hN
    · exact hN
  | now c =>
    refine iff_of_true ?_ trivial
    unfold State.next
    dsimp only
    split <;> exact hN
  | set c =>
    unfold State.next State.Condition
    dsimp only
    split
    · next tenant agentID entry hcall =>
      have hentry := (h.calls _ (List.mem_of_getElem? hcall)).2 entry (.inr rfl)
      dsimp only at hentry
      rw [← hentry]
      exact State.notResurrected_setEntry hN s.tracks (s.refresh tenant agentID entry).registry
    · exact iff_of_true hN trivial

/-! ## Detections -/

lemma Consistent.exists_scanOf (h : Consistent agents s) (pattern : Bytes) (duration : ℕ) :
    ∃ reads, s.ScanOf pattern duration reads ∧ ∀ read ∈ reads, read.2 = duration := by
  refine ⟨(s.written.filter fun key => globMatch pattern key).map fun key => (key, duration), ?_,
    ?_⟩
  · constructor
    case within =>
      intro read hread
      obtain ⟨key, -, rfl⟩ := List.mem_map.mp hread
      exact Nat.le_refl _
    case matching =>
      intro read hread
      obtain ⟨key, hkey, rfl⟩ := List.mem_map.mp hread
      exact (List.mem_filter.mp hkey).2
    case complete =>
      intro key entry hget hmatch
      obtain ⟨e, he, -⟩ := Option.bind_eq_some_iff.mp hget
      have hmem := List.mem_filter.mpr ⟨h.written key e he, hmatch⟩
      exact ⟨duration, List.mem_map.mpr ⟨key, hmem, rfl⟩⟩
  · intro read hread
    obtain ⟨key, -, rfl⟩ := List.mem_map.mp hread
    rfl

lemma State.mem_detectDisconnectedAgents {threshold : ℤ} {reads : List (Bytes × ℕ)}
    {found : List (ConnectionInfo ρ)} {info : ConnectionInfo ρ}
    (hfound : s.detectDisconnectedAgents tenant threshold reads = some found) :
    info ∈ found ↔ ∃ read ∈ reads, ∃ entry, s.store.get (s.clock + read.2) read.1 = some entry ∧
      entry.info.lastHeartbeat < s.clock - effective threshold ∧ entry.info = info := by
  unfold detectDisconnectedAgents at hfound
  split at hfound
  · cases hfound
  · cases hfound
    rw [List.mem_filterMap]
    refine exists_congr fun read => and_congr_right fun _ => ?_
    dsimp only
    cases s.store.get (s.clock + read.2) read.1 with
    | none => simp
    | some entry => simp

lemma Consistent.detects_iff (h : Consistent agents s) {threshold : ℤ} {duration : ℕ} :
    s.Complete tenant threshold duration ↔ s.Condition (.detect tenant threshold duration) := by
  constructor
  · intro hcomplete agentID tracked hstale
    obtain ⟨reads, hscan, hlate⟩ := h.exists_scanOf (connectionPattern tenant) duration
    obtain ⟨found, hfound, info, hinfo, rfl, rfl⟩ :=
      hcomplete reads hscan agentID tracked hstale
    obtain ⟨read, hread, entry, hget, -, rfl⟩ :=
      (State.mem_detectDisconnectedAgents hfound).mp hinfo
    rw [hlate read hread] at hget
    -- The record that was read is the one of the agent.
    obtain ⟨e, he, hlive⟩ := Option.bind_eq_some_iff.mp hget
    split at hlive
    · next hbefore =>
      cases hlive
      obtain ⟨-, hkey⟩ := h.stored _ e.1 e.2 he
      obtain ⟨-, -, entry', hentry', -⟩ := h.registered _ tracked hstale.1
      rw [hkey] at he
      have hdeadline : e.2 = tracked.storedAt + connectionTTL :=
        congrArg Prod.snd (Option.some.inj (he.symm.trans hentry'))
      exact ⟨hdeadline ▸ hbefore, hkey ▸ hscan.matching read hread⟩
    · cases hlive
  · intro hcondition reads hscan agentID tracked hstale
    obtain ⟨hlive, hmatch⟩ := hcondition agentID tracked hstale
    obtain ⟨-, htenant, entry, hentry, hself, hle⟩ := h.registered _ tracked hstale.1
    have hget {delay : ℕ} (hdelay : delay ≤ duration) :
        s.store.get (s.clock + delay) (connectionKey tenant agentID) = some entry := by
      have hbefore : s.clock + delay < tracked.storedAt + connectionTTL :=
        Nat.lt_of_le_of_lt (Nat.add_le_add_left hdelay _) hlive
      rw [Expiring.get, hentry, Option.bind_some, if_pos hbefore]
    obtain ⟨delay, hread⟩ := hscan.complete _ entry (hget (Nat.le_refl _)) hmatch
    refine ⟨_, if_neg htenant, entry.info, ?_, (Prod.mk.inj hself).1, (Prod.mk.inj hself).2⟩
    refine (State.mem_detectDisconnectedAgents (if_neg htenant)).mpr ⟨_, hread, entry, ?_, ?_, rfl⟩
    · exact hget (hscan.within _ hread)
    · exact Int.lt_of_le_of_lt hle hstale.2

/-! ## Runs -/

lemma Consistent.correct_iff (h : Consistent agents s) (hN : s.NotResurrected) :
    s.Correct e ↔ s.Condition e := by
  cases e with
  | detect tenant threshold duration =>
    have hlater : (s.next (.detect tenant threshold duration)).NotResurrected :=
      fun key entry hget => hN key entry (Expiring.get_of_le (Nat.le_add_right _ _) hget)
    exact (and_iff_right hlater).trans h.detects_iff
  | _ => exact (and_iff_left trivial).trans (h.notResurrected_next_iff hN (by simp))

end

/-- **Disconnected agents are found and removed connections stay removed**, if and only if a
heartbeat does not write a connection that was removed since it was read, and the agents that a
detection should return have records that do not expire before it ends and keys that the pattern of
the tenant matches. -/
theorem detected_and_not_resurrected_iff (events : List (Event ρ)) (hkeys : DistinctKeys events) :
    Allowed State.next State.Correct ({} : State ρ) events ↔
      Allowed State.next State.Condition ({} : State ρ) events := by
  have hrun (s : State ρ) (es : List (Event ρ)) (hs : es ⊆ events)
      (h : Consistent { p | p ∈ events.filterMap Event.agent } s) (hN : s.NotResurrected) :
      Allowed State.next State.Correct s es ↔ Allowed State.next State.Condition s es := by
    induction es generalizing s with
    | nil => rfl
    | cons e es ih =>
      obtain ⟨he, hes⟩ := List.cons_subset.mp hs
      have hnamed : ∀ p, e.agent = some p → p ∈ events.filterMap Event.agent :=
        fun p hp => List.mem_filterMap.mpr ⟨e, he, hp⟩
      have hfirst := h.correct_iff (e := e) hN
      constructor
      · rintro ⟨hcorrect, hrest⟩
        exact ⟨hfirst.mp hcorrect, (ih _ hes (h.next hkeys hnamed) hcorrect.1).mp hrest⟩
      · rintro ⟨hcondition, hrest⟩
        have hcorrect := hfirst.mpr hcondition
        exact ⟨hcorrect, (ih _ hes (h.next hkeys hnamed) hcorrect.1).mpr hrest⟩
  refine hrun {} events (List.Subset.refl _) .init fun key entry hget => ?_
  cases hget

/-! ## Names without special characters -/

/-- The pattern of a tenant matches the keys of its agents if its name has no special characters. -/
lemma globMatch_connectionPattern {tenant : String} (h : Plain (utf8 tenant)) (agentID : String) :
    globMatch (connectionPattern tenant) (connectionKey tenant agentID) = true := by
  have hhead : Plain (utf8 "paryty:") := by decide
  have hmiddle : Plain (utf8 ":connections:") := by decide
  have hplain : Plain (utf8 "paryty:" ++ utf8 tenant ++ utf8 ":connections:") :=
    List.forall_mem_append.mpr ⟨List.forall_mem_append.mpr ⟨hhead, h⟩, hmiddle⟩
  have hstar : utf8 ":connections:*" = utf8 ":connections:" ++ [42] := by decide
  have hpattern : connectionPattern tenant =
      utf8 "paryty:" ++ utf8 tenant ++ utf8 ":connections:" ++ [42] := by
    rw [connectionPattern, utf8_append, utf8_append, hstar, List.append_assoc _ _ [42]]
  rw [hpattern, globMatch_append_star hplain, connectionKey, utf8_append, utf8_append, utf8_append]
  exact List.prefix_append _ _

/-! ## Examples of runs -/

/-- Three agents of two tenants, a heartbeat of the first and the removal of the second; then a
detection with a threshold of 15 s when the heartbeat is 21 s ago. -/
def heartbeatRun : List (Event Unit) :=
  [.trackConnection "acme" (some ⟨"web", "", 0, ()⟩),
    .trackConnection "acme" (some ⟨"db", "", 0, ()⟩),
    .trackConnection "globex" (some ⟨"web", "", 0, ()⟩), .elapse (10 * second),
    .refreshHeartbeat "acme" "web", .get 0, .now 0, .elapse second, .set 0,
    .removeConnection "acme" "db", .elapse (20 * second), .detect "acme" (15 * second) second]

lemma registry_heartbeatRun (agentID : String) :
    ((heartbeatRun.foldl State.next {}).registry ("acme", agentID)) =
      if agentID = "web" then some ⟨10 * second, 11 * second⟩ else none := by
  change Function.update (Function.update (Function.update (Function.update (Function.update
    (fun _ => (none : Option Tracked)) ("acme", "web") (some ⟨0, 0⟩)) ("acme", "db")
    (some ⟨0, 0⟩)) ("globex", "web") (some ⟨0, 0⟩)) ("acme", "web") (some ⟨10 * second, 11 * second⟩)) ("acme", "db") none
    ("acme", agentID) = _
  by_cases hweb : agentID = "web"
  · simp [hweb]
  · by_cases hdb : agentID = "db" <;> simp [hweb, hdb]

theorem detected_heartbeatRun : Allowed State.next State.Correct {} heartbeatRun := by
  have hkeys : DistinctKeys heartbeatRun := by
    unfold DistinctKeys
    decide
  refine (detected_and_not_resurrected_iff heartbeatRun hkeys).mpr
    ⟨trivial, trivial, trivial, trivial, trivial, trivial, trivial, trivial, ?_, trivial, trivial,
      ?_, trivial⟩
  · exact Nat.le_refl 0
  · rintro agentID tracked ⟨hregistry, -⟩
    have htracked := (registry_heartbeatRun agentID).symm.trans hregistry
    split at htracked
    case isTrue hagent =>
      cases htracked
      exact ⟨by decide, globMatch_connectionPattern (by decide) agentID⟩
    case isFalse => cases htracked

/-- The only record expires after 30 s, so that after 61 s the default threshold of 60 s finds
nobody. -/
def silentRun : List (Event Unit) :=
  [.trackConnection "acme" (some ⟨"web", "", 0, ()⟩), .elapse (61 * second), .detect "acme" 0 0]

/-- The connection is removed between the GET and the SET of a heartbeat. -/
def removedRun : List (Event Unit) :=
  [.trackConnection "acme" (some ⟨"web", "", 0, ()⟩), .refreshHeartbeat "acme" "web", .get 0,
    .now 0, .removeConnection "acme" "web", .set 0]

theorem undetected_and_resurrected :
    ¬ Allowed State.next State.Correct {} silentRun ∧
      ¬ Allowed State.next State.Correct {} removedRun := by
  constructor
  · rintro ⟨-, -, ⟨-, hcomplete⟩, -⟩
    have hstale := hcomplete [] ⟨by simp, by simp, ?_⟩ "web" ⟨0, 0⟩ ⟨by decide, by decide⟩
    · obtain ⟨found, hfound, info, hinfo, -⟩ := hstale
      cases hfound
      exact absurd hinfo List.not_mem_nil
    · intro key entry hget
      by_cases hkey : key = connectionKey "acme" "web"
      · subst hkey
        have hexpired := Expiring.get_set_self.symm.trans hget
        rw [if_neg (by decide)] at hexpired
        cases hexpired
      · cases (Expiring.get_set_of_ne hkey).symm.trans hget
  · rintro ⟨-, -, -, -, -, ⟨hN, -⟩, -⟩
    have hentry := hN (connectionKey "acme" "web") ⟨⟨"web", "acme", 0, ()⟩, 0⟩ (by decide)
    exact absurd hentry (by decide)

end Paryty.Storage.Connections

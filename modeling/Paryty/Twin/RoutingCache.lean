import Mathlib.Algebra.Order.Ring.Int
import Paryty.Lib.ExpiringHash
import Paryty.Lib.Run
import Paryty.Twin.Schema

/-!
# The routing cache

`RoutingCache` of `cluster/internal/twin/routing_cache.go` keeps the twin of each agent in one hash
per tenant. `ResolveTopic` and `ResolveTwinID` read the hash, then the database, and fill the hash.
The handlers of the lifecycle operations in `cluster/internal/auth/twin_handler.go` commit to the
database, and some of them invalidate the entry of the agent.

* `State.next` is one command of a lookup, one step of an operation, the start of either, or time
  passing. Commands on the hash may fail: then whether a write took effect is open.
* `Routed`: no lookup that starts after an operation returns an assignment from before it, and no
  entry is returned that is older than the TTL.
* `routed_of_careful`: that holds in every run in which an operation returns with no older entry in
  the hash, no older entry is stored afterwards, and the deadline of the hash counts from its only
  fill.
* `stale_routes`: two runs in which it does not.

The hash is that of one tenant. A topic stands for its twin.
-/

namespace Paryty.Twin.Routing

/-- `routingCacheTTL`, in nanoseconds. -/
def routingCacheTTL : ℕ := 5 * 60 * 10 ^ 9

/-! ## Data -/

/-- A field of the hash: the twin, empty for an agent without one. -/
structure Entry where
  twin : TwinID
  /-- When it was stored. -/
  writtenAt : ℕ
  /-- Which of the agent's assignments was read for it. -/
  version : ℕ
deriving DecidableEq

/-- The two lookups. -/
inductive Kind
  | resolveTopic
  | resolveTwinID
deriving DecidableEq

/-- Where a lookup stands. -/
inductive LookupPhase
  /-- HGET. -/
  | hGet
  /-- `GetAgentAssignment`. -/
  | query
  /-- HSET of what the database gave. -/
  | hSet (twin : TwinID) (version : ℕ)
  /-- EXPIRE of the hash. -/
  | expire (twin : TwinID) (version : ℕ)
  /-- It has returned a twin, or none; from the hash, with the age of the entry. -/
  | returned (twin : TwinID) (version : ℕ) (age : Option ℕ)
deriving DecidableEq

/-- A lookup. -/
structure Lookup where
  kind : Kind
  agentID : AgentID
  /-- The assignment that the last operation that had returned at its start made. -/
  floor : ℕ
  phase : LookupPhase := .hGet
deriving DecidableEq

/-- A lifecycle operation on an agent. -/
inductive Lifecycle
  | pairAgent (twinID : TwinID)
  | unpairAgent
  | unregisterAgent
  | retireAgent
  | blacklistAgent
deriving DecidableEq

namespace Lifecycle

/-- The assignment that it leaves. -/
def assignment : Lifecycle → Option TwinID
  | .pairAgent twinID => some twinID
  | _ => none

/-- Whether its handler calls `InvalidateAgent`. -/
def invalidates : Lifecycle → Bool
  | .pairAgent _ | .unpairAgent => true
  | _ => false

end Lifecycle

/-- Where an operation stands. -/
inductive OperationPhase
  /-- The transaction of the assigner. -/
  | commit
  /-- `InvalidateAgent`. -/
  | invalidate (version : ℕ)
  /-- The command to the agent, and the audit log. -/
  | finish (version : ℕ)
  | returned
deriving DecidableEq

/-- An operation under way. -/
structure Operation where
  lifecycle : Lifecycle
  agentID : AgentID
  phase : OperationPhase := .commit
deriving DecidableEq

/-- The database, the hash, and who uses them. -/
structure State where
  now : ℕ := 0
  /-- The assignments of each agent, the current one last. -/
  history : AgentID → List (Option TwinID) := fun _ => [none]
  /-- The last assignment of an operation that has returned. -/
  settled : AgentID → ℕ := fun _ => 0
  hash : Lib.ExpiringHash AgentID Entry := {}
  lookups : List Lookup := []
  operations : List Operation := []

/-- What happens. -/
inductive Event
  /-- A lookup is called. -/
  | resolve (kind : Kind) (agentID : AgentID)
  /-- An operation is called. -/
  | call (lifecycle : Lifecycle) (agentID : AgentID)
  /-- The next command of a lookup; a write that is not `ok` has no effect. -/
  | lookup (i : ℕ) (ok : Bool)
  /-- The next step of an operation. -/
  | operation (i : ℕ) (ok : Bool)
  /-- Time passes. -/
  | pass (time : ℕ)
deriving DecidableEq

namespace State

/-- The number of the current assignment. -/
def version (s : State) (agentID : AgentID) : ℕ := (s.history agentID).length - 1

/-- `GetAgentAssignment`: an error counts as unassigned. -/
def getAgentAssignment (s : State) (agentID : AgentID) (ok : Bool) : TwinID :=
  if ok then ((s.history agentID).getLast?.join).getD "" else ""

/-- A hit: the cached twin is returned. `ResolveTopic` asks the database about an empty one. -/
def hit (kind : Kind) (entry : Entry) : Bool :=
  match kind with
  | .resolveTopic => entry.twin ≠ ""
  | .resolveTwinID => true

/-- A command of a lookup: the hash afterwards and the next phase. -/
def lookupStep (s : State) (l : Lookup) (ok : Bool) :
    LookupPhase → Lib.ExpiringHash AgentID Entry × LookupPhase
  | .hGet =>
    match ok, s.hash.get s.now l.agentID with
    | true, some entry =>
      (s.hash, if hit l.kind entry then
        .returned entry.twin entry.version (some (s.now - entry.writtenAt)) else .query)
    | _, _ => (s.hash, .query)
  | .query => (s.hash, .hSet (s.getAgentAssignment l.agentID ok) (s.version l.agentID))
  | .hSet twin version =>
    (if ok then s.hash.set s.now l.agentID ⟨twin, s.now, version⟩ else s.hash, .expire twin version)
  | .expire twin version =>
    (if ok then s.hash.expire s.now routingCacheTTL else s.hash, .returned twin version none)
  | .returned twin version age => (s.hash, .returned twin version age)

/-- A step of an operation. -/
def operationStep (s : State) (op : Operation) (ok : Bool) : OperationPhase → State × OperationPhase
  | .commit =>
    if ok then
      let history := Function.update s.history op.agentID
        (s.history op.agentID ++ [op.lifecycle.assignment])
      let version := (s.history op.agentID).length
      ({ s with history }, if op.lifecycle.invalidates then .invalidate version else .finish version)
    else (s, .returned)
  | .invalidate version =>
    ({ s with hash := if ok then s.hash.del s.now op.agentID else s.hash }, .finish version)
  | .finish version =>
    ({ s with settled := Function.update s.settled op.agentID (max (s.settled op.agentID) version) },
      .returned)
  | .returned => (s, .returned)

/-- One event. -/
def next (s : State) : Event → State
  | .resolve kind agentID =>
    { s with lookups := s.lookups ++ [⟨kind, agentID, s.settled agentID, .hGet⟩] }
  | .call lifecycle agentID =>
    { s with operations := s.operations ++ [⟨lifecycle, agentID, .commit⟩] }
  | .lookup i ok =>
    match s.lookups[i]? with
    | none => s
    | some l =>
      let (hash, phase) := s.lookupStep l ok l.phase
      { s with hash, lookups := s.lookups.set i { l with phase } }
  | .operation i ok =>
    match s.operations[i]? with
    | none => s
    | some op =>
      let (s', phase) := s.operationStep op ok op.phase
      { s' with operations := s'.operations.set i { op with phase } }
  | .pass time => { s with now := s.now + time }

end State

/-! ## Routing -/

/-- The agent had the twin as the assignment of this number, or one after it. -/
def AssignedSince (s : State) (agentID : AgentID) (floor : ℕ) (twin : TwinID) : Prop :=
  ∃ version, floor ≤ version ∧ (s.history agentID)[version]? = some (some twin)

/-- What lookups return. -/
structure Routed (s : State) : Prop where
  /-- A twin that is returned is not from before an operation that had returned. -/
  current : ∀ l ∈ s.lookups, ∀ twin version age, l.phase = .returned twin version age →
    twin = "" ∨ AssignedSince s l.agentID l.floor twin
  /-- No entry is returned that is older than the TTL. -/
  fresh : ∀ l ∈ s.lookups, ∀ twin version age, l.phase = .returned twin version (some age) →
    age ≤ routingCacheTTL

/-- The hash never has an entry from before an operation that has returned, and its deadline counts
from its only fill. -/
def Careful (s : State) : Event → Prop
  | .operation i _ =>
    match s.operations[i]? with
    | some ⟨_, agentID, .finish version⟩ =>
      -- The operation returns: no older entry is in the hash.
      ∀ entry, s.hash.get s.now agentID = some entry → version ≤ entry.version
    | _ => True
  | .lookup i ok =>
    match s.lookups[i]? with
    | some ⟨_, agentID, _, .hSet _ version⟩ =>
      -- No operation has returned since the database was read.
      ok = true → s.settled agentID ≤ version
    | some ⟨_, _, _, .expire _ _⟩ =>
      -- Every entry of the hash was stored at this moment.
      ok = true → ∀ agentID entry, s.hash.get s.now agentID = some entry → entry.writtenAt = s.now
    | _ => True
  | .pass time =>
    -- The hash does not stay without a deadline.
    time ≠ 0 → s.hash.deadline = none → ∀ agentID, s.hash.get s.now agentID = none
  | _ => True

/-! ### The ages of the entries -/

variable {h : Lib.ExpiringHash AgentID Entry} {now : ℕ} {agentID : AgentID} {entry : Entry}

/-- The deadline of the hash is not later than that of the entry alone would be. -/
def Due (now : ℕ) (entry : Entry) : Option ℕ → Prop
  | none => entry.writtenAt = now
  | some d => entry.writtenAt ≤ now ∧ d ≤ entry.writtenAt + routingCacheTTL

/-- No entry outlives the TTL. -/
structure Timed (h : Lib.ExpiringHash AgentID Entry) (now : ℕ) : Prop where
  entries : ∀ agentID entry, h.get now agentID = some entry → Due now entry h.deadline
  deadline : ∀ d, h.deadline = some d → d ≤ now + routingCacheTTL

namespace Timed

lemma age_le (ht : Timed h now) (hget : h.get now agentID = some entry) :
    now - entry.writtenAt ≤ routingCacheTTL := by
  have hdue := ht.entries agentID entry hget
  cases hd : h.deadline with
  | none =>
    rw [hd] at hdue
    have hwritten : entry.writtenAt = now := hdue
    omega
  | some d =>
    rw [hd] at hdue
    have hlater := hdue.2
    have hlive := Lib.ExpiringHash.lt_of_get hget hd
    omega

lemma set (ht : Timed h now) {twin : TwinID} {version : ℕ} :
    Timed (h.set now agentID ⟨twin, now, version⟩) now := by
  have hbound (d : ℕ) (hd : (h.current now).deadline = some d) : d ≤ now + routingCacheTTL :=
    ht.deadline d (Lib.ExpiringHash.deadline_current hd).1
  refine ⟨fun agentID' entry' hget => ?_, fun d hd => hbound d hd⟩
  rw [Lib.ExpiringHash.deadline_set]
  by_cases hsame : agentID' = agentID
  · subst hsame
    rw [Lib.ExpiringHash.get_set_self] at hget
    cases hget
    cases hd : (h.current now).deadline with
    | none => rfl
    | some d => exact ⟨Nat.le_refl now, hbound d hd⟩
  · rw [Lib.ExpiringHash.get_set_of_ne hsame] at hget
    rw [Lib.ExpiringHash.current_of_get hget]
    exact ht.entries agentID' entry' hget

lemma del (ht : Timed h now) : Timed (h.del now agentID) now := by
  refine ⟨fun agentID' entry' hget => ?_, fun d hd => ?_⟩
  · have hne : agentID' ≠ agentID := by
      rintro rfl
      rw [Lib.ExpiringHash.get_del_self] at hget
      cases hget
    rw [Lib.ExpiringHash.deadline_del hget]
    rw [Lib.ExpiringHash.get_del_of_ne hne] at hget
    rw [Lib.ExpiringHash.current_of_get hget]
    exact ht.entries agentID' entry' hget
  · have hcurrent := Lib.ExpiringHash.deadline_current_of_del hd
    exact ht.deadline d (Lib.ExpiringHash.deadline_current hcurrent).1

lemma routingCacheTTL_pos : 0 < routingCacheTTL := by decide

lemma expire (hfilled : ∀ agentID entry, h.get now agentID = some entry → entry.writtenAt = now) :
    Timed (h.expire now routingCacheTTL) now := by
  refine ⟨fun agentID entry hget => ?_, fun d hd => ?_⟩
  · rw [Lib.ExpiringHash.get_expire routingCacheTTL_pos] at hget
    rw [Lib.ExpiringHash.deadline_expire hget]
    have hwritten := hfilled agentID entry hget
    exact ⟨Nat.le_of_eq hwritten, Nat.le_of_eq (by rw [hwritten])⟩
  · exact Nat.le_of_eq (Lib.ExpiringHash.eq_of_deadline_expire hd)

lemma pass (ht : Timed h now) {time : ℕ}
    (hdated : time ≠ 0 → h.deadline = none → ∀ agentID, h.get now agentID = none) :
    Timed h (now + time) := by
  refine ⟨fun agentID entry hget => ?_, fun d hd => ?later⟩
  case later =>
    have hdeadline := ht.deadline d hd
    omega
  have hbefore := Lib.ExpiringHash.get_of_le (Nat.le_add_right now time) hget
  have hdue := ht.entries agentID entry hbefore
  cases hd : h.deadline with
  | none =>
    rw [hd] at hdue
    by_cases htime : time = 0
    · rw [htime]
      exact hdue
    · rw [hdated htime hd agentID] at hbefore
      cases hbefore
  | some d =>
    rw [hd] at hdue
    have hwritten := hdue.1
    exact ⟨by omega, hdue.2⟩

end Timed

/-! ### The assignments of the entries -/

variable {s : State}

/-- What was read from the database: an assignment, or none. -/
def Read (s : State) (agentID : AgentID) (version : ℕ) (twin : TwinID) : Prop :=
  twin = "" ∨ (s.history agentID)[version]? = some (some twin)

/-- A lookup has read what counts for it. -/
def Lookup.Sound (s : State) (l : Lookup) : LookupPhase → Prop
  | .hGet | .query => True
  | .hSet twin version | .expire twin version => l.floor ≤ version ∧ Read s l.agentID version twin
  | .returned twin _ age =>
    (twin = "" ∨ AssignedSince s l.agentID l.floor twin) ∧ ∀ n, age = some n → n ≤ routingCacheTTL

/-- An operation settles an assignment that it has made. -/
def Operation.Made (s : State) (op : Operation) : OperationPhase → Prop
  | .commit | .returned => True
  | .invalidate version | .finish version => version < (s.history op.agentID).length

/-- An entry is not from before an operation that has returned. -/
def Held (s : State) (h : Lib.ExpiringHash AgentID Entry) : Prop :=
  ∀ agentID entry, h.get s.now agentID = some entry →
    s.settled agentID ≤ entry.version ∧ Read s agentID entry.version entry.twin

/-- What holds in every state of a careful run. -/
structure Inv (s : State) : Prop where
  timed : Timed s.hash s.now
  held : Held s s.hash
  settled : ∀ agentID, s.settled agentID < (s.history agentID).length
  floors : ∀ l ∈ s.lookups, l.floor ≤ s.settled l.agentID
  lookups : ∀ l ∈ s.lookups, l.Sound s l.phase
  operations : ∀ op ∈ s.operations, op.Made s op.phase

lemma inv_init : Inv {} where
  timed := ⟨fun _ _ hget => (nomatch hget), fun _ hd => (nomatch hd)⟩
  held _ _ hget := (nomatch hget)
  settled _ := Nat.zero_lt_one
  floors _ hl := (nomatch hl)
  lookups _ hl := (nomatch hl)
  operations _ hop := (nomatch hop)

lemma Inv.routed (hs : Inv s) : Routed s where
  current l hl twin version age hphase := by
    have hsound := hs.lookups l hl
    rw [hphase] at hsound
    exact hsound.1
  fresh l hl twin version age hphase := by
    have hsound := hs.lookups l hl
    rw [hphase] at hsound
    exact hsound.2 age rfl

/-! ### Lookups -/

variable {l : Lookup} {i : ℕ} {ok : Bool}

lemma read_getAgentAssignment :
    Read s agentID (s.version agentID) (s.getAgentAssignment agentID ok) := by
  unfold Read State.getAgentAssignment State.version
  cases ok with
  | false => exact .inl rfl
  | true =>
    rw [if_pos rfl, ← List.getLast?_eq_getElem?]
    cases (s.history agentID).getLast? with
    | none => exact .inl rfl
    | some assignment =>
      cases assignment with
      | none => exact .inl rfl
      | some twin => exact .inr rfl

lemma Read.assignedSince {floor version : ℕ} {twin : TwinID} (hread : Read s agentID version twin)
    (hfloor : floor ≤ version) : twin = "" ∨ AssignedSince s agentID floor twin :=
  hread.imp_right fun hassigned => ⟨version, hfloor, hassigned⟩

lemma careful_hSet {twin : TwinID} {version : ℕ} (h : Careful s (.lookup i ok))
    (hl : s.lookups[i]? = some l) (hphase : l.phase = .hSet twin version) (hok : ok = true) :
    s.settled l.agentID ≤ version := by
  cases l
  subst hphase
  simp only [Careful, hl] at h
  exact h hok

lemma careful_expire {twin : TwinID} {version : ℕ} (h : Careful s (.lookup i ok))
    (hl : s.lookups[i]? = some l) (hphase : l.phase = .expire twin version) (hok : ok = true)
    (agentID : AgentID) (entry : Entry) (hget : s.hash.get s.now agentID = some entry) :
    entry.writtenAt = s.now := by
  cases l
  subst hphase
  simp only [Careful, hl] at h
  exact h hok agentID entry hget

lemma Inv.lookupStep_sound (hs : Inv s) (hl : s.lookups[i]? = some l) :
    l.Sound s (s.lookupStep l ok l.phase).2 := by
  have hmem : l ∈ s.lookups := List.mem_of_getElem? hl
  have hsound := hs.lookups l hmem
  have hfloor := hs.floors l hmem
  cases hphase : l.phase with
  | hGet =>
    unfold State.lookupStep
    dsimp only
    split
    · next entry hget =>
      split
      · -- A hit: the entry is one that counts, and is not too old.
        have hheld := hs.held l.agentID entry hget
        refine ⟨hheld.2.assignedSince (Nat.le_trans hfloor hheld.1), ?_⟩
        rintro n ⟨⟩
        exact hs.timed.age_le hget
      · trivial
    · trivial
  | query =>
    have hcurrent := hs.settled l.agentID
    refine ⟨?_, read_getAgentAssignment⟩
    unfold State.version
    omega
  | hSet twin version =>
    rw [hphase] at hsound
    exact hsound
  | expire twin version =>
    rw [hphase] at hsound
    exact ⟨hsound.2.assignedSince hsound.1, fun _ hage => (nomatch hage)⟩
  | returned twin version age =>
    rw [hphase] at hsound
    exact hsound

lemma Inv.lookupStep_hash (hs : Inv s) (hl : s.lookups[i]? = some l)
    (hcareful : Careful s (.lookup i ok)) :
    Timed (s.lookupStep l ok l.phase).1 s.now ∧ Held s (s.lookupStep l ok l.phase).1 := by
  have hsame : Timed s.hash s.now ∧ Held s s.hash := ⟨hs.timed, hs.held⟩
  have hsound := hs.lookups l (List.mem_of_getElem? hl)
  cases hphase : l.phase with
  | hGet =>
    unfold State.lookupStep
    dsimp only
    split <;> exact hsame
  | query => exact hsame
  | hSet twin version =>
    cases ok with
    | false => exact hsame
    | true =>
      rw [hphase] at hsound
      refine ⟨hs.timed.set, fun agentID entry hget => ?_⟩
      change (s.hash.set s.now l.agentID ⟨twin, s.now, version⟩).get s.now agentID = _ at hget
      by_cases hagent : agentID = l.agentID
      · subst hagent
        rw [Lib.ExpiringHash.get_set_self] at hget
        cases hget
        exact ⟨careful_hSet hcareful hl hphase rfl, hsound.2⟩
      · rw [Lib.ExpiringHash.get_set_of_ne hagent] at hget
        exact hs.held agentID entry hget
  | expire twin version =>
    cases ok with
    | false => exact hsame
    | true =>
      refine ⟨Timed.expire (careful_expire hcareful hl hphase rfl), fun agentID entry hget => ?_⟩
      change (s.hash.expire s.now routingCacheTTL).get s.now agentID = _ at hget
      rw [Lib.ExpiringHash.get_expire Timed.routingCacheTTL_pos] at hget
      exact hs.held agentID entry hget
  | returned twin version age => exact hsame

lemma Inv.lookup (hs : Inv s) (hcareful : Careful s (.lookup i ok)) :
    Inv (s.next (.lookup i ok)) := by
  unfold State.next
  dsimp only
  cases hl : s.lookups[i]? with
  | none => exact hs
  | some l =>
    have hhash := hs.lookupStep_hash hl hcareful
    exact {
      timed := hhash.1
      held := hhash.2
      settled := hs.settled
      floors := fun l' hl' => by
        obtain hl' | rfl := List.mem_or_eq_of_mem_set hl'
        · exact hs.floors l' hl'
        · exact hs.floors l (List.mem_of_getElem? hl)
      lookups := fun l' hl' => by
        obtain hl' | rfl := List.mem_or_eq_of_mem_set hl'
        · exact hs.lookups l' hl'
        · exact hs.lookupStep_sound hl
      operations := hs.operations }

/-! ### Operations -/

variable {s' : State} {op : Operation}

/-- Assignments are only added, and settled. -/
structure Extends (s s' : State) : Prop where
  settled : ∀ agentID, s.settled agentID ≤ s'.settled agentID
  history : ∀ (agentID : AgentID) (version : ℕ) (assignment : Option TwinID),
    (s.history agentID)[version]? = some assignment →
      (s'.history agentID)[version]? = some assignment

namespace Extends

lemma read (h : Extends s s') {version : ℕ} {twin : TwinID} (hread : Read s agentID version twin) :
    Read s' agentID version twin :=
  hread.imp_right (h.history agentID version _)

lemma sound (h : Extends s s') {phase : LookupPhase} (hsound : l.Sound s phase) :
    l.Sound s' phase := by
  cases phase with
  | hGet => trivial
  | query => trivial
  | hSet twin version => exact ⟨hsound.1, h.read hsound.2⟩
  | expire twin version => exact ⟨hsound.1, h.read hsound.2⟩
  | returned twin version age =>
    refine ⟨hsound.1.imp_right ?_, hsound.2⟩
    rintro ⟨version', hfloor, hassigned⟩
    exact ⟨version', hfloor, h.history l.agentID version' _ hassigned⟩

lemma lt_length (h : Extends s s') {version : ℕ} (hlt : version < (s.history agentID).length) :
    version < (s'.history agentID).length := by
  have hkept := h.history agentID version _ (List.getElem?_eq_getElem hlt)
  exact (List.getElem?_eq_some_iff.mp hkept).1

lemma made (h : Extends s s') {phase : OperationPhase} (hmade : op.Made s phase) :
    op.Made s' phase := by
  cases phase with
  | commit => trivial
  | invalidate version => exact h.lt_length hmade
  | finish version => exact h.lt_length hmade
  | returned => trivial

end Extends

lemma careful_finish {version : ℕ} (h : Careful s (.operation i ok))
    (hop : s.operations[i]? = some op) (hphase : op.phase = .finish version) (entry : Entry)
    (hget : s.hash.get s.now op.agentID = some entry) : version ≤ entry.version := by
  cases op
  subst hphase
  simp only [Careful, hop] at h
  exact h entry hget

lemma operationStep_frame (s : State) (op : Operation) (ok : Bool) :
    (s.operationStep op ok op.phase).1.lookups = s.lookups ∧
      (s.operationStep op ok op.phase).1.operations = s.operations ∧
        (s.operationStep op ok op.phase).1.now = s.now := by
  cases op.phase with
  | commit => cases ok <;> exact ⟨rfl, rfl, rfl⟩
  | invalidate | finish | returned => exact ⟨rfl, rfl, rfl⟩

lemma operationStep_extends (s : State) (op : Operation) (ok : Bool) :
    Extends s (s.operationStep op ok op.phase).1 := by
  have hsame : Extends s s := ⟨fun _ => Nat.le_refl _, fun _ _ _ h => h⟩
  cases op.phase with
  | commit =>
    cases ok with
    | false => exact hsame
    | true =>
      refine ⟨fun _ => Nat.le_refl _, fun agentID version assignment h => ?_⟩
      change (Function.update s.history op.agentID _ agentID)[version]? = _
      by_cases hagent : agentID = op.agentID
      · subst hagent
        rw [Function.update_self]
        have hlt := (List.getElem?_eq_some_iff.mp h).1
        rw [List.getElem?_append_left hlt, h]
      · rw [Function.update_of_ne hagent, h]
  | invalidate version => exact ⟨hsame.settled, hsame.history⟩
  | finish version =>
    refine ⟨fun agentID => ?_, fun _ _ _ h => h⟩
    change _ ≤ Function.update s.settled op.agentID _ agentID
    by_cases hagent : agentID = op.agentID
    · subst hagent
      rw [Function.update_self]
      exact Nat.le_max_left _ _
    · exact Nat.le_of_eq (by rw [Function.update_of_ne hagent])
  | returned => exact hsame

lemma Inv.operationStep_made (hs : Inv s) (hop : s.operations[i]? = some op) :
    op.Made (s.operationStep op ok op.phase).1 (s.operationStep op ok op.phase).2 := by
  have hmade := hs.operations op (List.mem_of_getElem? hop)
  cases hphase : op.phase with
  | commit =>
    cases ok with
    | false => trivial
    | true =>
      have hlast : (s.history op.agentID).length <
          (Function.update s.history op.agentID
            (s.history op.agentID ++ [op.lifecycle.assignment]) op.agentID).length := by
        rw [Function.update_self, List.length_append, List.length_singleton]
        omega
      change op.Made _ (if op.lifecycle.invalidates then _ else _)
      split <;> exact hlast
  | invalidate version =>
    rw [hphase] at hmade
    exact hmade
  | finish version => trivial
  | returned => trivial

lemma Inv.operationStep_settled (hs : Inv s) (hop : s.operations[i]? = some op) (agentID : AgentID) :
    (s.operationStep op ok op.phase).1.settled agentID <
      ((s.operationStep op ok op.phase).1.history agentID).length := by
  have hmade := hs.operations op (List.mem_of_getElem? hop)
  have hsettled := hs.settled agentID
  cases hphase : op.phase with
  | finish version =>
    rw [hphase] at hmade
    change Function.update s.settled op.agentID _ agentID < (s.history agentID).length
    by_cases hagent : agentID = op.agentID
    · subst hagent
      rw [Function.update_self]
      exact Nat.max_lt.mpr ⟨hsettled, hmade⟩
    · rw [Function.update_of_ne hagent]
      exact hsettled
  | commit =>
    have hextends := operationStep_extends s op ok
    rw [hphase] at hextends
    have hsame : (s.operationStep op ok .commit).1.settled = s.settled := by
      cases ok <;> rfl
    rw [hsame]
    exact hextends.lt_length hsettled
  | invalidate version => exact hsettled
  | returned => exact hsettled

lemma Inv.operationStep_hash (hs : Inv s) (hop : s.operations[i]? = some op)
    (hcareful : Careful s (.operation i ok)) :
    Timed (s.operationStep op ok op.phase).1.hash s.now ∧
      Held (s.operationStep op ok op.phase).1 (s.operationStep op ok op.phase).1.hash := by
  have hextends := operationStep_extends s op ok
  cases hphase : op.phase with
  | commit =>
    rw [hphase] at hextends
    have hsame : (s.operationStep op ok .commit).1.hash = s.hash ∧
        (s.operationStep op ok .commit).1.settled = s.settled ∧
          (s.operationStep op ok .commit).1.now = s.now := by
      cases ok <;> exact ⟨rfl, rfl, rfl⟩
    rw [hsame.1]
    refine ⟨hs.timed, fun agentID entry hget => ?_⟩
    rw [hsame.2.2] at hget
    rw [hsame.2.1]
    have hheld := hs.held agentID entry hget
    exact ⟨hheld.1, hextends.read hheld.2⟩
  | invalidate version =>
    cases ok with
    | false => exact ⟨hs.timed, hs.held⟩
    | true =>
      refine ⟨hs.timed.del, fun agentID entry hget => ?_⟩
      change (s.hash.del s.now op.agentID).get s.now agentID = _ at hget
      by_cases hagent : agentID = op.agentID
      · subst hagent
        rw [Lib.ExpiringHash.get_del_self] at hget
        cases hget
      · rw [Lib.ExpiringHash.get_del_of_ne hagent] at hget
        exact hs.held agentID entry hget
  | finish version =>
    refine ⟨hs.timed, fun agentID entry hget => ?_⟩
    have hheld := hs.held agentID entry hget
    refine ⟨?_, hheld.2⟩
    change Function.update s.settled op.agentID _ agentID ≤ entry.version
    by_cases hagent : agentID = op.agentID
    · subst hagent
      rw [Function.update_self]
      exact Nat.max_le.mpr ⟨hheld.1, careful_finish hcareful hop hphase entry hget⟩
    · rw [Function.update_of_ne hagent]
      exact hheld.1
  | returned => exact ⟨hs.timed, hs.held⟩

lemma Inv.operation (hs : Inv s) (hcareful : Careful s (.operation i ok)) :
    Inv (s.next (.operation i ok)) := by
  unfold State.next
  dsimp only
  cases hop : s.operations[i]? with
  | none => exact hs
  | some op =>
    obtain ⟨hlookups, hoperations, hnow⟩ := operationStep_frame s op ok
    have hextends := operationStep_extends s op ok
    have hhash := hs.operationStep_hash hop hcareful
    refine ⟨?_, hhash.2, hs.operationStep_settled hop, fun l hl => ?_, fun l hl => ?_,
      fun op' hop' => ?_⟩
    · dsimp only
      rw [hnow]
      exact hhash.1
    · change l ∈ (s.operationStep op ok op.phase).1.lookups at hl
      rw [hlookups] at hl
      exact Nat.le_trans (hs.floors l hl) (hextends.settled l.agentID)
    · change l ∈ (s.operationStep op ok op.phase).1.lookups at hl
      rw [hlookups] at hl
      exact hextends.sound (hs.lookups l hl)
    · change op' ∈ (s.operationStep op ok op.phase).1.operations.set i _ at hop'
      rw [hoperations] at hop'
      obtain hop' | rfl := List.mem_or_eq_of_mem_set hop'
      · exact hextends.made (hs.operations op' hop')
      · exact hs.operationStep_made hop

/-! ### Runs -/

/-- A careful event keeps the invariant. -/
theorem Inv.next (hs : Inv s) {e : Event} (hcareful : Careful s e) : Inv (s.next e) := by
  cases e with
  | resolve kind agentID =>
    -- The new lookup takes what is settled as its floor.
    exact {
      timed := hs.timed
      held := hs.held
      settled := hs.settled
      floors := fun l hl => by
        obtain hl | hl := List.mem_append.mp hl
        · exact hs.floors l hl
        · obtain rfl := List.mem_singleton.mp hl
          exact Nat.le_refl _
      lookups := fun l hl => by
        obtain hl | hl := List.mem_append.mp hl
        · exact hs.lookups l hl
        · rw [List.mem_singleton.mp hl]
          trivial
      operations := hs.operations }
  | call lifecycle agentID =>
    exact { hs with
      operations := fun op hop => by
        obtain hop | hop := List.mem_append.mp hop
        · exact hs.operations op hop
        · rw [List.mem_singleton.mp hop]
          trivial }
  | lookup i ok => exact hs.lookup hcareful
  | operation i ok => exact hs.operation hcareful
  | pass time =>
    refine { hs with timed := hs.timed.pass hcareful, held := fun agentID entry hget => ?_ }
    exact hs.held agentID entry (Lib.ExpiringHash.get_of_le (Nat.le_add_right _ _) hget)

/-- Where every operation returns with no older entry in the hash, no older entry is stored
afterwards, and the deadline of the hash counts from its only fill, lookups return no assignment
from before an operation, and no entry beyond the TTL. -/
theorem routed_of_careful (events : List Event) (h : Lib.Allowed State.next Careful {} events) :
    Lib.Always State.next Routed {} events := by
  have hrun {s : State} (hs : Inv s) {events : List Event}
      (h : Lib.Allowed State.next Careful s events) : Lib.Always State.next Routed s events := by
    induction events generalizing s with
    | nil => exact hs.routed
    | cons e events ih => exact ⟨hs.routed, ih (hs.next h.1) h.2⟩
  exact hrun inv_init h

/-! ### Three runs -/

/-- An agent is paired, and then its twin is looked up. -/
def pairedFirst : List Event :=
  [.call (.pairAgent "t1") "a", .operation 0 true, .operation 0 true, .operation 0 true,
    .resolve .resolveTopic "a", .lookup 0 true, .lookup 0 true, .lookup 0 true, .lookup 0 true]

/-- It is a careful run. -/
theorem routed_pairedFirst : Lib.Always State.next Routed {} pairedFirst := by
  refine routed_of_careful _ ⟨trivial, trivial, trivial, ?_, trivial, trivial, trivial, ?_, ?_,
    trivial⟩
  · exact fun entry hget => (nomatch hget)
  · exact fun _ => by decide
  · intro _ agentID entry hget
    by_cases hagent : agentID = "a"
    · subst hagent
      cases hget
      rfl
    · have hnone : Lib.ExpiringHash.get (Lib.ExpiringHash.set {} 0 "a" ⟨"t1", 0, 1⟩) 0 agentID =
          some entry := hget
      rw [Lib.ExpiringHash.get_set_of_ne hagent] at hnone
      cases hnone

/-- The twin of a paired agent is looked up twice: before the agent is retired, and afterwards. -/
def retiredBetween : List Event :=
  [.call (.pairAgent "t1") "a", .operation 0 true, .operation 0 true, .operation 0 true,
    .resolve .resolveTwinID "a", .lookup 0 true, .lookup 0 true, .lookup 0 true, .lookup 0 true,
    .call .retireAgent "a", .operation 1 true, .operation 1 true,
    .resolve .resolveTwinID "a", .lookup 1 true]

/-- Two agents are looked up, the second one four minutes after the first; then the first one
again, eight minutes after its entry was stored. -/
def filledInTurn : List Event :=
  [.call (.pairAgent "t1") "a", .operation 0 true, .operation 0 true, .operation 0 true,
    .resolve .resolveTopic "a", .lookup 0 true, .lookup 0 true, .lookup 0 true, .lookup 0 true,
    .pass (4 * 60 * 10 ^ 9),
    .resolve .resolveTopic "b", .lookup 1 true, .lookup 1 true, .lookup 1 true, .lookup 1 true,
    .pass (4 * 60 * 10 ^ 9),
    .resolve .resolveTopic "a", .lookup 2 true]

/-- The twin of a retired agent is returned, and a route that is older than the TTL. -/
theorem stale_routes :
    ¬ Lib.Always State.next Routed {} retiredBetween ∧
      ¬ Lib.Always State.next Routed {} filledInTurn := by
  constructor
  · intro halways
    have hlookup : (⟨.resolveTwinID, "a", 2, .returned "t1" 1 (some 0)⟩ : Lookup) ∈
        (retiredBetween.foldl State.next {}).lookups := by
      decide +kernel
    obtain hnone | ⟨version, hfloor, hassigned⟩ :=
      halways.foldl.current _ hlookup "t1" 1 (some 0) rfl
    · exact absurd hnone (by decide)
    · have hhistory : (retiredBetween.foldl State.next {}).history "a" =
          [none, some "t1", none] := by
        decide +kernel
      rw [hhistory] at hassigned
      -- From the last assignment on there is no twin.
      have hlast : version = 2 := by
        have hlt := (List.getElem?_eq_some_iff.mp hassigned).1
        change version < 3 at hlt
        change 2 ≤ version at hfloor
        omega
      subst hlast
      cases hassigned
  · intro halways
    have hlookup : (⟨.resolveTopic, "a", 1, .returned "t1" 1 (some (8 * 60 * 10 ^ 9))⟩ : Lookup) ∈
        (filledInTurn.foldl State.next {}).lookups := by
      decide +kernel
    have hfresh := halways.foldl.fresh _ hlookup "t1" 1 _ rfl
    exact absurd hfresh (by decide)

end Paryty.Twin.Routing

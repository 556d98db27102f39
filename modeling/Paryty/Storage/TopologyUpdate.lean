import Mathlib.Data.Int.Notation
import Mathlib.Data.List.Nodup
import Paryty.Lib.Run

/-!
# Optimistic updates of the topology

`UpdateTopology` of `cluster/internal/storage/hot/topology_ops.go`: WATCH, GET, the caller's
`mutate`, MULTI/EXEC, and the retries. Any number of calls for one tenant are interleaved command by
command.

* `State.next` is one command of a call and its reply. EXEC is refused when the topology key was
  written since the call's WATCH.
* `Serializable`: the store is what the committed calls leave when each of them runs alone, in the
  order of their commits.
* `serializable`: that holds after every run from keys that agree, as they do when both are absent.

The keys do not expire, and versions stay below `2 ^ 63`.
-/

namespace Paryty.Storage.TopologyUpdate

variable {ν ε δ : Type*}

/-! ## Data -/

/-- `models.Topology`. -/
structure Topology (ν ε : Type*) where
  nodes : List ν
  edges : List ε
  timestamp : ℤ
  version : ℕ
deriving DecidableEq

/-- The JSON text of a topology: its version, and the rest of the text. -/
structure Document (δ : Type*) where
  rest : δ
  version : ℕ
deriving DecidableEq

/-- `json.Marshal` and `json.Unmarshal`, on all but the version. -/
structure Codec (ν ε δ : Type*) where
  marshal : List ν → List ε → ℤ → Option δ
  unmarshal : δ → Option (List ν × List ε × ℤ)

/-- What an error wraps. -/
inductive Error
  | txFailed
  | nil
  | other
deriving DecidableEq

/-- `isRetryableError`. -/
def isRetryableError : Error → Bool
  | .txFailed | .nil => true
  | .other => false

/-- `topologyUpdateMaxRetries`. -/
def topologyUpdateMaxRetries : ℕ := 10

/-- The function that a caller passes. It gets a pointer, and `current.Version` is read after it has
returned; it is taken to leave that version alone. -/
abbrev Mutate (ν ε : Type*) := Topology ν ε → Except Error (Topology ν ε)

/-- The keys `topologyKey` and `topologyVersionKey`. -/
structure Store (δ : Type*) where
  topology : Option (Document δ) := none
  counter : Option ℕ := none
deriving DecidableEq

namespace Store

/-- The version that is stored with the topology. -/
def version (store : Store δ) : ℕ := (store.topology.map Document.version).getD 0

/-- The version counter. -/
def count (store : Store δ) : ℕ := store.counter.getD 0

/-- The commands between MULTI and EXEC: SET of the topology, INCR of the counter. -/
def exec (store : Store δ) (data : Document δ) : Store δ where
  topology := some data
  counter := some (store.count + 1)

@[simp] lemma topology_exec (store : Store δ) (data : Document δ) :
    (store.exec data).topology = some data := rfl

@[simp] lemma version_exec (store : Store δ) (data : Document δ) :
    (store.exec data).version = data.version := rfl

@[simp] lemma count_exec (store : Store δ) (data : Document δ) :
    (store.exec data).count = store.count + 1 := rfl

end Store

/-! ## One attempt -/

variable (codec : Codec ν ε δ)

/-- `getCurrentTopology`, with the reply to its GET. -/
def getCurrentTopology (now : ℤ) : Option (Document δ) → Except Error (Topology ν ε)
  | none => .ok ⟨[], [], now, 0⟩
  | some document =>
    match codec.unmarshal document.rest with
    | none => .error .other
    | some (nodes, edges, timestamp) => .ok ⟨nodes, edges, timestamp, document.version⟩

/-- The steps between GET and MULTI: what is to be stored. -/
def prepare (mutate : Mutate ν ε) (readAt writtenAt : ℤ) (found : Option (Document δ)) :
    Except Error (Document δ) :=
  match getCurrentTopology codec readAt found with
  | .error error => .error error
  | .ok current =>
    match mutate current with
    | .error error => .error error
    | .ok updated =>
      match codec.marshal updated.nodes updated.edges writtenAt with
      | none => .error .other
      | some rest => .ok ⟨rest, current.version + 1⟩

/-! ## Calls -/

/-- Where a call stands. -/
inductive Phase (δ : Type*)
  /-- WATCH of the topology key. -/
  | watch
  /-- GET. The WATCH saw this many writes of the key. -/
  | get (watched : ℕ)
  /-- EXEC. -/
  | exec (watched : ℕ) (readAt writtenAt : ℤ) (data : Document δ)
  /-- It waits before another attempt. -/
  | backoff
  /-- It has returned: whether without an error. -/
  | returned (ok : Bool)
deriving DecidableEq

/-- A call of `UpdateTopology`. -/
structure Call (ν ε δ : Type*) where
  mutate : Mutate ν ε
  attempt : ℕ := 0
  phase : Phase δ := .watch

/-- The transaction function has returned an error. -/
def Call.failed (call : Call ν ε δ) (error : Error) : Call ν ε δ :=
  if isRetryableError error ∧ call.attempt < topologyUpdateMaxRetries then
    { call with attempt := call.attempt + 1, phase := .backoff }
  else { call with phase := .returned false }

/-- An EXEC that was carried out: the call, its function, the clock at its reads and whether the
reply arrived. -/
structure Commit (ν ε : Type*) where
  call : ℕ
  mutate : Mutate ν ε
  readAt : ℤ
  writtenAt : ℤ
  answered : Bool

/-- What a call does to the store when no other one is under way. -/
def Commit.alone (commit : Commit ν ε) (store : Store δ) : Option (Store δ) :=
  match prepare codec commit.mutate commit.readAt commit.writtenAt store.topology with
  | .error _ => none
  | .ok data => some (store.exec data)

/-- The keys, how often the topology key was written, the calls and what they committed. -/
structure State (ν ε δ : Type*) where
  store : Store δ := {}
  writes : ℕ := 0
  calls : List (Call ν ε δ) := []
  log : List (Commit ν ε) := []

/-- The reply to an EXEC. -/
inductive Reply
  | answered
  /-- The caller gets an error; the command may have arrived. -/
  | failed (arrived : Bool)
deriving DecidableEq

/-- Whether the command arrived. -/
def Reply.arrived : Reply → Bool
  | .answered => true
  | .failed arrived => arrived

/-- What happens. -/
inductive Event (ν ε : Type*)
  /-- `UpdateTopology` is called. -/
  | updateTopology (mutate : Mutate ν ε)
  | watch (call : ℕ) (ok : Bool)
  /-- GET, and what follows up to MULTI. -/
  | get (call : ℕ) (ok : Bool) (readAt writtenAt : ℤ)
  | exec (call : ℕ) (reply : Reply)
  /-- The wait before another attempt ends. -/
  | backoff (call : ℕ) (cancelled : Bool)

namespace State

/-- The call is at its next command. -/
def setCall (s : State ν ε δ) (c : ℕ) (call : Call ν ε δ) : State ν ε δ :=
  { s with calls := s.calls.set c call }

/-- An EXEC that is carried out. -/
def commit (s : State ν ε δ) (c : ℕ) (mutate : Mutate ν ε) (readAt writtenAt : ℤ)
    (data : Document δ) (answered : Bool) : State ν ε δ :=
  { s with
    store := s.store.exec data
    writes := s.writes + 1
    log := s.log ++ [⟨c, mutate, readAt, writtenAt, answered⟩] }

/-- One event. -/
def next (s : State ν ε δ) : Event ν ε → State ν ε δ
  | .updateTopology mutate => { s with calls := s.calls ++ [{ mutate }] }
  | .watch c ok =>
    match s.calls[c]? with
    | some ⟨mutate, attempt, .watch⟩ =>
      s.setCall c ⟨mutate, attempt, if ok then .get s.writes else .returned false⟩
    | _ => s
  | .get c ok readAt writtenAt =>
    match s.calls[c]? with
    | some ⟨mutate, attempt, .get watched⟩ =>
      if ok then
        match prepare codec mutate readAt writtenAt s.store.topology with
        | .error error => s.setCall c (Call.failed ⟨mutate, attempt, .get watched⟩ error)
        | .ok data => s.setCall c ⟨mutate, attempt, .exec watched readAt writtenAt data⟩
      else s.setCall c ⟨mutate, attempt, .returned false⟩
    | _ => s
  | .exec c reply =>
    match s.calls[c]? with
    | some ⟨mutate, attempt, .exec watched readAt writtenAt data⟩ =>
      -- The watched key must not have been written since.
      if reply.arrived ∧ watched = s.writes then
        (s.commit c mutate readAt writtenAt data (reply = .answered)).setCall c
          ⟨mutate, attempt, .returned (reply = .answered)⟩
      else
        let error := if reply = .answered then Error.txFailed else .other
        s.setCall c (Call.failed ⟨mutate, attempt, .exec watched readAt writtenAt data⟩ error)
    | _ => s
  | .backoff c cancelled =>
    match s.calls[c]? with
    | some ⟨mutate, attempt, .backoff⟩ =>
      s.setCall c ⟨mutate, attempt, if cancelled then .returned false else .watch⟩
    | _ => s

end State

/-! ## Serializability -/

/-- The committed calls, each run alone, one after the other. -/
def sequentially (first : Store δ) (log : List (Commit ν ε)) : Option (Store δ) :=
  log.foldlM (fun store commit => commit.alone codec store) first

/-- After some events the calls look as if the committed ones had run one after the other. -/
structure Serializable (first : Store δ) (events : List (Event ν ε)) (s : State ν ε δ) :
    Prop where
  /-- The commits in their order leave what is stored. -/
  sequential : sequentially codec first s.log = some s.store
  /-- Each is of a call, with the function of that call. -/
  own : ∀ commit ∈ s.log, (s.calls[commit.call]?).map Call.mutate = some commit.mutate
  /-- No call commits twice. -/
  once : (s.log.map Commit.call).Nodup
  /-- The calls that succeeded are those that committed and learned it. -/
  successful : ∀ c, (s.calls[c]?).map Call.phase = some (.returned true) ↔
    ∃ commit ∈ s.log, commit.call = c ∧ commit.answered = true
  /-- The others are those for which the reply to EXEC was lost. -/
  unanswered : ∀ commit ∈ s.log, commit.answered = false →
    .exec commit.call (.failed true) ∈ events
  /-- Each commit raises the version by one and leaves it equal to the counter. -/
  version : ∀ before commit after, s.log = before ++ commit :: after →
    ∃ read written, sequentially codec first before = some read ∧
      commit.alone codec read = some written ∧
        written.version = read.version + 1 ∧ written.version = written.count

/-! ## The invariant -/

variable {codec} {first : Store δ} {s : State ν ε δ} {c : ℕ}

/-- What a call under way knows: it watched a write that was made, and if that was the last one,
then what it is about to store is right for what is stored now. -/
def Call.Current (codec : Codec ν ε δ) (s : State ν ε δ) (call : Call ν ε δ) : Prop :=
  match call.phase with
  | .get watched => watched ≤ s.writes
  | .exec watched readAt writtenAt data => watched ≤ s.writes ∧ (watched = s.writes →
      prepare codec call.mutate readAt writtenAt s.store.topology = .ok data)
  | _ => True

/-- The log, the store and the calls agree. -/
structure Consistent (codec : Codec ν ε δ) (first : Store δ) (s : State ν ε δ) : Prop where
  sequential : sequentially codec first s.log = some s.store
  current : ∀ (c : ℕ) (call : Call ν ε δ), s.calls[c]? = some call → call.Current codec s
  committed : ∀ commit ∈ s.log, ∃ call, s.calls[commit.call]? = some call ∧
    call.mutate = commit.mutate ∧ call.phase = .returned commit.answered
  succeeded : ∀ (c : ℕ) (call : Call ν ε δ), s.calls[c]? = some call → call.phase = .returned true →
    ∃ commit ∈ s.log, commit.call = c ∧ commit.answered = true
  once : (s.log.map Commit.call).Nodup

/-- The call has not returned. -/
def Call.Open (call : Call ν ε δ) : Prop := ∀ ok, call.phase ≠ .returned ok

lemma Call.current_failed (call : Call ν ε δ) (error : Error) :
    (call.failed error).Current codec s := by
  unfold Call.failed
  split <;> trivial

lemma Call.failed_phase (call : Call ν ε δ) (error : Error) :
    (call.failed error).phase ≠ .returned true := by
  unfold Call.failed
  split <;> simp

lemma call_of_updateTopology {mutate : Mutate ν ε} {call : Call ν ε δ}
    (hcall : (s.next codec (.updateTopology mutate)).calls[c]? = some call) :
    s.calls[c]? = some call ∨ call.phase = .watch := by
  by_cases hold : c < s.calls.length
  · left
    rwa [State.next, List.getElem?_append_left hold] at hcall
  · right
    rw [State.next, List.getElem?_append_right (by omega), List.getElem?_singleton] at hcall
    split at hcall
    · cases hcall
      rfl
    · cases hcall

namespace Consistent

lemma init : Consistent codec first ({ store := first } : State ν ε δ) where
  sequential := rfl
  current := fun c call hcall => by simp at hcall
  committed := fun commit hmem => absurd hmem List.not_mem_nil
  succeeded := fun c call hcall => by simp at hcall
  once := List.nodup_nil

lemma ne_of_open (h : Consistent codec first s) {call : Call ν ε δ}
    (hcall : s.calls[c]? = some call) (hopen : call.Open) {commit : Commit ν ε} (hmem : commit ∈ s.log) : commit.call ≠ c := by
  rintro rfl
  obtain ⟨call', hcall', -, hphase⟩ := h.committed commit hmem
  rw [hcall] at hcall'
  cases hcall'
  exact hopen _ hphase

lemma updateTopology (h : Consistent codec first s) (mutate : Mutate ν ε) :
    Consistent codec first (s.next codec (.updateTopology mutate)) where
  sequential := h.sequential
  current := by
    intro c call hcall
    rcases call_of_updateTopology hcall with hold | hphase
    · exact h.current c call hold
    · simp [Call.Current, hphase]
  committed := by
    intro commit hmem
    obtain ⟨call, hcall, hrest⟩ := h.committed commit hmem
    have hold : commit.call < s.calls.length := (List.getElem?_eq_some_iff.mp hcall).1
    exact ⟨call, by rwa [State.next, List.getElem?_append_left hold], hrest⟩
  succeeded := by
    intro c call hcall hreturned
    rcases call_of_updateTopology hcall with hold | hphase
    · exact h.succeeded c call hold hreturned
    · rw [hphase] at hreturned
      cases hreturned
  once := h.once

lemma setCall (h : Consistent codec first s) {call call' : Call ν ε δ}
    (hcall : s.calls[c]? = some call) (hopen : call.Open)
    (hcurrent : call'.Current codec s) (hphase : call'.phase ≠ .returned true) :
    Consistent codec first (s.setCall c call') where
  sequential := h.sequential
  current := by
    intro d call'' hd
    by_cases hdc : d = c
    · subst hdc
      have hlt : d < s.calls.length := (List.getElem?_eq_some_iff.mp hcall).1
      rw [State.setCall, List.getElem?_set_self hlt] at hd
      cases hd
      exact hcurrent
    · rw [State.setCall, List.getElem?_set_ne (Ne.symm hdc)] at hd
      exact h.current d call'' hd
  committed := by
    intro commit hmem
    obtain ⟨call'', hcall'', hrest⟩ := h.committed commit hmem
    refine ⟨call'', ?_, hrest⟩
    rwa [State.setCall, List.getElem?_set_ne (h.ne_of_open hcall hopen hmem).symm]
  succeeded := by
    intro d call'' hd hreturned
    by_cases hdc : d = c
    · subst hdc
      have hlt : d < s.calls.length := (List.getElem?_eq_some_iff.mp hcall).1
      rw [State.setCall, List.getElem?_set_self hlt] at hd
      cases hd
      exact absurd hreturned hphase
    · rw [State.setCall, List.getElem?_set_ne (Ne.symm hdc)] at hd
      exact h.succeeded d call'' hd hreturned
  once := h.once

lemma commit (h : Consistent codec first s) {mutate : Mutate ν ε} {attempt : ℕ}
    {readAt writtenAt : ℤ} {data : Document δ} (answered : Bool)
    (hcall : s.calls[c]? = some ⟨mutate, attempt, .exec s.writes readAt writtenAt data⟩) :
    Consistent codec first ((s.commit c mutate readAt writtenAt data answered).setCall c
      ⟨mutate, attempt, .returned answered⟩) := by
  have hopen :
      Call.Open (⟨mutate, attempt, .exec s.writes readAt writtenAt data⟩ : Call ν ε δ) := by
    intro ok hphase
    cases hphase
  have hlt : c < s.calls.length := (List.getElem?_eq_some_iff.mp hcall).1
  have hdata : prepare codec mutate readAt writtenAt s.store.topology = .ok data :=
    (h.current c _ hcall).2 rfl
  constructor
  case sequential =>
    have halone : Commit.alone codec ⟨c, mutate, readAt, writtenAt, answered⟩ s.store =
        some (s.store.exec data) := by
      simp only [Commit.alone, hdata]
    have hlog := h.sequential
    unfold sequentially at hlog ⊢
    simp only [State.setCall, State.commit, List.foldlM_append, hlog]
    simpa using halone
  case current =>
    intro d call hd
    by_cases hdc : d = c
    · subst hdc
      rw [State.setCall, State.commit, List.getElem?_set_self hlt] at hd
      cases hd
      trivial
    · rw [State.setCall, State.commit, List.getElem?_set_ne (Ne.symm hdc)] at hd
      have hcurrent := h.current d call hd
      -- Whoever watched before has now watched a write that is not the last one.
      unfold Call.Current at hcurrent ⊢
      split
      · next watched hphase =>
        rw [hphase] at hcurrent
        exact Nat.le_succ_of_le hcurrent
      · next watched _ _ _ hphase =>
        rw [hphase] at hcurrent
        have hle : watched ≤ s.writes := hcurrent.1
        refine ⟨Nat.le_succ_of_le hle, fun heq => ?_⟩
        exact absurd heq (Nat.ne_of_lt (Nat.lt_succ_of_le hle))
      · trivial
  case committed =>
    intro commit hmem
    rcases List.mem_append.mp hmem with hold | hnew
    · obtain ⟨call, hcall', hrest⟩ := h.committed commit hold
      refine ⟨call, ?_, hrest⟩
      rwa [State.setCall, List.getElem?_set_ne (h.ne_of_open hcall hopen hold).symm]
    · obtain rfl := List.mem_singleton.mp hnew
      exact ⟨_, by rw [State.setCall]; exact List.getElem?_set_self hlt, rfl, rfl⟩
  case succeeded =>
    intro d call hd hreturned
    by_cases hdc : d = c
    · subst hdc
      rw [State.setCall, State.commit, List.getElem?_set_self hlt] at hd
      cases hd
      refine ⟨_, List.mem_append_right _ (List.mem_singleton_self _), rfl, ?_⟩
      simpa using hreturned
    · rw [State.setCall, State.commit, List.getElem?_set_ne (Ne.symm hdc)] at hd
      obtain ⟨commit, hmem, hrest⟩ := h.succeeded d call hd hreturned
      exact ⟨commit, List.mem_append_left _ hmem, hrest⟩
  case once =>
    have hnew : c ∉ s.log.map Commit.call := by
      intro hmem
      obtain ⟨commit, hmem, heq⟩ := List.mem_map.mp hmem
      exact h.ne_of_open hcall hopen hmem heq
    simp only [State.setCall, State.commit, List.map_append, List.map_cons, List.map_nil]
    exact List.nodup_append.mpr ⟨h.once, List.nodup_singleton _, by
      intro a ha b hb
      rw [List.mem_singleton.mp hb]
      rintro rfl
      exact hnew ha⟩

lemma next (h : Consistent codec first s) (e : Event ν ε) :
    Consistent codec first (s.next codec e) := by
  cases e with
  | updateTopology mutate => exact h.updateTopology mutate
  | watch c ok =>
    unfold State.next
    dsimp only
    split
    · next mutate attempt hcall =>
      refine h.setCall hcall (by intro ok hphase; cases hphase) ?_ ?_
      · cases ok with
        | true => exact Nat.le_refl s.writes
        | false => trivial
      · cases ok <;> simp
    · exact h
  | get c ok readAt writtenAt =>
    unfold State.next
    dsimp only
    split
    · next mutate attempt watched hcall =>
      have hopen : Call.Open (⟨mutate, attempt, .get watched⟩ : Call ν ε δ) := by
        intro ok hphase
        cases hphase
      -- If it is read after a later write, the commit will notice.
      have hwatched : watched ≤ s.writes := h.current c _ hcall
      split
      · split
        · next error _ =>
          exact h.setCall hcall hopen (Call.current_failed _ error) (Call.failed_phase _ error)
        · next data hdata => exact h.setCall hcall hopen ⟨hwatched, fun _ => hdata⟩ (by simp)
      · exact h.setCall hcall hopen trivial (by simp)
    · exact h
  | exec c reply =>
    unfold State.next
    dsimp only
    split
    · next mutate attempt watched readAt writtenAt data hcall =>
      split
      · next hcommit =>
        -- Nothing was written since the watch, so what was read is still stored.
        rw [hcommit.2] at hcall
        exact h.commit _ hcall
      · exact h.setCall hcall (by intro ok hphase; cases hphase) (Call.current_failed _ _)
          (Call.failed_phase _ _)
    · exact h
  | backoff c cancelled =>
    unfold State.next
    dsimp only
    split
    · next mutate attempt hcall =>
      refine h.setCall hcall (by intro ok hphase; cases hphase) ?_ ?_
      · cases cancelled <;> trivial
      · cases cancelled <;> simp
    · exact h

lemma run (events : List (Event ν ε)) :
    Consistent codec first
      (events.foldl (State.next codec) ({ store := first } : State ν ε δ)) := by
  induction events using List.reverseRecOn with
  | nil => exact init
  | append_singleton events e ih =>
    rw [List.foldl_append]
    exact ih.next e

end Consistent

/-! ## Versions -/

lemma Commit.versions_alone {commit : Commit ν ε} {store store' : Store δ}
    (h : commit.alone codec store = some store') :
    store'.version = store.version + 1 ∧ store'.count = store.count + 1 := by
  unfold Commit.alone at h
  split at h
  · cases h
  · next data hdata =>
    cases h
    refine ⟨?_, rfl⟩
    rw [Store.version_exec, Store.version]
    unfold prepare at hdata
    split at hdata
    · cases hdata
    · next current hcurrent =>
      have hversion : current.version = (store.topology.map Document.version).getD 0 := by
        unfold getCurrentTopology at hcurrent
        split at hcurrent
        · next hnone =>
          cases hcurrent
          rw [hnone]
          rfl
        · next document hsome =>
          split at hcurrent
          · cases hcurrent
          · cases hcurrent
            rw [hsome]
            rfl
      split at hdata
      · cases hdata
      · split at hdata
        · cases hdata
        · cases hdata
          rw [← hversion]

lemma versions_sequentially {log : List (Commit ν ε)} {store : Store δ}
    (h : sequentially codec first log = some store) :
    store.version = first.version + log.length ∧ store.count = first.count + log.length := by
  induction log using List.reverseRecOn generalizing store with
  | nil =>
    cases h
    exact ⟨rfl, rfl⟩
  | append_singleton log commit ih =>
    unfold sequentially at h
    rw [List.foldlM_append] at h
    obtain ⟨read, hread, hlast⟩ := Option.bind_eq_some_iff.mp h
    obtain ⟨hversion, hcount⟩ := ih hread
    obtain ⟨hversion', hcount'⟩ := Commit.versions_alone (by simpa using hlast)
    rw [List.length_append, List.length_singleton]
    omega

lemma version_of_sequentially (hfirst : first.version = first.count)
    {before after : List (Commit ν ε)} {commit : Commit ν ε} {store : Store δ}
    (h : sequentially codec first (before ++ commit :: after) = some store) :
    ∃ read written, sequentially codec first before = some read ∧
      commit.alone codec read = some written ∧
        written.version = read.version + 1 ∧ written.version = written.count := by
  unfold sequentially at h
  rw [List.foldlM_append] at h
  obtain ⟨read, hread, hrest⟩ := Option.bind_eq_some_iff.mp h
  rw [List.foldlM_cons] at hrest
  obtain ⟨written, hwritten, -⟩ := Option.bind_eq_some_iff.mp hrest
  have hbefore := versions_sequentially hread
  have halone := Commit.versions_alone hwritten
  exact ⟨read, written, hread, hwritten, halone.1, by omega⟩

/-! ## Lost replies -/

lemma log_next (e : Event ν ε) {commit : Commit ν ε} (hmem : commit ∈ (s.next codec e).log) :
    commit ∈ s.log ∨ ∃ reply, e = .exec commit.call reply ∧ reply.arrived = true ∧
      commit.answered = decide (reply = .answered) := by
  cases e with
  | updateTopology => exact .inl hmem
  | watch c ok =>
    unfold State.next at hmem
    dsimp only at hmem
    split at hmem <;> exact .inl hmem
  | get c ok readAt writtenAt =>
    unfold State.next at hmem
    dsimp only at hmem
    split at hmem
    · split at hmem
      · split at hmem <;> exact .inl hmem
      · exact .inl hmem
    · exact .inl hmem
  | exec c reply =>
    unfold State.next at hmem
    dsimp only at hmem
    split at hmem
    · split at hmem
      · next harrived =>
        rcases List.mem_append.mp hmem with hold | hnew
        · exact .inl hold
        · obtain rfl := List.mem_singleton.mp hnew
          exact .inr ⟨reply, rfl, harrived.1, rfl⟩
      · exact .inl hmem
    · exact .inl hmem
  | backoff c cancelled =>
    unfold State.next at hmem
    dsimp only at hmem
    split at hmem <;> exact .inl hmem

lemma exec_of_unanswered (events : List (Event ν ε)) {commit : Commit ν ε}
    (hmem : commit ∈ (events.foldl (State.next codec) ({ store := first } : State ν ε δ)).log)
    (hunanswered : commit.answered = false) : .exec commit.call (.failed true) ∈ events := by
  induction events using List.reverseRecOn with
  | nil => exact absurd hmem List.not_mem_nil
  | append_singleton events e ih =>
    rw [List.foldl_append] at hmem
    rcases log_next e hmem with hold | ⟨reply, rfl, harrived, hanswered⟩
    · exact List.mem_append_left _ (ih hold)
    · rw [hunanswered] at hanswered
      cases reply with
      | answered => simp at hanswered
      | failed arrived =>
        obtain rfl : arrived = true := harrived
        exact List.mem_append_right _ (List.mem_singleton_self _)

variable (codec)

/-- **Updates are serializable.** For any calls of `UpdateTopology`, from keys that agree, with their
commands in any order and any of them failing: the committed calls leave what they would leave one
after the other, each successful call is one of them, and each of them raises the stored version by
one, to the value of the counter. -/
theorem serializable (first : Store δ) (hfirst : first.version = first.count)
    (events : List (Event ν ε)) : Serializable codec first events
      (events.foldl (State.next codec) ({ store := first } : State ν ε δ)) := by
  have h : Consistent codec first
      (events.foldl (State.next codec) ({ store := first } : State ν ε δ)) := .run events
  constructor
  case sequential => exact h.sequential
  case own =>
    intro commit hmem
    obtain ⟨call, hcall, hmutate, -⟩ := h.committed commit hmem
    rw [hcall, Option.map_some, hmutate]
  case once => exact h.once
  case successful =>
    intro c
    constructor
    · intro hphase
      obtain ⟨call, hcall, hreturned⟩ := Option.map_eq_some_iff.mp hphase
      exact h.succeeded c call hcall hreturned
    · rintro ⟨commit, hmem, rfl, hanswered⟩
      obtain ⟨call, hcall, -, hphase⟩ := h.committed commit hmem
      rw [hcall, Option.map_some, hphase, hanswered]
  case unanswered => exact fun commit hmem => exec_of_unanswered events hmem
  case version =>
    intro before commit after hlog
    exact version_of_sequentially hfirst (hlog ▸ h.sequential)

/-- Nodes and edges as they are. -/
def plain : Codec String String (List String × List String × ℤ) where
  marshal nodes edges timestamp := some (nodes, edges, timestamp)
  unmarshal := some

/-- A node is added. -/
def addNode (node : String) : Mutate String String :=
  fun current => .ok { current with nodes := current.nodes ++ [node] }

/-- Two calls watch and read at the same time; the second commits first, and the first tries
again. -/
def conflict : List (Event String String) :=
  [.updateTopology (addNode "web"), .updateTopology (addNode "db"), .watch 0 true, .watch 1 true,
    .get 0 true 1 2, .get 1 true 1 2, .exec 1 .answered, .exec 0 .answered, .backoff 0 false,
    .watch 0 true, .get 0 true 3 4, .exec 0 .answered]

/-- The seventh version of a topology. -/
def seventh : Store (List String × List String × ℤ) where
  topology := some ⟨(["lb"], [], 0), 7⟩
  counter := some 7

theorem serializable_conflict :
    (conflict.foldl (State.next plain) { store := seventh }).store =
        { topology := some ⟨(["lb", "db", "web"], [], 4), 9⟩, counter := some 9 } ∧
      Serializable plain seventh conflict
        (conflict.foldl (State.next plain) { store := seventh }) :=
  ⟨rfl, serializable plain seventh rfl conflict⟩

end Paryty.Storage.TopologyUpdate

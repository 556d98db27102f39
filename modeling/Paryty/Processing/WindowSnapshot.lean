import Mathlib.Data.List.Perm.Subperm
import Paryty.Lib.Codec
import Paryty.Lib.Run
import Paryty.Processing.Window

/-!
# Stored windows

`Snapshot` and `Restore` of `cluster/internal/processing/window.go`, for a manager with a client. A
manager without a window that is open stores nothing and reports success, and a restored window takes
the place of the one that is held under its key.

* `Survives`: what the last successful snapshot found open is what a fresh manager restores.
* `Merged`: the last `Restore` kept what the manager held.
* `survives_iff`: the runs in which both hold throughout.
-/

namespace Paryty.Processing

/-- `WindowState`. -/
structure WindowState where
  key : WindowKey
  values : List ℚ
  count : ℕ
  sum : ℚ
  min : ℚ
  max : ℚ
  firstSeen : Time
  lastSeen : Time
deriving DecidableEq

/-- What is stored of a window. -/
def WindowBuffer.toState (buf : WindowBuffer) : WindowState where
  key := buf.key
  values := buf.values
  count := buf.count
  sum := buf.sum
  min := buf.min
  max := buf.max
  firstSeen := buf.firstSeen
  lastSeen := buf.lastSeen

/-- The buffer that `Restore` makes of a stored window. -/
def WindowState.toBuffer (state : WindowState) : WindowBuffer where
  key := state.key
  values := state.values
  count := state.count
  sum := state.sum
  min := state.min
  max := state.max
  firstSeen := state.firstSeen
  lastSeen := state.lastSeen

/-- The window ended more than twice its size ago. -/
def WindowKey.staleAt (key : WindowKey) (now : Time) : Bool :=
  decide (now - windowEnd key.windowStart key.windowSize > 2 * key.windowSize)

/-- What a client's `Set` does. It can report an error after the value was stored. -/
inductive SetReply
  | ok
  | failed (stored : Bool)
deriving DecidableEq

namespace WindowStateManager

variable {β γ : Type*}

/-- The windows that are not closed. -/
def openWindows (wm : WindowStateManager) : List WindowBuffer :=
  wm.windows.rows.filter fun buf => !buf.closed

/-- `collectOpenStates`. -/
def collectOpenStates (wm : WindowStateManager) : List WindowState :=
  wm.openWindows.map WindowBuffer.toState

/-- `Snapshot`, and what is then stored under `snapshotKey`. -/
def snapshot (codec : Lib.Codec (List WindowState) β γ) (wm : WindowStateManager) (reply : SetReply)
    (stored : Option γ) : Except String Unit × Option γ :=
  if wm.collectOpenStates.length = 0 then (.ok (), stored)
  else
    match codec.marshal wm.collectOpenStates with
    | none => (.error "marshal window states", stored)
    | some jsonData =>
      match codec.compress jsonData with
      | none => (.error "compress window snapshot", stored)
      | some compressed =>
        match reply with
        | .ok => (.ok (), some compressed)
        | .failed true => (.error "store window snapshot", some compressed)
        | .failed false => (.error "store window snapshot", stored)

/-- The loop of `Restore`. The clock is read for each window. -/
def restoreStates (wm : WindowStateManager) (clock : WindowKey → Time)
    (states : List WindowState) : WindowStateManager :=
  { wm with
    windows := ((states.filter fun state => !state.key.staleAt (clock state.key)).map
      WindowState.toBuffer).foldl Lib.Table.put wm.windows }

/-- `Restore`, with the reply to `Get`: an error, nothing, or what is stored. -/
def restore (codec : Lib.Codec (List WindowState) β γ) (wm : WindowStateManager)
    (clock : WindowKey → Time) : Except Unit (Option γ) → Except String WindowStateManager
  | .error _ => .error "get window snapshot"
  | .ok none => .ok wm
  | .ok (some compressed) =>
    match codec.decompress compressed with
    | none => .error "decompress window snapshot"
    | some jsonData =>
      match codec.unmarshal jsonData with
      | none => .error "unmarshal window states"
      | some states => .ok (wm.restoreStates clock states)

end WindowStateManager

namespace WindowSnapshot

variable {β γ : Type*}

/-! ## Runs -/

/-- A manager with what its client stores. -/
structure State (γ : Type*) where
  manager : WindowStateManager
  /-- Under `snapshotKey`. -/
  stored : Option γ := none
  /-- The windows that were open at the last `Snapshot`, if it succeeded. -/
  taken : Option (List WindowBuffer) := none
  /-- What the manager held before the last event, if that was a `Restore`. -/
  held : List WindowBuffer := []

/-- A call, or a restart of the process. -/
inductive Event
  | addValue (ctx : Ctx) (agentID metricName : String) (value : ℚ) (ts : Time)
  | getClosedWindows (ctx : Ctx) (now : Time)
  | purgeClosed
  | purgeStale (maxAge : Duration) (now : Time)
  | snapshot (reply : SetReply)
  | restore (getFails : Bool) (clock : WindowKey → Time)
  | restart (cfg : WindowManagerConfig)

/-- `Snapshot`. After one that failed but stored its data, no earlier one is the last that
succeeded. -/
def State.snapshot (codec : Lib.Codec (List WindowState) β γ) (s : State γ) (reply : SetReply) :
    State γ :=
  let outcome := s.manager.snapshot codec reply s.stored
  { s with
    stored := outcome.2
    taken :=
      match outcome.1 with
      | .ok _ => some s.manager.openWindows
      | .error message =>
        if message = "store window snapshot" ∧ reply = .failed true then none else s.taken
    held := [] }

/-- `Restore`. -/
def State.restore (codec : Lib.Codec (List WindowState) β γ) (s : State γ) (getFails : Bool)
    (clock : WindowKey → Time) : State γ :=
  let reply := if getFails then .error () else .ok s.stored
  { s with
    manager :=
      match s.manager.restore codec clock reply with
      | .ok manager => manager
      | .error _ => s.manager
    held := s.manager.windows.rows }

/-- One event. -/
def State.next (codec : Lib.Codec (List WindowState) β γ) (s : State γ) : Event → State γ
  | .addValue ctx agentID metricName value ts =>
    { s with
      manager :=
        match s.manager.addValue ctx agentID metricName value ts with
        | some (_, manager) => manager
        | none => s.manager
      held := [] }
  | .getClosedWindows ctx now =>
    { s with manager := (s.manager.getClosedWindows ctx now).2.2, held := [] }
  | .purgeClosed => { s with manager := s.manager.purgeClosed, held := [] }
  | .purgeStale maxAge now => { s with manager := s.manager.purgeStale maxAge now, held := [] }
  | .snapshot reply => s.snapshot codec reply
  | .restore getFails clock => s.restore codec getFails clock
  | .restart cfg => { s with manager := NewWindowStateManager cfg, held := [] }

/-! ## The property -/

/-- A fresh manager restores the windows, less those that are stale by then. -/
def Restores (codec : Lib.Codec (List WindowState) β γ) (stored : Option γ)
    (windows : List WindowBuffer) : Prop :=
  ∀ cfg clock, ∃ wm,
    (NewWindowStateManager cfg).restore codec clock (.ok stored) = .ok wm ∧
      wm.windows.rows.Perm (windows.filter fun buf => !buf.key.staleAt (clock buf.key))

/-- The last snapshot, if it succeeded, is what a fresh manager restores. -/
def Survives (codec : Lib.Codec (List WindowState) β γ) (s : State γ) : Prop :=
  ∀ windows, s.taken = some windows → Restores codec s.stored windows

/-- Each window is still there with all its values. -/
def Merged (before : List WindowBuffer) (after : Windows) : Prop :=
  ∀ buf ∈ before, ∃ buf' ∈ after,
    buf'.key = buf.key ∧ buf.values.Subperm buf'.values ∧ buf.count ≤ buf'.count

/-- Both. -/
def Durable (codec : Lib.Codec (List WindowState) β γ) (s : State γ) : Prop :=
  Survives codec s ∧ Merged s.held s.manager.windows

/-- A stored window that is not stale takes the place of none that has values it lacks. -/
def Covers (clock : WindowKey → Time) (states : List WindowState) (wm : WindowStateManager) : Prop :=
  ∀ buf ∈ wm.windows, ∀ state ∈ states, state.key = buf.key →
    state.key.staleAt (clock state.key) = false →
      buf.values.Subperm state.values ∧ buf.count ≤ state.count

/-- Without open windows there is no snapshot unless none is stored, and what is restored covers what
is held. -/
def Careful (codec : Lib.Codec (List WindowState) β γ) (s : State γ) : Event → Prop
  | .snapshot _ => s.manager.openWindows = [] → s.stored = none
  | .restore false clock =>
    ∀ stored states, s.stored = some stored → codec.decode stored = some states →
      Covers clock states s.manager
  | _ => True

/-! ## Restored windows -/

variable {codec : Lib.Codec (List WindowState) β γ} {wm : WindowStateManager}
  {clock : WindowKey → Time} {states : List WindowState}

lemma toBuffer_toState {buf : WindowBuffer} (h : buf.closed = false) :
    buf.toState.toBuffer = buf := by
  cases buf
  cases h
  rfl

/-- The buffers of the stored windows that are not stale. -/
def fresh (clock : WindowKey → Time) (states : List WindowState) : List WindowBuffer :=
  (states.filter fun state => !state.key.staleAt (clock state.key)).map WindowState.toBuffer

lemma mem_fresh {buf : WindowBuffer} : buf ∈ fresh clock states ↔
    ∃ state ∈ states, state.key.staleAt (clock state.key) = false ∧ state.toBuffer = buf := by
  simp [fresh, and_assoc]

lemma nodup_fresh (h : (states.map WindowState.key).Nodup) :
    ((fresh clock states).map WindowBuffer.key).Nodup := by
  have hkeys : (fresh clock states).map WindowBuffer.key =
      (states.filter fun state => !state.key.staleAt (clock state.key)).map WindowState.key := by
    rw [fresh, List.map_map]
    rfl
  rw [hkeys]
  exact (List.filter_sublist.map _).nodup h

lemma fresh_collectOpenStates (wm : WindowStateManager) : fresh clock wm.collectOpenStates =
    wm.openWindows.filter fun buf => !buf.key.staleAt (clock buf.key) := by
  rw [fresh, WindowStateManager.collectOpenStates, List.filter_map, List.map_map]
  refine (List.map_congr_left fun buf hbuf => ?_).trans (List.map_id _)
  have hopen : buf ∈ wm.openWindows := List.mem_of_mem_filter hbuf
  exact toBuffer_toState (by simpa using (List.mem_filter.mp hopen).2)

lemma nodup_collectOpenStates (wm : WindowStateManager) :
    (wm.collectOpenStates.map WindowState.key).Nodup := by
  rw [WindowStateManager.collectOpenStates, List.map_map]
  exact (List.filter_sublist.map _).nodup wm.windows.nodup

lemma find?_restoreStates (h : (states.map WindowState.key).Nodup) (key : WindowKey) :
    (wm.restoreStates clock states).windows.find? key =
      ((fresh clock states).find? fun buf => buf.key = key).or (wm.windows.find? key) := by
  rw [← Lib.Table.find?_foldl_put _ (nodup_fresh h), List.foldl_map]
  rfl

lemma merged_restoreStates_iff (h : (states.map WindowState.key).Nodup) :
    Merged wm.windows.rows (wm.restoreStates clock states).windows ↔ Covers clock states wm := by
  constructor
  · intro hmerged buf hbuf state hstate hkey hfresh
    obtain ⟨buf', hbuf', hkey', hvalues, hcount⟩ := hmerged buf hbuf
    have hfind : (wm.restoreStates clock states).windows.find? buf.key = some state.toBuffer := by
      rw [find?_restoreStates h]
      have hmem : state.toBuffer ∈ fresh clock states := mem_fresh.mpr ⟨state, hstate, hfresh, rfl⟩
      have hfirst : (fresh clock states).find? (fun buf' => buf'.key = buf.key) =
          some state.toBuffer :=
        (Lib.Table.find?_eq_some (t := ⟨_, nodup_fresh h⟩)).mpr ⟨hmem, hkey⟩
      rw [hfirst, Option.some_or]
    have hsame : some buf' = some state.toBuffer :=
      (Lib.Table.find?_eq_some.mpr ⟨hbuf', hkey'⟩).symm.trans hfind
    -- The window under the key is the stored one.
    obtain rfl := Option.some.inj hsame
    exact ⟨hvalues, hcount⟩
  · intro hcovers buf hbuf
    have hheld : wm.windows.find? buf.key = some buf :=
      Lib.Table.find?_eq_some.mpr ⟨hbuf, rfl⟩
    cases hfirst : (fresh clock states).find? (fun buf' => buf'.key = buf.key) with
    | none =>
      -- No stored window takes its place.
      have hfind : (wm.restoreStates clock states).windows.find? buf.key = some buf := by
        rw [find?_restoreStates h, hfirst, Option.none_or, hheld]
      exact ⟨buf, (Lib.Table.find?_eq_some.mp hfind).1, rfl, .refl _, Nat.le_refl _⟩
    | some buf' =>
      have hfind : (wm.restoreStates clock states).windows.find? buf.key = some buf' := by
        rw [find?_restoreStates h, hfirst, Option.some_or]
      obtain ⟨hmem, hkey⟩ := Lib.Table.find?_eq_some.mp hfind
      obtain ⟨state, hstate, hfresh, rfl⟩ := mem_fresh.mp (List.mem_of_find?_eq_some hfirst)
      obtain ⟨hvalues, hcount⟩ := hcovers buf hbuf state hstate hkey hfresh
      exact ⟨state.toBuffer, hmem, hkey, hvalues, hcount⟩

lemma merged_refl (windows : Windows) : Merged windows.rows windows :=
  fun buf hbuf => ⟨buf, hbuf, rfl, .refl _, Nat.le_refl _⟩

lemma merged_nil (windows : Windows) : Merged [] windows := List.forall_mem_nil _

/-! ## What is stored -/

lemma restore_of_decode {stored : γ} (h : codec.decode stored = some states)
    (wm : WindowStateManager) :
    wm.restore codec clock (.ok (some stored)) = .ok (wm.restoreStates clock states) := by
  obtain ⟨jsonData, hjson, hstates⟩ := Option.bind_eq_some_iff.mp h
  simp only [WindowStateManager.restore, hjson, hstates]

lemma restores_of_decode {stored : γ} (h : codec.decode stored = some wm.collectOpenStates) :
    Restores codec (some stored) wm.openWindows := by
  intro cfg clock
  refine ⟨_, restore_of_decode h _, ?_⟩
  rw [← fresh_collectOpenStates]
  exact Lib.Table.perm_rows_ofList (nodup_fresh (nodup_collectOpenStates wm))

lemma exists_not_staleAt (key : WindowKey) : ∃ now, key.staleAt now = false := by
  refine ⟨windowEnd key.windowStart key.windowSize + 2 * key.windowSize, ?_⟩
  unfold WindowKey.staleAt
  rw [decide_eq_false_iff_not, add_sub_cancel_left]
  exact lt_irrefl _

/-- What is stored, if anything, are windows, each once. -/
def Stored (codec : Lib.Codec (List WindowState) β γ) (s : State γ) : Prop :=
  ∀ stored, s.stored = some stored → ∃ states,
    codec.decode stored = some states ∧ states ≠ [] ∧ (states.map WindowState.key).Nodup

lemma restores_nil_iff {s : State γ} (hstored : Stored codec s) :
    Restores codec s.stored [] ↔ s.stored = none := by
  constructor
  · intro hrestores
    by_contra hsome
    obtain ⟨stored, hs⟩ := Option.ne_none_iff_exists'.mp hsome
    obtain ⟨states, hdecode, hne, hnodup⟩ := hstored stored hs
    -- Something is stored: it comes back at a time when it is not stale.
    obtain ⟨state, hstate⟩ := List.exists_mem_of_ne_nil states hne
    obtain ⟨now, hfresh⟩ := exists_not_staleAt state.key
    obtain ⟨wm, hwm, hperm⟩ := hrestores ⟨0, []⟩ fun _ => now
    rw [hs, restore_of_decode hdecode] at hwm
    obtain rfl := Except.ok.inj hwm
    have hmem : state.toBuffer ∈ fresh (fun _ => now) states :=
      mem_fresh.mpr ⟨state, hstate, hfresh, rfl⟩
    have hrows : (fresh (fun _ => now) states).Perm
        (Lib.Table.ofList (fresh (fun _ => now) states) : Windows).rows :=
      (Lib.Table.perm_rows_ofList (nodup_fresh hnodup)).symm
    have hnil : state.toBuffer ∈ ([] : List WindowBuffer) := (hrows.trans hperm).subset hmem
    exact absurd hnil List.not_mem_nil
  · intro hnone cfg clock
    rw [hnone]
    exact ⟨NewWindowStateManager cfg, rfl, .refl _⟩

/-! ## One event -/

variable {s : State γ}

/-- The outcomes of `Snapshot`. -/
lemma snapshot_cases (hcodec : codec.RoundTrip) (wm : WindowStateManager) (reply : SetReply)
    (stored : Option γ) :
    (wm.openWindows = [] ∧ wm.snapshot codec reply stored = (.ok (), stored)) ∨
      (wm.openWindows ≠ [] ∧ ∃ compressed, codec.decode compressed = some wm.collectOpenStates ∧
        (wm.snapshot codec reply stored = (.ok (), some compressed) ∨
          (wm.snapshot codec reply stored = (.error "store window snapshot", some compressed) ∧
            reply = .failed true))) ∨
      (wm.openWindows ≠ [] ∧ ∃ message,
        wm.snapshot codec reply stored = (.error message, stored) ∧
          ¬ (message = "store window snapshot" ∧ reply = .failed true)) := by
  -- What the early return looks at.
  have hlength : wm.collectOpenStates.length = 0 ↔ wm.openWindows = [] := by
    rw [WindowStateManager.collectOpenStates, List.length_map, List.length_eq_zero_iff]
  unfold WindowStateManager.snapshot
  by_cases hopen : wm.openWindows = []
  · rw [if_pos (hlength.mpr hopen)]
    exact .inl ⟨hopen, rfl⟩
  · rw [if_neg fun h => hopen (hlength.mp h)]
    right
    cases hjson : codec.marshal wm.collectOpenStates with
    | none => exact .inr ⟨hopen, "marshal window states", rfl, by simp⟩
    | some jsonData =>
      dsimp only
      cases hbytes : codec.compress jsonData with
      | none => exact .inr ⟨hopen, "compress window snapshot", rfl, by simp⟩
      | some compressed =>
        -- From here on only the reply of the client matters.
        have hencode : codec.encode wm.collectOpenStates = some compressed := by
          rw [Lib.Codec.encode, hjson, Option.bind_some, hbytes]
        have hdecode := hcodec.decode_encode hencode
        cases reply with
        | ok => exact .inl ⟨hopen, compressed, hdecode, .inl rfl⟩
        | failed wasStored =>
          cases wasStored with
          | true => exact .inl ⟨hopen, compressed, hdecode, .inr ⟨rfl, rfl⟩⟩
          | false => exact .inr ⟨hopen, "store window snapshot", rfl, by simp⟩

lemma survives_snapshot_iff (hcodec : codec.RoundTrip) (hstored : Stored codec s)
    (h : Survives codec s) (reply : SetReply) :
    Stored codec (s.snapshot codec reply) ∧
      (Survives codec (s.snapshot codec reply) ↔ Careful codec s (.snapshot reply)) := by
  unfold State.snapshot
  rcases snapshot_cases hcodec s.manager reply s.stored with
    ⟨hopen, heq⟩ | ⟨hopen, compressed, hdecode, heq⟩ | ⟨hopen, message, heq, hclean⟩
  · -- Nothing is open: what was stored before stays.
    rw [heq]
    refine ⟨hstored, ?_⟩
    rw [Careful, forall_prop_of_true hopen, ← restores_nil_iff hstored]
    unfold Survives
    dsimp only
    rw [hopen]
    exact ⟨fun hnext => hnext [] rfl, fun hnil windows hw => Option.some.inj hw ▸ hnil⟩
  · have hne : s.manager.collectOpenStates ≠ [] := by
      rwa [WindowStateManager.collectOpenStates, Ne, List.map_eq_nil_iff]
    have hnew : ∀ stored, some compressed = some stored → ∃ states,
        codec.decode stored = some states ∧
          states ≠ [] ∧ (states.map WindowState.key).Nodup := by
      intro stored hs
      obtain rfl := Option.some.inj hs
      exact ⟨_, hdecode, hne, nodup_collectOpenStates s.manager⟩
    have hguard : Careful codec s (.snapshot reply) := fun hnil => absurd hnil hopen
    obtain heq | ⟨heq, hreply⟩ := heq
    · rw [heq]
      refine ⟨hnew, iff_of_true (fun windows hw => ?_) hguard⟩
      obtain rfl := Option.some.inj hw
      exact restores_of_decode hdecode
    · rw [heq]
      refine ⟨hnew, iff_of_true (fun windows hw => ?_) hguard⟩
      dsimp only at hw
      rw [if_pos ⟨rfl, hreply⟩] at hw
      exact absurd hw (by simp)
  · rw [heq]
    have hguard : Careful codec s (.snapshot reply) := fun hnil => absurd hnil hopen
    refine ⟨hstored, iff_of_true (fun windows hw => ?_) hguard⟩
    dsimp only at hw
    rw [if_neg hclean] at hw
    exact h windows hw

lemma merged_restore_iff (hstored : Stored codec s) (getFails : Bool) (clock : WindowKey → Time) :
    Merged (s.restore codec getFails clock).held (s.restore codec getFails clock).manager.windows ↔
      Careful codec s (.restore getFails clock) := by
  cases getFails with
  | true => exact iff_of_true (merged_refl _) trivial
  | false =>
    -- Without a snapshot nothing is touched; with one, it is what the codec reads.
    unfold State.restore
    rw [if_neg Bool.false_ne_true]
    cases hs : s.stored with
    | none =>
      refine iff_of_true (merged_refl _) ?_
      intro stored states hsome
      exact absurd (hs.symm.trans hsome) (by simp)
    | some stored =>
      obtain ⟨states, hdecode, -, hnodup⟩ := hstored stored hs
      dsimp only
      rw [restore_of_decode hdecode]
      refine (merged_restoreStates_iff hnodup).trans ?_
      constructor
      · intro hcovers stored' states' hsome hdecode'
        obtain rfl := Option.some.inj (hs.symm.trans hsome)
        obtain rfl := Option.some.inj (hdecode.symm.trans hdecode')
        exact hcovers
      · intro hguard
        exact hguard stored states hs hdecode

lemma stored_next (hcodec : codec.RoundTrip) (hstored : Stored codec s) (h : Survives codec s)
    (e : Event) : Stored codec (s.next codec e) := by
  cases e with
  | snapshot reply => exact (survives_snapshot_iff hcodec hstored h reply).1
  | _ => exact hstored

lemma durable_next_iff (hcodec : codec.RoundTrip) (hstored : Stored codec s)
    (h : Durable codec s) (e : Event) : Durable codec (s.next codec e) ↔ Careful codec s e := by
  cases e with
  | snapshot reply =>
    exact (and_iff_left (merged_nil _)).trans (survives_snapshot_iff hcodec hstored h.1 reply).2
  | restore getFails clock =>
    exact (and_iff_right h.1).trans (merged_restore_iff hstored getFails clock)
  | _ => exact iff_of_true ⟨h.1, merged_nil _⟩ trivial

/-- **Window snapshots**, and when they keep what they are to keep. With a codec that reads back what
it wrote, for all calls and restarts in any order, with any failures of the client: what the last
successful snapshot found open is what a fresh manager restores, less the stale windows, and no
`Restore` loses values, if and only if no snapshot finds no open window while an older one is stored,
and what is restored has all values of the windows whose place it takes. -/
theorem durable_iff (codec : Lib.Codec (List WindowState) β γ) (hcodec : codec.RoundTrip)
    (cfg : WindowManagerConfig) (es : List Event) :
    Lib.Always (State.next codec) (Durable codec) { manager := NewWindowStateManager cfg } es ↔
      Lib.Allowed (State.next codec) (Careful codec)
        { manager := NewWindowStateManager cfg } es := by
  refine Lib.always_iff_allowed_within (I := Stored codec) (Q := fun _ => True) ?_ ?_ ?_ ?_
    (Lib.always_of_forall (fun _ => trivial) _ es)
  · intro s e hstored h _
    exact stored_next hcodec hstored h.1 e
  · intro s e hstored h _
    exact durable_next_iff hcodec hstored h e
  · intro stored hs
    exact absurd hs (by simp)
  · refine ⟨fun windows hw => ?_, merged_nil _⟩
    exact absurd hw (by simp)

/-! ### Two runs -/

/-- A minute's window. -/
def minuteWindows : WindowManagerConfig := { gracePeriod := 30 * second, windowSizes := [minute] }

/-- The one window is stored, then closed, then there is none to store. -/
def closedWindow : List Event :=
  [.addValue .background "agent" "cpu" 10 0, .snapshot .ok,
    .getClosedWindows .background (2 * minute), .snapshot .ok]

theorem durable_iff_closedWindow :
    Lib.Always (State.next .plain) (Durable .plain)
        { manager := NewWindowStateManager minuteWindows } closedWindow ↔
      Lib.Allowed (State.next .plain) (Careful .plain)
        { manager := NewWindowStateManager minuteWindows } closedWindow :=
  durable_iff .plain Lib.Codec.roundTrip_plain minuteWindows closedWindow

/-- What is stored of it. -/
def closedState : WindowState :=
  { key := { agentID := "agent", metricName := "cpu", windowSize := minute, windowStart := 0 }
    values := [10]
    count := 1
    sum := 10
    min := 10
    max := 10
    firstSeen := 0
    lastSeen := 0 }

/-- A restart brings the closed window back. -/
theorem not_durable_closedWindow :
    ¬ Lib.Always (State.next .plain) (Durable .plain)
      { manager := NewWindowStateManager minuteWindows } closedWindow := by
  intro halways
  set last := closedWindow.foldl (State.next .plain)
    { manager := NewWindowStateManager minuteWindows } with hlast
  have htaken : last.taken = some [] := by decide +kernel
  have hstored : last.stored = some [closedState] := by decide +kernel
  obtain ⟨wm, hwm, hperm⟩ := halways.foldl.1 [] htaken minuteWindows fun _ => 2 * minute
  have hdecode : (Lib.Codec.plain : Lib.Codec (List WindowState) _ _).decode [closedState] =
      some [closedState] := rfl
  rw [← hlast, hstored, restore_of_decode hdecode] at hwm
  have hrows : ((NewWindowStateManager minuteWindows).restoreStates (fun _ => 2 * minute)
      [closedState]).windows.rows.length = 1 := by decide +kernel
  rw [Except.ok.inj hwm, hperm.length_eq] at hrows
  exact absurd hrows (by simp)

end WindowSnapshot

end Paryty.Processing

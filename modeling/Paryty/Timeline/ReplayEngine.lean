import Mathlib.Algebra.Order.Field.Rat
import Mathlib.Tactic.FieldSimp
import Mathlib.Tactic.Linarith
import Mathlib.Tactic.Ring
import Paryty.Timeline.Snapshot

/-!
# Replay frames

`ReplayEngine` of `cluster/internal/timeline/replay_engine.go`: a stream of frames, one for each
second of a window of time.

* `replay` starts it, `next` is what it does with a tick or a value from `ResumeCh`. The speed only
  sets how long the ticks are apart.
* `reached_stream`: after any signals, the frames are those of the seconds so far, and when the
  replay has ended, there is one more.
* `replay_not_faithful`: that one is always after the end of the window.

`answer` is what `ReconstructState` returns, none for an error: a replay asks for a time once.
Progress is an exact quotient. Cancellation is left out.
-/

namespace Paryty.Timeline

variable {F : Type*}

/-! ## The engine -/

/-- The simulated time between frames. -/
def frameStep : Time := 10 ^ 9

/-- `Time.Sub`: the largest duration for longer ones, and the smallest for shorter ones. -/
def duration (t u : Time) : ℤ := max (-2 ^ 63) (min (2 ^ 63 - 1) (t - u))

/-- `ReplayConfig`. -/
structure ReplayConfig where
  startTime : Time
  endTime : Time
  tenantID : String := ""
deriving DecidableEq

/-- The tenant, or the default one. -/
def ReplayConfig.tenant (config : ReplayConfig) : String :=
  if config.tenantID = "" then "default" else config.tenantID

/-- `ReplayFrame`. -/
structure ReplayFrame where
  timestamp : Time
  topology : Option Topology
  alerts : List Alert
  progress : ℚ
deriving DecidableEq

/-- A frame with the state of a snapshot. -/
def Snapshot.frame (snap : Snapshot F) (timestamp : Time) (progress : ℚ) : ReplayFrame :=
  ⟨timestamp, snap.topology, snap.alerts, progress⟩

/-- The errors of `Replay`. -/
inductive ReplayError
  | startAfterEnd
  /-- `load initial snapshot`. -/
  | initialSnapshot
deriving DecidableEq

/-- Where `streamFrames` stands. -/
inductive ReplayPhase
  | running
  /-- In `waitForResume`. -/
  | paused
  | done
deriving DecidableEq

/-- The variables of `streamFrames`, and the frames sent. -/
structure Replay (F : Type*) where
  currentTime : Time
  lastSnap : Snapshot F
  phase : ReplayPhase := .running
  frames : List ReplayFrame

/-- What `streamFrames` waits for. -/
inductive ReplaySignal
  /-- A tick, and what there is in `ResumeCh` then. -/
  | tick (pending : Option Bool)
  /-- A value from `ResumeCh` during a pause. -/
  | resume (resumed : Bool)
deriving DecidableEq

namespace ReplayConfig

variable (answer : String → Time → Option (Snapshot F)) (config : ReplayConfig)

/-- `Replay`, with the initial frame sent. -/
def replay : Except ReplayError (Replay F) :=
  if config.endTime < config.startTime then .error .startAfterEnd
  else
    match answer config.tenant config.startTime with
    | none => .error .initialSnapshot
    | some initialSnap => .ok
      { currentTime := config.startTime
        lastSnap := initialSnap
        frames := [initialSnap.frame config.startTime 0] }

/-- The next frame. -/
def advance (s : Replay F) : Replay F :=
  let currentTime := s.currentTime + frameStep
  if config.endTime < currentTime then
    { s with
      currentTime
      phase := .done
      frames := s.frames ++ [s.lastSnap.frame currentTime 1] }
  else
    let snap := (answer config.tenant currentTime).getD s.lastSnap
    let progress : ℚ := duration currentTime config.startTime /
      duration config.endTime config.startTime
    { currentTime
      lastSnap := snap
      frames := s.frames ++ [snap.frame currentTime progress] }

/-- What the replay does with a signal. -/
def next (s : Replay F) (signal : ReplaySignal) : Replay F :=
  match s.phase, signal with
  | .running, .tick (some false) => { s with phase := .paused }
  | .running, .tick _ => config.advance answer s
  | .paused, .resume true => config.advance answer s
  | _, _ => s

/-- What the replay does with a sequence of signals. -/
def stream (s : Replay F) (signals : List ReplaySignal) : Replay F :=
  signals.foldl (config.next answer) s

/-! ## The frames -/

/-- The time of a frame. -/
def stamp (k : ℕ) : Time := config.startTime + k * frameStep

/-- The state at the time of a frame, or the latest before. -/
def latest (initialSnap : Snapshot F) : ℕ → Snapshot F
  | 0 => initialSnap
  | k + 1 => (answer config.tenant (config.stamp (k + 1))).getD (latest initialSnap k)

/-- The progress of a frame. -/
def progressAt (k : ℕ) : ℚ :=
  duration (config.stamp k) config.startTime / duration config.endTime config.startTime

/-- The frame of a second of the window. -/
def frameAt (initialSnap : Snapshot F) (k : ℕ) : ReplayFrame :=
  (latest answer config initialSnap k).frame (config.stamp k) (config.progressAt k)

/-- The frames of the first seconds. -/
def framesUntil (initialSnap : Snapshot F) (k : ℕ) : List ReplayFrame :=
  (List.range (k + 1)).map (frameAt answer config initialSnap)

/-- A replay that has come to the `k`-th second of its window, or has ended there. -/
structure Reached (initialSnap : Snapshot F) (k : ℕ) (s : Replay F) : Prop where
  within : config.stamp k ≤ config.endTime
  streaming : s.phase ≠ .done → s.currentTime = config.stamp k ∧
    s.lastSnap = latest answer config initialSnap k ∧
    s.frames = framesUntil answer config initialSnap k
  ended : s.phase = .done → config.endTime < config.stamp (k + 1) ∧
    s.frames = framesUntil answer config initialSnap k ++
      [(latest answer config initialSnap k).frame (config.stamp (k + 1)) 1]

variable {answer config} {initialSnap : Snapshot F} {k : ℕ} {s : Replay F}

lemma stamp_succ (k : ℕ) : config.stamp (k + 1) = config.stamp k + frameStep := by
  unfold stamp
  push_cast
  ring

lemma framesUntil_succ (k : ℕ) : framesUntil answer config initialSnap (k + 1) =
    framesUntil answer config initialSnap k ++ [frameAt answer config initialSnap (k + 1)] := by
  unfold framesUntil
  rw [List.range_succ, List.map_append]
  rfl

lemma reached_replay (h : config.replay answer = .ok s) :
    config.startTime ≤ config.endTime ∧ ∃ initialSnap,
      answer config.tenant config.startTime = some initialSnap ∧
        Reached answer config initialSnap 0 s := by
  unfold replay at h
  split at h
  case isTrue => cases h
  case isFalse hordered =>
  cases hinitial : answer config.tenant config.startTime with
  | none => simp [hinitial] at h
  | some initialSnap =>
    rw [hinitial] at h
    obtain rfl := Except.ok.inj h
    have hstamp : config.stamp 0 = config.startTime := by simp [stamp]
    refine ⟨not_lt.mp hordered, initialSnap, rfl, ?_, fun _ => ⟨hstamp.symm, rfl, ?_⟩,
      fun h => nomatch h⟩
    · rw [hstamp]
      exact not_lt.mp hordered
    · simp [framesUntil, frameAt, latest, hstamp, progressAt, duration]

lemma Reached.advance (h : Reached answer config initialSnap k s) (hphase : s.phase ≠ .done) :
    Reached answer config initialSnap k (config.advance answer s) ∧
        (config.advance answer s).phase = .done ∨
      Reached answer config initialSnap (k + 1) (config.advance answer s) := by
  obtain ⟨htime, hlast, hframes⟩ := h.streaming hphase
  unfold ReplayConfig.advance
  simp only [htime, hlast, hframes, ← stamp_succ]
  split
  case isTrue hafter => exact .inl ⟨⟨h.within, fun h => absurd rfl h, fun _ => ⟨hafter, rfl⟩⟩, rfl⟩
  case isFalse hbefore =>
    exact .inr ⟨not_lt.mp hbefore, fun _ => ⟨rfl, rfl, (framesUntil_succ k).symm⟩,
      fun h => nomatch h⟩

lemma Reached.next (h : Reached answer config initialSnap k s) (signal : ReplaySignal) :
    ∃ k', Reached answer config initialSnap k' (config.next answer s signal) := by
  have hadvance (hphase : s.phase ≠ .done) :
      ∃ k', Reached answer config initialSnap k' (config.advance answer s) :=
    (h.advance hphase).elim (fun h => ⟨k, h.1⟩) fun h => ⟨k + 1, h⟩
  unfold ReplayConfig.next
  split
  · -- A pause.
    rename_i hphase
    exact ⟨k, h.within, fun _ => h.streaming (by simp [hphase]), fun h => nomatch h⟩
  · rename_i hphase
    exact hadvance (by simp [hphase])
  · rename_i hphase
    exact hadvance (by simp [hphase])
  · exact ⟨k, h⟩

lemma reached_stream (h : Reached answer config initialSnap k s) (signals : List ReplaySignal) :
    ∃ k', Reached answer config initialSnap k' (config.stream answer s signals) := by
  induction signals generalizing k s with
  | nil => exact ⟨k, h⟩
  | cons signal signals ih =>
    obtain ⟨k', hnext⟩ := h.next signal
    exact ih hnext

/-! ## Faithful frames -/

/-- The frame shows the state that was reconstructed at its own time, or for the latest frame before
it for which that did not fail. -/
def Shows (answer : String → Time → Option (Snapshot F)) (config : ReplayConfig)
    (frames : List ReplayFrame) (k : ℕ) (f : ReplayFrame) : Prop :=
  ∃ j ≤ k, ∃ g snap, frames[j]? = some g ∧ answer config.tenant g.timestamp = some snap ∧
    (∀ i h, j < i → i ≤ k → frames[i]? = some h → answer config.tenant h.timestamp = none) ∧
    f.topology = snap.topology ∧ f.alerts = snap.alerts

/-- The timestamps increase by at most a second and lie in the window, the progress is the elapsed
share of it, and the state is the one at the time. -/
structure FramesFaithful (answer : String → Time → Option (Snapshot F)) (config : ReplayConfig)
    (frames : List ReplayFrame) : Prop where
  steps : frames.IsChain fun f g =>
    f.timestamp < g.timestamp ∧ g.timestamp ≤ f.timestamp + frameStep
  window : ∀ f ∈ frames, config.startTime ≤ f.timestamp ∧ f.timestamp ≤ config.endTime
  progress : ∀ f ∈ frames, f.progress =
    ((f.timestamp - config.startTime : ℤ) : ℚ) / (config.endTime - config.startTime : ℤ)
  states : ∀ k f, frames[k]? = some f → Shows answer config frames k f

/-- The frames of a whole replay: the progress rises from 0 to 1. -/
structure ReplayFaithful (answer : String → Time → Option (Snapshot F)) (config : ReplayConfig)
    (frames : List ReplayFrame) : Prop where
  faithful : FramesFaithful answer config frames
  first : frames.head?.map ReplayFrame.progress = some 0
  last : frames.getLast?.map ReplayFrame.progress = some 1

/-- **The frames of a replay.** Whatever is stored and whatever fails, the frames of a replay that
has ended are not as they should be: the final one is after the end of the window. -/
theorem replay_not_faithful (answer : String → Time → Option (Snapshot F)) (config : ReplayConfig)
    (s : Replay F) (started : config.replay answer = .ok s) (signals : List ReplaySignal)
    (ended : (config.stream answer s signals).phase = .done) :
    ¬ ReplayFaithful answer config (config.stream answer s signals).frames := by
  obtain ⟨-, initialSnap, -, hstart⟩ := reached_replay started
  obtain ⟨k, hreached⟩ := reached_stream hstart signals
  obtain ⟨hafter, hframes⟩ := hreached.ended ended
  intro h
  have hin := (h.faithful.window ((latest answer config initialSnap k).frame
    (config.stamp (k + 1)) 1) (by simp [hframes])).2
  exact absurd hafter (not_lt.mpr hin)

/-- The state of no agents. -/
def emptySnapshot : Snapshot Unit where
  id := "s1"
  timestamp := 0
  topology := some ⟨[], []⟩
  agents := []
  metrics := .empty
  alerts := []
  metadata := ⟨0, 0, 0, 0⟩

/-- A replay of half a second. -/
theorem half_second_not_faithful :
    ¬ ReplayFaithful (fun _ _ => some emptySnapshot) ⟨0, 500000000, "t1"⟩
      (stream (fun _ _ => some emptySnapshot) ⟨0, 500000000, "t1"⟩
        { currentTime := 0
          lastSnap := emptySnapshot
          frames := [emptySnapshot.frame 0 0] } [.tick none]).frames :=
  replay_not_faithful _ ⟨0, 500000000, "t1"⟩ _ (by rfl) _ (by rfl)

/-- A replay of one second has a frame after it. -/
theorem frame_after_end :
    ¬ ReplayFaithful (fun _ _ => some emptySnapshot) ⟨0, 1000000000, "t1"⟩
      (stream (fun _ _ => some emptySnapshot) ⟨0, 1000000000, "t1"⟩
        { currentTime := 0
          lastSnap := emptySnapshot
          frames := [emptySnapshot.frame 0 0] } [.tick none, .tick none]).frames := by
  intro h
  have hlast : emptySnapshot.frame 2000000000 1 ∈
      (stream (fun _ _ => some emptySnapshot) ⟨0, 1000000000, "t1"⟩
        { currentTime := 0
          lastSnap := emptySnapshot
          frames := [emptySnapshot.frame 0 0] } [.tick none, .tick none]).frames :=
    List.mem_of_getElem? (i := 2) (by rfl)
  exact absurd (h.faithful.window _ hlast).2 (by decide)

end ReplayConfig

end Paryty.Timeline

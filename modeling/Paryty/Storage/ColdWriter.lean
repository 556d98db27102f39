import Mathlib.Data.Nat.Notation
import Mathlib.Tactic.SplitIfs
import Paryty.Lib.Run

/-!
# The cold writers and `Close`

`cluster/internal/storage/store.go`: `StoreMetricWarmCold` puts batches into a bounded channel, four
workers write them to the cold tier, and `Close` cancels their context, closes the channel and waits
for them.

* `State.next` is one step of a caller, a worker or `Close`.
* `Drains`: when `Close` has returned, what was in the channel before is written, and nobody sent on
  the closed channel.
* `drains_of_careful`: that holds in every run in which no worker leaves accepted batches behind, no
  write of one fails and no caller comes late.
* `left_behind`: the workers take `Done` of the context, and a caller comes late.
-/

namespace Paryty.Storage.ColdWriter

/-- `coldWriteChannelSize`. -/
def coldWriteChannelSize : ℕ := 1000

/-- `coldWriterCount`. -/
def coldWriterCount : ℕ := 4

variable {β : Type*}

/-- What a worker does. -/
inductive Worker (β : Type*)
  /-- It waits in the `select`. -/
  | waiting
  /-- `StoreMetricBatch` of the cold client. -/
  | writing (item : ℕ × β)
  | exited
deriving DecidableEq

/-- Where `Close` stands. -/
inductive ClosePhase
  | notCalled
  /-- It has cancelled the context. -/
  | cancelled
  /-- It has closed the channel and waits for the workers. -/
  | closed
  | returned
deriving DecidableEq

/-- The store, as far as the cold tier goes. A batch stands with its number in the channel. -/
structure State (β : Type*) where
  channel : List (ℕ × β) := []
  workers : List (Worker β) := List.replicate coldWriterCount .waiting
  phase : ClosePhase := .notCalled
  /-- How many batches came into the channel. -/
  enqueued : ℕ := 0
  /-- Those that came in before `Close` was called. -/
  accepted : List (ℕ × β) := []
  /-- Those that were written. -/
  written : List (ℕ × β) := []
  /-- A caller sent on the closed channel. -/
  panicked : Bool := false
deriving DecidableEq

/-- What happens. -/
inductive Event (β : Type*)
  /-- `StoreMetricWarmCold` is at its `select`. -/
  | store (batch : β)
  /-- A worker takes the channel case of its `select`. -/
  | receive (worker : ℕ)
  /-- A worker takes the case `coldCtx.Done()`. -/
  | done (worker : ℕ)
  /-- A write returns. -/
  | write (worker : ℕ) (ok : Bool)
  /-- `Close` is called and cancels the context. -/
  | cancel
  /-- `Close` closes the channel. -/
  | close
  /-- `Close` has waited for the workers. -/
  | wait
deriving DecidableEq

namespace State

/-- The context is cancelled. -/
def Cancelled (s : State β) : Prop := s.phase ≠ .notCalled

instance (s : State β) : Decidable s.Cancelled := inferInstanceAs (Decidable (_ ≠ _))

/-- The channel is closed. -/
def Closed (s : State β) : Prop := s.phase = .closed ∨ s.phase = .returned

instance (s : State β) : Decidable s.Closed := inferInstanceAs (Decidable (_ ∨ _))

/-- A worker goes on as given. -/
def setWorker (s : State β) (w : ℕ) (worker : Worker β) : State β :=
  { s with workers := s.workers.set w worker }

variable [DecidableEq β]

/-- One step. A write may fail or succeed at any time, also with a cancelled context. -/
def next (s : State β) : Event β → State β
  | .store batch =>
    -- A send on a closed channel is chosen, and panics.
    if s.Closed then { s with panicked := true }
    else if s.channel.length < coldWriteChannelSize then
      { s with
        channel := s.channel ++ [(s.enqueued, batch)]
        enqueued := s.enqueued + 1
        accepted := if s.Cancelled then s.accepted else s.accepted ++ [(s.enqueued, batch)] }
    else s
  | .receive w =>
    match s.workers[w]?, s.channel with
    | some .waiting, item :: channel => { s with channel }.setWorker w (.writing item)
    | some .waiting, [] => if s.Closed then s.setWorker w .exited else s
    | _, _ => s
  | .done w =>
    match s.workers[w]? with
    | some .waiting => if s.Cancelled then s.setWorker w .exited else s
    | _ => s
  | .write w ok =>
    match s.workers[w]? with
    | some (.writing item) =>
      { s with written := if ok then s.written ++ [item] else s.written }.setWorker w .waiting
    | _ => s
  | .cancel => if s.phase = .notCalled then { s with phase := .cancelled } else s
  | .close => if s.phase = .cancelled then { s with phase := .closed } else s
  | .wait =>
    if s.phase = .closed ∧ ∀ worker ∈ s.workers, worker = .exited then { s with phase := .returned }
    else s

end State

/-! ## Draining -/

/-- What `Close` promises its callers. -/
structure Drains (s : State β) : Prop where
  /-- What was accepted before it was called is written before it returns. -/
  written : s.phase = .returned → ∀ item ∈ s.accepted, item ∈ s.written
  /-- Nobody sends on the closed channel. -/
  noSend : s.panicked = false

/-- No caller comes after the channel was closed, no write of an accepted batch fails, and the last
worker does not leave accepted batches in the channel. -/
def Careful (s : State β) : Event β → Prop
  | .store _ => ¬ s.Closed
  | .done w =>
    s.Cancelled → (∃ (v : ℕ) (worker : Worker β),
      s.workers[v]? = some worker ∧ v ≠ w ∧ worker ≠ .exited) ∨
      ∀ item ∈ s.channel, item ∉ s.accepted
  | .write w false => ∀ item, s.workers[w]? = some (.writing item) → item ∉ s.accepted
  | _ => True

/-- A worker that has not exited. -/
def Running (s : State β) : Prop :=
  ∃ (w : ℕ) (worker : Worker β), s.workers[w]? = some worker ∧ worker ≠ .exited

/-- An accepted batch is written, being written, or waits for a worker. -/
def Kept (s : State β) (item : ℕ × β) : Prop :=
  item ∈ s.written ∨ (∃ w : ℕ, s.workers[w]? = some (.writing item)) ∨ (item ∈ s.channel ∧ Running s)

/-- No accepted batch is lost. -/
structure Inv (s : State β) : Prop where
  kept : ∀ item ∈ s.accepted, Kept s item
  /-- As long as `Close` was not called the workers run. -/
  running : s.phase = .notCalled → Running s
  waited : s.phase = .returned → ∀ worker ∈ s.workers, worker = .exited
  noSend : s.panicked = false

variable {s : State β} {w : ℕ} {worker worker' : Worker β}

lemma Inv.drains (h : Inv s) : Drains s where
  written := by
    intro hreturned item hitem
    have hexited (v : ℕ) (worker : Worker β) (hv : s.workers[v]? = some worker) :
        worker = .exited := h.waited hreturned worker (List.mem_of_getElem? hv)
    rcases h.kept item hitem with hwritten | ⟨v, hv⟩ | ⟨-, v, worker, hv, hrunning⟩
    · exact hwritten
    · cases hexited v _ hv
    · exact absurd (hexited v worker hv) hrunning
  noSend := h.noSend

lemma getElem_setWorker_self (hw : s.workers[w]? = some worker) :
    (s.setWorker w worker').workers[w]? = some worker' :=
  List.getElem?_set_self (List.getElem?_eq_some_iff.mp hw).1

lemma getElem_setWorker_of_ne {v : ℕ} (hne : v ≠ w) :
    (s.setWorker w worker').workers[v]? = s.workers[v]? := List.getElem?_set_ne hne.symm

lemma Running.setWorker (hw : s.workers[w]? = some worker) (hrunning : worker' ≠ .exited) :
    Running (s.setWorker w worker') := ⟨w, worker', getElem_setWorker_self hw, hrunning⟩

lemma writing_setWorker {v : ℕ} {item : ℕ × β} (hv : s.workers[v]? = some (.writing item))
    (hne : v ≠ w) : (s.setWorker w worker').workers[v]? = some (.writing item) := by
  rw [getElem_setWorker_of_ne hne]
  exact hv

lemma inv_init : Inv ({} : State β) where
  kept := fun item hitem => absurd hitem List.not_mem_nil
  running := fun _ => ⟨0, .waiting, rfl, by simp⟩
  waited := (nomatch ·)
  noSend := rfl

/-! ## One step -/

lemma Inv.exit (h : Inv s) (hw : s.workers[w]? = some .waiting) (hcancelled : s.Cancelled)
    (hleft : (∃ (v : ℕ) (worker : Worker β),
      s.workers[v]? = some worker ∧ v ≠ w ∧ worker ≠ .exited) ∨
      ∀ item ∈ s.channel, item ∉ s.accepted) : Inv (s.setWorker w .exited) where
  kept := by
    intro item hitem
    rcases h.kept item hitem with hwritten | ⟨v, hv⟩ | ⟨hchannel, -⟩
    · exact .inl hwritten
    · have hne : v ≠ w := by
        rintro rfl
        rw [hw] at hv
        cases hv
      exact .inr (.inl ⟨v, writing_setWorker hv hne⟩)
    · rcases hleft with ⟨v, worker, hv, hne, hrunning⟩ | hnone
      · refine .inr (.inr ⟨hchannel, v, worker, ?_, hrunning⟩)
        rw [getElem_setWorker_of_ne hne]
        exact hv
      · exact absurd hitem (hnone item hchannel)
  running := fun hphase => absurd hphase hcancelled
  waited := by
    intro hreturned worker hmem
    rcases List.mem_or_eq_of_mem_set hmem with hold | rfl
    · exact h.waited hreturned worker hold
    · rfl
  noSend := h.noSend

/-- A worker that was found in its `select`: not everyone has exited. -/
lemma Inv.not_returned (h : Inv s) (hw : s.workers[w]? = some worker) (hrunning : worker ≠ .exited) :
    s.phase ≠ .returned :=
  fun hreturned => hrunning (h.waited hreturned worker (List.mem_of_getElem? hw))

variable [DecidableEq β]

lemma Inv.store (h : Inv s) {batch : β} (hcareful : Careful s (.store batch)) :
    Inv (s.next (.store batch)) := by
  have hopen : ¬ s.Closed := hcareful
  unfold State.next
  dsimp only
  rw [if_neg hopen]
  split
  · constructor
    case kept =>
      intro item hitem
      have hold (hmem : item ∈ s.accepted) : Kept s item := h.kept item hmem
      have hcases : item ∈ s.accepted ∨ (s.phase = .notCalled ∧ item = (s.enqueued, batch)) := by
        dsimp only at hitem
        split at hitem
        · exact .inl hitem
        · next hcancelled =>
          rcases List.mem_append.mp hitem with hmem | hnew
          · exact .inl hmem
          · exact .inr ⟨not_not.mp hcancelled, List.mem_singleton.mp hnew⟩
      rcases hcases with hmem | ⟨hphase, rfl⟩
      · rcases h.kept item hmem with hwritten | hwriting | ⟨hchannel, hrunning⟩
        · exact .inl hwritten
        · exact .inr (.inl hwriting)
        · exact .inr (.inr ⟨List.mem_append_left _ hchannel, hrunning⟩)
      · exact .inr (.inr ⟨List.mem_append_right _ (List.mem_singleton_self _), h.running hphase⟩)
    case running => exact h.running
    case waited => exact h.waited
    case noSend => exact h.noSend
  · exact h

lemma Inv.receive (h : Inv s) : Inv (s.next (.receive w)) := by
  unfold State.next
  dsimp only
  split
  · next item channel hw hchannel =>
    constructor
    case kept =>
      intro item' hitem
      rcases h.kept item' hitem with hwritten | ⟨v, hv⟩ | ⟨hmem, -⟩
      · exact .inl hwritten
      · have hne : v ≠ w := by
          rintro rfl
          rw [hw] at hv
          cases hv
        exact .inr (.inl ⟨v, writing_setWorker (s := { s with channel }) hv hne⟩)
      · rw [hchannel] at hmem
        rcases List.mem_cons.mp hmem with rfl | hrest
        · exact .inr (.inl ⟨w, getElem_setWorker_self (s := { s with channel }) hw⟩)
        · exact .inr (.inr ⟨hrest, Running.setWorker (s := { s with channel }) hw (by simp)⟩)
    case running => exact fun _ => Running.setWorker (s := { s with channel }) hw (by simp)
    case waited => exact fun hreturned => absurd hreturned (h.not_returned hw (by simp))
    case noSend => exact h.noSend
  · next hw hchannel =>
    split
    · next hclosed =>
      have hcancelled : s.Cancelled := by
        intro hphase
        rcases hclosed with hclosed | hclosed <;> simp [hphase] at hclosed
      refine h.exit hw hcancelled (.inr ?_)
      rw [hchannel]
      exact fun item hitem => absurd hitem List.not_mem_nil
    · exact h
  · exact h

lemma Inv.done (h : Inv s) (hcareful : Careful s (.done w)) : Inv (s.next (.done w)) := by
  unfold State.next
  dsimp only
  split
  · next hw =>
    split
    · next hcancelled => exact h.exit hw hcancelled (hcareful hcancelled)
    · exact h
  · exact h

lemma Inv.write (h : Inv s) {ok : Bool} (hcareful : Careful s (.write w ok)) :
    Inv (s.next (.write w ok)) := by
  unfold State.next
  dsimp only
  split
  · next item hw =>
    constructor
    case kept =>
      intro item' hitem
      rcases h.kept item' hitem with hwritten | ⟨v, hv⟩ | ⟨hmem, -⟩
      · left
        show item' ∈ if ok then s.written ++ [item] else s.written
        split
        · exact List.mem_append_left _ hwritten
        · exact hwritten
      · by_cases hvw : v = w
        · subst hvw
          rw [hw] at hv
          cases hv
          cases ok with
          | true => exact .inl (List.mem_append_right _ (List.mem_singleton_self _))
          | false => exact absurd hitem (hcareful item hw)
        · exact .inr (.inl ⟨v, (List.getElem?_set_ne (Ne.symm hvw)).trans hv⟩)
      · exact .inr (.inr ⟨hmem, w, .waiting,
          List.getElem?_set_self (List.getElem?_eq_some_iff.mp hw).1, by simp⟩)
    case running =>
      exact fun _ => ⟨w, .waiting, List.getElem?_set_self (List.getElem?_eq_some_iff.mp hw).1,
        by simp⟩
    case waited => exact fun hreturned => absurd hreturned (h.not_returned hw (by simp))
    case noSend => exact h.noSend
  · exact h

lemma Inv.next (h : Inv s) {e : Event β} (hcareful : Careful s e) : Inv (s.next e) := by
  cases e with
  | store batch => exact h.store hcareful
  | receive w => exact h.receive
  | done w => exact h.done hcareful
  | write w ok => exact h.write hcareful
  | cancel | close =>
    unfold State.next
    dsimp only
    split
    · exact ⟨h.kept, (nomatch ·), (nomatch ·), h.noSend⟩
    · exact h
  | wait =>
    unfold State.next
    dsimp only
    split
    · next hwait => exact ⟨h.kept, (nomatch ·), fun _ => hwait.2, h.noSend⟩
    · exact h

/-- **The cold writers drain on close**, in careful runs. For any callers, any order of their steps
with those of the workers and of `Close`, and any failing writes: when `Close` returns, every batch
accepted before it was called is written, and nobody has sent on the closed channel, if no caller
comes after the channel was closed, no write of an accepted batch fails, and the last worker does
not take `Done` while accepted batches are in the channel. -/
theorem drains_of_careful (events : List (Event β))
    (h : Lib.Allowed State.next Careful ({} : State β) events) :
    Lib.Always State.next Drains ({} : State β) events := by
  have hrun {s : State β} (hs : Inv s) {events : List (Event β)}
      (h : Lib.Allowed State.next Careful s events) : Lib.Always State.next Drains s events := by
    induction events generalizing s with
    | nil => exact hs.drains
    | cons e events ih => exact ⟨hs.drains, ih (hs.next h.1) h.2⟩
  exact hrun inv_init h

/-! ### Two closings -/

/-- A batch is written, and then the store is closed. -/
def writtenInTime : List (Event ℕ) :=
  [.store 7, .receive 0, .write 0 true, .cancel, .done 0, .close, .receive 1, .done 2, .receive 3,
    .wait]

/-- It is a careful run. -/
theorem drains_writtenInTime : Lib.Always State.next Drains ({} : State ℕ) writtenInTime := by
  refine drains_of_careful _ ⟨?_, trivial, trivial, trivial, ?_, trivial, trivial, ?_, trivial,
    trivial, trivial⟩
  · show ¬ State.Closed ({} : State ℕ)
    decide
  · exact fun _ => .inl ⟨1, .waiting, by decide +kernel, by decide, by decide⟩
  · exact fun _ => .inl ⟨3, .waiting, by decide +kernel, by decide, by decide⟩

/-- A batch is in the channel when the store is closed, and another one comes late. -/
def closedTooSoon : List (Event ℕ) :=
  [.store 7, .cancel, .done 0, .done 1, .done 2, .done 3, .close, .store 8, .wait]

/-- The batch is not written, and its caller's colleague panics. -/
theorem left_behind : ¬ Lib.Always State.next Drains ({} : State ℕ) closedTooSoon ∧
    (closedTooSoon.foldl State.next ({} : State ℕ)).written = [] ∧
      (closedTooSoon.foldl State.next ({} : State ℕ)).panicked = true := by
  have hwritten : (closedTooSoon.foldl State.next ({} : State ℕ)).written = [] := by decide +kernel
  have hpanicked : (closedTooSoon.foldl State.next ({} : State ℕ)).panicked = true := by
    decide +kernel
  refine ⟨fun halways => ?_, hwritten, hpanicked⟩
  have hdrains := halways.foldl.written (by decide +kernel) (0, 7) (by decide +kernel)
  rw [hwritten] at hdrains
  exact absurd hdrains List.not_mem_nil

end Paryty.Storage.ColdWriter

import Mathlib.Algebra.Order.BigOperators.Group.List
import Mathlib.Algebra.Order.Ring.Nat
import Paryty.Agent.LedgerTheorems
import Paryty.Lib.Threads

/-!
# Concurrent calls of the edge buffer

The memory queue stands behind a write lock, `memory_usage` is an atomic beside it. Calls
interleave between any two of the following steps: a change of the queue under the lock, an
atomic operation on a counter, and a call of SQLite, of which only the outcome matters here.

* `read`, `drain` and the evictions subtract while they hold the lock. `write` adds after it has
  released it, and `delete_all_backlog` resets the counter after it has released it.
* Two fields of `Shared` are for the eyes of the reader: `cleared` counts the bytes that
  `delete_all_backlog` took out of the queue since the counter was last reset, and `wrapped` says
  that a subtraction went below zero.
* SQLite rows are not in `memory_usage`; they are left out, and so are the reported metrics,
  which no step reads.
-/

namespace Paryty.Agent

/-- A call of the buffer. -/
inductive BufferCall
  | write (data : Bytes) (dataType : DataType)
  | read (count : ℕ)
  | drain
  | evictExpired
  | deleteAllBacklog
deriving DecidableEq

/-- What is left of a call. Between `expiring` and `expired`, in `evicted` and in `taken` it holds
the lock. `next` is the entry of the write that an eviction of expired entries is part of. -/
inductive Phase
  | start (data : Bytes) (dataType : DataType)
  | expire (next : Option BufferEntry)
  | expiring (now : ℕ) (next : Option BufferEntry)
  | expired (size now : ℕ) (next : Option BufferEntry)
  | checkFull (entry : BufferEntry)
  | spill (entry : BufferEntry)
  | checkRoom (entry : BufferEntry)
  | evictOldest (entry : BufferEntry)
  | evicted (size : ℕ) (entry : BufferEntry)
  | push (entry : BufferEntry)
  | add (size : ℕ)
  | take (count : Option ℕ)
  | taken (entries : List BufferEntry)
  | clear
  | zero
  | done
deriving DecidableEq

/-- The first phase of a call. -/
def BufferCall.phase : BufferCall → Phase
  | write data dataType => .start data dataType
  | read count => .take (some count)
  | drain => .take none
  | evictExpired => .expire none
  | deleteAllBacklog => .clear

/-- What all calls share; `lock` is the thread that holds the write lock. -/
structure Shared where
  config : EdgeBufferConfig
  queue : List BufferEntry := []
  memoryUsage : ℕ := 0
  sequenceCounter : ℕ := 1
  lock : Option ℕ := none
  cleared : ℕ := 0
  wrapped : Bool := false
deriving DecidableEq

/-- What a step meets outside: the clock, and whether SQLite takes the entry, or `try_write` is
not kept from the lock by a reader. -/
structure Outside where
  now : ℕ := 0
  ok : Bool := true
deriving DecidableEq

namespace Shared

/-- `memory_usage.fetch_sub`. -/
def subtract (s : Shared) (size : ℕ) : Shared :=
  { s with
    memoryUsage := fetchSub s.memoryUsage size
    wrapped := s.wrapped || decide (s.memoryUsage < size) }

/-- `memory_usage + size > max_memory_bytes`. -/
def full (s : Shared) (size : ℕ) : Bool := s.config.maxMemoryBytes < fetchAdd s.memoryUsage size

end Shared

/-- What follows on the eviction of expired entries. -/
def Phase.afterExpiry : Option BufferEntry → Phase
  | none => .done
  | some entry => .checkFull entry

/-- The next step of thread `k`: the shared state and what is left of the call. -/
def Phase.step (s : Shared) (k : ℕ) (env : Outside) : Phase → Option (Shared × Phase)
  | start data dataType =>
    some ({ s with sequenceCounter := fetchAdd s.sequenceCounter 1 },
      .expire (some ⟨s.sequenceCounter, env.now, data, dataType, none⟩))
  | expire next =>
    if s.lock = none then some ({ s with lock := some k }, .expiring env.now next) else none
  | expiring now next =>
    match s.queue with
    | [] => some ({ s with lock := none }, .afterExpiry next)
    | entry :: rest =>
      if s.config.entryTtl < now - entry.createdAt then
        some ({ s with queue := rest }, .expired entry.data.length now next)
      else some ({ s with lock := none }, .afterExpiry next)
  | expired size now next => some (s.subtract size, .expiring now next)
  | checkFull entry =>
    some (s, if s.full entry.data.length then .spill entry else .push entry)
  | spill entry => some (s, if env.ok then .done else .checkRoom entry)
  | checkRoom entry =>
    some (s, if s.full entry.data.length then .evictOldest entry else .push entry)
  | evictOldest entry =>
    if s.lock = none then
      match s.queue with
      | [] => some (s, .push entry)
      | oldest :: rest =>
        some ({ s with queue := rest, lock := some k }, .evicted oldest.data.length entry)
    else none
  | evicted size entry => some ({ s.subtract size with lock := none }, .checkRoom entry)
  | push entry =>
    if s.lock = none then some ({ s with queue := s.queue ++ [entry] }, .add entry.data.length)
    else none
  | add size => some ({ s with memoryUsage := fetchAdd s.memoryUsage size }, .done)
  | take count =>
    if s.lock = none then
      let drainCount := match count with
        | some count => min count s.queue.length
        | none => s.queue.length
      some ({ s with queue := s.queue.drop drainCount, lock := some k },
        .taken (s.queue.take drainCount))
    else none
  | taken entries => some ({ s.subtract (totalSize entries) with lock := none }, .done)
  | clear =>
    if env.ok && s.lock.isNone && !s.queue.isEmpty then
      some ({ s with queue := [], cleared := s.cleared + totalSize s.queue }, .zero)
    else some (s, .done)
  | zero => some ({ s with memoryUsage := 0, cleared := 0 }, .done)
  | done => none

/-- The buffer and the calls made so far. -/
structure Concurrent where
  shared : Shared
  threads : List Phase
deriving DecidableEq

/-- A call starts a thread; a thread takes its next step. -/
inductive ConcurrentEvent
  | call (call : BufferCall)
  | step (k : ℕ) (env : Outside)
deriving DecidableEq

namespace Concurrent

/-- A new buffer. -/
def new (config : EdgeBufferConfig) : Concurrent := ⟨{ config }, []⟩

def step (c : Concurrent) : ConcurrentEvent → Option Concurrent
  | .call call => some { c with threads := c.threads ++ [call.phase] }
  | .step k env => do
    let phase ← c.threads[k]?
    let (shared, phase') ← phase.step c.shared k env
    return { shared, threads := c.threads.set k phase' }

/-- No call is under way. -/
def Quiescent (c : Concurrent) : Prop := ∀ phase ∈ c.threads, phase = .done

end Concurrent

/-! ## Bytes in flight -/

/-- The bytes that a write has pushed but not yet counted. -/
def Phase.uncounted : Phase → ℕ
  | add size => size
  | _ => 0

/-- The bytes that the holder of the lock has taken but not yet subtracted. -/
def Phase.held : Phase → ℕ
  | expired size _ _ => size
  | evicted size _ => size
  | taken entries => totalSize entries
  | _ => 0

namespace Concurrent

def uncounted (c : Concurrent) : ℕ := (c.threads.map Phase.uncounted).sum

def held (c : Concurrent) : ℕ := (c.threads.map Phase.held).sum

end Concurrent

/-- A step that keeps the counter true, when `uncounted` and `held` bytes are in flight. After a
subtraction, no more may be uncounted than is left in the queue, taken, or cleared. An addition
stays within the address space. A reset comes when exactly the uncounted bytes are in the queue or
taken. -/
def Phase.Accounted (s : Shared) (uncounted held : ℕ) : Phase → Prop
  | expired size _ _ => uncounted ≤ totalSize s.queue + (held - size) + s.cleared
  | evicted size _ => uncounted ≤ totalSize s.queue + (held - size) + s.cleared
  | taken entries => uncounted ≤ totalSize s.queue + (held - totalSize entries) + s.cleared
  | add _ => totalSize s.queue + held + s.cleared < 2 ^ 64
  | zero => totalSize s.queue + held = uncounted
  | _ => True

/-- The guard of a run: the thread's next step keeps the counter true. -/
def Accounted (c : Concurrent) : ConcurrentEvent → Prop
  | .call _ => True
  | .step k _ => ∀ phase, c.threads[k]? = some phase → phase.Accounted c.shared c.uncounted c.held

instance (s : Shared) (uncounted held : ℕ) : DecidablePred (Phase.Accounted s uncounted held) :=
  fun phase => by cases phase <;> unfold Phase.Accounted <;> infer_instance

instance (c : Concurrent) : DecidablePred (Accounted c)
  | .call _ => isTrue trivial
  | .step k _ => decidable_of_iff
      (∀ phase ∈ c.threads[k]?, phase.Accounted c.shared c.uncounted c.held) Iff.rfl

/-! ## One step -/

/-- The counter shows the bytes in the queue, those taken and those cleared, less the uncounted
ones. -/
structure Counted (s : Shared) (uncounted held : ℕ) : Prop where
  usage : s.memoryUsage + uncounted = totalSize s.queue + held + s.cleared
  range : s.memoryUsage < 2 ^ 64
  wrapped : s.wrapped = false

lemma Counted.subtract {s : Shared} {size uncounted held : ℕ}
    (h : Counted s uncounted (size + held))
    (hleft : uncounted ≤ totalSize s.queue + held + s.cleared) :
    Counted (s.subtract size) uncounted held := by
  obtain ⟨husage, hrange, hwrapped⟩ := h
  have hsize : size ≤ s.memoryUsage := by omega
  have hsub : fetchSub s.memoryUsage size = s.memoryUsage - size := by
    unfold fetchSub
    omega
  refine ⟨?_, ?_, ?_⟩
  · show fetchSub s.memoryUsage size + uncounted = totalSize s.queue + held + s.cleared
    omega
  · show fetchSub s.memoryUsage size < 2 ^ 64
    omega
  · show (s.wrapped || decide (s.memoryUsage < size)) = false
    rw [hwrapped, Bool.false_or, decide_eq_false_iff_not]
    omega

lemma Counted.release {s : Shared} {uncounted held : ℕ} {lock : Option ℕ}
    (h : Counted s uncounted held) : Counted { s with lock } uncounted held :=
  ⟨h.usage, h.range, h.wrapped⟩

lemma Counted.congr {s : Shared} {uncounted held uncounted' held' : ℕ}
    (h : Counted s uncounted held) (hu : uncounted' = uncounted) (hh : held' = held) :
    Counted s uncounted' held' := by
  rw [hu, hh]
  exact h

@[simp] lemma Phase.uncounted_afterExpiry (next : Option BufferEntry) :
    (afterExpiry next).uncounted = 0 := by
  cases next <;> rfl

@[simp] lemma Phase.held_afterExpiry (next : Option BufferEntry) :
    (afterExpiry next).held = 0 := by
  cases next <;> rfl

/-- A step of a thread, when the other threads have `uncounted` and `held` bytes in flight. -/
lemma Phase.step_counted {s s' : Shared} {k : ℕ} {env : Outside} {phase phase' : Phase}
    {uncounted held : ℕ}
    (h : Counted s (phase.uncounted + uncounted) (phase.held + held))
    (haccounted : phase.Accounted s (phase.uncounted + uncounted) (phase.held + held))
    (hstep : phase.step s k env = some (s', phase')) :
    Counted s' (phase'.uncounted + uncounted) (phase'.held + held) := by
  have hfront : ∀ {entry : BufferEntry} {rest : List BufferEntry}, s.queue = entry :: rest →
      totalSize s.queue = entry.data.length + totalSize rest := by
    intro entry rest hqueue
    rw [hqueue, totalSize_cons]
  obtain ⟨husage, hrange, hwrapped⟩ := id h
  cases phase with
  | start data dataType =>
    simp only [Phase.step, Option.some.injEq, Prod.mk.injEq] at hstep
    obtain ⟨rfl, rfl⟩ := hstep
    exact ⟨husage, hrange, hwrapped⟩
  | expire next =>
    simp only [Phase.step] at hstep
    split at hstep
    · obtain ⟨rfl, rfl⟩ := Prod.mk.inj (Option.some.inj hstep)
      exact h.release
    · exact absurd hstep (by simp)
  | expiring now next =>
    simp only [Phase.step] at hstep
    split at hstep
    · obtain ⟨rfl, rfl⟩ := Prod.mk.inj (Option.some.inj hstep)
      rw [Phase.uncounted_afterExpiry, Phase.held_afterExpiry]
      exact h.release
    · rename_i entry rest hqueue
      split at hstep
      · obtain ⟨rfl, rfl⟩ := Prod.mk.inj (Option.some.inj hstep)
        -- The popped entry moves from the queue to the bytes taken.
        refine ⟨?_, hrange, hwrapped⟩
        have hsize := hfront hqueue
        simp only [Phase.uncounted, Phase.held] at husage ⊢
        omega
      · obtain ⟨rfl, rfl⟩ := Prod.mk.inj (Option.some.inj hstep)
        rw [Phase.uncounted_afterExpiry, Phase.held_afterExpiry]
        exact h.release
  | expired size now next =>
    simp only [Phase.step, Option.some.injEq, Prod.mk.injEq] at hstep
    obtain ⟨rfl, rfl⟩ := hstep
    simp only [Phase.uncounted, Phase.held, Phase.Accounted] at h haccounted ⊢
    exact Counted.congr (h.subtract (by omega)) rfl (by omega)
  | checkFull | spill | checkRoom =>
    simp only [Phase.step, Option.some.injEq, Prod.mk.injEq] at hstep
    obtain ⟨rfl, rfl⟩ := hstep
    split <;> exact h
  | evictOldest entry =>
    simp only [Phase.step] at hstep
    split at hstep
    case isFalse => exact absurd hstep (by simp)
    case isTrue =>
      split at hstep
      · obtain ⟨rfl, rfl⟩ := Prod.mk.inj (Option.some.inj hstep)
        exact h
      · rename_i oldest rest hqueue
        obtain ⟨rfl, rfl⟩ := Prod.mk.inj (Option.some.inj hstep)
        refine ⟨?_, hrange, hwrapped⟩
        have hsize := hfront hqueue
        simp only [Phase.uncounted, Phase.held] at husage ⊢
        omega
  | evicted size entry =>
    simp only [Phase.step, Option.some.injEq, Prod.mk.injEq] at hstep
    obtain ⟨rfl, rfl⟩ := hstep
    simp only [Phase.uncounted, Phase.held, Phase.Accounted] at h haccounted ⊢
    exact Counted.congr (h.subtract (by omega)).release rfl (by omega)
  | push entry =>
    simp only [Phase.step] at hstep
    split at hstep
    case isFalse => exact absurd hstep (by simp)
    case isTrue =>
      obtain ⟨rfl, rfl⟩ := Prod.mk.inj (Option.some.inj hstep)
      refine ⟨?_, hrange, hwrapped⟩
      have hsize : totalSize (s.queue ++ [entry]) = totalSize s.queue + entry.data.length := by
        rw [totalSize_append]
        rfl
      simp only [Phase.uncounted, Phase.held, hsize] at husage ⊢
      omega
  | add size =>
    simp only [Phase.step, Option.some.injEq, Prod.mk.injEq] at hstep
    obtain ⟨rfl, rfl⟩ := hstep
    simp only [Phase.uncounted, Phase.held, Phase.Accounted] at husage haccounted ⊢
    have hadd : fetchAdd s.memoryUsage size = s.memoryUsage + size := by
      unfold fetchAdd
      omega
    refine ⟨?_, ?_, hwrapped⟩
    · show fetchAdd s.memoryUsage size + _ = totalSize s.queue + _ + s.cleared
      omega
    · show fetchAdd s.memoryUsage size < 2 ^ 64
      omega
  | take count =>
    simp only [Phase.step] at hstep
    split at hstep
    case isFalse => exact absurd hstep (by simp)
    case isTrue =>
      obtain ⟨rfl, rfl⟩ := Prod.mk.inj (Option.some.inj hstep)
      refine ⟨?_, hrange, hwrapped⟩
      generalize (match count with
        | some count => min count s.queue.length
        | none => s.queue.length) = drainCount
      have hsplit : totalSize s.queue = totalSize (s.queue.take drainCount) +
          totalSize (s.queue.drop drainCount) := by
        rw [← totalSize_append, List.take_append_drop]
      simp only [Phase.uncounted, Phase.held] at husage ⊢
      omega
  | taken entries =>
    simp only [Phase.step, Option.some.injEq, Prod.mk.injEq] at hstep
    obtain ⟨rfl, rfl⟩ := hstep
    simp only [Phase.uncounted, Phase.held, Phase.Accounted] at h haccounted ⊢
    exact Counted.congr (h.subtract (by omega)).release rfl (by omega)
  | clear =>
    simp only [Phase.step] at hstep
    split at hstep
    · obtain ⟨rfl, rfl⟩ := Prod.mk.inj (Option.some.inj hstep)
      refine ⟨?_, hrange, hwrapped⟩
      simp only [Phase.uncounted, Phase.held, totalSize_nil] at husage ⊢
      omega
    · obtain ⟨rfl, rfl⟩ := Prod.mk.inj (Option.some.inj hstep)
      exact h
  | zero =>
    simp only [Phase.step, Option.some.injEq, Prod.mk.injEq] at hstep
    obtain ⟨rfl, rfl⟩ := hstep
    simp only [Phase.uncounted, Phase.held, Phase.Accounted] at haccounted ⊢
    refine ⟨?_, Nat.two_pow_pos 64, hwrapped⟩
    show 0 + _ = totalSize s.queue + _ + 0
    omega
  | done => exact absurd hstep (by simp [Phase.step])

/-! ## Runs -/

namespace Concurrent

/-- What holds between the events of a run. -/
structure Inv (c : Concurrent) : Prop where
  counted : Counted c.shared c.uncounted c.held
  cleared : c.shared.cleared ≠ 0 → Phase.zero ∈ c.threads

/-- Only `delete_all_backlog` clears, and it goes on to reset the counter. -/
lemma cleared_step {s s' : Shared} {k : ℕ} {env : Outside} {phase phase' : Phase}
    (hstep : phase.step s k env = some (s', phase')) :
    s'.cleared = 0 ∨ phase' = .zero ∨ (s'.cleared = s.cleared ∧ phase ≠ .zero) := by
  cases phase with
  | zero =>
    obtain ⟨rfl, rfl⟩ := Prod.mk.inj (Option.some.inj hstep)
    exact .inl rfl
  | clear =>
    simp only [Phase.step] at hstep
    split at hstep <;> obtain ⟨rfl, rfl⟩ := Prod.mk.inj (Option.some.inj hstep)
    · exact .inr (.inl rfl)
    · exact .inr (.inr ⟨rfl, by simp⟩)
  | done => exact absurd hstep (by simp [Phase.step])
  | _ =>
    refine .inr (.inr ⟨?_, by simp⟩)
    simp only [Phase.step] at hstep
    repeat' split at hstep
    all_goals first
      | obtain ⟨rfl, -⟩ := Prod.mk.inj (Option.some.inj hstep)
        rfl
      | exact absurd hstep (by simp)

lemma step_thread {c c' : Concurrent} {k : ℕ} {env : Outside}
    (hstep : c.step (.step k env) = some c') :
    ∃ phase phase', c.threads[k]? = some phase ∧
      phase.step c.shared k env = some (c'.shared, phase') ∧
      c'.threads = c.threads.set k phase' := by
  obtain ⟨phase, hphase, hrest⟩ := Option.bind_eq_some_iff.mp hstep
  obtain ⟨⟨shared, phase'⟩, hnext, hnew⟩ := Option.bind_eq_some_iff.mp hrest
  obtain rfl := Option.some.inj hnew
  exact ⟨phase, phase', hphase, hnext, rfl⟩

lemma phase_inert (call : BufferCall) : call.phase.uncounted = 0 ∧ call.phase.held = 0 := by
  cases call <;> exact ⟨rfl, rfl⟩

lemma inv_step {c c' : Concurrent} {e : ConcurrentEvent} (h : c.Inv) (haccounted : Accounted c e)
    (hstep : c.step e = some c') : c'.Inv := by
  cases e with
  | call call =>
    obtain rfl := Option.some.inj hstep
    obtain ⟨huncounted, hheld⟩ := phase_inert call
    refine ⟨h.counted.congr ?_ ?_, fun hcleared => ?_⟩
    · simp [uncounted, huncounted]
    · simp [held, hheld]
    · exact List.mem_append_left _ (h.cleared hcleared)
  | step k env =>
    obtain ⟨phase, phase', hphase, hnext, hthreads⟩ := step_thread hstep
    have hu := Lib.sum_map_set Phase.uncounted hphase phase'
    have hh := Lib.sum_map_set Phase.held hphase phase'
    -- The bytes in flight are those of this thread and those of the others.
    obtain ⟨u, hu₀⟩ : ∃ u, c.uncounted = phase.uncounted + u :=
      Nat.exists_eq_add_of_le (List.single_le_sum (by simp) _
        (List.mem_map_of_mem (List.mem_of_getElem? hphase)))
    obtain ⟨v, hv₀⟩ : ∃ v, c.held = phase.held + v :=
      Nat.exists_eq_add_of_le (List.single_le_sum (by simp) _
        (List.mem_map_of_mem (List.mem_of_getElem? hphase)))
    have hcounted := h.counted
    have hguard := haccounted phase hphase
    rw [hu₀, hv₀] at hcounted hguard
    have hafter := Phase.step_counted hcounted hguard hnext
    refine ⟨hafter.congr ?_ ?_, fun hcleared => ?_⟩
    · unfold uncounted at hu₀ ⊢
      rw [hthreads]
      omega
    · unfold held at hv₀ ⊢
      rw [hthreads]
      omega
    · rw [hthreads]
      have hk : k < c.threads.length := (List.getElem?_eq_some_iff.mp hphase).1
      rcases cleared_step hnext with hzero | rfl | ⟨hsame, hne⟩
      · exact absurd hzero hcleared
      · exact List.mem_set hk _
      · rw [hsame] at hcleared
        obtain ⟨j, hj⟩ := List.getElem?_of_mem (h.cleared hcleared)
        have hjk : k ≠ j := by
          rintro rfl
          exact hne (Option.some.inj (hphase.symm.trans hj))
        refine List.mem_of_getElem? (i := j) ?_
        rw [List.getElem?_set_ne hjk, hj]

end Concurrent

open Concurrent

/-- `memory_usage` under concurrency. In every run whose steps all keep the counter true, it never
wraps below zero, and whenever no call is under way it equals the bytes in the queue. -/
theorem memory_usage_accounts (config : EdgeBufferConfig) {es : List ConcurrentEvent}
    {c : Concurrent} (run : Lib.Run Concurrent.step Accounted (Concurrent.new config) es c) :
    c.shared.wrapped = false ∧
      (c.Quiescent → c.shared.memoryUsage = totalSize c.shared.queue) := by
  have hinv : c.Inv := by
    refine run.invariant (fun c e c' h haccounted hstep => inv_step h haccounted hstep) ?_
    exact ⟨⟨rfl, Nat.two_pow_pos 64, rfl⟩, fun h => absurd rfl h⟩
  refine ⟨hinv.counted.wrapped, fun hquiescent => ?_⟩
  have huncounted : c.uncounted = 0 := by
    refine List.sum_eq_zero fun n hn => ?_
    obtain ⟨phase, hphase, rfl⟩ := List.mem_map.mp hn
    rw [hquiescent phase hphase]
    rfl
  have hheld : c.held = 0 := by
    refine List.sum_eq_zero fun n hn => ?_
    obtain ⟨phase, hphase, rfl⟩ := List.mem_map.mp hn
    rw [hquiescent phase hphase]
    rfl
  have hcleared : c.shared.cleared = 0 := by
    by_contra hne
    exact absurd (hquiescent _ (hinv.cleared hne)) (by simp)
  have husage := hinv.counted.usage
  omega

/-- The steps of one thread, in a world where everything succeeds. -/
def steps (k : ℕ) (n : ℕ) : List ConcurrentEvent := List.replicate n (.step k {})

/-- Two writes, of which the second is read before it is counted, while the first is still in the
queue when the reader subtracts. -/
theorem memory_usage_accounts_witness : ∃ c : Concurrent,
    c.Quiescent ∧ c.shared.queue.length = 1 ∧
      c.shared.memoryUsage = totalSize c.shared.queue := by
  let config : EdgeBufferConfig := ⟨100, 10, 10 ^ 9, 100⟩
  let es : List ConcurrentEvent :=
    [.call (.write [1, 2, 3] .metrics)] ++ steps 0 6 ++
    [.call (.write [4, 5] .metrics), .call (.read 1)] ++ steps 1 5 ++ steps 2 2 ++ steps 1 1
  have hfold : (es.foldlM (Lib.restrict Concurrent.step Accounted) (Concurrent.new config)).map
      (fun c => decide (∀ phase ∈ c.threads, phase = .done) && c.shared.queue.length == 1) =
        some true := by
    decide +kernel
  obtain ⟨c, hc, hfinal⟩ := Option.map_eq_some_iff.mp hfold
  simp only [Bool.and_eq_true, decide_eq_true_eq, beq_iff_eq] at hfinal
  obtain ⟨hquiescent, hlength⟩ := hfinal
  exact ⟨c, hquiescent, hlength,
    (memory_usage_accounts config (Lib.run_iff_foldlM_restrict.mpr hc)).2 hquiescent⟩

/-- A write is read before it is counted: the reader's subtraction wraps. And a write between the
`clear` and the reset of `delete_all_backlog` is forgotten by the reset. -/
theorem memory_usage_wraps_and_drifts :
    (¬ ∀ (config : EdgeBufferConfig) (es : List ConcurrentEvent) (c : Concurrent),
      Lib.Run Concurrent.step Lib.Unguarded (Concurrent.new config) es c →
        c.shared.wrapped = false) ∧
    ¬ ∀ (config : EdgeBufferConfig) (es : List ConcurrentEvent) (c : Concurrent),
      Lib.Run Concurrent.step Lib.Unguarded (Concurrent.new config) es c → c.Quiescent →
        c.shared.memoryUsage = totalSize c.shared.queue := by
  let config : EdgeBufferConfig := ⟨100, 10, 10 ^ 9, 100⟩
  constructor
  · intro h
    let es : List ConcurrentEvent :=
      [.call (.write [1, 2, 3] .metrics), .call (.read 1)] ++ steps 0 5 ++ steps 1 2
    have hfold : (es.foldlM Concurrent.step (Concurrent.new config)).map
        (fun c => c.shared.wrapped) = some true := by
      decide +kernel
    obtain ⟨c, hc, hwrapped⟩ := Option.map_eq_some_iff.mp hfold
    rw [h config es c (Lib.run_iff_foldlM.mpr hc)] at hwrapped
    exact absurd hwrapped (by simp)
  · intro h
    let es : List ConcurrentEvent :=
      [.call (.write [1, 2, 3] .metrics)] ++ steps 0 6 ++
      [.call .deleteAllBacklog, .call (.write [4, 5] .metrics)] ++ steps 1 1 ++ steps 2 6 ++
      steps 1 1
    have hfold : (es.foldlM Concurrent.step (Concurrent.new config)).map
        (fun c => (decide (∀ phase ∈ c.threads, phase = .done), c.shared.memoryUsage,
          totalSize c.shared.queue)) = some (true, 0, 2) := by
      decide +kernel
    obtain ⟨c, hc, hfinal⟩ := Option.map_eq_some_iff.mp hfold
    simp only [Prod.mk.injEq, decide_eq_true_eq] at hfinal
    obtain ⟨hquiescent, husage, hqueue⟩ := hfinal
    have heq := h config es c (Lib.run_iff_foldlM.mpr hc) hquiescent
    omega

end Paryty.Agent

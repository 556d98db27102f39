import Paryty.Stream.Consumer

/-!
# What a step of the stream layer changes

One lemma for each kind of event: a publish extends one partition's log, a poll moves records
from the logs into the fetched batch, a worker step ends or continues the processing of one
record and touches nothing else. No event but a commit or a restart touches offsets.
-/

namespace Paryty.Stream

variable {cfg : Config} {s t : State}

/-! ## Worker steps -/

/-- A step of one worker on the record it holds: everything outside the worker pool stays,
and no record leaves the pool unfinished. -/
structure WorkerStep (s t : State) : Prop where
  published : t.published = s.published
  committed : t.committed = s.committed
  marked : t.marked = s.marked
  position : t.position = s.position
  fetched : t.fetched = s.fetched
  workCh : t.workCh = s.workCh
  taken : t.taken = s.taken
  started : t.started = s.started
  finished : ∀ r ∈ s.finished, r ∈ t.finished
  accounted : ∀ task ∈ s.inProgress,
    task.record ∈ t.finished ∨ ∃ task' ∈ t.inProgress, task'.record = task.record

lemma exists_mem_set_record {tasks : List Task} {i : ℕ} {held : Task} {phase : Phase}
    (hi : tasks[i]? = some held) {task : Task} (htask : task ∈ tasks) :
    ∃ task' ∈ tasks.set i { held with phase := phase }, task'.record = task.record := by
  obtain ⟨j, hj⟩ := List.mem_iff_getElem?.mp htask
  by_cases hij : i = j
  · subst hij
    obtain rfl : held = task := Option.some.inj (hi.symm.trans hj)
    have hlt : i < tasks.length := (List.getElem?_eq_some_iff.mp hi).1
    exact ⟨{ held with phase := phase }, List.mem_set hlt _, rfl⟩
  · refine ⟨task, List.mem_iff_getElem?.mpr ⟨j, ?_⟩, rfl⟩
    rwa [List.getElem?_set_ne hij]

lemma mem_eraseIdx_or_eq {tasks : List Task} {i : ℕ} {held : Task}
    (hi : tasks[i]? = some held) {task : Task} (htask : task ∈ tasks) :
    task = held ∨ task ∈ tasks.eraseIdx i := by
  obtain ⟨j, hj⟩ := List.mem_iff_getElem?.mp htask
  by_cases hij : i = j
  · subst hij
    exact .inl (Option.some.inj (hj.symm.trans hi))
  · exact .inr (List.mem_eraseIdx_iff_getElem?.mpr ⟨j, Ne.symm hij, hj⟩)

lemma workerStep_setPhase {i : ℕ} {task : Task} {phase : Phase}
    (hi : s.inProgress[i]? = some task) : WorkerStep s (s.setPhase i task phase) where
  published := rfl
  committed := rfl
  marked := rfl
  position := rfl
  fetched := rfl
  workCh := rfl
  taken := rfl
  started := rfl
  finished := fun _ h => h
  accounted := fun _ htask => .inr (exists_mem_set_record hi htask)

lemma workerStep_release {i : ℕ} {task : Task} {handled deadLettered lost : List Record}
    (hi : s.inProgress[i]? = some task)
    (hgrow : ∀ r ∈ s.finished, r ∈ handled ++ deadLettered ++ lost)
    (hdone : task.record ∈ handled ++ deadLettered ++ lost) :
    WorkerStep s { s.release i with handled, deadLettered, lost } where
  published := rfl
  committed := rfl
  marked := rfl
  position := rfl
  fetched := rfl
  workCh := rfl
  taken := rfl
  started := rfl
  finished := hgrow
  accounted := by
    intro task' htask'
    rcases mem_eraseIdx_or_eq hi htask' with rfl | hmem
    · exact .inl hdone
    · exact .inr ⟨task', hmem, rfl⟩

lemma workerStep_handlerReturns {i : ℕ} {ok : Bool} (h : s.handlerReturns cfg i ok = some t) :
    WorkerStep s t := by
  unfold State.handlerReturns at h
  split at h
  case h_2 => exact absurd h (by simp)
  case h_1 r attempt hi =>
    split at h
    · obtain rfl := Option.some.inj h
      refine workerStep_release hi ?_ (by simp)
      intro r' hr'
      simp only [State.finished, List.mem_append] at hr' ⊢
      tauto
    · split at h
      all_goals
        obtain rfl := Option.some.inj h
        exact workerStep_setPhase hi

lemma workerStep_backoffElapsed {i : ℕ} (h : s.backoffElapsed i = some t) : WorkerStep s t := by
  unfold State.backoffElapsed at h
  split at h
  case h_2 => exact absurd h (by simp)
  case h_1 r attempt hi =>
    obtain rfl := Option.some.inj h
    exact workerStep_setPhase hi

lemma workerStep_contextCancelled {i : ℕ} (h : s.contextCancelled i = some t) :
    WorkerStep s t := by
  unfold State.contextCancelled at h
  split at h
  case h_2 => exact absurd h (by simp)
  case h_1 r attempt hi =>
    split at h
    · obtain rfl := Option.some.inj h
      exact workerStep_setPhase hi
    · exact absurd h (by simp)

lemma workerStep_dlqReturns {i : ℕ} {ok : Bool} (h : s.dlqReturns cfg i ok = some t) :
    WorkerStep s t := by
  unfold State.dlqReturns at h
  split at h
  case h_2 => exact absurd h (by simp)
  case h_1 r hi =>
    split at h
    all_goals
      obtain rfl := Option.some.inj h
      refine workerStep_release hi ?_ (by simp)
      intro r' hr'
      simp only [State.finished, List.mem_append] at hr' ⊢
      tauto

/-! ## Poll loop steps -/

lemma fetch_eq_some {tp : TopicPartition} (h : s.fetch tp = some t) :
    ∃ r, (s.log tp)[s.position tp]? = some r ∧
      t = { s with
        position := Function.update s.position tp (s.position tp + 1)
        fetched := s.fetched ++ [r] } := by
  unfold State.fetch at h
  split at h
  case h_1 => exact absurd h (by simp)
  case h_2 r hr => exact ⟨r, hr, (Option.some.inj h).symm⟩

lemma poll_induction {I : State → Prop} {picks : List TopicPartition}
    (keeps : ∀ s tp t, I s → s.fetch tp = some t → I t) (hs : I s)
    (h : s.poll picks = some t) : I t := by
  unfold State.poll at h
  split at h
  case isTrue => exact absurd h (by simp)
  case isFalse idle =>
    clear idle
    induction picks generalizing s with
    | nil =>
      obtain rfl : s = t := by simpa using h
      exact hs
    | cons tp picks ih =>
      rw [List.foldlM_cons] at h
      obtain ⟨m, hm, hrest⟩ := Option.bind_eq_some_iff.mp h
      exact ih (keeps s tp m hs hm) hrest

lemma dispatch_eq_some (h : s.dispatch cfg = some t) : ∃ r rest, s.fetched = r :: rest ∧
    t = { s with fetched := rest, workCh := s.workCh ++ [r] } := by
  unfold State.dispatch at h
  split at h
  case h_1 => exact absurd h (by simp)
  case h_2 r rest hf =>
    split at h
    · exact ⟨r, rest, hf, (Option.some.inj h).symm⟩
    · exact absurd h (by simp)

lemma take_eq_some (h : s.take cfg = some t) : ∃ r rest, s.workCh = r :: rest ∧
    t = { s with
      workCh := rest
      inProgress := s.inProgress ++ [⟨r, .handling 0⟩]
      taken := s.taken ++ [r]
      started := s.started ++ [r] } := by
  unfold State.take at h
  split at h
  case h_1 => exact absurd h (by simp)
  case h_2 r rest hw =>
    split at h
    · exact ⟨r, rest, hw, (Option.some.inj h).symm⟩
    · exact absurd h (by simp)

/-! ## Offsets -/

/-- Nothing was ever marked or committed. -/
def NothingMarked (s : State) : Prop := (∀ tp, s.marked tp = 0) ∧ ∀ tp, s.committed tp = 0

lemma nothingMarked_step {e : Event} (hs : NothingMarked s) (h : step cfg s e = some t) :
    NothingMarked t := by
  have worker : WorkerStep s t → NothingMarked t := by
    intro hw
    unfold NothingMarked
    rw [hw.marked, hw.committed]
    exact hs
  cases e with
  | publishTenant topic tenantID agentID value partition =>
    obtain rfl := Option.some.inj h
    unfold State.publishTenant
    split <;> exact hs
  | poll picks =>
    refine poll_induction (fun s tp t hs hfetch => ?_) hs h
    obtain ⟨r, -, rfl⟩ := fetch_eq_some hfetch
    exact hs
  | dispatch =>
    obtain ⟨r, rest, -, rfl⟩ := dispatch_eq_some h
    exact hs
  | take =>
    obtain ⟨r, rest, -, rfl⟩ := take_eq_some h
    exact hs
  | handlerReturns i ok => exact worker (workerStep_handlerReturns h)
  | backoffElapsed i => exact worker (workerStep_backoffElapsed h)
  | contextCancelled i => exact worker (workerStep_contextCancelled h)
  | dlqReturns i ok => exact worker (workerStep_dlqReturns h)
  | commit =>
    obtain rfl := Option.some.inj h
    exact ⟨hs.1, hs.1⟩
  | cancel | close =>
    obtain rfl := Option.some.inj h
    exact hs
  | restart =>
    obtain rfl := Option.some.inj h
    exact ⟨hs.2, hs.2⟩

/-- In every state a run reaches, nothing is marked and nothing is committed. -/
theorem nothingMarked_run {guard : State → Event → Prop} {es : List Event}
    (run : Lib.Run (step cfg) guard {} es t) : NothingMarked t :=
  run.invariant (fun _ _ _ hs _ h => nothingMarked_step hs h) ⟨fun _ => rfl, fun _ => rfl⟩

end Paryty.Stream

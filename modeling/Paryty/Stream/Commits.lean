import Paryty.Stream.ConsumerTheorems

/-!
# The commit discipline

What the consumer owes its group about offsets, and when it keeps it. A commit is safe when
everything below the committed offset was handled or dead-lettered; it covers the work done
when every handled or dead-lettered record was marked before it. The consumer is configured
to commit marked offsets and marks none, so every commit commits nothing: always safe, and
covering only as long as no record was completed.
-/

namespace Paryty.Stream

/-- Every record below a committed offset was handled or dead-lettered. -/
def CommittedSafe (s : State) : Prop :=
  ∀ r ∈ s.published, r.offset < s.committed r.topicPartition → r ∈ s.completed

/-- Every record handled or dead-lettered so far is marked. -/
def CompletedMarked (s : State) : Prop :=
  ∀ r ∈ s.completed, r.offset < s.marked r.topicPartition

/-- The commit discipline along the events `es`: in every state on the way the committed
offsets are safe, and at every commit the completed records are marked. -/
def CommitDiscipline (cfg : Config) (es : List Event) : Prop :=
  (∀ before after s, es = before ++ after → Lib.Run (step cfg) Lib.Unguarded {} before s →
    CommittedSafe s) ∧
  ∀ before after s, es = before ++ .commit :: after →
    Lib.Run (step cfg) Lib.Unguarded {} before s → CompletedMarked s

/-- No commit happens once a record was handled or dead-lettered. -/
def NoCommitAfterCompletion (cfg : Config) (es : List Event) : Prop :=
  ∀ before after s, es = before ++ .commit :: after →
    Lib.Run (step cfg) Lib.Unguarded {} before s → s.completed = []

lemma committedSafe_run {cfg : Config} {es : List Event} {s : State}
    (run : Lib.Run (step cfg) Lib.Unguarded {} es s) : CommittedSafe s := by
  intro r _ hoffset
  rw [(nothingMarked_run run).2] at hoffset
  exact absurd hoffset (Nat.not_lt_zero _)

lemma completedMarked_iff {cfg : Config} {es : List Event} {s : State}
    (run : Lib.Run (step cfg) Lib.Unguarded {} es s) :
    CompletedMarked s ↔ s.completed = [] := by
  constructor
  · intro hmarked
    rw [List.eq_nil_iff_forall_not_mem]
    intro r hr
    have hlt := hmarked r hr
    rw [(nothingMarked_run run).1] at hlt
    exact Nat.not_lt_zero _ hlt
  · intro hnone r hr
    rw [hnone] at hr
    exact absurd hr List.not_mem_nil

/-- The commit discipline holds along a run if and only if the run never commits after a
record was completed. -/
theorem commitDiscipline_iff (cfg : Config) (es : List Event) :
    CommitDiscipline cfg es ↔ NoCommitAfterCompletion cfg es := by
  constructor
  · rintro ⟨-, hcovers⟩ before after s hes run
    exact (completedMarked_iff run).mp (hcovers before after s hes run)
  · intro hnone
    refine ⟨fun _ _ _ _ run => committedSafe_run run, fun before after s hes run => ?_⟩
    exact (completedMarked_iff run).mpr (hnone before after s hes run)

/-- One record is published, fetched, handled at the first attempt, and then the auto-commit
timer fires. -/
def handledThenCommitted : List Event :=
  [.publishTenant "acme.metrics" "acme" "agent-1" [1] 0, .poll [("acme.metrics", 0)],
    .dispatch, .take, .handlerReturns 0 true, .commit]

/-- The handled record of `handledThenCommitted` is not marked when the commit runs. -/
theorem handled_record_not_covered :
    ¬ CommitDiscipline ⟨1, defaultMaxRetries, false⟩ handledThenCommitted := by
  rw [CommitDiscipline]
  rintro ⟨-, hcovers⟩
  have hrun : (handledThenCommitted.dropLast.foldlM (step ⟨1, defaultMaxRetries, false⟩)
      {}).isSome := by
    decide
  obtain ⟨s, hs⟩ := Option.isSome_iff_exists.mp hrun
  have hmarked := hcovers handledThenCommitted.dropLast [] s rfl (Lib.run_iff_foldlM.mpr hs)
  have hcompleted := (completedMarked_iff (Lib.run_iff_foldlM.mpr hs)).mp hmarked
  have hlength : ((handledThenCommitted.dropLast.foldlM (step ⟨1, defaultMaxRetries, false⟩)
      {}).map (fun s => s.completed.length)) = some 1 := by
    decide
  rw [hs, Option.map_some, hcompleted] at hlength
  exact absurd hlength (by decide)

end Paryty.Stream

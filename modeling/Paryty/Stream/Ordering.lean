import Paryty.Stream.ConsumerTheorems

/-!
# Per-agent order

`PublishTenant` keys a record by its tenant and agent so that "all records for the same
tenant+agent pair are routed to the same partition and processed in order". Neither half is
enforced: the partitioner ignores the key, and all workers receive from one channel. This
module proves what the rest of the pipeline does keep. A partition is fetched in order and
the channel is a queue, so order holds along every run in which

* a record goes to the partition of the earlier records with its key, and
* a worker receives a record only when no other worker holds one with its key.
-/

namespace Paryty.Stream

/-- The handler was called for a record only after the processing of every record published
before it under the same key had ended. -/
def InOrder (s : State) : Prop :=
  ∀ r₂ ∈ s.started, ∀ r₁ ∈ s.published, [r₁, r₂].Sublist s.published → r₁.key = r₂.key →
    r₁ ∈ s.finished

instance (s : State) : Decidable (InOrder s) :=
  inferInstanceAs (Decidable (∀ r₂ ∈ s.started, ∀ r₁ ∈ s.published,
    [r₁, r₂].Sublist s.published → r₁.key = r₂.key → r₁ ∈ s.finished))

/-- No worker holds a record with the key of the next one in the channel. -/
def NextKeyIdle (s : State) : Prop :=
  ∀ r ∈ s.workCh.head?, ∀ task ∈ s.inProgress, task.record.key ≠ r.key

/-- All earlier records with this key lie in the given partition. -/
def KeyRoutedTo (s : State) (key : String) (tp : TopicPartition) : Prop :=
  ∀ r ∈ s.published, r.key = key → r.topicPartition = tp

/-- The condition on a step: publishing keeps a key in its partition, and a worker takes a
record only while its key is idle. -/
def KeepsKeysApart (s : State) : Event → Prop
  | .publishTenant topic tenantID agentID _ partition =>
    KeyRoutedTo s (State.recordKey tenantID agentID) (topic, partition)
  | .take => NextKeyIdle s
  | _ => True

instance (s : State) : DecidablePred (KeepsKeysApart s)
  | .publishTenant topic tenantID agentID _ partition =>
    inferInstanceAs (Decidable (∀ r ∈ s.published, r.key = State.recordKey tenantID agentID →
      r.topicPartition = (topic, partition)))
  | .take => inferInstanceAs (Decidable (∀ r ∈ s.workCh.head?, ∀ task ∈ s.inProgress,
      task.record.key ≠ r.key))
  | .poll _ | .dispatch | .handlerReturns _ _ | .backoffElapsed _ | .contextCancelled _
  | .dlqReturns _ _ | .commit | .cancel | .close | .restart => isTrue trivial

/-! ## The invariant -/

/-- The records of one partition that left the broker, in the order they left it. -/
def State.consumed (s : State) (tp : TopicPartition) : List Record :=
  (s.taken ++ s.workCh ++ s.fetched).filter (fun r => r.topicPartition = tp)

/-- What carries the order through the pipeline. -/
structure Pipeline (s : State) : Prop where
  /-- Offsets grow along a partition's log. -/
  offset_lt : ∀ r ∈ s.published, r.offset < (s.log r.topicPartition).length
  /-- No record is published twice. -/
  nodup : s.published.Nodup
  /-- A key stays in its partition. -/
  routed : ∀ r₁ ∈ s.published, ∀ r₂ ∈ s.published, r₁.key = r₂.key →
    r₁.topicPartition = r₂.topicPartition
  /-- A partition is consumed front to back. -/
  consumed : ∀ tp, s.consumed tp <+: s.log tp
  position : ∀ tp, (s.consumed tp).length = s.position tp
  /-- What this process took from the channel is finished or held by a worker. -/
  taken : ∀ r ∈ s.taken, r ∈ s.finished ∨ ∃ task ∈ s.inProgress, task.record = r
  started : ∀ r ∈ s.started, r ∈ s.published
  inOrder : InOrder s

namespace Pipeline

variable {cfg : Config} {s t : State}

lemma init : Pipeline {} where
  offset_lt := by simp
  nodup := List.nodup_nil
  routed := by simp
  consumed := fun tp => List.prefix_refl _
  position := fun tp => rfl
  taken := by simp
  started := by simp
  inOrder := by simp [InOrder]

lemma of_workerStep (hs : Pipeline s) (h : WorkerStep s t) : Pipeline t where
  offset_lt := by
    unfold State.log
    rw [h.published]
    exact hs.offset_lt
  nodup := h.published ▸ hs.nodup
  routed := h.published ▸ hs.routed
  consumed := by
    unfold State.consumed State.log
    rw [h.taken, h.workCh, h.fetched, h.published]
    exact hs.consumed
  position := by
    unfold State.consumed
    rw [h.taken, h.workCh, h.fetched, h.position]
    exact hs.position
  taken := by
    intro r hr
    rw [h.taken] at hr
    rcases hs.taken r hr with hfin | ⟨task, htask, rfl⟩
    · exact .inl (h.finished r hfin)
    · exact h.accounted task htask
  started := by
    rw [h.started, h.published]
    exact hs.started
  inOrder := by
    intro r₂ hr₂ r₁ hr₁ hsub hkey
    rw [h.started] at hr₂
    rw [h.published] at hr₁ hsub
    exact h.finished r₁ (hs.inOrder r₂ hr₂ r₁ hr₁ hsub hkey)

/-- A pair in order in `l ++ [x]` whose second record is not `x` is in order in `l`. -/
lemma sublist_of_sublist_concat {l : List Record} {x r₁ r₂ : Record} (hne : r₂ ≠ x)
    (h : [r₁, r₂].Sublist (l ++ [x])) : [r₁, r₂].Sublist l := by
  have hrev := h.reverse
  simp only [List.reverse_append, List.reverse_cons, List.reverse_nil, List.nil_append,
    List.singleton_append] at hrev
  rcases List.sublist_cons_iff.mp hrev with hsub | ⟨rest, hrest, -⟩
  · simpa using hsub.reverse
  · exact absurd (by simpa using (List.cons.inj hrest).1) hne

lemma publishTenant {topic tenantID agentID : String} {value : List UInt8} {partition : ℕ}
    (hs : Pipeline s) (hroute : KeyRoutedTo s (State.recordKey tenantID agentID)
      (topic, partition)) :
    Pipeline (s.publishTenant topic tenantID agentID value partition) := by
  unfold State.publishTenant
  split
  case isTrue => exact hs
  case isFalse =>
    obtain ⟨new, hnew⟩ : ∃ new : Record, new = ⟨topic, partition,
      (s.log (topic, partition)).length, State.recordKey tenantID agentID, value, []⟩ := ⟨_, rfl⟩
    have htp : new.topicPartition = (topic, partition) := by rw [hnew]; rfl
    have hkeyNew : new.key = State.recordKey tenantID agentID := by rw [hnew]
    have hoffset : new.offset = (s.log new.topicPartition).length := by rw [htp, hnew]
    simp only [← hnew]
    -- Its offset is the end of its partition, where no record is yet.
    have hfresh : new ∉ s.published := by
      intro hmem
      have := hs.offset_lt new hmem
      omega
    have hlog : ∀ tp, (s.published ++ [new]).filter (fun r => r.topicPartition = tp) =
        s.log tp ++ [new].filter (fun r => r.topicPartition = tp) :=
      fun tp => List.filter_append ..
    constructor
    case offset_lt =>
      intro r hr
      show r.offset < (List.filter _ (s.published ++ [new])).length
      rw [hlog, List.length_append]
      rcases List.mem_append.mp hr with hr | hr
      · have := hs.offset_lt r hr
        omega
      · rw [List.mem_singleton.mp hr, hoffset]
        simp
    case nodup =>
      show (s.published ++ [new]).Nodup
      rw [List.nodup_append]
      refine ⟨hs.nodup, by simp, ?_⟩
      rintro r hr r' hr' rfl
      rw [List.mem_singleton.mp hr'] at hr
      exact hfresh hr
    case routed =>
      intro r₁ hr₁ r₂ hr₂ hkey
      have hroute' : ∀ r ∈ s.published, r.key = new.key →
          r.topicPartition = new.topicPartition := by
        rw [htp, hkeyNew]
        exact hroute
      rcases List.mem_append.mp hr₁ with hr₁ | hr₁ <;>
        rcases List.mem_append.mp hr₂ with hr₂ | hr₂
      · exact hs.routed r₁ hr₁ r₂ hr₂ hkey
      · rw [List.mem_singleton.mp hr₂] at hkey ⊢
        exact hroute' r₁ hr₁ hkey
      · rw [List.mem_singleton.mp hr₁] at hkey ⊢
        exact (hroute' r₂ hr₂ hkey.symm).symm
      · rw [List.mem_singleton.mp hr₁, List.mem_singleton.mp hr₂]
    case consumed =>
      intro tp
      show s.consumed tp <+: List.filter _ (s.published ++ [new])
      rw [hlog]
      exact (hs.consumed tp).trans (List.prefix_append _ _)
    case position => exact hs.position
    case taken => exact hs.taken
    case started => exact fun r hr => List.mem_append_left _ (hs.started r hr)
    case inOrder =>
      intro r₂ hr₂ r₁ hr₁ hsub hkey
      -- No handler has started with the new record.
      have hold : r₂ ∈ s.published := hs.started r₂ hr₂
      have hne : r₂ ≠ new := fun h => hfresh (h ▸ hold)
      have hsub' := sublist_of_sublist_concat hne hsub
      exact hs.inOrder r₂ hr₂ r₁ (hsub'.subset List.mem_cons_self) hsub' hkey

lemma fetch {tp : TopicPartition} (hs : Pipeline s) (h : s.fetch tp = some t) : Pipeline t := by
  obtain ⟨r, hr, rfl⟩ := fetch_eq_some h
  have htp : r.topicPartition = tp := by
    have hmem : r ∈ s.log tp := List.mem_of_getElem? hr
    simpa [State.log] using (List.mem_filter.mp hmem).2
  have hconsumed : ∀ tp', State.consumed { s with
      position := Function.update s.position tp (s.position tp + 1)
      fetched := s.fetched ++ [r] } tp' =
      s.consumed tp' ++ [r].filter (fun r => r.topicPartition = tp') := by
    intro tp'
    simp [State.consumed, List.filter_append]
  refine ⟨hs.offset_lt, hs.nodup, hs.routed, fun tp' => ?_, fun tp' => ?_, hs.taken, hs.started,
    hs.inOrder⟩
  · rw [hconsumed]
    by_cases htp' : tp = tp'
    · subst htp'
      obtain ⟨rest, hrest⟩ := hs.consumed tp
      rw [← hs.position tp, ← hrest, List.getElem?_append_right (Nat.le_refl _), Nat.sub_self] at hr
      obtain ⟨rest', rfl⟩ : ∃ rest', rest = r :: rest' := by
        cases rest with
        | nil => simp at hr
        | cons head rest' => exact ⟨rest', by simpa using hr⟩
      refine ⟨rest', ?_⟩
      show _ = s.log tp
      rw [← hrest]
      simp [htp]
    · have hother : [r].filter (fun r => r.topicPartition = tp') = [] := by simp [htp, htp']
      rw [hother, List.append_nil]
      exact hs.consumed tp'
  · rw [hconsumed, List.length_append, hs.position]
    by_cases htp' : tp = tp'
    · subst htp'
      simp [htp]
    · simp [htp, htp', Function.update_of_ne (Ne.symm htp')]

lemma dispatch (hs : Pipeline s) (h : s.dispatch cfg = some t) : Pipeline t := by
  obtain ⟨r, rest, hfetched, rfl⟩ := dispatch_eq_some h
  have hconsumed : ∀ tp, State.consumed { s with fetched := rest, workCh := s.workCh ++ [r] } tp =
      s.consumed tp := by
    intro tp
    simp [State.consumed, hfetched]
  refine ⟨hs.offset_lt, hs.nodup, hs.routed, fun tp => ?_, fun tp => ?_, hs.taken, hs.started,
    hs.inOrder⟩
  · rw [hconsumed]
    exact hs.consumed tp
  · rw [hconsumed]
    exact hs.position tp

/-- In a list without duplicates, what comes before `r₂` in `front ++ r₂ :: back` is in
`front`. -/
lemma mem_front_of_sublist {front back : List Record} {r₁ r₂ : Record}
    (hnodup : (front ++ r₂ :: back).Nodup) (h : [r₁, r₂].Sublist (front ++ r₂ :: back)) :
    r₁ ∈ front := by
  have hback : r₂ ∉ back := by
    have := (List.nodup_append.mp hnodup).2.1
    exact (List.nodup_cons.mp this).1
  obtain ⟨l₁, l₂, heq, hfront, hrest⟩ := List.sublist_append_iff.mp h
  cases l₁ with
  | nil =>
    -- then both records lie in `r₂ :: back`, and the second one in `back`
    rw [List.nil_append] at heq
    subst heq
    rcases List.sublist_cons_iff.mp hrest with hsub | ⟨tail, htail, hsub⟩
    · exact absurd (hsub.subset (by simp)) hback
    · obtain rfl : [r₂] = tail := (List.cons.inj htail).2
      exact absurd (hsub.subset (by simp)) hback
  | cons head tail =>
    obtain rfl : r₁ = head := (List.cons.inj heq).1
    exact hfront.subset List.mem_cons_self

/-- A worker takes the next record while its key is idle: everything published before it
under its key was taken earlier and is finished. -/
lemma take (hs : Pipeline s) (hidle : NextKeyIdle s) (h : s.take cfg = some t) : Pipeline t := by
  obtain ⟨r, rest, hchannel, rfl⟩ := take_eq_some h
  have hconsumed : ∀ tp, State.consumed { s with
      workCh := rest
      inProgress := s.inProgress ++ [⟨r, .handling 0⟩]
      taken := s.taken ++ [r]
      started := s.started ++ [r] } tp = s.consumed tp := by
    intro tp
    simp [State.consumed, hchannel]
  -- the log of the record's partition: what was taken from it, the record, the rest
  obtain ⟨back, hback⟩ : ∃ back, s.log r.topicPartition =
      s.taken.filter (fun r' => r'.topicPartition = r.topicPartition) ++ r :: back := by
    obtain ⟨tail, htail⟩ := hs.consumed r.topicPartition
    refine ⟨(rest ++ s.fetched).filter (fun r' => r'.topicPartition = r.topicPartition) ++ tail,
      ?_⟩
    rw [← htail, State.consumed, hchannel]
    simp
  have hlogNodup : (s.log r.topicPartition).Nodup := List.filter_sublist.nodup hs.nodup
  have hmem : r ∈ s.published := by
    have : r ∈ s.log r.topicPartition := by simp [hback]
    exact (List.mem_filter.mp this).1
  refine ⟨hs.offset_lt, hs.nodup, hs.routed, fun tp => ?_, fun tp => ?_, ?_, ?_, ?_⟩
  · rw [hconsumed]
    exact hs.consumed tp
  · rw [hconsumed]
    exact hs.position tp
  · intro r' hr'
    rcases List.mem_append.mp hr' with hr' | hr'
    · rcases hs.taken r' hr' with hfin | ⟨task, htask, heq⟩
      · exact .inl hfin
      · exact .inr ⟨task, List.mem_append_left _ htask, heq⟩
    · refine .inr ⟨⟨r, .handling 0⟩, by simp, ?_⟩
      exact (List.mem_singleton.mp hr').symm
  · intro r' hr'
    rcases List.mem_append.mp hr' with hr' | hr'
    · exact hs.started r' hr'
    · rw [List.mem_singleton.mp hr']
      exact hmem
  · intro r₂ hr₂ r₁ hr₁ hsub hkey
    show r₁ ∈ s.finished
    rcases List.mem_append.mp hr₂ with hr₂ | hr₂
    · exact hs.inOrder r₂ hr₂ r₁ hr₁ hsub hkey
    · obtain rfl := List.mem_singleton.mp hr₂
      have htp := hs.routed r₁ hr₁ r₂ hmem hkey
      have hinLog : [r₁, r₂].Sublist (s.log r₂.topicPartition) := by
        have := hsub.filter (fun r' => decide (r'.topicPartition = r₂.topicPartition))
        simpa [htp, State.log] using this
      rw [hback] at hinLog hlogNodup
      have htaken := (List.mem_filter.mp (mem_front_of_sublist hlogNodup hinLog)).1
      rcases hs.taken r₁ htaken with hfin | ⟨task, htask, rfl⟩
      · exact hfin
      · exact absurd hkey (hidle r₂ (by simp [hchannel]) task htask)

lemma restart (hs : Pipeline s) (hoffsets : NothingMarked s) : Pipeline s.restart where
  offset_lt := hs.offset_lt
  nodup := hs.nodup
  routed := hs.routed
  consumed := fun _ => List.nil_prefix
  position := fun tp => (hoffsets.2 tp).symm
  taken := fun _ hr => absurd hr List.not_mem_nil
  started := hs.started
  inOrder := hs.inOrder

lemma step {e : Event} (hs : Pipeline s) (hoffsets : NothingMarked s) (hguard : KeepsKeysApart s e)
    (h : Stream.step cfg s e = some t) : Pipeline t := by
  cases e with
  | publishTenant topic tenantID agentID value partition =>
    obtain rfl := Option.some.inj h
    exact hs.publishTenant hguard
  | poll picks => exact poll_induction (fun s tp t hs hfetch => hs.fetch hfetch) hs h
  | dispatch => exact hs.dispatch h
  | take => exact hs.take hguard h
  | handlerReturns i ok => exact hs.of_workerStep (workerStep_handlerReturns h)
  | backoffElapsed i => exact hs.of_workerStep (workerStep_backoffElapsed h)
  | contextCancelled i => exact hs.of_workerStep (workerStep_contextCancelled h)
  | dlqReturns i ok => exact hs.of_workerStep (workerStep_dlqReturns h)
  | restart =>
    obtain rfl := Option.some.inj h
    exact hs.restart hoffsets
  | commit | cancel | close =>
    -- offsets and flags play no part in the order
    obtain rfl := Option.some.inj h
    exact ⟨hs.offset_lt, hs.nodup, hs.routed, hs.consumed, hs.position, hs.taken, hs.started,
      hs.inOrder⟩

end Pipeline

/-- Along every run whose steps keep keys apart, the handler processes the records of each
tenant and agent in publish order. -/
theorem processed_in_publish_order {cfg : Config} {es : List Event} {s : State}
    (run : Lib.Run (step cfg) KeepsKeysApart {} es s) : InOrder s := by
  have hinv : NothingMarked s ∧ Pipeline s := by
    refine run.invariant (I := fun s => NothingMarked s ∧ Pipeline s) ?_ ?_
    · rintro s e t ⟨hoffsets, hs⟩ hguard h
      exact ⟨nothingMarked_step hoffsets h, hs.step hoffsets hguard h⟩
    · exact ⟨⟨fun _ => rfl, fun _ => rfl⟩, Pipeline.init⟩
  exact hinv.2.inOrder

/-- A run in which every step keeps keys apart: two records of one agent through one partition,
the second one taken after the first one's retry succeeded. -/
def oneAfterTheOther : List Event :=
  [.publishTenant "acme.metrics" "acme" "agent-1" [1] 0,
    .publishTenant "acme.metrics" "acme" "agent-1" [2] 0,
    .poll [("acme.metrics", 0), ("acme.metrics", 0)], .dispatch, .dispatch, .take,
    .handlerReturns 0 false, .backoffElapsed 0, .handlerReturns 0 true, .take]

/-- The run `oneAfterTheOther` on two workers is in order. -/
theorem processed_in_publish_order_witness :
    ∃ s, Lib.Run (step ⟨2, defaultMaxRetries, true⟩) KeepsKeysApart {} oneAfterTheOther s ∧
      InOrder s := by
  have hrun : (oneAfterTheOther.foldlM
      (Lib.restrict (step ⟨2, defaultMaxRetries, true⟩) KeepsKeysApart) {}).isSome := by
    decide
  obtain ⟨s, hs⟩ := Option.isSome_iff_exists.mp hrun
  have run := Lib.run_iff_foldlM_restrict.mpr hs
  exact ⟨s, run, processed_in_publish_order run⟩

/-- Two records of one agent that the partitioner puts into different partitions, the second
one fetched and handled first. -/
def overtaken : List Event :=
  [.publishTenant "acme.metrics" "acme" "agent-1" [1] 0,
    .publishTenant "acme.metrics" "acme" "agent-1" [2] 1,
    .poll [("acme.metrics", 1), ("acme.metrics", 0)], .dispatch, .take,
    .handlerReturns 0 true]

/-- The run `overtaken` handles the second record before the first, on a single worker. -/
theorem second_record_handled_first :
    ¬ ∀ es s, Lib.Run (step ⟨1, defaultMaxRetries, true⟩) Lib.Unguarded {} es s → InOrder s := by
  intro h
  have hrun : ((overtaken.foldlM (step ⟨1, defaultMaxRetries, true⟩) {}).map
      (fun s => decide (InOrder s))) = some false := by
    decide
  obtain ⟨s, hs, hfalse⟩ := Option.map_eq_some_iff.mp hrun
  exact of_decide_eq_false hfalse (h overtaken s (Lib.run_iff_foldlM.mpr hs))

end Paryty.Stream

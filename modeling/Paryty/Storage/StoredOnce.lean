import Paryty.Storage.WarmTier

/-!
# When an accepted batch is stored once

`SendBatch` reports success as soon as the batch is published. By then its own write may have
failed without notice: `StoreMetricWarmCold` keeps the error to itself, and an open breaker skips
the write. The pipeline writes the published copy again whatever became of the first write, and
once more with every retry and every redelivery.

* `StoredOnce`: every metric of an accepted batch is in the tier at most once, and exactly once
  when no delivery of its record is open.
* `OneWriter`: of the writers of an accepted batch, the first one that commits is the only one, and
  one does before its record is done with.
* `storedOnce_of_oneWriter`: runs of such steps store every accepted batch once.
* `stored_twice`: with both writers well, every row is there twice.
-/

namespace Paryty.Storage

variable {V : Type*}

/-! ## The rows of a batch -/

lemma countP_zipIdx_snd {α : Type*} (l : List α) (start i : ℕ) :
    (l.zipIdx start).countP (fun p => p.2 = i) =
      if start ≤ i ∧ i < start + l.length then 1 else 0 := by
  induction l generalizing start with
  | nil => simp
  | cons a l ih =>
    rw [List.zipIdx_cons, List.countP_cons, ih, List.length_cons]
    simp only [decide_eq_true_eq]
    split_ifs <;> omega

/-- A metric in the given place of the list for a table. -/
def MetricBatch.Has (batch : MetricBatch V) (table : MetricTable) (place : ℕ) : Prop :=
  place < (batch.metrics table).length

instance (batch : MetricBatch V) (table : MetricTable) (place : ℕ) :
    Decidable (batch.Has table place) :=
  inferInstanceAs (Decidable (_ < _))

@[simp] lemma has_enrichBatch {agentInfoID : String} {batch : MetricBatch V} {table : MetricTable}
    {place : ℕ} : (enrichBatch agentInfoID batch).Has table place ↔ batch.Has table place := by
  simp [MetricBatch.Has, enrichBatch]

/-- The row is a copy of the metric a call brought in the given place. -/
def WarmRow.CopyOf (r : WarmRow V) (c : ℕ) (table : MetricTable) (place : ℕ) : Prop :=
  r.call = c ∧ r.table = table ∧ r.place = place

instance (r : WarmRow V) (c : ℕ) (table : MetricTable) (place : ℕ) :
    Decidable (r.CopyOf c table place) :=
  inferInstanceAs (Decidable (_ ∧ _ ∧ _))

lemma countP_insertMetricBatch (call : ℕ) (batch : MetricBatch V) (tenant : String) (c : ℕ)
    (table : MetricTable) (place : ℕ) :
    (insertMetricBatch call batch tenant).countP (fun r => r.CopyOf c table place) =
      if call = c ∧ batch.Has table place then 1 else 0 := by
  have hone (t : MetricTable) : ((batch.metrics t).mapIdx fun place' metric =>
      (⟨t, metric.agentID, tenant, metric.timestamp, metric.values, call, place'⟩ :
        WarmRow V)).countP (fun r => r.CopyOf c table place) =
      if t = table ∧ call = c ∧ batch.Has table place then 1 else 0 := by
    rw [List.mapIdx_eq_zipIdx_map, List.countP_map]
    by_cases h : t = table ∧ call = c
    · obtain ⟨rfl, rfl⟩ := h
      have hplace := countP_zipIdx_snd (batch.metrics t) 0 place
      simp only [Nat.zero_le, true_and, Nat.zero_add] at hplace
      simpa [Function.comp_def, WarmRow.CopyOf, MetricBatch.Has] using hplace
    · rw [if_neg fun hand => h ⟨hand.1, hand.2.1⟩, List.countP_eq_zero]
      intro p hp hcopy
      obtain ⟨hcall, htable, -⟩ := of_decide_eq_true hcopy
      exact h ⟨htable, hcall⟩
  rw [insertMetricBatch, List.countP_flatMap]
  simp only [MetricTable.all, List.map_cons, List.map_nil, List.sum_cons, List.sum_nil,
    Function.comp_apply, hone]
  cases table <;> simp

lemma call_of_mem_insertMetricBatch {call : ℕ} {batch : MetricBatch V} {tenant : String}
    {r : WarmRow V} (hr : r ∈ insertMetricBatch call batch tenant) : r.call = call := by
  obtain ⟨table, -, hr⟩ := List.mem_flatMap.mp hr
  obtain ⟨i, hi, rfl⟩ := List.mem_mapIdx.mp hr
  rfl

/-- The replica whose handler runs and has not come as far as the store. -/
def DeliveryPhase.handler : DeliveryPhase → Option ℕ
  | .handling replica _ => some replica
  | _ => none

/-- The handler is past the store, or done. -/
def DeliveryPhase.Past (phase : DeliveryPhase) : Prop :=
  phase = .finished ∨ ∃ replica attempt, phase = .stored replica attempt

/-- The call has not returned. -/
def CallPhase.Open (phase : CallPhase) : Prop := phase = .inserting ∨ phase = .publishing

namespace State

/-! ## Stored once -/

/-- How many copies of a metric are in the tier. -/
def copies (s : State V) (c : ℕ) (table : MetricTable) (place : ℕ) : ℕ :=
  s.warm.countP (fun r => r.CopyOf c table place)

/-- No delivery of the call's record is open. -/
def Settled (s : State V) (c : ℕ) : Prop :=
  ∀ (i : ℕ) (d : Delivery), s.deliveries[i]? = some d → d.call = c → d.phase = .finished

/-- Every metric of the batch is in the tier at most once, and exactly once when its record is
settled. -/
def Once (s : State V) (c : ℕ) (batch : MetricBatch V) : Prop :=
  ∀ table place, batch.Has table place →
    s.copies c table place ≤ 1 ∧ (s.Settled c → s.copies c table place = 1)

/-- The call of `SendBatch` reported success. -/
def Accepted (s : State V) (c : ℕ) (call : Call V) : Prop :=
  s.calls[c]? = some call ∧ call.phase = .accepted

/-- Every accepted batch is stored once. -/
def StoredOnce (s : State V) : Prop := ∀ c call, s.Accepted c call → s.Once c call.batch

/-- No row of the call is in the tier. -/
def Absent (s : State V) (c : ℕ) : Prop := ∀ r ∈ s.warm, r.call ≠ c

instance (s : State V) (c : ℕ) : Decidable (s.Absent c) := inferInstanceAs (Decidable (∀ _ ∈ _, _))

/-- Every metric of the batch is in the tier, once. -/
def Present (s : State V) (c : ℕ) (batch : MetricBatch V) : Prop :=
  ∀ table place, batch.Has table place → s.copies c table place = 1

/-- The pipeline writes an accepted batch that is not in the tier yet, and only such a one: the
breaker of the replica lets the write through and the transaction commits if and only if no row is
there. A handler that has not come as far as the store ends for good only if rows are there. -/
def OneWriter (maxRetries : ℕ) (s : State V) : Event V → Prop
  | .handlerStores i now _ => ∀ d ∈ s.deliveries[i]?, ∀ call ∈ s.calls[d.call]?,
      call.phase = .accepted → ∀ replica ∈ d.phase.handler,
        (((s.warmBreaker (.pipeline replica)).allow now).1 = true ↔ s.Absent d.call)
  | .handlerInsertReturns i _ outcome => ∀ d ∈ s.deliveries[i]?, ∀ call ∈ s.calls[d.call]?,
      call.phase = .accepted → (outcome.stores = true ↔ s.Absent d.call)
  | .handlerReturns i ok stopping => ∀ d ∈ s.deliveries[i]?, ∀ call ∈ s.calls[d.call]?,
      call.phase = .accepted → d.phase.handler ≠ none →
        returned maxRetries d.phase ok stopping = some .finished → ¬ s.Absent d.call
  | _ => True

instance (maxRetries : ℕ) (s : State V) : DecidablePred (OneWriter maxRetries s)
  | .handlerStores _ _ _ | .handlerInsertReturns _ _ _ | .handlerReturns _ _ _ =>
    inferInstanceAs (Decidable (∀ _ ∈ _, _))
  | .sendBatch _ _ _ _ _ | .insertReturns _ _ _ | .publishReturns _ _ _ | .take _ _ | .redeliver _
  | .otherWarmOperation _ _ _ _ | .coldWrite _ | .restart _ => .isTrue trivial

/-! ## What the parts of a step change -/

section Parts

variable {s s' : State V} {c : ℕ} {call : Call V} {i : ℕ} {d : Delivery}

@[simp] lemma warm_enqueueCold (p : Process) (batch : MetricBatch V) :
    (s.enqueueCold p batch).warm = s.warm := by unfold enqueueCold; split <;> rfl

@[simp] lemma calls_enqueueCold (p : Process) (batch : MetricBatch V) :
    (s.enqueueCold p batch).calls = s.calls := by unfold enqueueCold; split <;> rfl

@[simp] lemma deliveries_enqueueCold (p : Process) (batch : MetricBatch V) :
    (s.enqueueCold p batch).deliveries = s.deliveries := by unfold enqueueCold; split <;> rfl

@[simp] lemma warm_askBreaker (p : Process) (now : ℤ) : (s.askBreaker p now).warm = s.warm := rfl

@[simp] lemma calls_askBreaker (p : Process) (now : ℤ) : (s.askBreaker p now).calls = s.calls := rfl

@[simp] lemma deliveries_askBreaker (p : Process) (now : ℤ) :
    (s.askBreaker p now).deliveries = s.deliveries := rfl

section FinishInsert

variable (p : Process) (batch : MetricBatch V) (tenant : String) (now : ℤ) (outcome : Outcome)

lemma warm_finishInsert : (s.finishInsert p c batch tenant now outcome).warm =
    if outcome.stores then s.warm ++ insertMetricBatch c batch tenant else s.warm := by
  simp [finishInsert]

@[simp] lemma calls_finishInsert :
    (s.finishInsert p c batch tenant now outcome).calls = s.calls := by simp [finishInsert]

@[simp] lemma deliveries_finishInsert :
    (s.finishInsert p c batch tenant now outcome).deliveries = s.deliveries := by
  simp [finishInsert]

end FinishInsert

lemma calls_setCall (h : s.calls[c]? = some call) (call' : Call V) (c' : ℕ) :
    (s.setCall c call').calls[c']? = if c = c' then some call' else s.calls[c']? := by
  obtain ⟨hc, -⟩ := List.getElem?_eq_some_iff.mp h
  simp [setCall, List.getElem?_set, hc]

lemma copies_congr (h : s'.warm = s.warm) : s'.copies = s.copies := by
  unfold copies
  rw [h]

lemma copies_of_warm {batch : MetricBatch V} {tenant : String} {stores : Bool}
    (h : s'.warm = if stores then s.warm ++ insertMetricBatch c batch tenant else s.warm)
    (c' : ℕ) (table : MetricTable) (place : ℕ) : s'.copies c' table place =
      s.copies c' table place +
        if stores = true ∧ c = c' ∧ batch.Has table place then 1 else 0 := by
  unfold copies
  cases stores with
  | false => simp [h]
  | true =>
    rw [h, if_pos rfl, List.countP_append, countP_insertMetricBatch]
    simp

end Parts

/-! ## The invariant -/

/-- A call that has returned. -/
def Returned (s : State V) (c : ℕ) : Prop :=
  ∃ call : Call V, s.calls[c]? = some call ∧ ¬ call.phase.Open

/-- What holds in every state: rows and deliveries belong to calls that were made, a record is
delivered only after its call returned, the batch of a call that is not rejected is in the tier once
or not at all, and there once where a handler of an accepted one is past the store. -/
structure Inv (s : State V) : Prop where
  rows : ∀ r ∈ s.warm, r.call < s.calls.length
  delivered : ∀ d ∈ s.deliveries, s.Returned d.call
  published : ∀ (c : ℕ) (call : Call V), s.calls[c]? = some call → call.published = true →
    ¬ call.phase.Open
  inserting : ∀ (c : ℕ) (call : Call V), s.calls[c]? = some call → call.phase = .inserting →
    s.Absent c
  whole : ∀ (c : ℕ) (call : Call V), s.calls[c]? = some call → call.phase ≠ .rejected →
    s.Absent c ∨ s.Present c call.batch
  accepted : ∀ (c : ℕ) (call : Call V), s.Accepted c call → ∃ d ∈ s.deliveries, d.call = c
  past : ∀ d ∈ s.deliveries, d.phase.Past → ∀ call, s.Accepted d.call call →
    s.Present d.call call.batch

lemma Absent.copies_eq_zero {s : State V} {c : ℕ} (h : s.Absent c) (table : MetricTable)
    (place : ℕ) : s.copies c table place = 0 :=
  List.countP_eq_zero.mpr fun r hr hcopy => h r hr (of_decide_eq_true hcopy).1

namespace Inv

variable {s s' : State V} {c : ℕ} {call : Call V} {i : ℕ} {d : Delivery}

lemma init : ({} : State V).Inv := by
  constructor <;> simp [Accepted]

lemma storedOnce (h : s.Inv) : s.StoredOnce := by
  intro c call hcall table place hhas
  obtain ⟨d, hd, rfl⟩ := h.accepted c call hcall
  refine ⟨?_, fun hsettled => ?_⟩
  · have hphase : call.phase ≠ .rejected := by rw [hcall.2]; decide
    rcases h.whole d.call call hcall.1 hphase with habsent | hpresent
    · rw [habsent.copies_eq_zero]
      exact Nat.zero_le 1
    · exact (hpresent table place hhas).le
  · obtain ⟨i, hi⟩ := List.mem_iff_getElem?.mp hd
    exact h.past d hd (.inl (hsettled i d hi rfl)) call hcall table place hhas

lemma present (h : s.Inv) (hcall : s.Accepted c call) (habsent : ¬ s.Absent c) :
    s.Present c call.batch := by
  have hphase : call.phase ≠ .rejected := by rw [hcall.2]; decide
  exact (h.whole c call hcall.1 hphase).resolve_left habsent

/-- A step that leaves rows and calls alone keeps the invariant, if it delivers only what returned
calls published, and a handler gets past the store only with the batch in the tier. -/
lemma frame (h : s.Inv) (hwarm : s'.warm = s.warm) (hcalls : s'.calls = s.calls)
    (hdeliveries : ∀ d ∈ s'.deliveries, s.Returned d.call)
    (hkept : ∀ d ∈ s.deliveries, ∃ d' ∈ s'.deliveries, d'.call = d.call)
    (hpast : ∀ d ∈ s'.deliveries, d.phase.Past → ∀ call, s.Accepted d.call call →
      s.Present d.call call.batch) : s'.Inv := by
  have hcopies := copies_congr hwarm
  refine ⟨?_, ?_, ?_, ?_, ?_, fun c call hcall => ?_, ?_⟩
  · rw [hwarm, hcalls]
    exact h.rows
  · simp only [Returned, hcalls]
    exact hdeliveries
  · rw [hcalls]
    exact h.published
  · simp only [Absent, hcalls, hwarm]
    exact h.inserting
  · simp only [Absent, Present, hcalls, hwarm, hcopies]
    exact h.whole
  · rw [Accepted, hcalls] at hcall
    obtain ⟨d, hd, rfl⟩ := h.accepted c call hcall
    exact hkept d hd
  · simp only [Accepted, Present, hcalls, hcopies]
    exact hpast

lemma frame_deliveries (h : s.Inv) (hwarm : s'.warm = s.warm) (hcalls : s'.calls = s.calls)
    (hdeliveries : s'.deliveries = s.deliveries) : s'.Inv :=
  h.frame hwarm hcalls (hdeliveries ▸ h.delivered) (fun d hd => ⟨d, hdeliveries ▸ hd, rfl⟩)
    (hdeliveries ▸ h.past)

lemma setPhase (h : s.Inv) (hd : s.deliveries[i]? = some d) {phase : DeliveryPhase}
    (hpast : phase.Past → ∀ call, s.Accepted d.call call → s.Present d.call call.batch) :
    (s.setPhase i d phase).Inv := by
  have hmem := List.mem_of_getElem? hd
  obtain ⟨hi, hget⟩ := List.getElem?_eq_some_iff.mp hd
  refine h.frame rfl rfl (fun d' hd' => ?_) (fun d' hd' => ?_) fun d' hd' => ?_
  · rcases List.mem_or_eq_of_mem_set hd' with hd' | rfl
    · exact h.delivered d' hd'
    · exact h.delivered d hmem
  · obtain ⟨j, hj, rfl⟩ := List.mem_iff_getElem.mp hd'
    refine ⟨_, List.getElem_mem (n := j) (by simpa [State.setPhase] using hj), ?_⟩
    by_cases hij : i = j
    · subst hij
      simp [State.setPhase, hget]
    · simp [State.setPhase, hij]
  · rcases List.mem_or_eq_of_mem_set hd' with hd' | rfl
    · exact h.past d' hd'
    · exact hpast

lemma setCall (h : s.Inv) (hc : s.calls[c]? = some call) (hopen : call.phase.Open) {call' : Call V}
    {new : List Delivery} (hwarm : s'.warm = s.warm) (hcalls : s'.calls = s.calls.set c call')
    (hdeliveries : s'.deliveries = s.deliveries ++ new) (hbatch : call'.batch = call.batch)
    (hpublished : call'.published = true → ¬ call'.phase.Open)
    (hinserting : call'.phase ≠ .inserting)
    (hnew : ∀ d ∈ new, d = ⟨c, .inTopic⟩ ∧ ¬ call'.phase.Open)
    (haccepted : call'.phase = .accepted → ∃ d ∈ new, d.call = c) : s'.Inv := by
  have hcopies := copies_congr hwarm
  have hget (c' : ℕ) : s'.calls[c']? = if c = c' then some call' else s.calls[c']? := by
    rw [hcalls]
    exact calls_setCall hc call' c'
  -- The call of a delivery has returned, so it is not the one that goes on.
  have hne : ∀ d ∈ s.deliveries, c ≠ d.call := by
    rintro d hd rfl
    obtain ⟨call₀, hcall₀, hreturned⟩ := h.delivered d hd
    obtain rfl := Option.some.inj (hc.symm.trans hcall₀)
    exact hreturned hopen
  refine ⟨?_, fun d hd => ?_, fun c' call₀ hcall₀ => ?_, fun c' call₀ hcall₀ hphase => ?_,
    fun c' call₀ hcall₀ hphase => ?_, fun c' call₀ hcall₀ => ?_, fun d hd hphase call₀ hcall₀ => ?_⟩
  · intro r hr
    rw [hwarm] at hr
    simpa [hcalls] using h.rows r hr
  · rw [hdeliveries] at hd
    rcases List.mem_append.mp hd with hd | hd
    · obtain ⟨call₀, hcall₀, hreturned⟩ := h.delivered d hd
      exact ⟨call₀, (hget _).trans ((if_neg (hne d hd)).trans hcall₀), hreturned⟩
    · obtain ⟨rfl, hclosed⟩ := hnew d hd
      exact ⟨call', (hget _).trans (if_pos rfl), hclosed⟩
  · rw [hget] at hcall₀
    split at hcall₀
    case isTrue =>
      obtain rfl := Option.some.inj hcall₀
      exact hpublished
    case isFalse => exact h.published c' call₀ hcall₀
  · rw [hget] at hcall₀
    split at hcall₀
    case isTrue =>
      obtain rfl := Option.some.inj hcall₀
      exact absurd hphase hinserting
    case isFalse =>
      rw [Absent, hwarm]
      exact h.inserting c' call₀ hcall₀ hphase
  · rw [Absent, hwarm, Present, hcopies]
    rw [hget] at hcall₀
    split at hcall₀
    case isTrue heq =>
      obtain rfl := Option.some.inj hcall₀
      subst heq
      rw [hbatch]
      refine h.whole c call hc fun hrejected => ?_
      rw [hrejected] at hopen
      simp [CallPhase.Open] at hopen
    case isFalse => exact h.whole c' call₀ hcall₀ hphase
  · obtain ⟨hcall₀, hphase⟩ := hcall₀
    rw [hdeliveries]
    rw [hget] at hcall₀
    split at hcall₀
    case isTrue heq =>
      obtain rfl := Option.some.inj hcall₀
      obtain ⟨d, hd, hdc⟩ := haccepted hphase
      exact ⟨d, List.mem_append_right _ hd, hdc.trans heq⟩
    case isFalse =>
      obtain ⟨d, hd, hdc⟩ := h.accepted c' call₀ ⟨hcall₀, hphase⟩
      exact ⟨d, List.mem_append_left _ hd, hdc⟩
  · rw [hdeliveries] at hd
    rw [Present, hcopies]
    rcases List.mem_append.mp hd with hd | hd
    · obtain ⟨hcall₀, haccepted₀⟩ := hcall₀
      rw [hget, if_neg (hne d hd)] at hcall₀
      exact h.past d hd hphase call₀ ⟨hcall₀, haccepted₀⟩
    · obtain ⟨rfl, -⟩ := hnew d hd
      simp [DeliveryPhase.Past] at hphase

lemma openCall (h : s.Inv) (hwarm : s'.warm = s.warm) (hdeliveries : s'.deliveries = s.deliveries)
    (hcalls : s'.calls = s.calls ++ [call]) (hpublished : call.published = false)
    (hopen : call.phase.Open) : s'.Inv := by
  have hcopies := copies_congr hwarm
  have hget {c : ℕ} {call' : Call V} (hc : s'.calls[c]? = some call') :
      s.calls[c]? = some call' ∨ (c = s.calls.length ∧ call' = call) := by
    rw [hcalls, List.getElem?_append] at hc
    split at hc
    case isTrue => exact .inl hc
    case isFalse hlt =>
      obtain ⟨hzero, rfl⟩ := List.getElem?_eq_some_iff.mp hc
      exact .inr ⟨by simp at hzero; omega, by simp⟩
  have habsent : s.Absent s.calls.length := fun r hr => (h.rows r hr).ne
  have hold {c : ℕ} {call' : Call V} (hcall : s'.Accepted c call') : s.Accepted c call' := by
    rcases hget hcall.1 with hc | ⟨-, rfl⟩
    · exact ⟨hc, hcall.2⟩
    · rw [hcall.2] at hopen
      simp [CallPhase.Open] at hopen
  refine ⟨fun r hr => ?_, fun d hd => ?_, fun c call' hc => ?_, fun c call' hc hphase => ?_,
    fun c call' hc hphase => ?_, fun c call' hcall => ?_, fun d hd hphase call' hcall => ?_⟩
  · rw [hwarm] at hr
    have := h.rows r hr
    simp [hcalls]
    omega
  · rw [hdeliveries] at hd
    obtain ⟨call₀, hcall₀, hreturned⟩ := h.delivered d hd
    obtain ⟨hlt, -⟩ := List.getElem?_eq_some_iff.mp hcall₀
    exact ⟨call₀, by rw [hcalls, List.getElem?_append_left hlt, hcall₀], hreturned⟩
  · rcases hget hc with hc | ⟨-, rfl⟩
    · exact h.published c call' hc
    · simp [hpublished]
  · rw [Absent, hwarm]
    rcases hget hc with hc | ⟨rfl, -⟩
    · exact h.inserting c call' hc hphase
    · exact habsent
  · rw [Absent, hwarm, Present, hcopies]
    rcases hget hc with hc | ⟨rfl, -⟩
    · exact h.whole c call' hc hphase
    · exact .inl habsent
  · rw [hdeliveries]
    exact h.accepted c call' (hold hcall)
  · rw [Present, hcopies]
    exact h.past d (hdeliveries ▸ hd) hphase call' (hold hcall)

/-- A transaction for a call commits, or not: for a call that is not rejected, only if no row of it
is in the tier. -/
lemma insert (h : s.Inv) (hc : s.calls[c]? = some call) (hphase : call.phase ≠ .inserting)
    {batch : MetricBatch V}
    (hhas : ∀ table place, batch.Has table place ↔ call.batch.Has table place)
    {tenant : String} {stores : Bool}
    (hfirst : call.phase ≠ .rejected → stores = true → s.Absent c)
    (hwarm : s'.warm = if stores then s.warm ++ insertMetricBatch c batch tenant else s.warm)
    (hcalls : s'.calls = s.calls) (hdeliveries : s'.deliveries = s.deliveries) : s'.Inv ∧
      (call.phase ≠ .rejected → stores = true → s'.Present c call.batch) := by
  have hcopies := copies_of_warm hwarm
  have hpresent (hrejected : call.phase ≠ .rejected) (hstores : stores = true) :
      s'.Present c call.batch := by
    intro table place hplace
    rw [hcopies, (hfirst hrejected hstores).copies_eq_zero,
      if_pos ⟨hstores, rfl, (hhas table place).mpr hplace⟩]
  have hother {c' : ℕ} (hne : c' ≠ c) : s'.Absent c' ↔ s.Absent c' := by
    have hnew : ∀ r ∈ insertMetricBatch c batch tenant, r.call ≠ c' :=
      fun r hr => call_of_mem_insertMetricBatch hr ▸ hne.symm
    simp only [Absent, hwarm]
    split
    · rw [List.forall_mem_append]
      exact and_iff_left hnew
    · rfl
  have hkept {c' : ℕ} {call' : Call V} (hc' : s.calls[c']? = some call')
      (hrejected : call'.phase ≠ .rejected) (hold : s.Present c' call'.batch) :
      s'.Present c' call'.batch := by
    intro table place hplace
    rw [hcopies, hold table place hplace]
    -- Nothing is added to a batch that is there.
    refine Nat.add_eq_left.mpr (if_neg ?_)
    rintro ⟨hstores, rfl, -⟩
    obtain rfl := Option.some.inj (hc.symm.trans hc')
    have hzero := (hfirst hrejected hstores).copies_eq_zero table place
    rw [hold table place hplace] at hzero
    cases hzero
  refine ⟨⟨fun r hr => ?_, ?_, ?_, ?_, ?_, ?_, ?_⟩, hpresent⟩
  · rw [hcalls]
    rw [hwarm] at hr
    split at hr
    case isTrue =>
      rcases List.mem_append.mp hr with hr | hr
      · exact h.rows r hr
      · rw [call_of_mem_insertMetricBatch hr]
        exact (List.getElem?_eq_some_iff.mp hc).1
    case isFalse => exact h.rows r hr
  · simp only [hdeliveries, Returned, hcalls]
    exact h.delivered
  · rw [hcalls]
    exact h.published
  · rw [hcalls]
    intro c' call' hc' hphase'
    have hne : c' ≠ c := by
      rintro rfl
      obtain rfl := Option.some.inj (hc.symm.trans hc')
      exact hphase hphase'
    exact (hother hne).mpr (h.inserting c' call' hc' hphase')
  · rw [hcalls]
    intro c' call' hc' hrejected
    rcases h.whole c' call' hc' hrejected with habsent | hold
    · by_cases hne : c' = c
      · subst hne
        obtain rfl := Option.some.inj (hc.symm.trans hc')
        by_cases hstores : stores = true
        · exact .inr (hpresent hrejected hstores)
        · rw [Absent, hwarm, if_neg hstores]
          exact .inl habsent
      · exact .inl ((hother hne).mpr habsent)
    · exact .inr (hkept hc' hrejected hold)
  · simp only [Accepted, hcalls, hdeliveries]
    exact h.accepted
  · simp only [Accepted, hcalls, hdeliveries]
    intro d hd hpast call' hcall'
    exact hkept hcall'.1 (by rw [hcall'.2]; decide) (h.past d hd hpast call' hcall')

/-! ### Every step keeps it -/

lemma sendBatch (h : s.Inv) (replica : ℕ) (tenant agentID : String)
    (batch : Option (MetricBatch V)) (now : ℤ) :
    (s.sendBatch replica tenant agentID batch now).Inv := by
  unfold State.sendBatch
  split
  case h_1 => exact h
  case h_2 =>
    dsimp only
    split
    case isTrue => exact h.openCall rfl rfl rfl rfl (.inl rfl)
    case isFalse => exact h.openCall (by simp) (by simp) rfl rfl (.inr rfl)

lemma insertReturns (h : s.Inv) (c : ℕ) (now : ℤ) (outcome : Outcome) :
    (s.insertReturns c now outcome).Inv := by
  unfold State.insertReturns
  split
  case h_2 => exact h
  case h_1 call hc =>
    split
    case isFalse => exact h
    case isTrue hphase =>
      have habsent := h.inserting c call hc hphase
      have hnext : (s.setCall c { call with phase := .publishing }).Inv := by
        refine h.setCall hc (.inl hphase) rfl rfl (List.append_nil _).symm rfl (fun hpub => ?_)
          (by simp) (by simp) (by simp)
        exact absurd (.inl hphase) (h.published c call hc hpub)
      have hset : (s.setCall c { call with phase := .publishing }).calls[c]? =
          some { call with phase := .publishing } := by rw [calls_setCall hc, if_pos rfl]
      refine And.left (hnext.insert hset (by simp) (fun _ _ => Iff.rfl) (fun _ _ => habsent)
        (warm_finishInsert ..) ?_ ?_)
      · simp [State.setCall]
      · simp [State.setCall]

lemma publishReturns (h : s.Inv) (c : ℕ) (published acknowledged : Bool) :
    (s.publishReturns c published acknowledged).Inv := by
  unfold State.publishReturns
  split
  case h_2 => exact h
  case h_1 call hc =>
    split
    case isFalse => exact h
    case isTrue hphase =>
      split
      case isTrue =>
        refine h.setCall hc (.inr hphase) rfl rfl (List.append_nil _).symm rfl (fun hpub => ?_)
          (by simp) (by simp) (by simp)
        exact absurd (.inr hphase) (h.published c call hc hpub)
      case isFalse =>
        have hclosed : ¬ (if acknowledged then CallPhase.accepted else .rejected).Open := by
          cases acknowledged <;> simp [CallPhase.Open]
        exact h.setCall hc (.inr hphase) rfl rfl rfl rfl (fun _ => hclosed)
          (fun heq => hclosed (.inl heq)) (fun d hd => ⟨List.mem_singleton.mp hd, hclosed⟩)
          fun _ => ⟨_, List.mem_singleton_self _, rfl⟩

lemma take (h : s.Inv) (i replica : ℕ) : (s.take i replica).Inv := by
  unfold State.take
  split
  case h_2 => exact h
  case h_1 d hd =>
    split
    case isTrue => exact h.setPhase hd (by simp [DeliveryPhase.Past])
    case isFalse => exact h

lemma handlerStores (h : s.Inv) {maxRetries i : ℕ} {now : ℤ} {agentInfoID : String}
    (hone : s.OneWriter maxRetries (.handlerStores i now agentInfoID)) :
    (s.handlerStores i now agentInfoID).Inv := by
  unfold State.handlerStores
  split
  case h_2 => exact h
  case h_1 d hd =>
    split
    case h_2 => exact h
    case h_1 replica attempt call hphase hcall =>
      dsimp only
      split
      case isTrue =>
        have hasked : (s.askBreaker (.pipeline replica) now).Inv := h.frame_deliveries rfl rfl rfl
        exact hasked.setPhase hd (by simp [DeliveryPhase.Past])
      case isFalse hrefused =>
        have hasked : ((s.askBreaker (.pipeline replica) now).enqueueCold (.pipeline replica)
            (enrichBatch agentInfoID call.batch)).Inv :=
          h.frame_deliveries (by simp) (by simp) (by simp)
        refine hasked.setPhase (by simpa using hd) fun _ call' hcall' => ?_
        have haccepted : s.Accepted d.call call' := by simpa [Accepted] using hcall'
        -- The write is skipped, so the rows are there.
        have hthere : ¬ s.Absent d.call := fun habsent => hrefused ((hone d hd call'
          haccepted.1 haccepted.2 replica (by rw [hphase]; rfl)).mpr habsent)
        rw [Present, copies_congr (s := s) (by simp)]
        exact h.present haccepted hthere

lemma handlerInsertReturns (h : s.Inv) {maxRetries i : ℕ} {now : ℤ} {outcome : Outcome}
    (hone : s.OneWriter maxRetries (.handlerInsertReturns i now outcome)) :
    (s.handlerInsertReturns i now outcome).Inv := by
  unfold State.handlerInsertReturns
  split
  case h_2 => exact h
  case h_1 d hd =>
    split
    case h_2 => exact h
    case h_1 replica attempt agentInfoID call hphase hcall =>
      obtain ⟨call', hcall', hreturned⟩ := h.delivered d (List.mem_of_getElem? hd)
      obtain rfl := Option.some.inj (hcall.symm.trans hcall')
      have haccepted (hrejected : call.phase ≠ .rejected) : call.phase = .accepted := by
        cases hp : call.phase with
        | inserting => exact absurd (.inl hp) hreturned
        | publishing => exact absurd (.inr hp) hreturned
        | accepted => rfl
        | rejected => exact absurd hp hrejected
      obtain ⟨hnext, hpresent⟩ := h.insert hcall (fun hp => hreturned (.inl hp))
        (fun table place => has_enrichBatch) (fun hrejected hstores =>
          (hone d hd call hcall (haccepted hrejected)).mp hstores)
        (warm_finishInsert (.pipeline replica) (enrichBatch agentInfoID call.batch)
          (extractTenantFromKey (Stream.State.recordKey call.tenant call.agentID)) now outcome)
        (calls_finishInsert ..) (deliveries_finishInsert ..)
      refine hnext.setPhase (by simpa using hd) fun _ call' hcall' => ?_
      rw [Accepted, calls_finishInsert] at hcall'
      obtain rfl := Option.some.inj (hcall.symm.trans hcall'.1)
      have hrejected : call.phase ≠ .rejected := by rw [hcall'.2]; decide
      by_cases hstores : outcome.stores = true
      · exact hpresent hrejected hstores
      · have hthere := h.present ⟨hcall, hcall'.2⟩ fun habsent =>
          hstores ((hone d hd call hcall hcall'.2).mpr habsent)
        rwa [Present, copies_congr (s := s)]
        rw [warm_finishInsert, if_neg hstores]

lemma handlerReturns (h : s.Inv) {maxRetries i : ℕ} {ok stopping : Bool}
    (hone : s.OneWriter maxRetries (.handlerReturns i ok stopping)) :
    (s.handlerReturns maxRetries i ok stopping).Inv := by
  unfold State.handlerReturns
  split
  case h_2 => exact h
  case h_1 d hd =>
    split
    case h_2 => exact h
    case h_1 phase hreturned =>
      refine h.setPhase hd fun hpast call hcall => ?_
      -- A handler that returns goes on with an attempt, or ends for good.
      have hfinished : phase = .finished := by
        rcases hpast with hfinished | ⟨replica, attempt, rfl⟩
        · exact hfinished
        · unfold returned afterHandler at hreturned
          repeat' split at hreturned
          all_goals simp at hreturned
      subst hfinished
      cases hphase : d.phase with
      | handling replica attempt =>
        have hhandler : d.phase.handler ≠ none := by simp [hphase, DeliveryPhase.handler]
        exact h.present hcall (hone d hd call hcall.1 hcall.2 hhandler hreturned)
      | stored replica attempt =>
        exact h.past d (List.mem_of_getElem? hd) (.inr ⟨_, _, hphase⟩) call hcall
      | _ =>
        rw [hphase] at hreturned
        cases hreturned

lemma redeliver (h : s.Inv) (c : ℕ) : (s.redeliver c).Inv := by
  unfold State.redeliver
  split
  case h_2 => exact h
  case h_1 call hc =>
    split
    case isFalse => exact h
    case isTrue hpublished =>
      refine h.frame rfl rfl (fun d hd => ?_) (fun d hd => ⟨d, List.mem_append_left _ hd, rfl⟩)
        fun d hd hpast => ?_
      · rcases List.mem_append.mp hd with hd | hd
        · exact h.delivered d hd
        · obtain rfl := List.mem_singleton.mp hd
          exact ⟨call, hc, h.published c call hc hpublished⟩
      · rcases List.mem_append.mp hd with hd | hd
        · exact h.past d hd hpast
        · obtain rfl := List.mem_singleton.mp hd
          simp [DeliveryPhase.Past] at hpast

lemma restart (h : s.Inv) (p : Process) : (s.restart p).Inv := by
  cases p with
  | pipeline replica =>
    refine h.frame rfl rfl (fun d hd => ?_) (fun d hd => ⟨_, List.mem_map_of_mem hd, rfl⟩)
      fun d hd hpast => ?_
    · obtain ⟨d', hd', rfl⟩ := List.mem_map.mp hd
      exact h.delivered d' hd'
    · obtain ⟨d', hd', rfl⟩ := List.mem_map.mp hd
      refine h.past d' hd' ?_
      -- A record that its process held is read again.
      revert hpast
      unfold abandonPhase DeliveryPhase.Past
      split <;> try split
      all_goals simp_all
  | ingestion replica =>
    have hcopies : (s.restart (.ingestion replica)).copies = s.copies := rfl
    -- A call keeps its phase, unless it becomes a rejected one.
    have hget {c : ℕ} {call' : Call V}
        (hc : (s.restart (.ingestion replica)).calls[c]? = some call') :
        ∃ call, s.calls[c]? = some call ∧ call'.published = call.published ∧
          call'.batch = call.batch ∧ (call'.phase = .rejected ∨ call'.phase = call.phase) := by
      obtain ⟨call, hcall, rfl⟩ : ∃ call, s.calls[c]? = some call ∧
          abandonCall replica call = call' := by simpa [State.restart] using hc
      refine ⟨call, hcall, ?_⟩
      unfold abandonCall
      split
      case isTrue => exact ⟨rfl, rfl, .inl rfl⟩
      case isFalse => exact ⟨rfl, rfl, .inr rfl⟩
    have hreturned {phase phase' : CallPhase} (hphase : phase' = .rejected ∨ phase' = phase)
        (h : ¬ phase.Open) : ¬ phase'.Open := by
      rcases hphase with rfl | rfl
      · simp [CallPhase.Open]
      · exact h
    have hold {c : ℕ} {call' : Call V}
        (hcall' : (s.restart (.ingestion replica)).Accepted c call') :
        ∃ call, s.Accepted c call ∧ call'.batch = call.batch := by
      obtain ⟨call, hcall, -, hbatch, hphase | hphase⟩ := hget hcall'.1
      · exact absurd (hcall'.2.symm.trans hphase) (by decide)
      · exact ⟨call, ⟨hcall, hphase.symm.trans hcall'.2⟩, hbatch⟩
    refine ⟨fun r hr => ?_, fun d hd => ?_, fun c call' hc hpublished => ?_,
      fun c call' hc hphase' => ?_, fun c call' hc hrejected => ?_, fun c call' hcall' => ?_,
      fun d hd hpast call' hcall' => ?_⟩
    · simpa [State.restart] using h.rows r hr
    · obtain ⟨call, hcall, hclosed⟩ := h.delivered d hd
      have hc : (s.restart (.ingestion replica)).calls[d.call]? =
          some (abandonCall replica call) := by simp [State.restart, hcall]
      obtain ⟨call', hcall', -, -, hphase⟩ := hget hc
      obtain rfl := Option.some.inj (hcall.symm.trans hcall')
      exact ⟨_, hc, hreturned hphase hclosed⟩
    · obtain ⟨call, hcall, hpub, -, hphase⟩ := hget hc
      exact hreturned hphase (h.published c call hcall (hpub ▸ hpublished))
    · obtain ⟨call, hcall, -, -, hphase | hphase⟩ := hget hc
      · exact absurd (hphase'.symm.trans hphase) (by decide)
      · exact h.inserting c call hcall (hphase.symm.trans hphase')
    · obtain ⟨call, hcall, -, hbatch, hphase | hphase⟩ := hget hc
      · exact absurd hphase hrejected
      · rw [hbatch]
        exact h.whole c call hcall (hphase ▸ hrejected)
    · obtain ⟨call, hcall, -⟩ := hold hcall'
      exact h.accepted c call hcall
    · obtain ⟨call, hcall, hbatch⟩ := hold hcall'
      rw [hbatch]
      exact h.past d hd hpast call hcall

/-- Every step with one writer keeps the invariant. -/
theorem next (h : s.Inv) {maxRetries : ℕ} {e : Event V} (hone : s.OneWriter maxRetries e) :
    (s.next maxRetries e).Inv := by
  cases e with
  | sendBatch replica tenant agentID batch now =>
    exact h.sendBatch replica tenant agentID batch now
  | insertReturns c now outcome => exact h.insertReturns c now outcome
  | publishReturns c published acknowledged => exact h.publishReturns c published acknowledged
  | take i replica => exact h.take i replica
  | handlerStores i now agentInfoID => exact h.handlerStores hone
  | handlerInsertReturns i now outcome => exact h.handlerInsertReturns hone
  | handlerReturns i ok stopping => exact h.handlerReturns hone
  | redeliver c => exact h.redeliver c
  | otherWarmOperation p started now ok => exact h.frame_deliveries rfl rfl rfl
  | coldWrite p => exact h.frame_deliveries rfl rfl rfl
  | restart p => exact h.restart p

end Inv

/-! ## Whole runs -/

/-- **Acknowledged means stored once** where each accepted batch has one writer. In every run of any
number of ingestion and pipeline processes: if the pipeline writes an accepted batch exactly when no
row of it is in the tier, and gives up no record before that, the batches that `SendBatch` accepted
are stored once in every state. -/
theorem storedOnce_of_oneWriter (maxRetries : ℕ) (es : List (Event V))
    (h : Lib.Allowed (next maxRetries) (OneWriter maxRetries) {} es) :
    Lib.Always (next maxRetries) StoredOnce {} es :=
  h.always (fun _ _ hs => hs.next) (fun _ hs => hs.storedOnce) Inv.init

/-- A batch with one CPU metric. -/
def oneMetric : MetricBatch ℕ := ⟨"agent", 1, [⟨"agent", 1, 80⟩], [], [], [], [], []⟩

/-- A batch is sent, published and processed. The two transactions end as given. -/
def oneBatch (first second : Outcome) : List (Event ℕ) :=
  [.sendBatch 0 "tenant" "agent" (some oneMetric) 1, .insertReturns 0 2 first,
    .publishReturns 0 true true, .take 0 0, .handlerStores 0 3 "agent",
    .handlerInsertReturns 0 4 second, .handlerReturns 0 true false]

/-- The first batch is in the tier when the pipeline comes to it, twice, with its breaker open. The
transaction for the second one fails, and the pipeline of another replica stores it. -/
def twoBatches : List (Event ℕ) :=
  [.sendBatch 0 "tenant" "agent" (some oneMetric) 1, .insertReturns 0 2 .unacknowledged,
    .publishReturns 0 true true] ++
  List.replicate 5 (.otherWarmOperation (.pipeline 0) 3 3 false) ++
  [.take 0 0, .handlerStores 0 4 "agent", .handlerReturns 0 false false, .handlerStores 0 5 "agent",
    .handlerReturns 0 true false, .sendBatch 0 "tenant" "agent" (some oneMetric) 6,
    .insertReturns 1 7 .failed, .publishReturns 1 true true, .take 1 1, .handlerStores 1 8 "agent",
    .handlerInsertReturns 1 9 .stored, .handlerReturns 1 true false]

theorem storedOnce_twoBatches :
    Lib.Always (next Stream.defaultMaxRetries) StoredOnce {} twoBatches :=
  storedOnce_of_oneWriter _ _ (by decide +kernel)

/-- Neither is a batch stored once when both writers store it, nor when neither does: the calls
report success all the same. -/
theorem stored_twice_or_never :
    ¬ Lib.Always (next Stream.defaultMaxRetries) StoredOnce {} (oneBatch .stored .stored) ∧
      ¬ Lib.Always (next Stream.defaultMaxRetries) StoredOnce {} (oneBatch .failed .failed) := by
  have hcall (first second : Outcome) :
      ((oneBatch first second).foldl (next Stream.defaultMaxRetries) {}).Accepted 0
        ⟨0, "tenant", "agent", oneMetric, .accepted, true⟩ := by
    cases first <;> cases second <;> exact ⟨by decide +kernel, rfl⟩
  have hhas : oneMetric.Has .cpuMetrics 0 := by decide
  constructor
  · intro h
    have hle := (h.foldl 0 _ (hcall _ _) .cpuMetrics 0 hhas).1
    have htwice : copies ((oneBatch .stored .stored).foldl (next Stream.defaultMaxRetries) {}) 0
      .cpuMetrics 0 = 2 := by decide +kernel
    omega
  · intro h
    have hone := (h.foldl 0 _ (hcall _ _) .cpuMetrics 0 hhas).2 fun i d hd _ => by
      have hdeliveries : ((oneBatch .failed .failed).foldl (next Stream.defaultMaxRetries)
        {}).deliveries = [⟨0, .finished⟩] := by decide +kernel
      rw [hdeliveries] at hd
      obtain rfl := List.mem_singleton.mp (List.mem_of_getElem? hd)
      rfl
    have hnever : copies ((oneBatch .failed .failed).foldl (next Stream.defaultMaxRetries) {}) 0
      .cpuMetrics 0 = 0 := by decide +kernel
    omega

end State

end Paryty.Storage

import Paryty.Processing.Downsampler

/-!
# When the downsampler counts every row once

`Once` asks of every row that it is in one row of each coarser window at most, that these are rows
of its tenant, and that it is in one of the target window of a rule that has deleted it, or has run
to its end when the row was due.

* `once_iff_allowed`: this holds throughout exactly the runs in which each metric that is stored is
  made of rows of the empty tenant that are in no row of its window, and each row that is deleted,
  or due at the end of a rule, is in one of the target window.
* `once_adapter_iff`: with `warmQuestDBAdapter`, which finds no row that has an agent or a name,
  these are the runs in which no rule gets to its end while rows are due.
-/

namespace Paryty.Processing.Downsampler

open Storage.Aggregated (Row Query micros newRow)
open Lib (Always Allowed)

variable {client : QuestDBClient} {s : System}

/-! ## The property -/

namespace System

/-- How often a row is part of a row of a window. -/
def reflections (s : System) (id : ℕ) (window : Duration) : ℕ :=
  ((s.data.filter fun d => d.resolution = window).flatMap Datum.sources).count id

/-- A row is counted once. -/
structure CountsOnce (s : System) (d : Datum) : Prop where
  atMostOnce : ∀ window, s.reflections d.row.rowID window ≤ 1
  ownTenant : ∀ target ∈ s.data, d.row.rowID ∈ target.sources →
    target.row.tenantID = d.row.tenantID
  counted : ∀ window, (d.row.rowID, window) ∈ s.deleted ∨ (d.row.rowID, window) ∈ s.settled →
    s.reflections d.row.rowID window = 1

/-- Every row is counted once. -/
def Once (s : System) : Prop := ∀ d ∈ s.data, s.CountsOnce d

/-! ## The condition -/

/-- Each row is in one row of its window. -/
def Counted (s : System) (marks : List (ℕ × Duration)) : Prop :=
  ∀ mark ∈ marks, s.reflections mark.1 mark.2 = 1

/-- The metric is made of rows of the empty tenant that are in no row of its window. -/
def Fresh (s : System) (target : Target) : Prop :=
  ∀ d ∈ s.data, d.row.rowID ∈ target.sources →
    s.reflections d.row.rowID target.metric.window = 0 ∧ d.row.tenantID = ""

/-- What an event asks of the system before it. -/
def Guard (client : QuestDBClient) (s : System) : Event → Prop
  | .arrive _ _ => True
  | .query rule now =>
    match s.phase with
    | .idle =>
      let cutoff := rule.cutoff now
      groupSamples (s.samples client rule cutoff) = [] → s.Counted (rule.marks (s.due rule cutoff))
    | _ => True
  | .queryFails _ _ => True
  | .store place =>
    match s.phase with
    | .storing _ _ _ pending => ∀ target ∈ pending[place]?, s.Fresh target
    | _ => True
  | .storeFails place stored =>
    match s.phase with
    | .storing _ _ _ pending => stored = true → ∀ target ∈ pending[place]?, s.Fresh target
    | _ => True
  | .delete =>
    match s.phase with
    | .deleting rule cutoff due => s.Counted (rule.marks (s.expired client rule cutoff ++ due))
    | _ => True
  | .deleteFails deleted =>
    match s.phase with
    | .deleting rule cutoff _ =>
      deleted = true → s.Counted (rule.marks (s.expired client rule cutoff))
    | _ => True

/-! ## What always holds -/

/-- The rows are numbered by their place, and nothing refers to a row that is not there. A metric to
store has each of its rows once. -/
structure Numbered (s : System) : Prop where
  rowIDs : s.data.map (·.row.rowID) = List.range s.data.length
  sources : ∀ id ∈ s.data.flatMap Datum.sources, id < s.data.length
  deleted : ∀ mark ∈ s.deleted, mark.1 < s.data.length
  settled : ∀ mark ∈ s.settled, mark.1 < s.data.length
  storing : ∀ rule cutoff due pending, s.phase = .storing rule cutoff due pending →
    (∀ id ∈ due, id < s.data.length) ∧ ∀ target ∈ pending, target.sources.Nodup ∧
      ∀ id ∈ target.sources, id < s.data.length
  deleting : ∀ rule cutoff due, s.phase = .deleting rule cutoff due → ∀ id ∈ due, id < s.data.length

lemma Numbered.lt (h : s.Numbered) {d : Datum} (hd : d ∈ s.data) : d.row.rowID < s.data.length := by
  rw [← List.mem_range, ← h.rowIDs]
  exact List.mem_map_of_mem hd

lemma Numbered.exists_datum (h : s.Numbered) {id : ℕ} (hid : id < s.data.length) :
    ∃ d ∈ s.data, d.row.rowID = id := by
  rw [← List.mem_range, ← h.rowIDs] at hid
  exact List.mem_map.mp hid

/-! ## Storing a row -/

lemma reflections_append (d : Datum) (id : ℕ) (window : Duration) :
    (s.append d).reflections id window =
      s.reflections id window + if d.resolution = window then d.sources.count id else 0 := by
  by_cases hwindow : d.resolution = window <;>
    simp [reflections, append, List.filter_append, List.count_append, hwindow]

lemma Numbered.reflections_new (h : s.Numbered) (window : Duration) :
    s.reflections s.data.length window = 0 := by
  refine List.count_eq_zero.mpr fun hmem => ?_
  obtain ⟨d, hd, hid⟩ := List.mem_flatMap.mp hmem
  have hlt := h.sources _ (List.mem_flatMap.mpr ⟨d, List.mem_of_mem_filter hd, hid⟩)
  exact absurd hlt (lt_irrefl _)

/-- A new row is counted once as long as the rows it is made of are in no row of its window, and
belong to its tenant. -/
lemma once_append_iff (h : s.Numbered) (honce : s.Once) {d : Datum}
    (hid : d.row.rowID = s.data.length) (hnodup : d.sources.Nodup)
    (hsources : ∀ id ∈ d.sources, id < s.data.length) :
    (s.append d).Once ↔ ∀ d' ∈ s.data, d'.row.rowID ∈ d.sources →
      s.reflections d'.row.rowID d.resolution = 0 ∧ d'.row.tenantID = d.row.tenantID := by
  constructor
  · intro h' d' hd' hmem
    have hcounts := h' d' (List.mem_append_left _ hd')
    have hle := hcounts.atMostOnce d.resolution
    rw [reflections_append, if_pos rfl, List.count_eq_one_of_mem hnodup hmem] at hle
    exact ⟨by omega, (hcounts.ownTenant d (List.mem_append_right _ List.mem_cons_self) hmem).symm⟩
  · intro hfresh d' hd'
    rcases List.mem_append.mp hd' with hold | hnew
    · have hcounts := honce d' hold
      have htenant : ∀ target ∈ s.data ++ [d], d'.row.rowID ∈ target.sources →
          target.row.tenantID = d'.row.tenantID := by
        intro target htarget hmem
        rcases List.mem_append.mp htarget with htarget | htarget
        · exact hcounts.ownTenant target htarget hmem
        · obtain rfl := List.mem_singleton.mp htarget
          exact (hfresh d' hold hmem).2.symm
      have hwindow (window : Duration) :
          (s.append d).reflections d'.row.rowID window = s.reflections d'.row.rowID window ∨
            s.reflections d'.row.rowID window = 0 ∧
              (s.append d).reflections d'.row.rowID window = 1 := by
        rw [reflections_append]
        by_cases hsame : d.resolution = window ∧ d'.row.rowID ∈ d.sources
        · obtain ⟨rfl, hmem⟩ := hsame
          rw [if_pos rfl, (hfresh d' hold hmem).1, List.count_eq_one_of_mem hnodup hmem]
          exact .inr ⟨rfl, rfl⟩
        · refine .inl (Nat.add_eq_left.mpr ?_)
          split
          · rename_i heq
            exact List.count_eq_zero.mpr fun hmem => hsame ⟨heq, hmem⟩
          · rfl
      refine ⟨fun window => ?_, htenant, fun window hmark => ?_⟩
      · have hle := hcounts.atMostOnce window
        rcases hwindow window with heq | hone
        · rwa [heq]
        · exact hone.2.le
      · have hone := hcounts.counted window hmark
        rcases hwindow window with heq | hnew
        · rwa [heq]
        · exact hnew.2
    · -- the new row is not referred to by any row, itself included
      obtain rfl := List.mem_singleton.mp hnew
      have hnot : d'.row.rowID ∉ d'.sources := fun hmem =>
        absurd (hsources _ hmem) (hid ▸ lt_irrefl _)
      have hzero (window : Duration) : (s.append d').reflections d'.row.rowID window = 0 := by
        rw [reflections_append, List.count_eq_zero.mpr hnot, ite_self, hid, h.reflections_new]
      refine ⟨fun window => by rw [hzero]; omega, fun target htarget hmem => ?_,
        fun window hmark => ?_⟩
      · rcases List.mem_append.mp htarget with htarget | htarget
        · have hlt := h.sources _ (List.mem_flatMap.mpr ⟨target, htarget, hmem⟩)
          exact absurd hlt (hid ▸ lt_irrefl _)
        · obtain rfl := List.mem_singleton.mp htarget
          exact absurd hmem hnot
      · have hlt := hmark.elim (h.deleted _) (h.settled _)
        exact absurd hlt (hid ▸ lt_irrefl _)

/-! ## Deleting rows, and finishing a rule -/

lemma once_marked_iff (h : s.Numbered) (honce : s.Once) {s' : System} {marks : List (ℕ × Duration)}
    (hmarks : ∀ mark ∈ marks, mark.1 < s.data.length) (hdata : s'.data = s.data)
    (hmarked : ∀ mark, mark ∈ s'.deleted ∨ mark ∈ s'.settled ↔
      (mark ∈ s.deleted ∨ mark ∈ s.settled) ∨ mark ∈ marks) : s'.Once ↔ s.Counted marks := by
  have hsame (id : ℕ) (window : Duration) : s'.reflections id window = s.reflections id window := by
    rw [reflections, hdata]
    rfl
  constructor
  · intro h' mark hmark
    obtain ⟨d, hd, hid⟩ := h.exists_datum (hmarks mark hmark)
    have hcounted := (h' d (hdata ▸ hd)).counted mark.2 ((hmarked _).mpr (.inr (hid ▸ hmark)))
    rwa [hsame, hid] at hcounted
  · intro hcounted d hd
    rw [hdata] at hd
    have hcounts := honce d hd
    refine ⟨fun window => (hsame _ _).trans_le (hcounts.atMostOnce window),
      fun target htarget => ?_, fun window hmark => ?_⟩
    · rw [hdata] at htarget
      exact hcounts.ownTenant target htarget
    · rw [hsame]
      exact ((hmarked _).mp hmark).elim (hcounts.counted window) (hcounted _)

lemma once_phase_iff {phase : Phase} : ({ s with phase } : System).Once ↔ s.Once :=
  ⟨fun h d hd => ⟨(h d hd).1, (h d hd).2, (h d hd).3⟩,
    fun h d hd => ⟨(h d hd).1, (h d hd).2, (h d hd).3⟩⟩

lemma Numbered.lt_of_mem_present (h : s.Numbered) {p : Datum → Bool} :
    ∀ id ∈ (s.present.filter p).map (·.row.rowID), id < s.data.length := by
  intro id hid
  obtain ⟨d, hd, rfl⟩ := List.mem_map.mp hid
  exact h.lt (List.mem_of_mem_filter (List.mem_of_mem_filter hd))

lemma lt_of_mem_marks {rule : DownsamplingRule} {ids : List ℕ} {n : ℕ} (h : ∀ id ∈ ids, id < n) :
    ∀ mark ∈ rule.marks ids, mark.1 < n := by
  intro mark hmark
  obtain ⟨id, hid, rfl⟩ := List.mem_map.mp hmark
  exact h id hid

/-! ## One event -/

lemma Numbered.samples (h : s.Numbered) (client : QuestDBClient) (rule : DownsamplingRule)
    (cutoff : Time) :
    ((s.samples client rule cutoff).map Sample.rowID).Nodup ∧
      ∀ id ∈ (s.samples client rule cutoff).map Sample.rowID, id < s.data.length := by
  obtain ⟨rows, hperm, hsub⟩ := client.query_subperm rule.sourceWindow zeroTime cutoff
    (s.present.map Datum.row)
  have hids : ((s.samples client rule cutoff).map Sample.rowID).Perm (rows.map Row.rowID) := by
    rw [System.samples, List.map_map]
    exact (hperm.map Row.rowID).symm
  have hrange : (rows.map Row.rowID).Sublist (List.range s.data.length) := by
    have hpresent : (s.present.map Datum.row).Sublist (s.data.map Datum.row) :=
      List.filter_sublist.map _
    have hdata := (hsub.trans hpresent).map Row.rowID
    rw [List.map_map] at hdata
    exact h.rowIDs ▸ hdata
  exact ⟨hids.nodup_iff.mpr (hrange.nodup List.nodup_range), fun id hid =>
    List.mem_range.mp (hrange.subset (hids.mem_iff.mp hid))⟩

lemma Numbered.pending (h : s.Numbered) (rule : DownsamplingRule) (cutoff : Time) :
    ∀ target ∈ computeDownsampled (groupSamples (s.samples client rule cutoff)) rule.targetWindow,
      target.sources.Nodup ∧ ∀ id ∈ target.sources, id < s.data.length := by
  intro target htarget
  obtain ⟨hnodup, hlt⟩ := h.samples client rule cutoff
  have hperm := sources_perm (s.samples client rule cutoff) rule.targetWindow
  exact ⟨(List.nodup_flatMap.mp (hperm.nodup_iff.mpr hnodup)).1 target htarget, fun id hid =>
    hlt id (hperm.mem_iff.mp (List.mem_flatMap.mpr ⟨target, htarget, hid⟩))⟩

lemma Numbered.append (h : s.Numbered) {d : Datum} (hid : d.row.rowID = s.data.length)
    (hsources : ∀ id ∈ d.sources, id < s.data.length) : (s.append d).Numbered where
  rowIDs := by simp [System.append, h.rowIDs, hid, List.range_succ]
  sources := by
    intro id hmem
    simp only [System.append, List.flatMap_append, List.flatMap_cons, List.flatMap_nil,
      List.append_nil, List.mem_append, List.length_append, List.length_singleton] at hmem ⊢
    exact Nat.lt_succ_of_lt (hmem.elim (h.sources id) (hsources id))
  deleted := fun id hmem => (h.deleted id hmem).trans (by simp [System.append])
  settled := fun id hmem => (h.settled id hmem).trans (by simp [System.append])
  storing := by
    intro rule cutoff due pending hphase
    have hlt : s.data.length < (s.append d).data.length := by simp [System.append]
    obtain ⟨hdue, hpending⟩ := h.storing rule cutoff due pending hphase
    exact ⟨fun id hmem => (hdue id hmem).trans hlt, fun target htarget =>
      ⟨(hpending target htarget).1, fun id hmem => ((hpending target htarget).2 id hmem).trans hlt⟩⟩
  deleting := by
    intro rule cutoff due hphase id hmem
    have hlt : s.data.length < (s.append d).data.length := by simp [System.append]
    exact (h.deleting rule cutoff due hphase id hmem).trans hlt

lemma Numbered.append_target (h : s.Numbered) {target : Target}
    (hsources : ∀ id ∈ target.sources, id < s.data.length) :
    (s.append (s.target client target)).Numbered :=
  h.append (client.store_rowID _ _ _) hsources

lemma Numbered.phase (h : s.Numbered) {phase : Phase}
    (hstoring : ∀ rule cutoff due pending, phase = .storing rule cutoff due pending →
      (∀ id ∈ due, id < s.data.length) ∧ ∀ target ∈ pending, target.sources.Nodup ∧
        ∀ id ∈ target.sources, id < s.data.length)
    (hdeleting : ∀ rule cutoff due, phase = .deleting rule cutoff due →
      ∀ id ∈ due, id < s.data.length) : ({ s with phase } : System).Numbered :=
  ⟨h.rowIDs, h.sources, h.deleted, h.settled, hstoring, hdeleting⟩

lemma Numbered.idle (h : s.Numbered) : ({ s with phase := .idle } : System).Numbered :=
  h.phase (fun _ _ _ _ hphase => by cases hphase) (fun _ _ _ hphase => by cases hphase)

lemma Numbered.afterStore (h : s.Numbered) {rule : DownsamplingRule} {cutoff : Time} {due : List ℕ}
    {pending : List Target} (hdue : ∀ id ∈ due, id < s.data.length)
    (hpending : ∀ target ∈ pending, target.sources.Nodup ∧
      ∀ id ∈ target.sources, id < s.data.length) :
    ({ s with phase := afterStore rule cutoff due pending } : System).Numbered := by
  rw [Downsampler.afterStore]
  split
  · exact h.phase (fun _ _ _ _ hphase => by cases hphase)
      (fun _ _ _ hphase => by cases hphase; exact hdue)
  · exact h.phase (fun _ _ _ _ hphase => by cases hphase; exact ⟨hdue, hpending⟩)
      (fun _ _ _ hphase => by cases hphase)

lemma Numbered.delete (h : s.Numbered) {marks : List (ℕ × Duration)}
    (hmarks : ∀ mark ∈ marks, mark.1 < s.data.length) :
    ({ s with deleted := s.deleted ++ marks } : System).Numbered :=
  ⟨h.rowIDs, h.sources, fun mark hmark =>
    (List.mem_append.mp hmark).elim (h.deleted mark) (hmarks mark), h.settled, h.storing,
    h.deleting⟩

lemma Numbered.settle (h : s.Numbered) {rule : DownsamplingRule} {due : List ℕ}
    (hdue : ∀ id ∈ due, id < s.data.length) : (s.settle rule due).Numbered :=
  ⟨h.rowIDs, h.sources, h.deleted, fun mark hmark =>
    (List.mem_append.mp hmark).elim (h.settled mark) (lt_of_mem_marks hdue mark), h.idle.storing,
    h.idle.deleting⟩

lemma numbered_query (h : s.Numbered) (rule : DownsamplingRule) (now : Time) :
    (s.query client rule now).Numbered := by
  rw [System.query]
  split
  · exact h.settle h.lt_of_mem_present
  · exact h.afterStore h.lt_of_mem_present (h.pending rule _)

lemma numbered_step (h : s.Numbered) (e : Event) : (s.step client e).Numbered := by
  cases hphase : s.phase with
  | idle =>
    cases e with
    | arrive tenant m => exact h.append rfl (by simp)
    | query rule now =>
      simp only [step, hphase]
      exact numbered_query h rule now
    | queryFails rule now => exact h
    | store | storeFails | delete | deleteFails => simpa only [step, hphase] using h
  | storing rule cutoff due pending =>
    obtain ⟨hdue, hpending⟩ := h.storing rule cutoff due pending hphase
    cases e with
    | arrive tenant m => exact h.append rfl (by simp)
    | query rule now => simpa only [step, hphase] using h
    | queryFails rule now => exact h
    | store place =>
      simp only [step, hphase]
      cases hplace : pending[place]? with
      | none => exact h
      | some target =>
        -- The new row gets the next number, which is above those that are due.
        obtain ⟨-, hsources⟩ := hpending target (List.mem_of_getElem? hplace)
        have hlt : s.data.length ≤ (s.append (s.target client target)).data.length := by
          simp [System.append]
        exact (h.append_target hsources).afterStore (fun id hid => (hdue id hid).trans_le hlt)
          fun other hother =>
            ⟨(hpending other (List.mem_of_mem_eraseIdx hother)).1, fun id hid =>
              ((hpending other (List.mem_of_mem_eraseIdx hother)).2 id hid).trans_le hlt⟩
    | storeFails place stored =>
      simp only [step, hphase]
      cases hplace : pending[place]? with
      | none => exact h
      | some target =>
        obtain ⟨-, hsources⟩ := hpending target (List.mem_of_getElem? hplace)
        -- The store may have happened although it failed; in both cases the rule is given up.
        cases stored with
        | false => exact h.idle
        | true => exact (h.append_target hsources).idle
    | delete => simpa only [step, hphase] using h
    | deleteFails deleted => simpa only [step, hphase] using h
  | deleting rule cutoff due =>
    have hdue := h.deleting rule cutoff due hphase
    cases e with
    | arrive tenant m => exact h.append rfl (by simp)
    | query rule now => simpa only [step, hphase] using h
    | queryFails rule now => exact h
    | store place => simpa only [step, hphase] using h
    | storeFails place stored => simpa only [step, hphase] using h
    | delete =>
      simp only [step, hphase]
      exact (h.delete (lt_of_mem_marks h.lt_of_mem_present)).settle hdue
    | deleteFails deleted =>
      simp only [step, hphase]
      -- The same holds of a delete that failed.
      refine (h.delete (lt_of_mem_marks ?_)).idle
      cases deleted with
      | false => exact fun id hid => absurd hid List.not_mem_nil
      | true => exact h.lt_of_mem_present

/-! ## The theorem -/

lemma once_target_iff (h : s.Numbered) (honce : s.Once) {target : Target}
    (hnodup : target.sources.Nodup) (hsources : ∀ id ∈ target.sources, id < s.data.length) :
    (s.append (s.target client target)).Once ↔ s.Fresh target := by
  rw [once_append_iff h honce (client.store_rowID _ _ _) hnodup hsources]
  have htenant : (s.target client target).row.tenantID = "" := client.store_tenantID _ _ _
  rw [htenant]
  rfl

lemma once_settle_iff (h : s.Numbered) (honce : s.Once) {rule : DownsamplingRule} {due : List ℕ}
    (hdue : ∀ id ∈ due, id < s.data.length) :
    (s.settle rule due).Once ↔ s.Counted (rule.marks due) :=
  once_marked_iff h honce (lt_of_mem_marks hdue) rfl fun mark => by simp [settle, or_assoc]

lemma once_step_iff (h : s.Numbered) (honce : s.Once) (e : Event) :
    (s.step client e).Once ↔ s.Guard client e := by
  cases e with
  | arrive tenant m =>
    -- A raw row has no sources, so it counts nothing.
    have hnew := once_append_iff h honce (d := ⟨newRow s.data.length tenant m, m.window, []⟩) rfl
      List.nodup_nil (fun _ hid => absurd hid List.not_mem_nil)
    exact hnew.trans (iff_of_true (fun _ _ hmem => absurd hmem List.not_mem_nil) trivial)
  | query rule now =>
    cases hphase : s.phase with
    | idle =>
      simp only [step, Guard, hphase, System.query]
      split
      · -- Nothing to store: the rule goes on to delete what is due.
        rename_i hgroups
        exact (once_settle_iff h honce h.lt_of_mem_present).trans
          ⟨fun hcounted _ => hcounted, fun hcounted => hcounted hgroups⟩
      · rename_i hgroups
        exact iff_of_true (once_phase_iff.mpr honce) fun hnil => absurd hnil hgroups
    | storing rule cutoff due pending => simpa only [step, Guard, hphase, iff_true] using honce
    | deleting rule cutoff due => simpa only [step, Guard, hphase, iff_true] using honce
  | queryFails rule now => exact iff_of_true honce trivial
  | store place =>
    cases hphase : s.phase with
    | idle => simpa only [step, Guard, hphase, iff_true] using honce
    | storing rule cutoff due pending =>
      simp only [step, Guard, hphase]
      cases hplace : pending[place]? with
      | none => exact iff_of_true honce (by simp)
      | some target =>
        obtain ⟨hnodup, hsources⟩ := (h.storing rule cutoff due pending hphase).2 target
          (List.mem_of_getElem? hplace)
        rw [once_phase_iff, once_target_iff h honce hnodup hsources]
        simp
    | deleting rule cutoff due => simpa only [step, Guard, hphase, iff_true] using honce
  | storeFails place stored =>
    cases hphase : s.phase with
    | idle => simpa only [step, Guard, hphase, iff_true] using honce
    | storing rule cutoff due pending =>
      simp only [step, Guard, hphase]
      cases hplace : pending[place]? with
      | none => exact iff_of_true honce (by simp)
      | some target =>
        obtain ⟨hnodup, hsources⟩ := (h.storing rule cutoff due pending hphase).2 target
          (List.mem_of_getElem? hplace)
        cases stored with
        | false => exact iff_of_true (once_phase_iff.mpr honce) (by simp)
        | true =>
          show ({ s.append (s.target client target) with phase := .idle } : System).Once ↔ _
          rw [once_phase_iff, once_target_iff h honce hnodup hsources]
          simp
    | deleting rule cutoff due => simpa only [step, Guard, hphase, iff_true] using honce
  | delete =>
    cases hphase : s.phase with
    | idle => simpa only [step, Guard, hphase, iff_true] using honce
    | storing rule cutoff due pending => simpa only [step, Guard, hphase, iff_true] using honce
    | deleting rule cutoff due =>
      have hdue := h.deleting rule cutoff due hphase
      simp only [step, Guard, hphase]
      refine once_marked_iff h honce (lt_of_mem_marks fun id hid => ?_) rfl fun mark => ?_
      · exact (List.mem_append.mp hid).elim (h.lt_of_mem_present id) (hdue id)
      · simp only [settle, DownsamplingRule.marks, List.map_append, List.mem_append]
        tauto
  | deleteFails deleted =>
    cases hphase : s.phase with
    | idle => simpa only [step, Guard, hphase, iff_true] using honce
    | storing rule cutoff due pending => simpa only [step, Guard, hphase, iff_true] using honce
    | deleting rule cutoff due =>
      simp only [step, Guard, hphase]
      -- The delete that failed took either all rows or none.
      have hdelete {ids : List ℕ} (hids : ∀ id ∈ ids, id < s.data.length) : ({ s with
          deleted := s.deleted ++ rule.marks ids, phase := .idle } : System).Once ↔
            s.Counted (rule.marks ids) :=
        once_marked_iff h honce (lt_of_mem_marks hids) rfl fun mark => by simp [or_right_comm]
      cases deleted with
      | false =>
        exact (hdelete fun id hid => absurd hid List.not_mem_nil).trans
          (iff_of_true (fun mark hmark => absurd hmark List.not_mem_nil) (by simp))
      | true =>
        exact (hdelete h.lt_of_mem_present).trans
          ⟨fun hcounted _ => hcounted, fun hcounted => hcounted rfl⟩

lemma numbered_empty : ({} : System).Numbered where
  rowIDs := rfl
  sources := by simp
  deleted := by simp
  settled := by simp
  storing := fun _ _ _ _ hphase => by cases hphase
  deleting := fun _ _ _ hphase => by cases hphase

lemma once_empty : ({} : System).Once := fun _ hd => absurd hd List.not_mem_nil

lemma always_once_iff (h : s.Numbered) (honce : s.Once) (es : List Event) :
    Always (step client) Once s es ↔ Allowed (step client) (Guard client) s es :=
  Lib.always_iff_allowed (I := Numbered) (fun _ e h => numbered_step h e)
    (fun _ e h honce => once_step_iff h honce e) h honce es

/-- For every client and all events, from the empty table on: throughout the run every row is
counted once if and only if every event meets its condition. -/
theorem once_iff_allowed (client : QuestDBClient) (es : List Event) :
    Always (step client) Once {} es ↔ Allowed (step client) (Guard client) {} es :=
  always_once_iff numbered_empty once_empty es

/-! ## The adapter -/

/-- A metric that arrives has an agent or a name. -/
def Named : Event → Prop
  | .arrive _ m => m.agentID ≠ "" ∨ m.name ≠ ""
  | _ => True

/-- The downsampler has no row to read, and has stored none. -/
structure Unread (s : System) : Prop where
  idle : s.phase = .idle
  named : ∀ d ∈ s.data, d.row.agentID ≠ "" ∨ d.row.name ≠ ""
  sources : ∀ d ∈ s.data, d.sources = []

lemma Unread.samples (h : s.Unread) (rule : DownsamplingRule) (cutoff : Time) :
    s.samples warmQuestDBAdapter rule cutoff = [] := by
  have hnone : (s.present.map Datum.row).filter
      (adapterQuery rule.sourceWindow zeroTime cutoff).selects = [] := by
    rw [List.filter_eq_nil_iff]
    intro row hrow hselects
    obtain ⟨d, hd, rfl⟩ := List.mem_map.mp hrow
    obtain ⟨hagent, hname, -⟩ := of_decide_eq_true hselects
    exact (h.named d (List.mem_of_mem_filter hd)).elim (fun hne => hne hagent) fun hne => hne hname
  have hquery : warmQuestDBAdapter.query rule.sourceWindow zeroTime cutoff
      (s.present.map Datum.row) = [] := by
    show Storage.Aggregated.latestFirst _ = []
    rw [hnone]
    exact List.mergeSort_nil
  rw [System.samples, hquery]
  rfl

lemma Unread.reflections (h : s.Unread) (id : ℕ) (window : Duration) :
    s.reflections id window = 0 := by
  rw [System.reflections,
    List.flatMap_eq_nil_iff.mpr fun d hd => h.sources d (List.mem_of_mem_filter hd)]
  rfl

lemma Unread.query (h : s.Unread) (rule : DownsamplingRule) (now : Time) :
    s.step warmQuestDBAdapter (.query rule now) =
      s.settle rule (s.due rule (rule.cutoff now)) := by
  simp only [step, h.idle, System.query, h.samples]
  rfl

lemma Unread.step (h : s.Unread) {e : Event} (hnamed : Named e) :
    (s.step warmQuestDBAdapter e).Unread := by
  cases e with
  | arrive tenant m =>
    refine ⟨h.idle, fun d hd => ?_, fun d hd => ?_⟩
    · rcases List.mem_append.mp hd with hd | hd
      · exact h.named d hd
      · obtain rfl := List.mem_singleton.mp hd
        exact hnamed
    · rcases List.mem_append.mp hd with hd | hd
      · exact h.sources d hd
      · obtain rfl := List.mem_singleton.mp hd
        rfl
  | query rule now =>
    rw [h.query]
    exact ⟨rfl, h.named, h.sources⟩
  | queryFails rule now => exact h
  | store | storeFails | delete | deleteFails => simpa only [System.step, h.idle] using h

lemma unread_empty : ({} : System).Unread where
  idle := rfl
  named := by simp
  sources := by simp

/-- With the adapter no row is ever part of a coarser one. -/
theorem adapter_counts_nothing {es : List Event} (hnamed : ∀ e ∈ es, Named e) (id : ℕ)
    (window : Duration) : (es.foldl (step warmQuestDBAdapter) {}).reflections id window = 0 := by
  have hrun : ∀ {s : System}, s.Unread → (∀ e ∈ es, Named e) →
      (es.foldl (step warmQuestDBAdapter) s).Unread := by
    clear hnamed
    induction es with
    | nil => exact fun h _ => h
    | cons e es ih =>
      intro s h hnamed
      rw [List.forall_mem_cons] at hnamed
      exact ih (h.step hnamed.1) hnamed.2
  exact (hrun unread_empty hnamed).reflections id window

/-- Two metrics are due when the rule for minutes is run, which stores nothing and deletes
nothing. -/
theorem adapter_counts_nothing_due :
    ([.arrive "acme" ⟨"web-1", "cpu", [], minute, .avg, 1, 0⟩,
      .arrive "acme" ⟨"web-2", "cpu", [], minute, .avg, 2, minute⟩,
      .query ⟨minute, 5 * minute, 7⟩ (8 * 24 * 60 * minute), .store 0, .delete].foldl
        (step warmQuestDBAdapter) {}).reflections 0 (5 * minute) = 0 :=
  adapter_counts_nothing (by simp [Named]) 0 (5 * minute)

/-- No row is due when a rule is run. -/
def NothingDue (s : System) : Event → Prop
  | .query rule now => s.due rule (rule.cutoff now) = []
  | _ => True

lemma Unread.guard_iff (h : s.Unread) (e : Event) :
    s.Guard warmQuestDBAdapter e ↔ s.NothingDue e := by
  cases e with
  | query rule now =>
    simp only [Guard, h.idle, h.samples, NothingDue, Counted, h.reflections]
    constructor
    · intro hall
      exact List.eq_nil_iff_forall_not_mem.mpr fun id hid =>
        absurd (hall rfl _ (List.mem_map_of_mem hid)) (by decide)
    · intro hnil _ mark hmark
      rw [hnil] at hmark
      exact absurd hmark List.not_mem_nil
  | arrive tenant m => exact Iff.rfl
  | queryFails rule now => exact Iff.rfl
  | store | storeFails | delete | deleteFails => simp only [Guard, h.idle, NothingDue]

/-- With the adapter every row is counted once throughout exactly the runs in which no rule is run
to its end while rows of its source window are due. -/
theorem once_adapter_iff {es : List Event} (hnamed : ∀ e ∈ es, Named e) :
    Always (step warmQuestDBAdapter) Once {} es ↔
      Allowed (step warmQuestDBAdapter) NothingDue {} es := by
  rw [always_once_iff numbered_empty once_empty]
  have hrun : ∀ {s : System}, s.Unread → (∀ e ∈ es, Named e) →
      (Allowed (step warmQuestDBAdapter) (Guard warmQuestDBAdapter) s es ↔
        Allowed (step warmQuestDBAdapter) NothingDue s es) := by
    clear hnamed
    induction es with
    | nil => exact fun _ _ => Iff.rfl
    | cons e es ih =>
      intro s h hnamed
      rw [List.forall_mem_cons] at hnamed
      exact and_congr (h.guard_iff e) (ih (h.step hnamed.1) hnamed.2)
  exact hrun unread_empty hnamed

/-- Two metrics that are an hour old when the rule for minutes is run. -/
theorem once_adapter_recent : Always (step warmQuestDBAdapter) Once {}
    [.arrive "acme" ⟨"web-1", "cpu", [], minute, .avg, 1, 0⟩,
      .arrive "acme" ⟨"web-2", "cpu", [], minute, .avg, 2, minute⟩,
      .query ⟨minute, 5 * minute, 7⟩ (60 * minute), .delete] :=
  (once_adapter_iff (by simp [Named])).mpr
    ⟨trivial, trivial, (by decide : System.due _ _ _ = []), trivial, trivial⟩

/-- A metric of a minute, eight days old when the rule for minutes is run: it is in no row of five
minutes when the rule is done. -/
theorem not_once_adapter :
    ¬ ∀ es : List Event, Always (step warmQuestDBAdapter) Once {} es := by
  intro h
  let m : AggregatedMetric :=
    { agentID := "agent", name := "cpu.usage_percent", window := minute, aggType := .avg,
      value := 20, timestamp := 0 }
  let rule : DownsamplingRule := ⟨minute, 5 * minute, 7⟩
  have hnamed : ∀ e ∈ [Event.arrive "acme" m, .query rule (8 * 24 * 60 * minute)], Named e := by
    intro e he
    rcases List.mem_pair.mp he with rfl | rfl
    · exact .inl (by decide)
    · trivial
  have hallowed := (once_adapter_iff hnamed).mp (h _)
  have hdue : 0 ∈ (System.step warmQuestDBAdapter {} (.arrive "acme" m)).due rule
      (rule.cutoff (8 * 24 * 60 * minute)) := by decide
  rw [hallowed.2.1] at hdue
  exact List.not_mem_nil hdue

end System

end Paryty.Processing.Downsampler

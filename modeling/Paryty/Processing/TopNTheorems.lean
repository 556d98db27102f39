import Paryty.Lib.Largest
import Paryty.Processing.TopNIndex

/-!
# The largest processes

`Update` and `GetTopN` of `cluster/internal/processing/topn.go`, with the index of each heap. A
tracker identifies a process by its name alone, whatever agent it runs on.

* `Tracks`: what a category knows after some updates; `Tracks.update` is the step.
* `forget_update`: without the index it is the tracker of the aggregator.
* `getTopN_ranks`: the names with the largest latest values, in descending order.
* `not_ranks_nginxTwice`: two processes with one name on two agents are not told apart.
-/

namespace Paryty.Processing

open Lib (Largest)
open Lib.Heap (Ordered)

/-! ## Trackers -/

/-- `categoryTracker`. -/
structure IndexedTracker where
  category : String
  heap : IndexedHeap := {}
  maxSize : ℕ
  dirty : Finset String := ∅

namespace IndexedTracker

/-- `categoryTracker.update`. Without entries in a full heap, `entries[0]` panics. -/
def update (ct : IndexedTracker) (entry : TopNEntry) : Option IndexedTracker :=
  match ct.heap.index.find? entry.name with
  | some (_, idx) =>
    some { ct with heap := ct.heap.update idx entry, dirty := insert entry.name ct.dirty }
  | none =>
    if ct.heap.entries.length < ct.maxSize then
      some { ct with heap := ct.heap.push entry, dirty := insert entry.name ct.dirty }
    else
      match ct.heap.entries with
      | [] => none
      | smallest :: _ =>
        if entry.value > smallest.value then
          some { ct with
            heap := ct.heap.replaceFirst smallest.name entry
            dirty := insert entry.name (ct.dirty.erase smallest.name) }
        else some ct

/-- `categoryTracker.getTopN`. `sort.Slice` leaves the order of equal values open: it is theirs in
`order`. -/
def getTopN (ct : IndexedTracker) (window : Duration) (order : List TopNEntry) : List TopNResult :=
  CategoryTracker.ranked
    ((inOrder order ct.heap.entries).map (CategoryTracker.toResult ct.category window))

/-- The tracker without the index. -/
def forget (ct : IndexedTracker) : CategoryTracker where
  category := ct.category
  entries := ct.heap.entries
  maxSize := ct.maxSize
  dirty := ct.dirty

end IndexedTracker

/-- What `Update` is called with. -/
structure TopNUpdate where
  category : String
  entry : TopNEntry
deriving DecidableEq

/-- `TopNTracker`. -/
structure IndexedTopN where
  trackers : Lib.Table IndexedTracker String IndexedTracker.category
  window : Duration := minute

namespace IndexedTopN

/-- `NewTopNTracker`. -/
def new (n : ℕ) (categories : List String) : IndexedTopN where
  trackers := .ofList (categories.map fun category => { category, maxSize := n })

/-- `TopNTracker.Update`; an unknown category is only logged. -/
def update (t : IndexedTopN) (u : TopNUpdate) : Option IndexedTopN :=
  match t.trackers.find? u.category with
  | none => some t
  | some tracker =>
    (tracker.update u.entry).map fun tracker => { t with trackers := t.trackers.put tracker }

/-- `TopNTracker.GetTopN`. -/
def getTopN (t : IndexedTopN) (category : String) (order : List TopNEntry) : List TopNResult :=
  match t.trackers.find? category with
  | none => []
  | some tracker => tracker.getTopN t.window order

end IndexedTopN

/-! ## Rankings -/

/-- The entry that a result is about. -/
def TopNResult.entry (r : TopNResult) : TopNEntry where
  name := r.name
  agentID := r.agentID
  value := r.value
  timestamp := r.timestamp

/-- The updates of one category. -/
def entriesOf (updates : List TopNUpdate) (category : String) : List TopNEntry :=
  (updates.filter fun u => u.category = category).map TopNUpdate.entry

/-- In each category, no later value of an identity is smaller than an earlier one. -/
def NeverDecreases {κ : Type*} (identity : TopNEntry → κ) (updates : List TopNUpdate) : Prop :=
  updates.Pairwise fun u v =>
    u.category = v.category → identity u.entry = identity v.entry → u.entry.value ≤ v.entry.value

/-- The results are the `n` identities with the largest latest values, in descending order. -/
structure Ranks {κ : Type*} (identity : TopNEntry → κ) [DecidableEq κ] (n : ℕ)
    (entries : List TopNEntry) (results : List TopNResult) : Prop where
  largest : Largest TopNEntry.value n (Lib.Table.ofList entries : Lib.Table TopNEntry κ identity)
    (results.map TopNResult.entry)
  descending : results.Pairwise fun a b => b.value ≤ a.value
  ranks : results.map TopNResult.rank = List.range' 1 results.length

/-! ## One category -/

namespace IndexedTracker

/-- The heap of a category has the largest of the latest entries. -/
structure Tracks (n : ℕ) (entries : List TopNEntry) (ct : IndexedTracker) : Prop where
  indexed : ct.heap.Indexed
  ordered : Ordered (MinHeap.valueAt ct.heap.entries)
  largest : Largest TopNEntry.value n
    (Lib.Table.ofList entries : Lib.Table TopNEntry String TopNEntry.name) ct.heap.entries
  size : ct.maxSize = n

variable {n : ℕ} {entries : List TopNEntry} {ct : IndexedTracker} {entry : TopNEntry}

lemma tracks_new (n : ℕ) (category : String) : Tracks n [] { category, maxSize := n } where
  indexed _ _ := iff_of_false (Lib.Table.not_mem_empty) (by simp)
  ordered _ := by
    rw [MinHeap.valueAt_of_le (Nat.zero_le _), MinHeap.valueAt_of_le (Nat.zero_le _)]
  largest := .empty
  size := rfl

/-- Without the index an update does the same. -/
theorem forget_update {ct' : IndexedTracker} (hindex : ct.heap.Indexed)
    (h : ct.update entry = some ct') :
    ct'.forget = ct.forget.update entry.name entry.agentID entry.value entry.timestamp := by
  have hfind : (ct.heap.index.find? entry.name).map Prod.snd =
      ct.forget.entries.findIdx? fun e => e.name = entry.name := hindex.find? entry.name
  unfold update at h
  unfold CategoryTracker.update
  rw [← hfind]
  cases hentry : ct.heap.index.find? entry.name with
  | some found =>
    rw [hentry] at h
    obtain rfl := Option.some.inj h
    simp [forget]
  | none =>
    rw [hentry] at h
    dsimp only [Option.map_none] at h ⊢
    show _ = if ct.heap.entries.length < ct.maxSize then _ else _
    split at h
    case isTrue hroom =>
      obtain rfl := Option.some.inj h
      rw [if_pos hroom]
      simp [forget]
    case isFalse hfull =>
      have hsame : ct.forget.entries = ct.heap.entries := rfl
      rw [if_neg hfull, hsame]
      cases hentries : ct.heap.entries with
      | nil =>
        rw [hentries] at h
        exact absurd h (by simp)
      | cons smallest rest =>
        rw [hentries] at h
        dsimp only at h ⊢
        split at h
        case isTrue hlarger =>
          obtain rfl := Option.some.inj h
          rw [if_pos hlarger]
          simp [forget, hentries]
        case isFalse hsmall =>
          obtain rfl := Option.some.inj h
          rw [if_neg hsmall]

/-- Two processes, and room for no third. -/
def fullTracker : IndexedTracker where
  category := "cpu"
  heap := (({} : IndexedHeap).push ⟨"nginx", "web-1", 2, 0⟩).push ⟨"redis", "web-1", 5, 0⟩
  maxSize := 2

lemma indexed_fullTracker : fullTracker.heap.Indexed :=
  ((tracks_new 0 "").indexed.push (by simp)).push (by decide)

/-- The third process is larger than the smallest one, which goes. -/
theorem forget_update_evicts : ∃ ct' : IndexedTracker,
    fullTracker.update ⟨"postgres", "web-1", 9, 1⟩ = some ct' ∧
      ct'.heap.entries.map TopNEntry.name = ["redis", "postgres"] ∧
      ct'.forget = fullTracker.forget.update "postgres" "web-1" 9 1 :=
  ⟨_, rfl, by decide, forget_update indexed_fullTracker
    (show fullTracker.update ⟨"postgres", "web-1", 9, 1⟩ = some _ from rfl)⟩

lemma Tracks.update (htracks : Tracks n entries ct) (hn : 0 < n)
    (hmono : ∀ e ∈ entries, e.name = entry.name → e.value ≤ entry.value) :
    ∃ ct' : IndexedTracker, ct.update entry = some ct' ∧ ct'.category = ct.category ∧
      Tracks n (entries ++ [entry]) ct' := by
  obtain ⟨hindexed, hordered, hlargest, hsize⟩ := htracks
  unfold IndexedTracker.update
  cases hfind : ct.heap.index.find? entry.name with
  | some found =>
    -- The name is in the heap. As its value has not decreased, it stays among the largest.
    obtain ⟨hfound, hname⟩ := Lib.Table.find?_eq_some.mp hfind
    have hmem : (entry.name, found.2) ∈ ct.heap.index := hname ▸ hfound
    obtain ⟨old, hold, hkey⟩ := Option.map_eq_some_iff.mp ((hindexed _ _).mp hmem)
    obtain ⟨hlt, hat⟩ := List.getElem?_eq_some_iff.mp hold
    have hle : old.value ≤ entry.value := by
      refine hmono old ?_ hkey
      rcases Lib.Table.mem_or_mem_of_mem_foldl_put
        (hlargest.mem old (List.mem_of_getElem? hold)) with hin | hin
      · exact absurd hin Lib.Table.not_mem_empty
      · exact hin
    refine ⟨_, rfl, rfl, hindexed.update hmem, ?_, ?_, hsize⟩
    · rw [IndexedHeap.entries_update]
      exact MinHeap.ordered_fix_set hordered hlt entry
    · have hbefore : (old :: ct.heap.entries.eraseIdx found.2).Perm ct.heap.entries :=
        hat ▸ List.getElem_cons_eraseIdx_perm hlt
      rw [Lib.Table.ofList_concat, IndexedHeap.entries_update]
      exact ((hlargest.of_perm hbefore).replace hkey hle).of_perm
        ((MinHeap.perm_fix _ _).trans (List.set_perm_cons_eraseIdx hlt entry))
  | none =>
    have hfresh : ∀ e ∈ ct.heap.entries, e.name ≠ entry.name := by
      have hnone := hindexed.find? entry.name
      rw [hfind, Option.map_none, eq_comm, List.findIdx?_eq_none_iff] at hnone
      exact fun e he => by simpa using hnone e he
    dsimp only
    by_cases hroom : ct.heap.entries.length < ct.maxSize
    · -- There is room, so the heap has all names.
      rw [if_pos hroom]
      refine ⟨_, rfl, rfl, hindexed.push hfresh, ?_, ?_, hsize⟩
      · rw [IndexedHeap.entries_push]
        exact MinHeap.ordered_push hordered entry
      · rw [Lib.Table.ofList_concat, IndexedHeap.entries_push]
        exact (hlargest.add (hsize ▸ hroom) hfresh).of_perm (MinHeap.perm_push _ _)
    · rw [if_neg hroom]
      have hfull : n ≤ ct.heap.entries.length := by omega
      cases hentries : ct.heap.entries with
      | nil =>
        rw [hentries, List.length_nil] at hfull
        omega
      | cons smallest rest =>
        -- The heap is full, and its first entry is the smallest.
        dsimp only
        rw [hentries] at hordered hlargest hfresh hfull
        have hmin : ∀ e ∈ smallest :: rest, smallest.value ≤ e.value := fun e he =>
          MinHeap.first_le hordered he
        by_cases hlarger : entry.value > smallest.value
        · rw [if_pos hlarger]
          refine ⟨_, rfl, rfl, hindexed.replaceFirst hentries (hentries ▸ hfresh), ?_, ?_, hsize⟩
          · rw [IndexedHeap.entries_replaceFirst, hentries]
            exact MinHeap.ordered_fix_set hordered (by simp) entry
          · rw [Lib.Table.ofList_concat, IndexedHeap.entries_replaceFirst, hentries,
              List.set_cons_zero]
            refine (hlargest.evict hfull hfresh (fun e he => ?_) hlarger).of_perm
              (MinHeap.perm_fix _ _)
            exact hmin e (List.mem_cons_of_mem _ he)
        · rw [if_neg hlarger]
          have hsmall : ∀ e ∈ smallest :: rest, entry.value ≤ e.value := fun e he =>
            (not_lt.mp hlarger).trans (hmin e he)
          refine ⟨_, rfl, rfl, hindexed, hentries ▸ hordered, ?_, hsize⟩
          rw [Lib.Table.ofList_concat, hentries]
          exact hlargest.leaveOut hfull hfresh hsmall

lemma map_ranked {β : Type*} {f : TopNResult → β} (hf : ∀ r i, f { r with rank := i } = f r)
    (results : List TopNResult) : (CategoryTracker.ranked results).map f =
      (results.insertionSort fun a b => b.value ≤ a.value).map f := by
  refine List.ext_getElem? fun i => ?_
  rw [CategoryTracker.ranked, List.getElem?_map, List.getElem?_mapIdx, Option.map_map,
    List.getElem?_map]
  exact congrArg (Option.map · _) (funext fun r => hf r (i + 1))

lemma rank_ranked (results : List TopNResult) : (CategoryTracker.ranked results).map
    TopNResult.rank = List.range' 1 (CategoryTracker.ranked results).length := by
  refine List.ext_getElem (by simp) fun i hi _ => ?_
  simp [CategoryTracker.ranked, Nat.add_comm]

lemma pairwise_ranked (results : List TopNResult) :
    (CategoryTracker.ranked results).Pairwise fun a b => b.value ≤ a.value := by
  have : Std.Total fun a b : TopNResult => b.value ≤ a.value :=
    ⟨fun a b => le_total b.value a.value⟩
  have : IsTrans TopNResult fun a b => b.value ≤ a.value := ⟨fun _ _ _ hab hbc => hbc.trans hab⟩
  have hsorted := List.pairwise_insertionSort (fun a b : TopNResult => b.value ≤ a.value) results
  rw [← List.pairwise_map (f := TopNResult.value) (R := fun a b => b ≤ a)] at hsorted ⊢
  rwa [map_ranked fun _ _ => rfl]

/-- What `getTopN` returns are the entries of the heap, sorted. -/
lemma Tracks.ranks (htracks : Tracks n entries ct) (window : Duration) (order : List TopNEntry) :
    Ranks TopNEntry.name n entries (ct.getTopN window order) where
  largest := by
    refine htracks.largest.of_perm ?_
    rw [getTopN, map_ranked fun _ _ => rfl]
    refine ((List.perm_insertionSort _ _).map _).trans ?_
    -- An entry and its result say the same.
    have hid : TopNResult.entry ∘ CategoryTracker.toResult ct.category window = id := rfl
    rw [List.map_map, hid, List.map_id]
    exact perm_inOrder _ _
  descending := pairwise_ranked _
  ranks := rank_ranked _

end IndexedTracker

/-! ## All categories -/

namespace IndexedTopN

/-- Every category has a tracker, and each tracker has the largest of its category. -/
structure Follows (n : ℕ) (categories : List String) (updates : List TopNUpdate)
    (t : IndexedTopN) : Prop where
  exists_tracker : ∀ category ∈ categories, t.trackers.HasKey category
  tracks : ∀ ct ∈ t.trackers, ct.Tracks n (entriesOf updates ct.category)

variable {n : ℕ} {categories : List String} {updates : List TopNUpdate} {u : TopNUpdate}
  {t : IndexedTopN}

lemma follows_new (n : ℕ) (categories : List String) :
    Follows n categories [] (new n categories) where
  exists_tracker category hcategory := by
    rw [new, Lib.Table.hasKey_ofList]
    exact ⟨_, List.mem_map_of_mem hcategory, rfl⟩
  tracks ct hct := by
    rcases Lib.Table.mem_or_mem_of_mem_foldl_put hct with hct | hct
    · exact absurd hct Lib.Table.not_mem_empty
    · obtain ⟨category, -, rfl⟩ := List.mem_map.mp hct
      exact IndexedTracker.tracks_new n category

lemma entriesOf_concat (updates : List TopNUpdate) (u : TopNUpdate) (category : String) :
    entriesOf (updates ++ [u]) category =
      entriesOf updates category ++ if u.category = category then [u.entry] else [] := by
  rw [entriesOf, List.filter_append, List.map_append, ← entriesOf, List.filter_singleton]
  by_cases hcategory : u.category = category
  · simp [hcategory]
  · simp [hcategory]

lemma le_of_neverDecreases (hmono : NeverDecreases TopNEntry.name (updates ++ [u])) :
    ∀ e ∈ entriesOf updates u.category, e.name = u.entry.name → e.value ≤ u.entry.value := by
  intro e he hname
  obtain ⟨v, hv, rfl⟩ := List.mem_map.mp he
  obtain ⟨hv, hcategory⟩ := List.mem_filter.mp hv
  exact (List.pairwise_append.mp hmono).2.2 v hv u (List.mem_singleton_self u)
    (of_decide_eq_true hcategory) hname

lemma Follows.update (hfollows : Follows n categories updates t) (hn : 0 < n)
    (hmono : NeverDecreases TopNEntry.name (updates ++ [u])) :
    ∃ t' : IndexedTopN, t.update u = some t' ∧ Follows n categories (updates ++ [u]) t' := by
  obtain ⟨hexists, htracks⟩ := hfollows
  -- The other categories have the updates they had.
  have hother {ct : IndexedTracker} (hct : ct ∈ t.trackers) (hne : u.category ≠ ct.category) :
      ct.Tracks n (entriesOf (updates ++ [u]) ct.category) := by
    rw [entriesOf_concat, if_neg hne, List.append_nil]
    exact htracks ct hct
  unfold IndexedTopN.update
  cases hfind : t.trackers.find? u.category with
  | none =>
    refine ⟨t, rfl, hexists, fun ct hct => hother hct ?_⟩
    exact (Lib.Table.find?_eq_none.mp hfind ct hct).symm
  | some tracker =>
    obtain ⟨hmem, hkey⟩ := Lib.Table.find?_eq_some.mp hfind
    obtain ⟨tracker', hupdate, hcategory, htracker'⟩ :=
      (htracks tracker hmem).update hn (hkey ▸ le_of_neverDecreases hmono)
    refine ⟨{ t with trackers := t.trackers.put tracker' }, by simp [hupdate], ?_, ?_⟩
    · intro category hin
      exact Lib.Table.hasKey_put.mpr (.inl (hexists category hin))
    · intro ct hct
      rcases Lib.Table.mem_put.mp hct with rfl | ⟨hct, hne⟩
      · rw [entriesOf_concat, if_pos (hcategory.trans hkey).symm, hcategory]
        exact htracker'
      · exact hother hct (hkey ▸ hcategory ▸ Ne.symm hne)

lemma follows_run (hn : 0 < n) (categories : List String) (updates : List TopNUpdate)
    (hmono : NeverDecreases TopNEntry.name updates) :
    ∃ t, updates.foldlM update (new n categories) = some t ∧ Follows n categories updates t := by
  induction updates using List.reverseRecOn with
  | nil => exact ⟨_, rfl, follows_new n categories⟩
  | append_singleton updates u ih =>
    obtain ⟨t, hrun, hfollows⟩ := ih (List.pairwise_append.mp hmono).1
    obtain ⟨t', hupdate, hfollows'⟩ := hfollows.update hn hmono
    refine ⟨t', ?_, hfollows'⟩
    rw [List.foldlM_append, hrun]
    simpa using hupdate

/-- If the value of no name ever decreases, `GetTopN` returns the names with the largest latest
values. -/
theorem getTopN_ranks {n : ℕ} (hn : 0 < n) (categories : List String) (updates : List TopNUpdate)
    (hmono : NeverDecreases TopNEntry.name updates) (category : String)
    (hcategory : category ∈ categories) (order : List TopNEntry) :
    ∃ t, updates.foldlM update (new n categories) = some t ∧
      Ranks TopNEntry.name n (entriesOf updates category) (t.getTopN category order) := by
  obtain ⟨t, hrun, hexists, htracks⟩ := follows_run hn categories updates hmono
  obtain ⟨ct, hfind⟩ := Option.isSome_iff_exists.mp
    (Lib.Table.hasKey_iff_find?.mp (hexists category hcategory))
  obtain ⟨hct, rfl⟩ := Lib.Table.find?_eq_some.mp hfind
  refine ⟨t, hrun, ?_⟩
  rw [getTopN, hfind]
  exact (htracks ct hct).ranks t.window order

/-- The first process reports twice, then another one. -/
theorem getTopN_ranks_twoProcesses :
    ∃ t, [(⟨"cpu.process", ⟨"nginx", "agent-1", 10, 0⟩⟩ : TopNUpdate),
        ⟨"cpu.process", ⟨"nginx", "agent-1", 20, 1⟩⟩,
        ⟨"cpu.process", ⟨"redis", "agent-1", 15, 2⟩⟩].foldlM update
          (new 1 ["cpu.process"]) = some t ∧
      Ranks TopNEntry.name 1 (entriesOf [⟨"cpu.process", ⟨"nginx", "agent-1", 10, 0⟩⟩,
        ⟨"cpu.process", ⟨"nginx", "agent-1", 20, 1⟩⟩,
        ⟨"cpu.process", ⟨"redis", "agent-1", 15, 2⟩⟩] "cpu.process") (t.getTopN "cpu.process" []) :=
  getTopN_ranks (by decide) _ _ (by unfold NeverDecreases; decide +kernel) _
    (List.mem_singleton_self _) []

/-- Two processes with one name on two agents. -/
theorem not_ranks_nginxTwice :
    ¬ ∀ (n : ℕ) (categories : List String) (updates : List TopNUpdate), 0 < n →
      NeverDecreases (fun e => (e.name, e.agentID)) updates →
        ∀ category ∈ categories, ∀ order,
          ∃ t, updates.foldlM update (new n categories) = some t ∧
            Ranks (fun e => (e.name, e.agentID)) n (entriesOf updates category)
              (t.getTopN category order) := by
  intro h
  obtain ⟨t, hrun, hranks⟩ := h 2 ["cpu.process"] [⟨"cpu.process", ⟨"nginx", "agent-1", 10, 0⟩⟩,
    ⟨"cpu.process", ⟨"nginx", "agent-2", 20, 1⟩⟩] (by decide)
    (by unfold NeverDecreases; decide +kernel) _ (List.mem_singleton_self _) []
  obtain rfl := Option.some.inj hrun
  exact absurd hranks.largest.length (by decide +kernel)

end IndexedTopN

end Paryty.Processing

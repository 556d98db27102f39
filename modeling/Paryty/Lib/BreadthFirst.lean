import Mathlib.Data.List.Chain
import Mathlib.Data.List.Induction
import Mathlib.Logic.Function.Basic
import Mathlib.Tactic.Lemma

/-!
# Breadth-first search

`next` lists the vertices that the edges of a vertex lead to. The search has a queue, the vertices
it has met, and for each of them the vertex it was met from. One `expand` takes the first vertex of
the queue and looks at its neighbours; `run` goes on until the target is the first one, or the queue
is empty.

* `IsShortest`: a path with as few vertices as any.
* `Explored`: what holds between two looks. Every vertex that was met has a level, one above that of
  its parent; the levels in the queue ascend and span two levels at most; and the neighbours of a
  vertex that has left the queue have been met.
* `run_terminates`, `not_reachable_of_run`, `isShortest_of_run`: the search ends, it gives up only
  if no path leads to the target, and if it does not, the parents of the target lead back on a
  shortest path.
-/

namespace Lib

variable {α : Type*}

/-! ## Paths -/

/-- A list of vertices from the source to the target along edges. -/
structure IsPath (edge : α → α → Prop) (source target : α) (path : List α) : Prop where
  head : path.head? = some source
  last : path.getLast? = some target
  edges : path.IsChain edge

/-- A path with as few vertices as any. -/
def IsShortest (edge : α → α → Prop) (source target : α) (path : List α) : Prop :=
  IsPath edge source target path ∧
    ∀ other, IsPath edge source target other → path.length ≤ other.length

/-- A path leads from the source to the target. -/
def Reachable (edge : α → α → Prop) (source target : α) : Prop :=
  ∃ path, IsPath edge source target path

variable {edge : α → α → Prop} {next : α → List α} {source v w : α} {path : List α}

lemma isPath_singleton (source : α) : IsPath edge source source [source] :=
  ⟨rfl, rfl, .singleton _⟩

lemma IsPath.concat (h : IsPath edge source v path) (hw : edge v w) :
    IsPath edge source w (path ++ [w]) where
  head := by
    rw [List.head?_append, h.head]
    rfl
  last := by simp
  edges := by
    rw [List.isChain_append]
    refine ⟨h.edges, .singleton _, fun a ha b hb => ?_⟩
    rw [h.last] at ha
    obtain rfl : v = a := Option.some.inj ha
    obtain rfl : w = b := Option.some.inj hb
    exact hw

lemma IsPath.of_concat (h : IsPath edge source w (path ++ [v])) (hpath : path ≠ []) :
    w = v ∧ ∃ u, IsPath edge source u path ∧ edge u v := by
  obtain ⟨hhead, hlast, hedges⟩ := h
  have hw : w = v := by
    rw [List.getLast?_append, List.getLast?_singleton] at hlast
    exact (Option.some.inj hlast).symm
  obtain ⟨hfirst, -, hlink⟩ := List.isChain_append.mp hedges
  refine ⟨hw, path.getLast hpath, ⟨?_, List.getLast?_eq_some_getLast hpath, hfirst⟩, ?_⟩
  · rw [List.head?_append_of_ne_nil _ hpath] at hhead
    exact hhead
  · exact hlink _ (List.getLast?_eq_some_getLast hpath) _ rfl

/-! ## The search -/

/-- The edges of an adjacency function. -/
def Adjacent (next : α → List α) (v w : α) : Prop := w ∈ next v

/-- The state of a search. -/
structure Search (α : Type*) where
  queue : List α
  visited : α → Bool
  parent : α → α

namespace Search

variable [DecidableEq α] {s : Search α}

/-- Look at one neighbour of `current`: one that is new is queued. -/
def look (current : α) (s : Search α) (neighbor : α) : Search α :=
  if s.visited neighbor then s
  else
    { queue := s.queue ++ [neighbor]
      visited := Function.update s.visited neighbor true
      parent := Function.update s.parent neighbor current }

/-- Look at all neighbours of `current`. -/
def expand (next : α → List α) (s : Search α) (current : α) : Search α :=
  (next current).foldl (look current) s

/-- Search until the target is the first vertex of the queue, or the queue is empty. Without fuel
the search is not over. -/
def run (next : α → List α) (target : α) : ℕ → Search α → Option (Option (Search α))
  | 0, _ => none
  | fuel + 1, s =>
    match s.queue with
    | [] => some none
    | current :: queue =>
      if current = target then some (some s)
      else run next target fuel (expand next { s with queue } current)

/-- Follow the parents from a vertex to the root, which is the parent of the source. -/
def backtrack (parent : α → α) (root : α) : ℕ → α → List α → Option (List α)
  | 0, _, _ => none
  | fuel + 1, v, path =>
    if v = root then some path else backtrack parent root fuel (parent v) (v :: path)

/-! ## Levels -/

/-- The neighbours in `todo` are still to be looked at from `current`. -/
structure Explored (next : α → List α) (source : α) (s : Search α) (level : α → ℕ) (current : α)
    (todo : List α) : Prop where
  visited_source : s.visited source = true
  level_source : level source = 0
  visited_current : s.visited current = true
  visited_queue : ∀ v ∈ s.queue, s.visited v = true
  /-- A vertex was met from one a level below. -/
  parent : ∀ v, s.visited v = true → v ≠ source →
    s.visited (s.parent v) = true ∧ v ∈ next (s.parent v) ∧ level v = level (s.parent v) + 1
  level_le : ∀ v, s.visited v = true → level v ≤ level current + 1
  le_level : ∀ v ∈ s.queue, level current ≤ level v
  ascending : s.queue.Pairwise fun v w => level v ≤ level w
  /-- Vertices that have left the queue have passed on to their neighbours. -/
  closed : ∀ v, s.visited v = true → v ∉ s.queue → ∀ w ∈ next v,
    (v = current ∧ w ∈ todo) ∨ (s.visited w = true ∧ level w ≤ level v + 1)

variable {level : α → ℕ} {current : α} {todo : List α}

/-- The search before its first step. -/
def start (source root : α) : Search α where
  queue := [source]
  visited := Function.update (fun _ => false) source true
  parent := fun _ => root

lemma visited_start {source root v : α} : (start source root).visited v = true ↔ v = source := by
  by_cases hv : v = source <;> simp [start, hv]

lemma explored_start (next : α → List α) (source root : α) :
    Explored next source (start source root) (fun _ => 0) source [] where
  visited_source := visited_start.mpr rfl
  level_source := rfl
  visited_current := visited_start.mpr rfl
  visited_queue _ hv := visited_start.mpr (List.mem_singleton.mp hv)
  parent _ hv hne := absurd (visited_start.mp hv) hne
  level_le _ _ := Nat.zero_le _
  le_level _ _ := Nat.zero_le _
  ascending := List.pairwise_singleton _ _
  closed _ hv hqueue := absurd (List.mem_singleton.mpr (visited_start.mp hv)) hqueue

lemma Explored.look (h : Explored next source s level current (w :: todo))
    (hw : w ∈ next current) :
    ∃ level', Explored next source (s.look current w) level' current todo := by
  by_cases hvisited : s.visited w = true
  · -- Nothing happens: only the list of neighbours gets shorter.
    refine ⟨level, ?_⟩
    rw [Search.look, if_pos hvisited]
    refine { h with closed := fun v hv hqueue u hu => ?_ }
    obtain ⟨hcurrent, hmem⟩ | hmet := h.closed v hv hqueue u hu
    · obtain rfl | hmem := List.mem_cons.mp hmem
      · exact .inr ⟨hvisited, hcurrent ▸ h.level_le u hvisited⟩
      · exact .inl ⟨hcurrent, hmem⟩
    · exact .inr hmet
  · -- the new vertex comes one level above `current`
    have hold {v : α} (hv : s.visited v = true) : v ≠ w := fun heq => hvisited (heq ▸ hv)
    have hlevel {v : α} (hv : s.visited v = true) :
        Function.update level w (level current + 1) v = level v :=
      Function.update_of_ne (hold hv) _ _
    have hcurrent := hlevel h.visited_current
    have hnew : Function.update level w (level current + 1) w = level current + 1 :=
      Function.update_self ..
    have hmet {v : α} : Function.update s.visited w true v = true ↔ v = w ∨ s.visited v = true := by
      by_cases hv : v = w <;> simp [hv]
    refine ⟨Function.update level w (level current + 1), ?_⟩
    rw [Search.look, if_neg hvisited]
    constructor
    case visited_source => exact hmet.mpr (.inr h.visited_source)
    case level_source => rw [hlevel h.visited_source, h.level_source]
    case visited_current => exact hmet.mpr (.inr h.visited_current)
    case visited_queue =>
      intro v hv
      obtain hv | hv := List.mem_append.mp hv
      · exact hmet.mpr (.inr (h.visited_queue v hv))
      · exact hmet.mpr (.inl (List.mem_singleton.mp hv))
    case parent =>
      intro v hv hne
      dsimp only
      obtain rfl | hv := hmet.mp hv
      · rw [Function.update_self, hcurrent, hnew]
        exact ⟨hmet.mpr (.inr h.visited_current), hw, rfl⟩
      · obtain ⟨hparent, hedge, hstep⟩ := h.parent v hv hne
        rw [Function.update_of_ne (hold hv), hlevel hparent, hlevel hv]
        exact ⟨hmet.mpr (.inr hparent), hedge, hstep⟩
    case level_le =>
      intro v hv
      rw [hcurrent]
      obtain rfl | hv := hmet.mp hv
      · rw [hnew]
      · rw [hlevel hv]
        exact h.level_le v hv
    case le_level =>
      intro v hv
      rw [hcurrent]
      obtain hv | hv := List.mem_append.mp hv
      · rw [hlevel (h.visited_queue v hv)]
        exact h.le_level v hv
      · rw [List.mem_singleton.mp hv, hnew]
        exact Nat.le_succ _
    case ascending =>
      refine List.pairwise_append.mpr ⟨?_, List.pairwise_singleton _ _, ?_⟩
      · refine h.ascending.imp_of_mem fun hv hu hle => ?_
        rw [hlevel (h.visited_queue _ hv), hlevel (h.visited_queue _ hu)]
        exact hle
      · intro v hv u hu
        have hv := h.visited_queue v hv
        rw [List.mem_singleton.mp hu, hnew, hlevel hv]
        exact h.level_le v hv
    case closed =>
      intro v hv hqueue u hu
      -- The new vertex is queued, so what has left the queue is old.
      rw [List.mem_append, not_or, List.mem_singleton] at hqueue
      have hv := (hmet.mp hv).resolve_left hqueue.2
      obtain ⟨hsame, hmem⟩ | ⟨hu, hle⟩ := h.closed v hv hqueue.1 u hu
      · obtain rfl | hmem := List.mem_cons.mp hmem
        · exact .inr ⟨hmet.mpr (.inl rfl), by rw [hnew, hsame, hcurrent]⟩
        · exact .inl ⟨hsame, hmem⟩
      · exact .inr ⟨hmet.mpr (.inr hu), by rw [hlevel hu, hlevel hv]; exact hle⟩

lemma Explored.foldl_look (h : Explored next source s level current todo)
    (htodo : ∀ w ∈ todo, w ∈ next current) :
    ∃ level', Explored next source (todo.foldl (Search.look current) s) level' current [] := by
  induction todo generalizing s level with
  | nil => exact ⟨level, h⟩
  | cons w todo ih =>
    obtain ⟨level', h'⟩ := h.look (htodo w List.mem_cons_self)
    exact ih h' fun u hu => htodo u (List.mem_cons_of_mem _ hu)

lemma Explored.expand {queue : List α} {c : α} (h : Explored next source s level current [])
    (hqueue : s.queue = c :: queue) :
    ∃ level', Explored next source (expand next { s with queue } c) level' c [] := by
  have hmem {v : α} (hv : v ∈ queue) : v ∈ s.queue := hqueue ▸ List.mem_cons_of_mem _ hv
  have hc : c ∈ s.queue := hqueue ▸ List.mem_cons_self
  have hascending := h.ascending
  rw [hqueue, List.pairwise_cons] at hascending
  -- With `c` off the queue, all its neighbours are still to be looked at.
  have htaken : Explored next source { s with queue } level c (next c) :=
    { visited_source := h.visited_source
      level_source := h.level_source
      visited_current := h.visited_queue c hc
      visited_queue := fun v hv => h.visited_queue v (hmem hv)
      parent := h.parent
      level_le := fun v hv => (h.level_le v hv).trans (Nat.succ_le_succ (h.le_level c hc))
      le_level := hascending.1
      ascending := hascending.2
      closed := by
        intro v hv hout w hw
        by_cases hvc : v = c
        · exact .inl ⟨hvc, hvc ▸ hw⟩
        · have hout : v ∉ s.queue := by
            rw [hqueue, List.mem_cons, not_or]
            exact ⟨hvc, hout⟩
          exact .inr ((h.closed v hv hout w hw).resolve_left fun h => List.not_mem_nil h.2) }
  exact htaken.foldl_look fun w hw => hw

/-- A vertex that a path leads to has left the queue, or the path is as long as the level of one
that is still queued. -/
lemma Explored.on_path (h : Explored next source s level current [])
    (hpath : IsPath (Adjacent next) source v path) :
    (s.visited v = true ∧ v ∉ s.queue ∧ level v + 1 ≤ path.length) ∨
      ∃ u ∈ s.queue, level u + 1 ≤ path.length := by
  induction path using List.reverseRecOn generalizing v with
  | nil => exact absurd hpath.head (by simp)
  | append_singleton path w ih =>
    rw [List.length_append, List.length_singleton]
    by_cases hnil : path = []
    · subst hnil
      obtain rfl : w = source := Option.some.inj hpath.head
      obtain rfl : w = v := Option.some.inj hpath.last
      by_cases hqueue : w ∈ s.queue
      · exact .inr ⟨w, hqueue, by simp [h.level_source]⟩
      · exact .inl ⟨h.visited_source, hqueue, by simp [h.level_source]⟩
    · -- If the last but one has left the queue, it has passed on to the last.
      obtain ⟨rfl, u, hu, hedge⟩ := hpath.of_concat hnil
      obtain ⟨hvisited, hout, hle⟩ | ⟨t, ht, hle⟩ := ih hu
      · obtain ⟨hv, hlevel⟩ := (h.closed u hvisited hout v hedge).resolve_left
          fun h => List.not_mem_nil h.2
        by_cases hqueue : v ∈ s.queue
        · exact .inr ⟨v, hqueue, by omega⟩
        · exact .inl ⟨hv, hqueue, by omega⟩
      · exact .inr ⟨t, ht, by omega⟩

lemma Explored.level_head_le {queue : List α} (h : Explored next source s level current [])
    (hqueue : s.queue = v :: queue) (hpath : IsPath (Adjacent next) source v path) :
    level v + 1 ≤ path.length := by
  obtain ⟨-, hout, -⟩ | ⟨u, hu, hle⟩ := h.on_path hpath
  · rw [hqueue] at hout
    exact absurd List.mem_cons_self hout
  · have hascending := h.ascending
    rw [hqueue, List.pairwise_cons] at hascending
    rw [hqueue] at hu
    obtain rfl | hu := List.mem_cons.mp hu
    · exact hle
    · have hfirst := hascending.1 u hu
      omega

lemma Explored.backtrack {root : α} (h : Explored next source s level current [])
    (hparent : s.parent source = root) (hsource : source ≠ root) (hroot : next root = [])
    (hv : s.visited v = true) (hne : v ≠ root) :
    ∃ path, IsPath (Adjacent next) source v path ∧ path.length = level v + 1 ∧
      ∀ fuel acc, level v + 2 ≤ fuel →
        Search.backtrack s.parent root fuel v acc = some (path ++ acc) := by
  -- The parent is one level below, so the induction is on the level.
  induction hlevel : level v generalizing v with
  | zero =>
    have hfirst : v = source := by
      by_contra hother
      have hstep := (h.parent v hv hother).2.2
      omega
    subst hfirst
    refine ⟨[v], isPath_singleton v, rfl, fun fuel acc hfuel => ?_⟩
    obtain ⟨fuel, rfl⟩ := Nat.exists_eq_add_of_le' hfuel
    rw [Search.backtrack, if_neg hne, hparent, Search.backtrack, if_pos rfl]
    rfl
  | succ n ih =>
    have hother : v ≠ source := by
      rintro rfl
      rw [h.level_source] at hlevel
      cases hlevel
    obtain ⟨hmet, hedge, hstep⟩ := h.parent v hv hother
    have hparentne : s.parent v ≠ root := by
      intro heq
      rw [heq, hroot] at hedge
      exact List.not_mem_nil hedge
    obtain ⟨path, hpath, hlength, hback⟩ := ih hmet hparentne (by omega)
    refine ⟨path ++ [v], hpath.concat hedge, by simp [hlength], fun fuel acc hfuel => ?_⟩
    obtain ⟨fuel, rfl⟩ := Nat.exists_eq_add_of_le' (show 1 ≤ fuel by omega)
    rw [Search.backtrack, if_neg hne, hback fuel (v :: acc) (by omega), List.append_assoc]
    rfl

/-! ## The run -/

variable {target root : α} {fuel : ℕ} {U : List α}

lemma parent_foldl_look (h : s.visited source = true) (todo : List α) :
    (todo.foldl (Search.look current) s).parent source = s.parent source := by
  induction todo generalizing s with
  | nil => rfl
  | cons w todo ih =>
    rw [List.foldl_cons]
    by_cases hw : s.visited w = true
    · rw [Search.look, if_pos hw]
      exact ih h
    · have hne : source ≠ w := fun heq => hw (heq ▸ h)
      rw [Search.look, if_neg hw, ih]
      · exact Function.update_of_ne hne _ _
      · simpa [Function.update_of_ne hne] using h

lemma mem_queue_foldl_look (h : s.visited v = true → v ∈ s.queue) (todo : List α) :
    (todo.foldl (Search.look current) s).visited v = true →
      v ∈ (todo.foldl (Search.look current) s).queue := by
  induction todo generalizing s with
  | nil => exact h
  | cons w todo ih =>
    refine ih fun hvisited => ?_
    unfold Search.look at hvisited ⊢
    split at hvisited
    · next hw =>
      rw [if_pos hw]
      exact h hvisited
    · next hw =>
      rw [if_neg hw]
      by_cases hv : v = w
      · simp [hv]
      · dsimp only at hvisited
        rw [Function.update_of_ne hv] at hvisited
        exact List.mem_append_left _ (h hvisited)

lemma explored_of_run (h : Explored next source s level current [])
    (htarget : s.visited target = true → target ∈ s.queue) {result : Option (Search α)}
    (hrun : run next target fuel s = some result) :
    ∃ s' level' current', Explored next source s' level' current' [] ∧
      s'.parent source = s.parent source ∧
      ((result = none ∧ s'.queue = [] ∧ s'.visited target = false) ∨
        (result = some s' ∧ ∃ queue, s'.queue = target :: queue)) := by
  induction fuel generalizing s level current with
  | zero => cases hrun
  | succ fuel ih =>
    unfold run at hrun
    split at hrun
    · next hqueue =>
      refine ⟨s, level, current, h, rfl, .inl ⟨(Option.some.inj hrun).symm, hqueue, ?_⟩⟩
      rw [Bool.eq_false_iff]
      intro hvisited
      have hmem := htarget hvisited
      rw [hqueue] at hmem
      exact List.not_mem_nil hmem
    · next c queue hqueue =>
      split at hrun
      · next hfound =>
        exact ⟨s, level, current, h, rfl, .inr ⟨(Option.some.inj hrun).symm, queue,
          hfound ▸ hqueue⟩⟩
      · next hother =>
        obtain ⟨level', h'⟩ := h.expand hqueue
        -- A target that has been met stays queued, as it is not the vertex taken.
        have hkept : s.visited target = true → target ∈ queue := by
          intro hvisited
          have hmem := htarget hvisited
          rw [hqueue] at hmem
          exact (List.mem_cons.mp hmem).resolve_left (Ne.symm hother)
        obtain ⟨s', level'', current', hs', hparent, hresult⟩ :=
          ih h' (mem_queue_foldl_look hkept _) hrun
        refine ⟨s', level'', current', hs', hparent.trans ?_, hresult⟩
        exact parent_foldl_look (s := { s with queue }) h.visited_source _

/-- The steps that are left at most: one for each vertex that is queued or has not been met. -/
def pending (U : List α) (s : Search α) : ℕ :=
  (U.filter fun v => !s.visited v).length + s.queue.length

lemma pending_foldl_look (todo : List α) (htodo : ∀ w ∈ todo, w ∈ U) :
    (todo.foldl (Search.look current) s).pending U ≤ s.pending U := by
  induction todo generalizing s with
  | nil => exact Nat.le_refl _
  | cons w todo ih =>
    refine (ih fun u hu => htodo u (List.mem_cons_of_mem _ hu)).trans ?_
    unfold Search.look
    split
    · exact Nat.le_refl _
    · next hw =>
      -- The new vertex leaves those that have not been met, and is queued.
      have hfilter : U.filter (fun v => !Function.update s.visited w true v) =
          (U.filter fun v => !s.visited v).filter (· ≠ w) := by
        rw [List.filter_filter]
        refine List.filter_congr fun v _ => ?_
        by_cases hv : v = w <;> simp [hv]
      have hmem : w ∈ U.filter fun v => !s.visited v :=
        List.mem_filter.mpr ⟨htodo w List.mem_cons_self, by simpa using hw⟩
      have hless : ((U.filter fun v => !s.visited v).filter (· ≠ w)).length <
          (U.filter fun v => !s.visited v).length :=
        List.length_filter_lt_length_iff_exists.mpr ⟨w, hmem, by simp⟩
      unfold pending
      dsimp only
      rw [hfilter, List.length_append, List.length_singleton]
      omega

/-- If there are only so many vertices, a run with enough fuel ends. -/
theorem run_terminates (hU : ∀ v, ∀ w ∈ next v, w ∈ U) (hfuel : s.pending U < fuel) :
    ∃ result, run next target fuel s = some result := by
  induction fuel generalizing s with
  | zero => exact absurd hfuel (Nat.not_lt_zero _)
  | succ fuel ih =>
    unfold run
    split
    · exact ⟨none, rfl⟩
    · next c queue hqueue =>
      split
      · exact ⟨some s, rfl⟩
      · refine ih ((pending_foldl_look (next c) (hU c)).trans_lt ?_)
        unfold pending at hfuel ⊢
        rw [hqueue, List.length_cons] at hfuel
        dsimp only
        omega

lemma run_mono {fuel' : ℕ} {result : Option (Search α)} (hle : fuel ≤ fuel')
    (hrun : run next target fuel s = some result) : run next target fuel' s = some result := by
  induction fuel generalizing s fuel' with
  | zero => cases hrun
  | succ fuel ih =>
    obtain ⟨fuel', rfl⟩ := Nat.exists_eq_add_of_le' (show 1 ≤ fuel' by omega)
    unfold run at hrun ⊢
    split at hrun
    · exact hrun
    · split at hrun
      · next hfound =>
        rw [if_pos hfound]
        exact hrun
      · next hother =>
        rw [if_neg hother]
        exact ih (by omega) hrun

/-! ## What a run finds -/

/-- A run that finds nothing met everything there is. -/
theorem not_reachable_of_run (hrun : run next target fuel (start source root) = some none) :
    ¬ Reachable (Adjacent next) source target := by
  rintro ⟨path, hpath⟩
  have htarget : (start source root).visited target = true → target ∈ (start source root).queue :=
    fun h => List.mem_singleton.mpr (visited_start.mp h)
  obtain ⟨s', level, current, h, -, ⟨-, hqueue, hvisited⟩ | ⟨hnone, -⟩⟩ :=
    explored_of_run (explored_start next source root) htarget hrun
  · obtain ⟨hmet, -⟩ | ⟨u, hu, -⟩ := h.on_path hpath
    · rw [hvisited] at hmet
      cases hmet
    · rw [hqueue] at hu
      exact List.not_mem_nil hu
  · cases hnone

/-- A run that finds the target leaves parents that lead back on a shortest path. -/
theorem isShortest_of_run {found : Search α} (hsource : source ≠ root) (htarget : target ≠ root)
    (hroot : next root = [])
    (hrun : run next target fuel (start source root) = some (some found)) :
    ∃ path, IsShortest (Adjacent next) source target path ∧
      ∃ n, ∀ fuel, n ≤ fuel → backtrack found.parent root fuel target [] = some path := by
  have hqueued : (start source root).visited target = true → target ∈ (start source root).queue :=
    fun h => List.mem_singleton.mpr (visited_start.mp h)
  obtain ⟨s', level, current, h, hparent, ⟨hnone, -⟩ | ⟨hsome, queue, hqueue⟩⟩ :=
    explored_of_run (explored_start next source root) hqueued hrun
  · cases hnone
  obtain rfl : found = s' := Option.some.inj hsome
  have hvisited := h.visited_queue target (hqueue ▸ List.mem_cons_self)
  have hparent : found.parent source = root := hparent
  obtain ⟨path, hpath, hlength, hback⟩ := h.backtrack hparent hsource hroot hvisited htarget
  refine ⟨path, ⟨hpath, fun other hother => ?_⟩, level target + 2, fun fuel hfuel => ?_⟩
  · rw [hlength]
    exact h.level_head_le hqueue hother
  · rw [hback fuel [] hfuel, List.append_nil]

end Search

end Lib

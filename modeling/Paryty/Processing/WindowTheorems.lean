import Paryty.Processing.Aggregator

/-!
# The window manager, key by key

Every operation of the window manager acts on each window by itself: an add changes the
buffer of its route's key, closing and purging take away the buffers that are due. The lemmas
here say what each operation does to the values buffered under one key.
-/

namespace Paryty.Processing

/-! ## Contexts -/

namespace Ctx

variable {α : Type*}

@[simp] lemma visits_nil (ctx : Ctx) : ctx.visits ([] : List α) = [] := by
  unfold visits
  split <;> simp

/-- A loop over `a :: l` polls first and goes on with the remaining polls. -/
lemma visits_cons (ctx : Ctx) (a : α) (l : List α) :
    ctx.visits (a :: l) = match ctx.poll with
      | none => []
      | some ctx => a :: ctx.visits l := by
  obtain ⟨live⟩ := ctx
  match live with
  | none => rfl
  | some 0 => rfl
  | some (n + 1) => rfl

lemma visits_sublist (ctx : Ctx) (l : List α) : (ctx.visits l).Sublist l := by
  unfold visits
  split
  · exact List.Sublist.refl _
  · exact List.take_sublist _ _

lemma visits_eq_of_poll_after {ctx : Ctx} {l : List α} (h : (ctx.after l.length).poll.isSome) :
    ctx.visits l = l := by
  obtain ⟨live⟩ := ctx
  cases live with
  | none => rfl
  | some n =>
    have hlt : n - l.length ≠ 0 := by
      intro hzero
      simp [after, hzero, poll] at h
    exact List.take_of_length_le (by omega)

end Ctx

/-! ## Buffered values -/

namespace Windows

/-- The values buffered under a key. -/
def values (windows : Windows) (key : WindowKey) : List ℚ :=
  match windows.find? key with
  | none => []
  | some buf => buf.values

/-- No window is closed. -/
def AllOpen (windows : Windows) : Prop := ∀ buf ∈ windows, buf.closed = false

/-- The values of some routes that go to one key. -/
def routed (routes : List Route) (key : WindowKey) : List ℚ :=
  (routes.filter (fun route => route.key = key)).map Route.value

/-- Under every key, what is buffered and what is routed there fit into one buffer. -/
def HasRoom (windows : Windows) (routes : List Route) : Prop :=
  ∀ route ∈ routes,
    (windows.values route.key).length + (routed routes route.key).length ≤
      maxWindowBufferCapacity

instance (windows : Windows) (routes : List Route) : Decidable (windows.HasRoom routes) :=
  inferInstanceAs (Decidable (∀ route ∈ routes, _))

lemma find?_add (windows : Windows) (route : Route) (key : WindowKey) :
    (windows.add route).find? key =
      if key = route.key then
        some (((windows.find? key).getD { key := route.key }).addUnlessClosed route.value route.ts)
      else windows.find? key := by
  unfold add
  rw [Lib.Table.find?_updateWhere, Lib.Table.find?_upsert]
  by_cases hkey : key = route.key
  · subst hkey
    have hown : ((windows.find? route.key).getD { key := route.key }).key = route.key := by
      cases h : windows.find? route.key with
      | none => rfl
      | some buf => exact (Lib.Table.find?_eq_some.mp h).2
    simp [hown]
  · rw [if_neg hkey, if_neg hkey]
    cases h : windows.find? key with
    | none => rfl
    | some buf => simp [(Lib.Table.find?_eq_some.mp h).2, hkey]

lemma find?_foldl_add (routes : List Route) (windows : Windows) (key : WindowKey) :
    (routes.foldl add windows).find? key =
      (routes.filter (fun route => route.key = key)).foldl
        (fun found route => some ((found.getD { key := key }).addUnlessClosed route.value route.ts))
        (windows.find? key) := by
  induction routes generalizing windows with
  | nil => rfl
  | cons route routes ih =>
    rw [List.foldl_cons, ih, find?_add]
    by_cases hkey : route.key = key
    · subst hkey
      simp
    · rw [if_neg (Ne.symm hkey), List.filter_cons_of_neg (by simpa using hkey)]

lemma allOpen_iff_find? {windows : Windows} :
    windows.AllOpen ↔ ∀ key buf, windows.find? key = some buf → buf.closed = false := by
  constructor
  · intro h key buf hfind
    exact h buf (Lib.Table.find?_eq_some.mp hfind).1
  · intro h buf hbuf
    exact h buf.key buf (Lib.Table.find?_eq_some.mpr ⟨hbuf, rfl⟩)

@[simp] lemma closed_addUnlessClosed (buf : WindowBuffer) (value : ℚ) (ts : Time) :
    (buf.addUnlessClosed value ts).closed = buf.closed := by
  unfold WindowBuffer.addUnlessClosed
  split <;> rfl

lemma allOpen_add {windows : Windows} (h : windows.AllOpen) (route : Route) :
    (windows.add route).AllOpen := by
  rw [allOpen_iff_find?] at h ⊢
  intro key buf hbuf
  rw [find?_add] at hbuf
  split at hbuf
  · obtain rfl := Option.some.inj hbuf
    rw [closed_addUnlessClosed]
    cases hfind : windows.find? key with
    | none => rfl
    | some buf => exact h key buf hfind
  · exact h key buf hbuf

lemma values_add {windows : Windows} (hopen : windows.AllOpen) {route : Route}
    (hroom : (windows.values route.key).length < maxWindowBufferCapacity) (key : WindowKey) :
    (windows.add route).values key =
      windows.values key ++ if route.key = key then [route.value] else [] := by
  unfold values
  rw [find?_add]
  by_cases hkey : key = route.key
  · subst hkey
    rw [if_pos rfl, if_pos rfl]
    unfold values at hroom
    cases hfind : windows.find? route.key with
    | none => rfl
    | some buf =>
      rw [hfind] at hroom
      have hclosed : buf.closed = false := allOpen_iff_find?.mp hopen _ buf hfind
      have hfits : ¬ maxWindowBufferCapacity ≤ buf.values.length := Nat.not_le.mpr hroom
      simp only [Option.getD_some, WindowBuffer.addUnlessClosed, hclosed, Bool.false_eq_true,
        if_false, WindowBuffer.addValue]
      rw [if_neg hfits]
  · rw [if_neg hkey, if_neg (Ne.symm hkey), List.append_nil]

lemma routed_cons (route : Route) (routes : List Route) (key : WindowKey) :
    routed (route :: routes) key =
      (if route.key = key then [route.value] else []) ++ routed routes key := by
  unfold routed
  by_cases hkey : route.key = key <;> simp [hkey]

lemma values_foldl_add {windows : Windows} (hopen : windows.AllOpen) {routes : List Route}
    (hroom : windows.HasRoom routes) (key : WindowKey) :
    (routes.foldl add windows).AllOpen ∧
      (routes.foldl add windows).values key = windows.values key ++ routed routes key := by
  induction routes generalizing windows with
  | nil => exact ⟨hopen, by simp [routed]⟩
  | cons route routes ih =>
    have hfirst : (windows.values route.key).length < maxWindowBufferCapacity := by
      have := hroom route List.mem_cons_self
      rw [routed_cons] at this
      simp only [if_true, List.length_append, List.length_singleton] at this
      omega
    have hrest : (windows.add route).HasRoom routes := by
      intro route' hroute'
      have := hroom route' (List.mem_cons_of_mem _ hroute')
      rw [routed_cons] at this
      rw [values_add hopen hfirst]
      simp only [List.length_append] at this ⊢
      omega
    obtain ⟨hopen', hvalues⟩ := ih (allOpen_add hopen route) hrest
    refine ⟨hopen', ?_⟩
    rw [List.foldl_cons, hvalues, values_add hopen hfirst, routed_cons, List.append_assoc]

end Windows

/-! ## Batches -/

namespace Aggregator

/-- The routes `addValues` takes before the context is cancelled. -/
def ingested (wm : WindowStateManager) (ctx : Ctx) (agentID : String) (timestamp : Time)
    (values : List (String × ℚ)) : List Route :=
  (ctx.visits values).flatMap fun (name, value) => wm.routes agentID name value timestamp

/-- Step 2 of `Process` adds the ingested routes one after the other. -/
lemma addValues_snd (agentID : String) (timestamp : Time) (values : List (String × ℚ))
    (ctx : Ctx) (wm : WindowStateManager) :
    (addValues agentID timestamp values ctx wm).2 =
      { wm with
        windows := (ingested wm ctx agentID timestamp values).foldl Windows.add wm.windows } := by
  induction values generalizing ctx wm with
  | nil => simp [addValues, ingested]
  | cons head rest ih =>
    obtain ⟨name, value⟩ := head
    unfold addValues WindowStateManager.addValue ingested
    rw [Ctx.visits_cons]
    cases ctx.poll with
    | none => rfl
    | some ctx =>
      simp only [List.flatMap_cons, List.foldl_append]
      rw [ih]
      rfl

end Aggregator

/-! ## Closing and purging -/

namespace WindowStateManager

lemma find?_close_purge {wm : WindowStateManager} (hopen : wm.windows.AllOpen) (ctx : Ctx)
    (now : Time) (key : WindowKey) :
    (wm.getClosedWindows ctx now).2.2.purgeClosed.windows.find? key =
      (wm.windows.find? key).filter (fun buf => buf ∉ wm.closing ctx now) := by
  have hsub : (wm.closing ctx now).Sublist wm.windows.rows :=
    List.filter_sublist.trans (ctx.visits_sublist _)
  simp only [getClosedWindows, purgeClosed]
  rw [Lib.Table.find?_deleteWhere, Lib.Table.find?_updateWhere]
  cases hfind : wm.windows.find? key with
  | none => rfl
  | some buf =>
    obtain ⟨hbuf, -⟩ := Lib.Table.find?_eq_some.mp hfind
    have hclosed : buf.closed = false := hopen buf hbuf
    -- keys are unique, so the key of a buffer in memory stands for the buffer
    have hkey : buf.key ∈ (wm.closing ctx now).map WindowBuffer.key ↔
        buf ∈ wm.closing ctx now := by
      constructor
      · intro h
        obtain ⟨buf', hbuf', heq⟩ := List.mem_map.mp h
        obtain rfl := wm.windows.eq_of_key_eq (hsub.subset hbuf') hbuf heq
        exact hbuf'
      · exact List.mem_map_of_mem
    have hkeyBool : decide (buf.key ∈ (wm.closing ctx now).map WindowBuffer.key) =
        decide (buf ∈ wm.closing ctx now) := decide_eq_decide.mpr hkey
    rw [Option.map_some, hkeyBool, Option.filter_some, Option.filter_some]
    by_cases hmem : buf ∈ wm.closing ctx now
    · simp [hmem, WindowBuffer.markClosed]
    · simp [hmem, hclosed]

lemma allOpen_purgeClosed (wm : WindowStateManager) : wm.purgeClosed.windows.AllOpen :=
  fun _ hbuf => (Lib.Table.mem_deleteWhere.mp hbuf).2


end WindowStateManager

end Paryty.Processing

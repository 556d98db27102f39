import Paryty.Processing.WindowTheorems

/-!
# Where a value goes

`alignToWindow` of `cluster/internal/processing/window.go` divides the Unix seconds by the
seconds of the window size and multiplies back. Go's division rounds towards zero, so before
1970 it rounds up: unless the second of the timestamp is itself a multiple of the size, the
window that `AddValue` chooses starts after the timestamp.
-/

namespace Paryty.Processing

-- whole numbers throughout, so that `omega` sees the times and durations as such
variable {ts ws windowSecs : ℤ}

/-! ## The window of a timestamp -/

/-- The window contains the timestamp; its end is exclusive. -/
def WindowKey.Contains (key : WindowKey) (ts : Time) : Prop :=
  key.windowStart ≤ ts ∧ ts < windowEnd key.windowStart key.windowSize

/-- The window starts at a multiple of its size. -/
def WindowKey.Aligned (key : WindowKey) : Prop := key.windowSize ∣ key.windowStart

/-- `AddValue` chooses the window for the value. -/
def WindowStateManager.Places (wm : WindowStateManager) (agentID metricName : String) (value : ℚ)
    (ts : Time) (key : WindowKey) : Prop :=
  key ∈ (wm.routes agentID metricName value ts).map Route.key

/-- The window has taken the value, once for each time its size is configured; nothing is added
to a closed one. -/
def WindowStateManager.Takes (wm wm' : WindowStateManager) (value : ℚ) (ts : Time)
    (key : WindowKey) : Prop :=
  ∃ n, 0 < n ∧ wm'.windows.find? key =
    some ((fun buf => buf.addUnlessClosed value ts)^[n] ((wm.windows.find? key).getD { key := key }))

/-- Of the windows of one size `AddValue` chooses exactly one: it starts at a multiple of the
size and contains the timestamp. -/
def WindowStateManager.PlacedRight (wm : WindowStateManager) (agentID metricName : String)
    (value : ℚ) (ts : Time) (ws : Duration) : Prop :=
  ∃ key, key.windowSize = ws ∧ key.Aligned ∧ key.Contains ts ∧
    ∀ key', key'.windowSize = ws → (wm.Places agentID metricName value ts key' ↔ key' = key)

/-! ## Arithmetic -/

lemma unix_bounds (ts : ℤ) : unix ts * second ≤ ts ∧ ts < (unix ts + 1) * second := by
  have hsecond : second = 1000000000 := rfl
  have hfloor : unix ts = ts / 1000000000 := Int.fdiv_eq_ediv_of_nonneg _ (by decide)
  rw [hfloor, hsecond]
  omega

lemma unix_nonneg : 0 ≤ unix ts ↔ 0 ≤ ts := by
  have hsecond : second = 1000000000 := rfl
  have hbounds := unix_bounds ts
  rw [hsecond] at hbounds
  omega

lemma floor_bounds (n : ℤ) (hpos : 0 < windowSecs) :
    n / windowSecs * windowSecs ≤ n ∧ n < n / windowSecs * windowSecs + windowSecs := by
  have hmod := Int.emod_nonneg n hpos.ne'
  have hlt := Int.emod_lt_of_pos n hpos
  have hsplit := Int.mul_ediv_add_emod n windowSecs
  rw [mul_comm] at hsplit
  omega

lemma tdiv_mul_of_nonneg_or_dvd {n : ℤ} (h : 0 ≤ n ∨ windowSecs ∣ n) :
    n.tdiv windowSecs * windowSecs = n / windowSecs * windowSecs := by
  cases h with
  | inl hnonneg => rw [Int.tdiv_eq_ediv_of_nonneg hnonneg]
  | inr hdvd => rw [Int.tdiv_mul_cancel hdvd, Int.ediv_mul_cancel hdvd]

lemma lt_tdiv_mul {n : ℤ} (hpos : 0 < windowSecs) (hneg : n < 0) (hdvd : ¬ windowSecs ∣ n) :
    n < n.tdiv windowSecs * windowSecs := by
  have hmod : ¬ windowSecs ∣ -n := fun h => hdvd ((dvd_neg).mp h)
  have hfloor := floor_bounds (-n) hpos
  have hne : -n / windowSecs * windowSecs ≠ -n := fun h => hmod ⟨-n / windowSecs, by linarith⟩
  have htdiv : n.tdiv windowSecs = -(-n / windowSecs) := by
    rw [← Int.tdiv_eq_ediv_of_nonneg (by omega), Int.neg_tdiv, Int.neg_neg]
  rw [htdiv, Int.neg_mul]
  omega

/-! ## Alignment -/

lemma tdiv_second (hsec : second ∣ ws) : ws.tdiv second * second = ws := Int.tdiv_mul_cancel hsec

lemma tdiv_second_pos (hpos : 0 < ws) (hsec : second ∣ ws) : 0 < ws.tdiv second := by
  have hsecond : second = 1000000000 := rfl
  have hsize := tdiv_second hsec
  rw [hsecond] at hsize ⊢
  omega

lemma dvd_unix (hsec : second ∣ ws) : ws.tdiv second ∣ unix ts ↔ ws ∣ unix ts * second := by
  have hsize := tdiv_second hsec
  constructor
  · intro h
    rw [← hsize]
    exact mul_dvd_mul_right h second
  · intro h
    rw [← hsize] at h
    exact Int.dvd_of_mul_dvd_mul_right (by decide) h

lemma dvd_alignToWindow (hsec : second ∣ ws) : ws ∣ alignToWindow ts ws := by
  refine ⟨(unix ts).tdiv (ws.tdiv second), ?_⟩
  unfold alignToWindow
  rw [mul_assoc, tdiv_second hsec, mul_comm]

lemma alignToWindow_contains (hpos : 0 < ws) (hsec : second ∣ ws)
    (h : 0 ≤ ts ∨ ws ∣ unix ts * second) :
    alignToWindow ts ws ≤ ts ∧ ts < windowEnd (alignToWindow ts ws) ws := by
  have hsecs := tdiv_second_pos hpos hsec
  have hsize := tdiv_second hsec
  have hunix := unix_bounds ts
  have hfloor := floor_bounds (unix ts) hsecs
  have hstart := tdiv_mul_of_nonneg_or_dvd
    (h.imp unix_nonneg.mpr (dvd_unix hsec).mpr)
  simp only [alignToWindow, windowEnd]
  rw [hstart]
  -- the end of the window is a whole second after that of the timestamp
  have hend : (unix ts + 1) * second ≤
      unix ts / ws.tdiv second * ws.tdiv second * second + ws := by
    calc (unix ts + 1) * second
        ≤ (unix ts / ws.tdiv second * ws.tdiv second + ws.tdiv second) * second :=
          Int.mul_le_mul_of_nonneg_right (by omega) (by norm_num [second])
      _ = unix ts / ws.tdiv second * ws.tdiv second * second + ws := by
          rw [Int.add_mul, hsize]
  have hbegin : unix ts / ws.tdiv second * ws.tdiv second * second ≤ unix ts * second :=
    Int.mul_le_mul_of_nonneg_right hfloor.1 (by norm_num [second])
  exact ⟨hbegin.trans hunix.1, hunix.2.trans_le hend⟩

lemma lt_alignToWindow (hpos : 0 < ws) (hsec : second ∣ ws) (hneg : ts < 0)
    (hdvd : ¬ ws ∣ unix ts * second) : ts < alignToWindow ts ws := by
  have hunix := unix_bounds ts
  have hnonneg : 0 ≤ unix ts ↔ 0 ≤ ts := unix_nonneg
  have hlt : unix ts < (unix ts).tdiv (ws.tdiv second) * ws.tdiv second :=
    lt_tdiv_mul (tdiv_second_pos hpos hsec) (by omega) (fun h => hdvd ((dvd_unix hsec).mp h))
  unfold alignToWindow
  calc ts < (unix ts + 1) * second := hunix.2
    _ ≤ (unix ts).tdiv (ws.tdiv second) * ws.tdiv second * second :=
      Int.mul_le_mul_of_nonneg_right (by omega) (by norm_num [second])

/-! ## Placement -/

namespace WindowStateManager

variable {wm : WindowStateManager} {agentID metricName : String} {value : ℚ} {key : WindowKey}

/-- Of every configured size `AddValue` chooses the window that `alignToWindow` names. -/
lemma places_iff (hws : ws ∈ wm.cfg.windowSizes) (hsize : key.windowSize = ws) :
    wm.Places agentID metricName value ts key ↔
      key = { agentID, metricName, windowSize := ws, windowStart := alignToWindow ts ws } := by
  unfold Places routes
  rw [List.map_map, List.mem_map]
  constructor
  · intro h
    obtain ⟨ws', -, hkey⟩ := h
    have hws' : ws' = ws := by
      rw [← hsize, ← hkey]
      rfl
    rw [← hkey, hws']
    rfl
  · intro h
    exact ⟨ws, hws, h.symm⟩

lemma foldl_addUnlessClosed {routes : List Route}
    (h : ∀ route ∈ routes, route.value = value ∧ route.ts = ts) (found : Option WindowBuffer) :
    routes.foldl (fun found route =>
        some ((found.getD { key := key }).addUnlessClosed route.value route.ts)) found =
      if routes = [] then found
      else some ((fun buf => buf.addUnlessClosed value ts)^[routes.length]
        (found.getD { key := key })) := by
  induction routes generalizing found with
  | nil => rfl
  | cons route routes ih =>
    obtain ⟨hvalue, hts⟩ := h route List.mem_cons_self
    rw [List.foldl_cons, ih (fun r hr => h r (List.mem_cons_of_mem _ hr)), hvalue, hts]
    by_cases hnil : routes = []
    · subst hnil
      rfl
    · rw [if_neg hnil, if_neg (List.cons_ne_nil _ _), Option.getD_some, List.length_cons,
        Function.iterate_succ_apply]

/-- `AddValue` leaves every window as it was that it does not choose, and one it chooses takes
the value. -/
lemma find?_addValue {wm' : WindowStateManager} {ctx ctx' : Ctx}
    (h : wm.addValue ctx agentID metricName value ts = some (ctx', wm')) (key : WindowKey) :
    (¬ wm.Places agentID metricName value ts key →
        wm'.windows.find? key = wm.windows.find? key) ∧
      (wm.Places agentID metricName value ts key → wm.Takes wm' value ts key) := by
  have hadd : wm'.windows =
      (wm.routes agentID metricName value ts).foldl Windows.add wm.windows := by
    unfold addValue at h
    cases hpoll : ctx.poll with
    | none => simp [hpoll] at h
    | some ctx₁ =>
      rw [hpoll] at h
      exact congrArg WindowStateManager.windows (Prod.mk.inj (Option.some.inj h)).2.symm
  have hroutes : ∀ route ∈ (wm.routes agentID metricName value ts).filter
      (fun route => route.key = key), route.value = value ∧ route.ts = ts := by
    intro route hroute
    obtain ⟨ws, -, rfl⟩ := List.mem_map.mp (List.mem_of_mem_filter hroute)
    exact ⟨rfl, rfl⟩
  have hnil : (wm.routes agentID metricName value ts).filter (fun route => route.key = key) = [] ↔
      ¬ wm.Places agentID metricName value ts key := by
    rw [List.filter_eq_nil_iff, Places, List.mem_map, not_exists]
    simp only [decide_eq_true_eq, not_and]
  rw [hadd, Windows.find?_foldl_add, foldl_addUnlessClosed hroutes]
  constructor
  · intro hplaces
    exact if_pos (hnil.mpr hplaces)
  · intro hplaces
    have hne := fun hempty => hnil.mp hempty hplaces
    refine ⟨_, List.length_pos_iff.mpr hne, ?_⟩
    rw [hadd, Windows.find?_foldl_add, foldl_addUnlessClosed hroutes, if_neg hne]

/-- A value is put into the one window of a size that starts at a multiple of the size and
contains its timestamp exactly if the timestamp is not before 1970, or its second is a multiple
of the size. -/
theorem placedRight_iff {wm wm' : WindowStateManager} {ctx ctx' : Ctx} {agentID metricName : String}
    {value : ℚ} {ts : Time} {ws : Duration}
    (h : wm.addValue ctx agentID metricName value ts = some (ctx', wm'))
    (hws : ws ∈ wm.cfg.windowSizes) (hpos : 0 < ws) (hsec : second ∣ ws) :
    (∀ key, (¬ wm.Places agentID metricName value ts key →
        wm'.windows.find? key = wm.windows.find? key) ∧
      (wm.Places agentID metricName value ts key → wm.Takes wm' value ts key)) ∧
    (wm.PlacedRight agentID metricName value ts ws ↔ 0 ≤ ts ∨ ws ∣ unix ts * second) := by
  refine ⟨find?_addValue h, ?_, ?_⟩
  · intro hright
    obtain ⟨key, hsize, haligned, hcontains, hplaces⟩ := hright
    by_contra hnot
    rw [not_or, Int.not_le] at hnot
    have hkey := (places_iff hws hsize).mp ((hplaces key hsize).mpr rfl)
    -- the window chosen starts too late
    have hlate := lt_alignToWindow hpos hsec hnot.1 hnot.2
    rw [hkey] at hcontains
    exact absurd hcontains.1 (Int.not_le.mpr hlate)
  · intro hcond
    refine ⟨{ agentID, metricName, windowSize := ws, windowStart := alignToWindow ts ws }, rfl,
      dvd_alignToWindow hsec, alignToWindow_contains hpos hsec hcond, ?_⟩
    intro key' hsize
    exact places_iff hws hsize

/-- One second after midnight, in a manager of one-minute windows. -/
theorem placedRight_minute :
    (NewWindowStateManager ⟨0, [minute]⟩).PlacedRight "agent-1" "cpu.usage_percent" 40 second
      minute := by
  have hadd : (NewWindowStateManager ⟨0, [minute]⟩).addValue Ctx.background "agent-1"
      "cpu.usage_percent" 40 second = some (Ctx.background, _) := rfl
  exact (placedRight_iff hadd List.mem_cons_self (by decide) ⟨60, rfl⟩).2.mpr (Or.inl (by decide))

/-- Half a second before 1970 the value goes into the minute that starts with 1970. -/
theorem not_placedRight_before_epoch :
    ¬ ∀ (wm : WindowStateManager) agentID metricName value ts ws, ws ∈ wm.cfg.windowSizes →
      0 < ws → second ∣ ws → wm.PlacedRight agentID metricName value ts ws := by
  intro h
  obtain ⟨key, hsize, -, hcontains, hplaces⟩ :=
    h (NewWindowStateManager ⟨0, [minute]⟩) "agent-1" "cpu.usage_percent" 40 (-(second / 2)) minute
      List.mem_cons_self (by decide) ⟨60, rfl⟩
  have hkey := (places_iff List.mem_cons_self hsize).mp ((hplaces key hsize).mpr rfl)
  rw [hkey] at hcontains
  exact absurd hcontains.1 (by decide)

end WindowStateManager

end Paryty.Processing

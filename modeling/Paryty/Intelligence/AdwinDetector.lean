import Mathlib.Analysis.SpecialFunctions.Log.Basic
import Mathlib.Analysis.SpecialFunctions.Sqrt
import Paryty.Lib.Deque
import Paryty.Lib.Numerals
import Paryty.Lib.Run
import Paryty.Lib.Sample

/-!
# The ADWIN drift detector

`ADWINDetector` of `intelligence/anomaly/concept_drift.py`: a window of the latest values in a
bounded deque, with their running sum. A drift cuts the window.

The sum follows what the code appends and what it cuts, not what the deque gives up by itself.
`window_right_iff` says in which runs it is the sum of the window all the same.

Numbers are those of an ordered field; `np.log` and `np.sqrt` are parameters.
-/

namespace Paryty.Intelligence.Adwin

open scoped Lib.Numerals
open Lib.Deque (push evicted)

variable {𝕜 : Type*} [Field 𝕜] [LinearOrder 𝕜]

/-! ## The code -/

/-- The parameters of `ADWINDetector`. -/
structure Config (𝕜 : Type*) where
  delta : 𝕜
  minWindowSize : ℤ
  maxWindowSize : ℕ

/-- `ADWINDetector`. -/
structure Detector (𝕜 : Type*) where
  window : List 𝕜
  sum : 𝕜

/-- `ADWINDetector.__init__`. -/
def new : Detector 𝕜 := ⟨[], 0⟩

/-- `range(start, stop, step)`, for a positive step. -/
def pyRange (start stop step : ℤ) : List ℤ :=
  (List.range ((stop - start + step - 1) / step).toNat).map fun (i : ℕ) => start + i * step

/-- Where the slice `arr[:cut]` of `n` elements ends. -/
def sliceEnd (n : ℕ) (cut : ℤ) : ℕ := if cut < 0 then (n + cut).toNat else cut.toNat

/-- `epsilon`: nothing if a division by zero raises, `some none` if it is nan. -/
def epsilon (log sqrt : 𝕜 → 𝕜) (delta : 𝕜) (nLeft nRight : ℕ) : Option (Option 𝕜) :=
  if nLeft = 0 ∨ nRight = 0 ∨ delta = 0 then none
  else
    let m : 𝕜 := 1 / (1 / nLeft + 1 / nRight)
    let x := 1 / (2 * m) * log (4 / delta)
    some (if delta < 0 ∨ x < 0 then none else some (sqrt x))

/-- `_check_drift`: the first of the cuts at which the means differ; nothing if it raises. -/
def firstCut (log sqrt : 𝕜 → 𝕜) (delta : 𝕜) (arr : List 𝕜) : (cuts : List ℤ) → Option (Option ℤ)
  | [] => some none
  | cut :: cuts =>
    let left := arr.take (sliceEnd arr.length cut)
    let right := arr.drop (sliceEnd arr.length cut)
    match epsilon log sqrt delta left.length right.length with
    | none => none
    | some none => firstCut log sqrt delta arr cuts
    | some (some epsilon) =>
      if epsilon ≤ |Lib.Sample.mean left - Lib.Sample.mean right| then some (some cut)
      else firstCut log sqrt delta arr cuts

/-- `_check_drift`: the cut. -/
def driftCut (log sqrt : 𝕜 → 𝕜) (cfg : Config 𝕜) (arr : List 𝕜) : Option (Option ℤ) :=
  firstCut log sqrt cfg.delta arr
    (pyRange cfg.minWindowSize (arr.length - cfg.minWindowSize + 1) (max 1 (arr.length / 20)))

/-- `update`: the detector afterwards, and whether it reports drift; nothing if it raises. -/
def Detector.update (log sqrt : 𝕜 → 𝕜) (cfg : Config 𝕜) (d : Detector 𝕜) (value : 𝕜) :
    Detector 𝕜 × Option Bool :=
  let d : Detector 𝕜 := ⟨push cfg.maxWindowSize d.window value, d.sum + value⟩
  if d.window.length < cfg.minWindowSize * 2 then (d, some false)
  else
    match driftCut log sqrt cfg d.window with
    | none => (d, none)
    | some none => (d, some false)
    | some (some cut) =>
      let window := d.window.drop cut.toNat
      (⟨window, window.sum⟩, some true)

/-- `mean`. -/
def Detector.mean (d : Detector 𝕜) : 𝕜 := if d.window = [] then 0 else d.sum / d.window.length

/-! ## Runs -/

/-- A call. -/
inductive Call (𝕜 : Type*)
  | update (value : 𝕜)
  | reset

/-- The detector, the values since the last reset and, if the last call reported drift, the window
that was cut and where. -/
structure State (𝕜 : Type*) where
  detector : Detector 𝕜
  seen : List 𝕜
  drift : Option (List 𝕜 × ℤ)

/-- The cut, if an update reports drift. -/
def reportedCut (log sqrt : 𝕜 → 𝕜) (cfg : Config 𝕜) (d : Detector 𝕜) (value : 𝕜) : Option ℤ :=
  let arr := push cfg.maxWindowSize d.window value
  if arr.length < cfg.minWindowSize * 2 then none else (driftCut log sqrt cfg arr).join

/-- A call, with the values that have been seen. -/
def next (log sqrt : 𝕜 → 𝕜) (cfg : Config 𝕜) (s : State 𝕜) : Call 𝕜 → State 𝕜
  | .update value =>
    { detector := (s.detector.update log sqrt cfg value).1
      seen := s.seen ++ [value]
      drift := (reportedCut log sqrt cfg s.detector value).map fun cut =>
        (push cfg.maxWindowSize s.detector.window value, cut) }
  | .reset => ⟨new, [], none⟩

/-- The state of a new detector. -/
def start : State 𝕜 := ⟨new, [], none⟩

/-- What the window should be. -/
structure Right (cfg : Config 𝕜) (s : State 𝕜) : Prop where
  suffix : s.detector.window <:+ s.seen
  length_le : s.detector.window.length ≤ cfg.maxWindowSize
  sum : s.detector.sum = s.detector.window.sum
  mean : s.detector.mean = Lib.Sample.mean s.detector.window
  /-- After a drift the values before the cut have been removed, and some are left. -/
  cut : ∀ arr cut, s.drift = some (arr, cut) →
    s.detector.window = arr.drop (sliceEnd arr.length cut) ∧ s.detector.window ≠ []

/-- The deque gives up nothing but zeros, unless the update reports drift, and the window is not cut
at a negative place. -/
def Exact (log sqrt : 𝕜 → 𝕜) (cfg : Config 𝕜) (s : State 𝕜) : Call 𝕜 → Prop
  | .update value =>
    match reportedCut log sqrt cfg s.detector value with
    | none => (evicted cfg.maxWindowSize s.detector.window value).sum = 0
    | some cut => 0 ≤ cut
  | .reset => True

/-! ## One update -/

section Update

variable {log sqrt : 𝕜 → 𝕜} {cfg : Config 𝕜} {d : Detector 𝕜} {value : 𝕜} {arr : List 𝕜}
  {cuts : List ℤ} {cut : ℤ}

lemma update_of_none (h : reportedCut log sqrt cfg d value = none) :
    (d.update log sqrt cfg value).1 =
      ⟨push cfg.maxWindowSize d.window value, d.sum + value⟩ := by
  unfold reportedCut at h
  unfold Detector.update
  dsimp only at h ⊢
  split
  case isTrue => rfl
  case isFalse hlong =>
    rw [if_neg hlong] at h
    cases hcut : driftCut log sqrt cfg (push cfg.maxWindowSize d.window value) with
    | none => rfl
    | some found =>
      rw [hcut] at h
      cases found with
      | none => rfl
      | some cut => exact nomatch h

lemma update_of_some (h : reportedCut log sqrt cfg d value = some cut) :
    (d.update log sqrt cfg value).1 =
        ⟨(push cfg.maxWindowSize d.window value).drop cut.toNat,
          ((push cfg.maxWindowSize d.window value).drop cut.toNat).sum⟩ ∧
      driftCut log sqrt cfg (push cfg.maxWindowSize d.window value) = some (some cut) := by
  unfold reportedCut at h
  unfold Detector.update
  dsimp only at h ⊢
  split at h
  case isTrue => exact nomatch h
  case isFalse hlong =>
    rw [if_neg hlong]
    cases hcut : driftCut log sqrt cfg (push cfg.maxWindowSize d.window value) with
    | none =>
      rw [hcut] at h
      exact nomatch h
    | some found =>
      rw [hcut] at h
      cases found with
      | none => exact nomatch h
      | some cut' =>
        obtain rfl : cut' = cut := Option.some.inj h
        exact ⟨rfl, rfl⟩

lemma sides_of_firstCut (h : firstCut log sqrt cfg.delta arr cuts = some (some cut)) :
    0 < sliceEnd arr.length cut ∧ sliceEnd arr.length cut < arr.length := by
  induction cuts with
  | nil => exact nomatch h
  | cons cut' cuts ih =>
    simp only [firstCut] at h
    split at h
    case h_1 => exact nomatch h
    case h_2 => exact ih h
    case h_3 epsilon hepsilon =>
      split at h
      case isFalse => exact ih h
      case isTrue =>
        obtain rfl : cut' = cut := Option.some.inj (Option.some.inj h)
        unfold Adwin.epsilon at hepsilon
        split at hepsilon
        case isTrue => exact nomatch hepsilon
        case isFalse hsides =>
          rw [List.length_take, List.length_drop] at hsides
          omega

end Update

/-! ## Every run -/

section Runs

variable {log sqrt : 𝕜 → 𝕜} {cfg : Config 𝕜} {s : State 𝕜} {d : Detector 𝕜} {value : 𝕜}

omit [LinearOrder 𝕜] in
lemma mean_eq (h : d.sum = d.window.sum) : d.mean = Lib.Sample.mean d.window := by
  unfold Detector.mean Lib.Sample.mean
  split
  case isTrue hnil => rw [hnil, List.sum_nil, zero_div]
  case isFalse => rw [h]

omit [LinearOrder 𝕜] in
lemma right_start : Right cfg (start : State 𝕜) :=
  ⟨List.nil_suffix, Nat.zero_le _, rfl, mean_eq rfl, fun _ _ h => nomatch h⟩

omit [Field 𝕜] [LinearOrder 𝕜] in
lemma suffix_push (h : s.detector.window <:+ s.seen) :
    push cfg.maxWindowSize s.detector.window value <:+ s.seen ++ [value] := by
  obtain ⟨before, hbefore⟩ := h
  exact Lib.Deque.push_suffix.trans ⟨before, by rw [← List.append_assoc, hbefore]⟩

omit [LinearOrder 𝕜] in
lemma sum_push_iff (h : d.sum = d.window.sum) :
    d.sum + value = (push cfg.maxWindowSize d.window value).sum ↔
      (evicted cfg.maxWindowSize d.window value).sum = 0 := by
  have hsum : (evicted cfg.maxWindowSize d.window value).sum +
      (push cfg.maxWindowSize d.window value).sum = d.sum + value := by
    rw [← List.sum_append, Lib.Deque.evicted_append_push, List.sum_append, h, List.sum_singleton]
  rw [← hsum, add_eq_right]

lemma right_update_of_none (hs : Right cfg s)
    (hcut : reportedCut log sqrt cfg s.detector value = none) :
    Right cfg (next log sqrt cfg s (.update value)) ↔
      (evicted cfg.maxWindowSize s.detector.window value).sum = 0 := by
  rw [← sum_push_iff hs.sum]
  unfold next
  simp only [hcut, update_of_none hcut]
  exact ⟨Right.sum, fun hsum => ⟨suffix_push hs.suffix, Lib.Deque.length_push_le, hsum,
    mean_eq hsum, fun _ _ h => nomatch h⟩⟩

lemma right_update_of_some (hs : Right cfg s) {cut : ℤ}
    (hcut : reportedCut log sqrt cfg s.detector value = some cut) :
    Right cfg (next log sqrt cfg s (.update value)) ↔ 0 ≤ cut := by
  obtain ⟨hupdate, hdrift⟩ := update_of_some hcut
  obtain ⟨hleft, hright⟩ := sides_of_firstCut hdrift
  unfold next
  simp only [hcut, hupdate]
  generalize harr : push cfg.maxWindowSize s.detector.window value = arr at *
  constructor
  · intro h
    by_contra hneg
    -- nothing is removed, but there are values before the cut
    have hwindow : arr.drop cut.toNat = arr.drop (sliceEnd arr.length cut) :=
      (h.cut arr cut rfl).1
    rw [Int.toNat_of_nonpos (by omega), List.drop_zero] at hwindow
    have hlength := congrArg List.length hwindow
    rw [List.length_drop] at hlength
    omega
  · intro hnonneg
    have hend : sliceEnd arr.length cut = cut.toNat := if_neg (not_lt.mpr hnonneg)
    have hsuffix : arr <:+ s.seen ++ [value] := harr ▸ suffix_push hs.suffix
    have hlength : arr.length ≤ cfg.maxWindowSize := harr ▸ Lib.Deque.length_push_le
    refine ⟨(List.drop_suffix _ _).trans hsuffix, ?_, rfl, mean_eq rfl, ?_⟩
    · rw [List.length_drop]
      omega
    · intro arr' cut' h
      obtain ⟨rfl, rfl⟩ := Prod.mk.inj (Option.some.inj h)
      refine ⟨by rw [hend], fun hnil => ?_⟩
      have hempty := congrArg List.length hnil
      rw [List.length_drop, List.length_nil] at hempty
      omega

lemma right_next_iff (hs : Right cfg s) (call : Call 𝕜) :
    Right cfg (next log sqrt cfg s call) ↔ Exact log sqrt cfg s call := by
  cases call with
  | reset => exact iff_of_true right_start trivial
  | update value =>
    cases hcut : reportedCut log sqrt cfg s.detector value with
    | none => simpa only [Exact, hcut] using right_update_of_none hs hcut
    | some cut => simpa only [Exact, hcut] using right_update_of_some hs hcut

end Runs

/-- The window is right throughout exactly the runs whose calls are exact. -/
theorem window_right_iff (log sqrt : 𝕜 → 𝕜) (cfg : Config 𝕜) (calls : List (Call 𝕜)) :
    Lib.Always (next log sqrt cfg) (Right cfg) start calls ↔
      Lib.Allowed (next log sqrt cfg) (Exact log sqrt cfg) start calls :=
  Lib.always_iff_allowed (I := fun _ => True) (P := Right cfg) (fun _ _ _ => trivial)
    (fun _ call _ hs => right_next_iff hs call) trivial right_start calls

/-- Three values in a window for two: the sum keeps the first. -/
theorem not_right_full : ¬ Lib.Always (next Real.log Real.sqrt ⟨1 / 500, 10, 2⟩)
    (Right ⟨1 / 500, 10, 2⟩) start [.update 5, .update 1, .update 1] := by
  rintro ⟨-, -, -, h⟩
  have hsum := h.sum
  norm_num [next, Detector.update, start, new, push] at hsum

end Paryty.Intelligence.Adwin

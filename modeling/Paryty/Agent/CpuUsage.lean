import Mathlib.Algebra.Order.Field.Rat
import Mathlib.Tactic.Linarith
import Mathlib.Tactic.Positivity
import Paryty.Lib.RustString
import Paryty.Lib.Text

/-!
# CPU usage

`CpuCollector::collect_linux` of `agent/src/metal/cpu.rs`: the usage of the machine and of each
core, from the differences between two samples of `/proc/stat`.

* `collectLinux` is the collector on the text of one sample. The two vectors of totals and of idle
  ticks are one list here, since the source pushes to both together. Usage is an exact fraction, and
  u64 arithmetic wraps, as in a build without overflow checks.
* `sample` is what a text says: the counters of the first line, and those of each line of a core
  with the core's name. `seen` is what the samples so far said last at every position, and
  `collectorAfter_eq` says that this is what the collector holds.
* `samples_sound_iff` says when a sample is evaluated rightly.

The load averages, the frequency and the topology are left out.
-/

namespace Paryty.Agent.Cpu

open Lib.RustString Lib.Text

/-! ## The collector -/

/-- A total of ticks and the idle ticks among them. -/
structure Ticks where
  total : ℕ := 0
  idle : ℕ := 0
deriving DecidableEq

/-- `CpuCollector`: `prev_total` and `prev_idle`, and both for each core. -/
structure CpuCollector where
  prev : Ticks := {}
  prevPerCore : List Ticks := []
deriving DecidableEq

/-- `CpuMetrics`, its usages. -/
structure CpuMetrics where
  totalUsagePercent : ℚ
  perCorePercent : List ℚ
deriving DecidableEq

/-- `a - b` of u64. -/
def wrappingSub (a b : ℕ) : ℕ := (a + UInt64.size - b) % UInt64.size

/-- `calculate_usage_percent`. -/
def calculateUsagePercent (totalDelta idleDelta : ℕ) : ℚ :=
  if 0 < totalDelta then (wrappingSub totalDelta idleDelta : ℚ) / totalDelta * 100 else 0

/-- `parse_cpu_line`. -/
def parseCpuLine (line : List Char) : Option (List ℕ) :=
  ((splitWhitespace (String.ofList line)).drop 1).mapM parseU64

/-- The sum of the values of a line, and the fourth of them. -/
def ticks (values : List ℕ) : Ticks := ⟨values.sum % UInt64.size, values.getD 3 0⟩

/-- The usage between two samples, by `saturating_sub`. -/
def usage (prev cur : Ticks) : ℚ :=
  calculateUsagePercent (cur.total - prev.total) (cur.idle - prev.idle)

/-- `line.starts_with("cpu")`. -/
def startsWithCpu (line : List Char) : Bool := ['c', 'p', 'u'].isPrefixOf line

/-- `collect_linux`: the loop over the lines behind the first. -/
def perCore : List Ticks → List (List Char) → List Ticks × Option (List ℚ)
  | stored, [] => (stored, some [])
  | stored, line :: lines =>
    if startsWithCpu line then
      match parseCpuLine line with
      | none => (stored, none)
      | some values =>
        match stored with
        | old :: stored =>
          let (stored, usages) := perCore stored lines
          (ticks values :: stored, usages.map (usage old (ticks values) :: ·))
        | [] =>
          let (stored, usages) := perCore [] lines
          (ticks values :: stored, usages.map (0 :: ·))
    else (stored, some [])

/-- `collect_linux`. -/
def collectLinux (collector : CpuCollector) (stat : List Char) :
    CpuCollector × Option CpuMetrics :=
  match lines stat with
  | [] => (collector, none)
  | cpuLine :: lines =>
    match parseCpuLine cpuLine with
    | none => (collector, none)
    | some values =>
      let (stored, usages) := perCore collector.prevPerCore lines
      (⟨ticks values, stored⟩, usages.map (⟨usage collector.prev (ticks values), ·⟩))

/-! ## What the samples say -/

/-- A line of `/proc/stat`: the name of its CPU and its counters. -/
structure CpuLine where
  cpu : String
  ticks : Ticks
deriving DecidableEq

/-- What a line says. -/
def cpuLine (line : List Char) : Option CpuLine :=
  (parseCpuLine line).map
    fun values => ⟨(splitWhitespace (String.ofList line)).headD "", ticks values⟩

/-- The lines of cores, up to the first line that is none. -/
def coreLines : List (List Char) → List CpuLine
  | [] => []
  | line :: lines =>
    if startsWithCpu line then
      match cpuLine line with
      | none => []
      | some core => core :: coreLines lines
    else []

/-- What a text says: the counters of all CPUs together, and the cores. -/
structure Sample where
  aggregate : Ticks := {}
  cores : List CpuLine := []
deriving DecidableEq

/-- What a text says, if its first line can be read. -/
def sample (stat : List Char) : Option Sample :=
  match lines stat with
  | [] => none
  | first :: rest => (cpuLine first).map fun line => ⟨line.ticks, coreLines rest⟩

/-- What was said last, after one more sample: a position it has no line for keeps its line. -/
def Sample.update (last : Sample) (stat : List Char) : Sample :=
  match sample stat with
  | none => last
  | some new => ⟨new.aggregate, new.cores ++ last.cores.drop new.cores.length⟩

/-- What was said last, of all CPUs and at every position. -/
def seen (history : List (List Char)) : Sample := history.foldl Sample.update {}

/-- The collector after some samples. -/
def collectorAfter (history : List (List Char)) : CpuCollector :=
  history.foldl (fun collector stat => (collectLinux collector stat).1) {}

variable {history : List (List Char)} {stat line : List Char} {stored : List Ticks}
  {cores : List CpuLine} {prev cur : Ticks} {totalDelta idleDelta : ℕ}

lemma perCore_fst (cores : List CpuLine) (lines : List (List Char)) :
    (perCore (cores.map CpuLine.ticks) lines).1 =
      (coreLines lines ++ cores.drop (coreLines lines).length).map CpuLine.ticks := by
  induction lines generalizing cores with
  | nil => rw [perCore, coreLines, List.nil_append, List.length_nil, List.drop_zero]
  | cons line lines ih =>
    unfold perCore coreLines
    by_cases hcpu : startsWithCpu line = true
    · rw [if_pos hcpu, if_pos hcpu, cpuLine]
      cases parseCpuLine line with
      | none => simp
      | some values =>
        cases cores with
        | nil =>
          have hrest := ih []
          simp only [List.map_nil, List.drop_nil, List.append_nil] at hrest
          simp [hrest]
        | cons old cores => simp [ih cores]
    · rw [if_neg hcpu, if_neg hcpu, List.nil_append, List.length_nil, List.drop_zero]

lemma perCore_snd {usages : List ℚ} {lines : List (List Char)}
    (h : (perCore stored lines).2 = some usages) {u : ℚ} (hu : u ∈ usages) :
    u = 0 ∨ ∃ (i : ℕ) (old : Ticks) (new : CpuLine), stored[i]? = some old ∧
      (coreLines lines)[i]? = some new ∧ u = usage old new.ticks := by
  induction lines generalizing stored usages with
  | nil =>
    obtain rfl : [] = usages := Option.some.inj h
    exact absurd hu List.not_mem_nil
  | cons line lines ih =>
    unfold perCore at h
    unfold coreLines
    by_cases hcpu : startsWithCpu line = true
    · rw [if_pos hcpu] at h ⊢
      cases hvalues : parseCpuLine line with
      | none =>
        rw [hvalues] at h
        exact nomatch h
      | some values =>
        rw [hvalues] at h
        rw [cpuLine, hvalues]
        cases stored with
        | nil =>
          obtain ⟨rest, hrest, rfl⟩ := Option.map_eq_some_iff.mp h
          rcases List.mem_cons.mp hu with rfl | hu
          · exact .inl rfl
          · rcases ih hrest hu with hzero | ⟨i, old, _, hnone, _⟩
            · exact .inl hzero
            · exact nomatch hnone
        | cons old stored =>
          obtain ⟨rest, hrest, rfl⟩ := Option.map_eq_some_iff.mp h
          rcases List.mem_cons.mp hu with rfl | hu
          · exact .inr ⟨0, old, _, rfl, rfl, rfl⟩
          · rcases ih hrest hu with hzero | ⟨i, old', new, hold, hnew, heq⟩
            · exact .inl hzero
            · exact .inr ⟨i + 1, old', new, hold, hnew, heq⟩
    · rw [if_neg hcpu] at h
      obtain rfl : [] = usages := Option.some.inj h
      exact absurd hu List.not_mem_nil

lemma seen_concat : seen (history ++ [stat]) = (seen history).update stat :=
  List.foldl_concat ..

lemma collectorAfter_concat :
    collectorAfter (history ++ [stat]) = (collectLinux (collectorAfter history) stat).1 :=
  List.foldl_concat ..

/-- The collector holds what was said last. -/
theorem collectorAfter_eq (history : List (List Char)) : collectorAfter history =
    ⟨(seen history).aggregate, (seen history).cores.map CpuLine.ticks⟩ := by
  induction history using List.reverseRecOn with
  | nil => rfl
  | append_singleton history stat ih =>
    rw [collectorAfter_concat, ih, seen_concat, collectLinux, Sample.update, sample]
    cases lines stat with
    | nil => rfl
    | cons first rest =>
      dsimp only
      rw [cpuLine]
      cases parseCpuLine first with
      | none => rfl
      | some values =>
        dsimp only [Option.map_some]
        rw [← perCore_fst]

lemma collectLinux_snd {collector : CpuCollector} {metrics : CpuMetrics}
    (h : (collectLinux collector stat).2 = some metrics) : ∃ s, sample stat = some s ∧
      metrics.totalUsagePercent = usage collector.prev s.aggregate ∧
      ∀ u ∈ metrics.perCorePercent, u = 0 ∨ ∃ (i : ℕ) (old : Ticks) (new : CpuLine),
        collector.prevPerCore[i]? = some old ∧ s.cores[i]? = some new ∧
          u = usage old new.ticks := by
  rw [collectLinux] at h
  rw [sample]
  cases hlines : lines stat with
  | nil =>
    rw [hlines] at h
    exact nomatch h
  | cons first rest =>
    rw [hlines] at h
    dsimp only at h
    cases hvalues : parseCpuLine first with
    | none =>
      rw [hvalues] at h
      exact nomatch h
    | some values =>
      rw [hvalues] at h
      obtain ⟨usages, husages, rfl⟩ := Option.map_eq_some_iff.mp h
      refine ⟨⟨ticks values, coreLines rest⟩, ?_, rfl, fun u hu => perCore_snd husages hu⟩
      simp only [cpuLine, hvalues, Option.map_some]

/-! ## Usage -/

/-- The subtraction of `calculate_usage_percent` does not underflow: it is not made, or it is made
of a total that is no smaller than what is taken from it. -/
def Ticks.Subtracts (prev cur : Ticks) : Prop :=
  0 < cur.total - prev.total → cur.idle - prev.idle ≤ cur.total - prev.total

/-- If the counters have grown together, then those other than the idle ticks have not fallen. -/
def Ticks.Steady (prev cur : Ticks) : Prop :=
  prev.total < cur.total → prev.total + cur.idle ≤ cur.total + prev.idle

lemma Ticks.subtracts_iff : prev.Subtracts cur ↔ prev.Steady cur := by
  unfold Ticks.Subtracts Ticks.Steady
  omega

lemma calculateUsagePercent_mem (h : 0 < totalDelta → idleDelta ≤ totalDelta)
    (hlt : totalDelta < UInt64.size) :
    0 ≤ calculateUsagePercent totalDelta idleDelta ∧
      calculateUsagePercent totalDelta idleDelta ≤ 100 := by
  unfold calculateUsagePercent
  split
  case isFalse => exact ⟨Rat.le_refl, by norm_num⟩
  case isTrue hpos =>
    have hle := h hpos
    have hsub : wrappingSub totalDelta idleDelta = totalDelta - idleDelta := by
      have hsum : totalDelta + UInt64.size - idleDelta =
          totalDelta - idleDelta + UInt64.size := by omega
      rw [wrappingSub, hsum, Nat.add_mod_right, Nat.mod_eq_of_lt (by omega)]
    have htotal : (0 : ℚ) < totalDelta := Nat.cast_pos.mpr hpos
    have hnum : ((totalDelta - idleDelta : ℕ) : ℚ) ≤ totalDelta :=
      Nat.cast_le.mpr (Nat.sub_le _ _)
    have hfrac : ((totalDelta - idleDelta : ℕ) : ℚ) / totalDelta ≤ 1 := (div_le_one htotal).mpr hnum
    rw [hsub]
    constructor
    · positivity
    · linarith

lemma ticks_total_lt (values : List ℕ) : (ticks values).total < UInt64.size :=
  Nat.mod_lt _ (by decide)

lemma cpuLine_total_lt {core : CpuLine} (h : cpuLine line = some core) :
    core.ticks.total < UInt64.size := by
  obtain ⟨values, -, rfl⟩ := Option.map_eq_some_iff.mp h
  exact ticks_total_lt values

lemma coreLines_total_lt {core : CpuLine} {lines : List (List Char)} (h : core ∈ coreLines lines) :
    core.ticks.total < UInt64.size := by
  induction lines with
  | nil => exact absurd h List.not_mem_nil
  | cons line lines ih =>
    unfold coreLines at h
    split at h
    case isFalse => exact absurd h List.not_mem_nil
    case isTrue =>
      cases hline : cpuLine line with
      | none =>
        rw [hline] at h
        exact absurd h List.not_mem_nil
      | some first =>
        rw [hline] at h
        rcases List.mem_cons.mp h with rfl | h
        · exact cpuLine_total_lt hline
        · exact ih h

lemma sample_total_lt {s : Sample} (h : sample stat = some s) :
    s.aggregate.total < UInt64.size ∧ ∀ core ∈ s.cores, core.ticks.total < UInt64.size := by
  unfold sample at h
  cases hlines : lines stat with
  | nil =>
    rw [hlines] at h
    exact nomatch h
  | cons first rest =>
    rw [hlines] at h
    obtain ⟨line, hline, rfl⟩ := Option.map_eq_some_iff.mp h
    exact ⟨cpuLine_total_lt hline, fun core hcore => coreLines_total_lt hcore⟩

lemma usage_mem (h : prev.Subtracts cur) (hlt : cur.total < UInt64.size) :
    0 ≤ usage prev cur ∧ usage prev cur ≤ 100 :=
  calculateUsagePercent_mem h (by omega)

/-- One more sample after some others is evaluated rightly: the subtractions do not underflow, the
usages are between 0 and 100, and the counters that are compared are of one CPU. -/
structure Sound (history : List (List Char)) (stat : List Char) : Prop where
  total : ∀ s, sample stat = some s → (collectorAfter history).prev.Subtracts s.aggregate
  perCore : ∀ s, sample stat = some s → ∀ (i : ℕ) (old : Ticks) (new : CpuLine),
    (collectorAfter history).prevPerCore[i]? = some old → s.cores[i]? = some new →
      old.Subtracts new.ticks
  inRange : ∀ metrics, (collectLinux (collectorAfter history) stat).2 = some metrics →
    ∀ u ∈ metrics.totalUsagePercent :: metrics.perCorePercent, 0 ≤ u ∧ u ≤ 100
  sameCpu : ∀ s, sample stat = some s → ∀ (i : ℕ) (old new : CpuLine),
    (seen history).cores[i]? = some old → s.cores[i]? = some new → old.cpu = new.cpu

/-- Against what was said last, no sum of the counters has grown while those other than the idle
ticks fell, and at no position there is another core. -/
def Regular (history : List (List Char)) (stat : List Char) : Prop :=
  ∀ s, sample stat = some s → (seen history).aggregate.Steady s.aggregate ∧
    ∀ (i : ℕ) (old new : CpuLine), (seen history).cores[i]? = some old → s.cores[i]? = some new →
      old.cpu = new.cpu ∧ old.ticks.Steady new.ticks

theorem sound_iff_regular : Sound history stat ↔ Regular history stat := by
  have hprev : (collectorAfter history).prev = (seen history).aggregate := by
    rw [collectorAfter_eq]
  have hcores : (collectorAfter history).prevPerCore = (seen history).cores.map CpuLine.ticks := by
    rw [collectorAfter_eq]
  constructor
  · intro h s hs
    refine ⟨Ticks.subtracts_iff.mp (hprev ▸ h.total s hs), fun i old new hold hnew =>
      ⟨h.sameCpu s hs i old new hold hnew, Ticks.subtracts_iff.mp ?_⟩⟩
    refine h.perCore s hs i old.ticks new ?_ hnew
    rw [hcores, List.getElem?_map, hold]
    rfl
  · intro h
    have htotal (s : Sample) (hs : sample stat = some s) :
        (collectorAfter history).prev.Subtracts s.aggregate :=
      hprev ▸ Ticks.subtracts_iff.mpr (h s hs).1
    have hperCore (s : Sample) (hs : sample stat = some s) (i : ℕ) (old : Ticks) (new : CpuLine)
        (hold : (collectorAfter history).prevPerCore[i]? = some old)
        (hnew : s.cores[i]? = some new) : old.Subtracts new.ticks := by
      rw [hcores, List.getElem?_map] at hold
      obtain ⟨line, hline, rfl⟩ := Option.map_eq_some_iff.mp hold
      exact Ticks.subtracts_iff.mpr ((h s hs).2 i line new hline hnew).2
    refine ⟨htotal, hperCore, fun metrics hmetrics u hu => ?_, fun s hs i old new hold hnew =>
      ((h s hs).2 i old new hold hnew).1⟩
    obtain ⟨s, hs, husage, hcore⟩ := collectLinux_snd hmetrics
    obtain ⟨haggregate, hlines⟩ := sample_total_lt hs
    rcases List.mem_cons.mp hu with rfl | hu
    · rw [husage]
      exact usage_mem (htotal s hs) haggregate
    · rcases hcore u hu with rfl | ⟨i, old, new, hold, hnew, rfl⟩
      · exact ⟨Rat.le_refl, by norm_num⟩
      · exact usage_mem (hperCore s hs i old new hold hnew)
          (hlines new (List.mem_of_getElem? hnew))

/-- In a run of samples all are evaluated rightly exactly if all are regular. -/
theorem samples_sound_iff (stats : List (List Char)) :
    (∀ history stat, history ++ [stat] <+: stats → Sound history stat) ↔
      ∀ history stat, history ++ [stat] <+: stats → Regular history stat :=
  forall_congr' fun _ => forall_congr' fun _ => imp_congr_right fun _ => sound_iff_regular

/-- The idle ticks grow by 100 while the time waiting for input and output falls by 50. -/
theorem not_sound_iowait : ¬ ∀ history stat,
    history ++ [stat] <+: ["cpu 10 0 10 100 50".toList, "cpu 10 0 10 200 0".toList] →
      Sound history stat := by
  intro h
  have hsound := h ["cpu 10 0 10 100 50".toList] "cpu 10 0 10 200 0".toList List.prefix_rfl
  have hsubtracts := hsound.total ⟨⟨220, 200⟩, []⟩ (by decide +kernel)
  have hprev : (collectorAfter ["cpu 10 0 10 100 50".toList]).prev = ⟨170, 100⟩ := by
    decide +kernel
  rw [hprev] at hsubtracts
  exact absurd (hsubtracts (by decide)) (by decide)

end Paryty.Agent.Cpu

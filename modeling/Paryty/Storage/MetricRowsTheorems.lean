import Paryty.Storage.MetricRows
import Mathlib.Data.List.Perm.Basic
import Mathlib.Algebra.Ring.Rat
import Mathlib.Tactic.Common

/-!
# When both ways store the same rows

* The two lists of columns of a metric are the same but for the order, if all its tags have a value
  and it does not carry the zero time. CPU metrics are the exception: their line has the use of
  each core, their statement does not.
* A transaction stores nothing if one counter is too large for a `LONG`.
-/

namespace Paryty.Storage.MetricRows

variable {F : Type*} [Zero F] {tenant : String} {format4 : F → String}

/-! ## One metric -/

/-- All tags of a metric. -/
def Metric.tags (tenant : String) : Metric F → List (String × String)
  | .cpu m => [("agent_id", m.agentID), ("tenant_id", tenant)]
  | .memory m => [("agent_id", m.agentID), ("tenant_id", tenant)]
  | .disk m =>
    [("agent_id", m.agentID), ("tenant_id", tenant), ("device", m.device),
     ("mount_point", m.mountPoint), ("filesystem_type", m.filesystemType)]
  | .network m => [("agent_id", m.agentID), ("tenant_id", tenant), ("interface", m.interface)]
  | .process m =>
    [("agent_id", m.agentID), ("tenant_id", tenant), ("name", m.name), ("status", m.status),
     ("container_id", m.containerID)]
  | .container m =>
    [("agent_id", m.agentID), ("tenant_id", tenant), ("container_id", m.containerID),
     ("runtime", m.runtime), ("name", m.name), ("image", m.image), ("status", m.status),
     ("cgroup_version", m.cgroupVersion)]

/-- The unsigned 64-bit values of a metric. -/
def Metric.counters : Metric F → List UInt64
  | .cpu m => [m.contextSwitches]
  | .memory m =>
    [m.totalBytes, m.usedBytes, m.freeBytes, m.availableBytes, m.cachedBytes, m.bufferBytes,
     m.swapTotalBytes, m.swapUsedBytes]
  | .disk m =>
    [m.totalBytes, m.usedBytes, m.freeBytes, m.readBytesPerSec, m.writeBytesPerSec, m.iopsRead,
     m.iopsWrite]
  | .network m => [m.rxBytesPerSec, m.txBytesPerSec, m.rxPackets, m.txPackets, m.errors]
  | .process m => [m.memoryBytes, m.vszBytes]
  | .container _ => []

/-- The time of a metric. -/
def Metric.timestamp : Metric F → ℤ
  | .cpu m => m.timestamp
  | .memory m => m.timestamp
  | .disk m => m.timestamp
  | .network m => m.timestamp
  | .process m => m.timestamp
  | .container m => m.timestamp

/-- The metric is no CPU metric, and a process has started some time. -/
def Metric.Covered : Metric F → Prop
  | .cpu _ => False
  | .process m => m.startedAt ≠ zeroTime
  | _ => True

/-- Nothing of the metric gets lost on either way. -/
def Metric.Complete (tenant : String) (m : Metric F) : Prop :=
  m.Covered ∧ (∀ tag ∈ m.tags tenant, HasValue tag) ∧ (∀ n ∈ m.counters, n.toNat < 2 ^ 63) ∧
    -2 ^ 63 ≤ m.timestamp ∧ m.timestamp < 2 ^ 63

lemma filter_tagIfSet (key val : String) :
    (tagIfSet key val).filter (fun tag => HasValue tag) =
      [(key, val)].filter fun tag => HasValue tag := by
  by_cases hval : val = "" <;> simp [tagIfSet, HasValue, hval]

lemma filter_tags_line (m : Metric F) :
    (m.line tenant format4).tags.filter (fun tag => HasValue tag) =
      (m.tags tenant).filter fun tag => HasValue tag := by
  cases m with
  | cpu m => rfl
  | memory m => rfl
  | disk m =>
    simp only [Metric.line, diskILPTags, List.filter_append, filter_tagIfSet]
    simp only [← List.filter_append]
    rfl
  | network m =>
    simp only [Metric.line, netILPTags, List.filter_append, filter_tagIfSet]
    simp only [← List.filter_append]
    rfl
  | process m =>
    simp only [Metric.line, procILPTags, List.filter_append, filter_tagIfSet]
    simp only [← List.filter_append]
    rfl
  | container m =>
    simp only [Metric.line, containerILPTags, List.filter_append, filter_tagIfSet]
    simp only [← List.filter_append]
    rfl

lemma statement_table (m : Metric F) :
    (m.statement tenant).table = (m.line tenant format4).table := by
  cases m <;> rfl

lemma statement_timestamp (m : Metric F) : (m.statement tenant).timestamp = m.timestamp := by
  cases m <;> rfl

lemma line_timestamp (m : Metric F) : (m.line tenant format4).timestamp = m.timestamp := by
  cases m <;> rfl

/-- The number of columns a statement has besides the time. -/
def width : MetricTable → ℕ
  | .cpuMetrics => 12
  | .memoryMetrics => 17
  | .diskMetrics => 16
  | .networkMetrics => 21
  | .processMetrics => 18
  | .containerMetrics => 11

lemma length_statement (m : Metric F) :
    (m.statement tenant).columns.length = width (m.statement tenant).table := by
  cases m <;> rfl

lemma perCore_not_mem (m : Metric F) (value : Value F) :
    ("per_core_pct", value) ∉ (m.statement tenant).columns := by
  cases m <;> simp [Metric.statement, insertCPU, insertMemory, insertDisk, insertNetwork,
    insertProcess, insertContainer]

lemma fits_iff (m : Metric F) :
    ((m.statement tenant).columns.all fun column => column.2.fits) = true ↔
      ∀ n ∈ m.counters, n.toNat < 2 ^ 63 := by
  cases m <;> simp [Metric.statement, Metric.counters, insertCPU, insertMemory, insertDisk,
    insertNetwork, insertProcess, insertContainer]

lemma covered_of_length {m : Metric F} (hcpu : ∀ cpu, m ≠ .cpu cpu)
    (h : (m.line tenant format4).row.columns.length = width (m.line tenant format4).table) :
    m.Covered ∧ ∀ tag ∈ m.tags tenant, HasValue tag := by
  have htags := List.length_filter_le (fun tag => HasValue tag) (m.tags tenant)
  have hall (hlength : ((m.tags tenant).filter fun tag => HasValue tag).length =
      (m.tags tenant).length) : ∀ tag ∈ m.tags tenant, HasValue tag := fun tag htag =>
    of_decide_eq_true (List.length_filter_eq_length_iff.mp hlength tag htag)
  rw [Line.row, filter_tags_line, List.length_append, List.length_map] at h
  cases m with
  | cpu m => exact absurd rfl (hcpu m)
  | memory | disk | network => exact ⟨trivial, hall (Nat.add_right_cancel h)⟩
  | process m =>
    by_cases hstarted : m.startedAt = zeroTime
    · simp [Metric.line, procILPFields, FieldValue.value, hstarted, width, Metric.tags] at h htags
      omega
    · simp [Metric.line, procILPFields, FieldValue.value, hstarted, width] at h
      exact ⟨hstarted, hall h⟩
  | container m => exact ⟨trivial, hall (Nat.add_right_cancel h)⟩

lemma columns_perm {m : Metric F} (hcovered : m.Covered)
    (htags : ∀ tag ∈ m.tags tenant, HasValue tag) :
    (m.statement tenant).columns.Perm (m.line tenant format4).row.columns := by
  have hfilter : (m.tags tenant).filter (fun tag => HasValue tag) = m.tags tenant :=
    List.filter_eq_self.mpr fun tag htag => decide_eq_true (htags tag htag)
  rw [Line.row, filter_tags_line, hfilter]
  cases m with
  | cpu m => exact hcovered.elim
  | memory | disk | network => exact .refl _
  | process m =>
    have hstarted : m.startedAt ≠ zeroTime := hcovered
    simp only [Metric.line, procILPFields, List.filterMap_cons, FieldValue.value, if_neg hstarted]
    refine .cons _ (.cons _ ?_)
    -- in the statement the name, the status and the container stand between the fields
    refine (List.perm_append_comm_assoc [_, _] [_] _).trans (.cons _ ?_)
    refine (List.perm_append_comm_assoc [_, _, _, _, _, _] [_] _).trans (.cons _ ?_)
    exact (List.perm_append_comm_assoc [_, _, _, _, _, _, _, _] [_] _).trans (.refl _)
  | container m => exact .refl _

lemma Metric.Complete.same {m : Metric F} (h : m.Complete tenant) :
    (m.statement tenant).row.Same (m.line tenant format4).row := by
  obtain ⟨hcovered, htags, -, hlow, hhigh⟩ := h
  refine ⟨statement_table m, ?_, columns_perm hcovered htags⟩
  simp only [Statement.row, Line.row, statement_timestamp, line_timestamp, unixNano, hlow, hhigh,
    and_self, if_true, Option.map_some]

lemma complete_of_same {m m' : Metric F}
    (h : (m'.statement tenant).row.Same (m.line tenant format4).row) :
    m.Covered ∧ (∀ tag ∈ m.tags tenant, HasValue tag) ∧
      -2 ^ 63 ≤ m.timestamp ∧ m.timestamp < 2 ^ 63 := by
  obtain ⟨htable, htime, hperm⟩ := h
  have hcpu : ∀ cpu, m ≠ .cpu cpu := by
    rintro cpu rfl
    have hmem : ("per_core_pct", Value.string (formatFloatSlice format4 cpu.perCorePct)) ∈
        (Metric.line tenant format4 (.cpu cpu)).row.columns :=
      List.mem_append_right _ (.tail _ (.head _))
    exact perCore_not_mem m' _ (hperm.mem_iff.mpr hmem)
  have hlength : (m.line tenant format4).row.columns.length =
      width (m.line tenant format4).table := by
    rw [← hperm.length_eq, show (m.line tenant format4).table = (m'.statement tenant).table from
      htable.symm]
    exact length_statement m'
  obtain ⟨hcovered, htags⟩ := covered_of_length hcpu hlength
  obtain ⟨t, ht, -⟩ := Option.map_eq_some_iff.mp htime.symm
  rw [line_timestamp] at ht
  exact ⟨hcovered, htags, range_of_unixNano ht⟩

/-! ## A batch -/

lemma fallbackRows_of_fits {batch : MetricBatch F}
    (h : ∀ m ∈ batch.metrics, ∀ n ∈ m.counters, n.toNat < 2 ^ 63) :
    fallbackRows tenant batch =
      batch.metrics.map fun m => (m.statement tenant).row := by
  rw [fallbackRows, insertMetricBatch, execAll_of_fits, List.map_map]
  · rfl
  · intro stmt hstmt
    obtain ⟨m, hm, rfl⟩ := List.mem_map.mp hstmt
    exact (fits_iff m).mpr (h m hm)

lemma fallbackRows_of_not_fits {batch : MetricBatch F} {m : Metric F} (hm : m ∈ batch.metrics)
    (h : ¬ ∀ n ∈ m.counters, n.toNat < 2 ^ 63) : fallbackRows tenant batch = [] := by
  obtain ⟨e, he⟩ := execAll_of_not_fits (List.mem_map_of_mem hm) (mt (fits_iff m).mp h)
  rw [fallbackRows, insertMetricBatch, he]

lemma fastRows_eq (batch : MetricBatch F) :
    fastRows tenant format4 batch = batch.metrics.map fun m => (m.line tenant format4).row :=
  List.map_map ..

/-- For every batch and tenant: both ways store the same set of rows if and only if the batch has
no CPU metrics, and each metric has an agent, a tenant and a value for each of its other tags, a
time with a 64-bit number of nanoseconds, counters below 2 ^ 63, and, if it is a process, a
start. -/
theorem sameRows_iff (batch : MetricBatch F) :
    SameRows tenant format4 batch ↔ ∀ m ∈ batch.metrics, m.Complete tenant := by
  constructor
  · intro h m hm
    have hline : (m.line tenant format4).row ∈ fastRows tenant format4 batch := by
      rw [fastRows_eq]
      exact List.mem_map_of_mem hm
    obtain ⟨row, hrow, hsame⟩ := h.2 _ hline
    have hfits : ∀ m ∈ batch.metrics, ∀ n ∈ m.counters, n.toNat < 2 ^ 63 := by
      by_contra hnot
      obtain ⟨m, hm, hn⟩ := not_forall₂.mp hnot
      rw [fallbackRows_of_not_fits hm hn] at hrow
      exact List.not_mem_nil hrow
    rw [fallbackRows_of_fits hfits] at hrow
    obtain ⟨m', -, rfl⟩ := List.mem_map.mp hrow
    obtain ⟨hcovered, htags, htime⟩ := complete_of_same hsame
    exact ⟨hcovered, htags, hfits m hm, htime⟩
  · intro h
    rw [SameRows, fallbackRows_of_fits fun m hm => (h m hm).2.2.1, fastRows_eq]
    constructor
    · intro row hrow
      obtain ⟨m, hm, rfl⟩ := List.mem_map.mp hrow
      exact ⟨_, List.mem_map_of_mem hm, (h m hm).same⟩
    · intro row hrow
      obtain ⟨m, hm, rfl⟩ := List.mem_map.mp hrow
      exact ⟨_, List.mem_map_of_mem hm, (h m hm).same⟩

/-- The use of each core is in the line of a CPU metric only. -/
theorem not_sameRows_cpu : ¬ ∀ (tenant : String) (format4 : ℚ → String) (batch : MetricBatch ℚ),
    SameRows tenant format4 batch := by
  intro h
  let cpu : CPUMetrics ℚ :=
    { agentID := "agent", timestamp := 1736937000000000000, totalUsagePct := 42,
      perCorePct := [40, 44], loadAvg1m := 1, loadAvg5m := 1, loadAvg15m := 1,
      frequencyMHz := 2400, contextSwitches := 1000, physicalCores := 2, logicalCores := 2,
      modelName := "CPU", vendorID := "vendor" }
  have hsame := h "acme" (fun _ => "0.0000") { cpu := [cpu] }
  have hline : (Metric.line "acme" (fun _ => "0.0000") (.cpu cpu)).row ∈
      fastRows "acme" (fun _ => "0.0000") { cpu := [cpu] } := List.mem_cons_self
  obtain ⟨row, hrow, hcolumns⟩ := hsame.2 _ hline
  have hfits : ∀ m ∈ MetricBatch.metrics { cpu := [cpu] }, ∀ n ∈ m.counters,
      n.toNat < 2 ^ 63 := by
    intro m hm n hn
    rw [List.mem_singleton.mp hm] at hn
    rw [List.mem_singleton.mp hn]
    decide
  rw [fallbackRows_of_fits hfits] at hrow
  obtain ⟨m', -, rfl⟩ := List.mem_map.mp hrow
  exact (complete_of_same hcolumns).1

end Paryty.Storage.MetricRows

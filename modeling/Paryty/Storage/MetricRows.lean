import Paryty.Storage.WarmTier

/-!
# The rows of a metric batch, written two ways

A metric batch is stored either by `InsertMetricBatch` of `internal/storage/warm/questdb.go`, which
inserts its rows over PostgreSQL in one transaction, or by `sendBatchLines` of `ilp_writer.go`,
which sends a line for each of them. Each way has its own list of columns for every metric type.

* `F` is the type of a `float64`; `format4` is what `%.4f` makes of one.
* A `time.Time` is a number of nanoseconds since the epoch. The table holds microseconds.
* An empty tag and a zero time are not in a line.
-/

namespace Paryty.Storage.MetricRows

/-! ## Metrics -/

/-- `models.CPUMetrics`. -/
structure CPUMetrics (F : Type*) where
  agentID : String
  timestamp : ℤ
  totalUsagePct : F
  perCorePct : List F
  loadAvg1m : F
  loadAvg5m : F
  loadAvg15m : F
  frequencyMHz : F
  contextSwitches : UInt64
  physicalCores : Int32
  logicalCores : Int32
  modelName : String
  vendorID : String

/-- `models.MemoryPressure`. -/
structure MemoryPressure (F : Type*) where
  some10 : F
  some60 : F
  some300 : F
  full10 : F
  full60 : F
  full300 : F

/-- `models.MemoryMetrics`, without the processes, which are not stored. -/
structure MemoryMetrics (F : Type*) where
  agentID : String
  timestamp : ℤ
  totalBytes : UInt64
  usedBytes : UInt64
  freeBytes : UInt64
  availableBytes : UInt64
  cachedBytes : UInt64
  bufferBytes : UInt64
  swapTotalBytes : UInt64
  swapUsedBytes : UInt64
  usagePercent : F
  pressure : Option (MemoryPressure F)

/-- `models.DiskMetrics`. -/
structure DiskMetrics (F : Type*) where
  agentID : String
  timestamp : ℤ
  device : String
  mountPoint : String
  filesystemType : String
  totalBytes : UInt64
  usedBytes : UInt64
  freeBytes : UInt64
  readBytesPerSec : UInt64
  writeBytesPerSec : UInt64
  iopsRead : UInt64
  iopsWrite : UInt64
  ioLatencyMs : F
  queueDepth : F
  isSSD : Bool
  utilizationPct : F

/-- `models.TCPStats`, without `CloseWait`, which is not stored. -/
structure TCPStats where
  established : Int32
  timeWait : Int32
  listen : Int32
  retransmitCount : Int64

/-- `models.NetworkMetrics`. -/
structure NetworkMetrics (F : Type*) where
  agentID : String
  timestamp : ℤ
  interface : String
  rxBytesPerSec : UInt64
  txBytesPerSec : UInt64
  rxPackets : UInt64
  txPackets : UInt64
  rxDropped : Int64
  txDropped : Int64
  errors : UInt64
  estimatedRTTMs : F
  totalRxBytes : Int64
  totalTxBytes : Int64
  totalRxPackets : Int64
  totalTxPackets : Int64
  speedMbps : Int64
  isUp : Bool
  tcpStats : Option TCPStats

/-- `models.ProcessMetrics`. -/
structure ProcessMetrics (F : Type*) where
  agentID : String
  timestamp : ℤ
  pid : UInt32
  parentPID : UInt32
  name : String
  commandLine : String
  cpuUsagePct : F
  memoryBytes : UInt64
  vszBytes : UInt64
  status : String
  threads : UInt32
  fdCount : UInt32
  containerID : String
  exe : String
  diskReadBytes : Int64
  diskWrittenBytes : Int64
  userID : String
  startedAt : ℤ

/-- `models.ContainerMetrics`, without the processes, which are not stored. -/
structure ContainerMetrics (F : Type*) where
  agentID : String
  timestamp : ℤ
  containerID : String
  runtime : String
  name : String
  image : String
  status : String
  cgroupVersion : String
  memoryLimitBytes : Int64
  cpuQuota : F
  cpuShares : Int64

/-- A metric of some type. -/
inductive Metric (F : Type*)
  | cpu (m : CPUMetrics F)
  | memory (m : MemoryMetrics F)
  | disk (m : DiskMetrics F)
  | network (m : NetworkMetrics F)
  | process (m : ProcessMetrics F)
  | container (m : ContainerMetrics F)

/-- The lists of a `models.MetricBatch`. -/
structure MetricBatch (F : Type*) where
  cpu : List (CPUMetrics F) := []
  memory : List (MemoryMetrics F) := []
  disk : List (DiskMetrics F) := []
  network : List (NetworkMetrics F) := []
  processes : List (ProcessMetrics F) := []
  containers : List (ContainerMetrics F) := []

/-- All metrics of a batch, in the order in which they are stored. -/
def MetricBatch.metrics {F : Type*} (batch : MetricBatch F) : List (Metric F) :=
  batch.cpu.map .cpu ++ batch.memory.map .memory ++ batch.disk.map .disk ++
    batch.network.map .network ++ batch.processes.map .process ++ batch.containers.map .container

/-! ## Rows -/

/-- A value in a column. -/
inductive Value (F : Type*)
  | string (s : String)
  | double (x : F)
  | integer (n : ℤ)
  | boolean (b : Bool)
  /-- In microseconds. -/
  | timestamp (micros : ℤ)

/-- A row, with its columns in some order. Columns that are `NULL` are left out. -/
structure Row (F : Type*) where
  table : MetricTable
  /-- In microseconds; there is none where the time of a line is undefined. -/
  timestamp : Option ℤ
  columns : List (String × Value F)

/-- The same row, whatever the order of the columns. -/
def Row.Same {F : Type*} (r r' : Row F) : Prop :=
  r.table = r'.table ∧ r.timestamp = r'.timestamp ∧ r.columns.Perm r'.columns

/-- The microseconds of a time. -/
def micros (t : ℤ) : ℤ := t / 1000

/-- The zero `time.Time`. -/
def zeroTime : ℤ := -62135596800000000000

variable {F : Type*}

/-! ## Over PostgreSQL -/

/-- An `INSERT`, with the columns as the statement lists them. -/
structure Statement (F : Type*) where
  table : MetricTable
  timestamp : ℤ
  columns : List (String × Value F)

/-- The driver sends an integer only if it is a `LONG`. -/
def Value.fits : Value F → Bool
  | .integer n => -2 ^ 63 ≤ n ∧ n < 2 ^ 63
  | _ => true

@[simp] lemma fits_int32 (n : Int32) : (Value.integer n.toInt : Value F).fits = true := by
  have hle := n.le_toInt
  have hlt := n.toInt_lt
  simp only [Value.fits, decide_eq_true_eq]
  omega

@[simp] lemma fits_int64 (n : Int64) : (Value.integer n.toInt : Value F).fits = true := by
  have hle := n.le_toInt
  have hlt := n.toInt_lt
  simp only [Value.fits, decide_eq_true_eq]
  omega

@[simp] lemma fits_uint32 (n : UInt32) : (Value.integer n.toNat : Value F).fits = true := by
  have hlt := n.toNat_lt
  simp only [Value.fits, decide_eq_true_eq]
  omega

@[simp] lemma fits_uint64 (n : UInt64) :
    (Value.integer n.toNat : Value F).fits = true ↔ n.toNat < 2 ^ 63 := by
  simp only [Value.fits, decide_eq_true_eq]
  omega

@[simp] lemma fits_string (s : String) : (Value.string s : Value F).fits = true := rfl

@[simp] lemma fits_double (x : F) : (Value.double x).fits = true := rfl

@[simp] lemma fits_boolean (b : Bool) : (Value.boolean b : Value F).fits = true := rfl

@[simp] lemma fits_timestamp (t : ℤ) : (Value.timestamp t : Value F).fits = true := rfl

/-- The row of a statement. -/
def Statement.row (stmt : Statement F) : Row F :=
  ⟨stmt.table, some (micros stmt.timestamp), stmt.columns⟩

/-- What the error of a statement begins with. -/
def insertError : MetricTable → String
  | .cpuMetrics => "insert cpu"
  | .memoryMetrics => "insert memory"
  | .diskMetrics => "insert disk"
  | .networkMetrics => "insert network"
  | .processMetrics => "insert process"
  | .containerMetrics => "insert container"

/-- `tx.Exec` of the statements, one after the other. -/
def execAll : List (Statement F) → Except String (List (Row F))
  | [] => .ok []
  | stmt :: stmts =>
    if stmt.columns.all (fun column => column.2.fits) then (execAll stmts).map (stmt.row :: ·)
    else .error (insertError stmt.table)

lemma execAll_of_fits {stmts : List (Statement F)}
    (h : ∀ stmt ∈ stmts, (stmt.columns.all fun column => column.2.fits) = true) :
    execAll stmts = .ok (stmts.map Statement.row) := by
  induction stmts with
  | nil => rfl
  | cons stmt stmts ih =>
    rw [execAll, if_pos (h stmt List.mem_cons_self),
      ih fun other hother => h other (List.mem_cons_of_mem _ hother)]
    rfl

lemma execAll_of_not_fits {stmts : List (Statement F)} {stmt : Statement F} (hmem : stmt ∈ stmts)
    (h : ¬ (stmt.columns.all fun column => column.2.fits) = true) :
    ∃ e, execAll stmts = .error e := by
  induction stmts with
  | nil => exact absurd hmem List.not_mem_nil
  | cons first stmts ih =>
    rw [execAll]
    split
    · rename_i hfits
      rcases List.mem_cons.mp hmem with rfl | hmem
      · exact absurd hfits h
      · obtain ⟨e, he⟩ := ih hmem
        exact ⟨e, by rw [he]; rfl⟩
    · exact ⟨_, rfl⟩

section Statements

variable (tenant : String)

def insertCPU (cpu : CPUMetrics F) : Statement F where
  table := .cpuMetrics
  timestamp := cpu.timestamp
  columns :=
    [("agent_id", .string cpu.agentID),
     ("tenant_id", .string tenant),
     ("total_usage_pct", .double cpu.totalUsagePct),
     ("load_avg_1", .double cpu.loadAvg1m),
     ("load_avg_5", .double cpu.loadAvg5m),
     ("load_avg_15", .double cpu.loadAvg15m),
     ("frequency_mhz", .double cpu.frequencyMHz),
     ("context_switches", .integer cpu.contextSwitches.toNat),
     ("physical_cores", .integer cpu.physicalCores.toInt),
     ("logical_cores", .integer cpu.logicalCores.toInt),
     ("model_name", .string cpu.modelName),
     ("vendor_id", .string cpu.vendorID)]

def insertMemory [Zero F] (mem : MemoryMetrics F) : Statement F where
  table := .memoryMetrics
  timestamp := mem.timestamp
  columns :=
    let pressure := mem.pressure.getD ⟨0, 0, 0, 0, 0, 0⟩
    [("agent_id", .string mem.agentID),
     ("tenant_id", .string tenant),
     ("total_bytes", .integer mem.totalBytes.toNat),
     ("used_bytes", .integer mem.usedBytes.toNat),
     ("free_bytes", .integer mem.freeBytes.toNat),
     ("available_bytes", .integer mem.availableBytes.toNat),
     ("cached_bytes", .integer mem.cachedBytes.toNat),
     ("buffer_bytes", .integer mem.bufferBytes.toNat),
     ("swap_total_bytes", .integer mem.swapTotalBytes.toNat),
     ("swap_used_bytes", .integer mem.swapUsedBytes.toNat),
     ("usage_percent", .double mem.usagePercent),
     ("pressure_some_avg10", .double pressure.some10),
     ("pressure_some_avg60", .double pressure.some60),
     ("pressure_some_avg300", .double pressure.some300),
     ("pressure_full_avg10", .double pressure.full10),
     ("pressure_full_avg60", .double pressure.full60),
     ("pressure_full_avg300", .double pressure.full300)]

def insertDisk (disk : DiskMetrics F) : Statement F where
  table := .diskMetrics
  timestamp := disk.timestamp
  columns :=
    [("agent_id", .string disk.agentID),
     ("tenant_id", .string tenant),
     ("device", .string disk.device),
     ("mount_point", .string disk.mountPoint),
     ("filesystem_type", .string disk.filesystemType),
     ("total_bytes", .integer disk.totalBytes.toNat),
     ("used_bytes", .integer disk.usedBytes.toNat),
     ("free_bytes", .integer disk.freeBytes.toNat),
     ("read_bytes_per_sec", .integer disk.readBytesPerSec.toNat),
     ("write_bytes_per_sec", .integer disk.writeBytesPerSec.toNat),
     ("iops_read", .integer disk.iopsRead.toNat),
     ("iops_write", .integer disk.iopsWrite.toNat),
     ("io_latency_ms", .double disk.ioLatencyMs),
     ("queue_depth", .double disk.queueDepth),
     ("is_ssd", .boolean disk.isSSD),
     ("utilization_pct", .double disk.utilizationPct)]

def insertNetwork (net : NetworkMetrics F) : Statement F where
  table := .networkMetrics
  timestamp := net.timestamp
  columns :=
    let tcp := net.tcpStats.getD ⟨0, 0, 0, 0⟩
    [("agent_id", .string net.agentID),
     ("tenant_id", .string tenant),
     ("interface", .string net.interface),
     ("rx_bytes_per_sec", .integer net.rxBytesPerSec.toNat),
     ("tx_bytes_per_sec", .integer net.txBytesPerSec.toNat),
     ("rx_packets", .integer net.rxPackets.toNat),
     ("tx_packets", .integer net.txPackets.toNat),
     ("rx_dropped", .integer net.rxDropped.toInt),
     ("tx_dropped", .integer net.txDropped.toInt),
     ("errors", .integer net.errors.toNat),
     ("estimated_rtt_ms", .double net.estimatedRTTMs),
     ("total_rx_bytes", .integer net.totalRxBytes.toInt),
     ("total_tx_bytes", .integer net.totalTxBytes.toInt),
     ("total_rx_packets", .integer net.totalRxPackets.toInt),
     ("total_tx_packets", .integer net.totalTxPackets.toInt),
     ("speed_mbps", .integer net.speedMbps.toInt),
     ("is_up", .boolean net.isUp),
     ("tcp_established", .integer tcp.established.toInt),
     ("tcp_time_wait", .integer tcp.timeWait.toInt),
     ("tcp_listen", .integer tcp.listen.toInt),
     ("tcp_retransmit_count", .integer tcp.retransmitCount.toInt)]

def insertProcess (proc : ProcessMetrics F) : Statement F where
  table := .processMetrics
  timestamp := proc.timestamp
  columns :=
    [("agent_id", .string proc.agentID),
     ("tenant_id", .string tenant),
     ("pid", .integer proc.pid.toNat),
     ("parent_pid", .integer proc.parentPID.toNat),
     ("name", .string proc.name),
     ("command_line", .string proc.commandLine),
     ("cpu_usage_pct", .double proc.cpuUsagePct),
     ("memory_bytes", .integer proc.memoryBytes.toNat),
     ("vsz_bytes", .integer proc.vszBytes.toNat),
     ("status", .string proc.status),
     ("threads", .integer proc.threads.toNat),
     ("fd_count", .integer proc.fdCount.toNat),
     ("container_id", .string proc.containerID),
     ("exe", .string proc.exe),
     ("disk_read_bytes", .integer proc.diskReadBytes.toInt),
     ("disk_written_bytes", .integer proc.diskWrittenBytes.toInt),
     ("user_id", .string proc.userID),
     ("started_at", .timestamp (micros proc.startedAt))]

def insertContainer (ctr : ContainerMetrics F) : Statement F where
  table := .containerMetrics
  timestamp := ctr.timestamp
  columns :=
    [("agent_id", .string ctr.agentID),
     ("tenant_id", .string tenant),
     ("container_id", .string ctr.containerID),
     ("runtime", .string ctr.runtime),
     ("name", .string ctr.name),
     ("image", .string ctr.image),
     ("status", .string ctr.status),
     ("cgroup_version", .string ctr.cgroupVersion),
     ("memory_limit_bytes", .integer ctr.memoryLimitBytes.toInt),
     ("cpu_quota", .double ctr.cpuQuota),
     ("cpu_shares", .integer ctr.cpuShares.toInt)]

variable [Zero F]

/-- The statement for a metric. -/
def Metric.statement : Metric F → Statement F
  | .cpu m => insertCPU tenant m
  | .memory m => insertMemory tenant m
  | .disk m => insertDisk tenant m
  | .network m => insertNetwork tenant m
  | .process m => insertProcess tenant m
  | .container m => insertContainer tenant m

/-- `InsertMetricBatch`: all rows of the batch, or an error. -/
def insertMetricBatch (batch : MetricBatch F) : Except String (List (Row F)) :=
  execAll (batch.metrics.map (Metric.statement tenant))

/-- The rows `InsertMetricBatch` stores; after an error the transaction is rolled back. -/
def fallbackRows (batch : MetricBatch F) : List (Row F) :=
  match insertMetricBatch tenant batch with
  | .ok rows => rows
  | .error _ => []

end Statements

/-! ## In lines -/

/-- A value of a field map. -/
inductive FieldValue (F : Type*)
  | float64 (val : F)
  | int64 (val : Int64)
  | int32 (val : Int32)
  | uint64 (val : UInt64)
  | uint32 (val : UInt32)
  | string (val : String)
  | bool (val : Bool)
  | time (val : ℤ)

/-- What a field value stands for in its line. The zero time is written as `null`. -/
def FieldValue.value : FieldValue F → Option (Value F)
  | .float64 val => some (.double val)
  | .int64 val => some (.integer val.toInt)
  | .int32 val => some (.integer val.toInt)
  | .uint64 val => some (.integer val.toNat)
  | .uint32 val => some (.integer val.toNat)
  | .string val => some (.string val)
  | .bool val => some (.boolean val)
  | .time val => if val = zeroTime then none else some (.timestamp (micros val))

/-- What `sendLine` is called with. -/
structure Line (F : Type*) where
  table : MetricTable
  tags : List (String × String)
  fields : List (String × FieldValue F)
  timestamp : ℤ

/-- `UnixNano`, which is undefined for times that have no 64-bit number of nanoseconds. -/
def unixNano (t : ℤ) : Option ℤ := if -2 ^ 63 ≤ t ∧ t < 2 ^ 63 then some t else none

lemma range_of_unixNano {t nanos : ℤ} (h : unixNano t = some nanos) :
    -2 ^ 63 ≤ t ∧ t < 2 ^ 63 := by
  by_contra hrange
  rw [unixNano, if_neg hrange] at h
  cases h

/-- A tag with a value. -/
def HasValue (tag : String × String) : Prop := tag.2 ≠ ""

instance : DecidablePred HasValue := fun _ => inferInstanceAs (Decidable (_ ≠ _))

/-- The row a line stands for. Tags without a value are skipped. -/
def Line.row (line : Line F) : Row F where
  table := line.table
  timestamp := (unixNano line.timestamp).map micros
  columns := (line.tags.filter (fun tag => HasValue tag)).map (fun tag => (tag.1, .string tag.2)) ++
    line.fields.filterMap fun field => field.2.value.map (field.1, ·)

/-- `formatFloatSlice`. -/
def formatFloatSlice (format4 : F → String) (vals : List F) : String :=
  "[" ++ ",".intercalate (vals.map format4) ++ "]"

section Lines

variable (tenant : String)

/-- The two tags that every line has. -/
def basicILPTags (agentID : String) : List (String × String) :=
  [("agent_id", agentID), ("tenant_id", tenant)]

/-- A tag that is set only if it has a value. -/
def tagIfSet (key val : String) : List (String × String) :=
  if val ≠ "" then [(key, val)] else []

def cpuILPTags (agentID : String) : List (String × String) :=
  [("agent_id", agentID), ("tenant_id", tenant)]

def cpuILPFields (format4 : F → String) (m : CPUMetrics F) : List (String × FieldValue F) :=
  [("total_usage_pct", .float64 m.totalUsagePct),
   ("per_core_pct", .string (formatFloatSlice format4 m.perCorePct)),
   ("load_avg_1", .float64 m.loadAvg1m),
   ("load_avg_5", .float64 m.loadAvg5m),
   ("load_avg_15", .float64 m.loadAvg15m),
   ("frequency_mhz", .float64 m.frequencyMHz),
   ("context_switches", .uint64 m.contextSwitches),
   ("physical_cores", .int32 m.physicalCores),
   ("logical_cores", .int32 m.logicalCores),
   ("model_name", .string m.modelName),
   ("vendor_id", .string m.vendorID)]

def memILPFields [Zero F] (m : MemoryMetrics F) : List (String × FieldValue F) :=
  let pressure := m.pressure.getD ⟨0, 0, 0, 0, 0, 0⟩
  [("total_bytes", .uint64 m.totalBytes),
   ("used_bytes", .uint64 m.usedBytes),
   ("free_bytes", .uint64 m.freeBytes),
   ("available_bytes", .uint64 m.availableBytes),
   ("cached_bytes", .uint64 m.cachedBytes),
   ("buffer_bytes", .uint64 m.bufferBytes),
   ("swap_total_bytes", .uint64 m.swapTotalBytes),
   ("swap_used_bytes", .uint64 m.swapUsedBytes),
   ("usage_percent", .float64 m.usagePercent),
   ("pressure_some_avg10", .float64 pressure.some10),
   ("pressure_some_avg60", .float64 pressure.some60),
   ("pressure_some_avg300", .float64 pressure.some300),
   ("pressure_full_avg10", .float64 pressure.full10),
   ("pressure_full_avg60", .float64 pressure.full60),
   ("pressure_full_avg300", .float64 pressure.full300)]

def diskILPTags (m : DiskMetrics F) : List (String × String) :=
  [("agent_id", m.agentID), ("tenant_id", tenant)] ++ tagIfSet "device" m.device ++
    tagIfSet "mount_point" m.mountPoint ++ tagIfSet "filesystem_type" m.filesystemType

def diskILPFields (m : DiskMetrics F) : List (String × FieldValue F) :=
  [("total_bytes", .uint64 m.totalBytes),
   ("used_bytes", .uint64 m.usedBytes),
   ("free_bytes", .uint64 m.freeBytes),
   ("read_bytes_per_sec", .uint64 m.readBytesPerSec),
   ("write_bytes_per_sec", .uint64 m.writeBytesPerSec),
   ("iops_read", .uint64 m.iopsRead),
   ("iops_write", .uint64 m.iopsWrite),
   ("io_latency_ms", .float64 m.ioLatencyMs),
   ("queue_depth", .float64 m.queueDepth),
   ("is_ssd", .bool m.isSSD),
   ("utilization_pct", .float64 m.utilizationPct)]

def netILPTags (m : NetworkMetrics F) : List (String × String) :=
  [("agent_id", m.agentID), ("tenant_id", tenant)] ++ tagIfSet "interface" m.interface

def netILPFields (m : NetworkMetrics F) : List (String × FieldValue F) :=
  let tcp := m.tcpStats.getD ⟨0, 0, 0, 0⟩
  [("rx_bytes_per_sec", .uint64 m.rxBytesPerSec),
   ("tx_bytes_per_sec", .uint64 m.txBytesPerSec),
   ("rx_packets", .uint64 m.rxPackets),
   ("tx_packets", .uint64 m.txPackets),
   ("rx_dropped", .int64 m.rxDropped),
   ("tx_dropped", .int64 m.txDropped),
   ("errors", .uint64 m.errors),
   ("estimated_rtt_ms", .float64 m.estimatedRTTMs),
   ("total_rx_bytes", .int64 m.totalRxBytes),
   ("total_tx_bytes", .int64 m.totalTxBytes),
   ("total_rx_packets", .int64 m.totalRxPackets),
   ("total_tx_packets", .int64 m.totalTxPackets),
   ("speed_mbps", .int64 m.speedMbps),
   ("is_up", .bool m.isUp),
   ("tcp_established", .int32 tcp.established),
   ("tcp_time_wait", .int32 tcp.timeWait),
   ("tcp_listen", .int32 tcp.listen),
   ("tcp_retransmit_count", .int64 tcp.retransmitCount)]

def procILPTags (m : ProcessMetrics F) : List (String × String) :=
  [("agent_id", m.agentID), ("tenant_id", tenant)] ++ tagIfSet "name" m.name ++
    tagIfSet "status" m.status ++ tagIfSet "container_id" m.containerID

def procILPFields (m : ProcessMetrics F) : List (String × FieldValue F) :=
  [("pid", .uint32 m.pid),
   ("parent_pid", .uint32 m.parentPID),
   ("command_line", .string m.commandLine),
   ("cpu_usage_pct", .float64 m.cpuUsagePct),
   ("memory_bytes", .uint64 m.memoryBytes),
   ("vsz_bytes", .uint64 m.vszBytes),
   ("threads", .uint32 m.threads),
   ("fd_count", .uint32 m.fdCount),
   ("exe", .string m.exe),
   ("disk_read_bytes", .int64 m.diskReadBytes),
   ("disk_written_bytes", .int64 m.diskWrittenBytes),
   ("user_id", .string m.userID),
   ("started_at", .time m.startedAt)]

def containerILPTags (m : ContainerMetrics F) : List (String × String) :=
  [("agent_id", m.agentID), ("tenant_id", tenant)] ++ tagIfSet "container_id" m.containerID ++
    tagIfSet "runtime" m.runtime ++ tagIfSet "name" m.name ++ tagIfSet "image" m.image ++
    tagIfSet "status" m.status ++ tagIfSet "cgroup_version" m.cgroupVersion

def containerILPFields (m : ContainerMetrics F) : List (String × FieldValue F) :=
  [("memory_limit_bytes", .int64 m.memoryLimitBytes),
   ("cpu_quota", .float64 m.cpuQuota),
   ("cpu_shares", .int64 m.cpuShares)]

variable [Zero F] (format4 : F → String)

/-- The line for a metric. -/
def Metric.line : Metric F → Line F
  | .cpu m => ⟨.cpuMetrics, cpuILPTags tenant m.agentID, cpuILPFields format4 m, m.timestamp⟩
  | .memory m => ⟨.memoryMetrics, basicILPTags tenant m.agentID, memILPFields m, m.timestamp⟩
  | .disk m => ⟨.diskMetrics, diskILPTags tenant m, diskILPFields m, m.timestamp⟩
  | .network m => ⟨.networkMetrics, netILPTags tenant m, netILPFields m, m.timestamp⟩
  | .process m => ⟨.processMetrics, procILPTags tenant m, procILPFields m, m.timestamp⟩
  | .container m =>
    ⟨.containerMetrics, containerILPTags tenant m, containerILPFields m, m.timestamp⟩

/-- The lines of `sendBatchLines`. -/
def sendBatchLines (batch : MetricBatch F) : List (Line F) :=
  batch.metrics.map (Metric.line tenant format4)

/-- The rows of the lines. -/
def fastRows (batch : MetricBatch F) : List (Row F) :=
  (sendBatchLines tenant format4 batch).map Line.row

/-- Both ways store the same set of rows. -/
def SameRows (batch : MetricBatch F) : Prop :=
  (∀ row ∈ fallbackRows tenant batch, ∃ row' ∈ fastRows tenant format4 batch, row.Same row') ∧
    ∀ row' ∈ fastRows tenant format4 batch, ∃ row ∈ fallbackRows tenant batch, row.Same row'

end Lines

end Paryty.Storage.MetricRows

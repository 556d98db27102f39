import Paryty.Agent.LedgerTheorems

/-!
# Sequence numbers across restarts

The sequence counter of the edge buffer lives in memory and starts at 1 in every process, while
spilled entries keep their numbers in the SQLite file, which survives. So numbers are unique only
as long as all writes fall into one life of the agent (`sequence_numbers_unique_iff`).
-/

namespace Paryty.Agent

/-! ## Lives of the agent -/

/-- What happens to the agent: an operation of its buffer, or a restart of its process, which may
fail to open the SQLite file. -/
inductive LifeEvent
  | op (op : BufferOp)
  | restart (opens : Bool)

/-- The buffer of the process that runs, with the ledger of all of them. -/
structure Lives where
  tracked : Tracked
  /-- The SQLite file, while it is not open. -/
  closed : Option SqliteDb

namespace Lives

/-- The SQLite file, if a path is configured. -/
def file (t : Lives) : Option SqliteDb := t.tracked.buffer.db.or t.closed

/-- The first process, without a file or with a new one, which it may fail to open. -/
def start (config : EdgeBufferConfig) (path opens : Bool) : Lives :=
  let file := if path then some SqliteDb.init else none
  { tracked := Tracked.new config (if opens then file else none)
    closed := if opens then none else file }

/-- A new process over the same file. What was in memory is gone. -/
def restart (t : Lives) (opens : Bool) : Lives where
  tracked := {
    buffer := EdgeBuffer.new t.tracked.buffer.config (if opens then t.file else none)
    ledger := { t.tracked.ledger with
      removed := t.tracked.ledger.removed ++ t.tracked.buffer.memoryData } }
  closed := if opens then none else t.file

/-- The state after an event. -/
def step (t : Lives) : LifeEvent → Lives
  | .op op => { t with tracked := (t.tracked.step op).getD t.tracked }
  | .restart opens => t.restart opens

/-- The unsent rows of a file. -/
def fileData : Option SqliteDb → List Datum
  | none => []
  | some db => db.pending.map SqliteRow.datum

/-- The unsent rows of the file while it is not open. -/
def closedData (t : Lives) : List Datum := fileData t.closed

/-- Every place a written entry can be in: in memory, in a row that is pending, handed out, or
given up. -/
def places (t : Lives) : List Datum := t.tracked.places ++ t.closedData

/-- No two entries that were ever in the buffer have one number, and later ones have larger
numbers. -/
def NumbersUnique (t : Lives) : Prop :=
  (t.places.map Datum.sequenceNumber).Nodup ∧
    (t.tracked.ledger.written.map Datum.sequenceNumber).Pairwise (· < ·)

end Lives

/-! ## When numbers are unique -/

/-- The event writes an entry. -/
def LifeEvent.isWrite : LifeEvent → Bool
  | .op (.write ..) => true
  | _ => false

/-- The number of writes among the events. -/
def writesIn (events : List LifeEvent) : ℕ := events.countP LifeEvent.isWrite

/-- No restart stands between two writes. -/
def OneLife (events : List LifeEvent) : Prop :=
  ∀ before opens after, events = before ++ .restart opens :: after →
    writesIn before = 0 ∨ writesIn after = 0

/-! ## The numbers of a run -/

/-- The numbers the writes of a run get, from a counter on. -/
def numbers : (counter : ℕ) → List LifeEvent → List ℕ
  | _, [] => []
  | _, .restart _ :: events => numbers 1 events
  | counter, .op op :: events =>
    if (LifeEvent.op op).isWrite then counter :: numbers (fetchAdd counter 1) events
    else numbers counter events

section Numbers

variable {events : List LifeEvent} {counter : ℕ}

lemma length_numbers (counter : ℕ) (events : List LifeEvent) :
    (numbers counter events).length = writesIn events := by
  induction events generalizing counter with
  | nil => rfl
  | cons event events ih =>
    cases event with
    | restart opens => simp [numbers, writesIn, LifeEvent.isWrite, ih]
    | op op =>
      unfold numbers writesIn
      rw [List.countP_cons]
      split <;> simp [ih, writesIn]

lemma numbers_append (before after : List LifeEvent) (opens : Bool) :
    numbers counter (before ++ .restart opens :: after) =
      numbers counter before ++ numbers 1 after := by
  induction before generalizing counter with
  | nil => rfl
  | cons event before ih =>
    cases event with
    | restart opens => exact ih
    | op op =>
      simp only [List.cons_append, numbers, ih]
      split <;> rfl

lemma head_numbers (events : List LifeEvent) : ∀ n ∈ (numbers 1 events).head?, n = 1 := by
  induction events with
  | nil => simp [numbers]
  | cons event events ih =>
    cases event with
    | restart opens => exact ih
    | op op =>
      unfold numbers
      split
      · simp
      · exact ih

lemma numbers_lt (hcounter : counter < 2 ^ 64) : ∀ n ∈ numbers counter events, n < 2 ^ 64 := by
  induction events generalizing counter with
  | nil => simp [numbers]
  | cons event events ih =>
    cases event with
    | restart opens => exact ih (by decide)
    | op op =>
      have hnext : fetchAdd counter 1 < 2 ^ 64 := Nat.mod_lt _ (by decide)
      unfold numbers
      split
      · intro n hn
        rcases List.mem_cons.mp hn with rfl | hn
        · exact hcounter
        · exact ih hnext n hn
      · exact ih hcounter

/-- Increasing numbers of 64 bits that begin with 1 are fewer than `2 ^ 64`. -/
lemma length_lt_of_increasing {l : List ℕ} (hhead : ∀ n ∈ l.head?, n = 1)
    (hlt : ∀ n ∈ l, n < 2 ^ 64) (hincreasing : l.Pairwise (· < ·)) : l.length < 2 ^ 64 := by
  cases l with
  | nil => exact Nat.two_pow_pos 64
  | cons first rest =>
    obtain rfl : first = 1 := hhead first rfl
    have hpos : ∀ n ∈ (1 :: rest), n ∈ List.range' 1 (2 ^ 64 - 1) := by
      intro n hn
      have hbound := hlt n hn
      have hone : 1 ≤ n := by
        rcases List.mem_cons.mp hn with rfl | hn
        · exact le_rfl
        · exact Nat.le_of_lt (List.rel_of_pairwise_cons hincreasing hn)
      rw [List.mem_range'_1]
      omega
    have hnodup : (1 :: rest).Nodup := hincreasing.imp fun h => Nat.ne_of_lt h
    have hlength := (List.subperm_of_subset hnodup hpos).length_le
    rw [List.length_range'] at hlength
    omega

lemma numbers_of_ended (hended : ∀ before opens after,
    events = before ++ .restart opens :: after → writesIn after = 0)
    (hbound : counter + writesIn events ≤ 2 ^ 64) :
    numbers counter events = List.range' counter (writesIn events) := by
  induction events generalizing counter with
  | nil => rfl
  | cons event events ih =>
    have htail : ∀ before opens after, events = before ++ .restart opens :: after →
        writesIn after = 0 := fun before opens after h =>
      hended (event :: before) opens after (congrArg (event :: ·) h)
    cases event with
    | restart opens =>
      have hnone : writesIn events = 0 := hended [] opens events rfl
      have hsame : writesIn (.restart opens :: events) = writesIn events := by
        simp [writesIn, LifeEvent.isWrite]
      have hempty := List.eq_nil_of_length_eq_zero ((length_numbers 1 events).trans hnone)
      rw [hsame, hnone, numbers, hempty]
      rfl
    | op op =>
      unfold numbers
      cases hwrite : (LifeEvent.op op).isWrite with
      | false =>
        have hsame : writesIn (.op op :: events) = writesIn events := by simp [writesIn, hwrite]
        rw [hsame] at hbound ⊢
        exact ih htail hbound
      | true =>
        have hmore : writesIn (.op op :: events) = writesIn events + 1 := by
          simp [writesIn, hwrite]
        rw [hmore] at hbound ⊢
        rw [if_pos rfl, List.range'_succ]
        by_cases hlast : writesIn events = 0
        · rw [hlast, List.eq_nil_of_length_eq_zero ((length_numbers _ events).trans hlast)]
          rfl
        · have hnext : fetchAdd counter 1 = counter + 1 := Nat.mod_eq_of_lt (by omega)
          rw [hnext, ih htail (by omega)]

lemma numbers_of_oneLife (hlife : OneLife events) (hbound : writesIn events < 2 ^ 64) :
    numbers 1 events = List.range' 1 (writesIn events) := by
  induction events with
  | nil => rfl
  | cons event events ih =>
    have htail (hnone : writesIn [event] = 0) : OneLife events := by
      intro before opens after h
      have hsplit := hlife (event :: before) opens after (congrArg (event :: ·) h)
      rw [show event :: before = [event] ++ before from rfl] at hsplit
      unfold writesIn at hnone hsplit ⊢
      rw [List.countP_append] at hsplit
      omega
    cases hwrite : event.isWrite with
    | true =>
      refine numbers_of_ended (fun before opens after h => ?_) (by omega)
      cases before with
      | nil =>
        obtain ⟨rfl, -⟩ := List.cons.inj h
        exact absurd hwrite (by simp [LifeEvent.isWrite])
      | cons first before =>
        obtain ⟨rfl, -⟩ := List.cons.inj h
        refine (hlife _ opens after h).resolve_left ?_
        simp [writesIn, hwrite]
    | false =>
      have hnone : writesIn [event] = 0 := by simp [writesIn, hwrite]
      have hsame : writesIn (event :: events) = writesIn events := by simp [writesIn, hwrite]
      rw [hsame] at hbound ⊢
      rw [← ih (htail hnone) hbound]
      cases event with
      | restart opens => rfl
      | op op => simp [numbers, hwrite]

lemma increasing_numbers_iff : (numbers 1 events).Pairwise (· < ·) ↔
    OneLife events ∧ writesIn events < 2 ^ 64 := by
  constructor
  · intro hincreasing
    refine ⟨fun before opens after hsplit => ?_, ?_⟩
    · by_contra hboth
      rw [not_or] at hboth
      rw [hsplit, numbers_append, List.pairwise_append] at hincreasing
      obtain ⟨-, -, hless⟩ := hincreasing
      -- Both lives give out the number 1.
      have hone {events : List LifeEvent} (h : writesIn events ≠ 0) : 1 ∈ numbers 1 events := by
        rw [← length_numbers 1] at h
        obtain ⟨first, rest, heq⟩ := List.exists_cons_of_length_pos (Nat.pos_of_ne_zero h)
        have hfirst := head_numbers events first (by rw [heq]; rfl)
        rw [heq, hfirst]
        exact List.mem_cons_self
      exact Nat.lt_irrefl 1 (hless 1 (hone hboth.1) 1 (hone hboth.2))
    · rw [← length_numbers 1]
      exact length_lt_of_increasing (head_numbers events) (numbers_lt (by decide)) hincreasing
  · rintro ⟨hlife, hbound⟩
    rw [numbers_of_oneLife hlife hbound]
    exact List.pairwise_lt_range'

end Numbers

/-! ## The books of all lives -/

lemma writes_eq_nil_iff (op : BufferOp) (b : EdgeBuffer) :
    op.writes b = [] ↔ (LifeEvent.op op).isWrite = false := by
  cases op <;> simp [BufferOp.writes, LifeEvent.isWrite]

lemma db_perform_of_none (op : BufferOp) {b : EdgeBuffer} (h : b.db = none) :
    (op.perform b).db = none := by
  have hexpire {b : EdgeBuffer} (env : WriteEnv) (h : b.db = none) :
      (b.evictExpired env).db = none := by
    have hkept : (EdgeBuffer.evictWhile (EdgeBuffer.frontExpired env.clock.instant)
        b.buffer.length b).db = none := (EdgeBuffer.sameBeyondMemory_evictWhile _ _ _).db.trans h
    unfold EdgeBuffer.evictExpired EdgeBuffer.evictExpiredSqlite
    rw [hkept]
    exact hkept
  have hupdate {rowId : ℤ} {ok : Bool} {f : SqliteRow → SqliteRow}
      {hf : ∀ row, (f row).id = row.id} : b.updateRow rowId ok f hf = none := by
    unfold EdgeBuffer.updateRow
    rw [h]
  cases op with
  | write data dataType env =>
    have hnext : (b.nextSequence.evictExpired env).db = none := hexpire env h
    show (b.write data dataType env).2.db = none
    cases hfull : (b.nextSequence.evictExpired env).memoryFull data.length with
    | false =>
      rw [EdgeBuffer.write_fits hfull]
      exact hnext
    | true =>
      -- Without a database nothing can be spilled.
      rw [EdgeBuffer.write_evicts hfull (by simp [hnext])]
      exact (EdgeBuffer.sameBeyondMemory_evictWhile _ _ _).db.trans hnext
  | read count => exact h
  | drain now pendingOk => exact (db_drain b now pendingOk).trans h
  | drainByType dataType => exact h
  | markSent rowId nowSecs ok =>
    show ((b.updateRow rowId ok _ _).getD b).db = none
    rw [hupdate]
    exact h
  | markRetry rowId ok =>
    show ((b.updateRow rowId ok _ _).getD b).db = none
    rw [hupdate]
    exact h
  | deleteAllBacklog ok =>
    show (if ok then b.db.map SqliteDb.deleteAll else b.db) = none
    rw [h]
    simp
  | evictOldest =>
    show (b.evictOldest.getD b).db = none
    cases hevict : b.evictOldest with
    | none => exact h
    | some b' =>
      obtain ⟨-, -, -, -, -, hdb, -⟩ := EdgeBuffer.evictOldest_eq_some hevict
      exact hdb.trans h
  | evictExpired env => exact hexpire env h

namespace Lives

variable {t : Lives}

lemma numbers_step (t : Lives) (event : LifeEvent) (events : List LifeEvent) :
    (t.step event).tracked.ledger.written.map Datum.sequenceNumber ++
        numbers (t.step event).tracked.buffer.sequenceCounter events =
      t.tracked.ledger.written.map Datum.sequenceNumber ++
        numbers t.tracked.buffer.sequenceCounter (event :: events) := by
  cases event with
  | restart opens => rfl
  | op op =>
    show List.map _ (t.tracked.ledger.written ++ op.writes t.tracked.buffer) ++
      numbers (op.perform t.tracked.buffer).sequenceCounter events = _
    rw [List.map_append, List.append_assoc, numbers]
    rcases sequenceCounter_perform op t.tracked.buffer with ⟨hnothing, hsame⟩ | ⟨hone, hnext⟩
    · rw [hnothing, hsame, (writes_eq_nil_iff op t.tracked.buffer).mp hnothing]
      rfl
    · have hwrite : (LifeEvent.op op).isWrite = true := by
        by_contra hread
        rw [Bool.not_eq_true, ← writes_eq_nil_iff op t.tracked.buffer] at hread
        simp [hread] at hone
      rw [hone, hnext, if_pos hwrite]
      rfl

lemma numbers_run (events : List LifeEvent) :
    (events.foldl step t).tracked.ledger.written.map Datum.sequenceNumber =
      t.tracked.ledger.written.map Datum.sequenceNumber ++
        numbers t.tracked.buffer.sequenceCounter events := by
  induction events generalizing t with
  | nil => simp [numbers]
  | cons event events ih => rw [List.foldl_cons, ih, numbers_step]

lemma rowData_eq (b : EdgeBuffer) : b.rowData = fileData b.db := by
  unfold EdgeBuffer.rowData EdgeBuffer.pendingRows fileData
  cases b.db <;> rfl

/-- What was written is in one of the places, and the file is open or not. -/
structure Accounted (t : Lives) : Prop where
  written : t.tracked.ledger.written.Perm t.places
  closed : t.closed = none ∨ t.tracked.buffer.db = none

lemma accounted_start (config : EdgeBufferConfig) (path opens : Bool) :
    (start config path opens).Accounted := by
  cases path <;> cases opens <;> exact ⟨.refl _, by simp [start, Tracked.new, EdgeBuffer.new]⟩

lemma accounted_step (h : t.Accounted) (event : LifeEvent) : (t.step event).Accounted := by
  cases event with
  | op op =>
    refine ⟨List.perm_iff_count.mpr fun d => ?_, h.closed.imp_right (db_perform_of_none op)⟩
    have hbefore := h.written.count_eq d
    have hop := count_perform op t.tracked.buffer d
    show List.count d (t.tracked.ledger.written ++ op.writes t.tracked.buffer) =
      List.count d ((op.perform t.tracked.buffer).memoryData ++
        (op.perform t.tracked.buffer).rowData ++ (t.tracked.ledger.returned ++ _) ++
          (t.tracked.ledger.removed ++ _) ++ t.closedData)
    simp only [places, Tracked.places, List.count_append] at hbefore ⊢
    omega
  | restart opens =>
    -- The rows of the file are those of the open or of the closed file of before.
    have hrows : (t.restart opens).tracked.buffer.rowData ++ (t.restart opens).closedData =
        t.tracked.buffer.rowData ++ t.closedData := by
      have hfile : fileData t.file = t.tracked.buffer.rowData ++ t.closedData := by
        rcases h.closed with hclosed | hdb
        · simp [file, closedData, hclosed, fileData, rowData_eq]
        · simp [file, closedData, hdb, fileData, rowData_eq]
      rw [← hfile]
      cases opens with
      | true =>
        rw [rowData_eq]
        exact List.append_nil _
      | false => rfl
    refine ⟨List.perm_iff_count.mpr fun d => ?_, ?_⟩
    swap
    · cases opens <;> simp [step, restart, EdgeBuffer.new]
    have hbefore := h.written.count_eq d
    have hfile := congrArg (List.count d) hrows
    show List.count d t.tracked.ledger.written = List.count d ([] ++
      (t.restart opens).tracked.buffer.rowData ++ t.tracked.ledger.returned ++
        (t.tracked.ledger.removed ++ t.tracked.buffer.memoryData) ++ (t.restart opens).closedData)
    simp only [places, Tracked.places, List.count_append, List.count_nil] at hbefore hfile ⊢
    omega

end Lives

/-- Over all lives of the agent on one SQLite file, no two entries that were ever in the buffer
have one sequence number and later writes get larger ones, if and only if all writes fall into one
life and are fewer than `2 ^ 64`. -/
theorem sequence_numbers_unique_iff (config : EdgeBufferConfig) (path opens : Bool)
    (events : List LifeEvent) :
    (events.foldl Lives.step (.start config path opens)).NumbersUnique ↔
      OneLife events ∧ writesIn events < 2 ^ 64 := by
  have haccounted : (events.foldl Lives.step (.start config path opens)).Accounted :=
    List.foldlRecOn events Lives.step (Lives.accounted_start config path opens)
      fun t h event _ => Lives.accounted_step h event
  have hnumbers : (events.foldl Lives.step
      (.start config path opens)).tracked.ledger.written.map Datum.sequenceNumber =
        numbers 1 events := by
    have hnothing : (Lives.start config path opens).tracked.ledger.written = [] := by
      cases path <;> cases opens <;> rfl
    rw [Lives.numbers_run, hnothing]
    rfl
  rw [Lives.NumbersUnique, hnumbers, increasing_numbers_iff, and_iff_right_iff_imp,
    ← increasing_numbers_iff, ← hnumbers, ← (haccounted.written.map _).nodup_iff]
  exact fun h => h.imp fun h => Nat.ne_of_lt h

/-- One entry is spilled before a restart and one after it; both rows are pending. -/
theorem number_reused :
    let spill : LifeEvent := .op (.write [1] .metrics ⟨⟨0, 0⟩, true, true⟩)
    let t := [spill, .restart true, spill].foldl Lives.step (.start ⟨0, 10, 10 ^ 9, 100⟩ true true)
    t.tracked.buffer.rowData.map Datum.sequenceNumber = [1, 1] ∧ ¬ t.NumbersUnique := by
  constructor
  · decide +kernel
  · rintro ⟨hnodup, -⟩
    exact absurd hnodup (by decide +kernel)

end Paryty.Agent

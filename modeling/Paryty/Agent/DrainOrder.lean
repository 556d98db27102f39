import Paryty.Agent.LivePathTheorems

/-!
# The order of a drain

`drain` of `agent/src/communication/edge_buffer.rs` returns the entries in memory first and then
the spilled ones, at most 1000 of them, ordered by the second in which they were spilled. A write
goes to memory whenever it fits there, also while older entries wait in SQLite. `Follows` is what
a write has to meet so that a drain still returns everything in the order of the writes, and
`drains_in_order_iff` says that it is exactly that.
-/

namespace Paryty.Agent

/-! ## Stable sorting -/

section StableSort

variable {α : Type*} {r : α → α → Prop} [DecidableRel r] [IsTrans α r]

/-- Inserting into a sorted list keeps an ascending order of `f` exactly if the element is on the
right side of all others. -/
lemma ascending_orderedInsert_iff {f : α → ℕ} {s : List α} (hs : s.Pairwise r) (a : α) :
    (s.orderedInsert r a).Pairwise (fun a b => f a < f b) ↔
      (∀ b ∈ s, if r a b then f a < f b else f b < f a) ∧ s.Pairwise (fun a b => f a < f b) := by
  induction s with
  | nil => simp
  | cons b s ih =>
    obtain ⟨hb, hs⟩ := List.pairwise_cons.mp hs
    by_cases hab : r a b
    · -- the element comes first, before everything that follows `b` too
      have hall : ∀ x ∈ b :: s, r a x := by
        intro x hx
        cases List.mem_cons.mp hx with
        | inl heq => exact heq ▸ hab
        | inr hx => exact IsTrans.trans a b x hab (hb x hx)
      rw [List.orderedInsert_cons_of_le r s hab, List.pairwise_cons]
      refine and_congr_left fun _ => forall₂_congr fun x hx => ?_
      rw [if_pos (hall x hx)]
    · rw [List.orderedInsert_of_not_le r s hab, List.pairwise_cons, ih hs, List.pairwise_cons]
      simp only [List.mem_orderedInsert, List.mem_cons, forall_eq_or_imp, if_neg hab]
      tauto

/-- Sorting by `r` puts a list in strictly ascending order of `f` exactly if of any two elements
the one is smaller that `r` puts first, or that comes first if `r` does not tell them apart. -/
lemma ascending_insertionSort_iff [Std.Total r] {f : α → ℕ} (l : List α) :
    (l.insertionSort r).Pairwise (fun a b => f a < f b) ↔
      l.Pairwise (fun a b => if r a b then f a < f b else f b < f a) := by
  induction l with
  | nil => simp
  | cons a l ih =>
    rw [List.insertionSort_cons, ascending_orderedInsert_iff (List.pairwise_insertionSort r l), ih,
      List.pairwise_cons]
    simp only [List.mem_insertionSort]

end StableSort

instance : Std.Total SqliteRow.drainsBefore where
  total row row' := by
    unfold SqliteRow.drainsBefore
    omega

instance : IsTrans SqliteRow SqliteRow.drainsBefore where
  trans row row' row'' h h' := by
    unfold SqliteRow.drainsBefore at *
    omega

namespace EdgeBuffer

variable {b b' : EdgeBuffer}

/-! ## Draining in the order of the writes -/

/-- A drain returns everything that remains, in the order of the sequence numbers, and the next
write takes a number beyond all of them. When SQLite cannot be read, what is in memory is
returned in that order. -/
structure Replays (b : EdgeBuffer) : Prop where
  all : ∀ now, (b.drain now true).1.Perm (b.buffer ++ b.unsentEntries now)
  ascending : ∀ now ok, (b.drain now ok).1.Pairwise
    (fun entry entry' => entry.sequenceNumber < entry'.sequenceNumber)
  next : ∀ now, ∀ entry ∈ b.buffer ++ b.unsentEntries now, entry.sequenceNumber < b.sequenceCounter

/-- The same of the entries in memory and the rows, without sorting. -/
structure InOrder (b : EdgeBuffer) : Prop where
  batch : b.pendingRows.length ≤ SQLITE_DRAIN_BATCH_SIZE
  memory : b.buffer.Pairwise (fun entry entry' => entry.sequenceNumber < entry'.sequenceNumber)
  rows : b.pendingRows.Pairwise (fun row row' =>
    if row.drainsBefore row' then row.data.sequenceNumber < row'.data.sequenceNumber
    else row'.data.sequenceNumber < row.data.sequenceNumber)
  memoryFirst : ∀ entry ∈ b.buffer, ∀ row ∈ b.pendingRows,
    entry.sequenceNumber < row.data.sequenceNumber
  nextEntry : ∀ entry ∈ b.buffer, entry.sequenceNumber < b.sequenceCounter
  nextRow : ∀ row ∈ b.pendingRows, row.data.sequenceNumber < b.sequenceCounter

lemma drainedRows_eq (b : EdgeBuffer) (now : ℕ) :
    b.drainedRows now true =
      ((b.pendingRows.insertionSort SqliteRow.drainsBefore).take SQLITE_DRAIN_BATCH_SIZE).map
        (SqliteRow.toEntry now) := by
  unfold drainedRows pendingRows
  cases b.db with
  | none => rfl
  | some db => rfl

lemma ascending_drainedRows_iff (now : ℕ)
    (hbatch : b.pendingRows.length ≤ SQLITE_DRAIN_BATCH_SIZE) :
    (b.drainedRows now true).Pairwise
        (fun entry entry' => entry.sequenceNumber < entry'.sequenceNumber) ↔
      b.pendingRows.Pairwise (fun row row' =>
        if row.drainsBefore row' then row.data.sequenceNumber < row'.data.sequenceNumber
        else row'.data.sequenceNumber < row.data.sequenceNumber) := by
  have htake : (b.pendingRows.insertionSort SqliteRow.drainsBefore).take SQLITE_DRAIN_BATCH_SIZE =
      b.pendingRows.insertionSort SqliteRow.drainsBefore := by
    rw [List.take_of_length_le]
    rw [List.length_insertionSort]
    exact hbatch
  rw [drainedRows_eq, htake, List.pairwise_map]
  exact ascending_insertionSort_iff _

/-- The entries a drain reads from SQLite are those of the rows, if they are no more than one drain
reads. -/
lemma mem_drainedRows (now : ℕ) (hbatch : b.pendingRows.length ≤ SQLITE_DRAIN_BATCH_SIZE) :
    (b.drainedRows now true).Perm (b.unsentEntries now) := by
  rw [drainedRows_eq, unsentEntries_eq, List.take_of_length_le]
  · exact (List.perm_insertionSort _ _).map _
  · rw [List.length_insertionSort]
    exact hbatch

lemma InOrder.replays (h : b.InOrder) : b.Replays where
  all := by
    intro now
    rw [drain_fst]
    exact (mem_drainedRows now h.batch).append_left _
  ascending := by
    intro now ok
    rw [drain_fst, List.pairwise_append]
    have hrows : (b.drainedRows now ok).Pairwise
          (fun entry entry' => entry.sequenceNumber < entry'.sequenceNumber) ∧
        ∀ entry ∈ b.drainedRows now ok, entry ∈ b.unsentEntries now := by
      cases ok with
      | true =>
        exact ⟨(ascending_drainedRows_iff now h.batch).mpr h.rows,
          fun entry hentry => (mem_drainedRows now h.batch).subset hentry⟩
      | false =>
        have hnone : b.drainedRows now false = [] := by
          unfold drainedRows
          cases b.db <;> rfl
        rw [hnone]
        exact ⟨List.Pairwise.nil, fun entry hentry => absurd hentry List.not_mem_nil⟩
    refine ⟨h.memory, hrows.1, ?_⟩
    intro entry hentry entry' hentry'
    have hunsent := hrows.2 entry' hentry'
    rw [unsentEntries_eq] at hunsent
    obtain ⟨row, hrow, rfl⟩ := List.mem_map.mp hunsent
    exact h.memoryFirst entry hentry row hrow
  next := by
    intro now entry hentry
    cases List.mem_append.mp hentry with
    | inl hmemory => exact h.nextEntry entry hmemory
    | inr hunsent =>
      rw [unsentEntries_eq] at hunsent
      obtain ⟨row, hrow, rfl⟩ := List.mem_map.mp hunsent
      exact h.nextRow row hrow

lemma Replays.inOrder (h : b.Replays) : b.InOrder := by
  have hbatch : b.pendingRows.length ≤ SQLITE_DRAIN_BATCH_SIZE := by
    have hlength := (h.all 0).length_eq
    rw [drain_fst, drainedRows_eq, unsentEntries_eq, List.length_append, List.length_append,
      List.length_map, List.length_map, List.length_take, List.length_insertionSort] at hlength
    omega
  have hascending := h.ascending 0 true
  rw [drain_fst, List.pairwise_append] at hascending
  obtain ⟨hmemory, hrows, hcross⟩ := hascending
  have hentry : ∀ row ∈ b.pendingRows, row.toEntry 0 ∈ b.unsentEntries 0 := by
    intro row hrow
    rw [unsentEntries_eq]
    exact List.mem_map_of_mem hrow
  constructor
  case batch => exact hbatch
  case memory => exact hmemory
  case rows => exact (ascending_drainedRows_iff 0 hbatch).mp hrows
  case memoryFirst =>
    intro entry hmem row hrow
    exact hcross entry hmem _ ((mem_drainedRows 0 hbatch).mem_iff.mpr (hentry row hrow))
  case nextEntry =>
    intro entry hmem
    exact h.next 0 entry (List.mem_append_left _ hmem)
  case nextRow =>
    intro row hrow
    exact h.next 0 _ (List.mem_append_right _ (hentry row hrow))

lemma replays_iff_inOrder : b.Replays ↔ b.InOrder := ⟨Replays.inOrder, InOrder.replays⟩

/-! ## Writes and reads -/

end EdgeBuffer

/-- A write, with what it meets outside, or a read. -/
inductive Access
  | write (data : Bytes) (dataType : DataType) (env : WriteEnv)
  | read (count : ℕ)
deriving DecidableEq

namespace EdgeBuffer

variable {b b' : EdgeBuffer}

/-- The buffer after a call. -/
def after (b : EdgeBuffer) : Access → EdgeBuffer
  | .write data dataType env => (b.write data dataType env).2
  | .read count => (b.read count).2

/-- The spilled entries that still wait when a write places its entry: what has expired is
deleted before. -/
def waiting (b : EdgeBuffer) (env : WriteEnv) : List SqliteRow :=
  b.pendingRows.filter (fun row => !b.expires env row)

/-- A write goes to memory only when no spilled entry waits; it spills only when fewer wait than a
drain reads, and none that would be drained after it. Its number is not the last. -/
def Follows (b : EdgeBuffer) : Access → Prop
  | .write data dataType env =>
    b.sequenceCounter + 1 < 2 ^ 64 ∧
      if b.spills data.length env then
        (b.waiting env).length < SQLITE_DRAIN_BATCH_SIZE ∧
          ∀ row ∈ b.waiting env, row.drainsBefore (b.newRow data dataType env)
      else b.waiting env = []
  | .read _ => True

lemma InOrder.forget (h : b.InOrder) {memory : List BufferEntry} {rows : List SqliteRow}
    (hmemory : memory.Sublist b.buffer) (hrows : rows.Sublist b.pendingRows)
    (hbuffer : b'.buffer = memory) (hpending : b'.pendingRows = rows)
    (hcounter : b'.sequenceCounter = b.sequenceCounter) : b'.InOrder := by
  subst hbuffer hpending
  constructor
  case batch => exact hrows.length_le.trans h.batch
  case memory => exact h.memory.sublist hmemory
  case rows => exact h.rows.sublist hrows
  case memoryFirst =>
    intro entry hentry row hrow
    exact h.memoryFirst entry (hmemory.subset hentry) row (hrows.subset hrow)
  case nextEntry =>
    intro entry hentry
    rw [hcounter]
    exact h.nextEntry entry (hmemory.subset hentry)
  case nextRow =>
    intro row hrow
    rw [hcounter]
    exact h.nextRow row (hrows.subset hrow)

lemma InOrder.read (h : b.InOrder) (count : ℕ) : (b.after (.read count)).InOrder :=
  h.forget (List.drop_sublist _ _) (List.Sublist.refl _) rfl rfl rfl

lemma sequenceCounter_write (b : EdgeBuffer) (data : Bytes) (dataType : DataType) (env : WriteEnv) :
    (b.write data dataType env).2.sequenceCounter = fetchAdd b.sequenceCounter 1 := by
  cases sequenceCounter_perform (.write data dataType env) b with
  | inl h => exact absurd h.1 (by simp [BufferOp.writes])
  | inr h => exact h.2

lemma lt_fetchAdd_iff {n : ℕ} : n < fetchAdd n 1 ↔ n + 1 < 2 ^ 64 := by
  unfold fetchAdd
  constructor
  · intro h
    by_contra hwrap
    have hmod := Nat.mod_lt (n + 1) (Nat.two_pow_pos 64)
    omega
  · intro h
    rw [Nat.mod_eq_of_lt h]
    omega

lemma InOrder.live (h : b.InOrder) (size : ℕ) (env : WriteEnv) :
    (∀ entry ∈ b.buffer.drop (b.evictedCount size env),
        entry.sequenceNumber < b.sequenceCounter) ∧
      (∀ row ∈ b.waiting env, row.data.sequenceNumber < b.sequenceCounter) ∧
      ∀ entry ∈ b.buffer.drop (b.evictedCount size env), ∀ row ∈ b.waiting env,
        entry.sequenceNumber < row.data.sequenceNumber := by
  have hrow : ∀ row ∈ b.waiting env, row ∈ b.pendingRows := fun row hrow =>
    (List.mem_filter.mp hrow).1
  refine ⟨fun entry hentry => h.nextEntry entry (List.mem_of_mem_drop hentry),
    fun row hmem => h.nextRow row (hrow row hmem), ?_⟩
  intro entry hentry row hmem
  exact h.memoryFirst entry (List.mem_of_mem_drop hentry) row (hrow row hmem)

lemma inOrder_write_memory_iff (h : b.InOrder) {data : Bytes} {dataType : DataType}
    {env : WriteEnv} (hspills : b.spills data.length env = false) :
    (b.write data dataType env).2.InOrder ↔
      b.sequenceCounter + 1 < 2 ^ 64 ∧ b.waiting env = [] := by
  obtain ⟨hbuffer, hrows⟩ := write_spec b data dataType env
  have hcounter := sequenceCounter_write b data dataType env
  obtain ⟨hentries, hwaiting, hcross⟩ := h.live data.length env
  rw [hspills] at hbuffer hrows
  simp only [Bool.false_eq_true, if_false, List.append_nil] at hbuffer hrows
  change _ = b.waiting env at hrows
  have hnew : (b.newEntry data dataType env).sequenceNumber = b.sequenceCounter := rfl
  constructor
  · intro hnext
    have hmem : b.newEntry data dataType env ∈ (b.write data dataType env).2.buffer := by
      rw [hbuffer]
      exact List.mem_append_right _ (List.mem_singleton_self _)
    constructor
    · have hlt := hnext.nextEntry _ hmem
      rw [hcounter, hnew] at hlt
      exact lt_fetchAdd_iff.mp hlt
    · rw [List.eq_nil_iff_forall_not_mem]
      intro row hrow
      -- A row that waits is older, but it is drained after the new entry.
      have hafter := hnext.memoryFirst _ hmem row (by rw [hrows]; exact hrow)
      have hbefore := hwaiting row hrow
      omega
  · intro hcond
    obtain ⟨hwrap, hnone⟩ := hcond
    rw [hnone] at hrows
    have hnext := lt_fetchAdd_iff.mpr hwrap
    constructor
    case batch =>
      rw [hrows]
      exact Nat.zero_le _
    case memory =>
      rw [hbuffer, List.pairwise_append]
      refine ⟨h.memory.sublist (List.drop_sublist _ _), List.pairwise_singleton _ _, ?_⟩
      intro entry hentry entry' hentry'
      rw [List.mem_singleton.mp hentry', hnew]
      exact hentries entry hentry
    case rows =>
      rw [hrows]
      exact List.Pairwise.nil
    case memoryFirst =>
      intro entry _ row hrow
      rw [hrows] at hrow
      exact absurd hrow List.not_mem_nil
    case nextEntry =>
      intro entry hentry
      rw [hbuffer] at hentry
      rw [hcounter]
      cases List.mem_append.mp hentry with
      | inl hold => exact (hentries entry hold).trans hnext
      | inr hlast =>
        rw [List.mem_singleton.mp hlast, hnew]
        exact hnext
    case nextRow =>
      intro row hrow
      rw [hrows] at hrow
      exact absurd hrow List.not_mem_nil

lemma inOrder_write_spills_iff (h : b.InOrder) {data : Bytes} {dataType : DataType}
    {env : WriteEnv} (hspills : b.spills data.length env = true) :
    (b.write data dataType env).2.InOrder ↔ b.sequenceCounter + 1 < 2 ^ 64 ∧
      (b.waiting env).length < SQLITE_DRAIN_BATCH_SIZE ∧
        ∀ row ∈ b.waiting env, row.drainsBefore (b.newRow data dataType env) := by
  obtain ⟨hbuffer, hrows⟩ := write_spec b data dataType env
  have hcounter := sequenceCounter_write b data dataType env
  obtain ⟨hentries, hwaiting, hcross⟩ := h.live data.length env
  rw [hspills] at hbuffer hrows
  simp only [if_true, List.append_nil] at hbuffer hrows
  change _ = b.waiting env ++ _ at hrows
  have hnew : (b.newRow data dataType env).data.sequenceNumber = b.sequenceCounter := rfl
  have hlength : (b.write data dataType env).2.pendingRows.length = (b.waiting env).length + 1 := by
    rw [hrows, List.length_append, List.length_singleton]
  constructor
  · intro hnext
    have hmem : b.newRow data dataType env ∈ (b.write data dataType env).2.pendingRows := by
      rw [hrows]
      exact List.mem_append_right _ (List.mem_singleton_self _)
    refine ⟨?_, ?_, ?_⟩
    · have hlt := hnext.nextRow _ hmem
      rw [hcounter, hnew] at hlt
      exact lt_fetchAdd_iff.mp hlt
    · have hbatch := hnext.batch
      omega
    · intro row hrow
      have hordered := hnext.rows
      rw [hrows, List.pairwise_append] at hordered
      have hlast := hordered.2.2 row hrow _ (List.mem_singleton_self _)
      have hbefore := hwaiting row hrow
      -- A row that waits is older than the new one.
      by_contra hafter
      rw [if_neg hafter, hnew] at hlast
      omega
  · intro hcond
    obtain ⟨hwrap, hbatch, hlast⟩ := hcond
    have hnext := lt_fetchAdd_iff.mpr hwrap
    constructor
    case batch => omega
    case memory =>
      rw [hbuffer]
      exact h.memory.sublist (List.drop_sublist _ _)
    case rows =>
      rw [hrows, List.pairwise_append]
      refine ⟨h.rows.sublist List.filter_sublist, List.pairwise_singleton _ _, ?_⟩
      intro row hrow row' hrow'
      rw [List.mem_singleton.mp hrow', if_pos (hlast row hrow), hnew]
      exact hwaiting row hrow
    case memoryFirst =>
      intro entry hentry row hrow
      rw [hbuffer] at hentry
      rw [hrows] at hrow
      cases List.mem_append.mp hrow with
      | inl hold => exact hcross entry hentry row hold
      | inr hrow =>
        rw [List.mem_singleton.mp hrow, hnew]
        exact hentries entry hentry
    case nextEntry =>
      intro entry hentry
      rw [hbuffer] at hentry
      rw [hcounter]
      exact (hentries entry hentry).trans hnext
    case nextRow =>
      intro row hrow
      rw [hrows] at hrow
      rw [hcounter]
      cases List.mem_append.mp hrow with
      | inl hold => exact (hwaiting row hold).trans hnext
      | inr hrow =>
        rw [List.mem_singleton.mp hrow, hnew]
        exact hnext

lemma replays_after_iff (h : b.Replays) (access : Access) :
    (b.after access).Replays ↔ b.Follows access := by
  rw [replays_iff_inOrder] at h ⊢
  cases access with
  | read count => exact iff_of_true (h.read count) trivial
  | write data dataType env =>
    show (b.write data dataType env).2.InOrder ↔
      b.sequenceCounter + 1 < 2 ^ 64 ∧ if b.spills data.length env then _ else _
    cases hspills : b.spills data.length env with
    | false => exact inOrder_write_memory_iff h hspills
    | true => exact inOrder_write_spills_iff h hspills

/-- Along a sequence of writes and reads of a buffer with SQLite, a drain returns everything that
remains in the order of the writes, in every state, exactly if the buffer starts so and every write
follows what remains. -/
theorem drains_in_order_iff (config : EdgeBufferConfig) (db : SqliteDb) (accesses : List Access) :
    Lib.Always after Replays (new config (some db)) accesses ↔
      (new config (some db)).Replays ∧
        Lib.Allowed after Follows (new config (some db)) accesses := by
  by_cases hstart : (new config (some db)).Replays
  · have hrun : Lib.Always after Replays (new config (some db)) accesses ↔
        Lib.Allowed after Follows (new config (some db)) accesses := by
      refine Lib.always_iff_allowed (I := fun _ => True) (fun _ _ _ => trivial) ?_ trivial ?_ _
      · intro b access _ h
        exact replays_after_iff h access
      · exact hstart
    exact hrun.trans (and_iff_right hstart).symm
  · refine iff_of_false ?_ (fun h => hstart h.1)
    intro h
    cases accesses with
    | nil => exact hstart h
    | cons access accesses => exact hstart h.1

/-- A write of some bytes that nothing goes wrong with. -/
def plainWrite (size : ℕ) : Access :=
  .write (List.replicate size 0) .metrics { clock := ⟨0, 1000⟩ }

/-- Room for 40 bytes: the second write spills, the third fits into memory. -/
def largeThenSmall : List Access := [plainWrite 30, plainWrite 25, plainWrite 5]

/-- The third entry is drained before the second. -/
theorem drains_out_of_order :
    ¬ ∀ config accesses, Lib.Always after Replays
      (new config (some SqliteDb.init)) accesses := by
  intro hall
  have hlast := (hall { EdgeBufferConfig.default with maxMemoryBytes := 40 } largeThenSmall).foldl
  have hdrained : ((largeThenSmall.foldl after
      (new { EdgeBufferConfig.default with maxMemoryBytes := 40 } (some SqliteDb.init))).drain 0
        true).1.map BufferEntry.sequenceNumber = [1, 3, 2] := by
    decide +kernel
  have hascending := List.pairwise_map.mpr (hlast.ascending 0 true)
  rw [hdrained] at hascending
  exact absurd hascending (by decide)

end EdgeBuffer

end Paryty.Agent

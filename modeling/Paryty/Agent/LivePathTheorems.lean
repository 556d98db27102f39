import Paryty.Agent.LedgerTheorems
import Paryty.Agent.LivePath

/-!
# Delivery on the live path

Data gets to the cluster in a batch only, and at most once. It is lost where a call gives up before
it is buffered, a batch is sent without it, a write evicts it, or a flush takes it out of the buffer
and puts it into a channel that nobody reads. `Accounts.Admits` is what a call has to meet so that
none of this does harm, and `live_path_settled_iff` says that it is exactly that.
-/

namespace Paryty.Agent

/-! ## What a write does to the buffer -/

namespace EdgeBuffer

variable {b : EdgeBuffer}

lemma buffer_evictWhile (p : EdgeBuffer → Bool) (n : ℕ) (b : EdgeBuffer) :
    (evictWhile p n b).buffer = b.buffer.drop (evictedWhile p n b).length := by
  rw [← evictedWhile_append p n b, List.drop_left]

lemma buffer_evictExpired (b : EdgeBuffer) (env : WriteEnv) : (b.evictExpired env).buffer =
    b.buffer.drop (b.expiredEntries env.clock.instant).length :=
  (evictExpiredSqlite_memory _ env).1.trans (buffer_evictWhile _ _ b)

/-- The row is one that a write deletes. -/
def expires (b : EdgeBuffer) (env : WriteEnv) (row : SqliteRow) : Bool :=
  env.evictOk && row.createdAt < b.cutoff env

lemma expiredRows_eq (b : EdgeBuffer) (env : WriteEnv) :
    b.expiredRows env = b.pendingRows.filter (b.expires env) := by
  unfold expiredRows expires
  cases env.evictOk with
  | false => simp
  | true => simp

lemma pendingRows_evictExpired (b : EdgeBuffer) (env : WriteEnv) : (b.evictExpired env).pendingRows =
    b.pendingRows.filter (fun row => !b.expires env row) := by
  let kept := evictWhile (frontExpired env.clock.instant) b.buffer.length b
  have hsame : SameBeyondMemory b kept := sameBeyondMemory_evictWhile _ _ _
  show (kept.evictExpiredSqlite env).pendingRows = _
  unfold evictExpiredSqlite expires
  rw [hsame.db, hsame.config]
  cases hdb : b.db with
  | none => simp [pendingRows, hsame.db, hdb]
  | some db =>
    rw [pendingRows_of_db hdb]
    cases hok : env.evictOk with
    | false => simp [pendingRows_of_db (hsame.db.trans hdb)]
    | true =>
      simp only [if_true, Bool.true_and]
      exact db.pending_deleteBefore _

lemma nextRowId_evictExpired (b : EdgeBuffer) (env : WriteEnv) :
    (b.evictExpired env).nextRowId = b.nextRowId := by
  let kept := evictWhile (frontExpired env.clock.instant) b.buffer.length b
  have hsame : SameBeyondMemory b kept := sameBeyondMemory_evictWhile _ _ _
  show (kept.evictExpiredSqlite env).nextRowId = _
  unfold evictExpiredSqlite nextRowId
  rw [hsame.db]
  cases hdb : b.db with
  | none => simp [hsame.db, hdb]
  | some db =>
    cases hok : env.evictOk with
    | false => simp [hsame.db, hdb]
    | true => rfl

/-- The row a write that spills inserts. -/
def newRow (b : EdgeBuffer) (data : Bytes) (dataType : DataType) (env : WriteEnv) : SqliteRow where
  id := b.nextRowId
  dataType := dataType.asStr
  data := ⟨b.sequenceCounter, data⟩
  createdAt := env.clock.epochSecs

/-- A write drops the front of memory and what has expired of the rows, and adds one entry or one
row. -/
lemma write_spec (b : EdgeBuffer) (data : Bytes) (dataType : DataType) (env : WriteEnv) :
    (b.write data dataType env).2.buffer = b.buffer.drop (b.evictedCount data.length env) ++
        (if b.spills data.length env then [] else [b.newEntry data dataType env]) ∧
      (b.write data dataType env).2.pendingRows =
        b.pendingRows.filter (fun row => !b.expires env row) ++
          if b.spills data.length env then [b.newRow data dataType env] else [] := by
  let expired := b.nextSequence.evictExpired env
  have hmemory : expired.buffer =
      b.buffer.drop (b.nextSequence.expiredEntries env.clock.instant).length :=
    buffer_evictExpired b.nextSequence env
  have hrows : expired.pendingRows = b.pendingRows.filter (fun row => !b.expires env row) :=
    pendingRows_evictExpired b.nextSequence env
  cases hfull : expired.memoryFull data.length with
  | false =>
    -- There is room, so only what has expired goes.
    have hroom : expired.roomEvicted data.length env = [] := by simp [roomEvicted, hfull]
    have hspills : b.spills data.length env = false := by
      show (expired.memoryFull data.length && _) = false
      rw [hfull, Bool.false_and]
    rw [write_fits hfull, hspills, evictedCount, hroom]
    exact ⟨congrArg (· ++ [_]) hmemory, hrows.trans (List.append_nil _).symm⟩
  | true =>
    by_cases hspill : (expired.db.isSome && env.spillOk) = true
    · obtain ⟨hsome, hok⟩ := Bool.and_eq_true_iff.mp hspill
      obtain ⟨db, hdb⟩ := Option.isSome_iff_exists.mp hsome
      obtain ⟨metrics, -, hwrite⟩ := write_spills dataType hfull hdb hok
      have hroom : expired.roomEvicted data.length env = [] := by simp [roomEvicted, hspill]
      have hspills : b.spills data.length env = true := by
        show (expired.memoryFull data.length && _) = true
        rw [hfull, Bool.true_and, hspill]
      -- Eviction does not change the next row ID.
      have hid : db.sequence + 1 = b.nextRowId := by
        rw [← show expired.nextRowId = b.nextRowId from nextRowId_evictExpired b.nextSequence env,
          nextRowId, hdb]
      rw [pendingRows_of_db hdb] at hrows
      rw [hwrite, hspills, evictedCount, hroom, pendingRows_of_db rfl, SqliteDb.pending_insert,
        hrows, hid]
      exact ⟨hmemory.trans (List.append_nil _).symm, rfl⟩
    · have hfails : (expired.db.isSome && env.spillOk) = false := by simpa using hspill
      have hspills : b.spills data.length env = false := by
        show (expired.memoryFull data.length && _) = false
        rw [hfull, Bool.true_and, hfails]
      have hroom : expired.roomEvicted data.length env =
          evictedWhile (memoryFull data.length) expired.buffer.length expired := by
        simp [roomEvicted, hfull, hfails]
      -- What has expired and what makes room are both at the front.
      have hdrop : (expired.makeRoom data.length).buffer =
          b.buffer.drop (b.evictedCount data.length env) := by
        rw [makeRoom, buffer_evictWhile, ← hroom, hmemory, List.drop_drop]
        rfl
      have hsame : SameBeyondMemory expired (expired.makeRoom data.length) :=
        sameBeyondMemory_evictWhile _ _ _
      rw [write_evicts hfull hfails, hspills]
      exact ⟨congrArg (· ++ [_]) hdrop,
        ((pendingRows_congr hsame.db).trans hrows).trans (List.append_nil _).symm⟩

lemma eq_of_id_eq {row row' : SqliteRow} (h : row ∈ b.pendingRows) (h' : row' ∈ b.pendingRows)
    (hid : row.id = row'.id) : row = row' := by
  unfold pendingRows at h h'
  cases hdb : b.db with
  | none => simp [hdb] at h
  | some db =>
    rw [hdb] at h h'
    exact db.table.eq_of_key_eq (List.mem_filter.mp h).1 (List.mem_filter.mp h').1 hid

lemma ne_nextRowId {row : SqliteRow} (h : row ∈ b.pendingRows) : row.id ≠ b.nextRowId := by
  unfold pendingRows at h
  unfold nextRowId
  cases hdb : b.db with
  | none => simp [hdb] at h
  | some db =>
    rw [hdb] at h
    have hid := db.id_le row (List.mem_filter.mp h).1
    show row.id ≠ db.sequence + 1
    omega

end EdgeBuffer

/-! ## What a flush does to the rows -/

namespace EdgeBuffer

variable {b : EdgeBuffer}

lemma unsentEntries_eq (b : EdgeBuffer) (now : ℕ) :
    b.unsentEntries now = b.pendingRows.map (SqliteRow.toEntry now) := by
  unfold unsentEntries pendingRows
  cases b.db <;> rfl

lemma pendingRows_of_flush {queue : ℕ} {env : FlushEnv} {row : SqliteRow}
    (h : row ∈ (flushBuffer b queue env).buffer.pendingRows) :
    (∃ row₀ ∈ b.pendingRows, row₀.id = row.id ∧ row₀.datum = row.datum) ∧
      ∀ e ∈ acknowledged env 0 queue (b.drain env.clock.instant env.pendingOk).1,
        e.sqliteRowId ≠ some row.id := by
  have hentry : row.toEntry env.clock.instant ∈
      (flushBuffer b queue env).buffer.unsentEntries env.clock.instant := by
    rw [unsentEntries_eq]
    exact List.mem_map_of_mem h
  obtain ⟨hbefore, hunmarked⟩ := (mem_unsentEntries_replay b queue env).mp hentry
  rw [unsentEntries_eq] at hbefore
  obtain ⟨row₀, hrow₀, heq⟩ := List.mem_map.mp hbefore
  exact ⟨⟨row₀, hrow₀, Option.some.inj (congrArg BufferEntry.sqliteRowId heq),
    congrArg BufferEntry.datum heq⟩, hunmarked⟩

lemma pendingRows_flush {queue : ℕ} {env : FlushEnv} {row : SqliteRow} (h : row ∈ b.pendingRows)
    (hunmarked : ∀ e ∈ acknowledged env 0 queue (b.drain env.clock.instant env.pendingOk).1,
      e.sqliteRowId ≠ some row.id) :
    ∃ row' ∈ (flushBuffer b queue env).buffer.pendingRows, row'.id = row.id := by
  have hbefore : row.toEntry env.clock.instant ∈ b.unsentEntries env.clock.instant := by
    rw [unsentEntries_eq]
    exact List.mem_map_of_mem h
  have hafter := (mem_unsentEntries_replay b queue env).mpr ⟨hbefore, hunmarked⟩
  rw [unsentEntries_eq] at hafter
  obtain ⟨row', hrow', heq⟩ := List.mem_map.mp hafter
  exact ⟨row', hrow', Option.some.inj (congrArg BufferEntry.sqliteRowId heq)⟩

end EdgeBuffer

/-! ## What a call does -/

section Send

variable {data : Bytes} {env : SendEnv} {queue : ℕ}

lemma sendLive_eq_waits {compressed : Bytes} (h : env.compress data = some compressed) :
    sendLive data queue env = .waits ↔ env.liveConnected = true ∧
      grpcSend env.liveSends queue = .waits := by
  unfold sendLive
  rw [h]
  cases env.liveConnected <;> simp

lemma send_spec (reads : Bytes → Bool) (b : EdgeBuffer) (queue : ℕ) (data : Bytes) (env : SendEnv)
    (dataType : DataType) :
    let out := dataType.send reads b queue data env
    out.written = env.buffered queue data dataType ∧
      out.buffer = (match env.buffered queue data dataType with
        | none => b
        | some written => (b.write written dataType env.write).2) ∧
      out.deliveries ≤ 1 ∧
      (env.Sound reads queue data dataType ↔
        (out.deliveries = 0 → env.buffered queue data dataType ≠ none)) := by
  cases dataType with
  | metrics =>
    cases hcompress : env.compress data with
    | none => simp [DataType.send, sendMetrics, SendEnv.buffered, SendEnv.Sound, hcompress]
    | some compressed =>
      simp only [DataType.send, sendMetrics, SendEnv.buffered, SendEnv.Sound, hcompress,
        SendEnv.batchAccepted, SendEnv.liveWaits]
      cases env.sampledOut with
      | true => simp
      | false =>
        have hwaits : (if env.identityValid = true then sendLive data queue env else .refused) =
            .waits ↔ (env.identityValid && (env.liveConnected &&
              decide (grpcSend env.liveSends queue = .waits))) = true := by
          cases env.identityValid <;> simp [sendLive_eq_waits hcompress]
        by_cases hlive : (env.identityValid && (env.liveConnected &&
            decide (grpcSend env.liveSends queue = .waits))) = true
        · simp [hwaits, hlive]
        · simp only [hwaits, hlive]
          cases env.connected with
          | false => simp
          | true => cases env.reply with
            | accepted => cases reads data <;> simp
            | rejected => simp
            | failed taken => cases taken <;> cases reads data <;> simp
  | traces =>
    cases hcompress : env.compress data <;>
      simp [DataType.send, sendTraces, SendEnv.buffered, SendEnv.Sound, hcompress, bufferThenSend]
  | events | networkEvents =>
    simp [DataType.send, sendEvents, sendNetworkEvents, SendEnv.buffered, SendEnv.Sound,
      bufferThenSend]

end Send

/-! ## Consistent books -/

namespace Accounts

variable {t : Accounts}

/-- The books say of each entry and row which call it holds the data of, and of each call at most
one entry or row. -/
structure Consistent (t : Accounts) : Prop where
  memory : List.Forall₂ (fun entry c => t.calls[c]? = some (BufferEntry.datum entry).call)
    t.buffer.buffer t.memoryCalls
  memory_nodup : t.memoryCalls.Nodup
  rows : ∀ row ∈ t.buffer.pendingRows, ∀ c, t.rowCalls row.id = some c →
    t.calls[c]? = some row.datum.call
  rows_lt : ∀ id c, t.rowCalls id = some c → c < t.calls.length ∧ c ∉ t.memoryCalls
  rows_inj : ∀ id id' c, t.rowCalls id = some c → t.rowCalls id' = some c → id = id'
  delivered_lt : ∀ c ∈ t.delivered, c < t.calls.length

lemma Consistent.map_snd_zip (h : t.Consistent) :
    (t.buffer.buffer.zip t.memoryCalls).map Prod.snd = t.memoryCalls :=
  List.map_snd_zip (List.forall₂_iff_zip.mp h.memory).1.ge

/-- The books say that the buffer holds the data of the call. -/
def Held (t : Accounts) (c : ℕ) : Prop :=
  c ∈ t.memoryCalls ∨ ∃ row ∈ t.buffer.pendingRows, t.rowCalls row.id = some c

lemma Consistent.memory_lt (h : t.Consistent) {c : ℕ} (hc : c ∈ t.memoryCalls) :
    c < t.calls.length := by
  obtain ⟨-, hmemory⟩ := List.forall₂_iff_zip.mp h.memory
  rw [← h.map_snd_zip] at hc
  obtain ⟨⟨entry, c⟩, hmem, rfl⟩ := List.mem_map.mp hc
  exact (List.getElem?_eq_some_iff.mp (hmemory hmem)).1

lemma Consistent.present_iff (h : t.Consistent) (c : ℕ) : t.Present c ↔ t.Held c := by
  obtain ⟨-, hmemory⟩ := List.forall₂_iff_zip.mp h.memory
  refine or_congr ?_ ?_
  · constructor
    · rintro ⟨entry, hmem, -⟩
      exact (List.of_mem_zip hmem).2
    · intro hc
      rw [← h.map_snd_zip] at hc
      obtain ⟨⟨entry, c⟩, hmem, rfl⟩ := List.mem_map.mp hc
      exact ⟨entry, hmem, hmemory hmem⟩
  · constructor
    · rintro ⟨row, hrow, hc, -⟩
      exact ⟨row, hrow, hc⟩
    · rintro ⟨row, hrow, hc⟩
      exact ⟨row, hrow, hc, h.rows row hrow c hc⟩

lemma Consistent.held_lt (h : t.Consistent) {c : ℕ} (hc : t.Held c) : c < t.calls.length := by
  rcases hc with hc | ⟨row, -, hc⟩
  · exact h.memory_lt hc
  · exact (h.rows_lt _ _ hc).1

lemma consistent_new (config : EdgeBufferConfig) (db : Option SqliteDb) :
    (Accounts.new config db).Consistent where
  memory := .nil
  memory_nodup := .nil
  rows _ _ _ hc := absurd hc (by simp [new])
  rows_lt _ _ hc := absurd hc (by simp [new])
  rows_inj _ _ _ hc := absurd hc (by simp [new])
  delivered_lt _ hc := absurd hc (by simp [new])

/-! ## Sends -/

section Send

variable {reads : Bytes → Bool} {dataType : DataType} {data : Bytes} {env : SendEnv} {call : Call}
  {delivered : List ℕ} {queue : ℕ}

lemma getElem?_snoc {c : ℕ} {call' : Call} (h : t.calls[c]? = some call') :
    (t.calls ++ [call])[c]? = some call' := by
  rw [List.getElem?_append_left (List.getElem?_eq_some_iff.mp h).1, h]

lemma Consistent.unwritten (h : t.Consistent) (call : Call)
    (hdelivered : ∀ c ∈ delivered, c < t.calls.length + 1) :
    ({ t with queue, calls := t.calls ++ [call], delivered } : Accounts).Consistent where
  memory := h.memory.imp fun _ _ => getElem?_snoc
  memory_nodup := h.memory_nodup
  rows row hrow c hc := getElem?_snoc (h.rows row hrow c hc)
  rows_lt id c hc := ⟨by simpa using Nat.lt_succ_of_lt (h.rows_lt id c hc).1, (h.rows_lt id c hc).2⟩
  rows_inj := h.rows_inj
  delivered_lt := by simpa using hdelivered

/-- What a call that writes makes of the books. -/
def written (t : Accounts) (data : Bytes) (dataType : DataType) (env : WriteEnv)
    (delivered : List ℕ) (queue : ℕ) : Accounts where
  buffer := (t.buffer.write data dataType env).2
  queue := queue
  calls := t.calls ++ [⟨data, dataType⟩]
  memoryCalls := (t.enter data env).1
  rowCalls := (t.enter data env).2
  delivered := delivered

lemma memoryCalls_enter (t : Accounts) (data : Bytes) (env : WriteEnv) :
    (t.enter data env).1 = t.memoryCalls.drop (t.buffer.evictedCount data.length env) ++
      if t.buffer.spills data.length env then [] else [t.calls.length] := by
  unfold enter
  split
  · exact (List.append_nil _).symm
  · rfl

lemma rowCalls_enter (t : Accounts) (data : Bytes) (env : WriteEnv) (id : ℤ) :
    (t.enter data env).2 id =
      if t.buffer.spills data.length env = true ∧ id = t.buffer.nextRowId then some t.calls.length
      else t.rowCalls id := by
  unfold enter
  cases t.buffer.spills data.length env with
  | false => simp
  | true =>
    simp only [if_true, true_and]
    by_cases hid : id = t.buffer.nextRowId
    · rw [hid, if_pos rfl, Function.update_self]
    · rw [if_neg hid, Function.update_of_ne hid]

lemma rowCalls_enter_of_mem {row : SqliteRow} (data : Bytes) (env : WriteEnv)
    (hrow : row ∈ t.buffer.pendingRows) : (t.enter data env).2 row.id = t.rowCalls row.id := by
  rw [rowCalls_enter, if_neg fun h => EdgeBuffer.ne_nextRowId hrow h.2]

lemma rowCalls_of_enter {data : Bytes} {env : WriteEnv} {id : ℤ} {c : ℕ}
    (h : (t.enter data env).2 id = some c) :
    (t.buffer.spills data.length env = true ∧ id = t.buffer.nextRowId ∧ c = t.calls.length) ∨
      t.rowCalls id = some c := by
  rw [rowCalls_enter] at h
  split at h
  case isTrue hnew => exact .inl ⟨hnew.1, hnew.2, (Option.some.inj h).symm⟩
  case isFalse => exact .inr h

lemma Consistent.written (h : t.Consistent) (data : Bytes) (dataType : DataType) (env : WriteEnv)
    (hdelivered : ∀ c ∈ delivered, c < t.calls.length + 1) :
    (t.written data dataType env delivered queue).Consistent := by
  -- The new call has a number that nothing refers to yet.
  obtain ⟨hmemory, hrows⟩ := t.buffer.write_spec data dataType env
  have hfresh : t.calls.length ∉ t.memoryCalls := fun hc => Nat.lt_irrefl _ (h.memory_lt hc)
  have hcalls : (t.calls ++ [⟨data, dataType⟩])[t.calls.length]? = some ⟨data, dataType⟩ := by simp
  constructor
  case memory =>
    show List.Forall₂ _ (t.buffer.write data dataType env).2.buffer (t.enter data env).1
    rw [hmemory, memoryCalls_enter]
    refine List.rel_append (List.forall₂_drop _ (h.memory.imp fun _ _ => getElem?_snoc)) ?_
    cases t.buffer.spills data.length env with
    | true => exact .nil
    | false => exact .cons hcalls .nil
  case memory_nodup =>
    show (t.enter data env).1.Nodup
    rw [memoryCalls_enter]
    refine (h.memory_nodup.sublist (List.drop_sublist _ _)).append ?_ ?_
    · split <;> simp
    · intro c hc hnew
      split at hnew
      · exact absurd hnew (by simp)
      · rw [List.mem_singleton.mp hnew] at hc
        exact hfresh (List.mem_of_mem_drop hc)
  case rows =>
    intro row (hrow : row ∈ (t.buffer.write data dataType env).2.pendingRows) c
      (hc : (t.enter data env).2 row.id = some c)
    rw [hrows] at hrow
    rcases List.mem_append.mp hrow with hold | hnew
    · have hold := (List.mem_filter.mp hold).1
      rw [rowCalls_enter_of_mem data env hold] at hc
      exact getElem?_snoc (h.rows row hold c hc)
    · split at hnew
      case isFalse => exact absurd hnew (by simp)
      case isTrue hspills =>
        obtain rfl := List.mem_singleton.mp hnew
        rw [rowCalls_enter, if_pos ⟨hspills, rfl⟩] at hc
        obtain rfl := Option.some.inj hc
        refine hcalls.trans (congrArg some ?_)
        simp [SqliteRow.datum, Datum.call, EdgeBuffer.newRow]
  case rows_lt =>
    intro id c (hc : (t.enter data env).2 id = some c)
    show c < (t.calls ++ [_]).length ∧ c ∉ (t.enter data env).1
    rw [memoryCalls_enter, List.length_append, List.mem_append]
    rcases rowCalls_of_enter hc with ⟨hspills, -, rfl⟩ | hold
    · refine ⟨Nat.lt_succ_self _, ?_⟩
      rw [hspills]
      rintro (hdropped | hnew)
      · exact hfresh (List.mem_of_mem_drop hdropped)
      · exact absurd hnew (by simp)
    · obtain ⟨hlt, hmem⟩ := h.rows_lt id c hold
      refine ⟨Nat.lt_succ_of_lt hlt, ?_⟩
      rintro (hdropped | hnew)
      · exact hmem (List.mem_of_mem_drop hdropped)
      · split at hnew
        · exact absurd hnew (by simp)
        · exact absurd (List.mem_singleton.mp hnew) (Nat.ne_of_lt hlt)
  case rows_inj =>
    intro id id' c (hc : (t.enter data env).2 id = some c) (hc' : (t.enter data env).2 id' = some c)
    rcases rowCalls_of_enter hc with ⟨-, hid, rfl⟩ | hold <;>
      rcases rowCalls_of_enter hc' with ⟨-, hid', hlength⟩ | hold'
    · rw [hid, hid']
    · exact absurd (h.rows_lt _ _ hold').1 (Nat.lt_irrefl _)
    · exact absurd (h.rows_lt _ _ hold).1 (hlength ▸ Nat.lt_irrefl _)
    · exact h.rows_inj id id' c hold hold'
  case delivered_lt =>
    intro c hc
    simpa [Accounts.written] using hdelivered c hc

lemma Consistent.held_written (h : t.Consistent) (data : Bytes) (dataType : DataType)
    (env : WriteEnv) (c : ℕ) : (t.written data dataType env delivered queue).Held c ↔
      c = t.calls.length ∨ t.Held c ∧ c ∉ t.evictedCalls data.length env := by
  obtain ⟨-, hrows⟩ := t.buffer.write_spec data dataType env
  show (c ∈ (t.enter data env).1 ∨ ∃ row ∈ (t.buffer.write data dataType env).2.pendingRows,
    (t.enter data env).2 row.id = some c) ↔ _
  rw [memoryCalls_enter, hrows, evictedCalls, EdgeBuffer.expiredRows_eq]
  set k := t.buffer.evictedCount data.length env
  simp only [List.mem_append, List.mem_filterMap, not_or]
  constructor
  · rintro ((hkept | hnew) | ⟨row, hold | hnew, hc⟩)
    · -- in memory, behind what was evicted
      have hmem := List.mem_of_mem_drop hkept
      refine .inr ⟨.inl hmem, fun htaken => ?_, ?_⟩
      · exact List.disjoint_take_drop h.memory_nodup le_rfl htaken hkept
      · rintro ⟨row, -, hc⟩
        exact (h.rows_lt row.id c hc).2 hmem
    · split at hnew
      · exact absurd hnew (by simp)
      · exact .inl (List.mem_singleton.mp hnew)
    · -- in a row that has not expired
      obtain ⟨hpending, hkeeps⟩ := List.mem_filter.mp hold
      rw [rowCalls_enter_of_mem data env hpending] at hc
      refine .inr ⟨.inr ⟨row, hpending, hc⟩, fun htaken => ?_, ?_⟩
      · exact (h.rows_lt row.id c hc).2 (List.mem_of_mem_take htaken)
      · rintro ⟨row', hrow', hc'⟩
        obtain ⟨hpending', hexpires⟩ := List.mem_filter.mp hrow'
        obtain rfl := EdgeBuffer.eq_of_id_eq hpending hpending' (h.rows_inj _ _ c hc hc')
        simp [hexpires] at hkeeps
    · split at hnew
      case isFalse => exact absurd hnew (by simp)
      case isTrue hspills =>
        obtain rfl := List.mem_singleton.mp hnew
        rw [rowCalls_enter, if_pos ⟨hspills, rfl⟩] at hc
        exact .inl (Option.some.inj hc).symm
  · rintro (rfl | ⟨hmem | ⟨row, hpending, hc⟩, htaken, hexpired⟩)
    · cases hspills : t.buffer.spills data.length env with
      | false => exact .inl (.inr (by simp))
      | true =>
        refine .inr ⟨t.buffer.newRow data dataType env, .inr (by simp), ?_⟩
        rw [rowCalls_enter, if_pos ⟨hspills, rfl⟩]
    · rw [← List.take_append_drop k t.memoryCalls] at hmem
      exact .inl (.inl ((List.mem_append.mp hmem).resolve_left htaken))
    · refine .inr ⟨row, .inl (List.mem_filter.mpr ⟨hpending, ?_⟩), ?_⟩
      · by_contra hexpires
        exact hexpired ⟨row, List.mem_filter.mpr ⟨hpending, by simpa using hexpires⟩, hc⟩
      · rw [rowCalls_enter_of_mem data env hpending, hc]

lemma send_eq (t : Accounts) (dataType : DataType) (data : Bytes) (env : SendEnv) :
    t.send reads dataType data env =
      let out := dataType.send reads t.buffer t.queue data env
      let delivered := t.delivered ++ List.replicate out.deliveries t.calls.length
      match env.buffered t.queue data dataType with
      | none => { t with queue := out.queue, calls := t.calls ++ [⟨data, dataType⟩], delivered }
      | some written => t.written written dataType env.write delivered out.queue := by
  obtain ⟨hwritten, hbuffer, -⟩ := send_spec reads t.buffer t.queue data env dataType
  simp only [send, hwritten, hbuffer]
  cases env.buffered t.queue data dataType with
  | none => rfl
  | some written => rfl

lemma Consistent.delivered_send (h : t.Consistent) (n : ℕ) :
    ∀ c ∈ t.delivered ++ List.replicate n t.calls.length, c < t.calls.length + 1 := by
  intro c hc
  rcases List.mem_append.mp hc with hc | hc
  · exact Nat.lt_succ_of_lt (h.delivered_lt c hc)
  · exact Nat.lt_succ_of_le (List.eq_of_mem_replicate hc).le

lemma Consistent.send (h : t.Consistent) (dataType : DataType) (data : Bytes) (env : SendEnv) :
    (t.send reads dataType data env).Consistent := by
  rw [send_eq]
  cases env.buffered t.queue data dataType with
  | none => exact h.unwritten _ (h.delivered_send _)
  | some written => exact h.written written dataType env.write (h.delivered_send _)

lemma Consistent.held_send (h : t.Consistent) (c : ℕ) : (t.send reads dataType data env).Held c ↔
    (c = t.calls.length ∧ env.buffered t.queue data dataType ≠ none) ∨ t.Held c ∧
      ∀ written, env.buffered t.queue data dataType = some written →
        c ∉ t.evictedCalls written.length env.write := by
  rw [send_eq]
  cases env.buffered t.queue data dataType with
  | none =>
    simp only [ne_eq, not_true_eq_false, and_false, false_or, reduceCtorEq, false_implies,
      implies_true, and_true]
    rfl
  | some written => simpa using h.held_written written dataType env.write c

lemma Consistent.evicted_lt (h : t.Consistent) {c size : ℕ} {env : WriteEnv}
    (hc : c ∈ t.evictedCalls size env) : c < t.calls.length := by
  rcases List.mem_append.mp hc with hc | hc
  · exact h.memory_lt (List.mem_of_mem_take hc)
  · obtain ⟨row, -, hc⟩ := List.mem_filterMap.mp hc
    exact (h.rows_lt row.id c hc).1

/-- A call settles its own data and loses none that was not delivered exactly if it is admitted. -/
lemma settled_send_iff (h : t.Consistent) (hsettled : t.Settled) :
    (t.send reads dataType data env).Settled ↔ t.Admits reads (.send dataType data env) := by
  obtain ⟨-, -, honce, hsound⟩ := send_spec reads t.buffer t.queue data env dataType
  set out := dataType.send reads t.buffer t.queue data env with hout
  have hlength : (t.send reads dataType data env).calls.length = t.calls.length + 1 := by
    simp [Accounts.send]
  have hdelivered : (t.send reads dataType data env).delivered = t.delivered ++
      List.replicate out.deliveries t.calls.length := rfl
  -- The new call has a number that was not delivered before.
  have hown : (t.send reads dataType data env).delivered.count t.calls.length =
      out.deliveries := by
    rw [hdelivered, List.count_append, List.count_replicate_self, List.count_eq_zero.mpr,
      Nat.zero_add]
    exact fun hc => Nat.lt_irrefl _ (h.delivered_lt _ hc)
  have hother {c : ℕ} (hc : c < t.calls.length) :
      (t.send reads dataType data env).delivered.count c = t.delivered.count c := by
    rw [hdelivered, List.count_append, List.count_replicate, if_neg, Nat.add_zero]
    simpa using Nat.ne_of_gt hc
  rw [Admits, hsound, Settled, hlength]
  simp only [(h.send dataType data env).present_iff, h.held_send]
  constructor
  · intro hall
    refine ⟨fun hzero => ?_, fun written hwritten c hc => ?_⟩
    · rcases (hall t.calls.length (Nat.lt_succ_self _)).2 (hown.trans hzero) with
        ⟨-, hbuffered⟩ | ⟨hheld, -⟩
      · exact hbuffered
      · exact absurd (h.held_lt hheld) (Nat.lt_irrefl _)
    · by_contra hmem
      -- An evicted call that was never delivered would be gone.
      have hlt : c < t.calls.length := h.evicted_lt hc
      have hzero : t.delivered.count c = 0 := List.count_eq_zero.mpr hmem
      rcases (hall c (Nat.lt_succ_of_lt hlt)).2 ((hother hlt).trans hzero) with
        ⟨heq, -⟩ | ⟨-, hkept⟩
      · exact Nat.ne_of_lt hlt heq
      · exact hkept written hwritten hc
  · rintro ⟨hbuffered, hevicted⟩ c hc
    rcases Nat.lt_succ_iff_lt_or_eq.mp hc with hlt | rfl
    · obtain ⟨hmost, hpresent⟩ := hsettled c hlt
      rw [hother hlt]
      refine ⟨hmost, fun hzero => .inr ⟨(h.present_iff c).mp (hpresent hzero), ?_⟩⟩
      intro written hwritten hmem
      exact absurd (hevicted written hwritten c hmem) (List.count_eq_zero.mp hzero)
    · rw [hown]
      exact ⟨honce, fun hzero => .inl ⟨rfl, hbuffered hzero⟩⟩

end Send

/-! ## Flushes -/

section Flush

variable {env : FlushEnv}

lemma Consistent.flush (h : t.Consistent) (env : FlushEnv) : (t.flush env).Consistent where
  memory := by
    have hempty : (flushBuffer t.buffer t.queue env).buffer.buffer = [] :=
      buffer_replay t.buffer t.queue env
    simp only [Accounts.flush, hempty]
    exact .nil
  memory_nodup := .nil
  rows row hrow c hc := by
    obtain ⟨⟨row₀, hrow₀, hid, hdatum⟩, -⟩ := EdgeBuffer.pendingRows_of_flush hrow
    have hc₀ : t.rowCalls row₀.id = some c := by
      rw [hid]
      exact hc
    rw [← hdatum]
    exact h.rows row₀ hrow₀ c hc₀
  rows_lt id c hc := ⟨(h.rows_lt id c hc).1, List.not_mem_nil⟩
  rows_inj := h.rows_inj
  delivered_lt := h.delivered_lt

lemma Consistent.held_flush (h : t.Consistent) (c : ℕ) : (t.flush env).Held c ↔
    (∃ row ∈ t.buffer.pendingRows, t.rowCalls row.id = some c) ∧ c ∉ t.markedCalls env := by
  have hmarked (id : ℤ) (hcall : t.rowCalls id = some c) : c ∈ t.markedCalls env ↔
      ∃ e ∈ acknowledged env 0 t.queue (t.buffer.drain env.clock.instant env.pendingOk).1,
        e.sqliteRowId = some id := by
    rw [markedCalls, List.mem_filterMap]
    refine exists_congr fun e => and_congr_right fun _ => ?_
    rw [Option.bind_eq_some_iff]
    constructor
    · rintro ⟨id', hid, hcall'⟩
      rwa [h.rows_inj id id' c hcall hcall']
    · exact fun hid => ⟨id, hid, hcall⟩
  constructor
  · rintro (hmem | ⟨row, hrow, hcall⟩)
    · exact absurd hmem List.not_mem_nil
    · obtain ⟨⟨row₀, hrow₀, hid, -⟩, hunmarked⟩ := EdgeBuffer.pendingRows_of_flush hrow
      refine ⟨⟨row₀, hrow₀, by rw [hid]; exact hcall⟩, fun hc => ?_⟩
      obtain ⟨e, he, hrowId⟩ := (hmarked row.id hcall).mp hc
      exact hunmarked e he hrowId
  · rintro ⟨⟨row, hrow, hcall⟩, hc⟩
    obtain ⟨row', hrow', hid⟩ := EdgeBuffer.pendingRows_flush hrow fun e he hrowId =>
      hc ((hmarked row.id hcall).mpr ⟨e, he, hrowId⟩)
    exact .inr ⟨row', hrow', by rw [hid]; exact hcall⟩

lemma settled_flush_iff (h : t.Consistent) (hsettled : t.Settled) (reads : Bytes → Bool) :
    (t.flush env).Settled ↔ t.Admits reads (.flush env) := by
  have hmarked {c : ℕ} (hc : c ∈ t.markedCalls env) : ∃ id, t.rowCalls id = some c := by
    obtain ⟨e, -, hcall⟩ := List.mem_filterMap.mp hc
    obtain ⟨id, -, hcall⟩ := Option.bind_eq_some_iff.mp hcall
    exact ⟨id, hcall⟩
  show (∀ c < t.calls.length, t.delivered.count c ≤ 1 ∧
    (t.delivered.count c = 0 → (t.flush env).Present c)) ↔ _
  simp only [(h.flush env).present_iff, h.held_flush, List.count_eq_zero]
  constructor
  · intro hall
    refine ⟨fun c hc => ?_, fun c hc => ?_⟩
    · by_contra hmem
      obtain ⟨⟨row, -, hcall⟩, -⟩ := (hall c (h.memory_lt hc)).2 hmem
      exact (h.rows_lt row.id c hcall).2 hc
    · by_contra hmem
      obtain ⟨id, hcall⟩ := hmarked hc
      exact ((hall c (h.rows_lt id c hcall).1).2 hmem).2 hc
  · rintro ⟨hmemory, hrows⟩ c hc
    obtain ⟨honce, hpresent⟩ := hsettled c hc
    refine ⟨honce, fun hmem => ?_⟩
    rcases (h.present_iff c).mp (hpresent (List.count_eq_zero.mpr hmem)) with hheld | hrow
    · exact absurd (hmemory c hheld) hmem
    · exact ⟨hrow, fun hc => hmem (hrows c hc)⟩

end Flush

/-! ## Runs of calls -/

variable {reads : Bytes → Bool}

lemma Consistent.step (h : t.Consistent) (call : ClientCall) : (t.step reads call).Consistent := by
  cases call with
  | send dataType data env => exact h.send dataType data env
  | flush env => exact h.flush env

lemma settled_step_iff (h : t.Consistent) (hsettled : t.Settled) (call : ClientCall) :
    (t.step reads call).Settled ↔ t.Admits reads call := by
  cases call with
  | send dataType data env => exact settled_send_iff h hsettled
  | flush env => exact settled_flush_iff h hsettled reads

end Accounts

/-- In every state of a run each call is delivered at most once, and as long as it is not its data
is in the buffer, if and only if every call of the run is admitted. -/
theorem live_path_settled_iff (reads : Bytes → Bool) (config : EdgeBufferConfig)
    (db : Option SqliteDb) (calls : List ClientCall) :
    Lib.Always (Accounts.step reads) Accounts.Settled (.new config db) calls ↔
      Lib.Allowed (Accounts.step reads) (Accounts.Admits reads) (.new config db) calls := by
  have hsettled : (Accounts.new config db).Settled := fun c hc => absurd hc (Nat.not_lt_zero c)
  have hkeeps (t : Accounts) (call : ClientCall) (h : t.Consistent) :
      (t.step reads call).Consistent := h.step call
  have hstep (t : Accounts) (call : ClientCall) (h : t.Consistent) (hs : t.Settled) :
      (t.step reads call).Settled ↔ t.Admits reads call := Accounts.settled_step_iff h hs call
  exact Lib.always_iff_allowed hkeeps hstep (Accounts.consistent_new config db) hsettled calls

/-- A transport on which everything succeeds. -/
def reliable : SendEnv where
  identityValid := true
  liveConnected := true
  liveSends := true
  connected := true
  sends := true
  reply := .accepted
  write := { clock := ⟨0, 0⟩ }

/-- When everything succeeds, traces are lost by the flush that follows, and metrics that are no
`MetalBatch` at once. -/
theorem lost_on_success :
    ¬ Lib.Always (Accounts.step fun _ => false) Accounts.Settled (.new .default none)
        [.send .traces [7] reliable, .flush { clock := ⟨1, 0⟩, connected := fun _ => true }] ∧
      ¬ Lib.Always (Accounts.step fun _ => false) Accounts.Settled (.new .default none)
        [.send .metrics [7] reliable] := by
  constructor
  · rintro ⟨-, -, hsettled⟩
    rcases (hsettled 0 (by decide)).2 (by decide) with ⟨entry, hmem, -⟩ | ⟨row, hrow, -⟩
    · exact nomatch hmem
    · exact nomatch hrow
  · rintro ⟨-, hsettled⟩
    rcases (hsettled 0 (by decide)).2 (by decide) with ⟨entry, hmem, -⟩ | ⟨row, hrow, -⟩
    · exact nomatch hmem
    · exact nomatch hrow

end Paryty.Agent

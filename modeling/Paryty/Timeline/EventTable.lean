import Mathlib.Data.List.Perm.Basic
import Mathlib.Data.List.Pairwise
import Paryty.Timeline.EventLog

/-!
# The rows of the event log

`RecordEvent` and `QueryEvents` of `cluster/internal/storage/cold/eventlog.go`, with the rows of
`topology_snapshots` that they write and read. The table has no key, so an `INSERT` always adds a
row.

* A `Call` of `RecordEvent` comes with its outcome: a row may be there although the call failed, and
  the caller tries again.
* An `Answer` is what the database may send for the query: rows with the same timestamp are in any
  order, and the column has microseconds where the JSON of an entry has nanoseconds.
* `recordsOnce_iff`: redelivered events are in the log once if they are not recorded twice.
-/

namespace Paryty.Timeline

/-! ## Definitions -/

/-- `EventLogEntry`, with the payload as it is recorded. -/
structure RawEntry where
  id : String
  tenantID : String
  timestamp : Time
  type : String
  agentID : String
  payload : List UInt8
deriving DecidableEq

/-- A row of `topology_snapshots`. -/
structure EventRow where
  /-- In microseconds. -/
  timestamp : ℤ
  snapshotID : String
  tenantID : String
  nodeCount : ℤ
  edgeCount : ℤ
  /-- The entry of which this is the JSON, `none` for a text that is malformed. -/
  snapshotData : Option RawEntry
  isCheckpoint : Bool
deriving DecidableEq

namespace EventTable

/-- How far `RecordEvent` gets. -/
inductive Outcome
  /-- `json.Marshal` fails, as it does for a year that has not four digits. -/
  | marshalFailed
  | inserted
  /-- `Exec` returns an error. The row may be in the table all the same. -/
  | execFailed (inserted : Bool)
deriving DecidableEq

/-- The errors of `RecordEvent`. -/
inductive RecordError
  /-- `marshal event entry`. -/
  | marshalEventEntry
  /-- `insert event <id>`. -/
  | insertEvent (id : String)
deriving DecidableEq

/-- The microseconds of a time, as the driver sends it. -/
def micros (t : Time) : ℤ := t / 1000

/-- `eventCounts`. -/
def eventCounts (entry : RawEntry) : ℤ × ℤ :=
  if entry.type = "node_added" then (1, 0)
  else if entry.type = "node_removed" then (-1, 0)
  else if entry.type = "edge_added" then (0, 1)
  else if entry.type = "edge_removed" then (0, -1)
  else (0, 0)

/-- The values of the `INSERT`. -/
def row (entry : RawEntry) : EventRow where
  timestamp := micros entry.timestamp
  snapshotID := entry.id
  tenantID := entry.tenantID
  nodeCount := (eventCounts entry).1
  edgeCount := (eventCounts entry).2
  snapshotData := some entry
  isCheckpoint := false

/-- An entry without an ID gets a new one. -/
def withID (entry : RawEntry) (uuid : String) : RawEntry :=
  if entry.id = "" then { entry with id := uuid } else entry

/-- `RecordEvent`. `uuid` is what `uuid.New` gives. -/
def recordEvent (rows : List EventRow) (entry : RawEntry) (uuid : String) (outcome : Outcome) :
    Option RecordError × List EventRow :=
  let entry := withID entry uuid
  match outcome with
  | .marshalFailed => (some .marshalEventEntry, rows)
  | .inserted => (none, rows ++ [row entry])
  | .execFailed inserted =>
    (some (.insertEvent entry.id), if inserted then rows ++ [row entry] else rows)

/-- The rows that `QueryEvents` selects. -/
def selected (rows : List EventRow) (tenant : String) (start stop : Time) : List EventRow :=
  rows.filter fun row => row.isCheckpoint = false ∧ row.tenantID = tenant ∧
    micros start ≤ row.timestamp ∧ row.timestamp ≤ micros stop

/-- What the database sends: the selected rows, `ORDER BY timestamp ASC`. -/
structure Answer (rows : List EventRow) (tenant : String) (start stop : Time) where
  sent : List EventRow
  perm : sent.Perm (selected rows tenant start stop)
  sorted : sent.Pairwise fun row row' => row.timestamp ≤ row'.timestamp

/-- `QueryEvents`, once the database has answered: rows that are malformed are skipped. -/
def queryEvents {rows : List EventRow} {tenant : String} {start stop : Time}
    (answer : Answer rows tenant start stop) : List RawEntry :=
  answer.sent.filterMap EventRow.snapshotData

/-! ### Calls -/

/-- A call of `RecordEvent` with its outcome. -/
structure Call where
  entry : RawEntry
  uuid : String
  outcome : Outcome

namespace Call

def record (rows : List EventRow) (call : Call) : Option RecordError × List EventRow :=
  recordEvent rows call.entry call.uuid call.outcome

/-- The event of the call. -/
def event (call : Call) : RawEntry := withID call.entry call.uuid

/-- The event, if the call leaves a row. -/
def recorded (call : Call) : Option RawEntry :=
  match call.outcome with
  | .inserted | .execFailed true => some call.event
  | .marshalFailed | .execFailed false => none

end Call

/-- The table after the calls. -/
def recordAll (calls : List Call) : List EventRow :=
  calls.foldl (fun rows call => (call.record rows).2) []

/-- The events that got a row, call by call. -/
def recorded (calls : List Call) : List RawEntry := calls.filterMap Call.recorded

/-- Recording is idempotent for the calls: the table has every ID at most once, and whoever asks for
events gets those that were recorded without an error and are in the range, each once and in
timestamp order. -/
structure RecordsOnce (calls : List Call) : Prop where
  once : ((recordAll calls).map EventRow.snapshotID).Nodup
  returned : ∀ tenant start stop (answer : Answer (recordAll calls) tenant start stop),
    ((queryEvents answer).map RawEntry.id).Nodup ∧
      (queryEvents answer).Pairwise (fun entry entry' => entry.timestamp ≤ entry'.timestamp) ∧
      ∀ call ∈ calls, (∀ rows, (call.record rows).1 = none) → call.event.tenantID = tenant →
        start ≤ call.event.timestamp → call.event.timestamp ≤ stop →
        call.event ∈ queryEvents answer

/-- Two events that have rows are not the same, and the column can tell their times apart. -/
def Apart (entry entry' : RawEntry) : Prop :=
  entry.id ≠ entry'.id ∧ (entry.tenantID = entry'.tenantID →
    micros entry.timestamp = micros entry'.timestamp → entry.timestamp = entry'.timestamp)

instance : Std.Symm Apart where
  symm _ _ h := ⟨h.1.symm, fun htenant hmicros => (h.2 htenant.symm hmicros.symm).symm⟩

/-! ## The table -/

lemma micros_le {t t' : Time} (h : t ≤ t') : micros t ≤ micros t' :=
  Int.ediv_le_ediv (by decide) h

lemma micros_le_iff {t t' : Time} (h : (1000 : ℤ) ∣ t) : micros t ≤ micros t' ↔ t ≤ t' := by
  refine ⟨fun hle => ?_, micros_le⟩
  calc t = micros t * 1000 := (Int.ediv_mul_cancel h).symm
    _ ≤ t' := (Int.le_ediv_iff_mul_le (by decide)).mp hle

lemma record_eq (rows : List EventRow) (call : Call) :
    (call.record rows).2 = rows ++ call.recorded.toList.map row := by
  unfold Call.record recordEvent Call.recorded
  cases call.outcome with
  | marshalFailed => exact (List.append_nil rows).symm
  | inserted => rfl
  | execFailed inserted =>
    cases inserted with
    | true => rfl
    | false => exact (List.append_nil rows).symm

lemma recordAll_eq (calls : List Call) : recordAll calls = (recorded calls).map row := by
  have hrows (rows : List EventRow) : calls.foldl (fun rows call => (call.record rows).2) rows =
      rows ++ (recorded calls).map row := by
    unfold recorded
    induction calls generalizing rows with
    | nil => exact (List.append_nil rows).symm
    | cons call calls ih =>
      rw [List.foldl_cons, ih, record_eq, List.append_assoc, ← List.map_append]
      cases h : call.recorded with
      | none => rw [List.filterMap_cons_none h, Option.toList_none, List.nil_append]
      | some entry => rw [List.filterMap_cons_some h, Option.toList_some, List.singleton_append]
  exact hrows []

lemma recorded_of_record_eq_none {call : Call} (h : ∀ rows, (call.record rows).1 = none) :
    call.recorded = some call.event := by
  have hnone := h []
  unfold Call.record recordEvent at hnone
  unfold Call.recorded
  cases hcall : call.outcome with
  | inserted => rfl
  | marshalFailed | execFailed =>
    rw [hcall] at hnone
    cases hnone

/-! ## Answers -/

section Answers

variable {calls : List Call} {tenant : String} {start stop : Time}

/-- What `QueryEvents` asks for. -/
def InRange (tenant : String) (start stop : Time) (entry : RawEntry) : Prop :=
  entry.tenantID = tenant ∧ micros start ≤ micros entry.timestamp ∧
    micros entry.timestamp ≤ micros stop

instance (tenant : String) (start stop : Time) : DecidablePred (InRange tenant start stop) :=
  fun entry => inferInstanceAs (Decidable (entry.tenantID = tenant ∧ _ ∧ _))

lemma selected_recordAll : selected (recordAll calls) tenant start stop =
    ((recorded calls).filter (InRange tenant start stop)).map row := by
  rw [recordAll_eq, selected, List.filter_map]
  exact congrArg (List.map row) (List.filter_congr fun entry _ =>
    decide_eq_decide.mpr (and_iff_right rfl))

lemma sent_eq (answer : Answer (recordAll calls) tenant start stop) :
    answer.sent = (queryEvents answer).map row := by
  have hrow : ∀ r ∈ answer.sent, ∃ entry, r = row entry := by
    intro r hr
    have hselected := answer.perm.mem_iff.mp hr
    rw [selected_recordAll] at hselected
    obtain ⟨entry, -, rfl⟩ := List.mem_map.mp hselected
    exact ⟨entry, rfl⟩
  unfold queryEvents
  generalize answer.sent = sent at hrow
  induction sent with
  | nil => rfl
  | cons r sent ih =>
    obtain ⟨entry, rfl⟩ := hrow r List.mem_cons_self
    have hdata : (row entry).snapshotData = some entry := rfl
    rw [List.filterMap_cons_some hdata, List.map_cons]
    exact congrArg _ (ih fun r hr => hrow r (List.mem_cons_of_mem _ hr))

lemma queryEvents_perm (answer : Answer (recordAll calls) tenant start stop) :
    (queryEvents answer).Perm ((recorded calls).filter (InRange tenant start stop)) := by
  have hperm := answer.perm.filterMap EventRow.snapshotData
  have hdata (entries : List RawEntry) :
      (entries.map row).filterMap EventRow.snapshotData = entries := by
    rw [List.filterMap_map]
    exact List.filterMap_some
  rwa [selected_recordAll, hdata] at hperm

lemma sorted_queryEvents (answer : Answer (recordAll calls) tenant start stop) :
    (queryEvents answer).Pairwise fun entry entry' =>
      micros entry.timestamp ≤ micros entry'.timestamp := by
  have hsorted := answer.sorted
  rw [sent_eq] at hsorted
  exact (List.pairwise_map (f := row)).mp hsorted

lemma exists_answer {entry entry' : RawEntry} (hmem : entry ∈ recorded calls)
    (hmem' : entry' ∈ recorded calls) (hne : entry ≠ entry')
    (htenant : entry.tenantID = entry'.tenantID)
    (hmicros : micros entry.timestamp = micros entry'.timestamp) :
    ∃ (answer : Answer (recordAll calls) entry.tenantID entry.timestamp entry'.timestamp)
      (rest : List RawEntry), queryEvents answer = entry' :: entry :: rest := by
  have hfound : entry ∈ (recorded calls).filter (InRange entry.tenantID entry.timestamp
      entry'.timestamp) :=
    List.mem_filter.mpr ⟨hmem, decide_eq_true ⟨rfl, le_rfl, hmicros.le⟩⟩
  have hfound' : entry' ∈ (recorded calls).filter (InRange entry.tenantID entry.timestamp
      entry'.timestamp) :=
    List.mem_filter.mpr ⟨hmem', decide_eq_true ⟨htenant.symm, hmicros.le, le_rfl⟩⟩
  obtain ⟨rest, hperm⟩ : ∃ rest, ((recorded calls).filter (InRange entry.tenantID entry.timestamp
      entry'.timestamp)).Perm (entry' :: entry :: rest) := by
    have hother := List.perm_cons_erase ((List.mem_erase_of_ne hne).mpr hfound)
    exact ⟨_, (List.perm_cons_erase hfound').trans (hother.cons entry')⟩
  -- All that is asked for is in one microsecond.
  have hsame : ∀ e ∈ entry' :: entry :: rest, micros e.timestamp = micros entry.timestamp := by
    intro e he
    obtain ⟨-, hrange⟩ := List.mem_filter.mp (hperm.mem_iff.mpr he)
    have hrange := of_decide_eq_true hrange
    exact le_antisymm (hrange.2.2.trans hmicros.ge) hrange.2.1
  refine ⟨⟨(entry' :: entry :: rest).map row, ?_, ?_⟩, rest, ?_⟩
  · rw [selected_recordAll]
    exact hperm.symm.map row
  · refine List.pairwise_map.mpr (List.pairwise_of_forall_mem_list fun e he e' he' => ?_)
    exact ((hsame e he).trans (hsame e' he').symm).le
  · unfold queryEvents
    rw [List.filterMap_map]
    exact List.filterMap_some

/-- **Recording events.** For every sequence of calls, with whatever outcomes: every ID is in the
table at most once, and every query returns the events of its range that were recorded, each once
and in timestamp order, if and only if no two of the calls that left a row are for the same ID, or
for different times of a tenant in the same microsecond. -/
theorem recordsOnce_iff : RecordsOnce calls ↔ (recorded calls).Pairwise Apart := by
  have hids : (recordAll calls).map EventRow.snapshotID = (recorded calls).map RawEntry.id := by
    rw [recordAll_eq, List.map_map]
    rfl
  constructor
  · intro h
    have honce := h.once
    rw [hids] at honce
    refine (List.pairwise_map.mp honce).imp_of_mem fun {entry entry'} hmem hmem' hne => ⟨hne, ?_⟩
    intro htenant hmicros
    have hne : entry ≠ entry' := fun heq => hne (congrArg RawEntry.id heq)
    -- Either order may be the answer, so neither time is after the other.
    obtain ⟨answer, rest, heq⟩ := exists_answer hmem hmem' hne htenant hmicros
    obtain ⟨answer', rest', heq'⟩ := exists_answer hmem' hmem hne.symm htenant.symm hmicros.symm
    have hle := (h.returned _ _ _ answer).2.1
    have hle' := (h.returned _ _ _ answer').2.1
    rw [heq] at hle
    rw [heq'] at hle'
    exact le_antisymm (List.rel_of_pairwise_cons hle' List.mem_cons_self)
      (List.rel_of_pairwise_cons hle List.mem_cons_self)
  · intro hapart
    have hnodup : ((recorded calls).map RawEntry.id).Nodup :=
      List.pairwise_map.mpr (hapart.imp fun h => h.1)
    refine ⟨hids ▸ hnodup, fun tenant start stop answer => ?_⟩
    have hperm := queryEvents_perm answer
    refine ⟨?_, ?_, ?_⟩
    · refine (hperm.map RawEntry.id).nodup_iff.mpr ?_
      exact (List.filter_sublist.map RawEntry.id).nodup hnodup
    · refine (sorted_queryEvents answer).imp_of_mem fun {entry entry'} hmem hmem' hle => ?_
      obtain ⟨hentry, hrange⟩ := List.mem_filter.mp (hperm.mem_iff.mp hmem)
      obtain ⟨hentry', hrange'⟩ := List.mem_filter.mp (hperm.mem_iff.mp hmem')
      rcases eq_or_ne entry entry' with rfl | hne
      · exact le_rfl
      have htenant : entry.tenantID = entry'.tenantID :=
        (of_decide_eq_true hrange).1.trans (of_decide_eq_true hrange').1.symm
      have happart := hapart.forall hentry hentry' hne
      by_contra hlt
      have hback := micros_le (le_of_not_ge hlt)
      exact hlt (happart.2 htenant (le_antisymm hle hback)).le
    · intro call hcall hnone htenant hstart hstop
      have hevent : call.event ∈ recorded calls :=
        List.mem_filterMap.mpr ⟨call, hcall, recorded_of_record_eq_none hnone⟩
      refine hperm.mem_iff.mpr (List.mem_filter.mpr ⟨hevent, decide_eq_true ?_⟩)
      exact ⟨htenant, micros_le hstart, micros_le hstop⟩

/-! ### The log of a tenant -/

/-- The event as the replay sees it, with what its payload decodes to. -/
def toLog {F : Type*} (decode : RawEntry → Payload F) (entry : RawEntry) : EventLogEntry F where
  id := entry.id
  timestamp := entry.timestamp
  agentID := entry.agentID
  payload := decode entry

/-- For times in whole microseconds, whatever the database answers is the log of the tenant: the
same events at the same times, where those of one time may change places. -/
theorem queryEvents_of_answer {F : Type*} (decode : RawEntry → Payload F)
    (hwhole : ∀ entry ∈ recorded calls, (1000 : ℤ) ∣ entry.timestamp)
    (hstart : (1000 : ℤ) ∣ start) (answer : Answer (recordAll calls) tenant start stop) :
    let found := (queryEvents answer).map (toLog decode)
    let log := EventLog.queryEvents
      (((recorded calls).filter (·.tenantID = tenant)).map (toLog decode)) start stop
    found.Perm log ∧ found.map EventLogEntry.timestamp = log.map EventLogEntry.timestamp := by
  intro found log
  have hselected : (recorded calls).filter (InRange tenant start stop) =
      ((recorded calls).filter (·.tenantID = tenant)).filter fun entry =>
        start ≤ entry.timestamp ∧ entry.timestamp ≤ stop := by
    rw [List.filter_filter]
    refine List.filter_congr fun entry hentry => ?_
    rw [← Bool.decide_and]
    exact decide_eq_decide.mpr (and_comm.trans (and_congr_left' (and_congr
      (micros_le_iff hstart) (micros_le_iff (hwhole entry hentry)))))
  have hperm : found.Perm log := by
    refine .trans ?_ (List.mergeSort_perm _ _).symm
    rw [List.filter_map]
    refine (queryEvents_perm answer).map (toLog decode) |>.trans (.of_eq ?_)
    rw [hselected]
    rfl
  refine ⟨hperm, (hperm.map _).eq_of_pairwise (fun _ _ _ _ => le_antisymm) ?_ ?_⟩
  · -- whole microseconds are sorted as their times are
    rw [List.map_map, List.pairwise_map]
    refine (sorted_queryEvents answer).imp_of_mem fun {entry entry'} hmem _ hle => ?_
    have hentry := List.mem_of_mem_filter ((queryEvents_perm answer).mem_iff.mp hmem)
    exact (micros_le_iff (hwhole entry hentry)).mp hle
  · refine List.pairwise_map.mpr ((List.pairwise_mergeSort ?_ ?_ _).imp of_decide_eq_true)
    · intro _ _ _ hle hle'
      exact decide_eq_true ((of_decide_eq_true hle).trans (of_decide_eq_true hle'))
    · intro entry entry'
      simpa using le_total entry.timestamp entry'.timestamp

end Answers

/-- A node is added. -/
def nodeAdded : RawEntry where
  id := "evt-1"
  tenantID := "tenant-1"
  timestamp := 60 * 10 ^ 9
  type := "node_added"
  agentID := "agent-1"
  payload := []

/-- The connection is lost after the row was inserted, and the event is recorded again. -/
def retried : List Call := [⟨nodeAdded, "", .execFailed true⟩, ⟨nodeAdded, "", .inserted⟩]

/-- A node is added at the same time. -/
def alsoAdded : RawEntry := { nodeAdded with id := "evt-2" }

/-- Two events of one time. -/
def twoAdded : List Call := [⟨nodeAdded, "", .inserted⟩, ⟨alsoAdded, "", .inserted⟩]

/-- The later row first. -/
def swapped : Answer (recordAll twoAdded) "tenant-1" 0 (10 ^ 12) where
  sent := [row alsoAdded, row nodeAdded]
  perm := List.Perm.swap ..
  sorted := by decide

theorem queryEvents_of_answer_swapped :
    let found := (queryEvents swapped).map (toLog fun _ => (.nodeRemoved "" : Payload Unit))
    let log := EventLog.queryEvents (((recorded twoAdded).filter (·.tenantID = "tenant-1")).map
      (toLog fun _ => .nodeRemoved "")) 0 (10 ^ 12)
    found.Perm log ∧ found.map EventLogEntry.timestamp = log.map EventLogEntry.timestamp :=
  queryEvents_of_answer _ (by decide) (by decide) swapped

/-- The event is in the table twice. -/
theorem not_recordsOnce_retried : ¬ RecordsOnce retried := by
  intro h
  exact absurd h.once (by decide)

end EventTable

end Paryty.Timeline

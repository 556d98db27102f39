import Mathlib.Data.Int.Notation
import Paryty.Lib.Json
import Paryty.Lib.Table

/-!
# The audit logger

`AuditLogger` queues events in a bounded channel, from which one worker writes them to the table
`audit_log`. Each event gets the hash of the previous hash and its own data; the hash of the last
event is kept in memory.

* `sha256` is the hexadecimal SHA-256 of a string. Nothing is used about it but, where a theorem
  says so, that it is injective.
* `Reading` is what the database makes of a value on its way into a column and back.
* A statement may also fail for other reasons; whether it does is an argument of the step.
-/

namespace Paryty.Security

open Lib (Json.Value)

/-- A point in time, in nanoseconds since the epoch. -/
abbrev Time := ℤ

/-- A single auditable action. `Hash` is kept beside it. -/
structure AuditEvent where
  id : String := ""
  tenantID : String := ""
  userID : String := ""
  action : String := ""
  resourceType : String := ""
  resourceID : String := ""
  details : Json.Value := .null
  ipAddress : String := ""
  userAgent : String := ""
  createdAt : Time := 0

/-! ## The hash chain -/

/-- The details as JSON; those that have no JSON text count as empty. -/
def AuditEvent.detailsJSON (event : AuditEvent) : String :=
  (Lib.Json.marshal event.details).getD "\x7b\x7d"

/-- What is hashed for an event. -/
def hashInput (previousHash : String) (event : AuditEvent) : String :=
  previousHash ++ event.id ++ event.tenantID ++ event.userID ++ event.action ++
    event.resourceType ++ event.resourceID ++ event.detailsJSON ++ event.ipAddress ++
    event.userAgent

/-! ## The table -/

/-- What the database makes of values: the canonical text of a UUID, or none if it is no UUID, and
the text of a number of a JSON document that is read into a `float64` and written again. -/
structure Reading where
  uuid : String → Option String
  number : String → String

/-- A row of `audit_log`: the values that were inserted, the id they got, and `created_at`, which
the INSERT leaves to its default. -/
structure AuditRow where
  id : String
  event : AuditEvent
  createdAt : Time
  hash : String

/-- The table. The id is its primary key. -/
abbrev AuditTable := Lib.Table AuditRow String AuditRow.id

/-- `INSERT INTO audit_log`. It fails if a UUID column gets something else, and if there is a row
with the id. -/
def insertRow (reading : Reading) (table : AuditTable) (event : AuditEvent) (hash : String)
    (now : Time) : Option AuditTable := do
  let id ← reading.uuid event.id
  let _ ← reading.uuid event.tenantID
  let _ ← reading.uuid event.userID
  table.insert { id, event, createdAt := now, hash }

/-- The details that are stored. -/
def AuditEvent.storedDetails (event : AuditEvent) : Json.Value :=
  match Lib.Json.marshal event.details with
  | none => .object []
  | some _ => event.details

/-- The event of a row, as it is read back. -/
def AuditRow.read (reading : Reading) (row : AuditRow) : AuditEvent :=
  { row.event with
    id := row.id
    tenantID := (reading.uuid row.event.tenantID).getD ""
    userID := (reading.uuid row.event.userID).getD ""
    details := Lib.Json.reread reading.number row.event.storedDetails
    createdAt := row.createdAt }

/-! ## The logger -/

/-- The logger with the table it writes to. Without a database it drops what is queued. -/
structure AuditLogger where
  table : AuditTable := .empty
  db : Bool
  bufferSize : ℕ
  events : List AuditEvent := []
  lastHash : String := ""

/-- Start a logger over the table. -/
def newAuditLogger (table : AuditTable) (db : Bool) (bufferSize : ℤ) : AuditLogger :=
  { table, db, bufferSize := if bufferSize ≤ 0 then 4096 else bufferSize.toNat }

/-- The event with an id and a time. -/
def AuditEvent.complete (event : AuditEvent) (newID : String) (now : Time) : AuditEvent :=
  { event with
    id := if event.id = "" then newID else event.id
    createdAt := if event.createdAt = 0 then now else event.createdAt }

namespace AuditLogger

/-- Queue an event, or drop it if the channel is full. -/
def log (logger : AuditLogger) (event : AuditEvent) (newID : String) (now : Time) : AuditLogger :=
  if logger.events.length < logger.bufferSize then
    { logger with events := logger.events ++ [event.complete newID now] }
  else logger

/-- Write an event to the table; a failed INSERT is passed over. -/
def persist (sha256 : String → String) (reading : Reading) (logger : AuditLogger)
    (event : AuditEvent) (ok : Bool) (now : Time) : AuditLogger :=
  if logger.db then
    let hash := sha256 (hashInput logger.lastHash event)
    let inserted := if ok then insertRow reading logger.table event hash now else none
    { logger with
      lastHash := hash
      table := inserted.getD logger.table }
  else logger

/-- What can happen: a call of `Log`, the worker takes the next event, the process restarts. -/
inductive Event
  | log (event : AuditEvent) (newID : String) (now : Time)
  | persist (ok : Bool) (now : Time)
  | restart (db : Bool) (bufferSize : ℤ)

/-- One event. -/
def step (sha256 : String → String) (reading : Reading) (logger : AuditLogger) :
    Event → Option AuditLogger
  | .log event newID now => some (logger.log event newID now)
  | .persist ok now =>
    match logger.events with
    | [] => none
    | event :: events =>
      some ({ logger with events }.persist sha256 reading event ok now)
  | .restart db bufferSize => some (newAuditLogger logger.table db bufferSize)

end AuditLogger

end Paryty.Security

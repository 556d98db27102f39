import Paryty.Lib.Run
import Paryty.Security.Audit

/-!
# The audit chain

"`lastHash` tracks the hash of the last persisted event for chain integrity." It is advanced
before the INSERT, whether or not that succeeds, and a new process starts with none.

`Unbroken` asks that no INSERT fails and that a process starts over an empty table only.
`audit_chain_continuous`: in every run that respects it the stored rows form one hash chain, and
`lastHash` is the hash of the last of them.
-/

namespace Paryty.Security

variable {sha256 : String → String} {reading : Reading}

/-! ## Chains -/

/-- Each row has the hash of the previous hash and its event. -/
def Linked (sha256 : String → String) : String → List AuditRow → Prop
  | _, [] => True
  | previousHash, row :: rows =>
    row.hash = sha256 (hashInput previousHash row.event) ∧ Linked sha256 row.hash rows

/-- The hash of the last row, or the one before the first. -/
def lastStored : String → List AuditRow → String
  | previousHash, [] => previousHash
  | _, row :: rows => lastStored row.hash rows

/-- The stored rows form one chain, and the logger has its end. -/
structure Continuous (sha256 : String → String) (logger : AuditLogger) : Prop where
  last : logger.lastHash = lastStored "" logger.table.rows
  linked : Linked sha256 "" logger.table.rows

lemma linked_append {previousHash : String} {rows : List AuditRow} {row : AuditRow} :
    Linked sha256 previousHash (rows ++ [row]) ↔ Linked sha256 previousHash rows ∧
      row.hash = sha256 (hashInput (lastStored previousHash rows) row.event) := by
  induction rows generalizing previousHash with
  | nil => simp [Linked, lastStored]
  | cons row' rows ih => simp [Linked, lastStored, ih, and_assoc]

lemma lastStored_append {previousHash : String} {rows : List AuditRow} {row : AuditRow} :
    lastStored previousHash (rows ++ [row]) = row.hash := by
  induction rows generalizing previousHash with
  | nil => rfl
  | cons row' rows ih => exact ih

instance (previousHash : String) (rows : List AuditRow) :
    Decidable (Linked sha256 previousHash rows) := by
  induction rows generalizing previousHash with
  | nil => exact isTrue trivial
  | cons row rows ih =>
    have := ih row.hash
    exact inferInstanceAs (Decidable (_ ∧ _))

/-! ## Steps -/

/-- The INSERT of the event succeeds. -/
def AuditLogger.Inserts (reading : Reading) (logger : AuditLogger) (event : AuditEvent)
    (ok : Bool) (now : Time) : Prop :=
  ok = true ∧ (insertRow reading logger.table event "" now).isSome = true

/-- An event does not break the chain: the INSERT of the next event succeeds, and a process starts
over an empty table. -/
def Unbroken (reading : Reading) (logger : AuditLogger) : AuditLogger.Event → Prop
  | .persist ok now => logger.db = true →
    ∀ event ∈ logger.events.head?, logger.Inserts reading event ok now
  | .restart _ _ => logger.table.rows = []
  | .log _ _ _ => True

lemma rows_insertRow {table table' : AuditTable} {event : AuditEvent} {hash : String} {now : Time}
    (h : insertRow reading table event hash now = some table') :
    ∃ id, table'.rows = table.rows ++ [{ id, event, createdAt := now, hash }] := by
  simp only [insertRow, Option.bind_eq_bind, Option.bind_eq_some_iff] at h
  obtain ⟨id, -, -, -, -, -, hinsert⟩ := h
  refine ⟨id, ?_⟩
  unfold Lib.Table.insert at hinsert
  split at hinsert
  case isTrue => exact absurd hinsert (by simp)
  case isFalse => rw [← Option.some.inj hinsert]; rfl

lemma insertRow_of_user {table : AuditTable} {event : AuditEvent} {hash : String} {now : Time}
    (h : reading.uuid event.userID = none) : insertRow reading table event hash now = none := by
  unfold insertRow
  rw [h]
  cases reading.uuid event.id with
  | none => rfl
  | some id => cases reading.uuid event.tenantID <;> rfl

/-- A failed INSERT advances `lastHash` all the same. -/
lemma AuditLogger.persist_refused {logger : AuditLogger} {event : AuditEvent} {ok : Bool}
    {now : Time} (hdb : logger.db = true)
    (h : ∀ hash, insertRow reading logger.table event hash now = none) :
    logger.persist sha256 reading event ok now =
      { logger with lastHash := sha256 (hashInput logger.lastHash event) } := by
  unfold AuditLogger.persist
  rw [if_pos hdb]
  cases ok <;> simp [h]

lemma isSome_insertRow (table : AuditTable) (event : AuditEvent) (hash : String) (now : Time) :
    (insertRow reading table event hash now).isSome =
      (insertRow reading table event "" now).isSome := by
  have hkey : ∀ id : String, (table.insert ⟨id, event, now, hash⟩).isSome =
      (table.insert ⟨id, event, now, ""⟩).isSome := by
    intro id
    unfold Lib.Table.insert
    by_cases h : table.HasKey id <;> simp [h]
  unfold insertRow
  cases reading.uuid event.id with
  | none => rfl
  | some id =>
    cases reading.uuid event.tenantID with
    | none => rfl
    | some tenantID =>
      cases reading.uuid event.userID with
      | none => rfl
      | some userID => exact hkey id

lemma Continuous.persist {logger : AuditLogger} {event : AuditEvent} {ok : Bool} {now : Time}
    (h : Continuous sha256 logger) (hinserts : logger.db = true →
      logger.Inserts reading event ok now) :
    Continuous sha256 (logger.persist sha256 reading event ok now) := by
  unfold AuditLogger.persist
  cases hdb : logger.db with
  | false => exact ⟨h.last, h.linked⟩
  | true =>
    obtain ⟨rfl, hsome⟩ := hinserts hdb
    rw [← isSome_insertRow _ _ (sha256 (hashInput logger.lastHash event))] at hsome
    obtain ⟨table', htable⟩ := Option.isSome_iff_exists.mp hsome
    obtain ⟨id, hrows⟩ := rows_insertRow htable
    simp only [if_true, htable, Option.getD_some]
    constructor
    · show sha256 _ = lastStored "" table'.rows
      rw [hrows, lastStored_append]
    · show Linked sha256 "" table'.rows
      rw [hrows, linked_append, ← h.last]
      exact ⟨h.linked, rfl⟩

lemma Continuous.step {logger logger' : AuditLogger} {e : AuditLogger.Event}
    (h : Continuous sha256 logger) (hunbroken : Unbroken reading logger e)
    (hstep : logger.step sha256 reading e = some logger') : Continuous sha256 logger' := by
  cases e with
  | log event newID now =>
    obtain rfl := Option.some.inj hstep
    unfold AuditLogger.log
    split
    · exact ⟨h.last, h.linked⟩
    · exact h
  | persist ok now =>
    cases hevents : logger.events with
    | nil => simp [AuditLogger.step, hevents] at hstep
    | cons event events =>
      simp only [AuditLogger.step, hevents, Option.some.injEq] at hstep
      subst hstep
      have hcontinuous : Continuous sha256 { logger with events } := ⟨h.last, h.linked⟩
      exact hcontinuous.persist fun hdb => hunbroken hdb event (by rw [hevents]; rfl)
  | restart db bufferSize =>
    obtain rfl := Option.some.inj hstep
    have hempty : logger.table.rows = [] := hunbroken
    constructor
    · show "" = lastStored "" logger.table.rows
      rw [hempty]
      rfl
    · exact h.linked

/-- The audit chain is continuous. In every run in which no INSERT fails and a process starts over
an empty table only, the stored rows form one hash chain and `lastHash` is the hash of the last
of them. -/
theorem audit_chain_continuous (sha256 : String → String) (reading : Reading) (db : Bool)
    (bufferSize : ℤ) {es : List AuditLogger.Event} {logger : AuditLogger}
    (run : Lib.Run (AuditLogger.step sha256 reading) (Unbroken reading)
      (newAuditLogger .empty db bufferSize) es logger) :
    Continuous sha256 logger :=
  run.invariant (fun _ _ _ h hunbroken hstep => h.step hunbroken hstep) ⟨rfl, trivial⟩

section Runs

instance (logger : AuditLogger) (e : AuditLogger.Event) : Decidable (Unbroken reading logger e) :=
  match e with
  | .persist ok _ =>
    inferInstanceAs (Decidable (_ → ∀ event ∈ logger.events.head?, ok = true ∧ _))
  | .restart _ _ => decidable_of_iff (logger.table.rows.isEmpty = true) List.isEmpty_iff
  | .log _ _ _ => isTrue trivial

/-- A user logs in. -/
def loginEvent : AuditEvent where
  id := "6f9619ff-8b86-d011-b42d-00c04fc964ff"
  tenantID := "123e4567-e89b-12d3-a456-426614174000"
  userID := "00112233-4455-6677-8899-aabbccddeeff"
  action := "auth.login"
  resourceType := "user"
  resourceID := "00112233-4455-6677-8899-aabbccddeeff"
  createdAt := 1

/-- And out again. -/
def logoutEvent : AuditEvent :=
  { loginEvent with
    id := "7d444840-9dc0-11d1-b245-5ffdce74fad2"
    action := "auth.logout"
    details := .object [("token_family_revoked", .bool true)]
    createdAt := 2 }

/-- A column of type UUID takes texts of 36 characters. -/
def plainReading : Reading where
  uuid s := if s.length = 36 then some s else none
  number := id

/-- Both events are stored one after the other. -/
theorem audit_chain_continuous_witness :
    ∃ (sha256 : String → String) (logger : AuditLogger),
      logger.table.rows.map AuditRow.hash =
        ["5127f789c2aa82345a3d2e41a136420fa3aa97bd638e16f32b1306c4a868b16a",
          "bb99365b4f687895023a1bad7a9882fad9f9f9feeb1b8dd14564420c192fb4d6"] ∧
      Continuous sha256 logger := by
  let first := "5127f789c2aa82345a3d2e41a136420fa3aa97bd638e16f32b1306c4a868b16a"
  let second := "bb99365b4f687895023a1bad7a9882fad9f9f9feeb1b8dd14564420c192fb4d6"
  let sha256 : String → String := fun s =>
    if s = hashInput "" loginEvent then first
    else if s = hashInput first logoutEvent then second
    else s
  let es : List AuditLogger.Event :=
    [.log loginEvent "" 1, .log logoutEvent "" 2, .persist true 3, .persist true 4]
  have hfold : (es.foldlM (Lib.restrict (AuditLogger.step sha256 plainReading)
      (Unbroken plainReading)) (newAuditLogger .empty true 0)).map (fun logger =>
        logger.table.rows.map AuditRow.hash) = some [first, second] := by
    decide +kernel
  obtain ⟨logger, hlogger, hhashes⟩ := Option.map_eq_some_iff.mp hfold
  exact ⟨sha256, logger, hhashes, audit_chain_continuous sha256 plainReading true 0
    (Lib.run_iff_foldlM_restrict.mpr hlogger)⟩

/-- A handler logs an event without a user, whose INSERT fails: `lastHash` is the hash of an event
that is not stored, whatever the hash function. -/
theorem audit_chain_breaks : ¬ ∃ sha256 : String → String, (∀ s, sha256 s ≠ "") ∧
    ∀ (reading : Reading) (db : Bool) (bufferSize : ℤ) (es : List AuditLogger.Event)
      (logger : AuditLogger), Lib.Run (AuditLogger.step sha256 reading) Lib.Unguarded
        (newAuditLogger .empty db bufferSize) es logger → Continuous sha256 logger := by
  rintro ⟨sha256, hsha256, h⟩
  let event : AuditEvent :=
    { loginEvent with
      userID := ""
      action := "twin.create"
      resourceType := "twin" }
  let es : List AuditLogger.Event := [.log event "" 1, .persist true 2]
  have hfold : (es.foldlM (AuditLogger.step sha256 plainReading) (newAuditLogger .empty true 0)) =
      some { newAuditLogger .empty true 0 with lastHash := sha256 (hashInput "" event) } := by
    have huser : plainReading.uuid event.userID = none := by decide
    show some (AuditLogger.persist sha256 plainReading _ event true 2) = _
    rw [AuditLogger.persist_refused rfl fun hash => insertRow_of_user huser]
    rfl
  have hlast := (h plainReading true 0 es _ (Lib.run_iff_foldlM.mpr hfold)).last
  exact hsha256 _ hlast

end Runs

end Paryty.Security

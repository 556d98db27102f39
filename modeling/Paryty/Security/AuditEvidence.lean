import Mathlib.Logic.Equiv.Basic
import Paryty.Security.AuditChain

/-!
# Tamper evidence

"This creates a tamper-evident chain: modifying any event breaks the chain." The string that is
hashed joins the fields without separators and leaves `CreatedAt` out, so no event is told by it
alone. What the hash does show is the change of a single field: of any but `CreatedAt`, and of
`Details` if their JSON text changes.

An event read back from its row gives the string again if its ids are in the canonical form and
its details are.
-/

namespace Paryty.Security

/-! ## Changes of one field -/

/-- A new value for one of the things that go into a hash. -/
inductive Change
  | previousHash (new : String)
  | id (new : String)
  | tenantID (new : String)
  | userID (new : String)
  | action (new : String)
  | resourceType (new : String)
  | resourceID (new : String)
  | details (new : Lib.Json.Value)
  | ipAddress (new : String)
  | userAgent (new : String)
  | createdAt (new : Time)

namespace Change

/-- The previous hash after the change. -/
def hash (previousHash : String) : Change → String
  | .previousHash new => new
  | _ => previousHash

/-- The event after the change. -/
def apply (event : AuditEvent) : Change → AuditEvent
  | .previousHash _ => event
  | .id new => { event with id := new }
  | .tenantID new => { event with tenantID := new }
  | .userID new => { event with userID := new }
  | .action new => { event with action := new }
  | .resourceType new => { event with resourceType := new }
  | .resourceID new => { event with resourceID := new }
  | .details new => { event with details := new }
  | .ipAddress new => { event with ipAddress := new }
  | .userAgent new => { event with userAgent := new }
  | .createdAt new => { event with createdAt := new }

/-- The change shows in the hash: the value is another one, and hashed. -/
def Shows (previousHash : String) (event : AuditEvent) : Change → Prop
  | .previousHash new => new ≠ previousHash
  | .id new => new ≠ event.id
  | .tenantID new => new ≠ event.tenantID
  | .userID new => new ≠ event.userID
  | .action new => new ≠ event.action
  | .resourceType new => new ≠ event.resourceType
  | .resourceID new => new ≠ event.resourceID
  | .details new => { event with details := new }.detailsJSON ≠ event.detailsJSON
  | .ipAddress new => new ≠ event.ipAddress
  | .userAgent new => new ≠ event.userAgent
  | .createdAt _ => False

lemma hashInput_ne_iff (previousHash : String) (event : AuditEvent) (change : Change) :
    hashInput (change.hash previousHash) (change.apply event) ≠ hashInput previousHash event ↔
      change.Shows previousHash event := by
  cases change with
  | details new =>
    simp only [hashInput, hash, apply, Shows, ne_eq, String.append_left_inj,
      String.append_right_inj]
  | createdAt new => simp [hashInput, hash, apply, Shows, AuditEvent.detailsJSON]
  | _ =>
    simp only [hashInput, hash, apply, Shows, AuditEvent.detailsJSON, ne_eq,
      String.append_left_inj, String.append_right_inj]

end Change

/-! ## Rows -/

/-- The row is one that the INSERT of the event makes. -/
structure AuditRow.Stores (reading : Reading) (event : AuditEvent) (row : AuditRow) : Prop where
  values : row.event = event
  id : reading.uuid event.id = some row.id
  tenantID : (reading.uuid event.tenantID).isSome = true
  userID : (reading.uuid event.userID).isSome = true

/-- The ids of the event are in the canonical form, and so are its details. -/
structure Reproducible (reading : Reading) (event : AuditEvent) : Prop where
  id : reading.uuid event.id = some event.id
  tenantID : reading.uuid event.tenantID = some event.tenantID
  userID : reading.uuid event.userID = some event.userID
  details : (Lib.Json.marshal event.details).isSome = true →
    Lib.Json.Canonical reading.number event.details

lemma marshal_reread {reading : Reading} {event : AuditEvent} (h : Reproducible reading event) :
    (Lib.Json.marshal (Lib.Json.reread reading.number event.storedDetails)).getD "\x7b\x7d" =
      event.detailsJSON := by
  unfold AuditEvent.storedDetails AuditEvent.detailsJSON
  cases hmarshal : Lib.Json.marshal event.details with
  | none => rfl
  | some text =>
    rw [Lib.Json.reread_of_canonical (h.details (by rw [hmarshal]; rfl)), hmarshal]

lemma hashInput_read {reading : Reading} {event : AuditEvent} {row : AuditRow}
    (h : Reproducible reading event) (hrow : row.Stores reading event) (previousHash : String) :
    hashInput previousHash (row.read reading) = hashInput previousHash event := by
  have hid : row.id = event.id := Option.some.inj (hrow.id.symm.trans h.id)
  have hdetails : (row.read reading).detailsJSON = event.detailsJSON := by
    rw [← marshal_reread h, ← hrow.values]
    rfl
  unfold hashInput
  rw [hdetails]
  simp [AuditRow.read, hrow.values, hid, h.tenantID, h.userID]

/-! ## Evidence -/

/-- What the hash is to be for an event: no other event with any previous hash has it, and the
string that is hashed can be had from the row. -/
structure TamperEvident (sha256 : String → String) (reading : Reading) (previousHash : String)
    (event : AuditEvent) : Prop where
  only : ∀ previousHash' event', sha256 (hashInput previousHash' event') =
    sha256 (hashInput previousHash event) → previousHash' = previousHash ∧ event' = event
  recomputed : ∀ row : AuditRow, row.Stores reading event →
    hashInput previousHash (row.read reading) = hashInput previousHash event

/-- Tamper evidence of the audit log. No event is told by its hash, since `CreatedAt` is left out.
A change of one field shows if and only if it is a change of another field, and for the details
of their text. The string can be had from the row of an event in canonical form. -/
theorem audit_hash_tamper_evidence (sha256 : String → String)
    (hsha256 : Function.Injective sha256) (reading : Reading) (previousHash : String)
    (event : AuditEvent) :
    ¬ TamperEvident sha256 reading previousHash event ∧
      (∀ change : Change, sha256 (hashInput (change.hash previousHash) (change.apply event)) ≠
        sha256 (hashInput previousHash event) ↔ change.Shows previousHash event) ∧
      (Reproducible reading event → ∀ row : AuditRow, row.Stores reading event →
        hashInput previousHash (row.read reading) = hashInput previousHash event) := by
  refine ⟨fun h => ?_, fun change => ?_, fun h row hrow => hashInput_read h hrow previousHash⟩
  · -- The event at another time.
    have hsame : hashInput previousHash { event with createdAt := event.createdAt + 1 } =
        hashInput previousHash event := rfl
    obtain ⟨-, hevent⟩ := h.only previousHash _ (congrArg sha256 hsame)
    have htime : event.createdAt + 1 = event.createdAt := congrArg AuditEvent.createdAt hevent
    exact absurd htime (Int.lt_succ event.createdAt).ne'
  · rw [← change.hashInput_ne_iff previousHash event]
    exact hsha256.ne_iff

/-- A login, hashed first: another action shows, another time does not, and the row gives the
string again. -/
theorem audit_hash_tamper_evidence_witness : ∃ sha256 : String → String,
    sha256 (hashInput "" loginEvent) =
      "5127f789c2aa82345a3d2e41a136420fa3aa97bd638e16f32b1306c4a868b16a" ∧
    ¬ TamperEvident sha256 plainReading "" loginEvent ∧
    sha256 (hashInput "" { loginEvent with action := "auth.logout" }) ≠
      sha256 (hashInput "" loginEvent) ∧
    hashInput "" (AuditRow.read plainReading ⟨loginEvent.id, loginEvent, 5, ""⟩) =
      hashInput "" loginEvent := by
  let digest := "5127f789c2aa82345a3d2e41a136420fa3aa97bd638e16f32b1306c4a868b16a"
  let sha256 := Equiv.swap (hashInput "" loginEvent) digest
  obtain ⟨hnot, hshows, hreread⟩ := audit_hash_tamper_evidence sha256 sha256.injective plainReading
    "" loginEvent
  refine ⟨sha256, Equiv.swap_apply_left _ _, hnot, ?_, ?_⟩
  · have hother : "auth.logout" ≠ loginEvent.action := by decide
    exact (hshows (.action "auth.logout")).mpr hother
  · exact hreread ⟨rfl, rfl, rfl, fun _ => trivial⟩ _ ⟨rfl, rfl, rfl, rfl⟩

/-- Text can move from a field to the next one; and details with a struct whose fields are not in
order come back with another text. -/
theorem audit_hash_ambiguous :
    (¬ ∀ (previousHash previousHash' : String) (event event' : AuditEvent),
      hashInput previousHash' event' = hashInput previousHash event →
        previousHash' = previousHash ∧ event' = event) ∧
    ¬ ∀ (reading : Reading) (previousHash : String) (event : AuditEvent) (row : AuditRow),
      row.Stores reading event →
        hashInput previousHash (row.read reading) = hashInput previousHash event := by
  constructor
  · intro h
    let moved : AuditEvent :=
      { loginEvent with
        action := "auth"
        resourceType := ".loginuser" }
    have hsame : hashInput "" moved = hashInput "" loginEvent := by decide +kernel
    obtain ⟨-, hevent⟩ := h "" "" loginEvent moved hsame
    have haction : "auth" = "auth.login" := congrArg AuditEvent.action hevent
    exact absurd haction (by decide)
  · intro h
    let event : AuditEvent :=
      { loginEvent with
        details := .object
          [("request", .object [("method", .string "GET"), ("duration", .number "5")])] }
    have hsame := h plainReading "" event ⟨event.id, event, 5, ""⟩
      ⟨rfl, by decide, by decide, by decide⟩
    exact absurd hsame (by decide +kernel)

end Paryty.Security

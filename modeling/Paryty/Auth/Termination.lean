import Mathlib.Data.Fintype.Basic
import Paryty.Auth.Stages
import Paryty.Lib.Run

/-!
# Logout and reuse detection terminate every session

"Logout should terminate every session, not just the current one." A session of a user begins
with a login and goes on through the tokens that refreshes derive from its first one.

* The lookup of `Logout` asks for a column that `refresh_tokens` does not have and always fails,
  so only the presented token is revoked.
* An UPDATE sees the rows that are there when it is issued. A refresh that is under way has its
  old token revoked and stores the new one afterwards.
* Both calls go on when their UPDATE fails.

`InTime` rules these out. `sessions_terminated`: in every run that respects it, once a logout or
a reuse detection of a user is through with its UPDATE, no token of the user is unrevoked that
comes from a session begun before the call.
-/

namespace Paryty.Auth

open Lib.Table (find?_deletes_from find?_put find?_eq_some mem_put)

/-! ## History -/

/-- What is remembered of an open call: how many sessions had begun when it was made, the session
of the token that a refresh presents, and the user whose sessions the call is to terminate. -/
structure Trail where
  since : ℕ := 0
  lineage : ℕ := 0
  user : Option UserID := none

/-- The sessions begun so far are numbered, from 0 for those of the first tables; `origin` is the
session of a stored token. Of a user the sessions before `ended` have been terminated. -/
structure History (ι : Type) where
  begun : ℕ := 1
  origin : TokenHash → ℕ := fun _ => 0
  ended : UserID → ℕ := fun _ => 0
  trails : ι → Trail := fun _ => {}

/-- The owner of the token, if it is revoked. -/
def revokedOwner (hash : TokenHash) (s : Store) : Option UserID :=
  (s.tokens.find? hash).bind fun row => if row.revoked then some row.userID else none

/-- The owner of the token, if it is not revoked. -/
def activeOwner (hash : TokenHash) (s : Store) : Option UserID :=
  (s.tokens.find? hash).bind fun row => if row.revoked then none else some row.userID

/-- The call is a refresh. -/
def Call.refreshes : Call → Bool
  | .refreshToken _ _ _ => true
  | _ => false

/-- The statement is the UPDATE of a logout or of the reuse detection. -/
def Sql.terminates {β : Type} : Sql β → Bool
  | .revokeFamily _ _ => true
  | .revokePresented _ _ => true
  | _ => false

section History

variable {ι : Type} [DecidableEq ι]

namespace History

/-- A new token is stored: of the session of the presented one, or of a new session. -/
def store (h : History ι) (i : ι) (call : Call) (hash : TokenHash) : History ι :=
  if call.refreshes then
    { h with origin := Function.update h.origin hash (h.trails i).lineage }
  else
    { h with
      begun := h.begun + 1
      origin := Function.update h.origin hash h.begun }

/-- The sessions of the user that had begun when the call was made are terminated. -/
def terminate (h : History ι) (i : ι) : History ι :=
  match (h.trails i).user with
  | none => h
  | some userID =>
    { h with ended := Function.update h.ended userID (max (h.ended userID) (h.trails i).since) }

/-- The call is about this user's sessions, and presents a token of this session. -/
def found (h : History ι) (i : ι) (user : Option UserID) (lineage : ℕ) : History ι :=
  { h with trails := Function.update h.trails i { h.trails i with user, lineage } }

lemma trails_found (h : History ι) (i : ι) (user : Option UserID) (lineage : ℕ) :
    (h.found i user lineage).trails i = { h.trails i with user, lineage } :=
  Function.update_self ..

/-- What an action at a statement adds. A logout is about the owner of an unrevoked token, a
refresh may become about the owner of a revoked one. -/
def observe (h : History ι) (i : ι) (call : Call) (s : Store) (a : Lib.Act) {β : Type} :
    Sql β → History ι
  | .lookupToken hash =>
    if a = .issue then h.found i (revokedOwner hash s) (h.origin hash) else h
  | .lookupOwner hash =>
    if a = .issue then h.found i (activeOwner hash s) (h.origin hash) else h
  | .insertToken row =>
    if a = .answer ∧ s.CanInsert row then h.store i call row.tokenHash else h
  | .revokeFamily _ _ => if a = .issue then h else h.terminate i
  | .revokePresented _ _ => if a = .issue then h else h.terminate i
  | _ => h

/-- What an event adds. -/
def next (h : History ι) (server : AuthServer ι) : Lib.ServerEvent ι Call → History ι
  | .call i _ => { h with trails := Function.update h.trails i { since := h.begun } }
  | .act i a =>
    match server.sessions i with
    | some ⟨call, .stmt q _, _, _⟩ => h.observe i call server.store a q
    | _ => h
  | .finish _ => h

/-- A row that the call is to revoke: an unrevoked token of the user, from a session that had
begun when the call was made. -/
def Due (h : History ι) (i : ι) (row : TokenRow) : Prop :=
  row.revoked = false ∧ (h.trails i).user = some row.userID ∧
    h.origin row.tokenHash < (h.trails i).since

instance (h : History ι) (i : ι) (row : TokenRow) : Decidable (h.Due i row) :=
  inferInstanceAs (Decidable (_ ∧ _ ∧ _))

end History

/-- The server with its history. -/
structure Watched (ι : Type) where
  server : AuthServer ι
  history : History ι

/-- One event. -/
def Watched.step (w : Watched ι) (e : Lib.ServerEvent ι Call) : Option (Watched ι) :=
  (w.server.step engine Call.program e).map fun server =>
    { server, history := w.history.next w.server e }

/-- The session has issued the UPDATE of a logout or of the reuse detection. -/
def Terminating (sess : CallSession) : Prop :=
  sess.snapshot.isSome = true ∧ (match sess.prog with
    | .stmt q _ => q.terminates
    | _ => false) = true

/-- What an action must respect.

* A refresh stores no token of a session that has been terminated, or that an UPDATE already
  issued is to terminate.
* When a logout revokes the presented token, it is the only one due.
* The UPDATE of a logout or of the reuse detection does not fail while a token is due. -/
def Watched.Timely (w : Watched ι) (i : ι) (call : Call) {β : Type} : Lib.Act → Sql β → Prop
  | .answer, .insertToken row => call.refreshes = true → w.server.store.CanInsert row →
    w.history.ended row.userID ≤ (w.history.trails i).lineage ∧
      ∀ j, ∀ sess ∈ w.server.sessions j, Terminating sess →
        (w.history.trails j).user = some row.userID →
        (w.history.trails j).since ≤ (w.history.trails i).lineage
  | .answer, .revokePresented hash _ => ∀ row ∈ w.server.store.tokens.rows,
    w.history.Due i row → row.tokenHash = hash
  | .fail, q => q.terminates = true → ∀ row ∈ w.server.store.tokens.rows, ¬ w.history.Due i row
  | _, _ => True

/-- What an event must respect. -/
def InTime (w : Watched ι) : Lib.ServerEvent ι Call → Prop
  | .act i a => ∀ sess ∈ w.server.sessions i, match sess.prog with
    | .stmt q _ => w.Timely i sess.call a q
    | _ => True
  | _ => True

instance (sess : CallSession) : Decidable (Terminating sess) := inferInstanceAs (Decidable (_ ∧ _))

instance [Fintype ι] (w : Watched ι) (i : ι) (call : Call) {β : Type} (a : Lib.Act) (q : Sql β) :
    Decidable (w.Timely i call a q) := by
  unfold Watched.Timely
  split <;> infer_instance

/-- Whether an action on the next command of a session is timely. -/
private def decidableNext [Fintype ι] (w : Watched ι) (i : ι) (a : Lib.Act) (sess : CallSession) :
    Decidable (match sess.prog with
      | .stmt q _ => w.Timely i sess.call a q
      | _ => True) :=
  match sess.prog with
  | .stmt q _ => inferInstanceAs (Decidable (w.Timely i sess.call a q))
  | .ret _ => isTrue trivial
  | .begin _ => isTrue trivial
  | .commit _ => isTrue trivial

instance [Fintype ι] (w : Watched ι) : (e : Lib.ServerEvent ι Call) → Decidable (InTime w e)
  | .act i a =>
    have := decidableNext w i a
    inferInstanceAs (Decidable (∀ sess ∈ w.server.sessions i, match sess.prog with
      | .stmt q _ => w.Timely i sess.call a q
      | _ => True))
  | .call .. => isTrue trivial
  | .finish _ => isTrue trivial

end History

/-- No token of the user is unrevoked that comes from a terminated session. -/
def Terminated {ι : Type} (h : History ι) (s : Store) : Prop :=
  ∀ row ∈ s.tokens, row.revoked = false → h.ended row.userID ≤ h.origin row.tokenHash

/-! ## Rows that stay -/

/-- No unrevoked row is new. -/
def Kept (s s' : Store) : Prop := ∀ row ∈ s'.tokens, row.revoked = false → row ∈ s.tokens

lemma Kept.refl (s : Store) : Kept s s := fun _ hrow _ => hrow

lemma mem_revoke {snapshot current : Store} {p : TokenRow → Bool} {now : Time} {row : TokenRow}
    (h : row ∈ (Stage.revoke snapshot current p now).tokens) (hrevoked : row.revoked = false) :
    row ∈ current.tokens ∧ (p row && (snapshot.tokens.find? row.tokenHash).any p) = false := by
  have hfind : (Stage.revoke snapshot current p now).tokens.find? row.tokenHash = some row :=
    find?_eq_some.mpr ⟨h, rfl⟩
  rw [Stage.find?_revoke] at hfind
  obtain ⟨row₀, hrow₀, hrow⟩ := Option.map_eq_some_iff.mp hfind
  split at hrow
  case isTrue =>
    rw [← hrow] at hrevoked
    exact absurd hrevoked (by simp [TokenRow.revoke, TokenRow.revoked])
  case isFalse hp =>
    subst hrow
    exact ⟨(find?_eq_some.mp hrow₀).1, by simpa using hp⟩

lemma kept_revoke (snapshot current : Store) (p : TokenRow → Bool) (now : Time) :
    Kept current (Stage.revoke snapshot current p now) :=
  fun _ hrow hrevoked => (mem_revoke hrow hrevoked).1

lemma kept_deletes (snapshot current : Store) (p : TokenRow → Bool) :
    Kept current { current with
      tokens := (Lib.Table.deletes snapshot.tokens current.tokens p).foldl Lib.Table.write
        current.tokens } := by
  intro row hrow _
  have hfind := find?_eq_some.mpr ⟨hrow, rfl⟩
  rw [find?_deletes_from] at hfind
  exact (find?_eq_some.mp (Option.filter_eq_some_iff.mp hfind).1).1

/-! ## Sessions -/

/-- The session's part in the history: a call that is to terminate sessions knows whose. -/
def Stage.Knows (user : Option UserID) (snapshot : Option Store) : Stage → Prop
  | lookupToken hash _ _ => ∀ snap, snapshot = some snap → user = revokedOwner hash snap
  | reuse userID _ => user = some userID
  | revokeFamily _ _ => False
  | _ => True

lemma Stage.knows_issue {user : Option UserID} (generated : Option Generated) (found : UserRow)
    (clocks : Clocks) : (issue generated found clocks).Knows user none := by
  cases generated <;> trivial

lemma Stage.knows_foundUser {user : Option UserID} (found : Option UserRow)
    (generated : Option Generated) (clocks : Clocks) :
    (foundUser found generated clocks).Knows user none := by
  cases found with
  | none => trivial
  | some found =>
    simp only [foundUser]
    split
    · exact knows_issue _ _ _
    · trivial

lemma Stage.knows_foundEmail {user : Option UserID} (found : Option UserRow) (verifies : Bool)
    (generated : Option Generated) (clocks : Clocks) :
    (foundEmail found verifies generated clocks).Knows user none := by
  cases found with
  | none => trivial
  | some found =>
    simp only [foundEmail]
    split
    · split
      · exact knows_issue _ _ _
      · trivial
    · trivial

lemma Stage.knows_start {user : Option UserID} (call : Call) : (start call).Knows user none := by
  cases call with
  | refreshToken hash generated clocks =>
    cases hash with
    | none => trivial
    | some hash => exact fun snap hsnap => absurd hsnap (by simp)
  | logout hash clocks => cases hash <;> trivial
  | login email password generated clocks =>
    cases password with
    | none => trivial
    | some verifies =>
      simp only [start]
      split <;> trivial

/-- The stage has the UPDATE of a logout or of the reuse detection. -/
def Stage.terminates : Stage → Bool
  | reuse _ _ => true
  | revokeFamily _ _ => true
  | revokePresented _ _ => true
  | _ => false

lemma Stage.terminates_prog (stage : Stage) :
    (match stage.prog with
      | .stmt q _ => q.terminates
      | _ => false) = stage.terminates := by
  cases stage <;> rfl

section Standing

variable {ι : Type} {h h' : History ι} {s s' : Store} {i : ι}

/-- The snapshot has every row that is due, unrevoked. -/
def Sees (h : History ι) (s : Store) (i : ι) (snap : Store) : Prop :=
  ∀ row ∈ s.tokens, h.Due i row → ∃ row₀, snap.tokens.find? row.tokenHash = some row₀ ∧
    row₀.userID = row.userID ∧ row₀.revoked = false

/-- Where an open session stands. -/
structure Stands (h : History ι) (s : Store) (i : ι) (stage : Stage) (snapshot : Option Store) :
    Prop where
  knows : stage.Knows (h.trails i).user snapshot
  sees : stage.terminates = true → ∀ snap, snapshot = some snap → Sees h s i snap

/-- What an action of a session leaves to the others: their trails, and of the rows only those
that are not due to them are new. -/
structure Beside (w : Watched ι) (i : ι) (h' : History ι) (s' : Store) : Prop where
  trails : ∀ j, j ≠ i → h'.trails j = w.history.trails j
  rows : ∀ row ∈ s'.tokens, row.revoked = false →
    (row ∈ w.server.store.tokens ∧
      h'.origin row.tokenHash = w.history.origin row.tokenHash) ∨
    ∀ j, ∀ sess ∈ w.server.sessions j, Terminating sess →
      (w.history.trails j).user = some row.userID →
      (w.history.trails j).since ≤ h'.origin row.tokenHash

lemma Stands.beside {w : Watched ι} {j : ι} {stage : Stage} {call : Call}
    {snapshot : Option Store} (hstands : Stands w.history w.server.store j stage snapshot)
    (hsess : w.server.sessions j = some (stage.session call snapshot))
    (hbeside : Beside w i h' s') (hj : j ≠ i) : Stands h' s' j stage snapshot := by
  have htrail : h'.trails j = w.history.trails j := hbeside.trails j hj
  refine ⟨by rw [htrail]; exact hstands.knows, ?_⟩
  rintro hterminates snap rfl row hrow ⟨hrevoked, huser, horigin⟩
  rw [htrail] at huser horigin
  rcases hbeside.rows row hrow hrevoked with ⟨hold, hsame⟩ | hnew
  · rw [hsame] at horigin
    exact hstands.sees hterminates snap rfl row hold ⟨hrevoked, huser, horigin⟩
  · have hterminating : Terminating (stage.session call (some snap)) :=
      ⟨rfl, stage.terminates_prog.trans hterminates⟩
    have hsince := hnew j _ hsess hterminating huser
    omega

end Standing

/-- What holds between the events of a run. -/
structure TerminationInv {ι : Type} (w : Watched ι) : Prop where
  terminated : Terminated w.history w.server.store
  ended_le : ∀ userID, w.history.ended userID ≤ w.history.begun
  since_le : ∀ i, (w.history.trails i).since ≤ w.history.begun
  standing : ∀ i sess, w.server.sessions i = some sess →
    ∃ (stage : Stage) (snapshot : Option Store), sess = stage.session sess.call snapshot ∧
      Stands w.history w.server.store i stage snapshot

/-- What follows from an action of session `i`, which leads it to the stage. -/
structure Outcome {ι : Type} (w : Watched ι) (i : ι) (h' : History ι) (s' : Store) (stage' : Stage)
    (snapshot' : Option Store) : Prop where
  beside : Beside w i h' s'
  since : (h'.trails i).since = (w.history.trails i).since
  begun : w.history.begun ≤ h'.begun
  ended_le : ∀ userID, h'.ended userID ≤ h'.begun
  terminated : Terminated h' s'
  stands : Stands h' s' i stage' snapshot'

section Outcome

variable {ι : Type} {w : Watched ι} {i : ι} {s' : Store} {stage' : Stage}
  {snapshot' : Option Store}

lemma beside_of_kept {h' : History ι} (hkept : Kept w.server.store s')
    (htrails : ∀ j, j ≠ i → h'.trails j = w.history.trails j)
    (horigin : h'.origin = w.history.origin) : Beside w i h' s' :=
  ⟨htrails, fun row hrow hrevoked => .inl ⟨hkept row hrow hrevoked, by rw [horigin]⟩⟩

lemma Outcome.quiet (hinv : TerminationInv w) (hkept : Kept w.server.store s')
    (hstands : Stands w.history s' i stage' snapshot') :
    Outcome w i w.history s' stage' snapshot' where
  beside := beside_of_kept hkept (fun _ _ => rfl) rfl
  since := rfl
  begun := Nat.le_refl _
  ended_le := hinv.ended_le
  terminated := fun row hrow hrevoked =>
    hinv.terminated row (hkept row hrow hrevoked) hrevoked
  stands := hstands

lemma Stands.plain {h : History ι} (hknows : stage'.Knows (h.trails i).user none) :
    Stands h s' i stage' none := ⟨hknows, by simp⟩

lemma Outcome.terminate (hinv : TerminationInv w) (hkept : Kept w.server.store s')
    (hdone : ∀ row ∈ s'.tokens, ¬ w.history.Due i row) (result : Result) :
    Outcome w i (w.history.terminate i) s' (.returned result) none := by
  unfold History.terminate
  cases huser : (w.history.trails i).user with
  | none => exact .quiet hinv hkept (.plain trivial)
  | some userID =>
    refine ⟨beside_of_kept hkept (fun _ _ => rfl) rfl, rfl, Nat.le_refl _, fun other => ?_,
      fun row hrow hrevoked => ?_, .plain trivial⟩
    · by_cases hother : other = userID
      · simp only [hother, Function.update_self]
        exact Nat.max_le.mpr ⟨hinv.ended_le userID, hinv.since_le i⟩
      · simp only [Function.update_of_ne hother]
        exact hinv.ended_le other
    · have hold := hinv.terminated row (hkept row hrow hrevoked) hrevoked
      by_cases hother : row.userID = userID
      · simp only [hother, Function.update_self]
        refine Nat.max_le.mpr ⟨hother ▸ hold, Nat.le_of_not_lt fun hlt => ?_⟩
        exact hdone row hrow ⟨hrevoked, by rw [huser, hother], hlt⟩
      · simp only [Function.update_of_ne hother]
        exact hold

lemma Outcome.store (hinv : TerminationInv w) {call : Call} {row : TokenRow}
    (hinsert : w.server.store.CanInsert row)
    (htimely : w.Timely i call .answer (.insertToken row))
    (hknows : stage'.Knows (w.history.trails i).user none) :
    Outcome w i (w.history.store i call row.tokenHash)
      { w.server.store with tokens := w.server.store.tokens.put row } stage' none := by
  -- The other rows are those of before, and have other hashes.
  have hrows : ∀ row' ∈ w.server.store.tokens.put row,
      row' = row ∨ (row' ∈ w.server.store.tokens ∧ row'.tokenHash ≠ row.tokenHash) :=
    fun row' hrow' => mem_put.mp hrow'
  unfold History.store
  cases hcall : call.refreshes with
  | true =>
    rw [if_pos rfl]
    obtain ⟨hended, hothers⟩ := htimely hcall hinsert
    refine ⟨⟨fun _ _ => rfl, fun row' hrow' hrevoked => ?_⟩, rfl, Nat.le_refl _, hinv.ended_le,
      fun row' hrow' hrevoked => ?_, .plain hknows⟩
    · rcases hrows row' hrow' with rfl | ⟨hold, hne⟩
      · simp only [Function.update_self]
        exact .inr hothers
      · exact .inl ⟨hold, Function.update_of_ne hne _ _⟩
    · rcases hrows row' hrow' with rfl | ⟨hold, hne⟩
      · simpa only [Function.update_self] using hended
      · simp only [Function.update_of_ne hne]
        exact hinv.terminated row' hold hrevoked
  | false =>
    rw [if_neg (by simp)]
    refine ⟨⟨fun _ _ => rfl, fun row' hrow' hrevoked => ?_⟩, rfl, Nat.le_succ _, fun userID => ?_,
      fun row' hrow' hrevoked => ?_, .plain hknows⟩
    · rcases hrows row' hrow' with rfl | ⟨hold, hne⟩
      · -- The session is younger than every open call.
        simp only [Function.update_self]
        exact .inr fun j _ _ _ _ => hinv.since_le j
      · exact .inl ⟨hold, Function.update_of_ne hne _ _⟩
    · exact Nat.le_succ_of_le (hinv.ended_le userID)
    · rcases hrows row' hrow' with rfl | ⟨hold, hne⟩
      · simp only [Function.update_self]
        exact hinv.ended_le _
      · simp only [Function.update_of_ne hne]
        exact hinv.terminated row' hold hrevoked

variable [DecidableEq ι]

lemma Outcome.found (hinv : TerminationInv w) {user : Option UserID} {lineage : ℕ}
    (hknows : stage'.Knows user (some w.server.store)) (hterminates : stage'.terminates = false) :
    Outcome w i (w.history.found i user lineage) w.server.store stage' (some w.server.store) where
  beside := beside_of_kept (.refl _) (fun j hj => Function.update_of_ne hj _ _) rfl
  since := by rw [History.trails_found]
  begun := Nat.le_refl _
  ended_le := hinv.ended_le
  terminated := hinv.terminated
  stands := by
    refine ⟨?_, by simp [hterminates]⟩
    rw [History.trails_found]
    exact hknows

/-! ### By stage -/

variable {call : Call} {stage : Stage} {snapshot : Option Store} {a : Lib.Act}

lemma next_session (hsess : w.server.sessions i = some (stage.session call snapshot)) :
    w.history.next w.server (.act i a) = match stage.prog with
      | .stmt q _ => w.history.observe i call w.server.store a q
      | _ => w.history := by
  rw [History.next, hsess]
  cases stage <;> rfl

omit [DecidableEq ι] in
lemma timely_session (hsess : w.server.sessions i = some (stage.session call snapshot))
    (htimely : InTime w (.act i a)) : match stage.prog with
      | .stmt q _ => w.Timely i call a q
      | _ => True :=
  htimely _ hsess

lemma outcome_issue (hinv : TerminationInv w)
    (hsess : w.server.sessions i = some (stage.session call none))
    (hstands : Stands w.history w.server.store i stage none)
    (hstatement : ∀ result, stage ≠ .returned result) :
    Outcome w i (w.history.next w.server (.act i .issue)) w.server.store stage
      (some w.server.store) := by
  have hnext := next_session (a := .issue) hsess
  have hsees : Sees w.history w.server.store i w.server.store :=
    fun row hrow hdue => ⟨row, find?_eq_some.mpr ⟨hrow, rfl⟩, rfl, hdue.1⟩
  have hquiet : stage.Knows (w.history.trails i).user (some w.server.store) →
      Outcome w i w.history w.server.store stage (some w.server.store) := by
    refine fun hknows => .quiet hinv (.refl _) ⟨hknows, fun _ snap hsnap => ?_⟩
    obtain rfl := Option.some.inj hsnap
    exact hsees
  rw [hnext]
  cases stage with
  | lookupToken hash generated clocks =>
    refine .found hinv (fun snap hsnap => ?_) rfl
    rw [Option.some.inj hsnap]
  | lookupOwner hash clocks => exact .found hinv trivial rfl
  | reuse userID clocks => exact hquiet hstands.knows
  | revokeFamily userID clocks => exact hstands.knows.elim
  | returned result => exact absurd rfl (hstatement result)
  | _ => exact hquiet trivial

lemma outcome_answer (hinv : TerminationInv w) {snap : Store}
    (hsess : w.server.sessions i = some (stage.session call (some snap)))
    (hstands : Stands w.history w.server.store i stage (some snap))
    (htimely : InTime w (.act i .answer))
    (hanswer : stage.answer snap w.server.store = some (stage', s')) :
    Outcome w i (w.history.next w.server (.act i .answer)) s' stage' none := by
  have hnext := next_session (a := .answer) hsess
  have htimely' := timely_session hsess htimely
  rw [hnext]
  cases stage with
  | lookupToken hash generated clocks =>
    obtain ⟨rfl, rfl⟩ := Prod.mk.inj (Option.some.inj hanswer)
    refine .quiet hinv (.refl _) (.plain ?_)
    have huser := hstands.knows snap rfl
    unfold Stage.found
    cases hfound : snap.tokens.find? hash with
    | none => trivial
    | some token =>
      simp only
      split
      case isTrue hrevoked =>
        rw [huser]
        show (snap.tokens.find? hash).bind _ = some token.userID
        rw [hfound, Option.bind_some, if_pos hrevoked]
      case isFalse =>
        split <;> trivial
  | reuse userID clocks =>
    obtain ⟨rfl, rfl⟩ := Prod.mk.inj (Option.some.inj hanswer)
    refine .terminate hinv (kept_revoke _ _ _ _) (fun row hrow hdue => ?_) _
    -- A row that is due was chosen.
    obtain ⟨hmem, hnot⟩ := mem_revoke hrow hdue.1
    obtain ⟨row₀, hrow₀, huser₀, hrevoked₀⟩ := hstands.sees rfl snap rfl row hmem hdue
    have huser : userID = row.userID := Option.some.inj (hstands.knows.symm.trans hdue.2.1)
    simp [TokenRow.ofUser, hrow₀, huser₀, hrevoked₀, huser, hdue.1] at hnot
  | rotate token generated clocks =>
    obtain ⟨rfl, rfl⟩ := Prod.mk.inj (Option.some.inj hanswer)
    exact .quiet hinv (kept_revoke _ _ _ _) (.plain trivial)
  | lookupUser userID generated clocks =>
    obtain ⟨rfl, rfl⟩ := Prod.mk.inj (Option.some.inj hanswer)
    refine .quiet hinv (.refl _) (.plain ?_)
    exact Stage.knows_foundUser _ _ _
  | insert generated user clocks =>
    simp only [Stage.answer] at hanswer
    split at hanswer
    case isTrue hinsert =>
      obtain ⟨rfl, rfl⟩ := Prod.mk.inj (Option.some.inj hanswer)
      have hstored : Lib.Act.answer = .answer ∧
          w.server.store.CanInsert (generated.row user.id) := ⟨rfl, hinsert⟩
      show Outcome w i (ite _ _ _) _ _ _
      rw [if_pos hstored]
      exact .store hinv hinsert htimely' trivial
    case isFalse => exact absurd hanswer (by simp)
  | cleanup generated user clocks =>
    obtain ⟨rfl, rfl⟩ := Prod.mk.inj (Option.some.inj hanswer)
    exact .quiet hinv (kept_deletes _ _ _) (.plain trivial)
  | lookupOwner hash clocks => exact absurd hanswer (by simp [Stage.answer])
  | revokeFamily userID clocks => exact hstands.knows.elim
  | revokePresented hash clocks =>
    obtain ⟨rfl, rfl⟩ := Prod.mk.inj (Option.some.inj hanswer)
    refine .terminate hinv (kept_revoke _ _ _ _) (fun row hrow hdue => ?_) _
    obtain ⟨hmem, hnot⟩ := mem_revoke hrow hdue.1
    obtain ⟨row₀, hrow₀, huser₀, hrevoked₀⟩ := hstands.sees rfl snap rfl row hmem hdue
    -- The presented token is the only one that is due.
    have hhash : row.tokenHash = hash := htimely' row hmem hdue
    have hhash₀ : row₀.tokenHash = hash := (find?_eq_some.mp hrow₀).2.trans hhash
    rw [hhash] at hrow₀
    simp [hrow₀, hrevoked₀, hhash, hhash₀, hdue.1] at hnot
  | lookupEmail email verifies generated clocks =>
    obtain ⟨rfl, rfl⟩ := Prod.mk.inj (Option.some.inj hanswer)
    refine .quiet hinv (.refl _) (.plain ?_)
    exact Stage.knows_foundEmail _ _ _ _
  | returned result => exact absurd hanswer (by simp [Stage.answer])

lemma outcome_failed (hinv : TerminationInv w)
    (hsess : w.server.sessions i = some (stage.session call snapshot))
    (hstands : Stands w.history w.server.store i stage snapshot)
    (htimely : InTime w (.act i a))
    (hfailed : a = .fail ∨ ∃ snap, a = .answer ∧ snapshot = some snap ∧
      stage.answer snap w.server.store = none) :
    Outcome w i (w.history.next w.server (.act i a)) w.server.store stage.failed none := by
  have hnext := next_session (a := a) hsess
  have htimely' := timely_session hsess htimely
  -- Nothing is issued, so the trail stays as it is.
  have hissue : a ≠ .issue := by
    rcases hfailed with rfl | ⟨snap, rfl, -, -⟩ <;> simp
  have hquiet : stage.failed.Knows (w.history.trails i).user none →
      Outcome w i w.history w.server.store stage.failed none :=
    fun hknows => .quiet hinv (.refl _) (.plain hknows)
  rw [hnext]
  cases stage with
  | lookupToken | lookupOwner =>
    show Outcome w i (ite _ _ _) _ _ _
    rw [if_neg hissue]
    exact hquiet trivial
  | reuse userID clocks =>
    obtain rfl : a = .fail := by
      rcases hfailed with rfl | ⟨snap, -, -, hnone⟩
      · rfl
      · exact absurd hnone (by simp [Stage.answer])
    exact .terminate hinv (.refl _) (htimely' rfl) _
  | revokeFamily userID clocks => exact hstands.knows.elim
  | revokePresented hash clocks =>
    obtain rfl : a = .fail := by
      rcases hfailed with rfl | ⟨snap, -, -, hnone⟩
      · rfl
      · exact absurd hnone (by simp [Stage.answer])
    exact .terminate hinv (.refl _) (htimely' rfl) _
  | insert generated user clocks =>
    -- No row was inserted.
    have hnothing : ¬ (a = .answer ∧ w.server.store.CanInsert (generated.row user.id)) := by
      rcases hfailed with rfl | ⟨snap, -, -, hnone⟩
      · simp
      · rintro ⟨-, hinsert⟩
        simp [Stage.answer, hinsert] at hnone
    show Outcome w i (ite _ _ _) _ _ _
    rw [if_neg hnothing]
    exact hquiet trivial
  | returned result => exact hquiet trivial
  | _ => exact hquiet trivial

end Outcome

/-! ## Runs -/

namespace TerminationInv

variable {ι : Type} [DecidableEq ι] {w w' : Watched ι} {i : ι}

lemma of_step {e : Lib.ServerEvent ι Call} (h : w.step e = some w') :
    w.server.step engine Call.program e = some w'.server ∧
      w'.history = w.history.next w.server e := by
  obtain ⟨server, hserver, rfl⟩ := Option.map_eq_some_iff.mp h
  exact ⟨hserver, rfl⟩

lemma call {call : Call} (hinv : TerminationInv w) (hstep : w.step (.call i call) = some w') :
    TerminationInv w' := by
  obtain ⟨hserver, hhistory⟩ := of_step hstep
  obtain ⟨hclosed, hstore, hsessions⟩ := Lib.Server.step_call hserver
  -- The call remembers how many sessions had begun; nothing else changes.
  have htrails : w'.history.trails =
      Function.update w.history.trails i { since := w.history.begun } := by
    rw [hhistory]
    rfl
  have hbegun : w'.history.begun = w.history.begun := by
    rw [hhistory]
    rfl
  have hended : w'.history.ended = w.history.ended := by
    rw [hhistory]
    rfl
  have horigin : w'.history.origin = w.history.origin := by
    rw [hhistory]
    rfl
  have hbeside : Beside w i w'.history w'.server.store := by
    refine ⟨fun j hj => ?_, fun row hrow _ => .inl ⟨hstore ▸ hrow, by rw [horigin]⟩⟩
    rw [htrails, Function.update_of_ne hj]
  constructor
  · intro row hrow hrevoked
    rw [hended, horigin]
    exact hinv.terminated row (hstore ▸ hrow) hrevoked
  · intro userID
    rw [hended, hbegun]
    exact hinv.ended_le userID
  · intro j
    rw [hbegun]
    by_cases hj : j = i
    · rw [hj, htrails, Function.update_self]
    · rw [hbeside.trails j hj]
      exact hinv.since_le j
  · intro j sess hsess
    rw [hsessions] at hsess
    rcases Lib.eq_of_update hsess with ⟨rfl, hnew⟩ | ⟨hne, hold⟩
    · obtain rfl := Option.some.inj hnew
      refine ⟨Stage.start call, none, ?_, .plain (Stage.knows_start call)⟩
      rw [Stage.session, Stage.prog_start]
    · obtain ⟨stage, snapshot, hstage, hstands⟩ := hinv.standing j sess hold
      rw [hstage] at hold
      exact ⟨stage, snapshot, hstage, hstands.beside hold hbeside hne⟩

lemma of_outcome {stage' : Stage} {call : Call} {snapshot' : Option Store} {sess' : CallSession}
    (hinv : TerminationInv w)
    (hsessions : w'.server.sessions = Function.update w.server.sessions i (some sess'))
    (hsess' : sess' = stage'.session call snapshot')
    (houtcome : Outcome w i w'.history w'.server.store stage' snapshot') : TerminationInv w' := by
  refine ⟨houtcome.terminated, houtcome.ended_le, fun j => ?_, fun j t ht => ?_⟩
  · by_cases hj : j = i
    · rw [hj, houtcome.since]
      exact (hinv.since_le i).trans houtcome.begun
    · rw [houtcome.beside.trails j hj]
      exact (hinv.since_le j).trans houtcome.begun
  · rw [hsessions] at ht
    rcases Lib.eq_of_update ht with ⟨rfl, hnew⟩ | ⟨hne, hold⟩
    · obtain rfl := Option.some.inj hnew
      subst hsess'
      exact ⟨stage', snapshot', rfl, houtcome.stands⟩
    · obtain ⟨stage, snapshot, hstage, hstands⟩ := hinv.standing j t hold
      rw [hstage] at hold
      exact ⟨stage, snapshot, hstage, hstands.beside hold houtcome.beside hne⟩

lemma act {a : Lib.Act} (hinv : TerminationInv w) (htimely : InTime w (.act i a))
    (hstep : w.step (.act i a) = some w') : TerminationInv w' := by
  obtain ⟨hserver, hhistory⟩ := of_step hstep
  obtain ⟨sess, sess', writes, hsess, hact, hsessions⟩ := Lib.Server.step_act hserver
  obtain ⟨stage, snapshot, hstage, hstands⟩ := hinv.standing i sess hsess
  rw [hstage] at hsess hact
  rcases Stage.act_stage hact with ⟨rfl, rfl, hsess', hstore⟩ |
    ⟨snap, stage', rfl, rfl, hanswer, hsess'⟩ | ⟨hfailed, hsess', hstore⟩
  · refine hinv.of_outcome hsessions hsess' ?_
    rw [hhistory, hstore]
    refine outcome_issue hinv hsess hstands fun result hresult => ?_
    subst hresult
    exact absurd hact (by simp [Stage.session])
  · refine hinv.of_outcome hsessions hsess' ?_
    rw [hhistory]
    exact outcome_answer hinv hsess hstands htimely hanswer
  · refine hinv.of_outcome hsessions hsess' ?_
    rw [hhistory, hstore]
    exact outcome_failed hinv hsess hstands htimely hfailed

lemma finish (hinv : TerminationInv w) (hstep : w.step (.finish i) = some w') :
    TerminationInv w' := by
  obtain ⟨hserver, hhistory⟩ := of_step hstep
  obtain ⟨sess, result, -, -, hstore, hsessions⟩ := Lib.Server.step_finish hserver
  have hsame : w'.history = w.history := hhistory
  constructor
  · rw [hsame, hstore]
    exact hinv.terminated
  · rw [hsame]
    exact hinv.ended_le
  · rw [hsame]
    exact hinv.since_le
  · intro j t ht
    rw [hsessions] at ht
    rw [hsame, hstore]
    rcases Lib.eq_of_update ht with ⟨-, hnone⟩ | ⟨-, hold⟩
    · exact absurd hnone (by simp)
    · exact hinv.standing j t hold

end TerminationInv

/-- Sessions are terminated. In every run, of any calls from any tables, whose steps are all in
time, no unrevoked token of a user comes from a session that had begun when a logout or a reuse
detection of the user was called that is through with its UPDATE. -/
theorem sessions_terminated {ι : Type} [DecidableEq ι] (s : Store)
    {es : List (Lib.ServerEvent ι Call)} {w : Watched ι}
    (run : Lib.Run Watched.step InTime ⟨.init s, {}⟩ es w) :
    Terminated w.history w.server.store := by
  have hinit : TerminationInv (⟨.init s, {}⟩ : Watched ι) :=
    ⟨fun _ _ _ => Nat.le_refl 0, fun _ => Nat.zero_le 1, fun _ => Nat.zero_le 1,
      fun i sess h => absurd h (by simp [Lib.Server.init])⟩
  have hinv : TerminationInv w := by
    refine run.invariant (fun w e w' hinv htimely hstep => ?_) hinit
    cases e with
    | call i call => exact hinv.call hstep
    | act i a => exact hinv.act htimely hstep
    | finish i => exact hinv.finish hstep
  exact hinv.terminated

/-- A user with two sessions. -/
def twoSessions : Store where
  users := Lib.Table.empty.put ⟨"u1", "acme", "ada@acme.dev", "Ada", "admin", true⟩
  tokens := (Lib.Table.empty.put
    { id := "r1", userID := "u1", tokenHash := "h1", expiresAt := 100, revokedAt := some 0 }).put
    { id := "r2", userID := "u1", tokenHash := "h2", expiresAt := 100 }

/-- A revoked token is presented while the user logs in once more: the old session ends, the new
one goes on. Then the new one logs out. -/
theorem sessions_terminated_witness : ∃ w : Watched (Fin 2),
    w.server.sessions 0 = none ∧ w.server.sessions 1 = none ∧ w.history.ended "u1" = 2 ∧
      w.server.store.tokens.HasKey "h3" ∧ Terminated w.history w.server.store := by
  let es : List (Lib.ServerEvent (Fin 2) Call) :=
    [.call 0 (.refreshToken (some "h1") none {}),
      .call 1 (.login "ada@acme.dev" (some true) (some ⟨"r3", "h3", 200⟩) {}),
      .act 0 .issue, .act 0 .answer, .act 0 .issue,
      .act 1 .issue, .act 1 .answer, .act 1 .issue, .act 1 .answer,
      .act 0 .answer, .finish 0, .act 1 .issue, .act 1 .answer, .finish 1,
      .call 0 (.logout (some "h3") {}), .act 0 .issue, .act 0 .answer, .act 0 .issue,
      .act 0 .answer, .finish 0]
  have hfold : (es.foldlM (Lib.restrict Watched.step InTime)
      (⟨.init twoSessions, {}⟩ : Watched (Fin 2))).map (fun w =>
        (w.server.sessions 0).isNone && (w.server.sessions 1).isNone &&
          decide (w.history.ended "u1" = 2) &&
          decide (w.server.store.tokens.HasKey "h3")) = some true := by
    decide +kernel
  obtain ⟨w, hw, hfinal⟩ := Option.map_eq_some_iff.mp hfold
  simp only [Bool.and_eq_true, decide_eq_true_eq, Option.isNone_iff_eq_none] at hfinal
  obtain ⟨⟨⟨h0, h1⟩, hended⟩, hrow⟩ := hfinal
  exact ⟨w, h0, h1, hended, hrow,
    sessions_terminated twoSessions (Lib.run_iff_foldlM_restrict.mpr hw)⟩

/-- A user logs in a second time and logs out again: the first session goes on. -/
theorem session_survives_logout : ¬ ∀ (s : Store) (es : List (Lib.ServerEvent (Fin 1) Call))
    (w : Watched (Fin 1)), Lib.Run Watched.step Lib.Unguarded ⟨.init s, {}⟩ es w →
      (∀ i, w.server.sessions i = none) → Terminated w.history w.server.store := by
  intro h
  let es : List (Lib.ServerEvent (Fin 1) Call) :=
    [.call 0 (.login "ada@acme.dev" (some true) (some ⟨"r3", "h3", 200⟩) {}),
      .act 0 .issue, .act 0 .answer, .act 0 .issue, .act 0 .answer, .act 0 .issue, .act 0 .answer,
      .finish 0,
      .call 0 (.logout (some "h3") {}),
      .act 0 .issue, .act 0 .answer, .act 0 .issue, .act 0 .answer, .finish 0]
  let row : TokenRow := { id := "r2", userID := "u1", tokenHash := "h2", expiresAt := 100 }
  have hfold : (es.foldlM Watched.step (⟨.init twoSessions, {}⟩ : Watched (Fin 1))).map (fun w =>
      (w.server.sessions 0).isNone && decide (w.history.ended "u1" = 2) &&
        decide (w.history.origin "h2" = 0) &&
        decide (w.server.store.tokens.find? "h2" = some row)) = some true := by
    decide +kernel
  obtain ⟨w, hw, hfinal⟩ := Option.map_eq_some_iff.mp hfold
  simp only [Bool.and_eq_true, decide_eq_true_eq, Option.isNone_iff_eq_none] at hfinal
  obtain ⟨⟨⟨hclosed, hended⟩, horigin⟩, hrow⟩ := hfinal
  have hle := h twoSessions es w (Lib.run_iff_foldlM.mpr hw)
    (fun i => by rwa [Subsingleton.elim i 0]) row (find?_eq_some.mp hrow).1 rfl
  rw [hended, horigin] at hle
  omega

end Paryty.Auth

import Paryty.Auth.Stages
import Paryty.Lib.Run

/-!
# Refresh tokens are single use

"The old refresh token is revoked (one-time use rotation)." A refresh reads the token, finds it
unrevoked and revokes it with an UPDATE on its id that does not ask again. Two refreshes that
both read the token before either has revoked it are both let through.

`Rechecked` asks for what the UPDATE does not. `refresh_single_use`: in every run that respects
it, with any other calls among them, at most one refresh that presents the token succeeds and at
most one successor is stored.
-/

namespace Paryty.Auth

open Lib.Table (find?_updates_from find?_deletes_from find?_put find?_eq_some)

/-! ## Refreshes that present a token -/

/-- The call is a refresh that presents the token. -/
def Call.presents (hash : TokenHash) : Call → Bool
  | .refreshToken (some presented) _ _ => presented = hash
  | _ => false

/-- How far a refresh is: before its token is revoked, after that, and after it has stored the
new token. -/
inductive Phase
  | checking
  | exchanging
  | exchanged
deriving DecidableEq

/-- The phase of a refresh at a statement. -/
def Sql.phase {β : Type} : Sql β → Phase
  | .lookupUser _ => .exchanging
  | .insertToken _ => .exchanging
  | .deleteStale _ _ => .exchanged
  | _ => .checking

/-- The statement is the UPDATE of a rotation. -/
def Sql.rotates {β : Type} : Sql β → Bool
  | .revokeToken _ _ => true
  | _ => false

/-- The phase of what is left of a refresh. -/
def progPhase : Session Result → Phase
  | .stmt q _ => q.phase
  | .ret (.ok _) => .exchanged
  | _ => .checking

/-- The phase of a session, for the token. -/
def phase (hash : TokenHash) (sess : CallSession) : Phase :=
  if sess.call.presents hash then progPhase sess.prog else .checking

/-- The server, with the refreshes that present the token counted: how many have stored a
successor, and how many have succeeded. -/
structure Use (ι : Type) where
  server : AuthServer ι
  stored : ℕ := 0
  succeeded : ℕ := 0

section Step

variable {ι : Type} [DecidableEq ι]

/-- With the event a refresh that presents the token stores its successor. -/
def Stores (hash : TokenHash) (s : AuthServer ι) : Lib.ServerEvent ι Call → Bool
  | .act i .answer => (s.sessions i).any fun sess => sess.call.presents hash &&
      match sess.prog, sess.snapshot with
      | .stmt q _, some _ => q.stores s.store
      | _, _ => false
  | _ => false

/-- With the event a refresh that presents the token returns, without an error. -/
def Succeeds (hash : TokenHash) (s : AuthServer ι) : Lib.ServerEvent ι Call → Bool
  | .finish i => (s.sessions i).any fun sess => sess.call.presents hash &&
      match sess.prog with
      | .ret (.ok _) => true
      | _ => false
  | _ => false

/-- One event. -/
def Use.step (hash : TokenHash) (u : Use ι) (e : Lib.ServerEvent ι Call) : Option (Use ι) :=
  (u.server.step engine Call.program e).map fun server =>
    { server
      stored := u.stored + (Stores hash u.server e).toNat
      succeeded := u.succeeded + (Succeeds hash u.server e).toNat }

/-- The token has a row that is not revoked. -/
def Unrevoked (hash : TokenHash) (s : Store) : Prop :=
  ∃ row ∈ s.tokens.rows, row.tokenHash = hash ∧ row.revoked = false

/-- When the UPDATE of a refresh that presents the token takes effect, the token is still
unrevoked; and the token is not generated a second time. -/
def Rechecked (hash : TokenHash) (u : Use ι) : Lib.ServerEvent ι Call → Prop
  | .act i .answer => ∀ sess ∈ u.server.sessions i, sess.call.presents hash = true →
      (match sess.prog with
        | .stmt q _ => q.rotates
        | _ => false) = true → Unrevoked hash u.server.store
  | .call _ call => ∀ generated ∈ call.generated, generated.tokenHash ≠ hash
  | _ => True

instance (hash : TokenHash) (s : Store) : Decidable (Unrevoked hash s) :=
  inferInstanceAs (Decidable (∃ row ∈ s.tokens.rows, _))

instance (hash : TokenHash) (u : Use ι) (e : Lib.ServerEvent ι Call) :
    Decidable (Rechecked hash u e) := by
  cases e with
  | call i call => exact inferInstanceAs (Decidable (∀ generated ∈ call.generated, _))
  | finish i => exact isTrue trivial
  | act i a =>
    cases a with
    | answer => exact inferInstanceAs (Decidable (∀ sess ∈ u.server.sessions i, _))
    | issue => exact isTrue trivial
    | fail => exact isTrue trivial
    | control => exact isTrue trivial

end Step

/-! ## The row of the token -/

variable {hash : TokenHash}

/-- The token is revoked, or has no row. -/
def Spent (hash : TokenHash) (s : Store) : Prop :=
  ∀ row, s.tokens.find? hash = some row → row.revoked = true

/-- The row that the token has now is the one it had then, and is revoked if it was. -/
def Later (hash : TokenHash) (before now : Store) : Prop :=
  ∀ row, now.tokens.find? hash = some row → ∃ row₀, before.tokens.find? hash = some row₀ ∧
    row.id = row₀.id ∧ (row₀.revoked = true → row.revoked = true)

lemma Later.refl (s : Store) : Later hash s s := fun row hrow => ⟨row, hrow, rfl, id⟩

lemma Later.trans {s₁ s₂ s₃ : Store} (h : Later hash s₁ s₂) (h' : Later hash s₂ s₃) :
    Later hash s₁ s₃ := by
  intro row hrow
  obtain ⟨row₂, hrow₂, hid₂, hrevoked₂⟩ := h' row hrow
  obtain ⟨row₁, hrow₁, hid₁, hrevoked₁⟩ := h row₂ hrow₂
  exact ⟨row₁, hrow₁, hid₂.trans hid₁, fun h => hrevoked₂ (hrevoked₁ h)⟩

lemma Spent.later {s s' : Store} (h : Spent hash s) (hlater : Later hash s s') : Spent hash s' := by
  intro row hrow
  obtain ⟨row₀, hrow₀, -, hrevoked⟩ := hlater row hrow
  exact hrevoked (h row₀ hrow₀)

lemma unrevoked_iff {s : Store} : Unrevoked hash s ↔
    ∃ row, s.tokens.find? hash = some row ∧ row.revoked = false := by
  constructor
  · rintro ⟨row, hrow, hkey, hrevoked⟩
    exact ⟨row, find?_eq_some.mpr ⟨hrow, hkey⟩, hrevoked⟩
  · rintro ⟨row, hrow, hrevoked⟩
    obtain ⟨hmem, hkey⟩ := find?_eq_some.mp hrow
    exact ⟨row, hmem, hkey, hrevoked⟩

lemma later_revoke (snapshot current : Store) (p : TokenRow → Bool) (now : Time) :
    Later hash current (Stage.revoke snapshot current p now) := by
  intro row hrow
  rw [Stage.find?_revoke] at hrow
  obtain ⟨row₀, hrow₀, rfl⟩ := Option.map_eq_some_iff.mp hrow
  refine ⟨row₀, hrow₀, ?_, fun hrevoked => ?_⟩
  · split <;> rfl
  · split
    · rfl
    · exact hrevoked

lemma spent_rotate {snapshot current : Store} {id : TokenID} (now : Time)
    (hlater : Later hash snapshot current)
    (hid : ∀ row, current.tokens.find? hash = some row → row.id = id) :
    Spent hash (Stage.revoke snapshot current (fun row => row.id = id) now) := by
  intro row hrow
  rw [Stage.find?_revoke] at hrow
  obtain ⟨row₀, hrow₀, rfl⟩ := Option.map_eq_some_iff.mp hrow
  obtain ⟨row₁, hrow₁, hid₁, -⟩ := hlater row₀ hrow₀
  have hchosen : row₁.id = id := hid₁ ▸ hid row₀ hrow₀
  simp only [hid row₀ hrow₀, hrow₁, Option.any_some, hchosen, decide_true, Bool.and_self, if_true]
  rfl

/-! ## Stages of a refresh -/

namespace Stage

/-- The token a stage may still store. -/
def generated : Stage → Option Generated
  | lookupToken _ generated _ => generated
  | rotate _ generated _ => generated
  | lookupUser _ generated _ => generated
  | insert generated _ _ => some generated
  | lookupEmail _ _ generated _ => generated
  | _ => none

/-- The phase of a stage. -/
def phase : Stage → Phase
  | lookupUser _ _ _ => .exchanging
  | insert _ _ _ => .exchanging
  | cleanup _ _ _ => .exchanged
  | returned (.ok _) => .exchanged
  | _ => .checking

/-- A stage of a refresh that presents the token. One that has read the token knows its id. -/
def Presenting (hash : TokenHash) (s : Store) : Stage → Prop
  | lookupToken presented _ _ => presented = hash
  | reuse _ _ => True
  | rotate token _ _ => ∀ row, s.tokens.find? hash = some row → row.id = token.id
  | lookupUser _ _ _ => True
  | insert _ _ _ => True
  | cleanup _ _ _ => True
  | returned _ => True
  | _ => False

lemma progPhase_prog (stage : Stage) : progPhase stage.prog = stage.phase := by
  cases stage with
  | returned result => cases result <;> rfl
  | _ => rfl

lemma generated_start (call : Call) : ∀ g ∈ (start call).generated, g ∈ call.generated := by
  cases call with
  | refreshToken hash generated clocks =>
    cases hash <;> simp [start, Stage.generated, Call.generated]
  | logout hash clocks => cases hash <;> simp [start, Stage.generated]
  | login email password generated clocks =>
    cases password with
    | none => simp [start, Stage.generated]
    | some verifies =>
      simp only [start]
      split <;> simp [Stage.generated, Call.generated]

lemma generated_issue {generated : Option Generated} {user : UserRow} {clocks : Clocks} :
    ∀ g ∈ (issue generated user clocks).generated, g ∈ generated := by
  cases generated <;> simp [issue, Stage.generated]

lemma generated_failed (stage : Stage) : ∀ g ∈ stage.failed.generated, g ∈ stage.generated := by
  cases stage <;> simp [failed, Stage.generated]

/-- An answer brings no new token into play, and the row of a token that is not the one that is
stored stays or gets revoked. -/
lemma answer_spec (hash : TokenHash) {stage stage' : Stage} {snapshot s s' : Store}
    (h : stage.answer snapshot s = some (stage', s')) :
    (∀ g ∈ stage'.generated, g ∈ stage.generated) ∧
      ((∀ g ∈ stage.generated, g.tokenHash ≠ hash) → Later hash s s') := by
  cases stage with
  | lookupToken presented generated clocks =>
    obtain ⟨rfl, rfl⟩ := Prod.mk.inj (Option.some.inj h)
    refine ⟨?_, fun _ => .refl s⟩
    cases snapshot.tokens.find? presented with
    | none => simp [found, Stage.generated]
    | some token =>
      simp only [found]
      split
      · simp [Stage.generated]
      · split <;> simp [Stage.generated]
  | reuse userID clocks =>
    obtain ⟨rfl, rfl⟩ := Prod.mk.inj (Option.some.inj h)
    exact ⟨by simp [Stage.generated], fun _ => later_revoke _ _ _ _⟩
  | rotate token generated clocks =>
    obtain ⟨rfl, rfl⟩ := Prod.mk.inj (Option.some.inj h)
    exact ⟨fun g hg => hg, fun _ => later_revoke _ _ _ _⟩
  | lookupUser userID generated clocks =>
    obtain ⟨rfl, rfl⟩ := Prod.mk.inj (Option.some.inj h)
    refine ⟨?_, fun _ => .refl s⟩
    cases snapshot.users.find? userID with
    | none => simp [foundUser, Stage.generated]
    | some user =>
      simp only [foundUser]
      split
      · exact generated_issue
      · simp [Stage.generated]
  | insert generated user clocks =>
    simp only [answer] at h
    split at h
    case isTrue hinsert =>
      obtain ⟨rfl, rfl⟩ := Prod.mk.inj (Option.some.inj h)
      refine ⟨by simp [Stage.generated], fun hfresh row hrow => ?_⟩
      -- The new row is under another hash, as its token is not the one looked at.
      have hne : hash ≠ (generated.row user.id).tokenHash :=
        fun heq => hfresh generated rfl heq.symm
      have hold : s.tokens.find? hash = some row := by
        rw [← hrow]
        show _ = (s.tokens.put _).find? hash
        rw [find?_put, if_neg hne]
      exact ⟨row, hold, rfl, id⟩
    case isFalse => exact absurd h (by simp)
  | cleanup generated user clocks =>
    obtain ⟨rfl, rfl⟩ := Prod.mk.inj (Option.some.inj h)
    refine ⟨by simp [Stage.generated], fun _ row hrow => ?_⟩
    -- A row that is there afterwards was there before.
    have hdeleted := find?_deletes_from snapshot.tokens s.tokens
      (TokenRow.stale user.id clocks.database) hash
    rw [hrow] at hdeleted
    exact ⟨row, (Option.filter_eq_some_iff.mp hdeleted.symm).1, rfl, id⟩
  | lookupOwner presented clocks => exact absurd h (by simp [answer])
  | revokeFamily | revokePresented =>
    obtain ⟨rfl, rfl⟩ := Prod.mk.inj (Option.some.inj h)
    exact ⟨by simp [Stage.generated], fun _ => later_revoke _ _ _ _⟩
  | lookupEmail email verifies generated clocks =>
    obtain ⟨rfl, rfl⟩ := Prod.mk.inj (Option.some.inj h)
    refine ⟨?_, fun _ => .refl s⟩
    cases snapshot.users.rows.find? (fun row => row.email = email) with
    | none => simp [foundEmail, Stage.generated]
    | some user =>
      simp only [foundEmail]
      split
      · split
        · exact generated_issue
        · simp [Stage.generated]
      · simp [Stage.generated]
  | returned result => exact absurd h (by simp [answer])

/-- What an answer or a failure does to the phase of a refresh. -/
inductive Moves (unspent spent : Prop) : Phase → Phase → Bool → Prop
  | stay (p : Phase) : Moves unspent spent p p false
  | stop (p : Phase) : Moves unspent spent p .checking false
  | revoke (before : unspent) (after : spent) :
      Moves unspent spent .checking .exchanging false
  | store : Moves unspent spent .exchanging .exchanged true

lemma Presenting.later {stage : Stage} {s s' : Store} (h : stage.Presenting hash s)
    (hlater : Later hash s s') : stage.Presenting hash s' := by
  cases stage with
  | rotate token generated clocks =>
    intro row hrow
    obtain ⟨row₀, hrow₀, hid, -⟩ := hlater row hrow
    exact hid.trans (h row₀ hrow₀)
  | _ => exact h

lemma moves_answer {stage stage' : Stage} {snapshot s s' : Store}
    (h : stage.answer snapshot s = some (stage', s')) (hpresenting : stage.Presenting hash s)
    (hlater : Later hash snapshot s)
    (hrechecked : (∃ token generated clocks, stage = rotate token generated clocks) →
      Unrevoked hash s) :
    Moves (¬ Spent hash s) (Spent hash s') stage.phase stage'.phase (stage.stores s) ∧
      stage'.Presenting hash s' := by
  cases stage with
  | lookupToken presented generated clocks =>
    obtain ⟨rfl, rfl⟩ := Prod.mk.inj (Option.some.inj h)
    obtain rfl : presented = hash := hpresenting
    cases hfound : snapshot.tokens.find? presented with
    | none => exact ⟨.stay _, trivial⟩
    | some token =>
      simp only [found]
      split
      · exact ⟨.stay _, trivial⟩
      · split
        · exact ⟨.stay _, trivial⟩
        · -- The row read is the one that the token has now.
          refine ⟨.stay _, fun row hrow => ?_⟩
          obtain ⟨row₀, hrow₀, hid, -⟩ := hlater row hrow
          rw [hfound] at hrow₀
          rw [hid, Option.some.inj hrow₀]
  | reuse userID clocks =>
    obtain ⟨rfl, rfl⟩ := Prod.mk.inj (Option.some.inj h)
    exact ⟨.stay _, trivial⟩
  | rotate token generated clocks =>
    obtain ⟨rfl, rfl⟩ := Prod.mk.inj (Option.some.inj h)
    obtain ⟨row, hrow, hrevoked⟩ := unrevoked_iff.mp (hrechecked ⟨_, _, _, rfl⟩)
    refine ⟨.revoke (fun hspent => ?_) (spent_rotate _ hlater hpresenting), trivial⟩
    have hrevoked' := hspent row hrow
    rw [hrevoked] at hrevoked'
    exact absurd hrevoked' (by simp)
  | lookupUser userID generated clocks =>
    obtain ⟨rfl, rfl⟩ := Prod.mk.inj (Option.some.inj h)
    cases snapshot.users.find? userID with
    | none => exact ⟨.stop _, trivial⟩
    | some user =>
      simp only [foundUser]
      split
      · cases generated with
        | none => exact ⟨.stop _, trivial⟩
        | some generated => exact ⟨.stay _, trivial⟩
      · exact ⟨.stop _, trivial⟩
  | insert generated user clocks =>
    simp only [answer] at h
    split at h
    case isTrue hinsert =>
      obtain ⟨rfl, rfl⟩ := Prod.mk.inj (Option.some.inj h)
      have hstores : (insert generated user clocks).stores s = true := decide_eq_true hinsert
      rw [hstores]
      exact ⟨.store, trivial⟩
    case isFalse => exact absurd h (by simp)
  | cleanup generated user clocks =>
    obtain ⟨rfl, rfl⟩ := Prod.mk.inj (Option.some.inj h)
    exact ⟨.stay _, trivial⟩
  | returned result => exact absurd h (by simp [answer])
  | lookupOwner | revokeFamily | revokePresented | lookupEmail => exact hpresenting.elim

lemma moves_failed {stage : Stage} {s : Store} (hpresenting : stage.Presenting hash s) :
    Moves (¬ Spent hash s) (Spent hash s) stage.phase stage.failed.phase false ∧
      stage.failed.Presenting hash s := by
  cases stage with
  | lookupToken | reuse | rotate => exact ⟨.stay _, trivial⟩
  | lookupUser userID generated clocks => exact ⟨.stop _, trivial⟩
  | insert generated user clocks => exact ⟨.stop _, trivial⟩
  | cleanup generated user clocks => exact ⟨.stay _, trivial⟩
  | returned result => exact ⟨.stay _, trivial⟩
  | lookupOwner | revokeFamily | revokePresented | lookupEmail => exact hpresenting.elim

lemma presenting_start {call : Call} (h : call.presents hash = true) (s : Store) :
    (start call).Presenting hash s := by
  cases call with
  | refreshToken presented generated clocks =>
    cases presented with
    | none => simp [Call.presents] at h
    | some presented =>
      show presented = hash
      simpa [Call.presents] using h
  | logout presented clocks => simp [Call.presents] at h
  | login email password generated clocks => simp [Call.presents] at h

lemma phase_start {call : Call} (h : call.presents hash = true) :
    (start call).phase = .checking := by
  cases call with
  | refreshToken presented generated clocks => cases presented <;> rfl
  | logout presented clocks => simp [Call.presents] at h
  | login email password generated clocks => simp [Call.presents] at h

end Stage

/-! ## One refresh past the UPDATE -/

/-- How far the refreshes that present the token are: at most one has got past the UPDATE that
revokes it, and only then is something counted. -/
structure Progress {ι : Type} (phases : ι → Phase) (spent : Prop) (stored succeeded : ℕ) :
    Prop where
  one : ∀ i j, phases i ≠ .checking → phases j ≠ .checking → i = j
  exchanging : ∀ i, phases i = .exchanging → stored = 0 ∧ succeeded = 0
  exchanged : ∀ i, phases i = .exchanged → succeeded = 0
  spent : ¬ spent → (∀ i, phases i = .checking) ∧ stored = 0 ∧ succeeded = 0
  stored_le : stored ≤ 1
  succeeded_le : succeeded ≤ 1

namespace Progress

variable {ι : Type} {phases : ι → Phase} {spent spent' : Prop} {stored succeeded : ℕ}

lemma mono (h : Progress phases spent stored succeeded) (hspent : spent → spent') :
    Progress phases spent' stored succeeded :=
  { h with spent := fun hnot => h.spent fun hs => hnot (hspent hs) }

variable {i : ι}

lemma others (h : Progress phases spent stored succeeded) (hi : phases i ≠ .checking) :
    spent ∧ ∀ j, j ≠ i → phases j = .checking := by
  refine ⟨?_, fun j hj => ?_⟩
  · by_contra hnot
    exact hi ((h.spent hnot).1 i)
  · by_contra hphase
    exact hj (h.one j i hphase hi)

variable [DecidableEq ι]

lemma of_only {p : Phase} (hspent : spent) (hothers : ∀ j, j ≠ i → phases j = .checking)
    (hexchanging : p = .exchanging → stored = 0 ∧ succeeded = 0)
    (hexchanged : p = .exchanged → succeeded = 0) (hstored : stored ≤ 1)
    (hsucceeded : succeeded ≤ 1) :
    Progress (Function.update phases i p) spent stored succeeded := by
  have honly : ∀ j, Function.update phases i p j ≠ .checking → j = i := by
    intro j hj
    by_contra hne
    rw [Function.update_of_ne hne] at hj
    exact hj (hothers j hne)
  have hown : ∀ j q, q ≠ .checking → Function.update phases i p j = q → p = q := by
    intro j q hq hj
    obtain rfl := honly j (by rwa [hj])
    rwa [Function.update_self] at hj
  constructor
  case one => exact fun j k hj hk => (honly j hj).trans (honly k hk).symm
  case exchanging => exact fun j hj => hexchanging (hown j _ (by simp) hj)
  case exchanged => exact fun j hj => hexchanged (hown j _ (by simp) hj)
  case spent => exact fun hnot => absurd hspent hnot
  case stored_le => exact hstored
  case succeeded_le => exact hsucceeded

lemma drop (h : Progress phases spent stored succeeded) (i : ι) :
    Progress (Function.update phases i .checking) spent stored succeeded := by
  by_cases hi : phases i = .checking
  · rwa [← hi, Function.update_eq_self]
  · obtain ⟨hspent, hothers⟩ := h.others hi
    exact of_only hspent hothers (by simp) (by simp) h.stored_le h.succeeded_le

lemma move (h : Progress phases spent stored succeeded) {p : Phase} {stores : Bool}
    (hmoves : Stage.Moves (¬ spent) spent' (phases i) p stores) (hlater : spent → spent') :
    Progress (Function.update phases i p) spent' (stored + stores.toNat) succeeded := by
  generalize hi : phases i = q at hmoves
  cases hmoves with
  | stay =>
    rw [← hi, Function.update_eq_self]
    exact h.mono hlater
  | stop => exact (h.mono hlater).drop i
  | revoke before after =>
    obtain ⟨hchecking, hstored, hsucceeded⟩ := h.spent before
    exact of_only after (fun j _ => hchecking j) (fun _ => ⟨hstored, hsucceeded⟩) (by simp)
      h.stored_le h.succeeded_le
  | store =>
    obtain ⟨hspent, hothers⟩ := h.others (i := i) (by simp [hi])
    obtain ⟨hstored, hsucceeded⟩ := h.exchanging i hi
    refine of_only (hlater hspent) hothers (by simp) (fun _ => hsucceeded) ?_ h.succeeded_le
    show stored + 1 ≤ 1
    omega

lemma succeed (h : Progress phases spent stored succeeded) (hi : phases i = .exchanged) :
    Progress (Function.update phases i .checking) spent stored (succeeded + 1) := by
  obtain ⟨hspent, hothers⟩ := h.others (i := i) (by simp [hi])
  have hsucceeded := h.exchanged i hi
  exact of_only hspent hothers (by simp) (by simp) h.stored_le (by omega)

end Progress

/-! ## Runs -/

/-- Where an open session stands. -/
def Standing (hash : TokenHash) (s : Store) (sess : CallSession) : Prop :=
  ∃ (stage : Stage) (snapshot : Option Store), sess = stage.session sess.call snapshot ∧
    (∀ g ∈ stage.generated, g.tokenHash ≠ hash) ∧
    (sess.call.presents hash = true → stage.Presenting hash s) ∧
    ∀ snap, snapshot = some snap → Later hash snap s

lemma Standing.later {s s' : Store} {sess : CallSession} (h : Standing hash s sess)
    (hlater : Later hash s s') : Standing hash s' sess := by
  obtain ⟨stage, snapshot, hsess, hfresh, hpresenting, hsnapshot⟩ := h
  exact ⟨stage, snapshot, hsess, hfresh, fun h => (hpresenting h).later hlater,
    fun snap hsnap => (hsnapshot snap hsnap).trans hlater⟩

lemma phase_session (stage : Stage) (call : Call) (snapshot : Option Store) :
    phase hash (stage.session call snapshot) =
      if call.presents hash then stage.phase else .checking := by
  rw [phase, Stage.session, Stage.progPhase_prog]

/-- The phases of all sessions. -/
def phases {ι : Type} (hash : TokenHash) (s : AuthServer ι) (i : ι) : Phase :=
  ((s.sessions i).map (phase hash)).getD .checking

/-- What holds between the events of a run. -/
structure UseInv {ι : Type} (hash : TokenHash) (u : Use ι) : Prop where
  standing : ∀ i sess, u.server.sessions i = some sess → Standing hash u.server.store sess
  progress : Progress (phases hash u.server) (Spent hash u.server.store) u.stored u.succeeded

section Run

variable {ι : Type} [DecidableEq ι] {u u' : Use ι} {i : ι}

lemma phases_update {s s' : AuthServer ι} {sess : CallSession}
    (h : s'.sessions = Function.update s.sessions i (some sess)) :
    phases hash s' = Function.update (phases hash s) i (phase hash sess) := by
  funext j
  by_cases hj : j = i
  · subst hj
    simp [phases, h]
  · simp [phases, h, hj]

lemma phases_close {s s' : AuthServer ι}
    (h : s'.sessions = Function.update s.sessions i none) :
    phases hash s' = Function.update (phases hash s) i .checking := by
  funext j
  by_cases hj : j = i
  · subst hj
    simp [phases, h]
  · simp [phases, h, hj]

lemma Use.of_step {e : Lib.ServerEvent ι Call} (h : u.step hash e = some u') :
    u.server.step engine Call.program e = some u'.server ∧
      u'.stored = u.stored + (Stores hash u.server e).toNat ∧
      u'.succeeded = u.succeeded + (Succeeds hash u.server e).toNat := by
  obtain ⟨server, hserver, rfl⟩ := Option.map_eq_some_iff.mp h
  exact ⟨hserver, rfl, rfl⟩

namespace UseInv

lemma call {call : Call} (hinv : UseInv hash u)
    (hfresh : ∀ g ∈ call.generated, g.tokenHash ≠ hash)
    (hstep : u.step hash (.call i call) = some u') : UseInv hash u' := by
  obtain ⟨hserver, hstored, hsucceeded⟩ := Use.of_step hstep
  obtain ⟨-, hstore, hsessions⟩ := Lib.Server.step_call hserver
  have hstart : ({ call, prog := call.program } : CallSession) =
      (Stage.start call).session call none := by
    rw [Stage.session, Stage.prog_start]
  rw [hstart] at hsessions
  constructor
  · intro j sess hsess
    rw [hsessions] at hsess
    rw [hstore]
    rcases Lib.eq_of_update hsess with ⟨rfl, hnew⟩ | ⟨-, hold⟩
    · obtain rfl := Option.some.inj hnew
      exact ⟨Stage.start call, none, rfl,
        fun g hg => hfresh g (Stage.generated_start call g hg),
        fun h => Stage.presenting_start h _, by simp⟩
    · exact hinv.standing j sess hold
  · have hphase : phase hash ((Stage.start call).session call none) = .checking := by
      rw [phase_session]
      split
      case isTrue h => exact Stage.phase_start h
      case isFalse => rfl
    rw [phases_update hsessions, hphase, hstore, hstored, hsucceeded]
    exact hinv.progress.drop i

lemma finish (hinv : UseInv hash u) (hstep : u.step hash (.finish i) = some u') :
    UseInv hash u' := by
  obtain ⟨hserver, hstored, hsucceeded⟩ := Use.of_step hstep
  obtain ⟨sess, result, hsess, hprog, hstore, hsessions⟩ := Lib.Server.step_finish hserver
  constructor
  · intro j t ht
    rw [hsessions] at ht
    rw [hstore]
    rcases Lib.eq_of_update ht with ⟨-, hnone⟩ | ⟨-, hold⟩
    · exact absurd hnone (by simp)
    · exact hinv.standing j t hold
  · rw [phases_close hsessions, hstore, hstored, hsucceeded]
    have hphase : phases hash u.server i = phase hash sess := by simp [phases, hsess]
    show Progress _ _ (u.stored + 0) _
    by_cases hi : Succeeds hash u.server (.finish i) = true
    · rw [hi]
      refine hinv.progress.succeed ?_
      simp only [Succeeds, hsess, Option.any_some, hprog, Bool.and_eq_true] at hi
      rw [hphase, phase, if_pos hi.1, hprog]
      cases result with
      | ok response => rfl
      | error status => exact absurd hi.2 (by simp)
    · rw [Bool.not_eq_true] at hi
      rw [hi]
      exact hinv.progress.drop i

lemma next {a : Lib.Act} {call : Call} {stage stage' : Stage} {snapshot snapshot' : Option Store}
    (hinv : UseInv hash u) (hstep : u.step hash (.act i a) = some u')
    (hsess : u.server.sessions i = some (stage.session call snapshot))
    (hsessions : u'.server.sessions =
      Function.update u.server.sessions i (some (stage'.session call snapshot')))
    (hlater : Later hash u.server.store u'.server.store)
    (hfresh : ∀ g ∈ stage'.generated, g.tokenHash ≠ hash)
    (hsnapshot : ∀ snap, snapshot' = some snap → Later hash snap u'.server.store)
    (hunstored : call.presents hash = false → Stores hash u.server (.act i a) = false)
    (hpresenting : call.presents hash = true → stage'.Presenting hash u'.server.store ∧
      Stage.Moves (¬ Spent hash u.server.store) (Spent hash u'.server.store) stage.phase
        stage'.phase (Stores hash u.server (.act i a))) : UseInv hash u' := by
  obtain ⟨-, hstored, hsucceeded⟩ := Use.of_step hstep
  constructor
  · intro j t ht
    rw [hsessions] at ht
    rcases Lib.eq_of_update ht with ⟨-, hnew⟩ | ⟨-, hold⟩
    · obtain rfl := Option.some.inj hnew
      exact ⟨stage', snapshot', rfl, hfresh, fun h => (hpresenting h).1, hsnapshot⟩
    · exact (hinv.standing j t hold).later hlater
  · have hphase : phases hash u.server i = phase hash (stage.session call snapshot) := by
      simp [phases, hsess]
    rw [phases_update hsessions, hstored, hsucceeded]
    refine hinv.progress.move ?_ fun hspent => hspent.later hlater
    rw [hphase, phase_session, phase_session]
    cases hcall : call.presents hash with
    | true => exact (hpresenting hcall).2
    | false =>
      rw [hunstored hcall]
      exact .stay _

lemma act {a : Lib.Act} (hinv : UseInv hash u) (hrechecked : Rechecked hash u (.act i a))
    (hstep : u.step hash (.act i a) = some u') : UseInv hash u' := by
  obtain ⟨sess, sess', writes, hsess, hact, hsessions⟩ :=
    Lib.Server.step_act (Use.of_step hstep).1
  obtain ⟨stage, snapshot, hstage, hfresh, hpresenting, hsnapshot⟩ := hinv.standing i sess hsess
  generalize sess.call = call at hstage hpresenting
  subst hstage
  have hunstored : call.presents hash = false → Stores hash u.server (.act i a) = false := by
    intro hcall
    cases a <;> simp [Stores, hsess, Stage.session, hcall]
  rcases Stage.act_stage hact with ⟨rfl, rfl, rfl, hstore⟩ |
    ⟨snap, stage', rfl, rfl, hanswer, rfl⟩ | ⟨hfailed, rfl, hstore⟩
  · -- The statement is issued.
    have hstores : Stores hash u.server (.act i .issue) = false := rfl
    refine hinv.next hstep hsess hsessions (hstore ▸ .refl _) hfresh ?_ hunstored fun hcall => ?_
    · rintro snap hsnap
      obtain rfl := Option.some.inj hsnap
      rw [hstore]
      exact .refl _
    · rw [hstore, hstores]
      exact ⟨hpresenting hcall, .stay _⟩
  · -- It is answered.
    obtain ⟨hgenerated, hlater⟩ := Stage.answer_spec hash hanswer
    refine hinv.next hstep hsess hsessions (hlater hfresh)
      (fun g hg => hfresh g (hgenerated g hg)) (by simp) hunstored fun hcall => ?_
    have hstores : Stores hash u.server (.act i .answer) = stage.stores u.server.store := by
      simp only [Stores, hsess, Option.any_some, Stage.session, hcall, Bool.true_and]
      exact stage.stores_prog snap u.server.store
    obtain ⟨hmoves, hpresenting'⟩ := Stage.moves_answer hanswer (hpresenting hcall)
      (hsnapshot snap rfl) (by
        rintro ⟨token, generated, clocks, hrotate⟩
        exact hrechecked _ hsess hcall (by subst hrotate; rfl))
    rw [hstores]
    exact ⟨hpresenting', hmoves⟩
  · -- It fails.
    have hstores : call.presents hash = true → Stores hash u.server (.act i a) = false := by
      intro hcall
      rcases hfailed with rfl | ⟨snap, rfl, rfl, hnone⟩
      · rfl
      · simp only [Stores, hsess, Option.any_some, Stage.session, hcall, Bool.true_and]
        exact (stage.stores_prog snap u.server.store).trans (Stage.stores_of_answer_none hnone)
    refine hinv.next hstep hsess hsessions (hstore ▸ .refl _)
      (fun g hg => hfresh g (stage.generated_failed g hg)) (by simp) hunstored fun hcall => ?_
    obtain ⟨hmoves, hpresenting'⟩ := Stage.moves_failed (hpresenting hcall)
    rw [hstore, hstores hcall]
    exact ⟨hpresenting', hmoves⟩

end UseInv

end Run

/-- Refresh tokens are single use. In every run, of any calls from any tables, in which the UPDATE
of a refresh that presents the token finds it unrevoked, at most one such refresh succeeds and at
most one stores a successor. -/
theorem refresh_single_use {ι : Type} [DecidableEq ι] (hash : TokenHash) (s : Store)
    {es : List (Lib.ServerEvent ι Call)} {u : Use ι}
    (run : Lib.Run (Use.step hash) (Rechecked hash) ⟨.init s, 0, 0⟩ es u) :
    u.succeeded ≤ 1 ∧ u.stored ≤ 1 := by
  have hinit : UseInv hash (⟨.init s, 0, 0⟩ : Use ι) := by
    constructor
    · exact fun i sess h => absurd h (by simp [Lib.Server.init])
    · exact ⟨fun i j hi => absurd rfl hi, fun i hi => ⟨rfl, rfl⟩, fun i hi => rfl,
        fun _ => ⟨fun i => rfl, rfl, rfl⟩, Nat.zero_le 1, Nat.zero_le 1⟩
  have hinv : UseInv hash u := by
    refine run.invariant (fun u e u' hinv hrechecked hstep => ?_) hinit
    cases e with
    | call i call => exact hinv.call hrechecked hstep
    | act i a => exact hinv.act hrechecked hstep
    | finish i => exact hinv.finish hstep
  exact ⟨hinv.progress.succeeded_le, hinv.progress.stored_le⟩

/-- A user with one session. -/
def oneSession : Store where
  users := Lib.Table.empty.put ⟨"u1", "acme", "ada@acme.dev", "Ada", "admin", true⟩
  tokens := Lib.Table.empty.put { id := "r1", userID := "u1", tokenHash := "h1", expiresAt := 100 }

/-- Two refreshes present the same token, the second after the first has revoked it. -/
theorem refresh_single_use_witness : ∃ u : Use (Fin 2),
    (u.server.sessions 0).isNone ∧ (u.server.sessions 1).isNone ∧
      u.server.store.tokens.HasKey "h2" ∧ u.succeeded ≤ 1 ∧ u.stored ≤ 1 := by
  let es : List (Lib.ServerEvent (Fin 2) Call) :=
    [.call 0 (.refreshToken (some "h1") (some ⟨"r2", "h2", 200⟩) {}),
      .call 1 (.refreshToken (some "h1") (some ⟨"r3", "h3", 200⟩) {}),
      .act 0 .issue, .act 0 .answer, .act 0 .issue, .act 0 .answer,
      .act 1 .issue, .act 1 .answer,
      .act 0 .issue, .act 0 .answer, .act 0 .issue, .act 0 .answer,
      .act 0 .issue, .act 0 .answer, .finish 0,
      .act 1 .issue, .act 1 .fail, .finish 1]
  have hfold : (es.foldlM (Lib.restrict (Use.step "h1") (Rechecked "h1"))
      (⟨.init oneSession, 0, 0⟩ : Use (Fin 2))).map (fun u =>
        (u.server.sessions 0).isNone && (u.server.sessions 1).isNone &&
          decide (u.server.store.tokens.HasKey "h2")) = some true := by
    decide +kernel
  obtain ⟨u, hu, hfinal⟩ := Option.map_eq_some_iff.mp hfold
  simp only [Bool.and_eq_true, decide_eq_true_eq] at hfinal
  obtain ⟨⟨h0, h1⟩, hrow⟩ := hfinal
  exact ⟨u, h0, h1, hrow, refresh_single_use "h1" oneSession (Lib.run_iff_foldlM_restrict.mpr hu)⟩

/-- Two refreshes that read the token before either has revoked it both succeed and store a
successor. -/
theorem refresh_used_twice : ¬ ∀ (hash : TokenHash) (s : Store)
    (es : List (Lib.ServerEvent (Fin 2) Call)) (u : Use (Fin 2)),
      (∀ i call, .call i call ∈ es → call.presents hash = true ∧
        ∀ g ∈ call.generated, g.tokenHash ≠ hash) →
      Lib.Run (Use.step hash) Lib.Unguarded ⟨.init s, 0, 0⟩ es u →
        u.succeeded ≤ 1 ∧ u.stored ≤ 1 := by
  intro h
  let es : List (Lib.ServerEvent (Fin 2) Call) :=
    [.call 0 (.refreshToken (some "h1") (some ⟨"r2", "h2", 200⟩) {}),
      .call 1 (.refreshToken (some "h1") (some ⟨"r3", "h3", 200⟩) {}),
      .act 0 .issue, .act 0 .answer, .act 1 .issue, .act 1 .answer,
      .act 0 .issue, .act 0 .answer, .act 1 .issue, .act 1 .answer,
      .act 0 .issue, .act 0 .answer, .act 1 .issue, .act 1 .answer,
      .act 0 .issue, .act 0 .answer, .act 1 .issue, .act 1 .answer,
      .act 0 .issue, .act 0 .answer, .act 1 .issue, .act 1 .answer,
      .finish 0, .finish 1]
  have hcalls : ∀ i call, .call i call ∈ es → call.presents "h1" = true ∧
      ∀ g ∈ call.generated, g.tokenHash ≠ "h1" := by
    intro i call hcall
    simp only [es, List.mem_cons, Lib.ServerEvent.call.injEq, reduceCtorEq, or_false,
      List.not_mem_nil] at hcall
    rcases hcall with ⟨rfl, rfl⟩ | ⟨rfl, rfl⟩ <;> simp [Call.presents, Call.generated]
  have hfold : (es.foldlM (Use.step "h1") (⟨.init oneSession, 0, 0⟩ : Use (Fin 2))).map (fun u =>
      decide (u.succeeded = 2) && decide (u.stored = 2)) = some true := by
    decide +kernel
  obtain ⟨u, hu, hfinal⟩ := Option.map_eq_some_iff.mp hfold
  simp only [Bool.and_eq_true, decide_eq_true_eq] at hfinal
  have hsingle := (h "h1" oneSession es u hcalls (Lib.run_iff_foldlM.mpr hu)).1
  omega

end Paryty.Auth

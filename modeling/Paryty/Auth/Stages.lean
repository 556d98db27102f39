import Paryty.Auth.RefreshTokens

/-!
# Where the calls of the auth handler stand

An open call is at one of a few statements, or it has returned: a `Stage`. `Stage.answer` says
how it goes on when its statement is answered, `Stage.failed` how when the statement fails, and
`act_stage` that an action of the session is one of the two or issues the statement.
-/

namespace Paryty.Auth

open Lib.Prog (query)
open Lib.Table (find?_updates_from find?_deletes_from find?_put updates deletes)

/-! ## What is left of a call -/

/-- A refresh after it has revoked the old token. -/
def exchangeLeft (userID : UserID) (generated : Option Generated) (clocks : Clocks) :
    Session Result := do
  let some (some user) ← query (.lookupUser userID)
    | return .error ⟨.internal, "lookup user"⟩
  if !user.isActive then
    return .error ⟨.permissionDenied, "account is deactivated"⟩
  issueTokens generated user clocks

/-- A refresh that has found an unrevoked token. -/
def rotateLeft (token : TokenRow) (generated : Option Generated) (clocks : Clocks) :
    Session Result := do
  let some _ ← query (.revokeToken token.id clocks.database)
    | return .error ⟨.internal, "revoke old refresh token"⟩
  exchangeLeft token.userID generated clocks

/-- A login with an email and a password. -/
def loginLeft (email : String) (verifies : Bool) (generated : Option Generated)
    (clocks : Clocks) : Session Result := do
  let some found ← query (.lookupEmail email)
    | return .error ⟨.internal, "lookup user"⟩
  let some user := found
    | return .error ⟨.unauthenticated, "invalid email or password"⟩
  if !user.isActive then
    return .error ⟨.permissionDenied, "account is deactivated"⟩
  if !verifies then
    return .error ⟨.unauthenticated, "invalid email or password"⟩
  issueTokens generated user clocks

/-- The statement stores a token. -/
def Sql.stores {β : Type} : Sql β → Store → Bool
  | .insertToken row, s => s.CanInsert row
  | _, _ => false

/-! ## Stages -/

/-- The statement a call is at. -/
inductive Stage
  /-- The lookup of a refresh. -/
  | lookupToken (hash : TokenHash) (generated : Option Generated) (clocks : Clocks)
  /-- The update of the reuse detection. -/
  | reuse (userID : UserID) (clocks : Clocks)
  /-- The update of a rotation. -/
  | rotate (token : TokenRow) (generated : Option Generated) (clocks : Clocks)
  /-- The user lookup of a refresh. -/
  | lookupUser (userID : UserID) (generated : Option Generated) (clocks : Clocks)
  /-- The insert of the new token. -/
  | insert (generated : Generated) (user : UserRow) (clocks : Clocks)
  /-- The cleanup after the insert. -/
  | cleanup (generated : Generated) (user : UserRow) (clocks : Clocks)
  /-- The lookup of a logout. -/
  | lookupOwner (hash : TokenHash) (clocks : Clocks)
  /-- The update of a logout that has found its token. -/
  | revokeFamily (userID : UserID) (clocks : Clocks)
  /-- The update of a logout that has not. -/
  | revokePresented (hash : TokenHash) (clocks : Clocks)
  /-- The lookup of a login. -/
  | lookupEmail (email : String) (verifies : Bool) (generated : Option Generated) (clocks : Clocks)
  /-- The call has returned. -/
  | returned (result : Result)

namespace Stage

/-- A token pair is to be issued. -/
def issue (generated : Option Generated) (user : UserRow) (clocks : Clocks) : Stage :=
  match generated with
  | none => returned (.error ⟨.internal, "generate tokens"⟩)
  | some generated => insert generated user clocks

/-- A refresh has found its token, or none. -/
def found (token : Option TokenRow) (generated : Option Generated) (clocks : Clocks) : Stage :=
  match token with
  | none => returned (.error ⟨.unauthenticated, "invalid refresh token"⟩)
  | some token =>
    if token.revoked then reuse token.userID clocks
    else if token.expiresAt < clocks.server then
      returned (.error ⟨.unauthenticated, "refresh token has expired"⟩)
    else rotate token generated clocks

/-- A refresh has found its user, or none. -/
def foundUser (user : Option UserRow) (generated : Option Generated) (clocks : Clocks) : Stage :=
  match user with
  | none => returned (.error ⟨.internal, "lookup user"⟩)
  | some user =>
    if user.isActive then issue generated user clocks
    else returned (.error ⟨.permissionDenied, "account is deactivated"⟩)

/-- A login has found its user, or none. -/
def foundEmail (user : Option UserRow) (verifies : Bool) (generated : Option Generated)
    (clocks : Clocks) : Stage :=
  match user with
  | none => returned (.error ⟨.unauthenticated, "invalid email or password"⟩)
  | some user =>
    if user.isActive then
      if verifies then issue generated user clocks
      else returned (.error ⟨.unauthenticated, "invalid email or password"⟩)
    else returned (.error ⟨.permissionDenied, "account is deactivated"⟩)

/-- The stage when the statement fails. -/
def failed : Stage → Stage
  | lookupToken _ _ _ => returned (.error ⟨.internal, "lookup refresh token"⟩)
  | reuse _ _ => returned (.error ⟨.unauthenticated, "refresh token has been revoked"⟩)
  | rotate _ _ _ => returned (.error ⟨.internal, "revoke old refresh token"⟩)
  | lookupUser _ _ _ => returned (.error ⟨.internal, "lookup user"⟩)
  | insert _ _ _ => returned (.error ⟨.internal, "store refresh token"⟩)
  | cleanup generated user _ => returned (.ok (.tokens generated.tokenHash user))
  | lookupOwner hash clocks => revokePresented hash clocks
  | revokeFamily _ _ => returned (.error ⟨.internal, "revoke refresh tokens"⟩)
  | revokePresented _ _ => returned (.ok .empty)
  | lookupEmail _ _ _ _ => returned (.error ⟨.internal, "lookup user"⟩)
  | returned result => returned result

/-- What is left of the program. -/
def prog : Stage → Session Result
  | lookupToken hash generated clocks => Auth.refreshToken (some hash) generated clocks
  | reuse userID clocks => .stmt (.revokeFamily userID clocks.database) fun _ =>
    .ret (.error ⟨.unauthenticated, "refresh token has been revoked"⟩)
  | rotate token generated clocks => rotateLeft token generated clocks
  | lookupUser userID generated clocks => exchangeLeft userID generated clocks
  | insert generated user clocks => issueTokens (some generated) user clocks
  | cleanup generated user clocks => .stmt (.deleteStale user.id clocks.database) fun _ =>
    .ret (.ok (.tokens generated.tokenHash user))
  | lookupOwner hash clocks => Auth.logout (some hash) clocks
  | revokeFamily userID clocks => .stmt (.revokeFamily userID clocks.database) fun
    | none => .ret (.error ⟨.internal, "revoke refresh tokens"⟩)
    | some _ => .ret (.ok .empty)
  | revokePresented hash clocks => .stmt (.revokePresented hash clocks.database) fun _ =>
    .ret (.ok .empty)
  | lookupEmail email verifies generated clocks => loginLeft email verifies generated clocks
  | returned result => .ret result

/-- The session of a call at the stage. -/
def session (stage : Stage) (call : Call) (snapshot : Option Store) : CallSession :=
  { call, prog := stage.prog, snapshot }

/-- The stage at which a call starts. -/
def start : Call → Stage
  | .refreshToken none _ _ => returned (.error ⟨.invalidArgument, "refresh_token is required"⟩)
  | .refreshToken (some hash) generated clocks => lookupToken hash generated clocks
  | .logout none _ => returned (.error ⟨.invalidArgument, "refresh_token is required"⟩)
  | .logout (some hash) clocks => lookupOwner hash clocks
  | .login email password generated clocks =>
    match password with
    | none => returned (.error ⟨.invalidArgument, "email and password are required"⟩)
    | some verifies =>
      if email = "" then
        returned (.error ⟨.invalidArgument, "email and password are required"⟩)
      else lookupEmail email verifies generated clocks

lemma prog_start (call : Call) : (start call).prog = call.program := by
  cases call with
  | refreshToken hash generated clocks => cases hash <;> rfl
  | logout hash clocks => cases hash <;> rfl
  | login email password generated clocks =>
    show _ = Auth.login email password generated clocks
    by_cases hemail : email = ""
    · subst hemail
      cases password <;> rfl
    · unfold Auth.login
      rw [if_neg hemail]
      cases password with
      | none => rfl
      | some verifies =>
        show (if email = "" then _ else _ : Stage).prog = _
        rw [if_neg hemail]
        rfl

@[simp] lemma prog_returned (result : Result) : (returned result).prog = .ret result := rfl

lemma prog_issue (generated : Option Generated) (user : UserRow) (clocks : Clocks) :
    (issue generated user clocks).prog = issueTokens generated user clocks := by
  cases generated <;> rfl

/-! ## Steps -/

/-- Revoke the rows that satisfy the condition, chosen in the snapshot. -/
def revoke (snapshot current : Store) (p : TokenRow → Bool) (now : Time) : Store :=
  { current with
    tokens := (updates snapshot.tokens current.tokens p (TokenRow.revoke now)).foldl
      Lib.Table.write current.tokens }

lemma find?_revoke (hash : TokenHash) (snapshot current : Store) (p : TokenRow → Bool)
    (now : Time) :
    (revoke snapshot current p now).tokens.find? hash = (current.tokens.find? hash).map
      fun row => if p row && (snapshot.tokens.find? hash).any p then row.revoke now else row :=
  find?_updates_from snapshot.tokens current.tokens p (TokenRow.revoke now) (fun _ => rfl) hash

/-- The answer to the statement: how the call goes on, and the store. -/
def answer (snapshot current : Store) : Stage → Option (Stage × Store)
  | lookupToken hash generated clocks =>
    some (found (snapshot.tokens.find? hash) generated clocks, current)
  | reuse userID clocks =>
    some (returned (.error ⟨.unauthenticated, "refresh token has been revoked"⟩),
      revoke snapshot current (TokenRow.ofUser userID) clocks.database)
  | rotate token generated clocks =>
    some (lookupUser token.userID generated clocks,
      revoke snapshot current (fun row => row.id = token.id) clocks.database)
  | lookupUser userID generated clocks =>
    some (foundUser (snapshot.users.find? userID) generated clocks, current)
  | insert generated user clocks =>
    if current.CanInsert (generated.row user.id) then
      some (cleanup generated user clocks,
        { current with tokens := current.tokens.put (generated.row user.id) })
    else none
  | cleanup generated user clocks =>
    some (returned (.ok (.tokens generated.tokenHash user)),
      { current with
        tokens := (deletes snapshot.tokens current.tokens
          (TokenRow.stale user.id clocks.database)).foldl Lib.Table.write current.tokens })
  | lookupOwner _ _ => none
  | revokeFamily userID clocks =>
    some (returned (.ok .empty),
      revoke snapshot current (TokenRow.ofUser userID) clocks.database)
  | revokePresented hash clocks =>
    some (returned (.ok .empty),
      revoke snapshot current (fun row => row.tokenHash = hash && !row.revoked) clocks.database)
  | lookupEmail email verifies generated clocks =>
    some (foundEmail (snapshot.users.rows.find? (fun row => row.email = email)) verifies generated
      clocks, current)
  | returned _ => none

lemma foldl_apply (writes : List Write) (s : Store) : writes.foldl engine.apply s =
    { s with tokens := writes.foldl Lib.Table.write s.tokens } := by
  induction writes generalizing s with
  | nil => rfl
  | cons w writes ih => exact ih _

/-- The stage stores a token. -/
def stores (s : Store) : Stage → Bool
  | insert generated user _ => s.CanInsert (generated.row user.id)
  | _ => false

lemma stores_prog (stage : Stage) (snapshot s : Store) :
    (match stage.prog, some snapshot with
      | .stmt q _, some _ => q.stores s
      | _, _ => false) = stage.stores s := by
  cases stage <;> rfl

lemma stores_of_answer_none {stage : Stage} {snapshot s : Store}
    (h : stage.answer snapshot s = none) : stage.stores s = false := by
  cases stage with
  | insert generated user clocks =>
    simp only [answer] at h
    split at h
    case isTrue => exact absurd h (by simp)
    case isFalse hinsert => exact decide_eq_false hinsert
  | _ => rfl

/-- A stage at the statement `q`, whose program goes on with `k`. -/
structure At (stage : Stage) {β : Type} (q : Sql β) (k : Option β → Session Result) : Prop where
  prog : stage.prog = .stmt q k
  failed : k none = stage.failed.prog
  unanswered : ∀ snapshot current, q.run snapshot current = none →
    stage.answer snapshot current = none
  answered : ∀ snapshot current reply writes, q.run snapshot current = some (reply, writes) →
    ∃ stage', k (some reply) = stage'.prog ∧
      stage.answer snapshot current = some (stage', writes.foldl engine.apply current)

lemma At.of_some {stage : Stage} {β : Type} {q : Sql β} {k : Option β → Session Result}
    (prog : stage.prog = .stmt q k) (failed : k none = stage.failed.prog)
    (reply : Store → Store → β) (writes : Store → Store → List Write)
    (run : ∀ snapshot current, q.run snapshot current =
      some (reply snapshot current, writes snapshot current))
    (next : ∀ snapshot current, ∃ stage', k (some (reply snapshot current)) = stage'.prog ∧
      stage.answer snapshot current =
        some (stage', (writes snapshot current).foldl engine.apply current)) :
    stage.At q k := by
  refine ⟨prog, failed, fun snapshot current h => ?_, fun snapshot current answer made h => ?_⟩
  · rw [run] at h
    exact absurd h (by simp)
  · rw [run] at h
    obtain ⟨rfl, rfl⟩ := Prod.mk.inj (Option.some.inj h)
    exact next snapshot current

lemma prog_found (token : Option TokenRow) (generated : Option Generated) (clocks : Clocks) :
    (found token generated clocks).prog = match token with
      | none => .ret (.error ⟨.unauthenticated, "invalid refresh token"⟩)
      | some token =>
        if token.revoked then (reuse token.userID clocks).prog
        else if token.expiresAt < clocks.server then
          .ret (.error ⟨.unauthenticated, "refresh token has expired"⟩)
        else rotateLeft token generated clocks := by
  cases token with
  | none => rfl
  | some token =>
    show (if _ then _ else _ : Stage).prog = if _ then _ else _
    rw [apply_ite prog, apply_ite prog]
    rfl

lemma prog_foundUser (user : Option UserRow) (generated : Option Generated) (clocks : Clocks) :
    (foundUser user generated clocks).prog = match user with
      | none => .ret (.error ⟨.internal, "lookup user"⟩)
      | some user =>
        if !user.isActive then .ret (.error ⟨.permissionDenied, "account is deactivated"⟩)
        else issueTokens generated user clocks := by
  cases user with
  | none => rfl
  | some user =>
    cases hactive : user.isActive with
    | true => simp [foundUser, hactive, prog_issue]
    | false => simp [foundUser, hactive]

lemma prog_foundEmail (user : Option UserRow) (verifies : Bool) (generated : Option Generated)
    (clocks : Clocks) :
    (foundEmail user verifies generated clocks).prog = match user with
      | none => .ret (.error ⟨.unauthenticated, "invalid email or password"⟩)
      | some user =>
        if !user.isActive then .ret (.error ⟨.permissionDenied, "account is deactivated"⟩)
        else if !verifies then .ret (.error ⟨.unauthenticated, "invalid email or password"⟩)
        else issueTokens generated user clocks := by
  cases user with
  | none => rfl
  | some user =>
    cases hactive : user.isActive with
    | true => cases verifies <;> simp [foundEmail, hactive, prog_issue]
    | false => simp [foundEmail, hactive]

lemma at_or_returned (stage : Stage) :
    (∃ (β : Type) (q : Sql β) (k : Option β → Session Result), stage.At q k) ∨
      ∃ result, stage = returned result := by
  cases stage with
  | returned result => exact .inr ⟨result, rfl⟩
  | lookupToken hash generated clocks =>
    refine .inl ⟨_, _, _, At.of_some rfl rfl _ _ (fun _ _ => rfl) fun snapshot current => ?_⟩
    refine ⟨_, ?_, rfl⟩
    rw [prog_found]
    cases snapshot.tokens.find? hash <;> rfl
  | reuse | rotate =>
    refine .inl ⟨_, _, _, At.of_some rfl rfl _ _ (fun _ _ => rfl) fun snapshot current => ?_⟩
    exact ⟨_, rfl, by rw [foldl_apply]; rfl⟩
  | lookupUser userID generated clocks =>
    refine .inl ⟨_, _, _, At.of_some rfl rfl _ _ (fun _ _ => rfl) fun snapshot current => ?_⟩
    refine ⟨_, ?_, rfl⟩
    rw [prog_foundUser]
    cases snapshot.users.find? userID <;> rfl
  | insert generated user clocks =>
    refine .inl ⟨_, _, _, rfl, rfl, fun snapshot current h => ?_,
      fun snapshot current reply writes h => ?_⟩
    · -- The insert fails exactly when the row may not be inserted.
      by_cases hinsert : current.CanInsert (generated.row user.id)
      · simp [Sql.run, hinsert, affected] at h
      · exact if_neg hinsert
    · by_cases hinsert : current.CanInsert (generated.row user.id)
      · simp only [Sql.run, hinsert, affected, if_true, Option.some.injEq, Prod.mk.injEq] at h
        obtain ⟨rfl, rfl⟩ := h
        exact ⟨cleanup generated user clocks, rfl, if_pos hinsert⟩
      · simp only [Sql.run, if_neg hinsert] at h
        exact absurd h (by simp)
  | cleanup generated user clocks =>
    refine .inl ⟨_, _, _, At.of_some rfl rfl _ _ (fun _ _ => rfl) fun snapshot current => ?_⟩
    exact ⟨_, rfl, by rw [foldl_apply]; rfl⟩
  | lookupOwner hash clocks =>
    refine .inl ⟨_, _, _, rfl, rfl, fun snapshot current h => rfl,
      fun snapshot current reply writes h => ?_⟩
    -- The statement asks for a column that the table does not have, so it always fails.
    have hcolumn : ¬ ["user_id", "tenant_id"] ⊆ refreshTokenColumns := by decide
    rw [Sql.run, if_neg hcolumn] at h
    exact absurd h (by simp)
  | revokeFamily | revokePresented =>
    refine .inl ⟨_, _, _, At.of_some rfl rfl _ _ (fun _ _ => rfl) fun snapshot current => ?_⟩
    exact ⟨_, rfl, by rw [foldl_apply]; rfl⟩
  | lookupEmail email verifies generated clocks =>
    refine .inl ⟨_, _, _, At.of_some rfl rfl _ _ (fun _ _ => rfl) fun snapshot current => ?_⟩
    refine ⟨_, ?_, rfl⟩
    rw [prog_foundEmail]
    cases snapshot.users.rows.find? (fun row => row.email = email) <;> rfl

/-- What an action of a session does: it issues the statement, the statement is answered, or it
fails. -/
lemma act_stage {stage : Stage} {call : Call} {snapshot : Option Store} {s s' : Store}
    {sess' : CallSession} {writes : List Write} {a : Lib.Act}
    (hact : (stage.session call snapshot).act engine s a = some (sess', s', writes)) :
    (a = .issue ∧ snapshot = none ∧ sess' = stage.session call (some s) ∧ s' = s) ∨
      (∃ snap stage', a = .answer ∧ snapshot = some snap ∧
        stage.answer snap s = some (stage', s') ∧ sess' = stage'.session call none) ∨
      ((a = .fail ∨ ∃ snap, a = .answer ∧ snapshot = some snap ∧ stage.answer snap s = none) ∧
        sess' = stage.failed.session call none ∧ s' = s) := by
  rcases stage.at_or_returned with ⟨β, q, k, hat⟩ | ⟨result, rfl⟩
  · have hsession : ∀ snapshot, stage.session call snapshot = ⟨call, .stmt q k, .idle, snapshot⟩ :=
      fun snapshot => by rw [session, hat.prog]
    rw [hsession] at hact
    rcases Lib.Session.act_stmt_idle hact with ⟨rfl, rfl, rfl, rfl⟩ |
      ⟨snap, reply, made, rfl, rfl, hrun, rfl, rfl⟩ | ⟨hfailed, rfl, rfl⟩
    · exact .inl ⟨rfl, rfl, (hsession _).symm, rfl⟩
    · obtain ⟨stage', hk, hanswer⟩ := hat.answered snap s reply made hrun
      refine .inr (.inl ⟨snap, stage', rfl, rfl, hanswer, ?_⟩)
      rw [hk]
      rfl
    · refine .inr (.inr ⟨?_, ?_, rfl⟩)
      · rcases hfailed with rfl | ⟨snap, rfl, rfl, hrun⟩
        · exact .inl rfl
        · exact .inr ⟨snap, rfl, rfl, hat.unanswered snap s' hrun⟩
      · rw [hat.failed]
        rfl
  · exact absurd hact (by simp [session])

end Stage

end Paryty.Auth

import Mathlib.Algebra.Order.Ring.Int
import Mathlib.Data.Int.Notation
import Paryty.Lib.Interleaving
import Paryty.Lib.Table

/-!
# Refresh tokens

The tables `refresh_tokens` and `users` as far as the auth handler reads them, and its calls
`RefreshToken`, `Logout` and `Login` as programs over them. None of them opens a transaction:
every statement stands for itself.

* A token is told by its hash, as in the table; an empty token has none.
* What a call gets from outside is an argument: what the clocks show, whether the password
  verifies, and the token pair that is generated.
* Only the refresh token of a generated pair is stored. The access token, with the plan and the
  permissions in it, is left out; so are the rate limits and the audit log.
-/

namespace Paryty.Auth

open Lib.Prog (query)

abbrev UserID := String
abbrev TenantID := String
abbrev TokenID := String
abbrev TokenHash := String

/-- A point in time, in nanoseconds since the epoch. -/
abbrev Time := ℤ

/-- A row of `refresh_tokens`. -/
structure TokenRow where
  id : TokenID
  userID : UserID
  tokenHash : TokenHash
  expiresAt : Time
  revokedAt : Option Time := none
deriving DecidableEq

/-- The token can no longer be exchanged. -/
def TokenRow.revoked (row : TokenRow) : Bool := row.revokedAt.isSome

/-- A row of `users`. -/
structure UserRow where
  id : UserID
  tenantID : TenantID
  email : String
  name : String
  role : String
  isActive : Bool
deriving DecidableEq

/-- The columns of `refresh_tokens`. -/
def refreshTokenColumns : List String :=
  ["id", "user_id", "token_hash", "device_info", "expires_at", "created_at", "revoked_at"]

/-- The tables. `token_hash` is unique. -/
structure Store where
  tokens : Lib.Table TokenRow TokenHash TokenRow.tokenHash := .empty
  users : Lib.Table UserRow UserID UserRow.id := .empty
deriving DecidableEq

/-- A row write to `refresh_tokens`; the calls write no other table. -/
abbrev Write := Lib.Table.RowWrite TokenRow TokenHash

/-- Perform a row write. -/
def Store.apply (s : Store) (w : Write) : Store := { s with tokens := s.tokens.write w }

/-! ## Statements -/

/-- The statements of the auth handler. `Sql Nat` answers the number of rows affected. -/
inductive Sql : Type → Type
  /-- `SELECT id, user_id, expires_at, revoked_at FROM refresh_tokens WHERE token_hash` -/
  | lookupToken (hash : TokenHash) : Sql (Option TokenRow)
  /-- `UPDATE refresh_tokens SET revoked_at = now() WHERE user_id AND revoked_at IS NULL` -/
  | revokeFamily (userID : UserID) (now : Time) : Sql Nat
  /-- `UPDATE refresh_tokens SET revoked_at = now() WHERE id` -/
  | revokeToken (id : TokenID) (now : Time) : Sql Nat
  /-- `UPDATE refresh_tokens SET revoked_at = now() WHERE token_hash AND revoked_at IS NULL` -/
  | revokePresented (hash : TokenHash) (now : Time) : Sql Nat
  /-- `SELECT user_id, tenant_id FROM refresh_tokens WHERE token_hash AND revoked_at IS NULL` -/
  | lookupOwner (hash : TokenHash) : Sql (Option (UserID × TenantID))
  /-- `SELECT tenant_id, email, name, role, is_active FROM users WHERE id` -/
  | lookupUser (userID : UserID) : Sql (Option UserRow)
  /-- `SELECT .. FROM users WHERE email ORDER BY created_at ASC LIMIT 1` -/
  | lookupEmail (email : String) : Sql (Option UserRow)
  /-- `INSERT INTO refresh_tokens (user_id, token_hash, expires_at)` -/
  | insertToken (row : TokenRow) : Sql Nat
  /-- `DELETE FROM refresh_tokens WHERE user_id AND (expires_at < now() OR revoked_at < now() -
  interval '24 hours')` -/
  | deleteStale (userID : UserID) (now : Time) : Sql Nat

/-- How long revoked tokens are kept. -/
def revokedRetention : Time := 24 * 60 * 60 * 10 ^ 9

/-- An unrevoked token of the user. -/
def TokenRow.ofUser (userID : UserID) (row : TokenRow) : Bool := row.userID = userID && !row.revoked

/-- A token of the user that is expired, or has been revoked for long. -/
def TokenRow.stale (userID : UserID) (now : Time) (row : TokenRow) : Bool :=
  row.userID = userID && (decide (row.expiresAt < now) ||
    row.revokedAt.any (fun revokedAt => revokedAt < now - revokedRetention))

/-- `SET revoked_at = now()`. -/
def TokenRow.revoke (now : Time) (row : TokenRow) : TokenRow := { row with revokedAt := some now }

/-- The hash and the id are new, and the user exists. -/
def Store.CanInsert (s : Store) (row : TokenRow) : Prop :=
  ¬ s.tokens.HasKey row.tokenHash ∧ (∀ row' ∈ s.tokens.rows, row'.id ≠ row.id) ∧
    s.users.HasKey row.userID

instance (s : Store) (row : TokenRow) : Decidable (s.CanInsert row) :=
  inferInstanceAs (Decidable (_ ∧ _ ∧ _))

/-- A statement that changes rows answers how many. -/
def affected (writes : List Write) : Option (Nat × List Write) := some (writes.length, writes)

/-- What a statement answers and writes. Statements choose their rows in the snapshot and act on
them as they are. A statement fails on a duplicate key, on a foreign key without its row, and when
it selects a column that the table does not have. -/
def Sql.run {β : Type} : Sql β → (snapshot current : Store) → Option (β × List Write)
  | lookupToken hash, snapshot, _ => some (snapshot.tokens.find? hash, [])
  | revokeFamily userID now, snapshot, current =>
    affected (snapshot.tokens.updates current.tokens (TokenRow.ofUser userID) (TokenRow.revoke now))
  | revokeToken id now, snapshot, current =>
    affected (snapshot.tokens.updates current.tokens (fun row => row.id = id) (TokenRow.revoke now))
  | revokePresented hash now, snapshot, current =>
    affected (snapshot.tokens.updates current.tokens
      (fun row => row.tokenHash = hash && !row.revoked) (TokenRow.revoke now))
  | lookupOwner hash, snapshot, _ =>
    if ["user_id", "tenant_id"] ⊆ refreshTokenColumns then
      some ((snapshot.tokens.find? hash).bind fun row =>
        if row.revoked then none
        else (snapshot.users.find? row.userID).map fun user => (row.userID, user.tenantID), [])
    else none
  | lookupUser userID, snapshot, _ => some (snapshot.users.find? userID, [])
  | lookupEmail email, snapshot, _ =>
    some (snapshot.users.rows.find? (fun row => row.email = email), [])
  | insertToken row, _, current => if current.CanInsert row then affected [.put row] else none
  | deleteStale userID now, snapshot, current =>
    affected (snapshot.tokens.deletes current.tokens (TokenRow.stale userID now))

/-- The database. -/
def engine : Lib.Engine Sql Store Write TokenHash where
  run := Sql.run
  apply := Store.apply
  locks w := some (w.row TokenRow.tokenHash)

/-! ## The auth handler -/

/-- The client side of a database session. -/
abbrev Session := Lib.Prog Sql

/-- The status codes of the errors. -/
inductive Code
  | invalidArgument
  | unauthenticated
  | permissionDenied
  | internal
deriving DecidableEq

/-- An error of a call. One that wraps a database error has the text in front of it. -/
structure Status where
  code : Code
  message : String
deriving DecidableEq

/-- What a login or refresh returns, of the generated pair only the refresh token. A logout
returns nothing. -/
inductive Response
  | tokens (refreshToken : TokenHash) (user : UserRow)
  | empty
deriving DecidableEq

abbrev Result := Except Status Response

/-- What the clocks show: the server at the check of the expiration, and the database at the
statements that call `now()`. -/
structure Clocks where
  server : Time := 0
  database : Time := 0
deriving DecidableEq

/-- A generated refresh token, and the id that the database gives its row. -/
structure Generated where
  id : TokenID
  tokenHash : TokenHash
  expiresAt : Time
deriving DecidableEq

/-- The row of a generated token. -/
def Generated.row (generated : Generated) (userID : UserID) : TokenRow :=
  { id := generated.id, userID, tokenHash := generated.tokenHash, expiresAt := generated.expiresAt }

/-- Persist a refresh token, and delete the expired and long-revoked ones of the user; a failure
of the cleanup does not matter. -/
def storeRefreshToken (userID : UserID) (generated : Generated) (clocks : Clocks) :
    Session (Option Unit) := do
  let some _ ← query (.insertToken (generated.row userID))
    | return none
  let _ ← query (.deleteStale userID clocks.database)
  return some ()

/-- The end of a login and of a refresh: a generated token pair is stored and returned. -/
def issueTokens (generated : Option Generated) (user : UserRow) (clocks : Clocks) :
    Session Result := do
  let some generated := generated
    | return .error ⟨.internal, "generate tokens"⟩
  let some _ ← storeRefreshToken user.id generated clocks
    | return .error ⟨.internal, "store refresh token"⟩
  return .ok (.tokens generated.tokenHash user)

/-- Exchange a valid refresh token for a new token pair. -/
def refreshToken (hash : Option TokenHash) (generated : Option Generated) (clocks : Clocks) :
    Session Result := do
  let some hash := hash
    | return .error ⟨.invalidArgument, "refresh_token is required"⟩
  let some found ← query (.lookupToken hash)
    | return .error ⟨.internal, "lookup refresh token"⟩
  let some token := found
    | return .error ⟨.unauthenticated, "invalid refresh token"⟩
  if token.revoked then
    -- Reuse detection; a failed update is only logged.
    let _ ← query (.revokeFamily token.userID clocks.database)
    return .error ⟨.unauthenticated, "refresh token has been revoked"⟩
  if token.expiresAt < clocks.server then
    return .error ⟨.unauthenticated, "refresh token has expired"⟩
  let some _ ← query (.revokeToken token.id clocks.database)
    | return .error ⟨.internal, "revoke old refresh token"⟩
  let some (some user) ← query (.lookupUser token.userID)
    | return .error ⟨.internal, "lookup user"⟩
  if !user.isActive then
    return .error ⟨.permissionDenied, "account is deactivated"⟩
  issueTokens generated user clocks

/-- Revoke all active refresh tokens for the user. -/
def logout (hash : Option TokenHash) (clocks : Clocks) : Session Result := do
  let some hash := hash
    | return .error ⟨.invalidArgument, "refresh_token is required"⟩
  let some (some (userID, _)) ← query (.lookupOwner hash)
    | -- Not found or already revoked: still attempt to revoke the presented token.
      let _ ← query (.revokePresented hash clocks.database)
      return .ok .empty
  let some _ ← query (.revokeFamily userID clocks.database)
    | return .error ⟨.internal, "revoke refresh tokens"⟩
  return .ok .empty

/-- Authenticate a user by email and password. The password is given as whether it verifies, and
an empty one as none. -/
def login (email : String) (password : Option Bool) (generated : Option Generated)
    (clocks : Clocks) : Session Result := do
  if email = "" then
    return .error ⟨.invalidArgument, "email and password are required"⟩
  let some verifies := password
    | return .error ⟨.invalidArgument, "email and password are required"⟩
  let some found ← query (.lookupEmail email)
    | return .error ⟨.internal, "lookup user"⟩
  let some user := found
    | return .error ⟨.unauthenticated, "invalid email or password"⟩
  if !user.isActive then
    return .error ⟨.permissionDenied, "account is deactivated"⟩
  if !verifies then
    return .error ⟨.unauthenticated, "invalid email or password"⟩
  issueTokens generated user clocks

/-- A call with its arguments. -/
inductive Call
  | refreshToken (hash : Option TokenHash) (generated : Option Generated) (clocks : Clocks)
  | logout (hash : Option TokenHash) (clocks : Clocks)
  | login (email : String) (password : Option Bool) (generated : Option Generated) (clocks : Clocks)
deriving DecidableEq

/-- The program of a call. -/
def Call.program : Call → Session Result
  | .refreshToken hash generated clocks => Auth.refreshToken hash generated clocks
  | .logout hash clocks => Auth.logout hash clocks
  | .login email password generated clocks => Auth.login email password generated clocks

/-- The token a call generates. -/
def Call.generated : Call → Option Generated
  | .refreshToken _ generated _ => generated
  | .logout _ _ => none
  | .login _ _ generated _ => generated

/-- The database server with the calls of the auth handler. -/
abbrev AuthServer (ι : Type) := Lib.Server ι Sql Result Call Store Write TokenHash

/-- A session of the server. -/
abbrev CallSession := Lib.Session Sql Result Call Store Write

end Paryty.Auth

import Paryty.Auth.RefreshTokens
import Paryty.Lib.Failures

/-!
# Accounts

The tables behind `Register` and `Login` of `cluster/internal/auth/handler.go`, and the two calls as
programs over them: `register` creates a tenant and its admin user in a transaction and then issues
tokens; `authenticate` is the part of a login that uses the database.

* `first` picks a row with the least `created_at`, as `ORDER BY created_at ASC LIMIT 1` does: which
  one of several is open.
* What a call gets from outside is an argument: the answers of the checks and limits before the
  transaction, what is generated, and what the clocks show.
* Of a token pair only the refresh token is stored. The plan of the tenant is not a matter of the
  result: a failure to assign it or to read it is only logged.
-/

namespace Paryty.Auth.Accounts

open Lib.Prog (query beginTx commitTx)

/-! ## Tables -/

/-- A row of `tenants`. -/
structure TenantRow where
  tenantID : TenantID
  name : String
  status : String := "active"
deriving DecidableEq

/-- A row of `users`, with the columns that a registration writes and a login reads. -/
structure AccountRow where
  id : UserID
  tenantID : TenantID
  email : String
  passwordHash : String
  name : String
  role : String
  isActive : Bool := true
  createdAt : Time
deriving DecidableEq

/-- A row of `email_verifications`. -/
structure VerificationRow where
  userID : UserID
  tokenHash : TokenHash
  expiresAt : Time
deriving DecidableEq

/-- The tables with their primary keys; `token_hash` is unique. -/
structure Store where
  tenants : Lib.Table TenantRow TenantID TenantRow.tenantID := .empty
  users : Lib.Table AccountRow UserID AccountRow.id := .empty
  verifications : Lib.Table VerificationRow TokenHash VerificationRow.tokenHash := .empty
  tokens : Lib.Table TokenRow TokenHash TokenRow.tokenHash := .empty
deriving DecidableEq

/-- A row write. -/
inductive Write
  | tenant (row : TenantRow)
  | user (row : AccountRow)
  | verification (row : VerificationRow)
  | token (w : Lib.Table.RowWrite TokenRow TokenHash)

/-- Perform a row write. -/
def Store.apply (s : Store) : Write → Store
  | .tenant row => { s with tenants := s.tenants.put row }
  | .user row => { s with users := s.users.put row }
  | .verification row => { s with verifications := s.verifications.put row }
  | .token w => { s with tokens := s.tokens.write w }

/-! ## Statements -/

/-- The statements. `Sql Nat` answers the number of rows affected. -/
inductive Sql : Type → Type
  /-- `INSERT INTO tenants (name, status) VALUES (.., 'active') RETURNING tenant_id` -/
  | insertTenant (row : TenantRow) : Sql TenantID
  /-- `INSERT INTO users (id, tenant_id, email, password_hash, name, role)` -/
  | insertUser (row : AccountRow) : Sql Nat
  /-- `INSERT INTO email_verifications (user_id, token_hash, expires_at)` -/
  | insertVerification (row : VerificationRow) : Sql Nat
  /-- `INSERT INTO refresh_tokens (user_id, token_hash, expires_at)` -/
  | insertToken (row : TokenRow) : Sql Nat
  /-- `DELETE FROM refresh_tokens WHERE user_id AND (expires_at < now() OR revoked_at < now() -
  interval '24 hours')` -/
  | deleteStale (userID : UserID) (now : Time) : Sql Nat
  /-- `SELECT .. FROM users WHERE email ORDER BY created_at ASC LIMIT 1` -/
  | lookupEmail (email : String) : Sql (Option AccountRow)

/-- The id is new, the tenant exists, and has no other user with this email. -/
def Store.CanInsertUser (s : Store) (row : AccountRow) : Prop :=
  ¬ s.users.HasKey row.id ∧ s.tenants.HasKey row.tenantID ∧
    ∀ row' ∈ s.users.rows, ¬ (row'.tenantID = row.tenantID ∧ row'.email = row.email)

instance (s : Store) (row : AccountRow) : Decidable (s.CanInsertUser row) :=
  inferInstanceAs (Decidable (_ ∧ _ ∧ _))

/-- The hash is new and the user exists. -/
def Store.CanInsertVerification (s : Store) (row : VerificationRow) : Prop :=
  ¬ s.verifications.HasKey row.tokenHash ∧ s.users.HasKey row.userID

instance (s : Store) (row : VerificationRow) : Decidable (s.CanInsertVerification row) :=
  inferInstanceAs (Decidable (_ ∧ _))

/-- The hash and the id are new, and the user exists. -/
def Store.CanInsertToken (s : Store) (row : TokenRow) : Prop :=
  ¬ s.tokens.HasKey row.tokenHash ∧ (∀ row' ∈ s.tokens.rows, row'.id ≠ row.id) ∧
    s.users.HasKey row.userID

instance (s : Store) (row : TokenRow) : Decidable (s.CanInsertToken row) :=
  inferInstanceAs (Decidable (_ ∧ _ ∧ _))

/-- The users with an email. -/
def Store.withEmail (s : Store) (email : String) : List AccountRow :=
  s.users.rows.filter fun row => row.email = email

/-- What a statement answers and writes. It fails on a duplicate key and on a foreign key without
its row. -/
def Sql.run (first : List AccountRow → Option AccountRow) {β : Type} :
    Sql β → (snapshot current : Store) → Option (β × List Write)
  | insertTenant row, _, current =>
    if current.tenants.HasKey row.tenantID then none else some (row.tenantID, [.tenant row])
  | insertUser row, _, current => if current.CanInsertUser row then some (1, [.user row]) else none
  | insertVerification row, _, current =>
    if current.CanInsertVerification row then some (1, [.verification row]) else none
  | insertToken row, _, current =>
    if current.CanInsertToken row then some (1, [.token (.put row)]) else none
  | deleteStale userID now, snapshot, current =>
    let writes := snapshot.tokens.deletes current.tokens (TokenRow.stale userID now)
    some (writes.length, writes.map .token)
  | lookupEmail email, snapshot, _ => some (first (snapshot.withEmail email), [])

/-- The database. -/
def engine (first : List AccountRow → Option AccountRow) : Lib.Engine Sql Store Write Empty where
  run := Sql.run first
  apply := Store.apply
  locks _ := none

/-! ## The auth handler -/

/-- The client side of a database session. -/
abbrev Session := Lib.Prog Sql

/-- The status codes of the errors. -/
inductive Code
  | invalidArgument
  | resourceExhausted
  | alreadyExists
  | unauthenticated
  | permissionDenied
  | internal
deriving DecidableEq

/-- An error of a call. One that wraps an error has the text in front of it. -/
structure Status where
  code : Code
  message : String
deriving DecidableEq

/-- What a registration or a login returns, of the generated pair only the refresh token. -/
structure Response where
  tenantID : TenantID
  userID : UserID
  refreshToken : TokenHash
deriving DecidableEq

abbrev Result := Except Status Response

/-- `RegisterRequest`. -/
structure RegisterRequest where
  email : String
  password : String
  name : String
  planName : String := ""
deriving DecidableEq

/-- What a registration gets from outside. -/
structure RegisterInput where
  /-- `mail.ParseAddress` takes the email. -/
  parses : Bool := true
  /-- The error of `ValidatePasswordPolicy`. -/
  policyError : Option String := none
  /-- `ValidatePlanName`. -/
  planKnown : Bool := true
  /-- Whether `extractClientIP` finds the address of the client. -/
  hasClientIP : Bool := true
  /-- After how many seconds the limiter in Redis wants the client to try again. -/
  retryAfter : Option String := none
  /-- The limiter in memory allows the call. -/
  allowed : Bool := true
  /-- `HashPassword`. -/
  passwordHash : Option String
  tenantID : TenantID
  userID : UserID
  /-- The hash of the verification token. -/
  verifyHash : TokenHash
  /-- `isUniqueViolation` of the error of the second INSERT. -/
  uniqueViolation : Bool := false
  /-- What `GeneratePair` gives. -/
  generated : Option Generated
  /-- What `now()` shows in the transaction, and after it. -/
  now : Time
  later : Time
deriving DecidableEq

/-- How long a verification token is valid. -/
def verificationTTL : Time := 24 * 60 * 60 * 10 ^ 9

/-- The checks and limits before anything is done. -/
def RegisterInput.refusal (input : RegisterInput) (req : RegisterRequest) : Option Status :=
  if req.email = "" then some ⟨.invalidArgument, "email is required"⟩
  else if !input.parses then some ⟨.invalidArgument, "email is not a valid address"⟩
  else if let some text := input.policyError then
    some ⟨.invalidArgument, "password policy: " ++ text⟩
  else if !input.planKnown then
    let planName := if req.planName = "" then "basic" else req.planName
    some ⟨.invalidArgument, "plan " ++ planName.quote ++ " is not available for signup"⟩
  else if !input.hasClientIP then none
  else if let some seconds := input.retryAfter then
    some ⟨.resourceExhausted,
      "too many registration attempts; please try again in " ++ seconds ++ " seconds"⟩
  else if !input.allowed then
    some ⟨.resourceExhausted, "too many registration attempts; please try again later"⟩
  else none

/-- The tenant of a registration. -/
def RegisterInput.tenant (input : RegisterInput) (req : RegisterRequest) : TenantRow where
  tenantID := input.tenantID
  name := req.name

/-- The admin user of a registration. -/
def RegisterInput.user (input : RegisterInput) (req : RegisterRequest) (passwordHash : String) :
    AccountRow where
  id := input.userID
  tenantID := input.tenantID
  email := req.email
  passwordHash := passwordHash
  name := req.name
  role := "admin"
  createdAt := input.now

/-- The verification token of a registration. -/
def RegisterInput.verification (input : RegisterInput) : VerificationRow where
  userID := input.userID
  tokenHash := input.verifyHash
  expiresAt := input.now + verificationTTL

/-- Persist a refresh token, and delete the expired and long-revoked ones of the user; a failure
of the cleanup does not matter. -/
def storeRefreshToken (userID : UserID) (generated : Generated) (now : Time) :
    Session (Option Unit) := do
  let some _ ← query (.insertToken (generated.row userID))
    | return none
  let _ ← query (.deleteStale userID now)
  return some ()

/-- The end of a registration and of a login: a generated token pair is stored and returned. -/
def issueTokens (tenantID : TenantID) (userID : UserID) (generated : Option Generated)
    (now : Time) : Session Result := do
  let some generated := generated
    | return .error ⟨.internal, "generate tokens"⟩
  let some _ ← storeRefreshToken userID generated now
    | return .error ⟨.internal, "store refresh token"⟩
  return .ok ⟨tenantID, userID, generated.tokenHash⟩

/-- Create a new tenant and its admin user, and issue tokens. -/
def register (req : RegisterRequest) (input : RegisterInput) : Session Result := do
  if let some status := input.refusal req then
    return .error status
  let some passwordHash := input.passwordHash
    | return .error ⟨.internal, "hash password"⟩
  beginTx
  let some tenantID ← query (.insertTenant (input.tenant req))
    | return .error ⟨.internal, "create tenant"⟩
  let some _ ← query (.insertUser (input.user req passwordHash))
    | return .error (if input.uniqueViolation then
        ⟨.alreadyExists, "a user with this email already exists in this tenant"⟩
      else ⟨.internal, "create user"⟩)
  -- A failure is only logged.
  let _ ← query (.insertVerification input.verification)
  if !(← commitTx) then
    return .error ⟨.internal, "commit tx"⟩
  issueTokens tenantID input.userID input.generated input.later

/-- What a call returns that cannot begin its transaction. -/
def beginFailed : Result := .error ⟨.internal, "begin tx"⟩

/-- What a login gets from outside. -/
structure LoginInput where
  generated : Option Generated
  now : Time
deriving DecidableEq

/-- A login, once the limiters have let it through. -/
def authenticate (verifyPassword : String → String → Bool) (email password : String)
    (input : LoginInput) : Session Result := do
  let some found ← query (.lookupEmail email)
    | return .error ⟨.internal, "lookup user"⟩
  let some user := found
    | return .error ⟨.unauthenticated, "invalid email or password"⟩
  if !user.isActive then
    return .error ⟨.permissionDenied, "account is deactivated"⟩
  if !verifyPassword password user.passwordHash then
    return .error ⟨.unauthenticated, "invalid email or password"⟩
  issueTokens user.tenantID user.id input.generated input.now

end Paryty.Auth.Accounts

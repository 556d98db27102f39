import Paryty.Auth.LoginLimits
import Paryty.Auth.RegisterAtomicity

/-!
# Logins

`Login` of `cluster/internal/auth/handler.go` as a whole: the limiters of `LoginLimits`, and then
the part on the database.

* `Verdict` is what a login finds in the table of users; `outcome` is what comes of it.
* `login_of_empty`, `login_of_refusal`, `login_of_allowed`: the three ways a login goes.
* `outcome_ok_iff`: when it returns tokens, and whose.
-/

namespace Paryty.Auth.Accounts

open Lib.Prog (effect execFailing)
open LoginLimits (Limits Network Refusal second)

/-! ## The call -/

/-- `%.0f` of the seconds of a duration: half a second goes to the even number. -/
def formatSeconds (d : ℤ) : String :=
  let whole := d / second
  let rest := 2 * (d % second)
  toString (if rest < second ∨ (rest = second ∧ whole % 2 = 0) then whole else whole + 1)

/-- What a refused login returns. -/
def refusalStatus : Refusal → Status
  | .distributed retryAfter => ⟨.resourceExhausted,
      "too many login attempts; please try again in " ++ formatSeconds retryAfter ++ " seconds"⟩
  | .memory => ⟨.resourceExhausted, "too many login attempts; please try again later"⟩

variable {κ : Type*} [DecidableEq κ]

/-- What a login is called with, and what it gets from outside: the clock of the limiters, what
becomes of the commands to Redis, the generated tokens, and which requests the database refuses.
Request 0 is the lookup, and 1 the INSERT of the refresh token. -/
structure Login where
  email : String
  password : String
  now : ℕ := 0
  network : Network := {}
  input : LoginInput
  fails : ℕ → Bool := fun _ => false

/-- Authenticate a user by email and password: the result, and the limiters and tables after it. -/
def login (first : List AccountRow → Option AccountRow) (verifyPassword : String → String → Bool)
    (loginKey : String → κ) (call : Login) (limits : Limits κ) (s : Store) :
    Result × Limits κ × Store :=
  if call.email = "" ∨ call.password = "" then
    (.error ⟨.invalidArgument, "email and password are required"⟩, limits, s)
  else
    match limits.check loginKey call.now call.email call.network with
    | (some refusal, limits) => (.error (refusalStatus refusal), limits, s)
    | (none, limits) =>
      let (result, s) :=
        (authenticate verifyPassword call.email call.password call.input).execFailing
          (engine first) call.fails beginFailed 0 s .idle
      (result, if result.isOk then limits.succeed loginKey call.email call.network else limits, s)

/-- `ORDER BY created_at ASC LIMIT 1` picks a row with the least `created_at`, if there is a row. -/
structure Oldest (first : List AccountRow → Option AccountRow) : Prop where
  found : ∀ rows, rows ≠ [] → (first rows).isSome
  least : ∀ rows row, first rows = some row →
    row ∈ rows ∧ ∀ other ∈ rows, row.createdAt ≤ other.createdAt

lemma Oldest.nil {first : List AccountRow → Option AccountRow} (h : Oldest first) :
    first [] = none :=
  Option.eq_none_iff_forall_not_mem.mpr fun row hrow =>
    List.not_mem_nil (h.least [] row hrow).1

/-! ## Verdicts -/

/-- What a login has found out before it issues tokens. -/
inductive Verdict
  /-- There is no account, or the password is wrong. -/
  | invalid
  | deactivated
  | verified (user : AccountRow)
deriving DecidableEq

/-- The verdict on a row. -/
def Verdict.of (verifyPassword : String → String → Bool) (password : String) :
    Option AccountRow → Verdict
  | none => .invalid
  | some user =>
    if !user.isActive then .deactivated
    else if !verifyPassword password user.passwordHash then .invalid
    else .verified user

/-- What is left of a login after the verdict. -/
def Verdict.proceed (input : LoginInput) : Verdict → Session Result
  | .invalid => .ret (.error ⟨.unauthenticated, "invalid email or password"⟩)
  | .deactivated => .ret (.error ⟨.permissionDenied, "account is deactivated"⟩)
  | .verified user => issueTokens user.tenantID user.id input.generated input.now

variable {first : List AccountRow → Option AccountRow} {verifyPassword : String → String → Bool}
  {loginKey : String → κ} {call : Login} {limits : Limits κ} {s : Store}

lemma Verdict.of_eq_verified {password : String} {found : Option AccountRow} {user : AccountRow} :
    Verdict.of verifyPassword password found = .verified user ↔
      found = some user ∧ user.isActive = true ∧ verifyPassword password user.passwordHash := by
  cases found with
  | none => simp [Verdict.of]
  | some row =>
    cases hactive : row.isActive with
    | false =>
      simp only [Verdict.of, hactive, Bool.not_false, if_true, Option.some.injEq]
      refine iff_of_false (fun h => nomatch h) ?_
      rintro ⟨rfl, h, -⟩
      simp [hactive] at h
    | true =>
      cases hverify : verifyPassword password row.passwordHash with
      | false =>
        simp only [Verdict.of, hactive, hverify, Bool.not_true, Bool.not_false, Bool.false_eq_true,
          if_true, if_false, Option.some.injEq]
        refine iff_of_false (fun h => nomatch h) ?_
        rintro ⟨rfl, -, h⟩
        simp [hverify] at h
      | true =>
        simp only [Verdict.of, hactive, hverify, Bool.not_true, Bool.false_eq_true, if_false,
          Verdict.verified.injEq, Option.some.injEq]
        refine ⟨fun h => h ▸ ⟨rfl, hactive, hverify⟩, And.left⟩

lemma effect_lookupEmail (email : String) (s : Store) :
    effect (engine first) (.lookupEmail email) s = some (first (s.withEmail email), s) := rfl

lemma authenticate_eq (verifyPassword : String → String → Bool) (email password : String)
    (input : LoginInput) :
    authenticate verifyPassword email password input =
      .stmt (.lookupEmail email) fun answer =>
        match answer with
        | none => .ret (.error ⟨.internal, "lookup user"⟩)
        | some found => (Verdict.of verifyPassword password found).proceed input := by
  refine congrArg (Lib.Prog.stmt (Sql.lookupEmail email)) (funext fun answer => ?_)
  match answer with
  | none => rfl
  | some none => rfl
  | some (some user) =>
    change (if _ then _ else if _ then _ else _ : Session Result) = Verdict.proceed input
      (if _ then _ else if _ then _ else _)
    rw [apply_ite (Verdict.proceed input), apply_ite (Verdict.proceed input)]
    rfl

/-! ## Results -/

/-- What comes of a login that is not refused. -/
def outcome (first : List AccountRow → Option AccountRow)
    (verifyPassword : String → String → Bool) (call : Login) (s : Store) : Result × Store :=
  if call.fails 0 then (.error ⟨.internal, "lookup user"⟩, s)
  else ((Verdict.of verifyPassword call.password (first (s.withEmail call.email))).proceed
    call.input).execFailing (engine first) call.fails beginFailed 1 s .idle

lemma authenticate_spec :
    (authenticate verifyPassword call.email call.password call.input).execFailing
      (engine first) call.fails beginFailed 0 s .idle = outcome first verifyPassword call s := by
  unfold outcome
  rw [authenticate_eq]
  cases hfails : call.fails 0 with
  | true => simp [execFailing, hfails]
  | false => simp [execFailing, hfails, effect_lookupEmail]

lemma login_of_empty (h : call.email = "" ∨ call.password = "") :
    login first verifyPassword loginKey call limits s =
      (.error ⟨.invalidArgument, "email and password are required"⟩, limits, s) :=
  if_pos h

lemma login_of_refusal (h : ¬ (call.email = "" ∨ call.password = "")) {refusal : Refusal}
    (hrefusal : (limits.check loginKey call.now call.email call.network).1 = some refusal) :
    login first verifyPassword loginKey call limits s =
      (.error (refusalStatus refusal),
        (limits.check loginKey call.now call.email call.network).2, s) := by
  have hcheck : limits.check loginKey call.now call.email call.network =
      (some refusal, (limits.check loginKey call.now call.email call.network).2) :=
    Prod.ext hrefusal rfl
  unfold login
  rw [if_neg h, hcheck]

lemma login_of_allowed (h : ¬ (call.email = "" ∨ call.password = ""))
    (hallowed : (limits.check loginKey call.now call.email call.network).1 = none) :
    login first verifyPassword loginKey call limits s =
      ((outcome first verifyPassword call s).1,
        if (outcome first verifyPassword call s).1.isOk then
          (limits.check loginKey call.now call.email call.network).2.succeed loginKey call.email
            call.network
        else (limits.check loginKey call.now call.email call.network).2,
        (outcome first verifyPassword call s).2) := by
  have hcheck : limits.check loginKey call.now call.email call.network =
      (none, (limits.check loginKey call.now call.email call.network).2) :=
    Prod.ext hallowed rfl
  unfold login
  rw [if_neg h, hcheck]
  simp only [authenticate_spec]

/-- A login that is not refused returns tokens of the account that it has verified, if it can issue
them. -/
lemma outcome_ok_iff {tenantID : TenantID} {userID : UserID} :
    (∃ token, (outcome first verifyPassword call s).1 = .ok ⟨tenantID, userID, token⟩) ↔
      call.fails 0 = false ∧ ∃ user,
        Verdict.of verifyPassword call.password (first (s.withEmail call.email)) =
          .verified user ∧
        user.tenantID = tenantID ∧ user.id = userID ∧
        Issues call.input.generated user.id call.fails 1 s := by
  unfold outcome
  cases hfails : call.fails 0 with
  | true => exact iff_of_false (fun ⟨_, h⟩ => nomatch h) (by simp)
  | false =>
  rw [if_neg Bool.false_ne_true]
  cases hverdict : Verdict.of verifyPassword call.password (first (s.withEmail call.email)) with
  | invalid => exact iff_of_false (fun ⟨_, h⟩ => nomatch h) fun ⟨_, _, h, _⟩ => nomatch h
  | deactivated => exact iff_of_false (fun ⟨_, h⟩ => nomatch h) fun ⟨_, _, h, _⟩ => nomatch h
  | verified user =>
    obtain ⟨result, tokens, hissue, hok, hresult⟩ := issueTokens_spec
      user.tenantID user.id call.input.generated call.input.now 1 s
    rw [Verdict.proceed, hissue]
    constructor
    · rintro ⟨token, hresponse⟩
      obtain rfl : result = .ok ⟨tenantID, userID, token⟩ := hresponse
      obtain herror | ⟨_, ⟨⟩⟩ := hresult
      · cases herror
      · exact ⟨rfl, user, rfl, rfl, rfl, hok.mp rfl⟩
    · rintro ⟨-, _, ⟨⟩, rfl, rfl, hissues⟩
      obtain rfl | hresponse := hresult
      · exact absurd (hok.mpr hissues) Bool.false_ne_true
      · exact hresponse

end Paryty.Auth.Accounts

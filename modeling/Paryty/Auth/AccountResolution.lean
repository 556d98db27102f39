import Mathlib.Data.List.MinMax
import Paryty.Auth.Login
import Paryty.Lib.Bytes

/-!
# Logins after registrations

Whether the login with the email and the password of a registration reaches the account that the
registration has created. Emails are unique per tenant, and every registration has a tenant of its
own, while a login looks for the email among all tenants.

* `Event.next` is one change of the accounts; `run` a sequence of them.
* `login_resolves_iff`: the login returns the account, if and only if there is no other account with
  the email that is at least as old, and the tokens can be issued.

`LIMIT 1` may pick any of several accounts that are equally old.
-/

namespace Paryty.Auth.Accounts

open Lib.Table (find?_eq_some find?_put find?_updateWhere mem_put)
open LoginLimits (Limits Network)

/-! ## Passwords -/

/-- The cases of the switch over the characters of a password. -/
inductive CharClass
  | upper
  | lower
  | digit
  | special
deriving DecidableEq

/-- `ValidatePasswordPolicy`. `classify` is the case that a character takes. -/
def validatePasswordPolicy (classify : Char → Option CharClass) (password : String) :
    Option String :=
  let has (c : CharClass) := password.toList.any fun r => classify r = some c
  if (Lib.utf8 password).length < 8 then some "password must be at least 8 characters"
  else if (Lib.utf8 password).length > 72 then some "password must be at most 72 characters"
  else if !has .upper then some "password must contain at least one uppercase letter"
  else if !has .lower then some "password must contain at least one lowercase letter"
  else if !has .digit then some "password must contain at least one digit"
  else if !has .special then some "password must contain at least one special character"
  else none

/-! ## Runs -/

/-- A change of the accounts. -/
inductive Event
  | register (req : RegisterRequest) (input : RegisterInput) (fails : ℕ → Bool)
  /-- `UPDATE users SET is_active WHERE id AND tenant_id` -/
  | setActive (userID : UserID) (tenantID : TenantID) (isActive : Bool)
  /-- `UPDATE users SET password_hash WHERE id` -/
  | setPassword (userID : UserID) (passwordHash : String)

/-- The tables after an event. A registration looks up no email. -/
def Event.next (s : Store) : Event → Store
  | .register req input fails => (attempt List.head? req input fails s).2
  | .setActive userID tenantID isActive =>
    { s with
      users := s.users.updateWhere (fun row => row.id = userID && row.tenantID = tenantID)
        (fun row => { row with isActive }) fun _ => rfl }
  | .setPassword userID passwordHash =>
    { s with
      users := s.users.updateWhere (fun row => row.id = userID)
        (fun row => { row with passwordHash }) fun _ => rfl }

/-- The tables after a sequence of events. -/
def run (s : Store) (events : List Event) : Store := events.foldl Event.next s

/-- There is an account with this id, tenant, email, and age. -/
def Persists (userID : UserID) (tenantID : TenantID) (email : String) (createdAt : Time)
    (s : Store) : Prop :=
  ∃ row, s.users.find? userID = some row ∧ row.tenantID = tenantID ∧ row.email = email ∧
    row.createdAt = createdAt

variable {userID : UserID} {tenantID : TenantID} {email : String} {createdAt : Time} {s : Store}

lemma Persists.updateWhere (h : Persists userID tenantID email createdAt s) (p : AccountRow → Bool)
    (f : AccountRow → AccountRow) (hf : ∀ row, (f row).id = row.id)
    (hkeeps : ∀ row, (f row).tenantID = row.tenantID ∧ (f row).email = row.email ∧
      (f row).createdAt = row.createdAt) :
    Persists userID tenantID email createdAt { s with users := s.users.updateWhere p f hf } := by
  obtain ⟨row, hrow, htenant, hemail, hcreated⟩ := h
  obtain ⟨htenant', hemail', hcreated'⟩ := hkeeps row
  refine ⟨if p row then f row else row, ?_, ?_⟩
  · change (s.users.updateWhere p f hf).find? userID = _
    rw [find?_updateWhere, hrow]
    rfl
  · split
    case isTrue => exact ⟨htenant'.trans htenant, hemail'.trans hemail, hcreated'.trans hcreated⟩
    case isFalse => exact ⟨htenant, hemail, hcreated⟩

lemma Persists.next (h : Persists userID tenantID email createdAt s) (e : Event) :
    Persists userID tenantID email createdAt (e.next s) := by
  cases e with
  | register req input fails =>
    have hspec := register_spec List.head? req input fails s
    by_cases hcreated : Created req input fails s
    · obtain ⟨passwordHash, tokens, -, hstore, -⟩ := hspec.done hcreated
      obtain ⟨row, hrow, hkept⟩ := h
      have hother : userID ≠ input.userID := by
        rintro rfl
        exact hcreated.user_new (Lib.Table.hasKey_iff_find?.mpr (hrow ▸ rfl))
      refine ⟨row, ?_, hkept⟩
      change (attempt List.head? req input fails s).2.users.find? userID = some row
      rw [hstore]
      change (s.users.put (input.user req passwordHash)).find? userID = some row
      rw [find?_put]
      exact (if_neg hother).trans hrow
    · change Persists _ _ _ _ (attempt List.head? req input fails s).2
      rwa [(hspec.undone hcreated).2]
  | setActive | setPassword =>
    exact h.updateWhere _ _ _ fun _ => ⟨rfl, rfl, rfl⟩

lemma Persists.run (h : Persists userID tenantID email createdAt s) (events : List Event) :
    Persists userID tenantID email createdAt (run s events) := by
  induction events generalizing s with
  | nil => exact h
  | cons e events ih => exact ih (h.next e)

variable {req : RegisterRequest} {input : RegisterInput} {fails : ℕ → Bool}

lemma persists_of_registered {response : Response}
    (h : (attempt List.head? req input fails s).1 = .ok response) :
    Created req input fails s ∧ response.tenantID = input.tenantID ∧
      response.userID = input.userID ∧
      Persists input.userID input.tenantID req.email input.now
        (Event.next s (.register req input fails)) := by
  have hspec := register_spec List.head? req input fails s
  have hcreated : Created req input fails s := by
    by_contra hnot
    have herror := (hspec.undone hnot).1
    rw [h] at herror
    cases herror
  obtain ⟨htenant, huser⟩ := hspec.own response h
  obtain ⟨passwordHash, tokens, -, hstore, -⟩ := hspec.done hcreated
  refine ⟨hcreated, htenant, huser, input.user req passwordHash, ?_, rfl, rfl, rfl⟩
  change (attempt List.head? req input fails s).2.users.find? input.userID = _
  rw [hstore]
  change (s.users.put (input.user req passwordHash)).find? input.userID = _
  rw [find?_put]
  exact if_pos rfl

/-! ## Choices of the database -/

/-- The account `other`, if it is one of the oldest. -/
def prefer (other : AccountRow) (rows : List AccountRow) : Option AccountRow :=
  if other ∈ rows ∧ ∀ row ∈ rows, other.createdAt ≤ row.createdAt then some other
  else rows.find? fun row => decide (∀ row' ∈ rows, row.createdAt ≤ row'.createdAt)

lemma oldest_prefer (other : AccountRow) : Oldest (prefer other) := by
  refine ⟨fun rows hrows => ?_, fun rows row hrow => ?_⟩
  · unfold prefer
    split
    case isTrue => rfl
    case isFalse =>
      obtain ⟨row, hrow⟩ := Option.ne_none_iff_exists'.mp
        (mt (List.argmin_eq_none (f := AccountRow.createdAt)).mp hrows)
      rw [List.find?_isSome]
      exact ⟨row, List.argmin_mem hrow,
        decide_eq_true fun row' hrow' => List.le_of_mem_argmin hrow' hrow⟩
  · unfold prefer at hrow
    split at hrow
    case isTrue h =>
      obtain rfl := Option.some.inj hrow
      exact h
    case isFalse =>
      have hleast := List.find?_some hrow
      exact ⟨List.mem_of_find?_eq_some hrow, of_decide_eq_true hleast⟩

/-- The database may pick another row than `row`, if there is one that is at least as old. -/
lemma prefer_ne {rows : List AccountRow} {row other : AccountRow} (hother : other ∈ rows)
    (hne : other ≠ row) (hold : other.createdAt ≤ row.createdAt) :
    prefer other rows ≠ some row := by
  intro h
  have hleast := (oldest_prefer other).least rows row h
  have hall : ∀ row' ∈ rows, other.createdAt ≤ row'.createdAt :=
    fun row' hrow' => hold.trans (hleast.2 row' hrow')
  unfold prefer at h
  rw [if_pos ⟨hother, hall⟩] at h
  exact hne (Option.some.inj h)

/-! ## The login -/

variable {first : List AccountRow → Option AccountRow} {verifyPassword : String → String → Bool}
  {call : Login} {row : AccountRow}

/-- A login that is not refused reaches an account with its password, if and only if its requests
succeed and the database picks the account. -/
lemma reaches_iff (hfirst : Oldest first) (hmem : row ∈ s.withEmail call.email)
    (hactive : row.isActive = true) (hverifies : verifyPassword call.password row.passwordHash) :
    (∃ token, (outcome first verifyPassword call s).1 = .ok ⟨row.tenantID, row.id, token⟩) ↔
      (call.fails 0 = false ∧ Issues call.input.generated row.id call.fails 1 s) ∧
        first (s.withEmail call.email) = some row := by
  rw [outcome_ok_iff]
  constructor
  · rintro ⟨hlookup, user, hverdict, -, hid, hissues⟩
    have hpicked := (Verdict.of_eq_verified.mp hverdict).1
    have huser : user ∈ s.users := (List.mem_filter.mp (hfirst.least _ _ hpicked).1).1
    obtain rfl := s.users.eq_of_key_eq huser (List.mem_filter.mp hmem).1 hid
    exact ⟨⟨hlookup, hissues⟩, hpicked⟩
  · rintro ⟨⟨hlookup, hissues⟩, hpicked⟩
    have hverdict := Verdict.of_eq_verified.mpr ⟨hpicked, hactive, hverifies⟩
    exact ⟨hlookup, row, hverdict, rfl, rfl, hissues⟩

lemma picked_iff {rows : List AccountRow} (hmem : row ∈ rows) :
    (∀ first, Oldest first → first rows = some row) ↔
      ∀ other ∈ rows, other ≠ row → row.createdAt < other.createdAt := by
  constructor
  · intro h other hother hne
    by_contra hold
    exact prefer_ne hother hne (not_lt.mp hold) (h _ (oldest_prefer other))
  · intro h first hfirst
    obtain ⟨picked, hpicked⟩ :=
      Option.isSome_iff_exists.mp (hfirst.found rows (List.ne_nil_of_mem hmem))
    obtain ⟨hin, hleast⟩ := hfirst.least rows picked hpicked
    by_cases hne : picked = row
    · rw [hpicked, hne]
    · exact absurd (h picked hin hne) (not_lt.mpr (hleast row hmem))

lemma accepted (h : input.refusal req = none) : req.email ≠ "" ∧ input.policyError = none := by
  unfold RegisterInput.refusal at h
  by_cases hemail : req.email = ""
  · simp [hemail] at h
  by_cases hparses : input.parses = true
  · cases hpolicy : input.policyError with
    | none => exact ⟨hemail, rfl⟩
    | some text => simp [hemail, hparses, hpolicy] at h
  · simp [hemail, hparses] at h

lemma validatePasswordPolicy_empty (classify : Char → Option CharClass) :
    validatePasswordPolicy classify "" ≠ none := by
  unfold validatePasswordPolicy
  rw [if_pos (by decide)]
  exact Option.some_ne_none _

/-- **The login of a registered account.** After any changes of the accounts, as long as the account
is active, its password unchanged and no limit in force, the login with its email and password
succeeds and returns its tenant and user, if and only if the requests of the login succeed and every
other account with the email is younger. -/
theorem login_resolves_iff (classify : Char → Option CharClass)
    (verifyPassword : String → String → Bool) {κ : Type*} [DecidableEq κ] (loginKey : String → κ)
    (s₀ : Store) (before after : List Event) (response : Response) (row : AccountRow)
    (validated : input.policyError = validatePasswordPolicy classify req.password)
    (hashed : ∀ passwordHash, input.passwordHash = some passwordHash →
      verifyPassword req.password passwordHash = true)
    (registered : (attempt List.head? req input fails (run s₀ before)).1 = .ok response)
    (found : (run s₀ (before ++ .register req input fails :: after)).users.find? response.userID =
      some row)
    (active : row.isActive = true) (unchanged : input.passwordHash = some row.passwordHash)
    (call : Login) (email : call.email = req.email) (password : call.password = req.password)
    (limits : Limits κ)
    (allowed : (limits.check loginKey call.now call.email call.network).1 = none) :
    (∀ first, Oldest first → ∃ token, (login first verifyPassword loginKey call limits
      (run s₀ (before ++ .register req input fails :: after))).1 =
        .ok ⟨response.tenantID, response.userID, token⟩) ↔
      (call.fails 0 = false ∧ Issues call.input.generated response.userID call.fails 1
        (run s₀ (before ++ .register req input fails :: after))) ∧
      ∀ other ∈ (run s₀ (before ++ .register req input fails :: after)).withEmail req.email,
        other ≠ row → row.createdAt < other.createdAt := by
  obtain ⟨hcreated, htenant, huser, hpersists⟩ := persists_of_registered registered
  have hfinal : Persists input.userID input.tenantID req.email input.now
      (run s₀ (before ++ .register req input fails :: after)) := by
    unfold run
    rw [List.foldl_append]
    exact hpersists.run after
  generalize run s₀ (before ++ .register req input fails :: after) = s at found hfinal ⊢
  -- The row is the one of the registration.
  obtain ⟨row', hrow', htenant', hemail', -⟩ := hfinal
  rw [← huser, found] at hrow'
  obtain rfl := Option.some.inj hrow'
  have hid : row.id = response.userID := (find?_eq_some.mp found).2
  have hmem : row ∈ s.withEmail req.email :=
    List.mem_filter.mpr ⟨(find?_eq_some.mp found).1, by simpa using hemail'⟩
  have hempty : ¬ (call.email = "" ∨ call.password = "") := by
    obtain ⟨hemail, hpolicy⟩ := accepted hcreated.passes
    rintro (h | h)
    · exact hemail (email.symm.trans h)
    · rw [password.symm.trans h] at validated
      exact validatePasswordPolicy_empty classify (validated.symm.trans hpolicy)
  have hverifies : verifyPassword call.password row.passwordHash = true :=
    password ▸ hashed _ unchanged
  have htenants : response.tenantID = row.tenantID := htenant.trans htenant'.symm
  rw [← email] at hmem ⊢
  rw [← hid, htenants, ← picked_iff hmem]
  simp only [login_of_allowed hempty allowed]
  constructor
  · intro h
    have hpicks (first) (hfirst : Oldest first) :=
      (reaches_iff hfirst hmem active hverifies).mp (h first hfirst)
    exact ⟨(hpicks _ (oldest_prefer row)).1, fun first hfirst => (hpicks first hfirst).2⟩
  · rintro ⟨hrequests, hpicked⟩ first hfirst
    exact (reaches_iff hfirst hmem active hverifies).mpr ⟨hrequests, hpicked first hfirst⟩

/-! ## Two registrations -/

/-- The case of a character of ASCII. -/
def asciiClass (r : Char) : Option CharClass :=
  if r.isUpper then some .upper
  else if r.isLower then some .lower
  else if r.isDigit then some .digit
  else if r.isWhitespace then none
  else some .special

/-- The only hash is `"h1"`. -/
def operatorPassword (password passwordHash : String) : Bool :=
  password = operatorRequest.password && passwordHash = "h1"

/-- The operator registers once more, a second later. -/
def operatorAgain : RegisterInput where
  passwordHash := some "h1"
  tenantID := "t2"
  userID := "u2"
  verifyHash := "v2"
  generated := some ⟨"2", "r2", 100⟩
  now := 10 ^ 9
  later := 10 ^ 9

/-- The login of the operator. -/
def operatorLogin : Login where
  email := operatorRequest.email
  password := operatorRequest.password
  input := { generated := some ⟨"3", "r3", 100⟩, now := 2 * 10 ^ 9 }

/-- One registration. -/
theorem login_resolves_operator : ∃ token,
    (login (prefer (operatorInput.user operatorRequest "h1")) operatorPassword id operatorLogin {}
      (run {} ([] ++ [.register operatorRequest operatorInput fun _ => false]))).1 =
        .ok ⟨"t1", "u1", token⟩ :=
  (login_resolves_iff asciiClass operatorPassword id {} [] [] ⟨"t1", "u1", "r1"⟩
    (operatorInput.user operatorRequest "h1") (by decide) (by rintro passwordHash ⟨⟩; decide)
    (by rfl) (by decide) rfl rfl operatorLogin rfl rfl {} (by rfl)).mpr
    ⟨⟨rfl, ⟨"3", "r3", 100⟩, rfl, rfl, by decide⟩, by decide⟩ _ (oldest_prefer _)

/-- Two registrations of an email both succeed, and the login with the password of the second
returns the account of the first. -/
theorem login_resolves_older :
    (attempt List.head? operatorRequest operatorAgain (fun _ => false)
      (run {} [.register operatorRequest operatorInput fun _ => false])).1 =
        .ok ⟨"t2", "u2", "r2"⟩ ∧
    ∃ first, Oldest first ∧ (login first operatorPassword id operatorLogin {}
      (run {} [.register operatorRequest operatorInput fun _ => false,
        .register operatorRequest operatorAgain fun _ => false])).1 = .ok ⟨"t1", "u1", "r3"⟩ :=
  ⟨by rfl, prefer (operatorInput.user operatorRequest "h1"), oldest_prefer _, by rfl⟩

end Paryty.Auth.Accounts

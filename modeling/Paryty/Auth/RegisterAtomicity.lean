import Paryty.Auth.Accounts
import Paryty.Auth.Stages

/-!
# Errors of a registration and of a refresh

What `Register` and `RefreshToken` leave behind when they return an error. The database may refuse
any of their requests, a statement, the begin of the transaction or the commit, and the generation
of tokens may fail; a refused statement aborts the transaction it stands in.

* `register_spec`: the transaction of a registration is carried out or not, and then the tokens are
  issued or not.
* `atomic_on_error_iff`: an error leaves tenant and user if the transaction was carried out, and the
  refresh token revoked if it was exchanged; and the verification token is not optional.
-/

namespace Paryty.Auth

open Lib.Prog (answer_eq effect execFailing)
open Lib.Table (find?_eq_some)

namespace Accounts

variable {first : List AccountRow → Option AccountRow} {req : RegisterRequest}
  {input : RegisterInput} {fails : ℕ → Bool} {s : Store}

/-! ## Registrations -/

/-- The result of a registration and the tables after it, if the database refuses the requests that
`fails` says: 0 is the begin, 1 to 3 are the INSERTs of the tenant, the user and the verification
token, 4 is the commit, and 5 the INSERT of the refresh token. -/
def attempt (first : List AccountRow → Option AccountRow) (req : RegisterRequest)
    (input : RegisterInput) (fails : ℕ → Bool) (s : Store) : Result × Store :=
  (register req input).execFailing (engine first) fails beginFailed 0 s .idle

/-- If the call returns an error, there is no new tenant or user. -/
def RegisterAtomic (first : List AccountRow → Option AccountRow) (req : RegisterRequest)
    (input : RegisterInput) (fails : ℕ → Bool) (s : Store) : Prop :=
  (attempt first req input fails s).1.isOk = false →
    (attempt first req input fails s).2.tenants = s.tenants ∧
      (attempt first req input fails s).2.users = s.users

/-- A call that succeeds also does so if the INSERT of the verification token fails as well. -/
def VerificationOptional (first : List AccountRow → Option AccountRow) (req : RegisterRequest)
    (input : RegisterInput) (fails : ℕ → Bool) (s : Store) : Prop :=
  (attempt first req input fails s).1.isOk = true →
    (attempt first req input (fun n => n == 3 || fails n) s).1.isOk = true

/-- The transaction is carried out. -/
structure Created (req : RegisterRequest) (input : RegisterInput) (fails : ℕ → Bool) (s : Store) :
    Prop where
  passes : input.refusal req = none
  hashed : input.passwordHash.isSome
  answered : ∀ n < 5, fails n = false
  tenant_new : ¬ s.tenants.HasKey input.tenantID
  user_new : ¬ s.users.HasKey input.userID
  email_new : ∀ row ∈ s.users.rows, ¬ (row.tenantID = input.tenantID ∧ row.email = req.email)
  verification_new : ¬ s.verifications.HasKey input.verifyHash

/-- The tokens are generated, and the refresh token is stored. -/
structure Issued (input : RegisterInput) (fails : ℕ → Bool) (s : Store) : Prop where
  generated : input.generated.isSome
  answered : fails 5 = false
  token_new : ∀ g, input.generated = some g →
    ¬ s.tokens.HasKey g.tokenHash ∧ ∀ row ∈ s.tokens.rows, row.id ≠ g.id

section Effects

lemma effect_insertTenant (row : TenantRow) (s : Store) :
    effect (engine first) (.insertTenant row) s =
      if ¬ s.tenants.HasKey row.tenantID then some (row.tenantID, s.apply (.tenant row))
      else none := by
  unfold effect
  simp only [engine, Sql.run]
  rw [ite_not]
  split <;> rfl

lemma effect_insertUser (row : AccountRow) (s : Store) :
    effect (engine first) (.insertUser row) s =
      if s.CanInsertUser row then some (1, s.apply (.user row)) else none := by
  unfold effect
  simp only [engine, Sql.run]
  split <;> rfl

lemma effect_insertVerification (row : VerificationRow) (s : Store) :
    effect (engine first) (.insertVerification row) s =
      if s.CanInsertVerification row then some (1, s.apply (.verification row)) else none := by
  unfold effect
  simp only [engine, Sql.run]
  split <;> rfl

lemma effect_insertToken (row : TokenRow) (s : Store) :
    effect (engine first) (.insertToken row) s =
      if s.CanInsertToken row then some (1, s.apply (.token (.put row))) else none := by
  unfold effect
  simp only [engine, Sql.run]
  split <;> rfl

variable (first) in
lemma effect_deleteStale (userID : UserID) (now : Time) (s : Store) :
    ∃ n tokens, effect (engine first) (.deleteStale userID now) s =
      some (n, { s with tokens }) := by
  refine ⟨_, (s.tokens.deletes s.tokens (TokenRow.stale userID now)).foldl Lib.Table.write s.tokens,
    congrArg (fun t => some (_, t)) ?_⟩
  dsimp only
  generalize s.tokens.deletes s.tokens (TokenRow.stale userID now) = writes
  induction writes generalizing s with
  | nil => rfl
  | cons w writes ih => exact ih (s.apply (.token w))

end Effects

/-- The tokens are generated, and the database stores the refresh token with its `n`-th request. -/
def Issues (generated : Option Generated) (userID : UserID) (fails : ℕ → Bool) (n : ℕ) (s : Store) :
    Prop :=
  ∃ g, generated = some g ∧ fails n = false ∧ s.CanInsertToken (g.row userID)

lemma issueTokens_some (tenantID : TenantID) (userID : UserID) (g : Generated) (now : Time) :
    issueTokens tenantID userID (some g) now =
      .stmt (.insertToken (g.row userID)) fun inserted =>
        match inserted with
        | none => .ret (.error ⟨.internal, "store refresh token"⟩)
        | some _ => .stmt (.deleteStale userID now) fun _ =>
            .ret (.ok ⟨tenantID, userID, g.tokenHash⟩) := by
  refine congrArg (Lib.Prog.stmt (Sql.insertToken (g.row userID))) (funext fun inserted => ?_)
  cases inserted <;> rfl

/-- The error if no tokens are issued. -/
def issueFailure : Option Generated → Status
  | none => ⟨.internal, "generate tokens"⟩
  | some _ => ⟨.internal, "store refresh token"⟩

lemma issueTokens_spec (tenantID : TenantID) (userID : UserID) (generated : Option Generated)
    (now : Time) (n : ℕ) (s : Store) :
    ∃ result tokens, execFailing (engine first) fails beginFailed
        (issueTokens tenantID userID generated now) n s .idle = (result, { s with tokens }) ∧
      (result.isOk = true ↔ Issues generated userID fails n s) ∧
      (result = .error (issueFailure generated) ∨
        ∃ token, result = .ok ⟨tenantID, userID, token⟩) := by
  cases generated with
  | none =>
    exact ⟨_, s.tokens, rfl, iff_of_false Bool.false_ne_true (fun ⟨_, h, _⟩ => nomatch h), .inl rfl⟩
  | some g =>
    rw [issueTokens_some]
    by_cases hissues : fails n = false ∧ s.CanInsertToken (g.row userID)
    case neg =>
      refine ⟨.error ⟨.internal, "store refresh token"⟩, s.tokens, ?_,
        iff_of_false Bool.false_ne_true ?_, .inl rfl⟩
      · cases hn : fails n with
        | true => simp [execFailing, hn]
        | false =>
          have hinsert : ¬ s.CanInsertToken (g.row userID) := fun h => hissues ⟨hn, h⟩
          simp [execFailing, hn, effect_insertToken, hinsert]
      · rintro ⟨_, ⟨⟩, h⟩
        exact hissues h
    case pos =>
      obtain ⟨hn, hinsert⟩ := hissues
      obtain ⟨m, tokens, hdelete⟩ := effect_deleteStale first userID now
        (s.apply (.token (.put (g.row userID))))
      have hok : ((.ok ⟨tenantID, userID, g.tokenHash⟩ : Result).isOk = true ↔
          Issues (some g) userID fails n s) := iff_of_true rfl ⟨g, rfl, hn, hinsert⟩
      -- The cleanup takes effect or not.
      cases hlater : fails (n + 1) with
      | true =>
        refine ⟨_, s.tokens.put (g.row userID), ?_, hok, .inr ⟨_, rfl⟩⟩
        simp [execFailing, hn, hlater, effect_insertToken, hinsert, Store.apply, Lib.Table.write]
      | false =>
        refine ⟨_, tokens, ?_, hok, .inr ⟨_, rfl⟩⟩
        simp only [execFailing, hn, hlater, effect_insertToken, hinsert, hdelete, if_true,
          Bool.false_eq_true, if_false]
        rfl

lemma register_eq {passwordHash : String} (hpasses : input.refusal req = none)
    (hhash : input.passwordHash = some passwordHash) :
    register req input = .begin (.stmt (.insertTenant (input.tenant req)) fun created =>
      match created with
      | none => .ret (.error ⟨.internal, "create tenant"⟩)
      | some tenantID => .stmt (.insertUser (input.user req passwordHash)) fun created =>
        match created with
        | none => .ret (.error (if input.uniqueViolation then
            ⟨.alreadyExists, "a user with this email already exists in this tenant"⟩
          else ⟨.internal, "create user"⟩))
        | some _ => .stmt (.insertVerification input.verification) fun _ =>
          .commit fun committed =>
            if committed then issueTokens tenantID input.userID input.generated input.later
            else .ret (.error ⟨.internal, "commit tx"⟩)) := by
  unfold register
  rw [hpasses, hhash]
  refine congrArg Lib.Prog.begin ?_
  refine congrArg (Lib.Prog.stmt (Sql.insertTenant (input.tenant req))) (funext fun created => ?_)
  cases created with
  | none => rfl
  | some tenantID =>
    refine congrArg (Lib.Prog.stmt (Sql.insertUser (input.user req passwordHash)))
      (funext fun created => ?_)
    cases created with
    | none => rfl
    | some n =>
      refine congrArg (Lib.Prog.stmt (Sql.insertVerification input.verification))
        (funext fun _ => congrArg Lib.Prog.commit (funext fun committed => ?_))
      cases committed <;> rfl

/-- The tables with a new tenant, its user and the verification token. -/
def created (req : RegisterRequest) (input : RegisterInput) (passwordHash : String) (s : Store) :
    Store :=
  ((s.apply (.tenant (input.tenant req))).apply (.user (input.user req passwordHash))).apply
    (.verification input.verification)

section Created

variable {passwordHash : String}

lemma canInsertUser_iff : (s.apply (.tenant (input.tenant req))).CanInsertUser
      (input.user req passwordHash) ↔
    ¬ s.users.HasKey input.userID ∧
      ∀ row ∈ s.users.rows, ¬ (row.tenantID = input.tenantID ∧ row.email = req.email) := by
  have htenant : (s.tenants.put (input.tenant req)).HasKey input.tenantID :=
    Lib.Table.hasKey_of_mem (Lib.Table.mem_put.mpr (.inl rfl))
  exact and_congr_right fun _ => and_iff_right htenant

lemma canInsertVerification_iff :
    ((s.apply (.tenant (input.tenant req))).apply
      (.user (input.user req passwordHash))).CanInsertVerification input.verification ↔
        ¬ s.verifications.HasKey input.verifyHash := by
  have huser : (s.users.put (input.user req passwordHash)).HasKey input.userID :=
    Lib.Table.hasKey_of_mem (Lib.Table.mem_put.mpr (.inl rfl))
  exact and_iff_left huser

lemma issues_created_iff : Issues input.generated input.userID fails 5
    (created req input passwordHash s) ↔ Issued input fails s := by
  have huser : (created req input passwordHash s).users.HasKey input.userID :=
    Lib.Table.hasKey_of_mem (Lib.Table.mem_put.mpr (.inl rfl))
  constructor
  · rintro ⟨g, hg, hanswered, hhash, hid, -⟩
    refine ⟨by rw [hg]; rfl, hanswered, fun g' hg' => ?_⟩
    obtain rfl := Option.some.inj (hg.symm.trans hg')
    exact ⟨hhash, hid⟩
  · intro h
    obtain ⟨g, hg⟩ := Option.isSome_iff_exists.mp h.generated
    exact ⟨g, hg, h.answered, (h.token_new g hg).1, (h.token_new g hg).2, huser⟩

end Created

/-- What a registration comes to: nothing, or a tenant with its user and perhaps tokens. -/
structure Attempted (req : RegisterRequest) (input : RegisterInput) (fails : ℕ → Bool) (s : Store)
    (attempt : Result × Store) : Prop where
  undone : ¬ Created req input fails s → attempt.1.isOk = false ∧ attempt.2 = s
  done : Created req input fails s → ∃ passwordHash tokens,
    input.passwordHash = some passwordHash ∧
      attempt.2 = { created req input passwordHash s with tokens } ∧
      (attempt.1.isOk = true ↔ Issued input fails s)
  own : ∀ response, attempt.1 = .ok response →
    response.tenantID = input.tenantID ∧ response.userID = input.userID

lemma Attempted.stop (status : Status) (hnot : ¬ Created req input fails s) :
    Attempted req input fails s (.error status, s) :=
  ⟨fun _ => ⟨rfl, rfl⟩, fun h => absurd h hnot, fun _ hok => nomatch hok⟩

lemma transaction_spec {passwordHash : String} (hpasses : input.refusal req = none)
    (hhash : input.passwordHash = some passwordHash) :
    Attempted req input fails s (attempt first req input fails s) := by
  unfold attempt
  rw [register_eq hpasses hhash]
  cases h₀ : fails 0 with
  | true =>
    simp only [execFailing, h₀, if_true]
    exact .stop _ fun h => by simpa [h₀] using h.answered 0 (by decide)
  | false =>
  simp only [execFailing, h₀, effect_insertTenant, answer_eq, Bool.false_eq_true, if_false]
  by_cases h₁ : fails 1 = false ∧ ¬ s.tenants.HasKey (input.tenant req).tenantID
  case neg =>
    rw [if_neg h₁]
    exact .stop _ fun h => h₁ ⟨h.answered 1 (by decide), h.tenant_new⟩
  rw [if_pos h₁]
  simp only [effect_insertUser, answer_eq]
  by_cases h₂ : fails (0 + 1 + 1) = false ∧ (s.apply (.tenant (input.tenant req))).CanInsertUser
      (input.user req passwordHash)
  case neg =>
    rw [if_neg h₂]
    exact .stop _ fun h => h₂ ⟨h.answered 2 (by decide),
      canInsertUser_iff.mpr ⟨h.user_new, h.email_new⟩⟩
  rw [if_pos h₂]
  simp only [effect_insertVerification, answer_eq]
  by_cases h₃ : fails (0 + 1 + 1 + 1) = false ∧ ((s.apply (.tenant (input.tenant req))).apply
      (.user (input.user req passwordHash))).CanInsertVerification input.verification
  case neg =>
    -- The transaction is aborted: the commit rolls back.
    rw [if_neg h₃]
    exact .stop ⟨.internal, "commit tx"⟩ fun h => h₃ ⟨h.answered 3 (by decide),
      canInsertVerification_iff.mpr h.verification_new⟩
  rw [if_pos h₃]
  cases h₄ : fails 4 with
  | true =>
    simp only [if_true]
    exact .stop _ fun h => by simpa [h₄] using h.answered 4 (by decide)
  | false =>
    have hcreated : Created req input fails s := by
      obtain ⟨huser, hemail⟩ := canInsertUser_iff.mp h₂.2
      refine ⟨hpasses, by rw [hhash]; rfl, ?_, h₁.2, huser, hemail,
        canInsertVerification_iff.mp h₃.2⟩
      intro n hn
      obtain rfl | rfl | rfl | rfl | rfl : n = 0 ∨ n = 1 ∨ n = 2 ∨ n = 3 ∨ n = 4 := by omega
      exacts [h₀, h₁.1, h₂.1, h₃.1, h₄]
    simp only [Bool.false_eq_true, if_false, if_true]
    obtain ⟨result, tokens, hissue, hok, hresult⟩ := issueTokens_spec input.tenantID input.userID
      input.generated input.later 5 (created req input passwordHash s)
    change Attempted req input fails s (execFailing (engine first) fails beginFailed
      (issueTokens input.tenantID input.userID input.generated input.later) 5
      (created req input passwordHash s) .idle)
    rw [hissue]
    refine ⟨fun hnot => absurd hcreated hnot,
      fun _ => ⟨passwordHash, tokens, hhash, rfl, hok.trans issues_created_iff⟩, ?_⟩
    rintro response rfl
    obtain herror | ⟨token, hresponse⟩ := hresult
    · cases herror
    · cases hresponse
      exact ⟨rfl, rfl⟩

/-- What a registration does, whatever the database refuses. -/
theorem register_spec (first : List AccountRow → Option AccountRow) (req : RegisterRequest)
    (input : RegisterInput) (fails : ℕ → Bool) (s : Store) :
    Attempted req input fails s (attempt first req input fails s) := by
  cases hpasses : input.refusal req with
  | some status =>
    have hregister : register req input = .ret (.error status) := by
      unfold register
      rw [hpasses]
      rfl
    rw [attempt, hregister]
    exact .stop status fun h => by simp [h.passes] at hpasses
  | none =>
    cases hhash : input.passwordHash with
    | none =>
      have hregister : register req input = .ret (.error ⟨.internal, "hash password"⟩) := by
        unfold register
        rw [hpasses, hhash]
        rfl
      rw [attempt, hregister]
      exact .stop _ fun h => by simpa [hhash] using h.hashed
    | some passwordHash => exact transaction_spec hpasses hhash

lemma registerAtomic_iff : RegisterAtomic first req input fails s ↔
    (Created req input fails s → Issued input fails s) := by
  have hspec := register_spec first req input fails s
  constructor
  · intro hatomic hcreated
    obtain ⟨passwordHash, tokens, -, hstore, hok⟩ := hspec.done hcreated
    by_contra hissued
    have herror : (attempt first req input fails s).1.isOk = false := by
      simpa using mt hok.mp hissued
    -- There is one more tenant.
    have hsame := congrArg (fun t => t.rows.length) (hatomic herror).1
    rw [hstore] at hsame
    have hput : (s.tenants.put (input.tenant req)).rows = s.tenants.rows ++ [input.tenant req] :=
      Lib.Table.rows_put_of_fresh hcreated.tenant_new
    have hmore : (s.tenants.put (input.tenant req)).rows.length = s.tenants.rows.length := hsame
    rw [hput, List.length_append, List.length_singleton] at hmore
    omega
  · intro himp herror
    by_cases hcreated : Created req input fails s
    · obtain ⟨-, -, -, -, hok⟩ := hspec.done hcreated
      rw [hok.mpr (himp hcreated)] at herror
      cases herror
    · rw [(hspec.undone hcreated).2]
      exact ⟨rfl, rfl⟩

lemma verificationOptional_iff : VerificationOptional first req input fails s ↔
    ¬ (Created req input fails s ∧ Issued input fails s) := by
  have hspec := register_spec first req input fails s
  have hfailing : ¬ Created req input (fun n => n == 3 || fails n) s :=
    fun h => by simpa using h.answered 3 (by decide)
  have herror := ((register_spec first req input _ s).undone hfailing).1
  have hsucceeds : (attempt first req input fails s).1.isOk = true ↔
      Created req input fails s ∧ Issued input fails s := by
    by_cases hcreated : Created req input fails s
    · obtain ⟨-, -, -, -, hok⟩ := hspec.done hcreated
      rw [hok]
      exact (and_iff_right hcreated).symm
    · rw [(hspec.undone hcreated).1]
      exact iff_of_false Bool.false_ne_true fun h => hcreated h.1
  rw [VerificationOptional, herror, hsucceeds]
  simp

end Accounts

/-! ## Refreshes -/

variable {hash : TokenHash} {generated : Option Generated} {clocks : Clocks} {fails : ℕ → Bool}
  {s : Store}

/-- The result of a refresh and the tables after it: request 0 looks the token up, 1 revokes it, 2
looks the user up and 3 stores the new token. A refresh begins no transaction. -/
def refreshAttempt (hash : Option TokenHash) (generated : Option Generated) (clocks : Clocks)
    (fails : ℕ → Bool) (s : Store) : Result × Store :=
  (refreshToken hash generated clocks).execFailing engine fails (.error ⟨.internal, "begin tx"⟩)
    0 s .idle

/-- If the call returns an error other than for reuse, the presented token is not revoked by it. -/
def RefreshAtomic (hash : TokenHash) (generated : Option Generated) (clocks : Clocks)
    (fails : ℕ → Bool) (s : Store) : Prop :=
  ∀ status, (refreshAttempt (some hash) generated clocks fails s).1 = .error status →
    status ≠ ⟨.unauthenticated, "refresh token has been revoked"⟩ →
      ∀ row, s.tokens.find? hash = some row → row.revoked = false →
        ∃ row', (refreshAttempt (some hash) generated clocks fails s).2.tokens.find? hash =
          some row' ∧ row'.revoked = false

/-- The presented token is exchanged: it is valid, and the database finds and revokes it. -/
structure Exchanged (hash : TokenHash) (clocks : Clocks) (fails : ℕ → Bool) (s : Store)
    (row : TokenRow) : Prop where
  found : s.tokens.find? hash = some row
  unrevoked : row.revoked = false
  unexpired : ¬ row.expiresAt < clocks.server
  answered : fails 0 = false ∧ fails 1 = false

/-- The user is found and active, and the new token is generated and stored. -/
def Reissued (generated : Option Generated) (fails : ℕ → Bool) (s : Store) (row : TokenRow) :
    Prop :=
  ∃ user g, s.users.find? row.userID = some user ∧ user.isActive = true ∧ generated = some g ∧
    fails 2 = false ∧ fails 3 = false ∧ s.CanInsert (g.row user.id)

lemma execFailing_stage {stage : Stage} (h : ∀ result, stage ≠ .returned result) (refused : Result)
    (n : ℕ) (s : Store) :
    execFailing engine fails refused stage.prog n s .idle =
      match if fails n then none else stage.answer s s with
      | none => execFailing engine fails refused stage.failed.prog (n + 1) s .idle
      | some (stage', s') => execFailing engine fails refused stage'.prog (n + 1) s' .idle := by
  obtain ⟨β, q, k, hat⟩ | ⟨result, rfl⟩ := stage.at_or_returned
  case inr => exact absurd rfl (h result)
  have heffect : effect engine q s = (q.run s s).map
      fun answer => (answer.1, answer.2.foldl engine.apply s) := rfl
  rw [hat.prog, execFailing]
  cases hn : fails n with
  | true =>
    rw [if_pos rfl, if_pos rfl]
    exact congrArg (fun p => execFailing engine fails refused p (n + 1) s .idle) hat.failed
  | false =>
    rw [if_neg Bool.false_ne_true, if_neg Bool.false_ne_true, heffect]
    cases hrun : q.run s s with
    | none =>
      rw [hat.unanswered s s hrun]
      exact congrArg (fun p => execFailing engine fails refused p (n + 1) s .idle) hat.failed
    | some answer =>
      obtain ⟨stage', hnext, hanswer⟩ := hat.answered s s answer.1 answer.2 hrun
      rw [hanswer]
      exact congrArg (fun p => execFailing engine fails refused p (n + 1) _ .idle) hnext

/-- What is left of a refresh that has revoked its token: it issues a new one, or returns an error
that is not about reuse and changes nothing. -/
structure Exchange (generated : Option Generated) (fails : ℕ → Bool) (s : Store) (row : TokenRow)
    (result : Result × Store) : Prop where
  issued : Reissued generated fails s row → result.1.isOk = true
  failed : ¬ Reissued generated fails s row → ∃ status : Status,
    status ≠ ⟨.unauthenticated, "refresh token has been revoked"⟩ ∧ result = (.error status, s)

lemma exchange_spec (generated : Option Generated) (clocks : Clocks) (fails : ℕ → Bool) (s : Store)
    (row : TokenRow) (refused : Result) :
    Exchange generated fails s row (execFailing engine fails refused
      (Stage.lookupUser row.userID generated clocks).prog 2 s .idle) := by
  have hstop (status : Status) (hstatus : status.message ≠ "refresh token has been revoked")
      (hnot : ¬ Reissued generated fails s row) :
      Exchange generated fails s row (.error status, s) :=
    ⟨fun h => absurd h hnot, fun _ => ⟨status, fun heq => hstatus (heq ▸ rfl), rfl⟩⟩
  rw [execFailing_stage (by simp)]
  cases h₂ : fails 2 with
  | true =>
    refine hstop _ (by decide) ?_
    rintro ⟨_, _, _, _, _, hlookup, _⟩
    simp [h₂] at hlookup
  | false =>
  cases huser : s.users.find? row.userID with
  | none =>
    simp only [Stage.answer, huser, Bool.false_eq_true, if_false]
    refine hstop ⟨.internal, "lookup user"⟩ (by decide) ?_
    rintro ⟨_, _, hfound, _⟩
    simp [huser] at hfound
  | some user =>
  simp only [Stage.answer, huser, Bool.false_eq_true, if_false]
  cases hactive : user.isActive with
  | false =>
    simp only [Stage.foundUser, hactive, Bool.false_eq_true, if_false]
    refine hstop ⟨.permissionDenied, "account is deactivated"⟩ (by decide) ?_
    rintro ⟨user', _, hfound, hactive', _⟩
    obtain rfl := Option.some.inj (huser.symm.trans hfound)
    simp [hactive] at hactive'
  | true =>
  simp only [Stage.foundUser, hactive, if_true]
  cases generated with
  | none =>
    refine hstop ⟨.internal, "generate tokens"⟩ (by decide) ?_
    rintro ⟨_, _, _, _, hgenerated, _⟩
    cases hgenerated
  | some g =>
  rw [Stage.issue, execFailing_stage (by simp)]
  by_cases hinsert : fails 3 = false ∧ s.CanInsert (g.row user.id)
  case neg =>
    simp only [Stage.answer, answer_eq, if_neg hinsert]
    refine hstop ⟨.internal, "store refresh token"⟩ (by decide) ?_
    rintro ⟨user', g', hfound, -, hg, -, h₃, hinsert'⟩
    obtain rfl := Option.some.inj (huser.symm.trans hfound)
    obtain rfl := Option.some.inj hg
    exact hinsert ⟨h₃, hinsert'⟩
  case pos =>
    have hreissued : Reissued (some g) fails s row :=
      ⟨user, g, huser, hactive, rfl, h₂, hinsert.1, hinsert.2⟩
    simp only [Stage.answer, answer_eq, if_pos hinsert]
    refine ⟨fun _ => ?_, fun hnot => absurd hreissued hnot⟩
    -- The cleanup takes effect or not.
    rw [execFailing_stage (by simp)]
    cases fails (2 + 1 + 1) <;> rfl

lemma canInsert_revoke (p : TokenRow → Bool) (now : Time) (row : TokenRow) :
    (Stage.revoke s s p now).CanInsert row ↔ s.CanInsert row := by
  have hhash : (Stage.revoke s s p now).tokens.HasKey row.tokenHash ↔
      s.tokens.HasKey row.tokenHash := by
    rw [Lib.Table.hasKey_iff_find?, Lib.Table.hasKey_iff_find?, Stage.find?_revoke,
      Option.isSome_map]
  have hids (id : TokenID) : (∀ row' ∈ (Stage.revoke s s p now).tokens.rows, row'.id ≠ id) ↔
      ∀ row' ∈ s.tokens.rows, row'.id ≠ id := by
    constructor
    · intro h row' hrow'
      have hfind := Stage.find?_revoke row'.tokenHash s s p now
      rw [find?_eq_some.mpr ⟨hrow', rfl⟩, Option.map_some] at hfind
      have hid := h _ (find?_eq_some.mp hfind).1
      split at hid <;> exact hid
    · intro h row' hrow'
      have hfind := Stage.find?_revoke row'.tokenHash s s p now
      rw [find?_eq_some.mpr ⟨hrow', rfl⟩] at hfind
      obtain ⟨row₀, hrow₀, heq⟩ := Option.map_eq_some_iff.mp hfind.symm
      have hid := h row₀ (find?_eq_some.mp hrow₀).1
      rw [← heq]
      split <;> exact hid
  exact and_congr (not_congr hhash) (and_congr (hids row.id) Iff.rfl)

lemma reissued_revoke (p : TokenRow → Bool) (now : Time) (row : TokenRow) :
    Reissued generated fails (Stage.revoke s s p now) row ↔ Reissued generated fails s row := by
  refine exists_congr fun user => exists_congr fun g => ?_
  rw [canInsert_revoke]
  rfl

lemma refreshAtomic_iff : RefreshAtomic hash generated clocks fails s ↔
    ∀ row, Exchanged hash clocks fails s row → Reissued generated fails s row := by
  have hsame (result : Result) : ∀ status, (result, s).1 = .error status →
      status ≠ ⟨.unauthenticated, "refresh token has been revoked"⟩ →
      ∀ row, s.tokens.find? hash = some row → row.revoked = false →
        ∃ row', (result, s).2.tokens.find? hash = some row' ∧ row'.revoked = false :=
    fun _ _ _ row hrow hrevoked => ⟨row, hrow, hrevoked⟩
  unfold RefreshAtomic refreshAttempt
  change (∀ status, (execFailing engine fails _ (Stage.lookupToken hash generated clocks).prog 0 s
    .idle).1 = .error status → _ → ∀ row, _ → _ → ∃ row', (execFailing engine fails _
      (Stage.lookupToken hash generated clocks).prog 0 s .idle).2.tokens.find? hash = _ ∧ _) ↔ _
  rw [execFailing_stage (by simp)]
  cases h₀ : fails 0 with
  | true => exact iff_of_true (hsame _) fun row h => by simpa [h₀] using h.answered.1
  | false =>
  simp only [Stage.answer, Bool.false_eq_true, if_false]
  cases hfind : s.tokens.find? hash with
  | none =>
    refine iff_of_true (fun _ _ _ row hrow => ?_) fun row h => ?_
    · cases hrow
    · simpa [hfind] using h.found
  | some row =>
  simp only [Stage.found]
  by_cases hrevoked : row.revoked = true
  case pos =>
    -- The token is revoked before the call.
    refine iff_of_true (fun _ _ _ row' hrow' hunrevoked => ?_) fun row' h => ?_
    · obtain rfl := Option.some.inj hrow'
      exact absurd hrevoked (by simp [hunrevoked])
    · obtain rfl := Option.some.inj (hfind.symm.trans h.found)
      exact absurd hrevoked (by simp [h.unrevoked])
  rw [if_neg hrevoked]
  by_cases hexpired : row.expiresAt < clocks.server
  case pos =>
    rw [if_pos hexpired]
    refine iff_of_true (hfind ▸ hsame _) fun row' h => ?_
    obtain rfl := Option.some.inj (hfind.symm.trans h.found)
    exact absurd hexpired h.unexpired
  rw [if_neg hexpired, execFailing_stage (by simp)]
  cases h₁ : fails (0 + 1) with
  | true => exact iff_of_true (hfind ▸ hsame _) fun row h => by simpa [h₁] using h.answered.2
  | false =>
  simp only [Stage.answer, Bool.false_eq_true, if_false]
  have hexchanged : Exchanged hash clocks fails s row :=
    ⟨hfind, by simpa using hrevoked, hexpired, h₀, h₁⟩
  have honly : (∀ row, Exchanged hash clocks fails s row → Reissued generated fails s row) ↔
      Reissued generated fails s row := by
    refine ⟨fun h => h row hexchanged, fun h row' hrow' => ?_⟩
    obtain rfl := Option.some.inj (hfind.symm.trans hrow'.found)
    exact h
  have hspec := exchange_spec generated clocks fails
    (Stage.revoke s s (fun row' => row'.id = row.id) clocks.database) row
    (.error ⟨.internal, "begin tx"⟩)
  rw [honly]
  by_cases hreissued : Reissued generated fails s row
  case pos =>
    refine iff_of_true (fun status herror => ?_) hreissued
    have hok := hspec.issued ((reissued_revoke _ _ _).mpr hreissued)
    rw [herror] at hok
    cases hok
  case neg =>
    obtain ⟨status, hstatus, hresult⟩ := hspec.failed (mt (reissued_revoke _ _ _).mp hreissued)
    refine iff_of_false (fun hatomic => ?_) hreissued
    rw [hresult] at hatomic
    obtain ⟨row', hfind', hunrevoked⟩ := hatomic status rfl hstatus row rfl hexchanged.unrevoked
    -- The UPDATE has revoked the row.
    rw [Stage.find?_revoke, hfind] at hfind'
    simp only [Option.map_some, Option.any_some, decide_true, Bool.and_self, if_true,
      Option.some.injEq] at hfind'
    subst hfind'
    cases hunrevoked

/-- **What an error leaves behind.** A registration leaves no tenant or user, if and only if its
transaction is not carried out or its tokens are issued; the verification token is optional only
where the registration fails anyway; and a refresh leaves its token unrevoked, if and only if it
does not exchange it or issues a new one. -/
theorem atomic_on_error_iff (first : List Accounts.AccountRow → Option Accounts.AccountRow)
    (req : Accounts.RegisterRequest) (input : Accounts.RegisterInput) (refused : ℕ → Bool)
    (accounts : Accounts.Store) (hash : TokenHash) (generated : Option Generated)
    (clocks : Clocks) (fails : ℕ → Bool) (s : Store) :
    (Accounts.RegisterAtomic first req input refused accounts ↔
      (Accounts.Created req input refused accounts → Accounts.Issued input refused accounts)) ∧
    (Accounts.VerificationOptional first req input refused accounts ↔
      ¬ (Accounts.Created req input refused accounts ∧
        Accounts.Issued input refused accounts)) ∧
    (RefreshAtomic hash generated clocks fails s ↔
      ∀ row, Exchanged hash clocks fails s row → Reissued generated fails s row) :=
  ⟨Accounts.registerAtomic_iff, Accounts.verificationOptional_iff, refreshAtomic_iff⟩

/-- The registration of an operator, whose refresh token is `"r1"`. -/
def operatorRequest : Accounts.RegisterRequest where
  email := "op@example.com"
  password := "Turbine-Hall-7"
  name := "Op"

def operatorInput : Accounts.RegisterInput where
  passwordHash := some "h1"
  tenantID := "t1"
  userID := "u1"
  verifyHash := "v1"
  generated := some ⟨"1", "r1", 100⟩
  now := 0
  later := 0

/-- The tables of a refresh after that registration. -/
def operatorStore : Store where
  tokens := Lib.Table.empty.put ⟨"1", "u1", "r1", 100, none⟩
  users := Lib.Table.empty.put ⟨"u1", "t1", "op@example.com", "Op", "admin", true⟩

/-- The refused INSERT of the refresh token leaves tenant and user, the refused INSERT of the
verification token fails the registration, and the refused lookup of the user revokes the token. -/
theorem errors_leave_changes :
    ¬ Accounts.RegisterAtomic List.head? operatorRequest operatorInput (fun n => n == 5) {} ∧
      ¬ Accounts.VerificationOptional List.head? operatorRequest operatorInput (fun _ => false) {} ∧
      ¬ RefreshAtomic "r1" (some ⟨"2", "r2", 200⟩) {} (fun n => n == 2) operatorStore := by
  refine ⟨fun h => absurd (h (by decide)).1 (by decide),
    fun h => absurd (h (by decide)) (by decide), fun h => ?_⟩
  have hleft := h ⟨.internal, "lookup user"⟩ (by rfl) (by decide)
    ⟨"1", "u1", "r1", 100, none⟩ (by decide) rfl
  obtain ⟨row, hrow, hunrevoked⟩ := hleft
  have hrevoked : (refreshAttempt (some "r1") (some ⟨"2", "r2", 200⟩) {} (fun n => n == 2)
      operatorStore).2.tokens.find? "r1" = some ⟨"1", "u1", "r1", 100, some 0⟩ := by decide
  obtain rfl := Option.some.inj (hrevoked.symm.trans hrow)
  cases hunrevoked

end Paryty.Auth

import Paryty.Auth.AccountResolution

/-!
# What a login discloses

Two logins with the same email and password, on tables that differ in one account with that email:
in whether it exists, or in whether it is active.

* `replyStatus_outcome_eq_iff`: from the same limiters, the replies agree if and only if the lookups
  find a deactivated account both or neither, and an account with the password both or neither.
* `login_undisclosed_iff`: the same of the whole call, with the limiters after it.
* `undisclosed_of_sole_iff`: if there is no other account with the email, an unknown email and an
  active account with another password look the same, and a deactivated account does not.

The lookup of an unknown email also burns a bcrypt comparison, which is a matter of time only.
-/

namespace Paryty.Auth.Accounts

open LoginLimits (Limits)

/-! ## Replies -/

/-- The status code and the message of a reply; tokens come without. -/
def replyStatus : Result → Option Status
  | .error status => some status
  | .ok _ => none

variable {first first₁ first₂ : List AccountRow → Option AccountRow}
  {verifyPassword : String → String → Bool} {call : Login} {s s₁ s₂ : Store}

/-- The lookup finds a deactivated account. -/
def FindsDeactivated (first : List AccountRow → Option AccountRow) (email : String) (s : Store) :
    Prop :=
  ∃ user, first (s.withEmail email) = some user ∧ user.isActive = false

/-- The lookup finds an active account with the password. -/
def FindsVerified (first : List AccountRow → Option AccountRow)
    (verifyPassword : String → String → Bool) (email password : String) (s : Store) : Prop :=
  ∃ user, first (s.withEmail email) = some user ∧ user.isActive = true ∧
    verifyPassword password user.passwordHash = true

lemma findsVerified_iff : FindsVerified first verifyPassword call.email call.password s ↔
    ∃ user, Verdict.of verifyPassword call.password (first (s.withEmail call.email)) =
      .verified user :=
  exists_congr fun _ => Verdict.of_eq_verified.symm

lemma findsDeactivated_iff : FindsDeactivated first call.email s ↔
    Verdict.of verifyPassword call.password (first (s.withEmail call.email)) = .deactivated := by
  unfold FindsDeactivated
  cases first (s.withEmail call.email) with
  | none => exact iff_of_false (fun ⟨_, h, _⟩ => nomatch h) fun h => nomatch h
  | some row =>
    have honly : (∃ user, some row = some user ∧ user.isActive = false) ↔ row.isActive = false := by
      simp
    rw [honly]
    cases hactive : row.isActive with
    | false => exact iff_of_true rfl (by simp [Verdict.of, hactive])
    | true =>
      refine iff_of_false Bool.true_eq_false.mp fun h => ?_
      cases hverify : verifyPassword call.password row.passwordHash <;>
        simp [Verdict.of, hactive, hverify] at h

lemma issues_congr {user₁ user₂ : AccountRow} {generated : Option Generated} {fails : ℕ → Bool}
    {n : ℕ} (htokens : s₁.tokens = s₂.tokens) (h₁ : user₁ ∈ s₁.users) (h₂ : user₂ ∈ s₂.users) :
    Issues generated user₁.id fails n s₁ ↔ Issues generated user₂.id fails n s₂ := by
  have hkey₁ : s₁.users.HasKey user₁.id := Lib.Table.hasKey_of_mem h₁
  have hkey₂ : s₂.users.HasKey user₂.id := Lib.Table.hasKey_of_mem h₂
  refine exists_congr fun g => and_congr_right fun _ => and_congr_right fun _ => ?_
  exact and_congr (by rw [htokens]; rfl)
    (and_congr (by rw [htokens]; rfl) (iff_of_true hkey₁ hkey₂))

/-- The replies of a login whose lookup is answered. -/
inductive Replies (call : Login) (s : Store) (deactivated verified : Prop) :
    Option Status → Prop
  | invalid (hdeactivated : ¬ deactivated) (hverified : ¬ verified) :
    Replies call s deactivated verified (some ⟨.unauthenticated, "invalid email or password"⟩)
  | deactivated (hdeactivated : deactivated) (hverified : ¬ verified) :
    Replies call s deactivated verified (some ⟨.permissionDenied, "account is deactivated"⟩)
  | issued (user : AccountRow) (hmem : user ∈ s.users) (hdeactivated : ¬ deactivated)
    (hverified : verified) (hissues : Issues call.input.generated user.id call.fails 1 s) :
    Replies call s deactivated verified none
  | failed (user : AccountRow) (hmem : user ∈ s.users) (hdeactivated : ¬ deactivated)
    (hverified : verified) (hissues : ¬ Issues call.input.generated user.id call.fails 1 s) :
    Replies call s deactivated verified (some (issueFailure call.input.generated))

lemma replies_outcome (hfirst : Oldest first) (hlookup : call.fails 0 = false) :
    Replies call s (FindsDeactivated first call.email s)
      (FindsVerified first verifyPassword call.email call.password s)
      (replyStatus (outcome first verifyPassword call s).1) := by
  have hdeactivated : FindsDeactivated first call.email s ↔
      Verdict.of verifyPassword call.password (first (s.withEmail call.email)) = .deactivated :=
    findsDeactivated_iff
  have hverified : FindsVerified first verifyPassword call.email call.password s ↔ ∃ user,
      Verdict.of verifyPassword call.password (first (s.withEmail call.email)) = .verified user :=
    findsVerified_iff
  unfold outcome
  rw [hlookup, if_neg Bool.false_ne_true]
  cases hverdict : Verdict.of verifyPassword call.password (first (s.withEmail call.email)) with
  | invalid =>
    rw [hverdict] at hdeactivated hverified
    exact .invalid (fun h => nomatch hdeactivated.mp h)
      fun h => (hverified.mp h).elim fun _ h => nomatch h
  | deactivated =>
    rw [hverdict] at hdeactivated hverified
    exact .deactivated (hdeactivated.mpr rfl) fun h => (hverified.mp h).elim fun _ h => nomatch h
  | verified user =>
    have hpicked := (Verdict.of_eq_verified.mp hverdict).1
    have hmem : user ∈ s.users := (List.mem_filter.mp (hfirst.least _ _ hpicked).1).1
    rw [hverdict] at hdeactivated hverified
    have hnot : ¬ FindsDeactivated first call.email s := fun h => nomatch hdeactivated.mp h
    obtain ⟨result, tokens, hissue, hok, hresult⟩ := issueTokens_spec
      user.tenantID user.id call.input.generated call.input.now 1 s
    rw [Verdict.proceed, hissue]
    obtain rfl | ⟨token, rfl⟩ := hresult
    · exact .failed user hmem hnot (hverified.mpr ⟨user, rfl⟩)
        fun h => Bool.false_ne_true (hok.mpr h)
    · exact .issued user hmem hnot (hverified.mpr ⟨user, rfl⟩) (hok.mp rfl)

lemma issueFailure_code (generated : Option Generated) :
    (issueFailure generated).code = .internal := by
  cases generated <;> rfl

section Replies

variable {deactivated verified deactivated₁ deactivated₂ verified₁ verified₂ : Prop}
  {reply reply₁ reply₂ : Option Status}

lemma Replies.deactivated_iff (h : Replies call s deactivated verified reply) :
    deactivated ↔ reply = some ⟨.permissionDenied, "account is deactivated"⟩ := by
  have hcode := issueFailure_code call.input.generated
  cases h with
  | invalid hdeactivated => exact iff_of_false hdeactivated (by decide)
  | deactivated hdeactivated => exact iff_of_true hdeactivated rfl
  | issued _ _ hdeactivated => exact iff_of_false hdeactivated fun h => nomatch h
  | failed _ _ hdeactivated =>
    refine iff_of_false hdeactivated fun h => ?_
    rw [Option.some.inj h] at hcode
    cases hcode

lemma Replies.invalid_iff (h : Replies call s deactivated verified reply) :
    ¬ deactivated ∧ ¬ verified ↔ reply = some ⟨.unauthenticated, "invalid email or password"⟩ := by
  have hcode := issueFailure_code call.input.generated
  cases h with
  | invalid hdeactivated hverified => exact iff_of_true ⟨hdeactivated, hverified⟩ rfl
  | deactivated hdeactivated => exact iff_of_false (fun h => h.1 hdeactivated) (by decide)
  | issued _ _ _ hverified => exact iff_of_false (fun h => h.2 hverified) fun h => nomatch h
  | failed _ _ _ hverified =>
    refine iff_of_false (fun h => h.2 hverified) fun h => ?_
    rw [Option.some.inj h] at hcode
    cases hcode

lemma Replies.of_verified (h : Replies call s deactivated verified reply) (hverified : verified) :
    ¬ deactivated ∧ ∃ user ∈ s.users,
      (Issues call.input.generated user.id call.fails 1 s ∧ reply = none) ∨
        (¬ Issues call.input.generated user.id call.fails 1 s ∧
          reply = some (issueFailure call.input.generated)) := by
  cases h with
  | invalid _ hnot => exact absurd hverified hnot
  | deactivated _ hnot => exact absurd hverified hnot
  | issued user hmem hdeactivated _ hissues => exact ⟨hdeactivated, user, hmem, .inl ⟨hissues, rfl⟩⟩
  | failed user hmem hdeactivated _ hissues => exact ⟨hdeactivated, user, hmem, .inr ⟨hissues, rfl⟩⟩

lemma Replies.eq_iff (htokens : s₁.tokens = s₂.tokens)
    (h₁ : Replies call s₁ deactivated₁ verified₁ reply₁)
    (h₂ : Replies call s₂ deactivated₂ verified₂ reply₂) :
    reply₁ = reply₂ ↔ (deactivated₁ ↔ deactivated₂) ∧ (verified₁ ↔ verified₂) := by
  constructor
  · rintro rfl
    have hdeactivated := h₁.deactivated_iff.trans h₂.deactivated_iff.symm
    have hinvalid := h₁.invalid_iff.trans h₂.invalid_iff.symm
    refine ⟨hdeactivated, fun h => ?_, fun h => ?_⟩
    · by_contra hnot
      exact (hinvalid.mpr ⟨fun hd => (h₁.of_verified h).1 (hdeactivated.mpr hd), hnot⟩).2 h
    · by_contra hnot
      exact (hinvalid.mp ⟨fun hd => (h₂.of_verified h).1 (hdeactivated.mp hd), hnot⟩).2 h
  · rintro ⟨hdeactivated, hverified⟩
    by_cases hd : deactivated₁
    · rw [h₁.deactivated_iff.mp hd, h₂.deactivated_iff.mp (hdeactivated.mp hd)]
    by_cases hv : verified₁
    · obtain ⟨-, user₁, hmem₁, hreply₁⟩ := h₁.of_verified hv
      obtain ⟨-, user₂, hmem₂, hreply₂⟩ := h₂.of_verified (hverified.mp hv)
      have hissues : Issues call.input.generated user₁.id call.fails 1 s₁ ↔
          Issues call.input.generated user₂.id call.fails 1 s₂ := issues_congr htokens hmem₁ hmem₂
      obtain ⟨hi₁, rfl⟩ | ⟨hi₁, rfl⟩ := hreply₁ <;> obtain ⟨hi₂, rfl⟩ | ⟨hi₂, rfl⟩ := hreply₂
      · rfl
      · exact absurd (hissues.mp hi₁) hi₂
      · exact absurd (hissues.mpr hi₂) hi₁
      · rfl
    · rw [h₁.invalid_iff.mp ⟨hd, hv⟩,
        h₂.invalid_iff.mp ⟨fun h => hd (hdeactivated.mpr h), fun h => hv (hverified.mpr h)⟩]

end Replies

/-! ## Two logins -/

section

variable {κ : Type*} [DecidableEq κ] {loginKey : String → κ} {limits : Limits κ}

/-- The replies agree, and so do the limiters afterwards. -/
def Indistinguishable (r₁ r₂ : Result × Limits κ × Store) : Prop :=
  replyStatus r₁.1 = replyStatus r₂.1 ∧ r₁.2.1 = r₂.2.1

/-- The tables without an account. -/
def Store.without (s : Store) (account : AccountRow) : Store :=
  { s with users := s.users.erase account.id }

/-- The tables with an account active if it was not, and deactivated if it was. -/
def Store.toggled (s : Store) (account : AccountRow) : Store :=
  { s with
    users := s.users.updateWhere (fun row => row.id = account.id)
      (fun row => { row with isActive := !row.isActive }) fun _ => rfl }

/-- The tables differ in whether the account exists, or in whether it is active. -/
inductive Changed (s : Store) (account : AccountRow) : Store → Prop
  | missing : Changed s account (s.without account)
  | toggled : Changed s account (s.toggled account)

lemma Changed.tokens_eq {account : AccountRow} (h : Changed s₁ account s₂) :
    s₁.tokens = s₂.tokens := by
  cases h <;> rfl

lemma isOk_iff_replyStatus (result : Result) : result.isOk = true ↔ replyStatus result = none := by
  cases result <;> simp [Except.isOk, Except.toBool, replyStatus]

lemma indistinguishable_of_allowed (hgiven : ¬ (call.email = "" ∨ call.password = ""))
    (hallowed : (limits.check loginKey call.now call.email call.network).1 = none) :
    Indistinguishable (login first₁ verifyPassword loginKey call limits s₁)
        (login first₂ verifyPassword loginKey call limits s₂) ↔
      replyStatus (outcome first₁ verifyPassword call s₁).1 =
        replyStatus (outcome first₂ verifyPassword call s₂).1 := by
  rw [login_of_allowed hgiven hallowed, login_of_allowed hgiven hallowed]
  refine ⟨And.left, fun hreply => ⟨hreply, ?_⟩⟩
  have hok := (isOk_iff_replyStatus (outcome first₁ verifyPassword call s₁).1).trans
    (hreply ▸ (isOk_iff_replyStatus (outcome first₂ verifyPassword call s₂).1).symm)
  simp only [hok]

/-- **What a login discloses.** Whether an account with the email exists or is active makes no
difference to the reply and to the limiters, if and only if the arguments or the limiters refuse the
call, or the lookup fails, or the lookups find a deactivated account both or neither and an account
with the password both or neither. -/
theorem login_undisclosed_iff (verifyPassword : String → String → Bool) (loginKey : String → κ)
    (call : Login) (limits : Limits κ) (account : AccountRow) (changed : Changed s₁ account s₂)
    (oldest₁ : Oldest first₁) (oldest₂ : Oldest first₂) :
    Indistinguishable (login first₁ verifyPassword loginKey call limits s₁)
        (login first₂ verifyPassword loginKey call limits s₂) ↔
      (call.email = "" ∨ call.password = "") ∨
      (limits.check loginKey call.now call.email call.network).1 ≠ none ∨
      call.fails 0 = true ∨
      (FindsDeactivated first₁ call.email s₁ ↔ FindsDeactivated first₂ call.email s₂) ∧
        (FindsVerified first₁ verifyPassword call.email call.password s₁ ↔
          FindsVerified first₂ verifyPassword call.email call.password s₂) := by
  by_cases hgiven : call.email = "" ∨ call.password = ""
  · refine iff_of_true ?_ (.inl hgiven)
    rw [login_of_empty hgiven, login_of_empty hgiven]
    exact ⟨rfl, rfl⟩
  cases hrefusal : (limits.check loginKey call.now call.email call.network).1 with
  | some refusal =>
    refine iff_of_true ?_ (.inr (.inl (by simp)))
    rw [login_of_refusal hgiven hrefusal, login_of_refusal hgiven hrefusal]
    exact ⟨rfl, rfl⟩
  | none =>
  rw [indistinguishable_of_allowed hgiven hrefusal]
  cases hlookup : call.fails 0 with
  | true =>
    refine iff_of_true ?_ (.inr (.inr (.inl rfl)))
    unfold outcome
    rw [if_pos hlookup, if_pos hlookup]
  | false =>
    rw [Replies.eq_iff changed.tokens_eq (replies_outcome oldest₁ hlookup)
      (replies_outcome oldest₂ hlookup)]
    simp [hgiven]

/-! ### The only account with the email -/

lemma withEmail_without (account : AccountRow) (email : String) :
    (s.without account).withEmail email =
      (s.withEmail email).filter fun row => row.id ≠ account.id := by
  unfold Store.withEmail
  rw [List.filter_filter]
  change (s.users.rows.filter _).filter _ = _
  rw [List.filter_filter]
  refine List.filter_congr fun row _ => ?_
  simp [Bool.and_comm]

lemma withEmail_toggled (account : AccountRow) (email : String) :
    (s.toggled account).withEmail email =
      (s.withEmail email).map fun row =>
        if row.id = account.id then { row with isActive := !row.isActive } else row := by
  unfold Store.withEmail
  change (s.users.rows.map _).filter _ = _
  rw [List.filter_map]
  refine congrArg₂ List.map (funext fun row => by simp) (List.filter_congr fun row _ => ?_)
  simp only [Function.comp]
  split <;> rfl

lemma Oldest.sole (hfirst : Oldest first) (row : AccountRow) : first [row] = some row := by
  obtain ⟨picked, hpicked⟩ := Option.isSome_iff_exists.mp (hfirst.found [row] (by simp))
  have hmem := (hfirst.least [row] picked hpicked).1
  rw [hpicked, List.mem_singleton.mp hmem]

/-- The only account with an email, with another password than the one given: an unknown email looks
the same if and only if the account is active, and its deactivation never does. -/
theorem sole_undisclosed_iff (account : AccountRow) (sole : s.withEmail call.email = [account])
    (wrong : verifyPassword call.password account.passwordHash = false)
    (changed : Changed s account s₂) (oldest₁ : Oldest first₁) (oldest₂ : Oldest first₂) :
    (FindsDeactivated first₁ call.email s ↔ FindsDeactivated first₂ call.email s₂) ∧
        (FindsVerified first₁ verifyPassword call.email call.password s ↔
          FindsVerified first₂ verifyPassword call.email call.password s₂) ↔
      s₂.withEmail call.email = [] ∧ account.isActive = true := by
  have hunverified (user : AccountRow) (hsame : user.passwordHash = account.passwordHash) :
      ¬ verifyPassword call.password user.passwordHash = true := by
    rw [hsame, wrong]
    exact Bool.false_ne_true
  unfold FindsDeactivated FindsVerified
  rw [sole, oldest₁.sole]
  cases changed with
  | missing =>
    rw [withEmail_without, sole]
    simp [oldest₂.nil, hunverified]
  | toggled =>
    rw [withEmail_toggled, sole]
    simp [oldest₂.sole]

end

/-! ## An operator -/

/-- A login with another password than the one of the operator. -/
def strangerLogin : Login where
  email := operatorRequest.email
  password := "Guess-1234"
  input := { generated := some ⟨"3", "r3", 100⟩, now := 2 * 10 ^ 9 }

/-- The tables of the operator, whose account is active or deactivated. -/
def operatorTables (isActive : Bool) : Store :=
  run {} [.register operatorRequest operatorInput fun _ => false, .setActive "u1" "t1" isActive]

/-- The account of the operator. -/
def operatorAccount (isActive : Bool) : AccountRow :=
  { operatorInput.user operatorRequest "h1" with isActive }

/-- An active account looks like none. -/
theorem operator_undisclosed :
    Indistinguishable (login (prefer (operatorAccount true)) operatorPassword id strangerLogin
        ({} : Limits String) (operatorTables true))
      (login (prefer (operatorAccount true)) operatorPassword id strangerLogin {}
        ((operatorTables true).without (operatorAccount true))) := by
  refine (login_undisclosed_iff operatorPassword id strangerLogin {} (operatorAccount true)
    .missing (oldest_prefer _) (oldest_prefer _)).mpr (.inr (.inr (.inr ?_)))
  exact (sole_undisclosed_iff (operatorAccount true) (by decide) (by decide) .missing
    (oldest_prefer _) (oldest_prefer _)).mpr (by decide)

/-- A deactivated account does not. -/
theorem deactivated_disclosed :
    ¬ Indistinguishable (login (prefer (operatorAccount false)) operatorPassword id strangerLogin
        ({} : Limits String) (operatorTables false))
      (login (prefer (operatorAccount false)) operatorPassword id strangerLogin {}
        ((operatorTables false).without (operatorAccount false))) :=
  fun h => absurd h.1 (by decide)

end Paryty.Auth.Accounts

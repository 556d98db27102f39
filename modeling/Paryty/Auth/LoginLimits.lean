import Mathlib.Algebra.Order.Ring.Int
import Mathlib.Data.Int.Notation
import Paryty.Lib.Run
import Paryty.Lib.Table

/-!
# Limits on logins

The two limiters that `Login` of `cluster/internal/auth/handler.go` asks before it looks at the
database: `DistributedRateLimiter` of `redis_ratelimit.go`, and `loginRateLimiter` in memory.

* `Limits.check` asks them one after the other. `State.next` is one attempt, with its outcome and
  what happened to the commands to Redis; an attempt ends before the next one begins.
* `Earned`: an attempt is refused only if enough attempts for the email were unsuccessful within
  the preceding window and block.
* `earned_of_allowed`: that holds in runs where no counter in Redis that is at its limit has lost
  its expiry or has counted too many successes, and no attempt comes at the instant a block ends.

Times are in nanoseconds, on one clock. Without a client for Redis an attempt goes as if its INCR
had failed.
-/

namespace Paryty.Auth.LoginLimits

variable {κ : Type*} [DecidableEq κ]

/-- A second. -/
def second : ℕ := 1000000000

/-- A minute. -/
def minute : ℕ := 60 * second

/-- `maxLoginFailures`. -/
def maxLoginFailures : ℕ := 5

/-- `loginWindowSize`. -/
def loginWindowSize : ℕ := 15 * minute

/-- `loginBlockTime`. -/
def loginBlockTime : ℕ := 15 * minute

/-- `maxTrackedKeys`. -/
def maxTrackedKeys : ℕ := 100000

/-! ## In memory -/

/-- `loginWindow`. An email that was never blocked has no `blockedUntil`. -/
structure LoginWindow where
  failures : ℕ
  windowEndsAt : ℕ
  blockedUntil : Option ℕ := none
deriving DecidableEq

/-- `loginRateLimiter`: the windows of the tracked emails. -/
abbrev LoginRateLimiter := Lib.Table (String × LoginWindow) String Prod.fst

/-- The window and the block have both passed. -/
def LoginWindow.expired (now : ℕ) (w : LoginWindow) : Bool :=
  w.windowEndsAt < now && w.blockedUntil.all (· < now)

namespace LoginRateLimiter

/-- The window of an email. -/
def window? (l : LoginRateLimiter) (key : String) : Option LoginWindow :=
  (l.find? key).map Prod.snd

/-- `pruneExpiredLocked`. -/
def pruneExpiredLocked (l : LoginRateLimiter) (now : ℕ) : LoginRateLimiter :=
  l.deleteWhere fun e => e.2.expired now

/-- An attempt for an email that is not tracked. -/
def track (l : LoginRateLimiter) (now : ℕ) (key : String) : LoginRateLimiter :=
  let l := if l.rows.length ≥ maxTrackedKeys then l.pruneExpiredLocked now else l
  -- Still full: allowed, but not tracked.
  if l.rows.length ≥ maxTrackedKeys then l
  else l.put (key, { failures := 1, windowEndsAt := now + loginWindowSize })

/-- `allow`. -/
def allow (l : LoginRateLimiter) (now : ℕ) (key : String) : Bool × LoginRateLimiter :=
  match l.window? key with
  | none => (true, l.track now key)
  | some w =>
    if w.expired now then (true, track (l.erase key) now key)
    else if w.blockedUntil.any (now < ·) then (false, l)
    else
      let w := { w with failures := w.failures + 1 }
      if w.failures > maxLoginFailures then
        (false, l.put (key, { w with blockedUntil := some (now + loginBlockTime) }))
      else (true, l.put (key, w))

/-- `recordSuccess`. -/
def recordSuccess (l : LoginRateLimiter) (key : String) : LoginRateLimiter := l.erase key

end LoginRateLimiter

/-! ## In Redis -/

/-- A counter, its expiry, and how many of the attempts that it counted succeeded. -/
structure Counter where
  count : ℕ
  deadline : Option ℕ := none
  succeeded : ℕ := 0
deriving DecidableEq

abbrev Counters (κ : Type*) := κ → Option Counter

/-- What becomes of a command. -/
inductive Reply
  | answered
  /-- It was carried out, but the reply got lost. -/
  | lost
  | failed
deriving DecidableEq

/-- What becomes of the commands of `Allow`: INCR, EXPIRE, and the answer of TTL, which is not
positive after an error. -/
structure Network where
  incr : Reply := .answered
  expire : Bool := true
  ttl : ℤ := 0
deriving DecidableEq

namespace Counters

/-- The counter of a key, unless it has expired. -/
def current (counters : Counters κ) (now : ℕ) (key : κ) : Option Counter :=
  (counters key).filter fun c => c.deadline.all (now < ·)

/-- INCR. -/
def incr (counters : Counters κ) (now : ℕ) (key : κ) : Counter :=
  match counters.current now key with
  | none => { count := 1 }
  | some c => { c with count := c.count + 1 }

/-- `DistributedRateLimiter.Allow`: after how long to try again if it does not allow, and the
counters. -/
def allow (counters : Counters κ) (now : ℕ) (key : κ) (maxAttempts window : ℕ)
    (network : Network) : Option ℤ × Counters κ :=
  let c := counters.incr now key
  match network.incr with
  | .failed => (none, counters)
  | .lost => (none, Function.update counters key (some c))
  | .answered =>
    let c := if c.count = 1 ∧ network.expire then { c with deadline := some (now + window) } else c
    (if c.count > maxAttempts then some (if network.ttl ≤ 0 then (window : ℤ) else network.ttl)
      else none, Function.update counters key (some c))

/-- An attempt that was counted has succeeded. -/
def markSucceeded (counters : Counters κ) (key : κ) (network : Network) : Counters κ :=
  if network.incr = .failed then counters
  else Function.update counters key
    ((counters key).map fun c => { c with succeeded := c.succeeded + 1 })

end Counters

/-! ## Attempts -/

/-- Both limiters. -/
structure Limits (κ : Type*) where
  counters : Counters κ := fun _ => none
  memory : LoginRateLimiter := .empty

/-- Why an attempt is refused. -/
inductive Refusal
  /-- `too many login attempts; please try again in %.0f seconds` -/
  | distributed (retryAfter : ℤ)
  /-- `too many login attempts; please try again later` -/
  | memory
deriving DecidableEq

/-- The limiters in `Login`. -/
def Limits.check (loginKey : String → κ) (limits : Limits κ) (now : ℕ) (email : String)
    (network : Network) : Option Refusal × Limits κ :=
  match limits.counters.allow now (loginKey email) maxLoginFailures loginWindowSize network with
  | (some retryAfter, counters) => (some (.distributed retryAfter), { limits with counters })
  | (none, counters) =>
    match limits.memory.allow now email with
    | (false, memory) => (some .memory, { counters, memory })
    | (true, memory) => (none, { counters, memory })

/-- After a successful login. -/
def Limits.succeed (loginKey : String → κ) (limits : Limits κ) (email : String)
    (network : Network) : Limits κ where
  counters := limits.counters.markSucceeded (loginKey email) network
  memory := limits.memory.recordSuccess email

/-- An attempt: how long it is since the one before, and whether it succeeds if it is not
refused. -/
structure Attempt where
  email : String
  elapsed : ℕ
  network : Network := {}
  succeeds : Bool
deriving DecidableEq

/-- What an attempt came to. -/
structure Outcome where
  email : String
  time : ℕ
  succeeded : Bool
deriving DecidableEq

/-- How many attempts for an email were unsuccessful since some time. -/
def failuresSince (log : List Outcome) (email : String) (start : ℕ) : ℕ :=
  (log.filter fun o => o.email = email ∧ o.succeeded = false ∧ start ≤ o.time).length

structure State (κ : Type*) where
  clock : ℕ := 0
  limits : Limits κ := {}
  log : List Outcome := []

namespace State

variable (loginKey : String → κ)

/-- What the limiters say of an attempt. -/
def check (s : State κ) (a : Attempt) : Option Refusal × Limits κ :=
  s.limits.check loginKey (s.clock + a.elapsed) a.email a.network

/-- One attempt. -/
def next (s : State κ) (a : Attempt) : State κ :=
  let now := s.clock + a.elapsed
  match s.check loginKey a with
  | (some _, limits) => { clock := now, limits, log := s.log ++ [⟨a.email, now, false⟩] }
  | (none, limits) =>
    { clock := now
      limits := if a.succeeds then limits.succeed loginKey a.email a.network else limits
      log := s.log ++ [⟨a.email, now, a.succeeds⟩] }

/-- An attempt is refused only after enough unsuccessful ones. -/
def Earned (s : State κ) (a : Attempt) : Prop :=
  ∀ refusal, (s.check loginKey a).1 = some refusal →
    maxLoginFailures ≤ failuresSince s.log a.email
      (s.clock + a.elapsed - (loginWindowSize + loginBlockTime))

/-- A counter that is at its limit has its expiry and has counted enough unsuccessful attempts, and
no block of the email ends at this instant. -/
structure Regular (s : State κ) (a : Attempt) : Prop where
  counter : ∀ c, s.limits.counters.current (s.clock + a.elapsed) (loginKey a.email) = some c →
    maxLoginFailures ≤ c.count → c.deadline ≠ none ∧ maxLoginFailures + c.succeeded ≤ c.count
  block : ∀ w, s.limits.memory.window? a.email = some w →
    w.blockedUntil ≠ some (s.clock + a.elapsed)

end State

/-! ## Unsuccessful attempts -/

section

variable {log : List Outcome} {email : String} {start now clock : ℕ} {o : Outcome}

lemma failuresSince_concat :
    failuresSince (log ++ [o]) email start = failuresSince log email start +
      if o.email = email ∧ o.succeeded = false ∧ start ≤ o.time then 1 else 0 := by
  unfold failuresSince
  rw [List.filter_append, List.length_append, List.filter_singleton]
  by_cases h : o.email = email ∧ o.succeeded = false ∧ start ≤ o.time <;> simp [h]

lemma failuresSince_le_concat (log : List Outcome) (email : String) (start : ℕ) (o : Outcome) :
    failuresSince log email start ≤ failuresSince (log ++ [o]) email start := by
  rw [failuresSince_concat]
  exact Nat.le_add_right _ _

lemma failuresSince_concat_failed (h : start ≤ now) :
    failuresSince (log ++ [⟨email, now, false⟩]) email start =
      failuresSince log email start + 1 := by
  rw [failuresSince_concat, if_pos ⟨rfl, rfl, h⟩]

lemma failuresSince_anti {start' : ℕ} (h : start' ≤ start) (log : List Outcome) (email : String) :
    failuresSince log email start ≤ failuresSince log email start' := by
  refine (List.monotone_filter_right log fun o ho => ?_).length_le
  simp only [decide_eq_true_eq] at ho ⊢
  exact ⟨ho.1, ho.2.1, h.trans ho.2.2⟩

/-! ## The limiter in memory -/

namespace LoginRateLimiter

variable {l : LoginRateLimiter} {key k : String} {w : LoginWindow}

lemma window?_put : window? (l.put (key, w)) k = if k = key then some w else l.window? k := by
  rw [window?, Lib.Table.find?_put]
  split <;> rfl

lemma window?_erase : window? (l.erase key) k = if k = key then none else l.window? k := by
  rw [window?, Lib.Table.find?_erase]
  split <;> rfl

lemma window?_of_prune (h : (l.pruneExpiredLocked now).window? k = some w) :
    l.window? k = some w := by
  rw [window?, pruneExpiredLocked, Lib.Table.find?_deleteWhere] at h
  obtain ⟨e, he, rfl⟩ := Option.map_eq_some_iff.mp h
  rw [window?, (Option.filter_eq_some_iff.mp he).1]
  rfl

lemma window?_of_track (h : (l.track now key).window? k = some w) :
    l.window? k = some w ∨
      k = key ∧ w = { failures := 1, windowEndsAt := now + loginWindowSize } := by
  have hprune {k : String} {w : LoginWindow}
      (h : window? (if l.rows.length ≥ maxTrackedKeys then l.pruneExpiredLocked now else l) k =
        some w) : l.window? k = some w := by
    split at h
    · exact window?_of_prune h
    · exact h
  unfold track at h
  dsimp only at h
  generalize (if l.rows.length ≥ maxTrackedKeys then l.pruneExpiredLocked now else l) = l'
    at h hprune
  split at h
  · exact .inl (hprune h)
  · rw [window?_put] at h
    split at h
    · next hkey => exact .inr ⟨hkey, (Option.some.inj h).symm⟩
    · exact .inl (hprune h)

end LoginRateLimiter

/-- What is behind a window: its failures, up to the limit, and a block that its last one began. -/
structure Supported (log : List Outcome) (clock : ℕ) (email : String) (w : LoginWindow) : Prop where
  started : loginWindowSize ≤ w.windowEndsAt
  recent : w.windowEndsAt ≤ clock + loginWindowSize
  counted : min w.failures maxLoginFailures ≤
    failuresSince log email (w.windowEndsAt - loginWindowSize)
  within : w.blockedUntil = none → w.failures ≤ maxLoginFailures
  blocked : ∀ b, w.blockedUntil = some b → maxLoginFailures < w.failures ∧ w.windowEndsAt ≤ b ∧
    b ≤ w.windowEndsAt + loginBlockTime

namespace Supported

variable {w : LoginWindow}

lemma later (h : Supported log clock email w) (hle : clock ≤ now) (o : Outcome) :
    Supported (log ++ [o]) now email w where
  started := h.started
  recent := h.recent.trans (Nat.add_le_add_right hle _)
  counted := h.counted.trans (failuresSince_le_concat log email _ o)
  within := h.within
  blocked := h.blocked

lemma earned (h : Supported log clock email w) (hfailures : maxLoginFailures ≤ w.failures)
    (hnow : now ≤ w.windowEndsAt + loginBlockTime) :
    maxLoginFailures ≤
      failuresSince log email (now - (loginWindowSize + loginBlockTime)) := by
  have hcounted := h.counted
  rw [Nat.min_eq_right hfailures] at hcounted
  refine hcounted.trans (failuresSince_anti ?_ log email)
  have hstarted := h.started
  omega

end Supported

namespace LoginRateLimiter

variable {l : LoginRateLimiter} {key k : String} {w : LoginWindow}

/-- Every window is supported. -/
def Supports (log : List Outcome) (clock : ℕ) (l : LoginRateLimiter) : Prop :=
  ∀ k w, window? l k = some w → Supported log clock k w

lemma Supports.track (h : Supports log clock l) (hle : clock ≤ now) :
    Supports (log ++ [⟨key, now, false⟩]) now (l.track now key) := by
  intro k w hw
  rcases window?_of_track hw with hold | ⟨rfl, rfl⟩
  · exact (h k w hold).later hle _
  · constructor
    case started => exact Nat.le_add_left _ _
    case recent => exact Nat.le_refl _
    case counted =>
      rw [Nat.add_sub_cancel, failuresSince_concat_failed (Nat.le_refl _)]
      exact Nat.le_trans (Nat.min_le_left _ _) (Nat.le_add_left 1 _)
    case within => exact fun _ => (by decide : 1 ≤ maxLoginFailures)
    case blocked => exact fun b hb => nomatch hb

lemma Supports.put (h : Supports log clock l) (hle : clock ≤ now) {w' : LoginWindow}
    (hw : window? l key = some w) (hfailures : w'.failures = w.failures + 1)
    (hends : w'.windowEndsAt = w.windowEndsAt)
    (hwithin : w'.blockedUntil = none → w'.failures ≤ maxLoginFailures)
    (hblocked : ∀ b, w'.blockedUntil = some b → maxLoginFailures < w'.failures ∧
      w'.windowEndsAt ≤ b ∧ b ≤ w'.windowEndsAt + loginBlockTime) :
    Supports (log ++ [⟨key, now, false⟩]) now (l.put (key, w')) := by
  intro k w'' hw''
  rw [window?_put] at hw''
  split at hw''
  · next hkey =>
    subst hkey
    obtain rfl := Option.some.inj hw''
    have hold := h k w hw
    have hrecent := hold.recent
    have hcounted := hold.counted
    constructor
    case started => exact hends ▸ hold.started
    case recent => exact hends ▸ hrecent.trans (Nat.add_le_add_right hle _)
    case counted =>
      rw [hends, failuresSince_concat_failed (by omega), hfailures]
      omega
    case within => exact hwithin
    case blocked => exact hblocked
  · exact (h k w'' hw'').later hle _

/-- A window that is not over and not blocked was never blocked: its block would end at this
instant. -/
lemma Supports.open (h : Supports log clock l) (hw : window? l key = some w)
    (hblock : w.blockedUntil ≠ some now) (hlive : ¬ w.expired now)
    (hopen : ¬ w.blockedUntil.any (now < ·)) :
    w.blockedUntil = none ∧ w.failures ≤ maxLoginFailures ∧ now ≤ w.windowEndsAt := by
  have hnever : w.blockedUntil = none := by
    cases hb : w.blockedUntil with
    | none => rfl
    | some b =>
      obtain ⟨-, hends, -⟩ := (h key w hw).blocked b hb
      simp only [hb, LoginWindow.expired, Option.all_some, Option.any_some, decide_eq_true_eq,
        Bool.and_eq_true, not_and, not_lt, Option.some.injEq, ne_eq] at hblock hlive hopen
      omega
  exact ⟨hnever, (h key w hw).within hnever, by simpa [LoginWindow.expired, hnever] using hlive⟩

lemma Supports.allow (h : Supports log clock l) (hle : clock ≤ now)
    (hblock : ∀ w, window? l key = some w → w.blockedUntil ≠ some now) :
    Supports (log ++ [⟨key, now, false⟩]) now (l.allow now key).2 := by
  unfold LoginRateLimiter.allow
  split
  · exact h.track hle
  · next w hw =>
    split
    · have herase : Supports log clock (l.erase key) := by
        intro k w hw
        rw [window?_erase] at hw
        split at hw
        · cases hw
        · exact h k w hw
      exact herase.track hle
    · next hlive =>
      split
      · exact fun k w hw => (h k w hw).later hle _
      · next hopen =>
        obtain ⟨hnever, -, hends⟩ := h.open hw (hblock w hw) hlive hopen
        dsimp only
        split
        · next hover =>
          refine h.put hle hw rfl rfl (fun hnone => nomatch hnone) fun b hb => ?_
          obtain rfl := Option.some.inj hb
          have hrecent := ((h key w hw).recent).trans (Nat.add_le_add_right hle _)
          exact ⟨hover, hrecent, Nat.add_le_add_right hends _⟩
        · next hunder =>
          exact h.put hle hw rfl rfl (fun _ => Nat.not_lt.mp hunder) fun b hb =>
            absurd (hnever.symm.trans hb) (by simp)

lemma Supports.earned (h : Supports log clock l)
    (hblock : ∀ w, window? l key = some w → w.blockedUntil ≠ some now)
    (hrefused : (l.allow now key).1 = false) :
    maxLoginFailures ≤ failuresSince log key (now - (loginWindowSize + loginBlockTime)) := by
  unfold LoginRateLimiter.allow at hrefused
  split at hrefused
  · cases hrefused
  · next w hw =>
    have hsupported := h key w hw
    split at hrefused
    · cases hrefused
    · next hlive =>
      split at hrefused
      · next hblocked =>
        obtain ⟨b, hb, hbefore⟩ := (Option.any_eq_true _ _).mp hblocked
        obtain ⟨hfailures, -, hends⟩ := hsupported.blocked b hb
        have hbefore : now < b := of_decide_eq_true hbefore
        exact hsupported.earned (Nat.le_of_lt hfailures) (by omega)
      · next hopen =>
        obtain ⟨-, -, hends⟩ := h.open hw (hblock w hw) hlive hopen
        dsimp only at hrefused
        split at hrefused
        · next hover => exact hsupported.earned (Nat.le_of_lt_succ hover) (by omega)
        · cases hrefused

end LoginRateLimiter

/-! ## The counters in Redis -/

/-- A counter that expires has counted successes, failures since it was made, and at most `n`
more. -/
def Backed (n : ℕ) (log : List Outcome) (clock : ℕ) (email : String) (c : Counter) : Prop :=
  ∀ d, c.deadline = some d → loginWindowSize ≤ d ∧ d ≤ clock + loginWindowSize ∧
    c.count ≤ failuresSince log email (d - loginWindowSize) + c.succeeded + n

namespace Backed

variable {n : ℕ} {c : Counter}

lemma later (h : Backed n log clock email c) (hle : clock ≤ now) (o : Outcome) :
    Backed n (log ++ [o]) now email c := by
  intro d hd
  obtain ⟨hstarted, hrecent, hcount⟩ := h d hd
  have hmore := failuresSince_le_concat log email (d - loginWindowSize) o
  exact ⟨hstarted, by omega, by omega⟩

lemma failed (h : Backed 1 log now email c) :
    Backed 0 (log ++ [⟨email, now, false⟩]) now email c := by
  intro d hd
  obtain ⟨hstarted, hrecent, hcount⟩ := h d hd
  rw [failuresSince_concat_failed (by omega)]
  exact ⟨hstarted, hrecent, by omega⟩

lemma succeeded (h : Backed 1 log now email c) (o : Outcome) :
    Backed 0 (log ++ [o]) now email { c with succeeded := c.succeeded + 1 } := by
  intro d hd
  obtain ⟨hstarted, hrecent, hcount⟩ := h d hd
  have hmore := failuresSince_le_concat log email (d - loginWindowSize) o
  dsimp only
  exact ⟨hstarted, hrecent, by omega⟩

end Backed

namespace Counters

variable {counters : Counters κ} {key : κ} {maxAttempts : ℕ} {network : Network}

omit [DecidableEq κ] in
lemma backed_incr (h : ∀ c, counters key = some c → Backed 0 log clock email c)
    (hle : clock ≤ now) : Backed 1 log now email (counters.incr now key) := by
  unfold incr
  split
  · exact fun d hd => nomatch hd
  · next c hc =>
    intro d hd
    obtain ⟨hstarted, hrecent, hcount⟩ := h c (Option.filter_eq_some_iff.mp hc).1 d hd
    dsimp only
    exact ⟨hstarted, by omega, by omega⟩

lemma allow_spec (h : ∀ c, counters key = some c → Backed 0 log clock email c) (hle : clock ≤ now) :
    (network.incr = .failed ∧
        (counters.allow now key maxAttempts loginWindowSize network).2 = counters) ∨
      (network.incr ≠ .failed ∧ ∃ c, Backed 1 log now email c ∧
        (counters.allow now key maxAttempts loginWindowSize network).2 =
          Function.update counters key (some c)) := by
  have hincr := backed_incr h hle
  unfold allow
  cases network.incr with
  | failed => exact .inl ⟨rfl, rfl⟩
  | lost => exact .inr ⟨by simp, _, hincr, rfl⟩
  | answered =>
    refine .inr ⟨by simp, _, ?_, rfl⟩
    split
    · next hfirst =>
      -- A new expiry, and one attempt.
      intro d hd
      obtain rfl := Option.some.inj hd
      dsimp only
      exact ⟨Nat.le_add_left _ _, Nat.le_refl _, by omega⟩
    · exact hincr

lemma current_of_allow {retryAfter : ℤ}
    (h : (counters.allow now key maxAttempts loginWindowSize network).1 = some retryAfter)
    (hmax : 0 < maxAttempts) :
    ∃ c, counters.current now key = some c ∧ maxAttempts ≤ c.count := by
  unfold allow at h
  cases hincr : network.incr with
  | failed => simp [hincr] at h
  | lost => simp [hincr] at h
  | answered =>
    simp only [hincr] at h
    have hcount : (if (counters.incr now key).count = 1 ∧ network.expire then
        { counters.incr now key with deadline := some (now + loginWindowSize) }
        else counters.incr now key).count = (counters.incr now key).count := by
      split <;> rfl
    rw [hcount] at h
    split at h
    · next hover =>
      unfold incr at hover
      split at hover
      · dsimp only at hover
        omega
      · next c hc => exact ⟨c, hc, Nat.le_of_lt_succ hover⟩
    · cases h

end Counters

/-! ## Both limiters -/

/-- What the limiters know is in the log. Only some emails are used. -/
structure Consistent (loginKey : String → κ) (emails : Set String) (s : State κ) : Prop where
  memory : LoginRateLimiter.Supports s.log s.clock s.limits.memory
  counters : ∀ email ∈ emails, ∀ c, s.limits.counters (loginKey email) = some c →
    Backed 0 s.log s.clock email c

variable {loginKey : String → κ} {emails : Set String} {s : State κ} {a : Attempt}

omit [DecidableEq κ] in
lemma Consistent.init : Consistent loginKey emails ({} : State κ) where
  memory := fun _ _ hw => nomatch hw
  counters := fun _ _ _ hc => nomatch hc

lemma Consistent.backed (h : Consistent loginKey emails s)
    (hkeys : ∀ e ∈ emails, ∀ e' ∈ emails, loginKey e = loginKey e' → e = e')
    (ha : a.email ∈ emails) (o : Outcome) {counters : Counters κ} {c : Option Counter}
    (hcounters : counters = Function.update s.limits.counters (loginKey a.email) c)
    (hc : ∀ c', c = some c' → Backed 0 (s.log ++ [o]) (s.clock + a.elapsed) a.email c') :
    ∀ email ∈ emails, ∀ c, counters (loginKey email) = some c →
      Backed 0 (s.log ++ [o]) (s.clock + a.elapsed) email c := by
  intro email hemail c' hc'
  rw [hcounters] at hc'
  by_cases hsame : email = a.email
  · subst hsame
    rw [Function.update_self] at hc'
    exact hc c' hc'
  · have hne : loginKey email ≠ loginKey a.email :=
      fun heq => hsame (hkeys email hemail a.email ha heq)
    rw [Function.update_of_ne hne] at hc'
    exact (h.counters email hemail c' hc').later (Nat.le_add_right _ _) o

lemma Consistent.counters_failed (h : Consistent loginKey emails s)
    (hkeys : ∀ e ∈ emails, ∀ e' ∈ emails, loginKey e = loginKey e' → e = e')
    (ha : a.email ∈ emails) :
    ∀ email ∈ emails, ∀ c, (s.limits.counters.allow (s.clock + a.elapsed) (loginKey a.email)
        maxLoginFailures loginWindowSize a.network).2 (loginKey email) = some c →
      Backed 0 (s.log ++ [⟨a.email, s.clock + a.elapsed, false⟩])
        (s.clock + a.elapsed) email c := by
  obtain ⟨-, hsame⟩ | ⟨-, c, hc, hupdate⟩ :=
    Counters.allow_spec (h.counters a.email ha) (Nat.le_add_right s.clock a.elapsed)
  · rw [hsame]
    exact fun email hemail c hc => (h.counters email hemail c hc).later (Nat.le_add_right _ _) _
  · refine h.backed hkeys ha _ hupdate ?_
    rintro c' ⟨⟩
    exact hc.failed

lemma Consistent.counters_succeeded (h : Consistent loginKey emails s)
    (hkeys : ∀ e ∈ emails, ∀ e' ∈ emails, loginKey e = loginKey e' → e = e')
    (ha : a.email ∈ emails) (o : Outcome) :
    ∀ email ∈ emails, ∀ c, ((s.limits.counters.allow (s.clock + a.elapsed) (loginKey a.email)
        maxLoginFailures loginWindowSize a.network).2.markSucceeded (loginKey a.email)
          a.network) (loginKey email) = some c →
      Backed 0 (s.log ++ [o]) (s.clock + a.elapsed) email c := by
  obtain ⟨hfailed, hsame⟩ | ⟨hcounted, c, hc, hupdate⟩ :=
    Counters.allow_spec (h.counters a.email ha) (Nat.le_add_right s.clock a.elapsed)
  · rw [hsame, Counters.markSucceeded, if_pos hfailed]
    exact fun email hemail c hc => (h.counters email hemail c hc).later (Nat.le_add_right _ _) _
  · rw [hupdate, Counters.markSucceeded, if_neg hcounted, Function.update_self,
      Function.update_idem]
    refine h.backed hkeys ha _ rfl ?_
    rintro c' ⟨⟩
    exact hc.succeeded o

lemma LoginRateLimiter.Supports.succeed {l : LoginRateLimiter}
    (h : Supports (log ++ [⟨email, now, false⟩]) now l) :
    Supports (log ++ [⟨email, now, true⟩]) now (l.recordSuccess email) := by
  intro k w hw
  rw [recordSuccess, window?_erase] at hw
  split at hw
  · cases hw
  · next hne =>
    have hold := h k w hw
    refine ⟨hold.started, hold.recent, ?_, hold.within, hold.blocked⟩
    have hcounted := hold.counted
    rw [failuresSince_concat, if_neg (fun hk => hne hk.1.symm)] at hcounted
    rw [failuresSince_concat, if_neg (fun hk => hne hk.1.symm)]
    exact hcounted

lemma Consistent.next (h : Consistent loginKey emails s)
    (hkeys : ∀ e ∈ emails, ∀ e' ∈ emails, loginKey e = loginKey e' → e = e')
    (ha : a.email ∈ emails) (hregular : s.Regular loginKey a) :
    Consistent loginKey emails (s.next loginKey a) := by
  have hfailed := h.counters_failed hkeys ha
  have hsucceeded := h.counters_succeeded hkeys ha ⟨a.email, s.clock + a.elapsed, true⟩
  have hmemory := h.memory.allow (Nat.le_add_right s.clock a.elapsed) hregular.block
  unfold State.next State.check Limits.check
  generalize s.limits.counters.allow (s.clock + a.elapsed) (loginKey a.email) maxLoginFailures
    loginWindowSize a.network = distributed at hfailed hsucceeded
  generalize s.limits.memory.allow (s.clock + a.elapsed) a.email = local' at hmemory
  obtain ⟨refusal, counters⟩ := distributed
  obtain ⟨allowed, memory⟩ := local'
  cases refusal with
  | some retryAfter =>
    exact ⟨fun k w hw => (h.memory k w hw).later (Nat.le_add_right _ _) _, hfailed⟩
  | none =>
    cases allowed with
    | false => exact ⟨hmemory, hfailed⟩
    | true =>
      cases hsucceeds : a.succeeds with
      | false => exact ⟨hmemory, hfailed⟩
      | true => exact ⟨hmemory.succeed, hsucceeded⟩

lemma Consistent.earned (h : Consistent loginKey emails s) (ha : a.email ∈ emails)
    (hregular : s.Regular loginKey a) : s.Earned loginKey a := by
  intro refusal hrefusal
  unfold State.check Limits.check at hrefusal
  split at hrefusal
  · next retryAfter counters hallow =>
    have hsome := congrArg Prod.fst hallow
    obtain ⟨c, hc, hcount⟩ := Counters.current_of_allow hsome (by decide)
    obtain ⟨hexpires, henough⟩ := hregular.counter c hc hcount
    obtain ⟨hc, hlive⟩ := Option.filter_eq_some_iff.mp hc
    obtain ⟨d, hd⟩ := Option.ne_none_iff_exists'.mp hexpires
    -- The counter was made within the preceding window.
    have hbefore : s.clock + a.elapsed < d := by simpa [hd] using hlive
    obtain ⟨hstarted, -, hbacked⟩ := h.counters a.email ha c hc d hd
    have hfailures : maxLoginFailures ≤ failuresSince s.log a.email (d - loginWindowSize) := by
      omega
    exact hfailures.trans (failuresSince_anti (by omega) _ _)
  · split at hrefusal
    · next memory hallow => exact h.memory.earned hregular.block (congrArg Prod.fst hallow)
    · cases hrefusal

end

/-- **Lockout is earned.** In a run without irregular attempts, every refusal of an email comes
after enough unsuccessful attempts for it within the preceding window and block. -/
theorem earned_of_allowed (loginKey : String → κ) (attempts : List Attempt)
    (hkeys : ∀ a ∈ attempts, ∀ b ∈ attempts, loginKey a.email = loginKey b.email →
      a.email = b.email)
    (hregular : Lib.Allowed (State.next loginKey) (State.Regular loginKey) {} attempts) :
    Lib.Allowed (State.next loginKey) (State.Earned loginKey) {} attempts := by
  have hrun (s : State κ) (rest : List Attempt) (hsub : rest ⊆ attempts)
      (h : Consistent loginKey { e | ∃ a ∈ attempts, a.email = e } s)
      (hregular : Lib.Allowed (State.next loginKey) (State.Regular loginKey) s rest) :
      Lib.Allowed (State.next loginKey) (State.Earned loginKey) s rest := by
    induction rest generalizing s with
    | nil => trivial
    | cons a rest ih =>
      obtain ⟨ha, hrest⟩ := List.cons_subset.mp hsub
      have hemail : a.email ∈ { e | ∃ a ∈ attempts, a.email = e } := ⟨a, ha, rfl⟩
      refine ⟨h.earned hemail hregular.1, ih _ hrest (h.next ?_ hemail hregular.1) hregular.2⟩
      rintro _ ⟨b, hb, rfl⟩ _ ⟨c, hc, rfl⟩ heq
      exact hkeys b hb c hc heq
  exact hrun {} attempts (List.Subset.refl _) .init hregular

instance (loginKey : String → κ) (s : State κ) (a : Attempt) : Decidable (s.Regular loginKey a) :=
  decidable_of_iff ((∀ c ∈ s.limits.counters.current (s.clock + a.elapsed) (loginKey a.email),
      maxLoginFailures ≤ c.count → c.deadline ≠ none ∧ maxLoginFailures + c.succeeded ≤ c.count) ∧
    ∀ w ∈ s.limits.memory.window? a.email, w.blockedUntil ≠ some (s.clock + a.elapsed))
    ⟨fun h => ⟨h.1, h.2⟩, fun h => ⟨h.counter, h.block⟩⟩

/-- Seven mistyped passwords, a minute apart. -/
def sevenFailures : List Attempt := List.replicate 7 ⟨"ada@example.org", minute, {}, false⟩

/-- The sixth and the seventh are refused, after five. -/
theorem earned_sevenFailures :
    ((sevenFailures.foldl (State.next id) {}).check id ⟨"ada@example.org", 0, {}, false⟩).1 ≠ none ∧
      Lib.Allowed (State.next id) (State.Earned id) {} sevenFailures :=
  ⟨by decide +kernel, earned_of_allowed id sevenFailures (by decide) (by decide +kernel)⟩

/-- A user logs in six times within the window. -/
def sixLogins : List Attempt :=
  List.replicate 6 ⟨"ada@example.org", minute, {}, true⟩

/-- Five failed attempts, the first with an EXPIRE that does not reach Redis, and one the day
after. -/
def lostExpire : List Attempt :=
  ⟨"ada@example.org", 0, { expire := false }, false⟩ ::
    (List.replicate 4 ⟨"ada@example.org", minute, {}, false⟩ ++
      [⟨"ada@example.org", 24 * 60 * minute, {}, true⟩])

theorem refused_without_failures :
    ¬ Lib.Allowed (State.next id) (State.Earned id) {} sixLogins ∧
      ¬ Lib.Allowed (State.next id) (State.Earned id) {} lostExpire := by
  constructor
  · rintro ⟨-, -, -, -, -, hlast, -⟩
    exact absurd (hlast (.distributed loginWindowSize) (by decide)) (by decide)
  · rintro ⟨-, -, -, -, -, hlast, -⟩
    exact absurd (hlast (.distributed loginWindowSize) (by decide)) (by decide)

end Paryty.Auth.LoginLimits

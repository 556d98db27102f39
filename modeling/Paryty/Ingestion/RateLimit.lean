import Mathlib.Algebra.Order.Field.Rat
import Mathlib.Logic.Function.Basic
import Mathlib.Tactic.Ring
import Paryty.Lib.TokenBucket

/-!
# The rate limit of the ingestion

`RateLimiter` of `cluster/internal/api/ingestion/ratelimit.go`: a token bucket per tenant, made at
its first call, refilled when it is asked, and removed by the cleanup once it has not been used for
a while. Times are rational numbers of seconds.

* `decisions` are the answers of `Allow` over a sequence of calls and cleanups.
* `sharedDecisions` are those of one bucket per tenant that is there from the start and never
  removed. `decisions_eq`: they are the same. A bucket that the cleanup removes is full by then, and
  full is what it is made again.
* `rateLimited_newRateLimiter`: the bound over any interval, the recovery, and what the answers do
  not depend on.
-/

namespace Paryty.Ingestion

open Lib (TokenBucket)

/-- `staleThreshold`, in seconds. -/
def staleThreshold : ℚ := 10 * 60

/-- A per-tenant token bucket. -/
structure Bucket where
  tokens : ℚ
  maxTokens : ℚ
  lastRefill : ℚ
  lastAccess : ℚ
deriving DecidableEq

/-- Per-tenant token-bucket rate limiting. `NewRateLimiter` makes no other limits than positive
ones. -/
structure RateLimiter where
  buckets : String → Option Bucket := fun _ => none
  maxPerMinute : ℤ
  pos : 0 < maxPerMinute

/-- The limiter that allows `maxPerMinute` requests per tenant per minute. -/
def newRateLimiter (maxPerMinute : ℤ) : RateLimiter :=
  if h : maxPerMinute ≤ 0 then { maxPerMinute := 10000, pos := by decide }
  else { maxPerMinute, pos := not_le.mp h }

/-- A call of `Allow`, or a cleanup, at a time. -/
inductive Event
  | allow (tenantID : String) (now : ℚ)
  | cleanup (now : ℚ)
deriving DecidableEq

/-- The answer to a call. -/
structure Decision where
  tenantID : String
  time : ℚ
  allowed : Bool
deriving DecidableEq

namespace Event

def time : Event → ℚ
  | allow _ now => now
  | cleanup now => now

/-- A call of the tenant. -/
def isOf (tenantID : String) : Event → Bool
  | allow tenantID' _ => tenantID' = tenantID
  | cleanup _ => false

def isCleanup : Event → Bool
  | allow _ _ => false
  | cleanup _ => true

end Event

namespace RateLimiter

/-- The tokens of a full bucket. -/
def burst (rl : RateLimiter) : ℚ := rl.maxPerMinute

/-- The tokens that a bucket gains per second. -/
def rate (rl : RateLimiter) : ℚ := (rl.maxPerMinute : ℚ) / 60

/-- `buckets.Store`. -/
def store (rl : RateLimiter) (tenantID : String) (bucket : Bucket) : RateLimiter :=
  { rl with buckets := Function.update rl.buckets tenantID (some bucket) }

/-- The bucket for the tenant, a full one if there is none. -/
def getOrCreateBucket (rl : RateLimiter) (now : ℚ) (tenantID : String) : Bucket × RateLimiter :=
  match rl.buckets tenantID with
  | some bucket => (bucket, rl)
  | none =>
    let bucket : Bucket :=
      { tokens := rl.maxPerMinute, maxTokens := rl.maxPerMinute, lastRefill := now,
        lastAccess := now }
    (bucket, rl.store tenantID bucket)

/-- Whether the tenant is allowed to proceed, and the limiter afterwards. -/
def allow (rl : RateLimiter) (now : ℚ) (tenantID : String) : Bool × RateLimiter :=
  let (bucket, rl) := rl.getOrCreateBucket now tenantID
  let elapsed := now - bucket.lastRefill
  let tokens := bucket.tokens + elapsed * ((rl.maxPerMinute : ℚ) / 60)
  let tokens := if tokens > bucket.maxTokens then bucket.maxTokens else tokens
  let bucket := { bucket with tokens, lastRefill := now, lastAccess := now }
  if tokens < 1 then (false, rl.store tenantID bucket)
  else (true, rl.store tenantID { bucket with tokens := tokens - 1 })

/-- Removes the buckets that have not been accessed within the threshold. -/
def cleanup (rl : RateLimiter) (now : ℚ) : RateLimiter :=
  { rl with buckets := fun tenantID =>
      (rl.buckets tenantID).filter fun bucket => ¬ now - bucket.lastAccess > staleThreshold }

/-- The limiter after a sequence of events. -/
def after (rl : RateLimiter) : List Event → RateLimiter
  | [] => rl
  | .allow tenantID now :: events => (rl.allow now tenantID).2.after events
  | .cleanup now :: events => (rl.cleanup now).after events

/-- The answers to the calls of a sequence of events. -/
def decisions (rl : RateLimiter) : List Event → List Decision
  | [] => []
  | .allow tenantID now :: events =>
    ⟨tenantID, now, (rl.allow now tenantID).1⟩ :: (rl.allow now tenantID).2.decisions events
  | .cleanup now :: events => (rl.cleanup now).decisions events

end RateLimiter

/-! ## One bucket for each tenant, at all times -/

section Shared

variable {burst rate : ℚ}

/-- The buckets after a sequence of events. -/
def sharedAfter (burst rate : ℚ) (bs : String → TokenBucket ℚ) :
    List Event → String → TokenBucket ℚ
  | [] => bs
  | .allow tenantID now :: events =>
    sharedAfter burst rate
      (Function.update bs tenantID ((bs tenantID).take burst rate now).2) events
  | .cleanup _ :: events => sharedAfter burst rate bs events

/-- The answers of the buckets. -/
def sharedDecisions (burst rate : ℚ) (bs : String → TokenBucket ℚ) : List Event → List Decision
  | [] => []
  | .allow tenantID now :: events =>
    ⟨tenantID, now, ((bs tenantID).take burst rate now).1⟩ ::
      sharedDecisions burst rate
        (Function.update bs tenantID ((bs tenantID).take burst rate now).2) events
  | .cleanup _ :: events => sharedDecisions burst rate bs events

/-- The times of the tenant's calls. -/
def callTimes (tenantID : String) (events : List Event) : List ℚ :=
  (events.filter (Event.isOf tenantID)).map Event.time

lemma sharedDecisions_filter_isCleanup (bs : String → TokenBucket ℚ) (events : List Event) :
    sharedDecisions burst rate bs (events.filter (fun e => !e.isCleanup)) =
      sharedDecisions burst rate bs events := by
  induction events generalizing bs with
  | nil => rfl
  | cons e events ih =>
    cases e with
    | cleanup now => exact ih _
    | allow tenantID now => exact congrArg (List.cons _) (ih _)

lemma sharedDecisions_filter_isOf (bs : String → TokenBucket ℚ) (tenantID : String)
    (events : List Event) :
    sharedDecisions burst rate bs (events.filter (Event.isOf tenantID)) =
      (sharedDecisions burst rate bs events).filter (fun d => d.tenantID = tenantID) := by
  suffices h : ∀ bs', bs' tenantID = bs tenantID →
      sharedDecisions burst rate bs' (events.filter (Event.isOf tenantID)) =
        (sharedDecisions burst rate bs events).filter (fun d => d.tenantID = tenantID) from h bs rfl
  induction events generalizing bs with
  | nil => exact fun _ _ => rfl
  | cons e events ih =>
    intro bs' hsame
    cases e with
    | cleanup now => exact ih _ bs' hsame
    | allow tenantID' now =>
      by_cases hof : tenantID' = tenantID
      · subst hof
        have hrest := ih (Function.update bs tenantID' ((bs tenantID').take burst rate now).2)
          (Function.update bs' tenantID' ((bs' tenantID').take burst rate now).2) (by simp [hsame])
        simp [Event.isOf, sharedDecisions, hsame, ← hrest]
      · have hrest := ih (Function.update bs tenantID' ((bs tenantID').take burst rate now).2)
          bs' (by rw [hsame, Function.update_of_ne (Ne.symm hof)])
        simp [Event.isOf, sharedDecisions, hof, ← hrest]

lemma countP_sharedDecisions (bs : String → TokenBucket ℚ) (tenantID : String) (s t : ℚ)
    (events : List Event) :
    (sharedDecisions burst rate bs events).countP
        (fun d => d.tenantID = tenantID ∧ s ≤ d.time ∧ d.time ≤ t ∧ d.allowed = true) =
      (bs tenantID).granted burst rate s t (callTimes tenantID events) := by
  induction events generalizing bs with
  | nil => rfl
  | cons e events ih =>
    cases e with
    | cleanup now => exact ih _
    | allow tenantID' now =>
      have hrest := ih (Function.update bs tenantID' ((bs tenantID').take burst rate now).2)
      rw [sharedDecisions, List.countP_cons, hrest]
      by_cases hof : tenantID' = tenantID
      · subst hof
        rw [Function.update_self, add_comm]
        simp [callTimes, Event.isOf, Event.time, TokenBucket.granted]
      · rw [Function.update_of_ne (Ne.symm hof)]
        simp [callTimes, Event.isOf, hof]

lemma map_allowed_sharedDecisions (bs : String → TokenBucket ℚ) (tenantID : String)
    (events : List Event) :
    ((sharedDecisions burst rate bs events).filter (fun d => d.tenantID = tenantID)).map
        Decision.allowed =
      (bs tenantID).answers burst rate (callTimes tenantID events) := by
  induction events generalizing bs with
  | nil => rfl
  | cons e events ih =>
    cases e with
    | cleanup now => exact ih _
    | allow tenantID' now =>
      have hrest := ih (Function.update bs tenantID' ((bs tenantID').take burst rate now).2)
      by_cases hof : tenantID' = tenantID
      · subst hof
        rw [Function.update_self] at hrest
        simp [sharedDecisions, callTimes, Event.isOf, Event.time, TokenBucket.answers, hrest]
      · rw [Function.update_of_ne (Ne.symm hof)] at hrest
        simp [sharedDecisions, callTimes, Event.isOf, hof, hrest]

lemma sharedAfter_cases (bs : String → TokenBucket ℚ) (hrate : 0 ≤ rate) {tenantID : String}
    {u : ℚ} {events : List Event} (hb : (bs tenantID).Valid burst)
    (hsorted : ((bs tenantID).updated :: callTimes tenantID events).Pairwise (· ≤ ·))
    (hcalls : ∀ now ∈ callTimes tenantID events, now ≤ u) :
    sharedAfter burst rate bs events tenantID = bs tenantID ∨
      ((sharedAfter burst rate bs events tenantID).Valid burst ∧
        (sharedAfter burst rate bs events tenantID).updated ≤ u) := by
  induction events generalizing bs with
  | nil => exact .inl rfl
  | cons e events ih =>
    cases e with
    | cleanup now => exact ih _ hb hsorted hcalls
    | allow tenantID' now =>
      have hrest := ih (Function.update bs tenantID' ((bs tenantID').take burst rate now).2)
      by_cases hof : tenantID' = tenantID
      · subst hof
        have hsplit : callTimes tenantID' (.allow tenantID' now :: events) =
            now :: callTimes tenantID' events := by simp [callTimes, Event.isOf, Event.time]
        rw [hsplit] at hcalls hsorted
        obtain ⟨hfirst, hlater⟩ := List.pairwise_cons.mp hsorted
        have hnext := hb.take hrate (hfirst now List.mem_cons_self)
        rw [Function.update_self, TokenBucket.updated_take] at hrest
        -- This call was the last one, or a later one was.
        rcases hrest hnext hlater fun x hx => hcalls x (List.mem_cons_of_mem _ hx) with hsame | hle
        · refine .inr ?_
          rw [sharedAfter, hsame]
          exact ⟨hnext, by simpa using hcalls now List.mem_cons_self⟩
        · exact .inr hle
      · have hsplit : callTimes tenantID (.allow tenantID' now :: events) =
            callTimes tenantID events := by simp [callTimes, Event.isOf, hof]
        rw [hsplit] at hcalls hsorted
        rw [Function.update_of_ne (Ne.symm hof)] at hrest
        exact hrest hb hsorted hcalls

end Shared

/-! ## The limiter and the buckets -/

/-- What the limiter holds for a tenant whose bucket would be `b`. Without one, `b` is full. -/
def Holds (burst rate now : ℚ) (b : TokenBucket ℚ) : Option Bucket → Prop
  | some bucket => bucket = ⟨b.level, burst, b.updated, b.updated⟩
  | none => burst ≤ b.level + (now - b.updated) * rate

/-- The limiter holds what is needed to answer like the buckets. -/
structure Shares (rl : RateLimiter) (bs : String → TokenBucket ℚ) (now : ℚ) : Prop where
  holds : ∀ tenantID, Holds rl.burst rl.rate now (bs tenantID) (rl.buckets tenantID)
  valid : ∀ tenantID, (bs tenantID).Valid rl.burst
  updated : ∀ tenantID, (bs tenantID).updated ≤ now

section Limiter

variable {rl : RateLimiter} {bs : String → TokenBucket ℚ} {b : TokenBucket ℚ} {now later : ℚ}
  {tenantID : String}

lemma rate_pos (rl : RateLimiter) : 0 < rl.rate := by
  have hpos : (0 : ℚ) < rl.maxPerMinute := by exact_mod_cast rl.pos
  exact div_pos hpos (by norm_num)

lemma Holds.mono {burst rate : ℚ} {bucket : Option Bucket} (h : Holds burst rate now b bucket)
    (hrate : 0 ≤ rate) (hlater : now ≤ later) : Holds burst rate later b bucket := by
  cases bucket with
  | some bucket => exact h
  | none =>
    have hgain : (now - b.updated) * rate ≤ (later - b.updated) * rate :=
      mul_le_mul_of_nonneg_right (by linarith) hrate
    have hfull : burst ≤ b.level + (now - b.updated) * rate := h
    exact hfull.trans (by linarith)

/-- `Allow` asks the tenant's bucket, and stores it. -/
lemma allow_eq (h : Holds rl.burst rl.rate now b (rl.buckets tenantID)) :
    (rl.allow now tenantID).1 = (b.take rl.burst rl.rate now).1 ∧
      (rl.allow now tenantID).2.maxPerMinute = rl.maxPerMinute ∧
      (rl.allow now tenantID).2.buckets = Function.update rl.buckets tenantID
        (some ⟨(b.take rl.burst rl.rate now).2.level, rl.burst, now, now⟩) := by
  have hcap (x : ℚ) : (if x > rl.burst then rl.burst else x) = min x rl.burst := by
    rw [min_def]
    split_ifs
    all_goals linarith
  cases hbucket : rl.buckets tenantID with
  | some bucket =>
    rw [hbucket] at h
    obtain rfl : bucket = ⟨b.level, rl.burst, b.updated, b.updated⟩ := h
    have havailable : (if b.level + (now - b.updated) * (rl.maxPerMinute / 60) > rl.burst
        then rl.burst else b.level + (now - b.updated) * (rl.maxPerMinute / 60)) =
          b.available rl.burst rl.rate now := hcap _
    unfold RateLimiter.allow RateLimiter.getOrCreateBucket
    simp only [hbucket, havailable, TokenBucket.take]
    split
    all_goals exact ⟨rfl, rfl, rfl⟩
  | none =>
    rw [hbucket] at h
    have hfull : rl.burst ≤ b.level + (now - b.updated) * rl.rate := h
    -- The bucket that is made now is as full as the other one.
    have havailable : (if (rl.maxPerMinute : ℚ) + (now - now) * (rl.maxPerMinute / 60) >
        rl.maxPerMinute then (rl.maxPerMinute : ℚ)
        else rl.maxPerMinute + (now - now) * (rl.maxPerMinute / 60)) =
          b.available rl.burst rl.rate now := by
      rw [TokenBucket.available, min_eq_right hfull, sub_self, zero_mul, add_zero]
      exact if_neg (lt_irrefl _)
    unfold RateLimiter.allow RateLimiter.getOrCreateBucket
    simp only [hbucket, RateLimiter.store, havailable, TokenBucket.take]
    split
    all_goals exact ⟨rfl, rfl, Function.update_idem _ _ _⟩

lemma Shares.allow (h : Shares rl bs now) (hlater : now ≤ later) :
    Shares (rl.allow later tenantID).2
      (Function.update bs tenantID ((bs tenantID).take rl.burst rl.rate later).2) later := by
  obtain ⟨-, hmax, hbuckets⟩ :=
    allow_eq ((h.holds tenantID).mono (rate_pos rl).le hlater)
  have hburst : (rl.allow later tenantID).2.burst = rl.burst := by
    simp only [RateLimiter.burst, hmax]
  have hrate : (rl.allow later tenantID).2.rate = rl.rate := by simp only [RateLimiter.rate, hmax]
  refine ⟨fun tenantID' => ?_, fun tenantID' => ?_, fun tenantID' => ?_⟩
  · rw [hburst, hrate, hbuckets]
    by_cases hof : tenantID' = tenantID
    · subst hof
      rw [Function.update_self, Function.update_self]
      simp [Holds]
    · rw [Function.update_of_ne hof, Function.update_of_ne hof]
      exact (h.holds tenantID').mono (rate_pos rl).le hlater
  · rw [hburst]
    by_cases hof : tenantID' = tenantID
    · subst hof
      rw [Function.update_self]
      exact (h.valid tenantID').take (rate_pos rl).le ((h.updated tenantID').trans hlater)
    · rw [Function.update_of_ne hof]
      exact h.valid tenantID'
  · by_cases hof : tenantID' = tenantID
    · subst hof
      rw [Function.update_self, TokenBucket.updated_take]
    · rw [Function.update_of_ne hof]
      exact (h.updated tenantID').trans hlater

lemma Shares.cleanup (h : Shares rl bs now) (hlater : now ≤ later) :
    Shares (rl.cleanup later) bs later := by
  refine ⟨fun tenantID => ?_, h.valid, fun tenantID => (h.updated tenantID).trans hlater⟩
  have hholds := (h.holds tenantID).mono (rate_pos rl).le hlater
  have hbucket : (rl.cleanup later).buckets tenantID = (rl.buckets tenantID).filter
      fun bucket => ¬ later - bucket.lastAccess > staleThreshold := rfl
  rw [hbucket]
  cases hold : rl.buckets tenantID with
  | none =>
    rw [hold] at hholds
    exact hholds
  | some bucket =>
    rw [hold] at hholds
    by_cases hstale : later - bucket.lastAccess > staleThreshold
    case neg =>
      rw [Option.filter_some, if_pos (by simpa using hstale)]
      exact hholds
    case pos =>
      obtain rfl : bucket = ⟨(bs tenantID).level, rl.burst, (bs tenantID).updated,
        (bs tenantID).updated⟩ := hholds
      have hidle : 60 ≤ later - (bs tenantID).updated :=
        (by norm_num [staleThreshold] : (60 : ℚ) ≤ staleThreshold).trans hstale.le
      have hgain : 60 * rl.rate ≤ (later - (bs tenantID).updated) * rl.rate :=
        mul_le_mul_of_nonneg_right hidle (rate_pos rl).le
      have hminute : 60 * rl.rate = rl.burst := by
        unfold RateLimiter.rate RateLimiter.burst
        ring
      have hlevel := (h.valid tenantID).nonneg
      have hfull : rl.burst ≤ (bs tenantID).level + (later - (bs tenantID).updated) * rl.rate := by
        linarith
      rw [Option.filter_some, if_neg fun hkept => (of_decide_eq_true hkept : ¬ _) hstale]
      exact hfull

lemma decisions_eq (h : Shares rl bs now) {events : List Event}
    (hsorted : (now :: events.map Event.time).Pairwise (· ≤ ·)) :
    rl.decisions events = sharedDecisions rl.burst rl.rate bs events := by
  induction events generalizing rl bs now with
  | nil => rfl
  | cons e events ih =>
    obtain ⟨hfirst, hrest⟩ := List.pairwise_cons.mp hsorted
    cases e with
    | cleanup later => exact ih (h.cleanup (hfirst later List.mem_cons_self)) hrest
    | allow tenantID later =>
      have hlater : now ≤ later := hfirst later List.mem_cons_self
      obtain ⟨hallowed, hmax, -⟩ := allow_eq ((h.holds tenantID).mono (rate_pos rl).le hlater)
      have hshares : Shares (rl.allow later tenantID).2 _ later := h.allow hlater
      have hnext := ih hshares hrest
      unfold RateLimiter.burst RateLimiter.rate at hnext
      rw [hmax] at hnext
      rw [RateLimiter.decisions, sharedDecisions, hallowed]
      exact congrArg (List.cons _) hnext

lemma decisions_append (rl : RateLimiter) (before after : List Event) :
    rl.decisions (before ++ after) = rl.decisions before ++ (rl.after before).decisions after := by
  induction before generalizing rl with
  | nil => rfl
  | cons e before ih =>
    cases e with
    | cleanup now => exact ih _
    | allow tenantID now => exact congrArg (List.cons _) (ih _)

lemma sharedDecisions_append {burst rate : ℚ} (bs : String → TokenBucket ℚ)
    (before after : List Event) :
    sharedDecisions burst rate bs (before ++ after) = sharedDecisions burst rate bs before ++
      sharedDecisions burst rate (sharedAfter burst rate bs before) after := by
  induction before generalizing bs with
  | nil => rfl
  | cons e before ih =>
    cases e with
    | cleanup now => exact ih _
    | allow tenantID now => exact congrArg (List.cons _) (ih _)

lemma decisions_after_eq (h : Shares rl bs now) {before after : List Event}
    (hsorted : (now :: (before ++ after).map Event.time).Pairwise (· ≤ ·)) :
    (rl.after before).decisions after =
      sharedDecisions rl.burst rl.rate (sharedAfter rl.burst rl.rate bs before) after := by
  have hall := decisions_eq h hsorted
  have hbefore : (now :: before.map Event.time).Pairwise (· ≤ ·) := by
    rw [List.map_append, ← List.cons_append] at hsorted
    exact (List.pairwise_append.mp hsorted).1
  rw [decisions_append, sharedDecisions_append, decisions_eq h hbefore] at hall
  exact List.append_cancel_left hall

end Limiter

/-! ## The limit -/

/-- What the answers of the limiter to a sequence of calls are like. -/
structure RateLimited (rl : RateLimiter) (events : List Event) : Prop where
  /-- In any interval a tenant is allowed no more calls than a full bucket and the refill. -/
  bounded : ∀ tenantID s t, s ≤ t → ((rl.decisions events).countP (fun d =>
    d.tenantID = tenantID ∧ s ≤ d.time ∧ d.time ≤ t ∧ d.allowed = true) : ℚ) ≤
      rl.burst + rl.rate * (t - s)
  /-- A tenant without calls after time `u`, until its bucket has had the time to fill, is allowed
  a full bucket of calls. -/
  recovers : ∀ before after, events = before ++ after → ∀ tenantID u,
    (∀ now ∈ callTimes tenantID before, now ≤ u) →
    (∀ now ∈ callTimes tenantID after, u + rl.burst / rl.rate ≤ now) →
      ∀ d ∈ (((rl.after before).decisions after).filter
        (fun d => d.tenantID = tenantID)).take rl.maxPerMinute.toNat, d.allowed = true
  /-- Without the cleanups the answers are the same. -/
  cleanup_unobservable : rl.decisions (events.filter (fun e => !e.isCleanup)) = rl.decisions events
  /-- The answers to a tenant are those to its calls alone. -/
  independent : ∀ tenantID, rl.decisions (events.filter (Event.isOf tenantID)) =
    (rl.decisions events).filter (fun d => d.tenantID = tenantID)

/-- The buckets of a limiter without any, from a time on. -/
def fullBuckets (rl : RateLimiter) (start : ℚ) (_ : String) : TokenBucket ℚ := ⟨rl.burst, start⟩

section Fresh

variable {rl : RateLimiter} {start : ℚ} {events : List Event}

lemma shares_fullBuckets (hnone : ∀ tenantID, rl.buckets tenantID = none) :
    Shares rl (fullBuckets rl start) start := by
  have hburst : (0 : ℚ) ≤ rl.burst := by
    have hpos : (0 : ℚ) < rl.maxPerMinute := by exact_mod_cast rl.pos
    exact hpos.le
  refine ⟨fun tenantID => ?_, fun _ => ⟨hburst, le_refl _⟩, fun _ => le_refl _⟩
  rw [hnone]
  simp [Holds, fullBuckets]

lemma pairwise_filter_time (hsorted : (start :: events.map Event.time).Pairwise (· ≤ ·))
    (p : Event → Bool) : (start :: (events.filter p).map Event.time).Pairwise (· ≤ ·) :=
  hsorted.sublist ((List.filter_sublist.map Event.time).cons_cons start)

lemma rateLimited_of_sorted (start : ℚ) (hnone : ∀ tenantID, rl.buckets tenantID = none)
    (hsorted : (start :: events.map Event.time).Pairwise (· ≤ ·)) : RateLimited rl events := by
  have hshares : Shares rl (fullBuckets rl start) start := shares_fullBuckets hnone
  have hrate := rate_pos rl
  refine ⟨?_, ?_, ?_, ?_⟩
  · intro tenantID s t hst
    rw [decisions_eq hshares hsorted, countP_sharedDecisions]
    exact TokenBucket.granted_le hrate.le (hshares.valid tenantID)
      (pairwise_filter_time hsorted (Event.isOf tenantID)) hst
  · rintro before after rfl tenantID u hbefore hafter d hd
    have hcalls := pairwise_filter_time hsorted (Event.isOf tenantID)
    rw [List.filter_append, List.map_append, ← List.cons_append] at hcalls
    obtain ⟨hearly, hlate, -⟩ := List.pairwise_append.mp hcalls
    have hstart : ∀ now ∈ callTimes tenantID after, start ≤ now := by
      intro now hnow
      refine (List.pairwise_cons.mp hsorted).1 now ?_
      rw [List.map_append, List.mem_append]
      exact .inr ((List.filter_sublist.map Event.time).subset hnow)
    have hburst : ((rl.maxPerMinute.toNat : ℕ) : ℚ) = rl.burst := by
      have hcast : ((rl.maxPerMinute.toNat : ℤ) : ℚ) = rl.maxPerMinute := by
        rw [Int.toNat_of_nonneg rl.pos.le]
      rwa [Int.cast_natCast] at hcast
    have hmem := List.mem_map_of_mem (f := Decision.allowed) hd
    rw [decisions_after_eq hshares hsorted, List.map_take, map_allowed_sharedDecisions] at hmem
    rcases sharedAfter_cases _ hrate.le (hshares.valid tenantID) hearly hbefore with hsame | hidle
    · -- The tenant has not called yet.
      refine TokenBucket.answers_take hrate.le hburst.le hlate (fun now hnow => ?_) _ hmem
      have hgain : 0 ≤ (now - start) * rl.rate :=
        mul_nonneg (sub_nonneg.mpr (hstart now hnow)) hrate.le
      rw [hburst, hsame]
      exact le_add_of_nonneg_right hgain
    · refine TokenBucket.answers_take_of_full hrate hidle.1 hburst.le hlate (fun now hnow => ?_)
        _ hmem
      linarith [hafter now hnow, hidle.2]
  · rw [decisions_eq hshares (pairwise_filter_time hsorted _), decisions_eq hshares hsorted,
      sharedDecisions_filter_isCleanup]
  · intro tenantID
    rw [decisions_eq hshares (pairwise_filter_time hsorted _), decisions_eq hshares hsorted,
      sharedDecisions_filter_isOf]

end Fresh

/-- For every limit, every sequence of calls and cleanups at non-decreasing times. -/
theorem rateLimited_newRateLimiter (maxPerMinute : ℤ) (events : List Event)
    (hsorted : (events.map Event.time).Pairwise (· ≤ ·)) :
    RateLimited (newRateLimiter maxPerMinute) events := by
  have hnone (tenantID : String) : (newRateLimiter maxPerMinute).buckets tenantID = none := by
    unfold newRateLimiter
    split
    all_goals rfl
  cases events with
  | nil => exact rateLimited_of_sorted 0 hnone (by simp)
  | cons e events =>
    refine rateLimited_of_sorted e.time hnone (List.pairwise_cons.mpr ⟨?_, hsorted⟩)
    intro now hnow
    rcases List.mem_cons.mp hnow with rfl | hnow
    · exact le_refl _
    · exact (List.pairwise_cons.mp hsorted).1 now hnow

/-- A tenant with one call a minute: the second one meets a bucket that has been removed. -/
theorem rateLimited_newRateLimiter_one : RateLimited (newRateLimiter 1)
    [.allow "acme" 0, .cleanup 900, .allow "acme" 901, .allow "acme" 901] :=
  rateLimited_newRateLimiter 1 _ (by decide)

end Paryty.Ingestion

import Mathlib.Data.Int.Notation
import Mathlib.Data.List.Induction
import Mathlib.Logic.Function.Basic
import Mathlib.Tactic.Lemma

/-!
# The rate limits of tenants

`TenantRateLimiter` of `cluster/internal/security/middleware.go`. It counts the requests of a tenant
in buckets, by dividing the milliseconds of the clock by those of the window.

* `TenantRateLimiter.middleware` is one request; `serve` is a sequence of them.
* `passed_serve`: without errors, the first `limit` requests of each bucket pass.
* `sliding_iff`: no window has more than `limit` requests that pass, if and only if none has more
  than `limit` requests that are among the first of their buckets. A refusal always has enough
  requests in the window before it.

Times are in nanoseconds since the epoch.
-/

namespace Paryty.Security

/-- A millisecond. -/
def millisecond : ℕ := 1000000

/-- `TenantRateLimiter`. -/
structure TenantRateLimiter where
  limit : ℤ
  window : ℕ
deriving DecidableEq

/-- What becomes of an INCR. -/
inductive IncrReply
  | answered
  /-- It was carried out, but the reply got lost. -/
  | lost
  | failed
deriving DecidableEq

/-- A request, with what becomes of its commands to Dragonfly. -/
structure TenantRequest where
  /-- `plan.CtxTenantID`. -/
  tenant : Option String
  time : ℕ
  incr : IncrReply := .answered
  expire : Bool := true
deriving DecidableEq

/-- A counter with its expiry. -/
structure RateCounter where
  count : ℕ
  deadline : Option ℕ := none
deriving DecidableEq

/-- The counters. The key `ratelimit:%s:%d` has a tenant and a bucket. -/
abbrev RateCounters := String × ℕ → Option RateCounter

/-- INCR at some time. -/
def RateCounters.incr (counters : RateCounters) (now : ℕ) (key : String × ℕ) : RateCounter :=
  match (counters key).filter fun c => c.deadline.all (now < ·) with
  | none => { count := 1 }
  | some c => { c with count := c.count + 1 }

/-- What the middleware does with a request. -/
inductive RateResponse
  | next
  /-- Status 429, `RATE_LIMITED`: `rate limit exceeded: %d requests per %s`. -/
  | rateLimited (limit : ℤ) (window : ℕ)
deriving DecidableEq

namespace TenantRateLimiter

/-- The bucket of a time. -/
def bucket (rl : TenantRateLimiter) (time : ℕ) : ℕ :=
  time / millisecond / (rl.window / millisecond)

/-- `Middleware`. -/
def middleware (rl : TenantRateLimiter) (counters : RateCounters) (r : TenantRequest) :
    RateResponse × RateCounters :=
  match r.tenant with
  | none => (.next, counters)
  | some tenant =>
    let key := (tenant, rl.bucket r.time)
    let c := counters.incr r.time key
    match r.incr with
    | .failed => (.next, counters)
    | .lost => (.next, Function.update counters key (some c))
    | .answered =>
      let c := if c.count = 1 ∧ r.expire then
        { c with deadline := some (r.time + rl.window) } else c
      (if (c.count : ℤ) > rl.limit then .rateLimited rl.limit rl.window else .next,
        Function.update counters key (some c))

/-- The counters, and the requests with the responses to them. -/
structure State where
  counters : RateCounters := fun _ => none
  log : List (TenantRequest × RateResponse) := []

/-- One request. -/
def step (rl : TenantRateLimiter) (s : State) (r : TenantRequest) : State where
  counters := (rl.middleware s.counters r).2
  log := s.log ++ [(r, (rl.middleware s.counters r).1)]

/-- A sequence of requests. -/
def serve (rl : TenantRateLimiter) (rs : List TenantRequest) : State := rs.foldl rl.step {}

/-- The requests of a tenant that pass. -/
def passed (tenant : String) (log : List (TenantRequest × RateResponse)) : List TenantRequest :=
  (log.filter fun e => e.1.tenant = some tenant ∧ e.2 = .next).map Prod.fst

/-- The request falls into the window that starts at some time. -/
def inWindow (rl : TenantRateLimiter) (start : ℕ) (r : TenantRequest) : Bool :=
  start ≤ r.time && r.time < start + rl.window

/-- How many requests have the tenant and the bucket. -/
def counted (rl : TenantRateLimiter) (tenant : String) (b : ℕ) (rs : List TenantRequest) : ℕ :=
  (rs.filter fun r => r.tenant = some tenant ∧ rl.bucket r.time = b).length

/-- The requests of a tenant that are among the first `limit` of their buckets. -/
def firsts (rl : TenantRateLimiter) (tenant : String) :
    (before rs : List TenantRequest) → List TenantRequest
  | _, [] => []
  | before, r :: rs =>
    (if r.tenant = some tenant ∧ (rl.counted tenant (rl.bucket r.time) before : ℤ) < rl.limit then
      [r] else []) ++ rl.firsts tenant (before ++ [r]) rs

variable {rl : TenantRateLimiter} {tenant : String} {rs before : List TenantRequest}
  {r : TenantRequest} {b : ℕ}

/-! ## Buckets -/

/-- The length of a bucket. -/
def width (rl : TenantRateLimiter) : ℕ := millisecond * (rl.window / millisecond)

lemma width_le (rl : TenantRateLimiter) : rl.width ≤ rl.window := Nat.mul_div_le _ _

lemma width_pos (h : millisecond ≤ rl.window) : 0 < rl.width :=
  Nat.mul_pos (by decide) (Nat.div_pos h (by decide))

lemma bucket_eq (time : ℕ) : rl.bucket time = time / rl.width := Nat.div_div_eq_div_mul _ _ _

lemma bucket_le (rl : TenantRateLimiter) (time : ℕ) : rl.width * rl.bucket time ≤ time := by
  rw [bucket_eq]
  exact Nat.mul_div_le _ _

lemma lt_bucket (h : millisecond ≤ rl.window) (time : ℕ) :
    time < rl.width * rl.bucket time + rl.width := by
  rw [bucket_eq, ← Nat.mul_succ]
  exact Nat.lt_mul_div_succ _ (width_pos h)

/-! ## Counting -/

lemma serve_concat (rs : List TenantRequest) (r : TenantRequest) :
    rl.serve (rs ++ [r]) = rl.step (rl.serve rs) r := by
  unfold serve
  rw [List.foldl_append]
  rfl

lemma counted_concat (tenant : String) (b : ℕ) (rs : List TenantRequest) (r : TenantRequest) :
    rl.counted tenant b (rs ++ [r]) = rl.counted tenant b rs +
      if r.tenant = some tenant ∧ rl.bucket r.time = b then 1 else 0 := by
  unfold counted
  rw [List.filter_append, List.length_append, List.filter_cons, List.filter_nil]
  by_cases h : r.tenant = some tenant ∧ rl.bucket r.time = b <;> simp [h]

/-- The commands of the request are carried out. -/
def Answered (r : TenantRequest) : Prop := r.incr = .answered ∧ r.expire = true

/-- What is stored of a bucket that has so many requests: its counter does not expire before it
ends. -/
def Holds (rl : TenantRateLimiter) (b n : ℕ) (c : Option RateCounter) : Prop :=
  match c with
  | none => n = 0
  | some c => c.count = n ∧ 0 < n ∧ ∃ d, c.deadline = some d ∧ rl.width * b + rl.width ≤ d

lemma incr_spec {counters : RateCounters} {n : ℕ} (hwindow : millisecond ≤ rl.window)
    (hholds : rl.Holds (rl.bucket r.time) n (counters (tenant, rl.bucket r.time))) :
    (counters.incr r.time (tenant, rl.bucket r.time)).count = n + 1 ∧
      (n = 0 ∨ ∃ d, (counters.incr r.time (tenant, rl.bucket r.time)).deadline = some d ∧
        rl.width * rl.bucket r.time + rl.width ≤ d) := by
  unfold RateCounters.incr
  cases hc : counters (tenant, rl.bucket r.time) with
  | none =>
    rw [hc] at hholds
    obtain rfl : n = 0 := hholds
    exact ⟨rfl, .inl rfl⟩
  | some c =>
    rw [hc] at hholds
    obtain ⟨rfl, -, d, hd, hlate⟩ := hholds
    have hlive : c.deadline.all (r.time < ·) = true := by
      have hend := lt_bucket hwindow r.time
      simp only [hd, Option.all_some, decide_eq_true_eq]
      omega
    simp only [Option.filter_some, hlive, if_true]
    exact ⟨trivial, .inr ⟨d, hd, hlate⟩⟩

lemma middleware_answered {counters : RateCounters} (hr : Answered r)
    (htenant : r.tenant = some tenant) :
    rl.middleware counters r =
      let c := counters.incr r.time (tenant, rl.bucket r.time)
      (if (c.count : ℤ) > rl.limit then .rateLimited rl.limit rl.window else .next,
        Function.update counters (tenant, rl.bucket r.time) (some (if c.count = 1 then
          { c with deadline := some (r.time + rl.window) } else c))) := by
  unfold middleware
  simp only [htenant, hr.1, hr.2, and_true]
  split <;> rfl

lemma holds_middleware {counters : RateCounters} {n : ℕ} (hwindow : millisecond ≤ rl.window)
    (hr : Answered r) (hholds : rl.Holds b n (counters (tenant, b))) :
    rl.Holds b (n + if r.tenant = some tenant ∧ rl.bucket r.time = b then 1 else 0)
      ((rl.middleware counters r).2 (tenant, b)) := by
  cases htenant : r.tenant with
  | none =>
    have hsame : (rl.middleware counters r).2 = counters := by
      unfold middleware
      rw [htenant]
    rw [hsame]
    simpa using hholds
  | some own =>
  rw [middleware_answered hr htenant]
  by_cases hkey : own = tenant ∧ rl.bucket r.time = b
  case neg =>
    have hne : (tenant, b) ≠ (own, rl.bucket r.time) := fun h =>
      hkey ⟨(Prod.mk.inj h).1.symm, (Prod.mk.inj h).2.symm⟩
    simp only [Option.some.injEq, hkey, if_false, Nat.add_zero]
    rw [Function.update_of_ne hne]
    exact hholds
  case pos =>
    obtain ⟨rfl, rfl⟩ := hkey
    obtain ⟨hcount, hdeadline⟩ := incr_spec hwindow hholds
    simp only [true_and, if_true, Function.update_self]
    by_cases hfirst : n = 0
    · have hstart := bucket_le rl r.time
      have hwidth := width_le rl
      rw [if_pos (by omega)]
      exact ⟨hcount, by omega, _, rfl, by omega⟩
    · rw [if_neg (by omega)]
      exact ⟨hcount, by omega, hdeadline.resolve_left hfirst⟩

lemma holds_serve (hwindow : millisecond ≤ rl.window) (hrs : ∀ r ∈ rs, Answered r)
    (tenant : String) (b : ℕ) :
    rl.Holds b (rl.counted tenant b rs) ((rl.serve rs).counters (tenant, b)) := by
  induction rs using List.reverseRecOn with
  | nil => exact rfl
  | append_singleton rs r ih =>
    rw [serve_concat, counted_concat]
    exact holds_middleware hwindow (hrs r (by simp)) (ih fun r hr => hrs r (by simp [hr]))

/-! ## Responses -/

/-- A request of a tenant passes if there are fewer than `limit` before it in its bucket. -/
lemma next_iff (hwindow : millisecond ≤ rl.window) (hrs : ∀ r ∈ rs, Answered r) (hr : Answered r)
    (htenant : r.tenant = some tenant) :
    (rl.middleware (rl.serve rs).counters r).1 = .next ↔
      (rl.counted tenant (rl.bucket r.time) rs : ℤ) < rl.limit := by
  obtain ⟨hcount, -⟩ := incr_spec hwindow (holds_serve hwindow hrs tenant (rl.bucket r.time))
  rw [middleware_answered hr htenant]
  simp only [hcount]
  split
  case isTrue h => exact iff_of_false (fun h => nomatch h) (by omega)
  case isFalse h => exact iff_of_true rfl (by omega)

lemma firsts_concat (rl : TenantRateLimiter) (tenant : String) (before rs : List TenantRequest)
    (r : TenantRequest) :
    rl.firsts tenant before (rs ++ [r]) = rl.firsts tenant before rs ++
      if r.tenant = some tenant ∧
        (rl.counted tenant (rl.bucket r.time) (before ++ rs) : ℤ) < rl.limit then [r] else [] := by
  induction rs generalizing before with
  | nil => simp [firsts]
  | cons r' rs ih =>
    rw [List.cons_append, firsts, firsts, ih, List.append_assoc, List.append_assoc]
    rfl

lemma passed_serve (hwindow : millisecond ≤ rl.window) (hrs : ∀ r ∈ rs, Answered r)
    (tenant : String) : passed tenant (rl.serve rs).log = rl.firsts tenant [] rs := by
  induction rs using List.reverseRecOn with
  | nil => rfl
  | append_singleton rs r ih =>
    have hrs' : ∀ r ∈ rs, Answered r := fun r hr => hrs r (by simp [hr])
    rw [firsts_concat, List.nil_append, ← ih hrs', serve_concat]
    change ((( _ ++ _ : List _).filter _).map _) = _
    rw [List.filter_append, List.map_append]
    refine congrArg _ ?_
    rw [List.filter_cons, List.filter_nil]
    by_cases htenant : r.tenant = some tenant
    · simp only [htenant, true_and, next_iff hwindow hrs' (hrs r (by simp)) htenant]
      split <;> simp_all
    · simp [htenant]

/-! ## Windows -/

/-- No window has more than `limit` requests of the tenant that pass. A negative limit lets none
pass. -/
def Sliding (rl : TenantRateLimiter) (tenant : String) (rs : List TenantRequest) : Prop :=
  ∀ start, ((passed tenant (rl.serve rs).log).filter (rl.inWindow start)).length ≤ rl.limit.toNat

/-- A request of the tenant that does not pass has at least `limit` before it in its window. -/
def RefusesFairly (rl : TenantRateLimiter) (tenant : String) (rs : List TenantRequest) : Prop :=
  ∀ before r after, rs = before ++ r :: after → r.tenant = some tenant →
    (rl.middleware (rl.serve before).counters r).1 ≠ .next →
      rl.limit ≤ (before.filter fun r' =>
        r'.tenant = some tenant ∧ r'.time ≤ r.time ∧ r.time < r'.time + rl.window).length

lemma lt_add_window (hwindow : millisecond ≤ rl.window) {time time' : ℕ}
    (h : rl.bucket time' = rl.bucket time) : time < time' + rl.window := by
  have hstart := bucket_le rl time'
  have hend := lt_bucket hwindow time
  have hwidth := width_le rl
  rw [h] at hstart
  omega

lemma refusesFairly_serve (hwindow : millisecond ≤ rl.window) (hrs : ∀ r ∈ rs, Answered r)
    (hsorted : rs.Pairwise fun r r' => r.time ≤ r'.time) (tenant : String) :
    rl.RefusesFairly tenant rs := by
  rintro before r after rfl htenant hrefused
  have hfull : rl.limit ≤ rl.counted tenant (rl.bucket r.time) before := by
    have hlimit := mt (next_iff hwindow (fun r hr => hrs r (by simp [hr])) (hrs r (by simp))
      htenant).mpr hrefused
    omega
  refine Int.le_trans hfull (Int.ofNat_le.mpr ?_)
  unfold counted
  rw [← List.countP_eq_length_filter, ← List.countP_eq_length_filter]
  refine List.countP_mono_left fun r' hr' hsame => ?_
  have hearlier : r'.time ≤ r.time :=
    (List.pairwise_append.mp hsorted).2.2 r' hr' r List.mem_cons_self
  simp only [decide_eq_true_eq] at hsame ⊢
  exact ⟨hsame.1, hearlier, lt_add_window hwindow hsame.2⟩

/-- **The windows of a tenant.** No window has more than `limit` requests that pass, and every
refusal has at least `limit` requests in the window before it, if and only if no window has more
than `limit` requests that are among the first `limit` of their buckets. -/
theorem sliding_iff (rl : TenantRateLimiter) (hwindow : millisecond ≤ rl.window)
    (rs : List TenantRequest) (hrs : ∀ r ∈ rs, Answered r)
    (hsorted : rs.Pairwise fun r r' => r.time ≤ r'.time) (tenant : String) :
    rl.Sliding tenant rs ∧ rl.RefusesFairly tenant rs ↔
      ∀ start, ((rl.firsts tenant [] rs).filter (rl.inWindow start)).length ≤ rl.limit.toNat := by
  rw [and_iff_left (refusesFairly_serve hwindow hrs hsorted tenant), Sliding,
    passed_serve hwindow hrs]

/-- Of two requests a second: two in the first second, a third that is refused, and one in the next
second. -/
def acrossBoundary : List TenantRequest :=
  [0, 999, 999, 1000].map fun time => { tenant := "t1", time := time * millisecond }

theorem sliding_acrossBoundary :
    Sliding ⟨2, 1000 * millisecond⟩ "t1" acrossBoundary ∧
      RefusesFairly ⟨2, 1000 * millisecond⟩ "t1" acrossBoundary := by
  refine (sliding_iff ⟨2, 1000 * millisecond⟩ (by decide) _
    (by simp [acrossBoundary, Answered]) (by decide) "t1").mpr fun start => ?_
  have hfirsts : firsts ⟨2, 1000 * millisecond⟩ "t1" [] acrossBoundary =
      [0, 999, 1000].map fun time => { tenant := "t1", time := time * millisecond } := by decide
  rw [hfirsts]
  -- the first is a second before the last
  by_cases hstart : start = 0
  · subst hstart
    decide
  · rw [List.map_cons, List.filter_cons_of_neg (by simp [inWindow, hstart])]
    exact Nat.le_trans (List.length_filter_le _ _) (by decide)

/-- Two requests a millisecond apart, of one request per second, both pass. -/
theorem not_sliding_boundary :
    ¬ (Sliding ⟨1, 1000 * millisecond⟩ "t1"
        [{ tenant := "t1", time := 999 * millisecond },
          { tenant := "t1", time := 1000 * millisecond }] ∧
      RefusesFairly ⟨1, 1000 * millisecond⟩ "t1"
        [{ tenant := "t1", time := 999 * millisecond },
          { tenant := "t1", time := 1000 * millisecond }]) :=
  fun h => absurd (h.1 (999 * millisecond)) (by decide)

end TenantRateLimiter

end Paryty.Security

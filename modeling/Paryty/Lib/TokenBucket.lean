import Mathlib.Algebra.Order.Field.Basic
import Mathlib.Tactic.Linarith

/-!
# Token buckets

A bucket holds up to `burst` tokens and gains `rate` tokens per unit of time. It is refilled only
when it is asked for a token, which it grants if it holds one.

* `take`: the answer to one request, and the bucket after it.
* `answers`: the answers to requests at given times.
* `granted_le`: at most `burst + rate * (t - s)` requests are granted from time `s` to time `t`.
* `answers_take_of_full`: a bucket that has had the time to fill grants its whole burst.
-/

namespace Lib

/-- The tokens at the time of the last refill. -/
@[ext] structure TokenBucket (𝕜 : Type*) where
  level : 𝕜
  updated : 𝕜
deriving DecidableEq

namespace TokenBucket

variable {𝕜 : Type*} [Field 𝕜] [LinearOrder 𝕜]
variable {burst rate : 𝕜} {b : TokenBucket 𝕜} {now s t : 𝕜} {times : List 𝕜}

/-- The tokens at a time, before any is taken. -/
def available (burst rate : 𝕜) (b : TokenBucket 𝕜) (now : 𝕜) : 𝕜 :=
  min (b.level + (now - b.updated) * rate) burst

/-- A request for a token. -/
def take (burst rate : 𝕜) (b : TokenBucket 𝕜) (now : 𝕜) : Bool × TokenBucket 𝕜 :=
  if b.available burst rate now < 1 then (false, ⟨b.available burst rate now, now⟩)
  else (true, ⟨b.available burst rate now - 1, now⟩)

/-- The answers to requests at these times, in order. -/
def answers (burst rate : 𝕜) (b : TokenBucket 𝕜) : List 𝕜 → List Bool
  | [] => []
  | now :: times => (b.take burst rate now).1 :: (b.take burst rate now).2.answers burst rate times

/-- The number of requests granted from `s` to `t`. -/
def granted (burst rate : 𝕜) (b : TokenBucket 𝕜) (s t : 𝕜) : List 𝕜 → ℕ
  | [] => 0
  | now :: times =>
    (if s ≤ now ∧ now ≤ t ∧ (b.take burst rate now).1 = true then 1 else 0) +
      (b.take burst rate now).2.granted burst rate s t times

/-- The bucket has no debts and is not overfull. -/
structure Valid (burst : 𝕜) (b : TokenBucket 𝕜) : Prop where
  nonneg : 0 ≤ b.level
  le_burst : b.level ≤ burst

/-! ## One request -/

@[simp] lemma updated_take : (b.take burst rate now).2.updated = now := by
  unfold take
  split
  all_goals rfl

lemma level_take : (b.take burst rate now).2.level =
    b.available burst rate now - if (b.take burst rate now).1 then 1 else 0 := by
  unfold take
  split
  case isTrue => simp
  case isFalse => simp

lemma available_le_burst : b.available burst rate now ≤ burst := min_le_right _ _

lemma granted_of_lt (h : ∀ x ∈ times, t < x) : b.granted burst rate s t times = 0 := by
  induction times generalizing b with
  | nil => rfl
  | cons now times ih =>
    have hnow : ¬ now ≤ t := not_le.mpr (h now List.mem_cons_self)
    have hrest := ih (b := (b.take burst rate now).2) fun x hx => h x (List.mem_cons_of_mem _ hx)
    simp [granted, hnow, hrest]

lemma granted_cons_of_lt (hnow : t < now) (hsorted : (now :: times).Pairwise (· ≤ ·)) :
    b.granted burst rate s t (now :: times) = 0 := by
  refine granted_of_lt fun x hx => ?_
  rcases List.mem_cons.mp hx with rfl | hx
  · exact hnow
  · exact hnow.trans_le ((List.pairwise_cons.mp hsorted).1 x hx)

variable [IsStrictOrderedRing 𝕜]

lemma available_nonneg (hrate : 0 ≤ rate) (hb : b.Valid burst) (hnow : b.updated ≤ now) :
    0 ≤ b.available burst rate now := by
  have hgain : 0 ≤ (now - b.updated) * rate := mul_nonneg (sub_nonneg.mpr hnow) hrate
  exact le_min (add_nonneg hb.nonneg hgain) (hb.nonneg.trans hb.le_burst)

lemma Valid.take (hrate : 0 ≤ rate) (hb : b.Valid burst) (hnow : b.updated ≤ now) :
    (b.take burst rate now).2.Valid burst := by
  have hnonneg := available_nonneg hrate hb hnow
  have hle : b.available burst rate now ≤ burst := available_le_burst
  unfold TokenBucket.take
  split
  case isTrue => exact ⟨hnonneg, hle⟩
  case isFalse hone =>
    have hone' : 1 ≤ b.available burst rate now := not_lt.mp hone
    exact ⟨by simpa using hone', by simp only; linarith⟩

/-! ## The bound -/

lemma granted_le_level (hrate : 0 ≤ rate) (hb : b.Valid burst)
    (hsorted : (b.updated :: times).Pairwise (· ≤ ·)) (ht : b.updated ≤ t) :
    (b.granted burst rate s t times : 𝕜) ≤ b.level + (t - b.updated) * rate := by
  induction times generalizing b with
  | nil =>
    have hgain : 0 ≤ (t - b.updated) * rate := mul_nonneg (sub_nonneg.mpr ht) hrate
    have hlevel := hb.nonneg
    simp only [granted, Nat.cast_zero]
    linarith
  | cons now times ih =>
    obtain ⟨hfirst, hrest⟩ := List.pairwise_cons.mp hsorted
    have hnow := hfirst now List.mem_cons_self
    by_cases hlate : now ≤ t
    case neg =>
      have hgain : 0 ≤ (t - b.updated) * rate := mul_nonneg (sub_nonneg.mpr ht) hrate
      have hlevel := hb.nonneg
      rw [granted_cons_of_lt (not_le.mp hlate) hrest, Nat.cast_zero]
      linarith
    case pos =>
      have hnext := ih (hb.take hrate hnow) (by rwa [updated_take]) (by rwa [updated_take])
      rw [updated_take, level_take] at hnext
      have havailable : b.available burst rate now ≤ b.level + (now - b.updated) * rate :=
        min_le_left _ _
      -- One request costs at most one token.
      have hone : ((if s ≤ now ∧ now ≤ t ∧ (b.take burst rate now).1 = true then 1 else 0 : ℕ) : 𝕜) ≤
          if (b.take burst rate now).1 then 1 else 0 := by
        by_cases htaken : (b.take burst rate now).1 = true
        · simp only [htaken, if_true]
          split_ifs
          all_goals simp
        · simp [htaken]
      rw [granted, Nat.cast_add]
      linarith

/-- From any time to any later one, no more requests are granted than the burst and what the bucket
gains in between. -/
theorem granted_le (hrate : 0 ≤ rate) (hb : b.Valid burst)
    (hsorted : (b.updated :: times).Pairwise (· ≤ ·)) (hst : s ≤ t) :
    (b.granted burst rate s t times : 𝕜) ≤ burst + rate * (t - s) := by
  have hburst : 0 ≤ burst := hb.nonneg.trans hb.le_burst
  have hgain : 0 ≤ rate * (t - s) := mul_nonneg hrate (sub_nonneg.mpr hst)
  induction times generalizing b with
  | nil =>
    simp only [granted, Nat.cast_zero]
    linarith
  | cons now times ih =>
    obtain ⟨hfirst, hrest⟩ := List.pairwise_cons.mp hsorted
    have hnow := hfirst now List.mem_cons_self
    by_cases hearly : s ≤ now
    case neg =>
      have hnext := ih (hb.take hrate hnow) (by rwa [updated_take])
      simpa [granted, hearly] using hnext
    case pos =>
      by_cases hlate : now ≤ t
      case neg =>
        rw [granted_cons_of_lt (not_le.mp hlate) hrest, Nat.cast_zero]
        linarith
      case pos =>
        -- The first request of the interval meets at most a full bucket.
        have hnext := granted_le_level (s := s) (t := t) hrate (hb.take hrate hnow)
          (by rwa [updated_take] : ((b.take burst rate now).2.updated :: times).Pairwise (· ≤ ·))
          (by rwa [updated_take])
        rw [updated_take, level_take] at hnext
        have hfull : b.available burst rate now ≤ burst := available_le_burst
        have hshort : (t - now) * rate ≤ rate * (t - s) := by
          rw [mul_comm]
          exact mul_le_mul_of_nonneg_left (by linarith) hrate
        cases htaken : (b.take burst rate now).1 with
        | true =>
          simp only [htaken, if_true] at hnext
          simp only [granted, hearly, hlate, htaken, and_self, if_true, Nat.cast_add, Nat.cast_one]
          linarith
        | false =>
          simp only [htaken, Bool.false_eq_true, if_false] at hnext
          simp only [granted, hearly, hlate, htaken, Bool.false_eq_true, and_false, if_false,
            Nat.cast_add, Nat.cast_zero]
          linarith

/-! ## A full bucket -/

/-- A bucket that will have `n` tokens by the next request grants `n` requests in a row. -/
lemma answers_take (hrate : 0 ≤ rate) {n : ℕ} (hburst : (n : 𝕜) ≤ burst)
    (hsorted : times.Pairwise (· ≤ ·))
    (hn : ∀ now ∈ times, (n : 𝕜) ≤ b.level + (now - b.updated) * rate) :
    ∀ answer ∈ (b.answers burst rate times).take n, answer = true := by
  induction times generalizing b n with
  | nil => simp [answers]
  | cons now times ih =>
    cases n with
    | zero => simp
    | succ n =>
      obtain ⟨hfirst, hrest⟩ := List.pairwise_cons.mp hsorted
      rw [Nat.cast_add, Nat.cast_one] at hburst
      have hsome : (n : 𝕜) + 1 ≤ b.available burst rate now := by
        refine le_min ?_ hburst
        exact_mod_cast hn now List.mem_cons_self
      have hn0 : (0 : 𝕜) ≤ n := Nat.cast_nonneg n
      have hone : ¬ b.available burst rate now < 1 := not_lt.mpr (by linarith)
      have htake : b.take burst rate now = (true, ⟨b.available burst rate now - 1, now⟩) :=
        if_neg hone
      have hnext : ∀ answer ∈
          ((b.take burst rate now).2.answers burst rate times).take n, answer = true := by
        refine ih (by linarith) hrest fun x hx => ?_
        have hgain : 0 ≤ (x - now) * rate := mul_nonneg (sub_nonneg.mpr (hfirst x hx)) hrate
        rw [htake]
        linarith
      intro answer hanswer
      rw [answers, List.take_succ_cons, List.mem_cons] at hanswer
      rcases hanswer with rfl | hanswer
      · rw [htake]
      · exact hnext answer hanswer

/-- A bucket that is not asked for as long as it takes to fill it grants its whole burst. -/
theorem answers_take_of_full (hrate : 0 < rate) (hb : b.Valid burst) {n : ℕ}
    (hburst : (n : 𝕜) ≤ burst) (hsorted : times.Pairwise (· ≤ ·))
    (hidle : ∀ now ∈ times, b.updated + burst / rate ≤ now) :
    ∀ answer ∈ (b.answers burst rate times).take n, answer = true := by
  refine answers_take hrate.le hburst hsorted fun now hnow => ?_
  have htime : burst / rate ≤ now - b.updated := by linarith [hidle now hnow]
  have hgain : burst ≤ (now - b.updated) * rate := (div_le_iff₀ hrate).mp htime
  linarith [hb.nonneg]

end TokenBucket

end Lib

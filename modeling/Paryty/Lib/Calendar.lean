import Paryty.Lib.Decimal
import Mathlib.Tactic.IntervalCases

/-!
# The calendar

The date of a day, where days are counted from the first of January 1970, and the texts of dates
and times that Go writes. The calendar is the Gregorian one over all years.

The months are counted from March, so that the day that a leap year has more is the last of a year:
`yearStart` and `monthStart` are the days before a year and before a month.
-/

namespace Lib

/-- A date. -/
@[ext] structure Date where
  year : ℤ
  month : ℕ
  day : ℕ
deriving DecidableEq

namespace Calendar

/-- The day on which March of a year begins. Day 0 is the first of March of year 0. -/
def yearStart (y : ℤ) : ℤ := 365 * y + y / 4 - y / 100 + y / 400

/-- The day on which a month begins. Month 0 is March of year 0. -/
def monthStart (m : ℤ) : ℤ := yearStart (m / 12) + (153 * (m % 12) + 2) / 5

/-- The year, counted from March, that a day is in: the centuries of its four hundred years, the
leap cycles of its century and the years of its leap cycle. -/
def yearOf (z : ℤ) : ℤ :=
  let century := min (z % 146097 / 36524) 3
  let dayOfCentury := z % 146097 - 36524 * century
  let dayOfCycle := dayOfCentury % 1461
  400 * (z / 146097) + 100 * century + 4 * (dayOfCentury / 1461) + min (dayOfCycle / 365) 3

/-- The month that a day is in. -/
def monthOf (z : ℤ) : ℤ := 12 * yearOf z + (5 * (z - yearStart (yearOf z)) + 2) / 153

lemma yearStart_cycles {e c q r : ℤ} (hc : 0 ≤ c ∧ c ≤ 3) (hq : 0 ≤ q ∧ q ≤ 24)
    (hr : 0 ≤ r ∧ r ≤ 3) :
    yearStart (400 * e + 100 * c + 4 * q + r) = 146097 * e + 36524 * c + 1461 * q + 365 * r := by
  have hcycles : (400 * e + 100 * c + 4 * q + r) / 4 = 100 * e + 25 * c + q := by omega
  have hcenturies : (400 * e + 100 * c + 4 * q + r) / 100 = 4 * e + c := by omega
  have heras : (400 * e + 100 * c + 4 * q + r) / 400 = e := by omega
  rw [yearStart, hcycles, hcenturies, heras]
  ring

lemma lt_yearStart_succ {e c q r d : ℤ} (hc : 0 ≤ c ∧ c ≤ 3) (hq : 0 ≤ q ∧ q ≤ 24)
    (hr : 0 ≤ r ∧ r ≤ 3) (hd : d < 365 ∨ r = 3 ∧ d ≤ 365 ∧ (q = 24 → d = 365 → c = 3)) :
    146097 * e + 36524 * c + 1461 * q + 365 * r + d <
      yearStart (400 * e + 100 * c + 4 * q + r + 1) := by
  rcases lt_or_eq_of_le hr.2 with hlast | rfl
  · have hstart := yearStart_cycles (e := e) hc hq (r := r + 1) (by omega)
    rw [← add_assoc] at hstart
    omega
  rcases lt_or_eq_of_le hq.2 with hlast | rfl
  · have hstart := yearStart_cycles (e := e) hc (q := q + 1) (by omega) (r := 0) (by omega)
    have hyear : 400 * e + 100 * c + 4 * q + 3 + 1 = 400 * e + 100 * c + 4 * (q + 1) + 0 := by ring
    rw [hyear, hstart]
    omega
  rcases lt_or_eq_of_le hc.2 with hlast | rfl
  · have hstart := yearStart_cycles (e := e) (c := c + 1) (by omega) (q := 0) (by omega)
      (r := 0) (by omega)
    have hyear : 400 * e + 100 * c + 4 * 24 + 3 + 1 =
        400 * e + 100 * (c + 1) + 4 * 0 + 0 := by ring
    rw [hyear, hstart]
    omega
  · have hstart := yearStart_cycles (e := e + 1) (c := 0) (by omega) (q := 0) (by omega)
      (r := 0) (by omega)
    have hyear : 400 * e + 100 * 3 + 4 * 24 + 3 + 1 =
        400 * (e + 1) + 100 * 0 + 4 * 0 + 0 := by ring
    rw [hyear, hstart]
    omega

/-- A quotient that is cut off at `m`: what is left is less than the divisor, unless it was cut. -/
lemma min_ediv {n k m : ℤ} (hn : 0 ≤ n) (hk : 0 < k) (hm : 0 ≤ m) :
    (0 ≤ min (n / k) m ∧ min (n / k) m ≤ m) ∧ 0 ≤ n - k * min (n / k) m ∧
      (n - k * min (n / k) m < k ∨ min (n / k) m = m) := by
  have hrest : n - k * (n / k) = n % k := by rw [Int.emod_def]
  refine ⟨⟨le_min (Int.ediv_nonneg hn hk.le) hm, min_le_right _ _⟩, ?_⟩
  rcases le_total (n / k) m with h | h
  · rw [min_eq_left h, hrest]
    exact ⟨Int.emod_nonneg n hk.ne', .inl (Int.emod_lt_of_pos n hk)⟩
  · rw [min_eq_right h]
    have hle : k * m ≤ k * (n / k) := Int.mul_le_mul_of_nonneg_left h hk.le
    have hfloor : k * (n / k) ≤ n := Int.mul_ediv_self_le hk.ne'
    exact ⟨by omega, .inr rfl⟩

lemma yearOf_parts (z : ℤ) : ∃ e c q r d : ℤ, yearOf z = 400 * e + 100 * c + 4 * q + r ∧
    z = 146097 * e + 36524 * c + 1461 * q + 365 * r + d ∧ (0 ≤ c ∧ c ≤ 3) ∧ (0 ≤ q ∧ q ≤ 24) ∧
      (0 ≤ r ∧ r ≤ 3) ∧ 0 ≤ d ∧ (d < 365 ∨ r = 3 ∧ d ≤ 365 ∧ (q = 24 → d = 365 → c = 3)) := by
  unfold yearOf
  dsimp only
  have hera : 0 ≤ z % 146097 ∧ z % 146097 < 146097 ∧ z = 146097 * (z / 146097) + z % 146097 := by
    omega
  generalize z / 146097 = e, z % 146097 = n at hera
  obtain ⟨hn, hlast, rfl⟩ := hera
  obtain ⟨hc, hcentury, hcut⟩ := min_ediv hn (k := 36524) (m := 3) (by decide) (by decide)
  generalize min (n / 36524) 3 = c at hc hcentury hcut
  have hshort : n - 36524 * c < 36525 ∧ (n - 36524 * c = 36524 → c = 3) := by omega
  clear hcut hlast
  have hcycle : (0 ≤ (n - 36524 * c) / 1461 ∧ (n - 36524 * c) / 1461 ≤ 24) ∧
      0 ≤ (n - 36524 * c) % 1461 ∧ (n - 36524 * c) % 1461 < 1461 ∧
        n - 36524 * c = 1461 * ((n - 36524 * c) / 1461) + (n - 36524 * c) % 1461 := by
    omega
  generalize (n - 36524 * c) / 1461 = q, (n - 36524 * c) % 1461 = y at hcycle
  obtain ⟨hq, hy, hyear, hrest⟩ := hcycle
  obtain ⟨hr, hday, hcut⟩ := min_ediv hy (k := 365) (m := 3) (by decide) (by decide)
  generalize min (y / 365) 3 = r at hr hday hcut
  refine ⟨e, c, q, r, y - 365 * r, rfl, by omega, hc, hq, hr, hday, ?_⟩
  rcases hcut with hcut | rfl
  · exact .inl hcut
  · exact .inr ⟨rfl, by omega, fun _ _ => hshort.2 (by omega)⟩

lemma yearOf_spec (z : ℤ) : yearStart (yearOf z) ≤ z ∧ z ≤ yearStart (yearOf z) + 365 ∧
    z < yearStart (yearOf z + 1) := by
  obtain ⟨e, c, q, r, d, hyear, hz, hc, hq, hr, hpos, hd⟩ := yearOf_parts z
  have hnext := lt_yearStart_succ (e := e) hc hq hr hd
  rw [← hyear, ← hz] at hnext
  have hstart := yearStart_cycles (e := e) hc hq hr
  rw [← hyear] at hstart
  have hlength : d ≤ 365 := hd.elim (fun h => by omega) fun h => h.2.1
  exact ⟨by omega, by omega, hnext⟩

lemma monthOf_spec (z : ℤ) : monthStart (monthOf z) ≤ z ∧ z ≤ monthStart (monthOf z) + 30 ∧
    z < monthStart (monthOf z + 1) := by
  obtain ⟨hstart, hlength, hnext⟩ := yearOf_spec z
  obtain ⟨y, hy⟩ : ∃ y, y = yearOf z := ⟨_, rfl⟩
  obtain ⟨d, hd⟩ : ∃ d, d = z - yearStart y := ⟨_, rfl⟩
  obtain ⟨m, hm⟩ : ∃ m, m = (5 * d + 2) / 153 := ⟨_, rfl⟩
  rw [← hy] at hstart hlength hnext
  have hmonth : 0 ≤ m ∧ m ≤ 11 := by omega
  have hmonthOf : monthOf z = 12 * y + m := by rw [monthOf, ← hy, ← hd, ← hm]
  have hfirst : monthStart (12 * y + m) = yearStart y + (153 * m + 2) / 5 := by
    have hdiv : (12 * y + m) / 12 = y := by omega
    have hmod : (12 * y + m) % 12 = m := by omega
    rw [monthStart, hdiv, hmod]
  rw [hmonthOf]
  refine ⟨by omega, by omega, ?_⟩
  rcases lt_or_eq_of_le hmonth.2 with hlast | hlast
  · have hdiv : (12 * y + m + 1) / 12 = y := by omega
    have hmod : (12 * y + m + 1) % 12 = m + 1 := by omega
    rw [monthStart, hdiv, hmod]
    omega
  · have hdiv : (12 * y + m + 1) / 12 = y + 1 := by omega
    have hmod : (12 * y + m + 1) % 12 = 0 := by omega
    rw [monthStart, hdiv, hmod]
    omega

/-- The days of a month. -/
def daysIn (month : ℕ) (year : ℤ) : ℕ :=
  match month with
  | 2 => if year % 4 = 0 ∧ (year % 100 ≠ 0 ∨ year % 400 = 0) then 29 else 28
  | 4 | 6 | 9 | 11 => 30
  | _ => 31

lemma monthStart_cycle {q r : ℤ} (h : 0 ≤ r ∧ r < 12) :
    monthStart (12 * q + r) = yearStart q + (153 * r + 2) / 5 := by
  have hdiv : (12 * q + r) / 12 = q := by omega
  have hmod : (12 * q + r) % 12 = r := by omega
  rw [monthStart, hdiv, hmod]

lemma yearStart_succ (y : ℤ) : yearStart (y + 1) = yearStart y + 365 +
    if (y + 1) % 4 = 0 ∧ ((y + 1) % 100 ≠ 0 ∨ (y + 1) % 400 = 0) then 1 else 0 := by
  have hcycle : (y + 1) / 4 = y / 4 + if (y + 1) % 4 = 0 then 1 else 0 := by split <;> omega
  have hcentury : (y + 1) / 100 = y / 100 + if (y + 1) % 100 = 0 then 1 else 0 := by
    split <;> omega
  have hera : (y + 1) / 400 = y / 400 + if (y + 1) % 400 = 0 then 1 else 0 := by split <;> omega
  have hcycleOfCentury : (y + 1) % 100 = 0 → (y + 1) % 4 = 0 := by omega
  have hcenturyOfEra : (y + 1) % 400 = 0 → (y + 1) % 100 = 0 := by omega
  rw [yearStart, yearStart, hcycle, hcentury, hera]
  by_cases h4 : (y + 1) % 4 = 0
  · by_cases h100 : (y + 1) % 100 = 0
    · by_cases h400 : (y + 1) % 400 = 0
      · simp only [h4, h100, h400, if_true, ne_eq, not_true, or_true, and_true]
        ring
      · simp only [h4, h100, h400, if_true, if_false, ne_eq, not_true, or_false, and_false]
        ring
    · simp only [h4, h100, mt hcenturyOfEra h100, if_true, if_false, ne_eq, not_false_iff, or_false,
        and_true]
      ring
  · have h100 := mt hcycleOfCentury h4
    simp only [h4, h100, mt hcenturyOfEra h100, if_false, false_and]
    ring

lemma monthStart_succ (m : ℤ) : monthStart (m + 1) =
    monthStart m + daysIn (((m + 2) % 12).toNat + 1) ((m + 2) / 12) := by
  obtain ⟨q, r, hr, rfl⟩ : ∃ q r, (0 ≤ r ∧ r < 12) ∧ m = 12 * q + r :=
    ⟨m / 12, m % 12, by omega, by omega⟩
  have hmonth : (12 * q + r + 2) % 12 = (r + 2) % 12 := by omega
  rw [monthStart_cycle hr, hmonth]
  rcases lt_or_eq_of_le (Int.le_of_lt_add_one hr.2 : r ≤ 11) with hlast | rfl
  · have hnext := monthStart_cycle (q := q) (r := r + 1) (by omega)
    rw [← add_assoc] at hnext
    rw [hnext]
    have hdays (y : ℤ) : (153 * (r + 1) + 2) / 5 =
        (153 * r + 2) / 5 + daysIn (((r + 2) % 12).toNat + 1) y := by
      obtain ⟨h0, _⟩ := hr
      clear hnext hmonth
      interval_cases r <;> rfl
    rw [hdays, add_assoc]
  · -- February ends a year that is counted from March
    have hnext := monthStart_cycle (q := q + 1) (r := 0) (by omega)
    have hstart : 12 * q + 11 + 1 = 12 * (q + 1) + 0 := by ring
    have hyear : (12 * q + 11 + 2) / 12 = q + 1 := by omega
    rw [hstart, hnext, hyear, yearStart_succ]
    simp only [daysIn]
    split <;> simp <;> omega

lemma monthStart_le {m m' : ℤ} (h : m ≤ m') : monthStart m ≤ monthStart m' := by
  -- The induction is on the number of months between them.
  obtain ⟨n, rfl⟩ := Int.le.dest h
  clear h
  induction n with
  | zero => rw [Int.natCast_zero, Int.add_zero]
  | succ n ih =>
    have hnext := monthStart_succ (m + n)
    rw [Int.natCast_add, Int.natCast_one, ← Int.add_assoc]
    omega

end Calendar

open Calendar

namespace Date

/-- The date of a day. -/
def ofEpochDay (n : ℤ) : Date :=
  let z := n + 719468
  { year := (monthOf z + 2) / 12
    month := ((monthOf z + 2) % 12).toNat + 1
    day := (z - monthStart (monthOf z)).toNat + 1 }

/-- The day of a date. -/
def toEpochDay (d : Date) : ℤ := monthStart (12 * d.year + d.month - 3) + d.day - 1 - 719468

example : ofEpochDay 11016 = ⟨2000, 2, 29⟩ := by decide

theorem toEpochDay_ofEpochDay (n : ℤ) : (ofEpochDay n).toEpochDay = n := by
  obtain ⟨hstart, _, _⟩ := monthOf_spec (n + 719468)
  have hmonth : 12 * ((monthOf (n + 719468) + 2) / 12) +
      ((((monthOf (n + 719468) + 2) % 12).toNat + 1 : ℕ) : ℤ) - 3 = monthOf (n + 719468) := by omega
  simp only [toEpochDay, ofEpochDay]
  rw [hmonth]
  omega

theorem ofEpochDay_injective : Function.Injective ofEpochDay :=
  Function.LeftInverse.injective toEpochDay_ofEpochDay

lemma month_ofEpochDay (n : ℤ) : 1 ≤ (ofEpochDay n).month ∧ (ofEpochDay n).month ≤ 12 := by
  simp only [ofEpochDay]
  omega

lemma day_ofEpochDay (n : ℤ) : 1 ≤ (ofEpochDay n).day ∧ (ofEpochDay n).day ≤ 31 := by
  obtain ⟨_, hlength, _⟩ := monthOf_spec (n + 719468)
  simp only [ofEpochDay]
  omega

lemma day_le_daysIn (n : ℤ) :
    (ofEpochDay n).day ≤ daysIn (ofEpochDay n).month (ofEpochDay n).year := by
  obtain ⟨hstart, _, hnext⟩ := monthOf_spec (n + 719468)
  rw [monthStart_succ] at hnext
  simp only [ofEpochDay]
  omega

lemma ofEpochDay_lt {n n' : ℤ} (h : n < n') :
    (ofEpochDay n).year < (ofEpochDay n').year ∨ (ofEpochDay n).year = (ofEpochDay n').year ∧
      ((ofEpochDay n).month < (ofEpochDay n').month ∨
        (ofEpochDay n).month = (ofEpochDay n').month ∧
          (ofEpochDay n).day < (ofEpochDay n').day) := by
  obtain ⟨hstart, _, hnext⟩ := monthOf_spec (n + 719468)
  obtain ⟨hstart', _, hnext'⟩ := monthOf_spec (n' + 719468)
  have hmonths : monthOf (n + 719468) ≤ monthOf (n' + 719468) := by
    by_contra hlater
    have hmono : monthStart (monthOf (n' + 719468) + 1) ≤ monthStart (monthOf (n + 719468)) :=
      monthStart_le (by omega)
    omega
  simp only [ofEpochDay]
  rcases lt_or_eq_of_le hmonths with hlt | heq
  · omega
  · rw [← heq] at hstart' ⊢
    omega

end Date

/-! ## Texts -/

/-- The digits of a number, with zeros in front of it up to a number of digits. -/
def padded (digits n : ℕ) : Bytes := fixed (max digits (width n)) n

/-- A year, with four digits or more. -/
def formatYear (y : ℤ) : Bytes := if y < 0 then 45 :: padded 4 y.natAbs else padded 4 y.natAbs

/-- A date as `2006-01-02`. -/
def Date.format (d : Date) : Bytes :=
  formatYear d.year ++ (45 :: fixed 2 d.month ++ 45 :: fixed 2 d.day)

/-- A time of the day, which is a number of seconds, as `15:04:05`. -/
def formatClock (s : ℕ) : Bytes :=
  fixed 2 (s / 3600) ++ (58 :: fixed 2 (s / 60 % 60) ++ 58 :: fixed 2 (s % 60))

/-- A time in seconds, as `2006-01-02T15:04:05Z`. -/
def formatRFC3339 (s : ℤ) : Bytes :=
  (Date.ofEpochDay (s / 86400)).format ++ (84 :: formatClock (s % 86400).toNat ++ [90])

example : formatRFC3339 1000000000 = utf8 "2001-09-09T01:46:40Z" := by decide

lemma fixed_inj {w m n : ℕ} (hm : m < 10 ^ w) (hn : n < 10 ^ w) (h : fixed w m = fixed w n) :
    m = n := by
  have hread := foldlM_fixed 0 w m
  rw [h, foldlM_fixed, Nat.mod_eq_of_lt hm, Nat.mod_eq_of_lt hn] at hread
  simpa using hread.symm

lemma readNat_padded (digits n : ℕ) : readNat (padded digits n) = some n := by
  have hpos : padded digits n ≠ [] := by
    rw [← List.length_pos_iff, padded, length_fixed]
    exact lt_of_lt_of_le (Nat.succ_pos _) (le_max_right digits (width n))
  have hlt : n < 10 ^ max digits (width n) :=
    lt_of_lt_of_le (lt_pow_width n) (Nat.pow_le_pow_right (by norm_num) (le_max_right _ _))
  rw [readNat, if_neg hpos, padded, foldlM_fixed, Nat.mod_eq_of_lt hlt]
  simp

lemma readInt_formatYear (y : ℤ) : readInt (formatYear y) = some y := by
  unfold formatYear
  split
  case isTrue h =>
    rw [readInt, if_pos rfl, readNat_padded, Option.map_some]
    congr 1
    change -((y.natAbs : ℕ) : ℤ) = y
    omega
  case isFalse h =>
    cases htext : padded 4 y.natAbs with
    | nil =>
      have hread := readNat_padded 4 y.natAbs
      rw [htext] at hread
      cases hread
    | cons b text =>
      have hb : b ≠ 45 := by
        rintro rfl
        have hmem : (45 : UInt8) ∈ padded 4 y.natAbs := by
          rw [htext]
          exact List.mem_cons_self
        exact not_mem_fixed (.inl (by decide)) _ _ hmem
      rw [readInt, if_neg hb, ← htext, readNat_padded, Option.map_some]
      congr 1
      change ((y.natAbs : ℕ) : ℤ) = y
      omega

lemma formatYear_injective : Function.Injective formatYear := by
  intro y y' h
  have hread := readInt_formatYear y
  rw [h, readInt_formatYear] at hread
  exact (Option.some.inj hread).symm

/-- The date of a day can be read from its text. -/
theorem format_ofEpochDay_injective : Function.Injective fun n => (Date.ofEpochDay n).format := by
  intro n n' h
  obtain ⟨hyear, hrest⟩ := List.append_inj' h (by simp)
  obtain ⟨hmonth, hday⟩ := List.append_inj' (List.cons.inj hrest).2 (by simp)
  have hm := Date.month_ofEpochDay n
  have hm' := Date.month_ofEpochDay n'
  have hd := Date.day_ofEpochDay n
  have hd' := Date.day_ofEpochDay n'
  have hmonths := fixed_inj (by omega) (by omega) hmonth
  have hdays := fixed_inj (by omega) (by omega) (List.cons.inj hday).2
  exact Date.ofEpochDay_injective (Date.ext (formatYear_injective hyear) hmonths hdays)

lemma formatClock_inj {s s' : ℕ} (hs : s < 86400) (hs' : s' < 86400)
    (h : formatClock s = formatClock s') : s = s' := by
  obtain ⟨hhour, hrest⟩ := List.append_inj h (by simp)
  obtain ⟨hminute, hsecond⟩ := List.append_inj (List.cons.inj hrest).2 (by simp)
  have hhours := fixed_inj (by omega) (by omega) hhour
  have hminutes := fixed_inj (by omega) (by omega) hminute
  have hseconds := fixed_inj (by omega) (by omega) (List.cons.inj hsecond).2
  omega

/-- The second of a time can be read from its text. -/
theorem formatRFC3339_injective : Function.Injective formatRFC3339 := by
  intro s s' h
  obtain ⟨hdate, hrest⟩ := List.append_inj' h (by simp [formatClock])
  obtain ⟨hclock, _⟩ := List.append_inj' (List.cons.inj hrest).2 rfl
  have hday := format_ofEpochDay_injective hdate
  have hseconds := formatClock_inj (by omega) (by omega) hclock
  change s / 86400 = s' / 86400 at hday
  omega

lemma not_mem_formatYear {b : UInt8} (hb : b.toNat < 48 ∨ 57 < b.toNat) (hminus : b ≠ 45) (y : ℤ) :
    b ∉ formatYear y := by
  have hdigits : b ∉ padded 4 y.natAbs := not_mem_fixed hb _ _
  unfold formatYear
  split
  · rw [List.mem_cons, not_or]
    exact ⟨hminus, hdigits⟩
  · exact hdigits

/-- A time at the end of a text can be read, behind a byte that a year does not have. -/
theorem append_formatRFC3339_inj {b : UInt8} (hb : b.toNat < 48 ∨ 57 < b.toNat) (hminus : b ≠ 45)
    {text text' : Bytes} {s s' : ℤ}
    (h : text ++ b :: formatRFC3339 s = text' ++ b :: formatRFC3339 s') :
    text = text' ∧ s = s' := by
  -- the last bytes of the two times are as many, and what stands before them ends in a year
  have hsplit (text : Bytes) (s : ℤ) : ∃ y rest, formatRFC3339 s = formatYear y ++ rest ∧
      rest.length = 16 :=
    ⟨_, _, List.append_assoc _ _ _, by simp [formatClock]⟩
  obtain ⟨y, rest, htime, hlength⟩ := hsplit text s
  obtain ⟨y', rest', htime', hlength'⟩ := hsplit text' s'
  have hwhole : (text ++ b :: formatYear y) ++ rest = (text' ++ b :: formatYear y') ++ rest' := by
    rw [htime, htime'] at h
    simpa using h
  obtain ⟨hfront, hback⟩ := List.append_inj' hwhole (hlength.trans hlength'.symm)
  obtain ⟨rfl, hyear⟩ := append_cons_inj_last (not_mem_formatYear hb hminus y)
    (not_mem_formatYear hb hminus y') hfront
  exact ⟨rfl, formatRFC3339_injective (by rw [htime, htime', hyear, hback])⟩

/-! ## Texts of four-digit years -/

/-- The year has four digits. -/
def FourDigits (y : ℤ) : Prop := 0 ≤ y ∧ y < 10000

instance (y : ℤ) : Decidable (FourDigits y) := inferInstanceAs (Decidable (_ ∧ _))

/-- `time.Parse` with the layout `2006-01-02`. -/
def parseDate : Bytes → Option Date
  | [y₁, y₂, y₃, y₄, 45, m₁, m₂, 45, d₁, d₂] => do
    let year ← readNat [y₁, y₂, y₃, y₄]
    let month ← readNat [m₁, m₂]
    let day ← readNat [d₁, d₂]
    if (1 ≤ month ∧ month ≤ 12) ∧ 1 ≤ day ∧ day ≤ daysIn month year then some ⟨year, month, day⟩
    else none
  | _ => none

example : parseDate (utf8 "2024-02-30") = none := by decide

lemma readNat_fixed {w n : ℕ} (hw : 0 < w) (hn : n < 10 ^ w) : readNat (fixed w n) = some n := by
  have hne : fixed w n ≠ [] := by
    rw [← List.length_pos_iff, length_fixed]
    exact hw
  rw [readNat, if_neg hne, foldlM_fixed, Nat.mod_eq_of_lt hn]
  simp

lemma formatYear_of_fourDigits {y : ℤ} (hy : FourDigits y) : formatYear y = fixed 4 y.natAbs := by
  have hwidth : width y.natAbs ≤ 4 := by
    have hlog : Nat.log 10 y.natAbs < 4 := Nat.log_lt_of_lt_pow' (by norm_num) (by
      obtain ⟨h0, h1⟩ := hy
      omega)
    exact hlog
  rw [formatYear, if_neg (by exact not_lt.mpr hy.1), padded, max_eq_left hwidth]

/-- The text of a day can be parsed if its year has four digits. -/
theorem parseDate_format {n : ℤ} (hy : FourDigits (Date.ofEpochDay n).year) :
    parseDate (Date.ofEpochDay n).format = some (Date.ofEpochDay n) := by
  have hm := Date.month_ofEpochDay n
  have hd := Date.day_ofEpochDay n
  have hdays := Date.day_le_daysIn n
  have hyear : (((Date.ofEpochDay n).year.natAbs : ℕ) : ℤ) = (Date.ofEpochDay n).year := by
    obtain ⟨h0, _⟩ := hy
    omega
  have hreadYear := readNat_fixed (w := 4) (n := (Date.ofEpochDay n).year.natAbs) (by norm_num) (by
    obtain ⟨h0, h1⟩ := hy
    omega)
  have hreadMonth := readNat_fixed (w := 2) (n := (Date.ofEpochDay n).month) (by norm_num)
    (by omega)
  have hreadDay := readNat_fixed (w := 2) (n := (Date.ofEpochDay n).day) (by norm_num) (by omega)
  have hvalid : (1 ≤ (Date.ofEpochDay n).month ∧ (Date.ofEpochDay n).month ≤ 12) ∧
      1 ≤ (Date.ofEpochDay n).day ∧ (Date.ofEpochDay n).day ≤
        daysIn (Date.ofEpochDay n).month (Date.ofEpochDay n).year := ⟨hm, hd.1, hdays⟩
  rw [Date.format, formatYear_of_fourDigits hy]
  simp only [fixed, List.nil_append, List.cons_append] at hreadYear hreadMonth hreadDay ⊢
  rw [parseDate]
  simp only [hreadYear, hreadMonth, hreadDay, Option.bind_eq_bind, Option.bind_some, hyear,
    if_pos hvalid]

lemma parseDate_of_length {text : Bytes} (h : text.length ≠ 10) : parseDate text = none := by
  unfold parseDate
  split
  case h_1 => exact absurd rfl h
  case h_2 => rfl

/-- The text of a day cannot be parsed if its year does not have four digits. -/
theorem parseDate_format_of_not {n : ℤ} (hy : ¬ FourDigits (Date.ofEpochDay n).year) :
    parseDate (Date.ofEpochDay n).format = none := by
  refine parseDate_of_length ?_
  have hwidth : 10000 ≤ (Date.ofEpochDay n).year → 5 ≤ width (Date.ofEpochDay n).year.natAbs := by
    intro h
    by_contra hlt
    have hpow : (Date.ofEpochDay n).year.natAbs < 10 ^ 4 :=
      lt_of_lt_of_le (lt_pow_width _) (Nat.pow_le_pow_right (by norm_num) (by omega))
    omega
  rw [FourDigits] at hy
  simp only [Date.format, formatYear, padded, List.length_append, List.length_cons, length_fixed]
  split <;> simp only [List.length_cons, length_fixed] <;> omega

lemma append_lt_append {a b : Bytes} (hlength : a.length = b.length) (h : a < b) (x y : Bytes) :
    a ++ x < b ++ y := by
  induction a generalizing b with
  | nil =>
    obtain rfl := List.eq_nil_of_length_eq_zero hlength.symm
    exact absurd h (List.lt_irrefl [])
  | cons c a ih =>
    obtain ⟨c', b, rfl⟩ := List.exists_cons_of_length_eq_add_one hlength.symm
    rw [List.cons_append, List.cons_append, List.cons_lt_cons_iff]
    rcases List.cons_lt_cons_iff.mp h with hlt | ⟨rfl, hlt⟩
    · exact .inl hlt
    · exact .inr ⟨rfl, ih (Nat.succ.inj hlength) hlt⟩

lemma fixed_lt {w m n : ℕ} (hmn : m < n) (hn : n < 10 ^ w) : fixed w m < fixed w n := by
  induction w generalizing m n with
  | zero => omega
  | succ w ih =>
    rw [fixed, fixed]
    rcases lt_or_eq_of_le (Nat.div_le_div_right hmn.le : m / 10 ≤ n / 10) with hlt | heq
    · refine append_lt_append (by simp) (ih hlt ?_) _ _
      rw [pow_succ] at hn
      omega
    · rw [heq]
      refine List.append_left_lt (List.cons_lt_cons_iff.mpr (.inl ?_))
      rw [UInt8.lt_iff_toNat_lt, toNat_digit, toNat_digit]
      omega

/-- Days whose years have four digits are in the order of their texts. -/
theorem format_lt {n n' : ℤ} (h : n < n') (hy : FourDigits (Date.ofEpochDay n).year)
    (hy' : FourDigits (Date.ofEpochDay n').year) :
    (Date.ofEpochDay n).format < (Date.ofEpochDay n').format := by
  have hm := Date.month_ofEpochDay n'
  have hd := Date.day_ofEpochDay n'
  rw [Date.format, Date.format, formatYear_of_fourDigits hy, formatYear_of_fourDigits hy']
  rw [FourDigits] at hy hy'
  rcases Date.ofEpochDay_lt h with hyear | ⟨hyear, hmonth | ⟨hmonth, hday⟩⟩
  · exact append_lt_append (by simp) (fixed_lt (by omega) (by omega)) _ _
  · rw [hyear]
    refine List.append_left_lt (append_lt_append (by simp) ?_ _ _)
    exact List.cons_lt_cons_iff.mpr (.inr ⟨rfl, fixed_lt hmonth (by omega)⟩)
  · rw [hyear, hmonth]
    refine List.append_left_lt (List.append_left_lt ?_)
    exact List.cons_lt_cons_iff.mpr (.inr ⟨rfl, fixed_lt hday (by omega)⟩)

/-- Days before year 0 come before them. -/
theorem format_lt_of_neg {n n' : ℤ} (h : (Date.ofEpochDay n).year < 0)
    (hy' : FourDigits (Date.ofEpochDay n').year) :
    (Date.ofEpochDay n).format < (Date.ofEpochDay n').format := by
  rw [Date.format, Date.format, formatYear_of_fourDigits hy', formatYear, if_pos h]
  refine List.cons_lt_cons_iff.mpr (.inl ?_)
  rw [UInt8.lt_iff_toNat_lt, toNat_digit]
  exact Nat.lt_of_lt_of_le (by decide) (Nat.le_add_right 48 _)

end Lib

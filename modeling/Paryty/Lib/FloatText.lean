import Paryty.Lib.Decimal
import Paryty.Lib.Float64

/-!
# Floats as decimal texts

The binary floating-point formats and the shortest decimal of a float: of the decimals with the
fewest digits that round to the float, the nearest. `formatFloat` writes it without an exponent,
`readFloat` reads it back. Magnitudes that overflow are left out, as in rounding.

* `exists_accepts`: a float is a decimal itself, so there is a shortest one.
* `readsAs_formatFloat`: what is read from the text of a float rounds to that float.
-/

namespace Lib

open Float64 (roundEven)

/-! ## Formats -/

/-- A binary floating-point format. -/
structure BinaryFormat where
  precision : ℕ
  minExponent : ℤ
deriving DecidableEq

def binary64 : BinaryFormat := ⟨53, -1074⟩

def binary32 : BinaryFormat := ⟨24, -149⟩

variable (f : BinaryFormat)

/-- The exponent of the distance of two floats next to each other, around a number. -/
def BinaryFormat.exponent (x : ℚ) : ℤ := max (Int.log 2 |x| - (f.precision - 1)) f.minExponent

/-- The nearest float, to even. -/
def BinaryFormat.nearest (x : ℚ) : ℚ := roundEven (x / 2 ^ f.exponent x) * 2 ^ f.exponent x

/-- A float. -/
inductive Binary
  | nan
  | inf (negative : Bool)
  | finite (negative : Bool) (magnitude : ℚ) (nonneg : 0 ≤ magnitude)
      (rounded : f.nearest magnitude = magnitude)

lemma nearest_natCast {n : ℕ} (hn : n < 2 ^ 53) : binary64.nearest n = n := by
  have habs : |(n : ℤ)| < 2 ^ 53 := by
    rw [Nat.abs_cast]
    exact_mod_cast hn
  have hexp : binary64.exponent n = max (Int.log 2 |((n : ℤ) : ℚ)| - 52) (-1074) := by
    rw [BinaryFormat.exponent, binary64]
    norm_num
  have hnear := Float64.nearest_intCast habs
  rw [Float64.nearest, Float64.ulp, ← hexp] at hnear
  exact hnear

/-- The number that a constant of the program stands for. -/
def Binary.ofNat (n : ℕ) (hn : n < 2 ^ 53) : Binary binary64 :=
  .finite false n n.cast_nonneg (nearest_natCast hn)

variable {f} {x : ℚ}

lemma exists_decimal (hx : 0 ≤ x) (hround : f.nearest x = x) :
    ∃ num scale : ℕ, x = num / 10 ^ scale := by
  set m := roundEven (x / 2 ^ f.exponent x) with hm
  have hvalue : x = m * 2 ^ f.exponent x := hround.symm
  have hpow : (0 : ℚ) < 2 ^ f.exponent x := zpow_pos (by norm_num) _
  have hnonneg : 0 ≤ m := by
    have h : (0 : ℚ) ≤ m := by
      by_contra hneg
      have hprod := mul_neg_of_neg_of_pos (not_le.mp hneg) hpow
      rw [← hvalue] at hprod
      exact absurd hx (not_le.mpr hprod)
    exact_mod_cast h
  obtain ⟨k, hk⟩ := Int.eq_ofNat_of_zero_le hnonneg
  rw [hk, Int.cast_natCast] at hvalue
  rcases Int.le_total 0 (f.exponent x) with hexp | hexp
  · obtain ⟨e, he⟩ := Int.eq_ofNat_of_zero_le hexp
    refine ⟨k * 2 ^ e, 0, ?_⟩
    rw [hvalue, he, zpow_natCast]
    push_cast
    ring
  · obtain ⟨e, he⟩ := Int.eq_ofNat_of_zero_le (neg_nonneg.mpr hexp)
    refine ⟨k * 5 ^ e, e, ?_⟩
    have hneg : f.exponent x = -e := by omega
    have hten : (10 : ℚ) ^ e = 2 ^ e * 5 ^ e := by
      rw [← mul_pow]
      norm_num
    rw [hvalue, hneg, zpow_neg, zpow_natCast, hten]
    push_cast
    field_simp

/-! ## The shortest decimal -/

/-- The exponent of the last of `n + 1` digits. -/
def lastExponent (x : ℚ) (n : ℕ) : ℤ := Int.log 10 x - n

/-- The last of `n + 1` digits is a unit of this. -/
def scaled (x : ℚ) (n : ℕ) : ℚ := x / 10 ^ lastExponent x n

/-- The decimals with `n + 1` digits next to the number: the one below rounds to it. -/
def AcceptsBelow (f : BinaryFormat) (x : ℚ) (n : ℕ) : Prop :=
  f.nearest (⌊scaled x n⌋₊ * 10 ^ lastExponent x n) = x

/-- The one above rounds to it. -/
def AcceptsAbove (f : BinaryFormat) (x : ℚ) (n : ℕ) : Prop :=
  f.nearest ((⌊scaled x n⌋₊ + 1 : ℕ) * 10 ^ lastExponent x n) = x

instance : Decidable (AcceptsBelow f x n) := inferInstanceAs (Decidable (_ = _))

instance : Decidable (AcceptsAbove f x n) := inferInstanceAs (Decidable (_ = _))

lemma exists_accepts (hx : 0 ≤ x) (hround : f.nearest x = x) :
    ∃ n, AcceptsBelow f x n ∨ AcceptsAbove f x n := by
  obtain ⟨num, scale, hvalue⟩ := exists_decimal hx hround
  -- With so many digits the number is a multiple of its last digit.
  let n := (Int.log 10 x + scale).toNat
  refine ⟨n, .inl ?_⟩
  have hlast : lastExponent x n ≤ -scale := by
    unfold lastExponent
    omega
  obtain ⟨j, hj⟩ := Int.eq_ofNat_of_zero_le (show 0 ≤ -scale - lastExponent x n by omega)
  have hexp : lastExponent x n = -(scale + j : ℕ) := by
    push_cast
    omega
  have hscaled : scaled x n = (num * 10 ^ j : ℕ) := by
    rw [scaled, hexp, zpow_neg, zpow_natCast, div_inv_eq_mul, hvalue, pow_add]
    push_cast
    field_simp
  have hexact : ((⌊scaled x n⌋₊ : ℕ) : ℚ) * 10 ^ lastExponent x n = x := by
    rw [hscaled, Nat.floor_natCast, ← hscaled, scaled]
    exact div_mul_cancel₀ x (zpow_ne_zero _ (by norm_num))
  rw [AcceptsBelow, hexact, hround]

/-- The digits and the exponent of the shortest decimal. -/
def shortest (f : BinaryFormat) (x : ℚ) (h : ∃ n, AcceptsBelow f x n ∨ AcceptsAbove f x n) :
    ℕ × ℤ :=
  let n := Nat.find h
  let below := ⌊scaled x n⌋₊
  if AcceptsBelow f x n ∧ (AcceptsAbove f x n → roundEven (scaled x n) = below)
  then (below, lastExponent x n) else (below + 1, lastExponent x n)

lemma nearest_shortest (h : ∃ n, AcceptsBelow f x n ∨ AcceptsAbove f x n) :
    f.nearest ((shortest f x h).1 * 10 ^ (shortest f x h).2) = x := by
  have hfind := Nat.find_spec h
  unfold shortest
  dsimp only
  split
  case isTrue hbelow => exact hbelow.1
  case isFalse hbelow =>
    by_cases habove : AcceptsAbove f x (Nat.find h)
    · exact habove
    · have hb := hfind.resolve_right habove
      exact absurd ⟨hb, fun ha => absurd ha habove⟩ hbelow

/-! ## Texts -/

/-- Drop the zeros at the end of a fraction. -/
def dropZeros : (num scale : ℕ) → ℕ × ℕ
  | num, 0 => (num, 0)
  | num, scale + 1 => if num % 10 = 0 then dropZeros (num / 10) scale else (num, scale + 1)

lemma dropZeros_value (num scale : ℕ) :
    ((dropZeros num scale).1 : ℚ) / 10 ^ (dropZeros num scale).2 = num / 10 ^ scale := by
  induction scale generalizing num with
  | zero => rfl
  | succ scale ih =>
    unfold dropZeros
    split
    case isTrue h =>
      have hnum : (num : ℚ) = 10 * (num / 10 : ℕ) := by
        have hdiv : num = 10 * (num / 10) := by omega
        exact_mod_cast hdiv
      rw [ih, hnum, pow_succ]
      field_simp
    case isFalse => rfl

/-- A decimal with its exponent, as a number over a power of ten. -/
def toScaled (decimal : ℕ × ℤ) : ℕ × ℕ :=
  if 0 ≤ decimal.2 then (decimal.1 * 10 ^ decimal.2.toNat, 0)
  else dropZeros decimal.1 (-decimal.2).toNat

lemma toScaled_value (decimal : ℕ × ℤ) :
    ((toScaled decimal).1 : ℚ) / 10 ^ (toScaled decimal).2 = decimal.1 * 10 ^ decimal.2 := by
  unfold toScaled
  split
  case isTrue h =>
    obtain ⟨e, he⟩ := Int.eq_ofNat_of_zero_le h
    simp [he]
  case isFalse h =>
    obtain ⟨e, he⟩ := Int.eq_ofNat_of_zero_le (show 0 ≤ -decimal.2 by omega)
    have hexp : decimal.2 = -e := by omega
    have hnat : (-decimal.2).toNat = e := by omega
    rw [dropZeros_value, hnat, hexp, zpow_neg, zpow_natCast]
    exact div_eq_mul_inv _ _

/-- A float as text, without an exponent and with the fewest digits it takes. -/
def formatFloat : Binary f → Bytes
  | .nan => utf8 "NaN"
  | .inf negative => if negative then utf8 "-Inf" else utf8 "+Inf"
  | .finite negative magnitude nonneg rounded =>
    let decimal := toScaled (shortest f magnitude (exists_accepts nonneg rounded))
    let text := formatScaled decimal.1 decimal.2
    if negative then 45 :: text else text

/-- What a reader makes of the text of a float. -/
inductive FloatText
  | nan
  | inf (negative : Bool)
  | decimal (negative : Bool) (num scale : ℕ)
deriving DecidableEq

/-- Read the text of a float. -/
def readFloat (text : Bytes) : Option FloatText :=
  if text = utf8 "NaN" then some .nan
  else if text = utf8 "+Inf" then some (.inf false)
  else if text = utf8 "-Inf" then some (.inf true)
  else match text with
    | [] => none
    | b :: rest =>
      if b = 45 then (readScaled rest).map (fun d => .decimal true d.1 d.2)
      else (readScaled text).map (fun d => .decimal false d.1 d.2)

/-- The text stands for the float: it rounds to it. -/
def FloatText.ReadsAs : FloatText → Binary f → Prop
  | .nan, .nan => True
  | .inf negative, .inf negative' => negative = negative'
  | .decimal negative num scale, .finite negative' magnitude _ _ =>
    negative = negative' ∧ f.nearest (num / 10 ^ scale) = magnitude
  | _, _ => False

lemma formatScaled_ne (text : Bytes) (b : UInt8) (hmem : b ∈ text) (hb : 57 < b.toNat)
    (num scale : ℕ) : formatScaled num scale ≠ text := by
  intro h
  have hpoint : b ≠ 46 := by
    rintro rfl
    exact absurd hb (by decide)
  exact not_mem_formatScaled (.inr hb) hpoint num scale (h ▸ hmem)

lemma formatScaled_eq_cons (num scale : ℕ) :
    ∃ b text, formatScaled num scale = b :: text ∧ b ≠ 45 := by
  have hne : formatScaled num scale ≠ [] := by
    unfold formatScaled
    split <;> simp [formatNat_ne_nil]
  obtain ⟨b, text, h⟩ := List.exists_cons_of_ne_nil hne
  refine ⟨b, text, h, fun hb => ?_⟩
  have hmem : (45 : UInt8) ∈ formatScaled num scale := by
    rw [h, hb]
    exact List.mem_cons_self
  exact not_mem_formatScaled (.inl (by decide)) (by decide) _ _ hmem

lemma readFloat_decimal (negative : Bool) (num scale : ℕ) :
    readFloat (if negative then 45 :: formatScaled num scale else formatScaled num scale) =
      some (.decimal negative num scale) := by
  cases negative with
  | true =>
    have hnan : 45 :: formatScaled num scale ≠ utf8 "NaN" := by
      intro h
      exact absurd (List.cons.inj h).1 (by decide)
    have hpos : 45 :: formatScaled num scale ≠ utf8 "+Inf" := by
      intro h
      exact absurd (List.cons.inj h).1 (by decide)
    have hneg : 45 :: formatScaled num scale ≠ utf8 "-Inf" := by
      intro h
      exact formatScaled_ne (utf8 "Inf") 73 (by decide) (by decide) num scale
        (List.cons.inj h).2
    unfold readFloat
    rw [if_pos rfl, if_neg hnan, if_neg hpos, if_neg hneg]
    dsimp only
    rw [if_pos rfl, readScaled_formatScaled, Option.map_some]
  | false =>
    obtain ⟨b, text, hcons, hb⟩ := formatScaled_eq_cons num scale
    have hnan := formatScaled_ne (utf8 "NaN") 78 (by decide) (by decide) num scale
    have hpos := formatScaled_ne (utf8 "+Inf") 73 (by decide) (by decide) num scale
    have hneg := formatScaled_ne (utf8 "-Inf") 73 (by decide) (by decide) num scale
    have hread := readScaled_formatScaled num scale
    unfold readFloat
    rw [if_neg Bool.false_ne_true, if_neg hnan, if_neg hpos, if_neg hneg]
    rw [hcons] at hread ⊢
    dsimp only
    rw [if_neg hb, hread, Option.map_some]

/-- What is read from the text of a float rounds to it. -/
theorem readsAs_formatFloat (x : Binary f) :
    ∃ t, readFloat (formatFloat x) = some t ∧ t.ReadsAs x := by
  cases x with
  | nan => exact ⟨.nan, rfl, trivial⟩
  | inf negative =>
    refine ⟨.inf negative, ?_, rfl⟩
    cases negative <;> rfl
  | finite negative magnitude nonneg rounded =>
    let decimal := toScaled (shortest f magnitude (exists_accepts nonneg rounded))
    refine ⟨.decimal negative decimal.1 decimal.2, readFloat_decimal negative _ _, rfl, ?_⟩
    rw [toScaled_value, nearest_shortest]

/-- What the text of a float has: digits, a point, a minus and the letters of the special values. -/
lemma not_mem_formatFloat {b : UInt8} (hdigit : b.toNat < 48 ∨ 57 < b.toNat) (hpoint : b ≠ 46)
    (hletter : b ∉ utf8 "NaN+Inf-Inf") (x : Binary f) : b ∉ formatFloat x := by
  have hspecial : utf8 "NaN+Inf-Inf" = utf8 "NaN" ++ utf8 "+Inf" ++ utf8 "-Inf" := rfl
  rw [hspecial, List.mem_append, List.mem_append, not_or, not_or] at hletter
  obtain ⟨⟨hnan, hpos⟩, hneg⟩ := hletter
  cases x with
  | nan => exact hnan
  | inf negative =>
    cases negative with
    | true => exact hneg
    | false => exact hpos
  | finite negative magnitude nonneg rounded =>
    have hnumber (num scale : ℕ) : b ∉ formatScaled num scale :=
      not_mem_formatScaled hdigit hpoint num scale
    have hminus : b ≠ 45 := by
      rintro rfl
      exact hneg List.mem_cons_self
    unfold formatFloat
    dsimp only
    split
    · rw [List.mem_cons, not_or]
      exact ⟨hminus, hnumber _ _⟩
    · exact hnumber _ _

end Lib

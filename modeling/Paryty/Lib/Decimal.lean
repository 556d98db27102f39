import Paryty.Lib.Bytes
import Mathlib.Data.Nat.Log
import Mathlib.Tactic.Linarith
import Mathlib.Tactic.Ring

/-!
# Decimal numbers as byte strings

`fixed width n` is the last `width` digits of a number, `formatNat` and `formatInt` all of them.
`readNat` reads digits, and `readInt` an optional minus and digits.

`formatScaled num scale` is the number `num / 10 ^ scale` with its point; `readScaled` reads the
two numbers back.
-/

namespace Lib

/-! ## Digits -/

/-- The byte of a digit. -/
def digit (n : ℕ) : UInt8 := .ofNat (48 + n % 10)

/-- The value of a digit. -/
def readDigit (b : UInt8) : Option ℕ :=
  if 48 ≤ b.toNat ∧ b.toNat ≤ 57 then some (b.toNat - 48) else none

lemma toNat_digit (n : ℕ) : (digit n).toNat = 48 + n % 10 := by
  have hlt : 48 + n % 10 < 256 := by omega
  rw [digit, UInt8.toNat_ofNat']
  exact Nat.mod_eq_of_lt hlt

lemma readDigit_digit (n : ℕ) : readDigit (digit n) = some (n % 10) := by
  have h := toNat_digit n
  unfold readDigit
  rw [if_pos (by omega)]
  congr 1
  omega

lemma digit_ne {b : UInt8} (hb : b.toNat < 48 ∨ 57 < b.toNat) (n : ℕ) : digit n ≠ b := by
  intro h
  have hval := toNat_digit n
  rw [h] at hval
  omega

/-- The last `width` digits of a number. -/
def fixed : (width : ℕ) → ℕ → Bytes
  | 0, _ => []
  | width + 1, n => fixed width (n / 10) ++ [digit n]

@[simp] lemma length_fixed (width n : ℕ) : (fixed width n).length = width := by
  induction width generalizing n with
  | zero => rfl
  | succ width ih => simp [fixed, ih]

lemma not_mem_fixed {b : UInt8} (hb : b.toNat < 48 ∨ 57 < b.toNat) (width n : ℕ) :
    b ∉ fixed width n := by
  induction width generalizing n with
  | zero => exact List.not_mem_nil
  | succ width ih =>
    intro h
    rcases List.mem_append.mp h with h | h
    · exact ih (n / 10) h
    · exact digit_ne hb n (List.mem_singleton.mp h).symm

/-- One more digit of a number that is read. -/
def pushDigit (n : ℕ) (b : UInt8) : Option ℕ := (readDigit b).map (fun d => 10 * n + d)

lemma foldlM_fixed (start width n : ℕ) :
    (fixed width n).foldlM pushDigit start = some (start * 10 ^ width + n % 10 ^ width) := by
  induction width generalizing n with
  | zero => simp [fixed, Nat.mod_one]
  | succ width ih =>
    have hmod : n % 10 ^ (width + 1) = 10 * (n / 10 % 10 ^ width) + n % 10 := by
      rw [pow_succ', Nat.mod_mul]
      omega
    rw [fixed, List.foldlM_append, ih, hmod]
    simp only [List.foldlM_cons, List.foldlM_nil, Option.bind_eq_bind, Option.bind_some, pushDigit,
      readDigit_digit, Option.map_some, bind_pure]
    congr 1
    ring

/-! ## Natural numbers and integers -/

/-- How many digits a number has. -/
def width (n : ℕ) : ℕ := Nat.log 10 n + 1

/-- The digits of a number. -/
def formatNat (n : ℕ) : Bytes := fixed (width n) n

/-- Read a number. -/
def readNat (text : Bytes) : Option ℕ := if text = [] then none else text.foldlM pushDigit 0

lemma lt_pow_width (n : ℕ) : n < 10 ^ width n := Nat.lt_pow_succ_log_self (by norm_num) n

lemma formatNat_ne_nil (n : ℕ) : formatNat n ≠ [] := by
  have h : (formatNat n).length = width n := length_fixed _ _
  rw [← List.length_pos_iff, h]
  exact Nat.succ_pos _

theorem readNat_formatNat (n : ℕ) : readNat (formatNat n) = some n := by
  rw [readNat, if_neg (formatNat_ne_nil n), formatNat, foldlM_fixed,
    Nat.mod_eq_of_lt (lt_pow_width n)]
  simp

/-- The digits of an integer. -/
def formatInt (n : ℤ) : Bytes := if n < 0 then 45 :: formatNat n.natAbs else formatNat n.natAbs

lemma formatInt_natCast (n : ℕ) : formatInt n = formatNat n := by
  rw [formatInt, if_neg (by omega), Int.natAbs_natCast]

/-- Read an integer. -/
def readInt : Bytes → Option ℤ
  | [] => none
  | b :: text =>
    if b = 45 then (readNat text).map (fun n => -(Int.ofNat n))
    else (readNat (b :: text)).map Int.ofNat

lemma formatNat_eq_cons (n : ℕ) : ∃ b text, formatNat n = b :: text ∧ b ≠ 45 := by
  obtain ⟨b, text, h⟩ := List.exists_cons_of_ne_nil (formatNat_ne_nil n)
  refine ⟨b, text, h, fun hb => ?_⟩
  have hmem : (45 : UInt8) ∈ formatNat n := by
    rw [h, hb]
    exact List.mem_cons_self
  exact not_mem_fixed (.inl (by decide)) _ _ hmem

theorem readInt_formatInt (n : ℤ) : readInt (formatInt n) = some n := by
  unfold formatInt
  split
  case isTrue h =>
    rw [readInt, if_pos rfl, readNat_formatNat, Option.map_some]
    congr 1
    show -((n.natAbs : ℕ) : ℤ) = n
    omega
  case isFalse h =>
    obtain ⟨b, text, heq, hb⟩ := formatNat_eq_cons n.natAbs
    rw [heq, readInt, if_neg hb, ← heq, readNat_formatNat, Option.map_some]
    congr 1
    show ((n.natAbs : ℕ) : ℤ) = n
    omega

lemma not_mem_formatInt {b : UInt8} (hb : b.toNat < 48 ∨ 57 < b.toNat) (hminus : b ≠ 45) (n : ℤ) :
    b ∉ formatInt n := by
  have hdigits : b ∉ formatNat n.natAbs := not_mem_fixed hb _ _
  unfold formatInt
  split
  · rw [List.mem_cons, not_or]
    exact ⟨hminus, hdigits⟩
  · exact hdigits

/-! ## Numbers with a point -/

/-- The number `num / 10 ^ scale`. -/
def formatScaled (num scale : ℕ) : Bytes :=
  if scale = 0 then formatNat num
  else formatNat (num / 10 ^ scale) ++ 46 :: fixed scale (num % 10 ^ scale)

/-- Read digits, with a point or not: the number of the digits, and how many follow the point. -/
def readScaled (text : Bytes) : Option (ℕ × ℕ) :=
  match text.splitOn 46 with
  | [whole] => (readNat whole).map (fun n => (n, 0))
  | [whole, fraction] => (readNat (whole ++ fraction)).map (fun n => (n, fraction.length))
  | _ => none

lemma point_not_mem_fixed (width n : ℕ) : (46 : UInt8) ∉ fixed width n :=
  not_mem_fixed (.inl (by decide)) _ _

theorem readScaled_formatScaled (num scale : ℕ) :
    readScaled (formatScaled num scale) = some (num, scale) := by
  unfold formatScaled
  split
  case isTrue h =>
    have hpoint : (46 : UInt8) ∉ formatNat num := point_not_mem_fixed _ _
    rw [readScaled, List.splitOn_eq_singleton hpoint]
    simp only [readNat_formatNat, Option.map_some, h]
  case isFalse h =>
    have hwhole : (46 : UInt8) ∉ formatNat (num / 10 ^ scale) := point_not_mem_fixed _ _
    have hread : readNat (formatNat (num / 10 ^ scale) ++ fixed scale (num % 10 ^ scale)) =
        some num := by
      have hne : formatNat (num / 10 ^ scale) ++ fixed scale (num % 10 ^ scale) ≠ [] := by
        simp [formatNat_ne_nil]
      have hdiv := Nat.div_add_mod' num (10 ^ scale)
      rw [readNat, if_neg hne, List.foldlM_append, formatNat, foldlM_fixed,
        Nat.mod_eq_of_lt (lt_pow_width _)]
      simp only [Option.bind_eq_bind, Option.bind_some, foldlM_fixed, Nat.mod_mod]
      congr 1
      rw [Nat.zero_mul, Nat.zero_add]
      exact hdiv
    rw [readScaled, List.splitOn_append_cons_self_of_not_mem hwhole,
      List.splitOn_eq_singleton (point_not_mem_fixed _ _)]
    simp only [hread, Option.map_some, length_fixed]

lemma not_mem_formatScaled {b : UInt8} (hb : b.toNat < 48 ∨ 57 < b.toNat) (hpoint : b ≠ 46)
    (num scale : ℕ) : b ∉ formatScaled num scale := by
  unfold formatScaled
  split
  · exact not_mem_fixed hb _ _
  · rw [List.mem_append, List.mem_cons]
    rintro (h | h | h)
    · exact not_mem_fixed hb _ _ h
    · exact hpoint h
    · exact not_mem_fixed hb _ _ h

end Lib

import Mathlib.Algebra.Order.Ring.Int
import Mathlib.Data.List.Basic
import Mathlib.Tactic.Lemma

/-!
# Lines, words and numbers

Reading texts that a program prints in columns: `lines` and `words` undo joining by line feeds and
by blanks, `fromStrRadix16` reads what is printed by `hex`, a number with a fixed count of
hexadecimal digits. `of_mem_toString` is what a printed integer is made of.

Texts are lists of characters. `words` splits at ASCII white space.
-/

namespace Lib.Text

/-! ## Lines -/

/-- The line without the carriage return at its end. -/
def stripReturn (line : List Char) : List Char :=
  if line.getLast? = some '\r' then line.dropLast else line

/-- The lines of a text. A line feed at the end of the text ends the last line. -/
def lines (text : List Char) : List (List Char) :=
  (text.splitOn '\n').dropLast.map stripReturn ++
    ((text.splitOn '\n').getLast?.filter (· ≠ [])).toList

lemma stripReturn_of_not_mem {line : List Char} (h : '\r' ∉ line) : stripReturn line = line :=
  if_neg fun hlast => h (List.mem_of_getLast? hlast)

/-- The lines of a text that is made of lines. -/
theorem lines_intercalate {ls : List (List Char)}
    (hls : ∀ l ∈ ls, '\n' ∉ l ∧ '\r' ∉ l) : lines (['\n'].intercalate (ls ++ [[]])) = ls := by
  have hsplit : (['\n'].intercalate (ls ++ [[]])).splitOn '\n' = ls ++ [[]] := by
    refine List.splitOn_intercalate _ (fun l hl => ?_) (by simp)
    rcases List.mem_append.mp hl with hl | hl
    · exact (hls l hl).1
    · obtain rfl := List.mem_singleton.mp hl
      exact List.not_mem_nil
  rw [lines, hsplit, List.dropLast_concat]
  have hstrip : ls.map stripReturn = ls.map id :=
    List.map_congr_left fun l hl => stripReturn_of_not_mem (hls l hl).2
  simp [hstrip]

/-! ## Words -/

/-- The words of a text. -/
def words (text : List Char) : List (List Char) :=
  (text.splitOnP Char.isWhitespace).filter (· ≠ [])

/-- A word is not empty and has no blanks. -/
structure IsWord (w : List Char) : Prop where
  ne_nil : w ≠ []
  not_isWhitespace : ∀ c ∈ w, c.isWhitespace = false

lemma words_of_isWord {w : List Char} (hw : IsWord w) : words w = [w] := by
  rw [words, List.splitOnP_eq_singleton hw.not_isWhitespace]
  simp [hw.ne_nil]

lemma words_blank (text : List Char) : words (' ' :: text) = words text := by
  have hnone : ∀ c ∈ ([] : List Char), c.isWhitespace = false := by simp
  have hsplit := List.splitOnP_append_cons_of_forall_mem hnone ' ' (by decide) text
  rw [words, words, ← List.nil_append (' ' :: text), hsplit]
  simp

lemma words_blanks (n : Nat) (text : List Char) :
    words (List.replicate n ' ' ++ text) = words text := by
  induction n with
  | zero => rfl
  | succ n ih => rw [List.replicate_succ, List.cons_append, words_blank, ih]

lemma words_cons {w : List Char} (hw : IsWord w) (text : List Char) :
    words (w ++ ' ' :: text) = w :: words text := by
  rw [words, List.splitOnP_append_cons_of_forall_mem hw.not_isWhitespace ' ' (by decide)]
  simp [hw.ne_nil, words]

/-- The words of a text that is made of words. -/
theorem words_intercalate {ws : List (List Char)} (hws : ∀ w ∈ ws, IsWord w) :
    words ([' '].intercalate ws) = ws := by
  induction ws with
  | nil => decide
  | cons w ws ih =>
    have hw := hws w List.mem_cons_self
    cases ws with
    | nil => simpa using words_of_isWord hw
    | cons w' ws =>
      rw [List.intercalate_cons_cons, List.append_assoc, List.singleton_append, words_cons hw,
        ih fun v hv => hws v (List.mem_cons_of_mem _ hv)]

lemma mem_intercalate {ws : List (List Char)} {c : Char} (hc : c ∈ [' '].intercalate ws) :
    c = ' ' ∨ ∃ w ∈ ws, c ∈ w := by
  induction ws with
  | nil => exact absurd hc List.not_mem_nil
  | cons w ws ih =>
    cases ws with
    | nil => exact .inr ⟨w, List.mem_cons_self, by simpa using hc⟩
    | cons w' ws =>
      rw [List.intercalate_cons_cons] at hc
      rcases List.mem_append.mp hc with hc | hc
      · rcases List.mem_append.mp hc with hc | hc
        · exact .inr ⟨w, List.mem_cons_self, hc⟩
        · exact .inl (List.mem_singleton.mp hc)
      · rcases ih hc with hc | ⟨v, hv, hc⟩
        · exact .inl hc
        · exact .inr ⟨v, List.mem_cons_of_mem _ hv, hc⟩

/-! ## Hexadecimal numbers -/

/-- The value of a hexadecimal digit. -/
def digit16 (c : Char) : Option Nat :=
  if '0' ≤ c ∧ c ≤ '9' then some (c.toNat - '0'.toNat)
  else if 'a' ≤ c ∧ c ≤ 'f' then some (c.toNat - 'a'.toNat + 10)
  else if 'A' ≤ c ∧ c ≤ 'F' then some (c.toNat - 'A'.toNat + 10)
  else none

/-- The upper-case digit of a value. -/
def hexChar (n : Nat) : Char := (Nat.digitChar n).toUpper

/-- The last `width` hexadecimal digits of a number. -/
def hex : (width : Nat) → Nat → List Char
  | 0, _ => []
  | width + 1, n => hex width (n / 16) ++ [hexChar (n % 16)]

/-- One more digit, unless the number gets too large. -/
def pushDigit16 (limit n : Nat) (c : Char) : Option Nat :=
  match digit16 c with
  | some d => if 16 * n + d < limit then some (16 * n + d) else none
  | none => none

/-- The number a text of hexadecimal digits denotes, if it is below the limit. One plus sign may
stand in front. -/
def fromStrRadix16 (limit : Nat) (text : List Char) : Option Nat :=
  let digits := match text with
    | '+' :: rest => rest
    | _ => text
  if digits = [] then none else digits.foldlM (pushDigit16 limit) 0

lemma digit16_hexChar {n : Nat} (hn : n < 16) : digit16 (hexChar n) = some n := by
  have hall : ∀ m : Fin 16, digit16 (hexChar m) = some m.val := by decide
  exact hall ⟨n, hn⟩

@[simp] lemma length_hex (width n : Nat) : (hex width n).length = width := by
  induction width generalizing n with
  | zero => rfl
  | succ width ih => rw [hex, List.length_append, ih, List.length_singleton]

lemma isSome_digit16_of_mem_hex {width n : Nat} {c : Char} (hc : c ∈ hex width n) :
    (digit16 c).isSome = true := by
  induction width generalizing n with
  | zero => exact absurd hc List.not_mem_nil
  | succ width ih =>
    rcases List.mem_append.mp hc with hc | hc
    · exact ih hc
    · rw [List.mem_singleton.mp hc, digit16_hexChar (Nat.mod_lt n (by omega))]
      rfl

lemma foldlM_hex {limit width n m : Nat} (hn : n < 16 ^ width)
    (hlimit : m * 16 ^ width + n < limit) :
    (hex width n).foldlM (pushDigit16 limit) m = some (m * 16 ^ width + n) := by
  induction width generalizing n with
  | zero =>
    obtain rfl : n = 0 := by simpa using hn
    simp [hex]
  | succ width ih =>
    have hpow : 16 ^ (width + 1) = 16 * 16 ^ width := by rw [Nat.pow_succ, Nat.mul_comm]
    have hshift : m * 16 ^ (width + 1) = 16 * (m * 16 ^ width) := by
      rw [hpow, Nat.mul_left_comm]
    have hdiv : n / 16 < 16 ^ width := by omega
    have hvalue : 16 * (m * 16 ^ width + n / 16) + n % 16 = m * 16 ^ (width + 1) + n := by omega
    rw [hex, List.foldlM_append, ih hdiv (by omega)]
    simp only [List.foldlM_cons, List.foldlM_nil, Option.bind_eq_bind, Option.bind_some,
      pushDigit16, digit16_hexChar (Nat.mod_lt n (by omega : 0 < 16)), hvalue, if_pos hlimit]
    rfl

/-- A printed number is read back. -/
theorem fromStrRadix16_hex {limit width n : Nat} (hwidth : 0 < width) (hn : n < 16 ^ width)
    (hlimit : n < limit) : fromStrRadix16 limit (hex width n) = some n := by
  have hplus : '+' ∉ hex width n := fun h => absurd (isSome_digit16_of_mem_hex h) (by decide)
  have hne : hex width n ≠ [] := fun h => by
    have hlength := length_hex width n
    rw [h] at hlength
    exact absurd hlength (by simp; omega)
  rw [fromStrRadix16]
  · rw [if_neg hne, foldlM_hex hn (by simpa using hlimit)]
    simp
  · intro rest h
    exact hplus (h ▸ List.mem_cons_self)

lemma isWord_hex {width n : Nat} (hwidth : 0 < width) : IsWord (hex width n) := by
  refine ⟨fun h => ?_, fun c hc => ?_⟩
  · have hlength := length_hex width n
    rw [h] at hlength
    exact absurd hlength (by simp; omega)
  · have hdigit := isSome_digit16_of_mem_hex hc
    cases hblank : c.isWhitespace with
    | false => rfl
    | true =>
      have hcases : c = ' ' ∨ c = '\t' ∨ c = '\r' ∨ c = '\n' := by
        simpa [Char.isWhitespace, or_assoc] using hblank
      rcases hcases with rfl | rfl | rfl | rfl <;> exact absurd hdigit (by decide)

/-! ## Integers -/

lemma of_mem_toString {n : ℤ} {c : Char} (h : c ∈ (toString n).toList) :
    c = '-' ∨ c.isDigit = true := by
  rw [Int.toString_eq_repr, Int.repr_eq_if] at h
  split at h
  case isTrue =>
    rw [Nat.toList_repr] at h
    exact .inr (Nat.isDigit_of_mem_toDigits (by decide) (by decide) h)
  case isFalse =>
    rw [String.toList_append, Nat.toList_repr, List.mem_append] at h
    rcases h with h | h
    · exact .inl (by simpa using h)
    · exact .inr (Nat.isDigit_of_mem_toDigits (by decide) (by decide) h)

end Lib.Text

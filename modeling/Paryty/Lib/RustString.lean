import Mathlib.Data.List.Basic
import Mathlib.Data.UInt
import Mathlib.Tactic.Lemma
import Paryty.Lib.Bytes

/-!
# Rust's strings

The functions of Rust's standard library on `&str` and on bytes that are taken to be UTF-8.
-/

namespace Lib.RustString

/-! ## White space and case -/

/-- `char::is_whitespace`: the Unicode property `White_Space`. -/
def isWhitespace (c : Char) : Bool :=
  (9 ≤ c.toNat ∧ c.toNat ≤ 13) ∨ c.toNat = 0x20 ∨ c.toNat = 0x85 ∨ c.toNat = 0xA0 ∨
    c.toNat = 0x1680 ∨ (0x2000 ≤ c.toNat ∧ c.toNat ≤ 0x200A) ∨ c.toNat = 0x2028 ∨
      c.toNat = 0x2029 ∨ c.toNat = 0x202F ∨ c.toNat = 0x205F ∨ c.toNat = 0x3000

/-- `split_whitespace`. -/
def splitWhitespace (s : String) : List String :=
  ((s.toList.splitOnP isWhitespace).filter (· ≠ [])).map String.ofList

/-- `trim_matches`. -/
def trimMatches (p : Char → Bool) (s : String) : String :=
  String.ofList ((s.toList.dropWhile p).reverse.dropWhile p).reverse

/-- `trim`. -/
def trim (s : String) : String := trimMatches isWhitespace s

/-- `trim_end`. -/
def trimEnd (s : String) : String :=
  String.ofList (s.toList.reverse.dropWhile isWhitespace).reverse

/-- `to_uppercase` of a character, where ASCII letters come out of it. Other characters are
left as they are: nothing in their upper case is ASCII. -/
def upperChars (c : Char) : List Char :=
  if 'a' ≤ c ∧ c ≤ 'z' then [Char.ofNat (c.toNat - 32)]
  else match c.toNat with
    | 0xDF => ['S', 'S']
    | 0x131 => ['I']
    | 0x149 => [Char.ofNat 0x2BC, 'N']
    | 0x17F => ['S']
    | 0x1F0 => ['J', Char.ofNat 0x30C]
    | 0x1E96 => ['H', Char.ofNat 0x331]
    | 0x1E97 => ['T', Char.ofNat 0x308]
    | 0x1E98 => ['W', Char.ofNat 0x30A]
    | 0x1E99 => ['Y', Char.ofNat 0x30A]
    | 0x1E9A => ['A', Char.ofNat 0x2BE]
    | 0xFB00 => ['F', 'F']
    | 0xFB01 => ['F', 'I']
    | 0xFB02 => ['F', 'L']
    | 0xFB03 => ['F', 'F', 'I']
    | 0xFB04 => ['F', 'F', 'L']
    | 0xFB05 => ['S', 'T']
    | 0xFB06 => ['S', 'T']
    | _ => [c]

/-- `to_uppercase`, as far as it yields ASCII. -/
def toUppercase (s : String) : String := String.ofList (s.toList.flatMap upperChars)

/-! ## Numbers -/

/-- `str::parse::<u64>`. -/
def parseU64 (s : String) : Option ℕ :=
  let digits := if s.toList.head? = some '+' then s.toList.tail else s.toList
  if digits ≠ [] ∧ digits.all Char.isDigit ∧ Nat.ofDigitChars 10 digits 0 < UInt64.size then
    some (Nat.ofDigitChars 10 digits 0)
  else none

/-- `str::parse` of an unsigned type with `size` values. -/
def parseUnsigned (size : ℕ) (s : String) : Option ℕ :=
  let digits := if s.toList.head? = some '+' then s.toList.tail else s.toList
  if digits ≠ [] ∧ digits.all Char.isDigit ∧ Nat.ofDigitChars 10 digits 0 < size then
    some (Nat.ofDigitChars 10 digits 0)
  else none

/-- A printed number is read back. -/
theorem parseUnsigned_toDigits {size n : ℕ} (h : n < size) :
    parseUnsigned size (String.ofList (Nat.toDigits 10 n)) = some n := by
  have hdigit : ∀ c ∈ Nat.toDigits 10 n, c.isDigit = true := fun c hc =>
    Nat.isDigit_of_mem_toDigits (by decide) (by decide) hc
  have hplus : (Nat.toDigits 10 n).head? ≠ some '+' := fun hhead =>
    absurd (hdigit '+' (List.mem_of_mem_head? hhead)) (by decide)
  rw [parseUnsigned, String.toList_ofList, if_neg hplus, Nat.ofDigitChars_ten_toDigits]
  exact if_pos ⟨Nat.toDigits_ne_nil, List.all_eq_true.mpr hdigit, h⟩

/-! ## Words -/

lemma splitWhitespace_blank {c : Char} (hc : isWhitespace c = true) (text : List Char) :
    splitWhitespace (String.ofList (c :: text)) = splitWhitespace (String.ofList text) := by
  have hnone : ∀ x ∈ ([] : List Char), isWhitespace x = false := by simp
  have hsplit := List.splitOnP_append_cons_of_forall_mem hnone c hc text
  rw [List.nil_append] at hsplit
  rw [splitWhitespace, splitWhitespace, String.toList_ofList, String.toList_ofList, hsplit]
  simp

lemma splitWhitespace_word {word : List Char} (hne : word ≠ [])
    (hword : ∀ c ∈ word, isWhitespace c = false) {c : Char} (hc : isWhitespace c = true)
    (text : List Char) : splitWhitespace (String.ofList (word ++ c :: text)) =
      String.ofList word :: splitWhitespace (String.ofList text) := by
  rw [splitWhitespace, splitWhitespace, String.toList_ofList, String.toList_ofList,
    List.splitOnP_append_cons_of_forall_mem hword c hc text]
  simp [hne]

/-- The words of a line in which a blank stands before each. -/
theorem splitWhitespace_flatMap {words : List (List Char)}
    (hwords : ∀ word ∈ words, word ≠ [] ∧ ∀ c ∈ word, isWhitespace c = false) :
    splitWhitespace (String.ofList (words.flatMap (' ' :: ·) ++ ['\n'])) =
      words.map String.ofList := by
  induction words with
  | nil => decide
  | cons word words ih =>
    obtain ⟨hne, hword⟩ := hwords word List.mem_cons_self
    have hrest := ih fun w hw => hwords w (List.mem_cons_of_mem _ hw)
    rw [List.flatMap_cons, List.append_assoc, List.cons_append, splitWhitespace_blank (by decide)]
    -- the word ends at the blank before the next one, or at the end of the line
    cases words with
    | nil => exact splitWhitespace_word hne hword (by decide) []
    | cons next words =>
      rw [List.flatMap_cons, List.append_assoc, List.cons_append] at hrest ⊢
      rw [splitWhitespace_blank (by decide)] at hrest
      rw [splitWhitespace_word hne hword (by decide), hrest]
      rfl

/-! ## UTF-8 -/

/-- A continuation byte. -/
def isTail (b : UInt8) : Bool := 0x80 ≤ b.toNat ∧ b.toNat ≤ 0xBF

/-- The first byte of a sequence of two bytes. -/
def isFirstOfTwo (a : UInt8) : Bool := 0xC2 ≤ a.toNat ∧ a.toNat ≤ 0xDF

/-- The second byte `b` may follow the first byte `a` of a sequence of three bytes. -/
def isSecondOfThree (a b : UInt8) : Bool :=
  (a.toNat = 0xE0 ∧ 0xA0 ≤ b.toNat ∧ b.toNat ≤ 0xBF) ∨
    (0xE1 ≤ a.toNat ∧ a.toNat ≤ 0xEC ∧ 0x80 ≤ b.toNat ∧ b.toNat ≤ 0xBF) ∨
    (a.toNat = 0xED ∧ 0x80 ≤ b.toNat ∧ b.toNat ≤ 0x9F) ∨
    (0xEE ≤ a.toNat ∧ a.toNat ≤ 0xEF ∧ 0x80 ≤ b.toNat ∧ b.toNat ≤ 0xBF)

/-- The second byte `b` may follow the first byte `a` of a sequence of four bytes. -/
def isSecondOfFour (a b : UInt8) : Bool :=
  (a.toNat = 0xF0 ∧ 0x90 ≤ b.toNat ∧ b.toNat ≤ 0xBF) ∨
    (0xF1 ≤ a.toNat ∧ a.toNat ≤ 0xF3 ∧ 0x80 ≤ b.toNat ∧ b.toNat ≤ 0xBF) ∨
    (a.toNat = 0xF4 ∧ 0x80 ≤ b.toNat ∧ b.toNat ≤ 0x8F)

/-- The character U+FFFD, which stands for bytes that are no UTF-8. -/
def replacement : Char := Char.ofNat 0xFFFD

/-- `String::from_utf8_lossy`, as characters. A sequence that breaks off is replaced as a whole, and
reading goes on at the byte that broke it. -/
def lossyChars : List UInt8 → List Char
  | [] => []
  | a :: rest =>
    if a.toNat ≤ 0x7F then Char.ofNat a.toNat :: lossyChars rest
    else match rest with
      | [] => [replacement]
      | b :: rest₁ =>
        if isFirstOfTwo a ∧ isTail b then
          Char.ofNat ((a.toNat - 192) * 64 + (b.toNat - 128)) :: lossyChars rest₁
        else if isSecondOfThree a b then
          match rest₁ with
          | [] => [replacement]
          | c :: rest₂ =>
            if isTail c then
              Char.ofNat ((a.toNat - 224) * 4096 + (b.toNat - 128) * 64 + (c.toNat - 128)) ::
                lossyChars rest₂
            else replacement :: lossyChars (c :: rest₂)
        else if isSecondOfFour a b then
          match rest₁ with
          | [] => [replacement]
          | c :: rest₂ =>
            if isTail c then
              match rest₂ with
              | [] => [replacement]
              | d :: rest₃ =>
                if isTail d then
                  Char.ofNat ((a.toNat - 240) * 262144 + (b.toNat - 128) * 4096 +
                    (c.toNat - 128) * 64 + (d.toNat - 128)) :: lossyChars rest₃
                else replacement :: lossyChars (d :: rest₃)
            else replacement :: lossyChars (c :: rest₂)
        else replacement :: lossyChars (b :: rest₁)

/-- `String::from_utf8_lossy`. -/
def fromUtf8Lossy (bytes : List UInt8) : String := String.ofList (lossyChars bytes)

/-- `str::from_utf8`, where it succeeds. -/
def fromUtf8 (bytes : List UInt8) : Option String := String.fromUTF8? ⟨bytes.toArray⟩

/-- The bytes of a text. -/
def asBytes (s : String) : List UInt8 := s.toList.flatMap String.utf8EncodeChar

/-- Bytes read as a text are the text's bytes. -/
theorem fromUtf8_eq_some {bytes : List UInt8} {s : String} :
    fromUtf8 bytes = some s ↔ bytes = utf8 s := by
  unfold fromUtf8 String.fromUTF8?
  constructor
  · intro h
    split at h
    case isTrue hvalid =>
      obtain rfl := Option.some.inj h
      rfl
    case isFalse => exact nomatch h
  · rintro rfl
    have hbytes : (⟨(utf8 s).toArray⟩ : ByteArray) = s.toUTF8 := rfl
    have hvalid : ByteArray.IsValidUTF8 ⟨(utf8 s).toArray⟩ := hbytes ▸ s.isValidUTF8
    rw [dif_pos hvalid]
    exact congrArg some (String.toByteArray_inj.mp rfl)

end Lib.RustString

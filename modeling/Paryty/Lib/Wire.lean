import Mathlib.Data.List.GetD
import Mathlib.Data.Nat.Digits.Lemmas
import Mathlib.Tactic.NormNum
import Paryty.Lib.Bytes

/-!
# Length-prefixed fields

The binary formats that write a number in a fixed number of bytes, the most significant first, and
put the length of a field in front of it.

* `numeral width n` are the bytes of `n`, `number data i width` is the number that stands at an
  offset.
* `field width xs` is a field with its length in front. `drop_field` is the one fact that a walk
  over nested fields uses: what the field's length is, and what stands behind the field.
-/

namespace Lib.Wire

/-- The number that some bytes write, the most significant first. -/
def ofBytes (bytes : Bytes) : ℕ := Nat.ofDigits 256 (bytes.map UInt8.toNat).reverse

/-- The bytes of a number. -/
def numeral (width n : ℕ) : Bytes := ((Nat.digitsAppend 256 width n).map UInt8.ofNat).reverse

/-- The number in the `width` bytes at `i`. -/
def number (data : Bytes) (i width : ℕ) : ℕ := ofBytes ((data.drop i).take width)

/-- The bytes from `i` to before `j`. -/
def slice (data : Bytes) (i j : ℕ) : Bytes := (data.drop i).take (j - i)

/-- A field behind its length. -/
def field (width : ℕ) (xs : Bytes) : Bytes := numeral width xs.length ++ xs

variable {data rest xs ys : Bytes} {i j n width : ℕ} {b hi lo : UInt8}

lemma length_numeral (h : n < 256 ^ width) : (numeral width n).length = width := by
  simpa [numeral] using Nat.length_digitsAppend (by norm_num : 1 < 256) width h

lemma ofBytes_numeral : ofBytes (numeral width n) = n := by
  have hbytes : (Nat.digitsAppend 256 width n).map (UInt8.toNat ∘ UInt8.ofNat) =
      Nat.digitsAppend 256 width n := by
    refine (List.map_congr_left fun digit hdigit => ?_).trans (List.map_id _)
    exact UInt8.toNat_ofNat_of_lt (Nat.lt_of_mem_digitsAppend (by norm_num) width digit hdigit)
  rw [ofBytes, numeral, List.map_reverse, List.reverse_reverse, List.map_map, hbytes,
    Nat.digitsAppend, Nat.ofDigits_append_replicate_zero]
  exact Nat.ofDigits_digits 256 n

lemma ofBytes_singleton : ofBytes [b] = b.toNat := by
  simp [ofBytes]

lemma ofBytes_pair : ofBytes [hi, lo] = hi.toNat * 256 + lo.toNat := by
  simp [ofBytes, Nat.ofDigits_cons]
  omega

lemma ofBytes_triple {mid : UInt8} :
    ofBytes [hi, mid, lo] = hi.toNat * 65536 + mid.toNat * 256 + lo.toNat := by
  simp [ofBytes, Nat.ofDigits_cons]
  omega

/-! ## Reading at an offset -/

lemma number_eq_ofBytes (h : data.drop i = xs ++ rest) (hlength : xs.length = width) :
    number data i width = ofBytes xs := by
  rw [number, h, ← hlength, List.take_left]

lemma number_numeral (h : data.drop i = numeral width n ++ rest) (hn : n < 256 ^ width) :
    number data i width = n := by
  rw [number_eq_ofBytes h (length_numeral hn), ofBytes_numeral]

lemma number_byte (h : i < data.length) : number data i 1 = (data.getD i 0).toNat := by
  have hdrop : data.drop i = [data[i]] ++ data.drop (i + 1) := List.drop_eq_getElem_cons h
  rw [List.getD_eq_getElem _ _ h]
  exact (number_eq_ofBytes hdrop rfl).trans ofBytes_singleton

lemma number_pair (h : i + 1 < data.length) :
    number data i 2 = (data.getD i 0).toNat * 256 + (data.getD (i + 1) 0).toNat := by
  have hdrop : data.drop i = [data[i], data[i + 1]] ++ data.drop (i + 2) := by
    rw [List.drop_eq_getElem_cons (by omega), List.drop_eq_getElem_cons h]
    rfl
  rw [List.getD_eq_getElem _ _ (by omega), List.getD_eq_getElem _ _ h]
  exact (number_eq_ofBytes hdrop rfl).trans ofBytes_pair

lemma number_triple (h : i + 2 < data.length) :
    number data i 3 = (data.getD i 0).toNat * 65536 + (data.getD (i + 1) 0).toNat * 256 +
      (data.getD (i + 2) 0).toNat := by
  have hdrop : data.drop i = [data[i], data[i + 1], data[i + 2]] ++ data.drop (i + 3) := by
    rw [List.drop_eq_getElem_cons (by omega), List.drop_eq_getElem_cons (i := i + 1) (by omega),
      List.drop_eq_getElem_cons h]
    rfl
  rw [List.getD_eq_getElem _ _ (by omega), List.getD_eq_getElem _ _ (by omega),
    List.getD_eq_getElem _ _ h]
  exact (number_eq_ofBytes hdrop rfl).trans ofBytes_triple

lemma drop_append (h : data.drop i = xs ++ rest) : data.drop (i + xs.length) = rest := by
  rw [← List.drop_drop, h, List.drop_left]

lemma length_of_drop (h : data.drop i = xs ++ rest) (hxs : xs ≠ []) :
    i + xs.length ≤ data.length := by
  have hlength := congrArg List.length h
  have hpos := List.length_pos_of_ne_nil hxs
  simp only [List.length_drop, List.length_append] at hlength
  omega

lemma slice_of_drop (h : data.drop i = xs ++ rest) : slice data i (i + xs.length) = xs := by
  rw [slice, h, Nat.add_sub_cancel_left, List.take_left]

lemma length_field (h : xs.length < 256 ^ width) : (field width xs).length = width + xs.length := by
  rw [field, List.length_append, length_numeral h]

lemma drop_field (h : data.drop i = field width xs ++ rest) (hxs : xs.length < 256 ^ width) :
    number data i width = xs.length ∧ data.drop (i + width) = xs ++ rest ∧
      data.drop (i + width + xs.length) = rest := by
  rw [field, List.append_assoc] at h
  have hcontent := drop_append h
  rw [length_numeral hxs] at hcontent
  exact ⟨number_numeral h hxs, hcontent, drop_append hcontent⟩

lemma drop_slice : (slice data i j).drop n = slice data (i + n) j := by
  rw [slice, slice, List.drop_take, List.drop_drop, Nat.sub_sub]

lemma number_slice (h : i + n + width ≤ j) :
    number (slice data i j) n width = number data (i + n) width := by
  rw [number, drop_slice, slice, List.take_take, Nat.min_eq_left (by omega), number]

lemma slice_slice {m : ℕ} (h : i + m ≤ j) :
    slice (slice data i j) n m = slice data (i + n) (i + m) := by
  rw [slice, slice, slice, List.drop_take, List.drop_drop, List.take_take]
  congr 1
  omega

lemma length_slice (h : j ≤ data.length) : (slice data i j).length = j - i := by
  rw [slice, List.length_take, List.length_drop]
  omega

end Lib.Wire

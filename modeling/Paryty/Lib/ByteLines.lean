import Mathlib.Data.List.Flatten
import Paryty.Lib.Bytes

/-!
# Lines of a stream of bytes

`split` cuts bytes into the complete lines, each with the line feed that ends it, and what stands
behind the last of them. `split_append` says how the lines of a stream go on when bytes are added:
what stands behind the last line is carried over.
-/

namespace Lib.ByteLines

/-- A line feed. -/
def lineFeed : UInt8 := 10

/-- The complete lines of some bytes, and what stands behind them. -/
def split : Bytes → List Bytes × Bytes
  | [] => ([], [])
  | b :: bytes =>
    if b = lineFeed then ([b] :: (split bytes).1, (split bytes).2)
    else match (split bytes).1 with
      | [] => ([], b :: (split bytes).2)
      | line :: lines => ((b :: line) :: lines, (split bytes).2)

/-- The complete lines. -/
def complete (bytes : Bytes) : List Bytes := (split bytes).1

/-- The last line, as far as it has come. -/
def rest (bytes : Bytes) : Bytes := (split bytes).2

/-- The lines of some bytes, the last one as far as it has come. -/
def chunks (bytes : Bytes) : List Bytes :=
  complete bytes ++ if rest bytes = [] then [] else [rest bytes]

variable {x y bytes line : Bytes} {b : UInt8}

lemma split_append (x y : Bytes) :
    split (x ++ y) = (complete x ++ complete (rest x ++ y), rest (rest x ++ y)) := by
  induction x with
  | nil => rfl
  | cons b x ih =>
    unfold complete rest at ih ⊢
    rw [List.cons_append, split, split, ih]
    by_cases hb : b = lineFeed
    · simp [hb]
    · rw [if_neg hb, if_neg hb]
      cases hlines : (split x).1 with
      | nil =>
        dsimp only
        rw [List.cons_append, split, if_neg hb]
        cases (split ((split x).2 ++ y)).1 <;> rfl
      | cons line lines => rfl

lemma complete_append (x y : Bytes) :
    complete (x ++ y) = complete x ++ complete (rest x ++ y) := by
  rw [complete, split_append]

lemma rest_append (x y : Bytes) : rest (x ++ y) = rest (rest x ++ y) := by
  rw [rest, split_append]

lemma flatten_complete (bytes : Bytes) : (complete bytes).flatten ++ rest bytes = bytes := by
  induction bytes with
  | nil => rfl
  | cons b bytes ih =>
    unfold complete rest at ih ⊢
    rw [split]
    split
    · rw [List.flatten_cons, List.append_assoc, ih]
      rfl
    · cases hlines : (split bytes).1 with
      | nil =>
        rw [hlines] at ih
        simpa using ih
      | cons line lines =>
        rw [hlines] at ih
        rw [List.flatten_cons] at ih ⊢
        rw [List.cons_append, List.cons_append, ih]

lemma drop_complete (bytes : Bytes) : bytes.drop (complete bytes).flatten.length = rest bytes := by
  have h := congrArg (List.drop (complete bytes).flatten.length) (flatten_complete bytes)
  rw [List.drop_left] at h
  exact h.symm

lemma take_complete (bytes : Bytes) :
    bytes.take (complete bytes).flatten.length = (complete bytes).flatten := by
  have h := congrArg (List.take (complete bytes).flatten.length) (flatten_complete bytes)
  rw [List.take_left] at h
  exact h.symm

lemma not_mem_rest (bytes : Bytes) : lineFeed ∉ rest bytes := by
  induction bytes with
  | nil => exact List.not_mem_nil
  | cons b bytes ih =>
    unfold rest at ih ⊢
    rw [split]
    split
    · exact ih
    · next hb =>
      cases (split bytes).1 with
      | nil => simpa [eq_comm, hb] using ih
      | cons line lines => exact ih

lemma split_of_not_mem (h : lineFeed ∉ bytes) : split bytes = ([], bytes) := by
  induction bytes with
  | nil => rfl
  | cons b bytes ih =>
    obtain ⟨hb, hbytes⟩ := List.ne_and_not_mem_of_not_mem_cons h
    rw [split, if_neg hb.symm, ih hbytes]

lemma complete_of_not_mem (h : lineFeed ∉ bytes) : complete bytes = [] :=
  congrArg Prod.fst (split_of_not_mem h)

lemma rest_of_not_mem (h : lineFeed ∉ bytes) : rest bytes = bytes :=
  congrArg Prod.snd (split_of_not_mem h)

lemma not_mem_of_complete_eq_nil (h : complete bytes = []) : lineFeed ∉ bytes := by
  rw [← flatten_complete bytes, h, List.flatten_nil, List.nil_append]
  exact not_mem_rest bytes

lemma split_flatten_complete (bytes : Bytes) :
    split (complete bytes).flatten = (complete bytes, []) := by
  induction bytes with
  | nil => rfl
  | cons b bytes ih =>
    unfold complete at ih ⊢
    rw [split]
    split
    case isTrue hb =>
      rw [List.flatten_cons, List.singleton_append, split, if_pos hb, ih]
    case isFalse hb =>
      cases hlines : (split bytes).1 with
      | nil => rfl
      | cons line lines =>
        rw [hlines] at ih
        rw [List.flatten_cons] at ih ⊢
        rw [List.cons_append, split, if_neg hb, ih]

lemma rest_flatten_complete (bytes : Bytes) : rest (complete bytes).flatten = [] :=
  congrArg Prod.snd (split_flatten_complete bytes)

end Lib.ByteLines

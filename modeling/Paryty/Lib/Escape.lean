import Mathlib.Data.List.Basic
import Mathlib.Tactic.Lemma

/-!
# Escaping

`escape mark special` puts a mark before the special letters of a word. `readToken mark stop` reads
a word and drops its marks; it stops at the first unmarked letter of `stop`.

`readToken_escape`: if the mark and every stop are special, the reader finds the end of an escaped
word and gets the word back.
-/

namespace Lib

variable {α : Type*} {mark : α} {special stop : α → Bool}

/-- Put a mark before every special letter. -/
def escape (mark : α) (special : α → Bool) : List α → List α
  | [] => []
  | c :: word => if special c then mark :: c :: escape mark special word
      else c :: escape mark special word

lemma escape_of_not_any {word : List α} (h : word.any special = false) :
    escape mark special word = word := by
  induction word with
  | nil => rfl
  | cons c word ih =>
    rw [List.any_cons, Bool.or_eq_false_iff] at h
    rw [escape, if_neg (by simp [h.1]), ih h.2]

lemma mem_escape {c : α} (hc : c ≠ mark) {word : List α} :
    c ∈ escape mark special word ↔ c ∈ word := by
  induction word with
  | nil => rfl
  | cons d word ih =>
    unfold escape
    split
    · simp [ih, hc]
    · simp [ih]

variable [DecidableEq α]

/-- The word up to an unmarked stop, without its marks, and the text from there. -/
def readToken (mark : α) (stop : α → Bool) : List α → List α × List α
  | [] => ([], [])
  | [c] => if stop c then ([], [c]) else ([c], [])
  | c :: d :: text =>
    if c = mark then
      let (word, rest) := readToken mark stop text
      (d :: word, rest)
    else if stop c then ([], c :: d :: text)
    else
      let (word, rest) := readToken mark stop (d :: text)
      (c :: word, rest)

lemma readToken_mark (c : α) (text : List α) : readToken mark stop (mark :: c :: text) =
    (c :: (readToken mark stop text).1, (readToken mark stop text).2) := by
  rw [readToken, if_pos rfl]

lemma readToken_stop {c : α} (hmark : c ≠ mark) (hstop : stop c = true) (text : List α) :
    readToken mark stop (c :: text) = ([], c :: text) := by
  cases text with
  | nil => rw [readToken, if_pos hstop]
  | cons d text => rw [readToken, if_neg hmark, if_pos hstop]

lemma readToken_letter {c : α} (hmark : c ≠ mark) (hstop : stop c = false) (text : List α) :
    readToken mark stop (c :: text) =
      (c :: (readToken mark stop text).1, (readToken mark stop text).2) := by
  cases text with
  | nil => simp [readToken, hstop]
  | cons d text => simp [readToken, hmark, hstop]

/-- An escaped word is read up to the stop behind it. -/
theorem readToken_escape (hmark : special mark = true) (hstop : ∀ c, stop c = true →
    special c = true ∧ c ≠ mark) (word : List α) {c : α} (hc : stop c = true) (rest : List α) :
    readToken mark stop (escape mark special word ++ c :: rest) = (word, c :: rest) := by
  induction word with
  | nil => exact readToken_stop (hstop c hc).2 hc rest
  | cons d word ih =>
    unfold escape
    split
    case isTrue => rw [List.cons_append, List.cons_append, readToken_mark, ih]
    case isFalse hspecial =>
      have hne : d ≠ mark := by
        rintro rfl
        exact hspecial hmark
      have hplain : stop d = false := by
        rw [Bool.eq_false_iff]
        exact fun h => hspecial (hstop d h).1
      rw [List.cons_append, readToken_letter hne hplain, ih]

end Lib

import Paryty.Lib.Bytes
import Mathlib.Data.List.Infix

/-!
# Glob patterns

The patterns of Redis over byte strings: `*` is any text, `?` any byte, `[ab-d]` a byte of a class,
`[^ab-d]` a byte outside it, and a backslash takes the byte after it as it is. A class that is not
closed ends with the pattern.

A text without the bytes that mean something in a pattern is its own pattern, so such a text and a
star is the pattern of what begins with the text.
-/

namespace Lib.Glob

/-- The ranges of a class, each with its two ends. -/
abbrev Ranges := List (UInt8 × UInt8)

/-- One part of a pattern. -/
inductive Token
  | star
  | one
  | cls (negated : Bool) (ranges : Ranges)
  | literal (b : UInt8)
deriving DecidableEq

/-- The parts of a pattern. The first argument is the class that is being read. -/
def parse : Option (Bool × Ranges) → Bytes → List Token
  | none, [] => []
  | none, 42 :: rest => .star :: parse none rest
  | none, 63 :: rest => .one :: parse none rest
  | none, 91 :: 94 :: rest => parse (some (true, [])) rest
  | none, 91 :: rest => parse (some (false, [])) rest
  | none, 92 :: b :: rest => .literal b :: parse none rest
  | none, b :: rest => .literal b :: parse none rest
  | some (negated, ranges), [] => [.cls negated ranges]
  | some (negated, ranges), 92 :: b :: rest => parse (some (negated, ranges ++ [(b, b)])) rest
  | some (negated, ranges), 93 :: rest => .cls negated ranges :: parse none rest
  | some (negated, ranges), lo :: 45 :: hi :: rest =>
    parse (some (negated, ranges ++ [(lo, hi)])) rest
  | some (negated, ranges), b :: rest => parse (some (negated, ranges ++ [(b, b)])) rest

/-- A byte is in one of the ranges. The ends of a range stand in either order. -/
def inRanges (ranges : Ranges) (b : UInt8) : Bool :=
  ranges.any fun range => (range.1 ≤ b ∧ b ≤ range.2) ∨ (range.2 ≤ b ∧ b ≤ range.1)

/-- A text is what the parts describe. -/
def matchTokens : List Token → Bytes → Bool
  | [], text => text.isEmpty
  | .star :: tokens, text => text.tails.any (matchTokens tokens)
  | .one :: tokens, text => match text with
    | [] => false
    | _ :: text => matchTokens tokens text
  | .cls negated ranges :: tokens, text => match text with
    | [] => false
    | b :: text => (inRanges ranges b != negated) && matchTokens tokens text
  | .literal c :: tokens, text => match text with
    | [] => false
    | b :: text => b == c && matchTokens tokens text

/-- A text matches a pattern. -/
def globMatch (pattern text : Bytes) : Bool := matchTokens (parse none pattern) text

example : globMatch (utf8 "h[a-c]*l\\*") (utf8 "hbel*") = true := by decide

/-! ## Texts as patterns -/

/-- The byte means something in a pattern. -/
def IsSpecial (b : UInt8) : Prop := b = 42 ∨ b = 63 ∨ b = 91 ∨ b = 92

instance (b : UInt8) : Decidable (IsSpecial b) :=
  inferInstanceAs (Decidable (b = 42 ∨ b = 63 ∨ b = 91 ∨ b = 92))

/-- No byte of the text means something in a pattern. -/
def Plain (text : Bytes) : Prop := ∀ b ∈ text, ¬ IsSpecial b

instance (text : Bytes) : Decidable (Plain text) :=
  List.decidableBAll (fun b => ¬ IsSpecial b) text

variable {text pattern s : Bytes} {tokens : List Token}

lemma parse_of_not_isSpecial {b : UInt8} (h : ¬ IsSpecial b) (rest : Bytes) :
    parse none (b :: rest) = .literal b :: parse none rest := by
  simp only [IsSpecial, not_or] at h
  obtain ⟨hstar, hone, hclass, hescape⟩ := h
  rw [parse]
  · exact hstar
  · exact hone
  · rintro rest rfl rfl
    exact hclass rfl
  · exact hclass
  · rintro rest b rfl _
    exact hescape rfl

lemma parse_append (h : Plain text) (rest : Bytes) :
    parse none (text ++ rest) = text.map .literal ++ parse none rest := by
  induction text with
  | nil => rfl
  | cons b text ih =>
    have htail : Plain text := fun c hc => h c (List.mem_cons_of_mem _ hc)
    rw [List.cons_append, parse_of_not_isSpecial (h b List.mem_cons_self), ih htail]
    rfl

lemma matchTokens_literals :
    matchTokens (text.map .literal ++ tokens) s = true ↔
      ∃ rest, s = text ++ rest ∧ matchTokens tokens rest = true := by
  induction text generalizing s with
  | nil => simp
  | cons b text ih =>
    cases s with
    | nil => simp [matchTokens]
    | cons c s =>
      rw [List.map_cons, List.cons_append, matchTokens]
      constructor
      · intro h
        obtain ⟨hbyte, hrest⟩ := Bool.and_eq_true_iff.mp h
        obtain ⟨rest, rfl, htokens⟩ := ih.mp hrest
        obtain rfl : c = b := eq_of_beq hbyte
        exact ⟨rest, rfl, htokens⟩
      · rintro ⟨rest, heq, htokens⟩
        obtain ⟨rfl, rfl⟩ := List.cons_eq_cons.mp heq
        exact Bool.and_eq_true_iff.mpr ⟨beq_self_eq_true c, ih.mpr ⟨rest, rfl, htokens⟩⟩

lemma globMatch_append (h : Plain text) :
    globMatch (text ++ pattern) s = true ↔
      ∃ rest, s = text ++ rest ∧ globMatch pattern rest = true := by
  rw [globMatch, parse_append h, matchTokens_literals]
  rfl

@[simp] lemma globMatch_star (s : Bytes) : globMatch [42] s = true := by
  have hlast : [] ∈ s.tails := (List.mem_tails _ _).mpr List.nil_suffix
  simp only [globMatch, parse, matchTokens, List.any_eq_true]
  exact ⟨[], hlast, rfl⟩

lemma globMatch_star_of_globMatch (h : globMatch pattern s = true) :
    globMatch (42 :: pattern) s = true := by
  have hself : s ∈ s.tails := (List.mem_tails _ _).mpr List.suffix_rfl
  simp only [globMatch, parse, matchTokens, List.any_eq_true]
  exact ⟨s, hself, h⟩

@[simp] lemma globMatch_one (b : UInt8) :
    globMatch (63 :: pattern) (b :: s) = globMatch pattern s :=
  rfl

@[simp] lemma globMatch_escape (b : UInt8) :
    globMatch (92 :: b :: pattern) (b :: s) = globMatch pattern s := by
  simp [globMatch, parse, matchTokens]

/-- The pattern of what begins with a plain text. -/
theorem globMatch_append_star (h : Plain text) : globMatch (text ++ [42]) s = true ↔ text <+: s := by
  rw [globMatch_append h]
  constructor
  · rintro ⟨rest, rfl, _⟩
    exact List.prefix_append text rest
  · rintro ⟨rest, rfl⟩
    exact ⟨rest, rfl, globMatch_star rest⟩

end Lib.Glob

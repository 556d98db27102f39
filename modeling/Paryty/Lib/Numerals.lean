import Mathlib.Data.Nat.Cast.Defs

/-!
# Numerals

Names for the proofs behind the numerals of a field, so that a definition carries none of its own.
-/

namespace Lib.Numerals

scoped instance atLeastTwo_two : Nat.AtLeastTwo 2 := ⟨by decide⟩

scoped instance atLeastTwo_four : Nat.AtLeastTwo 4 := ⟨by decide⟩

scoped instance atLeastTwo_six : Nat.AtLeastTwo 6 := ⟨by decide⟩

scoped instance atLeastTwo_eight : Nat.AtLeastTwo 8 := ⟨by decide⟩

scoped instance atLeastTwo_ten : Nat.AtLeastTwo 10 := ⟨by decide⟩

end Lib.Numerals

import Mathlib.Data.List.Basic
import Mathlib.Tactic.Lemma

/-!
# Byte strings

Strings of a language whose strings are bytes. `utf8` is a literal of such a language.
-/

namespace Lib

/-- A string of bytes. -/
abbrev Bytes := List UInt8

/-- The bytes of a text. -/
def utf8 (s : String) : Bytes := s.toUTF8.data.toList

lemma utf8_append (s t : String) : utf8 (s ++ t) = utf8 s ++ utf8 t := by
  simp [utf8]

lemma utf8_injective : Function.Injective utf8 := by
  intro s t h
  have hbytes : s.toUTF8 = t.toUTF8 := ByteArray.ext (Array.toList_inj.mp h)
  exact String.toByteArray_inj.mp hbytes

lemma not_mem_of_mem_splitOn {α : Type*} [BEq α] [LawfulBEq α] {sep : α} {xs piece : List α}
    (h : piece ∈ xs.splitOn sep) : sep ∉ piece := by
  induction xs generalizing piece with
  | nil =>
    obtain rfl : piece = [] := by simpa using h
    exact List.not_mem_nil
  | cons x xs ih =>
    rw [List.splitOn_cons_eq_if_modifyHead] at h
    split at h
    case isTrue =>
      rcases List.mem_cons.mp h with rfl | h
      · exact List.not_mem_nil
      · exact ih h
    case isFalse hne =>
      obtain ⟨first, rest, hsplit⟩ := List.exists_cons_of_ne_nil (List.splitOn_ne_nil sep xs)
      rw [hsplit, List.modifyHead_cons] at h
      rcases List.mem_cons.mp h with rfl | h
      · have hfirst := ih (hsplit ▸ List.mem_cons_self)
        have hx : sep ≠ x := fun heq => hne (by simp [heq])
        simp [hx, hfirst]
      · exact ih (hsplit ▸ List.mem_cons_of_mem _ h)

lemma append_cons_inj {α : Type*} {sep : α} {xs xs' rest rest' : List α} (hxs : sep ∉ xs)
    (hxs' : sep ∉ xs') (h : xs ++ sep :: rest = xs' ++ sep :: rest') : xs = xs' ∧ rest = rest' := by
  induction xs generalizing xs' with
  | nil =>
    cases xs' with
    | nil => exact ⟨rfl, (List.cons.inj h).2⟩
    | cons x xs' => exact absurd ((List.cons.inj h).1 ▸ List.mem_cons_self) hxs'
  | cons x xs ih =>
    cases xs' with
    | nil => exact absurd ((List.cons.inj h).1 ▸ List.mem_cons_self) hxs
    | cons x' xs' =>
      obtain ⟨rfl, htail⟩ := List.cons.inj h
      obtain ⟨rfl, rfl⟩ := ih (List.not_mem_of_not_mem_cons hxs) (List.not_mem_of_not_mem_cons hxs')
        htail
      exact ⟨rfl, rfl⟩

lemma append_cons_inj_last {α : Type*} {sep : α} {xs xs' rest rest' : List α} (hrest : sep ∉ rest)
    (hrest' : sep ∉ rest') (h : xs ++ sep :: rest = xs' ++ sep :: rest') :
    xs = xs' ∧ rest = rest' := by
  have hreverse : rest.reverse ++ sep :: xs.reverse = rest'.reverse ++ sep :: xs'.reverse := by
    simpa using congrArg List.reverse h
  obtain ⟨hr, hx⟩ := append_cons_inj (by simpa using hrest) (by simpa using hrest') hreverse
  exact ⟨List.reverse_injective hx, List.reverse_injective hr⟩

end Lib

import Mathlib.Data.Nat.Notation
import Mathlib.Logic.Function.Basic
import Mathlib.Tactic.Lemma

/-!
# Keys that expire

A store in which every value has a deadline: from its deadline on a key reads as absent.
Time is a natural number and only moves forward.
-/

namespace Lib

/-- Values with their deadlines. -/
abbrev Expiring (κ α : Type*) := κ → Option (α × ℕ)

namespace Expiring

variable {κ α : Type*} {m : Expiring κ α} {k k' : κ} {v : α} {now later t : ℕ}

/-- No keys. -/
def empty : Expiring κ α := fun _ => none

/-- What is read at a time. -/
def get (m : Expiring κ α) (now : ℕ) (k : κ) : Option α :=
  (m k).bind fun e => if now < e.2 then some e.1 else none

@[simp] lemma get_empty : (empty : Expiring κ α).get now k = none := rfl

lemma get_of_le (h : now ≤ later) (hget : m.get later k = some v) : m.get now k = some v := by
  obtain ⟨e, he, hlive⟩ := Option.bind_eq_some_iff.mp hget
  by_cases hlate : later < e.2
  · rw [if_pos hlate] at hlive
    rw [get, he]
    exact (if_pos (by omega)).trans hlive
  · rw [if_neg hlate] at hlive
    exact absurd hlive (by simp)

variable [DecidableEq κ]

/-- A value that lives for some time. -/
def set (m : Expiring κ α) (now ttl : ℕ) (k : κ) (v : α) : Expiring κ α :=
  Function.update m k (some (v, now + ttl))

/-- The key is gone. -/
def del (m : Expiring κ α) (k : κ) : Expiring κ α := Function.update m k none

@[simp] lemma get_del_self : (m.del k).get now k = none := by
  simp [get, del]

lemma get_del_of_ne (h : k' ≠ k) : (m.del k).get now k' = m.get now k' := by
  simp [get, del, Function.update_of_ne h]

lemma get_set_self : (m.set now t k v).get later k = if later < now + t then some v else none := by
  simp [get, set]

lemma get_set_of_ne (h : k' ≠ k) : (m.set now t k v).get later k' = m.get later k' := by
  simp [get, set, Function.update_of_ne h]

end Expiring

end Lib

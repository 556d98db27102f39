import Mathlib.Data.Nat.Notation
import Mathlib.Tactic.Lemma
import Mathlib.Tactic.SplitIfs

/-!
# A hash that expires

Fields with values under one key, which has one deadline for all of them, or none. From the deadline
on there are no fields, and a key without fields has no deadline. Time is a natural number and only
moves forward.
-/

namespace Lib

/-- The fields and the deadline of the key. -/
structure ExpiringHash (κ α : Type*) where
  fields : List (κ × α) := []
  deadline : Option ℕ := none
deriving DecidableEq

namespace ExpiringHash

variable {κ α : Type*} {h : ExpiringHash κ α} {k k' : κ} {v : α} {now later ttl d : ℕ}

/-- What there is at a time. -/
def current (h : ExpiringHash κ α) (now : ℕ) : ExpiringHash κ α :=
  if h.deadline.any (· ≤ now) then {} else h

/-- The key gets a deadline. -/
def expire (h : ExpiringHash κ α) (now ttl : ℕ) : ExpiringHash κ α :=
  if (h.current now).fields.isEmpty then {}
  else { h.current now with deadline := some (now + ttl) }

lemma deadline_current (hd : (h.current now).deadline = some d) :
    h.deadline = some d ∧ now < d := by
  unfold current at hd
  split at hd
  · cases hd
  · next hlive =>
    rw [hd] at hlive
    exact ⟨hd, by simpa using hlive⟩

lemma current_fields (fields : List (κ × α)) :
    ({ h.current now with fields } : ExpiringHash κ α).current now =
      { h.current now with fields } := by
  refine if_neg fun hpassed => ?_
  obtain ⟨d, hd, hle⟩ := (Option.any_eq_true _ _).mp hpassed
  exact absurd (deadline_current hd).2 (Nat.not_lt.mpr (of_decide_eq_true hle))

variable [DecidableEq κ]

/-- What is read at a time. -/
def get (h : ExpiringHash κ α) (now : ℕ) (k : κ) : Option α :=
  ((h.current now).fields.find? fun field => field.1 = k).map Prod.snd

/-- Store a field. -/
def set (h : ExpiringHash κ α) (now : ℕ) (k : κ) (v : α) : ExpiringHash κ α :=
  { h.current now with fields := (k, v) :: (h.current now).fields.filter fun field => field.1 ≠ k }

/-- Remove a field. -/
def del (h : ExpiringHash κ α) (now : ℕ) (k : κ) : ExpiringHash κ α :=
  let fields := (h.current now).fields.filter fun field => field.1 ≠ k
  if fields.isEmpty then {} else { h.current now with fields }

@[simp] lemma get_empty : ({} : ExpiringHash κ α).get now k = none := rfl

lemma get_of_current (hcurrent : h.current now = h) :
    h.get now k = (h.fields.find? fun field => field.1 = k).map Prod.snd := by
  rw [get, hcurrent]

lemma current_of_get (hget : h.get now k = some v) : h.current now = h := by
  unfold get at hget
  unfold current at hget ⊢
  split at hget
  · cases hget
  · next hlive => rw [if_neg hlive]

lemma lt_of_get (hget : h.get now k = some v) (hd : h.deadline = some d) : now < d := by
  rw [← current_of_get hget] at hd
  exact (deadline_current hd).2

lemma get_of_le (hle : now ≤ later) (hget : h.get later k = some v) : h.get now k = some v := by
  have hlater := current_of_get hget
  have hnow : h.current now = h := by
    unfold current
    split
    · next hpassed =>
      obtain ⟨d, hd, hearly⟩ := (Option.any_eq_true _ _).mp hpassed
      have hearly : d ≤ now := of_decide_eq_true hearly
      have hlate : later < d := lt_of_get hget hd
      omega
    · rfl
  rw [get_of_current hlater] at hget
  rw [get_of_current hnow, hget]

lemma find?_filter_ne {fields : List (κ × α)} (hne : k' ≠ k) :
    (fields.filter fun field => field.1 ≠ k).find? (fun field => field.1 = k') =
      fields.find? fun field => field.1 = k' := by
  induction fields with
  | nil => rfl
  | cons field fields ih =>
    by_cases hfield : field.1 = k
    · have hother : field.1 ≠ k' := fun h => hne (h.symm.trans hfield)
      simp only [List.filter_cons, hfield, ne_eq, not_true_eq_false, decide_false,
        Bool.false_eq_true, if_false, List.find?_cons, Ne.symm hne]
      exact ih
    · simp only [List.filter_cons, hfield, ne_eq, not_false_eq_true, decide_true, if_true,
        List.find?_cons]
      rw [← ih]

@[simp] lemma get_set_self : (h.set now k v).get now k = some v := by
  rw [set, get_of_current (current_fields _)]
  simp

lemma get_set_of_ne (hne : k' ≠ k) : (h.set now k v).get now k' = h.get now k' := by
  rw [set, get_of_current (current_fields _), get]
  simp only [List.find?_cons, Ne.symm hne, decide_false]
  rw [find?_filter_ne hne]

@[simp] lemma deadline_set : (h.set now k v).deadline = (h.current now).deadline := rfl

lemma get_del_of_ne (hne : k' ≠ k) : (h.del now k).get now k' = h.get now k' := by
  have hfind : ((h.current now).fields.filter fun field => field.1 ≠ k).find?
      (fun field => field.1 = k') = (h.current now).fields.find? fun field => field.1 = k' :=
    find?_filter_ne hne
  unfold del
  dsimp only
  split
  · next hempty =>
    rw [List.isEmpty_iff.mp hempty] at hfind
    rw [get_empty, get, ← hfind]
    rfl
  · rw [get_of_current (current_fields _), get]
    dsimp only
    rw [hfind]

lemma get_del_self : (h.del now k).get now k = none := by
  have hfind : ((h.current now).fields.filter fun field => field.1 ≠ k).find?
      (fun field => field.1 = k) = none := by
    simp [List.find?_eq_none]
  unfold del
  dsimp only
  split
  · rfl
  · rw [get_of_current (current_fields _)]
    dsimp only
    rw [hfind]
    rfl

omit [DecidableEq κ] in
lemma current_expire (hpos : 0 < ttl) : (h.expire now ttl).current now = h.expire now ttl := by
  unfold expire
  split
  · rfl
  · refine if_neg fun hpassed => ?_
    have hle : now + ttl ≤ now := of_decide_eq_true hpassed
    omega

lemma get_expire (hpos : 0 < ttl) : (h.expire now ttl).get now k = h.get now k := by
  rw [get_of_current (current_expire hpos), get, expire]
  split
  · next hempty => rw [List.isEmpty_iff.mp hempty]
  · rfl

lemma deadline_expire (hget : h.get now k = some v) :
    (h.expire now ttl).deadline = some (now + ttl) := by
  unfold get at hget
  unfold expire
  split
  · next hempty =>
    rw [List.isEmpty_iff.mp hempty] at hget
    cases hget
  · rfl

omit [DecidableEq κ] in
lemma eq_of_deadline_expire (hd : (h.expire now ttl).deadline = some d) : d = now + ttl := by
  unfold expire at hd
  split at hd
  · cases hd
  · cases hd
    rfl

lemma deadline_del (hget : (h.del now k).get now k' = some v) :
    (h.del now k).deadline = (h.current now).deadline := by
  unfold del at hget ⊢
  dsimp only at hget ⊢
  split
  · next hempty =>
    rw [if_pos hempty] at hget
    cases hget
  · rfl

lemma deadline_current_of_del (hd : (h.del now k).deadline = some d) :
    (h.current now).deadline = some d := by
  unfold del at hd
  dsimp only at hd
  split at hd
  · cases hd
  · exact hd

end ExpiringHash

end Lib

import Mathlib.Data.List.Induction
import Paryty.Lib.Table

/-!
# Updates in place

A list whose entries have keys, and updates of its entries: each of them takes the place of the
first entry under its key.

* `replaceEach` makes the updates one after the other and stops at the first one whose key is not in
  the list.
* `replaceEach_eq_ok_iff`: if the keys of the list are unique, it is enough that the keys are there,
  and each entry ends up as the latest update under its key.
-/

namespace Lib

variable {α κ : Type*} [DecidableEq κ] (key : α → κ)

/-- Puts `a` in the place of the first entry under its key, if there is one. -/
def replaceFirst (a : α) : List α → Option (List α)
  | [] => none
  | b :: l => if key b = key a then some (a :: l) else (replaceFirst a l).map (b :: ·)

/-- Makes the updates in their order. The error is the key of the first one that is not found. -/
def replaceEach (l updates : List α) : Except κ (List α) :=
  updates.foldlM
    (fun l a =>
      match replaceFirst key a l with
      | some l => .ok l
      | none => .error (key a)) l

/-- The latest update under the key of `a`, or `a` itself. -/
def latest (updates : List α) (a : α) : α :=
  (updates.reverse.find? fun b => key b = key a).getD a

variable {key} {a b : α} {l updates : List α}

/-! ## One update -/

lemma replaceFirst_eq_none (h : key a ∉ l.map key) : replaceFirst key a l = none := by
  induction l with
  | nil => rfl
  | cons b l ih =>
    rw [List.map_cons, List.mem_cons, not_or] at h
    rw [replaceFirst, if_neg (Ne.symm h.1), ih h.2]
    rfl

lemma replaceFirst_eq_map (hl : (l.map key).Nodup) (h : key a ∈ l.map key) :
    replaceFirst key a l = some (l.map fun b => if key a = key b then a else b) := by
  induction l with
  | nil => exact absurd h List.not_mem_nil
  | cons b l ih =>
    obtain ⟨hb, hl⟩ := List.nodup_cons.mp hl
    rw [replaceFirst, List.map_cons]
    by_cases hkey : key b = key a
    · have hrest : (l.map fun b => if key a = key b then a else b) = l := by
        refine (List.map_congr_left fun c hc => if_neg ?_).trans (List.map_id l)
        rintro hac
        exact hb (List.mem_map.mpr ⟨c, hc, by rw [hkey, hac]⟩)
      rw [if_pos hkey, if_pos hkey.symm, hrest]
    · have htail : key a ∈ l.map key := by
        rcases List.mem_cons.mp h with heq | htail
        · exact absurd heq.symm hkey
        · exact htail
      rw [if_neg hkey, if_neg (Ne.symm hkey), ih hl htail]
      rfl

/-! ## The latest update -/

variable (key) in
lemma key_latest (updates : List α) (a : α) : key (latest key updates a) = key a := by
  unfold latest
  cases hfind : updates.reverse.find? fun b => key b = key a with
  | none => rfl
  | some b => simpa using List.find?_some hfind

lemma map_key_latest (l updates : List α) :
    (l.map (latest key updates)).map key = l.map key := by
  rw [List.map_map]
  exact List.map_congr_left fun a _ => key_latest key updates a

lemma latest_concat (updates : List α) (b a : α) :
    latest key (updates ++ [b]) a =
      if key b = key (latest key updates a) then b else latest key updates a := by
  rw [key_latest key]
  unfold latest
  rw [List.reverse_concat, List.find?_cons]
  by_cases hkey : key b = key a <;> simp [hkey]

lemma latest_of_notMem (h : key a ∉ updates.map key) : latest key updates a = a := by
  have hnone : updates.reverse.find? (fun b => key b = key a) = none := by
    rw [List.find?_eq_none]
    intro b hb hkey
    exact h (List.mem_map.mpr ⟨b, List.mem_reverse.mp hb, by simpa using hkey⟩)
  rw [latest, hnone, Option.getD_none]

lemma latest_of_latestIn (h : Table.LatestIn key updates b) (hkey : key b = key a) :
    latest key updates a = b := by
  unfold Table.LatestIn at h
  rw [latest, ← hkey, h, Option.getD_some]

lemma latestIn_latest (h : key a ∈ updates.map key) :
    Table.LatestIn key updates (latest key updates a) := by
  obtain ⟨b, hb, hkey⟩ := List.mem_map.mp h
  have hsome : (updates.reverse.find? fun b => key b = key a).isSome := by
    simpa using ⟨b, hb, hkey⟩
  obtain ⟨c, hc⟩ := Option.isSome_iff_exists.mp hsome
  have hlatest : latest key updates a = c := by rw [latest, hc, Option.getD_some]
  unfold Table.LatestIn
  rw [key_latest key, hlatest, hc]

/-! ## All updates -/

lemma replaceEach_concat_eq_ok {a : α} {l' : List α} :
    replaceEach key l (updates ++ [a]) = .ok l' ↔
      ∃ l₁, replaceEach key l updates = .ok l₁ ∧ replaceFirst key a l₁ = some l' := by
  rw [replaceEach, List.foldlM_append, ← replaceEach]
  cases replaceEach key l updates with
  | error k => exact iff_of_false (by rintro ⟨⟩) (by rintro ⟨l₁, ⟨⟩, -⟩)
  | ok l₁ =>
    simp only [List.foldlM_cons, List.foldlM_nil]
    cases hfirst : replaceFirst key a l₁ <;> simp [pure, Except.pure, bind, Except.bind, hfirst]

/-- **Updates of a list with unique keys**: all of them are found, and each entry becomes the latest
update under its key. -/
theorem replaceEach_eq_ok_iff (hl : (l.map key).Nodup) {l' : List α} :
    replaceEach key l updates = .ok l' ↔
      (∀ a ∈ updates, key a ∈ l.map key) ∧ l' = l.map (latest key updates) := by
  induction updates using List.reverseRecOn generalizing l' with
  | nil =>
    have hself : l.map (latest key []) = l := List.map_id l
    rw [hself]
    constructor
    · rintro ⟨⟩
      exact ⟨fun a ha => absurd ha List.not_mem_nil, rfl⟩
    · rintro ⟨-, rfl⟩
      rfl
  | append_singleton updates a ih =>
    have hkeys : (l.map (latest key updates)).map key = l.map key := map_key_latest l updates
    have hstep : (l.map (latest key updates)).map (fun b => if key a = key b then a else b) =
        l.map (latest key (updates ++ [a])) := by
      rw [List.map_map]
      exact List.map_congr_left fun b _ => (latest_concat updates a b).symm
    rw [replaceEach_concat_eq_ok]
    constructor
    · rintro ⟨l₁, hl₁, hlast⟩
      obtain ⟨hmem, rfl⟩ := ih.mp hl₁
      by_cases ha : key a ∈ l.map key
      · rw [replaceFirst_eq_map (hkeys ▸ hl) (hkeys ▸ ha), hstep] at hlast
        refine ⟨List.forall_mem_append.mpr ⟨hmem, ?_⟩, (Option.some.inj hlast).symm⟩
        exact List.forall_mem_singleton.mpr ha
      · rw [replaceFirst_eq_none (hkeys ▸ ha)] at hlast
        cases hlast
    · rintro ⟨hmem, rfl⟩
      obtain ⟨hmem, ha⟩ := List.forall_mem_append.mp hmem
      refine ⟨l.map (latest key updates), ih.mpr ⟨hmem, rfl⟩, ?_⟩
      rw [replaceFirst_eq_map (hkeys ▸ hl) (hkeys ▸ ha a (List.mem_singleton_self a)), hstep]

lemma forall_mem_map_latest {P : α → Prop} (hmem : ∀ a ∈ updates, key a ∈ l.map key)
    (hl : ∀ a ∈ l, P a) :
    (∀ a ∈ l.map (latest key updates), P a) ↔ ∀ a, Table.LatestIn key updates a → P a := by
  constructor
  · intro h a ha
    have hin : a ∈ updates := List.mem_reverse.mp (List.mem_of_find?_eq_some ha)
    obtain ⟨b, hb, hkey⟩ := List.mem_map.mp (hmem a hin)
    exact h a (List.mem_map.mpr ⟨b, hb, latest_of_latestIn ha hkey.symm⟩)
  · intro h a ha
    obtain ⟨b, hb, rfl⟩ := List.mem_map.mp ha
    by_cases hkey : key b ∈ updates.map key
    · exact h _ (latestIn_latest hkey)
    · rw [latest_of_notMem hkey]
      exact hl b hb

end Lib

import Mathlib.Data.List.Forall2
import Mathlib.Data.List.Induction
import Mathlib.Tactic.Lemma

/-!
# Slices of arrays in memory

Arrays are allocated one after another. A slice is a window of an array, with room up to its
capacity, and `none` is the nil slice. `append` writes in place where there is room, and to a new
array otherwise; `spare` is the room that a new array has beyond its elements.

* `Fresh old arrays s xs`: the elements of `s` are `xs`, they are in an array allocated after
  `old`, and the arrays of `old` are as they were. Every operation on a fresh slice keeps it fresh.
* `forEach_rule` is the invariant rule of a loop over a slice, which may write to the slice.
* `rebuild_fresh`: a loop that appends to a new slice what it makes of each element.
-/

namespace Lib

/-- Arrays, in the order of their allocation. -/
abbrev Arrays (α : Type*) := List (List α)

/-- A window of an array. -/
structure Slice where
  array : ℕ
  offset : ℕ
  length : ℕ
  capacity : ℕ
deriving DecidableEq

namespace Slice

variable {α β σ τ : Type*}

/-! ## Operations -/

/-- The number of elements. -/
def count : Option Slice → ℕ
  | none => 0
  | some s => s.length

/-- An element. -/
def get? (arrays : Arrays α) (s : Option Slice) (i : ℕ) : Option α :=
  match s with
  | none => none
  | some s =>
    if i < s.length then arrays[s.array]?.bind (fun cells => cells[s.offset + i]?) else none

/-- All elements, if the array is there and as long as the slice says. -/
def read (arrays : Arrays α) : Option Slice → Option (List α)
  | none => some []
  | some s => arrays[s.array]?.bind fun cells =>
    if s.offset + s.length ≤ cells.length then some ((cells.drop s.offset).take s.length) else none

/-- Write an element in place. -/
def set (i : ℕ) (a : α) (s : Option Slice) (arrays : Arrays α) : Arrays α :=
  match s with
  | none => arrays
  | some s => arrays.modify s.array (fun cells => cells.set (s.offset + i) a)

/-- A slice of a new array, which has room for more. -/
def alloc (xs room : List α) (arrays : Arrays α) : Option Slice × Arrays α :=
  (some ⟨arrays.length, 0, xs.length, xs.length + room.length⟩, arrays ++ [xs ++ room])

/-- One more element, in place if there is room. -/
def append [Inhabited α] (spare : ℕ → ℕ) (a : α) (s : Option Slice) (arrays : Arrays α) :
    Option Slice × Arrays α :=
  match s with
  | none => alloc [a] (List.replicate (spare 0) default) arrays
  | some s =>
    if s.length < s.capacity then
      (some { s with length := s.length + 1 },
        arrays.modify s.array (fun cells => cells.set (s.offset + s.length) a))
    else
      alloc ((read arrays (some s)).getD [] ++ [a]) (List.replicate (spare s.length) default) arrays

/-- One element after another. -/
def appendAll [Inhabited α] (spare : ℕ → ℕ) (bs : List α) (s : Option Slice) (arrays : Arrays α) :
    Option Slice × Arrays α :=
  bs.foldl (fun out b => append spare b out.1 out.2) (s, arrays)

/-- Run the body for each index, with the element that is there by then. -/
def forEach (arrays : σ → Arrays α) (s : Option Slice) (body : ℕ → α → σ → σ) (start : σ) : σ :=
  (count s).fold
    (fun i _ st => match get? (arrays st) s i with
      | some a => body i a st
      | none => st)
    start

/-- A new slice with the elements of another. -/
def clone [Inhabited α] (s : Option Slice) (arrays : Arrays α) : Option Slice × Arrays α :=
  let (copy, arrays) := alloc (List.replicate (count s) default) [] arrays
  (copy, forEach id s (fun i a => set i a copy) arrays)

/-- What is made of the elements one after another, with a state that goes along. -/
def emitAll (emit : τ → α → τ × List β) (start : τ) (xs : List α) : τ × List β :=
  xs.foldl (fun out a => ((emit out.1 a).1, out.2 ++ (emit out.1 a).2)) (start, [])

/-- Append to a new slice what is made of each element. -/
def rebuild [Inhabited α] (spare : ℕ → ℕ) (emit : τ → α → τ × List α) (start : τ)
    (s : Option Slice) (arrays : Arrays α) : Option Slice × Arrays α :=
  (forEach (fun st => st.2.2) s
    (fun _ a st => ((emit st.1 a).1, appendAll spare (emit st.1 a).2 st.2.1 st.2.2))
    (start, none, arrays)).2

/-! ## Reading -/

variable {old arrays arrays' : Arrays α} {s : Option Slice} {xs : List α} {a : α} {i : ℕ}

lemma getElem?_extend {l l' : List α} (h : l <+: l') (hi : l[i]? = some a) :
    l'[i]? = some a := by
  obtain ⟨rest, rfl⟩ := h
  rw [List.getElem?_append_left (List.getElem?_eq_some_iff.mp hi).1, hi]

lemma read_eq_some {s : Slice} : read arrays (some s) = some xs ↔ ∃ cells,
    arrays[s.array]? = some cells ∧ s.offset + s.length ≤ cells.length ∧
      (cells.drop s.offset).take s.length = xs := by
  simp [read, Option.bind_eq_some_iff]

lemma length_of_read (h : read arrays s = some xs) : xs.length = count s := by
  cases s with
  | none =>
    obtain rfl : [] = xs := Option.some.inj h
    rfl
  | some s =>
    obtain ⟨cells, -, hfits, rfl⟩ := read_eq_some.mp h
    rw [List.length_take, List.length_drop, count]
    omega

lemma get?_of_read (h : read arrays s = some xs) (i : ℕ) : get? arrays s i = xs[i]? := by
  cases s with
  | none =>
    obtain rfl : [] = xs := Option.some.inj h
    rfl
  | some s =>
    obtain ⟨cells, hcells, -, rfl⟩ := read_eq_some.mp h
    rw [get?, hcells, Option.bind_some, List.getElem?_take, List.getElem?_drop]

lemma read_extend (h : read arrays s = some xs) (hext : arrays <+: arrays') :
    read arrays' s = some xs := by
  cases s with
  | none => exact h
  | some s =>
    obtain ⟨cells, hcells, hfits⟩ := read_eq_some.mp h
    exact read_eq_some.mpr ⟨cells, getElem?_extend hext hcells, hfits⟩

/-! ## Fresh slices -/

/-- The elements of the slice are `xs`, in an array allocated after `old`, which is unchanged. -/
inductive Fresh (old arrays : Arrays α) : Option Slice → List α → Prop
  | nil (kept : old <+: arrays) : Fresh old arrays none []
  | window {s : Slice} {xs front back : List α} (kept : old <+: arrays)
      (after : old.length ≤ s.array) (length : xs.length = s.length)
      (offset : front.length = s.offset) (cells : arrays[s.array]? = some (front ++ xs ++ back))
      (room : s.capacity ≤ s.length + back.length) : Fresh old arrays (some s) xs

lemma Fresh.kept (h : Fresh old arrays s xs) : old <+: arrays := by
  cases h with
  | nil kept => exact kept
  | window kept => exact kept

lemma Fresh.length (h : Fresh old arrays s xs) : xs.length = count s := by
  cases h with
  | nil => rfl
  | window _ _ length => exact length

lemma prefix_modify {l l' : List α} (h : l <+: l') {i : ℕ} (hi : l.length ≤ i) (f : α → α) :
    l <+: l'.modify i f := by
  obtain ⟨rest, rfl⟩ := h
  rw [List.prefix_iff_eq_take, List.take_modify, List.take_left, List.modify_eq_self hi]

lemma Fresh.weaken {older : Arrays α} (h : Fresh old arrays s xs) (hold : older <+: old) :
    Fresh older arrays s xs := by
  cases h with
  | nil kept => exact .nil (hold.trans kept)
  | window kept after length offset cells room =>
    exact .window (hold.trans kept) (Nat.le_trans hold.length_le after) length offset cells room

lemma Fresh.read (h : Fresh old arrays s xs) : read arrays s = some xs := by
  cases h with
  | nil => rfl
  | @window s xs front back _ _ length offset cells =>
    rw [Slice.read, cells, Option.bind_some, ← length, ← offset, List.append_assoc,
      if_pos (by simp only [List.length_append]; omega), List.drop_left, List.take_left]

lemma fresh_alloc (hkept : old <+: arrays) (xs room : List α) :
    Fresh old (alloc xs room arrays).2 (alloc xs room arrays).1 xs := by
  have hroom : xs.length + room.length ≤ xs.length + room.length := Nat.le_refl _
  refine .window (hkept.trans (List.prefix_append _ _)) hkept.length_le rfl
    (List.length_nil : ([] : List α).length = 0) ?_ hroom
  rw [alloc, List.nil_append, List.getElem?_concat_length]

lemma Fresh.set (h : Fresh old arrays s xs) (i : ℕ) (hi : i < xs.length) (a : α) :
    Fresh old (set i a s arrays) s (xs.set i a) := by
  cases h with
  | nil => exact absurd hi (Nat.not_lt_zero _)
  | @window s xs front back kept after length offset cells room =>
    refine .window (prefix_modify kept after _) after (by rw [List.length_set, length]) offset ?_
      room
    rw [Slice.set, List.getElem?_modify_eq, cells, Option.map_eq_map, Option.map_some, ← offset,
      List.append_assoc, List.set_append_right _ _ (by omega), Nat.add_sub_cancel_left,
      List.set_append_left _ _ hi, List.append_assoc]

theorem Fresh.append [Inhabited α] (h : Fresh old arrays s xs) (spare : ℕ → ℕ) (a : α) :
    Fresh old (append spare a s arrays).2 (append spare a s arrays).1 (xs ++ [a]) := by
  cases hs : s with
  | none =>
    subst hs
    cases h with
    | nil kept => exact fresh_alloc kept [a] _
  | some s =>
    subst hs
    dsimp only [Slice.append]
    split
    case isTrue hroom =>
      cases h with
      | @window _ _ front back kept after length offset cells room =>
        -- the room is behind the elements
        obtain ⟨b, back, rfl⟩ : ∃ b rest, back = b :: rest :=
          List.exists_cons_of_ne_nil (by rintro rfl; simp at room; omega)
        rw [List.length_cons] at room
        have hback : s.capacity ≤ s.length + 1 + back.length := by omega
        refine .window (prefix_modify kept after _) after (by simp [length]) offset ?_ hback
        rw [List.getElem?_modify_eq, cells, Option.map_eq_map, Option.map_some, ← offset, ← length,
          List.append_assoc, List.set_append_right _ _ (by omega), Nat.add_sub_cancel_left,
          List.set_append_right _ _ (Nat.le_refl _), Nat.sub_self, List.set_cons_zero]
        simp
    case isFalse =>
      rw [h.read, Option.getD_some]
      exact fresh_alloc h.kept _ _

lemma Fresh.appendAll [Inhabited α] (h : Fresh old arrays s xs) (spare : ℕ → ℕ) (bs : List α) :
    Fresh old (appendAll spare bs s arrays).2 (appendAll spare bs s arrays).1 (xs ++ bs) := by
  induction bs generalizing s arrays xs with
  | nil => rwa [List.append_nil]
  | cons b bs ih =>
    rw [List.append_cons]
    exact ih (h.append spare b)

/-! ## Loops -/

/-- What holds of the elements done, as the loop goes on, holds of all at the end. -/
theorem forEach_rule {view : σ → Arrays α} {body : ℕ → α → σ → σ} {start : σ}
    {P : List α → σ → Prop} (hcount : xs.length = count s) (hstart : P [] start)
    (hstep : ∀ done a rest st, xs = done ++ a :: rest → P done st →
      Slice.get? (view st) s done.length = some a ∧ P (done ++ [a]) (body done.length a st)) :
    P xs (forEach view s body start) := by
  have hfold : ∀ n ≤ xs.length, P (xs.take n) (n.fold
      (fun i _ st => match Slice.get? (view st) s i with
        | some a => body i a st
        | none => st) start) := by
    intro n hn
    induction n with
    | zero => exact hstart
    | succ n ih =>
      have hsplit : xs = xs.take n ++ xs[n] :: xs.drop (n + 1) := by
        rw [← List.drop_eq_getElem_cons, List.take_append_drop]
      have hlength : (xs.take n).length = n := by
        rw [List.length_take]
        omega
      obtain ⟨hget, hnext⟩ := hstep _ _ _ _ hsplit (ih (by omega))
      rw [hlength] at hget hnext
      rw [Nat.fold_succ, hget, List.take_add_one, List.getElem?_eq_getElem (by omega)]
      exact hnext
  have hall := hfold xs.length (Nat.le_refl _)
  rwa [List.take_length, hcount] at hall

lemma get?_append_cons {done rest : List α} (h : read arrays s = some (done ++ a :: rest)) :
    get? arrays s done.length = some a := by
  rw [get?_of_read h, List.getElem?_append_right (Nat.le_refl _), Nat.sub_self,
    List.getElem?_cons_zero]

/-- A loop that writes an element at its place each time. `later` says what the loop leaves alone,
and `R` what it makes of an element in the end. -/
theorem fresh_forEach (view : σ → Arrays α) (later : σ → σ → Prop) (R₀ : α → β → Prop)
    (R : σ → α → β → Prop) (start : σ) {body : ℕ → α → σ → σ} {bs : List β}
    (hrefl : later start start)
    (htrans : ∀ st st', later start st → later st st' → later start st')
    (hkeep : ∀ st st' a b, later st st' → R st a b → R st' a b)
    (hbody : ∀ i a b st ys, later start st → R₀ a b → Fresh old (view st) s ys → ys[i]? = some a →
      later st (body i a st) ∧ ∃ a', Fresh old (view (body i a st)) s (ys.set i a') ∧
        R (body i a st) a' b)
    (hfresh : Fresh old (view start) s xs) (hxs : List.Forall₂ R₀ xs bs) :
    later start (forEach view s body start) ∧ ∃ ys,
      Fresh old (view (forEach view s body start)) s ys ∧
        List.Forall₂ (R (forEach view s body start)) ys bs := by
  -- the elements done are changed, and the others are as they were
  have hloop : later start (forEach view s body start) ∧ ∃ changed,
      changed.length = xs.length ∧
      Fresh old (view (forEach view s body start)) s (changed ++ xs.drop xs.length) ∧
      List.Forall₂ (R (forEach view s body start)) changed (bs.take xs.length) := by
    refine forEach_rule (P := fun done st => later start st ∧ ∃ changed,
      changed.length = done.length ∧ Fresh old (view st) s (changed ++ xs.drop done.length) ∧
      List.Forall₂ (R st) changed (bs.take done.length)) hfresh.length
      ⟨hrefl, [], rfl, hfresh, .nil⟩ ?_
    rintro done a rest st rfl ⟨hlater, changed, hlength, hchanged, hall⟩
    rw [List.drop_left] at hchanged
    rw [← hlength] at hall ⊢
    refine ⟨get?_append_cons hchanged.read, ?_⟩
    have hdrop := List.forall₂_drop done.length hxs
    rw [List.drop_left] at hdrop
    obtain ⟨b, _, hab, -, hbs⟩ := List.forall₂_cons_left_iff.mp hdrop
    have hb : bs[changed.length]? = some b := by
      rw [hlength, ← List.head?_drop, hbs, List.head?_cons]
    obtain ⟨hnext, a', hset, hR⟩ := hbody changed.length a b st _ hlater hab hchanged
      (by simp)
    refine ⟨htrans _ _ hlater hnext, changed ++ [a'], by simp [hlength], ?_, ?_⟩
    · rw [List.set_append_right _ _ (Nat.le_refl _), Nat.sub_self, List.set_cons_zero] at hset
      rwa [List.append_cons done a rest, List.drop_left, ← List.append_cons]
    · rw [List.length_append, List.length_singleton, ← hlength, List.take_add_one, hb]
      exact List.rel_append (hall.imp fun _ _ => hkeep _ _ _ _ hnext) (.cons hR .nil)
  obtain ⟨hlater, ys, -, hys, hall⟩ := hloop
  rw [List.drop_length, List.append_nil] at hys
  rw [hxs.length_eq, List.take_length] at hall
  exact ⟨hlater, ys, hys, hall⟩

/-- A clone has the same elements. -/
theorem fresh_clone [Inhabited α] (h : read arrays s = some xs) :
    Fresh arrays (clone s arrays).2 (clone s arrays).1 xs := by
  have hlength := length_of_read h
  have hcopied : Fresh arrays (clone s arrays).2 (clone s arrays).1
      (xs ++ List.replicate (count s - xs.length) default) := by
    -- the elements done are copied, and the others are still zero
    refine forEach_rule (P := fun done copied => Fresh arrays copied _
      (done ++ List.replicate (count s - done.length) default)) hlength
      (fresh_alloc List.prefix_rfl _ _) ?_
    intro done a rest copied hsplit hdone
    subst hsplit
    refine ⟨get?_append_cons (read_extend h hdone.kept), ?_⟩
    obtain ⟨n, hn⟩ : ∃ n, count s - done.length = n + 1 := ⟨rest.length, by
      rw [← hlength, List.length_append, List.length_cons]
      omega⟩
    rw [hn] at hdone
    have hset := hdone.set done.length (by simp) a
    have hrest : count s - (done ++ [a]).length = n := by
      rw [List.length_append, List.length_singleton]
      omega
    rw [hrest]
    rwa [List.set_append_right _ _ (Nat.le_refl _), Nat.sub_self, List.replicate_succ,
      List.set_cons_zero, List.append_cons] at hset
  rwa [hlength, Nat.sub_self, List.replicate_zero, List.append_nil] at hcopied

lemma emitAll_concat (emit : τ → α → τ × List β) (start : τ) (xs : List α) (a : α) :
    emitAll emit start (xs ++ [a]) = ((emit (emitAll emit start xs).1 a).1,
      (emitAll emit start xs).2 ++ (emit (emitAll emit start xs).1 a).2) := by
  rw [emitAll, List.foldl_append, List.foldl_cons, List.foldl_nil]
  rfl

lemma emitAll_sublist {emit : τ → α → τ × List α} (h : ∀ t a, (emit t a).2.Sublist [a]) (start : τ)
    (xs : List α) : (emitAll emit start xs).2.Sublist xs := by
  induction xs using List.reverseRecOn with
  | nil => exact List.Sublist.refl _
  | append_singleton xs a ih =>
    rw [emitAll_concat]
    exact ih.append (h _ a)

lemma emitAll_unit (emit : Unit → α → Unit × List β) (xs : List α) :
    (emitAll emit () xs).2 = xs.flatMap fun a => (emit () a).2 := by
  induction xs using List.reverseRecOn with
  | nil => rfl
  | append_singleton xs a ih =>
    rw [emitAll_concat, ih, List.flatMap_append, List.flatMap_singleton]

lemma forall₂_emitAll {α' β' : Type*} {R : α → α' → Prop} {Q : β → β' → Prop}
    {emit : τ → α → τ × List β} {emit' : τ → α' → τ × List β'} {ys : List α'}
    (hemit : ∀ t a a', R a a' →
      (emit t a).1 = (emit' t a').1 ∧ List.Forall₂ Q (emit t a).2 (emit' t a').2)
    (h : List.Forall₂ R xs ys) (start : τ) :
    List.Forall₂ Q (emitAll emit start xs).2 (emitAll emit' start ys).2 := by
  have hfold : ∀ (t : τ) (made : List β) (made' : List β'), List.Forall₂ Q made made' →
      List.Forall₂ Q
        (xs.foldl (fun out a => ((emit out.1 a).1, out.2 ++ (emit out.1 a).2)) (t, made)).2
        (ys.foldl (fun out a => ((emit' out.1 a).1, out.2 ++ (emit' out.1 a).2)) (t, made')).2 := by
    induction h with
    | nil => exact fun _ _ _ hmade => hmade
    | @cons a a' _ _ ha _ ih =>
      intro t made made' hmade
      obtain ⟨hstate, hnew⟩ := hemit t a a' ha
      rw [List.foldl_cons, List.foldl_cons, hstate]
      exact ih _ _ _ (List.rel_append hmade hnew)
  exact hfold start [] [] .nil

/-- The new slice has what is made of all elements. -/
theorem fresh_rebuild [Inhabited α] (spare : ℕ → ℕ) (emit : τ → α → τ × List α) (start : τ)
    (h : read arrays s = some xs) :
    Fresh arrays (rebuild spare emit start s arrays).2 (rebuild spare emit start s arrays).1
      (emitAll emit start xs).2 := by
  refine (forEach_rule (P := fun done (st : τ × Option Slice × Arrays α) =>
    st.1 = (emitAll emit start done).1 ∧ Fresh arrays st.2.2 st.2.1 (emitAll emit start done).2)
    (length_of_read h) ⟨rfl, .nil List.prefix_rfl⟩ ?_).2
  rintro done a rest ⟨t, out, built⟩ rfl ⟨rfl, hdone⟩
  refine ⟨get?_append_cons (read_extend h hdone.kept), ?_⟩
  rw [emitAll_concat]
  exact ⟨rfl, hdone.appendAll spare _⟩

end Slice

end Lib

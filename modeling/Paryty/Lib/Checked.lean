import Mathlib.Tactic.Lemma
import Paryty.Lib.Wire

/-!
# Programs that check what they index

A program on a byte string either returns a value, refuses its input, or stops at a fault: an index
or a range outside the string.

`Computes x P` is the program's exact specification: it has no fault, and the values it can return
are those with `P`. The rules follow the program, one for each kind of step: `Computes.step` where a
step has one possible value, `Computes.refuse_bind` where it stops or goes on, `Computes.bind` in
general.
-/

namespace Lib.Checked

/-- How a program stops without a value. -/
inductive Stop
  /-- It indexed outside its data. -/
  | fault
  /-- It found that its input is not of the kind it reads. -/
  | refusal
deriving DecidableEq

/-- Stop where the input is of the wrong kind. -/
def refuse (wrong : Prop) [Decidable wrong] : Except Stop Unit :=
  if wrong then .error .refusal else .ok ()

/-- `data[i]`. -/
def index (data : Bytes) (i : ℕ) : Except Stop UInt8 :=
  match data[i]? with
  | some b => .ok b
  | none => .error .fault

/-- `&data[i..j]`. -/
def range (data : Bytes) (i j : ℕ) : Except Stop Bytes :=
  if i ≤ j ∧ j ≤ data.length then .ok (Wire.slice data i j) else .error .fault

/-- What is found, or else nothing is returned. -/
def found {α : Type} : Option α → Except Stop α
  | some a => .ok a
  | none => .error .refusal

variable {α β : Type} {x : Except Stop α} {f : α → Except Stop β} {P P' : α → Prop} {Q : β → Prop}
  {wrong : Prop} [Decidable wrong] {data : Bytes} {i j : ℕ} {a : α}

/-- No fault, and the values that are returned are those with `P`. -/
def Computes (x : Except Stop α) (P : α → Prop) : Prop :=
  x ≠ .error .fault ∧ ∀ a, x = .ok a ↔ P a

lemma Computes.congr (hx : Computes x P) (h : ∀ a, P a ↔ P' a) : Computes x P' :=
  ⟨hx.1, fun a => (hx.2 a).trans (h a)⟩

lemma computes_ok (a : α) : Computes (.ok a) fun b => b = a :=
  ⟨by simp, fun b => by simp [eq_comm]⟩

lemma computes_refusal : Computes (.error .refusal : Except Stop α) fun _ => False :=
  ⟨by simp, fun b => by simp⟩

lemma Computes.bind {Q : α → β → Prop} (hx : Computes x P)
    (hf : ∀ a, P a → Computes (f a) (Q a)) :
    Computes (x >>= f) fun b => ∃ a, P a ∧ Q a b := by
  cases x with
  | error stop =>
    have hstop : stop ≠ .fault := fun h => hx.1 (h ▸ rfl)
    refine ⟨fun h => hstop (Except.error.inj h), fun b => ⟨fun h => (nomatch h), ?_⟩⟩
    rintro ⟨a, ha, _⟩
    exact nomatch (hx.2 a).mpr ha
  | ok a =>
    have ha : P a := (hx.2 a).mp rfl
    refine ⟨(hf a ha).1, fun b => ((hf a ha).2 b).trans ⟨fun h => ⟨a, ha, h⟩, ?_⟩⟩
    rintro ⟨a', ha', h⟩
    obtain rfl := Except.ok.inj ((hx.2 a').mpr ha')
    exact h

lemma Computes.step (hx : Computes x fun b => b = a) (hf : Computes (f a) Q) :
    Computes (x >>= f) Q :=
  (hx.bind (Q := fun _ => Q) fun _ hb => hb ▸ hf).congr fun _ =>
    ⟨fun ⟨_, _, h⟩ => h, fun h => ⟨a, rfl, h⟩⟩

lemma Computes.refuse_bind {f : Unit → Except Stop β} (hf : ¬ wrong → Computes (f ()) Q) :
    Computes (refuse wrong >>= f) fun b => ¬ wrong ∧ Q b := by
  unfold refuse
  split
  case isTrue h =>
    refine computes_refusal.congr fun b => ⟨False.elim, fun hb => hb.1 h⟩
  case isFalse h =>
    exact (hf h).congr fun b => ⟨fun hb => ⟨h, hb⟩, fun hb => hb.2⟩

lemma computes_refuse : Computes (refuse wrong) fun _ => ¬ wrong := by
  unfold refuse
  split
  case isTrue h => exact computes_refusal.congr fun _ => ⟨False.elim, fun hb => hb h⟩
  case isFalse h => exact (computes_ok ()).congr fun _ => ⟨fun _ => h, fun _ => rfl⟩

lemma computes_index (h : i < data.length) :
    Computes (index data i) fun b => b = data.getD i 0 := by
  have hsome := List.getElem?_eq_getElem h
  rw [index, hsome, List.getD_eq_getElem?_getD, hsome]
  exact computes_ok data[i]

lemma computes_range (hij : i ≤ j) (hj : j ≤ data.length) :
    Computes (range data i j) fun part => part = Wire.slice data i j := by
  rw [range, if_pos ⟨hij, hj⟩]
  exact computes_ok _

lemma computes_found {o : Option α} : Computes (found o) fun a => o = some a := by
  cases o with
  | none => exact computes_refusal.congr fun a => ⟨False.elim, fun h => nomatch h⟩
  | some a => exact (computes_ok a).congr fun b => by simp [eq_comm]

end Lib.Checked

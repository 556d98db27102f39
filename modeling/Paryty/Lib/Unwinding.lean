import Mathlib.Data.List.Basic
import Mathlib.Logic.Function.Basic

/-!
# Unwinding

A deterministic machine takes events and emits outputs. `unwinding` says when an observer cannot
tell a run from the run in which only its own events happened: there is a restriction of the
state to what is the observer's such that its own events act on the restriction as they act on
the whole, and the others leave the restriction alone and emit nothing for it. Both are asked
only of events that a guard lets through.

The two machines may differ: the second one may know less of what the first one is given.
-/

namespace Lib

/-- What an event does to the state and what it emits. -/
structure Machine (σ ε ω : Type*) where
  step : σ → ε → σ × List ω

namespace Machine

variable {σ σ' ε ω : Type*}

/-- The state after the events and everything that was emitted. -/
def run (M : Machine σ ε ω) : σ → List ε → σ × List ω
  | s, [] => (s, [])
  | s, e :: es =>
    let next := M.step s e
    let rest := run M next.1 es
    (rest.1, next.2 ++ rest.2)

/-- Every event passes the guard in the state it meets. -/
def Guarded (M : Machine σ ε ω) (guard : σ → ε → Prop) : σ → List ε → Prop
  | _, [] => True
  | s, e :: es => guard s e ∧ Guarded M guard (M.step s e).1 es

instance decidableGuarded (M : Machine σ ε ω) (guard : σ → ε → Prop)
    [∀ s e, Decidable (guard s e)] : ∀ s es, Decidable (M.Guarded guard s es)
  | _, [] => inferInstanceAs (Decidable True)
  | s, e :: es =>
    haveI := decidableGuarded M guard (M.step s e).1 es
    inferInstanceAs (Decidable (guard s e ∧ M.Guarded guard (M.step s e).1 es))

/-- The observer's view of a guarded run is the run of its own events. -/
theorem unwinding {M : Machine σ ε ω} {M' : Machine σ' ε ω} {restrict : σ → σ'}
    {shown : ε → Bool} {mine : ω → Bool} {guard : σ → ε → Prop}
    (hshown : ∀ s e, guard s e → shown e = true →
      M'.step (restrict s) e = (restrict (M.step s e).1, (M.step s e).2.filter mine))
    (hhidden : ∀ s e, guard s e → shown e = false →
      restrict (M.step s e).1 = restrict s ∧ (M.step s e).2.filter mine = [])
    {s : σ} {es : List ε} (h : M.Guarded guard s es) :
    M'.run (restrict s) (es.filter shown) =
      (restrict (M.run s es).1, (M.run s es).2.filter mine) := by
  induction es generalizing s with
  | nil => rfl
  | cons e es ih =>
    obtain ⟨hguard, hrest⟩ := h
    have hes := ih hrest
    cases hshows : shown e with
    | true =>
      rw [List.filter_cons_of_pos hshows, run, hshown s e hguard hshows]
      simp only [hes, run, List.filter_append]
    | false =>
      obtain ⟨hsame, hsilent⟩ := hhidden s e hguard hshows
      rw [List.filter_cons_of_neg (by simp [hshows]), ← hsame, hes]
      simp only [run, List.filter_append, hsilent, List.nil_append]

end Machine

/-! ## Restricting maps -/

section RestrictMap

variable {κ β : Type*} {mine : κ → Bool} {default : β} {f : κ → β}

/-- The map on the keys that are mine, and a default elsewhere. -/
def restrictMap (mine : κ → Bool) (default : β) (f : κ → β) : κ → β :=
  fun k => if mine k then f k else default

lemma restrictMap_apply {k : κ} (hk : mine k = true) : restrictMap mine default f k = f k :=
  if_pos hk

lemma restrictMap_const : restrictMap mine default (fun _ => default) = fun _ => default :=
  funext fun _ => ite_self default

variable [DecidableEq κ] {k : κ} {b : β}

lemma restrictMap_update (hk : mine k = true) : restrictMap mine default (Function.update f k b) =
    Function.update (restrictMap mine default f) k b := by
  funext k'
  by_cases h : k' = k
  · subst h
    simp [restrictMap, hk]
  · simp [restrictMap, h]

lemma restrictMap_update_of_neg (hk : mine k = false) :
    restrictMap mine default (Function.update f k b) = restrictMap mine default f := by
  funext k'
  by_cases h : k' = k
  · subst h
    simp [restrictMap, hk]
  · simp [restrictMap, h]

end RestrictMap

end Lib

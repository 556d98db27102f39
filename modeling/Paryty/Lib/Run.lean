import Mathlib.Data.List.Basic
import Mathlib.Data.List.Induction
import Mathlib.Tactic.Lemma

/-!
# Guarded runs of a deterministic step function

A system is a partial step function `step : σ → ε → Option σ`: an event `e` either is not
enabled in a state (`none`) or leads to exactly one next state. Everything a system leaves
open (the schedule, the outcome of a call, a crash) is data of the event.

* `Run step guard s es t`: the events `es` lead from `s` to `t`, and every one of them
  satisfied `guard` in the state it fired in. `Unguarded` is the guard that asks nothing.
* `Run.invariant`: the induction rule; a property that every guarded step keeps holds after
  every guarded run.
* `run_iff_foldlM`, `run_iff_foldlM_restrict`: runs are computed by a monadic fold, so a
  concrete run is checked by evaluation.
* `forall_prefix_iff_run`: the events that keep a property all the way are those of a guarded run.
* `always_iff_allowed`, for step functions that are total: a property holds in every state of a
  run if and only if every event is one that keeps it.
-/

namespace Lib

variable {σ ε : Type*} {step : σ → ε → Option σ} {guard : σ → ε → Prop}

/-- The events `es` lead from the first state to the last, each allowed by `guard`. -/
inductive Run (step : σ → ε → Option σ) (guard : σ → ε → Prop) : σ → List ε → σ → Prop
  | nil (s : σ) : Run step guard s [] s
  | snoc {s t u : σ} {es : List ε} {e : ε} (run : Run step guard s es t)
      (allowed : guard t e) (fired : step t e = some u) : Run step guard s (es ++ [e]) u

/-- The guard that allows every event in every state. -/
def Unguarded (_ : σ) (_ : ε) : Prop := True

namespace Run

/-- A property kept by every guarded step holds after every guarded run. -/
theorem invariant {I : σ → Prop}
    (keeps : ∀ s e t, I s → guard s e → step s e = some t → I t)
    {s t : σ} {es : List ε} (run : Run step guard s es t) (hs : I s) : I t := by
  induction run with
  | nil => exact hs
  | snoc _ allowed fired ih => exact keeps _ _ _ ih allowed fired

/-- A run under a guard is a run under any weaker guard. -/
theorem mono {guard' : σ → ε → Prop} (weaker : ∀ s e, guard s e → guard' s e)
    {s t : σ} {es : List ε} (run : Run step guard s es t) : Run step guard' s es t := by
  induction run with
  | nil => exact nil _
  | snoc _ allowed fired ih => exact ih.snoc (weaker _ _ allowed) fired

/-- Runs compose. -/
theorem append {s t u : σ} {es fs : List ε} (first : Run step guard s es t)
    (second : Run step guard t fs u) : Run step guard s (es ++ fs) u := by
  induction second with
  | nil => rwa [List.append_nil]
  | snoc _ allowed fired ih =>
    rw [← List.append_assoc]
    exact ih.snoc allowed fired

end Run

/-! ## Runs by evaluation -/

/-- `step`, disabled where the guard does not hold. -/
def restrict (step : σ → ε → Option σ) (guard : σ → ε → Prop)
    [∀ s e, Decidable (guard s e)] (s : σ) (e : ε) : Option σ :=
  if guard s e then step s e else none

/-- A guarded run is the fold of the restricted step over its events. -/
theorem run_iff_foldlM_restrict [∀ s e, Decidable (guard s e)] {s t : σ} {es : List ε} :
    Run step guard s es t ↔ es.foldlM (restrict step guard) s = some t := by
  constructor
  · intro run
    induction run with
    | nil => rfl
    | snoc _ allowed fired ih =>
      rw [List.foldlM_append, ih]
      simp [restrict, allowed, fired]
  · induction es using List.reverseRecOn generalizing t with
    | nil =>
      intro h
      obtain rfl : s = t := by simpa using h
      exact Run.nil s
    | append_singleton es e ih =>
      intro h
      rw [List.foldlM_append] at h
      obtain ⟨m, hm, hlast⟩ := Option.bind_eq_some_iff.mp h
      have hfired : restrict step guard m e = some t := by simpa using hlast
      unfold restrict at hfired
      split at hfired
      case isTrue allowed => exact (ih hm).snoc allowed hfired
      case isFalse => exact absurd hfired (by simp)

/-- An unguarded run is the fold of the step function over its events. -/
theorem run_iff_foldlM {s t : σ} {es : List ε} :
    Run step Unguarded s es t ↔ es.foldlM step s = some t := by
  let _ : ∀ (s : σ) (e : ε), Decidable (Unguarded s e) := fun _ _ => isTrue trivial
  have hrestrict : restrict step Unguarded = step := by
    funext s e
    exact if_pos trivial
  rw [run_iff_foldlM_restrict, hrestrict]

lemma Run.foldlM {s t : σ} {es : List ε} (run : Run step guard s es t) :
    es.foldlM step s = some t :=
  run_iff_foldlM.mp (run.mono fun _ _ _ => trivial)

/-- A fold fails at the first event that is disabled in the state it meets. -/
theorem foldlM_eq_none {s : σ} {es : List ε} : es.foldlM step s = none ↔
    ∃ pre e post t, es = pre ++ e :: post ∧ pre.foldlM step s = some t ∧ step t e = none := by
  constructor
  · induction es generalizing s with
    | nil => exact fun h => nomatch h
    | cons e es ih =>
      intro h
      rw [List.foldlM_cons] at h
      cases hfirst : step s e with
      | none => exact ⟨[], e, es, s, rfl, rfl, hfirst⟩
      | some t =>
        rw [hfirst] at h
        obtain ⟨pre, e', post, u, rfl, hpre, hnone⟩ := ih h
        refine ⟨e :: pre, e', post, u, rfl, ?_, hnone⟩
        rw [List.foldlM_cons, hfirst]
        exact hpre
  · rintro ⟨pre, e, post, t, rfl, hpre, hnone⟩
    rw [List.foldlM_append, hpre]
    simp [List.foldlM_cons, hnone]

/-- If the guard is what a step needs to succeed and to keep `P`, then the events lead to states
with `P` all the way exactly if they are a guarded run. -/
theorem forall_prefix_iff_run {P : σ → Prop}
    (hstep : ∀ s e, P s → ((∃ t, step s e = some t ∧ P t) ↔ guard s e)) {s : σ} (hs : P s)
    {es : List ε} : (∀ pre, pre <+: es → ∃ t, pre.foldlM step s = some t ∧ P t) ↔
      ∃ t, Run step guard s es t := by
  constructor
  · induction es using List.reverseRecOn with
    | nil => exact fun _ => ⟨s, .nil s⟩
    | append_singleton es e ih =>
      intro h
      obtain ⟨t, run⟩ := ih fun pre hpre => h pre (hpre.trans (List.prefix_append _ _))
      obtain ⟨t', ht', hP⟩ := h es (List.prefix_append _ _)
      obtain rfl : t = t' := Option.some.inj (run.foldlM.symm.trans ht')
      obtain ⟨u, hu, hlast⟩ := h (es ++ [e]) List.prefix_rfl
      rw [List.foldlM_append, ht'] at hu
      have hfired : step t e = some u := by simpa using hu
      exact ⟨u, run.snoc ((hstep t e hP).mp ⟨u, hfired, hlast⟩) hfired⟩
  · rintro ⟨t, run⟩
    induction run with
    | nil =>
      intro pre hpre
      obtain rfl := List.prefix_nil.mp hpre
      exact ⟨_, rfl, hs⟩
    | snoc run allowed fired ih =>
      intro pre hpre
      rcases List.prefix_concat_iff.mp hpre with rfl | hshorter
      · obtain ⟨t', ht', hP⟩ := ih _ List.prefix_rfl
        obtain rfl := Option.some.inj (run.foldlM.symm.trans ht')
        obtain ⟨u, hu, hlast⟩ := (hstep _ _ hP).mpr allowed
        refine ⟨u, ?_, hlast⟩
        rw [List.foldlM_append, ht']
        simpa using hu
      · exact ih pre hshorter

/-! ## Total step functions -/

section Total

variable {next : σ → ε → σ} {I P : σ → Prop}

/-- `P` holds in every state of the run. -/
def Always (next : σ → ε → σ) (P : σ → Prop) : σ → List ε → Prop
  | s, [] => P s
  | s, e :: es => P s ∧ Always next P (next s e) es

/-- Every event satisfies the guard in the state it meets. -/
def Allowed (next : σ → ε → σ) (guard : σ → ε → Prop) : σ → List ε → Prop
  | _, [] => True
  | s, e :: es => guard s e ∧ Allowed next guard (next s e) es

instance instDecidableAllowed [∀ s e, Decidable (guard s e)] (s : σ) (es : List ε) :
    Decidable (Allowed next guard s es) :=
  match es with
  | [] => .isTrue trivial
  | e :: es =>
    have := instDecidableAllowed (next s e) es
    inferInstanceAs (Decidable (_ ∧ _))

/-- If the guard is what an event needs to keep `P`, then `P` holds throughout exactly the runs
whose events are allowed, among the runs that stay within `Q`. -/
theorem always_iff_allowed_within {Q : σ → Prop}
    (hI : ∀ s e, I s → P s → P (next s e) → I (next s e))
    (hstep : ∀ s e, I s → P s → Q (next s e) → (P (next s e) ↔ guard s e)) {s : σ} (hs : I s)
    (hP : P s) {es : List ε} (hQ : Always next Q s es) :
    Always next P s es ↔ Allowed next guard s es := by
  have hfirst {R : σ → Prop} {s : σ} {es : List ε} (h : Always next R s es) : R s := by
    cases es with
    | nil => exact h
    | cons e es => exact h.1
  induction es generalizing s with
  | nil => simpa [Always, Allowed] using hP
  | cons e es ih =>
    have hstep := hstep s e hs hP (hfirst hQ.2)
    constructor
    · rintro ⟨-, hrest⟩
      have hnext := hfirst hrest
      exact ⟨hstep.mp hnext, (ih (hI s e hs hP hnext) hnext hQ.2).mp hrest⟩
    · rintro ⟨hguard, hrest⟩
      have hnext := hstep.mpr hguard
      exact ⟨hP, (ih (hI s e hs hP hnext) hnext hQ.2).mpr hrest⟩

lemma Always.foldl {s : σ} {es : List ε} (h : Always next P s es) : P (es.foldl next s) := by
  induction es generalizing s with
  | nil => exact h
  | cons e es ih => exact ih h.2

lemma always_iff_forall_prefix {s : σ} {es : List ε} :
    Always next P s es ↔ ∀ pre, pre <+: es → P (pre.foldl next s) := by
  induction es generalizing s with
  | nil => simp [Always, List.prefix_nil]
  | cons e es ih =>
    rw [Always, ih]
    constructor
    · rintro ⟨hs, hrest⟩ pre hpre
      rcases List.prefix_cons_iff.mp hpre with rfl | ⟨rest, rfl, hrest'⟩
      · exact hs
      · exact hrest rest hrest'
    · intro h
      exact ⟨h [] List.nil_prefix, fun pre hpre =>
        h (e :: pre) (List.cons_prefix_cons.mpr ⟨rfl, hpre⟩)⟩

lemma always_of_forall (h : ∀ s, P s) (s : σ) (es : List ε) : Always next P s es := by
  induction es generalizing s with
  | nil => exact h s
  | cons e es ih => exact ⟨h s, ih _⟩

lemma Allowed.of_append {s : σ} {es fs : List ε} {e : ε}
    (h : Allowed next guard s (es ++ e :: fs)) : guard (es.foldl next s) e := by
  induction es generalizing s with
  | nil => exact h.1
  | cons e' es ih => exact ih h.2

lemma Allowed.mono {guard' : σ → ε → Prop} (hI : ∀ s e, I s → guard s e → I (next s e))
    (hweaker : ∀ s e, I s → guard s e → guard' s e) {s : σ} (hs : I s) {es : List ε}
    (h : Allowed next guard s es) : Allowed next guard' s es := by
  induction es generalizing s with
  | nil => trivial
  | cons e es ih => exact ⟨hweaker s e hs h.1, ih (hI s e hs h.1) h.2⟩

/-- What allowed events keep holds throughout the allowed runs. -/
theorem Allowed.always (hI : ∀ s e, I s → guard s e → I (next s e)) (hP : ∀ s, I s → P s) {s : σ}
    (hs : I s) {es : List ε} (h : Allowed next guard s es) : Always next P s es := by
  induction es generalizing s with
  | nil => exact hP s hs
  | cons e es ih => exact ⟨hP s hs, ih (hI s e hs h.1) h.2⟩

/-- Two guards allow the same runs if they agree where an invariant holds that either of them
keeps. -/
theorem allowed_iff_allowed {guard' : σ → ε → Prop} (hI : ∀ s e, I s → guard s e → I (next s e))
    (hiff : ∀ s e, I s → (guard s e ↔ guard' s e)) {s : σ} (hs : I s) {es : List ε} :
    Allowed next guard s es ↔ Allowed next guard' s es :=
  ⟨Allowed.mono hI (fun s e hs => (hiff s e hs).mp) hs,
    Allowed.mono (fun s e hs h => hI s e hs ((hiff s e hs).mpr h)) (fun s e hs => (hiff s e hs).mpr)
      hs⟩

/-- Without a bound on the runs. -/
theorem always_iff_allowed (hI : ∀ s e, I s → I (next s e))
    (hstep : ∀ s e, I s → P s → (P (next s e) ↔ guard s e)) {s : σ} (hs : I s) (hP : P s)
    (es : List ε) : Always next P s es ↔ Allowed next guard s es :=
  always_iff_allowed_within (fun s e hs _ _ => hI s e hs) (fun s e hs hP _ => hstep s e hs hP) hs hP
    (always_of_forall (fun _ => trivial) s es)

end Total

end Lib

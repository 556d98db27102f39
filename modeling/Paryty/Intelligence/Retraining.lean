import Paryty.Intelligence.EnsembleForecast
import Paryty.Lib.Cache
import Paryty.Lib.Run
import Paryty.Lib.Threads

/-!
# Forecasts and retraining

The threads that share the cached ensembles of `intelligence/server/forecasting_service.py`. A
forecast holds the lock of its tenant and metric, and fits the ensemble if it is not fitted yet. A
retrain of the pipeline, whether drift or the scheduler asks for it, is such a forecast. The call
`RetrainModels` fits the ensembles of several metrics one after the other, without any lock.

The code of each thread is cut at the points where another thread can come between. An ensemble is
identified by its key and a number; of a fit, the model keeps when its history was fetched.
-/

namespace Paryty.Intelligence.Retraining

open Ensemble (Model models)

variable {κ : Type}

/-! ## Ensembles and threads -/

/-- When the history was fetched that each sub-model is fitted on. -/
abbrev Fits := Model → Option ℕ

/-- `ForecastEnsemble.is_fitted`: at least one sub-model is fitted. -/
def isFitted (fits : Fits) : Bool := models.any fun m => (fits m).isSome

/-- What the threads share. -/
structure Shared (κ : Type) where
  clock : ℕ
  /-- `_ensembles`, the least recently used one first. -/
  ensembles : Lib.Table (κ × ℕ) κ Prod.fst
  /-- How many ensembles have been made. -/
  created : ℕ
  fits : κ × ℕ → Fits
  /-- `_locks`: those that are held. -/
  locked : κ → Bool
  /-- When the last retrain began that has reported success. -/
  required : κ → Option ℕ

/-- Who calls: a forecast, `_do_retrain` of the pipeline, or `RetrainModels`. -/
inductive Job
  | forecast
  | retrain
  | rpc
deriving DecidableEq

/-- `_forecast_sync` takes the lock, `_retrain_sync` does not. -/
def Job.locks : Job → Bool
  | forecast | retrain => true
  | rpc => false

/-- Where a thread stands, with the key it works on and the number of the ensemble it holds. -/
inductive Stage (κ : Type)
  /-- Between two metrics. -/
  | idle
  | getting (k : κ)
  /-- A new ensemble that is not in the cache yet. -/
  | created (k : κ) (n : ℕ)
  | ready (k : κ) (n : ℕ)
  | fetching (k : κ) (n : ℕ)
  /-- `fit_all` on a history, with the sub-models that are still to be fitted. -/
  | fitting (k : κ) (n : ℕ) (time : ℕ) (rest : List Model)
  | predicting (k : κ) (n : ℕ)
  | returned
  | raised
deriving DecidableEq

namespace Stage

/-- The key it works on. -/
def key? : Stage κ → Option κ
  | getting k | created k _ | ready k _ | fetching k _ | fitting k .. | predicting k _ => some k
  | idle | returned | raised => none

/-- The ensemble it holds. -/
def ensemble? : Stage κ → Option (κ × ℕ)
  | created k n | ready k n | fetching k n | fitting k n .. | predicting k n => some (k, n)
  | idle | getting _ | returned | raised => none

end Stage

structure Thread (κ : Type) where
  job : Job
  /-- When the call began. -/
  start : ℕ
  /-- What the forecast must be newer than: the last retrain before it began. -/
  due : Option ℕ := none
  /-- The metrics that are still to be worked on. -/
  todo : List κ
  /-- The metrics that are done, whether fitted or skipped. -/
  done : List κ := []
  stage : Stage κ := .idle
deriving DecidableEq

/-- What the outside does to a step: the query or a fit succeeds, there are too few values, a fit
fails, or something raises. -/
inductive Outcome
  | ok
  | few
  | failed
  | raised
deriving DecidableEq

/-! ## Steps -/

variable [DecidableEq κ]

namespace Shared

def setLock (s : Shared κ) (k : κ) (held : Bool) : Shared κ :=
  { s with locked := Function.update s.locked k held }

def setFit (s : Shared κ) (e : κ × ℕ) (m : Model) (time : ℕ) : Shared κ :=
  { s with fits := Function.update s.fits e (Function.update (s.fits e) m (some time)) }

/-- A retrain reports success. -/
def require (s : Shared κ) (start : ℕ) (done : List κ) : Shared κ :=
  { s with required := fun k =>
      if k ∈ done then some (max start ((s.required k).getD 0)) else s.required k }

end Shared

/-- The lock of the key is released, if it is the thread's. -/
def release (t : Thread κ) (k : κ) (s : Shared κ) : Shared κ :=
  if t.job.locks then s.setLock k false else s

/-- The work on a key is over. -/
def leave (t : Thread κ) (k : κ) (s : Shared κ) : Shared κ × Thread κ :=
  (release t k s, { t with stage := .idle, done := k :: t.done })

/-- Something raises: `_retrain_sync` logs it and goes on, the others end. -/
def fail (t : Thread κ) (k : κ) (s : Shared κ) : Shared κ × Thread κ :=
  if t.job.locks then (release t k s, { t with stage := .raised }) else leave t k s

/-- One step of a thread. -/
def advance (limit : ℕ) (o : Outcome) (t : Thread κ) (s : Shared κ) : Shared κ × Thread κ :=
  match t.stage with
  | .idle =>
    match t.todo with
    | [] =>
      (if t.job = .forecast then s else s.require t.start t.done, { t with stage := .returned })
    | k :: todo =>
      if t.job.locks ∧ s.locked k then (s, t)
      else (if t.job.locks then s.setLock k true else s, { t with stage := .getting k, todo })
  | .getting k =>
    if o = .raised then fail t k s
    else
      match s.ensembles.find? k with
      | some row =>
        ({ s with ensembles := s.ensembles.moveToEnd k }, { t with stage := .ready k row.2 })
      | none =>
        ({ s with
            created := s.created + 1
            fits := Function.update s.fits (k, s.created) fun _ => none },
          { t with stage := .created k s.created })
  | .created k n =>
    ({ s with ensembles := (s.ensembles.put (k, n)).newest limit }, { t with stage := .ready k n })
  | .ready k n =>
    if t.job.locks ∧ isFitted (s.fits (k, n)) then (s, { t with stage := .predicting k n })
    else (s, { t with stage := .fetching k n })
  | .fetching k n =>
    match o with
    | .raised => fail t k s
    | .few => leave t k s
    | _ => (s, { t with stage := .fitting k n s.clock models })
  | .fitting k n time (m :: rest) =>
    (if o = .ok then s.setFit (k, n) m time else s, { t with stage := .fitting k n time rest })
  | .fitting k n _ [] =>
    if o = .raised then fail t k s
    else if t.job.locks then (s, { t with stage := .predicting k n })
    else leave t k s
  | .predicting k _ => if o = .raised then fail t k s else leave t k s
  | .returned | .raised => (s, t)

abbrev System (κ : Type) := Lib.Threads (Shared κ) (Thread κ)

/-- A call arrives, or a thread takes a step. -/
inductive Event (κ : Type)
  | forecast (k : κ)
  | retrain (k : κ)
  | retrainModels (metrics : List κ)
  | act (i : ℕ) (o : Outcome)

def System.empty : System κ where
  shared := ⟨0, .empty, 0, fun _ _ => none, fun _ => false, fun _ => none⟩

/-- Time goes on. -/
def tick (s : System κ) : System κ :=
  { s with shared := { s.shared with clock := s.shared.clock + 1 } }

/-- One event; `limit` is the number of ensembles in the cache. -/
def next (limit : ℕ) (s : System κ) (event : Event κ) : System κ :=
  let s := tick s
  match event with
  | .forecast k => s.spawn
      { job := .forecast, start := s.shared.clock, due := s.shared.required k, todo := [k] }
  | .retrain k => s.spawn
      { job := .retrain, start := s.shared.clock, due := s.shared.required k, todo := [k] }
  | .retrainModels metrics => s.spawn { job := .rpc, start := s.shared.clock, todo := metrics }
  | .act i o => s.act (fun _ => advance limit o) i

/-! ## What retraining should do -/

/-- Every sub-model that is fitted is fitted on history of that time or later. -/
def Since (fits : Fits) (time : ℕ) : Prop := ∀ m, ∀ fetched ∈ fits m, time ≤ fetched

instance (fits : Fits) (time : ℕ) : Decidable (Since fits time) :=
  decidable_of_iff (∀ m ∈ models, ∀ fetched ∈ fits m, time ≤ fetched)
    ⟨fun h m => h m (by cases m <;> decide), fun h m _ => h m⟩

/-- Retrains take effect, and no forecast uses an ensemble that another thread is fitting. -/
structure Effective (s : System κ) : Prop where
  fresh : ∀ t ∈ s.threads, ∀ k n, t.stage = .predicting k n → ∀ time ∈ t.due,
    isFitted (s.shared.fits (k, n)) ∧ Since (s.shared.fits (k, n)) time
  apart : ∀ (i j : ℕ) (t u : Thread κ) k n time rest, s.threads[i]? = some t →
    s.threads[j]? = some u → i ≠ j → t.stage = .predicting k n → u.stage ≠ .fitting k n time rest

/-- A thread may take up a key, if not `RetrainModels` and another thread would work on it at the
same time. -/
def Alone (s : System κ) (i : ℕ) (t : Thread κ) (k : κ) : Prop :=
  ∀ u ∈ s.threads.eraseIdx i, u.stage.key? = some k → t.job ≠ .rpc ∧ u.job ≠ .rpc

instance (s : System κ) (i : ℕ) (t : Thread κ) (k : κ) : Decidable (Alone s i t k) :=
  inferInstanceAs (Decidable (∀ _ ∈ _, _))

/-- The step leaves no fit behind that is older than a retrain that goes on as a success. -/
def Stage.Careful (o : Outcome) (t : Thread κ) (s : Shared κ) : Stage κ → Prop
  | .getting k => t.job = .rpc → o = .raised →
      ∀ row ∈ s.ensembles.find? k, Since (s.fits row) t.start
  | .ready k n => t.job = .retrain → Since (s.fits (k, n)) t.start
  | .fetching k n => t.job = .rpc → o = .few ∨ o = .raised → Since (s.fits (k, n)) t.start
  | .fitting k n _ (m :: _) => t.job = .rpc → o ≠ .ok → ∀ fetched ∈ s.fits (k, n) m,
      t.start ≤ fetched
  | .fitting k n _ [] => t.job ≠ .rpc → o ≠ .raised → t.due.isSome → isFitted (s.fits (k, n))
  | .idle | .created _ _ | .predicting _ _ | .returned | .raised => True

instance (o : Outcome) (t : Thread κ) (s : Shared κ) :
    ∀ stage : Stage κ, Decidable (stage.Careful o t s)
  | .getting _ | .ready _ _ | .fetching _ _ | .fitting _ _ _ (_ :: _) | .fitting _ _ _ [] =>
    inferInstanceAs (Decidable (_ → _))
  | .idle | .created _ _ | .predicting _ _ | .returned | .raised => .isTrue trivial

/-- Retrains fit, and `RetrainModels` stays away from the keys of others. -/
def Careful (s : System κ) : Event κ → Prop
  | .forecast _ | .retrain _ | .retrainModels _ => True
  | .act i o => ∀ t ∈ s.threads[i]?, t.stage.Careful o t s.shared ∧
      (t.stage = .idle → ∀ k ∈ t.todo.head?, Alone s i t k)

instance (s : System κ) : ∀ event, Decidable (Careful s event)
  | .forecast _ | .retrain _ | .retrainModels _ => .isTrue trivial
  | .act i _ => inferInstanceAs (Decidable (∀ t ∈ s.threads[i]?, _))

end Paryty.Intelligence.Retraining

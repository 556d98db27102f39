import Paryty.Intelligence.Pipeline

/-!
# Tenant isolation of the intelligence pipeline

Most of the pipeline's state lives under the tenant. Drift detectors live under the metric name,
model files under a file name made of the metric name, Dragonfly's sets under a key in which
tenant, agent and metric are joined. `Separation` says which of these names are the tenant's, and
an event is admitted if it uses only names of the tenant or only names of others.

`State.restrict` is the part of the state that is one tenant's. Each operation has two lemmas:
for the tenant itself it commutes with the restriction (`.._own`), for another it leaves the
restriction alone (`.._other`). `pipeline_isolated` is the unwinding of the two.
-/

namespace Paryty.Intelligence

open Lib (restrictMap restrictMap_apply restrictMap_const restrictMap_update
  restrictMap_update_of_neg)

variable {N : Numerics}

/-! ## Names and their tenants -/

/-- The metric names, model files and keys of Dragonfly that are the tenant's. -/
structure Separation where
  metric : MetricName → Bool
  file : FileName → Bool
  key : String → Bool

variable (sep : Separation) (tenant : TenantID)

/-- The keys of the services' caches that are the tenant's. -/
def isOf (key : TenantID × MetricName) : Bool := key.1 = tenant

/-- The tenant's part of the state. -/
def State.restrict (s : State N) : State N where
  dragonfly := restrictMap sep.key N.noPoints s.dragonfly
  models := s.models.only sep.file
  detectors := s.detectors.only sep.metric
  counts := restrictMap (fun key => key.1 = tenant) 0 s.counts
  lastForecast := restrictMap (fun key => key.1 = tenant) 0 s.lastForecast
  knownMetrics := s.knownMetrics.filter (fun key => key.1 = tenant)
  watchedMetrics := s.watchedMetrics.filter (fun key => key.1 = tenant)
  lastRetrain := restrictMap (fun key => key.1 = tenant) 0 s.lastRetrain
  fallbackBuffer := restrictMap (fun key => key.1 = tenant) [] s.fallbackBuffer
  ensembles := s.ensembles.only (isOf tenant)
  statistical := s.statistical.only (isOf tenant)
  forests := s.forests.only (isOf tenant)
  autoencoders := s.autoencoders.only (isOf tenant)
  pending := s.pending.filter (fun job => job.tenantID = tenant)

/-- The event concerns the tenant. -/
def Event.concerns : Event N → Bool
  | .message rec .. => processedUnder rec = tenant
  | .sweep _ | .retrainCheck | .restart => true
  | .work job _ => job.tenantID = tenant

/-- No cache of detectors gives up more of the tenant's than it would if there were no others. -/
def State.DetectorsUndisturbed (cfg : Config) (key : TenantID × MetricName) (s : State N) : Prop :=
  s.statistical.Undisturbed (isOf tenant) cfg.maxDetectorsPerCache key ∧
  s.forests.Undisturbed (isOf tenant) cfg.maxDetectorsPerCache key ∧
  s.autoencoders.Undisturbed (isOf tenant) cfg.maxDetectorsPerCache key

/-- The event uses names of the tenant if it concerns the tenant and names of others if not, no
drift detector is at the cap, and no cache gives up more of the tenant's entries than it would if
there were no others. -/
def Separation.Admits (cfg : Config) (s : State N) : Event N → Prop
  | .message rec .. =>
    (cfg.driftEnabled = true → sep.metric rec.body.metricName = decide (processedUnder rec = tenant)
      ∧ s.detectors.rows.length < cfg.maxDriftDetectors) ∧
    sep.key (metricKey rec.body.metricName rec.body.agentID (processedUnder rec)) =
      decide (processedUnder rec = tenant)
  | .sweep _ | .retrainCheck | .restart => True
  | .work job _ =>
    match job.task with
    | .anomalyDetection =>
      sep.key (metricKey job.metricName job.agentID job.tenantID) =
        decide (job.tenantID = tenant) ∧
      s.DetectorsUndisturbed tenant cfg (job.tenantID, job.metricName)
    | .forecast | .retrain =>
      (∀ file, Footprint ensembleModel job.metricName file →
        sep.file file = decide (job.tenantID = tenant)) ∧
      s.ensembles.Undisturbed (isOf tenant) cfg.maxEnsembles (job.tenantID, job.metricName)

variable {sep tenant} {cfg : Config} {s : State N} {other : TenantID} {agentID : AgentID}
  {metricName : MetricName}

lemma isOf_own : isOf tenant (tenant, metricName) = true := by simp [isOf]

lemma isOf_other (hother : other ≠ tenant) : isOf tenant (other, metricName) = false := by
  simp [isOf, hother]

/-! ## The callback -/

lemma filter_insertNew {α : Type} [DecidableEq α] {mine : α → Bool} {a : α} (l : List α)
    (ha : mine a = true) : (insertNew a l).filter mine = insertNew a (l.filter mine) := by
  unfold insertNew
  by_cases h : a ∈ l
  · rw [if_pos h, if_pos (List.mem_filter.mpr ⟨h, ha⟩)]
  · rw [if_neg h, if_neg (fun hmem => h (List.mem_filter.mp hmem).1)]
    simp [List.filter_append, ha]

lemma filter_insertNew_of_neg {α : Type} [DecidableEq α] {mine : α → Bool} {a : α} (l : List α)
    (ha : mine a = false) : (insertNew a l).filter mine = l.filter mine := by
  unfold insertNew
  split
  · rfl
  · simp [List.filter_append, ha]

section StoreMetric

variable (timestamp : Int) (value : N.Value) (outcome : StoreOutcome)

lemma storeMetric_own (hkey : sep.key (metricKey metricName agentID tenant) = true) :
    storeMetric tenant agentID metricName timestamp value outcome (s.restrict sep tenant) =
      (storeMetric tenant agentID metricName timestamp value outcome s).restrict sep tenant := by
  cases outcome with
  | stored =>
    simp [storeMetric, State.restrict, restrictMap_update, restrictMap_apply, hkey]
  | dropped => rfl
  | raised =>
    simp [storeMetric, State.restrict, restrictMap_update, restrictMap_apply]

lemma storeMetric_other (hother : other ≠ tenant)
    (hkey : sep.key (metricKey metricName agentID other) = false) :
    (storeMetric other agentID metricName timestamp value outcome s).restrict sep tenant =
      s.restrict sep tenant := by
  cases outcome with
  | stored => simp [storeMetric, State.restrict, restrictMap_update_of_neg, hkey]
  | dropped => rfl
  | raised => simp [storeMetric, State.restrict, restrictMap_update_of_neg, hother]

end StoreMetric

section CheckDrift

variable (value : N.Value) (timestamp now : Int)

lemma checkDrift_own (hmetric : sep.metric metricName = true)
    (hcap : s.detectors.rows.length < cfg.maxDriftDetectors) :
    checkDrift cfg tenant agentID metricName value timestamp now (s.restrict sep tenant) =
      ((checkDrift cfg tenant agentID metricName value timestamp now s).1.restrict sep tenant,
        (checkDrift cfg tenant agentID metricName value timestamp now s).2) := by
  have hcap' : (s.restrict sep tenant).detectors.rows.length < cfg.maxDriftDetectors :=
    Nat.lt_of_le_of_lt Lib.Table.length_only_le hcap
  have hfind : (s.restrict sep tenant).detectors.find? metricName = s.detectors.find? metricName :=
    Lib.Table.find?_only hmetric
  have hlast : (s.restrict sep tenant).lastRetrain (tenant, metricName) =
      s.lastRetrain (tenant, metricName) := by simp [State.restrict, restrictMap_apply]
  have hput (d : N.Drift) : (s.restrict sep tenant).detectors.put (metricName, d) =
      (s.detectors.put (metricName, d)).only sep.metric :=
    (Lib.Table.only_put (r := (metricName, d)) hmetric).symm
  simp only [checkDrift, if_neg (Nat.not_le.mpr hcap), if_neg (Nat.not_le.mpr hcap'), hfind, hput,
    hlast]
  split
  · rfl
  · split
    · simp [State.restrict, restrictMap_update, List.filter_append]
    · rfl

lemma checkDrift_other (hother : other ≠ tenant) (hmetric : sep.metric metricName = false)
    (hcap : s.detectors.rows.length < cfg.maxDriftDetectors) :
    (checkDrift cfg other agentID metricName value timestamp now s).1.restrict sep tenant =
      s.restrict sep tenant := by
  have hput (d : N.Drift) : (s.detectors.put (metricName, d)).only sep.metric =
      s.detectors.only sep.metric :=
    Lib.Table.only_put_of_neg (r := (metricName, d)) hmetric
  simp only [checkDrift, if_neg (Nat.not_le.mpr hcap)]
  split
  · simp [State.restrict, hput]
  · split
    · simp [State.restrict, hput, restrictMap_update_of_neg, List.filter_append, hother]
    · simp [State.restrict, hput]

lemma tenantID_of_checkDrift :
    ∀ out ∈ (checkDrift cfg other agentID metricName value timestamp now s).2,
      out.tenantID = other := by
  simp only [checkDrift]
  generalize (if cfg.maxDriftDetectors ≤ s.detectors.rows.length then _ else _) = detectors
  split
  · simp
  · split
    · simp [Output.tenantID]
    · simp [Output.tenantID]

end CheckDrift

lemma bufferAdd_own : bufferAdd cfg tenant agentID metricName (s.restrict sep tenant) =
    (bufferAdd cfg tenant agentID metricName s).restrict sep tenant := by
  have hcount : (s.restrict sep tenant).counts (tenant, agentID, metricName) =
      s.counts (tenant, agentID, metricName) := by simp [State.restrict, restrictMap_apply]
  simp only [bufferAdd, hcount]
  split
  · simp [State.restrict, restrictMap_update, filter_insertNew, List.filter_append]
  · simp [State.restrict, restrictMap_update, filter_insertNew]

lemma bufferAdd_other (hother : other ≠ tenant) :
    (bufferAdd cfg other agentID metricName s).restrict sep tenant = s.restrict sep tenant := by
  simp only [bufferAdd]
  split
  · simp [State.restrict, restrictMap_update_of_neg, filter_insertNew_of_neg, List.filter_append,
      hother]
  · simp [State.restrict, restrictMap_update_of_neg, filter_insertNew_of_neg, hother]

lemma addMetric_own : addMetric tenant metricName (s.restrict sep tenant) =
    (addMetric tenant metricName s).restrict sep tenant := by
  simp [addMetric, State.restrict, filter_insertNew]

lemma addMetric_other (hother : other ≠ tenant) :
    (addMetric other metricName s).restrict sep tenant = s.restrict sep tenant := by
  simp [addMetric, State.restrict, filter_insertNew_of_neg, hother]

section OnMetric

variable {msg : Body N} {now : Int} {outcome : StoreOutcome}

lemma onMetric_own (htenant : resolveTenant msg = tenant)
    (hdrift : cfg.driftEnabled = true → sep.metric msg.metricName = true ∧
      s.detectors.rows.length < cfg.maxDriftDetectors)
    (hkey : sep.key (metricKey msg.metricName msg.agentID tenant) = true) :
    onMetric cfg msg now outcome (s.restrict sep tenant) =
      ((onMetric cfg msg now outcome s).1.restrict sep tenant,
        (onMetric cfg msg now outcome s).2) := by
  unfold onMetric
  rw [htenant]
  split
  case h_2 => rfl
  case h_1 value timestamp _ _ =>
    have hdetectors : (storeMetric tenant msg.agentID msg.metricName timestamp value outcome
        s).detectors = s.detectors := by
      cases outcome <;> rfl
    simp only [storeMetric_own timestamp value outcome hkey]
    cases hd : cfg.driftEnabled with
    | false =>
      simp only [Bool.false_eq_true, if_false]
      split <;> split <;> simp only [bufferAdd_own, addMetric_own]
    | true =>
      obtain ⟨hmetric, hcap⟩ := hdrift hd
      rw [← hdetectors] at hcap
      simp only [if_true, checkDrift_own value timestamp now hmetric hcap]
      split <;> split <;> simp only [bufferAdd_own, addMetric_own]

lemma onMetric_other (hother : resolveTenant msg ≠ tenant)
    (hdrift : cfg.driftEnabled = true → sep.metric msg.metricName = false ∧
      s.detectors.rows.length < cfg.maxDriftDetectors)
    (hkey : sep.key (metricKey msg.metricName msg.agentID (resolveTenant msg)) = false) :
    (onMetric cfg msg now outcome s).1.restrict sep tenant = s.restrict sep tenant := by
  unfold onMetric
  split
  case h_2 => rfl
  case h_1 value timestamp _ _ =>
    have hdetectors : (storeMetric (resolveTenant msg) msg.agentID msg.metricName timestamp value
        outcome s).detectors = s.detectors := by
      cases outcome <;> rfl
    have hstore := storeMetric_other timestamp value outcome hother hkey (s := s)
    cases hd : cfg.driftEnabled with
    | false =>
      simp only [Bool.false_eq_true, if_false]
      split <;> split <;> simp only [bufferAdd_other hother, addMetric_other hother, hstore]
    | true =>
      obtain ⟨hmetric, hcap⟩ := hdrift hd
      rw [← hdetectors] at hcap
      have hcheck : ((checkDrift cfg (resolveTenant msg) msg.agentID msg.metricName value timestamp
          now _).1).restrict sep tenant = _ :=
        checkDrift_other value timestamp now hother hmetric hcap
      simp only [if_true]
      split <;> split <;> simp only [bufferAdd_other hother, addMetric_other hother, hcheck, hstore]

lemma tenantID_of_onMetric :
    ∀ out ∈ (onMetric cfg msg now outcome s).2, out.tenantID = resolveTenant msg := by
  unfold onMetric
  split
  case h_2 => simp
  case h_1 value timestamp _ _ =>
    cases hd : cfg.driftEnabled with
    | false => simp
    | true =>
      simp only [if_true]
      exact tenantID_of_checkDrift value timestamp now

end OnMetric

/-! ## Detection -/

section UseCache

variable {τ β : Type} {cache : Cache τ} {limit : ℕ} {made : τ} {use : τ → τ × β}
  {mine : TenantID × MetricName → Bool} {key : TenantID × MetricName}

lemma useCache_own (hmine : mine key = true) (hkept : cache.Undisturbed mine limit key) :
    useCache limit made use key (cache.only mine) =
      ((useCache limit made use key cache).1.only mine, (useCache limit made use key cache).2) := by
  have hfetch := Lib.Table.fetch_only limit (key, made) hmine hkept
  simp only [useCache, hfetch]
  rw [Lib.Table.replace_only hmine]

lemma useCache_other (hmine : mine key = false) (hkept : cache.Undisturbed mine limit key) :
    (useCache limit made use key cache).1.only mine = cache.only mine := by
  have hfetch := Lib.Table.fetch_of_neg limit (key, made) hmine hkept
  simp only [useCache]
  rw [Lib.Table.replace_of_neg hmine, hfetch]

end UseCache

section Detect

variable {points : List (Int × N.Value)}

lemma detectSync_own (hkept : s.DetectorsUndisturbed tenant cfg (tenant, metricName)) :
    detectSync cfg tenant metricName points (s.restrict sep tenant) =
      ((detectSync cfg tenant metricName points s).1.restrict sep tenant,
        (detectSync cfg tenant metricName points s).2) := by
  obtain ⟨hstatistical, hforests, hautoencoders⟩ := hkept
  simp only [detectSync, State.restrict, useCache_own isOf_own hstatistical]
  split <;> split <;>
    simp only [useCache_own isOf_own hforests, useCache_own isOf_own hautoencoders]

lemma detectSync_other (hother : other ≠ tenant)
    (hkept : s.DetectorsUndisturbed tenant cfg (other, metricName)) :
    (detectSync cfg other metricName points s).1.restrict sep tenant = s.restrict sep tenant := by
  obtain ⟨hstatistical, hforests, hautoencoders⟩ := hkept
  have hneg : isOf tenant (other, metricName) = false := isOf_other hother
  simp only [detectSync, State.restrict, useCache_other hneg hstatistical]
  split <;> split <;> simp only [useCache_other hneg hforests, useCache_other hneg hautoencoders]

variable {job : Job} {env : JobEnv}

lemma detectionWindow_own (hjob : job.tenantID = tenant)
    (hkey : sep.key (metricKey job.metricName job.agentID tenant) = true) :
    detectionWindow cfg job env (s.restrict sep tenant) = detectionWindow cfg job env s := by
  subst hjob
  simp [detectionWindow, State.restrict, restrictMap_apply, hkey]

lemma runAnomalyDetection_own (hjob : job.tenantID = tenant)
    (hkey : sep.key (metricKey job.metricName job.agentID tenant) = true)
    (hkept : s.DetectorsUndisturbed tenant cfg (tenant, job.metricName)) :
    runAnomalyDetection cfg job env (s.restrict sep tenant) =
      ((runAnomalyDetection cfg job env s).1.restrict sep tenant,
        (runAnomalyDetection cfg job env s).2) := by
  simp only [runAnomalyDetection, detectionWindow_own hjob hkey, hjob]
  split
  · rfl
  · split
    · rfl
    · simp only [detectSync_own hkept]
      split <;> rfl

lemma runAnomalyDetection_other (hjob : job.tenantID ≠ tenant)
    (hkept : s.DetectorsUndisturbed tenant cfg (job.tenantID, job.metricName)) :
    (runAnomalyDetection cfg job env s).1.restrict sep tenant = s.restrict sep tenant := by
  simp only [runAnomalyDetection]
  split
  · rfl
  · split
    · rfl
    · split <;> exact detectSync_other hjob hkept

lemma tenantID_of_runAnomalyDetection :
    ∀ out ∈ (runAnomalyDetection cfg job env s).2, out.tenantID = job.tenantID := by
  simp only [runAnomalyDetection]
  split
  · simp
  · split
    · simp
    · split
      · simp
      · simp [Output.tenantID]

end Detect

/-! ## Forecasts -/

section Forecast

variable {history history' : History N} {job : Job} {env : JobEnv}

lemma getEnsemble_own
    (hfile : ∀ file, Footprint ensembleModel metricName file → sep.file file = true)
    (hkept : s.ensembles.Undisturbed (isOf tenant) cfg.maxEnsembles (tenant, metricName)) :
    getEnsemble cfg tenant metricName (s.restrict sep tenant) =
      ((getEnsemble cfg tenant metricName s).1.restrict sep tenant,
        (getEnsemble cfg tenant metricName s).2) := by
  have hload : load (s.restrict sep tenant).models ensembleModel metricName =
      load s.models ensembleModel metricName := load_only hfile
  have hkey : (s.ensembles.only (isOf tenant)).HasKey (tenant, metricName) ↔
      s.ensembles.HasKey (tenant, metricName) := Lib.Table.hasKey_only isOf_own
  have hfetch (made : N.Ensemble) := Lib.Table.fetch_only (t := s.ensembles) (p := isOf tenant)
    cfg.maxEnsembles ((tenant, metricName), made) isOf_own hkept
  have hensembles : (s.restrict sep tenant).ensembles = s.ensembles.only (isOf tenant) := rfl
  simp only [getEnsemble, hload, hkey, hensembles, hfetch]
  rfl

lemma getEnsemble_other (hother : other ≠ tenant)
    (hkept : s.ensembles.Undisturbed (isOf tenant) cfg.maxEnsembles (other, metricName)) :
    (getEnsemble cfg other metricName s).1.restrict sep tenant = s.restrict sep tenant := by
  have hfetch (made : N.Ensemble) := Lib.Table.fetch_of_neg (t := s.ensembles) (p := isOf tenant)
    cfg.maxEnsembles ((other, metricName), made) (isOf_other hother) hkept
  simp only [getEnsemble, State.restrict, hfetch]

lemma predictWith_own (now : Int) (ensemble : N.Ensemble) :
    predictWith cfg tenant metricName now ensemble (s.restrict sep tenant) =
      ((predictWith cfg tenant metricName now ensemble s).1.restrict sep tenant,
        (predictWith cfg tenant metricName now ensemble s).2) := by
  have hreplace (e : N.Ensemble) := Lib.Table.replace_only (t := s.ensembles) (p := isOf tenant)
    (r := ((tenant, metricName), e)) isOf_own
  simp only [predictWith, State.restrict, hreplace]

lemma predictWith_other (hother : other ≠ tenant) (now : Int) (ensemble : N.Ensemble) :
    (predictWith cfg other metricName now ensemble s).1.restrict sep tenant =
      s.restrict sep tenant := by
  have hreplace (e : N.Ensemble) := Lib.Table.replace_of_neg (t := s.ensembles) (p := isOf tenant)
    (r := ((other, metricName), e)) (isOf_other hother)
  simp only [predictWith, State.restrict, hreplace]

lemma persistState_own (ensemble : N.Ensemble) (outcome : SaveOutcome)
    (hfile : ∀ file, Footprint ensembleModel metricName file → sep.file file = true) :
    persistState metricName ensemble outcome (s.restrict sep tenant) =
      (persistState metricName ensemble outcome s).restrict sep tenant := by
  have hsave : save (s.models.only sep.file) ensembleModel metricName (N.getState ensemble)
      outcome = (save s.models ensembleModel metricName (N.getState ensemble) outcome).only
        sep.file := save_only hfile _ _
  simp only [persistState, State.restrict, hsave]

lemma persistState_other (ensemble : N.Ensemble) (outcome : SaveOutcome)
    (hfile : ∀ file, Footprint ensembleModel metricName file → sep.file file = false) :
    (persistState metricName ensemble outcome s).restrict sep tenant = s.restrict sep tenant := by
  have hsave : (save s.models ensembleModel metricName (N.getState ensemble) outcome).only
      sep.file = s.models.only sep.file := save_of_neg hfile _ _
  simp only [persistState, State.restrict, hsave]

lemma forecastSync_own (hjob : job.tenantID = tenant)
    (hhistory : ∀ metric agent now, history' tenant metric agent now =
      history tenant metric agent now)
    (hfile : ∀ file, Footprint ensembleModel job.metricName file → sep.file file = true)
    (hkept : s.ensembles.Undisturbed (isOf tenant) cfg.maxEnsembles (tenant, job.metricName)) :
    forecastSync cfg history' job env (s.restrict sep tenant) =
      ((forecastSync cfg history job env s).1.restrict sep tenant,
        (forecastSync cfg history job env s).2) := by
  simp only [forecastSync, hjob, getEnsemble_own hfile hkept, hhistory]
  split
  · simp only [predictWith_own]
  · split
    · rfl
    · split
      · rfl
      · simp only [persistState_own _ _ hfile, predictWith_own]

lemma forecastSync_other (hjob : job.tenantID ≠ tenant)
    (hfile : ∀ file, Footprint ensembleModel job.metricName file → sep.file file = false)
    (hkept : s.ensembles.Undisturbed (isOf tenant) cfg.maxEnsembles
      (job.tenantID, job.metricName)) :
    (forecastSync cfg history job env s).1.restrict sep tenant = s.restrict sep tenant := by
  have hget : (getEnsemble cfg job.tenantID job.metricName s).1.restrict sep tenant =
      s.restrict sep tenant := getEnsemble_other hjob hkept
  simp only [forecastSync]
  split
  · simp only [predictWith_other hjob, hget]
  · split
    · exact hget
    · split
      · exact hget
      · simp only [predictWith_other hjob, persistState_other _ _ hfile, hget]

lemma tenantID_of_forecastSync :
    ∀ out ∈ (forecastSync cfg history job env s).2.1, out.tenantID = job.tenantID := by
  have hloaded : ∀ out ∈ (getEnsemble cfg job.tenantID job.metricName s).2.1,
      out.tenantID = job.tenantID := by
    simp only [getEnsemble]
    split
    · simp
    · simp [Output.tenantID]
  simp only [forecastSync]
  split
  · exact hloaded
  · split
    · exact hloaded
    · split <;> exact hloaded

lemma runForecast_own {s' : State N} (hjob : job.tenantID = tenant)
    (hsync : forecastSync cfg history' job env s' =
      ((forecastSync cfg history job env s).1.restrict sep tenant,
        (forecastSync cfg history job env s).2)) :
    runForecast cfg history' job env s' =
      ((runForecast cfg history job env s).1.restrict sep tenant,
        (runForecast cfg history job env s).2) := by
  unfold runForecast
  rw [hsync]
  rcases forecastSync cfg history job env s with ⟨s₁, loaded, response⟩
  cases response with
  | none => rfl
  | some response => simp [State.restrict, restrictMap_update, hjob]

lemma runForecast_other (hjob : job.tenantID ≠ tenant)
    (hsync : (forecastSync cfg history job env s).1.restrict sep tenant = s.restrict sep tenant) :
    (runForecast cfg history job env s).1.restrict sep tenant = s.restrict sep tenant := by
  unfold runForecast
  rw [← hsync]
  rcases forecastSync cfg history job env s with ⟨s₁, loaded, response⟩
  cases response with
  | none => rfl
  | some response => simp [State.restrict, restrictMap_update_of_neg, hjob]

lemma tenantID_of_runForecast :
    ∀ out ∈ (runForecast cfg history job env s).2, out.tenantID = job.tenantID := by
  have hloaded : ∀ out ∈ (forecastSync cfg history job env s).2.1, out.tenantID = job.tenantID :=
    tenantID_of_forecastSync
  unfold runForecast
  generalize forecastSync cfg history job env s = result at hloaded
  rcases result with ⟨s₁, loaded, response⟩
  cases response with
  | none => exact hloaded
  | some response =>
    intro out hout
    rcases List.mem_append.mp hout with hout | hout
    · exact hloaded out hout
    · rw [List.mem_singleton.mp hout]
      rfl

end Forecast

/-! ## Jobs and the whole system -/

lemma restrict_start (dragonfly : String → N.SortedSet) (models : Directory N.EnsembleState) :
    (State.start dragonfly models).restrict sep tenant =
      .start (restrictMap sep.key N.noPoints dragonfly) (models.only sep.file) := by
  simp only [State.start, State.restrict, restrictMap_const, Lib.Table.only_empty,
    List.filter_nil]

lemma restrict_init : (State.init : State N).restrict sep tenant = .init := by
  simp only [State.init, restrict_start, restrictMap_const, Lib.Table.only_empty]

section Step

variable {history history' : History N} {job : Job} {env : JobEnv}

lemma jobRun_own (hjob : job.tenantID = tenant)
    (hhistory : ∀ metric agent now, history' tenant metric agent now =
      history tenant metric agent now)
    (hadmits : sep.Admits tenant cfg s (.work job env)) :
    job.run cfg history' env (s.restrict sep tenant) =
      ((job.run cfg history env s).1.restrict sep tenant, (job.run cfg history env s).2) := by
  simp only [Separation.Admits, hjob, decide_true] at hadmits
  simp only [Job.run]
  cases htask : job.task with
  | anomalyDetection =>
    rw [htask] at hadmits
    exact runAnomalyDetection_own hjob hadmits.1 hadmits.2
  | forecast =>
    rw [htask] at hadmits
    exact runForecast_own hjob (forecastSync_own hjob hhistory hadmits.1 hadmits.2)
  | retrain =>
    rw [htask] at hadmits
    simp only [doRetrain, forecastSync_own hjob hhistory hadmits.1 hadmits.2]

lemma jobRun_other (hjob : job.tenantID ≠ tenant)
    (hadmits : sep.Admits tenant cfg s (.work job env)) :
    (job.run cfg history env s).1.restrict sep tenant = s.restrict sep tenant := by
  simp only [Separation.Admits, hjob, decide_false] at hadmits
  simp only [Job.run]
  cases htask : job.task with
  | anomalyDetection =>
    rw [htask] at hadmits
    exact runAnomalyDetection_other hjob hadmits.2
  | forecast =>
    rw [htask] at hadmits
    exact runForecast_other hjob (forecastSync_other hjob hadmits.1 hadmits.2)
  | retrain =>
    rw [htask] at hadmits
    exact forecastSync_other hjob hadmits.1 hadmits.2

lemma tenantID_of_jobRun :
    ∀ out ∈ (job.run cfg history env s).2, out.tenantID = job.tenantID := by
  simp only [Job.run]
  cases job.task with
  | anomalyDetection => exact tenantID_of_runAnomalyDetection
  | forecast => exact tenantID_of_runForecast
  | retrain => exact tenantID_of_forecastSync

lemma filter_of_tenantID {outs : List (Output N)} {owner : TenantID}
    (h : ∀ out ∈ outs, out.tenantID = owner) : outs.filter (fun out => out.tenantID = tenant) =
      if owner = tenant then outs else [] := by
  split
  case isTrue heq => exact List.filter_eq_self.mpr fun out hout => by simp [h out hout, heq]
  case isFalse hne => exact List.filter_eq_nil_iff.mpr fun out hout => by simp [h out hout, hne]

lemma filter_map_job {keys : List (TenantID × MetricName)} {task : Task} :
    (keys.map (fun key => (⟨task, key.1, "", key.2⟩ : Job))).filter
        (fun job => job.tenantID = tenant) =
      (keys.filter (fun key => key.1 = tenant)).map (fun key => ⟨task, key.1, "", key.2⟩) := by
  rw [List.filter_map]
  rfl

lemma dueForecasts_own (now : Int) : dueForecasts cfg now (s.restrict sep tenant) =
    (dueForecasts cfg now s).filter (fun job => job.tenantID = tenant) := by
  unfold dueForecasts
  split
  case isFalse => rfl
  case isTrue =>
    rw [filter_map_job, List.filter_filter]
    simp only [State.restrict, List.filter_filter]
    refine congrArg _ (List.filter_congr fun key _ => ?_)
    by_cases hkey : key.1 = tenant
    · simp [hkey, restrictMap]
    · simp [hkey]

lemma restrict_erase_pending :
    ({ s with pending := s.pending.erase job } : State N).restrict sep tenant =
      { s.restrict sep tenant with pending := (s.restrict sep tenant).pending.erase job } := by
  simp only [State.restrict, List.erase_filter]

lemma step_own {e : Event N} (hconcerns : e.concerns tenant = true)
    (hhistory : ∀ metric agent now, history' tenant metric agent now =
      history tenant metric agent now)
    (hadmits : sep.Admits tenant cfg s e) :
    step cfg history' (s.restrict sep tenant) e = ((step cfg history s e).1.restrict sep tenant,
      (step cfg history s e).2.filter (fun out => out.tenantID = tenant)) := by
  cases e with
  | message rec now outcome =>
    have htenant : processedUnder rec = tenant := of_decide_eq_true hconcerns
    obtain ⟨hdrift, hkey⟩ := hadmits
    simp only [htenant, decide_true] at hdrift hkey
    simp only [step, filter_of_tenantID tenantID_of_onMetric]
    rw [if_pos (show resolveTenant (consume rec) = tenant from htenant)]
    exact onMetric_own htenant hdrift hkey
  | sweep now =>
    simp only [step, dueForecasts_own]
    simp [State.restrict]
  | retrainCheck =>
    simp only [step, State.restrict, List.filter_append, filter_map_job, List.filter_nil]
  | work job env =>
    have hjob : job.tenantID = tenant := of_decide_eq_true hconcerns
    have hpending : job ∈ (s.restrict sep tenant).pending ↔ job ∈ s.pending := by
      simp [State.restrict, hjob]
    simp only [step, hpending]
    split
    · rw [← restrict_erase_pending, filter_of_tenantID tenantID_of_jobRun, if_pos hjob]
      exact jobRun_own hjob hhistory hadmits
    · rfl
  | restart =>
    simp only [step, restrict_start, List.filter_nil]
    rfl

lemma step_other {e : Event N} (hconcerns : e.concerns tenant = false)
    (hadmits : sep.Admits tenant cfg s e) :
    (step cfg history s e).1.restrict sep tenant = s.restrict sep tenant ∧
      (step cfg history s e).2.filter (fun out => out.tenantID = tenant) = [] := by
  cases e with
  | message rec now outcome =>
    have htenant : processedUnder rec ≠ tenant := of_decide_eq_false hconcerns
    obtain ⟨hdrift, hkey⟩ := hadmits
    simp only [htenant, decide_false] at hdrift hkey
    refine ⟨onMetric_other htenant hdrift hkey, ?_⟩
    simp only [step, filter_of_tenantID tenantID_of_onMetric]
    exact if_neg htenant
  | work job env =>
    have hjob : job.tenantID ≠ tenant := of_decide_eq_false hconcerns
    simp only [step]
    split
    · have hpending : job ∉ (s.restrict sep tenant).pending := by simp [State.restrict, hjob]
      constructor
      · calc ((job.run cfg history env { s with pending := s.pending.erase job }).1).restrict sep
              tenant
            = ({ s with pending := s.pending.erase job } : State N).restrict sep tenant :=
              jobRun_other hjob hadmits
          _ = s.restrict sep tenant := by
              rw [restrict_erase_pending, List.erase_of_not_mem hpending]
      · rw [filter_of_tenantID tenantID_of_jobRun, if_neg hjob]
    · exact ⟨rfl, rfl⟩
  | sweep _ | retrainCheck | restart => cases hconcerns

end Step

/-! ## The whole run -/

lemma processedUnder_iff {rec : Record N} (hrec : rec.body.tenantID = "") :
    processedUnder rec = tenant ↔
      (extractTenant rec.body.topic ≠ "" ∧ extractTenant rec.body.topic = tenant) ∨
        (extractTenant rec.body.topic = "" ∧ tenant = "default") := by
  simp only [processedUnder, consume, resolveTenant, hrec, if_true]
  by_cases htopic : extractTenant rec.body.topic = ""
  · simp [htopic, eq_comm]
  · simp [htopic]

/-- What a run publishes, triggers and loads for a tenant is what the run of the tenant's events
alone does, with the tenant's history, if every event is admitted. A record of the tenant's topic
without a tenant is processed under it if its own field `_topic` names the tenant, or names none
and the tenant is the default one. -/
theorem pipeline_isolated (cfg : Config) (history history' : History N) (sep : Separation)
    (tenant : TenantID) (events : List (Event N)) (hhistory : history' tenant = history tenant)
    (hadmits : (machine cfg history).Guarded (sep.Admits tenant cfg) .init events) :
    ((machine cfg history').run .init (events.filter (Event.concerns tenant))).2 =
        ((machine cfg history).run .init events).2.filter (fun out => out.tenantID = tenant) ∧
      ∀ rec : Record N, rec.topic = "paryty." ++ tenant ++ ".metrics.raw" →
        rec.body.tenantID = "" → (processedUnder rec = tenant ↔
          (extractTenant rec.body.topic ≠ "" ∧ extractTenant rec.body.topic = tenant) ∨
            (extractTenant rec.body.topic = "" ∧ tenant = "default")) := by
  have hown (s : State N) (e : Event N) (hguard : sep.Admits tenant cfg s e)
      (hconcerns : e.concerns tenant = true) :
      (machine cfg history').step (s.restrict sep tenant) e =
        (((machine cfg history).step s e).1.restrict sep tenant,
          ((machine cfg history).step s e).2.filter (fun out => out.tenantID = tenant)) :=
    step_own hconcerns (fun _ _ _ => by rw [hhistory]) hguard
  have hother (s : State N) (e : Event N) (hguard : sep.Admits tenant cfg s e)
      (hconcerns : e.concerns tenant = false) :
      ((machine cfg history).step s e).1.restrict sep tenant = s.restrict sep tenant ∧
        ((machine cfg history).step s e).2.filter (fun out => out.tenantID = tenant) = [] :=
    step_other hconcerns hguard
  have hview := Lib.Machine.unwinding hown hother hadmits
  rw [restrict_init] at hview
  exact ⟨congrArg Prod.snd hview, fun rec _ hrec => processedUnder_iff hrec⟩

/-! ### Two tenants -/

/-- Numerical code that counts the points it is given. -/
def counting : Numerics where
  Value := Int
  zero := 0
  SortedSet := List (Int × Int)
  noPoints := []
  zadd points time value := points ++ [(time, value)]
  window points start := points.filter (fun point => start ≤ point.1)
  sanitizeSeries := id
  Drift := ℕ
  newDrift _ := 0
  updateDrift seen _ := (seen + 1, ⟨false, false, false⟩)
  Finding := Unit
  Anomaly := Unit
  Statistical := Unit
  newStatistical := ()
  detectStatistical detector _ := (detector, [])
  Forest := Unit
  newForest := ()
  useForest forest _ := (forest, [])
  Autoencoder := Unit
  newAutoencoder := ()
  useAutoencoder autoencoder _ := (autoencoder, [])
  combine _ _ _ _ := []
  Ensemble := Bool × ℕ
  newEnsemble := (false, 0)
  isFitted := Prod.fst
  fitAll _ points _ := (true, points.length)
  EnsembleState := ℕ
  getState := Prod.snd
  setState ensemble trainingPoints := (ensemble.1, trainingPoints)
  Forecast := ℕ
  noForecast := 0
  predict ensemble _ _ _ := (ensemble, some ensemble.2)

/-- Three points for every metric. -/
def threePoints : History counting := fun _ _ _ _ =>
  some [(0, (1 : Int)), (60, (1 : Int)), (120, (1 : Int))]

/-- A message of a tenant, the sweep that follows, and the forecast it asks for. -/
def forecastOf (tenantID : TenantID) (metricName : MetricName) : List (Event counting) :=
  [.message ⟨"paryty." ++ tenantID ++ ".metrics.raw",
      { tenantID, agentID := "agent", metricName, value := .given (1 : Int), timestamp := .missing }⟩
      1000 .stored,
    .sweep 1000, .work ⟨.forecast, tenantID, "", metricName⟩ { now := 1000 }]

/-- What belongs to the metric `cpu` of `acme`. -/
def acmeCpu : Separation where
  metric name := name = "cpu"
  file name := "ensemble_state_cpu".toList.isPrefixOf name.toList
  key name := name = "metrics:acme:agent:cpu"

lemma stem_prefix_of_footprint {modelName : String} {file : FileName}
    (h : Footprint modelName metricName file) :
    (stem modelName metricName).toList <+: file.toList := by
  rcases h with rfl | hbackup
  · simp [filename]
  · rw [isBackupOf, List.isPrefixOf_iff_prefix, String.toList_append] at hbackup
    exact (List.prefix_append _ _).trans hbackup

theorem pipeline_isolated_two :
    ((machine {} threePoints).run .init
      ((forecastOf "globex" "mem" ++ forecastOf "acme" "cpu").filter (Event.concerns "acme"))).2 =
        ((machine {} threePoints).run .init
          (forecastOf "globex" "mem" ++ forecastOf "acme" "cpu")).2.filter
            (fun out => out.tenantID = "acme") := by
  refine (pipeline_isolated {} threePoints threePoints acmeCpu "acme" _ rfl ?_).1
  refine ⟨⟨fun _ => ⟨by decide +kernel, by decide +kernel⟩, by decide +kernel⟩, trivial,
    ⟨fun file hfile => ?_, by decide +kernel⟩, ⟨fun _ => ⟨by decide +kernel, by decide +kernel⟩,
      by decide +kernel⟩, trivial, ⟨fun file hfile => ?_, by decide +kernel⟩, trivial⟩
  · obtain ⟨rest, hrest⟩ := stem_prefix_of_footprint hfile
    have hstem : (stem ensembleModel "mem").toList = "ensemble_state_mem".toList := by
      decide +kernel
    simp [acmeCpu, ← hrest, hstem, List.isPrefixOf]
  · have hstem : (stem ensembleModel "cpu").toList = "ensemble_state_cpu".toList := by
      decide +kernel
    have hprefix := stem_prefix_of_footprint hfile
    rw [hstem] at hprefix
    exact List.isPrefixOf_iff_prefix.mpr hprefix

/-- A model of another tenant for a metric of the same name is loaded for the tenant, and a message
of the tenant's topic without a tenant is processed under another. -/
theorem foreign_state_loaded :
    (machine {} threePoints).Guarded
        (fun s _ => s.detectors.rows.length < Config.maxDriftDetectors {}) .init
        (forecastOf "globex" "cpu" ++ forecastOf "acme" "cpu") ∧
      ((machine {} threePoints).run .init
        ((forecastOf "globex" "cpu" ++ forecastOf "acme" "cpu").filter (Event.concerns "acme"))).2 ≠
          ((machine {} threePoints).run .init
            (forecastOf "globex" "cpu" ++ forecastOf "acme" "cpu")).2.filter
              (fun out => out.tenantID = "acme") ∧
      ∃ rec : Record counting, rec.topic = "paryty.acme.metrics.raw" ∧ rec.body.tenantID = "" ∧
        processedUnder rec ≠ "acme" := by
  refine ⟨by decide +kernel, fun h => ?_, ⟨"paryty.acme.metrics.raw",
    { value := .missing, timestamp := .missing }⟩, rfl, rfl, by decide +kernel⟩
  exact absurd (congrArg List.length h) (by decide +kernel)

end Paryty.Intelligence

import Mathlib.Data.List.DropRight
import Mathlib.Data.Rat.Defs
import Mathlib.Data.Set.Defs
import Mathlib.Logic.Function.Basic
import Mathlib.Tactic.Lemma

/-!
# Alert rules

`AlertManager.Evaluate` of `cluster/internal/monitoring/alert_rules.go`: evaluates the conditions of
the rules and keeps, by the rules' names, the alerts that are pending or firing.

* `evaluateRule` is what the loop does for one rule, `evaluate` is the loop.
* `alertStep` is what a rule means for the alert with its name, `groupStep` what all the rules of
  the name mean for it, and `evaluate_apply` that no other rules matter. The alert is deleted by the
  last rule whose condition fails, and started again by the rules after it (`holding`).
* `Due` is the law: the condition has held at every call for the rule's duration. `Lawful` is what
  the rules of a name need for it, `firing_iff_due` that they need exactly this.
* `Tracks`: the alert of a lawful rule with a duration started with the first of the calls, up to
  the last, at which the condition held without a break.

Logging and the webhook are left out. Instants are in nanoseconds.
-/

namespace Paryty.Monitoring.AlertRules

/-! ## Data -/

/-- `AlertSeverity`. -/
inductive AlertSeverity
  | critical
  | warning
  | info
deriving DecidableEq

/-- `AlertStatus`. -/
inductive AlertStatus
  | firing
  | resolved
  | pending
deriving DecidableEq

/-- `Alert`. -/
structure Alert where
  name : String
  severity : AlertSeverity
  status : AlertStatus
  message : String
  value : ℚ
  threshold : ℚ
  startedAt : ℤ
deriving DecidableEq

/-- `SelfMonitoringMetrics`. -/
structure SelfMonitoringMetrics where
  ingestionRate : ℚ := 0
  processingLag : ℤ := 0
  queryLatency : ℤ := 0
  storageHealth : List (String × Bool) := []
  activeAgents : ℤ := 0
  errorRate : ℚ := 0
  lastUpdated : ℤ := 0
  failedAuthRate : ℚ := 0
  auditWriteErrors : ℤ := 0
  adminActionRate : ℚ := 0
deriving DecidableEq

/-- `AlertRule`. -/
structure AlertRule where
  name : String
  severity : AlertSeverity
  condition : SelfMonitoringMetrics → Bool
  message : SelfMonitoringMetrics → String
  threshold : ℚ
  duration : ℤ

/-- `activeAlerts`. -/
abbrev ActiveAlerts := String → Option Alert

/-! ## Evaluation -/

/-- `Evaluate`: a new alert. -/
def newAlert (now : ℤ) (metrics : SelfMonitoringMetrics) (rule : AlertRule) : Alert where
  name := rule.name
  severity := rule.severity
  status := .pending
  message := rule.message metrics
  value := metrics.ingestionRate
  threshold := rule.threshold
  startedAt := now

/-- `Evaluate`: one rule. The alerts that it fires are added to `newAlerts`. An alert that is
resolved is deleted. -/
def evaluateRule (now : ℤ) (metrics : SelfMonitoringMetrics) (rule : AlertRule)
    (active : ActiveAlerts) (newAlerts : List Alert) : ActiveAlerts × List Alert :=
  if rule.condition metrics then
    match active rule.name with
    | none => (Function.update active rule.name (some (newAlert now metrics rule)), newAlerts)
    | some alert =>
      if alert.status = .pending ∧ rule.duration ≤ now - alert.startedAt then
        let fired := { alert with status := .firing, message := rule.message metrics }
        (Function.update active rule.name (some fired), newAlerts ++ [fired])
      else (active, newAlerts)
  else
    match active rule.name with
    | none => (active, newAlerts)
    | some alert =>
      if alert.status = .firing ∨ alert.status = .pending then
        (Function.update active rule.name none, newAlerts)
      else (active, newAlerts)

/-- `Evaluate`. -/
def evaluate (now : ℤ) (metrics : SelfMonitoringMetrics) (rules : List AlertRule)
    (active : ActiveAlerts) : ActiveAlerts × List Alert :=
  rules.foldl (fun result rule => evaluateRule now metrics rule result.1 result.2) (active, [])

/-- A call of `Evaluate`. -/
structure Call where
  now : ℤ
  metrics : SelfMonitoringMetrics := {}
deriving DecidableEq

/-- The alerts after some calls. -/
def activeAfter (rules : List AlertRule) (calls : List Call) : ActiveAlerts :=
  calls.foldl (fun active call => (evaluate call.now call.metrics rules active).1) fun _ => none

/-- The rule is firing. -/
def Firing (rule : AlertRule) (active : ActiveAlerts) : Prop :=
  ∃ alert, active rule.name = some alert ∧ alert.status = .firing

/-- The instant of the last call. -/
def lastNow (calls : List Call) : ℤ := (calls.getLast?.map Call.now).getD 0

/-- The condition has held at every call for the rule's duration: at a call as long ago as that, and
at all calls since then. -/
def Due (rule : AlertRule) (calls : List Call) : Prop :=
  ∃ before first since, calls = before ++ first :: since ∧
    (∀ call ∈ first :: since, rule.condition call.metrics = true) ∧
      first.now + rule.duration ≤ lastNow calls

/-- The rules of a name, in order. -/
def group (rules : List AlertRule) (name : String) : List AlertRule :=
  rules.filter fun rule => rule.name = name

/-- The rules after the last one whose condition fails. -/
def holding (rules : List AlertRule) (metrics : SelfMonitoringMetrics) : List AlertRule :=
  rules.rtakeWhile fun rule => rule.condition metrics

/-- The rules start an alert and fire it in the same call: the first of those after the last whose
condition fails starts it, and another has no duration. -/
def AtOnce (rules : List AlertRule) (metrics : SelfMonitoringMetrics) : Prop :=
  ∃ other ∈ (holding rules metrics).tail, other.duration ≤ 0

/-- Where the condition holds, the rules of the name all hold, and where it fails the last of them
fails. None has a shorter duration. -/
structure Together (rule : AlertRule) (rules : List AlertRule)
    (values : Set SelfMonitoringMetrics) : Prop where
  duration_le : ∀ other ∈ rules, rule.duration ≤ other.duration
  all_hold : ∀ metrics ∈ values, rule.condition metrics = true →
    ∀ other ∈ rules, other.condition metrics = true
  last_fails : ∀ metrics ∈ values, rule.condition metrics = false → holding rules metrics = []

/-- What a rule and the others of its name need, at some values of the metrics, for the rule to keep
the law. One with a duration never holds and is not fired by the others, or they hold together. One
without a duration holds exactly where an alert is started and fired in one call. -/
def Lawful (rule : AlertRule) (rules : List AlertRule) (values : Set SelfMonitoringMetrics) :
    Prop :=
  if 0 < rule.duration then
    (∀ metrics ∈ values, rule.condition metrics = false ∧ ¬ AtOnce rules metrics) ∨
      Together rule rules values
  else ∀ metrics ∈ values, rule.condition metrics = true ↔ AtOnce rules metrics

/-! ## The rules of a name -/

/-- What an evaluation of a rule means for the alert with its name. -/
def alertStep (now : ℤ) (metrics : SelfMonitoringMetrics) (rule : AlertRule) :
    Option Alert → Option Alert
  | none => if rule.condition metrics then some (newAlert now metrics rule) else none
  | some alert =>
    if rule.condition metrics then
      if alert.status = .pending ∧ rule.duration ≤ now - alert.startedAt then
        some { alert with status := .firing, message := rule.message metrics }
      else some alert
    else if alert.status = .firing ∨ alert.status = .pending then none
    else some alert

/-- What an evaluation of the rules of a name means for its alert. -/
def groupStep (now : ℤ) (metrics : SelfMonitoringMetrics) (rules : List AlertRule)
    (alert : Option Alert) : Option Alert :=
  rules.foldl (fun alert rule => alertStep now metrics rule alert) alert

/-- The alert started at the instant, and is firing or pending. -/
def Started (startedAt : ℤ) (fired : Prop) (alert : Option Alert) : Prop :=
  ∃ a, alert = some a ∧ a.startedAt = startedAt ∧
    (fired ∧ a.status = .firing ∨ ¬ fired ∧ a.status = .pending)

/-- There is no alert, or one that started before. -/
def Live (now : ℤ) (alert : Option Alert) : Prop :=
  alert = none ∨ ∃ startedAt fired, startedAt ≤ now ∧ Started startedAt fired alert

variable {now startedAt : ℤ} {metrics : SelfMonitoringMetrics} {rule : AlertRule}
  {rules : List AlertRule} {active : ActiveAlerts} {newAlerts : List Alert} {name : String}
  {calls : List Call} {call : Call} {alert : Option Alert} {fired : Prop}
  {values : Set SelfMonitoringMetrics}

lemma evaluateRule_self :
    (evaluateRule now metrics rule active newAlerts).1 rule.name =
      alertStep now metrics rule (active rule.name) := by
  unfold evaluateRule alertStep
  cases halert : active rule.name with
  | none => cases rule.condition metrics <;> simp [halert]
  | some alert =>
    cases rule.condition metrics with
    | true =>
      dsimp only
      split_ifs <;> simp [halert]
    | false =>
      dsimp only
      split_ifs <;> simp_all

lemma evaluateRule_of_ne (h : rule.name ≠ name) :
    (evaluateRule now metrics rule active newAlerts).1 name = active name := by
  unfold evaluateRule
  split <;> split
  · simp [h.symm]
  · split <;> simp [h.symm]
  · rfl
  · split <;> simp [h.symm]

lemma foldl_evaluateRule (result : ActiveAlerts × List Alert) :
    (rules.foldl (fun result rule => evaluateRule now metrics rule result.1 result.2) result).1 name
      = groupStep now metrics (group rules name) (result.1 name) := by
  induction rules generalizing result with
  | nil => rfl
  | cons rule rules ih =>
    rw [List.foldl_cons, ih, group, group, List.filter_cons]
    by_cases hname : rule.name = name
    · subst hname
      rw [evaluateRule_self, if_pos (by simp)]
      rfl
    · rw [evaluateRule_of_ne hname, if_neg (by simpa using hname)]

/-- The alert of a name depends on the rules of the name only. -/
theorem evaluate_apply : (evaluate now metrics rules active).1 name =
    groupStep now metrics (group rules name) (active name) :=
  foldl_evaluateRule _

lemma activeAfter_concat : activeAfter rules (calls ++ [call]) =
    (evaluate call.now call.metrics rules (activeAfter rules calls)).1 :=
  List.foldl_concat ..

lemma lastNow_concat : lastNow (calls ++ [call]) = call.now := by
  rw [lastNow, List.getLast?_concat]
  rfl

lemma groupStep_concat : groupStep now metrics (rules ++ [rule]) alert =
    alertStep now metrics rule (groupStep now metrics rules alert) :=
  List.foldl_concat ..

/-! ### An alert -/

lemma Started.firing_iff (h : Started startedAt fired (active rule.name)) :
    Firing rule active ↔ fired := by
  obtain ⟨a, halert, -, hstatus⟩ := h
  constructor
  · rintro ⟨a', halert', hfiring⟩
    obtain rfl := Option.some.inj (halert.symm.trans halert')
    rcases hstatus with ⟨hfired, -⟩ | ⟨-, hpending⟩
    · exact hfired
    · exact nomatch hfiring.symm.trans hpending
  · intro hfired
    rcases hstatus with ⟨-, hfiring⟩ | ⟨hnot, -⟩
    · exact ⟨a, halert, hfiring⟩
    · exact absurd hfired hnot

lemma not_firing_of_none (h : active rule.name = none) : ¬ Firing rule active := by
  rintro ⟨a, halert, -⟩
  exact nomatch h.symm.trans halert

lemma Started.congr {fired' : Prop} (h : Started startedAt fired alert) (hfired : fired ↔ fired') :
    Started startedAt fired' alert :=
  propext hfired ▸ h

lemma Started.live (h : Started startedAt fired alert) (hle : startedAt ≤ now) : Live now alert :=
  .inr ⟨startedAt, fired, hle, h⟩

lemma started_newAlert : Started now False (some (newAlert now metrics rule)) :=
  ⟨_, rfl, rfl, .inr ⟨not_false, rfl⟩⟩

lemma Live.mono {later : ℤ} (h : Live now alert) (hle : now ≤ later) : Live later alert := by
  rcases h with hnone | ⟨startedAt, fired, hstart, hstarted⟩
  · exact .inl hnone
  · exact hstarted.live (by omega)

lemma Started.step (h : Started startedAt fired alert)
    (hcondition : rule.condition metrics = true) :
    Started startedAt (fired ∨ rule.duration ≤ now - startedAt)
      (alertStep now metrics rule alert) := by
  obtain ⟨a, rfl, rfl, hstatus⟩ := h
  rw [alertStep, if_pos hcondition]
  rcases hstatus with ⟨hfired, hfiring⟩ | ⟨hnot, hpending⟩
  · rw [if_neg (by simp [hfiring])]
    exact ⟨a, rfl, rfl, .inl ⟨.inl hfired, hfiring⟩⟩
  · by_cases hdue : rule.duration ≤ now - a.startedAt
    · rw [if_pos ⟨hpending, hdue⟩]
      exact ⟨_, rfl, rfl, .inl ⟨.inr hdue, rfl⟩⟩
    · rw [if_neg (fun h => hdue h.2)]
      exact ⟨a, rfl, rfl, .inr ⟨not_or.mpr ⟨hnot, hdue⟩, hpending⟩⟩

lemma alertStep_of_fails (h : Live now alert) (hcondition : rule.condition metrics = false) :
    alertStep now metrics rule alert = none := by
  rcases h with rfl | ⟨startedAt, fired, -, a, rfl, -, hstatus⟩
  · simp [alertStep, hcondition]
  · have hlive : a.status = .firing ∨ a.status = .pending := hstatus.imp And.right And.right
    simp [alertStep, hcondition, hlive]

lemma Live.step (h : Live now alert) : Live now (alertStep now metrics rule alert) := by
  cases hcondition : rule.condition metrics with
  | false => exact .inl (alertStep_of_fails h hcondition)
  | true =>
    rcases h with rfl | ⟨startedAt, fired, hle, hstarted⟩
    · rw [alertStep, if_pos hcondition]
      exact started_newAlert.live (by omega)
    · exact (hstarted.step hcondition).live hle

lemma Live.group (h : Live now alert) : Live now (groupStep now metrics rules alert) := by
  induction rules generalizing alert with
  | nil => exact h
  | cons rule rules ih => exact ih h.step

/-! ### An evaluation -/

lemma Started.group (h : Started startedAt fired alert)
    (hall : ∀ other ∈ rules, other.condition metrics = true) :
    Started startedAt (fired ∨ ∃ other ∈ rules, other.duration ≤ now - startedAt)
      (groupStep now metrics rules alert) := by
  induction rules generalizing alert fired with
  | nil => exact h.congr (by simp)
  | cons rule rules ih =>
    have hfirst : Started startedAt (fired ∨ rule.duration ≤ now - startedAt)
        (alertStep now metrics rule alert) := h.step (hall rule List.mem_cons_self)
    exact (ih hfirst fun other hother => hall other (List.mem_cons_of_mem _ hother)).congr (by
      simp [or_assoc])

lemma condition_of_mem_holding {other : AlertRule} (h : other ∈ holding rules metrics) :
    other.condition metrics = true :=
  List.mem_rtakeWhile_imp (p := fun rule : AlertRule => rule.condition metrics) h

lemma holding_eq_self : holding rules metrics = rules ↔
    ∀ other ∈ rules, other.condition metrics = true :=
  List.rtakeWhile_eq_self_iff

lemma groupStep_eq_holding (h : Live now alert)
    (hfresh : alert = none ∨ ∃ other ∈ rules, other.condition metrics = false) :
    groupStep now metrics rules alert = groupStep now metrics (holding rules metrics) none := by
  induction rules using List.reverseRecOn with
  | nil => simpa [groupStep, holding] using hfresh
  | append_singleton rules rule ih =>
    rw [groupStep_concat]
    cases hcondition : rule.condition metrics with
    | false =>
      rw [alertStep_of_fails h.group hcondition, holding,
        List.rtakeWhile_concat_neg _ _ _ (by simp [hcondition])]
      rfl
    | true =>
      rw [holding, List.rtakeWhile_concat_pos _ _ _ (by simp [hcondition]), groupStep_concat]
      rw [ih (hfresh.imp_right fun ⟨other, hother, hfails⟩ => ⟨other, ?_, hfails⟩)]
      · rfl
      · rcases List.mem_append.mp hother with hother | hother
        · exact hother
        · obtain rfl := List.mem_singleton.mp hother
          exact nomatch hcondition.symm.trans hfails

lemma groupStep_fresh (h : Live now alert)
    (hfresh : alert = none ∨ ∃ other ∈ rules, other.condition metrics = false) :
    (holding rules metrics = [] → groupStep now metrics rules alert = none) ∧
      (holding rules metrics ≠ [] →
        Started now (AtOnce rules metrics) (groupStep now metrics rules alert)) := by
  rw [groupStep_eq_holding h hfresh]
  have hcondition : ∀ other ∈ holding rules metrics, other.condition metrics = true :=
    fun other => condition_of_mem_holding
  unfold AtOnce
  cases hholding : holding rules metrics with
  | nil => exact ⟨fun _ => rfl, fun hne => absurd rfl hne⟩
  | cons first others =>
    rw [hholding] at hcondition
    refine ⟨fun hnil => (nomatch hnil), fun _ => ?_⟩
    have hstep : groupStep now metrics (first :: others) none =
        groupStep now metrics others (some (newAlert now metrics first)) := by
      rw [groupStep, List.foldl_cons, alertStep, if_pos (hcondition first List.mem_cons_self)]
      rfl
    rw [hstep]
    exact (started_newAlert.group fun other hother =>
      hcondition other (List.mem_cons_of_mem _ hother)).congr (by simp)

lemma firing_fresh (hlive : Live now (active rule.name))
    (hfresh : active rule.name = none ∨
      ∃ other ∈ group rules rule.name, other.condition metrics = false) :
    Firing rule (evaluate now metrics rules active).1 ↔
      AtOnce (group rules rule.name) metrics := by
  obtain ⟨hnone, hstarted⟩ := groupStep_fresh hlive hfresh
  rw [← evaluate_apply] at hnone hstarted
  by_cases hholding : holding (group rules rule.name) metrics = []
  · refine iff_of_false (not_firing_of_none (hnone hholding)) ?_
    rintro ⟨other, hother, -⟩
    rw [hholding] at hother
    exact nomatch hother
  · exact (hstarted hholding).firing_iff

lemma live_activeAfter (htimes : calls.Pairwise fun earlier later => earlier.now ≤ later.now)
    (hle : ∀ call ∈ calls, call.now ≤ now) : Live now (activeAfter rules calls name) := by
  induction calls using List.reverseRecOn generalizing now with
  | nil => exact .inl rfl
  | append_singleton calls call ih =>
    obtain ⟨hcalls, -, hlast⟩ := List.pairwise_append.mp htimes
    rw [activeAfter_concat, evaluate_apply]
    exact (ih hcalls fun earlier hearlier =>
      hlast earlier hearlier call (List.mem_singleton_self _)).group.mono (hle call (by simp))

/-! ## Runs of true conditions -/

/-- The calls, up to the last, at which the condition held without a break. -/
def streak (rule : AlertRule) (calls : List Call) : List Call :=
  calls.rtakeWhile fun call => rule.condition call.metrics

/-- What the alert of a rule with a duration is after some calls. -/
def Tracks (rule : AlertRule) (calls : List Call) (alert : Option Alert) : Prop :=
  match streak rule calls with
  | [] => alert = none
  | first :: _ => Started first.now (first.now + rule.duration ≤ lastNow calls) alert

lemma streak_concat : streak rule (calls ++ [call]) =
    if rule.condition call.metrics then streak rule calls ++ [call] else [] :=
  List.rtakeWhile_concat ..

lemma streak_suffix (rule : AlertRule) (calls : List Call) :
    ∃ before, calls = before ++ streak rule calls := by
  obtain ⟨before, hbefore⟩ := List.rtakeWhile_suffix (fun call => rule.condition call.metrics) calls
  exact ⟨before, hbefore.symm⟩

lemma condition_of_mem_streak (h : call ∈ streak rule calls) :
    rule.condition call.metrics = true :=
  List.mem_rtakeWhile_imp (p := fun call : Call => rule.condition call.metrics) h

lemma mem_group {other : AlertRule} :
    other ∈ group rules name ↔ other ∈ rules ∧ other.name = name := by
  simp [group]

lemma lastNow_le (hne : calls ≠ []) (hlast : ∀ earlier ∈ calls, earlier.now ≤ call.now) :
    lastNow calls ≤ call.now := by
  rw [lastNow, List.getLast?_eq_some_getLast hne]
  exact hlast _ (List.getLast_mem hne)

lemma due_iff (rule : AlertRule)
    (htimes : calls.Pairwise fun earlier later => earlier.now ≤ later.now) :
    Due rule calls ↔ ∃ first since, streak rule calls = first :: since ∧
      first.now + rule.duration ≤ lastNow calls := by
  constructor
  · rintro ⟨before, first, since, rfl, hcondition, hdue⟩
    have hstreak : streak rule (before ++ first :: since) =
        streak rule before ++ first :: since := by
      unfold streak List.rtakeWhile
      rw [List.reverse_append, List.takeWhile_append_of_pos fun call hcall =>
        hcondition call (List.mem_reverse.mp hcall)]
      simp
    rw [hstreak]
    cases hbefore : streak rule before with
    | nil => exact ⟨first, since, rfl, hdue⟩
    | cons start more =>
      refine ⟨start, more ++ first :: since, rfl, ?_⟩
      obtain ⟨front, hfront⟩ := streak_suffix rule before
      rw [hbefore] at hfront
      have hle : start.now ≤ first.now :=
        (List.pairwise_append.mp htimes).2.2 start (by rw [hfront]; simp) first List.mem_cons_self
      omega
  · rintro ⟨first, since, hstreak, hdue⟩
    obtain ⟨before, hbefore⟩ := streak_suffix rule calls
    rw [hstreak] at hbefore
    refine ⟨before, first, since, hbefore, fun call hcall => ?_, hdue⟩
    rw [← hstreak] at hcall
    exact condition_of_mem_streak hcall

lemma Tracks.firing_iff {active : ActiveAlerts} (h : Tracks rule calls (active rule.name)) :
    Firing rule active ↔ ∃ first since, streak rule calls = first :: since ∧
      first.now + rule.duration ≤ lastNow calls := by
  unfold Tracks at h
  cases hstreak : streak rule calls with
  | nil =>
    rw [hstreak] at h
    exact iff_of_false (not_firing_of_none h) (by simp)
  | cons first since =>
    rw [hstreak] at h
    simp [h.firing_iff]

lemma Together.step (h : Together rule rules values) (hmem : rule ∈ rules)
    (hduration : 0 < rule.duration) (htracks : Tracks rule calls alert)
    (hlive : Live call.now alert) (hvalue : call.metrics ∈ values)
    (hlast : ∀ earlier ∈ calls, earlier.now ≤ call.now) :
    Tracks rule (calls ++ [call]) (groupStep call.now call.metrics rules alert) := by
  unfold Tracks at htracks ⊢
  rw [streak_concat, lastNow_concat]
  cases hcondition : rule.condition call.metrics with
  | false =>
    exact (groupStep_fresh hlive (.inr ⟨rule, hmem, hcondition⟩)).1
      (h.last_fails _ hvalue hcondition)
  | true =>
    have hall := h.all_hold _ hvalue hcondition
    cases hstreak : streak rule calls with
    | nil =>
      rw [hstreak] at htracks
      -- the first call: nothing fires at once, since all have a duration
      have hholding : holding rules call.metrics = rules := holding_eq_self.mpr hall
      have hstarted := (groupStep_fresh hlive (.inl htracks)).2 (by
        rw [hholding]
        exact List.ne_nil_of_mem hmem)
      refine hstarted.congr (iff_of_false ?_ (by omega))
      rintro ⟨other, hother, hnone⟩
      rw [hholding] at hother
      have hle := h.duration_le other (List.mem_of_mem_tail hother)
      omega
    | cons first since =>
      rw [hstreak] at htracks
      have hne : calls ≠ [] := by
        rintro rfl
        exact nomatch hstreak
      have hle := lastNow_le hne hlast
      refine (Started.group htracks hall).congr ⟨?_, fun hdue => .inr ⟨rule, hmem, by omega⟩⟩
      rintro (hfired | ⟨other, hother, hdue⟩)
      · omega
      · have hshort := h.duration_le other hother
        omega

lemma tracks_activeAfter (h : Together rule (group rules rule.name) values) (hmem : rule ∈ rules)
    (hduration : 0 < rule.duration)
    (htimes : calls.Pairwise fun earlier later => earlier.now ≤ later.now)
    (hvalues : ∀ call ∈ calls, call.metrics ∈ values) :
    Tracks rule calls (activeAfter rules calls rule.name) := by
  induction calls using List.reverseRecOn with
  | nil => exact rfl
  | append_singleton calls call ih =>
    obtain ⟨hcalls, -, hlast⟩ := List.pairwise_append.mp htimes
    have hlast : ∀ earlier ∈ calls, earlier.now ≤ call.now :=
      fun earlier hearlier => hlast earlier hearlier call (List.mem_singleton_self _)
    rw [activeAfter_concat, evaluate_apply]
    exact h.step (mem_group.mpr ⟨hmem, rfl⟩) hduration
      (ih hcalls fun call hcall => hvalues call (List.mem_append_left _ hcall))
      (live_activeAfter hcalls hlast) (hvalues call (by simp)) hlast

/-! ## The law -/

/-- At all calls with such values, at non-decreasing times, the rule fires when it is due. -/
def FiresWhenDue (rule : AlertRule) (rules : List AlertRule) (values : Set SelfMonitoringMetrics) :
    Prop :=
  ∀ calls : List Call, calls.Pairwise (fun earlier later => earlier.now ≤ later.now) →
    (∀ call ∈ calls, call.metrics ∈ values) →
      (Firing rule (activeAfter rules calls) ↔ Due rule calls)

lemma Due.exists_first (h : Due rule calls) :
    ∃ first ∈ calls, rule.condition first.metrics = true ∧
      first.now + rule.duration ≤ lastNow calls := by
  obtain ⟨before, first, since, rfl, hcondition, hdue⟩ := h
  exact ⟨first, by simp, hcondition first List.mem_cons_self, hdue⟩

lemma due_concat_iff (calls : List Call) (call : Call) (hduration : rule.duration ≤ 0) :
    Due rule (calls ++ [call]) ↔ rule.condition call.metrics = true := by
  constructor
  · rintro ⟨before, first, since, heq, hcondition, -⟩
    have hlast := congrArg List.getLast? heq
    rw [List.getLast?_concat, List.getLast?_append_of_ne_nil _ (List.cons_ne_nil _ _)] at hlast
    exact hcondition call (List.mem_of_getLast? hlast.symm)
  · intro hcondition
    refine ⟨calls, call, [], rfl, ?_, ?_⟩
    · rintro other hother
      obtain rfl := List.mem_singleton.mp hother
      exact hcondition
    · rw [lastNow_concat]
      omega

lemma firing_nil : ¬ Firing rule (activeAfter rules []) := not_firing_of_none rfl

lemma firing_concat_fresh (calls : List Call)
    (htimes : (calls ++ [call]).Pairwise fun earlier later => earlier.now ≤ later.now)
    (hfresh : activeAfter rules calls rule.name = none ∨
      ∃ other ∈ group rules rule.name, other.condition call.metrics = false) :
    Firing rule (activeAfter rules (calls ++ [call])) ↔
      AtOnce (group rules rule.name) call.metrics := by
  obtain ⟨hcalls, -, hlast⟩ := List.pairwise_append.mp htimes
  rw [activeAfter_concat]
  exact firing_fresh (live_activeAfter hcalls fun earlier hearlier =>
    hlast earlier hearlier call (List.mem_singleton_self _)) hfresh

lemma firing_first (now : ℤ) (metrics : SelfMonitoringMetrics) :
    Firing rule (activeAfter rules [⟨now, metrics⟩]) ↔ AtOnce (group rules rule.name) metrics :=
  firing_concat_fresh [] (List.pairwise_singleton ..) (.inl rfl)

lemma firing_second {first second : SelfMonitoringMetrics} {later : ℤ}
    (hstart : holding (group rules rule.name) first ≠ [])
    (hall : ∀ other ∈ group rules rule.name, other.condition second = true)
    (hdue : ∃ other ∈ group rules rule.name, other.duration ≤ later) :
    Firing rule (activeAfter rules [⟨0, first⟩, ⟨later, second⟩]) := by
  have hfirst : Started 0 (AtOnce (group rules rule.name) first)
      (activeAfter rules ([] ++ [⟨0, first⟩]) rule.name) := by
    rw [activeAfter_concat, evaluate_apply]
    exact (groupStep_fresh (.inl rfl) (.inl rfl)).2 hstart
  have hsecond : Started 0
      (AtOnce (group rules rule.name) first ∨
        ∃ other ∈ group rules rule.name, other.duration ≤ later - 0)
      (activeAfter rules ([⟨0, first⟩] ++ [⟨later, second⟩]) rule.name) := by
    rw [activeAfter_concat, evaluate_apply]
    exact hfirst.group hall
  exact hsecond.firing_iff.mpr (.inr (by simpa using hdue))

/-! ### What is enough -/

lemma firesWhenDue_of_never (hmem : rule ∈ rules)
    (h : ∀ metrics ∈ values, rule.condition metrics = false ∧
      ¬ AtOnce (group rules rule.name) metrics) :
    FiresWhenDue rule rules values := by
  intro calls htimes hvalues
  refine iff_of_false ?_ fun hdue => ?_
  · induction calls using List.reverseRecOn with
    | nil => exact firing_nil
    | append_singleton calls call =>
      obtain ⟨hfails, hnot⟩ := h call.metrics (hvalues call (by simp))
      rwa [firing_concat_fresh _ htimes (.inr ⟨rule, mem_group.mpr ⟨hmem, rfl⟩, hfails⟩)]
  · obtain ⟨first, hfirst, hcondition, -⟩ := hdue.exists_first
    rw [(h first.metrics (hvalues first hfirst)).1] at hcondition
    exact nomatch hcondition

lemma firesWhenDue_of_together (hmem : rule ∈ rules) (hduration : 0 < rule.duration)
    (h : Together rule (group rules rule.name) values) : FiresWhenDue rule rules values := by
  intro calls htimes hvalues
  rw [(tracks_activeAfter h hmem hduration htimes hvalues).firing_iff, due_iff rule htimes]

lemma firesWhenDue_of_atOnce (hmem : rule ∈ rules) (hduration : rule.duration ≤ 0)
    (h : ∀ metrics ∈ values, rule.condition metrics = true ↔
      AtOnce (group rules rule.name) metrics) : FiresWhenDue rule rules values := by
  intro calls htimes hvalues
  induction calls using List.reverseRecOn with
  | nil => exact iff_of_false firing_nil fun hdue => by simpa using hdue.exists_first
  | append_singleton calls call =>
    have hiff := h call.metrics (hvalues call (by simp))
    rw [due_concat_iff _ _ hduration, hiff]
    by_cases hfresh : activeAfter rules calls rule.name = none ∨
        ∃ other ∈ group rules rule.name, other.condition call.metrics = false
    · exact firing_concat_fresh _ htimes hfresh
    · -- all conditions hold, and the alert goes on: the rule that would fire it at once does
      rw [not_or] at hfresh
      have hall : ∀ other ∈ group rules rule.name, other.condition call.metrics = true :=
        fun other hother => by
          by_contra hfails
          exact hfresh.2 ⟨other, hother, by simpa using hfails⟩
      obtain ⟨hcalls, -, hlast⟩ := List.pairwise_append.mp htimes
      have hlive : Live call.now (activeAfter rules calls rule.name) :=
        live_activeAfter hcalls fun earlier hearlier =>
          hlast earlier hearlier call (List.mem_singleton_self _)
      obtain ⟨startedAt, fired, hle, hstarted⟩ := hlive.resolve_left hfresh.1
      have hgoes : Started startedAt
          (fired ∨ ∃ other ∈ group rules rule.name, other.duration ≤ call.now - startedAt)
          (activeAfter rules (calls ++ [call]) rule.name) := by
        rw [activeAfter_concat, evaluate_apply]
        exact hstarted.group hall
      rw [hgoes.firing_iff]
      constructor
      · exact fun _ => hiff.mp (hall rule (mem_group.mpr ⟨hmem, rfl⟩))
      · rintro ⟨other, hother, hnone⟩
        obtain ⟨failed, hsuffix⟩ := List.rtakeWhile_suffix
          (fun rule : AlertRule => rule.condition call.metrics) (group rules rule.name)
        have hgroup : other ∈ group rules rule.name := by
          rw [← hsuffix]
          exact List.mem_append_right _ (List.mem_of_mem_tail hother)
        exact .inr ⟨other, hgroup, by omega⟩

/-! ### What is needed -/

lemma FiresWhenDue.first (h : FiresWhenDue rule rules values) (hvalue : metrics ∈ values) :
    Due rule [⟨0, metrics⟩] ↔ AtOnce (group rules rule.name) metrics :=
  (h _ (List.pairwise_singleton ..) (by simpa using hvalue)).symm.trans (firing_first 0 metrics)

lemma not_due_first (hduration : 0 < rule.duration) : ¬ Due rule [⟨0, metrics⟩] := by
  intro hdue
  obtain ⟨first, hfirst, -, hlong⟩ := hdue.exists_first
  obtain rfl := List.mem_singleton.mp hfirst
  have hlong : (0 : ℤ) + rule.duration ≤ 0 := hlong
  omega

lemma FiresWhenDue.together (h : FiresWhenDue rule rules values) (hmem : rule ∈ rules)
    (hduration : 0 < rule.duration) (hvalue : metrics ∈ values)
    (hcondition : rule.condition metrics = true) :
    Together rule (group rules rule.name) values := by
  have hgroup : rule ∈ group rules rule.name := mem_group.mpr ⟨hmem, rfl⟩
  have hall (metrics : SelfMonitoringMetrics) (hvalue : metrics ∈ values)
      (hcondition : rule.condition metrics = true) :
      ∀ other ∈ group rules rule.name, other.condition metrics = true := by
    -- otherwise the second of two such calls starts afresh, as the first does
    by_contra hfails
    have hfails : ∃ other ∈ group rules rule.name, other.condition metrics = false := by
      simpa using hfails
    have htimes : [(⟨0, metrics⟩ : Call), ⟨rule.duration, metrics⟩].Pairwise
        fun earlier later => earlier.now ≤ later.now := by
      simp [Int.le_of_lt hduration]
    have honce := (firing_concat_fresh [⟨0, metrics⟩] htimes (.inr hfails)).mp
      ((h _ htimes (by simp [hvalue])).mpr ⟨[], _, _, rfl, by simp [hcondition], by simp [lastNow]⟩)
    exact not_due_first hduration ((h.first hvalue).mpr honce)
  refine ⟨fun other hother => ?_, hall, fun failing hfailing hfails => ?_⟩
  · by_contra hshort
    have htimes : [(⟨0, metrics⟩ : Call), ⟨max other.duration 0, metrics⟩].Pairwise
        fun earlier later => earlier.now ≤ later.now := by
      simp only [List.pairwise_pair]
      omega
    have hstart : holding (group rules rule.name) metrics ≠ [] := by
      rw [holding_eq_self.mpr (hall metrics hvalue hcondition)]
      exact List.ne_nil_of_mem hgroup
    obtain ⟨first, hfirst, -, hlong⟩ := ((h _ htimes (by simp [hvalue])).mp
      (firing_second hstart (hall metrics hvalue hcondition)
        ⟨other, hother, by omega⟩)).exists_first
    have hnow : 0 ≤ first.now := by
      rcases List.mem_pair.mp hfirst with rfl | rfl
      · exact Int.le_refl 0
      · exact Int.le_max_right ..
    have hlong : first.now + rule.duration ≤ max other.duration 0 := hlong
    omega
  · by_contra hstart
    have htimes : [(⟨0, failing⟩ : Call), ⟨rule.duration, metrics⟩].Pairwise
        fun earlier later => earlier.now ≤ later.now := by
      simp [Int.le_of_lt hduration]
    obtain ⟨first, hfirst, hholds, hlong⟩ := ((h _ htimes (by simp [hvalue, hfailing])).mp
      (firing_second hstart (hall metrics hvalue hcondition)
        ⟨rule, hgroup, by omega⟩)).exists_first
    rcases List.mem_pair.mp hfirst with rfl | rfl
    · exact nomatch hholds.symm.trans hfails
    · have hlong : rule.duration + rule.duration ≤ rule.duration := hlong
      omega

/-- **Alert rules fire when they are due**, and which. For every list of rules, each rule of it and
all values that the metrics take: the rule is firing after exactly those calls, of all calls at
non-decreasing times, at which its condition has held for its duration, if and only if it and the
others of its name are lawful. -/
theorem firing_iff_due (hmem : rule ∈ rules) :
    FiresWhenDue rule rules values ↔ Lawful rule (group rules rule.name) values := by
  unfold Lawful
  split
  case isTrue hduration =>
    constructor
    · intro h
      by_cases hholds : ∃ metrics ∈ values, rule.condition metrics = true
      · obtain ⟨metrics, hvalue, hcondition⟩ := hholds
        exact .inr (h.together hmem hduration hvalue hcondition)
      · refine .inl fun metrics hvalue => ⟨?_, fun honce => ?_⟩
        · by_contra htrue
          exact hholds ⟨metrics, hvalue, by simpa using htrue⟩
        · exact not_due_first hduration ((h.first hvalue).mpr honce)
    · rintro (hnever | htogether)
      · exact firesWhenDue_of_never hmem hnever
      · exact firesWhenDue_of_together hmem hduration htogether
  case isFalse hduration =>
    have hduration : rule.duration ≤ 0 := by omega
    refine ⟨fun h metrics hvalue => ?_, firesWhenDue_of_atOnce hmem hduration⟩
    exact (due_concat_iff [] ⟨0, metrics⟩ hduration).symm.trans
      (h.first hvalue)

/-- More than a hundred metrics a second, for ten nanoseconds. -/
def busy : AlertRule where
  name := "busy"
  severity := .warning
  condition := fun metrics => decide (100 < metrics.ingestionRate)
  message := fun _ => "busy"
  threshold := 100
  duration := 10

/-- The same for a minute, under the same name. -/
def busyForAMinute : AlertRule := { busy with severity := .critical, duration := 60000000000 }

/-- The same at once. -/
def busyAtOnce : AlertRule := { busy with duration := 0 }

/-- No metrics. -/
def idle : AlertRule := { busy with
  name := "idle"
  condition := fun metrics => decide (metrics.ingestionRate = 0) }

/-- Two hundred metrics a second. -/
def rush : SelfMonitoringMetrics := { ingestionRate := 200 }

/-- The rule shares its name and its condition with one of a longer duration. -/
theorem busy_firing_iff_due : FiresWhenDue busy [idle, busyForAMinute, busy] Set.univ := by
  refine (firing_iff_due (by simp)).mpr ?_
  have hgroup : group [idle, busyForAMinute, busy] busy.name = [busyForAMinute, busy] := rfl
  rw [hgroup, Lawful, if_pos (by decide)]
  refine .inr ⟨?_, fun metrics _ hholds other hother => ?_, fun metrics _ hfails => ?_⟩
  · rintro other hother
    rcases List.mem_pair.mp hother with rfl | rfl
    · decide
    · decide
  · rcases List.mem_pair.mp hother with rfl | rfl
    · exact hholds
    · exact hholds
  · exact List.rtakeWhile_eq_nil_iff.mpr fun _ => by simp [hfails]

/-- A rule without a duration is due at the first call, and does not fire. -/
theorem not_firing_at_once :
    ¬ (Firing busyAtOnce (activeAfter [busyAtOnce] [⟨0, rush⟩]) ↔ Due busyAtOnce [⟨0, rush⟩]) := by
  intro h
  obtain ⟨alert, halert, hfiring⟩ := h.mpr ⟨[], ⟨0, rush⟩, [], rfl, by decide, by decide⟩
  obtain rfl : newAlert 0 rush busyAtOnce = alert := Option.some.inj halert
  exact nomatch hfiring

end Paryty.Monitoring.AlertRules

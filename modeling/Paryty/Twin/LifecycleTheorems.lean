import Paryty.Twin.Lifecycle

/-!
# Which calls keep the lifecycle consistent

`Step.wellFormed`: every call keeps the assignments well formed. `Step.consistent_iff`: from a
consistent lifecycle a call leads to a consistent one exactly when it satisfies `Keeps`.

Five operations remove the assignments of an agent and leave the twins alone; they share
`consistent_release_iff`. Three only touch a registration, without moving it into or out of an
assigned state; they share `consistent_congr`.
-/

namespace Paryty.Twin.Lifecycle

variable {l l' : Lifecycle} {agent : AgentID} {twin : TwinID} {tenant : TenantID}

/-! ## Assigned agents -/

lemma agentAssigned_unique {tenant' : TenantID} (h : l.AgentAssigned agent tenant)
    (h' : l.AgentAssigned agent tenant') : tenant = tenant' := by
  obtain ⟨e, he, rfl, -⟩ := h
  obtain ⟨e', he', rfl, -⟩ := h'
  rw [he] at he'
  rw [Option.some.inj he']

lemma agentAssigned_congr (h : l'.edge agent = l.edge agent) :
    l'.AgentAssigned agent tenant ↔ l.AgentAssigned agent tenant := by
  simp only [AgentAssigned, h]

lemma agentAssigned_of_row (hl : l.WellFormed) (hc : l.Consistent)
    (hrow : l.assigned agent twin = some tenant) : l.AgentAssigned agent tenant :=
  (hc.agents agent tenant).mpr ⟨twin, hrow, hl.live _ _ _ hrow⟩

lemma active_of_row (hl : l.WellFormed) (hc : l.Consistent) (hrow : l.assigned agent twin ≠ none) :
    ∃ t, l.twin twin = some t ∧ t.status = .active := by
  obtain ⟨tenant, htenant⟩ := Option.ne_none_iff_exists'.mp hrow
  obtain ⟨t, ht, -, -⟩ := hl.live _ _ _ htenant
  exact ⟨t, ht, (hc.twins twin t ht).mpr ⟨agent, hrow⟩⟩

lemma no_row_of_allows (hl : l.WellFormed) (hc : l.Consistent) {allowed : EdgeAgentStatus → Bool}
    (hallowed : l.Allows agent tenant allowed) (hnot : ∀ s, allowed s = true → ¬ s.Assigned)
    (twin : TwinID) : l.assigned agent twin = none := by
  by_contra hrow
  obtain ⟨tenant', htenant⟩ := Option.ne_none_iff_exists'.mp hrow
  obtain ⟨e, he, -, hs⟩ := agentAssigned_of_row hl hc htenant
  obtain ⟨e', he', -, hs'⟩ := hallowed
  rw [he] at he'
  obtain rfl := Option.some.inj he'
  exact hnot _ hs' hs

/-! ## Well-formed assignments -/

lemma WellFormed.mono (hl : l.WellFormed)
    (hrows : ∀ a t tn, l'.assigned a t = some tn → l.assigned a t = some tn)
    (hlive : ∀ a t tn, l'.assigned a t = some tn → l.LiveTwin t tn → l'.LiveTwin t tn) :
    l'.WellFormed where
  live a t tn h := hlive a t tn h (hl.live a t tn (hrows a t tn h))
  single a t t' h h' := by
    obtain ⟨tn, htn⟩ := Option.ne_none_iff_exists'.mp h
    obtain ⟨tn', htn'⟩ := Option.ne_none_iff_exists'.mp h'
    have hrow := hrows a t tn htn
    have hrow' := hrows a t' tn' htn'
    exact hl.single a t t' (by simp [hrow]) (by simp [hrow'])

lemma WellFormed.release (hl : l.WellFormed) (agent : AgentID) : (l.release agent).WellFormed := by
  refine hl.mono (fun a t tn h => ?_) (fun _ _ _ _ hlive => hlive)
  simp only [Lifecycle.release] at h
  split at h
  · exact absurd h (by simp)
  · exact h

lemma WellFormed.assign (hl : l.WellFormed) (hfree : ∀ t, l.assigned agent t = none)
    (hlive : l.LiveTwin twin tenant) : (l.assign agent twin tenant).WellFormed where
  live a t tn h := by
    simp only [Lifecycle.assign] at h
    split at h
    case isTrue heq =>
      obtain ⟨rfl, rfl⟩ := heq
      obtain rfl := Option.some.inj h
      exact hlive
    case isFalse => exact hl.live a t tn h
  single a t t' h h' := by
    simp only [Lifecycle.assign] at h h'
    by_cases ha : a = agent
    · subst ha
      have ht : t = twin := by
        by_contra hne
        exact h (by simp [hne, hfree])
      have ht' : t' = twin := by
        by_contra hne
        exact h' (by simp [hne, hfree])
      rw [ht, ht']
    · exact hl.single a t t' (by simpa [ha] using h) (by simpa [ha] using h')

lemma release_free (t : TwinID) : (l.release agent).assigned agent t = none := by
  simp [release]

lemma liveTwin_setTwin {status : ClusterAgentStatus} (t : TwinID) (tn : TenantID) :
    (l.setTwin twin tenant status).LiveTwin t tn ↔ l.LiveTwin t tn := by
  simp only [LiveTwin, setTwin, Option.map_eq_some_iff]
  constructor
  · rintro ⟨_, ⟨s, hs, rfl⟩, hrest⟩
    refine ⟨s, hs, ?_⟩
    split at hrest <;> exact hrest
  · rintro ⟨s, hs, hrest⟩
    refine ⟨_, ⟨s, hs, rfl⟩, ?_⟩
    split <;> exact hrest

lemma WellFormed.setTwin (hl : l.WellFormed) (twin : TwinID) (tenant : TenantID)
    (status : ClusterAgentStatus) : (l.setTwin twin tenant status).WellFormed :=
  hl.mono (fun _ _ _ h => h) (fun _ t tn _ hlive => (liveTwin_setTwin t tn).mpr hlive)

lemma Step.wellFormed {op : Operation} (step : l.Step op l') (hl : l.WellFormed) :
    l'.WellFormed := by
  cases step with
  | refused => exact hl
  | createTwin fresh =>
    refine hl.mono (fun _ _ _ h => h) (fun a t tn _ hlive => ?_)
    obtain ⟨s, hs, hrest⟩ := hlive
    have hne : t ≠ _ := fun h => by
      rw [h, fresh] at hs
      exact absurd hs (by simp)
    exact ⟨s, by simp [addTwin, hne, hs], hrest⟩
  | deleteTwin =>
    refine hl.mono (fun a t tn h => ?_) (fun a t tn h hlive => ?_)
    · simp only [releaseTwin, closeTwin] at h
      split at h
      · exact absurd h (by simp)
      · exact h
    · obtain ⟨s, hs, hrest⟩ := hlive
      simp only [releaseTwin] at h
      split at h
      case isTrue => exact absurd h (by simp)
      case isFalse hne => exact ⟨s, by simp [releaseTwin, closeTwin, hs, hne], hrest⟩
  | registerAgent live => exact (hl.release _).assign (fun t => release_free t) live
  | unassignAgent => exact hl.release _
  | upsertAgentRegistration => exact ⟨hl.live, hl.single⟩
  | createAgent => exact ⟨hl.live, hl.single⟩
  | deleteAgent => exact ⟨(hl.release _).live, (hl.release _).single⟩
  | updateAgent => exact ⟨hl.live, hl.single⟩
  | @pairAgent agentID twinID tenantID _ _ live =>
    have hassigned : ((l.release agentID).assign agentID twinID tenantID).WellFormed :=
      (hl.release agentID).assign (fun t => release_free t) live
    refine WellFormed.setTwin ?_ _ _ _
    exact ⟨hassigned.live, hassigned.single⟩
  | @unpairAgent agentID =>
    refine WellFormed.setTwin ?_ _ _ _
    exact ⟨(hl.release agentID).live, (hl.release agentID).single⟩
  | retireAgent => exact ⟨(hl.release _).live, (hl.release _).single⟩
  | blacklistAgent => exact ⟨(hl.release _).live, (hl.release _).single⟩
  | unregisterAgent => exact ⟨(hl.release _).live, (hl.release _).single⟩

/-! ## Consistency, change by change -/

/-- Consistency depends on which agents are assigned and on the tables of twins and
assignments. -/
lemma consistent_congr (hassigned : ∀ a tn, l'.AgentAssigned a tn ↔ l.AgentAssigned a tn)
    (hrows : l'.assigned = l.assigned) (htwin : l'.twin = l.twin) (hc : l.Consistent) :
    l'.Consistent where
  agents a tn := by
    rw [hassigned, hc.agents a tn]
    simp only [HasTwin, LiveTwin, hrows, htwin]
  twins t s hs := by
    rw [htwin] at hs
    rw [hc.twins t s hs]
    simp only [Served, hrows]

/-- A change of the registration of `agent` that leaves whether it is assigned. -/
lemma consistent_enroll (hc : l.Consistent) : (l.enroll agent tenant).Consistent := by
  refine consistent_congr (l := l) (fun a tn => ?_) rfl rfl hc
  by_cases ha : a = agent
  · subst ha
    cases he : l.edge a with
    | none =>
      have hnot : ¬ l.AgentAssigned a tn := by
        rintro ⟨e, he', -⟩
        rw [he] at he'
        exact absurd he' (by simp)
      simp [AgentAssigned, enroll, he, EdgeAgentStatus.Assigned]
    | some e => exact agentAssigned_congr (by simp [enroll, he])
  · exact agentAssigned_congr (by simp [enroll, ha])

lemma consistent_rename (hc : l.Consistent) :
    (l.setEdge agent tenant (fun s => if s = .pending then .deployed else s)).Consistent := by
  refine consistent_congr (l := l) (fun a tn => ?_) rfl rfl hc
  cases he : l.edge a with
  | none => simp [AgentAssigned, setEdge, he]
  | some e =>
    have hstatus : EdgeAgentStatus.Assigned (if e.status = .pending then .deployed else e.status) ↔
        e.status.Assigned := by
      cases e.status <;> simp [EdgeAgentStatus.Assigned]
    by_cases hself : a = agent ∧ e.tenant = tenant
    · obtain ⟨rfl, rfl⟩ := hself
      simp [AgentAssigned, setEdge, he, hstatus]
    · exact agentAssigned_congr (by simp [setEdge, he, hself])

lemma consistent_release_iff (hl : l.WellFormed) (hc : l.Consistent)
    (hrows : l'.assigned = (l.release agent).assigned) (htwin : l'.twin = l.twin)
    (hedge : ∀ a, a ≠ agent → l'.edge a = l.edge a) :
    l'.Consistent ↔ (∀ tn, ¬ l'.AgentAssigned agent tn) ∧
      ∀ t, l.assigned agent t ≠ none → l.ServedWithout agent t := by
  -- The agent has no twin left, and no other agent loses one.
  have hfree : ∀ t, l'.assigned agent t = none := fun t => by rw [hrows, release_free]
  have hother : ∀ a t, a ≠ agent → l'.assigned a t = l.assigned a t := fun a t ha => by
    simp [hrows, release, ha]
  constructor
  · intro hc'
    constructor
    · intro tn h
      obtain ⟨t, hrow, -⟩ := (hc'.agents agent tn).mp h
      rw [hfree] at hrow
      exact absurd hrow (by simp)
    · intro t hrow
      -- A twin that loses the agent stays active, so another agent must serve it.
      obtain ⟨s, hs, hactive⟩ := active_of_row hl hc hrow
      obtain ⟨a, ha⟩ := (hc'.twins t s (by rw [htwin, hs])).mp hactive
      have hne : a ≠ agent := by
        rintro rfl
        exact ha (hfree t)
      exact ⟨a, hne, by rwa [← hother a t hne]⟩
  · rintro ⟨hgone, hserved⟩
    constructor
    · intro a tn
      by_cases ha : a = agent
      · subst ha
        refine iff_of_false (hgone tn) ?_
        rintro ⟨t, hrow, -⟩
        rw [hfree] at hrow
        exact absurd hrow (by simp)
      · rw [agentAssigned_congr (hedge a ha), hc.agents a tn]
        simp only [HasTwin, LiveTwin, htwin, hother a _ ha]
    · intro t s hs
      rw [htwin] at hs
      rw [hc.twins t s hs]
      constructor
      · rintro ⟨a, ha⟩
        by_cases hself : l.assigned agent t = none
        · have hne : a ≠ agent := by
            rintro rfl
            exact ha hself
          exact ⟨a, by rwa [hother a t hne]⟩
        · obtain ⟨b, hb, hrow⟩ := hserved t hself
          exact ⟨b, by rwa [hother b t hb]⟩
      · rintro ⟨a, ha⟩
        have hne : a ≠ agent := by
          rintro rfl
          exact ha (hfree t)
        exact ⟨a, by rwa [← hother a t hne]⟩

lemma consistent_unassign_iff (hl : l.WellFormed) (hc : l.Consistent) :
    (l.release agent).Consistent ↔ ∀ t, l.assigned agent t = none := by
  have hrelease : (l.release agent).Consistent ↔ (∀ tn, ¬ l.AgentAssigned agent tn) ∧
      ∀ t, l.assigned agent t ≠ none → l.ServedWithout agent t :=
    consistent_release_iff hl hc rfl rfl (fun _ _ => rfl)
  rw [hrelease]
  constructor
  · rintro ⟨hnot, -⟩ t
    by_contra hrow
    obtain ⟨tn, htn⟩ := Option.ne_none_iff_exists'.mp hrow
    exact hnot tn (agentAssigned_of_row hl hc htn)
  · intro hfree
    refine ⟨fun tn hassigned => ?_, fun t hrow => absurd (hfree t) hrow⟩
    obtain ⟨t, hrow, -⟩ := (hc.agents agent tn).mp hassigned
    rw [hfree] at hrow
    exact absurd hrow (by simp)

/-- The same for a call that also takes the agent out of the assigned states, if it belongs to
the tenant. -/
lemma consistent_withdraw_iff (hl : l.WellFormed) (hc : l.Consistent)
    (hrows : l'.assigned = (l.release agent).assigned) (htwin : l'.twin = l.twin)
    (hedge : ∀ a, a ≠ agent → l'.edge a = l.edge a)
    (hgone : ∀ tn, l'.AgentAssigned agent tn ↔ tn ≠ tenant ∧ l.AgentAssigned agent tn) :
    l'.Consistent ↔ ∀ t tn, l.assigned agent t = some tn →
      tn = tenant ∧ l.ServedWithout agent t := by
  rw [consistent_release_iff hl hc hrows htwin hedge]
  constructor
  · rintro ⟨hnot, hserved⟩ t tn hrow
    constructor
    · by_contra hne
      exact hnot tn ((hgone tn).mpr ⟨hne, agentAssigned_of_row hl hc hrow⟩)
    · exact hserved t (by simp [hrow])
  · intro h
    constructor
    · intro tn hassigned
      obtain ⟨hne, hbefore⟩ := (hgone tn).mp hassigned
      obtain ⟨t, hrow, -⟩ := (hc.agents agent tn).mp hbefore
      exact hne (h t tn hrow).1
    · intro t hrow
      obtain ⟨tn, htn⟩ := Option.ne_none_iff_exists'.mp hrow
      exact (h t tn htn).2

lemma agentAssigned_dropEdge (tn : TenantID) :
    (l.dropEdge agent tenant).AgentAssigned agent tn ↔ tn ≠ tenant ∧ l.AgentAssigned agent tn := by
  simp only [AgentAssigned, dropEdge, Option.filter_eq_some_iff]
  constructor
  · rintro ⟨e, ⟨he, hne⟩, rfl, hs⟩
    exact ⟨by simpa using hne, e, he, rfl, hs⟩
  · rintro ⟨hne, e, he, rfl, hs⟩
    exact ⟨e, ⟨he, by simpa using hne⟩, rfl, hs⟩

lemma agentAssigned_setEdge {status : EdgeAgentStatus} (hstatus : ¬ status.Assigned)
    (tn : TenantID) : (l.setEdge agent tenant (fun _ => status)).AgentAssigned agent tn ↔
      tn ≠ tenant ∧ l.AgentAssigned agent tn := by
  simp only [AgentAssigned, setEdge, Option.map_eq_some_iff]
  constructor
  · rintro ⟨e, ⟨e₀, he₀, heq⟩, rfl, hs⟩
    split at heq
    case isTrue =>
      subst heq
      exact absurd hs hstatus
    case isFalse hne =>
      subst heq
      exact ⟨fun h => hne ⟨trivial, h⟩, e₀, he₀, rfl, hs⟩
  · rintro ⟨hne, e, he, rfl, hs⟩
    exact ⟨e, ⟨e, he, by simp [hne]⟩, rfl, hs⟩

lemma edge_setEdge_of_ne {status : EdgeAgentStatus → EdgeAgentStatus} {a : AgentID}
    (ha : a ≠ agent) : (l.setEdge agent tenant status).edge a = l.edge a := by
  cases he : l.edge a <;> simp [setEdge, he, ha]

lemma edge_dropEdge_of_ne {a : AgentID} (ha : a ≠ agent) :
    (l.dropEdge agent tenant).edge a = l.edge a := by
  cases he : l.edge a <;> simp [dropEdge, he, ha]

lemma consistent_drop_iff (hl : l.WellFormed) (hc : l.Consistent) :
    ((l.release agent).dropEdge agent tenant).Consistent ↔ ∀ t tn, l.assigned agent t = some tn →
      tn = tenant ∧ l.ServedWithout agent t := by
  refine consistent_withdraw_iff (l := l) hl hc rfl rfl (fun a ha => ?_) (fun tn => ?_)
  · exact edge_dropEdge_of_ne (l := l.release agent) ha
  · exact agentAssigned_dropEdge (l := l.release agent) tn

lemma consistent_unassigned_iff (hl : l.WellFormed) (hc : l.Consistent)
    {status : EdgeAgentStatus} (hstatus : ¬ status.Assigned) :
    ((l.release agent).setEdge agent tenant (fun _ => status)).Consistent ↔
      ∀ t tn, l.assigned agent t = some tn → tn = tenant ∧ l.ServedWithout agent t := by
  refine consistent_withdraw_iff (l := l) hl hc rfl rfl (fun a ha => ?_) (fun tn => ?_)
  · exact edge_setEdge_of_ne (l := l.release agent) ha
  · exact agentAssigned_setEdge (l := l.release agent) hstatus tn

lemma withdraw_iff_of_allows (hl : l.WellFormed) (hc : l.Consistent)
    {allowed : EdgeAgentStatus → Bool} (hallowed : l.Allows agent tenant allowed) :
    (∀ t tn, l.assigned agent t = some tn → tn = tenant ∧ l.ServedWithout agent t) ↔
      ∀ t, l.assigned agent t ≠ none → l.ServedWithout agent t := by
  constructor
  · intro h t hrow
    obtain ⟨tn, htn⟩ := Option.ne_none_iff_exists'.mp hrow
    exact (h t tn htn).2
  · intro h t tn hrow
    refine ⟨?_, h t (by simp [hrow])⟩
    obtain ⟨e, he, htenant, -⟩ := agentAssigned_of_row hl hc hrow
    obtain ⟨e', he', htenant', -⟩ := hallowed
    rw [he] at he'
    obtain rfl := Option.some.inj he'
    rw [← htenant, htenant']

/-! ## Consistency, call by call -/

lemma consistent_addTwin (hl : l.WellFormed) (hc : l.Consistent) (fresh : l.twin twin = none) :
    (l.addTwin twin tenant).Consistent := by
  have hlive : ∀ t tn, t ≠ twin → ((l.addTwin twin tenant).LiveTwin t tn ↔ l.LiveTwin t tn) := by
    intro t tn ht
    simp [LiveTwin, addTwin, ht]
  have hrow : ∀ a t tn, l.assigned a t = some tn → t ≠ twin := by
    rintro a t tn hrow rfl
    obtain ⟨s, hs, -⟩ := hl.live a t tn hrow
    rw [fresh] at hs
    exact absurd hs (by simp)
  constructor
  · intro a tn
    refine (hc.agents a tn).trans ⟨?_, ?_⟩
    · rintro ⟨t, h, ht⟩
      exact ⟨t, h, (hlive t tn (hrow a t tn h)).mpr ht⟩
    · rintro ⟨t, h, ht⟩
      exact ⟨t, h, (hlive t tn (hrow a t tn h)).mp ht⟩
  · intro t s hs
    by_cases ht : t = twin
    · obtain rfl : (⟨tenant, .pending, false⟩ : TwinState) = s := by
        simpa [addTwin, ht] using hs
      refine iff_of_false (by simp) ?_
      rintro ⟨a, ha⟩
      obtain ⟨tn, htn⟩ := Option.ne_none_iff_exists'.mp ha
      exact hrow a t tn htn ht
    · exact hc.twins t s (by simpa [addTwin, ht] using hs)

lemma consistent_deleteTwin_iff (hl : l.WellFormed) (hc : l.Consistent)
    (live : l.LiveTwin twin tenant) :
    ((l.closeTwin twin tenant).releaseTwin twin).Consistent ↔ ¬ l.Served twin := by
  obtain ⟨s, hs, htenant, -⟩ := live
  constructor
  · intro hc' hserved
    have hactive : s.status = .active := (hc.twins twin s hs).mpr hserved
    -- The deleted twin keeps its status, but it has lost its agents.
    have hclosed : ((l.closeTwin twin tenant).releaseTwin twin).twin twin =
        some { s with deleted := true } := by
      simp [releaseTwin, closeTwin, hs, htenant]
    obtain ⟨a, ha⟩ := (hc'.twins twin _ hclosed).mp hactive
    exact ha (by simp [releaseTwin])
  · intro hnot
    have hnone : ∀ a, l.assigned a twin = none := by
      intro a
      by_contra h
      exact hnot ⟨a, h⟩
    -- Without agents of the twin no assignment is removed.
    have hrows : ((l.closeTwin twin tenant).releaseTwin twin).assigned = l.assigned := by
      funext a t
      by_cases ht : t = twin
      · simp [releaseTwin, ht, hnone]
      · simp [releaseTwin, closeTwin, ht]
    have hother : ∀ t, t ≠ twin →
        ((l.closeTwin twin tenant).releaseTwin twin).twin t = l.twin t := by
      intro t ht
      cases h : l.twin t <;> simp [releaseTwin, closeTwin, h, ht]
    constructor
    · intro a tn
      refine (hc.agents a tn).trans ⟨?_, ?_⟩
      · rintro ⟨t, hrow, -⟩
        have ht : t ≠ twin := by
          rintro rfl
          rw [hnone] at hrow
          exact absurd hrow (by simp)
        refine ⟨t, by rw [hrows, hrow], ?_⟩
        simpa only [LiveTwin, hother t ht] using hl.live a t tn hrow
      · rintro ⟨t, hrow, -⟩
        rw [hrows] at hrow
        exact ⟨t, hrow, hl.live a t tn hrow⟩
    · intro t s' hs'
      have hstatus : ∃ s₀, l.twin t = some s₀ ∧ s₀.status = s'.status := by
        by_cases ht : t = twin
        · subst ht
          refine ⟨s, hs, ?_⟩
          have : some { s with deleted := true } = some s' := by
            rw [← hs']
            simp [releaseTwin, closeTwin, hs, htenant]
          rw [← Option.some.inj this]
        · exact ⟨s', by rw [← hother t ht, hs'], rfl⟩
      obtain ⟨s₀, hs₀, heq⟩ := hstatus
      rw [← heq, hc.twins t s₀ hs₀]
      simp only [Served, hrows]

/-- Registering an agent writes no status: both must have been right, and a twin the agent is
moved from must keep another agent. -/
lemma consistent_register_iff (hl : l.WellFormed) (hc : l.Consistent)
    (live : l.LiveTwin twin tenant) :
    ((l.release agent).assign agent twin tenant).Consistent ↔
      l.AgentAssigned agent tenant ∧ l.Served twin ∧
        ∀ t, t ≠ twin → l.assigned agent t ≠ none → l.ServedWithout agent t := by
  -- The agent has exactly one twin then, and no other agent is touched.
  have hself : ((l.release agent).assign agent twin tenant).assigned agent twin = some tenant := by
    simp [assign]
  have hmoved : ∀ t, t ≠ twin →
      ((l.release agent).assign agent twin tenant).assigned agent t = none := by
    intro t ht
    simp [assign, release, ht]
  have hother : ∀ a t, a ≠ agent →
      ((l.release agent).assign agent twin tenant).assigned a t = l.assigned a t := by
    intro a t ha
    simp [assign, release, ha]
  have hserved : ((l.release agent).assign agent twin tenant).Served twin :=
    ⟨agent, by simp [hself]⟩
  constructor
  · intro hc'
    refine ⟨?_, ?_, ?_⟩
    · exact (hc'.agents agent tenant).mpr ⟨twin, hself, live⟩
    · obtain ⟨s, hs, -⟩ := live
      exact (hc.twins twin s hs).mp ((hc'.twins twin s hs).mpr hserved)
    · -- A twin that loses the agent stays active, so another agent must serve it.
      intro t ht hrow
      obtain ⟨s, hs, hactive⟩ := active_of_row hl hc hrow
      obtain ⟨a, ha⟩ := (hc'.twins t s hs).mp hactive
      have hne : a ≠ agent := by
        rintro rfl
        exact ha (hmoved t ht)
      exact ⟨a, hne, by rwa [← hother a t hne]⟩
  · rintro ⟨hassigned, hbefore, hleft⟩
    constructor
    · intro a tn
      change l.AgentAssigned a tn ↔ _
      by_cases ha : a = agent
      · subst ha
        constructor
        · intro h
          obtain rfl := agentAssigned_unique h hassigned
          exact ⟨twin, hself, live⟩
        · rintro ⟨t, hrow, -⟩
          by_cases ht : t = twin
          · subst ht
            rw [hself] at hrow
            rwa [← Option.some.inj hrow]
          · rw [hmoved t ht] at hrow
            exact absurd hrow (by simp)
      · rw [hc.agents a tn]
        simp only [HasTwin, hother a _ ha]
        rfl
    · intro t s hs
      change l.twin t = some s at hs
      by_cases ht : t = twin
      · subst ht
        exact iff_of_true ((hc.twins t s hs).mpr hbefore) hserved
      · rw [hc.twins t s hs]
        constructor
        · rintro ⟨a, ha⟩
          by_cases hrow : l.assigned agent t = none
          · have hne : a ≠ agent := by
              rintro rfl
              exact ha hrow
            exact ⟨a, by rwa [hother a t hne]⟩
          · obtain ⟨b, hb, hb'⟩ := hleft t ht hrow
            exact ⟨b, by rwa [hother b t hb]⟩
        · rintro ⟨a, ha⟩
          have hne : a ≠ agent := by
            rintro rfl
            exact ha (hmoved t ht)
          exact ⟨a, by rwa [← hother a t hne]⟩

lemma not_assigned_of_pair {s : EdgeAgentStatus} (h : canTransitionEdge s .pair = true) :
    ¬ s.Assigned := by
  cases s <;> revert h <;> decide

lemma twin_setTwin_self {status : ClusterAgentStatus} {s : TwinState} (hs : l.twin twin = some s)
    (htenant : s.tenant = tenant) :
    (l.setTwin twin tenant status).twin twin = some { s with status } := by
  simp [setTwin, hs, htenant]

lemma twin_setTwin_of_ne {status : ClusterAgentStatus} {t : TwinID} (ht : t ≠ twin) :
    (l.setTwin twin tenant status).twin t = l.twin t := by
  cases hs : l.twin t <;> simp [setTwin, hs, ht]

lemma consistent_pair (hl : l.WellFormed) (hc : l.Consistent)
    (allowed : l.Allows agent tenant (canTransitionEdge · .pair)) (live : l.LiveTwin twin tenant) :
    ((((l.release agent).assign agent twin tenant).setEdge agent tenant
      (fun _ => .active)).setTwin twin tenant .active).Consistent := by
  -- An agent that may be paired has no twin, so none is left behind.
  have hfree := no_row_of_allows hl hc allowed (fun _ => not_assigned_of_pair)
  let paired := ((l.release agent).assign agent twin tenant).setEdge agent tenant
    (fun _ => .active)
  change (paired.setTwin twin tenant .active).Consistent
  have hself : ∀ t tn, paired.assigned agent t = some tn ↔ t = twin ∧ tn = tenant := by
    intro t tn
    by_cases ht : t = twin
    · simp [paired, setEdge, assign, ht, eq_comm]
    · simp [paired, setEdge, assign, release, ht]
  have hother : ∀ a t, a ≠ agent → paired.assigned a t = l.assigned a t := by
    intro a t ha
    simp [paired, setEdge, assign, release, ha]
  have hlive : ∀ t tn, (paired.setTwin twin tenant .active).LiveTwin t tn ↔ l.LiveTwin t tn :=
    fun t tn => liveTwin_setTwin t tn
  have hedge : ∀ tn, paired.AgentAssigned agent tn ↔ tn = tenant := by
    obtain ⟨e, he, htenant, -⟩ := allowed
    intro tn
    simp [paired, AgentAssigned, setEdge, assign, release, he, htenant, EdgeAgentStatus.Assigned,
      eq_comm]
  constructor
  · intro a tn
    change paired.AgentAssigned a tn ↔ _
    by_cases ha : a = agent
    · subst ha
      rw [hedge]
      constructor
      · rintro rfl
        exact ⟨twin, (hself twin tn).mpr ⟨rfl, rfl⟩, (hlive twin tn).mpr live⟩
      · rintro ⟨t, hrow, -⟩
        exact ((hself t tn).mp hrow).2
    · have hsame : paired.edge a = l.edge a := edge_setEdge_of_ne ha
      rw [agentAssigned_congr hsame, hc.agents a tn]
      constructor
      · rintro ⟨t, hrow, ht⟩
        exact ⟨t, (hother a t ha).trans hrow, (hlive t tn).mpr ht⟩
      · rintro ⟨t, hrow, ht⟩
        exact ⟨t, (hother a t ha).symm.trans hrow, (hlive t tn).mp ht⟩
  · intro t s hs
    by_cases ht : t = twin
    · -- The twin is made active, and the agent serves it.
      subst ht
      obtain ⟨s₀, hs₀, htenant, -⟩ := live
      have hpaired : paired.twin t = some s₀ := hs₀
      rw [twin_setTwin_self hpaired htenant] at hs
      obtain rfl := Option.some.inj hs
      refine iff_of_true rfl ⟨agent, ?_⟩
      have hrow : paired.assigned agent t = some tenant := (hself t tenant).mpr ⟨rfl, rfl⟩
      exact hrow ▸ Option.some_ne_none tenant
    · rw [twin_setTwin_of_ne ht] at hs
      rw [hc.twins t s hs]
      have hrows : ∀ a, paired.assigned a t = l.assigned a t := by
        intro a
        by_cases ha : a = agent
        · rw [ha, hfree]
          simp [paired, setEdge, assign, release, ht]
        · exact hother a t ha
      exact ⟨fun ⟨a, h⟩ => ⟨a, by rwa [← hrows a] at h⟩, fun ⟨a, h⟩ => ⟨a, by rwa [← hrows a]⟩⟩

lemma consistent_unpair_iff (hl : l.WellFormed) (hc : l.Consistent)
    (allowed : l.Allows agent tenant (canTransitionEdge · .unpair))
    (row : l.assigned agent twin ≠ none) :
    (((l.release agent).setEdge agent tenant (fun _ => .rogue)).setTwin twin tenant
      .unconfigured).Consistent ↔ ¬ l.ServedWithout agent twin := by
  let unpaired := (l.release agent).setEdge agent tenant (fun _ => .rogue)
  change (unpaired.setTwin twin tenant .unconfigured).Consistent ↔ _
  have honly : ∀ t, l.assigned agent t ≠ none → t = twin := fun t h => hl.single _ _ _ h row
  have hfree : ∀ t, unpaired.assigned agent t = none := fun t => release_free t
  have hother : ∀ a t, a ≠ agent → unpaired.assigned a t = l.assigned a t := by
    intro a t ha
    simp [unpaired, setEdge, release, ha]
  have hlive : ∀ t tn,
      (unpaired.setTwin twin tenant .unconfigured).LiveTwin t tn ↔ l.LiveTwin t tn :=
    fun t tn => liveTwin_setTwin t tn
  -- The twin belongs to the agent's tenant, so the second update reaches it.
  obtain ⟨s, hs, htenant⟩ : ∃ s, l.twin twin = some s ∧ s.tenant = tenant := by
    obtain ⟨tn, htn⟩ := Option.ne_none_iff_exists'.mp row
    obtain ⟨e, he, rfl, -⟩ := agentAssigned_of_row hl hc htn
    obtain ⟨e', he', htenant', -⟩ := allowed
    rw [he] at he'
    obtain rfl := Option.some.inj he'
    obtain ⟨s, hs, hst, -⟩ := hl.live agent twin _ htn
    exact ⟨s, hs, hst.trans htenant'⟩
  have hunconfigured : (unpaired.setTwin twin tenant .unconfigured).twin twin =
      some { s with status := .unconfigured } := twin_setTwin_self (l := unpaired) hs htenant
  have hserved : unpaired.Served twin ↔ l.ServedWithout agent twin := by
    constructor
    · rintro ⟨a, ha⟩
      have hne : a ≠ agent := by
        rintro rfl
        exact ha (hfree twin)
      exact ⟨a, hne, by rwa [← hother a twin hne]⟩
    · rintro ⟨a, hne, ha⟩
      exact ⟨a, by rwa [hother a twin hne]⟩
  constructor
  · intro hc' hleft
    have := (hc'.twins twin _ hunconfigured).mpr (hserved.mpr hleft)
    exact absurd this (by simp)
  · intro hleft
    constructor
    · intro a tn
      change unpaired.AgentAssigned a tn ↔ _
      by_cases ha : a = agent
      · subst ha
        refine iff_of_false ?_ ?_
        · rw [agentAssigned_setEdge (by decide)]
          rintro ⟨hne, h⟩
          obtain ⟨e, he, rfl, -⟩ := h
          obtain ⟨e', he', htenant', -⟩ := allowed
          have he'' : l.edge a = some e := he
          rw [he'] at he''
          exact hne ((Option.some.inj he'') ▸ htenant')
        · rintro ⟨t, hrow, -⟩
          have hnone : unpaired.assigned a t = some tn := hrow
          rw [hfree] at hnone
          exact absurd hnone (by simp)
      · have hsame : unpaired.edge a = l.edge a := edge_setEdge_of_ne ha
        rw [agentAssigned_congr hsame, hc.agents a tn]
        constructor
        · rintro ⟨t, hrow, ht⟩
          exact ⟨t, (hother a t ha).trans hrow, (hlive t tn).mpr ht⟩
        · rintro ⟨t, hrow, ht⟩
          exact ⟨t, (hother a t ha).symm.trans hrow, (hlive t tn).mp ht⟩
    · intro t s' hs'
      by_cases ht : t = twin
      · subst ht
        rw [hunconfigured] at hs'
        obtain rfl := Option.some.inj hs'
        exact iff_of_false (by simp) (fun h => hleft (hserved.mp h))
      · rw [twin_setTwin_of_ne ht] at hs'
        rw [hc.twins t s' hs']
        have hrows : ∀ a, unpaired.assigned a t = l.assigned a t := by
          intro a
          by_cases ha : a = agent
          · rw [ha, hfree]
            by_contra h
            exact ht (honly t (Ne.symm h))
          · exact hother a t ha
        exact ⟨fun ⟨a, h⟩ => ⟨a, by rwa [← hrows a] at h⟩, fun ⟨a, h⟩ => ⟨a, by rwa [← hrows a]⟩⟩

/-- From a consistent lifecycle, a call leads to a consistent one exactly when it keeps it. -/
theorem Step.consistent_iff {op : Operation} (step : l.Step op l') (hl : l.WellFormed)
    (hc : l.Consistent) : l'.Consistent ↔ l.Keeps op := by
  cases step with
  | refused h => exact iff_of_true hc (fun h' => absurd h' h)
  | createTwin fresh => exact iff_of_true (consistent_addTwin hl hc fresh) (fun h => h.elim)
  | deleteTwin live =>
    rw [consistent_deleteTwin_iff hl hc live]
    exact ⟨fun h _ => h, fun h => h live⟩
  | registerAgent live =>
    rw [consistent_register_iff hl hc live]
    exact ⟨fun h _ => h, fun h => h live⟩
  | unassignAgent =>
    rw [consistent_unassign_iff hl hc]
    exact ⟨fun h _ => h, fun h => h trivial⟩
  | upsertAgentRegistration => exact iff_of_true (consistent_enroll hc) (fun h => h.elim)
  | createAgent => exact iff_of_true (consistent_enroll hc) (fun h => h.elim)
  | deleteAgent =>
    rw [consistent_drop_iff hl hc]
    exact ⟨fun h _ => h, fun h => h trivial⟩
  | updateAgent => exact iff_of_true (consistent_rename hc) (fun h => h.elim)
  | pairAgent allowed live => exact iff_of_true (consistent_pair hl hc allowed live) (fun h => h.elim)
  | unpairAgent accepted row =>
    rw [consistent_unpair_iff hl hc accepted.2.1 row]
    constructor
    · intro h _ t hrow
      rwa [hl.single _ _ _ hrow row]
    · intro h
      exact h accepted _ row
  | retireAgent accepted =>
    rw [consistent_unassigned_iff hl hc (by decide), withdraw_iff_of_allows hl hc accepted.2]
    exact ⟨fun h _ => h, fun h => h accepted⟩
  | blacklistAgent accepted =>
    rw [consistent_unassigned_iff hl hc (by decide)]
    exact ⟨fun h _ => h, fun h => h accepted⟩
  | unregisterAgent accepted =>
    rw [consistent_drop_iff hl hc, withdraw_iff_of_allows hl hc accepted.2]
    exact ⟨fun h _ => h, fun h => h accepted⟩

end Paryty.Twin.Lifecycle

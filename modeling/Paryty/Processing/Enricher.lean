import Mathlib.Data.Finset.Card
import Mathlib.Data.Finset.Image
import Paryty.Processing.Correlator

/-!
# The enricher

`buildLabels` and `EnrichAggregated` of `cluster/internal/processing/enricher.go`: the labels of an
agent are put on a metric, the standard ones always, the others within `MaxLabelsPerMetric`. What the
metric has already is not counted.

* `Within`: the labels of an enriched metric are as they should be.
* `within_iff`: the metrics and agents for which they are, in whatever order the maps are ranged
  over.
-/

namespace Paryty.Processing

namespace Enricher

/-! ## Labels -/

/-- A map of labels. -/
abbrev Labels := Lib.Table (String × String) String Prod.fst

/-- `EnricherConfig`. -/
structure EnricherConfig where
  standardLabelKeys : List String := []
  maxLabelsPerMetric : ℤ := 0
  labelPrefix : String := ""
deriving DecidableEq

/-- The defaults that `NewEnricher` fills in. -/
def NewEnricher (config : EnricherConfig) : EnricherConfig where
  maxLabelsPerMetric := if config.maxLabelsPerMetric = 0 then 20 else config.maxLabelsPerMetric
  labelPrefix := if config.labelPrefix = "" then "agent." else config.labelPrefix
  standardLabelKeys :=
    if config.standardLabelKeys.length = 0 then ["env", "region", "team", "service", "version"]
    else config.standardLabelKeys

/-- The label of an agent, with the prefix. -/
def EnricherConfig.prefixed (config : EnricherConfig) (label : String × String) :
    String × String := (config.labelPrefix ++ label.1, label.2)

/-- Priority 1 of `buildLabels`. -/
def standardLabels (config : EnricherConfig) (agentLabels : Labels) : Labels :=
  config.standardLabelKeys.foldl (fun result key =>
    match agentLabels.find? key with
    | some label => result.put (config.prefixed label)
    | none => result) .empty

/-- A loop that adds labels until there are enough. -/
def addLabels (maxLabels : ℤ) (result : Labels) : List (String × String) → Labels
  | [] => result
  | label :: labels =>
    if maxLabels ≤ result.rows.length then result
    else addLabels maxLabels (result.put label) labels

/-- `buildLabels`, with the maps ranged over in an order. -/
def buildLabels (config : EnricherConfig) (agentLabels extraLabels : Labels)
    (order : List (String × String)) : Labels :=
  -- The loop of priority 3 skips standard labels before it looks whether there are enough.
  addLabels config.maxLabelsPerMetric
    (addLabels config.maxLabelsPerMetric (standardLabels config agentLabels)
      (inOrder order extraLabels.rows))
    (((inOrder order agentLabels.rows).filter fun label =>
      label.1 ∉ config.standardLabelKeys).map config.prefixed)

/-! ## Metrics -/

/-- `models.AggregatedMetric`, with its other fields. -/
structure Metric (μ : Type*) where
  fields : μ
  labels : Labels

/-- The body of the loop in `EnrichAggregated`. -/
def Metric.enrich {μ : Type*} (m : Metric μ) (labels : Labels) : Metric μ :=
  { m with labels := labels.rows.foldl Lib.Table.put (m.labels.rows.foldl Lib.Table.put .empty) }

/-- `EnrichAggregated`, with what `getAgentInfo` returns: the labels of the agent, or an error. -/
def enrichAggregated {μ : Type*} (config : EnricherConfig) (ctx : Ctx)
    (agentInfo : Except String Labels) (order : List (String × String))
    (metrics : List (Metric μ)) : Except String (List (Metric μ)) :=
  match ctx.poll with
  | none => .error "enricher: context cancelled"
  | some _ =>
    match agentInfo with
    | .error _ => .error "enricher: get agent info for aggregated metrics"
    | .ok agentLabels =>
      .ok (metrics.map fun m => m.enrich (buildLabels config agentLabels .empty order))

/-! ## The budget -/

/-- How many of the agent's labels are standard. -/
def standardPresent (config : EnricherConfig) (agentLabels : Labels) : ℕ :=
  (agentLabels.rows.filter fun label => label.1 ∈ config.standardLabelKeys).length

/-- How many labels there may be. -/
def budget (config : EnricherConfig) (agentLabels : Labels) : ℤ :=
  max config.maxLabelsPerMetric (standardPresent config agentLabels)

/-- The labels of an enriched metric: all standard ones of the agent with their values, no more than
the budget, and another one of the agent only with all the standard ones. -/
structure Within (config : EnricherConfig) (agentLabels labels : Labels) : Prop where
  standard : ∀ label ∈ agentLabels, label.1 ∈ config.standardLabelKeys →
    config.prefixed label ∈ labels
  bound : (labels.rows.length : ℤ) ≤ budget config agentLabels
  priority : ∀ low ∈ agentLabels, low.1 ∉ config.standardLabelKeys → config.prefixed low ∈ labels →
    ∀ high ∈ agentLabels, high.1 ∈ config.standardLabelKeys → config.prefixed high ∈ labels

/-- The keys of some labels. -/
def keys (labels : Labels) : Finset String := (labels.rows.map Prod.fst).toFinset

/-- The keys that the agent's labels have on a metric. -/
def agentKeys (config : EnricherConfig) (agentLabels : Labels) : Finset String :=
  (agentLabels.rows.map fun label => (config.prefixed label).1).toFinset

/-- Those of the standard labels. -/
def standardKeys (config : EnricherConfig) (agentLabels : Labels) : Finset String :=
  ((agentLabels.rows.filter fun label => label.1 ∈ config.standardLabelKeys).map fun label =>
    (config.prefixed label).1).toFinset

/-- Either all labels of the agent fit, together with those of the metric, or the metric has no other
keys than those of the agent's standard labels. -/
def Fits (config : EnricherConfig) (agentLabels own : Labels) : Prop :=
  if (agentLabels.rows.length : ℤ) ≤ budget config agentLabels then
    ((keys own ∪ agentKeys config agentLabels).card : ℤ) ≤ budget config agentLabels
  else keys own ⊆ standardKeys config agentLabels

variable {config : EnricherConfig} {agentLabels own : Labels} {order : List (String × String)}

/-! ## Standard labels -/

lemma prefixed_fst_inj {label label' : String × String} :
    (config.prefixed label).1 = (config.prefixed label').1 ↔ label.1 = label'.1 :=
  String.append_right_inj _

lemma mem_standardLabels {label : String × String} : label ∈ standardLabels config agentLabels ↔
    ∃ l ∈ agentLabels, l.1 ∈ config.standardLabelKeys ∧ config.prefixed l = label := by
  unfold standardLabels
  induction config.standardLabelKeys using List.reverseRecOn with
  | nil => simp
  | append_singleton standard key ih =>
    rw [List.foldl_concat]
    cases hfind : agentLabels.find? key with
    | none =>
      -- The agent does not have the label.
      have hother (l : String × String) (hl : l ∈ agentLabels) :
          l.1 ∈ standard ++ [key] ↔ l.1 ∈ standard := by
        simp [Lib.Table.find?_eq_none.mp hfind l hl]
      refine ih.trans (exists_congr fun l => and_congr_right fun hl => ?_)
      rw [hother l hl]
    | some l =>
      obtain ⟨hl, rfl⟩ := Lib.Table.find?_eq_some.mp hfind
      refine Lib.Table.mem_put.trans ?_
      rw [ih]
      constructor
      · rintro (rfl | ⟨⟨l', hl', hkey, rfl⟩, -⟩)
        · exact ⟨l, hl, List.mem_append_right _ (List.mem_singleton_self _), rfl⟩
        · exact ⟨l', hl', List.mem_append_left _ hkey, rfl⟩
      · rintro ⟨l', hl', hkey, rfl⟩
        by_cases hsame : l'.1 = l.1
        · exact .inl (by rw [agentLabels.eq_of_key_eq hl' hl hsame])
        · have hold : l'.1 ∈ standard := by simpa [hsame] using hkey
          exact .inr ⟨⟨l', hl', hold, rfl⟩, fun h => hsame (prefixed_fst_inj.mp h)⟩

lemma nodup_map_prefixed {labels : List (String × String)} (h : (labels.map Prod.fst).Nodup) :
    ((labels.map config.prefixed).map Prod.fst).Nodup := by
  have hkeys : (labels.map config.prefixed).map Prod.fst =
      (labels.map Prod.fst).map (config.labelPrefix ++ ·) := by
    rw [List.map_map, List.map_map]
    rfl
  rw [hkeys]
  exact h.map fun _ _ hsame => (String.append_right_inj _).mp hsame

lemma perm_standardLabels : (standardLabels config agentLabels).rows.Perm
    ((agentLabels.rows.filter fun label => label.1 ∈ config.standardLabelKeys).map
      config.prefixed) := by
  have hnodup : (((agentLabels.rows.filter fun label =>
      label.1 ∈ config.standardLabelKeys).map config.prefixed).map Prod.fst).Nodup :=
    nodup_map_prefixed ((List.filter_sublist.map _).nodup agentLabels.nodup)
  refine (List.perm_ext_iff_of_nodup (Lib.Table.nodup _).of_map hnodup.of_map).mpr fun label => ?_
  rw [Lib.Table.mem_rows, mem_standardLabels, List.mem_map]
  refine exists_congr fun l => ?_
  rw [List.mem_filter, decide_eq_true_eq, and_assoc]
  exact Iff.rfl

/-! ## The attached labels -/

lemma rows_addLabels {maxLabels : ℤ} {result : Labels} {labels : List (String × String)}
    (hlabels : (labels.map Prod.fst).Nodup) (hfresh : ∀ label ∈ labels, ¬ result.HasKey label.1) :
    (addLabels maxLabels result labels).rows =
      result.rows ++ labels.take (maxLabels - result.rows.length).toNat := by
  induction labels generalizing result with
  | nil => rw [List.take_nil, List.append_nil, addLabels]
  | cons label labels ih =>
    obtain ⟨hlabel, hlabels⟩ := List.nodup_cons.mp hlabels
    rw [addLabels]
    split
    case isTrue hfull =>
      have hnone : (maxLabels - result.rows.length).toNat = 0 := by omega
      rw [hnone, List.take_zero, List.append_nil]
    case isFalse hroom =>
      have hrows : (result.put label).rows = result.rows ++ [label] :=
        Lib.Table.rows_put_of_fresh (hfresh label List.mem_cons_self)
      have hlength : ((result.put label).rows.length : ℤ) = result.rows.length + 1 := by
        rw [hrows, List.length_append, List.length_singleton, Nat.cast_add, Nat.cast_one]
      rw [ih hlabels]
      · -- One place fewer is left.
        have hplaces : (maxLabels - result.rows.length).toNat =
            (maxLabels - (result.put label).rows.length).toNat + 1 := by omega
        rw [hplaces, List.take_succ_cons, hrows, List.append_assoc, List.singleton_append]
      · intro l hl hkey
        rcases Lib.Table.hasKey_put.mp hkey with hkey | hkey
        · exact hfresh l (List.mem_cons_of_mem _ hl) hkey
        · exact hlabel (hkey ▸ List.mem_map_of_mem hl)

/-- The labels of priority 3, in the order in which the loop finds them. -/
def remaining (config : EnricherConfig) (agentLabels : Labels) (order : List (String × String)) :
    List (String × String) :=
  ((inOrder order agentLabels.rows).filter fun label =>
    label.1 ∉ config.standardLabelKeys).map config.prefixed

/-- How many of them there is room for. -/
def room (config : EnricherConfig) (agentLabels : Labels) : ℕ :=
  (config.maxLabelsPerMetric - standardPresent config agentLabels).toNat

lemma mem_remaining {label : String × String} : label ∈ remaining config agentLabels order ↔
    ∃ l ∈ agentLabels, l.1 ∉ config.standardLabelKeys ∧ config.prefixed l = label := by
  rw [remaining, List.mem_map]
  refine exists_congr fun l => ?_
  rw [List.mem_filter, (perm_inOrder _ _).mem_iff, decide_eq_true_eq, and_assoc]
  exact Iff.rfl

lemma nodup_remaining : ((remaining config agentLabels order).map Prod.fst).Nodup := by
  refine nodup_map_prefixed ((List.filter_sublist.map _).nodup ?_)
  exact ((perm_inOrder _ _).map Prod.fst).nodup_iff.mpr agentLabels.nodup

lemma length_standardLabels :
    (standardLabels config agentLabels).rows.length = standardPresent config agentLabels := by
  rw [perm_standardLabels.length_eq, List.length_map, standardPresent]

lemma length_remaining : standardPresent config agentLabels +
    (remaining config agentLabels order).length = agentLabels.rows.length := by
  rw [remaining, List.length_map, ((perm_inOrder _ _).filter _).length_eq, standardPresent]
  simpa using (List.length_eq_length_filter_add
    (l := agentLabels.rows) fun label => decide (label.1 ∈ config.standardLabelKeys)).symm

lemma rows_buildLabels : (buildLabels config agentLabels .empty order).rows =
    (standardLabels config agentLabels).rows ++
      (remaining config agentLabels order).take (room config agentLabels) := by
  have hextra : inOrder order (Lib.Table.empty : Labels).rows = [] :=
    List.Perm.eq_nil (perm_inOrder _ _)
  rw [buildLabels, hextra, addLabels, ← remaining, rows_addLabels nodup_remaining,
    length_standardLabels, room]
  -- The keys of priority 3 are new.
  intro label hlabel hkey
  obtain ⟨l, -, hrest, rfl⟩ := mem_remaining.mp hlabel
  obtain ⟨label', hlabel', hsame⟩ := hkey
  obtain ⟨l', -, hstandard, rfl⟩ := mem_standardLabels.mp hlabel'
  exact hrest (prefixed_fst_inj.mp hsame ▸ hstandard)

lemma length_buildLabels : ((buildLabels config agentLabels .empty order).rows.length : ℤ) =
    min (agentLabels.rows.length : ℤ) (budget config agentLabels) := by
  have hall : standardPresent config agentLabels + (remaining config agentLabels order).length =
      agentLabels.rows.length := length_remaining
  rw [rows_buildLabels, List.length_append, List.length_take, length_standardLabels, budget, room]
  omega

lemma prefixed_mem_buildLabels {label : String × String} (hlabel : label ∈ agentLabels)
    (hstandard : label.1 ∈ config.standardLabelKeys) :
    config.prefixed label ∈ buildLabels config agentLabels .empty order := by
  rw [← Lib.Table.mem_rows, rows_buildLabels, List.mem_append]
  exact .inl (mem_standardLabels.mpr ⟨label, hlabel, hstandard, rfl⟩)

/-! ## Keys -/

lemma mem_keys {labels : Labels} {key : String} : key ∈ keys labels ↔ labels.HasKey key := by
  rw [keys, List.mem_toFinset, List.mem_map]
  exact Iff.rfl

lemma card_keys (labels : Labels) : (keys labels).card = labels.rows.length := by
  rw [keys, List.toFinset_card_of_nodup labels.nodup, List.length_map]

/-- The labels of an enriched metric. -/
def enriched (config : EnricherConfig) (agentLabels own : Labels)
    (order : List (String × String)) : Labels :=
  (buildLabels config agentLabels .empty order).rows.foldl Lib.Table.put
    (own.rows.foldl Lib.Table.put .empty)

lemma keys_enriched : keys (enriched config agentLabels own order) =
    keys own ∪ keys (buildLabels config agentLabels .empty order) := by
  ext key
  rw [Finset.mem_union, mem_keys, mem_keys, mem_keys, enriched, Lib.Table.hasKey_foldl_put]
  exact or_congr_left Lib.Table.hasKey_ofList

lemma mem_enriched_of_mem {label : String × String}
    (h : label ∈ buildLabels config agentLabels .empty order) :
    label ∈ enriched config agentLabels own order :=
  (Lib.Table.mem_foldl_put (Lib.Table.nodup _)).mpr (.inl h)

lemma within_enriched_iff :
    Within config agentLabels (enriched config agentLabels own order) ↔
      ((keys own ∪ keys (buildLabels config agentLabels .empty order)).card : ℤ) ≤
        budget config agentLabels := by
  rw [← keys_enriched, card_keys]
  constructor
  · exact Within.bound
  · intro hbound
    exact {
      standard := fun _ hlabel hstandard =>
        mem_enriched_of_mem (prefixed_mem_buildLabels hlabel hstandard)
      bound := hbound
      priority := fun _ _ _ _ _ hhigh hstandard =>
        mem_enriched_of_mem (prefixed_mem_buildLabels hhigh hstandard) }

lemma mem_standardKeys {key : String} : key ∈ standardKeys config agentLabels ↔
    ∃ l ∈ agentLabels, l.1 ∈ config.standardLabelKeys ∧ (config.prefixed l).1 = key := by
  rw [standardKeys, List.mem_toFinset, List.mem_map]
  refine exists_congr fun l => ?_
  rw [List.mem_filter, decide_eq_true_eq, and_assoc]
  exact Iff.rfl

lemma standardKeys_subset : standardKeys config agentLabels ⊆
    keys (buildLabels config agentLabels .empty order) := by
  intro key hkey
  obtain ⟨l, hl, hstandard, rfl⟩ := mem_standardKeys.mp hkey
  exact mem_keys.mpr (Lib.Table.hasKey_of_mem (prefixed_mem_buildLabels hl hstandard))

lemma keys_buildLabels_subset : keys (buildLabels config agentLabels .empty order) ⊆
    agentKeys config agentLabels := by
  intro key hkey
  obtain ⟨label, hlabel, rfl⟩ := mem_keys.mp hkey
  rw [agentKeys, List.mem_toFinset, List.mem_map]
  rw [rows_buildLabels, List.mem_append] at hlabel
  rcases hlabel with hlabel | hlabel
  · obtain ⟨l, hl, -, rfl⟩ := mem_standardLabels.mp hlabel
    exact ⟨l, hl, rfl⟩
  · obtain ⟨l, hl, -, rfl⟩ := mem_remaining.mp (List.mem_of_mem_take hlabel)
    exact ⟨l, hl, rfl⟩

lemma card_agentKeys : (agentKeys config agentLabels).card = agentLabels.rows.length := by
  have hkeys : (agentLabels.rows.map fun label => (config.prefixed label).1) =
      (agentLabels.rows.map config.prefixed).map Prod.fst := by rw [List.map_map]; rfl
  rw [agentKeys, hkeys, List.toFinset_card_of_nodup (nodup_map_prefixed agentLabels.nodup),
    List.length_map, List.length_map]

lemma keys_buildLabels (h : (agentLabels.rows.length : ℤ) ≤ budget config agentLabels) :
    keys (buildLabels config agentLabels .empty order) = agentKeys config agentLabels := by
  refine Finset.eq_of_subset_of_card_le keys_buildLabels_subset ?_
  have hlength : ((buildLabels config agentLabels .empty order).rows.length : ℤ) =
      agentLabels.rows.length := length_buildLabels.trans (min_eq_left h)
  rw [card_agentKeys, card_keys]
  omega

lemma exists_not_mem_keys (h : ¬ (agentLabels.rows.length : ℤ) ≤ budget config agentLabels)
    {l : String × String} (hl : l ∈ agentLabels) (hrest : l.1 ∉ config.standardLabelKeys) :
    ∃ order : List (String × String),
      (config.prefixed l).1 ∉ keys (buildLabels config agentLabels .empty order) := by
  have hperm : (agentLabels.rows.erase l ++ [l]).Perm agentLabels.rows :=
    (List.perm_append_singleton l _).trans (List.perm_cons_erase hl).symm
  refine ⟨agentLabels.rows.erase l ++ [l], fun hkey => ?_⟩
  obtain ⟨label, hlabel, hsame⟩ := mem_keys.mp hkey
  rw [rows_buildLabels, List.mem_append] at hlabel
  rcases hlabel with hlabel | hlabel
  · obtain ⟨l', -, hstandard, rfl⟩ := mem_standardLabels.mp hlabel
    exact hrest (prefixed_fst_inj.mp hsame ▸ hstandard)
  · set others := ((agentLabels.rows.erase l).filter fun label =>
      label.1 ∉ config.standardLabelKeys).map config.prefixed with hothers
    have hlast : remaining config agentLabels (agentLabels.rows.erase l ++ [l]) =
        others ++ [config.prefixed l] := by
      rw [remaining, inOrder_of_perm hperm, List.filter_append, List.map_append, ← hothers,
        List.filter_singleton, decide_eq_true hrest, cond_true, List.map_singleton]
    have hall : standardPresent config agentLabels + (others ++ [config.prefixed l]).length =
        agentLabels.rows.length := hlast ▸ length_remaining
    -- The room ends before the last one.
    have hroom : room config agentLabels ≤ others.length := by
      rw [List.length_append, List.length_singleton] at hall
      rw [budget] at h
      rw [room]
      omega
    rw [hlast, List.take_append_of_le_length hroom] at hlabel
    have hnodup : ((others ++ [config.prefixed l]).map Prod.fst).Nodup :=
      hlast ▸ nodup_remaining
    rw [List.map_append, List.map_singleton] at hnodup
    exact (List.nodup_append.mp hnodup).2.2 _
      (List.mem_map_of_mem (List.mem_of_mem_take hlabel)) _ (List.mem_singleton_self _) hsame

lemma forall_within_iff :
    (∀ order, Within config agentLabels (enriched config agentLabels own order)) ↔
      Fits config agentLabels own := by
  simp only [within_enriched_iff]
  rw [Fits]
  split
  case isTrue hall =>
    simp only [keys_buildLabels hall]
    exact forall_const _
  case isFalse hsome =>
    have hbudget (order : List (String × String)) :
        ((keys (buildLabels config agentLabels .empty order)).card : ℤ) =
          budget config agentLabels := by
      rw [card_keys, length_buildLabels, min_eq_right (not_le.mp hsome).le]
    constructor
    · intro hbound key hkey
      -- There is no room for another key than the attached ones.
      have hattached (order : List (String × String)) :
          key ∈ keys (buildLabels config agentLabels .empty order) := by
        have hsame : keys (buildLabels config agentLabels .empty order) =
            keys own ∪ keys (buildLabels config agentLabels .empty order) := by
          refine Finset.eq_of_subset_of_card_le Finset.subset_union_right ?_
          have := hbound order
          have := hbudget order
          omega
        rw [hsame]
        exact Finset.mem_union_left _ hkey
      have hagent := keys_buildLabels_subset (hattached [])
      rw [agentKeys, List.mem_toFinset, List.mem_map] at hagent
      obtain ⟨l, hl, rfl⟩ := hagent
      by_contra hrest
      have hother : l.1 ∉ config.standardLabelKeys := fun hstandard =>
        hrest (mem_standardKeys.mpr ⟨l, hl, hstandard, rfl⟩)
      obtain ⟨order, hleft⟩ := exists_not_mem_keys hsome hl hother
      exact hleft (hattached order)
    · intro hown order
      rw [Finset.union_eq_right.mpr (hown.trans standardKeys_subset), hbudget]

/-- The labels of the metrics are as they should be, whatever the order, if and only if each metric
fits. -/
theorem within_iff {μ : Type*} (config : EnricherConfig) (agentLabels : Labels)
    (metrics : List (Metric μ)) :
    (∀ (ctx : Ctx) (order : List (String × String)) (result : List (Metric μ)),
      enrichAggregated config ctx (.ok agentLabels) order metrics = .ok result →
        ∀ m ∈ result, Within config agentLabels m.labels) ↔
      ∀ m ∈ metrics, Fits config agentLabels m.labels := by
  simp only [← forall_within_iff]
  constructor
  · intro hwithin m hm order
    exact hwithin .background order _ rfl _ (List.mem_map_of_mem hm)
  · intro hfits ctx order result hresult m hm
    unfold enrichAggregated at hresult
    split at hresult
    case h_1 => exact absurd hresult (by simp)
    case h_2 =>
      obtain rfl := Except.ok.inj hresult
      obtain ⟨m', hm', rfl⟩ := List.mem_map.mp hm
      exact hfits m' hm' order

/-- One label is the limit, the agent has one, and the metric another. -/
theorem not_within_hostAndEnv :
    ¬ (∀ (config : EnricherConfig) (ctx : Ctx) (agentLabels : Labels)
      (order : List (String × String)) (metrics result : List (Metric Unit)),
      enrichAggregated (NewEnricher config) ctx (.ok agentLabels) order metrics = .ok result →
        ∀ m ∈ result, Within (NewEnricher config) agentLabels m.labels) := by
  intro h
  have hbound := (h { maxLabelsPerMetric := 1 } .background (Lib.Table.empty.put ("env", "prod"))
    [] [{ fields := (), labels := Lib.Table.empty.put ("host", "a") }] _ rfl _
    (List.mem_singleton_self _)).bound
  exact absurd hbound (by decide +kernel)

end Enricher

end Paryty.Processing

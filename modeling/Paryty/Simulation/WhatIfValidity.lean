import Paryty.Lib.Graph
import Paryty.Lib.Run
import Paryty.Simulation.WhatIfRefinement

/-!
# What-if changes and valid topologies

The changes do not look whether the topology stays valid.

* `Fits`: new IDs are new, a new edge has ends, and the nodes that "scale" replaces leave no ID
  twice and no edge without an end. `applyChange_iff` says that a change fails or keeps a valid
  topology valid if and only if it fits.
* `changes_preserve_iff`: for a list of changes and all its beginnings, `applyChanges` leaves the
  topology it is given unchanged and returns an error or a valid topology, if and only if every
  change fits the topology it meets. The first half holds in any case (`applyChanges_extends`).
-/

namespace Paryty.Simulation.WhatIf

open Lib.Slice (emitAll)

/-! ## Validity -/

/-- The IDs of a topology. -/
def topologyKeys : Lib.GraphKeys (TopologyNode StringMap) (TopologyEdge StringMap) String where
  node := TopologyNode.id
  edge := TopologyEdge.id
  source := TopologyEdge.sourceID
  target := TopologyEdge.targetID

/-- Node IDs and edge IDs are unique, and every edge joins nodes of the topology. -/
def Valid (t : Topology) : Prop := topologyKeys.WellFormed t.nodes t.edges

/-! ## New IDs -/

lemma toString_injective : Function.Injective (toString : ℕ → String) := by
  intro i j h
  have hdigits : Nat.toDigits 10 i = Nat.toDigits 10 j := by
    simpa using congrArg String.toList h
  rw [← Nat.ofDigitChars_ten_toDigits (n := i), hdigits, Nat.ofDigitChars_ten_toDigits]

lemma newID_injective (kind : NodeKind) (target : String) :
    Function.Injective (kind.newID target) := fun _ _ h =>
  toString_injective ((String.append_right_inj _).mp h)

lemma cloneID_inj {id id' : String} {i j : ℕ} :
    cloneID id i = cloneID id' j ↔ id = id' ∧ i = j := by
  have hsplit (id : String) (i : ℕ) : (cloneID id i).toList.reverse.takeWhile (· ≠ '-') =
      (toString i).toList.reverse := by
    have hdigit : ∀ c ∈ (toString i).toList.reverse, decide (c ≠ '-') = true := by
      intro c hc
      rw [List.mem_reverse, Nat.toString_eq_repr, Nat.toList_repr] at hc
      rw [decide_eq_true_iff]
      rintro rfl
      simpa using Nat.isDigit_of_mem_toDigits (by decide) (by decide) hc
    have hdash : "-scaled-".toList.reverse = '-' :: "-scaled".toList.reverse := by decide
    rw [cloneID, String.toList_append, String.toList_append, List.reverse_append,
      List.reverse_append, List.takeWhile_append_of_pos hdigit, hdash, List.cons_append,
      List.takeWhile_cons_of_neg (by decide), List.append_nil]
  constructor
  · intro h
    have hnumber := congrArg (fun text : String => text.toList.reverse.takeWhile (· ≠ '-')) h
    rw [hsplit, hsplit, List.reverse_inj, String.toList_inj] at hnumber
    obtain rfl := toString_injective hnumber
    exact ⟨(String.append_left_inj _).mp ((String.append_left_inj _).mp h), rfl⟩
  · rintro ⟨rfl, rfl⟩
    rfl

/-! ## What fits -/

/-- The IDs of the new nodes are new. -/
def NewIDsFit (kind : NodeKind) (step : Step) (t : Topology) : Prop :=
  ∀ i < step.change.count.toNat, kind.newID step.change.target i ∉ t.nodeIDs

instance (kind : NodeKind) (step : Step) (t : Topology) : Decidable (NewIDsFit kind step t) :=
  inferInstanceAs (Decidable (∀ i < step.change.count.toNat, _ ∉ t.nodeIDs))

/-- A clone has this ID. -/
def IsCloneID (target : String) (count : ℤ) (t : Topology) (id : String) : Prop :=
  ∃ node ∈ t.nodes, isTarget target node ∧ ∃ i < count.toNat, cloneID node.id i = id

instance (target : String) (count : ℤ) (t : Topology) (id : String) :
    Decidable (IsCloneID target count t id) :=
  inferInstanceAs (Decidable (∃ node ∈ t.nodes,
    isTarget target node ∧ ∃ i < count.toNat, cloneID node.id i = id))

/-- No node that stays has the ID of a clone, and a node that is replaced is at the end of no edge,
unless a clone has its ID. -/
structure ScaleFits (target : String) (count : ℤ) (t : Topology) : Prop where
  stays : ∀ node ∈ t.nodes, ¬ isTarget target node → ¬ IsCloneID target count t node.id
  replaced : ∀ node ∈ t.nodes, isTarget target node →
    (∃ edge ∈ t.edges, edge.sourceID = node.id ∨ edge.targetID = node.id) →
      IsCloneID target count t node.id

instance (target : String) (count : ℤ) (t : Topology) : Decidable (ScaleFits target count t) :=
  decidable_of_iff (_ ∧ _) ⟨fun h => ⟨h.1, h.2⟩, fun h => ⟨h.stays, h.replaced⟩⟩

/-- The ID of the new edge is new, and both ends are there. -/
structure NewEdgeFits (target : String) (t : Topology) : Prop where
  id : "sim-edge-" ++ target ∉ t.edges.map TopologyEdge.id
  source : target ∈ t.nodeIDs
  dest : destID target ∈ t.nodeIDs

instance (target : String) (t : Topology) : Decidable (NewEdgeFits target t) :=
  decidable_of_iff (_ ∧ _ ∧ _)
    ⟨fun h => ⟨h.1, h.2.1, h.2.2⟩, fun h => ⟨h.id, h.source, h.dest⟩⟩

/-- What nobody checks before a change. Only three actions can fail to fit. -/
structure Fits (step : Step) (t : Topology) : Prop where
  add : ∀ kind ∈ [hostKind, containerKind, serviceKind], step.change.type = kind.type →
    step.change.action = "add" → NewIDsFit kind step t
  scale : step.change.type = "host" → step.change.action = "scale" →
    ScaleFits step.change.target step.change.count t
  connect : step.change.type = "network" → step.change.action = "add" →
    NewEdgeFits step.change.target t

variable (scanFloat : String → Option Float64) {t : Topology}

/-! ## Changes of nodes -/

theorem valid_addNodes_iff (h : Valid t) (kind : NodeKind) (step : Step) :
    Valid (t.addNodes kind step) ↔ NewIDsFit kind step t := by
  have hids : ((Topology.newNodes kind step).map TopologyNode.id).Nodup := by
    rw [Topology.newNodes, List.map_map]
    exact List.nodup_range.map (newID_injective kind step.change.target)
  rw [Valid, Topology.addNodes, h.add_nodes hids, Topology.newNodes, List.forall_mem_map]
  simp only [List.mem_range]
  rfl

/-- Dropping nodes with their edges keeps a topology valid. -/
theorem valid_removeNodes (h : Valid t) (q : TopologyNode StringMap → Bool) (count : ℤ) :
    Valid (t.removeNodes q count) := by
  refine h.sublists (Lib.Slice.emitAll_sublist (fun removed node => ?_) 0 t.nodes)
    List.filter_sublist fun edge hedge => ?_
  · rw [dropCounted]
    split
    · exact List.nil_sublist _
    · exact List.Sublist.refl _
  · exact of_decide_eq_true (List.mem_filter.mp hedge).2

/-- The IDs of what a node is replaced by. -/
def scaledIDs (target : String) (count : ℤ) (node : TopologyNode StringMap) : List String :=
  if isTarget target node then (List.range count.toNat).map (cloneID node.id) else [node.id]

lemma nodeIDs_scaleNodes (target : String) (count : ℤ) (t : Topology) :
    (t.scaleNodes target count).nodeIDs = t.nodes.flatMap (scaledIDs target count) := by
  rw [Topology.nodeIDs, Topology.scaleNodes, Lib.Slice.emitAll_unit, List.map_flatMap]
  congr 1
  funext node
  rw [scaleNode, scaledIDs]
  split
  · rw [List.map_map]
    rfl
  · rfl

lemma mem_scaledIDs {target : String} {count : ℤ} {node : TopologyNode StringMap} {id : String} :
    id ∈ scaledIDs target count node ↔
      (isTarget target node ∧ ∃ i < count.toNat, cloneID node.id i = id) ∨
        (¬ isTarget target node ∧ node.id = id) := by
  rw [scaledIDs]
  split
  case isTrue htarget => simp [htarget]
  case isFalse htarget => simp [htarget, eq_comm]

/-- Clones of different nodes and nodes that stay get different IDs, unless a node that stays has
the ID of a clone. -/
lemma nodup_scaled_iff (h : Valid t) (target : String) (count : ℤ) :
    (t.nodes.flatMap (scaledIDs target count)).Nodup ↔
      ∀ node ∈ t.nodes, ¬ isTarget target node → ¬ IsCloneID target count t node.id := by
  have hid {node other : TopologyNode StringMap} (hnode : node ∈ t.nodes) (hother : other ∈ t.nodes)
      (hsame : node.id = other.id) : node = other :=
    List.inj_on_of_nodup_map h.nodup_nodes hnode hother hsame
  rw [List.nodup_flatMap]
  constructor
  · rintro ⟨-, hdisjoint⟩ node hnode hstays ⟨other, hother, htarget, hclone⟩
    have : Std.Symm (Function.onFun List.Disjoint (scaledIDs target count)) :=
      ⟨fun _ _ => List.Disjoint.symm⟩
    have hne : node ≠ other := by
      rintro rfl
      exact hstays htarget
    exact hdisjoint.forall hnode hother hne (mem_scaledIDs.mpr (.inr ⟨hstays, rfl⟩))
      (mem_scaledIDs.mpr (.inl ⟨htarget, hclone⟩))
  · intro hstays
    refine ⟨fun node _ => ?_, (List.Nodup.of_map _ h.nodup_nodes).pairwise_of_forall_ne ?_⟩
    · rw [scaledIDs]
      split
      · exact List.nodup_range.map fun _ _ hclone => (cloneID_inj.mp hclone).2
      · exact List.nodup_singleton _
    · rintro node hnode other hother hne id hfirst hsecond
      rcases mem_scaledIDs.mp hfirst with ⟨htarget, i, hi, rfl⟩ | ⟨hstay, rfl⟩
      · rcases mem_scaledIDs.mp hsecond with ⟨-, j, -, hclone⟩ | ⟨hstay, hclone⟩
        · exact hne (hid hnode hother (cloneID_inj.mp hclone).1.symm)
        · exact hstays other hother hstay ⟨node, hnode, htarget, i, hi, hclone.symm⟩
      · rcases mem_scaledIDs.mp hsecond with ⟨htarget, hclone⟩ | ⟨-, hsame⟩
        · exact hstays node hnode hstay ⟨other, hother, htarget, hclone⟩
        · exact hne (hid hnode hother hsame.symm)

lemma mem_scaled_iff (h : Valid t) (target : String) (count : ℤ) {node : TopologyNode StringMap}
    (hnode : node ∈ t.nodes) : node.id ∈ t.nodes.flatMap (scaledIDs target count) ↔
      (isTarget target node → IsCloneID target count t node.id) := by
  rw [List.mem_flatMap]
  constructor
  · rintro ⟨other, hother, hmem⟩ htarget
    rcases mem_scaledIDs.mp hmem with ⟨hother', hclone⟩ | ⟨hstay, hsame⟩
    · exact ⟨other, hother, hother', hclone⟩
    · obtain rfl := List.inj_on_of_nodup_map h.nodup_nodes hother hnode hsame
      exact absurd htarget hstay
  · intro hclone
    by_cases htarget : isTarget target node
    · obtain ⟨other, hother, hother', hid⟩ := hclone htarget
      exact ⟨other, hother, mem_scaledIDs.mpr (.inl ⟨hother', hid⟩)⟩
    · exact ⟨node, hnode, mem_scaledIDs.mpr (.inr ⟨htarget, rfl⟩)⟩

theorem valid_scaleNodes_iff (h : Valid t) (target : String) (count : ℤ) :
    Valid (t.scaleNodes target count) ↔ ScaleFits target count t := by
  have hids := nodeIDs_scaleNodes target count t
  rw [Topology.nodeIDs] at hids
  have hvalid : Valid (t.scaleNodes target count) ↔
      (t.nodes.flatMap (scaledIDs target count)).Nodup ∧
        ∀ edge ∈ t.edges, edge.sourceID ∈ t.nodes.flatMap (scaledIDs target count) ∧
          edge.targetID ∈ t.nodes.flatMap (scaledIDs target count) := by
    rw [← hids]
    exact h.replace_nodes (t.scaleNodes target count).nodes
  rw [hvalid, nodup_scaled_iff h]
  constructor
  · rintro ⟨hstays, hends⟩
    refine ⟨hstays, fun node hnode htarget => ?_⟩
    rintro ⟨edge, hedge, hsource | hdest⟩
    · have hmem := (hends edge hedge).1
      rw [hsource] at hmem
      exact (mem_scaled_iff h target count hnode).mp hmem htarget
    · have hmem := (hends edge hedge).2
      rw [hdest] at hmem
      exact (mem_scaled_iff h target count hnode).mp hmem htarget
  · rintro ⟨hstays, hreplaced⟩
    refine ⟨hstays, fun edge hedge => ⟨?_, ?_⟩⟩
    · obtain ⟨node, hnode, hsource⟩ := List.mem_map.mp (h.source_mem edge hedge)
      have hend : edge.sourceID = node.id := hsource.symm
      rw [hend]
      exact (mem_scaled_iff h target count hnode).mpr fun htarget =>
        hreplaced node hnode htarget ⟨edge, hedge, .inl hend⟩
    · obtain ⟨node, hnode, hdest⟩ := List.mem_map.mp (h.target_mem edge hedge)
      have hend : edge.targetID = node.id := hdest.symm
      rw [hend]
      exact (mem_scaled_iff h target count hnode).mpr fun htarget =>
        hreplaced node hnode htarget ⟨edge, hedge, .inr hend⟩

/-! ## Changes of edges -/

theorem valid_addEdge_iff (h : Valid t) (step : Step) :
    Valid (t.addEdge scanFloat step) ↔ NewEdgeFits step.change.target t := by
  rw [Valid, Topology.addEdge, h.add_edge]
  constructor
  · rintro ⟨hid, hsource, hdest⟩
    exact ⟨hid, hsource, hdest⟩
  · rintro ⟨hid, hsource, hdest⟩
    exact ⟨hid, hsource, hdest⟩

theorem valid_modifyEdges (h : Valid t) (change : InfraChange) :
    Valid (t.modifyEdges scanFloat change) := by
  refine h.map_edges (fun edge => ?_) (fun edge => ?_) (fun edge => ?_) <;>
    (rw [Topology.modifyEdge]; split <;> rfl)

theorem valid_removeEdges (h : Valid t) (target : String) : Valid (t.removeEdges target) :=
  h.sublists (List.Sublist.refl _) List.filter_sublist fun edge hedge =>
    have hmem := (List.mem_filter.mp hedge).1
    ⟨h.source_mem edge hmem, h.target_mem edge hmem⟩

/-! ## All changes -/

/-- An error, or a valid topology. -/
def ErrorOrValid : Except String Topology → Prop
  | .ok t => Valid t
  | .error _ => True

lemma errorOrValid_mapError (value : Except String Topology) (text : String) :
    ErrorOrValid (value.mapError (text ++ ·)) ↔ ErrorOrValid value := by
  cases value <;> rfl

lemma applyHostChange_iff (h : Valid t) (step : Step) : ErrorOrValid (t.applyHostChange step) ↔
    (step.change.action = "add" → NewIDsFit hostKind step t) ∧
      (step.change.action = "scale" → ScaleFits step.change.target step.change.count t) := by
  unfold Topology.applyHostChange
  dsimp only
  split_ifs with hadd hremove hscale
  · simp [ErrorOrValid, valid_addNodes_iff h, hadd]
  · simp [ErrorOrValid, valid_removeNodes h, hremove]
  · simp [ErrorOrValid, valid_scaleNodes_iff h, hscale]
  · simp [ErrorOrValid, hadd, hscale]

lemma applyTypedChange_iff (h : Valid t) (kind : NodeKind) (word : String) (step : Step) :
    ErrorOrValid (t.applyTypedChange kind word step) ↔
      (step.change.action = "add" → NewIDsFit kind step t) := by
  unfold Topology.applyTypedChange
  dsimp only
  split_ifs with hadd hremove
  · simp [ErrorOrValid, valid_addNodes_iff h, hadd]
  · simp [ErrorOrValid, valid_removeNodes h, hremove]
  · simp [ErrorOrValid, hadd]

lemma applyNetworkChange_iff (h : Valid t) (step : Step) :
    ErrorOrValid (t.applyNetworkChange scanFloat step) ↔
      (step.change.action = "add" → NewEdgeFits step.change.target t) := by
  unfold Topology.applyNetworkChange
  dsimp only
  split_ifs with hadd hmodify hremove
  · simp [ErrorOrValid, valid_addEdge_iff scanFloat h, hadd]
  · simp [ErrorOrValid, valid_modifyEdges scanFloat h, hmodify]
  · simp [ErrorOrValid, valid_removeEdges h, hremove]
  · simp [ErrorOrValid, hadd]

lemma fits_iff {step : Step} : Fits step t ↔
    (step.change.type = "host" → (step.change.action = "add" → NewIDsFit hostKind step t) ∧
      (step.change.action = "scale" → ScaleFits step.change.target step.change.count t)) ∧
    (step.change.type = "container" → step.change.action = "add" →
      NewIDsFit containerKind step t) ∧
    (step.change.type = "service" → step.change.action = "add" → NewIDsFit serviceKind step t) ∧
    (step.change.type = "network" → step.change.action = "add" →
      NewEdgeFits step.change.target t) := by
  constructor
  · rintro ⟨hadd, hscale, hconnect⟩
    exact ⟨fun htype => ⟨hadd hostKind (by simp) htype, hscale htype⟩,
      hadd containerKind (by simp), hadd serviceKind (by simp), hconnect⟩
  · rintro ⟨hhost, hcontainer, hservice, hnetwork⟩
    refine ⟨?_, fun htype => (hhost htype).2, hnetwork⟩
    rintro kind hkind
    simp only [List.mem_cons, List.not_mem_nil, or_false] at hkind
    rcases hkind with rfl | rfl | rfl
    · exact fun htype => (hhost htype).1
    · exact hcontainer
    · exact hservice

instance (step : Step) (t : Topology) : Decidable (Fits step t) := decidable_of_iff _ fits_iff.symm

/-- A change keeps a valid topology valid, or fails, if and only if it fits. -/
theorem applyChange_iff (h : Valid t) (step : Step) :
    ErrorOrValid (t.applyChange scanFloat step) ↔ Fits step t := by
  rw [fits_iff]
  unfold Topology.applyChange
  split_ifs with hhost hcontainer hservice hnetwork
  · rw [errorOrValid_mapError, applyHostChange_iff h]
    simp [hhost]
  · rw [errorOrValid_mapError, applyTypedChange_iff h]
    simp [hcontainer]
  · rw [errorOrValid_mapError, applyTypedChange_iff h]
    simp [hservice]
  · rw [errorOrValid_mapError, applyNetworkChange_iff scanFloat h]
    simp [hnetwork]
  · simp [ErrorOrValid, hhost, hcontainer, hservice, hnetwork]

/-- The next change, unless there was an error. -/
def next (value : Except String Topology) (step : Step) : Except String Topology :=
  value.bind fun t => t.applyChange scanFloat step

/-- The change fits the topology it meets; after an error it meets none. -/
def FitsNext : Except String Topology → Step → Prop
  | .ok t, step => Fits step t
  | .error _, _ => True

instance : ∀ (value : Except String Topology) (step : Step), Decidable (FitsNext value step)
  | .ok t, step => inferInstanceAs (Decidable (Fits step t))
  | .error _, _ => isTrue trivial

lemma foldl_next (steps : List Step) (value : Except String Topology) :
    steps.foldl (next scanFloat) value = value.bind fun t => t.applyChanges scanFloat steps := by
  induction steps generalizing value with
  | nil => cases value <;> rfl
  | cons step steps ih =>
    rw [List.foldl_cons, ih]
    cases value <;> rfl

/-- The topologies are valid up to the first error, if there is one, if and only if every change
fits. -/
theorem always_valid_iff (h : Valid t) (steps : List Step) :
    (∀ pre, pre <+: steps → ErrorOrValid (t.applyChanges scanFloat pre)) ↔
      Lib.Allowed (next scanFloat) FitsNext (.ok t) steps := by
  have hstep (value : Except String Topology) (step : Step) (hvalue : ErrorOrValid value) :
      ErrorOrValid (next scanFloat value step) ↔ FitsNext value step := by
    cases value with
    | ok t => exact applyChange_iff scanFloat hvalue step
    | error err => exact Iff.rfl
  have hvalid : ErrorOrValid (.ok t) := h
  rw [← Lib.always_iff_allowed (I := fun _ => True) (fun _ _ _ => trivial)
    (fun value step _ => hstep value step) trivial hvalid, Lib.always_iff_forall_prefix]
  simp only [foldl_next]
  rfl

/-! ## In memory -/

/-- Nothing that was in memory is changed, so the topology that was given is what it was, and there
is an error or a pointer to a valid topology. -/
structure Preserves (m : Memory) (src : ℕ) (t : Topology) (result : Except String ℕ × Memory) :
    Prop where
  unchanged : m.Extends result.2
  input : result.2.load src = some t
  valid : ∀ p, result.1 = .ok p → ∃ t', result.2.load p = some t' ∧ Valid t'

variable (spare : ℕ → ℕ) {m : Memory} {src : ℕ}

/-- `applyChanges` changes nothing that was in memory. -/
theorem applyChanges_extends (hload : m.load src = some t) (steps : List Step) :
    m.Extends (applyChanges spare scanFloat (some src) steps m).2 := by
  have hrefines := applyChanges_refines spare scanFloat hload steps
  cases hvalue : t.applyChanges scanFloat steps with
  | ok t' =>
    rw [hvalue] at hrefines
    obtain ⟨p, -, hholds⟩ := hrefines
    exact hholds.extends
  | error err =>
    rw [hvalue] at hrefines
    exact hrefines.2

lemma preserves_iff_errorOrValid (hload : m.load src = some t) (steps : List Step) :
    Preserves m src t (applyChanges spare scanFloat (some src) steps m) ↔
      ErrorOrValid (t.applyChanges scanFloat steps) := by
  have hrefines := applyChanges_refines spare scanFloat hload steps
  have hextends := applyChanges_extends scanFloat spare hload steps
  have hinput := hextends.load hload
  cases hvalue : t.applyChanges scanFloat steps with
  | ok t' =>
    rw [hvalue] at hrefines
    obtain ⟨p, hresult, hholds⟩ := hrefines
    constructor
    · intro hpreserves
      obtain ⟨t'', ht'', hvalid⟩ := hpreserves.valid p hresult
      obtain rfl := Option.some.inj (hholds.load.symm.trans ht'')
      exact hvalid
    · refine fun hvalid => ⟨hextends, hinput, fun q hq => ⟨t', ?_, hvalid⟩⟩
      obtain rfl := Except.ok.inj (hresult.symm.trans hq)
      exact hholds.load
  | error err =>
    rw [hvalue] at hrefines
    refine ⟨fun _ => trivial, fun _ => ⟨hextends, hinput, fun p hp => ?_⟩⟩
    rw [hrefines.1] at hp
    exact nomatch hp

/-- From a valid topology, `applyChanges` returns an error or a valid topology and leaves the one it
was given unchanged, for a list of changes and for all its beginnings, if and only if every change
fits the topology it meets. -/
theorem changes_preserve_iff (hload : m.load src = some t) (hvalid : Valid t) (steps : List Step) :
    (∀ pre, pre <+: steps →
      Preserves m src t (applyChanges spare scanFloat (some src) pre m)) ↔
        Lib.Allowed (next scanFloat) FitsNext (.ok t) steps := by
  rw [← always_valid_iff scanFloat hvalid]
  simp only [preserves_iff_errorOrValid scanFloat spare hload]

/-- A host without labels. -/
def plainHost {μ : Type} (id : String) : TopologyNode μ where
  id
  name := id
  type := "host"
  labels := none
  metadata := none
  health := "healthy"
  lastSeen := 0

/-- A call without labels. -/
def plainCall {μ : Type} (source dest : String) : TopologyEdge μ where
  id := source ++ "-" ++ dest
  sourceID := source
  targetID := dest
  type := "http"
  protocol := "http"
  labels := none
  latencyP50 := addedLatency
  lastSeen := 0

/-- A host `web` that calls a host `db`. -/
def webAndDb : Topology :=
  ⟨[plainHost "web", plainHost "db"], [plainCall "web" "db"], 0, 1⟩

/-- The two hosts in memory. -/
def webAndDbMemory : Memory :=
  ⟨[[plainHost "web", plainHost "db"]], [[plainCall "web" "db"]], [],
    [⟨some ⟨0, 0, 2, 2⟩, some ⟨0, 0, 1, 1⟩, 0, 1⟩]⟩

lemma valid_webAndDb : Valid webAndDb :=
  ⟨by decide, by decide, by decide, by decide⟩

/-- A change of `web`. -/
def webChange (action : String) (count : ℤ) : Step :=
  ⟨⟨"host", "web", action, count, Lib.Table.empty⟩, fun _ => 0⟩

/-- Adding hosts and then removing one fits. -/
theorem changes_preserve_add_remove : Preserves webAndDbMemory 0 webAndDb
    (applyChanges (fun n => n) (fun _ => none) (some 0) [webChange "add" 2, webChange "remove" 1]
      webAndDbMemory) :=
  (changes_preserve_iff (fun _ => none) (fun n => n) rfl valid_webAndDb
    [webChange "add" 2, webChange "remove" 1]).mpr ⟨by decide, by decide, trivial⟩ _ List.prefix_rfl

/-- The clones of `web` do not get its edges, which keep an end that is gone. -/
theorem scale_dangles : webAndDbMemory.load 0 = some webAndDb ∧ Valid webAndDb ∧
    ¬ Preserves webAndDbMemory 0 webAndDb (applyChanges (fun n => n) (fun _ => none) (some 0)
      [webChange "scale" 2] webAndDbMemory) := by
  refine ⟨rfl, valid_webAndDb, ?_⟩
  rw [preserves_iff_errorOrValid _ _ rfl]
  intro hvalid
  have hends : ¬ ∀ edge ∈ webAndDb.edges,
      edge.sourceID ∈ (webAndDb.scaleNodes "web" 2).nodeIDs := by decide
  exact hends (Lib.GraphKeys.WellFormed.source_mem hvalid)

end Paryty.Simulation.WhatIf

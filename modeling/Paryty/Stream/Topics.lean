import Mathlib.Data.List.Infix
import Paryty.Lib.Bytes

/-!
# Topics of a twin

The names of the topics that belong to a twin, how they are recognized, and their deletion.

* `TwinKey` is a twin and the tenant it belongs to. Neither the handlers nor the producer accept
  a tenant without a name.
* `Separate` is what the names of two twins should satisfy: they differ, each says which twin it
  belongs to, and the deletion of one twin spares the topics of the other.
* A name has the first twelve bytes of the twin's id only, and its parts are separated by dots.
  `separate_iff` says for which twins this is enough.
-/

namespace Paryty.Stream

open Lib (Bytes utf8)

/-! ## Names -/

/-- The part of a twin's id that a topic name has. -/
def twinPrefix (twinID : Bytes) : Bytes :=
  if twinID.length > 12 then twinID.take 12 else twinID

/-- The name of a topic of a twin: `paryty.<tenant>.twins.<twin_id_prefix>.<suffix>`. -/
def topicForTwin (tenant twinID suffix : Bytes) : Bytes :=
  utf8 "paryty." ++ tenant ++ utf8 ".twins." ++ twinPrefix twinID ++ utf8 "." ++ suffix

def topicTwinMetricsRaw (tenant twinID : Bytes) : Bytes :=
  topicForTwin tenant twinID (utf8 "metrics.raw")

def topicTwinMetricsAgg (tenant twinID : Bytes) : Bytes :=
  topicForTwin tenant twinID (utf8 "metrics.aggregated")

def topicTwinTraces (tenant twinID : Bytes) : Bytes :=
  topicForTwin tenant twinID (utf8 "traces")

def topicTwinEvents (tenant twinID : Bytes) : Bytes :=
  topicForTwin tenant twinID (utf8 "events")

def topicTwinNetworkEvents (tenant twinID : Bytes) : Bytes :=
  topicForTwin tenant twinID (utf8 "network.events")

/-- The topic of the agents of a tenant that have no twin. -/
def topicOrphan (tenant : Bytes) : Bytes := utf8 "paryty." ++ tenant ++ utf8 ".unassigned.orphan"

/-- What a topic is created with. -/
structure TopicConfig where
  name : Bytes
  partitions : Int
  replication : Int
deriving DecidableEq

/-- The topics of a twin. -/
def twinRequiredTopics (tenant twinID : Bytes) : List TopicConfig :=
  [ ⟨topicTwinMetricsRaw tenant twinID, 6, 1⟩,
    ⟨topicTwinMetricsAgg tenant twinID, 3, 1⟩,
    ⟨topicTwinTraces tenant twinID, 6, 1⟩,
    ⟨topicTwinEvents tenant twinID, 3, 1⟩,
    ⟨topicTwinNetworkEvents tenant twinID, 3, 1⟩ ]

/-! ## Reading names -/

/-- The byte between the parts of a name. -/
def dot : UInt8 := 46

/-- Whether the name is that of a topic of a twin. -/
def isTwinTopic (topic : Bytes) : Bool :=
  let parts := topic.splitOn dot
  4 ≤ parts.length && parts[2]? = some (utf8 "twins")

/-- The part of the twin's id in the name of a topic, empty if it is not the topic of a twin. -/
def extractTwinPrefix (topic : Bytes) : Bytes :=
  let parts := topic.splitOn dot
  if 4 ≤ parts.length && parts[2]? = some (utf8 "twins") then parts[3]?.getD [] else []

/-! ## Deletion -/

/-- The broker deletes the topics with these names, except those it refuses to delete. -/
def deleteTopics (refuses : Bytes → Bool) (names : List Bytes) (topics : List Bytes) :
    List Bytes :=
  topics.filter (fun topic => !names.contains topic || refuses topic)

/-- Delete the topics of a twin: the answer, and the topics that are left. `failure` is the error
of the request, if it fails. -/
def deleteTwinTopics (tenant twinID : Bytes) (refuses : Bytes → Bool) (failure : Option String)
    (topics : List Bytes) : Except String Unit × List Bytes :=
  let topicNames := (twinRequiredTopics tenant twinID).map TopicConfig.name
  let left := deleteTopics refuses topicNames topics
  match failure with
  | none => (.ok (), left)
  | some err =>
    if "UNKNOWN_TOPIC".toList <:+: err.toList then (.ok (), left)
    else (.error ("delete twin topics: " ++ err), left)

/-! ## Twins -/

/-- A twin and its tenant. A tenant has a name: `PublishTenant` rejects the empty one, and the
handlers that create and delete the topics reject a request without a tenant. -/
@[ext] structure TwinKey where
  tenant : Bytes
  twinID : Bytes
  tenant_ne_nil : tenant ≠ []
deriving DecidableEq

namespace TwinKey

/-- The names of the twin's topics. -/
def topicNames (a : TwinKey) : List Bytes :=
  (twinRequiredTopics a.tenant a.twinID).map TopicConfig.name

/-- The names of the twin's topics are recognized, and the part of the twin's id is found. -/
def Parses (a : TwinKey) : Prop :=
  ∀ suffix, isTwinTopic (topicForTwin a.tenant a.twinID suffix) = true ∧
    extractTwinPrefix (topicForTwin a.tenant a.twinID suffix) = twinPrefix a.twinID

/-- The names of two twins keep them apart. -/
structure Separate (a b : TwinKey) : Prop where
  injective : a ≠ b → ∀ suffix,
    topicForTwin a.tenant a.twinID suffix ≠ topicForTwin b.tenant b.twinID suffix
  parses : a.Parses ∧ b.Parses
  spares : a ≠ b → ∀ refuses failure topics, ∀ topic ∈ topics, topic ∈ b.topicNames →
    topic ∈ (deleteTwinTopics a.tenant a.twinID refuses failure topics).2

/-- The first twelve bytes of the twin's id have no dot, and the tenant has none, unless what
follows its first dot starts as `twins.<twin_id_prefix>` itself. -/
def Plain (a : TwinKey) : Prop :=
  dot ∉ a.twinID.take 12 ∧
    ((a.tenant.splitOn dot).drop 1 ++ [utf8 "twins", a.twinID.take 12]).take 2 =
      [utf8 "twins", a.twinID.take 12]

end TwinKey

/-! ## The parts of a name -/

lemma twinPrefix_eq (twinID : Bytes) : twinPrefix twinID = twinID.take 12 := by
  unfold twinPrefix
  split
  case isTrue => rfl
  case isFalse h => exact (List.take_of_length_le (by omega)).symm

lemma splitOn_topicForTwin (tenant twinID suffix : Bytes) :
    (topicForTwin tenant twinID suffix).splitOn dot =
      utf8 "paryty" :: (tenant.splitOn dot ++
        utf8 "twins" :: ((twinID.take 12).splitOn dot ++ suffix.splitOn dot)) := by
  have hname : topicForTwin tenant twinID suffix = utf8 "paryty" ++ dot ::
      (tenant ++ dot :: (utf8 "twins" ++ dot :: (twinID.take 12 ++ dot :: suffix))) := by
    have hparyty : utf8 "paryty." = utf8 "paryty" ++ [dot] := rfl
    have htwins : utf8 ".twins." = dot :: utf8 "twins" ++ [dot] := rfl
    have hdot : utf8 "." = [dot] := rfl
    rw [topicForTwin, twinPrefix_eq, hparyty, htwins, hdot]
    simp
  have hparyty : (utf8 "paryty").splitOn dot = [utf8 "paryty"] := rfl
  have htwins : (utf8 "twins").splitOn dot = [utf8 "twins"] := rfl
  rw [hname, List.splitOn_append_cons_self, List.splitOn_append_cons_self,
    List.splitOn_append_cons_self, List.splitOn_append_cons_self, hparyty, htwins]
  simp

namespace TwinKey

variable {a b : TwinKey}

lemma parses_iff : a.Parses ↔ a.Plain := by
  obtain ⟨first, rest, htenant⟩ := List.exists_cons_of_ne_nil (List.splitOn_ne_nil dot a.tenant)
  obtain ⟨piece, pieces, hpart⟩ :=
    List.exists_cons_of_ne_nil (List.splitOn_ne_nil dot (a.twinID.take 12))
  have hparts (suffix : Bytes) : (topicForTwin a.tenant a.twinID suffix).splitOn dot =
      utf8 "paryty" :: first :: (rest ++
        utf8 "twins" :: piece :: (pieces ++ suffix.splitOn dot)) := by
    rw [splitOn_topicForTwin, htenant, hpart]
    simp
  -- The third and the fourth part of a name do not depend on the suffix.
  have hread (suffix : Bytes) : (isTwinTopic (topicForTwin a.tenant a.twinID suffix) = true ∧
      extractTwinPrefix (topicForTwin a.tenant a.twinID suffix) = twinPrefix a.twinID) ↔
        (rest ++ [utf8 "twins", piece]).take 2 = [utf8 "twins", a.twinID.take 12] := by
    unfold isTwinTopic extractTwinPrefix
    rw [hparts, twinPrefix_eq]
    cases rest with
    | nil => simp
    | cons part rest =>
      cases rest with
      | nil => simp +contextual
      | cons part' rest => simp +contextual
  have hparses : a.Parses ↔
      (rest ++ [utf8 "twins", piece]).take 2 = [utf8 "twins", a.twinID.take 12] :=
    ⟨fun h => (hread []).mp (h []), fun h suffix => (hread suffix).mpr h⟩
  have hplain : ∀ part ∈ rest ++ [utf8 "twins", piece], dot ∉ part := by
    intro part hpart
    rw [List.mem_append, List.mem_cons, List.mem_singleton] at hpart
    rcases hpart with hpart | rfl | rfl
    · exact Lib.not_mem_of_mem_splitOn (htenant ▸ List.mem_cons_of_mem _ hpart)
    · decide
    · exact Lib.not_mem_of_mem_splitOn (hpart ▸ List.mem_cons_self)
  have hsame (hdot : dot ∉ a.twinID.take 12) : piece = a.twinID.take 12 := by
    rw [List.splitOn_eq_singleton hdot] at hpart
    exact (List.cons.inj hpart).1.symm
  rw [hparses, Plain, htenant, List.drop_one, List.tail_cons]
  constructor
  · intro h
    have hmem : a.twinID.take 12 ∈ (rest ++ [utf8 "twins", piece]).take 2 := by
      rw [h]
      exact List.mem_cons_of_mem _ List.mem_cons_self
    have hdot := hplain _ (List.mem_of_mem_take hmem)
    refine ⟨hdot, ?_⟩
    rwa [hsame hdot] at h
  · intro h
    obtain ⟨hdot, h⟩ := h
    rwa [hsame hdot]

/-! ## Different twins -/

lemma eq_of_topic_eq (ha : a.Plain) (hb : b.Plain) {suffix : Bytes}
    (h : topicForTwin a.tenant a.twinID suffix = topicForTwin b.tenant b.twinID suffix) :
    a.tenant = b.tenant ∧ a.twinID.take 12 = b.twinID.take 12 := by
  have hpart : a.twinID.take 12 = b.twinID.take 12 := by
    rw [← twinPrefix_eq, ← twinPrefix_eq, ← (parses_iff.mpr ha suffix).2,
      ← (parses_iff.mpr hb suffix).2, h]
  refine ⟨?_, hpart⟩
  rw [topicForTwin, topicForTwin, twinPrefix_eq, twinPrefix_eq, hpart] at h
  simpa only [List.append_assoc, List.append_cancel_left_eq, List.append_cancel_right_eq] using h

/-- What the topics of a twin are for. -/
def suffixes : List Bytes :=
  [utf8 "metrics.raw", utf8 "metrics.aggregated", utf8 "traces", utf8 "events",
    utf8 "network.events"]

lemma mem_topicNames {topic : Bytes} :
    topic ∈ a.topicNames ↔ ∃ suffix ∈ suffixes, topicForTwin a.tenant a.twinID suffix = topic := by
  simp [topicNames, twinRequiredTopics, suffixes, topicTwinMetricsRaw, topicTwinMetricsAgg,
    topicTwinTraces, topicTwinEvents, topicTwinNetworkEvents, eq_comm]

lemma not_networkEvents {part : Bytes} {before before' : List Bytes} :
    before ++ utf8 "twins" :: part :: (utf8 "events").splitOn dot ≠
      before' ++ utf8 "twins" :: part :: (utf8 "network.events").splitOn dot := by
  intro h
  have hsplit : before ++ [utf8 "twins", part, utf8 "events"] =
      (before' ++ [utf8 "twins"]) ++ [part, utf8 "network", utf8 "events"] := by
    rw [List.append_assoc]
    exact h
  have hparts := List.append_inj_right' hsplit rfl
  obtain ⟨hpart, hnetwork, -⟩ : utf8 "twins" = part ∧ part = utf8 "network" ∧ True := by
    simpa using hparts
  exact absurd (hpart.trans hnetwork) (by decide)

lemma suffix_unique {part : Bytes} {before before' : List Bytes} {suffix suffix' : Bytes}
    (hs : suffix ∈ suffixes) (hs' : suffix' ∈ suffixes)
    (h : before ++ utf8 "twins" :: part :: suffix.splitOn dot =
      before' ++ utf8 "twins" :: part :: suffix'.splitOn dot) : suffix = suffix' := by
  have hlast : (suffix.splitOn dot).getLast? = (suffix'.splitOn dot).getLast? := by
    have hget (before : List Bytes) (s : Bytes) :
        (before ++ utf8 "twins" :: part :: s.splitOn dot).getLast? = (s.splitOn dot).getLast? := by
      rw [← List.getLast?_append_of_ne_nil (before ++ [utf8 "twins", part])
        (List.splitOn_ne_nil dot s)]
      simp
    rw [← hget before, h, hget]
  have hcases : ∀ s ∈ suffixes, ∀ s' ∈ suffixes,
      (s.splitOn dot).getLast? = (s'.splitOn dot).getLast? → s = s' ∨
        (s = utf8 "events" ∧ s' = utf8 "network.events") ∨
        (s = utf8 "network.events" ∧ s' = utf8 "events") := by decide +kernel
  rcases hcases suffix hs suffix' hs' hlast with heq | ⟨rfl, rfl⟩ | ⟨rfl, rfl⟩
  · exact heq
  · exact absurd h not_networkEvents
  · exact absurd h.symm not_networkEvents

lemma eq_of_mem_topicNames (ha : a.Plain) (hb : b.Plain) {topic : Bytes}
    (hta : topic ∈ a.topicNames) (htb : topic ∈ b.topicNames) :
    a.tenant = b.tenant ∧ a.twinID.take 12 = b.twinID.take 12 := by
  obtain ⟨suffix, hs, rfl⟩ := mem_topicNames.mp hta
  obtain ⟨suffix', hs', h⟩ := mem_topicNames.mp htb
  have hpart : a.twinID.take 12 = b.twinID.take 12 := by
    rw [← twinPrefix_eq, ← twinPrefix_eq, ← (parses_iff.mpr ha suffix).2,
      ← (parses_iff.mpr hb suffix').2, h]
  have hparts := congrArg (List.splitOn dot) h
  rw [splitOn_topicForTwin, splitOn_topicForTwin, hpart, List.splitOn_eq_singleton hb.1,
    List.cons_inj_right] at hparts
  obtain rfl := suffix_unique hs' hs hparts
  exact eq_of_topic_eq ha hb h.symm

/-! ## Deletion -/

lemma mem_deleteTopics {refuses : Bytes → Bool} {names topics : List Bytes} {topic : Bytes} :
    topic ∈ deleteTopics refuses names topics ↔
      topic ∈ topics ∧ (topic ∉ names ∨ refuses topic = true) := by
  simp [deleteTopics]

lemma deleteTwinTopics_snd (refuses : Bytes → Bool) (failure : Option String)
    (topics : List Bytes) : (deleteTwinTopics a.tenant a.twinID refuses failure topics).2 =
      deleteTopics refuses a.topicNames topics := by
  cases failure with
  | none => rfl
  | some err =>
    unfold deleteTwinTopics
    dsimp only
    split <;> rfl

/-- The names of two twins keep them apart exactly if both can be read and the twins do not share
the tenant and the first twelve bytes of the id. -/
theorem separate_iff (a b : TwinKey) :
    a.Separate b ↔ a.Plain ∧ b.Plain ∧
      (a.tenant = b.tenant → a.twinID.take 12 = b.twinID.take 12 → a.twinID = b.twinID) := by
  constructor
  · intro h
    refine ⟨parses_iff.mp h.parses.1, parses_iff.mp h.parses.2, fun htenant hpart => ?_⟩
    by_contra htwin
    have hne : a ≠ b := fun heq => htwin (congrArg TwinKey.twinID heq)
    refine h.injective hne [] ?_
    rw [topicForTwin, topicForTwin, twinPrefix_eq, twinPrefix_eq, htenant, hpart]
  · intro h
    obtain ⟨ha, hb, hdistinct⟩ := h
    have hsame (h : a.tenant = b.tenant ∧ a.twinID.take 12 = b.twinID.take 12) : a = b :=
      TwinKey.ext h.1 (hdistinct h.1 h.2)
    refine ⟨fun hne suffix heq => ?_, ⟨parses_iff.mpr ha, parses_iff.mpr hb⟩,
      fun hne refuses failure topics topic hmem hname => ?_⟩
    · exact hne (hsame (eq_of_topic_eq ha hb heq))
    · rw [deleteTwinTopics_snd, mem_deleteTopics]
      refine ⟨hmem, .inl fun hdeleted => ?_⟩
      exact hne (hsame (eq_of_mem_topicNames ha hb hdeleted hname))

/-- Two twins of a tenant whose ids start with the same twelve bytes. -/
theorem not_separate_same_prefix :
    ¬ ∀ a b : TwinKey, a.Separate b := by
  intro h
  let a : TwinKey := ⟨utf8 "acme", utf8 "0a1b2c3d-4e5f-4a6b-8c7d-9e0f1a2b3c4d", by decide⟩
  let b : TwinKey := ⟨utf8 "acme", utf8 "0a1b2c3d-4e50-4d1c-9b2a-7f6e5d4c3b2a", by decide⟩
  have hne : a ≠ b := by decide
  exact (h a b).injective hne (utf8 "events") (by decide)

end TwinKey

end Paryty.Stream

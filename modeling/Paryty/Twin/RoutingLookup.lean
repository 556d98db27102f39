import Paryty.Stream.Topics
import Paryty.Twin.RoutingCache

/-!
# The two lookups of the routing cache

`ResolveTopic` and `ResolveTwinID` of `cluster/internal/twin/routing_cache.go` as functions of the
hash, the database, and which of their commands fail.

* `topicOf` is the topic of a twin, the orphan topic if there is none. `Agree` says that one lookup
  gives the topic of what the other one gives.
* `agree_iff`: they agree unless the hash has the empty entry of an agent that the database knows
  to be assigned. `ResolveTwinID` takes that entry as its answer, `ResolveTopic` does not.
-/

namespace Paryty.Twin.Routing

open Lib (Bytes ExpiringHash utf8)
open Paryty.Stream (topicTwinMetricsRaw topicOrphan)

/-- A row of `agent_assignments`. The column `twin_id` is a `UUID`, whose text is never empty. -/
structure Assignment where
  twinID : TwinID
  twinID_ne : twinID ≠ ""
deriving DecidableEq

/-- What a lookup reads. -/
structure Sources where
  now : ℕ
  /-- The hashes, by key. -/
  rdb : String → ExpiringHash AgentID TwinID := fun _ => {}
  assignment : AgentID → Option Assignment := fun _ => none

/-- Which commands of a lookup succeed. -/
structure Outcomes where
  hGet : Bool := true
  query : Bool := true
  hSet : Bool := true
  expire : Bool := true
deriving DecidableEq

/-- `routingKeyPrefix`. -/
def routingKeyPrefix : String := "paryty:routing"

def routingKey (tenant : String) : String := routingKeyPrefix ++ ":" ++ tenant

namespace Sources

variable (src : Sources) (o : Outcomes)

/-- HGET. A missing field is an error. -/
def hGet (key : String) (agentID : AgentID) : Except String TwinID :=
  if o.hGet then
    match (src.rdb key).get src.now agentID with
    | some twinID => .ok twinID
    | none => .error "redis: nil"
  else .error "connection"

/-- HSET and EXPIRE, whose errors are ignored. -/
def cache (key : String) (agentID : AgentID) (twinID : TwinID) : Sources :=
  let stored := if o.hSet then (src.rdb key).set src.now agentID twinID else src.rdb key
  let dated := if o.expire then stored.expire src.now routingCacheTTL else stored
  { src with rdb := Function.update src.rdb key dated }

/-- `GetAgentAssignment`: any error counts as unassigned. -/
def getAgentAssignment (agentID : AgentID) : Except String (Option Assignment) :=
  if o.query then .ok (src.assignment agentID) else .ok none

/-- `ResolveTopic` from the PostgreSQL fallback on. -/
def topicFallback (tenant : String) (agentID : AgentID) : Bytes × Sources :=
  match src.getAgentAssignment o agentID with
  | .error _ => (topicOrphan (utf8 tenant), src)
  | .ok none => (topicOrphan (utf8 tenant), src.cache o (routingKey tenant) agentID "")
  | .ok (some assignment) =>
    (topicTwinMetricsRaw (utf8 tenant) (utf8 assignment.twinID),
      src.cache o (routingKey tenant) agentID assignment.twinID)

/-- The topic for an agent's data, and what the lookup leaves. -/
def resolveTopic (tenant : String) (agentID : AgentID) : Bytes × Sources :=
  match src.hGet o (routingKey tenant) agentID with
  | .ok twinID =>
    if twinID ≠ "" then (topicTwinMetricsRaw (utf8 tenant) (utf8 twinID), src)
    else src.topicFallback o tenant agentID
  | .error _ => src.topicFallback o tenant agentID

/-- `ResolveTwinID` from the PostgreSQL fallback on. -/
def twinIDFallback (tenant : String) (agentID : AgentID) : TwinID × Sources :=
  match src.getAgentAssignment o agentID with
  | .error _ => ("", src)
  | .ok none => ("", src.cache o (routingKey tenant) agentID "")
  | .ok (some assignment) =>
    (assignment.twinID, src.cache o (routingKey tenant) agentID assignment.twinID)

/-- The twin of an agent, empty if it has none, and what the lookup leaves. -/
def resolveTwinID (tenant : String) (agentID : AgentID) : TwinID × Sources :=
  match src.hGet o (routingKey tenant) agentID with
  | .ok twinID => (twinID, src)
  | .error _ => src.twinIDFallback o tenant agentID

end Sources

/-- The topic of a twin; that of the orphans if there is none. -/
def topicOf (tenant : String) (twinID : TwinID) : Bytes :=
  if twinID = "" then topicOrphan (utf8 tenant)
  else topicTwinMetricsRaw (utf8 tenant) (utf8 twinID)

/-- The two lookups, called in the same state and with the same commands failing, agree. -/
def Agree (src : Sources) (o : Outcomes) (tenant : String) (agentID : AgentID) : Prop :=
  (src.resolveTopic o tenant agentID).1 = topicOf tenant (src.resolveTwinID o tenant agentID).1

/-! ## When they agree -/

section Agreement

variable {src : Sources} {o : Outcomes} {tenant : String} {agentID : AgentID}

lemma topicTwinMetricsRaw_ne_topicOrphan (tenant twinID : Bytes) :
    topicTwinMetricsRaw tenant twinID ≠ topicOrphan tenant := by
  have htwins : utf8 ".twins." = 46 :: 116 :: utf8 "wins." := rfl
  have hunassigned : utf8 ".unassigned.orphan" = 46 :: 117 :: utf8 "nassigned.orphan" := rfl
  rw [topicTwinMetricsRaw, Paryty.Stream.topicForTwin, topicOrphan, htwins, hunassigned]
  simp only [List.append_assoc]
  intro h
  have hrest := List.append_cancel_left (List.append_cancel_left h)
  simp at hrest

lemma hGet_eq_ok_iff {key : String} {twinID : TwinID} : src.hGet o key agentID = .ok twinID ↔
    o.hGet = true ∧ (src.rdb key).get src.now agentID = some twinID := by
  unfold Sources.hGet
  cases o.hGet with
  | false => simp
  | true =>
    cases (src.rdb key).get src.now agentID with
    | none => simp
    | some twinID' => simp

lemma topicOf_assignment (assignment : Assignment) : topicOf tenant assignment.twinID =
    topicTwinMetricsRaw (utf8 tenant) (utf8 assignment.twinID) := if_neg assignment.twinID_ne

/-- The twin that a lookup gets from the database, empty if there is none. -/
def Sources.databaseTwin (src : Sources) (o : Outcomes) (agentID : AgentID) : TwinID :=
  match src.getAgentAssignment o agentID with
  | .ok (some assignment) => assignment.twinID
  | _ => ""

lemma databaseTwin_ne_iff : src.databaseTwin o agentID ≠ "" ↔
    o.query = true ∧ src.assignment agentID ≠ none := by
  unfold Sources.databaseTwin Sources.getAgentAssignment
  cases o.query with
  | false => simp
  | true =>
    cases src.assignment agentID with
    | none => simp
    | some assignment => simpa using assignment.twinID_ne

lemma fst_topicFallback : (src.topicFallback o tenant agentID).1 =
    topicOf tenant (src.databaseTwin o agentID) := by
  unfold Sources.topicFallback Sources.databaseTwin
  cases src.getAgentAssignment o agentID with
  | error err => rfl
  | ok assignment =>
    cases assignment with
    | none => rfl
    | some assignment => exact (topicOf_assignment assignment).symm

lemma fst_twinIDFallback : (src.twinIDFallback o tenant agentID).1 = src.databaseTwin o agentID := by
  unfold Sources.twinIDFallback Sources.databaseTwin
  cases src.getAgentAssignment o agentID with
  | error err => rfl
  | ok assignment =>
    cases assignment with
    | none => rfl
    | some assignment => rfl

/-- `ResolveTopic` asks the database about an empty entry. -/
lemma fst_resolveTopic (src : Sources) (o : Outcomes) (tenant : String) (agentID : AgentID) :
    (src.resolveTopic o tenant agentID).1 =
      topicOf tenant (match src.hGet o (routingKey tenant) agentID with
        | .ok twinID => if twinID ≠ "" then twinID else src.databaseTwin o agentID
        | .error _ => src.databaseTwin o agentID) := by
  unfold Sources.resolveTopic
  cases src.hGet o (routingKey tenant) agentID with
  | error err => exact fst_topicFallback
  | ok twinID =>
    by_cases hempty : twinID = ""
    · simp [hempty, fst_topicFallback]
    · simp [hempty, topicOf]

/-- `ResolveTwinID` takes whatever entry there is. -/
lemma fst_resolveTwinID (src : Sources) (o : Outcomes) (tenant : String) (agentID : AgentID) :
    (src.resolveTwinID o tenant agentID).1 =
      match src.hGet o (routingKey tenant) agentID with
      | .ok twinID => twinID
      | .error _ => src.databaseTwin o agentID := by
  unfold Sources.resolveTwinID
  cases src.hGet o (routingKey tenant) agentID with
  | ok twinID => rfl
  | error err => exact fst_twinIDFallback

lemma topicOf_eq_topicOf_empty {twinID : TwinID} :
    topicOf tenant twinID = topicOf tenant "" ↔ twinID = "" := by
  constructor
  · intro h
    by_contra hne
    rw [topicOf, if_neg hne, topicOf, if_pos rfl] at h
    exact topicTwinMetricsRaw_ne_topicOrphan _ _ h
  · rintro rfl
    rfl

/-- For every state of the hash and of the database, and whichever commands fail: `ResolveTopic`
returns the topic of what `ResolveTwinID` returns, unless HGET gives the empty entry of an agent
whose assignment the query finds. -/
theorem agree_iff (src : Sources) (o : Outcomes) (tenant : String) (agentID : AgentID) :
    Agree src o tenant agentID ↔
      ¬ (o.hGet = true ∧ (src.rdb (routingKey tenant)).get src.now agentID = some "" ∧
        o.query = true ∧ src.assignment agentID ≠ none) := by
  rw [← and_assoc, ← hGet_eq_ok_iff, ← databaseTwin_ne_iff, Agree, fst_resolveTopic,
    fst_resolveTwinID]
  cases src.hGet o (routingKey tenant) agentID with
  | error err => simp
  | ok twinID =>
    by_cases hempty : twinID = ""
    · -- One lookup asks the database, the other one is content with the empty entry.
      subst hempty
      simpa using topicOf_eq_topicOf_empty
    · simp [hempty]

end Agreement

/-- An agent that was looked up without a twin, and has been assigned to one since. -/
def negativeEntry : Sources where
  now := 1
  rdb := Function.update (fun _ => {}) "paryty:routing:acme" (ExpiringHash.set {} 0 "web-1" "")
  assignment := fun _ => some ⟨"6f1c0c52-2f5e-4d0e-9a55-0d4b1c6f5a10", by decide⟩

/-- With the empty entry in the hash, `ResolveTopic` gives the topic of the twin while
`ResolveTwinID` says that there is none. -/
theorem negativeEntry_splits_lookups :
    (negativeEntry.resolveTopic {} "acme" "web-1").1 =
        topicTwinMetricsRaw (utf8 "acme") (utf8 "6f1c0c52-2f5e-4d0e-9a55-0d4b1c6f5a10") ∧
      (negativeEntry.resolveTwinID {} "acme" "web-1").1 = "" ∧
      ¬ Agree negativeEntry {} "acme" "web-1" := by
  refine ⟨rfl, rfl, ?_⟩
  unfold Agree
  decide

end Paryty.Twin.Routing

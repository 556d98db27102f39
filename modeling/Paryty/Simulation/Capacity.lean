import Mathlib.Algebra.Order.Field.Rat
import Mathlib.Data.Rat.Floor
import Paryty.Lib.LeastSquares

/-!
# Capacity planning

`CapacityPlanner` of `cluster/internal/simulation/capacity.go`. Usage is a rational, and so are
slopes and days before they are rounded; an `int` is unbounded.

* `format1` is what `%.1f` makes of a number.
* `now` is the time of the queries, `generatedAt` the one in the report.
-/

namespace Paryty.Simulation

/-- A point in time, in nanoseconds since the epoch. -/
abbrev Instant := ℤ

/-- `metricPoint`. -/
structure MetricPoint where
  timestamp : Instant
  value : ℚ
deriving DecidableEq

/-- What the storage answers: the IDs of the agents, and the points of a metric of an agent in a
range of time. There is no answer to a call that fails. -/
structure StorageReader where
  agents : Option (List String)
  queryMetrics : (agentID metric : String) → (start stop : Instant) → Option (List MetricPoint)

/-- The metrics that are planned for. -/
def resources : List String :=
  ["cpu.usage_percent", "memory.usage_percent", "disk.usage_percent", "network.rx_bytes_per_sec"]

/-- `resourceToKey`. -/
def resourceToKey (metricName : String) : String :=
  if metricName = "cpu.usage_percent" then "cpu"
  else if metricName = "memory.usage_percent" then "memory"
  else if metricName = "disk.usage_percent" then "disk"
  else if metricName = "network.rx_bytes_per_sec" then "network"
  else metricName

/-! ## Regression -/

/-- The seconds from one time to another. -/
def secondsBetween (origin t : Instant) : ℚ := (t - origin : ℤ) / 10 ^ 9

/-- The sums of `linearRegression`. -/
structure RegressionSums where
  x : ℚ := 0
  y : ℚ := 0
  xy : ℚ := 0
  x2 : ℚ := 0

/-- One more point. -/
def RegressionSums.add (origin : Instant) (sums : RegressionSums) (p : MetricPoint) :
    RegressionSums where
  x := sums.x + secondsBetween origin p.timestamp
  y := sums.y + p.value
  xy := sums.xy + secondsBetween origin p.timestamp * p.value
  x2 := sums.x2 + secondsBetween origin p.timestamp * secondsBetween origin p.timestamp

/-- `linearRegression`: slope and intercept. The first point is the origin. -/
def linearRegression (points : List MetricPoint) : ℚ × ℚ :=
  match points with
  | [] => (0, 0)
  | first :: rest =>
    let n : ℚ := (first :: rest).length
    let sums := (first :: rest).foldl (RegressionSums.add first.timestamp) {}
    let denom := n * sums.x2 - sums.x * sums.x
    if denom = 0 then (0, sums.y / n)
    else
      let slope := (n * sums.xy - sums.x * sums.y) / denom
      (slope, (sums.y - slope * sums.x) / n)

/-! ## Recommendations -/

/-- The urgencies, each with its text. -/
inductive Urgency
  | low
  | medium
  | high
  | critical
deriving DecidableEq

/-- `CapacityRecommendation`. -/
structure CapacityRecommendation where
  resource : String
  currentCapacity : String
  recommendedCapacity : String
  urgency : Urgency
  reason : String
  estimatedCost : ℚ
deriving DecidableEq

/-- The urgency for so many days until full. -/
def urgencyOf (daysToFull : ℤ) : Urgency :=
  if daysToFull ≤ 7 then .critical
  else if daysToFull ≤ 30 then .high
  else if daysToFull ≤ 90 then .medium
  else .low

/-- The current and the recommended capacity, and the cost. -/
def capacities (resource : String) (agentCount : ℕ) : String × String × ℚ :=
  if resource = "cpu" then
    (toString (agentCount * 4) ++ " cores", toString (agentCount * 8) ++ " cores", agentCount * 50)
  else if resource = "memory" then
    (toString (agentCount * 16) ++ " GB", toString (agentCount * 32) ++ " GB", agentCount * 40)
  else if resource = "disk" then
    (toString (agentCount * 100) ++ " GB", toString (agentCount * 200) ++ " GB", agentCount * 10)
  else if resource = "network" then
    (toString (agentCount * 1000) ++ " Mbps", toString (agentCount * 2000) ++ " Mbps",
      agentCount * 30)
  else ("", "", 0)

/-- `generateRecommendation`. -/
def generateRecommendation (format1 : ℚ → String) (resource : String) (current projected : ℚ)
    (daysToFull : ℤ) (agentCount : ℕ) : Option CapacityRecommendation :=
  if projected < 80 ∧ daysToFull > 90 then none
  else
    let (currentCapacity, recommendedCapacity, estimatedCost) := capacities resource agentCount
    some
      { resource
        currentCapacity
        recommendedCapacity
        urgency := urgencyOf daysToFull
        reason := "Current " ++ resource ++ " utilization at " ++ format1 current ++
          "%, projected to reach " ++ format1 projected ++
          "% in 30 days. Estimated exhaustion in " ++ toString daysToFull ++ " days."
        estimatedCost }

/-! ## Planning -/

/-- The points of one more agent, and the latest value, which is the one of the first agent that has
points and a latest value other than zero. -/
def collectAgent (query : String → Option (List MetricPoint)) (found : List MetricPoint × ℚ)
    (agentID : String) : List MetricPoint × ℚ :=
  match query agentID with
  | none => found
  | some pts =>
    (found.1 ++ pts,
      match pts.getLast? with
      | some p => if found.2 = 0 then p.value else found.2
      | none => found.2)

/-- The points of a metric across all agents, and the latest value. -/
def collect (query : String → Option (List MetricPoint)) (agents : List String) :
    List MetricPoint × ℚ :=
  agents.foldl (collectAgent query) ([], 0)

/-- What the report has of a resource. -/
structure ResourcePlan where
  key : String
  current : ℚ
  projected : ℚ
  days : Option ℤ
  recommendation : Option CapacityRecommendation

/-- Seven days. -/
def historyWindow : Instant := 7 * 24 * 3600 * 10 ^ 9

/-- 30 days in seconds. -/
def month : ℚ := 30 * 24 * 3600

/-- The days until the latest value becomes 100, if they are positive. -/
def daysUntilFull (slope latestValue : ℚ) : Option ℤ :=
  if 0 < slope then
    let daysToFull := (100 - latestValue) / (slope * 86400)
    if 0 < daysToFull then some ⌊daysToFull⌋ else none
  else none

/-- One round of the loop over the resources. -/
def planResource (format1 : ℚ → String) (agents : List String)
    (query : String → Option (List MetricPoint)) (metric : String) : Option ResourcePlan :=
  let (allPoints, latestValue) := collect query agents
  if allPoints = [] then none
  else
    let key := resourceToKey metric
    let (slope, intercept) := linearRegression allPoints
    let projected := max 0 (min 100 (slope * month + intercept))
    let days := daysUntilFull slope latestValue
    some
      { key
        current := latestValue
        projected
        days
        -- The map has 0 for a missing key.
        recommendation := generateRecommendation format1 key latestValue projected (days.getD 0)
          agents.length }

/-- `CapacityReport`. -/
structure CapacityReport where
  generatedAt : Instant
  currentUsage : List (String × ℚ) := []
  projectedUsage : List (String × ℚ) := []
  daysUntilFull : List (String × ℤ) := []
  recommendations : List CapacityRecommendation := []
  costProjection : ℚ := 0

/-- `PlanCapacity`. -/
def planCapacity (format1 : ℚ → String) (store : StorageReader) (now generatedAt : Instant) :
    Except String CapacityReport :=
  match store.agents with
  | none => .error "get agent states"
  | some agents =>
    if agents = [] then .ok { generatedAt }
    else
      let plans := resources.filterMap fun metric => planResource format1 agents
        (fun agentID => store.queryMetrics agentID metric (now - historyWindow) now) metric
      let recommendations := plans.filterMap ResourcePlan.recommendation
      .ok
        { generatedAt
          currentUsage := plans.map fun plan => (plan.key, plan.current)
          projectedUsage := plans.map fun plan => (plan.key, plan.projected)
          daysUntilFull := plans.filterMap fun plan => plan.days.map fun days => (plan.key, days)
          recommendations
          costProjection := (recommendations.map CapacityRecommendation.estimatedCost).sum }

end Paryty.Simulation

import TelconetSentinel.Library.FallibleLists
import TelconetSentinel.Library.KeyedLists
import TelconetSentinel.RuntimePlan

namespace TelconetSentinel

open FallibleLists KeyedLists

structure RuntimePathObservation where
  accessNode : String
  faultMetric : Option ℤ
  faultReachable : Bool
  restoredMetric : Option ℤ
  restoredReachable : Bool
  accessNode_valid : isRuntimeNode accessNode
  metrics_nonneg : ∀ metric ∈ faultMetric.toList ++ restoredMetric.toList, 0 ≤ metric

structure RuntimeScenarioObservation where
  scenarioId : String
  paths : List RuntimePathObservation
  scenarioId_valid : isRuntimeScenarioId scenarioId
  paths_length : 1 ≤ paths.length ∧ paths.length ≤ 16
  paths_unique : (paths.map RuntimePathObservation.accessNode).Nodup

structure RuntimeN1Observation where
  scenarios : List RuntimeScenarioObservation
  scenarios_length : 1 ≤ scenarios.length ∧ scenarios.length ≤ 64
  scenarios_unique : (scenarios.map RuntimeScenarioObservation.scenarioId).Nodup

/-- The values that are compared: metrics that may be absent, and reachabilities. -/
inductive CheckValue
  | metric (metric : Option ℤ)
  | reachable (reachable : Bool)
  deriving DecidableEq

structure RuntimeCheck where
  check : String
  accessNode : String
  expected : CheckValue
  actual : CheckValue
  passed : Bool
  deriving DecidableEq

structure RuntimeScenarioEvidence where
  scenarioId : String
  kind : FaultKind
  componentId : String
  passed : Bool
  checks : List RuntimeCheck

structure RuntimeN1Evidence where
  schemaVersion : ℕ := 1
  scope : String := "runtime_n1_model_conformance"
  source : String := "containerlab_frr_observation"
  measured : Bool := true
  planSha256 : String
  observationSha256 : String
  topologySha256 : String
  labSha256 : String
  passedAll : Bool
  total : ℕ
  passed : ℕ
  failed : ℤ
  scenarios : List RuntimeScenarioEvidence

def RuntimeScenarioObservation.byNode (observed : RuntimeScenarioObservation) :
    Dict RuntimePathObservation.accessNode :=
  ⟨observed.paths, observed.paths_unique⟩

def RuntimeN1Observation.byId (observation : RuntimeN1Observation) :
    Dict RuntimeScenarioObservation.scenarioId :=
  ⟨observation.scenarios, observation.scenarios_unique⟩

def comparisons (expected : RuntimePathExpectation) (actual : RuntimePathObservation) :
    List (String × CheckValue × CheckValue) :=
  [("fault_route_metric", .metric expected.faultMetric, .metric actual.faultMetric),
    ("fault_reachability", .reachable expected.faultMetric.isSome, .reachable actual.faultReachable),
    ("restored_route_metric", .metric (some expected.baselineMetric), .metric actual.restoredMetric),
    ("restored_reachability", .reachable true, .reachable actual.restoredReachable)]

structure CheckCount where
  checks : List RuntimeCheck
  total : ℕ
  passed : ℕ

def CheckCount.record (accessNode : String) (count : CheckCount)
    (comparison : String × CheckValue × CheckValue) :
    CheckCount :=
  let (check, expected, actual) := comparison
  let passed := decide (expected = actual)
  ⟨count.checks ++ [⟨check, accessNode, expected, actual, passed⟩], count.total + 1,
    count.passed + if passed then 1 else 0⟩

def checkPath (observedPaths : Dict RuntimePathObservation.accessNode) (count : CheckCount)
    (expected : RuntimePathExpectation) : Result CheckCount :=
  match observedPaths.get expected.accessNode with
  | none => .error (.keyError expected.accessNode)
  | some actual => .ok ((comparisons expected actual).foldl (CheckCount.record expected.accessNode) count)

structure EvidenceCount where
  scenarios : List RuntimeScenarioEvidence
  total : ℕ
  passed : ℕ

def checkScenario (observedById : Dict RuntimeScenarioObservation.scenarioId) (count : EvidenceCount)
    (scenario : RuntimeFaultPlan) : Result EvidenceCount :=
  match observedById.get scenario.scenarioId with
  | none => .error (.keyError scenario.scenarioId)
  | some observed =>
    if observed.byNode.keys.toFinset ≠ (scenario.paths.map RuntimePathExpectation.accessNode).toFinset then
      .error (.valueError
        s!"runtime observation access-node set does not match plan: {scenario.scenarioId}")
    else do
      let checked ← scenario.paths.foldlM (checkPath observed.byNode) ⟨[], count.total, count.passed⟩
      let evidence : RuntimeScenarioEvidence := ⟨scenario.scenarioId, scenario.kind, scenario.componentId,
        checked.checks.all RuntimeCheck.passed, checked.checks⟩
      return ⟨count.scenarios ++ [evidence], checked.total, checked.passed⟩

section

-- The digests of the canonical texts of plans and observations.
variable (planSha256 : RuntimeN1Plan → String) (observationSha256 : RuntimeN1Observation → String)

def buildRuntimeN1Evidence (plan : RuntimeN1Plan) (observation : RuntimeN1Observation) :
    Result RuntimeN1Evidence :=
  if observation.byId.keys.toFinset ≠ (plan.scenarios.map RuntimeFaultPlan.scenarioId).toFinset then
    .error (.valueError "runtime observation scenario set does not match plan")
  else do
    let count ← plan.scenarios.foldlM (checkScenario observation.byId) ⟨[], 0, 0⟩
    return {
      planSha256 := planSha256 plan
      observationSha256 := observationSha256 observation
      topologySha256 := plan.topologySha256
      labSha256 := plan.labSha256
      passedAll := decide (count.passed = count.total)
      total := count.total
      passed := count.passed
      failed := count.total - count.passed
      scenarios := count.scenarios }

end

end TelconetSentinel

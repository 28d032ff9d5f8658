import TelconetSentinel.FaultScenarios

namespace TelconetSentinel

def isRuntimeNode (text : String) : Bool := fullmatch isLower isSlug 63 text

def isRuntimeInterface (text : String) : Bool :=
  match text.toList with
  | 'e' :: 't' :: 'h' :: digits => 1 ≤ digits.length && digits.length ≤ 2 && digits.all isDigit
  | _ => false

def isRuntimeScenarioId (text : String) : Bool :=
  ("link:".toList.isPrefixOf text.toList || "node:".toList.isPrefixOf text.toList) &&
    isComponentId (String.ofList (text.toList.drop 5))

structure InjectionInterface where
  node : String
  interface : String
  node_valid : isRuntimeNode node
  interface_valid : isRuntimeInterface interface

structure RuntimePathExpectation where
  accessNode : String
  baselineMetric : ℤ
  faultMetric : Option ℤ
  accessNode_valid : isRuntimeNode accessNode
  baselineMetric_nonneg : 0 ≤ baselineMetric
  faultMetric_nonneg : ∀ metric ∈ faultMetric, 0 ≤ metric

structure BaselineAdjacencyExpectation where
  router : String
  fullNeighbors : ℕ
  router_valid : isRuntimeNode router
  fullNeighbors_range : 1 ≤ fullNeighbors ∧ fullNeighbors ≤ 16

structure RuntimeFaultPlan where
  scenarioId : String
  kind : FaultKind
  componentId : String
  injections : List InjectionInterface
  paths : List RuntimePathExpectation
  scenarioId_valid : isRuntimeScenarioId scenarioId
  kind_literal : kind ≠ .composite
  componentId_valid : isComponentId componentId
  injections_length : 1 ≤ injections.length ∧ injections.length ≤ 16
  paths_length : 1 ≤ paths.length ∧ paths.length ≤ 16
  injections_unique : (injections.map fun item => (item.node, item.interface)).Nodup
  paths_unique : (paths.map RuntimePathExpectation.accessNode).Nodup

/-- The version and the source are fixed. That the prefix is the canonical text of a network of 32 bits is
checked where plans are built. -/
structure RuntimeN1Plan where
  topologySha256 : String
  labSha256 : String
  servicePrefix : String
  baselineAdjacencies : List BaselineAdjacencyExpectation
  scenarios : List RuntimeFaultPlan
  topologySha256_valid : isSha256 topologySha256
  labSha256_valid : isSha256 labSha256
  servicePrefix_length : 1 ≤ servicePrefix.length ∧ servicePrefix.length ≤ 64
  adjacencies_length : 1 ≤ baselineAdjacencies.length ∧ baselineAdjacencies.length ≤ 64
  scenarios_length : 1 ≤ scenarios.length ∧ scenarios.length ≤ 64
  scenarios_unique : (scenarios.map RuntimeFaultPlan.scenarioId).Nodup
  routers_unique : (baselineAdjacencies.map BaselineAdjacencyExpectation.router).Nodup

end TelconetSentinel

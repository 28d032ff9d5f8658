import TelconetSentinel.FaultScenarios
import TelconetSentinel.ShortestDistance

namespace TelconetSentinel

open FallibleLists WeightedWalks

structure AccessPathResult where
  accessNode : String
  baselineCost : ℤ
  postFaultCost : Option ℤ
  deriving DecidableEq, Repr

structure FaultScenarioResult where
  fault : FaultScenario
  serviceImpact : ServiceImpact
  affectedNodes : List String
  affectedPrefixes : List String
  paths : List AccessPathResult
  deriving DecidableEq

structure FaultAuditResult where
  scenarios : List FaultScenarioResult
  deriving DecidableEq

namespace FaultAuditResult

def count (audit : FaultAuditResult) (impact : ServiceImpact) : ℕ :=
  audit.scenarios.countP (fun scenario => scenario.serviceImpact = impact)

def passesNMinusOne (audit : FaultAuditResult) : Bool := audit.count .outage = 0

end FaultAuditResult

namespace Topology

def accessNodes (T : Topology) : List String :=
  (T.nodes.filter (fun node => node.role = .access)).map Node.name

def serviceNodes (T : Topology) : Finset String :=
  ((T.nodes.filter (fun node => node.role = .service)).map Node.name).toFinset

def baselineCost (T : Topology) (access : String) : Result (String × ℤ) := do
  match ← T.shortestDistance access T.serviceNodes with
  | none => .error (.valueError s!"access node has no baseline service path: {access}")
  | some distance => return (access, distance)

def accessPath (T : Topology) (fault : FaultScenario) (baseline : String × ℤ) : Result AccessPathResult := do
  let after ← T.shortestDistanceExcluding baseline.1 T.serviceNodes fault.excludedLinks fault.excludedNodes
  return ⟨baseline.1, baseline.2, after⟩

end Topology

namespace AccessPathResult

def Unavailable (path : AccessPathResult) : Prop := path.postFaultCost = none

def Degraded (path : AccessPathResult) : Prop := ∃ after ∈ path.postFaultCost, path.baselineCost < after

instance : DecidablePred Unavailable := fun path => inferInstanceAs (Decidable (path.postFaultCost = none))

instance : DecidablePred Degraded := fun path =>
  inferInstanceAs (Decidable (∃ after ∈ path.postFaultCost, path.baselineCost < after))

end AccessPathResult

namespace Topology

def auditScenario (T : Topology) (baselineCosts : List (String × ℤ)) (fault : FaultScenario) :
    Result FaultScenarioResult := do
  T.checkLinks fault.excludedLinks
  T.checkNodes fault.excludedNodes
  let paths ← baselineCosts.mapM (T.accessPath fault)
  let unavailable := (paths.filter (fun path => path.Unavailable)).map AccessPathResult.accessNode
  let degraded := (paths.filter (fun path => path.Degraded)).map AccessPathResult.accessNode
  let impact : ServiceImpact :=
    if unavailable ≠ [] then .outage else if degraded ≠ [] then .degraded else .redundancyReduced
  let affectedNodes := sorted (unavailable ∪ degraded)
  let owners ← affectedNodes.mapM T.node
  return ⟨fault, impact, affectedNodes, sorted (owners.flatMap Node.prefixes), paths⟩

def auditFaultScenarios (T : Topology) (scenarios : List FaultScenario) : Result FaultAuditResult :=
  if T.accessNodes = [] then .error (.valueError "N-1 audit requires at least one access node")
  else if T.serviceNodes = ∅ then .error (.valueError "N-1 audit requires at least one service node")
  else if scenarios = [] then .error (.valueError "audit requires at least one fault scenario")
  else if ¬ (scenarios.map FaultScenario.id).Nodup then .error (.valueError "duplicate fault scenario id")
  else do
    let baselineCosts ← T.accessNodes.mapM T.baselineCost
    let results ← scenarios.mapM (T.auditScenario baselineCosts)
    return ⟨results⟩

end Topology

end TelconetSentinel

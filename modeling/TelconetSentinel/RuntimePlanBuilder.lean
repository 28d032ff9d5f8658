import TelconetSentinel.ContainerlabLinks
import TelconetSentinel.FailureDomains
import TelconetSentinel.Intent

namespace TelconetSentinel

open DocumentValues FallibleLists KeyedLists

def invalidModel (name : String) : Exn := .valueError s!"validation error for {name}"

def InjectionInterface.init (node interface : String) : Result InjectionInterface :=
  if h : isRuntimeNode node ∧ isRuntimeInterface interface then .ok ⟨node, interface, h.1, h.2⟩
  else .error (invalidModel "InjectionInterface")

def RuntimePathExpectation.init (accessNode : String) (baselineMetric : ℤ) (faultMetric : Option ℤ) :
    Result RuntimePathExpectation :=
  if h : isRuntimeNode accessNode ∧ 0 ≤ baselineMetric ∧ ∀ metric ∈ faultMetric, 0 ≤ metric then
    .ok ⟨accessNode, baselineMetric, faultMetric, h.1, h.2.1, h.2.2⟩
  else .error (invalidModel "RuntimePathExpectation")

def BaselineAdjacencyExpectation.init (router : String) (fullNeighbors : ℕ) :
    Result BaselineAdjacencyExpectation :=
  if h : isRuntimeNode router ∧ 1 ≤ fullNeighbors ∧ fullNeighbors ≤ 16 then
    .ok ⟨router, fullNeighbors, h.1, h.2⟩
  else .error (invalidModel "BaselineAdjacencyExpectation")

def RuntimeFaultPlan.init (scenarioId : String) (kind : FaultKind) (componentId : String)
    (injections : List InjectionInterface) (paths : List RuntimePathExpectation) : Result RuntimeFaultPlan :=
  if h : isRuntimeScenarioId scenarioId ∧ kind ≠ .composite ∧ isComponentId componentId ∧
      (1 ≤ injections.length ∧ injections.length ≤ 16) ∧ 1 ≤ paths.length ∧ paths.length ≤ 16 then
    if hinjections : (injections.map fun item => (item.node, item.interface)).Nodup then
      if hpaths : (paths.map RuntimePathExpectation.accessNode).Nodup then
        .ok ⟨scenarioId, kind, componentId, injections, paths, h.1, h.2.1, h.2.2.1, h.2.2.2.1, h.2.2.2.2,
          hinjections, hpaths⟩
      else .error (.valueError "plan access nodes must be unique")
    else .error (.valueError "injection interfaces must be unique")
  else .error (invalidModel "RuntimeFaultPlan")

theorem RuntimePathExpectation.init_ok {accessNode : String} {baselineMetric : ℤ} {faultMetric : Option ℤ}
    {path : RuntimePathExpectation}
    (h : RuntimePathExpectation.init accessNode baselineMetric faultMetric = .ok path) :
    path.accessNode = accessNode ∧ path.baselineMetric = baselineMetric ∧ path.faultMetric = faultMetric := by
  unfold RuntimePathExpectation.init at h
  split_ifs at h
  obtain rfl := Except.ok.inj h
  exact ⟨rfl, rfl, rfl⟩

theorem BaselineAdjacencyExpectation.init_ok {router : String} {fullNeighbors : ℕ}
    {item : BaselineAdjacencyExpectation}
    (h : BaselineAdjacencyExpectation.init router fullNeighbors = .ok item) :
    item.router = router ∧ item.fullNeighbors = fullNeighbors := by
  unfold BaselineAdjacencyExpectation.init at h
  split_ifs at h
  obtain rfl := Except.ok.inj h
  exact ⟨rfl, rfl⟩

theorem RuntimeFaultPlan.init_ok {scenarioId : String} {kind : FaultKind} {componentId : String}
    {injections : List InjectionInterface} {paths : List RuntimePathExpectation} {scenario : RuntimeFaultPlan}
    (h : RuntimeFaultPlan.init scenarioId kind componentId injections paths = .ok scenario) :
    scenario.kind = kind ∧ scenario.componentId = componentId ∧ scenario.injections = injections ∧
      scenario.paths = paths := by
  unfold RuntimeFaultPlan.init at h
  split_ifs at h
  obtain rfl := Except.ok.inj h
  exact ⟨rfl, rfl, rfl, rfl⟩

def isHostMask (mask : List Char) : Bool :=
  mask.all isDigit && mask != [] && decimalValue mask == 32 || mask == "255.255.255.255".toList

/-- `str(ip_network(text))`, for the texts of IPv4 networks of a single host. -/
def hostNetwork (text : String) : Option String :=
  match text.toList.splitOn '/' with
  | address :: masks =>
    match canonicalIpv4 address with
    | none => none
    | some _ =>
      if masks = [] ∨ masks.length = 1 ∧ masks.all isHostMask then
        some (String.ofList (address ++ "/32".toList))
      else none
  | [] => none

theorem length_of_hostNetwork {text canonical : String} (h : hostNetwork text = some canonical) :
    1 ≤ canonical.length ∧ canonical.length ≤ 64 := by
  unfold hostNetwork at h
  split at h
  · next address masks _ =>
    cases haddress : canonicalIpv4 address with
    | none =>
      rw [haddress] at h
      cases h
    | some n =>
      rw [haddress] at h
      have hlength := length_of_canonicalIpv4 haddress
      simp only at h
      split_ifs at h
      obtain rfl := Option.some.inj h
      simp only [String.length_ofList, List.length_append]
      have hsuffix : "/32".toList.length = 3 := rfl
      omega
  · cases h

def RuntimeN1Plan.init (topologySha256 labSha256 servicePrefix : String)
    (baselineAdjacencies : List BaselineAdjacencyExpectation) (scenarios : List RuntimeFaultPlan) :
    Result RuntimeN1Plan :=
  if h : isSha256 topologySha256 ∧ isSha256 labSha256 ∧
    (1 ≤ servicePrefix.length ∧ servicePrefix.length ≤ 64) ∧
      (1 ≤ baselineAdjacencies.length ∧ baselineAdjacencies.length ≤ 64) ∧
      1 ≤ scenarios.length ∧ scenarios.length ≤ 64 then
    match hhost : hostNetwork servicePrefix with
    | none => .error (.valueError "runtime probe requires an IPv4 /32 service prefix")
    | some canonical =>
      if hscenarios : (scenarios.map RuntimeFaultPlan.scenarioId).Nodup then
        if hrouters : (baselineAdjacencies.map BaselineAdjacencyExpectation.router).Nodup then
          .ok ⟨topologySha256, labSha256, canonical, baselineAdjacencies, scenarios, h.1, h.2.1,
            length_of_hostNetwork hhost, h.2.2.2.1, h.2.2.2.2, hscenarios, hrouters⟩
        else .error (.valueError "baseline adjacency routers must be unique")
      else .error (.valueError "plan scenario ids must be unique")
  else .error (invalidModel "RuntimeN1Plan")

theorem RuntimeN1Plan.init_ok {topologySha256 labSha256 servicePrefix : String}
    {baselineAdjacencies : List BaselineAdjacencyExpectation} {scenarios : List RuntimeFaultPlan}
    {plan : RuntimeN1Plan} (h : RuntimeN1Plan.init topologySha256 labSha256 servicePrefix baselineAdjacencies
      scenarios = .ok plan) :
    hostNetwork servicePrefix = some plan.servicePrefix ∧ plan.baselineAdjacencies = baselineAdjacencies ∧
      plan.scenarios = scenarios := by
  unfold RuntimeN1Plan.init at h
  split at h
  · split at h
    · cases h
    · next canonical hhost =>
      split_ifs at h
      obtain rfl := Except.ok.inj h
      exact ⟨hhost, rfl, rfl⟩
  · cases h

namespace RuntimeResilience

def validateRawTopologyLimits (document : Value) : Result Unit := do
  let nodes ← mapping (document.getD "nodes" .null) "candidate intent nodes"
  if ¬ (1 ≤ nodes.entries.length ∧ nodes.entries.length ≤ 64) then
    .error (.valueError "candidate intent must contain at most 64 nodes")
  else do
    let links ← sequence (document.getD "links" .null) "candidate intent links"
    if ¬ (1 ≤ links.length ∧ links.length ≤ 128) then
      .error (.valueError "candidate intent must contain 1 to 128 links")
    else .ok ()

def injection (link : LabLink) (node : String) : Result InjectionInterface :=
  match link.interfaceOf node with
  | none => .error (.keyError node)
  | some interface => InjectionInterface.init node interface

def scenarioInjections (T : Topology) (lab : LabLinks) (fault : FaultScenario) :
    Result (String × List InjectionInterface) :=
  if fault.excludedLinks ≠ ∅ then do
    let componentId ← firstMember fault.excludedLinks
    let link ← T.link componentId
    match lab.get s(link.endpointA, link.endpointB) with
    | none => .error (.valueError s!"intent link is missing from containerlab: {componentId}")
    | some interfaces => do
      let injections ← [link.endpointA, link.endpointB].mapM (injection interfaces)
      return (componentId, injections)
  else do
    let componentId ← firstMember fault.excludedNodes
    let items ← (lab.values.filter fun interfaces => (interfaces.interfaceOf componentId).isSome).mapM
      (injection · componentId)
    let injections := items.insertionSort fun a b => a.interface ≤ b.interface
    if injections.isEmpty then
      .error (.valueError s!"intent node has no containerlab interfaces: {componentId}")
    else return (componentId, injections)

def pathExpectation (path : AccessPathResult) : Result RuntimePathExpectation :=
  RuntimePathExpectation.init path.accessNode path.baselineCost path.postFaultCost

def planScenario (T : Topology) (lab : LabLinks) (result : FaultScenarioResult) :
    Result RuntimeFaultPlan := do
  let (componentId, injections) ← scenarioInjections T lab result.fault
  let paths ← result.paths.mapM pathExpectation
  RuntimeFaultPlan.init result.fault.id result.fault.kind componentId injections paths

end RuntimeResilience

namespace Topology

def degree (T : Topology) (name : String) : ℕ :=
  (T.links.flatMap fun link => [link.endpointA, link.endpointB]).count name

def servicePrefixes (T : Topology) : List String :=
  (T.nodes.filter fun node => node.role = .service).flatMap Node.prefixes

def runtimeFaults (T : Topology) : Result (List FaultScenario) := do
  let links ← T.linkFailureScenarios
  let nodes ← T.transportNodeFailureScenarios
  return links ++ nodes

end Topology

namespace RuntimeResilience

section

-- The fields that pydantic reads from the document of an intent, and SHA-256 of the canonical text of a
-- topology.
variable (intentFields : Value → Result IntentFields) (digest : TopologyDocument → String)

def planOf (T : Topology) (lab : LabLinks) (labSha256 : String) : Result RuntimeN1Plan :=
  if ¬ (1 ≤ T.accessNodes.length ∧ T.accessNodes.length ≤ 16) then
    .error (.valueError "candidate intent must contain 1 to 16 access nodes")
  else if 128 < (T.nodes.map fun node => node.prefixes.length).sum then
    .error (.valueError "candidate intent must contain at most 128 prefixes")
  else
    match T.servicePrefixes with
    | [servicePrefix] => do
      let faults ← T.runtimeFaults
      if 64 < faults.length then .error (.valueError "runtime N-1 plan supports at most 64 scenarios")
      else do
        let audit ← T.auditFaultScenarios faults
        if ∃ node ∈ T.nodes, T.degree node.name = 0 then
          .error (.valueError "runtime N-1 plan requires every intent node to have a neighbor")
        else do
          let scenarios ← audit.scenarios.mapM (planScenario T lab)
          let adjacencies ← T.nodes.mapM fun node =>
            BaselineAdjacencyExpectation.init node.name (T.degree node.name)
          RuntimeN1Plan.init (T.fingerprint digest) labSha256 servicePrefix adjacencies scenarios
    | _ => .error (.valueError "runtime N-1 plan requires exactly one service prefix")

def candidateTopology (intentDocument : Value) : Result Topology := do
  let document ← mapping intentDocument "candidate intent"
  validateRawTopologyLimits document
  let fields ← intentFields document
  let intent ← fields.validateGraphReferences
  intent.toTopology

/-- `build_runtime_n1_plan`, for the documents of the two files and the digest of the containerlab file. -/
def buildRuntimeN1Plan (intentDocument labDocument : Value) (labSha256 : String) : Result RuntimeN1Plan := do
  let T ← candidateTopology intentFields intentDocument
  let lab ← loadLabLinks labDocument
  planOf digest T lab labSha256

end

end RuntimeResilience

end TelconetSentinel

import TelconetSentinel.Library.PythonText
import TelconetSentinel.Library.DocumentValues
import TelconetSentinel.Intent

namespace TelconetSentinel

open DelimitedText DocumentValues KeyedLists

def isInterfaceName (text : String) : Bool :=
  let allowed := fun c => isLower c || isUpper c || isDigit c || c == '_' || c == '.' || c == ':' || c == '-'
  fullmatch allowed allowed 63 text

structure OspfNeighborExpectation where
  routerId : String
  interface : String
  routerId_canonical : isCanonicalIpv4 routerId
  interface_valid : isInterfaceName interface

structure BfdExpectation where
  peer : String
  interface : String
  receiveIntervalMs : ℤ
  transmitIntervalMs : ℤ
  detectMultiplier : ℤ
  detectionTimeoutMs : ℤ
  peer_canonical : isCanonicalIpv4 peer
  interface_valid : isInterfaceName interface
  milliseconds : ∀ n ∈ [receiveIntervalMs, transmitIntervalMs, detectionTimeoutMs], 0 < n ∧ n ≤ 60000
  multiplier : 0 < detectMultiplier ∧ detectMultiplier ≤ 255

/-- The version is fixed. -/
structure RuntimeExpectation where
  router : String
  serviceNode : String
  routePrefix : String
  routeNextHop : String
  routeInterface : String
  ospfNeighbors : List OspfNeighborExpectation
  bfd : BfdExpectation
  names_valid : isComponentId router ∧ isComponentId serviceNode
  prefix_canonical : isCanonicalIpv4Network routePrefix
  nextHop_canonical : isCanonicalIpv4 routeNextHop
  interface_valid : isInterfaceName routeInterface
  neighbors_length : 1 ≤ ospfNeighbors.length ∧ ospfNeighbors.length ≤ 32
  neighbors_unique : (ospfNeighbors.map OspfNeighborExpectation.routerId).Nodup

/-- The version is fixed. `capturedAt` is the text of `captured_at.isoformat()`. -/
structure RuntimeSnapshot where
  capturedAt : String
  router : String
  ospf : JsonObject
  route : JsonObject
  bfd : JsonObject
  router_valid : isComponentId router

def mapping (value : Value) : Value := .dict value.entries

def sequence (value : Value) : List Value := value.items

structure ConformanceCheck where
  id : String
  expected : Value
  actual : Value
  passed : Bool

def check (checkId : String) (expected actual : Value) : ConformanceCheck :=
  ⟨checkId, expected, actual, actual.pyEq expected⟩

structure Adjacency where
  routerId : String
  interface : String
  state : String
  deriving DecidableEq

namespace Adjacency

def value (adjacency : Adjacency) : Value :=
  .dict [(.str "router_id", .str adjacency.routerId), (.str "interface", .str adjacency.interface),
    (.str "state", .str adjacency.state)]

def key (adjacency : Adjacency) : String ×ₗ String ×ₗ String :=
  toLex (adjacency.routerId, toLex (adjacency.interface, adjacency.state))

def sort (adjacencies : List Adjacency) : List Adjacency :=
  adjacencies.insertionSort (fun a b => a.key ≤ b.key)

end Adjacency

def expectedAdjacencies (expectation : RuntimeExpectation) : List Adjacency :=
  expectation.ospfNeighbors.map fun neighbor => ⟨neighbor.routerId, neighbor.interface, "Full"⟩

section

-- `str` of the values that are not texts.
variable (render : Value → String)

def pyStr : Value → String
  | .str text => text
  | value => render value

def interfaceName (entry : Value) : String :=
  String.ofList (before ':' (pyStr render (entry.getD "ifaceName" (.str ""))).toList)

/-- The part of `converged`, or else of `nbrState`, before the first slash. -/
def neighborState (entry : Value) : String :=
  let converged := entry.getD "converged" .null
  let state := if converged.truthy then converged else entry.getD "nbrState" (.str "")
  String.ofList (before '/' (pyStr render state).toList)

def actualAdjacencies (neighbors : Value) : List Adjacency :=
  neighbors.entries.flatMap fun entry => (sequence entry.2).map fun value =>
    ⟨pyStr render entry.1, interfaceName render (mapping value), neighborState render (mapping value)⟩

def neighborCheck (neighbors : Value) (expected : OspfNeighborExpectation) : ConformanceCheck :=
  let entries := (sequence (neighbors.getD expected.routerId .null)).map mapping
  let matching := entries.find? fun entry => interfaceName render entry == expected.interface
  check s!"ospf.neighbor.{expected.routerId}"
    (.dict [(.str "state", .str "Full"), (.str "interface", .str expected.interface)])
    (match matching with
      | some entry =>
        .dict [(.str "state", .str (neighborState render entry)),
          (.str "interface", .str (interfaceName render entry))]
      | none => .str "missing")

def ospfChecks (snapshot : RuntimeSnapshot) (expectation : RuntimeExpectation) : List ConformanceCheck :=
  let neighbors := mapping (snapshot.ospf.value.getD "neighbors" .null)
  check "ospf.adjacencies" (.list ((Adjacency.sort (expectedAdjacencies expectation)).map Adjacency.value))
      (.list ((Adjacency.sort (actualAdjacencies render neighbors)).map Adjacency.value)) ::
    expectation.ospfNeighbors.map (neighborCheck render neighbors)

def isSelected (route : Value) : Bool := (route.getD "installed" .null).isTrue &&
    (route.getD "selected" .null).isTrue

def selectedRoutes (snapshot : RuntimeSnapshot) (expectation : RuntimeExpectation) : List Value :=
  ((sequence (snapshot.route.value.getD expectation.routePrefix .null)).map mapping).filter isSelected

def isActive (nextHop : Value) : Bool := (nextHop.getD "active" .null).isTrue &&
    (nextHop.getD "fib" .null).isTrue

structure NextHop where
  ip : Value
  interface : Value

namespace NextHop

def value (nextHop : NextHop) : Value :=
  .dict [(.str "ip", nextHop.ip), (.str "interface", nextHop.interface)]

def key (nextHop : NextHop) : String ×ₗ String :=
  toLex (pyStr render nextHop.ip, pyStr render nextHop.interface)

end NextHop

def activeNextHops (route : Value) : List NextHop :=
  (((sequence (route.getD "nexthops" .null)).map mapping).filter isActive).map fun nextHop =>
    ⟨nextHop.getD "ip" .null, nextHop.getD "interfaceName" .null⟩

def routeChecks (snapshot : RuntimeSnapshot) (expectation : RuntimeExpectation) (expectedMetric : ℤ) :
    List ConformanceCheck :=
  let selected := selectedRoutes snapshot expectation
  let installedRoute := selected.headD (.dict [])
  let nextHops := (activeNextHops installedRoute).insertionSort fun a b => a.key render ≤ b.key render
  let expectedNextHops := [NextHop.mk (.str expectation.routeNextHop) (.str expectation.routeInterface)]
  [check "route.installed" (.bool true) (.bool installedRoute.truthy),
    check "route.selected_entry_count" (.int 1) (.int selected.length),
    check "route.protocol" (.str "ospf") (installedRoute.getD "protocol" .null),
    check "route.metric" (.int expectedMetric) (installedRoute.getD "metric" .null),
    check "route.next_hops" (.list (expectedNextHops.map NextHop.value)) (.list (nextHops.map NextHop.value))]

def bfdChecks (snapshot : RuntimeSnapshot) (expectation : RuntimeExpectation) : List ConformanceCheck :=
  let bfd := snapshot.bfd.value
  let expected := expectation.bfd
  let peerMatches := (bfd.getD "peer" .null).pyEq (.str expected.peer) &&
    (bfd.getD "interface" .null).pyEq (.str expected.interface)
  let timer := fun key => if peerMatches then bfd.getD key .null else .null
  [check "bfd.status" (.str "up") (if peerMatches then bfd.getD "status" .null else .str "missing"),
    check "bfd.receive_interval_ms" (.int expected.receiveIntervalMs) (timer "receive-interval"),
    check "bfd.transmit_interval_ms" (.int expected.transmitIntervalMs) (timer "transmit-interval"),
    check "bfd.detect_multiplier" (.int expected.detectMultiplier) (timer "detect-multiplier"),
    check "bfd.detection_timeout_ms" (.int expected.detectionTimeoutMs) (timer "detection-timeout")]

structure ConformanceSummary where
  total : ℕ
  passed : ℕ
  failed : ℤ

structure ConformanceEvidence where
  schemaVersion : ℕ := 1
  scenario : String := "pre_fault_runtime_conformance"
  source : String := "frr_runtime_observation"
  measured : Bool := true
  capturedAt : String
  router : String
  serviceNode : String
  routePrefix : String
  configurationSha256 : String
  intentSha256 : String
  expectationSha256 : String
  snapshotSha256 : String
  passedAll : Bool
  summary : ConformanceSummary
  checks : List ConformanceCheck

-- `RuntimeSnapshot.model_validate`, and `_digest` of the three models.
variable (modelValidate : Value → Result RuntimeSnapshot)
variable (intentDigest : NetworkIntent → String) (expectationDigest : RuntimeExpectation → String)
variable (snapshotDigest : RuntimeSnapshot → String)

def conformanceEvidence (intent : NetworkIntent) (expectation : RuntimeExpectation)
    (snapshot : RuntimeSnapshot) (configurationSha256 : String) (expectedMetric : ℤ) : ConformanceEvidence :=
  let checks := ospfChecks render snapshot expectation ++
    (routeChecks render snapshot expectation expectedMetric ++ bfdChecks snapshot expectation)
  let passed := checks.countP ConformanceCheck.passed
  { capturedAt := snapshot.capturedAt.replace "+00:00" "Z"
    router := expectation.router
    serviceNode := expectation.serviceNode
    routePrefix := expectation.routePrefix
    configurationSha256 := configurationSha256
    intentSha256 := intentDigest intent
    expectationSha256 := expectationDigest expectation
    snapshotSha256 := snapshotDigest snapshot
    passedAll := passed == checks.length
    summary := ⟨checks.length, passed, checks.length - passed⟩
    checks := checks }

def declaredService (intent : NetworkIntent) (expectation : RuntimeExpectation) : Result Unit :=
  match intent.nodes.get expectation.router with
  | none => .error (.valueError s!"runtime router is not declared in intent: {expectation.router}")
  | some router =>
    match intent.nodes.get expectation.serviceNode with
    | none => .error (.valueError
      s!"runtime service node is not declared in intent: {expectation.serviceNode}")
    | some service =>
      if router.2.role ≠ .access then
        .error (.valueError s!"runtime router must have access role: {expectation.router}")
      else if service.2.role ≠ .service then
        .error (.valueError s!"runtime service node must have service role: {expectation.serviceNode}")
      else if expectation.routePrefix ∉ service.2.prefixes then
        .error (.valueError
          s!"route prefix {expectation.routePrefix} is not owned by {expectation.serviceNode} in intent")
      else .ok ()

def buildRuntimeConformanceEvidence (intent : NetworkIntent) (expectation : RuntimeExpectation)
    (rawSnapshot : Value) (configurationSha256 : String) : Result ConformanceEvidence :=
  if ¬ isSha256 configurationSha256 then
    .error (.valueError "configuration_sha256 must be a lowercase SHA-256")
  else do
    declaredService intent expectation
    let snapshot ← modelValidate rawSnapshot
    if snapshot.router ≠ expectation.router then
      .error (.valueError s!"snapshot router {snapshot.router} does not match {expectation.router}")
    else do
      let T ← intent.toTopology
      match ← T.shortestDistance expectation.router {expectation.serviceNode} with
      | none => .error (.valueError "intent has no service path for runtime router")
      | some expectedMetric =>
        return conformanceEvidence render intentDigest expectationDigest snapshotDigest intent expectation
          snapshot configurationSha256 expectedMetric

end

end TelconetSentinel

import TelconetSentinel.Library.PythonText
import TelconetSentinel.Library.DocumentValues
import TelconetSentinel.TelemetryConfig

namespace TelconetSentinel

open DelimitedText DocumentValues FallibleLists

/-- The exceptions of a collection. `other` stands for all that are neither an `OSError` nor a
`ValueError`. -/
inductive CollectorError
  | timeoutExpired
  | calledProcessError
  | osError
  | jsonDecodeError
  | valueError (message : String)
  | other
  deriving DecidableEq

abbrev Collected := Except CollectorError

def InterfaceTelemetry.init (name : String) (state : TelemetryState) (rxBytes txBytes rxDrops txDrops : ℕ) :
    Collected InterfaceTelemetry :=
  if h : isTelemetryIdentifier 63 name ∧ ∀ counter ∈ [rxBytes, txBytes, rxDrops, txDrops],
    counter ≤ maxCounter then
    .ok ⟨name, state, rxBytes, txBytes, rxDrops, txDrops, h.1, h.2⟩
  else .error (.valueError "validation error for InterfaceTelemetry")

def OspfNeighborTelemetry.init (neighbor interface : String) (state : TelemetryState) :
    Collected OspfNeighborTelemetry :=
  if h : isTelemetryIdentifier 63 neighbor ∧ isTelemetryIdentifier 63 interface then
    .ok ⟨neighbor, interface, state, h.1, h.2⟩
  else .error (.valueError "validation error for OspfNeighborTelemetry")

def BfdPeerTelemetry.init (peer interface : String) (configured : Bool) (state : TelemetryState) :
    Collected BfdPeerTelemetry :=
  if h : isTelemetryIdentifier 63 peer ∧ isTelemetryIdentifier 63 interface then
    if habsence : configured = false → state = .unknown then
      .ok ⟨peer, interface, configured, state, h.1, h.2, habsence⟩
    else .error (.valueError "unconfigured BFD peer state must be unknown")
  else .error (.valueError "validation error for BfdPeerTelemetry")

def RouteTelemetry.init (isCanonicalNetwork : String → Bool) (routePrefix : String) (present : Bool)
    (metric : Option ℕ) (egressInterface : Option String) : Collected RouteTelemetry :=
  if h : (3 ≤ routePrefix.length ∧ routePrefix.length ≤ 64) ∧ (∀ m ∈ metric, m ≤ maxCounter) ∧
      ∀ interface ∈ egressInterface, isTelemetryIdentifier 63 interface then
    if ¬ isCanonicalNetwork routePrefix then
      .error (.valueError s!"invalid canonical route prefix: {routePrefix}")
    else if hpresence : if present then metric ≠ none ∧ egressInterface ≠ none
        else metric = none ∧ egressInterface = none then
      .ok ⟨routePrefix, present, metric, egressInterface, h.1, h.2.1, h.2.2, hpresence⟩
    else if present then .error (.valueError "present route requires metric and egress_interface")
    else .error (.valueError "absent route cannot define metric or egress_interface")
  else .error (.valueError "validation error for RouteTelemetry")

def interfaceReferences (ospfNeighbors : List OspfNeighborTelemetry) (bfdPeers : List BfdPeerTelemetry)
    (routes : List RouteTelemetry) : List String :=
  ospfNeighbors.map OspfNeighborTelemetry.interface ++ bfdPeers.map BfdPeerTelemetry.interface ++
    routes.filterMap RouteTelemetry.egressInterface

def RouterTelemetry.observed (name : String) (interfaces : List InterfaceTelemetry)
    (ospfNeighbors : List OspfNeighborTelemetry) (bfdPeers : List BfdPeerTelemetry)
    (routes : List RouteTelemetry) :
    Collected RouterTelemetry :=
  let unknown := (interfaceReferences ospfNeighbors bfdPeers routes).filter
    (· ∉ interfaces.map InterfaceTelemetry.name)
  if h : isTelemetryIdentifier 63 name ∧ interfaces.length ≤ 64 ∧ ospfNeighbors.length ≤ 128 ∧
      bfdPeers.length ≤ 128 ∧ routes.length ≤ 256 then
    if hinterfaces : (interfaces.map InterfaceTelemetry.name).Nodup then
      if hneighbors : (ospfNeighbors.map fun neighbor => (neighbor.neighbor, neighbor.interface)).Nodup then
        if hpeers : (bfdPeers.map fun peer => (peer.peer, peer.interface)).Nodup then
          if hroutes : (routes.map RouteTelemetry.routePrefix).Nodup then
            if hknown : unknown = [] then
              .ok
                { name := name
                  collectionSuccess := true
                  state := .up
                  interfaces := interfaces
                  ospfNeighbors := ospfNeighbors
                  bfdPeers := bfdPeers
                  routes := routes
                  name_valid := h.1
                  error_valid := fun _ he => absurd he (Option.not_mem_none _)
                  lengths := h.2
                  success := fun _ => ⟨rfl, rfl⟩
                  failure := fun hfailed => absurd hfailed Bool.true_eq_false_eq_False
                  interfaces_unique := hinterfaces
                  neighbors_unique := hneighbors
                  peers_unique := hpeers
                  routes_unique := hroutes
                  references_known := fun reference hreference =>
                    by simpa using List.filter_eq_nil_iff.mp hknown reference hreference }
            else .error (.valueError
              s!"observation references unknown interface: {commaSeparated (sorted unknown.dedup)}")
          else .error (.valueError "router routes must be unique")
        else .error (.valueError "BFD peers must be unique")
      else .error (.valueError "OSPF neighbors must be unique")
    else .error (.valueError "router interfaces must be unique")
  else .error (.valueError "validation error for RouterTelemetry")

def failedRouterTelemetry (name error : String) : Collected RouterTelemetry :=
  let error := String.ofList (error.toList.take 200)
  if h : isTelemetryIdentifier 63 name ∧ isErrorText error then .ok (.failed name error h.1 h.2)
  else .error (.valueError "validation error for RouterTelemetry")

def TelemetrySnapshot.init (snapshotId : String) (observedAt : DateTime) (topologyFingerprint : String)
    (routers : List RouterTelemetry) : Collected TelemetrySnapshot :=
  if h : isTelemetryIdentifier 63 snapshotId ∧ isSha256 topologyFingerprint then
    if hunique : (routers.map RouterTelemetry.name).Nodup then
      if hbaseline : (routers.map RouterTelemetry.name).toFinset = baselineRouters.toFinset then
        .ok ⟨snapshotId, observedAt, topologyFingerprint, routers, h.1, h.2, hunique, hbaseline⟩
      else .error (.valueError "telemetry snapshot must contain exactly the six baseline routers")
    else .error (.valueError "telemetry snapshot routers must be unique")
  else .error (.valueError "validation error for TelemetrySnapshot")

namespace TelemetryCollector

def interfaceCommand : List String := ["ip", "-s", "-j", "link", "show"]

def ospfCommand : List String := ["vtysh", "-c", "show ip ospf neighbor json"]

def bfdCommand : List String := ["vtysh", "-c", "show bfd peers json"]

def mapping (value : Value) : Value := .dict value.entries

def sequence (value : Value) : List Value := value.items

def nonnegativeInt : Value → ℕ
  | .int n => n.toNat
  | _ => 0

def has (entry : Value) (key : String) : Bool := (entry.get key).isSome

mutual

def walkMappings : Value → List Value
  | .dict entries => .dict entries :: walkEntries entries
  | .list items => walkItems items
  | _ => []

def walkItems : List Value → List Value
  | [] => []
  | item :: rest => walkMappings item ++ walkItems rest

def walkEntries : List (Value × Value) → List Value
  | [] => []
  | (_, value) :: rest => walkMappings value ++ walkEntries rest

end

section

-- `json.loads`, the text `str(value).strip().lower()`, and the number of mappings that a recursive walk
-- yields before it fails
-- in a document that is too deep for it.
variable (jsonLoads : String → Collected Value) (normalized : Value → Collected String)
  (walkLimit : Value → Option ℕ)
-- `str(ipaddress.ip_network(prefix, strict=True)) == prefix`
variable (isCanonicalNetwork : String → Bool)
-- What a command prints in a container, or how it fails.
variable (run : String → List String → Collected String)

def loadJson (output : String) : Collected Value :=
  match jsonLoads output with
  | .error .jsonDecodeError => .error (.valueError "telemetry command returned invalid JSON")
  | result => result

def state (value : Value) (upValue : String) : Collected TelemetryState := do
  let text ← normalized value
  return if upValue.toList.isPrefixOf text.toList then .up else if text = "" ∨ text = "unknown" then
    .unknown else .down

def observeInterface (items : List Value) (name : String) : Collected InterfaceTelemetry :=
  match (items.map mapping).reverse.find? fun entry => (entry.getD "ifname" .null).hasText name with
  | none => InterfaceTelemetry.init name .unknown 0 0 0 0
  | some entry => do
    let stats := mapping (entry.getD "stats64" .null)
    let rx := mapping (stats.getD "rx" .null)
    let tx := mapping (stats.getD "tx" .null)
    InterfaceTelemetry.init name (← state normalized (entry.getD "operstate" .null) "up")
      (nonnegativeInt (rx.getD "bytes" .null)) (nonnegativeInt (tx.getD "bytes" .null))
      (nonnegativeInt (rx.getD "dropped" .null)) (nonnegativeInt (tx.getD "dropped" .null))

def parseInterfaceTelemetry (output : String) (expectedInterfaces : List String) :
    Collected (List InterfaceTelemetry) := do
  match ← loadJson jsonLoads output with
  | .list items => expectedInterfaces.mapM (observeInterface normalized items)
  | _ => .error (.valueError "interface telemetry must be a JSON array")

def stateOf (states : List (String × TelemetryState)) (interface : String) : Option TelemetryState :=
  (states.find? fun entry => entry.1 = interface).map Prod.snd

/-- `states_by_interface[interface] = ...`, unless the interface is unexpected or a duplicate. -/
def recordState (expectedPeers : List BoundTelemetryPeer) (states : List (String × TelemetryState))
    (interface : String) (state : Collected TelemetryState) : Collected (List (String × TelemetryState)) :=
  if interface ∉ expectedPeers.map BoundTelemetryPeer.interface then
    .error (.valueError s!"unexpected protocol interface: {interface}")
  else if (stateOf states interface).isSome then
    .error (.valueError s!"duplicate protocol interface: {interface}")
  else state.map fun state => states ++ [(interface, state)]

def ospfEntry (expectedPeers : List BoundTelemetryPeer) (states : List (String × TelemetryState))
    (entry : Value) :
    Collected (List (String × TelemetryState)) :=
  match (entry.getD "ifaceName" .null).text with
  | none => .ok states
  | some rawInterface =>
    if rawInterface = "" then .ok states
    else
      recordState expectedPeers states (String.ofList (before ':' rawInterface.toList))
        (state normalized (entry.getD "converged" (entry.getD "nbrState" .null)) "full")

def parseOspfNeighbors (output : String) (expectedPeers : List BoundTelemetryPeer) :
    Collected (List OspfNeighborTelemetry) := do
  let document := mapping (← loadJson jsonLoads output)
  let neighbors := mapping (document.getD "neighbors" .null)
  let entries := neighbors.entries.flatMap fun entry => (sequence entry.2).map mapping
  let states ← entries.foldlM (ospfEntry normalized expectedPeers) []
  expectedPeers.mapM fun expected =>
    OspfNeighborTelemetry.init expected.peer expected.interface
      ((stateOf states expected.interface).getD .down)

def bfdEntry (expectedPeers : List BoundTelemetryPeer) (states : List (String × TelemetryState))
    (entry : Value) :
    Collected (List (String × TelemetryState)) :=
  match (entry.getD "interface" .null).text with
  | none => .ok states
  | some interface =>
    if has entry "peer" || has entry "status" then
      recordState expectedPeers states interface (state normalized (entry.getD "status" .null) "up")
    else .ok states

def parseBfdPeers (output : String) (expectedPeers : List BoundTelemetryPeer) :
    Collected (List BfdPeerTelemetry) := do
  let document ← loadJson jsonLoads output
  match walkLimit document with
  | some limit => do
    let _ ← ((walkMappings document).take limit).foldlM (bfdEntry normalized expectedPeers) []
    .error .other
  | none => do
    let states ← (walkMappings document).foldlM (bfdEntry normalized expectedPeers) []
    expectedPeers.mapM fun expected =>
      BfdPeerTelemetry.init expected.peer expected.interface (stateOf states expected.interface).isSome
        ((stateOf states expected.interface).getD .unknown)

def isSelected (candidate : Value) : Bool :=
  (candidate.getD "selected" .null).isTrue && (candidate.getD "installed" .null).isTrue

def routeMetric : Value → Option ℕ
  | .int n => if 0 ≤ n then some n.toNat else none
  | _ => none

def egressInterface (nextHop : Value) : Option String :=
  if (nextHop.getD "active" .null).isTrue && (nextHop.getD "fib" .null).isTrue then
    (nextHop.getD "interfaceName" .null).text
  else none

def parseSelectedRoute (output routePrefix : String) : Collected RouteTelemetry := do
  let document := mapping (← loadJson jsonLoads output)
  let entries := (sequence (document.getD routePrefix .null)).map mapping
  match entries.find? isSelected with
  | none => RouteTelemetry.init isCanonicalNetwork routePrefix false none none
  | some selected =>
    RouteTelemetry.init isCanonicalNetwork routePrefix true (routeMetric (selected.getD "metric" .null))
      (((sequence (selected.getD "nexthops" .null)).map mapping).findSome? egressInterface)

/-- The observations of a router, in the `try` block of `collect_router`. -/
structure Observations where
  interfaces : List InterfaceTelemetry
  ospfNeighbors : List OspfNeighborTelemetry
  bfdPeers : List BfdPeerTelemetry
  route : RouteTelemetry

def observe (target : BoundTelemetryTarget) (servicePrefix : String) : Collected Observations := do
  let interfaces ← parseInterfaceTelemetry jsonLoads normalized (← run target.container interfaceCommand)
    target.interfaces
  let ospfNeighbors ← parseOspfNeighbors jsonLoads normalized (← run target.container ospfCommand)
    target.protocolPeers
  let bfdPeers ← parseBfdPeers jsonLoads normalized walkLimit (← run target.container bfdCommand)
    target.protocolPeers
  let route ← parseSelectedRoute jsonLoads isCanonicalNetwork
    (← run target.container ["vtysh", "-c", s!"show ip route {servicePrefix} json"]) servicePrefix
  return ⟨interfaces, ospfNeighbors, bfdPeers, route⟩

def collectRouter (target : BoundTelemetryTarget) (servicePrefix : String) : Collected RouterTelemetry :=
  match observe jsonLoads normalized walkLimit isCanonicalNetwork run target servicePrefix with
  | .ok observations =>
    RouterTelemetry.observed target.node observations.interfaces observations.ospfNeighbors
      observations.bfdPeers [observations.route]
  | .error .timeoutExpired => failedRouterTelemetry target.node "collection timed out"
  | .error .calledProcessError => failedRouterTelemetry target.node "collection command failed"
  | .error .other => .error .other
  | .error _ => failedRouterTelemetry target.node "invalid telemetry response"

def isolateRouter (target : BoundTelemetryTarget) (servicePrefix : String) : Collected RouterTelemetry :=
  match collectRouter jsonLoads normalized walkLimit isCanonicalNetwork run target servicePrefix with
  | .ok router => .ok router
  | .error _ => failedRouterTelemetry target.node "collector error"

def collectSnapshot (binding : TelemetryTopologyBinding) (snapshotId : String) (observedAt : DateTime) :
    Collected TelemetrySnapshot := do
  let routers ← binding.targets.mapM
    (isolateRouter jsonLoads normalized walkLimit isCanonicalNetwork run · binding.config.servicePrefix)
  TelemetrySnapshot.init snapshotId observedAt binding.fingerprint routers

end

end TelemetryCollector

end TelconetSentinel

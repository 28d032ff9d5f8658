import TelconetSentinel.ContainerlabLinks
import TelconetSentinel.Intent
import TelconetSentinel.TelemetryConfig

namespace TelconetSentinel

open DocumentValues FallibleLists KeyedLists

def BoundTelemetryPeer.init (peer interface : String) : Result BoundTelemetryPeer :=
  if h : isTelemetryIdentifier 127 peer ∧ isTelemetryIdentifier 127 interface then
    .ok ⟨peer, interface, h.1, h.2⟩
  else .error (.valueError "validation error for BoundTelemetryPeer")

def BoundTelemetryTarget.init (node container : String) (role : NodeRole) (interfaces : List String)
    (protocolPeers : List BoundTelemetryPeer) : Result BoundTelemetryTarget :=
  if h : isTelemetryIdentifier 127 node ∧ isTelemetryIdentifier 127 container ∧
      (∀ interface ∈ interfaces, isTelemetryIdentifier 127 interface) ∧
      1 ≤ interfaces.length ∧ interfaces.length ≤ 64 ∧ protocolPeers.length ≤ 64 then
    if hinterfaces : interfaces.Nodup then
      if hpeers : (protocolPeers.map fun peer => (peer.peer, peer.interface)).Nodup then
        if hknown : ∀ peer ∈ protocolPeers, peer.interface ∈ interfaces then
          .ok ⟨node, container, role, interfaces, protocolPeers, h.1, h.2.1, h.2.2.1, h.2.2.2, hinterfaces,
            hpeers, hknown⟩
        else .error (.valueError "bound protocol peer references unknown interface")
      else .error (.valueError "bound target protocol peers must be unique")
    else .error (.valueError "bound target interfaces must be unique")
  else .error (.valueError "validation error for BoundTelemetryTarget")

def TelemetryLink.init (id source sourceInterface target targetInterface : String) : Result TelemetryLink :=
  if h : ∀ text ∈ [id, source, sourceInterface, target, targetInterface], isTelemetryIdentifier 127 text then
    .ok ⟨id, source, sourceInterface, target, targetInterface, h⟩
  else .error (.valueError "validation error for TelemetryLink")

def TelemetryTopologyBinding.init (config : TelemetryConfig) (fingerprint : String)
    (targets : List BoundTelemetryTarget) (links : List TelemetryLink) : Result TelemetryTopologyBinding :=
  if h : isSha256 fingerprint ∧ targets.length = 6 ∧ 1 ≤ links.length ∧ links.length ≤ 64 then
    .ok ⟨config, fingerprint, targets, links, h.1, h.2.1, h.2.2⟩
  else .error (.valueError "validation error for TelemetryTopologyBinding")

namespace TelemetryBinding

def mapping (value : Value) (context : String) : Result Value :=
  match value with
  | .dict entries =>
    if entries.all fun entry => entry.1.text.isSome then .ok (.dict entries)
    else .error (.valueError s!"{context} keys must be strings")
  | _ => .error (.valueError s!"{context} must be a mapping")

def sequence (value : Value) (context : String) : Result (List Value) :=
  match value with
  | .list items => .ok items
  | _ => .error (.valueError s!"{context} must be a list")

structure ClabTopology where
  name : String
  nodes : List String
  links : LabLinks

structure ClabLinks where
  usedInterfaces : List (String × String)
  linksByPair : LabLinks

def useEndpoint (nodes : List String) (used : List (String × String)) (endpoint : String × String) :
    Result (List (String × String)) :=
  if endpoint.1 ∉ nodes then
    .error (.valueError s!"containerlab link references unknown node: {endpoint.1}")
  else if ∃ other ∈ used, other = endpoint then
    .error (.valueError s!"containerlab interface is used by multiple links: {endpoint.1}:{endpoint.2}")
  else .ok (endpoint :: used)

section

-- `repr`
variable (pyRepr : Value → String)

def parseEndpoint (value : Value) : Result (String × String) :=
  match value.text.map fun text => text.toList.splitOn ':' with
  | some [node, interface] =>
    if node = [] ∨ interface = [] then .error (.valueError s!"invalid containerlab endpoint: {pyRepr value}")
    else .ok (String.ofList node, String.ofList interface)
  | _ => .error (.valueError s!"invalid containerlab endpoint: {pyRepr value}")

def addLink (nodes : List String) (state : ClabLinks) (entry : Value × ℕ) : Result ClabLinks := do
  let link ← mapping entry.1 s!"containerlab link {entry.2}"
  let endpoints ← sequence (link.getD "endpoints" .null) s!"containerlab link {entry.2} endpoints"
  match endpoints with
  | [firstValue, secondValue] => do
    let first ← parseEndpoint pyRepr firstValue
    let second ← parseEndpoint pyRepr secondValue
    let used ← [first, second].foldlM (useEndpoint nodes) state.usedInterfaces
    if h : first.1 = second.1 then
      .error (.valueError "containerlab node pairs must be unique and non-reflexive")
    else
      let ends : LabLink := ⟨first, second, h⟩
      if ∃ pair ∈ state.linksByPair.keys, pair = ends.pair then
        .error (.valueError "containerlab node pairs must be unique and non-reflexive")
      else .ok ⟨used, state.linksByPair.assign ends⟩
  | _ => .error (.valueError "containerlab links must contain exactly two endpoints")

def loadClabTopology (clabDocument : Value) : Result ClabTopology := do
  let document ← mapping clabDocument "containerlab document"
  match (document.getD "name" .null).text with
  | none => .error (.valueError "containerlab name must be a non-empty string")
  | some name =>
    if name = "" then .error (.valueError "containerlab name must be a non-empty string")
    else do
      let topology ← mapping (document.getD "topology" .null) "containerlab topology"
      let nodeDocument ← mapping (topology.getD "nodes" .null) "containerlab nodes"
      let nodes := nodeDocument.entries.filterMap fun entry => entry.1.text
      let links ← sequence (topology.getD "links" .null) "containerlab links"
      let state ← (links.zipIdx 1).foldlM (addLink pyRepr nodes) ⟨[], Dict.empty LabLink.pair⟩
      return ⟨name, nodes, state.linksByPair⟩

end

def checkContainer (clabName : String) (target : TelemetryTarget) : Result Unit :=
  let expected := s!"clab-{clabName}-{target.node}"
  if target.container ≠ expected then
    .error (.valueError s!"telemetry container name for {target.node} must be {expected}")
  else .ok ()

def undeclaredPairs (intent : NetworkIntent) (links : LabLinks) : List (List String) :=
  let undeclared := links.values.filter fun ends => ends.first.1 ∈ intent.nodes.keys ∧
    ends.second.1 ∈ intent.nodes.keys ∧ ∀ link ∈ intent.links, s(link.endpoints.1, link.endpoints.2) ≠
    ends.pair
  (undeclared.map fun ends => sorted [ends.first.1, ends.second.1]).insertionSort fun a b => a ≤ b

def bindLink (links : LabLinks) (link : LinkIntent) : Result TelemetryLink :=
  match links.get s(link.endpoints.1, link.endpoints.2) with
  | none => .error (.valueError s!"intent link missing from containerlab: {link.id}")
  | some ends =>
    match ends.interfaceOf link.endpoints.1, ends.interfaceOf link.endpoints.2 with
    | some sourceInterface, some targetInterface =>
      TelemetryLink.init link.id link.endpoints.1 sourceInterface link.endpoints.2 targetInterface
    | none, _ => .error (.keyError link.endpoints.1)
    | _, none => .error (.keyError link.endpoints.2)

def protocolPeers (targetNodes : List String) (links : List TelemetryLink) (node : String) :
    Result (List BoundTelemetryPeer) :=
  let peers := links.flatMap fun link =>
    if link.source ∈ targetNodes ∧ link.target ∈ targetNodes then
      (if link.source = node then [(link.target, link.sourceInterface)] else []) ++
        if link.target = node then [(link.source, link.targetInterface)] else []
    else []
  peers.mapM fun peer => BoundTelemetryPeer.init peer.1 peer.2

def peerKey (peer : BoundTelemetryPeer) : String ×ₗ String := toLex (peer.interface, peer.peer)

def bindTarget (intent : NetworkIntent) (clab : LabLinks) (targetNodes : List String)
    (links : List TelemetryLink) (target : TelemetryTarget) : Result BoundTelemetryTarget := do
  match intent.nodes.get target.node with
  | none => .error (.keyError target.node)
  | some node =>
    let peers ← protocolPeers targetNodes links target.node
    BoundTelemetryTarget.init target.node target.container node.2.role
      (sorted (clab.values.filterMap fun ends => ends.interfaceOf target.node).dedup)
      (peers.insertionSort fun a b => peerKey a ≤ peerKey b)

/-- `load_telemetry_binding`, for the validated configuration and intent, the containerlab document and the
fingerprint of the three files. -/
def loadTelemetryBinding (pyRepr : Value → String) (config : TelemetryConfig) (intent : NetworkIntent)
    (clabDocument : Value) (fingerprint : String) : Result TelemetryTopologyBinding := do
  let clab ← loadClabTopology pyRepr clabDocument
  let targetNodes := config.routers.map TelemetryTarget.node
  let missingFromIntent := targetNodes.filter (· ∉ intent.nodes.keys)
  let missingFromClab := targetNodes.filter (· ∉ clab.nodes)
  if missingFromIntent ≠ [] then
    .error (.valueError s!"telemetry targets missing from intent: {commaSeparated (sorted missingFromIntent)}")
  else if missingFromClab ≠ [] then
    .error (.valueError s!"telemetry targets missing from containerlab: {commaSeparated (sorted missingFromClab)}")
  else do
    config.routers.forM (checkContainer clab.name)
    let owners := intent.nodes.values.filter fun node => config.servicePrefix ∈ node.2.prefixes
    if owners.map Prod.fst ≠ ["service-host"] then
      .error (.valueError "telemetry service_prefix must be owned by service-host in network intent")
    else
      let undeclared := undeclaredPairs intent clab.links
      if undeclared ≠ [] then
        let rendered := commaSeparated (undeclared.map fun pair => String.intercalate "--" pair)
        .error (.valueError s!"containerlab managed link not declared in intent: {rendered}")
      else do
        let links ← intent.links.mapM (bindLink clab.links)
        let targets ← config.routers.mapM (bindTarget intent clab.links targetNodes links)
        TelemetryTopologyBinding.init config fingerprint targets links

end TelemetryBinding

end TelconetSentinel

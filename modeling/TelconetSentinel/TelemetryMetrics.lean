import TelconetSentinel.BoundPeers

namespace TelconetSentinel

open FallibleLists KeyedLists

inductive Metric
  | snapshotTimestamp
  | collectionSuccess
  | interfaceOperUp
  | receiveBytes
  | transmitBytes
  | receiveDrops
  | transmitDrops
  | ospfNeighborFull
  | bfdPeerConfigured
  | bfdPeerUp
  | routePresent
  | routeMetric
  | routeEgress
  | nodeInfo
  | linkOperUp
  deriving DecidableEq, Repr

namespace Metric

def entry : Metric → String × String × String
  | snapshotTimestamp =>
    ("telconet_telemetry_snapshot_timestamp_seconds",
      "Unix timestamp of the latest validated telemetry snapshot.",
      "gauge")
  | collectionSuccess =>
    ("telconet_router_collection_success", "Whether telemetry collection succeeded for the router.", "gauge")
  | interfaceOperUp =>
    ("telconet_interface_oper_up", "Interface operational state: up=1, down=0, unknown=-1.", "gauge")
  | receiveBytes => ("telconet_interface_receive_bytes_total", "Bytes received by the interface.", "counter")
  | transmitBytes => ("telconet_interface_transmit_bytes_total", "Bytes transmitted by the interface.",
    "counter")
  | receiveDrops =>
    ("telconet_interface_receive_drops_total", "Packets dropped while receiving on the interface.", "counter")
  | transmitDrops =>
    ("telconet_interface_transmit_drops_total", "Packets dropped while transmitting on the interface.",
      "counter")
  | ospfNeighborFull =>
    ("telconet_ospf_neighbor_full", "OSPF neighbor state: full=1, down=0, unknown=-1.", "gauge")
  | bfdPeerConfigured => ("telconet_bfd_peer_configured", "Whether BFD is configured for the peer.", "gauge")
  | bfdPeerUp =>
    ("telconet_bfd_peer_up", "Configured BFD peer state: up=1, down=0, unknown or absent=-1.", "gauge")
  | routePresent =>
    ("telconet_selected_route_present", "Whether the selected service route is present.", "gauge")
  | routeMetric => ("telconet_selected_route_metric", "Metric of the selected service route.", "gauge")
  | routeEgress => ("telconet_selected_route_egress", "Selected egress link for the service route.", "gauge")
  | nodeInfo =>
    ("telconet_topology_node_info", "Static node and role information from validated topology binding.",
      "gauge")
  | linkOperUp =>
    ("telconet_topology_link_oper_up", "Combined endpoint state: up=1, down=0, unknown=-1.", "gauge")

def name (metric : Metric) : String := metric.entry.1

def all : List Metric := [snapshotTimestamp, collectionSuccess, interfaceOperUp, receiveBytes, transmitBytes,
    receiveDrops,
  transmitDrops, ospfNeighborFull, bfdPeerConfigured, bfdPeerUp, routePresent, routeMetric, routeEgress,
  nodeInfo, linkOperUp]

theorem name_injective : Function.Injective name := by
  have hall : ∀ a ∈ all, ∀ b ∈ all, a.name = b.name → a = b := by decide +kernel
  have hmem : ∀ a, a ∈ all := by
    intro a
    cases a <;> decide
  exact fun a b h => hall a (hmem a) b (hmem b) h

def headerLines (metric : Metric) : List String :=
  [s!"# HELP {metric.name} {metric.entry.2.1}", s!"# TYPE {metric.name} {metric.entry.2.2}"]

end Metric

namespace TelemetryMetrics

def replaceChar (c : Char) (replacement : List Char) (text : List Char) : List Char :=
  text.flatMap fun d => if d = c then replacement else [d]

def escapeLabel (value : String) : String :=
  String.ofList (replaceChar '"' ['\\', '"']
    (replaceChar '\n' ['\\', 'n'] (replaceChar '\\' ['\\', '\\'] value.toList)))

def labelText (items : List (String × String)) : String :=
  "\x7b" ++ String.intercalate "," (items.map fun item => item.1 ++ "=\"" ++ escapeLabel item.2 ++ "\"") ++
    "\x7d"

structure Sample where
  metric : Metric
  labels : List (String × String)
  value : String
  deriving DecidableEq, Repr

namespace Sample

def series (sample : Sample) : String × Finset (String × String) :=
  (sample.metric.name, sample.labels.toFinset)

/-- Only the timestamp is written without labels. -/
def line (sample : Sample) : String :=
  sample.metric.name ++ (if sample.labels = [] then "" else labelText sample.labels) ++ " " ++ sample.value

end Sample

def stateValue : TelemetryState → ℤ
  | .up => 1
  | .down => 0
  | .unknown => -1

def flag (b : Bool) : String := if b then "1" else "0"

def routerMap (snapshot : TelemetrySnapshot) : Dict RouterTelemetry.name :=
  snapshot.routers.foldl Dict.assign (Dict.empty RouterTelemetry.name)

def interfaceState (routers : Dict RouterTelemetry.name) (node interfaceName : String) : TelemetryState :=
  match routers.get node with
  | none => .unknown
  | some router =>
    if router.collectionSuccess then
      match router.interfaces.find? fun interface => interface.name = interfaceName with
      | some interface => interface.state
      | none => .unknown
    else .unknown

def linkState (source target : TelemetryState) : ℤ :=
  if source = .down ∨ target = .down then 0 else if source = .up ∧ target = .up then 1 else -1

/-- `interface_link_id(...) or "unmanaged"` -/
def linkLabel (binding : TelemetryTopologyBinding) (node interface : String) : String :=
  match binding.interfaceLinkId node interface with
  | some id => if id = "" then "unmanaged" else id
  | none => "unmanaged"

def nodeInfoSample (target : BoundTelemetryTarget) : Sample :=
  ⟨.nodeInfo, [("node", target.node), ("role", target.role.value)], "1"⟩

def interfaceSamples (binding : TelemetryTopologyBinding) (node : String) (interface : InterfaceTelemetry) :
    List Sample :=
  let labels := [("node", node), ("interface", interface.name),
    ("link_id", linkLabel binding node interface.name)]
  [⟨.interfaceOperUp, labels, toString (stateValue interface.state)⟩,
    ⟨.receiveBytes, labels, toString interface.rxBytes⟩, ⟨.transmitBytes, labels, toString interface.txBytes⟩,
    ⟨.receiveDrops, labels, toString interface.rxDrops⟩, ⟨.transmitDrops, labels, toString interface.txDrops⟩]

def ospfSample (node : String) (neighbor : OspfNeighborTelemetry) : Sample :=
  ⟨.ospfNeighborFull, [("node", node), ("neighbor", neighbor.neighbor), ("interface", neighbor.interface)],
    toString (stateValue neighbor.state)⟩

def bfdSamples (node : String) (peer : BfdPeerTelemetry) : List Sample :=
  let labels := [("node", node), ("peer", peer.peer), ("interface", peer.interface)]
  [⟨.bfdPeerConfigured, labels, flag peer.configured⟩, ⟨.bfdPeerUp, labels, toString (stateValue peer.state)⟩]

def routeSamples (binding : TelemetryTopologyBinding) (node : String) (route : RouteTelemetry) :
    Result (List Sample) :=
  let routeLabels := [("node", node), ("prefix", route.routePrefix)]
  let present : Sample := ⟨.routePresent, routeLabels, flag route.present⟩
  if route.present then
    match route.metric, route.egressInterface with
    | some metric, some egressInterface =>
      .ok [present, ⟨.routeMetric, routeLabels, toString metric⟩,
        ⟨.routeEgress, routeLabels ++ [("link_id", linkLabel binding node egressInterface)], "1"⟩]
    | _, _ => .error .assertionError
  else .ok [present]

def routerSamples (binding : TelemetryTopologyBinding) (router : RouterTelemetry) : Result (List Sample) := do
  let interfaces := router.interfaces.insertionSort fun a b => a.name ≤ b.name
  let neighbors := router.ospfNeighbors.insertionSort fun a b =>
    toLex (a.neighbor, a.interface) ≤ toLex (b.neighbor, b.interface)
  let peers := router.bfdPeers.insertionSort fun a b => toLex (a.peer, a.interface) ≤
    toLex (b.peer, b.interface)
  let routes ← (router.routes.insertionSort fun a b => a.routePrefix ≤ b.routePrefix).mapM
    (routeSamples binding router.name)
  return ⟨.collectionSuccess, [("node", router.name)], flag router.collectionSuccess⟩ ::
    (interfaces.flatMap (interfaceSamples binding router.name) ++ neighbors.map (ospfSample router.name) ++
      peers.flatMap (bfdSamples router.name) ++ routes.flatten)

def targetSamples (binding : TelemetryTopologyBinding) (routers : Dict RouterTelemetry.name)
    (target : BoundTelemetryTarget) : Result (List Sample) :=
  match routers.get target.node with
  | some router => routerSamples binding router
  | none => .error (.keyError target.node)

def linkSample (routers : Dict RouterTelemetry.name) (link : TelemetryLink) : Option Sample :=
  if link.source ∉ routers.keys ∨ link.target ∉ routers.keys then none
  else
    let sourceState := interfaceState routers link.source link.sourceInterface
    let targetState := interfaceState routers link.target link.targetInterface
    some ⟨.linkOperUp, [("link_id", link.id), ("source", link.source), ("target", link.target)],
      toString (linkState sourceState targetState)⟩

-- `f"{observed_at.timestamp():.6f}".rstrip("0").rstrip(".")`
variable (timestampText : DateTime → String)

def snapshotSamples (snapshot : TelemetrySnapshot) (binding : TelemetryTopologyBinding) :
    Result (List Sample) := do
  validateTelemetrySnapshot snapshot binding
  let routers := routerMap snapshot
  let observed ← binding.targets.mapM (targetSamples binding routers)
  return ⟨.snapshotTimestamp, [], timestampText snapshot.observedAt⟩ ::
    (observed.flatten ++ binding.links.filterMap (linkSample routers))

def exposition (samples : List Sample) : String :=
  String.intercalate "\n" (Metric.all.flatMap Metric.headerLines ++ samples.map Sample.line) ++ "\n"

def renderTelemetryMetrics (snapshot : Option TelemetrySnapshot) (binding : TelemetryTopologyBinding) :
    Result String := do
  let static := binding.targets.map nodeInfoSample
  match snapshot with
  | none => return exposition static
  | some snapshot => do
    let samples ← snapshotSamples timestampText snapshot binding
    return exposition (static ++ samples)

end TelemetryMetrics

end TelconetSentinel

import TelconetSentinel.Library.FallibleLists
import TelconetSentinel.TelemetryModels

namespace TelconetSentinel

open FallibleLists

structure TelemetryTarget where
  node : String
  container : String
  node_valid : isTelemetryIdentifier 127 node
  container_valid : isTelemetryIdentifier 127 container
  deriving DecidableEq

structure TelemetryConfig where
  version : ℤ
  pollIntervalSeconds : ℤ
  servicePrefix : String
  routers : List TelemetryTarget
  version_valid : version = 1
  poll_valid : 1 ≤ pollIntervalSeconds ∧ pollIntervalSeconds ≤ 60
  prefix_length : 3 ≤ servicePrefix.length ∧ servicePrefix.length ≤ 64
  nodes_unique : (routers.map TelemetryTarget.node).Nodup
  containers_unique : (routers.map TelemetryTarget.container).Nodup
  nodes_baseline : (routers.map TelemetryTarget.node).toFinset = baselineRouters.toFinset

structure BoundTelemetryPeer where
  peer : String
  interface : String
  peer_valid : isTelemetryIdentifier 127 peer
  interface_valid : isTelemetryIdentifier 127 interface
  deriving DecidableEq

structure BoundTelemetryTarget where
  node : String
  container : String
  role : NodeRole
  interfaces : List String
  protocolPeers : List BoundTelemetryPeer
  node_valid : isTelemetryIdentifier 127 node
  container_valid : isTelemetryIdentifier 127 container
  interfaces_valid : ∀ interface ∈ interfaces, isTelemetryIdentifier 127 interface
  lengths : 1 ≤ interfaces.length ∧ interfaces.length ≤ 64 ∧ protocolPeers.length ≤ 64
  interfaces_unique : interfaces.Nodup
  peers_unique : (protocolPeers.map fun peer => (peer.peer, peer.interface)).Nodup
  peers_known : ∀ peer ∈ protocolPeers, peer.interface ∈ interfaces
  deriving DecidableEq

structure TelemetryLink where
  id : String
  source : String
  sourceInterface : String
  target : String
  targetInterface : String
  identifiers : ∀ text ∈ [id, source, sourceInterface, target, targetInterface],
    isTelemetryIdentifier 127 text
  deriving DecidableEq

structure TelemetryTopologyBinding where
  config : TelemetryConfig
  fingerprint : String
  targets : List BoundTelemetryTarget
  links : List TelemetryLink
  fingerprint_valid : isSha256 fingerprint
  targets_length : targets.length = 6
  links_length : 1 ≤ links.length ∧ links.length ≤ 64

def telemetryMaxFutureSkewSeconds : ℕ := 60

/-- `targets[name]` of the dictionary over the targets. Where a node occurs twice the last target counts. -/
def TelemetryTopologyBinding.boundTarget (binding : TelemetryTopologyBinding) (name : String) :
    Result BoundTelemetryTarget :=
  match binding.targets.reverse.find? fun target => target.node = name with
  | some target => .ok target
  | none => .error (.keyError name)

def peerKeys (target : BoundTelemetryTarget) : Finset (String × String) :=
  (target.protocolPeers.map fun peer => (peer.peer, peer.interface)).toFinset

def checkRouter (servicePrefix : String) (target : BoundTelemetryTarget) (router : RouterTelemetry) :
    Result Unit :=
  let observed := router.interfaces.map InterfaceTelemetry.name
  let unexpected := observed.filter (· ∉ target.interfaces)
  let observedOspf := router.ospfNeighbors.map fun neighbor => (neighbor.neighbor, neighbor.interface)
  let observedBfd := router.bfdPeers.map fun peer => (peer.peer, peer.interface)
  if unexpected ≠ [] then
    .error (.valueError
      s!"telemetry snapshot contains interfaces outside topology binding for {router.name}: {commaSeparated (sorted unexpected)}")
  else if router.collectionSuccess ∧ observed.toFinset ≠ target.interfaces.toFinset then
    .error (.valueError
      s!"successful telemetry collection for {router.name} must contain the complete bound interface set")
  else if ∃ route ∈ router.routes, route.routePrefix ≠ servicePrefix then
    .error (.valueError "telemetry snapshot contains routes outside service prefix allowlist")
  else if router.collectionSuccess ∧ router.routes.length ≠ 1 then
    .error (.valueError
      s!"successful telemetry collection for {router.name} must contain exactly one service route observation")
  else if router.collectionSuccess ∧ observedOspf.toFinset ≠ peerKeys target then
    .error (.valueError
      s!"successful telemetry collection for {router.name} must contain the complete topology-bound OSPF peer set")
  else if router.collectionSuccess ∧ observedBfd.toFinset ≠ peerKeys target then
    .error (.valueError
      s!"successful telemetry collection for {router.name} must contain the complete topology-bound BFD peer set")
  else .ok ()

def validateRouter (binding : TelemetryTopologyBinding) (router : RouterTelemetry) : Result Unit := do
  let target ← binding.boundTarget router.name
  checkRouter binding.config.servicePrefix target router

def validateTelemetrySnapshot (snapshot : TelemetrySnapshot) (binding : TelemetryTopologyBinding) :
    Result Unit :=
  if snapshot.topologyFingerprint ≠ binding.fingerprint then
    .error (.valueError "telemetry snapshot topology fingerprint does not match binding")
  else snapshot.routers.forM (validateRouter binding)

/-- The clock is read in UTC. -/
def validateTelemetryIngest (snapshot : TelemetrySnapshot) (binding : TelemetryTopologyBinding)
    (serverNow : DateTime) : Result Unit := do
  let futureLimit ← serverNow.plusSeconds telemetryMaxFutureSkewSeconds
  if futureLimit < snapshot.observedAt.microseconds then
    .error (.valueError "telemetry snapshot exceeds allowed future skew")
  else validateTelemetrySnapshot snapshot binding

def WithinSkew (snapshot : TelemetrySnapshot) (serverNow : DateTime) : Prop :=
  ∃ limit, serverNow.plusSeconds telemetryMaxFutureSkewSeconds = .ok limit ∧
    snapshot.observedAt.microseconds ≤ limit

theorem validateTelemetryIngest_ok_iff (snapshot : TelemetrySnapshot) (binding : TelemetryTopologyBinding)
    (serverNow : DateTime) : validateTelemetryIngest snapshot binding serverNow = .ok () ↔
      WithinSkew snapshot serverNow ∧ validateTelemetrySnapshot snapshot binding = .ok () := by
  rw [validateTelemetryIngest, bind_ok_iff]
  constructor
  · rintro ⟨limit, hlimit, h⟩
    split_ifs at h with hskew
    exact ⟨⟨limit, hlimit, not_lt.mp hskew⟩, h⟩
  · rintro ⟨⟨limit, hlimit, hskew⟩, h⟩
    exact ⟨limit, hlimit, (if_neg (not_lt.mpr hskew)).trans h⟩

theorem validateTelemetrySnapshot_fingerprint {snapshot : TelemetrySnapshot}
    {binding : TelemetryTopologyBinding} (h : validateTelemetrySnapshot snapshot binding = .ok ()) :
    snapshot.topologyFingerprint = binding.fingerprint := by
  unfold validateTelemetrySnapshot at h
  split_ifs at h with hne
  exact not_not.mp hne

def labTargets : List BoundTelemetryTarget := [
  ⟨"access1", "clab-telconet-sentinel-access1", .access, ["eth1", "eth2", "eth3"],
    [⟨"agg1", "eth1", by decide, by decide⟩, ⟨"agg2", "eth2", by decide, by decide⟩],
    by decide, by decide, by decide, by decide, by decide, by decide, by decide⟩,
  ⟨"access2", "clab-telconet-sentinel-access2", .access, ["eth1", "eth2", "eth3"],
    [⟨"agg1", "eth1", by decide, by decide⟩, ⟨"agg2", "eth2", by decide, by decide⟩],
    by decide, by decide, by decide, by decide, by decide, by decide, by decide⟩,
  ⟨"agg1", "clab-telconet-sentinel-agg1", .aggregation, ["eth1", "eth2", "eth3", "eth4"],
    [⟨"access1", "eth1", by decide, by decide⟩, ⟨"access2", "eth2", by decide, by decide⟩,
      ⟨"core1", "eth3", by decide, by decide⟩, ⟨"core2", "eth4", by decide, by decide⟩],
    by decide, by decide, by decide, by decide, by decide, by decide, by decide⟩,
  ⟨"agg2", "clab-telconet-sentinel-agg2", .aggregation, ["eth1", "eth2", "eth3", "eth4"],
    [⟨"access1", "eth1", by decide, by decide⟩, ⟨"access2", "eth2", by decide, by decide⟩,
      ⟨"core1", "eth3", by decide, by decide⟩, ⟨"core2", "eth4", by decide, by decide⟩],
    by decide, by decide, by decide, by decide, by decide, by decide, by decide⟩,
  ⟨"core1", "clab-telconet-sentinel-core1", .core, ["eth1", "eth2", "eth3", "eth4"],
    [⟨"agg1", "eth1", by decide, by decide⟩, ⟨"agg2", "eth2", by decide, by decide⟩,
      ⟨"core2", "eth3", by decide, by decide⟩],
    by decide, by decide, by decide, by decide, by decide, by decide, by decide⟩,
  ⟨"core2", "clab-telconet-sentinel-core2", .core, ["eth1", "eth2", "eth3"],
    [⟨"agg1", "eth1", by decide, by decide⟩, ⟨"agg2", "eth2", by decide, by decide⟩,
      ⟨"core1", "eth3", by decide, by decide⟩],
    by decide, by decide, by decide, by decide, by decide, by decide, by decide⟩]

def labBinding : TelemetryTopologyBinding where
  config := {
    version := 1
    pollIntervalSeconds := 1
    servicePrefix := "10.20.0.0/24"
    routers := [
      ⟨"access1", "clab-telconet-sentinel-access1", by decide, by decide⟩,
      ⟨"access2", "clab-telconet-sentinel-access2", by decide, by decide⟩,
      ⟨"agg1", "clab-telconet-sentinel-agg1", by decide, by decide⟩,
      ⟨"agg2", "clab-telconet-sentinel-agg2", by decide, by decide⟩,
      ⟨"core1", "clab-telconet-sentinel-core1", by decide, by decide⟩,
      ⟨"core2", "clab-telconet-sentinel-core2", by decide, by decide⟩]
    version_valid := rfl
    poll_valid := by decide
    prefix_length := by decide
    nodes_unique := by decide
    containers_unique := by decide
    nodes_baseline := by decide }
  fingerprint := labFingerprint
  targets := labTargets
  links := [
    ⟨"access1--agg1", "access1", "eth1", "agg1", "eth1", by decide⟩,
    ⟨"access1--agg2", "access1", "eth2", "agg2", "eth1", by decide⟩,
    ⟨"access2--agg1", "access2", "eth1", "agg1", "eth2", by decide⟩,
    ⟨"access2--agg2", "access2", "eth2", "agg2", "eth2", by decide⟩,
    ⟨"agg1--core1", "agg1", "eth3", "core1", "eth1", by decide⟩,
    ⟨"agg1--core2", "agg1", "eth4", "core2", "eth1", by decide⟩,
    ⟨"agg2--core1", "agg2", "eth3", "core1", "eth2", by decide⟩,
    ⟨"agg2--core2", "agg2", "eth4", "core2", "eth2", by decide⟩,
    ⟨"core1--core2", "core1", "eth3", "core2", "eth3", by decide⟩,
    ⟨"core1--service-host", "core1", "eth4", "service-host", "eth1", by decide⟩]
  fingerprint_valid := labFingerprint_valid
  targets_length := rfl
  links_length := by decide

end TelconetSentinel

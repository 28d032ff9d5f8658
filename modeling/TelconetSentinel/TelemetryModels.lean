import TelconetSentinel.Timestamps

namespace TelconetSentinel

def baselineRouters : List String := ["access1", "access2", "agg1", "agg2", "core1", "core2"]

def maxCounter : ℕ := 2 ^ 64 - 1

def isTelemetryIdentifier (limit : ℕ) (text : String) : Bool :=
  fullmatch (fun c => isUpper c || isLower c || isDigit c)
    (fun c => isUpper c || isLower c || isDigit c || c == '_' || c == '.' || c == ':' || c == '-') limit text

def isErrorText (text : String) : Bool :=
  fullmatch (fun c => c != '\r' && c != '\n') (fun c => c != '\r' && c != '\n') 255 text

inductive TelemetryState
  | up
  | down
  | unknown
  deriving DecidableEq, Repr

structure InterfaceTelemetry where
  name : String
  state : TelemetryState
  rxBytes : ℕ
  txBytes : ℕ
  rxDrops : ℕ
  txDrops : ℕ
  name_valid : isTelemetryIdentifier 63 name
  counters_le : ∀ counter ∈ [rxBytes, txBytes, rxDrops, txDrops], counter ≤ maxCounter
  deriving DecidableEq

structure OspfNeighborTelemetry where
  neighbor : String
  interface : String
  state : TelemetryState
  neighbor_valid : isTelemetryIdentifier 63 neighbor
  interface_valid : isTelemetryIdentifier 63 interface
  deriving DecidableEq

structure BfdPeerTelemetry where
  peer : String
  interface : String
  configured : Bool
  state : TelemetryState
  peer_valid : isTelemetryIdentifier 63 peer
  interface_valid : isTelemetryIdentifier 63 interface
  absence_semantics : configured = false → state = .unknown
  deriving DecidableEq

/-- That the prefix is the canonical text of a network is not part of the type: nothing below depends on
it. -/
structure RouteTelemetry where
  routePrefix : String
  present : Bool
  metric : Option ℕ := none
  egressInterface : Option String := none
  prefix_length : 3 ≤ routePrefix.length ∧ routePrefix.length ≤ 64
  metric_le : ∀ m ∈ metric, m ≤ maxCounter
  egress_valid : ∀ interface ∈ egressInterface, isTelemetryIdentifier 63 interface
  presence : if present then metric ≠ none ∧ egressInterface ≠ none else metric = none ∧
    egressInterface = none
  deriving DecidableEq

structure RouterTelemetry where
  name : String
  collectionSuccess : Bool
  state : TelemetryState
  collectionError : Option String := none
  interfaces : List InterfaceTelemetry := []
  ospfNeighbors : List OspfNeighborTelemetry := []
  bfdPeers : List BfdPeerTelemetry := []
  routes : List RouteTelemetry := []
  name_valid : isTelemetryIdentifier 63 name
  error_valid : ∀ error ∈ collectionError, isErrorText error
  lengths : interfaces.length ≤ 64 ∧ ospfNeighbors.length ≤ 128 ∧ bfdPeers.length ≤ 128 ∧ routes.length ≤ 256
  success : collectionSuccess = true → collectionError = none ∧ state = .up
  failure : collectionSuccess = false → state = .unknown ∧ collectionError ≠ none ∧ interfaces = [] ∧
    ospfNeighbors = [] ∧ bfdPeers = [] ∧ routes = []
  interfaces_unique : (interfaces.map InterfaceTelemetry.name).Nodup
  neighbors_unique : (ospfNeighbors.map fun neighbor => (neighbor.neighbor, neighbor.interface)).Nodup
  peers_unique : (bfdPeers.map fun peer => (peer.peer, peer.interface)).Nodup
  routes_unique : (routes.map RouteTelemetry.routePrefix).Nodup
  references_known : ∀ reference ∈ ospfNeighbors.map OspfNeighborTelemetry.interface ++
    bfdPeers.map BfdPeerTelemetry.interface ++ routes.filterMap RouteTelemetry.egressInterface,
    reference ∈ interfaces.map InterfaceTelemetry.name
  deriving DecidableEq

def RouterTelemetry.failed (name : String) (error : String := "router did not answer")
    (hname : isTelemetryIdentifier 63 name := by decide) (herror : isErrorText error := by decide) :
    RouterTelemetry where
  name := name
  collectionSuccess := false
  state := .unknown
  collectionError := some error
  name_valid := hname
  error_valid := by simpa using herror
  lengths := by simp
  success := by simp
  failure := by simp
  interfaces_unique := by simp
  neighbors_unique := by simp
  peers_unique := by simp
  routes_unique := by simp
  references_known := by simp

/-- `observedAt` is in UTC: `validate_observed_at` converts every aware value. -/
structure TelemetrySnapshot where
  snapshotId : String
  observedAt : DateTime
  topologyFingerprint : String
  routers : List RouterTelemetry
  id_valid : isTelemetryIdentifier 63 snapshotId
  fingerprint_valid : isSha256 topologyFingerprint
  routers_unique : (routers.map RouterTelemetry.name).Nodup
  routers_baseline : (routers.map RouterTelemetry.name).toFinset = baselineRouters.toFinset
  deriving DecidableEq

def labFingerprint : String := "85143d1f2c272da203059754bc350d310b65809aa9e3da2c82925082ed812e9d"

theorem labFingerprint_valid : isSha256 labFingerprint := by decide

theorem five_lt_sixty : 5 < 60 := by decide

theorem s5_valid : isTelemetryIdentifier 63 "s5" := by decide

def TelemetrySnapshot.unanswered (snapshotId : String) (second : ℕ)
    (hid : isTelemetryIdentifier 63 snapshotId := by decide) (hsecond : second < 60 := by decide) :
    TelemetrySnapshot where
  snapshotId := snapshotId
  observedAt := ⟨2026, 10, 25, 1, 2, second, 0, by decide, by decide, by decide, by decide, by decide,
    hsecond, by decide⟩
  topologyFingerprint := labFingerprint
  routers := [.failed "access1", .failed "access2", .failed "agg1", .failed "agg2", .failed "core1",
    .failed "core2"]
  id_valid := hid
  fingerprint_valid := labFingerprint_valid
  routers_unique := by decide
  routers_baseline := by decide

end TelconetSentinel

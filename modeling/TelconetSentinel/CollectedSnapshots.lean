import TelconetSentinel.LinkBinding
import TelconetSentinel.TelemetryCollector

namespace TelconetSentinel

open DocumentValues FallibleLists KeyedLists TelemetryCollector

def isUuid (text : String) : Bool :=
  text.toList.length == 36 && text.toList.zipIdx.all fun entry =>
    if entry.2 ∈ [8, 13, 18, 23] then entry.1 == '-' else isDigit entry.1 ||
      decide ('a' ≤ entry.1 ∧ entry.1 ≤ 'f')

theorem isLower_of_hex {c : Char} (h : 'a' ≤ c ∧ c ≤ 'f') : isLower c = true :=
  decide_eq_true ⟨h.1, h.2.trans (by decide)⟩

theorem isTelemetryIdentifier_of_isUuid {text : String} (h : isUuid text = true) :
    isTelemetryIdentifier 63 text = true := by
  rw [isUuid, Bool.and_eq_true, beq_iff_eq, List.all_eq_true] at h
  obtain ⟨hlength, hall⟩ := h
  unfold isTelemetryIdentifier fullmatch
  cases htext : text.toList with
  | nil =>
    rw [htext] at hlength
    cases hlength
  | cons c cs =>
    rw [htext] at hlength hall
    have hfirst := hall (c, 0) (List.mk_mem_zipIdx_iff_getElem?.mpr rfl)
    have hrest : ∀ d ∈ cs, isDigit d = true ∨ isLower d = true ∨ d = '-' := by
      intro d hd
      obtain ⟨i, hi⟩ := List.getElem?_of_mem (List.mem_cons_of_mem c hd)
      have hchar := hall (d, i) (List.mk_mem_zipIdx_iff_getElem?.mpr hi)
      simp only at hchar
      split_ifs at hchar
      · exact Or.inr (Or.inr (beq_iff_eq.mp hchar))
      · rcases Bool.or_eq_true _ _ ▸ hchar with hdigit | hhex
        · exact Or.inl hdigit
        · exact Or.inr (Or.inl (isLower_of_hex (of_decide_eq_true hhex)))
    simp only [List.length_cons] at hlength
    simp only [Bool.and_eq_true, List.all_eq_true, decide_eq_true_eq, Bool.or_eq_true]
    refine ⟨⟨?_, fun d hd => ?_⟩, by omega⟩
    · rcases Bool.or_eq_true _ _ ▸ hfirst with hdigit | hhex
      · exact Or.inr hdigit
      · exact Or.inl (Or.inr (isLower_of_hex (of_decide_eq_true hhex)))
    · rcases hrest d hd with hdigit | hlower | rfl
      · simp [hdigit]
      · simp [hlower]
      · simp

theorem InterfaceTelemetry.init_ok {name : String} {state : TelemetryState} {rx tx rxDrops txDrops : ℕ}
    {item : InterfaceTelemetry} (h : InterfaceTelemetry.init name state rx tx rxDrops txDrops = .ok item) :
    item.name = name := by
  unfold InterfaceTelemetry.init at h
  split_ifs at h
  obtain rfl := Except.ok.inj h
  rfl

theorem OspfNeighborTelemetry.init_ok {neighbor interface : String} {state : TelemetryState}
    {item : OspfNeighborTelemetry} (h : OspfNeighborTelemetry.init neighbor interface state = .ok item) :
    (item.neighbor, item.interface) = (neighbor, interface) := by
  unfold OspfNeighborTelemetry.init at h
  split_ifs at h
  obtain rfl := Except.ok.inj h
  rfl

theorem BfdPeerTelemetry.init_ok {peer interface : String} {configured : Bool} {state : TelemetryState}
    {item : BfdPeerTelemetry} (h : BfdPeerTelemetry.init peer interface configured state = .ok item) :
    (item.peer, item.interface) = (peer, interface) := by
  unfold BfdPeerTelemetry.init at h
  split_ifs at h
  obtain rfl := Except.ok.inj h
  rfl

theorem RouteTelemetry.init_ok {isCanonicalNetwork : String → Bool} {routePrefix : String} {present : Bool}
    {metric : Option ℕ} {egressInterface : Option String} {route : RouteTelemetry}
    (h : RouteTelemetry.init isCanonicalNetwork routePrefix present metric egressInterface = .ok route) :
    route.routePrefix = routePrefix := by
  unfold RouteTelemetry.init at h
  split_ifs at h
  all_goals
    obtain rfl := Except.ok.inj h
    rfl

structure RouterTelemetry.Complete (router : RouterTelemetry) (target : BoundTelemetryTarget)
    (servicePrefix : String) :
    Prop where
  success : router.collectionSuccess = true
  interfaces : router.interfaces.map InterfaceTelemetry.name = target.interfaces
  ospf : router.ospfNeighbors.map (fun neighbor => (neighbor.neighbor, neighbor.interface)) =
    target.protocolPeers.map fun peer => (peer.peer, peer.interface)
  bfd : router.bfdPeers.map (fun peer => (peer.peer, peer.interface)) =
    target.protocolPeers.map fun peer => (peer.peer, peer.interface)
  routes : router.routes.map RouteTelemetry.routePrefix = [servicePrefix]

structure RouterTelemetry.Failed (router : RouterTelemetry) : Prop where
  failure : router.collectionSuccess = false
  interfaces : router.interfaces = []
  ospf : router.ospfNeighbors = []
  bfd : router.bfdPeers = []
  routes : router.routes = []

theorem failedRouterTelemetry_ok {name error : String} {router : RouterTelemetry}
    (h : failedRouterTelemetry name error = .ok router) : router.name = name ∧ router.Failed := by
  unfold failedRouterTelemetry at h
  simp only at h
  split_ifs at h
  obtain rfl := Except.ok.inj h
  exact ⟨rfl, rfl, rfl, rfl, rfl, rfl⟩

theorem RouterTelemetry.observed_ok {name : String} {interfaces : List InterfaceTelemetry}
    {ospfNeighbors : List OspfNeighborTelemetry} {bfdPeers : List BfdPeerTelemetry}
    {routes : List RouteTelemetry} {router : RouterTelemetry}
    (h : RouterTelemetry.observed name interfaces ospfNeighbors bfdPeers routes = .ok router) :
    router.name = name ∧ router.collectionSuccess = true ∧ router.interfaces = interfaces ∧
      router.ospfNeighbors = ospfNeighbors ∧ router.bfdPeers = bfdPeers ∧ router.routes = routes := by
  unfold RouterTelemetry.observed at h
  simp only at h
  split_ifs at h
  obtain rfl := Except.ok.inj h
  exact ⟨rfl, rfl, rfl, rfl, rfl, rfl⟩

section

variable (jsonLoads : String → Collected Value) (normalized : Value → Collected String)
  (walkLimit : Value → Option ℕ)
variable (isCanonicalNetwork : String → Bool) (run : String → List String → Collected String)

theorem parseInterfaceTelemetry_ok {output : String} {expected : List String}
    {items : List InterfaceTelemetry}
    (h : parseInterfaceTelemetry jsonLoads normalized output expected = .ok items) :
    items.map InterfaceTelemetry.name = expected := by
  obtain ⟨document, -, h⟩ := (bind_ok_iff _ _ _).mp h
  cases document with
  | list values =>
    have hpairs := (mapM_ok_iff _ _ _).mp h
    refine (map_eq_map (f := id) hpairs fun name item hitem => ?_).symm.trans (List.map_id _)
    simp only [observeInterface] at hitem
    split at hitem
    · exact (InterfaceTelemetry.init_ok hitem).symm
    · obtain ⟨_, -, hitem⟩ := (bind_ok_iff _ _ _).mp hitem
      exact (InterfaceTelemetry.init_ok hitem).symm
  | _ => cases h

theorem parseOspfNeighbors_ok {output : String} {expected : List BoundTelemetryPeer}
    {items : List OspfNeighborTelemetry}
    (h : parseOspfNeighbors jsonLoads normalized output expected = .ok items) :
    items.map (fun neighbor => (neighbor.neighbor, neighbor.interface)) =
      expected.map fun peer => (peer.peer, peer.interface) := by
  obtain ⟨document, -, h⟩ := (bind_ok_iff _ _ _).mp h
  obtain ⟨states, -, h⟩ := (bind_ok_iff _ _ _).mp h
  exact (map_eq_map ((mapM_ok_iff _ _ _).mp h) fun _ _ hitem =>
    (OspfNeighborTelemetry.init_ok hitem).symm).symm

theorem parseBfdPeers_ok {output : String} {expected : List BoundTelemetryPeer}
    {items : List BfdPeerTelemetry}
    (h : parseBfdPeers jsonLoads normalized walkLimit output expected = .ok items) :
    items.map (fun peer => (peer.peer, peer.interface)) = expected.map fun peer =>
    (peer.peer, peer.interface) := by
  obtain ⟨document, -, h⟩ := (bind_ok_iff _ _ _).mp h
  split at h
  · obtain ⟨_, -, h⟩ := (bind_ok_iff _ _ _).mp h
    cases h
  obtain ⟨states, -, h⟩ := (bind_ok_iff _ _ _).mp h
  exact (map_eq_map ((mapM_ok_iff _ _ _).mp h) fun _ _ hitem => (BfdPeerTelemetry.init_ok hitem).symm).symm

theorem parseSelectedRoute_ok {output routePrefix : String} {route : RouteTelemetry}
    (h : parseSelectedRoute jsonLoads isCanonicalNetwork output routePrefix = .ok route) :
    route.routePrefix = routePrefix := by
  obtain ⟨document, -, h⟩ := (bind_ok_iff _ _ _).mp h
  simp only at h
  split at h
  all_goals exact RouteTelemetry.init_ok h

theorem observe_ok {target : BoundTelemetryTarget} {servicePrefix : String} {observations : Observations}
    (h : observe jsonLoads normalized walkLimit isCanonicalNetwork run target servicePrefix =
      .ok observations) :
    observations.interfaces.map InterfaceTelemetry.name = target.interfaces ∧
      observations.ospfNeighbors.map (fun neighbor => (neighbor.neighbor, neighbor.interface)) =
        target.protocolPeers.map (fun peer => (peer.peer, peer.interface)) ∧
      observations.bfdPeers.map (fun peer => (peer.peer, peer.interface)) =
        target.protocolPeers.map (fun peer => (peer.peer, peer.interface)) ∧
      observations.route.routePrefix = servicePrefix := by
  obtain ⟨_, -, h⟩ := (bind_ok_iff _ _ _).mp h
  obtain ⟨interfaces, hinterfaces, h⟩ := (bind_ok_iff _ _ _).mp h
  obtain ⟨_, -, h⟩ := (bind_ok_iff _ _ _).mp h
  obtain ⟨ospfNeighbors, hospf, h⟩ := (bind_ok_iff _ _ _).mp h
  obtain ⟨_, -, h⟩ := (bind_ok_iff _ _ _).mp h
  obtain ⟨bfdPeers, hbfd, h⟩ := (bind_ok_iff _ _ _).mp h
  obtain ⟨_, -, h⟩ := (bind_ok_iff _ _ _).mp h
  obtain ⟨route, hroute, h⟩ := (bind_ok_iff _ _ _).mp h
  obtain rfl := Except.ok.inj h
  exact ⟨parseInterfaceTelemetry_ok _ _ hinterfaces, parseOspfNeighbors_ok _ _ hospf,
    parseBfdPeers_ok _ _ _ hbfd, parseSelectedRoute_ok _ _ hroute⟩

def RouterTelemetry.OfTarget (servicePrefix : String) (target : BoundTelemetryTarget)
    (router : RouterTelemetry) :
    Prop :=
  router.name = target.node ∧ (router.Complete target servicePrefix ∨ router.Failed)

theorem failedRouterTelemetry_ofTarget {servicePrefix error : String} {target : BoundTelemetryTarget}
    {router : RouterTelemetry} (h : failedRouterTelemetry target.node error = .ok router) :
    router.OfTarget servicePrefix target :=
  ⟨(failedRouterTelemetry_ok h).1, Or.inr (failedRouterTelemetry_ok h).2⟩

theorem collectRouter_ok {target : BoundTelemetryTarget} {servicePrefix : String} {router : RouterTelemetry}
    (h : collectRouter jsonLoads normalized walkLimit isCanonicalNetwork run target servicePrefix =
      .ok router) :
    router.OfTarget servicePrefix target := by
  unfold collectRouter at h
  split at h
  · next observations hobserve =>
    obtain ⟨hinterfaces, hospf, hbfd, hroute⟩ := observe_ok _ _ _ _ _ hobserve
    obtain ⟨hname, hsuccess, hi, ho, hb, hr⟩ := RouterTelemetry.observed_ok h
    refine ⟨hname, Or.inl ⟨hsuccess, hi ▸ hinterfaces, ho ▸ hospf, hb ▸ hbfd, ?_⟩⟩
    rw [hr, List.map_singleton, hroute]
  · exact failedRouterTelemetry_ofTarget h
  · exact failedRouterTelemetry_ofTarget h
  · cases h
  · exact failedRouterTelemetry_ofTarget h

theorem baseline_identifier {name : String} (h : name ∈ baselineRouters) :
    isTelemetryIdentifier 63 name = true := by
  have hall : ∀ name ∈ baselineRouters, isTelemetryIdentifier 63 name = true := by decide
  exact hall name h

theorem collector_error_ok {name : String} (h : name ∈ baselineRouters) :
    ∃ router, failedRouterTelemetry name "collector error" = .ok router := by
  have herror : isErrorText (String.ofList ("collector error".toList.take 200)) = true := by decide
  exact ⟨_, dif_pos ⟨baseline_identifier h, herror⟩⟩

theorem isolateRouter_ok (servicePrefix : String) {target : BoundTelemetryTarget}
    (htarget : target.node ∈ baselineRouters) :
    ∃ router, isolateRouter jsonLoads normalized walkLimit isCanonicalNetwork run target servicePrefix =
      .ok router ∧
      router.OfTarget servicePrefix target := by
  unfold isolateRouter
  cases hcollect : collectRouter jsonLoads normalized walkLimit isCanonicalNetwork run target
    servicePrefix with
  | ok router => exact ⟨router, rfl, collectRouter_ok _ _ _ _ _ hcollect⟩
  | error e =>
    obtain ⟨router, hrouter⟩ := collector_error_ok htarget
    exact ⟨router, hrouter, failedRouterTelemetry_ofTarget hrouter⟩

end

theorem loadTelemetryBinding_ok {pyRepr : Value → String} {config : TelemetryConfig} {intent : NetworkIntent}
    {clabDocument : Value} {fingerprint : String} {binding : TelemetryTopologyBinding}
    (h : TelemetryBinding.loadTelemetryBinding pyRepr config intent clabDocument fingerprint = .ok binding) :
    binding.targets.map BoundTelemetryTarget.node = config.routers.map TelemetryTarget.node := by
  obtain ⟨-, clab, -, hloaded⟩ := TelemetryBinding.loadTelemetryBinding_loaded h
  refine (map_eq_map hloaded.targets fun target bound hbound => ?_).symm
  unfold TelemetryBinding.bindTarget at hbound
  split at hbound
  · cases hbound
  · obtain ⟨peers, -, hbound⟩ := (bind_ok_iff _ _ _).mp hbound
    unfold BoundTelemetryTarget.init at hbound
    split_ifs at hbound
    obtain rfl := Except.ok.inj hbound
    rfl

theorem boundTarget_of_mem {binding : TelemetryTopologyBinding}
    (hunique : (binding.targets.map BoundTelemetryTarget.node).Nodup) {target : BoundTelemetryTarget}
    (htarget : target ∈ binding.targets) : binding.boundTarget target.node = .ok target := by
  have hnodup : (binding.targets.reverse.map BoundTelemetryTarget.node).Nodup := by
    rw [List.map_reverse, List.nodup_reverse]
    exact hunique
  have hfind : binding.targets.reverse.find? (fun other => other.node = target.node) = some target :=
    (lookup_some_iff hnodup target.node target).mpr ⟨List.mem_reverse.mpr htarget, rfl⟩
  rw [TelemetryTopologyBinding.boundTarget, hfind]

theorem checkRouter_complete {servicePrefix : String} {target : BoundTelemetryTarget}
    {router : RouterTelemetry} (h : router.Complete target servicePrefix) :
    checkRouter servicePrefix target router = .ok () := by
  have hroutes : ¬ ∃ route ∈ router.routes, route.routePrefix ≠ servicePrefix := by
    rintro ⟨route, hroute, hne⟩
    have hmem := List.mem_map_of_mem hroute (f := RouteTelemetry.routePrefix)
    rw [h.routes, List.mem_singleton] at hmem
    exact hne hmem
  have hlength : router.routes.length = 1 := by
    rw [← List.length_map RouteTelemetry.routePrefix, h.routes, List.length_singleton]
  unfold checkRouter
  simp only [h.interfaces, h.ospf, h.bfd, hroutes, hlength, peerKeys]
  simp

theorem checkRouter_failed {servicePrefix : String} {target : BoundTelemetryTarget} {router : RouterTelemetry}
    (h : router.Failed) : checkRouter servicePrefix target router = .ok () := by
  unfold checkRouter
  simp [h.failure, h.interfaces, h.routes]

theorem validateTelemetrySnapshot_ok {binding : TelemetryTopologyBinding} {snapshot : TelemetrySnapshot}
    (hunique : (binding.targets.map BoundTelemetryTarget.node).Nodup)
    (hfingerprint : snapshot.topologyFingerprint = binding.fingerprint)
    (hrouters : List.Forall₂ (RouterTelemetry.OfTarget binding.config.servicePrefix) binding.targets
      snapshot.routers) :
    validateTelemetrySnapshot snapshot binding = .ok () := by
  rw [validateTelemetrySnapshot, if_neg (not_not.mpr hfingerprint)]
  apply forM_ok
  intro router hrouter
  obtain ⟨target, htarget, hname, hshape⟩ := exists_left hrouters hrouter
  rw [validateRouter, hname, boundTarget_of_mem hunique htarget, ok_bind]
  rcases hshape with hcomplete | hfailed
  · exact checkRouter_complete hcomplete
  · exact checkRouter_failed hfailed

section

variable (jsonLoads : String → Collected Value) (normalized : Value → Collected String)
  (walkLimit : Value → Option ℕ)
variable (isCanonicalNetwork : String → Bool) (run : String → List String → Collected String)
variable (pyRepr : Value → String)

theorem collected_snapshot_is_ingestible (config : TelemetryConfig) (intent : NetworkIntent)
    (clabDocument : Value) (fingerprint : String) (binding : TelemetryTopologyBinding) (snapshotId : String)
    (observedAt : DateTime) (h : TelemetryBinding.loadTelemetryBinding pyRepr config intent clabDocument
      fingerprint = .ok binding)
    (hid : isUuid snapshotId = true) :
    ∃ snapshot, collectSnapshot jsonLoads normalized walkLimit isCanonicalNetwork run binding snapshotId
      observedAt =
        .ok snapshot ∧
      validateTelemetrySnapshot snapshot binding = .ok () ∧
      List.Forall₂ (fun target router => router.name = target.node ∧
        (router.Complete target binding.config.servicePrefix ∨ router.Failed)) binding.targets
          snapshot.routers := by
  have hnodes := loadTelemetryBinding_ok h
  have hunique : (binding.targets.map BoundTelemetryTarget.node).Nodup := hnodes ▸ config.nodes_unique
  have hbaseline : ∀ target ∈ binding.targets, target.node ∈ baselineRouters := by
    intro target htarget
    have hmem : target.node ∈ (config.routers.map TelemetryTarget.node).toFinset :=
      List.mem_toFinset.mpr (hnodes ▸ List.mem_map_of_mem htarget)
    rw [config.nodes_baseline, List.mem_toFinset] at hmem
    exact hmem
  obtain ⟨routers, hrouters⟩ := exists_mapM_ok
    (isolateRouter jsonLoads normalized walkLimit isCanonicalNetwork run · binding.config.servicePrefix)
      binding.targets
    fun target htarget => (isolateRouter_ok _ _ _ _ _ _ (hbaseline target htarget)).imp fun _ hrouter =>
      hrouter.1
  have hshapes : List.Forall₂ (RouterTelemetry.OfTarget binding.config.servicePrefix) binding.targets
      routers := by
    refine ((List.forall₂_and_left _ _).mpr ⟨hbaseline, (mapM_ok_iff _ _ _).mp hrouters⟩).imp ?_
    rintro target router ⟨htarget, hmade⟩
    obtain ⟨other, hother, hshape⟩ :=
      isolateRouter_ok jsonLoads normalized walkLimit isCanonicalNetwork run binding.config.servicePrefix
        htarget
    rwa [← Except.ok.inj (hother.symm.trans hmade)]
  have hnames : routers.map RouterTelemetry.name = binding.targets.map BoundTelemetryTarget.node :=
    (map_eq_map hshapes fun _ _ hshape => hshape.1.symm).symm
  have hrouterNames : (routers.map RouterTelemetry.name).toFinset = baselineRouters.toFinset := by
    rw [hnames, hnodes]
    exact config.nodes_baseline
  let snapshot : TelemetrySnapshot := ⟨snapshotId, observedAt, binding.fingerprint, routers,
    isTelemetryIdentifier_of_isUuid hid, binding.fingerprint_valid, hnames ▸ hunique, hrouterNames⟩
  have hinit : TelemetrySnapshot.init snapshotId observedAt binding.fingerprint routers = .ok snapshot := by
    rw [TelemetrySnapshot.init, dif_pos ⟨snapshot.id_valid, snapshot.fingerprint_valid⟩,
      dif_pos snapshot.routers_unique, dif_pos snapshot.routers_baseline]
  refine ⟨snapshot, ?_, validateTelemetrySnapshot_ok hunique rfl hshapes, hshapes⟩
  rw [collectSnapshot, hrouters]
  exact hinit

end

def labFields : IntentFields where
  nodes := ⟨[("access1", NodeRole.access, ["10.10.1.0/24"]), ("access2", .access, ["10.10.2.0/24"]),
    ("agg1", .aggregation, []), ("agg2", .aggregation, []), ("core1", .core, []), ("core2", .core, []),
    ("service-host", .service, ["10.20.0.0/24"])].filterMap fun (name, role, prefixes) =>
      (NodeIntent.ofFields role prefixes).map fun node => (name, node), by decide +kernel⟩
  links := [("access1--agg1", "access1", "agg1", 10), ("access1--agg2", "access1", "agg2", 100),
    ("access2--agg1", "access2", "agg1", 100), ("access2--agg2", "access2", "agg2", 10),
    ("agg1--core1", "agg1", "core1", 10), ("agg1--core2", "agg1", "core2", 100),
    ("agg2--core1", "agg2", "core1", 100), ("agg2--core2", "agg2", "core2", 10),
    ("core1--core2", "core1", "core2", 20), ("core1--service-host", "core1", "service-host", 10)].filterMap
    fun (id, source, target, cost) =>
      LinkIntent.ofFields id (source, target) cost
  nodes_length := by decide +kernel
  links_length := by decide +kernel

def labIntent : NetworkIntent where
  toIntentFields := labFields
  names_valid := by decide +kernel
  ids_unique := by decide +kernel
  references_known := by decide +kernel
  prefixes_unique := by decide +kernel

def clabDocument : Value :=
  labDocument ["core1", "core2", "agg1", "agg2", "access1", "access2", "client-a", "client-b", "service-host"]
    [("access1:eth1", "agg1:eth1"), ("access1:eth2", "agg2:eth1"), ("access2:eth1", "agg1:eth2"),
      ("access2:eth2", "agg2:eth2"), ("agg1:eth3", "core1:eth1"), ("agg1:eth4", "core2:eth1"),
      ("agg2:eth3", "core1:eth2"), ("agg2:eth4", "core2:eth2"), ("core1:eth3", "core2:eth3"),
      ("client-a:eth1", "access1:eth3"), ("client-b:eth1", "access2:eth3"),
      ("core1:eth4", "service-host:eth1")]

def troubledRun (container : String) (command : List String) : Collected String :=
  if container = "clab-telconet-sentinel-access1" then .ok (if command = interfaceCommand then "[]" else "{}")
  else if container = "clab-telconet-sentinel-access2" then .error .timeoutExpired
  else if container = "clab-telconet-sentinel-agg1" then .error .calledProcessError
  else if container = "clab-telconet-sentinel-agg2" then .ok "% Unknown command"
  else if container = "clab-telconet-sentinel-core1" then .error .osError
  else .error .other

def emptyDocuments (output : String) : Collected Value :=
  if output = "[]" then .ok (.list []) else if output = "{}" then .ok (.dict []) else .error .jsonDecodeError

def labLoad : Result TelemetryTopologyBinding :=
  TelemetryBinding.loadTelemetryBinding (fun _ => "'...'") labBinding.config labIntent clabDocument
    labFingerprint

def troubledAt : DateTime := ⟨2024, 8, 11, 4, 17, 52,
    125000, by decide, by decide, by decide, by decide, by decide,
  by decide, by decide⟩

def troubledCollection (binding : TelemetryTopologyBinding) : Collected TelemetrySnapshot :=
  collectSnapshot emptyDocuments (fun _ => .ok "none")
    (fun _ => none) isCanonicalIpv4Network troubledRun binding
    "0d9f4a76-3c1b-4e52-9a68-7be2f0c4d115" troubledAt

theorem collected_snapshot_troubled : ∃ binding snapshot, labLoad = .ok binding ∧
    troubledCollection binding = .ok snapshot ∧ validateTelemetrySnapshot snapshot binding = .ok () ∧
      snapshot.routers.map RouterTelemetry.collectionSuccess = [true, false, false, false, false, false] := by
  have hruns : labLoad.toOption.bind (fun binding => (troubledCollection binding).toOption.map fun snapshot =>
      snapshot.routers.map RouterTelemetry.collectionSuccess) = some [true, false, false, false, false,
      false] := by
    decide +kernel
  obtain ⟨binding, hbinding, hrun⟩ := Option.bind_eq_some_iff.mp hruns
  rw [toOption_some_iff] at hbinding
  obtain ⟨snapshot, hsnapshot, hvalid, -⟩ := collected_snapshot_is_ingestible emptyDocuments
    (fun _ => .ok "none") (fun _ => none) isCanonicalIpv4Network troubledRun _ _ _ _ _ binding
      "0d9f4a76-3c1b-4e52-9a68-7be2f0c4d115" troubledAt
    hbinding (by decide +kernel)
  obtain ⟨collected, hcollected, hsuccess⟩ := exists_ok hrun
  obtain rfl := Except.ok.inj (hsnapshot.symm.trans hcollected)
  exact ⟨binding, snapshot, hbinding, hsnapshot, hvalid, hsuccess⟩

end TelconetSentinel

import TelconetSentinel.TelemetryMetrics

namespace TelconetSentinel

open DocumentValues FallibleLists KeyedLists TelemetryBinding TelemetryMetrics

namespace Metric

def labelNames : Metric → List String
  | snapshotTimestamp => []
  | collectionSuccess => ["node"]
  | interfaceOperUp | receiveBytes | transmitBytes | receiveDrops | transmitDrops =>
    ["node", "interface", "link_id"]
  | ospfNeighborFull => ["node", "neighbor", "interface"]
  | bfdPeerConfigured | bfdPeerUp => ["node", "peer", "interface"]
  | routePresent | routeMetric => ["node", "prefix"]
  | routeEgress => ["node", "prefix", "link_id"]
  | nodeInfo => ["node", "role"]
  | linkOperUp => ["link_id", "source", "target"]

theorem labelNames_nodup (metric : Metric) : metric.labelNames.Nodup := by
  cases metric <;> decide

def family : Metric → ℕ
  | nodeInfo => 0
  | snapshotTimestamp => 1
  | collectionSuccess => 2
  | interfaceOperUp | receiveBytes | transmitBytes | receiveDrops | transmitDrops => 3
  | ospfNeighborFull => 4
  | bfdPeerConfigured | bfdPeerUp => 5
  | routePresent | routeMetric | routeEgress => 6
  | linkOperUp => 7

end Metric

namespace TelemetryMetrics

def Sample.key (sample : Sample) : Metric × List (String × String) := (sample.metric, sample.labels)

structure Block (lo hi : ℕ) (samples : List Sample) : Prop where
  unique : (samples.map Sample.key).Nodup
  family : ∀ sample ∈ samples, lo ≤ sample.metric.family ∧ sample.metric.family ≤ hi
  labelled : ∀ sample ∈ samples, sample.labels.map Prod.fst = sample.metric.labelNames

namespace Block

variable {a b c d : ℕ} {xs ys : List Sample}

theorem append (hx : Block a b xs) (hy : Block c d ys) (hac : a ≤ c) (hbc : b < c) (hbd : b ≤ d) :
    Block a d (xs ++ ys) := by
  refine ⟨?_, fun sample h => ?_, fun sample h => ?_⟩
  · rw [List.map_append, List.nodup_append']
    refine ⟨hx.unique, hy.unique, fun key hkey hkey' => ?_⟩
    obtain ⟨x, hmem, rfl⟩ := List.mem_map.mp hkey
    obtain ⟨y, hmem', heq⟩ := List.mem_map.mp hkey'
    have hmetric : y.metric = x.metric := congrArg Prod.fst heq
    have hlow := (hx.family x hmem).2
    have hhigh := (hy.family y hmem').1
    rw [hmetric] at hhigh
    omega
  · rcases List.mem_append.mp h with h | h
    · have := hx.family sample h
      omega
    · have := hy.family sample h
      omega
  · rcases List.mem_append.mp h with h | h
    · exact hx.labelled sample h
    · exact hy.labelled sample h

/-- Blocks with the same metrics that their first `n` label values tell apart. -/
theorem flatten {α : Type*} (n : ℕ) {items : List α} {key : α → List String} {blocks : List (List Sample)}
    (hkeys : (items.map key).Nodup) (h : List.Forall₂ (fun item block => Block a b block ∧
      ∀ sample ∈ block, (sample.labels.map Prod.snd).take n = key item) items blocks) :
      Block a b blocks.flatten := by
  have hblock : ∀ sample ∈ blocks.flatten, ∃ block ∈ blocks, sample ∈ block ∧ Block a b block := by
    intro sample hsample
    obtain ⟨block, hblock, hmem⟩ := List.mem_flatten.mp hsample
    obtain ⟨_, -, hfacts⟩ := exists_left h hblock
    exact ⟨block, hblock, hmem, hfacts.1⟩
  refine ⟨?_, fun sample hsample => ?_, fun sample hsample => ?_⟩
  · refine nodup_flatten_of_keys (fun key => (key.2.map Prod.snd).take n)
      (h.imp fun item block hitem => ?_) hkeys
    exact ⟨hitem.1.unique, hitem.2⟩
  · obtain ⟨block, -, hmem, hfacts⟩ := hblock sample hsample
    exact hfacts.family sample hmem
  · obtain ⟨block, -, hmem, hfacts⟩ := hblock sample hsample
    exact hfacts.labelled sample hmem

theorem flatMap {α : Type*} (n : ℕ) {items : List α} {key : α → List String} {f : α → List Sample}
    (hkeys : (items.map key).Nodup)
    (h : ∀ item, Block a b (f item) ∧ ∀ sample ∈ f item, (sample.labels.map Prod.snd).take n = key item) :
    Block a b (items.flatMap f) := by
  refine Block.flatten n hkeys ?_
  rw [List.forall₂_map_right_iff, List.forall₂_same]
  exact fun item _ => h item

theorem series_nodup (h : Block a b xs) : (xs.map Sample.series).Nodup := by
  have hdistinct := List.pairwise_map.mp h.unique
  refine List.pairwise_map.mpr (hdistinct.imp_of_mem fun {x y} hx hy hne heq => hne ?_)
  obtain ⟨hname, hlabels⟩ := Prod.ext_iff.mp heq
  have hmetric : x.metric = y.metric := Metric.name_injective hname
  have hnodup : (x.labels.map Prod.fst).Nodup := h.labelled x hx ▸ Metric.labelNames_nodup _
  have hnames : x.labels.map Prod.fst = y.labels.map Prod.fst := by
    rw [h.labelled x hx, h.labelled y hy, hmetric]
  refine Prod.ext hmetric (eq_of_keys_eq hnodup hnames fun label hlabel => ?_)
  exact List.mem_toFinset.mp (hlabels.subset (List.mem_toFinset.mpr hlabel))

end Block

theorem nodup_sorted {α β : Type*} {xs ys : List α} {f : α → β} (key : α → List String) (hperm : ys.Perm xs)
    (hxs : (xs.map f).Nodup) (h : ∀ x y, key x = key y → f x = f y) : (ys.map key).Nodup := by
  have hys := List.pairwise_map.mp ((hperm.map f).nodup_iff.mpr hxs)
  exact List.pairwise_map.mpr (hys.imp fun hne heq => hne (h _ _ heq))

def targetKeys (binding : TelemetryTopologyBinding) (target : BoundTelemetryTarget) :
    List (Metric × List (String × String)) :=
  let node := ("node", target.node)
  let route := [node, ("prefix", binding.config.servicePrefix)]
  let linkId := fun interface => ("link_id", linkLabel binding target.node interface)
  (Metric.collectionSuccess, [node]) ::
    (target.interfaces.flatMap (fun interface =>
        [.interfaceOperUp, .receiveBytes, .transmitBytes, .receiveDrops, .transmitDrops].map fun metric =>
          (metric, [node, ("interface", interface), linkId interface])) ++
      target.protocolPeers.flatMap (fun peer =>
        [(.ospfNeighborFull, [node, ("neighbor", peer.peer), ("interface", peer.interface)]),
          (.bfdPeerConfigured, [node, ("peer", peer.peer), ("interface", peer.interface)]),
          (.bfdPeerUp, [node, ("peer", peer.peer), ("interface", peer.interface)])]) ++
      [(.routePresent, route), (.routeMetric, route)] ++
      target.interfaces.map fun interface => (.routeEgress, route ++ [linkId interface]))

theorem targetKeys_node {binding : TelemetryTopologyBinding} {target : BoundTelemetryTarget}
    {key : Metric × List (String × String)} (h : key ∈ targetKeys binding target) :
    key.2.head? = some ("node", target.node) := by
  simp only [targetKeys, List.mem_cons, List.mem_append, List.mem_flatMap, List.mem_map] at h
  rcases h with rfl | (((⟨_, -, _, -, rfl⟩ | ⟨_, -, rfl | rfl | rfl | h⟩) | rfl | rfl | h) | ⟨_, -, rfl⟩)
  all_goals first | rfl | exact absurd h List.not_mem_nil

section

variable (binding : TelemetryTopologyBinding) {target : BoundTelemetryTarget}

theorem interface_mem_targetKeys {interface : String} (h : interface ∈ target.interfaces) {metric : Metric}
    (hmetric : metric ∈ [Metric.interfaceOperUp, .receiveBytes, .transmitBytes, .receiveDrops,
      .transmitDrops]) :
    (metric, [("node", target.node), ("interface", interface),
      ("link_id", linkLabel binding target.node interface)]) ∈ targetKeys binding target := by
  refine List.mem_cons_of_mem _ (List.mem_append_left _ (List.mem_append_left _ (List.mem_append_left _ ?_)))
  exact List.mem_flatMap.mpr ⟨interface, h, List.mem_map_of_mem hmetric⟩

theorem peer_mem_targetKeys {peer interface : String} (h : (peer, interface) ∈ peerKeyList target) :
    (Metric.ospfNeighborFull, [("node", target.node), ("neighbor", peer), ("interface", interface)]) ∈
        targetKeys binding target ∧
      (Metric.bfdPeerConfigured, [("node", target.node), ("peer", peer), ("interface", interface)]) ∈
        targetKeys binding target ∧
      (Metric.bfdPeerUp, [("node", target.node), ("peer", peer), ("interface", interface)]) ∈
        targetKeys binding target := by
  obtain ⟨bound, hbound, heq⟩ := List.mem_map.mp h
  obtain ⟨rfl, rfl⟩ := Prod.mk.inj heq
  simp only [targetKeys, List.mem_cons, List.mem_append, List.mem_flatMap]
  refine ⟨?_, ?_, ?_⟩
  all_goals exact Or.inr (Or.inl (Or.inl (Or.inr ⟨bound, hbound, by simp⟩)))

theorem egress_mem_targetKeys {interface : String} (h : interface ∈ target.interfaces) :
    (Metric.routeEgress, [("node", target.node), ("prefix", binding.config.servicePrefix)] ++
      [("link_id", linkLabel binding target.node interface)]) ∈ targetKeys binding target := by
  simp only [targetKeys, List.mem_cons, List.mem_append, List.mem_map]
  exact Or.inr (Or.inr ⟨interface, h, rfl⟩)

end

structure Within (servicePrefix : String) (target : BoundTelemetryTarget) (router : RouterTelemetry) :
    Prop where
  name : router.name = target.node
  interfaces : ∀ interface ∈ router.interfaces, interface.name ∈ target.interfaces
  ospf : ∀ neighbor ∈ router.ospfNeighbors, (neighbor.neighbor, neighbor.interface) ∈ peerKeyList target
  bfd : ∀ peer ∈ router.bfdPeers, (peer.peer, peer.interface) ∈ peerKeyList target
  routes : ∀ route ∈ router.routes, route.routePrefix = servicePrefix

section

variable (binding : TelemetryTopologyBinding) (router : RouterTelemetry)

theorem interfaces_block : Block 3 3
    ((router.interfaces.insertionSort fun a b => a.name ≤ b.name).flatMap
      (interfaceSamples binding router.name)) := by
  have hkeys := nodup_sorted (fun interface => [router.name, interface.name])
    (List.perm_insertionSort (fun a b => a.name ≤ b.name) _) router.interfaces_unique (by simp)
  refine Block.flatMap 2 hkeys fun interface => ⟨?_, ?_⟩
  · constructor <;> simp [interfaceSamples, Sample.key, Metric.family, Metric.labelNames]
  · simp [interfaceSamples]

theorem ospf_block : Block 4 4 ((router.ospfNeighbors.insertionSort fun a b =>
    toLex (a.neighbor, a.interface) ≤ toLex (b.neighbor, b.interface)).map (ospfSample router.name)) := by
  have hkeys := nodup_sorted (fun neighbor => [router.name, neighbor.neighbor, neighbor.interface])
    (List.perm_insertionSort (fun a b => toLex (a.neighbor, a.interface) ≤ toLex (b.neighbor, b.interface)) _)
    router.neighbors_unique (by simp)
  rw [List.map_eq_flatMap]
  refine Block.flatMap 3 hkeys fun neighbor => ⟨?_, ?_⟩
  · constructor <;> simp [ospfSample, Metric.family, Metric.labelNames]
  · simp [ospfSample]

theorem bfd_block : Block 5 5 ((router.bfdPeers.insertionSort fun a b =>
    toLex (a.peer, a.interface) ≤ toLex (b.peer, b.interface)).flatMap (bfdSamples router.name)) := by
  have hkeys := nodup_sorted (fun peer => [router.name, peer.peer, peer.interface])
    (List.perm_insertionSort (fun a b => toLex (a.peer, a.interface) ≤ toLex (b.peer, b.interface)) _)
    router.peers_unique (by simp)
  refine Block.flatMap 3 hkeys fun peer => ⟨?_, ?_⟩
  · constructor <;> simp [bfdSamples, Sample.key, Metric.family, Metric.labelNames]
  · simp [bfdSamples]

theorem routeSamples_ok (node : String) (route : RouteTelemetry) : ∃ samples,
    routeSamples binding node route = .ok samples ∧ Block 6 6 samples ∧
      ∀ sample ∈ samples, (sample.labels.map Prod.snd).take 2 = [node, route.routePrefix] := by
  have hpresence := route.presence
  unfold routeSamples
  split_ifs with hpresent
  · rw [if_pos hpresent] at hpresence
    obtain ⟨metric, hmetric⟩ := Option.ne_none_iff_exists'.mp hpresence.1
    obtain ⟨egressInterface, hegress⟩ := Option.ne_none_iff_exists'.mp hpresence.2
    rw [hmetric, hegress]
    refine ⟨_, rfl, ?_, by simp⟩
    constructor <;> simp [Sample.key, Metric.family, Metric.labelNames]
  · refine ⟨_, rfl, ?_, by simp⟩
    constructor <;> simp [Metric.family, Metric.labelNames]

theorem routerSamples_ok : ∃ samples, routerSamples binding router = .ok samples ∧ Block 2 6 samples := by
  obtain ⟨routes, hroutes⟩ := exists_mapM_ok (routeSamples binding router.name)
    (router.routes.insertionSort fun a b => a.routePrefix ≤ b.routePrefix)
    fun route _ => (routeSamples_ok binding router.name route).imp fun _ h => h.1
  have hblock : Block 6 6 routes.flatten := by
    have hkeys := nodup_sorted (fun route => [router.name, route.routePrefix])
      (List.perm_insertionSort (fun a b => a.routePrefix ≤ b.routePrefix) _) router.routes_unique (by simp)
    refine Block.flatten 2 hkeys (((mapM_ok_iff _ _ _).mp hroutes).imp fun route samples hmade => ?_)
    obtain ⟨samples', hmade', hfacts⟩ := routeSamples_ok binding router.name route
    obtain rfl := Except.ok.inj (hmade'.symm.trans hmade)
    exact hfacts
  have hcollection : Block 2 2
      [⟨.collectionSuccess, [("node", router.name)], flag router.collectionSuccess⟩] := by
    constructor <;> simp [Metric.family, Metric.labelNames]
  have hobserved := (interfaces_block binding router).append (ospf_block router) (by decide) (by decide)
    (by decide)
  have hpeers := hobserved.append (bfd_block router) (by decide) (by decide) (by decide)
  have hall := hpeers.append hblock (by decide) (by decide) (by decide)
  exact ⟨_, by rw [routerSamples, hroutes]; rfl, hcollection.append hall (by decide) (by decide) (by decide)⟩

theorem routerSamples_failed (h : router.collectionSuccess = false) :
    routerSamples binding router = .ok [⟨.collectionSuccess, [("node", router.name)], "0"⟩] := by
  obtain ⟨-, -, hinterfaces, hospf, hbfd, hroutes⟩ := router.failure h
  rw [routerSamples, hinterfaces, hospf, hbfd, hroutes, h]
  rfl

variable {binding router} {target : BoundTelemetryTarget}

theorem routeSamples_bound (hwithin : Within binding.config.servicePrefix target router)
    {route : RouteTelemetry} (hroute : route ∈ router.routes) {samples : List Sample}
    (h : routeSamples binding router.name route = .ok samples) : ∀ sample ∈ samples,
      sample.key ∈ targetKeys binding target := by
  unfold routeSamples at h
  rw [hwithin.name, hwithin.routes route hroute] at h
  split_ifs at h with hpresent
  · split at h
    · next metric egressInterface hmetric hegress =>
      have hknown : egressInterface ∈ target.interfaces := by
        have hreference := router.references_known egressInterface
          (List.mem_append_right _ (List.mem_filterMap.mpr ⟨route, hroute, hegress⟩))
        obtain ⟨interface, hinterface, rfl⟩ := List.mem_map.mp hreference
        exact hwithin.interfaces interface hinterface
      obtain rfl := Except.ok.inj h
      simp only [List.forall_mem_cons, List.not_mem_nil, false_imp_iff, implies_true, and_true]
      exact ⟨by simp [Sample.key, targetKeys], by simp [Sample.key, targetKeys],
        egress_mem_targetKeys binding hknown⟩
    · cases h
  · obtain rfl := Except.ok.inj h
    simp [Sample.key, targetKeys]

theorem routerSamples_bound (hwithin : Within binding.config.servicePrefix target router)
    {samples : List Sample} (h : routerSamples binding router = .ok samples) : ∀ sample ∈ samples,
      sample.key ∈ targetKeys binding target := by
  obtain ⟨routes, hroutes, h⟩ := (bind_ok_iff _ _ _).mp h
  obtain rfl := Except.ok.inj h
  intro sample hsample
  simp only [List.mem_cons, List.mem_append, List.mem_flatMap, List.mem_map, List.mem_flatten,
    List.mem_insertionSort] at hsample
  rcases hsample with rfl | ((⟨interface, hinterface, hsample⟩ | ⟨neighbor, hneighbor, rfl⟩) |
    ⟨peer, hpeer, hsample⟩) | ⟨block, hblock, hsample⟩
  · simp [Sample.key, targetKeys, hwithin.name]
  · have hmem := hwithin.interfaces interface hinterface
    rw [hwithin.name] at hsample
    simp only [interfaceSamples, List.mem_cons, List.not_mem_nil, or_false] at hsample
    rcases hsample with rfl | rfl | rfl | rfl | rfl
    all_goals exact interface_mem_targetKeys binding hmem (by simp)
  · rw [hwithin.name]
    exact (peer_mem_targetKeys binding (hwithin.ospf neighbor hneighbor)).1
  · have hmem := peer_mem_targetKeys binding (hwithin.bfd peer hpeer)
    rw [hwithin.name] at hsample
    simp only [bfdSamples, List.mem_cons, List.not_mem_nil, or_false] at hsample
    rcases hsample with rfl | rfl
    · exact hmem.2.1
    · exact hmem.2.2
  · obtain ⟨route, hroute, hmade⟩ := exists_left ((mapM_ok_iff _ _ _).mp hroutes) hblock
    exact routeSamples_bound hwithin ((List.mem_insertionSort _).mp hroute) hmade sample hsample

end

theorem within_of_checkRouter {servicePrefix : String} {target : BoundTelemetryTarget}
    {router : RouterTelemetry} (hname : router.name = target.node)
    (h : checkRouter servicePrefix target router = .ok ()) :
    Within servicePrefix target router := by
  obtain ⟨hunexpected, h⟩ := (check_ok_iff _ _ _ _).mp h
  obtain ⟨-, h⟩ := (check_ok_iff _ _ _ _).mp h
  obtain ⟨hroutes, h⟩ := (check_ok_iff _ _ _ _).mp h
  obtain ⟨-, h⟩ := (check_ok_iff _ _ _ _).mp h
  obtain ⟨hospf, h⟩ := (check_ok_iff _ _ _ _).mp h
  obtain ⟨hbfd, -⟩ := (check_ok_iff _ _ _ _).mp h
  have hinterfaces : ∀ interface ∈ router.interfaces, interface.name ∈ target.interfaces := by
    have hnil := List.filter_eq_nil_iff.mp (not_not.mp hunexpected)
    intro interface hinterface
    simpa using hnil interface.name (List.mem_map_of_mem hinterface)
  have hprefixes : ∀ route ∈ router.routes, route.routePrefix = servicePrefix := by
    intro route hroute
    by_contra hne
    exact hroutes ⟨route, hroute, hne⟩
  cases hsuccess : router.collectionSuccess with
  | false =>
    obtain ⟨-, -, -, hneighbors, hpeers, -⟩ := router.failure hsuccess
    exact ⟨hname, hinterfaces, by simp [hneighbors], by simp [hpeers], hprefixes⟩
  | true =>
    simp only [hsuccess, true_and, not_not] at hospf hbfd
    refine ⟨hname, hinterfaces, fun neighbor hneighbor => ?_, fun peer hpeer => ?_, hprefixes⟩
    · exact List.mem_toFinset.mp (hospf.subset (List.mem_toFinset.mpr (List.mem_map_of_mem hneighbor)))
    · exact List.mem_toFinset.mp (hbfd.subset (List.mem_toFinset.mpr (List.mem_map_of_mem hpeer)))

theorem routerMap_values (snapshot : TelemetrySnapshot) : (routerMap snapshot).values = snapshot.routers :=
  Dict.foldl_assign_new snapshot.routers_unique

def ReportsUp (snapshot : TelemetrySnapshot) (node interfaceName : String) : Prop :=
  ∃ router ∈ snapshot.routers, router.name = node ∧
    ∃ interface ∈ router.interfaces, interface.name = interfaceName ∧ interface.state = .up

theorem reportsUp_of_interfaceState {snapshot : TelemetrySnapshot} {node interfaceName : String}
    (h : interfaceState (routerMap snapshot) node interfaceName = .up) :
    ReportsUp snapshot node interfaceName := by
  unfold interfaceState at h
  split at h
  · cases h
  · next router hrouter =>
    obtain ⟨hmem, hname⟩ := (Dict.get_some_iff _ _).mp hrouter
    rw [routerMap_values] at hmem
    split_ifs at h
    split at h
    · next interface hfind =>
      have hinterface := List.find?_some hfind
      exact ⟨router, hmem, hname, interface, List.mem_of_find?_eq_some hfind, of_decide_eq_true hinterface, h⟩
    · cases h

theorem linkState_up {source target : TelemetryState} (h : toString (linkState source target) = "1") :
    source = .up ∧ target = .up := by
  cases source <;> cases target <;> first | exact ⟨rfl, rfl⟩ | exact absurd h (by decide)

def linkKey (link : TelemetryLink) : Metric × List (String × String) :=
  (.linkOperUp, [("link_id", link.id), ("source", link.source), ("target", link.target)])

def boundKeys (binding : TelemetryTopologyBinding) : List (Metric × List (String × String)) :=
  binding.targets.map (fun target => (.nodeInfo, [("node", target.node), ("role", target.role.value)])) ++
    (.snapshotTimestamp, []) :: (binding.targets.flatMap (targetKeys binding) ++ binding.links.map linkKey)

def boundSeries (binding : TelemetryTopologyBinding) : Finset (String × Finset (String × String)) :=
  ((boundKeys binding).map fun key => (key.1.name, key.2.toFinset)).toFinset

theorem linkSample_some {routers : Dict RouterTelemetry.name} {link : TelemetryLink} {sample : Sample}
    (h : linkSample routers link = some sample) : sample.key = linkKey link ∧
      sample.value = toString (linkState (interfaceState routers link.source link.sourceInterface)
        (interfaceState routers link.target link.targetInterface)) := by
  unfold linkSample at h
  split_ifs at h
  obtain rfl := Option.some.inj h
  exact ⟨rfl, rfl⟩

section

variable {snapshot : TelemetrySnapshot} {binding : TelemetryTopologyBinding}

structure Reported (snapshot : TelemetrySnapshot) (binding : TelemetryTopologyBinding)
    (target : BoundTelemetryTarget) (samples : List Sample) : Prop where
  router : ∃ router ∈ snapshot.routers, router.name = target.node ∧ routerSamples binding router = .ok samples
  block : Block 2 6 samples
  bound : ∀ sample ∈ samples, sample.key ∈ targetKeys binding target

theorem targetSamples_reported (hvalid : validateTelemetrySnapshot snapshot binding = .ok ())
    (hunique : (binding.targets.map BoundTelemetryTarget.node).Nodup)
    (hbaseline : ∀ target ∈ binding.targets, target.node ∈ baselineRouters) {target : BoundTelemetryTarget}
    (htarget : target ∈ binding.targets) : ∃ samples,
      targetSamples binding (routerMap snapshot) target = .ok samples ∧
      Reported snapshot binding target samples := by
  have hname : target.node ∈ (snapshot.routers.map RouterTelemetry.name).toFinset := by
    rw [snapshot.routers_baseline]
    exact List.mem_toFinset.mpr (hbaseline target htarget)
  obtain ⟨router, hrouter, hname⟩ := List.mem_map.mp (List.mem_toFinset.mp hname)
  have hget : (routerMap snapshot).get target.node = some router :=
    (Dict.get_some_iff _ _).mpr ⟨(routerMap_values snapshot).symm ▸ hrouter, hname⟩
  have hwithin : Within binding.config.servicePrefix target router := by
    obtain ⟨-, hrouters⟩ := (check_ok_iff _ _ _ _).mp hvalid
    have hchecked := of_forM_ok hrouters router hrouter
    rw [validateRouter, hname, boundTarget_of_mem hunique htarget, ok_bind] at hchecked
    exact within_of_checkRouter hname hchecked
  obtain ⟨samples, hsamples, hblock⟩ := routerSamples_ok binding router
  refine ⟨samples, ?_, ⟨router, hrouter, hname, hsamples⟩, hblock, routerSamples_bound hwithin hsamples⟩
  rw [targetSamples, hget]
  exact hsamples

theorem nodeInfo_block (hunique : (binding.targets.map BoundTelemetryTarget.node).Nodup) :
    Block 0 0 (binding.targets.map nodeInfoSample) := by
  have hkeys := nodup_sorted (fun target => [target.node]) (List.Perm.refl _) hunique (by simp)
  rw [List.map_eq_flatMap]
  refine Block.flatMap 1 hkeys fun target => ⟨?_, by simp [nodeInfoSample]⟩
  constructor <;> simp [nodeInfoSample, Metric.family, Metric.labelNames]

theorem links_block (routers : Dict RouterTelemetry.name)
    (hids : (binding.links.map TelemetryLink.id).Nodup) :
    Block 7 7 (binding.links.filterMap (linkSample routers)) := by
  have hkeys := nodup_sorted (fun link => [link.id]) (List.Perm.refl _) hids (by simp)
  rw [List.filterMap_eq_flatMap_toList]
  refine Block.flatMap 1 hkeys fun link => ?_
  unfold linkSample
  split_ifs
  · exact ⟨⟨List.nodup_nil, by simp, by simp⟩, by simp⟩
  · refine ⟨?_, by simp⟩
    constructor <;> simp [Metric.family, Metric.labelNames]

theorem observed_block {observed : List (List Sample)}
    (hunique : (binding.targets.map BoundTelemetryTarget.node).Nodup)
    (h : List.Forall₂ (Reported snapshot binding) binding.targets observed) : Block 2 6 observed.flatten := by
  have hkeys := nodup_sorted (fun target => [target.node]) (List.Perm.refl _) hunique (by simp)
  refine Block.flatten 1 hkeys (h.imp fun target samples hreported =>
    ⟨hreported.block, fun sample hsample => ?_⟩)
  have hnode := targetKeys_node (hreported.bound sample hsample)
  obtain ⟨rest, hlabels⟩ := List.head?_eq_some_iff.mp hnode
  change (sample.key.2.map Prod.snd).take 1 = _
  rw [hlabels]
  rfl

theorem Reported.node_eq {target : BoundTelemetryTarget} {samples : List Sample}
    (h : Reported snapshot binding target samples) {sample : Sample} (hsample : sample ∈ samples)
    {name : String} (hlabel : ("node", name) ∈ sample.labels) : name = target.node := by
  obtain ⟨rest, hlabels⟩ := List.head?_eq_some_iff.mp (targetKeys_node (h.bound sample hsample))
  have hhead : ("node", target.node) ∈ sample.labels := by
    change _ ∈ sample.key.2
    rw [hlabels]
    exact List.mem_cons_self
  have hnodup : (sample.labels.map Prod.fst).Nodup :=
    h.block.labelled sample hsample ▸ Metric.labelNames_nodup _
  exact congrArg Prod.snd (key_inj hnodup hlabel hhead rfl)

theorem Reported.failed {target : BoundTelemetryTarget} {samples : List Sample}
    (h : Reported snapshot binding target samples) {router : RouterTelemetry}
    (hrouter : router ∈ snapshot.routers) (hname : router.name = target.node)
    (hfailed : router.collectionSuccess = false) :
    samples = [⟨.collectionSuccess, [("node", router.name)], "0"⟩] := by
  obtain ⟨other, hother, hotherName, hsamples⟩ := h.router
  obtain rfl := key_inj snapshot.routers_unique hrouter hother (hname.trans hotherName.symm)
  rw [routerSamples_failed binding router hfailed] at hsamples
  exact (Except.ok.inj hsamples).symm

variable (timestamp : Sample) {observed : List (List Sample)}

theorem failed_router_lines (hbaseline : ∀ router ∈ snapshot.routers, ∃ target ∈ binding.targets,
      router.name = target.node) (htimestamp : timestamp.labels = [])
    (hlinks : Block 7 7 (binding.links.filterMap (linkSample (routerMap snapshot))))
    (h : List.Forall₂ (Reported snapshot binding) binding.targets observed) {router : RouterTelemetry}
    (hrouter : router ∈ snapshot.routers) (hfailed : router.collectionSuccess = false) :
    let samples := binding.targets.map nodeInfoSample ++
      timestamp :: (observed.flatten ++ binding.links.filterMap (linkSample (routerMap snapshot)))
    ⟨.collectionSuccess, [("node", router.name)], "0"⟩ ∈ samples ∧ ∀ sample ∈ samples,
      ("node", router.name) ∈ sample.labels → sample.metric = .nodeInfo ∨
        sample = ⟨.collectionSuccess, [("node", router.name)], "0"⟩ := by
  intro samples
  constructor
  · obtain ⟨target, htarget, hname⟩ := hbaseline router hrouter
    obtain ⟨block, hblock, hreported⟩ := exists_right h htarget
    have hlines := hreported.failed hrouter hname hfailed
    refine List.mem_append_right _ (List.mem_cons_of_mem _ (List.mem_append_left _ ?_))
    exact List.mem_flatten.mpr ⟨block, hblock, hlines ▸ List.mem_singleton_self _⟩
  · intro sample hsample hlabel
    rcases List.mem_append.mp hsample with hstatic | hsample
    · obtain ⟨target, -, rfl⟩ := List.mem_map.mp hstatic
      exact Or.inl rfl
    rcases List.mem_cons.mp hsample with rfl | hsample
    · rw [htimestamp] at hlabel
      exact absurd hlabel List.not_mem_nil
    rcases List.mem_append.mp hsample with hobserved | hlink
    · obtain ⟨block, hblock, hmem⟩ := List.mem_flatten.mp hobserved
      obtain ⟨target, -, hreported⟩ := exists_left h hblock
      rw [hreported.failed hrouter (hreported.node_eq hmem hlabel) hfailed] at hmem
      exact Or.inr (List.mem_singleton.mp hmem)
    · have hmem := List.mem_map_of_mem (f := Prod.fst) hlabel
      obtain ⟨link, -, hmade⟩ := List.mem_filterMap.mp hlink
      have hmetric : sample.metric = .linkOperUp := congrArg Prod.fst (linkSample_some hmade).1
      rw [hlinks.labelled sample hlink, hmetric] at hmem
      simp [Metric.labelNames] at hmem

theorem link_line_up (hids : (binding.links.map TelemetryLink.id).Nodup)
    (htimestamp : timestamp.metric ≠ .linkOperUp) (hobserved : Block 2 6 observed.flatten)
    {link : TelemetryLink} (hlink : link ∈ binding.links) {sample : Sample}
    (hsample : sample ∈ binding.targets.map nodeInfoSample ++
      timestamp :: (observed.flatten ++ binding.links.filterMap (linkSample (routerMap snapshot))))
    (hmetric : sample.metric = .linkOperUp) (hlabel : ("link_id", link.id) ∈ sample.labels)
    (hvalue : sample.value = "1") :
    ReportsUp snapshot link.source link.sourceInterface ∧
    ReportsUp snapshot link.target link.targetInterface := by
  have hmade : sample ∈ binding.links.filterMap (linkSample (routerMap snapshot)) := by
    rcases List.mem_append.mp hsample with hstatic | hsample
    · obtain ⟨target, -, rfl⟩ := List.mem_map.mp hstatic
      cases hmetric
    rcases List.mem_cons.mp hsample with rfl | hsample
    · exact absurd hmetric htimestamp
    rcases List.mem_append.mp hsample with hrouter | hmade
    · have hfamily := (hobserved.family sample hrouter).2
      rw [hmetric] at hfamily
      exact absurd hfamily (by decide)
    · exact hmade
  obtain ⟨other, hother, hmade⟩ := List.mem_filterMap.mp hmade
  obtain ⟨hkey, hstate⟩ := linkSample_some hmade
  have hlabels : sample.labels = (linkKey other).2 := congrArg Prod.snd hkey
  have hid : link.id = other.id := by
    rw [hlabels] at hlabel
    simpa [linkKey] using hlabel
  obtain rfl := key_inj hids hlink hother hid
  obtain ⟨hsource, htarget⟩ := linkState_up (hstate.symm.trans hvalue)
  exact ⟨reportsUp_of_interfaceState hsource, reportsUp_of_interfaceState htarget⟩

theorem bound_lines (htimestamp : timestamp.key = (.snapshotTimestamp, []))
    (h : List.Forall₂ (Reported snapshot binding) binding.targets observed) {sample : Sample}
    (hsample : sample ∈ binding.targets.map nodeInfoSample ++
      timestamp :: (observed.flatten ++ binding.links.filterMap (linkSample (routerMap snapshot)))) :
    sample.key ∈ boundKeys binding := by
  unfold boundKeys
  rcases List.mem_append.mp hsample with hstatic | hsample
  · obtain ⟨target, htarget, rfl⟩ := List.mem_map.mp hstatic
    exact List.mem_append_left _ (List.mem_map.mpr ⟨target, htarget, rfl⟩)
  refine List.mem_append_right _ ?_
  rcases List.mem_cons.mp hsample with rfl | hsample
  · rw [htimestamp]
    exact List.mem_cons_self
  refine List.mem_cons_of_mem _ ?_
  rcases List.mem_append.mp hsample with hobserved | hlink
  · obtain ⟨block, hblock, hmem⟩ := List.mem_flatten.mp hobserved
    obtain ⟨target, htarget, hreported⟩ := exists_left h hblock
    exact List.mem_append_left _ (List.mem_flatMap.mpr ⟨target, htarget, hreported.bound sample hmem⟩)
  · obtain ⟨link, hlink, hmade⟩ := List.mem_filterMap.mp hlink
    rw [(linkSample_some hmade).1]
    exact List.mem_append_right _ (List.mem_map_of_mem hlink)

/-- What loading a binding establishes about its targets and links. -/
structure Inventory (binding : TelemetryTopologyBinding) : Prop where
  nodes_unique : (binding.targets.map BoundTelemetryTarget.node).Nodup
  ids_unique : (binding.links.map TelemetryLink.id).Nodup
  baseline : (binding.targets.map BoundTelemetryTarget.node).toFinset = baselineRouters.toFinset

theorem Inventory.target_baseline (h : Inventory binding) {target : BoundTelemetryTarget}
    (htarget : target ∈ binding.targets) : target.node ∈ baselineRouters := by
  rw [← List.mem_toFinset, ← h.baseline, List.mem_toFinset]
  exact List.mem_map_of_mem htarget

theorem Inventory.target_of_router (h : Inventory binding) {router : RouterTelemetry}
    (hrouter : router ∈ snapshot.routers) :
    ∃ target ∈ binding.targets, router.name = target.node := by
  have hmem : router.name ∈ (snapshot.routers.map RouterTelemetry.name).toFinset :=
    List.mem_toFinset.mpr (List.mem_map_of_mem hrouter)
  rw [snapshot.routers_baseline, ← h.baseline, List.mem_toFinset] at hmem
  obtain ⟨target, htarget, hname⟩ := List.mem_map.mp hmem
  exact ⟨target, htarget, hname.symm⟩

theorem inventory_of_load {pyRepr : Value → String} {config : TelemetryConfig} {intent : NetworkIntent}
    {clabDocument : Value} {fingerprint : String}
    (h : loadTelemetryBinding pyRepr config intent clabDocument fingerprint = .ok binding) :
    Inventory binding := by
  have hnodes := loadTelemetryBinding_ok h
  obtain ⟨-, clab, -, hloaded⟩ := loadTelemetryBinding_loaded h
  exact ⟨hnodes ▸ config.nodes_unique, hloaded.ids_eq ▸ intent.ids_unique, hnodes ▸ config.nodes_baseline⟩

theorem timestamp_block (text : String) : Block 1 1 [⟨.snapshotTimestamp, [], text⟩] := by
  constructor <;> simp [Metric.family, Metric.labelNames]

theorem targetSamples_observed (hinventory : Inventory binding)
    (hvalid : validateTelemetrySnapshot snapshot binding = .ok ()) :
    ∃ observed, binding.targets.mapM (targetSamples binding (routerMap snapshot)) = .ok observed ∧
      List.Forall₂ (Reported snapshot binding) binding.targets observed := by
  have hreports : ∀ target ∈ binding.targets, ∃ samples,
      targetSamples binding (routerMap snapshot) target = .ok samples ∧
      Reported snapshot binding target samples :=
    fun _ => targetSamples_reported hvalid hinventory.nodes_unique fun _ => hinventory.target_baseline
  obtain ⟨observed, hobserved⟩ := exists_mapM_ok (targetSamples binding (routerMap snapshot)) binding.targets
    fun target htarget => (hreports target htarget).imp fun _ hmade => hmade.1
  refine ⟨observed, hobserved, ?_⟩
  refine ((List.forall₂_and_left _ _).mpr ⟨fun _ => id, (mapM_ok_iff _ _ _).mp hobserved⟩).imp ?_
  rintro target samples ⟨htarget, hmade⟩
  obtain ⟨samples', hmade', hreported⟩ := hreports target htarget
  obtain rfl := Except.ok.inj (hmade'.symm.trans hmade)
  exact hreported

theorem renderTelemetryMetrics_lines (timestampText : DateTime → String) (hinventory : Inventory binding)
    (hvalid : validateTelemetrySnapshot snapshot binding = .ok ()) :
    ∃ observed, List.Forall₂ (Reported snapshot binding) binding.targets observed ∧
      let samples := binding.targets.map nodeInfoSample ++
        ⟨.snapshotTimestamp, [], timestampText snapshot.observedAt⟩ ::
        (observed.flatten ++ binding.links.filterMap (linkSample (routerMap snapshot)))
      renderTelemetryMetrics timestampText (some snapshot) binding = .ok (exposition samples) ∧
        Block 0 7 samples := by
  obtain ⟨observed, hobserved, hreported⟩ := targetSamples_observed hinventory hvalid
  refine ⟨observed, hreported, ?_, ?_⟩
  · simp only [renderTelemetryMetrics, snapshotSamples, hvalid, ok_bind, hobserved]
    rfl
  · have hrouters := (observed_block hinventory.nodes_unique hreported).append
      (links_block (routerMap snapshot) hinventory.ids_unique) (by decide) (by decide) (by decide)
    have hobservations := (timestamp_block (timestampText snapshot.observedAt)).append hrouters (by decide)
      (by decide) (by decide)
    exact (nodeInfo_block hinventory.nodes_unique).append hobservations (by decide) (by decide) (by decide)

end

end TelemetryMetrics

end TelconetSentinel

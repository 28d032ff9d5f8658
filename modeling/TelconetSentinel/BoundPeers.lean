import TelconetSentinel.OneToOneLinks

namespace TelconetSentinel

open DocumentValues FallibleLists KeyedLists TelemetryBinding

namespace TelemetryLink

def Joins (link : TelemetryLink) (near far : String × String) : Prop :=
  link.endpoints = [near, far] ∨ link.endpoints = [far, near]

variable {link : TelemetryLink} {near far : String × String}

theorem Joins.symm (h : link.Joins near far) : link.Joins far near := Or.symm h

theorem Joins.mem (h : link.Joins near far) : near ∈ link.endpoints := by
  rcases h with h | h <;> simp [h]

theorem Joins.pair_eq (h : link.Joins near far) : link.pair = s(near.1, far.1) := by
  rcases h with h | h
  · obtain ⟨rfl, rfl⟩ : (_, _) = near ∧ (_, _) = far := by simpa [endpoints] using h
    rfl
  · obtain ⟨rfl, rfl⟩ : (_, _) = far ∧ (_, _) = near := by simpa [endpoints] using h
    exact Sym2.eq_swap

theorem exists_joins {node interface peer : String} (hend : (node, interface) ∈ link.endpoints)
    (hpair : link.pair = s(node, peer)) : ∃ peerInterface, link.Joins (node, interface)
    (peer, peerInterface) := by
  rcases (link.mem_endpoints_iff node interface).mp hend with ⟨rfl, rfl⟩ | ⟨rfl, rfl⟩
  · obtain rfl := Sym2.congr_right.mp hpair
    exact ⟨link.targetInterface, Or.inl rfl⟩
  · rw [pair, Sym2.eq_swap] at hpair
    obtain rfl := Sym2.congr_right.mp hpair
    exact ⟨link.sourceInterface, Or.inr rfl⟩

end TelemetryLink

theorem BoundTelemetryPeer.init_ok {peer interface : String} {made : BoundTelemetryPeer}
    (h : BoundTelemetryPeer.init peer interface = .ok made) :
    (made.peer, made.interface) = (peer, interface) := by
  unfold BoundTelemetryPeer.init at h
  split_ifs at h
  obtain rfl := Except.ok.inj h
  rfl

def peerKeyList (target : BoundTelemetryTarget) : List (String × String) :=
  target.protocolPeers.map fun peer => (peer.peer, peer.interface)

namespace TelemetryBinding

def peersOver (targetNodes : List String) (node : String) (link : TelemetryLink) : List (String × String) :=
  if link.source ∈ targetNodes ∧ link.target ∈ targetNodes then
    (if link.source = node then [(link.target, link.sourceInterface)] else []) ++
      if link.target = node then [(link.source, link.targetInterface)] else []
  else []

theorem mem_peersOver_iff (targetNodes : List String) (node peer interface : String) (link : TelemetryLink) :
    (peer, interface) ∈ peersOver targetNodes node link ↔ (node ∈ targetNodes ∧ peer ∈ targetNodes) ∧
      ∃ peerInterface, link.Joins (node, interface) (peer, peerInterface) := by
  have hmem : (peer, interface) ∈ peersOver targetNodes node link ↔
      (link.source ∈ targetNodes ∧ link.target ∈ targetNodes) ∧
        (link.source = node ∧ peer = link.target ∧ interface = link.sourceInterface ∨
          link.target = node ∧ peer = link.source ∧ interface = link.targetInterface) := by
    unfold peersOver
    split_ifs <;> grind
  rw [hmem]
  constructor
  · rintro ⟨⟨hsource, htarget⟩, ⟨rfl, rfl, rfl⟩ | ⟨rfl, rfl, rfl⟩⟩
    · exact ⟨⟨hsource, htarget⟩, link.targetInterface, Or.inl rfl⟩
    · exact ⟨⟨htarget, hsource⟩, link.sourceInterface, Or.inr rfl⟩
  · rintro ⟨⟨hnode, hpeer⟩, peerInterface, hjoins⟩
    simp only [TelemetryLink.Joins, TelemetryLink.endpoints, List.cons.injEq, Prod.mk.injEq] at hjoins
    rcases hjoins with ⟨⟨rfl, rfl⟩, ⟨rfl, -⟩, -⟩ | ⟨⟨rfl, -⟩, ⟨rfl, rfl⟩, -⟩
    · exact ⟨⟨hnode, hpeer⟩, Or.inl ⟨rfl, rfl, rfl⟩⟩
    · exact ⟨⟨hpeer, hnode⟩, Or.inr ⟨rfl, rfl, rfl⟩⟩

theorem bindTarget_ok {intent : NetworkIntent} {lab : LabLinks} {targetNodes : List String}
    {links : List TelemetryLink} {target : TelemetryTarget} {bound : BoundTelemetryTarget}
    (h : bindTarget intent lab targetNodes links target = .ok bound) :
    bound.node = target.node ∧
    (peerKeyList bound).Perm (links.flatMap (peersOver targetNodes target.node)) := by
  unfold bindTarget at h
  split at h
  · cases h
  · obtain ⟨peers, hpeers, h⟩ := (bind_ok_iff _ _ _).mp h
    have hkeys : peers.map (fun peer => (peer.peer, peer.interface)) =
        links.flatMap (peersOver targetNodes target.node) := by
      have hmade := map_eq_map (f := id) ((mapM_ok_iff _ _ _).mp hpeers)
        fun _ _ hpeer => (BoundTelemetryPeer.init_ok hpeer).symm
      rw [← hmade, List.map_id]
      rfl
    unfold BoundTelemetryTarget.init at h
    split_ifs at h
    obtain rfl := Except.ok.inj h
    exact ⟨rfl, hkeys ▸ (List.perm_insertionSort _ peers).map _⟩

namespace LoadedFrom

variable {config : TelemetryConfig} {intent : NetworkIntent} {clab : ClabTopology}
  {binding : TelemetryTopologyBinding}

theorem peers_of_target (h : LoadedFrom config intent clab binding) {target : BoundTelemetryTarget}
    (htarget : target ∈ binding.targets) : target.node ∈ config.routers.map TelemetryTarget.node ∧
      (peerKeyList target).Perm
        (binding.links.flatMap (peersOver (config.routers.map TelemetryTarget.node) target.node)) := by
  obtain ⟨router, hrouter, hbound⟩ := exists_left h.targets htarget
  obtain ⟨hnode, hperm⟩ := bindTarget_ok hbound
  rw [hnode]
  exact ⟨List.mem_map_of_mem hrouter, hperm⟩

theorem mem_peerKeyList_iff (h : LoadedFrom config intent clab binding) {target : BoundTelemetryTarget}
    (htarget : target ∈ binding.targets) (peer interface : String) :
    (peer, interface) ∈ peerKeyList target ↔ peer ∈ config.routers.map TelemetryTarget.node ∧
      ∃ link ∈ binding.links, ∃ peerInterface, link.Joins (target.node, interface) (peer, peerInterface) := by
  obtain ⟨hnode, hperm⟩ := h.peers_of_target htarget
  simp only [hperm.mem_iff, List.mem_flatMap, mem_peersOver_iff, hnode, true_and]
  constructor
  · rintro ⟨link, hlink, hpeer, hjoins⟩
    exact ⟨hpeer, link, hlink, hjoins⟩
  · rintro ⟨hpeer, link, hlink, hjoins⟩
    exact ⟨link, hlink, hpeer, hjoins⟩

theorem interfaceLinkId_of_joins (h : LoadedFrom config intent clab binding) {n p : BoundTelemetryTarget}
    (hn : n ∈ binding.targets) (hp : p ∈ binding.targets) {link : TelemetryLink}
    (hlink : link ∈ binding.links) {interface peerInterface : String}
    (hjoins : link.Joins (n.node, interface) (p.node, peerInterface)) :
    binding.interfaceLinkId n.node interface = some link.id := by
  cases hfound : binding.interfaceLinkId n.node interface with
  | none => exact absurd hjoins.mem ((binding.interfaceLinkId_none_iff _ _).mp hfound link hlink)
  | some id =>
    obtain ⟨link', hlink', hend', rfl⟩ := TelemetryTopologyBinding.interfaceLinkId_some hfound
    have hpair : link'.pair = s(n.node, p.node) :=
      (h.pair_eq_of_shared hlink' hlink hend' hjoins.mem).trans hjoins.pair_eq
    -- A second link between the two targets would repeat the peer, which the inventory of `n` excludes.
    obtain ⟨hnode, hperm⟩ := h.peers_of_target hn
    obtain ⟨hpeer, -⟩ := h.peers_of_target hp
    have hkey := (mem_peersOver_iff _ _ _ interface link).mpr ⟨⟨hnode, hpeer⟩, _, hjoins⟩
    have hkey' := (mem_peersOver_iff _ _ _ interface link').mpr
      ⟨⟨hnode, hpeer⟩, TelemetryLink.exists_joins hend' hpair⟩
    rw [eq_of_mem_flatMap (hperm.nodup_iff.mp n.peers_unique) hlink' hlink hkey' hkey]

theorem peer_interfaces_nodup (h : LoadedFrom config intent clab binding) {target : BoundTelemetryTarget}
    (htarget : target ∈ binding.targets) : (target.protocolPeers.map BoundTelemetryPeer.interface).Nodup := by
  have hnodup : ((peerKeyList target).map Prod.snd).Nodup := by
    refine List.Nodup.map_on ?_ target.peers_unique
    rintro ⟨peer, interface⟩ hkey ⟨peer', interface'⟩ hkey' heq
    obtain rfl : interface = interface' := heq
    obtain ⟨-, link, hlink, _, hjoins⟩ := (h.mem_peerKeyList_iff htarget peer interface).mp hkey
    obtain ⟨-, link', hlink', _, hjoins'⟩ := (h.mem_peerKeyList_iff htarget peer' interface).mp hkey'
    have hpair := h.pair_eq_of_shared hlink hlink' hjoins.mem hjoins'.mem
    rw [hjoins.pair_eq, hjoins'.pair_eq] at hpair
    exact Prod.ext (Sym2.congr_right.mp hpair) rfl
  rwa [peerKeyList, List.map_map] at hnodup

end LoadedFrom

end TelemetryBinding

/-- `_expected_peers_by_interface`. Where an interface occurs twice the last peer counts. -/
def expectedPeersByInterface (expectedPeers : List BoundTelemetryPeer) : Dict BoundTelemetryPeer.interface :=
  expectedPeers.foldl Dict.assign (Dict.empty BoundTelemetryPeer.interface)

theorem bound_peers_symmetric (pyRepr : Value → String) (config : TelemetryConfig) (intent : NetworkIntent)
    (clabDocument : Value) (fingerprint : String) (binding : TelemetryTopologyBinding)
    (h : loadTelemetryBinding pyRepr config intent clabDocument fingerprint = .ok binding) :
    (∀ n ∈ binding.targets, ∀ p ∈ binding.targets,
      (∀ interface, (p.node, interface) ∈ peerKeyList n ↔
        ∃ link ∈ binding.links, ∃ peerInterface, link.Joins (n.node, interface) (p.node, peerInterface)) ∧
      ∀ link ∈ binding.links, ∀ interface peerInterface,
        link.Joins (n.node, interface) (p.node, peerInterface) → (n.node, peerInterface) ∈ peerKeyList p ∧
          binding.interfaceLinkId n.node interface = some link.id ∧
            binding.interfaceLinkId p.node peerInterface = some link.id) ∧
    ∀ n ∈ binding.targets, (n.protocolPeers.map BoundTelemetryPeer.interface).Nodup ∧
      (expectedPeersByInterface n.protocolPeers).values = n.protocolPeers := by
  obtain ⟨-, clab, -, hloaded⟩ := loadTelemetryBinding_loaded h
  refine ⟨fun n hn p hp => ⟨fun interface => ?_, fun link hlink interface peerInterface hjoins =>
    ⟨?_, ?_, ?_⟩⟩, fun n hn => ?_⟩
  · rw [hloaded.mem_peerKeyList_iff hn, and_iff_right (hloaded.peers_of_target hp).1]
  · rw [hloaded.mem_peerKeyList_iff hp]
    exact ⟨(hloaded.peers_of_target hn).1, link, hlink, interface, hjoins.symm⟩
  · exact hloaded.interfaceLinkId_of_joins hn hp hlink hjoins
  · exact hloaded.interfaceLinkId_of_joins hp hn hlink hjoins.symm
  · have hnodup := hloaded.peer_interfaces_nodup hn
    exact ⟨hnodup, Dict.foldl_assign_new hnodup⟩

theorem bound_peers_symmetric_lab :
    (∀ n ∈ labBinding.targets, ∀ p ∈ labBinding.targets, ∀ interface, (p.node, interface) ∈ peerKeyList n ↔
      ∃ link ∈ labBinding.links, ∃ peerInterface, link.Joins (n.node, interface) (p.node, peerInterface)) ∧
    labBinding.targets.map (fun n => (expectedPeersByInterface n.protocolPeers).values) =
      labBinding.targets.map fun n => n.protocolPeers := by
  obtain ⟨hpeers, hindex⟩ := bound_peers_symmetric _ _ _ _ _ _ labLoad_ok
  exact ⟨fun n hn p hp => (hpeers n hn p hp).1, List.map_congr_left fun n hn => (hindex n hn).2⟩

end TelconetSentinel

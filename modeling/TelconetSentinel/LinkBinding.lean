import TelconetSentinel.TelemetryBinding

namespace TelconetSentinel

open DocumentValues FallibleLists KeyedLists

namespace LabLink

def ends (link : LabLink) : List (String × String) := [link.first, link.second]

theorem interfaceOf_some_iff (link : LabLink) (node interface : String) :
    link.interfaceOf node = some interface ↔ (node, interface) ∈ link.ends := by
  simp only [interfaceOf, ends, List.mem_cons, List.not_mem_nil, or_false, Prod.ext_iff]
  have hne := link.no_self_link
  split_ifs with hfirst hsecond
  · simp [hfirst, hne, eq_comm]
  · simp [hsecond, hne.symm, eq_comm]
  · simp [hfirst, hsecond]

end LabLink

def LinkIntent.pair (link : LinkIntent) : Sym2 String := s(link.endpoints.1, link.endpoints.2)

namespace TelemetryLink

def endpoints (link : TelemetryLink) : List (String × String) :=
  [(link.source, link.sourceInterface), (link.target, link.targetInterface)]

def pair (link : TelemetryLink) : Sym2 String := s(link.source, link.target)

def On (link : TelemetryLink) (lab : LabLink) : Prop :=
  link.pair = lab.pair ∧ ∀ endpoint ∈ link.endpoints, endpoint ∈ lab.ends

theorem mem_endpoints_iff (link : TelemetryLink) (node interface : String) :
    (node, interface) ∈ link.endpoints ↔
      (link.source = node ∧ link.sourceInterface = interface) ∨ link.target = node ∧
      link.targetInterface = interface := by
  simp [endpoints, eq_comm]

theorem On.nodes_ne {link : TelemetryLink} {lab : LabLink} (h : link.On lab) :
    link.source ≠ link.target := by
  intro heq
  have hdiag := h.1
  rw [pair, heq, LabLink.pair, Sym2.eq_iff] at hdiag
  rcases hdiag with ⟨hfirst, hsecond⟩ | ⟨hsecond, hfirst⟩
  · exact lab.no_self_link (hfirst.symm.trans hsecond)
  · exact lab.no_self_link (hfirst.symm.trans hsecond)

end TelemetryLink

/-- `interface_link_id`: the first link with the endpoint. -/
def TelemetryTopologyBinding.interfaceLinkId (binding : TelemetryTopologyBinding) (node interface : String) :
    Option String :=
  binding.links.findSome? fun link =>
    if link.source = node ∧ link.sourceInterface = interface then some link.id
    else if link.target = node ∧ link.targetInterface = interface then some link.id
    else none

theorem TelemetryTopologyBinding.interfaceLinkId_some {binding : TelemetryTopologyBinding}
    {node interface id : String} (h : binding.interfaceLinkId node interface = some id) :
    ∃ link ∈ binding.links, (node, interface) ∈ link.endpoints ∧ link.id = id := by
  obtain ⟨link, hlink, hid⟩ := List.exists_of_findSome?_eq_some h
  refine ⟨link, hlink, ?_⟩
  rw [link.mem_endpoints_iff]
  split_ifs at hid with hsource htarget
  · exact ⟨Or.inl hsource, Option.some.inj hid⟩
  · exact ⟨Or.inr htarget, Option.some.inj hid⟩

theorem TelemetryTopologyBinding.interfaceLinkId_none_iff (binding : TelemetryTopologyBinding)
    (node interface : String) :
    binding.interfaceLinkId node interface = none ↔ ∀ link ∈ binding.links,
    (node, interface) ∉ link.endpoints := by
  rw [interfaceLinkId, List.findSome?_eq_none_iff]
  apply forall₂_congr
  intro link _
  rw [link.mem_endpoints_iff]
  split_ifs <;> simp [*]

namespace TelemetryBinding

section

variable {pyRepr : Value → String}

/-- The interfaces in use are the ends of the links read so far, each once. -/
structure InUse (state : ClabLinks) : Prop where
  ends : state.usedInterfaces.Perm (state.linksByPair.values.flatMap LabLink.ends)
  unique : state.usedInterfaces.Nodup

theorem useEndpoint_ok {nodes : List String} {used used' : List (String × String)}
    {endpoint : String × String} (h : useEndpoint nodes used endpoint = .ok used') : endpoint ∉ used ∧
      used' = endpoint :: used := by
  unfold useEndpoint at h
  split_ifs at h with hnode hused
  refine ⟨fun hmem => hused ⟨endpoint, hmem, rfl⟩, (Except.ok.inj h).symm⟩

theorem addLink_inUse {nodes : List String} {state state' : ClabLinks} {entry : Value × ℕ}
    (hstate : InUse state) (h : addLink pyRepr nodes state entry = .ok state') : InUse state' := by
  obtain ⟨link, -, h⟩ := (bind_ok_iff _ _ _).mp h
  obtain ⟨endpoints, -, h⟩ := (bind_ok_iff _ _ _).mp h
  split at h
  · obtain ⟨first, -, h⟩ := (bind_ok_iff _ _ _).mp h
    obtain ⟨second, -, h⟩ := (bind_ok_iff _ _ _).mp h
    obtain ⟨used, hused, h⟩ := (bind_ok_iff _ _ _).mp h
    rw [List.foldlM_cons] at hused
    obtain ⟨_, hfirst, hused⟩ := (bind_ok_iff _ _ _).mp hused
    rw [List.foldlM_cons] at hused
    obtain ⟨_, hsecond, hused⟩ := (bind_ok_iff _ _ _).mp hused
    obtain ⟨hfresh, rfl⟩ := useEndpoint_ok hfirst
    obtain ⟨hfresh', rfl⟩ := useEndpoint_ok hsecond
    obtain rfl := Except.ok.inj hused
    split_ifs at h with hself
    obtain ⟨hpair, h⟩ := (check_ok_iff _ _ _ _).mp h
    obtain rfl := Except.ok.inj h
    have hnew : (⟨first, second, hself⟩ : LabLink).pair ∉ state.linksByPair.keys :=
      fun hmem => hpair ⟨_, hmem, rfl⟩
    refine ⟨?_, List.nodup_cons.mpr ⟨hfresh', List.nodup_cons.mpr ⟨hfresh, hstate.unique⟩⟩⟩
    rw [Dict.assign_new hnew, List.flatMap_append, List.flatMap_singleton]
    have hends := (List.Perm.swap first second _).trans ((hstate.ends.cons second).cons first)
    exact hends.trans (@List.perm_append_comm _ [first, second] _)
  · cases h

theorem loadClabTopology_inUse {clabDocument : Value} {clab : ClabTopology}
    (h : loadClabTopology pyRepr clabDocument = .ok clab) :
    (clab.links.values.flatMap LabLink.ends).Nodup := by
  obtain ⟨document, -, h⟩ := (bind_ok_iff _ _ _).mp h
  split at h
  · cases h
  · split_ifs at h
    obtain ⟨topology, -, h⟩ := (bind_ok_iff _ _ _).mp h
    obtain ⟨nodeDocument, -, h⟩ := (bind_ok_iff _ _ _).mp h
    obtain ⟨links, -, h⟩ := (bind_ok_iff _ _ _).mp h
    obtain ⟨state, hstate, h⟩ := (bind_ok_iff _ _ _).mp h
    obtain rfl := Except.ok.inj h
    have hinUse : InUse state := by
      refine foldlM_invariant InUse (fun _ _ _ => addLink_inUse) ?_ hstate
      exact ⟨List.Perm.refl _, List.nodup_nil⟩
    exact hinUse.ends.nodup_iff.mp hinUse.unique

end

structure LoadedFrom (config : TelemetryConfig) (intent : NetworkIntent) (clab : ClabTopology)
    (binding : TelemetryTopologyBinding) : Prop where
  lab_ends : (clab.links.values.flatMap LabLink.ends).Nodup
  declared : undeclaredPairs intent clab.links = []
  links : List.Forall₂ (fun link bound => bindLink clab.links link = .ok bound) intent.links binding.links
  targets : List.Forall₂ (fun target bound =>
    bindTarget intent clab.links (config.routers.map TelemetryTarget.node)
    binding.links target = .ok bound) config.routers binding.targets

theorem loadTelemetryBinding_loaded {pyRepr : Value → String} {config : TelemetryConfig}
    {intent : NetworkIntent} {clabDocument : Value} {fingerprint : String}
    {binding : TelemetryTopologyBinding}
    (h : loadTelemetryBinding pyRepr config intent clabDocument fingerprint = .ok binding) :
    binding.config = config ∧
      ∃ clab, loadClabTopology pyRepr clabDocument = .ok clab ∧ LoadedFrom config intent clab binding := by
  obtain ⟨clab, hclab, h⟩ := (bind_ok_iff _ _ _).mp h
  obtain ⟨-, h⟩ := (check_ok_iff _ _ _ _).mp h
  obtain ⟨-, h⟩ := (check_ok_iff _ _ _ _).mp h
  obtain ⟨_, -, h⟩ := (bind_ok_iff _ _ _).mp h
  obtain ⟨-, h⟩ := (check_ok_iff _ _ _ _).mp h
  obtain ⟨hdeclared, h⟩ := (check_ok_iff _ _ _ _).mp h
  obtain ⟨links, hlinks, h⟩ := (bind_ok_iff _ _ _).mp h
  obtain ⟨targets, htargets, h⟩ := (bind_ok_iff _ _ _).mp h
  unfold TelemetryTopologyBinding.init at h
  split_ifs at h
  obtain rfl := Except.ok.inj h
  exact ⟨rfl, clab, hclab, loadClabTopology_inUse hclab, not_not.mp hdeclared, (mapM_ok_iff _ _ _).mp hlinks,
    (mapM_ok_iff _ _ _).mp htargets⟩

theorem bindLink_ok {lab : LabLinks} {link : LinkIntent} {bound : TelemetryLink}
    (h : bindLink lab link = .ok bound) :
    bound.id = link.id ∧ bound.source = link.endpoints.1 ∧ bound.target = link.endpoints.2 ∧
      ∃ ends ∈ lab.values, bound.On ends := by
  unfold bindLink at h
  split at h
  · cases h
  · next ends hget =>
    obtain ⟨hmem, hpair⟩ := (Dict.get_some_iff _ _).mp hget
    split at h
    · next sourceInterface targetInterface hsource htarget =>
      unfold TelemetryLink.init at h
      split_ifs at h
      obtain rfl := Except.ok.inj h
      refine ⟨rfl, rfl, rfl, ends, hmem, hpair.symm, ?_⟩
      rw [LabLink.interfaceOf_some_iff] at hsource htarget
      simp [TelemetryLink.endpoints, hsource, htarget]
    · cases h
    · cases h

namespace LoadedFrom

variable {config : TelemetryConfig} {intent : NetworkIntent} {clab : ClabTopology}
  {binding : TelemetryTopologyBinding}

theorem made (h : LoadedFrom config intent clab binding) :
    List.Forall₂ (fun link bound => bound.id = link.id ∧
    (bound.source, bound.target) = link.endpoints) intent.links binding.links := by
  refine h.links.imp fun link bound hbound => ?_
  obtain ⟨hid, hsource, htarget, -⟩ := bindLink_ok hbound
  exact ⟨hid, Prod.ext hsource htarget⟩

theorem ids_eq (h : LoadedFrom config intent clab binding) :
    binding.links.map TelemetryLink.id = intent.links.map LinkIntent.id :=
  (map_eq_map h.made fun _ _ hbound => hbound.1.symm).symm

theorem pairs_eq (h : LoadedFrom config intent clab binding) :
    binding.links.map TelemetryLink.pair = intent.links.map LinkIntent.pair := by
  refine (map_eq_map h.made fun link bound hbound => ?_).symm
  rw [LinkIntent.pair, ← hbound.2]
  rfl

theorem links_nodup (h : LoadedFrom config intent clab binding) : binding.links.Nodup :=
  List.Nodup.of_map TelemetryLink.id (h.ids_eq ▸ intent.ids_unique)

theorem exists_lab (h : LoadedFrom config intent clab binding) {link : TelemetryLink}
    (hlink : link ∈ binding.links) :
    ∃ ends ∈ clab.links.values, link.On ends := by
  obtain ⟨_, -, hbound⟩ := exists_left h.links hlink
  exact (bindLink_ok hbound).2.2.2

theorem pair_eq_of_shared (h : LoadedFrom config intent clab binding) {link link' : TelemetryLink}
    (hlink : link ∈ binding.links) (hlink' : link' ∈ binding.links) {endpoint : String × String}
    (hend : endpoint ∈ link.endpoints) (hend' : endpoint ∈ link'.endpoints) : link.pair = link'.pair := by
  obtain ⟨ends, hends, hon⟩ := h.exists_lab hlink
  obtain ⟨ends', hends', hon'⟩ := h.exists_lab hlink'
  obtain rfl := eq_of_mem_flatMap h.lab_ends hends hends' (hon.2 endpoint hend) (hon'.2 endpoint hend')
  exact hon.1.trans hon'.1.symm

end LoadedFrom

end TelemetryBinding

end TelconetSentinel

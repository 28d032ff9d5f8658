import TelconetSentinel.FailureDomains
import TelconetSentinel.Library.KeyedLists
import Mathlib.Data.Sym.Sym2

namespace TelconetSentinel

open FallibleLists KeyedLists WeightedWalks

def Link.described (link : Link) : String × Sym2 String × ℤ :=
  (link.id, s(link.endpointA, link.endpointB), link.cost)

theorem Link.neighbor_some_iff (link : Link) (u v : String) :
    link.neighbor u = some v ↔ s(link.endpointA, link.endpointB) = s(u, v) := by
  unfold Link.neighbor
  split_ifs with hA hB
  · rw [hA, Option.some_inj, Sym2.congr_right]
  · rw [hB, Option.some_inj, Sym2.eq_swap, Sym2.congr_right]
  · refine iff_of_false (by simp) fun h => ?_
    rcases Sym2.eq_iff.mp h with ⟨h, -⟩ | ⟨-, h⟩
    · exact hA h
    · exact hB h

theorem sorted_pair_eq_iff (a b c d : String) : sorted [a, b] = sorted [c, d] ↔ s(a, b) = s(c, d) := by
  have hperm : sorted [a, b] = sorted [c, d] ↔ [a, b].Perm [c, d] := by
    constructor
    · intro h
      have hab : (sorted [a, b]).Perm [a, b] := List.perm_insertionSort _ _
      rw [h] at hab
      exact hab.symm.trans (List.perm_insertionSort _ _)
    · intro h
      have hsorted : (sorted [a, b]).Perm (sorted [c, d]) :=
        ((List.perm_insertionSort _ _).trans h).trans (List.perm_insertionSort _ _).symm
      exact hsorted.eq_of_sortedLE List.sortedLE_insertionSort List.sortedLE_insertionSort
  rw [hperm, Sym2.eq_iff, List.cons_perm_iff_perm_erase, List.singleton_perm]
  grind

namespace Topology

structure SameNetwork (T₁ T₂ : Topology) : Prop where
  nodes : ∀ node, node ∈ T₁.nodesByName ↔ node ∈ T₂.nodesByName
  links : ∀ entry, entry ∈ T₁.linksById.map Link.described ↔ entry ∈ T₂.linksById.map Link.described

variable {T₁ T₂ : Topology}

theorem nodes_eq_iff : T₁.nodes = T₂.nodes ↔ ∀ node, node ∈ T₁.nodesByName ↔ node ∈ T₂.nodesByName := by
  constructor
  · intro h node
    rw [← mem_nodes, ← mem_nodes, h]
  · intro h
    refine eq_of_sorted_keys T₁.names_sortedLT T₂.names_sortedLT fun node => ?_
    rw [mem_nodes, mem_nodes, h]

theorem described_eq_iff : T₁.links.map Link.described = T₂.links.map Link.described ↔
    ∀ entry, entry ∈ T₁.linksById.map Link.described ↔ entry ∈ T₂.linksById.map Link.described := by
  have hmem : ∀ (T : Topology) entry, entry ∈ T.links.map Link.described ↔
      entry ∈ T.linksById.map Link.described := by
    intro T entry
    simp only [List.mem_map, mem_links]
  have hsorted : ∀ T : Topology, ((T.links.map Link.described).map Prod.fst).SortedLT := by
    intro T
    rw [List.map_map]
    exact T.linkIds_sortedLT
  constructor
  · intro h entry
    rw [← hmem, ← hmem, h]
  · intro h
    refine eq_of_sorted_keys (hsorted T₁) (hsorted T₂) fun entry => ?_
    rw [hmem, hmem, h]

/-- Sorting nodes, links and the ends of a link loses nothing but the order of declaration and the
orientation. -/
theorem document_eq_iff : T₁.document = T₂.document ↔ SameNetwork T₁ T₂ := by
  have hnodes : T₁.document.nodes = T₂.document.nodes ↔ T₁.nodes = T₂.nodes := by
    apply List.map_inj_right
    rintro ⟨⟩ ⟨⟩ h
    simpa using h
  have hlinks : T₁.document.links = T₂.document.links ↔
      T₁.links.map Link.described = T₂.links.map Link.described := by
    apply map_eq_iff_map_eq
    intro link link'
    simp only [Link.described, Prod.mk.injEq, sorted_pair_eq_iff]
  rw [nodes_eq_iff] at hnodes
  rw [described_eq_iff] at hlinks
  constructor
  · intro h
    exact ⟨hnodes.mp (congrArg TopologyDocument.nodes h), hlinks.mp (congrArg TopologyDocument.links h)⟩
  · intro h
    exact congrArg₂ TopologyDocument.mk (hnodes.mpr h.nodes) (hlinks.mpr h.links)

namespace SameNetwork

theorem names_eq (h : SameNetwork T₁ T₂) : T₁.names = T₂.names := by
  ext name
  simp only [names, List.mem_toFinset, List.mem_map, h.nodes]

theorem linkIds_eq (h : SameNetwork T₁ T₂) : T₁.linkIds = T₂.linkIds := by
  have hids : ∀ T : Topology, T.linksById.map Link.id = (T.linksById.map Link.described).map Prod.fst := by
    intro T
    rw [List.map_map]
    rfl
  ext id
  simp only [linkIds, hids, List.mem_toFinset, List.mem_map (f := Prod.fst), h.links]

theorem node_eq (h : SameNetwork T₁ T₂) : T₁.node = T₂.node := by
  funext name
  have hlookup : lookup Node.name T₁.nodesByName name = lookup Node.name T₂.nodesByName name := by
    apply lookup_perm T₁.names_nodup
    rw [List.perm_ext_iff_of_nodup (List.Nodup.of_map _ T₁.names_nodup) (List.Nodup.of_map _ T₂.names_nodup)]
    exact h.nodes
  have hfind : T₁.nodesByName.find? (fun node => node.name == name) =
      T₂.nodesByName.find? fun node => node.name == name := hlookup
  unfold node
  rw [hfind]

theorem arcs_surviving (h : SameNetwork T₁ T₂) (L X : Finset String) :
    IsSurviving T₂.network (removal L X) (T₁.arcs L X) := by
  have hlinks : ∀ (T : Topology) (u v : String) (w : ℤ),
      (∃ link ∈ T.network.edges, link ∉ (removal L X).edges ∧ T.network.across link u = some v ∧
        v ∉ (removal L X).nodes ∧ T.network.weight link = w) ↔
      ∃ entry ∈ T.linksById.map Link.described, entry.1 ∉ L ∧ entry.2.1 = s(u, v) ∧ v ∉ X ∧
      entry.2.2 = w := by
    intro T u v w
    simp only [across_eq, Link.neighbor_some_iff]
    constructor
    · rintro ⟨link, hlink, hL, hends, hX, hw⟩
      exact ⟨link.described, List.mem_map_of_mem hlink, hL, hends, hX, hw⟩
    · rintro ⟨_, hentry, hL, hends, hX, hw⟩
      obtain ⟨link, hlink, rfl⟩ := List.mem_map.mp hentry
      exact ⟨link, hlink, hL, hends, hX, hw⟩
  intro u v w
  rw [T₁.arcs_surviving L X u v w, hlinks, hlinks]
  simp only [h.links]

theorem survivingCosts_eq (h : SameNetwork T₁ T₂) (source : String) (targets L X : Finset String) :
    T₁.survivingCosts source targets L X = T₂.survivingCosts source targets L X := by
  ext c
  by_cases hX : source ∈ X
  · refine iff_of_false ?_ ?_ <;>
    · rintro ⟨t, -, w, hw, -⟩
      exact w.source_not_removed hw hX
  · refine exists_congr fun t => and_congr_right fun _ => ?_
    rw [← route_iff_walk (T₁.arcs_surviving L X) hX c, ← route_iff_walk (h.arcs_surviving L X) hX c]

theorem checkLinks_eq (h : SameNetwork T₁ T₂) : T₁.checkLinks = T₂.checkLinks := by
  funext ids
  rw [checkLinks, checkLinks, h.linkIds_eq]

theorem checkNodes_eq (h : SameNetwork T₁ T₂) : T₁.checkNodes = T₂.checkNodes := by
  funext names
  rw [checkNodes, checkNodes, h.names_eq]

theorem search_eq (h : SameNetwork T₁ T₂) {source : String} (targets L X : Finset String)
    (hs : source ∈ T₂.names) (hX : source ∉ X) :
    T₁.search source targets L X = T₂.search source targets L X := by
  obtain ⟨r₁, hr₁, hd₁⟩ := T₁.search_spec source targets L X (h.names_eq ▸ hs) hX
  obtain ⟨r₂, hr₂, hd₂⟩ := T₂.search_spec source targets L X hs hX
  rw [h.survivingCosts_eq] at hd₁
  rw [hr₁, hr₂, hd₁.unique hd₂]

theorem shortestDistanceExcluding_eq (h : SameNetwork T₁ T₂) :
    T₁.shortestDistanceExcluding = T₂.shortestDistanceExcluding := by
  funext source targets L X
  unfold shortestDistanceExcluding
  rw [h.node_eq, h.checkLinks_eq, h.checkNodes_eq, h.names_eq]
  cases hnode : T₂.node source with
  | error e => rfl
  | ok node =>
    have hs : source ∈ T₂.names := (T₂.node_ok_iff source).mp ⟨node, hnode⟩
    by_cases hX : source ∈ X
    · simp only [hX, if_true]
    · simp only [hX, if_false, h.search_eq _ L X hs hX]

theorem accessNodes_eq (h : SameNetwork T₁ T₂) : T₁.accessNodes = T₂.accessNodes := by
  rw [accessNodes, accessNodes, nodes_eq_iff.mpr h.nodes]

theorem serviceNodes_eq (h : SameNetwork T₁ T₂) : T₁.serviceNodes = T₂.serviceNodes := by
  rw [serviceNodes, serviceNodes, nodes_eq_iff.mpr h.nodes]

theorem auditScenario_eq (h : SameNetwork T₁ T₂) : T₁.auditScenario = T₂.auditScenario := by
  have hpath : T₁.accessPath = T₂.accessPath := by
    funext fault baseline
    rw [accessPath, accessPath, h.shortestDistanceExcluding_eq, h.serviceNodes_eq]
  funext baselineCosts fault
  rw [auditScenario, auditScenario, h.checkLinks_eq, h.checkNodes_eq, hpath, h.node_eq]

theorem auditFaultScenarios_eq (h : SameNetwork T₁ T₂) (scenarios : List FaultScenario) :
    T₁.auditFaultScenarios scenarios = T₂.auditFaultScenarios scenarios := by
  have hbaseline : T₁.baselineCost = T₂.baselineCost := by
    funext access
    simp only [baselineCost, shortestDistance, h.shortestDistanceExcluding_eq, h.serviceNodes_eq]
  rw [auditFaultScenarios, auditFaultScenarios, h.accessNodes_eq, h.serviceNodes_eq, hbaseline,
    h.auditScenario_eq]

end SameNetwork

theorem fingerprint_identifies_network (T₁ T₂ : Topology) :
    (T₁.document = T₂.document ↔ SameNetwork T₁ T₂) ∧
      (T₁.document = T₂.document → ∀ scenarios, T₁.auditFaultScenarios scenarios =
        T₂.auditFaultScenarios scenarios) ∧
      ∀ digest : TopologyDocument → String,
      (digest T₁.document = digest T₂.document → T₁.document = T₂.document) →
        (T₁.fingerprint digest = T₂.fingerprint digest ↔ SameNetwork T₁ T₂) := by
  refine ⟨document_eq_iff, fun h => (document_eq_iff.mp h).auditFaultScenarios_eq, fun digest hdigest => ?_⟩
  rw [← document_eq_iff]
  exact ⟨hdigest, congrArg digest⟩

def turnedDiamond : Topology where
  nodesByName := diamond.nodesByName.reverse
  linksById := [⟨"agg2--service-host", "agg2", "service-host", 5⟩, ⟨"access1--agg1", "agg1", "access1", 10⟩,
    ⟨"agg1--service-host", "service-host", "agg1", 5⟩, ⟨"access1--agg2", "agg2", "access1", 10⟩]
  names_nodup := by decide
  ids_nodup := by decide
  cost_pos := by decide
  no_self_link := by decide
  endpoint_known := by decide

example : diamond.document = turnedDiamond.document := by decide +kernel

end Topology

end TelconetSentinel

import TelconetSentinel.Resilience

namespace TelconetSentinel.Topology

open FallibleLists WeightedWalks

variable (T : Topology)

def incidentLinks (name : String) : Finset String :=
  ((T.linksById.filter fun link => link.endpointA = name ∨ link.endpointB = name).map Link.id).toFinset

theorem mem_incidentLinks {link : Link} (h : link ∈ T.linksById) (name : String) :
    link.id ∈ T.incidentLinks name ↔ T.network.Incident name link := by
  simp only [incidentLinks, List.mem_toFinset, List.mem_map, List.mem_filter, decide_eq_true_eq]
  constructor
  · rintro ⟨link', ⟨hm, hinc⟩, hid⟩
    obtain rfl := T.link_eq_of_id hm h hid
    exact hinc
  · intro hinc
    exact ⟨link, ⟨h, hinc⟩, rfl⟩

theorem incidentLinks_known (name : String) : T.incidentLinks name ⊆ T.linkIds := by
  intro id hid
  obtain ⟨link, hm, rfl⟩ := List.mem_map.mp (List.mem_toFinset.mp hid)
  exact List.mem_toFinset.mpr (List.mem_map_of_mem (List.mem_filter.mp hm).1)

theorem survivingCosts_node (source : String) (targets L X : Finset String) (name : String)
    (hs : source ≠ name) :
    T.survivingCosts source targets L (insert name X) =
      T.survivingCosts source targets (L ∪ T.incidentLinks name) X := by
  have hnodes : removal L (insert name X) =
      ⟨{link | link.id ∈ L}, insert name {x | x ∈ X}⟩ := by
    simp [removal, Set.ext_iff]
  unfold survivingCosts
  rw [hnodes, costs_node_removal _ _ _ _ _ _ hs]
  refine costs_congr T.network ?_ ?_ _ _
  · intro link hlink
    simp only [removal, Set.mem_union, Set.mem_ofPred_eq, Finset.mem_union, T.mem_incidentLinks hlink name]
  · rfl

theorem checkLinks_union (L L' : Finset String) (h : L' ⊆ T.linkIds) :
    T.checkLinks (L ∪ L') = T.checkLinks L := by
  unfold checkLinks
  rw [Finset.union_sdiff_distrib, Finset.sdiff_eq_empty_iff_subset.mpr h, Finset.union_empty]

theorem checkNodes_insert (X : Finset String) (name : String) (h : name ∈ T.names) :
    T.checkNodes (insert name X) = T.checkNodes X := by
  unfold checkNodes
  rw [Finset.insert_sdiff_of_mem _ h]

theorem shortestDistance_node_eq_links (source : String) (targets L X : Finset String) (name : String)
    (hname : name ∈ T.names) (hs : source ≠ name) :
    T.shortestDistanceExcluding source targets L (insert name X) =
      T.shortestDistanceExcluding source targets (L ∪ T.incidentLinks name) X := by
  have hlinks := T.checkLinks_union L _ (T.incidentLinks_known name)
  have hnodes := T.checkNodes_insert X name hname
  cases hnode : T.node source with
  | error e => simp only [shortestDistanceExcluding, hnode]; rfl
  | ok node =>
    cases hL : T.checkLinks L with
    | error e => simp only [shortestDistanceExcluding, hnode, hlinks, hL]; rfl
    | ok _ =>
      cases hX : T.checkNodes X with
      | error e => simp only [shortestDistanceExcluding, hnode, hlinks, hnodes, hL, hX]; rfl
      | ok _ =>
        have hsource := (T.node_ok_iff source).mp ⟨node, hnode⟩
        obtain ⟨r, hr, hd⟩ := T.shortestDistanceExcluding_ok targets hsource
          ((T.checkLinks_ok_iff L).mp hL) ((T.checkNodes_ok_iff _).mp (hnodes.trans hX))
        obtain ⟨r', hr', hd'⟩ := T.shortestDistanceExcluding_ok targets hsource
          ((T.checkLinks_ok_iff _).mp (hlinks.trans hL)) ((T.checkNodes_ok_iff X).mp hX)
        rw [hr, hr', hd.unique (T.survivingCosts_node source targets L X name hs ▸ hd')]

theorem transport_not_access {node : Node} (h : node ∈ T.transportNodes) : node.name ∉ T.accessNodes := by
  intro ha
  obtain ⟨node', hm, hrole, hname⟩ := (T.mem_accessNodes _).mp ha
  obtain ⟨hn, hrole'⟩ := List.mem_filter.mp h
  obtain rfl := T.node_eq_of_name hm ((T.mem_nodes node).mp hn) hname
  simp [hrole] at hrole'

theorem serviceCosts_node (name access : String) (ha : access ≠ name) :
    T.serviceCosts ∅ {name} access = T.serviceCosts (T.incidentLinks name) ∅ access := by
  have h := T.survivingCosts_node access T.serviceNodes ∅ ∅ name ha
  rwa [Finset.empty_union] at h

theorem node_fault_is_link_fault (name : String) (hname : name ∈ T.names) :
    (∀ source targets L X, name ≠ source → name ∉ targets →
      T.shortestDistanceExcluding source targets L (insert name X) =
        T.shortestDistanceExcluding source targets (L ∪ T.incidentLinks name) X) ∧
    (∀ node ∈ T.transportNodes, node.name = name → ∀ scenarios audit, T.auditFaultScenarios scenarios =
      .ok audit →
      ∀ r ∈ audit.scenarios, r.fault.excludedLinks = ∅ → r.fault.excludedNodes = {name} →
      (∀ path ∈ r.paths, T.shortestDistanceExcluding path.accessNode T.serviceNodes (T.incidentLinks name) ∅ =
        .ok path.postFaultCost) ∧
      (T.incidentLinks name = ∅ → r.serviceImpact = .redundancyReduced ∧ r.affectedNodes = []) ∧
      ∀ scenarios' audit', T.auditFaultScenarios scenarios' = .ok audit' → ∀ r' ∈ audit'.scenarios,
        r'.fault.excludedLinks = T.incidentLinks name → r'.fault.excludedNodes = ∅ →
        r.paths = r'.paths ∧ r.serviceImpact = r'.serviceImpact ∧ r.affectedNodes = r'.affectedNodes) := by
  refine ⟨fun source targets L X hs _ =>
    T.shortestDistance_node_eq_links source targets L X name hname hs.symm, ?_⟩
  rintro node hnode rfl scenarios audit h r hr hL hX
  obtain ⟨fault, -, hspec⟩ := exists_left (T.auditFaultScenarios_ok h) hr
  obtain rfl := hspec.fault_eq
  have hne : ∀ access ∈ T.accessNodes, access ≠ node.name := by
    rintro access ha rfl
    exact T.transport_not_access hnode ha
  have hcosts : ∀ access ∈ T.accessNodes, T.serviceCosts r.fault.excludedLinks r.fault.excludedNodes access =
      T.serviceCosts (T.incidentLinks node.name) ∅ access := by
    intro access ha
    rw [hL, hX, T.serviceCosts_node _ _ (hne access ha)]
  refine ⟨fun path hp => ?_, fun hempty => ?_, fun scenarios' audit' h' r' hr' hL' hX' => ?_⟩
  · obtain ⟨access, ha, hpath⟩ := exists_left hspec.paths hp
    obtain ⟨d, hd, hdist⟩ := T.shortestDistanceExcluding_ok T.serviceNodes (T.accessNodes_known ha)
      (T.incidentLinks_known node.name) (Finset.empty_subset _)
    have hafter := hpath.after
    rw [hcosts access ha] at hafter
    rw [hpath.node, hd, hafter.unique hdist]
  · have hkeep : ∀ access ∈ T.accessNodes, T.KeepsShortest r.fault access := by
      intro access ha
      obtain ⟨path, -, hpath⟩ := exists_right hspec.paths ha
      have hafter := hpath.after
      rw [hcosts access ha, hempty] at hafter
      exact hpath.kept_iff.mp (hafter.unique hpath.baseline)
    refine ⟨hspec.reduced_iff.mpr hkeep, List.eq_nil_iff_forall_not_mem.mpr fun access hmem => ?_⟩
    obtain ⟨ha, hl⟩ := (hspec.affected_iff access).mp hmem
    exact (not_keepsShortest _ _ _ _).mpr hl (hkeep access ha)
  · obtain ⟨fault', -, hspec'⟩ := exists_left (T.auditFaultScenarios_ok h') hr'
    obtain rfl := hspec'.fault_eq
    obtain ⟨hpaths, himpact, haffected, -⟩ := hspec.toReportedAs.congr hspec'.toReportedAs
      fun access ha => by rw [hcosts access ha, hL', hX']
    exact ⟨hpaths, himpact, haffected⟩

def agg1Fault : FaultScenario where
  id := "node:agg1"
  kind := .node
  excludedLinks := ∅
  excludedNodes := {"agg1"}
  id_valid := by decide
  component := by decide
  link_kind := by decide
  node_kind := by decide
  composite_kind := by decide

theorem node_fault_is_link_fault_agg1 :
    diamond.shortestDistanceExcluding "access1" {"service-host"} ∅ {"agg1"} =
      diamond.shortestDistanceExcluding "access1" {"service-host"} (∅ ∪ diamond.incidentLinks "agg1") ∅ ∧
    ∃ audit, diamond.auditFaultScenarios [agg1Fault] = .ok audit ∧ ∀ r ∈ audit.scenarios,
    r.fault = agg1Fault →
      ∀ path ∈ r.paths, diamond.shortestDistanceExcluding path.accessNode diamond.serviceNodes
        (diamond.incidentLinks "agg1") ∅ = .ok path.postFaultCost := by
  have h := node_fault_is_link_fault diamond "agg1" (by decide)
  obtain ⟨audit, ha⟩ : ∃ a, diamond.auditFaultScenarios [agg1Fault] = .ok a := ⟨_, rfl⟩
  refine ⟨h.1 "access1" {"service-host"} ∅ ∅ (by decide) (by decide), audit, ha, fun r hr hf => ?_⟩
  exact (h.2 ⟨"agg1", .aggregation, []⟩ (by decide) rfl _ _ ha r hr (by rw [hf]; rfl) (by rw [hf]; rfl)).1

end TelconetSentinel.Topology

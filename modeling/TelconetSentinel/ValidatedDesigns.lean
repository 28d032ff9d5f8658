import TelconetSentinel.FailureDomains
import TelconetSentinel.Intent
import TelconetSentinel.Resilience

namespace TelconetSentinel

open FallibleLists KeyedLists WeightedWalks

theorem isScenarioId_tagged (tag : String) {id : String} {limit : ℕ}
    (htag : tag ∈ ["link:", "node:", "srlg:"]) (hlimit : limit ≤ 127) (hid : isIdentifier limit id = true) :
    isScenarioId (tag ++ id) = true := by
  have htags : ∀ tag ∈ ["link:", "node:", "srlg:"],
      fullmatch isLower (fun c => isLower c || isDigit c || c == ':' || c == '-') 4 tag = true := by
    decide
  have hchars := fullmatch_chars (fun c => isLower c || isDigit c || c == ':' || c == '-') hid
    (fun c hc => by simp [hc]) fun c hc => by
      simp only [Bool.or_eq_true] at hc ⊢
      tauto
  have hlength : id.toList.length ≤ 251 := (fullmatch_length hid).trans (by omega)
  exact fullmatch_append (htags tag htag) hchars hlength

namespace Topology

variable (T : Topology)

theorem linkFault_returns {link : Link} (hid : isComponentId link.id = true) :
    ∃ fault, linkFault link = .ok fault := by
  apply FaultScenario.init_returns
  · exact isScenarioId_tagged "link:" (by decide) le_rfl hid
  all_goals simp

theorem nodeFault_returns {node : Node} (hname : isComponentId node.name = true) :
    ∃ fault, nodeFault node = .ok fault := by
  apply FaultScenario.init_returns
  · exact isScenarioId_tagged "node:" (by decide) le_rfl hname
  all_goals simp

theorem domainFault_returns {item : String × FailureDomainIntent} (hid : isIdentifier 63 item.1 = true) :
    ∃ fault, domainFault item = .ok fault := by
  have hcards : 2 ≤ item.2.links.toFinset.card + item.2.nodes.toFinset.card := by
    rw [List.toFinset_card_of_nodup item.2.links_nodup, List.toFinset_card_of_nodup item.2.nodes_nodup]
    exact item.2.two_components
  apply FaultScenario.init_returns
  · exact isScenarioId_tagged "srlg:" (by decide) (by omega) hid
  · omega
  · simp
  · simp
  · exact fun _ => hcards

/-- What every audit asks of a topology, whatever the faults are, fails. -/
def Unauditable : Prop :=
  (∀ node ∈ T.nodesByName, node.role ≠ .access) ∨ (∀ node ∈ T.nodesByName, node.role ≠ .service) ∨
    ∃ access ∈ T.nodesByName, access.role = .access ∧ ∀ service ∈ T.nodesByName, service.role = .service →
      IsEmpty (Walk T.network access.name service.name)

theorem serviceCosts_empty_iff (access : String) : T.serviceCosts ∅ ∅ access = ∅ ↔
    ∀ service ∈ T.nodesByName, service.role = .service → IsEmpty (Walk T.network access service.name) := by
  unfold serviceCosts survivingCosts
  rw [removal_empty, Set.eq_empty_iff_forall_notMem]
  constructor
  · intro h service hservice hrole
    refine ⟨fun w => h w.cost ⟨service.name, ?_, w, w.avoids_none, rfl⟩⟩
    exact (T.mem_serviceNodes _).mpr ⟨service, hservice, hrole, rfl⟩
  · rintro h c ⟨target, htarget, w, -, -⟩
    obtain ⟨service, hservice, hrole, rfl⟩ := (T.mem_serviceNodes target).mp htarget
    exact (h service hservice hrole).false w

theorem not_unauditable_iff : ¬ T.Unauditable ↔
    T.accessNodes ≠ [] ∧ T.serviceNodes ≠ ∅ ∧ ∀ access ∈ T.accessNodes, T.serviceCosts ∅ ∅ access ≠ ∅ := by
  have haccess : T.accessNodes ≠ [] ↔ ¬ ∀ node ∈ T.nodesByName, node.role ≠ .access := by
    rw [ne_eq, not_iff_not, List.eq_nil_iff_forall_not_mem]
    simp only [mem_accessNodes]
    exact ⟨fun h node hnode hrole => h _ ⟨node, hnode, hrole, rfl⟩, fun h _ ⟨node, hnode, hrole, _⟩ =>
      h node hnode hrole⟩
  have hservice : T.serviceNodes ≠ ∅ ↔ ¬ ∀ node ∈ T.nodesByName, node.role ≠ .service := by
    rw [ne_eq, not_iff_not, Finset.eq_empty_iff_forall_notMem]
    simp only [mem_serviceNodes]
    exact ⟨fun h node hnode hrole => h _ ⟨node, hnode, hrole, rfl⟩, fun h _ ⟨node, hnode, hrole, _⟩ =>
      h node hnode hrole⟩
  rw [Unauditable, not_or, not_or, haccess, hservice]
  refine and_congr_right fun _ => and_congr_right fun _ => ?_
  simp only [← serviceCosts_empty_iff, not_exists, not_and, mem_accessNodes]
  constructor
  · rintro h _ ⟨node, hnode, hrole, rfl⟩
    exact h node hnode hrole
  · intro h node hnode hrole
    exact h node.name ⟨node, hnode, hrole, rfl⟩

theorem baselineCost_returns_iff {access : String} (h : access ∈ T.names) :
    (∃ baseline, T.baselineCost access = .ok baseline) ↔ T.serviceCosts ∅ ∅ access ≠ ∅ := by
  constructor
  · rintro ⟨baseline, hbaseline⟩ hempty
    obtain ⟨-, hleast⟩ := T.baselineCost_ok hbaseline
    exact Set.notMem_empty _ (hempty ▸ hleast.1)
  · intro hcosts
    obtain ⟨distance, hrun, hdistance⟩ :=
      T.shortestDistanceExcluding_ok T.serviceNodes h (Finset.empty_subset T.linkIds)
        (Finset.empty_subset T.names)
    cases distance with
    | none => exact absurd hdistance hcosts
    | some d =>
      refine ⟨(access, d), (bind_ok_iff _ _ _).mpr ⟨some d, hrun, rfl⟩⟩

theorem accessPath_returns {fault : FaultScenario} {baseline : String × ℤ} (h : baseline.1 ∈ T.names)
    (hlinks : fault.excludedLinks ⊆ T.linkIds) (hnodes : fault.excludedNodes ⊆ T.names) :
    ∃ path, T.accessPath fault baseline = .ok path := by
  obtain ⟨after, hrun, -⟩ := T.shortestDistanceExcluding_ok T.serviceNodes h hlinks hnodes
  exact ⟨_, (bind_ok_iff _ _ _).mpr ⟨after, hrun, rfl⟩⟩

theorem auditScenario_returns_iff {baselineCosts : List (String × ℤ)}
    (hbase : ∀ baseline ∈ baselineCosts, baseline.1 ∈ T.names) (fault : FaultScenario) :
    (∃ r, T.auditScenario baselineCosts fault = .ok r) ↔
      fault.excludedLinks ⊆ T.linkIds ∧ fault.excludedNodes ⊆ T.names := by
  rw [← T.checkLinks_ok_iff, ← T.checkNodes_ok_iff]
  constructor
  · rintro ⟨r, hr⟩
    obtain ⟨_, hlinks, hr⟩ := (bind_ok_iff _ _ _).mp hr
    obtain ⟨_, hnodes, -⟩ := (bind_ok_iff _ _ _).mp hr
    exact ⟨hlinks, hnodes⟩
  · rintro ⟨hlinks, hnodes⟩
    obtain ⟨paths, hpaths⟩ := exists_mapM_ok (T.accessPath fault) baselineCosts fun baseline hbaseline =>
      T.accessPath_returns (hbase baseline hbaseline) ((T.checkLinks_ok_iff _).mp hlinks)
        ((T.checkNodes_ok_iff _).mp hnodes)
    have hknown : ∀ path ∈ paths, path.accessNode ∈ T.names := by
      intro path hpath
      obtain ⟨baseline, hbaseline, hrun⟩ := exists_left ((mapM_ok_iff _ _ _).mp hpaths) hpath
      rw [(T.accessPath_ok hrun).1]
      exact hbase baseline hbaseline
    have howners : ∀ names : List String, (∀ name ∈ names, ∃ path ∈ paths, path.accessNode = name) →
        ∃ owners, names.mapM T.node = .ok owners := by
      intro names hnames
      refine exists_mapM_ok T.node names fun name hname => (T.node_ok_iff name).mpr ?_
      obtain ⟨path, hpath, rfl⟩ := hnames name hname
      exact hknown path hpath
    unfold auditScenario
    simp only [hlinks, hnodes, hpaths, ok_bind]
    obtain ⟨owners, hrun⟩ := howners (sorted
      ((paths.filter fun path => path.Unavailable).map AccessPathResult.accessNode ∪
        (paths.filter fun path => path.Degraded).map AccessPathResult.accessNode)) (by
      intro name hname
      simp only [sorted, List.mem_insertionSort, List.mem_union_iff, List.mem_map, List.mem_filter] at hname
      rcases hname with ⟨path, ⟨hpath, -⟩, hname⟩ | ⟨path, ⟨hpath, -⟩, hname⟩
      all_goals exact ⟨path, hpath, hname⟩)
    exact ⟨_, (bind_ok_iff _ _ _).mpr ⟨owners, hrun, rfl⟩⟩

theorem auditFaultScenarios_returns_iff (scenarios : List FaultScenario) :
    (∃ audit, T.auditFaultScenarios scenarios = .ok audit) ↔ ¬ T.Unauditable ∧ scenarios ≠ [] ∧
      (scenarios.map FaultScenario.id).Nodup ∧
      ∀ fault ∈ scenarios, fault.excludedLinks ⊆ T.linkIds ∧ fault.excludedNodes ⊆ T.names := by
  have hbaselines : (∃ baselineCosts, T.accessNodes.mapM T.baselineCost = .ok baselineCosts) ↔
      ∀ access ∈ T.accessNodes, T.serviceCosts ∅ ∅ access ≠ ∅ := by
    constructor
    · rintro ⟨baselineCosts, hrun⟩ access haccess
      obtain ⟨baseline, -, hbaseline⟩ := exists_right ((mapM_ok_iff _ _ _).mp hrun) haccess
      exact (T.baselineCost_returns_iff (T.accessNodes_known haccess)).mp ⟨baseline, hbaseline⟩
    · intro h
      exact exists_mapM_ok _ _ fun access haccess =>
        (T.baselineCost_returns_iff (T.accessNodes_known haccess)).mpr (h access haccess)
  rw [not_unauditable_iff, ← hbaselines]
  unfold auditFaultScenarios
  simp only [check_ok_iff, bind_ok_iff]
  have hresults : ∀ baselineCosts, T.accessNodes.mapM T.baselineCost = .ok baselineCosts →
      ∀ fault, (∃ r, T.auditScenario baselineCosts fault = .ok r) ↔
        fault.excludedLinks ⊆ T.linkIds ∧ fault.excludedNodes ⊆ T.names := by
    intro baselineCosts hrun
    apply T.auditScenario_returns_iff
    intro baseline hbaseline
    obtain ⟨access, haccess, hcost⟩ := exists_left ((mapM_ok_iff _ _ _).mp hrun) hbaseline
    rw [(T.baselineCost_ok hcost).1]
    exact T.accessNodes_known haccess
  constructor
  · rintro ⟨audit, haccess, hservice, hscenarios, hids, baselineCosts, hrun, results, haudit, -⟩
    refine ⟨⟨haccess, hservice, baselineCosts, hrun⟩, hscenarios, not_not.mp hids, fun fault hfault => ?_⟩
    obtain ⟨r, -, hr⟩ := exists_right ((mapM_ok_iff _ _ _).mp haudit) hfault
    exact (hresults baselineCosts hrun fault).mp ⟨r, hr⟩
  · rintro ⟨⟨haccess, hservice, baselineCosts, hrun⟩, hscenarios, hids, hknown⟩
    obtain ⟨results, haudit⟩ := exists_mapM_ok (T.auditScenario baselineCosts) scenarios fun fault hfault =>
      (hresults baselineCosts hrun fault).mpr (hknown fault hfault)
    exact ⟨⟨results⟩, haccess, hservice, hscenarios, not_not.mpr hids, baselineCosts, hrun, results, haudit,
      rfl⟩

theorem faults_return {α : Type} (tag : String) (id : α → String) {faultOf : α → Result FaultScenario}
    {items : List α} (hreturns : ∀ item ∈ items, ∃ fault, faultOf item = .ok fault)
    (hid : ∀ item fault, faultOf item = .ok fault → fault.id = tag ++ id item) (hids : (items.map id).Nodup) :
    ∃ faults, items.mapM faultOf = .ok faults ∧ (faults.map FaultScenario.id).Nodup ∧
      List.Forall₂ (fun item fault => faultOf item = .ok fault) items faults := by
  obtain ⟨faults, hrun⟩ := exists_mapM_ok faultOf items hreturns
  have hmade := (mapM_ok_iff _ _ _).mp hrun
  refine ⟨faults, hrun, ?_, hmade⟩
  have htagged : (items.map id).map (tag ++ ·) = faults.map FaultScenario.id := by
    rw [List.map_map]
    exact map_eq_map hmade fun item fault h => (hid item fault h).symm
  rw [← htagged]
  exact hids.map fun _ _ h => (String.append_right_inj tag).mp h

theorem adapted_returns_iff {β : Type} (adapt : FaultScenarioResult → Result β) {faults : List FaultScenario}
    (hne : faults ≠ []) (hnodup : (faults.map FaultScenario.id).Nodup)
    (hknown : ∀ fault ∈ faults, fault.excludedLinks ⊆ T.linkIds ∧ fault.excludedNodes ⊆ T.names)
    (hadapt : ∀ r : FaultScenarioResult, r.fault ∈ faults → ∃ s, adapt r = .ok s) :
    (∃ audit, T.auditFaultScenarios faults = .ok audit ∧ ∃ scenarios,
      audit.scenarios.mapM adapt = .ok scenarios) ↔
      ¬ T.Unauditable := by
  have hreturns := T.auditFaultScenarios_returns_iff faults
  constructor
  · rintro ⟨audit, haudit, -⟩
    exact (hreturns.mp ⟨audit, haudit⟩).1
  · intro h
    obtain ⟨audit, haudit⟩ := hreturns.mpr ⟨h, hne, hnodup, hknown⟩
    refine ⟨audit, haudit, exists_mapM_ok adapt _ fun r hr => hadapt r ?_⟩
    obtain ⟨fault, hfault, haudited⟩ := exists_left (T.auditFaultScenarios_ok haudit) hr
    exact haudited.fault_eq ▸ hfault

theorem auditSingleLinkFailures_returns_iff (hids : ∀ link ∈ T.linksById, isComponentId link.id = true)
    (hlinks : T.linksById ≠ []) : (∃ audit, T.auditSingleLinkFailures = .ok audit) ↔ ¬ T.Unauditable := by
  obtain ⟨faults, hrun, hnodup, hmade⟩ := faults_return "link:" Link.id
    (fun link hlink => linkFault_returns (hids link ((T.mem_links link).mp hlink)))
    (fun _ _ h => (FaultScenario.init_ok h).1) T.linkIds_sortedLT.nodup
  have hfaults : ∀ fault ∈ faults, ∃ link ∈ T.linksById, fault.excludedLinks = {link.id} ∧
      fault.excludedNodes = ∅ := by
    intro fault hfault
    obtain ⟨link, hlink, h⟩ := exists_left hmade hfault
    exact ⟨link, (T.mem_links link).mp hlink, (FaultScenario.init_ok h).2.2⟩
  rw [← T.adapted_returns_iff T.linkFailureScenario ?_ hnodup ?_ ?_]
  · simp only [auditSingleLinkFailures, linkFailureScenarios, hrun, ok_bind, bind_ok_iff]
    constructor
    · rintro ⟨_, audit, haudit, scenarios, hscenarios, -⟩
      exact ⟨audit, haudit, scenarios, hscenarios⟩
    · rintro ⟨audit, haudit, scenarios, hscenarios⟩
      exact ⟨⟨scenarios⟩, audit, haudit, scenarios, hscenarios, rfl⟩
  · rintro rfl
    have hnil := hmade.length_eq
    rw [Topology.links, List.length_insertionSort, List.length_nil] at hnil
    exact hlinks (List.length_eq_zero_iff.mp hnil)
  · intro fault hfault
    obtain ⟨link, hlink, hL, hX⟩ := hfaults fault hfault
    rw [hL, hX]
    refine ⟨Finset.singleton_subset_iff.mpr ?_, Finset.empty_subset _⟩
    exact List.mem_toFinset.mpr (List.mem_map_of_mem hlink)
  · intro r hr
    obtain ⟨link, hlink, hL, -⟩ := hfaults r.fault hr
    rw [linkFailureScenario, hL, firstMember_singleton, ok_bind, T.link_known hlink]
    exact ⟨_, rfl⟩

theorem auditSingleNodeFailures_returns_iff (hnames : ∀ node ∈ T.nodesByName,
    isComponentId node.name = true) :
    (∃ audit, T.auditSingleNodeFailures = .ok audit) ↔ ¬ T.Unauditable ∧ T.transportNodes ≠ [] := by
  have hmem : ∀ node ∈ T.transportNodes, node ∈ T.nodesByName := fun node hnode =>
    (T.mem_nodes node).mp (List.mem_of_mem_filter hnode)
  have hsub : (T.transportNodes.map Node.name).Nodup :=
    T.names_sortedLT.nodup.sublist (List.filter_sublist.map Node.name)
  obtain ⟨faults, hrun, hnodup, hmade⟩ := faults_return "node:" Node.name
    (fun node hnode => nodeFault_returns (hnames node (hmem node hnode)))
    (fun _ _ h => (FaultScenario.init_ok h).1) hsub
  have hfaults : ∀ fault ∈ faults, ∃ node ∈ T.nodesByName, fault.excludedLinks = ∅ ∧
      fault.excludedNodes = {node.name} := by
    intro fault hfault
    obtain ⟨node, hnode, h⟩ := exists_left hmade hfault
    exact ⟨node, hmem node hnode, (FaultScenario.init_ok h).2.2⟩
  have hempty : faults = [] ↔ T.transportNodes = [] := by
    rw [← List.length_eq_zero_iff, ← hmade.length_eq, List.length_eq_zero_iff]
  by_cases hnil : faults = []
  · refine iff_of_false ?_ fun h => h.2 (hempty.mp hnil)
    simp [auditSingleNodeFailures, transportNodeFailureScenarios, hrun, hnil, ok_bind, error_bind]
  · rw [and_iff_left (mt hempty.mpr hnil),
      ← T.adapted_returns_iff T.nodeFailureScenario hnil hnodup ?_ ?_]
    · simp only [auditSingleNodeFailures, transportNodeFailureScenarios, hrun, hnil, if_false, ok_bind,
        pure_bind, bind_ok_iff]
      constructor
      · rintro ⟨_, audit, haudit, scenarios, hscenarios, -⟩
        exact ⟨audit, haudit, scenarios, hscenarios⟩
      · rintro ⟨audit, haudit, scenarios, hscenarios⟩
        exact ⟨⟨scenarios⟩, audit, haudit, scenarios, hscenarios, rfl⟩
    · intro fault hfault
      obtain ⟨node, hnode, hL, hX⟩ := hfaults fault hfault
      rw [hL, hX]
      refine ⟨Finset.empty_subset _, Finset.singleton_subset_iff.mpr ?_⟩
      exact List.mem_toFinset.mpr (List.mem_map_of_mem hnode)
    · intro r hr
      obtain ⟨node, hnode, -, hX⟩ := hfaults r.fault hr
      obtain ⟨found, hfound⟩ :=
        (T.node_ok_iff node.name).mpr (List.mem_toFinset.mpr (List.mem_map_of_mem hnode))
      rw [nodeFailureScenario, hX, firstMember_singleton, ok_bind, hfound]
      exact ⟨_, rfl⟩

theorem auditFailureDomains_returns_iff (digest : TopologyDocument → String)
    (catalog : FailureDomainCatalog) :
    (∃ audit, T.auditFailureDomains digest catalog = .ok audit) ↔
    T.fingerprint digest = catalog.topologySha256 ∧
      ¬ T.Unauditable ∧ ∀ domain ∈ catalog.failureDomains, domain.2.links.toFinset ⊆ T.linkIds ∧
        domain.2.nodes.toFinset ⊆ T.names := by
  have hmem : ∀ domain, domain ∈ catalog.domainItems ↔ domain ∈ catalog.failureDomains := fun domain =>
    List.mem_insertionSort _
  have hkeys : (catalog.domainItems.map Prod.fst).Nodup :=
    ((List.perm_insertionSort _ catalog.failureDomains).map Prod.fst).nodup_iff.mpr catalog.keys_nodup
  obtain ⟨faults, hrun, hnodup, hmade⟩ := faults_return "srlg:" Prod.fst
    (fun domain hdomain => domainFault_returns (catalog.ids_valid domain ((hmem domain).mp hdomain)))
    (fun _ _ h => (FaultScenario.init_ok h).1) hkeys
  have hne : faults ≠ [] := by
    rintro rfl
    have hlength := hmade.length_eq
    rw [FailureDomainCatalog.domainItems, List.length_insertionSort, List.length_nil] at hlength
    have := catalog.domains_length.1
    omega
  have hknown : (∀ fault ∈ faults, fault.excludedLinks ⊆ T.linkIds ∧ fault.excludedNodes ⊆ T.names) ↔
      ∀ domain ∈ catalog.failureDomains, domain.2.links.toFinset ⊆ T.linkIds ∧
      domain.2.nodes.toFinset ⊆ T.names := by
    constructor
    · intro h domain hdomain
      obtain ⟨fault, hfault, hof⟩ := exists_right hmade ((hmem domain).mpr hdomain)
      obtain ⟨-, -, hL, hX⟩ := FaultScenario.init_ok hof
      rw [← hL, ← hX]
      exact h fault hfault
    · intro h fault hfault
      obtain ⟨domain, hdomain, hof⟩ := exists_left hmade hfault
      obtain ⟨-, -, hL, hX⟩ := FaultScenario.init_ok hof
      rw [hL, hX]
      exact h domain ((hmem domain).mp hdomain)
  have hreturns := T.auditFaultScenarios_returns_iff faults
  rw [← hknown]
  simp only [auditFailureDomains, check_ok_iff, hrun, ok_bind, bind_ok_iff, not_not, ne_eq]
  constructor
  · rintro ⟨_, hdigest, audit, haudit, -⟩
    obtain ⟨h, -, -, hall⟩ := hreturns.mp ⟨audit, haudit⟩
    exact ⟨hdigest, h, hall⟩
  · rintro ⟨hdigest, h, hall⟩
    obtain ⟨audit, haudit⟩ := hreturns.mpr ⟨h, hne, hnodup, hall⟩
    exact ⟨_, hdigest, audit, haudit, rfl⟩

theorem transportNodes_nil_iff : T.transportNodes = [] ↔
    ∀ node ∈ T.nodesByName, node.role ≠ .aggregation ∧ node.role ≠ .core := by
  simp only [transportNodes, List.filter_eq_nil_iff, mem_nodes, decide_eq_true_eq, not_or, ne_eq]

end Topology

theorem validated_documents_never_fail (intent : NetworkIntent) :
    ∃ T, intent.toTopology = .ok T ∧
      T.nodesByName = intent.nodes.values.map (fun node => ⟨node.1, node.2.role, node.2.prefixes⟩) ∧
      T.linksById = intent.links.map (fun link => ⟨link.id, link.endpoints.1, link.endpoints.2, link.cost⟩) ∧
      ((∃ e, T.auditSingleLinkFailures = .error e) ↔ T.Unauditable) ∧
      ((∃ e, T.auditSingleNodeFailures = .error e) ↔
        T.Unauditable ∨ ∀ node ∈ T.nodesByName, node.role ≠ .aggregation ∧ node.role ≠ .core) ∧
      (∀ (digest : TopologyDocument → String) (catalog : FailureDomainCatalog),
        (∃ e, T.auditFailureDomains digest catalog = .error e) ↔
          T.Unauditable ∨ T.fingerprint digest ≠ catalog.topologySha256 ∨
            ∃ domain ∈ catalog.failureDomains,
              (∃ link ∈ domain.2.links, link ∉ T.linkIds) ∨ ∃ node ∈ domain.2.nodes, node ∉ T.names) ∧
      (∀ link ∈ T.linksById, ∃ fault, Topology.linkFault link = .ok fault) ∧
      (∀ node ∈ T.nodesByName, ∃ fault, Topology.nodeFault node = .ok fault) ∧
      ∀ catalog : FailureDomainCatalog, ∀ domain ∈ catalog.failureDomains, ∃ fault,
      domainFault domain = .ok fault := by
  obtain ⟨T, hT, hnodes, hlinks⟩ := intent.toTopology_ok
  have hids : ∀ link ∈ T.linksById, isComponentId link.id = true := by
    rw [hlinks, List.forall_mem_map]
    exact fun link _ => link.id_valid
  have hnames : ∀ node ∈ T.nodesByName, isComponentId node.name = true := by
    rw [hnodes, List.forall_mem_map]
    exact fun node hnode => intent.names_valid node.1 (List.mem_map_of_mem hnode)
  have hne : T.linksById ≠ [] := by
    intro hnil
    rw [hlinks, List.map_eq_nil_iff] at hnil
    have hlength := intent.links_length
    rw [hnil] at hlength
    exact absurd hlength (by decide)
  refine ⟨T, hT, hnodes, hlinks, ?_, ?_, fun digest catalog => ?_,
    fun link hlink => Topology.linkFault_returns (hids link hlink),
    fun node hnode => Topology.nodeFault_returns (hnames node hnode),
    fun catalog domain hdomain => Topology.domainFault_returns (catalog.ids_valid domain hdomain)⟩
  · rw [exists_error_iff, T.auditSingleLinkFailures_returns_iff hids hne, not_not]
  · rw [exists_error_iff, T.auditSingleNodeFailures_returns_iff hnames, ← T.transportNodes_nil_iff]
    tauto
  · rw [exists_error_iff, T.auditFailureDomains_returns_iff digest catalog]
    have hunknown : (∃ domain ∈ catalog.failureDomains,
        (∃ link ∈ domain.2.links, link ∉ T.linkIds) ∨ ∃ node ∈ domain.2.nodes, node ∉ T.names) ↔
        ¬ ∀ domain ∈ catalog.failureDomains, domain.2.links.toFinset ⊆ T.linkIds ∧
          domain.2.nodes.toFinset ⊆ T.names := by
      simp only [Finset.subset_iff, List.mem_toFinset, not_forall, not_and_or, exists_prop]
    rw [hunknown]
    tauto

end TelconetSentinel

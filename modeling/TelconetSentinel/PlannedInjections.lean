import TelconetSentinel.NodeFaults
import TelconetSentinel.PlannedScenarios

namespace TelconetSentinel

open DocumentValues FallibleLists KeyedLists RuntimeResilience WeightedWalks

/-- The links that a scenario is about: the named one, or all links at the named node. -/
def RuntimeFaultPlan.Removes (scenario : RuntimeFaultPlan) (link : Link) : Prop :=
  if scenario.kind = .link then link.id = scenario.componentId
  else link.endpointA = scenario.componentId ∨ link.endpointB = scenario.componentId

instance (scenario : RuntimeFaultPlan) : DecidablePred scenario.Removes := fun link =>
  inferInstanceAs (Decidable (if scenario.kind = .link then link.id = scenario.componentId
    else link.endpointA = scenario.componentId ∨ link.endpointB = scenario.componentId))

namespace Topology

variable (T : Topology)

def removedLinks (scenario : RuntimeFaultPlan) : Finset String :=
  ((T.linksById.filter fun link => scenario.Removes link).map Link.id).toFinset

def InjectsExactly (lab : LabLinks) (scenario : RuntimeFaultPlan) : Prop :=
  ∀ link ∈ T.links, (∃ item ∈ scenario.injections, HasEnd lab link item.node item.interface) ↔
    scenario.Removes link

def NoParallelLinks : Prop := ∀ link ∈ T.links, ∀ link' ∈ T.links, link.pair = link'.pair → link = link'

def NoSharedInterfaces (lab : LabLinks) : Prop :=
  ∀ link ∈ T.links, ∀ link' ∈ T.links, ∀ ends ends', lab.get link.pair = some ends →
    lab.get link'.pair = some ends' →
    ∀ node interface, ends.interfaceOf node = some interface → ends'.interfaceOf node = some interface →
    ends = ends'

variable {T} {lab : LabLinks} {scenario : RuntimeFaultPlan}

theorem ScenarioOf.removes_link {failed : Link} (h : T.ScenarioOf lab (.link failed) scenario) (link : Link) :
    scenario.Removes link ↔ link.id = failed.id := by
  have hkind : scenario.kind = .link := h.kind
  have hid : scenario.componentId = failed.id := h.componentId
  rw [RuntimeFaultPlan.Removes, if_pos hkind, hid]

theorem ScenarioOf.removes_node {failed : Node} (h : T.ScenarioOf lab (.node failed) scenario) (link : Link) :
    scenario.Removes link ↔ link.endpointA = failed.name ∨ link.endpointB = failed.name := by
  have hkind : scenario.kind = .node := h.kind
  have hid : scenario.componentId = failed.name := h.componentId
  rw [RuntimeFaultPlan.Removes, if_neg (by simp [hkind]), hid]

theorem ScenarioOf.fault_metric {component : FaultComponent} (hcomponent : component ∈ T.faultComponents)
    (h : T.ScenarioOf lab component scenario) : ∀ path ∈ scenario.paths,
      IsDistance (T.serviceCosts (T.removedLinks scenario) ∅ path.accessNode) path.faultMetric := by
  intro path hpath
  obtain ⟨access, haccess, hmetrics⟩ := exists_left h.paths hpath
  have hfault := hmetrics.fault
  rw [hmetrics.node]
  cases component with
  | link failed =>
    have hmem : failed ∈ T.linksById := by simpa [faultComponents, T.mem_links] using hcomponent
    have hremoved : T.removedLinks scenario = {failed.id} := by
      ext id
      simp only [removedLinks, List.mem_toFinset, List.mem_map, List.mem_filter, decide_eq_true_eq,
        h.removes_link, Finset.mem_singleton]
      constructor
      · rintro ⟨link, ⟨-, hid⟩, rfl⟩
        exact hid
      · rintro rfl
        exact ⟨failed, ⟨hmem, rfl⟩, rfl⟩
    rw [hremoved]
    exact hfault
  | node failed =>
    have hmem : failed ∈ T.transportNodes := by simpa [faultComponents] using hcomponent
    have hne : access ≠ failed.name := by
      rintro rfl
      exact T.transport_not_access hmem haccess
    have hremoved : T.removedLinks scenario = T.incidentLinks failed.name := by
      simp only [removedLinks, incidentLinks, h.removes_node]
    rw [hremoved, ← T.serviceCosts_node failed.name access hne]
    exact hfault

/-- A node fault cuts the links of its node and no others, whatever else the files hold. -/
theorem ScenarioOf.node_exact {failed : Node}
    (hdeclared : ∀ link ∈ T.links, ∃ ends, lab.get link.pair = some ends)
    (h : T.ScenarioOf lab (.node failed) scenario) : T.InjectsExactly lab scenario := by
  intro link hlink
  have hends : ∀ {ends}, lab.get link.pair = some ends → (failed.name ∈ ends.pair ↔
      link.endpointA = failed.name ∨ link.endpointB = failed.name) := by
    intro ends hends
    rw [((Dict.get_some_iff _ _).mp hends).2, Link.pair, Sym2.mem_iff, eq_comm, eq_comm (b := link.endpointB)]
  rw [h.removes_node]
  constructor
  · rintro ⟨item, hitem, ends, hget, hinterface⟩
    obtain ⟨hnode, -⟩ := (h.injections item.node item.interface).mp ⟨item, hitem, rfl, rfl⟩
    rw [← hends hget, ← ends.interfaceOf_isSome_iff, ← hnode, hinterface]
    rfl
  · intro hincident
    obtain ⟨ends, hget⟩ := hdeclared link hlink
    obtain ⟨interface, hinterface⟩ := Option.isSome_iff_exists.mp
      ((ends.interfaceOf_isSome_iff _).mpr ((hends hget).mpr hincident))
    obtain ⟨item, hitem, hnode, hsame⟩ := (h.injections failed.name interface).mpr
      ⟨rfl, ends, ((Dict.get_some_iff _ _).mp hget).1, hinterface⟩
    exact ⟨item, hitem, ends, hget, by rw [hnode, hsame, hinterface]⟩

theorem ScenarioOf.link_exact_iff {failed : Link} (hfailed : failed ∈ T.links)
    (hdeclared : ∀ link ∈ T.links, ∃ ends, lab.get link.pair = some ends)
    (h : T.ScenarioOf lab (.link failed) scenario) : T.InjectsExactly lab scenario ↔
      ∀ link ∈ T.links, ∀ node interface, HasEnd lab failed node interface → HasEnd lab link node interface →
        link = failed := by
  constructor
  · intro hexact link hlink node interface hend hend'
    obtain ⟨item, hitem, rfl, rfl⟩ := (h.injections node interface).mpr hend
    have hid := (h.removes_link link).mp ((hexact link hlink).mp ⟨item, hitem, hend'⟩)
    exact T.link_eq_of_id ((T.mem_links link).mp hlink) ((T.mem_links failed).mp hfailed) hid
  · intro hunshared link hlink
    rw [h.removes_link]
    constructor
    · rintro ⟨item, hitem, hend⟩
      have hcut := (h.injections item.node item.interface).mp ⟨item, hitem, rfl, rfl⟩
      rw [hunshared link hlink _ _ hcut hend]
    · intro hid
      obtain rfl := T.link_eq_of_id ((T.mem_links link).mp hlink) ((T.mem_links failed).mp hfailed) hid
      obtain ⟨ends, hget⟩ := hdeclared link hlink
      have hfirst : ends.interfaceOf ends.first.1 = some ends.first.2 := if_pos rfl
      obtain ⟨item, hitem, hnode, hinterface⟩ := (h.injections _ _).mpr ⟨ends, hget, hfirst⟩
      exact ⟨item, hitem, ends, hget, by rw [hnode, hinterface, hfirst]⟩

/-- Two links share an interface when they join the same nodes, or when their containerlab links share one. -/
theorem unshared_iff (hdeclared : ∀ link ∈ T.links, ∃ ends, lab.get link.pair = some ends) :
    (∀ failed ∈ T.links, ∀ link ∈ T.links, ∀ node interface, HasEnd lab failed node interface →
      HasEnd lab link node interface → link = failed) ↔ T.NoParallelLinks ∧ T.NoSharedInterfaces lab := by
  constructor
  · intro h
    refine ⟨fun link hlink link' hlink' hpair => ?_, ?_⟩
    · obtain ⟨ends, hget⟩ := hdeclared link hlink
      have hfirst : ends.interfaceOf ends.first.1 = some ends.first.2 := if_pos rfl
      exact h link' hlink' link hlink _ _ ⟨ends, hpair ▸ hget, hfirst⟩ ⟨ends, hget, hfirst⟩
    · intro link hlink link' hlink' ends ends' hget hget' node interface hi hi'
      obtain rfl := h link' hlink' link hlink node interface ⟨ends', hget', hi'⟩ ⟨ends, hget, hi⟩
      exact Option.some.inj (hget.symm.trans hget')
  · rintro ⟨hparallel, hshared⟩ failed hfailed link hlink node interface ⟨ends, hget, hi⟩ ⟨ends', hget', hi'⟩
    obtain rfl := hshared failed hfailed link hlink ends ends' hget hget' node interface hi hi'
    have hpair := ((Dict.get_some_iff _ _).mp hget).2.symm.trans ((Dict.get_some_iff _ _).mp hget').2
    exact (hparallel failed hfailed link hlink hpair).symm

theorem PlannedAs.exact_iff {plan : RuntimeN1Plan} (h : T.PlannedAs lab plan) :
    (∀ scenario ∈ plan.scenarios, T.InjectsExactly lab scenario) ↔ T.NoParallelLinks ∧
    T.NoSharedInterfaces lab := by
  rw [← unshared_iff h.declared]
  constructor
  · intro hexact failed hfailed
    have hcomponent : FaultComponent.link failed ∈ T.faultComponents :=
      List.mem_append_left _ (List.mem_map_of_mem hfailed)
    obtain ⟨scenario, hscenario, hof⟩ := exists_right h.scenarios hcomponent
    exact (hof.link_exact_iff hfailed h.declared).mp (hexact scenario hscenario)
  · intro hunshared scenario hscenario
    obtain ⟨component, hcomponent, hof⟩ := exists_left h.scenarios hscenario
    cases component with
    | link failed =>
      have hfailed : failed ∈ T.links := by simpa [faultComponents] using hcomponent
      exact (hof.link_exact_iff hfailed h.declared).mpr (hunshared failed hfailed)
    | node failed => exact hof.node_exact h.declared

theorem noParallelLinks_of_nodup (h : (T.linksById.map Link.pair).Nodup) : T.NoParallelLinks := by
  intro link hlink link' hlink' hpair
  exact List.inj_on_of_nodup_map h ((T.mem_links link).mp hlink) ((T.mem_links link').mp hlink') hpair

variable (T) in
theorem noSharedInterfaces_of_nodup (h : (lab.values.flatMap fun ends => [ends.first, ends.second]).Nodup) :
    T.NoSharedInterfaces lab := by
  intro link _ link' _ ends ends' hget hget' node interface hi hi'
  have hends : ∀ {ends : LabLink}, ends.interfaceOf node = some interface →
      (node, interface) ∈ [ends.first, ends.second] := by
    intro ends hi
    unfold LabLink.interfaceOf at hi
    split_ifs at hi with hnode hnode
    · exact List.mem_cons.mpr (Or.inl (Prod.ext hnode (Option.some.inj hi).symm))
    · exact List.mem_cons_of_mem _ (List.mem_singleton.mpr (Prod.ext hnode (Option.some.inj hi).symm))
  exact eq_of_mem_flatMap h ((Dict.get_some_iff _ _).mp hget).1 ((Dict.get_some_iff _ _).mp hget').1
    (hends hi) (hends hi')

end Topology

section

variable (intentFields : Value → Result IntentFields) (digest : TopologyDocument → String)

theorem planned_injections_exact_iff (intentDocument labDocument : Value) (labSha256 : String)
    (plan : RuntimeN1Plan) (h : buildRuntimeN1Plan intentFields digest intentDocument labDocument labSha256 =
      .ok plan) :
    ∃ T lab, candidateTopology intentFields intentDocument = .ok T ∧ loadLabLinks labDocument = .ok lab ∧
      (∀ scenario ∈ plan.scenarios, ∀ path ∈ scenario.paths,
        IsDistance (T.serviceCosts (T.removedLinks scenario) ∅ path.accessNode) path.faultMetric) ∧
      ((∀ scenario ∈ plan.scenarios, T.InjectsExactly lab scenario) ↔
        T.NoParallelLinks ∧ T.NoSharedInterfaces lab) := by
  obtain ⟨T, lab, hT, hlab, hplanned⟩ := buildRuntimeN1Plan_ok h
  refine ⟨T, lab, hT, hlab, fun scenario hscenario => ?_, hplanned.exact_iff⟩
  obtain ⟨component, hcomponent, hof⟩ := exists_left hplanned.scenarios hscenario
  exact hof.fault_metric hcomponent

end

theorem planned_injections_diamond : ∃ plan T lab,
    diamondPlan diamondLab diamondLabSha256 = .ok plan ∧
      candidateTopology (readFields diamondFields) diamondFields.document = .ok T ∧
      loadLabLinks diamondLab = .ok lab ∧
      ∀ scenario ∈ plan.scenarios, T.InjectsExactly lab scenario := by
  obtain ⟨plan, hplan⟩ := diamondPlan_ok
  obtain ⟨T, lab, hT, hlab, -, hexact⟩ := planned_injections_exact_iff _ _ _ _ _ plan hplan
  have hpairs : (candidateTopology (readFields diamondFields) diamondFields.document).toOption.map
      (fun T => decide (T.linksById.map Link.pair).Nodup) = some true := by
    decide +kernel
  have hends : (loadLabLinks diamondLab).toOption.map
      (fun lab => decide (lab.values.flatMap fun ends => [ends.first, ends.second]).Nodup) = some true := by
    decide +kernel
  rw [hT] at hpairs
  rw [hlab] at hends
  have hparallel := Topology.noParallelLinks_of_nodup (of_decide_eq_true (Option.some.inj hpairs))
  have hshared := T.noSharedInterfaces_of_nodup (of_decide_eq_true (Option.some.inj hends))
  exact ⟨plan, T, lab, hplan, hT, hlab, hexact.mpr ⟨hparallel, hshared⟩⟩

def sharedLab : Value :=
  labDocument diamondNodes [("access1:eth1", "agg1:eth1"), ("access1:eth1", "agg2:eth1"),
    ("agg1:eth2", "service-host:eth1"), ("agg2:eth2", "service-host:eth2")]

theorem shared_interface_cut_twice : ∃ plan T lab,
    diamondPlan sharedLab "c3532e2b8a1f2561f559f7a1bbb28d4363aa41cc92bddcf8c378bfd926eb4d01" = .ok plan ∧
      candidateTopology (readFields diamondFields) diamondFields.document = .ok T ∧
      loadLabLinks sharedLab = .ok lab ∧
      ∃ scenario ∈ plan.scenarios, ¬ T.InjectsExactly lab scenario := by
  have hplans : (diamondPlan sharedLab
      "c3532e2b8a1f2561f559f7a1bbb28d4363aa41cc92bddcf8c378bfd926eb4d01").toOption.map
      (fun plan => plan.scenarios.length) = some 6 := by
    decide +kernel
  obtain ⟨plan, hplan, -⟩ := exists_ok hplans
  obtain ⟨T, lab, hT, hlab, hplanned⟩ := buildRuntimeN1Plan_ok hplan
  refine ⟨plan, T, lab, hplan, hT, hlab, ?_⟩
  by_contra hexact
  push Not at hexact
  have hfirst : (loadLabLinks sharedLab).toOption.map (fun lab => (lab.get s("access1", "agg1")).bind
      fun ends => ends.interfaceOf "access1") = some (some "eth1") := by
    decide +kernel
  have hsecond : (loadLabLinks sharedLab).toOption.map (fun lab => (lab.get s("access1", "agg2")).bind
      fun ends => ends.interfaceOf "access1") = some (some "eth1") := by
    decide +kernel
  rw [hlab] at hfirst hsecond
  have hends := Option.bind_eq_some_iff.mp (Option.some.inj hfirst)
  have hends' := Option.bind_eq_some_iff.mp (Option.some.inj hsecond)
  have hunshared := (Topology.unshared_iff hplanned.declared).mpr (hplanned.exact_iff.mp hexact)
  have hsame := hunshared ⟨"access1--agg1", "access1", "agg1", 10⟩ (diamond_link hT (by decide))
    ⟨"access1--agg2", "access1", "agg2", 10⟩ (diamond_link hT (by decide)) "access1" "eth1" hends hends'
  exact absurd hsame (by decide)

end TelconetSentinel

import TelconetSentinel.RuntimePlanBuilder

namespace TelconetSentinel

open DocumentValues FallibleLists KeyedLists WeightedWalks

def Link.pair (link : Link) : Sym2 String := s(link.endpointA, link.endpointB)

def HasEnd (lab : LabLinks) (link : Link) (node interface : String) : Prop :=
  ∃ ends, lab.get link.pair = some ends ∧ ends.interfaceOf node = some interface

inductive FaultComponent
  | link (failed : Link)
  | node (failed : Node)

namespace FaultComponent

def kind : FaultComponent → FaultKind
  | .link _ => .link
  | .node _ => .node

def componentId : FaultComponent → String
  | .link failed => failed.id
  | .node failed => failed.name

def excludedLinks : FaultComponent → Finset String
  | .link failed => {failed.id}
  | .node _ => ∅

def excludedNodes : FaultComponent → Finset String
  | .link _ => ∅
  | .node failed => {failed.name}

structure IsFault (component : FaultComponent) (fault : FaultScenario) : Prop where
  kind : fault.kind = component.kind
  links : fault.excludedLinks = component.excludedLinks
  nodes : fault.excludedNodes = component.excludedNodes

def Cuts (lab : LabLinks) (node interface : String) : FaultComponent → Prop
  | .link failed => HasEnd lab failed node interface
  | .node failed => node = failed.name ∧ ∃ ends ∈ lab.values, ends.interfaceOf failed.name = some interface

end FaultComponent

namespace Topology

variable (T : Topology)

def faultComponents : List FaultComponent :=
  T.links.map FaultComponent.link ++ T.transportNodes.map FaultComponent.node

theorem runtimeFaults_ok {faults : List FaultScenario} (h : T.runtimeFaults = .ok faults) :
    List.Forall₂ FaultComponent.IsFault T.faultComponents faults := by
  obtain ⟨links, hlinks, h⟩ := (bind_ok_iff _ _ _).mp h
  obtain ⟨nodes, hnodes, h⟩ := (bind_ok_iff _ _ _).mp h
  obtain rfl := Except.ok.inj h
  obtain ⟨scenarios, hscenarios, hnodes⟩ := (bind_ok_iff _ _ _).mp hnodes
  split_ifs at hnodes
  obtain rfl := Except.ok.inj hnodes
  apply List.rel_append
  · rw [List.forall₂_map_left_iff]
    refine ((mapM_ok_iff _ _ _).mp hlinks).imp fun link fault hfault => ?_
    obtain ⟨-, hkind, hl, hn⟩ := FaultScenario.init_ok hfault
    exact ⟨hkind, hl, hn⟩
  · rw [List.forall₂_map_left_iff]
    refine ((mapM_ok_iff _ _ _).mp hscenarios).imp fun node fault hfault => ?_
    obtain ⟨-, hkind, hl, hn⟩ := FaultScenario.init_ok hfault
    exact ⟨hkind, hl, hn⟩

structure MetricsOf (component : FaultComponent) (access : String) (path : RuntimePathExpectation) :
    Prop where
  node : path.accessNode = access
  baseline : IsDistance (T.serviceCosts ∅ ∅ access) (some path.baselineMetric)
  fault : IsDistance (T.serviceCosts component.excludedLinks component.excludedNodes access) path.faultMetric

structure ScenarioOf (lab : LabLinks) (component : FaultComponent) (scenario : RuntimeFaultPlan) : Prop where
  kind : scenario.kind = component.kind
  componentId : scenario.componentId = component.componentId
  injections : ∀ node interface,
    (∃ item ∈ scenario.injections, item.node = node ∧ item.interface = interface) ↔
    component.Cuts lab node interface
  paths : List.Forall₂ (T.MetricsOf component) T.accessNodes scenario.paths

structure PlannedAs (lab : LabLinks) (plan : RuntimeN1Plan) : Prop where
  servicePrefix : ∃ text, T.servicePrefixes = [text] ∧ hostNetwork text = some plan.servicePrefix
  declared : ∀ link ∈ T.links, ∃ ends, lab.get link.pair = some ends
  adjacencies : List.Forall₂ (fun node item => item.router = node.name ∧
    item.fullNeighbors = T.degree node.name) T.nodes
    plan.baselineAdjacencies
  scenarios : List.Forall₂ (T.ScenarioOf lab) T.faultComponents plan.scenarios

end Topology

namespace RuntimeResilience

variable {T : Topology} {lab : LabLinks}

theorem injection_ok {link : LabLink} {node : String} {item : InjectionInterface}
    (h : injection link node = .ok item) :
    item.node = node ∧ link.interfaceOf node = some item.interface := by
  unfold injection at h
  cases hi : link.interfaceOf node with
  | none =>
    rw [hi] at h
    cases h
  | some interface =>
    rw [hi] at h
    simp only [InjectionInterface.init] at h
    split_ifs at h
    obtain rfl := Except.ok.inj h
    exact ⟨rfl, rfl⟩

theorem scenarioInjections_link {link : Link} (hlink : link ∈ T.linksById) {fault : FaultScenario}
    (hfault : (FaultComponent.link link).IsFault fault) {componentId : String}
    {injections : List InjectionInterface}
    (h : scenarioInjections T lab fault = .ok (componentId, injections)) :
    componentId = link.id ∧ (∃ ends, lab.get link.pair = some ends) ∧
      ∀ node interface, (∃ item ∈ injections, item.node = node ∧ item.interface = interface) ↔
        (FaultComponent.link link).Cuts lab node interface := by
  have hlinks : fault.excludedLinks = {link.id} := hfault.links
  unfold scenarioInjections at h
  rw [if_pos (by simp [hlinks]), hlinks, firstMember_singleton, ok_bind, T.link_known hlink, ok_bind] at h
  have hpair : s(link.endpointA, link.endpointB) = link.pair := rfl
  rw [hpair] at h
  cases hends : lab.get link.pair with
  | none =>
    rw [hends] at h
    cases h
  | some ends =>
    rw [hends] at h
    obtain ⟨items, hitems, h⟩ := (bind_ok_iff _ _ _).mp h
    obtain ⟨rfl, rfl⟩ := Prod.mk.inj (Except.ok.inj h)
    refine ⟨rfl, ⟨ends, rfl⟩, fun node interface => ?_⟩
    have hpairs := (mapM_ok_iff _ _ _).mp hitems
    constructor
    · rintro ⟨item, hitem, rfl, rfl⟩
      obtain ⟨node, -, hnode⟩ := exists_left hpairs hitem
      obtain ⟨rfl, hinterface⟩ := injection_ok hnode
      exact ⟨ends, hends, hinterface⟩
    · rintro ⟨ends', hends', hinterface⟩
      obtain rfl := Option.some.inj (hends.symm.trans hends')
      have hpair : node ∈ ends.pair := by
        rw [← ends.interfaceOf_isSome_iff, hinterface]
        rfl
      rw [((Dict.get_some_iff _ _).mp hends).2, Link.pair, Sym2.mem_iff] at hpair
      have hnode : node ∈ [link.endpointA, link.endpointB] := by simpa using hpair
      obtain ⟨item, hitem, hmade⟩ := exists_right hpairs hnode
      obtain ⟨hsame, hfound⟩ := injection_ok hmade
      exact ⟨item, hitem, hsame, Option.some.inj (hfound.symm.trans hinterface)⟩

theorem scenarioInjections_node {failed : Node} {fault : FaultScenario}
    (hfault : (FaultComponent.node failed).IsFault fault) {componentId : String}
    {injections : List InjectionInterface}
    (h : scenarioInjections T lab fault = .ok (componentId, injections)) :
    componentId = failed.name ∧ ∀ node interface,
      (∃ item ∈ injections, item.node = node ∧ item.interface = interface) ↔
        (FaultComponent.node failed).Cuts lab node interface := by
  have hlinks : fault.excludedLinks = ∅ := hfault.links
  have hnodes : fault.excludedNodes = {failed.name} := hfault.nodes
  unfold scenarioInjections at h
  rw [if_neg (by simp [hlinks]), hnodes, firstMember_singleton, ok_bind] at h
  obtain ⟨items, hitems, h⟩ := (bind_ok_iff _ _ _).mp h
  obtain ⟨-, h⟩ := (check_ok_iff _ _ _ _).mp h
  obtain ⟨rfl, rfl⟩ := Prod.mk.inj (Except.ok.inj h)
  refine ⟨rfl, fun node interface => ?_⟩
  have hpairs := (mapM_ok_iff _ _ _).mp hitems
  simp only [List.mem_insertionSort]
  constructor
  · rintro ⟨item, hitem, rfl, rfl⟩
    obtain ⟨ends, hends, hmade⟩ := exists_left hpairs hitem
    obtain ⟨hsame, hfound⟩ := injection_ok hmade
    exact ⟨hsame, ends, (List.mem_filter.mp hends).1, hfound⟩
  · rintro ⟨rfl, ends, hends, hinterface⟩
    have hmem : ends ∈ lab.values.filter fun ends => (ends.interfaceOf failed.name).isSome :=
      List.mem_filter.mpr ⟨hends, Option.isSome_iff_exists.mpr ⟨interface, hinterface⟩⟩
    obtain ⟨item, hitem, hmade⟩ := exists_right hpairs hmem
    obtain ⟨hsame, hfound⟩ := injection_ok hmade
    exact ⟨item, hitem, hsame, Option.some.inj (hfound.symm.trans hinterface)⟩

theorem scenarioInjections_ok {component : FaultComponent} (hcomponent : component ∈ T.faultComponents)
    {fault : FaultScenario} (hfault : component.IsFault fault) {componentId : String}
    {injections : List InjectionInterface}
    (h : scenarioInjections T lab fault = .ok (componentId, injections)) :
    componentId = component.componentId ∧
      (∀ link, component = .link link → ∃ ends, lab.get link.pair = some ends) ∧
      ∀ node interface, (∃ item ∈ injections, item.node = node ∧ item.interface = interface) ↔
        component.Cuts lab node interface := by
  cases component with
  | link failed =>
    have hmem : failed ∈ T.links := by simpa [Topology.faultComponents] using hcomponent
    obtain ⟨hid, hends, hcuts⟩ := scenarioInjections_link ((T.mem_links failed).mp hmem) hfault h
    refine ⟨hid, ?_, hcuts⟩
    rintro link ⟨⟩
    exact hends
  | node failed =>
    obtain ⟨hid, hcuts⟩ := scenarioInjections_node hfault h
    exact ⟨hid, fun link hlink => absurd hlink (by simp), hcuts⟩

theorem planScenario_ok {component : FaultComponent} (hcomponent : component ∈ T.faultComponents)
    {fault : FaultScenario} (hfault : component.IsFault fault) {result : FaultScenarioResult}
    (haudit : T.AuditedAs fault result) {scenario : RuntimeFaultPlan}
    (h : planScenario T lab result = .ok scenario) :
    T.ScenarioOf lab component scenario ∧
      ∀ link, component = .link link → ∃ ends, lab.get link.pair = some ends := by
  obtain ⟨⟨componentId, injections⟩, hinjections, h⟩ := (bind_ok_iff _ _ _).mp h
  obtain ⟨paths, hpaths, h⟩ := (bind_ok_iff _ _ _).mp h
  obtain ⟨hkind, hid, hitems, hscenario⟩ := RuntimeFaultPlan.init_ok h
  rw [haudit.fault_eq] at hinjections hkind
  obtain ⟨hcomponentId, hdeclared, hcuts⟩ := scenarioInjections_ok hcomponent hfault hinjections
  refine ⟨⟨hkind.trans hfault.kind, hid.trans hcomponentId, by rw [hitems]; exact hcuts, ?_⟩, hdeclared⟩
  rw [hscenario]
  refine (pairing_comp haudit.paths ((mapM_ok_iff _ _ _).mp hpaths)).imp ?_
  rintro access path ⟨audited, hpath, hmade⟩
  obtain ⟨hnode, hbaseline, hmetric⟩ := RuntimePathExpectation.init_ok hmade
  have hafter := hpath.after
  rw [hfault.links, hfault.nodes] at hafter
  exact ⟨hnode.trans hpath.node, hbaseline ▸ hpath.baseline, hmetric ▸ hafter⟩

theorem planOf_ok {digest : TopologyDocument → String} {labSha256 : String} {plan : RuntimeN1Plan}
    (h : planOf digest T lab labSha256 = .ok plan) : T.PlannedAs lab plan := by
  unfold planOf at h
  obtain ⟨-, h⟩ := (check_ok_iff _ _ _ _).mp h
  obtain ⟨-, h⟩ := (check_ok_iff _ _ _ _).mp h
  split at h
  · next servicePrefix hprefixes =>
    obtain ⟨faults, hfaults, h⟩ := (bind_ok_iff _ _ _).mp h
    obtain ⟨-, h⟩ := (check_ok_iff _ _ _ _).mp h
    obtain ⟨audit, haudit, h⟩ := (bind_ok_iff _ _ _).mp h
    obtain ⟨-, h⟩ := (check_ok_iff _ _ _ _).mp h
    obtain ⟨scenarios, hscenarios, h⟩ := (bind_ok_iff _ _ _).mp h
    obtain ⟨adjacencies, hadjacencies, h⟩ := (bind_ok_iff _ _ _).mp h
    obtain ⟨hhost, hitems, hplanned⟩ := RuntimeN1Plan.init_ok h
    have hfaultsOf := T.runtimeFaults_ok hfaults
    have hmade := pairing_comp (pairing_comp hfaultsOf (T.auditFaultScenarios_ok haudit))
      ((mapM_ok_iff _ _ _).mp hscenarios)
    have hall : List.Forall₂ (fun component scenario => T.ScenarioOf lab component scenario ∧
        ∀ link, component = .link link → ∃ ends, lab.get link.pair = some ends)
        T.faultComponents scenarios := by
      refine ((List.forall₂_and_left _ _).mpr ⟨fun _ hmem => hmem, hmade⟩).imp ?_
      rintro component scenario ⟨hcomponent, result, ⟨fault, hfault, haudited⟩, hscenario⟩
      exact planScenario_ok hcomponent hfault haudited hscenario
    refine ⟨⟨servicePrefix, hprefixes, hhost⟩, fun link hlink => ?_, ?_, ?_⟩
    · have hcomponent : FaultComponent.link link ∈ T.faultComponents :=
        List.mem_append_left _ (List.mem_map_of_mem hlink)
      obtain ⟨scenario, -, -, hends⟩ := exists_right hall hcomponent
      exact hends link rfl
    · rw [hitems]
      exact ((mapM_ok_iff _ _ _).mp hadjacencies).imp fun node item hitem =>
        BaselineAdjacencyExpectation.init_ok hitem
    · rw [hplanned]
      exact hall.imp fun _ _ h => h.1
  · cases h

variable {intentFields : Value → Result IntentFields} {digest : TopologyDocument → String}

theorem buildRuntimeN1Plan_ok {intentDocument labDocument : Value} {labSha256 : String} {plan : RuntimeN1Plan}
    (h : buildRuntimeN1Plan intentFields digest intentDocument labDocument labSha256 = .ok plan) :
    ∃ T lab, candidateTopology intentFields intentDocument = .ok T ∧ loadLabLinks labDocument = .ok lab ∧
      T.PlannedAs lab plan := by
  obtain ⟨T, hT, h⟩ := (bind_ok_iff _ _ _).mp h
  obtain ⟨lab, hlab, h⟩ := (bind_ok_iff _ _ _).mp h
  exact ⟨T, lab, hT, hlab, planOf_ok h⟩

end RuntimeResilience

section Documents

def IntentFields.document (fields : IntentFields) : Value :=
  .dict [(.str "version", .int 1),
    (.str "nodes", .dict (fields.nodes.values.map fun node => (.str node.1,
      .dict [(.str "role", .str node.2.role.value),
        (.str "prefixes", .list (node.2.prefixes.map Value.str))]))),
    (.str "links", .list (fields.links.map fun link => .dict [(.str "id", .str link.id),
      (.str "endpoints", .list [.str link.endpoints.1, .str link.endpoints.2]),
      (.str "cost", .int link.cost)]))]

def readFields (fields : IntentFields) (document : Value) : Result IntentFields :=
  if document.pyEq fields.document then .ok fields else .error (invalidModel "NetworkIntent")

def diamondFields : IntentFields where
  nodes := ⟨[("access1", ⟨.access, [], List.nodup_nil⟩), ("agg1", ⟨.aggregation, [], List.nodup_nil⟩),
    ("agg2", ⟨.aggregation, [], List.nodup_nil⟩),
    ("service-host", ⟨.service, ["10.20.0.10/32"], List.nodup_singleton _⟩)], by decide⟩
  links := [⟨"access1--agg1", ("access1", "agg1"), 10, by decide, by decide, by decide⟩,
    ⟨"access1--agg2", ("access1", "agg2"), 10, by decide, by decide, by decide⟩,
    ⟨"agg1--service-host", ("agg1", "service-host"), 5, by decide, by decide, by decide⟩,
    ⟨"agg2--service-host", ("agg2", "service-host"), 5, by decide, by decide, by decide⟩]
  nodes_length := by decide
  links_length := by decide

theorem diamond_link {T : Topology}
    (hT : RuntimeResilience.candidateTopology (readFields diamondFields) diamondFields.document = .ok T)
    {link : Link} (hlink : link ∈ diamondFields.links.map NetworkIntent.toLink) : link ∈ T.links := by
  have hlinks : (RuntimeResilience.candidateTopology (readFields diamondFields)
      diamondFields.document).toOption.map Topology.linksById =
        some (diamondFields.links.map NetworkIntent.toLink) := by
    decide +kernel
  rw [hT] at hlinks
  rw [T.mem_links, Option.some.inj hlinks]
  exact hlink

def diamondNodes : List String := ["access1", "agg1", "agg2", "service-host"]

def diamondLab : Value :=
  labDocument diamondNodes [("access1:eth1", "agg1:eth1"), ("access1:eth2", "agg2:eth1"),
    ("agg1:eth2", "service-host:eth1"), ("agg2:eth2", "service-host:eth2")]

def diamondLabSha256 : String := "a6639a3e4cdb84100567883205c3a69b79f9b4bb3c6dc8874b29fe46d8ed6ca1"

def diamondPlan (lab : Value) (labSha256 : String) : Result RuntimeN1Plan :=
  RuntimeResilience.buildRuntimeN1Plan (readFields diamondFields)
    (fun _ => "f8b78ab3fbb4347ae32e2f6f437a10d24f293dc95af5ae2b970225a1192fa0d9") diamondFields.document lab
      labSha256

theorem diamondPlan_ok : ∃ plan, diamondPlan diamondLab diamondLabSha256 = .ok plan := by
  have hplans : (diamondPlan diamondLab diamondLabSha256).toOption.map (fun plan => plan.scenarios.length) =
      some 6 := by
    decide +kernel
  obtain ⟨plan, hplan, -⟩ := exists_ok hplans
  exact ⟨plan, hplan⟩

end Documents

end TelconetSentinel

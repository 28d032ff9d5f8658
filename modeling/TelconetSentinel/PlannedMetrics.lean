import TelconetSentinel.PlannedScenarios

namespace TelconetSentinel

open DocumentValues FallibleLists KeyedLists RuntimeResilience WeightedWalks

namespace RuntimeFaultPlan

variable (scenario : RuntimeFaultPlan)

def excludedLinks : Finset String := if scenario.kind = .link then {scenario.componentId} else ∅

def excludedNodes : Finset String := if scenario.kind = .link then ∅ else {scenario.componentId}

end RuntimeFaultPlan

namespace Topology

variable (T : Topology)

def Owns (plan : RuntimeN1Plan) (owner : String) : Prop :=
  ∃ node ∈ T.nodesByName, node.name = owner ∧ node.role = .service ∧
    ∃ text ∈ node.prefixes, hostNetwork text = some plan.servicePrefix

structure Describes (owner : String) (scenario : RuntimeFaultPlan) (path : RuntimePathExpectation) :
    Prop where
  baseline : IsDistance (T.survivingCosts path.accessNode {owner} ∅ ∅) (some path.baselineMetric)
  fault : IsDistance (T.survivingCosts path.accessNode {owner} scenario.excludedLinks scenario.excludedNodes)
    path.faultMetric
  expected_metric : T.shortestDistance path.accessNode {owner} = .ok (some path.baselineMetric)

def OwnerNearest (owner : String) (excludedLinks excludedNodes : Finset String) (access : String) : Prop :=
  ∀ service ∈ T.serviceNodes, ∀ cost ∈ T.survivingCosts access {service} excludedLinks excludedNodes,
    ∃ ownerCost ∈ T.survivingCosts access {owner} excludedLinks excludedNodes, ownerCost ≤ cost

variable {T} {lab : LabLinks} {plan : RuntimeN1Plan}

theorem ScenarioOf.excluded {component : FaultComponent} {scenario : RuntimeFaultPlan}
    (h : T.ScenarioOf lab component scenario) :
    scenario.excludedLinks = component.excludedLinks ∧ scenario.excludedNodes = component.excludedNodes := by
  have hkind := h.kind
  have hid := h.componentId
  cases component with
  | link failed =>
    have hlink : scenario.kind = .link := hkind
    simp only [RuntimeFaultPlan.excludedLinks, RuntimeFaultPlan.excludedNodes, if_pos hlink, hid]
    exact ⟨rfl, rfl⟩
  | node failed =>
    have hnode : ¬ scenario.kind = .link := by simp [hkind, FaultComponent.kind]
    simp only [RuntimeFaultPlan.excludedLinks, RuntimeFaultPlan.excludedNodes, if_neg hnode, hid]
    exact ⟨rfl, rfl⟩

theorem mem_servicePrefixes (text : String) : text ∈ T.servicePrefixes ↔
    ∃ node ∈ T.nodesByName, node.role = .service ∧ text ∈ node.prefixes := by
  simp [servicePrefixes, mem_nodes, and_assoc]

theorem PlannedAs.exists_owner (h : T.PlannedAs lab plan) : ∃ owner, T.Owns plan owner := by
  obtain ⟨text, hprefixes, hhost⟩ := h.servicePrefix
  obtain ⟨node, hnode, hrole, htext⟩ := (mem_servicePrefixes text).mp (hprefixes ▸ List.mem_cons_self)
  exact ⟨node.name, node, hnode, rfl, hrole, text, htext, hhost⟩

theorem PlannedAs.owner_unique (h : T.PlannedAs lab plan) {owner other : String} (howner : T.Owns plan owner)
    (hother : T.Owns plan other) : owner = other := by
  obtain ⟨node, hnode, rfl, hrole, text, htext, -⟩ := howner
  obtain ⟨node', hnode', rfl, hrole', text', htext', -⟩ := hother
  obtain ⟨single, hprefixes, -⟩ := h.servicePrefix
  have hnodup : T.servicePrefixes.Nodup := hprefixes ▸ List.nodup_singleton single
  have hsame : ∀ {text : String}, text ∈ T.servicePrefixes → text = single := by
    intro text htext
    rwa [hprefixes, List.mem_singleton] at htext
  have hservice : ∀ {node : Node}, node ∈ T.nodesByName → node.role = .service →
      node ∈ T.nodes.filter fun node => node.role = .service :=
    fun hnode hrole => List.mem_filter.mpr ⟨(T.mem_nodes _).mpr hnode, decide_eq_true hrole⟩
  obtain rfl := hsame ((mem_servicePrefixes text).mpr ⟨node, hnode, hrole, htext⟩)
  obtain rfl := hsame ((mem_servicePrefixes text').mpr ⟨node', hnode', hrole', htext'⟩)
  rw [eq_of_mem_flatMap hnodup (hservice hnode hrole) (hservice hnode' hrole') htext htext']

theorem Owns.service {owner : String} (h : T.Owns plan owner) : owner ∈ T.serviceNodes := by
  obtain ⟨node, hnode, hname, hrole, -⟩ := h
  exact (T.mem_serviceNodes owner).mpr ⟨node, hnode, hrole, hname⟩

theorem survivingCosts_service {owner : String} (howner : owner ∈ T.serviceNodes) (L X : Finset String)
    (access : String) : T.survivingCosts access {owner} L X ⊆ T.serviceCosts L X access := by
  rintro cost ⟨target, htarget, walk, havoids, hcost⟩
  obtain rfl := Finset.mem_singleton.mp htarget
  exact ⟨target, howner, walk, havoids, hcost⟩

theorem nearest_iff (owner : String) (L X : Finset String) (access : String) :
    T.OwnerNearest owner L X access ↔
    ∀ cost ∈ T.serviceCosts L X access, ∃ ownerCost ∈ T.survivingCosts access {owner} L X,
    ownerCost ≤ cost := by
  constructor
  · rintro h cost ⟨service, hservice, walk, havoids, hcost⟩
    exact h service hservice cost ⟨service, Finset.mem_singleton_self service, walk, havoids, hcost⟩
  · intro h service hservice cost hcost
    exact h cost (survivingCosts_service hservice L X access hcost)

theorem MetricsOf.describes_iff {component : FaultComponent} {access owner : String}
    {scenario : RuntimeFaultPlan} (hof : T.ScenarioOf lab component scenario)
    (howner : owner ∈ T.serviceNodes) (haccess : access ∈ T.accessNodes) {path : RuntimePathExpectation}
    (h : T.MetricsOf component access path) : T.Describes owner scenario path ↔
      T.OwnerNearest owner ∅ ∅ access ∧
        T.OwnerNearest owner scenario.excludedLinks scenario.excludedNodes access := by
  obtain ⟨hlinks, hnodes⟩ := hof.excluded
  have hbaseline := h.baseline.subset_iff (survivingCosts_service howner ∅ ∅ access)
  have hfault := h.fault.subset_iff (survivingCosts_service howner _ _ access)
  rw [nearest_iff, nearest_iff, hlinks, hnodes, ← hbaseline, ← hfault]
  constructor
  · intro hdescribes
    have hold := hdescribes.baseline
    have hnew := hdescribes.fault
    rw [h.node] at hold hnew
    rw [hlinks, hnodes] at hnew
    exact ⟨hold, hnew⟩
  · rintro ⟨hold, hnew⟩
    rw [← h.node] at hold hnew haccess
    refine ⟨hold, by rw [hlinks, hnodes]; exact hnew, ?_⟩
    exact T.shortestDistanceExcluding_eq (T.accessNodes_known haccess) (Finset.empty_subset _)
      (Finset.empty_subset _) hold

theorem ScenarioOf.access_nodes {component : FaultComponent} {scenario : RuntimeFaultPlan}
    (h : T.ScenarioOf lab component scenario) :
    scenario.paths.map RuntimePathExpectation.accessNode = T.accessNodes :=
  (map_eq_map h.paths fun _ _ hxy => hxy.node.symm).symm.trans (List.map_id _)

theorem PlannedAs.describes_iff (h : T.PlannedAs lab plan) {owner : String} (howner : T.Owns plan owner) :
    (∀ scenario ∈ plan.scenarios, ∀ path ∈ scenario.paths, T.Describes owner scenario path) ↔
      ∀ scenario ∈ plan.scenarios, ∀ access ∈ T.accessNodes, T.OwnerNearest owner ∅ ∅ access ∧
        T.OwnerNearest owner scenario.excludedLinks scenario.excludedNodes access := by
  refine forall₂_congr fun scenario hscenario => ?_
  obtain ⟨component, -, hof⟩ := exists_left h.scenarios hscenario
  constructor
  · intro hdescribes access haccess
    obtain ⟨path, hpath, hmetrics⟩ := exists_right hof.paths haccess
    exact (hmetrics.describes_iff hof howner.service haccess).mp (hdescribes path hpath)
  · intro hnearest path hpath
    obtain ⟨access, haccess, hmetrics⟩ := exists_left hof.paths hpath
    exact (hmetrics.describes_iff hof howner.service haccess).mpr (hnearest access haccess)

end Topology

section

variable (intentFields : Value → Result IntentFields) (digest : TopologyDocument → String)

theorem planned_metrics_exact_iff (intentDocument labDocument : Value) (labSha256 : String)
    (plan : RuntimeN1Plan) (h : buildRuntimeN1Plan intentFields digest intentDocument labDocument labSha256 =
      .ok plan) :
    ∃ T owner, candidateTopology intentFields intentDocument = .ok T ∧
      (∀ other, T.Owns plan other ↔ other = owner) ∧
      (∀ scenario ∈ plan.scenarios, scenario.paths.map RuntimePathExpectation.accessNode = T.accessNodes) ∧
      ((∀ scenario ∈ plan.scenarios, ∀ path ∈ scenario.paths, T.Describes owner scenario path) ↔
        ∀ scenario ∈ plan.scenarios, ∀ access ∈ T.accessNodes, T.OwnerNearest owner ∅ ∅ access ∧
          T.OwnerNearest owner scenario.excludedLinks scenario.excludedNodes access) := by
  obtain ⟨T, lab, hT, -, hplanned⟩ := buildRuntimeN1Plan_ok h
  obtain ⟨owner, howner⟩ := hplanned.exists_owner
  refine ⟨T, owner, hT, fun other => ⟨fun hother => hplanned.owner_unique hother howner, ?_⟩, ?_, ?_⟩
  · rintro rfl
    exact howner
  · intro scenario hscenario
    obtain ⟨component, -, hof⟩ := exists_left hplanned.scenarios hscenario
    exact hof.access_nodes
  · exact hplanned.describes_iff howner

end

theorem planned_metrics_diamond : ∃ plan T, diamondPlan diamondLab diamondLabSha256 = .ok plan ∧
    candidateTopology (readFields diamondFields) diamondFields.document = .ok T ∧
      ∀ scenario ∈ plan.scenarios, ∀ path ∈ scenario.paths, T.Describes "service-host" scenario path := by
  obtain ⟨plan, hplan⟩ := diamondPlan_ok
  obtain ⟨T, owner, hT, howner, -, hdescribes⟩ := planned_metrics_exact_iff _ _ _ _ _ plan hplan
  have hservices : (candidateTopology (readFields diamondFields) diamondFields.document).toOption.map
      Topology.serviceNodes = some {"service-host"} := by
    decide +kernel
  rw [hT] at hservices
  have hsingle : T.serviceNodes = {"service-host"} := Option.some.inj hservices
  have hname := ((howner owner).mpr rfl).service
  rw [hsingle, Finset.mem_singleton] at hname
  subst hname
  have hnearest : ∀ L X access, T.OwnerNearest "service-host" L X access := by
    intro L X access service hservice cost hcost
    rw [hsingle, Finset.mem_singleton] at hservice
    exact ⟨cost, hservice ▸ hcost, le_refl cost⟩
  exact ⟨plan, T, hplan, hT, hdescribes.mpr fun _ _ _ _ => ⟨hnearest _ _ _, hnearest _ _ _⟩⟩

/-- A service node without prefixes stands nearer to `access2` than the owner of the prefix. -/
def cacheFields : IntentFields where
  nodes := ⟨[("access2", ⟨.access, [], List.nodup_nil⟩), ("agg3", ⟨.aggregation, [], List.nodup_nil⟩),
    ("cache", ⟨.service, [], List.nodup_nil⟩),
    ("origin", ⟨.service, ["10.20.0.10/32"], List.nodup_singleton _⟩)], by decide⟩
  links := [⟨"access2--agg3", ("access2", "agg3"), 12, by decide, by decide, by decide⟩,
    ⟨"agg3--cache", ("agg3", "cache"), 2, by decide, by decide, by decide⟩,
    ⟨"agg3--origin", ("agg3", "origin"), 7, by decide, by decide, by decide⟩]
  nodes_length := by decide
  links_length := by decide

def cachePlan : Result RuntimeN1Plan :=
  buildRuntimeN1Plan (readFields cacheFields)
    (fun _ => "edc8ee4e401954a36ab25f17d673bb5f7f01d4ca95f90cbf4715943b5cc797a3") cacheFields.document
    (labDocument ["access2", "agg3", "cache", "origin"] [("access2:eth1", "agg3:eth1"),
      ("agg3:eth2", "cache:eth1"), ("agg3:eth3", "origin:eth1")])
      "9f9eebc4d27dabfd4466f4e0bf7b131abdfd7c2c31715fc137bbe8be2af6f906"

theorem nearer_service_misleads : ∃ plan T, cachePlan = .ok plan ∧
    candidateTopology (readFields cacheFields) cacheFields.document = .ok T ∧ T.Owns plan "origin" ∧
      T.shortestDistance "access2" {"origin"} = .ok (some 19) ∧
      ∃ scenario ∈ plan.scenarios, ∃ path ∈ scenario.paths, path.accessNode = "access2" ∧
      path.baselineMetric = 14 ∧
        ¬ T.Describes "origin" scenario path := by
  have hplans : cachePlan.toOption.map (fun plan => (plan.servicePrefix, decide (∃ scenario ∈ plan.scenarios,
      ∃ path ∈ scenario.paths, path.accessNode = "access2" ∧ path.baselineMetric = 14))) =
      some ("10.20.0.10/32", true) := by
    decide +kernel
  have htopologies : (candidateTopology (readFields cacheFields) cacheFields.document).toOption.map
      (fun T => (decide (⟨"origin", .service, ["10.20.0.10/32"]⟩ ∈ T.nodesByName),
        (T.shortestDistance "access2" {"origin"}).toOption)) = some (true, some (some 19)) := by
    decide +kernel
  obtain ⟨plan, hplan, hevaluated⟩ := exists_ok hplans
  obtain ⟨T, hT, htopology⟩ := exists_ok htopologies
  obtain ⟨hcanonical, hpath⟩ := Prod.mk.inj hevaluated
  obtain ⟨hnode, hdistance⟩ := Prod.mk.inj htopology
  rw [toOption_some_iff] at hdistance
  obtain ⟨scenario, hscenario, path, hmem, haccess, hmetric⟩ := of_decide_eq_true hpath
  have hhost : hostNetwork "10.20.0.10/32" = some plan.servicePrefix := by
    rw [hcanonical]
    decide +kernel
  refine ⟨plan, T, hplan, hT, ⟨_, of_decide_eq_true hnode, rfl, rfl, _, List.mem_cons_self, hhost⟩, hdistance,
    scenario, hscenario, path, hmem, haccess, hmetric, fun hdescribes => ?_⟩
  have hexpected := hdescribes.expected_metric
  rw [haccess, hmetric, hdistance] at hexpected
  cases hexpected

end TelconetSentinel

import TelconetSentinel.FaultAudit

namespace TelconetSentinel.Topology

open FallibleLists WeightedWalks

variable (T : Topology)

def prefixesOf (name : String) : List String :=
  (T.nodesByName.find? (fun node => node.name == name)).elim [] Node.prefixes

theorem node_prefixes {name : String} {node : Node} (h : T.node name = .ok node) :
    node.prefixes = T.prefixesOf name := by
  unfold Topology.node at h
  unfold prefixesOf
  split at h
  · next n hn =>
    obtain rfl := Except.ok.inj h
    rw [hn, Option.elim_some]
  · cases h

theorem mem_accessNodes (name : String) :
    name ∈ T.accessNodes ↔ ∃ node ∈ T.nodesByName, node.role = .access ∧ node.name = name := by
  simp [accessNodes, mem_nodes, and_assoc]

theorem mem_serviceNodes (name : String) :
    name ∈ T.serviceNodes ↔ ∃ node ∈ T.nodesByName, node.role = .service ∧ node.name = name := by
  simp [serviceNodes, mem_nodes, and_assoc]

theorem accessNodes_known {access : String} (h : access ∈ T.accessNodes) : access ∈ T.names := by
  obtain ⟨node, hn, -, rfl⟩ := (T.mem_accessNodes access).mp h
  simpa [names] using ⟨node, hn, rfl⟩

theorem accessNodes_sortedLT : T.accessNodes.SortedLT := by
  have hsub : T.accessNodes.Sublist (T.nodes.map Node.name) := List.filter_sublist.map Node.name
  exact (List.sortedLT_iff_pairwise.mpr ((List.sortedLT_iff_pairwise.mp T.names_sortedLT).sublist hsub))

def serviceCosts (excludedLinks excludedNodes : Finset String) (access : String) : Set ℤ :=
  T.survivingCosts access T.serviceNodes excludedLinks excludedNodes

theorem baselineCost_ok {access : String} {baseline : String × ℤ} (h : T.baselineCost access = .ok baseline) :
    baseline.1 = access ∧ IsDistance (T.serviceCosts ∅ ∅ access) (some baseline.2) := by
  obtain ⟨distance, hd, h⟩ := (bind_ok_iff _ _ _).mp h
  cases distance with
  | none => cases h
  | some d =>
    obtain rfl := Except.ok.inj h
    exact ⟨rfl, T.shortestDistanceExcluding_spec hd⟩

structure PathOf (excludedLinks excludedNodes : Finset String) (access : String) (path : AccessPathResult) :
    Prop where
  node : path.accessNode = access
  baseline : IsDistance (T.serviceCosts ∅ ∅ access) (some path.baselineCost)
  after : IsDistance (T.serviceCosts excludedLinks excludedNodes access) path.postFaultCost

theorem accessPath_ok {fault : FaultScenario} {baseline : String × ℤ} {path : AccessPathResult}
    (h : T.accessPath fault baseline = .ok path) :
    path.accessNode = baseline.1 ∧ path.baselineCost = baseline.2 ∧
      IsDistance (T.serviceCosts fault.excludedLinks fault.excludedNodes baseline.1) path.postFaultCost := by
  obtain ⟨after, ha, h⟩ := (bind_ok_iff _ _ _).mp h
  obtain rfl := Except.ok.inj h
  exact ⟨rfl, rfl, T.shortestDistanceExcluding_spec ha⟩

structure ReportedAs (excludedLinks excludedNodes : Finset String) (entries : List AccessPathResult)
    (impact : ServiceImpact) (affectedNodes affectedPrefixes : List String) : Prop where
  paths : List.Forall₂ (T.PathOf excludedLinks excludedNodes) T.accessNodes entries
  outage : impact = .outage ↔ ∃ path ∈ entries, path.Unavailable
  degraded : impact = .degraded ↔ (¬ ∃ path ∈ entries, path.Unavailable) ∧ ∃ path ∈ entries, path.Degraded
  affected_sorted : affectedNodes.SortedLT
  affected : ∀ name, name ∈ affectedNodes ↔
    ∃ path ∈ entries, path.accessNode = name ∧ (path.Unavailable ∨ path.Degraded)
  prefixes : affectedPrefixes = sorted (affectedNodes.flatMap T.prefixesOf)

structure AuditedAs (fault : FaultScenario) (r : FaultScenarioResult) : Prop extends
    T.ReportedAs fault.excludedLinks fault.excludedNodes r.paths r.serviceImpact r.affectedNodes
      r.affectedPrefixes where
  fault_eq : r.fault = fault
  links_known : fault.excludedLinks ⊆ T.linkIds
  nodes_known : fault.excludedNodes ⊆ T.names

theorem filter_map_ne_nil {p : AccessPathResult → Prop} [DecidablePred p] (paths : List AccessPathResult) :
    (paths.filter (fun path => p path)).map AccessPathResult.accessNode ≠ [] ↔ ∃ path ∈ paths, p path := by
  simp [List.filter_eq_nil_iff]

theorem impact_iff (u d : Prop) [Decidable u] [Decidable d] :
    ((if u then ServiceImpact.outage else if d then .degraded else .redundancyReduced) = .outage ↔ u) ∧
      ((if u then ServiceImpact.outage else if d then .degraded else .redundancyReduced) = .degraded ↔
        ¬ u ∧ d) := by
  by_cases hu : u <;> by_cases hd : d <;> simp [hu, hd]

theorem auditScenario_ok {baselineCosts : List (String × ℤ)} {fault : FaultScenario} {r : FaultScenarioResult}
    (hbase : T.accessNodes.mapM T.baselineCost = .ok baselineCosts)
    (h : T.auditScenario baselineCosts fault = .ok r) : T.AuditedAs fault r := by
  obtain ⟨_, hL, h⟩ := (bind_ok_iff _ _ _).mp h
  obtain ⟨_, hX, h⟩ := (bind_ok_iff _ _ _).mp h
  obtain ⟨paths, hp, h⟩ := (bind_ok_iff _ _ _).mp h
  obtain ⟨owners, ho, h⟩ := (bind_ok_iff _ _ _).mp h
  obtain rfl := Except.ok.inj h
  have hpaths : List.Forall₂ (T.PathOf fault.excludedLinks fault.excludedNodes) T.accessNodes paths := by
    refine (pairing_comp ((mapM_ok_iff _ _ _).mp hbase) ((mapM_ok_iff _ _ _).mp hp)).imp ?_
    rintro access path ⟨baseline, hb, hpath⟩
    obtain ⟨rfl, hdist⟩ := T.baselineCost_ok hb
    obtain ⟨hnode, hcost, hafter⟩ := T.accessPath_ok hpath
    exact ⟨hnode, hcost ▸ hdist, hafter⟩
  have hnodes : paths.map AccessPathResult.accessNode = T.accessNodes :=
    (map_eq_map hpaths fun _ _ hxy => hxy.node.symm).symm.trans (List.map_id _)
  have hnodup : (paths.map AccessPathResult.accessNode).Nodup := hnodes ▸ T.accessNodes_sortedLT.nodup
  have hsub : ∀ (q : AccessPathResult → Bool), ((paths.filter q).map AccessPathResult.accessNode).Nodup :=
    fun q => hnodup.sublist (List.filter_sublist.map _)
  refine ⟨⟨hpaths, ?_, ?_, ?_, ?_, ?_⟩, rfl, (T.checkLinks_ok_iff _).mp hL, (T.checkNodes_ok_iff _).mp hX⟩
  · simp only [filter_map_ne_nil]
    exact (impact_iff _ _).1
  · simp only [filter_map_ne_nil]
    exact (impact_iff _ _).2
  · exact sorted_sortedLT ((hsub _).union _)
  · intro name
    simp only [sorted, List.mem_insertionSort, List.mem_union_iff, List.mem_map, List.mem_filter,
      decide_eq_true_eq]
    constructor
    · rintro (⟨path, ⟨hm, hu⟩, hn⟩ | ⟨path, ⟨hm, hd⟩, hn⟩)
      · exact ⟨path, hm, hn, Or.inl hu⟩
      · exact ⟨path, hm, hn, Or.inr hd⟩
    · rintro ⟨path, hm, hn, hu | hd⟩
      · exact Or.inl ⟨path, ⟨hm, hu⟩, hn⟩
      · exact Or.inr ⟨path, ⟨hm, hd⟩, hn⟩
  · have hpre := map_eq_map ((mapM_ok_iff _ _ _).mp ho) fun _ _ hxy => (T.node_prefixes hxy).symm
    simp only [List.flatMap_def, hpre]

theorem auditFaultScenarios_ok {scenarios : List FaultScenario} {audit : FaultAuditResult}
    (h : T.auditFaultScenarios scenarios = .ok audit) :
    List.Forall₂ T.AuditedAs scenarios audit.scenarios := by
  unfold auditFaultScenarios at h
  split_ifs at h
  obtain ⟨baselineCosts, hb, h⟩ := (bind_ok_iff _ _ _).mp h
  obtain ⟨results, hr, h⟩ := (bind_ok_iff _ _ _).mp h
  obtain rfl := Except.ok.inj h
  exact ((mapM_ok_iff _ _ _).mp hr).imp fun fault r hfr => T.auditScenario_ok hb hfr

def CutOff (fault : FaultScenario) (access : String) : Prop :=
  WeightedWalks.CutOff T.network (removal fault.excludedLinks fault.excludedNodes) access
    {service | service ∈ T.serviceNodes}

def LosesShortest (fault : FaultScenario) (access : String) : Prop :=
  WeightedWalks.LosesShortest T.network (removal fault.excludedLinks fault.excludedNodes) access
    {service | service ∈ T.serviceNodes}

def KeepsShortest (fault : FaultScenario) (access : String) : Prop :=
  WeightedWalks.KeepsShortest T.network (removal fault.excludedLinks fault.excludedNodes) access
    {service | service ∈ T.serviceNodes}

section PathMeaning

variable {T} {fault : FaultScenario} {access : String} {path : AccessPathResult}

theorem PathOf.baseline_le {L X : Finset String} (h : T.PathOf L X access path) :
    toTop (some path.baselineCost) ≤ toTop path.postFaultCost := by
  refine h.baseline.mono (costs_antitone _ ?_ _ _) h.after
  exact removal_mono (Finset.empty_subset _) (Finset.empty_subset _)

theorem PathOf.unavailable_iff (h : T.PathOf fault.excludedLinks fault.excludedNodes access path) :
    path.Unavailable ↔ T.CutOff fault access :=
  distance_none_iff h.after

theorem PathOf.kept_iff (h : T.PathOf fault.excludedLinks fault.excludedNodes access path) :
    path.postFaultCost = some path.baselineCost ↔ T.KeepsShortest fault access := by
  have hbase := h.baseline
  unfold serviceCosts survivingCosts at hbase
  rw [removal_empty] at hbase
  exact distance_kept_iff hbase h.after

theorem PathOf.affected_iff (h : T.PathOf fault.excludedLinks fault.excludedNodes access path) :
    path.Unavailable ∨ path.Degraded ↔ T.LosesShortest fault access := by
  have hkept : ¬ path.postFaultCost = some path.baselineCost ↔ T.LosesShortest fault access :=
    (not_congr h.kept_iff).trans (not_keepsShortest _ _ _ _)
  rw [← hkept]
  have hle := h.baseline_le
  unfold AccessPathResult.Unavailable AccessPathResult.Degraded
  cases hp : path.postFaultCost with
  | none => simp
  | some after =>
    rw [hp] at hle
    have hle' : path.baselineCost ≤ after := WithTop.coe_le_coe.mp hle
    simp only [reduceCtorEq, Option.mem_def, Option.some.injEq, exists_eq_left', false_or]
    omega

end PathMeaning

section Reports

variable {T}

theorem AuditedAs.exists_path_iff {fault : FaultScenario} {r : FaultScenarioResult} (h : T.AuditedAs fault r)
    {p : AccessPathResult → Prop} {q : String → Prop}
    (hpq : ∀ access path, T.PathOf fault.excludedLinks fault.excludedNodes access path →
      (p path ↔ q access)) :
    (∃ path ∈ r.paths, p path) ↔ ∃ access ∈ T.accessNodes, q access := by
  constructor
  · rintro ⟨path, hm, hp⟩
    obtain ⟨access, ha, hpath⟩ := exists_left h.paths hm
    exact ⟨access, ha, (hpq access path hpath).mp hp⟩
  · rintro ⟨access, ha, hq⟩
    obtain ⟨path, hm, hpath⟩ := exists_right h.paths ha
    exact ⟨path, hm, (hpq access path hpath).mpr hq⟩

theorem AuditedAs.affected_iff {fault : FaultScenario} {r : FaultScenarioResult} (h : T.AuditedAs fault r)
    (name : String) : name ∈ r.affectedNodes ↔ name ∈ T.accessNodes ∧ T.LosesShortest fault name := by
  rw [h.affected, h.exists_path_iff (q := fun access => access = name ∧ T.LosesShortest fault access)]
  · constructor
    · rintro ⟨access, ha, rfl, hl⟩
      exact ⟨ha, hl⟩
    · rintro ⟨ha, hl⟩
      exact ⟨name, ha, rfl, hl⟩
  · intro access path hpath
    rw [hpath.node, hpath.affected_iff]

theorem CutOff.losesShortest {fault : FaultScenario} {access : String} (h : T.CutOff fault access) :
    T.LosesShortest fault access :=
  fun t ht w _ => h t ht w

theorem AuditedAs.outage_iff {fault : FaultScenario} {r : FaultScenarioResult} (h : T.AuditedAs fault r) :
    r.serviceImpact = .outage ↔ ∃ access ∈ T.accessNodes, T.CutOff fault access :=
  h.outage.trans (h.exists_path_iff fun _ _ hp => hp.unavailable_iff)

theorem AuditedAs.degraded_iff {fault : FaultScenario} {r : FaultScenarioResult} (h : T.AuditedAs fault r) :
    r.serviceImpact = .degraded ↔ (∀ access ∈ T.accessNodes, ¬ T.CutOff fault access) ∧
      ∃ access ∈ T.accessNodes, T.LosesShortest fault access := by
  have haff : (∃ path ∈ r.paths, path.Unavailable ∨ path.Degraded) ↔
      ∃ access ∈ T.accessNodes, T.LosesShortest fault access :=
    h.exists_path_iff fun _ _ hp => hp.affected_iff
  have hsplit : (∃ path ∈ r.paths, path.Unavailable ∨ path.Degraded) ↔
      (∃ path ∈ r.paths, path.Unavailable) ∨ ∃ path ∈ r.paths, path.Degraded := by
    simp only [and_or_left, exists_or]
  have hno : (∀ access ∈ T.accessNodes, ¬ T.CutOff fault access) ↔ ¬ r.serviceImpact = .outage := by
    rw [h.outage_iff]
    push Not
    rfl
  rw [hno, ← haff, hsplit, h.degraded, ← h.outage]
  exact and_congr_right fun hn => (or_iff_right hn).symm

theorem AuditedAs.reduced_iff {fault : FaultScenario} {r : FaultScenarioResult} (h : T.AuditedAs fault r) :
    r.serviceImpact = .redundancyReduced ↔ ∀ access ∈ T.accessNodes, T.KeepsShortest fault access := by
  have hkeep : (∀ access ∈ T.accessNodes, T.KeepsShortest fault access) ↔
      ¬ ∃ access ∈ T.accessNodes, T.LosesShortest fault access := by
    push Not
    refine forall₂_congr fun access _ => ?_
    rw [← not_iff_not, not_not]
    exact not_keepsShortest _ _ _ _
  rw [hkeep]
  cases hi : r.serviceImpact with
  | outage =>
    obtain ⟨access, ha, hc⟩ := h.outage_iff.mp hi
    have hl : ∃ access ∈ T.accessNodes, T.LosesShortest fault access := ⟨access, ha, hc.losesShortest⟩
    simpa using hl
  | degraded => simpa using (h.degraded_iff.mp hi).2
  | redundancyReduced =>
    have hcut := mt h.outage_iff.mpr (by simp [hi])
    push Not at hcut
    have hl : ¬ ∃ access ∈ T.accessNodes, T.LosesShortest fault access :=
      fun hl => absurd (h.degraded_iff.mpr ⟨hcut, hl⟩) (by simp [hi])
    simpa using hl

theorem impact_eq {i j : ServiceImpact} (hout : i = .outage ↔ j = .outage)
    (hdeg : i = .degraded ↔ j = .degraded) :
    i = j := by
  cases i <;> cases j <;> simp_all

theorem ReportedAs.congr {L L' X X' : Finset String} {paths paths' : List AccessPathResult}
    {impact impact' : ServiceImpact} {nodes nodes' prefixes prefixes' : List String}
    (h : T.ReportedAs L X paths impact nodes prefixes)
    (h' : T.ReportedAs L' X' paths' impact' nodes' prefixes')
    (hcosts : ∀ access ∈ T.accessNodes, T.serviceCosts L X access = T.serviceCosts L' X' access) :
    paths = paths' ∧ impact = impact' ∧ nodes = nodes' ∧ prefixes = prefixes' := by
  have hpaths : paths = paths' := by
    refine pairing_unique h.paths h'.paths fun access ha path path' hp hp' => ?_
    have hbase := Option.some.inj (hp.baseline.unique hp'.baseline)
    have hafter := hp.after.unique (hcosts access ha ▸ hp'.after)
    cases path
    cases path'
    simp only [AccessPathResult.mk.injEq]
    exact ⟨hp.node.trans hp'.node.symm, hbase, hafter⟩
  have hnodes : nodes = nodes' :=
    h.affected_sorted.eq_of_mem_iff h'.affected_sorted fun name => by rw [h.affected, h'.affected, hpaths]
  refine ⟨hpaths, impact_eq ?_ ?_, hnodes, by rw [h.prefixes, h'.prefixes, hnodes]⟩
  · rw [h.outage, h'.outage, hpaths]
  · rw [h.degraded, h'.degraded, hpaths]

end Reports

theorem audit_meaning (scenarios : List FaultScenario) (audit : FaultAuditResult)
    (h : T.auditFaultScenarios scenarios = .ok audit) :
    audit.scenarios.map FaultScenarioResult.fault = scenarios ∧ ∀ r ∈ audit.scenarios,
      (r.serviceImpact = .outage ↔ ∃ access ∈ T.accessNodes, T.CutOff r.fault access) ∧
      (r.serviceImpact = .degraded ↔ (∀ access ∈ T.accessNodes, ¬ T.CutOff r.fault access) ∧
        ∃ access ∈ T.accessNodes, T.LosesShortest r.fault access) ∧
      (r.serviceImpact = .redundancyReduced ↔ ∀ access ∈ T.accessNodes, T.KeepsShortest r.fault access) ∧
      (∀ access ∈ T.accessNodes, access ∈ r.fault.excludedNodes → T.CutOff r.fault access) ∧
      r.affectedNodes.SortedLT ∧
      (∀ name, name ∈ r.affectedNodes ↔
        name ∈ T.accessNodes ∧ (T.CutOff r.fault name ∨ T.LosesShortest r.fault name)) ∧
      r.affectedPrefixes.SortedLE ∧ r.affectedPrefixes.Perm (r.affectedNodes.flatMap T.prefixesOf) ∧
      r.paths.map AccessPathResult.accessNode = T.accessNodes := by
  have hall := T.auditFaultScenarios_ok h
  refine ⟨(map_eq_map hall fun _ _ hr => hr.fault_eq.symm).symm.trans (List.map_id _), fun r hr => ?_⟩
  obtain ⟨fault, -, hspec⟩ := exists_left hall hr
  obtain rfl := hspec.fault_eq
  refine ⟨hspec.outage_iff, hspec.degraded_iff, hspec.reduced_iff, ?_, hspec.affected_sorted, ?_, ?_, ?_, ?_⟩
  · intro access _ hx t _ w hw
    exact w.source_not_removed hw hx
  · intro name
    rw [hspec.affected_iff]
    exact and_congr_right fun _ => ⟨Or.inr, fun hl => hl.elim CutOff.losesShortest id⟩
  · rw [hspec.prefixes]
    exact List.sortedLE_insertionSort
  · rw [hspec.prefixes]
    exact List.perm_insertionSort _ _
  · exact (map_eq_map hspec.paths fun _ _ hp => hp.node.symm).symm.trans (List.map_id _)

def diamond : Topology where
  nodesByName := [⟨"access1", .access, ["10.1.0.0/24"]⟩, ⟨"agg1", .aggregation, []⟩,
    ⟨"agg2", .aggregation, []⟩, ⟨"service-host", .service, ["10.20.0.0/24"]⟩]
  linksById := [⟨"access1--agg1", "access1", "agg1", 10⟩, ⟨"agg1--service-host", "agg1", "service-host", 5⟩,
    ⟨"access1--agg2", "agg2", "access1", 10⟩, ⟨"agg2--service-host", "agg2", "service-host", 5⟩]
  names_nodup := by decide
  ids_nodup := by decide
  cost_pos := by decide
  no_self_link := by decide
  endpoint_known := by decide

def uplinkFault : FaultScenario where
  id := "shared-risk:uplinks"
  kind := .composite
  excludedLinks := {"access1--agg1", "access1--agg2"}
  excludedNodes := ∅
  id_valid := by decide
  component := by decide
  link_kind := by decide
  node_kind := by decide
  composite_kind := by decide

theorem audit_meaning_uplinks :
    diamond.auditFaultScenarios [uplinkFault] =
      .ok ⟨[⟨uplinkFault, .outage, ["access1"], ["10.1.0.0/24"], [⟨"access1", 15, none⟩]⟩]⟩ ∧
    ∃ access ∈ diamond.accessNodes, diamond.CutOff uplinkFault access := by
  refine ⟨by decide +kernel, ?_⟩
  have h := audit_meaning diamond [uplinkFault]
    ⟨[⟨uplinkFault, .outage, ["access1"], ["10.1.0.0/24"], [⟨"access1", 15, none⟩]⟩]⟩ (by decide +kernel)
  exact (h.2 _ List.mem_cons_self).1.mp rfl

end TelconetSentinel.Topology

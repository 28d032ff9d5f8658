import TelconetSentinel.PlannedScenarios

namespace TelconetSentinel

open DocumentValues FallibleLists KeyedLists RuntimeResilience

namespace Topology

variable (T : Topology)

def linksAt (name : String) : List Link := T.links.filter fun link => name ∈ link.pair

def surplusLinks (name : String) : ℕ :=
  (T.linksAt name).length - ((T.linksAt name).map Link.pair).toFinset.card

def labLinksAt (lab : LabLinks) (name : String) : List LabLink :=
  lab.values.filter fun ends => ∃ other ∈ T.names, other ≠ name ∧ ends.pair = s(name, other)

def undeclaredLinks (lab : LabLinks) (name : String) : ℕ :=
  (T.labLinksAt lab name).countP fun ends => ∀ link ∈ T.links, link.pair ≠ ends.pair

/-- Every end of a link counts once, and no link has both ends at one node. -/
theorem degree_eq (name : String) : T.degree name = (T.linksAt name).length := by
  have hends : ∀ links : List Link, (∀ link ∈ links, link.endpointA ≠ link.endpointB) →
      (links.flatMap fun link => [link.endpointA, link.endpointB]).count name =
        (links.filter fun link => name ∈ link.pair).length := by
    intro links
    induction links with
    | nil => exact fun _ => rfl
    | cons link rest ih =>
      intro hself
      have hrest := ih fun other hother => hself other (List.mem_cons_of_mem _ hother)
      have hne := hself link List.mem_cons_self
      rw [List.flatMap_cons, List.count_append, hrest]
      by_cases ha : name = link.endpointA
      · subst ha
        simp [Link.pair, hne.symm, Nat.add_comm]
      · by_cases hb : name = link.endpointB
        · subst hb
          simp [Link.pair, hne, Nat.add_comm]
        · simp [Link.pair, ha, hb, Ne.symm ha, Ne.symm hb]
  exact hends T.links fun link hlink => T.no_self_link link ((T.mem_links link).mp hlink)

theorem degree_eq_add (name : String) :
    T.degree name = ((T.linksAt name).map Link.pair).toFinset.card + T.surplusLinks name := by
  have hle : ((T.linksAt name).map Link.pair).toFinset.card ≤ (T.linksAt name).length := by
    simpa using List.toFinset_card_le ((T.linksAt name).map Link.pair)
  rw [T.degree_eq, surplusLinks]
  omega

variable {T} {lab : LabLinks} {plan : RuntimeN1Plan}

theorem mem_labLinksAt (name : String) (ends : LabLink) : ends ∈ T.labLinksAt lab name ↔
    ends ∈ lab.values ∧ ∃ other ∈ T.names, other ≠ name ∧ ends.pair = s(name, other) := by
  rw [labLinksAt, List.mem_filter, decide_eq_true_eq]

theorem PlannedAs.declared_pairs (h : T.PlannedAs lab plan) (name : String) (pair : Sym2 String) :
    pair ∈ ((T.labLinksAt lab name).filter fun ends => ∃ link ∈ T.links, link.pair = ends.pair).map
      LabLink.pair ↔
      pair ∈ (T.linksAt name).map Link.pair := by
  simp only [List.mem_map, List.mem_filter, mem_labLinksAt, decide_eq_true_eq, linksAt]
  constructor
  · rintro ⟨ends, ⟨⟨-, other, -, -, hpair⟩, link, hlink, hsame⟩, rfl⟩
    exact ⟨link, ⟨hlink, by rw [hsame, hpair]; exact Sym2.mem_mk_left name other⟩, hsame⟩
  · rintro ⟨link, ⟨hlink, hname⟩, rfl⟩
    obtain ⟨ends, hget⟩ := h.declared link hlink
    obtain ⟨hends, hpair⟩ := (Dict.get_some_iff _ _).mp hget
    have hmem := (T.mem_links link).mp hlink
    have hknown : ∀ node ∈ link.pair, node ∈ T.names := by
      intro node hnode
      apply List.mem_toFinset.mpr
      exact T.endpoint_known link hmem node (by simpa [Link.pair] using hnode)
    obtain ⟨other, hother⟩ := Sym2.mem_iff_exists.mp hname
    have hne : other ≠ name := by
      rintro rfl
      have hdiag : link.pair.IsDiag := hother ▸ Sym2.mk_isDiag_iff.mpr rfl
      exact T.no_self_link link hmem (Sym2.mk_isDiag_iff.mp hdiag)
    have hmemOther : other ∈ T.names := hknown other (hother ▸ Sym2.mem_mk_right name other)
    exact ⟨ends, ⟨⟨hends, other, hmemOther, hne, hpair.trans hother⟩, link, hlink, hpair.symm⟩, hpair⟩

theorem PlannedAs.labLinksAt_eq_add (h : T.PlannedAs lab plan) (name : String) :
    (T.labLinksAt lab name).length =
      ((T.linksAt name).map Link.pair).toFinset.card + T.undeclaredLinks lab name := by
  have hsets : (((T.labLinksAt lab name).filter fun ends => ∃ link ∈ T.links, link.pair = ends.pair).map
      LabLink.pair).toFinset = ((T.linksAt name).map Link.pair).toFinset := by
    ext pair
    rw [List.mem_toFinset, List.mem_toFinset]
    exact h.declared_pairs name pair
  have hnodup : (((T.labLinksAt lab name).filter fun ends => ∃ link ∈ T.links, link.pair = ends.pair).map
      LabLink.pair).Nodup :=
    lab.keys_nodup.sublist ((List.filter_sublist.trans List.filter_sublist).map _)
  have hcount : (T.labLinksAt lab name).countP (fun ends => ∃ link ∈ T.links, link.pair = ends.pair) =
      ((T.linksAt name).map Link.pair).toFinset.card := by
    rw [← hsets, List.toFinset_card_of_nodup hnodup, List.length_map, List.countP_eq_length_filter]
  have hsplit := List.length_eq_countP_add_countP (l := T.labLinksAt lab name)
    fun ends => decide (∃ link ∈ T.links, link.pair = ends.pair)
  rw [hsplit, hcount, undeclaredLinks]
  simp only [decide_eq_true_eq, not_exists, not_and]

theorem PlannedAs.adjacencies_iff (h : T.PlannedAs lab plan) :
    (∀ item ∈ plan.baselineAdjacencies, item.fullNeighbors = (T.labLinksAt lab item.router).length) ↔
      ∀ node ∈ T.nodes, T.surplusLinks node.name = T.undeclaredLinks lab node.name := by
  have hnode : ∀ name, T.degree name = (T.labLinksAt lab name).length ↔
      T.surplusLinks name = T.undeclaredLinks lab name := by
    intro name
    rw [T.degree_eq_add, h.labLinksAt_eq_add]
    omega
  constructor
  · intro hmatch node hmem
    obtain ⟨item, hitem, hrouter, hcount⟩ := exists_right h.adjacencies hmem
    rw [← hnode, ← hcount, ← hrouter]
    exact hmatch item hitem
  · intro hbalanced item hitem
    obtain ⟨node, hmem, hrouter, hcount⟩ := exists_left h.adjacencies hitem
    rw [hcount, hrouter, hnode]
    exact hbalanced node hmem

end Topology

section

variable (intentFields : Value → Result IntentFields) (digest : TopologyDocument → String)

theorem planned_adjacencies_exact_iff (intentDocument labDocument : Value) (labSha256 : String)
    (plan : RuntimeN1Plan) (h : buildRuntimeN1Plan intentFields digest intentDocument labDocument labSha256 =
      .ok plan) :
    ∃ T lab, candidateTopology intentFields intentDocument = .ok T ∧ loadLabLinks labDocument = .ok lab ∧
      plan.baselineAdjacencies.map BaselineAdjacencyExpectation.router = T.nodes.map Node.name ∧
      ((∀ item ∈ plan.baselineAdjacencies, item.fullNeighbors = (T.labLinksAt lab item.router).length) ↔
        ∀ node ∈ T.nodes, T.surplusLinks node.name = T.undeclaredLinks lab node.name) := by
  obtain ⟨T, lab, hT, hlab, hplanned⟩ := buildRuntimeN1Plan_ok h
  refine ⟨T, lab, hT, hlab, ?_, hplanned.adjacencies_iff⟩
  exact (map_eq_map hplanned.adjacencies fun _ _ hxy => hxy.1.symm).symm

end

theorem planned_adjacencies_diamond : ∃ plan T lab, diamondPlan diamondLab diamondLabSha256 = .ok plan ∧
    candidateTopology (readFields diamondFields) diamondFields.document = .ok T ∧
    loadLabLinks diamondLab = .ok lab ∧
      ∀ item ∈ plan.baselineAdjacencies, item.fullNeighbors = (T.labLinksAt lab item.router).length := by
  obtain ⟨plan, hplan⟩ := diamondPlan_ok
  obtain ⟨T, lab, hT, hlab, -, hmatch⟩ := planned_adjacencies_exact_iff _ _ _ _ _ plan hplan
  have hbalanced : (candidateTopology (readFields diamondFields) diamondFields.document).toOption.map
      (fun T =>
      (loadLabLinks diamondLab).toOption.map fun lab =>
        decide (∀ node ∈ T.nodes, T.surplusLinks node.name = T.undeclaredLinks lab node.name)) =
          some (some true) := by
    decide +kernel
  rw [hT, hlab] at hbalanced
  exact ⟨plan, T, lab, hplan, hT, hlab,
    hmatch.mpr (of_decide_eq_true (Option.some.inj (Option.some.inj hbalanced)))⟩

def crossLab : Value :=
  labDocument diamondNodes [("access1:eth1", "agg1:eth1"), ("access1:eth2", "agg2:eth1"),
    ("agg1:eth2", "service-host:eth1"), ("agg2:eth2", "service-host:eth2"), ("agg1:eth3", "agg2:eth3")]

theorem undeclared_link_uncounted : ∃ plan T lab,
    diamondPlan crossLab "11df3daf7b0586687b2ac4c88b4e57d6ba39e21e7ada02daa548e75b2691161c" = .ok plan ∧
      candidateTopology (readFields diamondFields) diamondFields.document = .ok T ∧
      loadLabLinks crossLab = .ok lab ∧
      (T.labLinksAt lab "agg1").length = 3 ∧
      ∃ item ∈ plan.baselineAdjacencies, item.router = "agg1" ∧ item.fullNeighbors = 2 := by
  have hplans : (diamondPlan crossLab
      "11df3daf7b0586687b2ac4c88b4e57d6ba39e21e7ada02daa548e75b2691161c").toOption.map (fun plan =>
      decide (∃ item ∈ plan.baselineAdjacencies, item.router = "agg1" ∧ item.fullNeighbors = 2)) =
        some true := by
    decide +kernel
  have hlinks : (candidateTopology (readFields diamondFields) diamondFields.document).toOption.bind (fun T =>
      (loadLabLinks crossLab).toOption.map fun lab => (T.labLinksAt lab "agg1").length) = some 3 := by
    decide +kernel
  obtain ⟨plan, hplan, hitem⟩ := exists_ok hplans
  obtain ⟨T, hT, hlabs⟩ := Option.bind_eq_some_iff.mp hlinks
  obtain ⟨lab, hlab, hlength⟩ := exists_ok hlabs
  exact ⟨plan, T, lab, hplan, (toOption_some_iff _ _).mp hT, hlab, hlength, of_decide_eq_true hitem⟩

end TelconetSentinel

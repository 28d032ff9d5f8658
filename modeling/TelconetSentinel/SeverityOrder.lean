import TelconetSentinel.FailureDomains
import TelconetSentinel.Resilience

namespace TelconetSentinel.Topology

open FallibleLists WeightedWalks

section Monotone

variable {T : Topology} {fault fault' : FaultScenario} {r r' : FaultScenarioResult}

theorem CutOff.mono (hle : removal fault.excludedLinks fault.excludedNodes ≤
    removal fault'.excludedLinks fault'.excludedNodes) {access : String} (h : T.CutOff fault access) :
    T.CutOff fault' access :=
  fun t ht w hw => h t ht w (hw.of_le hle)

theorem LosesShortest.mono (hle : removal fault.excludedLinks fault.excludedNodes ≤
    removal fault'.excludedLinks fault'.excludedNodes) {access : String} (h : T.LosesShortest fault access) :
    T.LosesShortest fault' access :=
  fun t ht w hs hw => h t ht w hs (hw.of_le hle)

theorem AuditedAs.cost_mono (h : T.AuditedAs fault r) (h' : T.AuditedAs fault' r')
    (hL : fault.excludedLinks ⊆ fault'.excludedLinks) (hX : fault.excludedNodes ⊆ fault'.excludedNodes)
    {path path' : AccessPathResult} (hp : path ∈ r.paths) (hp' : path' ∈ r'.paths)
    (hnode : path.accessNode = path'.accessNode) : toTop path.postFaultCost ≤ toTop path'.postFaultCost := by
  obtain ⟨access, -, hpath⟩ := exists_left h.paths hp
  obtain ⟨access', -, hpath'⟩ := exists_left h'.paths hp'
  obtain rfl : access = access' := hpath.node.symm.trans (hnode.trans hpath'.node)
  exact hpath.after.mono (costs_antitone _ (removal_mono hL hX) _ _) hpath'.after

theorem AuditedAs.baseline_le (h : T.AuditedAs fault r) {path : AccessPathResult} (hp : path ∈ r.paths) :
    toTop (some path.baselineCost) ≤ toTop path.postFaultCost := by
  obtain ⟨access, -, hpath⟩ := exists_left h.paths hp
  exact hpath.baseline_le

theorem AuditedAs.affected_mono (h : T.AuditedAs fault r) (h' : T.AuditedAs fault' r')
    (hL : fault.excludedLinks ⊆ fault'.excludedLinks) (hX : fault.excludedNodes ⊆ fault'.excludedNodes) :
    r.affectedNodes ⊆ r'.affectedNodes := by
  intro name hname
  obtain ⟨ha, hl⟩ := (h.affected_iff name).mp hname
  exact (h'.affected_iff name).mpr ⟨ha, hl.mono (removal_mono hL hX)⟩

theorem AuditedAs.impact_mono (h : T.AuditedAs fault r) (h' : T.AuditedAs fault' r')
    (hL : fault.excludedLinks ⊆ fault'.excludedLinks) (hX : fault.excludedNodes ⊆ fault'.excludedNodes) :
    r.serviceImpact ≤ r'.serviceImpact := by
  have hle := removal_mono hL hX
  show r.serviceImpact.severity ≤ r'.serviceImpact.severity
  cases hi : r.serviceImpact with
  | redundancyReduced => exact Nat.zero_le _
  | outage =>
    obtain ⟨access, ha, hc⟩ := h.outage_iff.mp hi
    rw [h'.outage_iff.mpr ⟨access, ha, hc.mono hle⟩]
  | degraded =>
    obtain ⟨-, access, ha, hl⟩ := h.degraded_iff.mp hi
    cases hi' : r'.serviceImpact with
    | redundancyReduced =>
      have hkeep := h'.reduced_iff.mp hi' access ha
      exact absurd hkeep ((not_keepsShortest _ _ _ _).mpr (hl.mono hle))
    | degraded => exact le_rfl
    | outage => decide

end Monotone

theorem severity_monotone (T : Topology) (digest : TopologyDocument → String) :
    (∀ scenarios scenarios' audit audit', T.auditFaultScenarios scenarios = .ok audit →
      T.auditFaultScenarios scenarios' = .ok audit' → ∀ r ∈ audit.scenarios, ∀ r' ∈ audit'.scenarios,
      r.fault.excludedLinks ⊆ r'.fault.excludedLinks → r.fault.excludedNodes ⊆ r'.fault.excludedNodes →
      (∀ path ∈ r.paths, toTop (some path.baselineCost) ≤ toTop path.postFaultCost) ∧
      (∀ path ∈ r.paths, ∀ path' ∈ r'.paths, path.accessNode = path'.accessNode →
        toTop path.postFaultCost ≤ toTop path'.postFaultCost) ∧
      r.affectedNodes ⊆ r'.affectedNodes ∧ r.serviceImpact ≤ r'.serviceImpact) ∧
    (∀ catalog domains, T.auditFailureDomains digest catalog = .ok domains → ∀ domain ∈ domains.scenarios,
      (∀ audit, T.auditSingleLinkFailures = .ok audit → ∀ linkId ∈ domain.excludedLinks,
        ∃ s ∈ audit.scenarios, s.linkId = linkId ∧ s.serviceImpact ≤ domain.serviceImpact) ∧
      (∀ audit, T.auditSingleLinkFailures = .ok audit → ∀ s ∈ audit.scenarios,
        s.linkId ∈ domain.excludedLinks → s.serviceImpact ≤ domain.serviceImpact) ∧
      (∀ audit, T.auditSingleNodeFailures = .ok audit → ∀ s ∈ audit.scenarios,
        s.nodeName ∈ domain.excludedNodes → s.serviceImpact ≤ domain.serviceImpact)) := by
  constructor
  · intro scenarios scenarios' audit audit' h h' r hr r' hr' hL hX
    obtain ⟨fault, -, hspec⟩ := exists_left (T.auditFaultScenarios_ok h) hr
    obtain ⟨fault', -, hspec'⟩ := exists_left (T.auditFaultScenarios_ok h') hr'
    obtain rfl := hspec.fault_eq
    obtain rfl := hspec'.fault_eq
    exact ⟨fun path hp => hspec.baseline_le hp,
      fun path hp path' hp' hn => hspec.cost_mono hspec' hL hX hp hp' hn,
      hspec.affected_mono hspec' hL hX, hspec.impact_mono hspec' hL hX⟩
  · intro catalog domains h domain hd
    obtain ⟨item, -, hdomain⟩ := exists_left (auditFailureDomains_ok h) hd
    obtain ⟨fault, r, hlinks, hnodes, hspec, himpact, -⟩ := hdomain.audited
    have hlink : ∀ link s, T.LinkAudited link s → link.id ∈ domain.excludedLinks →
        s.serviceImpact ≤ domain.serviceImpact := by
      intro link s hs hmem
      obtain ⟨single, r', hl, hn, hspec', himpact', -⟩ := hs.audited
      rw [himpact, himpact']
      refine hspec'.impact_mono hspec ?_ ?_
      · rw [hl, hlinks, Finset.singleton_subset_iff, List.mem_toFinset]
        exact (hdomain.links _).mp hmem
      · rw [hn]
        exact Finset.empty_subset _
    refine ⟨fun audit ha linkId hmem => ?_, fun audit ha s hs hmem => ?_, fun audit ha s hs hmem => ?_⟩
    · have hknown : linkId ∈ T.linkIds :=
        hspec.links_known (by rw [hlinks]; exact List.mem_toFinset.mpr ((hdomain.links _).mp hmem))
      obtain ⟨link, hm, rfl⟩ := List.mem_map.mp (List.mem_toFinset.mp hknown)
      obtain ⟨s, hs, haudited⟩ := exists_right (auditSingleLinkFailures_ok ha) ((T.mem_links link).mpr hm)
      exact ⟨s, hs, haudited.linkId, hlink link s haudited hmem⟩
    · obtain ⟨link, -, haudited⟩ := exists_left (auditSingleLinkFailures_ok ha) hs
      exact hlink link s haudited (haudited.linkId ▸ hmem)
    · obtain ⟨node, -, haudited⟩ := exists_left (auditSingleNodeFailures_ok ha) hs
      obtain ⟨single, r', hl, hn, hspec', himpact', -⟩ := haudited.audited
      rw [himpact, himpact']
      refine hspec'.impact_mono hspec ?_ ?_
      · rw [hl]
        exact Finset.empty_subset _
      · rw [hn, hnodes, Finset.singleton_subset_iff, List.mem_toFinset]
        exact (hdomain.nodes _).mp (haudited.nodeName ▸ hmem)

def uplinkCatalog : FailureDomainCatalog where
  design := "dual-homed"
  topologySha256 := "cdc6f95fe2d0ac950ee431c57ac7021cb8e673e706f715b8eb510ad5e9320a01"
  failureDomains := [("uplinks",
    { type := .sharedConduit
      links := ["access1--agg1", "access1--agg2"]
      nodes := []
      links_length := by decide
      nodes_length := by decide
      links_nodup := by decide
      nodes_nodup := by decide
      two_components := by decide
      identifiers := by decide })]
  design_valid := by decide
  sha256_valid := by decide
  domains_length := by decide
  keys_nodup := by decide
  ids_valid := by decide

def firstUplinkFault : FaultScenario where
  id := "link:access1--agg1"
  kind := .link
  excludedLinks := {"access1--agg1"}
  excludedNodes := ∅
  id_valid := by decide
  component := by decide
  link_kind := by decide
  node_kind := by decide
  composite_kind := by decide

theorem severity_monotone_uplinks :
    (∃ single double, diamond.auditFaultScenarios [firstUplinkFault] = .ok single ∧
      diamond.auditFaultScenarios [uplinkFault] = .ok double ∧
      ∀ r ∈ single.scenarios, ∀ r' ∈ double.scenarios, r.fault = firstUplinkFault → r'.fault = uplinkFault →
        r.affectedNodes ⊆ r'.affectedNodes ∧ r.serviceImpact ≤ r'.serviceImpact) ∧
    ∃ audit domains, diamond.auditSingleLinkFailures = .ok audit ∧
      diamond.auditFailureDomains (fun _ => uplinkCatalog.topologySha256) uplinkCatalog = .ok domains ∧
      ∀ domain ∈ domains.scenarios, ∀ s ∈ audit.scenarios,
        s.linkId ∈ domain.excludedLinks → s.serviceImpact ≤ domain.serviceImpact := by
  have h := severity_monotone diamond (fun _ => uplinkCatalog.topologySha256)
  obtain ⟨single, hs⟩ : ∃ a, diamond.auditFaultScenarios [firstUplinkFault] = .ok a := ⟨_, rfl⟩
  obtain ⟨double, hd⟩ : ∃ a, diamond.auditFaultScenarios [uplinkFault] = .ok a := ⟨_, rfl⟩
  obtain ⟨audit, ha⟩ : ∃ a, diamond.auditSingleLinkFailures = .ok a := ⟨_, rfl⟩
  obtain ⟨domains, hdom⟩ : ∃ a, diamond.auditFailureDomains (fun _ => uplinkCatalog.topologySha256)
    uplinkCatalog = .ok a := ⟨_, rfl⟩
  refine ⟨⟨single, double, hs, hd, ?_⟩, audit, domains, ha, hdom, fun domain hdm =>
    (h.2 _ _ hdom domain hdm).2.1 _ ha⟩
  intro r hr r' hr' hf hf'
  exact (h.1 _ _ _ _ hs hd r hr r' hr' (by rw [hf, hf']; decide) (by rw [hf, hf']; decide)).2.2

end TelconetSentinel.Topology

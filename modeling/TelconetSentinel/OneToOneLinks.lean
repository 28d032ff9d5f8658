import TelconetSentinel.CollectedSnapshots
import TelconetSentinel.LinkBinding

namespace TelconetSentinel

open DocumentValues FallibleLists KeyedLists TelemetryBinding

def managedLinks (intent : NetworkIntent) (lab : LabLinks) : List LabLink :=
  lab.values.filter fun ends => ends.first.1 ∈ intent.nodes.keys ∧ ends.second.1 ∈ intent.nodes.keys

theorem mem_managedLinks_iff (intent : NetworkIntent) (lab : LabLinks) (ends : LabLink) :
    ends ∈ managedLinks intent lab ↔ ends ∈ lab.values ∧ ∀ node ∈ ends.pair, node ∈ intent.nodes.keys := by
  simp [managedLinks, LabLink.pair]

structure OneToOne (intent : NetworkIntent) (lab : LabLinks) (binding : TelemetryTopologyBinding) : Prop where
  made : List.Forall₂ (fun link bound => bound.id = link.id ∧ (bound.source, bound.target) = link.endpoints)
    intent.links binding.links
  bound : ∀ link ∈ binding.links, ∃! ends, ends ∈ managedLinks intent lab ∧ link.On ends
  covered : ∀ ends ∈ managedLinks intent lab, ∃! link, link ∈ binding.links ∧ link.On ends
  endpoints_unique : (binding.links.flatMap TelemetryLink.endpoints).Nodup
  identified : ∀ link ∈ binding.links, ∀ endpoint ∈ link.endpoints,
    binding.interfaceLinkId endpoint.1 endpoint.2 = some link.id

namespace TelemetryBinding.LoadedFrom

variable {config : TelemetryConfig} {intent : NetworkIntent} {clab : ClabTopology}
  {binding : TelemetryTopologyBinding}

theorem lab_unique {link : TelemetryLink} {ends ends' : LabLink} (hends : ends ∈ clab.links.values)
    (hends' : ends' ∈ clab.links.values) (hon : link.On ends) (hon' : link.On ends') : ends = ends' :=
  key_inj clab.links.keys_nodup hends hends' (hon.1.symm.trans hon'.1)

theorem managed (h : LoadedFrom config intent clab binding) {link : TelemetryLink}
    (hlink : link ∈ binding.links) {ends : LabLink} (hends : ends ∈ clab.links.values) (hon : link.On ends) :
    ends ∈ managedLinks intent clab.links := by
  obtain ⟨made, hmade, -, hnodes⟩ := exists_left h.made hlink
  obtain ⟨-, hsource, htarget⟩ := intent.references_known made hmade
  rw [mem_managedLinks_iff, ← hon.1, TelemetryLink.pair]
  rw [← hnodes] at hsource htarget
  refine ⟨hends, fun node hnode => ?_⟩
  rcases Sym2.mem_iff.mp hnode with rfl | rfl
  · exact hsource
  · exact htarget

theorem exists_bound (h : LoadedFrom config intent clab binding) {ends : LabLink}
    (hends : ends ∈ managedLinks intent clab.links) : ∃ link ∈ binding.links, link.On ends := by
  have hdeclared := ((List.perm_insertionSort _ _).symm.trans (List.Perm.of_eq h.declared)).eq_nil
  rw [List.map_eq_nil_iff, List.filter_eq_nil_iff] at hdeclared
  obtain ⟨hmem, hnodes⟩ := List.mem_filter.mp hends
  have hpair := hdeclared ends hmem
  rw [decide_eq_true_eq] at hnodes hpair
  push Not at hpair
  obtain ⟨link, hlink, hlinkPair⟩ := hpair hnodes.1 hnodes.2
  have hboundPair : ends.pair ∈ binding.links.map TelemetryLink.pair := by
    rw [h.pairs_eq, ← hlinkPair]
    exact List.mem_map_of_mem (f := LinkIntent.pair) hlink
  obtain ⟨bound, hbound, hpair⟩ := List.mem_map.mp hboundPair
  obtain ⟨ends', hends', hon⟩ := h.exists_lab hbound
  obtain rfl := key_inj clab.links.keys_nodup hmem hends' (hpair.symm.trans hon.1)
  exact ⟨bound, hbound, hon⟩

theorem oneToOne_iff (h : LoadedFrom config intent clab binding) :
    OneToOne intent clab.links binding ↔ (intent.links.map LinkIntent.pair).Nodup := by
  rw [← h.pairs_eq]
  constructor
  · intro hone
    refine h.links_nodup.map_on fun link hlink link' hlink' hpair => ?_
    obtain ⟨ends, hends, hon⟩ := h.exists_lab hlink
    obtain ⟨ends', hends', hon'⟩ := h.exists_lab hlink'
    obtain rfl := key_inj clab.links.keys_nodup hends hends' (hon.1.symm.trans (hpair.trans hon'.1))
    exact (hone.covered ends (h.managed hlink hends hon)).unique ⟨hlink, hon⟩ ⟨hlink', hon'⟩
  · intro hpairs
    have hshared : ∀ link ∈ binding.links, ∀ link' ∈ binding.links, ∀ endpoint ∈ link.endpoints,
        endpoint ∈ link'.endpoints → link = link' := fun link hlink link' hlink' endpoint hend hend' =>
      key_inj hpairs hlink hlink' (h.pair_eq_of_shared hlink hlink' hend hend')
    refine ⟨h.made, fun link hlink => ?_, fun ends hends => ?_, ?_, fun link hlink endpoint hend => ?_⟩
    · obtain ⟨ends, hends, hon⟩ := h.exists_lab hlink
      refine ⟨ends, ⟨h.managed hlink hends hon, hon⟩, ?_⟩
      rintro ends' ⟨hends', hon'⟩
      exact lab_unique (List.mem_of_mem_filter hends') hends hon' hon
    · obtain ⟨link, hlink, hon⟩ := h.exists_bound hends
      refine ⟨link, ⟨hlink, hon⟩, ?_⟩
      rintro link' ⟨hlink', hon'⟩
      exact key_inj hpairs hlink' hlink (hon'.1.trans hon.1.symm)
    · refine List.nodup_flatMap.mpr ⟨fun link hlink => ?_, ?_⟩
      · obtain ⟨ends, -, hon⟩ := h.exists_lab hlink
        have hne := hon.nodes_ne
        simp [TelemetryLink.endpoints, hne]
      · refine h.links_nodup.imp_of_mem fun hlink hlink' hne => ?_
        exact List.disjoint_left.mpr fun endpoint hend hend' =>
          hne (hshared _ hlink _ hlink' endpoint hend hend')
    · cases hfound : binding.interfaceLinkId endpoint.1 endpoint.2 with
      | none => exact absurd hend ((binding.interfaceLinkId_none_iff _ _).mp hfound link hlink)
      | some id =>
        obtain ⟨link', hlink', hend', rfl⟩ := TelemetryTopologyBinding.interfaceLinkId_some hfound
        rw [hshared link hlink link' hlink' endpoint hend hend']

end TelemetryBinding.LoadedFrom

theorem links_bound_one_to_one_iff (pyRepr : Value → String) (config : TelemetryConfig)
    (intent : NetworkIntent) (clabDocument : Value) (fingerprint : String)
    (binding : TelemetryTopologyBinding)
    (h : loadTelemetryBinding pyRepr config intent clabDocument fingerprint = .ok binding) :
    ∃ clab, loadClabTopology pyRepr clabDocument = .ok clab ∧
      (OneToOne intent clab.links binding ↔ (intent.links.map LinkIntent.pair).Nodup) := by
  obtain ⟨-, clab, hclab, hloaded⟩ := loadTelemetryBinding_loaded h
  exact ⟨clab, hclab, hloaded.oneToOne_iff⟩

theorem labLoad_ok : labLoad = .ok labBinding := by
  obtain ⟨binding, hbinding, hfields⟩ : ∃ binding, labLoad = .ok binding ∧
      (binding.fingerprint, binding.targets, binding.links) =
        (labFingerprint, labBinding.targets, labBinding.links) := by
    apply exists_ok
    decide +kernel
  obtain ⟨hconfig, -⟩ := loadTelemetryBinding_loaded hbinding
  rw [hbinding]
  cases binding
  simp only [Prod.mk.injEq] at hfields
  obtain ⟨rfl, rfl, rfl⟩ := hfields
  subst hconfig
  rfl

theorem links_bound_one_to_one_lab : ∃ clab, loadClabTopology (fun _ => "'...'") clabDocument = .ok clab ∧
    OneToOne labIntent clab.links labBinding := by
  obtain ⟨clab, hclab, hiff⟩ := links_bound_one_to_one_iff _ _ _ _ _ _ labLoad_ok
  exact ⟨clab, hclab, hiff.mpr (by decide +kernel)⟩

/-- A second link joins `core1` and `service-host`, which no telemetry target owns. -/
def parallelIntent : NetworkIntent where
  nodes := labFields.nodes
  links := labFields.links ++
    (LinkIntent.ofFields "core1--service-host-b" ("service-host", "core1") 10).toList
  nodes_length := labFields.nodes_length
  links_length := by decide +kernel
  names_valid := labIntent.names_valid
  ids_unique := by decide +kernel
  references_known := by decide +kernel
  prefixes_unique := labIntent.prefixes_unique

def parallelLoad : Result TelemetryTopologyBinding :=
  loadTelemetryBinding (fun _ => "'...'") labBinding.config parallelIntent clabDocument labFingerprint

theorem parallel_links_share_interface : ∃ clab binding, loadClabTopology (fun _ => "'...'") clabDocument =
    .ok clab ∧
    parallelLoad = .ok binding ∧ ¬ OneToOne parallelIntent clab.links binding := by
  obtain ⟨binding, hbinding, hshared⟩ : ∃ binding, parallelLoad = .ok binding ∧
      decide (binding.links.flatMap TelemetryLink.endpoints).Nodup = false := by
    apply exists_ok
    decide +kernel
  obtain ⟨-, clab, hclab, -⟩ := loadTelemetryBinding_loaded hbinding
  exact ⟨clab, binding, hclab, hbinding, fun hone => of_decide_eq_false hshared hone.endpoints_unique⟩

end TelconetSentinel

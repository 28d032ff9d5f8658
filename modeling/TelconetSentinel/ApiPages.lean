import TelconetSentinel.Api

namespace TelconetSentinel

open DocumentValues ExpositionText FallibleLists KeyedLists

structure PageText (names : List String) (blocks : List Block) (body : String) : Prop where
  renders : Renders body (blocks.flatMap Block.lines)
  sound : ∀ block ∈ blocks, block.Sound
  names_eq : blocks.flatMap Block.names = names

namespace PageText

variable {names names' : List String} {blocks blocks' : List Block} {body body' : String}

theorem append (h : PageText names blocks body) (h' : PageText names' blocks' body') :
    PageText (names ++ names') (blocks ++ blocks') (body ++ body') := by
  refine ⟨?_, List.forall_mem_append.mpr ⟨h.sound, h'.sound⟩, ?_⟩
  · rw [List.flatMap_append]
    exact h.renders.append h'.renders
  · rw [List.flatMap_append, h.names_eq, h'.names_eq]

theorem empty : PageText [] [] "" := ⟨⟨rfl, by simp⟩, by simp, rfl⟩

theorem wellFormed (h : PageText names blocks body) (hnames : names.Nodup) :
    WellFormed (blocks.flatMap Block.lines) :=
  wellFormed_blocks h.sound (h.names_eq ▸ hnames)

theorem typed (h : PageText names blocks body) : (blocks.flatMap Block.lines).filterMap Line.typed =
    names := by
  rw [← h.names_eq]
  simp only [List.filterMap_flatMap, Block.typed_lines]

theorem samples_of_block (h : PageText names blocks body) (hnames : names.Nodup) {block : Block}
    (hblock : block ∈ blocks) :
    ((blocks.flatMap Block.lines).filterMap Line.sampled).filter (·.name ∈ block.names) = block.samples := by
  obtain ⟨before, after, rfl⟩ := List.append_of_mem hblock
  rw [← h.names_eq, List.flatMap_append, List.flatMap_cons] at hnames
  obtain ⟨-, htail, hbefore⟩ := List.nodup_append'.mp hnames
  obtain ⟨-, -, hafter⟩ := List.nodup_append'.mp htail
  have hothers : ∀ others : List Block, (∀ other ∈ others, other ∈ before ++ block :: after) →
      (∀ name ∈ block.names, name ∉ others.flatMap Block.names) →
      (others.flatMap Block.samples).filter (·.name ∈ block.names) = [] := by
    intro others hmem hforeign
    rw [List.filter_eq_nil_iff]
    intro sample hsample hname
    obtain ⟨other, hother, hsample⟩ := List.mem_flatMap.mp hsample
    have hdeclared := (h.sound other (hmem other hother)).declared sample hsample
    exact hforeign _ (of_decide_eq_true hname) (List.mem_flatMap.mpr ⟨other, hother, hdeclared⟩)
  have hown : block.samples.filter (·.name ∈ block.names) = block.samples :=
    List.filter_eq_self.mpr fun sample hsample =>
      decide_eq_true ((h.sound block hblock).declared sample hsample)
  simp only [List.filterMap_flatMap, Block.sampled_lines]
  rw [List.flatMap_append, List.flatMap_cons, List.filter_append, List.filter_append, hown,
    hothers before (fun other hother => List.mem_append_left _ hother) fun name hname hmem =>
      hbefore hmem (List.mem_append_left _ hname),
    hothers after (fun other hother => List.mem_append_right _ (List.mem_cons_of_mem _ hother))
    fun name hname hmem =>
      hafter hname hmem, List.nil_append, List.append_nil]

end PageText

namespace Api

def liveBlock (live : Option LiveReadings) : Block := ⟨liveFamilies, live.elim [] liveMeant⟩

def experimentNames (app : App) : List String := experimentFamilies.map Family.name ++
  if app.repeatedExperimentEvidence.isSome then repeatedFamilies.map Family.name else []

def liveNames : List String := liveFamilies.map Family.name

def resilienceNames : List String :=
  ["telconet_n1_design_pass", "telconet_n1_scenarios_total", "telconet_n1_link_impact"]

def nodeResilienceNames : List String := ["telconet_n1_node_design_pass", "telconet_n1_node_outages_total"]

def candidateNames : List String :=
  ["telconet_n1_candidate_design_pass", "telconet_n1_candidate_outages_total"]

def candidateNodeNames : List String :=
  ["telconet_n1_node_candidate_design_pass", "telconet_n1_node_candidate_outages_total"]

def failureDomainNames : List String :=
  ["telconet_srlg_design_pass", "telconet_srlg_scenarios_total", "telconet_srlg_impact"]

def runtimeN1Names : List String := ["telconet_runtime_n1_pass", "telconet_runtime_n1_scenarios_total",
  "telconet_runtime_n1_checks_total", "telconet_runtime_n1_scenario_pass",
  "telconet_runtime_n1_evidence_info"]

def telemetryNames : List String := Metric.all.map Metric.name

def designNames (app : App) : List String := resilienceNames ++ nodeResilienceNames ++
  ((if app.candidateAudit.isSome then candidateNames else []) ++
    (if app.candidateNodeAudit.isSome then candidateNodeNames else []) ++
    ((if app.failureDomainAudit.isSome then failureDomainNames else []) ++
      if app.runtimeN1Evidence.isSome then runtimeN1Names else []))

def firstNames (app : App) : List String := experimentNames app ++ liveNames ++ designNames app

def pageNames (app : App) : List String :=
  firstNames app ++ if app.telemetryBinding.isSome then telemetryNames else []

theorem pageNames_nodup (app : App) : (pageNames app).Nodup := by
  have hall : (experimentFamilies.map Family.name ++ repeatedFamilies.map Family.name ++ liveNames ++
    (resilienceNames ++ nodeResilienceNames ++ (candidateNames ++ candidateNodeNames ++
      (failureDomainNames ++ runtimeN1Names))) ++ telemetryNames).Nodup := by decide +kernel
  refine hall.sublist ?_
  have hoptional : ∀ (b : Bool) (names : List String), (if b then names else []).Sublist names := by
    intro b names
    cases b
    · exact List.nil_sublist _
    · exact List.Sublist.refl _
  refine List.Sublist.append (.append (.append ((List.Sublist.refl _).append (hoptional _ _)) (.refl _)) ?_)
    (hoptional _ _)
  exact (List.Sublist.refl _).append
    (((hoptional _ _).append (hoptional _ _)).append ((hoptional _ _).append (hoptional _ _)))

section Creation

structure Created {τ : Type} [Zero τ] [LE τ] [DecidableRel (fun a b : τ => a ≤ b)]
    (digest : TopologyDocument → String) (dedupWindow : τ) (arguments : Arguments) (app : App)
    (state : State τ) : Prop where
  arguments_eq : app.toArguments = arguments
  evidence : ∀ value ∈ app.experimentEvidence, validateExperimentEvidence value = .ok ()
  repeated : ∀ value ∈ app.repeatedExperimentEvidence, validateRepeatedExperimentEvidence value = .ok ()
  service : IncidentService.init app.topology dedupWindow 1000 = .ok state.service
  liveStore : app.convergenceStore.elim (ConvergenceStore.init 20) .ok = .ok state.liveStore
  objects : state.runObjects = state.liveStore.runs
  telemetryStore : app.telemetryStore.elim (TelemetryStore.init 120) .ok = .ok state.telemetryStore
  resilience : app.topology.auditSingleLinkFailures = .ok app.resilienceAudit
  domains : ∀ audit ∈ app.failureDomainAudit, ∃ candidate catalog,
    Topology.auditFailureDomains digest candidate catalog = .ok audit

theorem optionally_ok {α β : Type} {f : α → Result β} {argument : Option α} {result : Option β}
    (h : optionally f argument = .ok result) : ∀ a ∈ argument, ∃ b, f a = .ok b := by
  rintro a rfl
  cases hf : f a with
  | ok b => exact ⟨b, rfl⟩
  | error e =>
    simp only [optionally, hf] at h
    cases h

theorem auditDomains_ok {digest : TopologyDocument → String} {arguments : Arguments}
    {result : Option FailureDomainAudit} (h : auditDomains digest arguments = .ok result) : ∀ audit ∈ result,
      ∃ candidate catalog, Topology.auditFailureDomains digest candidate catalog = .ok audit := by
  rintro audit rfl
  unfold auditDomains at h
  split at h
  · next candidate catalog _ _ =>
    cases haudit : candidate.auditFailureDomains digest catalog with
    | error e =>
      rw [haudit] at h
      cases h
    | ok made =>
      rw [haudit] at h
      obtain rfl := Option.some.inj (Except.ok.inj h)
      exact ⟨candidate, catalog, haudit⟩
  · cases h

variable {τ : Type} [Zero τ] [LE τ] [DecidableRel (fun a b : τ => a ≤ b)] {digest : TopologyDocument → String}
variable {dedupWindow : τ} {arguments : Arguments} {app : App} {state : State τ}

theorem createApp_created (h : createApp digest dedupWindow arguments = .ok (app, state)) :
    Created digest dedupWindow arguments app state := by
  obtain ⟨_, hevidence, h⟩ := (bind_ok_iff _ _ _).mp h
  obtain ⟨_, hrepeated, h⟩ := (bind_ok_iff _ _ _).mp h
  obtain ⟨_, -, h⟩ := (bind_ok_iff _ _ _).mp h
  obtain ⟨-, h⟩ := (check_ok_iff _ _ _ _).mp h
  obtain ⟨service, hservice, h⟩ := (bind_ok_iff _ _ _).mp h
  obtain ⟨liveStore, hlive, h⟩ := (bind_ok_iff _ _ _).mp h
  obtain ⟨telemetryStore, htelemetry, h⟩ := (bind_ok_iff _ _ _).mp h
  obtain ⟨resilienceAudit, hresilience, h⟩ := (bind_ok_iff _ _ _).mp h
  obtain ⟨nodeResilienceAudit, -, h⟩ := (bind_ok_iff _ _ _).mp h
  obtain ⟨candidateAudit, -, h⟩ := (bind_ok_iff _ _ _).mp h
  obtain ⟨candidateNodeAudit, -, h⟩ := (bind_ok_iff _ _ _).mp h
  obtain ⟨failureDomainAudit, hdomains, h⟩ := (bind_ok_iff _ _ _).mp h
  obtain ⟨rfl, rfl⟩ := Prod.mk.inj (Except.ok.inj h)
  exact ⟨rfl, fun value hvalue => (optionally_ok hevidence value hvalue).choose_spec,
    fun value hvalue => (optionally_ok hrepeated value hvalue).choose_spec, hservice, hlive, rfl, htelemetry,
    hresilience, auditDomains_ok hdomains⟩

namespace Created

variable (h : Created digest dedupWindow arguments app state)
include h

theorem links_unique : (app.resilienceAudit.scenarios.map LinkFailureScenario.linkId).Nodup := by
  rw [← map_eq_map (Topology.auditSingleLinkFailures_ok h.resilience) fun _ _ hs => hs.linkId.symm]
  exact app.topology.linkIds_sortedLT.nodup

theorem domains_unique : ∀ audit ∈ app.failureDomainAudit,
    (audit.scenarios.map FailureDomainScenarioResult.domainId).Nodup := by
  intro audit haudit
  obtain ⟨candidate, catalog, hmade⟩ := h.domains audit haudit
  rw [← map_eq_map (Topology.auditFailureDomains_ok hmade) fun _ _ hs => hs.domainId.symm]
  exact ((List.perm_insertionSort _ _).map Prod.fst).nodup_iff.mpr catalog.keys_nodup

end Created

end Creation

section Rendering

theorem optional_page {α : Type} (names : List String) (f : α → String) (argument : Option α)
    (h : ∀ a ∈ argument, ∃ blocks, PageText names blocks (f a)) :
    ∃ blocks, PageText (if argument.isSome then names else []) blocks (argument.elim "" f) := by
  cases argument with
  | none => exact ⟨[], .empty⟩
  | some a => exact h a rfl

theorem candidateNodes_page (argument : Option NodeResilienceAudit) : ∃ body blocks,
    optionally (renderNodeResilienceMetrics · "candidate") argument = .ok body ∧
      PageText (if argument.isSome then candidateNodeNames else []) blocks (body.getD "") := by
  cases argument with
  | none => exact ⟨none, [], rfl, .empty⟩
  | some audit =>
    obtain ⟨body, hbody, hrenders⟩ :=
      renderNodeResilienceMetrics_renders audit (Or.inr rfl : _ ∨ "candidate" = "candidate")
    refine ⟨some body, _, ?_, hrenders, nodeResilienceBlocks_sound audit "candidate", rfl⟩
    rw [optionally, hbody]
    rfl

variable {τ : Type} [Zero τ] [LE τ] [DecidableRel (fun a b : τ => a ≤ b)] {digest : TopologyDocument → String}
variable {dedupWindow : τ} {arguments : Arguments} {app : App} {state : State τ}

theorem renderDesigns_page (h : Created digest dedupWindow arguments app state) :
    ∃ body blocks, renderDesigns app = .ok body ∧ PageText (designNames app) blocks body := by
  obtain ⟨baseline, hbaseline, hbaselineRenders⟩ :=
    renderNodeResilienceMetrics_renders app.nodeResilienceAudit (Or.inl rfl : "baseline" = "baseline" ∨ _)
  obtain ⟨candidate, candidateBlocks, hcandidate, hcandidatePage⟩ :=
    candidateNodes_page app.candidateNodeAudit
  have hlinks : PageText resilienceNames (resilienceBlocks id app.resilienceAudit)
      (renderResilienceMetrics app.resilienceAudit) :=
    ⟨renderResilienceMetrics_renders _, resilienceBlocks_sound h.links_unique, rfl⟩
  have hnodes : PageText nodeResilienceNames (nodeResilienceBlocks app.nodeResilienceAudit "baseline")
      baseline :=
    ⟨hbaselineRenders, nodeResilienceBlocks_sound _ _, rfl⟩
  obtain ⟨_, hcandidates⟩ := optional_page candidateNames renderCandidateResilienceMetrics app.candidateAudit
    fun audit _ =>
      ⟨_, renderCandidateResilienceMetrics_renders audit, candidateResilienceBlocks_sound audit, rfl⟩
  obtain ⟨_, hdomains⟩ := optional_page failureDomainNames renderFailureDomainMetrics app.failureDomainAudit
    fun audit haudit =>
      ⟨_, renderFailureDomainMetrics_renders audit, failureDomainBlocks_sound (h.domains_unique audit haudit),
        rfl⟩
  obtain ⟨_, hruntime⟩ := optional_page runtimeN1Names renderRuntimeN1Metrics app.runtimeN1Evidence
    fun evidence _ => ⟨_, renderRuntimeN1Metrics_renders evidence, runtimeN1Blocks_sound evidence, rfl⟩
  refine ⟨_, _, ?_, (hlinks.append hnodes).append
    ((hcandidates.append hcandidatePage).append (hdomains.append hruntime))⟩
  rw [renderDesigns, hbaseline, ok_bind, hcandidate]
  rfl

theorem latest_ok {store : ConvergenceStore} (horder : store.order = store.runs.keys) :
    ∃ latest, store.latest = .ok latest ∧ ∀ run ∈ latest, run ∈ store.runs.values := by
  unfold ConvergenceStore.latest
  cases hlast : store.order.getLast? with
  | none => exact ⟨none, rfl, by simp⟩
  | some runId =>
    have hmem : runId ∈ store.runs.keys := horder ▸ List.mem_of_getLast? hlast
    obtain ⟨run, hrun⟩ := Option.isSome_iff_exists.mp ((Dict.mem_keys_iff _).mp hmem)
    refine ⟨some run, by simp only [hrun], fun found hfound => ?_⟩
    obtain rfl := Option.some.inj hfound
    exact ((Dict.get_some_iff _ _).mp hrun).1

theorem live_page {live : Option LiveReadings} (h : ∀ readings ∈ live, readings.Sound) :
    ∃ body, renderLiveMetrics live = .ok body ∧ PageText liveNames [liveBlock live] body := by
  cases live with
  | none =>
    obtain ⟨body, hbody, hrenders⟩ := renderLiveMetrics_none
    refine ⟨body, hbody, ⟨?_, ?_, rfl⟩⟩
    · rwa [List.flatMap_singleton]
    · refine List.forall_mem_singleton.mpr ⟨?_, ?_, List.nodup_nil⟩ <;> simp [liveBlock]
  | some readings =>
    have hreadings := h readings rfl
    obtain ⟨body, hbody, hrenders⟩ := renderLiveMetrics_renders hreadings
    refine ⟨body, hbody, ⟨?_, ?_, rfl⟩⟩
    · rwa [List.flatMap_singleton]
    · exact List.forall_mem_singleton.mpr (liveBlock_sound hreadings)

theorem experiments_page (h : Created digest dedupWindow arguments app state) {evidence : Value}
    (hevidence : app.experimentEvidence = some evidence) : ∃ experiments blocks,
      renderExperimentMetrics evidence app.repeatedExperimentEvidence = .ok experiments ∧
        PageText (experimentNames app) blocks experiments := by
  obtain ⟨experiments, blocks, hexperiments, htext⟩ :=
    renderExperimentMetrics_text (h.evidence evidence hevidence) h.repeated
  exact ⟨experiments, blocks, hexperiments, htext.renders, htext.sound, htext.names⟩

theorem renderFirst_page (h : Created digest dedupWindow arguments app state) {experiments : String}
    {before : List Block} (hexperiments : PageText (experimentNames app) before experiments)
    {live : Option LiveReadings} (hlive : ∀ readings ∈ live, readings.Sound) :
    ∃ body after, renderFirst app experiments live = .ok body ∧
      PageText (firstNames app) (before ++ liveBlock live :: after) body := by
  obtain ⟨body, hbody, hlivePage⟩ := live_page hlive
  obtain ⟨designs, after, hdesigns, hdesignPage⟩ := renderDesigns_page h
  have hpage := (hexperiments.append hlivePage).append hdesignPage
  have hblocks : before ++ [liveBlock live] ++ after = before ++ liveBlock live :: after :=
    (List.append_cons before _ after).symm
  rw [hblocks] at hpage
  refine ⟨experiments ++ body ++ designs, after, ?_, hpage⟩
  rw [renderFirst, hbody, ok_bind, hdesigns]
  rfl

end Rendering

end Api

end TelconetSentinel

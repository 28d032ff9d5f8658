import TelconetSentinel.FailureDomains
import TelconetSentinel.MetricsText
import TelconetSentinel.PublishedEvidence
import TelconetSentinel.Resilience

namespace TelconetSentinel

open ExpositionText
open TelemetryMetrics (flag labelTable escapeLabel)

def ServiceImpact.value : ServiceImpact → String
  | degraded => "degraded"
  | outage => "outage"
  | redundancyReduced => "redundancy_reduced"

def ServiceImpact.all : List ServiceImpact := [.degraded, .outage, .redundancyReduced]

theorem ServiceImpact.value_injective : Function.Injective ServiceImpact.value := by
  intro a b
  cases a <;> cases b <;> decide

def FailureDomainType.value : FailureDomainType → String
  | sharedConduit => "shared_conduit"
  | powerDomain => "power_domain"
  | site => "site"

/-- The three classes of audits count their scenarios alike. -/
def countImpact (impacts : List ServiceImpact) (impact : ServiceImpact) : ℕ := impacts.count impact

namespace ResilienceAudit

def totalScenarios (audit : ResilienceAudit) : ℕ := audit.scenarios.length

def count (audit : ResilienceAudit) (impact : ServiceImpact) : ℕ :=
  countImpact (audit.scenarios.map LinkFailureScenario.serviceImpact) impact

def passesNMinusOne (audit : ResilienceAudit) : Bool := audit.count .outage = 0

end ResilienceAudit

namespace NodeResilienceAudit

def totalScenarios (audit : NodeResilienceAudit) : ℕ := audit.scenarios.length

def count (audit : NodeResilienceAudit) (impact : ServiceImpact) : ℕ :=
  countImpact (audit.scenarios.map NodeFailureScenario.serviceImpact) impact

def passesNMinusOne (audit : NodeResilienceAudit) : Bool := audit.count .outage = 0

end NodeResilienceAudit

namespace FailureDomainAudit

def totalScenarios (audit : FailureDomainAudit) : ℕ := audit.scenarios.length

def count (audit : FailureDomainAudit) (impact : ServiceImpact) : ℕ :=
  countImpact (audit.scenarios.map FailureDomainScenarioResult.serviceImpact) impact

def passesAll (audit : FailureDomainAudit) : Bool := audit.count .outage = 0

end FailureDomainAudit

/-- A published document, with the fields that the API compares and shows beside the consistent summary. -/
structure RuntimeN1Publication extends RuntimeN1PublishedEvidence where
  sourceCommit : String
  workflowRunId : ℤ
  topologySha256 : String
  runtimeConfigurationSha256 : String
  sourceCommit_valid : sourceCommit.toList.length = 40 ∧
    ∀ c ∈ sourceCommit.toList, isDigit c = true ∨ 'a' ≤ c ∧ c ≤ 'f'
  workflowRunId_pos : 1 ≤ workflowRunId
  topologySha256_valid : isSha256 topologySha256
  runtimeConfigurationSha256_valid : isSha256 runtimeConfigurationSha256

def kindCount (scenarios : List RuntimeN1PublishedScenario) (kind : FaultKind) : ℕ :=
  (scenarios.map RuntimeN1PublishedScenario.kind).count kind

section Blocks

-- What stands between the quotes for a label value that the renderer escapes.
variable (escape : String → String)

def resilienceBlocks (audit : ResilienceAudit) : List Block := [
  .single "telconet_n1_design_pass"
  "Whether every simulated single-link failure preserves service reachability."
    [audit.passesNMinusOne] (fun _ => []) flag,
  .single "telconet_n1_scenarios_total" "Simulated single-link failures by impact." ServiceImpact.all
    (fun impact => [("impact", impact.value)]) fun impact => toString (audit.count impact),
  .single "telconet_n1_link_impact" "Impact classification for each simulated link failure." audit.scenarios
    (fun scenario => [("impact", scenario.serviceImpact.value), ("link_id", escape scenario.linkId)]) fun _ =>
    "1"]

def candidateResilienceBlocks (audit : ResilienceAudit) : List Block := [
  .single "telconet_n1_candidate_design_pass"
    "Whether every modeled single-link failure preserves candidate service reachability."
    [audit.passesNMinusOne]
    (fun _ => []) flag,
  .single "telconet_n1_candidate_outages_total"
  "Modeled single-link failures causing candidate service outage."
    [audit.count .outage] (fun _ => []) toString]

def nodeResilienceBlocks (audit : NodeResilienceAudit) (design : String) : List Block :=
  let start := "telconet_n1_node" ++ if design = "candidate" then "_candidate" else ""
  [.single (start ++ "_design_pass")
    s!"Whether every modeled transport-node failure preserves {design} service reachability."
      [audit.passesNMinusOne] (fun _ => []) flag,
    .single (start ++ "_outages_total") s!"Modeled transport-node failures causing {design} service outage."
      [audit.count .outage] (fun _ => []) toString]

def failureDomainBlocks (audit : FailureDomainAudit) : List Block := [
  .single "telconet_srlg_design_pass"
  "Whether every declared shared-risk failure preserves service reachability."
    [audit.passesAll] (fun _ => []) flag,
  .single "telconet_srlg_scenarios_total" "Declared shared-risk failures by impact." ServiceImpact.all
    (fun impact => [("impact", impact.value)]) fun impact => toString (audit.count impact),
  .single "telconet_srlg_impact" "Impact classification for each declared shared-risk failure."
  audit.scenarios
    (fun scenario => [("domain_id", escape scenario.domainId), ("domain_type", scenario.domainType.value),
      ("impact", scenario.serviceImpact.value)]) fun _ => "1"]

def runtimeN1Blocks (evidence : RuntimeN1Publication) : List Block := [
  .single "telconet_runtime_n1_pass" "Whether the attested runtime N-1 matrix passed." [evidence.passedAll]
    (fun _ => []) flag,
  .single "telconet_runtime_n1_scenarios_total" "Runtime N-1 scenarios by kind." [FaultKind.link,
    FaultKind.node] (fun kind => [("kind", kind.value)]) fun kind =>
    toString (kindCount evidence.scenarios kind),
  .single "telconet_runtime_n1_checks_total" "Runtime N-1 checks by result."
    [("passed", evidence.passedChecks), ("failed", evidence.failedChecks)]
    (fun result => [("result", result.1)])
    fun result => toString result.2,
  .single "telconet_runtime_n1_scenario_pass" "Whether one runtime scenario passed." evidence.scenarios
    (fun scenario => [("kind", scenario.kind.value), ("scenario_id", scenario.scenarioId)])
    fun scenario => flag scenario.passed,
  .single "telconet_runtime_n1_evidence_info" "Attested runtime evidence identity."
    [(evidence.sourceCommit, evidence.workflowRunId)]
    (fun run => [("source_commit", run.1), ("workflow_run", toString run.2)]) fun _ => "1"]

end Blocks

def renderResilienceMetrics (audit : ResilienceAudit) : String :=
  renderBlocks (resilienceBlocks Resilience.escapePrometheusLabel audit)

/-- The last line is empty, and no line feed is added. -/
def renderCandidateResilienceMetrics (audit : ResilienceAudit) : String :=
  String.intercalate "\n" ((candidateResilienceBlocks audit).flatMap writtenBlock ++ [""])

def renderNodeResilienceMetrics (audit : NodeResilienceAudit) (design : String := "baseline") :
    Result String :=
  if design ≠ "baseline" ∧ design ≠ "candidate" then .error (.valueError s!"unsupported design: {design}")
  else .ok (String.intercalate "\n" ((nodeResilienceBlocks audit design).flatMap writtenBlock ++ [""]))

def renderFailureDomainMetrics (audit : FailureDomainAudit) : String :=
  renderBlocks (failureDomainBlocks FailureDomain.escapePrometheusLabel audit)

def renderRuntimeN1Metrics (evidence : RuntimeN1Publication) : String :=
  renderBlocks (runtimeN1Blocks evidence)

section Exposition

theorem ServiceImpact.plain_value (impact : ServiceImpact) : Plain impact.value := by
  cases impact <;> decide

theorem FailureDomainType.plain_value (type : FailureDomainType) : Plain type.value := by
  cases type <;> decide

theorem FaultKind.plain_value (kind : FaultKind) : Plain kind.value := by
  cases kind <;> decide

theorem RuntimeN1PublishedScenario.plain_scenarioId (scenario : RuntimeN1PublishedScenario) :
    Plain scenario.scenarioId := by
  have hvalid := scenario.scenarioId_valid
  simp only [isRuntimeScenarioId, Bool.and_eq_true, Bool.or_eq_true, List.isPrefixOf_iff_prefix] at hvalid
  obtain ⟨hstart, hcomponent⟩ := hvalid
  refine plain_of_forall (fun c => isSlug c || c == ':') ?_ (by decide) (by decide) (by decide)
  have hrest : ∀ c ∈ scenario.scenarioId.toList.drop 5, isSlug c = true := by
    have hchars := fullmatch_chars isSlug hcomponent (fun c hc => by simp [isSlug, hc]) fun c hc => hc
    rwa [String.toList_ofList] at hchars
  have hfirst : ∀ c ∈ scenario.scenarioId.toList.take 5, (isSlug c || c == ':') = true := by
    obtain ⟨rest, hrest⟩ | ⟨rest, hrest⟩ := hstart
    · rw [← hrest, List.take_append_of_le_length (by decide)]
      exact List.all_eq_true.mp (by decide)
    · rw [← hrest, List.take_append_of_le_length (by decide)]
      exact List.all_eq_true.mp (by decide)
  intro c hc
  rw [← List.take_append_drop 5 scenario.scenarioId.toList] at hc
  rcases List.mem_append.mp hc with hc | hc
  · exact hfirst c hc
  · rw [hrest c hc]
    rfl

theorem RuntimeN1Publication.plain_sourceCommit (evidence : RuntimeN1Publication) :
    Plain evidence.sourceCommit := by
  refine plain_of_forall (fun c => isDigit c || decide ('a' ≤ c ∧ c ≤ 'f')) (fun c hc => ?_) (by decide)
    (by decide) (by decide)
  rcases evidence.sourceCommit_valid.2 c hc with hdigit | hletter
  · rw [hdigit]
    rfl
  · rw [decide_eq_true hletter, Bool.or_true]

theorem writes_gauge {α : Type*} {name help : String} {item : α} {value : α → String} (hname : IsName name)
    (hhelp : '\n' ∉ help.toList) (hvalue : IsValue (value item)) :
    WritesBlock (.single name help [item] (fun _ => []) value)
      (.single name help [item] (fun _ => []) value) :=
  writes_single [] hname hhelp (by simp) (fun _ _ => rfl) (fun _ _ => .nil)
    (List.forall_mem_singleton.mpr hvalue)

theorem gauge_sound {α : Type*} (name help : String) (item : α) (value : α → String) :
    (Block.single name help [item] (fun _ => []) value).Sound :=
  Block.single_sound List.nodup_nil (fun _ _ => rfl) (List.nodup_singleton _)

theorem impacts_nodup {name : String} :
    (ServiceImpact.all.map fun impact => [(name, impact.value)]).Nodup := by
  have hall : ServiceImpact.all.Nodup := by decide
  refine hall.map fun a b h => ServiceImpact.value_injective ?_
  simpa using h

section Audits

variable {audit : ResilienceAudit} {nodeAudit : NodeResilienceAudit} {domainAudit : FailureDomainAudit}

theorem renderResilienceMetrics_renders (audit : ResilienceAudit) :
    Renders (renderResilienceMetrics audit) ((resilienceBlocks id audit).flatMap Block.lines) := by
  refine renders_blocks (by simp [resilienceBlocks, writtenBlock, Block.single, familyHeader])
    (.cons ?_ (.cons ?_ (.cons ?_ .nil)))
  · exact writes_gauge (isName_ofList (by decide)) (not_mem_ofList (by decide)) (isValue_flag _)
  · exact writes_single ["impact"] (isName_ofList (by decide)) (not_mem_ofList (by decide)) (by decide)
      (by simp) (fun impact _ => .cons (writesLabel_plain _ impact.plain_value) .nil) fun _ _ =>
        isValue_natural _
  · exact writes_single ["impact", "link_id"] (isName_ofList (by decide)) (not_mem_ofList (by decide))
      (by decide) (by simp) (fun scenario _ => .cons (writesLabel_plain _ scenario.serviceImpact.plain_value)
        (.cons (writesLabel_escapeLabel _ _) .nil)) fun _ _ => by decide

theorem resilienceBlocks_sound (hunique : (audit.scenarios.map LinkFailureScenario.linkId).Nodup) :
    ∀ block ∈ resilienceBlocks id audit, block.Sound := by
  refine List.forall_mem_cons.mpr ⟨gauge_sound _ _ _ _,
    List.forall_mem_cons.mpr ⟨?_, List.forall_mem_singleton.mpr ?_⟩⟩
  · exact Block.single_sound (List.nodup_singleton "impact") (by simp) impacts_nodup
  · exact Block.single_sound (by decide : ["impact", "link_id"].Nodup) (by simp)
      (Block.nodup_of_key hunique fun x y => by simp)

theorem renderCandidateResilienceMetrics_renders (audit : ResilienceAudit) :
    Renders (renderCandidateResilienceMetrics audit)
      ((candidateResilienceBlocks audit).flatMap Block.lines) := by
  have hne : (candidateResilienceBlocks audit).flatMap writtenBlock ≠ [] := by
    simp [candidateResilienceBlocks, writtenBlock, Block.single, familyHeader]
  rw [renderCandidateResilienceMetrics, intercalate_empty _ hne]
  refine renders_blocks hne (.cons ?_ (.cons ?_ .nil))
  · exact writes_gauge (isName_ofList (by decide)) (not_mem_ofList (by decide)) (isValue_flag _)
  · exact writes_gauge (isName_ofList (by decide)) (not_mem_ofList (by decide)) (isValue_natural _)

theorem candidateResilienceBlocks_sound (audit : ResilienceAudit) : ∀ block ∈ candidateResilienceBlocks audit,
    block.Sound :=
  List.forall_mem_cons.mpr ⟨gauge_sound _ _ _ _, List.forall_mem_singleton.mpr (gauge_sound _ _ _ _)⟩

theorem renderNodeResilienceMetrics_renders (audit : NodeResilienceAudit) {design : String}
    (hdesign : design = "baseline" ∨ design = "candidate") :
    ∃ body, renderNodeResilienceMetrics audit design = .ok body ∧
      Renders body ((nodeResilienceBlocks audit design).flatMap Block.lines) := by
  have hne : (nodeResilienceBlocks audit design).flatMap writtenBlock ≠ [] := by
    simp [nodeResilienceBlocks, writtenBlock, Block.single, familyHeader]
  refine ⟨_, if_neg (by tauto), ?_⟩
  rw [intercalate_empty _ hne]
  rcases hdesign with rfl | rfl
  · refine renders_blocks hne (.cons ?_ (.cons ?_ .nil))
    · exact writes_gauge (by decide +kernel) (by decide +kernel) (isValue_flag _)
    · exact writes_gauge (by decide +kernel) (by decide +kernel) (isValue_natural _)
  · refine renders_blocks hne (.cons ?_ (.cons ?_ .nil))
    · exact writes_gauge (by decide +kernel) (by decide +kernel) (isValue_flag _)
    · exact writes_gauge (by decide +kernel) (by decide +kernel) (isValue_natural _)

theorem nodeResilienceBlocks_sound (audit : NodeResilienceAudit) (design : String) :
    ∀ block ∈ nodeResilienceBlocks audit design, block.Sound :=
  List.forall_mem_cons.mpr ⟨gauge_sound _ _ _ _, List.forall_mem_singleton.mpr (gauge_sound _ _ _ _)⟩

theorem renderFailureDomainMetrics_renders (audit : FailureDomainAudit) :
    Renders (renderFailureDomainMetrics audit) ((failureDomainBlocks id audit).flatMap Block.lines) := by
  refine renders_blocks (by simp [failureDomainBlocks, writtenBlock, Block.single, familyHeader])
    (.cons ?_ (.cons ?_ (.cons ?_ .nil)))
  · exact writes_gauge (isName_ofList (by decide)) (not_mem_ofList (by decide)) (isValue_flag _)
  · exact writes_single ["impact"] (isName_ofList (by decide)) (not_mem_ofList (by decide)) (by decide)
      (by simp) (fun impact _ => .cons (writesLabel_plain _ impact.plain_value) .nil) fun _ _ =>
        isValue_natural _
  · exact writes_single ["domain_id", "domain_type", "impact"] (isName_ofList (by decide))
      (not_mem_ofList (by decide)) (by decide) (by simp)
        (fun scenario _ => .cons (writesLabel_escapeLabel _ _)
        (.cons (writesLabel_plain _ scenario.domainType.plain_value)
          (.cons (writesLabel_plain _ scenario.serviceImpact.plain_value) .nil))) fun _ _ => by decide

theorem failureDomainBlocks_sound
    (hunique : (domainAudit.scenarios.map FailureDomainScenarioResult.domainId).Nodup) :
    ∀ block ∈ failureDomainBlocks id domainAudit, block.Sound := by
  refine List.forall_mem_cons.mpr ⟨gauge_sound _ _ _ _,
    List.forall_mem_cons.mpr ⟨?_, List.forall_mem_singleton.mpr ?_⟩⟩
  · exact Block.single_sound (List.nodup_singleton "impact") (by simp) impacts_nodup
  · exact Block.single_sound (by decide : ["domain_id", "domain_type", "impact"].Nodup) (by simp)
      (Block.nodup_of_key hunique fun x y => by simp; tauto)

end Audits

theorem renderRuntimeN1Metrics_renders (evidence : RuntimeN1Publication) :
    Renders (renderRuntimeN1Metrics evidence) ((runtimeN1Blocks evidence).flatMap Block.lines) := by
  refine renders_blocks (by simp [runtimeN1Blocks, writtenBlock, Block.single, familyHeader])
    (.cons ?_ (.cons ?_ (.cons ?_ (.cons ?_ (.cons ?_ .nil)))))
  · exact writes_gauge (isName_ofList (by decide)) (not_mem_ofList (by decide)) (isValue_flag _)
  · exact writes_single ["kind"] (isName_ofList (by decide)) (not_mem_ofList (by decide)) (by decide)
      (by simp) (fun kind _ => .cons (writesLabel_plain _ kind.plain_value) .nil) fun _ _ => isValue_natural _
  · refine writes_single ["result"] (isName_ofList (by decide)) (not_mem_ofList (by decide)) (by decide)
      (by simp) ?_ fun _ _ => isValue_integer _
    exact List.forall_mem_cons.mpr ⟨.cons (writesLabel_plain _ (by decide : Plain "passed")) .nil,
      List.forall_mem_singleton.mpr (.cons (writesLabel_plain _ (by decide : Plain "failed")) .nil)⟩
  · exact writes_single ["kind", "scenario_id"] (isName_ofList (by decide)) (not_mem_ofList (by decide))
      (by decide) (by simp)
      (fun scenario _ => .cons (writesLabel_plain _ scenario.kind.plain_value)
        (.cons (writesLabel_plain _ scenario.plain_scenarioId) .nil)) fun _ _ => isValue_flag _
  · refine writes_single ["source_commit", "workflow_run"] (isName_ofList (by decide))
      (not_mem_ofList (by decide)) (by decide) (by simp) (List.forall_mem_singleton.mpr ?_) fun _ _ => by
        decide
    exact .cons (writesLabel_plain _ evidence.plain_sourceCommit)
      (.cons (writesLabel_plain _ (plain_of_number (number_integer _).2)) .nil)

theorem runtimeN1Blocks_sound (evidence : RuntimeN1Publication) : ∀ block ∈ runtimeN1Blocks evidence,
    block.Sound := by
  refine List.forall_mem_cons.mpr ⟨gauge_sound _ _ _ _,
    List.forall_mem_cons.mpr ⟨?_,
      List.forall_mem_cons.mpr ⟨?_, List.forall_mem_cons.mpr ⟨?_, List.forall_mem_singleton.mpr ?_⟩⟩⟩⟩
  · exact Block.single_sound (List.nodup_singleton "kind") (by simp) (by decide)
  · exact Block.single_sound (List.nodup_singleton "result") (by simp) (by simp)
  · exact Block.single_sound (by decide : ["kind", "scenario_id"].Nodup) (by simp)
      (Block.nodup_of_key evidence.ids_unique fun x y => by simp)
  · exact Block.single_sound (by decide : ["source_commit", "workflow_run"].Nodup) (by simp)
      (List.nodup_singleton _)

end Exposition

end TelconetSentinel

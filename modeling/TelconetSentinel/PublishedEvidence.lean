import TelconetSentinel.RuntimeVerification
import Mathlib.Data.Bool.Count

namespace TelconetSentinel

open FallibleLists KeyedLists

def FaultKind.value : FaultKind → String
  | .link => "link"
  | .node => "node"
  | .composite => "composite"

structure RuntimeN1PublishedScenario where
  scenarioId : String
  kind : FaultKind
  passed : Bool
  scenarioId_valid : isRuntimeScenarioId scenarioId
  kind_literal : kind ≠ .composite
  kind_matches : (kind.value ++ ":").toList.isPrefixOf scenarioId.toList

structure PublishedSummary where
  passedAll : Bool
  totalChecks : ℤ
  passedChecks : ℤ
  failedChecks : ℤ
  scenarios : List RuntimeN1PublishedScenario
  total_range : 1 ≤ totalChecks ∧ totalChecks ≤ 1024
  passed_range : 0 ≤ passedChecks ∧ passedChecks ≤ 1024
  failed_range : 0 ≤ failedChecks ∧ failedChecks ≤ 1024
  scenarios_length : 1 ≤ scenarios.length ∧ scenarios.length ≤ 64

structure RuntimeN1PublishedEvidence extends PublishedSummary where
  ids_unique : (scenarios.map RuntimeN1PublishedScenario.scenarioId).Nodup
  totals : totalChecks = passedChecks + failedChecks
  eight_checks : totalChecks = scenarios.length * 8
  scenarios_agree : decide (failedChecks = 0) = scenarios.all RuntimeN1PublishedScenario.passed
  passedAll_agrees : passedAll = decide (failedChecks = 0)

def PublishedSummary.validateConsistency (summary : PublishedSummary) : Result RuntimeN1PublishedEvidence :=
  if hids : ¬ (summary.scenarios.map RuntimeN1PublishedScenario.scenarioId).Nodup then
    .error (.valueError "published runtime scenario ids must be unique")
  else if htotals : summary.totalChecks ≠ summary.passedChecks + summary.failedChecks then
    .error (.valueError "published runtime check totals are inconsistent")
  else if height : summary.totalChecks ≠ summary.scenarios.length * 8 then
    .error (.valueError "published runtime evidence requires eight checks per scenario")
  else if hagree : decide (summary.failedChecks = 0) ≠
    summary.scenarios.all RuntimeN1PublishedScenario.passed then
    .error (.valueError "published runtime scenario and check results conflict")
  else if hall : summary.passedAll ≠ decide (summary.failedChecks = 0) then
    .error (.valueError "published runtime passed_all conflicts with results")
  else
    .ok
      { toPublishedSummary := summary
        ids_unique := not_not.mp hids
        totals := not_not.mp htotals
        eight_checks := not_not.mp height
        scenarios_agree := not_not.mp hagree
        passedAll_agrees := not_not.mp hall }

section Outcomes

def Explains (k : ℕ) (verdict : Bool) (checks : List Bool) : Prop :=
  checks.length = k ∧ (verdict = true ↔ ∀ check ∈ checks, check = true)

theorem Explains.count_false {k : ℕ} {verdict : Bool} {checks : List Bool} (h : Explains k verdict checks) :
    [verdict].count false ≤ checks.count false ∧ checks.count false ≤ k * [verdict].count false := by
  obtain ⟨hlength, hverdict⟩ := h
  cases verdict with
  | true =>
    have hall := hverdict.mp rfl
    have hzero : checks.count false = 0 :=
      List.count_eq_zero.mpr fun hmem => absurd (hall false hmem) Bool.false_ne_true
    simp [hzero]
  | false =>
    have hmem : false ∈ checks := by
      by_contra hno
      refine Bool.false_ne_true (hverdict.mpr fun check hcheck => ?_)
      cases check with
      | true => rfl
      | false => exact absurd hcheck hno
    have hpos := List.count_pos_iff.mpr hmem
    have hle := List.count_le_length (a := false) (l := checks)
    simp only [List.count_singleton_self, mul_one]
    omega

theorem explains_false {k failed : ℕ} (hpos : 1 ≤ failed) (hle : failed ≤ k) :
    Explains k false (List.replicate failed false ++ List.replicate (k - failed) true) := by
  refine ⟨by simp; omega, ?_⟩
  simp only [Bool.false_eq_true, false_iff]
  intro h
  have hmem : false ∈ List.replicate failed false ++ List.replicate (k - failed) true :=
    List.mem_append_left _ (List.mem_replicate.mpr ⟨by omega, rfl⟩)
  exact Bool.false_ne_true (h false hmem)

/-- The failed checks can be spread over the verdicts unless they are too few or too many for the failed
ones. -/
theorem exists_outcomes_iff (k : ℕ) (verdicts : List Bool) (failed : ℕ) :
    (∃ outcomes, List.Forall₂ (Explains k) verdicts outcomes ∧ outcomes.flatten.count false = failed) ↔
      verdicts.count false ≤ failed ∧ failed ≤ k * verdicts.count false := by
  induction verdicts generalizing failed with
  | nil =>
    constructor
    · rintro ⟨outcomes, h, rfl⟩
      cases h
      simp
    · intro h
      have hzero : failed = 0 := Nat.le_zero.mp (by simpa using h.2)
      exact ⟨[], .nil, by simp [hzero]⟩
  | cons verdict verdicts ih =>
    constructor
    · rintro ⟨_, h, rfl⟩
      cases h with
      | @cons _ checks _ outcomes hchecks houtcomes =>
        have hhead := hchecks.count_false
        have hrest := (ih _).mp ⟨outcomes, houtcomes, rfl⟩
        rw [List.flatten_cons, List.count_append, ← List.singleton_append, List.count_append, Nat.mul_add]
        omega
    · intro h
      cases verdict with
      | true =>
        simp only [List.count_cons, beq_false, Bool.not_true, Bool.false_eq_true, if_false, add_zero] at h
        obtain ⟨outcomes, houtcomes, hcount⟩ := (ih failed).mpr h
        refine ⟨List.replicate k true :: outcomes, .cons ⟨List.length_replicate, ?_⟩ houtcomes, ?_⟩
        · simp
        · simp [List.count_replicate, hcount]
      | false =>
        simp only [List.count_cons_self, Nat.mul_add, mul_one] at h
        -- As many failed checks as the head can take, while one is left for each failed verdict of the rest.
        have hk : 1 ≤ min k (failed - verdicts.count false) := by
          have hpos : 0 < k := by
            by_contra hzero
            obtain rfl : k = 0 := by omega
            omega
          omega
        have hrest : verdicts.count false ≤ failed - min k (failed - verdicts.count false) ∧
            failed - min k (failed - verdicts.count false) ≤ k * verdicts.count false := by
          have hmul : verdicts.count false ≤ k * verdicts.count false := Nat.le_mul_of_pos_left _ (by omega)
          omega
        obtain ⟨outcomes, houtcomes, hcount⟩ := (ih _).mpr hrest
        refine ⟨_, .cons (explains_false hk (min_le_left _ _)) houtcomes, ?_⟩
        rw [List.flatten_cons, List.count_append, hcount, List.count_append, List.count_replicate_self,
          List.count_replicate]
        simp

end Outcomes

namespace RuntimeN1PublishedEvidence

variable (evidence : RuntimeN1PublishedEvidence)

def verdicts : List Bool := evidence.scenarios.map RuntimeN1PublishedScenario.passed

def failedScenarios : ℕ := evidence.verdicts.count false

/-- The totals and the verdicts come from eight outcomes for each scenario. -/
def Realisable : Prop :=
  ∃ outcomes, List.Forall₂ (Explains 8) evidence.verdicts outcomes ∧
    (outcomes.flatten.count true : ℤ) = evidence.passedChecks ∧
    (outcomes.flatten.count false : ℤ) = evidence.failedChecks

theorem length_of_explains {k : ℕ} {verdicts : List Bool} {outcomes : List (List Bool)}
    (h : List.Forall₂ (Explains k) verdicts outcomes) : outcomes.flatten.length = k * verdicts.length := by
  induction h with
  | nil => rfl
  | cons hchecks _ ih =>
    rw [List.flatten_cons, List.length_append, ih, hchecks.1, List.length_cons, Nat.mul_succ, add_comm]

theorem realisable_iff : evidence.Realisable ↔
    (evidence.failedScenarios : ℤ) ≤ evidence.failedChecks ∧
    evidence.failedChecks ≤ 8 * evidence.failedScenarios := by
  obtain ⟨failed, hfailed⟩ := Int.eq_ofNat_of_zero_le evidence.failed_range.1
  have hiff := exists_outcomes_iff 8 evidence.verdicts failed
  have htotal : evidence.passedChecks + evidence.failedChecks = evidence.verdicts.length * 8 := by
    rw [← evidence.totals, evidence.eight_checks, verdicts, List.length_map]
  constructor
  · rintro ⟨outcomes, houtcomes, -, hcount⟩
    have hbounds := hiff.mp ⟨outcomes, houtcomes, by omega⟩
    unfold failedScenarios
    omega
  · intro h
    unfold failedScenarios at h
    obtain ⟨outcomes, houtcomes, hcount⟩ := hiff.mpr (by omega)
    have hlength := length_of_explains houtcomes
    have hsplit := List.count_true_add_count_false outcomes.flatten
    exact ⟨outcomes, houtcomes, by omega, by omega⟩

section Producer

variable (planSha256 : RuntimeN1Plan → String) (observationSha256 : RuntimeN1Observation → String)

/-- The document repeats the totals and the scenarios of evidence that was built from a plan and an
observation. -/
structure Summarises (measured : RuntimeN1Evidence) : Prop where
  passedAll_eq : measured.passedAll = evidence.passedAll
  total_eq : (measured.total : ℤ) = evidence.totalChecks
  passed_eq : (measured.passed : ℤ) = evidence.passedChecks
  failed_eq : measured.failed = evidence.failedChecks
  scenarios_eq : measured.scenarios.map (fun scenario =>
    (scenario.scenarioId, scenario.kind, scenario.passed)) =
    evidence.scenarios.map fun scenario => (scenario.scenarioId, scenario.kind, scenario.passed)

/-- The builder has measured what the document publishes, on two access paths for each scenario. -/
def Produced : Prop :=
  ∃ plan observation measured, (∀ scenario ∈ plan.scenarios, scenario.paths.length = 2) ∧
    buildRuntimeN1Evidence planSha256 observationSha256 plan observation = .ok measured ∧
    evidence.Summarises measured

variable {evidence planSha256 observationSha256}

theorem checks_explain {observation : RuntimeN1Observation} {scenario : RuntimeFaultPlan}
    (hanswered : Answered observation scenario) (hpaths : scenario.paths.length = 2) :
    Explains 8 (scenarioEvidence observation scenario).passed
      ((scenarioEvidence observation scenario).checks.map RuntimeCheck.passed) := by
  have hlength := length_rows (List.forall_mem_singleton.mpr hanswered)
  rw [List.flatMap_singleton, List.flatMap_singleton, hpaths] at hlength
  refine ⟨?_, ?_⟩
  · rw [List.length_map]
    exact hlength
  · rw [List.forall_mem_map]
    exact List.all_eq_true

def outcomesOf (observation : RuntimeN1Observation) (scenarios : List RuntimeFaultPlan) : List (List Bool) :=
  scenarios.map fun scenario => (scenarioEvidence observation scenario).checks.map RuntimeCheck.passed

theorem measured_outcomes {plan : RuntimeN1Plan} {observation : RuntimeN1Observation}
    {measured : RuntimeN1Evidence}
    (h : buildRuntimeN1Evidence planSha256 observationSha256 plan observation = .ok measured) :
    measured.scenarios = plan.scenarios.map (scenarioEvidence observation) ∧
      (outcomesOf observation plan.scenarios).flatten.count true = measured.passed ∧
      ((outcomesOf observation plan.scenarios).flatten.count false : ℤ) = measured.failed ∧
      (measured.total : ℤ) = measured.passed + measured.failed ∧
      (measured.passedAll = true ↔ measured.passed = measured.total) := by
  obtain ⟨hsame, hanswered⟩ := answered_of_ok h
  obtain ⟨built, hbuilt, hscenarios, htotal, hfailed, hpassed, hall⟩ :=
    buildRuntimeN1Evidence_ok hsame hanswered
  obtain rfl := Except.ok.inj (h.symm.trans hbuilt)
  have hflatten : (outcomesOf observation plan.scenarios).flatten =
      ((plan.scenarios.flatMap (scenarioRows observation)).flatMap rowChecks).map RuntimeCheck.passed := by
    rw [List.flatMap_assoc, List.map_flatMap, List.flatMap_def]
    rfl
  have hcount : (outcomesOf observation plan.scenarios).flatten.count true = measured.passed := by
    rw [hflatten, hpassed, List.count, List.countP_map]
    exact List.countP_congr fun check _ => by simp
  have hsplit := List.count_true_add_count_false (outcomesOf observation plan.scenarios).flatten
  rw [hcount, hflatten, List.length_map, ← htotal] at hsplit
  rw [← hpassed] at hfailed hall
  refine ⟨hscenarios, hcount, ?_, by omega, hall⟩
  rw [hflatten]
  omega

theorem Produced.realisable (h : evidence.Produced planSha256 observationSha256) : evidence.Realisable := by
  obtain ⟨plan, observation, measured, hpaths, hbuilt, hsummary⟩ := h
  obtain ⟨-, hanswered⟩ := answered_of_ok hbuilt
  obtain ⟨hscenarios, hpassed, hfailed, -⟩ := measured_outcomes hbuilt
  have hverdicts : evidence.verdicts = plan.scenarios.map fun scenario =>
      (scenarioEvidence observation scenario).passed := by
    have hmap := congrArg (List.map fun row : String × FaultKind × Bool => row.2.2) hsummary.scenarios_eq
    rw [hscenarios, List.map_map, List.map_map, List.map_map] at hmap
    exact hmap.symm
  refine ⟨outcomesOf observation plan.scenarios,
    ?_, by rw [hpassed, hsummary.passed_eq], by rw [hfailed, hsummary.failed_eq]⟩
  rw [hverdicts, outcomesOf, List.forall₂_map_left_iff, List.forall₂_map_right_iff, List.forall₂_same]
  exact fun scenario hmem => checks_explain (hanswered scenario hmem) (hpaths scenario hmem)

end Producer

section Witnesses

def accessExpectation (accessNode : String) (h : isRuntimeNode accessNode) : RuntimePathExpectation where
  accessNode := accessNode
  baselineMetric := 15
  faultMetric := some 15
  accessNode_valid := h
  baselineMetric_nonneg := by decide
  faultMetric_nonneg := by simp

def accessObservation (accessNode : String) (h : isRuntimeNode accessNode)
    (first second third fourth : Bool) :
    RuntimePathObservation where
  accessNode := accessNode
  faultMetric := if first then some 15 else none
  faultReachable := second
  restoredMetric := if third then some 15 else none
  restoredReachable := fourth
  accessNode_valid := h
  metrics_nonneg := by cases first <;> cases third <;> simp

def plannedScenario (scenario : RuntimeN1PublishedScenario) : RuntimeFaultPlan where
  scenarioId := scenario.scenarioId
  kind := scenario.kind
  componentId := String.ofList (scenario.scenarioId.toList.drop 5)
  injections := [⟨"agg1", "eth1", by decide, by decide⟩]
  paths := [accessExpectation "access1" (by decide), accessExpectation "access2" (by decide)]
  scenarioId_valid := scenario.scenarioId_valid
  kind_literal := scenario.kind_literal
  componentId_valid := ((Bool.and_eq_true _ _).mp scenario.scenarioId_valid).2
  injections_length := by decide
  paths_length := by decide
  injections_unique := by decide
  paths_unique := by decide

def observedScenario (scenario : RuntimeN1PublishedScenario) (checks : List Bool) :
    RuntimeScenarioObservation where
  scenarioId := scenario.scenarioId
  paths := [accessObservation "access1" (by decide) (checks.getD 0 true) (checks.getD 1 true)
    (checks.getD 2 true)
      (checks.getD 3 true),
    accessObservation "access2" (by decide) (checks.getD 4 true) (checks.getD 5 true) (checks.getD 6 true)
      (checks.getD 7 true)]
  scenarioId_valid := scenario.scenarioId_valid
  paths_length := (by decide : 1 ≤ 2 ∧ 2 ≤ 16)
  paths_unique := (by decide : ["access1", "access2"].Nodup)

theorem access_checks (scenario : RuntimeFaultPlan) (accessNode : String) (h : isRuntimeNode accessNode)
    (first second third fourth : Bool) :
    (rowChecks (scenario, accessExpectation accessNode h,
      accessObservation accessNode h first second third fourth)).map
        RuntimeCheck.passed = [first, second, third, fourth] := by
  rw [rowChecks_passed]
  cases first <;> cases second <;> cases third <;> cases fourth <;> rfl

theorem eight_values {checks : List Bool} (h : checks.length = 8) : [checks.getD 0 true, checks.getD 1 true,
    checks.getD 2 true, checks.getD 3 true, checks.getD 4 true, checks.getD 5 true, checks.getD 6 true,
    checks.getD 7 true] = checks := by
  refine List.ext_getElem (h ▸ rfl) fun i hi _ => ?_
  simp only [List.length_cons, List.length_nil] at hi
  interval_cases i <;> simp [List.getD, h]

variable {observation : RuntimeN1Observation} {scenario : RuntimeN1PublishedScenario} {checks : List Bool}

theorem planned_checks (hget : observation.byId.get scenario.scenarioId =
    some (observedScenario scenario checks))
    (h : checks.length = 8) :
    (scenarioEvidence observation (plannedScenario scenario)).checks.map RuntimeCheck.passed = checks := by
  have hrows : scenarioRows observation (plannedScenario scenario) =
      pathRows (plannedScenario scenario) (observedScenario scenario checks)
      (plannedScenario scenario).paths := by
    have hplanned : observation.byId.get (plannedScenario scenario).scenarioId =
        some (observedScenario scenario checks) := hget
    rw [scenarioRows, hplanned]
  have hpaths : pathRows (plannedScenario scenario) (observedScenario scenario checks)
      (plannedScenario scenario).paths =
      (plannedScenario scenario).paths.zipWith (fun expected actual =>
        (plannedScenario scenario, expected, actual))
        (observedScenario scenario checks).paths := rfl
  rw [scenarioEvidence, hrows, hpaths]
  simp only [plannedScenario, observedScenario, List.zipWith_cons_cons, List.zipWith_nil_left,
    List.flatMap_cons, List.flatMap_nil, List.append_nil, List.map_append, access_checks]
  exact eight_values h

theorem planned_answered (hget : observation.byId.get scenario.scenarioId =
    some (observedScenario scenario checks)) :
    Answered observation (plannedScenario scenario) := ⟨_, hget, fun _ => Iff.rfl⟩

theorem verdict_eq {k : ℕ} {verdict : Bool} (h : Explains k verdict checks) : checks.all id = verdict := by
  rw [Bool.eq_iff_iff, List.all_eq_true, h.2]
  rfl

theorem scenarioEvidence_all (observation : RuntimeN1Observation) (scenario : RuntimeFaultPlan) :
    (scenarioEvidence observation scenario).passed =
      ((scenarioEvidence observation scenario).checks.map RuntimeCheck.passed).all id := by
  rw [List.all_map]
  rfl

def observedScenarios (scenarios : List RuntimeN1PublishedScenario) (outcomes : List (List Bool)) :
    List RuntimeScenarioObservation := scenarios.zipWith observedScenario outcomes

variable {scenarios : List RuntimeN1PublishedScenario} {outcomes : List (List Bool)}
  {R : RuntimeN1PublishedScenario → List Bool → Prop}

theorem observedScenarios_ids (h : List.Forall₂ R scenarios outcomes) :
    (observedScenarios scenarios outcomes).map RuntimeScenarioObservation.scenarioId =
      scenarios.map RuntimeN1PublishedScenario.scenarioId := by
  induction h with
  | nil => rfl
  | cons _ _ ih => exact congrArg (List.cons _) ih

theorem mem_observedScenarios (h : List.Forall₂ R scenarios outcomes) :
    List.Forall₂ (fun scenario checks => R scenario checks ∧
      observedScenario scenario checks ∈ observedScenarios scenarios outcomes) scenarios outcomes := by
  induction h with
  | nil => exact .nil
  | cons hchecks _ ih =>
    exact .cons ⟨hchecks, List.mem_cons_self⟩ (ih.imp fun _ _ hrest =>
      ⟨hrest.1, List.mem_cons_of_mem _ hrest.2⟩)

/-- Outcomes that explain the verdicts are measured in some run. -/
theorem Realisable.produced (planSha256 : RuntimeN1Plan → String)
    (observationSha256 : RuntimeN1Observation → String) (h : evidence.Realisable) :
    evidence.Produced planSha256 observationSha256 := by
  obtain ⟨outcomes, houtcomes, hpassed, hfailed⟩ := h
  rw [verdicts, List.forall₂_map_left_iff] at houtcomes
  have hids := observedScenarios_ids houtcomes
  have hlength : (observedScenarios evidence.scenarios outcomes).length = evidence.scenarios.length := by
    simpa using congrArg List.length hids
  let plan : RuntimeN1Plan :=
    { topologySha256 := String.ofList (List.replicate 64 '0')
      labSha256 := String.ofList (List.replicate 64 '0')
      servicePrefix := "10.20.0.10/32"
      baselineAdjacencies := [⟨"access1", 1, by decide, by decide⟩]
      scenarios := evidence.scenarios.map plannedScenario
      topologySha256_valid := by decide
      labSha256_valid := by decide
      servicePrefix_length := by decide
      adjacencies_length := by decide
      scenarios_length := by
        rw [List.length_map]
        exact evidence.scenarios_length
      scenarios_unique := by
        rw [List.map_map]
        exact evidence.ids_unique
      routers_unique := by decide }
  let observation : RuntimeN1Observation :=
    { scenarios := observedScenarios evidence.scenarios outcomes
      scenarios_length := hlength ▸ evidence.scenarios_length
      scenarios_unique := hids ▸ evidence.ids_unique }
  have hobserved : List.Forall₂ (fun scenario checks => Explains 8 scenario.passed checks ∧
      observation.byId.get scenario.scenarioId = some (observedScenario scenario checks)) evidence.scenarios
      outcomes :=
    (mem_observedScenarios houtcomes).imp fun scenario checks hpair =>
      ⟨hpair.1, (Dict.get_some_iff (d := observation.byId) _ _).mpr ⟨hpair.2, rfl⟩⟩
  have houtcomesOf : outcomesOf observation plan.scenarios = outcomes := by
    have hchecks : List.Forall₂ (fun scenario checks =>
        (scenarioEvidence observation (plannedScenario scenario)).checks.map RuntimeCheck.passed = checks)
        evidence.scenarios outcomes := hobserved.imp fun _ _ hpair => planned_checks hpair.2 hpair.1.1
    rw [← List.forall₂_map_left_iff (R := Eq), List.forall₂_eq_eq_eq] at hchecks
    rw [← hchecks, outcomesOf, List.map_map]
    rfl
  have hknown : ∀ scenario ∈ evidence.scenarios, ∃ checks, Explains 8 scenario.passed checks ∧
      observation.byId.get scenario.scenarioId = some (observedScenario scenario checks) := by
    intro scenario hscenario
    obtain ⟨checks, -, hpair⟩ := exists_right hobserved hscenario
    exact ⟨checks, hpair⟩
  have hanswered : ∀ scenario ∈ plan.scenarios, Answered observation scenario := by
    rw [List.forall_mem_map]
    intro scenario hscenario
    obtain ⟨checks, -, hget⟩ := hknown scenario hscenario
    exact planned_answered hget
  have hsame : SameScenarios plan observation := by
    intro id
    rw [hids, List.map_map]
    rfl
  have hbuilt : ∃ measured, buildRuntimeN1Evidence planSha256 observationSha256 plan observation =
      .ok measured := by
    obtain ⟨measured, hbuilt, -⟩ := buildRuntimeN1Evidence_ok hsame hanswered
    exact ⟨measured, hbuilt⟩
  obtain ⟨measured, hbuilt⟩ := hbuilt
  obtain ⟨hscenarios, hpassed', hfailed', htotal, hall⟩ := measured_outcomes hbuilt
  rw [houtcomesOf] at hpassed' hfailed'
  refine ⟨plan, observation, measured, by rw [List.forall_mem_map]; exact fun _ _ => rfl, hbuilt, ?_, ?_, ?_,
    ?_, ?_⟩
  · have htotals := evidence.totals
    rw [evidence.passedAll_agrees, Bool.eq_iff_iff, hall, decide_eq_true_eq]
    omega
  · rw [evidence.totals]
    omega
  · omega
  · omega
  · rw [hscenarios, List.map_map, List.map_map]
    refine List.map_congr_left fun scenario hscenario => ?_
    obtain ⟨checks, hexplains, hget⟩ := hknown scenario hscenario
    have hverdict : (scenarioEvidence observation (plannedScenario scenario)).passed = scenario.passed := by
      rw [scenarioEvidence_all, planned_checks hget hexplains.1, verdict_eq hexplains]
    exact congrArg (fun passed => (scenario.scenarioId, scenario.kind, passed)) hverdict

end Witnesses

theorem published_totals_realisable_iff (planSha256 : RuntimeN1Plan → String)
    (observationSha256 : RuntimeN1Observation → String) : (evidence.Realisable ↔
      (evidence.failedScenarios : ℤ) ≤ evidence.failedChecks ∧
      evidence.failedChecks ≤ 8 * evidence.failedScenarios) ∧
    (evidence.Realisable ↔ evidence.Produced planSha256 observationSha256) :=
  ⟨evidence.realisable_iff, Realisable.produced evidence planSha256 observationSha256, Produced.realisable⟩

end RuntimeN1PublishedEvidence

def contradictorySummary : PublishedSummary where
  passedAll := false
  totalChecks := 16
  passedChecks := 0
  failedChecks := 16
  scenarios := [⟨"link:access1--agg1", .link, false, by decide, by decide, by decide⟩,
    ⟨"node:agg1", .node, true, by decide, by decide, by decide⟩]
  total_range := by decide
  passed_range := by decide
  failed_range := by decide
  scenarios_length := by decide

theorem contradictory_summary_accepted :
    ∃ evidence, contradictorySummary.validateConsistency = .ok evidence ∧ evidence.verdicts = [false, true] ∧
      evidence.failedChecks = 16 ∧ ¬ evidence.Realisable := by
  obtain ⟨evidence, hrun, hverdicts, hfailed⟩ : ∃ evidence, contradictorySummary.validateConsistency =
    .ok evidence ∧
      evidence.verdicts = [false, true] ∧ evidence.failedChecks = 16 := ⟨_, rfl, rfl, rfl⟩
  refine ⟨evidence, hrun, hverdicts, hfailed, fun h => ?_⟩
  have hbound := (evidence.realisable_iff.mp h).2
  rw [hfailed, RuntimeN1PublishedEvidence.failedScenarios, hverdicts] at hbound
  exact absurd hbound (by decide)

end TelconetSentinel

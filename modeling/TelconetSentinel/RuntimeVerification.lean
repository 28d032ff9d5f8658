import TelconetSentinel.RuntimeEvidence

namespace TelconetSentinel

open FallibleLists KeyedLists

abbrev RuntimeRow := RuntimeFaultPlan × RuntimePathExpectation × RuntimePathObservation

structure Matches (expected : RuntimePathExpectation) (actual : RuntimePathObservation) : Prop where
  fault_metric : actual.faultMetric = expected.faultMetric
  fault_reachable : actual.faultReachable = true ↔ expected.faultMetric ≠ none
  restored_metric : actual.restoredMetric = some expected.baselineMetric
  restored_reachable : actual.restoredReachable = true

def mismatches (expected : RuntimePathExpectation) (actual : RuntimePathObservation) : ℕ :=
  (if actual.faultMetric = expected.faultMetric then 0 else 1) +
    (if actual.faultReachable = true ↔ expected.faultMetric ≠ none then 0 else 1) +
    (if actual.restoredMetric = some expected.baselineMetric then 0 else 1) +
    if actual.restoredReachable = true then 0 else 1

def Observes (observation : RuntimeN1Observation) (row : RuntimeRow) : Prop :=
  ∃ observed ∈ observation.scenarios, observed.scenarioId = row.1.scenarioId ∧ row.2.2 ∈ observed.paths ∧
    row.2.2.accessNode = row.2.1.accessNode

def SameNodes (scenario : RuntimeFaultPlan) (observed : RuntimeScenarioObservation) : Prop :=
  ∀ node, node ∈ observed.paths.map RuntimePathObservation.accessNode ↔
    node ∈ scenario.paths.map RuntimePathExpectation.accessNode

def SameScenarios (plan : RuntimeN1Plan) (observation : RuntimeN1Observation) : Prop :=
  ∀ id, id ∈ observation.scenarios.map RuntimeScenarioObservation.scenarioId ↔
    id ∈ plan.scenarios.map RuntimeFaultPlan.scenarioId

theorem toFinset_eq_iff (xs ys : List String) : xs.toFinset = ys.toFinset ↔ ∀ x, x ∈ xs ↔ x ∈ ys := by
  simp [Finset.ext_iff]

def toCheck (accessNode : String) (comparison : String × CheckValue × CheckValue) : RuntimeCheck :=
  ⟨comparison.1, accessNode, comparison.2.1, comparison.2.2, decide (comparison.2.1 = comparison.2.2)⟩

def rowChecks (row : RuntimeRow) : List RuntimeCheck :=
  (comparisons row.2.1 row.2.2).map (toCheck row.2.1.accessNode)

theorem length_rowChecks (row : RuntimeRow) : (rowChecks row).length = 4 := rfl

theorem reachable_eq_iff (metric : Option ℤ) (reachable : Bool) :
    CheckValue.reachable metric.isSome = .reachable reachable ↔ (reachable = true ↔ metric ≠ none) := by
  cases metric <;> cases reachable <;> simp

theorem rowChecks_passed (row : RuntimeRow) : (rowChecks row).map RuntimeCheck.passed =
    [decide (row.2.2.faultMetric = row.2.1.faultMetric),
      decide (row.2.2.faultReachable = true ↔ row.2.1.faultMetric ≠ none),
      decide (row.2.2.restoredMetric = some row.2.1.baselineMetric), row.2.2.restoredReachable] := by
  have hreachable := reachable_eq_iff row.2.1.faultMetric row.2.2.faultReachable
  have hrestored : decide (CheckValue.reachable true = .reachable row.2.2.restoredReachable) =
      row.2.2.restoredReachable := by
    cases row.2.2.restoredReachable <;> rfl
  simp only [rowChecks, comparisons, toCheck, List.map_cons, List.map_nil, hrestored, CheckValue.metric.injEq,
    decide_eq_decide.mpr hreachable]
  rw [decide_eq_decide.mpr (eq_comm (a := row.2.1.faultMetric)),
    decide_eq_decide.mpr (eq_comm (a := some row.2.1.baselineMetric))]

theorem rowChecks_all_iff (row : RuntimeRow) :
    (∀ check ∈ rowChecks row, check.passed = true) ↔ Matches row.2.1 row.2.2 := by
  rw [← List.forall_mem_map (P := fun passed => passed = true), rowChecks_passed]
  simp only [List.forall_mem_cons, List.not_mem_nil, false_implies, implies_true, and_true, decide_eq_true_eq]
  exact ⟨fun ⟨h₁, h₂, h₃, h₄⟩ => ⟨h₁, h₂, h₃, h₄⟩, fun ⟨h₁, h₂, h₃, h₄⟩ => ⟨h₁, h₂, h₃, h₄⟩⟩

theorem countP_failed (row : RuntimeRow) :
    (rowChecks row).countP (fun check => !check.passed) = mismatches row.2.1 row.2.2 := by
  have hmap : (rowChecks row).countP (fun check => !check.passed) =
      ((rowChecks row).map RuntimeCheck.passed).countP (fun passed => !passed) := by
    rw [List.countP_map]
    rfl
  rw [hmap, rowChecks_passed]
  simp only [List.countP_cons, List.countP_nil, mismatches, Bool.not_eq_true', decide_eq_false_iff_not,
    ite_not]
  cases row.2.2.restoredReachable with
  | true =>
    simp only [Bool.true_eq_false, if_true, if_false]
    omega
  | false =>
    simp only [Bool.false_eq_true, if_true, if_false]
    omega

theorem record_foldl (accessNode : String) (comparisons : List (String × CheckValue × CheckValue))
    (count : CheckCount) :
    comparisons.foldl (CheckCount.record accessNode) count =
      ⟨count.checks ++ comparisons.map (toCheck accessNode), count.total + comparisons.length,
        count.passed + (comparisons.map (toCheck accessNode)).countP RuntimeCheck.passed⟩ := by
  induction comparisons generalizing count with
  | nil => simp
  | cons comparison comparisons ih =>
    rw [List.foldl_cons, ih]
    simp only [CheckCount.record, List.map_cons, List.countP_cons, List.length_cons, toCheck,
      List.append_assoc, List.singleton_append, CheckCount.mk.injEq, true_and]
    by_cases hpassed : comparison.2.1 = comparison.2.2
    · simp only [hpassed, decide_true, if_true]
      omega
    · simp only [hpassed, decide_false, Bool.false_eq_true, if_false]
      omega

def pathRows (scenario : RuntimeFaultPlan) (observed : RuntimeScenarioObservation)
    (paths : List RuntimePathExpectation) : List RuntimeRow :=
  paths.filterMap fun expected =>
    (observed.byNode.get expected.accessNode).map fun actual => (scenario, expected, actual)

theorem checkPaths_ok (scenario : RuntimeFaultPlan) {observed : RuntimeScenarioObservation}
    {paths : List RuntimePathExpectation}
    (h : ∀ expected ∈ paths, expected.accessNode ∈ observed.paths.map RuntimePathObservation.accessNode)
    (count : CheckCount) : paths.foldlM (checkPath observed.byNode) count =
      .ok ⟨count.checks ++ (pathRows scenario observed paths).flatMap rowChecks,
        count.total + ((pathRows scenario observed paths).flatMap rowChecks).length,
        count.passed + ((pathRows scenario observed paths).flatMap rowChecks).countP
          RuntimeCheck.passed⟩ := by
  induction paths generalizing count with
  | nil => simp [pathRows, pure, Except.pure]
  | cons expected paths ih =>
    rw [List.forall_mem_cons] at h
    obtain ⟨actual, hget⟩ := Option.isSome_iff_exists.mp ((Dict.mem_keys_iff (d := observed.byNode) _).mp h.1)
    have hrows : pathRows scenario observed (expected :: paths) =
        (scenario, expected, actual) :: pathRows scenario observed paths := by
      rw [pathRows, List.filterMap_cons_some (by rw [hget, Option.map_some]), pathRows]
    have hpath : checkPath observed.byNode count expected =
        .ok ((comparisons expected actual).foldl (CheckCount.record expected.accessNode) count) := by
      rw [checkPath, hget]
    rw [List.foldlM_cons, hpath, ok_bind, ih h.2, record_foldl, hrows, List.flatMap_cons]
    simp only [rowChecks, List.append_assoc, List.length_append, List.length_map, List.countP_append,
      Nat.add_assoc]

def scenarioRows (observation : RuntimeN1Observation) (scenario : RuntimeFaultPlan) : List RuntimeRow :=
  match observation.byId.get scenario.scenarioId with
  | none => []
  | some observed => pathRows scenario observed scenario.paths

def scenarioEvidence (observation : RuntimeN1Observation) (scenario : RuntimeFaultPlan) :
    RuntimeScenarioEvidence :=
  ⟨scenario.scenarioId, scenario.kind, scenario.componentId,
    ((scenarioRows observation scenario).flatMap rowChecks).all RuntimeCheck.passed,
    (scenarioRows observation scenario).flatMap rowChecks⟩

def Answered (observation : RuntimeN1Observation) (scenario : RuntimeFaultPlan) : Prop :=
  ∃ observed, observation.byId.get scenario.scenarioId = some observed ∧ SameNodes scenario observed

theorem checkScenario_ok {observation : RuntimeN1Observation} {scenario : RuntimeFaultPlan}
    (h : Answered observation scenario) (count : EvidenceCount) :
    checkScenario observation.byId count scenario =
      .ok ⟨count.scenarios ++ [scenarioEvidence observation scenario],
        count.total + ((scenarioRows observation scenario).flatMap rowChecks).length,
        count.passed + ((scenarioRows observation scenario).flatMap rowChecks).countP
          RuntimeCheck.passed⟩ := by
  obtain ⟨observed, hget, hsame⟩ := h
  have hsets : observed.byNode.keys.toFinset =
      (scenario.paths.map RuntimePathExpectation.accessNode).toFinset :=
    (toFinset_eq_iff _ _).mpr hsame
  have hknown : ∀ expected ∈ scenario.paths,
      expected.accessNode ∈ observed.paths.map RuntimePathObservation.accessNode := fun expected hmem =>
    (hsame _).mpr (List.mem_map_of_mem hmem)
  have hrows : scenarioRows observation scenario = pathRows scenario observed scenario.paths := by
    rw [scenarioRows, hget]
  rw [checkScenario, hget]
  simp only [hsets, ne_eq, not_true_eq_false, if_false, checkPaths_ok scenario hknown, ok_bind,
    List.nil_append, hrows, scenarioEvidence]
  rfl

theorem checkScenario_error {observation : RuntimeN1Observation} {scenario : RuntimeFaultPlan}
    (h : ¬ Answered observation scenario) (count : EvidenceCount) :
    ∃ e, checkScenario observation.byId count scenario = .error e := by
  rw [checkScenario]
  cases hget : observation.byId.get scenario.scenarioId with
  | none => exact ⟨_, rfl⟩
  | some observed =>
    have hsets : observed.byNode.keys.toFinset ≠
        (scenario.paths.map RuntimePathExpectation.accessNode).toFinset :=
      fun hsets => h ⟨observed, hget, (toFinset_eq_iff _ _).mp hsets⟩
    exact ⟨_, if_pos hsets⟩

/-- By induction on the scenarios, with the counters of the earlier ones. -/
theorem checkScenarios_ok {observation : RuntimeN1Observation} {scenarios : List RuntimeFaultPlan}
    (h : ∀ scenario ∈ scenarios, Answered observation scenario) (count : EvidenceCount) :
    scenarios.foldlM (checkScenario observation.byId) count =
      .ok ⟨count.scenarios ++ scenarios.map (scenarioEvidence observation),
        count.total + ((scenarios.flatMap (scenarioRows observation)).flatMap rowChecks).length,
        count.passed + ((scenarios.flatMap (scenarioRows observation)).flatMap rowChecks).countP
          RuntimeCheck.passed⟩ := by
  induction scenarios generalizing count with
  | nil => simp [pure, Except.pure]
  | cons scenario scenarios ih =>
    rw [List.forall_mem_cons] at h
    rw [List.foldlM_cons, checkScenario_ok h.1, ok_bind, ih h.2, List.flatMap_cons, List.flatMap_append]
    simp only [List.map_cons, List.append_assoc, List.singleton_append, List.length_append,
      List.countP_append, Nat.add_assoc]

theorem checkScenarios_error {observation : RuntimeN1Observation} {scenarios : List RuntimeFaultPlan}
    (h : ¬ ∀ scenario ∈ scenarios, Answered observation scenario) (count : EvidenceCount) :
    ∃ e, scenarios.foldlM (checkScenario observation.byId) count = .error e := by
  induction scenarios generalizing count with
  | nil => exact absurd (fun _ hmem => absurd hmem List.not_mem_nil) h
  | cons scenario scenarios ih =>
    rw [List.foldlM_cons]
    by_cases hanswered : Answered observation scenario
    · rw [checkScenario_ok hanswered, ok_bind]
      exact ih (fun hrest => h (List.forall_mem_cons.mpr ⟨hanswered, hrest⟩)) _
    · obtain ⟨e, he⟩ := checkScenario_error hanswered count
      exact ⟨e, by rw [he, error_bind]⟩

section Rows

variable {observation : RuntimeN1Observation} {scenario : RuntimeFaultPlan}

theorem mem_pathRows {observed : RuntimeScenarioObservation} {paths : List RuntimePathExpectation}
    {row : RuntimeRow} (h : row ∈ pathRows scenario observed paths) : row.1 = scenario ∧
      row.2.2 ∈ observed.paths ∧
      row.2.2.accessNode = row.2.1.accessNode := by
  obtain ⟨expected, -, hrow⟩ := List.mem_filterMap.mp h
  obtain ⟨actual, hget, rfl⟩ := Option.map_eq_some_iff.mp hrow
  obtain ⟨hmem, hnode⟩ := (Dict.get_some_iff _ _).mp hget
  exact ⟨rfl, hmem, hnode⟩

theorem mem_scenarioRows {row : RuntimeRow} (h : row ∈ scenarioRows observation scenario) :
    row.1 = scenario ∧ Observes observation row := by
  rw [scenarioRows] at h
  cases hget : observation.byId.get scenario.scenarioId with
  | none =>
    rw [hget] at h
    exact absurd h List.not_mem_nil
  | some observed =>
    rw [hget] at h
    obtain ⟨hscenario, hpath⟩ := mem_pathRows h
    obtain ⟨hmem, hid⟩ := (Dict.get_some_iff _ _).mp hget
    exact ⟨hscenario, observed, hmem, by rw [hid, hscenario], hpath⟩

theorem scenarioRows_map (h : Answered observation scenario) :
    (scenarioRows observation scenario).map (fun row => (row.1, row.2.1)) =
      scenario.paths.map (scenario, ·) := by
  obtain ⟨observed, hget, hsame⟩ := h
  have hknown : ∀ expected ∈ scenario.paths, ∃ actual, observed.byNode.get expected.accessNode =
      some actual :=
    fun expected hmem => Option.isSome_iff_exists.mp
      ((Dict.mem_keys_iff (d := observed.byNode) _).mp ((hsame _).mpr (List.mem_map_of_mem hmem)))
  rw [scenarioRows, hget]
  generalize scenario.paths = paths at hknown
  simp only [pathRows]
  induction paths with
  | nil => rfl
  | cons expected paths ih =>
    rw [List.forall_mem_cons] at hknown
    obtain ⟨actual, hactual⟩ := hknown.1
    rw [List.filterMap_cons_some (by rw [hactual, Option.map_some]), List.map_cons, List.map_cons,
      ih hknown.2]

theorem rows_map {scenarios : List RuntimeFaultPlan}
    (h : ∀ scenario ∈ scenarios, Answered observation scenario) :
    (scenarios.flatMap (scenarioRows observation)).map (fun row => (row.1, row.2.1)) =
      scenarios.flatMap fun scenario => scenario.paths.map (scenario, ·) := by
  rw [List.map_flatMap]
  exact List.flatMap_congr fun scenario hmem => scenarioRows_map (h scenario hmem)

theorem length_rows {scenarios : List RuntimeFaultPlan}
    (h : ∀ scenario ∈ scenarios, Answered observation scenario) :
    ((scenarios.flatMap (scenarioRows observation)).flatMap rowChecks).length =
      4 * (scenarios.flatMap RuntimeFaultPlan.paths).length := by
  have hlength := congrArg List.length (rows_map h)
  rw [List.length_map] at hlength
  have hpaths : (scenarios.flatMap fun scenario => scenario.paths.map (scenario, ·)).length =
      (scenarios.flatMap RuntimeFaultPlan.paths).length := by
    simp only [List.length_flatMap, List.length_map]
  have hfour : ∀ rows : List RuntimeRow, (rows.flatMap rowChecks).length = 4 * rows.length := by
    intro rows
    induction rows with
    | nil => rfl
    | cons row rows ih =>
      rw [List.flatMap_cons, List.length_append, ih, length_rowChecks, List.length_cons]
      omega
  rw [hfour, hlength, hpaths]

theorem countP_rows (rows : List RuntimeRow) : (rows.flatMap rowChecks).length =
    (rows.flatMap rowChecks).countP RuntimeCheck.passed +
    (rows.map fun row => mismatches row.2.1 row.2.2).sum := by
  have hfailed : (rows.flatMap rowChecks).countP (fun check => !check.passed) =
      (rows.map fun row => mismatches row.2.1 row.2.2).sum := by
    rw [List.countP_flatMap]
    congr 1
    exact List.map_congr_left fun row _ => countP_failed row
  rw [← hfailed, List.length_eq_countP_add_countP RuntimeCheck.passed]
  congr 1
  exact List.countP_congr fun check _ => by simp

theorem rows_all_iff (rows : List RuntimeRow) :
    (∀ check ∈ rows.flatMap rowChecks, check.passed = true) ↔ ∀ row ∈ rows, Matches row.2.1 row.2.2 := by
  rw [List.forall_mem_flatMap]
  exact forall₂_congr fun row _ => rowChecks_all_iff row

end Rows

theorem answered_iff (plan : RuntimeN1Plan) (observation : RuntimeN1Observation)
    (hsame : SameScenarios plan observation) :
    (∀ scenario ∈ plan.scenarios, Answered observation scenario) ↔ ∀ scenario ∈ plan.scenarios,
      ∀ observed ∈ observation.scenarios, observed.scenarioId = scenario.scenarioId →
      SameNodes scenario observed := by
  refine forall₂_congr fun scenario hscenario => ?_
  constructor
  · rintro ⟨found, hget, hnodes⟩ observed hmem hid
    have hfound := (Dict.get_some_iff (d := observation.byId) _ observed).mpr ⟨hmem, hid⟩
    rwa [Option.some.inj (hfound.symm.trans hget)]
  · intro h
    have hknown : scenario.scenarioId ∈ observation.byId.keys := (hsame _).mpr (List.mem_map_of_mem hscenario)
    obtain ⟨observed, hget⟩ := Option.isSome_iff_exists.mp ((Dict.mem_keys_iff _).mp hknown)
    obtain ⟨hmem, hid⟩ := (Dict.get_some_iff _ _).mp hget
    exact ⟨observed, hget, h observed hmem hid⟩

def Reordered (observation observation' : RuntimeN1Observation) : Prop :=
  ∃ scenarios, List.Forall₂ (fun observed observed' => observed'.scenarioId = observed.scenarioId ∧
    observed.paths.Perm observed'.paths) observation.scenarios scenarios ∧
    scenarios.Perm observation'.scenarios

theorem Reordered.get {observation observation' : RuntimeN1Observation}
    (h : Reordered observation observation') (id : String) :
    Option.Rel (fun observed observed' => observed.paths.Perm observed'.paths)
      (observation.byId.get id) (observation'.byId.get id) := by
  obtain ⟨scenarios, hpairs, hperm⟩ := h
  have hnodup : (scenarios.map RuntimeScenarioObservation.scenarioId).Nodup :=
    (hperm.map _).nodup_iff.mpr observation'.scenarios_unique
  have hlookup := lookup_pairing hpairs id
  rw [lookup_perm hnodup hperm] at hlookup
  exact hlookup

theorem Reordered.checkScenario {observation observation' : RuntimeN1Observation}
    (h : Reordered observation observation') :
    checkScenario observation'.byId = checkScenario observation.byId := by
  funext count scenario
  have hrel := h.get scenario.scenarioId
  unfold TelconetSentinel.checkScenario
  cases hget : observation.byId.get scenario.scenarioId with
  | none =>
    rw [hget] at hrel
    cases hget' : observation'.byId.get scenario.scenarioId with
    | none => rfl
    | some observed' =>
      rw [hget'] at hrel
      cases hrel
  | some observed =>
    rw [hget] at hrel
    cases hget' : observation'.byId.get scenario.scenarioId with
    | none =>
      rw [hget'] at hrel
      cases hrel
    | some observed' =>
      rw [hget'] at hrel
      cases hrel with
      | some hperm =>
        have hkeys : observed'.byNode.keys.toFinset = observed.byNode.keys.toFinset :=
          (List.toFinset_eq_of_perm _ _ (hperm.map _)).symm
        have hpath : checkPath observed'.byNode = checkPath observed.byNode := by
          funext count expected
          have hlookup : observed'.byNode.get expected.accessNode = observed.byNode.get expected.accessNode :=
            (lookup_perm observed.paths_unique hperm _).symm
          rw [checkPath, checkPath, hlookup]
        simp only [hkeys, hpath]

section Evidence

variable {planSha256 : RuntimeN1Plan → String} {observationSha256 : RuntimeN1Observation → String}
  {plan : RuntimeN1Plan} {observation : RuntimeN1Observation}

theorem scenario_sets_iff :
    observation.byId.keys.toFinset = (plan.scenarios.map RuntimeFaultPlan.scenarioId).toFinset ↔
    SameScenarios plan observation := toFinset_eq_iff _ _

theorem buildRuntimeN1Evidence_ok (hsame : SameScenarios plan observation)
    (hanswered : ∀ scenario ∈ plan.scenarios, Answered observation scenario) :
    ∃ evidence, buildRuntimeN1Evidence planSha256 observationSha256 plan observation = .ok evidence ∧
      evidence.scenarios = plan.scenarios.map (scenarioEvidence observation) ∧
      evidence.total = ((plan.scenarios.flatMap (scenarioRows observation)).flatMap rowChecks).length ∧
      evidence.failed = evidence.total -
        (((plan.scenarios.flatMap (scenarioRows observation)).flatMap rowChecks).countP RuntimeCheck.passed :
          ℤ) ∧
      evidence.passed = ((plan.scenarios.flatMap (scenarioRows observation)).flatMap rowChecks).countP
        RuntimeCheck.passed ∧
      (evidence.passedAll = true ↔
        ((plan.scenarios.flatMap (scenarioRows observation)).flatMap rowChecks).countP
          RuntimeCheck.passed = evidence.total) := by
  have hloop := checkScenarios_ok hanswered ⟨[], 0, 0⟩
  rw [List.nil_append, Nat.zero_add, Nat.zero_add] at hloop
  rw [buildRuntimeN1Evidence, if_neg (not_not.mpr (scenario_sets_iff.mpr hsame)), hloop, ok_bind]
  exact ⟨_, rfl, rfl, rfl, rfl, rfl, decide_eq_true_iff⟩

theorem buildRuntimeN1Evidence_error_iff :
    (∃ e, buildRuntimeN1Evidence planSha256 observationSha256 plan observation = .error e) ↔
      ¬ SameScenarios plan observation ∨ ¬ ∀ scenario ∈ plan.scenarios, Answered observation scenario := by
  by_cases hsame : SameScenarios plan observation
  · rw [or_iff_right (not_not.mpr hsame)]
    constructor
    · rintro ⟨e, he⟩ hanswered
      obtain ⟨evidence, hok, -⟩ := buildRuntimeN1Evidence_ok hsame hanswered
      rw [hok] at he
      cases he
    · intro hnot
      obtain ⟨e, he⟩ := checkScenarios_error hnot ⟨[], 0, 0⟩
      refine ⟨e, ?_⟩
      rw [buildRuntimeN1Evidence, if_neg (not_not.mpr (scenario_sets_iff.mpr hsame)), he, error_bind]
  · rw [or_iff_left_of_imp fun _ => hsame]
    refine ⟨fun _ => hsame, fun _ => ⟨_, if_pos (mt scenario_sets_iff.mp hsame)⟩⟩

theorem answered_of_ok {evidence : RuntimeN1Evidence}
    (h : buildRuntimeN1Evidence planSha256 observationSha256 plan observation = .ok evidence) :
    SameScenarios plan observation ∧ ∀ scenario ∈ plan.scenarios, Answered observation scenario := by
  have hok : ¬ ∃ e, buildRuntimeN1Evidence planSha256 observationSha256 plan observation = .error e := by
    rintro ⟨e, he⟩
    rw [h] at he
    cases he
  rwa [buildRuntimeN1Evidence_error_iff, not_or, not_not, not_not] at hok

theorem scenarioEvidence_passed_iff {scenario : RuntimeFaultPlan} (hmem : scenario ∈ plan.scenarios) :
    (scenarioEvidence observation scenario).passed = true ↔
      ∀ row ∈ plan.scenarios.flatMap (scenarioRows observation), row.1.scenarioId = scenario.scenarioId →
        Matches row.2.1 row.2.2 := by
  rw [scenarioEvidence, List.all_eq_true, rows_all_iff]
  constructor
  · intro h row hrow hid
    obtain ⟨other, hother, hrow⟩ := List.mem_flatMap.mp hrow
    have hscenario := (mem_scenarioRows hrow).1
    rw [hscenario] at hid
    obtain rfl := key_inj plan.scenarios_unique hother hmem hid
    exact h row hrow
  · intro h row hrow
    exact h row (List.mem_flatMap.mpr ⟨scenario, hmem, hrow⟩) (by rw [(mem_scenarioRows hrow).1])

end Evidence

theorem runtime_evidence_is_exact (planSha256 : RuntimeN1Plan → String)
    (observationSha256 : RuntimeN1Observation → String) (plan : RuntimeN1Plan)
    (observation : RuntimeN1Observation) :
    ((∃ e, buildRuntimeN1Evidence planSha256 observationSha256 plan observation = .error e) ↔
      ¬ SameScenarios plan observation ∨ ∃ scenario ∈ plan.scenarios, ∃ observed ∈ observation.scenarios,
        observed.scenarioId = scenario.scenarioId ∧ ¬ SameNodes scenario observed) ∧
    (∀ evidence, buildRuntimeN1Evidence planSha256 observationSha256 plan observation = .ok evidence →
      ∃ rows : List RuntimeRow,
        rows.map (fun row => (row.1, row.2.1)) =
          (plan.scenarios.flatMap fun scenario => scenario.paths.map (scenario, ·)) ∧
        (∀ row ∈ rows, Observes observation row) ∧
        (evidence.passedAll = true ↔ ∀ row ∈ rows, Matches row.2.1 row.2.2) ∧
        List.Forall₂ (fun scenario result => result.scenarioId = scenario.scenarioId ∧ (result.passed = true ↔
          ∀ row ∈ rows, row.1.scenarioId = scenario.scenarioId → Matches row.2.1 row.2.2))
            plan.scenarios evidence.scenarios ∧
        evidence.total = 4 * (plan.scenarios.flatMap RuntimeFaultPlan.paths).length ∧
        evidence.failed = (rows.map fun row => mismatches row.2.1 row.2.2).sum) ∧
    ∀ observation', Reordered observation observation' →
      buildRuntimeN1Evidence planSha256 observationSha256 plan observation' =
        (buildRuntimeN1Evidence planSha256 observationSha256 plan observation).map fun evidence =>
          { evidence with observationSha256 := observationSha256 observation' } := by
  refine ⟨?_, fun evidence hevidence => ?_, fun observation' hreordered => ?_⟩
  · rw [buildRuntimeN1Evidence_error_iff]
    by_cases hsame : SameScenarios plan observation
    · rw [answered_iff plan observation hsame]
      push Not
      rfl
    · exact ⟨fun _ => Or.inl hsame, fun _ => Or.inl hsame⟩
  · obtain ⟨hsame, hanswered⟩ := answered_of_ok hevidence
    obtain ⟨built, hbuilt, hscenarios, htotal, hfailed, -, hpassed⟩ :=
      buildRuntimeN1Evidence_ok hsame hanswered
    obtain rfl := Except.ok.inj (hevidence.symm.trans hbuilt)
    have hcount := countP_rows (plan.scenarios.flatMap (scenarioRows observation))
    refine ⟨plan.scenarios.flatMap (scenarioRows observation), rows_map hanswered, fun row hrow => ?_, ?_, ?_,
      ?_, ?_⟩
    · obtain ⟨scenario, -, hrow⟩ := List.mem_flatMap.mp hrow
      exact (mem_scenarioRows hrow).2
    · rw [hpassed, htotal, List.countP_eq_length, rows_all_iff]
    · rw [hscenarios, List.forall₂_map_right_iff, List.forall₂_same]
      exact fun scenario hmem => ⟨rfl, scenarioEvidence_passed_iff hmem⟩
    · rw [htotal, length_rows hanswered]
    · rw [hfailed, htotal]
      omega
  · have hkeys : observation'.byId.keys.toFinset = observation.byId.keys.toFinset := by
      obtain ⟨scenarios, hpairs, hperm⟩ := hreordered
      have hids : observation.scenarios.map RuntimeScenarioObservation.scenarioId =
          scenarios.map RuntimeScenarioObservation.scenarioId := map_eq_map hpairs fun _ _ h => h.1.symm
      have hperm' := hperm.map RuntimeScenarioObservation.scenarioId
      rw [← hids] at hperm'
      exact (List.toFinset_eq_of_perm _ _ hperm').symm
    rw [buildRuntimeN1Evidence, buildRuntimeN1Evidence, hkeys, hreordered.checkScenario]
    split_ifs
    · rfl
    · cases plan.scenarios.foldlM (checkScenario observation.byId) ⟨[], 0, 0⟩ <;> rfl

end TelconetSentinel

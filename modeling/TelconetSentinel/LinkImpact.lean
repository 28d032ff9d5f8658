import TelconetSentinel.Resilience

namespace TelconetSentinel

open FallibleLists

/-- The accumulators of the loop over the access nodes. The two sets are kept as lists of their members. -/
structure ImpactState where
  changedCosts : List String
  unavailable : List String
  affectedAccess : List String

namespace ImpactState

def verdict (st : ImpactState) : ServiceImpact × String :=
  if st.unavailable ≠ [] then (.outage, "no alternate service path")
  else if st.affectedAccess ≠ [] then (.degraded, "alternate service path available")
  else (.redundancyReduced, "active shortest path unchanged")

def analysis (st : ImpactState) (failedLink : Link) (owners : List Node) : ImpactAnalysis where
  failedComponent := failedLink.id
  evidence := s!"link_down observed on {failedLink.id}" :: st.verdict.2 :: st.changedCosts
  affectedNodes := sorted st.affectedAccess
  affectedPrefixes := sorted (owners.flatMap Node.prefixes)
  serviceImpact := st.verdict.1

end ImpactState

namespace Topology

variable (T : Topology)

def recordAccess (st : ImpactState) (access : String) (before : ℤ) (after : Option ℤ) : ImpactState :=
  match after with
  | none =>
    ⟨st.changedCosts ++ [s!"shortest service path lost: {access} {before}->unreachable"],
      st.unavailable.insert access, st.affectedAccess.insert access⟩
  | some after =>
    if before < after then
      ⟨st.changedCosts ++ [s!"shortest service path cost changed: {access} {before}->{after}"],
        st.unavailable, st.affectedAccess.insert access⟩
    else st

/-- One turn of the loop. The second search runs before the first distance is looked at. -/
def visitAccess (failedLink : Link) (st : ImpactState) (access : String) : Result ImpactState := do
  let before ← T.shortestDistance access T.serviceNodes
  let after ← T.shortestDistance access T.serviceNodes (some failedLink.id)
  match before with
  | none => .error (.valueError s!"access node has no baseline service path: {access}")
  | some before => return recordAccess st access before after

def failedLinkImpact (failedLink : Link) : Result ImpactAnalysis :=
  if T.serviceNodes = ∅ then .error (.valueError "topology must define at least one service node")
  else do
    let st ← T.accessNodes.foldlM (T.visitAccess failedLink) ⟨[], [], []⟩
    let owners ← (sorted st.affectedAccess).mapM T.node
    return st.analysis failedLink owners

def analyzeLinkDown (event : NetworkEvent) : Result ImpactAnalysis :=
  if event.eventType ≠ "link_down" then .error (.valueError s!"unsupported event type: {event.eventType}")
  else do
    let failedLink ← T.link event.linkId
    T.failedLinkImpact failedLink

def recordPath (st : ImpactState) (path : AccessPathResult) : ImpactState :=
  recordAccess st path.accessNode path.baselineCost path.postFaultCost

theorem visitAccess_ok {link : Link} {access : String} {path : AccessPathResult} (st : ImpactState)
    (hlink : link ∈ T.linksById) (ha : access ∈ T.accessNodes) (h : T.PathOf {link.id} ∅ access path) :
    T.visitAccess link st access = .ok (recordPath st path) := by
  have hknown := T.accessNodes_known ha
  have hid : {link.id} ⊆ T.linkIds := by
    rw [Finset.singleton_subset_iff]
    exact List.mem_toFinset.mpr (List.mem_map_of_mem hlink)
  have hbefore : T.shortestDistance access T.serviceNodes = .ok (some path.baselineCost) :=
    T.shortestDistanceExcluding_eq hknown (Finset.empty_subset _) (Finset.empty_subset _) h.baseline
  have hafter : T.shortestDistance access T.serviceNodes (some link.id) = .ok path.postFaultCost :=
    T.shortestDistanceExcluding_eq hknown hid (Finset.empty_subset _) h.after
  obtain rfl := h.node
  simp only [visitAccess, hbefore, hafter]
  rfl

theorem visitAccesses_ok {link : Link} (hlink : link ∈ T.linksById) {accesses : List String}
    {entries : List AccessPathResult} (hknown : ∀ access ∈ accesses, access ∈ T.accessNodes)
    (h : List.Forall₂ (T.PathOf {link.id} ∅) accesses entries) (st : ImpactState) :
    accesses.foldlM (T.visitAccess link) st = .ok (entries.foldl recordPath st) := by
  induction h generalizing st with
  | nil => rfl
  | cons hpath _ ih =>
    rw [List.forall_mem_cons] at hknown
    rw [List.foldlM_cons, T.visitAccess_ok st hlink hknown.1 hpath, List.foldl_cons]
    exact ih hknown.2 _

structure Recorded (entries : List AccessPathResult) (st : ImpactState) : Prop where
  unavailable : ∀ name, name ∈ st.unavailable ↔ ∃ path ∈ entries, path.accessNode = name ∧ path.Unavailable
  affected : ∀ name, name ∈ st.affectedAccess ↔
    ∃ path ∈ entries, path.accessNode = name ∧ (path.Unavailable ∨ path.Degraded)
  nodup : st.affectedAccess.Nodup

theorem mem_recordPath_unavailable (st : ImpactState) (path : AccessPathResult) (name : String) :
    name ∈ (recordPath st path).unavailable ↔ name ∈ st.unavailable ∨ path.accessNode = name ∧
    path.Unavailable := by
  obtain ⟨access, before, after⟩ := path
  cases after with
  | none => simp [recordPath, recordAccess, AccessPathResult.Unavailable, or_comm, eq_comm]
  | some after =>
    simp only [recordPath, recordAccess, AccessPathResult.Unavailable, reduceCtorEq, and_false, or_false]
    split_ifs <;> rfl

theorem mem_recordPath_affected (st : ImpactState) (path : AccessPathResult) (name : String) :
    name ∈ (recordPath st path).affectedAccess ↔
      name ∈ st.affectedAccess ∨ path.accessNode = name ∧ (path.Unavailable ∨ path.Degraded) := by
  obtain ⟨access, before, after⟩ := path
  cases after with
  | none => simp [recordPath, recordAccess, AccessPathResult.Unavailable, or_comm, eq_comm]
  | some after =>
    simp only [recordPath, recordAccess, AccessPathResult.Unavailable, AccessPathResult.Degraded,
      reduceCtorEq, Option.mem_def, Option.some.injEq, exists_eq_left', false_or]
    split_ifs with hlt
    · simp [hlt, or_comm, eq_comm]
    · simp [hlt]

theorem recordPath_nodup {st : ImpactState} (h : st.affectedAccess.Nodup) (path : AccessPathResult) :
    (recordPath st path).affectedAccess.Nodup := by
  unfold recordPath recordAccess
  split
  · exact h.insert
  · split_ifs
    · exact h.insert
    · exact h

theorem recorded_nil : Recorded [] ⟨[], [], []⟩ := ⟨by simp, by simp, List.nodup_nil⟩

theorem recorded_concat {entries : List AccessPathResult} {st : ImpactState} (h : Recorded entries st)
    (path : AccessPathResult) : Recorded (entries ++ [path]) (recordPath st path) where
  unavailable name := by
    rw [mem_recordPath_unavailable, h.unavailable]
    simp only [List.mem_append, List.mem_singleton, or_and_right, exists_or, exists_eq_left]
  affected name := by
    rw [mem_recordPath_affected, h.affected]
    simp only [List.mem_append, List.mem_singleton, or_and_right, exists_or, exists_eq_left]
  nodup := recordPath_nodup h.nodup path

theorem recorded_foldl {seen : List AccessPathResult} {st : ImpactState} (h : Recorded seen st)
    (entries : List AccessPathResult) : Recorded (seen ++ entries) (entries.foldl recordPath st) := by
  induction entries generalizing seen st with
  | nil => rwa [List.append_nil]
  | cons path entries ih =>
    rw [List.foldl_cons, List.append_cons]
    exact ih (recorded_concat h path)

theorem ne_nil_iff {entries : List AccessPathResult} {xs : List String} {p : AccessPathResult → Prop}
    (h : ∀ name, name ∈ xs ↔ ∃ path ∈ entries, path.accessNode = name ∧ p path) :
    xs ≠ [] ↔ ∃ path ∈ entries, p path := by
  constructor
  · intro hne
    obtain ⟨name, hm⟩ := List.exists_mem_of_ne_nil xs hne
    obtain ⟨path, hpath, -, hp⟩ := (h name).mp hm
    exact ⟨path, hpath, hp⟩
  · rintro ⟨path, hpath, hp⟩
    exact List.ne_nil_of_mem ((h _).mpr ⟨path, hpath, rfl, hp⟩)

theorem Recorded.verdict_iff {entries : List AccessPathResult} {st : ImpactState} (h : Recorded entries st) :
    (st.verdict.1 = .outage ↔ ∃ path ∈ entries, path.Unavailable) ∧
      (st.verdict.1 = .degraded ↔ (¬ ∃ path ∈ entries, path.Unavailable) ∧ ∃ path ∈ entries,
        path.Degraded) := by
  have hun := ne_nil_iff h.unavailable
  have haff := ne_nil_iff h.affected
  simp only [and_or_left, exists_or] at haff
  have hverdict := impact_iff (st.unavailable ≠ []) (st.affectedAccess ≠ [])
  have heq : st.verdict.1 = if st.unavailable ≠ [] then ServiceImpact.outage
      else if st.affectedAccess ≠ [] then .degraded else .redundancyReduced := by
    unfold ImpactState.verdict
    split_ifs <;> rfl
  rw [heq, hverdict.1, hverdict.2, hun, haff]
  exact ⟨Iff.rfl, and_congr_right fun hno => or_iff_right hno⟩

theorem analyzeLinkDown_ok {link : Link} {entries : List AccessPathResult} (hlink : link ∈ T.linksById)
    (hservice : T.serviceNodes ≠ ∅) (hpaths : List.Forall₂ (T.PathOf {link.id} ∅) T.accessNodes entries) :
    ∃ analysis, T.analyzeLinkDown ⟨link.id, "link_down"⟩ = .ok analysis ∧
      T.ReportedAs {link.id} ∅ entries analysis.serviceImpact analysis.affectedNodes
        analysis.affectedPrefixes := by
  have hloop := T.visitAccesses_ok hlink (fun _ ha => ha) hpaths ⟨[], [], []⟩
  have hrec := recorded_foldl recorded_nil entries
  rw [List.nil_append] at hrec
  generalize entries.foldl recordPath ⟨[], [], []⟩ = st at hloop hrec
  have hknown : ∀ name ∈ sorted st.affectedAccess, ∃ node, T.node name = .ok node := by
    intro name hname
    obtain ⟨path, hpath, rfl, -⟩ := (hrec.affected name).mp ((List.mem_insertionSort _).mp hname)
    obtain ⟨access, ha, hpo⟩ := exists_left hpaths hpath
    exact (T.node_ok_iff _).mpr (hpo.node ▸ T.accessNodes_known ha)
  obtain ⟨owners, howners⟩ := exists_mapM_ok T.node _ hknown
  have hprefixes := map_eq_map ((mapM_ok_iff _ _ _).mp howners) fun _ _ hxy => (T.node_prefixes hxy).symm
  have hrun : T.failedLinkImpact link = .ok (st.analysis link owners) := by
    simp only [failedLinkImpact, if_neg hservice, hloop, howners, bind, Except.bind, pure, Except.pure]
  refine ⟨st.analysis link owners, ?_, hpaths, hrec.verdict_iff.1, hrec.verdict_iff.2,
    sorted_sortedLT hrec.nodup, ?_, ?_⟩
  · simp only [analyzeLinkDown, T.link_known hlink, hrun, ne_eq, not_true_eq_false, if_false, bind,
      Except.bind]
  · intro name
    rw [← hrec.affected]
    exact List.mem_insertionSort _
  · simp only [ImpactState.analysis, List.flatMap_def, hprefixes]

variable {T} in
theorem serviceNodes_ne_empty {audit : ResilienceAudit} (h : T.auditSingleLinkFailures = .ok audit) :
    T.serviceNodes ≠ ∅ := by
  obtain ⟨faults, -, h⟩ := (bind_ok_iff _ _ _).mp h
  obtain ⟨result, hr, -⟩ := (bind_ok_iff _ _ _).mp h
  unfold auditFaultScenarios at hr
  split_ifs at hr
  assumption

theorem analyzeLinkDown_agrees_with_audit (audit : ResilienceAudit)
    (h : T.auditSingleLinkFailures = .ok audit) :
    audit.scenarios.map LinkFailureScenario.linkId = T.links.map Link.id ∧ (T.links.map Link.id).SortedLT ∧
    T.links.Perm T.linksById ∧ ∀ link ∈ T.linksById, ∃ analysis,
      T.analyzeLinkDown { linkId := link.id, eventType := "link_down" } = .ok analysis ∧
      ∀ s ∈ audit.scenarios, s.linkId = link.id → analysis.serviceImpact = s.serviceImpact ∧
        analysis.affectedNodes = s.affectedNodes ∧ analysis.affectedPrefixes = s.affectedPrefixes := by
  have hall := auditSingleLinkFailures_ok h
  refine ⟨(map_eq_map hall fun _ _ hs => hs.linkId.symm).symm, T.linkIds_sortedLT,
    List.perm_insertionSort _ _, fun link hlink => ?_⟩
  obtain ⟨s, hs, ⟨hid, fault, r, hL, hX, hspec, hsame⟩⟩ := exists_right hall ((T.mem_links link).mpr hlink)
  have hpaths := hspec.paths
  rw [hL, hX] at hpaths
  obtain ⟨analysis, hrun, hreport⟩ := T.analyzeLinkDown_ok hlink (serviceNodes_ne_empty h) hpaths
  refine ⟨analysis, hrun, fun s' hs' hid' => ?_⟩
  have hnodup : (audit.scenarios.map LinkFailureScenario.linkId).Nodup := by
    rw [← map_eq_map hall fun _ _ hs => hs.linkId.symm]
    exact T.linkIds_sortedLT.nodup
  obtain rfl := List.inj_on_of_nodup_map hnodup hs' hs (hid'.trans hid.symm)
  obtain ⟨himpact, hnodes, hprefixes⟩ := hsame
  have hspec' := hspec.toReportedAs
  obtain ⟨-, himpact', hnodes', hprefixes'⟩ := hreport.congr hspec' fun access _ => by rw [hL, hX]
  exact ⟨himpact'.trans himpact.symm, hnodes'.trans hnodes.symm, hprefixes'.trans hprefixes.symm⟩

theorem analyzeLinkDown_agrees_with_audit_diamond :
    ∃ audit, diamond.auditSingleLinkFailures = .ok audit ∧
      audit.scenarios.map LinkFailureScenario.linkId =
        ["access1--agg1", "access1--agg2", "agg1--service-host", "agg2--service-host"] ∧
      ∃ analysis, diamond.analyzeLinkDown { linkId := "access1--agg1" } = .ok analysis ∧
        ∀ s ∈ audit.scenarios, s.linkId = "access1--agg1" → analysis.serviceImpact = s.serviceImpact := by
  obtain ⟨audit, ha⟩ : ∃ audit, diamond.auditSingleLinkFailures = .ok audit := ⟨_, rfl⟩
  obtain ⟨hids, -, -, hagree⟩ := analyzeLinkDown_agrees_with_audit diamond audit ha
  obtain ⟨analysis, hrun, hsame⟩ := hagree ⟨"access1--agg1", "access1", "agg1", 10⟩ (by decide)
  exact ⟨audit, ha, hids.trans (by decide), analysis, hrun, fun s hs hid => (hsame s hs hid).1⟩

end Topology

end TelconetSentinel

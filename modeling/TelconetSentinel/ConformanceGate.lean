import TelconetSentinel.Library.FallibleLists
import TelconetSentinel.RuntimeConformance
import TelconetSentinel.ShortestDistance

namespace TelconetSentinel

open DelimitedText DocumentValues FallibleLists KeyedLists WeightedWalks

theorem Adjacency.key_injective : Function.Injective Adjacency.key := by
  intro a b h
  cases a
  cases b
  simp only [Adjacency.key, EmbeddingLike.apply_eq_iff_eq, Prod.mk.injEq] at h
  simp only [Adjacency.mk.injEq]
  exact h

theorem Adjacency.sort_eq_iff (xs ys : List Adjacency) : Adjacency.sort xs = Adjacency.sort ys ↔
    xs.Perm ys := by
  have htotal : Std.Total fun a b : Adjacency => a.key ≤ b.key := ⟨fun a b => le_total a.key b.key⟩
  have htrans : IsTrans Adjacency fun a b => a.key ≤ b.key := ⟨fun _ _ _ => le_trans⟩
  have hantisymm : Std.Antisymm fun a b : Adjacency => a.key ≤ b.key :=
    ⟨fun _ _ h h' => Adjacency.key_injective (le_antisymm h h')⟩
  constructor
  · intro h
    have hxs : (Adjacency.sort xs).Perm xs := List.perm_insertionSort _ xs
    rw [h] at hxs
    exact hxs.symm.trans (List.perm_insertionSort _ ys)
  · intro h
    have hperm : (Adjacency.sort xs).Perm (Adjacency.sort ys) :=
      ((List.perm_insertionSort _ xs).trans h).trans (List.perm_insertionSort _ ys).symm
    exact hperm.eq_of_pairwise (fun _ _ _ _ => hantisymm.antisymm _ _) (List.pairwise_insertionSort _ xs)
      (List.pairwise_insertionSort _ ys)

theorem Adjacency.value_pyEq_iff (a b : Adjacency) : a.value.pyEq b.value = true ↔ a = b := by
  cases a
  cases b
  simp [Adjacency.value, Value.pyEq, Value.pyEqEntries]

theorem NextHop.value_pyEq_iff (a : NextHop) (ip interface : String) :
    a.value.pyEq (NextHop.value ⟨.str ip, .str interface⟩) = true ↔ a = ⟨.str ip, .str interface⟩ := by
  cases a
  simp [NextHop.value, Value.pyEq, Value.pyEqEntries, Value.pyEq_str_iff]

def IsJsonInteger (value : Value) (n : ℤ) : Prop := value = .int n

def StandsFor (value : Value) (n : ℤ) : Prop := value.number = some (n : ℚ)

def bfdTimers (expected : BfdExpectation) : List (String × ℤ) :=
  [("receive-interval", expected.receiveIntervalMs), ("transmit-interval", expected.transmitIntervalMs),
    ("detect-multiplier", expected.detectMultiplier), ("detection-timeout", expected.detectionTimeoutMs)]

structure RouteConforms (stands : Value → ℤ → Prop) (expectation : RuntimeExpectation) (metric : ℤ)
    (route : Value) :
    Prop where
  protocol : route.get "protocol" = some (.str "ospf")
  metric : ∃ value, route.get "metric" = some value ∧ stands value metric
  nextHops : activeNextHops route = [⟨.str expectation.routeNextHop, .str expectation.routeInterface⟩]

structure BfdConforms (stands : Value → ℤ → Prop) (expected : BfdExpectation) (bfd : Value) : Prop where
  peer : bfd.get "peer" = some (.str expected.peer)
  interface : bfd.get "interface" = some (.str expected.interface)
  status : bfd.get "status" = some (.str "up")
  timers : ∀ timer ∈ bfdTimers expected, ∃ value, bfd.get timer.1 = some value ∧ stands value timer.2

theorem mapping_isJson {value : Value} (h : value.isJson = true) : (mapping value).isJson = true := by
  cases value with
  | dict entries => exact h
  | _ => rfl

section

variable (render : Value → String)

def RuntimeSnapshot.neighbors (snapshot : RuntimeSnapshot) : Value :=
  mapping (snapshot.ospf.value.getD "neighbors" .null)

/-- What the expectation asks of a router, where `stands` says which values stand for a number. -/
structure RouterConforms (stands : Value → ℤ → Prop) (snapshot : RuntimeSnapshot)
    (expectation : RuntimeExpectation) (metric : ℤ) : Prop where
  adjacencies : (actualAdjacencies render snapshot.neighbors : Multiset Adjacency) =
    expectedAdjacencies expectation
  route : ∃ route, selectedRoutes snapshot expectation = [route] ∧
    RouteConforms stands expectation metric route
  bfd : BfdConforms stands expectation.bfd snapshot.bfd.value

/-- The values of the snapshot that are compared with numbers, each beside the number asked of it. -/
def numbersAsked (snapshot : RuntimeSnapshot) (expectation : RuntimeExpectation) (metric : ℤ) :
    List (Value × ℤ) :=
  ((selectedRoutes snapshot expectation).filterMap (·.get "metric")).map (·, metric) ++
    (bfdTimers expectation.bfd).filterMap fun timer => (snapshot.bfd.value.get timer.1).map (·, timer.2)

theorem adjacencies_passed_iff (expectation : RuntimeExpectation) (neighbors : Value) :
    (check "ospf.adjacencies" (.list ((Adjacency.sort (expectedAdjacencies expectation)).map Adjacency.value))
      (.list ((Adjacency.sort (actualAdjacencies render neighbors)).map Adjacency.value))).passed = true ↔
      (actualAdjacencies render neighbors : Multiset Adjacency) = expectedAdjacencies expectation := by
  rw [Multiset.coe_eq_coe, ← Adjacency.sort_eq_iff, check, Value.pyEq_list_iff, List.forall₂_map_left_iff,
    List.forall₂_map_right_iff]
  simp only [Adjacency.value_pyEq_iff, List.forall₂_eq_eq_eq]

theorem mem_actualAdjacencies {neighbors item entry : Value} {routerId : String}
    (hitem : neighbors.get routerId = some item) (hentry : entry ∈ (sequence item).map mapping) :
    ⟨routerId, interfaceName render entry, neighborState render entry⟩ ∈
      actualAdjacencies render neighbors := by
  obtain ⟨value, hvalue, rfl⟩ := List.mem_map.mp hentry
  exact List.mem_flatMap.mpr ⟨_, Value.get_some_mem hitem, List.mem_map.mpr ⟨value, hvalue, rfl⟩⟩

theorem exists_of_mem_actualAdjacencies {neighbors : Value} (hjson : neighbors.isJson = true)
    {adjacency : Adjacency} (h : adjacency ∈ actualAdjacencies render neighbors) :
    ∃ item, neighbors.get adjacency.routerId = some item ∧ ∃ entry ∈ (sequence item).map mapping,
      interfaceName render entry = adjacency.interface := by
  obtain ⟨⟨key, item⟩, hentry, h⟩ := List.mem_flatMap.mp h
  obtain ⟨value, hvalue, rfl⟩ := List.mem_map.mp h
  obtain ⟨text, rfl⟩ := (Value.entries_isJson hjson _ hentry).1
  exact ⟨item, Value.get_of_mem hjson hentry, _, List.mem_map_of_mem hvalue, rfl⟩

/-- The first entry on an expected interface is one of the expected adjacencies, and so it is full. -/
theorem neighborCheck_passed {neighbors : Value} (hjson : neighbors.isJson = true)
    {expectation : RuntimeExpectation}
    (h : (actualAdjacencies render neighbors : Multiset Adjacency) = expectedAdjacencies expectation)
    {expected : OspfNeighborExpectation} (hexpected : expected ∈ expectation.ospfNeighbors) :
    (neighborCheck render neighbors expected).passed = true := by
  have hperm : (actualAdjacencies render neighbors).Perm (expectedAdjacencies expectation) :=
    Multiset.coe_eq_coe.mp h
  have hmem : ⟨expected.routerId, expected.interface, "Full"⟩ ∈ actualAdjacencies render neighbors :=
    hperm.mem_iff.mpr (List.mem_map_of_mem hexpected)
  obtain ⟨item, hitem, entry, hentry, hinterface⟩ := exists_of_mem_actualAdjacencies render hjson hmem
  have hgetD : neighbors.getD expected.routerId .null = item := by
    rw [Value.getD, hitem, Option.getD_some]
  cases hfind : ((sequence item).map mapping).find? fun entry =>
    interfaceName render entry == expected.interface with
  | none =>
    have hnone := List.find?_eq_none.mp hfind entry hentry
    simp [hinterface] at hnone
  | some found =>
    have hname : interfaceName render found = expected.interface := by simpa using List.find?_some hfind
    have hfound := mem_actualAdjacencies render hitem (List.mem_of_find?_eq_some hfind)
    obtain ⟨neighbor, -, hsame⟩ := List.mem_map.mp (hperm.mem_iff.mp hfound)
    have hstate : "Full" = neighborState render found := congrArg Adjacency.state hsame
    rw [neighborCheck, hgetD, hfind]
    simp [check, hname, ← hstate, Value.pyEq, Value.pyEqEntries]

theorem truthy_of_isSelected {route : Value} (h : isSelected route = true) : route.truthy = true := by
  cases route with
  | dict entries =>
    cases entries with
    | nil => cases h
    | cons entry rest => rfl
  | _ => cases h

theorem nextHops_passed_iff (expectation : RuntimeExpectation) (hops : List NextHop) :
    (check "route.next_hops"
      (.list ([NextHop.mk (.str expectation.routeNextHop) (.str expectation.routeInterface)].map
        NextHop.value))
      (.list ((hops.insertionSort fun a b => a.key render ≤ b.key render).map NextHop.value))).passed = true ↔
      hops = [⟨.str expectation.routeNextHop, .str expectation.routeInterface⟩] := by
  have hperm := List.perm_insertionSort (fun a b : NextHop => a.key render ≤ b.key render) hops
  rw [check, Value.pyEq_list_iff, List.forall₂_map_left_iff, List.forall₂_map_right_iff]
  constructor
  · intro h
    obtain ⟨hop, hnil, hhop, htail, hsort⟩ := List.forall₂_cons_right_iff.mp h
    rw [List.forall₂_nil_right_iff.mp htail, (NextHop.value_pyEq_iff hop _ _).mp hhop] at hsort
    rw [hsort] at hperm
    exact List.perm_singleton.mp hperm.symm
  · rintro rfl
    exact .cons ((NextHop.value_pyEq_iff _ _ _).mpr rfl) .nil

theorem routeChecks_passed_iff (snapshot : RuntimeSnapshot) (expectation : RuntimeExpectation) (metric : ℤ) :
    (∀ check ∈ routeChecks render snapshot expectation metric, check.passed = true) ↔
      ∃ route, selectedRoutes snapshot expectation = [route] ∧
      RouteConforms StandsFor expectation metric route := by
  simp only [routeChecks, List.forall_mem_cons, nextHops_passed_iff]
  simp only [check, Value.pyEq_true_iff, Value.getD_pyEq_int_iff, Value.getD_pyEq_str_iff, List.not_mem_nil,
    false_implies, implies_true, and_true]
  have hselected : ∀ route ∈ selectedRoutes snapshot expectation, route.truthy = true :=
    fun route hroute => truthy_of_isSelected (List.mem_filter.mp hroute).2
  constructor
  · rintro ⟨-, hcount, hprotocol, hmetric, hhops⟩
    have hlength : (selectedRoutes snapshot expectation).length = 1 := by
      simpa [Value.pyEq_int_iff, Value.number] using hcount
    obtain ⟨route, hroute⟩ := List.length_eq_one_iff.mp hlength
    rw [hroute, List.headD_cons] at hprotocol hmetric hhops
    exact ⟨route, hroute, hprotocol, hmetric, hhops⟩
  · rintro ⟨route, hroute, hconforms⟩
    have hcount : (Value.int ([route].length : ℕ)).pyEq (.int 1) = true := by
      simp [Value.pyEq_int_iff, Value.number]
    rw [hroute, List.headD_cons]
    exact ⟨hselected route (hroute ▸ List.mem_cons_self), hcount, hconforms.protocol, hconforms.metric,
      hconforms.nextHops⟩

theorem bfdChecks_passed_iff (snapshot : RuntimeSnapshot) (expectation : RuntimeExpectation) :
    (∀ check ∈ bfdChecks snapshot expectation, check.passed = true) ↔
      BfdConforms StandsFor expectation.bfd snapshot.bfd.value := by
  have hnull : ∀ n : ℤ, Value.null.pyEq (.int n) = false := fun n => by simp [Value.pyEq, Value.number]
  have hmissing : (Value.str "missing").pyEq (.str "up") = false := by decide
  simp only [bfdChecks, List.forall_mem_cons, check, List.not_mem_nil, false_implies, implies_true, and_true]
  constructor
  · rintro ⟨hstatus, htimers⟩
    split_ifs at hstatus htimers with hpeer
    · simp only [Bool.and_eq_true, Value.getD_pyEq_str_iff, Value.getD_pyEq_int_iff] at hpeer hstatus htimers
      refine ⟨hpeer.1, hpeer.2, hstatus, ?_⟩
      simp only [bfdTimers, List.forall_mem_cons]
      exact ⟨htimers.1, htimers.2.1, htimers.2.2.1, htimers.2.2.2, fun _ h => absurd h List.not_mem_nil⟩
    · rw [hmissing] at hstatus
      cases hstatus
  · intro h
    have hpeer : ((snapshot.bfd.value.getD "peer" .null).pyEq (.str expectation.bfd.peer) &&
        (snapshot.bfd.value.getD "interface" .null).pyEq (.str expectation.bfd.interface)) = true := by
      simp only [Bool.and_eq_true, Value.getD_pyEq_str_iff]
      exact ⟨h.peer, h.interface⟩
    have htimers := h.timers
    simp only [bfdTimers, List.forall_mem_cons] at htimers
    simp only [hpeer, if_true, Value.getD_pyEq_str_iff, Value.getD_pyEq_int_iff]
    exact ⟨h.status, htimers.1, htimers.2.1, htimers.2.2.1, htimers.2.2.2.1⟩

theorem checks_passed_iff (snapshot : RuntimeSnapshot) (expectation : RuntimeExpectation) (metric : ℤ) :
    (∀ check ∈ ospfChecks render snapshot expectation ++
        (routeChecks render snapshot expectation metric ++ bfdChecks snapshot expectation),
        check.passed = true) ↔
      RouterConforms render StandsFor snapshot expectation metric := by
  have hjson : snapshot.neighbors.isJson = true :=
    mapping_isJson (Value.getD_isJson snapshot.ospf.isJson "neighbors")
  simp only [List.forall_mem_append, routeChecks_passed_iff, bfdChecks_passed_iff, ospfChecks,
    List.forall_mem_cons, adjacencies_passed_iff, List.forall_mem_map]
  constructor
  · rintro ⟨⟨hadjacencies, -⟩, hroute, hbfd⟩
    exact ⟨hadjacencies, hroute, hbfd⟩
  · intro h
    exact ⟨⟨h.adjacencies, fun expected he => neighborCheck_passed render hjson h.adjacencies he⟩, h.route,
      h.bfd⟩

theorem isJsonInteger_iff (value : Value) (n : ℤ) : IsJsonInteger value n ↔ StandsFor value n ∧
    ∃ m, value = .int m := by
  constructor
  · rintro rfl
    exact ⟨rfl, n, rfl⟩
  · rintro ⟨hstands, m, rfl⟩
    have hcast : (m : ℚ) = n := Option.some.inj hstands
    rw [Int.cast_inj.mp hcast]
    rfl

variable {snapshot : RuntimeSnapshot} {expectation : RuntimeExpectation} {metric : ℤ}

theorem metric_mem_numbersAsked {route value : Value} (hroute : selectedRoutes snapshot expectation = [route])
    (hvalue : route.get "metric" = some value) :
    (value, metric) ∈ numbersAsked snapshot expectation metric := by
  refine List.mem_append_left _ (List.mem_map_of_mem (List.mem_filterMap.mpr ⟨route, ?_, hvalue⟩))
  rw [hroute]
  exact List.mem_singleton_self route

theorem timer_mem_numbersAsked {timer : String × ℤ} (htimer : timer ∈ bfdTimers expectation.bfd)
    {value : Value} (hvalue : snapshot.bfd.value.get timer.1 = some value) :
    (value, timer.2) ∈ numbersAsked snapshot expectation metric := by
  refine List.mem_append_right _ (List.mem_filterMap.mpr ⟨timer, htimer, ?_⟩)
  rw [hvalue]
  rfl

theorem RouterConforms.mono {stands stands' : Value → ℤ → Prop}
    (h : RouterConforms render stands snapshot expectation metric)
    (hnumbers : ∀ asked ∈ numbersAsked snapshot expectation metric, stands asked.1 asked.2 →
    stands' asked.1 asked.2) :
    RouterConforms render stands' snapshot expectation metric := by
  obtain ⟨route, hroute, hconforms⟩ := h.route
  obtain ⟨value, hvalue, hstands⟩ := hconforms.metric
  refine ⟨h.adjacencies, ⟨route, hroute, hconforms.protocol, ⟨value, hvalue, ?_⟩, hconforms.nextHops⟩, ?_⟩
  · exact hnumbers _ (metric_mem_numbersAsked hroute hvalue) hstands
  · refine ⟨h.bfd.peer, h.bfd.interface, h.bfd.status, fun timer htimer => ?_⟩
    obtain ⟨value, hvalue, hstands⟩ := h.bfd.timers timer htimer
    exact ⟨value, hvalue, hnumbers _ (timer_mem_numbersAsked htimer hvalue) hstands⟩

theorem RouterConforms.numbers {stands : Value → ℤ → Prop}
    (h : RouterConforms render stands snapshot expectation metric) :
    ∀ asked ∈ numbersAsked snapshot expectation metric, stands asked.1 asked.2 := by
  intro asked hasked
  rcases List.mem_append.mp hasked with hasked | hasked
  · obtain ⟨value, hvalue, rfl⟩ := List.mem_map.mp hasked
    obtain ⟨other, hother, hget⟩ := List.mem_filterMap.mp hvalue
    obtain ⟨route, hroute, hconforms⟩ := h.route
    obtain ⟨found, hfound, hstands⟩ := hconforms.metric
    rw [hroute, List.mem_singleton] at hother
    rw [hother, hfound] at hget
    exact Option.some.inj hget ▸ hstands
  · obtain ⟨timer, htimer, hget⟩ := List.mem_filterMap.mp hasked
    obtain ⟨value, hvalue, rfl⟩ := Option.map_eq_some_iff.mp hget
    obtain ⟨found, hfound, hstands⟩ := h.bfd.timers timer htimer
    rw [hfound] at hvalue
    exact Option.some.inj hvalue ▸ hstands

theorem conforms_iff (stands : Value → ℤ → Prop) : RouterConforms render stands snapshot expectation metric ↔
    RouterConforms render (fun _ _ => True) snapshot expectation metric ∧
      ∀ asked ∈ numbersAsked snapshot expectation metric, stands asked.1 asked.2 := by
  constructor
  · intro h
    exact ⟨h.mono render fun _ _ _ => trivial, h.numbers render⟩
  · rintro ⟨hconforms, hnumbers⟩
    exact hconforms.mono render fun asked hasked _ => hnumbers asked hasked

theorem conforms_strictly_iff : RouterConforms render IsJsonInteger snapshot expectation metric ↔
    RouterConforms render StandsFor snapshot expectation metric ∧
      ∀ asked ∈ numbersAsked snapshot expectation metric, ∃ n, asked.1 = .int n := by
  rw [conforms_iff render IsJsonInteger, conforms_iff render StandsFor, and_assoc]
  simp only [isJsonInteger_iff, forall_and]

end

section

variable (render : Value → String) (modelValidate : Value → Result RuntimeSnapshot)
variable (intentDigest : NetworkIntent → String) (expectationDigest : RuntimeExpectation → String)
variable (snapshotDigest : RuntimeSnapshot → String)

theorem build_ok {intent : NetworkIntent} {expectation : RuntimeExpectation} {rawSnapshot : Value}
    {configurationSha256 : String} {evidence : ConformanceEvidence}
    (h : buildRuntimeConformanceEvidence render modelValidate intentDigest expectationDigest snapshotDigest
      intent expectation rawSnapshot configurationSha256 = .ok evidence) :
    ∃ snapshot T metric, modelValidate rawSnapshot = .ok snapshot ∧ intent.toTopology = .ok T ∧
      IsDistance (T.survivingCosts expectation.router {expectation.serviceNode} ∅ ∅) (some metric) ∧
      evidence = conformanceEvidence render intentDigest expectationDigest snapshotDigest intent expectation
        snapshot
          configurationSha256 metric := by
  obtain ⟨-, h⟩ := (check_ok_iff _ _ _ _).mp h
  obtain ⟨_, -, h⟩ := (bind_ok_iff _ _ _).mp h
  obtain ⟨snapshot, hsnapshot, h⟩ := (bind_ok_iff _ _ _).mp h
  obtain ⟨-, h⟩ := (check_ok_iff _ _ _ _).mp h
  obtain ⟨T, hT, h⟩ := (bind_ok_iff _ _ _).mp h
  obtain ⟨distance, hd, h⟩ := (bind_ok_iff _ _ _).mp h
  cases distance with
  | none => cases h
  | some metric => exact ⟨snapshot, T, metric, hsnapshot, hT, T.shortestDistanceExcluding_spec hd,
    (Except.ok.inj h).symm⟩

theorem passedAll_iff (intent : NetworkIntent) (expectation : RuntimeExpectation) (snapshot : RuntimeSnapshot)
    (configurationSha256 : String) (metric : ℤ) :
    (conformanceEvidence render intentDigest expectationDigest snapshotDigest intent expectation snapshot
      configurationSha256 metric).passedAll = true ↔
      RouterConforms render StandsFor snapshot expectation metric := by
  rw [← checks_passed_iff, conformanceEvidence, beq_iff_eq, List.countP_eq_length]

theorem routeChecks_ids (snapshot : RuntimeSnapshot) (expectation : RuntimeExpectation) (metric : ℤ) :
    (routeChecks render snapshot expectation metric).map ConformanceCheck.id =
      ["route.installed", "route.selected_entry_count", "route.protocol", "route.metric",
        "route.next_hops"] := rfl

theorem bfdChecks_ids (snapshot : RuntimeSnapshot) (expectation : RuntimeExpectation) :
    (bfdChecks snapshot expectation).map ConformanceCheck.id = ["bfd.status", "bfd.receive_interval_ms",
      "bfd.transmit_interval_ms", "bfd.detect_multiplier", "bfd.detection_timeout_ms"] := rfl

theorem other_ids : ∀ id ∈ ["route.installed", "route.selected_entry_count", "route.protocol", "route.metric",
    "route.next_hops"] ++ ["bfd.status", "bfd.receive_interval_ms", "bfd.transmit_interval_ms",
    "bfd.detect_multiplier",
      "bfd.detection_timeout_ms"], ¬ "ospf.neighbor.".toList <+: id.toList := by
  decide

theorem neighbor_checks_follow (intent : NetworkIntent) (expectation : RuntimeExpectation)
    (snapshot : RuntimeSnapshot) (configurationSha256 : String) (metric : ℤ) (evidence : ConformanceEvidence)
    (he : evidence = conformanceEvidence render intentDigest expectationDigest snapshotDigest intent
      expectation snapshot configurationSha256 metric)
    (hadjacencies : ∀ check ∈ evidence.checks, check.id = "ospf.adjacencies" → check.passed = true) :
    ∀ check ∈ evidence.checks, "ospf.neighbor.".toList <+: check.id.toList → check.passed = true := by
  subst he
  have hjson : snapshot.neighbors.isJson = true :=
    mapping_isJson (Value.getD_isJson snapshot.ospf.isJson "neighbors")
  have hconforms := (adjacencies_passed_iff render expectation snapshot.neighbors).mp
    (hadjacencies _ (List.mem_append_left _ List.mem_cons_self) rfl)
  intro check hcheck hid
  rcases List.mem_append.mp hcheck with hcheck | hcheck
  · rcases List.mem_cons.mp hcheck with rfl | hcheck
    · exact hadjacencies _ (List.mem_append_left _ List.mem_cons_self) rfl
    · obtain ⟨expected, hexpected, rfl⟩ := List.mem_map.mp hcheck
      exact neighborCheck_passed render hjson hconforms hexpected
  · have hother := List.mem_map_of_mem hcheck (f := ConformanceCheck.id)
    rw [List.map_append, routeChecks_ids, bfdChecks_ids] at hother
    exact absurd hid (other_ids check.id hother)

theorem conformance_gate_exact_iff (intent : NetworkIntent) (expectation : RuntimeExpectation)
    (rawSnapshot : Value) (configurationSha256 : String) (evidence : ConformanceEvidence)
    (h : buildRuntimeConformanceEvidence render modelValidate intentDigest expectationDigest snapshotDigest
      intent expectation rawSnapshot configurationSha256 = .ok evidence) :
    ∃ snapshot T metric, modelValidate rawSnapshot = .ok snapshot ∧ intent.toTopology = .ok T ∧
      IsDistance (T.survivingCosts expectation.router {expectation.serviceNode} ∅ ∅) (some metric) ∧
      ((((evidence.passedAll = true ↔ RouterConforms render IsJsonInteger snapshot expectation metric) ∧
        ((∀ check ∈ evidence.checks, check.id = "ospf.adjacencies" → check.passed = true) →
          ∀ check ∈ evidence.checks, "ospf.neighbor.".toList <+: check.id.toList → check.passed = true)) ↔
        (RouterConforms render (fun _ _ => True) snapshot expectation metric →
          (∀ asked ∈ numbersAsked snapshot expectation metric, asked.1.number = some (asked.2 : ℚ)) →
            ∀ asked ∈ numbersAsked snapshot expectation metric, ∃ n, asked.1 = .int n))) := by
  obtain ⟨snapshot, T, metric, hsnapshot, hT, hmetric, he⟩ := build_ok _ _ _ _ _ h
  have hneighbors := neighbor_checks_follow _ _ _ _ _ _ _ _ _ _ he
  refine ⟨snapshot, T, metric, hsnapshot, hT, hmetric, ?_⟩
  rw [conforms_strictly_iff, he, passedAll_iff, ← he]
  constructor
  · rintro ⟨hgate, -⟩ hconforms hnumbers
    exact (hgate.mp ((conforms_iff render StandsFor).mpr ⟨hconforms, hnumbers⟩)).2
  · intro hintegers
    refine ⟨⟨fun hconforms => ⟨hconforms, ?_⟩, And.left⟩, hneighbors⟩
    obtain ⟨hrest, hnumbers⟩ := (conforms_iff render StandsFor).mp hconforms
    exact hintegers hrest hnumbers

end

/-- `access1 —1— service-host`. -/
def pairFields : IntentFields where
  nodes := ⟨[("access1", ⟨.access, [], List.nodup_nil⟩),
    ("service-host", ⟨.service, ["10.20.0.0/24"], List.nodup_singleton _⟩)], by decide⟩
  links := [⟨"access1-service-host", ("access1", "service-host"), 1, by decide, by decide, by decide⟩]
  nodes_length := by decide
  links_length := by decide

def pairIntent : NetworkIntent where
  toIntentFields := pairFields
  names_valid := by decide
  ids_unique := by decide
  references_known := by decide
  prefixes_unique := by decide

def pairExpectation : RuntimeExpectation where
  router := "access1"
  serviceNode := "service-host"
  routePrefix := "10.20.0.0/24"
  routeNextHop := "10.0.1.1"
  routeInterface := "eth1"
  ospfNeighbors := [⟨"10.255.0.21", "eth1", by decide, by decide⟩]
  bfd := ⟨"10.0.1.1", "eth1", 100, 100, 3, 300, by decide, by decide, by decide, by decide⟩
  names_valid := by decide
  prefix_canonical := by decide
  nextHop_canonical := by decide
  interface_valid := by decide
  neighbors_length := by decide
  neighbors_unique := by decide

def pairOspf : Value :=
  .dict [(.str "neighbors", .dict [(.str "10.255.0.21",
    .list [.dict [(.str "nbrState", .str "Full/-"), (.str "converged", .str "Full"),
      (.str "ifaceName", .str "eth1:10.0.1.0")]])])]

def pairRoute (metric : Value) : Value :=
  .dict [(.str "10.20.0.0/24", .list [.dict [(.str "protocol", .str "ospf"), (.str "selected", .bool true),
    (.str "installed", .bool true), (.str "metric", metric),
    (.str "nexthops", .list [.dict [(.str "ip", .str "10.0.1.1"),
      (.str "interfaceName", .str "eth1"), (.str "active", .bool true), (.str "fib", .bool true)]])]])]

def pairBfd : Value :=
  .dict [(.str "peer", .str "10.0.1.1"), (.str "interface", .str "eth1"), (.str "status", .str "up"),
    (.str "receive-interval", .int 100), (.str "transmit-interval", .int 100),
    (.str "detect-multiplier", .int 3), (.str "detection-timeout", .int 300)]

def pairRaw (metric : Value) : Value :=
  .dict [(.str "schema_version", .int 1), (.str "captured_at", .str "2026-09-18T06:50:31Z"),
    (.str "router", .str "access1"), (.str "ospf", pairOspf), (.str "route", pairRoute metric),
    (.str "bfd", pairBfd)]

theorem pairRoute_isJson {metric : Value} (h : metric.isJson = true) : (pairRoute metric).isJson = true := by
  simp [pairRoute, Value.isJson, Value.isJsonEntries, Value.isJsonItems, Value.text, h]

def pairSnapshot (metric : Value) (h : metric.isJson = true) : RuntimeSnapshot where
  capturedAt := "2026-09-18T06:50:31+00:00"
  router := "access1"
  ospf := ⟨pairOspf, by decide, ⟨_, rfl⟩⟩
  route := ⟨pairRoute metric, pairRoute_isJson h, ⟨_, rfl⟩⟩
  bfd := ⟨pairBfd, by decide, ⟨_, rfl⟩⟩
  router_valid := by decide

def readPair (metric : Value) (h : metric.isJson = true) (raw : Value) : Result RuntimeSnapshot :=
  if raw.pyEq (pairRaw metric) then .ok (pairSnapshot metric h)
  else .error (.valueError "validation error for RuntimeSnapshot")

def pythonText : Value → String
  | .null => "None"
  | .bool value => if value then "True" else "False"
  | .int value => toString value
  | _ => "..."

def pairEvidence (metric : Value) (h : metric.isJson = true) (digest : String) : Result ConformanceEvidence :=
  buildRuntimeConformanceEvidence pythonText (readPair metric h)
    (fun _ => "505c6aa291feaf25ed43ac85d397cb9d5a416da2d33ca779af7508e4e2291339")
    (fun _ => "df7cdef68b7ab5e83f266f9ec92aba93fa1cb1fee496e610e6cc719b49fd842b") (fun _ => digest) pairIntent
    pairExpectation (pairRaw metric) (String.ofList (List.replicate 64 '1'))

theorem pair_conforms : ∃ evidence metric,
    pairEvidence (.int 1) rfl "7c61c5769c49a30efbb448944a283af542d6997d4ae528afef5ee7fc12ee1f52" =
      .ok evidence ∧
      evidence.passedAll = true ∧
      RouterConforms pythonText IsJsonInteger (pairSnapshot (.int 1) rfl) pairExpectation metric := by
  have hpasses : (pairEvidence (.int 1) rfl
      "7c61c5769c49a30efbb448944a283af542d6997d4ae528afef5ee7fc12ee1f52").toOption.map
      ConformanceEvidence.passedAll = some true := by
    decide +kernel
  obtain ⟨evidence, hrun, hpassed⟩ := exists_ok hpasses
  obtain ⟨snapshot, T, metric, hsnapshot, -, -, hgate⟩ := conformance_gate_exact_iff _ _ _ _ _ _ _ _ _ _ hrun
  have hread : readPair (.int 1) rfl (pairRaw (.int 1)) = .ok (pairSnapshot (.int 1) rfl) := rfl
  obtain rfl := Except.ok.inj (hread.symm.trans hsnapshot)
  have hintegers : ∀ asked ∈ numbersAsked (pairSnapshot (.int 1) rfl) pairExpectation metric, ∃ n,
      asked.1 = .int n := by
    have hasked : numbersAsked (pairSnapshot (.int 1) rfl) pairExpectation metric =
        [(.int 1, metric), (.int 100, 100), (.int 100, 100), (.int 3, 3), (.int 300, 300)] := rfl
    rw [hasked]
    simp
  exact ⟨evidence, metric, hrun, hpassed, (hgate.mpr fun _ _ => hintegers).1.mp hpassed⟩

theorem boolean_metric_passes : ∃ evidence,
    pairEvidence (.bool true) rfl "2558944afd10a092b879c249498a97a2930d85c3d499484adaa0bc308ed35192" =
      .ok evidence ∧
      evidence.passedAll = true ∧
      ∀ metric, ¬ RouterConforms pythonText IsJsonInteger (pairSnapshot (.bool true) rfl) pairExpectation
        metric := by
  have hpasses : (pairEvidence (.bool true) rfl
      "2558944afd10a092b879c249498a97a2930d85c3d499484adaa0bc308ed35192").toOption.map
      ConformanceEvidence.passedAll = some true := by
    decide +kernel
  obtain ⟨evidence, hrun, hpassed⟩ := exists_ok hpasses
  refine ⟨evidence, hrun, hpassed, fun metric hconforms => ?_⟩
  have hasked : (.bool true, metric) ∈ numbersAsked (pairSnapshot (.bool true) rfl) pairExpectation metric :=
    metric_mem_numbersAsked rfl rfl
  obtain ⟨n, hn⟩ := ((conforms_strictly_iff _).mp hconforms).2 _ hasked
  cases hn

end TelconetSentinel

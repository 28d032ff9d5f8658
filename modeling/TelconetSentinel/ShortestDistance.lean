import TelconetSentinel.Library.FallibleLists
import TelconetSentinel.Topology

namespace TelconetSentinel.Topology

open LazySearch Iteration WeightedWalks FallibleLists

variable (T : Topology)

def network : Network String Link ℤ :=
  ⟨{link | link ∈ T.linksById}, fun link => (link.endpointA, link.endpointB), Link.cost⟩

def removal (excludedLinks excludedNodes : Finset String) : Removal String Link :=
  ⟨{link | link.id ∈ excludedLinks}, {name | name ∈ excludedNodes}⟩

def survivingCosts (source : String) (targets excludedLinks excludedNodes : Finset String) : Set ℤ :=
  costs T.network (removal excludedLinks excludedNodes) source {target | target ∈ targets}

theorem across_eq (link : Link) (current : String) : T.network.across link current = link.neighbor current :=
  rfl

theorem removal_mono {L L' X X' : Finset String} (hL : L ⊆ L') (hX : X ⊆ X') : removal L X ≤ removal L' X' :=
  ⟨fun _ h => hL h, fun _ h => hX h⟩

theorem removal_empty : removal ∅ ∅ = Removal.none := by
  simp [removal, Removal.none]

def arc (excludedLinks excludedNodes : Finset String) (current : String) (link : Link) :
    Option (String × ℤ) :=
  if link.id ∈ excludedLinks then none
  else (link.neighbor current).bind fun neighbor =>
    if neighbor ∈ excludedNodes then none else some (neighbor, link.cost)

def arcs (excludedLinks excludedNodes : Finset String) (current : String) : List (String × ℤ) :=
  T.linksById.filterMap (arc excludedLinks excludedNodes current)

theorem arcs_surviving (L X : Finset String) : IsSurviving T.network (removal L X) (T.arcs L X) := by
  intro u v w
  simp only [arcs, List.mem_filterMap, across_eq]
  constructor
  · rintro ⟨link, hlink, harc⟩
    unfold arc at harc
    split_ifs at harc with hL
    obtain ⟨neighbor, hn, hif⟩ := Option.bind_eq_some_iff.mp harc
    split_ifs at hif with hX
    obtain ⟨rfl, rfl⟩ := Prod.mk.inj (Option.some.inj hif)
    exact ⟨link, hlink, hL, hn, hX, rfl⟩
  · rintro ⟨link, hlink, hL, hn, hX, rfl⟩
    refine ⟨link, hlink, ?_⟩
    have hL' : link.id ∉ L := hL
    have hX' : v ∉ X := hX
    simp [arc, hL', hn, hX', network]

theorem relaxLink_eq (L X : Finset String) (distance : ℤ) (current : String) (st : SearchState String ℤ)
    (link : Link) : relaxLink L X distance current st link =
      (arc L X current link).elim st (relax distance st) := by
  unfold relaxLink arc
  split_ifs with hL
  · rfl
  · cases hn : link.neighbor current with
    | none => rfl
    | some neighbor =>
      simp only [Option.bind_some]
      split_ifs with hX
      · rfl
      · cases hd : st.distances neighbor <;> simp_all [relax]
      · cases hd : st.distances neighbor <;> simp_all [relax]

theorem foldl_relaxLink (L X : Finset String) (distance : ℤ) (current : String) (links : List Link)
    (st : SearchState String ℤ) : links.foldl (relaxLink L X distance current) st =
      (links.filterMap (arc L X current)).foldl (relax distance) st := by
  induction links generalizing st with
  | nil => rfl
  | cons link links ih =>
    rw [List.foldl_cons, ih, relaxLink_eq]
    cases h : arc L X current link <;> simp [h]

theorem searchRound_eq (targets L X : Finset String) :
    T.searchRound targets L X = body (T.arcs L X) (· ∈ targets) := by
  funext st
  simp only [searchRound, body, foldl_relaxLink, arcs]
  cases heappop st.pending with
  | none => rfl
  | some x =>
    by_cases hd : st.distances (ofLex x.1).2 = some (ofLex x.1).1
    · by_cases ht : (ofLex x.1).2 ∈ targets <;> simp [hd, ht]
    · simp [hd]

theorem arcs_nonneg (L X : Finset String) (u : String) : ∀ a ∈ T.arcs L X u, 0 ≤ a.2 := by
  rintro ⟨v, w⟩ ha
  obtain ⟨link, hlink, -, -, -, rfl⟩ := (T.arcs_surviving L X u v w).mp ha
  exact (T.cost_pos link hlink).le

theorem neighbor_known {link : Link} (hlink : link ∈ T.linksById) {u v : String}
    (h : link.neighbor u = some v) :
    v ∈ T.names := by
  have hk := T.endpoint_known link hlink
  simp only [List.mem_cons, List.not_mem_nil, or_false, forall_eq_or_imp, forall_eq] at hk
  unfold Link.neighbor at h
  split_ifs at h <;> simp_all [names]

theorem arcs_closed (L X : Finset String) (u : String) : ∀ a ∈ T.arcs L X u, a.1 ∈ T.names := by
  rintro ⟨v, w⟩ ha
  obtain ⟨link, hlink, -, hn, -, -⟩ := (T.arcs_surviving L X u v w).mp ha
  exact T.neighbor_known hlink hn

theorem rounds_enough (L X : Finset String) : 1 + ∑ v ∈ T.names, (T.arcs L X v).length < T.rounds := by
  have hlen : ∀ v ∈ T.names, (T.arcs L X v).length ≤ T.linksById.length :=
    fun v _ => List.length_filterMap_le _ _
  have hsum := Finset.sum_le_card_nsmul T.names _ _ hlen
  have hcard : T.names.card ≤ T.nodesByName.length := by
    simpa [names] using List.toFinset_card_le (T.nodesByName.map Node.name)
  have hmul := Nat.mul_le_mul_right T.linksById.length hcard
  simp only [smul_eq_mul] at hsum
  unfold rounds
  omega

theorem search_spec (source : String) (targets L X : Finset String) (hs : source ∈ T.names)
    (hX : source ∉ X) :
    ∃ r, T.search source targets L X = .ok r ∧ IsDistance (T.survivingCosts source targets L X) r := by
  obtain ⟨r, hr, hd⟩ := search_correct (T.arcs L X) (· ∈ targets) source
    (T.arcs_nonneg L X) T.names hs (fun u _ => T.arcs_closed L X u) T.rounds (T.rounds_enough L X)
  refine ⟨r, by rw [search, searchRound_eq, hr], ?_⟩
  have hset : {c | ∃ t ∈ {t | t ∈ targets}, Route (T.arcs L X) source t c} =
      T.survivingCosts source targets L X := by
    ext c
    simp only [survivingCosts, costs, Set.mem_ofPred_eq]
    exact exists_congr fun t => and_congr_right fun _ => route_iff_walk (T.arcs_surviving L X) hX c
  rw [hset] at hd
  exact hd

theorem node_ok_iff (name : String) : (∃ node, T.node name = .ok node) ↔ name ∈ T.names := by
  unfold node names
  cases h : T.nodesByName.find? (fun node => node.name == name) with
  | none => simpa using h
  | some node =>
    have hm := List.mem_of_find?_eq_some h
    have hp := List.find?_some h
    simp only [beq_iff_eq] at hp
    simp only [Except.ok.injEq, exists_eq', List.mem_toFinset, List.mem_map, true_iff]
    exact ⟨node, hm, hp⟩

theorem checkLinks_ok_iff (ids : Finset String) : T.checkLinks ids = .ok () ↔ ids ⊆ T.linkIds := by
  unfold checkLinks
  rw [← Finset.sdiff_eq_empty_iff_subset, ← Finset.min_eq_top]
  cases h : (ids \ T.linkIds).min with
  | top => simp
  | coe a => simp

theorem checkNodes_ok_iff (names : Finset String) : T.checkNodes names = .ok () ↔ names ⊆ T.names := by
  unfold checkNodes
  rw [← Finset.sdiff_eq_empty_iff_subset, ← Finset.min_eq_top]
  cases h : (names \ T.names).min with
  | top => simp
  | coe a => simp

theorem walk_stays_known {source : String} (hs : source ∈ T.names) (p : List (Link × String))
    (hp : IsWalk T.network source p) : arrival source p ∈ T.names := by
  induction p generalizing source with
  | nil => exact hs
  | cons h p ih => exact ih (T.neighbor_known hp.1 hp.2.1) hp.2.2

theorem survivingCosts_known (source : String) (targets L X : Finset String) (hs : source ∈ T.names) :
    T.survivingCosts source ((targets ∩ T.names) \ X) L X = T.survivingCosts source targets L X := by
  ext c
  simp only [survivingCosts, costs, Set.mem_ofPred_eq, Finset.mem_sdiff, Finset.mem_inter]
  constructor
  · rintro ⟨t, ⟨⟨ht, -⟩, -⟩, w, hw⟩
    exact ⟨t, ht, w, hw⟩
  · rintro ⟨t, ht, w, hw⟩
    refine ⟨t, ⟨⟨ht, ?_⟩, w.target_not_removed hw.1⟩, w, hw⟩
    have hk := T.walk_stays_known hs w.hops w.isWalk
    rwa [w.arrives] at hk

theorem shortestDistanceExcluding_ok {source : String} (targets : Finset String) {L X : Finset String}
    (hs : source ∈ T.names) (hL : L ⊆ T.linkIds) (hX : X ⊆ T.names) :
    ∃ r, T.shortestDistanceExcluding source targets L X = .ok r ∧
      IsDistance (T.survivingCosts source targets L X) r := by
  obtain ⟨node, hnode⟩ := (T.node_ok_iff source).mpr hs
  have hrun : T.shortestDistanceExcluding source targets L X =
      if source ∈ X then .ok none
      else if (targets ∩ T.names) \ X = ∅ then .ok none
      else T.search source ((targets ∩ T.names) \ X) L X := by
    simp only [shortestDistanceExcluding, hnode, (T.checkLinks_ok_iff L).mpr hL,
      (T.checkNodes_ok_iff X).mpr hX]
    rfl
  rw [hrun]
  split_ifs with hx hempty
  · refine ⟨none, rfl, Set.eq_empty_of_forall_notMem ?_⟩
    rintro c ⟨t, -, w, hw, -⟩
    exact w.source_not_removed hw hx
  · refine ⟨none, rfl, ?_⟩
    rw [← T.survivingCosts_known source targets L X hs, hempty]
    apply Set.eq_empty_of_forall_notMem
    rintro c ⟨t, ht, -⟩
    exact absurd ht (Finset.notMem_empty t)
  · rw [← T.survivingCosts_known source targets L X hs]
    exact T.search_spec source _ L X hs hx

theorem shortestDistanceExcluding_known {source : String} {targets L X : Finset String} {r : Option ℤ}
    (h : T.shortestDistanceExcluding source targets L X = .ok r) :
    source ∈ T.names ∧ L ⊆ T.linkIds ∧ X ⊆ T.names := by
  obtain ⟨node, hnode, h⟩ := (bind_ok_iff _ _ _).mp h
  obtain ⟨_, hL, h⟩ := (bind_ok_iff _ _ _).mp h
  obtain ⟨_, hX, -⟩ := (bind_ok_iff _ _ _).mp h
  exact ⟨(T.node_ok_iff source).mp ⟨node, hnode⟩, (T.checkLinks_ok_iff L).mp hL,
    (T.checkNodes_ok_iff X).mp hX⟩

theorem shortestDistanceExcluding_spec {source : String} {targets L X : Finset String} {r : Option ℤ}
    (h : T.shortestDistanceExcluding source targets L X = .ok r) :
    IsDistance (T.survivingCosts source targets L X) r := by
  obtain ⟨hs, hL, hX⟩ := T.shortestDistanceExcluding_known h
  obtain ⟨r', hr', hd⟩ := T.shortestDistanceExcluding_ok targets hs hL hX
  obtain rfl := Except.ok.inj (h.symm.trans hr')
  exact hd

theorem shortestDistanceExcluding_eq {source : String} {targets L X : Finset String} {r : Option ℤ}
    (hs : source ∈ T.names) (hL : L ⊆ T.linkIds) (hX : X ⊆ T.names)
    (hr : IsDistance (T.survivingCosts source targets L X) r) :
    T.shortestDistanceExcluding source targets L X = .ok r := by
  obtain ⟨r', hr', hd⟩ := T.shortestDistanceExcluding_ok targets hs hL hX
  rw [hr', hd.unique hr]

def walkCosts (source : String) (targets excludedLinks excludedNodes : Finset String) : Set ℤ :=
  {c | ∃ target ∈ targets, target ∈ T.names ∧ target ∉ excludedNodes ∧
    ∃ w : Walk T.network source target, w.Avoids (removal excludedLinks excludedNodes) ∧ w.cost = c}

theorem walkCosts_eq {source : String} (targets L X : Finset String) (hs : source ∈ T.names) :
    T.walkCosts source targets L X = T.survivingCosts source targets L X := by
  rw [← T.survivingCosts_known source targets L X hs]
  ext c
  simp only [walkCosts, survivingCosts, costs, Set.mem_ofPred_eq, Finset.mem_sdiff, Finset.mem_inter,
    and_assoc]

theorem zero_isLeast {source : String} {targets L X : Finset String} (hs : source ∈ T.names)
    (ht : source ∈ targets) (hX : source ∉ X) : IsLeast (T.walkCosts source targets L X) 0 := by
  constructor
  · refine ⟨source, ht, hs, hX, ⟨[], trivial, rfl⟩, ?_, rfl⟩
    simp [Walk.Avoids, Walk.edges, Walk.nodes, removal, hX]
  · rintro c ⟨target, -, -, -, w, -, rfl⟩
    apply List.sum_nonneg
    intro cost hcost
    obtain ⟨link, hlink, rfl⟩ := List.mem_map.mp hcost
    exact (T.cost_pos link (edges_mem_of_isWalk w.hops source w.isWalk link hlink)).le

theorem shortest_distance_is_least (source : String) (targets excludedLinks excludedNodes : Finset String)
    (hsource : source ∈ T.names) (hlinks : excludedLinks ⊆ T.linkIds) (hnodes : excludedNodes ⊆ T.names) :
    (∃ distance, T.shortestDistanceExcluding source targets excludedLinks excludedNodes = .ok distance) ∧
      (∀ d, T.shortestDistanceExcluding source targets excludedLinks excludedNodes = .ok (some d) ↔
        IsLeast (T.walkCosts source targets excludedLinks excludedNodes) d) ∧
      (T.shortestDistanceExcluding source targets excludedLinks excludedNodes = .ok none ↔
        T.walkCosts source targets excludedLinks excludedNodes = ∅) ∧
      (source ∈ targets → source ∉ excludedNodes →
        T.shortestDistanceExcluding source targets excludedLinks excludedNodes = .ok (some 0)) := by
  obtain ⟨distance, hrun, hdistance⟩ := T.shortestDistanceExcluding_ok targets hsource hlinks hnodes
  rw [← T.walkCosts_eq _ _ _ hsource] at hdistance
  have hreturns : ∀ r, T.shortestDistanceExcluding source targets excludedLinks excludedNodes = .ok r ↔
      IsDistance (T.walkCosts source targets excludedLinks excludedNodes) r := by
    intro r
    rw [hrun, Except.ok.injEq]
    constructor
    · rintro rfl
      exact hdistance
    · exact hdistance.unique
  refine ⟨⟨distance, hrun⟩, fun d => hreturns (some d), hreturns none, fun ht hX => ?_⟩
  exact (hreturns (some 0)).mpr (T.zero_isLeast hsource ht hX)

def triangle : Topology where
  nodesByName := [⟨"left", .access, []⟩, ⟨"middle", .core, []⟩, ⟨"right", .service, []⟩]
  linksById := [⟨"slow", "left", "middle", 7⟩, ⟨"fast", "middle", "left", 2⟩, ⟨"far", "middle", "right", 4⟩,
    ⟨"direct", "right", "left", 9⟩]
  names_nodup := by decide
  ids_nodup := by decide
  cost_pos := by decide
  no_self_link := by decide
  endpoint_known := by decide

theorem shortest_distance_is_least_triangle :
    triangle.shortestDistanceExcluding "left" {"right", "nowhere"} {"fast"} ∅ = .ok (some 9) ∧
      IsLeast (triangle.walkCosts "left" {"right", "nowhere"} {"fast"} ∅) 9 := by
  have hrun : triangle.shortestDistanceExcluding "left" {"right", "nowhere"} {"fast"} ∅ = .ok (some 9) := by
    decide +kernel
  have h := shortest_distance_is_least triangle "left" {"right", "nowhere"} {"fast"} ∅ (by decide) (by decide)
    (by decide)
  exact ⟨hrun, (h.2.1 9).mp hrun⟩

end TelconetSentinel.Topology

import TelconetSentinel.Library.BreadthFirst
import TelconetSentinel.ShortestDistance

namespace TelconetSentinel.Topology

open BreadthFirst Iteration WeightedWalks FallibleLists

variable (T : Topology)

def addNeighbor (nodeName : String) (excludedLink : Option String) (neighbors : List String) (link : Link) :
    List String :=
  if some link.id = excludedLink then neighbors
  else
    match link.neighbor nodeName with
    | some neighbor => neighbors.insert neighbor
    | none => neighbors

def neighborSet (nodeName : String) (excludedLink : Option String) : List String :=
  T.linksById.foldl (addNeighbor nodeName excludedLink) []

def neighbors (nodeName : String) (excludedLink : Option String := none) : Result (List String) := do
  let _ ← T.node nodeName
  if let some linkId := excludedLink then
    let _ ← T.link linkId
  return sorted (T.neighborSet nodeName excludedLink)

def hasPath (source : String) (targets : Finset String) (excludedLink : Option String := none) :
    Result Bool := do
  let _ ← T.node source
  let knownTargets := targets ∩ T.names
  if knownTargets = ∅ then return false
  if source ∈ knownTargets then return true
  -- every round expands another node
  match iterate (visitRound (T.neighbors · excludedLink) knownTargets) (T.nodesByName.length + 1)
    (start source) with
  | some found => found
  | none => .error .nontermination

theorem mem_foldl_addNeighbor (u v : String) (excludedLink : Option String) (links : List Link)
    (neighbors : List String) : v ∈ links.foldl (addNeighbor u excludedLink) neighbors ↔
      v ∈ neighbors ∨ ∃ link ∈ links, some link.id ≠ excludedLink ∧ link.neighbor u = some v := by
  induction links generalizing neighbors with
  | nil => simp
  | cons link links ih =>
    rw [List.foldl_cons, ih]
    have hstep : v ∈ addNeighbor u excludedLink neighbors link ↔
        v ∈ neighbors ∨ some link.id ≠ excludedLink ∧ link.neighbor u = some v := by
      unfold addNeighbor
      split_ifs with hexcluded
      · simp [hexcluded]
      · cases hn : link.neighbor u with
        | none => simp
        | some w => simp [hexcluded, or_comm, eq_comm]
    rw [hstep]
    simp only [List.mem_cons, exists_eq_or_imp, or_assoc]

theorem mem_neighborSet (u v : String) (excludedLink : Option String) :
    v ∈ T.neighborSet u excludedLink ↔
      ∃ link ∈ T.linksById, some link.id ≠ excludedLink ∧ link.neighbor u = some v := by
  rw [neighborSet, mem_foldl_addNeighbor]
  simp

def surviving (excludedLink : Option String) (u : String) : List String :=
  sorted (T.neighborSet u excludedLink)

theorem mem_surviving {u v : String} {excludedLink : Option String} : v ∈ T.surviving excludedLink u ↔
    ∃ cost, (v, cost) ∈ T.arcs excludedLink.toFinset ∅ u := by
  simp only [surviving, sorted, List.mem_insertionSort, mem_neighborSet,
    T.arcs_surviving excludedLink.toFinset ∅ u v]
  constructor
  · rintro ⟨link, hlink, hexcluded, hn⟩
    refine ⟨link.cost, link, hlink, ?_, hn, Finset.notMem_empty v, rfl⟩
    intro hmem
    exact hexcluded (Option.mem_toFinset.mp hmem).symm
  · rintro ⟨cost, link, hlink, hexcluded, hn, -, -⟩
    exact ⟨link, hlink, fun h => hexcluded (Option.mem_toFinset.mpr h.symm), hn⟩

theorem surviving_known {u v : String} {excludedLink : Option String} (h : v ∈ T.surviving excludedLink u) :
    v ∈ T.names := by
  obtain ⟨cost, harc⟩ := T.mem_surviving.mp h
  exact T.arcs_closed excludedLink.toFinset ∅ u _ harc

theorem link_ok_iff (linkId : String) : (∃ link, T.link linkId = .ok link) ↔ linkId ∈ T.linkIds := by
  unfold link linkIds
  cases h : T.linksById.find? (fun link => link.id == linkId) with
  | none => simpa using h
  | some link =>
    have hmem := List.mem_of_find?_eq_some h
    have hid := List.find?_some h
    simp only [beq_iff_eq] at hid
    simp only [Except.ok.injEq, exists_eq', List.mem_toFinset, List.mem_map, true_iff]
    exact ⟨link, hmem, hid⟩

theorem neighbors_eq {u : String} {excludedLink : Option String} (hu : u ∈ T.names)
    (hlink : excludedLink.toFinset ⊆ T.linkIds) :
    T.neighbors u excludedLink = .ok (T.surviving excludedLink u) := by
  obtain ⟨node, hnode⟩ := (T.node_ok_iff u).mpr hu
  cases excludedLink with
  | none =>
    simp only [neighbors, hnode]
    rfl
  | some linkId =>
    obtain ⟨link, hl⟩ := (T.link_ok_iff linkId).mpr (hlink (by simp))
    simp only [neighbors, hnode, hl]
    rfl

theorem reaches_iff {source : String} {targets : Finset String} {excludedLink : Option String} :
    (∃ t ∈ targets, Reaches (T.surviving excludedLink) source t) ↔
      (T.survivingCosts source targets excludedLink.toFinset ∅).Nonempty := by
  have hstep : (fun u v => v ∈ T.surviving excludedLink u) =
      fun u v => ∃ cost, (v, cost) ∈ T.arcs excludedLink.toFinset ∅ u := by
    funext u v
    exact propext T.mem_surviving
  have hroute : ∀ t, Reaches (T.surviving excludedLink) source t ↔
      ∃ c, Route (T.arcs excludedLink.toFinset ∅) source t c := by
    intro t
    rw [exists_route_iff, Reaches, hstep]
  have hwalk : ∀ t c, Route (T.arcs excludedLink.toFinset ∅) source t c ↔
      ∃ w : Walk T.network source t, w.Avoids (removal excludedLink.toFinset ∅) ∧ w.cost = c :=
    fun t c => route_iff_walk (T.arcs_surviving excludedLink.toFinset ∅) (Finset.notMem_empty source) c
  constructor
  · rintro ⟨t, ht, hreach⟩
    obtain ⟨c, hc⟩ := (hroute t).mp hreach
    exact ⟨c, t, ht, (hwalk t c).mp hc⟩
  · rintro ⟨c, t, ht, hw⟩
    exact ⟨t, ht, (hroute t).mpr ⟨c, (hwalk t c).mpr hw⟩⟩

theorem hasPath_spec {source : String} (targets : Finset String) {excludedLink : Option String}
    (hs : source ∈ T.names) (hlink : excludedLink.toFinset ⊆ T.linkIds) :
    ∃ found, T.hasPath source targets excludedLink = .ok found ∧
      (found = true ↔ (T.survivingCosts source targets excludedLink.toFinset ∅).Nonempty) := by
  obtain ⟨node, hnode⟩ := (T.node_ok_iff source).mpr hs
  have hknown : T.survivingCosts source (targets ∩ T.names) excludedLink.toFinset ∅ =
      T.survivingCosts source targets excludedLink.toFinset ∅ := by
    have h := T.survivingCosts_known source targets excludedLink.toFinset ∅ hs
    rwa [Finset.sdiff_empty] at h
  rw [← hknown, ← T.reaches_iff]
  simp only [hasPath, hnode]
  by_cases hempty : targets ∩ T.names = ∅
  · refine ⟨false, by simp [hempty], ?_⟩
    simp [hempty]
  by_cases hsource : source ∈ targets ∩ T.names
  · refine ⟨true, by simp [hempty, hsource], ?_⟩
    simp only [true_iff]
    exact ⟨source, hsource, .refl⟩
  · have hcard : T.names.card < T.nodesByName.length + 1 := by
      have h := List.toFinset_card_le (T.nodesByName.map Node.name)
      rw [List.length_map] at h
      exact Nat.lt_succ_of_le h
    obtain ⟨found, hrun, hfound⟩ := search_correct (fun u hu => T.neighbors_eq hu hlink)
      (fun u _ v hv => T.surviving_known hv) hs hsource hcard
    refine ⟨found, ?_, hfound⟩
    simp only [hempty, hsource, if_false, hrun]
    rfl

theorem has_path_iff_distance (source : String) (targets : Finset String) (excludedLink : Option String)
    (hsource : source ∈ T.names) (hlink : excludedLink.toFinset ⊆ T.linkIds) :
    ∃ found distance, T.hasPath source targets excludedLink = .ok found ∧
      T.shortestDistance source targets excludedLink = .ok distance ∧ (found = true ↔ distance ≠ none) := by
  obtain ⟨found, hfound, hiff⟩ := T.hasPath_spec targets hsource hlink
  obtain ⟨distance, hdistance, hspec⟩ :=
    T.shortestDistanceExcluding_ok targets hsource hlink (Finset.empty_subset T.names)
  refine ⟨found, distance, hfound, hdistance, ?_⟩
  rw [hiff]
  cases distance with
  | none => simpa [IsDistance, Set.not_nonempty_iff_eq_empty] using hspec
  | some d =>
    have hleast : IsLeast (T.survivingCosts source targets excludedLink.toFinset ∅) d := hspec
    simpa using hleast.nonempty

theorem has_path_iff_distance_triangle : triangle.hasPath "left" {"right", "nowhere"}
    (some "direct") = .ok true ∧
    triangle.shortestDistance "left" {"right", "nowhere"} (some "direct") ≠ .ok none := by
  obtain ⟨found, distance, hfound, hdistance, hiff⟩ :=
    has_path_iff_distance triangle "left" {"right", "nowhere"} (some "direct") (by decide) (by decide)
  have hrun : triangle.hasPath "left" {"right", "nowhere"} (some "direct") = .ok true := by decide +kernel
  obtain rfl := Except.ok.inj (hfound.symm.trans hrun)
  refine ⟨hrun, ?_⟩
  rw [hdistance]
  exact fun h => hiff.mp rfl (Except.ok.inj h)

end TelconetSentinel.Topology

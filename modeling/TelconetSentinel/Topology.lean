import TelconetSentinel.Library.LazySearch
import TelconetSentinel.Models

namespace TelconetSentinel

open LazySearch Iteration

/-- What the constructor guarantees. The two dictionaries are kept as their values in insertion order. -/
structure Topology where
  nodesByName : List Node
  linksById : List Link
  names_nodup : (nodesByName.map Node.name).Nodup
  ids_nodup : (linksById.map Link.id).Nodup
  cost_pos : ∀ link ∈ linksById, 0 < link.cost
  no_self_link : ∀ link ∈ linksById, link.endpointA ≠ link.endpointB
  endpoint_known : ∀ link ∈ linksById, ∀ endpoint ∈ [link.endpointA, link.endpointB],
    endpoint ∈ nodesByName.map Node.name

namespace Topology

def nodeError (known : List String) : List Node → Option Exn
  | [] => none
  | node :: rest =>
    if node.name ∈ known then some (.valueError s!"duplicate node: {node.name}")
    else nodeError (node.name :: known) rest

def linkError (names : List String) (known : List String) : List Link → Option Exn
  | [] => none
  | link :: rest =>
    let unknown := [link.endpointA, link.endpointB].filter (· ∉ names)
    if link.id ∈ known then some (.valueError s!"duplicate link: {link.id}")
    else if link.cost ≤ 0 then some (.valueError s!"link cost must be positive: {link.id}")
    else if link.endpointA = link.endpointB then some (.valueError s!"self link is not allowed: {link.id}")
    else if unknown ≠ [] then
      some (.valueError s!"unknown endpoint in {link.id}: {commaSeparated (sorted unknown)}")
    else linkError names (link.id :: known) rest

theorem nodeError_none_iff (known : List String) (nodes : List Node) :
    nodeError known nodes = none ↔
      (nodes.map Node.name).Nodup ∧ ∀ node ∈ nodes, node.name ∉ known := by
  induction nodes generalizing known with
  | nil => simp [nodeError]
  | cons node rest ih =>
    unfold nodeError
    split_ifs with h
    · simp [h]
    · rw [ih]
      simp only [List.map_cons, List.nodup_cons, List.mem_map, List.mem_cons, not_or, not_exists, not_and]
      grind

theorem linkError_none_iff (names known : List String) (links : List Link) :
    linkError names known links = none ↔
      (links.map Link.id).Nodup ∧ (∀ link ∈ links, link.id ∉ known) ∧ (∀ link ∈ links, 0 < link.cost) ∧
      (∀ link ∈ links, link.endpointA ≠ link.endpointB) ∧
      ∀ link ∈ links, ∀ endpoint ∈ [link.endpointA, link.endpointB], endpoint ∈ names := by
  induction links generalizing known with
  | nil => simp [linkError]
  | cons link rest ih =>
    simp only [linkError]
    split_ifs with hid hcost hself hunknown
    · simp [hid]
    · simp only [List.forall_mem_cons, false_iff]
      exact fun h => absurd h.2.2.1.1 (not_lt.mpr hcost)
    · simp [hself]
    · simp only [false_iff]
      rintro ⟨-, -, -, -, h⟩
      apply hunknown
      rw [List.filter_eq_nil_iff]
      intro endpoint he
      simpa using h link List.mem_cons_self endpoint he
    · rw [ih]
      have hknown : ∀ endpoint ∈ [link.endpointA, link.endpointB], endpoint ∈ names := by
        simpa [List.filter_eq_nil_iff] using hunknown
      simp only [List.map_cons, List.nodup_cons, List.mem_map, List.mem_cons, not_or, not_exists,
        not_and] at hknown ⊢
      grind

def init (nodes : List Node) (links : List Link) : Result Topology :=
  match hn : nodeError [] nodes with
  | some e => .error e
  | none =>
    match hl : linkError (nodes.map Node.name) [] links with
    | some e => .error e
    | none =>
      .ok
        { nodesByName := nodes
          linksById := links
          names_nodup := ((nodeError_none_iff _ _).mp hn).1
          ids_nodup := ((linkError_none_iff _ _ _).mp hl).1
          cost_pos := ((linkError_none_iff _ _ _).mp hl).2.2.1
          no_self_link := ((linkError_none_iff _ _ _).mp hl).2.2.2.1
          endpoint_known := ((linkError_none_iff _ _ _).mp hl).2.2.2.2 }

theorem init_ok {nodes : List Node} {links : List Link} (hn : nodeError [] nodes = none)
    (hl : linkError (nodes.map Node.name) [] links = none) :
    ∃ T, init nodes links = .ok T ∧ T.nodesByName = nodes ∧ T.linksById = links := by
  unfold init
  split
  · next e he => exact absurd (he.symm.trans hn) (Option.some_ne_none e)
  · split
    · next e he => exact absurd (he.symm.trans hl) (Option.some_ne_none e)
    · exact ⟨_, rfl, rfl, rfl⟩

def names (T : Topology) : Finset String := (T.nodesByName.map Node.name).toFinset

def linkIds (T : Topology) : Finset String := (T.linksById.map Link.id).toFinset

def nodes (T : Topology) : List Node := T.nodesByName.insertionSort (fun a b => a.name ≤ b.name)

def links (T : Topology) : List Link := T.linksById.insertionSort (fun a b => a.id ≤ b.id)

def node (T : Topology) (name : String) : Result Node :=
  match T.nodesByName.find? (fun node => node.name == name) with
  | some node => .ok node
  | none => .error (.valueError s!"unknown node: {name}")

def link (T : Topology) (linkId : String) : Result Link :=
  match T.linksById.find? (fun link => link.id == linkId) with
  | some link => .ok link
  | none => .error (.valueError s!"unknown link: {linkId}")

theorem mem_nodes (T : Topology) (node : Node) : node ∈ T.nodes ↔ node ∈ T.nodesByName :=
  List.mem_insertionSort _

theorem mem_links (T : Topology) (link : Link) : link ∈ T.links ↔ link ∈ T.linksById :=
  List.mem_insertionSort _

theorem link_eq_of_id (T : Topology) {link link' : Link} (h : link ∈ T.linksById) (h' : link' ∈ T.linksById)
    (hid : link.id = link'.id) : link = link' :=
  List.inj_on_of_nodup_map T.ids_nodup h h' hid

theorem node_eq_of_name (T : Topology) {node node' : Node} (h : node ∈ T.nodesByName)
    (h' : node' ∈ T.nodesByName) (hname : node.name = node'.name) : node = node' :=
  List.inj_on_of_nodup_map T.names_nodup h h' hname

theorem link_known (T : Topology) {link : Link} (h : link ∈ T.linksById) : T.link link.id = .ok link := by
  unfold Topology.link
  cases hf : T.linksById.find? (fun other => other.id == link.id) with
  | none => simpa using List.find?_eq_none.mp hf link h
  | some other =>
    have hid := List.find?_some hf
    simp only [beq_iff_eq] at hid
    rw [T.link_eq_of_id (List.mem_of_find?_eq_some hf) h hid]

theorem mem_of_link_ok (T : Topology) {linkId : String} {link : Link} (h : T.link linkId = .ok link) :
    link ∈ T.linksById := by
  unfold Topology.link at h
  cases hf : T.linksById.find? (fun other => other.id == linkId) with
  | none =>
    rw [hf] at h
    cases h
  | some found =>
    rw [hf] at h
    obtain rfl := Except.ok.inj h
    exact List.mem_of_find?_eq_some hf

theorem names_sortedLT (T : Topology) : (T.nodes.map Node.name).SortedLT := by
  have hmap : T.nodes.map Node.name = sorted (T.nodesByName.map Node.name) :=
    List.map_insertionSort _ _ _ _ fun _ _ _ _ => Iff.rfl
  rw [hmap]
  exact sorted_sortedLT T.names_nodup

theorem linkIds_sortedLT (T : Topology) : (T.links.map Link.id).SortedLT := by
  have hmap : T.links.map Link.id = sorted (T.linksById.map Link.id) :=
    List.map_insertionSort _ _ _ _ fun _ _ _ _ => Iff.rfl
  rw [hmap]
  exact sorted_sortedLT T.ids_nodup

/-- The lookups `self.link(link_id)` for every member of a set. A set has no order of its own; the
least unknown member is the one reported. -/
def checkLinks (T : Topology) (linkIds : Finset String) : Result Unit :=
  match (linkIds \ T.linkIds).min with
  | some linkId => .error (.valueError s!"unknown link: {linkId}")
  | none => .ok ()

def checkNodes (T : Topology) (names : Finset String) : Result Unit :=
  match (names \ T.names).min with
  | some name => .error (.valueError s!"unknown node: {name}")
  | none => .ok ()

end Topology

def Link.neighbor (link : Link) (current : String) : Option String :=
  if link.endpointA = current then some link.endpointB
  else if link.endpointB = current then some link.endpointA
  else none

namespace Topology

def relaxLink (excludedLinks excludedNodes : Finset String) (distance : ℤ) (current : String)
    (st : SearchState String ℤ) (link : Link) : SearchState String ℤ :=
  if link.id ∈ excludedLinks then st
  else
    match link.neighbor current with
    | none => st
    | some neighbor =>
      if neighbor ∈ excludedNodes then st
      else
        let candidate := distance + link.cost
        if candidate < (st.distances neighbor).getD (candidate + 1) then
          ⟨Function.update st.distances neighbor (some candidate),
            heappush (toLex (candidate, neighbor)) st.pending⟩
        else st

/-- One round of the `while pending` loop. An entry is pushed only after its node has a label, so the
lookup `distances[current]` does not fail. -/
def searchRound (T : Topology) (knownTargets excludedLinks excludedNodes : Finset String)
    (st : SearchState String ℤ) : SearchState String ℤ ⊕ Option ℤ :=
  match heappop st.pending with
  | none => .inr none
  | some (entry, rest) =>
    let distance := (ofLex entry).1
    let current := (ofLex entry).2
    if st.distances current ≠ some distance then .inl ⟨st.distances, rest⟩
    else if current ∈ knownTargets then .inr (some distance)
    else .inl (T.linksById.foldl (relaxLink excludedLinks excludedNodes distance current) ⟨st.distances,
      rest⟩)

/-- Enough rounds for every search: see `search_terminates`. -/
def rounds (T : Topology) : ℕ := T.nodesByName.length * T.linksById.length + 2

def search (T : Topology) (source : String) (knownTargets excludedLinks excludedNodes : Finset String) :
    Result (Option ℤ) :=
  match iterate (T.searchRound knownTargets excludedLinks excludedNodes) T.rounds (initial source) with
  | some distance => .ok distance
  | none => .error .nontermination

def shortestDistanceExcluding (T : Topology) (source : String)
    (targets excludedLinks excludedNodes : Finset String) : Result (Option ℤ) := do
  let _ ← T.node source
  T.checkLinks excludedLinks
  T.checkNodes excludedNodes
  if source ∈ excludedNodes then return none
  let knownTargets := (targets ∩ T.names) \ excludedNodes
  if knownTargets = ∅ then return none
  T.search source knownTargets excludedLinks excludedNodes

def shortestDistance (T : Topology) (source : String) (targets : Finset String)
    (excludedLink excludedNode : Option String := none) : Result (Option ℤ) :=
  T.shortestDistanceExcluding source targets excludedLink.toFinset excludedNode.toFinset

end Topology

end TelconetSentinel

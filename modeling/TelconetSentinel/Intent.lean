import TelconetSentinel.Library.KeyedLists
import TelconetSentinel.Topology

namespace TelconetSentinel

open KeyedLists

/-- That every prefix is the text of a network is not part of the type: nothing below depends on it. -/
structure NodeIntent where
  role : NodeRole
  prefixes : List String
  prefixes_unique : prefixes.Nodup

structure LinkIntent where
  id : String
  endpoints : String × String
  cost : ℤ := 1
  id_valid : isComponentId id
  endpoints_valid : isComponentId endpoints.1 ∧ isComponentId endpoints.2
  cost_pos : 0 < cost

def NodeIntent.ofFields (role : NodeRole) (prefixes : List String) : Option NodeIntent :=
  if h : prefixes.Nodup then some ⟨role, prefixes, h⟩ else none

def LinkIntent.ofFields (id : String) (endpoints : String × String) (cost : ℤ) : Option LinkIntent :=
  if h : isComponentId id ∧ (isComponentId endpoints.1 ∧ isComponentId endpoints.2) ∧ 0 < cost then
    some ⟨id, endpoints, cost, h.1, h.2.1, h.2.2⟩
  else none

/-- The validated fields of an intent, before their references are checked. The version is fixed. -/
structure IntentFields where
  nodes : Dict (Prod.fst : String × NodeIntent → String)
  links : List LinkIntent
  nodes_length : 1 ≤ nodes.values.length
  links_length : 1 ≤ links.length

namespace IntentFields

def nameError (names : List String) : Option Exn :=
  (names.find? fun name => !isComponentId name).map fun name => .valueError s!"invalid node name: {name}"

def referenceError (names : List String) (link : LinkIntent) : Option Exn :=
  let unknown := [link.endpoints.1, link.endpoints.2].filter (· ∉ names)
  if link.endpoints.1 = link.endpoints.2 then some (.valueError s!"self link is not allowed: {link.id}")
  else if unknown ≠ [] then
    some (.valueError s!"unknown endpoint in {link.id}: {commaSeparated (sorted unknown)}")
  else none

def prefixOwners (fields : IntentFields) : List (String × String) :=
  fields.nodes.values.flatMap fun node => node.2.prefixes.map fun routePrefix => (routePrefix, node.1)

def ownerError (owners : List (String × String)) : List (String × String) → Option Exn
  | [] => none
  | (routePrefix, name) :: rest =>
    match lookup Prod.fst owners routePrefix with
    | some owner => some (.valueError s!"duplicate prefix {routePrefix}: {owner.2}, {name}")
    | none => ownerError ((routePrefix, name) :: owners) rest

theorem nameError_none_iff (names : List String) :
    nameError names = none ↔ ∀ name ∈ names, isComponentId name = true := by
  simp [nameError]

theorem referenceError_none_iff (names : List String) (link : LinkIntent) :
    referenceError names link = none ↔
      link.endpoints.1 ≠ link.endpoints.2 ∧ link.endpoints.1 ∈ names ∧ link.endpoints.2 ∈ names := by
  unfold referenceError
  simp only
  split_ifs with hself hunknown
  · simp [hself]
  · simp only [false_iff, not_and]
    intro _ ha hb
    apply hunknown
    simp [ha, hb]
  · simp only [ne_eq, not_not, List.filter_eq_nil_iff] at hunknown
    simp only [List.forall_mem_cons, decide_eq_true_eq, not_not] at hunknown
    simp [hself, hunknown]

theorem ownerError_none_iff (owners pairs : List (String × String)) :
    ownerError owners pairs = none ↔
      (pairs.map Prod.fst).Nodup ∧ ∀ pair ∈ pairs, pair.1 ∉ owners.map Prod.fst := by
  induction pairs generalizing owners with
  | nil => simp [ownerError]
  | cons pair rest ih =>
    unfold ownerError
    cases h : lookup Prod.fst owners pair.1 with
    | some owner =>
      have hmem : pair.1 ∈ owners.map Prod.fst := by
        obtain ⟨howner, hkey⟩ := lookup_some Prod.fst h
        exact hkey ▸ List.mem_map_of_mem howner
      refine iff_of_false (Option.some_ne_none _) ?_
      rintro ⟨-, hall⟩
      exact hall pair List.mem_cons_self hmem
    | none =>
      have hfresh := (lookup_none_iff Prod.fst owners pair.1).mp h
      rw [ih]
      simp only [List.map_cons, List.nodup_cons, List.mem_cons, not_or]
      grind

end IntentFields

structure NetworkIntent extends IntentFields where
  names_valid : ∀ name ∈ nodes.keys, isComponentId name = true
  ids_unique : (links.map LinkIntent.id).Nodup
  references_known : ∀ link ∈ links,
    link.endpoints.1 ≠ link.endpoints.2 ∧ link.endpoints.1 ∈ nodes.keys ∧ link.endpoints.2 ∈ nodes.keys
  prefixes_unique : (toIntentFields.prefixOwners.map Prod.fst).Nodup

def IntentFields.validateGraphReferences (fields : IntentFields) : Result NetworkIntent :=
  match hname : nameError fields.nodes.keys with
  | some e => .error e
  | none =>
    if hids : (fields.links.map LinkIntent.id).Nodup then
      match href : fields.links.findSome? (referenceError fields.nodes.keys) with
      | some e => .error e
      | none =>
        match howner : ownerError [] fields.prefixOwners with
        | some e => .error e
        | none =>
          .ok
            { toIntentFields := fields
              names_valid := (nameError_none_iff _).mp hname
              ids_unique := hids
              references_known := fun link hlink =>
                (referenceError_none_iff _ link).mp (List.findSome?_eq_none_iff.mp href link hlink)
              prefixes_unique := ((ownerError_none_iff _ _).mp howner).1 }
    else .error (.valueError "duplicate link id")

namespace NetworkIntent

variable (intent : NetworkIntent)

def toNode (node : String × NodeIntent) : Node := ⟨node.1, node.2.role, node.2.prefixes⟩

def toLink (link : LinkIntent) : Link := ⟨link.id, link.endpoints.1, link.endpoints.2, link.cost⟩

def toTopology : Result Topology := Topology.init (intent.nodes.values.map toNode) (intent.links.map toLink)

theorem toTopology_ok : ∃ T, intent.toTopology = .ok T ∧ T.nodesByName = intent.nodes.values.map toNode ∧
    T.linksById = intent.links.map toLink := by
  have hnames : (intent.nodes.values.map toNode).map Node.name = intent.nodes.keys := by
    rw [List.map_map]
    rfl
  have hids : (intent.links.map toLink).map Link.id = intent.links.map LinkIntent.id := by
    rw [List.map_map]
    rfl
  apply Topology.init_ok
  · rw [Topology.nodeError_none_iff, hnames]
    exact ⟨intent.nodes.keys_nodup, fun _ _ => List.not_mem_nil⟩
  · rw [Topology.linkError_none_iff, hnames, hids]
    refine ⟨intent.ids_unique, fun _ _ => List.not_mem_nil, ?_, ?_, ?_⟩
    · simp only [List.forall_mem_map]
      exact fun link _ => link.cost_pos
    · simp only [List.forall_mem_map]
      exact fun link hlink => (intent.references_known link hlink).1
    · simp only [List.forall_mem_map, List.forall_mem_cons]
      exact fun link hlink => ⟨(intent.references_known link hlink).2.1,
        (intent.references_known link hlink).2.2, fun _ h => absurd h List.not_mem_nil⟩

end NetworkIntent

end TelconetSentinel

import TelconetSentinel.Library.FallibleLists
import TelconetSentinel.Topology

namespace TelconetSentinel

open FallibleLists

inductive FaultKind
  | link
  | node
  | composite
  deriving DecidableEq, Repr

def isScenarioId (id : String) : Bool :=
  fullmatch isLower (fun c => isLower c || isDigit c || c == ':' || c == '-') 255 id

structure FaultScenario where
  id : String
  kind : FaultKind
  excludedLinks : Finset String
  excludedNodes : Finset String
  id_valid : isScenarioId id
  component : excludedLinks.card + excludedNodes.card ≠ 0
  link_kind : kind = .link → excludedLinks.card = 1 ∧ excludedNodes = ∅
  node_kind : kind = .node → excludedNodes.card = 1 ∧ excludedLinks = ∅
  composite_kind : kind = .composite → 2 ≤ excludedLinks.card + excludedNodes.card
  deriving DecidableEq

namespace FaultScenario

def init (id : String) (kind : FaultKind) (excludedLinks excludedNodes : Finset String) :
    Result FaultScenario :=
  if hid : ¬ isScenarioId id then .error (.valueError "invalid fault scenario id")
  else if hcount : excludedLinks.card + excludedNodes.card = 0 then
    .error (.valueError "fault scenario requires at least one component")
  else if hlink : kind = .link ∧ (excludedLinks.card ≠ 1 ∨ excludedNodes ≠ ∅) then
    .error (.valueError "link fault requires exactly one excluded link")
  else if hnode : kind = .node ∧ (excludedNodes.card ≠ 1 ∨ excludedLinks ≠ ∅) then
    .error (.valueError "node fault requires exactly one excluded node")
  else if hcomposite : kind = .composite ∧ excludedLinks.card + excludedNodes.card < 2 then
    .error (.valueError "composite fault requires multiple components")
  else
    .ok
      { id, kind, excludedLinks, excludedNodes
        id_valid := not_not.mp hid
        component := hcount
        link_kind := fun hk => by simpa [hk] using hlink
        node_kind := fun hk => by simpa [hk] using hnode
        composite_kind := fun hk => not_lt.mp fun hlt => hcomposite ⟨hk, hlt⟩ }

theorem init_ok {id : String} {kind : FaultKind} {links nodes : Finset String} {fault : FaultScenario}
    (h : init id kind links nodes = .ok fault) :
    fault.id = id ∧ fault.kind = kind ∧ fault.excludedLinks = links ∧ fault.excludedNodes = nodes := by
  unfold init at h
  split_ifs at h
  obtain rfl := Except.ok.inj h
  exact ⟨rfl, rfl, rfl, rfl⟩

theorem init_returns {id : String} {kind : FaultKind} {links nodes : Finset String}
    (hid : isScenarioId id = true) (hcount : links.card + nodes.card ≠ 0)
    (hlink : kind = .link → links.card = 1 ∧ nodes = ∅) (hnode : kind = .node → nodes.card = 1 ∧ links = ∅)
    (hcomposite : kind = .composite → 2 ≤ links.card + nodes.card) :
    ∃ fault, init id kind links nodes = .ok fault := by
  have hlink' : ¬ (kind = .link ∧ (links.card ≠ 1 ∨ nodes ≠ ∅)) := by
    rintro ⟨hk, hcard | hempty⟩
    · exact hcard (hlink hk).1
    · exact hempty (hlink hk).2
  have hnode' : ¬ (kind = .node ∧ (nodes.card ≠ 1 ∨ links ≠ ∅)) := by
    rintro ⟨hk, hcard | hempty⟩
    · exact hcard (hnode hk).1
    · exact hempty (hnode hk).2
  have hcomposite' : ¬ (kind = .composite ∧ links.card + nodes.card < 2) :=
    fun h => not_lt.mpr (hcomposite h.1) h.2
  rw [init, dif_neg (not_not.mpr hid), dif_neg hcount, dif_neg hlink', dif_neg hnode', dif_neg hcomposite']
  exact ⟨_, rfl⟩

end FaultScenario

namespace Topology

def linkFault (link : Link) : Result FaultScenario :=
  FaultScenario.init s!"link:{link.id}" .link {link.id} ∅

def nodeFault (node : Node) : Result FaultScenario :=
  FaultScenario.init s!"node:{node.name}" .node ∅ {node.name}

def linkFailureScenarios (T : Topology) : Result (List FaultScenario) := T.links.mapM linkFault

def transportNodes (T : Topology) : List Node :=
  T.nodes.filter (fun node => node.role = .aggregation ∨ node.role = .core)

def transportNodeFailureScenarios (T : Topology) : Result (List FaultScenario) := do
  let scenarios ← T.transportNodes.mapM nodeFault
  if scenarios = [] then .error (.valueError "N-1 node audit requires at least one transport node")
  else return scenarios

theorem linkFailureScenarios_ok {T : Topology} {faults : List FaultScenario}
    (h : T.linkFailureScenarios = .ok faults) :
    List.Forall₂ (fun link fault => fault.excludedLinks = {link.id} ∧ fault.excludedNodes = ∅) T.links
      faults := by
  refine ((mapM_ok_iff _ _ _).mp h).imp fun link fault hf => ?_
  obtain ⟨-, -, hl, hn⟩ := FaultScenario.init_ok hf
  exact ⟨hl, hn⟩

theorem transportNodeFailureScenarios_ok {T : Topology} {faults : List FaultScenario}
    (h : T.transportNodeFailureScenarios = .ok faults) :
    List.Forall₂ (fun node fault => fault.excludedLinks = ∅ ∧ fault.excludedNodes = {node.name})
      T.transportNodes faults := by
  obtain ⟨scenarios, hs, h⟩ := (bind_ok_iff _ _ _).mp h
  split_ifs at h
  obtain rfl := Except.ok.inj h
  refine ((mapM_ok_iff _ _ _).mp hs).imp fun node fault hf => ?_
  obtain ⟨-, -, hl, hn⟩ := FaultScenario.init_ok hf
  exact ⟨hl, hn⟩

end Topology

end TelconetSentinel

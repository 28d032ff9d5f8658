import TelconetSentinel.Library.DocumentValues
import TelconetSentinel.Library.FallibleLists
import TelconetSentinel.Library.KeyedLists
import TelconetSentinel.RuntimePlan
import Mathlib.Data.Sym.Sym2

namespace TelconetSentinel

open DocumentValues FallibleLists KeyedLists

structure LabLink where
  first : String × String
  second : String × String
  no_self_link : first.1 ≠ second.1

namespace LabLink

def pair (link : LabLink) : Sym2 String := s(link.first.1, link.second.1)

def interfaceOf (link : LabLink) (node : String) : Option String :=
  if node = link.first.1 then some link.first.2 else if node = link.second.1 then some link.second.2 else none

theorem interfaceOf_isSome_iff (link : LabLink) (node : String) :
    (link.interfaceOf node).isSome = true ↔ node ∈ link.pair := by
  rw [pair, Sym2.mem_iff, interfaceOf]
  split_ifs <;> simp [*]

end LabLink

abbrev LabLinks := Dict LabLink.pair

def labDocument (nodes : List String) (links : List (String × String)) : Value :=
  .dict [(.str "name", .str "telconet-sentinel"), (.str "topology",
    .dict [(.str "nodes", .dict (nodes.map fun node => (.str node, .dict [(.str "kind", .str "linux")]))),
      (.str "links", .list (links.map fun link =>
        .dict [(.str "endpoints", .list [.str link.1, .str link.2])]))])]

namespace RuntimeResilience

def mapping (value : Value) (label : String) : Result Value :=
  match value with
  | .dict entries => .ok (.dict entries)
  | _ => .error (.valueError s!"{label} must be a mapping")

def sequence (value : Value) (label : String) : Result (List Value) :=
  match value with
  | .list items => .ok items
  | _ => .error (.valueError s!"{label} must be a sequence")

def parseEndpoint (nodes : List String) (value : Value) : Result (String × String) :=
  match value.text.map fun text => text.toList.splitOn ':' with
  | some [node, interface] =>
    let node := String.ofList node
    let interface := String.ofList interface
    if node ∉ nodes ∨ ¬ isRuntimeNode node then
      .error (.valueError s!"containerlab endpoint uses an unknown node: {node}")
    else if ¬ isRuntimeInterface interface then
      .error (.valueError s!"unsupported containerlab interface: {interface}")
    else .ok (node, interface)
  | _ => .error (.valueError "containerlab endpoint must be node:interface")

def nodeName (key : Value) : Result String :=
  match key.text with
  | some name => if isRuntimeNode name then .ok name else
    .error (.valueError "containerlab node name is invalid")
  | none => .error (.valueError "containerlab node name is invalid")

def parseLink (nodes : List String) (index : ℕ) (value : Value) : Result LabLink := do
  let link ← mapping value s!"containerlab link {index}"
  if link.entries.map (fun entry => entry.1.text) ≠ [some "endpoints"] then
    .error (.valueError "containerlab link must contain only endpoints")
  else do
    let endpointValues ← sequence (link.getD "endpoints" .null) "containerlab endpoints"
    match endpointValues with
    | [firstValue, secondValue] => do
      let first ← parseEndpoint nodes firstValue
      let second ← parseEndpoint nodes secondValue
      if h : first.1 = second.1 then .error (.valueError "containerlab self-links are not supported")
      else .ok ⟨first, second, h⟩
    | _ => .error (.valueError "containerlab link must contain exactly two endpoints")

def addLink (nodes : List String) (pairs : LabLinks) (entry : Value × ℕ) : Result LabLinks := do
  let link ← parseLink nodes entry.2 entry.1
  if link.pair ∈ pairs.keys then .error (.valueError "parallel containerlab links are not supported")
  else .ok (pairs.assign link)

def loadLabLinks (labDocument : Value) : Result LabLinks := do
  let document ← mapping labDocument "containerlab document"
  let topology ← mapping (document.getD "topology" .null) "containerlab topology"
  let nodeDocument ← mapping (topology.getD "nodes" .null) "containerlab nodes"
  if ¬ (1 ≤ nodeDocument.entries.length ∧ nodeDocument.entries.length ≤ 64) then
    .error (.valueError "containerlab nodes must contain 1 to 64 entries")
  else do
    let nodes ← nodeDocument.entries.mapM fun entry => nodeName entry.1
    let links ← sequence (topology.getD "links" .null) "containerlab links"
    if ¬ (1 ≤ links.length ∧ links.length ≤ 128) then
      .error (.valueError "containerlab links must contain 1 to 128 entries")
    else links.zipIdx.foldlM (addLink nodes) (Dict.empty LabLink.pair)

end RuntimeResilience

end TelconetSentinel

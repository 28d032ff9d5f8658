import TelconetSentinel.AuditMeaning

namespace TelconetSentinel

open FallibleLists

structure LinkFailureScenario where
  linkId : String
  endpoints : String × String
  serviceImpact : ServiceImpact
  affectedNodes : List String
  affectedPrefixes : List String
  deriving DecidableEq, Repr

structure ResilienceAudit where
  scenarios : List LinkFailureScenario
  deriving DecidableEq, Repr

structure NodeFailureScenario where
  nodeName : String
  role : NodeRole
  serviceImpact : ServiceImpact
  affectedNodes : List String
  affectedPrefixes : List String
  deriving DecidableEq, Repr

structure NodeResilienceAudit where
  scenarios : List NodeFailureScenario
  deriving DecidableEq, Repr

namespace Topology

variable (T : Topology)

def linkFailureScenario (result : FaultScenarioResult) : Result LinkFailureScenario := do
  let linkId ← firstMember result.fault.excludedLinks
  let link ← T.link linkId
  return ⟨linkId, (link.endpointA, link.endpointB), result.serviceImpact, result.affectedNodes,
    result.affectedPrefixes⟩

def nodeFailureScenario (result : FaultScenarioResult) : Result NodeFailureScenario := do
  let nodeName ← firstMember result.fault.excludedNodes
  let node ← T.node nodeName
  return ⟨nodeName, node.role, result.serviceImpact, result.affectedNodes, result.affectedPrefixes⟩

def auditSingleLinkFailures : Result ResilienceAudit := do
  let faults ← T.linkFailureScenarios
  let audit ← T.auditFaultScenarios faults
  let scenarios ← audit.scenarios.mapM T.linkFailureScenario
  return ⟨scenarios⟩

def auditSingleNodeFailures : Result NodeResilienceAudit := do
  let faults ← T.transportNodeFailureScenarios
  let audit ← T.auditFaultScenarios faults
  let scenarios ← audit.scenarios.mapM T.nodeFailureScenario
  return ⟨scenarios⟩

variable {T}

theorem linkFailureScenario_ok {r : FaultScenarioResult} {s : LinkFailureScenario} {linkId : String}
    (hl : r.fault.excludedLinks = {linkId}) (h : T.linkFailureScenario r = .ok s) :
    s.linkId = linkId ∧ s.serviceImpact = r.serviceImpact ∧ s.affectedNodes = r.affectedNodes ∧
      s.affectedPrefixes = r.affectedPrefixes := by
  obtain ⟨first, hfirst, h⟩ := (bind_ok_iff _ _ _).mp h
  rw [hl, firstMember_singleton] at hfirst
  obtain rfl := Except.ok.inj hfirst
  obtain ⟨link, -, h⟩ := (bind_ok_iff _ _ _).mp h
  obtain rfl := Except.ok.inj h
  exact ⟨rfl, rfl, rfl, rfl⟩

theorem nodeFailureScenario_ok {r : FaultScenarioResult} {s : NodeFailureScenario} {nodeName : String}
    (hl : r.fault.excludedNodes = {nodeName}) (h : T.nodeFailureScenario r = .ok s) :
    s.nodeName = nodeName ∧ s.serviceImpact = r.serviceImpact ∧ s.affectedNodes = r.affectedNodes ∧
      s.affectedPrefixes = r.affectedPrefixes := by
  obtain ⟨first, hfirst, h⟩ := (bind_ok_iff _ _ _).mp h
  rw [hl, firstMember_singleton] at hfirst
  obtain rfl := Except.ok.inj hfirst
  obtain ⟨node, -, h⟩ := (bind_ok_iff _ _ _).mp h
  obtain rfl := Except.ok.inj h
  exact ⟨rfl, rfl, rfl, rfl⟩

/-- A single-fault scenario repeats an audited fault with one excluded component. -/
structure LinkAudited (T : Topology) (link : Link) (s : LinkFailureScenario) : Prop where
  linkId : s.linkId = link.id
  audited : ∃ fault r, fault.excludedLinks = {link.id} ∧ fault.excludedNodes = ∅ ∧ T.AuditedAs fault r ∧
    s.serviceImpact = r.serviceImpact ∧ s.affectedNodes = r.affectedNodes ∧
    s.affectedPrefixes = r.affectedPrefixes

structure NodeAudited (T : Topology) (node : Node) (s : NodeFailureScenario) : Prop where
  nodeName : s.nodeName = node.name
  audited : ∃ fault r, fault.excludedLinks = ∅ ∧ fault.excludedNodes = {node.name} ∧ T.AuditedAs fault r ∧
    s.serviceImpact = r.serviceImpact ∧ s.affectedNodes = r.affectedNodes ∧
    s.affectedPrefixes = r.affectedPrefixes

theorem auditSingleLinkFailures_ok {audit : ResilienceAudit} (h : T.auditSingleLinkFailures = .ok audit) :
    List.Forall₂ T.LinkAudited T.links audit.scenarios := by
  obtain ⟨faults, hf, h⟩ := (bind_ok_iff _ _ _).mp h
  obtain ⟨result, hr, h⟩ := (bind_ok_iff _ _ _).mp h
  obtain ⟨scenarios, hs, h⟩ := (bind_ok_iff _ _ _).mp h
  obtain rfl := Except.ok.inj h
  have haudited := pairing_comp (linkFailureScenarios_ok hf) (T.auditFaultScenarios_ok hr)
  refine (pairing_comp haudited ((mapM_ok_iff _ _ _).mp hs)).imp ?_
  rintro link s ⟨r, ⟨fault, ⟨hl, hn⟩, hspec⟩, hlr⟩
  obtain ⟨hid, hrest⟩ := linkFailureScenario_ok (hspec.fault_eq ▸ hl) hlr
  exact ⟨hid, fault, r, hl, hn, hspec, hrest⟩

theorem auditSingleNodeFailures_ok {audit : NodeResilienceAudit} (h : T.auditSingleNodeFailures = .ok audit) :
    List.Forall₂ T.NodeAudited T.transportNodes audit.scenarios := by
  obtain ⟨faults, hf, h⟩ := (bind_ok_iff _ _ _).mp h
  obtain ⟨result, hr, h⟩ := (bind_ok_iff _ _ _).mp h
  obtain ⟨scenarios, hs, h⟩ := (bind_ok_iff _ _ _).mp h
  obtain rfl := Except.ok.inj h
  have haudited := pairing_comp (transportNodeFailureScenarios_ok hf) (T.auditFaultScenarios_ok hr)
  refine (pairing_comp haudited ((mapM_ok_iff _ _ _).mp hs)).imp ?_
  rintro node s ⟨r, ⟨fault, ⟨hl, hn⟩, hspec⟩, hnr⟩
  obtain ⟨hid, hrest⟩ := nodeFailureScenario_ok (hspec.fault_eq ▸ hn) hnr
  exact ⟨hid, fault, r, hl, hn, hspec, hrest⟩

end Topology

end TelconetSentinel

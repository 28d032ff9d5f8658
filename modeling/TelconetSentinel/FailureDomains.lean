import TelconetSentinel.AuditMeaning

namespace TelconetSentinel

open FallibleLists

/-- What `json.dumps` is given, before hashing. -/
structure TopologyDocument where
  nodes : List (String × NodeRole × List String)
  links : List (String × List String × ℤ)
  deriving DecidableEq, Repr

def Topology.document (T : Topology) : TopologyDocument :=
  ⟨T.nodes.map fun node => (node.name, node.role, node.prefixes),
    T.links.map fun link => (link.id, sorted [link.endpointA, link.endpointB], link.cost)⟩

inductive FailureDomainType
  | sharedConduit
  | powerDomain
  | site
  deriving DecidableEq, Repr

def isIdentifier (limit : ℕ) (text : String) : Bool :=
  fullmatch isLower (fun c => isLower c || isDigit c || c == '-') limit text

structure FailureDomainIntent where
  type : FailureDomainType
  links : List String
  nodes : List String
  links_length : links.length ≤ 32
  nodes_length : nodes.length ≤ 32
  links_nodup : links.Nodup
  nodes_nodup : nodes.Nodup
  two_components : 2 ≤ links.length + nodes.length
  identifiers : ∀ component ∈ links ++ nodes, isIdentifier 127 component

structure FailureDomainCatalog where
  design : String
  topologySha256 : String
  failureDomains : List (String × FailureDomainIntent)
  design_valid : isIdentifier 63 design
  sha256_valid : isSha256 topologySha256
  domains_length : 1 ≤ failureDomains.length ∧ failureDomains.length ≤ 64
  keys_nodup : (failureDomains.map Prod.fst).Nodup
  ids_valid : ∀ domain ∈ failureDomains, isIdentifier 63 domain.1

structure FailureDomainScenarioResult where
  domainId : String
  domainType : FailureDomainType
  excludedLinks : List String
  excludedNodes : List String
  serviceImpact : ServiceImpact
  affectedNodes : List String
  affectedPrefixes : List String
  paths : List AccessPathResult
  deriving DecidableEq, Repr

structure FailureDomainAudit where
  design : String
  topologySha256 : String
  scenarios : List FailureDomainScenarioResult
  deriving DecidableEq, Repr

def domainFault (item : String × FailureDomainIntent) : Result FaultScenario :=
  FaultScenario.init s!"srlg:{item.1}" .composite item.2.links.toFinset item.2.nodes.toFinset

def domainScenario (item : String × FailureDomainIntent) (result : FaultScenarioResult) :
    FailureDomainScenarioResult :=
  ⟨item.1, item.2.type, sorted item.2.links, sorted item.2.nodes, result.serviceImpact, result.affectedNodes,
    result.affectedPrefixes, result.paths⟩

namespace FailureDomainCatalog

def domainItems (catalog : FailureDomainCatalog) : List (String × FailureDomainIntent) :=
  catalog.failureDomains.insertionSort (fun a b => a.1 ≤ b.1)

end FailureDomainCatalog

namespace Topology

section Fingerprint

-- `digest` is SHA-256 of the canonical JSON text of a document, in hexadecimal.
variable (digest : TopologyDocument → String)

def fingerprint (T : Topology) : String := digest T.document

def auditFailureDomains (T : Topology) (catalog : FailureDomainCatalog) : Result FailureDomainAudit :=
  if T.fingerprint digest ≠ catalog.topologySha256 then
    .error (.valueError "failure-domain topology fingerprint mismatch")
  else do
    let faults ← catalog.domainItems.mapM domainFault
    let audit ← T.auditFaultScenarios faults
    return ⟨catalog.design, catalog.topologySha256,
      List.zipWith domainScenario catalog.domainItems audit.scenarios⟩

structure DomainAudited (T : Topology) (item : String × FailureDomainIntent)
    (s : FailureDomainScenarioResult) :
    Prop where
  domainId : s.domainId = item.1
  links : ∀ link, link ∈ s.excludedLinks ↔ link ∈ item.2.links
  nodes : ∀ node, node ∈ s.excludedNodes ↔ node ∈ item.2.nodes
  audited : ∃ fault r, fault.excludedLinks = item.2.links.toFinset ∧
    fault.excludedNodes = item.2.nodes.toFinset ∧
    T.AuditedAs fault r ∧ s.serviceImpact = r.serviceImpact ∧ s.affectedNodes = r.affectedNodes ∧
    s.affectedPrefixes = r.affectedPrefixes ∧ s.paths = r.paths

variable {digest}

theorem auditFailureDomains_ok {T : Topology} {catalog : FailureDomainCatalog} {audit : FailureDomainAudit}
    (h : T.auditFailureDomains digest catalog = .ok audit) :
    List.Forall₂ T.DomainAudited catalog.domainItems audit.scenarios := by
  unfold auditFailureDomains at h
  split_ifs at h
  obtain ⟨faults, hf, h⟩ := (bind_ok_iff _ _ _).mp h
  obtain ⟨result, hr, h⟩ := (bind_ok_iff _ _ _).mp h
  obtain rfl := Except.ok.inj h
  refine pairing_zipWith _ (pairing_comp ((mapM_ok_iff _ _ _).mp hf) (T.auditFaultScenarios_ok hr)) ?_
  rintro item r ⟨fault, hfault, hspec⟩
  obtain ⟨-, -, hl, hn⟩ := FaultScenario.init_ok hfault
  refine ⟨rfl, fun link => ?_, fun node => ?_, fault, r, hl, hn, hspec, rfl, rfl, rfl, rfl⟩
  · simp [domainScenario, sorted]
  · simp [domainScenario, sorted]

end Fingerprint

end Topology

end TelconetSentinel

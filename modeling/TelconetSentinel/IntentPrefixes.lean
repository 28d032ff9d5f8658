import TelconetSentinel.Intent
import TelconetSentinel.Library.IpNetworkTexts

namespace TelconetSentinel

open IpNetworks KeyedLists

/-- `ipaddress.ip_network(prefix, strict=True)` -/
def ipNetwork (text : String) : Except NetworkError Fields := readNetwork text.toList

def networkText (network : Fields) : String := String.ofList network.text

def NodeIntent.validatePrefixes (prefixes : List String) : Result (List String) :=
  if ¬ prefixes.Nodup then .error (.valueError "node prefixes must be unique")
  else
    match prefixes.find? fun text => (ipNetwork text).toOption.isNone with
    | some text => .error (.valueError s!"invalid canonical prefix: {text}")
    | none => .ok prefixes

/-- An intent whose nodes have passed their own validation too. -/
structure AcceptedIntent extends NetworkIntent where
  prefixes_valid : ∀ node ∈ nodes.values, NodeIntent.validatePrefixes node.2.prefixes = .ok node.2.prefixes

namespace AcceptedIntent

variable (intent : AcceptedIntent)

def prefixes : List String := intent.prefixOwners.map Prod.fst

structure AdvertisesNetworks : Prop where
  canonical : ∀ text ∈ intent.prefixes, ∃ network, ipNetwork text = .ok network ∧ networkText network = text
  distinct : (intent.prefixes.map ipNetwork).Nodup

theorem ipNetwork_networkText {network : Fields} (h : network.Valid) :
    ipNetwork (networkText network) = .ok network := by
  rw [ipNetwork, networkText, String.toList_ofList]
  exact h.readNetwork_text

theorem advertises_networks_iff : intent.AdvertisesNetworks ↔
    ∀ text ∈ intent.prefixes, ∃ network : Fields, network.Valid ∧ text = networkText network := by
  constructor
  · intro h text htext
    obtain ⟨network, hread, hprinted⟩ := h.canonical text htext
    exact ⟨network, readNetwork_valid hread, hprinted.symm⟩
  · intro h
    have hcanonical : ∀ text ∈ intent.prefixes, ∃ network, ipNetwork text = .ok network ∧
        networkText network = text := by
      intro text htext
      obtain ⟨network, hvalid, rfl⟩ := h text htext
      exact ⟨network, ipNetwork_networkText hvalid, rfl⟩
    refine ⟨hcanonical, intent.prefixes_unique.map_on fun text htext text' htext' hsame => ?_⟩
    obtain ⟨network, hread, hprinted⟩ := hcanonical text htext
    obtain ⟨network', hread', hprinted'⟩ := hcanonical text' htext'
    rw [hread, hread'] at hsame
    rw [← hprinted, ← hprinted', Except.ok.inj hsame]

end AcceptedIntent

def netmaskFields : IntentFields where
  nodes := ⟨[("access", NodeRole.access, ["10.0.0.0/24"]),
    ("service", .service, ["10.0.0.0/255.255.255.0"])].filterMap
    fun entry => (NodeIntent.ofFields entry.2.1 entry.2.2).map fun node => (entry.1, node), by decide +kernel⟩
  links := (LinkIntent.ofFields "access--service" ("access", "service") 1).toList
  nodes_length := by decide +kernel
  links_length := by decide +kernel

def netmaskIntent : AcceptedIntent where
  toIntentFields := netmaskFields
  names_valid := by decide +kernel
  ids_unique := by decide +kernel
  references_known := by decide +kernel
  prefixes_unique := by decide +kernel
  prefixes_valid := by decide +kernel

theorem netmask_spelling_accepted : netmaskIntent.prefixes = ["10.0.0.0/24", "10.0.0.0/255.255.255.0"] ∧
    (∃ network, ∀ text ∈ netmaskIntent.prefixes, ipNetwork text = .ok network ∧
      networkText network = "10.0.0.0/24") ∧
      ¬ netmaskIntent.AdvertisesNetworks := by
  have hprefixes : netmaskIntent.prefixes = ["10.0.0.0/24", "10.0.0.0/255.255.255.0"] := by decide +kernel
  refine ⟨hprefixes, ⟨⟨.v4, [10, 0, 0, 0], none, 24⟩, ?_⟩, fun h => absurd h.distinct (by decide +kernel)⟩
  rw [hprefixes]
  decide +kernel

end TelconetSentinel

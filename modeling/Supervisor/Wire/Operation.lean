/-!
# Operations of the supervisor daemon

Every frame carries a tag that says which operation it belongs to. Tags are consecutive and start
at zero, which is reserved for failure replies.

## Main definitions

* `Operation` - the operations, in the order of their tags
* `Operation.tag`, `Operation.ofTag?` - the number on the wire and back
* `Operation.name` - the name used in messages and in the log
* `Operation.ofTag?_tag`, `Operation.ofTag?_eq_some_iff` - tags name operations uniquely
-/

namespace Supervisor.Wire

/-- What a frame asks for or answers. -/
inductive Operation where
  | failure
  | version
  | nodeInfo
  | listDomains
  | countDomains
  | createDomain
  | domainById
  | domainByUuid
  | domainByName
  | suspendDomain
  | resumeDomain
  | destroyDomain
  | domainInfo
  | saveDomain
  | restoreDomain
  | domainXml
  | listDefinedDomains
  | countDefinedDomains
  | startDomain
  | defineDomain
  | undefineDomain
  | countNetworks
  | listNetworks
  | countDefinedNetworks
  | listDefinedNetworks
  | networkByUuid
  | networkByName
  | createNetwork
  | defineNetwork
  | undefineNetwork
  | startNetwork
  | destroyNetwork
  | networkXml
  | networkBridge
  deriving DecidableEq, Repr, Inhabited

namespace Operation

/-- All operations, in the order of their tags. -/
def all : List Operation :=
  [.failure, .version, .nodeInfo, .listDomains, .countDomains, .createDomain, .domainById,
   .domainByUuid, .domainByName, .suspendDomain, .resumeDomain, .destroyDomain, .domainInfo,
   .saveDomain, .restoreDomain, .domainXml, .listDefinedDomains, .countDefinedDomains,
   .startDomain, .defineDomain, .undefineDomain, .countNetworks, .listNetworks,
   .countDefinedNetworks, .listDefinedNetworks, .networkByUuid, .networkByName, .createNetwork,
   .defineNetwork, .undefineNetwork, .startNetwork, .destroyNetwork, .networkXml, .networkBridge]

/-- The number that stands for the operation on the wire. -/
def tag (op : Operation) : UInt32 := UInt32.ofNat op.ctorIdx

/-- The operation a tag stands for. -/
def ofTag? (tag : UInt32) : Option Operation := all[tag.toNat]?

/-- The name used in messages and in the log. -/
def name : Operation → String
  | failure => "failure"
  | version => "get_version"
  | nodeInfo => "get_node_info"
  | listDomains => "list_domains"
  | countDomains => "num_domains"
  | createDomain => "domain_create"
  | domainById => "domain_lookup_by_id"
  | domainByUuid => "domain_lookup_by_uuid"
  | domainByName => "domain_lookup_by_name"
  | suspendDomain => "domain_suspend"
  | resumeDomain => "domain_resume"
  | destroyDomain => "domain_destroy"
  | domainInfo => "domain_get_info"
  | saveDomain => "domain_save"
  | restoreDomain => "domain_restore"
  | domainXml => "dump_xml"
  | listDefinedDomains => "list_defined_domains"
  | countDefinedDomains => "num_defined_domains"
  | startDomain => "domain_start"
  | defineDomain => "domain_define"
  | undefineDomain => "domain_undefine"
  | countNetworks => "num_networks"
  | listNetworks => "list_networks"
  | countDefinedNetworks => "num_defined_networks"
  | listDefinedNetworks => "list_defined_networks"
  | networkByUuid => "network_lookup_by_uuid"
  | networkByName => "network_lookup_by_name"
  | createNetwork => "network_create"
  | defineNetwork => "network_define"
  | undefineNetwork => "network_undefine"
  | startNetwork => "network_start"
  | destroyNetwork => "network_destroy"
  | networkXml => "network_dump_xml"
  | networkBridge => "network_get_bridge_name"

/-- The operation with the given name. -/
def ofName? (s : String) : Option Operation := all.find? (·.name == s)

theorem all_length : all.length = 34 := rfl

theorem toNat_tag (op : Operation) : op.tag.toNat = op.ctorIdx := by cases op <;> rfl

@[simp] theorem ofTag?_tag (op : Operation) : ofTag? op.tag = some op := by cases op <;> rfl

theorem tag_injective {a b : Operation} (h : a.tag = b.tag) : a = b :=
  Option.some.inj (by rw [← ofTag?_tag a, h, ofTag?_tag b])

/-- A tag is unknown exactly from 34 on. -/
theorem ofTag?_eq_none_iff {t : UInt32} : ofTag? t = none ↔ 34 ≤ t.toNat := by
  simp [ofTag?, all_length]

theorem ofTag?_eq_some_iff {t : UInt32} {op : Operation} : ofTag? t = some op ↔ t = op.tag := by
  constructor
  · intro h
    have lt : t.toNat < 34 := by
      rcases Nat.lt_or_ge t.toNat 34 with lt | ge
      · exact lt
      · rw [ofTag?_eq_none_iff.2 ge] at h
        cases h
    have at_index : ∀ n, (hn : n < 34) → all[n]? = some op → n = op.ctorIdx := by
      intro n hn
      have : ∀ m : Fin 34, all[m.val]? = some op → m.val = op.ctorIdx := by
        cases op <;> decide
      exact this ⟨n, hn⟩
    apply UInt32.toNat_inj.1
    rw [toNat_tag]
    exact at_index _ lt h
  · rintro rfl
    exact ofTag?_tag op

end Operation

end Supervisor.Wire

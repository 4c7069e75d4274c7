import Supervisor.Wire.Frame

/-!
# Requests

A request is an operation with its arguments. Which fields the arguments take is a property of the
operation.

## Main definitions

* `Operation.arguments` - the fields of an operation's request
* `Request` - what a client asks for
* `Request.operation`, `Request.values`, `Request.ofValues?` - a request in parts and back
* `Request.encode` - the frame of a request
-/

namespace Supervisor.Wire

/-- The field of a descriptor. -/
abbrev Field.descriptor : Field := .text "descriptor" descriptorCapacity

/-- The field of a domain's or network's name. -/
abbrev Field.name : Field := .text "name" nameCapacity

/-- The field of a path. -/
abbrev Field.file : Field := .text "file" pathCapacity

/-- The fields of an operation's request. -/
@[reducible] def Operation.arguments : Operation → List Field
  | .failure | .version | .nodeInfo | .listDomains | .countDomains | .listDefinedDomains
  | .countDefinedDomains | .countNetworks | .listNetworks | .countDefinedNetworks
  | .listDefinedNetworks => []
  | .createDomain | .defineDomain | .createNetwork | .defineNetwork => [.descriptor]
  | .domainById | .suspendDomain | .resumeDomain | .destroyDomain => [.int32]
  | .domainByName | .networkByName => [.name]
  | .domainByUuid | .domainInfo | .domainXml | .startDomain | .undefineDomain | .networkByUuid
  | .undefineNetwork | .startNetwork | .destroyNetwork | .networkXml | .networkBridge => [.uuid]
  | .saveDomain => [.int32, .file]
  | .restoreDomain => [.file]

/-- What a client asks for. -/
inductive Request where
  | version
  | nodeInfo
  | listDomains
  | countDomains
  | createDomain (descriptor : String)
  | domainById (id : Int32)
  | domainByUuid (uuid : Uuid)
  | domainByName (name : String)
  | suspendDomain (id : Int32)
  | resumeDomain (id : Int32)
  | destroyDomain (id : Int32)
  | domainInfo (uuid : Uuid)
  | saveDomain (id : Int32) (file : String)
  | restoreDomain (file : String)
  | domainXml (uuid : Uuid)
  | listDefinedDomains
  | countDefinedDomains
  | startDomain (uuid : Uuid)
  | defineDomain (descriptor : String)
  | undefineDomain (uuid : Uuid)
  | countNetworks
  | listNetworks
  | countDefinedNetworks
  | listDefinedNetworks
  | networkByUuid (uuid : Uuid)
  | networkByName (name : String)
  | createNetwork (descriptor : String)
  | defineNetwork (descriptor : String)
  | undefineNetwork (uuid : Uuid)
  | startNetwork (uuid : Uuid)
  | destroyNetwork (uuid : Uuid)
  | networkXml (uuid : Uuid)
  | networkBridge (uuid : Uuid)
  deriving DecidableEq

namespace Request

/-- The operation that is asked for. -/
def operation : Request → Operation
  | version => .version
  | nodeInfo => .nodeInfo
  | listDomains => .listDomains
  | countDomains => .countDomains
  | createDomain _ => .createDomain
  | domainById _ => .domainById
  | domainByUuid _ => .domainByUuid
  | domainByName _ => .domainByName
  | suspendDomain _ => .suspendDomain
  | resumeDomain _ => .resumeDomain
  | destroyDomain _ => .destroyDomain
  | domainInfo _ => .domainInfo
  | saveDomain _ _ => .saveDomain
  | restoreDomain _ => .restoreDomain
  | domainXml _ => .domainXml
  | listDefinedDomains => .listDefinedDomains
  | countDefinedDomains => .countDefinedDomains
  | startDomain _ => .startDomain
  | defineDomain _ => .defineDomain
  | undefineDomain _ => .undefineDomain
  | countNetworks => .countNetworks
  | listNetworks => .listNetworks
  | countDefinedNetworks => .countDefinedNetworks
  | listDefinedNetworks => .listDefinedNetworks
  | networkByUuid _ => .networkByUuid
  | networkByName _ => .networkByName
  | createNetwork _ => .createNetwork
  | defineNetwork _ => .defineNetwork
  | undefineNetwork _ => .undefineNetwork
  | startNetwork _ => .startNetwork
  | destroyNetwork _ => .destroyNetwork
  | networkXml _ => .networkXml
  | networkBridge _ => .networkBridge

/-- The arguments, in the order of the operation's fields. -/
def values : (r : Request) → Record r.operation.arguments
  | version | nodeInfo | listDomains | countDomains | listDefinedDomains | countDefinedDomains
  | countNetworks | listNetworks | countDefinedNetworks | listDefinedNetworks => ()
  | createDomain s | defineDomain s | createNetwork s | defineNetwork s => (s, ())
  | domainById id | suspendDomain id | resumeDomain id | destroyDomain id => (id, ())
  | domainByName s | networkByName s | restoreDomain s => (s, ())
  | domainByUuid u | domainInfo u | domainXml u | startDomain u | undefineDomain u
  | networkByUuid u | undefineNetwork u | startNetwork u | destroyNetwork u | networkXml u
  | networkBridge u => (u, ())
  | saveDomain id s => (id, s, ())

/-- The request with the given arguments. Nobody asks for a failure. -/
def ofValues? : (op : Operation) → Record op.arguments → Option Request
  | .failure, _ => none
  | .version, _ => some version
  | .nodeInfo, _ => some nodeInfo
  | .listDomains, _ => some listDomains
  | .countDomains, _ => some countDomains
  | .createDomain, (s, _) => some (createDomain s)
  | .domainById, (id, _) => some (domainById id)
  | .domainByUuid, (u, _) => some (domainByUuid u)
  | .domainByName, (s, _) => some (domainByName s)
  | .suspendDomain, (id, _) => some (suspendDomain id)
  | .resumeDomain, (id, _) => some (resumeDomain id)
  | .destroyDomain, (id, _) => some (destroyDomain id)
  | .domainInfo, (u, _) => some (domainInfo u)
  | .saveDomain, (id, s, _) => some (saveDomain id s)
  | .restoreDomain, (s, _) => some (restoreDomain s)
  | .domainXml, (u, _) => some (domainXml u)
  | .listDefinedDomains, _ => some listDefinedDomains
  | .countDefinedDomains, _ => some countDefinedDomains
  | .startDomain, (u, _) => some (startDomain u)
  | .defineDomain, (s, _) => some (defineDomain s)
  | .undefineDomain, (u, _) => some (undefineDomain u)
  | .countNetworks, _ => some countNetworks
  | .listNetworks, _ => some listNetworks
  | .countDefinedNetworks, _ => some countDefinedNetworks
  | .listDefinedNetworks, _ => some listDefinedNetworks
  | .networkByUuid, (u, _) => some (networkByUuid u)
  | .networkByName, (s, _) => some (networkByName s)
  | .createNetwork, (s, _) => some (createNetwork s)
  | .defineNetwork, (s, _) => some (defineNetwork s)
  | .undefineNetwork, (u, _) => some (undefineNetwork u)
  | .startNetwork, (u, _) => some (startNetwork u)
  | .destroyNetwork, (u, _) => some (destroyNetwork u)
  | .networkXml, (u, _) => some (networkXml u)
  | .networkBridge, (u, _) => some (networkBridge u)

theorem ofValues?_values (r : Request) : ofValues? r.operation r.values = some r := by
  cases r <;> rfl

theorem operation_of_ofValues? {op : Operation} {vs : Record op.arguments} {r : Request}
    (h : ofValues? op vs = some r) : r.operation = op := by
  cases op <;> cases h <;> rfl

theorem ofValues?_eq_none_iff {op : Operation} {vs : Record op.arguments} :
    ofValues? op vs = none ↔ op = .failure := by
  cases op <;> simp [ofValues?]

/-- The frame of a request. A text that does not fit its field is refused here, before anything is
sent. -/
def encode (r : Request) : Except Error Frame := do
  Frame.ofWriter r.operation (← Writer.empty.putAll r.operation r.operation.arguments r.values)

end Request

end Supervisor.Wire

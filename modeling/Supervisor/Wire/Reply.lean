import Supervisor.Wire.Frame

/-!
# Replies

Several operations share the structure of their replies, so replies are distinguished by what they
hold; the tag of a frame says which operation it answers and thereby which structure it has.

## Main definitions

* `Failure`, `NodeInfo`, `DomainInfo` - compound answers
* `Reply` - what the daemon answers
* `Reply.Kind`, `Operation.answers` - the structures of replies, and which one answers an operation
* `Reply.encode` - the frame of a reply
-/

namespace Supervisor.Wire

/-- Why the daemon could not do what was asked: its own code and, unless empty, a message. -/
structure Failure where
  code : Int32
  message : Option String
  deriving DecidableEq, Repr

/-- What the host can do. -/
structure NodeInfo where
  model : String
  /-- Memory in kilobytes. -/
  memory : UInt32
  cpus : UInt32
  /-- Processor frequency in MHz. -/
  mhz : UInt32
  nodes : UInt32
  /-- Sockets of a node. -/
  sockets : UInt32
  /-- Cores of a socket. -/
  cores : UInt32
  /-- Threads of a core. -/
  threads : UInt32
  deriving DecidableEq, Repr

/-- What a domain is doing, as sent by the daemon. -/
structure DomainInfo where
  /-- Processor time used, in nanoseconds. -/
  cpuTime : UInt64
  /-- The state as a number. -/
  runState : Int32
  /-- Memory in kilobytes. -/
  memory : UInt32
  /-- Most memory it may have, in kilobytes. -/
  maxMemory : UInt32
  virtCpus : UInt32
  deriving DecidableEq, Repr

/-- What the daemon answers. -/
inductive Reply where
  | failure (failure : Failure)
  | empty
  | version (value : Int32)
  | nodeInfo (info : NodeInfo)
  | count (value : Int32)
  | ids (ids : List Int32)
  | names (names : List String)
  | created (id : Int32) (uuid : Uuid) (name : String)
  | identity (uuid : Uuid) (name : String)
  | idName (id : Int32) (name : String)
  | idUuid (id : Int32) (uuid : Uuid)
  | id (value : Int32)
  | domainInfo (info : DomainInfo)
  | xml (text : String)
  | name (text : String)
  | uuid (value : Uuid)
  | interface (text : String)
  deriving DecidableEq

namespace Reply

/-- The structures of replies. A listing of names carries the words that call it by name. -/
inductive Kind where
  | failure
  | empty
  | version
  | nodeInfo
  | count
  | ids
  | names (label : String)
  | created
  | identity
  | idName
  | idUuid
  | id
  | domainInfo
  | xml
  | name
  | uuid
  | interface
  deriving DecidableEq, Repr

/-- The field of an object's name. -/
abbrev nameField : Field := .text "name" nameCapacity

/-- The fields of a reply. -/
@[reducible] def Kind.layout : Kind → Layout
  | failure => .record [.int32, .text "message" messageCapacity]
  | empty => .record []
  | version | count | id => .record [.int32]
  | nodeInfo => .record [.text "model" modelCapacity, .word32, .word32, .word32, .word32, .word32,
      .word32, .word32]
  | ids => .listing "domain ids" .int32
  | names label => .listing label nameField
  | created => .record [.int32, .uuid, nameField]
  | identity => .record [.uuid, nameField]
  | idName => .record [.int32, nameField]
  | idUuid => .record [.int32, .uuid]
  | domainInfo => .record [.word64, .int32, .word32, .word32, .word32]
  | xml => .record [.text "descriptor" descriptorCapacity]
  | name => .record [nameField]
  | uuid => .record [.uuid]
  | interface => .record [.text "interface" interfaceCapacity]

/-- The structure of a reply. -/
def kind : Reply → Kind
  | .failure _ => .failure
  | .empty => .empty
  | .version _ => .version
  | .nodeInfo _ => .nodeInfo
  | .count _ => .count
  | .ids _ => .ids
  | .names _ => .names "names"
  | .created _ _ _ => .created
  | .identity _ _ => .identity
  | .idName _ _ => .idName
  | .idUuid _ _ => .idUuid
  | .id _ => .id
  | .domainInfo _ => .domainInfo
  | .xml _ => .xml
  | .name _ => .name
  | .uuid _ => .uuid
  | .interface _ => .interface

/-- What a reply holds, in the order of its fields. An absent message is an empty one. -/
def value : (r : Reply) → r.kind.layout.Value
  | .failure f => (f.code, f.message.getD "", ())
  | .empty => ()
  | .version n | .count n | .id n => (n, ())
  | .nodeInfo i =>
    (i.model, i.memory, i.cpus, i.mhz, i.nodes, i.sockets, i.cores, i.threads, ())
  | .ids entries => entries
  | .names entries => entries
  | .created n u s => (n, u, s, ())
  | .identity u s => (u, s, ())
  | .idName n s => (n, s, ())
  | .idUuid n u => (n, u, ())
  | .domainInfo i => (i.cpuTime, i.runState, i.memory, i.maxMemory, i.virtCpus, ())
  | .xml s | .name s | .interface s => (s, ())
  | .uuid u => (u, ())

/-- The reply that holds the given values. An empty message is none. -/
def ofValue : (k : Kind) → k.layout.Value → Reply
  | .failure, (code, message, _) => .failure ⟨code, if message = "" then none else some message⟩
  | .empty, _ => .empty
  | .version, (n, _) => .version n
  | .nodeInfo, (model, memory, cpus, mhz, nodes, sockets, cores, threads, _) =>
    .nodeInfo ⟨model, memory, cpus, mhz, nodes, sockets, cores, threads⟩
  | .count, (n, _) => .count n
  | .ids, entries => .ids entries
  | .names _, entries => .names entries
  | .created, (n, u, s, _) => .created n u s
  | .identity, (u, s, _) => .identity u s
  | .idName, (n, s, _) => .idName n s
  | .idUuid, (n, u, _) => .idUuid n u
  | .id, (n, _) => .id n
  | .domainInfo, (cpuTime, runState, memory, maxMemory, virtCpus, _) =>
    .domainInfo ⟨cpuTime, runState, memory, maxMemory, virtCpus⟩
  | .xml, (s, _) => .xml s
  | .name, (s, _) => .name s
  | .uuid, (u, _) => .uuid u
  | .interface, (s, _) => .interface s

/-- The frame that answers `op`. Any reply can be sent as the answer to any operation. -/
def encode (op : Operation) (r : Reply) : Except Error Frame := do
  Frame.ofWriter op (← r.kind.layout.write op r.value)

end Reply

/-- The structure of the reply to an operation. -/
@[reducible] def Operation.answers : Operation → Reply.Kind
  | .failure => .failure
  | .version => .version
  | .nodeInfo => .nodeInfo
  | .listDomains => .ids
  | .countDomains | .countDefinedDomains | .countNetworks | .countDefinedNetworks => .count
  | .createDomain => .created
  | .domainById | .defineDomain | .createNetwork | .defineNetwork => .identity
  | .domainByUuid => .idName
  | .domainByName => .idUuid
  | .suspendDomain | .resumeDomain | .destroyDomain | .saveDomain | .undefineDomain
  | .undefineNetwork | .startNetwork | .destroyNetwork => .empty
  | .domainInfo => .domainInfo
  | .restoreDomain | .startDomain => .id
  | .domainXml | .networkXml => .xml
  | .listDefinedDomains => .names "defined domains"
  | .listNetworks => .names "networks"
  | .listDefinedNetworks => .names "defined networks"
  | .networkByUuid => .name
  | .networkByName => .uuid
  | .networkBridge => .interface

end Supervisor.Wire

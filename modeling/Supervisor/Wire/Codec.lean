import Supervisor.Wire.Reply
import Supervisor.Wire.Request

/-!
# Reading requests and replies

How a payload is read depends on the tag of its frame. A table has one row for each tag, which says
how a request with that tag is read and how a reply is. Its rows say for themselves which fields
there are: writing and reading share nothing but the kinds of fields.

## Main definitions

* `Reading` - the structure of a payload, and what is made of its content
* `Codec`, `Codec.all`, `Codec.ofTag?` - the rows of the table, in the order of their tags
* `Request.decode`, `Reply.decode` - the request or the reply in a frame
-/

namespace Supervisor.Wire

/-- The structure of a payload, and what is made of its content. -/
structure Reading (α : Type) where
  layout : Layout
  make : layout.Value → α

namespace Reading

variable {α : Type}

/-- Reads a payload. -/
def run (r : Reading α) (op : Operation) (payload : List UInt8) : Except Error α :=
  r.make <$> r.layout.read op payload

/-- Nothing is read. -/
def nothing (a : α) : Reading α := ⟨.record [], fun _ => a⟩

def int32 (make : Int32 → α) : Reading α := ⟨.record [.int32], fun (n, _) => make n⟩

def uuid (make : Uuid → α) : Reading α := ⟨.record [.uuid], fun (u, _) => make u⟩

def text (label : String) (capacity : Nat) (make : String → α) : Reading α :=
  ⟨.record [.text label capacity], fun (s, _) => make s⟩

def descriptor (make : String → α) : Reading α := text "descriptor" descriptorCapacity make

def name (make : String → α) : Reading α := text "name" nameCapacity make

end Reading

namespace Reply

/-! How replies are read, one for each structure. -/

def readFailure : Reading Reply :=
  ⟨.record [.int32, .text "message" messageCapacity], fun (code, message, _) =>
    .failure ⟨code, if message = "" then none else some message⟩⟩

def readNodeInfo : Reading Reply :=
  ⟨.record [.text "model" modelCapacity, .word32, .word32, .word32, .word32, .word32, .word32,
      .word32], fun (model, memory, cpus, mhz, nodes, sockets, cores, threads, _) =>
    .nodeInfo { model, memory, cpus, mhz, nodes, sockets, cores, threads }⟩

def readIds : Reading Reply := ⟨.listing "domain ids" .int32, .ids⟩

def readNames (label : String) : Reading Reply :=
  ⟨.listing label (.text "name" nameCapacity), .names⟩

def readCreated : Reading Reply :=
  ⟨.record [.int32, .uuid, .text "name" nameCapacity], fun (n, u, s, _) => .created n u s⟩

def readIdentity : Reading Reply :=
  ⟨.record [.uuid, .text "name" nameCapacity], fun (u, s, _) => .identity u s⟩

def readIdName : Reading Reply :=
  ⟨.record [.int32, .text "name" nameCapacity], fun (n, s, _) => .idName n s⟩

def readIdUuid : Reading Reply := ⟨.record [.int32, .uuid], fun (n, u, _) => .idUuid n u⟩

def readDomainInfo : Reading Reply :=
  ⟨.record [.word64, .int32, .word32, .word32, .word32],
    fun (cpuTime, runState, memory, maxMemory, virtCpus, _) =>
      .domainInfo { cpuTime, runState, memory, maxMemory, virtCpus }⟩

end Reply

/-- A row of the table: an operation, how a request for it is read, and how a reply to it is. Nobody
asks for a failure. -/
structure Codec where
  operation : Operation
  request : Option (Reading Request)
  reply : Reading Reply

namespace Codec

open Wire.Reading Reply

/-- The table, in the order of the tags. -/
def all : List Codec :=
  [⟨.failure, none, readFailure⟩,
   ⟨.version, some (nothing .version), int32 .version⟩,
   ⟨.nodeInfo, some (nothing .nodeInfo), readNodeInfo⟩,
   ⟨.listDomains, some (nothing .listDomains), readIds⟩,
   ⟨.countDomains, some (nothing .countDomains), int32 .count⟩,
   ⟨.createDomain, some (descriptor .createDomain), readCreated⟩,
   ⟨.domainById, some (int32 .domainById), readIdentity⟩,
   ⟨.domainByUuid, some (uuid .domainByUuid), readIdName⟩,
   ⟨.domainByName, some (name .domainByName), readIdUuid⟩,
   ⟨.suspendDomain, some (int32 .suspendDomain), nothing .empty⟩,
   ⟨.resumeDomain, some (int32 .resumeDomain), nothing .empty⟩,
   ⟨.destroyDomain, some (int32 .destroyDomain), nothing .empty⟩,
   ⟨.domainInfo, some (uuid .domainInfo), readDomainInfo⟩,
   ⟨.saveDomain,
    some ⟨.record [.int32, .text "file" pathCapacity], fun (n, s, _) => .saveDomain n s⟩,
    nothing .empty⟩,
   ⟨.restoreDomain, some (text "file" pathCapacity .restoreDomain), int32 .id⟩,
   ⟨.domainXml, some (uuid .domainXml), descriptor .xml⟩,
   ⟨.listDefinedDomains, some (nothing .listDefinedDomains), readNames "defined domains"⟩,
   ⟨.countDefinedDomains, some (nothing .countDefinedDomains), int32 .count⟩,
   ⟨.startDomain, some (uuid .startDomain), int32 .id⟩,
   ⟨.defineDomain, some (descriptor .defineDomain), readIdentity⟩,
   ⟨.undefineDomain, some (uuid .undefineDomain), nothing .empty⟩,
   ⟨.countNetworks, some (nothing .countNetworks), int32 .count⟩,
   ⟨.listNetworks, some (nothing .listNetworks), readNames "networks"⟩,
   ⟨.countDefinedNetworks, some (nothing .countDefinedNetworks), int32 .count⟩,
   ⟨.listDefinedNetworks, some (nothing .listDefinedNetworks), readNames "defined networks"⟩,
   ⟨.networkByUuid, some (uuid .networkByUuid), name .name⟩,
   ⟨.networkByName, some (name .networkByName), uuid .uuid⟩,
   ⟨.createNetwork, some (descriptor .createNetwork), readIdentity⟩,
   ⟨.defineNetwork, some (descriptor .defineNetwork), readIdentity⟩,
   ⟨.undefineNetwork, some (uuid .undefineNetwork), nothing .empty⟩,
   ⟨.startNetwork, some (uuid .startNetwork), nothing .empty⟩,
   ⟨.destroyNetwork, some (uuid .destroyNetwork), nothing .empty⟩,
   ⟨.networkXml, some (uuid .networkXml), descriptor .xml⟩,
   ⟨.networkBridge, some (uuid .networkBridge), text "interface" interfaceCapacity .interface⟩]

/-- The row for a tag. -/
def ofTag? (tag : UInt32) : Option Codec := all[tag.toNat]?

end Codec

/-- The request in a frame, as the daemon reads it. -/
def Request.decode (f : Frame) : Except Error Request :=
  match Codec.ofTag? f.header.tag with
  | none => .error (.unknownOperation f.header.tag)
  | some row =>
    match row.request with
    | none => .error (.unknownOperation Operation.failure.tag)
    | some reading => reading.run row.operation f.payload

/-- The reply in a frame, read with the structure that the frame's tag stands for. -/
def Reply.decode (f : Frame) : Except Error Reply :=
  match Codec.ofTag? f.header.tag with
  | none => .error (.unknownOperation f.header.tag)
  | some row => row.reply.run row.operation f.payload

end Supervisor.Wire

import Supervisor.Handle
import Supervisor.Json

/-!
# Results of commands

A command has one result, which is shown as aligned text or as a JSON document in one line.

## Main definitions

* `Outcome` - the result of a command
* `Outcome.toJson` - the result as a value
* `Outcome.human` - the result as aligned text
* `OutputFormat.resolve`, `Outcome.render`
-/

namespace Supervisor

open Wire (NodeInfo)

/-- The form of output that is asked for. -/
inductive OutputFormat where
  /-- Text on a terminal and JSON elsewhere. -/
  | auto
  | human
  | json
  deriving DecidableEq, Repr

/-- The form of output that is used. -/
inductive OutputForm where
  | human
  | json
  deriving DecidableEq, Repr

namespace OutputFormat

/-- The name by which a form is asked for. -/
def name : OutputFormat → String
  | auto => "auto"
  | human => "human"
  | json => "json"

/-- All forms that can be asked for. -/
def all : List OutputFormat := [auto, human, json]

/-- The form with the given name. -/
def ofName? (s : String) : Option OutputFormat := all.find? (·.name = s)

/-- The form that is used. -/
def resolve (terminal : Bool) : OutputFormat → OutputForm
  | auto => if terminal then .human else .json
  | human => .human
  | json => .json

end OutputFormat

/-- A domain as it is shown. -/
structure DomainRow where
  name : String
  uuid : String
  id : Option Int32
  deriving DecidableEq, Repr

/-- A network as it is shown. -/
structure NetworkRow where
  name : String
  uuid : String
  deriving DecidableEq, Repr

/-- The row of a domain. -/
def Domain.row (d : Domain) : DomainRow := ⟨d.name, d.uuid.toText, d.id?⟩

/-- The row of a network. -/
def Network.row (n : Network) : NetworkRow := ⟨n.name, n.uuid.toText⟩

/-- The status of a domain as it is shown. -/
structure StatusSheet where
  name : String
  state : String
  maxMemory : UInt32
  memory : UInt32
  virtCpus : UInt32
  cpuTime : UInt64
  deriving DecidableEq, Repr

/-- The status of a domain under its name. -/
def DomainStatus.sheet (name : String) (s : DomainStatus) : StatusSheet :=
  ⟨name, s.state.display, s.maxMemory, s.memory, s.virtCpus, s.cpuTime⟩

/-- The result of a command. -/
inductive Outcome where
  | version (version : Int32)
  | node (info : NodeInfo)
  | domains (rows : List DomainRow)
  | networks (rows : List NetworkRow)
  /-- Something was done to a domain. -/
  | domain (action : String) (row : DomainRow)
  /-- Something was done to a network. -/
  | network (action : String) (row : NetworkRow)
  | status (sheet : StatusSheet)
  | document (text : String)
  | bridge (network interface : String)
  deriving DecidableEq, Repr

/-- The value for a row. An absent number is `null`. -/
def DomainRow.toJson (r : DomainRow) : Json :=
  .object [("name", .string r.name), ("uuid", .string r.uuid),
    ("id", match r.id with
      | some n => .number n.toInt
      | none => .null)]

/-- The value for a row. -/
def NetworkRow.toJson (r : NetworkRow) : Json :=
  .object [("name", .string r.name), ("uuid", .string r.uuid)]

namespace Outcome

/-- The word that tells results apart. -/
def kind : Outcome → String
  | version _ => "version"
  | node _ => "node"
  | domains _ => "domains"
  | networks _ => "networks"
  | domain _ _ => "domain"
  | network _ _ => "network"
  | status _ => "status"
  | document _ => "document"
  | bridge _ _ => "bridge"

/-- What a result holds, by name. -/
def members : Outcome → List (String × Json)
  | version n => [("version", .number n.toInt)]
  | node i =>
    [("model", .string i.model), ("memory_kib", .number i.memory.toNat),
     ("cpus", .number i.cpus.toNat), ("mhz", .number i.mhz.toNat),
     ("nodes", .number i.nodes.toNat), ("sockets", .number i.sockets.toNat),
     ("cores", .number i.cores.toNat), ("threads", .number i.threads.toNat)]
  | domains rows => [("domains", .array (rows.map DomainRow.toJson))]
  | networks rows => [("networks", .array (rows.map NetworkRow.toJson))]
  | domain action row => [("action", .string action), ("domain", row.toJson)]
  | network action row => [("action", .string action), ("network", row.toJson)]
  | status s =>
    [("name", .string s.name), ("state", .string s.state),
     ("max_memory_kib", .number s.maxMemory.toNat), ("memory_kib", .number s.memory.toNat),
     ("virt_cpus", .number s.virtCpus.toNat), ("cpu_time_ns", .number s.cpuTime.toNat)]
  | document text => [("document", .string text)]
  | bridge name interface => [("network", .string name), ("interface", .string interface)]

/-- The result as a value, which starts with its kind. -/
def toJson (o : Outcome) : Json := .object (("kind", .string o.kind) :: o.members)

/-- A text filled up with spaces behind it to `width` characters. -/
def padRight (width : Nat) (s : String) : String :=
  s ++ String.ofList (List.replicate (width - s.length) ' ')

/-- A text filled up with spaces before it to `width` characters. -/
def padLeft (width : Nat) (s : String) : String :=
  String.ofList (List.replicate (width - s.length) ' ') ++ s

/-- A label and what belongs to it. -/
def labelled (label value : String) : String := padRight 16 label ++ value

/-- A version packed as `major * 1000000 + minor * 1000 + release`. Each part of a negative number
is negative or zero. -/
def versionText (n : Int) : String :=
  let major := n.tdiv 1000000
  let minor := (n.tmod 1000000).tdiv 1000
  let release := n.tmod 1000
  s!"Hypervisor version: {major}.{minor}.{release}"

/-- The columns of a listing of domains. -/
def domainColumns (id name uuid : String) : String :=
  padLeft 5 id ++ "  " ++ padRight 20 name ++ "  " ++ uuid

/-- The columns of a listing of networks. -/
def networkColumns (name uuid : String) : String := padRight 20 name ++ "  " ++ uuid

/-- The lines of a result for people. -/
def humanLines : Outcome → List String
  | version n => [versionText n.toInt]
  | node i =>
    [labelled "CPU model:" i.model, labelled "CPU(s):" (toString i.cpus),
     labelled "CPU frequency:" s!"{i.mhz} MHz", labelled "NUMA cell(s):" (toString i.nodes),
     labelled "Socket(s):" (toString i.sockets), labelled "Core(s):" (toString i.cores),
     labelled "Thread(s):" (toString i.threads), labelled "Memory:" s!"{i.memory} KiB"]
  | domains rows =>
    domainColumns "ID" "NAME" "UUID" :: rows.map fun r =>
      domainColumns ((r.id.map fun n => toString n.toInt).getD "-") r.name r.uuid
  | networks rows => networkColumns "NAME" "UUID" :: rows.map fun r => networkColumns r.name r.uuid
  | domain action row => [s!"Domain {row.name} {action}"]
  | network action row => [s!"Network {row.name} {action}"]
  | status s =>
    [labelled "Name:" s.name, labelled "State:" s.state,
     labelled "CPU(s):" (toString s.virtCpus), labelled "CPU time:" s!"{s.cpuTime} ns",
     labelled "Max memory:" s!"{s.maxMemory} KiB", labelled "Used memory:" s!"{s.memory} KiB"]
  | document text => [text]
  | bridge _ interface => [interface]

/-- The result as text for people. -/
def human (o : Outcome) : String := String.join (o.humanLines.map (· ++ "\n"))

/-- What is written for a result. -/
def render (form : OutputForm) (o : Outcome) : String :=
  match form with
  | .human => o.human
  | .json => o.toJson.compact ++ "\n"

end Outcome

end Supervisor

/-!
# Commands

A command is given by a word and, depending on the word, names and files that follow it.

## Main definitions

* `Command` - what the client is told to do
* `Shape` - what follows the word of a command
* `Verb` - the word of a command and what it means
* `Verb.all` - all of them, in the order in which they are listed
-/

namespace Supervisor

/-- What the client is told to do. -/
inductive Command where
  | version
  | nodeInfo
  | listDomains (all : Bool)
  | createDomain (file : String)
  | defineDomain (file : String)
  | undefineDomain (name : String)
  | startDomain (name : String)
  | suspendDomain (name : String)
  | resumeDomain (name : String)
  | shutdownDomain (name : String)
  | destroyDomain (name : String)
  | domainStatus (name : String)
  | domainXml (name : String)
  | saveDomain (name file : String)
  | restoreDomain (file : String)
  | listNetworks (all : Bool)
  | createNetwork (file : String)
  | defineNetwork (file : String)
  | undefineNetwork (name : String)
  | startNetwork (name : String)
  | destroyNetwork (name : String)
  | networkXml (name : String)
  | networkBridge (name : String)
  deriving DecidableEq, Repr

/-- Whether a command is about networks. -/
def Command.isForNetworks : Command → Bool
  | .listNetworks _ | .createNetwork _ | .defineNetwork _ | .undefineNetwork _ | .startNetwork _
  | .destroyNetwork _ | .networkXml _ | .networkBridge _ => true
  | _ => false

/-- The descriptor that a command reads. -/
def Command.descriptor? : Command → Option String
  | .createDomain file | .defineDomain file | .createNetwork file | .defineNetwork file => some file
  | _ => none

/-- What follows a command in a fixed place. -/
inductive Operand where
  | name
  | file
  deriving DecidableEq, Repr

/-- How an operand is shown. -/
def Operand.display : Operand → String
  | name => "<NAME>"
  | file => "<FILE>"

/-- What follows the word of a command. -/
inductive Shape where
  | nothing
  /-- The option to list everything. -/
  | listing
  | name
  | file
  | nameAndFile
  deriving DecidableEq, Repr

namespace Shape

/-- The operands of a command, in their order. -/
def operands : Shape → List Operand
  | nothing | listing => []
  | name => [.name]
  | file => [.file]
  | nameAndFile => [.name, .file]

/-- What a command takes. -/
abbrev Arguments : Shape → Type
  | nothing => Unit
  | listing => Bool
  | name | file => String
  | nameAndFile => String × String

/-- What a command takes, given its operands and whether everything is to be listed. -/
def arguments? : (s : Shape) → List String → Bool → Option s.Arguments
  | nothing, [], _ => some ()
  | listing, [], all => some all
  | name, [a], _ => some a
  | file, [a], _ => some a
  | nameAndFile, [a, b], _ => some (a, b)
  | _, _, _ => none

end Shape

/-- The word of a command, what it does in a few words, what follows it, and the command. -/
structure Verb where
  word : String
  about : String
  shape : Shape
  command : shape.Arguments → Command

namespace Verb

/-- All commands, in the order in which they are listed. -/
def all : List Verb :=
  [⟨"version", "Prints the supervisor version", .nothing, fun _ => .version⟩,
   ⟨"nodeinfo", "Prints the host node summary", .nothing, fun _ => .nodeInfo⟩,
   ⟨"list", "Lists running domains", .listing, .listDomains⟩,
   ⟨"create", "Creates and starts a transient domain", .file, .createDomain⟩,
   ⟨"define", "Defines a persistent domain without starting it", .file, .defineDomain⟩,
   ⟨"undefine", "Removes a domain definition", .name, .undefineDomain⟩,
   ⟨"start", "Starts a defined domain", .name, .startDomain⟩,
   ⟨"suspend", "Pauses a running domain", .name, .suspendDomain⟩,
   ⟨"resume", "Resumes a paused domain", .name, .resumeDomain⟩,
   ⟨"shutdown", "Stops a running domain", .name, .shutdownDomain⟩,
   ⟨"destroy", "Forcibly stops a running domain", .name, .destroyDomain⟩,
   ⟨"dominfo", "Prints the run state of a domain", .name, .domainStatus⟩,
   ⟨"dumpxml", "Prints a domain descriptor", .name, .domainXml⟩,
   ⟨"save", "Saves a running domain to a file", .nameAndFile, fun (n, f) => .saveDomain n f⟩,
   ⟨"restore", "Restores a domain from a saved file", .file, .restoreDomain⟩,
   ⟨"net-list", "Lists active networks", .listing, .listNetworks⟩,
   ⟨"net-create", "Creates and starts a transient network", .file, .createNetwork⟩,
   ⟨"net-define", "Defines a persistent network without starting it", .file, .defineNetwork⟩,
   ⟨"net-undefine", "Removes a network definition", .name, .undefineNetwork⟩,
   ⟨"net-start", "Starts a defined network", .name, .startNetwork⟩,
   ⟨"net-destroy", "Stops an active network", .name, .destroyNetwork⟩,
   ⟨"net-dumpxml", "Prints a network descriptor", .name, .networkXml⟩,
   ⟨"net-bridge", "Prints the bridge interface backing a network", .name, .networkBridge⟩]

/-- The command with the given word. -/
def ofWord? (word : String) : Option Verb := all.find? (·.word = word)

end Verb

end Supervisor

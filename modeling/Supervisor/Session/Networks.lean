import Supervisor.Session.Basic

/-!
# Operations on networks

Networks are treated like domains, except that a listing fails if it has more entries than the
caller can take.
-/

namespace Supervisor.Session

open Wire

variable {σ : Type} [Peer σ]

/-- Gives out a handle. -/
def adoptNetwork (name : String) (uuid : Uuid) : Action σ Network :=
  reported none fun s =>
    match s.networks.acquire uuid name with
    | .ok (_, networks) => (.ok ⟨name, uuid⟩, { s with networks })
    | .error e => (.error (.handles e), s)

/-- Takes a handle back. -/
def releaseNetwork (n : Network) : Action σ Unit :=
  reported (some n.name) fun s =>
    match s.networks.release n.uuid with
    | .ok (_, networks) => (.ok (), { s with networks })
    | .error e => (.error (.handles e), s)

/-- How many networks are active. -/
def countNetworks : Action σ Nat := countObjects .countNetworks "networks"

/-- How many networks are defined but not active. -/
def countDefinedNetworks : Action σ Nat := countObjects .countDefinedNetworks "defined networks"

/-- A listing that has to fit the caller's capacity. -/
def boundedNames (r : Request) (what : String) (capacity : Nat) : Action σ (List String) :=
  reported none do
    let names ← request r Reply.names?
    if capacity < names.length then refuse (.capacityExceeded what names.length capacity)
    else return names

/-- The names of the active networks. -/
def listNetworks (capacity : Nat) : Action σ (List String) :=
  boundedNames .listNetworks "networks" capacity

/-- The names of the defined networks. -/
def listDefinedNetworks (capacity : Nat) : Action σ (List String) :=
  boundedNames .listDefinedNetworks "defined networks" capacity

/-- Finds a network by its identifier. -/
def networkByUuid (uuid : Uuid) : Action σ Network := do
  let name ← dispatch (.networkByUuid uuid) none fun
    | .name s => some s
    | _ => none
  adoptNetwork name uuid

/-- Finds a network by its name. -/
def networkByName (name : String) : Action σ Network := do
  let uuid ← dispatch (.networkByName name) (some name) fun
    | .uuid u => some u
    | _ => none
  adoptNetwork name uuid

/-- Creates a network and starts it. -/
def createNetwork (descriptor : String) : Action σ Network := do
  let (uuid, name) ← dispatch (.createNetwork descriptor) none Reply.identity?
  adoptNetwork name uuid

/-- Defines a network without starting it. -/
def defineNetwork (descriptor : String) : Action σ Network := do
  let (uuid, name) ← dispatch (.defineNetwork descriptor) none Reply.identity?
  adoptNetwork name uuid

/-- Starts a defined network. -/
def startNetwork (n : Network) : Action σ Unit :=
  dispatch (.startNetwork n.uuid) (some n.name) Reply.empty?

/-- Stops an active network. -/
def destroyNetwork (n : Network) : Action σ Unit :=
  dispatch (.destroyNetwork n.uuid) (some n.name) Reply.empty?

/-- The descriptor of a network. -/
def networkXml (n : Network) : Action σ String :=
  dispatch (.networkXml n.uuid) (some n.name) Reply.xml?

/-- The bridge interface behind a network. -/
def networkBridge (n : Network) : Action σ String :=
  dispatch (.networkBridge n.uuid) (some n.name) fun
    | .interface s => some s
    | _ => none

/-- Removes the definition of a network and takes the handle back. The handle stays if the daemon
refuses. -/
def undefineNetwork (n : Network) : Action σ Unit := do
  dispatch (.undefineNetwork n.uuid) (some n.name) Reply.empty?
  releaseNetwork n

end Supervisor.Session

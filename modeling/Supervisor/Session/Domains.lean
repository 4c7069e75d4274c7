import Supervisor.Session.Basic

/-!
# Operations on domains

A domain that the daemon creates, defines or finds becomes a handle of the session. Listings are
cut to what the caller can take. Saving and restoring are not offered.
-/

namespace Supervisor.Session

open Wire

variable {σ : Type} [Peer σ]

/-- Gives out a handle. -/
def adoptDomain (name : String) (uuid : Uuid) (id : Int32) : Action σ Domain :=
  reported none fun s =>
    match s.domains.acquire uuid name with
    | .ok (_, domains) => (.ok ⟨name, uuid, id⟩, { s with domains })
    | .error e => (.error (.handles e), s)

/-- Takes a handle back. -/
def releaseDomain (d : Domain) : Action σ Unit :=
  reported (some d.name) fun s =>
    match s.domains.release d.uuid with
    | .ok (_, domains) => (.ok (), { s with domains })
    | .error e => (.error (.handles e), s)

/-- The version of the daemon. -/
def version : Action σ Int32 :=
  dispatch .version none fun
    | .version n => some n
    | _ => none

/-- What the host can do. -/
def nodeInfo : Action σ NodeInfo :=
  dispatch .nodeInfo none fun
    | .nodeInfo info => some info
    | _ => none

/-- How many domains are running. -/
def countDomains : Action σ Nat := countObjects .countDomains "domains"

/-- How many domains are defined but not running. -/
def countDefinedDomains : Action σ Nat := countObjects .countDefinedDomains "defined domains"

/-- The numbers of the running domains, at most `capacity`. -/
def listDomains (capacity : Nat) : Action σ (List Int32) := do
  let ids ← dispatch .listDomains none fun
    | .ids entries => some entries
    | _ => none
  return ids.take capacity

/-- The names of the defined domains, at most `capacity`. -/
def listDefinedDomains (capacity : Nat) : Action σ (List String) := do
  let names ← dispatch .listDefinedDomains none Reply.names?
  return names.take capacity

/-- Creates a domain and starts it. -/
def createDomain (descriptor : String) : Action σ Domain := do
  let (id, uuid, name) ← dispatch (.createDomain descriptor) none fun
    | .created n u s => some (n, u, s)
    | _ => none
  adoptDomain name uuid id

/-- Defines a domain without starting it. -/
def defineDomain (descriptor : String) : Action σ Domain := do
  let (uuid, name) ← dispatch (.defineDomain descriptor) none Reply.identity?
  adoptDomain name uuid notRunning

/-- Finds a domain by its number. -/
def domainById (id : Int32) : Action σ Domain := do
  let (uuid, name) ← dispatch (.domainById id) none Reply.identity?
  adoptDomain name uuid id

/-- Finds a domain by its identifier. -/
def domainByUuid (uuid : Uuid) : Action σ Domain := do
  let (id, name) ← dispatch (.domainByUuid uuid) none fun
    | .idName n s => some (n, s)
    | _ => none
  adoptDomain name uuid id

/-- Finds a domain by its name. -/
def domainByName (name : String) : Action σ Domain := do
  let (id, uuid) ← dispatch (.domainByName name) (some name) fun
    | .idUuid n u => some (n, u)
    | _ => none
  adoptDomain name uuid id

/-- Pauses a domain. -/
def suspendDomain (d : Domain) : Action σ Unit :=
  dispatch (.suspendDomain d.runtimeId) (some d.name) Reply.empty?

/-- Lets a paused domain go on. -/
def resumeDomain (d : Domain) : Action σ Unit :=
  dispatch (.resumeDomain d.runtimeId) (some d.name) Reply.empty?

/-- Stops a domain at once. -/
def destroyDomain (d : Domain) : Action σ Unit :=
  dispatch (.destroyDomain d.runtimeId) (some d.name) Reply.empty?

/-- Stops a domain. The daemon knows no gentle way. -/
def shutdownDomain (d : Domain) : Action σ Unit := destroyDomain d

/-- What a domain is doing. -/
def domainStatus (d : Domain) : Action σ DomainStatus :=
  reported (some d.name) do
    let info ← request (.domainInfo d.uuid) fun
      | .domainInfo i => some i
      | _ => none
    fun s => (DomainStatus.ofInfo info, s)

/-- The descriptor of a domain. -/
def domainXml (d : Domain) : Action σ String :=
  dispatch (.domainXml d.uuid) (some d.name) Reply.xml?

/-- Saving a domain is not offered. -/
def saveDomain (d : Domain) (_file : String) : Action σ Unit :=
  reported (some d.name) (refuse (.unsupported "save"))

/-- Restoring a domain is not offered. -/
def restoreDomain (_file : String) : Action σ Domain :=
  reported none (refuse (.unsupported "restore"))

/-- Starts a defined domain. The caller's handle comes back whether that succeeds or not, and if it
does, with the number that the domain runs under. -/
def startDomain (d : Domain) : Session σ → (Except CallError Unit × Domain) × Session σ := fun s =>
  let started : Action σ Int32 := dispatch (.startDomain d.uuid) (some d.name) fun
    | .id n => some n
    | _ => none
  match started s with
  | (.ok id, s) => ((.ok (), { d with runtimeId := id }), s)
  | (.error e, s) => ((.error e, d), s)

/-- Starts a defined domain for the handle that comes back. -/
def started (d : Domain) : Action σ Domain := fun s =>
  match startDomain d s with
  | ((.ok (), d), s) => (.ok d, s)
  | ((.error e, _), s) => (.error e, s)

/-- Removes the definition of a domain and takes the handle back. The handle stays if the daemon
refuses. -/
def undefineDomain (d : Domain) : Action σ Unit := do
  dispatch (.undefineDomain d.uuid) (some d.name) Reply.empty?
  releaseDomain d

end Supervisor.Session

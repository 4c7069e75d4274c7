import Supervisor.CommandLine.Command
import Supervisor.CommandLine.Outcome
import Supervisor.Diagnostics
import Supervisor.Session.Domains
import Supervisor.Session.Networks

/-!
# Carrying out commands

Most commands find a domain or network by its name and then do one thing to it.

## Main definitions

* `RunError` - why a command line was not carried out
* `Session.execute` - carries out a command
* `Session.domainRows`, `Session.networkRows` - complete listings
-/

namespace Supervisor

/-- Why a command line that was understood was not carried out. -/
inductive RunError where
  | log (error : Diagnostics.Error)
  | call (error : CallError)
  /-- A descriptor could not be read. -/
  | descriptor (path : String) (fault : Fault)
  /-- The result could not be written. -/
  | output (fault : Fault)
  deriving DecidableEq

/-- What the user is told. -/
def RunError.message : RunError → String
  | log e => e.message
  | call e => e.message
  | descriptor path fault => s!"failed to read descriptor {path}: {fault.message}"
  | output fault => s!"failed to write output: {fault.message}"

/-- The bytes of the file at a path. -/
abbrev Files : Type := String → Except Fault (List UInt8)

/-- A descriptor, which has to be a text. -/
def Files.descriptor (files : Files) (path : String) : Except RunError String :=
  match files path with
  | .error fault => .error (.descriptor path fault)
  | .ok bytes =>
    match Text.ofUtf8? bytes with
    | some text => .ok text
    | none => .error (.descriptor path .notText)

namespace Session

variable {σ : Type} [Peer σ]

/-- The rows of the running domains, in the order of their listing, and behind them those of the
defined ones if all are wanted. -/
def domainRows (all : Bool) : Action σ (List DomainRow) := do
  let ids ← listDomains (← countDomains)
  let running ← ids.mapM fun id => Domain.row <$> domainById id
  if all then
    let names ← listDefinedDomains (← countDefinedDomains)
    let defined ← names.mapM fun name => Domain.row <$> domainByName name
    return running ++ defined
  else return running

/-- The rows of the active networks, in the order of their listing, and behind them those of the
defined ones if all are wanted. Both listings are asked for before any network is looked up. -/
def networkRows (all : Bool) : Action σ (List NetworkRow) := do
  let active ← listNetworks (← countNetworks)
  let defined ← if all then listDefinedNetworks (← countDefinedNetworks) else pure []
  (active ++ defined).mapM fun name => Network.row <$> networkByName name

/-- Finds a domain, does something to it, and says so. -/
def onDomain (name action : String) (act : Domain → Action σ Unit) : Action σ Outcome := do
  let d ← domainByName name
  act d
  return .domain action d.row

/-- Finds a network, does something to it, and says so. -/
def onNetwork (name action : String) (act : Network → Action σ Unit) : Action σ Outcome := do
  let n ← networkByName name
  act n
  return .network action n.row

/-- An action that needs a descriptor. Without one the daemon is not asked. -/
def withDescriptor (files : Files) (path : String) (act : String → Action σ Outcome) :
    ExceptT RunError (StateM (Session σ)) Outcome := fun s =>
  match files.descriptor path with
  | .error e => (.error e, s)
  | .ok text =>
    let (outcome, s) := act text s
    (outcome.mapError .call, s)

/-- Carries out a command. -/
def execute (files : Files) (command : Command) :
    ExceptT RunError (StateM (Session σ)) Outcome :=
  match command with
  | .version => call do return .version (← version)
  | .nodeInfo => call do return .node (← nodeInfo)
  | .listDomains all => call do return .domains (← domainRows all)
  | .createDomain file => withDescriptor files file fun text => do
    return .domain "created" (← createDomain text).row
  | .defineDomain file => withDescriptor files file fun text => do
    return .domain "defined" (← defineDomain text).row
  | .undefineDomain name => call (onDomain name "undefined" undefineDomain)
  | .startDomain name => call do
    let d ← started (← domainByName name)
    return .domain "started" d.row
  | .suspendDomain name => call (onDomain name "suspended" suspendDomain)
  | .resumeDomain name => call (onDomain name "resumed" resumeDomain)
  | .shutdownDomain name => call (onDomain name "is being shut down" shutdownDomain)
  | .destroyDomain name => call (onDomain name "destroyed" destroyDomain)
  | .domainStatus name => call do
    let d ← domainByName name
    return .status ((← domainStatus d).sheet d.name)
  | .domainXml name => call do return .document (← domainXml (← domainByName name))
  | .saveDomain name file => call (onDomain name "saved" (saveDomain · file))
  | .restoreDomain file => call do return .domain "restored" (← restoreDomain file).row
  | .listNetworks all => call do return .networks (← networkRows all)
  | .createNetwork file => withDescriptor files file fun text => do
    return .network "created" (← createNetwork text).row
  | .defineNetwork file => withDescriptor files file fun text => do
    return .network "defined" (← defineNetwork text).row
  | .undefineNetwork name => call (onNetwork name "undefined" undefineNetwork)
  | .startNetwork name => call (onNetwork name "started" startNetwork)
  | .destroyNetwork name => call (onNetwork name "destroyed" destroyNetwork)
  | .networkXml name => call do return .document (← networkXml (← networkByName name))
  | .networkBridge name => call do return .bridge name (← networkBridge (← networkByName name))
where
  /-- An action whose failure ends the command. -/
  call (act : Action σ Outcome) : ExceptT RunError (StateM (Session σ)) Outcome := fun s =>
    let (outcome, s) := act s
    (outcome.mapError .call, s)

end Session

end Supervisor

import Supervisor.Session.Domains
import Supervisor.Session.Networks

/-!
# Calls as data

A run of a session is a sequence of calls. To speak about all runs, the calls are listed here with
their arguments, and so are the values they give.

## Main definitions

* `Call`, `Call.Value` - every operation with its arguments, and the results
* `Session.perform` - carries out a call
* `Session.performAll` - carries out calls one after another
-/

namespace Supervisor

open Wire

/-- Every operation of a session, with its arguments. -/
inductive Call where
  | version
  | nodeInfo
  | countDomains
  | countDefinedDomains
  | listDomains (capacity : Nat)
  | listDefinedDomains (capacity : Nat)
  | createDomain (descriptor : String)
  | defineDomain (descriptor : String)
  | domainById (id : Int32)
  | domainByUuid (uuid : Uuid)
  | domainByName (name : String)
  | suspendDomain (domain : Domain)
  | resumeDomain (domain : Domain)
  | shutdownDomain (domain : Domain)
  | destroyDomain (domain : Domain)
  | domainStatus (domain : Domain)
  | domainXml (domain : Domain)
  | saveDomain (domain : Domain) (file : String)
  | restoreDomain (file : String)
  | startDomain (domain : Domain)
  | undefineDomain (domain : Domain)
  | releaseDomain (domain : Domain)
  | countNetworks
  | countDefinedNetworks
  | listNetworks (capacity : Nat)
  | listDefinedNetworks (capacity : Nat)
  | createNetwork (descriptor : String)
  | defineNetwork (descriptor : String)
  | networkByUuid (uuid : Uuid)
  | networkByName (name : String)
  | startNetwork (network : Network)
  | destroyNetwork (network : Network)
  | networkXml (network : Network)
  | networkBridge (network : Network)
  | undefineNetwork (network : Network)
  | releaseNetwork (network : Network)
  | close
  deriving DecidableEq

/-- What a call gives. -/
inductive Call.Value where
  | done
  | version (n : Int32)
  | nodeInfo (info : NodeInfo)
  | count (n : Nat)
  | ids (ids : List Int32)
  | names (names : List String)
  | domain (domain : Domain)
  | network (network : Network)
  | status (status : DomainStatus)
  | text (text : String)
  deriving DecidableEq

namespace Session

variable {σ : Type} [Peer σ]

/-- Carries out a call. -/
def perform : Call → Action σ Call.Value
  | .version => .version <$> version
  | .nodeInfo => .nodeInfo <$> nodeInfo
  | .countDomains => .count <$> countDomains
  | .countDefinedDomains => .count <$> countDefinedDomains
  | .listDomains capacity => .ids <$> listDomains capacity
  | .listDefinedDomains capacity => .names <$> listDefinedDomains capacity
  | .createDomain descriptor => .domain <$> createDomain descriptor
  | .defineDomain descriptor => .domain <$> defineDomain descriptor
  | .domainById id => .domain <$> domainById id
  | .domainByUuid uuid => .domain <$> domainByUuid uuid
  | .domainByName name => .domain <$> domainByName name
  | .suspendDomain d => (fun _ => .done) <$> suspendDomain d
  | .resumeDomain d => (fun _ => .done) <$> resumeDomain d
  | .shutdownDomain d => (fun _ => .done) <$> shutdownDomain d
  | .destroyDomain d => (fun _ => .done) <$> destroyDomain d
  | .domainStatus d => .status <$> domainStatus d
  | .domainXml d => .text <$> domainXml d
  | .saveDomain d file => (fun _ => .done) <$> saveDomain d file
  | .restoreDomain file => .domain <$> restoreDomain file
  | .startDomain d => .domain <$> started d
  | .undefineDomain d => (fun _ => .done) <$> undefineDomain d
  | .releaseDomain d => (fun _ => .done) <$> releaseDomain d
  | .countNetworks => .count <$> countNetworks
  | .countDefinedNetworks => .count <$> countDefinedNetworks
  | .listNetworks capacity => .names <$> listNetworks capacity
  | .listDefinedNetworks capacity => .names <$> listDefinedNetworks capacity
  | .createNetwork descriptor => .network <$> createNetwork descriptor
  | .defineNetwork descriptor => .network <$> defineNetwork descriptor
  | .networkByUuid uuid => .network <$> networkByUuid uuid
  | .networkByName name => .network <$> networkByName name
  | .startNetwork n => (fun _ => .done) <$> startNetwork n
  | .destroyNetwork n => (fun _ => .done) <$> destroyNetwork n
  | .networkXml n => .text <$> networkXml n
  | .networkBridge n => .text <$> networkBridge n
  | .undefineNetwork n => (fun _ => .done) <$> undefineNetwork n
  | .releaseNetwork n => (fun _ => .done) <$> releaseNetwork n
  | .close => fun s => (.ok .done, s.close)

/-- Carries out calls one after another, failed or not. -/
def performAll (s : Session σ) : List Call → List (Except CallError Call.Value) × Session σ
  | [] => ([], s)
  | c :: cs =>
    let (outcome, s) := perform c s
    let (outcomes, s) := performAll s cs
    (outcome :: outcomes, s)

end Session

end Supervisor

import Supervisor.CallError

/-!
# Domains and networks

## Main definitions

* `Domain`, `Network` - handles of a client for what the daemon manages
* `RunState`, `DomainState` - what a domain is doing, as sent and as shown
* `DomainStatus.ofInfo` - what is known about a running domain
-/

namespace Supervisor

open Wire (DomainInfo)

/-- The number of a domain that is not running. -/
def notRunning : Int32 := -1

/-- A domain, known by name and identifier. -/
structure Domain where
  name : String
  uuid : Uuid
  /-- Its number while it is running. -/
  runtimeId : Int32
  deriving DecidableEq

namespace Domain

/-- The number of the domain if it is running. -/
def id? (d : Domain) : Option Int32 := if d.runtimeId = notRunning then none else some d.runtimeId

/-- How the domain appears in messages. -/
def display (d : Domain) : String := s!"{d.name} ({d.uuid})"

end Domain

/-- A network, known by name and identifier. -/
structure Network where
  name : String
  uuid : Uuid
  deriving DecidableEq

/-- How a network appears in messages. -/
def Network.display (n : Network) : String := s!"{n.name} ({n.uuid})"

/-- The states that the daemon reports. -/
inductive RunState where
  | running
  | paused
  | stopped
  deriving DecidableEq, Repr

namespace RunState

/-- The state that a number stands for. -/
def ofNumber? (n : Int32) : Option RunState :=
  if n = 1 then some running else if n = 2 then some paused else if n = 3 then some stopped
  else none

/-- The number that stands for a state. -/
def number : RunState → Int32
  | running => 1
  | paused => 2
  | stopped => 3

end RunState

/-- The states of domains in general, of which the daemon reports three. -/
inductive DomainState where
  | unknown
  | running
  | blocked
  | paused
  | inShutdown
  | shutOff
  | crashed
  deriving DecidableEq, Repr

namespace DomainState

/-- All states, in their usual order. -/
def all : List DomainState := [unknown, running, blocked, paused, inShutdown, shutOff, crashed]

/-- The words for a state. -/
def display : DomainState → String
  | unknown => "no state"
  | running => "running"
  | blocked => "blocked"
  | paused => "paused"
  | inShutdown => "in shutdown"
  | shutOff => "shut off"
  | crashed => "crashed"

/-- The general state for a reported one. -/
def ofRunState : RunState → DomainState
  | .running => running
  | .paused => paused
  | .stopped => shutOff

end DomainState

/-- What is known about a domain at run time. -/
structure DomainStatus where
  state : DomainState
  /-- Most memory it may have, in kilobytes. -/
  maxMemory : UInt32
  /-- Memory in kilobytes. -/
  memory : UInt32
  virtCpus : UInt32
  /-- Processor time used, in nanoseconds. -/
  cpuTime : UInt64
  deriving DecidableEq, Repr

/-- The status that the daemon sent, unless its state is unknown. -/
def DomainStatus.ofInfo (info : DomainInfo) : Except CallError DomainStatus :=
  match RunState.ofNumber? info.runState with
  | some s =>
    .ok ⟨.ofRunState s, info.maxMemory, info.memory, info.virtCpus, info.cpuTime⟩
  | none => .error (.unknownRunState info.runState)

end Supervisor

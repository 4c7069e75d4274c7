import Supervisor.Duration
import Supervisor.Endpoint.Address
import Supervisor.Fault
import Supervisor.Launch

/-!
# Connecting, and starting the daemon on demand

If nobody listens at an address, the daemon is started and the connection is tried again, a limited
number of times. After every start the client waits, each time longer.

## Main definitions

* `Retry`, `Retry.backoff` - how often the daemon is started, and the waits between
* `Connect.Step` - what connecting does
* `Connect.run` - the outcome, the steps taken, and entries in the log
-/

namespace Supervisor

/-- How often the daemon is started at most, and the unit of the waits. -/
structure Retry where
  launches : UInt32
  baseDelay : Duration
  deriving DecidableEq, Repr

namespace Retry

/-- Three starts, and waits in units of five milliseconds. -/
def default : Retry := ⟨3, .ofMillis 5⟩

/-- The square of a number of starts, as far as it fits 32 bits. -/
def square (attempt : UInt32) : Nat := min (attempt.toNat * attempt.toNat) 4294967295

/-- The wait after the given start: the unit times the square of its number. -/
def backoff (r : Retry) (attempt : UInt32) : Duration := r.baseDelay.mul (square attempt)

/-- How the limits appear in the log. -/
def describe (r : Retry) : String :=
  "RetryPolicy \x7b launches: " ++ toString r.launches ++ ", base_delay: " ++
    r.baseDelay.describe ++ " \x7d"

end Retry

namespace Connect

/-- Why there is no connection. -/
inductive Error where
  /-- Nobody listens, also after the daemon was started. -/
  | unreachable (address : Address) (attempts : Nat) (fault : Fault)
  /-- The daemon could not be started. -/
  | launch (error : Launch.Error)
  deriving DecidableEq, Repr

/-- What the user is told. -/
def Error.message : Error → String
  | unreachable address attempts fault =>
    s!"failed to connect to {address.display} after {attempts} attempt(s): {fault.message}"
  | launch error => s!"failed to start the supervisor daemon: {error.message}"

/-- What connecting does. -/
inductive Step where
  | dial
  | launch
  | wait (time : Duration)
  deriving DecidableEq, Repr

/-- The outcome of connecting, the steps taken, and entries in the log. -/
structure Journey (α : Type) where
  outcome : Except Error α
  steps : List Step
  events : List Event

/-- How many times the daemon was started. -/
def Journey.launches {α : Type} (j : Journey α) : Nat := j.steps.count .launch

/-- A journey with something done before it. -/
def Journey.after {α : Type} (steps : List Step) (events : List Event) (j : Journey α) : Journey α :=
  { j with steps := steps ++ j.steps, events := events ++ j.events }

/-- An entry in the log. -/
def logEntry (level : Event.Level) (address : Address) (message : String)
    (fields : List (String × String)) : Event :=
  { level, source := .transport, message, fields := ("address", address.display) :: fields }

variable {α : Type}

/-- Tries to connect after `launches` starts; `left` more are allowed. `dial n` is what comes of the
attempt after `n` starts, `launch n` what comes of the start after `n` others. -/
def attempt (address : Address) (policy : Retry) (dial : Nat → Except Fault α)
    (launch : Nat → Launch.Outcome) : (left launches : Nat) → Journey α
  | left, launches =>
    match dial launches with
    | .ok stream =>
      ⟨.ok stream, [.dial], [logEntry .debug address "connected to supervisor daemon"
        [("launches", toString launches)]]⟩
    | .error fault =>
      match left with
      | 0 =>
        ⟨.error (.unreachable address (launches + 1) fault), [.dial],
          [logEntry .warn address "giving up on supervisor daemon" [("error", fault.message)]]⟩
      | left + 1 =>
        let tried := logEntry .debug address "daemon not reachable; starting it"
          [("error", fault.message)]
        match launch launches with
        | (.error e, events) => ⟨.error (.launch e), [.dial, .launch], tried :: events⟩
        | (.ok _, events) =>
          (attempt address policy dial launch left (launches + 1)).after
            [.dial, .launch, .wait (policy.backoff (UInt32.ofNat (launches + 1)))]
            (tried :: events)
  termination_by structural left => left

/-- Connects to an address. Without a launcher there is one attempt. -/
def run (address : Address) (policy : Retry) (dial : Nat → Except Fault α)
    (launcher : Option (Nat → Launch.Outcome)) : Journey α :=
  match launcher with
  | some launch => attempt address policy dial launch policy.launches.toNat 0
  | none => attempt address policy dial (fun _ => (.error (.notFound []), [])) 0 0

end Connect

end Supervisor

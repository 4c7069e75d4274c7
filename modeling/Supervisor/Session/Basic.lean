import Supervisor.Endpoint.Selector
import Supervisor.Exchange
import Supervisor.Handle

/-!
# Sessions

A session is a connection to a daemon together with the handles it gave out. Every operation is
one request and its reply; each failure is reported once. A failed transfer and a malformed reply
end the connection for good, since the stream is then at an unknown place.

## Main definitions

* `Session` - the connection, the handles, and what was reported and logged
* `Action` - a step of a session that may fail
* `Session.request` - one request, and what is wanted of its reply
* `Session.reported` - an action whose failure is reported
* `Session.close`
-/

namespace Supervisor

open Wire

/-- A connection to a daemon and the handles that were given out. -/
structure Session (σ : Type) where
  stream : Stream σ
  connected : Bool
  address : Address
  access : Access
  sink : Sink
  domains : HandleTable
  networks : HandleTable
  journal : Journal

/-- A step of a session that may fail. What the session has become is known in any case. -/
abbrev Action (σ α : Type) : Type := ExceptT CallError (StateM (Session σ)) α

namespace Session

variable {σ α : Type}

/-- A session over a fresh connection. -/
def start (stream : Stream σ) (address : Address) (access : Access) (sink : Sink)
    (journal : Journal) : Session σ :=
  { stream, connected := true, address, access, sink, domains := .empty .domain,
    networks := .empty .network, journal }

/-- Adds an entry to the log. -/
def note (s : Session σ) (e : Event) : Session σ := { s with journal := s.journal.note e }

/-- Adds entries to the log. -/
def noteAll (s : Session σ) (es : List Event) : Session σ := es.foldl note s

/-- Reports a failure. -/
def report (s : Session σ) (e : CallError) (object : Option String) : Session σ :=
  { s with journal := s.journal.add s.sink (e.report object) }

/-- Gives up the connection because of a failure. -/
def discard (s : Session σ) (op : Operation) (e : CallError) : Session σ :=
  { s.note { level := .warn, source := .dispatch,
             message := "discarding broken supervisor connection",
             fields := [("operation", op.name), ("error", e.message)] } with connected := false }

/-- Ends the connection. Ending it again does nothing. -/
def close (s : Session σ) : Session σ :=
  if s.connected then
    { s.note { level := .debug, source := .dispatch, message := "closed supervisor connection",
               fields := [("address", s.address.display)] } with connected := false }
  else s

/-- How a session appears in the log. -/
def describe (s : Session σ) : String :=
  "QemuSession \x7b address: SocketAddress \x7b raw: " ++ Text.quoted s.address.text ++
    " \x7d, access: " ++ s.access.describe ++ ", connected: " ++ toString s.connected ++ ", .. \x7d"

/-- What a failed exchange means for a call. -/
def exchangeFailure (op : Operation) : Exchange.Error → CallError
  | .send fault | .receive fault => .transport op.name fault
  | .malformed e => .malformed e
  | .remote failure => .remote failure
  | .unexpectedReply expected received => .unexpectedReply expected received

/-- The reply in the outcome of an exchange. -/
def replyOf (op : Operation) : Except Exchange.Error Frame → Except CallError Reply
  | .error e => .error (exchangeFailure op e)
  | .ok frame => (Reply.decode frame).mapError .malformed

/-- One request, and what is wanted of its reply. A request that does not fit the wire format is
refused before the connection is looked at. -/
def request [Peer σ] (r : Request) (project : Reply → Option α) : Action σ α := fun s =>
  match r.encode with
  | .error e => (.error (.rejected r.operation.name e), s)
  | .ok frame =>
    if s.connected then
      let s := s.note { level := .debug, source := .dispatch, message := "dispatching request",
                        fields := [("operation", r.operation.name)] }
      -- From here on the stream has moved, whatever comes of the exchange.
      let (outcome, stream, events) := Exchange.run s.stream frame
      let s := ({ s with stream } : Session σ).noteAll events
      match replyOf r.operation outcome with
      | .ok reply =>
        match project reply with
        | some a => (.ok a, s)
        | none => (.error (.unexpectedLayout r.operation.name), s)
      | .error e => (.error e, if e.breaksConnection then s.discard r.operation e else s)
    else (.error .notConnected, s)

/-- An action whose failure is reported, with the name of what it was about. -/
def reported (object : Option String) (action : Action σ α) : Action σ α := fun s =>
  match action s with
  | (.ok a, s) => (.ok a, s)
  | (.error e, s) => (.error e, s.report e object)

/-- One request whose failure is reported. -/
def dispatch [Peer σ] (r : Request) (object : Option String) (project : Reply → Option α) :
    Action σ α :=
  reported object (request r project)

/-- An action that fails without asking the daemon. -/
def refuse (e : CallError) : Action σ α := fun s => (.error e, s)

end Session

/-- What is wanted of a reply without content. -/
def Wire.Reply.empty? : Reply → Option Unit
  | .empty => some ()
  | _ => none

/-- What is wanted of a reply with a number of objects. -/
def Wire.Reply.count? : Reply → Option Int32
  | .count n => some n
  | _ => none

/-- What is wanted of a reply with names. -/
def Wire.Reply.names? : Reply → Option (List String)
  | .names entries => some entries
  | _ => none

/-- What is wanted of a reply with an identifier and a name. -/
def Wire.Reply.identity? : Reply → Option (Uuid × String)
  | .identity u s => some (u, s)
  | _ => none

/-- What is wanted of a reply with a descriptor. -/
def Wire.Reply.xml? : Reply → Option String
  | .xml s => some s
  | _ => none

namespace Session

variable {σ : Type}

/-- The largest number that counts objects in memory. -/
def largestCount : Nat := 18446744073709551615

/-- A number of objects, which must not be negative. -/
def checkCount (label : String) (n : Int32) : Except CallError Nat :=
  if 0 ≤ n.toInt then .ok n.toInt.toNat
  else .error (.malformed (.countOutOfRange label n largestCount))

/-- Asks how many objects of some kind there are. -/
def countObjects [Peer σ] (r : Request) (label : String) : Action σ Nat :=
  reported none do
    let n ← request r Reply.count?
    liftExcept (checkCount label n)
where
  /-- An outcome that does not depend on the session. -/
  liftExcept (x : Except CallError Nat) : Action σ Nat := fun s => (x, s)

end Session

end Supervisor

import Supervisor.Connect
import Supervisor.HandleTable
import Supervisor.Wire.Reply

/-!
# Failed calls

## Main definitions

* `CallError` - why a call failed
* `CallError.code` - the class of the failure
* `CallError.message` - what the user is told
* `CallError.breaksConnection`, `CallError.isUnrecognised`
-/

namespace Supervisor

/-- The class of a failure. -/
inductive ErrorCode where
  /-- Something that should not happen between this client and a daemon. -/
  | internal
  /-- The daemon failed, with a code of its own. -/
  | remote (code : Int32)
  | noSupport
  /-- The exchange broke off. -/
  | operationFailed
  | invalidArgument
  | noConnect
  deriving DecidableEq, Repr

/-- The name of a class. -/
def ErrorCode.message : ErrorCode → String
  | internal => "internal error"
  | remote code => s!"remote error {code.toInt}"
  | noSupport => "not supported"
  | operationFailed => "operation failed"
  | invalidArgument => "invalid argument"
  | noConnect => "no connection"

/-- Why a call failed. -/
inductive CallError where
  | endpoint (error : Endpoint.Error)
  | connect (error : Connect.Error)
  /-- The session has no connection any more. -/
  | notConnected
  /-- A transfer failed. -/
  | transport (operation : String) (fault : Fault)
  /-- An argument does not fit the wire format; nothing was sent. -/
  | rejected (operation : String) (error : Wire.Error)
  /-- A reply does not follow the wire format. -/
  | malformed (error : Wire.Error)
  /-- A reply belongs to another operation. -/
  | unexpectedReply (expected received : UInt32)
  /-- A reply holds something else than its operation answers. -/
  | unexpectedLayout (operation : String)
  /-- The daemon answered with a failure. -/
  | remote (failure : Wire.Failure)
  /-- The backend does not offer the operation. -/
  | unsupported (operation : String)
  /-- The daemon has more to list than the caller can take. -/
  | capacityExceeded (what : String) (count capacity : Nat)
  | unknownRunState (raw : Int32)
  | handles (error : HandleTable.Error)
  /-- No backend has the scheme of the identifier. -/
  | noDriver (uri : String)
  /-- Another backend has the name already. -/
  | duplicateDriver (name : String)
  deriving DecidableEq

namespace CallError

/-- What the user is told. -/
def message : CallError → String
  | endpoint error => error.message
  | connect error => s!"cannot open connection: {error.message}"
  | notConnected => "connection to the supervisor daemon is closed"
  | transport operation fault => s!"{operation} failed on a broken connection: {fault.message}"
  | rejected operation error => s!"{operation}: {error.message}"
  | malformed error => s!"Malformed data packet: {error.message}"
  | unexpectedReply expected received =>
    s!"Incorrect reply type: expected tag {expected}, received {received}"
  | unexpectedLayout operation => s!"Incorrect reply type for {operation}"
  | remote failure =>
    failure.message.getD s!"supervisor daemon reported error {failure.code.toInt}"
  | unsupported operation => s!"{operation} is not supported by the QEMU driver"
  | capacityExceeded what count capacity =>
    s!"daemon reported {count} {what} but only {capacity} fit"
  | unknownRunState raw => s!"daemon reported unknown run state {raw.toInt}"
  | handles error => error.message
  | noDriver uri => s!"no registered driver handles '{uri}'"
  | duplicateDriver name => s!"a driver named '{name}' is already registered"

/-- The class of a failure. -/
def code : CallError → ErrorCode
  | endpoint error => if error.isForeign then .noSupport else .noConnect
  | connect _ | notConnected => .noConnect
  | transport _ _ => .operationFailed
  | rejected _ _ | capacityExceeded _ _ _ => .invalidArgument
  | malformed _ | unexpectedReply _ _ | unexpectedLayout _ | unknownRunState _ | handles _ =>
    .internal
  | remote failure => .remote failure.code
  | unsupported _ | noDriver _ | duplicateDriver _ => .noSupport

/-- Whether the connection cannot be used any more. -/
def breaksConnection : CallError → Bool
  | transport _ _ | malformed _ => true
  | _ => false

/-- Whether the failure merely says that the identifier is not one of this backend. -/
def isUnrecognised : CallError → Bool
  | endpoint (.foreignScheme _) | endpoint (.parse _ _) => true
  | _ => false

end CallError

/-- A failure as it is reported to whoever uses a session. -/
structure Report where
  code : ErrorCode
  message : String
  /-- The name of the domain or network that the call was about. -/
  object : Option String
  deriving DecidableEq, Repr

/-- The report of a failure. -/
def CallError.report (e : CallError) (object : Option String) : Report :=
  ⟨e.code, e.message, object⟩

/-- The entry in the log that stands for a report. -/
def Report.logEntry (r : Report) : Event :=
  { level := .warn, source := .report, message := r.message,
    fields := [("code", r.code.message), ("object", r.object.getD "")] }

/-- Where reports go. -/
inductive Sink where
  /-- They are kept for whoever uses the session. -/
  | keep
  /-- They become entries in the log. -/
  | log
  deriving DecidableEq, Repr

/-- What was reported and what was logged, in order. -/
structure Journal where
  reports : List Report
  events : List Event
  deriving DecidableEq, Repr

namespace Journal

/-- Nothing yet. -/
def empty : Journal := ⟨[], []⟩

/-- Adds an entry to the log. -/
def note (j : Journal) (e : Event) : Journal := { j with events := j.events ++ [e] }

/-- Adds a report, or the entry that stands for it. -/
def add (j : Journal) (sink : Sink) (r : Report) : Journal :=
  match sink with
  | .keep => { j with reports := j.reports ++ [r] }
  | .log => j.note r.logEntry

end Journal

end Supervisor

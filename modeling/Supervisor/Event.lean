/-!
# The diagnostic log

## Main definitions

* `Event` - one entry of the log
* `Event.Level`, `Event.Source` - how important it is and which part wrote it
-/

namespace Supervisor

namespace Event

/-- How important an entry is. -/
inductive Level where
  | trace
  | debug
  | info
  | warn
  deriving DecidableEq, Repr

/-- The name of a level. -/
def Level.name : Level → String
  | trace => "TRACE"
  | debug => "DEBUG"
  | info => "INFO"
  | warn => "WARN"

/-- Which part of the client writes an entry. -/
inductive Source where
  | transport
  | launcher
  | protocol
  | dispatch
  | report
  deriving DecidableEq, Repr

/-- The name by which the entries of a part are selected. -/
def Source.name : Source → String
  | transport => "qemud-driver::transport"
  | launcher => "qemud-driver::launcher"
  | protocol => "qemud-driver::protocol"
  | dispatch => "qemud-driver::dispatch"
  | report => "qemud-driver::report"

end Event

/-- One entry of the diagnostic log: a text with named values. -/
structure Event where
  level : Event.Level
  source : Event.Source
  message : String
  fields : List (String × String)
  deriving DecidableEq, Repr

end Supervisor

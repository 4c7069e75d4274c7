import Supervisor.Text.Blank

/-!
# What is logged, and how

A run is told what to log by a filter, and in which form. What filters there are is a matter of the
library that writes the log: a run asks it to read its filter and then to take the log over.

## Main definitions

* `Diagnostics` - the filter and the form of the log
* `Diagnostics.resolve` - the settings with defaults for what is missing or blank
* `Diagnostics.Library` - the library that writes the log
* `Diagnostics.install` - sets the log up, or says why that cannot be done
-/

namespace Supervisor

/-- The form of log entries. -/
inductive LogFormat where
  /-- One object for each entry. -/
  | json
  /-- One line for each entry. -/
  | compact
  deriving DecidableEq, Repr

namespace LogFormat

/-- The name of a form. -/
def name : LogFormat → String
  | json => "json"
  | compact => "compact"

/-- The form with the given name, in any letter case. -/
def ofName? (s : String) : Option LogFormat := [json, compact].find? fun f => Text.equalFold f.name s

/-- What the user is told about a name that no form has. -/
def unknownMessage : String := "Matching variant not found"

end LogFormat

/-- The filter of the log and the form of its entries. -/
structure Diagnostics where
  filter : String
  format : LogFormat
  deriving DecidableEq, Repr

namespace Diagnostics

/-- The filter that is used if none is given. -/
def defaultFilter : String := "warn"

/-- The settings, with defaults for what is missing; a filter of white space counts as missing. -/
def resolve (filter : Option String) (format : Option LogFormat) : Diagnostics :=
  let given := Text.trim (filter.getD "")
  ⟨if given = "" then defaultFilter else given, format.getD .compact⟩

/-- The settings without any choice of the user. -/
def default : Diagnostics := resolve none none

/-- Why the log cannot be set up. -/
inductive Error where
  /-- The filter cannot be read. -/
  | filter (reason : String)
  /-- Somebody else has the log already. -/
  | taken (reason : String)
  deriving DecidableEq, Repr

/-- What the user is told. -/
def Error.message : Error → String
  | filter reason => s!"invalid log filter: {reason}"
  | taken reason => s!"failed to install telemetry subscriber: {reason}"

/-- The library that writes the log. A refusal comes with its reason. -/
structure Library where
  readFilter : String → Except String Unit
  takeOver : Except String Unit

/-- Sets the log up. -/
def install (l : Library) (d : Diagnostics) : Except Error Unit := do
  (l.readFilter d.filter).mapError .filter
  l.takeOver.mapError .taken

end Diagnostics

end Supervisor

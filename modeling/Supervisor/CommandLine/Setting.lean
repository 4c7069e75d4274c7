import Supervisor.CommandLine.Command
import Supervisor.CommandLine.Outcome
import Supervisor.Diagnostics

/-!
# Settings of a command line

A setting is written with two dashes and its name, some also with one dash and a letter. Settings
with a value may also come from the environment.

## Main definitions

* `Setting` - what can be set
* `Setting.display` - how a setting is called in messages
* `Setting.check` - the values that a setting takes
* `Level` - the part of a command line before the word of the command, or the part behind it
-/

namespace Supervisor

/-- What can be set on a command line. -/
inductive Setting where
  | uri
  | readOnly
  | logFilter
  | logFormat
  | output
  /-- Listings show everything. -/
  | all
  | help
  | version
  deriving DecidableEq, Repr

namespace Setting

/-- The name behind two dashes. -/
def name : Setting → String
  | uri => "uri"
  | readOnly => "readonly"
  | logFilter => "log-filter"
  | logFormat => "log-format"
  | output => "output"
  | all => "all"
  | help => "help"
  | version => "version"

/-- The letter behind one dash. -/
def letter? : Setting → Option Char
  | uri => some 'c'
  | help => some 'h'
  | version => some 'V'
  | _ => none

/-- What the value is called, for settings that take one. -/
def valueName? : Setting → Option String
  | uri => some "URI"
  | logFilter => some "LOG_FILTER"
  | logFormat => some "LOG_FORMAT"
  | output => some "OUTPUT"
  | _ => none

/-- Whether a value follows. -/
def takesValue (s : Setting) : Bool := s.valueName?.isSome

/-- How a setting is called in messages. -/
def display (s : Setting) : String :=
  match s.valueName? with
  | some value => s!"--{s.name} <{value}>"
  | none => s!"--{s.name}"

/-- The environment variable that gives the value if the command line does not. -/
def variableName? : Setting → Option String
  | uri => some "VIRQ_URI"
  | logFilter => some "VIRQ_LOG_FILTER"
  | logFormat => some "VIRQ_LOG_FORMAT"
  | _ => none

/-- The values to choose from, for settings with a fixed choice. -/
def choices : Setting → List String
  | output => OutputFormat.all.map OutputFormat.name
  | _ => []

/-- What a setting is for. -/
def about : Setting → String
  | uri => "Connection identifier: `qemu:///system` or `qemu:///session`"
  | readOnly => "Opens the connection read-only"
  | logFilter => "`tracing` filter directive for diagnostics on stderr"
  | logFormat => "Diagnostic format: `compact` or `json`"
  | output => "Controls how results are rendered"
  | all => "Includes defined but inactive objects"
  | help => "Print help"
  | version => "Print version"

end Setting

/-- A part of a command line: the one before the word of the command, or the one behind it. -/
abbrev Level := Option Verb

namespace Level

/-- The settings that can be given before the command as well as behind it. -/
def shared : List Setting := [.uri, .readOnly, .logFilter, .logFormat, .output]

/-- The settings that can be given in a part of the command line. -/
def settings : Level → List Setting
  | none => shared ++ [.help, .version]
  | some verb => (if verb.shape = .listing then [.all] else []) ++ shared ++ [.help]

/-- The operands of a part of the command line. -/
def operands : Level → List Operand
  | none => []
  | some verb => verb.shape.operands

end Level

/-- Why a command line cannot be understood. -/
inductive UsageError where
  | unexpectedArgument (argument : String)
  | unknownCommand (word : String)
  | missingCommand
  | missingOperands (operands : List Operand)
  | repeated (setting : Setting)
  /-- A setting or an operand, by its name in messages, lacks its value. -/
  | missingValue (what : String) (choices : List String)
  | unexpectedValue (value : String) (setting : Setting)
  | unknownChoice (value : String) (setting : Setting)
  | invalidValue (value : String) (setting : Setting) (reason : String)
  deriving DecidableEq, Repr

/-- Refuses a value that a setting does not take. -/
def Setting.check (s : Setting) (value : String) : Except UsageError Unit :=
  match s with
  | output =>
    if (OutputFormat.ofName? value).isSome then .ok ()
    else if value = "" then .error (.missingValue s.display s.choices)
    else .error (.unknownChoice value s)
  | logFormat =>
    if (LogFormat.ofName? value).isSome then .ok ()
    else .error (.invalidValue value s LogFormat.unknownMessage)
  | _ => .ok ()

end Supervisor

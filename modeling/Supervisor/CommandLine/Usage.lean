import Supervisor.CommandLine.Invocation
import Supervisor.Text.ControlSequence

/-!
# What the user is told about the command line

## Main definitions

* `UsageError.summary` - the mistake in one line
* `Stop.text`, `Stop.isMistake` - what is shown instead of carrying out a command, and where
-/

namespace Supervisor

/-- The name of the program. -/
def programName : String := "virq"

/-- The version of the program. -/
def programVersion : String := "0.1.0"

namespace UsageError

/-- What the user wrote, between quotation marks. A terminal does not obey it. -/
def echo (written : String) : String := s!"'{Text.withoutControls written}'"

/-- The mistake in one line. -/
def summary : UsageError → String
  | unexpectedArgument argument => s!"unexpected argument {echo argument} found"
  | unknownCommand word => s!"unrecognized subcommand {echo word}"
  | missingCommand => s!"'{programName}' requires a subcommand but one was not provided"
  | missingOperands _ => "the following required arguments were not provided:"
  | repeated s => s!"the argument '{s.display}' cannot be used multiple times"
  | missingValue what _ => s!"a value is required for '{what}' but none was supplied"
  | unexpectedValue value s =>
    s!"unexpected value {echo value} for '{s.display}' found; no more were expected"
  | unknownChoice value s => s!"invalid value {echo value} for '{s.display}'"
  | invalidValue value s reason => s!"invalid value {echo value} for '{s.display}': {reason}"

/-- The values to choose from, on a line of their own. -/
def choiceLine (choices : List String) : List String :=
  if choices = [] then [] else ["  [possible values: " ++ ", ".intercalate choices ++ "]"]

/-- Lines that follow the summary. -/
def details : UsageError → List String
  | missingCommand => ["  [subcommands: " ++ ", ".intercalate (Verb.all.map (·.word)) ++ "]"]
  | missingOperands operands => operands.map fun o => s!"  {o.display}"
  | missingValue _ choices => choiceLine choices
  | unknownChoice _ s => choiceLine s.choices
  | _ => []

/-- Whether it helps to show how the command line is put together. -/
def showsUsage : UsageError → Bool
  | missingValue _ _ | unknownChoice _ _ | invalidValue _ _ _ => false
  | _ => true

end UsageError

namespace Level

/-- How the command line is put together. -/
def usage : Level → String
  | none => s!"Usage: {programName} [OPTIONS] <COMMAND>"
  | some verb =>
    " ".intercalate
      ([s!"Usage: {programName} {verb.word} [OPTIONS]"] ++ verb.shape.operands.map (·.display))

/-- What the program or a command does. -/
def about : Level → String
  | none => "Manage QEMU domains and virtual networks through the supervisor daemon"
  | some verb => verb.about

/-- Two columns; the second one starts two spaces behind the longest entry of the first. -/
def columns (rows : List (String × String)) : List String :=
  let width := (rows.map (·.1.length)).foldl max 0
  rows.map fun (left, right) => "  " ++ Outcome.padRight (width + 2) left ++ right

/-- The row of a setting. -/
def settingRow (s : Setting) : String × String :=
  (match s.letter? with
    | some letter => s!"-{letter}, {s.display}"
    | none => s!"    {s.display}",
   s.about)

/-- How the program or a command is used. -/
def help (l : Level) : String :=
  let commands := match l with
    | none => ["Commands:"] ++ columns (Verb.all.map fun v => (v.word, v.about)) ++ [""]
    | some _ => []
  let operands := match l.operands with
    | [] => []
    | os => ["Arguments:"] ++ os.map (fun o => s!"  {o.display}") ++ [""]
  String.join (([l.about, "", l.usage, ""] ++ commands ++ operands ++ ["Options:"] ++
    columns (l.settings.map settingRow)).map (· ++ "\n"))

end Level

namespace Stop

/-- Whether the user made a mistake, which is told apart from an answer to a question. -/
def isMistake : Stop → Bool
  | help _ | version => false
  | nothingGiven | usage _ _ => true

/-- What is shown instead of carrying out a command. -/
def text : Stop → String
  | help level => level.help
  | version => s!"{programName} {programVersion}\n"
  | nothingGiven => Level.help none
  | usage level e =>
    "\n".intercalate (s!"error: {e.summary}" :: e.details) ++
      (if e.showsUsage then s!"\n\n{level.usage}" else "") ++
      "\n\nFor more information, try '--help'.\n"

end Stop

end Supervisor

import Supervisor.Event
import Supervisor.Text.Quoted
import Supervisor.Text.Utf8

/-!
# Starting the daemon

A client that finds nobody listening starts the daemon in the background. The program is either set
by the user or the first installed one that may be run.

## Main definitions

* `Launch.Search`, `Launch.Search.locate` - which program is started
* `Launch.Command.prepare` - the command, if the system can take it
* `Launch.Outcome` - a started command or the reason against it, and entries in the log
* `Launch.start`, `Launch.startInstalled`
-/

namespace Supervisor.Launch

/-- Why the daemon was not started. -/
inductive Error where
  /-- None of the programs may be run. -/
  | notFound (searched : List String)
  /-- The path of the program holds a NUL. -/
  | invalidPath (path : String)
  /-- An argument holds a NUL. -/
  | invalidArgument (argument : String)
  /-- The system makes no other process, for the reason it gives. -/
  | fork (reason : String)
  deriving DecidableEq, Repr

/-- What the user is told. -/
def Error.message : Error → String
  | notFound searched =>
    s!"unable to find a supervisor daemon binary (searched {Text.quotedList searched})"
  | invalidPath path => s!"daemon path {Text.quoted path} contains a NUL byte"
  | invalidArgument argument => s!"daemon argument '{argument}' contains a NUL byte"
  | fork reason => s!"failed to fork the launcher process: {reason}"

/-- The variable by which the user sets the program. -/
def variableName : String := "LIBVIRT_QEMU_SERVER"

/-- Where the program is looked for. -/
def installed : List String := ["/usr/bin/libvirt_qemu", "/usr/bin/libvirt_qemu_dbg"]

/-- Seconds without work after which a daemon that was started on demand ends. -/
def idleSeconds : Nat := 30

/-- The arguments of a daemon that is started on demand. -/
def arguments : List String := ["--timeout", toString idleSeconds]

/-- Which program is started: the chosen one, or the first candidate that may be run. -/
structure Search where
  chosen : Option String
  candidates : List String
  deriving DecidableEq, Repr

namespace Search

/-- The search for an installed program, given the value of the user's variable. An empty value
chooses nothing. -/
def ofVariable (value : Option String) : Search := ⟨value.filter (· ≠ ""), installed⟩

/-- The program to start. A chosen program is not looked at. -/
def locate (s : Search) (runnable : String → Bool) : Except Error String :=
  match s.chosen with
  | some path => .ok path
  | none =>
    match s.candidates.find? runnable with
    | some path => .ok path
    | none => .error (.notFound s.candidates)

end Search

/-- A program with its arguments. -/
structure Command where
  program : String
  arguments : List String
  deriving DecidableEq, Repr

/-- Whether a text holds the byte that ends texts. -/
def hasNul (s : String) : Bool := (Text.utf8 s).contains 0

/-- The command, if the system can take it: neither the path nor an argument may hold a NUL. -/
def Command.prepare (program : String) (arguments : List String) : Except Error Command :=
  if hasNul program then .error (.invalidPath program)
  else
    match arguments.find? hasNul with
    | some argument => .error (.invalidArgument argument)
    | none => .ok ⟨program, arguments⟩

/-- A started command or the reason against it, and entries in the log. -/
abbrev Outcome := Except Error Command × List Event

/-- Starts a command in the background, unless the system makes no process for it: `fork` is what
comes of asking. That a command was started does not mean that it runs: a program that does not
exist fails later. -/
def start (fork : Except String Unit) (program : String) (arguments : List String) : Outcome :=
  match Command.prepare program arguments with
  | .error e => (.error e, [])
  | .ok command =>
    match fork with
    | .error reason => (.error (.fork reason), [])
    | .ok () =>
      (.ok command, [{ level := .debug, source := .launcher, fields := [],
                       message := "reaped intermediate launcher process" }])

/-- Looks for the program and starts it. -/
def startInstalled (fork : Except String Unit) (search : Search) (runnable : String → Bool) :
    Outcome :=
  match search.locate runnable with
  | .error e => (.error e, [])
  | .ok program =>
    let (result, events) := start fork program arguments
    (result, { level := .info, source := .launcher, message := "starting supervisor daemon",
               fields := [("binary", program)] } :: events)

end Supervisor.Launch

import Supervisor.CommandLine.Setting

/-!
# Reading a command line

The words of a command line are read from left to right. Settings and operands may be mixed; two
dashes alone say that only operands follow. The first word that is neither a setting nor a value
names the command, and all words behind it are read in the light of that command.

A value is kept aside until the next setting or operand, or until the end, and only then looked at.
So of several mistakes the one that is noticed first is not always the leftmost one; in particular
everything behind the command is read to its end before the last value in front of it is looked at.

## Main definitions

* `Invocation` - what a command line asks for
* `Reading` - what was read of one part of a command line
* `Invocation.parse` - reads the words of a command line
-/

namespace Supervisor

/-- What a command line asks for. -/
structure Invocation where
  uri : Option String
  readOnly : Bool
  logFilter : Option String
  logFormat : Option LogFormat
  output : OutputFormat
  command : Command
  deriving DecidableEq, Repr

/-- Why no command is carried out. -/
inductive Stop where
  /-- The user asked how the command line is used. -/
  | help (level : Level)
  /-- The user asked for the version of the program. -/
  | version
  /-- The command line is empty. -/
  | nothingGiven
  | usage (level : Level) (error : UsageError)

/-- Where the value of a setting comes from; what is written counts more. -/
inductive Origin where
  | environment
  | written
  deriving DecidableEq, Repr

/-- A setting that was given. -/
structure Given where
  setting : Setting
  value : String
  origin : Origin
  deriving DecidableEq, Repr

/-- What was kept aside and not looked at yet. -/
inductive Pending where
  /-- A setting, and its value once it was read. -/
  | setting (setting : Setting) (value : Option String)
  | operand (operand : Operand) (value : String)
  deriving DecidableEq, Repr

/-- What was read of one part of a command line. -/
structure Reading where
  given : List Given
  operands : List String
  pending : Option Pending
  /-- Whether only operands follow. -/
  onlyOperands : Bool
  deriving DecidableEq, Repr

/-- How a word looks. -/
inductive Look where
  /-- Two dashes alone. -/
  | dashes
  | long (name : String) (value : Option String)
  | short (letter : Char) (rest : List Char)
  | plain
  deriving DecidableEq, Repr

/-- How a word looks. A dash alone is a plain word. -/
def Look.of (word : String) : Look :=
  match word.toList with
  | ['-', '-'] => dashes
  | '-' :: '-' :: cs =>
    let name := cs.takeWhile (· ≠ '=')
    long (String.ofList name)
      (if name.length < cs.length then some (String.ofList (cs.drop (name.length + 1))) else none)
  | '-' :: c :: cs => short c cs
  | _ => plain

namespace Reading

/-- Nothing was read. -/
def start : Reading := ⟨[], [], none, false⟩

/-- Whether a setting was given. -/
def has (r : Reading) (s : Setting) : Bool := r.given.any (·.setting = s)

/-- Adds a setting, which may be given only once. -/
def set (r : Reading) (s : Setting) (value : String) (origin : Origin) :
    Except UsageError Reading := do
  if r.has s then throw (.repeated s)
  s.check value
  return { r with given := r.given ++ [⟨s, value, origin⟩] }

/-- Looks at what was kept aside. -/
def settle (r : Reading) : Except UsageError Reading :=
  match r.pending with
  | none => .ok r
  | some (.setting s (some value)) => { r with pending := none }.set s value .written
  | some (.setting s none) => .error (.missingValue s.display s.choices)
  | some (.operand o value) =>
    if o = .file ∧ value = "" then .error (.missingValue o.display [])
    else .ok { r with pending := none, operands := r.operands ++ [value] }

/-- How many operands were read, looked at or not. -/
def operandCount (r : Reading) : Nat :=
  match r.pending with
  | some (.operand _ _) => r.operands.length + 1
  | _ => r.operands.length

/-- The setting whose value comes next. -/
def awaited (r : Reading) : Option Setting :=
  if r.onlyOperands then none
  else
    match r.pending with
    | some (.setting s none) => some s
    | _ => none

/-- Keeps something aside, after a look at what was kept aside before. -/
def keep (r : Reading) (p : Pending) : Except UsageError Reading := do
  return { ← r.settle with pending := some p }

/-- A setting without a value. -/
def switchOn (r : Reading) (level : Level) (s : Setting) : Except Stop Reading := do
  let r ← r.settle.mapError (.usage level)
  match s with
  | .help => throw (.help level)
  | .version => throw .version
  | _ => (r.set s "" .written).mapError (.usage level)

/-- A setting with a value in the same word, or one whose value is the next word. -/
def assign (r : Reading) (s : Setting) : Option String → Except UsageError Reading
  | some value => do (← r.settle).set s value .written
  | none => r.keep (.setting s none)

/-- A word that starts with two dashes. -/
def long (r : Reading) (level : Level) (name : String) (value : Option String) :
    Except Stop Reading :=
  match level.settings.find? (·.name = name) with
  | none => .error (.usage level (.unexpectedArgument s!"--{name}"))
  | some s =>
    if s.takesValue then (r.assign s value).mapError (.usage level)
    else
      match value with
      | some value => .error (.usage level (.unexpectedValue value s))
      | none => r.switchOn level s

/-- A word that starts with one dash. What follows the letter is the value, with or without an
equals sign before it. -/
def short (r : Reading) (level : Level) (letter : Char) (rest : List Char) : Except Stop Reading :=
  match level.settings.find? (·.letter? = some letter) with
  | none => .error (.usage level (.unexpectedArgument s!"-{letter}"))
  | some s =>
    if s.takesValue then
      let value := match rest with
        | [] => none
        | '=' :: cs => some (String.ofList cs)
        | cs => some (String.ofList cs)
      (r.assign s value).mapError (.usage level)
    else r.switchOn level s

/-- A word that is neither a setting nor the value of one. -/
def operand (r : Reading) (level : Level) (word : String) : Except UsageError Reading :=
  match level.operands[r.operandCount]? with
  | some o => r.keep (.operand o word)
  | none =>
    if level.isNone && !(r.onlyOperands && (Verb.ofWord? word).isSome) then
      .error (.unknownCommand word)
    else .error (.unexpectedArgument word)

/-- The command that a word names. Behind the command, and where a value comes next, words name
none. -/
def command? (r : Reading) (level : Level) (word : String) : Option Verb :=
  if level.isNone && !r.onlyOperands && r.awaited.isNone then Verb.ofWord? word else none

/-- One word that is not the word of the command. -/
def word (r : Reading) (level : Level) (w : String) : Except Stop Reading :=
  if r.onlyOperands then (r.operand level w).mapError (.usage level)
  else
    match Look.of w with
    | .dashes => .ok { r with onlyOperands := true }
    | .long name value => r.long level name value
    | .short letter rest => r.short level letter rest
    | .plain =>
      match r.awaited with
      | some s => .ok { r with pending := some (.setting s (some w)) }
      | none => (r.operand level w).mapError (.usage level)

/-- Reads words up to the command. What follows it is left. -/
def words (r : Reading) (level : Level) :
    List String → Except Stop (Reading × Option (Verb × List String))
  | [] => .ok (r, none)
  | w :: ws =>
    match r.command? level w with
    | some verb => .ok (r, some (verb, ws))
    | none => do words (← r.word level w) level ws

/-- Adds a setting from the environment unless it was written. -/
def fill (environment : String → Option String) (r : Reading) (s : Setting) :
    Except UsageError Reading :=
  match if r.has s then none else s.variableName?.bind environment with
  | some value => r.set s value .environment
  | none => .ok r

/-- Ends the reading of a part: looks at what was kept aside and at the environment. -/
def finish (environment : String → Option String) (r : Reading) : Except UsageError Reading := do
  Level.shared.foldlM (fill environment) (← r.settle)

/-- What was given for a setting. -/
def find? (r : Reading) (s : Setting) : Option Given := r.given.find? (·.setting = s)

end Reading

namespace Invocation

/-- Reads what follows the word of a command. -/
def parseBehind (environment : String → Option String) (verb : Verb) (ws : List String) :
    Except Stop (Reading × verb.shape.Arguments) := do
  let (r, _) ← Reading.start.words (some verb) ws
  let r ← (r.finish environment).mapError (.usage (some verb))
  match verb.shape.arguments? r.operands (r.has .all) with
  | some arguments => return (r, arguments)
  | none =>
    throw (.usage (some verb) (.missingOperands (verb.shape.operands.drop r.operands.length)))

/-- The value of a setting that was given in front of the command or behind it. What stands behind
it wins, except that a value from the environment yields to one that is written. -/
def choose (front behind : Reading) (s : Setting) : Option String :=
  match front.find? s, behind.find? s with
  | some f, some b =>
    some (if f.origin = .written ∧ b.origin = .environment then f.value else b.value)
  | some f, none => some f.value
  | none, some b => some b.value
  | none, none => none

/-- What both parts of a command line ask for. -/
def ofReadings (front behind : Reading) (command : Command) : Invocation :=
  { uri := choose front behind .uri
    readOnly := (choose front behind .readOnly).isSome
    logFilter := choose front behind .logFilter
    logFormat := (choose front behind .logFormat).bind LogFormat.ofName?
    output := ((choose front behind .output).bind OutputFormat.ofName?).getD .auto
    command }

/-- Reads the words of a command line. -/
def parse (environment : String → Option String) (ws : List String) : Except Stop Invocation := do
  let (front, behind) ← Reading.start.words none ws
  match behind with
  | some (verb, ws) =>
    -- What is still pending in front of the command is looked at only now, so a mistake behind the
    -- command is noticed before one in the last value in front of it.
    let (behind, arguments) ← parseBehind environment verb ws
    let front ← (front.finish environment).mapError (.usage none)
    return ofReadings front behind (verb.command arguments)
  | none =>
    let front ← (front.finish environment).mapError (.usage none)
    if front.given = [] then throw .nothingGiven
    throw (.usage none .missingCommand)

end Invocation

end Supervisor

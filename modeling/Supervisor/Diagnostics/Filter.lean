import Supervisor.Text.Blank
import Supervisor.Text.Letter

/-!
# Filters made of directives

A filter is a list of directives between commas. A directive selects a part of the program by name,
optionally a span and its fields, and gives the least important level that is shown. What may be
said of a field is left open.

## Main definitions

* `Diagnostics.Filter.check` - whether a filter can be read
-/

namespace Supervisor.Diagnostics.Filter

/-- Why a filter cannot be read. -/
inductive Error where
  /-- A directive does not follow the grammar. -/
  | directive
  /-- What follows the equals sign is no level. -/
  | level
  /-- What is said of a field can be true of no value. -/
  | field (reason : String)
  deriving DecidableEq, Repr

/-- What the user is told. -/
def Error.message : Error → String
  | directive => "invalid filter directive"
  | level => "error parsing level filter: expected one of \"off\", \"error\", \"warn\", \"info\", " ++
      "\"debug\", \"trace\", or a number 0-5"
  | field reason => s!"invalid field filter: {reason}"

/-- The number that decimal digits stand for; a plus sign may precede them. -/
def levelNumber? (cs : List Char) : Option Nat :=
  let digits := match cs with
    | '+' :: rest => rest
    | _ => cs
  if digits ≠ [] && digits.all (fun c => '0' ≤ c ∧ c ≤ '9') then
    some (digits.foldl (fun n c => n * 10 + (c.toNat - 48)) 0)
  else none

/-- Whether a text names a level: by its name in any letter case, or by a number up to 5. -/
def isLevel (cs : List Char) : Bool :=
  match levelNumber? cs with
  | some n => n ≤ 5
  | none => ["", "error", "warn", "info", "debug", "trace", "off"].any
      (Text.equalFold · (String.ofList cs))

/-- Where the reader of a directive stands. -/
inductive Place where
  | start
  /-- Within a name that may be a level or a part of the program. -/
  | name
  /-- Within a span. -/
  | span
  /-- Within a field of a span; the characters so far. -/
  | field (read : List Char)
  /-- Behind the fields of a span. -/
  | fieldsEnd
  /-- Behind a span. -/
  | target
  /-- Behind the equals sign, which stands at this position. -/
  | level (position : Nat)
  deriving DecidableEq, Repr

/-- Whether a character can start a name. -/
def startsName (c : Char) : Bool :=
  Text.isLetterOrDigit c || c = '-' || c = ':' || c = '_'

variable (checkField : String → Except String Unit)

/-- One character of a directive. Fields are read by `checkField`. -/
def step (p : Place) (position : Nat) (c : Char) : Except Error Place :=
  match p with
  | .start => if c = '[' then .ok .span else if startsName c then .ok .name else .error .directive
  | .name => if c = '=' then .ok (.level position) else if c = '[' then .ok .span else .ok .name
  | .span => if c = ']' then .ok .target else if c = '\x7b' then .ok (.field []) else .ok .span
  | .field read =>
    if c = '\x7d' then
      if read = [] then .error .directive
      else
        match checkField (String.ofList read) with
        | .ok () => .ok .fieldsEnd
        | .error reason => .error (.field reason)
    else .ok (.field (read ++ [c]))
  | .fieldsEnd => if c = ']' then .ok .target else .error .directive
  | .target => if c = '=' then .ok (.level position) else .error .directive
  | .level at' => .ok (.level at')

/-- Reads the characters of a directive. -/
def walk (p : Place) (position : Nat) : List Char → Except Error Place
  | [] => .ok p
  | c :: cs => do walk (← step checkField p position c) (position + 1) cs

/-- Whether a directive can be read. White space at its ends does not count, but the level is looked
for as many characters behind the start of the whole as the equals sign is behind the first
character that counts. -/
def checkDirective (cs : List Char) : Except Error Unit := do
  match ← walk checkField .start 0 (Text.trimWith Text.isBlank cs) with
  -- `position` counts from the first character that is not white space, `cs` starts before it.
  | .level position => if isLevel (cs.drop (position + 1)) then return () else throw .level
  | .name | .target => return ()
  | _ => throw .directive

/-- Splits a filter at its commas. -/
def splitCommas : List Char → List (List Char)
  | [] => [[]]
  | c :: cs =>
    if c = ',' then [] :: splitCommas cs
    else
      match splitCommas cs with
      | part :: parts => (c :: part) :: parts
      | [] => [[c]]

/-- Whether a filter can be read: every directive that is not empty. -/
def check (filter : String) : Except String Unit :=
  (((splitCommas filter.toList).filter (· ≠ [])).forM (checkDirective checkField)).mapError
    Error.message

end Supervisor.Diagnostics.Filter

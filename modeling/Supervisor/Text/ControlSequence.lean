/-!
# Control sequences of terminals

A text may hold sequences that a terminal obeys instead of showing them: colours, cursor movements,
titles. Where a text of the user is repeated in a message, what a terminal would not show is left
out.

A terminal looks at one character at a time. Between two characters it shows what comes or is in the
middle of a sequence; which kind of sequence is its `Phase`.

## Main definitions

* `Text.Phase` - where a terminal stands between two characters
* `Text.Phase.after` - where it stands after one more character
* `Text.withoutControls` - what a terminal shows of a text
-/

namespace Supervisor.Text

/-- Where a terminal stands between two characters. -/
inductive Phase where
  /-- It shows what comes. -/
  | shown
  /-- An escape character was read. -/
  | escape
  /-- An escape character and more were read, and one character ends the sequence. -/
  | escapeTail
  /-- A sequence with parameters, which a letter ends. -/
  | control
  /-- A string for the terminal, which a bell ends. -/
  | title
  /-- The head of a string for a device: nothing of it, its parameters, or what follows them. -/
  | device
  | deviceParameters
  | deviceTail
  /-- A string for a device or for a program. -/
  | string
  deriving DecidableEq, Repr

/-- White space that even a sequence lets through. -/
def isBreak (c : Char) : Bool := c = '\t' || c = '\n' || c = '\x0c' || c = '\r'

/-- Whether a character is shown where no sequence is open: all but control characters. -/
def isVisible (c : Char) : Bool := (0x20 ≤ c.toNat && c.toNat ≠ 0x7F) || isBreak c

/-- Whether a string ends within a character: one of its bytes is the terminator of strings. -/
def endsString (c : Char) : Bool := (String.utf8EncodeChar c).contains 0x9C

namespace Phase

/-- Whether white space ends the sequence and is shown. -/
def letsThrough : Phase → Bool
  | escape | escapeTail | control => true
  | _ => false

/-- Whether a character is shown. -/
def shows (p : Phase) (c : Char) : Bool :=
  if p = shown then isVisible c else p.letsThrough && isBreak c

/-- What the first character behind an escape character introduces. -/
def introduced (c : Char) : Phase :=
  if c = '[' then control
  else if c = ']' then title
  else if c = 'P' then device
  else if c = 'X' ∨ c = '^' ∨ c = '_' then string
  else if ' ' ≤ c ∧ c ≤ '/' then escapeTail
  else if '0' ≤ c ∧ c ≤ '~' then shown
  else escape

/-- Where a terminal stands after one more character. -/
def after (p : Phase) (c : Char) : Phase :=
  -- Cancel and substitute end every sequence, and an escape character starts another one.
  if c = '\x18' ∨ c = '\x1a' then shown
  else if c = '\x1b' then escape
  else if p.shows c then shown
  else
    match p with
    | shown => shown
    | escape => introduced c
    | escapeTail => if '0' ≤ c ∧ c ≤ '~' then shown else escapeTail
    | control => if '@' ≤ c ∧ c ≤ '~' then shown else control
    | title => if c = '\x07' then shown else title
    | device =>
      if '@' ≤ c ∧ c ≤ '~' then string
      else if '0' ≤ c ∧ c ≤ '?' then deviceParameters
      else if ' ' ≤ c ∧ c ≤ '/' then deviceTail
      else device
    | deviceParameters =>
      if '<' ≤ c ∧ c ≤ '~' then string
      else if ' ' ≤ c ∧ c ≤ '/' then deviceTail
      else deviceParameters
    | deviceTail => if '0' ≤ c ∧ c ≤ '~' then string else deviceTail
    | string => if endsString c then shown else string

/-- The characters that are shown of the rest of a text. -/
def visible : Phase → List Char → List Char
  | _, [] => []
  | p, c :: cs => if p.shows c then c :: visible (p.after c) cs else visible (p.after c) cs

end Phase

/-- What a terminal shows of a text. -/
def withoutControls (s : String) : String := String.ofList (Phase.shown.visible s.toList)

end Supervisor.Text

import Supervisor.Text.Hex

/-!
# Tables in written form

Tables of characters are long, and they are written as texts. Such a text consists of rows between
white space, and a row of hexadecimal numbers. Any other character ends a number, so a row may look
as its meaning suggests: `41-5A` for a range, `E9:65,301` for a character and its parts.

## Main definitions

* `Text.rows` - the rows of a table
-/

namespace Supervisor.Text

/-- How far a table has been read: its rows, the numbers of the last row, and the last number. The
latest comes first. -/
structure TableReading where
  rows : List (List Nat)
  row : List Nat
  number : Option Nat
  deriving DecidableEq, Repr

namespace TableReading

/-- Nothing was read. -/
def start : TableReading := ⟨[], [], none⟩

/-- The number that was being read is complete. -/
def endNumber (r : TableReading) : TableReading :=
  match r.number with
  | some n => { r with row := n :: r.row, number := none }
  | none => r

/-- The row that was being read is complete. -/
def endRow (r : TableReading) : TableReading :=
  let r := r.endNumber
  if r.row = [] then r else ⟨r.row.reverse :: r.rows, [], none⟩

/-- One more character. -/
def next (r : TableReading) (c : Char) : TableReading :=
  match hexDigit? c with
  | some d => { r with number := some (r.number.getD 0 * 16 + d) }
  | none => if c = ' ' ∨ c = '\n' then r.endRow else r.endNumber

end TableReading

/-- The rows of a table. -/
def rows (table : String) : List (List Nat) :=
  (table.toList.foldl TableReading.next .start).endRow.rows.reverse

end Supervisor.Text

import Supervisor.Text.Table

/-!
# Sets of characters

Properties of characters come as lists of ranges of code points. In a table a row is a range, with
both its ends or, if they are the same, with one number.

## Main definitions

* `CharSet` - ranges of code points
* `CharSet.ofTable` - reads a table
* `CharSet.contains` - whether a character is in a set
-/

namespace Supervisor

/-- A set of characters: ranges of code points, ends included. -/
structure CharSet where
  ranges : List (Nat × Nat)
  deriving DecidableEq, Repr

namespace CharSet

/-- The range in a row of a table. -/
def range? : List Nat → Option (Nat × Nat)
  | [n] => some (n, n)
  | [first, last] => some (first, last)
  | _ => none

/-- Reads a table. -/
def ofTable (table : String) : CharSet := ⟨(Text.rows table).filterMap range?⟩

/-- Whether a character is in a set. -/
def contains (s : CharSet) (c : Char) : Bool :=
  s.ranges.any fun (first, last) => first ≤ c.toNat && c.toNat ≤ last

end CharSet

end Supervisor

/-!
# Hexadecimal numbers

## Main definitions

* `Text.hexDigits` - a number in hexadecimal
* `Text.hexDigit?` - the value of a digit
-/

namespace Supervisor.Text

/-- A number in lower-case hexadecimal, without leading zeros. -/
def hexDigits (n : Nat) : String := String.ofList (Nat.toDigits 16 n)

/-- The value of a hexadecimal digit. -/
def hexDigit? (c : Char) : Option Nat :=
  if '0' ≤ c ∧ c ≤ '9' then some (c.toNat - 48)
  else if 'a' ≤ c ∧ c ≤ 'f' then some (c.toNat - 87)
  else if 'A' ≤ c ∧ c ≤ 'F' then some (c.toNat - 55)
  else none

end Supervisor.Text

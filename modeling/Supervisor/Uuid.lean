import Supervisor.Text.Hex

/-!
# Universally unique identifiers

Domains and networks are known by sixteen bytes, written as thirty-two hexadecimal digits in
groups of 8, 4, 4, 4 and 12.

## Main definitions

* `Uuid` - sixteen bytes
* `Uuid.toText` - the hyphenated form in lower case
* `Uuid.ofText?` - reads thirty-two digits, hyphens ignored
-/

namespace Supervisor

/-- Sixteen bytes that name a domain or a network. -/
structure Uuid where
  bytes : List UInt8
  length_eq : bytes.length = 16
  deriving DecidableEq

namespace Uuid

/-- The identifier made of sixteen zero bytes. -/
def nil : Uuid := ⟨List.replicate 16 0, by decide⟩

instance : Inhabited Uuid := ⟨nil⟩

/-- A byte as two lower-case hexadecimal digits. -/
def hexByte (b : UInt8) : List Char := [(b.toNat / 16).digitChar, (b.toNat % 16).digitChar]

/-- The hyphenated form in lower case. -/
def toText (u : Uuid) : String :=
  let group (from' n : Nat) := String.ofList (((u.bytes.drop from').take n).flatMap hexByte)
  "-".intercalate [group 0 4, group 4 2, group 6 2, group 8 2, group 10 6]

instance : ToString Uuid := ⟨toText⟩

/-- Bytes written as pairs of hexadecimal digits. -/
def hexBytes? : List Char → Option (List UInt8)
  | [] => some []
  | a :: b :: r => do
    let high ← Text.hexDigit? a
    let low ← Text.hexDigit? b
    let rest ← hexBytes? r
    return UInt8.ofNat (high * 16 + low) :: rest
  | [_] => none

/-- Reads an identifier from its thirty-two digits, hyphens ignored. -/
def ofText? (s : String) : Option Uuid := do
  let bytes ← hexBytes? (s.toList.filter (· ≠ '-'))
  if h : bytes.length = 16 then some ⟨bytes, h⟩ else none

end Uuid

end Supervisor

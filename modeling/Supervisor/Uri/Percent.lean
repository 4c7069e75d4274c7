import Supervisor.Text.Utf8
import Supervisor.Uuid

/-!
# Percent-encoding

A byte that may not stand in a part of an identifier is written as a percent sign and two
hexadecimal digits. Which characters that concerns depends on the part.

## Main definitions

* `Uri.encodeWith` - a text with the bytes of some characters written as numbers
* `Uri.isControl`, `Uri.isOutsidePath` - the characters of an opaque part and of a path
* `Uri.percentDecode` - the bytes of a text, numbers resolved
-/

namespace Supervisor.Uri

/-- Control characters and everything beyond ASCII. -/
def isControl (c : Char) : Bool := c.toNat < 0x20 || 0x7E < c.toNat

/-- Characters that do not stand for themselves in a path. -/
def isOutsidePath (c : Char) : Bool :=
  isControl c || [' ', '"', '#', '<', '>', '?', '\x60', '\x7b', '\x7d'].contains c

/-- A byte as a percent sign and two upper-case hexadecimal digits. -/
def percentByte (b : UInt8) : List Char :=
  '%' :: (Uuid.hexByte b).map fun c => if 'a' ≤ c ∧ c ≤ 'f' then Char.ofNat (c.toNat - 32) else c

/-- A text in which the characters that satisfy `p` are written as the numbers of their bytes. -/
def encodeWith (p : Char → Bool) (cs : List Char) : List Char :=
  cs.flatMap fun c => if p c then (String.utf8EncodeChar c).flatMap percentByte else [c]

/-- The bytes of a text in which a percent sign and two digits stand for a byte. A percent sign
without two digits stands for itself. -/
def percentDecode : List UInt8 → List UInt8
  | 0x25 :: a :: b :: rest =>
    match Text.hexDigit? (Char.ofNat a.toNat), Text.hexDigit? (Char.ofNat b.toNat) with
    | some high, some low => UInt8.ofNat (high * 16 + low) :: percentDecode rest
    | _, _ => 0x25 :: percentDecode (a :: b :: rest)
  | b :: rest => b :: percentDecode rest
  | [] => []

end Supervisor.Uri

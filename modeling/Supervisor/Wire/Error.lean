import Supervisor.Wire.Limits
import Supervisor.Wire.Operation

/-!
# What can be wrong with a frame

## Main definitions

* `Wire.Error` - the ways in which a value does not fit the format or bytes do not follow it
* `Wire.Error.message` - what the user is told
-/

namespace Supervisor.Wire

/-- A value that does not fit the wire format, or bytes that do not follow it. -/
inductive Error where
  /-- A header declares more payload than any structure has. -/
  | oversized (size : UInt32)
  /-- No operation has this tag. -/
  | unknownOperation (tag : UInt32)
  /-- A text is longer than its field allows. -/
  | textTooLong (field : String) (length longest : Nat)
  /-- A text holds the byte that ends texts. -/
  | embeddedNul (field : String)
  /-- A listing declares a number of entries that it cannot have. -/
  | countOutOfRange (field : String) (count : Int32) (most : Nat)
  /-- A structure runs past the payload buffer. -/
  | layoutOverflow (operation : Operation)
  deriving DecidableEq, Repr

namespace Error

/-- What the user is told. -/
def message : Error → String
  | oversized size => s!"payload of {size} bytes exceeds {payloadCapacity} byte limit"
  | unknownOperation tag => s!"unknown operation tag {tag}"
  | textTooLong field length longest =>
    s!"{field} is {length} bytes long; at most {longest} bytes fit"
  | embeddedNul field => s!"{field} contains an embedded NUL byte"
  | countOutOfRange field count most => s!"{field} count {count.toInt} is outside 0..={most}"
  | layoutOverflow op =>
    s!"payload layout for {op.name} overruns the {payloadCapacity} byte buffer"

end Error

end Supervisor.Wire

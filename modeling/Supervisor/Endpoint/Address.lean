import Supervisor.Fault
import Supervisor.Text.Utf8
import Supervisor.Uri.Error

/-!
# Socket addresses

A daemon listens at a local socket. Its address is a path, or behind an at sign a name that is not
part of the file system. The system stores an address in a buffer of fixed size.

## Main definitions

* `Endpoint.Error` - why an identifier or an address cannot be used
* `Address` - the address of a socket
* `Address.check` - the addresses that fit the buffer
* `Address.socketBytes` - what the buffer holds
-/

namespace Supervisor

namespace Endpoint

/-- Why an identifier or an address cannot be used. -/
inductive Error where
  /-- The text is no identifier. -/
  | parse (uri : String) (error : Uri.Error)
  /-- The identifier belongs to another backend. -/
  | foreignScheme (scheme : String)
  /-- The identifier names a host; only local daemons can be reached. -/
  | remoteHost (host : String)
  /-- The path names no daemon. -/
  | unsupportedPath (path : String)
  | emptyAddress
  | addressTooLong (length longest : Nat)
  | embeddedNul
  /-- The account of the user cannot be looked up. -/
  | userLookup (uid : UInt32) (fault : Fault)
  /-- The user has no account. -/
  | unknownUser (uid : UInt32)
  /-- The home directory is no text. -/
  | nonUtf8Home (path : String)
  deriving DecidableEq, Repr

namespace Error

/-- What the user is told. -/
def message : Error → String
  | parse uri error => s!"cannot parse '{uri}': {error.message}"
  | foreignScheme scheme => s!"scheme '{scheme}' is not handled by the qemu driver"
  | remoteHost host => s!"remote host '{host}' is not supported"
  | unsupportedPath path => s!"unsupported path '{path}'; expected /system or /session"
  | emptyAddress => "socket path is empty"
  | addressTooLong length longest =>
    s!"socket path is {length} bytes long; at most {longest} bytes fit"
  | embeddedNul => "socket path contains an embedded NUL byte"
  | userLookup uid fault => s!"failed to look up user {uid}: {fault.message}"
  | unknownUser uid => s!"no password entry for user {uid}"
  | nonUtf8Home path => s!"home directory '{path}' is not valid UTF-8"

/-- Whether the identifier merely belongs to another backend. -/
def isForeign : Error → Bool
  | foreignScheme _ => true
  | _ => false

end Error

end Endpoint

/-- The address of a socket as it is written. -/
structure Address where
  text : String
  deriving DecidableEq, Repr

namespace Address

/-- The size of the buffer for an address. One byte is taken by the marker or the terminator. -/
def capacity : Nat := 108

/-- What precedes a name that is not part of the file system. -/
def marker : Char := '@'

/-- The address, if it fits the buffer: not empty, short enough, and without a NUL. -/
def check (text : String) : Except Endpoint.Error Address :=
  if text = "" then .error .emptyAddress
  else if capacity ≤ Text.size text then .error (.addressTooLong (Text.size text) (capacity - 1))
  else if 0 ∈ Text.utf8 text then .error .embeddedNul
  else .ok ⟨text⟩

/-- Whether the address is not part of the file system. -/
def isAbstract (a : Address) : Bool := a.text.toList.head? = some marker

/-- How an address appears in messages. -/
def display (a : Address) : String := s!"unix:{a.text}"

/-- What the buffer holds. A path stands as it is; a name follows a NUL in place of the marker and
is filled up with zeros. A name that does not fit is left out. -/
def socketBytes (a : Address) : List UInt8 :=
  match a.text.toList with
  | '@' :: name =>
    let bytes := name.flatMap String.utf8EncodeChar
    if bytes.length + 1 ≤ capacity then
      0 :: bytes ++ List.replicate (capacity - 1 - bytes.length) 0
    else List.replicate capacity 0
  | _ => Text.utf8 a.text

end Address

end Supervisor

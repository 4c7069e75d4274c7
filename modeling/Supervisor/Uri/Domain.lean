import Supervisor.Text.Split
import Supervisor.Uri.Address
import Supervisor.Uri.Domain.Label
import Supervisor.Uri.Error
import Supervisor.Uri.Percent

/-!
# Internet domain names

The schemes of the web name their hosts by internet domains. Such a host is percent-decoded, brought
to a common form, and has to be a domain name or a version 4 address.

## Main definitions

* `Domain.common?` - the common form of a name, if it can be brought to one
* `Domain.isName` - whether a name in that form is a domain name
* `Uri.checkWebHost` - the host of a web identifier
-/

namespace Supervisor.Uri

namespace Domain

/-- ASCII characters that no domain name holds. -/
def isForbidden (c : Char) : Bool :=
  c.toNat ≤ 0x20 || c.toNat = 0x7F ||
    ['#', '%', '/', ':', '<', '>', '?', '@', '[', '\\', ']', '^', '|'].contains c

/-- The common form of a name; there is none if a character is not one that names are written
with. -/
def common? (cs : List Char) : Option (List Char) := (cs.mapM mapped?).map (composed ·.flatten)

/-- Whether labels, taken together, keep to the directions in which they run. -/
def directionsFit (labels : List (List Char)) : Bool :=
  let directions := labels.map (·.map Direction.ofChar)
  !directions.flatten.any Direction.isReversing || directions.all Direction.fits

/-- Whether a name in the common form is a domain name. Labels may be empty. -/
def isName (cs : List Char) : Bool :=
  !cs.any isForbidden &&
    match (Text.splitAtChar '.' cs).mapM label? with
    | some labels => labels.all isLabel && directionsFit labels
    | none => false

end Domain

/-- Checks the host of a web identifier: a version 6 address in brackets, or after
percent-decoding a version 4 address or a domain name. Gives its text. -/
def checkWebHost (cs : List Char) : Except Error String :=
  match cs with
  | '[' :: inner =>
    if inner.getLast? = some ']' then
      match ipv6Pieces? inner.dropLast with
      | some ps => .ok ("[" ++ ipv6Text ps ++ "]")
      | none => .error .invalidIpv6
    else .error .invalidIpv6
  | _ =>
    match (Text.ofUtf8? (percentDecode (Text.utf8 (String.ofList cs)))).bind
        (Domain.common? ·.toList) with
    | none => .error .invalidDomain
    | some name =>
      if !Domain.isName name then .error .invalidDomain
      else if name = [] then .error .emptyHost
      else if endsInNumber name && !isIpv4 name then .error .invalidIpv4
      else .ok (String.ofList name)

end Supervisor.Uri

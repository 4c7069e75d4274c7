/-!
# What can be wrong with an identifier

## Main definitions

* `Uri.Error` - why a text is no absolute identifier
* `Uri.Error.message` - what the user is told
-/

namespace Supervisor.Uri

/-- Why a text is no absolute identifier. -/
inductive Error where
  /-- It does not start with a scheme. -/
  | relative
  | emptyHost
  | invalidPort
  | invalidIpv4
  | invalidIpv6
  /-- A host holds a character that hosts do not have. -/
  | invalidHostCharacter
  /-- A host is not the name of an internet domain. -/
  | invalidDomain
  deriving DecidableEq, Repr

/-- What the user is told. -/
def Error.message : Error → String
  | relative => "relative URL without a base"
  | emptyHost => "empty host"
  | invalidPort => "invalid port number"
  | invalidIpv4 => "invalid IPv4 address"
  | invalidIpv6 => "invalid IPv6 address"
  | invalidHostCharacter => "invalid domain character"
  | invalidDomain => "invalid international domain name"

end Supervisor.Uri

import Supervisor.Endpoint.Address
import Supervisor.Uri.Basic

/-!
# Which daemon is meant

An identifier such as `qemu:///session` names the daemon of the system or the one of the user.

## Main definitions

* `Scope`, `Access` - which daemon, and whether it may be told to change anything
* `Scope.ofUri` - the daemon that an identifier names
* `User`, `User.home` - the user for whom the client runs, and their home directory
* `Scope.address` - where a daemon listens
* `defaultUri` - the identifier used if none is given
-/

namespace Supervisor

/-- Which daemon is meant. -/
inductive Scope where
  /-- The one of the system. -/
  | system
  /-- The one of the user. -/
  | session
  deriving DecidableEq, Repr

/-- Whether a session may change anything. -/
inductive Access where
  | readWrite
  | readOnly
  deriving DecidableEq, Repr

/-- The name of an access mode in the log. -/
def Access.describe : Access → String
  | readWrite => "ReadWrite"
  | readOnly => "ReadOnly"

/-- The scheme of identifiers that name a daemon. -/
def scheme : String := "qemu"

/-- Where the daemon of the system listens. -/
def systemSocket : String := "/var/run/qemud/sock"

/-- Where the daemon of the system listens for readers. -/
def systemSocketForReaders : String := "/var/run/qemud/sock-ro"

/-- Where the daemon of a user listens, below the home directory. -/
def sessionSocket : String := ".qemud/sock"

/-- The identifier of the daemon of the system. -/
def systemUri : String := "qemu:///system"

/-- The identifier of the daemon of the user. -/
def sessionUri : String := "qemu:///session"

/-- The identifier used if none is given: the superuser means the daemon of the system, anybody
else their own. -/
def defaultUri (superuser : Bool) : String := if superuser then systemUri else sessionUri

/-- The user for whom the client runs. -/
structure User where
  uid : UInt32
  /-- What comes of looking the account up: the home directory, unless there is no account. -/
  account : Except Fault (Option (List UInt8))

namespace User

/-- Whether the user is the superuser. -/
def isSuperuser (u : User) : Bool := u.uid = 0

/-- The home directory, which has to be known and a text. -/
def home (u : User) : Except Endpoint.Error String :=
  match u.account with
  | .error fault => .error (.userLookup u.uid fault)
  | .ok none => .error (.unknownUser u.uid)
  | .ok (some directory) =>
    match Text.ofUtf8? directory with
    | some home => .ok home
    | none => .error (.nonUtf8Home (Text.lossy directory))

end User

namespace Scope

/-- The identifier that names the daemon. -/
def display : Scope → String
  | system => systemUri
  | session => sessionUri

/-- The daemon that an identifier names. The scheme is looked at first, then the host, then the
path. -/
def ofUri [Uri.Reader] (uri : String) : Except Endpoint.Error Scope :=
  match Uri.Reader.read uri with
  | .error e => .error (.parse uri e)
  | .ok u =>
    if u.scheme ≠ scheme then .error (.foreignScheme u.scheme)
    else
      match u.host with
      | some host => .error (.remoteHost host)
      | none =>
        if u.path = "/system" then .ok system
        else if u.path = "/session" then .ok session
        else .error (.unsupportedPath u.path)

/-- A path below a directory. -/
def below (directory path : String) : String :=
  if directory = "" ∨ directory.toList.getLast? = some '/' then directory ++ path
  else directory ++ "/" ++ path

/-- Where the daemon listens. The home directory matters to the daemon of a user only. -/
def address (home : Except Endpoint.Error String) : Scope → Access → Except Endpoint.Error Address
  | system, .readWrite => Address.check systemSocket
  | system, .readOnly => Address.check systemSocketForReaders
  | session, _ => do Address.check (Address.marker.toString ++ below (← home) sessionSocket)

end Scope

end Supervisor

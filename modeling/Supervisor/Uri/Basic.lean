import Supervisor.Uri.Domain
import Supervisor.Uri.Path

/-!
# Absolute identifiers

An identifier starts with a scheme. Behind two slashes follow user, host and port, then a path, a
query and a fragment. White space at its ends and line breaks anywhere do not count.

The schemes of the web have rules of their own: a backslash is a slash, slashes in front of the
host do not count, and the host has to be an address or an internet domain. All other schemes take
nearly any text for a host.

## Main definitions

* `Uri` - scheme, host and path of an identifier
* `Uri.parse` - reads an identifier, or says why it is none
* `Uri.Reader` - any way of reading identifiers, of which `Uri.parse` is the usual one
* `Uri.authority` - the part between the two slashes and the path
-/

namespace Supervisor

/-- What counts of an identifier: its scheme in lower case, its host unless empty, and its path. -/
structure Uri where
  scheme : String
  host : Option String
  path : String
  deriving DecidableEq, Repr

namespace Uri

/-- The families of schemes. -/
inductive Family where
  /-- Local files. -/
  | file
  /-- The schemes of the web, which name a host. -/
  | web
  /-- All others. -/
  | other
  deriving DecidableEq, Repr

/-- The family of a scheme. -/
def familyOf (scheme : String) : Family :=
  if scheme = "file" then .file
  else if ["http", "https", "ws", "wss", "ftp"].contains scheme then .web
  else .other

/-- What is read of a text: white space and control characters at its ends are left out, tabs and
line breaks everywhere. -/
def significant (s : String) : List Char :=
  (Text.trimWith (·.toNat ≤ 0x20) s.toList).filter fun c => !(['\t', '\n', '\r'].contains c)

/-- Whether a character can follow the first letter of a scheme. -/
def isSchemeChar (c : Char) : Bool := c.isAlpha || c.isDigit || c = '+' || c = '-' || c = '.'

/-- The scheme in lower case, and what follows its colon. -/
def cutScheme (cs : List Char) : Option (String × List Char) :=
  match cs.span isSchemeChar with
  | (c :: scheme, ':' :: rest) =>
    if c.isAlpha then some (String.ofList ((c :: scheme).map Text.lowerChar), rest) else none
  | _ => none

/-- Whether a character ends the part with the host. -/
def endsAuthority (family : Family) (c : Char) : Bool :=
  c = '/' || c = '?' || c = '#' || (family ≠ .other && c = '\\')

/-- What follows the last at sign of a part, and what precedes it. -/
def cutUser (part : List Char) : Option (List Char × List Char) :=
  if part.contains '@' then
    let host := (part.reverse.takeWhile (· ≠ '@')).reverse
    some ((part.take (part.length - host.length)).dropLast, host)
  else none

/-- The host of a part, up to a colon outside brackets, and the rest. -/
def cutHost (inside : Bool) : List Char → List Char × List Char
  | [] => ([], [])
  | c :: cs =>
    if c = ':' ∧ !inside then ([], c :: cs)
    else
      let (host, rest) := cutHost (if c = '[' then true else if c = ']' then false else inside) cs
      (c :: host, rest)

/-- Whether a port is a number below 65536 or missing. A backslash ends it. -/
def isPort (cs : List Char) : Bool :=
  let digits := cs.takeWhile (· ≠ '\\')
  digits = [] || ((digits? 10 digits).map (decide <| · < 65536)).getD false

/-- Characters that no host of another scheme holds. -/
def isForbiddenInHost (c : Char) : Bool :=
  c = '\x00' ||
    ['\t', '\n', '\r', ' ', '#', '/', ':', '<', '>', '?', '@', '[', '\\', ']', '^', '|'].contains c

/-- Checks a host of a scheme that is not of the web: an address in brackets or any text without
forbidden characters. Gives its text. -/
def checkHost (cs : List Char) : Except Error String :=
  match cs with
  | '[' :: inner =>
    if inner.getLast? = some ']' then
      match ipv6Pieces? inner.dropLast with
      | some ps => .ok ("[" ++ ipv6Text ps ++ "]")
      | none => .error .invalidIpv6
    else .error .invalidIpv6
  | _ =>
    if cs.any isForbiddenInHost then .error .invalidHostCharacter
    else .ok (String.ofList (encodeWith isControl cs))

/-- The part with user, host and port, given what precedes its end and what follows it. The user
may be missing, but where there is one, so is a host; a port needs a host, too. -/
def authority (family : Family) (part rest : List Char) : Except Error (Option String) := do
  let (user, part) := (cutUser part).map (fun (u, p) => (some u, p)) |>.getD (none, part)
  if user = some [] ∧ part = [] ∧ rest ≠ [] then throw .emptyHost
  let (host, port) := cutHost false part
  if family = .web ∧ host = [] then throw .emptyHost
  let text ← if family = .web then checkWebHost host else checkHost host
  if host = [] ∧ port ≠ [] then throw .emptyHost
  if !isPort (port.drop 1) then throw .invalidPort
  if text = "" then
    if (user.getD []) = [] ∨ user = some [':'] then return none
    else throw .emptyHost
  else return some text

/-- What precedes a query or a fragment. -/
def beforeQuery (cs : List Char) : List Char := cs.takeWhile fun c => c ≠ '?' ∧ c ≠ '#'

/-- The path behind the host: absolute, or empty where nothing follows. -/
def pathAfterHost (rest : List Char) : String :=
  match beforeQuery rest with
  | '/' :: path => pathText path
  | [] => ""
  | path => pathText path

/-- Reads what follows a scheme that is not of the web. -/
def parseOther (scheme : String) (cs : List Char) : Except Error Uri :=
  match cs with
  | '/' :: '/' :: cs => do
    let (part, rest) := cs.span (!endsAuthority .other ·)
    let host ← authority .other part rest
    return ⟨scheme, host, pathAfterHost rest⟩
  | '/' :: cs => .ok ⟨scheme, none, pathText (beforeQuery cs)⟩
  | cs => .ok ⟨scheme, none, opaqueText (beforeQuery cs)⟩

/-- A text with slashes for backslashes, up to its query or fragment. -/
def slashed (cs : List Char) : List Char :=
  (beforeQuery cs).map fun c => if c = '\\' then '/' else c

/-- Reads what follows a scheme of the web. -/
def parseWeb (scheme : String) (cs : List Char) : Except Error Uri := do
  let (part, rest) :=
    (cs.dropWhile fun c => c = '/' ∨ c = '\\').span (!endsAuthority .web ·)
  let host ← authority .web part rest
  return ⟨scheme, host, pathText ((slashed rest).drop 1)⟩

/-- Reads what follows the scheme of files. Two slashes introduce a host, unless it is the letter
of a drive; the local host is none. -/
def parseFile (cs : List Char) : Except Error Uri :=
  match slashed cs with
  | '/' :: '/' :: cs => do
    let (part, rest) := cs.span (· ≠ '/')
    if isDriveLetter part then return ⟨"file", none, pathText cs⟩
    if part = [] then return ⟨"file", none, pathText (rest.drop 1)⟩
    let host ← checkWebHost part
    return ⟨"file", if host = "localhost" then none else some host, pathText (rest.drop 1)⟩
  | '/' :: cs => .ok ⟨"file", none, pathText cs⟩
  | cs => .ok ⟨"file", none, pathText cs⟩

/-- Reads an identifier. -/
def parse (s : String) : Except Error Uri :=
  match cutScheme (significant s) with
  | none => .error .relative
  | some (scheme, rest) =>
    match familyOf scheme with
    | .file => parseFile rest
    | .web => parseWeb scheme rest
    | .other => parseOther scheme rest

/-- A way of reading identifiers. The client relies on no more than that a text is always read the
same way. -/
class Reader where
  read : String → Except Error Uri

/-- Identifiers usually are read as on the web. -/
instance : Reader := ⟨parse⟩

@[simp] theorem Reader.read_eq_parse (s : String) : Reader.read s = parse s := rfl

end Uri

end Supervisor

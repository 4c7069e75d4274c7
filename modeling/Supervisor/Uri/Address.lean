import Supervisor.Bytes.LittleEndian
import Supervisor.Text.Quoted
import Supervisor.Text.Split
import Supervisor.Uuid

/-!
# Numeric host addresses

## Main definitions

* `Uri.ipv6Pieces?` - the eight pieces of a version 6 address
* `Uri.ipv6Text` - its shortest form
* `Uri.endsInNumber`, `Uri.isIpv4` - which names have to be version 4 addresses, and which are
-/

namespace Supervisor.Uri

/-- The number that digits of a base stand for, if there is a digit and all are of that base. -/
def digits? (base : Nat) (cs : List Char) : Option Nat :=
  if cs = [] then none
  else cs.foldl (fun acc c => do
    let n ← acc
    let d ← Text.hexDigit? c
    if d < base then some (n * base + d) else none) (some 0)

/-- A piece of one to four hexadecimal digits. -/
def piece? (cs : List Char) : Option Nat := if cs.length ≤ 4 then digits? 16 cs else none

/-- A decimal number up to 255 without leading zeros. -/
def octet? (cs : List Char) : Option Nat := do
  let n ← digits? 10 cs
  if n ≤ 255 ∧ (cs.length = 1 ∨ cs.head? ≠ some '0') then some n else none

/-- Four decimal numbers between dots, as two pieces. -/
def dottedPieces? (cs : List Char) : Option (List Nat) := do
  match ← (Text.splitAtChar '.' cs).mapM octet? with
  | [a, b, c, d] => some [a * 256 + b, c * 256 + d]
  | _ => none

/-- Pieces between colons; the last one may be four decimal numbers. -/
def pieces? (dotted : Bool) : List (List Char) → Option (List Nat)
  | [] => some []
  | [last] =>
    match piece? last with
    | some n => some [n]
    | none => if dotted then dottedPieces? last else none
  | p :: ps => do return (← piece? p) :: (← pieces? dotted ps)

/-- The pieces of one side of a double colon. A side may be empty. -/
def side? (dotted : Bool) (cs : List Char) : Option (List Nat) :=
  if cs = [] then some [] else pieces? dotted (Text.splitAtChar ':' cs)

/-- A text before and after its first double colon. -/
def cutDoubleColon : List Char → Option (List Char × List Char)
  | ':' :: ':' :: rest => some ([], rest)
  | c :: rest => (cutDoubleColon rest).map fun (a, b) => (c :: a, b)
  | [] => none

/-- The eight pieces of a version 6 address. A double colon stands for at least one zero piece. -/
def ipv6Pieces? (cs : List Char) : Option (List Nat) :=
  match cutDoubleColon cs with
  | none => do
    let ps ← pieces? true (Text.splitAtChar ':' cs)
    if ps.length = 8 then some ps else none
  | some (before, after) => do
    let front ← side? false before
    let back ← side? true after
    if front.length + back.length ≤ 7 then
      some (front ++ List.replicate (8 - front.length - back.length) 0 ++ back)
    else none

/-- Where the longest run of zeros starts and how long it is; of equal ones the first. -/
def longestZeros (ps : List Nat) : Nat × Nat :=
  let runAt (i : Nat) := ((ps.drop i).takeWhile (· = 0)).length
  (List.range ps.length).foldl (fun best i => if best.2 < runAt i then (i, runAt i) else best) (0, 0)

/-- The shortest form of a version 6 address: the longest run of at least two zero pieces is
written as a double colon. -/
def ipv6Text (ps : List Nat) : String :=
  let (start, length) := longestZeros ps
  let colons (xs : List Nat) := ":".intercalate (xs.map Text.hexDigits)
  if 2 ≤ length then colons (ps.take start) ++ "::" ++ colons (ps.drop (start + length))
  else colons ps

/-- The number in one part of a version 4 address: hexadecimal after 0x, octal after 0, decimal
otherwise. -/
def ipv4Number? : List Char → Option Nat
  | [] => none
  | ['0', 'x'] | ['0', 'X'] => some 0
  | '0' :: 'x' :: cs | '0' :: 'X' :: cs => digits? 16 cs
  | ['0'] => some 0
  | '0' :: cs => digits? 8 cs
  | cs => digits? 10 cs

/-- The parts of a domain name; a dot at its end separates nothing. -/
def domainParts (cs : List Char) : List (List Char) :=
  let parts := Text.splitAtChar '.' cs
  if parts.getLast? = some [] ∧ 1 < parts.length then parts.dropLast else parts

/-- Whether a domain name has to be a version 4 address: its last part is a number. -/
def endsInNumber (cs : List Char) : Bool :=
  match (domainParts cs).getLast? with
  | some last => (last ≠ [] && last.all fun c => '0' ≤ c ∧ c ≤ '9') || (ipv4Number? last).isSome
  | none => false

/-- Whether a domain name is a version 4 address: at most four numbers, all but the last below 256,
and the last one fills the remaining bytes. -/
def isIpv4 (cs : List Char) : Bool :=
  let parts := domainParts cs
  match parts.mapM ipv4Number? with
  | some ns =>
    parts.length ≤ 4 &&
      match ns.reverse with
      | [] => false
      | last :: front => last < Bytes.limit (4 - front.length) && front.all (· < 256)
  | none => false

end Supervisor.Uri

import Supervisor.Uri.Address
import Supervisor.Uri.Percent

/-!
# Paths

A path is a sequence of segments. A segment of one dot stands for nothing, one of two dots takes
back the segment before it.

## Main definitions

* `Uri.resolve` - the segments of a path after dots were resolved
* `Uri.pathText` - the text of an absolute path
* `Uri.opaqueText` - the text of a path that does not start with a slash
-/

namespace Supervisor.Uri

/-- One dot, written plainly or as a number. -/
def isDot (s : List Char) : Bool := [['.'], ['%', '2', 'e'], ['%', '2', 'E']].contains s

/-- Two dots, each written plainly or as a number. The first one takes at most three characters. -/
def isDoubleDot (s : List Char) : Bool :=
  (List.range 4).any fun n => isDot (s.take n) && isDot (s.drop n)

/-- A letter with a colon or a bar, as disks are named. -/
def isDriveLetter : List Char → Bool
  | [c, d] => c.isAlpha && (d == ':' || d == '|')
  | _ => false

/-- A segment that starts with the name of a disk, alone or in front of a backslash. -/
def startsWithDrive (s : List Char) : Bool :=
  isDriveLetter (s.take 2) && ((s.drop 2).head?.all (· == '\\'))

/-- Takes back the last segment, unless it starts with the name of a disk. Segments are given with
the latest first. -/
def parent : List (List Char) → List (List Char)
  | [] => []
  | s :: done => if startsWithDrive s then s :: done else done

/-- The segments after dots were resolved, the latest first, given those before. Dots at the end
leave an empty segment. -/
def resolve (done : List (List Char)) : List (List Char) → List (List Char)
  | [] => done
  | [last] =>
    if isDoubleDot last then [] :: parent done
    else if isDot last then [] :: done
    else last :: done
  | s :: rest =>
    if isDoubleDot s then resolve (parent done) rest
    else if isDot s then resolve done rest
    else resolve (s :: done) rest

/-- The text of an absolute path, given without its first slash. -/
def pathText (cs : List Char) : String :=
  let segments := resolve [] (Text.splitAtChar '/' (encodeWith isOutsidePath cs))
  String.ofList (segments.reverse.flatMap ('/' :: ·))

/-- The text of a path that does not start with a slash. -/
def opaqueText (cs : List Char) : String := String.ofList (encodeWith isControl cs)

end Supervisor.Uri

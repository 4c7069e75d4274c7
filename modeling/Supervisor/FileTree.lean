import Supervisor.Fault
import Supervisor.Text.Split

/-!
# Files and the paths to them

A run meets files in three ways: it looks for a program to start, reads a descriptor, and connects
to a socket. What it meets depends on where a path leads. A path is followed step by step, and every
step has to start at a directory, even one that stays there or goes back.

## Main definitions

* `FileTree` - directories and files, and where relative paths start
* `FileTree.follow` - where a path leads
* `FileTree.read`, `FileTree.isRunnable`, `FileTree.refusal` - the three ways of meeting a file
-/

namespace Supervisor

/-- The steps from the root to a file or directory. -/
abbrev Place := List String

/-- What stands at a place. -/
inductive Entry where
  | directory
  | file (content : List UInt8) (runnable : Bool)
  deriving DecidableEq, Repr

/-- Directories and files. -/
structure FileTree where
  /-- All places but the root where something stands. -/
  entries : List (Place × Entry)
  /-- Where relative paths start. -/
  here : Place
  deriving Repr

namespace FileTree

/-- What stands at a place, if anything does. -/
def entry? (t : FileTree) (p : Place) : Option Entry :=
  if p = [] then some .directory else t.entries.lookup p

/-- The steps of a path. A slash at its end is a step that stays where it is. -/
def steps (path : String) : List String := (Text.splitAtChar '/' path.toList).map String.ofList

/-- The longest name of a file, in bytes. -/
def longestName : Nat := 255

/-- The longest path, in bytes. -/
def longestPath : Nat := 4095

/-- Where one step leads. -/
def step (t : FileTree) (p : Place) (name : String) : Except Fault Place :=
  match t.entry? p with
  | none => .error .noSuchFile
  | some (.file _ _) => .error .notADirectory
  | some .directory =>
    if name = "" ∨ name = "." then .ok p
    else if name = ".." then .ok p.dropLast
    else if longestName < name.utf8ByteSize then .error .nameTooLong
    else if (t.entry? (p ++ [name])).isSome then .ok (p ++ [name])
    else .error .noSuchFile

/-- Where a path leads, and what stands there. -/
def follow (t : FileTree) (path : String) : Except Fault (Place × Entry) := do
  if path.toList.contains '\x00' then throw .nulInPath
  if path = "" then throw .noSuchFile
  if longestPath < path.utf8ByteSize then throw .nameTooLong
  let p ← (steps path).foldlM t.step (if path.startsWith "/" then [] else t.here)
  match t.entry? p with
  | some e => return (p, e)
  | none => throw .noSuchFile

/-- The content of a file. -/
def read (t : FileTree) (path : String) : Except Fault (List UInt8) := do
  match (← t.follow path).2 with
  | .file content _ => return content
  | .directory => throw .isADirectory

/-- Whether a path leads to something that may be run. Directories count. -/
def isRunnable (t : FileTree) (path : String) : Bool :=
  match t.follow path with
  | .ok (_, .directory) => true
  | .ok (_, .file _ runnable) => runnable
  | .error _ => false

/-- Why nobody answers at a path. -/
def refusal (t : FileTree) (path : String) : Fault :=
  match t.follow path with
  | .ok _ => .connectionRefused
  | .error fault => fault

/-- A tree with one more file, given by its steps from where relative paths start. -/
def insert (t : FileTree) (p : Place) (content : List UInt8) : FileTree :=
  { t with entries := (t.here ++ p, .file content false) :: t.entries }

end FileTree

end Supervisor

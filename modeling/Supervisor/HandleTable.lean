import Supervisor.Uuid

/-!
# Counting handles

A session counts how many handles it gave out for every domain and network. The first handle for an
identifier fixes its name; the entry disappears with the last handle.

## Main definitions

* `HandleTable` - entries in the order in which they became live
* `HandleTable.acquire`, `HandleTable.release` - one handle more, one handle less
* `HandleTable.references`, `HandleTable.contains`, `HandleTable.size`
-/

namespace Supervisor

/-- What a session manages. -/
inductive ObjectKind where
  | domain
  | network
  deriving DecidableEq, Repr

/-- The word for it in messages. -/
def ObjectKind.word : ObjectKind → String
  | domain => "domain"
  | network => "network"

namespace HandleTable

/-- A live identifier: its name and how many handles are out. -/
structure Entry where
  uuid : Uuid
  name : String
  references : Nat
  deriving DecidableEq

/-- Why a handle cannot be counted. -/
inductive Error where
  /-- The identifier is live under another name. -/
  | nameConflict (kind : ObjectKind) (uuid : Uuid) (existing requested : String)
  /-- The identifier is not live. -/
  | unknown (kind : ObjectKind) (uuid : Uuid)
  deriving DecidableEq

/-- What the user is told. -/
def Error.message : Error → String
  | nameConflict kind uuid existing requested =>
    s!"{kind.word} {uuid} is registered as '{existing}', not '{requested}'"
  | unknown kind uuid => s!"{kind.word} {uuid} is not registered"

end HandleTable

/-- The live handles of one kind of objects. -/
structure HandleTable where
  kind : ObjectKind
  entries : List HandleTable.Entry
  deriving DecidableEq

namespace HandleTable

/-- No handle is out. -/
def empty (kind : ObjectKind) : HandleTable := ⟨kind, []⟩

/-- The entry of an identifier. -/
def find? (t : HandleTable) (uuid : Uuid) : Option Entry := t.entries.find? (·.uuid = uuid)

/-- How many handles are out for an identifier. -/
def references (t : HandleTable) (uuid : Uuid) : Nat := ((t.find? uuid).map (·.references)).getD 0

/-- Whether an identifier is live. -/
def contains (t : HandleTable) (uuid : Uuid) : Bool := (t.find? uuid).isSome

/-- How many identifiers are live. -/
def size (t : HandleTable) : Nat := t.entries.length

/-- Whether no identifier is live. -/
def isEmpty (t : HandleTable) : Bool := t.entries.isEmpty

/-- Counts one more handle and gives their number. An identifier that is not live becomes live
under the given name; for a live one the name has to be its own. -/
def acquire (t : HandleTable) (uuid : Uuid) (name : String) :
    Except Error (Nat × HandleTable) :=
  match t.find? uuid with
  -- The first handle fixes the name.
  | none => .ok (1, { t with entries := t.entries ++ [⟨uuid, name, 1⟩] })
  | some e =>
    if e.name = name then
      .ok (e.references + 1, { t with entries := t.entries.map fun e =>
        if e.uuid = uuid then { e with references := e.references + 1 } else e })
    else .error (.nameConflict t.kind uuid e.name name)

/-- Counts one handle less and gives how many remain. -/
def release (t : HandleTable) (uuid : Uuid) : Except Error (Nat × HandleTable) :=
  match t.find? uuid with
  | none => .error (.unknown t.kind uuid)
  | some e =>
    if e.references ≤ 1 then
      .ok (0, { t with entries := t.entries.filter (·.uuid ≠ uuid) })
    else
      .ok (e.references - 1, { t with entries := t.entries.map fun e =>
        if e.uuid = uuid then { e with references := e.references - 1 } else e })

end HandleTable

end Supervisor

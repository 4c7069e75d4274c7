import Supervisor.Diagnostics
import Supervisor.Endpoint.Selector
import Supervisor.Json

/-!
# Settings in stored form

Settings are stored as values. A choice is stored by its name, a group of settings as an object; it
may also be stored as an array of its members in order. Members without a meaning are ignored.
Reading checks the form only, not whether the settings can be used.

## Main definitions

* `Stored` - a type with a stored form
* the forms of `Scope`, `Access`, `Address`, `LogFormat`, `Diagnostics` and of a scope in a group
-/

namespace Supervisor

/-- A type with a stored form. -/
class Stored (α : Type) where
  store : α → Json
  load? : Json → Option α

export Stored (store load?)

namespace Stored

/-- The choice that a name stands for. A choice may be stored as an object whose only member has
its name and no value. -/
def choice? {α : Type} (choices : List (String × α)) : Json → Option α
  | .string s => (choices.find? (·.1 = s)).map (·.2)
  | .object [(s, .null)] => (choices.find? (·.1 = s)).map (·.2)
  | _ => none

/-- The members of a group in the order of their names. -/
def members? (names : List String) : Json → Option (List Json)
  | .object members => names.mapM (Json.member? · members)
  | .array elements => if elements.length = names.length then some elements else none
  | _ => none

/-- The stored form of a text. -/
def text? : Json → Option String
  | .string s => some s
  | _ => none

end Stored

instance : Stored Scope where
  store
    | .system => .string "system"
    | .session => .string "session"
  load? := Stored.choice? [("system", .system), ("session", .session)]

instance : Stored Access where
  store
    | .readWrite => .string "read_write"
    | .readOnly => .string "read_only"
  load? := Stored.choice? [("read_write", .readWrite), ("read_only", .readOnly)]

instance : Stored LogFormat where
  store f := .string f.name
  load? := Stored.choice? [("json", .json), ("compact", .compact)]

instance : Stored Address where
  store a := .object [("raw", .string a.text)]
  load? v := do
    match ← Stored.members? ["raw"] v with
    | [text] => return ⟨← Stored.text? text⟩
    | _ => none

instance : Stored Diagnostics where
  store d := .object [("filter", .string d.filter), ("format", store d.format)]
  load? v := do
    match ← Stored.members? ["filter", "format"] v with
    | [filter, format] => return ⟨← Stored.text? filter, ← load? format⟩
    | _ => none

/-- The settings of a connection, which consist of the daemon that is meant. -/
structure Selection where
  scope : Scope
  deriving DecidableEq, Repr

instance : Stored Selection where
  store s := .object [("scope", store s.scope)]
  load? v := do
    match ← Stored.members? ["scope"] v with
    | [scope] => return ⟨← load? scope⟩
    | _ => none

end Supervisor

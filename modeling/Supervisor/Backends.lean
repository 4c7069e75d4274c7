import Supervisor.Backend
import Supervisor.Text.Blank

/-!
# The backends of a client

A client may have several backends. Each is known by its name and its scheme, in any letter case;
an identifier is opened by the first backend whose scheme it has.

## Main definitions

* `Backends.lookup?` - the backend with a name or scheme
* `Backends.register` - one backend more, unless its name is taken
* `Backends.session` - opens a session with the backend for an identifier
-/

namespace Supervisor

/-- The backends of a client, in the order in which they were registered. -/
structure Backends (σ : Type) where
  toList : List (Backend σ)

namespace Backends

variable {σ : Type}

/-- No backend. -/
def empty : Backends σ := ⟨[]⟩

/-- The backend with the given name or scheme, in any letter case. -/
def lookup? (bs : Backends σ) (name : String) : Option (Backend σ) :=
  bs.toList.find? fun b => Text.equalFold b.name name || Text.equalFold b.scheme name

/-- Adds a backend, unless its name finds another one. -/
def register (bs : Backends σ) (b : Backend σ) : Except CallError (Backends σ) :=
  match bs.lookup? b.name with
  | some _ => .error (.duplicateDriver b.name)
  | none => .ok ⟨bs.toList ++ [b]⟩

/-- The backend that opens an identifier. -/
def forUri? [Uri.Reader] (bs : Backends σ) (uri : String) : Option (Backend σ) :=
  match Uri.Reader.read uri with
  | .ok u => bs.toList.find? (·.scheme = u.scheme)
  | .error _ => none

/-- Opens a session with the backend for an identifier. -/
def session [Uri.Reader] (bs : Backends σ) (uri : String) (flags : OpenFlags) : Opened σ :=
  match bs.forUri? uri with
  | some b => b.session uri flags
  | none => .refused (.noDriver uri)

/-- The names of all backends. -/
def names (bs : Backends σ) : List String := bs.toList.map (·.name)

/-- How the backends appear in the log. -/
def describe (bs : Backends σ) : String := Text.quotedList bs.names

end Backends

end Supervisor

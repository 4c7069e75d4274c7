import Supervisor.Connect
import Supervisor.Session.Basic

/-!
# Opening sessions

A backend opens sessions with the daemon that an identifier names. Domains need an identifier of
the backend's own; for networks any other identifier means the usual daemon, because networks are
managed by this backend whatever manages the domains.

## Main definitions

* `Machine` - what opening a session depends on
* `Opened` - a session or the reason why there is none
* `Backend` - what opens sessions
* `Backend.supervisor` - the backend of the supervisor daemon
-/

namespace Supervisor

/-- What opening a session depends on. -/
structure Machine (σ : Type) where
  user : User
  /-- What comes of dialling an address after a number of starts of the daemon. -/
  dial : Address → Nat → Except Fault (Stream σ)
  /-- What comes of starting the daemon after a number of other starts. -/
  launch : Nat → Launch.Outcome

/-- Whether the client runs for the superuser. -/
def Machine.superuser {σ : Type} (m : Machine σ) : Bool := m.user.isSuperuser

/-- The home directory of the user, or why it is not known. -/
def Machine.home {σ : Type} (m : Machine σ) : Except Endpoint.Error String := m.user.home

/-- How a session is opened. -/
structure OpenFlags where
  readOnly : Bool
  /-- Identifiers that are not recognised are refused without a report. -/
  quiet : Bool
  deriving DecidableEq, Repr

/-- What a session may do. -/
def OpenFlags.access (f : OpenFlags) : Access := if f.readOnly then .readOnly else .readWrite

/-- A session or the reason why there is none, the steps taken to connect, and what was reported and
logged on the way. -/
structure Opened (σ : Type) where
  outcome : Except CallError (Session σ)
  steps : List Connect.Step
  journal : Journal

/-- An attempt that was refused at once. -/
def Opened.refused {σ : Type} (e : CallError) : Opened σ := ⟨.error e, [], .empty⟩

/-- How many times the daemon was started. -/
def Opened.launches {σ : Type} (o : Opened σ) : Nat := o.steps.count .launch

/-- What opens sessions. -/
structure Backend (σ : Type) where
  name : String
  scheme : String
  /-- A session with the daemon that an identifier names. -/
  session : String → OpenFlags → Opened σ
  /-- A session for networks, with or without an identifier. -/
  networkSession : Option String → OpenFlags → Opened σ

namespace Backend

variable {σ : Type} [Uri.Reader]

/-- The entry in the log for a session that is about to be opened. -/
def openingEntry (uri : String) (address : Address) : Event :=
  { level := .debug, source := .dispatch, message := "opening supervisor connection",
    fields := [("uri", uri), ("address", address.display)] }

/-- Connects to the daemon that an identifier names. -/
def establish (m : Machine σ) (retry : Retry) (sink : Sink) (uri : String) (flags : OpenFlags) :
    Opened σ :=
  match Scope.ofUri uri with
  | .error e => .refused (.endpoint e)
  | .ok scope =>
    match scope.address m.home flags.access with
    | .error e => .refused (.endpoint e)
    | .ok address =>
      let journey := Connect.run address retry (m.dial address) (some m.launch)
      let journal : Journal := ⟨[], openingEntry uri address :: journey.events⟩
      match journey.outcome with
      | .ok stream => ⟨.ok (.start stream address flags.access sink journal), journey.steps, journal⟩
      | .error e => ⟨.error (.connect e), journey.steps, journal⟩

/-- Connects to the daemon that an identifier names. A failure is reported, unless the identifier is
merely not recognised and nobody wants to hear of that. -/
def connect (m : Machine σ) (retry : Retry) (sink : Sink) (uri : String) (flags : OpenFlags) :
    Opened σ :=
  let opened := establish m retry sink uri flags
  match opened.outcome with
  | .ok _ => opened
  | .error e =>
    if flags.quiet && e.isUnrecognised then opened
    else { opened with journal := opened.journal.add sink (e.report none) }

/-- The identifier that is used for networks: the given one if it has the scheme of the supervisor
daemon, and the default otherwise. -/
def networkUri (superuser : Bool) (uri : Option String) : String :=
  let own := uri.filter fun s =>
    match Uri.Reader.read s with
    | .ok u => u.scheme = Supervisor.scheme
    | .error _ => false
  own.getD (defaultUri superuser)

/-- The name of the backend of the supervisor daemon. -/
def supervisorName : String := "QEMU"

/-- The backend of the supervisor daemon. -/
def supervisor (m : Machine σ) (retry : Retry) (sink : Sink) : Backend σ :=
  { name := supervisorName
    scheme := Supervisor.scheme
    session := connect m retry sink
    networkSession := fun uri => connect m retry sink (networkUri m.superuser uri) }

/-- How the backend of the supervisor daemon appears in the log. -/
def describe (retry : Retry) : String :=
  "QemuDriver \x7b retry: " ++ retry.describe ++ ", .. \x7d"

end Backend

end Supervisor

import Supervisor.Backends
import Supervisor.CommandLine.Execute
import Supervisor.CommandLine.Usage

/-!
# Runs of the command line

A run reads the command line, opens a session, carries out the command, closes the session, and
only then writes the result. If anything fails, nothing but the reason is written.

## Main definitions

* `Surroundings` - what a run depends on
* `Deed`, `Run` - what a run does, in order, and what it leaves behind
* `Invocation.perform` - carries out what a command line asks for
* `Run.start` - a whole run
-/

namespace Supervisor

/-- What a run depends on. -/
structure Surroundings (σ : Type) where
  machine : Machine σ
  environment : String → Option String
  files : Files
  /-- Whether the output goes to a terminal. -/
  terminal : Bool
  /-- Whether the log is already set up, so that its filter is not looked at any more. -/
  logReady : Bool
  /-- What sets the log up if it is not. -/
  logging : Diagnostics.Library
  /-- How many bytes of output are taken before writing fails. -/
  outputRoom : Option Nat
  /-- How many bytes of messages are taken before writing fails. -/
  messageRoom : Option Nat

/-- What a run does that can be told from outside. -/
inductive Deed where
  /-- Adds an entry to the log. -/
  | log (entry : Event)
  /-- Ends the session. -/
  | close
  /-- Writes to the output what is taken of it. -/
  | output (bytes : List UInt8)
  /-- Writes to the messages what is taken of them. -/
  | message (bytes : List UInt8)
  deriving DecidableEq

namespace Deed

/-- The bytes of output. -/
def written : Deed → List UInt8
  | output bytes => bytes
  | _ => []

/-- The bytes of messages. -/
def said : Deed → List UInt8
  | message bytes => bytes
  | _ => []

/-- The entry of the log. -/
def entry? : Deed → Option Event
  | log e => some e
  | _ => none

end Deed

/-- What a run leaves behind. -/
structure Run (σ : Type) where
  exitCode : UInt8
  /-- The closed session, if one was opened. -/
  session : Option (Session σ)
  /-- What was done, in order. -/
  deeds : List Deed

namespace Run

variable {σ : Type}

/-- All output. -/
def output (r : Run σ) : List UInt8 := r.deeds.flatMap Deed.written

/-- All messages. -/
def messages (r : Run σ) : List UInt8 := r.deeds.flatMap Deed.said

/-- The log. -/
def events (r : Run σ) : List Event := r.deeds.filterMap Deed.entry?

end Run

/-- What is taken of the bytes that are written, and whether that is all of them. -/
def accepted (room : Option Nat) (bytes : List UInt8) : List UInt8 × Bool :=
  match room with
  | none => (bytes, true)
  | some n => (bytes.take n, bytes.length ≤ n)

/-- The result of a command or the reason against it, the closed session, and what was done for
it. -/
structure Performed (σ : Type) where
  outcome : Except RunError Outcome
  session : Option (Session σ)
  deeds : List Deed

namespace Invocation

variable {σ : Type} [Uri.Reader]

/-- The backends of the command line. -/
def backends (m : Machine σ) : Backends σ := ⟨[.supervisor m .default .log]⟩

/-- Opens the session for a command. Commands about networks let the backend choose what to do with
an identifier that is not its own. -/
def openSession (m : Machine σ) (i : Invocation) : Opened σ :=
  let flags : OpenFlags := ⟨i.readOnly, false⟩
  let bs := backends m
  if i.command.isForNetworks then
    match bs.lookup? Supervisor.scheme with
    | some b => b.networkSession i.uri flags
    | none => .refused (.noDriver (i.uri.getD (defaultUri m.superuser)))
  else bs.session (i.uri.getD (defaultUri m.superuser)) flags

/-- Sets the log up, unless that was done before. -/
def prepare (w : Surroundings σ) (i : Invocation) : Except Diagnostics.Error Unit :=
  if w.logReady then .ok () else (Diagnostics.resolve i.logFilter i.logFormat).install w.logging

/-- Carries out what a command line asks for. The session is closed whether the command succeeded
or not. -/
def perform [Peer σ] (w : Surroundings σ) (i : Invocation) : Performed σ :=
  match i.prepare w with
  | .error e => ⟨.error (.log e), none, []⟩
  | .ok () =>
    let opened := openSession w.machine i
    match opened.outcome with
    | .error e => ⟨.error (.call e), none, opened.journal.events.map .log⟩
    | .ok session =>
      let (outcome, session) := session.execute w.files i.command
      let closed := session.close
      -- Closing may add to the log, and what it adds comes after everything else in it.
      let farewell := closed.journal.events.drop session.journal.events.length
      ⟨outcome, some closed, session.journal.events.map .log ++ .close :: farewell.map .log⟩

end Invocation

namespace Run

variable {σ : Type}

/-- The line that says why a run failed. -/
def failureLine (e : RunError) : String := s!"{programName}: {e.message}\n"

/-- A run that ends before a command is known. Answers to questions are output, mistakes are
messages. -/
def stopped (w : Surroundings σ) (stop : Stop) : Run σ :=
  let text := Text.utf8 stop.text
  if stop.isMistake then
    let (messages, complete) := accepted w.messageRoom text
    ⟨if complete then 2 else 1, none, [.message messages]⟩
  else
    let (output, complete) := accepted w.outputRoom text
    ⟨if complete then 0 else 1, none, [.output output]⟩

/-- A run that did some things and then failed. -/
def failed (w : Surroundings σ) (session : Option (Session σ)) (deeds : List Deed) (e : RunError) :
    Run σ :=
  let (messages, _) := accepted w.messageRoom (Text.utf8 (failureLine e))
  ⟨1, session, deeds ++ [.message messages]⟩

/-- Writes the result of a command. -/
def finished (w : Surroundings σ) (i : Invocation) (p : Performed σ) : Run σ :=
  match p.outcome with
  | .error e => failed w p.session p.deeds e
  | .ok outcome =>
    let text := outcome.render (i.output.resolve w.terminal)
    let (output, complete) := accepted w.outputRoom (Text.utf8 text)
    let deeds := p.deeds ++ [.output output]
    if complete then ⟨0, p.session, deeds⟩ else failed w p.session deeds (.output .brokenPipe)

/-- A whole run with the given words behind the name of the program. -/
def start [Uri.Reader] [Peer σ] (w : Surroundings σ) (words : List String) : Run σ :=
  match Invocation.parse w.environment words with
  | .error stop => stopped w stop
  | .ok i => finished w i (i.perform w)

end Run

end Supervisor

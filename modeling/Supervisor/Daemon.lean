import Supervisor.Stream
import Supervisor.Wire.Codec

/-!
# Daemons at the far end of a stream

A daemon reads one request at a time and answers it before it reads the next one. Two kinds are
given here: one that computes its replies, and one that plays back prepared bytes, whatever it is
asked.

## Main definitions

* `Daemon.received?` - the request in the bytes that a client wrote
* `Served` - a daemon as a state machine from requests to replies
* `Playback` - a daemon with prepared answers, which hangs up after the last one
-/

namespace Supervisor

open Wire

namespace Daemon

/-- Whether bytes start with a header and all of the payload that it declares. -/
def isComplete (bytes : List UInt8) : Bool :=
  headerSize ≤ bytes.length &&
    headerSize + (Header.decode bytes).payloadSize.toNat ≤ bytes.length

/-- The request in the bytes that a client wrote. -/
def received? (bytes : List UInt8) : Option Request :=
  if isComplete bytes then
    match Frame.forHeader (Header.decode bytes) (bytes.drop headerSize) with
    | .ok frame => (Request.decode frame).toOption
    | .error _ => none
  else none

/-- The operation under which a reply is sent: failures have a tag of their own. -/
def answeredUnder (op : Operation) : Reply → Operation
  | .failure _ => .failure
  | _ => op

end Daemon

/-- A daemon as a state machine, and the requests it has received. -/
structure Served (δ : Type) where
  step : δ → Request → Reply × δ
  state : δ
  requests : List Request

namespace Served

variable {δ : Type}

/-- A daemon that was not asked anything yet. -/
def start (step : δ → Request → Reply × δ) (state : δ) : Served δ := ⟨step, state, []⟩

/-- Answers what a client wrote. Bytes without a request, and replies that do not fit the wire
format, are answered by nothing. -/
def answer (d : Served δ) (bytes : List UInt8) : List UInt8 × Served δ :=
  match Daemon.received? bytes with
  | none => ([], d)
  | some r =>
    let (reply, state) := d.step d.state r
    let d := { d with state, requests := d.requests ++ [r] }
    match reply.encode (Daemon.answeredUnder r.operation reply) with
    | .ok frame => (frame.toBytes, d)
    | .error _ => ([], d)

instance : Peer (Served δ) := ⟨answer⟩

end Served

/-- A daemon that answers with prepared bytes. It notes what it is asked, and it hangs up when it
has no answer left or has sent one that is not complete. -/
structure Playback where
  answers : List (List UInt8)
  requests : List Request
  hungUp : Bool

namespace Playback

/-- A daemon that was not asked anything yet. -/
def start (answers : List (List UInt8)) : Playback := ⟨answers, [], false⟩

/-- Answers what a client wrote with the next prepared bytes. -/
def answer (d : Playback) (bytes : List UInt8) : List UInt8 × Playback :=
  if d.hungUp then ([], d)
  else
    match Daemon.received? bytes with
    | none => ([], { d with hungUp := true })
    | some r =>
      match d.answers with
      | [] => ([], ⟨[], d.requests ++ [r], true⟩)
      | next :: rest => (next, ⟨rest, d.requests ++ [r], !Daemon.isComplete next⟩)

instance : Peer Playback := ⟨answer⟩

end Playback

end Supervisor

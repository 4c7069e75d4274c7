import Supervisor.Event
import Supervisor.Stream
import Supervisor.Wire.Codec

/-!
# One request and its reply

Frames carry no number that would pair a reply with its request, so a stream holds at most one
request at a time. A failed transfer or a malformed header leaves the stream at an unknown place,
and whoever uses it has to give it up.

## Main definitions

* `Exchange.Error` - how an exchange fails
* `Exchange.transfer` - moves a request there and a frame back
* `Exchange.judge` - what the received frame is as an answer
* `Exchange.run` - both, with an entry in the log
-/

namespace Supervisor.Exchange

open Wire

/-- How an exchange fails. -/
inductive Error where
  /-- The request could not be sent. -/
  | send (fault : Fault)
  /-- No complete reply arrived. -/
  | receive (fault : Fault)
  /-- The reply does not follow the format. -/
  | malformed (error : Wire.Error)
  /-- The daemon answered with a failure. -/
  | remote (failure : Failure)
  /-- The reply belongs to another operation. -/
  | unexpectedReply (expected received : UInt32)
  deriving DecidableEq, Repr

/-- What the user is told. -/
def Error.message : Error → String
  | send fault => s!"failed to send request: {fault.message}"
  | receive fault => s!"failed to receive reply: {fault.message}"
  | malformed error => error.message
  | remote failure => s!"daemon reported failure {failure.code.toInt}"
  | unexpectedReply expected received => s!"expected reply tag {expected}, received {received}"

variable {σ : Type}

/-- Reads one frame. The declared size is checked before any byte of the payload is read. -/
def receiveFrame (s : Stream σ) : Except Error Frame × Stream σ :=
  match s.readExact headerSize with
  | (.error fault, s) => (.error (.receive fault), s)
  | (.ok bytes, s) =>
    let header := Header.decode bytes
    match header.checkedSize with
    | .error e => (.error (.malformed e), s)
    | .ok size =>
      match s.readExact size with
      | (.error fault, s) => (.error (.receive fault), s)
      | (.ok body, s) => ((Frame.forHeader header body).mapError .malformed, s)

/-- Sends a request and reads one frame. -/
def transfer [Peer σ] (s : Stream σ) (request : Frame) : Except Error Frame × Stream σ :=
  match s.writeAll request.toBytes with
  | (.error fault, s) => (.error (.send fault), s)
  | (.ok (), s) =>
    match s.flush with
    | (.error fault, s) => (.error (.send fault), s)
    | (.ok (), s) => receiveFrame s

/-- What a received frame is as the answer to a request: the reply if the tags agree, a failure of
the daemon under the reserved tag, and a mismatch otherwise. -/
def judge (request reply : Frame) : Except Error Frame :=
  if reply.header.tag = request.header.tag then .ok reply
  else if reply.header.tag = Operation.failure.tag then
    match Reply.decode reply with
    | .ok (.failure failure) => .error (.remote failure)
    | .ok _ => .error (.unexpectedReply request.header.tag reply.header.tag)
    | .error e => .error (.malformed e)
  else .error (.unexpectedReply request.header.tag reply.header.tag)

/-- The entry in the log for two frames that crossed. -/
def logEntry (request reply : Frame) : Event :=
  { level := .trace, source := .protocol, message := "exchanged frames",
    fields := [("request", toString request.header.tag), ("reply", toString reply.header.tag),
      ("size", toString reply.header.payloadSize)] }

/-- Sends a request and takes the answer. -/
def run [Peer σ] (s : Stream σ) (request : Frame) :
    Except Error Frame × Stream σ × List Event :=
  match transfer s request with
  | (.error e, s) => (.error e, s, [])
  | (.ok reply, s) => (judge request reply, s, [logEntry request reply])

end Supervisor.Exchange

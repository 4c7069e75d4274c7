import Supervisor.Exchange
import Supervisor.Proofs.Stream
import Supervisor.Proofs.Wire.Codec

/-!
# What an exchange does to a stream

Either an exchange ends in an error after which the stream has to be given up, or a whole request
frame went there and a whole frame came back. Which of the two it is does not depend on how the
frame is judged: a failure of the daemon and a reply to something else leave the stream at the
start of a frame as well.

## Main results

* `Exchange.Error.Loses` - the stream is at an unknown place
* `Exchange.Crossed` - a whole frame went each way
* `Exchange.run_spec` - one of them holds after an exchange
* `Exchange.run_of_smooth` - without faults, the frame that the peer answers is judged
-/

namespace Supervisor.Exchange

open Wire

variable {σ : Type}

/-- How a transfer of frames fails: the stream is at an unknown place then. -/
inductive Error.Loses : Error → Prop where
  | send (fault : Fault) : Loses (.send fault)
  | receive (fault : Fault) : Loses (.receive fault)
  | oversized {size : UInt32} (large : payloadCapacity < size.toNat) :
    Loses (.malformed (.oversized size))

/-- A whole frame went each way: the request was handed over to the peer, and what arrived by then
is the reply and what waits now. -/
structure Crossed [Peer σ] (s s' : Stream σ) (request reply : Frame) : Prop where
  sent : s'.sent = s.sent ++ request.toBytes
  flushed : s'.unflushed = []
  peer : s'.peer = (Peer.answer s.peer (s.unflushed ++ request.toBytes)).2
  arrived : s.incoming ++ (Peer.answer s.peer (s.unflushed ++ request.toBytes)).1 =
    reply.toBytes ++ s'.incoming
  padded : reply.IsPadded

/-- A header that was read and the body that it declares are the bytes of the frame they make. -/
theorem toBytes_of_forHeader {bytes body : List UInt8} {f : Frame}
    (header : bytes.length = headerSize)
    (size : (Header.decode bytes).checkedSize = .ok body.length)
    (made : Frame.forHeader (Header.decode bytes) body = .ok f) :
    f.toBytes = bytes ++ body ∧ f.IsPadded := by
  obtain ⟨same, padded, whole⟩ := Frame.of_forHeader made
  have length := (Header.checkedSize_eq_ok_iff.1 size).1
  rw [Frame.toBytes, same, whole length, Header.encode_decode header]
  exact ⟨rfl, padded⟩

theorem loses_of_checkedSize {h : Header} {e : Wire.Error} (refused : h.checkedSize = .error e) :
    (Error.malformed e).Loses := by
  unfold Header.checkedSize at refused
  split at refused
  · cases refused
  · next large =>
    cases refused
    exact .oversized (Nat.not_le.1 large)

theorem loses_of_forHeader {h : Header} {body : List UInt8} {e : Wire.Error}
    (refused : Frame.forHeader h body = .error e) : (Error.malformed e).Loses := by
  unfold Frame.forHeader at refused
  split at refused
  · cases refused
  · next large =>
    cases refused
    exact .oversized (Nat.not_le.1 large)

/-- A frame that was received is what was taken off the stream. -/
theorem receiveFrame_spec (s : Stream σ) :
    (∃ e s', receiveFrame s = (.error e, s') ∧ e.Loses) ∨
      ∃ reply rest pace, receiveFrame s = (.ok reply, s.readTo rest pace) ∧
        s.incoming = reply.toBytes ++ rest ∧ reply.IsPadded := by
  unfold receiveFrame
  obtain ⟨bytes, rest, pace, split, ⟨length, first⟩ | ⟨fault, -, first⟩⟩ :=
    s.readExact_spec headerSize
  · simp only [first]
    -- The body is read only under a header that declares no more than the buffer takes.
    cases declared : (Header.decode bytes).checkedSize with
    | error e => exact .inl ⟨.malformed e, _, rfl, loses_of_checkedSize declared⟩
    | ok size =>
      obtain ⟨body, rest', pace', split', ⟨length', second⟩ | ⟨fault, -, second⟩⟩ :=
        (s.readTo rest pace).readExact_spec size
      · simp only [second]
        cases made : Frame.forHeader (Header.decode bytes) body with
        | error e => exact .inl ⟨.malformed e, _, rfl, loses_of_forHeader made⟩
        | ok reply =>
          obtain ⟨whole, padded⟩ :=
            toBytes_of_forHeader length (length' ▸ declared) made
          refine .inr ⟨reply, rest', pace', rfl, ?_, padded⟩
          rw [split, whole, List.append_assoc, ← split']
          rfl
      · simp only [second]
        exact .inl ⟨.receive fault, _, rfl, .receive fault⟩
  · simp only [first]
    exact .inl ⟨.receive fault, _, rfl, .receive fault⟩

/-- What was read up to after a request was handed over. -/
theorem crossed_of_arrived [Peer σ] {s : Stream σ} {request reply : Frame} {rest : List UInt8}
    {pace pace' : Pace}
    (arrived : (s.wrote request.toBytes pace).handedOver.incoming = reply.toBytes ++ rest)
    (padded : reply.IsPadded) :
    Crossed s ((s.wrote request.toBytes pace).handedOver.readTo rest pace') request reply where
  sent := rfl
  flushed := rfl
  peer := rfl
  arrived := arrived
  padded := padded

/-- Either the stream has to be given up, or a whole frame went each way. -/
theorem transfer_spec [Peer σ] (s : Stream σ) (request : Frame) :
    (∃ e s', transfer s request = (.error e, s') ∧ e.Loses) ∨
      ∃ reply s', transfer s request = (.ok reply, s') ∧ Crossed s s' request reply := by
  unfold transfer
  rcases s.writeAll_spec request.toBytes with ⟨pace, written⟩ | ⟨fault, _, _, _, -, -, failed⟩
  · simp only [written, Stream.flush_eq]
    cases (s.wrote request.toBytes pace).flushFault with
    | some fault => exact .inl ⟨.send fault, _, rfl, .send fault⟩
    | none =>
      rcases receiveFrame_spec (s.wrote request.toBytes pace).handedOver with
        ⟨e, s', received, loses⟩ | ⟨reply, rest, pace', received, arrived, padded⟩
      · exact .inl ⟨e, s', received, loses⟩
      · exact .inr ⟨reply, _, received, crossed_of_arrived arrived padded⟩
  · simp only [failed]
    exact .inl ⟨.send fault, _, rfl, .send fault⟩

/-- Either the stream has to be given up, or a whole frame went each way and the frame that came
back is judged. -/
theorem run_spec [Peer σ] (s : Stream σ) (request : Frame) :
    (∃ e s', run s request = (.error e, s', []) ∧ e.Loses) ∨
      ∃ reply s', run s request = (judge request reply, s', [logEntry request reply]) ∧
        Crossed s s' request reply := by
  unfold run
  rcases transfer_spec s request with ⟨e, s', failed, loses⟩ | ⟨reply, s', done, crossed⟩
  · exact .inl ⟨e, s', by rw [failed], loses⟩
  · exact .inr ⟨reply, s', by rw [done], crossed⟩

/-! ### Judging -/

/-- A reply under the tag of its request is taken. -/
theorem judge_of_same {request reply : Frame} (same : reply.header.tag = request.header.tag) :
    judge request reply = .ok reply := by
  simp only [judge, same, if_true]

/-- A failure under the reserved tag is a failure of the daemon. -/
theorem judge_of_failure {request reply : Frame} {failure : Failure}
    (other : request.header.tag ≠ Operation.failure.tag)
    (reserved : reply.header.tag = Operation.failure.tag)
    (decoded : Reply.decode reply = .ok (.failure failure)) :
    judge request reply = .error (.remote failure) := by
  simp only [judge, reserved, other.symm, if_false, if_true, decoded]

/-- A frame under another tag is a mismatch, unless the tag is the reserved one. -/
theorem judge_of_stray {request reply : Frame} (other : reply.header.tag ≠ request.header.tag)
    (unreserved : reply.header.tag ≠ Operation.failure.tag) :
    judge request reply = .error (.unexpectedReply request.header.tag reply.header.tag) := by
  rw [judge, if_neg other, if_neg unreserved]

/-! ### Exchanges without faults -/

/-- Nothing is in the way of an exchange, and nothing is left over from the one before. -/
structure Smooth (s : Stream σ) : Prop where
  reads : s.readPace.Moves
  writes : s.writePace.Moves
  roomy : s.room = none
  flushes : s.flushFault = none
  nothingWaits : s.incoming = []
  nothingKept : s.unflushed = []

theorem smooth_toPeer (peer : σ) : Smooth (Stream.toPeer peer) :=
  ⟨Pace.moves_unlimited, Pace.moves_unlimited, rfl, rfl, rfl, rfl⟩

/-- A frame that waits is received. -/
theorem receiveFrame_of_moves {s : Stream σ} {reply : Frame} (padded : reply.IsPadded)
    (waits : s.incoming = reply.toBytes) (moves : s.readPace.Moves) :
    ∃ pace : Pace, pace.Moves ∧ receiveFrame s = (.ok reply, s.readTo [] pace) := by
  obtain ⟨pace, moves₁, first⟩ := Stream.readExact_of_moves waits moves
  have left : (s.readTo reply.body pace).incoming = reply.body ++ [] := by simp [Stream.readTo]
  obtain ⟨pace', moves₂, second⟩ := Stream.readExact_of_moves left moves₁
  refine ⟨pace', moves₂, ?_⟩
  have declared : reply.header.checkedSize = .ok reply.body.length :=
    Header.checkedSize_eq_ok_iff.2 ⟨reply.length_body, reply.length_body ▸ reply.size_le⟩
  have header := Header.decode_encode reply.header []
  rw [List.append_nil] at header
  rw [Header.length_encode] at first
  simp only [receiveFrame, first, header, declared, second, Frame.forHeader_body padded]
  rfl

/-- Without faults, the frame that the peer answers is judged. -/
theorem run_of_smooth [Peer σ] {s : Stream σ} {request reply : Frame} {peer : σ}
    (smooth : Smooth s) (padded : reply.IsPadded)
    (answer : Peer.answer s.peer request.toBytes = (reply.toBytes, peer)) :
    ∃ s', run s request = (judge request reply, s', [logEntry request reply]) ∧
      Smooth s' ∧ s'.peer = peer := by
  obtain ⟨pace, writes, written⟩ :=
    Stream.writeAll_of_moves request.toBytes smooth.roomy smooth.writes
  have arrived : (s.wrote request.toBytes pace).handedOver.incoming = reply.toBytes := by
    simp [Stream.handedOver, Stream.wrote, smooth.nothingWaits, smooth.nothingKept, answer]
  obtain ⟨pace', reads, received⟩ := receiveFrame_of_moves padded arrived smooth.reads
  have flushes : (s.wrote request.toBytes pace).flushFault = none := smooth.flushes
  refine ⟨(s.wrote request.toBytes pace).handedOver.readTo [] pace', ?_, ?_, ?_⟩
  · simp only [run, transfer, written, Stream.flush_eq, flushes, received]
  · exact ⟨reads, writes, smooth.roomy, smooth.flushes, rfl, rfl⟩
  · simp [Stream.readTo, Stream.handedOver, Stream.wrote, smooth.nothingKept, answer]

end Supervisor.Exchange

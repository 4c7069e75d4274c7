import Supervisor.Proofs.Daemon
import Supervisor.Proofs.Pacing
import Supervisor.Proofs.Wire.Decoding

/-!
# Exchanges with a peer that nobody vouches for

Whatever bytes arrive, an exchange has one of a few outcomes. The bytes end too early, the header
declares more than a payload buffer takes, or a whole frame is taken, and that is the reply, a failure
of the daemon or a frame that belongs to another request. No more bytes are taken than one frame has.

## Main definitions

* `Stream.Faultless` - nothing is in the way but what the peer sends
* `Exchange.Heads`, `Exchange.Holds` - the header and the frame that some bytes begin with
* `Exchange.Receipt` - what is received of the bytes that arrive, and how many of them are taken
* `Wire.Failure.ofPayload` - the failure in a payload
* `Exchange.Verdict` - what the bytes that arrive amount to as the answer to a request

## Main results

* `Reply.decode_of_failure` - every payload holds a failure
* `Exchange.exists_receipt`, `Exchange.receiveFrame_of_receipt` - any bytes are received in one way
* `Exchange.verdict_of_run` - the outcome of an exchange is what the bytes that arrive amount to
-/

namespace Supervisor

namespace Wire

/-- The failure in a payload: a code, and behind it a message unless it is empty. -/
def Failure.ofPayload (payload : List UInt8) : Failure :=
  let message := Text.terminated ((payload.drop 4).take messageCapacity)
  ⟨(UInt32.ofNat (Bytes.toNat (payload.take 4))).toInt32,
    if message = "" then none else some message⟩

/-- Every payload holds a failure. -/
theorem Reply.decode_of_failure {f : Frame} (reserved : f.header.tag = 0) :
    Reply.decode f = .ok (.failure (.ofPayload f.payload)) := by
  have known : f.operation? = some .failure := Frame.operation?_eq_some_iff.2 reserved
  -- The code stands at the front, and the message right behind it.
  have code := Layout.take_count .failure f.payload_length
  have behind : Field.roundUp Field.int32.size (Field.text "message" messageCapacity).alignment =
      4 := by decide
  have message : (⟨f.payload, Field.int32.size⟩ : Reader).take .failure
      (.text "message" messageCapacity) =
        .ok (Text.terminated ((f.payload.drop 4).take messageCapacity),
          ⟨f.payload, 4 + messageCapacity⟩) := by
    have inside : 4 + messageCapacity ≤ f.payload.length := by
      rw [f.payload_length]
      decide
    rw [Reader.take_of_room .failure (by rw [behind]; exact inside), behind]
    rfl
  have read : Operation.failure.answers.layout.read .failure f.payload =
      .ok (declaredCount f.payload,
        Text.terminated ((f.payload.drop 4).take messageCapacity), ()) := by
    simp only [Layout.read, Reader.takeAll, code, message, bind, Except.bind, pure, Except.pure]
  rw [decode_eq]
  rw [known]
  exact bind_eq_ok_iff.2 ⟨_, read, rfl⟩

end Wire

/-- Nothing is in the way of a stream but what its peer sends: no transfer moves nothing, everything
that is written is taken, and what arrives just ends. -/
structure Stream.Faultless {σ : Type} (s : Stream σ) : Prop where
  moves : s.Moves
  roomy : s.room = none
  flushes : s.flushFault = none
  ends : s.ending = none

namespace Exchange

open Wire

variable {σ : Type} {s : Stream σ} {request f : Frame} {bytes : List UInt8} {h : Header}
  {outcome : Except Error Frame} {taken : Nat}

/-- The bytes begin with a header. -/
def Heads (bytes : List UInt8) (h : Header) : Prop :=
  headerSize ≤ bytes.length ∧ h = Header.decode (bytes.take headerSize)

/-- The bytes begin with a frame: a header, and then as many bytes as it declares, with zeros behind
them in the payload buffer. -/
structure Holds (bytes : List UInt8) (f : Frame) : Prop where
  heads : Heads bytes f.header
  long : headerSize + f.bodySize ≤ bytes.length
  payload : f.payload = (bytes.drop headerSize).take f.bodySize ++
    List.replicate (payloadCapacity - f.bodySize) 0

/-- What is received of the bytes that arrive, and how many of them are taken. -/
inductive Receipt (bytes : List UInt8) : Except Error Frame → Nat → Prop
  | cutHeader (short : bytes.length < headerSize) :
    Receipt bytes (.error (.receive .endOfInput)) bytes.length
  | oversized {h : Header} (heads : Heads bytes h) (large : payloadCapacity < h.payloadSize.toNat) :
    Receipt bytes (.error (.malformed (.oversized h.payloadSize))) headerSize
  | cutBody {h : Header} (heads : Heads bytes h) (small : h.payloadSize.toNat ≤ payloadCapacity)
      (short : bytes.length < headerSize + h.payloadSize.toNat) :
    Receipt bytes (.error (.receive .endOfInput)) bytes.length
  | whole {f : Frame} (holds : Holds bytes f) : Receipt bytes (.ok f) (headerSize + f.bodySize)

/-- What the bytes that arrive amount to as the answer to a request, and how many of them are
taken. -/
inductive Verdict (request : Frame) (bytes : List UInt8) : Except Error Frame → Nat → Prop
  | broken {e : Error} {taken : Nat} (receipt : Receipt bytes (.error e) taken) :
    Verdict request bytes (.error e) taken
  | reply {f : Frame} {taken : Nat} (receipt : Receipt bytes (.ok f) taken)
      (same : f.header.tag = request.header.tag) : Verdict request bytes (.ok f) taken
  | failure {f : Frame} {taken : Nat} (receipt : Receipt bytes (.ok f) taken)
      (reserved : f.header.tag = 0) (other : f.header.tag ≠ request.header.tag) :
    Verdict request bytes (.error (.remote (.ofPayload f.payload))) taken
  | stray {f : Frame} {taken : Nat} (receipt : Receipt bytes (.ok f) taken)
      (unreserved : f.header.tag ≠ 0) (other : f.header.tag ≠ request.header.tag) :
    Verdict request bytes (.error (.unexpectedReply request.header.tag f.header.tag)) taken

/-! ### Receiving -/

/-- Behind a header that declares no more than a payload buffer takes, and as many bytes as it
declares, stands a whole frame. -/
theorem exists_holds (heads : Heads bytes h) (small : h.payloadSize.toNat ≤ payloadCapacity)
    (long : headerSize + h.payloadSize.toNat ≤ bytes.length) :
    ∃ f, f.header = h ∧ Holds bytes f ∧
      Frame.forHeader h ((bytes.drop headerSize).take h.payloadSize.toNat) = .ok f := by
  have whole : ((bytes.drop headerSize).take h.payloadSize.toNat).length =
      h.payloadSize.toNat := by
    rw [List.length_take, List.length_drop]
    omega
  obtain ⟨f, made, rfl, payload⟩ := Frame.forHeader_of_le h _ small whole
  rw [Frame.fitted_eq_append (by omega), whole] at payload
  exact ⟨f, rfl, ⟨heads, long, payload⟩, made⟩

/-- The frame that the bytes begin with is made of its header and its body. -/
theorem Holds.forHeader (holds : Holds bytes f) :
    Frame.forHeader f.header ((bytes.drop headerSize).take f.bodySize) = .ok f := by
  obtain ⟨f', same, holds', made⟩ := exists_holds holds.heads f.size_le holds.long
  have payload : f'.payload = f.payload := by
    rw [holds'.payload, holds.payload, Frame.bodySize, Frame.bodySize, same]
  rw [Frame.eq_of same payload] at made
  exact made

theorem exists_receipt (bytes : List UInt8) : ∃ outcome taken, Receipt bytes outcome taken := by
  by_cases headed : headerSize ≤ bytes.length
  · have heads : Heads bytes (Header.decode (bytes.take headerSize)) := ⟨headed, rfl⟩
    generalize Header.decode (bytes.take headerSize) = h at heads
    by_cases small : h.payloadSize.toNat ≤ payloadCapacity
    · by_cases long : headerSize + h.payloadSize.toNat ≤ bytes.length
      · obtain ⟨f, -, holds, -⟩ := exists_holds heads small long
        exact ⟨_, _, .whole holds⟩
      · exact ⟨_, _, .cutBody heads small (Nat.not_le.1 long)⟩
    · exact ⟨_, _, .oversized heads (Nat.not_le.1 small)⟩
  · exact ⟨_, _, .cutHeader (Nat.not_le.1 headed)⟩

theorem exists_verdict (request : Frame) (bytes : List UInt8) :
    ∃ outcome taken, Verdict request bytes outcome taken := by
  obtain ⟨outcome, taken, receipt⟩ := exists_receipt bytes
  cases outcome with
  | error e => exact ⟨_, _, .broken receipt⟩
  | ok f =>
    by_cases same : f.header.tag = request.header.tag
    · exact ⟨_, _, .reply receipt same⟩
    · by_cases reserved : f.header.tag = 0
      · exact ⟨_, _, .failure receipt reserved same⟩
      · exact ⟨_, _, .stray receipt reserved same⟩

/-- No more is taken than there is, and no more than one frame. -/
theorem Receipt.taken_le (receipt : Receipt bytes outcome taken) :
    taken ≤ bytes.length ∧ taken ≤ headerSize + payloadCapacity := by
  cases receipt with
  | cutHeader short => omega
  | oversized heads => exact ⟨heads.1, by omega⟩
  | cutBody heads small short => omega
  | whole holds => exact ⟨holds.long, Nat.add_le_add_left (Frame.size_le _) _⟩

/-- What is left behind the header. -/
theorem Heads.length_incoming (heads : Heads s.incoming h) (pace : Pace) :
    headerSize + (s.readTo (s.incoming.drop headerSize) pace).incoming.length =
      s.incoming.length := by
  rw [Stream.readTo, List.length_drop]
  exact Nat.add_sub_of_le heads.1

/-- Once a header was read, what it declares is read. -/
theorem receiveFrame_of_heads (moves : s.readPace.Moves) (heads : Heads s.incoming h) :
    ∃ pace : Pace, pace.Moves ∧ receiveFrame s =
      match h.checkedSize with
      | .error e => (.error (.malformed e), s.readTo (s.incoming.drop headerSize) pace)
      | .ok size =>
        match (s.readTo (s.incoming.drop headerSize) pace).readExact size with
        | (.error fault, s) => (.error (.receive fault), s)
        | (.ok body, s) => ((Frame.forHeader h body).mapError .malformed, s) := by
  obtain ⟨pace, still, first⟩ := Stream.readExact_of_le moves heads.1
  refine ⟨pace, still, ?_⟩
  unfold receiveFrame
  rewrite [first, heads.2]
  rfl

/-- A frame is received as the bytes that wait say. -/
theorem receiveFrame_of_receipt (ends : s.ending = none) (moves : s.readPace.Moves)
    (receipt : Receipt s.incoming outcome taken) :
    ∃ pace : Pace, receiveFrame s = (outcome, s.readTo (s.incoming.drop taken) pace) := by
  cases receipt with
  | cutHeader short =>
    obtain ⟨pace, first⟩ := Stream.readExact_of_lt ends moves short
    unfold receiveFrame
    rw [first, List.drop_length]
    exact ⟨pace, rfl⟩
  | @oversized h heads large =>
    obtain ⟨pace, -, received⟩ := receiveFrame_of_heads moves heads
    have refused : h.checkedSize = .error (.oversized h.payloadSize) :=
      if_neg (Nat.not_le.2 large)
    rw [refused] at received
    exact ⟨pace, received⟩
  | @cutBody h heads small short =>
    -- What is left behind the header ends before the body does.
    obtain ⟨pace, moves, received⟩ := receiveFrame_of_heads moves heads
    have left := heads.length_incoming pace
    have body : (s.readTo (s.incoming.drop headerSize) pace).incoming.length <
        h.payloadSize.toNat := by omega
    obtain ⟨pace', cut⟩ :=
      Stream.readExact_of_lt (s := s.readTo (s.incoming.drop headerSize) pace) ends moves body
    rw [Header.checkedSize_eq_ok_iff.2 ⟨rfl, small⟩] at received
    simp only [cut] at received
    rw [List.drop_length]
    exact ⟨pace', received⟩
  | @whole f holds =>
    -- The header and then the body are read, and the frame is made of both.
    obtain ⟨pace, moves, received⟩ := receiveFrame_of_heads moves holds.heads
    have left := holds.heads.length_incoming pace
    have long := holds.long
    have body : f.bodySize ≤ (s.readTo (s.incoming.drop headerSize) pace).incoming.length := by
      omega
    obtain ⟨pace', -, read⟩ := Stream.readExact_of_le moves body
    have declared : f.header.checkedSize = .ok f.bodySize :=
      Header.checkedSize_eq_ok_iff.2 ⟨rfl, f.size_le⟩
    have made := holds.forHeader
    rw [declared] at received
    simp only [read] at received
    simp only [Stream.readTo, made, List.drop_drop] at received
    exact ⟨pace', received⟩

/-! ### The answer to a request -/

/-- What is taken of the bytes that arrive is judged. -/
theorem Verdict.exists_receipt (verdict : Verdict request bytes outcome taken) :
    ∃ received, Receipt bytes received taken ∧ outcome = received >>= judge request := by
  cases verdict with
  | broken receipt => exact ⟨_, receipt, rfl⟩
  | reply receipt same => exact ⟨_, receipt, (judge_of_same same).symm⟩
  | failure receipt reserved other =>
    refine ⟨_, receipt, (judge_of_failure ?_ reserved (Reply.decode_of_failure reserved)).symm⟩
    exact fun same => other (reserved.trans same.symm)
  | stray receipt unreserved other => exact ⟨_, receipt, (judge_of_stray other unreserved).symm⟩

/-- What waits once a request was handed over. -/
def arriving [Peer σ] (s : Stream σ) (request : Frame) : List UInt8 :=
  s.incoming ++ (Peer.answer s.peer (s.unflushed ++ request.toBytes)).1

/-- Where nothing else is in the way, the outcome of an exchange is what the bytes that arrive amount
to. -/
theorem run_of_verdict [Peer σ] (faultless : s.Faultless)
    (verdict : Verdict request (arriving s request) outcome taken) :
    (run s request).1 = outcome ∧ (run s request).2.1.sent = s.sent ++ request.toBytes ∧
      (run s request).2.1.incoming = (arriving s request).drop taken := by
  obtain ⟨received, receipt, rfl⟩ := verdict.exists_receipt
  obtain ⟨pace, -, written⟩ :=
    Stream.writeAll_of_moves request.toBytes faultless.roomy faultless.moves.writes
  have flushes : (s.wrote request.toBytes pace).flushFault = none := faultless.flushes
  obtain ⟨pace', frame⟩ := receiveFrame_of_receipt
    (s := (s.wrote request.toBytes pace).handedOver) faultless.ends faultless.moves.reads receipt
  simp only [run, transfer, written, Stream.flush_eq, flushes, frame]
  cases received <;> exact ⟨rfl, rfl, rfl⟩

theorem Verdict.taken_le (verdict : Verdict request bytes outcome taken) :
    taken ≤ bytes.length ∧ taken ≤ headerSize + payloadCapacity := by
  obtain ⟨received, receipt, -⟩ := verdict.exists_receipt
  exact receipt.taken_le

/-- A frame that answers a request is none of a failure: nobody asks for one. -/
theorem Verdict.unreserved {r : Request} (encoded : r.encode = .ok request)
    (verdict : Verdict request bytes (.ok f) taken) : f.header.tag ≠ 0 := by
  cases verdict with
  | reply receipt same =>
    rw [same, (Request.of_encode encoded).1]
    exact fun reserved => r.operation_ne_failure (Operation.tag_injective reserved)

/-- Whatever bytes arrive, where nothing else is in the way the request is written, the outcome is
what the bytes amount to and nothing else, and as many of them are taken as that says. These are no
more than one frame has, and a failure is never taken for a reply. -/
theorem verdict_of_run [Peer σ] {r : Request} (encoded : r.encode = .ok request)
    (faultless : s.Faultless) :
    ∃ taken, Verdict request (arriving s request) (run s request).1 taken ∧
      (∀ outcome n, Verdict request (arriving s request) outcome n →
        outcome = (run s request).1 ∧ n = taken) ∧
      (run s request).2.1.sent = s.sent ++ request.toBytes ∧
      (run s request).2.1.incoming = (arriving s request).drop taken ∧
      taken ≤ (arriving s request).length ∧ taken ≤ 5016 ∧
      ∀ f, (run s request).1 = .ok f → f.header.tag ≠ 0 := by
  obtain ⟨outcome, taken, verdict⟩ := exists_verdict request (arriving s request)
  obtain ⟨rfl, sent, left⟩ := run_of_verdict faultless verdict
  have taken_le := verdict.taken_le
  refine ⟨taken, verdict, ?_, sent, left, taken_le.1, taken_le.2, ?_⟩
  · intro outcome n other
    obtain ⟨rfl, -, left'⟩ := run_of_verdict faultless other
    -- What is left has one length only.
    have lengths := congrArg List.length (left.symm.trans left')
    rw [List.length_drop, List.length_drop] at lengths
    have n_le := other.taken_le.1
    exact ⟨rfl, by omega⟩
  · intro f done
    rw [done] at verdict
    exact verdict.unreserved encoded

/-- A failure whose message ends with the frame, two bytes at a time and with a byte behind it. -/
theorem verdict_of_short_failure :
    let s : Stream Unit := { Stream.toPeer () with
      incoming := [0, 0, 0, 0, 5, 0, 0, 0, 9, 0, 0, 0, 101, 77]
      readPace := ⟨[.interrupted], some 2⟩ }
    ∃ request, Request.encode .version = .ok request ∧
      (run s request).1 = .error (.remote ⟨9, some "e"⟩) ∧ (run s request).2.1.incoming = [77] := by
  intro s
  obtain ⟨request, encoded⟩ : ∃ request, Request.encode .version = .ok request :=
    exists_of_isOk (by decide +kernel)
  have faultless : s.Faultless := ⟨⟨⟨by simp [s], by simp [s]⟩, Pace.moves_unlimited⟩, rfl, rfl, rfl⟩
  obtain ⟨taken, -, unique, -, left, -⟩ := verdict_of_run encoded faultless
  let f : Frame := ⟨⟨0, 5⟩, [9, 0, 0, 0, 101] ++ List.replicate 5003 0,
    by rw [List.length_append, List.length_replicate]; rfl, by decide⟩
  have holds : Holds s.incoming f := ⟨⟨by decide, rfl⟩, by decide, rfl⟩
  have other : f.header.tag ≠ request.header.tag := by
    rw [(Request.of_encode encoded).1]
    decide
  have failure : Failure.ofPayload f.payload = ⟨9, some "e"⟩ := by decide +kernel
  obtain ⟨outcome, rfl⟩ := unique _ _ (.failure (.whole holds) rfl other)
  rw [failure] at outcome
  exact ⟨request, encoded, outcome.symm, left⟩

end Exchange

end Supervisor

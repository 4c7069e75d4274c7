import Supervisor.Daemon
import Supervisor.Proofs.Wire.Encoding

/-!
# Daemons behind the wire

A daemon that computes its replies receives a request as it was sent, and it answers with the one
frame that its reply is encoded in.

## Main results

* `Answers`, `Honest` - what a daemon may answer to a request
* `Daemon.received?_of_encode` - a request is received as it was sent
* `Served.answer_of_encode` - one request, one frame
-/

namespace Supervisor

open Wire

namespace Daemon

/-- A frame that travelled is complete. -/
theorem isComplete_toBytes (f : Frame) : isComplete f.toBytes = true := by
  have header : Header.decode f.toBytes = f.header := Header.decode_encode f.header f.body
  simp [isComplete, header, Frame.bodySize]

/-- A daemon receives a request as it was sent. -/
theorem received?_of_encode {r : Request} {f : Frame} (encoded : r.encode = .ok f) :
    received? f.toBytes = some r := by
  have header : Header.decode f.toBytes = f.header := Header.decode_encode f.header f.body
  have body : f.toBytes.drop headerSize = f.body := List.drop_left' (Header.length_encode f.header)
  have padded := (Request.of_encode encoded).2.1
  simp only [received?, isComplete_toBytes, if_true, header, body, Frame.forHeader_body padded,
    Request.decode_of_encode encoded]
  rfl

end Daemon

/-- What a daemon may answer to a request: a failure, or a reply of the structure that the
operation has, and one that fits the wire format in either case. -/
structure Answers (r : Request) (reply : Reply) : Prop where
  structured : (∃ failure, reply = .failure failure) ∨ reply.IsOf r.operation
  fits : ∃ frame, reply.encode (Daemon.answeredUnder r.operation reply) = .ok frame

/-- A reply of the structure that the operation has is one, if it lists no more than a listing takes
and its texts fit. -/
theorem Answers.of_fits {r : Request} {reply : Reply} (structured : reply.IsOf r.operation)
    (few : reply.listed ≤ 100) (fit : ∀ t ∈ reply.texts, t.Fits) : Answers r reply :=
  ⟨.inr structured, (reply.exists_encode_iff _).2 ⟨few, fit⟩⟩

/-- A daemon whose every reply is one that it may give. -/
def Honest {δ : Type} (step : δ → Request → Reply × δ) : Prop :=
  ∀ state r, Answers r (step state r).1

/-- A daemon that knows what to say to some requests, fails all others without a word, and counts
how often it was asked. -/
def answering (known : List (Request × Reply)) (asked : Nat) (r : Request) : Reply × Nat :=
  ((known.lookup r).getD (.failure ⟨1, some ""⟩), asked + 1)

theorem honest_answering {known : List (Request × Reply)} (answers : ∀ p ∈ known, Answers p.1 p.2) :
    Honest (answering known) := by
  have failure : (Reply.encode .failure (.failure ⟨1, some ""⟩)).isOk = true := by decide +kernel
  intro asked r
  unfold answering
  cases found : known.lookup r with
  | none => exact ⟨.inl ⟨_, rfl⟩, exists_of_isOk failure⟩
  | some reply =>
    obtain ⟨before, others, rfl, -⟩ := List.lookup_eq_some_iff.1 found
    exact answers (r, reply) (List.mem_append_right _ List.mem_cons_self)

namespace Served

variable {δ : Type}

/-- The daemon after it received a request. -/
def receive (d : Served δ) (r : Request) : Served δ :=
  { d with state := (d.step d.state r).2, requests := d.requests ++ [r] }

/-- What the daemon computes as its reply. -/
def reply (d : Served δ) (r : Request) : Reply := (d.step d.state r).1

/-- One request is answered by one frame. -/
theorem answer_of_encode (d : Served δ) {r : Request} {sent frame : Frame}
    (encoded : r.encode = .ok sent)
    (fits : (d.reply r).encode (Daemon.answeredUnder r.operation (d.reply r)) = .ok frame) :
    Peer.answer d sent.toBytes = (frame.toBytes, d.receive r) := by
  change answer d sent.toBytes = _
  unfold reply at fits
  simp only [answer, Daemon.received?_of_encode encoded, fits]
  rfl

end Served

end Supervisor

import Supervisor.Proofs.Session.Remote

/-!
# Framing

Requests and replies carry no number that would pair them, so a reply belongs to a request only
because both are the next on the stream. As long as a session is connected, that is the case: what
was sent are whole request frames, what was taken are as many whole reply frames, and each call that
asked something was answered from its own frame. Where a fault or an oversized header would spoil
this, the session is no longer connected.

## Main definitions

* `Peer.answerAll` - what a peer answers to one message after the other
* `Session.Crossing` - a call with the frames that crossed for it
* `Session.Framed` - the state of the stream after such crossings

## Main results

* `Session.crossed_of_connected` - what a call has done that leaves the session connected
* `Session.framing_of_run` - framing holds in every run
-/

namespace Supervisor

open Wire

/-- What a peer answers to one message after the other, and its state then. -/
def Peer.answerAll {σ : Type} [Peer σ] (peer : σ) : List (List UInt8) → List UInt8 × σ
  | [] => ([], peer)
  | bytes :: rest =>
    let (first, peer) := Peer.answer peer bytes
    let (others, peer) := answerAll peer rest
    (first ++ others, peer)

theorem Peer.answerAll_concat {σ : Type} [Peer σ] (peer : σ) (all : List (List UInt8))
    (bytes : List UInt8) :
    answerAll peer (all ++ [bytes]) =
      ((answerAll peer all).1 ++ (Peer.answer (answerAll peer all).2 bytes).1,
        (Peer.answer (answerAll peer all).2 bytes).2) := by
  induction all generalizing peer with
  | nil => simp [answerAll]
  | cons first rest ih => simp [answerAll, ih]

namespace Session

variable {σ : Type}

/-- A call with the frames that crossed for it. -/
structure Crossing (σ : Type) where
  step : Step σ
  sent : Frame
  reply : Frame

/-- The call sent the first frame and was answered from the second. -/
def Crossing.Paired [Peer σ] (x : Crossing σ) : Prop :=
  ∃ e, x.step.call.plan = .ask e ∧ e.request.encode = .ok x.sent ∧
    x.step.outcome = e.outcome x.step.before.books
      (replyOf e.request.operation (Exchange.judge x.sent x.reply))

/-- A call that asks, made on a session that is connected. -/
def Step.exchanges (t : Step σ) : Bool := t.before.connected && t.call.frame?.isSome

/-- Everything that crossed is whole frames, in pairs: what was sent are the requests, what the
peer made of them arrived after what waited at first, and the replies were taken off its front. -/
structure Framed [Peer σ] (s₀ : Session σ) (past : List (Step σ)) (s : Session σ)
    (xs : List (Crossing σ)) : Prop where
  calls : xs.map Crossing.step = past.filter Step.exchanges
  paired : ∀ x ∈ xs, x.Paired
  sent : s.stream.sent = xs.flatMap fun x => x.sent.toBytes
  flushed : s.stream.unflushed = []
  peer : s.stream.peer = (Peer.answerAll s₀.stream.peer (xs.map fun x => x.sent.toBytes)).2
  taken : s₀.stream.incoming ++ (Peer.answerAll s₀.stream.peer (xs.map fun x => x.sent.toBytes)).1 =
    xs.flatMap (fun x => x.reply.toBytes) ++ s.stream.incoming

/-- What a call has done that leaves the session connected: nothing to the stream if it did not
ask, and otherwise a whole frame went each way and it was answered from the second one. -/
theorem crossed_of_connected [Peer σ] {s : Session σ} {c : Call}
    (still : (perform c s).2.connected = true) :
    s.connected = true ∧
      (c.frame? = none ∧ (perform c s).2.stream = s.stream ∨
        ∃ sent reply, c.frame? = some sent ∧ Crossing.Paired ⟨⟨s, c⟩, sent, reply⟩ ∧
          Exchange.Crossed s.stream (perform c s).2.stream sent reply) := by
  cases plan : c.plan with
  | close =>
    have off : s.close.connected = false := by
      unfold close
      split
      · rfl
      · next off => exact Bool.eq_false_iff.2 off
    rw [perform_close plan] at still
    exact absurd (off.symm.trans still) Bool.false_ne_true
  | settle t =>
    rw [perform_settle plan, connected_conclude] at still
    refine ⟨still, .inl ⟨by rw [Call.frame?, plan], ?_⟩⟩
    rw [perform_settle plan, stream_conclude]
  | ask e =>
    obtain ⟨outcome, s', asked, performed⟩ := perform_ask plan s
    rw [performed, connected_conclude] at still
    rw [performed, stream_conclude]
    have frame : c.frame? = e.request.encode.toOption := by rw [Call.frame?, plan]
    cases asked with
    | refused unfit =>
      rw [unfit] at frame
      exact ⟨still, .inl ⟨frame, rfl⟩⟩
    | idle encoded off => exact absurd (off.symm.trans still) Bool.false_ne_true
    | lost encoded on loses off books => exact absurd (off.symm.trans still) Bool.false_ne_true
    | garbled encoded on crossed decoded off books =>
      exact absurd (off.symm.trans still) Bool.false_ne_true
    | answered encoded on crossed clean _ books =>
      rw [encoded] at frame
      refine ⟨on, .inr ⟨_, _, frame, ⟨e, plan, encoded, ?_⟩, crossed⟩⟩
      rw [Step.outcome, performed, outcome_conclude]

/-- Framing holds after a call that leaves the session connected. -/
theorem Framed.call [Peer σ] {s₀ s : Session σ} {past : List (Step σ)} {xs : List (Crossing σ)}
    (framed : Framed s₀ past s xs) {c : Call} (still : (perform c s).2.connected = true) :
    ∃ ys, Framed s₀ (past ++ [⟨s, c⟩]) (perform c s).2 ys := by
  obtain ⟨on, ⟨silent, same⟩ | ⟨sent, reply, frame, paired, crossed⟩⟩ := crossed_of_connected still
  · refine ⟨xs, ?_, framed.paired, ?_, ?_, ?_, ?_⟩
    · rw [List.filter_append, framed.calls]
      simp [Step.exchanges, silent]
    · rw [same, framed.sent]
    · rw [same, framed.flushed]
    · rw [same, framed.peer]
    · rw [same, framed.taken]
  · obtain ⟨sends, flushed, peer, arrived, -⟩ := crossed
    -- Nothing was kept back from earlier calls, so what is handed over is this request alone.
    rw [framed.flushed, List.nil_append, framed.peer] at peer arrived
    refine ⟨xs ++ [⟨⟨s, c⟩, sent, reply⟩], ?_, ?_, ?_, flushed, ?_, ?_⟩
    · rw [List.map_append, List.filter_append, framed.calls]
      simp [Step.exchanges, on, frame]
    · intro x member
      rcases List.mem_append.1 member with earlier | last
      · exact framed.paired x earlier
      · rw [List.mem_singleton.1 last]
        exact paired
    · rw [sends, framed.sent, List.flatMap_append]
      simp
    · rw [List.map_append, List.map_singleton, Peer.answerAll_concat, peer]
    · rw [List.map_append, List.map_singleton, Peer.answerAll_concat, ← List.append_assoc,
        framed.taken, List.append_assoc, arrived, List.flatMap_append]
      simp

/-- In every run framing holds as long as the session is connected. -/
theorem Run.framed [Peer σ] {s₀ s : Session σ} {past : List (Step σ)} (run : Run s₀ past s)
    (unsent : s₀.stream.sent = []) (unflushed : s₀.stream.unflushed = [])
    (on : s.connected = true) : ∃ xs, Framed s₀ past s xs := by
  -- No call connects a session again: it was connected before the last call if it is now.
  induction run with
  | start => exact ⟨[], rfl, by simp, unsent, unflushed, rfl, by simp [Peer.answerAll]⟩
  | call run c ih =>
    obtain ⟨xs, framed⟩ := ih (crossed_of_connected on).1
    exact framed.call on
  | weather run w ih =>
    obtain ⟨xs, framed⟩ := ih on
    exact ⟨xs, framed.calls, framed.paired, framed.sent, framed.flushed, framed.peer, framed.taken⟩

/-- What waits once a request was handed over. -/
def waiting [Peer σ] (s : Session σ) (sent : Frame) : List UInt8 :=
  s.stream.incoming ++ (Peer.answer s.stream.peer sent.toBytes).1

/-- A call moves whole frames: nothing if it does not ask, and otherwise its request, and of what
waits then a header that declares no more than a payload buffer takes and all that it declares. -/
def Step.MovesWhole [Peer σ] (t : Step σ) : Prop :=
  match t.call.frame? with
  | none => t.after.stream = t.before.stream
  | some sent =>
    let size := (Header.decode (t.before.waiting sent)).payloadSize.toNat
    t.after.stream.sent = t.before.stream.sent ++ sent.toBytes ∧ size ≤ payloadCapacity ∧
      headerSize + size ≤ (t.before.waiting sent).length ∧
      t.after.stream.incoming = (t.before.waiting sent).drop (headerSize + size)

/-- A call that leaves the session connected moves whole frames. -/
theorem movesWhole_of_connected [Peer σ] {t : Step σ} (flushed : t.before.stream.unflushed = [])
    (still : t.after.connected = true) : t.MovesWhole := by
  obtain ⟨-, ⟨silent, same⟩ | ⟨sent, reply, frame, -, crossed⟩⟩ := crossed_of_connected still
  · rw [Step.MovesWhole, silent]
    exact same
  · -- What waits starts with the bytes of a frame, so the header that waits is that of the frame.
    have arrived : t.before.waiting sent = reply.toBytes ++ t.after.stream.incoming := by
      have taken := crossed.arrived
      rw [flushed] at taken
      exact taken
    have header : Header.decode (t.before.waiting sent) = reply.header := by
      rw [arrived, Frame.toBytes, List.append_assoc]
      exact Header.decode_encode _ _
    have length : headerSize + reply.header.payloadSize.toNat = reply.toBytes.length :=
      reply.length_toBytes.symm
    rw [Step.MovesWhole, frame]
    refine ⟨crossed.sent, ?_, ?_, ?_⟩
    · rw [header]
      exact reply.size_le
    · rw [header, length, arrived, List.length_append]
      exact Nat.le_add_right _ _
    · rw [header, length, arrived, List.drop_left]

/-- Framing never slips. In every state of a run in which the session is still connected, the bytes
that were sent are the requests so far, the bytes that were taken are as many replies, each call was
answered from its own reply, and a call that moves anything but whole frames now ends the
connection. -/
theorem framing_of_run [Peer σ] {s₀ s : Session σ} {past : List (Step σ)} (run : Run s₀ past s)
    (unsent : s₀.stream.sent = []) (unflushed : s₀.stream.unflushed = [])
    (on : s.connected = true) :
    (∃ xs, Framed s₀ past s xs) ∧
      ∀ c : Call, ¬ Step.MovesWhole ⟨s, c⟩ → (perform c s).2.connected = false := by
  obtain ⟨xs, framed⟩ := run.framed unsent unflushed on
  refine ⟨⟨xs, framed⟩, fun c slips => Bool.eq_false_iff.2 fun still => slips ?_⟩
  exact movesWhole_of_connected framed.flushed still

theorem framing_after_version :
    ∃ xs, Framed (withAnswer .version (.version 7)) [⟨withAnswer .version (.version 7), .version⟩]
      (perform .version (withAnswer .version (.version 7))).2 xs := by
  have answers : Answers .version (.version 7) :=
    ⟨.inr rfl, exists_of_isOk (by decide +kernel)⟩
  have notClose : Call.version ≠ .close := by decide
  obtain ⟨-, mirrors⟩ :=
    (mirrors_withAnswer .version (.version 7)).perform (honest_withAnswer answers) notClose
  exact (framing_of_run (.call .start .version) rfl rfl mirrors.connected).1

end Session

end Supervisor

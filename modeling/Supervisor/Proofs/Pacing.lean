import Supervisor.Proofs.Exchange

/-!
# The pace of a stream does not show

A stream moves bytes in pieces of any size, and some transfers are interrupted before they move
anything. As long as no piece is empty, that makes no difference to an exchange: sending puts down
as many bytes as there is room for, receiving takes as many as were asked for or all there are, and
both end in the same way. An exchange makes finitely many transfers, so a `Pace`, which lists as many
turns as one likes, stands for every way in which the transfers can go.

## Main definitions

* `Stream.Moves` - no transfer moves nothing
* `Stream.Alike` - streams that differ only in their pace and in what was sent before
* `Stream.atOnce` - the same stream, whose transfers move as much as they can
* `Exchange.SameRun` - exchanges that come to the same

## Main results

* `Stream.Alike.writeAll`, `Stream.Alike.flush`, `Stream.Alike.readExact` - one step on both streams
* `Exchange.run_of_alike` - exchanges over streams that are alike come to the same
-/

namespace Supervisor

namespace Stream

variable {σ : Type} {s t : Stream σ}

/-! ### Streams that differ only in their pace -/

/-- No transfer of the stream moves nothing, neither one that reads nor one that writes. -/
structure Moves (s : Stream σ) : Prop where
  reads : s.readPace.Moves
  writes : s.writePace.Moves

/-- The streams differ in nothing but their pace and what was sent before: the same bytes wait and
the same ones will be answered, and the same faults come after the same number of bytes. -/
structure Alike [Peer σ] (s t : Stream σ) : Prop where
  incoming : s.incoming = t.incoming
  ending : s.ending = t.ending
  room : s.roomLeft = t.roomLeft
  blocked : s.blocked = t.blocked
  flushFault : s.flushFault = t.flushFault
  answers : ∀ bytes,
    Peer.answer s.peer (s.unflushed ++ bytes) = Peer.answer t.peer (t.unflushed ++ bytes)

/-- Two streams went on and did the same: the given bytes were written to both, and they are still
alike. -/
structure Abreast [Peer σ] (s t : Stream σ) (bytes : List UInt8) (s' t' : Stream σ) : Prop where
  written : s'.sent = s.sent ++ bytes
  written' : t'.sent = t.sent ++ bytes
  alike : s'.Alike t'
  moves : s'.Moves
  moves' : t'.Moves

section Alike

variable [Peer σ]

theorem Abreast.refl (alike : s.Alike t) (moves : s.Moves) (moves' : t.Moves) :
    Abreast s t [] s t :=
  ⟨(List.append_nil _).symm, (List.append_nil _).symm, alike, moves, moves'⟩

/-- Nothing is written after the request, so what was written by then is all. -/
theorem Abreast.trans_nil {bytes : List UInt8} {s₁ t₁ s₂ t₂ : Stream σ}
    (first : Abreast s t bytes s₁ t₁) (second : Abreast s₁ t₁ [] s₂ t₂) :
    Abreast s t bytes s₂ t₂ where
  written := by rw [second.written, List.append_nil, first.written]
  written' := by rw [second.written', List.append_nil, first.written']
  alike := second.alike
  moves := second.moves
  moves' := second.moves'

theorem Alike.fitting (alike : s.Alike t) (count : Nat) : s.fitting count = t.fitting count := by
  rw [fitting_eq, fitting_eq, alike.room]

theorem Alike.sendOutcome (alike : s.Alike t) (count : Nat) :
    s.sendOutcome count = t.sendOutcome count := by
  rw [Stream.sendOutcome, Stream.sendOutcome, alike.fitting, alike.blocked]

theorem Alike.receiveOutcome (alike : s.Alike t) (want : Nat) :
    s.receiveOutcome want = t.receiveOutcome want := by
  rw [Stream.receiveOutcome, Stream.receiveOutcome, alike.incoming, alike.ending]

theorem Alike.wrote (alike : s.Alike t) (moved : List UInt8) (pace pace' : Pace) :
    (s.wrote moved pace).Alike (t.wrote moved pace') where
  incoming := alike.incoming
  ending := alike.ending
  room := by rw [roomLeft_wrote, roomLeft_wrote, alike.room]
  blocked := alike.blocked
  flushFault := alike.flushFault
  answers bytes := by
    simpa only [Stream.wrote, List.append_assoc] using alike.answers (moved ++ bytes)

theorem Alike.handedOver (alike : s.Alike t) : s.handedOver.Alike t.handedOver where
  incoming := by
    have same := alike.answers []
    simp only [List.append_nil] at same
    simp only [Stream.handedOver, alike.incoming, same]
  ending := alike.ending
  room := alike.room
  blocked := alike.blocked
  flushFault := alike.flushFault
  answers bytes := by
    have same := alike.answers []
    simp only [List.append_nil] at same
    simp only [Stream.handedOver, same]

theorem Alike.readTo (alike : s.Alike t) (rest : List UInt8) (pace pace' : Pace) :
    (s.readTo rest pace).Alike (t.readTo rest pace') :=
  { alike with incoming := rfl }

/-- Sending ends in the same way on both streams. -/
theorem Alike.writeAll (alike : s.Alike t) (moves : s.Moves) (moves' : t.Moves)
    (data : List UInt8) :
    ∃ outcome s' t', s.writeAll data = (outcome, s') ∧ t.writeAll data = (outcome, t') ∧
      Abreast s t (data.take (s.fitting data.length)) s' t' := by
  obtain ⟨pace, still, sent⟩ := writeAll_eq data moves.writes
  obtain ⟨pace', still', sent'⟩ := writeAll_eq data moves'.writes
  rw [← alike.fitting, ← alike.sendOutcome] at sent'
  exact ⟨_, _, _, sent, sent', rfl, rfl, alike.wrote _ pace pace',
    ⟨moves.reads, still⟩, ⟨moves'.reads, still'⟩⟩

/-- Flushing ends in the same way on both streams. -/
theorem Alike.flush (alike : s.Alike t) (moves : s.Moves) (moves' : t.Moves) :
    ∃ outcome s' t', s.flush = (outcome, s') ∧ t.flush = (outcome, t') ∧ Abreast s t [] s' t' := by
  rw [flush_eq, flush_eq, ← alike.flushFault]
  cases s.flushFault with
  | some fault => exact ⟨_, _, _, rfl, rfl, .refl alike moves moves'⟩
  | none =>
    exact ⟨_, _, _, rfl, rfl, (List.append_nil _).symm, (List.append_nil _).symm,
      alike.handedOver, ⟨moves.reads, moves.writes⟩, ⟨moves'.reads, moves'.writes⟩⟩

/-- Receiving ends in the same way on both streams. -/
theorem Alike.readExact (alike : s.Alike t) (moves : s.Moves) (moves' : t.Moves) (want : Nat) :
    ∃ outcome s' t', s.readExact want = (outcome, s') ∧ t.readExact want = (outcome, t') ∧
      Abreast s t [] s' t' := by
  obtain ⟨pace, still, read⟩ := readExact_eq want moves.reads
  obtain ⟨pace', still', read'⟩ := readExact_eq want moves'.reads
  rw [← alike.incoming, ← alike.receiveOutcome] at read'
  exact ⟨_, _, _, read, read', (List.append_nil _).symm, (List.append_nil _).symm,
    alike.readTo _ pace pace', ⟨still, moves.writes⟩, ⟨still', moves'.writes⟩⟩

end Alike

/-- The stream whose transfers move as much as they can. -/
def atOnce (s : Stream σ) : Stream σ := { s with readPace := .unlimited, writePace := .unlimited }

theorem moves_atOnce (s : Stream σ) : s.atOnce.Moves := ⟨Pace.moves_unlimited, Pace.moves_unlimited⟩

theorem alike_atOnce [Peer σ] (s : Stream σ) : s.Alike s.atOnce :=
  ⟨rfl, rfl, rfl, rfl, rfl, fun _ => rfl⟩

end Stream

namespace Exchange

open Wire

variable {σ : Type} [Peer σ] {s t : Stream σ}

/-- Receiving a frame ends in the same way on streams that are alike. -/
theorem receiveFrame_of_alike (alike : s.Alike t) (moves : s.Moves) (moves' : t.Moves) :
    ∃ outcome s' t', receiveFrame s = (outcome, s') ∧ receiveFrame t = (outcome, t') ∧
      Stream.Abreast s t [] s' t' := by
  unfold receiveFrame
  obtain ⟨header, s₁, t₁, left, right, abreast⟩ := alike.readExact moves moves' headerSize
  simp only [left, right]
  cases header with
  | error fault => exact ⟨_, _, _, rfl, rfl, abreast⟩
  | ok bytes =>
    cases declared : (Header.decode bytes).checkedSize with
    | error e =>
      simp only [declared]
      exact ⟨_, _, _, rfl, rfl, abreast⟩
    | ok size =>
      -- Both streams gave the same header, so the bodies that are asked for are of one size.
      obtain ⟨body, s₂, t₂, left', right', abreast'⟩ :=
        abreast.alike.readExact abreast.moves abreast.moves' size
      simp only [declared, left', right']
      cases body with
      | error fault => exact ⟨_, _, _, rfl, rfl, abreast.trans_nil abreast'⟩
      | ok body => exact ⟨_, _, _, rfl, rfl, abreast.trans_nil abreast'⟩

/-- Moving a request there and a frame back ends in the same way on streams that are alike. -/
theorem transfer_of_alike (alike : s.Alike t) (moves : s.Moves) (moves' : t.Moves)
    (request : Frame) :
    ∃ outcome s' t', transfer s request = (outcome, s') ∧ transfer t request = (outcome, t') ∧
      Stream.Abreast s t (request.toBytes.take (s.fitting request.toBytes.length)) s' t' := by
  unfold transfer
  obtain ⟨sent, s₁, t₁, left, right, abreast⟩ := alike.writeAll moves moves' request.toBytes
  simp only [left, right]
  cases sent with
  | error fault => exact ⟨_, _, _, rfl, rfl, abreast⟩
  | ok done =>
    obtain ⟨flushed, s₂, t₂, left', right', abreast'⟩ :=
      abreast.alike.flush abreast.moves abreast.moves'
    simp only [left', right']
    have both := abreast.trans_nil abreast'
    cases flushed with
    | error fault => exact ⟨_, _, _, rfl, rfl, both⟩
    | ok done' =>
      obtain ⟨received, s₃, t₃, left'', right'', abreast''⟩ :=
        receiveFrame_of_alike both.alike both.moves both.moves'
      exact ⟨received, s₃, t₃, left'', right'', both.trans_nil abreast''⟩

/-- An exchange comes to the same on both streams: it returns and logs the same, writes as much of the
request as there is room for, leaves the same bytes unread, and leaves streams that are alike
again. -/
structure SameRun (s t : Stream σ) (request : Frame) : Prop where
  outcome : (run s request).1 = (run t request).1
  log : (run s request).2.2 = (run t request).2.2
  written : (run s request).2.1.sent =
    s.sent ++ request.toBytes.take (s.fitting request.toBytes.length)
  written' : (run t request).2.1.sent =
    t.sent ++ request.toBytes.take (s.fitting request.toBytes.length)
  unread : (run s request).2.1.incoming = (run t request).2.1.incoming
  after : (run s request).2.1.Alike (run t request).2.1

theorem sameRun_of_moves (alike : s.Alike t) (moves : s.Moves) (moves' : t.Moves)
    (request : Frame) : SameRun s t request := by
  obtain ⟨outcome, s', t', left, right, abreast⟩ := transfer_of_alike alike moves moves' request
  have runs : ∃ judged log, run s request = (judged, s', log) ∧ run t request = (judged, t', log) := by
    simp only [run, left, right]
    cases outcome with
    | error e => exact ⟨_, _, rfl, rfl⟩
    | ok reply => exact ⟨_, _, rfl, rfl⟩
  obtain ⟨judged, log, left', right'⟩ := runs
  exact {
    outcome := by rw [left', right']
    log := by rw [left', right']
    written := by rw [left', abreast.written]
    written' := by rw [right', abreast.written']
    unread := by rw [left', right', abreast.alike.incoming]
    after := by rw [left', right']; exact abreast.alike }

/-- Exchanges over streams that differ only in their pace come to the same, and to what an exchange
comes to whose transfers move as much as they can. -/
theorem run_of_alike (alike : s.Alike t) (moves : s.Moves) (moves' : t.Moves) (request : Frame) :
    SameRun s t request ∧ SameRun s s.atOnce request :=
  ⟨sameRun_of_moves alike moves moves' request,
    sameRun_of_moves s.alike_atOnce moves s.moves_atOnce request⟩

/-- A request for the version, over a stream that moves a few bytes at a time and is interrupted in
between, and over one that moves them at once and has sent two bytes before. -/
theorem run_of_few_bytes :
    ∃ request : Frame, request.header = ⟨Operation.version.tag, 0⟩ ∧
      SameRun
        { Stream.toPeer () with
          incoming := [1, 0, 0, 0, 4, 0, 0, 0, 7, 0, 0, 0, 9], ending := some .timedOut
          room := some 8, blocked := some .brokenPipe
          readPace := ⟨[.interrupted, .upTo 5], some 2⟩
          writePace := ⟨[.upTo 3, .interrupted, .interrupted], some 1⟩ }
        { Stream.toPeer () with
          incoming := [1, 0, 0, 0, 4, 0, 0, 0, 7, 0, 0, 0, 9], ending := some .timedOut
          sent := [1, 1], room := some 10, blocked := some .brokenPipe }
        request := by
  refine ⟨⟨⟨Operation.version.tag, 0⟩, List.replicate payloadCapacity 0, List.length_replicate,
    by decide⟩, rfl, (run_of_alike ?_ ?_ ?_ _).1⟩
  · exact ⟨rfl, rfl, rfl, rfl, rfl, fun _ => rfl⟩
  · exact ⟨⟨by simp, by simp⟩, ⟨by simp, by simp⟩⟩
  · exact ⟨Pace.moves_unlimited, Pace.moves_unlimited⟩

end Exchange

end Supervisor

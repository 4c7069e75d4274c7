import Supervisor.Fault

/-!
# Byte streams

A stream to a peer moves bytes in pieces: one transfer may move fewer bytes than asked for, and it
may be interrupted before it moves any. Sending everything and receiving an exact count repeat
transfers until they are done or a transfer fails.

How large the pieces are is a `Pace`. As long as no transfer moves nothing at all, it has no
influence on what arrives, only on how many transfers it takes.

## Main definitions

* `Pace`, `Pace.next` - how many bytes each transfer moves, and which ones are interrupted
* `Peer` - the far end, which answers what is flushed to it
* `Stream` - bytes that arrive, bytes that were sent, and where transfers fail
* `Stream.writeAll`, `Stream.flush`, `Stream.readExact`
-/

namespace Supervisor

/-- One transfer. -/
inductive Turn where
  /-- It is interrupted before it moves a byte. -/
  | interrupted
  /-- It moves at most this many bytes. -/
  | upTo (bytes : Nat)
  deriving DecidableEq, Repr

/-- How transfers go: first the given turns, then pieces of a steady size, or all at once. -/
structure Pace where
  turns : List Turn
  steady : Option Nat
  deriving DecidableEq, Repr

namespace Pace

/-- Every transfer moves as much as it can. -/
def unlimited : Pace := ⟨[], none⟩

/-- How many of `want` bytes the next transfer may move, `none` if it is interrupted. -/
def next (p : Pace) (want : Nat) : Option Nat × Pace :=
  match p.turns with
  | .interrupted :: rest => (none, ⟨rest, p.steady⟩)
  | .upTo n :: rest => (some (min want n), ⟨rest, p.steady⟩)
  | [] =>
    match p.steady with
    | some n => (some (min want n), p)
    | none => (some want, p)

theorem next_none (p : Pace) (want : Nat) (h : (p.next want).1 = none) :
    (p.next want).2.turns.length < p.turns.length := by
  unfold next at h ⊢
  split at h <;> simp_all
  split at h <;> simp_all

theorem next_some (p : Pace) (want n : Nat) (h : (p.next want).1 = some n) :
    (p.next want).2.turns.length ≤ p.turns.length ∧ n ≤ want := by
  unfold next at h ⊢
  split at h <;> simp_all
  · omega
  · split at h <;> simp_all
    omega

end Pace

/-- The far end of a stream, which may answer what is flushed to it. -/
class Peer (σ : Type) where
  /-- The bytes that arrive after a flush, and the state of the peer then. -/
  answer : σ → List UInt8 → List UInt8 × σ

/-- A far end that never answers by itself. -/
instance : Peer Unit := ⟨fun _ _ => ([], ())⟩

/-- A stream to a peer. -/
structure Stream (σ : Type) where
  peer : σ
  /-- Bytes that wait to be read. -/
  incoming : List UInt8
  /-- How a read fails once no byte is left; without it the input has ended. -/
  ending : Option Fault
  readPace : Pace
  /-- Bytes that were written. -/
  sent : List UInt8
  /-- Bytes that were written after the last flush. -/
  unflushed : List UInt8
  /-- How many bytes may be written in all. -/
  room : Option Nat
  /-- How a write fails once there is no room; without it the write moves nothing. -/
  blocked : Option Fault
  writePace : Pace
  /-- How a flush fails. -/
  flushFault : Option Fault

namespace Stream

variable {σ : Type}

/-- A stream without faults to a peer that has sent nothing yet. -/
def toPeer (peer : σ) : Stream σ :=
  { peer, incoming := [], ending := none, readPace := .unlimited, sent := [], unflushed := [],
    room := none, blocked := none, writePace := .unlimited, flushFault := none }

/-- Whether there is no room for another byte. -/
def isFull (s : Stream σ) : Bool := s.room.any (· ≤ s.sent.length)

/-- How many of `count` bytes there is room for. -/
def fitting (s : Stream σ) (count : Nat) : Nat :=
  match s.room with
  | some room => min count (room - s.sent.length)
  | none => count

theorem fitting_pos (s : Stream σ) {count : Nat} (notFull : s.isFull = false) (pos : 0 < count) :
    0 < s.fitting count := by
  unfold isFull at notFull
  unfold fitting
  split
  · simp_all only [Option.any_some, decide_eq_false_iff_not]
    omega
  · exact pos

/-- Writes all bytes. What was written before a failure stays written. A transfer for which there is
no room fails instead of waiting, and so does one that moves nothing. -/
def writeAll (s : Stream σ) (data : List UInt8) : Except Fault Unit × Stream σ :=
  if data = [] then (.ok (), s)
  else
    match _ : s.writePace.next data.length with
    | (none, pace) => writeAll { s with writePace := pace } data
    | (some n, pace) =>
      if s.isFull then (.error (s.blocked.getD .nothingWritten), { s with writePace := pace })
      else if n = 0 then (.error .nothingWritten, { s with writePace := pace })
      else
        let moved := data.take (s.fitting n)
        writeAll
          { s with writePace := pace, sent := s.sent ++ moved, unflushed := s.unflushed ++ moved }
          (data.drop (s.fitting n))
  termination_by data.length + s.writePace.turns.length
  decreasing_by
    · have turn := ‹s.writePace.next data.length = _›
      have := Pace.next_none s.writePace data.length (by rw [turn])
      rw [turn] at this
      simp only at this ⊢
      omega
    · have turn := ‹s.writePace.next data.length = _›
      have bound := Pace.next_some s.writePace data.length n (by rw [turn])
      rw [turn] at bound
      have : 0 < data.length := List.length_pos_iff.2 ‹_›
      have : 0 < s.fitting n := s.fitting_pos (by simpa using ‹¬s.isFull = true›) (by omega)
      simp only [List.length_drop] at bound ⊢
      omega

/-- Hands over what was written; the peer may answer it. -/
def flush [Peer σ] (s : Stream σ) : Except Fault Unit × Stream σ :=
  match s.flushFault with
  | some fault => (.error fault, s)
  | none =>
    let (bytes, peer) := Peer.answer s.peer s.unflushed
    (.ok (), { s with peer, incoming := s.incoming ++ bytes, unflushed := [] })

/-- Reads exactly `want` bytes. What was read before a failure is lost. A transfer that moves
nothing counts as the end of the input. -/
def readExact (s : Stream σ) (want : Nat) : Except Fault (List UInt8) × Stream σ :=
  if want = 0 then (.ok [], s)
  else
    match _ : s.readPace.next want with
    | (none, pace) => readExact { s with readPace := pace } want
    | (some n, pace) =>
      if s.incoming = [] then
        (.error (s.ending.getD .endOfInput), { s with readPace := pace })
      else if n = 0 then (.error .endOfInput, { s with readPace := pace })
      else
        let moved := s.incoming.take n
        let (outcome, s) := readExact { s with readPace := pace, incoming := s.incoming.drop n }
          (want - moved.length)
        (outcome.map (moved ++ ·), s)
  termination_by want + s.readPace.turns.length
  decreasing_by
    · have turn := ‹s.readPace.next want = _›
      have := Pace.next_none s.readPace want (by rw [turn])
      rw [turn] at this
      simp only at this ⊢
      omega
    · have turn := ‹s.readPace.next want = _›
      have bound := Pace.next_some s.readPace want n (by rw [turn])
      rw [turn] at bound
      have : 0 < s.incoming.length := List.length_pos_iff.2 ‹_›
      simp only [List.length_take] at bound ⊢
      omega

end Stream

end Supervisor

import Supervisor.Stream

/-!
# What transfers do to a stream

Sending appends the data to what was sent, and only a part of it if a transfer fails. Receiving
takes what was asked for off the front of what waits, and less if a transfer fails. Nothing else
about the stream changes but the pace, so how large the pieces are shows only in how far sending or
receiving gets. If no piece is empty, it does not show at all: sending puts down as many bytes as
there is room for, and receiving takes as many as were asked for or all there are.

## Main definitions

* `Pace.Moves` - no transfer moves nothing
* `Stream.sendOutcome`, `Stream.receiveOutcome` - how transfers end then

## Main results

* `Stream.writeAll_spec`, `Stream.readExact_spec` - transfers under any faults
* `Stream.writeAll_eq`, `Stream.readExact_eq` - transfers that keep moving
* `Stream.writeAll_of_moves`, `Stream.readExact_of_moves` - transfers without faults
-/

namespace Supervisor

namespace Pace

/-- No transfer moves nothing. -/
structure Moves (p : Pace) : Prop where
  turns : ∀ n, .upTo n ∈ p.turns → 0 < n
  steady : ∀ n, p.steady = some n → 0 < n

theorem moves_unlimited : unlimited.Moves := ⟨by simp [unlimited], by simp [unlimited]⟩

/-- A pace keeps moving, and a transfer that is not interrupted moves something. -/
theorem Moves.next {p pace : Pace} {want : Nat} {piece : Option Nat} (moves : p.Moves)
    (turn : p.next want = (piece, pace)) (pos : 0 < want) :
    pace.Moves ∧ ∀ n, piece = some n → 0 < n := by
  obtain ⟨turns, steady⟩ := p
  obtain ⟨ofTurns, ofSteady⟩ := moves
  cases turns with
  | nil =>
    cases steady with
    | none =>
      cases turn
      exact ⟨⟨ofTurns, ofSteady⟩, by rintro n ⟨⟩; exact pos⟩
    | some k =>
      cases turn
      have := ofSteady k rfl
      exact ⟨⟨ofTurns, ofSteady⟩, by rintro n ⟨⟩; omega⟩
  | cons first turns =>
    have rest : (⟨turns, steady⟩ : Pace).Moves :=
      ⟨fun n member => ofTurns n (List.mem_cons_of_mem _ member), ofSteady⟩
    cases first with
    | interrupted =>
      cases turn
      exact ⟨rest, by rintro n ⟨⟩⟩
    | upTo k =>
      cases turn
      have := ofTurns k List.mem_cons_self
      exact ⟨rest, by rintro n ⟨⟩; omega⟩

end Pace

namespace Stream

variable {σ : Type} {s : Stream σ}

/-- The stream after some bytes were written. -/
def wrote (s : Stream σ) (moved : List UInt8) (pace : Pace) : Stream σ :=
  { s with writePace := pace, sent := s.sent ++ moved, unflushed := s.unflushed ++ moved }

/-- The stream after it was read up to the given rest. -/
def readTo (s : Stream σ) (rest : List UInt8) (pace : Pace) : Stream σ :=
  { s with readPace := pace, incoming := rest }

/-- The stream after the peer answered what was written. -/
def handedOver [Peer σ] (s : Stream σ) : Stream σ :=
  { s with
    peer := (Peer.answer s.peer s.unflushed).2
    incoming := s.incoming ++ (Peer.answer s.peer s.unflushed).1
    unflushed := [] }

theorem wrote_nil (s : Stream σ) (pace : Pace) :
    s.wrote [] pace = { s with writePace := pace } := by
  simp [wrote]

/-- Writing more is writing all of it. -/
theorem wrote_wrote (s : Stream σ) (moved more : List UInt8) (pace pace' : Pace) :
    (s.wrote moved pace).wrote more pace' = s.wrote (moved ++ more) pace' := by
  simp [wrote]

/-- Sending appends all of the data, or fails after a part of it. -/
theorem writeAll_spec (s : Stream σ) (data : List UInt8) :
    (∃ pace, s.writeAll data = (.ok (), s.wrote data pace)) ∨
      ∃ fault moved rest pace, data = moved ++ rest ∧ rest ≠ [] ∧
        s.writeAll data = (.error fault, s.wrote moved pace) := by
  -- One case for each turn of the loop: nothing is left, an interruption, a stream that is full or
  -- moves nothing, and a piece that is moved.
  fun_induction writeAll s data with
  | case1 s => exact .inl ⟨s.writePace, by rw [wrote_nil]⟩
  | case2 s data more pace turn ih => exact ih
  | case3 s data more n pace turn full =>
    exact .inr ⟨_, [], data, pace, rfl, more, by rw [wrote_nil]⟩
  | case4 s data more pace notFull turn =>
    exact .inr ⟨_, [], data, pace, rfl, more, by rw [wrote_nil]⟩
  | case5 s data more n pace turn notFull pos moved ih =>
    have whole : moved ++ data.drop (s.fitting n) = data := List.take_append_drop _ _
    rcases ih with ⟨pace', done⟩ | ⟨fault, moved', rest, pace', split, left, failed⟩
    · have after := s.wrote_wrote moved (data.drop (s.fitting n)) pace pace'
      rw [whole] at after
      exact .inl ⟨pace', by rw [← after]; exact done⟩
    · refine .inr ⟨fault, moved ++ moved', rest, pace', ?_, left, failed.trans ?_⟩
      · rw [List.append_assoc, ← split, whole]
      · rw [← s.wrote_wrote moved moved' pace pace']
        rfl

/-- A flush hands over everything, or fails and does nothing. -/
theorem flush_eq [Peer σ] (s : Stream σ) :
    s.flush = match s.flushFault with
      | some fault => (.error fault, s)
      | none => (.ok (), s.handedOver) :=
  rfl

/-- Receiving takes as many bytes as were asked for off the front of what waits, or fails after
fewer. -/
theorem readExact_spec (s : Stream σ) (want : Nat) :
    ∃ taken rest pace, s.incoming = taken ++ rest ∧
      (taken.length = want ∧ s.readExact want = (.ok taken, s.readTo rest pace) ∨
        ∃ fault, taken.length < want ∧ s.readExact want = (.error fault, s.readTo rest pace)) := by
  -- The same cases as for sending. What is counted is what is still wanted: a piece is never longer
  -- than that, so the pieces add up to it exactly.
  fun_induction readExact s want with
  | case1 s => exact ⟨[], s.incoming, s.readPace, rfl, .inl ⟨rfl, rfl⟩⟩
  | case2 s want more pace turn ih => exact ih
  | case3 s want more n pace turn ended =>
    exact ⟨[], s.incoming, pace, rfl, .inr ⟨_, Nat.pos_of_ne_zero more, rfl⟩⟩
  | case4 s want more pace notEnded turn =>
    exact ⟨[], s.incoming, pace, rfl, .inr ⟨_, Nat.pos_of_ne_zero more, rfl⟩⟩
  | case5 s want more n pace turn notEnded pos moved outcome s' result ih =>
    obtain ⟨taken, rest, pace', split, ends⟩ := ih
    have bound : n ≤ want := (Pace.next_some s.readPace want n (by rw [turn])).2
    have size : moved.length ≤ want := by
      simp only [moved, List.length_take]
      omega
    refine ⟨moved ++ taken, rest, pace', ?_, ?_⟩
    · rw [List.append_assoc, ← split, List.take_append_drop]
    · rw [List.length_append]
      rcases ends with ⟨length, done⟩ | ⟨fault, length, failed⟩
      · obtain ⟨rfl, rfl⟩ := Prod.mk.inj (result.symm.trans done)
        exact .inl ⟨by omega, rfl⟩
      · obtain ⟨rfl, rfl⟩ := Prod.mk.inj (result.symm.trans failed)
        exact .inr ⟨fault, by omega, rfl⟩

/-! ### Transfers that keep moving -/

/-- How many more bytes may be written, if there is a limit. -/
def roomLeft (s : Stream σ) : Option Nat := s.room.map (· - s.sent.length)

/-- How sending ends: well if there is room for everything. -/
def sendOutcome (s : Stream σ) (count : Nat) : Except Fault Unit :=
  if s.fitting count = count then .ok () else .error (s.blocked.getD .nothingWritten)

/-- How receiving ends: well if enough bytes wait. -/
def receiveOutcome (s : Stream σ) (want : Nat) : Except Fault (List UInt8) :=
  if want ≤ s.incoming.length then .ok (s.incoming.take want)
  else .error (s.ending.getD .endOfInput)

theorem fitting_eq (s : Stream σ) (count : Nat) :
    s.fitting count = s.roomLeft.elim count (min count) := by
  unfold fitting roomLeft
  cases s.room <;> rfl

theorem roomLeft_wrote (s : Stream σ) (moved : List UInt8) (pace : Pace) :
    (s.wrote moved pace).roomLeft = s.roomLeft.map (· - moved.length) := by
  unfold roomLeft wrote
  cases s.room with
  | none => rfl
  | some room => simp [Nat.sub_sub]

@[simp] theorem fitting_zero (s : Stream σ) : s.fitting 0 = 0 := by
  unfold fitting
  cases s.room <;> simp

theorem fitting_le (s : Stream σ) (count : Nat) : s.fitting count ≤ count := by
  unfold fitting
  split <;> omega

theorem fitting_of_isFull (full : s.isFull = true) (count : Nat) : s.fitting count = 0 := by
  unfold isFull at full
  unfold fitting
  cases room : s.room with
  | none => simp [room] at full
  | some room' =>
    simp only [room, Option.any_some, decide_eq_true_eq] at full
    simp only
    omega

/-- What fits is what fits of the first piece, and then what fits of the others. -/
theorem fitting_wrote {n count : Nat} (le : n ≤ count) {moved : List UInt8}
    (length : moved.length = s.fitting n) (pace : Pace) :
    s.fitting count = moved.length + (s.wrote moved pace).fitting (count - moved.length) := by
  rw [fitting_eq] at length
  rw [fitting_eq, fitting_eq, roomLeft_wrote]
  cases room : s.roomLeft with
  | none =>
    simp only [room, Option.elim_none, Option.map_none] at length ⊢
    omega
  | some left =>
    simp only [room, Option.elim_some, Option.map_some] at length ⊢
    omega

/-- The pieces add up to what fits of the whole, so there is room for the rest exactly if there is
room for everything. -/
theorem sendOutcome_wrote {n count : Nat} (le : n ≤ count) {moved : List UInt8}
    (length : moved.length = s.fitting n) (pace : Pace) :
    (s.wrote moved pace).sendOutcome (count - moved.length) = s.sendOutcome count := by
  have adds := fitting_wrote le length pace
  have small := s.fitting_le n
  unfold sendOutcome
  by_cases all : s.fitting count = count
  · rw [if_pos all, if_pos (by omega)]
  · rw [if_neg all, if_neg (by omega)]
    rfl

/-- Sending puts down as many bytes as there is room for, in pieces of whatever size. -/
theorem writeAll_eq (data : List UInt8) (moves : s.writePace.Moves) :
    ∃ pace : Pace, pace.Moves ∧ s.writeAll data =
      (s.sendOutcome data.length, s.wrote (data.take (s.fitting data.length)) pace) := by
  -- An interruption changes the pace only. After a piece, the hypothesis is about the stream that the
  -- piece was written to, and about the rest of the data.
  fun_induction writeAll s data with
  | case1 s =>
    have done : s.sendOutcome 0 = .ok () := if_pos s.fitting_zero
    exact ⟨s.writePace, moves, by rw [List.length_nil, done, List.take_nil, wrote_nil]⟩
  | case2 s data more pace turn ih =>
    have still := (moves.next turn (List.length_pos_iff.2 more)).1
    exact ih still
  | case3 s data more n pace turn full =>
    have still := (moves.next turn (List.length_pos_iff.2 more)).1
    have none := fitting_of_isFull full data.length
    have failed : s.sendOutcome data.length = .error (s.blocked.getD .nothingWritten) := by
      refine if_neg fun all => more (List.length_eq_zero_iff.1 ?_)
      exact all.symm.trans none
    exact ⟨pace, still, by rw [failed, none, List.take_zero, wrote_nil]⟩
  | case4 s data more pace notFull turn =>
    have positive := (moves.next turn (List.length_pos_iff.2 more)).2 0 rfl
    exact absurd positive (Nat.lt_irrefl 0)
  | case5 s data more n pace turn notFull pos moved ih =>
    have still := (moves.next turn (List.length_pos_iff.2 more)).1
    have bound : n ≤ data.length := (Pace.next_some s.writePace data.length n (by rw [turn])).2
    have small := s.fitting_le n
    have length : moved.length = s.fitting n := by
      rw [List.length_take]
      omega
    have rest : (data.drop (s.fitting n)).length = data.length - moved.length := by
      rw [List.length_drop, length]
    obtain ⟨pace', moves', others⟩ : ∃ pace' : Pace, pace'.Moves ∧
        (s.wrote moved pace).writeAll (data.drop (s.fitting n)) =
          ((s.wrote moved pace).sendOutcome (data.drop (s.fitting n)).length,
            (s.wrote moved pace).wrote ((data.drop (s.fitting n)).take
              ((s.wrote moved pace).fitting (data.drop (s.fitting n)).length)) pace') :=
      ih still
    have whole : moved ++ (data.drop (s.fitting n)).take
        ((s.wrote moved pace).fitting (data.length - moved.length)) =
        data.take (s.fitting data.length) := by
      rw [fitting_wrote bound length pace, length, List.take_add]
    rw [rest, sendOutcome_wrote bound length, wrote_wrote, whole] at others
    exact ⟨pace', moves', others⟩

/-- What is left after a piece and after the others is what is left after all of it. -/
theorem drop_piece {bytes : List UInt8} {n want : Nat} (le : n ≤ want) :
    (bytes.drop n).drop (want - (bytes.take n).length) = bytes.drop want := by
  rw [List.drop_drop, List.length_take]
  by_cases enough : n ≤ bytes.length
  · rw [Nat.min_eq_left enough, Nat.add_sub_cancel' le]
  · rw [List.drop_eq_nil_of_le (by omega), List.drop_eq_nil_of_le (by omega)]

/-- A piece and then the others are what there is to receive. -/
theorem receiveOutcome_readTo {n want : Nat} (le : n ≤ want) (pace : Pace) :
    ((s.readTo (s.incoming.drop n) pace).receiveOutcome
      (want - (s.incoming.take n).length)).map (s.incoming.take n ++ ·) = s.receiveOutcome want := by
  have piece : (s.incoming.take n).length = min n s.incoming.length := List.length_take
  have rest : (s.readTo (s.incoming.drop n) pace).incoming.length = s.incoming.length - n :=
    List.length_drop
  unfold receiveOutcome
  -- If enough bytes wait, the piece is as long as it was to be; if not, the rest is too short as well.
  by_cases enough : want ≤ s.incoming.length
  · rw [if_pos enough, if_pos (by omega)]
    have first : (s.incoming.take n).length = n := by omega
    have whole : s.incoming.take n ++ (s.incoming.drop n).take (want - n) =
        s.incoming.take want := by
      rw [← List.take_add, Nat.add_sub_cancel' le]
    rw [first, ← whole]
    rfl
  · rw [if_neg enough, if_neg (by omega)]
    rfl

/-- Receiving takes as many bytes as were asked for, or all there are, in pieces of whatever size. -/
theorem readExact_eq (want : Nat) (moves : s.readPace.Moves) :
    ∃ pace : Pace, pace.Moves ∧
      s.readExact want = (s.receiveOutcome want, s.readTo (s.incoming.drop want) pace) := by
  fun_induction readExact s want with
  | case1 s => exact ⟨s.readPace, moves, rfl⟩
  | case2 s want more pace turn ih =>
    have still := (moves.next turn (Nat.pos_of_ne_zero more)).1
    exact ih still
  | case3 s want more n pace turn ended =>
    have still := (moves.next turn (Nat.pos_of_ne_zero more)).1
    have failed : s.receiveOutcome want = .error (s.ending.getD .endOfInput) := by
      refine if_neg ?_
      rw [ended, List.length_nil]
      omega
    refine ⟨pace, still, ?_⟩
    rw [failed, ended, List.drop_nil, ← ended]
    rfl
  | case4 s want more pace notEnded turn =>
    have positive := (moves.next turn (Nat.pos_of_ne_zero more)).2 0 rfl
    exact absurd positive (Nat.lt_irrefl 0)
  | case5 s want more n pace turn notEnded pos moved outcome s' result ih =>
    have still := (moves.next turn (Nat.pos_of_ne_zero more)).1
    have bound : n ≤ want := (Pace.next_some s.readPace want n (by rw [turn])).2
    obtain ⟨pace', moves', others⟩ := ih still
    obtain ⟨rfl, rfl⟩ := Prod.mk.inj (result.symm.trans others)
    refine ⟨pace', moves', Prod.ext ?_ ?_⟩
    · exact receiveOutcome_readTo bound pace
    · exact congrArg (s.readTo · pace') (drop_piece bound)

/-- Without faults, sending appends all of the data. -/
theorem writeAll_of_moves (data : List UInt8) (roomy : s.room = none) (moves : s.writePace.Moves) :
    ∃ pace : Pace, pace.Moves ∧ s.writeAll data = (.ok (), s.wrote data pace) := by
  have all : s.fitting data.length = data.length := by
    rw [fitting_eq, roomLeft, roomy]
    rfl
  have done : s.sendOutcome data.length = .ok () := if_pos all
  obtain ⟨pace, still, sent⟩ := writeAll_eq data moves
  rw [done, all, List.take_length] at sent
  exact ⟨pace, still, sent⟩

/-- Receiving no more than what waits takes it off the front. -/
theorem readExact_of_le (moves : s.readPace.Moves) {want : Nat}
    (long : want ≤ s.incoming.length) :
    ∃ pace : Pace, pace.Moves ∧
      s.readExact want = (.ok (s.incoming.take want), s.readTo (s.incoming.drop want) pace) := by
  obtain ⟨pace, still, read⟩ := readExact_eq want moves
  rw [receiveOutcome, if_pos long] at read
  exact ⟨pace, still, read⟩

/-- Receiving more than what waits takes all of it, and then the input has ended. -/
theorem readExact_of_lt (ends : s.ending = none) (moves : s.readPace.Moves) {want : Nat}
    (short : s.incoming.length < want) :
    ∃ pace : Pace, s.readExact want = (.error .endOfInput, s.readTo [] pace) := by
  obtain ⟨pace, -, read⟩ := readExact_eq want moves
  rw [receiveOutcome, if_neg (Nat.not_le.2 short), ends,
    List.drop_eq_nil_of_le (Nat.le_of_lt short)] at read
  exact ⟨pace, read⟩

/-- Without faults, receiving takes as many bytes as were asked for off the front. -/
theorem readExact_of_moves {front rest : List UInt8} (waiting : s.incoming = front ++ rest)
    (moves : s.readPace.Moves) :
    ∃ pace : Pace, pace.Moves ∧
      s.readExact front.length = (.ok front, s.readTo rest pace) := by
  have enough : front.length ≤ s.incoming.length := by
    rw [waiting, List.length_append]
    omega
  obtain ⟨pace, still, read⟩ := readExact_of_le moves enough
  rw [waiting, List.take_left, List.drop_left] at read
  exact ⟨pace, still, read⟩

end Stream

end Supervisor

import Supervisor.Proofs.Wire.Frame
import Supervisor.Proofs.Wire.Refusal

/-!
# The payload buffer while it is filled

A writer holds the bytes that it has put down. In memory they stand in a buffer of full size that
holds zeros before the first field is put, and every field overwrites its own place. Both views agree
step by step, so what is known of the writer is known of the buffer: which fields it takes, that each
stands where a compiler puts it, and that all else stays zero, also when a field is refused.

## Main definitions

* `Buffer` - a payload buffer that is filled in place
* `Buffer.put`, `Buffer.putAll` - put fields at the next places where they may start
* `Holds` - a buffer holds a structure as a compiler lays it out, and nothing else
* `Buffer.Shows`, `Buffer.Mirrors` - the buffer agrees with a writer

## Main results

* `Buffer.mirrors_put` - one field
* `Writer.holds_of_putAll` - where the fields of a structure stand, and where zeros
* `Buffer.refused_of_overflow` - what is left when a field would end past the buffer
* `Buffer.layout_of_putAll` - all of it in one statement
-/

namespace Supervisor.Wire

/-- A payload buffer that is filled in place: all its bytes, where the next field may start, and the
widest alignment so far. -/
structure Buffer where
  bytes : List UInt8
  position : Nat
  alignment : Nat
  deriving DecidableEq, Repr

namespace Buffer

/-- A buffer into which nothing was put. -/
def blank : Buffer := ⟨List.replicate payloadCapacity 0, 0, 1⟩

/-- The bytes with those from `start` on replaced. -/
def overwrite (bytes : List UInt8) (start : Nat) (new : List UInt8) : List UInt8 :=
  bytes.take start ++ new ++ bytes.drop (start + new.length)

/-- Moves on to the next place where a field may start and puts it there. A text that does not fit
its field is refused before that, a field that would end past the buffer after it. -/
def put (op : Operation) (b : Buffer) (f : Field) (v : f.Value) : Except Error Unit × Buffer :=
  match f.check v with
  | .error e => (.error e, b)
  | .ok () =>
    let start := Field.roundUp b.position f.alignment
    let stop := start + (f.encode v).length
    let alignment := max b.alignment f.alignment
    if stop ≤ b.bytes.length then
      (.ok (), ⟨overwrite b.bytes start (f.encode v), stop, alignment⟩)
    else (.error (.layoutOverflow op), ⟨b.bytes, start, alignment⟩)

/-- Puts several fields in order, up to the first one that is refused. -/
def putAll (op : Operation) (b : Buffer) : (fs : List Field) → Record fs → Except Error Unit × Buffer
  | [], _ => (.ok (), b)
  | f :: fs, (v, vs) =>
    match b.put op f v with
    | (.ok (), b') => putAll op b' fs vs
    | (.error e, b') => (.error e, b')

/-- The size of the finished structure. -/
def extent (b : Buffer) : Nat := Field.roundUp b.position b.alignment

end Buffer

namespace Record

/-- The bytes of each field. -/
def encodings : (fs : List Field) → Record fs → List (List UInt8)
  | [], _ => []
  | f :: fs, (v, vs) => f.encode v :: encodings fs vs

/-- The values of the first fields. -/
def take : (n : Nat) → (fs : List Field) → Record fs → Record (fs.take n)
  | 0, _, _ => ()
  | _ + 1, [], _ => ()
  | n + 1, _ :: fs, (v, vs) => (v, take n fs vs)

end Record

/-- A buffer holds a structure and nothing else: every field stands where a compiler puts it, and the
bytes that belong to no field are zero. -/
structure Holds (bytes : List UInt8) (fs : List Field) (vs : Record fs) : Prop where
  length : bytes.length = payloadCapacity
  fields : ∃ offsets stop, Field.Placed 0 fs offsets stop ∧
    (∀ p ∈ offsets.zip (Record.encodings fs vs), (bytes.drop p.1).take p.2.length = p.2) ∧
    ∀ i < payloadCapacity,
      (∀ p ∈ offsets.zip (Record.encodings fs vs), ¬ (p.1 ≤ i ∧ i < p.1 + p.2.length)) →
        bytes[i]? = some 0

/-! ### One field -/

/-- A field that would end past the buffer is refused. -/
theorem Writer.put_of_past {op : Operation} {w : Writer} {f : Field} {v : f.Value}
    (fits : f.check v = .ok ())
    (past : payloadCapacity < Field.roundUp w.bytes.length f.alignment + f.size) :
    w.put op f v = .error (.layoutOverflow op) := by
  rw [put, fits]
  exact if_neg (Nat.not_le.2 past)

namespace Buffer

variable {op : Operation} {b b' : Buffer} {w w' : Writer} {f : Field} {fs : List Field}

/-- The buffer holds what the writer has put down, with zeros behind it. -/
structure Shows (b : Buffer) (w : Writer) : Prop where
  bytes : b.bytes = Frame.fitted w.bytes payloadCapacity
  position : b.position = w.bytes.length
  alignment : b.alignment = w.alignment

/-- A put has the outcome that it has for the writer, and a refused one changes no byte. -/
inductive Mirrors (b : Buffer) : Except Error Writer → Except Error Unit × Buffer → Prop where
  | ok {w' : Writer} {b' : Buffer} (shown : b'.Shows w') : Mirrors b (.ok w') (.ok (), b')
  | error {e : Error} {b' : Buffer} (kept : b'.bytes = b.bytes) : Mirrors b (.error e) (.error e, b')

theorem shows_blank : blank.Shows .empty := ⟨rfl, rfl, rfl⟩

/-- Bytes that are put behind others stand in place of the zeros there. -/
theorem overwrite_fitted {bytes new : List UInt8} {start n : Nat} (behind : bytes.length ≤ start)
    (room : start + new.length ≤ n) :
    overwrite (Frame.fitted bytes n) start new = Frame.fitted (Field.padded bytes start ++ new) n := by
  have length : (Field.padded bytes start ++ new).length = start + new.length := by
    rw [List.length_append, Field.length_padded behind]
  have before : (Frame.fitted bytes n).take start = Field.padded bytes start := by
    rw [Frame.fitted_eq_append (by omega), List.take_append, List.take_of_length_le behind,
      List.take_replicate, Field.padded, Nat.min_eq_left (by omega)]
  have after : (Frame.fitted bytes n).drop (start + new.length) =
      List.replicate (n - (start + new.length)) 0 := by
    rw [Frame.fitted_eq_append (by omega), List.drop_append, List.drop_of_length_le (by omega),
      List.drop_replicate, List.nil_append]
    congr 1
    omega
  rw [overwrite, before, after, Frame.fitted_eq_append (length ▸ room), length]

theorem mirrors_put (shown : b.Shows w) (op : Operation) (f : Field) (v : f.Value) :
    Mirrors b (w.put op f v) (b.put op f v) := by
  have size : b.bytes.length = payloadCapacity := shown.bytes ▸ Frame.length_fitted _ _
  unfold put
  cases checked : f.check v with
  | error e =>
    have refused : w.put op f v = .error e := by
      rw [Writer.put, checked]
      rfl
    rw [refused]
    exact .error rfl
  | ok =>
    have length := Field.length_encode checked
    dsimp only
    -- Both ask whether the field ends within the buffer; only the writer has to pad.
    rw [shown.position, size, length]
    split
    · next room =>
      rw [Writer.put_eq_ok_iff.2 ⟨checked, room, rfl⟩]
      refine .ok ⟨?_, ?_, ?_⟩
      · rw [shown.bytes]
        exact overwrite_fitted (Field.le_roundUp _ f.alignment_pos) (length.symm ▸ room)
      · rw [List.length_append, Field.length_padded (Field.le_roundUp _ f.alignment_pos), length]
      · rw [shown.alignment]
    · next past =>
      rw [Writer.put_of_past checked (Nat.not_le.1 past)]
      exact .error rfl

theorem mirrors_putAll (shown : b.Shows w) (op : Operation) (vs : Record fs) :
    (b.putAll op fs vs).1 = (w.putAll op fs vs).map (fun _ => ()) ∧
      ∀ w', w.putAll op fs vs = .ok w' → (b.putAll op fs vs).2.Shows w' := by
  induction fs generalizing b w with
  | nil =>
    refine ⟨rfl, ?_⟩
    rintro _ ⟨⟩
    exact shown
  | cons f fs ih =>
    obtain ⟨v, vs⟩ := vs
    have first := mirrors_put shown op f v
    rw [putAll, Writer.putAll]
    generalize b.put op f v = done at first
    generalize w.put op f v = written at first
    cases first with
    | ok shown₁ => exact ih shown₁ vs
    | error kept =>
      refine ⟨rfl, ?_⟩
      rintro _ ⟨⟩

end Buffer

/-! ### Where the fields stand -/

namespace Writer

variable {op : Operation} {w w' : Writer} {fs : List Field} {vs : Record fs}

/-- Every field is found at its offset, whatever stands behind the structure. -/
theorem fields_of_putAll (put : w.putAll op fs vs = .ok w') (rest : List UInt8) :
    ∀ p ∈ (Field.offsets w.bytes.length fs).zip (Record.encodings fs vs),
      ((w'.bytes ++ rest).drop p.1).take p.2.length = p.2 := by
  induction fs generalizing w with
  | nil => nofun
  | cons f fs ih =>
    obtain ⟨v, vs⟩ := vs
    obtain ⟨w₁, first, others⟩ := putAll_cons_eq_ok_iff.1 put
    -- Later fields only add bytes, so the first one stays where it was put.
    obtain ⟨more, bytes⟩ := (extends_of_putAll others).bytes
    have ends := length_of_put first
    obtain ⟨-, -, rfl⟩ := put_eq_ok_iff.1 first
    have start := Field.length_padded (Field.le_roundUp w.bytes.length f.alignment_pos)
    rw [Field.offsets, Record.encodings, List.zip_cons_cons, List.forall_mem_cons]
    constructor
    · rw [bytes, List.append_assoc, List.append_assoc, List.drop_left' start, List.take_left' rfl]
    · rw [← ends]
      exact ih others

/-- Between the fields there are zeros. -/
theorem zeros_of_putAll (put : w.putAll op fs vs = .ok w') {i : Nat} (from' : w.bytes.length ≤ i)
    (below : i < w'.bytes.length)
    (outside : ∀ p ∈ (Field.offsets w.bytes.length fs).zip (Record.encodings fs vs),
      ¬ (p.1 ≤ i ∧ i < p.1 + p.2.length)) : w'.bytes[i]? = some 0 := by
  induction fs generalizing w with
  | nil =>
    cases put
    exact absurd below (Nat.not_lt.2 from')
  | cons f fs ih =>
    obtain ⟨v, vs⟩ := vs
    obtain ⟨w₁, first, others⟩ := putAll_cons_eq_ok_iff.1 put
    have ends := length_of_put first
    rw [Field.offsets, Record.encodings, List.zip_cons_cons, List.forall_mem_cons] at outside
    obtain ⟨here, later⟩ := outside
    by_cases behind : w₁.bytes.length ≤ i
    · rw [← ends] at later
      exact ih others behind later
    · obtain ⟨more, bytes⟩ := (extends_of_putAll others).bytes
      obtain ⟨fits, -, rfl⟩ := put_eq_ok_iff.1 first
      have size := Field.length_encode fits
      -- The byte stands before the first field, which starts where the padding ends.
      have padding : i < Field.roundUp w.bytes.length f.alignment := by
        have apart : ¬ (Field.roundUp w.bytes.length f.alignment ≤ i ∧
          i < Field.roundUp w.bytes.length f.alignment + (f.encode v).length) := here
        omega
      have start := Field.length_padded (Field.le_roundUp w.bytes.length f.alignment_pos)
      rw [bytes, List.append_assoc, List.getElem?_append_left (start.symm ▸ padding), Field.padded,
        List.getElem?_append_right from', List.getElem?_replicate, if_pos (by omega)]

/-- What was written is held by the buffer. -/
theorem holds_of_putAll (put : empty.putAll op fs vs = .ok w') :
    Holds (Frame.fitted w'.bytes payloadCapacity) fs vs := by
  have within := ((extends_of_putAll put).sound sound_empty).within
  have bytes := Frame.fitted_eq_append within
  refine ⟨Frame.length_fitted _ _, _, _, Field.placed_offsets 0 fs, ?_, ?_⟩
  · rw [bytes]
    exact fields_of_putAll put _
  · intro i inside outside
    rw [bytes]
    by_cases written : i < w'.bytes.length
    · rw [List.getElem?_append_left written]
      exact zeros_of_putAll put (Nat.zero_le i) written outside
    · rw [List.getElem?_append_right (Nat.not_lt.1 written), List.getElem?_replicate,
        if_pos (by omega)]

end Writer

/-- The frame of a structure has the buffer that holds it. -/
theorem Frame.payload_of_ofWriter {op : Operation} {w : Writer} {f : Frame}
    (built : ofWriter op w = .ok f) : f.payload = fitted w.bytes payloadCapacity := by
  unfold ofWriter at built
  dsimp only at built
  split at built
  · cases built
    rfl
  · cases built

/-! ### Structures that are too large -/

namespace Field

theorem widest_dvd (fs : List Field) : widest fs ∣ 8 := by
  induction fs with
  | nil => decide
  | cons f fs ih =>
    have own : f.alignment ∣ 8 := by
      cases f with
      | int32 | word32 | word64 => decide
      | uuid | text | gap => exact Nat.one_dvd _
    rw [widest]
    rcases Nat.le_total f.alignment (widest fs) with le | le
    · rwa [Nat.max_eq_right le]
    · rwa [Nat.max_eq_left le]

/-- The padding at the end of a structure never runs past the buffer, because the size of the buffer
is a multiple of every alignment. -/
theorem extent_le_iff (fs : List Field) :
    extent fs ≤ payloadCapacity ↔ finish 0 fs ≤ payloadCapacity := by
  constructor
  · exact Nat.le_trans (le_roundUp _ (widest_pos fs))
  · intro room
    have whole : widest fs ∣ payloadCapacity := Nat.dvd_trans (widest_dvd fs) (by decide)
    exact (isLeast_roundUp _ (widest_pos fs)).2 ⟨room, whole⟩

end Field

namespace Writer

variable {op : Operation} {w w' : Writer} {fs : List Field} {vs : Record fs}

/-- Fields that end within the buffer and take their values are written. -/
theorem exists_putAll (op : Operation) (room : Field.finish w.bytes.length fs ≤ payloadCapacity)
    (fit : ∀ t ∈ Record.texts fs vs, t.Fits) : ∃ w', w.putAll op fs vs = .ok w' := by
  cases put : w.putAll op fs vs with
  | ok w' => exact ⟨w', rfl⟩
  | error e =>
    have refused := (putAll_eq_error_iff room).1 put
    exact absurd fit ((firstRefused_iff _).1 ⟨e, refused⟩)

end Writer

namespace Buffer

variable {b : Buffer} {w : Writer} {fs : List Field} {vs : Record fs}

/-- If the fields do not all end within the buffer, those before the first one that does not are
written, and that one changes nothing. -/
theorem refused_of_overflow (op : Operation) (shown : b.Shows w)
    (within : w.bytes.length ≤ payloadCapacity) (fit : ∀ t ∈ Record.texts fs vs, t.Fits)
    (past : payloadCapacity < Field.finish w.bytes.length fs) :
    ∃ n < fs.length, ∃ w₁, w.putAll op (fs.take n) (Record.take n fs vs) = .ok w₁ ∧
      payloadCapacity < Field.finish w.bytes.length (fs.take (n + 1)) ∧
      ∃ b', b.putAll op fs vs = (.error (.layoutOverflow op), b') ∧
        b'.bytes = Frame.fitted w₁.bytes payloadCapacity := by
  -- Every field moves on, so the fields that remain still run past the end.
  induction fs generalizing b w with
  | nil => exact absurd past (Nat.not_lt.2 within)
  | cons f fs ih =>
    obtain ⟨v, vs⟩ := vs
    rw [Record.texts, List.forall_mem_append] at fit
    obtain ⟨own, others⟩ := fit
    by_cases inside : Field.roundUp w.bytes.length f.alignment + f.size ≤ payloadCapacity
    · obtain ⟨w₁, first⟩ := Writer.exists_put op inside own
      have ends := Writer.length_of_put first
      have mirrored := mirrors_put shown op f v
      rw [putAll]
      generalize b.put op f v = done at mirrored
      rw [first] at mirrored
      cases mirrored with
      | ok shown₁ =>
        obtain ⟨n, short, w₂, written, beyond, refused⟩ :=
          ih shown₁ (ends ▸ inside) others (ends ▸ past)
        rw [ends] at beyond
        exact ⟨n + 1, Nat.succ_lt_succ short, w₂,
          Writer.putAll_cons_eq_ok_iff.2 ⟨w₁, first, written⟩, beyond, refused⟩
    · have beyond := Nat.not_le.1 inside
      have mirrored := mirrors_put shown op f v
      rw [putAll]
      generalize b.put op f v = done at mirrored
      rw [Writer.put_of_past (Field.check_eq_ok_iff.2 own) beyond] at mirrored
      cases mirrored with
      | error kept => exact ⟨0, Nat.zero_lt_succ _, w, rfl, beyond, _, rfl, kept.trans shown.bytes⟩

theorem Shows.extent (shown : b.Shows w) : b.extent = w.extent := by
  rw [Buffer.extent, Writer.extent, shown.position, shown.alignment]

/-- Fields whose values are accepted are laid out in the buffer as a compiler lays a structure out,
they are read back from it, and its frame is the one that is sent, if the structure is not too large.
Otherwise the first field that would end past the buffer is refused, and the buffer holds the fields
before it. -/
theorem layout_of_putAll (op op' : Operation) (fs : List Field) (vs : Record fs)
    (accepted : ∀ t ∈ Record.texts fs vs, checkText t.label t.value t.capacity = .ok ()) :
    (Field.extent fs ≤ payloadCapacity →
      ∃ b, blank.putAll op fs vs = (.ok (), b) ∧ Holds b.bytes fs vs ∧
        Field.IsStructSize fs b.extent ∧
        (∃ r, (Reader.start b.bytes).takeAll op' fs = .ok (vs, r)) ∧
        ∃ w f, Writer.empty.putAll op fs vs = .ok w ∧ Frame.ofWriter op w = .ok f ∧
          f.payload = b.bytes ∧ f.bodySize = b.extent) ∧
    (payloadCapacity < Field.extent fs →
      ∃ n < fs.length,
        (∃ offsets stop, Field.Placed 0 (fs.take (n + 1)) offsets stop ∧ payloadCapacity < stop) ∧
        ∃ b, blank.putAll op fs vs = (.error (.layoutOverflow op), b) ∧
          Holds b.bytes (fs.take n) (Record.take n fs vs) ∧
          Writer.empty.putAll op fs vs = .error (.layoutOverflow op)) := by
  have fit : ∀ t ∈ Record.texts fs vs, t.Fits :=
    fun t member => Field.checkText_eq_ok_iff.1 (accepted t member)
  obtain ⟨outcome, shows⟩ := mirrors_putAll shows_blank op vs
  constructor
  · intro room
    obtain ⟨w, put⟩ := Writer.exists_putAll op (w := .empty) ((Field.extent_le_iff fs).1 room) fit
    have shown := shows w put
    rw [put] at outcome
    have extent := (Writer.grown_of_putAll Writer.sound_empty put).extent
    have bytes := Frame.fitted_eq_append ((Writer.extends_of_putAll put).sound Writer.sound_empty).within
    obtain ⟨f, built, size⟩ := Layout.exists_ofWriter op (extent ▸ room)
    refine ⟨(blank.putAll op fs vs).2, Prod.ext outcome rfl, ?_, ?_, ?_, w, f, put, built, ?_, ?_⟩
    · rw [shown.bytes]
      exact Writer.holds_of_putAll put
    · rw [shown.extent, extent]
      exact Field.isStructSize_extent fs
    · rw [shown.bytes, bytes]
      exact ⟨_, Reader.takeAll_of_putAll op' put _⟩
    · rw [shown.bytes]
      exact Frame.payload_of_ofWriter built
    · rw [size, shown.extent]
  · intro large
    have past : payloadCapacity < Field.finish 0 fs :=
      Nat.not_le.1 (mt (Field.extent_le_iff fs).2 (Nat.not_le.2 large))
    obtain ⟨n, short, w, put, beyond, b, refused, bytes⟩ :=
      refused_of_overflow op shows_blank (Nat.zero_le _) fit past
    refine ⟨n, short, ⟨_, _, Field.placed_offsets 0 _, beyond⟩, b, refused, ?_, ?_⟩
    · rw [bytes]
      exact Writer.holds_of_putAll put
    · rw [refused] at outcome
      cases written : Writer.empty.putAll op fs vs with
      | ok w' =>
        rw [written] at outcome
        cases outcome
      | error e =>
        rw [written] at outcome
        cases outcome
        rfl

/-- A text of an odd size stands between numbers of four and eight bytes, and two descriptors do not
fit the buffer behind a number. -/
theorem layout_of_odd_text :
    let fs : List Field := [.int32, .text "name" 5, .word64, .gap 3, .word32]
    let vs : Record fs := (-1, "ab", 8589934592, (), 7, ())
    let large : List Field := [.word32, .text "xml" 4096, .text "xml" 4096]
    let texts : Record large := (1, "<domain/>", "<network/>", ())
    (∃ b, blank.putAll .version fs vs = (.ok (), b) ∧ Holds b.bytes fs vs ∧
      ∃ r, (Reader.start b.bytes).takeAll .failure fs = .ok (vs, r)) ∧
    ∃ n < 3, ∃ b, blank.putAll .version large texts = (.error (.layoutOverflow .version), b) ∧
      Holds b.bytes (large.take n) (Record.take n large texts) := by
  intro fs vs large texts
  constructor
  · have fit : ∀ t ∈ Record.texts fs vs, t.Fits := by decide +kernel
    obtain ⟨fits, -⟩ := layout_of_putAll .version .failure fs vs
      fun t member => Field.checkText_eq_ok_iff.2 (fit t member)
    obtain ⟨b, put, holds, -, read, -⟩ := fits (by decide)
    exact ⟨b, put, holds, read⟩
  · have fit : ∀ t ∈ Record.texts large texts, t.Fits := by decide +kernel
    obtain ⟨-, past⟩ := layout_of_putAll .version .failure large texts
      fun t member => Field.checkText_eq_ok_iff.2 (fit t member)
    obtain ⟨n, short, -, b, refused, holds, -⟩ := past (by decide)
    exact ⟨n, short, b, refused, holds⟩

end Buffer

end Supervisor.Wire

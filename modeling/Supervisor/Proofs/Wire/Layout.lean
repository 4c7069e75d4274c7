import Supervisor.Proofs.Except
import Supervisor.Proofs.Text.Utf8
import Supervisor.Wire.Layout

/-!
# Reading what was written

Writer and reader walk along the same list of fields, each with a position of its own. The writer
never changes bytes it has put down, so a reader that starts where a field was written finds that
field whatever follows it; the laws are therefore stated for a structure with any bytes behind it.

## Main results

* `Field.decode_encode` - the bytes of a field hold its value
* `Writer.put_eq_ok_iff` - when a field can be appended, and what the structure is then
* `Reader.takeAll_of_putAll`, `Reader.takeEach_of_putEach` - reading undoes writing
* `Layout.read_of_write` - the same for whole payloads
-/

namespace Supervisor.Wire

namespace Field

theorem le_roundUp (n : Nat) {a : Nat} (pos : 0 < a) : n ≤ roundUp n a := by
  have below := Nat.lt_div_mul_add pos (a := n + (a - 1))
  unfold roundUp
  omega

theorem alignment_pos (f : Field) : 0 < f.alignment := by
  cases f <;> simp [alignment]

theorem length_padded {bs : List UInt8} {n : Nat} (le : bs.length ≤ n) :
    (padded bs n).length = n := by
  simp only [padded, List.length_append, List.length_replicate]
  omega

/-- A text fits a field exactly if it leaves room for the terminator and holds no NUL. -/
theorem checkText_eq_ok_iff {label value : String} {capacity : Nat} :
    checkText label value capacity = .ok () ↔
      Text.size value ≤ longestText capacity ∧ 0 ∉ Text.utf8 value := by
  unfold checkText
  split
  · next long => simp [Nat.not_le.2 long]
  · next short =>
    split
    · next nul => simp [nul]
    · next noNul => simp [Nat.not_lt.1 short, noNul]

/-- A field that takes its value takes exactly its size. -/
theorem length_encode {f : Field} {v : f.Value} (fits : f.check v = .ok ()) :
    (f.encode v).length = f.size := by
  cases f with
  | text label capacity =>
    have short := (checkText_eq_ok_iff.1 fits).1
    exact length_padded (Nat.le_trans short (Nat.sub_le _ _))
  | uuid => exact v.length_eq
  | _ => simp [encode, size]

/-- The bytes of a field hold its value. -/
theorem decode_encode {f : Field} {v : f.Value} (fits : f.check v = .ok ()) :
    f.decode (f.encode v) = v := by
  cases f with
  | int32 =>
    have small := UInt32.toNat_lt (Int32.toUInt32 v)
    simp only [decode, encode, Bytes.toNat_ofNat]
    rw [Nat.mod_eq_of_lt (by simpa [Bytes.limit] using small), UInt32.ofNat_toNat]
    rfl
  | word32 =>
    have small := UInt32.toNat_lt v
    simp only [decode, encode, Bytes.toNat_ofNat]
    rw [Nat.mod_eq_of_lt (by simpa [Bytes.limit] using small), UInt32.ofNat_toNat]
  | word64 =>
    have small := UInt64.toNat_lt v
    simp only [decode, encode, Bytes.toNat_ofNat]
    rw [Nat.mod_eq_of_lt (by simpa [Bytes.limit] using small), UInt64.ofNat_toNat]
  | uuid => simp [decode, encode, Uuid.length_eq]
  | text label capacity =>
    obtain ⟨short, noNul⟩ := checkText_eq_ok_iff.1 fits
    simp only [decode, encode, padded]
    -- A field of no bytes has no room for a terminator, but takes the empty text.
    rcases Nat.eq_zero_or_pos capacity with rfl | pos
    · have none : Text.utf8 v = [] := List.length_eq_zero_iff.1 (Nat.le_zero.1 short)
      rw [← Text.lossy_utf8 v, none]
      rfl
    · have room : 0 < capacity - (Text.utf8 v).length := by
        unfold longestText Text.size at short
        omega
      exact Text.terminated_append_zeros room noNul
  | gap => rfl

end Field

namespace Writer

variable {op : Operation} {w w' : Writer} {f : Field}

/-- A field can be appended if it takes the value and ends within the payload buffer; it then stands
at the next place where it may start. -/
theorem put_eq_ok_iff {v : f.Value} :
    w.put op f v = .ok w' ↔
      f.check v = .ok () ∧
      Field.roundUp w.bytes.length f.alignment + f.size ≤ payloadCapacity ∧
      w' = ⟨Field.padded w.bytes (Field.roundUp w.bytes.length f.alignment) ++ f.encode v,
        max w.alignment f.alignment⟩ := by
  unfold put
  rw [bind_eq_ok_iff]
  constructor
  · rintro ⟨⟨⟩, fits, rest⟩
    dsimp only at rest
    split at rest
    · next room => exact ⟨fits, room, (Except.ok.inj rest).symm⟩
    · cases rest
  · rintro ⟨fits, room, rfl⟩
    exact ⟨(), fits, by simp only [room, if_true]; rfl⟩

/-- Where a field that was appended starts and ends. -/
theorem length_of_put {v : f.Value} (put : w.put op f v = .ok w') :
    w'.bytes.length = Field.roundUp w.bytes.length f.alignment + f.size := by
  obtain ⟨fits, -, rfl⟩ := put_eq_ok_iff.1 put
  rw [List.length_append, Field.length_padded (Field.le_roundUp _ f.alignment_pos),
    Field.length_encode fits]

theorem putAll_cons_eq_ok_iff {fs : List Field} {v : f.Value} {vs : Record fs} :
    w.putAll op (f :: fs) (v, vs) = .ok w' ↔
      ∃ w₁, w.put op f v = .ok w₁ ∧ w₁.putAll op fs vs = .ok w' :=
  bind_eq_ok_iff

theorem putEach_cons_eq_ok_iff {v : f.Value} {vs : List f.Value} :
    w.putEach op f (v :: vs) = .ok w' ↔
      ∃ w₁, w.put op f v = .ok w₁ ∧ w₁.putEach op f vs = .ok w' :=
  bind_eq_ok_iff

theorem putGaps_succ_eq_ok_iff {size count : Nat} :
    w.putGaps op size (count + 1) = .ok w' ↔
      ∃ w₁, w.put op (.gap size) () = .ok w₁ ∧ w₁.putGaps op size count = .ok w' :=
  bind_eq_ok_iff

/-- A structure under construction that the payload buffer can take, with an alignment that can be
rounded up to. -/
structure Sound (w : Writer) : Prop where
  within : w.bytes.length ≤ payloadCapacity
  aligned : 0 < w.alignment

theorem sound_empty : empty.Sound := ⟨Nat.zero_le _, Nat.one_pos⟩

/-- What every run of the writer keeps: bytes that were put down stay, and the structure stays
sound. -/
structure Extends (w w' : Writer) : Prop where
  bytes : ∃ more, w'.bytes = w.bytes ++ more
  sound : w.Sound → w'.Sound

theorem Extends.refl (w : Writer) : Extends w w := ⟨⟨[], by simp⟩, id⟩

theorem Extends.trans {w₁ : Writer} (first : Extends w w₁) (rest : Extends w₁ w') :
    Extends w w' := by
  obtain ⟨more, bytes⟩ := first.bytes
  obtain ⟨more', bytes'⟩ := rest.bytes
  exact ⟨⟨more ++ more', by rw [bytes', bytes, List.append_assoc]⟩, rest.sound ∘ first.sound⟩

theorem extends_of_put {v : f.Value} (put : w.put op f v = .ok w') : Extends w w' := by
  have ends := length_of_put put
  obtain ⟨-, room, rfl⟩ := put_eq_ok_iff.1 put
  refine ⟨⟨_, List.append_assoc _ _ _⟩, fun sound => ⟨ends ▸ room, ?_⟩⟩
  exact Nat.lt_of_lt_of_le sound.aligned (Nat.le_max_left _ _)

theorem extends_of_putAll {fs : List Field} {vs : Record fs}
    (put : w.putAll op fs vs = .ok w') : Extends w w' := by
  induction fs generalizing w with
  | nil =>
    cases put
    exact .refl _
  | cons f fs ih =>
    obtain ⟨w₁, first, rest⟩ := putAll_cons_eq_ok_iff.1 put
    exact (extends_of_put first).trans (ih rest)

theorem extends_of_putEach {vs : List f.Value} (put : w.putEach op f vs = .ok w') :
    Extends w w' := by
  induction vs generalizing w with
  | nil =>
    cases put
    exact .refl _
  | cons v vs ih =>
    obtain ⟨w₁, first, rest⟩ := putEach_cons_eq_ok_iff.1 put
    exact (extends_of_put first).trans (ih rest)

theorem extends_of_putGaps {size count : Nat} (put : w.putGaps op size count = .ok w') :
    Extends w w' := by
  induction count generalizing w with
  | zero =>
    cases put
    exact .refl _
  | succ count ih =>
    obtain ⟨w₁, first, rest⟩ := putGaps_succ_eq_ok_iff.1 put
    exact (extends_of_put first).trans (ih rest)

end Writer

namespace Reader

variable {op : Operation} {w w' : Writer} {f : Field}

/-- A reader that stands where the writer stood finds the field that was written there. -/
theorem take_of_put {v : f.Value} (op' : Operation) (put : w.put op f v = .ok w')
    (rest : List UInt8) :
    (⟨w'.bytes ++ rest, w.bytes.length⟩ : Reader).take op' f =
      .ok (v, ⟨w'.bytes ++ rest, w'.bytes.length⟩) := by
  have ends := Writer.length_of_put put
  obtain ⟨fits, room, rfl⟩ := Writer.put_eq_ok_iff.1 put
  have start := Field.length_padded (Field.le_roundUp w.bytes.length f.alignment_pos)
  have size := Field.length_encode fits
  have inside : Field.roundUp w.bytes.length f.alignment + f.size ≤
      (Field.padded w.bytes (Field.roundUp w.bytes.length f.alignment) ++ f.encode v ++
        rest).length := by
    rw [List.length_append, ends]
    omega
  have found : ((Field.padded w.bytes (Field.roundUp w.bytes.length f.alignment) ++ f.encode v ++
      rest).drop (Field.roundUp w.bytes.length f.alignment)).take f.size = f.encode v := by
    rw [List.append_assoc, List.drop_left' start, List.take_left' size]
  simp only [take, inside, if_true, found, Field.decode_encode fits, ends]

theorem takeAll_of_putAll {fs : List Field} {vs : Record fs} (op' : Operation)
    (put : w.putAll op fs vs = .ok w') (rest : List UInt8) :
    (⟨w'.bytes ++ rest, w.bytes.length⟩ : Reader).takeAll op' fs =
      .ok (vs, ⟨w'.bytes ++ rest, w'.bytes.length⟩) := by
  induction fs generalizing w with
  | nil =>
    cases put
    rfl
  | cons f fs ih =>
    obtain ⟨w₁, first, others⟩ := Writer.putAll_cons_eq_ok_iff.1 put
    -- For the first field, the fields written later are a part of what follows.
    obtain ⟨more, bytes⟩ := (Writer.extends_of_putAll others).bytes
    have head := take_of_put op' first (more ++ rest)
    rw [← List.append_assoc, ← bytes] at head
    refine bind_eq_ok_iff.2 ⟨_, head, bind_eq_ok_iff.2 ⟨_, ih others, rfl⟩⟩

theorem takeEach_of_putEach {vs : List f.Value} (op' : Operation)
    (put : w.putEach op f vs = .ok w') (rest : List UInt8) :
    (⟨w'.bytes ++ rest, w.bytes.length⟩ : Reader).takeEach op' f vs.length =
      .ok (vs, ⟨w'.bytes ++ rest, w'.bytes.length⟩) := by
  induction vs generalizing w with
  | nil =>
    cases put
    rfl
  | cons v vs ih =>
    obtain ⟨w₁, first, others⟩ := Writer.putEach_cons_eq_ok_iff.1 put
    obtain ⟨more, bytes⟩ := (Writer.extends_of_putEach others).bytes
    have head := take_of_put op' first (more ++ rest)
    rw [← List.append_assoc, ← bytes] at head
    refine bind_eq_ok_iff.2 ⟨_, head, bind_eq_ok_iff.2 ⟨_, ih others, rfl⟩⟩

/-- The only way to fail at a field is to run past the payload. -/
theorem take_error {r : Reader} {e : Error} (failed : r.take op f = .error e) :
    e = .layoutOverflow op := by
  unfold take at failed
  dsimp only at failed
  split at failed <;> cases failed
  rfl

theorem takeAll_error {r : Reader} {fs : List Field} {e : Error}
    (failed : r.takeAll op fs = .error e) : e = .layoutOverflow op := by
  induction fs generalizing r with
  | nil => cases failed
  | cons f fs ih =>
    rcases bind_eq_error_iff.1 failed with first | ⟨⟨v, r₁⟩, -, rest⟩
    · exact take_error first
    · rcases bind_eq_error_iff.1 rest with others | ⟨_, -, returned⟩
      · exact ih others
      · cases returned

theorem takeEach_error {r : Reader} {count : Nat} {e : Error}
    (failed : r.takeEach op f count = .error e) : e = .layoutOverflow op := by
  induction count generalizing r with
  | zero => cases failed
  | succ count ih =>
    rcases bind_eq_error_iff.1 failed with first | ⟨⟨v, r₁⟩, -, rest⟩
    · exact take_error first
    · rcases bind_eq_error_iff.1 rest with others | ⟨_, -, returned⟩
      · exact ih others
      · cases returned

end Reader

namespace Layout

variable {op op' : Operation} {w : Writer}

/-- A listing is its count, its entries, and gaps for the entries that are not in use. -/
theorem write_listing_eq_ok_iff {label : String} {entry : Field} {vs : List entry.Value} :
    (listing label entry).write op vs = .ok w ↔
      vs.length ≤ listingCapacity ∧
      ∃ w₁, Writer.empty.put op .int32 (Int32.ofNat vs.length) = .ok w₁ ∧
      ∃ w₂, w₁.putEach op entry vs = .ok w₂ ∧
        w₂.putGaps op entry.size (listingCapacity - vs.length) = .ok w := by
  rw [write]
  split
  · next few => simp only [few, true_and, bind_eq_ok_iff]
  · next many => simp [many]

theorem sound_of_write {l : Layout} {v : l.Value} (written : l.write op v = .ok w) : w.Sound := by
  cases l with
  | record fs => exact (Writer.extends_of_putAll written).sound Writer.sound_empty
  | listing label entry =>
    obtain ⟨-, w₁, first, w₂, entries, gaps⟩ := write_listing_eq_ok_iff.1 written
    have all := (Writer.extends_of_put first).trans
      ((Writer.extends_of_putEach entries).trans (Writer.extends_of_putGaps gaps))
    exact all.sound Writer.sound_empty

theorem read_of_write_record {fs : List Field} {vs : Record fs}
    (written : (record fs).write op vs = .ok w) (rest : List UInt8) :
    (record fs).read op' (w.bytes ++ rest) = .ok vs :=
  bind_eq_ok_iff.2 ⟨_, Reader.takeAll_of_putAll op' written rest, rfl⟩

/-- A listing reads back under any label, because labels only occur in messages. -/
theorem read_of_write_listing {label label' : String} {entry : Field} {vs : List entry.Value}
    (written : (listing label entry).write op vs = .ok w) (rest : List UInt8) :
    (listing label' entry).read op' (w.bytes ++ rest) = .ok vs := by
  obtain ⟨few, w₁, first, w₂, entries, gaps⟩ := write_listing_eq_ok_iff.1 written
  obtain ⟨more, bytes⟩ := (Writer.extends_of_putEach entries).bytes
  obtain ⟨more', bytes'⟩ := (Writer.extends_of_putGaps gaps).bytes
  -- The count and the entries are each read with everything behind them as what follows; the gaps
  -- are not read at all.
  have count := Reader.take_of_put op' first (more ++ (more' ++ rest))
  have body := Reader.takeEach_of_putEach op' entries (more' ++ rest)
  rw [← List.append_assoc, ← bytes, ← List.append_assoc, ← bytes'] at count
  rw [← List.append_assoc, ← bytes'] at body
  have number : (Int32.ofNat vs.length).toInt = vs.length :=
    Int32.toInt_ofNat_of_lt (by unfold listingCapacity at few; omega)
  refine bind_eq_ok_iff.2 ⟨_, count, ?_⟩
  have inRange : 0 ≤ (vs.length : Int) ∧ (vs.length : Int) ≤ listingCapacity := by omega
  simp only [number, inRange, and_self, if_true, Int.toNat_natCast]
  exact bind_eq_ok_iff.2 ⟨_, body, rfl⟩

/-- A payload reads back, whatever follows it in the buffer. -/
theorem read_of_write {l : Layout} {v : l.Value} (written : l.write op v = .ok w)
    (rest : List UInt8) : l.read op' (w.bytes ++ rest) = .ok v := by
  cases l with
  | record fs => exact read_of_write_record written rest
  | listing label entry => exact read_of_write_listing written rest

/-- A payload that cannot be read is too short or has a count that no listing has. -/
theorem read_error {l : Layout} {bytes : List UInt8} {e : Error}
    (failed : l.read op bytes = .error e) :
    e = .layoutOverflow op ∨ ∃ label count, e = .countOutOfRange label count listingCapacity := by
  cases l with
  | record fs =>
    rcases bind_eq_error_iff.1 failed with reading | ⟨_, -, returned⟩
    · exact .inl (Reader.takeAll_error reading)
    · cases returned
  | listing label entry =>
    rcases bind_eq_error_iff.1 failed with first | ⟨⟨count, r⟩, -, rest⟩
    · exact .inl (Reader.take_error first)
    · dsimp only at rest
      split at rest
      · rcases bind_eq_error_iff.1 rest with reading | ⟨_, -, returned⟩
        · exact .inl (Reader.takeEach_error reading)
        · cases returned
      · cases rest
        exact .inr ⟨label, count, rfl⟩

end Layout

end Supervisor.Wire

import Supervisor.Proofs.Wire.Structure
import Supervisor.Wire.Frame

/-!
# What the encoder refuses

The payload buffer takes every structure of the format, so only what is put into a structure can be
refused: a text that does not fit its field, and a listing with too many entries. Texts are looked at
in the order of their fields, and the first one at fault decides what is reported.

## Main definitions

* `FieldText` - a text and the field that it is to fill
* `FieldText.Fits`, `FieldText.Refused` - when it fits, and what is reported if it does not
* `FirstRefused` - the first of several texts that is at fault
* `Layout.Refused` - why the values of a payload are refused

## Main results

* `firstRefused_iff` - something is refused exactly if not all texts fit
* `Layout.write_eq_error_iff` - nothing else is refused, and nothing runs past the buffer
* `Layout.encode_eq_error_iff`, `Layout.bodySize_of_encode` - the same for the frame of a payload,
  whose size does not depend on the values
-/

namespace Supervisor.Wire

/-- A text and the field that it is to fill. -/
structure FieldText where
  label : String
  capacity : Nat
  value : String
  deriving DecidableEq, Repr

namespace FieldText

/-- The text leaves a byte of its field for the terminator and holds no NUL. -/
def Fits (t : FieldText) : Prop :=
  Text.size t.value ≤ t.capacity - 1 ∧ 0 ∉ Text.utf8 t.value

instance (t : FieldText) : Decidable t.Fits := inferInstanceAs (Decidable (_ ∧ _))

/-- What is reported of a text that does not fit: that it is too long, and a NUL only if it is
not. -/
inductive Refused (t : FieldText) : Error → Prop where
  | tooLong (long : t.capacity - 1 < Text.size t.value) :
      Refused t (.textTooLong t.label (Text.size t.value) (t.capacity - 1))
  | embeddedNul (short : Text.size t.value ≤ t.capacity - 1) (nul : 0 ∈ Text.utf8 t.value) :
      Refused t (.embeddedNul t.label)

variable {t : FieldText} {e : Error}

theorem checkText_eq_error_iff :
    checkText t.label t.value t.capacity = .error e ↔ t.Refused e := by
  unfold checkText
  split
  · next long =>
    constructor
    · rintro ⟨⟩
      exact .tooLong long
    · rintro (_ | ⟨short, -⟩)
      · rfl
      · exact absurd long (Nat.not_lt.2 short)
  · next short =>
    split
    · next nul =>
      constructor
      · rintro ⟨⟩
        exact .embeddedNul (Nat.not_lt.1 short) nul
      · rintro (long | _)
        · exact absurd long short
        · rfl
    · next noNul =>
      constructor
      · rintro ⟨⟩
      · rintro (long | ⟨-, nul⟩)
        · exact absurd long short
        · exact absurd nul noNul

theorem Refused.not_fits (refused : t.Refused e) : ¬ t.Fits := by
  rintro ⟨short, noNul⟩
  cases refused with
  | tooLong long => exact Nat.not_lt.2 short long
  | embeddedNul _ nul => exact noNul nul

theorem exists_refused (unfit : ¬ t.Fits) : ∃ e, t.Refused e := by
  by_cases short : Text.size t.value ≤ t.capacity - 1
  · by_cases nul : 0 ∈ Text.utf8 t.value
    · exact ⟨_, .embeddedNul short nul⟩
    · exact absurd ⟨short, nul⟩ unfit
  · exact ⟨_, .tooLong (Nat.not_le.1 short)⟩

end FieldText

/-- What is reported of several texts: of the first one that does not fit. -/
inductive FirstRefused : List FieldText → Error → Prop where
  | here {t : FieldText} {ts : List FieldText} {e : Error} (refused : t.Refused e) :
      FirstRefused (t :: ts) e
  | later {t : FieldText} {ts : List FieldText} {e : Error} (fits : t.Fits)
      (refused : FirstRefused ts e) : FirstRefused (t :: ts) e

section Texts

variable {t : FieldText} {ts us : List FieldText} {e : Error}

theorem not_firstRefused_nil : ¬ FirstRefused [] e := nofun

theorem firstRefused_cons_iff :
    FirstRefused (t :: ts) e ↔ t.Refused e ∨ t.Fits ∧ FirstRefused ts e := by
  constructor
  · rintro (refused | ⟨fits, refused⟩)
    · exact .inl refused
    · exact .inr ⟨fits, refused⟩
  · rintro (refused | ⟨fits, refused⟩)
    · exact .here refused
    · exact .later fits refused

theorem firstRefused_append_iff :
    FirstRefused (ts ++ us) e ↔
      FirstRefused ts e ∨ (∀ t ∈ ts, t.Fits) ∧ FirstRefused us e := by
  induction ts with
  | nil => simp [not_firstRefused_nil]
  | cons t ts ih =>
    rw [List.cons_append, firstRefused_cons_iff, firstRefused_cons_iff, ih, List.forall_mem_cons,
      and_or_left, or_assoc, and_assoc]

/-- Something is refused exactly if not all texts fit. -/
theorem firstRefused_iff (ts : List FieldText) : (∃ e, FirstRefused ts e) ↔ ¬ ∀ t ∈ ts, t.Fits := by
  induction ts with
  | nil => simp [not_firstRefused_nil]
  | cons t ts ih =>
    rw [List.forall_mem_cons]
    by_cases fits : t.Fits
    · have never : ∀ e, ¬ t.Refused e := fun e refused => refused.not_fits fits
      simp [firstRefused_cons_iff, fits, never, ih]
    · obtain ⟨e, refused⟩ := FieldText.exists_refused fits
      simp only [fits, false_and, not_false_iff, iff_true]
      exact ⟨e, .here refused⟩

end Texts

/-! ### The texts of a payload -/

/-- The text in a field, if it holds one. -/
def Field.texts : (f : Field) → f.Value → List FieldText
  | .text label capacity, value => [⟨label, capacity, value⟩]
  | _, _ => []

/-- The texts in the fields of a list. -/
def Record.texts : (fs : List Field) → Record fs → List FieldText
  | [], _ => []
  | f :: fs, (v, vs) => f.texts v ++ texts fs vs

/-- Why the values of a payload are refused: there are too many of them, or else a text does not
fit. -/
def Layout.Refused : (l : Layout) → l.Value → Error → Prop
  | .record fs, vs, e => FirstRefused (Record.texts fs vs) e
  | .listing label entry, vs, e =>
    listingCapacity < vs.length ∧
        e = .countOutOfRange label (Int32.ofNat (min vs.length 2147483647)) listingCapacity ∨
      vs.length ≤ listingCapacity ∧ FirstRefused (vs.flatMap entry.texts) e

theorem Field.check_eq_error_iff {f : Field} {v : f.Value} {e : Error} :
    f.check v = .error e ↔ FirstRefused (f.texts v) e := by
  cases f with
  | text label capacity =>
    rw [check, texts, firstRefused_cons_iff]
    have refused := FieldText.checkText_eq_error_iff (t := ⟨label, capacity, v⟩) (e := e)
    simpa [not_firstRefused_nil] using refused
  | _ => simp [check, texts, not_firstRefused_nil]

theorem Field.check_eq_ok_iff {f : Field} {v : f.Value} :
    f.check v = .ok () ↔ ∀ t ∈ f.texts v, t.Fits := by
  cases f with
  | text label capacity =>
    rw [check, texts, checkText_eq_ok_iff, List.forall_mem_singleton]
    rfl
  | _ => simp [check, texts]

/-! ### The writer -/

namespace Writer

variable {op : Operation} {w : Writer} {f : Field} {fs : List Field} {e : Error}

/-- A field that ends within the buffer is refused only for its value. -/
theorem put_eq_error_iff {v : f.Value}
    (inside : Field.roundUp w.bytes.length f.alignment + f.size ≤ payloadCapacity) :
    w.put op f v = .error e ↔ FirstRefused (f.texts v) e := by
  unfold put
  rw [bind_eq_error_iff, Field.check_eq_error_iff]
  simp [inside, pure, Except.pure]

theorem exists_put (op : Operation) {v : f.Value}
    (inside : Field.roundUp w.bytes.length f.alignment + f.size ≤ payloadCapacity)
    (fit : ∀ t ∈ f.texts v, t.Fits) : ∃ w₁, w.put op f v = .ok w₁ :=
  ⟨_, put_eq_ok_iff.2 ⟨Field.check_eq_ok_iff.2 fit, inside, rfl⟩⟩

theorem fit_of_put {v : f.Value} {w₁ : Writer} (put : w.put op f v = .ok w₁) :
    ∀ t ∈ f.texts v, t.Fits :=
  Field.check_eq_ok_iff.1 (put_eq_ok_iff.1 put).1

/-- Fields that end within the buffer are refused only for their values. -/
theorem putAll_eq_error_iff {vs : Record fs}
    (room : Field.finish w.bytes.length fs ≤ payloadCapacity) :
    w.putAll op fs vs = .error e ↔ FirstRefused (Record.texts fs vs) e := by
  induction fs generalizing w with
  | nil => simp [putAll, Record.texts, not_firstRefused_nil]
  | cons f fs ih =>
    obtain ⟨v, vs⟩ := vs
    have inside := Nat.le_trans (Field.le_finish _ fs) room
    -- Either the first field is refused, or it is written and the others go on behind it.
    rw [Record.texts, firstRefused_append_iff, putAll, bind_eq_error_iff, put_eq_error_iff inside]
    refine or_congr_right ⟨?_, ?_⟩
    · rintro ⟨w₁, first, others⟩
      exact ⟨fit_of_put first, (ih (length_of_put first ▸ room)).1 others⟩
    · rintro ⟨fit, refused⟩
      obtain ⟨w₁, first⟩ := exists_put op inside fit
      exact ⟨w₁, first, (ih (length_of_put first ▸ room)).2 refused⟩

/-- So are several fields of one kind. -/
theorem putEach_eq_error_iff {vs : List f.Value}
    (room : Field.finish w.bytes.length (List.replicate vs.length f) ≤ payloadCapacity) :
    w.putEach op f vs = .error e ↔ FirstRefused (vs.flatMap f.texts) e := by
  induction vs generalizing w with
  | nil => simp [putEach, not_firstRefused_nil]
  | cons v vs ih =>
    have inside := Nat.le_trans (Field.le_finish _ (List.replicate vs.length f)) room
    rw [List.flatMap_cons, firstRefused_append_iff, putEach, bind_eq_error_iff,
      put_eq_error_iff inside]
    refine or_congr_right ⟨?_, ?_⟩
    · rintro ⟨w₁, first, others⟩
      exact ⟨fit_of_put first, (ih (length_of_put first ▸ room)).1 others⟩
    · rintro ⟨fit, refused⟩
      obtain ⟨w₁, first⟩ := exists_put op inside fit
      exact ⟨w₁, first, (ih (length_of_put first ▸ room)).2 refused⟩

/-- Gaps that end within the buffer are never refused. -/
theorem putGaps_ne_error {size count : Nat}
    (room : Field.finish w.bytes.length (List.replicate count (.gap size)) ≤ payloadCapacity) :
    w.putGaps op size count ≠ .error e := by
  induction count generalizing w with
  | zero => nofun
  | succ count ih =>
    have inside := Nat.le_trans (Field.le_finish _ (List.replicate count (.gap size))) room
    rw [putGaps, Ne, bind_eq_error_iff, put_eq_error_iff inside]
    rintro (refused | ⟨w₁, first, others⟩)
    · exact not_firstRefused_nil refused
    · exact ih (length_of_put first ▸ room) others

end Writer

/-! ### Whole payloads -/

namespace Layout

variable {op : Operation} {l : Layout} {v : l.Value} {e : Error}

/-- Only what `Refused` says is refused; nothing runs past the buffer. -/
theorem write_eq_error_iff (regular : l.Regular) :
    l.write op v = .error e ↔ l.Refused v e := by
  cases l with
  | record fs => exact Writer.putAll_eq_error_iff regular.finish_le
  | listing label entry =>
    rw [write, Refused]
    split
    · next few =>
      have dvd := regular.entries label entry rfl
      obtain ⟨w₁, first⟩ := Writer.exists_put op (w := .empty) (f := .int32)
        (v := Int32.ofNat v.length) (by decide) (by simp [Field.texts])
      have counted := (Writer.extends_of_put first).sound Writer.sound_empty
      have start : w₁.bytes.length = Field.int32.size := Writer.length_of_put first
      have stop : Field.finish w₁.bytes.length (List.replicate v.length entry) =
          Field.int32.size + v.length * entry.size := by
        rw [start, Field.finish_replicate dvd]
      -- The gaps end where the last entry would end, so they are not refused.
      have gaps : ∀ w₂, w₁.putEach op entry v = .ok w₂ →
          w₂.putGaps op entry.size (listingCapacity - v.length) ≠ .error e := by
        intro w₂ entries
        refine Writer.putGaps_ne_error ?_
        rw [(Writer.grown_of_putEach counted entries).length, stop,
          Field.finish_replicate (Nat.one_dvd _), Field.size_gap, Nat.add_assoc, ← Nat.add_mul,
          Nat.add_sub_cancel' few]
        exact regular.entries_le (Nat.le_refl _)
      have behind : (w₁.putEach op entry v >>= fun w₂ =>
          w₂.putGaps op entry.size (listingCapacity - v.length)) = .error e ↔
            FirstRefused (v.flatMap entry.texts) e := by
        rw [bind_eq_error_iff, Writer.putEach_eq_error_iff (stop ▸ regular.entries_le few)]
        refine or_iff_left ?_
        rintro ⟨w₂, entries, gapped⟩
        exact gaps w₂ entries gapped
      rw [first]
      constructor
      · intro failed
        exact .inr ⟨few, behind.1 failed⟩
      · rintro (⟨many, -⟩ | ⟨-, refused⟩)
        · exact absurd few (Nat.not_le.2 many)
        · exact behind.2 refused
    · next many => simp [Nat.not_le.1 many, many, eq_comm]

/-- The texts of a payload. -/
def texts : (l : Layout) → l.Value → List FieldText
  | record fs, vs => Record.texts fs vs
  | listing _ entry, vs => vs.flatMap entry.texts

/-- How many entries a payload lists. -/
def listed : (l : Layout) → l.Value → Nat
  | record _, _ => 0
  | listing _ _, vs => vs.length

/-- Something is refused exactly if there are too many entries or not all texts fit. -/
theorem exists_refused_iff :
    (∃ e, l.Refused v e) ↔ ¬ (l.listed v ≤ listingCapacity ∧ ∀ t ∈ l.texts v, t.Fits) := by
  cases l with
  | record fs => simpa [Refused, listed, texts] using firstRefused_iff _
  | listing label entry =>
    have first := firstRefused_iff (v.flatMap entry.texts)
    simp only [Refused, listed, texts, not_and]
    constructor
    · rintro ⟨e, ⟨many, -⟩ | ⟨-, refused⟩⟩ few
      · exact absurd few (Nat.not_le.2 many)
      · exact first.1 ⟨e, refused⟩
    · intro unfit
      by_cases few : v.length ≤ listingCapacity
      · obtain ⟨e, refused⟩ := first.2 (unfit few)
        exact ⟨e, .inr ⟨few, refused⟩⟩
      · exact ⟨_, .inl ⟨Nat.not_le.1 few, rfl⟩⟩

/-- What is refused never runs past the buffer. -/
theorem Refused.ne_overflow (refused : l.Refused v e) (op' : Operation) :
    e ≠ .layoutOverflow op' := by
  have text : ∀ {ts e}, FirstRefused ts e → e ≠ .layoutOverflow op' := by
    intro ts e first
    induction first with
    | here refused => cases refused <;> nofun
    | later _ _ ih => exact ih
  cases l with
  | record fs => exact text refused
  | listing label entry =>
    rcases refused with ⟨-, rfl⟩ | ⟨-, first⟩
    · nofun
    · exact text first

/-! ### The frame of a payload -/

/-- A structure that the buffer takes makes a frame. -/
theorem exists_ofWriter (op : Operation) {w : Writer} (room : w.extent ≤ payloadCapacity) :
    ∃ f, Frame.ofWriter op w = .ok f ∧ f.bodySize = w.extent := by
  have size : (UInt32.ofNat w.extent).toNat = w.extent :=
    UInt32.toNat_ofNat_of_lt' (Nat.lt_of_le_of_lt room (by decide))
  have both : (UInt32.ofNat w.extent).toNat ≤ payloadCapacity ∧ w.extent ≤ payloadCapacity :=
    ⟨size.symm ▸ room, room⟩
  exact ⟨_, dif_pos both, size⟩

/-- The frame of a payload is refused only for the values. -/
theorem encode_eq_error_iff (op : Operation) (v : l.Value) (regular : l.Regular) :
    (l.write op v >>= Frame.ofWriter op) = .error e ↔ l.Refused v e := by
  rw [bind_eq_error_iff, write_eq_error_iff regular]
  -- What was written ends within the buffer, so its frame can always be made.
  refine or_iff_left ?_
  rintro ⟨w, written, failed⟩
  obtain ⟨f, built, -⟩ := exists_ofWriter op
    (extent_of_write regular written ▸ regular.room)
  cases built.symm.trans failed

/-- The frame of a payload is made exactly if there are not too many entries and all texts fit. -/
theorem exists_encode_iff (op : Operation) (v : l.Value) (regular : l.Regular) :
    (∃ f, (l.write op v >>= Frame.ofWriter op) = .ok f) ↔
      l.listed v ≤ listingCapacity ∧ ∀ t ∈ l.texts v, t.Fits := by
  cases encoded : l.write op v >>= Frame.ofWriter op with
  | error e =>
    have unfit := exists_refused_iff.1 ⟨e, (encode_eq_error_iff op v regular).1 encoded⟩
    refine ⟨?_, fun fit => absurd fit unfit⟩
    rintro ⟨f, ⟨⟩⟩
  | ok f =>
    refine ⟨fun _ => Classical.not_not.1 fun unfit => ?_, fun _ => ⟨f, rfl⟩⟩
    obtain ⟨e, refused⟩ := exists_refused_iff.2 unfit
    cases encoded.symm.trans ((encode_eq_error_iff op v regular).2 refused)

/-- The size of the frame is that of the structure, whatever it holds. -/
theorem bodySize_of_encode {f : Frame} (regular : l.Regular)
    (encoded : (l.write op v >>= Frame.ofWriter op) = .ok f) :
    f.bodySize = Field.extent l.fields := by
  obtain ⟨w, written, built⟩ := bind_eq_ok_iff.1 encoded
  have extent := extent_of_write regular written
  obtain ⟨f', built', size⟩ := exists_ofWriter op (extent ▸ regular.room)
  cases built.symm.trans built'
  rw [size, extent]

end Layout

end Supervisor.Wire

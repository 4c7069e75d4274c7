import Mathlib.Order.Bounds.Defs
import Supervisor.Proofs.Wire.Layout

/-!
# How much room a structure takes

A compiler puts every member of a structure at the first multiple of the member's alignment behind
the member before it, and it pads the whole up to a multiple of the widest alignment. Where the
fields of a list stand and where the structure ends is therefore known before anything is written or
read, and so is whether the payload buffer is large enough. If it is, neither the writer nor the
reader can run past it.

## Main definitions

* `Field.Placed`, `Field.IsStructSize` - the rules by which a compiler lays a structure out
* `Layout.Regular` - the payload buffer takes the structure, whatever it holds

## Main results

* `Field.isStructSize_extent` - the computed size follows these rules
* `Writer.grown_of_putAll` - where the writer stands after the fields of a list
* `Reader.takeAll_of_room` - a structure within the buffer is read to its end
-/

namespace Supervisor.Wire

namespace Field

/-- Where a compiler puts the fields of a list from `start` on, and where the last one ends: each
stands at the first multiple of its alignment that is left. -/
inductive Placed : (start : Nat) → List Field → (offsets : List Nat) → (stop : Nat) → Prop where
  | nil {start : Nat} : Placed start [] [] start
  | cons {start offset stop : Nat} {f : Field} {fs : List Field} {offsets : List Nat}
      (first : IsLeast {k | start ≤ k ∧ f.alignment ∣ k} offset)
      (others : Placed (offset + f.size) fs offsets stop) :
      Placed start (f :: fs) (offset :: offsets) stop

/-- The size that a compiler gives to a structure: the first multiple of its widest alignment that
is not below the end of its last field. -/
def IsStructSize (fs : List Field) (size : Nat) : Prop :=
  ∃ offsets stop, Placed 0 fs offsets stop ∧ IsLeast {k | stop ≤ k ∧ widest fs ∣ k} size

/-- Rounding up gives the first multiple that is not below a number. -/
theorem isLeast_roundUp (n : Nat) {a : Nat} (pos : 0 < a) :
    IsLeast {k | n ≤ k ∧ a ∣ k} (roundUp n a) := by
  refine ⟨⟨le_roundUp n pos, Nat.dvd_mul_left _ _⟩, ?_⟩
  rintro k ⟨le, m, rfl⟩
  have quotient : (n + (a - 1)) / a ≤ m := by
    rw [Nat.div_le_iff_le_mul_add_pred pos]
    exact Nat.add_le_add_right le _
  calc (n + (a - 1)) / a * a
      ≤ m * a := Nat.mul_le_mul_right a quotient
    _ = a * m := Nat.mul_comm m a

/-- A multiple stays where it is. -/
theorem roundUp_of_dvd {n a : Nat} (pos : 0 < a) (dvd : a ∣ n) : roundUp n a = n :=
  Nat.le_antisymm ((isLeast_roundUp n pos).2 ⟨Nat.le_refl n, dvd⟩) (le_roundUp n pos)

theorem alignment_dvd_size (f : Field) : f.alignment ∣ f.size := by
  cases f with
  | int32 | word32 | word64 => exact Nat.dvd_refl _
  | uuid | text | gap => exact Nat.one_dvd _

@[simp] theorem size_gap (n : Nat) : (gap n).size = n := rfl

theorem widest_pos (fs : List Field) : 0 < widest fs := by
  induction fs with
  | nil => exact Nat.one_pos
  | cons f fs ih => exact Nat.lt_of_lt_of_le ih (Nat.le_max_right _ _)

/-! ### Where fields stand -/

theorem placed_offsets (start : Nat) (fs : List Field) :
    Placed start fs (offsets start fs) (finish start fs) := by
  induction fs generalizing start with
  | nil => exact .nil
  | cons f fs ih => exact .cons (isLeast_roundUp start f.alignment_pos) (ih _)

/-- The computed size is the one that a compiler gives to the structure. -/
theorem isStructSize_extent (fs : List Field) : IsStructSize fs (extent fs) :=
  ⟨_, _, placed_offsets 0 fs, isLeast_roundUp _ (widest_pos fs)⟩

/-- Fields only move on. -/
theorem le_finish (start : Nat) (fs : List Field) : start ≤ finish start fs := by
  induction fs generalizing start with
  | nil => exact Nat.le_refl start
  | cons f fs ih =>
    calc start
        ≤ roundUp start f.alignment := le_roundUp start f.alignment_pos
      _ ≤ roundUp start f.alignment + f.size := Nat.le_add_right _ _
      _ ≤ finish start (f :: fs) := ih _

theorem finish_append (start : Nat) (fs gs : List Field) :
    finish start (fs ++ gs) = finish (finish start fs) gs := by
  induction fs generalizing start with
  | nil => rfl
  | cons f fs ih => exact ih _

/-- Fields of one kind stand without a gap from a place where the first of them may start. -/
theorem finish_replicate {f : Field} {start : Nat} (aligned : f.alignment ∣ start) (count : Nat) :
    finish start (List.replicate count f) = start + count * f.size := by
  induction count generalizing start with
  | zero => simp [finish]
  | succ count ih =>
    -- A size is a multiple of the alignment, so the next field may start where this one ends.
    have next : f.alignment ∣ start + f.size := Nat.dvd_add aligned f.alignment_dvd_size
    rw [List.replicate_succ, finish, roundUp_of_dvd f.alignment_pos aligned, ih next, Nat.succ_mul]
    omega

/-- Entries stand without a gap behind their count if their alignment is no wider. -/
theorem finish_listing {entry : Field} (dvd : entry.alignment ∣ int32.size) (count : Nat) :
    finish 0 (.int32 :: List.replicate count entry) = int32.size + count * entry.size :=
  finish_replicate dvd count

theorem widest_append (fs gs : List Field) :
    widest (fs ++ gs) = max (widest fs) (widest gs) := by
  induction fs with
  | nil => exact (Nat.max_eq_right (widest_pos gs)).symm
  | cons f fs ih => rw [List.cons_append, widest, ih, widest, Nat.max_assoc]

theorem widest_replicate_le (f : Field) (count : Nat) :
    widest (List.replicate count f) ≤ f.alignment := by
  induction count with
  | zero => exact f.alignment_pos
  | succ count ih => exact Nat.max_le.2 ⟨Nat.le_refl _, ih⟩

end Field

/-! ### The writer -/

namespace Writer

variable {op : Operation} {w w₁ w' : Writer} {f : Field} {fs gs : List Field}

/-- The writer stands where the fields of a list end that are appended to a structure, and it knows
the widest alignment. -/
structure Grown (w : Writer) (fs : List Field) (w' : Writer) : Prop where
  length : w'.bytes.length = Field.finish w.bytes.length fs
  alignment : w'.alignment = max w.alignment (Field.widest fs)

theorem Grown.nil (sound : w.Sound) : Grown w [] w :=
  ⟨rfl, (Nat.max_eq_left sound.aligned).symm⟩

theorem Grown.cons {v : f.Value} (first : w.put op f v = .ok w₁) (others : Grown w₁ fs w') :
    Grown w (f :: fs) w' := by
  obtain ⟨length, alignment⟩ := others
  have ends := length_of_put first
  obtain ⟨-, -, rfl⟩ := put_eq_ok_iff.1 first
  refine ⟨?_, ?_⟩
  · rw [length, ends, Field.finish]
  · rw [alignment, Field.widest, Nat.max_assoc]

theorem Grown.trans (first : Grown w fs w₁) (others : Grown w₁ gs w') : Grown w (fs ++ gs) w' := by
  refine ⟨?_, ?_⟩
  · rw [others.length, first.length, Field.finish_append]
  · rw [others.alignment, first.alignment, Nat.max_assoc, Field.widest_append]

/-- The fields of a list make a structure of the computed size. -/
theorem Grown.extent (grown : Grown empty fs w) : w.extent = Field.extent fs := by
  have alignment : w.alignment = Field.widest fs :=
    grown.alignment.trans (Nat.max_eq_right (Field.widest_pos fs))
  rw [Writer.extent, grown.length, alignment]
  rfl

theorem grown_of_putAll {vs : Record fs} (sound : w.Sound)
    (put : w.putAll op fs vs = .ok w') : Grown w fs w' := by
  induction fs generalizing w with
  | nil =>
    cases put
    exact .nil sound
  | cons f fs ih =>
    obtain ⟨w₁, first, others⟩ := putAll_cons_eq_ok_iff.1 put
    exact .cons first (ih ((extends_of_put first).sound sound) others)

theorem grown_of_putEach {vs : List f.Value} (sound : w.Sound)
    (put : w.putEach op f vs = .ok w') : Grown w (List.replicate vs.length f) w' := by
  induction vs generalizing w with
  | nil =>
    cases put
    exact .nil sound
  | cons v vs ih =>
    obtain ⟨w₁, first, others⟩ := putEach_cons_eq_ok_iff.1 put
    exact .cons first (ih ((extends_of_put first).sound sound) others)

theorem grown_of_putGaps {size count : Nat} (sound : w.Sound)
    (put : w.putGaps op size count = .ok w') :
    Grown w (List.replicate count (.gap size)) w' := by
  induction count generalizing w with
  | zero =>
    cases put
    exact .nil sound
  | succ count ih =>
    obtain ⟨w₁, first, others⟩ := putGaps_succ_eq_ok_iff.1 put
    exact .cons first (ih ((extends_of_put first).sound sound) others)

end Writer

/-! ### Whole payloads -/

namespace Layout

/-- The payload buffer takes the structure whatever it holds, and the entries of a listing follow
its count without a gap. -/
structure Regular (l : Layout) : Prop where
  room : Field.extent l.fields ≤ payloadCapacity
  entries : ∀ label entry, l = .listing label entry → entry.alignment ∣ Field.int32.size

theorem Regular.finish_le {l : Layout} (regular : l.Regular) :
    Field.finish 0 l.fields ≤ payloadCapacity :=
  Nat.le_trans (Field.le_roundUp _ (Field.widest_pos _)) regular.room

/-- The buffer takes as many entries as a listing can have. -/
theorem Regular.entries_le {label : String} {entry : Field} (regular : (listing label entry).Regular)
    {count : Nat} (few : count ≤ listingCapacity) :
    Field.int32.size + count * entry.size ≤ payloadCapacity := by
  have whole := regular.finish_le
  rw [fields, Field.finish_listing (regular.entries label entry rfl)] at whole
  have used : count * entry.size ≤ listingCapacity * entry.size := Nat.mul_le_mul_right _ few
  omega

/-- A listing takes as much room whether its entries are in use or not. -/
theorem extent_listing {entry : Field} (dvd : entry.alignment ∣ Field.int32.size)
    {used unused : Nat} :
    Field.extent (.int32 :: List.replicate used entry ++
        List.replicate unused (.gap entry.size)) =
      Field.extent (.int32 :: List.replicate (used + unused) entry) := by
  have narrow : entry.alignment ≤ 4 := Nat.le_of_dvd (by decide) dvd
  -- The entries in use end where a gap may start.
  have stop : Field.finish 0 (.int32 :: List.replicate used entry ++
      List.replicate unused (.gap entry.size)) = Field.int32.size + (used + unused) * entry.size := by
    rw [Field.finish_append, Field.finish_listing dvd, Field.finish_replicate (Nat.one_dvd _),
      Field.size_gap, Nat.add_mul, Nat.add_assoc]
  have widest : ∀ fs : List Field, Field.widest fs ≤ 4 → Field.widest (.int32 :: fs) = 4 :=
    fun fs le => Nat.max_eq_left le
  have entries : ∀ count, Field.widest (List.replicate count entry) ≤ 4 := fun count =>
    Nat.le_trans (Field.widest_replicate_le entry count) narrow
  have gaps : Field.widest (List.replicate unused (.gap entry.size)) ≤ 4 :=
    Nat.le_trans (Field.widest_replicate_le _ unused) (by simp [Field.alignment])
  have both : Field.widest (List.replicate used entry ++
      List.replicate unused (.gap entry.size)) ≤ 4 := by
    rw [Field.widest_append]
    exact Nat.max_le.2 ⟨entries used, gaps⟩
  rw [Field.extent, Field.extent, stop, Field.finish_listing dvd, List.cons_append,
    widest _ both, widest _ (entries _)]

/-- What was written has the size of the structure, whatever it holds. -/
theorem extent_of_write {op : Operation} {l : Layout} {v : l.Value} {w : Writer}
    (regular : l.Regular) (written : l.write op v = .ok w) :
    w.extent = Field.extent l.fields := by
  cases l with
  | record fs => exact (Writer.grown_of_putAll Writer.sound_empty written).extent
  | listing label entry =>
    -- The writer went over the count, the entries in use and one gap for each of the others.
    obtain ⟨few, w₁, first, w₂, entries, gaps⟩ := write_listing_eq_ok_iff.1 written
    have counted := (Writer.extends_of_put first).sound Writer.sound_empty
    have listed := (Writer.extends_of_putEach entries).sound counted
    have used := Writer.Grown.cons first (Writer.grown_of_putEach counted entries)
    have grown := used.trans (Writer.grown_of_putGaps listed gaps)
    rw [grown.extent, extent_listing (regular.entries label entry rfl), fields,
      Nat.add_sub_cancel' few]

end Layout

/-! ### The reader -/

namespace Reader

variable (op : Operation) {f : Field} {fs : List Field} {r : Reader}

theorem take_of_room (inside : Field.roundUp r.position f.alignment + f.size ≤ r.bytes.length) :
    r.take op f = .ok (f.decode ((r.bytes.drop (Field.roundUp r.position f.alignment)).take f.size),
      ⟨r.bytes, Field.roundUp r.position f.alignment + f.size⟩) :=
  if_pos inside

/-- A structure that ends within the buffer is read to its end. -/
theorem takeAll_of_room (room : Field.finish r.position fs ≤ r.bytes.length) :
    ∃ vs, r.takeAll op fs = .ok (vs, ⟨r.bytes, Field.finish r.position fs⟩) := by
  induction fs generalizing r with
  | nil => exact ⟨(), rfl⟩
  | cons f fs ih =>
    have inside : Field.roundUp r.position f.alignment + f.size ≤ r.bytes.length :=
      Nat.le_trans (Field.le_finish _ fs) room
    obtain ⟨vs, others⟩ := ih (r := ⟨r.bytes, _⟩) room
    exact ⟨(_, vs), bind_eq_ok_iff.2 ⟨_, take_of_room op inside,
      bind_eq_ok_iff.2 ⟨_, others, rfl⟩⟩⟩

/-- So are several fields of one kind. -/
theorem takeEach_of_room {count : Nat}
    (room : Field.finish r.position (List.replicate count f) ≤ r.bytes.length) :
    ∃ vs : List f.Value, vs.length = count ∧ r.takeEach op f count =
      .ok (vs, ⟨r.bytes, Field.finish r.position (List.replicate count f)⟩) := by
  induction count generalizing r with
  | zero => exact ⟨[], rfl, rfl⟩
  | succ count ih =>
    have inside : Field.roundUp r.position f.alignment + f.size ≤ r.bytes.length :=
      Nat.le_trans (Field.le_finish _ (List.replicate count f)) room
    obtain ⟨vs, length, others⟩ := ih (r := ⟨r.bytes, _⟩) room
    exact ⟨_ :: vs, congrArg (· + 1) length, bind_eq_ok_iff.2 ⟨_, take_of_room op inside,
      bind_eq_ok_iff.2 ⟨_, others, rfl⟩⟩⟩

end Reader

end Supervisor.Wire

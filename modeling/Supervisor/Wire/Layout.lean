import Supervisor.Bytes.LittleEndian
import Supervisor.Text.Utf8
import Supervisor.Uuid
import Supervisor.Wire.Error

/-!
# Structures with natural alignment

A payload is a structure as a compiler lays it out in memory: every number starts at a multiple of
its own size, byte fields follow without a gap, and the whole is padded to a multiple of its widest
number. A layout is the list of the structure's fields; one writer and one reader serve them all.

## Main definitions

* `Field`, `Field.Value` - the kinds of fields and what they hold
* `Record` - a value for every field of a list
* `Field.offsets`, `Field.extent` - where a structure's fields lie and how many bytes it takes
* `Writer.put`, `Writer.putAll` - append fields to a structure
* `Reader.take`, `Reader.takeAll` - read fields from a payload
-/

namespace Supervisor.Wire

/-- The kinds of fields a structure is made of. -/
inductive Field where
  /-- A signed number of four bytes. -/
  | int32
  /-- An unsigned number of four bytes. -/
  | word32
  /-- An unsigned number of eight bytes. -/
  | word64
  /-- Sixteen bytes that identify an object. -/
  | uuid
  /-- A byte buffer of fixed capacity that holds a text and its terminator. -/
  | text (label : String) (capacity : Nat)
  /-- Bytes that hold nothing. -/
  | gap (size : Nat)
  deriving DecidableEq, Repr

namespace Field

/-- What a field holds. -/
abbrev Value : Field → Type
  | int32 => Int32
  | word32 => UInt32
  | word64 => UInt64
  | uuid => Uuid
  | text _ _ => String
  | gap _ => Unit

/-- How many bytes a field takes. -/
def size : Field → Nat
  | int32 => 4
  | word32 => 4
  | word64 => 8
  | uuid => uuidSize
  | text _ capacity => capacity
  | gap n => n

/-- A field starts at a multiple of this. -/
def alignment : Field → Nat
  | int32 => 4
  | word32 => 4
  | word64 => 8
  | _ => 1

/-- The least multiple of `a` that is not below `n`. -/
def roundUp (n a : Nat) : Nat := (n + (a - 1)) / a * a

/-- The widest alignment among the fields, at least 1. -/
def widest : List Field → Nat
  | [] => 1
  | f :: fs => max f.alignment (widest fs)

/-- Where each field starts if the first one may start at `start`. -/
def offsets (start : Nat) : List Field → List Nat
  | [] => []
  | f :: fs => roundUp start f.alignment :: offsets (roundUp start f.alignment + f.size) fs

/-- Where the last field ends if the first one may start at `start`. -/
def finish (start : Nat) : List Field → Nat
  | [] => start
  | f :: fs => finish (roundUp start f.alignment + f.size) fs

/-- How many bytes the structure of the fields takes, padding at its end included. -/
def extent (fs : List Field) : Nat := roundUp (finish 0 fs) (widest fs)

end Field

/-- Refuses a text that does not fit a field: first for its length, then for a NUL. -/
def checkText (label value : String) (capacity : Nat) : Except Error Unit :=
  if longestText capacity < Text.size value then
    .error (.textTooLong label (Text.size value) (longestText capacity))
  else if 0 ∈ Text.utf8 value then .error (.embeddedNul label)
  else .ok ()

namespace Field

/-- Refuses a value that the field cannot hold. Only texts can be refused. -/
def check : (f : Field) → f.Value → Except Error Unit
  | text label capacity, value => checkText label value capacity
  | _, _ => .ok ()

/-- A byte sequence filled up with zeros to `n` bytes. -/
def padded (bs : List UInt8) (n : Nat) : List UInt8 := bs ++ List.replicate (n - bs.length) 0

/-- The bytes of a field. -/
def encode : (f : Field) → f.Value → List UInt8
  | int32, v => Bytes.ofNat 4 v.toUInt32.toNat
  | word32, v => Bytes.ofNat 4 v.toNat
  | word64, v => Bytes.ofNat 8 v.toNat
  | uuid, v => v.bytes
  | text _ capacity, v => padded (Text.utf8 v) capacity
  | gap n, _ => List.replicate n 0

/-- What the bytes of a field hold. -/
def decode : (f : Field) → List UInt8 → f.Value
  | int32, bs => (UInt32.ofNat (Bytes.toNat bs)).toInt32
  | word32, bs => UInt32.ofNat (Bytes.toNat bs)
  | word64, bs => UInt64.ofNat (Bytes.toNat bs)
  | uuid, bs => if h : bs.length = 16 then ⟨bs, h⟩ else Uuid.nil
  | text _ _, bs => Text.terminated bs
  | gap _, _ => ()

end Field

/-- A value for every field of a list. -/
@[reducible] def Record : List Field → Type
  | [] => Unit
  | f :: fs => f.Value × Record fs

/-- A structure under construction: the bytes so far and the widest alignment among its fields. -/
structure Writer where
  bytes : List UInt8
  alignment : Nat
  deriving DecidableEq, Repr

namespace Writer

/-- A structure without fields. -/
def empty : Writer := ⟨[], 1⟩

/-- Appends a field at the next place where it may start. A text that does not fit its field and a
field that would run past the payload buffer are refused; `op` is named in the message. -/
def put (op : Operation) (w : Writer) (f : Field) (v : f.Value) : Except Error Writer := do
  f.check v
  let start := Field.roundUp w.bytes.length f.alignment
  if start + f.size ≤ payloadCapacity then
    return ⟨Field.padded w.bytes start ++ f.encode v, max w.alignment f.alignment⟩
  else
    throw (.layoutOverflow op)

/-- Appends several fields in order. -/
def putAll (op : Operation) (w : Writer) : (fs : List Field) → Record fs → Except Error Writer
  | [], _ => .ok w
  | f :: fs, (v, vs) => do putAll op (← w.put op f v) fs vs

/-- Appends the same kind of field for every value. -/
def putEach (op : Operation) (w : Writer) (f : Field) : List f.Value → Except Error Writer
  | [] => .ok w
  | v :: vs => do putEach op (← w.put op f v) f vs

/-- Appends bytes that hold nothing, `count` times. -/
def putGaps (op : Operation) (w : Writer) (size : Nat) : (count : Nat) → Except Error Writer
  | 0 => .ok w
  | count + 1 => do putGaps op (← w.put op (.gap size) ()) size count

/-- The size of the finished structure. -/
def extent (w : Writer) : Nat := Field.roundUp w.bytes.length w.alignment

end Writer

/-- A payload that is being read, and how far. -/
structure Reader where
  bytes : List UInt8
  position : Nat
  deriving DecidableEq, Repr

namespace Reader

/-- A payload of which nothing was read. -/
def start (bytes : List UInt8) : Reader := ⟨bytes, 0⟩

/-- Reads a field from the next place where it may start. A field that would run past the payload
is refused; `op` is named in the message. -/
def take (op : Operation) (r : Reader) (f : Field) : Except Error (f.Value × Reader) :=
  let from' := Field.roundUp r.position f.alignment
  if from' + f.size ≤ r.bytes.length then
    .ok (f.decode ((r.bytes.drop from').take f.size), ⟨r.bytes, from' + f.size⟩)
  else
    .error (.layoutOverflow op)

/-- Reads several fields in order. -/
def takeAll (op : Operation) (r : Reader) : (fs : List Field) → Except Error (Record fs × Reader)
  | [] => .ok ((), r)
  | f :: fs => do
    let (v, r) ← r.take op f
    let (vs, r) ← takeAll op r fs
    return ((v, vs), r)

/-- Reads `count` fields of the same kind. -/
def takeEach (op : Operation) (r : Reader) (f : Field) :
    (count : Nat) → Except Error (List f.Value × Reader)
  | 0 => .ok ([], r)
  | count + 1 => do
    let (v, r) ← r.take op f
    let (vs, r) ← takeEach op r f count
    return (v :: vs, r)

end Reader

/-- The two forms of a payload. -/
inductive Layout where
  /-- A structure of fields. -/
  | record (fields : List Field)
  /-- A count and a fixed number of entries, of which only the first ones are in use. -/
  | listing (label : String) (entry : Field)
  deriving DecidableEq, Repr

namespace Layout

/-- What a payload holds. -/
@[reducible] def Value : Layout → Type
  | record fs => Record fs
  | listing _ entry => List entry.Value

/-- All fields of the payload's structure, entries that are not in use included. -/
def fields : Layout → List Field
  | record fs => fs
  | listing _ entry => .int32 :: List.replicate listingCapacity entry

/-- Writes a payload. A listing with too many entries is refused before anything is written. -/
def write (op : Operation) : (l : Layout) → l.Value → Except Error Writer
  | record fs, vs => Writer.empty.putAll op fs vs
  | listing label entry, vs =>
    if vs.length ≤ listingCapacity then do
      let w ← Writer.empty.put op .int32 (Int32.ofNat vs.length)
      let w ← w.putEach op entry vs
      w.putGaps op entry.size (listingCapacity - vs.length)
    else
      .error (.countOutOfRange label (Int32.ofNat (min vs.length 2147483647)) listingCapacity)

/-- Reads a payload. A count that a listing cannot have is refused, and entries past it are not
looked at. -/
def read (op : Operation) (bytes : List UInt8) : (l : Layout) → Except Error l.Value
  | record fs => do
    let (vs, _) ← (Reader.start bytes).takeAll op fs
    return vs
  | listing label entry => do
    let (count, r) ← (Reader.start bytes).take op .int32
    if 0 ≤ count.toInt ∧ count.toInt ≤ listingCapacity then
      let (vs, _) ← r.takeEach op entry count.toInt.toNat
      return vs
    else
      throw (.countOutOfRange label count listingCapacity)

end Layout

end Supervisor.Wire

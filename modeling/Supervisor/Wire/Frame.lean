import Supervisor.Wire.Layout

/-!
# Frames

A frame is a header and a payload. The header gives the tag and how many payload bytes travel; the
payload buffer always has its full size, with zeros behind the bytes that travel, so that every
structure can be read from it.

## Main definitions

* `Header`, `Header.encode`, `Header.decode` - eight bytes that precede a payload
* `Frame` - a header with a payload buffer that is long enough for it
* `Frame.forHeader` - the empty frame for a received header, or a refusal
* `Frame.ofWriter` - the frame of a finished structure
* `Frame.toBytes` - what travels
-/

namespace Supervisor.Wire

/-- What precedes every payload: the tag and the number of payload bytes that follow. -/
structure Header where
  tag : UInt32
  payloadSize : UInt32
  deriving DecidableEq, Repr

namespace Header

/-- The operation the tag stands for. -/
def operation? (h : Header) : Option Operation := Operation.ofTag? h.tag

/-- The declared payload size, refused if no structure is that large. -/
def checkedSize (h : Header) : Except Error Nat :=
  if h.payloadSize.toNat ≤ payloadCapacity then .ok h.payloadSize.toNat
  else .error (.oversized h.payloadSize)

/-- The eight bytes of a header. -/
def encode (h : Header) : List UInt8 :=
  Bytes.ofNat 4 h.tag.toNat ++ Bytes.ofNat 4 h.payloadSize.toNat

/-- The header in the first eight bytes. -/
def decode (bytes : List UInt8) : Header :=
  ⟨UInt32.ofNat (Bytes.toNat (bytes.take 4)),
   UInt32.ofNat (Bytes.toNat ((bytes.drop 4).take 4))⟩

@[simp] theorem length_encode (h : Header) : h.encode.length = headerSize := by
  simp [encode, headerSize]

/-- Reading a header gives back what was written, whatever follows it. -/
@[simp] theorem decode_encode (h : Header) (rest : List UInt8) :
    decode (h.encode ++ rest) = h := by
  have tag := h.tag.toNat_lt
  have payloadSize := h.payloadSize.toNat_lt
  have cut : ∀ xs ys zs : List UInt8, xs.length = 4 → ys.length = 4 →
      (xs ++ ys ++ zs).take 4 = xs ∧ ((xs ++ ys ++ zs).drop 4).take 4 = ys := by
    intro xs ys zs hx hy
    constructor
    · rw [List.append_assoc, ← hx, List.take_left']
      rfl
    · rw [List.append_assoc, ← hx, List.drop_left', hx, ← hy, List.take_left']
      · rfl
      · rfl
  obtain ⟨first, second⟩ := cut (Bytes.ofNat 4 h.tag.toNat) (Bytes.ofNat 4 h.payloadSize.toNat)
    rest (by simp) (by simp)
  unfold decode encode
  rw [first, second, Bytes.toNat_ofNat, Bytes.toNat_ofNat]
  congr
  · rw [Nat.mod_eq_of_lt (by simpa [Bytes.limit] using tag)]
    exact UInt32.ofNat_toNat
  · rw [Nat.mod_eq_of_lt (by simpa [Bytes.limit] using payloadSize)]
    exact UInt32.ofNat_toNat

end Header

/-- A header with a payload buffer of full size, of which the header declares a part. -/
structure Frame where
  header : Header
  payload : List UInt8
  payload_length : payload.length = payloadCapacity
  size_le : header.payloadSize.toNat ≤ payloadCapacity
  deriving DecidableEq

namespace Frame

/-- The operation the tag stands for. -/
def operation? (f : Frame) : Option Operation := f.header.operation?

/-- How many payload bytes travel. -/
def bodySize (f : Frame) : Nat := f.header.payloadSize.toNat

/-- The payload bytes that travel. -/
def body (f : Frame) : List UInt8 := f.payload.take f.bodySize

/-- The bytes that travel: the header and the body. -/
def toBytes (f : Frame) : List UInt8 := f.header.encode ++ f.body

/-- The first `n` bytes of a sequence, filled up with zeros if it is shorter. -/
def fitted (bytes : List UInt8) (n : Nat) : List UInt8 := Field.padded (bytes.take n) n

theorem length_fitted (bytes : List UInt8) (n : Nat) : (fitted bytes n).length = n := by
  simp only [fitted, Field.padded, List.length_append, List.length_take, List.length_replicate]
  omega

/-- The frame for a header read from a peer, with the body that followed it. A header that declares
more than any structure has is refused; a body that is too long is cut. -/
def forHeader (header : Header) (body : List UInt8) : Except Error Frame :=
  if h : header.payloadSize.toNat ≤ payloadCapacity then
    .ok ⟨header, fitted (body.take header.payloadSize.toNat) payloadCapacity,
      length_fitted _ _, h⟩
  else .error (.oversized header.payloadSize)

/-- The frame of a finished structure. -/
def ofWriter (op : Operation) (w : Writer) : Except Error Frame :=
  let header : Header := ⟨op.tag, UInt32.ofNat w.extent⟩
  if h : header.payloadSize.toNat ≤ payloadCapacity ∧ w.extent ≤ payloadCapacity then
    .ok ⟨header, fitted w.bytes payloadCapacity, length_fitted _ _, h.1⟩
  else .error (.layoutOverflow op)

/-- How a frame appears in the log: its header and how many payload bytes travel. -/
def describe (f : Frame) : String :=
  "Frame \x7b header: Header \x7b tag: " ++ toString f.header.tag ++ ", payload_size: " ++
    toString f.header.payloadSize ++ " \x7d, payload_len: " ++ toString f.bodySize ++ ", .. \x7d"

end Frame

end Supervisor.Wire

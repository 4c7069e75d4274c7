import Supervisor.Proofs.Wire.Layout
import Supervisor.Wire.Frame

/-!
# Frames across the wire

Only the declared part of a payload travels. Whoever receives it fills the buffer up with zeros, so
a frame arrives unchanged if its buffer held zeros behind the declared part in the first place.
Every frame that is built here does.

## Main results

* `Header.encode_decode` - eight bytes are the header that they decode to
* `Frame.IsPadded` - zeros stand behind the bytes that travel
* `Frame.forHeader_body` - such a frame is received as it was sent
-/

namespace Supervisor.Wire

/-- Eight bytes are the header that they decode to. -/
theorem Header.encode_decode {bytes : List UInt8} (size : bytes.length = headerSize) :
    (decode bytes).encode = bytes := by
  have word : ∀ bs : List UInt8, bs.length = 4 →
      Bytes.ofNat 4 (UInt32.ofNat (Bytes.toNat bs)).toNat = bs := by
    intro bs four
    have small : Bytes.toNat bs < 4294967296 := by
      simpa [four, Bytes.limit] using Bytes.toNat_lt bs
    rw [UInt32.toNat_ofNat_of_lt' small, ← four, Bytes.ofNat_toNat]
  unfold headerSize at size
  have tail : (bytes.drop 4).take 4 = bytes.drop 4 := List.take_of_length_le (by simp [size])
  unfold encode decode
  rw [tail, word _ (by simp [size]), word _ (by simp [size]), List.take_append_drop]

/-- The declared size is accepted exactly if the payload buffer can take it. -/
theorem Header.checkedSize_eq_ok_iff {h : Header} {size : Nat} :
    h.checkedSize = .ok size ↔ size = h.payloadSize.toNat ∧ size ≤ payloadCapacity := by
  unfold checkedSize
  split
  · next small => exact ⟨by rintro ⟨⟩; exact ⟨rfl, small⟩, by rintro ⟨rfl, -⟩; rfl⟩
  · next large => exact ⟨by rintro ⟨⟩, by rintro ⟨rfl, small⟩; exact absurd small large⟩

namespace Frame

theorem fitted_eq_append {bytes : List UInt8} {n : Nat} (le : bytes.length ≤ n) :
    fitted bytes n = bytes ++ List.replicate (n - bytes.length) 0 := by
  rw [fitted, List.take_of_length_le le, Field.padded]

/-- Cutting the zeros off and filling up again changes nothing. -/
theorem fitted_take_fitted {bytes : List UInt8} {k n : Nat} (le : bytes.length ≤ n)
    (kept : bytes.length ≤ k) : fitted ((fitted bytes n).take k) n = fitted bytes n := by
  -- No more than zeros are cut off, and they come back.
  have cut : (fitted bytes n).take k =
      bytes ++ List.replicate (min (k - bytes.length) (n - bytes.length)) 0 := by
    rw [fitted_eq_append le, List.take_append, List.take_of_length_le kept, List.take_replicate]
  have short : (bytes ++ List.replicate (min (k - bytes.length) (n - bytes.length))
      (0 : UInt8)).length ≤ n := by
    simp only [List.length_append, List.length_replicate]
    omega
  rw [cut, fitted_eq_append short, fitted_eq_append le, List.append_assoc,
    List.replicate_append_replicate]
  simp only [List.length_append, List.length_replicate]
  congr 2
  omega

/-- Zeros stand behind the bytes that travel. -/
def IsPadded (f : Frame) : Prop := f.payload = fitted f.body payloadCapacity

@[simp] theorem length_body (f : Frame) : f.body.length = f.bodySize := by
  rw [body, List.length_take, f.payload_length]
  exact Nat.min_eq_left f.size_le

@[simp] theorem length_toBytes (f : Frame) : f.toBytes.length = headerSize + f.bodySize := by
  simp [toBytes]

/-- Frames are told apart by their header and their buffer. -/
theorem eq_of {f g : Frame} (header : f.header = g.header) (payload : f.payload = g.payload) :
    f = g := by
  cases f
  cases g
  cases header
  cases payload
  rfl

/-- A padded frame is received as it was sent. -/
theorem forHeader_body {f : Frame} (padded : f.IsPadded) :
    forHeader f.header f.body = .ok f := by
  have whole : f.body.take f.header.payloadSize.toNat = f.body :=
    List.take_of_length_le (Nat.le_of_eq f.length_body)
  simp only [forHeader, f.size_le, dite_true]
  refine congrArg Except.ok (eq_of rfl ?_)
  simp only [whole]
  exact padded.symm

/-- What is received under a header is a padded frame with that header and, if the body was
complete, with that body. -/
theorem of_forHeader {header : Header} {bytes : List UInt8} {f : Frame}
    (received : forHeader header bytes = .ok f) :
    f.header = header ∧ f.IsPadded ∧
      (bytes.length = header.payloadSize.toNat → f.body = bytes) := by
  unfold forHeader at received
  split at received
  · next small =>
    cases received
    have short : (bytes.take header.payloadSize.toNat).length ≤ header.payloadSize.toNat :=
      List.length_take_le _ _
    refine ⟨rfl, (fitted_take_fitted (Nat.le_trans short small) short).symm, fun whole => ?_⟩
    have all : bytes.take header.payloadSize.toNat = bytes :=
      List.take_of_length_le (Nat.le_of_eq whole)
    simp only [body, bodySize, all]
    rw [fitted_eq_append (whole ▸ small), List.take_left' whole]
  · cases received

/-- The frame of a sound structure is padded, names its operation and holds the structure. -/
theorem of_ofWriter {op : Operation} {w : Writer} {f : Frame} (sound : w.Sound)
    (built : ofWriter op w = .ok f) :
    f.header.tag = op.tag ∧ f.IsPadded ∧ ∃ rest, f.payload = w.bytes ++ rest := by
  unfold ofWriter at built
  dsimp only at built
  split at built
  · next small =>
    cases built
    have extent : (UInt32.ofNat w.extent).toNat = w.extent :=
      UInt32.toNat_ofNat_of_lt' (Nat.lt_of_le_of_lt small.2 (by decide))
    have kept : w.bytes.length ≤ (UInt32.ofNat w.extent).toNat := by
      rw [extent]
      exact Field.le_roundUp _ sound.aligned
    exact ⟨rfl, (fitted_take_fitted sound.within kept).symm, _, fitted_eq_append sound.within⟩
  · cases built

end Frame

end Supervisor.Wire

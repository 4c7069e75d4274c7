/-!
# Little-endian numbers

A number is stored in a fixed count of bytes, the least significant one first.

## Main definitions

* `Bytes.limit` - how many numbers fit a count of bytes
* `Bytes.ofNat` - the lowest bytes of a number
* `Bytes.toNat` - the number in a byte sequence
-/

namespace Supervisor.Bytes

/-- How many numbers fit `width` bytes. -/
def limit : (width : Nat) → Nat
  | 0 => 1
  | width + 1 => 256 * limit width

/-- The `width` lowest bytes of a number, the lowest first. -/
def ofNat : (width : Nat) → Nat → List UInt8
  | 0, _ => []
  | width + 1, n => UInt8.ofNat n :: ofNat width (n / 256)

/-- The number in a byte sequence whose first byte is the lowest. -/
def toNat : List UInt8 → Nat
  | [] => 0
  | b :: bs => b.toNat + 256 * toNat bs

@[simp] theorem length_ofNat (width n : Nat) : (ofNat width n).length = width := by
  induction width generalizing n with
  | zero => rfl
  | succ width ih => simp [ofNat, ih]

theorem toNat_lt (bs : List UInt8) : toNat bs < limit bs.length := by
  induction bs with
  | nil => simp [toNat, limit]
  | cons b bs ih =>
    have := b.toNat_lt
    simp only [toNat, List.length_cons, limit]
    omega

/-- Reading gives back what was written, up to the bits that were cut off. -/
@[simp] theorem toNat_ofNat (width n : Nat) : toNat (ofNat width n) = n % limit width := by
  induction width generalizing n with
  | zero => simp [ofNat, toNat, limit, Nat.mod_one]
  | succ width ih =>
    have low : (UInt8.ofNat n).toNat = n % 256 := UInt8.toNat_ofNat'
    rw [ofNat, toNat, ih, low, limit, Nat.mod_mul]

/-- Writing gives back the bytes that were read. -/
@[simp] theorem ofNat_toNat (bs : List UInt8) : ofNat bs.length (toNat bs) = bs := by
  induction bs with
  | nil => rfl
  | cons b bs ih =>
    have := b.toNat_lt
    have low : UInt8.ofNat (b.toNat + 256 * toNat bs) = b := by
      apply UInt8.toNat_inj.1
      have : (UInt8.ofNat (b.toNat + 256 * toNat bs)).toNat =
        (b.toNat + 256 * toNat bs) % 256 := UInt8.toNat_ofNat'
      omega
    have high : (b.toNat + 256 * toNat bs) / 256 = toNat bs := by omega
    simp only [List.length_cons, toNat, ofNat, low, high, ih]

end Supervisor.Bytes

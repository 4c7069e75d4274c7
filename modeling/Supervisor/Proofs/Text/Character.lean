import Mathlib.Algebra.Group.Nat.Defs
import Supervisor.Text.Utf8

/-!
# The bytes of a character

A character is written with a first byte, which holds its highest bits and tells how many bytes
follow, and up to three continuation bytes, which hold six bits each. No byte is of both kinds, so a
text can be entered anywhere: a character begins where a byte continues none.

## Main definitions

* `Text.continuations` - the bytes behind the first one
* `Text.Heads` - a first byte, how many bytes follow, and the number of the character

## Main results

* `Text.exists_heads` - how a character is written
* `Text.Heads.unique` - and that there is one way
* `Text.zero_mem_utf8EncodeChar_iff` - only NUL has a zero byte
-/

namespace Supervisor.Text

/-- The number of a character that is made of its number. -/
theorem toNat_ofNat {n : Nat} (isChar : n.isValidChar) : (Char.ofNat n).toNat = n := by
  unfold Char.ofNat
  rw [dif_pos isChar]
  unfold Char.ofNatAux Char.toNat
  simp

/-! ### Continuation bytes -/

/-- A continuation byte: the six lowest bits of `n` under the mark `10`. -/
def continuation (n : Nat) : UInt8 := UInt8.ofNat (n % 64 + 0x80)

/-- The last `k` bytes of the character with the number `n`. -/
def continuations : Nat → Nat → List UInt8
  | 0, _ => []
  | k + 1, n => continuation (n / 64 ^ k) :: continuations k n

variable {b b' : UInt8} {c : Char} {k k' n n' : Nat}

theorem toNat_continuation (n : Nat) : (continuation n).toNat = n % 64 + 0x80 := by
  simp only [continuation, UInt8.toNat_ofNat']
  omega

theorem mem_continuations (member : b ∈ continuations k n) : 0x80 ≤ b.toNat ∧ b.toNat < 0xC0 := by
  induction k with
  | zero => cases member
  | succ k ih =>
    rcases List.mem_cons.1 member with rfl | later
    · rw [toNat_continuation]
      omega
    · exact ih later

theorem prefix_continuations_iff :
    [b] <+: continuations (k + 1) n ↔ b.toNat = n / 64 ^ k % 64 + 0x80 := by
  rw [continuations, List.cons_prefix_cons, ← UInt8.toNat_inj, toNat_continuation]
  exact and_iff_left List.nil_prefix

/-! ### First bytes -/

/-- The byte `b` begins the character with the number `n`, and `k` more bytes follow. -/
def Heads (b : UInt8) : Nat → Nat → Prop
  | 0, n => n < 0x80 ∧ b.toNat = n
  | 1, n => 0x80 ≤ n ∧ n < 0x800 ∧ b.toNat = 0xC0 + n / 64
  | 2, n => 0x800 ≤ n ∧ n < 0x10000 ∧ b.toNat = 0xE0 + n / 4096
  | 3, n => 0x10000 ≤ n ∧ n < 0x110000 ∧ b.toNat = 0xF0 + n / 262144
  | _, _ => False

/-- No character begins with a continuation byte. -/
theorem Heads.not_continuation (heads : Heads b k n) : b.toNat < 0x80 ∨ 0xC0 ≤ b.toNat := by
  obtain _ | _ | _ | _ | k := k <;> simp only [Heads] at heads <;> omega

/-- The number of a character tells its first byte and how many follow. -/
theorem Heads.unique (heads : Heads b k n) (heads' : Heads b' k' n) : b = b' ∧ k = k' := by
  rw [← UInt8.toNat_inj]
  obtain _ | _ | _ | _ | k := k <;> obtain _ | _ | _ | _ | k' := k' <;>
    simp only [Heads] at heads heads' <;> omega

/-- So does the first byte alone tell how many follow. -/
theorem Heads.length_eq (heads : Heads b k n) (heads' : Heads b k' n') : k = k' := by
  obtain _ | _ | _ | _ | k := k <;> obtain _ | _ | _ | _ | k' := k' <;>
    simp only [Heads] at heads heads' <;> omega

/-! ### Characters -/

theorem exists_heads (c : Char) :
    ∃ b k, String.utf8EncodeChar c = b :: continuations k c.toNat ∧ Heads b k c.toNat := by
  have valid : c.toNat < 0xD800 ∨ 0xDFFF < c.toNat ∧ c.toNat < 0x110000 := c.valid
  have same : c.val.toNat = c.toNat := rfl
  fun_cases String.utf8EncodeChar c with
  | case1 v one =>
    refine ⟨UInt8.ofNat v, 0, rfl, ?_⟩
    rw [Heads, UInt8.toNat_ofNat']
    omega
  | case2 v one two =>
    refine ⟨UInt8.ofNat (v / 64 % 0x20 + 0xC0), 1, ?_, ?_⟩
    · simp only [continuations, continuation, Nat.pow_zero, Nat.div_one, v, same]
    · rw [Heads, UInt8.toNat_ofNat']
      omega
  | case3 v one two three =>
    refine ⟨UInt8.ofNat (v / 4096 % 0x10 + 0xE0), 2, ?_, ?_⟩
    · simp only [continuations, continuation, Nat.pow_zero, Nat.div_one, Nat.reducePow, v, same]
    · rw [Heads, UInt8.toNat_ofNat']
      omega
  | case4 v one two three =>
    refine ⟨UInt8.ofNat (v / 262144 % 0x08 + 0xF0), 3, ?_, ?_⟩
    · simp only [continuations, continuation, Nat.pow_zero, Nat.div_one, Nat.reducePow, v, same]
    · rw [Heads, UInt8.toNat_ofNat']
      omega

theorem Heads.utf8EncodeChar_eq (heads : Heads b k c.toNat) :
    String.utf8EncodeChar c = b :: continuations k c.toNat := by
  obtain ⟨b', k', bytes, heads'⟩ := exists_heads c
  obtain ⟨rfl, rfl⟩ := heads.unique heads'
  exact bytes

theorem heads_of_prefix (begins : [b] <+: String.utf8EncodeChar c) :
    ∃ k, String.utf8EncodeChar c = b :: continuations k c.toNat ∧ Heads b k c.toNat := by
  obtain ⟨b', k, bytes, heads⟩ := exists_heads c
  rw [bytes, List.cons_prefix_cons] at begins
  obtain ⟨rfl, -⟩ := begins
  exact ⟨k, bytes, heads⟩

theorem utf8EncodeChar_ne_nil (c : Char) : String.utf8EncodeChar c ≠ [] := by
  obtain ⟨b, k, bytes, -⟩ := exists_heads c
  rw [bytes]
  exact List.cons_ne_nil _ _

/-- A byte of a character is the character itself or has its highest bit set. -/
theorem eq_or_high_of_mem (member : b ∈ String.utf8EncodeChar c) :
    b.toNat = c.toNat ∨ 0x80 ≤ b.toNat := by
  obtain ⟨first, k, bytes, heads⟩ := exists_heads c
  rw [bytes, List.mem_cons] at member
  rcases member with rfl | later
  · obtain _ | _ | _ | _ | k := k <;> simp only [Heads] at heads <;> omega
  · exact .inr (mem_continuations later).1

/-- Only NUL is encoded with a zero byte. -/
theorem zero_mem_utf8EncodeChar_iff : 0 ∈ String.utf8EncodeChar c ↔ c = '\x00' := by
  constructor
  · intro zero
    rcases eq_or_high_of_mem zero with least | high
    · exact Char.ext (UInt32.toNat_inj.1 least.symm)
    · exact absurd high (by decide)
  · intro nul
    rw [nul]
    decide

end Supervisor.Text

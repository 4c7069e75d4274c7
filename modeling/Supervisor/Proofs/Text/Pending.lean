import Supervisor.Proofs.Text.Character

/-!
# What a pending character stands for

What a pending character may still turn out to be is an interval of numbers. Each byte narrows it
down, and at no time does it contain a number that belongs to no character. The characters in the
interval are exactly those whose bytes start with what was read, and what is missing of them are
continuation bytes. So the bytes read so far begin a character as long as one is pending, and a byte
out of range is one with which no such character goes on.

## Main definitions

* `Text.Pending.Admits` - the interval
* `Text.Pending.Sound` - whatever a pending character turns out to be, it is a character
* `Text.Pending.Begun` - the pending character that certain bytes leave

## Main results

* `Text.Pending.begun_of_lead`, `Text.Pending.Begun.next` - bytes that are read one by one
* `Text.Pending.Begun.inside`, `Text.Pending.Begun.utf8EncodeChar_eq` - which byte may come next
-/

namespace Supervisor.Text.Pending

variable {p : Pending} {b : UInt8} {c : Char} {n : Nat} {read : List UInt8}

/-! ### The interval -/

/-- The least number that a pending character may turn out to have. -/
def least (p : Pending) : Nat := (p.value * 64 + (p.low.toNat - 0x80)) * 64 ^ (p.owed - 1)

/-- The least number above all those. -/
def bound (p : Pending) : Nat := (p.value * 64 + (p.high.toNat - 0x80) + 1) * 64 ^ (p.owed - 1)

/-- Whether a pending character may turn out to have this number. -/
def Admits (p : Pending) (n : Nat) : Prop := p.least ≤ n ∧ n < p.bound

/-- Whatever a pending character turns out to be, it is a character. -/
structure Sound (p : Pending) : Prop where
  owed : 0 < p.owed
  mark : 0x80 ≤ p.low.toNat
  range : p.low ≤ p.high ∧ p.high ≤ 0xBF
  valid : p.bound ≤ 0xD800 ∨ 0xE000 ≤ p.least ∧ p.bound ≤ 0x110000

theorem Sound.isValidChar (sound : p.Sound) (admits : p.Admits n) : n.isValidChar := by
  obtain ⟨above, below⟩ := admits
  have valid := sound.valid
  unfold Nat.isValidChar
  omega

/-- The interval is not empty. -/
theorem Sound.admits_least (sound : p.Sound) : p.Admits p.least := by
  refine ⟨Nat.le_refl _, Nat.mul_lt_mul_of_pos_right ?_ (Nat.pow_pos (by decide))⟩
  have range := UInt8.le_iff_toNat_le.1 sound.range.1
  omega

/-- The interval by the bits that the next byte adds. -/
theorem admits_iff : p.Admits n ↔
    p.value * 64 + (p.low.toNat - 0x80) ≤ n / 64 ^ (p.owed - 1) ∧
      n / 64 ^ (p.owed - 1) ≤ p.value * 64 + (p.high.toNat - 0x80) := by
  have unit : 0 < 64 ^ (p.owed - 1) := Nat.pow_pos (by decide)
  rw [Admits, least, bound, Nat.le_div_iff_mul_le unit, ← Nat.div_lt_iff_lt_mul unit,
    Nat.lt_succ_iff]

/-! ### The first byte -/

/-- What is pending after a first byte: the kinds of first bytes, with the range that each sets for
the second one. -/
theorem cases_of_lead {cs : List Char} (first : lead b = (cs, some p)) : cs = [] ∧
    (0xC2 ≤ b.toNat ∧ b.toNat < 0xE0 ∧ p = ⟨1, 0x80, 0xBF, b.toNat - 0xC0⟩ ∨
      b.toNat = 0xE0 ∧ p = ⟨2, 0xA0, 0xBF, 0⟩ ∨
      b.toNat = 0xED ∧ p = ⟨2, 0x80, 0x9F, 0xD⟩ ∨
      0xE0 < b.toNat ∧ b.toNat < 0xF0 ∧ b.toNat ≠ 0xED ∧ p = ⟨2, 0x80, 0xBF, b.toNat - 0xE0⟩ ∨
      b.toNat = 0xF0 ∧ p = ⟨3, 0x90, 0xBF, 0⟩ ∨
      0xF0 < b.toNat ∧ b.toNat < 0xF4 ∧ p = ⟨3, 0x80, 0xBF, b.toNat - 0xF0⟩ ∨
      b.toNat = 0xF4 ∧ p = ⟨3, 0x80, 0x8F, 4⟩) := by
  revert first
  -- The other first bytes leave nothing pending.
  fun_cases lead b <;> intro first <;> cases first
  all_goals
    simp only [UInt8.lt_iff_toNat_lt, ← UInt8.toNat_inj, UInt8.reduceToNat, true_and, and_true] at *
    grind

/-- A byte after which nothing is pending is a character of its own, or no character begins with
it. -/
theorem heads_of_lead {cs : List Char} (first : lead b = (cs, none)) :
    Heads b 0 b.toNat ∧ cs = [Char.ofNat b.toNat] ∨ cs = [replacement] ∧ ∀ k n, ¬ Heads b k n := by
  have noChar (outside : 0x80 ≤ b.toNat ∧ b.toNat < 0xC2 ∨ 0xF4 < b.toNat) (k n : Nat) :
      ¬ Heads b k n := by
    intro heads
    obtain _ | _ | _ | _ | k := k <;> simp only [Heads] at heads <;> omega
  revert first
  fun_cases lead b <;> intro first <;> cases first
  case case1 ascii => exact .inl ⟨⟨UInt8.lt_iff_toNat_lt.1 ascii, rfl⟩, rfl⟩
  all_goals
    refine .inr ⟨rfl, noChar ?_⟩
    simp only [UInt8.lt_iff_toNat_lt, ← UInt8.toNat_inj, UInt8.reduceToNat] at *
    omega

theorem sound_of_lead {cs : List Char} (first : lead b = (cs, some p)) : p.Sound := by
  -- The ranges were chosen so that this holds.
  rcases (cases_of_lead first).2 with
    ⟨_, _, rfl⟩ | ⟨_, rfl⟩ | ⟨_, rfl⟩ | ⟨_, _, _, rfl⟩ | ⟨_, rfl⟩ | ⟨_, _, rfl⟩ | ⟨_, rfl⟩
  all_goals
    constructor <;> simp only [least, bound, UInt8.le_iff_toNat_le, UInt8.reduceToNat,
      Nat.reducePow, Nat.reduceSub] <;> omega

/-- A first byte leaves open which of the characters that it begins will follow. -/
theorem admits_iff_heads (first : lead b = ([], some p)) (isChar : n.isValidChar) :
    p.Admits n ↔ Heads b p.owed n := by
  unfold Nat.isValidChar at isChar
  rcases (cases_of_lead first).2 with
    ⟨_, _, rfl⟩ | ⟨_, rfl⟩ | ⟨_, rfl⟩ | ⟨_, _, _, rfl⟩ | ⟨_, rfl⟩ | ⟨_, _, rfl⟩ | ⟨_, rfl⟩
  all_goals
    simp only [Heads, Admits, least, bound, UInt8.reduceToNat, Nat.reducePow, Nat.reduceSub]
    omega

/-! ### The next byte -/

/-- The bits that a byte within the range adds. -/
theorem bits_of_mem (inside : p.low ≤ b ∧ b ≤ p.high) :
    p.low.toNat - 0x80 ≤ b.toNat - 0x80 ∧ b.toNat - 0x80 ≤ p.high.toNat - 0x80 := by
  have low := UInt8.le_iff_toNat_le.1 inside.1
  have high := UInt8.le_iff_toNat_le.1 inside.2
  omega

/-- What is pending after a byte that is not the last one. -/
def next (p : Pending) (b : UInt8) : Pending :=
  ⟨p.owed - 1, 0x80, 0xBF, p.value * 64 + (b.toNat - 0x80)⟩

/-- The numbers that are left are those that start with the bits read so far. -/
theorem least_next (more : 1 < p.owed) :
    (p.next b).least = (p.value * 64 + (b.toNat - 0x80)) * 64 ^ (p.owed - 1) := by
  obtain ⟨k, owed⟩ := Nat.exists_eq_add_of_le' more
  simp only [next, least, owed, UInt8.reduceToNat, Nat.sub_self, Nat.add_zero]
  grind

theorem bound_next (more : 1 < p.owed) :
    (p.next b).bound = (p.value * 64 + (b.toNat - 0x80) + 1) * 64 ^ (p.owed - 1) := by
  obtain ⟨k, owed⟩ := Nat.exists_eq_add_of_le' more
  simp only [next, bound, owed, UInt8.reduceToNat]
  grind

theorem admits_next_iff (more : 1 < p.owed) :
    (p.next b).Admits n ↔ n / 64 ^ (p.owed - 1) = p.value * 64 + (b.toNat - 0x80) := by
  have unit : 0 < 64 ^ (p.owed - 1) := Nat.pow_pos (by decide)
  rw [Admits, least_next more, bound_next more, ← Nat.le_div_iff_mul_le unit,
    ← Nat.div_lt_iff_lt_mul unit]
  omega

/-- A byte that is not the last one narrows the interval down. -/
theorem Sound.narrow (sound : p.Sound) (inside : p.low ≤ b ∧ b ≤ p.high) (more : 1 < p.owed) :
    (p.next b).Sound := by
  obtain ⟨atLeast, atMost⟩ := bits_of_mem inside
  have above : p.least ≤ (p.next b).least := by
    rw [least_next more]
    exact Nat.mul_le_mul_right _ (Nat.add_le_add_left atLeast _)
  have below : (p.next b).bound ≤ p.bound := by
    rw [bound_next more]
    exact Nat.mul_le_mul_right _ (Nat.add_le_add_right (Nat.add_le_add_left atMost _) 1)
  have range : (0x80 : UInt8) ≤ 0xBF ∧ (0xBF : UInt8) ≤ 0xBF := by decide
  refine ⟨Nat.sub_pos_of_lt more, Nat.le_refl _, range, ?_⟩
  rcases sound.valid with low | ⟨high, top⟩
  · exact .inl (Nat.le_trans below low)
  · exact .inr ⟨Nat.le_trans high above, Nat.le_trans below top⟩

/-! ### The bytes read so far -/

/-- The characters in the interval are those that start with the bytes read so far, and continuation
bytes are missing of them. -/
structure Begun (p : Pending) (read : List UInt8) : Prop extends Sound p where
  admits : ∀ c, read <+: String.utf8EncodeChar c → p.Admits c.toNat
  completes : ∀ c, p.Admits c.toNat →
    String.utf8EncodeChar c = read ++ continuations p.owed c.toNat

theorem begun_of_lead (first : lead b = ([], some p)) : p.Begun [b] := by
  have sound := sound_of_lead first
  refine ⟨sound, ?_, ?_⟩
  · intro c begins
    obtain ⟨k, -, heads⟩ := heads_of_prefix begins
    have least := sound.admits_least
    have heads' := (admits_iff_heads first (sound.isValidChar least)).1 least
    rw [heads.length_eq heads'] at heads
    exact (admits_iff_heads first c.valid).2 heads
  · intro c admits
    rw [((admits_iff_heads first c.valid).1 admits).utf8EncodeChar_eq, List.singleton_append]

/-- The bytes read so far are the beginning of a character. -/
theorem Begun.exists_char (begun : p.Begun read) :
    ∃ c, String.utf8EncodeChar c = read ++ continuations p.owed c.toNat := by
  have least := begun.admits_least
  refine ⟨Char.ofNat p.least, begun.completes _ ?_⟩
  rwa [toNat_ofNat (begun.isValidChar least)]

theorem Begun.ne_nil (begun : p.Begun read) : read ≠ [] := by
  rintro rfl
  -- Every character would be pending, also one of a single byte, of which none is a continuation.
  have bytes := begun.completes 'a' (begun.admits 'a' List.nil_prefix)
  have member : 0x61 ∈ continuations p.owed 'a'.toNat := by
    rw [List.nil_append] at bytes
    rw [← bytes]
    decide
  exact absurd (mem_continuations member).1 (by decide)

/-- The next byte of a character lies in the range, and tells its next bits. -/
theorem Begun.inside (begun : p.Begun read) (begins : read ++ [b] <+: String.utf8EncodeChar c) :
    (p.low ≤ b ∧ b ≤ p.high) ∧ c.toNat / 64 ^ (p.owed - 1) = p.value * 64 + (b.toNat - 0x80) := by
  have admits := begun.admits c ((List.prefix_append read [b]).trans begins)
  obtain ⟨k, owed⟩ := Nat.exists_eq_add_of_lt begun.owed
  rw [begun.completes c admits, List.prefix_append_right_inj, owed,
    prefix_continuations_iff] at begins
  have mark := begun.mark
  have range := begun.range
  rw [admits_iff] at admits
  simp only [UInt8.le_iff_toNat_le, UInt8.reduceToNat] at range ⊢
  simp only [owed, Nat.add_sub_cancel] at admits ⊢
  omega

/-- A byte within the range is the next byte of the characters with its bits. -/
theorem Begun.utf8EncodeChar_eq (begun : p.Begun read) (inside : p.low ≤ b ∧ b ≤ p.high)
    (bits : c.toNat / 64 ^ (p.owed - 1) = p.value * 64 + (b.toNat - 0x80)) :
    String.utf8EncodeChar c = read ++ b :: continuations (p.owed - 1) c.toNat := by
  obtain ⟨atLeast, atMost⟩ := bits_of_mem inside
  have admits : p.Admits c.toNat := by
    rw [admits_iff, bits]
    omega
  -- Both have the same six bits under the same mark.
  have byte : continuation (c.toNat / 64 ^ (p.owed - 1)) = b := by
    have mark := begun.mark
    have range := begun.range.2
    simp only [UInt8.le_iff_toNat_le, UInt8.reduceToNat] at inside range
    rw [← UInt8.toNat_inj, toNat_continuation]
    omega
  obtain ⟨k, owed⟩ := Nat.exists_eq_add_of_lt begun.owed
  rw [owed, Nat.zero_add, Nat.add_sub_cancel] at byte ⊢
  rw [begun.completes c admits, owed, Nat.zero_add, continuations, byte]

/-- A byte within the range goes on with the character. -/
theorem Begun.next (begun : p.Begun read) (inside : p.low ≤ b ∧ b ≤ p.high) (more : 1 < p.owed) :
    (p.next b).Begun (read ++ [b]) := by
  refine ⟨begun.narrow inside more, ?_, ?_⟩
  · intro c begins
    exact (admits_next_iff more).2 (begun.inside begins).2
  · intro c admits
    rw [begun.utf8EncodeChar_eq inside ((admits_next_iff more).1 admits)]
    simp [Pending.next]

/-- And completes it if no other byte is owed. -/
theorem Begun.complete (begun : p.Begun read) (inside : p.low ≤ b ∧ b ≤ p.high)
    (last : p.owed ≤ 1) :
    String.utf8EncodeChar (Char.ofNat (p.value * 64 + (b.toNat - 0x80))) = read ++ [b] := by
  obtain ⟨atLeast, atMost⟩ := bits_of_mem inside
  have only : p.owed - 1 = 0 := by omega
  have admits : p.Admits (p.value * 64 + (b.toNat - 0x80)) := by
    rw [admits_iff, only, Nat.pow_zero, Nat.div_one]
    omega
  have number := toNat_ofNat (begun.isValidChar admits)
  have bits := begun.utf8EncodeChar_eq (c := Char.ofNat (p.value * 64 + (b.toNat - 0x80))) inside
  rw [number, only, Nat.pow_zero, Nat.div_one] at bits
  exact bits rfl

end Supervisor.Text.Pending

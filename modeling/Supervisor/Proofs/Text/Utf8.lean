import Supervisor.Proofs.Text.Pending

/-!
# Decoding what was encoded

The decoder for bytes nobody vouches for gives back every text whose UTF-8 bytes it is fed, so the
replacement character never enters a well-formed text. A field of fixed size gives back its text as
well, provided that the text leaves room for the terminator and holds no NUL.

The bytes of a character stay within the range that the pending character sets for them, and the
last one leaves the number of the character.

## Main results

* `Text.lossy_utf8` - decoding undoes encoding
* `Text.terminated_append_zeros` - so does reading a field that was filled up with zeros
-/

namespace Supervisor.Text

theorem decodeFrom_cons (p : Option Pending) (b : UInt8) (bs : List UInt8) :
    decodeFrom p (b :: bs) = (step p b).1 ++ decodeFrom (step p b).2 bs := by
  cases p <;> rfl

/-! ### Whole characters -/

/-- What is missing of a character completes it. -/
theorem Pending.Begun.decodeFrom_append {p : Pending} {c : Char} {read : List UInt8}
    (begun : p.Begun read) (admits : p.Admits c.toNat) (rest : List UInt8) :
    decodeFrom (some p) (continuations p.owed c.toNat ++ rest) = c :: decodeFrom none rest := by
  -- On the bytes that are owed. Each of them lies in the range, since the character exists.
  induction owed : p.owed generalizing p read with
  | zero => exact absurd begun.owed (by omega)
  | succ k ih =>
    have begins : read ++ [continuation (c.toNat / 64 ^ k)] <+: String.utf8EncodeChar c := by
      rw [begun.completes c admits, owed, continuations]
      simp
    obtain ⟨inside, bits⟩ := begun.inside begins
    rw [continuations, List.cons_append, decodeFrom_cons, step, if_pos inside]
    by_cases last : p.owed ≤ 1
    · -- With the last one all bits of the number are known.
      obtain rfl : k = 0 := by omega
      rw [owed, Nat.add_sub_cancel, Nat.pow_zero, Nat.div_one] at bits
      rw [if_pos last, Nat.pow_zero, Nat.div_one, ← bits, Char.ofNat_toNat]
      rfl
    · have more := Nat.lt_of_not_le last
      rw [if_neg last]
      have left : (p.next (continuation (c.toNat / 64 ^ k))).owed = k :=
        (congrArg (· - 1) owed).trans (Nat.add_sub_cancel k 1)
      exact ih (begun.next inside more) ((admits_next_iff more).2 bits) left

theorem decodeFrom_utf8EncodeChar (c : Char) (rest : List UInt8) :
    decodeFrom none (String.utf8EncodeChar c ++ rest) = c :: decodeFrom none rest := by
  obtain ⟨b, k, bytes, heads⟩ := exists_heads c
  rcases first : lead b with ⟨cs, _ | p⟩
  · rcases Pending.heads_of_lead first with ⟨alone, rfl⟩ | ⟨-, noChar⟩
    · obtain rfl := heads.length_eq alone
      rw [bytes, List.cons_append, decodeFrom_cons, step, first, heads.2, Char.ofNat_toNat]
      rfl
    · exact absurd heads (noChar k _)
  · obtain ⟨rfl, -⟩ := Pending.cases_of_lead first
    have begun := Pending.begun_of_lead first
    have admits := begun.admits c (bytes ▸ List.prefix_append [b] _)
    rw [begun.completes c admits, List.append_assoc, List.singleton_append, decodeFrom_cons, step,
      first]
    exact begun.decodeFrom_append admits rest

/-! ### Texts -/

theorem decodeFrom_utf8_append (s : String) (rest : List UInt8) :
    decodeFrom none (utf8 s ++ rest) = s.toList ++ decodeFrom none rest := by
  rw [utf8]
  induction s.toList with
  | nil => rfl
  | cons c cs ih =>
    rw [List.flatMap_cons, List.append_assoc, decodeFrom_utf8EncodeChar, ih, List.cons_append]

/-- Decoding undoes encoding. -/
@[simp] theorem lossy_utf8 (s : String) : lossy (utf8 s) = s := by
  have chars := decodeFrom_utf8_append s []
  rw [List.append_nil, decodeFrom, List.append_nil] at chars
  rw [lossy, chars, String.ofList_toList]

/-- Texts with the same bytes are the same. -/
theorem utf8_injective {s t : String} (same : utf8 s = utf8 t) : s = t := by
  rw [← lossy_utf8 s, same, lossy_utf8]

/-- Bytes are those of at most one text, and it is found. -/
theorem ofUtf8?_eq_some_iff {bytes : List UInt8} {s : String} :
    ofUtf8? bytes = some s ↔ bytes = utf8 s := by
  unfold ofUtf8?
  constructor
  · intro found
    split at found
    · next formed => rw [← formed, Option.some.inj found]
    · cases found
  · rintro rfl
    rw [lossy_utf8, if_pos rfl]

@[simp] theorem ofUtf8?_utf8 (s : String) : ofUtf8? (utf8 s) = some s := ofUtf8?_eq_some_iff.2 rfl

theorem ofUtf8?_eq_none_iff {bytes : List UInt8} :
    ofUtf8? bytes = none ↔ ∀ s, bytes ≠ utf8 s := by
  simp only [Option.eq_none_iff_forall_ne_some, ne_eq, ofUtf8?_eq_some_iff]

theorem utf8_append (s t : String) : utf8 (s ++ t) = utf8 s ++ utf8 t := by
  rw [utf8, String.toList_append, List.flatMap_append, utf8, utf8]

theorem utf8_ofList_cons (c : Char) (cs : List Char) :
    utf8 (String.ofList (c :: cs)) = String.utf8EncodeChar c ++ utf8 (String.ofList cs) := by
  rw [utf8, String.toList_ofList, List.flatMap_cons, utf8, String.toList_ofList]

theorem size_append (s t : String) : size (s ++ t) = size s + size t := by
  rw [size, utf8_append, List.length_append, size, size]

theorem size_eq_zero_iff {s : String} : size s = 0 ↔ s = "" := by
  rw [size, List.length_eq_zero_iff]
  exact ⟨fun none => utf8_injective none, fun empty => empty ▸ rfl⟩

/-- A text of one character takes the bytes of the character as often as it stands there. -/
theorem size_ofList_replicate (n : Nat) (c : Char) :
    size (String.ofList (List.replicate n c)) = n * (String.utf8EncodeChar c).length := by
  simp [size, utf8]

/-- What counts of a field that was filled up with zeros is what it was filled up from. -/
theorem beforeTerminator_append_zeros {bs : List UInt8} {n : Nat} (room : 0 < n)
    (noNul : 0 ∉ bs) : beforeTerminator (bs ++ List.replicate n 0) = bs := by
  obtain ⟨n, rfl⟩ := Nat.exists_eq_add_of_lt room
  have front : (bs ++ List.replicate (0 + n + 1) (0 : UInt8)).take (bs.length + n) =
      bs ++ List.replicate n 0 := by
    rw [List.take_length_add_append, List.take_replicate, Nat.min_eq_left (by omega)]
  have whole : ∀ b ∈ bs, (decide (b ≠ 0)) = true := fun b member =>
    decide_eq_true fun isNul => noNul (isNul ▸ member)
  rw [beforeTerminator, List.length_append, List.length_replicate,
    show bs.length + (0 + n + 1) - 1 = bs.length + n by omega, front,
    List.takeWhile_append_of_pos whole]
  cases n <;> simp

/-- A field that holds a text and at least one zero behind it reads as that text. -/
theorem terminated_append_zeros {s : String} {n : Nat} (room : 0 < n) (noNul : 0 ∉ utf8 s) :
    terminated (utf8 s ++ List.replicate n 0) = s := by
  rw [terminated, beforeTerminator_append_zeros room noNul, lossy_utf8]

end Supervisor.Text

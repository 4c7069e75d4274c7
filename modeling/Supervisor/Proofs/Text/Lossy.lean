import Mathlib.Data.List.Infix
import Supervisor.Proofs.Text.Stretches

/-!
# What is made of bytes nobody vouches for

A text that was read from a field of fixed size holds no NUL, because the field is read up to the
first one and no other byte is decoded to that character. It may take more bytes than the field has:
each stretch that is replaced becomes a character of three bytes, so three times as many at most.
Bytes that are well formed are kept.

## Main definitions

* `Text.Front` - the part of a field that counts

## Main results

* `Text.nul_not_mem_lossy` - decoding makes no NUL
* `Text.zero_not_mem_utf8_iff` - a text holds no NUL exactly if its bytes hold none
* `Text.size_terminated_le` - a well-formed field leaves room for the terminator
* `Text.stretches_of_field` - what is read from a field, whatever is in it
-/

namespace Supervisor.Text

/-! ### NUL -/

/-- A text holds no NUL exactly if its bytes hold none. -/
theorem zero_not_mem_utf8_iff {s : String} : 0 ∉ utf8 s ↔ '\x00' ∉ s.toList := by
  simp only [utf8, List.mem_flatMap, zero_mem_utf8EncodeChar_iff]
  simp

/-- Decoding makes no NUL. -/
theorem nul_not_mem_lossy {bs : List UInt8} (noNul : 0 ∉ bs) : '\x00' ∉ (lossy bs).toList := by
  obtain ⟨parts, cut, shown⟩ := exists_cut bs
  rw [← zero_not_mem_utf8_iff, shown]
  exact cut.zero_not_mem_shown noNul

/-! ### Fields -/

theorem zero_not_mem_beforeTerminator (field : List UInt8) : 0 ∉ beforeTerminator field := by
  intro zero
  have kept := List.all_eq_true.1 List.all_takeWhile 0 zero
  simp at kept

theorem length_beforeTerminator_le (field : List UInt8) :
    (beforeTerminator field).length ≤ field.length - 1 := by
  refine Nat.le_trans (List.takeWhile_prefix _).length_le ?_
  rw [List.length_take]
  exact Nat.min_le_left _ _

/-- What is read from a well-formed field leaves room for the terminator. -/
theorem size_terminated_le {field : List UInt8} (formed : WellFormed (beforeTerminator field)) :
    size (terminated field) ≤ field.length - 1 := by
  rw [size, terminated, formed.utf8_lossy]
  exact length_beforeTerminator_le field

/-- The longest part of a field before its last byte that holds no NUL. -/
structure Front (field part : List UInt8) : Prop where
  before : part <+: field.dropLast
  noNul : 0 ∉ part
  longest : ∀ other, other <+: field.dropLast → 0 ∉ other → other.length ≤ part.length

theorem front_beforeTerminator (field : List UInt8) : Front field (beforeTerminator field) := by
  refine ⟨?_, zero_not_mem_beforeTerminator field, ?_⟩
  · rw [beforeTerminator, ← List.dropLast_eq_take]
    exact List.takeWhile_prefix _
  · rintro other ⟨rest, same⟩ noNul
    have whole : ∀ x ∈ other, decide (x ≠ 0) = true := fun x member =>
      decide_eq_true fun isNul => noNul (isNul ▸ member)
    rw [beforeTerminator, ← List.dropLast_eq_take, ← same, List.takeWhile_append_of_pos whole,
      List.length_append]
    exact Nat.le_add_right _ _

/-- What is read from a field, whatever a peer has put there. -/
theorem stretches_of_field (field : List UInt8) :
    Front field (beforeTerminator field) ∧
    (∃ parts, Cut (beforeTerminator field) parts ∧
      (∀ other, Cut (beforeTerminator field) other → other = parts) ∧
      utf8 (terminated field) = parts.flatMap Stretch.shown ∧
      ∀ before mid after,
        before ++ mid ++ after = beforeTerminator field ∧ Maximal before mid after ↔
          ∃ l r, parts = l ++ .kept mid :: r ∧ l.flatMap Stretch.bytes = before ∧
            r.flatMap Stretch.bytes = after) ∧
    (WellFormed (beforeTerminator field) → utf8 (terminated field) = beforeTerminator field) ∧
    '\x00' ∉ (terminated field).toList ∧
    size (terminated field) ≤ 3 * (field.length - 1) ∧
    (field.length ≤ 1 → terminated field = "") := by
  obtain ⟨parts, cut, shown⟩ := exists_cut (beforeTerminator field)
  have bound : size (terminated field) ≤ 3 * (field.length - 1) := by
    rw [size, terminated, shown]
    exact Nat.le_trans cut.length_shown_le
      (Nat.mul_le_mul_left 3 (length_beforeTerminator_le field))
  refine ⟨front_beforeTerminator field, ⟨parts, cut, fun other cut' => cut'.unique cut, shown, ?_⟩,
    WellFormed.utf8_lossy, nul_not_mem_lossy (zero_not_mem_beforeTerminator field), bound, ?_⟩
  · intro before mid after
    exact cut.maximal_iff
  · intro small
    rw [← size_eq_zero_iff]
    omega

/-- A field that holds an unfinished character before a letter, and whose last byte would have been
the second one of a character: the letter is kept for itself. -/
theorem stretches_of_cut_character :
    let field : List UInt8 := [0x61, 0xE2, 0x82, 0x62, 0xC3, 0xA9]
    terminated field = "a\ufffdb\ufffd" ∧ Front field [0x61, 0xE2, 0x82, 0x62, 0xC3] ∧
    ∃ parts, Cut [0x61, 0xE2, 0x82, 0x62, 0xC3] parts ∧
      parts.flatMap Stretch.shown = utf8 "a\ufffdb\ufffd" ∧
      ∃ l r, parts = l ++ .kept [0x62] :: r ∧ l.flatMap Stretch.bytes = [0x61, 0xE2, 0x82] ∧
        r.flatMap Stretch.bytes = [0xC3] := by
  intro field
  obtain ⟨front, ⟨parts, cut, -, shown, kept⟩, -⟩ := stretches_of_field field
  have part : beforeTerminator field = [0x61, 0xE2, 0x82, 0x62, 0xC3] := by decide
  have text : terminated field = "a\ufffdb\ufffd" := by decide +kernel
  have alone : ∀ left ∈ List.tails [0x61, 0xE2, 0x82], ∀ right ∈ List.inits [0xC3],
      WellFormed (left ++ [0x62] ++ right) → left = [] ∧ right = [] := by decide +kernel
  rw [part] at front cut kept
  rw [text] at shown
  refine ⟨text, front, parts, cut, shown.symm,
    (kept _ _ _).1 ⟨rfl, ⟨"b", by decide⟩, by decide, ?_⟩⟩
  intro left right before after whole
  exact alone left ((List.mem_tails _ _).2 before) right ((List.mem_inits _ _).2 after) whole

end Supervisor.Text

import Supervisor.Proofs.Text.Subpart

/-!
# Stretches of a byte sequence

Any byte sequence can be cut, in one way only, into stretches that are kept and stretches that are
replaced. Those that are kept are the maximal well-formed ones, wherever one looks for them: no text
begins within a stretch that is replaced, or goes on behind one that is kept. What the decoder shows
is each stretch in its turn, and one replacement character for each that is replaced.

## Main definitions

* `Text.Stretch` - a stretch, with its bytes and what is shown of them
* `Text.Cut` - a byte sequence and its stretches
* `Text.Maximal` - a well-formed stretch that lies in no wider one

## Main results

* `Text.exists_cut` - what the decoder shows
* `Text.Cut.unique` - there is one way to cut
* `Text.Cut.maximal_iff` - which stretches are kept
-/

namespace Supervisor.Text

variable {a bs bs' before mid after : List UInt8}

/-- A stretch of a byte sequence. -/
inductive Stretch where
  /-- Bytes that are those of a text. -/
  | kept (bytes : List UInt8)
  /-- Bytes that belong to no text. -/
  | broken (bytes : List UInt8)
  deriving DecidableEq, Repr

namespace Stretch

/-- The bytes that were received. -/
def bytes : Stretch → List UInt8
  | kept bs => bs
  | broken bs => bs

/-- The bytes of what is shown of them. -/
def shown : Stretch → List UInt8
  | kept bs => bs
  | broken _ => String.utf8EncodeChar replacement

end Stretch

/-- A byte sequence is cut into stretches from its start on: as much as is well formed, and where no
character begins a maximal subpart. -/
inductive Cut : List UInt8 → List Stretch → Prop
  | nil : Cut [] []
  | kept {bs rest parts} (formed : WellFormed bs) (nonempty : bs ≠ []) (ends : Unconvertible rest)
      (cut : Cut rest parts) : Cut (bs ++ rest) (.kept bs :: parts)
  | broken {bs rest parts} (subpart : Subpart bs rest) (cut : Cut rest parts) :
      Cut (bs ++ rest) (.broken bs :: parts)

variable {parts parts' : List Stretch}

theorem Cut.flatMap_bytes (cut : Cut bs parts) : parts.flatMap Stretch.bytes = bs := by
  induction cut with
  | nil => rfl
  | kept _ _ _ _ ih => rw [List.flatMap_cons, ih, Stretch.bytes]
  | broken _ _ ih => rw [List.flatMap_cons, ih, Stretch.bytes]

/-- There is only one way. -/
theorem Cut.unique (cut : Cut bs parts) (cut' : Cut bs parts') : parts = parts' := by
  generalize same : bs = bs' at cut'
  induction cut generalizing bs' parts' with
  | nil =>
    cases cut' with
    | nil => rfl
    | kept _ nonempty _ _ => exact absurd (List.append_eq_nil_iff.1 same.symm).1 nonempty
    | broken subpart _ => exact absurd (List.append_eq_nil_iff.1 same.symm).1 subpart.nonempty
  | kept formed nonempty ends _ ih =>
    cases cut' with
    | nil => exact absurd (List.append_eq_nil_iff.1 same).1 nonempty
    | kept formed' _ ends' later =>
      obtain ⟨rfl, rfl⟩ := formed.unique ends formed' ends' same
      rw [ih _ rfl later]
    | broken subpart later =>
      have empty := subpart.unconvertible _ (same ▸ List.prefix_append _ _) formed
      exact absurd empty nonempty
  | broken subpart _ ih =>
    cases cut' with
    | nil => exact absurd (List.append_eq_nil_iff.1 same).1 subpart.nonempty
    | kept formed' nonempty' _ later =>
      have empty := subpart.unconvertible _ (same ▸ List.prefix_append _ _) formed'
      exact absurd empty nonempty'
    | broken subpart' later =>
      obtain ⟨rfl, rfl⟩ := subpart.unique subpart' same
      rw [ih _ rfl later]

/-- Every byte sequence can be cut, and the decoder shows its stretches. -/
theorem exists_cut (bs : List UInt8) :
    ∃ parts, Cut bs parts ∧ utf8 (lossy bs) = parts.flatMap Stretch.shown := by
  -- On the length: what is well formed here may be taken in several pieces, which come together.
  by_cases empty : bs = []
  · exact ⟨[], empty ▸ .nil, empty ▸ rfl⟩
  by_cases ill : Unconvertible bs
  · obtain ⟨part, rest, rfl, subpart, decoded⟩ := exists_subpart ill empty
    have shorter : rest.length < (part ++ rest).length := by
      simpa using List.length_pos_iff.2 subpart.nonempty
    obtain ⟨parts, cut, shown⟩ := exists_cut rest
    refine ⟨.broken part :: parts, .broken subpart cut, ?_⟩
    rw [lossy, decoded, utf8_ofList_cons, ← lossy, shown, List.flatMap_cons, Stretch.shown]
  · obtain ⟨front, rest, rfl, formed, nonempty⟩ := exists_of_not_unconvertible ill
    have shorter : rest.length < (front ++ rest).length := by
      simpa using List.length_pos_iff.2 nonempty
    obtain ⟨parts, cut, shown⟩ := exists_cut rest
    rw [formed.utf8_lossy_append, shown]
    -- The piece joins the stretch with which the rest begins, if that one is kept.
    cases cut with
    | nil => exact ⟨_, .kept formed nonempty unconvertible_nil .nil, rfl⟩
    | kept formed' nonempty' ends cut =>
      rw [← List.append_assoc]
      refine ⟨_, .kept (formed.append formed') ?_ ends cut, ?_⟩
      · exact List.append_ne_nil_of_left_ne_nil nonempty _
      · simp [Stretch.shown]
    | broken subpart cut =>
      exact ⟨_, .kept formed nonempty subpart.unconvertible (.broken subpart cut), rfl⟩
termination_by bs.length

/-! ### Maximal stretches -/

/-- A stretch that is well formed and in no wider stretch that is. -/
structure Maximal (before mid after : List UInt8) : Prop where
  formed : WellFormed mid
  nonempty : mid ≠ []
  widest : ∀ left right, left <:+ before → right <+: after → WellFormed (left ++ mid ++ right) →
    left = [] ∧ right = []

/-- Two ways to cut one list in two: the first cut is not before the second one, or it is. -/
theorem append_cases {a b c d : List UInt8} (same : a ++ b = c ++ d) :
    (∃ x, a = c ++ x ∧ d = x ++ b) ∨ ∃ x, x ≠ [] ∧ c = a ++ x ∧ b = x ++ d := by
  rw [List.append_eq_append_iff] at same
  rcases same with ⟨x, rfl, rfl⟩ | before
  · by_cases empty : x = []
    · exact .inl ⟨[], by simp [empty], by simp [empty]⟩
    · exact .inr ⟨x, empty, rfl, rfl⟩
  · exact .inl before

/-- Well-formed bytes anywhere lie within one of the stretches that are kept. -/
theorem Cut.exists_kept (cut : Cut (before ++ mid ++ after) parts)
    (formed : WellFormed mid) (nonempty : mid ≠ []) :
    ∃ l r left right, parts = l ++ .kept (left ++ mid ++ right) :: r ∧
      before = l.flatMap Stretch.bytes ++ left ∧ after = right ++ r.flatMap Stretch.bytes := by
  -- Stretches before the bytes are passed over. The first one that reaches into them is kept, for
  -- in one that is replaced no text begins.
  generalize same : before ++ mid ++ after = bs at cut
  induction cut generalizing before with
  | nil =>
    simp only [List.append_eq_nil_iff] at same
    exact absurd same.1.2 nonempty
  | @kept bs rest parts formed' _ ends cut ih =>
    rw [List.append_assoc] at same
    rcases append_cases same with ⟨x, rfl, later⟩ | ⟨x, inner, rfl, here⟩
    · obtain ⟨l, r, left, right, rfl, rfl, rfl⟩ := ih (by rw [later, List.append_assoc])
      exact ⟨.kept bs :: l, r, left, right, rfl, by simp [Stretch.bytes], rfl⟩
    · -- The bytes begin within this stretch, and where it ends they end.
      have fresh := formed.fresh nonempty after
      rw [here] at fresh
      have front : WellFormed before := formed'.of_fresh (by simpa using fresh.of_append inner [])
      have later : WellFormed x := front.of_append formed'
      rw [List.append_eq_append_iff] at here
      rcases here with ⟨y, rfl, rfl⟩ | ⟨y, rfl, rfl⟩
      · exact ⟨[], parts, before, y, by simp, rfl, by rw [cut.flatMap_bytes]⟩
      · obtain rfl := ends y (List.prefix_append y after) (later.of_append formed)
        exact ⟨[], parts, before, [], by simp, rfl, by simp [cut.flatMap_bytes]⟩
  | @broken bs rest parts subpart cut ih =>
    rw [List.append_assoc] at same
    rcases append_cases same with ⟨x, rfl, later⟩ | ⟨x, inner, rfl, here⟩
    · obtain ⟨l, r, left, right, rfl, rfl, rfl⟩ := ih (by rw [later, List.append_assoc])
      exact ⟨.broken bs :: l, r, left, right, rfl, by simp [Stretch.bytes], rfl⟩
    · exact absurd (subpart.eq_nil_of_within inner formed here) nonempty

theorem Cut.formed_of_mem (cut : Cut bs parts) (member : .kept a ∈ parts) :
    WellFormed a ∧ a ≠ [] := by
  induction cut with
  | nil => cases member
  | kept formed nonempty _ _ ih =>
    rcases List.mem_cons.1 member with same | later
    · cases same
      exact ⟨formed, nonempty⟩
    · exact ih later
  | broken _ _ ih =>
    rcases List.mem_cons.1 member with same | later
    · cases same
    · exact ih later

/-- Stretches of one byte sequence that overlap are the same. -/
theorem eq_of_overlap {l r l' r' : List Stretch} {s s' : Stretch}
    (same : l ++ s :: r = l' ++ s' :: r')
    (before : (l.flatMap Stretch.bytes).length <
      (l'.flatMap Stretch.bytes).length + s'.bytes.length)
    (after : (l'.flatMap Stretch.bytes).length <
      (l.flatMap Stretch.bytes).length + s.bytes.length) :
    l = l' ∧ s = s' ∧ r = r' := by
  induction l generalizing l' with
  | nil =>
    cases l' with
    | nil => exact ⟨rfl, List.cons.inj same⟩
    | cons t l' =>
      obtain ⟨rfl, -⟩ := List.cons.inj same
      rw [List.flatMap_cons, List.length_append, List.flatMap_nil, List.length_nil] at after
      omega
  | cons t l ih =>
    cases l' with
    | nil =>
      obtain ⟨rfl, -⟩ := List.cons.inj same
      rw [List.flatMap_cons, List.length_append, List.flatMap_nil, List.length_nil] at before
      omega
    | cons t' l' =>
      obtain ⟨rfl, later⟩ := List.cons.inj same
      simp only [List.flatMap_cons, List.length_append] at before after
      obtain ⟨rfl, rest⟩ := ih later (by omega) (by omega)
      exact ⟨rfl, rest⟩

/-- The stretches that are kept are the maximal well-formed ones. -/
theorem Cut.maximal_iff (cut : Cut bs parts) :
    before ++ mid ++ after = bs ∧ Maximal before mid after ↔
      ∃ l r, parts = l ++ .kept mid :: r ∧ l.flatMap Stretch.bytes = before ∧
        r.flatMap Stretch.bytes = after := by
  constructor
  · rintro ⟨rfl, maximal⟩
    obtain ⟨l, r, left, right, rfl, rfl, rfl⟩ := cut.exists_kept maximal.formed maximal.nonempty
    have whole := (cut.formed_of_mem (a := left ++ mid ++ right) (by simp)).1
    obtain ⟨rfl, rfl⟩ :=
      maximal.widest left right (List.suffix_append _ _) (List.prefix_append _ _) whole
    exact ⟨l, r, by simp, by simp, by simp⟩
  · rintro ⟨l, r, rfl, rfl, rfl⟩
    obtain ⟨formed, nonempty⟩ := cut.formed_of_mem (a := mid) (by simp)
    refine ⟨by simp [← cut.flatMap_bytes, Stretch.bytes], formed, nonempty, ?_⟩
    rintro left right ⟨before, front⟩ ⟨after, back⟩ whole
    have bytes : before ++ (left ++ mid ++ right) ++ after = bs := by
      simp [← cut.flatMap_bytes, ← front, ← back, Stretch.bytes]
    -- The wider one lies within a stretch as well, which can only be this one.
    have wider : left ++ mid ++ right ≠ [] := by simp [nonempty]
    obtain ⟨l', r', left', right', same, rfl, rfl⟩ := (bytes ▸ cut).exists_kept whole wider
    have size := List.length_pos_iff.2 nonempty
    have start := congrArg List.length front
    rw [List.length_append, List.length_append] at start
    obtain ⟨-, one, -⟩ := eq_of_overlap same
      (by simp only [Stretch.bytes, List.length_append]; omega)
      (by simp only [Stretch.bytes]; omega)
    have sizes := congrArg (fun s => s.bytes.length) one
    simp only [Stretch.bytes, List.length_append] at sizes
    exact ⟨List.eq_nil_of_length_eq_zero (by omega), List.eq_nil_of_length_eq_zero (by omega)⟩

theorem Cut.length_shown_le (cut : Cut bs parts) :
    (parts.flatMap Stretch.shown).length ≤ 3 * bs.length := by
  have three : (String.utf8EncodeChar replacement).length = 3 := by decide
  induction cut with
  | nil => exact Nat.le_refl _
  | kept _ _ _ _ ih =>
    rw [List.flatMap_cons, List.length_append, List.length_append, Stretch.shown]
    omega
  | broken subpart _ ih =>
    have := List.length_pos_iff.2 subpart.nonempty
    rw [List.flatMap_cons, List.length_append, List.length_append, Stretch.shown, three]
    omega

/-- What is shown holds no zero that was not received. -/
theorem Cut.zero_not_mem_shown (cut : Cut bs parts) (noNul : 0 ∉ bs) :
    0 ∉ parts.flatMap Stretch.shown := by
  have replaced : 0 ∉ String.utf8EncodeChar replacement := by decide
  induction cut with
  | nil => exact noNul
  | kept _ _ _ _ ih =>
    rw [List.mem_append, not_or] at noNul
    rw [List.flatMap_cons, List.mem_append, not_or, Stretch.shown]
    exact ⟨noNul.1, ih noNul.2⟩
  | broken _ _ ih =>
    rw [List.mem_append, not_or] at noNul
    rw [List.flatMap_cons, List.mem_append, not_or, Stretch.shown]
    exact ⟨replaced, ih noNul.2⟩

end Supervisor.Text

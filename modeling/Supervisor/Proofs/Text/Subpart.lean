import Supervisor.Proofs.Text.Utf8

/-!
# Where no character begins

Bytes that are not those of a text are replaced part by part. Where no character begins, the part is
as long as it is the beginning of a text, and at least one byte long; after it the decoder starts
afresh. The machine keeps to this without looking back or ahead: it has read the beginning of a
character as long as one is pending, and it stops before the first byte that no such character has
at this place.

## Main definitions

* `Text.WellFormed` - bytes that are those of a text
* `Text.Fresh` - bytes with which no character goes on
* `Text.Unconvertible` - bytes at whose start no text begins
* `Text.Subpart` - a maximal subpart, which is replaced as a whole

## Main results

* `Text.WellFormed.of_fresh` - a text can be cut wherever a character begins
* `Text.exists_subpart` - what the decoder replaces is a maximal subpart
-/

namespace Supervisor.Text

variable {a b a' b' bs rest part : List UInt8}

/-! ### Well-formed bytes -/

/-- Bytes that are those of a text. -/
def WellFormed (bs : List UInt8) : Prop := ∃ s, utf8 s = bs

/-- Bytes of a text are kept, whatever follows them. -/
theorem WellFormed.utf8_lossy_append (formed : WellFormed a) (b : List UInt8) :
    utf8 (lossy (a ++ b)) = a ++ utf8 (lossy b) := by
  obtain ⟨s, rfl⟩ := formed
  rw [lossy, decodeFrom_utf8_append, String.ofList_append, String.ofList_toList, utf8_append, lossy]

theorem WellFormed.utf8_lossy (formed : WellFormed bs) : utf8 (lossy bs) = bs := by
  obtain ⟨s, rfl⟩ := formed
  rw [lossy_utf8]

instance : DecidablePred WellFormed := fun bs =>
  decidable_of_iff (utf8 (lossy bs) = bs) ⟨fun same => ⟨_, same⟩, WellFormed.utf8_lossy⟩

theorem wellFormed_flatMap (cs : List Char) : WellFormed (cs.flatMap String.utf8EncodeChar) :=
  ⟨String.ofList cs, by rw [utf8, String.toList_ofList]⟩

theorem wellFormed_utf8EncodeChar (c : Char) : WellFormed (String.utf8EncodeChar c) := by
  simpa using wellFormed_flatMap [c]

theorem WellFormed.exists_chars (formed : WellFormed bs) :
    ∃ cs : List Char, cs.flatMap String.utf8EncodeChar = bs := by
  obtain ⟨s, bytes⟩ := formed
  exact ⟨s.toList, bytes⟩

theorem WellFormed.append (formed : WellFormed a) (formed' : WellFormed b) :
    WellFormed (a ++ b) := by
  obtain ⟨s, rfl⟩ := formed
  obtain ⟨t, rfl⟩ := formed'
  exact ⟨s ++ t, utf8_append s t⟩

theorem WellFormed.of_append (formed : WellFormed a) (whole : WellFormed (a ++ b)) :
    WellFormed b := by
  have kept := whole.utf8_lossy
  rw [formed.utf8_lossy_append, List.append_cancel_left_eq] at kept
  exact ⟨_, kept⟩

/-! ### Where a character may begin -/

/-- No character goes on with these bytes. -/
def Fresh (bs : List UInt8) : Prop := ∀ x ∈ bs.head?, x.toNat < 0x80 ∨ 0xC0 ≤ x.toNat

theorem WellFormed.fresh (formed : WellFormed a) (nonempty : a ≠ []) (b : List UInt8) :
    Fresh (a ++ b) := by
  obtain ⟨cs, rfl⟩ := formed.exists_chars
  cases cs with
  | nil => exact absurd rfl nonempty
  | cons c cs =>
    obtain ⟨x, k, bytes, heads⟩ := exists_heads c
    intro y first
    rw [List.flatMap_cons, bytes] at first
    cases first
    exact heads.not_continuation

theorem Fresh.of_append (fresh : Fresh (a ++ b)) (nonempty : a ≠ []) (b' : List UInt8) :
    Fresh (a ++ b') := by
  obtain ⟨x, a, rfl⟩ := List.exists_cons_of_ne_nil nonempty
  exact fresh

/-- Well-formed bytes can be cut where no character goes on. -/
theorem WellFormed.of_fresh (whole : WellFormed (a ++ b)) (fresh : Fresh b) : WellFormed a := by
  obtain ⟨cs, same⟩ := whole.exists_chars
  clear whole
  induction cs generalizing a with
  | nil =>
    rw [List.flatMap_nil, eq_comm, List.append_eq_nil_iff] at same
    rw [same.1]
    exact wellFormed_flatMap []
  | cons c cs ih =>
    rw [List.flatMap_cons, List.append_eq_append_iff] at same
    rcases same with ⟨a', rfl, later⟩ | ⟨tail, bytes, rfl⟩
    · exact (wellFormed_utf8EncodeChar c).append (ih later)
    · -- The cut is behind the character or before it, because all its bytes but the first go on.
      obtain ⟨x, k, enc, -⟩ := exists_heads c
      rw [enc] at bytes
      cases a with
      | nil => exact wellFormed_flatMap []
      | cons y a =>
        cases tail with
        | nil =>
          rw [List.append_nil, ← enc] at bytes
          exact bytes ▸ wellFormed_utf8EncodeChar c
        | cons z tail =>
          rw [List.cons_append, List.cons.injEq] at bytes
          have member : z ∈ continuations k c.toNat := by
            rw [bytes.2]
            simp
          have inside := mem_continuations member
          have outside := fresh z rfl
          omega

/-! ### Ill-formed subparts -/

/-- No text but the empty one begins here. -/
def Unconvertible (bs : List UInt8) : Prop := ∀ front, front <+: bs → WellFormed front → front = []

/-- These bytes are the beginning of a text. -/
def Initial (bs : List UInt8) : Prop := ∃ more, WellFormed (bs ++ more)

/-- A maximal subpart: where no character begins, the longest part that is the beginning of a text,
or a single byte. -/
structure Subpart (part rest : List UInt8) : Prop where
  unconvertible : Unconvertible (part ++ rest)
  nonempty : part ≠ []
  initial : part.length = 1 ∨ Initial part
  longest : ∀ more, more <+: rest → Initial (part ++ more) → more = []

theorem unconvertible_nil : Unconvertible [] := fun _ before _ => List.prefix_nil.1 before

theorem exists_of_not_unconvertible (readable : ¬ Unconvertible bs) :
    ∃ front rest, bs = front ++ rest ∧ WellFormed front ∧ front ≠ [] := by
  simp only [Unconvertible, Classical.not_forall] at readable
  obtain ⟨front, ⟨rest, same⟩, formed, nonempty⟩ := readable
  exact ⟨front, rest, same.symm, formed, nonempty⟩

/-- Where no character begins, the beginning of a text is that of a character. -/
theorem Initial.exists_char {more : List UInt8} (initial : Initial (part ++ more))
    (before : more <+: rest) (ill : Unconvertible (part ++ rest)) :
    ∃ c, part ++ more <+: String.utf8EncodeChar c := by
  obtain ⟨later, whole⟩ := initial
  obtain ⟨cs, same⟩ := whole.exists_chars
  cases cs with
  | nil =>
    rw [List.flatMap_nil, eq_comm, List.append_eq_nil_iff] at same
    rw [same.1]
    exact ⟨'a', List.nil_prefix⟩
  | cons c cs =>
    rw [List.flatMap_cons, List.append_eq_append_iff] at same
    rcases same with ⟨tail, bytes, -⟩ | ⟨tail, bytes, -⟩
    · have front : String.utf8EncodeChar c <+: part ++ rest := by
        refine List.IsPrefix.trans ?_ ((List.prefix_append_right_inj part).2 before)
        exact bytes ▸ List.prefix_append _ tail
      exact absurd (ill _ front (wellFormed_utf8EncodeChar c)) (utf8EncodeChar_ne_nil c)
    · exact ⟨c, bytes ▸ List.prefix_append _ tail⟩

/-- Well-formed bytes behind which no character begins reach as far as any others from their start
on. -/
theorem WellFormed.unique (formed : WellFormed a) (ends : Unconvertible b) (formed' : WellFormed a')
    (ends' : Unconvertible b') (same : a ++ b = a' ++ b') : a = a' ∧ b = b' := by
  rw [List.append_eq_append_iff] at same
  rcases same with ⟨x, rfl, rfl⟩ | ⟨x, rfl, rfl⟩
  · rw [ends x (List.prefix_append x b') (formed.of_append formed')]
    simp
  · rw [ends' x (List.prefix_append x b) (formed'.of_append formed)]
    simp

theorem Subpart.unique (subpart : Subpart a b) (subpart' : Subpart a' b')
    (same : a ++ b = a' ++ b') : a = a' ∧ b = b' := by
  -- The longer one of two would be the beginning of a text, as it has more than one byte.
  have longer {a x c : List UInt8} (subpart : Subpart a (x ++ c)) (other : Subpart (a ++ x) c) :
      x = [] := by
    rcases other.initial with single | initial
    · have := List.length_pos_iff.2 subpart.nonempty
      rw [List.length_append] at single
      exact List.eq_nil_of_length_eq_zero (by omega)
    · exact subpart.longest x (List.prefix_append x c) initial
  rw [List.append_eq_append_iff] at same
  rcases same with ⟨x, rfl, rfl⟩ | ⟨x, rfl, rfl⟩
  · rw [longer subpart subpart']
    simp
  · rw [longer subpart' subpart]
    simp

/-- No text begins within a maximal subpart, as its later bytes all go on with a character. -/
theorem Subpart.eq_nil_of_within {before x mid after : List UInt8}
    (subpart : Subpart (before ++ x) rest) (nonempty : x ≠ []) (formed : WellFormed mid)
    (here : mid ++ after = x ++ rest) : mid = [] := by
  refine Decidable.byContradiction fun text => ?_
  have fresh := formed.fresh text after
  rw [here] at fresh
  have start : before = [] := by
    rcases subpart.initial with single | ⟨more, whole⟩
    · have := List.length_pos_iff.2 nonempty
      rw [List.length_append] at single
      exact List.eq_nil_of_length_eq_zero (by omega)
    · rw [List.append_assoc] at whole
      have front := whole.of_fresh (fresh.of_append nonempty more)
      exact subpart.unconvertible before (by simp) front
  subst start
  have first : mid <+: x ++ rest := here ▸ List.prefix_append mid after
  exact text (subpart.unconvertible mid first formed)

/-! ### What the decoder replaces -/

namespace Pending

variable {p : Pending} {read : List UInt8}

/-- Where the next byte is out of range, or the bytes end, a maximal subpart ends. -/
theorem Begun.subpart (begun : p.Begun read) (ill : Unconvertible (read ++ rest))
    (stops : ∀ x ∈ rest.head?, ¬ (p.low ≤ x ∧ x ≤ p.high)) : Subpart read rest := by
  refine ⟨ill, begun.ne_nil, .inr ?_, ?_⟩
  · obtain ⟨c, bytes⟩ := begun.exists_char
    exact ⟨_, bytes ▸ wellFormed_utf8EncodeChar c⟩
  · intro more before initial
    obtain ⟨c, bytes⟩ := initial.exists_char before ill
    obtain ⟨rest, rfl⟩ := before
    cases more with
    | nil => rfl
    | cons x more =>
      have next : read ++ [x] <+: String.utf8EncodeChar c := by
        refine List.IsPrefix.trans ?_ bytes
        rw [List.prefix_append_right_inj]
        simp
      exact absurd (begun.inside next).1 (stops x rfl)

/-- The decoder replaces what was read together with the bytes that go on with it, and reads the
others afresh. -/
theorem Begun.exists_subpart (begun : p.Begun read) (ill : Unconvertible (read ++ bs)) :
    ∃ more rest, bs = more ++ rest ∧ Subpart (read ++ more) rest ∧
      decodeFrom (some p) bs = replacement :: decodeFrom none rest := by
  -- On the bytes that are left, which go over to those that were read as long as a character can
  -- go on with them; `Begun` says that it can.
  induction bs generalizing p read with
  | nil =>
    refine ⟨[], [], rfl, ?_, rfl⟩
    rw [List.append_nil]
    exact begun.subpart ill fun x first => by cases first
  | cons x bs ih =>
    have regroup : read ++ x :: bs = (read ++ [x]) ++ bs := by simp
    by_cases inside : p.low ≤ x ∧ x ≤ p.high
    · rw [regroup] at ill
      by_cases last : p.owed ≤ 1
      · -- A character would be complete here.
        have formed : WellFormed (read ++ [x]) :=
          begun.complete inside last ▸ wellFormed_utf8EncodeChar _
        have empty := ill _ (List.prefix_append _ bs) formed
        exact absurd empty (List.append_ne_nil_of_right_ne_nil _ (List.cons_ne_nil x []))
      · obtain ⟨more, rest, rfl, subpart, decoded⟩ :=
          ih (begun.next inside (Nat.lt_of_not_le last)) ill
        refine ⟨x :: more, rest, rfl, by simpa using subpart, ?_⟩
        rw [decodeFrom_cons, step, if_pos inside, if_neg last]
        exact decoded
    · refine ⟨[], x :: bs, rfl, ?_, ?_⟩
      · rw [List.append_nil]
        refine begun.subpart ill fun y first => ?_
        cases first
        exact inside
      · rw [decodeFrom_cons, step, if_neg inside, decodeFrom_cons]
        rfl

end Pending

/-- Where no character begins, the decoder replaces a maximal subpart. -/
theorem exists_subpart (ill : Unconvertible bs) (nonempty : bs ≠ []) :
    ∃ part rest, bs = part ++ rest ∧ Subpart part rest ∧
      decodeFrom none bs = replacement :: decodeFrom none rest := by
  obtain ⟨b, bs, rfl⟩ := List.exists_cons_of_ne_nil nonempty
  rcases first : lead b with ⟨cs, _ | p⟩
  · rcases Pending.heads_of_lead first with ⟨heads, -⟩ | ⟨rfl, noChar⟩
    · -- A character would stand here.
      have number : (Char.ofNat b.toNat).toNat = b.toNat :=
        toNat_ofNat (.inl (Nat.lt_trans heads.1 (by decide)))
      have formed := wellFormed_utf8EncodeChar (Char.ofNat b.toNat)
      rw [Heads.utf8EncodeChar_eq (number.symm ▸ heads), continuations] at formed
      exact absurd (ill [b] (List.prefix_append [b] bs) formed) (List.cons_ne_nil b [])
    · refine ⟨[b], bs, rfl, ⟨ill, List.cons_ne_nil b [], .inl rfl, ?_⟩, ?_⟩
      · intro more before initial
        obtain ⟨c, begins⟩ := initial.exists_char before ill
        obtain ⟨k, -, heads⟩ := heads_of_prefix ((List.prefix_append [b] more).trans begins)
        exact absurd heads (noChar k _)
      · rw [decodeFrom_cons, step, first]
        rfl
  · obtain ⟨rfl, -⟩ := Pending.cases_of_lead first
    obtain ⟨more, rest, rfl, subpart, decoded⟩ :=
      (Pending.begun_of_lead first).exists_subpart ill
    refine ⟨b :: more, rest, rfl, subpart, ?_⟩
    rw [decodeFrom_cons, step, first]
    exact decoded

end Supervisor.Text

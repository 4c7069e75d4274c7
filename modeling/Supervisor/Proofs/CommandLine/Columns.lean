import Mathlib.Data.List.Forall2
import Supervisor.CommandLine.Outcome
import Supervisor.Proofs.Json
import Supervisor.Text.Split

/-!
# Listings for people

What people see of a listing is a header and one line for each row, in the order of the rows. In a
line every text has its column, and what comes behind a column stays where it is as long as the text
is no wider than that. Only a line break in a name could make two lines of one row.

## Main definitions

* `Text.OneLine` - a text without line breaks
* `Text.Fills` - the blanks that fill a column up
* `DomainRow.ShownBy`, `NetworkRow.ShownBy` - how a line shows a row

## Main results

* `Text.splitAtChar_join` - lines that were put one below another are told apart again
* `Uuid.oneLine_toText` - an identifier is written without line breaks
* `Outcome.split_domains`, `Outcome.split_networks` - the lines of a listing
-/

namespace Supervisor

namespace Text

variable {sep : Char}

theorem splitAtChar_append_cons {line : List Char} (whole : sep ∉ line) (rest : List Char) :
    splitAtChar sep (line ++ sep :: rest) = line :: splitAtChar sep rest := by
  induction line with
  | nil => simp only [List.nil_append, splitAtChar, if_true]
  | cons c line ih =>
    have other : c ≠ sep := Ne.symm (List.ne_of_not_mem_cons whole)
    rw [List.cons_append, splitAtChar, if_neg other, ih (List.not_mem_of_not_mem_cons whole)]

/-- A text without line breaks. -/
def OneLine (s : String) : Prop := '\n' ∉ s.toList

instance (s : String) : Decidable (OneLine s) := inferInstanceAs (Decidable (_ ∉ _))

theorem oneLine_append_iff {s t : String} : OneLine (s ++ t) ↔ OneLine s ∧ OneLine t := by
  simp only [OneLine, String.toList_append, List.mem_append, not_or]

theorem OneLine.of_printable {s : String} (printable : Json.Printable s.toList) : OneLine s :=
  fun member => absurd (printable _ member) (by decide)

/-- Lines that were put one below another are told apart again. -/
theorem splitAtChar_join {lines : List String} (whole : ∀ line ∈ lines, OneLine line) :
    splitAtChar '\n' (String.join (lines.map (· ++ "\n"))).toList =
      lines.map String.toList ++ [[]] := by
  induction lines with
  | nil => rfl
  | cons line lines ih =>
    obtain ⟨first, others⟩ := List.forall_mem_cons.1 whole
    have joined : (String.join ((line :: lines).map (· ++ "\n"))).toList =
        line.toList ++ '\n' :: (String.join (lines.map (· ++ "\n"))).toList := by
      simp [String.join_cons]
    rw [joined, splitAtChar_append_cons first, ih others]
    rfl

/-- What fills a column up in which a text stands: blanks, up to its width, and none for a text that
is wider. -/
structure Fills (width : Nat) (text filling : String) : Prop where
  blank : ∀ c ∈ filling.toList, c = ' '
  width : text.length + filling.length = max width text.length

theorem Fills.oneLine {width : Nat} {text filling : String} (fills : Fills width text filling) :
    OneLine filling := fun member => absurd (fills.blank _ member) (by decide)

theorem fills_replicate (width : Nat) (text : String) :
    Fills width text (String.ofList (List.replicate (width - text.length) ' ')) := by
  refine ⟨fun c member => ?_, ?_⟩
  · rw [String.toList_ofList] at member
    exact List.eq_of_mem_replicate member
  · rw [String.length_ofList, List.length_replicate]
    omega

end Text

/-! ### Identifiers -/

namespace Uuid

theorem printable_digitChar : ∀ n < 16, 0x20 ≤ n.digitChar.toNat := by decide

theorem printable_hexByte (b : UInt8) : Json.Printable (hexByte b) := by
  have byte : b.toNat < 256 := b.toNat_lt
  have high := printable_digitChar (b.toNat / 16) (by omega)
  have low := printable_digitChar (b.toNat % 16) (by omega)
  exact Json.printable_cons_iff.2 ⟨high, Json.printable_cons_iff.2 ⟨low, Json.printable_nil⟩⟩

/-- An identifier is written without line breaks. -/
theorem oneLine_toText (u : Uuid) : Text.OneLine u.toText := by
  apply Text.OneLine.of_printable
  have group (bytes : List UInt8) :
      Json.Printable (String.ofList (bytes.flatMap hexByte)).toList := by
    intro c member
    rw [String.toList_ofList] at member
    obtain ⟨b, -, written⟩ := List.mem_flatMap.1 member
    exact printable_hexByte b c written
  have hyphen : Json.Printable "-".toList := by decide
  simp only [toText, String.intercalate_cons_cons, String.intercalate_singleton,
    String.toList_append, Json.printable_append_iff, group, hyphen, and_self]

end Uuid

/-! ### Rows -/

namespace DomainRow

/-- The number of a domain, or a dash if it has none. -/
def number (r : DomainRow) : String :=
  match r.id with
  | some n => toString n.toInt
  | none => "-"

theorem oneLine_number (r : DomainRow) : Text.OneLine r.number := by
  apply Text.OneLine.of_printable
  unfold number
  cases r.id with
  | none => decide
  | some n =>
    have decimal : (toString n.toInt).toList = (Json.number n.toInt).chars := by
      cases n.toInt <;> simp [Json.chars, Json.decimal, toString, Int.repr, Nat.repr]
    dsimp only
    rw [decimal]
    exact (Json.number n.toInt).printable_chars

/-- A line shows a domain: the number ends in the fifth column, the name has the twenty columns
behind two blanks, and the identifier comes last. -/
def ShownBy (r : DomainRow) (line : String) : Prop :=
  ∃ before behind, Text.Fills 5 r.number before ∧ Text.Fills 20 r.name behind ∧
    line = before ++ r.number ++ "  " ++ (r.name ++ behind) ++ "  " ++ r.uuid

theorem ShownBy.oneLine {r : DomainRow} {line : String} (shown : r.ShownBy line)
    (name : Text.OneLine r.name) (uuid : Text.OneLine r.uuid) : Text.OneLine line := by
  obtain ⟨before, behind, number, filled, rfl⟩ := shown
  have gap : Text.OneLine "  " := by decide
  simp only [Text.oneLine_append_iff, number.oneLine, r.oneLine_number, name, filled.oneLine, gap,
    uuid, and_self]

end DomainRow

namespace NetworkRow

/-- A line shows a network: the name has twenty columns, and the identifier follows two blanks. -/
def ShownBy (r : NetworkRow) (line : String) : Prop :=
  ∃ behind, Text.Fills 20 r.name behind ∧ line = r.name ++ behind ++ "  " ++ r.uuid

theorem ShownBy.oneLine {r : NetworkRow} {line : String} (shown : r.ShownBy line)
    (name : Text.OneLine r.name) (uuid : Text.OneLine r.uuid) : Text.OneLine line := by
  obtain ⟨behind, filled, rfl⟩ := shown
  have gap : Text.OneLine "  " := by decide
  simp only [Text.oneLine_append_iff, name, filled.oneLine, gap, uuid, and_self]

end NetworkRow

/-! ### Listings -/

namespace Outcome

/-- What people see of a result is its lines, unless one of them holds a line break. -/
theorem split_human {o : Outcome} (whole : ∀ line ∈ o.humanLines, Text.OneLine line) :
    Text.splitAtChar '\n' o.human.toList = o.humanLines.map String.toList ++ [[]] :=
  Text.splitAtChar_join whole

/-- If a result is a header and a line for each row, and no row has a line break, then that is what
people see. -/
theorem split_listing {ρ : Type} {o : Outcome} {header : String} {line : ρ → String} {rows : List ρ}
    {ShownBy : ρ → String → Prop} (lines : o.humanLines = header :: rows.map line)
    (above : Text.OneLine header) (shown : ∀ r, ShownBy r (line r))
    (whole : ∀ r ∈ rows, ∀ l, ShownBy r l → Text.OneLine l) :
    ∃ below, List.Forall₂ ShownBy rows below ∧
      Text.splitAtChar '\n' o.human.toList = (header :: below).map String.toList ++ [[]] := by
  refine ⟨rows.map line, List.forall₂_map_right_iff.2 (List.forall₂_same.2 fun r _ => shown r), ?_⟩
  rw [split_human, lines]
  -- What is left is that no line breaks.
  rw [lines, List.forall_mem_cons]
  refine ⟨above, fun l member => ?_⟩
  obtain ⟨r, listed, rfl⟩ := List.mem_map.1 member
  exact whole r listed _ (shown r)

/-- People see a header and one line for each domain, in order. -/
theorem split_domains {rows : List DomainRow}
    (whole : ∀ r ∈ rows, Text.OneLine r.name ∧ Text.OneLine r.uuid) :
    ∃ below, List.Forall₂ DomainRow.ShownBy rows below ∧
      Text.splitAtChar '\n' (domains rows).human.toList =
        ("   ID  NAME                  UUID" :: below).map String.toList ++ [[]] := by
  refine split_listing rfl (by decide) (fun r => ?_) fun r listed l shown =>
    shown.oneLine (whole r listed).1 (whole r listed).2
  have number : (r.id.map fun n => toString n.toInt).getD "-" = r.number := by
    unfold DomainRow.number
    cases r.id <;> rfl
  rw [number]
  exact ⟨_, _, Text.fills_replicate 5 _, Text.fills_replicate 20 _, rfl⟩

/-- People see a header and one line for each network, in order. -/
theorem split_networks {rows : List NetworkRow}
    (whole : ∀ r ∈ rows, Text.OneLine r.name ∧ Text.OneLine r.uuid) :
    ∃ below, List.Forall₂ NetworkRow.ShownBy rows below ∧
      Text.splitAtChar '\n' (networks rows).human.toList =
        ("NAME                  UUID" :: below).map String.toList ++ [[]] := by
  refine split_listing rfl (by decide) (fun r => ?_) fun r listed l shown =>
    shown.oneLine (whole r listed).1 (whole r listed).2
  exact ⟨_, Text.fills_replicate 20 _, rfl⟩

end Outcome

end Supervisor

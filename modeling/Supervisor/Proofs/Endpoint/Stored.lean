import Supervisor.Proofs.Endpoint.Address
import Supervisor.SettingsForm

/-!
# Addresses that were stored

An address that is written by a user is checked. One that is read from its stored form is not: the
form only asks for a text, and any text will do. What the buffer then holds depends on the length of
the text alone. One byte more than the check allows still finds its place, because the check keeps a
byte free for a terminator; behind that, a path is too long for the buffer and a name is left out of
it, so that all such names look the same.

## Main definitions

* `Address.StoredAs` - the values that store a text as an address
* `Address.Whole` - the buffer takes an address with all its bytes

## Main results

* `Address.load?_eq_some_iff` - every stored text is accepted
* `Address.whole_iff` - when the buffer takes an address
* `Address.whole_iff_of_load` - what is known of an address that was read
-/

namespace Supervisor.Address

/-- The values that store a text as an address: an object by its member `raw`, an array by its only
element. -/
inductive StoredAs (text : String) : Json → Prop where
  | object {members : List (String × Json)}
      (member : Json.member? "raw" members = some (.string text)) : StoredAs text (.object members)
  | array : StoredAs text (.array [.string text])

/-- The buffer takes an address with all its bytes: it is not empty, it is not longer than the system
allows, and it holds a path as it stands or a name behind a NUL. -/
structure Whole (a : Address) : Prop where
  ne_nil : a.socketBytes ≠ []
  length_le : a.socketBytes.length ≤ 108
  path : (∀ name, a.text ≠ "@" ++ name) → a.socketBytes = Text.utf8 a.text
  name : ∀ name, a.text = "@" ++ name → ∃ rest, a.socketBytes = 0 :: Text.utf8 name ++ rest

variable {text name : String} {a : Address} {v : Json}

theorem text?_eq_some_iff : Stored.text? v = some text ↔ v = .string text := by
  cases v <;> simp [Stored.text?]

/-- A group of one member is an object that has it or an array of nothing else. -/
theorem members?_singleton_iff {member : Json} :
    Stored.members? [name] v = some [member] ↔
      (∃ members, v = .object members ∧ Json.member? name members = some member) ∨
        v = .array [member] := by
  cases v with
  | object members =>
    cases found : Json.member? name members <;> simp [Stored.members?, found]
  | array elements =>
    simp only [Stored.members?, List.length_singleton]
    split
    · simp
    · next other =>
      refine iff_of_false nofun ?_
      rintro (⟨_, impossible, -⟩ | same)
      · cases impossible
      · cases same
        exact other rfl
  | _ => simp [Stored.members?]

/-- Every text that is stored in the right form is accepted. -/
theorem load?_eq_some_iff : load? v = some a ↔ StoredAs a.text v := by
  have members : load? v = some a ↔ Stored.members? ["raw"] v = some [.string a.text] := by
    simp only [load?, Option.bind_eq_bind, Option.bind_eq_some_iff]
    constructor
    · rintro ⟨members, found, given⟩
      split at given
      · obtain ⟨text, stored, made⟩ := Option.bind_eq_some_iff.1 given
        cases made
        rw [found, text?_eq_some_iff.1 stored]
      · cases given
    · intro found
      exact ⟨_, found, rfl⟩
  rw [members, members?_singleton_iff]
  constructor
  · rintro (⟨members, rfl, member⟩ | rfl)
    · exact .object member
    · exact .array
  · rintro (member | _)
    · exact .inl ⟨_, rfl, member⟩
    · exact .inr rfl

/-! ### What the buffer then holds -/

/-- A name that is too long is left out of the buffer. -/
theorem socketBytes_of_long_name (text : a.text = "@" ++ name) (long : 107 < Text.size name) :
    a.socketBytes = List.replicate 108 0 := by
  have chars : a.text.toList = '@' :: name.toList := by
    rw [text, String.toList_append]
    rfl
  have past : ¬ (name.toList.flatMap String.utf8EncodeChar).length + 1 ≤ capacity :=
    Nat.not_le.2 (Nat.succ_lt_succ long)
  unfold socketBytes
  simp only [chars, if_neg past]
  rfl

theorem whole_iff_of_path (path : a.isAbstract = false) :
    a.Whole ↔ 1 ≤ Text.size a.text ∧ Text.size a.text ≤ 108 := by
  have unmarked : ∀ name, a.text ≠ "@" ++ name := by
    intro name text
    exact Bool.false_ne_true (path.symm.trans (isAbstract_iff.2 ⟨name, text⟩))
  have bytes := socketBytes_of_path path
  constructor
  · rintro ⟨filled, le, -, -⟩
    rw [bytes] at filled le
    exact ⟨List.length_pos_iff.2 filled, le⟩
  · rintro ⟨pos, le⟩
    refine ⟨?_, bytes ▸ le, fun _ => bytes, fun name text => absurd text (unmarked name)⟩
    rw [bytes]
    exact List.length_pos_iff.1 pos

theorem whole_iff_of_name (text : a.text = "@" ++ name) : a.Whole ↔ Text.size name ≤ 107 := by
  constructor
  · intro whole
    -- A name that is too long is not there, so the buffer would have to be longer than it is.
    refine Nat.not_lt.1 fun long => ?_
    obtain ⟨rest, bytes⟩ := whole.name name text
    have length := congrArg List.length bytes
    rw [socketBytes_of_long_name text long, List.length_replicate, List.length_append,
      List.length_cons, ← Text.size] at length
    omega
  · intro short
    have bytes := socketBytes_of_name text short
    refine ⟨?_, ?_, fun unmarked => absurd text (unmarked name), ?_⟩
    · rw [bytes]
      exact List.cons_ne_nil _ _
    · rw [bytes, List.length_append, List.length_cons, List.length_replicate, ← Text.size]
      omega
    · intro name' text'
      have same : name' = name := (String.append_right_inj "@").1 (text'.symm.trans text)
      rw [same]
      exact ⟨_, bytes⟩

/-- The buffer takes an address exactly if it is neither empty nor longer than the buffer. -/
theorem whole_iff : a.Whole ↔ 1 ≤ Text.size a.text ∧ Text.size a.text ≤ 108 := by
  cases kind : a.isAbstract with
  | false => exact whole_iff_of_path kind
  | true =>
    obtain ⟨name, text⟩ := isAbstract_iff.1 kind
    have size : Text.size a.text = 1 + Text.size name := by
      rw [text, Text.size_append]
      rfl
    rw [whole_iff_of_name text, size]
    omega

/-- Every text is accepted as a stored address, whatever it is. An address that was read is one that
the check accepts exactly if its text takes 1 to 107 bytes and holds no NUL; the buffer takes it with
all its bytes exactly if the text takes 1 to 108 bytes, and holds nothing but zeros if it is a name
that takes more. An address that was checked is always taken with all its bytes. -/
theorem whole_iff_of_load (v : Json) (a : Address) :
    (load? v = some a ↔ StoredAs a.text v) ∧
    (load? v = some a →
      ((∃ b, check a.text = .ok b) ↔
        1 ≤ Text.size a.text ∧ Text.size a.text ≤ 107 ∧ 0 ∉ Text.utf8 a.text) ∧
      (a.Whole ↔ 1 ≤ Text.size a.text ∧ Text.size a.text ≤ 108) ∧
      ∀ name, a.text = "@" ++ name → 107 < Text.size name →
        a.socketBytes = List.replicate 108 0) ∧
    ∀ text, check text = .ok a → a.Whole := by
  refine ⟨load?_eq_some_iff, ?_, ?_⟩
  · intro _
    exact ⟨exists_check_iff, whole_iff, fun name => socketBytes_of_long_name⟩
  · intro text accepted
    obtain ⟨fits, rfl⟩ := check_eq_ok_iff.1 accepted
    exact whole_iff.2 ⟨fits.pos, Nat.le_succ_of_le fits.le⟩

/-- A path that leaves no byte for the terminator is refused where addresses are checked, and taken
whole where it was stored as an array. -/
theorem whole_iff_of_load_full :
    let full : Address := ⟨"/" ++ String.ofList (List.replicate 107 'a')⟩
    let short : Address := ⟨"@a"⟩
    load? (.array [.string full.text]) = some full ∧ (¬ ∃ b, check full.text = .ok b) ∧
      full.Whole ∧ check "@a" = .ok short ∧ short.Whole := by
  intro full short
  obtain ⟨loads, holds, -⟩ := whole_iff_of_load (.array [.string full.text]) full
  obtain ⟨-, -, checked⟩ := whole_iff_of_load .null short
  have loaded : load? (.array [.string full.text]) = some full := loads.2 .array
  have size : Text.size full.text = 108 := (Text.size_append _ _).trans
    (congrArg (_ + ·) (Text.size_ofList_replicate 107 'a'))
  obtain ⟨accepted, whole, -⟩ := holds loaded
  have ok : check "@a" = .ok short :=
    check_eq_ok_iff.2 ⟨⟨by decide +kernel, by decide +kernel, by decide +kernel⟩, rfl⟩
  refine ⟨loaded, ?_, whole.2 (by rw [size]; decide), ok, checked "@a" ok⟩
  intro given
  exact absurd (accepted.1 given).2.1 (by rw [size]; decide)

/-- A name that is one byte too long is accepted where it was stored, and the buffer holds nothing of
it: another such name looks the same. -/
theorem lost_name_of_load :
    let long : Address := ⟨"@" ++ String.ofList (List.replicate 108 'a')⟩
    let other : Address := ⟨"@" ++ String.ofList (List.replicate 108 'b')⟩
    load? (.object [("raw", .string long.text)]) = some long ∧ (¬ ∃ b, check long.text = .ok b) ∧
      ¬ long.Whole ∧ load? (.object [("raw", .string other.text)]) = some other ∧
      long ≠ other ∧ long.socketBytes = other.socketBytes := by
  intro long other
  have loaded : ∀ a : Address, load? (.object [("raw", .string a.text)]) = some a :=
    fun a => load?_eq_some_iff.2 (.object (by simp [Json.member?]))
  have size : 107 < Text.size (String.ofList (List.replicate 108 'a')) := by
    rw [Text.size_ofList_replicate]
    decide
  have size' : 107 < Text.size (String.ofList (List.replicate 108 'b')) := by
    rw [Text.size_ofList_replicate]
    decide
  refine ⟨loaded long, ?_, mt (whole_iff_of_name (a := long) rfl).1 (Nat.not_le.2 size),
    loaded other, ?_, ?_⟩
  · rintro ⟨b, accepted⟩
    exact absurd (check_eq_ok_iff.1 accepted).1.size_name (Nat.not_le.2 size)
  · intro same
    have names := String.ofList_inj.1 ((String.append_right_inj "@").1 (congrArg Address.text same))
    exact absurd (congrArg List.head? names) (by decide)
  · rw [socketBytes_of_long_name (a := long) rfl size,
      socketBytes_of_long_name (a := other) rfl size']

end Supervisor.Address

import Supervisor.Endpoint.Selector
import Supervisor.Proofs.Text.Lossy

/-!
# What the buffer for an address holds

An accepted address can be read back from the buffer. A path holds no NUL, so the NUL in front tells
a name from a path, and the zeros behind a name do not belong to it. No accepted address is cut: the
bound is the same for both kinds, because the marker of a name takes the byte that the terminator of
a path takes.

## Main definitions

* `Address.Fits` - the texts that are accepted
* `Address.Held` - what the buffer holds of an address

## Main results

* `Address.check_eq_ok_iff` - which texts are accepted
* `Address.socketBytes_injective_of_fits` - accepted addresses are told apart by the buffer
* `Scope.address_session` - where the daemon of a user listens
* `Address.faithful_of_check` - all of it in one statement
-/

namespace Supervisor

namespace Text

/-- Zeros behind bytes that hold none do not belong to them. -/
theorem eq_of_append_zeros {xs ys : List UInt8} {m n : Nat} (noNul : 0 ∉ xs) (noNul' : 0 ∉ ys)
    (same : xs ++ List.replicate m 0 = ys ++ List.replicate n 0) : xs = ys := by
  -- Both are what stands before the first zero.
  have before : ∀ (zs : List UInt8) (k : Nat), 0 ∉ zs →
      (zs ++ List.replicate k 0).takeWhile (· ≠ 0) = zs := by
    intro zs k noNul
    have whole : ∀ b ∈ zs, decide (b ≠ 0) = true := by
      intro b member
      exact decide_eq_true fun isNul => noNul (isNul ▸ member)
    rw [List.takeWhile_append_of_pos whole]
    cases k <;> simp
  rw [← before xs m noNul, same, before ys n noNul']

end Text

namespace Address

/-- A text that is accepted as an address: it takes at most one byte less than the buffer has, and it
is neither empty nor holds a NUL. -/
structure Fits (text : String) : Prop where
  pos : 1 ≤ Text.size text
  le : Text.size text ≤ 107
  noNul : 0 ∉ Text.utf8 text

variable {text name : String} {a b : Address}

theorem check_eq_ok_iff : check text = .ok a ↔ Fits text ∧ a = ⟨text⟩ := by
  unfold check
  by_cases empty : text = ""
  · rw [if_pos empty]
    refine iff_of_false nofun ?_
    rintro ⟨fits, -⟩
    exact absurd (Text.size_eq_zero_iff.2 empty) (Nat.one_le_iff_ne_zero.1 fits.pos)
  · rw [if_neg empty]
    have pos : 1 ≤ Text.size text := Nat.one_le_iff_ne_zero.2 (mt Text.size_eq_zero_iff.1 empty)
    by_cases long : capacity ≤ Text.size text
    · rw [if_pos long]
      refine iff_of_false nofun ?_
      rintro ⟨fits, -⟩
      exact absurd fits.le (Nat.not_le.2 long)
    · rw [if_neg long]
      by_cases nul : 0 ∈ Text.utf8 text
      · rw [if_pos nul]
        refine iff_of_false nofun ?_
        rintro ⟨fits, -⟩
        exact fits.noNul nul
      · rw [if_neg nul, Except.ok.injEq]
        have fits : Fits text := ⟨pos, Nat.le_of_lt_succ (Nat.not_le.1 long), nul⟩
        exact ⟨fun same => ⟨fits, same.symm⟩, fun gave => gave.2.symm⟩

theorem exists_check_iff :
    (∃ a, check text = .ok a) ↔
      1 ≤ Text.size text ∧ Text.size text ≤ 107 ∧ 0 ∉ Text.utf8 text := by
  constructor
  · rintro ⟨a, accepted⟩
    obtain ⟨⟨pos, le, noNul⟩, -⟩ := check_eq_ok_iff.1 accepted
    exact ⟨pos, le, noNul⟩
  · rintro ⟨pos, le, noNul⟩
    exact ⟨⟨text⟩, check_eq_ok_iff.2 ⟨⟨pos, le, noNul⟩, rfl⟩⟩

/-- The text of an address that is no path starts with the marker. -/
theorem isAbstract_iff : a.isAbstract = true ↔ ∃ name, a.text = "@" ++ name := by
  unfold isAbstract
  rw [decide_eq_true_iff]
  constructor
  · intro first
    obtain ⟨cs, chars⟩ := List.head?_eq_some_iff.1 first
    refine ⟨String.ofList cs, String.toList_injective ?_⟩
    rw [chars, String.toList_append, String.toList_ofList, String.toList_ofList]
    rfl
  · rintro ⟨name, text⟩
    rw [text, String.toList_append]
    rfl

theorem socketBytes_of_path (path : a.isAbstract = false) : a.socketBytes = Text.utf8 a.text := by
  unfold socketBytes
  split
  · next name chars =>
    unfold isAbstract at path
    rw [chars] at path
    exact absurd rfl (of_decide_eq_false path)
  · rfl

/-- A name that is not too long stands whole in the buffer. -/
theorem socketBytes_of_name (text : a.text = "@" ++ name) (short : Text.size name ≤ 107) :
    a.socketBytes = 0 :: Text.utf8 name ++ List.replicate (107 - Text.size name) 0 := by
  have chars : a.text.toList = '@' :: name.toList := by
    rw [text, String.toList_append]
    rfl
  have room : (name.toList.flatMap String.utf8EncodeChar).length + 1 ≤ capacity :=
    Nat.le_trans (Nat.succ_le_succ short) (by decide)
  unfold socketBytes
  simp only [chars, if_pos room]
  rfl

theorem Fits.size_name (fits : Fits ("@" ++ name)) : Text.size name ≤ 107 := by
  have le := fits.le
  rw [Text.size_append, show Text.size "@" = 1 by decide +kernel] at le
  omega

theorem Fits.noNul_name (fits : Fits ("@" ++ name)) : 0 ∉ Text.utf8 name := by
  intro nul
  apply fits.noNul
  rw [Text.utf8_append]
  exact List.mem_append_right _ nul

/-- Accepted addresses are told apart by what the buffer holds. -/
theorem socketBytes_injective_of_fits (fits : Fits a.text) (fits' : Fits b.text)
    (same : a.socketBytes = b.socketBytes) : a.text = b.text := by
  -- A NUL in front belongs to a name: it cannot be the first byte of a path.
  have mixed : ∀ {a b : Address}, Fits a.text → Fits b.text → a.isAbstract = true →
      b.isAbstract = false → a.socketBytes ≠ b.socketBytes := by
    intro a b fits fits' named path same
    obtain ⟨name, text⟩ := isAbstract_iff.1 named
    rw [socketBytes_of_name text (text ▸ fits).size_name, socketBytes_of_path path] at same
    apply fits'.noNul
    rw [← same]
    exact List.mem_cons_self
  cases kind : a.isAbstract with
  | false =>
    cases kind' : b.isAbstract with
    | false =>
      rw [socketBytes_of_path kind, socketBytes_of_path kind'] at same
      exact Text.utf8_injective same
    | true => exact absurd same.symm (mixed fits' fits kind' kind)
  | true =>
    cases kind' : b.isAbstract with
    | false => exact absurd same (mixed fits fits' kind kind')
    | true =>
      obtain ⟨name, text⟩ := isAbstract_iff.1 kind
      obtain ⟨name', text'⟩ := isAbstract_iff.1 kind'
      rw [text] at fits
      rw [text'] at fits'
      rw [socketBytes_of_name text fits.size_name, socketBytes_of_name text' fits'.size_name] at same
      have names : name = name' := Text.utf8_injective
        (Text.eq_of_append_zeros fits.noNul_name fits'.noNul_name (List.tail_eq_of_cons_eq same))
      rw [text, text', names]

/-- What the buffer holds of an address: a path as it stands, with a byte left for its terminator,
or a NUL, the whole name behind the marker, and zeros up to the end. -/
structure Held (a : Address) : Prop where
  path : (∀ name, a.text ≠ "@" ++ name) →
    a.socketBytes = Text.utf8 a.text ∧ a.socketBytes.length < 108
  name : ∀ name, a.text = "@" ++ name → a.socketBytes.length = 108 ∧
    a.socketBytes = 0 :: Text.utf8 name ++ List.replicate (107 - Text.size name) 0

theorem Fits.held (fits : Fits a.text) : a.Held where
  path unmarked := by
    have path : a.isAbstract = false := by
      rw [Bool.eq_false_iff, ne_eq, isAbstract_iff]
      rintro ⟨name, text⟩
      exact unmarked name text
    have bytes := socketBytes_of_path path
    refine ⟨bytes, ?_⟩
    rw [bytes]
    exact Nat.lt_succ_of_le fits.le
  name name text := by
    rw [text] at fits
    have short := fits.size_name
    have bytes := socketBytes_of_name text short
    refine ⟨?_, bytes⟩
    rw [bytes, List.length_append, List.length_cons, List.length_replicate, ← Text.size]
    omega

end Address

namespace Scope

/-- What stands between a directory and a path below it: a slash, unless the directory is empty or
ends with one. -/
def joint (directory : String) : String :=
  if directory = "" ∨ directory.toList.getLast? = some '/' then "" else "/"

theorem below_eq (directory path : String) :
    below directory path = directory ++ joint directory ++ path := by
  unfold below joint
  split
  · rw [String.append_empty]
  · rfl

/-- The address of the daemon of a user is the whole path below the home directory, or there is none
because that is too long. -/
theorem address_session {home text : String} (noNul : 0 ∉ Text.utf8 home) (access : Access)
    (whole : text = "@" ++ home ++ joint home ++ ".qemud/sock") :
    address (.ok home) .session access =
      if Text.size text ≤ 107 then .ok ⟨text⟩ else .error (.addressTooLong (Text.size text) 107) := by
  -- Nothing but the length can be wrong: the marker is there, and no part holds a NUL.
  have marked : 0 ∉ Text.utf8 text := by
    have joint : 0 ∉ Text.utf8 (joint home) := by
      unfold Scope.joint
      split <;> decide +kernel
    have marker : 0 ∉ Text.utf8 "@" := by decide +kernel
    have socket : 0 ∉ Text.utf8 ".qemud/sock" := by decide +kernel
    simp only [whole, Text.utf8_append, List.mem_append, marker, noNul, joint, socket, or_self,
      not_false_iff]
  have pos : Text.size text ≠ 0 := by
    rw [whole, Text.size_append, show Text.size ".qemud/sock" = 11 by decide +kernel]
    omega
  have checked : address (.ok home) .session access = Address.check text := by
    have joined : text = "@" ++ below home ".qemud/sock" := by
      rw [whole, below_eq]
      simp only [String.append_assoc]
    rw [joined]
    rfl
  rw [checked]
  split
  · next short => exact Address.check_eq_ok_iff.2 ⟨⟨Nat.one_le_iff_ne_zero.2 pos, short, marked⟩, rfl⟩
  · next long =>
    have full : Address.capacity ≤ Text.size text := Nat.not_le.1 long
    unfold Address.check
    rw [if_neg (mt Text.size_eq_zero_iff.2 pos), if_pos full]
    rfl

end Scope

namespace Address

/-- A text is accepted as an address exactly if it takes 1 to 107 bytes and holds no NUL. The buffer
then holds all of it, and addresses are told apart by what it holds. The daemon of a user listens at
the whole path below the home directory, whatever the access, unless that is too long for the
buffer. -/
theorem faithful_of_check :
    (∀ text, (∃ a, check text = .ok a) ↔
      1 ≤ Text.size text ∧ Text.size text ≤ 107 ∧ 0 ∉ Text.utf8 text) ∧
    (∀ text a, check text = .ok a → a.text = text ∧ a.Held) ∧
    (∀ s t a b, check s = .ok a → check t = .ok b → (a.socketBytes = b.socketBytes ↔ s = t)) ∧
    ∀ home access, 0 ∉ Text.utf8 home →
      let text := "@" ++ home ++ Scope.joint home ++ ".qemud/sock"
      Scope.address (.ok home) .session access = .ok ⟨text⟩ ∧ Text.size text ≤ 107 ∨
        Scope.address (.ok home) .session access = .error (.addressTooLong (Text.size text) 107) ∧
          107 < Text.size text := by
  refine ⟨fun text => exists_check_iff, ?_, ?_, ?_⟩
  · intro text a accepted
    obtain ⟨fits, rfl⟩ := check_eq_ok_iff.1 accepted
    exact ⟨rfl, Fits.held fits⟩
  · intro s t a b accepted accepted'
    obtain ⟨fits, rfl⟩ := check_eq_ok_iff.1 accepted
    obtain ⟨fits', rfl⟩ := check_eq_ok_iff.1 accepted'
    exact ⟨socketBytes_injective_of_fits fits fits', fun same => same ▸ rfl⟩
  · intro home access noNul text
    have address : Scope.address (.ok home) .session access =
        if Text.size text ≤ 107 then .ok ⟨text⟩ else .error (.addressTooLong (Text.size text) 107) :=
      Scope.address_session noNul access rfl
    by_cases short : Text.size text ≤ 107
    · rw [if_pos short] at address
      exact .inl ⟨address, short⟩
    · rw [if_neg short] at address
      exact .inr ⟨address, Nat.not_le.1 short⟩

/-- A name of one byte and one of a hundred, a path that is one byte too long for the buffer, and
the address below a home directory. -/
theorem faithful_of_short_names :
    (∀ a b, check "@a" = .ok a → check "@b" = .ok b → a.socketBytes ≠ b.socketBytes) ∧
    (∃ a, check ("@" ++ String.ofList (List.replicate 106 'a')) = .ok a ∧
      a.socketBytes.length = 108) ∧
    (¬ ∃ a, check ("/" ++ String.ofList (List.replicate 107 'a')) = .ok a) ∧
    Scope.address (.ok "/root") .session .readOnly = .ok ⟨"@/root/.qemud/sock"⟩ := by
  obtain ⟨accepts, holds, apart, user⟩ := faithful_of_check
  refine ⟨?_, ?_, ?_, ?_⟩
  · intro a b accepted accepted' same
    exact absurd ((apart _ _ a b accepted accepted').1 same) (by decide)
  · obtain ⟨a, accepted⟩ := (accepts ("@" ++ String.ofList (List.replicate 106 'a'))).2
      (by decide +kernel)
    obtain ⟨text, held⟩ := holds _ a accepted
    exact ⟨a, accepted, (held.name _ text).1⟩
  · rw [accepts]
    decide +kernel
  · rcases user "/root" .readOnly (by decide +kernel) with ⟨opened, -⟩ | ⟨-, long⟩
    · exact opened
    · exact absurd long (by decide +kernel)

end Address

end Supervisor

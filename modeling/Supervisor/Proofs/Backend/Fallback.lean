import Mathlib.Data.List.TakeDrop
import Supervisor.Proofs.Backend.Opening

/-!
# Which identifiers are replaced

A session for networks is opened with the usual daemon if the given identifier is not one of the
backend. An identifier that says `qemu` before its first colon is one of the backend unless its host
or port is malformed. A malformed one is replaced like one of somebody else, and then the session is
with a daemon that the identifier does not name.

## Main definitions

* `Uri.Cut` - an identifier cut at its first colon
* `Uri.HostError` - what can be wrong with a host and its port
* `Opened.Follows` - a session is with the daemon that an identifier names

## Main results

* `Uri.parse_of_cut` - the scheme of an identifier is what precedes its first colon
* `Uri.hostError_of_parse` - what can be wrong with an identifier of the scheme
* `Backend.follows_connect` - a session follows the identifier that it is opened with
* `Backend.networkSession_of_cut` - when a session for networks follows the given one
-/

namespace Supervisor

/-! ### Schemes -/

namespace Text

theorem isAlpha_of_lowerChar {c : Char} (letter : (lowerChar c).isAlpha = true) :
    c.isAlpha = true := by
  unfold lowerChar at letter
  split at letter
  · next capital =>
    have upper : c.isUpper = true := decide_eq_true capital
    exact Bool.or_eq_true_iff.2 (.inl upper)
  · exact letter

/-- Texts that differ in the case of letters only are as long, letter by letter. -/
theorem map_lowerChar_of_equalFold {s t : String} (same : equalFold s t = true) :
    s.toList.map lowerChar = t.toList.map lowerChar :=
  String.ofList_injective (beq_iff_eq.1 same)

end Text

namespace Uri

/-- An identifier cut at its first colon. Only what is significant of it counts. -/
structure Cut (uri part : String) (rest : List Char) : Prop where
  text : significant uri = part.toList ++ ':' :: rest
  first : ':' ∉ part.toList

/-- Letters in front of a colon are a scheme. -/
theorem cutScheme_of_letters {c : Char} {cs rest : List Char}
    (letters : ∀ d ∈ c :: cs, d.isAlpha = true) :
    cutScheme (c :: cs ++ ':' :: rest) =
      some (String.ofList ((c :: cs).map Text.lowerChar), rest) := by
  have inScheme : ∀ d ∈ c :: cs, isSchemeChar d = true := by
    intro d member
    simp [isSchemeChar, letters d member]
  have cut : (c :: cs ++ ':' :: rest).span isSchemeChar = (c :: cs, ':' :: rest) := by
    rw [List.span_eq_takeWhile_dropWhile, List.takeWhile_append_of_pos inScheme,
      List.dropWhile_append_of_pos inScheme]
    simp [isSchemeChar]
  unfold cutScheme
  rw [cut]
  exact if_pos (letters c List.mem_cons_self)

variable {uri part : String} {rest : List Char}

/-- An identifier that says `qemu` before its first colon, in any letter case, has that scheme. -/
theorem parse_of_cut (cut : Cut uri part rest)
    (own : Text.equalFold part Supervisor.scheme = true) :
    parse uri = parseOther Supervisor.scheme rest := by
  have folded := Text.map_lowerChar_of_equalFold own
  have letters : ∀ d ∈ part.toList, d.isAlpha = true := by
    intro d member
    apply Text.isAlpha_of_lowerChar
    have lower : (Supervisor.scheme.toList.map Text.lowerChar).all Char.isAlpha = true := by
      decide +kernel
    apply List.all_eq_true.1 lower
    rw [← folded]
    exact List.mem_map_of_mem member
  cases chars : part.toList with
  | nil =>
    rw [chars] at folded
    cases folded
  | cons c cs =>
    rw [chars] at letters folded
    have scheme : cutScheme (significant uri) = some (Supervisor.scheme, rest) := by
      rw [cut.text, chars, cutScheme_of_letters letters, folded]
      rfl
    unfold parse
    rw [scheme]
    rfl

theorem scheme_of_cut {u : Uri} (cut : Cut uri part rest)
    (own : Text.equalFold part Supervisor.scheme = true) (read : parse uri = .ok u) :
    u.scheme = Supervisor.scheme := by
  rw [parse_of_cut cut own] at read
  unfold parseOther at read
  split at read
  · simp only [bind, Except.bind, pure, Except.pure] at read
    split at read <;> cases read
    rfl
  · cases read
    rfl
  · cases read
    rfl

/-! ### Malformed identifiers -/

/-- What can be wrong with a host and its port where the scheme is not one of the web. -/
inductive HostError : Error → Prop
  | empty : HostError .emptyHost
  | port : HostError .invalidPort
  | ipv6 : HostError .invalidIpv6
  | character : HostError .invalidHostCharacter

theorem hostError_of_checkHost {cs : List Char} {e : Error} (failed : checkHost cs = .error e) :
    HostError e := by
  unfold checkHost at failed
  split at failed
  · split at failed
    · split at failed
      · cases failed
      · cases failed
        exact .ipv6
    · cases failed
      exact .ipv6
  · split at failed
    · cases failed
      exact .character
    · cases failed

theorem hostError_of_authority {part rest : List Char} {e : Error}
    (failed : authority .other part rest = .error e) : HostError e := by
  have notWeb : Family.other ≠ .web := nofun
  simp only [authority, bind, Except.bind, pure, Except.pure, throw, throwThe,
    MonadExceptOf.throw, notWeb, false_and, if_false] at failed
  split at failed
  · cases failed
    exact .empty
  · split at failed
    · next checked =>
      cases failed
      exact hostError_of_checkHost checked
    · -- The host is fine; the port and the user remain.
      split_ifs at failed <;> cases failed
      · exact .empty
      · exact .port
      · exact .empty

/-- If an identifier of the scheme cannot be read, two slashes follow its colon, and the host or the
port behind them is malformed. -/
theorem hostError_of_parse {e : Error} (cut : Cut uri part rest)
    (own : Text.equalFold part Supervisor.scheme = true) (failed : parse uri = .error e) :
    HostError e ∧ ∃ cs, rest = '/' :: '/' :: cs := by
  rw [parse_of_cut cut own] at failed
  unfold parseOther at failed
  split at failed
  · next cs =>
    refine ⟨?_, cs, rfl⟩
    simp only [bind, Except.bind, pure, Except.pure] at failed
    split at failed
    · next wrong =>
      cases failed
      exact hostError_of_authority wrong
    · cases failed
  · cases failed
  · cases failed

end Uri

variable {σ : Type}

/-- A session, if one was opened, is with the daemon that an identifier names. -/
def Opened.Follows (o : Opened σ) (m : Machine σ) (uri : String) (access : Access) : Prop :=
  ∀ s, o.outcome = .ok s →
    ∃ scope, Scope.ofUri uri = .ok scope ∧ scope.address m.home access = .ok s.address

/-- A machine of the superuser where somebody answers at every address. -/
def Machine.hospitable : Machine Unit :=
  ⟨⟨0, .ok (some (Text.utf8 "/root"))⟩, fun _ _ => .ok (.toPeer ()),
    fun _ => (.error (.notFound []), [])⟩

namespace Backend

variable {m : Machine σ} {retry : Retry} {sink : Sink} {uri part : String} {rest : List Char}
  {flags : OpenFlags}

theorem Establishes.follows {o : Opened σ} (establishes : Establishes m retry sink uri flags o) :
    o.Follows m uri flags.access := by
  intro s opened
  cases establishes with
  | unread | unaddressed | unreachable => cases opened
  | opened read located =>
    cases opened
    exact ⟨_, read, located⟩

/-- A session follows the identifier that it is opened with. -/
theorem follows_connect : (connect m retry sink uri flags).Follows m uri flags.access := by
  intro s opened
  rw [connect_outcome] at opened
  exact (establishes m retry sink uri flags).follows s opened

/-- Nothing but a lack of sessions follows an identifier that cannot be read. -/
theorem follows_iff_of_not_isOwn {o : Opened σ} {access : Access} (foreign : ¬ Uri.IsOwn uri) :
    o.Follows m uri access ↔ ∀ s, o.outcome ≠ .ok s := by
  constructor
  · intro follows s opened
    obtain ⟨scope, read, -⟩ := follows s opened
    exact Scope.not_unrecognised_of_ok read (Scope.unrecognised_iff.2 foreign)
  · intro closed s opened
    exact absurd opened (closed s)

/-- For networks an identifier that says `qemu` before its first colon is opened as it is, unless it
cannot be read: then its host or its port is malformed, and the usual identifier is opened in its
place. So the session is with the daemon that the identifier names, unless the identifier is malformed
and the usual daemon answers. -/
theorem networkSession_of_cut (m : Machine σ) (retry : Retry) (sink : Sink) (flags : OpenFlags)
    (cut : Uri.Cut uri part rest) (own : Text.equalFold part Supervisor.scheme = true) :
    let b := supervisor m retry sink
    (∀ u, Uri.parse uri = .ok u →
      b.networkSession (some uri) flags = b.session uri flags ∧
        (b.networkSession (some uri) flags).Follows m uri flags.access) ∧
    ∀ e, Uri.parse uri = .error e →
      (Uri.HostError e ∧ ∃ cs, rest = '/' :: '/' :: cs) ∧
      b.networkSession (some uri) flags = b.session (defaultUri m.superuser) flags ∧
        ((b.networkSession (some uri) flags).Follows m uri flags.access ↔
          ∀ s, (b.session (defaultUri m.superuser) flags).outcome ≠ .ok s) := by
  intro b
  constructor
  · intro u read
    have named : Uri.IsOwn uri := ⟨u, read, Uri.scheme_of_cut cut own read⟩
    have kept : b.networkSession (some uri) flags = b.session uri flags := by
      simp only [b, supervisor, networkUri_some, if_pos named]
    rw [kept]
    exact ⟨rfl, follows_connect⟩
  · intro e failed
    have foreign := Uri.not_isOwn_of_read failed
    have replaced : b.networkSession (some uri) flags = b.session (defaultUri m.superuser) flags := by
      simp only [b, supervisor, networkUri_some, if_neg foreign]
    rw [replaced]
    exact ⟨Uri.hostError_of_parse cut own failed, rfl, follows_iff_of_not_isOwn foreign⟩

/-- In capital letters the identifier of the daemon of the user is opened as it is. -/
theorem networkSession_of_capitals :
    ((supervisor Machine.hospitable .default .keep).networkSession (some "QEMU:///session")
      ⟨false, false⟩).Follows .hospitable "QEMU:///session" .readWrite := by
  have cut : Uri.Cut "QEMU:///session" "QEMU" "///session".toList :=
    ⟨by decide +kernel, by decide +kernel⟩
  have named : Uri.IsOwn "QEMU:///session" := by decide +kernel
  obtain ⟨u, read, -⟩ := named
  exact ((networkSession_of_cut .hospitable .default .keep ⟨false, false⟩ cut
    (by decide +kernel)).1 u read).2

/-- An identifier with a port that is no number. The superuser who opens it for networks gets a
session with the daemon of the system, though the identifier names no daemon. -/
theorem replaced_malformed_port :
    let o := (supervisor Machine.hospitable .default .keep).networkSession
      (some "qemu://h:x/system") ⟨false, false⟩
    Uri.Cut "qemu://h:x/system" "qemu" "//h:x/system".toList ∧
      (∃ s, o.outcome = .ok s ∧ s.address = ⟨systemSocket⟩) ∧
      ¬ o.Follows .hospitable "qemu://h:x/system" .readWrite := by
  intro o
  have foreign : ¬ Uri.IsOwn "qemu://h:x/system" := by decide +kernel
  have located : o.outcome.toOption.map Session.address = some ⟨systemSocket⟩ := by decide +kernel
  cases opened : o.outcome with
  | error e =>
    rw [opened] at located
    cases located
  | ok s =>
    rw [opened] at located
    refine ⟨⟨by decide +kernel, by decide +kernel⟩, ⟨s, rfl, Option.some.inj located⟩, ?_⟩
    intro follows
    exact (follows_iff_of_not_isOwn foreign).1 follows s opened

end Backend

end Supervisor

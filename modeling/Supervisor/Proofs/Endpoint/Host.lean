import Supervisor.Proofs.Backend.Fallback

/-!
# Identifiers that name a host

Only local daemons can be reached, so an identifier that names a host has to be refused, whatever
its path says. Behind the two slashes stands an authority: a user up to its last at sign, then a
host and a port. If anything is left behind the user, it is malformed or gives a host with a name,
and neither is a daemon of this machine. What is left to name one is an authority that is empty, or
that consists of an empty user with an empty password.

## Main definitions

* `Uri.HasAuthority` - an identifier of the backend cut around its authority
* `Uri.Sides` - an authority cut at its last at sign

## Main results

* `Uri.parse_of_authority` - the authority decides about the host, what follows it about the path
* `Uri.named_of_sides`, `Uri.anonymous_of_sides` - when a host is read off an authority, and when
  none is
* `Scope.refused_of_host` - an identifier that names a host is refused
-/

namespace Supervisor

namespace Uri

/-- An identifier of the backend whose scheme two slashes follow, cut before and behind its
authority: that ends at the next slash, question mark or number sign. -/
structure HasAuthority (uri : String) (part rest : List Char) : Prop where
  cut : ∃ scheme, Cut uri scheme ('/' :: '/' :: (part ++ rest)) ∧
    Text.equalFold scheme Supervisor.scheme = true
  inside : ∀ c ∈ part, c ≠ '/' ∧ c ≠ '?' ∧ c ≠ '#'
  behind : ∀ c, rest.head? = some c → c = '/' ∨ c = '?' ∨ c = '#'

/-- An authority with what precedes its last at sign, if there is one, and what follows it. -/
inductive Sides : (part : List Char) → (user : Option (List Char)) → (host : List Char) → Prop
  | anonymous {host : List Char} (plain : '@' ∉ host) : Sides host none host
  | user {user host : List Char} (last : '@' ∉ host) : Sides (user ++ '@' :: host) (some user) host

variable {uri : String} {part rest host : List Char} {user : Option (List Char)}

/-! ### Reading around the authority -/

theorem HasAuthority.span (names : HasAuthority uri part rest) :
    (part ++ rest).span (!endsAuthority .other ·) = (part, rest) := by
  have inside : ∀ c ∈ part, (!endsAuthority .other c) = true := by
    intro c member
    obtain ⟨slash, query, fragment⟩ := names.inside c member
    simp [endsAuthority, slash, query, fragment]
  rw [List.span_eq_takeWhile_dropWhile, List.takeWhile_append_of_pos inside,
    List.dropWhile_append_of_pos inside]
  cases rest with
  | nil => simp
  | cons c cs =>
    have ends : (!endsAuthority .other c) = false := by
      rcases names.behind c rfl with rfl | rfl | rfl <;> rfl
    simp [ends]

/-- The host of an identifier is read off its authority, and the path off what follows. -/
theorem parse_of_authority (names : HasAuthority uri part rest) :
    parse uri = (authority .other part rest).map
      fun host => ⟨Supervisor.scheme, host, pathAfterHost rest⟩ := by
  obtain ⟨scheme, cut, own⟩ := names.cut
  rw [parse_of_cut cut own]
  simp only [parseOther, names.span]
  cases authority .other part rest <;> rfl

/-! ### Reading the authority -/

/-- An authority is cut at its last at sign. -/
theorem cutUser_of_sides (sides : Sides part user host) :
    ((cutUser part).map fun (u, p) => (some u, p)).getD (none, part) = (user, host) := by
  unfold cutUser
  cases sides with
  | anonymous plain => simp [plain]
  | @user user _ last =>
    have plain : ∀ c ∈ host.reverse, decide (c ≠ '@') = true := by
      intro c member
      refine decide_eq_true fun same => last ?_
      rw [← same]
      exact List.mem_reverse.1 member
    -- The host is read from the end, and the at sign before it belongs to neither side.
    have behind : ((user ++ '@' :: host).reverse.takeWhile (· ≠ '@')).reverse = host := by
      rw [List.reverse_append, List.reverse_cons, List.append_assoc,
        List.takeWhile_append_of_pos plain]
      simp
    have front : (user ++ '@' :: host).length - host.length = (user ++ ['@']).length := by
      simp only [List.length_append, List.length_cons, List.length_nil]
      omega
    have before : ((user ++ '@' :: host).take ((user ++ '@' :: host).length - host.length)).dropLast =
        user := by
      rw [front, List.append_cons user '@' host, List.take_left, List.dropLast_concat]
    simp only [List.contains_eq_mem, List.mem_append, List.mem_cons, true_or, or_true, decide_true,
      if_true, behind, before]
    rfl

/-- What is cut off a host is its port. -/
theorem cutHost_append (inside : Bool) (cs : List Char) :
    (cutHost inside cs).1 ++ (cutHost inside cs).2 = cs := by
  induction cs generalizing inside with
  | nil => rfl
  | cons c cs ih =>
    unfold cutHost
    split
    · rfl
    · exact congrArg (c :: ·) (ih _)

/-- A host with a character has a name. -/
theorem ne_empty_of_checkHost {cs : List Char} {text : String} (ne : cs ≠ [])
    (checked : checkHost cs = .ok text) : text ≠ "" := by
  unfold checkHost at checked
  split at checked
  · -- An address stands in its brackets.
    split at checked
    · split at checked
      · cases checked
        simp
      · cases checked
    · cases checked
  · split at checked
    · cases checked
    · cases checked
      obtain ⟨c, cs, rfl⟩ := List.exists_cons_of_ne_nil ne
      have first : (if isControl c then (String.utf8EncodeChar c).flatMap percentByte else [c]) ≠ [] := by
        split
        · obtain ⟨b, bs, bytes⟩ := List.exists_cons_of_ne_nil (String.utf8EncodeChar_ne_nil (c := c))
          simp [bytes, percentByte]
        · exact List.cons_ne_nil _ _
      intro empty
      have none := congrArg String.toList empty
      rw [String.toList_ofList, encodeWith, List.flatMap_cons] at none
      exact first (List.append_eq_nil_iff.1 none).1

/-- What is read off an authority with a host: a name. -/
theorem named_of_sides {named : Option String} (sides : Sides part user host) (ne : host ≠ [])
    (read : authority .other part rest = .ok named) : ∃ text, text ≠ "" ∧ named = some text := by
  have notWeb : Family.other ≠ .web := nofun
  have whole := cutHost_append false host
  simp only [authority, cutUser_of_sides sides, ne, notWeb, false_and, and_false, if_false, bind,
    Except.bind, pure, Except.pure, throw, throwThe, MonadExceptOf.throw] at read
  cases checked : checkHost (cutHost false host).1 with
  | error e =>
    rw [checked] at read
    cases read
  | ok text =>
    rw [checked] at read
    by_cases bare : (cutHost false host).1 = []
    · -- Without a host in front of the colon the port is all there is, and that is refused.
      rw [bare, List.nil_append] at whole
      simp [bare, whole, ne] at read
    · have named := ne_empty_of_checkHost bare checked
      simp only [bare, false_and, if_false, named] at read
      split at read
      · cases read
      · cases read
        exact ⟨text, named, rfl⟩

/-- If nothing is read off an authority, it consists of a user at most, and the user is empty. -/
theorem anonymous_of_sides (sides : Sides part user host)
    (read : authority .other part rest = .ok none) :
    part = [] ∨ part = [':', '@'] ∨ rest = [] := by
  by_cases ne : host = []
  · have notWeb : Family.other ≠ .web := nofun
    have checked : checkHost [] = .ok "" := rfl
    simp only [authority, cutUser_of_sides sides, ne, notWeb, cutHost, checked, bind, Except.bind,
      pure, Except.pure, throw, throwThe, MonadExceptOf.throw] at read
    cases sides with
    | anonymous plain => exact .inl ne
    | @user user _ last =>
      subst ne
      by_cases blank : user = []
      · -- An at sign alone is refused, unless nothing follows it.
        by_cases ends : rest = []
        · exact .inr (.inr ends)
        · simp [blank, ends] at read
      · by_cases colon : user = [':']
        · exact .inr (.inl (by rw [colon]; rfl))
        · simp [blank, colon, isPort] at read
  · obtain ⟨text, -, gave⟩ := named_of_sides sides ne read
    cases gave

theorem authority_of_empty (empty : part = [] ∨ part = [':', '@']) (rest : List Char) :
    authority .other part rest = .ok none := by
  rcases empty with rfl | rfl <;> rfl

end Uri

namespace Scope

open Uri

variable {uri : String} {part rest host : List Char} {user : Option (List Char)}

/-- What an identifier is read as is decided by its authority, and by what follows only where no host
is named. -/
theorem ofUri_of_authority (names : HasAuthority uri part rest) :
    ofUri uri = match authority .other part rest with
      | .error e => .error (.parse uri e)
      | .ok (some named) => .error (.remoteHost named)
      | .ok none =>
        if pathAfterHost rest = "/system" then .ok system
        else if pathAfterHost rest = "/session" then .ok session
        else .error (.unsupportedPath (pathAfterHost rest)) := by
  unfold ofUri
  rw [Reader.read_eq_parse, parse_of_authority names]
  rcases authority .other part rest with e | ⟨_ | named⟩ <;> rfl

theorem display_eq_iff {scope : Scope} {path : String} :
    scope.display = "qemu://" ++ path ↔
      scope = .system ∧ path = "/system" ∨ scope = .session ∧ path = "/session" := by
  cases scope with
  | system =>
    rw [show display .system = "qemu://" ++ "/system" by decide +kernel, String.append_right_inj]
    simp [eq_comm]
  | session =>
    rw [show display .session = "qemu://" ++ "/session" by decide +kernel, String.append_right_inj]
    simp [eq_comm]

/-- Where no host is read off the authority, the path decides. -/
theorem ofUri_eq_ok_iff_of_authority (names : HasAuthority uri part rest) {scope : Scope} :
    ofUri uri = .ok scope ↔ authority .other part rest = .ok none ∧
      scope.display = "qemu://" ++ pathAfterHost rest := by
  rw [ofUri_of_authority names, display_eq_iff]
  rcases authority .other part rest with e | ⟨_ | named⟩
  · exact iff_of_false nofun nofun
  · by_cases system : pathAfterHost rest = "/system"
    · simp [system, eq_comm]
    · by_cases session : pathAfterHost rest = "/session" <;> simp [system, session, eq_comm]
  · exact iff_of_false nofun nofun

/-- An identifier that names a host is refused, whatever its path, query or fragment say: it is
malformed, or the host has a name. A daemon of this machine is named exactly if there is no more to
the authority than an empty user with an empty password, and the path is that of the daemon. -/
theorem refused_of_host (names : HasAuthority uri part rest) (sides : Sides part user host) :
    (host ≠ [] → (∃ e, HostError e ∧ ofUri uri = .error (.parse uri e)) ∨
      ∃ named, named ≠ "" ∧ ofUri uri = .error (.remoteHost named)) ∧
    ∀ scope, ofUri uri = .ok scope ↔ (part = [] ∨ part = [':', '@']) ∧
      scope.display = "qemu://" ++ pathAfterHost rest := by
  constructor
  · intro ne
    have read := ofUri_of_authority names
    cases gave : authority .other part rest with
    | error e =>
      rw [gave] at read
      exact .inl ⟨e, hostError_of_authority gave, read⟩
    | ok named =>
      obtain ⟨text, nonempty, rfl⟩ := named_of_sides sides ne gave
      rw [gave] at read
      exact .inr ⟨text, nonempty, read⟩
  · intro scope
    rw [ofUri_eq_ok_iff_of_authority names]
    constructor
    · rintro ⟨nobody, path⟩
      refine ⟨?_, path⟩
      rcases anonymous_of_sides sides nobody with none | blank | ends
      · exact .inl none
      · exact .inr blank
      · -- Where nothing follows the authority, there is no path to name a daemon.
        rw [ends, show pathAfterHost [] = "" from rfl, display_eq_iff] at path
        rcases path with ⟨-, path⟩ | ⟨-, path⟩ <;> exact absurd path (by decide)
    · rintro ⟨empty, path⟩
      exact ⟨authority_of_empty empty rest, path⟩

/-- An identifier that leaves nothing but a port behind two users is refused, and one whose authority
is `:@` names the daemon of the user. -/
theorem refused_of_lone_port :
    (∃ e, ofUri " QeMu://a@b@:0\t/system" = .error e) ∧ ofUri "qemu://:@/session" = .ok .session := by
  have remote : HasAuthority " QeMu://a@b@:0\t/system" ("a@b".toList ++ '@' :: ":0".toList)
      "/system".toList :=
    ⟨⟨"QeMu", ⟨by decide +kernel, by decide +kernel⟩, by decide +kernel⟩, by simp, by simp⟩
  have near : HasAuthority "qemu://:@/session" (":".toList ++ '@' :: []) "/session".toList :=
    ⟨⟨"qemu", ⟨by decide +kernel, by decide +kernel⟩, by decide +kernel⟩, by simp, by simp⟩
  constructor
  · rcases (refused_of_host remote (.user (by decide +kernel))).1 (by decide +kernel) with
      ⟨e, -, refused⟩ | ⟨named, -, refused⟩
    · exact ⟨_, refused⟩
    · exact ⟨_, refused⟩
  · exact ((refused_of_host near (.user nofun)).2 .session).2 ⟨.inr (by decide +kernel), by decide +kernel⟩

end Scope

end Supervisor

import Mathlib.Logic.Basic
import Mathlib.Tactic.SplitIfs
import Supervisor.CommandLine.Run
import Supervisor.Proofs.Session.Reports

/-!
# Which identifiers belong to the backend

Whether an identifier belongs to the backend is asked in three places: where a backend is chosen,
where the identifier is read, and where a session for networks is opened. They give one answer, and
the same answer decides whether a failure to open a session is reported. How identifiers are read
does not matter to this, as long as the two usual ones belong to the backend.

## Main definitions

* `Scope.Unrecognised` - an identifier that is refused as one of somebody else
* `Uri.IsOwn` - an identifier with the scheme of the supervisor daemon
* `Scope.Reads`, `Backend.Establishes` - what an identifier is read as, and what comes of opening it
* `Opened.Tells` - what was reported while a session was opened

## Main results

* `Scope.unrecognised_iff` - an identifier is somebody else's unless it is one of the backend
* `Backend.isOwn_networkUri` - what is opened for networks always is one of the backend
* `Backend.tells_connect` - what is reported if a session is opened or not
* `Backend.gates_agree` - all three places agree, and so do the reports
-/

namespace Supervisor

section Reading

variable [Uri.Reader]

namespace Uri

/-- An identifier of the backend: it can be read and has the scheme of the supervisor daemon. -/
def IsOwn (uri : String) : Prop := ∃ u, Reader.read uri = .ok u ∧ u.scheme = Supervisor.scheme

/-- Two readings of one identifier agree. -/
theorem unique_of_read {uri : String} {u u' : Uri} (read : Reader.read uri = .ok u)
    (read' : Reader.read uri = .ok u') : u = u' := Except.ok.inj (read.symm.trans read')

theorem isOwn_iff_of_read {uri : String} {u : Uri} (read : Reader.read uri = .ok u) :
    IsOwn uri ↔ u.scheme = Supervisor.scheme := by
  constructor
  · intro ⟨u', read', own⟩
    exact unique_of_read read read' ▸ own
  · intro own
    exact ⟨u, read, own⟩

theorem not_isOwn_of_read {uri : String} {e : Error} (failed : Reader.read uri = .error e) :
    ¬ IsOwn uri := by
  intro ⟨u, read, _⟩
  cases failed.symm.trans read

instance decidableIsOwn (uri : String) : Decidable (IsOwn uri) :=
  match read : Reader.read uri with
  | .ok _ => decidable_of_iff' _ (isOwn_iff_of_read read)
  | .error _ => .isFalse (not_isOwn_of_read read)

end Uri

namespace Scope

/-- An identifier that is refused as one of somebody else, or as none at all. -/
def Unrecognised (uri : String) : Prop :=
  (∃ text e, ofUri uri = .error (.parse text e)) ∨
    ∃ other, ofUri uri = .error (.foreignScheme other)

/-- What an identifier is read as. Its scheme matters before its host, and its host before its
path. -/
inductive Reads (uri : String) : Except Endpoint.Error Scope → Prop
  | unreadable {e : Uri.Error} (read : Uri.Reader.read uri = .error e) :
      Reads uri (.error (.parse uri e))
  | foreign {u : Uri} (read : Uri.Reader.read uri = .ok u) (other : u.scheme ≠ scheme) :
      Reads uri (.error (.foreignScheme u.scheme))
  | remote {u : Uri} {host : String} (read : Uri.Reader.read uri = .ok u) (own : u.scheme = scheme)
      (named : u.host = some host) : Reads uri (.error (.remoteHost host))
  | elsewhere {u : Uri} (read : Uri.Reader.read uri = .ok u) (own : u.scheme = scheme)
      (nowhere : u.path ≠ "/system" ∧ u.path ≠ "/session") :
      Reads uri (.error (.unsupportedPath u.path))
  | scope {u : Uri} {s : Scope} (read : Uri.Reader.read uri = .ok u) (own : u.scheme = scheme)
      (anonymous : u.host = none) (path : scheme ++ "://" ++ u.path = s.display) :
      Reads uri (.ok s)

theorem reads (uri : String) : Reads uri (ofUri uri) := by
  unfold ofUri
  cases read : Uri.Reader.read uri with
  | error e => exact .unreadable read
  | ok u =>
    dsimp only
    by_cases own : u.scheme = scheme
    · rw [if_neg (not_not.2 own)]
      cases named : u.host with
      | some host => exact .remote read own named
      | none =>
        dsimp only
        by_cases system : u.path = "/system"
        · rw [if_pos system]
          exact .scope read own named (by rw [system]; rfl)
        · by_cases session : u.path = "/session"
          · rw [if_neg system, if_pos session]
            exact .scope read own named (by rw [session]; rfl)
          · rw [if_neg system, if_neg session]
            exact .elsewhere read own ⟨system, session⟩
    · rw [if_pos own]
      exact .foreign read own

/-- An identifier is somebody else's exactly if reading it fails with an error that says so. -/
theorem unrecognised_iff_of_error {uri : String} {e : Endpoint.Error}
    (failed : ofUri uri = .error e) :
    Unrecognised uri ↔ (CallError.endpoint e).isUnrecognised = true := by
  unfold Unrecognised
  rw [failed]
  cases e <;> simp [CallError.isUnrecognised]

/-- A scope is read off identifiers of the backend only. -/
theorem not_unrecognised_of_ok {uri : String} {s : Scope} (read : ofUri uri = .ok s) :
    ¬ Unrecognised uri := by
  unfold Unrecognised
  rw [read]
  simp

/-- An identifier is somebody else's unless it is one of the backend. -/
theorem unrecognised_iff {uri : String} : Unrecognised uri ↔ ¬ Uri.IsOwn uri := by
  generalize result : ofUri uri = outcome
  cases result ▸ reads uri with
  | unreadable read =>
    rw [unrecognised_iff_of_error result]
    exact iff_of_true rfl (Uri.not_isOwn_of_read read)
  | foreign read other =>
    rw [unrecognised_iff_of_error result, Uri.isOwn_iff_of_read read]
    exact iff_of_true rfl other
  | remote read own | elsewhere read own =>
    rw [unrecognised_iff_of_error result, Uri.isOwn_iff_of_read read]
    exact iff_of_false nofun (not_not.2 own)
  | scope read own =>
    rw [Uri.isOwn_iff_of_read read]
    exact iff_of_false (not_unrecognised_of_ok result) (not_not.2 own)

end Scope

end Reading

/-- A user without a usable home directory is no reason to think an identifier somebody else's. -/
theorem User.isUnrecognised_of_home {u : User} {e : Endpoint.Error} (homeless : u.home = .error e) :
    (CallError.endpoint e).isUnrecognised = false := by
  unfold home at homeless
  split at homeless
  · cases homeless
    rfl
  · cases homeless
    rfl
  · split at homeless <;> cases homeless
    rfl

/-- A daemon whose socket has no usable address is one of the backend all the same. -/
theorem Scope.isUnrecognised_of_address {u : User} {s : Scope} {access : Access}
    {e : Endpoint.Error} (failed : s.address u.home access = .error e) :
    (CallError.endpoint e).isUnrecognised = false := by
  have checked {text : String} (failed : Address.check text = .error e) :
      (CallError.endpoint e).isUnrecognised = false := by
    unfold Address.check at failed
    split_ifs at failed <;> cases failed <;> rfl
  unfold address at failed
  split at failed
  · exact checked failed
  · exact checked failed
  · -- The daemon of a user needs the home directory first.
    cases home : u.home with
    | error e' =>
      rw [home] at failed
      cases failed
      exact User.isUnrecognised_of_home home
    | ok directory =>
      rw [home] at failed
      have unfit : Address.check (Address.marker.toString ++ below directory sessionSocket) =
          .error e := failed
      exact checked unfit

/-- What is logged while connecting is no report, unless it comes from the program that starts the
daemon. -/
theorem Connect.launched_of_report {α : Type} (address : Address) (policy : Retry)
    (dial : Nat → Except Fault α) (launch : Nat → Launch.Outcome) {left launches : Nat} {e : Event}
    (logged : e ∈ (attempt address policy dial launch left launches).events)
    (report : e.source = .report) : ∃ n, e ∈ (launch n).2 := by
  -- The entries that connecting makes itself are entries of the transport.
  have own {level : Event.Level} {message : String} {fields : List (String × String)}
      (same : e = logEntry level address message fields) : False := by
    rw [same] at report
    cases report
  induction left generalizing launches with
  | zero =>
    unfold attempt at logged
    cases dialled : dial launches <;>
      exact (own (List.mem_singleton.1 (by simpa only [dialled] using logged))).elim
  | succ left ih =>
    unfold attempt at logged
    cases dialled : dial launches with
    | ok stream =>
      rw [dialled] at logged
      exact (own (List.mem_singleton.1 logged)).elim
    | error fault =>
      simp only [dialled] at logged
      rcases started : launch launches with ⟨failure | command, events⟩
      · simp only [started, List.mem_cons] at logged
        rcases logged with tried | launched
        · exact (own tried).elim
        · exact ⟨launches, started ▸ launched⟩
      · simp only [started, Journey.after, List.mem_append, List.mem_cons] at logged
        rcases logged with (tried | launched) | later
        · exact (own tried).elim
        · exact ⟨launches, started ▸ launched⟩
        · exact ih later

variable {σ : Type}

/-- What was reported while a session was opened. The program that starts the daemon may write what
it likes to the log; that is no report of the backend. -/
def Opened.Tells (o : Opened σ) (m : Machine σ) (sink : Sink) (reports : List Report) : Prop :=
  ∃ before : Journal, before.reports = [] ∧ (∀ e ∈ before.told, ∃ n, e ∈ (m.launch n).2) ∧
    before.Gains o.journal sink reports

namespace Backend

section Reading

variable [Uri.Reader]

/-! ### Opening a session -/

/-- What comes of opening the session that an identifier names. -/
inductive Establishes (m : Machine σ) (retry : Retry) (sink : Sink) (uri : String)
    (flags : OpenFlags) : Opened σ → Prop
  | unread {e : Endpoint.Error} (read : Scope.ofUri uri = .error e) :
      Establishes m retry sink uri flags (.refused (.endpoint e))
  | unaddressed {scope : Scope} {e : Endpoint.Error} (read : Scope.ofUri uri = .ok scope)
      (failed : scope.address m.home flags.access = .error e) :
      Establishes m retry sink uri flags (.refused (.endpoint e))
  | unreachable {scope : Scope} {address : Address} {e : Connect.Error} {journal : Journal}
      {steps : List Connect.Step} (read : Scope.ofUri uri = .ok scope)
      (located : scope.address m.home flags.access = .ok address) (silent : journal.reports = [])
      (launched : ∀ e ∈ journal.told, ∃ n, e ∈ (m.launch n).2) :
      Establishes m retry sink uri flags ⟨.error (.connect e), steps, journal⟩
  | opened {scope : Scope} {address : Address} {stream : Stream σ} {journal : Journal}
      {steps : List Connect.Step} (read : Scope.ofUri uri = .ok scope)
      (located : scope.address m.home flags.access = .ok address) (silent : journal.reports = [])
      (launched : ∀ e ∈ journal.told, ∃ n, e ∈ (m.launch n).2) :
      Establishes m retry sink uri flags
        ⟨.ok (.start stream address flags.access sink journal), steps, journal⟩

variable (m : Machine σ) (retry : Retry) (sink : Sink) (uri : String) (flags : OpenFlags)

theorem establishes : Establishes m retry sink uri flags (establish m retry sink uri flags) := by
  unfold establish
  cases read : Scope.ofUri uri with
  | error e => exact .unread read
  | ok scope =>
    dsimp only
    cases located : scope.address m.home flags.access with
    | error e => exact .unaddressed read located
    | ok address =>
      have launched : ∀ e ∈ Journal.told ⟨[], openingEntry uri address ::
          (Connect.run address retry (m.dial address) (some m.launch)).events⟩,
          ∃ n, e ∈ (m.launch n).2 := by
        intro e told
        obtain ⟨logged, report⟩ := List.mem_filter.1 told
        have report := of_decide_eq_true report
        rcases List.mem_cons.1 logged with rfl | later
        · cases report
        · exact Connect.launched_of_report _ _ _ _ later report
      dsimp only
      cases (Connect.run address retry (m.dial address) (some m.launch)).outcome with
      | error e => exact .unreachable read located rfl launched
      | ok stream => exact .opened read located rfl launched

/-- What came of opening a session is reported and not changed. -/
theorem connect_outcome :
    (connect m retry sink uri flags).outcome = (establish m retry sink uri flags).outcome := by
  unfold connect
  dsimp only
  split
  · rfl
  · split <;> rfl

variable {m retry sink uri flags}

/-- Whether a failure to open a session says that the identifier is somebody else's. -/
theorem Establishes.isUnrecognised_iff {o : Opened σ} {e : CallError}
    (establishes : Establishes m retry sink uri flags o) (failed : o.outcome = .error e) :
    e.isUnrecognised = true ↔ Scope.Unrecognised uri := by
  cases establishes with
  | unread read =>
    cases failed
    exact (Scope.unrecognised_iff_of_error read).symm
  | unaddressed read failed' =>
    cases failed
    rw [Scope.isUnrecognised_of_address failed']
    exact iff_of_false nofun (Scope.not_unrecognised_of_ok read)
  | unreachable read =>
    cases failed
    exact iff_of_false nofun (Scope.not_unrecognised_of_ok read)
  | opened => cases failed

/-- No driver is missing once one was chosen. -/
theorem Establishes.ne_noDriver {o : Opened σ} (establishes : Establishes m retry sink uri flags o)
    (text : String) : o.outcome ≠ .error (.noDriver text) := by
  cases establishes <;> nofun

/-- Before a failure is reported, nothing is. -/
theorem Establishes.tells_nil {o : Opened σ} (establishes : Establishes m retry sink uri flags o) :
    o.Tells m sink [] := by
  cases establishes with
  | unread | unaddressed => exact ⟨.empty, rfl, nofun, .refl _ _⟩
  | unreachable _ _ silent launched | opened _ _ silent launched =>
    exact ⟨_, silent, launched, .refl _ _⟩

/-- What a session or the lack of one is reported as: a failure once, unless the identifier is
somebody else's and the flags ask for quiet. -/
theorem tells_connect (m : Machine σ) (retry : Retry) (sink : Sink) (uri : String)
    (flags : OpenFlags) :
    (∀ s, (connect m retry sink uri flags).outcome = .ok s →
      (connect m retry sink uri flags).Tells m sink []) ∧
    ∀ e, (connect m retry sink uri flags).outcome = .error e →
      (e.isUnrecognised = true ↔ Scope.Unrecognised uri) ∧
      (flags.quiet = true ∧ Scope.Unrecognised uri →
        (connect m retry sink uri flags).Tells m sink []) ∧
      (¬ (flags.quiet = true ∧ Scope.Unrecognised uri) →
        (connect m retry sink uri flags).Tells m sink [e.report none]) := by
  have establishes := establishes m retry sink uri flags
  have quiet := establishes.tells_nil
  unfold connect
  generalize establish m retry sink uri flags = o at establishes quiet
  dsimp only
  cases outcome : o.outcome with
  | ok s =>
    refine ⟨fun _ _ => quiet, ?_⟩
    intro e failed
    cases outcome.symm.trans failed
  | error e =>
    -- The failure is added to the journal of the attempt, or the attempt is left as it is.
    have unrecognised := establishes.isUnrecognised_iff outcome
    by_cases hushed : flags.quiet = true ∧ Scope.Unrecognised uri
    · have skipped : (flags.quiet && e.isUnrecognised) = true := by
        rw [hushed.1, unrecognised.2 hushed.2]
        rfl
      simp only [skipped, if_true]
      refine ⟨fun _ _ => quiet, ?_⟩
      intro e' failed
      cases outcome.symm.trans failed
      exact ⟨unrecognised, fun _ => quiet, fun loud => absurd hushed loud⟩
    · have told : ¬ (flags.quiet && e.isUnrecognised) = true := by
        rw [Bool.and_eq_true, unrecognised]
        exact hushed
      simp only [if_neg told]
      obtain ⟨before, silent, launched, gains⟩ := quiet
      constructor
      · intro s opened
        cases opened
      · intro e' failed
        cases failed
        refine ⟨unrecognised, fun quiet => absurd quiet hushed, fun _ => ?_⟩
        refine ⟨before, silent, launched, ?_⟩
        exact gains.trans (Journal.gains_add _ _ _)

/-! ### The identifier for networks -/

theorem networkUri_some (superuser : Bool) (uri : String) :
    networkUri superuser (some uri) = if Uri.IsOwn uri then uri else defaultUri superuser := by
  unfold networkUri
  cases read : Uri.Reader.read uri with
  | error e => simp [Option.filter_some, read, Uri.not_isOwn_of_read read]
  | ok u =>
    by_cases own : u.scheme = Supervisor.scheme
    · simp [Option.filter_some, read, Uri.isOwn_iff_of_read read, own]
    · simp [Option.filter_some, read, Uri.isOwn_iff_of_read read, own]

/-- What is opened for networks always is an identifier of the backend, if the usual ones are. -/
theorem isOwn_networkUri (usual : ∀ superuser, Uri.IsOwn (defaultUri superuser)) (superuser : Bool)
    (given : Option String) : Uri.IsOwn (networkUri superuser given) := by
  cases given with
  | none => exact usual superuser
  | some uri =>
    rw [networkUri_some]
    split_ifs with own
    · exact own
    · exact usual superuser

/-- An identifier is replaced exactly if it is not one of the backend. -/
theorem networkUri_replaces_iff (usual : ∀ superuser, Uri.IsOwn (defaultUri superuser))
    {superuser : Bool} :
    (networkUri superuser (some uri) = defaultUri superuser ∧ uri ≠ defaultUri superuser) ↔
      ¬ Uri.IsOwn uri := by
  rw [networkUri_some]
  split_ifs with own
  · exact iff_of_false (fun replaced => replaced.2 replaced.1) (not_not.2 own)
  · refine iff_of_true ⟨rfl, ?_⟩ own
    intro same
    apply own
    rw [same]
    exact usual superuser

/-! ### The choice of a backend -/

theorem forUri?_eq (m : Machine σ) (uri : String) :
    (Invocation.backends m).forUri? uri =
      if Uri.IsOwn uri then some (supervisor m .default .log) else none := by
  unfold Backends.forUri?
  cases read : Uri.Reader.read uri with
  | error e => rw [if_neg (Uri.not_isOwn_of_read read)]
  | ok u =>
    dsimp only [Invocation.backends]
    rw [List.find?_singleton]
    by_cases own : u.scheme = Supervisor.scheme
    · simp [Uri.isOwn_iff_of_read read, own, supervisor]
    · simp [Uri.isOwn_iff_of_read read, own, supervisor, Ne.symm own]

/-- No backend is found exactly if the identifier is not one of this backend. -/
theorem noDriver_iff :
    (∃ text, ((Invocation.backends m).session uri flags).outcome = .error (.noDriver text)) ↔
      ¬ Uri.IsOwn uri := by
  unfold Backends.session
  rw [forUri?_eq]
  split_ifs with own
  · -- A backend that was found fails for reasons of its own.
    refine iff_of_false ?_ (not_not.2 own)
    intro ⟨text, failed⟩
    exact (establishes m .default .log uri flags).ne_noDriver text (connect_outcome .. ▸ failed)
  · exact iff_of_true ⟨uri, rfl⟩ own

/-! ### Agreement -/

/-- However identifiers are read, as long as the usual ones belong to the backend: the identifiers
that are refused as somebody else's are those that no backend is found for, and those that the usual
one stands in for where a session for networks is opened. So a failure to open such a session never
says that an identifier is somebody else's, and is always reported once. Any other failure is
reported once as well, unless it says so and the flags ask for quiet. A session that was opened is
not reported. -/
theorem gates_agree (usual : ∀ superuser, Uri.IsOwn (defaultUri superuser)) (m : Machine σ)
    (retry : Retry) (sink : Sink) (uri : String) (flags : OpenFlags) :
    let b := supervisor m retry sink
    ((∃ text, ((Invocation.backends m).session uri flags).outcome = .error (.noDriver text)) ↔
      Scope.Unrecognised uri) ∧
    ((networkUri m.superuser (some uri) = defaultUri m.superuser ∧ uri ≠ defaultUri m.superuser) ↔
      Scope.Unrecognised uri) ∧
    (∀ given, b.networkSession given flags = b.session (networkUri m.superuser given) flags) ∧
    (∀ given e, (b.networkSession given flags).outcome = .error e →
      e.isUnrecognised = false ∧ (b.networkSession given flags).Tells m sink [e.report none]) ∧
    (∀ given s, (b.networkSession given flags).outcome = .ok s →
      (b.networkSession given flags).Tells m sink []) ∧
    (∀ e, (b.session uri flags).outcome = .error e →
      (flags.quiet = true ∧ Scope.Unrecognised uri → (b.session uri flags).Tells m sink []) ∧
      (¬ (flags.quiet = true ∧ Scope.Unrecognised uri) →
        (b.session uri flags).Tells m sink [e.report none])) ∧
    ∀ s, (b.session uri flags).outcome = .ok s → (b.session uri flags).Tells m sink [] := by
  refine ⟨?_, ?_, fun _ => rfl, ?_, ?_, ?_, ?_⟩
  · rw [noDriver_iff, Scope.unrecognised_iff]
  · rw [networkUri_replaces_iff usual, Scope.unrecognised_iff]
  · intro given e failed
    -- Whatever was given, an identifier of the backend is opened, so no failure is hushed.
    have recognised : ¬ Scope.Unrecognised (networkUri m.superuser given) := by
      rw [Scope.unrecognised_iff, not_not]
      exact isOwn_networkUri usual m.superuser given
    obtain ⟨unrecognised, -, loud⟩ := (tells_connect m retry sink _ flags).2 e failed
    refine ⟨?_, loud fun quiet => recognised quiet.2⟩
    rw [← Bool.not_eq_true, unrecognised]
    exact recognised
  · intro given s opened
    exact (tells_connect m retry sink _ flags).1 s opened
  · intro e failed
    exact ((tells_connect m retry sink uri flags).2 e failed).2
  · intro s opened
    exact (tells_connect m retry sink uri flags).1 s opened

end Reading

/-- The usual identifiers belong to the backend. -/
theorem isOwn_defaultUri (superuser : Bool) : Uri.IsOwn (defaultUri superuser) := by
  cases superuser <;> decide +kernel

/-- A user without an account. The identifier of another backend is refused without a report if the
flags ask for quiet; for networks the daemon of the user is meant in its place, and that there is no
home directory to find it in is reported all the same. -/
theorem gates_agree_foreign :
    let m : Machine Unit := ⟨⟨1000, .ok none⟩, fun _ _ => .error .noSuchFile,
      fun _ => (.error (.notFound []), [])⟩
    let b := supervisor m .default .keep
    (b.session "xen:///system" ⟨false, true⟩).journal.reports = [] ∧
      (b.networkSession (some "xen:///system") ⟨false, true⟩).journal.reports =
        [(CallError.endpoint (.unknownUser 1000)).report none] := by
  intro m b
  have foreign : Scope.Unrecognised "xen:///system" := Scope.unrecognised_iff.2 (by decide +kernel)
  have refused : (b.session "xen:///system" ⟨false, true⟩).outcome =
      .error (.endpoint (.foreignScheme "xen")) := rfl
  have replaced : networkUri m.superuser (some "xen:///system") = sessionUri := by decide +kernel
  have homeless : (b.networkSession (some "xen:///system") ⟨false, true⟩).outcome =
      .error (.endpoint (.unknownUser 1000)) := by
    simp only [b, supervisor, replaced]
    rfl
  obtain ⟨-, -, -, network, -, session, -⟩ :=
    gates_agree isOwn_defaultUri m .default .keep "xen:///system" ⟨false, true⟩
  obtain ⟨before, silent, -, told, -⟩ := (session _ refused).1 ⟨rfl, foreign⟩
  obtain ⟨-, before', silent', -, told', -⟩ := network _ _ homeless
  rw [silent] at told
  rw [silent'] at told'
  exact ⟨told, told'⟩

end Backend

end Supervisor

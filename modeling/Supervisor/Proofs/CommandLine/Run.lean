import Supervisor.CommandLine.Run
import Supervisor.FileTree
import Supervisor.Proofs.CommandLine.Script
import Supervisor.Proofs.Daemon
import Supervisor.Proofs.Session.Log

/-!
# Runs of the command line are all or nothing

A command that was understood either gives its whole result or only the reason why it gives none.
It gives the result exactly if a session can be opened, the file of the descriptor that it reads
holds a text, and every step succeeds. The session is closed after the last step in any case, and
before anything is written: the deeds of a run say so, one after another.

## Main definitions

* `Files.Reads` - what a command reads of the bytes of a file
* `Invocation.session` - the session for a command
* `Command.Takes` - the steps that a command takes on a session
* `Command.Succeeds`, `Invocation.Fails` - whether all goes well, and what fails first
* `Run.Closes` - how a run ends its session

## Main results

* `Files.reads_iff` - what is read of a file is what its bytes are
* `Invocation.succeeds_of_perform`, `Invocation.fails_of_perform` - what carrying out a command
  comes to
* `Run.all_or_nothing` - a run writes the whole result or only the first failure
-/

namespace Supervisor

variable {σ : Type}

/-! ### Descriptors -/

/-- What a command reads of the file at the path that it was given: the text whose bytes are there.
Other commands read nothing. -/
inductive Files.Reads (files : Files) (command : Command) : Except RunError String → Prop
  | nothing (plain : command.descriptor? = none) : Reads files command (.ok "")
  | text {path text : String} (needs : command.descriptor? = some path)
      (bytes : files path = .ok (Text.utf8 text)) : Reads files command (.ok text)
  | noText {path : String} {bytes : List UInt8} (needs : command.descriptor? = some path)
      (found : files path = .ok bytes) (illFormed : ∀ text, bytes ≠ Text.utf8 text) :
      Reads files command (.error (.descriptor path .notText))
  | unreadable {path : String} {fault : Fault} (needs : command.descriptor? = some path)
      (failed : files path = .error fault) :
      Reads files command (.error (.descriptor path fault))

namespace Files

variable {files : Files} {command : Command}

/-- What is read of a file is what its bytes are. -/
theorem reads_iff {result : Except RunError String} :
    files.Reads command result ↔ files.textFor command = result := by
  constructor
  · intro reads
    cases reads with
    | nothing plain => simp only [textFor, plain]
    | text needs bytes => simp only [textFor, needs, descriptor, bytes, Text.ofUtf8?_utf8]
    | noText needs found illFormed =>
      simp only [textFor, needs, descriptor, found, Text.ofUtf8?_eq_none_iff.2 illFormed]
    | unreadable needs failed => simp only [textFor, needs, descriptor, failed]
  · rintro rfl
    cases needs : command.descriptor? with
    | none =>
      simp only [textFor, needs]
      exact .nothing needs
    | some path =>
      cases found : files path with
      | error fault =>
        simp only [textFor, needs, descriptor, found]
        exact .unreadable needs found
      | ok bytes =>
        cases decoded : Text.ofUtf8? bytes with
        | none =>
          simp only [textFor, needs, descriptor, found, decoded]
          exact .noText needs found (Text.ofUtf8?_eq_none_iff.1 decoded)
        | some text =>
          simp only [textFor, needs, descriptor, found, decoded]
          rw [Text.ofUtf8?_eq_some_iff] at decoded
          exact .text needs (decoded ▸ found)

/-- A command reads one thing. -/
theorem Reads.unique {a b : Except RunError String} (reads : files.Reads command a)
    (reads' : files.Reads command b) : a = b :=
  (reads_iff.1 reads).symm.trans (reads_iff.1 reads')

end Files

/-! ### The order of deeds -/

/-- Whether a deed is nothing but writing. -/
def Deed.writes : Deed → Bool
  | output _ | message _ => true
  | log _ | close => false

namespace Run

/-- A run ends a session. Up to the last step all that is done is what the log tells; then the
session is closed, with the stream as it was. Behind that nothing is closed and no request is
announced, so all that is written is written there. -/
structure Closes (run : Run σ) (last : Session σ) : Prop where
  session : run.session = some last.close
  off : last.close.connected = false
  still : last.close.stream = last.stream
  order : ∃ behind, run.deeds = last.journal.events.map .log ++ .close :: behind ∧
    ∀ d ∈ behind, d ≠ .close ∧ ∀ op, d ≠ .log (Session.announcement op)

/-- A run whose session is closed before it writes ends it, whatever closing adds to the log. -/
theorem closes_of_writing {run : Run σ} {last : Session σ} {writing : List Deed}
    (session : run.session = some last.close)
    (deeds : run.deeds = (last.journal.events.map .log ++ .close ::
      (last.close.journal.events.drop last.journal.events.length).map .log) ++ writing)
    (writes : ∀ d ∈ writing, d.writes = true) : run.Closes last := by
  -- Behind the close there is what closing adds to the log, which announces nothing.
  obtain ⟨farewell, events, silent⟩ := last.exists_close
  rw [events, List.drop_left, List.append_assoc, List.cons_append] at deeds
  refine ⟨session, last.connected_close, last.stream_close, _, deeds, fun d member => ?_⟩
  rcases List.mem_append.1 member with logged | written
  · obtain ⟨e, told, rfl⟩ := List.mem_map.1 logged
    exact ⟨nofun, fun op same => silent op (Deed.log.inj same ▸ told)⟩
  · have writes := writes d written
    cases d with
    | output | message => exact ⟨nofun, nofun⟩
    | log | close => cases writes

/-- What is left of the session does not depend on what is written, and behind what was done for the
command there is nothing but writing. -/
theorem finished_spec (w : Surroundings σ) (i : Invocation) (p : Performed σ) :
    (finished w i p).session = p.session ∧
      ∃ writing, (finished w i p).deeds = p.deeds ++ writing ∧
        ∀ d ∈ writing, d.writes = true := by
  unfold finished
  cases p.outcome with
  | error e => exact ⟨rfl, [.message _], rfl, List.forall_mem_singleton.2 rfl⟩
  | ok outcome =>
    dsimp only
    generalize accepted w.outputRoom _ = taken
    obtain ⟨output, complete⟩ := taken
    cases complete with
    | true => exact ⟨rfl, [.output output], rfl, List.forall_mem_singleton.2 rfl⟩
    | false =>
      -- Not all output was taken, and the reason follows the part that was.
      exact ⟨rfl, [.output output, .message _], List.append_assoc _ _ _,
        List.forall_mem_cons.2 ⟨rfl, List.forall_mem_singleton.2 rfl⟩⟩

end Run

/-- The session for a command. There is none if the log cannot be set up, or if none can be
opened. -/
def Invocation.session [Uri.Reader] (w : Surroundings σ) (i : Invocation) :
    Except RunError (Session σ) :=
  match i.prepare w with
  | .error e => .error (.log e)
  | .ok () => (i.openSession w.machine).outcome.mapError .call

variable [Peer σ]

namespace Command

/-- The steps that a command takes on a session. Without the text that it is to read it takes
none. -/
inductive Takes (files : Files) (command : Command) (s : Session σ) :
    List (Session.Step σ) → Prop
  | nothing {e : RunError} (unread : files.Reads command (.error e)) : Takes files command s []
  | steps {text : String} (read : files.Reads command (.ok text)) :
      Takes files command s ((command.script text).steps s)

/-- The text that a command is to read is there, and every step succeeds. -/
def Succeeds (files : Files) (command : Command) (s : Session σ) : Prop :=
  ∃ text, files.Reads command (.ok text) ∧
    ∀ t ∈ (command.script text).steps s, ∃ v, t.outcome = .ok v

/-- Why a command fails: the text that it is to read is not there, or a step fails. -/
inductive Fails (files : Files) (command : Command) (s : Session σ) : RunError → Prop
  | unread {e : RunError} (unread : files.Reads command (.error e)) : Fails files command s e
  | step {text : String} {e : CallError} (read : files.Reads command (.ok text))
      (failed : Session.BreaksOff e ((command.script text).steps s)) :
      Fails files command s (.call e)

variable {files : Files} {command : Command} {s : Session σ}

/-- A command takes some steps. They are a run of the session, and the command leaves what they have
left. -/
theorem exists_takes (files : Files) (command : Command) (s : Session σ) :
    ∃ past, command.Takes files s past ∧ Session.Run s past (s.leftBy past) ∧
      (s.execute files command).2 = s.leftBy past := by
  rw [Session.execute_eq]
  cases read : files.textFor command with
  | error e =>
    refine ⟨[], .nothing (Files.reads_iff.2 read), .start, ?_⟩
    rw [Session.obey_of_error read]
    rfl
  | ok text =>
    refine ⟨(command.script text).steps s, .steps (Files.reads_iff.2 read), ?_, ?_⟩
    · rw [← Script.run_snd]
      exact (command.script text).runs_steps .start
    · rw [Session.obey_of_ok read]
      exact (command.script text).run_snd s

theorem obey_fst {text : String} (read : files.textFor command = .ok text) :
    (Session.obey files command s).1 = ((command.script text).run s).1.mapError .call := by
  rw [Session.obey_of_ok read]
  rfl

theorem succeeds_of_execute {outcome : Outcome} (gave : (s.execute files command).1 = .ok outcome) :
    command.Succeeds files s ∧ ∃ text, files.Reads command (.ok text) ∧
      ((command.script text).run s).1 = .ok outcome := by
  rw [Session.execute_eq] at gave
  cases read : files.textFor command with
  | error e =>
    rw [Session.obey_of_error read] at gave
    cases gave
  | ok text =>
    rw [obey_fst read, mapError_eq_ok] at gave
    have reads := Files.reads_iff.2 read
    have steps := ((command.script text).succeeds_iff s).1 ⟨outcome, gave⟩
    exact ⟨⟨text, reads, steps⟩, text, reads, gave⟩

theorem fails_of_execute {e : RunError} (failed : (s.execute files command).1 = .error e) :
    command.Fails files s e := by
  rw [Session.execute_eq] at failed
  cases read : files.textFor command with
  | error e' =>
    rw [Session.obey_of_error read] at failed
    cases failed
    exact .unread (Files.reads_iff.2 read)
  | ok text =>
    rw [obey_fst read, mapError_eq_error] at failed
    obtain ⟨e', failed, rfl⟩ := failed
    exact .step (Files.reads_iff.2 read) (((command.script text).fails_iff s e').1 failed)

/-- A command does not both succeed and fail. -/
theorem Fails.not_succeeds {e : RunError} (fails : command.Fails files s e) :
    ¬ command.Succeeds files s := by
  intro ⟨text, reads, steps⟩
  cases fails with
  | unread unread => cases unread.unique reads
  | step read breaks =>
    cases read.unique reads
    obtain ⟨t, member, failed⟩ := breaks.exists_mem
    obtain ⟨v, gave⟩ := steps t member
    cases failed.symm.trans gave

end Command

namespace Invocation

variable [Uri.Reader] {w : Surroundings σ} {i : Invocation}

/-- Why a command that was understood gives no result: there is no session for it, or it fails on
the session. -/
inductive Fails (w : Surroundings σ) (i : Invocation) : RunError → Prop
  | session {e : RunError} (failed : i.session w = .error e) : Fails w i e
  | command {s : Session σ} {e : RunError} (opened : i.session w = .ok s)
      (failed : i.command.Fails w.files s e) : Fails w i e

/-- There is a session for a command, and the command succeeds on it. -/
def Succeeds (w : Surroundings σ) (i : Invocation) : Prop :=
  ∃ s, i.session w = .ok s ∧ i.command.Succeeds w.files s

/-- The result that the script of a command has on the session for it. -/
def Gives (w : Surroundings σ) (i : Invocation) (outcome : Outcome) : Prop :=
  ∃ s text, i.session w = .ok s ∧ w.files.Reads i.command (.ok text) ∧
    ((i.command.script text).run s).1 = .ok outcome

theorem Fails.not_succeeds {e : RunError} (fails : i.Fails w e) : ¬ i.Succeeds w := by
  intro ⟨s, opened, succeeds⟩
  cases fails with
  | session failed => cases failed.symm.trans opened
  | command opened' fails =>
    cases opened'.symm.trans opened
    exact fails.not_succeeds succeeds

/-- Where there is a session but no text to read, that is why a command fails. -/
theorem Fails.eq_of_unread {e e' : RunError} (fails : i.Fails w e) {s : Session σ}
    (opened : i.session w = .ok s) (unread : w.files.Reads i.command (.error e')) : e = e' := by
  cases fails with
  | session failed => cases failed.symm.trans opened
  | command _ failed =>
    cases failed with
    | unread unread' => exact Except.error.inj (unread'.unique unread)
    | step read => cases read.unique unread

/-- Without a session nothing is closed. -/
theorem perform_of_error {e : RunError} (failed : i.session w = .error e) :
    (i.perform w).outcome = .error e ∧ (i.perform w).session = none ∧
      .close ∉ (i.perform w).deeds := by
  cases prepared : i.prepare w with
  | error e' =>
    simp only [session, prepared] at failed
    cases failed
    simp [perform, prepared]
  | ok =>
    simp only [session, prepared, mapError_eq_error] at failed
    obtain ⟨e', unopened, rfl⟩ := failed
    simp [perform, prepared, unopened]

theorem perform_of_ok {s : Session σ} (opened : i.session w = .ok s) :
    let last := (s.execute w.files i.command).2
    (i.perform w).outcome = (s.execute w.files i.command).1 ∧
      (i.perform w).session = some last.close ∧
      (i.perform w).deeds = last.journal.events.map .log ++ .close ::
        (last.close.journal.events.drop last.journal.events.length).map .log := by
  cases prepared : i.prepare w with
  | error e =>
    simp only [session, prepared] at opened
    cases opened
  | ok =>
    simp only [session, prepared, mapError_eq_ok] at opened
    rcases ran : s.execute w.files i.command with ⟨outcome, s'⟩
    simp only [perform, prepared, opened, ran, and_self]

omit [Uri.Reader] [Peer σ] in
/-- Deeds that are not writing leave nothing behind. -/
theorem flatMap_of_writes {deeds : List Deed} (silent : ∀ d ∈ deeds, d.writes = false) :
    deeds.flatMap Deed.written = [] ∧ deeds.flatMap Deed.said = [] := by
  constructor <;>
  · refine List.flatMap_eq_nil_iff.2 fun d member => ?_
    have silent := silent d member
    cases d <;> first | rfl | cases silent

/-- Nothing is written while a command is carried out. -/
theorem flatMap_perform (w : Surroundings σ) (i : Invocation) :
    (i.perform w).deeds.flatMap Deed.written = [] ∧
      (i.perform w).deeds.flatMap Deed.said = [] := by
  have logged (es : List Event) : ∀ d ∈ es.map Deed.log, d.writes = false := by simp [Deed.writes]
  apply flatMap_of_writes
  unfold perform
  cases i.prepare w with
  | error e => exact List.forall_mem_nil _
  | ok =>
    dsimp only
    split
    · exact logged _
    · exact List.forall_mem_append.2 ⟨logged _, List.forall_mem_cons.2 ⟨rfl, logged _⟩⟩

theorem succeeds_of_perform {outcome : Outcome} (gave : (i.perform w).outcome = .ok outcome) :
    i.Succeeds w ∧ i.Gives w outcome := by
  cases opened : i.session w with
  | error e =>
    rw [(perform_of_error opened).1] at gave
    cases gave
  | ok s =>
    rw [(perform_of_ok opened).1] at gave
    obtain ⟨succeeds, text, read, result⟩ := Command.succeeds_of_execute gave
    exact ⟨⟨s, opened, succeeds⟩, s, text, opened, read, result⟩

theorem fails_of_perform {e : RunError} (failed : (i.perform w).outcome = .error e) :
    i.Fails w e := by
  cases opened : i.session w with
  | error e' =>
    rw [(perform_of_error opened).1] at failed
    cases failed
    exact .session opened
  | ok s =>
    rw [(perform_of_ok opened).1] at failed
    exact .command opened (Command.fails_of_execute failed)

end Invocation

namespace Run

variable [Uri.Reader] {w : Surroundings σ} {words : List String} {i : Invocation}

theorem start_of_parse (understood : Invocation.parse w.environment words = .ok i) :
    start w words = finished w i (i.perform w) := by
  unfold start
  rw [understood]

/-- Where everything that is written is taken, a command that failed leaves the reason and no
output. -/
theorem finished_of_error {e : RunError} (failed : (i.perform w).outcome = .error e)
    (messages : w.messageRoom = none) :
    (finished w i (i.perform w)).exitCode = 1 ∧ (finished w i (i.perform w)).output = [] ∧
      (finished w i (i.perform w)).messages = Text.utf8 ("virq: " ++ e.message ++ "\n") := by
  obtain ⟨written, said⟩ := i.flatMap_perform w
  unfold finished Run.failed accepted Run.output Run.messages
  rw [failed, messages]
  simp only [List.flatMap_append, written, said, List.nil_append]
  exact ⟨trivial, rfl, List.append_nil _⟩

/-- Where everything that is written is taken, a command that gave a result leaves that and no
message. -/
theorem finished_of_ok {outcome : Outcome} (gave : (i.perform w).outcome = .ok outcome)
    (output : w.outputRoom = none) :
    (finished w i (i.perform w)).exitCode = 0 ∧
      (finished w i (i.perform w)).output =
        Text.utf8 (outcome.render (i.output.resolve w.terminal)) ∧
      (finished w i (i.perform w)).messages = [] := by
  obtain ⟨written, said⟩ := i.flatMap_perform w
  unfold finished accepted Run.output Run.messages
  rw [gave, output]
  simp only [if_true, List.flatMap_append, written, said, List.nil_append]
  exact ⟨trivial, List.append_nil _, rfl⟩

/-- A run without a session closes none. -/
theorem start_of_unopened (understood : Invocation.parse w.environment words = .ok i) {e : RunError}
    (failed : i.session w = .error e) :
    (start w words).session = none ∧ .close ∉ (start w words).deeds := by
  obtain ⟨-, none, unclosed⟩ := Invocation.perform_of_error failed
  obtain ⟨session, writing, deeds, writes⟩ := finished_spec w i (i.perform w)
  rw [start_of_parse understood, session, deeds, List.mem_append]
  refine ⟨none, not_or.2 ⟨unclosed, fun member => ?_⟩⟩
  cases writes _ member

/-- A run ends the session that was opened for it, once all steps are taken. -/
theorem start_closes (understood : Invocation.parse w.environment words = .ok i) {s : Session σ}
    (opened : i.session w = .ok s) :
    (start w words).Closes (s.execute w.files i.command).2 := by
  obtain ⟨-, kept, done⟩ := Invocation.perform_of_ok opened
  obtain ⟨session, writing, deeds, writes⟩ := finished_spec w i (i.perform w)
  rw [start_of_parse understood]
  exact closes_of_writing (session.trans kept) (by rw [deeds, done]) writes

/-- A command that was understood either gives its whole result, exactly if there is a session for
it, the file that it is to read holds a text and every step succeeds, or nothing but the reason why
it does not. A session that was opened is closed after the last step, which no request follows, and
before the first byte of output, no matter how much is taken of that. Every step that moved the
stream has announced a request in what was done up to then. -/
theorem all_or_nothing (understood : Invocation.parse w.environment words = .ok i) :
    let run := start w words
    (∀ e, i.session w = .error e → run.session = none ∧ .close ∉ run.deeds) ∧
    (∀ s, i.session w = .ok s → ∃ past, i.command.Takes w.files s past ∧
      let last := s.leftBy past
      Session.Run s past last ∧ run.Closes last ∧
        ∀ t ∈ past, t.before.Logs t.after ∧ t.after.journal.events <+: last.journal.events) ∧
    (w.outputRoom = none → w.messageRoom = none →
      (run.exitCode = 0 ↔ i.Succeeds w) ∧
      (i.Succeeds w → ∃ outcome, i.Gives w outcome ∧
        run.output = Text.utf8 (outcome.render (i.output.resolve w.terminal)) ∧
        run.messages = []) ∧
      (¬ i.Succeeds w → run.exitCode = 1 ∧ run.output = [] ∧
        ∃ e, i.Fails w e ∧ run.messages = Text.utf8 ("virq: " ++ e.message ++ "\n"))) := by
  refine ⟨fun e failed => start_of_unopened understood failed, ?_, ?_⟩
  · intro s opened
    obtain ⟨past, takes, run, left⟩ := Command.exists_takes w.files i.command s
    have closes := start_closes understood opened
    rw [left] at closes
    exact ⟨past, takes, run, closes, run.logs⟩
  · intro output messages
    rw [start_of_parse understood]
    -- Which of the two it is was decided before anything is written.
    cases performed : (i.perform w).outcome with
    | error e =>
      obtain ⟨code, silent, reason⟩ := finished_of_error performed messages
      have fails := Invocation.fails_of_perform performed
      refine ⟨iff_of_false ?_ fails.not_succeeds, ?_, ?_⟩
      · rw [code]
        decide
      · intro succeeds
        exact absurd succeeds fails.not_succeeds
      · intro _
        exact ⟨code, silent, e, fails, reason⟩
    | ok outcome =>
      obtain ⟨code, whole, silent⟩ := finished_of_ok performed output
      obtain ⟨succeeds, gives⟩ := Invocation.succeeds_of_perform performed
      refine ⟨iff_of_true code succeeds, ?_, ?_⟩
      · intro _
        exact ⟨outcome, gives, whole, silent⟩
      · intro fails
        exact absurd succeeds fails

end Run

/-- The identifier of a domain. -/
def mailUuid : Uuid := ⟨List.replicate 16 9, rfl⟩

/-- A directory with a descriptor and a file that is no text, and the installed daemon. -/
def FileTree.desk : FileTree where
  entries :=
    [(["desk"], .directory), (["desk", "mail.xml"], .file (Text.utf8 "<domain/>") false),
     (["desk", "disk.img"], .file [0x4D, 0xFF] false), (["usr"], .directory),
     (["usr", "bin"], .directory), (["usr", "bin", "libvirt_qemu"], .file [] true)]
  here := ["desk"]

/-- A terminal in that directory. The daemon listens once it was started, and defines the domain. -/
def Surroundings.desk : Surroundings (Served Nat) where
  machine :=
    { user := ⟨0, .ok (some (Text.utf8 "/root"))⟩
      dial := fun address starts =>
        if starts = 0 then .error (FileTree.desk.refusal address.text)
        else .ok (.toPeer (.start
          (answering [(.defineDomain "<domain/>", .identity mailUuid "mail")]) 0))
      launch := fun _ =>
        Launch.startInstalled (.ok ()) (.ofVariable none) FileTree.desk.isRunnable }
  environment := fun _ => none
  files := FileTree.desk.read
  terminal := true
  logReady := false
  logging := ⟨fun _ => .ok (), .ok ()⟩
  outputRoom := none
  messageRoom := none

namespace Run

/-- The domain of the descriptor is defined, and the session is closed before that is said. If the
descriptor is missing or no text, there is no output but only the reason. -/
theorem all_or_nothing_define :
    let run (file : String) := start .desk ["define", file]
    let because (e : RunError) := Text.utf8 ("virq: " ++ e.message ++ "\n")
    ((∃ last, (run "mail.xml").Closes last) ∧
      (run "mail.xml").output = Text.utf8 "Domain mail defined\n" ∧
      (run "mail.xml").messages = []) ∧
    ((run "gone.xml").output = [] ∧
      (run "gone.xml").messages = because (.descriptor "gone.xml" .noSuchFile)) ∧
    ((run "disk.img").output = [] ∧
      (run "disk.img").messages = because (.descriptor "disk.img" .notText)) := by
  intro run because
  let define (file : String) : Invocation := ⟨none, false, none, none, .auto, .defineDomain file⟩
  have understood (file : String) (plain : file ∈ ["mail.xml", "gone.xml", "disk.img"]) :
      Invocation.parse Surroundings.desk.environment ["define", file] = .ok (define file) := by
    refine eq_ok_of_toOption ?_
    revert file
    decide +kernel
  -- Which file is read does not matter to the session.
  obtain ⟨s, opened⟩ : ∃ s, ∀ file, (define file).session Surroundings.desk = .ok s := by
    obtain ⟨s, opened⟩ : ∃ s, (define "").session Surroundings.desk = .ok s :=
      exists_of_isOk (by decide +kernel)
    exact ⟨s, fun _ => opened⟩
  have refused (file : String) (plain : file ∈ ["mail.xml", "gone.xml", "disk.img"]) {fault : Fault}
      (unread : Surroundings.desk.files.Reads (.defineDomain file)
        (.error (.descriptor file fault))) :
      (run file).output = [] ∧ (run file).messages = because (.descriptor file fault) := by
    obtain ⟨-, -, whole⟩ := all_or_nothing (understood file plain)
    obtain ⟨-, -, nothing⟩ := whole rfl rfl
    obtain ⟨-, silent, e, fails, said⟩ :=
      nothing (Invocation.Fails.command (opened file) (.unread unread)).not_succeeds
    rw [fails.eq_of_unread (opened file) unread] at said
    exact ⟨silent, said⟩
  have gone : FileTree.desk.read "gone.xml" = .error .noSuchFile := by decide +kernel
  have found : FileTree.desk.read "disk.img" = .ok [0x4D, 0xFF] := by decide +kernel
  have garbled : ∀ text, [0x4D, 0xFF] ≠ Text.utf8 text :=
    Text.ofUtf8?_eq_none_iff.1 (by decide +kernel)
  obtain ⟨-, closes, whole⟩ := all_or_nothing (understood "mail.xml" (by decide))
  obtain ⟨-, gives, nothing⟩ := whole rfl rfl
  have told : (run "mail.xml").output = Text.utf8 "Domain mail defined\n" := by decide +kernel
  have succeeds : (define "mail.xml").Succeeds Surroundings.desk := by
    refine Classical.byContradiction fun fails => ?_
    obtain ⟨-, silent, -⟩ := nothing fails
    rw [silent] at told
    cases told
  obtain ⟨past, -, -, closed, -⟩ := closes s (opened _)
  obtain ⟨-, -, -, silent⟩ := gives succeeds
  exact ⟨⟨⟨_, closed⟩, told, silent⟩, refused "gone.xml" (by decide) (.unreadable rfl gone),
    refused "disk.img" (by decide) (.noText rfl found garbled)⟩

end Run

end Supervisor

import Supervisor.Proofs.Daemon
import Supervisor.Proofs.Session.Run

/-!
# Calls across the wire and calls without one

A client that hands its requests to the daemon itself needs no frames, no stream and no connection.
A session whose stream has no faults cannot be told from it: every call gives the same, the daemon
receives the same requests in the same order, and the same handles are out.

## Main definitions

* `heard` - what a client makes of a reply
* `Direct`, `Direct.call` - a client that hands requests to the daemon itself
* `Mirrors` - a session that stands where such a client stands

## Main results

* `Mirrors.perform` - a call keeps them together
-/

namespace Supervisor

open Wire

/-- What a client makes of a reply: a failure is one of its own, and an empty message is none. -/
def heard : Reply → Except CallError Reply
  | .failure f => .error (.remote { f with message := f.message.filter (· ≠ "") })
  | reply => .ok reply

/-- A client that hands requests to the daemon itself. -/
structure Direct (δ : Type) where
  daemon : Served δ
  books : Books

namespace Direct

variable {δ : Type}

/-- A client that made no call yet, of a daemon that was not asked anything yet. -/
def start (step : δ → Request → Reply × δ) (state : δ) : Direct δ :=
  ⟨Served.start step state, .empty⟩

/-- Takes up what came of a call: the new tables, or the failure. -/
def conclude (d : Direct δ) :
    Except Complaint (Call.Value × Books) → Except CallError Call.Value × Direct δ
  | .ok (v, b) => (.ok v, { d with books := b })
  | .error c => (.error c.error, d)

/-- Carries out a call. A request that does not fit the wire format is refused here as well. -/
def call (d : Direct δ) (c : Call) : Except CallError Call.Value × Direct δ :=
  match c.plan with
  | .settle t => d.conclude (t.apply d.books)
  | .close => (.ok .done, d)
  | .ask e =>
    match e.request.encode with
    | .error unfit =>
      d.conclude (e.conclude d.books (.error (.rejected e.request.operation.name unfit)))
    | .ok _ =>
      { d with daemon := d.daemon.receive e.request }.conclude
        (e.conclude d.books (heard (d.daemon.reply e.request)))

end Direct

variable {δ : Type}

/-- What a client makes of the frame that answers its request. -/
theorem replyOf_answer {r : Request} {reply : Reply} {sent frame : Frame}
    (answers : Answers r reply) (encoded : r.encode = .ok sent)
    (fits : reply.encode (Daemon.answeredUnder r.operation reply) = .ok frame) :
    Session.replyOf r.operation (Exchange.judge sent frame) = heard reply := by
  have asked := (Request.of_encode encoded).1
  have answered := (Reply.of_encode fits).1
  rcases answers.structured with ⟨failure, rfl⟩ | structured
  · -- A failure comes under a tag that no request has, and is decoded when it is judged.
    have structured : (Reply.failure failure).IsOf .failure := rfl
    have other : sent.header.tag ≠ Operation.failure.tag := by
      rw [asked]
      exact fun same => r.operation_ne_failure (Operation.tag_injective same)
    rw [Exchange.judge_of_failure other answered (Reply.decode_of_encode structured fits)]
    rfl
  · -- Every other reply comes under the tag of its request, and nothing is lost on its way.
    have own : Daemon.answeredUnder r.operation reply = r.operation ∧ reply.received = reply ∧
        heard reply = .ok reply := by
      cases reply with
      | failure f => exact absurd structured (Reply.not_isOf_failure r.operation_ne_failure)
      | _ => exact ⟨rfl, rfl, rfl⟩
    rw [own.1] at fits answered
    rw [Exchange.judge_of_same (answered.trans asked.symm), own.2.2]
    have decoded := Reply.decode_of_encode structured fits
    rw [own.2.1] at decoded
    exact congrArg (Except.mapError CallError.malformed) decoded

namespace Session

/-- A session that stands where a client stands that hands its requests over itself. -/
structure Mirrors (s : Session (Served δ)) (d : Direct δ) : Prop where
  connected : s.connected = true
  smooth : Exchange.Smooth s.stream
  daemon : s.stream.peer = d.daemon
  books : s.books = d.books

variable {s : Session (Served δ)} {d : Direct δ}

theorem heard_clean {reply : Reply} {e : CallError} (failed : heard reply = .error e) :
    e.breaksConnection = false := by
  cases reply <;> cases failed
  rfl

/-- A request across the wire is a request handed over. -/
theorem Mirrors.request (mirrors : Mirrors s d) {r : Request} {sent : Frame}
    (encoded : r.encode = .ok sent) (answers : Answers r (d.daemon.reply r)) :
    ∃ s', request r some s = (heard (d.daemon.reply r), s') ∧
      Mirrors s' { d with daemon := d.daemon.receive r } := by
  obtain ⟨frame, fits⟩ := answers.fits
  have answer : Peer.answer s.stream.peer sent.toBytes = (frame.toBytes, d.daemon.receive r) := by
    rw [mirrors.daemon]
    exact d.daemon.answer_of_encode encoded fits
  obtain ⟨stream, ran, smooth, peer⟩ :=
    Exchange.run_of_smooth mirrors.smooth (Reply.of_encode fits).2.1 answer
  have judged := replyOf_answer answers encoded fits
  unfold Session.request
  simp only [encoded, mirrors.connected, if_true, note, ran, judged, noteAll_eq]
  have books : s.books = d.books := mirrors.books
  cases outcome : heard (d.daemon.reply r) with
  | ok reply => exact ⟨_, rfl, rfl, smooth, peer, books⟩
  | error e =>
    simp only [heard_clean outcome, Bool.false_eq_true, if_false]
    exact ⟨_, rfl, rfl, smooth, peer, books⟩

/-- What is settled across the wire is settled the same way without one. -/
theorem Mirrors.conclude (mirrors : Mirrors s d) (x : Except Complaint (Call.Value × Books)) :
    (s.conclude x).1 = (d.conclude x).1 ∧ Mirrors (s.conclude x).2 (d.conclude x).2 := by
  obtain ⟨connected, smooth, daemon, books⟩ := mirrors
  rcases x with c | ⟨v, b⟩
  · exact ⟨rfl, connected, smooth, daemon, books⟩
  · exact ⟨rfl, connected, smooth, daemon, rfl⟩

/-- One call keeps a session and the client that needs no wire together. -/
theorem Mirrors.perform (mirrors : Mirrors s d) (honest : Honest d.daemon.step) {c : Call}
    (notClose : c ≠ .close) :
    (perform c s).1 = (d.call c).1 ∧ Mirrors (perform c s).2 (d.call c).2 := by
  rw [perform_eq_follow]
  unfold Direct.call
  cases plan : c.plan with
  | settle t =>
    rw [follow, mirrors.books]
    exact mirrors.conclude _
  | close => exact absurd (Call.plan_eq_close_iff.1 plan) notClose
  | ask e =>
    cases encoded : e.request.encode with
    | error unfit =>
      have asked : Session.request e.request some s =
          (.error (.rejected e.request.operation.name unfit), s) := by
        simp only [Session.request, encoded]
      simp only [follow, asked, encoded, mirrors.books]
      exact mirrors.conclude _
    | ok sent =>
      obtain ⟨s', asked, mirrors'⟩ := mirrors.request encoded (honest d.daemon.state e.request)
      simp only [follow, asked, encoded, mirrors'.books]
      exact mirrors'.conclude _

/-- A fresh session with a daemon that knows what to say to one request. -/
def withAnswer (known : Request) (reply : Reply) : Session (Served Nat) :=
  start (Stream.toPeer (Served.start (answering [(known, reply)]) 0)) ⟨"/run/supervisor"⟩
    .readWrite .keep .empty

theorem mirrors_withAnswer (known : Request) (reply : Reply) :
    Mirrors (withAnswer known reply) (Direct.start (answering [(known, reply)]) 0) :=
  ⟨rfl, Exchange.smooth_toPeer _, rfl, rfl⟩

theorem honest_withAnswer {known : Request} {reply : Reply} (answers : Answers known reply) :
    Honest (answering [(known, reply)]) :=
  honest_answering (List.forall_mem_singleton.2 answers)

end Session

end Supervisor

import Supervisor.Proofs.Exchange
import Supervisor.Proofs.Session.Plan

/-!
# Runs of a session

A run is a session that is called again and again. Between two calls the conditions of its stream
may change in any way: how large the pieces are that are moved, how many bytes there is room for,
and how reads, writes and flushes fail. So a fault may strike at any byte of any call.

## Main definitions

* `Session.Asked` - the ways in which a request goes
* `Session.Step` - a call and the session it was made on
* `Stream.Conditions`, `Session.Run` - what may become of a session

## Main results

* `Session.asked_request` - a request goes in one of these ways
* `Session.perform_ask` - a call that asks is its request and a settlement
* `Session.Run.performAll` - calls one after another are a run
-/

namespace Supervisor

open Wire

namespace Session

variable {σ : Type}

/-! ### What stays the same -/

/-- The log is all that entries change. -/
theorem noteAll_eq (s : Session σ) (es : List Event) :
    s.noteAll es = { s with journal := ⟨s.journal.reports, s.journal.events ++ es⟩ } := by
  unfold noteAll
  induction es generalizing s with
  | nil => simp
  | cons e es ih =>
    rw [List.foldl_cons, ih]
    simp [note, Journal.note]

@[simp] theorem stream_conclude (s : Session σ) (x : Except Complaint (Call.Value × Books)) :
    (s.conclude x).2.stream = s.stream := by
  cases x <;> rfl

@[simp] theorem connected_conclude (s : Session σ) (x : Except Complaint (Call.Value × Books)) :
    (s.conclude x).2.connected = s.connected := by
  cases x <;> rfl

theorem conclude_error_iff {s : Session σ} {x : Except Complaint (Call.Value × Books)}
    {e : CallError} : (s.conclude x).1 = .error e ↔ ∃ object, x = .error ⟨e, object⟩ := by
  rcases x with ⟨e', object⟩ | ⟨v, b⟩ <;> simp [conclude]

theorem outcome_conclude (s : Session σ) (e : Errand) (b : Books)
    (answer : Except CallError Reply) :
    (s.conclude (e.conclude b answer)).1 = e.outcome b answer := by
  unfold Errand.outcome
  cases e.conclude b answer <;> rfl

/-! ### Requests -/

/-- The ways in which a request goes. In the first two nothing is sent, in the next two the
connection is given up, and in the last the daemon has answered. -/
inductive Asked [Peer σ] (r : Request) (s : Session σ) :
    Except CallError Reply → Session σ → Prop where
  | refused {e : Wire.Error} (unfit : r.encode = .error e) :
    Asked r s (.error (.rejected r.operation.name e)) s
  | idle {sent : Frame} (encoded : r.encode = .ok sent) (off : s.connected = false) :
    Asked r s (.error .notConnected) s
  | lost {sent : Frame} {e : Exchange.Error} {s' : Session σ} (encoded : r.encode = .ok sent)
      (on : s.connected = true) (loses : e.Loses) (off : s'.connected = false)
      (books : s'.books = s.books) :
    Asked r s (.error (exchangeFailure r.operation e)) s'
  | garbled {sent reply : Frame} {e : Wire.Error} {s' : Session σ} (encoded : r.encode = .ok sent)
      (on : s.connected = true) (crossed : Exchange.Crossed s.stream s'.stream sent reply)
      (decoded : Reply.decode reply = .error e) (off : s'.connected = false)
      (books : s'.books = s.books) :
    Asked r s (.error (.malformed e)) s'
  | answered {sent reply : Frame} {s' : Session σ} (encoded : r.encode = .ok sent)
      (on : s.connected = true) (crossed : Exchange.Crossed s.stream s'.stream sent reply)
      (clean : ∀ e, replyOf r.operation (Exchange.judge sent reply) = .error e →
        e.breaksConnection = false)
      (still : s'.connected = true) (books : s'.books = s.books) :
    Asked r s (replyOf r.operation (Exchange.judge sent reply)) s'

theorem Asked.same_books [Peer σ] {r : Request} {s s' : Session σ}
    {outcome : Except CallError Reply} (asked : Asked r s outcome s') : s'.books = s.books := by
  cases asked <;> first | rfl | assumption

theorem breaksConnection_of_loses (op : Operation) {e : Exchange.Error} (loses : e.Loses) :
    (exchangeFailure op e).breaksConnection = true := by
  cases loses <;> rfl

/-- What is judged either does not decode or leaves the connection in use. -/
theorem replyOf_judge (op : Operation) (sent reply : Frame) :
    (∃ e, Reply.decode reply = .error e ∧
      replyOf op (Exchange.judge sent reply) = .error (.malformed e)) ∨
    ∀ e, replyOf op (Exchange.judge sent reply) = .error e → e.breaksConnection = false := by
  unfold Exchange.judge
  -- Under the tag of the request a frame is taken as it is, and decoded only afterwards; under the
  -- reserved tag it is decoded at once.
  cases decoded : Reply.decode reply with
  | error e =>
    split
    · exact .inl ⟨e, rfl, congrArg (Except.mapError CallError.malformed) decoded⟩
    · split
      · exact .inl ⟨e, rfl, rfl⟩
      · exact .inr (by rintro e ⟨⟩; rfl)
  | ok r =>
    split
    · have taken : replyOf op (.ok reply) = .ok r :=
        congrArg (Except.mapError CallError.malformed) decoded
      refine .inr fun e failed => ?_
      cases taken.symm.trans failed
    · split
      · cases r <;> exact .inr (by rintro e ⟨⟩; rfl)
      · exact .inr (by rintro e ⟨⟩; rfl)

/-- A request goes in one of these ways. -/
theorem asked_request [Peer σ] (r : Request) (s : Session σ) :
    ∃ outcome s', request r some s = (outcome, s') ∧ Asked r s outcome s' := by
  unfold request
  cases encoded : r.encode with
  | error e => exact ⟨_, _, rfl, .refused encoded⟩
  | ok sent =>
    cases on : s.connected with
    | false => exact ⟨_, _, rfl, .idle encoded on⟩
    | true =>
      simp only [if_true, noteAll_eq]
      rcases Exchange.run_spec s.stream sent with
        ⟨e, stream, ran, loses⟩ | ⟨reply, stream, ran, crossed⟩
      · -- The stream is at an unknown place, and every such failure gives the connection up.
        have breaks := breaksConnection_of_loses r.operation loses
        simp only [note, ran, replyOf, breaks, if_true]
        exact ⟨_, _, rfl, .lost encoded on loses rfl rfl⟩
      · simp only [note, ran]
        rcases replyOf_judge r.operation sent reply with ⟨e, decoded, malformed⟩ | clean
        · simp only [malformed]
          exact ⟨_, _, rfl, .garbled encoded on crossed decoded rfl rfl⟩
        · cases outcome : replyOf r.operation (Exchange.judge sent reply) with
          | error e =>
            simp only [clean e outcome, Bool.false_eq_true, if_false]
            exact ⟨_, _, rfl, outcome ▸ .answered encoded on crossed clean on rfl⟩
          | ok value => exact ⟨_, _, rfl, outcome ▸ .answered encoded on crossed clean on rfl⟩

/-- A call that asks is its request and a settlement with the tables, which the request leaves
alone. -/
theorem perform_ask [Peer σ] {c : Call} {e : Errand} (plan : c.plan = .ask e) (s : Session σ) :
    ∃ outcome s', Asked e.request s outcome s' ∧
      perform c s = s'.conclude (e.conclude s.books outcome) := by
  obtain ⟨outcome, s', ran, asked⟩ := asked_request e.request s
  refine ⟨outcome, s', asked, ?_⟩
  rw [perform_eq_follow, plan, follow, ran, ← asked.same_books]

/-- What a call gives that asks. -/
theorem outcome_of_ask [Peer σ] {c : Call} {e : Errand} (plan : c.plan = .ask e) (s : Session σ) :
    (perform c s).1 = e.outcome s.books (request e.request some s).1 := by
  obtain ⟨outcome, s', ran, asked⟩ := asked_request e.request s
  rw [perform_eq_follow, plan, follow, ran, ← asked.same_books]
  exact outcome_conclude _ _ _ _

theorem perform_settle [Peer σ] {c : Call} {t : Settlement} (plan : c.plan = .settle t)
    (s : Session σ) : perform c s = s.conclude (t.apply s.books) := by
  rw [perform_eq_follow, plan, follow]

theorem perform_close [Peer σ] {c : Call} (plan : c.plan = .close) (s : Session σ) :
    perform c s = (.ok .done, s.close) := by
  rw [perform_eq_follow, plan, follow]

/-! ### Runs -/

/-- A call and the session it was made on. -/
structure Step (σ : Type) where
  before : Session σ
  call : Call

namespace Step

variable [Peer σ]

/-- What the call gave. -/
def outcome (t : Step σ) : Except CallError Call.Value := (perform t.call t.before).1

/-- What the session became. -/
def after (t : Step σ) : Session σ := (perform t.call t.before).2

end Step

end Session

/-- Everything about a stream that decides how transfers go. -/
structure Stream.Conditions where
  ending : Option Fault
  readPace : Pace
  room : Option Nat
  blocked : Option Fault
  writePace : Pace
  flushFault : Option Fault

namespace Session

variable {σ : Type}

/-- The session with other conditions on its stream. The bytes on their way are the same. -/
def under (s : Session σ) (w : Stream.Conditions) : Session σ :=
  { s with stream := { s.stream with
      ending := w.ending, readPace := w.readPace, room := w.room, blocked := w.blocked,
      writePace := w.writePace, flushFault := w.flushFault } }

/-- What becomes of a session when it is called, and the conditions of its stream change, again and
again: the calls so far, and the session now. -/
inductive Run [Peer σ] (s₀ : Session σ) : List (Step σ) → Session σ → Prop where
  | start : Run s₀ [] s₀
  | call {past : List (Step σ)} {s : Session σ} (run : Run s₀ past s) (c : Call) :
    Run s₀ (past ++ [⟨s, c⟩]) (perform c s).2
  | weather {past : List (Step σ)} {s : Session σ} (run : Run s₀ past s) (w : Stream.Conditions) :
    Run s₀ past (s.under w)

theorem performAll_cons [Peer σ] (s : Session σ) (c : Call) (cs : List Call) :
    s.performAll (c :: cs) = ((perform c s).1 :: ((perform c s).2.performAll cs).1,
      ((perform c s).2.performAll cs).2) :=
  rfl

/-- Calls one after another are a run. -/
theorem Run.performAll [Peer σ] {s₀ s : Session σ} {past : List (Step σ)} (run : Run s₀ past s)
    (cs : List Call) :
    ∃ more : List (Step σ), Run s₀ (past ++ more) (s.performAll cs).2 ∧
      more.map Step.call = cs ∧ more.map Step.outcome = (s.performAll cs).1 := by
  -- The run is general, because each call starts where the run up to then has led.
  induction cs generalizing past s with
  | nil => exact ⟨[], by simpa [Session.performAll] using run, rfl, rfl⟩
  | cons c cs ih =>
    obtain ⟨more, run, calls, outcomes⟩ := ih (run.call c)
    refine ⟨⟨s, c⟩ :: more, ?_, by simp [calls], ?_⟩
    · rw [List.append_assoc] at run
      exact run
    · rw [List.map_cons, outcomes, performAll_cons]
      rfl

end Session

end Supervisor

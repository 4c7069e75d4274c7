import Supervisor.Proofs.Session.Remote
import Supervisor.Proofs.Wire.Encoding

/-!
# Sessions without a connection

A session that has lost its connection, or was closed, stays that way and keeps quiet. What needs the
daemon is refused, but an argument that does not fit is still refused for that: the request is
encoded before anybody looks for a connection. What needs no daemon goes on as before, and that is
only to give handles back.

## Main definitions

* `Call.asks`, `Call.texts` - whether a call needs the daemon, and the texts it would send
* `Call.unsupported?`, `Handle.release` - calls that never need it
* `Stream.Still` - no byte was moved
* `Session.Offline` - what a call does without a connection

## Main results

* `Session.request_of_off` - what needs the daemon is refused
* `Session.offline` - what every call does without a connection
* `Session.offline_of_run` - and so it stays
-/

namespace Supervisor

open Wire

namespace Call

/-- Whether a call needs the daemon. -/
def asks : Call → Bool
  | .saveDomain _ _ | .restoreDomain _ | .releaseDomain _ | .releaseNetwork _ | .close => false
  | _ => true

/-- The texts that a call sends to the daemon. -/
def texts : Call → List FieldText
  | .createDomain s | .defineDomain s | .createNetwork s | .defineNetwork s =>
    [⟨"descriptor", 4096, s⟩]
  | .domainByName s | .networkByName s => [⟨"name", 50, s⟩]
  | _ => []

/-- The name of an operation that is not offered. -/
def unsupported? : Call → Option String
  | .saveDomain _ _ => some "save"
  | .restoreDomain _ => some "restore"
  | _ => none

theorem asks_iff {c : Call} : c.asks = true ↔ ∃ e, c.plan = .ask e := by
  cases c with
  | saveDomain | restoreDomain | releaseDomain | releaseNetwork | close => simp [asks, plan]
  | _ => exact ⟨fun _ => ⟨_, rfl⟩, fun _ => rfl⟩

theorem unsupported?_of_asks {c : Call} (asks : c.asks = true) : c.unsupported? = none := by
  cases c with
  | saveDomain | restoreDomain => cases asks
  | _ => rfl

theorem texts_request {c : Call} {e : Errand} (plan : c.plan = .ask e) :
    e.request.texts = c.texts := by
  cases c <;> cases plan <;> rfl

end Call

/-- The call that gives a handle back. -/
def Handle.release : Handle → Call
  | domain d => .releaseDomain d
  | network n => .releaseNetwork n

theorem Handle.plan_release (h : Handle) : h.release.plan = .settle (.takeBack h) := by
  cases h <;> rfl

/-- What needs no daemon is to give a handle back, or it is not offered. -/
theorem Call.of_plan_settle {c : Call} {t : Settlement} (plan : c.plan = .settle t) :
    (∃ h : Handle, c = h.release ∧ t = .takeBack h) ∨
      ∃ operation object, c.unsupported? = some operation ∧
        t = .complain (.unsupported operation) object := by
  cases c with
  | saveDomain | restoreDomain =>
    cases plan
    exact .inr ⟨_, _, rfl, rfl⟩
  | releaseDomain d =>
    cases plan
    exact .inl ⟨.domain d, rfl, rfl⟩
  | releaseNetwork n =>
    cases plan
    exact .inl ⟨.network n, rfl, rfl⟩
  | _ => cases plan

/-- No byte was moved: the same bytes were sent, handed over and read as before. -/
structure Stream.Still {σ : Type} (s s' : Stream σ) : Prop where
  sent : s'.sent = s.sent
  unflushed : s'.unflushed = s.unflushed
  incoming : s'.incoming = s.incoming
  peer : s'.peer = s.peer

namespace Session

variable {σ : Type}

theorem close_of_off {s : Session σ} (off : s.connected = false) : s.close = s := by
  simp [close, off]

/-- The session as it would be with a connection over some stream. -/
def online (s : Session σ) (stream : Stream σ) : Session σ := { s with stream, connected := true }

theorem conclude_online (s : Session σ) (stream : Stream σ)
    (x : Except Complaint (Call.Value × Books)) :
    (s.online stream).conclude x = ((s.conclude x).1, (s.conclude x).2.online stream) := by
  cases x <;> rfl

variable [Peer σ]

/-- A request without a connection is refused for its text, or else for the connection. -/
theorem request_of_off (r : Request) {s : Session σ} (off : s.connected = false) :
    (∃ t ∈ r.texts, ∃ e, t.Refused e ∧
      request r some s = (.error (.rejected r.operation.name e), s)) ∨
    ((∀ t ∈ r.texts, t.Fits) ∧ request r some s = (.error .notConnected, s)) := by
  cases encoded : r.encode with
  | error e =>
    obtain ⟨t, text, refused⟩ := Request.encode_eq_error_iff.1 encoded
    exact .inl ⟨t, text, e, refused, by simp only [request, encoded]⟩
  | ok sent =>
    refine .inr ⟨fun t text => Classical.not_not.1 fun unfit => ?_, ?_⟩
    · obtain ⟨e, refused⟩ := FieldText.exists_refused unfit
      cases encoded.symm.trans (Request.encode_eq_error_iff.2 ⟨t, text, refused⟩)
    · simp only [request, encoded, off, Bool.false_eq_true, if_false]

/-- A call whose request fails at once is reported, and that is all. -/
theorem perform_of_request {c : Call} {e : Errand} {failure : CallError} {s : Session σ}
    (plan : c.plan = .ask e) (asked : request e.request some s = (.error failure, s)) :
    perform c s = (.error failure, s.report failure e.object) := by
  rw [perform_eq_follow, plan, follow, asked]
  rfl

/-- What a call does without a connection. -/
structure Offline (t : Step σ) : Prop where
  /-- The connection does not come back. -/
  off : t.after.connected = false
  /-- No transfer is tried. -/
  silent : t.after.stream = t.before.stream
  close : t.call = .close → t.outcome = .ok .done ∧ t.after = t.before
  unsupported : ∀ operation, t.call.unsupported? = some operation →
    t.outcome = .error (.unsupported operation)
  rejected : (∃ x ∈ t.call.texts, ¬ x.Fits) → ∃ x ∈ t.call.texts, ∃ errand e,
    t.call.plan = .ask errand ∧ x.Refused e ∧
      t.outcome = .error (.rejected errand.request.operation.name e)
  notConnected : t.call.asks = true → (∀ x ∈ t.call.texts, x.Fits) →
    t.outcome = .error .notConnected
  /-- Handles are given back as with a connection. -/
  releases : ∀ h : Handle, t.call = h.release → ∀ stream,
    perform t.call (t.before.online stream) = (t.outcome, t.after.online stream)
  /-- Nothing else changes the tables. -/
  keeps : (∀ h : Handle, t.call ≠ h.release) → t.after.books = t.before.books

variable {s : Session σ} {c : Call}

theorem offline_close (off : s.connected = false) : Offline ⟨s, .close⟩ := by
  have performed : perform .close s = (.ok .done, s) := by
    rw [perform_close rfl, close_of_off off]
  refine ⟨?_, ?_, fun _ => ⟨?_, ?_⟩, nofun, by rintro ⟨x, ⟨⟩, -⟩, nofun, ?_, fun _ => ?_⟩
  · simp only [Step.after, performed, off]
  · simp only [Step.after, performed]
  · simp only [Step.outcome, performed]
  · simp only [Step.after, performed]
  · rintro (d | n) ⟨⟩
  · simp only [Step.after, performed]

theorem offline_release (h : Handle) (off : s.connected = false) : Offline ⟨s, h.release⟩ := by
  have performed := fun s : Session σ => perform_settle h.plan_release s
  refine ⟨?_, ?_, ?_, ?_, ?_, ?_, fun _ _ stream => ?_, fun other => absurd rfl (other h)⟩
  · simp only [Step.after, performed, connected_conclude, off]
  · simp only [Step.after, performed, stream_conclude]
  · cases h <;> rintro ⟨⟩
  · cases h <;> rintro operation ⟨⟩
  · cases h <;> rintro ⟨x, ⟨⟩, -⟩
  · cases h <;> rintro ⟨⟩
  · simp only [Step.outcome, Step.after, performed]
    exact conclude_online s stream _

/-- A call that fails and is reported leaves the session as it is. -/
theorem offline_of_report {e : CallError} {object : Option String}
    (performed : perform c s = (.error e, s.report e object)) (off : s.connected = false)
    (notClose : c ≠ .close) (notRelease : ∀ h : Handle, c ≠ h.release)
    (unsupported : ∀ operation, c.unsupported? = some operation → e = .unsupported operation)
    (rejected : (∃ x ∈ c.texts, ¬ x.Fits) → ∃ x ∈ c.texts, ∃ errand e',
      c.plan = .ask errand ∧ x.Refused e' ∧ e = .rejected errand.request.operation.name e')
    (notConnected : c.asks = true → (∀ x ∈ c.texts, x.Fits) → e = .notConnected) :
    Offline ⟨s, c⟩ := by
  have outcome : (⟨s, c⟩ : Step σ).outcome = .error e := by simp only [Step.outcome, performed]
  have after : (⟨s, c⟩ : Step σ).after = s.report e object := by simp only [Step.after, performed]
  refine ⟨?_, ?_, fun close => absurd close notClose, fun operation is => ?_, fun unfit => ?_,
    fun asks fit => ?_, fun h is => absurd is (notRelease h), fun _ => ?_⟩
  · exact after ▸ off
  · rw [after]
    rfl
  · rw [outcome, unsupported operation is]
  · obtain ⟨x, text, errand, e', plan, refused, rfl⟩ := rejected unfit
    exact ⟨x, text, errand, e', plan, refused, outcome⟩
  · rw [outcome, notConnected asks fit]
  · rw [after]
    rfl

theorem offline_unsupported {operation : String} {object : Option String}
    (unsupported : c.unsupported? = some operation)
    (plan : c.plan = .settle (.complain (.unsupported operation) object))
    (off : s.connected = false) : Offline ⟨s, c⟩ := by
  have performed : perform c s =
      (.error (.unsupported operation), s.report (.unsupported operation) object) :=
    perform_settle plan s
  have silent : c.texts = [] ∧ c.asks = false := by
    cases c with
    | saveDomain | restoreDomain => exact ⟨rfl, rfl⟩
    | _ => cases unsupported
  refine offline_of_report performed off ?_ ?_ ?_ ?_ ?_
  · rintro rfl
    cases unsupported
  · rintro (d | n) rfl <;> cases unsupported
  · intro operation' is
    rw [Option.some.inj (unsupported.symm.trans is)]
  · simp [silent.1]
  · simp [silent.2]

theorem offline_ask {errand : Errand} (plan : c.plan = .ask errand) (off : s.connected = false) :
    Offline ⟨s, c⟩ := by
  have asks : c.asks = true := Call.asks_iff.2 ⟨errand, plan⟩
  have notClose : c ≠ .close := by
    rintro rfl
    cases asks
  have notRelease : ∀ h : Handle, c ≠ h.release := by
    rintro (d | n) rfl <;> cases asks
  have noneUnsupported : ∀ {e} operation, c.unsupported? = some operation →
      e = CallError.unsupported operation := by
    intro e operation is
    cases (Call.unsupported?_of_asks asks).symm.trans is
  -- The text of the request decides why it fails.
  have texts := Call.texts_request plan
  rcases request_of_off errand.request off with ⟨t, text, e, refused, asked⟩ | ⟨fit, asked⟩
  · rw [texts] at text
    refine offline_of_report (perform_of_request plan asked) off notClose notRelease
      noneUnsupported (fun _ => ⟨t, text, errand, e, plan, refused, rfl⟩) fun _ fit => ?_
    exact absurd (fit t text) refused.not_fits
  · rw [texts] at fit
    refine offline_of_report (perform_of_request plan asked) off notClose notRelease
      noneUnsupported ?_ fun _ _ => rfl
    rintro ⟨x, text, unfit⟩
    exact absurd (fit x text) unfit

/-- What every call does without a connection. -/
theorem offline {t : Step σ} (off : t.before.connected = false) : Offline t := by
  obtain ⟨s, c⟩ := t
  cases plan : c.plan with
  | close =>
    obtain rfl := Call.plan_eq_close_iff.1 plan
    exact offline_close off
  | settle settlement =>
    rcases Call.of_plan_settle plan with ⟨h, rfl, rfl⟩ | ⟨operation, object, unsupported, rfl⟩
    · exact offline_release h off
    · exact offline_unsupported unsupported plan off
  | ask errand => exact offline_ask plan off

/-- Without a connection a session stays without one, whatever it is called for, and no byte is sent
or read any more. -/
theorem offline_of_run {s₀ s : Session σ} {past : List (Step σ)} (off : s₀.connected = false)
    (run : Run s₀ past s) :
    s.connected = false ∧ s₀.stream.Still s.stream ∧ ∀ t ∈ past, Offline t := by
  -- One step keeps the connection away and the stream as it is; the weather moves no byte.
  induction run with
  | start => exact ⟨off, ⟨rfl, rfl, rfl, rfl⟩, fun t made => absurd made List.not_mem_nil⟩
  | @call past s run c ih =>
    obtain ⟨before, still, steps⟩ := ih
    have step : Offline ⟨s, c⟩ := offline before
    refine ⟨step.off, ?_, ?_⟩
    · exact step.silent.symm ▸ still
    · intro t made
      rcases List.mem_append.1 made with earlier | last
      · exact steps t earlier
      · exact List.mem_singleton.1 last ▸ step
  | weather run w ih =>
    obtain ⟨before, ⟨sent, unflushed, incoming, peer⟩, steps⟩ := ih
    exact ⟨before, ⟨sent, unflushed, incoming, peer⟩, steps⟩

theorem offline_after_close :
    let s := (perform .close (withAnswer .version (.version 7))).2
    s.connected = false ∧ (perform .version s).1 = .error .notConnected ∧
      (perform .version s).2.connected = false ∧
      s.stream.Still (perform .version s).2.stream := by
  intro s
  have off : s.connected = false := rfl
  obtain ⟨stays, still, steps⟩ := offline_of_run off (.call .start .version)
  have step : Offline ⟨s, .version⟩ := steps _ (List.mem_singleton_self _)
  exact ⟨off, step.notConnected rfl nofun, stays, still⟩

end Session

end Supervisor

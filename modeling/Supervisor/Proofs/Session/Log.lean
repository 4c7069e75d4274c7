import Supervisor.Proofs.Session.Run

/-!
# What the log of a session tells

The log of a session only grows, and a request is announced in it before the first byte of the
request is written. So where nothing is announced any more, nothing is sent.

## Main definitions

* `Session.announcement` - the entry that announces a request
* `Session.Logs` - the log has grown, and announces a request if the stream has moved

## Main results

* `Session.logs_perform` - a call logs what it does
* `Session.Run.logs` - so does every call of a run, and later calls keep what it logged
* `Session.exists_close` - closing a session announces nothing
-/

namespace Supervisor.Session

open Wire

variable {σ : Type}

/-- The entry that announces a request. -/
def announcement (op : Operation) : Event :=
  { level := .debug, source := .dispatch, message := "dispatching request",
    fields := [("operation", op.name)] }

/-- What a session logged to become another one: the log has grown, and unless the stream is as it
was, a request is announced in what was added. -/
def Logs (s s' : Session σ) : Prop :=
  ∃ added, s'.journal.events = s.journal.events ++ added ∧
    (s'.stream = s.stream ∨ ∃ op, announcement op ∈ added)

namespace Logs

variable {s s' s'' : Session σ}

theorem refl (s : Session σ) : s.Logs s := ⟨[], (List.append_nil _).symm, .inl rfl⟩

theorem trans (first : s.Logs s') (others : s'.Logs s'') : s.Logs s'' := by
  obtain ⟨added, events, moved⟩ := first
  obtain ⟨more, events', moved'⟩ := others
  refine ⟨added ++ more, by rw [events', events, List.append_assoc], ?_⟩
  -- Whichever of the two has moved the stream, its announcement is among what both have added.
  rcases moved with still | ⟨op, told⟩
  · rcases moved' with still' | ⟨op, told⟩
    · exact .inl (still'.trans still)
    · exact .inr ⟨op, List.mem_append_right _ told⟩
  · exact .inr ⟨op, List.mem_append_left _ told⟩

theorem isPrefix (logs : s.Logs s') : s.journal.events <+: s'.journal.events := by
  obtain ⟨added, events, -⟩ := logs
  exact ⟨added, events.symm⟩

end Logs

theorem logs_note (s : Session σ) (e : Event) : s.Logs (s.note e) := ⟨[e], rfl, .inl rfl⟩

theorem logs_report (s : Session σ) (e : CallError) (object : Option String) :
    s.Logs (s.report e object) := by
  unfold report Journal.add
  cases s.sink with
  | keep => exact ⟨[], (List.append_nil _).symm, .inl rfl⟩
  | log => exact ⟨[_], rfl, .inl rfl⟩

theorem logs_conclude (s : Session σ) (x : Except Complaint (Call.Value × Books)) :
    s.Logs (s.conclude x).2 := by
  rcases x with ⟨e, object⟩ | ⟨v, b⟩
  · exact logs_report s e object
  · exact ⟨[], (List.append_nil _).symm, .inl rfl⟩

/-- What closing a session adds to its log is no announcement. -/
theorem exists_close (s : Session σ) :
    ∃ farewell, s.close.journal.events = s.journal.events ++ farewell ∧
      ∀ op, announcement op ∉ farewell := by
  unfold close
  split
  · refine ⟨[_], rfl, fun op told => ?_⟩
    have same : "dispatching request" = "closed supervisor connection" :=
      congrArg Event.message (List.mem_singleton.1 told)
    exact absurd same (by decide)
  · exact ⟨[], (List.append_nil _).symm, fun _ => List.not_mem_nil⟩

@[simp] theorem connected_close (s : Session σ) : s.close.connected = false := by
  unfold close
  split
  · rfl
  · next off => exact Bool.not_eq_true _ ▸ off

@[simp] theorem stream_close (s : Session σ) : s.close.stream = s.stream := by
  unfold close
  split <;> rfl

theorem logs_close (s : Session σ) : s.Logs s.close := by
  obtain ⟨farewell, events, -⟩ := s.exists_close
  exact ⟨farewell, events, .inl s.stream_close⟩

variable [Peer σ]

/-- A request is announced unless it leaves the stream alone. -/
theorem logs_request (r : Request) (s : Session σ) : s.Logs (request r some s).2 := by
  unfold request
  cases r.encode with
  | error e => exact .refl s
  | ok sent =>
    cases s.connected with
    | false => exact .refl s
    | true =>
      simp only [if_true, noteAll_eq, note, Journal.note]
      generalize Exchange.run (σ := σ) _ sent = result
      obtain ⟨outcome, stream, events⟩ := result
      -- Whatever comes of the exchange, the announcement stands before its entries.
      have crossed : s.Logs { s with
          stream, journal := ⟨s.journal.reports,
            s.journal.events ++ [announcement r.operation] ++ events⟩ } :=
        ⟨announcement r.operation :: events, by simp, .inr ⟨_, List.mem_cons_self⟩⟩
      dsimp only
      cases replyOf r.operation outcome with
      | ok reply => exact crossed
      | error e =>
        dsimp only
        split
        · exact crossed.trans (logs_note _ _)
        · exact crossed

/-- A call logs what it does. -/
theorem logs_perform (c : Call) (s : Session σ) : s.Logs (perform c s).2 := by
  rw [perform_eq_follow]
  cases c.plan with
  | close => exact s.logs_close
  | settle t => exact s.logs_conclude _
  | ask errand => exact (logs_request errand.request s).trans (logs_conclude _ _)

/-- Every call of a run logs what it does, and later calls keep what it logged. -/
theorem Run.logs {s₀ s : Session σ} {past : List (Step σ)} (run : Run s₀ past s) :
    ∀ t ∈ past, t.before.Logs t.after ∧ t.after.journal.events <+: s.journal.events := by
  induction run with
  | start => exact List.forall_mem_nil _
  | @call past s run c ih =>
    -- The log of a step so far is a prefix of the log, which the last call makes no shorter.
    have last := logs_perform c s
    intro t member
    rcases List.mem_append.1 member with earlier | here
    · obtain ⟨logs, kept⟩ := ih t earlier
      exact ⟨logs, kept.trans last.isPrefix⟩
    · cases List.mem_singleton.1 here
      exact ⟨last, List.prefix_refl _⟩
  | weather run w ih => exact ih

end Supervisor.Session

import Supervisor.Proofs.Session.Failures
import Supervisor.Proofs.Session.Tables

/-!
# Reports of failures

Whoever uses a session hears of every failure once: in the order of the calls, one report for each
call that failed and none for the others. Several steps of a call may fail, but a call stops at the
first one that does. The report says what the error says that the call gave, and if it names an
object, the caller named it before.

## Main definitions

* `Call.subject?`, `Call.object?` - the object that a call names, and the one that its report names
* `Session.Step.report?` - the report of a call
* `Journal.Gains` - what was reported from one moment to another

## Main results

* `Session.object_of_conclude` - which object the report of a call names
* `Session.gains_perform` - one call makes one report or none
* `Session.reports_of_run` - the reports of a run are those of its failed calls
-/

namespace Supervisor

open Wire

/-- The object that a call names: the one that it looks up, or that its handle is for. -/
def Call.subject? : Call → Option String
  | .domainByName name | .networkByName name => some name
  | c => c.handle?.map Handle.name

/-- The object that the report of a failed call names. What is wrong with a handle is reported with
the handle that was to be taken back; one that was to be given out has no name yet. -/
def Call.object? (c : Call) : CallError → Option String
  | .handles _ => c.takes?.map Handle.name
  | _ => c.subject?

namespace Journal

/-- The reports that went to the log. -/
def told (j : Journal) : List Event := j.events.filter (·.source = .report)

/-- What was reported from one moment to another, wherever reports go. -/
def Gains (j j' : Journal) : Sink → List Report → Prop
  | .keep, rs => j'.reports = j.reports ++ rs ∧ j'.told = j.told
  | .log, rs => j'.reports = j.reports ∧ j'.told = j.told ++ rs.map Report.logEntry

variable {j j' j'' : Journal} {sink : Sink}

theorem Gains.refl (j : Journal) (sink : Sink) : j.Gains j sink [] := by
  cases sink <;> simp [Gains]

theorem Gains.trans {rs rs' : List Report} (first : j.Gains j' sink rs)
    (others : j'.Gains j'' sink rs') : j.Gains j'' sink (rs ++ rs') := by
  cases sink with
  | keep =>
    refine ⟨?_, others.2.trans first.2⟩
    rw [others.1, first.1, List.append_assoc]
  | log =>
    refine ⟨others.1.trans first.1, ?_⟩
    rw [others.2, first.2, List.map_append, List.append_assoc]

theorem gains_add (j : Journal) (sink : Sink) (r : Report) : j.Gains (j.add sink r) sink [r] := by
  cases sink with
  | keep => exact ⟨rfl, rfl⟩
  | log =>
    refine ⟨rfl, ?_⟩
    simp [told, add, note, Report.logEntry]

/-- An entry of another part of the client is no report. -/
theorem gains_note {e : Event} (other : e.source ≠ .report) : j.Gains (j.note e) sink [] := by
  have same : (j.note e).told = j.told := by
    simp [told, note, other]
  cases sink with
  | keep => exact ⟨(List.append_nil _).symm, same⟩
  | log => exact ⟨rfl, same.trans (List.append_nil _).symm⟩

end Journal

/-- What an exchange logs is no report. -/
theorem Exchange.source_of_run {σ : Type} [Peer σ] {s s' : Stream σ} {request : Frame}
    {outcome : Except Error Frame} {events : List Event}
    (ran : run s request = (outcome, s', events)) : ∀ e ∈ events, e.source ≠ .report := by
  rcases run_spec s request with ⟨_, _, failed, -⟩ | ⟨_, _, done, -⟩
  · cases ran.symm.trans failed
    exact fun e logged => absurd logged List.not_mem_nil
  · cases ran.symm.trans done
    intro e logged
    cases List.mem_singleton.1 logged
    nofun

namespace Session

variable {σ : Type}

/-- Nothing was reported. -/
def Quiet (s s' : Session σ) : Prop := s'.sink = s.sink ∧ s.journal.Gains s'.journal s.sink []

theorem Quiet.refl (s : Session σ) : s.Quiet s := ⟨rfl, .refl _ _⟩

theorem Quiet.trans {s s' s'' : Session σ} (first : s.Quiet s') (others : s'.Quiet s'') :
    s.Quiet s'' :=
  ⟨others.1.trans first.1, first.2.trans (first.1 ▸ others.2)⟩

theorem quiet_note {s : Session σ} {e : Event} (other : e.source ≠ .report) : s.Quiet (s.note e) :=
  ⟨rfl, Journal.gains_note other⟩

theorem quiet_noteAll {s : Session σ} {es : List Event} (other : ∀ e ∈ es, e.source ≠ .report) :
    s.Quiet (s.noteAll es) := by
  induction es generalizing s with
  | nil => exact .refl s
  | cons e es ih =>
    obtain ⟨first, others⟩ := List.forall_mem_cons.1 other
    exact (quiet_note first).trans (ih others)

theorem quiet_discard (s : Session σ) (op : Operation) (e : CallError) :
    s.Quiet (s.discard op e) :=
  quiet_note (s := s) nofun

theorem quiet_close (s : Session σ) : s.Quiet s.close := by
  unfold close
  split
  · exact quiet_note (s := s) nofun
  · exact .refl s

variable [Peer σ]

/-- A request reports nothing by itself. -/
theorem quiet_request (r : Request) (s : Session σ) : s.Quiet (request r some s).2 := by
  unfold request
  cases r.encode with
  | error e => exact .refl s
  | ok sent =>
    cases s.connected with
    | false => exact .refl s
    | true =>
      simp only [if_true]
      generalize ran : Exchange.run (σ := σ) _ sent = result
      obtain ⟨outcome, stream, events⟩ := result
      -- The session with the stream after the exchange has the journal of the one before it.
      have started : s.Quiet { s.note ⟨.debug, .dispatch, "dispatching request",
          [("operation", r.operation.name)]⟩ with stream } := quiet_note (s := s) nofun
      have crossed := started.trans (quiet_noteAll (Exchange.source_of_run ran))
      dsimp only
      cases replyOf r.operation outcome with
      | ok reply => exact crossed
      | error e =>
        dsimp only
        split
        · exact crossed.trans (quiet_discard _ _ _)
        · exact crossed

/-! ### Which object is named -/

variable {c : Call} {e : CallError} {object : Option String}

/-- What is wrong with a request has nothing to do with handles. -/
theorem not_handles_of_ends {r : Request} (ends : r.Ends (.error e)) (e' : HandleTable.Error) :
    e ≠ .handles e' := by
  cases ends <;> nofun

theorem object_of_ask {errand : Errand} (plan : c.plan = .ask errand) :
    errand.object = c.subject? := by
  cases c <;> cases plan <;> rfl

theorem object?_eq_subject? (other : ∀ e', e ≠ .handles e') : c.object? e = c.subject? := by
  cases e with
  | handles e' => exact absurd rfl (other e')
  | _ => rfl

/-- What a call says against a reply has nothing to do with handles either. -/
theorem not_handles_of_complains (complains : c.Complains e) (e' : HandleTable.Error) :
    e ≠ .handles e' := by
  cases complains with
  | negativeCount negative =>
    obtain ⟨label, n, -, -, rfl⟩ := negative
    nofun
  | _ => nofun

/-- A settlement that fails names the object of its complaint, or that of the handle. -/
theorem object_of_apply {t : Settlement} {b : Books} (suits : Suits c t)
    (own : t = .complain e object → object = c.object? e)
    (failed : t.apply b = .error ⟨e, object⟩) : object = c.object? e := by
  cases Settlement.fails_of_apply failed with
  | complains => exact own rfl
  | handsOut h e => simp only [Call.object?, suits.2, Option.map_none]
  | takesBack h e => simp only [Call.object?, suits.2, Option.map_some]

/-- What comes of a request names the object that its report is to name. -/
theorem object_of_conclude {errand : Errand} (plan : c.plan = .ask errand) {b : Books}
    {answer : Except CallError Reply} (ends : errand.request.Ends answer)
    (failed : errand.conclude b answer = .error ⟨e, object⟩) : object = c.object? e := by
  cases answer with
  | error failure =>
    cases failed
    rw [object_of_ask plan, object?_eq_subject? (not_handles_of_ends ends)]
  | ok reply =>
    cases settled : errand.settle reply with
    | none =>
      simp only [Errand.conclude, settled] at failed
      cases failed
      exact object_of_ask plan
    | some t =>
      simp only [Errand.conclude, settled] at failed
      refine object_of_apply (suits_of_ask plan settled) ?_ failed
      rintro rfl
      obtain ⟨complains, same⟩ := complains_of_settle plan settled
      rw [same, object_of_ask plan, object?_eq_subject? (not_handles_of_complains complains)]

theorem object_of_plan_settle {t : Settlement} (plan : c.plan = .settle t) {b : Books}
    (failed : t.apply b = .error ⟨e, object⟩) : object = c.object? e := by
  refine object_of_apply (suits_of_settle plan) ?_ failed
  rintro rfl
  cases c <;> cases plan <;> rfl

/-- If the report of a call names an object, the caller named it. -/
theorem subject?_of_object? {name : String} (named : c.object? e = some name) :
    c.subject? = some name := by
  cases e with
  | handles e' => cases c <;> first | exact named | cases named
  | _ => exact named

/-! ### Reports of calls -/

/-- The report of a call: one if it failed, and none otherwise. -/
def Step.report? (t : Step σ) : Option Report :=
  match t.outcome with
  | .ok _ => none
  | .error e => some (e.report (t.call.object? e))

/-- A call reports what is concluded after a request that reports nothing. -/
theorem gains_of_conclude {s s' : Session σ} {x : Except Complaint (Call.Value × Books)}
    (quiet : s.Quiet s') (performed : perform c s = s'.conclude x)
    (named : ∀ e object, x = .error ⟨e, object⟩ → object = c.object? e) :
    (perform c s).2.sink = s.sink ∧
      s.journal.Gains (perform c s).2.journal s.sink (Step.report? ⟨s, c⟩).toList := by
  obtain ⟨sink, silent⟩ := quiet
  simp only [Step.report?, Step.outcome, performed]
  rcases x with ⟨e, object⟩ | ⟨v, b⟩
  · have added := Journal.gains_add s'.journal s.sink (e.report object)
    rw [named e object rfl] at added
    have after : (s'.conclude (.error ⟨e, object⟩)).2.journal =
        s'.journal.add s.sink (e.report (c.object? e)) := by
      rw [← named e object rfl, ← sink]
      rfl
    refine ⟨sink, ?_⟩
    rw [after]
    exact silent.trans added
  · exact ⟨sink, silent⟩

/-- One call makes one report or none. -/
theorem gains_perform (c : Call) (s : Session σ) :
    (perform c s).2.sink = s.sink ∧
      s.journal.Gains (perform c s).2.journal s.sink (Step.report? ⟨s, c⟩).toList := by
  cases plan : c.plan with
  | close =>
    simp only [Step.report?, Step.outcome, perform_close plan]
    exact quiet_close s
  | settle t =>
    exact gains_of_conclude (.refl s) (perform_settle plan s) fun e object failed =>
      object_of_plan_settle plan failed
  | ask errand =>
    -- Whatever the request came to, it is reported only when it is concluded.
    have performed : perform c s = (request errand.request some s).2.conclude
        (errand.conclude (request errand.request some s).2.books
          (request errand.request some s).1) := by
      rw [perform_eq_follow, plan, follow]
      rfl
    exact gains_of_conclude (quiet_request errand.request s) performed fun e object failed =>
      object_of_conclude plan (ends_request errand.request s) failed

/-- A call that gave something reports nothing. One that failed makes a report that says what the
error says and names at most the object that the call names. -/
structure Step.Told (t : Step σ) : Prop where
  silent : ∀ v, t.outcome = .ok v → t.report? = none
  tells : ∀ e, t.outcome = .error e → ∃ r, t.report? = some r ∧ r.code = e.code ∧
    r.message = e.message ∧ ∀ name, r.object = some name → t.call.subject? = some name

theorem Step.told (t : Step σ) : t.Told where
  silent v gave := by
    unfold Step.report?
    rw [gave]
  tells e failed := by
    unfold Step.report?
    rw [failed]
    exact ⟨_, rfl, rfl, rfl, fun name named => subject?_of_object? named⟩

theorem filterMap_report?_concat (past : List (Step σ)) (t : Step σ) :
    (past ++ [t]).filterMap Step.report? = past.filterMap Step.report? ++ t.report?.toList := by
  rw [List.filterMap_append]
  cases report : t.report? <;> simp [report]

/-- The reports of a run are those of its failed calls, one for each, in the order of the calls. -/
theorem reports_of_run {s₀ s : Session σ} {past : List (Step σ)} (run : Run s₀ past s) :
    s.sink = s₀.sink ∧ s₀.journal.Gains s.journal s₀.sink (past.filterMap Step.report?) ∧
      ∀ t ∈ past, t.Told := by
  have gains : s.sink = s₀.sink ∧
      s₀.journal.Gains s.journal s₀.sink (past.filterMap Step.report?) := by
    induction run with
    | start => exact ⟨rfl, .refl _ _⟩
    | @call past s run c ih =>
      obtain ⟨sink, earlier⟩ := ih
      obtain ⟨same, last⟩ := gains_perform c s
      -- The last call reports to the sink that all calls before it reported to.
      rw [sink] at last
      rw [filterMap_report?_concat]
      exact ⟨same.trans sink, earlier.trans last⟩
    | weather run w ih => exact ih
  exact ⟨gains.1, gains.2, fun t _ => t.told⟩

/-- A session that is closed and then asked for its version and for a handle back that it never gave
out makes two reports. -/
theorem reports_after_close :
    ((withAnswer .version (.version 7)).performAll
        [.close, .version, .releaseDomain ⟨"guest", .nil, 1⟩]).2.journal.reports =
      [⟨.noConnect, "connection to the supervisor daemon is closed", none⟩,
        ⟨.internal, "domain 00000000-0000-0000-0000-000000000000 is not registered",
          some "guest"⟩] := by
  let s := withAnswer .version (.version 7)
  let closed := (perform .close s).2
  have run : Run s [⟨s, .close⟩, ⟨closed, .version⟩,
      ⟨(perform .version closed).2, .releaseDomain ⟨"guest", .nil, 1⟩⟩] _ :=
    .call (.call (.call .start _) _) _
  obtain ⟨-, ⟨reports, -⟩, -⟩ := reports_of_run run
  exact reports.trans (by decide +kernel)

end Session

end Supervisor

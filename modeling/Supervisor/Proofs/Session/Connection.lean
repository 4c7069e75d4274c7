import Supervisor.Proofs.Session.Remote

/-!
# Failures and the connection

A failure that breaks the connection ends it, and nothing else but closing does. There is one
exception: a negative number of objects is refused after its reply was taken, as a malformed reply,
and by then nobody looks whether the connection has to go.

## Main results

* `Session.NegativeCount` - the failure that breaks the connection and leaves it
* `Session.connected_perform_iff` - when a call leaves the session connected
-/

namespace Supervisor

open Wire

namespace Settlement

variable {b : Books} {t : Settlement} {e : CallError} {object : Option String}

/-- What is settled fails as it says it does, or because of the tables. -/
theorem apply_error (failed : t.apply b = .error ⟨e, object⟩) :
    t = .complain e object ∨ e.breaksConnection = false := by
  cases t with
  | give v => cases failed
  | complain e' object' =>
    cases failed
    exact .inl rfl
  | handOut h =>
    simp only [apply] at failed
    split at failed <;> cases failed
    exact .inr rfl
  | takeBack h =>
    simp only [apply] at failed
    split at failed <;> cases failed
    exact .inr rfl

end Settlement

/-- The words for what a call counts, if it counts something. -/
def Call.counted? : Call → Option String
  | .countDomains => some "domains"
  | .countDefinedDomains => some "defined domains"
  | .countNetworks => some "networks"
  | .countDefinedNetworks => some "defined networks"
  | _ => none

namespace Session

/-- A number of objects was asked for, and the daemon answered a negative one. -/
def NegativeCount (c : Call) (e : CallError) : Prop :=
  ∃ label n, c.counted? = some label ∧ n.toInt < 0 ∧
    e = .malformed (.countOutOfRange label n largestCount)

variable {c : Call} {e : CallError}

theorem checkCount_error {label : String} {n : Int32} (failed : checkCount label n = .error e) :
    n.toInt < 0 ∧ e = .malformed (.countOutOfRange label n largestCount) := by
  unfold checkCount at failed
  split at failed
  · cases failed
  · next negative =>
    cases failed
    exact ⟨Int.not_le.1 negative, rfl⟩

theorem ofCheck_eq_complain {α : Type} {object object' : Option String} {value : α → Call.Value}
    {x : Except CallError α} (complains : Settlement.ofCheck object value x = .complain e object') :
    x = .error e := by
  cases x <;> cases complains
  rfl

/-- A reply of the right structure breaks the connection only if it is a negative number of
objects. -/
theorem negativeCount_of_settle {errand : Errand} (plan : c.plan = .ask errand) {reply : Reply}
    {object : Option String} (settled : errand.settle reply = some (.complain e object)) :
    e.breaksConnection = false ∨ NegativeCount c e := by
  cases c with
  | countDomains | countDefinedDomains | countNetworks | countDefinedNetworks =>
    cases plan
    obtain ⟨n, -, counted⟩ := Option.map_eq_some_iff.1 settled
    obtain ⟨negative, same⟩ := checkCount_error (ofCheck_eq_complain counted)
    exact .inr ⟨_, n, rfl, negative, same⟩
  | listNetworks | listDefinedNetworks =>
    cases plan
    obtain ⟨names, -, listed⟩ := Option.map_eq_some_iff.1 settled
    have refused := ofCheck_eq_complain listed
    split at refused <;> cases refused
    exact .inl rfl
  | domainStatus d =>
    cases plan
    obtain ⟨info, -, checked⟩ := Option.map_eq_some_iff.1 settled
    have refused := ofCheck_eq_complain checked
    unfold DomainStatus.ofInfo at refused
    split at refused <;> cases refused
    exact .inl rfl
  | saveDomain | restoreDomain | releaseDomain | releaseNetwork | close => cases plan
  | _ =>
    cases plan
    obtain ⟨_, -, given⟩ := Option.map_eq_some_iff.1 settled
    cases given

/-- What comes of a reply breaks the connection only if it is a negative number of objects. -/
theorem negativeCount_of_conclude {errand : Errand} (plan : c.plan = .ask errand) {b : Books}
    {reply : Reply} {object : Option String}
    (failed : errand.conclude b (.ok reply) = .error ⟨e, object⟩) :
    e.breaksConnection = false ∨ NegativeCount c e := by
  unfold Errand.conclude at failed
  cases settled : errand.settle reply with
  | none =>
    simp only [settled] at failed
    cases failed
    exact .inl rfl
  | some t =>
    simp only [settled] at failed
    rcases Settlement.apply_error failed with rfl | clean
    · exact negativeCount_of_settle plan settled
    · exact .inl clean

/-- What is settled without the daemon leaves the connection alone. -/
theorem clean_of_settle {t : Settlement} (plan : c.plan = .settle t) {b : Books}
    {object : Option String} (failed : t.apply b = .error ⟨e, object⟩) :
    e.breaksConnection = false := by
  rcases Settlement.apply_error failed with rfl | clean
  · cases c <;> cases plan <;> rfl
  · exact clean

/-- A failed transfer is no negative number of objects. -/
theorem not_negativeCount_of_loses {op : Operation} {lost : Exchange.Error} (loses : lost.Loses) :
    ¬ NegativeCount c (exchangeFailure op lost) := by
  rintro ⟨label, n, -, -, same⟩
  cases loses <;> cases same

/-- A reply that does not decode is no negative number of objects: no listing is that long. -/
theorem not_negativeCount_of_decode {reply : Frame} {undecoded : Wire.Error}
    (failed : Reply.decode reply = .error undecoded) :
    ¬ NegativeCount c (.malformed undecoded) := by
  rintro ⟨label, n, -, -, same⟩
  cases same
  obtain unknown | ⟨op, short⟩ | ⟨label', count, listed⟩ := Reply.decode_error failed
  · cases unknown
  · cases short
  · exact absurd (Wire.Error.countOutOfRange.inj listed).2.2 (by decide)

/-- A session is connected after a call exactly if it was before and the call did not break the
connection; a negative number of objects does not count. -/
theorem connected_perform_iff {σ : Type} [Peer σ] (notClose : c ≠ .close) (s : Session σ) :
    (perform c s).2.connected = true ↔ s.connected = true ∧
      ∀ e, (perform c s).1 = .error e → e.breaksConnection = true → NegativeCount c e := by
  cases plan : c.plan with
  | close => exact absurd (Call.plan_eq_close_iff.1 plan) notClose
  | settle t =>
    rw [perform_settle plan, connected_conclude]
    refine ⟨fun on => ⟨on, fun e failed breaks => ?_⟩, And.left⟩
    obtain ⟨object, failed⟩ := conclude_error_iff.1 failed
    rw [clean_of_settle plan failed] at breaks
    cases breaks
  | ask errand =>
    obtain ⟨outcome, s', asked, performed⟩ := perform_ask plan s
    rw [performed, connected_conclude]
    -- Where the connection was given up, the failure must be one that counts; where it was kept,
    -- a failure can only come from what is settled with the reply.
    cases asked with
    | refused unfit =>
      refine ⟨fun on => ⟨on, ?_⟩, And.left⟩
      rintro e ⟨⟩ ⟨⟩
    | idle encoded off => simp [off]
    | lost encoded on loses off books =>
      refine ⟨fun still => absurd (off.symm.trans still) Bool.false_ne_true, ?_⟩
      rintro ⟨-, only⟩
      exact absurd (only _ rfl (breaksConnection_of_loses _ loses))
        (not_negativeCount_of_loses loses)
    | garbled encoded on crossed decoded off books =>
      refine ⟨fun still => absurd (off.symm.trans still) Bool.false_ne_true, ?_⟩
      rintro ⟨-, only⟩
      exact absurd (only _ rfl rfl) (not_negativeCount_of_decode decoded)
    | answered encoded on crossed clean still books =>
      refine ⟨fun _ => ⟨on, fun e failed breaks => ?_⟩, fun _ => still⟩
      obtain ⟨object, failed⟩ := conclude_error_iff.1 failed
      cases answer : replyOf errand.request.operation (Exchange.judge _ _) with
      | error e' =>
        rw [answer] at failed
        cases failed
        rw [clean e answer] at breaks
        cases breaks
      | ok reply =>
        rw [answer] at failed
        rcases negativeCount_of_conclude plan failed with clean | negative
        · rw [clean] at breaks
          cases breaks
        · exact negative

theorem connected_after_saveDomain :
    (perform (.saveDomain ⟨"guest", ⟨List.replicate 16 0, rfl⟩, 1⟩ "image")
      (withAnswer .version (.version 7))).2.connected = true :=
  (connected_perform_iff (by decide) _).2 ⟨rfl, by rintro e ⟨⟩ ⟨⟩⟩

/-- The exception does occur when a daemon counts minus one domains: the failure breaks the
connection, and the session stays connected. -/
theorem connected_after_miscount :
    let s := withAnswer .countDomains (.count (-1))
    let e := CallError.malformed (.countOutOfRange "domains" (-1) largestCount)
    (perform .countDomains s).1 = .error e ∧ e.breaksConnection = true ∧
      (perform .countDomains s).2.connected = true := by
  have answers : Answers .countDomains (.count (-1)) :=
    ⟨.inr rfl, exists_of_isOk (by decide +kernel)⟩
  have notClose : Call.countDomains ≠ .close := by decide
  obtain ⟨outcome, mirrors⟩ :=
    (mirrors_withAnswer .countDomains (.count (-1))).perform (honest_withAnswer answers) notClose
  exact ⟨outcome, rfl, mirrors.connected⟩

end Session

end Supervisor

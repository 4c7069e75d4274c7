import Supervisor.Proofs.Session.Connection
import Supervisor.Proofs.Wire.Decoding

/-!
# How calls fail

Several checks of a client guard against mistakes of its own: a reply that holds something else than
its operation answers, a structure that runs past the buffer, a tag that no operation has. None of
them ever applies, whatever the daemon sends and whatever the stream does. A request is refused only
for its text, a received frame is malformed only if its header declares too much or its listing has
a wrong count, and a reply that was decoded is always one that the call can use.

## Main definitions

* `Request.Ends` - how a request ends
* `Call.Complains`, `Settlement.Fails`, `Call.Fails` - why a call fails
* `CallError.Genuine` - a failure that is no mistake of the client's own

## Main results

* `Session.ends_request` - a request ends in one of these ways
* `Call.exists_settle` - a reply of the structure that answers the request of a call can be used
* `Session.fails_of_perform` - a call fails for one of these reasons
* `Session.failures_of_perform` - so the checks against own mistakes never apply
-/

namespace Supervisor

open Wire

namespace Wire

/-- A reply that was decoded is made of values of the structure that its tag stands for. -/
theorem Reply.exists_ofValue_of_decode {f : Frame} {op : Operation} {r : Reply}
    (tag : f.header.tag = op.tag) (decoded : decode f = .ok r) :
    ∃ v, r = ofValue op.answers v := by
  rw [decode_eq] at decoded
  rw [Frame.operation?_eq_some_iff.2 tag] at decoded
  obtain ⟨v, -, made⟩ := bind_eq_ok_iff.1 decoded
  cases made
  exact ⟨v, rfl⟩

/-- A frame under the tag of an operation holds no reply only if it is a listing with a wrong
count. -/
theorem Reply.miscounted_of_decode {f : Frame} {op : Operation} {e : Error}
    (tag : f.header.tag = op.tag) (failed : decode f = .error e) :
    ∃ label, op.lists? = some label ∧ (f.count.toInt < 0 ∨ 100 < f.count.toInt) ∧
      e = .countOutOfRange label f.count 100 := by
  cases decode_eq_error_iff.1 failed with
  | unknownTag unknown =>
    cases (Frame.operation?_eq_none_iff.2 unknown).symm.trans (Frame.operation?_eq_some_iff.2 tag)
  | miscounted tag' lists outside =>
    cases Operation.tag_injective (tag.symm.trans tag')
    exact ⟨_, lists, outside, rfl⟩

/-- How a request ends. -/
inductive Request.Ends (r : Request) : Except CallError Reply → Prop where
  | rejected {t : FieldText} {e : Error} (text : t ∈ r.texts) (refused : t.Refused e) :
    Ends r (.error (.rejected r.operation.name e))
  | notConnected : Ends r (.error .notConnected)
  | transport (fault : Fault) : Ends r (.error (.transport r.operation.name fault))
  | oversized {size : UInt32} (large : payloadCapacity < size.toNat) :
    Ends r (.error (.malformed (.oversized size)))
  | miscounted {label : String} {n : Int32} (lists : r.operation.lists? = some label)
      (outside : n.toInt < 0 ∨ 100 < n.toInt) :
    Ends r (.error (.malformed (.countOutOfRange label n 100)))
  | unexpectedReply (received : UInt32) :
    Ends r (.error (.unexpectedReply r.operation.tag received))
  | remote (failure : Failure) : Ends r (.error (.remote failure))
  | replied (v : r.operation.answers.layout.Value) : Ends r (.ok (.ofValue r.operation.answers v))

end Wire

namespace Session

variable {σ : Type} [Peer σ]

/-- What comes of a request: it is refused, there is no connection, or the exchange decides. -/
theorem outcome_request (r : Request) (s : Session σ) :
    (request r some s).1 = match r.encode with
      | .error e => .error (.rejected r.operation.name e)
      | .ok sent =>
        if s.connected then replyOf r.operation (Exchange.run s.stream sent).1
        else .error .notConnected := by
  unfold request
  cases r.encode with
  | error e => rfl
  | ok sent =>
    cases s.connected with
    | false => rfl
    | true =>
      simp only [if_true]
      generalize ran : Exchange.run (σ := σ) _ sent = result
      obtain ⟨outcome, stream, events⟩ := result
      have same : (Exchange.run s.stream sent).1 = outcome := congrArg Prod.fst ran
      simp only [same]
      cases replyOf r.operation outcome <;> rfl

/-- What a whole frame comes to that was received for a request. -/
theorem ends_judge {r : Request} {sent reply : Frame} (tag : sent.header.tag = r.operation.tag) :
    r.Ends (replyOf r.operation (Exchange.judge sent reply)) := by
  unfold Exchange.judge
  split
  · next same =>
    -- The reply is read with the structure that the tag of the request stands for.
    have own : reply.header.tag = r.operation.tag := same.trans tag
    cases decoded : Reply.decode reply with
    | error e =>
      obtain ⟨label, lists, outside, rfl⟩ := Reply.miscounted_of_decode own decoded
      simp only [replyOf, decoded]
      exact .miscounted lists outside
    | ok answer =>
      obtain ⟨v, rfl⟩ := Reply.exists_ofValue_of_decode own decoded
      simp only [replyOf, decoded]
      exact .replied v
  · split
    · next reserved =>
      cases decoded : Reply.decode reply with
      | error e =>
        obtain ⟨label, lists, -⟩ := Reply.miscounted_of_decode reserved decoded
        cases lists
      | ok answer =>
        cases answer with
        | failure failure => exact .remote failure
        | _ => exact tag ▸ .unexpectedReply _
    · exact tag ▸ .unexpectedReply _

/-- A request ends in one of these ways, whatever the peer sends and however the stream fails. -/
theorem ends_request (r : Request) (s : Session σ) : r.Ends (request r some s).1 := by
  rw [outcome_request]
  cases encoded : r.encode with
  | error e =>
    obtain ⟨t, text, refused⟩ := Request.encode_eq_error_iff.1 encoded
    exact .rejected text refused
  | ok sent =>
    dsimp only
    split
    · rcases Exchange.run_spec s.stream sent with ⟨e, stream, ran, loses⟩ | ⟨reply, stream, ran, -⟩
      · rw [ran]
        cases loses with
        | send fault => exact .transport fault
        | receive fault => exact .transport fault
        | oversized large => exact .oversized large
      · rw [ran]
        exact ends_judge (Request.of_encode encoded).1
    · exact .notConnected

end Session

/-! ### Calls -/

/-- What a call may say against a reply that it can use. -/
inductive Call.Complains (c : Call) : CallError → Prop where
  | negativeCount {e : CallError} (negative : Session.NegativeCount c e) : Complains c e
  | capacityExceeded (what : String) (count capacity : Nat) :
    Complains c (.capacityExceeded what count capacity)
  | unknownRunState (raw : Int32) : Complains c (.unknownRunState raw)

/-- Why a call fails. -/
inductive Call.Fails (c : Call) : CallError → Prop where
  | asking {errand : Errand} {e : CallError} (plan : c.plan = .ask errand)
      (ends : errand.request.Ends (.error e)) : Fails c e
  | complaining {e : CallError} (complains : c.Complains e) : Fails c e
  | unsupported (operation : String) : Fails c (.unsupported operation)
  | handles (e : HandleTable.Error) : Fails c (.handles e)

/-- A failure that is no mistake of the client's own: a reply never holds something else than its
operation answers, a received frame is malformed only if its header declares more than the buffer
takes or a number of objects is out of range, and an argument is refused only for its length or for
a NUL byte. -/
def CallError.Genuine : CallError → Prop
  | .unexpectedLayout _ => False
  | .malformed e =>
    (∃ size, e = .oversized size ∧ 5008 < size.toNat) ∨
      ∃ label n most, e = .countOutOfRange label n most ∧ (n.toInt < 0 ∨ (most : Int) < n.toInt)
  | .rejected _ e =>
    (∃ label length longest, e = .textTooLong label length longest) ∨
      ∃ label, e = .embeddedNul label
  | _ => True

theorem Call.Fails.genuine {c : Call} {e : CallError} (fails : c.Fails e) : e.Genuine := by
  cases fails with
  | asking plan ends =>
    cases ends with
    | rejected text refused =>
      cases refused with
      | tooLong long => exact .inl ⟨_, _, _, rfl⟩
      | embeddedNul short nul => exact .inr ⟨_, rfl⟩
    | oversized large => exact .inl ⟨_, rfl, large⟩
    | miscounted lists outside => exact .inr ⟨_, _, _, rfl, outside⟩
    | _ => trivial
  | complaining complains =>
    cases complains with
    | negativeCount negative =>
      obtain ⟨label, n, -, negative, rfl⟩ := negative
      exact .inr ⟨_, _, _, rfl, .inl negative⟩
    | _ => trivial
  | _ => trivial

/-- A reply of the structure that answers the request of a call is one that the call can use. -/
theorem Call.exists_settle {c : Call} {errand : Errand} (plan : c.plan = .ask errand)
    (v : errand.request.operation.answers.layout.Value) :
    ∃ t, errand.settle (.ofValue errand.request.operation.answers v) = some t := by
  cases c <;> cases plan <;> exact ⟨_, rfl⟩

/-- How a settlement fails: as it says it does, or because of a handle. -/
inductive Settlement.Fails : Settlement → Complaint → Prop where
  | complains (e : CallError) (object : Option String) : Fails (complain e object) ⟨e, object⟩
  | handsOut (h : Handle) (e : HandleTable.Error) : Fails (handOut h) ⟨.handles e, none⟩
  | takesBack (h : Handle) (e : HandleTable.Error) : Fails (takeBack h) ⟨.handles e, some h.name⟩

theorem Settlement.fails_of_apply {b : Books} {t : Settlement} {complaint : Complaint}
    (failed : t.apply b = .error complaint) : t.Fails complaint := by
  cases t with
  | give v => cases failed
  | complain e object =>
    cases failed
    exact .complains e object
  | handOut h =>
    simp only [apply] at failed
    split at failed <;> cases failed
    exact .handsOut h _
  | takeBack h =>
    simp only [apply] at failed
    split at failed <;> cases failed
    exact .takesBack h _

namespace Session

variable {c : Call} {e : CallError}

theorem object_of_ofCheck {α : Type} {object object' : Option String} {value : α → Call.Value}
    {x : Except CallError α} (complains : Settlement.ofCheck object value x = .complain e object') :
    object' = object := by
  cases x <;> cases complains
  rfl

/-- What a call says against a reply, and about what. -/
theorem complains_of_settle {errand : Errand} (plan : c.plan = .ask errand) {reply : Reply}
    {object : Option String} (settled : errand.settle reply = some (.complain e object)) :
    c.Complains e ∧ object = errand.object := by
  cases c with
  | countDomains | countDefinedDomains | countNetworks | countDefinedNetworks =>
    cases plan
    obtain ⟨n, -, counted⟩ := Option.map_eq_some_iff.1 settled
    obtain ⟨negative, same⟩ := checkCount_error (ofCheck_eq_complain counted)
    exact ⟨.negativeCount ⟨_, n, rfl, negative, same⟩, object_of_ofCheck counted⟩
  | listNetworks | listDefinedNetworks =>
    cases plan
    obtain ⟨names, -, listed⟩ := Option.map_eq_some_iff.1 settled
    have refused := ofCheck_eq_complain listed
    split at refused <;> cases refused
    exact ⟨.capacityExceeded _ _ _, object_of_ofCheck listed⟩
  | domainStatus d =>
    cases plan
    obtain ⟨info, -, checked⟩ := Option.map_eq_some_iff.1 settled
    have refused := ofCheck_eq_complain checked
    unfold DomainStatus.ofInfo at refused
    split at refused <;> cases refused
    exact ⟨.unknownRunState _, object_of_ofCheck checked⟩
  | saveDomain | restoreDomain | releaseDomain | releaseNetwork | close => cases plan
  | _ =>
    cases plan
    obtain ⟨_, -, given⟩ := Option.map_eq_some_iff.1 settled
    cases given

variable {σ : Type} [Peer σ]

/-- A call fails for one of these reasons, whatever the peer sends and however the stream fails. -/
theorem fails_of_perform {s : Session σ} (failed : (perform c s).1 = .error e) : c.Fails e := by
  cases plan : c.plan with
  | close =>
    rw [perform_close plan] at failed
    cases failed
  | settle t =>
    rw [perform_settle plan] at failed
    obtain ⟨object, failed⟩ := conclude_error_iff.1 failed
    cases Settlement.fails_of_apply failed with
    | complains => cases c <;> cases plan <;> exact .unsupported _
    | handsOut h e | takesBack h e => exact .handles e
  | ask errand =>
    rw [outcome_of_ask plan] at failed
    have ends := ends_request errand.request s
    cases answer : (request errand.request some s).1 with
    | error e' =>
      rw [answer] at failed ends
      cases failed
      exact .asking plan ends
    | ok reply =>
      -- The reply can be used, so a failure is a complaint about what it holds.
      rw [answer] at failed ends
      cases ends with
      | replied v =>
        obtain ⟨t, settled⟩ := Call.exists_settle plan v
        simp only [Errand.outcome, Errand.conclude, settled] at failed
        split at failed
        · cases failed
        · next complaint applied =>
          cases failed
          cases Settlement.fails_of_apply applied with
          | complains e object => exact .complaining (complains_of_settle plan settled).1
          | handsOut h e | takesBack h e => exact .handles e

/-- The checks of the client against its own mistakes never apply: a call fails only for what the
peer, the stream or the caller did. What is decoded under the tag of its request is what the call
wants. -/
theorem failures_of_perform (c : Call) (s : Session σ) :
    (∀ e, (perform c s).1 = .error e → e.Genuine) ∧
      ∀ errand f reply, c.plan = .ask errand → f.header.tag = errand.request.operation.tag →
        Reply.decode f = .ok reply → ∃ t, errand.settle reply = some t := by
  refine ⟨fun e failed => (fails_of_perform failed).genuine, ?_⟩
  intro errand f reply plan tag decoded
  obtain ⟨v, rfl⟩ := Reply.exists_ofValue_of_decode tag decoded
  exact Call.exists_settle plan v

/-- A daemon that counts minus one domains makes the call fail, but its reply is of the right
structure. -/
theorem failures_after_miscount :
    let e := CallError.malformed (.countOutOfRange "domains" (-1) largestCount)
    (perform .countDomains (withAnswer .countDomains (.count (-1)))).1 = .error e ∧ e.Genuine ∧
      ∃ errand f, Call.countDomains.plan = .ask errand ∧ Reply.decode f = .ok (.count (-1)) ∧
        ∃ t, errand.settle (.count (-1)) = some t := by
  have answers : Answers .countDomains (.count (-1)) :=
    ⟨.inr rfl, exists_of_isOk (by decide +kernel)⟩
  obtain ⟨failed, -⟩ := (mirrors_withAnswer .countDomains (.count (-1))).perform
    (honest_withAnswer answers) (show Call.countDomains ≠ .close by decide)
  obtain ⟨f, encoded⟩ := answers.fits
  have structured : (Reply.count (-1)).IsOf .countDomains := rfl
  have decoded : Reply.decode f = .ok (.count (-1)) := Reply.decode_of_encode structured encoded
  obtain ⟨genuine, usable⟩ := failures_of_perform .countDomains
    (withAnswer .countDomains (.count (-1)))
  exact ⟨failed, genuine _ failed, _, f, rfl, decoded,
    usable _ f _ rfl (Reply.of_encode encoded).1 decoded⟩

end Session

end Supervisor

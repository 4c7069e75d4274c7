import Supervisor.Proofs.Session.Offline
import Supervisor.Proofs.Session.Failures
import Supervisor.Proofs.Session.Tables
import Supervisor.Proofs.Wire.Texts

/-!
# Sending what was received

A client asks again for what it was told: it lists names and looks each of them up. A name that
arrives holds no NUL, whatever the daemon sent, so that only its length can be against it. Bytes that
belong to no character grow when they are decoded, and a name that has grown beyond its field is
refused before it is sent.

## Main definitions

* `Call.Value.called` - the names that a call gives
* `Session.Given` - what is known of such a name

## Main results

* `Session.rejected_iff` - what a call is rejected for
* `Session.origin_of_name` - names come from the daemon or from the caller
* `Session.resent_of_decode` - what can be sent of what was received
-/

namespace Supervisor

open Wire

/-- The names that a call gives. -/
def Call.Value.called : Call.Value → List String
  | names entries => entries
  | domain d => [d.name]
  | network n => [n.name]
  | _ => []

/-- A name and the field that it takes. -/
def Wire.FieldText.ofName (name : String) : FieldText := ⟨"name", 50, name⟩

/-- The names in what is left to do. -/
def Settlement.names : Settlement → List String
  | .give v => v.called
  | .handOut h => [h.name]
  | .complain _ _ | .takeBack _ => []

theorem Settlement.called_of_apply {t : Settlement} {b b' : Books} {v : Call.Value}
    (applied : t.apply b = .ok (v, b')) : v.called = t.names := by
  cases t with
  | give v =>
    cases applied
    rfl
  | complain e object => cases applied
  | handOut h =>
    simp only [apply] at applied
    split at applied <;> cases applied
    cases h <;> rfl
  | takeBack h =>
    simp only [apply] at applied
    split at applied <;> cases applied
    rfl

theorem Settlement.mem_names_of_ofNames {what : String} {capacity : Nat} {names : List String}
    {name : String} (named : name ∈ (ofNames what capacity names).names) : name ∈ names := by
  unfold ofNames at named
  split at named
  · cases named
  · exact named

theorem Settlement.not_mem_names_of_ofCount (label : String) (n : Int32) {name : String} :
    name ∉ (ofCount label n).names := by
  unfold ofCount
  cases Session.checkCount label n with
  | error e => exact List.not_mem_nil
  | ok count => exact List.not_mem_nil

/-- The names that a call settles with are texts of the reply, or of the call itself. A call that is
made with a handle may give that back. -/
theorem Call.mem_texts_of_settle {c : Call} {errand : Errand} {reply : Reply} {t : Settlement}
    {name : String} (plan : c.plan = .ask errand) (settled : errand.settle reply = some t)
    (own : c.handle? = none) (named : name ∈ t.names) :
    .ofName name ∈ c.texts ∨ .ofName name ∈ reply.texts := by
  cases c with
  -- A listing names the entries of its reply, as many as the caller takes.
  | listDefinedDomains capacity =>
    cases plan
    obtain ⟨names, project, rfl⟩ := Option.map_eq_some_iff.1 settled
    cases reply <;> cases project
    exact .inr (List.mem_map.2 ⟨name, List.mem_of_mem_take named, rfl⟩)
  | listNetworks capacity | listDefinedNetworks capacity =>
    cases plan
    obtain ⟨names, project, rfl⟩ := Option.map_eq_some_iff.1 settled
    cases reply <;> cases project
    exact .inr (List.mem_map.2 ⟨name, Settlement.mem_names_of_ofNames named, rfl⟩)
  | createDomain | defineDomain | domainById | domainByUuid | createNetwork | defineNetwork
  | networkByUuid =>
    cases plan
    obtain ⟨found, project, rfl⟩ := Option.map_eq_some_iff.1 settled
    cases reply <;> cases project
    cases List.mem_singleton.1 named
    exact .inr (List.mem_singleton.2 rfl)
  -- A lookup by name hands out the name that was sought; its reply holds none.
  | domainByName sought | networkByName sought =>
    cases plan
    obtain ⟨found, -, rfl⟩ := Option.map_eq_some_iff.1 settled
    cases List.mem_singleton.1 named
    exact .inl (List.mem_singleton.2 rfl)
  | countDomains | countDefinedDomains | countNetworks | countDefinedNetworks =>
    cases plan
    obtain ⟨n, -, rfl⟩ := Option.map_eq_some_iff.1 settled
    exact absurd named (Settlement.not_mem_names_of_ofCount _ n)
  | version | nodeInfo | listDomains =>
    cases plan
    obtain ⟨found, -, rfl⟩ := Option.map_eq_some_iff.1 settled
    cases named
  | saveDomain | restoreDomain | releaseDomain | releaseNetwork | close => cases plan
  | _ => cases own

namespace Session

variable {σ : Type} [Peer σ] {s s' : Session σ} {c : Call}

/-! ### Where names come from -/

/-- A reply that was taken for an answer is what its frame decodes to. -/
theorem decode_of_replyOf {op : Operation} {sent frame : Frame} {reply : Reply}
    (taken : replyOf op (Exchange.judge sent frame) = .ok reply) :
    Reply.decode frame = .ok reply := by
  unfold Exchange.judge at taken
  split at taken
  · cases decoded : Reply.decode frame with
    | error e =>
      simp only [replyOf, decoded] at taken
      cases taken
    | ok r =>
      simp only [replyOf, decoded] at taken
      cases taken
      rfl
  · -- Under another tag no frame is an answer.
    split at taken
    · split at taken <;> cases taken
    · cases taken

/-- A request that was answered has crossed, and its answer is what came back. -/
theorem Asked.of_ok {r : Request} {outcome : Except CallError Reply} {reply : Reply}
    (asked : Asked r s outcome s') (ok : outcome = .ok reply) :
    ∃ sent frame, r.encode = .ok sent ∧ Exchange.Crossed s.stream s'.stream sent frame ∧
      Reply.decode frame = .ok reply := by
  cases asked with
  | answered encoded on crossed clean still books =>
    exact ⟨_, _, encoded, crossed, decode_of_replyOf ok⟩
  | _ => cases ok

/-- A call that asks and succeeds does what is left to do with its answer. -/
theorem settled_of_ok {errand : Errand} {v : Call.Value} (plan : c.plan = .ask errand)
    (performed : perform c s = (.ok v, s')) :
    ∃ sent frame reply t b, errand.request.encode = .ok sent ∧
      Exchange.Crossed s.stream s'.stream sent frame ∧ Reply.decode frame = .ok reply ∧
      errand.settle reply = some t ∧ t.apply s.books = .ok (v, b) := by
  obtain ⟨outcome, s₁, asked, concluded⟩ := perform_ask plan s
  rw [concluded] at performed
  cases outcome with
  | error e => cases performed
  | ok reply =>
    obtain ⟨sent, frame, encoded, crossed, decoded⟩ := asked.of_ok rfl
    cases settled : errand.settle reply with
    | none =>
      simp only [Errand.conclude, settled] at performed
      cases performed
    | some t =>
      simp only [Errand.conclude, settled] at performed
      cases applied : t.apply s.books with
      | error complaint =>
        rw [applied] at performed
        cases performed
      | ok given =>
        -- Taking the new tables up leaves the stream alone.
        rw [applied] at performed
        cases performed
        exact ⟨sent, frame, reply, t, _, encoded, crossed, decoded, settled, applied⟩

/-- A name that a call gives is one that it was made with, and fits, or it is a text of the reply
that came for the call. -/
theorem origin_of_name {v : Call.Value} {name : String} (performed : perform c s = (.ok v, s'))
    (own : c.handle? = none) (named : name ∈ v.called) :
    .ofName name ∈ c.texts ∧ (FieldText.ofName name).Fits ∨
      ∃ sent frame reply, Exchange.Crossed s.stream s'.stream sent frame ∧
        Reply.decode frame = .ok reply ∧ .ofName name ∈ reply.texts := by
  -- Only an answer names something: without the daemon handles are given back, and nothing else.
  cases plan : c.plan with
  | close =>
    rw [perform_close plan] at performed
    cases performed
    cases named
  | settle t =>
    rcases Call.of_plan_settle plan with ⟨h, rfl, -⟩ | ⟨operation, object, -, rfl⟩
    · cases h <;> cases own
    · rw [perform_settle plan] at performed
      cases performed
  | ask errand =>
    obtain ⟨sent, frame, reply, t, b, encoded, crossed, decoded, settled, applied⟩ :=
      settled_of_ok plan performed
    rw [Settlement.called_of_apply applied] at named
    rcases Call.mem_texts_of_settle plan settled own named with text | text
    · refine .inl ⟨text, ?_⟩
      rw [← Call.texts_request plan] at text
      exact Request.fits_of_encode encoded text
    · exact .inr ⟨sent, frame, reply, crossed, decoded, text⟩

/-! ### Being rejected -/

/-- A call that asks is rejected for a text that does not fit, and for nothing else, whatever the
session. -/
theorem rejected_iff {errand : Errand} (plan : c.plan = .ask errand) (s : Session σ)
    {operation : String} {e : Wire.Error} :
    (perform c s).1 = .error (.rejected operation e) ↔
      operation = errand.request.operation.name ∧ ∃ t ∈ c.texts, t.Refused e := by
  rw [← Call.texts_request plan]
  constructor
  · intro failed
    cases fails_of_perform failed with
    | asking plan' ends =>
      cases plan.symm.trans plan'
      cases ends with
      | rejected text refused => exact ⟨rfl, _, text, refused⟩
    | complaining complains =>
      -- No complaint about an answer is a rejection.
      cases complains with
      | negativeCount negative =>
        obtain ⟨label, n, -, -, made⟩ := negative
        cases made
  · rintro ⟨rfl, refused⟩
    have encoded := Request.encode_eq_error_iff.2 refused
    rw [outcome_of_ask plan, outcome_request, encoded]
    rfl

/-- A lookup of a name without NUL is rejected exactly if the name is too long. -/
theorem rejected_lookup_iff {name : String} (noNul : 0 ∉ Text.utf8 name) {errand : Errand}
    (plan : c.plan = .ask errand) (only : c.texts = [.ofName name]) (s : Session σ)
    {operation : String} {e : Wire.Error} :
    (perform c s).1 = .error (.rejected operation e) ↔
      operation = errand.request.operation.name ∧ 49 < Text.size name ∧
        e = .textTooLong "name" (Text.size name) 49 := by
  rw [rejected_iff plan, only]
  refine and_congr_right fun _ => ?_
  constructor
  · rintro ⟨t, text, refused⟩
    cases List.mem_singleton.1 text
    exact (FieldText.refused_iff_of_noNul noNul).1 refused
  · intro long
    exact ⟨_, List.mem_singleton_self _, (FieldText.refused_iff_of_noNul noNul).2 long⟩

/-- What is known of a name that a call has given. It is a name that the call was made with, and
fits, or a text of the reply that came for the call. It holds no NUL, so a field for names takes it
exactly if it is short enough, and a lookup of it is rejected exactly if it is not. -/
structure Given (c : Call) (s s' : Session σ) (name : String) : Prop where
  origin : .ofName name ∈ c.texts ∧ (FieldText.ofName name).Fits ∨
    ∃ sent frame reply, Exchange.Crossed s.stream s'.stream sent frame ∧
      Reply.decode frame = .ok reply ∧ .ofName name ∈ reply.texts
  noNul : '\x00' ∉ name.toList
  accepted : checkText "name" name nameCapacity = .ok () ↔ Text.size name ≤ 49
  domain : ∀ {τ : Type} [Peer τ] (t : Session τ) (operation : String) (e : Wire.Error),
    (perform (.domainByName name) t).1 = .error (.rejected operation e) ↔
      operation = "domain_lookup_by_name" ∧ 49 < Text.size name ∧
        e = .textTooLong "name" (Text.size name) 49
  network : ∀ {τ : Type} [Peer τ] (t : Session τ) (operation : String) (e : Wire.Error),
    (perform (.networkByName name) t).1 = .error (.rejected operation e) ↔
      operation = "network_lookup_by_name" ∧ 49 < Text.size name ∧
        e = .textTooLong "name" (Text.size name) 49

theorem given_of_perform {v : Call.Value} {name : String} (performed : perform c s = (.ok v, s'))
    (own : c.handle? = none) (named : name ∈ v.called) : Given c s s' name := by
  have origin := origin_of_name performed own named
  have noNul : 0 ∉ Text.utf8 name := by
    rcases origin with ⟨-, -, noNul⟩ | ⟨sent, frame, reply, -, decoded, text⟩
    · exact noNul
    · obtain ⟨op, -, resent⟩ := Reply.resent decoded
      obtain ⟨bs, readFrom⟩ := resent.read _ text
      exact readFrom.noNul_value
  refine ⟨origin, Text.zero_not_mem_utf8_iff.1 noNul, ?_, ?_, ?_⟩
  · rw [Field.checkText_eq_ok_iff, and_iff_left noNul]
    rfl
  · intro τ _ t operation e
    exact rejected_lookup_iff (c := .domainByName name) noNul rfl rfl t
  · intro τ _ t operation e
    exact rejected_lookup_iff (c := .networkByName name) noNul rfl rfl t

/-- Whatever was decoded can be sent again unless one of its texts is too long, which takes bytes
that belong to no character; a receiver then decodes the same. So a name that a listing or a lookup
has given is rejected by another lookup only for its length. -/
theorem resent_of_decode :
    (∀ f r, Reply.decode f = .ok r → ∃ op, f.operation? = some op ∧
      Resent op.answers.layout f.payload r.texts (r.encode op) Reply.decode r) ∧
    (∀ f r, Request.decode f = .ok r → f.operation? = some r.operation ∧
      Resent (.record r.operation.arguments) f.payload r.texts r.encode Request.decode r) ∧
    ∀ (c : Call) (s s' : Session σ) v, perform c s = (.ok v, s') → c.handle? = none →
      ∀ name ∈ v.called, Given c s s' name :=
  ⟨fun _ _ => Reply.resent, fun _ _ => Request.resent,
    fun _ _ _ _ performed own _ named => given_of_perform performed own named⟩

/-- A byte that belongs to no character does no harm in a short name, neither in a reply nor in a
request, and a name that was looked up can be looked up again. -/
theorem resent_of_stray_byte :
    (∃ f g : Frame, Frame.forHeader ⟨25, 2⟩ [0x61, 0xFF] = .ok f ∧
      Reply.decode f = .ok (.name "a\ufffd") ∧
      (Reply.name "a\ufffd").encode .networkByUuid = .ok g ∧
      Reply.decode g = .ok (.name "a\ufffd")) ∧
    (∃ f g : Frame, Frame.forHeader ⟨26, 2⟩ [0x61, 0xFF] = .ok f ∧
      Request.decode f = .ok (.networkByName "a\ufffd") ∧
      (Request.networkByName "a\ufffd").encode = .ok g ∧
      Request.decode g = .ok (.networkByName "a\ufffd")) ∧
    let s := withAnswer (.networkByUuid Uuid.nil) (.name "default")
    (perform (.networkByUuid Uuid.nil) s).1 = .ok (.network ⟨"default", Uuid.nil⟩) ∧
      ∀ operation e, (perform (.networkByName "default") s).1 ≠ .error (.rejected operation e) := by
  obtain ⟨replies, requests, names⟩ := @resent_of_decode (Served Nat) _
  refine ⟨?_, ?_, ?_⟩
  · obtain ⟨f, made, header, payload⟩ := Frame.forHeader_of_le ⟨25, 2⟩ [0x61, 0xFF] (by decide) rfl
    have known : f.operation? = some .networkByUuid := by
      rw [Frame.operation?, header]
      rfl
    have decoded : Reply.decode f = .ok (.name "a\ufffd") := by
      refine Reply.decode_of_read (v := ("a\ufffd", ())) known (eq_ok_of_toOption ?_)
      rw [payload]
      change @Eq (Option (String × Unit)) _ _
      decide +kernel
    obtain ⟨op, same, resent⟩ := replies f _ decoded
    cases known.symm.trans same
    obtain ⟨g, encoded⟩ := resent.sent.2 (by decide)
    exact ⟨f, g, made, decoded, encoded, resent.arrives g encoded⟩
  · obtain ⟨f, made, header, payload⟩ := Frame.forHeader_of_le ⟨26, 2⟩ [0x61, 0xFF] (by decide) rfl
    have known : f.operation? = some .networkByName := by
      rw [Frame.operation?, header]
      rfl
    have decoded : Request.decode f = .ok (.networkByName "a\ufffd") := by
      refine Request.decode_of_read (v := ("a\ufffd", ())) known (eq_ok_of_toOption ?_) rfl
      rw [payload]
      change @Eq (Option (String × Unit)) _ _
      decide +kernel
    obtain ⟨-, resent⟩ := requests f _ decoded
    obtain ⟨g, encoded⟩ := resent.sent.2 (by decide)
    exact ⟨f, g, made, decoded, encoded, resent.arrives g encoded⟩
  · intro s
    have answers : Answers (.networkByUuid Uuid.nil) (.name "default") :=
      ⟨.inr rfl, exists_of_isOk (by decide +kernel)⟩
    obtain ⟨found, -⟩ := (mirrors_withAnswer (.networkByUuid Uuid.nil) (.name "default")).perform
      (honest_withAnswer answers) (show Call.networkByUuid Uuid.nil ≠ .close by decide)
    refine ⟨found, ?_⟩
    intro operation e
    have given := names _ s _ _ (Prod.ext found rfl) rfl "default" (List.mem_singleton_self _)
    rw [Ne, given.network]
    rintro ⟨-, long, -⟩
    exact absurd long (by decide)

/-- Seventeen bytes that belong to no character are decoded to a name that takes fifty-one. Nobody
can list it again or look it up. -/
theorem not_resent_of_stray_bytes :
    ∃ (f : Frame) (name : String),
      Frame.forHeader ⟨16, 21⟩ ([1, 0, 0, 0] ++ List.replicate 17 0xFF) = .ok f ∧
      f.operation? = some .listDefinedDomains ∧ Reply.decode f = .ok (.names [name]) ∧
      (Reply.names [name]).encode .listDefinedDomains = .error (.textTooLong "name" 51 49) ∧
      (Request.domainByName name).encode = .error (.textTooLong "name" 51 49) ∧
      ∀ {τ : Type} [Peer τ] (s : Session τ), (perform (.domainByName name) s).1 =
        .error (.rejected "domain_lookup_by_name" (.textTooLong "name" 51 49)) := by
  obtain ⟨f, made, header, payload⟩ := Frame.forHeader_of_le ⟨16, 21⟩
    ([1, 0, 0, 0] ++ List.replicate 17 0xFF) (by decide) rfl
  have known : f.operation? = some .listDefinedDomains := by
    rw [Frame.operation?, header]
    rfl
  let name := String.ofList (List.replicate 17 '\ufffd')
  have decoded : Reply.decode f = .ok (.names [name]) := by
    refine Reply.decode_of_read (v := [name]) known (eq_ok_of_toOption ?_)
    rw [payload]
    change @Eq (Option (List String)) _ _
    decide +kernel
  have size : Text.size name = 51 := by decide +kernel
  have long : (FieldText.ofName name).Refused (.textTooLong "name" 51 49) := by
    rw [← size]
    exact .tooLong (show 49 < Text.size name by rw [size]; decide)
  refine ⟨f, name, made, known, decoded, ?_, ?_, ?_⟩
  · exact (Layout.encode_eq_error_iff _ _ (Reply.Kind.regular (.names "names"))).2
      (.inr ⟨by decide, .here long⟩)
  · exact Request.encode_eq_error_iff.2 ⟨_, List.mem_singleton_self _, long⟩
  · intro τ _ s
    exact (rejected_iff (c := .domainByName name) rfl s).2
      ⟨rfl, _, List.mem_singleton_self _, long⟩

end Session

end Supervisor

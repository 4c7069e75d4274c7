import Supervisor.Proofs.HandleTable
import Supervisor.Proofs.Session.Run

/-!
# What calls do to the tables

A call that fails leaves both tables alone. One that succeeds comes to a settlement, which changes
at most the entry of one object, and only in the table of the objects that the call is about.

## Main definitions

* `Books.Sound` - each table is sound and the one for its objects
* `Call.kind?`, `Call.hands?`, `Call.takes?` - what a call is about, and what it may do to handles
* `Session.Suits` - a settlement that a call may come to
* `Session.Settled` - what a call comes to

## Main results

* `Settlement.handOut_ok`, `Settlement.takeBack_ok` - one handle more, one handle less
* `Session.settled` - a call fails and leaves the tables alone, or it comes to a settlement
* `Session.table_of_kind?` - calls about domains leave networks alone, and the other way round
-/

namespace Supervisor

open Wire

namespace Books

/-- The tables are sound, and each is the one for its objects. -/
def Sound (b : Books) : Prop := ∀ k, (b.table k).Sound ∧ (b.table k).kind = k

theorem sound_empty : empty.Sound := by
  intro k
  cases k <;> exact ⟨HandleTable.sound_empty _, rfl⟩

theorem Sound.replace {b : Books} (sound : b.Sound) {k : ObjectKind} {t : HandleTable}
    (kept : t.Sound) (kind : t.kind = (b.table k).kind) : (b.replace k t).Sound := by
  intro k'
  by_cases same : k' = k
  · subst same
    rw [table_replace]
    exact ⟨kept, kind.trans (sound k').2⟩
  · rw [table_replace_of_ne same]
    exact sound k'

end Books

namespace Settlement

variable {b b' : Books} {h : Handle} {v : Call.Value}

/-- What a handle that was handed out has done to its table. -/
theorem handOut_ok (applied : (handOut h).apply b = .ok (v, b')) :
    v = h.value ∧ ∃ t, b' = b.replace h.kind t ∧ t.kind = (b.table h.kind).kind ∧
      ((b.table h.kind).Sound → t.Sound) ∧
      (∀ e, (b.table h.kind).find? h.uuid = some e → e.name = h.name) ∧
      ∀ u, t.find? u = if u = h.uuid then
        some ⟨h.uuid, h.name, (b.table h.kind).references h.uuid + 1⟩
        else (b.table h.kind).find? u := by
  simp only [apply] at applied
  rcases (b.table h.kind).acquire_spec h.uuid h.name with
    ⟨_, _, _, refused⟩ | ⟨t, acquired, kind, kept, own, found⟩
  · rw [refused] at applied
    cases applied
  · rw [acquired] at applied
    cases applied
    exact ⟨rfl, t, rfl, kind, kept, own, found⟩

/-- What a handle that was taken back has done to its table. -/
theorem takeBack_ok (applied : (takeBack h).apply b = .ok (v, b')) :
    ∃ e t, (b.table h.kind).find? h.uuid = some e ∧ b' = b.replace h.kind t ∧
      t.kind = (b.table h.kind).kind ∧ ((b.table h.kind).Sound → t.Sound) ∧
      ∀ u, t.find? u = if u = h.uuid then
        if e.references ≤ 1 then none else some e.less
        else (b.table h.kind).find? u := by
  simp only [apply] at applied
  rcases (b.table h.kind).release_spec h.uuid with
    ⟨_, refused⟩ | ⟨e, _, t, live, released, kind, kept, found⟩
  · rw [refused] at applied
    cases applied
  · rw [released] at applied
    cases applied
    exact ⟨e, t, live, rfl, kind, kept, found⟩

/-- What is settled keeps the tables sound. -/
theorem sound_apply {t : Settlement} (sound : b.Sound) (applied : t.apply b = .ok (v, b')) :
    b'.Sound := by
  cases t with
  | give v' =>
    cases applied
    exact sound
  | complain e object => cases applied
  | handOut h =>
    obtain ⟨-, t, rfl, kind, kept, -⟩ := handOut_ok applied
    exact sound.replace (kept (sound h.kind).1) kind
  | takeBack h =>
    obtain ⟨-, t, -, rfl, kind, kept, -⟩ := takeBack_ok applied
    exact sound.replace (kept (sound h.kind).1) kind

end Settlement

namespace Call

/-- Which objects a call is about. -/
def kind? : Call → Option ObjectKind
  | .version | .nodeInfo | .close => none
  | .countDomains | .countDefinedDomains | .listDomains _ | .listDefinedDomains _ | .createDomain _
  | .defineDomain _ | .domainById _ | .domainByUuid _ | .domainByName _ | .suspendDomain _
  | .resumeDomain _ | .shutdownDomain _ | .destroyDomain _ | .domainStatus _ | .domainXml _
  | .saveDomain _ _ | .restoreDomain _ | .startDomain _ | .undefineDomain _ | .releaseDomain _ =>
    some .domain
  | .countNetworks | .countDefinedNetworks | .listNetworks _ | .listDefinedNetworks _
  | .createNetwork _ | .defineNetwork _ | .networkByUuid _ | .networkByName _ | .startNetwork _
  | .destroyNetwork _ | .networkXml _ | .networkBridge _ | .undefineNetwork _ | .releaseNetwork _ =>
    some .network

/-- Which handles a call gives out: those it creates, defines or finds an object for. -/
def hands? : Call → Option ObjectKind
  | .createDomain _ | .defineDomain _ | .domainById _ | .domainByUuid _ | .domainByName _ =>
    some .domain
  | .createNetwork _ | .defineNetwork _ | .networkByUuid _ | .networkByName _ => some .network
  | _ => none

/-- The handle that a call takes back if it succeeds. -/
def takes? : Call → Option Handle
  | .undefineDomain d | .releaseDomain d => some (.domain d)
  | .undefineNetwork n | .releaseNetwork n => some (.network n)
  | _ => none

/-- The handle that a call is made with. -/
def handle? : Call → Option Handle
  | .suspendDomain d | .resumeDomain d | .shutdownDomain d | .destroyDomain d | .domainStatus d
  | .domainXml d | .saveDomain d _ | .startDomain d | .undefineDomain d | .releaseDomain d =>
    some (.domain d)
  | .startNetwork n | .destroyNetwork n | .networkXml n | .networkBridge n | .undefineNetwork n
  | .releaseNetwork n => some (.network n)
  | _ => none

theorem kind?_of_hands? {c : Call} {k : ObjectKind} (hands : c.hands? = some k) :
    c.kind? = some k := by
  cases c <;> cases hands <;> rfl

theorem kind?_of_takes? {c : Call} {h : Handle} (takes : c.takes? = some h) :
    c.kind? = some h.kind := by
  cases c <;> cases takes <;> rfl

end Call

/-- Whether a handle is for an object. -/
def Handle.isFor (h : Handle) (k : ObjectKind) (u : Uuid) : Bool := h.kind = k ∧ h.uuid = u

theorem Handle.isFor_iff {h : Handle} {k : ObjectKind} {u : Uuid} :
    h.isFor k u = true ↔ h.kind = k ∧ h.uuid = u := by
  simp [isFor]

/-- A table that was changed for one object only has the same entries for all others. -/
theorem Books.find?_replace {b : Books} {h : Handle} {t : HandleTable} {k : ObjectKind} {u : Uuid}
    (elsewhere : ∀ v, v ≠ h.uuid → t.find? v = (b.table h.kind).find? v)
    (other : h.isFor k u = false) :
    ((b.replace h.kind t).table k).find? u = (b.table k).find? u := by
  by_cases kind : h.kind = k
  · subst kind
    rw [table_replace]
    exact elsewhere u fun uuid => Bool.false_ne_true (other ▸ Handle.isFor_iff.2 ⟨rfl, uuid.symm⟩)
  · rw [table_replace_of_ne (Ne.symm kind)]

namespace Session

variable {σ : Type} [Peer σ]

/-- A settlement that a call may come to. -/
def Suits (c : Call) : Settlement → Prop
  | .give _ | .complain _ _ => c.hands? = none ∧ c.takes? = none
  | .handOut h => c.hands? = some h.kind ∧ c.takes? = none
  | .takeBack h => c.hands? = none ∧ c.takes? = some h

theorem suits_ofCheck {c : Call} {α : Type} (none : c.hands? = none ∧ c.takes? = none)
    (object : Option String) (value : α → Call.Value) (x : Except CallError α) :
    Suits c (.ofCheck object value x) := by
  cases x <;> exact none

/-- What a call settles with a reply suits it. -/
theorem suits_of_ask {c : Call} {e : Errand} (plan : c.plan = .ask e) {reply : Reply}
    {t : Settlement} (settled : e.settle reply = some t) : Suits c t := by
  cases c with
  | countDomains | countDefinedDomains | countNetworks | countDefinedNetworks | listNetworks
  | listDefinedNetworks | domainStatus =>
    cases plan
    obtain ⟨a, -, rfl⟩ := Option.map_eq_some_iff.1 settled
    exact suits_ofCheck ⟨rfl, rfl⟩ _ _ _
  | saveDomain | restoreDomain | releaseDomain | releaseNetwork | close => cases plan
  | _ =>
    cases plan
    obtain ⟨a, -, rfl⟩ := Option.map_eq_some_iff.1 settled
    exact ⟨rfl, rfl⟩

theorem suits_of_settle {c : Call} {t : Settlement} (plan : c.plan = .settle t) : Suits c t := by
  cases c <;> cases plan <;> exact ⟨rfl, rfl⟩

/-- What a call comes to: it fails and leaves the tables alone, or it gives what a settlement that
suits it gives, and the tables are those of the settlement. -/
inductive Settled (c : Call) (s : Session σ) : Prop where
  | failed {e : CallError} (failed : (perform c s).1 = .error e)
    (same : (perform c s).2.books = s.books)
  | applied {t : Settlement} {v : Call.Value} (suits : Suits c t)
    (applied : t.apply s.books = .ok (v, (perform c s).2.books))
    (done : (perform c s).1 = .ok v)

/-- A call is settled if it does no more than a settlement that suits it. -/
theorem settled_of_apply {c : Call} {s s' : Session σ} {t : Settlement}
    (same : s'.books = s.books) (suits : Suits c t)
    (performed : perform c s = s'.conclude (t.apply s.books)) : Settled c s := by
  cases applied : t.apply s.books with
  | error complaint =>
    rw [applied] at performed
    exact .failed (by rw [performed]; rfl) (by rw [performed]; exact same)
  | ok result =>
    rw [applied] at performed
    exact .applied suits (by rw [applied, performed]; rfl) (by rw [performed]; rfl)

/-- Every call is settled. -/
theorem settled (c : Call) (s : Session σ) : Settled c s := by
  cases plan : c.plan with
  | close =>
    obtain rfl := Call.plan_eq_close_iff.1 plan
    have books : s.close.books = s.books := by
      unfold close
      split <;> rfl
    refine .applied (t := .give .done) ⟨rfl, rfl⟩ ?_ (by rw [perform_close plan])
    rw [perform_close plan, books]
    rfl
  | settle t => exact settled_of_apply rfl (suits_of_settle plan) (perform_settle plan s)
  | ask e =>
    obtain ⟨outcome, s', asked, performed⟩ := perform_ask plan s
    -- The request leaves the tables alone, so a settlement meets those from before the call.
    have failed : ∀ complaint, e.conclude s.books outcome = .error complaint → Settled c s := by
      intro complaint concluded
      rw [concluded] at performed
      exact .failed (by rw [performed]; rfl) (by rw [performed]; exact asked.same_books)
    cases outcome with
    | error failure => exact failed _ rfl
    | ok reply =>
      cases comes : e.settle reply with
      | none =>
        refine failed ⟨.unexpectedLayout e.request.operation.name, e.object⟩ ?_
        simp only [Errand.conclude, comes]
      | some t =>
        simp only [Errand.conclude, comes] at performed
        exact settled_of_apply asked.same_books (suits_of_ask plan comes) performed

/-- A call that fails leaves the tables alone. -/
theorem books_of_error {c : Call} {s : Session σ} {e : CallError}
    (failed : (perform c s).1 = .error e) : (perform c s).2.books = s.books := by
  cases settled c s with
  | failed _ same => exact same
  | applied _ _ done =>
    rw [failed] at done
    cases done

/-- A call leaves the table of the objects alone that it is not about. -/
theorem table_of_kind? {c : Call} {k : ObjectKind} (other : c.kind? ≠ some k) (s : Session σ) :
    (perform c s).2.books.table k = s.books.table k := by
  cases settled c s with
  | failed _ same => rw [same]
  | @applied t v suits applied done =>
    cases t with
    | give v' => rw [← (Prod.mk.inj (Except.ok.inj applied)).2]
    | complain e object => cases applied
    | handOut h =>
      obtain ⟨-, t, books, -⟩ := Settlement.handOut_ok applied
      have ne : k ≠ h.kind := by
        rintro rfl
        exact other (Call.kind?_of_hands? suits.1)
      rw [books, Books.table_replace_of_ne ne]
    | takeBack h =>
      obtain ⟨-, t, -, books, -⟩ := Settlement.takeBack_ok applied
      have ne : k ≠ h.kind := by
        rintro rfl
        exact other (Call.kind?_of_takes? suits.2)
      rw [books, Books.table_replace_of_ne ne]

end Session

end Supervisor

import Supervisor.Proofs.Session.Remote
import Supervisor.Proofs.Session.Tables

/-!
# Accounts of handles

A table counts the handles that are out: those that calls gave out so far, less those that were
given back. The name under which an identifier is live is the name of every handle given out since
it became live. A call that fails changes none of this.

## Main definitions

* `Session.Step.handed?`, `Session.Step.taken?` - the handle that a call gave out or took back
* `Session.Accounts` - the tables tell which handles are out
* `Session.KeepsAccounts` - what a call may do to the tables

## Main results

* `Session.turned` - what a step does to the entry of an object
* `Session.Accounts.call` - a call keeps the accounts
* `Session.accounts_of_run` - the accounts are right in every run
-/

namespace Supervisor

open Wire

/-- The call that undefines what a handle is for, and gives the handle back. -/
def Handle.undefine : Handle → Call
  | domain d => .undefineDomain d
  | network n => .undefineNetwork n

/-- What that call asks for. -/
def Handle.undefining : Handle → Request
  | domain d => .undefineDomain d.uuid
  | network n => .undefineNetwork n.uuid

theorem Handle.plan_undefine (h : Handle) : h.undefine.plan = .undoing h.undefining h := by
  cases h <;> rfl

namespace Session

variable {σ : Type} [Peer σ]

namespace Step

/-- The handle that a call gave out. -/
def handed? (t : Step σ) : Option Handle :=
  match t.call.hands?, t.outcome with
  | some .domain, .ok (.domain d) => some (.domain d)
  | some .network, .ok (.network n) => some (.network n)
  | _, _ => none

/-- The handle that a call took back. -/
def taken? (t : Step σ) : Option Handle :=
  match t.outcome with
  | .ok _ => t.call.takes?
  | .error _ => none

/-- The handle that a call was made with, as the caller has it afterwards. Only a start takes the
handle to change it; other calls merely read it. -/
def handleAfter? (t : Step σ) : Option Handle :=
  match t.call with
  | .startDomain d => some (.domain (startDomain d t.before).1.2)
  | c => c.handle?

end Step

/-- How many handles were given out for an object. -/
def handed (k : ObjectKind) (u : Uuid) (past : List (Step σ)) : Nat :=
  past.countP fun t => t.handed?.any (·.isFor k u)

/-- How many handles were taken back for an object. -/
def taken (k : ObjectKind) (u : Uuid) (past : List (Step σ)) : Nat :=
  past.countP fun t => t.taken?.any (·.isFor k u)

/-- How many handles an entry counts, if there is one. -/
def counted (entry : Option HandleTable.Entry) : Nat := (entry.map (·.references)).getD 0

/-- How the entry of one object changes in a step, and what it has to do with what the call gave out
or took back. -/
inductive Turned (t : Step σ) (k : ObjectKind) (u : Uuid) :
    Option HandleTable.Entry → Option HandleTable.Entry → Prop where
  | same {entry : Option HandleTable.Entry} (notHanded : t.handed?.any (·.isFor k u) = false)
    (notTaken : t.taken?.any (·.isFor k u) = false) : Turned t k u entry entry
  | more {entry : Option HandleTable.Entry} {h : Handle} (handed : t.handed? = some h)
    (here : h.isFor k u = true) (notTaken : t.taken? = none)
    (own : ∀ e, entry = some e → e.name = h.name) :
    Turned t k u entry (some ⟨u, h.name, counted entry + 1⟩)
  | less {e : HandleTable.Entry} {h : Handle} (notHanded : t.handed? = none)
    (taken : t.taken? = some h) (here : h.isFor k u = true) :
    Turned t k u (some e) (if e.references ≤ 1 then none else some e.less)

namespace Turned

variable {t : Step σ} {k : ObjectKind} {u : Uuid} {old new : Option HandleTable.Entry}

/-- Handles given out and references go up together, and so do handles taken back and references go
down. -/
theorem balance (turn : Turned t k u old new) (positive : ∀ e, old = some e → 0 < e.references) :
    counted new + (if t.taken?.any (·.isFor k u) then 1 else 0) =
      counted old + (if t.handed?.any (·.isFor k u) then 1 else 0) := by
  cases turn with
  | same notHanded notTaken => rw [notHanded, notTaken]
  | more given here notTaken own =>
    rw [given, notTaken, Option.any_some, here]
    rfl
  | @less e h notHanded back here =>
    have pos := positive e rfl
    rw [notHanded, back, Option.any_some, here]
    by_cases last : e.references ≤ 1
    · have one : e.references = 1 := Nat.le_antisymm last pos
      rw [if_pos last]
      exact (congrArg (· + 0) one).symm
    · rw [if_neg last]
      exact Nat.sub_add_cancel pos

/-- A handle that was given out has the name that is registered. -/
theorem name_of_handed (turn : Turned t k u old new) {h : Handle} (given : t.handed? = some h)
    (here : h.isFor k u = true) : ∃ e, new = some e ∧ e.name = h.name := by
  cases turn with
  | same notHanded _ =>
    rw [given, Option.any_some, here] at notHanded
    cases notHanded
  | more given' _ _ _ =>
    obtain rfl := Option.some.inj (given.symm.trans given')
    exact ⟨_, rfl, rfl⟩
  | less notHanded _ _ =>
    rw [given] at notHanded
    cases notHanded

/-- The name stays with the entry as long as that is live. -/
theorem name_of_live {e : HandleTable.Entry} (turn : Turned t k u (some e) new)
    (live : 0 < counted new) : ∃ e', new = some e' ∧ e'.name = e.name := by
  cases turn with
  | same _ _ => exact ⟨e, rfl, rfl⟩
  | more _ _ _ own => exact ⟨_, rfl, (own e rfl).symm⟩
  | less _ _ _ =>
    by_cases last : e.references ≤ 1
    · rw [if_pos last] at live
      exact absurd live (Nat.lt_irrefl 0)
    · exact ⟨e.less, if_neg last, rfl⟩

end Turned

namespace Step

variable {t : Step σ}

theorem handed?_of_hands? (never : t.call.hands? = none) : t.handed? = none := by
  simp only [handed?, never]

theorem handed?_of_handOut {h : Handle} (hands : t.call.hands? = some h.kind)
    (gives : t.outcome = .ok h.value) : t.handed? = some h := by
  rw [handed?, hands, gives]
  cases h <;> rfl

theorem handed?_of_error {e : CallError} (failed : t.outcome = .error e) : t.handed? = none := by
  rw [handed?, failed]
  split <;> first | rfl | contradiction

theorem taken?_of_ok {v : Call.Value} (done : t.outcome = .ok v) : t.taken? = t.call.takes? := by
  rw [taken?, done]

theorem taken?_of_error {e : CallError} (failed : t.outcome = .error e) : t.taken? = none := by
  rw [taken?, failed]

end Step

/-- Every step turns the entry of every object in one of these ways. -/
theorem turned (t : Step σ) (k : ObjectKind) (u : Uuid) :
    Turned t k u ((t.before.books.table k).find? u) ((t.after.books.table k).find? u) := by
  rw [Step.after]
  cases settled t.call t.before with
  | failed failed books =>
    rw [books]
    have handed := Step.handed?_of_error failed
    have taken := Step.taken?_of_error failed
    exact .same (by rw [handed]; rfl) (by rw [taken]; rfl)
  | @applied settlement v suits applied done =>
    have taken := Step.taken?_of_ok done
    cases settlement with
    | complain e object => cases applied
    | give v' =>
      rw [← (Prod.mk.inj (Except.ok.inj applied)).2]
      have handed := Step.handed?_of_hands? suits.1
      exact .same (by rw [handed]; rfl) (by rw [taken, suits.2]; rfl)
    | handOut h =>
      obtain ⟨rfl, t', books, -, -, own, found⟩ := Settlement.handOut_ok applied
      have handed := Step.handed?_of_handOut suits.1 done
      -- The table changes for the object of the handle; for all others nothing was handed out.
      cases isFor : h.isFor k u with
      | true =>
        obtain ⟨rfl, rfl⟩ := Handle.isFor_iff.1 isFor
        rw [books, Books.table_replace, found, if_pos rfl]
        exact .more handed isFor (taken.trans suits.2) own
      | false =>
        rw [books, Books.find?_replace (fun v other => (found v).trans (if_neg other)) isFor]
        exact .same (by rw [handed]; exact isFor) (by rw [taken, suits.2]; rfl)
    | takeBack h =>
      obtain ⟨e, t', live, books, -, -, found⟩ := Settlement.takeBack_ok applied
      have handed := Step.handed?_of_hands? suits.1
      cases isFor : h.isFor k u with
      | true =>
        obtain ⟨rfl, rfl⟩ := Handle.isFor_iff.1 isFor
        rw [books, Books.table_replace, found, if_pos rfl, live]
        exact .less handed (taken.trans suits.2) isFor
      | false =>
        rw [books, Books.find?_replace (fun v other => (found v).trans (if_neg other)) isFor]
        exact .same (by rw [handed]; rfl) (by rw [taken, suits.2]; exact isFor)

/-! ### Accounts over runs -/

theorem handed_concat (k : ObjectKind) (u : Uuid) (past : List (Step σ)) (t : Step σ) :
    handed k u (past ++ [t]) =
      handed k u past + if t.handed?.any (·.isFor k u) then 1 else 0 := by
  rw [handed, List.countP_append, List.countP_singleton, ← handed]

theorem taken_concat (k : ObjectKind) (u : Uuid) (past : List (Step σ)) (t : Step σ) :
    taken k u (past ++ [t]) = taken k u past + if t.taken?.any (·.isFor k u) then 1 else 0 := by
  rw [taken, List.countP_append, List.countP_singleton, ← taken]

/-- How many handles are out for an object. -/
def held (k : ObjectKind) (u : Uuid) (past : List (Step σ)) : Nat :=
  handed k u past - taken k u past

/-- Handles for an object have been out at every time since the first steps. -/
def LiveSince (k : ObjectKind) (u : Uuid) (first since : List (Step σ)) : Prop :=
  ∀ mid, mid <+: since → 0 < held k u (first ++ mid)

/-- The tables tell which handles are out, and under which names. -/
structure Accounts (past : List (Step σ)) (s : Session σ) : Prop where
  sound : s.books.Sound
  balance : ∀ k u, (s.books.table k).references u + taken k u past = handed k u past
  names : ∀ k u before t since h, past = before ++ t :: since → t.handed? = some h →
    h.isFor k u = true → LiveSince k u (before ++ [t]) since →
      ∃ e, (s.books.table k).find? u = some e ∧ e.name = h.name

namespace Accounts

variable {past : List (Step σ)} {s : Session σ}

theorem references_eq (accounts : Accounts past s) (k : ObjectKind) (u : Uuid) :
    (s.books.table k).references u = held k u past := by
  have balance := accounts.balance k u
  unfold held
  omega

/-- The accounts are right before the first call. -/
theorem start (fresh : s.books = .empty) : Accounts [] s where
  sound := by
    rw [fresh]
    exact Books.sound_empty
  balance k u := by
    rw [fresh]
    cases k <;> rfl
  names k u before t since h split := by simp at split

/-- A call keeps the tables sound. -/
theorem sound_perform (accounts : Accounts past s) (c : Call) : (perform c s).2.books.Sound := by
  cases settled c s with
  | failed _ same =>
    rw [same]
    exact accounts.sound
  | applied _ applied _ => exact Settlement.sound_apply accounts.sound applied

/-- A call keeps the balance. -/
theorem balance_perform (accounts : Accounts past s) (c : Call) (k : ObjectKind) (u : Uuid) :
    ((perform c s).2.books.table k).references u + taken k u (past ++ [⟨s, c⟩]) =
      handed k u (past ++ [⟨s, c⟩]) := by
  have before := accounts.balance k u
  have positive : ∀ e, (s.books.table k).find? u = some e → 0 < e.references := fun e found =>
    (accounts.sound k).1.positive e (HandleTable.mem_of_find? found)
  have turn := (turned ⟨s, c⟩ k u).balance positive
  rw [handed_concat, taken_concat]
  change counted ((s.books.table k).find? u) + _ = _ at before
  change counted (((perform c s).2.books.table k).find? u) + _ = _
  change counted (((perform c s).2.books.table k).find? u) + _ = _ at turn
  dsimp only at turn
  omega

/-- A call keeps the accounts. -/
theorem call (accounts : Accounts past s) (c : Call) :
    Accounts (past ++ [⟨s, c⟩]) (perform c s).2 := by
  have balance := accounts.balance_perform c
  refine ⟨accounts.sound_perform c, balance, ?_⟩
  intro k u before t since h split given here live
  have turn : Turned ⟨s, c⟩ k u ((s.books.table k).find? u)
    (((perform c s).2.books.table k).find? u) := turned ⟨s, c⟩ k u
  -- The handle was given out either in this call or in an earlier one.
  rcases List.eq_nil_or_concat since with rfl | ⟨since, last, rfl⟩
  · obtain ⟨rfl, same⟩ := List.append_inj' split rfl
    obtain rfl := List.singleton_inj.1 same
    exact turn.name_of_handed given here
  · -- Handles are still out after this call, so its turn has kept the entry and with it the name.
    have regrouped : past ++ [⟨s, c⟩] = (before ++ t :: since) ++ [last] := by
      simpa using split
    obtain ⟨rfl, same⟩ := List.append_inj' regrouped rfl
    obtain rfl := List.singleton_inj.1 same
    obtain ⟨e, found, name⟩ := accounts.names k u before t since h rfl given here
      fun mid within => live mid (within.trans (by simp))
    have still : 0 < held k u ((before ++ t :: since) ++ [⟨s, c⟩]) := by
      simpa using live _ (List.prefix_refl _)
    have now : 0 < counted (((perform c s).2.books.table k).find? u) := by
      have references := balance k u
      change counted (((perform c s).2.books.table k).find? u) + _ = _ at references
      unfold held at still
      omega
    rw [found] at turn
    obtain ⟨e', found', name'⟩ := turn.name_of_live now
    exact ⟨e', found', name'.trans name⟩

end Accounts

/-- In every run the accounts are right. -/
theorem Run.accounts {s₀ s : Session σ} {past : List (Step σ)} (run : Run s₀ past s)
    (fresh : s₀.books = .empty) : Accounts past s := by
  induction run with
  | start => exact .start fresh
  | call run c ih => exact ih.call c
  | weather run w ih => exact ⟨ih.sound, ih.balance, ih.names⟩

/-! ### What a call may do -/

/-- What a call may do to the tables, and to the handle that it is made with. -/
structure KeepsAccounts (t : Step σ) : Prop where
  /-- A failure changes nothing. -/
  failure : ∀ e, t.outcome = .error e →
    t.after.books = t.before.books ∧ t.handleAfter? = t.call.handle?
  /-- Calls about domains leave networks alone, and the other way round. -/
  apart : ∀ k, t.call.kind? ≠ some k → t.after.books.table k = t.before.books.table k
  /-- A reply that would register an object under another name is refused. -/
  conflict : ∀ e reply h entry, t.call.plan = .ask e →
    (request e.request some t.before).1 = .ok reply → e.settle reply = some (.handOut h) →
      (t.before.books.table h.kind).find? h.uuid = some entry → entry.name ≠ h.name →
        t.outcome = .error (.handles (.nameConflict h.kind h.uuid entry.name h.name))
  /-- A handle is given back once the daemon has undefined its object, and not otherwise; by then it
  may turn out not to be registered. -/
  undefine : ∀ h : Handle, t.call = h.undefine →
    match (request h.undefining some t.before).1 with
    | .ok .empty => t.outcome =
        if (t.before.books.table h.kind).contains h.uuid then .ok .done
        else .error (.handles (.unknown h.kind h.uuid))
    | _ => ∃ e, t.outcome = .error e

/-- A start that fails hands the domain back as it was. -/
theorem startDomain_of_error {d : Domain} {s : Session σ} {e : CallError}
    (failed : (perform (.startDomain d) s).1 = .error e) : (startDomain d s).1.2 = d := by
  simp only [perform, map_apply, started, startDomain] at failed ⊢
  generalize (dispatch (.startDomain d.uuid) (some d.name) _ : Action σ Int32) s = asked
    at failed ⊢
  obtain ⟨_ | id, _⟩ := asked
  · rfl
  · cases failed

/-- Every call keeps the accounts of sound tables. -/
theorem keepsAccounts {s : Session σ} (sound : s.books.Sound) (c : Call) :
    KeepsAccounts ⟨s, c⟩ where
  failure e failed := by
    refine ⟨books_of_error failed, ?_⟩
    cases c with
    | startDomain d => exact congrArg (fun d => some (Handle.domain d)) (startDomain_of_error failed)
    | _ => rfl
  apart k other := table_of_kind? other s
  conflict e reply h entry plan asked settled found other := by
    rw [Step.outcome, outcome_of_ask plan, asked, Errand.outcome, Errand.conclude, settled]
    simp only [Settlement.apply, HandleTable.acquire, found, if_neg other, (sound h.kind).2]
  undefine h same := by
    have asked := outcome_of_ask h.plan_undefine s
    rw [Step.outcome, same]
    change (perform h.undefine s).1 =
      Errand.outcome _ s.books (request h.undefining some s).1 at asked
    cases answer : (request h.undefining some s).1 with
    | error e =>
      rw [answer] at asked
      exact ⟨_, asked⟩
    | ok reply =>
      rw [answer] at asked
      cases reply with
      | empty =>
        -- The daemon has done its part; only a handle that is not registered can still fail.
        refine asked.trans ?_
        simp only [Errand.outcome, Errand.conclude, Errand.wanting, Reply.empty?, Option.map_some]
        rcases (s.books.table h.kind).release_spec h.uuid with
          ⟨absent, refused⟩ | ⟨entry, n, t', live, released, -⟩
        · simp [Settlement.apply, refused, HandleTable.contains, absent, (sound h.kind).2]
        · simp [Settlement.apply, released, HandleTable.contains, live]
      | _ => exact ⟨_, asked⟩

/-- In every run of a fresh session the tables account for the handles that are out: the references
of an object are the handles given out for it less those taken back, it is live if that is positive,
the size of a table is the number of its live objects, each is registered under the name of every
handle given out since it became live, and no call can disturb this. -/
theorem accounts_of_run {s₀ s : Session σ} {past : List (Step σ)} (fresh : s₀.books = .empty)
    (run : Run s₀ past s) :
    Accounts past s ∧
      (∀ k u, (s.books.table k).contains u = true ↔ 0 < held k u past) ∧
      (∀ k, ∃ live : List Uuid, live.Nodup ∧ live.length = (s.books.table k).size ∧
        ∀ u, u ∈ live ↔ 0 < held k u past) ∧
      ∀ c : Call, KeepsAccounts ⟨s, c⟩ := by
  have accounts := run.accounts fresh
  have live : ∀ k u, (s.books.table k).contains u = true ↔ 0 < held k u past := fun k u => by
    rw [HandleTable.contains_iff_pos (accounts.sound k).1, accounts.references_eq]
  refine ⟨accounts, live, fun k => ?_, keepsAccounts accounts.sound⟩
  obtain ⟨uuids, distinct, length, member⟩ := HandleTable.exists_live (accounts.sound k).1
  exact ⟨uuids, distinct, length, fun u => (member u).trans (live k u)⟩

/-- The identifier of the only domain that a daemon knows. -/
def onlyUuid : Uuid := ⟨List.replicate 16 7, rfl⟩

theorem references_after_lookup :
    let s := withAnswer (.domainByUuid onlyUuid) (.idName 3 "guest")
    ((perform (.domainByUuid onlyUuid) s).2.books.table .domain).references onlyUuid = 1 := by
  intro s
  have answers : Answers (.domainByUuid onlyUuid) (.idName 3 "guest") :=
    ⟨.inr rfl, exists_of_isOk (by decide +kernel)⟩
  have notClose : Call.domainByUuid onlyUuid ≠ .close := by decide
  have given : (perform (.domainByUuid onlyUuid) s).1 = .ok (.domain ⟨"guest", onlyUuid, 3⟩) :=
    ((mirrors_withAnswer _ _).perform (honest_withAnswer answers) notClose).1.trans rfl
  have accounts : Accounts [⟨s, .domainByUuid onlyUuid⟩] (perform (.domainByUuid onlyUuid) s).2 :=
    (accounts_of_run rfl (.call .start _)).1
  have handed :
      handed .domain onlyUuid [(⟨s, .domainByUuid onlyUuid⟩ : Step (Served Nat))] = 1 := by
    simp [handed, Step.handed?, Step.outcome, given, Call.hands?, Handle.isFor, Handle.kind,
      Handle.uuid]
  have taken :
      taken .domain onlyUuid [(⟨s, .domainByUuid onlyUuid⟩ : Step (Served Nat))] = 0 := by
    simp [taken, Step.taken?, Step.outcome, given, Call.takes?]
  have balance := accounts.balance .domain onlyUuid
  omega

end Session

end Supervisor

import Supervisor.Proofs.Session.Remote
import Supervisor.Proofs.Session.Tables

/-!
# What calls mean

A user of a session need not know of frames, streams and tables of handles. A call asks the daemon
one thing at most. What it gives is read off the reply, which says for each kind of calls which
number, name, text or state that is, and off a ledger of the handles that are out. All of this is
told here once more, call by call and without the wire, and a session whose stream has no faults
does exactly that.

## Main definitions

* `Ledger` - which handles are out, and under which names
* `Meaning`, `Call.meaning` - what a call asks for, and how its reply is understood
* `Request.objection?` - why a request is not made
* `Meant` - a client that does what calls mean

## Main results

* `Call.follows_plan` - a call is planned as it is meant
* `Ledger.agree_apply` - tables of handles do what a ledger does
* `Session.performAll_eq_meant` - calls across the wire do what they mean
-/

namespace Supervisor

open Wire

/-- The handles that are out: for an object the name that it is known by, and how many there are. -/
abbrev Ledger := ObjectKind → Uuid → Option (String × Nat)

/-- What comes of a call: a value and the handles that are out then, or a failure, which leaves them
as they are. -/
abbrev Upshot := Except CallError (Call.Value × Ledger)

namespace Ledger

/-- No handle is out. -/
def blank : Ledger := fun _ _ => none

/-- The ledger with another line for one object. -/
def write (l : Ledger) (k : ObjectKind) (u : Uuid) (line : Option (String × Nat)) : Ledger :=
  fun k' u' => if k' = k ∧ u' = u then line else l k' u'

/-- One handle more is out. The first one fixes the name of its object. -/
def handOut (l : Ledger) (k : ObjectKind) (u : Uuid) (name : String) : Except CallError Ledger :=
  match l k u with
  | none => .ok (l.write k u (some (name, 1)))
  | some (known, n) =>
    if known = name then .ok (l.write k u (some (name, n + 1)))
    else .error (.handles (.nameConflict k u known name))

/-- One handle less is out, if any is. -/
def takeBack (l : Ledger) (k : ObjectKind) (u : Uuid) : Except CallError Ledger :=
  match l k u with
  | none => .error (.handles (.unknown k u))
  | some (name, n) => .ok (l.write k u (if n ≤ 1 then none else some (name, n - 1)))

/-! What comes of a reply that was understood. -/

def give (l : Ledger) (v : Call.Value) : Upshot := .ok (v, l)

/-- A number of objects, which the session counts without a sign. -/
def giveCount (l : Ledger) (label : String) (n : Int32) : Upshot :=
  match n.toInt with
  | .ofNat count => l.give (.count count)
  | .negSucc _ => .error (.malformed (.countOutOfRange label n 18446744073709551615))

/-- Names that have to fit what the caller can take. -/
def giveAll (l : Ledger) (what : String) (capacity : Nat) (names : List String) : Upshot :=
  if names.length ≤ capacity then l.give (.names names)
  else .error (.capacityExceeded what names.length capacity)

/-- The status of a domain, whose state is sent as a number. -/
def giveStatus (l : Ledger) (i : DomainInfo) : Upshot :=
  match [(1, DomainState.running), (2, .paused), (3, .shutOff)].lookup i.runState with
  | some state => l.give (.status ⟨state, i.maxMemory, i.memory, i.virtCpus, i.cpuTime⟩)
  | none => .error (.unknownRunState i.runState)

def giveDomain (l : Ledger) (d : Domain) : Upshot := do
  return (.domain d, ← l.handOut .domain d.uuid d.name)

def giveNetwork (l : Ledger) (n : Network) : Upshot := do
  return (.network n, ← l.handOut .network n.uuid n.name)

def dropDomain (l : Ledger) (d : Domain) : Upshot := do
  return (.done, ← l.takeBack .domain d.uuid)

def dropNetwork (l : Ledger) (n : Network) : Upshot := do
  return (.done, ← l.takeBack .network n.uuid)

end Ledger

/-- What a call means: what comes of it at once, or what the daemon is asked and what comes of the
replies that answer that. -/
inductive Meaning where
  | settled (upshot : Upshot)
  | asks (r : Request) (understand : Reply → Option Upshot)

namespace Meaning

/-- Something is asked to be done, and there is nothing to tell of it. -/
def does (r : Request) (upshot : Upshot) : Meaning :=
  .asks r fun | .empty => some upshot | _ => none

/-- Something is asked that has a number of objects for an answer. -/
def counts (r : Request) (l : Ledger) (label : String) : Meaning :=
  .asks r fun | .count n => some (l.giveCount label n) | _ => none

/-- A descriptor is asked for. -/
def describes (r : Request) (l : Ledger) : Meaning :=
  .asks r fun | .xml text => some (l.give (.text text)) | _ => none

end Meaning

/-- What a call means while the given handles are out. -/
def Call.meaning (l : Ledger) : Call → Meaning
  | .version => .asks .version fun | .version n => some (l.give (.version n)) | _ => none
  | .nodeInfo => .asks .nodeInfo fun | .nodeInfo i => some (l.give (.nodeInfo i)) | _ => none
  | .countDomains => .counts .countDomains l "domains"
  | .countDefinedDomains => .counts .countDefinedDomains l "defined domains"
  | .listDomains most => .asks .listDomains fun
    | .ids ids => some (l.give (.ids (ids.take most)))
    | _ => none
  | .listDefinedDomains most => .asks .listDefinedDomains fun
    | .names names => some (l.give (.names (names.take most)))
    | _ => none
  | .createDomain descriptor => .asks (.createDomain descriptor) fun
    | .created id uuid name => some (l.giveDomain ⟨name, uuid, id⟩)
    | _ => none
  | .defineDomain descriptor => .asks (.defineDomain descriptor) fun
    | .identity uuid name => some (l.giveDomain ⟨name, uuid, -1⟩)
    | _ => none
  | .domainById id => .asks (.domainById id) fun
    | .identity uuid name => some (l.giveDomain ⟨name, uuid, id⟩)
    | _ => none
  | .domainByUuid uuid => .asks (.domainByUuid uuid) fun
    | .idName id name => some (l.giveDomain ⟨name, uuid, id⟩)
    | _ => none
  | .domainByName name => .asks (.domainByName name) fun
    | .idUuid id uuid => some (l.giveDomain ⟨name, uuid, id⟩)
    | _ => none
  | .suspendDomain d => .does (.suspendDomain d.runtimeId) (l.give .done)
  | .resumeDomain d => .does (.resumeDomain d.runtimeId) (l.give .done)
  | .shutdownDomain d => .does (.destroyDomain d.runtimeId) (l.give .done)
  | .destroyDomain d => .does (.destroyDomain d.runtimeId) (l.give .done)
  | .domainStatus d => .asks (.domainInfo d.uuid) fun
    | .domainInfo i => some (l.giveStatus i)
    | _ => none
  | .domainXml d => .describes (.domainXml d.uuid) l
  | .saveDomain _ _ => .settled (.error (.unsupported "save"))
  | .restoreDomain _ => .settled (.error (.unsupported "restore"))
  | .startDomain d => .asks (.startDomain d.uuid) fun
    | .id id => some (l.give (.domain ⟨d.name, d.uuid, id⟩))
    | _ => none
  | .undefineDomain d => .does (.undefineDomain d.uuid) (l.dropDomain d)
  | .releaseDomain d => .settled (l.dropDomain d)
  | .countNetworks => .counts .countNetworks l "networks"
  | .countDefinedNetworks => .counts .countDefinedNetworks l "defined networks"
  | .listNetworks most => .asks .listNetworks fun
    | .names names => some (l.giveAll "networks" most names)
    | _ => none
  | .listDefinedNetworks most => .asks .listDefinedNetworks fun
    | .names names => some (l.giveAll "defined networks" most names)
    | _ => none
  | .createNetwork descriptor => .asks (.createNetwork descriptor) fun
    | .identity uuid name => some (l.giveNetwork ⟨name, uuid⟩)
    | _ => none
  | .defineNetwork descriptor => .asks (.defineNetwork descriptor) fun
    | .identity uuid name => some (l.giveNetwork ⟨name, uuid⟩)
    | _ => none
  | .networkByUuid uuid => .asks (.networkByUuid uuid) fun
    | .name name => some (l.giveNetwork ⟨name, uuid⟩)
    | _ => none
  | .networkByName name => .asks (.networkByName name) fun
    | .uuid uuid => some (l.giveNetwork ⟨name, uuid⟩)
    | _ => none
  | .startNetwork n => .does (.startNetwork n.uuid) (l.give .done)
  | .destroyNetwork n => .does (.destroyNetwork n.uuid) (l.give .done)
  | .networkXml n => .describes (.networkXml n.uuid) l
  | .networkBridge n => .asks (.networkBridge n.uuid) fun
    | .interface text => some (l.give (.text text))
    | _ => none
  | .undefineNetwork n => .does (.undefineNetwork n.uuid) (l.dropNetwork n)
  | .releaseNetwork n => .settled (l.dropNetwork n)
  | .close => .settled (l.give .done)

/-- What is wrong with a text that does not fit its field. -/
def Wire.FieldText.objection? (t : FieldText) : Option Wire.Error :=
  if t.capacity - 1 < Text.size t.value then
    some (.textTooLong t.label (Text.size t.value) (t.capacity - 1))
  else if 0 ∈ Text.utf8 t.value then some (.embeddedNul t.label)
  else none

/-- Why a request is not made, if one of its texts does not fit. -/
def Wire.Request.objection? (r : Request) : Option Wire.Error :=
  r.texts.findSome? FieldText.objection?

/-- What comes of a reply to a request. A failure is the daemon's own, and an empty message is
none. -/
def Wire.Request.answeredBy (r : Request) (understand : Reply → Option Upshot) : Reply → Upshot
  | .failure f => .error (.remote ⟨f.code, if f.message = some "" then none else f.message⟩)
  | reply => (understand reply).getD (.error (.unexpectedLayout r.operation.name))

/-- The request that the daemon receives for a call. -/
def Call.asked? (c : Call) : Option Request :=
  match c.meaning .blank with
  | .asks r _ => if r.objection? = none then some r else none
  | .settled _ => none

/-- A client that does what calls mean: what its daemon has become and has received, and the handles
that are out. -/
structure Meant (δ : Type) where
  state : δ
  received : List Request
  ledger : Ledger

namespace Meant

variable {δ : Type}

/-- A client that made no call yet. -/
def start (state : δ) : Meant δ := ⟨state, [], .blank⟩

/-- Takes up what comes of a call. -/
def take (m : Meant δ) : Upshot → Except CallError Call.Value × Meant δ
  | .ok (v, ledger) => (.ok v, { m with ledger })
  | .error e => (.error e, m)

/-- Does what a call means, with a daemon that goes on in the given way. -/
def call (step : δ → Request → Reply × δ) (m : Meant δ) (c : Call) :
    Except CallError Call.Value × Meant δ :=
  match c.meaning m.ledger with
  | .settled upshot => m.take upshot
  | .asks r understand =>
    match r.objection? with
    | some e => (.error (.rejected r.operation.name e), m)
    | none =>
      let (reply, state) := step m.state r
      { m with state, received := m.received ++ [r] }.take (r.answeredBy understand reply)

/-- Does what calls mean, one after another, failed or not. -/
def callAll (step : δ → Request → Reply × δ) (m : Meant δ) :
    List Call → List (Except CallError Call.Value) × Meant δ
  | [] => ([], m)
  | c :: cs =>
    let (outcome, m) := m.call step c
    let (outcomes, m) := callAll step m cs
    (outcome :: outcomes, m)

end Meant

/-! ### Requests that are not made -/

theorem Wire.FieldText.objection?_eq_some_iff {t : FieldText} {e : Wire.Error} :
    t.objection? = some e ↔ t.Refused e := by
  unfold objection?
  constructor
  · intro objects
    split at objects
    · next long =>
      cases objects
      exact .tooLong long
    · next short =>
      split at objects
      · next nul =>
        cases objects
        exact .embeddedNul (Nat.not_lt.1 short) nul
      · cases objects
  · intro refused
    cases refused with
    | tooLong long => rw [if_pos long]
    | embeddedNul short nul => rw [if_neg (Nat.not_lt.2 short), if_pos nul]

/-- A request is not made exactly if it does not fit the wire format, for the same reason. -/
theorem Wire.Request.objection?_eq_some_iff {r : Request} {e : Wire.Error} :
    r.objection? = some e ↔ r.encode = .error e := by
  have few : r.texts = [] ∨ ∃ t, r.texts = [t] := by
    cases r <;> first | exact .inl rfl | exact .inr ⟨_, rfl⟩
  rw [encode_eq_error_iff, objection?]
  rcases few with none | ⟨t, one⟩
  · simp [none]
  · simp [one, FieldText.objection?_eq_some_iff]

theorem Wire.Request.objection?_of_encode {r : Request} {sent : Frame}
    (encoded : r.encode = .ok sent) : r.objection? = none := by
  cases objects : r.objection? with
  | none => rfl
  | some e => cases encoded.symm.trans (objection?_eq_some_iff.1 objects)

/-! ### Plans -/

/-- What comes of a settlement, as a ledger tells it. -/
def Ledger.settle (l : Ledger) : Settlement → Upshot
  | .give v => l.give v
  | .complain e _ => .error e
  | .handOut h => do return (h.value, ← l.handOut h.kind h.uuid h.name)
  | .takeBack h => do return (.done, ← l.takeBack h.kind h.uuid)

theorem Ledger.settle_ofCount (l : Ledger) (label : String) (n : Int32) :
    l.settle (.ofCount label n) = l.giveCount label n := by
  unfold Settlement.ofCount Session.checkCount giveCount
  cases n.toInt with
  | ofNat count =>
    rw [if_pos (show 0 ≤ Int.ofNat count from Int.natCast_nonneg count)]
    rfl
  | negSucc m =>
    rw [if_neg (Int.not_le.2 (Int.negSucc_lt_zero m))]
    rfl

theorem Ledger.settle_ofNames (l : Ledger) (what : String) (capacity : Nat) (names : List String) :
    l.settle (.ofNames what capacity names) = l.giveAll what capacity names := by
  unfold Settlement.ofNames giveAll
  by_cases room : names.length ≤ capacity
  · rw [if_neg (Nat.not_lt.2 room), if_pos room]
    rfl
  · rw [if_pos (Nat.not_le.1 room), if_neg room]
    rfl

theorem Ledger.settle_ofInfo (l : Ledger) (object : Option String) (i : DomainInfo) :
    l.settle (.ofCheck object .status (DomainStatus.ofInfo i)) = l.giveStatus i := by
  unfold DomainStatus.ofInfo RunState.ofNumber? giveStatus
  by_cases running : i.runState = 1
  · rw [if_pos running, running]
    rfl
  by_cases paused : i.runState = 2
  · rw [if_neg running, if_pos paused, paused]
    rfl
  by_cases stopped : i.runState = 3
  · rw [if_neg running, if_neg paused, if_pos stopped, stopped]
    rfl
  · have unknown :
        [(1, DomainState.running), (2, .paused), (3, .shutOff)].lookup i.runState = none := by
      simp [running, paused, stopped]
    rw [if_neg running, if_neg paused, if_neg stopped, unknown]
    rfl

/-- A plan that does what a call means. -/
inductive Plan.Enacts (l : Ledger) : Plan → Meaning → Prop
  | settle (t : Settlement) : Enacts l (.settle t) (.settled (l.settle t))
  | close : Enacts l .close (.settled (l.give .done))
  | ask {e : Errand} {understand : Reply → Option Upshot}
      (same : ∀ reply, understand reply = (e.settle reply).map l.settle) :
      Enacts l (.ask e) (.asks e.request understand)

/-- A call is planned as it is meant. -/
theorem Call.follows_plan (l : Ledger) (c : Call) : c.plan.Enacts l (c.meaning l) := by
  cases c with
  | saveDomain | restoreDomain | releaseDomain | releaseNetwork => exact .settle _
  | close => exact .close
  | countDomains | countDefinedDomains | countNetworks | countDefinedNetworks =>
    refine .ask fun reply => ?_
    cases reply with
    | count n => exact congrArg some (l.settle_ofCount _ n).symm
    | _ => rfl
  | listNetworks capacity | listDefinedNetworks capacity =>
    refine .ask fun reply => ?_
    cases reply with
    | names names => exact congrArg some (l.settle_ofNames _ capacity names).symm
    | _ => rfl
  | domainStatus d =>
    refine .ask fun reply => ?_
    cases reply with
    | domainInfo i => exact congrArg some (l.settle_ofInfo _ i).symm
    | _ => rfl
  | _ => exact .ask fun reply => by cases reply <;> rfl

/-! ### Tables and ledgers -/

/-- Tables show what a ledger says. -/
def Books.Show (b : Books) (l : Ledger) : Prop :=
  ∀ k u, ((b.table k).find? u).map (fun e => (e.name, e.references)) = l k u

theorem Books.show_empty : empty.Show .blank := by
  intro k u
  cases k <;> rfl

/-- A line of the ledger changes with the table that its object is counted in. -/
theorem Books.Show.write {b : Books} {l : Ledger} (shows : b.Show l) {k : ObjectKind} {u : Uuid}
    {t : HandleTable} {entry : Option HandleTable.Entry}
    (found : ∀ v, t.find? v = if v = u then entry else (b.table k).find? v) :
    (b.replace k t).Show (l.write k u (entry.map fun e => (e.name, e.references))) := by
  intro k' u'
  unfold Ledger.write
  -- Another table is as it was, and in this one every line but that of the object is.
  by_cases kind : k' = k
  · subst kind
    rw [table_replace, found]
    by_cases here : u' = u
    · rw [if_pos here, if_pos ⟨rfl, here⟩]
    · rw [if_neg here, if_neg fun both => here both.2]
      exact shows k' u'
  · rw [table_replace_of_ne kind, if_neg fun both => kind both.1]
    exact shows k' u'

/-- What comes of something with tables and with a ledger is the same. -/
inductive Books.Agree : Except Complaint (Call.Value × Books) → Upshot → Prop
  | ok {v : Call.Value} {b : Books} {l : Ledger} (sound : b.Sound) (shows : b.Show l) :
    Agree (.ok (v, b)) (.ok (v, l))
  | error (c : Complaint) : Agree (.error c) (.error c.error)

/-- Tables of handles do what a ledger does. -/
theorem Ledger.agree_apply {b : Books} {l : Ledger} (sound : b.Sound) (shows : b.Show l)
    (t : Settlement) : Books.Agree (t.apply b) (l.settle t) := by
  cases t with
  | give v => exact .ok sound shows
  | complain e object => exact .error ⟨e, object⟩
  | handOut h =>
    have line := shows h.kind h.uuid
    simp only [Settlement.apply, settle]
    rcases (b.table h.kind).acquire_spec h.uuid h.name with
      ⟨e, found, other, refused⟩ | ⟨t, acquired, kind, kept, own, found⟩
    · -- The object is known by another name. The table says of what kind it takes objects to be.
      rw [found] at line
      rw [refused, (sound h.kind).2, handOut, ← line]
      simp only [Option.map_some, if_neg other]
      exact .error ⟨_, none⟩
    · -- The object is new, or it is known by the name of the handle.
      have out : l.handOut h.kind h.uuid h.name = .ok (l.write h.kind h.uuid
          (some (h.name, (b.table h.kind).references h.uuid + 1))) := by
        rw [handOut, ← line]
        cases entry : (b.table h.kind).find? h.uuid with
        | none => rw [HandleTable.references_of_find?_none entry]; rfl
        | some e =>
          rw [HandleTable.references_of_find? entry]
          simp only [Option.map_some, if_pos (own e entry)]
      rw [acquired, out]
      exact .ok (sound.replace (kept (sound h.kind).1) kind) (shows.write found)
  | takeBack h =>
    have line := shows h.kind h.uuid
    simp only [Settlement.apply, settle]
    rcases (b.table h.kind).release_spec h.uuid with
      ⟨absent, refused⟩ | ⟨e, n, t, live, released, kind, kept, found⟩
    · rw [absent] at line
      rw [refused, (sound h.kind).2, takeBack, ← line]
      exact .error ⟨_, some h.name⟩
    · have back : l.takeBack h.kind h.uuid = .ok (l.write h.kind h.uuid
          ((if e.references ≤ 1 then none else some e.less).map
            fun e => (e.name, e.references))) := by
        rw [takeBack, ← line, live]
        by_cases last : e.references ≤ 1 <;> simp [last, HandleTable.Entry.less]
      rw [released, back]
      exact .ok (sound.replace (kept (sound h.kind).1) kind) (shows.write found)

/-! ### Calls -/

variable {δ : Type} {step : δ → Request → Reply × δ}

/-- A client that hands requests over itself stands where a client stands that does what calls
mean. -/
structure Direct.Enacts (d : Direct δ) (step : δ → Request → Reply × δ) (m : Meant δ) : Prop where
  daemon : d.daemon = ⟨step, m.state, m.received⟩
  sound : d.books.Sound
  shows : d.books.Show m.ledger

/-- What is concluded and what is taken up are the same. -/
theorem Direct.Enacts.conclude {d : Direct δ} {m : Meant δ} (enacts : d.Enacts step m)
    {x : Except Complaint (Call.Value × Books)} {y : Upshot} (agree : Books.Agree x y) :
    (d.conclude x).1 = (m.take y).1 ∧ (d.conclude x).2.Enacts step (m.take y).2 := by
  cases agree with
  | ok sound shows => exact ⟨rfl, enacts.daemon, sound, shows⟩
  | error c => exact ⟨rfl, enacts⟩

/-- What is made of a reply is what the call means. -/
theorem Books.agree_conclude {b : Books} {l : Ledger} (sound : b.Sound) (shows : b.Show l)
    {e : Errand} {understand : Reply → Option Upshot}
    (same : ∀ reply, understand reply = (e.settle reply).map l.settle) (reply : Reply) :
    Agree (e.conclude b (heard reply)) (e.request.answeredBy understand reply) := by
  cases reply with
  | failure f =>
    have message : f.message.filter (· ≠ "") = if f.message = some "" then none else f.message := by
      obtain ⟨code, _ | s⟩ := f
      · rfl
      · by_cases blank : s = "" <;> simp [Option.filter, blank]
    rw [heard, message]
    exact .error ⟨_, e.object⟩
  | _ =>
    -- Any other reply is heard as it is, and it has the structure that is wanted or not.
    simp only [heard, Errand.conclude, Request.answeredBy, same]
    generalize e.settle _ = settled
    cases settled with
    | none => exact .error ⟨_, e.object⟩
    | some t => exact Ledger.agree_apply sound shows t

/-- A call handed over does what it means. -/
theorem Direct.Enacts.call {d : Direct δ} {m : Meant δ} (enacts : d.Enacts step m) (c : Call) :
    (d.call c).1 = (m.call step c).1 ∧ (d.call c).2.Enacts step (m.call step c).2 := by
  have planned := c.follows_plan m.ledger
  unfold Direct.call Meant.call
  generalize c.plan = plan at planned ⊢
  generalize c.meaning m.ledger = meaning at planned ⊢
  obtain ⟨daemon, sound, shows⟩ := id enacts
  cases planned with
  | settle t => exact enacts.conclude (Ledger.agree_apply sound shows t)
  | close => exact ⟨rfl, enacts⟩
  | @ask e understand same =>
    dsimp only
    cases encoded : e.request.encode with
    | error unfit =>
      rw [Request.objection?_eq_some_iff.2 encoded]
      exact ⟨rfl, enacts⟩
    | ok sent =>
      rw [Request.objection?_of_encode encoded]
      -- Both daemons are the same, so they receive the request alike and give one reply.
      have asked : Direct.Enacts { d with daemon := d.daemon.receive e.request } step
          { m with state := (step m.state e.request).2, received := m.received ++ [e.request] } :=
        ⟨by rw [daemon]; rfl, sound, shows⟩
      have told : d.daemon.reply e.request = (step m.state e.request).1 := by rw [daemon]; rfl
      rw [told]
      exact asked.conclude (Books.agree_conclude sound shows same _)

/-- What the daemon is asked does not depend on the handles that are out. -/
theorem Call.asked?_eq (c : Call) (l : Ledger) :
    c.asked? = match c.meaning l with
      | .asks r _ => if r.objection? = none then some r else none
      | .settled _ => none := by
  have planned := c.follows_plan .blank
  have planned' := c.follows_plan l
  unfold asked?
  generalize c.plan = plan at planned planned'
  generalize c.meaning .blank = meaning at planned ⊢
  generalize c.meaning l = meaning' at planned' ⊢
  cases planned <;> cases planned' <;> rfl

namespace Meant

variable (m : Meant δ)

@[simp] theorem received_take (upshot : Upshot) : (m.take upshot).2.received = m.received := by
  cases upshot <;> rfl

/-- The daemon receives the request of a call if there is nothing wrong with it. -/
theorem received_call (c : Call) :
    (m.call step c).2.received = m.received ++ c.asked?.toList := by
  rw [c.asked?_eq m.ledger, call]
  cases c.meaning m.ledger with
  | settled upshot => simp
  | asks r understand => cases objects : r.objection? <;> simp [objects]

theorem callAll_cons (c : Call) (cs : List Call) :
    m.callAll step (c :: cs) = ((m.call step c).1 :: ((m.call step c).2.callAll step cs).1,
      ((m.call step c).2.callAll step cs).2) :=
  rfl

theorem received_callAll (cs : List Call) :
    (m.callAll step cs).2.received = m.received ++ cs.filterMap Call.asked? := by
  induction cs generalizing m with
  | nil => simp [callAll]
  | cons c cs ih =>
    rw [callAll_cons, ih, received_call]
    cases asked : c.asked? <;> simp [asked]

end Meant

namespace Session

/-- Calls across the wire do what they mean, as long as none of them closes the session. -/
theorem Mirrors.performAll {s : Session (Served δ)} {d : Direct δ} {m : Meant δ}
    (mirrors : Mirrors s d) (enacts : d.Enacts step m) (honest : Honest step) {cs : List Call}
    (notClose : .close ∉ cs) :
    ∃ d', (s.performAll cs).1 = (m.callAll step cs).1 ∧ Mirrors (s.performAll cs).2 d' ∧
      d'.Enacts step (m.callAll step cs).2 := by
  induction cs generalizing s d m with
  | nil => exact ⟨d, rfl, mirrors, enacts⟩
  | cons c cs ih =>
    obtain ⟨first, others⟩ := not_or.1 (mt List.mem_cons.2 notClose)
    -- The daemon goes on as before, so it stays honest from call to call.
    have honestly : Honest d.daemon.step := by rw [enacts.daemon]; exact honest
    obtain ⟨outcome, mirrors'⟩ := mirrors.perform honestly (Ne.symm first)
    obtain ⟨meant, enacts'⟩ := enacts.call c
    obtain ⟨d', outcomes, mirrors'', enacts''⟩ := ih mirrors' enacts' others
    refine ⟨d', ?_, mirrors'', enacts''⟩
    rw [performAll_cons, Meant.callAll_cons, outcome, meant, outcomes]

/-- Calls on a fresh session over a stream without faults do what they mean. They give what is read
off the daemon's own replies. The daemon receives exactly the requests without a text that does not
fit, in order, and is left in the same state. The tables of handles show what the ledger says. The
session is still connected, with nothing left to read. -/
theorem performAll_eq_meant (honest : Honest step) {state : δ} {stream : Stream (Served δ)}
    (smooth : Exchange.Smooth stream) (fresh : stream.peer = Served.start step state)
    (address : Address) (access : Access) (sink : Sink) (journal : Journal) {cs : List Call}
    (notClose : .close ∉ cs) :
    let s := Session.start stream address access sink journal
    let meant := (Meant.start state).callAll step cs
    (s.performAll cs).1 = meant.1 ∧
      (s.performAll cs).2.stream.peer = ⟨step, meant.2.state, meant.2.received⟩ ∧
      meant.2.received = cs.filterMap Call.asked? ∧
      (∀ k u, (((s.performAll cs).2.books.table k).find? u).map (fun e => (e.name, e.references)) =
        meant.2.ledger k u) ∧
      (s.performAll cs).2.connected = true ∧ (s.performAll cs).2.stream.incoming = [] := by
  intro s meant
  have mirrors : Mirrors s (Direct.start step state) := ⟨rfl, smooth, fresh, rfl⟩
  have enacts : (Direct.start step state).Enacts step (.start state) :=
    ⟨rfl, Books.sound_empty, Books.show_empty⟩
  obtain ⟨d, outcomes, after, enacted⟩ := mirrors.performAll enacts honest notClose
  refine ⟨outcomes, after.daemon.trans enacted.daemon, Meant.received_callAll _ cs, ?_,
    after.connected, after.smooth.nothingWaits⟩
  rw [after.books]
  exact enacted.shows

/-- The identifier of the only domain that a daemon has. -/
def guestUuid : Uuid := ⟨[1, 2, 3, 4, 5, 6, 7, 8, 9, 10, 11, 12, 13, 14, 15, 16], rfl⟩

/-- A domain is defined, found by its name, listed, described and asked how it is. Then a descriptor
with a NUL is not sent, and the daemon fails at something that it does not know. -/
theorem performAll_with_guest :
    let known : List (Request × Reply) :=
      [(.defineDomain "<domain/>", .identity guestUuid "guest"),
       (.domainByName "guest", .idUuid 3 guestUuid),
       (.listDefinedDomains, .names ["old", "older", "oldest"]),
       (.domainXml guestUuid, .xml "<domain id='3'/>"),
       (.domainInfo guestUuid, .domainInfo ⟨77, 2, 1024, 2048, 4⟩)]
    let calls : List Call :=
      [.defineDomain "<domain/>", .domainByName "guest", .listDefinedDomains 2,
       .domainXml ⟨"guest", guestUuid, 3⟩, .domainStatus ⟨"guest", guestUuid, 3⟩,
       .defineNetwork "\x00", .countNetworks]
    let s := Session.start (Stream.toPeer (Served.start (answering known) 0)) ⟨"/run/supervisor"⟩
      .readWrite .keep .empty
    (s.performAll calls).1 =
      [.ok (.domain ⟨"guest", guestUuid, -1⟩), .ok (.domain ⟨"guest", guestUuid, 3⟩),
       .ok (.names ["old", "older"]), .ok (.text "<domain id='3'/>"),
       .ok (.status ⟨.paused, 2048, 1024, 4, 77⟩),
       .error (.rejected "network_define" (.embeddedNul "descriptor")),
       .error (.remote ⟨1, none⟩)] ∧
    (((s.performAll calls).2.books.table .domain).find? guestUuid).map
      (fun e => (e.name, e.references)) = some ("guest", 2) := by
  intro known calls s
  have honest : Honest (answering known) := by
    apply honest_answering
    simp only [known, List.forall_mem_cons]
    exact ⟨.of_fits rfl (by decide) (by decide), .of_fits rfl (by decide) (by decide),
      .of_fits trivial (by decide) (by decide), .of_fits rfl (by decide) (by decide),
      .of_fits rfl (by decide) (by decide), List.forall_mem_nil _⟩
  have notClose : .close ∉ calls := by decide
  obtain ⟨outcomes, -, -, ledger, -⟩ := performAll_eq_meant honest
    (Exchange.smooth_toPeer (Served.start (answering known) 0)) rfl ⟨"/run/supervisor"⟩ .readWrite
    .keep .empty notClose
  exact ⟨outcomes.trans (by decide +kernel), (ledger .domain guestUuid).trans (by decide +kernel)⟩

end Session

end Supervisor

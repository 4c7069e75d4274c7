import Supervisor.Session.Call

/-!
# What a call comes to

A call either asks the daemon one thing or settles something with the handle tables alone. When it
asks, the reply decides what remains to be settled: a value is given, a complaint is made, or a
handle is handed out or taken back. Everything a call does beyond its one request is therefore a
function of the reply and of the tables, and all calls can be spoken about at once.

## Main definitions

* `Settlement` - what is left to do without the daemon
* `Plan`, `Call.plan` - the request of a call, and the settlement that each reply leads to
* `Session.follow` - carries out a plan

## Main results

* `Session.perform_eq_follow` - every call is carried out as planned
-/

namespace Supervisor

open Wire

/-- A domain or a network. -/
inductive Handle where
  | domain (d : Domain)
  | network (n : Network)
  deriving DecidableEq

namespace Handle

/-- Which table counts the handle. -/
def kind : Handle → ObjectKind
  | domain _ => .domain
  | network _ => .network

def uuid : Handle → Uuid
  | domain d => d.uuid
  | network n => n.uuid

def name : Handle → String
  | domain d => d.name
  | network n => n.name

/-- What a call gives that hands it out. -/
def value : Handle → Call.Value
  | domain d => .domain d
  | network n => .network n

end Handle

/-- The handle tables of a session. -/
structure Books where
  domains : HandleTable
  networks : HandleTable
  deriving DecidableEq

namespace Books

/-- No handle is out. -/
def empty : Books := ⟨.empty .domain, .empty .network⟩

/-- The table for one kind of objects. -/
def table (b : Books) : ObjectKind → HandleTable
  | .domain => b.domains
  | .network => b.networks

/-- The tables with that for one kind of objects replaced. -/
def replace (b : Books) : ObjectKind → HandleTable → Books
  | .domain, t => { b with domains := t }
  | .network, t => { b with networks := t }

@[simp] theorem table_replace (b : Books) (k : ObjectKind) (t : HandleTable) :
    (b.replace k t).table k = t := by
  cases k <;> rfl

theorem table_replace_of_ne {k k' : ObjectKind} (ne : k' ≠ k) (b : Books) (t : HandleTable) :
    (b.replace k t).table k' = b.table k' := by
  cases k <;> cases k' <;> first | rfl | exact absurd rfl ne

end Books

/-- A failure with the name of what it was about. -/
structure Complaint where
  error : CallError
  object : Option String
  deriving DecidableEq

/-- What is left to do without the daemon. -/
inductive Settlement where
  | give (value : Call.Value)
  | complain (error : CallError) (object : Option String)
  | handOut (handle : Handle)
  | takeBack (handle : Handle)

namespace Settlement

/-- Gives the value of a check, or complains. -/
def ofCheck {α : Type} (object : Option String) (value : α → Call.Value) :
    Except CallError α → Settlement
  | .ok a => give (value a)
  | .error e => complain e object

/-- A number of objects, which must not be negative. -/
def ofCount (label : String) (n : Int32) : Settlement :=
  ofCheck none .count (Session.checkCount label n)

/-- A listing that has to fit the caller's capacity. -/
def ofNames (what : String) (capacity : Nat) (names : List String) : Settlement :=
  ofCheck none .names <|
    if capacity < names.length then .error (.capacityExceeded what names.length capacity)
    else .ok names

/-- What comes of it, and what the tables are then. -/
def apply (b : Books) : Settlement → Except Complaint (Call.Value × Books)
  | give v => .ok (v, b)
  | complain e object => .error ⟨e, object⟩
  | handOut h =>
    match (b.table h.kind).acquire h.uuid h.name with
    | .ok (_, t) => .ok (h.value, b.replace h.kind t)
    | .error e => .error ⟨.handles e, none⟩
  | takeBack h =>
    match (b.table h.kind).release h.uuid with
    | .ok (_, t) => .ok (.done, b.replace h.kind t)
    | .error e => .error ⟨.handles e, some h.name⟩

end Settlement

/-- One request, and what each reply to it leads to. A reply of the wrong structure leads to
nothing. -/
structure Errand where
  request : Request
  object : Option String
  settle : Reply → Option Settlement

/-- The errand that wants something of the reply and settles with it. -/
def Errand.wanting {α : Type} (request : Request) (object : Option String)
    (project : Reply → Option α) (settle : α → Settlement) : Errand :=
  ⟨request, object, fun reply => (project reply).map settle⟩

/-- What comes of an errand with the given outcome of its request. -/
def Errand.conclude (e : Errand) (b : Books) :
    Except CallError Reply → Except Complaint (Call.Value × Books)
  | .error failure => .error ⟨failure, e.object⟩
  | .ok reply =>
    match e.settle reply with
    | some t => t.apply b
    | none => .error ⟨.unexpectedLayout e.request.operation.name, e.object⟩

/-- What a call gives with the given outcome of its request. -/
def Errand.outcome (e : Errand) (b : Books) (answer : Except CallError Reply) :
    Except CallError Call.Value :=
  match e.conclude b answer with
  | .ok (v, _) => .ok v
  | .error c => .error c.error

/-- What a call does. -/
inductive Plan where
  | ask (errand : Errand)
  | settle (settlement : Settlement)
  | close

/-- A plan that asks, gives a value of what is wanted of the reply, and leaves the tables alone. -/
def Plan.giving {α : Type} (request : Request) (object : Option String)
    (project : Reply → Option α) (value : α → Call.Value) : Plan :=
  .ask (.wanting request object project fun a => .give (value a))

/-- A plan that asks for something to be done. -/
def Plan.doing (request : Request) (object : Option String) : Plan :=
  .giving request object Reply.empty? fun _ => .done

/-- A plan that asks and hands out a handle. -/
def Plan.handing {α : Type} (request : Request) (object : Option String)
    (project : Reply → Option α) (handle : α → Handle) : Plan :=
  .ask (.wanting request object project fun a => .handOut (handle a))

/-- A plan that asks how many objects there are. -/
def Plan.counting (request : Request) (label : String) : Plan :=
  .ask (.wanting request none Reply.count? (.ofCount label))

/-- A plan that asks for names, which have to fit the caller's capacity. -/
def Plan.naming (request : Request) (what : String) (capacity : Nat) : Plan :=
  .ask (.wanting request none Reply.names? (.ofNames what capacity))

/-- A plan that asks for something to be undone and takes the handle back. -/
def Plan.undoing (request : Request) (handle : Handle) : Plan :=
  .ask (.wanting request (some handle.name) Reply.empty? fun _ => .takeBack handle)

/-- What a call does. -/
def Call.plan : Call → Plan
  | .version => .giving .version none (fun | .version n => some n | _ => none) .version
  | .nodeInfo => .giving .nodeInfo none (fun | .nodeInfo i => some i | _ => none) .nodeInfo
  | .countDomains => .counting .countDomains "domains"
  | .countDefinedDomains => .counting .countDefinedDomains "defined domains"
  | .listDomains capacity =>
    .giving .listDomains none (fun | .ids entries => some entries | _ => none)
      fun ids => .ids (ids.take capacity)
  | .listDefinedDomains capacity =>
    .giving .listDefinedDomains none Reply.names? fun names => .names (names.take capacity)
  | .createDomain descriptor =>
    .handing (.createDomain descriptor) none
      (fun | .created n u s => some (n, u, s) | _ => none)
      fun (id, uuid, name) => .domain ⟨name, uuid, id⟩
  | .defineDomain descriptor =>
    .handing (.defineDomain descriptor) none Reply.identity?
      fun (uuid, name) => .domain ⟨name, uuid, notRunning⟩
  | .domainById id =>
    .handing (.domainById id) none Reply.identity? fun (uuid, name) => .domain ⟨name, uuid, id⟩
  | .domainByUuid uuid =>
    .handing (.domainByUuid uuid) none (fun | .idName n s => some (n, s) | _ => none)
      fun (id, name) => .domain ⟨name, uuid, id⟩
  | .domainByName name =>
    .handing (.domainByName name) (some name) (fun | .idUuid n u => some (n, u) | _ => none)
      fun (id, uuid) => .domain ⟨name, uuid, id⟩
  | .suspendDomain d => .doing (.suspendDomain d.runtimeId) (some d.name)
  | .resumeDomain d => .doing (.resumeDomain d.runtimeId) (some d.name)
  | .shutdownDomain d | .destroyDomain d => .doing (.destroyDomain d.runtimeId) (some d.name)
  | .domainStatus d =>
    .ask (.wanting (.domainInfo d.uuid) (some d.name)
      (fun | .domainInfo i => some i | _ => none)
      fun info => .ofCheck (some d.name) .status (DomainStatus.ofInfo info))
  | .domainXml d => .giving (.domainXml d.uuid) (some d.name) Reply.xml? .text
  | .saveDomain d _ => .settle (.complain (.unsupported "save") (some d.name))
  | .restoreDomain _ => .settle (.complain (.unsupported "restore") none)
  | .startDomain d =>
    .giving (.startDomain d.uuid) (some d.name) (fun | .id n => some n | _ => none)
      fun id => .domain { d with runtimeId := id }
  | .undefineDomain d => .undoing (.undefineDomain d.uuid) (.domain d)
  | .releaseDomain d => .settle (.takeBack (.domain d))
  | .countNetworks => .counting .countNetworks "networks"
  | .countDefinedNetworks => .counting .countDefinedNetworks "defined networks"
  | .listNetworks capacity => .naming .listNetworks "networks" capacity
  | .listDefinedNetworks capacity => .naming .listDefinedNetworks "defined networks" capacity
  | .createNetwork descriptor =>
    .handing (.createNetwork descriptor) none Reply.identity?
      fun (uuid, name) => .network ⟨name, uuid⟩
  | .defineNetwork descriptor =>
    .handing (.defineNetwork descriptor) none Reply.identity?
      fun (uuid, name) => .network ⟨name, uuid⟩
  | .networkByUuid uuid =>
    .handing (.networkByUuid uuid) none (fun | .name s => some s | _ => none)
      fun name => .network ⟨name, uuid⟩
  | .networkByName name =>
    .handing (.networkByName name) (some name) (fun | .uuid u => some u | _ => none)
      fun uuid => .network ⟨name, uuid⟩
  | .startNetwork n => .doing (.startNetwork n.uuid) (some n.name)
  | .destroyNetwork n => .doing (.destroyNetwork n.uuid) (some n.name)
  | .networkXml n => .giving (.networkXml n.uuid) (some n.name) Reply.xml? .text
  | .networkBridge n =>
    .giving (.networkBridge n.uuid) (some n.name) (fun | .interface s => some s | _ => none) .text
  | .undefineNetwork n => .undoing (.undefineNetwork n.uuid) (.network n)
  | .releaseNetwork n => .settle (.takeBack (.network n))
  | .close => .close

/-- The frame that a call puts on the wire, if it asks something that fits the format. -/
def Call.frame? (c : Call) : Option Frame :=
  match c.plan with
  | .ask e => e.request.encode.toOption
  | _ => none

/-- Only one call closes the session. -/
theorem Call.plan_eq_close_iff {c : Call} : c.plan = .close ↔ c = .close := by
  cases c <;> simp [plan, Plan.giving, Plan.doing, Plan.handing, Plan.counting, Plan.naming,
    Plan.undoing]

namespace Session

variable {σ α : Type}

/-- The handle tables of a session. -/
def books (s : Session σ) : Books := ⟨s.domains, s.networks⟩

/-- Takes up what came of a call: the new tables, or a report. -/
def conclude (s : Session σ) :
    Except Complaint (Call.Value × Books) → Except CallError Call.Value × Session σ
  | .ok (v, b) => (.ok v, { s with domains := b.domains, networks := b.networks })
  | .error c => (.error c.error, s.report c.error c.object)

/-- Carries out a plan. -/
def follow [Peer σ] (s : Session σ) : Plan → Except CallError Call.Value × Session σ
  | .ask e =>
    match request e.request some s with
    | (outcome, s) => s.conclude (e.conclude s.books outcome)
  | .settle t => s.conclude (t.apply s.books)
  | .close => (.ok .done, s.close)

/-! ### Actions as functions of the session -/

theorem map_apply {β : Type} (f : α → β) (action : Action σ α) (s : Session σ) :
    (f <$> action) s = match action s with
      | (.ok a, s) => (.ok (f a), s)
      | (.error e, s) => (.error e, s) := by
  change ExceptT.map f action s = _
  rcases outcome : action s with ⟨_ | _, _⟩ <;>
  · simp only [ExceptT.map, ExceptT.mk, bind, StateT.bind, outcome]
    rfl

theorem bind_apply {β : Type} (action : Action σ α) (next : α → Action σ β) (s : Session σ) :
    (action >>= next) s = match action s with
      | (.ok a, s) => next a s
      | (.error e, s) => (.error e, s) := by
  change ExceptT.bind action next s = _
  rcases outcome : action s with ⟨_ | _, _⟩
  · simp only [ExceptT.bind, ExceptT.bindCont, ExceptT.mk, bind, StateT.bind, outcome]
    rfl
  · simp only [ExceptT.bind, ExceptT.bindCont, ExceptT.mk, bind, StateT.bind, outcome]

theorem adopt_apply (name : String) (uuid : Uuid) (id : Int32) (s : Session σ) :
    (Call.Value.domain <$> adoptDomain name uuid id : Action σ Call.Value) s =
      s.conclude ((Settlement.handOut (.domain ⟨name, uuid, id⟩)).apply s.books) := by
  rw [map_apply]
  simp only [adoptDomain, reported, Settlement.apply, Handle.kind, Handle.uuid, Handle.name,
    Books.table, books]
  cases s.domains.acquire uuid name <;> rfl

theorem release_apply (d : Domain) (s : Session σ) :
    ((fun _ => Call.Value.done) <$> releaseDomain d : Action σ Call.Value) s =
      s.conclude ((Settlement.takeBack (.domain d)).apply s.books) := by
  rw [map_apply]
  simp only [releaseDomain, reported, Settlement.apply, Handle.kind, Handle.uuid, Handle.name,
    Books.table, books]
  cases s.domains.release d.uuid <;> rfl

theorem adoptNetwork_apply (name : String) (uuid : Uuid) (s : Session σ) :
    (Call.Value.network <$> adoptNetwork name uuid : Action σ Call.Value) s =
      s.conclude ((Settlement.handOut (.network ⟨name, uuid⟩)).apply s.books) := by
  rw [map_apply]
  simp only [adoptNetwork, reported, Settlement.apply, Handle.kind, Handle.uuid, Handle.name,
    Books.table, books]
  cases s.networks.acquire uuid name <;> rfl

theorem releaseNetwork_apply (n : Network) (s : Session σ) :
    ((fun _ => Call.Value.done) <$> releaseNetwork n : Action σ Call.Value) s =
      s.conclude ((Settlement.takeBack (.network n)).apply s.books) := by
  rw [map_apply]
  simp only [releaseNetwork, reported, Settlement.apply, Handle.kind, Handle.uuid, Handle.name,
    Books.table, books]
  cases s.networks.release n.uuid <;> rfl

variable [Peer σ]

/-- A request wants something of the reply that it gets in any case. -/
theorem request_eq (r : Request) (project : Reply → Option α) (s : Session σ) :
    request r project s = match request r some s with
      | (.ok reply, s) =>
        match project reply with
        | some a => (.ok a, s)
        | none => (.error (.unexpectedLayout r.operation.name), s)
      | (.error e, s) => (.error e, s) := by
  unfold request
  cases r.encode with
  | error e => rfl
  | ok frame =>
    cases s.connected with
    | false => rfl
    | true =>
      -- What is wanted of the reply is looked at only once the exchange is over, so its result is
      -- as good as any.
      simp only [if_true]
      generalize Exchange.run (σ := σ) _ frame = result
      obtain ⟨outcome, stream, events⟩ := result
      dsimp only
      generalize replyOf r.operation outcome = reply
      cases reply <;> rfl

/-- An errand is its request, followed by what is settled with what is wanted of the reply. -/
theorem follow_wanting (r : Request) (object : Option String) (project : Reply → Option α)
    (settle : α → Settlement) (s : Session σ) :
    s.follow (.ask (.wanting r object project settle)) = match request r project s with
      | (.ok a, s) => s.conclude ((settle a).apply s.books)
      | (.error e, s) => (.error e, s.report e object) := by
  rw [request_eq]
  simp only [follow, Errand.wanting]
  rcases (request r some : Action σ Reply) s with ⟨e | reply, s⟩
  · rfl
  · simp only [Errand.conclude]
    cases project reply <;> rfl

/-- An action that is reported as one, and then a settlement for each outcome. -/
theorem bind_dispatch {r : Request} {object : Option String} {project : Reply → Option α}
    {next : α → Action σ Call.Value} {settle : α → Settlement}
    (settled : ∀ a s, next a s = s.conclude ((settle a).apply s.books)) (s : Session σ) :
    (dispatch r object project >>= next : Action σ Call.Value) s =
      s.follow (.ask (.wanting r object project settle)) := by
  rw [follow_wanting, bind_apply]
  simp only [dispatch, reported]
  rcases (request r project : Action σ α) s with ⟨e | a, s⟩
  · rfl
  · exact settled a s

theorem map_dispatch (r : Request) (object : Option String) (project : Reply → Option α)
    (value : α → Call.Value) (s : Session σ) :
    (value <$> dispatch r object project : Action σ Call.Value) s =
      s.follow (.giving r object project value) := by
  have given : ∀ a (s : Session σ), (pure (value a) : Action σ Call.Value) s =
      s.conclude ((Settlement.give (value a)).apply s.books) := fun _ _ => rfl
  rw [map_eq_pure_bind]
  exact bind_dispatch given s

/-- A request and a check of what is wanted of its reply, reported as one action. -/
theorem map_reported {β : Type} {r : Request} {object : Option String}
    {project : Reply → Option α} {next : α → Action σ β} {check : α → Except CallError β}
    (checked : ∀ a s, next a s = (check a, s)) (value : β → Call.Value) (s : Session σ) :
    (value <$> reported object (request r project >>= next) : Action σ Call.Value) s =
      s.follow (.ask (.wanting r object project fun a => .ofCheck object value (check a))) := by
  rw [follow_wanting, map_apply]
  simp only [reported, bind_apply]
  rcases (request r project : Action σ α) s with ⟨e | a, s⟩
  · rfl
  · simp only [checked]
    cases check a <;> rfl

/-- The domain that comes back from a start is the caller's, with the number that was replied. -/
theorem map_started (d : Domain) (s : Session σ) :
    (Call.Value.domain <$> started d : Action σ Call.Value) s = s.follow (Call.startDomain d).plan := by
  have given : ∀ id (s : Session σ),
      (fun s => (.ok (.domain { d with runtimeId := id }), s) : Action σ Call.Value) s =
        s.conclude ((Settlement.give (.domain { d with runtimeId := id })).apply s.books) :=
    fun _ _ => rfl
  refine Eq.trans ?_ (bind_dispatch given s)
  rw [map_apply, bind_apply]
  simp only [started, startDomain]
  generalize (dispatch (.startDomain d.uuid) (some d.name) _ : Action σ Int32) s = outcome
  obtain ⟨_ | _, _⟩ := outcome <;> rfl

/-- Every call is carried out as planned. -/
theorem perform_eq_follow (c : Call) (s : Session σ) : perform c s = s.follow c.plan := by
  have mapped : ∀ {α β : Type} (value : β → Call.Value) (x : Action σ α) (next : α → Action σ β),
      (value <$> (x >>= next) : Action σ Call.Value) s = (x >>= fun a => value <$> next a) s :=
    fun value x next => congrFun (map_bind value x next) s
  -- The calls in groups: those that are done with the reply, those that hand out or take back a
  -- handle afterwards, those that check the reply, and those that ask nothing.
  cases c with
  | version | nodeInfo | suspendDomain | resumeDomain | shutdownDomain | destroyDomain | domainXml
  | startNetwork | destroyNetwork | networkXml | networkBridge => exact map_dispatch _ _ _ _ s
  | startDomain d => exact map_started d s
  | listDomains | listDefinedDomains =>
    refine (mapped _ _ _).trans (bind_dispatch (fun _ s => ?_) s)
    rfl
  | createDomain =>
    refine (mapped _ _ _).trans (bind_dispatch (fun a s => ?_) s)
    obtain ⟨id, uuid, name⟩ := a
    exact adopt_apply name uuid id s
  | defineDomain =>
    refine (mapped _ _ _).trans (bind_dispatch (fun a s => ?_) s)
    obtain ⟨uuid, name⟩ := a
    exact adopt_apply name uuid notRunning s
  | domainById id =>
    refine (mapped _ _ _).trans (bind_dispatch (fun a s => ?_) s)
    obtain ⟨uuid, name⟩ := a
    exact adopt_apply name uuid id s
  | domainByUuid uuid =>
    refine (mapped _ _ _).trans (bind_dispatch (fun a s => ?_) s)
    obtain ⟨id, name⟩ := a
    exact adopt_apply name uuid id s
  | domainByName name =>
    refine (mapped _ _ _).trans (bind_dispatch (fun a s => ?_) s)
    obtain ⟨id, uuid⟩ := a
    exact adopt_apply name uuid id s
  | createNetwork | defineNetwork =>
    refine (mapped _ _ _).trans (bind_dispatch (fun a s => ?_) s)
    obtain ⟨uuid, name⟩ := a
    exact adoptNetwork_apply name uuid s
  | networkByUuid uuid =>
    exact (mapped _ _ _).trans (bind_dispatch (fun name s => adoptNetwork_apply name uuid s) s)
  | networkByName name =>
    exact (mapped _ _ _).trans (bind_dispatch (fun uuid s => adoptNetwork_apply name uuid s) s)
  | undefineDomain d =>
    exact (mapped _ _ _).trans (bind_dispatch (fun _ s => release_apply d s) s)
  | undefineNetwork n =>
    exact (mapped _ _ _).trans (bind_dispatch (fun _ s => releaseNetwork_apply n s) s)
  | countDomains | countDefinedDomains | countNetworks | countDefinedNetworks | domainStatus =>
    exact map_reported (fun _ _ => rfl) _ s
  | listNetworks capacity | listDefinedNetworks capacity =>
    refine map_reported (fun names s => ?_) _ s
    split <;> rfl
  | releaseDomain d => exact release_apply d s
  | releaseNetwork n => exact releaseNetwork_apply n s
  | saveDomain | restoreDomain | close => rfl

end Session

end Supervisor

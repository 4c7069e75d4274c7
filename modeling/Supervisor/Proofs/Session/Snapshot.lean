import Supervisor.Proofs.HandleTable
import Supervisor.Proofs.Session.Remote
import Supervisor.Proofs.Wire.Encoding

/-!
# Daemons that answer from a snapshot

As long as nothing happens on the host, a daemon answers every question about its domains and
networks from the same picture of them. A client that counts, lists and looks up what is in the
picture is given all of it, whatever it has asked before: each reply fits the wire format, and no
handle is refused, because none was given out under another name.

## Main definitions

* `Roster`, `Snapshot` - what the daemon has, in its order
* `Snapshot.reply?`, `Snapshot.ShownBy` - what is answered from it
* `Session.Sees` - a session with such a daemon, and handles that agree with the snapshot
* `Session.Yields` - what an action gives on every such session, which is left as one

## Main results

* `Session.yields_bind`, `Session.yields_mapM` - actions one after another
* `Session.yields_request` - what is answered from the snapshot arrives
* `Session.yields_handOut` - no handle is refused
-/

namespace Supervisor

open Wire

/-- What the daemon has of one kind of objects, in its order: those that are up, and those that are
only defined. -/
structure Roster {α : Type} (handle : α → Handle) where
  up : List α
  down : List α
  few : up.length ≤ 100 ∧ down.length ≤ 100
  names_fit : ∀ a ∈ up ++ down, (FieldText.mk "name" 50 (handle a).name).Fits
  names_nodup : ((up ++ down).map fun a => (handle a).name).Nodup
  uuids_nodup : ((up ++ down).map fun a => (handle a).uuid).Nodup

/-- The domains and networks that the daemon has. A running domain has a number of its own, and one
that is only defined has none. -/
structure Snapshot where
  domains : Roster Handle.domain
  networks : Roster Handle.network
  running : ∀ d ∈ domains.up, d.runtimeId ≠ notRunning
  idle : ∀ d ∈ domains.down, d.runtimeId = notRunning
  ids_nodup : (domains.up.map Domain.runtimeId).Nodup

namespace Roster

variable {α : Type} {handle : α → Handle} (r : Roster handle)

/-- All objects, up or not. -/
def all : List α := r.up ++ r.down

/-- The object with the given name. -/
def named? (name : String) : Option α := r.all.find? fun a => (handle a).name = name

variable {r}

theorem mem_all_of_up {a : α} (member : a ∈ r.up) : a ∈ r.all := List.mem_append_left _ member

theorem mem_all_of_down {a : α} (member : a ∈ r.down) : a ∈ r.all := List.mem_append_right _ member

theorem named?_of_mem {a : α} (member : a ∈ r.all) : r.named? (handle a).name = some a :=
  find?_of_nodup r.names_nodup member

theorem fits_of_named? {a : α} {name : String} (found : r.named? name = some a) :
    (FieldText.mk "name" 50 name).Fits := by
  have same : (handle a).name = name := by simpa using List.find?_some found
  exact same ▸ r.names_fit a (List.mem_of_find?_eq_some found)

/-- The names of some of the objects fit the fields of a listing. -/
theorem fits_of_names (r : Roster handle) {as : List α} (among : ∀ a ∈ as, a ∈ r.all) :
    ∀ t ∈ (Reply.names (as.map fun a => (handle a).name)).texts, t.Fits := by
  intro t member
  obtain ⟨name, listed, rfl⟩ := List.mem_map.1 member
  obtain ⟨a, present, rfl⟩ := List.mem_map.1 listed
  exact r.names_fit a (among a present)

end Roster

namespace Snapshot

/-- What the snapshot says about a request: how many objects there are, which ones, and which of
them has a number or a name. About other requests it says nothing. -/
def reply? (snap : Snapshot) : Request → Option Reply
  | .countDomains => some (.count (Int32.ofNat snap.domains.up.length))
  | .countDefinedDomains => some (.count (Int32.ofNat snap.domains.down.length))
  | .countNetworks => some (.count (Int32.ofNat snap.networks.up.length))
  | .countDefinedNetworks => some (.count (Int32.ofNat snap.networks.down.length))
  | .listDomains => some (.ids (snap.domains.up.map Domain.runtimeId))
  | .listDefinedDomains => some (.names (snap.domains.down.map Domain.name))
  | .listNetworks => some (.names (snap.networks.up.map Network.name))
  | .listDefinedNetworks => some (.names (snap.networks.down.map Network.name))
  | .domainById id =>
    (snap.domains.up.find? fun d => d.runtimeId = id).map fun d => .identity d.uuid d.name
  | .domainByName name => (snap.domains.named? name).map fun d => .idUuid d.runtimeId d.uuid
  | .networkByName name => (snap.networks.named? name).map fun n => .uuid n.uuid
  | _ => none

/-- A daemon that answers from the snapshot, in whatever state it is. -/
def ShownBy {δ : Type} (snap : Snapshot) (step : δ → Request → Reply × δ) : Prop :=
  ∀ state r reply, snap.reply? r = some reply → (step state r).1 = reply

/-- All domains and networks. -/
def handles (snap : Snapshot) : List Handle :=
  snap.domains.all.map .domain ++ snap.networks.all.map .network

variable {snap : Snapshot}

theorem mem_handles {h : Handle} : h ∈ snap.handles ↔
    (∃ d ∈ snap.domains.all, h = .domain d) ∨ ∃ n ∈ snap.networks.all, h = .network n := by
  simp only [handles, List.mem_append, List.mem_map, eq_comm]

/-- An identifier stands for one object of each kind. -/
theorem eq_of_uuid {h h' : Handle} (member : h ∈ snap.handles) (member' : h' ∈ snap.handles)
    (kind : h.kind = h'.kind) (uuid : h.uuid = h'.uuid) : h = h' := by
  rcases mem_handles.1 member with ⟨d, mem, rfl⟩ | ⟨n, mem, rfl⟩ <;>
    rcases mem_handles.1 member' with ⟨d', mem', rfl⟩ | ⟨n', mem', rfl⟩
  -- A domain and a network may share an identifier, but they are of different kinds.
  · rw [List.inj_on_of_nodup_map snap.domains.uuids_nodup mem mem' uuid]
  · cases kind
  · cases kind
  · rw [List.inj_on_of_nodup_map snap.networks.uuids_nodup mem mem' uuid]

/-- What the snapshot says is a reply of the structure that is asked for, and all names fit their
fields. -/
theorem fits_of_reply? {r : Request} {reply : Reply} (known : snap.reply? r = some reply) :
    (∀ t ∈ r.texts, t.Fits) ∧ reply.IsOf r.operation ∧ reply.listed ≤ 100 ∧
      (∀ t ∈ reply.texts, t.Fits) ∧ ∀ failure, reply ≠ .failure failure := by
  -- Counts and listings first, and then what is looked up: only these requests are answered.
  cases r with
  | countDomains | countDefinedDomains | countNetworks | countDefinedNetworks =>
    cases known
    exact ⟨nofun, rfl, Nat.zero_le _, nofun, nofun⟩
  | listDomains =>
    cases known
    exact ⟨nofun, rfl, by simpa [Reply.listed] using snap.domains.few.1, nofun, nofun⟩
  | listDefinedDomains =>
    cases known
    exact ⟨nofun, trivial, by simpa [Reply.listed] using snap.domains.few.2,
      snap.domains.fits_of_names fun _ => Roster.mem_all_of_down, nofun⟩
  | listNetworks =>
    cases known
    exact ⟨nofun, trivial, by simpa [Reply.listed] using snap.networks.few.1,
      snap.networks.fits_of_names fun _ => Roster.mem_all_of_up, nofun⟩
  | listDefinedNetworks =>
    cases known
    exact ⟨nofun, trivial, by simpa [Reply.listed] using snap.networks.few.2,
      snap.networks.fits_of_names fun _ => Roster.mem_all_of_down, nofun⟩
  | domainById id =>
    obtain ⟨d, found, rfl⟩ := Option.map_eq_some_iff.1 known
    have fits := snap.domains.names_fit d (Roster.mem_all_of_up (List.mem_of_find?_eq_some found))
    exact ⟨nofun, rfl, Nat.zero_le _, List.forall_mem_singleton.2 fits, nofun⟩
  | domainByName name =>
    obtain ⟨d, found, rfl⟩ := Option.map_eq_some_iff.1 known
    have fits := Roster.fits_of_named? found
    exact ⟨List.forall_mem_singleton.2 fits, rfl, Nat.zero_le _, nofun, nofun⟩
  | networkByName name =>
    obtain ⟨n, found, rfl⟩ := Option.map_eq_some_iff.1 known
    have fits := Roster.fits_of_named? found
    exact ⟨List.forall_mem_singleton.2 fits, rfl, Nat.zero_le _, nofun, nofun⟩
  | _ => cases known

/-- What the snapshot says arrives, and so does what it is asked. -/
theorem answers_of_reply? {r : Request} {reply : Reply} (known : snap.reply? r = some reply) :
    (∃ sent, r.encode = .ok sent) ∧ Answers r reply ∧ heard reply = .ok reply := by
  obtain ⟨asked, structured, few, fit, success⟩ := fits_of_reply? known
  have own : heard reply = .ok reply := by
    cases reply with
    | failure failure => exact absurd rfl (success failure)
    | _ => rfl
  exact ⟨r.exists_encode_iff.2 asked, .of_fits structured few fit, own⟩

end Snapshot

/-! ### Handles that are out -/

/-- No handle for the object is out under another name. -/
def Books.Allows (b : Books) (h : Handle) : Prop :=
  ∀ e, (b.table h.kind).find? h.uuid = some e → e.name = h.name

theorem Books.allows_empty (h : Handle) : empty.Allows h := by
  cases h <;> exact nofun

/-- A handle is handed out, and then all others can still be that are for other objects or have the
same name. -/
theorem Settlement.handOut_of_allows {b : Books} {h : Handle} (allows : b.Allows h) :
    ∃ b', (handOut h).apply b = .ok (h.value, b') ∧
      ∀ h' : Handle, (h'.kind = h.kind → h'.uuid = h.uuid → h'.name = h.name) → b.Allows h' →
        b'.Allows h' := by
  rcases (b.table h.kind).acquire_spec h.uuid h.name with
    ⟨e, found, other, -⟩ | ⟨t, acquired, -, -, -, after⟩
  · exact absurd (allows e found) other
  · refine ⟨b.replace h.kind t, by simp only [apply, acquired], fun h' same allows' e found => ?_⟩
    -- Only the entry of this object is another one than before, and it has the name of `h`.
    by_cases kind : h'.kind = h.kind
    · rw [kind, Books.table_replace, after] at found
      split at found
      · next uuid =>
        cases found
        exact (same kind uuid).symm
      · exact allows' e (kind ▸ found)
    · rw [Books.table_replace_of_ne kind] at found
      exact allows' e found

namespace Session

variable {δ α β : Type} {snap : Snapshot}

/-- A session with a daemon that answers from the snapshot, and no handle that is out under a name
other than the one there. -/
structure Sees (s : Session (Served δ)) (snap : Snapshot) : Prop where
  connected : s.connected = true
  smooth : Exchange.Smooth s.stream
  shown : snap.ShownBy s.stream.peer.step
  agrees : ∀ h ∈ snap.handles, s.books.Allows h

/-- On every session that sees the snapshot the action gives `a`, and leaves one that sees it. -/
def Yields (snap : Snapshot) (act : Action (Served δ) α) (a : α) : Prop :=
  ∀ s : Session (Served δ), s.Sees snap → ∃ s', act s = (.ok a, s') ∧ s'.Sees snap

variable {act : Action (Served δ) α} {a : α} {b : β}

/-! ### Actions one after another -/

theorem yields_pure (a : α) : Yields snap (pure a : Action (Served δ) α) a :=
  fun s sees => ⟨s, rfl, sees⟩

theorem yields_bind {next : α → Action (Served δ) β} (first : Yields snap act a)
    (others : Yields snap (next a) b) : Yields snap (act >>= next) b := by
  intro s sees
  obtain ⟨s', gave, sees'⟩ := first s sees
  obtain ⟨s'', gave', sees''⟩ := others s' sees'
  exact ⟨s'', by rw [bind_apply, gave]; exact gave', sees''⟩

theorem yields_map (f : α → β) (yields : Yields snap act a) : Yields snap (f <$> act) (f a) := by
  rw [map_eq_pure_bind]
  exact yields_bind yields (yields_pure (f a))

/-- What an action gives can be told by what is made of it, as long as nothing is lost. -/
theorem yields_of_map {f : α → β} (injective : Function.Injective f)
    (yields : Yields snap (f <$> act) (f a)) : Yields snap act a := by
  intro s sees
  obtain ⟨s', gave, sees'⟩ := yields s sees
  rw [map_apply] at gave
  rcases ran : act s with ⟨e | a', s''⟩
  · rw [ran] at gave
    cases gave
  · rw [ran] at gave
    obtain ⟨same, rfl⟩ := Prod.mk.inj gave
    rw [injective (Except.ok.inj same)]
    exact ⟨_, rfl, sees'⟩

theorem yields_reported (object : Option String) (yields : Yields snap act a) :
    Yields snap (reported object act) a := by
  intro s sees
  obtain ⟨s', gave, sees'⟩ := yields s sees
  exact ⟨s', by rw [reported, gave], sees'⟩

/-- What is done for each of some objects gives something for each of them, in their order. -/
theorem yields_mapM {γ : Type} {act : α → Action (Served δ) β} {key : γ → α} {value : γ → β}
    {cs : List γ} (each : ∀ c ∈ cs, Yields snap (act (key c)) (value c)) :
    Yields snap ((cs.map key).mapM act) (cs.map value) := by
  -- Along the objects: what is done for one of them leaves a session that sees the same snapshot.
  induction cs with
  | nil => exact yields_pure []
  | cons c cs ih =>
    rw [List.forall_mem_cons] at each
    rw [List.map_cons, List.map_cons, List.mapM_cons]
    exact yields_bind each.1 (yields_bind (ih each.2) (yields_pure _))

/-! ### Asking -/

/-- What is answered from the snapshot arrives. -/
theorem yields_request {r : Request} {reply : Reply} {project : Reply → Option α}
    (known : snap.reply? r = some reply) (wanted : project reply = some a) :
    Yields snap (request r project : Action (Served δ) α) a := by
  intro s sees
  obtain ⟨⟨sent, encoded⟩, answers, heard⟩ := Snapshot.answers_of_reply? known
  have told : s.stream.peer.reply r = reply := sees.shown _ r reply known
  -- The session stands where a client stands that hands its requests over itself.
  have mirrors : Mirrors s ⟨s.stream.peer, s.books⟩ := ⟨sees.connected, sees.smooth, rfl, rfl⟩
  obtain ⟨s', asked, after⟩ := mirrors.request encoded (told.symm ▸ answers)
  rw [told, heard] at asked
  refine ⟨s', ?_, after.connected, after.smooth, ?_, ?_⟩
  · rw [request_eq, asked]
    simp only [wanted]
  · rw [after.daemon]
    exact sees.shown
  · rw [after.books]
    exact sees.agrees

theorem yields_dispatch {r : Request} {reply : Reply} {object : Option String}
    {project : Reply → Option α} (known : snap.reply? r = some reply)
    (wanted : project reply = some a) :
    Yields snap (dispatch r object project : Action (Served δ) α) a :=
  yields_reported object (yields_request known wanted)

/-! ### Handles -/

/-- A handle for what is in the snapshot is not refused. -/
theorem yields_handOut {h : Handle} (member : h ∈ snap.handles) :
    Yields snap (fun s : Session (Served δ) => s.conclude ((Settlement.handOut h).apply s.books))
      h.value := by
  intro s sees
  obtain ⟨b, applied, others⟩ := Settlement.handOut_of_allows (sees.agrees h member)
  refine ⟨_, congrArg s.conclude applied, sees.connected, sees.smooth, sees.shown,
    fun h' member' => ?_⟩
  refine others h' (fun kind uuid => ?_) (sees.agrees h' member')
  rw [Snapshot.eq_of_uuid member' member kind uuid]

theorem yields_adoptDomain {d : Domain} (member : d ∈ snap.domains.all) :
    Yields snap (adoptDomain d.name d.uuid d.runtimeId : Action (Served δ) Domain) d := by
  refine yields_of_map (fun _ _ => Call.Value.domain.inj) fun s sees => ?_
  rw [adopt_apply]
  exact yields_handOut (Snapshot.mem_handles.2 (.inl ⟨d, member, rfl⟩)) s sees

theorem yields_adoptNetwork {n : Network} (member : n ∈ snap.networks.all) :
    Yields snap (adoptNetwork n.name n.uuid : Action (Served δ) Network) n := by
  refine yields_of_map (fun _ _ => Call.Value.network.inj) fun s sees => ?_
  rw [adoptNetwork_apply]
  exact yields_handOut (Snapshot.mem_handles.2 (.inr ⟨n, member, rfl⟩)) s sees

/-! ### Counting, listing and looking up -/

theorem checkCount_of_few {label : String} {n : Nat} (few : n ≤ 100) :
    checkCount label (Int32.ofNat n) = .ok n := by
  have number : (Int32.ofNat n).toInt = n := Int32.toInt_ofNat_of_lt (by omega)
  rw [checkCount, number, if_pos (Int.natCast_nonneg n)]
  rfl

/-- How many objects there are is counted right. -/
theorem yields_count {r : Request} {label : String} {n : Nat} (few : n ≤ 100)
    (known : snap.reply? r = some (.count (Int32.ofNat n))) :
    Yields snap (countObjects r label : Action (Served δ) Nat) n := by
  refine yields_reported none (yields_bind (yields_request known rfl) fun s sees => ?_)
  exact ⟨s, by rw [countObjects.liftExcept, checkCount_of_few few], sees⟩

/-- All entries are taken by a client that has room for as many. -/
theorem yields_take {key : β → α} (l : List β) :
    Yields snap (pure ((l.map key).take l.length) : Action (Served δ) (List α)) (l.map key) := by
  rw [List.take_of_length_le (Nat.le_of_eq (List.length_map key))]
  exact yields_pure _

theorem yields_listDomains :
    Yields snap (listDomains snap.domains.up.length : Action (Served δ) (List Int32))
      (snap.domains.up.map Domain.runtimeId) :=
  yields_bind (yields_dispatch rfl rfl) (yields_take _)

theorem yields_listDefinedDomains :
    Yields snap (listDefinedDomains snap.domains.down.length : Action (Served δ) (List String))
      (snap.domains.down.map Domain.name) :=
  yields_bind (yields_dispatch rfl rfl) (yields_take _)

/-- Names that are as many as the client has room for fit. -/
theorem yields_boundedNames {r : Request} {what : String} {l : List Network}
    (known : snap.reply? r = some (.names (l.map Network.name))) :
    Yields snap (boundedNames r what l.length : Action (Served δ) (List String))
      (l.map Network.name) := by
  refine yields_reported none (yields_bind (yields_request known rfl) ?_)
  rw [if_neg (by simp)]
  exact yields_pure _

/-- A running domain is found by its number, and the handle for it is given out. -/
theorem yields_domainById {d : Domain} (member : d ∈ snap.domains.up) :
    Yields snap (domainById d.runtimeId : Action (Served δ) Domain) d := by
  have known : snap.reply? (.domainById d.runtimeId) = some (.identity d.uuid d.name) := by
    rw [Snapshot.reply?, find?_of_nodup snap.ids_nodup member]
    rfl
  exact yields_bind (yields_dispatch known rfl)
    (yields_adoptDomain (Roster.mem_all_of_up member))

/-- A domain is found by its name, running or not. -/
theorem yields_domainByName {d : Domain} (member : d ∈ snap.domains.all) :
    Yields snap (domainByName d.name : Action (Served δ) Domain) d := by
  have known : snap.reply? (.domainByName d.name) = some (.idUuid d.runtimeId d.uuid) := by
    have found : snap.domains.named? d.name = some d := Roster.named?_of_mem member
    rw [Snapshot.reply?, found]
    rfl
  exact yields_bind (yields_dispatch known rfl) (yields_adoptDomain member)

theorem yields_networkByName {n : Network} (member : n ∈ snap.networks.all) :
    Yields snap (networkByName n.name : Action (Served δ) Network) n := by
  have known : snap.reply? (.networkByName n.name) = some (.uuid n.uuid) := by
    have found : snap.networks.named? n.name = some n := Roster.named?_of_mem member
    rw [Snapshot.reply?, found]
    rfl
  exact yields_bind (yields_dispatch known rfl) (yields_adoptNetwork member)

end Session

end Supervisor

import Supervisor.Proofs.Autostart
import Supervisor.Proofs.Backend.Opening
import Supervisor.Proofs.CommandLine.Columns
import Supervisor.Proofs.CommandLine.Run
import Supervisor.Proofs.Session.Snapshot
import Supervisor.Proofs.Wire.Texts

/-!
# Listings are complete

A command that lists domains or networks asks how many there are, asks for as many, and looks each
of them up. Nothing gets lost or comes twice on the way: with a daemon that answers from a snapshot,
the rows are those of the snapshot, in its order.

## Main definitions

* `Snapshot.domainRows`, `Snapshot.networkRows` - the rows of a complete listing
* `Snapshot.listing?` - what a command that lists something is to give
* `Machine.Opens` - a fresh session over a stream that was dialled
* `Machine.LeadsTo` - whoever listens on a machine answers from the snapshot

## Main results

* `Session.yields_domainRows`, `Session.yields_networkRows` - the loops over domains and networks
* `Invocation.opens_of_session`, `Machine.LeadsTo.sees` - the session of a run sees the snapshot
* `Run.lists_snapshot` - what a run lists
* `Snapshot.split_domainRows`, `Snapshot.split_networkRows` - what people see of that
-/

namespace Supervisor

open Wire

/-- What holds of the rows of all objects holds of those that are listed. -/
theorem Roster.forall_mem_listed {α ρ : Type} {handle : α → Handle} {r : Roster handle}
    {row row' : α → ρ} {P : ρ → Prop} (all : Bool) (up : ∀ a ∈ r.all, P (row a))
    (down : ∀ a ∈ r.all, P (row' a)) :
    ∀ x ∈ r.up.map row ++ if all then r.down.map row' else [], P x := by
  refine List.forall_mem_append.2 ⟨?_, ?_⟩
  · exact List.forall_mem_map.2 fun a member => up a (mem_all_of_up member)
  · cases all with
    | false => exact List.forall_mem_nil _
    | true => exact List.forall_mem_map.2 fun a member => down a (mem_all_of_down member)

namespace Snapshot

variable (snap : Snapshot)

/-- The rows of the running domains with their numbers, and behind them those of the defined ones,
which have none, if all are wanted. -/
def domainRows (all : Bool) : List DomainRow :=
  (snap.domains.up.map fun d => ⟨d.name, d.uuid.toText, some d.runtimeId⟩) ++
    if all then snap.domains.down.map fun d => ⟨d.name, d.uuid.toText, none⟩ else []

/-- The rows of the active networks, and behind them those of the defined ones if all are wanted. -/
def networkRows (all : Bool) : List NetworkRow :=
  (snap.networks.up.map fun n => ⟨n.name, n.uuid.toText⟩) ++
    if all then snap.networks.down.map fun n => ⟨n.name, n.uuid.toText⟩ else []

/-- What a command that lists something is to give. -/
def listing? : Command → Option Outcome
  | .listDomains all => some (.domains (snap.domainRows all))
  | .listNetworks all => some (.networks (snap.networkRows all))
  | _ => none

/-- People see a header and one line for each domain of the listing, unless a name holds a line
break. -/
theorem split_domainRows (all : Bool) (names : ∀ d ∈ snap.domains.all, Text.OneLine d.name) :
    ∃ below, List.Forall₂ DomainRow.ShownBy (snap.domainRows all) below ∧
      Text.splitAtChar '\n' (Outcome.domains (snap.domainRows all)).human.toList =
        ("   ID  NAME                  UUID" :: below).map String.toList ++ [[]] :=
  Outcome.split_domains <| Roster.forall_mem_listed all
    (fun d member => ⟨names d member, d.uuid.oneLine_toText⟩)
    (fun d member => ⟨names d member, d.uuid.oneLine_toText⟩)

/-- People see a header and one line for each network of the listing, unless a name holds a line
break. -/
theorem split_networkRows (all : Bool) (names : ∀ n ∈ snap.networks.all, Text.OneLine n.name) :
    ∃ below, List.Forall₂ NetworkRow.ShownBy (snap.networkRows all) below ∧
      Text.splitAtChar '\n' (Outcome.networks (snap.networkRows all)).human.toList =
        ("NAME                  UUID" :: below).map String.toList ++ [[]] :=
  Outcome.split_networks <| Roster.forall_mem_listed all
    (fun n member => ⟨names n member, n.uuid.oneLine_toText⟩)
    (fun n member => ⟨names n member, n.uuid.oneLine_toText⟩)

/-- A daemon that answers from the snapshot and fails everything else without a word. -/
def answering (_ : Unit) (r : Request) : Reply × Unit :=
  ((snap.reply? r).getD (.failure ⟨1, some ""⟩), ())

theorem shownBy_answering : snap.ShownBy snap.answering := by
  intro _ r reply known
  rw [answering, known]
  rfl

/-- A few domains and networks. -/
def small : Snapshot where
  domains :=
    { up := [⟨"web", ⟨List.replicate 16 1, rfl⟩, 7⟩, ⟨"db", ⟨List.replicate 16 2, rfl⟩, 0⟩]
      down := [⟨"old", ⟨List.replicate 16 3, rfl⟩, notRunning⟩]
      few := by decide
      names_fit := by decide +kernel
      names_nodup := by decide
      uuids_nodup := by decide }
  networks :=
    { up := [⟨"default", ⟨List.replicate 16 4, rfl⟩⟩]
      down := [⟨"lab", ⟨List.replicate 16 5, rfl⟩⟩]
      few := by decide
      names_fit := by decide +kernel
      names_nodup := by decide
      uuids_nodup := by decide }
  running := by decide
  idle := by decide
  ids_nodup := by decide

end Snapshot

namespace Session

variable {δ : Type} {snap : Snapshot}

/-! ### Loops -/

/-- Each domain that is listed is looked up in its turn. -/
theorem yields_domainRows (all : Bool) :
    Yields snap (domainRows all : Action (Served δ) (List DomainRow)) (snap.domainRows all) := by
  have running : Yields snap
      ((snap.domains.up.map Domain.runtimeId).mapM fun id =>
        (Domain.row <$> domainById id : Action (Served δ) DomainRow))
      (snap.domains.up.map fun d => ⟨d.name, d.uuid.toText, some d.runtimeId⟩) := by
    refine yields_mapM fun d member => ?_
    have row : d.row = ⟨d.name, d.uuid.toText, some d.runtimeId⟩ := by
      rw [Domain.row, Domain.id?, if_neg (snap.running d member)]
    exact row ▸ yields_map Domain.row (yields_domainById member)
  have idle : Yields snap
      ((snap.domains.down.map Domain.name).mapM fun name =>
        (Domain.row <$> domainByName name : Action (Served δ) DomainRow))
      (snap.domains.down.map fun d => ⟨d.name, d.uuid.toText, none⟩) := by
    refine yields_mapM fun d member => ?_
    have row : d.row = ⟨d.name, d.uuid.toText, none⟩ := by
      rw [Domain.row, Domain.id?, if_pos (snap.idle d member)]
    exact row ▸ yields_map Domain.row (yields_domainByName (Roster.mem_all_of_down member))
  refine yields_bind (yields_count snap.domains.few.1 rfl)
    (yields_bind yields_listDomains (yields_bind running ?_))
  -- The first loop is over; the second one comes only if all domains are wanted.
  cases all with
  | false =>
    have others : snap.domainRows false = snap.domains.up.map _ := List.append_nil _
    rw [others]
    exact yields_pure _
  | true =>
    exact yields_bind (yields_count snap.domains.few.2 rfl)
      (yields_bind yields_listDefinedDomains (yields_bind idle (yields_pure _)))

/-- The networks that are looked up are those of both listings. -/
theorem yields_networkRows (all : Bool) :
    Yields snap (networkRows all : Action (Served δ) (List NetworkRow)) (snap.networkRows all) := by
  have looked (ns : List Network) (known : ∀ n ∈ ns, n ∈ snap.networks.all) : Yields snap
      ((ns.map Network.name).mapM fun name =>
        (Network.row <$> networkByName name : Action (Served δ) NetworkRow))
      (ns.map fun n => ⟨n.name, n.uuid.toText⟩) :=
    yields_mapM fun n member => yields_map Network.row (yields_networkByName (known n member))
  refine yields_bind (yields_count snap.networks.few.1 rfl)
    (yields_bind (yields_boundedNames rfl) ?_)
  -- There is one loop over the names of both listings, of which the second may be left out.
  cases all with
  | false =>
    have up := looked snap.networks.up fun _ => Roster.mem_all_of_up
    rw [← List.append_nil (snap.networks.up.map Network.name)] at up
    refine yields_bind (yields_pure []) ?_
    rw [Snapshot.networkRows, if_neg Bool.false_ne_true, List.append_nil]
    exact up
  | true =>
    have every := looked snap.networks.all fun _ member => member
    rw [Roster.all, List.map_append, List.map_append] at every
    exact yields_bind (yields_count snap.networks.few.2 rfl)
      (yields_bind (yields_boundedNames rfl) every)

theorem call_of_yields {s : Session (Served δ)} {act : Action (Served δ) Outcome}
    {outcome : Outcome} (yields : Yields snap act outcome) (sees : s.Sees snap) :
    ∃ s', execute.call act s = (.ok outcome, s') ∧ s'.Sees snap := by
  obtain ⟨s', gave, sees'⟩ := yields s sees
  refine ⟨s', ?_, sees'⟩
  simp only [execute.call, gave]
  rfl

/-- A command that lists something gives the rows of the snapshot. -/
theorem execute_of_listing {s : Session (Served δ)} (sees : s.Sees snap) (files : Files)
    {command : Command} {outcome : Outcome} (listing : snap.listing? command = some outcome) :
    ∃ s', s.execute files command = (.ok outcome, s') ∧ s'.Sees snap := by
  cases command with
  | listDomains all =>
    cases listing
    have rows : Yields snap (do return .domains (← domainRows all) : Action (Served δ) Outcome)
        (.domains (snap.domainRows all)) := yields_bind (yields_domainRows all) (yields_pure _)
    rw [execute]
    exact call_of_yields rows sees
  | listNetworks all =>
    cases listing
    have rows : Yields snap (do return .networks (← networkRows all) : Action (Served δ) Outcome)
        (.networks (snap.networkRows all)) := yields_bind (yields_networkRows all) (yields_pure _)
    rw [execute]
    exact call_of_yields rows sees
  | _ => cases listing

end Session

/-! ### Opening a session -/

/-- Who is connected to has been dialled. -/
theorem Connect.dialled_of_run {α : Type} {address : Address} {policy : Retry}
    {dial : Nat → Except Fault α} {launch : Nat → Launch.Outcome} {stream : α}
    (connected : (run address policy dial (some launch)).outcome = .ok stream) :
    ∃ starts, dial starts = .ok stream := by
  obtain ⟨starts, last, -, -, ending, -⟩ :=
    attempt_spec address policy dial launch policy.launches.toNat 0
  have same : (attempt address policy dial launch policy.launches.toNat 0).outcome = .ok stream :=
    connected
  rw [same] at ending
  cases ending with
  | connected listens => exact ⟨_, listens⟩

section Opening

variable {σ : Type} {s : Session σ}

/-- A session that was opened is a fresh one, over a stream that was dialled. -/
def Machine.Opens (m : Machine σ) (s : Session σ) : Prop :=
  ∃ address starts stream access sink journal, m.dial address starts = .ok stream ∧
    s = .start stream address access sink journal

variable [Uri.Reader]

theorem Backend.opens_of_connect {m : Machine σ} {retry : Retry} {sink : Sink} {uri : String}
    {flags : OpenFlags} (opened : (connect m retry sink uri flags).outcome = .ok s) :
    m.Opens s := by
  rw [connect_outcome] at opened
  unfold establish at opened
  cases read : Scope.ofUri uri with
  | error e =>
    rw [read] at opened
    cases opened
  | ok scope =>
    cases located : scope.address m.home flags.access with
    | error e =>
      simp only [read, located] at opened
      cases opened
    | ok address =>
      cases connected : (Connect.run address retry (m.dial address) (some m.launch)).outcome with
      | error e =>
        simp only [read, located, connected] at opened
        cases opened
      | ok stream =>
        simp only [read, located, connected] at opened
        cases opened
        obtain ⟨starts, dialled⟩ := Connect.dialled_of_run connected
        exact ⟨address, starts, stream, _, _, _, dialled, rfl⟩

namespace Invocation

variable {w : Surroundings σ} {i : Invocation}

theorem eq_supervisor_of_find? {m : Machine σ} {p : Backend σ → Bool} {b : Backend σ}
    (found : (backends m).toList.find? p = some b) : b = .supervisor m .default .log :=
  List.mem_singleton.1 (List.mem_of_find?_eq_some found)

/-- Whatever a command is about, its session is one of the only backend. -/
theorem opens_of_openSession {m : Machine σ} (opened : (i.openSession m).outcome = .ok s) :
    m.Opens s := by
  unfold openSession at opened
  -- For networks the backend is found by its name, and otherwise by the scheme of the identifier.
  split at opened
  · cases found : (backends m).lookup? Supervisor.scheme with
    | none =>
      simp only [found] at opened
      cases opened
    | some b =>
      obtain rfl := eq_supervisor_of_find? found
      simp only [found] at opened
      exact Backend.opens_of_connect opened
  · unfold Backends.session at opened
    cases found : (backends m).forUri? (i.uri.getD (defaultUri m.superuser)) with
    | none =>
      simp only [found] at opened
      cases opened
    | some b =>
      simp only [found] at opened
      unfold Backends.forUri? at found
      split at found
      · obtain rfl := eq_supervisor_of_find? found
        exact Backend.opens_of_connect opened
      · cases found

theorem opens_of_session (opened : i.session w = .ok s) : w.machine.Opens s := by
  unfold session at opened
  split at opened
  · cases opened
  · exact opens_of_openSession (mapError_eq_ok.1 opened)

end Invocation

end Opening

/-- Whoever listens on the machine, at whatever address, answers from the snapshot, and nothing is
in the way of a stream to them. -/
def Machine.LeadsTo {δ : Type} (m : Machine (Served δ)) (snap : Snapshot) : Prop :=
  ∀ address starts stream, m.dial address starts = .ok stream →
    Exchange.Smooth stream ∧ snap.ShownBy stream.peer.step

variable {δ : Type} {snap : Snapshot} {w : Surroundings (Served δ)} {i : Invocation}
  {s : Session (Served δ)}

/-- A session that was opened on such a machine sees the snapshot: no handle is out yet. -/
theorem Machine.LeadsTo.sees {m : Machine (Served δ)} (leads : m.LeadsTo snap) (opens : m.Opens s) :
    s.Sees snap := by
  obtain ⟨address, starts, stream, access, sink, journal, dialled, rfl⟩ := opens
  obtain ⟨smooth, shown⟩ := leads address starts stream dialled
  exact ⟨rfl, smooth, shown, fun h _ => Books.allows_empty h⟩

/-- Every address of the machine is that of a daemon that answers from the snapshot and fails
everything else without a word. -/
def Surroundings.showing (snap : Snapshot) : Surroundings (Served Unit) :=
  { machine :=
      { user := ⟨1000, .ok (some (Text.utf8 "/home/ann"))⟩
        dial := fun _ _ => .ok (.toPeer (.start snap.answering ()))
        launch := fun _ => (.error (.notFound []), []) }
    environment := fun _ => none
    files := fun _ => .error .noSuchFile
    terminal := false
    logReady := true
    logging := ⟨fun _ => .ok (), .ok ()⟩
    outputRoom := none
    messageRoom := none }

theorem Machine.leadsTo_showing (snap : Snapshot) :
    (Surroundings.showing snap).machine.LeadsTo snap := by
  intro address starts stream dialled
  cases dialled
  exact ⟨Exchange.smooth_toPeer _, snap.shownBy_answering⟩

namespace Run

/-- A run that lists domains or networks, with a daemon that answers from a snapshot, gives exactly
the rows of the snapshot in its order: those that are up, and behind them those that are only
defined if all are wanted. Nothing else is written. -/
theorem lists_snapshot [Uri.Reader] {words : List String} (leads : w.machine.LeadsTo snap)
    (understood : Invocation.parse w.environment words = .ok i) (opened : i.session w = .ok s)
    {outcome : Outcome} (listing : snap.listing? i.command = some outcome) :
    (i.perform w).outcome = .ok outcome ∧
    (w.outputRoom = none →
      (start w words).exitCode = 0 ∧
      (start w words).output = Text.utf8 (outcome.render (i.output.resolve w.terminal)) ∧
      (start w words).messages = []) := by
  obtain ⟨s', executed, -⟩ := Session.execute_of_listing
    (leads.sees (Invocation.opens_of_session opened)) w.files listing
  have gave : (i.perform w).outcome = .ok outcome := by
    rw [(Invocation.perform_of_ok opened).1, executed]
  refine ⟨gave, fun room => ?_⟩
  rw [start_of_parse understood]
  exact finished_of_ok gave room

/-- Two domains run, of which one is numbered 0, and one is defined. -/
theorem lists_snapshot_of_small :
    let w := Surroundings.showing .small
    ∃ i, Invocation.parse w.environment ["list", "--all"] = .ok i ∧
      (i.perform w).outcome = .ok (.domains
        [⟨"web", "01010101-0101-0101-0101-010101010101", some 7⟩,
         ⟨"db", "02020202-0202-0202-0202-020202020202", some 0⟩,
         ⟨"old", "03030303-0303-0303-0303-030303030303", none⟩]) := by
  intro w
  let i : Invocation := ⟨none, false, none, none, .auto, .listDomains true⟩
  have understood : Invocation.parse w.environment ["list", "--all"] = .ok i :=
    eq_ok_of_toOption (by decide +kernel)
  obtain ⟨s, opened⟩ : ∃ s, i.session w = .ok s := exists_of_isOk (by decide +kernel)
  obtain ⟨gave, -⟩ := lists_snapshot (Machine.leadsTo_showing .small) understood opened rfl
  refine ⟨i, understood, gave.trans ?_⟩
  decide +kernel

end Run

end Supervisor

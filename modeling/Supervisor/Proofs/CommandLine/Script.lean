import Supervisor.CommandLine.Execute
import Supervisor.Proofs.Session.Run

/-!
# The steps of a command

A command makes calls one after another, and what a call gives may decide which calls follow: a
listing is followed by one call for each object listed. A script says so without carrying it out. So
the steps of a command can be spoken about: each is a call made on the session that the step before
it has left, and after the first step that fails there are no others.

## Main definitions

* `Call.Yield` - how the values of one kind of calls are read
* `Script`, `Script.run` - calls one after another with a result, and carrying them out
* `Script.steps` - the steps that are taken, up to the first one that fails
* `Command.script` - the script of a command

## Main results

* `Session.execute_eq` - a command is carried out as its script says
* `Script.succeeds_iff`, `Script.fails_iff` - a script succeeds exactly if all its steps do, and fails
  as its last step does
* `Script.runs_steps` - the steps of a script are a run of the session
-/

namespace Supervisor

/-- How the values that calls of one kind give are written and read. A call of the kind gives no
other values, so it does not matter what is read off them. -/
structure Call.Yield (α : Type) where
  write : α → Call.Value
  read : Call.Value → α
  read_write : ∀ a, read (write a) = a

namespace Call.Yield

/-! One for each kind of values. -/

def done : Yield Unit := ⟨fun _ => .done, fun _ => (), fun _ => rfl⟩

def version : Yield Int32 := ⟨.version, fun | .version n => n | _ => 0, fun _ => rfl⟩

def nodeInfo : Yield Wire.NodeInfo :=
  ⟨.nodeInfo, fun | .nodeInfo i => i | _ => ⟨"", 0, 0, 0, 0, 0, 0, 0⟩, fun _ => rfl⟩

def count : Yield Nat := ⟨.count, fun | .count n => n | _ => 0, fun _ => rfl⟩

def ids : Yield (List Int32) := ⟨.ids, fun | .ids l => l | _ => [], fun _ => rfl⟩

def names : Yield (List String) := ⟨.names, fun | .names l => l | _ => [], fun _ => rfl⟩

def domain : Yield Domain :=
  ⟨.domain, fun | .domain d => d | _ => ⟨"", .nil, notRunning⟩, fun _ => rfl⟩

def network : Yield Network := ⟨.network, fun | .network n => n | _ => ⟨"", .nil⟩, fun _ => rfl⟩

def status : Yield DomainStatus :=
  ⟨.status, fun | .status s => s | _ => ⟨.unknown, 0, 0, 0, 0⟩, fun _ => rfl⟩

def text : Yield String := ⟨.text, fun | .text s => s | _ => "", fun _ => rfl⟩

end Call.Yield

/-- Calls one after another, each of which may depend on what the calls before it gave, and a
result. -/
inductive Script (α : Type) where
  | done (result : α)
  | call (c : Call) (next : Call.Value → Script α)

namespace Script

variable {α β : Type}

/-- A script and what follows its result. -/
def bind (x : Script α) (next : α → Script β) : Script β :=
  match x with
  | .done a => next a
  | .call c rest => .call c fun v => (rest v).bind next

instance : Monad Script where
  pure := .done
  bind := bind

/-- One call, and what is read off its value. -/
def ask (c : Call) (y : Call.Yield α) : Script α := .call c fun v => .done (y.read v)

/-- The same script for one thing after another. -/
def forEach (f : α → Script β) : List α → Script (List β)
  | [] => .done []
  | a :: as => do
    let b ← f a
    let bs ← forEach f as
    return b :: bs

/-- The running domains, each looked up by its number, and behind them the defined ones, each looked
up by its name. -/
def domains (all : Bool) : Script (List DomainRow) := do
  let ids ← ask (.listDomains (← ask .countDomains .count)) .ids
  let running ← forEach (fun id => Domain.row <$> ask (.domainById id) .domain) ids
  if all then
    let names ← ask (.listDefinedDomains (← ask .countDefinedDomains .count)) .names
    let defined ← forEach (fun name => Domain.row <$> ask (.domainByName name) .domain) names
    return running ++ defined
  else return running

/-- The networks, each looked up by its name after all of them are listed. -/
def networks (all : Bool) : Script (List NetworkRow) := do
  let active ← ask (.listNetworks (← ask .countNetworks .count)) .names
  let defined ←
    if all then ask (.listDefinedNetworks (← ask .countDefinedNetworks .count)) .names else pure []
  forEach (fun name => Network.row <$> ask (.networkByName name) .network) (active ++ defined)

/-- A domain is looked up, and something is done to it. -/
def onDomain (name action : String) (c : Domain → Call) : Script Outcome := do
  let d ← ask (.domainByName name) .domain
  ask (c d) .done
  return .domain action d.row

/-- A network is looked up, and something is done to it. -/
def onNetwork (name action : String) (c : Network → Call) : Script Outcome := do
  let n ← ask (.networkByName name) .network
  ask (c n) .done
  return .network action n.row

end Script

open Script in
/-- The script of a command, given the text of the descriptor if it reads one. -/
def Command.script (text : String) : Command → Script Outcome
  | .version => do return .version (← ask .version .version)
  | .nodeInfo => do return .node (← ask .nodeInfo .nodeInfo)
  | .listDomains all => do return .domains (← domains all)
  | .createDomain _ => do return .domain "created" (← ask (.createDomain text) .domain).row
  | .defineDomain _ => do return .domain "defined" (← ask (.defineDomain text) .domain).row
  | .undefineDomain name => onDomain name "undefined" .undefineDomain
  | .startDomain name => do
    let d ← ask (.startDomain (← ask (.domainByName name) .domain)) .domain
    return .domain "started" d.row
  | .suspendDomain name => onDomain name "suspended" .suspendDomain
  | .resumeDomain name => onDomain name "resumed" .resumeDomain
  | .shutdownDomain name => onDomain name "is being shut down" .shutdownDomain
  | .destroyDomain name => onDomain name "destroyed" .destroyDomain
  | .domainStatus name => do
    let d ← ask (.domainByName name) .domain
    return .status ((← ask (.domainStatus d) .status).sheet d.name)
  | .domainXml name => do
    return .document (← ask (.domainXml (← ask (.domainByName name) .domain)) .text)
  | .saveDomain name file => onDomain name "saved" (.saveDomain · file)
  | .restoreDomain file => do return .domain "restored" (← ask (.restoreDomain file) .domain).row
  | .listNetworks all => do return .networks (← networks all)
  | .createNetwork _ => do return .network "created" (← ask (.createNetwork text) .network).row
  | .defineNetwork _ => do return .network "defined" (← ask (.defineNetwork text) .network).row
  | .undefineNetwork name => onNetwork name "undefined" .undefineNetwork
  | .startNetwork name => onNetwork name "started" .startNetwork
  | .destroyNetwork name => onNetwork name "destroyed" .destroyNetwork
  | .networkXml name => do
    return .document (← ask (.networkXml (← ask (.networkByName name) .network)) .text)
  | .networkBridge name => do
    return .bridge name (← ask (.networkBridge (← ask (.networkByName name) .network)) .text)

/-- The text of the descriptor that a command reads; nothing is read for the others. -/
def Files.textFor (files : Files) (command : Command) : Except RunError String :=
  match command.descriptor? with
  | some path => files.descriptor path
  | none => .ok ""

namespace Session

variable {σ : Type} [Peer σ]

/-- What a session has become after some steps: what the last of them has left. -/
def leftBy (s : Session σ) (past : List (Step σ)) : Session σ :=
  (past.getLast?.map Step.after).getD s

/-- Steps of which the last one fails with the given error, and no other. -/
inductive BreaksOff (e : CallError) : List (Step σ) → Prop
  | failed {t : Step σ} (failed : t.outcome = .error e) : BreaksOff e [t]
  | later {t : Step σ} {v : Call.Value} {ts : List (Step σ)} (gave : t.outcome = .ok v)
      (others : BreaksOff e ts) : BreaksOff e (t :: ts)

theorem BreaksOff.exists_mem {e : CallError} {ts : List (Step σ)} (breaks : BreaksOff e ts) :
    ∃ t ∈ ts, t.outcome = .error e := by
  induction breaks with
  | failed failed => exact ⟨_, List.mem_singleton_self _, failed⟩
  | later _ _ ih =>
    obtain ⟨t, member, failed⟩ := ih
    exact ⟨t, List.mem_cons_of_mem _ member, failed⟩

theorem leftBy_cons (s : Session σ) (t : Step σ) (past : List (Step σ)) :
    s.leftBy (t :: past) = t.after.leftBy past := by
  simp only [leftBy, List.getLast?_cons]
  cases past.getLast? <;> rfl

end Session

namespace Script

variable {σ α β : Type} [Peer σ]

/-- Carries out a script, up to the first call that fails. -/
def run : Script α → Action σ α
  | .done a => pure a
  | .call c next => Session.perform c >>= fun v => (next v).run

/-- The steps that are taken: all calls up to the first one that fails, and that one. -/
def steps : Script α → Session σ → List (Session.Step σ)
  | .done _, _ => []
  | .call c next, s => ⟨s, c⟩ ::
    match Session.perform c s with
    | (.ok v, s) => (next v).steps s
    | (.error _, _) => []

/-! ### Scripts and actions

An action follows a script if carrying out the script is the same. -/

theorem run_pure (a : α) : (pure a : Script α).run = (pure a : Action σ α) := rfl

theorem run_bind {x : Script α} {next : α → Script β} {act : Action σ α}
    {others : α → Action σ β} (first : x.run = act) (then' : ∀ a, (next a).run = others a) :
    (x >>= next).run = act >>= others := by
  change (x.bind next).run = _
  induction x generalizing act with
  | done a => simp [bind, run, ← first, then']
  | call c rest ih =>
    simp only [bind, run, ← first, bind_assoc]
    exact bind_congr fun v => ih v rfl

theorem run_map {x : Script α} {act : Action σ α} (f : α → β) (same : x.run = act) :
    (f <$> x).run = f <$> act := by
  rw [map_eq_pure_bind f act]
  exact run_bind same fun a => run_pure (f a)

/-- A call is carried out for what is read off its value. -/
theorem run_ask {c : Call} {y : Call.Yield α} {act : Action σ α}
    (same : Session.perform c = y.write <$> act) : (ask c y).run = act := by
  simp only [ask, run, same, bind_map_left, y.read_write, bind_pure]

theorem run_forEach {f : α → Script β} {act : α → Action σ β} (same : ∀ a, (f a).run = act a)
    (as : List α) : (forEach f as).run = as.mapM act := by
  induction as with
  | nil => rfl
  | cons a as ih =>
    rw [List.mapM_cons]
    exact run_bind (same a) fun b => run_bind ih fun bs => run_pure (b :: bs)

theorem run_domains (all : Bool) :
    (domains all).run = (Session.domainRows all : Action σ (List DomainRow)) := by
  refine run_bind (run_ask rfl) fun n => run_bind (run_ask rfl) fun ids =>
    run_bind (run_forEach (fun id => run_map _ (run_ask rfl)) ids) fun running => ?_
  cases all with
  | false => exact run_pure running
  | true =>
    exact run_bind (run_ask rfl) fun n => run_bind (run_ask rfl) fun names =>
      run_bind (run_forEach (fun name => run_map _ (run_ask rfl)) names) fun defined => run_pure _

theorem run_networks (all : Bool) :
    (networks all).run = (Session.networkRows all : Action σ (List NetworkRow)) := by
  have found (name : String) : (ask (.networkByName name) .network).run =
      (Session.networkByName name : Action σ Network) := run_ask rfl
  have looked (names : List String) := run_forEach (fun name => run_map Network.row (found name)) names
  refine run_bind (run_ask rfl) fun n => run_bind (run_ask rfl) fun active => ?_
  cases all with
  | false => exact run_bind (run_pure []) fun defined => looked (active ++ defined)
  | true =>
    exact run_bind (run_ask rfl) fun n => run_bind (run_ask rfl) fun defined => looked (active ++ defined)

theorem run_onDomain {c : Domain → Call} {act : Domain → Action σ Unit}
    (same : ∀ d, Session.perform (c d) = Call.Yield.done.write <$> act d) (name action : String) :
    (onDomain name action c).run = Session.onDomain name action act :=
  run_bind (run_ask rfl) fun d => run_bind (run_ask (same d)) fun _ => run_pure _

theorem run_onNetwork {c : Network → Call} {act : Network → Action σ Unit}
    (same : ∀ n, Session.perform (c n) = Call.Yield.done.write <$> act n) (name action : String) :
    (onNetwork name action c).run = Session.onNetwork name action act :=
  run_bind (run_ask rfl) fun n => run_bind (run_ask (same n)) fun _ => run_pure _

/-! ### Steps -/

/-- A script goes on with what its first call gives, or ends with the failure of that call. -/
theorem run_call (c : Call) (next : Call.Value → Script α) (s : Session σ) :
    (call c next).run s = match Session.perform c s with
      | (.ok v, s) => (next v).run s
      | (.error e, s) => (.error e, s) := by
  rw [run, Session.bind_apply]
  rcases Session.perform c s with ⟨e | v, s'⟩ <;> rfl

/-- A script succeeds exactly if all its steps do. -/
theorem succeeds_iff (x : Script α) (s : Session σ) :
    (∃ a, (x.run s).1 = .ok a) ↔ ∀ t ∈ x.steps s, ∃ v, t.outcome = .ok v := by
  induction x generalizing s with
  | done a => exact iff_of_true ⟨a, rfl⟩ (List.forall_mem_nil _)
  | call c next ih =>
    have first : (⟨s, c⟩ : Session.Step σ).outcome = (Session.perform c s).1 := rfl
    rw [run_call, steps, List.forall_mem_cons, first]
    rcases Session.perform c s with ⟨e | v, s'⟩
    · exact iff_of_false nofun nofun
    · rw [ih v s']
      exact ⟨fun others => ⟨⟨v, rfl⟩, others⟩, fun all => all.2⟩

/-- A script fails exactly if its last step does, with the same error. -/
theorem fails_iff (x : Script α) (s : Session σ) (e : CallError) :
    (x.run s).1 = .error e ↔ Session.BreaksOff e (x.steps s) := by
  induction x generalizing s with
  | done a => exact iff_of_false nofun nofun
  | call c next ih =>
    have first : (⟨s, c⟩ : Session.Step σ).outcome = (Session.perform c s).1 := rfl
    rw [run_call, steps]
    rcases performed : Session.perform c s with ⟨e' | v, s'⟩
    · -- The first call fails: it is the only step, and its error is the script's.
      rw [performed] at first
      constructor
      · intro same
        cases same
        exact .failed first
      · intro breaks
        cases breaks with
        | failed failed =>
          cases first.symm.trans failed
          rfl
        | later gave => cases first.symm.trans gave
    · -- It succeeds, and whether the steps break off is decided behind it.
      rw [performed] at first
      dsimp only
      rw [ih v s']
      generalize (next v).steps s' = others
      constructor
      · intro breaks
        exact .later first breaks
      · intro breaks
        cases breaks with
        | failed failed => cases first.symm.trans failed
        | later _ breaks => exact breaks

/-- What a script leaves is what its last step leaves. -/
theorem run_snd (x : Script α) (s : Session σ) : (x.run s).2 = s.leftBy (x.steps s) := by
  induction x generalizing s with
  | done a => rfl
  | call c next ih =>
    rw [run_call, steps, Session.leftBy_cons]
    unfold Session.Step.after
    rcases Session.perform c s with ⟨e | v, s'⟩
    · rfl
    · exact ih v s'

/-- The steps of a script are a run of the session: each is a call on what the one before it has
left. -/
theorem runs_steps (x : Script α) {s₀ s : Session σ} {past : List (Session.Step σ)}
    (run : Session.Run s₀ past s) : Session.Run s₀ (past ++ x.steps s) (x.run s).2 := by
  -- Along the script; the run grows by one call at each step, so it is general.
  induction x generalizing s past with
  | done a =>
    rw [steps, List.append_nil]
    exact run
  | call c next ih =>
    rw [run_call, steps]
    have called := run.call c
    rcases performed : Session.perform c s with ⟨e | v, s'⟩
    · rw [performed] at called
      exact called
    · rw [performed] at called
      have others := ih v called
      rw [List.append_assoc] at others
      exact others

end Script

namespace Session

open Script

variable {σ : Type} [Peer σ]

/-- Carries out the script of a command. Without the descriptor that it reads no call is made. -/
def obey (files : Files) (command : Command) : ExceptT RunError (StateM (Session σ)) Outcome := fun s =>
  match files.textFor command with
  | .error e => (.error e, s)
  | .ok text =>
    let (outcome, s) := (command.script text).run s
    (outcome.mapError .call, s)

variable {files : Files} {command : Command}

/-- With its descriptor a command carries its script out. -/
theorem obey_of_ok {text : String} (read : files.textFor command = .ok text) (s : Session σ) :
    obey files command s = execute.call (command.script text).run s := by
  rcases ran : (command.script text).run s with ⟨outcome, s'⟩
  simp only [obey, read, execute.call, ran]

theorem obey_of_error {e : RunError} (failed : files.textFor command = .error e) (s : Session σ) :
    obey files command s = (.error e, s) := by
  simp only [obey, failed]

/-- A command without a descriptor is carried out as its script says if its action is. -/
theorem call_eq_obey {x : Script Outcome} {act : Action σ Outcome}
    (plain : command.descriptor? = none) (script : command.script "" = x) (same : x.run = act)
    (s : Session σ) : execute.call act s = obey files command s := by
  have read : files.textFor command = .ok "" := by simp only [Files.textFor, plain]
  rw [obey_of_ok read, script, same]

/-- A command with a descriptor is carried out as its script says if its action is, whatever the
descriptor says. -/
theorem withDescriptor_eq_obey {path : String} {x : String → Script Outcome}
    {act : String → Action σ Outcome} (needs : command.descriptor? = some path)
    (script : ∀ text, command.script text = x text) (same : ∀ text, (x text).run = act text)
    (s : Session σ) : withDescriptor files path act s = obey files command s := by
  have from' : files.textFor command = files.descriptor path := by
    simp only [Files.textFor, needs]
  cases read : files.descriptor path with
  | error e =>
    rw [obey_of_error (from'.trans read)]
    simp only [withDescriptor, read]
  | ok text =>
    rw [obey_of_ok (from'.trans read), script, same]
    rcases ran : act text s with ⟨outcome, s'⟩
    simp only [withDescriptor, read, execute.call, ran]

/-- A command is carried out as its script says. -/
theorem execute_eq (files : Files) (command : Command) (s : Session σ) :
    execute files command s = obey files command s := by
  -- The commands in groups: one call, two calls, a listing, one thing done to what has a name, and
  -- those that read a descriptor.
  cases command with
  | version | nodeInfo | restoreDomain =>
    rw [execute]
    apply call_eq_obey rfl rfl
    exact run_bind (run_ask rfl) fun _ => run_pure _
  | startDomain | domainStatus | domainXml | networkXml | networkBridge =>
    rw [execute]
    apply call_eq_obey rfl rfl
    exact run_bind (run_ask rfl) fun _ => run_bind (run_ask rfl) fun _ => run_pure _
  | listDomains all =>
    rw [execute]
    apply call_eq_obey rfl rfl
    exact run_bind (run_domains all) fun _ => run_pure _
  | listNetworks all =>
    rw [execute]
    apply call_eq_obey rfl rfl
    exact run_bind (run_networks all) fun _ => run_pure _
  | undefineDomain | suspendDomain | resumeDomain | shutdownDomain | destroyDomain | saveDomain =>
    rw [execute]
    apply call_eq_obey rfl rfl
    exact run_onDomain (fun _ => rfl) _ _
  | undefineNetwork | startNetwork | destroyNetwork =>
    rw [execute]
    apply call_eq_obey rfl rfl
    exact run_onNetwork (fun _ => rfl) _ _
  | createDomain | defineDomain | createNetwork | defineNetwork =>
    rw [execute]
    apply withDescriptor_eq_obey rfl fun _ => rfl
    intro text
    exact run_bind (run_ask rfl) fun _ => run_pure _

end Session

end Supervisor

import Supervisor.Connect

/-!
# Starting the daemon on demand

Connecting goes in rounds. In a round nobody listens, the daemon is started, and the client waits. The
rounds end when somebody listens, when a start fails, or when there were as many starts as are
allowed, so a journey is told by the number of its rounds and by what comes after them.

## Main definitions

* `Connect.round`, `Connect.rounds` - what is done in a round, and in several
* `Connect.Passes` - nobody listens after a number of starts, and the next start succeeds
* `Connect.Ending` - what comes after the rounds
* `Connect.successes` - how many of several starts succeed

## Main results

* `Connect.attempt_spec` - the rounds from any point on, and how they end
* `Connect.Ending.count_dial` - attempts to connect are one more than successful starts
* `Connect.journey_of_run` - a whole journey, with a launcher and without
-/

namespace Supervisor.Connect

variable {α : Type}

/-- What is done in the round after the given number of starts. -/
def round (policy : Retry) (starts : Nat) : List Step :=
  [.dial, .launch, .wait (policy.backoff (UInt32.ofNat (starts + 1)))]

/-- What is done in a number of rounds, of which the first comes after `first` starts. -/
def rounds (policy : Retry) (first count : Nat) : List Step :=
  (List.range' first count).flatMap (round policy)

/-- After the given number of starts nobody listens, and the next start succeeds. -/
def Passes (dial : Nat → Except Fault α) (launch : Nat → Launch.Outcome) (starts : Nat) : Prop :=
  (∃ fault, dial starts = .error fault) ∧ ∃ command, (launch starts).1 = .ok command

/-- What comes after the rounds if `limit` starts are allowed: the outcome, and the last steps. -/
inductive Ending (address : Address) (limit : Nat) (dial : Nat → Except Fault α)
    (launch : Nat → Launch.Outcome) (starts : Nat) : Except Error α → List Step → Prop
  | connected {stream : α} (listens : dial starts = .ok stream) :
    Ending address limit dial launch starts (.ok stream) [.dial]
  | unlaunched {fault : Fault} {e : Launch.Error} (allowed : starts < limit)
      (silent : dial starts = .error fault) (failed : (launch starts).1 = .error e) :
    Ending address limit dial launch starts (.error (.launch e)) [.dial, .launch]
  | exhausted {fault : Fault} (spent : starts = limit) (silent : dial starts = .error fault) :
    Ending address limit dial launch starts (.error (.unreachable address (limit + 1) fault)) [.dial]

/-- How many of the first `count` starts succeed. -/
def successes (launch : Nat → Launch.Outcome) (count : Nat) : Nat :=
  (List.range count).countP fun i => (launch i).1.isOk

variable {address : Address} {dial : Nat → Except Fault α}
  {launch : Nat → Launch.Outcome} {limit starts : Nat} {outcome : Except Error α}
  {last : List Step}

/-! ### Rounds -/

theorem rounds_succ (policy : Retry) (first count : Nat) :
    rounds policy first (count + 1) = round policy first ++ rounds policy (first + 1) count :=
  rfl

/-- In every round there are one attempt to connect and one start. -/
theorem count_rounds (policy : Retry) (first count : Nat) :
    (rounds policy first count).count .dial = count ∧
      (rounds policy first count).count .launch = count := by
  induction count generalizing first with
  | zero => exact ⟨rfl, rfl⟩
  | succ count ih =>
    obtain ⟨dials, launches⟩ := ih (first + 1)
    rw [rounds_succ, List.count_append, List.count_append, dials, launches]
    simp [round, Nat.add_comm]

/-- From any point on there are rounds as long as they pass, and then they end. -/
theorem attempt_spec (address : Address) (policy : Retry) (dial : Nat → Except Fault α)
    (launch : Nat → Launch.Outcome) (left first : Nat) :
    ∃ count last, count ≤ left ∧ (∀ i, first ≤ i → i < first + count → Passes dial launch i) ∧
      Ending address (first + left) dial launch (first + count)
        (attempt address policy dial launch left first).outcome last ∧
      (attempt address policy dial launch left first).steps = rounds policy first count ++ last := by
  induction left generalizing first with
  | zero =>
    unfold attempt
    cases dialled : dial first with
    | ok stream => exact ⟨0, _, Nat.le_refl _, by omega, .connected dialled, rfl⟩
    | error fault => exact ⟨0, _, Nat.le_refl _, by omega, .exhausted rfl dialled, rfl⟩
  | succ left ih =>
    unfold attempt
    cases dialled : dial first with
    | ok stream => exact ⟨0, _, Nat.zero_le _, by omega, .connected dialled, rfl⟩
    | error fault =>
      rcases launched : launch first with ⟨e | command, events⟩
      · -- A start that fails ends the rounds, without a wait.
        have failed : (launch first).1 = .error e := congrArg Prod.fst launched
        exact ⟨0, _, Nat.zero_le _, by omega, .unlaunched (by omega) dialled failed, rfl⟩
      · -- This round passes; the others follow after one more start.
        have here : Passes dial launch first := ⟨⟨fault, dialled⟩, command, congrArg Prod.fst launched⟩
        obtain ⟨count, last, le, passes, ending, steps⟩ := ih (first + 1)
        rw [Nat.add_assoc, Nat.add_comm 1 left, Nat.add_assoc, Nat.add_comm 1 count] at ending
        refine ⟨count + 1, last, by omega, ?_, ending, ?_⟩
        · intro i from' below
          rcases Nat.eq_or_lt_of_le from' with rfl | later
          · exact here
          · exact passes i later (by omega)
        · rw [rounds_succ, List.append_assoc, ← steps]
          rfl

/-! ### Counting -/

theorem successes_of_passes (passes : ∀ i < starts, Passes dial launch i) :
    successes launch starts = starts := by
  have all : successes launch starts = (List.range starts).length := by
    refine List.countP_eq_length.2 fun i member => ?_
    obtain ⟨-, command, launched⟩ := passes i (List.mem_range.1 member)
    rw [launched]
    rfl
  rw [all, List.length_range]

/-- A start that fails adds nothing to the successful ones. -/
theorem successes_succ_of_error {e : Launch.Error} (failed : (launch starts).1 = .error e) :
    successes launch (starts + 1) = successes launch starts := by
  have added : List.countP (fun i => (launch i).1.isOk) [starts] = 0 := by
    rw [List.countP_singleton, failed]
    rfl
  rw [successes, List.range_succ, List.countP_append, added]
  rfl

/-- Every successful start is followed by an attempt to connect, and one attempt comes before them
all. -/
theorem Ending.count_dial (policy : Retry)
    (ending : Ending address limit dial launch starts outcome last)
    (passes : ∀ i < starts, Passes dial launch i) :
    (rounds policy 0 starts ++ last).count .dial = starts + 1 ∧
      successes launch ((rounds policy 0 starts ++ last).count .launch) = starts := by
  obtain ⟨dials, launches⟩ := count_rounds policy 0 starts
  have passed := successes_of_passes passes
  rw [List.count_append, List.count_append, dials, launches]
  cases ending with
  | connected | exhausted => exact ⟨rfl, passed⟩
  | unlaunched allowed silent failed => exact ⟨rfl, (successes_succ_of_error failed).trans passed⟩

/-- With a launcher there are rounds until somebody listens, a start fails, or as many starts were
made as are allowed. The attempts to connect are one more than the successful starts, and as many as
a failure reports, whose number has 32 bits. Without a launcher there is one attempt. -/
theorem journey_of_run (address : Address) (policy : Retry) (dial : Nat → Except Fault α)
    (launch : Nat → Launch.Outcome) (few : policy.launches.toNat < 4294967295) :
    let j := run address policy dial (some launch)
    let single := run address policy dial none
    (∃ starts last, starts ≤ policy.launches.toNat ∧ (∀ i < starts, Passes dial launch i) ∧
      Ending address policy.launches.toNat dial launch starts j.outcome last ∧
      j.steps = rounds policy 0 starts ++ last) ∧
    j.steps.count .dial = successes launch j.launches + 1 ∧
    (∀ a attempts fault, j.outcome = .error (.unreachable a attempts fault) →
      attempts = j.steps.count .dial ∧ attempts < 4294967296) ∧
    single.steps = [.dial] ∧ single.outcome = (dial 0).mapError (.unreachable address 1) := by
  intro j single
  obtain ⟨starts, last, le, passes, ending, steps⟩ :
      ∃ starts last, starts ≤ policy.launches.toNat ∧
        (∀ i, 0 ≤ i → i < 0 + starts → Passes dial launch i) ∧
        Ending address (0 + policy.launches.toNat) dial launch (0 + starts) j.outcome last ∧
        j.steps = rounds policy 0 starts ++ last :=
    attempt_spec address policy dial launch policy.launches.toNat 0
  rw [Nat.zero_add, Nat.zero_add] at ending
  have passes : ∀ i < starts, Passes dial launch i := by
    intro i below
    exact passes i (Nat.zero_le i) (by omega)
  obtain ⟨dials, launches⟩ := ending.count_dial policy passes
  rw [← steps] at dials launches
  refine ⟨⟨starts, last, le, passes, ending, steps⟩, ?_, ?_, ?_⟩
  · rw [Journey.launches, dials, launches]
  · intro a attempts fault failed
    rw [dials]
    rw [failed] at ending
    cases ending with
    | exhausted spent => exact ⟨by rw [spent], by omega⟩
  · simp only [single, run]
    unfold attempt
    cases dial 0 <;> exact ⟨rfl, rfl⟩

/-- Two starts are allowed, and nobody ever listens. -/
theorem journey_of_silence :
    let j := run ⟨"sock"⟩ ⟨2, .ofMillis 5⟩ (fun _ => (.error .noSuchFile : Except Fault Unit))
      (some fun _ => (.ok ⟨"daemon", []⟩, []))
    j.outcome = .error (.unreachable ⟨"sock"⟩ 3 .noSuchFile) ∧
      j.steps = [.dial, .launch, .wait (.ofMillis 5), .dial, .launch, .wait (.ofMillis 20), .dial] := by
  intro j
  obtain ⟨⟨starts, last, -, -, ending, steps⟩, -⟩ := journey_of_run ⟨"sock"⟩ ⟨2, .ofMillis 5⟩
    (fun _ => (.error .noSuchFile : Except Fault Unit)) (fun _ => (.ok ⟨"daemon", []⟩, []))
    (by decide)
  rw [steps]
  generalize j.outcome = outcome at ending
  cases ending with
  | connected listens => cases listens
  | unlaunched _ _ failed => cases failed
  | exhausted spent silent =>
    cases spent
    cases silent
    exact ⟨rfl, by decide +kernel⟩

end Supervisor.Connect

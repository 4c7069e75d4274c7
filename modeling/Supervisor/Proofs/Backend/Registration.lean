import Supervisor.CommandLine.Run

/-!
# Registering backends

A backend is found by its name or its scheme, and of several that answer to a word the one registered
first is found. A backend is registered unless another one already answers to its name. So a name
always finds the backend that bears it, even where others have it for their scheme: those were
registered later. Nothing is asked about the scheme of a new backend, and so a scheme finds a backend
only if no earlier one answers to it.

## Main definitions

* `Backend.AnswersTo` - the words that find a backend
* `Backends.registerAll`, `Backends.accepted` - what becomes of backends that are registered one after
  the other
* `Backends.Initial` - what registering starts from
* `Backends.Ordered` - no backend answers to the name of a later one

## Main results

* `Backends.ordered_registerAll` - whatever is registered, the backends stay in order
* `Backends.Ordered.lookup?_of_spelling` - a name finds the backend that bears it
* `Backends.registers_of_initial` - what is accepted, what is refused, and what is found by name
* `Backends.found_by_scheme_iff` - what is found by scheme
-/

namespace Supervisor

namespace Text

theorem equalFold_iff {s t : String} : equalFold s t = true ↔ lowerAscii s = lowerAscii t :=
  beq_iff_eq

@[simp] theorem equalFold_refl (s : String) : equalFold s s = true := equalFold_iff.2 rfl

end Text

/-- An identifier that is read as one of the given scheme. -/
theorem Uri.exists_of_scheme (uri scheme : String)
    (read : (parse uri).toOption.map Uri.scheme = some scheme) :
    ∃ u, parse uri = .ok u ∧ u.scheme = scheme := by
  cases outcome : parse uri with
  | error e =>
    rw [outcome] at read
    cases read
  | ok u =>
    rw [outcome] at read
    exact ⟨u, rfl, Option.some.inj read⟩

variable {σ : Type}

/-- Whether a backend has the given word for its name or its scheme, in any letter case. -/
def Backend.AnswersTo (b : Backend σ) (word : String) : Prop :=
  Text.equalFold b.name word = true ∨ Text.equalFold b.scheme word = true

instance (b : Backend σ) (word : String) : Decidable (b.AnswersTo word) :=
  inferInstanceAs (Decidable (_ ∨ _))

theorem Backend.answersTo_name (b : Backend σ) : b.AnswersTo b.name := .inl (Text.equalFold_refl _)

/-- Two spellings of one word find the same backends. -/
theorem Backend.answersTo_congr {b : Backend σ} {word spelling : String}
    (same : Text.equalFold word spelling = true) : b.AnswersTo word ↔ b.AnswersTo spelling := by
  unfold AnswersTo
  simp only [Text.equalFold_iff] at same ⊢
  rw [same]

/-- A backend that opens no session. -/
def Backend.idle (name scheme : String) : Backend Unit :=
  ⟨name, scheme, fun _ _ => .refused (.unsupported name), fun _ _ => .refused (.unsupported scheme)⟩

namespace Backends

variable {start bs bs' : Backends σ} {b : Backend σ} {earlier later : List (Backend σ)}
  {word uri : String} {e : CallError}

theorem lookup?_eq (bs : Backends σ) (word : String) :
    bs.lookup? word = bs.toList.find? fun b => decide (b.AnswersTo word) := by
  unfold lookup?
  congr 1
  funext b
  rw [Bool.eq_iff_iff, Bool.or_eq_true, decide_eq_true_iff]
  rfl

theorem lookup?_eq_none_iff : bs.lookup? word = none ↔ ∀ b ∈ bs.toList, ¬ b.AnswersTo word := by
  rw [lookup?_eq, List.find?_eq_none]
  simp

/-! ### Registering one backend -/

/-- What comes of registering a backend, and the backends after it. -/
inductive Registers (bs : Backends σ) (b : Backend σ) :
    Except CallError (Backends σ) → Backends σ → Prop
  | accepted (free : ∀ c ∈ bs.toList, ¬ c.AnswersTo b.name) :
    Registers bs b (.ok ⟨bs.toList ++ [b]⟩) ⟨bs.toList ++ [b]⟩
  | refused {c : Backend σ} (registered : c ∈ bs.toList) (taken : c.AnswersTo b.name) :
    Registers bs b (.error (.duplicateDriver b.name)) bs

/-- Registers several backends one after the other. One that is refused changes nothing. -/
def registerAll (bs : Backends σ) : List (Backend σ) → Backends σ
  | [] => bs
  | b :: offered =>
    match bs.register b with
    | .ok bs' => bs'.registerAll offered
    | .error _ => bs.registerAll offered

/-- Those of several backends that are not refused. -/
def accepted (bs : Backends σ) : List (Backend σ) → List (Backend σ)
  | [] => []
  | b :: offered =>
    match bs.register b with
    | .ok bs' => b :: bs'.accepted offered
    | .error _ => bs.accepted offered

theorem registers (bs : Backends σ) (b : Backend σ) :
    Registers bs b (bs.register b) (bs.registerAll [b]) := by
  have after : bs.registerAll [b] =
      match bs.register b with
      | .ok bs' => bs'
      | .error _ => bs := rfl
  rw [after, register]
  cases found : bs.lookup? b.name with
  | none => exact .accepted (lookup?_eq_none_iff.1 found)
  | some c =>
    rw [lookup?_eq] at found
    have taken : c.AnswersTo b.name := by simpa using List.find?_some found
    exact .refused (List.mem_of_find?_eq_some found) taken

theorem registerAll_append (bs : Backends σ) (offered more : List (Backend σ)) :
    bs.registerAll (offered ++ more) = (bs.registerAll offered).registerAll more := by
  induction offered generalizing bs with
  | nil => rfl
  | cons b offered ih =>
    rw [List.cons_append, registerAll, registerAll]
    split <;> exact ih _

/-- The accepted backends are added in the order in which they were offered. -/
theorem toList_registerAll (bs : Backends σ) (offered : List (Backend σ)) :
    (bs.registerAll offered).toList = bs.toList ++ bs.accepted offered := by
  induction offered generalizing bs with
  | nil => simp [registerAll, accepted]
  | cons b offered ih =>
    have registers := bs.registers b
    unfold registerAll accepted
    generalize bs.registerAll [b] = after at registers
    generalize bs.register b = outcome at registers
    cases registers with
    | accepted => simp [ih]
    | refused => exact ih bs

/-! ### What stays true -/

/-- What registering starts from: no backend, or that of the supervisor daemon. -/
inductive Initial : Backends σ → Prop
  | empty : Initial .empty
  | builtIn (m : Machine σ) : Initial (Invocation.backends m)

/-- No backend answers to the name of one that was registered after it. -/
def Ordered (bs : Backends σ) : Prop := bs.toList.Pairwise fun b c => ¬ b.AnswersTo c.name

theorem Initial.ordered (initial : Initial start) : start.Ordered := by
  cases initial with
  | empty => exact .nil
  | builtIn m => exact List.pairwise_singleton _ _

/-- Registering keeps the order: a backend is added last, and only if no other answers to its
name. -/
theorem Registers.ordered {outcome : Except CallError (Backends σ)}
    (registers : Registers bs b outcome bs') (ordered : bs.Ordered) : bs'.Ordered := by
  cases registers with
  | accepted free =>
    refine List.pairwise_append.2 ⟨ordered, List.pairwise_singleton _ _, ?_⟩
    intro c registered d last
    rw [List.mem_singleton.1 last]
    exact free c registered
  | refused => exact ordered

theorem ordered_registerAll (ordered : bs.Ordered) (offered : List (Backend σ)) :
    (bs.registerAll offered).Ordered := by
  induction offered generalizing bs with
  | nil => exact ordered
  | cons b offered ih =>
    rw [← List.singleton_append, registerAll_append]
    exact ih ((bs.registers b).ordered ordered)

/-- A backend is registered but once. -/
theorem Ordered.not_mem (ordered : bs.Ordered) (split : bs.toList = earlier ++ b :: later) :
    b ∉ earlier := by
  intro again
  rw [Ordered, split, List.pairwise_append] at ordered
  exact ordered.2.2 b again b List.mem_cons_self b.answersTo_name

/-- Backends of which none answers to the name of a later one are all accepted. -/
theorem toList_registerAll_of_pairwise {offered : List (Backend σ)}
    (unanswered : (bs.toList ++ offered).Pairwise fun b c => ¬ b.AnswersTo c.name) :
    (bs.registerAll offered).toList = bs.toList ++ offered := by
  induction offered generalizing bs with
  | nil => simp [registerAll]
  | cons b offered ih =>
    have free : bs.lookup? b.name = none := by
      rw [lookup?_eq_none_iff]
      intro c registered
      exact (List.pairwise_append.1 unanswered).2.2 c registered b List.mem_cons_self
    have added : bs.register b = .ok ⟨bs.toList ++ [b]⟩ := by rw [register, free]
    rw [List.append_cons] at unanswered ⊢
    rw [registerAll, added]
    exact ih unanswered

/-- The names of the backends are different, in whatever letter case they are written. -/
theorem Ordered.pairwise_name (ordered : bs.Ordered) :
    bs.toList.Pairwise fun b c => Text.equalFold b.name c.name = false := by
  refine List.Pairwise.imp ?_ ordered
  intro b c unanswered
  rw [← Bool.not_eq_true]
  intro same
  exact unanswered (.inl same)

/-- A backend is the first with some property exactly if no earlier one has it. -/
theorem find?_split_iff {p : Backend σ → Bool} (holds : p b = true) (once : b ∉ earlier) :
    (earlier ++ b :: later).find? p = some b ↔ ∀ c ∈ earlier, ¬ p c = true := by
  rw [List.find?_append, List.find?_cons_of_pos holds]
  cases found : earlier.find? p with
  | none => exact iff_of_true rfl (List.find?_eq_none.1 found)
  | some c =>
    refine iff_of_false ?_ fun none => none c (List.mem_of_find?_eq_some found)
      (List.find?_some found)
    rintro ⟨⟩
    exact once (List.mem_of_find?_eq_some found)

/-- A word that a backend answers to finds it exactly if no earlier one answers to it. -/
theorem Ordered.lookup?_split_iff (ordered : bs.Ordered)
    (split : bs.toList = earlier ++ b :: later) (answers : b.AnswersTo word) :
    bs.lookup? word = some b ↔ ∀ c ∈ earlier, ¬ c.AnswersTo word := by
  rw [lookup?_eq, split, find?_split_iff (decide_eq_true answers) (ordered.not_mem split)]
  simp

/-- A name finds the backend that bears it, in whatever letter case it is written. -/
theorem Ordered.lookup?_of_spelling (ordered : bs.Ordered) (registered : b ∈ bs.toList)
    (same : Text.equalFold b.name word = true) : bs.lookup? word = some b := by
  obtain ⟨earlier, later, split⟩ := List.append_of_mem registered
  rw [ordered.lookup?_split_iff split (.inl same)]
  -- Those that were registered earlier do not answer to the name.
  intro c before
  rw [Ordered, split, List.pairwise_append] at ordered
  rw [← Backend.answersTo_congr same]
  exact ordered.2.2 c before b List.mem_cons_self

/-- Backends that are registered one after the other, at first none or that of the supervisor daemon.
The next one is accepted exactly if no other answers to its name, and changes nothing if it is
refused. Those that were accepted follow in their order, their names are different, and a name finds
the backend that bears it. -/
theorem registers_of_initial (initial : Initial start) (offered : List (Backend σ)) :
    let bs := start.registerAll offered
    (∀ b, Registers bs b (bs.register b) (start.registerAll (offered ++ [b]))) ∧
    bs.names = start.names ++ (start.accepted offered).map (·.name) ∧
    (bs.toList.Pairwise fun b c => Text.equalFold b.name c.name = false) ∧
    ∀ b ∈ bs.toList, ∀ spelling, Text.equalFold b.name spelling = true →
      bs.lookup? spelling = some b := by
  intro bs
  have ordered : bs.Ordered := ordered_registerAll initial.ordered offered
  refine ⟨?_, ?_, ordered.pairwise_name, ?_⟩
  · intro b
    rw [registerAll_append]
    exact bs.registers b
  · rw [names, names, toList_registerAll, List.map_append]
  · intro b registered spelling same
    exact ordered.lookup?_of_spelling registered same

/-- The name of a backend may be the scheme of a later one and goes on finding the backend that bears
it. The scheme of a backend cannot be the name of a later one. -/
theorem registers_of_overlap :
    let first := Backend.idle "first" "second"
    let bs := Backends.empty.registerAll [first, .idle "third" "FIRST"]
    bs.lookup? "First" = some first ∧ ∀ bs', bs.register (.idle "Second" "x") ≠ .ok bs' := by
  intro first bs
  have listed : bs.toList = [first, .idle "third" "FIRST"] :=
    toList_registerAll_of_pairwise (by decide +kernel)
  have registered : first ∈ bs.toList := listed ▸ List.mem_cons_self
  obtain ⟨registers, -, -, lookup⟩ := registers_of_initial .empty [first, .idle "third" "FIRST"]
  refine ⟨lookup first registered "First" (by decide +kernel), ?_⟩
  intro bs' accepted
  have refused := registers (.idle "Second" "x")
  generalize Backends.empty.registerAll (_ ++ _) = after at refused
  rw [accepted] at refused
  cases refused with
  | accepted free => exact free first registered (.inr (by decide +kernel))

/-! ### What is found by scheme -/

theorem forUri?_eq_of_parse {u : Uri} (read : Uri.parse uri = .ok u) :
    bs.forUri? uri = bs.toList.find? fun b => decide (b.scheme = u.scheme) := by
  rw [forUri?, Uri.Reader.read_eq_parse, read]

theorem session_of_forUri? (found : bs.forUri? uri = some b) (flags : OpenFlags) :
    bs.session uri flags = b.session uri flags := by
  rw [session, found]

/-- An identifier of a registered scheme is opened by some backend with that scheme, which is the
given one or an earlier one. -/
theorem exists_forUri? {u : Uri} (split : bs.toList = earlier ++ b :: later)
    (read : Uri.parse uri = .ok u) (own : u.scheme = b.scheme) :
    ∃ c, bs.forUri? uri = some c ∧ (c = b ∨ c ∈ earlier) ∧ c.scheme = b.scheme := by
  rw [forUri?_eq_of_parse read, own, split, List.find?_append, List.find?_cons, decide_eq_true rfl]
  cases found : earlier.find? fun c => decide (c.scheme = b.scheme) with
  | none => exact ⟨b, rfl, .inl rfl, rfl⟩
  | some c =>
    have same : c.scheme = b.scheme := by simpa using List.find?_some found
    exact ⟨c, rfl, .inr (List.mem_of_find?_eq_some found), same⟩

/-- A registered backend is found by its scheme exactly if no earlier one answers to it, and opens the
identifiers of its scheme exactly if no earlier one has the same. Otherwise an earlier one opens
them. -/
theorem found_by_scheme_iff (initial : Initial start) {offered : List (Backend σ)}
    (split : (start.registerAll offered).toList = earlier ++ b :: later) :
    let bs := start.registerAll offered
    (bs.lookup? b.scheme = some b ↔ ∀ c ∈ earlier, ¬ c.AnswersTo b.scheme) ∧
    ∀ uri u, Uri.parse uri = .ok u → u.scheme = b.scheme →
      (bs.forUri? uri = some b ↔ ∀ c ∈ earlier, c.scheme ≠ b.scheme) ∧
      ∃ c, (c = b ∨ c ∈ earlier) ∧ c.scheme = b.scheme ∧ bs.forUri? uri = some c ∧
        ∀ flags, bs.session uri flags = c.session uri flags := by
  intro bs
  have ordered : bs.Ordered := ordered_registerAll initial.ordered offered
  refine ⟨ordered.lookup?_split_iff split (.inr (Text.equalFold_refl _)), ?_⟩
  intro uri u read own
  constructor
  · rw [forUri?_eq_of_parse read, split,
      find?_split_iff (decide_eq_true own.symm) (ordered.not_mem split), own]
    simp
  · obtain ⟨c, found, place, same⟩ := exists_forUri? split read own
    exact ⟨c, place, same, found, session_of_forUri? found⟩

/-- Two backends have one scheme. The identifiers of the scheme are opened by the first of them, which
is found by it as well. -/
theorem found_by_shared_scheme :
    let second := Backend.idle "second" "y"
    let bs := Backends.empty.registerAll [.idle "first" "x", second, .idle "third" "y"]
    bs.lookup? "y" = some second ∧ bs.forUri? "y:/" = some second := by
  intro second bs
  have listed : bs.toList = [.idle "first" "x"] ++ second :: [.idle "third" "y"] :=
    toList_registerAll_of_pairwise (by decide +kernel)
  obtain ⟨byScheme, byUri⟩ := found_by_scheme_iff .empty listed
  obtain ⟨u, read, own⟩ := Uri.exists_of_scheme "y:/" "y" (by decide +kernel)
  exact ⟨byScheme.2 (by decide +kernel), (byUri "y:/" u read own).1.2 (by decide +kernel)⟩

/-- A backend is accepted though an earlier one has its scheme. It is not found by it, and its
identifiers are opened by the earlier one. -/
theorem shadowed_by_scheme :
    let first := Backend.idle "first" "x"
    let second := Backend.idle "second" "x"
    let bs := Backends.empty.registerAll [first, second]
    second ∈ bs.toList ∧ Text.lowerAscii second.scheme = second.scheme ∧
      bs.lookup? second.scheme ≠ some second ∧
      ∃ u, Uri.parse "x:/" = .ok u ∧ u.scheme = second.scheme ∧ bs.forUri? "x:/" = some first ∧
        first.session "x:/" ⟨false, false⟩ ≠ second.session "x:/" ⟨false, false⟩ := by
  intro first second bs
  have listed : bs.toList = [first, second] := toList_registerAll_of_pairwise (by decide +kernel)
  obtain ⟨u, read, own⟩ := Uri.exists_of_scheme "x:/" "x" (by decide +kernel)
  refine ⟨by simp [listed], by decide +kernel, ?_, u, read, own, ?_, ?_⟩
  · intro found
    have named := congrArg (Option.map Backend.name) found
    rw [lookup?_eq, listed] at named
    exact absurd named (by decide +kernel)
  · rw [forUri?_eq_of_parse read, listed, own]
    rfl
  · intro same
    have refused := congrArg Opened.outcome same
    simp [first, second, Backend.idle, Opened.refused] at refused

end Backends

end Supervisor

import Supervisor.CommandLine.Outcome
import Supervisor.Proofs.Json
import Supervisor.Proofs.Text.Lossy
import Supervisor.SettingsForm

/-!
# Reading results back from their line

A result that is not shown on a terminal is one line. Whoever reads the line gets the result back: the
value is told by its text, and the result by its kind and by the names under which the value holds its
parts. No text that a daemon made up can end the line or pass for another part, because characters
that mean something in a line are escaped.

## Main definitions

* `Outcome.ofJson?` - the result that a value stands for
* `Outcome.ofLine?` - the result that a line stands for

## Main results

* `Outcome.ofJson?_toJson` - kind and parts are found again
* `Outcome.line_of_render` - a result is one line, and the line tells the result
-/

namespace Supervisor

namespace Json

variable {α : Type}

/-- The number that a value is. -/
def number? : Json → Option Int
  | .number n => some n
  | _ => none

/-- The number that a value is, as a count. -/
def count? (v : Json) : Option Nat := v.number?.map Int.toNat

/-- The entries of an array, each read as `entry` says. -/
def entries? (entry : Json → Option α) : Json → Option (List α)
  | .array vs => vs.mapM entry
  | _ => none

/-- What stands under a name, read as `read` says. -/
def at? (members : List (String × Json)) (name : String) (read : Json → Option α) : Option α :=
  (member? name members).bind read

end Json

open Json (number? count? entries? at?)
open Stored (text?)

/-- The number of a domain, or `null` if it has none. -/
def DomainRow.id? : Json → Option (Option Int32)
  | .number n => some (some (.ofInt n))
  | .null => some none
  | _ => none

/-- The row that a value stands for. -/
def DomainRow.ofJson? : Json → Option DomainRow
  | .object members => do
    return ⟨← at? members "name" text?, ← at? members "uuid" text?, ← at? members "id" id?⟩
  | _ => none

/-- The row that a value stands for. -/
def NetworkRow.ofJson? : Json → Option NetworkRow
  | .object members => do return ⟨← at? members "name" text?, ← at? members "uuid" text?⟩
  | _ => none

namespace Outcome

/-- The result of a kind that has its parts under their names. -/
def ofMembers? (kind : String) (members : List (String × Json)) : Option Outcome :=
  match kind with
  | "version" => do return .version (.ofInt (← at? members "version" number?))
  | "node" => do
    return .node
      { model := ← at? members "model" text?
        memory := .ofNat (← at? members "memory_kib" count?)
        cpus := .ofNat (← at? members "cpus" count?)
        mhz := .ofNat (← at? members "mhz" count?)
        nodes := .ofNat (← at? members "nodes" count?)
        sockets := .ofNat (← at? members "sockets" count?)
        cores := .ofNat (← at? members "cores" count?)
        threads := .ofNat (← at? members "threads" count?) }
  | "domains" => do return .domains (← at? members "domains" (entries? DomainRow.ofJson?))
  | "networks" => do return .networks (← at? members "networks" (entries? NetworkRow.ofJson?))
  | "domain" => do
    return .domain (← at? members "action" text?) (← at? members "domain" DomainRow.ofJson?)
  | "network" => do
    return .network (← at? members "action" text?) (← at? members "network" NetworkRow.ofJson?)
  | "status" => do
    return .status
      { name := ← at? members "name" text?
        state := ← at? members "state" text?
        maxMemory := .ofNat (← at? members "max_memory_kib" count?)
        memory := .ofNat (← at? members "memory_kib" count?)
        virtCpus := .ofNat (← at? members "virt_cpus" count?)
        cpuTime := .ofNat (← at? members "cpu_time_ns" count?) }
  | "document" => do return .document (← at? members "document" text?)
  | "bridge" => do return .bridge (← at? members "network" text?) (← at? members "interface" text?)
  | _ => none

/-- The result that a value stands for. -/
def ofJson? : Json → Option Outcome
  | .object members => do ofMembers? (← at? members "kind" text?) members
  | _ => none

/-- The result that the bytes of a line stand for. -/
def ofLine? (bytes : List UInt8) : Option Outcome := do
  let line := (← Text.ofUtf8? bytes).toList
  if line.getLast? = some '\n' then ofJson? (← Json.parse line.dropLast) else none

end Outcome

/-! ### Values -/

namespace Json

variable {α : Type} {members : List (String × Json)} {name : String} {v : Json}

/-- What stands under a name is the first member if no later one has that name. -/
theorem at?_cons (read : Json → Option α) (only : ∀ m ∈ members, m.1 ≠ name) :
    at? ((name, v) :: members) name read = read v := by
  have later : members.reverse.find? (·.1 = name) = none := by simpa using only
  simp [at?, member?, List.find?_append, later]

theorem count?_number (n : Nat) : count? (.number n) = some n := rfl

/-- Entries are read back if each of them is. -/
theorem entries?_map {write : α → Json} {read : Json → Option α}
    (back : ∀ x, read (write x) = some x) (xs : List α) :
    entries? read (.array (xs.map write)) = some xs := by
  rw [entries?]
  induction xs with
  | nil => rfl
  | cons x xs ih => simp [back, ih]

end Json

theorem DomainRow.ofJson?_toJson (r : DomainRow) : ofJson? r.toJson = some r := by
  obtain ⟨name, uuid, id⟩ := r
  cases id <;> simp [ofJson?, toJson, at?, Json.member?, id?, text?]

theorem NetworkRow.ofJson?_toJson (r : NetworkRow) : ofJson? r.toJson = some r := by
  simp [ofJson?, toJson, at?, Json.member?, text?]

namespace Outcome

/-- No part of a result stands under the name of the kind. -/
theorem ne_kind_of_mem (o : Outcome) : ∀ m ∈ o.members, m.1 ≠ "kind" := by
  cases o <;> simp [members]

/-- Kind and parts of a result are found again. -/
theorem ofJson?_toJson (o : Outcome) : ofJson? o.toJson = some o := by
  -- The kind stands first and no part has its name, so it decides which names are asked for.
  have tagged : ofJson? o.toJson = ofMembers? o.kind (("kind", .string o.kind) :: o.members) := by
    rw [toJson, ofJson?, Json.at?_cons text? o.ne_kind_of_mem]
    rfl
  rw [tagged]
  cases o with
  | version | node | status | document | bridge =>
    simp [ofMembers?, kind, members, at?, Json.member?, text?, number?, Json.count?_number]
  | domains rows =>
    simp [ofMembers?, kind, members, at?, Json.member?, Json.entries?_map DomainRow.ofJson?_toJson]
  | networks rows =>
    simp [ofMembers?, kind, members, at?, Json.member?, Json.entries?_map NetworkRow.ofJson?_toJson]
  | domain action row =>
    simp [ofMembers?, kind, members, at?, Json.member?, text?, DomainRow.ofJson?_toJson]
  | network action row =>
    simp [ofMembers?, kind, members, at?, Json.member?, text?, NetworkRow.ofJson?_toJson]

end Outcome

/-! ### Lines -/

/-- The bytes of a text without control characters are those of no control character either. -/
theorem Text.space_le_of_mem_utf8 {s : String} {b : UInt8} (printable : Json.Printable s.toList)
    (member : b ∈ utf8 s) : 0x20 ≤ b := by
  obtain ⟨c, inside, byte⟩ := List.mem_flatMap.1 member
  have visible := printable c inside
  rw [UInt8.le_iff_toNat_le]
  rcases eq_or_high_of_mem byte with same | high
  · exact same.symm ▸ visible
  · exact Nat.le_trans (by decide) high

namespace Outcome

/-- A result is one line, whose bytes but the last are those of no control character, and the line
tells the result with its kind and all its parts. -/
theorem line_of_render (o : Outcome) :
    (∃ line, Text.utf8 (o.render .json) = line ++ [0x0a] ∧ ∀ b ∈ line, 0x20 ≤ b) ∧
    ofLine? (Text.utf8 (o.render .json)) = some o ∧
    ∀ o', Text.utf8 (o'.render .json) = Text.utf8 (o.render .json) ↔ o' = o := by
  have read : ∀ o : Outcome, ofLine? (Text.utf8 (o.render .json)) = some o := by
    intro o
    have line : (o.render .json).toList = o.toJson.chars ++ ['\n'] := by
      rw [render, String.toList_append, Json.compact, String.toList_ofList]
      rfl
    have decoded : Text.ofUtf8? (Text.utf8 (o.render .json)) = some (o.render .json) :=
      Text.ofUtf8?_utf8 _
    simp [ofLine?, decoded, line, Json.parse_chars, ofJson?_toJson]
  refine ⟨⟨Text.utf8 o.toJson.compact, ?_, ?_⟩, read o, fun o' => ⟨?_, fun same => same ▸ rfl⟩⟩
  · exact Text.utf8_append _ _
  · intro b member
    refine Text.space_le_of_mem_utf8 ?_ member
    rw [Json.compact, String.toList_ofList]
    exact o.toJson.printable_chars
  · -- Two results with one line are both what is read from it.
    intro same
    have back := read o'
    rw [same, read o] at back
    exact (Option.some.inj back).symm

/-- A name with quotation marks, a backslash, a line break and what looks like another member does
not pass for anything else, and an absent number is not zero. -/
theorem line_of_render_hostile :
    let hostile : Outcome :=
      .domain "started" ⟨"a\",\"id\":0,\\\n\u0001é", "00000000-0000-0000-0000-000000000001", none⟩
    let plain : Outcome :=
      .domain "started" ⟨"a", "00000000-0000-0000-0000-000000000001", some 0⟩
    ofLine? (Text.utf8 (hostile.render .json)) = some hostile ∧
      Text.utf8 (plain.render .json) ≠ Text.utf8 (hostile.render .json) ∧
      ∃ line, Text.utf8 (hostile.render .json) = line ++ [0x0a] ∧ 0x0a ∉ line := by
  intro hostile plain
  obtain ⟨⟨line, whole, visible⟩, read, apart⟩ := line_of_render hostile
  refine ⟨read, fun same => ?_, line, whole, fun broken => ?_⟩
  · exact absurd ((apart plain).1 same) (by decide +kernel)
  · exact absurd (visible 0x0a broken) (by decide)

end Outcome

end Supervisor

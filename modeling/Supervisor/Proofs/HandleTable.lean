import Mathlib.Data.List.Nodup
import Supervisor.HandleTable

/-!
# Handle tables as maps

What matters about a table is which entry each identifier has. Handing out a handle and taking one
back change the entry of one identifier and no other, so both can be described by what is found
afterwards; the order of the entries does not show.

## Main results

* `find?_of_nodup` - how an entry is found among entries with different keys
* `HandleTable.Sound` - one entry for each live identifier, with at least one handle
* `HandleTable.acquire_spec`, `HandleTable.release_spec` - what is found afterwards
* `HandleTable.contains_iff_pos`, `HandleTable.exists_live` - what the table says about its size
-/

namespace Supervisor

/-- Of entries with different keys, the first one with the key of an entry is that entry. -/
theorem find?_of_nodup {α β : Type} [DecidableEq β] {key : α → β} {l : List α} {a : α}
    (nodup : (l.map key).Nodup) (member : a ∈ l) : l.find? (fun b => key b = key a) = some a := by
  cases found : l.find? fun b => key b = key a with
  | none => exact absurd (List.find?_eq_none.1 found a member) (by simp)
  | some b =>
    have same : key b = key a := by simpa using List.find?_some found
    rw [List.inj_on_of_nodup_map nodup (List.mem_of_find?_eq_some found) member same]

namespace HandleTable

/-- Every identifier has at most one entry, and every entry a handle that is out. -/
structure Sound (t : HandleTable) : Prop where
  distinct : (t.entries.map Entry.uuid).Nodup
  positive : ∀ e ∈ t.entries, 0 < e.references

theorem sound_empty (kind : ObjectKind) : (empty kind).Sound :=
  ⟨List.nodup_nil, by simp [empty]⟩

variable {t : HandleTable} {u v : Uuid} {e : Entry}

theorem uuid_of_find? (found : t.find? u = some e) : e.uuid = u := by
  simpa using List.find?_some found

theorem mem_of_find? (found : t.find? u = some e) : e ∈ t.entries := List.mem_of_find?_eq_some found

theorem references_of_find? (found : t.find? u = some e) : t.references u = e.references := by
  rw [references, found]
  rfl

theorem references_of_find?_none (absent : t.find? u = none) : t.references u = 0 := by
  rw [references, absent]
  rfl

/-- An identifier is live exactly if a handle is out for it. -/
theorem contains_iff_pos (sound : t.Sound) : t.contains u = true ↔ 0 < t.references u := by
  unfold contains
  cases found : t.find? u with
  | none => simp [references_of_find?_none found]
  | some e => simp [references_of_find? found, sound.positive e (mem_of_find? found)]

/-- The size of a table is the number of live identifiers. -/
theorem exists_live (sound : t.Sound) :
    ∃ live : List Uuid, live.Nodup ∧ live.length = t.size ∧
      ∀ u, u ∈ live ↔ t.contains u = true := by
  refine ⟨t.entries.map Entry.uuid, sound.distinct, by simp [size], fun u => ?_⟩
  simp [contains, find?]

/-- In a sound table every entry is found. -/
theorem find?_of_mem (sound : t.Sound) (member : e ∈ t.entries) : t.find? e.uuid = some e :=
  find?_of_nodup sound.distinct member

/-! ### Changing entries -/

/-- One handle more is out. -/
def Entry.more (e : Entry) : Entry := { e with references := e.references + 1 }

/-- One handle less is out. -/
def Entry.less (e : Entry) : Entry := { e with references := e.references - 1 }

/-- The table with the entry of one identifier changed. -/
def update (t : HandleTable) (u : Uuid) (f : Entry → Entry) : HandleTable :=
  { t with entries := t.entries.map fun e => if e.uuid = u then f e else e }

/-- The table with one entry more. -/
def insert (t : HandleTable) (e : Entry) : HandleTable := { t with entries := t.entries ++ [e] }

/-- The table without the entry of one identifier. -/
def remove (t : HandleTable) (u : Uuid) : HandleTable :=
  { t with entries := t.entries.filter (·.uuid ≠ u) }

theorem find?_update (f : Entry → Entry) (keeps : ∀ e, (f e).uuid = e.uuid) :
    (t.update u f).find? v = if v = u then (t.find? v).map f else t.find? v := by
  -- The change does not show in identifiers, so the search stops at the same entry as before.
  have same : ((fun e : Entry => decide (e.uuid = v)) ∘ fun e => if e.uuid = u then f e else e) =
      fun e => decide (e.uuid = v) := by
    funext e
    by_cases here : e.uuid = u <;> simp [here, keeps]
  simp only [update, find?, List.find?_map, same]
  cases found : t.entries.find? fun e => decide (e.uuid = v) with
  | none => simp
  | some e =>
    have uuid : e.uuid = v := uuid_of_find? found
    by_cases here : v = u <;> simp [uuid, here]

theorem find?_insert (absent : t.find? e.uuid = none) :
    (t.insert e).find? v = if v = e.uuid then some e else t.find? v := by
  rw [find?, insert, List.find?_append, ← find?]
  by_cases here : v = e.uuid
  · simp [here, absent]
  · simp [here, Ne.symm here]

theorem find?_remove : (t.remove u).find? v = if v = u then none else t.find? v := by
  rw [find?, remove, List.find?_filter]
  by_cases here : v = u
  · simp [here]
  · -- An entry that is wanted is not one that was removed.
    have same : (fun e : Entry =>
        decide (decide (e.uuid ≠ u) = true ∧ decide (e.uuid = v) = true)) =
        fun e => decide (e.uuid = v) := by
      funext e
      by_cases wanted : e.uuid = v <;> simp [wanted, here]
    rw [if_neg here, same, ← find?]

/-- A table stays sound if the changed entry keeps its identifier and a handle. -/
theorem Sound.update (sound : t.Sound) (f : Entry → Entry) (keeps : ∀ e, (f e).uuid = e.uuid)
    (live : ∀ e, t.find? u = some e → 0 < (f e).references) : (t.update u f).Sound := by
  have uuids : (t.update u f).entries.map Entry.uuid = t.entries.map Entry.uuid := by
    rw [HandleTable.update, List.map_map]
    refine List.map_congr_left fun e _ => ?_
    by_cases here : e.uuid = u <;> simp [here, keeps]
  refine ⟨uuids ▸ sound.distinct, fun e member => ?_⟩
  obtain ⟨old, present, rfl⟩ := List.mem_map.1 member
  split
  · next here => exact live old (here ▸ find?_of_mem sound present)
  · exact sound.positive old present

theorem Sound.insert (sound : t.Sound) (absent : t.find? e.uuid = none) (live : 0 < e.references) :
    (t.insert e).Sound := by
  constructor
  · have fresh : e.uuid ∉ t.entries.map Entry.uuid := by
      intro member
      obtain ⟨old, present, same⟩ := List.mem_map.1 member
      rw [← same, find?_of_mem sound present] at absent
      cases absent
    simp only [HandleTable.insert, List.map_append, List.map_cons, List.map_nil]
    exact List.nodup_append.2 ⟨sound.distinct, by simp, by simpa using fresh⟩
  · intro old member
    rcases List.mem_append.1 member with earlier | last
    · exact sound.positive old earlier
    · rwa [List.mem_singleton.1 last]

theorem Sound.remove (sound : t.Sound) (u : Uuid) : (t.remove u).Sound :=
  ⟨sound.distinct.sublist (List.filter_sublist.map _),
    fun e member => sound.positive e (List.mem_filter.1 member).1⟩

/-! ### Handing out and taking back -/

/-- A handle is refused if its identifier is live under another name. Otherwise one more is out. -/
theorem acquire_spec (t : HandleTable) (u : Uuid) (name : String) :
    (∃ e, t.find? u = some e ∧ e.name ≠ name ∧
      t.acquire u name = .error (.nameConflict t.kind u e.name name)) ∨
    ∃ t', t.acquire u name = .ok (t.references u + 1, t') ∧ t'.kind = t.kind ∧
      (t.Sound → t'.Sound) ∧ (∀ e, t.find? u = some e → e.name = name) ∧
      ∀ v, t'.find? v = if v = u then some ⟨u, name, t.references u + 1⟩ else t.find? v := by
  unfold acquire
  cases found : t.find? u with
  | none =>
    rw [references_of_find?_none found]
    exact .inr ⟨t.insert ⟨u, name, 1⟩, rfl, rfl, fun sound => sound.insert found Nat.one_pos,
      by simp, fun v => find?_insert found⟩
  | some e =>
    rw [references_of_find? found]
    by_cases own : e.name = name
    · simp only [own, if_true]
      refine .inr ⟨t.update u Entry.more, rfl, rfl,
        fun sound => sound.update _ (fun _ => rfl) fun _ _ => Nat.succ_pos _, ?_, fun v => ?_⟩
      · rintro e' ⟨⟩
        exact own
      · rw [find?_update Entry.more fun _ => rfl]
        split
        · next here =>
          obtain rfl := uuid_of_find? found
          rw [here, found, ← own]
          rfl
        · rfl
    · simp only [own, if_false]
      exact .inl ⟨e, rfl, own, rfl⟩

/-- A handle cannot be taken back if its identifier is not live. Otherwise one less is out, and the
entry goes with the last one. -/
theorem release_spec (t : HandleTable) (u : Uuid) :
    (t.find? u = none ∧ t.release u = .error (.unknown t.kind u)) ∨
    ∃ e n t', t.find? u = some e ∧ t.release u = .ok (n, t') ∧ t'.kind = t.kind ∧
      (t.Sound → t'.Sound) ∧ ∀ v, t'.find? v = if v = u then
        if e.references ≤ 1 then none else some e.less
        else t.find? v := by
  unfold release
  cases found : t.find? u with
  | none => exact .inl ⟨rfl, rfl⟩
  | some e =>
    by_cases last : e.references ≤ 1
    · refine .inr ⟨e, 0, t.remove u, rfl, if_pos last, rfl, fun sound => sound.remove u,
        fun v => ?_⟩
      rw [if_pos last]
      exact find?_remove
    · refine .inr ⟨e, _, t.update u Entry.less, rfl,
        if_neg last, rfl, fun sound => sound.update _ (fun _ => rfl) fun e' same => ?_,
        fun v => ?_⟩
      · cases found.symm.trans same
        exact Nat.sub_pos_of_lt (Nat.not_le.1 last)
      · rw [if_neg last]
        rw [find?_update Entry.less fun _ => rfl]
        split
        · next here =>
          rw [here, found]
          rfl
        · rfl

end HandleTable

end Supervisor

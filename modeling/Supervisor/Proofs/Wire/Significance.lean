import Supervisor.Proofs.Wire.Decoding

/-!
# Which bytes of a frame count

A payload buffer holds more than a value: padding between the fields, a last byte of every text that
is taken for its terminator, whatever follows the first NUL of a text, the slots of a listing that
are not in use, and all that lies behind the structure. None of it is looked at. Two frames with one
tag that agree on the bytes that count decode alike, whatever else a peer put into them and however
many bytes it declared.

## Main definitions

* `Field.Significant` - the bytes of a field that decide what it holds
* `Layout.inUse`, `Layout.Significant` - the fields of a payload that are read, and its bytes that
  count
* `Frame.AgreesOn` - two frames with one tag that agree on these bytes

## Main results

* `Field.decode_congr` - a field holds what its significant bytes say
* `Layout.read_congr` - so does a payload
* `Frame.decode_of_agreesOn` - frames that agree on what counts decode alike
-/

namespace Supervisor

namespace Text

/-- What stands before the first NUL is the same in two byte sequences exactly if they do not differ
up to there, the NUL itself included. -/
theorem takeWhile_ne_nul_eq_iff {xs ys : List UInt8} (length : xs.length = ys.length) :
    xs.takeWhile (· ≠ 0) = ys.takeWhile (· ≠ 0) ↔
      ∀ k < xs.length, (∀ j < k, xs[j]? ≠ some 0) → xs[k]? = ys[k]? := by
  induction xs generalizing ys with
  | nil => simp [List.length_eq_zero_iff.1 length.symm]
  | cons x xs ih =>
    cases ys with
    | nil => cases length
    | cons y ys =>
      have rest := ih (Nat.succ.inj length)
      -- Behind a NUL nothing is compared, behind any other byte what the rest has before its NUL.
      by_cases nul : x = 0
      · constructor
        · rintro same (_ | k) lt before
          · by_cases nul' : y = 0
            · simp [nul, nul']
            · simp [nul, nul'] at same
          · exact absurd (by simp [nul]) (before 0 (Nat.succ_pos k))
        · intro agree
          have head : x = y := by simpa using agree 0 (Nat.succ_pos _) nofun
          simp [← head, nul]
      · constructor
        · intro same
          have first : y = x ∧ xs.takeWhile (· ≠ 0) = ys.takeWhile (· ≠ 0) := by
            by_cases nul' : y = 0
            · simp [nul, nul'] at same
            · simpa [nul, nul', eq_comm] using same
          rintro (_ | k) lt before
          · simp [first.1]
          · have next := rest.1 first.2 k (Nat.lt_of_succ_lt_succ lt) fun j lt' => by
              simpa using before (j + 1) (Nat.succ_lt_succ lt')
            simpa using next
        · intro agree
          have head : x = y := by simpa using agree 0 (Nat.succ_pos _) nofun
          have tail := rest.2 fun k lt before => by
            have next := agree (k + 1) (Nat.succ_lt_succ lt) fun j lt' => by
              cases j with
              | zero => simpa using nul
              | succ j => simpa using before j (Nat.lt_of_succ_lt_succ lt')
            simpa using next
          simpa [← head, nul] using tail

/-- The last byte of a field and all that follows its first NUL have no part in its text, and
nothing else is left out. -/
theorem beforeTerminator_eq_iff {bs bs' : List UInt8} (length : bs.length = bs'.length) :
    beforeTerminator bs = beforeTerminator bs' ↔
      ∀ k < bs.length - 1, (∀ j < k, bs[j]? ≠ some 0) → bs[k]? = bs'[k]? := by
  unfold beforeTerminator
  rw [← length, takeWhile_ne_nul_eq_iff (by simp [length]), List.length_take,
    Nat.min_eq_left (Nat.sub_le _ _)]
  -- Before the last byte, the fields are what is left of them without it.
  refine forall₂_congr fun k lt => ?_
  have prior : ∀ j < k, (bs.take (bs.length - 1))[j]? = bs[j]? := fun j lt' =>
    List.getElem?_take_of_lt (Nat.lt_trans lt' lt)
  rw [List.getElem?_take_of_lt lt, List.getElem?_take_of_lt lt]
  exact imp_congr (forall₂_congr fun j lt' => by rw [prior j lt']) Iff.rfl

end Text

namespace Wire

namespace Field

/-- The bytes of a field that starts at `start`. -/
def slice (f : Field) (bytes : List UInt8) (start : Nat) : List UInt8 :=
  (bytes.drop start).take f.size

/-- Whether byte `k` of a field counts whose bytes are given. Of a number or an identifier all bytes
count. Of a text those do that stand neither in the place of the terminator nor behind a NUL; the
first NUL itself counts, because it says where the text ends. -/
def Significant : Field → (bs : List UInt8) → (k : Nat) → Prop
  | text _ capacity, bs, k => k < capacity - 1 ∧ ∀ j < k, bs[j]? ≠ some 0
  | gap _, _, _ => False
  | f, _, k => k < f.size

variable {f : Field} {bs bs' : List UInt8}

/-- What a field holds is decided by its bytes that count. -/
theorem decode_congr (length : bs.length = f.size) (length' : bs'.length = f.size)
    (agree : ∀ k, f.Significant bs k → bs[k]? = bs'[k]?) : f.decode bs = f.decode bs' := by
  have same : bs.length = bs'.length := length.trans length'.symm
  have whole : (∀ k < f.size, bs[k]? = bs'[k]?) → bs = bs' := fun all => by
    refine List.ext_getElem? fun k => ?_
    by_cases inside : k < f.size
    · exact all k inside
    · rw [List.getElem?_eq_none (by omega), List.getElem?_eq_none (by omega)]
  cases f with
  | text label capacity =>
    refine congrArg Text.lossy ((Text.beforeTerminator_eq_iff same).2 fun k lt noNul =>
      agree k ⟨?_, noNul⟩)
    rw [length] at lt
    exact lt
  | gap => rfl
  | _ => rw [whole agree]

/-- Two buffers agree on the bytes that count of the fields of a list that starts at `start`. -/
def Agree (bytes bytes' : List UInt8) (start : Nat) (fs : List Field) : Prop :=
  ∀ p ∈ fs.zip (offsets start fs), ∀ k, p.1.Significant (p.1.slice bytes p.2) k →
    bytes[p.2 + k]? = bytes'[p.2 + k]?

variable {bytes bytes' : List UInt8} {start : Nat} {fs : List Field}

theorem agree_cons_iff :
    Agree bytes bytes' start (f :: fs) ↔
      (∀ k, f.Significant (f.slice bytes (roundUp start f.alignment)) k →
        bytes[roundUp start f.alignment + k]? = bytes'[roundUp start f.alignment + k]?) ∧
      Agree bytes bytes' (roundUp start f.alignment + f.size) fs := by
  simp only [Agree, offsets, List.zip_cons_cons, List.forall_mem_cons]

/-- Only bytes within a field count. -/
theorem Significant.lt_size {k : Nat} (counts : f.Significant bs k) : k < f.size := by
  cases f with
  | text label capacity => exact Nat.lt_of_lt_of_le counts.1 (Nat.sub_le _ _)
  | gap => cases counts
  | _ => exact counts

/-- No byte of a text counts that stands behind a NUL. -/
theorem Significant.le_of_nul {label : String} {capacity n k : Nat} {bytes : List UInt8}
    {start : Nat} (counts : (text label capacity).Significant
      ((text label capacity).slice bytes start) k) (inside : n < capacity)
    (nul : bytes[start + n]? = some 0) : k ≤ n := by
  refine Nat.not_lt.1 fun lt => counts.2 n lt ?_
  exact (List.getElem?_take_of_lt inside).trans (List.getElem?_drop.trans nul)

/-- A field that ends within both buffers holds the same in both if they agree on what counts. -/
theorem decode_slice_congr (inside : start + f.size ≤ bytes.length)
    (length : bytes'.length = bytes.length)
    (agree : ∀ k, f.Significant (f.slice bytes start) k → bytes[start + k]? = bytes'[start + k]?) :
    f.decode (f.slice bytes start) = f.decode (f.slice bytes' start) := by
  have size : ∀ b : List UInt8, start + f.size ≤ b.length → (f.slice b start).length = f.size := by
    intro b le
    simp only [slice, List.length_take, List.length_drop]
    omega
  refine decode_congr (size bytes inside) (size bytes' (length ▸ inside)) fun k counts => ?_
  have lt := counts.lt_size
  simp only [slice, List.getElem?_take_of_lt lt, List.getElem?_drop]
  exact agree k counts

end Field

/-! ### Two readers -/

namespace Reader

variable (op : Operation) {f : Field} {fs : List Field} {bytes bytes' : List UInt8} {start : Nat}

/-- Two readers that agree on what counts read the same fields and stand at the same place then. -/
theorem takeAll_congr (room : Field.finish start fs ≤ bytes.length)
    (length : bytes'.length = bytes.length) (agree : Field.Agree bytes bytes' start fs) :
    ∃ vs stop, (⟨bytes, start⟩ : Reader).takeAll op fs = .ok (vs, ⟨bytes, stop⟩) ∧
      (⟨bytes', start⟩ : Reader).takeAll op fs = .ok (vs, ⟨bytes', stop⟩) := by
  -- Where a field stands does not depend on what the buffers hold, so both readers go on from the
  -- same place behind it.
  induction fs generalizing start with
  | nil => exact ⟨(), start, rfl, rfl⟩
  | cons f fs ih =>
    obtain ⟨here, behind⟩ := Field.agree_cons_iff.1 agree
    have inside := Nat.le_trans (Field.le_finish _ fs) room
    have value := Field.decode_slice_congr inside length here
    obtain ⟨vs, stop, others, others'⟩ := ih room behind
    refine ⟨(_, vs), stop, bind_eq_ok_iff.2 ⟨_, take_of_room op (r := ⟨bytes, start⟩) inside,
      bind_eq_ok_iff.2 ⟨_, others, rfl⟩⟩, bind_eq_ok_iff.2 ⟨_,
        take_of_room op (r := ⟨bytes', start⟩) (length.symm ▸ inside),
      bind_eq_ok_iff.2 ⟨_, others', ?_⟩⟩⟩
    exact congrArg (fun v => Except.ok ((v, vs), (⟨bytes', stop⟩ : Reader))) value.symm

/-- So do they read several fields of one kind. -/
theorem takeEach_congr {count : Nat}
    (room : Field.finish start (List.replicate count f) ≤ bytes.length)
    (length : bytes'.length = bytes.length)
    (agree : Field.Agree bytes bytes' start (List.replicate count f)) :
    ∃ vs stop, (⟨bytes, start⟩ : Reader).takeEach op f count = .ok (vs, ⟨bytes, stop⟩) ∧
      (⟨bytes', start⟩ : Reader).takeEach op f count = .ok (vs, ⟨bytes', stop⟩) := by
  induction count generalizing start with
  | zero => exact ⟨[], start, rfl, rfl⟩
  | succ count ih =>
    obtain ⟨here, behind⟩ := Field.agree_cons_iff.1 agree
    have inside := Nat.le_trans (Field.le_finish _ (List.replicate count f)) room
    have value := Field.decode_slice_congr inside length here
    obtain ⟨vs, stop, others, others'⟩ := ih room behind
    refine ⟨_ :: vs, stop, bind_eq_ok_iff.2 ⟨_, take_of_room op (r := ⟨bytes, start⟩) inside,
      bind_eq_ok_iff.2 ⟨_, others, rfl⟩⟩, bind_eq_ok_iff.2 ⟨_,
        take_of_room op (r := ⟨bytes', start⟩) (length.symm ▸ inside),
      bind_eq_ok_iff.2 ⟨_, others', ?_⟩⟩⟩
    exact congrArg (fun v => Except.ok (v :: vs, (⟨bytes', stop⟩ : Reader))) value.symm

end Reader

/-! ### Payloads -/

namespace Layout

variable (op : Operation) {l : Layout} {bytes bytes' : List UInt8}

/-- The fields of a payload that are read. Of a listing these are its count and as many entries as
that says, or none if no listing has such a count. -/
def inUse (bytes : List UInt8) : Layout → List Field
  | record fs => fs
  | listing _ entry =>
    .int32 :: if IsCount (declaredCount bytes) then
      List.replicate (declaredCount bytes).toInt.toNat entry else []

/-- Whether byte `i` of a payload counts. -/
def Significant (l : Layout) (bytes : List UInt8) (i : Nat) : Prop :=
  ∃ p ∈ (l.inUse bytes).zip (Field.offsets 0 (l.inUse bytes)), ∃ k, i = p.2 + k ∧
    p.1.Significant (p.1.slice bytes p.2) k

theorem agree_of_significant (agree : ∀ i, l.Significant bytes i → bytes[i]? = bytes'[i]?) :
    Field.Agree bytes bytes' 0 (l.inUse bytes) :=
  fun p placed k counts => agree (p.2 + k) ⟨p, placed, k, rfl, counts⟩

/-- Behind a count that a listing can have, its entries are what is read. -/
theorem read_listing_of_isCount (label : String) {entry : Field} {vs : List entry.Value}
    {r : Reader} (full : bytes.length = payloadCapacity) (counts : IsCount (declaredCount bytes))
    (entries : (⟨bytes, Field.int32.size⟩ : Reader).takeEach op entry
      (declaredCount bytes).toInt.toNat = .ok (vs, r)) :
    (listing label entry).read op bytes = .ok vs := by
  refine bind_eq_ok_iff.2 ⟨_, take_count op full, ?_⟩
  exact (if_pos counts).trans (bind_eq_ok_iff.2 ⟨_, entries, rfl⟩)

/-- What is read from a full buffer is decided by its bytes that count. -/
theorem read_congr (regular : l.Regular) (full : bytes.length = payloadCapacity)
    (full' : bytes'.length = payloadCapacity)
    (agree : ∀ i, l.Significant bytes i → bytes[i]? = bytes'[i]?) :
    l.read op bytes = l.read op bytes' := by
  have length : bytes'.length = bytes.length := full'.trans full.symm
  have agree := agree_of_significant agree
  cases l with
  | record fs =>
    obtain ⟨vs, stop, fields, fields'⟩ :=
      Reader.takeAll_congr op (full.symm ▸ regular.finish_le) length agree
    have read : (record fs).read op bytes = .ok vs := bind_eq_ok_iff.2 ⟨_, fields, rfl⟩
    have read' : (record fs).read op bytes' = .ok vs := bind_eq_ok_iff.2 ⟨_, fields', rfl⟩
    rw [read, read']
  | listing label entry =>
    obtain ⟨here, behind⟩ := Field.agree_cons_iff.1 agree
    -- The buffers agree on the count, so both readers go on in the same way.
    have inside : 0 + Field.int32.size ≤ bytes.length := by
      rw [full]
      decide
    have count : declaredCount bytes = declaredCount bytes' :=
      Field.decode_slice_congr inside length here
    by_cases counts : IsCount (declaredCount bytes)
    · rw [if_pos counts] at behind
      have few : (declaredCount bytes).toInt.toNat ≤ listingCapacity := by
        have le := counts.2
        unfold listingCapacity
        omega
      have room : Field.finish Field.int32.size
          (List.replicate (declaredCount bytes).toInt.toNat entry) ≤ bytes.length := by
        rw [Field.finish_replicate (regular.entries label entry rfl), full]
        exact regular.entries_le few
      obtain ⟨vs, stop, entries, entries'⟩ := Reader.takeEach_congr op room length behind
      have read := read_listing_of_isCount op label full counts entries
      have read' := read_listing_of_isCount op label full' (count ▸ counts) (count ▸ entries')
      rw [read, read']
    · rw [read_listing_of_not_isCount op full counts,
        read_listing_of_not_isCount op full' (count ▸ counts), count]

end Layout

/-! ### Frames -/

namespace Frame

/-- Two frames have one tag and agree on the bytes that count in the structure that it stands for.
They may differ in everything else, also in how many bytes they declare. -/
structure AgreesOn (layout : Operation → Layout) (f g : Frame) : Prop where
  tag : f.header.tag = g.header.tag
  bytes : ∀ op, f.operation? = some op → ∀ i, (layout op).Significant f.payload i →
    f.payload[i]? = g.payload[i]?

variable {layout : Operation → Layout} {f g : Frame}

theorem AgreesOn.operation? (agrees : f.AgreesOn layout g) : f.operation? = g.operation? := by
  unfold Frame.operation? Header.operation?
  rw [agrees.tag]

theorem decode_reply_congr (agrees : f.AgreesOn (fun op => op.answers.layout) g) :
    Reply.decode f = Reply.decode g := by
  rw [Reply.decode_eq, Reply.decode_eq]
  rw [← agrees.operation?, ← agrees.tag]
  cases known : f.operation? with
  | none => rfl
  | some op =>
    have payload := Layout.read_congr op op.answers.regular f.payload_length g.payload_length
      (agrees.bytes op known)
    simp only [payload]

theorem decode_request_congr (agrees : f.AgreesOn (fun op => .record op.arguments) g) :
    Request.decode f = Request.decode g := by
  rw [Request.decode_eq, Request.decode_eq]
  rw [← agrees.operation?, ← agrees.tag]
  cases known : f.operation? with
  | none => rfl
  | some op =>
    have room : Field.finish 0 op.arguments ≤ f.payload.length :=
      f.payload_length.symm ▸ (Request.regular_arguments op).finish_le
    obtain ⟨vs, stop, read, read'⟩ := Reader.takeAll_congr op room
      (g.payload_length.trans f.payload_length.symm)
      (Layout.agree_of_significant (l := .record op.arguments) (agrees.bytes op known))
    simp only [Reader.start, read, read']
    rfl

/-- Frames with one tag that agree on the bytes that count hold the same reply, or are refused for
the same reason, and likewise for requests. -/
theorem decode_of_agreesOn (f g : Frame) :
    (f.AgreesOn (fun op => op.answers.layout) g → Reply.decode f = Reply.decode g) ∧
      (f.AgreesOn (fun op => .record op.arguments) g → Request.decode f = Request.decode g) :=
  ⟨decode_reply_congr, decode_request_congr⟩

theorem decode_of_agreesOn_created :
    ∃ f g : Frame,
      forHeader ⟨5, 23⟩ ([0x61] ++ List.replicate 19 0 ++ [0x62, 0, 0x78]) = .ok f ∧
      forHeader ⟨5, 80⟩ ([0x61] ++ List.replicate 19 0 ++ [0x62, 0] ++ List.replicate 58 0xFF) =
        .ok g ∧
      f.payload ≠ g.payload ∧ Reply.decode f = Reply.decode g ∧
      Request.decode f = Request.decode g := by
  obtain ⟨f, made, header, payload⟩ := forHeader_of_le ⟨5, 23⟩
    ([0x61] ++ List.replicate 19 0 ++ [0x62, 0, 0x78]) (by decide) rfl
  obtain ⟨g, made', header', payload'⟩ := forHeader_of_le ⟨5, 80⟩
    ([0x61] ++ List.replicate 19 0 ++ [0x62, 0] ++ List.replicate 58 0xFF) (by decide) rfl
  have tag : f.header.tag = g.header.tag := by rw [header, header']
  have known : ∀ op, f.operation? = some op → op = .createDomain := fun op known => by
    rw [Frame.operation?, header] at known
    exact (Option.some.inj known).symm
  -- The name in the answer ends before byte 21, and from byte 22 on the frames differ.
  have alike : ∀ i ≤ 21, f.payload[i]? = g.payload[i]? := by
    rw [payload, payload']
    decide +kernel
  have second : f.payload[1]? = some 0 ∧ f.payload[21]? = some 0 := by
    rw [payload]
    decide +kernel
  have differ : f.payload[22]? ≠ g.payload[22]? := by
    rw [payload, payload']
    decide +kernel
  have replies : f.AgreesOn (fun op => op.answers.layout) g := by
    refine ⟨tag, fun op is i counts => alike i ?_⟩
    cases known op is
    obtain ⟨p, placed, k, rfl, counts⟩ := counts
    have place : p ∈ [(.int32, 0), (.uuid, 4), (Reply.nameField, 20)] := placed
    simp only [List.mem_cons, List.not_mem_nil, or_false] at place
    obtain rfl | rfl | rfl := place
    · have lt : k < 4 := counts.lt_size
      exact Nat.le_trans (Nat.add_le_add_left (Nat.le_of_lt lt) 0) (by decide)
    · have lt : k < 16 := counts.lt_size
      exact Nat.le_trans (Nat.add_le_add_left (Nat.le_of_lt lt) 4) (by decide)
    · have le : k ≤ 1 := counts.le_of_nul (by decide) second.2
      exact Nat.add_le_add_left le 20
  have requests : f.AgreesOn (fun op => .record op.arguments) g := by
    refine ⟨tag, fun op is i counts => alike i ?_⟩
    cases known op is
    obtain ⟨p, placed, k, rfl, counts⟩ := counts
    cases List.mem_singleton.1 (show p ∈ [(.descriptor, 0)] from placed)
    have le : k ≤ 1 := counts.le_of_nul (by decide) second.1
    exact Nat.le_trans (Nat.add_le_add_left le 0) (by decide)
  obtain ⟨reply, request⟩ := decode_of_agreesOn f g
  exact ⟨f, g, made, made', fun same => differ (by rw [same]), reply replies, request requests⟩

end Frame

end Wire

end Supervisor

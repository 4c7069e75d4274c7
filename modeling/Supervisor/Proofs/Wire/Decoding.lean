import Supervisor.Proofs.Wire.Encoding

/-!
# Decoding what nobody vouches for

The body of a frame may hold anything, but the buffer behind it is always large enough for every
structure, so the reader never runs past it. What remains to go wrong is known exactly: no operation
has the tag, a listing declares a number of entries that it cannot have, or a request is one that
nobody makes.

## Main definitions

* `Operation.lists?` - the operations that are answered by a listing, with its words
* `Reply.Garbled` - the frames that hold no reply
* `Frame.Decoded` - what decoding makes of a frame

## Main results

* `Layout.read_eq_error_iff`, `Layout.listed_of_read` - reading from a full buffer
* `Reply.decode_eq_error_iff`, `Request.decode_eq_error_iff` - exact failures
* `Frame.decoding_of_forHeader` - decoding any frame that can be received
-/

namespace Supervisor.Wire

/-- The number in the first four bytes of a payload, where a listing declares how many entries it
has. -/
def declaredCount (bytes : List UInt8) : Int32 := Field.decode .int32 (bytes.take Field.int32.size)

/-- The number that a frame declares if it holds a listing. -/
def Frame.count (f : Frame) : Int32 := declaredCount f.payload

/-- Whether a listing can have so many entries. -/
def IsCount (n : Int32) : Prop := 0 ≤ n.toInt ∧ n.toInt ≤ 100

instance (n : Int32) : Decidable (IsCount n) := inferInstanceAs (Decidable (_ ∧ _))

theorem not_isCount_iff {n : Int32} : ¬ IsCount n ↔ n.toInt < 0 ∨ 100 < n.toInt := by
  unfold IsCount
  omega

/-! ### Payloads -/

namespace Layout

variable (op : Operation) {l : Layout} {bytes : List UInt8} {e : Error} {label : String}

/-- The words for what a payload lists, if it is a listing. -/
def label? : Layout → Option String
  | record _ => none
  | listing label _ => some label

theorem exists_read_record {fs : List Field} (regular : (record fs).Regular)
    (full : bytes.length = payloadCapacity) : ∃ vs, (record fs).read op bytes = .ok vs := by
  have room : Field.finish (Reader.start bytes).position fs ≤ (Reader.start bytes).bytes.length :=
    full.symm ▸ regular.finish_le
  obtain ⟨vs, read⟩ := Reader.takeAll_of_room op room
  exact ⟨vs, bind_eq_ok_iff.2 ⟨_, read, rfl⟩⟩

theorem take_count (full : bytes.length = payloadCapacity) :
    (Reader.start bytes).take op .int32 =
      .ok (declaredCount bytes, ⟨bytes, Field.int32.size⟩) := by
  -- The reader starts at the front, where every field may stand.
  have start : Field.roundUp (Reader.start bytes).position Field.int32.alignment = 0 :=
    Field.roundUp_of_dvd Field.int32.alignment_pos (Nat.dvd_zero _)
  have small : Field.int32.size ≤ bytes.length := by
    rw [full]
    decide
  have inside : Field.roundUp (Reader.start bytes).position Field.int32.alignment +
      Field.int32.size ≤ (Reader.start bytes).bytes.length := by
    rw [start, Nat.zero_add]
    exact small
  have taken := Reader.take_of_room op inside
  rw [start, Nat.zero_add] at taken
  exact taken

/-- A count that a listing can have is followed by as many entries. -/
theorem exists_read_listing {entry : Field} (regular : (listing label entry).Regular)
    (full : bytes.length = payloadCapacity) (count : IsCount (declaredCount bytes)) :
    ∃ vs : List entry.Value, (vs.length : Int) = (declaredCount bytes).toInt ∧
      (listing label entry).read op bytes = .ok vs := by
  obtain ⟨nonneg, le⟩ := count
  have few : (declaredCount bytes).toInt.toNat ≤ listingCapacity := by
    unfold listingCapacity
    omega
  have room : Field.finish (⟨bytes, Field.int32.size⟩ : Reader).position
      (List.replicate (declaredCount bytes).toInt.toNat entry) ≤
        (⟨bytes, Field.int32.size⟩ : Reader).bytes.length := by
    rw [Field.finish_replicate (regular.entries label entry rfl), full]
    exact regular.entries_le few
  obtain ⟨vs, length, entries⟩ := Reader.takeEach_of_room op room
  refine ⟨vs, by omega, bind_eq_ok_iff.2 ⟨_, take_count op full, ?_⟩⟩
  have inRange : 0 ≤ (declaredCount bytes).toInt ∧
      (declaredCount bytes).toInt ≤ listingCapacity := ⟨nonneg, le⟩
  simp only [inRange, and_self, if_true]
  exact bind_eq_ok_iff.2 ⟨_, entries, rfl⟩

/-- A count that no listing can have is refused. -/
theorem read_listing_of_not_isCount {entry : Field} (full : bytes.length = payloadCapacity)
    (wrong : ¬ IsCount (declaredCount bytes)) :
    (listing label entry).read op bytes =
      .error (.countOutOfRange label (declaredCount bytes) listingCapacity) := by
  refine bind_eq_error_iff.2 (.inr ⟨_, take_count op full, ?_⟩)
  exact if_neg wrong

/-- A full buffer holds every structure, so that only the count of a listing can be wrong. -/
theorem read_eq_error_iff (regular : l.Regular) (full : bytes.length = payloadCapacity) :
    l.read op bytes = .error e ↔ ∃ label, l.label? = some label ∧ ¬ IsCount (declaredCount bytes) ∧
      e = .countOutOfRange label (declaredCount bytes) listingCapacity := by
  cases l with
  | record fs =>
    obtain ⟨vs, read⟩ := exists_read_record op regular full
    simp [read, label?]
  | listing label entry =>
    by_cases count : IsCount (declaredCount bytes)
    · obtain ⟨vs, -, read⟩ := exists_read_listing op regular full count
      simp [read, count]
    · simp [read_listing_of_not_isCount op full count, label?, count, eq_comm]

/-- What was read from a full buffer lists as many entries as were declared. -/
theorem listed_of_read {v : l.Value} (regular : l.Regular) (full : bytes.length = payloadCapacity)
    (read : l.read op bytes = .ok v) (lists : l.label? = some label) :
    (l.listed v : Int) = (declaredCount bytes).toInt := by
  cases l with
  | record fs => cases lists
  | listing label entry =>
    by_cases count : IsCount (declaredCount bytes)
    · obtain ⟨vs, length, read'⟩ := exists_read_listing op regular full count
      cases read.symm.trans read'
      exact length
    · cases read.symm.trans (read_listing_of_not_isCount op full count)

end Layout

/-! ### Replies -/

/-- The words for what an operation lists, if it is answered by a listing. -/
def Operation.lists? : Operation → Option String
  | .listDomains => some "domain ids"
  | .listDefinedDomains => some "defined domains"
  | .listNetworks => some "networks"
  | .listDefinedNetworks => some "defined networks"
  | _ => none

theorem Operation.label?_answers (op : Operation) : op.answers.layout.label? = op.lists? := by
  cases op <;> rfl

/-- A frame whose tag is one of an operation holds that operation. -/
theorem Frame.operation?_eq_some_iff {f : Frame} {op : Operation} :
    f.operation? = some op ↔ f.header.tag = op.tag :=
  Operation.ofTag?_eq_some_iff

theorem Frame.operation?_eq_none_iff {f : Frame} :
    f.operation? = none ↔ 34 ≤ f.header.tag.toNat :=
  Operation.ofTag?_eq_none_iff

namespace Reply

variable {f g : Frame} {r : Reply} {e : Error}

/-- Why a frame holds no reply: no operation has its tag, or it is a listing whose count is wrong. -/
inductive Garbled (f : Frame) : Error → Prop where
  | unknownTag (unknown : 34 ≤ f.header.tag.toNat) : Garbled f (.unknownOperation f.header.tag)
  | miscounted {op : Operation} {label : String} (tag : f.header.tag = op.tag)
      (lists : op.lists? = some label) (outside : f.count.toInt < 0 ∨ 100 < f.count.toInt) :
      Garbled f (.countOutOfRange label f.count 100)

/-- A frame that holds no reply is reported for what is wrong with it, and only such a frame is. -/
theorem decode_eq_error_iff : decode f = .error e ↔ Garbled f e := by
  rw [decode_eq]
  cases known : f.operation? with
  | none =>
    have unknown := Frame.operation?_eq_none_iff.1 known
    constructor
    · rintro ⟨⟩
      exact .unknownTag unknown
    · rintro (_ | ⟨tag, -, -⟩)
      · rfl
      · cases known.symm.trans (Frame.operation?_eq_some_iff.2 tag)
  | some op =>
    have tag := Frame.operation?_eq_some_iff.1 known
    simp only [bind_eq_error_iff, Operation.label?_answers,
      Layout.read_eq_error_iff op op.answers.regular f.payload_length]
    constructor
    · rintro (⟨label, lists, wrong, rfl⟩ | ⟨_, -, ⟨⟩⟩)
      exact .miscounted tag lists (not_isCount_iff.1 wrong)
    · rintro (unknown | ⟨tag', lists, outside⟩)
      · cases known.symm.trans (Frame.operation?_eq_none_iff.2 unknown)
      · cases Operation.tag_injective (tag.symm.trans tag')
        exact .inl ⟨_, lists, not_isCount_iff.2 outside, rfl⟩

theorem hasKind_ofValue (k : Kind) (v : k.layout.Value) : (ofValue k v).HasKind k := by
  cases k with
  | names label => trivial
  | _ => rfl

theorem listed_ofValue (k : Kind) (v : k.layout.Value) : (ofValue k v).listed = k.layout.listed v := by
  cases k <;> rfl

/-- A reply that is decoded has the structure that its tag stands for and lists as many entries as
were declared. -/
theorem of_decode (decoded : decode f = .ok r) :
    ∃ op, f.header.tag = op.tag ∧ r.IsOf op ∧
      ∀ label, op.lists? = some label → (r.listed : Int) = f.count.toInt := by
  rw [decode_eq] at decoded
  cases known : f.operation? with
  | none =>
    rw [known] at decoded
    cases decoded
  | some op =>
    rw [known] at decoded
    obtain ⟨v, read, made⟩ := bind_eq_ok_iff.1 decoded
    cases made
    refine ⟨op, Frame.operation?_eq_some_iff.1 known, hasKind_ofValue _ _, fun label lists => ?_⟩
    rw [listed_ofValue]
    exact Layout.listed_of_read op op.answers.regular f.payload_length read
      ((Operation.label?_answers op).trans lists)

theorem decode_congr (tag : f.header.tag = g.header.tag) (payload : f.payload = g.payload) :
    decode f = decode g := by
  unfold decode
  rw [tag, payload]

end Reply

/-! ### Requests -/

namespace Request

variable {f g : Frame} {r : Request} {e : Error}

/-- The arguments of an operation are always read, and they make a request unless nobody makes
one. -/
theorem exists_decode_eq {op : Operation} (known : f.operation? = some op) :
    ∃ vs, decode f = match ofValues? op vs with
      | some r => .ok r
      | none => .error (.unknownOperation op.tag) := by
  have room : Field.finish (Reader.start f.payload).position op.arguments ≤
      (Reader.start f.payload).bytes.length :=
    f.payload_length.symm ▸ (regular_arguments op).finish_le
  obtain ⟨vs, read⟩ := Reader.takeAll_of_room op room
  refine ⟨vs, ?_⟩
  rw [decode_eq]
  simp only [known, read]
  rfl

/-- A frame that holds no request has the tag of failures or one that no operation has. -/
theorem decode_eq_error_iff :
    decode f = .error e ↔
      (f.header.tag = 0 ∨ 34 ≤ f.header.tag.toNat) ∧ e = .unknownOperation f.header.tag := by
  cases known : f.operation? with
  | none =>
    have unknown := Frame.operation?_eq_none_iff.1 known
    rw [decode_eq]
    simp [known, unknown, eq_comm]
  | some op =>
    have tag := Frame.operation?_eq_some_iff.1 known
    have few : ¬ 34 ≤ f.header.tag.toNat := fun unknown => by
      cases known.symm.trans (Frame.operation?_eq_none_iff.2 unknown)
    -- The reserved tag belongs to failures alone, which nobody asks for.
    have reserved : f.header.tag = 0 ↔ op = .failure := by
      rw [tag]
      exact ⟨fun zero => Operation.tag_injective zero, fun same => same ▸ rfl⟩
    obtain ⟨vs, decoded⟩ := exists_decode_eq known
    rw [decoded, reserved, tag]
    cases made : ofValues? op vs with
    | none => simp [ofValues?_eq_none_iff.1 made, eq_comm]
    | some r =>
      have asked : op ≠ .failure := fun same => by
        cases made.symm.trans (ofValues?_eq_none_iff.2 same)
      simp [asked, tag ▸ few]

/-- A request that is decoded has the tag of its frame. -/
theorem tag_of_decode (decoded : decode f = .ok r) : r.operation.tag = f.header.tag := by
  cases known : f.operation? with
  | none =>
    rw [decode_eq] at decoded
    rw [known] at decoded
    cases decoded
  | some op =>
    obtain ⟨vs, made⟩ := exists_decode_eq known
    rw [decoded] at made
    split at made
    · next r' values =>
      cases made
      rw [operation_of_ofValues? values, Frame.operation?_eq_some_iff.1 known]
    · cases made

theorem decode_congr (tag : f.header.tag = g.header.tag) (payload : f.payload = g.payload) :
    decode f = decode g := by
  unfold decode
  rw [tag, payload]

end Request

/-! ### Frames that were received -/

namespace Frame

/-- A frame for a header that declares no more than the buffer takes. -/
theorem forHeader_of_le (header : Header) (body : List UInt8)
    (small : header.payloadSize.toNat ≤ payloadCapacity)
    (whole : body.length = header.payloadSize.toNat) :
    ∃ f, forHeader header body = .ok f ∧ f.header = header ∧
      f.payload = fitted body payloadCapacity := by
  have all : body.take header.payloadSize.toNat = body :=
    List.take_of_length_le (Nat.le_of_eq whole)
  exact ⟨_, dif_pos small, rfl, by simp only [all]⟩

/-- Zeros behind a body are what the buffer is filled up with. -/
theorem fitted_append_zeros {body : List UInt8} {n size : Nat} (le : body.length + n ≤ size) :
    fitted (body ++ List.replicate n 0) size = fitted body size := by
  -- Both buffers hold the body and then zeros up to the same size.
  have whole : (body ++ List.replicate n (0 : UInt8)).length ≤ size := by simpa using le
  rw [fitted_eq_append whole, fitted_eq_append (Nat.le_trans (Nat.le_add_right _ n) le),
    List.append_assoc, List.replicate_append_replicate]
  simp only [List.length_append, List.length_replicate]
  congr 2
  omega

/-- What decoding makes of a frame. As a reply it fails exactly for what is wrong with it, and
otherwise it has the structure that its tag stands for and lists as many entries as it declares. As
a request it fails exactly if nobody makes it, and otherwise it has the tag of the frame. -/
structure Decoded (f : Frame) : Prop where
  replyFails : ∀ e, Reply.decode f = .error e ↔ Reply.Garbled f e
  replies : (∀ e, ¬ Reply.Garbled f e) → ∃ op r, f.header.tag = op.tag ∧
    Reply.decode f = .ok r ∧ r.IsOf op ∧
      ∀ label, op.lists? = some label → (r.listed : Int) = f.count.toInt
  requestFails : ∀ e, Request.decode f = .error e ↔
    (f.header.tag = 0 ∨ 34 ≤ f.header.tag.toNat) ∧ e = .unknownOperation f.header.tag
  requests : f.header.tag ≠ 0 → f.header.tag.toNat < 34 →
    ∃ r, Request.decode f = .ok r ∧ r.operation.tag = f.header.tag

theorem decoded (f : Frame) : f.Decoded where
  replyFails _ := Reply.decode_eq_error_iff
  replies sound := by
    cases decoded : Reply.decode f with
    | error e => exact absurd (Reply.decode_eq_error_iff.1 decoded) (sound e)
    | ok r =>
      obtain ⟨op, tag, fits, listed⟩ := Reply.of_decode decoded
      exact ⟨op, r, tag, rfl, fits, listed⟩
  requestFails _ := Request.decode_eq_error_iff
  requests asked known := by
    cases decoded : Request.decode f with
    | error e =>
      obtain ⟨zero | unknown, -⟩ := Request.decode_eq_error_iff.1 decoded
      · exact absurd zero asked
      · exact absurd known (Nat.not_lt.2 unknown)
    | ok r => exact ⟨r, rfl, Request.tag_of_decode decoded⟩

/-- Every header that declares no more than the buffer takes makes a frame, whatever its body holds,
and decoding it fails only in the known ways. A shorter body decodes as if zeros followed it. -/
theorem decoding_of_forHeader (header : Header) (body : List UInt8)
    (small : header.payloadSize.toNat ≤ 5008)
    (whole : body.length = header.payloadSize.toNat) :
    ∃ f, forHeader header body = .ok f ∧ f.header = header ∧ f.Decoded ∧
      ∀ n, header.payloadSize.toNat + n ≤ 5008 →
        ∃ g, forHeader ⟨header.tag, UInt32.ofNat (header.payloadSize.toNat + n)⟩
            (body ++ List.replicate n 0) = .ok g ∧
          Reply.decode g = Reply.decode f ∧ Request.decode g = Request.decode f := by
  obtain ⟨f, made, same, payload⟩ := forHeader_of_le header body small whole
  refine ⟨f, made, same, f.decoded, fun n le => ?_⟩
  have size : (UInt32.ofNat (header.payloadSize.toNat + n)).toNat =
      header.payloadSize.toNat + n :=
    UInt32.toNat_ofNat_of_lt' (Nat.lt_of_le_of_lt le (by decide))
  have whole' : (body ++ List.replicate n 0).length =
      (UInt32.ofNat (header.payloadSize.toNat + n)).toNat := by
    rw [List.length_append, List.length_replicate, whole, size]
  obtain ⟨g, made', same', payload'⟩ :=
    forHeader_of_le ⟨header.tag, _⟩ _ (size.symm ▸ le) whole'
  have tags : g.header.tag = f.header.tag := by rw [same', same]
  have payloads : g.payload = f.payload := by
    rw [payload', payload, fitted_append_zeros (whole ▸ le)]
  exact ⟨g, made', Reply.decode_congr tags payloads, Request.decode_congr tags payloads⟩

theorem decoding_of_negative_count :
    ∃ f, forHeader ⟨16, 4⟩ [0xFF, 0xFF, 0xFF, 0xFF] = .ok f ∧
      Reply.decode f = .error (.countOutOfRange "defined domains" (-1) 100) ∧
      ∃ r, Request.decode f = .ok r ∧ r.operation = .listDefinedDomains := by
  obtain ⟨f, made, same, decoded, -⟩ :=
    decoding_of_forHeader ⟨16, 4⟩ [0xFF, 0xFF, 0xFF, 0xFF] (by decide) rfl
  obtain ⟨f', made', -, payload⟩ :=
    forHeader_of_le ⟨16, 4⟩ [0xFF, 0xFF, 0xFF, 0xFF] (by decide) rfl
  cases made.symm.trans made'
  have tag : f.header.tag = Operation.listDefinedDomains.tag := by rw [same]; rfl
  have count : f.count = -1 := by
    rw [Frame.count, payload]
    decide +kernel
  have garbled : Reply.Garbled f (.countOutOfRange "defined domains" f.count 100) :=
    .miscounted tag rfl (.inl (by rw [count]; decide))
  rw [count] at garbled
  obtain ⟨r, asked, operation⟩ := decoded.requests (by rw [tag]; decide) (by rw [tag]; decide)
  exact ⟨f, made, (decoded.replyFails _).2 garbled, r, asked,
    Operation.tag_injective (operation.trans tag)⟩

end Frame

end Supervisor.Wire

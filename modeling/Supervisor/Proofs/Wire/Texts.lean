import Supervisor.Proofs.Text.Lossy
import Supervisor.Proofs.Wire.Significance

/-!
# Texts that arrive

A text that arrives is what the decoder makes of the bytes before the terminator of its field. There
are at most as many of these as a text may take that is sent, but the text may take more: for a byte
that belongs to no character it has three. So a value that was decoded can be encoded again unless one
of its texts has grown too long that way, and it holds no NUL in any case.

## Main definitions

* `FieldText.TooLong` - the text leaves no room for the terminator of its field
* `Layout.placed`, `Layout.ReadFrom` - the fields that are read, and the bytes that a text is read
  from
* `Resent` - what becomes of a decoded value that is sent again

## Main results

* `Layout.texts_of_read` - what is read holds the texts of the fields that are read
* `Reply.resent`, `Request.resent` - which replies and requests can be sent again
-/

namespace Supervisor.Wire

/-! ### Texts without NUL -/

namespace FieldText

/-- The text leaves no room for the terminator of its field. -/
def TooLong (t : FieldText) : Prop := t.capacity - 1 < Text.size t.value

instance (t : FieldText) : Decidable t.TooLong := inferInstanceAs (Decidable (_ < _))

/-- What is reported of such a text. -/
def tooLong (t : FieldText) : Error :=
  .textTooLong t.label (Text.size t.value) (t.capacity - 1)

variable {t : FieldText} {ts : List FieldText} {e : Error}

/-- A text without NUL is refused only for its length. -/
theorem refused_iff_of_noNul (noNul : 0 ∉ Text.utf8 t.value) :
    t.Refused e ↔ t.TooLong ∧ e = t.tooLong := by
  constructor
  · intro refused
    cases refused with
    | tooLong long => exact ⟨long, rfl⟩
    | embeddedNul short nul => exact absurd nul noNul
  · rintro ⟨long, rfl⟩
    exact .tooLong long

theorem fits_iff_of_noNul (noNul : 0 ∉ Text.utf8 t.value) : t.Fits ↔ ¬ t.TooLong := by
  unfold Fits TooLong
  rw [Nat.not_lt, and_iff_left noNul]

/-- Of texts without NUL the first one that is too long is reported. -/
theorem firstRefused_iff_find? (noNul : ∀ t ∈ ts, 0 ∉ Text.utf8 t.value) :
    FirstRefused ts e ↔ ∃ t, ts.find? (·.TooLong) = some t ∧ e = t.tooLong := by
  induction ts with
  | nil => simp [not_firstRefused_nil]
  | cons t ts ih =>
    rw [List.forall_mem_cons] at noNul
    obtain ⟨here, later⟩ := noNul
    rw [firstRefused_cons_iff, refused_iff_of_noNul here, fits_iff_of_noNul here, ih later]
    by_cases long : t.TooLong
    · simp [long]
    · simp [long]

end FieldText

/-! ### Fields that are read -/

/-- The texts in a field of a payload that starts at the given place. -/
def Field.textsAt (bytes : List UInt8) (p : Field × Nat) : List FieldText :=
  p.1.texts (p.1.decode (p.1.slice bytes p.2))

namespace Reader

variable {op : Operation} {f : Field} {fs : List Field} {r r' : Reader}

/-- A field is read from the next place where it may start. -/
theorem take_ok {v : f.Value} (taken : r.take op f = .ok (v, r')) :
    v = f.decode (f.slice r.bytes (Field.roundUp r.position f.alignment)) ∧
      r' = ⟨r.bytes, Field.roundUp r.position f.alignment + f.size⟩ := by
  unfold take at taken
  dsimp only at taken
  split at taken
  · cases taken
    exact ⟨rfl, rfl⟩
  · cases taken

/-- What is read field by field holds the texts of the fields. -/
theorem texts_of_takeAll {vs : Record fs} (taken : r.takeAll op fs = .ok (vs, r')) :
    Record.texts fs vs =
      (fs.zip (Field.offsets r.position fs)).flatMap (Field.textsAt r.bytes) := by
  induction fs generalizing r with
  | nil => rfl
  | cons f fs ih =>
    obtain ⟨⟨v, r₁⟩, first, rest⟩ := bind_eq_ok_iff.1 taken
    obtain ⟨⟨vs, r₂⟩, others, made⟩ := bind_eq_ok_iff.1 rest
    cases made
    -- The first field is decoded where it stands, and the reader goes on where the next one may
    -- start.
    obtain ⟨value, behind⟩ := take_ok first
    have tail := ih others
    rw [behind] at tail
    rw [Record.texts, tail, value, Field.offsets, List.zip_cons_cons, List.flatMap_cons]
    rfl

/-- So does what is read from several fields of one kind. -/
theorem texts_of_takeEach {count : Nat} {vs : List f.Value}
    (taken : r.takeEach op f count = .ok (vs, r')) :
    vs.flatMap f.texts =
      ((List.replicate count f).zip (Field.offsets r.position (List.replicate count f))).flatMap
        (Field.textsAt r.bytes) := by
  induction count generalizing r vs with
  | zero =>
    cases taken
    rfl
  | succ count ih =>
    obtain ⟨⟨v, r₁⟩, first, rest⟩ := bind_eq_ok_iff.1 taken
    obtain ⟨⟨vs, r₂⟩, others, made⟩ := bind_eq_ok_iff.1 rest
    cases made
    obtain ⟨value, behind⟩ := take_ok first
    have tail := ih others
    rw [behind] at tail
    rw [List.flatMap_cons, tail, value, List.replicate_succ, Field.offsets, List.zip_cons_cons,
      List.flatMap_cons]
    rfl

end Reader

namespace Layout

variable {op : Operation} {l : Layout} {bytes bs : List UInt8} {t : FieldText}

/-- The fields of a payload that are read, each with the place where it starts. -/
def placed (bytes : List UInt8) (l : Layout) : List (Field × Nat) :=
  (l.inUse bytes).zip (Field.offsets 0 (l.inUse bytes))

/-- What is read holds the texts of the fields that are read. -/
theorem texts_of_read {v : l.Value} (full : bytes.length = payloadCapacity)
    (read : l.read op bytes = .ok v) :
    l.texts v = (l.placed bytes).flatMap (Field.textsAt bytes) := by
  cases l with
  | record fs =>
    obtain ⟨⟨vs, r⟩, taken, made⟩ := bind_eq_ok_iff.1 read
    cases made
    exact Reader.texts_of_takeAll taken
  | listing label entry =>
    by_cases counts : IsCount (declaredCount bytes)
    · obtain ⟨⟨count, r⟩, first, rest⟩ := bind_eq_ok_iff.1 read
      cases first.symm.trans (take_count op full)
      obtain ⟨⟨vs, r⟩, taken, made⟩ := bind_eq_ok_iff.1 ((if_pos counts).symm.trans rest)
      cases made
      -- The count comes first and is no text.
      have behind := Reader.texts_of_takeEach taken
      simp only [texts, behind, placed, inUse, if_pos counts]
      rfl
    · cases read.symm.trans (read_listing_of_not_isCount op full counts)

/-- A listing that is read has no more entries than a listing may have. -/
theorem listed_le_of_read {v : l.Value} (regular : l.Regular)
    (full : bytes.length = payloadCapacity) (read : l.read op bytes = .ok v) :
    l.listed v ≤ listingCapacity := by
  cases l with
  | record fs => exact Nat.zero_le _
  | listing label entry =>
    have same := listed_of_read op regular full read rfl
    by_cases counts : IsCount (declaredCount bytes)
    · have le := counts.2
      unfold listingCapacity
      omega
    · cases read.symm.trans (read_listing_of_not_isCount op full counts)

/-- A text is what the decoder makes of some bytes, and these stand in a field of the text, before
its terminator. -/
structure ReadFrom (l : Layout) (bytes : List UInt8) (t : FieldText) (bs : List UInt8) : Prop where
  placed : ∃ start, (Field.text t.label t.capacity, start) ∈ l.placed bytes ∧
    bs = Text.beforeTerminator ((bytes.drop start).take t.capacity)
  value : t.value = Text.lossy bs
  noNul : 0 ∉ bs
  short : bs.length ≤ t.capacity - 1
  /-- Only bytes that are not well formed make a text longer than they are. -/
  kept : Text.WellFormed bs → ¬ t.TooLong

/-- The decoder makes no NUL of bytes without one. -/
theorem ReadFrom.noNul_value (origin : l.ReadFrom bytes t bs) : 0 ∉ Text.utf8 t.value := by
  rw [origin.value, Text.zero_not_mem_utf8_iff]
  exact Text.nul_not_mem_lossy origin.noNul

/-- Every text of a payload that was read is read from such bytes. -/
theorem exists_readFrom {v : l.Value} (full : bytes.length = payloadCapacity)
    (read : l.read op bytes = .ok v) (text : t ∈ l.texts v) : ∃ bs, l.ReadFrom bytes t bs := by
  rw [texts_of_read full read, List.mem_flatMap] at text
  obtain ⟨⟨f, start⟩, inUse, text⟩ := text
  -- Only a field for a text holds one. The end of the payload may cut it short, but makes it no
  -- longer.
  cases f with
  | text label capacity =>
    cases List.mem_singleton.1 text
    have field : ((bytes.drop start).take capacity).length ≤ capacity := List.length_take_le _ _
    have room := Nat.sub_le_sub_right field 1
    refine ⟨_, ⟨start, inUse, rfl⟩, rfl, Text.zero_not_mem_beforeTerminator _, ?_, ?_⟩
    · exact Nat.le_trans (Text.length_beforeTerminator_le _) room
    · intro formed
      exact Nat.not_lt.2 (Nat.le_trans (Text.size_terminated_le formed) room)
  | _ => cases text

/-- Without too many entries only a text can be refused. -/
theorem refused_iff_of_few {v : l.Value} {e : Error} (few : l.listed v ≤ listingCapacity) :
    l.Refused v e ↔ FirstRefused (l.texts v) e := by
  cases l with
  | record fs => exact Iff.rfl
  | listing label entry =>
    have notMany : ¬ listingCapacity < v.length := Nat.not_lt.2 few
    have few : v.length ≤ listingCapacity := few
    simp only [Refused, texts, notMany, few, false_and, false_or, true_and]

end Layout

/-! ### Sending again what arrived -/

/-- What becomes of a decoded value that is sent again. Its texts are read from the payload it was
decoded from; if one of them is too long, the first such text is reported, and otherwise a receiver
decodes the same value. -/
structure Resent {α : Type} (l : Layout) (payload : List UInt8) (texts : List FieldText)
    (encoded : Except Error Frame) (decode : Frame → Except Error α) (value : α) : Prop where
  read : ∀ t ∈ texts, ∃ bs, l.ReadFrom payload t bs
  sent : (∃ g, encoded = .ok g) ↔ ∀ t ∈ texts, ¬ t.TooLong
  refused : ∀ e, encoded = .error e ↔ ∃ t, texts.find? (·.TooLong) = some t ∧ e = t.tooLong
  arrives : ∀ g, encoded = .ok g → decode g = .ok value

theorem Resent.of_firstRefused {α : Type} {l : Layout} {payload : List UInt8}
    {texts : List FieldText} {encoded : Except Error Frame} {decode : Frame → Except Error α}
    {value : α} (read : ∀ t ∈ texts, ∃ bs, l.ReadFrom payload t bs)
    (refused : ∀ e, encoded = .error e ↔ FirstRefused texts e)
    (arrives : ∀ g, encoded = .ok g → decode g = .ok value) :
    Resent l payload texts encoded decode value := by
  have noNul : ∀ t ∈ texts, 0 ∉ Text.utf8 t.value := by
    intro t text
    obtain ⟨bs, origin⟩ := read t text
    exact origin.noNul_value
  have first := fun e => (refused e).trans (FieldText.firstRefused_iff_find? noNul)
  refine ⟨read, ?_, first, arrives⟩
  cases encoded with
  | ok g =>
    -- Nothing is found that would be reported.
    have none : texts.find? (·.TooLong) = none := by
      cases found : texts.find? (·.TooLong) with
      | none => rfl
      | some t => cases (first t.tooLong).2 ⟨t, found, rfl⟩
    have fit := List.find?_eq_none.1 none
    simpa using fit
  | error e =>
    -- What is reported is a text that is too long.
    obtain ⟨t, found, -⟩ := (first e).1 rfl
    have long : t.TooLong := by simpa using List.find?_some found
    constructor
    · rintro ⟨g, ⟨⟩⟩
    · intro fit
      exact absurd long (fit t (List.mem_of_find?_eq_some found))

namespace Reply

variable {f : Frame} {r : Reply}

theorem texts_ofValue (k : Kind) (v : k.layout.Value) : (ofValue k v).texts = k.layout.texts v := by
  cases k with
  | failure =>
    obtain ⟨code, message, -⟩ := v
    -- No message and an empty one are the same text.
    have same : (if message = "" then none else some message).getD "" = message := by
      by_cases blank : message = "" <;> simp [blank]
    exact congrArg (fun s => [FieldText.mk "message" 1024 s]) same
  | ids => exact (List.flatMap_eq_nil_iff.2 fun _ _ => rfl).symm
  | names label => exact List.map_eq_flatMap
  | _ => rfl

/-- A receiver loses nothing of a reply that was made of values. -/
theorem received_ofValue (k : Kind) (v : k.layout.Value) : (ofValue k v).received = ofValue k v := by
  cases k with
  | failure =>
    obtain ⟨code, message, -⟩ := v
    by_cases blank : message = ""
    · simp [ofValue, received, blank]
    · simp [ofValue, received, blank]
  | _ => rfl

/-- A reply is made of the values that are read. -/
theorem decode_of_read {op : Operation} {v : op.answers.layout.Value}
    (known : f.operation? = some op) (read : op.answers.layout.read op f.payload = .ok v) :
    decode f = .ok (ofValue op.answers v) := by
  rw [decode_eq]
  rw [known]
  exact bind_eq_ok_iff.2 ⟨v, read, rfl⟩

/-- What becomes of a decoded reply that is sent again under the tag it came with. -/
theorem resent (decoded : decode f = .ok r) :
    ∃ op, f.operation? = some op ∧
      Resent op.answers.layout f.payload r.texts (r.encode op) decode r := by
  rw [decode_eq] at decoded
  cases known : f.operation? with
  | none =>
    rw [known] at decoded
    cases decoded
  | some op =>
    rw [known] at decoded
    obtain ⟨v, read, made⟩ := bind_eq_ok_iff.1 decoded
    cases made
    refine ⟨op, rfl, .of_firstRefused ?_ ?_ ?_⟩
    · intro t text
      rw [texts_ofValue] at text
      exact Layout.exists_readFrom f.payload_length read text
    · intro e
      -- A reply does not know what its listing was called, but all listings refuse the same texts.
      have few : (ofValue op.answers v).kind.layout.listed (ofValue op.answers v).value ≤
          listingCapacity := by
        rw [listed_value, listed_ofValue]
        exact Layout.listed_le_of_read op.answers.regular f.payload_length read
      rw [← texts_value, ← Layout.refused_iff_of_few few]
      exact Layout.encode_eq_error_iff op _ (Kind.regular _)
    · intro g encoded
      rw [decode_of_encode (hasKind_ofValue _ _) encoded, received_ofValue]

end Reply

namespace Request

variable {f : Frame} {r : Request}

/-- Only texts that fit are sent. -/
theorem fits_of_encode {t : FieldText} (encoded : r.encode = .ok f) (text : t ∈ r.texts) :
    t.Fits := by
  by_cases fits : t.Fits
  · exact fits
  · obtain ⟨e, refused⟩ := FieldText.exists_refused fits
    cases encoded.symm.trans (encode_eq_error_iff.2 ⟨t, text, refused⟩)

theorem texts_ofValues? {op : Operation} {vs : Record op.arguments}
    (made : ofValues? op vs = some r) : r.texts = Record.texts op.arguments vs := by
  cases op <;> cases made <;> rfl

/-- A request is made of the arguments that are read. -/
theorem decode_of_read {op : Operation} {v : Record op.arguments}
    (known : f.operation? = some op)
    (read : (Layout.record op.arguments).read op f.payload = .ok v)
    (made : ofValues? op v = some r) : decode f = .ok r := by
  obtain ⟨⟨v', reader⟩, taken, same⟩ := bind_eq_ok_iff.1 read
  cases same
  rw [decode_eq]
  rw [known]
  refine bind_eq_ok_iff.2 ⟨_, taken, ?_⟩
  simp only [made]
  rfl

/-- What becomes of a decoded request that is sent again. -/
theorem resent (decoded : decode f = .ok r) :
    f.operation? = some r.operation ∧
      Resent (.record r.operation.arguments) f.payload r.texts r.encode decode r := by
  rw [decode_eq] at decoded
  cases known : f.operation? with
  | none =>
    rw [known] at decoded
    cases decoded
  | some op =>
    rw [known] at decoded
    obtain ⟨⟨vs, reader⟩, taken, rest⟩ := bind_eq_ok_iff.1 decoded
    cases made : ofValues? op vs with
    | none => simp only [made] at rest; cases rest
    | some r' =>
      simp only [made] at rest
      cases rest
      obtain rfl := operation_of_ofValues? made
      refine ⟨rfl, .of_firstRefused ?_ ?_ ?_⟩
      · intro t text
        rw [texts_ofValues? made] at text
        have read : (Layout.record r.operation.arguments).read r.operation f.payload = .ok vs :=
          bind_eq_ok_iff.2 ⟨_, taken, rfl⟩
        exact Layout.exists_readFrom f.payload_length read text
      · intro e
        rw [encode_eq_error_iff, firstRefused_texts_iff]
      · intro g encoded
        exact decode_of_encode encoded

end Request

end Supervisor.Wire

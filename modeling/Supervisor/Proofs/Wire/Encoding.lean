import Supervisor.Proofs.Wire.Codec
import Supervisor.Proofs.Wire.Refusal

/-!
# Round trips across the wire

Every request and every reply either fits the format and arrives as it was sent, or it is refused
for one of its texts or for the length of a listing. The texts and their capacities are listed here
by what is asked or answered; that the fields of the operations agree with them is the first step of
both arguments.

## Main definitions

* `Frame.RebuiltFrom` - what a receiver makes of the bytes of a frame
* `Request.texts`, `Reply.texts`, `Reply.listed` - what can be refused

## Main results

* `Request.roundTrip_of_texts` - when a request is encoded, and that it arrives
* `Reply.roundTrip_of_layout` - the same for a reply, and how many bytes it takes
-/

namespace Supervisor.Wire

/-- What a receiver makes of bytes: the header is in the first eight, and the frame for it is filled
with the others, of which none is missing and none is left over. -/
structure Frame.RebuiltFrom (f : Frame) (bytes : List UInt8) : Prop where
  header : (bytes.take headerSize).length = headerSize
  body : (bytes.drop headerSize).length =
    (Header.decode (bytes.take headerSize)).payloadSize.toNat
  frame : forHeader (Header.decode (bytes.take headerSize)) (bytes.drop headerSize) = .ok f

theorem Frame.IsPadded.rebuiltFrom_toBytes {f : Frame} (padded : f.IsPadded) :
    f.RebuiltFrom f.toBytes := by
  have front : f.toBytes.take headerSize = f.header.encode :=
    List.take_left' f.header.length_encode
  have back : f.toBytes.drop headerSize = f.body := List.drop_left' f.header.length_encode
  have header : Header.decode (f.toBytes.take headerSize) = f.header := by
    have whole := Header.decode_encode f.header []
    rwa [List.append_nil, ← front] at whole
  refine ⟨?_, ?_, ?_⟩
  · rw [front, Header.length_encode]
  · rw [back, header, f.length_body]
    rfl
  · rw [back, header, forHeader_body padded]

/-! ### Requests -/

namespace Request

/-- The texts of a request. -/
def texts : Request → List FieldText
  | createDomain s | defineDomain s | createNetwork s | defineNetwork s => [⟨"descriptor", 4096, s⟩]
  | domainByName s | networkByName s => [⟨"name", 50, s⟩]
  | saveDomain _ s | restoreDomain s => [⟨"file", 4096, s⟩]
  | version | nodeInfo | listDomains | countDomains | domainById _ | domainByUuid _
  | suspendDomain _ | resumeDomain _ | destroyDomain _ | domainInfo _ | domainXml _
  | listDefinedDomains | countDefinedDomains | startDomain _ | undefineDomain _ | countNetworks
  | listNetworks | countDefinedNetworks | listDefinedNetworks | networkByUuid _ | undefineNetwork _
  | startNetwork _ | destroyNetwork _ | networkXml _ | networkBridge _ => []

theorem texts_values (r : Request) : Record.texts r.operation.arguments r.values = r.texts := by
  cases r <;> rfl

/-- A request has at most one text, so the first one at fault is the one at fault. -/
theorem firstRefused_texts_iff (r : Request) {e : Error} :
    FirstRefused r.texts e ↔ ∃ t ∈ r.texts, t.Refused e := by
  have few : r.texts = [] ∨ ∃ t, r.texts = [t] := by
    cases r <;> first | exact .inl rfl | exact .inr ⟨_, rfl⟩
  rcases few with none | ⟨t, one⟩
  · simp [none, not_firstRefused_nil]
  · simp [one, firstRefused_cons_iff, not_firstRefused_nil]

theorem regular_arguments (op : Operation) : (Layout.record op.arguments).Regular :=
  ⟨by cases op <;> decide, nofun⟩

/-- A request is refused for a text that does not fit, and for nothing else. -/
theorem encode_eq_error_iff {r : Request} {e : Error} :
    r.encode = .error e ↔ ∃ t ∈ r.texts, t.Refused e := by
  have refused := Layout.encode_eq_error_iff r.operation r.values (e := e)
    (regular_arguments r.operation)
  rw [Layout.Refused, texts_values, firstRefused_texts_iff] at refused
  exact refused

theorem exists_encode_iff (r : Request) : (∃ f, r.encode = .ok f) ↔ ∀ t ∈ r.texts, t.Fits := by
  have fit := Layout.exists_encode_iff r.operation r.values (regular_arguments r.operation)
  simp only [Layout.listed, Layout.texts, texts_values, Nat.zero_le, true_and] at fit
  exact fit

/-- A request is encoded exactly if its texts fit, and it is refused for the text that does not. Once
it is encoded, a receiver rebuilds the same frame from its bytes and reads the same request. -/
theorem roundTrip_of_texts (r : Request) :
    ((∃ f, r.encode = .ok f) ↔ ∀ t ∈ r.texts, t.Fits) ∧
      (∀ e, r.encode = .error e ↔ ∃ t ∈ r.texts, t.Refused e) ∧
      ∀ f, r.encode = .ok f → f.RebuiltFrom f.toBytes ∧ decode f = .ok r := by
  refine ⟨r.exists_encode_iff, fun e => encode_eq_error_iff, fun f encoded => ⟨?_, ?_⟩⟩
  · exact (of_encode encoded).2.1.rebuiltFrom_toBytes
  · exact decode_of_encode encoded

end Request

/-! ### Replies -/

namespace Reply

variable {op : Operation} {r : Reply} {k : Kind}

/-- The texts of a reply. -/
def texts : Reply → List FieldText
  | failure f => [⟨"message", 1024, f.message.getD ""⟩]
  | nodeInfo i => [⟨"model", 32, i.model⟩]
  | names entries => entries.map fun s => ⟨"name", 50, s⟩
  | created _ _ s | identity _ s | idName _ s | name s => [⟨"name", 50, s⟩]
  | xml s => [⟨"descriptor", 4096, s⟩]
  | interface s => [⟨"interface", 50, s⟩]
  | empty | version _ | count _ | ids _ | idUuid _ _ | id _ | domainInfo _ | uuid _ => []

/-- How many entries a reply lists. -/
def listed : Reply → Nat
  | ids entries => entries.length
  | names entries => entries.length
  | _ => 0

theorem texts_value (r : Reply) : r.kind.layout.texts r.value = r.texts := by
  cases r with
  | ids entries => exact List.flatMap_eq_nil_iff.2 fun _ _ => rfl
  | names entries => exact List.map_eq_flatMap.symm
  | _ => rfl

theorem listed_value (r : Reply) : r.kind.layout.listed r.value = r.listed := by
  cases r <;> rfl

theorem Kind.regular (k : Kind) : k.layout.Regular := by
  cases k with
  | ids => exact ⟨by decide +kernel, by rintro _ _ ⟨⟩; decide⟩
  | names label =>
    -- A hundred names make the largest structure of the format.
    have room : Field.extent (.int32 :: List.replicate listingCapacity nameField) ≤
        payloadCapacity := by decide +kernel
    exact ⟨room, by rintro _ _ ⟨⟩; decide⟩
  | _ => exact ⟨by decide, nofun⟩

/-- Listings of names have the same fields, whatever they are called. -/
theorem fields_of_hasKind (has : r.HasKind k) : r.kind.layout.fields = k.layout.fields := by
  cases r with
  | names entries =>
    cases k with
    | names label => rfl
    | _ => exact congrArg (fun k => Layout.fields (Kind.layout k)) has
  | _ => exact congrArg (fun k => Layout.fields (Kind.layout k)) has

theorem exists_encode_iff (op : Operation) (r : Reply) :
    (∃ f, r.encode op = .ok f) ↔ r.listed ≤ 100 ∧ ∀ t ∈ r.texts, t.Fits := by
  have fit := Layout.exists_encode_iff op r.value r.kind.regular
  rw [texts_value, listed_value] at fit
  exact fit

/-- A reply of the structure that answers an operation is encoded exactly if it lists at most a
hundred entries and its texts fit; it never runs past the buffer. Its frame has the size that a
compiler gives to the structure. A receiver rebuilds the same frame from its bytes and reads the same
reply, but for an empty failure message. -/
theorem roundTrip_of_layout (fits : r.IsOf op) :
    ((∃ f, r.encode op = .ok f) ↔ r.listed ≤ 100 ∧ ∀ t ∈ r.texts, t.Fits) ∧
      (∀ op', r.encode op ≠ .error (.layoutOverflow op')) ∧
      ∀ f, r.encode op = .ok f →
        f.bodySize = Field.extent op.answers.layout.fields ∧
          Field.IsStructSize op.answers.layout.fields f.bodySize ∧ f.bodySize ≤ 5008 ∧
          f.RebuiltFrom f.toBytes ∧ decode f = .ok r.received := by
  have regular := r.kind.regular
  refine ⟨r.exists_encode_iff op, fun op' failed => ?_, fun f encoded => ?_⟩
  · exact ((Layout.encode_eq_error_iff op r.value regular).1 failed).ne_overflow op' rfl
  · have size : f.bodySize = Field.extent op.answers.layout.fields := by
      rw [Layout.bodySize_of_encode regular encoded, fields_of_hasKind fits]
    have padded : f.IsPadded := (of_encode encoded).2.1
    refine ⟨size, ?_, f.size_le, padded.rebuiltFrom_toBytes, decode_of_encode fits encoded⟩
    rw [size]
    exact Field.isStructSize_extent _

theorem roundTrip_of_networks :
    ∃ f, (names ["default", "bridge\u00fc"]).encode .listNetworks = .ok f ∧ f.bodySize = 5004 ∧
      f.RebuiltFrom f.toBytes ∧ decode f = .ok (names ["default", "bridge\u00fc"]) := by
  have fits : (names ["default", "bridge\u00fc"]).IsOf .listNetworks := trivial
  obtain ⟨possible, -, whole⟩ := roundTrip_of_layout fits
  obtain ⟨f, encoded⟩ := possible.2 ⟨by decide, by decide⟩
  obtain ⟨size, -, -, rebuilt, decoded⟩ := whole f encoded
  exact ⟨f, encoded, size.trans (by decide +kernel), rebuilt, decoded⟩

/-- The sizes of the structures that have padding, an array or both. -/
example : [Kind.nodeInfo, .ids, .names "networks", .created, .idName, .domainInfo, .failure].map
    (fun k => Field.extent k.layout.fields) = [60, 404, 5004, 72, 56, 24, 1028] := by
  decide +kernel

end Reply

end Supervisor.Wire

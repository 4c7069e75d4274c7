import Supervisor.Proofs.Wire.Frame
import Supervisor.Wire.Codec

/-!
# Requests and replies across the wire

The fields of a request are a function of its operation, and so are the fields of the reply that
answers it. Decoding looks them up in a table of its own, whose rows have the fields that the
encoder writes. Two things are lost on the way: the words by which a listing is called in messages,
and the difference between an empty failure message and none.

## Main results

* `Codec.exists_undoes` - the table has a row for every operation, which undoes the writing side
* `Request.decode_eq`, `Reply.decode_eq` - decoding told by what the writing side has
* `Request.decode_of_encode` - a request arrives as it was sent
* `Reply.IsOf` - a reply has the structure that answers an operation
* `Reply.decode_of_encode` - such a reply arrives as it was sent, up to `Reply.received`
-/

namespace Supervisor.Wire

theorem Frame.operation?_of_tag {f : Frame} {op : Operation} (tag : f.header.tag = op.tag) :
    f.operation? = some op := by
  rw [operation?, Header.operation?, tag, Operation.ofTag?_tag]

namespace Codec

/-- What makes a reading undo the writing of requests for `op`: it reads the fields that are
written, and makes the request of them that has their values. Nobody writes one for a failure. -/
def UndoesRequests (op : Operation) : Option (Reading Request) → Prop
  | none => op = .failure
  | some reading => ∃ make, reading = ⟨.record op.arguments, make⟩ ∧
      ∀ vs, Request.ofValues? op vs = some (make vs)

/-- A row undoes the writing of requests for `op` and of replies to it. -/
structure Undoes (row : Codec) (op : Operation) : Prop where
  operation : row.operation = op
  request : UndoesRequests op row.request
  reply : row.reply = ⟨op.answers.layout, Reply.ofValue op.answers⟩

/-- Every operation has a row under its tag, which undoes the writing side. -/
theorem exists_undoes (op : Operation) : ∃ row, ofTag? op.tag = some row ∧ row.Undoes op := by
  cases op with
  | failure => exact ⟨_, rfl, rfl, rfl, rfl⟩
  | _ => exact ⟨_, rfl, rfl, ⟨_, rfl, fun _ => rfl⟩, rfl⟩

/-- No other tag has a row. -/
theorem ofTag?_eq_none_iff {t : UInt32} : ofTag? t = none ↔ Operation.ofTag? t = none := by
  rw [Operation.ofTag?_eq_none_iff]
  simp [ofTag?, all]

end Codec

namespace Request

variable {r : Request} {f : Frame}

/-- A request is read along the fields that its operation writes. -/
theorem decode_eq (f : Frame) : decode f = match f.operation? with
    | none => .error (.unknownOperation f.header.tag)
    | some op => (do
      let (vs, _) ← (Reader.start f.payload).takeAll op op.arguments
      match ofValues? op vs with
      | some r => return r
      | none => throw (.unknownOperation op.tag)) := by
  unfold decode
  cases known : f.operation? with
  | none => rw [Codec.ofTag?_eq_none_iff.2 known]
  | some op =>
    -- That the row undoes the writing side is all that is needed of it.
    obtain ⟨⟨_, request, reply⟩, found, operation, requests, -⟩ := Codec.exists_undoes op
    rw [Operation.ofTag?_eq_some_iff.1 known, found]
    cases operation
    dsimp only at requests ⊢
    cases request with
    | none =>
      cases requests
      rfl
    | some reading =>
      obtain ⟨make, rfl, made⟩ := requests
      simp only [made, Reading.run, Layout.read, map_bind]
      rfl

/-- Nobody asks for a failure. -/
theorem operation_ne_failure (r : Request) : r.operation ≠ .failure := by
  intro failure
  have none : ofValues? r.operation r.values = none := ofValues?_eq_none_iff.2 failure
  rw [ofValues?_values] at none
  cases none

/-- What a frame holds that a request was encoded in. -/
theorem of_encode (encoded : r.encode = .ok f) :
    f.header.tag = r.operation.tag ∧ f.IsPadded ∧
      ∃ w rest, Writer.empty.putAll r.operation r.operation.arguments r.values = .ok w ∧
        f.payload = w.bytes ++ rest := by
  obtain ⟨w, written, built⟩ := bind_eq_ok_iff.1 encoded
  have sound := (Writer.extends_of_putAll written).sound Writer.sound_empty
  obtain ⟨tag, padded, rest, payload⟩ := Frame.of_ofWriter sound built
  exact ⟨tag, padded, w, rest, written, payload⟩

/-- A request arrives as it was sent. -/
theorem decode_of_encode (encoded : r.encode = .ok f) : decode f = .ok r := by
  obtain ⟨tag, -, w, rest, written, payload⟩ := of_encode encoded
  have read := Reader.takeAll_of_putAll r.operation written rest
  rw [decode_eq, Frame.operation?_of_tag tag]
  refine bind_eq_ok_iff.2 ⟨_, by rw [payload]; exact read, ?_⟩
  simp only [ofValues?_values]
  rfl

end Request

namespace Reply

variable {r : Reply} {f : Frame}

/-- A reply is read with the structure that answers the operation of its frame. -/
theorem decode_eq (f : Frame) : decode f = match f.operation? with
    | none => .error (.unknownOperation f.header.tag)
    | some op => do
      let v ← op.answers.layout.read op f.payload
      return ofValue op.answers v := by
  unfold decode
  cases known : f.operation? with
  | none => rw [Codec.ofTag?_eq_none_iff.2 known]
  | some op =>
    obtain ⟨row, found, rfl, -, reply⟩ := Codec.exists_undoes op
    rw [Operation.ofTag?_eq_some_iff.1 known, found]
    simp only [reply]
    rfl

/-- Whether a reply has the structure `k`. Listings of names have one structure, whatever they are
called in messages. -/
def HasKind : Reply → Kind → Prop
  | names _, .names _ => True
  | r, k => r.kind = k

/-- A reply that may answer `op`: one that has the structure of its answers. -/
def IsOf (r : Reply) (op : Operation) : Prop := r.HasKind op.answers

/-- A failure answers no operation under the operation's own tag. -/
theorem not_isOf_failure {failure : Failure} {op : Operation} (ne : op ≠ .failure) :
    ¬ (Reply.failure failure).IsOf op := by
  cases op <;> first | exact absurd rfl ne | exact fun same => nomatch same

/-- What a reader makes of a reply: an empty failure message is none. -/
def received : Reply → Reply
  | failure f => failure { f with message := f.message.filter (· ≠ "") }
  | r => r

/-- A reply is made of its values again. -/
theorem ofValue_value (r : Reply) : ofValue r.kind r.value = r.received := by
  cases r with
  | failure f =>
    obtain ⟨code, message⟩ := f
    cases message with
    | none => rfl
    | some s =>
      change failure ⟨code, if s = "" then none else some s⟩ =
        failure ⟨code, (some s).filter (· ≠ "")⟩
      by_cases blank : s = "" <;> simp [blank, Option.filter]
  | _ => rfl

/-- What a frame holds that a reply was encoded in. -/
theorem of_encode {op : Operation} (encoded : r.encode op = .ok f) :
    f.header.tag = op.tag ∧ f.IsPadded ∧
      ∃ w rest, r.kind.layout.write op r.value = .ok w ∧ f.payload = w.bytes ++ rest := by
  obtain ⟨w, written, built⟩ := bind_eq_ok_iff.1 encoded
  obtain ⟨tag, padded, rest, payload⟩ := Frame.of_ofWriter (Layout.sound_of_write written) built
  exact ⟨tag, padded, w, rest, written, payload⟩

/-- A payload reads back under any structure that the reply has. -/
theorem read_of_write {op : Operation} {k : Kind} {w : Writer} (op' : Operation)
    (has : r.HasKind k)
    (written : r.kind.layout.write op r.value = .ok w) (rest : List UInt8) :
    ∃ v, k.layout.read op' (w.bytes ++ rest) = .ok v ∧ ofValue k v = r.received := by
  have own : r.kind = k →
      ∃ v, k.layout.read op' (w.bytes ++ rest) = .ok v ∧ ofValue k v = r.received := by
    rintro rfl
    exact ⟨r.value, Layout.read_of_write written rest, ofValue_value r⟩
  cases r with
  | names entries =>
    cases k with
    | names label => exact ⟨entries, Layout.read_of_write_listing written rest, rfl⟩
    | _ => exact own has
  | _ => exact own has

/-- A reply arrives as it was sent. -/
theorem decode_of_encode {op : Operation} (fits : r.IsOf op) (encoded : r.encode op = .ok f) :
    decode f = .ok r.received := by
  obtain ⟨tag, -, w, rest, written, payload⟩ := of_encode encoded
  obtain ⟨v, read, value⟩ := read_of_write op fits written rest
  rw [decode_eq, Frame.operation?_of_tag tag]
  refine bind_eq_ok_iff.2 ⟨v, by rw [payload]; exact read, ?_⟩
  rw [value]
  rfl

/-- A reply that does not decode has an unknown tag, a payload that is too short, or a count that
no listing has. -/
theorem decode_error {e : Error} (failed : decode f = .error e) :
    e = .unknownOperation f.header.tag ∨ (∃ op, e = .layoutOverflow op) ∨
      ∃ label count, e = .countOutOfRange label count listingCapacity := by
  rw [decode_eq] at failed
  split at failed
  · cases failed
    exact .inl rfl
  · next op known =>
    rcases bind_eq_error_iff.1 failed with reading | ⟨_, -, returned⟩
    · rcases Layout.read_error reading with short | counted
      · exact .inr (.inl ⟨op, short⟩)
      · exact .inr (.inr counted)
    · cases returned

end Reply

end Supervisor.Wire

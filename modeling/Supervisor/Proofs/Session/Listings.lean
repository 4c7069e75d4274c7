import Supervisor.Proofs.Exchange.Verdict
import Supervisor.Proofs.Session.Run
import Supervisor.Proofs.Wire.Significance

/-!
# How much of a listing is given

A listing is a count and an array of a hundred entries, whatever is in use of it. The count is
believed only if the array has so many entries. Of what is listed, the caller takes no more than
they have room for: domains are cut to that, and networks are refused if there are more. Entries
behind those that are listed are looked at by nobody.

## Main definitions

* `Frame.entry` - an entry of the array, in use or not
* `Listing`, `Listing.call` - the four listings, and the calls for them
* `Listing.given` - the first entries of a frame, as a call gives them
* `Session.Arrives` - a frame that comes back for a request

## Main results

* `Listing.decode_of_count` - what a frame lists
* `Session.request_of_arrives` - a request whose frame comes back
* `Session.listing_of_arrives` - what a call gives of a listing, and when it gives nothing
-/

namespace Supervisor

open Wire

namespace Wire

/-- Entry `i` of the array that a listing has behind its count. -/
def Frame.entry (f : Frame) (field : Field) (i : Nat) : field.Value :=
  field.decode (field.slice f.payload (Field.int32.size + i * field.size))

/-- Fields of one kind are read from where they stand, one behind the other. -/
theorem Reader.takeEach_eq (op : Operation) {f : Field} {bytes : List UInt8} {start count : Nat}
    (aligned : f.alignment ∣ start) (room : start + count * f.size ≤ bytes.length) :
    (⟨bytes, start⟩ : Reader).takeEach op f count =
      .ok ((List.range count).map fun i => f.decode (f.slice bytes (start + i * f.size)),
        ⟨bytes, start + count * f.size⟩) := by
  induction count generalizing start with
  | zero => simp [takeEach]
  | succ count ih =>
    have next : f.alignment ∣ start + f.size := Nat.dvd_add aligned f.alignment_dvd_size
    have here : Field.roundUp start f.alignment = start :=
      Field.roundUp_of_dvd f.alignment_pos aligned
    rw [Nat.succ_mul] at room
    have first := take_of_room op (f := f) (r := ⟨bytes, start⟩) (by rw [here]; simp only; omega)
    rw [here] at first
    refine bind_eq_ok_iff.2 ⟨_, first, bind_eq_ok_iff.2 ⟨_, ih next (by omega), ?_⟩⟩
    -- The entries behind the first one stand one place further.
    have shift : ∀ i, start + f.size + i * f.size = start + (i + 1) * f.size := by
      intro i
      rw [Nat.succ_mul]
      omega
    simp only [shift, List.range_succ_eq_map, List.map_cons, List.map_map]
    rw [Nat.zero_mul, Nat.add_zero]
    rfl

/-- What stands behind the count of a listing that can be believed. -/
theorem Frame.read_listing (f : Frame) (op : Operation) {label : String} {entry : Field}
    (regular : (Layout.listing label entry).Regular) {n : Nat} (count : f.count.toInt = n)
    (few : n ≤ 100) :
    (Layout.listing label entry).read op f.payload = .ok ((List.range n).map (f.entry entry)) := by
  have counts : IsCount (declaredCount f.payload) := by
    change IsCount f.count
    exact ⟨by omega, by omega⟩
  have number : (declaredCount f.payload).toInt.toNat = n := by
    change f.count.toInt.toNat = n
    omega
  have room : Field.int32.size + n * entry.size ≤ f.payload.length := by
    rw [f.payload_length]
    exact regular.entries_le few
  apply Layout.read_listing_of_isCount op label f.payload_length counts
  rw [number]
  exact Reader.takeEach_eq op (regular.entries label entry rfl) room

end Wire

/-- The four listings. -/
inductive Listing where
  | domains
  | definedDomains
  | networks
  | definedNetworks
  deriving DecidableEq, Repr

namespace Listing

/-- What is asked for a listing. -/
def request : Listing → Request
  | domains => .listDomains
  | definedDomains => .listDefinedDomains
  | networks => .listNetworks
  | definedNetworks => .listDefinedNetworks

/-- The call for a listing. -/
def call (capacity : Nat) : Listing → Call
  | domains => .listDomains capacity
  | definedDomains => .listDefinedDomains capacity
  | networks => .listNetworks capacity
  | definedNetworks => .listDefinedNetworks capacity

/-- The words for what is listed. -/
def label : Listing → String
  | domains => "domain ids"
  | definedDomains => "defined domains"
  | networks => "networks"
  | definedNetworks => "defined networks"

/-- Whether a listing is cut to what the caller can take; otherwise it has to fit. -/
def isCut : Listing → Bool
  | domains | definedDomains => true
  | networks | definedNetworks => false

/-- The first `n` entries of a frame: the numbers of running domains, and names of anything else. -/
def entries (f : Frame) (n : Nat) : Listing → List Int32 ⊕ List String
  | domains => .inl ((List.range n).map (f.entry .int32))
  | _ => .inr ((List.range n).map (f.entry Reply.nameField))

/-- The first entries of a frame, as a call gives them. -/
def given (f : Frame) (n : Nat) (l : Listing) : Call.Value := (l.entries f n).elim .ids .names

variable {l : Listing} {f : Frame} {n : Nat}

/-- A count that can be believed says how many entries a frame lists. -/
theorem decode_of_count (tag : f.header.tag = l.request.operation.tag) (count : f.count.toInt = n)
    (few : n ≤ 100) : Reply.decode f = .ok ((l.entries f n).elim .ids .names) := by
  have known : f.operation? = some l.request.operation := Frame.operation?_eq_some_iff.2 tag
  rw [Reply.decode_eq]
  rw [known]
  cases l with
  | domains =>
    exact bind_eq_ok_iff.2 ⟨_, f.read_listing _ (Reply.Kind.regular .ids) count few, rfl⟩
  | definedDomains | networks | definedNetworks =>
    exact bind_eq_ok_iff.2 ⟨_, f.read_listing _ (Reply.Kind.regular (.names _)) count few, rfl⟩

/-- A count that no listing can have is what is wrong with a frame. -/
theorem decode_of_miscount (tag : f.header.tag = l.request.operation.tag)
    (outside : f.count.toInt < 0 ∨ 100 < f.count.toInt) :
    Reply.decode f = .error (.countOutOfRange l.label f.count 100) := by
  refine Reply.decode_eq_error_iff.2 (.miscounted tag ?_ outside)
  cases l <;> rfl

theorem take_entries (g : Nat → α) (n capacity : Nat) :
    ((List.range n).map g).take capacity = (List.range (min n capacity)).map g := by
  rw [← List.map_take, List.take_range, Nat.min_comm]

/-- The errand of a call for a listing. -/
def errand (capacity : Nat) : Listing → Errand
  | domains => .wanting .listDomains none (fun | .ids entries => some entries | _ => none)
      fun ids => .give (.ids (ids.take capacity))
  | definedDomains => .wanting .listDefinedDomains none Reply.names?
      fun names => .give (.names (names.take capacity))
  | networks => .wanting .listNetworks none Reply.names? (.ofNames "networks" capacity)
  | definedNetworks =>
    .wanting .listDefinedNetworks none Reply.names? (.ofNames "defined networks" capacity)

theorem plan_call (l : Listing) (capacity : Nat) :
    (l.call capacity).plan = .ask (l.errand capacity) := by
  cases l <;> rfl

theorem request_errand (l : Listing) (capacity : Nat) :
    (l.errand capacity).request = l.request := by
  cases l <;> rfl

/-- A listing that is cut gives as many entries as there is room for. -/
theorem outcome_of_isCut (cut : l.isCut = true) (capacity : Nat) (b : Books) :
    (l.errand capacity).outcome b (.ok ((l.entries f n).elim .ids .names)) =
      .ok (l.given f (min n capacity)) := by
  cases l with
  | domains => exact congrArg (Except.ok ∘ Call.Value.ids) (take_entries _ n capacity)
  | definedDomains => exact congrArg (Except.ok ∘ Call.Value.names) (take_entries _ n capacity)
  | networks | definedNetworks => cases cut

/-- Names that have to fit are given whole or not at all. -/
theorem outcome_ofNames (r : Request) (what : String) (capacity : Nat) (b : Books)
    (g : Nat → String) (n : Nat) :
    (Errand.wanting r none Reply.names? (.ofNames what capacity)).outcome b
        (.ok (.names ((List.range n).map g))) =
      if n ≤ capacity then .ok (.names ((List.range n).map g))
      else .error (.capacityExceeded what n capacity) := by
  have length : ((List.range n).map g).length = n := by rw [List.length_map, List.length_range]
  simp only [Errand.outcome, Errand.conclude, Errand.wanting, Reply.names?, Option.map_some,
    Settlement.ofNames, length]
  by_cases fits : n ≤ capacity
  · rw [if_pos fits, if_neg (Nat.not_lt.2 fits)]
    rfl
  · rw [if_neg fits, if_pos (Nat.not_le.1 fits)]
    rfl

/-- A listing that is not cut gives all entries or none. -/
theorem outcome_of_not_isCut (whole : l.isCut = false) (capacity : Nat) (b : Books) :
    (l.errand capacity).outcome b (.ok ((l.entries f n).elim .ids .names)) =
      if n ≤ capacity then .ok (l.given f n)
      else .error (.capacityExceeded l.label n capacity) := by
  cases l with
  | domains | definedDomains => cases whole
  | networks | definedNetworks => exact outcome_ofNames _ _ capacity b _ n

end Listing

namespace Session

variable {σ : Type} [Peer σ] {s : Session σ} {r : Request} {reply : Frame}

/-- A frame comes back for a request: the request is sent, and the frame is received whole. -/
def Arrives (s : Session σ) (r : Request) (reply : Frame) : Prop :=
  ∃ sent stream, r.encode = .ok sent ∧ Exchange.transfer s.stream sent = (.ok reply, stream)

/-- Where nothing is in the way but what the peer sends, the frame comes back that the bytes begin
with which arrive. -/
theorem arrives_of_holds {sent : Frame} (encoded : r.encode = .ok sent)
    (faultless : s.stream.Faultless)
    (holds : Exchange.Holds (Exchange.arriving s.stream sent) reply) : s.Arrives r reply := by
  obtain ⟨pace, -, written⟩ :=
    Stream.writeAll_of_moves sent.toBytes faultless.roomy faultless.moves.writes
  have flushes : (s.stream.wrote sent.toBytes pace).flushFault = none := faultless.flushes
  obtain ⟨pace', frame⟩ := Exchange.receiveFrame_of_receipt
    (s := (s.stream.wrote sent.toBytes pace).handedOver) faultless.ends faultless.moves.reads
    (.whole holds)
  have moved : Exchange.transfer s.stream sent =
      Exchange.receiveFrame (s.stream.wrote sent.toBytes pace).handedOver := by
    simp only [Exchange.transfer, written, Stream.flush_eq, flushes]
  exact ⟨sent, _, encoded, moved.trans frame⟩

/-- What a request comes to whose frame comes back under its own tag: what the frame holds. Only one
that holds nothing ends the connection. -/
theorem request_of_arrives (on : s.connected = true) (arrives : s.Arrives r reply)
    (tag : reply.header.tag = r.operation.tag) :
    ∃ s', request r some s = ((Reply.decode reply).mapError .malformed, s') ∧
      s'.books = s.books ∧ s'.connected = (Reply.decode reply).isOk := by
  obtain ⟨sent, stream, encoded, moved⟩ := arrives
  have same : reply.header.tag = sent.header.tag := tag.trans (Request.of_encode encoded).1.symm
  have ran : Exchange.run s.stream sent = (.ok reply, stream, [Exchange.logEntry sent reply]) := by
    simp only [Exchange.run, moved, Exchange.judge_of_same same]
  unfold request
  simp only [encoded, on, if_true, note, ran, replyOf, noteAll_eq]
  cases Reply.decode reply with
  | ok value => exact ⟨_, rfl, rfl, rfl⟩
  | error e => exact ⟨_, rfl, rfl, rfl⟩

/-- A call for a listing gives as much of it as the caller has room for, in the order of the array:
of domains the first entries, of networks all or none. A count that no array has is what is wrong
with the reply, and ends the connection. -/
theorem listing_of_arrives (l : Listing) (capacity : Nat) (on : s.connected = true)
    (arrives : s.Arrives l.request reply) (tag : reply.header.tag = l.request.operation.tag) :
    ((reply.count.toInt < 0 ∨ 100 < reply.count.toInt) →
      (perform (l.call capacity) s).1 =
          .error (.malformed (.countOutOfRange l.label reply.count 100)) ∧
        (perform (l.call capacity) s).2.connected = false) ∧
    ∀ n : Nat, reply.count.toInt = n → n ≤ 100 →
      (perform (l.call capacity) s).2.connected = true ∧
      (l.isCut = true →
        (perform (l.call capacity) s).1 = .ok (l.given reply (min n capacity))) ∧
      (l.isCut = false → n ≤ capacity →
        (perform (l.call capacity) s).1 = .ok (l.given reply n)) ∧
      (l.isCut = false → capacity < n →
        (perform (l.call capacity) s).1 = .error (.capacityExceeded l.label n capacity)) := by
  obtain ⟨s', asked, books, still⟩ := request_of_arrives on arrives tag
  have performed : perform (l.call capacity) s =
      s'.conclude ((l.errand capacity).conclude s'.books ((Reply.decode reply).mapError .malformed))
      := by
    rw [perform_eq_follow, l.plan_call, follow, l.request_errand, asked]
  rw [performed, connected_conclude, outcome_conclude, still]
  -- What the frame holds decides about the connection, and the capacity only about the outcome.
  refine ⟨fun outside => ?_, fun n count few => ?_⟩
  · rw [Listing.decode_of_miscount tag outside]
    exact ⟨rfl, rfl⟩
  · rw [Listing.decode_of_count tag count few]
    have held := fun whole => l.outcome_of_not_isCut (f := reply) (n := n) whole capacity s'.books
    refine ⟨rfl, fun cut => Listing.outcome_of_isCut cut capacity _, fun whole fits => ?_,
      fun whole beyond => ?_⟩
    · exact (held whole).trans (if_pos fits)
    · exact (held whole).trans (if_neg (Nat.not_le.2 beyond))

/-- Two domains are listed, and a number stands behind them: with room for one the first is given,
and with more room than any array has both. -/
theorem listing_of_two_domains :
    let stream : Stream Unit := { Stream.toPeer () with
      incoming := [3, 0, 0, 0, 16, 0, 0, 0, 2, 0, 0, 0, 7, 0, 0, 0, 9, 0, 0, 0, 11, 0, 0, 0] }
    let s := start stream ⟨"/run/supervisor"⟩ .readOnly .keep .empty
    (perform (.listDomains 1) s).1 = .ok (.ids [7]) ∧
      (perform (.listDomains 150) s).1 = .ok (.ids [7, 9]) := by
  intro stream s
  obtain ⟨sent, encoded⟩ : ∃ sent, Request.encode .listDomains = .ok sent :=
    exists_of_isOk (by decide +kernel)
  let f : Frame := ⟨⟨3, 16⟩,
    [2, 0, 0, 0, 7, 0, 0, 0, 9, 0, 0, 0, 11, 0, 0, 0] ++ List.replicate 4992 0,
    by rw [List.length_append, List.length_replicate]; rfl, by decide⟩
  have holds : Exchange.Holds stream.incoming f := ⟨⟨by decide, rfl⟩, by decide, rfl⟩
  have faultless : s.stream.Faultless :=
    ⟨⟨Pace.moves_unlimited, Pace.moves_unlimited⟩, rfl, rfl, rfl⟩
  have arrives : s.Arrives .listDomains f := arrives_of_holds encoded faultless holds
  have count : f.count.toInt = (2 : Nat) := by decide +kernel
  have first : Listing.given f 1 .domains = .ids [7] := by decide +kernel
  have both : Listing.given f 2 .domains = .ids [7, 9] := by decide +kernel
  obtain ⟨-, cut, -⟩ := (listing_of_arrives .domains 1 rfl arrives rfl).2 2 count (by decide)
  obtain ⟨-, cut', -⟩ := (listing_of_arrives .domains 150 rfl arrives rfl).2 2 count (by decide)
  exact ⟨(cut rfl).trans (congrArg Except.ok first), (cut' rfl).trans (congrArg Except.ok both)⟩

end Session

end Supervisor

import GoldenGate.Gattlink.SendWindow

/-! # Sending in a session

Each direction of a session is a go-back-N window: `Half` relates an endpoint to the
window it sends in and to the one it receives in, and the packets on its wire to the
channels of both. The loop that sends packets keeps it, and leaves nothing to send.
-/

namespace GoldenGate.Gattlink

open Memory GoBackN

/-! ## What the clients have seen -/

/-- The payloads that were handed to the client. -/
def acceptedPayloads (log : List Event) : List (List UInt8) :=
  log.filterMap fun
    | .incomingDataAvailable payload => some payload
    | _ => none

/-- The bytes the client has queued. -/
def queuedBytes (log : List Event) : List UInt8 :=
  log.flatMap fun
    | .queued bytes => bytes
    | _ => []

/-- The number of bytes the client was told to consume. -/
def consumedBytes (log : List Event) : Nat :=
  (log.map fun
    | .consumeOutgoingData size => size
    | _ => 0).sum

@[simp] theorem acceptedPayloads_append (log log' : List Event) :
    acceptedPayloads (log ++ log') = acceptedPayloads log ++ acceptedPayloads log' :=
  List.filterMap_append

@[simp] theorem queuedBytes_append (log log' : List Event) :
    queuedBytes (log ++ log') = queuedBytes log ++ queuedBytes log' :=
  List.flatMap_append

@[simp] theorem consumedBytes_append (log log' : List Event) :
    consumedBytes (log ++ log') = consumedBytes log + consumedBytes log' := by
  simp [consumedBytes]

/-! ## Packets -/

/-- What is on the wire: a packet with an ack for the other direction and a payload of this
    one, with their numbers, or a control packet. -/
inductive Flight where
  | packet (ack : Option Nat) (payload : Option (Nat × List UInt8))
  | control (bytes : List UInt8)

namespace Flight

def ack : Flight → Option Nat
  | packet ack _ => ack
  | control _ => none

def payload : Flight → Option (Nat × List UInt8)
  | packet _ payload => payload
  | control _ => none

def IsPacket : Flight → Prop
  | packet _ _ => True
  | control _ => False

end Flight

def encodeAck (a : Nat) : UInt8 := dataPacketTypeWithAck ||| UInt8.ofNat (a % snWindowSize)

def encodeData (d : Nat × List UInt8) : List UInt8 := UInt8.ofNat (d.1 % snWindowSize) :: d.2

def Flight.encode : Flight → List UInt8
  | packet ack payload => (ack.map encodeAck).toList ++ (payload.map encodeData).getD []
  | control bytes => bytes

/-- The first payload on the wire is the first of the session, in a packet that the other
    side takes. -/
def Opens (sent : List (List UInt8)) (flights : List Flight) : Prop :=
  match flights.find? (·.payload.isSome) with
  | none => sent = []
  | some flight => flight.payload.map Prod.fst = some 0 ∧ flight.encode.length ≤ maxPacketSize

/-! ## One endpoint -/

/-- The client's queue has what is not acked, and what was not sent yet. -/
def Stream (queued outgoing : List UInt8) (sent : List (List UInt8)) (base : Nat) : Prop :=
  ∃ rest, queued = sent.flatten ++ rest ∧ outgoing = (sent.drop base).flatten ++ rest

/-- Where a session came from: what was logged before it, and the windows the endpoint asks for. -/
structure Origin where
  past : List Event
  desired : SessionConfig

/-- What was logged since a session began. -/
def Endpoint.since (side : Endpoint) (origin : Origin) : List Event := side.log.drop origin.past.length

/-- The endpoint is the sender of a window. -/
structure Sends (origin : Origin) (side : Endpoint) (size : Nat) (w : Window (List UInt8)) (next : Nat) : Prop where
  window : side.protocol.actualSessionCfg.maxTxWindowSize.toNat = size
  sn : Sn side.protocol.out w.sent w.base next
  base_le : w.base ≤ next
  next_le : next ≤ w.sent.length
  nonempty : ∀ payload ∈ w.sent, payload ≠ []
  stream : Stream (queuedBytes (side.since origin)) side.outgoing w.sent w.base
  consumed : consumedBytes (side.since origin) = (w.sent.take w.base).flatten.length

/-- The endpoint is the receiver of a window. Before anything has come there is nothing
    to ack. -/
structure Receives (origin : Origin) (side : Endpoint) (size : Nat) (w : Window (List UInt8)) : Prop where
  window : side.protocol.actualSessionCfg.maxRxWindowSize.toNat = size
  psn : side.protocol.in_.nextExpectedDataPsn = w.received % snWindowSize
  ackPsn : 0 < w.acked → side.protocol.out.psnToAckWith = (w.acked - 1) % snWindowSize
  silent : w.acked = 0 → side.protocol.out.ackTimer = none ∧ side.protocol.out.ackNow = false ∧
    side.protocol.out.outstandingUnackedPackets = 0
  free : w.received = 0 → side.protocol.in_.payloadBufferFull = false
  accepted : acceptedPayloads (side.since origin) = w.sent.take w.received

/-- An endpoint in the session that began at some place of its log, with what is on its wire. -/
structure Half (origin : Origin) (side : Endpoint) (tx rx : Nat) (out in_ : Window (List UInt8))
    (flights : List Flight) (next : Nat) : Prop where
  ready : side.protocol.state = .ready
  reliable : side.sendResults = []
  packetSize : resetCompletePacketSize ≤ side.transportMaxPacketSize
  logged : origin.past <+: side.log
  desired : side.protocol.desiredSessionCfg = origin.desired
  noReset : Event.sessionReset ∉ side.since origin
  sends : Sends origin side tx out next
  receives : Receives origin side rx in_
  wire : side.wire = flights.map Flight.encode
  data : out.data = flights.filterMap Flight.payload
  acks : in_.acks = flights.filterMap Flight.ack

/-! ## The next payload -/

theorem payloadBytes_all (sent : List (List UInt8)) {base k : Nat} (all : sent.length ≤ base + k) :
    payloadBytes sent base k = (sent.drop base).flatten.length := by
  rw [payloadBytes, List.take_of_length_le (by rw [List.length_drop]; omega)]

theorem getD_eq_nil_iff {sent : List (List UInt8)} (nonempty : ∀ payload ∈ sent, payload ≠ [])
    {i : Nat} : (sent.getD i []).length = 0 ↔ sent.length ≤ i := by
  rw [List.getD_eq_getElem?_getD]
  constructor
  · intro none
    by_contra inside
    rw [List.getElem?_eq_getElem (by omega), Option.getD_some, List.length_eq_zero_iff] at none
    exact nonempty _ (List.getElem_mem _) none
  · intro outside
    rw [List.getElem?_eq_none outside]
    rfl

/-- A payload that was sent before, taken from the queue again. -/
theorem stream_again {queued outgoing : List UInt8} {sent : List (List UInt8)} {base next : Nat}
    (stream : Stream queued outgoing sent base) (le : base ≤ next) {payload : List UInt8}
    (there : sent[next]? = some payload) :
    (outgoing.drop (payloadBytes sent base (next - base))).take payload.length = payload := by
  obtain ⟨rest, -, rfl⟩ := stream
  obtain ⟨inside, rfl⟩ := List.getElem?_eq_some_iff.mp there
  have split : (sent.drop base).flatten =
      ((sent.drop base).take (next - base)).flatten ++ (sent[next] ++ (sent.drop (next + 1)).flatten) := by
    rw [← List.flatten_cons, ← List.drop_eq_getElem_cons, ← List.flatten_append,
      ← Nat.add_sub_cancel' le, ← List.drop_drop, Nat.add_sub_cancel_left, List.take_append_drop]
  rw [split, List.append_assoc, payloadBytes, List.drop_left, List.append_assoc, List.take_left]

/-- A new payload, taken from the queue behind what is in flight. -/
theorem stream_new {queued outgoing : List UInt8} {sent : List (List UInt8)} {base : Nat}
    (stream : Stream queued outgoing sent base) (le : base ≤ sent.length) (n : Nat) :
    Stream queued outgoing
      (sent ++ [(outgoing.drop (payloadBytes sent base (sent.length - base))).take n]) base := by
  obtain ⟨rest, rfl, rfl⟩ := stream
  rw [payloadBytes_all sent (by omega), List.drop_left]
  refine ⟨rest.drop n, ?_, ?_⟩
  · simp [List.append_assoc]
  · rw [List.drop_append_of_le_length le]
    simp [List.append_assoc]

/-- What the queue has behind what is in flight. -/
theorem stream_length {queued outgoing : List UInt8} {sent : List (List UInt8)} {base : Nat}
    (stream : Stream queued outgoing sent base) {k : Nat} : payloadBytes sent base k ≤ outgoing.length := by
  obtain ⟨rest, -, rfl⟩ := stream
  have part : ((sent.drop base).take k).flatten.length ≤ (sent.drop base).flatten.length := by
    conv_rhs => rw [← List.take_append_drop k (sent.drop base), List.flatten_append, List.length_append]
    exact Nat.le_add_right _ _
  rw [payloadBytes, List.length_append]
  omega

/-! ## Sending -/

/-- Nothing of the state but the retransmission timer is different. -/
def SameButTimer (side side' : Endpoint) : Prop :=
  ∃ timer, side' = side.setOut { side.protocol.out with retransmitTimer := timer }

theorem sameButTimer_refl (side : Endpoint) : SameButTimer side side :=
  ⟨side.protocol.out.retransmitTimer, rfl⟩

theorem armRetransmit_same (side : Endpoint) : SameButTimer side side.armRetransmit := by
  unfold Endpoint.armRetransmit
  split
  · exact ⟨some expectedAckTimeout, rfl⟩
  · exact sameButTimer_refl side

/-- What the sender puts into a packet: nothing when all was sent, or the next payload. -/
inductive NextData (origin : Origin) (side : Endpoint) (room size : Nat) (w : Window (List UInt8)) (next : Nat) :
    Option (Nat × List UInt8) → List (List UInt8) → Nat → Prop where
  | none (all : next = w.sent.length) : NextData origin side room size w next none w.sent next
  | some {sent' : List (List UInt8)} {payload : List UInt8} (nonempty : payload ≠ [])
      (inside : next < w.base + size) (there : sent'[next]? = some payload)
      (new : sent' = w.sent ∨ next = w.sent.length ∧ sent' = w.sent ++ [payload] ∧ payload.length < room)
      (stream : Stream (queuedBytes (side.since origin)) side.outgoing sent' w.base) :
      NextData origin side room size w next (some (next, payload)) sent' (next + 1)

/-- The packet with that behind an ack. -/
def preparedOf (ack : List UInt8) : Option (Nat × List UInt8) → Option Endpoint.Prepared
  | none => if ack = [] then none else some ⟨ack, 0⟩
  | some d => some ⟨ack ++ encodeData d, d.2.length⟩

section Prepare

variable {origin : Origin} {side : Endpoint} {size next : Nat} {w : Window (List UInt8)}
  (sends : Sends origin side size w next) (valid : w.Valid size) (small : size < snWindowSize)
include sends valid small

/-- The data part of a packet. -/
theorem prepareData_spec (ack : List UInt8) {maxSize : Nat} (large : 2 ≤ maxSize) :
    ∃ side' data sent' next', side.prepareData ack maxSize = .ok (side', preparedOf ack data) ∧
      SameButTimer side side' ∧ NextData origin side maxSize size w next data sent' next' := by
  obtain ⟨window, sn, baseLe, nextLe, nonempty, stream, -⟩ := sends
  have sentLe := valid.sent_le
  have inFlight := sn.inFlight baseLe (by omega)
  have offset : side.protocol.out.getTotalNumBytesAwaitingAck =
      payloadBytes w.sent w.base (next - w.base) := by
    rw [Outbound.getTotalNumBytesAwaitingAck, sn.dataSn, ← sn.total (by omega : next - w.base < _),
      Nat.add_sub_cancel' baseLe]
  have dataSize := sn.sizes next baseLe (by omega)
  rw [← sn.dataSn] at dataSize
  unfold Endpoint.prepareData
  simp only [inFlight, window, offset]
  by_cases full : next - w.base ≥ size
  · rw [if_pos full]
    exact ⟨side, none, _, _, rfl, sameButTimer_refl side, .none (by omega)⟩
  rw [if_neg full]
  by_cases empty : side.outgoing.length = 0
  · rw [if_pos empty]
    refine ⟨side, none, _, _, rfl, sameButTimer_refl side, .none ?_⟩
    obtain ⟨rest, -, isOutgoing⟩ := stream
    rw [isOutgoing, List.length_append] at empty
    by_contra more
    have last : (w.sent.drop w.base).flatten = [] := List.length_eq_zero_iff.mp (by omega)
    rw [List.flatten_eq_nil_iff] at last
    have inside : w.base < w.sent.length := by omega
    exact nonempty w.sent[w.base] (List.getElem_mem inside)
      (last _ (by rw [List.drop_eq_getElem_cons inside]; exact List.mem_cons_self))
  rw [if_neg empty]
  unfold Endpoint.nextDataSize
  rw [dataSize]
  by_cases old : next < w.sent.length
  · have present : ¬ (w.sent.getD next []).length = 0 := by
      rw [getD_eq_nil_iff nonempty]
      omega
    have there : w.sent[next]? = some w.sent[next] := List.getElem?_eq_getElem old
    have isPayload : w.sent.getD next [] = w.sent[next] := by
      rw [List.getD_eq_getElem?_getD, there, Option.getD_some]
    simp only [present, if_false, pure_ok, ok_bind]
    rw [isPayload, stream_again stream baseLe there, sn.dataSn]
    exact ⟨_, some (next, w.sent[next]), _, _, rfl, armRetransmit_same side,
      .some (nonempty _ (List.getElem_mem old)) (by omega) there (.inl rfl) stream⟩
  · obtain rfl : next = w.sent.length := by omega
    have absent := (getD_eq_nil_iff nonempty).mpr (Nat.le_refl w.sent.length)
    have covers : payloadBytes w.sent w.base (w.sent.length - w.base) ≤ side.outgoing.length :=
      stream_length stream
    simp only [absent, if_true, assert_of covers, pure_ok, ok_bind]
    generalize sizeEq : min (side.outgoing.length -
      payloadBytes w.sent w.base (w.sent.length - w.base)) (maxSize - 1) = n
    by_cases nothing : n = 0
    · rw [if_pos nothing]
      exact ⟨side, none, _, _, rfl, sameButTimer_refl side, .none rfl⟩
    rw [if_neg nothing]
    have isNew := stream_new stream baseLe n
    have length : ((side.outgoing.drop
        (payloadBytes w.sent w.base (w.sent.length - w.base))).take n).length = n := by
      rw [List.length_take, List.length_drop]
      omega
    generalize (side.outgoing.drop
      (payloadBytes w.sent w.base (w.sent.length - w.base))).take n = payload at *
    subst length
    rw [sn.dataSn]
    have present : payload ≠ [] := by
      rintro rfl
      exact nothing rfl
    exact ⟨_, some (w.sent.length, payload), _, _, rfl, armRetransmit_same side,
      .some present (by omega) List.getElem?_concat_length (.inr ⟨rfl, rfl, by omega⟩) isNew⟩

end Prepare

theorem encodeAck_type (a : Nat) :
    encodeAck a &&& dataPacketTypeWithAck = dataPacketTypeWithAck := by
  have all : ∀ n < 32, (0x40 ||| UInt8.ofNat n) &&& 0x40 = 0x40 := by decide
  exact all (a % snWindowSize) (Nat.mod_lt _ (by decide))

theorem encodeData_type (i : Nat) :
    UInt8.ofNat (i % snWindowSize) &&& dataPacketTypeWithAck ≠ dataPacketTypeWithAck := by
  have all : ∀ n < 32, UInt8.ofNat n &&& 0x40 ≠ 0x40 := by decide
  exact all (i % snWindowSize) (Nat.mod_lt _ (by decide))

/-- The first byte of a packet says whether it has an ack. -/
theorem encode_type {ack : Option Nat} {data : Option (Nat × List UInt8)}
    (nonempty : (Flight.packet ack data).encode ≠ []) :
    (Flight.packet ack data).encode.headD 0 &&& dataPacketTypeWithAck = dataPacketTypeWithAck ↔
      ack.isSome := by
  cases ack with
  | some a => simpa [Flight.encode] using encodeAck_type a
  | none =>
      cases data with
      | none => simp [Flight.encode] at nonempty
      | some d => simpa [Flight.encode, encodeData] using encodeData_type d.1

/-- What the peer of an endpoint relies on: of the windows of the two it sees only new
    payloads. -/
structure Keeps (out out' in_ in_' : Window (List UInt8)) : Prop where
  received : out'.received = out.received
  acked : out'.acked = out.acked
  sent : ∃ more, out'.sent = out.sent ++ more
  inSent : in_'.sent = in_.sent
  inBase : in_'.base = in_.base

/-- What an endpoint that sends does to its two windows: new payloads, transmissions and
    acks, but nothing that the other side tells it. -/
structure Moves (out out' in_ in_' : Window (List UInt8)) : Prop extends Keeps out out' in_ in_' where
  base : out'.base = out.base
  acks : out'.acks = out.acks
  inReceived : in_'.received = in_.received
  inAcked : in_'.acked = in_.acked
  inData : in_'.data = in_.data

theorem Keeps.refl (out in_ : Window (List UInt8)) : Keeps out out in_ in_ :=
  ⟨rfl, rfl, ⟨[], by simp⟩, rfl, rfl⟩

theorem Keeps.trans {out out' out'' in_ in_' in_'' : Window (List UInt8)}
    (first : Keeps out out' in_ in_') (second : Keeps out' out'' in_' in_'') :
    Keeps out out'' in_ in_'' := by
  obtain ⟨received, acked, ⟨more, sent⟩, inSent, inBase⟩ := first
  obtain ⟨received', acked', ⟨more', sent'⟩, inSent', inBase'⟩ := second
  exact ⟨received'.trans received, acked'.trans acked,
    ⟨more ++ more', by rw [sent', sent, List.append_assoc]⟩, inSent'.trans inSent,
    inBase'.trans inBase⟩

theorem Moves.refl (out in_ : Window (List UInt8)) : Moves out out in_ in_ :=
  ⟨Keeps.refl out in_, rfl, rfl, rfl, rfl, rfl⟩

theorem Moves.trans {out out' out'' in_ in_' in_'' : Window (List UInt8)}
    (first : Moves out out' in_ in_') (second : Moves out' out'' in_' in_'') :
    Moves out out'' in_ in_'' :=
  ⟨first.toKeeps.trans second.toKeeps, second.base.trans first.base, second.acks.trans first.acks,
    second.inReceived.trans first.inReceived, second.inAcked.trans first.inAcked,
    second.inData.trans first.inData⟩

/-- An ack is due. -/
def AckPending (side : Endpoint) : Prop :=
  side.protocol.out.ackNow ∨ side.protocol.out.outstandingUnackedPackets >
    side.protocol.actualSessionCfg.maxRxWindowSize.toNat / 2

instance (side : Endpoint) : Decidable (AckPending side) := by
  unfold AckPending
  infer_instance

section Turn

variable {origin : Origin} {side : Endpoint} {tx rx next : Nat} {out in_ : Window (List UInt8)} {flights : List Flight}
  (half : Half origin side tx rx out in_ flights next)
include half

/-- Only something that has come is acked. -/
theorem Half.acked_pos (pending : AckPending side) : 0 < in_.acked := by
  by_contra none
  obtain ⟨-, notNow, few⟩ := half.receives.silent (by omega)
  rw [AckPending, notNow, few] at pending
  simp at pending

/-- The ack of a packet, and its data. -/
theorem prepareNextPacket_spec (valid : out.Valid tx) (small : tx < snWindowSize) :
    ∃ side' ack data sent' next' room,
      side.prepareNextPacket = .ok (side', preparedOf (ack.map encodeAck).toList data) ∧
      SameButTimer side side' ∧ NextData origin side room tx out next data sent' next' ∧
      (ack.map encodeAck).toList.length + room ≤ maxPacketSize ∧
      ack = if AckPending side then some (in_.acked - 1) else none := by
  have packetSize := half.packetSize
  have large : min side.transportMaxPacketSize maxPacketSize ≥ resetCompletePacketSize := by
    unfold resetCompletePacketSize maxPacketSize at *
    omega
  unfold Endpoint.prepareNextPacket
  simp only [assert_of large, ok_bind]
  unfold resetCompletePacketSize at large
  by_cases pending : AckPending side
  · have some_ := half.acked_pos pending
    obtain ⟨side', data, sent', next', prepares, same, isNext⟩ := prepareData_spec half.sends valid small
      [dataPacketTypeWithAck ||| UInt8.ofNat side.protocol.out.psnToAckWith]
      (by omega : 2 ≤ min side.transportMaxPacketSize maxPacketSize - 1)
    refine ⟨side', some (in_.acked - 1), data, sent', next', _, ?_, same, isNext, ?_, by rw [if_pos pending]⟩
    · unfold AckPending at pending
      rw [if_pos pending, prepares, half.receives.ackPsn some_]
      rfl
    · simp only [Option.map_some, Option.toList_some, List.length_singleton]
      omega
  · obtain ⟨side', data, sent', next', prepares, same, isNext⟩ := prepareData_spec half.sends valid small
      [] (by omega : 2 ≤ min side.transportMaxPacketSize maxPacketSize)
    refine ⟨side', none, data, sent', next', _, ?_, same, isNext, ?_, by rw [if_neg pending]⟩
    · unfold AckPending at pending
      rw [if_neg pending, prepares]
      rfl
    · simp only [Option.map_none, Option.toList_none, List.length_nil]
      omega

end Turn

/-- The outbound state after a packet. -/
theorem packetSent_eq (side : Endpoint) {ack : Option Nat} {data : Option (Nat × List UInt8)}
    (nonempty : (Flight.packet ack data).encode ≠ []) (payloadSize : Nat) :
    side.packetSent ⟨(Flight.packet ack data).encode, payloadSize⟩ =
      let out := if ack.isSome then side.protocol.out.ackSent else side.protocol.out
      side.setOut (if payloadSize > 0 then out.dataSent payloadSize else out) := by
  simp only [Endpoint.packetSent, encode_type nonempty]

theorem sendRawData_reliable {side : Endpoint} (reliable : side.sendResults = [])
    (packet : List UInt8) :
    side.sendRawData packet = ({ side with wire := side.wire ++ [packet] }, .ok ()) := by
  unfold Endpoint.sendRawData
  rw [reliable]
  obtain ⟨protocol, outgoing, size, results, wire, log⟩ := side
  simp only at reliable
  rw [reliable]
  rfl

/-- Only the fields of the window matter. -/
theorem Sn.congr {out out' : Outbound} {sent : List (List UInt8)} {base next : Nat}
    (sn : Sn out sent base next) (ackSn : out'.nextExpectedAckSn = out.nextExpectedAckSn)
    (dataSn : out'.nextDataSn = out.nextDataSn) (sizes : out'.payloadSizes = out.payloadSizes) :
    Sn out' sent base next :=
  ⟨ackSn.trans sn.ackSn, dataSn.trans sn.dataSn, sizes ▸ sn.sizes⟩

theorem NextData.sn {origin : Origin} {side : Endpoint} {room size next next' : Nat} {w : Window (List UInt8)}
    {data : Option (Nat × List UInt8)} {sent' : List (List UInt8)}
    (isNext : NextData origin side room size w next data sent' next') {out : Outbound}
    (sn : Sn out w.sent w.base next) (baseLe : w.base ≤ next) (small : size < snWindowSize) :
    Sn (if (data.map fun d => d.2.length).getD 0 > 0 then
        out.dataSent ((data.map fun d => d.2.length).getD 0) else out) sent' w.base next' := by
  cases isNext with
  | none => simpa using sn
  | @some sent' payload nonempty inside there new stream =>
      have long : payload.length > 0 := List.length_pos_iff.mpr nonempty
      simp only [Option.map_some, Option.getD_some, if_pos long]
      apply sn.sendNext baseLe (by omega) there
      intro i other
      obtain rfl | ⟨isLast, rfl, -⟩ := new
      · rfl
      · rw [List.getD_eq_getElem?_getD, List.getD_eq_getElem?_getD]
        by_cases before : i < w.sent.length
        · rw [List.getElem?_append_left before]
        · have behind : (w.sent ++ [payload]).length ≤ i := by
            rw [List.length_append, List.length_singleton]
            omega
          rw [List.getElem?_eq_none behind, List.getElem?_eq_none (by omega)]

theorem NextData.valid {origin : Origin} {side : Endpoint} {room size next next' : Nat} {w : Window (List UInt8)}
    {data : Option (Nat × List UInt8)} {sent' : List (List UInt8)}
    (isNext : NextData origin side room size w next data sent' next') (valid : w.Valid size)
    (baseLe : w.base ≤ next) :
    ({ w with sent := sent', data := w.data ++ data.toList } : Window (List UInt8)).Valid size := by
  cases isNext with
  | none => simpa using valid
  | @some sent' payload nonempty inside there new stream =>
      obtain rfl | ⟨isLast, rfl, -⟩ := new
      · exact valid.send baseLe there
      · exact (valid.push payload (by omega)).send baseLe there

theorem NextData.sends {origin : Origin} {side : Endpoint} {room size next next' : Nat} {w : Window (List UInt8)}
    {data : Option (Nat × List UInt8)} {sent' : List (List UInt8)}
    (isNext : NextData origin side room size w next data sent' next') (sends : Sends origin side size w next) :
    w.base ≤ next' ∧ next' ≤ sent'.length ∧ (∀ payload ∈ sent', payload ≠ []) ∧
      Stream (queuedBytes (side.since origin)) side.outgoing sent' w.base ∧
      sent'.take w.base = w.sent.take w.base ∧ (∃ more, sent' = w.sent ++ more) := by
  have baseLe := sends.base_le
  have nextLe := sends.next_le
  cases isNext with
  | none =>
      exact ⟨baseLe, nextLe, sends.nonempty, sends.stream, rfl, [], by simp⟩
  | @some sent' payload nonempty inside there new stream =>
      have nextLt := (List.getElem?_eq_some_iff.mp there).1
      refine ⟨by omega, nextLt, ?_, stream, ?_⟩
      · obtain rfl | ⟨isLast, rfl, -⟩ := new
        · exact sends.nonempty
        · intro other member
          obtain old | rfl := (List.mem_append.mp member).imp_right List.mem_singleton.mp
          · exact sends.nonempty other old
          · exact nonempty
      · obtain rfl | ⟨isLast, rfl, -⟩ := new
        · exact ⟨rfl, [], by simp⟩
        · exact ⟨List.take_append_of_le_length (by omega), [payload], rfl⟩

section Sent

variable {origin : Origin} {side side' : Endpoint} {tx rx room next next' : Nat} {out in_ : Window (List UInt8)}
  {flights : List Flight} {ack : Option Nat} {data : Option (Nat × List UInt8)}
  {sent' : List (List UInt8)}

/-- A packet was sent. -/
theorem Half.afterSend (half : Half origin side tx rx out in_ flights next) (same : SameButTimer side side')
    (isNext : NextData origin side room tx out next data sent' next') (small : tx < snWindowSize)
    (nonempty : (Flight.packet ack data).encode ≠ []) :
    Half origin ((side'.sendRawData (Flight.packet ack data).encode).1.packetSent
        ⟨(Flight.packet ack data).encode, (data.map fun d => d.2.length).getD 0⟩) tx rx
      { out with sent := sent', data := out.data ++ data.toList }
      { in_ with acks := in_.acks ++ ack.toList } (flights ++ [Flight.packet ack data]) next' := by
  obtain ⟨timer, rfl⟩ := same
  obtain ⟨ready, reliable, packetSize, logged, desired, noReset, sends, receives, wire, isData, isAcks⟩ := half
  obtain ⟨baseLe, nextLe, payloads, stream, acked, -⟩ := isNext.sends sends
  have reliable' : (side.setOut { side.protocol.out with retransmitTimer := timer }).sendResults = [] :=
    reliable
  rw [sendRawData_reliable reliable', packetSent_eq _ nonempty]
  refine ⟨ready, reliable, packetSize, logged, desired, noReset, ?_, ?_, ?_, ?_, ?_⟩
  · refine ⟨sends.window, ?_, baseLe, nextLe, payloads, stream, ?_⟩
    · apply isNext.sn _ sends.base_le small
      apply sends.sn.congr <;> cases ack <;> rfl
    · rw [acked]
      exact sends.consumed
  · refine ⟨receives.window, receives.psn, ?_, ?_, receives.free, receives.accepted⟩
    · intro some_
      rw [← receives.ackPsn some_]
      simp only [Endpoint.setOut]
      split <;> cases ack <;> rfl
    · intro none_
      obtain ⟨timer_, now, few⟩ := receives.silent none_
      simp only [Endpoint.setOut]
      cases ack with
      | none => split <;> exact ⟨timer_, now, few⟩
      | some a => split <;> exact ⟨rfl, rfl, rfl⟩
  · change side.wire ++ [_] = _
    rw [wire, List.map_append]
    rfl
  · rw [List.filterMap_append, ← isData]
    cases data <;> rfl
  · rw [List.filterMap_append, ← isAcks]
    cases ack <;> rfl

end Sent

/-- The timer is not part of the window. -/
theorem Half.timer {origin : Origin} {side side' : Endpoint} {tx rx next : Nat} {out in_ : Window (List UInt8)}
    {flights : List Flight} (half : Half origin side tx rx out in_ flights next)
    (same : SameButTimer side side') : Half origin side' tx rx out in_ flights next := by
  obtain ⟨timer, rfl⟩ := same
  obtain ⟨ready, reliable, packetSize, logged, desired, noReset, sends, receives, wire, isData, isAcks⟩ := half
  exact ⟨ready, reliable, packetSize, logged, desired, noReset,
    ⟨sends.window, sends.sn.congr rfl rfl rfl, sends.base_le, sends.next_le, sends.nonempty,
      sends.stream, sends.consumed⟩,
    ⟨receives.window, receives.psn, receives.ackPsn, receives.silent, receives.free, receives.accepted⟩, wire, isData,
    isAcks⟩

theorem preparedOf_eq {ack : Option Nat} {data : Option (Nat × List UInt8)}
    (something : ¬ (ack = none ∧ data = none)) :
    preparedOf (ack.map encodeAck).toList data =
        some ⟨(Flight.packet ack data).encode, (data.map fun d => d.2.length).getD 0⟩ ∧
      (Flight.packet ack data).encode ≠ [] := by
  cases data with
  | some d => exact ⟨rfl, by simp [Flight.encode, encodeData]⟩
  | none =>
      cases ack with
      | some a => exact ⟨by simp [preparedOf, Flight.encode], by simp [Flight.encode]⟩
      | none => exact absurd ⟨rfl, rfl⟩ something

/-- After a packet no ack is due. -/
theorem afterSend_notPending {side side' : Endpoint} (same : SameButTimer side side')
    {ack : Option Nat} {data : Option (Nat × List UInt8)} {a : Nat}
    (isAck : ack = if AckPending side then some a else none)
    (nonempty : (Flight.packet ack data).encode ≠ []) (wire : List (List UInt8)) (payloadSize : Nat) :
    ¬ AckPending (({ side' with wire := wire } : Endpoint).packetSent
      ⟨(Flight.packet ack data).encode, payloadSize⟩) := by
  obtain ⟨timer, rfl⟩ := same
  rw [packetSent_eq _ nonempty]
  by_cases pending : AckPending side
  · rw [if_pos pending] at isAck
    subst isAck
    simp only [Option.isSome_some, if_true, AckPending, Endpoint.setOut]
    split <;> simp [Outbound.dataSent, Outbound.setPayloadSize, Outbound.ackSent]
  · rw [if_neg pending] at isAck
    subst isAck
    simp only [Option.isSome_none, Bool.false_eq_true, if_false]
    split
    · exact pending
    · exact pending

/-- New packets are behind the others. -/
structure Grows (sent sent' : List (List UInt8)) (flights flights' : List Flight) : Prop where
  more : ∃ more, flights' = flights ++ more ∧ ∀ flight ∈ more, flight.IsPacket
  opens : Opens sent flights → Opens sent' flights'

theorem Grows.refl (sent : List (List UInt8)) (flights : List Flight) : Grows sent sent flights flights :=
  ⟨⟨[], by simp, by simp⟩, id⟩

theorem Grows.trans {sent sent' sent'' : List (List UInt8)} {flights flights' flights'' : List Flight}
    (first : Grows sent sent' flights flights') (second : Grows sent' sent'' flights' flights'') :
    Grows sent sent'' flights flights'' := by
  obtain ⟨⟨more, rfl, packets⟩, opens⟩ := first
  obtain ⟨⟨more', rfl, packets'⟩, opens'⟩ := second
  refine ⟨⟨more ++ more', List.append_assoc _ _ _, ?_⟩, opens' ∘ opens⟩
  intro flight member
  exact (List.mem_append.mp member).elim (packets flight) (packets' flight)

/-- The first payload that is sent opens the session. -/
theorem NextData.grows {origin : Origin} {side : Endpoint} {room size next next' : Nat}
    {w : Window (List UInt8)} {ack : Option Nat} {data : Option (Nat × List UInt8)}
    {sent' : List (List UInt8)} (isNext : NextData origin side room size w next data sent' next')
    (baseLe : w.base ≤ next) (nextLe : next ≤ w.sent.length)
    (fits : (ack.map encodeAck).toList.length + room ≤ maxPacketSize) (flights : List Flight) :
    Grows w.sent sent' flights (flights ++ [Flight.packet ack data]) := by
  refine ⟨⟨[.packet ack data], rfl, by simp [Flight.IsPacket]⟩, ?_⟩
  intro opens
  unfold Opens at *
  rw [List.find?_append]
  cases found : flights.find? (·.payload.isSome) with
  | some flight =>
      rw [found] at opens
      exact opens
  | none =>
      rw [found] at opens
      simp only at opens
      cases isNext with
      | none all => simpa [Flight.payload] using opens
      | @some sent' payload nonempty inside there new stream =>
          obtain rfl | ⟨isLast, rfl, short⟩ := new
          · rw [opens] at there
            simp at there
          · rw [opens, List.length_nil] at isLast
            subst isLast
            simp only [Flight.payload, Option.isSome_some, List.find?_cons_of_pos, Option.none_or,
              Option.map_some, true_and, Flight.encode, List.length_append, Option.getD_some, encodeData,
              List.length_cons]
            omega

/-- An operation of an endpoint comes back with everything sent, and its windows have moved. -/
def Settles (origin : Origin) (tx rx : Nat) (out in_ : Window (List UInt8)) (flights : List Flight)
    (result : Access Endpoint) : Prop :=
  ∃ side' out' in_' flights', result = .ok side' ∧
    Half origin side' tx rx out' in_' flights' out'.sent.length ∧ out'.Valid tx ∧ in_'.Valid rx ∧
    Moves out out' in_ in_' ∧ Grows out.sent out'.sent flights flights'

/-- How many more turns the loop may take: the payloads that still fit into the window,
    and an ack. -/
def turnsLeft (side : Endpoint) (w : Window (List UInt8)) (size next : Nat) : Nat :=
  w.base + size - next + if AckPending side then 1 else 0

/-- The loop sends what there is to send, and then everything was sent. -/
theorem sendNextPackets_settles {origin : Origin} {tx rx : Nat} (small : tx < snWindowSize) :
    ∀ {turns : Nat} {side : Endpoint} {next : Nat} {out in_ : Window (List UInt8)}
      {flights : List Flight},
      Half origin side tx rx out in_ flights next → out.Valid tx → in_.Valid rx →
      turnsLeft side out tx next < turns →
      Settles origin tx rx out in_ flights (Endpoint.sendNextPackets turns side) := by
  intro turns
  induction turns with
  | zero =>
      intro side next out in_ flights half validOut validIn enough
      omega
  | succ turns ih =>
      intro side next out in_ flights half validOut validIn enough
      obtain ⟨side', ack, data, sent', next', room, prepares, same, isNext, fits, isAck⟩ :=
        prepareNextPacket_spec half validOut small
      unfold Endpoint.sendNextPackets
      rw [prepares, ok_bind]
      by_cases nothing : ack = none ∧ data = none
      · obtain ⟨rfl, rfl⟩ := nothing
        cases isNext with
        | none all =>
            refine ⟨side', out, in_, flights, rfl, ?_, validOut, validIn, Moves.refl out in_,
              Grows.refl _ _⟩
            rw [← all]
            exact half.timer same
      · obtain ⟨prepared, nonempty⟩ := preparedOf_eq nothing
        have half' := half.afterSend same isNext small nonempty
        have reliable : side'.sendResults = [] := (half.timer same).reliable
        rw [sendRawData_reliable reliable] at half'
        have notPending := afterSend_notPending same isAck nonempty (side'.wire ++
          [(Flight.packet ack data).encode]) ((data.map fun d => d.2.length).getD 0)
        obtain ⟨-, -, -, -, -, more⟩ := isNext.sends half.sends
        have validIn' : ({ in_ with acks := in_.acks ++ ack.toList } : Window (List UInt8)).Valid rx := by
          cases ack with
          | none => simpa using validIn
          | some a =>
              split at isAck
              · next pending =>
                  cases isAck
                  exact validIn.sendAck (half.acked_pos pending)
              · cases isAck
        have fewer : turnsLeft (({ side' with
                wire := side'.wire ++ [(Flight.packet ack data).encode] } : Endpoint).packetSent
              ⟨(Flight.packet ack data).encode, (data.map fun d => d.2.length).getD 0⟩)
            { out with sent := sent', data := out.data ++ data.toList } tx next' < turns := by
          unfold turnsLeft at enough ⊢
          rw [if_neg notPending]
          cases isNext with
          | none all =>
              have pending : AckPending side := by
                by_contra notNow
                rw [if_neg notNow] at isAck
                exact nothing ⟨isAck, rfl⟩
              rw [if_pos pending] at enough
              simp only
              omega
          | some nonempty inside =>
              simp only
              omega
        obtain ⟨side'', out'', in_'', flights'', sends'', half'', validOut'', validIn'', moves, grows⟩ :=
          ih half' (isNext.valid validOut half.sends.base_le) validIn' fewer
        have grows' := isNext.grows half.sends.base_le half.sends.next_le fits flights
        refine ⟨side'', out'', in_'', flights'', ?_, half'', validOut'', validIn'', ?_, grows'.trans grows⟩
        · rw [prepared]
          simp only [sendRawData_reliable reliable]
          exact sends''
        · have first : Moves out { out with sent := sent', data := out.data ++ data.toList } in_
              { in_ with acks := in_.acks ++ ack.toList } :=
            ⟨⟨rfl, rfl, more, rfl, rfl⟩, rfl, rfl, rfl, rfl, rfl⟩
          exact first.trans moves

end GoldenGate.Gattlink

import GoldenGate.Gattlink.Sending

/-! # Receiving in a session

What the client, a packet of the peer or a timer does to an endpoint in a session. Every
operation keeps its `Half`, and changes of the two windows only what its peer does not
rely on.
-/

namespace GoldenGate.Gattlink

open Memory GoBackN

/-! ## The client -/

/-- Nothing that a window is about is different. -/
structure SameWindow (side side' : Endpoint) : Prop where
  state : side'.protocol.state = side.protocol.state
  session : side'.protocol.actualSessionCfg = side.protocol.actualSessionCfg
  desired : side'.protocol.desiredSessionCfg = side.protocol.desiredSessionCfg
  out : side'.protocol.out = side.protocol.out
  psn : side'.protocol.in_.nextExpectedDataPsn = side.protocol.in_.nextExpectedDataPsn
  free : side.protocol.in_.payloadBufferFull = false → side'.protocol.in_.payloadBufferFull = false
  outgoing : side'.outgoing = side.outgoing
  packetSize : resetCompletePacketSize ≤ side.transportMaxPacketSize →
    resetCompletePacketSize ≤ side'.transportMaxPacketSize
  sendResults : side'.sendResults = side.sendResults
  wire : side'.wire = side.wire
  log : side'.log = side.log ∨ ∃ time, side'.log = side.log ++ [Event.sessionStalled time]

theorem drop_concat {α : Type} {past log : List α} (logged : past <+: log) (x : α) :
    (log ++ [x]).drop past.length = log.drop past.length ++ [x] :=
  List.drop_append_of_le_length logged.length_le

/-- A stall is nothing for the windows. -/
theorem SameWindow.since {side side' : Endpoint} (same : SameWindow side side') {origin : Origin}
    (logged : origin.past <+: side.log) (noReset : Event.sessionReset ∉ side.since origin) :
    origin.past <+: side'.log ∧ Event.sessionReset ∉ side'.since origin ∧
      queuedBytes (side'.since origin) = queuedBytes (side.since origin) ∧
      acceptedPayloads (side'.since origin) = acceptedPayloads (side.since origin) ∧
      consumedBytes (side'.since origin) = consumedBytes (side.since origin) := by
  unfold Endpoint.since at *
  obtain isLog | ⟨time, isLog⟩ := same.log
  · rw [isLog]
    exact ⟨logged, noReset, rfl, rfl, rfl⟩
  · rw [isLog, drop_concat logged]
    refine ⟨logged.trans (List.prefix_append _ _), by simpa using noReset, ?_, ?_, ?_⟩
    · simp [queuedBytes]
    · simp [acceptedPayloads]
    · simp [consumedBytes]

theorem Half.congr {origin : Origin} {side side' : Endpoint} {tx rx next : Nat}
    {out in_ : Window (List UInt8)} {flights : List Flight}
    (half : Half origin side tx rx out in_ flights next) (same : SameWindow side side') :
    Half origin side' tx rx out in_ flights next := by
  obtain ⟨ready, reliable, packetSize, logged, desired, noReset, sends, receives, wire, isData, isAcks⟩ := half
  obtain ⟨logged', noReset', queued, accepted, consumed⟩ := same.since logged noReset
  refine ⟨same.state.trans ready, same.sendResults.trans reliable, same.packetSize packetSize, logged',
    same.desired.trans desired, noReset', ?_, ?_, same.wire.trans wire, isData, isAcks⟩
  · refine ⟨?_, ?_, sends.base_le, sends.next_le, sends.nonempty, ?_, ?_⟩
    · rw [same.session]
      exact sends.window
    · rw [same.out]
      exact sends.sn
    · rw [queued, same.outgoing]
      exact sends.stream
    · rw [consumed]
      exact sends.consumed
  · refine ⟨?_, ?_, ?_, ?_, ?_, ?_⟩
    · rw [same.session]
      exact receives.window
    · rw [same.psn]
      exact receives.psn
    · rw [same.out]
      exact receives.ackPsn
    · rw [same.out]
      exact receives.silent
    · exact same.free ∘ receives.free
    · rw [accepted]
      exact receives.accepted

/-- The channels to an endpoint are not part of its half. -/
theorem Half.channels {origin : Origin} {side : Endpoint} {tx rx next : Nat} {out in_ : Window (List UInt8)}
    {flights : List Flight} (half : Half origin side tx rx out in_ flights next) {acks : List Nat}
    {data : List (Nat × List UInt8)} :
    Half origin side tx rx { out with acks := acks } { in_ with data := data } flights next := by
  obtain ⟨ready, reliable, packetSize, logged, desired, noReset, sends, receives, wire, isData, isAcks⟩ := half
  exact ⟨ready, reliable, packetSize, logged, desired, noReset,
    ⟨sends.window, sends.sn, sends.base_le, sends.next_le, sends.nonempty, sends.stream,
      sends.consumed⟩,
    ⟨receives.window, receives.psn, receives.ackPsn, receives.silent, receives.free, receives.accepted⟩, wire, isData,
    isAcks⟩

/-- An endpoint at the beginning of a session. The client may have queued something already. -/
structure Begins (origin : Origin) (side : Endpoint) (tx rx : Nat) : Prop where
  ready : side.protocol.state = .ready
  txWindow : side.protocol.actualSessionCfg.maxTxWindowSize.toNat = tx
  rxWindow : side.protocol.actualSessionCfg.maxRxWindowSize.toNat = rx
  out : side.protocol.out = .zero
  in_ : side.protocol.in_ = .zero
  packetSize : resetCompletePacketSize ≤ side.transportMaxPacketSize
  reliable : side.sendResults = []
  logged : origin.past <+: side.log
  desired : side.protocol.desiredSessionCfg = origin.desired
  noReset : Event.sessionReset ∉ side.since origin
  queued : queuedBytes (side.since origin) = side.outgoing
  accepted : acceptedPayloads (side.since origin) = []
  consumed : consumedBytes (side.since origin) = 0

theorem Begins.half {origin : Origin} {side : Endpoint} {tx rx : Nat} (begins : Begins origin side tx rx)
    {out in_ : Window (List UInt8)} {flights : List Flight} (sent : out.sent = []) (base : out.base = 0)
    (received : in_.received = 0) (acked : in_.acked = 0) (wire : side.wire = flights.map Flight.encode)
    (data : out.data = flights.filterMap Flight.payload) (acks : in_.acks = flights.filterMap Flight.ack) :
    Half origin side tx rx out in_ flights 0 := by
  obtain ⟨ready, txWindow, rxWindow, isOut, isIn, packetSize, reliable, logged, desired, noReset, queued,
    accepted, consumed⟩ := begins
  refine ⟨ready, reliable, packetSize, logged, desired, noReset, ⟨txWindow, ⟨?_, ?_, ?_⟩, ?_, Nat.zero_le _, ?_,
    ⟨side.outgoing, ?_, ?_⟩, ?_⟩, ⟨rxWindow, ?_, ?_, ?_, ?_, ?_⟩, wire, data, acks⟩
  · rw [isOut, base]
    rfl
  · rw [isOut]
    rfl
  · intro i _ _
    rw [isOut, sent]
    simp [Outbound.zero]
  · exact Nat.le_of_eq base
  · simp [sent]
  · rw [queued, sent]
    rfl
  · rw [sent, base]
    rfl
  · rw [consumed, base]
    rfl
  · rw [isIn, received]
    rfl
  · omega
  · intro _
    rw [isOut]
    exact ⟨rfl, rfl, rfl⟩
  · intro _
    rw [isIn]
    rfl
  · rw [accepted, received]
    rfl

theorem consumeIncomingData_same (side : Endpoint) (size : Nat) :
    SameWindow side (side.consumeIncomingData size) := by
  unfold Endpoint.consumeIncomingData Inbound.consumeIncomingData
  split
  · constructor <;> first | rfl | exact id | exact .inl rfl
  · constructor <;> first | rfl | exact id | exact .inl rfl | skip
    intro free
    simp [Endpoint.setIn, free]

theorem clearStall_same (side : Endpoint) : SameWindow side side.clearStall := by
  unfold Endpoint.clearStall
  split
  · constructor <;> first | rfl | exact id | exact .inr ⟨0, rfl⟩
  · constructor <;> first | rfl | exact id | exact .inl rfl

theorem countStall_same (side : Endpoint) (elapsed : UInt32) :
    SameWindow side (side.countStall elapsed) := by
  unfold Endpoint.countStall
  simp only
  split <;> split <;> constructor <;>
    first | rfl | exact id | exact .inl rfl | exact .inr ⟨_, rfl⟩

/-- A call that the protocol can cope with: the transport can take a control packet. -/
def ClientCall.Sized : ClientCall → Prop
  | .setTransportMaxPacketSize size => resetCompletePacketSize ≤ size
  | _ => True

section Calls

variable {origin : Origin} {turns tx rx : Nat} (small : tx < snWindowSize) (enough : snWindowSize < turns)
include small enough

/-- With everything sent the loop has no more than the window to send. -/
theorem sendNextPackets_settled {side : Endpoint} {next : Nat} {out in_ : Window (List UInt8)}
    {flights : List Flight} (half : Half origin side tx rx out in_ flights next) (validOut : out.Valid tx)
    (validIn : in_.Valid rx) :
    Settles origin tx rx out in_ flights (Endpoint.sendNextPackets turns side) := by
  apply sendNextPackets_settles small half validOut validIn
  have baseLe := half.sends.base_le
  unfold turnsLeft
  split <;> omega

theorem call_settles {side : Endpoint} {out in_ : Window (List UInt8)} {flights : List Flight}
    (half : Half origin side tx rx out in_ flights out.sent.length) (validOut : out.Valid tx)
    (validIn : in_.Valid rx) {call : ClientCall} (sized : call.Sized) :
    Settles origin tx rx out in_ flights (Endpoint.call turns side call) := by
  cases call with
  | queue bytes =>
      refine ⟨_, out, in_, flights, rfl, ?_, validOut, validIn, Moves.refl out in_,
    Grows.refl _ _⟩
      obtain ⟨ready, reliable, packetSize, logged, desired, noReset, sends, receives, wire, isData, isAcks⟩ := half
      obtain ⟨rest, isQueued, isOutgoing⟩ := sends.stream
      have since := drop_concat logged (Event.queued bytes)
      refine ⟨ready, reliable, packetSize, ?_, desired, ?_, ?_, ?_, wire, isData, isAcks⟩
      · exact logged.trans (List.prefix_append _ _)
      · simpa [Endpoint.since, Endpoint.notify, since] using noReset
      · refine ⟨sends.window, sends.sn, sends.base_le, sends.next_le, sends.nonempty,
          ⟨rest ++ bytes, ?_, ?_⟩, ?_⟩
        · have one : queuedBytes [.queued bytes] = bytes := by simp [queuedBytes]
          unfold Endpoint.since at isQueued
          simp [Endpoint.since, Endpoint.notify, since, isQueued, one]
        · simp [isOutgoing]
        · rw [← sends.consumed]
          simp [Endpoint.since, Endpoint.notify, since, consumedBytes]
      · refine ⟨receives.window, receives.psn, receives.ackPsn, receives.silent, receives.free, ?_⟩
        rw [← receives.accepted]
        simp [Endpoint.since, Endpoint.notify, since, acceptedPayloads]
  | notifyOutgoingDataAvailable => exact sendNextPackets_settled small enough half validOut validIn
  | consumeIncomingData size =>
      exact ⟨_, out, in_, flights, rfl, half.congr (consumeIncomingData_same side size), validOut,
        validIn, Moves.refl out in_, Grows.refl _ _⟩
  | setTransportMaxPacketSize size =>
      refine ⟨_, out, in_, flights, rfl, half.congr ?_, validOut, validIn, Moves.refl out in_,
    Grows.refl _ _⟩
      constructor <;> first | rfl | exact id | exact .inl rfl | exact fun _ => sized

/-- What the client does inside a callback. -/
theorem calls_settle {side : Endpoint} {out in_ : Window (List UInt8)} {flights : List Flight}
    (half : Half origin side tx rx out in_ flights out.sent.length) (validOut : out.Valid tx)
    (validIn : in_.Valid rx) {clientCalls : List ClientCall}
    (sized : ∀ call ∈ clientCalls, call.Sized) :
    Settles origin tx rx out in_ flights (Endpoint.calls turns side clientCalls) := by
  induction clientCalls generalizing side out in_ flights with
  | nil => exact ⟨side, out, in_, flights, rfl, half, validOut, validIn, Moves.refl out in_,
    Grows.refl _ _⟩
  | cons call clientCalls ih =>
      obtain ⟨side', out', in_', flights', calls, half', validOut', validIn', moves, grows⟩ :=
        call_settles small enough half validOut validIn (sized call List.mem_cons_self)
      obtain ⟨side'', out'', in_'', flights'', calls', half'', validOut'', validIn'', moves', grows'⟩ :=
        ih half' validOut' validIn' fun later member => sized later (List.mem_cons_of_mem _ member)
      refine ⟨side'', out'', in_'', flights'', ?_, half'', validOut'', validIn'', moves.trans moves',
        grows.trans grows'⟩
      rw [Endpoint.calls, List.foldlM_cons, calls]
      exact calls'

end Calls

/-! ## Incoming packets -/

theorem encodeAck_psn (a : Nat) : (encodeAck a &&& ackOrPsnMask).toNat = a % snWindowSize := by
  have all : ∀ n < 32, ((0x40 ||| UInt8.ofNat n) &&& 0x1F).toNat = n := by decide
  exact all (a % snWindowSize) (Nat.mod_lt _ (by decide))

theorem encodeData_psn (i : Nat) :
    (UInt8.ofNat (i % snWindowSize) &&& ackOrPsnMask).toNat = i % snWindowSize := by
  have all : ∀ n < 32, (UInt8.ofNat n &&& 0x1F).toNat = n := by decide
  exact all (i % snWindowSize) (Nat.mod_lt _ (by decide))

/-- A data packet is not taken for a control packet. -/
theorem encode_notControl {ack : Option Nat} {data : Option (Nat × List UInt8)}
    (nonempty : (Flight.packet ack data).encode ≠ []) :
    (Flight.packet ack data).encode.headD 0 &&& packetTypeMask ≠ packetTypeControl := by
  have acks : ∀ n < 32, (0x40 ||| UInt8.ofNat n) &&& 0x80 ≠ 0x80 := by decide
  have payloads : ∀ n < 32, UInt8.ofNat n &&& 0x80 ≠ 0x80 := by decide
  cases ack with
  | some a => exact acks (a % snWindowSize) (Nat.mod_lt _ (by decide))
  | none =>
      cases data with
      | none => simp [Flight.encode] at nonempty
      | some d => exact payloads (d.1 % snWindowSize) (Nat.mod_lt _ (by decide))

theorem load_headD {packet : List UInt8} (nonempty : packet ≠ []) :
    load packet 0 = .ok (packet.headD 0) := by
  cases packet with
  | nil => exact absurd rfl nonempty
  | cons header rest => rfl

/-- The calls in the callbacks can be coped with. -/
def Reactions.Sized (reactions : Reactions) : Prop :=
  (∀ call ∈ reactions.onConsume, call.Sized) ∧ (∀ call ∈ reactions.onIncoming, call.Sized) ∧
    ∀ call ∈ reactions.onReady, call.Sized

theorem consumeOutgoingData_eq {side : Endpoint} {out : Outbound} {size : Nat}
    (covered : size ≤ side.outgoing.length) :
    (side.setOut out).consumeOutgoingData size =
      { (side.setOut out).notify (.consumeOutgoingData size) with outgoing := side.outgoing.drop size } :=
  if_pos covered

/-- The payloads from one on are some of them, and those behind. -/
theorem drop_flatten_split (sent : List (List UInt8)) {base last : Nat} (le : base ≤ last) :
    (sent.drop base).flatten =
      ((sent.drop base).take (last - base)).flatten ++ (sent.drop last).flatten := by
  have behind : sent.drop last = (sent.drop base).drop (last - base) := by
    rw [List.drop_drop, Nat.add_sub_cancel' le]
  rw [behind, ← List.flatten_append, List.take_append_drop]

theorem take_flatten_split (sent : List (List UInt8)) {base last : Nat} (le : base ≤ last) :
    (sent.take last).flatten =
      (sent.take base).flatten ++ ((sent.drop base).take (last - base)).flatten := by
  rw [← List.flatten_append, ← List.take_add, Nat.add_sub_cancel' le]

section Acks

variable {origin : Origin} {side : Endpoint} {turns tx rx : Nat} {out in_ : Window (List UInt8)}
  {flights : List Flight} (half : Half origin side tx rx out in_ flights out.sent.length)
  (validOut : out.Valid tx)
include half validOut

/-- An ack of something that is in flight. -/
theorem Half.acknowledge (small : tx < snWindowSize) {a : Nat} {rest : List Nat}
    (front : out.acks = a :: rest) (news : out.base ≤ a) :
    let outbound := side.protocol.out
    let nextPsn := getNextSn (a % snWindowSize)
    outbound.packetIsAwaitingAck (a % snWindowSize) ∧
      Half origin ((side.setOut { Endpoint.rearm (outbound.clearPayloadSizesUpTo nextPsn) nextPsn with
          nextExpectedAckSn := nextPsn }).consumeOutgoingData
            (outbound.getTotalNumBytesAwaitingAckUpTo nextPsn)) tx rx
        { out with base := a + 1, acks := rest } in_ flights out.sent.length := by
  intro outbound nextPsn
  have bound := validOut.ack a (by rw [front]; exact List.mem_cons_self)
  have ackedLe := validOut.acked_le
  have receivedLe := validOut.received_le
  have sentLe := validOut.sent_le
  obtain ⟨ready, reliable, packetSize, logged, desired, noReset, sends, receives, wire, isData, isAcks⟩ := half
  have size := sends.sn.sizes a news (by omega)
  have isNext : nextPsn = (out.base + (a + 1 - out.base)) % snWindowSize := by
    rw [Nat.add_sub_cancel' (by omega)]
    exact nextSn_mod a
  have total : outbound.getTotalNumBytesAwaitingAckUpTo nextPsn =
      payloadBytes out.sent out.base (a + 1 - out.base) := by
    rw [isNext]
    exact sends.sn.total (by omega)
  obtain ⟨sizes, cleared⟩ := @Sn.acknowledge _ _ _ _ sends.sn (a + 1 - out.base) (by omega) (by omega)
  rw [← isNext, Nat.add_sub_cancel' (by omega)] at sizes
  rw [← isNext] at cleared
  constructor
  · have present : ¬ (out.sent.getD a []).length = 0 := by
      rw [getD_eq_nil_iff sends.nonempty]
      omega
    simpa [Outbound.packetIsAwaitingAck, outbound, size] using present
  rw [total, consumeOutgoingData_eq (stream_length sends.stream)]
  obtain ⟨rest, isQueued, isOutgoing⟩ := sends.stream
  have le : out.base ≤ a + 1 := by omega
  have since := drop_concat logged
    (.consumeOutgoingData (payloadBytes out.sent out.base (a + 1 - out.base)))
  refine ⟨ready, reliable, packetSize, ?_, desired, ?_, ⟨sends.window, ⟨?_, ?_, ?_⟩, ?_, Nat.le_refl _, sends.nonempty,
    ⟨rest, ?_, ?_⟩, ?_⟩, ⟨receives.window, receives.psn, ?_, ?_, receives.free, ?_⟩, wire, isData, isAcks⟩
  · exact logged.trans (List.prefix_append _ _)
  · simpa [Endpoint.since, Endpoint.notify, Endpoint.setOut, since] using noReset
  · exact nextSn_mod a
  · have dataSn : (outbound.clearPayloadSizesUpTo nextPsn).nextDataSn = outbound.nextDataSn := by
      rw [cleared]
    exact dataSn.trans sends.sn.dataSn
  · exact sizes
  · change a + 1 ≤ out.sent.length
    omega
  · rw [← isQueued]
    simp [Endpoint.since, Endpoint.notify, Endpoint.setOut, since, queuedBytes]
  · change side.outgoing.drop (payloadBytes _ _ _) = _
    rw [isOutgoing, drop_flatten_split out.sent le, List.append_assoc, payloadBytes, List.drop_left]
  · change consumedBytes ((side.log ++ [_]).drop origin.past.length) = _
    rw [since, consumedBytes_append]
    change consumedBytes (side.since origin) + _ = _
    rw [sends.consumed, take_flatten_split out.sent le, List.length_append]
    simp [consumedBytes, payloadBytes]
  · intro some_
    have psn : (outbound.clearPayloadSizesUpTo nextPsn).psnToAckWith = outbound.psnToAckWith := by
      rw [cleared]
    exact psn.trans (receives.ackPsn some_)
  · intro none_
    rw [Endpoint.setOut, Endpoint.rearm, cleared]
    exact receives.silent none_
  · rw [← receives.accepted]
    simp [Endpoint.since, Endpoint.notify, Endpoint.setOut, since, acceptedPayloads]

/-- The ack in front of a packet: it moves the window, or it is an old one and is ignored. -/
theorem handleAck_settles (validIn : in_.Valid rx) (small : tx < snWindowSize)
    (enough : snWindowSize < turns) {reactions : Reactions} (sized : reactions.Sized) {a : Nat}
    {rest : List Nat} (front : out.acks = a :: rest) :
    ∃ base, Settles origin tx rx { out with base := base, acks := rest } in_ flights
      (Endpoint.handleAck turns side reactions (a % snWindowSize)) := by
  unfold Endpoint.handleAck
  by_cases news : out.base ≤ a
  · obtain ⟨awaiting, half'⟩ := half.acknowledge validOut small front news
    refine ⟨a + 1, ?_⟩
    simp only [awaiting, if_true]
    exact calls_settle small enough half' (validOut.acknowledge front news) validIn sized.1
  · have bound := validOut.ack a (by rw [front]; exact List.mem_cons_self)
    have sentLe := validOut.sent_le
    -- the slot of the last payload that was acked is the one before the next to be acked
    have size := half.sends.sn.sizes (a + snWindowSize) (by omega) (by omega)
    rw [Nat.add_mod_right, List.getD_eq_getElem?_getD,
      List.getElem?_eq_none (by omega : out.sent.length ≤ a + snWindowSize), Option.getD_none,
      List.length_nil] at size
    refine ⟨out.base, side, _, in_, flights, ?_, ?_, ?_, validIn, Moves.refl _ in_, Grows.refl _ _⟩
    · simp [Outbound.packetIsAwaitingAck, size]
    · exact half.channels
    · apply validOut.loseAcks
      rw [front]
      exact List.sublist_cons_self a rest

end Acks

/-- A packet has been handled, taken or not; the rest of it is out of the channels. -/
def Handles (origin : Origin) (tx rx : Nat) (out in_ : Window (List UInt8)) (flights : List Flight)
    (acks : List Nat) (data : List (Nat × List UInt8)) (taken : Prop)
    (result : Access (Endpoint × Except Error Unit)) : Prop :=
  ∃ side' error out' in_' flights', result = .ok (side', error) ∧
    Half origin side' tx rx out' in_' flights' out'.sent.length ∧ out'.Valid tx ∧ in_'.Valid rx ∧
    Keeps out out' in_ in_' ∧ Grows out.sent out'.sent flights flights' ∧ out'.acks = acks ∧
    in_'.data = data ∧ in_'.acked = in_'.received ∧ in_.received ≤ in_'.received ∧
    (taken → in_'.received ≠ 0)

theorem Handles.after {origin : Origin} {tx rx : Nat} {out out' in_ in_' : Window (List UInt8)}
    {flights flights' : List Flight} {acks : List Nat} {data : List (Nat × List UInt8)}
    {taken taken' : Prop} {result : Access (Endpoint × Except Error Unit)}
    (handles : Handles origin tx rx out' in_' flights' acks data taken' result)
    (keeps : Keeps out out' in_ in_') (grows : Grows out.sent out'.sent flights flights')
    (received : in_.received ≤ in_'.received) (isTaken : taken → in_'.received = 0 → taken') :
    Handles origin tx rx out in_ flights acks data taken result := by
  obtain ⟨side', error, out'', in_'', flights'', isResult, half, validOut, validIn, keeps', grows', isAcks,
    isData, caughtUp, received', isTaken'⟩ := handles
  refine ⟨side', error, out'', in_'', flights'', isResult, half, validOut, validIn, keeps.trans keeps',
    grows.trans grows', isAcks, isData, caughtUp, Nat.le_trans received received', ?_⟩
  intro isTaken_ none_
  exact isTaken' (isTaken isTaken_ (by omega)) none_

section Payloads

variable {origin : Origin} {side : Endpoint} {turns tx rx : Nat} {out in_ : Window (List UInt8)}
  {flights : List Flight} (half : Half origin side tx rx out in_ flights out.sent.length)
include half

/-- What is acked, and when, is no matter of what is sent. -/
theorem Half.acking {out' : Outbound} {acked : Nat} (sn : Sn out' out.sent out.base out.sent.length)
    (ackPsn : 0 < acked → out'.psnToAckWith = (acked - 1) % snWindowSize)
    (silent : acked = 0 → out'.ackTimer = none ∧ out'.ackNow = false ∧ out'.outstandingUnackedPackets = 0) :
    Half origin (side.setOut out') tx rx out { in_ with acked := acked } flights out.sent.length := by
  obtain ⟨ready, reliable, packetSize, logged, desired, noReset, sends, receives, wire, isData, isAcks⟩ := half
  exact ⟨ready, reliable, packetSize, logged, desired, noReset,
    ⟨sends.window, sn, sends.base_le, sends.next_le, sends.nonempty, sends.stream, sends.consumed⟩,
    ⟨receives.window, receives.psn, ackPsn, silent, receives.free, receives.accepted⟩, wire, isData, isAcks⟩

/-- One more packet to ack, when there is something to ack. -/
theorem Half.countUnacked (some_ : 0 < in_.acked) :
    Half origin side.countUnacked tx rx out in_ flights out.sent.length :=
  half.acking (half.sends.sn.congr rfl rfl rfl) half.receives.ackPsn fun none_ => absurd none_ some_.ne'

/-- What was received is what is acked from now on. -/
theorem Half.catchUp {psn : Nat} (isPsn : psn = (in_.received - 1) % snWindowSize)
    (some_ : 0 < in_.received) :
    Half origin (side.setOut { side.protocol.out with psnToAckWith := psn }) tx rx out
      { in_ with acked := in_.received } flights out.sent.length :=
  half.acking (half.sends.sn.congr rfl rfl rfl) (fun _ => isPsn) fun none_ => absurd none_ some_.ne'

/-- The expected payload is handed to the client. -/
theorem Half.accept {payload : List UInt8} (there : in_.sent[in_.received]? = some payload)
    (data : List (Nat × List UInt8)) :
    Half origin ((side.setIn (.accept (in_.received % snWindowSize) payload)).notify
        (.incomingDataAvailable payload)) tx rx out
      { in_ with received := in_.received + 1, data := data } flights out.sent.length := by
  obtain ⟨ready, reliable, packetSize, logged, desired, noReset, sends, receives, wire, isData, isAcks⟩ := half
  obtain ⟨rest, isQueued, isOutgoing⟩ := sends.stream
  have since := drop_concat logged (Event.incomingDataAvailable payload)
  refine ⟨ready, reliable, packetSize, ?_, desired, ?_, ?_, ?_, wire, isData, isAcks⟩
  · exact logged.trans (List.prefix_append _ _)
  · simpa [Endpoint.since, Endpoint.notify, Endpoint.setIn, since] using noReset
  · refine ⟨sends.window, sends.sn, sends.base_le, sends.next_le, sends.nonempty, ⟨rest, ?_, isOutgoing⟩, ?_⟩
    · rw [← isQueued]
      simp [Endpoint.since, Endpoint.notify, Endpoint.setIn, since, queuedBytes]
    · rw [← sends.consumed]
      simp [Endpoint.since, Endpoint.notify, Endpoint.setIn, since, consumedBytes]
  · refine ⟨receives.window, nextSn_mod in_.received, receives.ackPsn, receives.silent, ?_, ?_⟩
    · intro none_
      exact absurd none_ (Nat.succ_ne_zero in_.received)
    · change acceptedPayloads ((side.log ++ [Event.incomingDataAvailable payload]).drop origin.past.length) = _
      rw [since, acceptedPayloads_append]
      change acceptedPayloads (side.since origin) ++ _ = _
      rw [receives.accepted, List.take_add_one, there]
      rfl

variable (validOut : out.Valid tx) (validIn : in_.Valid rx)
include validOut validIn

/-- A packet that is not taken. -/
theorem handles_lost {acks : List Nat} {data : List (Nat × List UInt8)} {taken : Prop}
    (error : Except Error Unit) (caughtUp : in_.acked = in_.received) (fewerAcks : acks.Sublist out.acks)
    (fewerData : data.Sublist in_.data) (notTaken : ¬ taken) :
    Handles origin tx rx out in_ flights acks data taken (.ok (side, error)) :=
  ⟨side, error, { out with acks := acks }, { in_ with data := data }, flights, rfl, half.channels,
    validOut.loseAcks fewerAcks, validIn.loseData fewerData, ⟨rfl, rfl, ⟨[], by simp⟩, rfl, rfl⟩,
    Grows.refl _ _, rfl, rfl, caughtUp, Nat.le_refl _, fun isTaken => absurd isTaken notTaken⟩

variable (small : tx < snWindowSize) (enough : snWindowSize < turns)
include small enough

/-- The last step of every packet that is taken: the ack of it, and what can be sent now. -/
theorem sendNextPackets_handles (caughtUp : in_.acked = in_.received) :
    Handles origin tx rx out in_ flights out.acks in_.data False
      (do
        let self ← Endpoint.sendNextPackets turns side
        return (self, .ok ())) := by
  obtain ⟨side', out', in_', flights', sends, half', validOut', validIn', moves, grows⟩ :=
    sendNextPackets_settled small enough half validOut validIn
  refine ⟨side', .ok (), out', in_', flights', ?_, half', validOut', validIn', moves.toKeeps, grows,
    moves.acks, moves.inData, ?_, Nat.le_of_eq moves.inReceived.symm, False.elim⟩
  · rw [sends]
    rfl
  · rw [moves.inAcked, moves.inReceived, caughtUp]

variable {reactions : Reactions} (sized : reactions.Sized)
include sized

/-- The payload that was expected. -/
theorem acceptPayload_settles {payload : List UInt8} {rest : List (Nat × List UInt8)}
    (front : in_.data = (in_.received, payload) :: rest) :
    Settles origin tx rx out
      { in_ with received := in_.received + 1, acked := in_.received + 1, data := rest } flights
      (Endpoint.acceptPayload turns side reactions (in_.received % snWindowSize) payload) := by
  have there : in_.sent[in_.received]? = some payload :=
    validIn.item (in_.received, payload) (by rw [front]; exact List.mem_cons_self)
  obtain ⟨side', out', in_', flights', calls, half', validOut', validIn', moves, grows⟩ :=
    calls_settle small enough (half.accept there rest) validOut (validIn.receive front) sized.2.1
  have received : in_'.received = in_.received + 1 := moves.inReceived
  refine ⟨side'.setOut { side'.protocol.out with psnToAckWith := in_.received % snWindowSize }, out',
    { in_' with acked := in_'.received }, flights', ?_, ?_, validOut', validIn'.catchUp, ?_, grows⟩
  · simp only [Endpoint.acceptPayload, calls]
    rfl
  · apply half'.catchUp
    · rw [received, Nat.add_sub_cancel]
    · omega
  · exact ⟨⟨moves.received, moves.acked, moves.sent, moves.inSent, moves.inBase⟩, moves.base, moves.acks,
      moves.inReceived, received, moves.inData⟩

/-- The data behind the ack: the payload that is expected is taken, an older one is acked
    again, and everything else is dropped. With a window of more than half of the serial
    numbers a later one can look like an older one, which is harmless once something has
    come. -/
theorem handlePayload_handles (fits : rx < snWindowSize) (caughtUp : in_.acked = in_.received)
    {d : Nat × List UInt8} {rest : List (Nat × List UInt8)} (front : in_.data = d :: rest)
    (safe : in_.received = 0 → d.1 = 0 ∨ rx + d.1 ≤ snWindowSize) :
    Handles origin tx rx out in_ flights out.acks rest (in_.received = 0 ∧ d.1 = 0)
      (Endpoint.handlePayload turns side reactions (encodeData d)) := by
  have member : d ∈ in_.data := by
    rw [front]
    exact List.mem_cons_self
  have fewer : rest.Sublist in_.data := by
    rw [front]
    exact List.sublist_cons_self d rest
  have lost : ∀ error, ¬ (in_.received = 0 ∧ d.1 = 0) →
      Handles origin tx rx out in_ flights out.acks rest (in_.received = 0 ∧ d.1 = 0)
        (.ok (side, error)) := fun error notTaken =>
    handles_lost half validOut validIn error caughtUp (List.Sublist.refl _) fewer notTaken
  have again : 0 < in_.acked → ¬ (in_.received = 0 ∧ d.1 = 0) →
      Handles origin tx rx out in_ flights out.acks rest (in_.received = 0 ∧ d.1 = 0)
        (do
          let self ← Endpoint.sendNextPackets turns side.countUnacked
          return (self, .ok ())) := by
    intro some_ notTaken
    have handles := sendNextPackets_handles (half.countUnacked some_).channels validOut
      (validIn.loseData fewer) small enough caughtUp
    exact handles.after ⟨rfl, rfl, ⟨[], by simp⟩, rfl, rfl⟩ (Grows.refl _ _) (Nat.le_refl _)
      fun isTaken _ => absurd isTaken notTaken
  have expects := validIn.serial_iff fits member
  have behind := validIn.item_lt member
  have recent := validIn.recent d member
  have sentLe := validIn.sent_le
  have baseLe := validIn.base_le
  unfold encodeData Endpoint.handlePayload
  simp only [encodeData_psn, half.receives.psn, half.receives.window, expects, ne_eq]
  by_cases full : side.protocol.in_.payloadBufferFull
  · simp only [full, if_true]
    apply lost
    rintro ⟨none_, -⟩
    rw [half.receives.free none_] at full
    exact Bool.noConfusion full
  simp only [full, Bool.false_eq_true, if_false]
  rcases Nat.lt_trichotomy d.1 in_.received with older | expected | newer
  · -- it was accepted before: acked again, unless it is a whole window back
    have other : ¬ d.1 = in_.received := by omega
    simp only [other, not_false_eq_true, true_and, if_false, distance_mod (Nat.le_of_lt older) (by omega)]
    by_cases far : in_.received - d.1 ≥ rx
    · rw [if_pos far]
      exact lost _ (by omega)
    · rw [if_neg far, pure_ok, ok_bind]
      exact again (by omega) (by omega)
  · obtain ⟨psn, payload⟩ := d
    obtain rfl : psn = in_.received := expected
    obtain ⟨side', out', in_', flights', accepts, half', validOut', validIn', moves, grows⟩ :=
      acceptPayload_settles half validOut validIn small enough sized front
    simp only [not_true_eq_false, false_and, if_false, if_true, accepts, ok_bind]
    have acked : in_'.acked = in_.received + 1 := moves.inAcked
    have received : in_'.received = in_.received + 1 := moves.inReceived
    have handles := sendNextPackets_handles (half'.countUnacked (by omega)) validOut' validIn' small enough
      (by omega)
    rw [moves.acks, moves.inData] at handles
    exact handles.after ⟨moves.received, moves.acked, moves.sent, moves.inSent, moves.inBase⟩ grows
      (by omega) (by omega)
  · have other : ¬ d.1 = in_.received := by omega
    simp only [other, not_false_eq_true, true_and, if_false, distance_mod_of_lt newer (by omega)]
    by_cases far : snWindowSize - (d.1 - in_.received) ≥ rx
    · rw [if_pos far]
      exact lost _ (by omega)
    · rw [if_neg far, pure_ok, ok_bind]
      have some_ : in_.received ≠ 0 := by
        intro none_
        have opens := safe none_
        omega
      exact again (by omega) (by omega)

/-- A data packet: its ack, then its payload. -/
theorem handleDataPacket_handles (fits : rx < snWindowSize) (caughtUp : in_.acked = in_.received)
    {ack : Option Nat} {payload : Option (Nat × List UInt8)}
    (nonempty : (Flight.packet ack payload).encode ≠ []) {acks : List Nat}
    {data : List (Nat × List UInt8)} (isAcks : out.acks = ack.toList ++ acks)
    (isData : in_.data = payload.toList ++ data)
    (safe : (Flight.packet ack payload).encode.length ≤ maxPacketSize → in_.received = 0 →
      ∀ d ∈ payload, d.1 = 0 ∨ rx + d.1 ≤ snWindowSize) :
    Handles origin tx rx out in_ flights acks data
      (in_.received = 0 ∧ payload.map Prod.fst = some 0 ∧
        (Flight.packet ack payload).encode.length ≤ maxPacketSize)
      (Endpoint.handleDataPacket turns side reactions (Flight.packet ack payload).encode) := by
  have first := load_headD nonempty
  have type := encode_type nonempty
  unfold Endpoint.handleDataPacket
  by_cases long : (Flight.packet ack payload).encode.length > maxPacketSize
  · rw [if_pos long]
    apply handles_lost half validOut validIn _ caughtUp
    · rw [isAcks]
      exact List.sublist_append_right _ _
    · rw [isData]
      exact List.sublist_append_right _ _
    · omega
  rw [if_neg long]
  simp only [first, ok_bind, type]
  cases ack with
  | none =>
      simp only [Option.isSome_none, Bool.false_eq_true, if_false]
      cases payload with
      | none => exact absurd rfl nonempty
      | some d =>
          have handles := handlePayload_handles half validOut validIn small enough sized fits caughtUp isData
            (fun none_ => safe (Nat.not_lt.mp long) none_ d rfl)
          rw [show out.acks = acks from isAcks] at handles
          exact handles.after (Keeps.refl _ _) (Grows.refl _ _) (Nat.le_refl _)
            fun isTaken none_ => ⟨none_, Option.some.inj isTaken.2.1⟩
  | some a =>
      simp only [Option.isSome_some, if_true]
      have isPsn : ((Flight.packet (some a) payload).encode.headD 0 &&& ackOrPsnMask).toNat =
          a % snWindowSize := encodeAck_psn a
      obtain ⟨base, side', out', in_', flights', handlesAck, half', validOut', validIn', moves, grows⟩ :=
        handleAck_settles half validOut validIn small enough sized isAcks
      have keeps : Keeps out out' in_ in_' :=
        ⟨moves.received, moves.acked, moves.sent, moves.inSent, moves.inBase⟩
      have caughtUp' : in_'.acked = in_'.received := by
        rw [moves.inAcked, moves.inReceived, caughtUp]
      have received := Nat.le_of_eq moves.inReceived.symm
      rw [isPsn, handlesAck, ok_bind]
      cases payload with
      | none =>
          have handles := sendNextPackets_handles half' validOut' validIn' small enough caughtUp'
          rw [moves.acks, moves.inData, isData] at handles
          exact handles.after keeps grows received fun isTaken _ => nomatch isTaken.2.1
      | some d =>
          have handles := handlePayload_handles half' validOut' validIn' small enough sized fits caughtUp'
            (moves.inData.trans isData)
            (fun none_ => safe (Nat.not_lt.mp long) (moves.inReceived ▸ none_) d rfl)
          rw [moves.acks] at handles
          exact handles.after keeps grows received
            fun isTaken none_ => ⟨none_, Option.some.inj isTaken.2.1⟩

/-- A packet of the peer. -/
theorem handleIncomingRawData_handles (fits : rx < snWindowSize) (caughtUp : in_.acked = in_.received)
    {ack : Option Nat} {payload : Option (Nat × List UInt8)} {acks : List Nat}
    {data : List (Nat × List UInt8)} (isAcks : out.acks = ack.toList ++ acks)
    (isData : in_.data = payload.toList ++ data)
    (safe : (Flight.packet ack payload).encode.length ≤ maxPacketSize → in_.received = 0 →
      ∀ d ∈ payload, d.1 = 0 ∨ rx + d.1 ≤ snWindowSize) :
    Handles origin tx rx out in_ flights acks data
      (in_.received = 0 ∧ payload.map Prod.fst = some 0 ∧
        (Flight.packet ack payload).encode.length ≤ maxPacketSize)
      (Endpoint.handleIncomingRawData turns side reactions (Flight.packet ack payload).encode) := by
  unfold Endpoint.handleIncomingRawData
  by_cases empty : (Flight.packet ack payload).encode.length = 0
  · rw [if_pos empty]
    apply handles_lost half validOut validIn _ caughtUp
    · rw [isAcks]
      exact List.sublist_append_right _ _
    · rw [isData]
      exact List.sublist_append_right _ _
    · rintro ⟨-, isTaken, -⟩
      cases payload with
      | none => exact nomatch isTaken
      | some d => simp [Flight.encode, encodeData] at empty
  have nonempty : (Flight.packet ack payload).encode ≠ [] := fun none =>
    empty (by rw [none, List.length_nil])
  have half' := half.congr (clearStall_same side)
  have ready := half'.ready
  simp only [if_neg empty, half.ready, reduceCtorEq, if_false, load_headD nonempty, ok_bind,
    encode_notControl nonempty, ready, ne_eq, not_true_eq_false]
  exact handleDataPacket_handles half' validOut validIn small enough sized fits caughtUp nonempty isAcks
    isData safe

end Payloads

/-! ## Timers -/

section Timers

variable (turns : Nat)

/-- The ack timer fires, if it is scheduled, and then it is not scheduled any more. -/
def Endpoint.fireAckTimer (self : Endpoint) : Access Endpoint :=
  if self.protocol.out.ackTimer = none then return self
  else Endpoint.onAckTimerFired turns (self.setOut { self.protocol.out with ackTimer := none })

def Endpoint.fireRetransmitTimer (self : Endpoint) (elapsed : UInt32) : Access Endpoint :=
  if self.protocol.out.retransmitTimer = none then return self
  else
    Endpoint.onSendTimeoutFired turns
      (self.setOut { self.protocol.out with retransmitTimer := none }) elapsed

end Timers

section Fired

variable {origin : Origin} {side : Endpoint} {turns tx rx : Nat} {out in_ : Window (List UInt8)}
  {flights : List Flight}

/-- Back to the first payload that is not acked. -/
theorem Half.rollback {next : Nat} (half : Half origin side tx rx out in_ flights next) :
    Half origin (side.setOut { side.protocol.out with nextDataSn := side.protocol.out.nextExpectedAckSn })
      tx rx out in_ flights out.base := by
  obtain ⟨ready, reliable, packetSize, logged, desired, noReset, sends, receives, wire, isData, isAcks⟩ := half
  exact ⟨ready, reliable, packetSize, logged, desired, noReset,
    ⟨sends.window, ⟨sends.sn.ackSn, sends.sn.ackSn, sends.sn.sizes⟩, Nat.le_refl _,
      Nat.le_trans sends.base_le sends.next_le, sends.nonempty, sends.stream, sends.consumed⟩,
    ⟨receives.window, receives.psn, receives.ackPsn, receives.silent, receives.free, receives.accepted⟩,
    wire, isData, isAcks⟩

variable (half : Half origin side tx rx out in_ flights out.sent.length) (validOut : out.Valid tx)
  (validIn : in_.Valid rx) (small : tx < snWindowSize) (enough : snWindowSize < turns)
include half validOut validIn small enough

theorem fireAckTimer_settles : Settles origin tx rx out in_ flights (side.fireAckTimer turns) := by
  unfold Endpoint.fireAckTimer
  by_cases scheduled : side.protocol.out.ackTimer = none
  · rw [if_pos scheduled]
    exact ⟨side, out, in_, flights, rfl, half, validOut, validIn, Moves.refl out in_, Grows.refl _ _⟩
  rw [if_neg scheduled]
  refine @sendNextPackets_settled _ _ _ _ small enough _ out.sent.length _ _ flights ?_ validOut validIn
  exact half.acking (half.sends.sn.congr rfl rfl rfl) half.receives.ackPsn fun none_ =>
    absurd (half.receives.silent none_).1 scheduled

/-- Everything that is in flight is sent again. -/
theorem fireRetransmitTimer_settles (elapsed : UInt32) :
    Settles origin tx rx out in_ flights (side.fireRetransmitTimer turns elapsed) := by
  unfold Endpoint.fireRetransmitTimer
  by_cases scheduled : side.protocol.out.retransmitTimer = none
  · rw [if_pos scheduled]
    exact ⟨side, out, in_, flights, rfl, half, validOut, validIn, Moves.refl out in_, Grows.refl _ _⟩
  rw [if_neg scheduled]
  have half' := (half.timer ⟨none, rfl⟩).congr (countStall_same _ elapsed)
  unfold Endpoint.onSendTimeoutFired
  simp only [half'.ready]
  exact sendNextPackets_settled small enough half'.rollback validOut validIn

end Fired

end GoldenGate.Gattlink

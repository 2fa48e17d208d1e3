import GoldenGate.Common.RingQueue
import GoldenGate.Gattlink.Delivery
import GoldenGate.Gattlink.GenericClient
import GoldenGate.Gattlink.InboundBuffer
import GoldenGate.Protocols.Ipv4RoundTrip

/-! # The generic client

Both sides of `gg_gattlink_generic_client.c` with their protocol. The frames of the user go
through the serializer into the ring buffer, from which the protocol sends them; what the
protocol receives goes through the assembler to the sink of the user.
-/

namespace GoldenGate.Gattlink

open Memory Ipv4 Endpoint

/-- `GG_GattlinkGenericClient`, with its protocol, and the frames that were taken from the user. -/
structure FramedClient where
  endpoint : Endpoint
  sessionOpen : Bool
  frameSerializer : FrameSerializer
  outputBuffer : RingBuffer
  frameAssembler : FrameAssembler
  sink : Option Sink
  taken : List (List UInt8)

namespace FramedClient

/-! ## Callbacks -/

/-- `GG_GattlinkGenericClient_ConsumeOutgoingData`. -/
def consumeOutgoingData (self : FramedClient) (bytesConsumed : Nat) : FramedClient :=
  if self.outputBuffer.getAvailable ≥ bytesConsumed then
    { self with outputBuffer := self.outputBuffer.moveOut bytesConsumed }
  else self

/-- `GG_GattlinkGenericClient_NotifyIncomingDataAvailable`, on the buffer of the protocol. -/
def notifyIncomingDataAvailable (self : FramedClient) : Access FramedClient := do
  let client ← GenericClient.notifyIncomingDataAvailable ⟨self.endpoint.protocol.in_, self.frameAssembler, self.sink⟩
  return { self with
    endpoint := self.endpoint.setIn client.in_
    frameAssembler := client.frameAssembler
    sink := client.sink }

/-- `GG_GattlinkGenericClient_Flush`. -/
def flush (self : FramedClient) : FramedClient :=
  { self with
    frameAssembler := self.frameAssembler.reset
    outputBuffer := self.outputBuffer.reset }

/-- A callback of the protocol. -/
def hear (self : FramedClient) : Event → Access FramedClient
  | .consumeOutgoingData bytesConsumed => return self.consumeOutgoingData bytesConsumed
  | .incomingDataAvailable _ => self.notifyIncomingDataAvailable
  | .sessionReady => return { self with sessionOpen := true }
  | .sessionReset => return { self.flush with sessionOpen := false }
  | .sessionStalled _ | .queued _ => return self

/-- The callbacks of what the protocol has just done, in their order. Behind the callback for a
    payload, the protocol does not look at its inbound buffer any more. -/
def follow (self : FramedClient) (endpoint : Endpoint) : Access FramedClient :=
  (endpoint.log.drop self.endpoint.log.length).foldlM hear { self with endpoint := endpoint }

variable (turns : Nat)

/-! ## The user side -/

/-- `GG_GattlinkGenericClient_UserSide_PutData`. The protocol reads from the ring buffer. -/
def putData (self : FramedClient) (data : List UInt8) : Access (FramedClient × Except Error Unit) := do
  if ¬ self.sessionOpen then return (self, .error .wouldBlock)
  if data.length > self.outputBuffer.getSpace then return (self, .error .wouldBlock)
  let (frameSerializer, outputBuffer, result) ← self.frameSerializer.serializeFrame data self.outputBuffer
  let written := outputBuffer.contents.drop self.outputBuffer.contents.length
  let self := { self with frameSerializer := frameSerializer, outputBuffer := outputBuffer }
  match result with
  | .error e => return (self, .error e)
  | .ok _ => do
      let endpoint ← self.endpoint.calls turns [.queue written, .notifyOutgoingDataAvailable]
      return ({ self with endpoint := endpoint, taken := self.taken ++ [data] }, .ok ())

/-- `GG_GattlinkGenericClient_UserSide_OnCanPut`. -/
def userOnCanPut (self : FramedClient) : Access FramedClient := self.notifyIncomingDataAvailable

/-! ## The transport side -/

/-- `GG_GattlinkGenericClient_TransportSide_PutData`. -/
def transportPutData (self : FramedClient) (data : List UInt8) : Access FramedClient := do
  let endpoint ← Prod.fst <$> self.endpoint.handleIncomingRawData turns noReactions data
  self.follow endpoint

/-- `GG_GattlinkGenericClient_TransportSide_OnCanPut`. -/
def transportOnCanPut (self : FramedClient) : Access FramedClient := do
  let endpoint ← self.endpoint.notifyOutgoingDataAvailable turns
  self.follow endpoint

/-! ## Timers of the protocol -/

def fireAckTimer (self : FramedClient) : Access FramedClient := do
  let endpoint ← self.endpoint.fireAckTimer turns
  self.follow endpoint

def fireRetransmitTimer (self : FramedClient) (elapsed : UInt32) : Access FramedClient := do
  let endpoint ← self.endpoint.fireRetransmitTimer turns elapsed
  self.follow endpoint

end FramedClient

/-! ## What the protocol tells the client -/

/-- What an event says about the queue of the client and about the inbound buffer. -/
def telling (state : List UInt8 × Inbound) : Event → List UInt8 × Inbound
  | .queued bytes => (state.1 ++ bytes, state.2)
  | .consumeOutgoingData size => (if state.1.length ≥ size then state.1.drop size else state.1, state.2)
  | .incomingDataAvailable payload => (state.1, .accept state.2.nextExpectedDataPsn payload)
  | .sessionReady => (state.1, .zero)
  | .sessionReset => ([], state.2)
  | .sessionStalled _ => state

/-- All that the client notices of an operation are these events. -/
structure Told (side : Endpoint) (events : List Event) (side' : Endpoint) : Prop where
  log : side'.log = side.log ++ events
  state : (side'.outgoing, side'.protocol.in_) = events.foldl telling (side.outgoing, side.protocol.in_)

/-- The events of a packet or a timer in a session: a stall, an ack, a payload. -/
def sessionEvents (stalled : Option UInt32) (consumed : Option Nat) (payload : Option (List UInt8)) : List Event :=
  (stalled.map Event.sessionStalled).toList ++ ((consumed.map Event.consumeOutgoingData).toList ++
    (payload.map Event.incomingDataAvailable).toList)

namespace Told

variable {side side' side'' : Endpoint} {events events' : List Event}

theorem refl (side : Endpoint) : Told side [] side := ⟨(List.append_nil _).symm, rfl⟩

theorem trans (first : Told side events side') (second : Told side' events' side'') :
    Told side (events ++ events') side'' := by
  constructor
  · rw [second.log, first.log, List.append_assoc]
  · rw [second.state, first.state, List.foldl_append]

theorem quiet (log : side'.log = side.log) (outgoing : side'.outgoing = side.outgoing)
    (in_ : side'.protocol.in_ = side.protocol.in_) : Told side [] side' := by
  constructor
  · rw [log, List.append_nil]
  · rw [outgoing, in_]
    rfl

theorem sendNextPackets {rounds : Nat} (sends : sendNextPackets rounds side = .ok side') : Told side [] side' := by
  have log := congrArg Endpoint.log (sendNextPackets_same sends)
  have outgoing := congrArg Endpoint.outgoing (sendNextPackets_same sends)
  exact quiet log outgoing (sendNextPackets_in sends)

theorem stall {stalled : Option UInt32} (log : side'.log = side.log ++ (stalled.map Event.sessionStalled).toList)
    (outgoing : side'.outgoing = side.outgoing) (in_ : side'.protocol.in_ = side.protocol.in_) :
    Told side (stalled.map Event.sessionStalled).toList side' := by
  refine ⟨log, ?_⟩
  rw [outgoing, in_]
  cases stalled with
  | none => rfl
  | some time => rfl

theorem stallOf (same : SameWindow side side') (in_ : side'.protocol.in_ = side.protocol.in_) :
    ∃ stalled : Option UInt32, Told side (stalled.map Event.sessionStalled).toList side' := by
  obtain log | ⟨time, log⟩ := same.log
  · exact ⟨none, stall (log.trans (List.append_nil _).symm) same.outgoing in_⟩
  · exact ⟨some time, stall log same.outgoing in_⟩

theorem clearStall (side : Endpoint) :
    ∃ stalled : Option UInt32, Told side (stalled.map Event.sessionStalled).toList side.clearStall := by
  apply stallOf (clearStall_same side)
  rw [clearStall_protocol]

theorem acknowledged (side : Endpoint) (psn : Nat) :
    ∃ consumed, Told side [Event.consumeOutgoingData consumed] (side.acknowledged psn) := by
  refine ⟨side.protocol.out.getTotalNumBytesAwaitingAckUpTo (getNextSn psn), ?_, ?_⟩
  · unfold Endpoint.acknowledged
    rw [consumeOutgoingData_log]
    rfl
  · unfold Endpoint.acknowledged Endpoint.consumeOutgoingData
    dsimp only
    split
    case isTrue enough => exact congrArg (·, side.protocol.in_) (if_pos enough).symm
    case isFalse tooMany => exact congrArg (·, side.protocol.in_) (if_neg tooMany).symm

variable {turns : Nat}

theorem handleAck {psn : Nat} (acks : Endpoint.handleAck turns side noReactions psn = .ok side') :
    ∃ consumed : Option Nat, Told side (consumed.map Event.consumeOutgoingData).toList side' := by
  rw [handleAck_eq] at acks
  by_cases awaiting : side.protocol.out.packetIsAwaitingAck psn = true
  · rw [if_pos awaiting] at acks
    cases acks
    obtain ⟨consumed, told⟩ := acknowledged side psn
    exact ⟨some consumed, told⟩
  · rw [if_neg awaiting] at acks
    cases acks
    exact ⟨none, .refl side⟩

theorem acceptPayload {payload : List UInt8}
    (accepts : Endpoint.acceptPayload turns side noReactions side.protocol.in_.nextExpectedDataPsn payload = .ok side') :
    Told side [Event.incomingDataAvailable payload] side' := by
  rw [acceptPayload_eq] at accepts
  cases accepts
  exact ⟨rfl, rfl⟩

/-- The rest of a packet hands over its payload, or nothing; a payload only into a free buffer. -/
theorem handlePayload {data : List UInt8} (handles : Prod.fst <$> Endpoint.handlePayload turns side noReactions data = .ok side') :
    ∃ payload : Option (List UInt8), Told side (payload.map Event.incomingDataAvailable).toList side' := by
  cases data with
  | nil =>
      rw [fst_handlePayload_nil] at handles
      exact ⟨none, .sendNextPackets handles⟩
  | cons header payload =>
      rw [fst_handlePayload_cons] at handles
      by_cases dropped : side.protocol.in_.payloadBufferFull = true ∨ side.Unexpected (header &&& ackOrPsnMask).toNat
      · rw [if_pos dropped] at handles
        cases handles
        exact ⟨none, .refl side⟩
      rw [if_neg dropped] at handles
      obtain ⟨between, accepts, sends⟩ := bind_ok handles
      have counted : Told between [] between.countUnacked := .quiet rfl rfl rfl
      have behind := counted.trans (.sendNextPackets sends)
      by_cases expected : (header &&& ackOrPsnMask).toNat = side.protocol.in_.nextExpectedDataPsn
      · rw [if_pos expected, expected] at accepts
        exact ⟨some payload, (acceptPayload accepts).trans behind⟩
      · rw [if_neg expected] at accepts
        cases accepts
        exact ⟨none, behind⟩

theorem handleDataPacket {header : UInt8} {rest : List UInt8}
    (handles : Prod.fst <$> Endpoint.handleDataPacket turns side noReactions (header :: rest) = .ok side') :
    ∃ consumed payload, Told side (sessionEvents none consumed payload) side' := by
  rw [fst_handleDataPacket] at handles
  by_cases long : (header :: rest).length > maxPacketSize
  · rw [if_pos long] at handles
    cases handles
    exact ⟨none, none, .refl side⟩
  rw [if_neg long] at handles
  by_cases withAck : header &&& dataPacketTypeWithAck = dataPacketTypeWithAck
  · rw [if_pos withAck] at handles
    obtain ⟨between, acks, handles⟩ := bind_ok handles
    obtain ⟨consumed, told⟩ := handleAck acks
    obtain ⟨payload, told'⟩ := handlePayload handles
    exact ⟨consumed, payload, told.trans told'⟩
  · rw [if_neg withAck] at handles
    obtain ⟨payload, told⟩ := handlePayload handles
    exact ⟨none, payload, told⟩

/-- A packet that is not for control, in a session. -/
theorem handleIncomingRawData {packet : List UInt8} (ready : side.protocol.state = .ready)
    (isData : packet ≠ [] → packet.headD 0 &&& packetTypeMask ≠ packetTypeControl)
    (handles : Prod.fst <$> Endpoint.handleIncomingRawData turns side noReactions packet = .ok side') :
    ∃ stalled consumed payload, Told side (sessionEvents stalled consumed payload) side' := by
  cases packet with
  | nil =>
      cases handles
      exact ⟨none, none, none, .refl side⟩
  | cons header rest =>
      have state : side.clearStall.protocol.state = .ready := (clearStall_same side).state.trans ready
      have notControl : ¬ header &&& packetTypeMask = packetTypeControl := isData (List.cons_ne_nil _ _)
      have started : ¬ side.protocol.state = .initialized := by
        rw [ready]
        decide
      rw [fst_handleIncomingRawData, if_neg started, if_neg notControl, if_neg (not_not.mpr state)] at handles
      obtain ⟨stalled, told⟩ := clearStall side
      obtain ⟨consumed, payload, told'⟩ := handleDataPacket handles
      exact ⟨stalled, consumed, payload, told.trans told'⟩

theorem fireAckTimer (fires : side.fireAckTimer turns = .ok side') : Told side [] side' := by
  unfold Endpoint.fireAckTimer at fires
  by_cases scheduled : side.protocol.out.ackTimer = none
  · rw [if_pos scheduled] at fires
    cases fires
    exact .refl side
  · rw [if_neg scheduled] at fires
    have armed : Told side [] side.ackTimerFired := .quiet rfl rfl rfl
    have sends : Endpoint.sendNextPackets turns side.ackTimerFired = .ok side' := fires
    exact armed.trans (.sendNextPackets sends)

theorem fireRetransmitTimer {elapsed : UInt32} (ready : side.protocol.state = .ready)
    (fires : side.fireRetransmitTimer turns elapsed = .ok side') :
    ∃ stalled : Option UInt32, Told side (stalled.map Event.sessionStalled).toList side' := by
  unfold Endpoint.fireRetransmitTimer at fires
  by_cases scheduled : side.protocol.out.retransmitTimer = none
  · rw [if_pos scheduled] at fires
    cases fires
    exact ⟨none, .refl side⟩
  rw [if_neg scheduled, onSendTimeoutFired_eq] at fires
  have state : (side.retransmitTimerFired elapsed).protocol.state = .ready := by
    rw [retransmitTimerFired_state, ready]
  rw [state] at fires
  let unscheduled := side.setOut { side.protocol.out with retransmitTimer := none }
  obtain ⟨stalled, told⟩ := stallOf (countStall_same unscheduled elapsed) (countStall_in unscheduled elapsed)
  have rolled : Told (unscheduled.countStall elapsed) [] (unscheduled.countStall elapsed).rolledBack := .quiet rfl rfl rfl
  have begins : Told side [] unscheduled := .quiet rfl rfl rfl
  have all := (begins.trans told).trans (rolled.trans (.sendNextPackets fires))
  simp only [List.nil_append, List.append_nil] at all
  exact ⟨stalled, all⟩

end Told

end GoldenGate.Gattlink

import GoldenGate.Common.Result
import GoldenGate.Lib.Memory
import Mathlib.Logic.Function.Basic

/-! # The Gattlink protocol

The embedding of `gg_gattlink.c`. An endpoint is the protocol object with what it calls:
the client's queue of outgoing data, the timers, and the wire, which holds the packets
that were sent and have not arrived yet. What the client does inside a callback is given
to the operation as a list of calls.
-/

namespace GoldenGate.Gattlink

open Memory

/-- `GG_GATTLINK_SN_WINDOW_SIZE`. -/
def snWindowSize : Nat := 32
def sendAckTimeout : Nat := 200
def resetCompleteTimeout : Nat := 1000
def resetCompleteAckTimeout : Nat := 2000
def expectedAckTimeout : Nat := 4000
def stallNotificationInterval : UInt32 := 12000
def minVersion : UInt8 := 0
def maxVersion : UInt8 := 0
/-- `GG_GATTLINK_MAX_PACKET_SIZE`. -/
def maxPacketSize : Nat := 512
/-- Size of `GG_GattlinkResetCompletePacket`. -/
def resetCompletePacketSize : Nat := 5

def packetTypeControl : UInt8 := 0x80
def packetTypeMask : UInt8 := 0x80
def controlPacketTypeMask : UInt8 := 0x7F
def controlPacketTypeResetRequest : UInt8 := 0
def controlPacketTypeResetComplete : UInt8 := 1
def dataPacketTypeWithAck : UInt8 := 0x40
def ackOrPsnMask : UInt8 := 0x1F

/-- `GG_GattlinkState`. -/
inductive State where
  | initialized
  | awaitingResetCompleteSelfInitiated
  | awaitingResetCompleteRemoteInitiated
  | ready
  deriving Repr, DecidableEq

/-- `GG_GattlinkSessionConfig`. -/
structure SessionConfig where
  maxTxWindowSize : UInt8
  maxRxWindowSize : UInt8
  deriving Repr, DecidableEq

/-- `GG_GattlinkOutboundPayloadInfo`. The payload sizes are indexed by serial number; a
    timer that is scheduled has its delay. -/
structure Outbound where
  psnToAckWith : Nat
  outstandingUnackedPackets : Nat
  nextExpectedAckSn : Nat
  nextDataSn : Nat
  payloadSizes : Nat → Nat
  ackTimer : Option Nat
  retransmitTimer : Option Nat
  ackNow : Bool

/-- `GG_GattlinkInboundPayloadInfo`, with the bytes of the payload only. -/
structure Inbound where
  nextExpectedDataPsn : Nat
  payloadBufferFull : Bool
  payload : List UInt8
  bytesConsumed : Nat
  deriving Repr, DecidableEq

def Outbound.zero : Outbound := ⟨0, 0, 0, 0, fun _ => 0, none, none, false⟩

def Inbound.zero : Inbound := ⟨0, false, [], 0⟩

/-- `GG_GattlinkProtocol`. -/
structure Protocol where
  state : State
  desiredSessionCfg : SessionConfig
  actualSessionCfg : SessionConfig
  stallTime : UInt32
  lastNotifiedStallTime : UInt32
  in_ : Inbound
  out : Outbound

/-- What passes between the client and the protocol. -/
inductive Event where
  | queued (bytes : List UInt8)
  | incomingDataAvailable (payload : List UInt8)
  | consumeOutgoingData (size : Nat)
  | sessionReady
  | sessionReset
  | sessionStalled (stalledTime : UInt32)
  deriving Repr, DecidableEq

/-- What the client does inside a callback. One that calls `GG_GattlinkProtocol_Reset` there is not modelled:
    the operation that called it would go on without the session. -/
inductive ClientCall where
  | queue (bytes : List UInt8)
  | notifyOutgoingDataAvailable
  | consumeIncomingData (size : Nat)
  | setTransportMaxPacketSize (size : Nat)
  deriving Repr, DecidableEq

/-- The calls of the client in each of its callbacks. -/
structure Reactions where
  onConsume : List ClientCall
  onIncoming : List ClientCall
  onReady : List ClientCall
  deriving Repr, DecidableEq

/-- A protocol object with its client and its side of the wire. The results of the next
    calls of `SendRawData` are given in advance; behind them it succeeds. -/
structure Endpoint where
  protocol : Protocol
  outgoing : List UInt8
  transportMaxPacketSize : Nat
  sendResults : List (Except Error Unit)
  wire : List (List UInt8)
  log : List Event

namespace Endpoint

def setOut (self : Endpoint) (out : Outbound) : Endpoint :=
  { self with protocol := { self.protocol with out := out } }

def setIn (self : Endpoint) (in_ : Inbound) : Endpoint :=
  { self with protocol := { self.protocol with in_ := in_ } }

def setState (self : Endpoint) (state : State) : Endpoint :=
  { self with protocol := { self.protocol with state := state } }

/-- Record an event. -/
def notify (self : Endpoint) (event : Event) : Endpoint := { self with log := self.log ++ [event] }

/-- `SendRawData`: a packet that is sent successfully is on the wire. -/
def sendRawData (self : Endpoint) (packet : List UInt8) : Endpoint × Except Error Unit :=
  match self.sendResults with
  | .error e :: rest => ({ self with sendResults := rest }, .error e)
  | results => ({ self with sendResults := results.tail, wire := self.wire ++ [packet] }, .ok ())

end Endpoint

/-! ## Serial numbers -/

/-- `GG_GattlinkProtocol_CalculateDistance`. -/
def calculateDistance (snBeginIncl snEndExcl : Nat) : Nat :=
  (snWindowSize + snEndExcl - snBeginIncl) % snWindowSize

/-- `GG_GattlinkProtocol_GetNextSn`. -/
def getNextSn (currentSn : Nat) : Nat := (currentSn + 1) % snWindowSize

namespace Outbound

/-- `GG_GattlinkProtocol_GetNumPacketsInFlight`. -/
def getNumPacketsInFlight (self : Outbound) : Nat :=
  calculateDistance self.nextExpectedAckSn self.nextDataSn

/-- `GG_GattlinkProtocol_PacketIsAwaitingAck`. -/
def packetIsAwaitingAck (self : Outbound) (sn : Nat) : Bool := self.payloadSizes sn ≠ 0

/-- `GG_GattlinkProtocol_SetPayloadSize`. -/
def setPayloadSize (self : Outbound) (sn payloadSize : Nat) : Outbound :=
  { self with payloadSizes := Function.update self.payloadSizes sn payloadSize }

/-- The serial numbers a loop from `sn` up to `snEndExcl` visits; it is back where it
    started after the whole window. -/
def snsUpTo (snEndExcl : Nat) : Nat → Nat → List Nat
  | 0, _ => []
  | turns + 1, sn => if sn = snEndExcl then [] else sn :: snsUpTo snEndExcl turns (getNextSn sn)

/-- `GG_GattlinkProtocol_GetTotalNumBytesAwaitingAckUpTo`. -/
def getTotalNumBytesAwaitingAckUpTo (self : Outbound) (snEndExcl : Nat) : Nat :=
  ((snsUpTo snEndExcl snWindowSize self.nextExpectedAckSn).map self.payloadSizes).sum

/-- `GG_GattlinkProtocol_GetTotalNumBytesAwaitingAck`. -/
def getTotalNumBytesAwaitingAck (self : Outbound) : Nat :=
  self.getTotalNumBytesAwaitingAckUpTo self.nextDataSn

/-- `ClearPayloadSizesUpTo`. -/
def clearPayloadSizesUpTo (self : Outbound) (snEndExcl : Nat) : Outbound :=
  (snsUpTo snEndExcl snWindowSize self.nextExpectedAckSn).foldl (fun out sn => out.setPayloadSize sn 0) self

/-- An ack was sent. -/
def ackSent (self : Outbound) : Outbound :=
  { self with outstandingUnackedPackets := 0, ackNow := false, ackTimer := none }

/-- A payload was sent with the next serial number. -/
def dataSent (self : Outbound) (payloadSize : Nat) : Outbound :=
  { self.setPayloadSize self.nextDataSn payloadSize with nextDataSn := getNextSn self.nextDataSn }

end Outbound

/-! ## The inbound buffer -/

namespace Inbound

/-- `GG_GattlinkProtocol_GetIncomingDataAvailable`. -/
def getIncomingDataAvailable (self : Inbound) : Nat :=
  if self.payloadBufferFull then self.payload.length - self.bytesConsumed else 0

/-- `GG_GattlinkProtocol_GetIncomingData`, where the sizes have 64 bits. It copies bytes of the
    payload only. -/
def getIncomingData (self : Inbound) (offset size : Nat) : Access (Except Error (List UInt8)) :=
  let bytesReady := self.getIncomingDataAvailable
  if bytesReady < size ∨ (offset + size) % 2 ^ 64 > bytesReady then return .error .invalidParameters
  else if size ≠ 0 ∧ self.bytesConsumed + offset + size > self.payload.length then .error .outOfBounds
  else return .ok ((self.payload.drop (self.bytesConsumed + offset)).take size)

/-- `GG_GattlinkProtocol_ConsumeIncomingData`. -/
def consumeIncomingData (self : Inbound) (numBytes : Nat) : Inbound × Except Error Unit :=
  if numBytes > self.getIncomingDataAvailable then (self, .error .invalidParameters)
  else
    let bytesConsumed := self.bytesConsumed + numBytes
    ({ self with
        bytesConsumed := bytesConsumed
        payloadBufferFull :=
          if bytesConsumed = self.payload.length then false else self.payloadBufferFull }, .ok ())

/-- The payload of the packet that was expected. -/
def accept (psn : Nat) (payload : List UInt8) : Inbound := ⟨getNextSn psn, true, payload, 0⟩

end Inbound

/-! ## Sending -/

namespace Endpoint

/-- The packet is to be sent with this much of a payload. -/
structure Prepared where
  packet : List UInt8
  payloadSize : Nat

/-- The size of the next payload: that of its previous transmission, else as much as is
    there and fits; zero when there is nothing. -/
def nextDataSize (self : Endpoint) (maxSize offset : Nat) : Access Nat :=
  let dataSize := self.protocol.out.payloadSizes self.protocol.out.nextDataSn
  if dataSize = 0 then do
    assert (self.outgoing.length ≥ offset)
    return min (self.outgoing.length - offset) (maxSize - 1)
  else return dataSize

/-- Data is about to be sent: the retransmission timer, if it is not scheduled already. -/
def armRetransmit (self : Endpoint) : Endpoint :=
  if self.protocol.out.retransmitTimer = none then
    self.setOut { self.protocol.out with retransmitTimer := some expectedAckTimeout }
  else self

/-- The data of a packet, behind the ack if there is one. -/
def prepareData (self : Endpoint) (ack : List UInt8) (maxSize : Nat) :
    Access (Endpoint × Option Prepared) := do
  let out := self.protocol.out
  let justAck := if ack = [] then none else some ⟨ack, 0⟩
  if out.getNumPacketsInFlight ≥ self.protocol.actualSessionCfg.maxTxWindowSize.toNat then
    return (self, justAck)
  if self.outgoing.length = 0 then return (self, justAck)
  let offset := out.getTotalNumBytesAwaitingAck
  let dataSize ← self.nextDataSize maxSize offset
  if dataSize = 0 then return (self, justAck)
  let payload := (self.outgoing.drop offset).take dataSize
  return (self.armRetransmit, some ⟨ack ++ UInt8.ofNat out.nextDataSn :: payload, dataSize⟩)

/-- `GG_GattlinkProtocol_PrepareNextPacket`. -/
def prepareNextPacket (self : Endpoint) : Access (Endpoint × Option Prepared) := do
  let maxSize := min self.transportMaxPacketSize maxPacketSize
  assert (maxSize ≥ resetCompletePacketSize)
  let out := self.protocol.out
  if out.ackNow ∨
      out.outstandingUnackedPackets > self.protocol.actualSessionCfg.maxRxWindowSize.toNat / 2 then
    self.prepareData [dataPacketTypeWithAck ||| UInt8.ofNat out.psnToAckWith] (maxSize - 1)
  else self.prepareData [] maxSize

/-- The book keeping of `SendNextPackets` for a packet that was sent. -/
def packetSent (self : Endpoint) (prepared : Prepared) : Endpoint :=
  let out := self.protocol.out
  let out :=
    if prepared.packet.headD 0 &&& dataPacketTypeWithAck = dataPacketTypeWithAck then out.ackSent
    else out
  self.setOut (if prepared.payloadSize > 0 then out.dataSent prepared.payloadSize else out)

end Endpoint

section Operations

/-! The loop that sends packets is given a number of turns; a window inside the space of
    serial numbers needs at most one more turn than it has packets, plus one. -/

variable (turns : Nat)

namespace Endpoint

/-- `GG_GattlinkProtocol_SendNextPackets`. -/
def sendNextPackets : Nat → Endpoint → Access Endpoint
  | 0, _ => .error .diverges
  | turns + 1, self => do
      let (self, prepared) ← self.prepareNextPacket
      match prepared with
      | none => return self
      | some prepared =>
          match self.sendRawData prepared.packet with
          | (self, .error _) => return self
          | (self, .ok _) => sendNextPackets turns (self.packetSent prepared)

/-- `GG_GattlinkProtocol_NotifyOutgoingDataAvailable`. -/
def notifyOutgoingDataAvailable (self : Endpoint) : Access Endpoint := sendNextPackets turns self

/-- `GG_GattlinkProtocol_ConsumeIncomingData`. -/
def consumeIncomingData (self : Endpoint) (numBytes : Nat) : Endpoint :=
  self.setIn (self.protocol.in_.consumeIncomingData numBytes).1

/-- One call of the client. -/
def call (self : Endpoint) : ClientCall → Access Endpoint
  | .queue bytes => return { self.notify (.queued bytes) with outgoing := self.outgoing ++ bytes }
  | .notifyOutgoingDataAvailable => notifyOutgoingDataAvailable turns self
  | .consumeIncomingData size => return self.consumeIncomingData size
  | .setTransportMaxPacketSize size => return { self with transportMaxPacketSize := size }

def calls (self : Endpoint) (clientCalls : List ClientCall) : Access Endpoint :=
  clientCalls.foldlM (call turns) self

/-- `ConsumeOutgoingData`, as the client does it. -/
def consumeOutgoingData (self : Endpoint) (bytesConsumed : Nat) : Endpoint :=
  let self := self.notify (.consumeOutgoingData bytesConsumed)
  if self.outgoing.length ≥ bytesConsumed then
    { self with outgoing := self.outgoing.drop bytesConsumed }
  else self

/-- `NotifySessionReset`: the client drops what it has queued. -/
def notifySessionReset (self : Endpoint) : Endpoint :=
  { self.notify .sessionReset with outgoing := [] }

/-! ## Resets -/

/-- `GG_GattlinkProtocol_UnscheduleTimers`. -/
def unscheduleTimers (self : Endpoint) : Endpoint :=
  self.setOut { self.protocol.out with ackTimer := none, retransmitTimer := none }

def scheduleRetransmit (self : Endpoint) (timeout : Nat) : Endpoint :=
  self.setOut { self.protocol.out with retransmitTimer := some timeout }

/-- `GG_GattlinkProtocol_BuildControlPacket`. -/
def buildControlPacket (type : UInt8) : UInt8 := (type &&& controlPacketTypeMask) ||| packetTypeControl

/-- `GG_GattlinkProtocol_SendResetPacket`. -/
def sendResetPacket (self : Endpoint) : Access (Endpoint × Except Error Unit) := do
  let self := self.scheduleRetransmit resetCompleteTimeout
  assert (self.transportMaxPacketSize ≥ 1)
  return self.sendRawData [buildControlPacket controlPacketTypeResetRequest]

def resetCompletePacket (desired : SessionConfig) : List UInt8 :=
  [buildControlPacket controlPacketTypeResetComplete, minVersion, maxVersion,
    desired.maxRxWindowSize, desired.maxTxWindowSize]

/-- `GG_GattlinkProtocol_SendResetCompletePacket`. -/
def sendResetCompletePacket (self : Endpoint) : Access (Endpoint × Except Error Unit) := do
  let self := self.scheduleRetransmit resetCompleteAckTimeout
  assert (self.transportMaxPacketSize ≥ resetCompletePacketSize)
  return self.sendRawData (resetCompletePacket self.protocol.desiredSessionCfg)

/-- The beginning of a reset: timers, state, and the notification of a client that was
    told that the session is ready. -/
def leaveSession (self : Endpoint) (state : State) : Endpoint :=
  let wasReady := self.protocol.state = .ready
  let self := self.unscheduleTimers.setState state
  if wasReady then self.notifySessionReset else self

/-- `GG_GattlinkProtocol_Reset`. -/
def reset (self : Endpoint) : Access (Endpoint × Except Error Unit) :=
  (self.leaveSession .awaitingResetCompleteSelfInitiated).sendResetPacket

/-- `GG_GattlinkProtocol_Start`. -/
def start (self : Endpoint) : Access (Endpoint × Except Error Unit) := do
  assert (self.protocol.state = .initialized)
  self.reset

/-- `GG_GattlinkProtocol_HandleResetRequest`. -/
def handleResetRequest (self : Endpoint) : Access (Endpoint × Except Error Unit) :=
  (self.leaveSession .awaitingResetCompleteRemoteInitiated).sendResetCompletePacket

/-- The window sizes of a session: no larger than either side wants them. -/
def agree (desired : SessionConfig) (rxWindowSize txWindowSize : UInt8) : SessionConfig :=
  ⟨min desired.maxTxWindowSize rxWindowSize, min desired.maxRxWindowSize txWindowSize⟩

/-- A new session. -/
def enterSession (self : Endpoint) : Endpoint :=
  (((self.setOut .zero).setIn .zero).setState .ready).notify .sessionReady

/-- `GG_GattlinkProtocol_HandleResetComplete`. -/
def handleResetComplete (self : Endpoint) (reactions : Reactions) (data : List UInt8) :
    Access (Endpoint × Except Error Unit) := do
  if data.length < resetCompletePacketSize then return (self, .error .invalidParameters)
  let rxWindowSize ← load data 3
  let txWindowSize ← load data 4
  let self :=
    { self with protocol :=
      { self.protocol with
        actualSessionCfg := agree self.protocol.desiredSessionCfg rxWindowSize txWindowSize } }
  let self ←
    if self.protocol.state = .awaitingResetCompleteSelfInitiated then
      Prod.fst <$> self.sendResetCompletePacket
    else pure self
  let self ← calls turns self.enterSession reactions.onReady
  return (self, .ok ())

/-- `GG_GattlinkProtocol_HandleControlPacket`. -/
def handleControlPacket (self : Endpoint) (reactions : Reactions) (type : UInt8)
    (data : List UInt8) : Access (Endpoint × Except Error Unit) :=
  if type = controlPacketTypeResetComplete then
    if self.protocol.state = .awaitingResetCompleteSelfInitiated ∨
        self.protocol.state = .awaitingResetCompleteRemoteInitiated then
      handleResetComplete turns self reactions data
    else return (self, .ok ())
  else if type = controlPacketTypeResetRequest then self.handleResetRequest
  else return (self, .error .invalidParameters)

/-! ## Timers -/

/-- `GG_GattlinkProtocol_OnAckTimerFired`. -/
def onAckTimerFired (self : Endpoint) : Access Endpoint :=
  sendNextPackets turns (self.setOut { self.protocol.out with ackNow := true })

/-- The stall counters of `OnSendTimeoutFired`. -/
def countStall (self : Endpoint) (elapsed : UInt32) : Endpoint :=
  let stallTime := self.protocol.stallTime + elapsed
  let (stallTime, lastNotified) :=
    if stallTime < self.protocol.lastNotifiedStallTime then (elapsed, 0)
    else (stallTime, self.protocol.lastNotifiedStallTime)
  if stallTime - lastNotified > stallNotificationInterval then
    { self with protocol :=
        { self.protocol with stallTime := stallTime, lastNotifiedStallTime := stallTime }
      }.notify (.sessionStalled stallTime)
  else
    { self with protocol :=
      { self.protocol with stallTime := stallTime, lastNotifiedStallTime := lastNotified } }

/-- `GG_GattlinkProtocol_OnSendTimeoutFired`. -/
def onSendTimeoutFired (self : Endpoint) (elapsed : UInt32) : Access Endpoint :=
  let self := self.countStall elapsed
  match self.protocol.state with
  | .awaitingResetCompleteSelfInitiated | .awaitingResetCompleteRemoteInitiated =>
      Prod.fst <$> self.reset
  | .initialized => return self
  | .ready =>
      sendNextPackets turns
        (self.setOut { self.protocol.out with nextDataSn := self.protocol.out.nextExpectedAckSn })

/-! ## Incoming packets -/

/-- The timer after an ack: still awaiting one, or not. -/
def rearm (out : Outbound) (nextPsn : Nat) : Outbound :=
  { out with
    retransmitTimer := if out.packetIsAwaitingAck nextPsn then some expectedAckTimeout else none }

/-- The ack in front of a data packet. -/
def handleAck (self : Endpoint) (reactions : Reactions) (ackdPsn : Nat) : Access Endpoint :=
  let out := self.protocol.out
  if out.packetIsAwaitingAck ackdPsn then
    let nextPsn := getNextSn ackdPsn
    let numBytesAcked := out.getTotalNumBytesAwaitingAckUpTo nextPsn
    let out := { rearm (out.clearPayloadSizesUpTo nextPsn) nextPsn with nextExpectedAckSn := nextPsn }
    calls turns ((self.setOut out).consumeOutgoingData numBytesAcked) reactions.onConsume
  else return self

/-- The payload of a data packet that was expected. -/
def acceptPayload (self : Endpoint) (reactions : Reactions) (psn : Nat) (payload : List UInt8) :
    Access Endpoint := do
  let self := self.setIn (.accept psn payload)
  let self ← calls turns (self.notify (.incomingDataAvailable payload)) reactions.onIncoming
  return self.setOut { self.protocol.out with psnToAckWith := psn }

/-- One more packet to ack. -/
def countUnacked (self : Endpoint) : Endpoint :=
  let out := self.protocol.out
  self.setOut
    { out with
      outstandingUnackedPackets := (out.outstandingUnackedPackets + 1) % 2 ^ 8
      ackTimer := some sendAckTimeout }

/-- The rest of a data packet, behind its ack. -/
def handlePayload (self : Endpoint) (reactions : Reactions) :
    List UInt8 → Access (Endpoint × Except Error Unit)
  | [] => do
      let self ← sendNextPackets turns self
      return (self, .ok ())
  | header :: payload => do
      if self.protocol.in_.payloadBufferFull then return (self, .error .notEnoughSpace)
      let psn := (header &&& ackOrPsnMask).toNat
      let expected := self.protocol.in_.nextExpectedDataPsn
      if psn ≠ expected ∧
          calculateDistance psn expected ≥ self.protocol.actualSessionCfg.maxRxWindowSize.toNat then
        return (self, .error .gattlinkUnexpectedPsn)
      let self ←
        if psn = expected then acceptPayload turns self reactions psn payload else pure self
      let self ← sendNextPackets turns self.countUnacked
      return (self, .ok ())

/-- `GG_GattlinkProtocol_HandleDataPacket`. -/
def handleDataPacket (self : Endpoint) (reactions : Reactions) (data : List UInt8) :
    Access (Endpoint × Except Error Unit) := do
  if data.length > maxPacketSize then return (self, .error .invalidParameters)
  let header ← load data 0
  if header &&& dataPacketTypeWithAck = dataPacketTypeWithAck then
    let self ← handleAck turns self reactions (header &&& ackOrPsnMask).toNat
    handlePayload turns self reactions (data.drop 1)
  else handlePayload turns self reactions data

/-- The peer is there: the end of a stall. -/
def clearStall (self : Endpoint) : Endpoint :=
  let self :=
    if self.protocol.stallTime > stallNotificationInterval then self.notify (.sessionStalled 0)
    else self
  { self with protocol := { self.protocol with stallTime := 0, lastNotifiedStallTime := 0 } }

/-- `GG_GattlinkProtocol_HandleIncomingRawData`. -/
def handleIncomingRawData (self : Endpoint) (reactions : Reactions) (data : List UInt8) :
    Access (Endpoint × Except Error Unit) := do
  if data.length = 0 then return (self, .ok ())
  if self.protocol.state = .initialized then return (self, .ok ())
  let self := self.clearStall
  let header ← load data 0
  if header &&& packetTypeMask = packetTypeControl then
    handleControlPacket turns self reactions (header &&& controlPacketTypeMask) data
  else if self.protocol.state ≠ .ready then return (self, .error .invalidState)
  else handleDataPacket turns self reactions data

end Endpoint

end Operations

end GoldenGate.Gattlink

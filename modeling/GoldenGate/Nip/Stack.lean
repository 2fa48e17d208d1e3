import GoldenGate.Common.Io
import GoldenGate.Protocols.Ipv4Header

/-! # The NIP stack

The embedding of `gg_nip.c`: UDP endpoints on one network interface, the packets that they send and
the delivery of those that are received. An endpoint is known by a number; of the sinks it only
matters whether they are set.
-/

namespace GoldenGate.Nip

open Memory

def udpDynamicPortRangeStart : Nat := 0xC000
def udpDynamicPortRangeEnd : Nat := 0xFFFF
def udpDynamicPortRangeSpan : Nat := udpDynamicPortRangeEnd - udpDynamicPortRangeStart

def maxPacketSize : Nat := 0xFFFF
def ipHeaderSize : Nat := 20
def udpHeaderSize : Nat := 8

/-- `GG_NipUdpEndpoint`. -/
structure NipUdpEndpoint where
  id : Nat
  hasSink : Bool
  localAddress : SocketAddress
  remoteAddress : SocketAddress
  localPortBound : Bool
  connected : Bool
  deriving Repr, DecidableEq

/-- `GG_NipStack`. -/
structure NipStack where
  udpEndpoints : List NipUdpEndpoint
  headerTemplate : List UInt8
  dynamicPortScanStart : UInt16
  nextIpIdentification : UInt16
  address : UInt32
  transportSink : Bool
  deriving Repr, DecidableEq

/-- `GG_NipIpUdpHeaderPrototype`: version 4 with 5 words, a TTL of 255, and UDP. -/
def ipUdpHeaderPrototype : List UInt8 := [0x45, 0, 0, 0, 0, 0, 0, 0, 0xFF, 0x11]

/-- What is delivered to the sink of an endpoint. -/
structure Delivery where
  endpoint : Nat
  payload : List UInt8
  source : SocketAddress
  deriving Repr, DecidableEq

/-- `GG_NIP_GET_16`. -/
def get16 (data : List UInt8) (offset : Nat) : Access UInt16 := do
  let hi ← load data offset
  let lo ← load data (offset + 1)
  return bytesToInt16Be hi lo

/-- A difference of two values of type `size_t`. -/
def sizeSub (a b : Nat) : Nat := (a + 2 ^ 64 - b) % 2 ^ 64

/-- `GG_BytesToInt32Be` of bytes of a packet. -/
def get32 (data : List UInt8) (offset : Nat) : Access UInt32 := do
  let b0 ← load data offset
  let b1 ← load data (offset + 1)
  let b2 ← load data (offset + 2)
  let b3 ← load data (offset + 3)
  return bytesToInt32Be b0 b1 b2 b3

/-- `GG_NipUdpEndpoint_Init`. -/
def NipUdpEndpoint.init (id : Nat) (localAddress remoteAddress : Option SocketAddress) (connectToRemote : Bool) :
    NipUdpEndpoint where
  id := id
  hasSink := false
  localAddress := localAddress.getD ⟨0, 0⟩
  remoteAddress := remoteAddress.getD ⟨0, 0⟩
  localPortBound := false
  connected := connectToRemote

/-- Where a datagram is sent to: by the metadata unless the endpoint is connected. -/
def NipUdpEndpoint.destination (self : NipUdpEndpoint) (metadata : Option BufferMetadata) : SocketAddress :=
  match metadata, self.connected with
  | some (.destinationSocketAddress socketAddress), false => socketAddress
  | _, _ => self.remoteAddress

namespace NipStack

/-- `GG_Nip_Initialize`. -/
def initialized : NipStack where
  udpEndpoints := []
  headerTemplate := List.replicate (ipHeaderSize + udpHeaderSize) 0
  dynamicPortScanStart := UInt16.ofNat udpDynamicPortRangeStart
  nextIpIdentification := 0
  address := 0
  transportSink := false

/-- The IP and UDP header template of an interface. -/
def template (address : UInt32) : List UInt8 :=
  ipUdpHeaderPrototype ++ [0, 0] ++ bytesFromInt32Be address ++ List.replicate 12 0

/-- `GG_Nip_Configure`. -/
def configure (self : NipStack) (netifAddress : UInt32) : NipStack :=
  { self with address := netifAddress, headerTemplate := template netifAddress }

/-! ## Sending -/

/-- The packet that `GG_NipUdpEndpoint_PutData` makes: the blanks of the template are filled in one after
    the other, and the payload follows. -/
def makePacket (self : NipStack) (endpoint : NipUdpEndpoint) (dstAddress : UInt32) (data : List UInt8) :
    Access (List UInt8) := do
  let packetSize := data.length + ipHeaderSize + udpHeaderSize
  let packet ← store (List.replicate packetSize 0) 0 self.headerTemplate
  let packet ← store packet 16 (bytesFromInt32Be dstAddress)
  let packet ← store packet 2 (bytesFromInt16Be (UInt16.ofNat packetSize))
  let packet ← store packet 4 (bytesFromInt16Be self.nextIpIdentification)
  let checksum := ~~~ Ipv4.ipv4Checksum (packet.take ipHeaderSize)
  let packet ← store packet 10 (bytesFromInt16Be checksum)
  let packet ← store packet 20 (bytesFromInt16Be endpoint.localAddress.port)
  let packet ← store packet 22 (bytesFromInt16Be endpoint.remoteAddress.port)
  let packet ← store packet 24 (bytesFromInt16Be (UInt16.ofNat (packetSize - ipHeaderSize)))
  store packet 28 data

/-- `GG_NipUdpEndpoint_PutData`: the packet that is put to the transport. -/
def endpointPutData (self : NipStack) (endpoint : NipUdpEndpoint) (data : List UInt8) (metadata : Option BufferMetadata) :
    Access (NipStack × Except Error (List UInt8)) := do
  if data.length + ipHeaderSize + udpHeaderSize > maxPacketSize then return (self, .error .invalidParameters)
  if !self.transportSink then return (self, .error .networkUnreachable)
  let destination := endpoint.destination metadata
  if destination.address = 0 ∨ destination.port = 0 then return (self, .error .invalidState)
  let packet ← self.makePacket endpoint destination.address data
  return ({ self with nextIpIdentification := self.nextIpIdentification + 1 }, .ok packet)

/-! ## Endpoints -/

/-- `GG_Nip_UdpSrcPortInUse`. -/
def udpSrcPortInUse (self : NipStack) (port : UInt16) : Bool := self.udpEndpoints.any (·.localAddress.port = port)

/-- The loop that looks for a free dynamic port, with what is left of the range: how far it went. -/
def scanPorts (self : NipStack) : Nat → Nat → Option (Nat × UInt16)
  | 0, _ => none
  | n + 1, i =>
      let port := UInt16.ofNat
        (udpDynamicPortRangeStart + (self.dynamicPortScanStart.toNat + i) % udpDynamicPortRangeSpan)
      if !self.udpSrcPortInUse port then some (i, port) else scanPorts self n (i + 1)

/-- `GG_Nip_AddUdpEndpoint`. -/
def addUdpEndpoint (self : NipStack) (endpoint : NipUdpEndpoint) : NipStack × Except Error Unit :=
  if self.udpEndpoints.any (·.id = endpoint.id) then (self, .error .invalidState)
  else
    let address := if endpoint.localAddress.address = 0 then self.address else endpoint.localAddress.address
    if endpoint.localAddress.port = 0 then
      match self.scanPorts udpDynamicPortRangeSpan 0 with
      | none => (self, .error .outOfResources)
      | some (i, port) =>
          let endpoint := { endpoint with localAddress := ⟨address, port⟩, localPortBound := false }
          ({ self with
              udpEndpoints := self.udpEndpoints ++ [endpoint]
              dynamicPortScanStart := UInt16.ofNat ((i + 1) % udpDynamicPortRangeSpan) }, .ok ())
    else if self.udpSrcPortInUse endpoint.localAddress.port then (self, .error .addressInUse)
    else
      let endpoint := { endpoint with localAddress := ⟨address, endpoint.localAddress.port⟩, localPortBound := true }
      ({ self with udpEndpoints := self.udpEndpoints ++ [endpoint] }, .ok ())

/-- `GG_Nip_RemoveEndpoint`. -/
def removeEndpoint (self : NipStack) (id : Nat) : NipStack × Except Error Unit :=
  if self.udpEndpoints.any (·.id = id) then
    ({ self with udpEndpoints := self.udpEndpoints.filter (·.id ≠ id) }, .ok ())
  else (self, .error .invalidState)

/-! ## Receiving -/

/-- A socket takes a packet for its port; one that is not locally bound takes every packet. -/
def takes (dstPort : UInt16) (endpoint : NipUdpEndpoint) : Bool :=
  !endpoint.localPortBound || endpoint.localAddress.port = dstPort

/-- `GG_NipStack_OnUdpPacketReceived`. -/
def onUdpPacketReceived (self : NipStack) (packet : List UInt8) (packetOffset packetSize : Nat) (srcAddress : UInt32) :
    Access (Option Delivery) := do
  if packetSize < udpHeaderSize then return none
  let udpLength ← get16 packet (packetOffset + 4)
  if udpLength.toNat ≠ packetSize then return none
  let srcPort ← get16 packet packetOffset
  let dstPort ← get16 packet (packetOffset + 2)
  match self.udpEndpoints.find? (takes dstPort) with
  | none => return none
  | some endpoint =>
      if !endpoint.hasSink then return none
      -- `GG_SubBuffer_Create`
      let offset := packetOffset + udpHeaderSize
      let size := packetSize - udpHeaderSize
      if offset + size > packet.length then return none
      return some ⟨endpoint.id, (packet.drop offset).take size, ⟨srcAddress, srcPort⟩⟩

/-- `GG_NipStack_PutData`. -/
def putData (self : NipStack) (packet : List UInt8) : Access (Option Delivery) := do
  let packetSize := packet.length
  if packetSize < ipHeaderSize then return none
  let versionAndIhl ← load packet 0
  let headerSize := 4 * (versionAndIhl.toNat &&& 0xF)
  if headerSize < ipHeaderSize then return none
  let protocol ← load packet 9
  if protocol ≠ 17 then return none
  let totalLength ← get16 packet 2
  if totalLength.toNat ≠ packetSize then return none
  let dstAddress ← get32 packet 16
  if dstAddress ≠ self.address then return none
  let srcAddress ← get32 packet 12
  self.onUdpPacketReceived packet headerSize (sizeSub packetSize headerSize) srcAddress

end NipStack

/-! ## Runs -/

/-- What happens to a stack. -/
inductive NipStep where
  | configure (netifAddress : UInt32)
  | setTransportSink (isSet : Bool)
  | addUdpEndpoint (endpoint : NipUdpEndpoint)
  | removeEndpoint (id : Nat)
  | setDataSink (id : Nat) (isSet : Bool)
  | endpointPutData (id : Nat) (data : List UInt8) (metadata : Option BufferMetadata)
  | putData (packet : List UInt8)

namespace NipStack

/-- `GG_NipUdpEndpoint_SetDataSink`. -/
def setDataSink (self : NipStack) (id : Nat) (isSet : Bool) : NipStack :=
  { self with udpEndpoints := self.udpEndpoints.map fun endpoint =>
      if endpoint.id = id then { endpoint with hasSink := isSet } else endpoint }

def step (self : NipStack) : NipStep → Access NipStack
  | .configure netifAddress => return self.configure netifAddress
  | .setTransportSink isSet => return { self with transportSink := isSet }
  | .addUdpEndpoint endpoint => return (self.addUdpEndpoint endpoint).1
  | .removeEndpoint id => return (self.removeEndpoint id).1
  | .setDataSink id isSet => return self.setDataSink id isSet
  | .endpointPutData id data metadata =>
      match self.udpEndpoints.find? (·.id = id) with
      | none => return self
      | some endpoint => do
          let (self, _) ← self.endpointPutData endpoint data metadata
          return self
  | .putData packet => do
      let _ ← self.putData packet
      return self

def run (self : NipStack) (steps : List NipStep) : Access NipStack := steps.foldlM step self

end NipStack

end GoldenGate.Nip

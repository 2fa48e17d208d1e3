import GoldenGate.Common.RingBuffer
import GoldenGate.Protocols.Ipv4Compression

/-! # IPv4 frame assembler and serializer

The assembler of `gg_ipv4_protocol.c` cuts a stream of bytes into packets by the
total length in their first four bytes, decompresses the compressed ones and remaps
addresses; the serializer does the reverse into a ring buffer.
-/

namespace GoldenGate.Ipv4

open Memory

/-- `GG_Ipv4FrameAssemblerIpMap`. -/
structure IpMap where
  srcAddress : UInt32
  remappedSrcAddress : UInt32
  dstAddress : UInt32
  remappedDstAddress : UInt32
  deriving Repr, DecidableEq

/-- `GG_Ipv4FrameAssembler`. A configuration enables decompression, a map enables
    remapping. -/
structure FrameAssembler where
  ipConfig : Option IpConfig
  ipMap : Option IpMap
  skip : Nat
  payloadSize : Nat
  packetSize : Nat
  bufferSize : Nat
  buffer : List UInt8

namespace FrameAssembler

/-- `GG_Ipv4FrameAssembler_Create`. -/
def create (maxPacketSize : UInt16) (ipConfig : Option IpConfig) (ipMap : Option IpMap) :
    Except Error FrameAssembler :=
  if maxPacketSize.toNat < minIpHeaderSize then .error .invalidParameters
  else .ok
    { ipConfig := ipConfig
      ipMap := ipMap
      skip := 0
      payloadSize := 0
      packetSize := 0
      bufferSize := maxPacketSize.toNat
      buffer := List.replicate maxPacketSize.toNat 0 }

/-- `GG_Ipv4FrameAssembler_Reset`. -/
def reset (self : FrameAssembler) : FrameAssembler :=
  { self with skip := 0, payloadSize := 0, packetSize := 0 }

/-- `GG_Ipv4FrameAssembler_GetFeedBuffer`: an offset into the buffer, and a size. -/
def getFeedBuffer (self : FrameAssembler) : Access (Nat × Nat) :=
  if self.skip ≠ 0 then return (0, min self.skip self.bufferSize)
  else do
    assert (self.bufferSize ≥ self.payloadSize)
    if self.packetSize = 0 then return (self.payloadSize, minPartialHeaderSize - self.payloadSize)
    else return (self.payloadSize, self.bufferSize - self.payloadSize)

/-- `GG_Ipv4FrameAssembler_DecompressAndEmitPacket`, on the bytes of the packet. -/
def decompressAndEmitPacket (ipConfig : Option IpConfig) (packet : List UInt8) :
    Access (Except Error (List UInt8)) :=
  match ipConfig with
  | none => return .error .notSupported
  | some ipConfig => do
      match ← decompressHeaders packet ipConfig with
      | .error e => return .error e
      | .ok (ipHeader, udpHeader, compressedHeaderSize) =>
          assert (compressedHeaderSize ≤ packet.length)
          assert (compressedHeaderSize ≤ ipHeader.totalLength.toNat)
          let output := List.replicate ipHeader.totalLength.toNat 0
          let ipHeaderSize := 4 * ipHeader.ihl.toNat
          match ← ipHeader.serialize output ipHeaderSize true with
          | .error e => return .error e
          | .ok output =>
              let isUdp := ipHeader.protocol = protocolUdp
              let output ←
                if isUdp then udpHeader.serialize output ipHeaderSize else pure output
              let offset := ipHeaderSize + (if isUdp then udpHeaderSize else 0)
              let output ←
                if packet.length > compressedHeaderSize then
                  store output offset (packet.drop compressedHeaderSize)
                else pure output
              return .ok output

def loadInt32Be (packet : List UInt8) (offset : Nat) : Access UInt32 := do
  let b0 ← load packet offset
  let b1 ← load packet (offset + 1)
  let b2 ← load packet (offset + 2)
  let b3 ← load packet (offset + 3)
  return bytesToInt32Be b0 b1 b2 b3

/-- One address of a frame that may be remapped; says whether it was. -/
def remapAddress (packet : List UInt8) (offset : Nat) (address remapped : UInt32) :
    Access (List UInt8 × Bool) := do
  let found ← loadInt32Be packet offset
  if found = address then
    let packet ← store packet offset (bytesFromInt32Be remapped)
    return (packet, true)
  else return (packet, false)

/-- The checksums of a frame with a remapped address. -/
def recomputeChecksum (packet : List UInt8) : Access (List UInt8) := do
  let ihl := (← load packet 0) &&& 0x0F
  if ihl ≥ headerMinIhl ∧ ihl.toNat * 4 ≤ packet.length then
    let packet ← store packet 10 [0, 0]
    let checksum := ~~~ ipv4Checksum (packet.take (4 * ihl.toNat))
    let packet ← store packet 10 (bytesFromInt16Be checksum)
    let protocol ← load packet 9
    if protocol = protocolUdp ∧ ihl.toNat * 4 + udpHeaderSize ≤ packet.length then
      store packet (ihl.toNat * 4 + 6) [0, 0]
    else return packet
  else return packet

/-- The remapping at the end of `GG_Ipv4FrameAssembler_EmitPacket`. -/
def remap (ipMap : IpMap) (packet : List UInt8) : Access (List UInt8) := do
  let (packet, srcRemapped) ←
    remapAddress packet 12 ipMap.srcAddress ipMap.remappedSrcAddress
  let (packet, dstRemapped) ←
    remapAddress packet 16 ipMap.dstAddress ipMap.remappedDstAddress
  if srcRemapped ∨ dstRemapped then recomputeChecksum packet else return packet

/-- What `GG_Ipv4FrameAssembler_EmitPacket` makes of a complete packet. -/
def packetFrame (ipConfig : Option IpConfig) (ipMap : Option IpMap) (packet : List UInt8) :
    Access (Except Error (List UInt8)) := do
  let first ← load packet 0
  let result ←
    if first.toNat &&& packetIsCompressed ≠ 0 then decompressAndEmitPacket ipConfig packet
    else pure (.ok packet)
  match result, ipMap with
  | .ok frame, some ipMap => return .ok (← remap ipMap frame)
  | result, _ => return result

/-- `GG_Ipv4FrameAssembler_EmitPacket`. -/
def emitPacket (self : FrameAssembler) :
    Access (FrameAssembler × Except Error (List UInt8)) := do
  let result ← packetFrame self.ipConfig self.ipMap (self.buffer.take self.packetSize)
  return ({ self with packetSize := 0, payloadSize := 0 }, result)

/-- What a feed returns: the assembler, the bytes consumed, the result with its frame. -/
abbrev Fed := FrameAssembler × Nat × Except Error (Option (List UInt8))

/-- The end of `Feed`: take what the packet still needs, and emit it when it is complete. -/
def feedPacket (self : FrameAssembler) (consumed dataSize : Nat) : Access Fed := do
  let willTake :=
    if consumed < dataSize then min (dataSize - consumed) (self.packetSize - self.payloadSize)
    else 0
  let self := { self with payloadSize := self.payloadSize + willTake }
  let consumed := consumed + willTake
  if self.payloadSize = self.packetSize then
    let (self, result) ← self.emitPacket
    return (self, consumed, result.map some)
  else return (self, consumed, .ok none)

/-- `GG_Ipv4FrameAssembler_Feed`: `dataSize` bytes were put into the feed buffer. -/
def feed (self : FrameAssembler) (dataSize : Nat) : Access Fed := do
  if self.skip ≠ 0 then
    if dataSize ≤ self.skip then
      return ({ self with skip := self.skip - dataSize }, dataSize, .ok none)
    else return ({ self with skip := 0 }, self.skip, .ok none)
  if self.packetSize = 0 then
    assert (self.payloadSize < minPartialHeaderSize)
    let needed := minPartialHeaderSize - self.payloadSize
    if needed > dataSize then
      return ({ self with payloadSize := self.payloadSize + dataSize }, dataSize, .ok none)
    let hi ← load self.buffer 2
    let lo ← load self.buffer 3
    let self :=
      { self with
        payloadSize := self.payloadSize + needed
        packetSize := (bytesToInt16Be hi lo).toNat }
    if self.packetSize < minPartialHeaderSize then
      return (self.reset, needed, .error .invalidSyntax)
    if self.packetSize > self.bufferSize then
      return ({ self with
        skip := self.packetSize - self.payloadSize
        payloadSize := 0
        packetSize := 0 }, needed, .ok none)
    self.feedPacket needed dataSize
  else self.feedPacket 0 dataSize

end FrameAssembler

/-- `GG_Ipv4FrameSerializer`. A configuration enables compression. -/
structure FrameSerializer where
  ipConfig : Option IpConfig
  workspace : List UInt8

namespace FrameSerializer

def workspaceSize : Nat := maxIpHeaderSize + udpHeaderSize + compressionMaxOverhead

/-- `GG_Ipv4FrameSerializer_Create`. -/
def create (ipConfig : Option IpConfig) : FrameSerializer :=
  ⟨ipConfig, List.replicate workspaceSize 0⟩

/-- The UDP header of a frame that has one. -/
def parseUdp (ipHeader : PacketHeader) (frame : List UInt8) :
    Access (Except Error (Option UdpPacketHeader)) :=
  if ipHeader.protocol = protocolUdp then
    if frame.length < 4 * ipHeader.ihl.toNat + udpHeaderSize then return .error .invalidFormat
    else do
      let result ← UdpPacketHeader.parse (frame.drop (4 * ipHeader.ihl.toNat))
      return result.map some
  else return .ok none

/-- `GG_Ipv4FrameSerializer_SerializeFrame`. -/
def serializeFrame (self : FrameSerializer) (frame : List UInt8) (outputBuffer : RingBuffer) :
    Access (FrameSerializer × RingBuffer × Except Error Unit) := do
  if frame.length ≥ outputBuffer.size then
    return (self, outputBuffer, .error .invalidParameters)
  if frame.length + 2 > outputBuffer.getSpace then
    return (self, outputBuffer, .error .wouldBlock)
  match self.ipConfig with
  | some ipConfig =>
      match ← PacketHeader.parse frame with
      | .error e => return (self, outputBuffer, .error e)
      | .ok ipHeader =>
          if frame.length < 4 * ipHeader.ihl.toNat then
            return (self, outputBuffer, .error .invalidFormat)
          match ← parseUdp ipHeader frame with
          | .error e => return (self, outputBuffer, .error e)
          | .ok udpHeader =>
              let headerSize := 4 * ipHeader.ihl.toNat +
                (if ipHeader.protocol = protocolUdp then udpHeaderSize else 0)
              let (workspace, compressedHeaderSize) ←
                compressHeaders ipHeader udpHeader ipConfig self.workspace
              let (_, outputBuffer) ← outputBuffer.write (workspace.take compressedHeaderSize)
              let (_, outputBuffer) ← outputBuffer.write (frame.drop headerSize)
              return ({ self with workspace := workspace }, outputBuffer, .ok ())
  | none =>
      let (_, outputBuffer) ← outputBuffer.write frame
      return (self, outputBuffer, .ok ())

end FrameSerializer

end GoldenGate.Ipv4

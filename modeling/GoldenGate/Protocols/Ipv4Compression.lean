import GoldenGate.Common.BitStream
import GoldenGate.Protocols.Ipv4Header

/-! # IPv4 header compression

The compressor and decompressor of `gg_ipv4_protocol.c`. A field that has the value
the configuration or a default gives it is elided; the flags say which fields are
there, and those follow as a string of bits, without padding between them.
-/

namespace GoldenGate.Ipv4

open Memory Bits

def compressionFixedSize : Nat := 6
def compressionMaxOverhead : Nat := 2
def packetIsCompressed : Nat := 0x80

def hasIhl : Nat := 0x0001
def hasDscp : Nat := 0x0002
def hasEcn : Nat := 0x0004
def hasFlags : Nat := 0x0008
def hasFragmentOffset : Nat := 0x0010
def hasTtl : Nat := 0x0020
def protocolMask : Nat := 0x00C0
def flagProtocolTcp : Nat := 0x0000
def flagProtocolUdp : Nat := 0x0040
def flagProtocolIcmp : Nat := 0x0080
def hasProtocol : Nat := 0x00C0
def hasSrcAddress : Nat := 0x0100
def hasDstAddress : Nat := 0x0200
def udpSrcPortMask : Nat := 0x0C00
def udpSrcPortA : Nat := 0x0000
def udpSrcPortB : Nat := 0x0400
def udpSrcPortC : Nat := 0x0800
def udpHasSrcPort : Nat := 0x0C00
def udpDstPortMask : Nat := 0x3000
def udpDstPortA : Nat := 0x0000
def udpDstPortB : Nat := 0x1000
def udpDstPortC : Nat := 0x2000
def udpHasDstPort : Nat := 0x3000
def udpHasLength : Nat := 0x4000

def defaultIhl : Nat := 5
def defaultDscp : Nat := 0
def defaultEcn : Nat := 0
def defaultFlags : Nat := 0
def defaultFragmentOffset : Nat := 0
def defaultTtl : Nat := 0

/-- `GG_Ipv4FrameSerializationIpConfig`. -/
structure IpConfig where
  defaultSrcAddress : UInt32
  defaultDstAddress : UInt32
  udpSrcPorts : Fin 3 → UInt16
  udpDstPorts : Fin 3 → UInt16

/-! ## Compression -/

/-- The flags so far, and the bits of the fields that are not elided. -/
structure Packing where
  flags : Nat
  bits : BitOutputStream

/-- A field with its flag: nothing when it has the default value. -/
def Packing.put (self : Packing) (field default flag width : Nat) : Access Packing :=
  if field ≠ default then do
    let bits ← self.bits.write field width
    return ⟨self.flags ||| flag, bits⟩
  else return self

def Packing.putProtocol (self : Packing) (protocol : UInt8) : Access Packing :=
  if protocol = protocolTcp then return { self with flags := self.flags ||| flagProtocolTcp }
  else if protocol = protocolUdp then return { self with flags := self.flags ||| flagProtocolUdp }
  else if protocol = protocolIcmp then return { self with flags := self.flags ||| flagProtocolIcmp }
  else do
    let bits ← self.bits.write protocol.toNat 8
    return ⟨self.flags ||| hasProtocol, bits⟩

/-- A UDP port against the three known ones. -/
def Packing.putPort (self : Packing) (port : UInt16) (known : Fin 3 → UInt16)
    (flagA flagB flagC hasPort : Nat) : Access Packing :=
  if port = known 0 then return { self with flags := self.flags ||| flagA }
  else if port = known 1 then return { self with flags := self.flags ||| flagB }
  else if port = known 2 then return { self with flags := self.flags ||| flagC }
  else do
    let bits ← self.bits.write port.toNat 16
    return ⟨self.flags ||| hasPort, bits⟩

/-- The flag of a port, and the bits of one that is not known. -/
def portFlag (port : UInt16) (known : Fin 3 → UInt16) (flagA flagB flagC hasPort : Nat) : Nat :=
  if port = known 0 then flagA
  else if port = known 1 then flagB
  else if port = known 2 then flagC
  else hasPort

def portBits (port : UInt16) (known : Fin 3 → UInt16) : List Bool :=
  if port = known 0 then []
  else if port = known 1 then []
  else if port = known 2 then []
  else bits 16 port.toNat

/-- The loop over the option bytes. -/
def Packing.putOptions (self : Packing) (options : List UInt8) : Access Packing := do
  let bits ← options.foldlM (fun bits b => bits.write b.toNat 8) self.bits
  return { self with bits := bits }

def Packing.putLength (self : Packing) (ipHeader : PacketHeader) (udpHeader : UdpPacketHeader) :
    Access Packing :=
  if 4 * ipHeader.ihl.toNat + udpHeader.length.toNat ≠ ipHeader.totalLength.toNat then do
    let bits ← self.bits.write udpHeader.length.toNat 16
    return ⟨self.flags ||| udpHasLength, bits⟩
  else return self

/-- The UDP part, when there is a UDP header. -/
def Packing.putUdp (self : Packing) (ipHeader : PacketHeader) (ipConfig : IpConfig) :
    Option UdpPacketHeader → Access Packing
  | none => return self
  | some udpHeader => do
      let self ← self.putPort udpHeader.srcPort ipConfig.udpSrcPorts udpSrcPortA udpSrcPortB
        udpSrcPortC udpHasSrcPort
      let self ← self.putPort udpHeader.dstPort ipConfig.udpDstPorts udpDstPortA udpDstPortB
        udpDstPortC udpHasDstPort
      self.putLength ipHeader udpHeader

/-- `GG_Ipv4_CompressHeaders`: the buffer, and how much of it is used. -/
def compressHeaders (ipHeader : PacketHeader) (udpHeader : Option UdpPacketHeader)
    (ipConfig : IpConfig) (buffer : List UInt8) : Access (List UInt8 × Nat) := do
  assert (buffer.length ≥ compressionFixedSize)
  assert (ipHeader.ihl ≥ headerMinIhl)
  let out : Packing :=
    ⟨packetIsCompressed <<< 8, .init (buffer.drop compressionFixedSize)⟩
  let out ← out.put ipHeader.ihl.toNat defaultIhl hasIhl 4
  let out ← out.put ipHeader.dscp.toNat defaultDscp hasDscp 6
  let out ← out.put ipHeader.ecn.toNat defaultEcn hasEcn 2
  let out ← out.put ipHeader.flags.toNat defaultFlags hasFlags 3
  let out ← out.put ipHeader.fragmentOffset.toNat defaultFragmentOffset hasFragmentOffset 13
  let out ← out.put ipHeader.ttl.toNat defaultTtl hasTtl 8
  let out ← out.putProtocol ipHeader.protocol
  let out ← out.put ipHeader.srcAddress.toNat ipConfig.defaultSrcAddress.toNat hasSrcAddress 32
  let out ← out.put ipHeader.dstAddress.toNat ipConfig.defaultDstAddress.toNat hasDstAddress 32
  let optionsSize := 4 * (ipHeader.ihl.toNat - headerMinIhl.toNat)
  let out ← out.putOptions (ipHeader.options.take optionsSize)
  let out ← out.putUdp ipHeader ipConfig udpHeader
  let headerSize := 4 * ipHeader.ihl.toNat +
    (if ipHeader.protocol = protocolUdp then udpHeaderSize else 0)
  assert (ipHeader.totalLength.toNat ≥ headerSize)
  let payloadSize := ipHeader.totalLength.toNat - headerSize
  let compressedHeadersSize := compressionFixedSize + (out.bits.getPosition + 7) / 8
  let totalLength := compressedHeadersSize + payloadSize
  let bits ← out.bits.flush
  return ([UInt8.ofNat (out.flags >>> 8), UInt8.ofNat out.flags,
      UInt8.ofNat (totalLength >>> 8), UInt8.ofNat totalLength] ++
    bytesFromInt16Be ipHeader.identification ++ bits.bytes, compressedHeadersSize)

/-! ## Decompression -/

/-- A field with its flag: the default when it was elided. -/
def readField (bits : BitInputStream) (flags flag width default : Nat) :
    Access (Nat × BitInputStream) :=
  if flags &&& flag ≠ 0 then bits.read width else return (default, bits)

def readProtocol (bits : BitInputStream) (flags : Nat) : Access (Nat × BitInputStream) :=
  if flags &&& protocolMask = flagProtocolTcp then return (protocolTcp.toNat, bits)
  else if flags &&& protocolMask = flagProtocolUdp then return (protocolUdp.toNat, bits)
  else if flags &&& protocolMask = flagProtocolIcmp then return (protocolIcmp.toNat, bits)
  else bits.read 8

def readPort (bits : BitInputStream) (flags mask flagA flagB flagC : Nat)
    (known : Fin 3 → UInt16) : Access (Nat × BitInputStream) :=
  if flags &&& mask = flagA then return ((known 0).toNat, bits)
  else if flags &&& mask = flagB then return ((known 1).toNat, bits)
  else if flags &&& mask = flagC then return ((known 2).toNat, bits)
  else bits.read 16

/-- The loop over the option bytes. -/
def readOptions : Nat → BitInputStream → Access (List UInt8 × BitInputStream)
  | 0, bits => return ([], bits)
  | n + 1, bits => do
      let (b, bits) ← bits.read 8
      let (options, bits) ← readOptions n bits
      return (UInt8.ofNat b :: options, bits)

/-- The UDP part; the length is only known here when it is in the packet. -/
def readUdp (bits : BitInputStream) (flags : Nat) (ipConfig : IpConfig) (isUdp : Bool) :
    Access (UdpPacketHeader × BitInputStream) :=
  if isUdp then do
    let (srcPort, bits) ← readPort bits flags udpSrcPortMask udpSrcPortA udpSrcPortB udpSrcPortC
      ipConfig.udpSrcPorts
    let (dstPort, bits) ← readPort bits flags udpDstPortMask udpDstPortA udpDstPortB udpDstPortC
      ipConfig.udpDstPorts
    let (length, bits) ← readField bits flags udpHasLength 16 0
    return (⟨UInt16.ofNat srcPort, UInt16.ofNat dstPort, UInt16.ofNat length, 0⟩, bits)
  else return (⟨0, 0, 0, 0⟩, bits)

/-- The UDP length of a packet that does not have it. The source subtracts the size of
    the header from that of the payload, also below zero. -/
def adjustLength (udpHeader : UdpPacketHeader) (flags : Nat) (isUdp : Bool) (payloadSize : Nat) :
    UdpPacketHeader :=
  if isUdp ∧ flags &&& udpHasLength = 0 then
    { udpHeader with length := UInt16.ofInt ((payloadSize : Int) - (udpHeaderSize : Int)) }
  else udpHeader

/-- `GG_Ipv4_DecompressHeaders`: both headers, and the size of the compressed ones. -/
def decompressHeaders (data : List UInt8) (ipConfig : IpConfig) :
    Access (Except Error (PacketHeader × UdpPacketHeader × Nat)) := do
  assert (data.length ≥ compressionFixedSize)
  let b0 ← load data 0
  let b1 ← load data 1
  let b4 ← load data 4
  let b5 ← load data 5
  let flags := (b0.toNat <<< 8) ||| b1.toNat
  let bits := BitInputStream.init (data.drop compressionFixedSize)
  let (ihl, bits) ← readField bits flags hasIhl 4 defaultIhl
  let (dscp, bits) ← readField bits flags hasDscp 6 defaultDscp
  let (ecn, bits) ← readField bits flags hasEcn 2 defaultEcn
  let (ipFlags, bits) ← readField bits flags hasFlags 3 defaultFlags
  let (fragmentOffset, bits) ←
    readField bits flags hasFragmentOffset 13 defaultFragmentOffset
  let (ttl, bits) ← readField bits flags hasTtl 8 defaultTtl
  let (protocol, bits) ← readProtocol bits flags
  let (srcAddress, bits) ← readField bits flags hasSrcAddress 32 ipConfig.defaultSrcAddress.toNat
  let (dstAddress, bits) ← readField bits flags hasDstAddress 32 ipConfig.defaultDstAddress.toNat
  if 4 * ihl < minIpHeaderSize then return .error .invalidFormat
  let (options, bits) ← readOptions (4 * (ihl - headerMinIhl.toNat)) bits
  let isUdp := protocol = protocolUdp.toNat
  let (udpHeader, bits) ← readUdp bits flags ipConfig isUdp
  let headerSize := 4 * ihl + (if isUdp then udpHeaderSize else 0)
  let compressedHeaderSize := compressionFixedSize + (bits.getPosition + 7) / 8
  if compressedHeaderSize > data.length then return .error .invalidFormat
  let payloadSize := data.length - compressedHeaderSize
  return .ok
    ({ version := 4
       ihl := UInt8.ofNat ihl
       dscp := UInt8.ofNat dscp
       ecn := UInt8.ofNat ecn
       totalLength := UInt16.ofNat (headerSize + payloadSize)
       identification := bytesToInt16Be b4 b5
       flags := UInt8.ofNat ipFlags
       fragmentOffset := UInt16.ofNat fragmentOffset
       ttl := UInt8.ofNat ttl
       protocol := UInt8.ofNat protocol
       checksum := 0
       srcAddress := UInt32.ofNat srcAddress
       dstAddress := UInt32.ofNat dstAddress
       options := options },
      adjustLength udpHeader flags isUdp payloadSize, compressedHeaderSize)

end GoldenGate.Ipv4

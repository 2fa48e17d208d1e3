import GoldenGate.Common.Result
import GoldenGate.Common.Utils
import GoldenGate.Lib.Memory

/-! # IPv4 and UDP headers

The header codecs of `gg_ipv4_protocol.c` and the checksum. A packet is a list of
bytes; the options of a header are the bytes its IHL announces.
-/

namespace GoldenGate.Ipv4

open Memory

def minPartialHeaderSize : Nat := 4
def baseHeaderSize : Nat := 20
def minIpHeaderSize : Nat := 20
def maxIpHeaderSize : Nat := 60
def udpHeaderSize : Nat := 8
def headerMinIhl : UInt8 := 5
def headerMaxIhl : UInt8 := 15

def protocolIcmp : UInt8 := 1
def protocolTcp : UInt8 := 6
def protocolUdp : UInt8 := 17

/-- `GG_Ipv4PacketHeader`. -/
structure PacketHeader where
  version : UInt8
  ihl : UInt8
  dscp : UInt8
  ecn : UInt8
  totalLength : UInt16
  identification : UInt16
  flags : UInt8
  fragmentOffset : UInt16
  ttl : UInt8
  protocol : UInt8
  checksum : UInt16
  srcAddress : UInt32
  dstAddress : UInt32
  options : List UInt8
  deriving Repr, DecidableEq

/-- `GG_UdpPacketHeader`. -/
structure UdpPacketHeader where
  srcPort : UInt16
  dstPort : UInt16
  length : UInt16
  checksum : UInt16
  deriving Repr, DecidableEq

/-! ## Checksum -/

/-- The loop over pairs of bytes, and the byte that may be left. -/
def sumWords : List UInt8 → Nat → Nat
  | hi :: lo :: rest, checksum =>
      sumWords rest ((checksum + ((hi.toNat <<< 8) ||| lo.toNat)) % 2 ^ 32)
  | [b], checksum => (checksum + b.toNat <<< 8) % 2 ^ 32
  | [], checksum => checksum

/-- Add the carry bits back in. -/
def foldCarry (checksum : Nat) : Nat := (checksum >>> 16) + (checksum &&& 0xFFFF)

/-- `GG_Ipv4Checksum`. -/
def ipv4Checksum (data : List UInt8) : UInt16 :=
  let folded := foldCarry (sumWords data 0)
  UInt16.ofNat (if folded &&& 0xFFFF0000 ≠ 0 then foldCarry folded else folded)

/-! ## IPv4 header -/

/-- `GG_Ipv4PacketHeader_Parse`. -/
def PacketHeader.parse (packet : List UInt8) : Access (Except Error PacketHeader) := do
  if packet.length < baseHeaderSize then return .error .invalidParameters
  let b0 ← load packet 0
  if b0 >>> 4 ≠ 4 then return .error .invalidFormat
  let ihl := b0 &&& 0x0F
  if ihl < headerMinIhl ∨ ihl.toNat * 4 > packet.length then return .error .invalidFormat
  let b1 ← load packet 1
  let b2 ← load packet 2
  let b3 ← load packet 3
  let b4 ← load packet 4
  let b5 ← load packet 5
  let b6 ← load packet 6
  let b7 ← load packet 7
  let b8 ← load packet 8
  let b9 ← load packet 9
  let b10 ← load packet 10
  let b11 ← load packet 11
  let b12 ← load packet 12
  let b13 ← load packet 13
  let b14 ← load packet 14
  let b15 ← load packet 15
  let b16 ← load packet 16
  let b17 ← load packet 17
  let b18 ← load packet 18
  let b19 ← load packet 19
  let options := (packet.drop 20).take ((ihl.toNat - 5) * 4)
  return .ok
    { version := b0 >>> 4
      ihl := ihl
      dscp := b1 >>> 2
      ecn := b1 &&& 0x03
      totalLength := bytesToInt16Be b2 b3
      identification := bytesToInt16Be b4 b5
      flags := b6 >>> 5
      fragmentOffset := bytesToInt16Be (b6 &&& 0x1F) b7
      ttl := b8
      protocol := b9
      checksum := bytesToInt16Be b10 b11
      srcAddress := bytesToInt32Be b12 b13 b14 b15
      dstAddress := bytesToInt32Be b16 b17 b18 b19
      options := options }

/-- The bytes of a header with the given checksum. -/
def PacketHeader.bytes (self : PacketHeader) (checksum : UInt16) : List UInt8 :=
  [(self.version <<< 4) ||| self.ihl, (self.dscp <<< 2) ||| (self.ecn &&& 0x03)] ++
  bytesFromInt16Be self.totalLength ++ bytesFromInt16Be self.identification ++
  [(self.flags <<< 5) ||| UInt8.ofNat ((self.fragmentOffset.toNat >>> 8) &&& 0x1F),
    UInt8.ofNat self.fragmentOffset.toNat, self.ttl, self.protocol] ++
  bytesFromInt16Be checksum ++
  bytesFromInt32Be self.srcAddress ++ bytesFromInt32Be self.dstAddress ++
  (if self.ihl > 5 then self.options.take (4 * (self.ihl.toNat - 5)) else [])

/-- `GG_Ipv4PacketHeader_Serialize` into a buffer of the caller. -/
def PacketHeader.serialize (self : PacketHeader) (buffer : List UInt8) (bufferSize : Nat)
    (computeChecksum : Bool) : Access (Except Error (List UInt8)) := do
  if self.ihl < headerMinIhl ∨ self.ihl > headerMaxIhl then return .error .invalidParameters
  let serializedSize := 4 * self.ihl.toNat
  if bufferSize < serializedSize then return .error .notEnoughSpace
  let checksum := if computeChecksum then ~~~ ipv4Checksum (self.bytes 0) else self.checksum
  let buffer ← store buffer 0 (self.bytes checksum)
  return .ok buffer

/-! ## UDP header -/

/-- `GG_UdpPacketHeader_Parse`. -/
def UdpPacketHeader.parse (packet : List UInt8) : Access (Except Error UdpPacketHeader) := do
  if packet.length < udpHeaderSize then return .error .invalidParameters
  let b0 ← load packet 0
  let b1 ← load packet 1
  let b2 ← load packet 2
  let b3 ← load packet 3
  let b4 ← load packet 4
  let b5 ← load packet 5
  let b6 ← load packet 6
  let b7 ← load packet 7
  return .ok
    { srcPort := bytesToInt16Be b0 b1
      dstPort := bytesToInt16Be b2 b3
      length := bytesToInt16Be b4 b5
      checksum := bytesToInt16Be b6 b7 }

def UdpPacketHeader.bytes (self : UdpPacketHeader) : List UInt8 :=
  bytesFromInt16Be self.srcPort ++ bytesFromInt16Be self.dstPort ++
  bytesFromInt16Be self.length ++ bytesFromInt16Be self.checksum

/-- `GG_UdpPacketHeader_Serialize`: no size is passed, so nothing is checked. -/
def UdpPacketHeader.serialize (self : UdpPacketHeader) (buffer : List UInt8) (offset : Nat) :
    Access (List UInt8) := store buffer offset self.bytes

end GoldenGate.Ipv4

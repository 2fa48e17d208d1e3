import GoldenGate.Nip.Stack

/-! # Received packets

What the stack does with any bytes that the transport gives it. The lengths in the packet are
checked one by one, but not that the IP header ends inside the packet, and a version other than 4
is only logged.
-/

namespace GoldenGate.Nip

open Memory

/-! ## Fields -/

/-- A byte of a packet. -/
def byteAt (packet : List UInt8) (offset : Nat) : UInt8 := packet.getD offset 0

def field16 (packet : List UInt8) (offset : Nat) : UInt16 :=
  bytesToInt16Be (byteAt packet offset) (byteAt packet (offset + 1))

def field32 (packet : List UInt8) (offset : Nat) : UInt32 :=
  bytesToInt32Be (byteAt packet offset) (byteAt packet (offset + 1)) (byteAt packet (offset + 2))
    (byteAt packet (offset + 3))

theorem load_inside {packet : List UInt8} {offset : Nat} (inside : offset < packet.length) :
    load packet offset = .ok (byteAt packet offset) := by
  rw [load_lt inside, byteAt, List.getD_eq_getElem packet 0 inside]

theorem get16_inside {packet : List UInt8} {offset : Nat} (inside : offset + 1 < packet.length) :
    get16 packet offset = .ok (field16 packet offset) := by
  rw [get16, load_inside (by omega), ok_bind, load_inside inside, ok_bind, field16, pure_ok]

theorem get32_inside {packet : List UInt8} {offset : Nat} (inside : offset + 3 < packet.length) :
    get32 packet offset = .ok (field32 packet offset) := by
  rw [get32, load_inside (by omega), ok_bind, load_inside (by omega), ok_bind, load_inside (by omega), ok_bind,
    load_inside inside, ok_bind, field32, pure_ok]

/-- The version that a packet tells. -/
def version (packet : List UInt8) : Nat := (byteAt packet 0).toNat >>> 4

/-- The size of the IP header that a packet tells. -/
def headerSize (packet : List UInt8) : Nat := 4 * ((byteAt packet 0).toNat &&& 0xF)

/-- The UDP header is in the packet, and its length is that of the rest of the packet. -/
structure HasUdp (packet : List UInt8) : Prop where
  inside : headerSize packet + udpHeaderSize ≤ packet.length
  length : headerSize packet + (field16 packet (headerSize packet + 4)).toNat = packet.length

/-- A complete IPv4 packet that carries a UDP packet. -/
structure Complete (packet : List UInt8) : Prop where
  isVersion4 : version packet = 4
  hasHeader : ipHeaderSize ≤ headerSize packet
  total : (field16 packet 2).toNat = packet.length
  hasUdp : HasUdp packet

instance (packet : List UInt8) : Decidable (HasUdp packet) :=
  decidable_of_iff (headerSize packet + udpHeaderSize ≤ packet.length ∧
      headerSize packet + (field16 packet (headerSize packet + 4)).toNat = packet.length)
    ⟨fun both => ⟨both.1, both.2⟩, fun udp => ⟨udp.inside, udp.length⟩⟩

namespace NipStack

/-- The packet passes the checks of the IP header. -/
structure Admits (stack : NipStack) (packet : List UInt8) : Prop where
  long : ipHeaderSize ≤ packet.length
  hasHeader : ipHeaderSize ≤ headerSize packet
  isUdp : byteAt packet 9 = 17
  total : (field16 packet 2).toNat = packet.length
  forUs : field32 packet 16 = stack.address

/-- The endpoint that the packet is for, if it can take it. -/
def receiver (self : NipStack) (packet : List UInt8) : Option NipUdpEndpoint :=
  (self.udpEndpoints.find? (takes (field16 packet (headerSize packet + 2)))).filter (·.hasSink)

/-- The payload of the packet. -/
def deliveryOf (packet : List UInt8) (endpoint : NipUdpEndpoint) : Delivery :=
  ⟨endpoint.id, (packet.drop (headerSize packet + udpHeaderSize)).take
      ((field16 packet (headerSize packet + 4)).toNat - udpHeaderSize),
    ⟨field32 packet 12, field16 packet (headerSize packet)⟩⟩

/-! ## One packet -/

theorem putData_refused {self : NipStack} {packet : List UInt8} (refused : ¬self.Admits packet) :
    self.putData packet = .ok none := by
  unfold putData
  dsimp only
  split
  case isTrue => rfl
  case isFalse long =>
      have isLong : 20 ≤ packet.length := Nat.le_of_not_lt long
      rw [load_inside (by omega), ok_bind, load_inside (by omega), ok_bind, get16_inside (by omega), ok_bind,
        get32_inside (by omega), ok_bind]
      split
      case isTrue => rfl
      case isFalse hasHeader =>
          split
          case isTrue => rfl
          case isFalse isUdp =>
              split
              case isTrue => rfl
              case isFalse total =>
                  split
                  case isTrue => rfl
                  case isFalse forUs =>
                      have admits : self.Admits packet :=
                        ⟨isLong, Nat.le_of_not_lt hasHeader, not_not.mp isUdp, not_not.mp total, not_not.mp forUs⟩
                      exact absurd admits refused

theorem putData_admitted {self : NipStack} {packet : List UInt8} (admits : self.Admits packet) :
    self.putData packet = self.onUdpPacketReceived packet (headerSize packet)
      (sizeSub packet.length (headerSize packet)) (field32 packet 12) := by
  have long : 20 ≤ packet.length := admits.long
  unfold putData
  dsimp only
  rw [if_neg (Nat.not_lt.mpr admits.long), load_inside (by omega), ok_bind]
  change (if headerSize packet < ipHeaderSize then _ else _) = _
  rw [if_neg (Nat.not_lt.mpr admits.hasHeader), load_inside (by omega), ok_bind, if_neg (not_not.mpr admits.isUdp),
    get16_inside (by omega), ok_bind, if_neg (not_not.mpr admits.total), get32_inside (by omega), ok_bind,
    if_neg (not_not.mpr admits.forUs), get32_inside (by omega), ok_bind]
  rfl

/-- A packet whose header ends inside it is delivered if the UDP packet fills the rest of it and
    an endpoint can take it. -/
theorem putData_inside {self : NipStack} {packet : List UInt8} (admits : self.Admits packet)
    (inside : headerSize packet ≤ packet.length) :
    self.putData packet = .ok (if HasUdp packet then (self.receiver packet).map (deliveryOf packet) else none) := by
  have small : packet.length < 2 ^ 16 := admits.total ▸ (field16 packet 2).toNat_lt
  have left : sizeSub packet.length (headerSize packet) = packet.length - headerSize packet := by
    unfold sizeSub
    omega
  rw [putData_admitted admits, left, onUdpPacketReceived]
  split
  case isTrue short =>
      rw [if_neg (fun udp => by have := udp.inside; omega)]
      rfl
  case isFalse hasHeader =>
      have fits : headerSize packet + 8 ≤ packet.length := by
        unfold udpHeaderSize at hasHeader
        omega
      rw [get16_inside (by omega), ok_bind]
      split
      case isTrue differs =>
          rw [if_neg (fun udp => differs (by have := udp.length; omega))]
          rfl
      case isFalse same =>
          have same : (field16 packet (headerSize packet + 4)).toNat = packet.length - headerSize packet := not_not.mp same
          have udp : HasUdp packet := ⟨fits, by omega⟩
          rw [get16_inside (by omega), ok_bind, get16_inside (by omega), ok_bind, if_pos udp, receiver]
          cases self.udpEndpoints.find? (takes (field16 packet (headerSize packet + 2))) with
          | none => rfl
          | some endpoint =>
              cases sink : endpoint.hasSink with
              | false => simp [sink]
              | true =>
                  have contained : ¬headerSize packet + udpHeaderSize + (packet.length - headerSize packet - udpHeaderSize) >
                      packet.length := by
                    unfold udpHeaderSize
                    omega
                  simp [sink, contained, deliveryOf, same]

/-! ## Every packet -/

/-- Nothing outside the packet is read, the size of its header is not subtracted from a smaller one,
    and what is delivered is the payload of a complete packet. -/
structure SafeOn (stack : NipStack) (packet : List UInt8) : Prop where
  noUnderflow : stack.Admits packet → headerSize packet ≤ packet.length
  inBounds : ∃ outcome, stack.putData packet = .ok outcome
  delivers : ∀ delivery, stack.putData packet = .ok (some delivery) →
    Complete packet ∧ ∃ endpoint ∈ stack.udpEndpoints, delivery = deliveryOf packet endpoint

theorem receiver_mem {self : NipStack} {packet : List UInt8} {endpoint : NipUdpEndpoint}
    (found : self.receiver packet = some endpoint) : endpoint ∈ self.udpEndpoints := by
  obtain ⟨isFound, -⟩ := Option.filter_eq_some_iff.mp found
  exact List.mem_of_find?_eq_some isFound

/-- Exactly which packets are safe. -/
theorem safeOn_iff (self : NipStack) (packet : List UInt8) :
    self.SafeOn packet ↔
      (self.Admits packet → headerSize packet ≤ packet.length ∧
        (HasUdp packet → (self.receiver packet).isSome = true → version packet = 4)) := by
  constructor
  · intro safe admits
    have inside := safe.noUnderflow admits
    refine ⟨inside, fun udp isSome => ?_⟩
    obtain ⟨endpoint, found⟩ := Option.isSome_iff_exists.mp isSome
    have put := putData_inside admits inside
    rw [if_pos udp, found, Option.map_some] at put
    exact (safe.delivers _ put).1.isVersion4
  · intro condition
    by_cases admits : self.Admits packet
    · obtain ⟨inside, isVersion4⟩ := condition admits
      have put := putData_inside admits inside
      refine ⟨fun _ => inside, ⟨_, put⟩, fun delivery delivered => ?_⟩
      rw [put] at delivered
      split at delivered
      case isTrue udp =>
          obtain ⟨endpoint, found, rfl⟩ := Option.map_eq_some_iff.mp (Except.ok.inj delivered)
          have isSome : (self.receiver packet).isSome = true := Option.isSome_iff_exists.mpr ⟨endpoint, found⟩
          exact ⟨⟨isVersion4 udp isSome, admits.hasHeader, admits.total, udp⟩, endpoint, receiver_mem found, rfl⟩
      case isFalse => cases delivered
    · have put := putData_refused admits
      refine ⟨fun admits' => absurd admits' admits, ⟨_, put⟩, fun delivery delivered => ?_⟩
      rw [put] at delivered
      cases delivered

end NipStack

/-- A stack with an endpoint for port 5684. -/
def listening : NipStack where
  udpEndpoints := [{ (NipUdpEndpoint.init 1 (some ⟨0xA9FE0002, 5684⟩) none false) with hasSink := true, localPortBound := true }]
  headerTemplate := NipStack.template 0xA9FE0002
  dynamicPortScanStart := 0xC000
  nextIpIdentification := 0
  address := 0xA9FE0002
  transportSink := false

/-- The bytes of a packet to port 5684 with a first byte. -/
def packetWith (versionAndIhl : UInt8) : List UInt8 :=
  [versionAndIhl, 0, 0, 29, 0, 0, 0, 0, 0xFF, 0x11, 0, 0, 0xA9, 0xFE, 0, 1, 0xA9, 0xFE, 0, 2,
    0x16, 0x33, 0x16, 0x34, 0, 9, 0, 0, 0x61]

/-- A header of 60 bytes in a packet of 29, and a packet of version 6 that is delivered. -/
theorem unsafe_packets : ¬listening.SafeOn (packetWith 0x4F) ∧ ¬listening.SafeOn (packetWith 0x65) := by
  constructor
  · intro safe
    obtain ⟨outcome, put⟩ := safe.inBounds
    cases put
  · intro safe
    exact absurd (safe.delivers _ rfl).1.isVersion4 (by decide)

end GoldenGate.Nip

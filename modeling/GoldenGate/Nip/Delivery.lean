import GoldenGate.Nip.Ports

/-! # Packets from one NIP stack to another

A packet carries the destination that it was made for, when that is the port of the endpoint's remote
address, and the stack that receives it hands the payload to one endpoint: the first one that takes
packets for that port.
-/

namespace GoldenGate.Nip

open Memory

/-- Storing in the first part of a region. -/
theorem store_front {front rest bytes : List UInt8} {offset : Nat} (fits : offset + bytes.length ≤ front.length) :
    store (front ++ rest) offset bytes =
      .ok ((front.take offset ++ bytes ++ front.drop (offset + bytes.length)) ++ rest) := by
  have before : offset ≤ front.length := by omega
  unfold store
  rw [if_pos (by rw [List.length_append]; omega), List.take_append_of_le_length before, List.drop_append_of_le_length fits,
    List.append_assoc, List.append_assoc, List.append_assoc]

/-- The header of a packet, with its checksum left open. -/
def packetHeader (size identification checksum srcPort dstPort : UInt16) (srcAddress dstAddress : UInt32)
    (udpLength : UInt16) : List UInt8 :=
  [0x45, 0] ++ bytesFromInt16Be size ++ bytesFromInt16Be identification ++ [0, 0, 0xFF, 0x11] ++
    bytesFromInt16Be checksum ++ bytesFromInt32Be srcAddress ++ bytesFromInt32Be dstAddress ++
    bytesFromInt16Be srcPort ++ bytesFromInt16Be dstPort ++ bytesFromInt16Be udpLength ++ [0, 0]

namespace NipStack

theorem bytes16 (value : UInt16) : ∃ hi lo, bytesFromInt16Be value = [hi, lo] ∧ bytesToInt16Be hi lo = value :=
  ⟨_, _, rfl, bytesToInt16Be_from value⟩

theorem bytes32 (value : UInt32) :
    ∃ b0 b1 b2 b3, bytesFromInt32Be value = [b0, b1, b2, b3] ∧ bytesToInt32Be b0 b1 b2 b3 = value :=
  ⟨_, _, _, _, rfl, bytesToInt32Be_from value⟩

/-- The header byte by byte: length, identification, checksum, addresses, ports, and UDP length. -/
def headerBytes (s0 s1 i0 i1 c0 c1 a0 a1 a2 a3 d0 d1 d2 d3 l0 l1 r0 r1 u0 u1 : UInt8) : List UInt8 :=
  [0x45, 0, s0, s1, i0, i1, 0, 0, 0xFF, 0x11, c0, c1, a0, a1, a2, a3, d0, d1, d2, d3, l0, l1, r0, r1, u0, u1, 0, 0]

/-- The blanks of the template are filled in, and nothing else. -/
theorem makePacket_ok {self : NipStack} (isTemplate : self.headerTemplate = template self.address)
    (endpoint : NipUdpEndpoint) (dstAddress : UInt32) (data : List UInt8) :
    ∃ checksum, self.makePacket endpoint dstAddress data =
      .ok (packetHeader (UInt16.ofNat (data.length + 28)) self.nextIpIdentification checksum endpoint.localAddress.port
        endpoint.remoteAddress.port self.address dstAddress (UInt16.ofNat (data.length + 8)) ++ data) := by
  have size : data.length + ipHeaderSize + udpHeaderSize = data.length + 28 := rfl
  have blank : List.replicate (data.length + 28) (0 : UInt8) = List.replicate 28 0 ++ List.replicate data.length 0 := by
    rw [List.replicate_append_replicate, Nat.add_comm]
  have udpLength : data.length + 28 - ipHeaderSize = data.length + 8 := by
    unfold ipHeaderSize
    omega
  have fill : ∀ {front bytes after : List UInt8} {offset : Nat}, Nat.ble (offset + bytes.length) front.length = true →
      front.take offset ++ bytes ++ front.drop (offset + bytes.length) = after →
      store (front ++ List.replicate data.length 0) offset bytes = .ok (after ++ List.replicate data.length 0) := by
    intro front bytes after offset fits same
    rw [store_front (Nat.le_of_ble_eq_true fits), same]
  have put : ∀ {front : List UInt8}, front.length = 28 →
      store (front ++ List.replicate data.length 0) 28 data = .ok (front ++ data) := by
    intro front long
    have stored := store_append front (List.replicate data.length 0) data [] List.length_replicate
    rwa [List.append_nil, List.append_nil, long] at stored
  obtain ⟨s0, s1, isSize, -⟩ := bytes16 (UInt16.ofNat (data.length + 28))
  obtain ⟨i0, i1, isIdentification, -⟩ := bytes16 self.nextIpIdentification
  obtain ⟨l0, l1, isLocal, -⟩ := bytes16 endpoint.localAddress.port
  obtain ⟨r0, r1, isRemote, -⟩ := bytes16 endpoint.remoteAddress.port
  obtain ⟨u0, u1, isLength, -⟩ := bytes16 (UInt16.ofNat (data.length + 8))
  obtain ⟨a0, a1, a2, a3, isAddress, -⟩ := bytes32 self.address
  obtain ⟨d0, d1, d2, d3, isDestination, -⟩ := bytes32 dstAddress
  unfold makePacket
  simp only [isTemplate, template, packetHeader, size, blank, udpLength, isSize, isIdentification, isLocal, isRemote,
    isLength, isAddress, isDestination]
  rw [fill rfl (show _ = headerBytes 0 0 0 0 0 0 a0 a1 a2 a3 0 0 0 0 0 0 0 0 0 0 from rfl), ok_bind,
    fill rfl (show _ = headerBytes 0 0 0 0 0 0 a0 a1 a2 a3 d0 d1 d2 d3 0 0 0 0 0 0 from rfl), ok_bind,
    fill rfl (show _ = headerBytes s0 s1 0 0 0 0 a0 a1 a2 a3 d0 d1 d2 d3 0 0 0 0 0 0 from rfl), ok_bind,
    fill rfl (show _ = headerBytes s0 s1 i0 i1 0 0 a0 a1 a2 a3 d0 d1 d2 d3 0 0 0 0 0 0 from rfl), ok_bind]
  generalize ~~~ Ipv4.ipv4Checksum _ = checksum
  obtain ⟨c0, c1, isChecksum, -⟩ := bytes16 checksum
  refine ⟨checksum, ?_⟩
  rw [isChecksum, fill rfl (show _ = headerBytes s0 s1 i0 i1 c0 c1 a0 a1 a2 a3 d0 d1 d2 d3 0 0 0 0 0 0 from rfl), ok_bind,
    fill rfl (show _ = headerBytes s0 s1 i0 i1 c0 c1 a0 a1 a2 a3 d0 d1 d2 d3 l0 l1 0 0 0 0 from rfl), ok_bind,
    fill rfl (show _ = headerBytes s0 s1 i0 i1 c0 c1 a0 a1 a2 a3 d0 d1 d2 d3 l0 l1 r0 r1 0 0 from rfl), ok_bind,
    fill rfl (show _ = headerBytes s0 s1 i0 i1 c0 c1 a0 a1 a2 a3 d0 d1 d2 d3 l0 l1 r0 r1 u0 u1 from rfl), ok_bind, put rfl]
  rfl

/-! ## Receiving a packet -/

/-- What is read of a packet that starts with such a header. -/
structure Reads (header : List UInt8) (size srcPort dstPort : UInt16) (srcAddress dstAddress : UInt32)
    (udpLength : UInt16) : Prop where
  length : header.length = 28
  first : ∀ data, load (header ++ data) 0 = .ok 0x45
  protocol : ∀ data, load (header ++ data) 9 = .ok 17
  size : ∀ data, get16 (header ++ data) 2 = .ok size
  srcPort : ∀ data, get16 (header ++ data) 20 = .ok srcPort
  dstPort : ∀ data, get16 (header ++ data) 22 = .ok dstPort
  udpLength : ∀ data, get16 (header ++ data) 24 = .ok udpLength
  srcAddress : ∀ data, get32 (header ++ data) 12 = .ok srcAddress
  dstAddress : ∀ data, get32 (header ++ data) 16 = .ok dstAddress

theorem packetHeader_reads (size identification checksum srcPort dstPort : UInt16) (srcAddress dstAddress : UInt32)
    (udpLength : UInt16) :
    Reads (packetHeader size identification checksum srcPort dstPort srcAddress dstAddress udpLength) size srcPort dstPort
      srcAddress dstAddress udpLength := by
  obtain ⟨s0, s1, isSize, sizeRead⟩ := bytes16 size
  obtain ⟨i0, i1, isIdentification, -⟩ := bytes16 identification
  obtain ⟨c0, c1, isChecksum, -⟩ := bytes16 checksum
  obtain ⟨l0, l1, isSrcPort, srcPortRead⟩ := bytes16 srcPort
  obtain ⟨r0, r1, isDstPort, dstPortRead⟩ := bytes16 dstPort
  obtain ⟨u0, u1, isLength, lengthRead⟩ := bytes16 udpLength
  obtain ⟨a0, a1, a2, a3, isSrcAddress, srcRead⟩ := bytes32 srcAddress
  obtain ⟨d0, d1, d2, d3, isDstAddress, dstRead⟩ := bytes32 dstAddress
  have byByte : packetHeader size identification checksum srcPort dstPort srcAddress dstAddress udpLength =
      headerBytes s0 s1 i0 i1 c0 c1 a0 a1 a2 a3 d0 d1 d2 d3 l0 l1 r0 r1 u0 u1 := by
    rw [packetHeader, isSize, isIdentification, isChecksum, isSrcPort, isDstPort, isLength, isSrcAddress, isDstAddress]
    rfl
  rw [byByte]
  exact
    { length := rfl
      first := fun _ => rfl
      protocol := fun _ => rfl
      size := fun _ => congrArg Except.ok sizeRead
      srcPort := fun _ => congrArg Except.ok srcPortRead
      dstPort := fun _ => congrArg Except.ok dstPortRead
      udpLength := fun _ => congrArg Except.ok lengthRead
      srcAddress := fun _ => congrArg Except.ok srcRead
      dstAddress := fun _ => congrArg Except.ok dstRead }

/-- What an endpoint gets, if it has a sink. -/
def deliver (data : List UInt8) (source : SocketAddress) (endpoint : NipUdpEndpoint) : Option Delivery :=
  if endpoint.hasSink then some ⟨endpoint.id, data, source⟩ else none

/-- A UDP packet is received by the first endpoint that takes packets for its port. -/
theorem onUdpPacketReceived_ok (self : NipStack) {header data : List UInt8} {srcAddress : UInt32}
    {udpLength srcPort dstPort : UInt16} (long : header.length = 28) (fits : udpLength.toNat = data.length + 8)
    (lengthRead : get16 (header ++ data) 24 = .ok udpLength) (srcPortRead : get16 (header ++ data) 20 = .ok srcPort)
    (dstPortRead : get16 (header ++ data) 22 = .ok dstPort) :
    self.onUdpPacketReceived (header ++ data) 20 (data.length + 8) srcAddress =
      .ok ((self.udpEndpoints.find? (takes dstPort)).bind (deliver data ⟨srcAddress, srcPort⟩)) := by
  have udpShort : ¬ data.length + 8 < udpHeaderSize := Nat.not_lt_of_le (Nat.le_add_left 8 data.length)
  have size : data.length + 8 - udpHeaderSize = data.length := Nat.add_sub_cancel ..
  have fitsPacket : ¬ 20 + udpHeaderSize + data.length > (header ++ data).length := by
    rw [List.length_append, long]
    exact Nat.lt_irrefl _
  have payload : ((header ++ data).drop (20 + udpHeaderSize)).take data.length = data := by
    rw [show 20 + udpHeaderSize = header.length from long.symm, List.drop_left, List.take_length]
  unfold onUdpPacketReceived
  rw [if_neg udpShort, lengthRead, ok_bind, if_neg (fun differs => differs fits), srcPortRead, ok_bind, dstPortRead, ok_bind]
  cases self.udpEndpoints.find? (takes dstPort) with
  | none => rfl
  | some endpoint =>
      simp only [Option.bind_some, deliver, size]
      cases endpoint.hasSink with
      | false => rfl
      | true => rw [if_neg (by decide), if_neg fitsPacket, payload, if_pos rfl]; rfl

/-- A packet for this stack is received by the first endpoint that takes packets for its port. -/
theorem putData_ok (self : NipStack) {data : List UInt8} (fits : data.length + 28 ≤ maxPacketSize)
    (identification checksum srcPort dstPort : UInt16) (srcAddress : UInt32) :
    self.putData (packetHeader (UInt16.ofNat (data.length + 28)) identification checksum srcPort dstPort srcAddress
        self.address (UInt16.ofNat (data.length + 8)) ++ data) =
      .ok ((self.udpEndpoints.find? (takes dstPort)).bind (deliver data ⟨srcAddress, srcPort⟩)) := by
  have small : data.length + 28 ≤ 65535 := fits
  have sizes : (UInt16.ofNat (data.length + 28)).toNat = data.length + 28 ∧
      (UInt16.ofNat (data.length + 8)).toNat = data.length + 8 := by
    rw [UInt16.toNat_ofNat', UInt16.toNat_ofNat']
    omega
  generalize UInt16.ofNat (data.length + 28) = size at *
  generalize UInt16.ofNat (data.length + 8) = udpLength at *
  have reads := packetHeader_reads size identification checksum srcPort dstPort srcAddress self.address udpLength
  generalize packetHeader size identification checksum srcPort dstPort srcAddress self.address udpLength = header at *
  have long := reads.length
  have received := @onUdpPacketReceived_ok self header data srcAddress udpLength srcPort dstPort long sizes.2
    (reads.udpLength data) (reads.srcPort data) (reads.dstPort data)
  have total : (header ++ data).length = data.length + 28 := by rw [List.length_append, long, Nat.add_comm]
  have left : sizeSub (header ++ data).length 20 = data.length + 8 := by
    rw [total]
    unfold sizeSub
    omega
  have tooShort : ¬ (header ++ data).length < ipHeaderSize := by
    rw [total]
    unfold ipHeaderSize
    omega
  have headerSize : 4 * ((0x45 : UInt8).toNat &&& 0xF) = 20 := rfl
  unfold putData
  dsimp only
  rw [if_neg tooShort, reads.first, ok_bind, headerSize, if_neg (show ¬ 20 < ipHeaderSize from Nat.lt_irrefl 20),
    reads.protocol, ok_bind, if_neg (fun differs => differs rfl), reads.size, ok_bind,
    if_neg (fun differs => differs (sizes.1.trans total.symm)), reads.dstAddress, ok_bind,
    if_neg (fun differs => differs rfl), reads.srcAddress, ok_bind, left]
  exact received

/-! ## Runs -/

/-- The header template is that of the interface, and no two endpoints share a local port. -/
structure Valid (stack : NipStack) : Prop where
  isTemplate : stack.headerTemplate = template stack.address
  portsDistinct : (stack.udpEndpoints.map (·.localAddress.port)).Nodup

theorem valid_configure (address : UInt32) : (initialized.configure address).Valid :=
  ⟨rfl, List.nodup_nil⟩

/-- Adding an endpoint leaves the interface alone. -/
theorem addUdpEndpoint_netif (self : NipStack) (endpoint : NipUdpEndpoint) :
    (self.addUdpEndpoint endpoint).1.headerTemplate = self.headerTemplate ∧
      (self.addUdpEndpoint endpoint).1.address = self.address := by
  unfold NipStack.addUdpEndpoint
  dsimp only
  split
  case isTrue => exact ⟨rfl, rfl⟩
  case isFalse =>
      split
      case isTrue => split <;> exact ⟨rfl, rfl⟩
      case isFalse => split <;> exact ⟨rfl, rfl⟩

/-- Every step keeps the endpoints apart. -/
theorem Valid.step {self self' : NipStack} (valid : self.Valid) {step : NipStep} (steps : self.step step = .ok self') :
    self'.Valid := by
  have isTemplate := valid.isTemplate
  refine ⟨?_, (ports_step steps).nodup valid.portsDistinct⟩
  cases step with
  | configure netifAddress =>
      cases steps
      rfl
  | setTransportSink isSet =>
      cases steps
      exact isTemplate
  | addUdpEndpoint endpoint =>
      cases steps
      rw [(addUdpEndpoint_netif self endpoint).1, (addUdpEndpoint_netif self endpoint).2]
      exact isTemplate
  | removeEndpoint id =>
      cases steps
      unfold removeEndpoint
      split <;> exact isTemplate
  | setDataSink id isSet =>
      cases steps
      exact isTemplate
  | endpointPutData id data metadata =>
      rw [endpointPutData_step steps]
      exact isTemplate
  | putData packet =>
      obtain ⟨delivery, _, same⟩ := bind_ok steps
      cases same
      exact isTemplate

theorem Valid.run {self self' : NipStack} (valid : self.Valid) {steps : List NipStep} (runs : self.run steps = .ok self') :
    self'.Valid :=
  Runs.run_keeps (fun _ _ _ valid _ steps => valid.step steps) valid (fun _ _ => trivial) runs

/-- Only one endpoint has a given local port, so when all that come before are bound, it is the one that
    takes the packets for its port. -/
theorem Valid.find_bound {self : NipStack} (valid : self.Valid) {before after : List NipUdpEndpoint} {endpoint : NipUdpEndpoint}
    (endpoints : self.udpEndpoints = before ++ endpoint :: after) (bound : ∀ other ∈ before, other.localPortBound = true) :
    self.udpEndpoints.find? (takes endpoint.localAddress.port) = some endpoint := by
  have distinct := valid.portsDistinct
  rw [endpoints, List.map_append, List.map_cons, List.nodup_append] at distinct
  have passes : before.find? (takes endpoint.localAddress.port) = none := by
    apply List.find?_eq_none.mpr
    intro other member takes'
    have differs := distinct.2.2 _ (List.mem_map_of_mem member) _ List.mem_cons_self
    rw [takes, bound other member, Bool.not_true, Bool.false_or] at takes'
    exact differs (of_decide_eq_true takes')
  have own : takes endpoint.localAddress.port endpoint = true := by
    rw [takes, decide_eq_true rfl, Bool.or_true]
  rw [endpoints, List.find?_append, passes, Option.none_or, List.find?_cons_of_pos own]

/-- The packet for a destination whose port is that of the remote address. -/
theorem endpointPutData_ok {self : NipStack} (valid : self.Valid) (endpoint : NipUdpEndpoint)
    (metadata : Option BufferMetadata) {data : List UInt8} (fits : data.length + 28 ≤ maxPacketSize) (hasSink : self.transportSink = true)
    (hasAddress : (endpoint.destination metadata).address ≠ 0) (hasPort : (endpoint.destination metadata).port ≠ 0) :
    ∃ checksum, self.endpointPutData endpoint data metadata =
      .ok ({ self with nextIpIdentification := self.nextIpIdentification + 1 },
        .ok (packetHeader (UInt16.ofNat (data.length + 28)) self.nextIpIdentification checksum endpoint.localAddress.port
          endpoint.remoteAddress.port self.address (endpoint.destination metadata).address (UInt16.ofNat (data.length + 8)) ++
            data)) := by
  obtain ⟨checksum, made⟩ := makePacket_ok valid.isTemplate endpoint (endpoint.destination metadata).address data
  have notLarge : ¬ data.length + ipHeaderSize + udpHeaderSize > maxPacketSize := Nat.not_lt_of_le fits
  refine ⟨checksum, ?_⟩
  unfold NipStack.endpointPutData
  rw [if_neg notLarge, hasSink]
  dsimp only
  rw [if_neg (by decide), if_neg (not_or.mpr ⟨hasAddress, hasPort⟩), made]
  rfl

end NipStack

open NipStack in
/-- What an endpoint of one stack sends to the port of its remote address carries its destination, and the
    other stack delivers it once, to the first endpoint that takes packets for that port: the one that
    has the port, unless one that is not bound comes before it. -/
theorem receives_of_run {addressA addressB : UInt32} {stepsA stepsB : List NipStep} {a b : NipStack}
    (reachedA : (initialized.configure addressA).run stepsA = .ok a)
    (reachedB : (initialized.configure addressB).run stepsB = .ok b) (hasSink : a.transportSink = true)
    (endpoint : NipUdpEndpoint) (data : List UInt8) (metadata : Option BufferMetadata)
    (fits : data.length + 28 ≤ maxPacketSize) (hasAddress : (endpoint.destination metadata).address ≠ 0)
    (hasPort : (endpoint.destination metadata).port ≠ 0)
    (toRemote : (endpoint.destination metadata).port = endpoint.remoteAddress.port) :
    ∃ packet, a.endpointPutData endpoint data metadata =
        .ok ({ a with nextIpIdentification := a.nextIpIdentification + 1 }, .ok packet) ∧
      get32 packet 16 = .ok (endpoint.destination metadata).address ∧
      get16 packet 22 = .ok (endpoint.destination metadata).port ∧
      ((endpoint.destination metadata).address = b.address →
        b.putData packet = .ok ((b.udpEndpoints.find? (takes (endpoint.destination metadata).port)).bind
          (deliver data ⟨a.address, endpoint.localAddress.port⟩)) ∧
        ∀ before receiver after, b.udpEndpoints = before ++ receiver :: after →
          (∀ other ∈ before, other.localPortBound = true) →
          receiver.localAddress.port = (endpoint.destination metadata).port → receiver.hasSink = true →
          b.putData packet = .ok (some ⟨receiver.id, data, ⟨a.address, endpoint.localAddress.port⟩⟩)) := by
  have validA := (valid_configure addressA).run reachedA
  have validB := (valid_configure addressB).run reachedB
  obtain ⟨checksum, put⟩ := endpointPutData_ok validA endpoint metadata fits hasSink hasAddress hasPort
  refine ⟨_, put, (packetHeader_reads ..).dstAddress data,
    ((packetHeader_reads ..).dstPort data).trans (congrArg Except.ok toRemote.symm), ?_⟩
  intro isAddress
  have received := b.putData_ok fits a.nextIpIdentification checksum endpoint.localAddress.port endpoint.remoteAddress.port
    a.address
  rw [isAddress, toRemote]
  refine ⟨received, ?_⟩
  intro before receiver after endpoints bound isPort receiverSink
  rw [received, ← isPort, validB.find_bound endpoints bound, Option.bind_some, deliver, if_pos receiverSink]

/-- An endpoint of a first stack that is connected to a port of a second one, where the endpoint with that
    port has a sink. -/
def connected : NipUdpEndpoint := .init 1 (some ⟨0, 5683⟩) (some ⟨0xA9FE0002, 5684⟩) true

def senderSteps : List NipStep := [.setTransportSink true, .addUdpEndpoint connected]

def receiverSteps : List NipStep := [.addUdpEndpoint (.init 1 (some ⟨0, 5684⟩) none false), .setDataSink 1 true]

/-- The endpoint that is added first has no port of its own, so that it is given one. -/
def unboundSteps : List NipStep :=
  [.addUdpEndpoint (.init 1 none none false), .setDataSink 1 true,
    .addUdpEndpoint (.init 2 (some ⟨0, 5684⟩) none false), .setDataSink 2 true]

theorem receives_receiverSteps :
    ∃ a b packet, (NipStack.initialized.configure 0xA9FE0001).run senderSteps = .ok a ∧
      (NipStack.initialized.configure 0xA9FE0002).run receiverSteps = .ok b ∧
      a.endpointPutData connected [1, 2, 3] none = .ok ({ a with nextIpIdentification := 1 }, .ok packet) ∧
      b.putData packet = .ok (some ⟨1, [1, 2, 3], ⟨0xA9FE0001, 5683⟩⟩) := by
  obtain ⟨packet, put, _, _, received⟩ := @receives_of_run 0xA9FE0001 0xA9FE0002 senderSteps receiverSteps _ _ rfl rfl rfl
    connected [1, 2, 3] none (by decide) (by decide) (by decide) rfl
  exact ⟨_, _, packet, rfl, rfl, put, (received rfl).1⟩

/-- The unbound endpoint takes the packet for the port that the other one is bound to. -/
theorem unbound_takes :
    ∃ a b packet receiver, (NipStack.initialized.configure 0xA9FE0001).run senderSteps = .ok a ∧
      (NipStack.initialized.configure 0xA9FE0002).run unboundSteps = .ok b ∧
      a.endpointPutData connected [1, 2, 3] none = .ok ({ a with nextIpIdentification := 1 }, .ok packet) ∧
      receiver ∈ b.udpEndpoints ∧ receiver.localPortBound = true ∧ receiver.localAddress.port = 5684 ∧
      receiver.hasSink = true ∧ receiver.id = 2 ∧
      b.putData packet = .ok (some ⟨1, [1, 2, 3], ⟨0xA9FE0001, 5683⟩⟩) := by
  have fits : ([1, 2, 3] : List UInt8).length + 28 ≤ maxPacketSize := by decide
  have reachedA : (NipStack.initialized.configure 0xA9FE0001).run senderSteps = .ok _ := rfl
  have validA := (NipStack.valid_configure 0xA9FE0001).run reachedA
  obtain ⟨checksum, put⟩ := NipStack.endpointPutData_ok validA connected none fits rfl (by decide) (by decide)
  refine ⟨_, _, _, ⟨2, true, ⟨0xA9FE0002, 5684⟩, ⟨0, 0⟩, true, false⟩, reachedA, rfl, put, ?_⟩
  refine ⟨List.mem_cons_of_mem _ List.mem_cons_self, rfl, rfl, rfl, rfl, ?_⟩
  exact NipStack.putData_ok _ fits ..

end GoldenGate.Nip

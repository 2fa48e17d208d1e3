import GoldenGate.Protocols.Ipv4Chunking

/-! # Compressed headers

The compressor leaves a word of flags and a string of bits, which are computed here
field by field. The decompressor takes the same fields out of them again, so the
headers come back as they were, but for the length in a UDP header: the decompressor
takes the size of the header off the size of the payload instead of adding it.
-/

namespace GoldenGate.Ipv4

open Memory Bits

/-! ## Fields -/

/-- What a field adds to the flags and to the bits: nothing when it has the default. -/
def fieldFlag (field default flag : Nat) : Nat := if field ≠ default then flag else 0

def fieldBits (field default width : Nat) : List Bool :=
  if field ≠ default then bits width field else []

def protocolFlag (protocol : UInt8) : Nat :=
  if protocol = protocolTcp then flagProtocolTcp
  else if protocol = protocolUdp then flagProtocolUdp
  else if protocol = protocolIcmp then flagProtocolIcmp
  else hasProtocol

def protocolBits (protocol : UInt8) : List Bool :=
  if protocol = protocolTcp then []
  else if protocol = protocolUdp then []
  else if protocol = protocolIcmp then []
  else bits 8 protocol.toNat

/-- The compressor has come to these flags and bits, in a buffer of the given size. -/
structure Packs (packing : Packing) (room flags : Nat) (l : List Bool) : Prop where
  flags_eq : packing.flags = flags
  written : packing.bits.Written l
  sized : packing.bits.bytes.length = room

section Packing

variable {packing : Packing} {room flags : Nat} {l : List Bool} (packs : Packs packing room flags l)
include packs

/-- A field that is not elided. -/
theorem write_packs (field flag : Nat) {width : Nat} (small : width ≤ 32)
    (fits : l.length + width ≤ 8 * room) :
    ∃ next, (do
        let bits ← packing.bits.write field width
        return (⟨packing.flags ||| flag, bits⟩ : Packing)) = .ok next ∧
      Packs next room (flags ||| flag) (l ++ bits width field) := by
  obtain ⟨same, written, sized⟩ := packs
  obtain ⟨next, writes, written', sized'⟩ :=
    BitOutputStream.write_spec written field small (by rw [sized]; exact fits)
  refine ⟨⟨packing.flags ||| flag, next⟩, by rw [writes]; rfl, ?_⟩
  exact ⟨by rw [same], written', sized'.trans sized⟩

/-- A field that is elided; its flag may still say which of the known values it has. -/
theorem flag_packs (flag : Nat) :
    Packs { packing with flags := packing.flags ||| flag } room (flags ||| flag) (l ++ []) := by
  obtain ⟨same, written, sized⟩ := packs
  exact ⟨by rw [same], by rwa [List.append_nil], sized⟩

theorem put_packs (field default flag : Nat) {width : Nat} (small : width ≤ 32)
    (fits : l.length + width ≤ 8 * room) :
    ∃ next, packing.put field default flag width = .ok next ∧
      Packs next room (flags ||| fieldFlag field default flag)
        (l ++ fieldBits field default width) := by
  unfold Packing.put fieldFlag fieldBits
  by_cases present : field ≠ default
  · simp only [if_pos present]
    exact write_packs packs field flag small fits
  · simp only [if_neg present]
    refine ⟨packing, rfl, ?_⟩
    rw [Nat.or_zero, List.append_nil]
    exact packs

theorem putProtocol_packs (protocol : UInt8) (fits : l.length + 8 ≤ 8 * room) :
    ∃ next, packing.putProtocol protocol = .ok next ∧
      Packs next room (flags ||| protocolFlag protocol) (l ++ protocolBits protocol) := by
  unfold Packing.putProtocol protocolFlag protocolBits
  split_ifs
  · exact ⟨_, rfl, flag_packs packs _⟩
  · exact ⟨_, rfl, flag_packs packs _⟩
  · exact ⟨_, rfl, flag_packs packs _⟩
  · exact write_packs packs _ _ (by decide) fits

theorem putPort_packs (port : UInt16) (known : Fin 3 → UInt16) (flagA flagB flagC hasPort : Nat)
    (fits : l.length + 16 ≤ 8 * room) :
    ∃ next, packing.putPort port known flagA flagB flagC hasPort = .ok next ∧
      Packs next room (flags ||| portFlag port known flagA flagB flagC hasPort)
        (l ++ portBits port known) := by
  unfold Packing.putPort portFlag portBits
  split_ifs
  · exact ⟨_, rfl, flag_packs packs _⟩
  · exact ⟨_, rfl, flag_packs packs _⟩
  · exact ⟨_, rfl, flag_packs packs _⟩
  · exact write_packs packs _ _ (by decide) fits

theorem putOptions_packs (options : List UInt8) (fits : l.length + 8 * options.length ≤ 8 * room) :
    ∃ next, packing.putOptions options = .ok next ∧
      Packs next room flags (l ++ bytesBits options) := by
  obtain ⟨same, written, sized⟩ := packs
  have loop : ∃ next, options.foldlM (fun bits b => bits.write b.toNat 8) packing.bits =
      (.ok next : Access BitOutputStream) ∧ next.Written (l ++ bytesBits options) ∧
      next.bytes.length = room := by
    clear same
    generalize packing.bits = stream at *
    induction options generalizing stream l with
    | nil =>
        refine ⟨stream, rfl, ?_, sized⟩
        simpa [bytesBits] using written
    | cons b options ih =>
        simp only [List.length_cons] at fits
        obtain ⟨next, writes, written', sized'⟩ :=
          BitOutputStream.write_spec written b.toNat (by decide : 8 ≤ 32) (by omega)
        have longer : (l ++ bits 8 b.toNat).length = l.length + 8 := by simp
        obtain ⟨last, loops, writtenLast, sizedLast⟩ :=
          ih (by omega) next written' (sized'.trans sized)
        refine ⟨last, ?_, ?_, sizedLast⟩
        · rw [List.foldlM_cons, writes]
          exact loops
        · have joined : bytesBits (b :: options) = bits 8 b.toNat ++ bytesBits options := by
            simp [bytesBits]
          rwa [joined, ← List.append_assoc]
  obtain ⟨next, loops, written', sized'⟩ := loop
  refine ⟨{ packing with bits := next }, ?_, same, written', sized'⟩
  simp only [Packing.putOptions, loops, ok_bind, pure_ok]

end Packing

/-! ## All the headers -/

/-- The bits of a UDP length that does not follow from the total length. -/
def lengthBits (ipHeader : PacketHeader) (udpHeader : UdpPacketHeader) : List Bool :=
  if 4 * ipHeader.ihl.toNat + udpHeader.length.toNat ≠ ipHeader.totalLength.toNat then
    bits 16 udpHeader.length.toNat
  else []

def udpBits (ipHeader : PacketHeader) (ipConfig : IpConfig) : Option UdpPacketHeader → List Bool
  | none => []
  | some udpHeader =>
      portBits udpHeader.srcPort ipConfig.udpSrcPorts ++
        (portBits udpHeader.dstPort ipConfig.udpDstPorts ++ lengthBits ipHeader udpHeader)

/-- The bits of the fields that are not elided, in the order they are written. -/
def headerBits (ipHeader : PacketHeader) (udpHeader : Option UdpPacketHeader)
    (ipConfig : IpConfig) : List Bool :=
  fieldBits ipHeader.ihl.toNat defaultIhl 4 ++
  (fieldBits ipHeader.dscp.toNat defaultDscp 6 ++
  (fieldBits ipHeader.ecn.toNat defaultEcn 2 ++
  (fieldBits ipHeader.flags.toNat defaultFlags 3 ++
  (fieldBits ipHeader.fragmentOffset.toNat defaultFragmentOffset 13 ++
  (fieldBits ipHeader.ttl.toNat defaultTtl 8 ++
  (protocolBits ipHeader.protocol ++
  (fieldBits ipHeader.srcAddress.toNat ipConfig.defaultSrcAddress.toNat 32 ++
  (fieldBits ipHeader.dstAddress.toNat ipConfig.defaultDstAddress.toNat 32 ++
  (bytesBits ipHeader.options ++ udpBits ipHeader ipConfig udpHeader)))))))))

def udpParts (ipHeader : PacketHeader) (ipConfig : IpConfig) :
    Option UdpPacketHeader → List (Nat × Nat)
  | none => [(0, udpSrcPortMask), (0, udpDstPortMask), (0, udpHasLength)]
  | some udpHeader =>
      [(portFlag udpHeader.srcPort ipConfig.udpSrcPorts udpSrcPortA udpSrcPortB udpSrcPortC
          udpHasSrcPort, udpSrcPortMask),
        (portFlag udpHeader.dstPort ipConfig.udpDstPorts udpDstPortA udpDstPortB udpDstPortC
          udpHasDstPort, udpDstPortMask),
        (fieldFlag (4 * ipHeader.ihl.toNat + udpHeader.length.toNat) ipHeader.totalLength.toNat
          udpHasLength, udpHasLength)]

/-- The values in the flags, with their masks; the first one marks a compressed packet. -/
def headerParts (compressed : Nat) (ipHeader : PacketHeader) (udpHeader : Option UdpPacketHeader)
    (ipConfig : IpConfig) : List (Nat × Nat) :=
  [(compressed, 0x8000),
    (fieldFlag ipHeader.ihl.toNat defaultIhl hasIhl, hasIhl),
    (fieldFlag ipHeader.dscp.toNat defaultDscp hasDscp, hasDscp),
    (fieldFlag ipHeader.ecn.toNat defaultEcn hasEcn, hasEcn),
    (fieldFlag ipHeader.flags.toNat defaultFlags hasFlags, hasFlags),
    (fieldFlag ipHeader.fragmentOffset.toNat defaultFragmentOffset hasFragmentOffset,
      hasFragmentOffset),
    (fieldFlag ipHeader.ttl.toNat defaultTtl hasTtl, hasTtl),
    (protocolFlag ipHeader.protocol, protocolMask),
    (fieldFlag ipHeader.srcAddress.toNat ipConfig.defaultSrcAddress.toNat hasSrcAddress,
      hasSrcAddress),
    (fieldFlag ipHeader.dstAddress.toNat ipConfig.defaultDstAddress.toNat hasDstAddress,
      hasDstAddress)] ++ udpParts ipHeader ipConfig udpHeader

def headerFlags (compressed : Nat) (ipHeader : PacketHeader) (udpHeader : Option UdpPacketHeader)
    (ipConfig : IpConfig) : Nat := join (headerParts compressed ipHeader udpHeader ipConfig)

/-- The flags in the order in which they are set. -/
theorem headerFlags_eq (compressed : Nat) (ipHeader : PacketHeader)
    (udpHeader : Option UdpPacketHeader) (ipConfig : IpConfig) :
    headerFlags compressed ipHeader udpHeader ipConfig =
      compressed |||
      fieldFlag ipHeader.ihl.toNat defaultIhl hasIhl |||
      fieldFlag ipHeader.dscp.toNat defaultDscp hasDscp |||
      fieldFlag ipHeader.ecn.toNat defaultEcn hasEcn |||
      fieldFlag ipHeader.flags.toNat defaultFlags hasFlags |||
      fieldFlag ipHeader.fragmentOffset.toNat defaultFragmentOffset hasFragmentOffset |||
      fieldFlag ipHeader.ttl.toNat defaultTtl hasTtl |||
      protocolFlag ipHeader.protocol |||
      fieldFlag ipHeader.srcAddress.toNat ipConfig.defaultSrcAddress.toNat hasSrcAddress |||
      fieldFlag ipHeader.dstAddress.toNat ipConfig.defaultDstAddress.toNat hasDstAddress |||
      join (udpParts ipHeader ipConfig udpHeader) :=
  (foldl_or_eq_join ((headerParts compressed ipHeader none ipConfig).tail.take 9)
    (udpParts ipHeader ipConfig udpHeader) compressed).symm

theorem length_fieldBits_le (field default width : Nat) :
    (fieldBits field default width).length ≤ width := by
  unfold fieldBits
  split <;> simp

theorem length_protocolBits_le (protocol : UInt8) : (protocolBits protocol).length ≤ 8 := by
  unfold protocolBits
  split_ifs <;> simp

theorem length_portBits_le (port : UInt16) (known : Fin 3 → UInt16) :
    (portBits port known).length ≤ 16 := by
  unfold portBits
  split_ifs <;> simp

theorem length_lengthBits_le (ipHeader : PacketHeader) (udpHeader : UdpPacketHeader) :
    (lengthBits ipHeader udpHeader).length ≤ 16 := by
  unfold lengthBits
  split <;> simp

theorem putLength_packs {packing : Packing} {room flags : Nat} {l : List Bool}
    (packs : Packs packing room flags l) (ipHeader : PacketHeader) (udpHeader : UdpPacketHeader)
    (fits : l.length + 16 ≤ 8 * room) :
    ∃ next, packing.putLength ipHeader udpHeader = .ok next ∧
      Packs next room
        (flags ||| fieldFlag (4 * ipHeader.ihl.toNat + udpHeader.length.toNat)
          ipHeader.totalLength.toNat udpHasLength)
        (l ++ lengthBits ipHeader udpHeader) := by
  unfold Packing.putLength fieldFlag lengthBits
  by_cases other : 4 * ipHeader.ihl.toNat + udpHeader.length.toNat ≠ ipHeader.totalLength.toNat
  · simp only [if_pos other]
    exact write_packs packs _ _ (by decide) fits
  · simp only [if_neg other]
    refine ⟨packing, rfl, ?_⟩
    rw [Nat.or_zero, List.append_nil]
    exact packs

theorem putUdp_packs {packing : Packing} {room flags : Nat} {l : List Bool}
    (packs : Packs packing room flags l) (ipHeader : PacketHeader) (ipConfig : IpConfig)
    (udpHeader : Option UdpPacketHeader) (fits : l.length + 48 ≤ 8 * room) :
    ∃ next, packing.putUdp ipHeader ipConfig udpHeader = .ok next ∧
      Packs next room (flags ||| join (udpParts ipHeader ipConfig udpHeader))
        (l ++ udpBits ipHeader ipConfig udpHeader) := by
  cases udpHeader with
  | none =>
      refine ⟨packing, rfl, ?_⟩
      simpa [udpParts, join, udpBits] using packs
  | some udpHeader =>
      have srcSize := length_portBits_le udpHeader.srcPort ipConfig.udpSrcPorts
      have dstSize := length_portBits_le udpHeader.dstPort ipConfig.udpDstPorts
      obtain ⟨p1, put1, packs1⟩ := putPort_packs packs udpHeader.srcPort ipConfig.udpSrcPorts
        udpSrcPortA udpSrcPortB udpSrcPortC udpHasSrcPort (by omega)
      obtain ⟨p2, put2, packs2⟩ := putPort_packs packs1 udpHeader.dstPort ipConfig.udpDstPorts
        udpDstPortA udpDstPortB udpDstPortC udpHasDstPort
        (by simp only [List.length_append]; omega)
      obtain ⟨p3, put3, packs3⟩ := putLength_packs packs2 ipHeader udpHeader
        (by simp only [List.length_append]; omega)
      refine ⟨p3, ?_, ?_⟩
      · simp only [Packing.putUdp, put1, put2, ok_bind, put3]
      · simp only [Nat.or_assoc, List.append_assoc] at packs3
        simpa only [udpParts, join, List.foldr_cons, List.foldr_nil, Nat.or_zero, udpBits]
          using packs3

/-- Size of the headers of a packet: IPv4, and UDP where there is one. -/
def headerSize (ipHeader : PacketHeader) : Nat :=
  4 * ipHeader.ihl.toNat + (if ipHeader.protocol = protocolUdp then udpHeaderSize else 0)

/-- Headers as they are parsed from a frame: each field in its range. -/
structure InRange (ipHeader : PacketHeader) (udpHeader : Option UdpPacketHeader) : Prop where
  ihl_ge : 5 ≤ ipHeader.ihl.toNat
  ihl_le : ipHeader.ihl.toNat ≤ 15
  options : ipHeader.options.length = 4 * (ipHeader.ihl.toNat - 5)
  dscp : ipHeader.dscp.toNat < 2 ^ 6
  ecn : ipHeader.ecn.toNat < 2 ^ 2
  flags : ipHeader.flags.toNat < 2 ^ 3
  fragmentOffset : ipHeader.fragmentOffset.toNat < 2 ^ 13
  udp : udpHeader.isSome ↔ ipHeader.protocol = protocolUdp
  total : headerSize ipHeader ≤ ipHeader.totalLength.toNat

/-- Compressed headers are never larger than the headers. -/
theorem compressed_le {ipHeader : PacketHeader} {udpHeader : Option UdpPacketHeader}
    (inRange : InRange ipHeader udpHeader) (ipConfig : IpConfig) :
    compressionFixedSize + ((headerBits ipHeader udpHeader ipConfig).length + 7) / 8 ≤
      headerSize ipHeader := by
  have ihlGe := inRange.ihl_ge
  have options := inRange.options
  have ihlSize : (fieldBits ipHeader.ihl.toNat defaultIhl 4).length ≤
      4 * (ipHeader.ihl.toNat - 5) := by
    unfold fieldBits defaultIhl
    split
    · simp only [length_bits]
      omega
    · simp
  have size1 := length_fieldBits_le ipHeader.ihl.toNat defaultIhl 4
  have size2 := length_fieldBits_le ipHeader.dscp.toNat defaultDscp 6
  have size3 := length_fieldBits_le ipHeader.ecn.toNat defaultEcn 2
  have size4 := length_fieldBits_le ipHeader.flags.toNat defaultFlags 3
  have size5 := length_fieldBits_le ipHeader.fragmentOffset.toNat defaultFragmentOffset 13
  have size6 := length_fieldBits_le ipHeader.ttl.toNat defaultTtl 8
  have size7 := length_protocolBits_le ipHeader.protocol
  have size8 := length_fieldBits_le ipHeader.srcAddress.toNat ipConfig.defaultSrcAddress.toNat 32
  have size9 := length_fieldBits_le ipHeader.dstAddress.toNat ipConfig.defaultDstAddress.toNat 32
  have udpSize : (udpBits ipHeader ipConfig udpHeader).length ≤
      8 * (headerSize ipHeader - 4 * ipHeader.ihl.toNat) := by
    cases udpHeader with
    | none => simp [udpBits]
    | some udpHeader =>
        have isUdp := inRange.udp.mp rfl
        have srcSize := length_portBits_le udpHeader.srcPort ipConfig.udpSrcPorts
        have dstSize := length_portBits_le udpHeader.dstPort ipConfig.udpDstPorts
        have lengthSize := length_lengthBits_le ipHeader udpHeader
        simp only [udpBits, List.length_append, headerSize, isUdp, if_true, udpHeaderSize]
        omega
  have atLeast : 4 * ipHeader.ihl.toNat ≤ headerSize ipHeader := Nat.le_add_right _ _
  simp only [headerBits, List.length_append, length_bytesBits, compressionFixedSize, options]
  -- only a header with options needs its IHL
  by_cases bare : ipHeader.ihl.toNat = 5
  · omega
  · omega

theorem headerBits_fit {ipHeader : PacketHeader} {udpHeader : Option UdpPacketHeader}
    (inRange : InRange ipHeader udpHeader) (ipConfig : IpConfig) :
    (headerBits ipHeader udpHeader ipConfig).length ≤ 8 * 62 := by
  have small := compressed_le inRange ipConfig
  have ihlLe := inRange.ihl_le
  have most : headerSize ipHeader ≤ 4 * ipHeader.ihl.toNat + 8 := by
    unfold headerSize udpHeaderSize
    split <;> omega
  simp only [compressionFixedSize] at small
  omega

/-- The compressor writes the flags, the new total length and the identification, then
    the bits of the fields. -/
theorem compressHeaders_spec {ipHeader : PacketHeader} {udpHeader : Option UdpPacketHeader}
    (inRange : InRange ipHeader udpHeader) (ipConfig : IpConfig) {buffer : List UInt8}
    (sized : buffer.length = FrameSerializer.workspaceSize) :
    let size := compressionFixedSize + ((headerBits ipHeader udpHeader ipConfig).length + 7) / 8
    let totalLength := size + (ipHeader.totalLength.toNat - headerSize ipHeader)
    ∃ tail, compressHeaders ipHeader udpHeader ipConfig buffer =
        .ok ([UInt8.ofNat (headerFlags (packetIsCompressed <<< 8) ipHeader udpHeader ipConfig >>> 8),
            UInt8.ofNat (headerFlags (packetIsCompressed <<< 8) ipHeader udpHeader ipConfig),
            UInt8.ofNat (totalLength >>> 8), UInt8.ofNat totalLength] ++
          bytesFromInt16Be ipHeader.identification ++ tail, size) ∧
      headerBits ipHeader udpHeader ipConfig <+: bytesBits tail ∧ tail.length = 64 := by
  intro size totalLength
  have fit := headerBits_fit inRange ipConfig
  have ihlGe := inRange.ihl_ge
  have large : buffer.length ≥ compressionFixedSize := by rw [sized]; decide
  have ihl : ipHeader.ihl ≥ headerMinIhl := UInt8.le_iff_toNat_le.mpr ihlGe
  have start : Packs ⟨packetIsCompressed <<< 8, .init (buffer.drop compressionFixedSize)⟩ 64
      (packetIsCompressed <<< 8) [] :=
    ⟨rfl, BitOutputStream.written_init _, by
      simp only [BitOutputStream.init, List.length_drop, sized]
      decide⟩
  have size2 := length_fieldBits_le ipHeader.dscp.toNat defaultDscp 6
  have size1 := length_fieldBits_le ipHeader.ihl.toNat defaultIhl 4
  have size3 := length_fieldBits_le ipHeader.ecn.toNat defaultEcn 2
  have size4 := length_fieldBits_le ipHeader.flags.toNat defaultFlags 3
  have size5 := length_fieldBits_le ipHeader.fragmentOffset.toNat defaultFragmentOffset 13
  have size6 := length_fieldBits_le ipHeader.ttl.toNat defaultTtl 8
  have size7 := length_protocolBits_le ipHeader.protocol
  have size8 := length_fieldBits_le ipHeader.srcAddress.toNat ipConfig.defaultSrcAddress.toNat 32
  have size9 := length_fieldBits_le ipHeader.dstAddress.toNat ipConfig.defaultDstAddress.toNat 32
  have ihlLe := inRange.ihl_le
  have options := inRange.options
  obtain ⟨p1, put1, packs1⟩ := put_packs start ipHeader.ihl.toNat defaultIhl hasIhl
    (by decide : 4 ≤ 32) (by simp)
  obtain ⟨p2, put2, packs2⟩ := put_packs packs1 ipHeader.dscp.toNat defaultDscp hasDscp
    (by decide : 6 ≤ 32) (by simp only [List.length_append, List.length_nil]; omega)
  obtain ⟨p3, put3, packs3⟩ := put_packs packs2 ipHeader.ecn.toNat defaultEcn hasEcn
    (by decide : 2 ≤ 32) (by simp only [List.length_append, List.length_nil]; omega)
  obtain ⟨p4, put4, packs4⟩ := put_packs packs3 ipHeader.flags.toNat defaultFlags hasFlags
    (by decide : 3 ≤ 32) (by simp only [List.length_append, List.length_nil]; omega)
  obtain ⟨p5, put5, packs5⟩ := put_packs packs4 ipHeader.fragmentOffset.toNat
    defaultFragmentOffset hasFragmentOffset (by decide : 13 ≤ 32)
    (by simp only [List.length_append, List.length_nil]; omega)
  obtain ⟨p6, put6, packs6⟩ := put_packs packs5 ipHeader.ttl.toNat defaultTtl hasTtl
    (by decide : 8 ≤ 32) (by simp only [List.length_append, List.length_nil]; omega)
  obtain ⟨p7, put7, packs7⟩ := putProtocol_packs packs6 ipHeader.protocol
    (by simp only [List.length_append, List.length_nil]; omega)
  obtain ⟨p8, put8, packs8⟩ := put_packs packs7 ipHeader.srcAddress.toNat
    ipConfig.defaultSrcAddress.toNat hasSrcAddress le_rfl
    (by simp only [List.length_append, List.length_nil]; omega)
  obtain ⟨p9, put9, packs9⟩ := put_packs packs8 ipHeader.dstAddress.toNat
    ipConfig.defaultDstAddress.toNat hasDstAddress le_rfl
    (by simp only [List.length_append, List.length_nil]; omega)
  have all : ipHeader.options.take (4 * (ipHeader.ihl.toNat - headerMinIhl.toNat)) =
      ipHeader.options := by
    rw [show headerMinIhl.toNat = 5 from rfl]
    exact List.take_of_length_le options.le
  obtain ⟨p10, put10, packs10⟩ := putOptions_packs packs9 ipHeader.options
    (by simp only [List.length_append, List.length_nil]; omega)
  obtain ⟨last, put11, packs11⟩ := putUdp_packs packs10 ipHeader ipConfig udpHeader
    (by simp only [List.length_append, List.length_nil, length_bytesBits]; omega)
  have packs11 : Packs last 64 (headerFlags (packetIsCompressed <<< 8) ipHeader udpHeader ipConfig)
      (headerBits ipHeader udpHeader ipConfig) := by
    simp only [List.append_assoc, List.nil_append] at packs11
    rw [headerFlags_eq, headerBits]
    exact packs11
  obtain ⟨sameFlags, written, sized'⟩ := packs11
  obtain ⟨flushed, flushes, content, sizedTail⟩ := BitOutputStream.flush_spec written (by omega)
  have position : last.bits.getPosition = (headerBits ipHeader udpHeader ipConfig).length :=
    written.position
  have total := inRange.total
  refine ⟨flushed.bytes, ?_, content, sizedTail.trans sized'⟩
  unfold headerSize at total
  simp only [compressHeaders, assert_of large, assert_of ihl, ok_bind, put1, put2, put3, put4, put5,
    put6, put7, put8, put9, all, put10, put11, assert_of total, flushes, position, sameFlags,
    pure_ok, size, totalLength, headerSize]

/-! ## Reading the flags back -/

theorem fieldFlag_masked (field default flag : Nat) :
    fieldFlag field default flag &&& flag = fieldFlag field default flag := by
  unfold fieldFlag
  split <;> simp

theorem protocolFlag_masked (protocol : UInt8) :
    protocolFlag protocol &&& protocolMask = protocolFlag protocol := by
  unfold protocolFlag
  split_ifs <;> rfl

theorem portFlag_masked (port : UInt16) (known : Fin 3 → UInt16) {flagA flagB flagC hasPort mask : Nat}
    (a : flagA &&& mask = flagA) (b : flagB &&& mask = flagB) (c : flagC &&& mask = flagC)
    (has : hasPort &&& mask = hasPort) :
    portFlag port known flagA flagB flagC hasPort &&& mask =
      portFlag port known flagA flagB flagC hasPort := by
  unfold portFlag
  split_ifs <;> assumption

theorem headerParts_masked {compressed : Nat} (mark : compressed &&& 0x8000 = compressed)
    (ipHeader : PacketHeader) (udpHeader : Option UdpPacketHeader) (ipConfig : IpConfig) :
    ∀ part ∈ headerParts compressed ipHeader udpHeader ipConfig, part.1 &&& part.2 = part.1 := by
  have udp : ∀ part ∈ udpParts ipHeader ipConfig udpHeader, part.1 &&& part.2 = part.1 := by
    cases udpHeader with
    | none => simp [udpParts]
    | some udpHeader =>
        simp only [udpParts, List.forall_mem_cons, List.not_mem_nil, false_implies, implies_true,
          and_true]
        exact ⟨portFlag_masked _ _ rfl rfl rfl rfl, portFlag_masked _ _ rfl rfl rfl rfl,
          fieldFlag_masked _ _ _⟩
  simp only [headerParts, List.cons_append, List.nil_append, List.forall_mem_cons]
  exact ⟨mark, fieldFlag_masked _ _ _, fieldFlag_masked _ _ _, fieldFlag_masked _ _ _,
    fieldFlag_masked _ _ _, fieldFlag_masked _ _ _, fieldFlag_masked _ _ _, protocolFlag_masked _,
    fieldFlag_masked _ _ _, fieldFlag_masked _ _ _, udp⟩

theorem headerParts_disjoint (compressed : Nat) (ipHeader : PacketHeader)
    (udpHeader : Option UdpPacketHeader) (ipConfig : IpConfig) :
    (headerParts compressed ipHeader udpHeader ipConfig).Pairwise fun a b => a.2 &&& b.2 = 0 := by
  have masks : (headerParts compressed ipHeader udpHeader ipConfig).map Prod.snd =
      [0x8000, hasIhl, hasDscp, hasEcn, hasFlags, hasFragmentOffset, hasTtl, protocolMask,
        hasSrcAddress, hasDstAddress, udpSrcPortMask, udpDstPortMask, udpHasLength] := by
    cases udpHeader <;> rfl
  have apart : ((headerParts compressed ipHeader udpHeader ipConfig).map Prod.snd).Pairwise
      fun a b => a &&& b = 0 := by
    rw [masks]
    decide
  exact List.pairwise_map.mp apart

/-- A mask cuts its value out of the flags of the compressed headers. -/
theorem headerFlags_and {ipHeader : PacketHeader} {udpHeader : Option UdpPacketHeader}
    {ipConfig : IpConfig} {compressed v m : Nat} (mark : compressed &&& 0x8000 = compressed)
    (member : (v, m) ∈ headerParts compressed ipHeader udpHeader ipConfig) :
    headerFlags compressed ipHeader udpHeader ipConfig &&& m = v :=
  join_and (headerParts_masked mark _ _ _) (headerParts_disjoint _ _ _ _) member

theorem headerFlags_lt {ipHeader : PacketHeader} {udpHeader : Option UdpPacketHeader}
    {ipConfig : IpConfig} {compressed : Nat} (mark : compressed &&& 0x8000 = compressed) :
    headerFlags compressed ipHeader udpHeader ipConfig < 2 ^ 16 := by
  refine join_lt fun part member => ?_
  have inMask : part.1 ≤ part.2 := by
    rw [← headerParts_masked mark _ _ _ part member]
    exact Nat.and_le_right
  have masks : ∀ m ∈ (headerParts compressed ipHeader udpHeader ipConfig).map Prod.snd,
      m < 2 ^ 16 := by
    have listed : (headerParts compressed ipHeader udpHeader ipConfig).map Prod.snd =
        [0x8000, hasIhl, hasDscp, hasEcn, hasFlags, hasFragmentOffset, hasTtl, protocolMask,
          hasSrcAddress, hasDstAddress, udpSrcPortMask, udpDstPortMask, udpHasLength] := by
      cases udpHeader <;> rfl
    rw [listed]
    decide
  exact inMask.trans_lt (masks part.2 (List.mem_map_of_mem member))

/-! ## Reading the fields back -/

/-- The decompressor stands before these bits. -/
structure Reads (stream : BitInputStream) (data : List UInt8) (position : Nat) (l : List Bool) :
    Prop where
  bytes : stream.bytes = data
  at_ : stream.At position
  starts : Starts data position l

section Reading

variable {stream : BitInputStream} {data : List UInt8} {position flags : Nat} {l : List Bool}

theorem read_reads {width x : Nat} (reads : Reads stream data position (bits width x ++ l))
    (small : width ≤ 32) (fits : x < 2 ^ width) :
    ∃ next, stream.read width = .ok (x, next) ∧
      Reads next data (position + (bits width x).length) l := by
  obtain ⟨rfl, at_, starts⟩ := reads
  obtain ⟨next, read, moved, rest, same⟩ := BitInputStream.read_field at_ small starts
  rw [Nat.mod_eq_of_lt fits] at read
  rw [same] at rest
  exact ⟨next, read, same, by rwa [length_bits], by rwa [length_bits]⟩

theorem skip_reads (reads : Reads stream data position ([] ++ l)) :
    Reads stream data (position + ([] : List Bool).length) l := reads

theorem readField_reads {field default flag width : Nat}
    (reads : Reads stream data position (fieldBits field default width ++ l))
    (cut : flags &&& flag = fieldFlag field default flag) (real : flag ≠ 0) (small : width ≤ 32)
    (fits : field < 2 ^ width) :
    ∃ next, readField stream flags flag width default = .ok (field, next) ∧
      Reads next data (position + (fieldBits field default width).length) l := by
  unfold readField
  unfold fieldBits at reads ⊢
  rw [cut]
  unfold fieldFlag
  by_cases present : field ≠ default
  · rw [if_pos present] at reads
    simp only [if_pos present, if_pos real]
    exact read_reads reads small fits
  · rw [if_neg present] at reads
    obtain rfl : field = default := by simpa using present
    simp only [ne_eq, not_true_eq_false, if_false]
    exact ⟨stream, rfl, skip_reads reads⟩

theorem readProtocol_reads {protocol : UInt8}
    (reads : Reads stream data position (protocolBits protocol ++ l))
    (cut : flags &&& protocolMask = protocolFlag protocol) :
    ∃ next, readProtocol stream flags = .ok (protocol.toNat, next) ∧
      Reads next data (position + (protocolBits protocol).length) l := by
  unfold readProtocol
  rw [cut]
  unfold protocolBits protocolFlag at *
  by_cases tcp : protocol = protocolTcp
  · simp only [if_pos tcp] at reads ⊢
    exact ⟨stream, by simp [tcp], skip_reads reads⟩
  by_cases udp : protocol = protocolUdp
  · simp only [if_neg tcp, if_pos udp] at reads ⊢
    exact ⟨stream, by simp [udp, flagProtocolTcp, flagProtocolUdp], skip_reads reads⟩
  by_cases icmp : protocol = protocolIcmp
  · simp only [if_neg tcp, if_neg udp, if_pos icmp] at reads ⊢
    exact ⟨stream, by simp [icmp, flagProtocolTcp, flagProtocolUdp, flagProtocolIcmp],
      skip_reads reads⟩
  · simp only [if_neg tcp, if_neg udp, if_neg icmp] at reads ⊢
    exact read_reads reads (by decide) protocol.toNat_lt

theorem readPort_reads {port : UInt16} {known : Fin 3 → UInt16}
    {mask flagA flagB flagC hasPort : Nat}
    (reads : Reads stream data position (portBits port known ++ l))
    (cut : flags &&& mask = portFlag port known flagA flagB flagC hasPort)
    (apart : [flagA, flagB, flagC, hasPort].Nodup) :
    ∃ next, readPort stream flags mask flagA flagB flagC known = .ok (port.toNat, next) ∧
      Reads next data (position + (portBits port known).length) l := by
  simp only [List.nodup_cons, List.mem_cons, List.not_mem_nil, or_false, not_or, List.nodup_nil,
    not_false_eq_true, and_true] at apart
  obtain ⟨⟨ab, ac, ah⟩, ⟨bc, bh⟩, ch⟩ := apart
  unfold readPort
  rw [cut]
  unfold portBits portFlag at *
  by_cases a : port = known 0
  · simp only [if_pos a] at reads ⊢
    exact ⟨stream, by simp [a], skip_reads reads⟩
  by_cases b : port = known 1
  · simp only [if_neg a, if_pos b] at reads ⊢
    exact ⟨stream, by simp [b, Ne.symm ab], skip_reads reads⟩
  by_cases c : port = known 2
  · simp only [if_neg a, if_neg b, if_pos c] at reads ⊢
    exact ⟨stream, by simp [c, Ne.symm ac, Ne.symm bc], skip_reads reads⟩
  · simp only [if_neg a, if_neg b, if_neg c] at reads ⊢
    rw [if_neg (Ne.symm ah), if_neg (Ne.symm bh), if_neg (Ne.symm ch)]
    exact read_reads reads (by decide) port.toNat_lt

theorem readOptions_reads {options : List UInt8}
    (reads : Reads stream data position (bytesBits options ++ l)) :
    ∃ next, readOptions options.length stream = .ok (options, next) ∧
      Reads next data (position + (bytesBits options).length) l := by
  induction options generalizing stream position with
  | nil => exact ⟨stream, rfl, reads⟩
  | cons b options ih =>
      have joined : bytesBits (b :: options) = bits 8 b.toNat ++ bytesBits options := by
        simp [bytesBits]
      rw [joined, List.append_assoc] at reads
      obtain ⟨next, read, reads'⟩ := read_reads reads (by decide) b.toNat_lt
      obtain ⟨last, readRest, readsLast⟩ := ih reads'
      refine ⟨last, ?_, ?_⟩
      · simp only [List.length_cons, readOptions, read, ok_bind, readRest, pure_ok, UInt8.ofNat_toNat]
      · rw [joined, List.length_append, ← Nat.add_assoc]
        exact readsLast

end Reading

/-- The UDP header as the bits tell it: a length that follows from the total length is
    not there yet. -/
def foundUdp (ipHeader : PacketHeader) : Option UdpPacketHeader → UdpPacketHeader
  | none => ⟨0, 0, 0, 0⟩
  | some udpHeader =>
      { udpHeader with
        length :=
          if 4 * ipHeader.ihl.toNat + udpHeader.length.toNat ≠ ipHeader.totalLength.toNat then
            udpHeader.length
          else 0
        checksum := 0 }

/-- The UDP header the decompressor makes of one. -/
def decompressedUdp (ipHeader : PacketHeader) (payloadSize : Nat) :
    Option UdpPacketHeader → UdpPacketHeader
  | none => ⟨0, 0, 0, 0⟩
  | some udpHeader =>
      { udpHeader with
        length :=
          if 4 * ipHeader.ihl.toNat + udpHeader.length.toNat ≠ ipHeader.totalLength.toNat then
            udpHeader.length
          else UInt16.ofInt ((payloadSize : Int) - (udpHeaderSize : Int))
        checksum := 0 }

/-- The IPv4 header the decompressor makes of one. -/
def decompressedIp (ipHeader : PacketHeader) (payloadSize : Nat) : PacketHeader :=
  { ipHeader with
    version := 4
    totalLength := UInt16.ofNat (headerSize ipHeader + payloadSize)
    checksum := 0 }

/-- What the three UDP values in the flags are. -/
structure UdpCuts (flags : Nat) (ipHeader : PacketHeader) (ipConfig : IpConfig)
    (udpHeader : UdpPacketHeader) : Prop where
  src : flags &&& udpSrcPortMask = portFlag udpHeader.srcPort ipConfig.udpSrcPorts udpSrcPortA
    udpSrcPortB udpSrcPortC udpHasSrcPort
  dst : flags &&& udpDstPortMask = portFlag udpHeader.dstPort ipConfig.udpDstPorts udpDstPortA
    udpDstPortB udpDstPortC udpHasDstPort
  length : flags &&& udpHasLength = fieldFlag (4 * ipHeader.ihl.toNat + udpHeader.length.toNat)
    ipHeader.totalLength.toNat udpHasLength

theorem readLength_reads {stream : BitInputStream} {data : List UInt8} {position flags : Nat}
    {ipHeader : PacketHeader} {udpHeader : UdpPacketHeader}
    (reads : Reads stream data position (lengthBits ipHeader udpHeader))
    (cut : flags &&& udpHasLength = fieldFlag (4 * ipHeader.ihl.toNat + udpHeader.length.toNat)
      ipHeader.totalLength.toNat udpHasLength) :
    ∃ next, readField stream flags udpHasLength 16 0 =
        .ok ((foundUdp ipHeader (some udpHeader)).length.toNat, next) ∧
      Reads next data (position + (lengthBits ipHeader udpHeader).length) [] := by
  unfold readField foundUdp
  unfold lengthBits at reads ⊢
  rw [cut]
  unfold fieldFlag
  by_cases other : 4 * ipHeader.ihl.toNat + udpHeader.length.toNat ≠ ipHeader.totalLength.toNat
  · simp only [if_pos other] at reads ⊢
    rw [if_pos (by decide)]
    exact read_reads (by rwa [List.append_nil]) (by decide) udpHeader.length.toNat_lt
  · simp only [if_neg other] at reads ⊢
    exact ⟨stream, rfl, reads⟩

theorem readUdp_reads {stream : BitInputStream} {data : List UInt8} {position flags : Nat}
    {ipHeader : PacketHeader} {ipConfig : IpConfig} {udpHeader : Option UdpPacketHeader}
    (reads : Reads stream data position (udpBits ipHeader ipConfig udpHeader))
    (cuts : ∀ udp ∈ udpHeader, UdpCuts flags ipHeader ipConfig udp) :
    ∃ next, readUdp stream flags ipConfig udpHeader.isSome =
        .ok (foundUdp ipHeader udpHeader, next) ∧
      Reads next data (position + (udpBits ipHeader ipConfig udpHeader).length) [] := by
  cases udpHeader with
  | none => exact ⟨stream, rfl, reads⟩
  | some udpHeader =>
      obtain ⟨src, dst, length⟩ := cuts udpHeader rfl
      obtain ⟨s1, read1, reads1⟩ := readPort_reads reads src (by decide)
      obtain ⟨s2, read2, reads2⟩ := readPort_reads reads1 dst (by decide)
      obtain ⟨s3, read3, reads3⟩ := readLength_reads reads2 length
      refine ⟨s3, ?_, ?_⟩
      · simp only [readUdp, Option.isSome_some, if_true, read1, read2, read3, ok_bind, pure_ok,
          UInt16.ofNat_toNat]
        rfl
      · simpa only [udpBits, List.length_append, Nat.add_assoc] using reads3

/-- The length, when it has to be found, is taken from the size of the payload. -/
theorem adjustLength_found {flags : Nat} {ipHeader : PacketHeader} {ipConfig : IpConfig}
    {udpHeader : Option UdpPacketHeader}
    (cuts : ∀ udp ∈ udpHeader, UdpCuts flags ipHeader ipConfig udp) (payloadSize : Nat) :
    adjustLength (foundUdp ipHeader udpHeader) flags udpHeader.isSome payloadSize =
      decompressedUdp ipHeader payloadSize udpHeader := by
  cases udpHeader with
  | none => rfl
  | some udpHeader =>
      have length := (cuts udpHeader rfl).length
      unfold adjustLength foundUdp decompressedUdp
      rw [length]
      unfold fieldFlag
      by_cases other : 4 * ipHeader.ihl.toNat + udpHeader.length.toNat ≠ ipHeader.totalLength.toNat
      · simp only [if_pos other]
        rw [if_neg (by simp [udpHasLength])]
      · simp only [if_neg other]
        rw [if_pos (by simp)]

/-- The flags are put together from their two bytes. -/
theorem flags_joined {flags : Nat} (small : flags < 2 ^ 16) :
    ((UInt8.ofNat (flags >>> 8)).toNat <<< 8) ||| (UInt8.ofNat flags).toNat = flags := by
  rw [Bytes.shiftLeft_or _ (UInt8.toNat_lt _), byte_at, UInt8.toNat_ofNat']
  omega

/-- What the values in the flags are. -/
structure Cuts (flags : Nat) (ipHeader : PacketHeader) (ipConfig : IpConfig)
    (udpHeader : Option UdpPacketHeader) : Prop where
  ihl : flags &&& hasIhl = fieldFlag ipHeader.ihl.toNat defaultIhl hasIhl
  dscp : flags &&& hasDscp = fieldFlag ipHeader.dscp.toNat defaultDscp hasDscp
  ecn : flags &&& hasEcn = fieldFlag ipHeader.ecn.toNat defaultEcn hasEcn
  ipFlags : flags &&& hasFlags = fieldFlag ipHeader.flags.toNat defaultFlags hasFlags
  fragmentOffset : flags &&& hasFragmentOffset =
    fieldFlag ipHeader.fragmentOffset.toNat defaultFragmentOffset hasFragmentOffset
  ttl : flags &&& hasTtl = fieldFlag ipHeader.ttl.toNat defaultTtl hasTtl
  protocol : flags &&& protocolMask = protocolFlag ipHeader.protocol
  srcAddress : flags &&& hasSrcAddress =
    fieldFlag ipHeader.srcAddress.toNat ipConfig.defaultSrcAddress.toNat hasSrcAddress
  dstAddress : flags &&& hasDstAddress =
    fieldFlag ipHeader.dstAddress.toNat ipConfig.defaultDstAddress.toNat hasDstAddress
  udp : ∀ udp ∈ udpHeader, UdpCuts flags ipHeader ipConfig udp

theorem headerFlags_cuts {compressed : Nat} (mark : compressed &&& 0x8000 = compressed)
    (ipHeader : PacketHeader) (udpHeader : Option UdpPacketHeader) (ipConfig : IpConfig) :
    Cuts (headerFlags compressed ipHeader udpHeader ipConfig) ipHeader ipConfig udpHeader := by
  constructor
  case udp =>
      intro udp member
      cases member
      constructor <;> exact headerFlags_and mark (by simp [headerParts, udpParts])
  all_goals exact headerFlags_and mark (by simp [headerParts])

/-- The decompressor reads the fields back. -/
theorem decompressHeaders_spec {ipHeader : PacketHeader} {udpHeader : Option UdpPacketHeader}
    (inRange : InRange ipHeader udpHeader) {ipConfig : IpConfig} {flags : Nat} {b2 b3 : UInt8}
    {front : List UInt8} (payload : List UInt8) (small : flags < 2 ^ 16)
    (cuts : Cuts flags ipHeader ipConfig udpHeader)
    (content : headerBits ipHeader udpHeader ipConfig <+: bytesBits front)
    (sized : front.length = ((headerBits ipHeader udpHeader ipConfig).length + 7) / 8) :
    decompressHeaders ([UInt8.ofNat (flags >>> 8), UInt8.ofNat flags, b2, b3] ++
        bytesFromInt16Be ipHeader.identification ++ (front ++ payload)) ipConfig =
      .ok (.ok (decompressedIp ipHeader payload.length,
        decompressedUdp ipHeader payload.length udpHeader, compressionFixedSize + front.length)) := by
  have start : Reads (BitInputStream.init (front ++ payload)) (front ++ payload) 0
      (headerBits ipHeader udpHeader ipConfig) :=
    ⟨rfl, BitInputStream.at_init _, starts_of_bytes content payload⟩
  obtain ⟨s1, read1, reads1⟩ := readField_reads start cuts.ihl (by decide) (by decide)
    (by have := inRange.ihl_le; omega)
  obtain ⟨s2, read2, reads2⟩ := readField_reads reads1 cuts.dscp (by decide) (by decide) inRange.dscp
  obtain ⟨s3, read3, reads3⟩ := readField_reads reads2 cuts.ecn (by decide) (by decide) inRange.ecn
  obtain ⟨s4, read4, reads4⟩ := readField_reads reads3 cuts.ipFlags (by decide) (by decide)
    inRange.flags
  obtain ⟨s5, read5, reads5⟩ := readField_reads reads4 cuts.fragmentOffset (by decide) (by decide)
    inRange.fragmentOffset
  obtain ⟨s6, read6, reads6⟩ := readField_reads reads5 cuts.ttl (by decide) (by decide)
    ipHeader.ttl.toNat_lt
  obtain ⟨s7, read7, reads7⟩ := readProtocol_reads reads6 cuts.protocol
  obtain ⟨s8, read8, reads8⟩ := readField_reads reads7 cuts.srcAddress (by decide) le_rfl
    ipHeader.srcAddress.toNat_lt
  obtain ⟨s9, read9, reads9⟩ := readField_reads reads8 cuts.dstAddress (by decide) le_rfl
    ipHeader.dstAddress.toNat_lt
  obtain ⟨s10, read10, reads10⟩ := readOptions_reads reads9
  obtain ⟨last, read11, reads11⟩ := readUdp_reads reads10 cuts.udp
  have position : last.getPosition = (headerBits ipHeader udpHeader ipConfig).length := by
    rw [reads11.at_.position]
    simp only [headerBits, List.length_append]
    omega
  have isUdp : decide (ipHeader.protocol.toNat = protocolUdp.toNat) = udpHeader.isSome := by
    rw [Bool.eq_iff_iff, decide_eq_true_iff, UInt8.toNat_inj, inRange.udp]
  have options : 4 * (ipHeader.ihl.toNat - headerMinIhl.toNat) = ipHeader.options.length :=
    inRange.options.symm
  have bare : ¬ 4 * ipHeader.ihl.toNat < minIpHeaderSize := by
    have atLeast := inRange.ihl_ge
    unfold minIpHeaderSize
    omega
  have whole : ¬ 6 + front.length > 6 + (front ++ payload).length := by
    simp
  have left : 6 + (front ++ payload).length - (6 + front.length) = payload.length := by
    simp only [List.length_append]
    omega
  have total : 4 * ipHeader.ihl.toNat +
      (if ipHeader.protocol.toNat = protocolUdp.toNat then udpHeaderSize else 0) =
        headerSize ipHeader := by
    simp only [headerSize, UInt8.toNat_inj]
  generalize front ++ payload = rest at *
  have large : (UInt8.ofNat (flags >>> 8) :: UInt8.ofNat flags :: b2 :: b3 ::
      UInt8.ofNat (ipHeader.identification.toNat >>> 8) ::
      UInt8.ofNat ipHeader.identification.toNat :: rest).length = 6 + rest.length := by
    simp only [List.length_cons]
    omega
  have enough : 6 + rest.length ≥ compressionFixedSize := Nat.le_add_right _ _
  simp only [decompressHeaders, bytesFromInt16Be, List.cons_append, List.nil_append, large,
    assert_of enough]
  clear start reads1 reads2 reads3 reads4 reads5 reads6 reads7 reads8 reads9 reads10 reads11
  simp only [ok_bind, load, List.getElem?_cons_zero, List.getElem?_cons_succ, flags_joined small,
    compressionFixedSize, List.drop_succ_cons, List.drop_zero, read1, read2, read3, read4, read5,
    read6, read7, read8, read9, bare, if_false, options, read10, isUdp, read11,
    position, pure_ok, ← sized, whole, total, left, UInt8.ofNat_toNat, UInt16.ofNat_toNat,
    UInt32.ofNat_toNat, bytesToInt16Be_from, adjustLength_found cuts.udp]
  rfl

end GoldenGate.Ipv4

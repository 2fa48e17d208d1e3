import GoldenGate.Protocols.Ipv4RoundTrip

/-! # Packets from anyone

What the assembler makes of bytes that no serializer wrote. The sizes of the headers in a
compressed packet follow from its flags and from two of its fields; with them, exactly the
packets are known on which decompression or remapping leaves its buffers.
-/

namespace GoldenGate.Ipv4

open Memory Bits

/-! ## What a compressed packet says -/

def packedFlags (packet : List UInt8) : Nat := ((packet.getD 0 0).toNat <<< 8) ||| (packet.getD 1 0).toNat

/-- The bits that a field has, when its flag is set. -/
def fieldWidth (flags flag width : Nat) : Nat := if flags &&& flag ≠ 0 then width else 0

def protocolWidth (flags : Nat) : Nat :=
  if flags &&& protocolMask = flagProtocolTcp ∨ flags &&& protocolMask = flagProtocolUdp ∨
    flags &&& protocolMask = flagProtocolIcmp then 0 else 8

def portWidth (flags mask flagA flagB flagC : Nat) : Nat :=
  if flags &&& mask = flagA ∨ flags &&& mask = flagB ∨ flags &&& mask = flagC then 0 else 16

/-- The bits in front of the protocol. -/
def leadingBits (flags : Nat) : Nat :=
  fieldWidth flags hasIhl 4 + fieldWidth flags hasDscp 6 + fieldWidth flags hasEcn 2 +
    fieldWidth flags hasFlags 3 + fieldWidth flags hasFragmentOffset 13 + fieldWidth flags hasTtl 8

def packedIhl (packet : List UInt8) : Nat :=
  if packedFlags packet &&& hasIhl ≠ 0 then value (bitsFrom (packet.drop compressionFixedSize) 0 4)
  else defaultIhl

def packedProtocol (packet : List UInt8) : Nat :=
  let flags := packedFlags packet
  if flags &&& protocolMask = flagProtocolTcp then protocolTcp.toNat
  else if flags &&& protocolMask = flagProtocolUdp then protocolUdp.toNat
  else if flags &&& protocolMask = flagProtocolIcmp then protocolIcmp.toNat
  else value (bitsFrom (packet.drop compressionFixedSize) (leadingBits flags) 8)

def udpWidth (flags : Nat) : Nat :=
  portWidth flags udpSrcPortMask udpSrcPortA udpSrcPortB udpSrcPortC +
    portWidth flags udpDstPortMask udpDstPortA udpDstPortB udpDstPortC + fieldWidth flags udpHasLength 16

/-- All bits of the fields that are not elided. -/
def packedBits (packet : List UInt8) : Nat :=
  let flags := packedFlags packet
  leadingBits flags + protocolWidth flags + fieldWidth flags hasSrcAddress 32 + fieldWidth flags hasDstAddress 32 +
    8 * (4 * (packedIhl packet - 5)) + if packedProtocol packet = protocolUdp.toNat then udpWidth flags else 0

/-- The size of the compressed headers of a packet. -/
def packedSize (packet : List UInt8) : Nat := compressionFixedSize + (packedBits packet + 7) / 8

/-- The size of the headers that they stand for. -/
def unpackedSize (packet : List UInt8) : Nat :=
  4 * packedIhl packet + if packedProtocol packet = protocolUdp.toNat then udpHeaderSize else 0

/-- Its headers are complete, and the IHL is one. -/
def Unpacks (packet : List UInt8) : Prop := 5 ≤ packedIhl packet ∧ packedSize packet ≤ packet.length

instance (packet : List UInt8) : Decidable (Unpacks packet) :=
  inferInstanceAs (Decidable (_ ∧ _))

theorem packedIhl_le (packet : List UInt8) : packedIhl packet ≤ 15 := by
  unfold packedIhl
  split
  · have small := value_lt (bitsFrom (packet.drop compressionFixedSize) 0 4)
    rw [length_bitsFrom] at small
    omega
  · decide

theorem packedProtocol_lt (packet : List UInt8) : packedProtocol packet < 256 := by
  unfold packedProtocol
  dsimp only
  split_ifs
  · decide
  · decide
  · decide
  · have small := value_lt (bitsFrom (packet.drop compressionFixedSize) (leadingBits (packedFlags packet)) 8)
    rwa [length_bitsFrom] at small

/-- Compressed headers are never larger than the headers, whoever wrote them. -/
theorem packedSize_le {packet : List UInt8} (ihl : 5 ≤ packedIhl packet) : packedSize packet ≤ unpackedSize packet := by
  have field : ∀ flags flag width, fieldWidth flags flag width ≤ width := by
    intro flags flag width
    unfold fieldWidth
    split <;> omega
  have port : ∀ flags mask flagA flagB flagC, portWidth flags mask flagA flagB flagC ≤ 16 := by
    intro flags mask flagA flagB flagC
    unfold portWidth
    split <;> omega
  have protocol : protocolWidth (packedFlags packet) ≤ 8 := by
    unfold protocolWidth
    split <;> omega
  unfold packedSize packedBits unpackedSize leadingBits udpWidth compressionFixedSize udpHeaderSize
  dsimp only
  generalize packedFlags packet = flags at *
  have field1 := field flags hasIhl 4
  have field2 := field flags hasDscp 6
  have field3 := field flags hasEcn 2
  have field4 := field flags hasFlags 3
  have field5 := field flags hasFragmentOffset 13
  have field6 := field flags hasTtl 8
  have field7 := field flags hasSrcAddress 32
  have field8 := field flags hasDstAddress 32
  have field9 := field flags udpHasLength 16
  have port1 := port flags udpSrcPortMask udpSrcPortA udpSrcPortB udpSrcPortC
  have port2 := port flags udpDstPortMask udpDstPortA udpDstPortB udpDstPortC
  split <;> omega

/-! ## Reading it -/

section Reading

variable {stream : BitInputStream} {position : Nat}

theorem readField_at (at_ : stream.At position) (flags flag default : Nat) {width : Nat} (small : width ≤ 32) :
    ∃ next, readField stream flags flag width default =
        .ok (if flags &&& flag ≠ 0 then value (bitsFrom stream.bytes position width) else default, next) ∧
      next.At (position + fieldWidth flags flag width) ∧ next.bytes = stream.bytes := by
  unfold readField fieldWidth
  by_cases present : flags &&& flag ≠ 0
  · simp only [if_pos present]
    exact BitInputStream.read_spec at_ small
  · simp only [if_neg present]
    exact ⟨stream, rfl, at_, rfl⟩

theorem readProtocol_at (at_ : stream.At position) (flags : Nat) :
    ∃ next, readProtocol stream flags =
        .ok (if flags &&& protocolMask = flagProtocolTcp then protocolTcp.toNat
          else if flags &&& protocolMask = flagProtocolUdp then protocolUdp.toNat
          else if flags &&& protocolMask = flagProtocolIcmp then protocolIcmp.toNat
          else value (bitsFrom stream.bytes position 8), next) ∧
      next.At (position + protocolWidth flags) ∧ next.bytes = stream.bytes := by
  unfold readProtocol protocolWidth
  by_cases tcp : flags &&& protocolMask = flagProtocolTcp
  · simp only [tcp, true_or, if_true]
    exact ⟨stream, rfl, at_, rfl⟩
  by_cases udp : flags &&& protocolMask = flagProtocolUdp
  · rw [if_neg tcp, if_pos udp, if_neg tcp, if_pos udp, if_pos (.inr (.inl udp))]
    exact ⟨stream, rfl, at_, rfl⟩
  by_cases icmp : flags &&& protocolMask = flagProtocolIcmp
  · rw [if_neg tcp, if_neg udp, if_pos icmp, if_neg tcp, if_neg udp, if_pos icmp, if_pos (.inr (.inr icmp))]
    exact ⟨stream, rfl, at_, rfl⟩
  · simp only [tcp, udp, icmp, if_false, or_self]
    exact BitInputStream.read_spec at_ (by decide)

theorem readPort_at (at_ : stream.At position) (flags mask flagA flagB flagC : Nat) (known : Fin 3 → UInt16) :
    ∃ port next, readPort stream flags mask flagA flagB flagC known = .ok (port, next) ∧
      next.At (position + portWidth flags mask flagA flagB flagC) ∧ next.bytes = stream.bytes := by
  unfold readPort portWidth
  by_cases a : flags &&& mask = flagA
  · rw [if_pos a, if_pos (.inl a)]
    exact ⟨_, stream, rfl, at_, rfl⟩
  by_cases b : flags &&& mask = flagB
  · rw [if_neg a, if_pos b, if_pos (.inr (.inl b))]
    exact ⟨_, stream, rfl, at_, rfl⟩
  by_cases c : flags &&& mask = flagC
  · rw [if_neg a, if_neg b, if_pos c, if_pos (.inr (.inr c))]
    exact ⟨_, stream, rfl, at_, rfl⟩
  · simp only [a, b, c, if_false, or_self]
    obtain ⟨next, reads⟩ := BitInputStream.read_spec at_ (by decide : 16 ≤ 32)
    exact ⟨_, next, reads⟩

theorem readOptions_at (at_ : stream.At position) (n : Nat) :
    ∃ options next, readOptions n stream = .ok (options, next) ∧ options.length = n ∧
      next.At (position + 8 * n) ∧ next.bytes = stream.bytes := by
  induction n generalizing stream position with
  | zero => exact ⟨[], stream, rfl, rfl, at_, rfl⟩
  | succ n ih =>
      obtain ⟨next, reads, at1, same⟩ := BitInputStream.read_spec at_ (by decide : 8 ≤ 32)
      obtain ⟨options, last, readsRest, length, at2, same2⟩ := ih at1
      refine ⟨UInt8.ofNat (value (bitsFrom stream.bytes position 8)) :: options, last, ?_, ?_, ?_, same2.trans same⟩
      · simp only [readOptions, reads, ok_bind, readsRest, pure_ok]
      · rw [List.length_cons, length]
      · rwa [Nat.mul_succ, Nat.add_comm (8 * n), ← Nat.add_assoc]

theorem readUdp_at (at_ : stream.At position) (flags : Nat) (ipConfig : IpConfig) (isUdp : Bool) :
    ∃ udpHeader next, readUdp stream flags ipConfig isUdp = .ok (udpHeader, next) ∧
      next.At (position + if isUdp then udpWidth flags else 0) ∧ next.bytes = stream.bytes := by
  unfold readUdp
  cases isUdp with
  | false => exact ⟨_, stream, rfl, at_, rfl⟩
  | true =>
      obtain ⟨srcPort, s1, reads1, at1, same1⟩ :=
        readPort_at at_ flags udpSrcPortMask udpSrcPortA udpSrcPortB udpSrcPortC ipConfig.udpSrcPorts
      obtain ⟨dstPort, s2, reads2, at2, same2⟩ :=
        readPort_at at1 flags udpDstPortMask udpDstPortA udpDstPortB udpDstPortC ipConfig.udpDstPorts
      obtain ⟨s3, reads3, at3, same3⟩ := readField_at at2 flags udpHasLength 0 (by decide : 16 ≤ 32)
      generalize (if flags &&& udpHasLength ≠ 0 then _ else 0) = length at reads3
      refine ⟨⟨UInt16.ofNat srcPort, UInt16.ofNat dstPort, UInt16.ofNat length, 0⟩, s3, ?_, ?_,
        (same3.trans same2).trans same1⟩
      · simp only [if_true, reads1, ok_bind, reads2, reads3, pure_ok]
      · unfold udpWidth
        rwa [if_pos rfl, ← Nat.add_assoc, ← Nat.add_assoc]

end Reading

/-- The decompressor, on any packet with the fixed part: it fails, or finds headers of the
    sizes that the packet says. -/
theorem decompressHeaders_sizes {packet : List UInt8} (long : compressionFixedSize ≤ packet.length)
    (ipConfig : IpConfig) :
    (¬ Unpacks packet → decompressHeaders packet ipConfig = .ok (.error .invalidFormat)) ∧
    (Unpacks packet → ∃ ipHeader udpHeader,
      decompressHeaders packet ipConfig = .ok (.ok (ipHeader, udpHeader, packedSize packet)) ∧
      ipHeader.ihl.toNat = packedIhl packet ∧ headerSize ipHeader = unpackedSize packet ∧
      ipHeader.totalLength = UInt16.ofNat (unpackedSize packet + (packet.length - packedSize packet)) ∧
      ipHeader.options.length = 4 * (packedIhl packet - 5)) := by
  unfold compressionFixedSize at long
  obtain ⟨b0, b1, b2, b3, l, rfl, long'⟩ := @word_split 2 packet (by omega)
  obtain ⟨b4, b5, rest, rfl⟩ : ∃ b4 b5 rest, l = b4 :: b5 :: rest := by
    match l, long' with
    | b4 :: b5 :: rest, _ => exact ⟨b4, b5, rest, rfl⟩
  generalize isPacket : b0 :: b1 :: b2 :: b3 :: b4 :: b5 :: rest = packet at *
  have data : packet.drop compressionFixedSize = rest := by
    rw [← isPacket]
    rfl
  have isFlags : packedFlags packet = (b0.toNat <<< 8) ||| b1.toNat := by
    rw [← isPacket]
    rfl
  obtain ⟨s1, reads1, at1, same1⟩ :=
    readField_at (BitInputStream.at_init rest) (packedFlags packet) hasIhl defaultIhl (by decide : 4 ≤ 32)
  obtain ⟨s2, reads2, at2, same2⟩ := readField_at at1 (packedFlags packet) hasDscp defaultDscp (by decide : 6 ≤ 32)
  obtain ⟨s3, reads3, at3, same3⟩ := readField_at at2 (packedFlags packet) hasEcn defaultEcn (by decide : 2 ≤ 32)
  obtain ⟨s4, reads4, at4, same4⟩ := readField_at at3 (packedFlags packet) hasFlags defaultFlags (by decide : 3 ≤ 32)
  obtain ⟨s5, reads5, at5, same5⟩ :=
    readField_at at4 (packedFlags packet) hasFragmentOffset defaultFragmentOffset (by decide : 13 ≤ 32)
  obtain ⟨s6, reads6, at6, same6⟩ := readField_at at5 (packedFlags packet) hasTtl defaultTtl (by decide : 8 ≤ 32)
  obtain ⟨s7, reads7, at7, same7⟩ := readProtocol_at at6 (packedFlags packet)
  obtain ⟨s8, reads8, at8, same8⟩ :=
    readField_at at7 (packedFlags packet) hasSrcAddress ipConfig.defaultSrcAddress.toNat (by decide : 32 ≤ 32)
  obtain ⟨s9, reads9, at9, same9⟩ :=
    readField_at at8 (packedFlags packet) hasDstAddress ipConfig.defaultDstAddress.toNat (by decide : 32 ≤ 32)
  have bytes6 : s6.bytes = rest := by
    rw [same6, same5, same4, same3, same2, same1]
    rfl
  have ihl : (if packedFlags packet &&& hasIhl ≠ 0 then value (bitsFrom (BitInputStream.init rest).bytes 0 4)
      else defaultIhl) = packedIhl packet := by
    rw [packedIhl, data]
    rfl
  have protocol : (if packedFlags packet &&& protocolMask = flagProtocolTcp then protocolTcp.toNat
      else if packedFlags packet &&& protocolMask = flagProtocolUdp then protocolUdp.toNat
      else if packedFlags packet &&& protocolMask = flagProtocolIcmp then protocolIcmp.toNat
      else value (bitsFrom s6.bytes (0 + fieldWidth (packedFlags packet) hasIhl 4 +
        fieldWidth (packedFlags packet) hasDscp 6 + fieldWidth (packedFlags packet) hasEcn 2 +
        fieldWidth (packedFlags packet) hasFlags 3 + fieldWidth (packedFlags packet) hasFragmentOffset 13 +
        fieldWidth (packedFlags packet) hasTtl 8) 8)) = packedProtocol packet := by
    rw [packedProtocol, data, bytes6, Nat.zero_add]
    rfl
  rw [ihl] at reads1
  rw [protocol] at reads7
  have size : packet.length = 6 + rest.length := by
    rw [← isPacket]
    simp only [List.length_cons]
    omega
  have enough : packet.length ≥ compressionFixedSize := by
    unfold compressionFixedSize
    omega
  have load0 : load packet 0 = .ok b0 := by rw [← isPacket]; rfl
  have load1 : load packet 1 = .ok b1 := by rw [← isPacket]; rfl
  have load4 : load packet 4 = .ok b4 := by rw [← isPacket]; rfl
  have load5 : load packet 5 = .ok b5 := by rw [← isPacket]; rfl
  have ihlLe := packedIhl_le packet
  have protocolLt := packedProtocol_lt packet
  by_cases bare : 4 * packedIhl packet < minIpHeaderSize
  · constructor
    · intro _
      simp only [decompressHeaders, assert_of enough, ok_bind, load0, load1, load4, load5, ← isFlags, data, reads1,
        reads2, reads3, reads4, reads5, reads6, reads7, reads8, reads9, bare, if_true, pure_ok]
    · intro unpacks
      have large := unpacks.1
      unfold minIpHeaderSize at bare
      omega
  obtain ⟨options, s10, reads10, optionsSize, at10, -⟩ := readOptions_at at9 (4 * (packedIhl packet - 5))
  obtain ⟨udpHeader, last, reads11, at11, -⟩ :=
    readUdp_at at10 (packedFlags packet) ipConfig (packedProtocol packet = protocolUdp.toNat)
  have position : last.getPosition = packedBits packet := by
    rw [at11.position, packedBits]
    simp only [leadingBits, Nat.zero_add, decide_eq_true_eq]
  have five : headerMinIhl.toNat = 5 := rfl
  have sizeEq : compressionFixedSize + (packedBits packet + 7) / 8 = packedSize packet := rfl
  have unpackedEq : 4 * packedIhl packet + (if packedProtocol packet = protocolUdp.toNat then udpHeaderSize else 0) =
      unpackedSize packet := rfl
  by_cases cut : packedSize packet > packet.length
  · constructor
    · intro _
      simp only [decompressHeaders, assert_of enough, ok_bind, load0, load1, load4, load5, ← isFlags, data, reads1,
        reads2, reads3, reads4, reads5, reads6, reads7, reads8, reads9, bare, if_false, five, reads10, reads11,
        position, sizeEq, cut, if_true, pure_ok]
    · intro unpacks
      exact (Nat.not_lt.mpr unpacks.2 cut).elim
  · constructor
    · intro not_
      apply absurd _ not_
      unfold minIpHeaderSize at bare
      exact ⟨by omega, Nat.not_lt.mp cut⟩
    · intro _
      simp only [decompressHeaders, assert_of enough, ok_bind, load0, load1, load4, load5, ← isFlags, data, reads1,
        reads2, reads3, reads4, reads5, reads6, reads7, reads8, reads9, bare, if_false, five, reads10, reads11,
        position, sizeEq, unpackedEq, cut, pure_ok]
      have ihlByte : (UInt8.ofNat (packedIhl packet)).toNat = packedIhl packet := by
        rw [UInt8.toNat_ofNat', Nat.mod_eq_of_lt (by omega)]
      have protocolByte : UInt8.ofNat (packedProtocol packet) = protocolUdp ↔
          packedProtocol packet = protocolUdp.toNat := by
        rw [← UInt8.toNat_inj, UInt8.toNat_ofNat', Nat.mod_eq_of_lt protocolLt]
      refine ⟨_, _, rfl, ihlByte, ?_, rfl, optionsSize⟩
      simp only [headerSize, ihlByte, protocolByte, unpackedSize]

/-! ## Decompressed packets -/

theorem length_bytes (ipHeader : PacketHeader) (checksum : UInt16)
    (options : ipHeader.options.length = 4 * (ipHeader.ihl.toNat - 5)) (ihl : 5 ≤ ipHeader.ihl.toNat) :
    (ipHeader.bytes checksum).length = 4 * ipHeader.ihl.toNat := by
  unfold PacketHeader.bytes
  simp only [List.length_append, bytesFromInt16Be, bytesFromInt32Be, List.length_cons, List.length_nil]
  by_cases more : ipHeader.ihl > 5
  · rw [if_pos more, List.length_take, options]
    omega
  · have few : ipHeader.ihl.toNat ≤ 5 := by
      rw [gt_iff_lt, UInt8.lt_iff_toNat_lt] at more
      exact Nat.not_lt.mp more
    rw [if_neg more, List.length_nil]
    omega

theorem announced_bytes (ipHeader : PacketHeader) (checksum : UInt16) (rest : List UInt8) :
    announced (ipHeader.bytes checksum ++ rest) = ipHeader.totalLength.toNat := by
  unfold PacketHeader.bytes announced bytesFromInt16Be
  simp only [List.cons_append, List.nil_append, List.getD_cons_succ, List.getD_cons_zero, bytesToInt16Be_from]

theorem store_sized {region region' bytes : List UInt8} {offset : Nat} (stores : store region offset bytes = .ok region') :
    offset + bytes.length ≤ region.length ∧ region'.length = region.length := by
  unfold store at stores
  split at stores
  · next fits =>
      cases stores
      refine ⟨fits, ?_⟩
      simp only [List.length_append, List.length_take, List.length_drop]
      omega
  · cases stores

/-- The size of the frame that a compressed packet stands for. -/
def decompressedSize (packet : List UInt8) : Nat := unpackedSize packet + (packet.length - packedSize packet)

section Decompressing

variable {packet : List UInt8} (long : compressionFixedSize ≤ packet.length) (ipConfig : IpConfig)
include long

theorem decompress_rejects (not_ : ¬ Unpacks packet) :
    FrameAssembler.decompressAndEmitPacket (some ipConfig) packet = .ok (.error .invalidFormat) := by
  have rejects := (decompressHeaders_sizes long ipConfig).1 not_
  simp only [FrameAssembler.decompressAndEmitPacket, rejects, ok_bind, pure_ok]

theorem decompress_emits (unpacks : Unpacks packet) (fits : decompressedSize packet < 2 ^ 16) :
    ∃ frame, FrameAssembler.decompressAndEmitPacket (some ipConfig) packet = .ok (.ok frame) ∧
      announced frame = frame.length ∧ minIpHeaderSize ≤ frame.length := by
  obtain ⟨ipHeader, udpHeader, decompresses, ihl, size, total, options⟩ :=
    (decompressHeaders_sizes long ipConfig).2 unpacks
  have ihlGe := unpacks.1
  have ihlLe := packedIhl_le packet
  have bytes : ∀ checksum, (ipHeader.bytes checksum).length = 4 * ipHeader.ihl.toNat := fun checksum =>
    length_bytes ipHeader checksum (by rw [ihl, options]) (by omega)
  have total : ipHeader.totalLength.toNat = headerSize ipHeader + (packet.length - packedSize packet) := by
    rw [total, size, UInt16.toNat_ofNat']
    exact Nat.mod_eq_of_lt fits
  have emits := decompressAndEmitPacket_spec decompresses (by omega) (by omega) bytes unpacks.2
    (by rw [size]; exact packedSize_le unpacks.1) total
  refine ⟨_, emits, ?_, ?_⟩
  · rw [List.append_assoc, announced_bytes, total, List.length_append, List.length_append, bytes, List.length_drop]
    unfold headerSize
    split <;> simp only [UdpPacketHeader.bytes, bytesFromInt16Be, udpHeaderSize, List.length_append,
      List.length_cons, List.length_nil] <;> omega
  · rw [List.append_assoc, List.length_append, bytes]
    unfold minIpHeaderSize
    omega

/-- The total length is cut to 16 bits, and the frame written into a buffer of that size. -/
theorem decompress_faults (bounded : packet.length < 2 ^ 16) (unpacks : Unpacks packet)
    (large : 2 ^ 16 ≤ decompressedSize packet) :
    ∃ fault, FrameAssembler.decompressAndEmitPacket (some ipConfig) packet = .error fault := by
  obtain ⟨ipHeader, udpHeader, decompresses, ihl, size, total, options⟩ :=
    (decompressHeaders_sizes long ipConfig).2 unpacks
  have ihlLe := packedIhl_le packet
  have total : ipHeader.totalLength.toNat = decompressedSize packet - 2 ^ 16 := by
    rw [total, UInt16.toNat_ofNat']
    change decompressedSize packet % 2 ^ 16 = _
    have few : unpackedSize packet ≤ 68 := by
      unfold unpackedSize udpHeaderSize
      split <;> omega
    unfold decompressedSize at *
    omega
  cases emits : FrameAssembler.decompressAndEmitPacket (some ipConfig) packet with
  | error fault => exact ⟨fault, rfl⟩
  | ok result =>
      exfalso
      unfold FrameAssembler.decompressAndEmitPacket at emits
      simp only [decompresses, ok_bind] at emits
      obtain ⟨_, -, emits⟩ := bind_ok emits
      obtain ⟨_, -, emits⟩ := bind_ok emits
      obtain ⟨serialized, serializes, emits⟩ := bind_ok emits
      have inRange : ¬ (ipHeader.ihl < headerMinIhl ∨ ipHeader.ihl > headerMaxIhl) := by
        have ihlGe := unpacks.1
        rw [gt_iff_lt, UInt8.lt_iff_toNat_lt, UInt8.lt_iff_toNat_lt]
        simp only [headerMinIhl, headerMaxIhl, UInt8.reduceToNat]
        omega
      unfold PacketHeader.serialize at serializes
      rw [if_neg inRange, if_neg (lt_irrefl _)] at serializes
      obtain ⟨output, stores, serializes⟩ := bind_ok serializes
      cases serializes
      obtain ⟨-, outputSize⟩ := store_sized stores
      rw [List.length_replicate, total] at outputSize
      have copies : ∀ output' : List UInt8, output'.length = output.length →
          (if packet.length > packedSize packet then do
              let output' ← store output' (headerSize ipHeader) (packet.drop (packedSize packet))
              pure (Except.ok output')
            else do
              let output' ← pure output'
              (pure (.ok output') : Access (Except Error (List UInt8)))) ≠ .ok result := by
        intro output' same copied
        have some_ : packet.length > packedSize packet := by
          unfold decompressedSize unpackedSize udpHeaderSize at large
          split at large <;> omega
        rw [if_pos some_] at copied
        obtain ⟨_, stores, -⟩ := bind_ok copied
        have inside := (store_sized stores).1
        rw [List.length_drop, same, outputSize, size] at inside
        unfold decompressedSize at inside
        omega
      dsimp only at emits
      split at emits
      · next isUdp =>
          obtain ⟨output', stores, emits⟩ := bind_ok emits
          apply copies output' (store_sized stores).2
          rw [headerSize, if_pos isUdp]
          exact emits
      · next notUdp =>
          apply copies output rfl
          rw [headerSize, if_neg notUdp]
          exact emits

end Decompressing

/-! ## Remapped frames -/

/-- The frame differs behind its first ten bytes only. -/
structure KeepsFront (frame frame' : List UInt8) : Prop where
  length : frame'.length = frame.length
  front : frame'.take 10 = frame.take 10

theorem KeepsFront.trans {frame frame' frame'' : List UInt8} (first : KeepsFront frame frame')
    (second : KeepsFront frame' frame'') : KeepsFront frame frame'' :=
  ⟨second.length.trans first.length, second.front.trans first.front⟩

theorem KeepsFront.announced {frame frame' : List UInt8} (keeps : KeepsFront frame frame') :
    announced frame' = announced frame := by
  have same : ∀ i < 10, frame'.getD i 0 = frame.getD i 0 := by
    intro i small
    have at_ := congrArg (·.getD i 0) keeps.front
    simpa [List.getD_eq_getElem?_getD, List.getElem?_take, small] using at_
  unfold Ipv4.announced
  rw [same 2 (by decide), same 3 (by decide)]

theorem store_keepsFront {frame bytes : List UInt8} {offset : Nat} (behind : 10 ≤ offset)
    (fits : offset + bytes.length ≤ frame.length) :
    ∃ frame', store frame offset bytes = .ok frame' ∧ KeepsFront frame frame' := by
  refine ⟨_, if_pos fits, ?_, ?_⟩
  · simp only [List.length_append, List.length_take, List.length_drop]
    omega
  · rw [List.append_assoc, List.take_append_of_le_length (by rw [List.length_take]; omega), List.take_take,
      Nat.min_eq_left behind]

theorem load_inside {frame : List UInt8} {offset : Nat} (inside : offset < frame.length) :
    ∃ b, load frame offset = .ok b := ⟨_, load_lt inside⟩

theorem loadInt32Be_inside {frame : List UInt8} {offset : Nat} (inside : offset + 4 ≤ frame.length) :
    ∃ address, FrameAssembler.loadInt32Be frame offset = .ok address := by
  obtain ⟨b0, load0⟩ := @load_inside frame offset (by omega)
  obtain ⟨b1, load1⟩ := @load_inside frame (offset + 1) (by omega)
  obtain ⟨b2, load2⟩ := @load_inside frame (offset + 2) (by omega)
  obtain ⟨b3, load3⟩ := @load_inside frame (offset + 3) (by omega)
  exact ⟨bytesToInt32Be b0 b1 b2 b3, by
    simp only [FrameAssembler.loadInt32Be, load0, load1, load2, load3, ok_bind, pure_ok]⟩

theorem remapAddress_inside {frame : List UInt8} {offset : Nat} (address remapped : UInt32) (behind : 10 ≤ offset)
    (inside : offset + 4 ≤ frame.length) :
    ∃ frame' found, FrameAssembler.remapAddress frame offset address remapped = .ok (frame', found) ∧
      KeepsFront frame frame' := by
  obtain ⟨there, loads⟩ := loadInt32Be_inside inside
  unfold FrameAssembler.remapAddress
  rw [loads, ok_bind]
  by_cases found : there = address
  · obtain ⟨frame', stores, keeps⟩ := @store_keepsFront frame (bytesFromInt32Be remapped) offset behind inside
    exact ⟨frame', true, by rw [if_pos found, stores]; rfl, keeps⟩
  · exact ⟨frame, false, by rw [if_neg found]; rfl, rfl, rfl⟩

theorem remapAddress_outside {frame : List UInt8} {offset : Nat} (address remapped : UInt32)
    (outside : frame.length < offset + 4) :
    ∃ fault, FrameAssembler.remapAddress frame offset address remapped = .error fault := by
  cases remaps : FrameAssembler.remapAddress frame offset address remapped with
  | error fault => exact ⟨fault, rfl⟩
  | ok result =>
      exfalso
      obtain ⟨there, loads, -⟩ := bind_ok remaps
      obtain ⟨_, -, loads⟩ := bind_ok loads
      obtain ⟨_, -, loads⟩ := bind_ok loads
      obtain ⟨_, -, loads⟩ := bind_ok loads
      obtain ⟨_, loads, -⟩ := bind_ok loads
      unfold load at loads
      rw [List.getElem?_eq_none (by omega)] at loads
      cases loads

theorem recomputeChecksum_inside {frame : List UInt8} (long : minIpHeaderSize ≤ frame.length) :
    ∃ frame', FrameAssembler.recomputeChecksum frame = .ok frame' ∧ KeepsFront frame frame' := by
  unfold minIpHeaderSize at long
  obtain ⟨first, load0⟩ := @load_inside frame 0 (by omega)
  unfold FrameAssembler.recomputeChecksum
  rw [load0, ok_bind]
  by_cases header : (first &&& 0x0F) ≥ headerMinIhl ∧ (first &&& 0x0F).toNat * 4 ≤ frame.length
  · obtain ⟨frame1, stores1, keeps1⟩ := @store_keepsFront frame [0, 0] 10 le_rfl (by simp; omega)
    have length1 := keeps1.length
    obtain ⟨frame2, stores2, keeps2⟩ :=
      @store_keepsFront frame1 (bytesFromInt16Be (~~~ ipv4Checksum (frame1.take (4 * (first &&& 0x0F).toNat)))) 10
        le_rfl (by simp [bytesFromInt16Be]; omega)
    have length2 := keeps2.length
    obtain ⟨protocol, load9⟩ := @load_inside frame2 9 (by omega)
    simp only [if_pos header, stores1, ok_bind, stores2, load9]
    by_cases udp : protocol = protocolUdp ∧ (first &&& 0x0F).toNat * 4 + udpHeaderSize ≤ frame2.length
    · have ihl : 5 ≤ (first &&& 0x0F).toNat := UInt8.le_iff_toNat_le.mp header.1
      have inside := udp.2
      unfold udpHeaderSize at inside
      obtain ⟨frame3, stores3, keeps3⟩ :=
        @store_keepsFront frame2 [0, 0] ((first &&& 0x0F).toNat * 4 + 6) (by omega) inside
      exact ⟨frame3, by rw [if_pos udp, stores3], (keeps1.trans keeps2).trans keeps3⟩
    · exact ⟨frame2, by rw [if_neg udp]; rfl, keeps1.trans keeps2⟩
  · exact ⟨frame, by simp only [if_neg header, pure_ok], rfl, rfl⟩

theorem remap_inside (ipMap : IpMap) {frame : List UInt8} (long : minIpHeaderSize ≤ frame.length) :
    ∃ frame', FrameAssembler.remap ipMap frame = .ok frame' ∧ KeepsFront frame frame' := by
  unfold minIpHeaderSize at long
  obtain ⟨frame1, found1, remaps1, keeps1⟩ :=
    @remapAddress_inside frame 12 ipMap.srcAddress ipMap.remappedSrcAddress (by decide) (by omega)
  have length1 := keeps1.length
  obtain ⟨frame2, found2, remaps2, keeps2⟩ :=
    @remapAddress_inside frame1 16 ipMap.dstAddress ipMap.remappedDstAddress (by decide) (by omega)
  have length2 := keeps2.length
  obtain ⟨frame3, recomputes, keeps3⟩ := @recomputeChecksum_inside frame2 (by unfold minIpHeaderSize; omega)
  unfold FrameAssembler.remap
  simp only [remaps1, ok_bind, remaps2]
  by_cases found : found1 ∨ found2
  · exact ⟨frame3, by rw [if_pos found, recomputes], (keeps1.trans keeps2).trans keeps3⟩
  · exact ⟨frame2, by rw [if_neg found]; rfl, keeps1.trans keeps2⟩

/-- The addresses are looked for without a look at the size of the frame. -/
theorem remap_outside (ipMap : IpMap) {frame : List UInt8} (short : frame.length < minIpHeaderSize) :
    ∃ fault, FrameAssembler.remap ipMap frame = .error fault := by
  unfold minIpHeaderSize at short
  unfold FrameAssembler.remap
  by_cases source : frame.length < 16
  · obtain ⟨fault, remaps⟩ := @remapAddress_outside frame 12 ipMap.srcAddress ipMap.remappedSrcAddress source
    exact ⟨fault, by rw [remaps]; rfl⟩
  · obtain ⟨frame1, found1, remaps1, keeps1⟩ :=
      @remapAddress_inside frame 12 ipMap.srcAddress ipMap.remappedSrcAddress (by decide) (by omega)
    have length1 := keeps1.length
    obtain ⟨fault, remaps2⟩ :=
      @remapAddress_outside frame1 16 ipMap.dstAddress ipMap.remappedDstAddress (by omega)
    refine ⟨fault, ?_⟩
    simp only [remaps1, ok_bind, remaps2, error_bind]

/-! ## Safe packets -/

/-- An uncompressed packet with the addresses in it; or a compressed one with the fixed part,
    and with a frame whose size is no more than 16 bits, if it stands for one. -/
def Safe (packet : List UInt8) : Prop :=
  (¬ IsCompressed packet → minIpHeaderSize ≤ packet.length) ∧
    (IsCompressed packet → compressionFixedSize ≤ packet.length ∧ (Unpacks packet → decompressedSize packet < 2 ^ 16))

instance (packet : List UInt8) : Decidable (IsCompressed packet) :=
  inferInstanceAs (Decidable (¬ _ = _))

instance (packet : List UInt8) : Decidable (Safe packet) :=
  inferInstanceAs (Decidable (_ ∧ _))

section Packets

variable {packet : List UInt8} (nonempty : packet ≠ []) (ipConfig : IpConfig) (ipMap : IpMap)
include nonempty

theorem packetFrame_eq : FrameAssembler.packetFrame (some ipConfig) (some ipMap) packet = (do
    let result ←
      if IsCompressed packet then FrameAssembler.decompressAndEmitPacket (some ipConfig) packet else pure (.ok packet)
    match result with
    | .ok frame => return .ok (← FrameAssembler.remap ipMap frame)
    | .error e => return .error e) := by
  cases packet with
  | nil => exact (nonempty rfl).elim
  | cons first rest =>
      have loads : load (first :: rest) 0 = .ok first := rfl
      unfold FrameAssembler.packetFrame
      rw [loads, ok_bind]
      by_cases compressed : IsCompressed (first :: rest)
      · have mark : first.toNat &&& packetIsCompressed ≠ 0 := compressed
        rw [if_pos mark, if_pos compressed]
        congr 1
        funext result
        cases result <;> rfl
      · have mark : ¬ first.toNat &&& packetIsCompressed ≠ 0 := compressed
        rw [if_neg mark, if_neg compressed]
        congr 1
        funext result
        cases result <;> rfl

theorem packetFrame_safe (safe : Safe packet) :
    ∃ result, FrameAssembler.packetFrame (some ipConfig) (some ipMap) packet = .ok result ∧
      ∀ frame, result = .ok frame → IsCompressed packet → announced frame = frame.length := by
  rw [packetFrame_eq nonempty]
  by_cases compressed : IsCompressed packet
  · obtain ⟨long, fits⟩ := safe.2 compressed
    rw [if_pos compressed]
    by_cases unpacks : Unpacks packet
    · obtain ⟨frame, emits, total, enough⟩ := decompress_emits long ipConfig unpacks (fits unpacks)
      obtain ⟨frame', remaps, keeps⟩ := remap_inside ipMap enough
      refine ⟨.ok frame', ?_, ?_⟩
      · simp only [emits, ok_bind, remaps, pure_ok]
      · rintro _ ⟨⟩ -
        rw [keeps.announced, keeps.length, total]
    · refine ⟨.error .invalidFormat, ?_, nofun⟩
      simp only [decompress_rejects long ipConfig unpacks, ok_bind, pure_ok]
  · obtain ⟨frame', remaps, -⟩ := remap_inside ipMap (safe.1 compressed)
    refine ⟨.ok frame', ?_, fun _ _ isCompressed => (compressed isCompressed).elim⟩
    simp only [if_neg compressed, pure_ok, ok_bind, remaps]

theorem packetFrame_unsafe (bounded : packet.length < 2 ^ 16) (not_ : ¬ Safe packet) :
    ∃ fault, FrameAssembler.packetFrame (some ipConfig) (some ipMap) packet = .error fault := by
  rw [packetFrame_eq nonempty]
  by_cases compressed : IsCompressed packet
  · rw [if_pos compressed]
    by_cases long : compressionFixedSize ≤ packet.length
    · have large : Unpacks packet ∧ 2 ^ 16 ≤ decompressedSize packet := by
        by_contra fits
        apply not_
        refine ⟨fun plain => (plain compressed).elim, fun _ => ⟨long, fun unpacks => ?_⟩⟩
        exact Nat.not_le.mp fun large => fits ⟨unpacks, large⟩
      obtain ⟨fault, faults⟩ := decompress_faults long ipConfig bounded large.1 large.2
      exact ⟨fault, by rw [faults]; rfl⟩
    · refine ⟨.assertion, ?_⟩
      have fails : assert (decide (packet.length ≥ compressionFixedSize)) = .error .assertion := by
        unfold assert
        rw [if_neg (by simpa using long)]
      simp only [FrameAssembler.decompressAndEmitPacket, decompressHeaders, fails, error_bind]
  · have short : packet.length < minIpHeaderSize := by
      by_contra enough
      exact not_ ⟨fun _ => Nat.not_lt.mp enough, fun isCompressed => (compressed isCompressed).elim⟩
    obtain ⟨fault, faults⟩ := remap_outside ipMap short
    refine ⟨fault, ?_⟩
    simp only [if_neg compressed, pure_ok, ok_bind, faults, error_bind]

end Packets

/-! ## Streams -/

/-- The packets of a stream that the assembler completes. -/
def packets (bufferSize : Nat) (stream : List UInt8) : List (List UInt8) :=
  if stream.length < 4 then []
  else if announced stream < 4 then packets bufferSize (stream.drop 4)
  else if bufferSize < announced stream then
    if stream.length < announced stream then [] else packets bufferSize (stream.drop (announced stream))
  else if stream.length < announced stream then []
  else stream.take (announced stream) :: packets bufferSize (stream.drop (announced stream))
termination_by stream.length
decreasing_by all_goals simp only [List.length_drop]; omega

theorem packets_sized {bufferSize : Nat} {stream packet : List UInt8} (member : packet ∈ packets bufferSize stream) :
    4 ≤ packet.length ∧ packet.length ≤ bufferSize := by
  induction size : stream.length using Nat.strong_induction_on generalizing stream with
  | _ n ih =>
    subst size
    have later : ∀ k, 0 < k → k ≤ stream.length → packet ∈ packets bufferSize (stream.drop k) →
        4 ≤ packet.length ∧ packet.length ≤ bufferSize := by
      intro k positive inside member
      exact ih (stream.drop k).length (by simp only [List.length_drop]; omega) member rfl
    rw [packets] at member
    split_ifs at member with short invalid large cut cut
    · cases member
    · exact later 4 (by decide) (by omega) member
    · cases member
    · exact later _ (by omega) (by omega) member
    · cases member
    · cases member with
      | head =>
          rw [List.length_take, Nat.min_eq_left (by omega)]
          omega
      | tail _ member => exact later _ (by omega) (by omega) member

/-- A parse comes to its end if each of the packets does. -/
theorem parse_ends_iff {frameOf : List UInt8 → Access (Except Error (List UInt8))} {bufferSize : Nat} (position : Nat)
    (stream : List UInt8) :
    (∃ ending, (parse frameOf bufferSize position stream).ending = .ok ending) ↔
      ∀ packet ∈ packets bufferSize stream, ∃ result, frameOf packet = .ok result := by
  induction size : stream.length using Nat.strong_induction_on generalizing stream position with
  | _ n ih =>
    subst size
    have later : ∀ k position, 0 < k → k ≤ stream.length →
        ((∃ ending, (parse frameOf bufferSize position (stream.drop k)).ending = .ok ending) ↔
          ∀ packet ∈ packets bufferSize (stream.drop k), ∃ result, frameOf packet = .ok result) := by
      intro k position positive inside
      exact ih (stream.drop k).length (by simp only [List.length_drop]; omega) position (stream.drop k) rfl
    rw [packets, parse]
    split_ifs with short invalid large cut cut
    · simp
    · exact later 4 _ (by decide) (by omega)
    · simp
    · exact later _ _ (by omega) (by omega)
    · simp
    · have rest := later (announced stream) (position + announced stream) (by omega) (by omega)
      simp only [List.forall_mem_cons]
      cases frameOf (stream.take (announced stream)) with
      | error fault => simp
      | ok result => simpa [Parsed.after] using rest

/-- A run without a fault, which stays in its buffers. Each frame is made of a packet of the
    stream, and is as long as it says if it was decompressed. -/
structure StaysSafe (ipConfig : IpConfig) (ipMap : IpMap) (stream : List UInt8) (run : Feeding × Option Fault) :
    Prop where
  runs : run.2 = none
  frames : ∀ at_ frame, (at_, .ok frame) ∈ run.1.events →
    ∃ packet, packet <:+ stream.take at_ ∧ at_ ≤ stream.length ∧
      FrameAssembler.packetFrame (some ipConfig) (some ipMap) packet = .ok (.ok frame) ∧
      (IsCompressed packet → announced frame = frame.length)

theorem packetFrame_announces {ipConfig : IpConfig} {ipMap : IpMap} {packet frame : List UInt8}
    (bounded : packet.length < 2 ^ 16)
    (emits : FrameAssembler.packetFrame (some ipConfig) (some ipMap) packet = .ok (.ok frame))
    (compressed : IsCompressed packet) : announced frame = frame.length := by
  have nonempty : packet ≠ [] := by
    rintro rfl
    cases emits
  have safe : Safe packet := by
    by_contra not_
    obtain ⟨fault, faults⟩ := packetFrame_unsafe nonempty ipConfig ipMap bounded not_
    rw [faults] at emits
    cases emits
  obtain ⟨result, isResult, total⟩ := packetFrame_safe nonempty ipConfig ipMap safe
  rw [emits] at isResult
  cases isResult
  exact total frame rfl compressed

/-- The assembler is safe on exactly the streams whose packets are. -/
theorem feedAll_safe_iff (maxPacketSize : UInt16) (ipConfig : IpConfig) (ipMap : IpMap) (stream : List UInt8)
    {assembler : FrameAssembler}
    (created : FrameAssembler.create maxPacketSize (some ipConfig) (some ipMap) = .ok assembler) :
    (∀ ks, StaysSafe ipConfig ipMap stream (feedAll stream ks ⟨assembler, 0, [], []⟩)) ↔
      ∀ packet ∈ packets maxPacketSize.toNat stream, Safe packet := by
  obtain ⟨start, config, map, size⟩ := create_follows created stream
  have ends := @parse_ends_iff (FrameAssembler.packetFrame assembler.ipConfig assembler.ipMap)
    assembler.bufferSize 0 stream
  rw [size, config, map] at ends
  constructor
  · intro staysSafe packet member
    let ks := List.replicate stream.length 1
    obtain ⟨follows, whole⟩ := (feedAll_follows ks start).1 (staysSafe ks).runs
    have position := whole (by simp [ks]) (by simp [ks])
    obtain ⟨pending, skip, -, -, parsed⟩ := follows.parsed
    rw [position, List.take_length, size, config, map] at parsed
    obtain ⟨long, bounded⟩ := packets_sized member
    obtain ⟨result, emits⟩ := ends.mp ⟨_, congrArg Parsed.ending parsed⟩ packet member
    by_contra not_
    have nonempty : packet ≠ [] := List.ne_nil_of_length_pos (by omega)
    obtain ⟨fault, faults⟩ :=
      packetFrame_unsafe nonempty ipConfig ipMap (lt_of_le_of_lt bounded maxPacketSize.toNat_lt) not_
    rw [faults] at emits
    cases emits
  · intro safe ks
    have ending := ends.mpr fun packet member => by
      obtain ⟨long, -⟩ := packets_sized member
      have nonempty : packet ≠ [] := List.ne_nil_of_length_pos (by omega)
      obtain ⟨result, emits, -⟩ := packetFrame_safe nonempty ipConfig ipMap (safe packet member)
      exact ⟨result, emits⟩
    constructor
    · cases running : (feedAll stream ks ⟨assembler, 0, [], []⟩).2 with
      | none => rfl
      | some fault =>
          have faulted := (feedAll_follows ks start).2 fault running
          rw [size, config, map] at faulted
          obtain ⟨_, isOk⟩ := ending
          rw [faulted] at isOk
          cases isOk
    · intro at_ frame reported
      have reports := feedAll_events_prefix ks start
      obtain ⟨first, length, place, inside, announces, emits⟩ := parse_frames 0 stream (reports.subset reported)
      rw [config, map] at emits
      refine ⟨(stream.drop first).take length, ?_, by omega, emits, packetFrame_announces ?_ emits⟩
      · rw [← place, Nat.zero_add, List.take_add]
        exact List.suffix_append _ _
      · rw [List.length_take, announces]
        exact lt_of_le_of_lt (Nat.min_le_left _ _) (UInt16.toNat_lt _)

theorem packets_exact {bufferSize : Nat} {packet : List UInt8} (announces : announced packet = packet.length)
    (long : 4 ≤ packet.length) (fits : packet.length ≤ bufferSize) : packets bufferSize packet = [packet] := by
  rw [packets, if_neg (by omega), if_neg (by omega), if_neg (by omega), if_neg (by omega), announces,
    List.take_length, List.drop_length, packets, if_pos (by decide)]

def identityMap : IpMap := ⟨0, 0, 0, 0⟩

def remappingAssembler : FrameAssembler :=
  ⟨some plainConfig, some identityMap, 0, 0, 0, 64, List.replicate 64 0⟩

/-- Nothing but the fixed part: a TCP packet with default values and no payload. -/
def elidedPacket : List UInt8 := [0x80, 0, 0, 6, 0x12, 0x34]

theorem feedAll_safe_elidedPacket :
    StaysSafe plainConfig identityMap elidedPacket (feedAll elidedPacket [1, 2, 3] ⟨remappingAssembler, 0, [], []⟩) := by
  have created : FrameAssembler.create 64 (some plainConfig) (some identityMap) = .ok remappingAssembler := rfl
  refine (feedAll_safe_iff 64 plainConfig identityMap elidedPacket created).mpr (fun packet member => ?_) [1, 2, 3]
  have one : packets (64 : UInt16).toNat elidedPacket = [elidedPacket] :=
    packets_exact (by decide) (by decide) (by decide)
  rw [one] at member
  cases List.mem_singleton.mp member
  decide

/-- Packets of four bytes: the addresses of one are read behind its end, and the fixed part
    of the other is not there. -/
theorem feedAll_shortPackets :
    ¬ StaysSafe plainConfig identityMap [0x45, 0, 0, 4]
      (feedAll [0x45, 0, 0, 4] [4] ⟨remappingAssembler, 0, [], []⟩) ∧
    ¬ StaysSafe plainConfig identityMap [0x80, 0, 0, 4]
      (feedAll [0x80, 0, 0, 4] [4] ⟨remappingAssembler, 0, [], []⟩) := by
  have outside : (feedAll [0x45, 0, 0, 4] [4] ⟨remappingAssembler, 0, [], []⟩).2 = some .outOfBounds := rfl
  have fails : (feedAll [0x80, 0, 0, 4] [4] ⟨remappingAssembler, 0, [], []⟩).2 = some .assertion := rfl
  constructor
  · intro safe
    cases outside.symm.trans safe.runs
  · intro safe
    cases fails.symm.trans safe.runs

end GoldenGate.Ipv4

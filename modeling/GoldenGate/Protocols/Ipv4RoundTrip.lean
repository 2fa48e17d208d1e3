import GoldenGate.Protocols.Ipv4Codec

/-! # A frame through the serializer and the assembler

A frame without a configuration comes back as it was. With one, the headers come back
as they were too, with new checksums, but for the length in a UDP header: the
decompressor takes the size of the header off the size of the payload instead of adding
it, so no UDP frame comes back.
-/

namespace GoldenGate.Ipv4

open Memory Bits

/-! ## Frames -/

/-- The IHL of a frame. -/
def ihlOf (frame : List UInt8) : Nat := (frame.getD 0 0 &&& 0x0F).toNat

/-- A 16-bit field of a frame. -/
def int16At (frame : List UInt8) (offset : Nat) : Nat :=
  (bytesToInt16Be (frame.getD offset 0) (frame.getD (offset + 1) 0)).toNat

/-- A frame with another value in a 16-bit field. -/
def patch (frame : List UInt8) (offset : Nat) (value : UInt16) : List UInt8 :=
  frame.take offset ++ bytesFromInt16Be value ++ frame.drop (offset + 2)

def IsUdp (frame : List UInt8) : Prop := frame.getD 9 0 = protocolUdp

instance (frame : List UInt8) : Decidable (IsUdp frame) :=
  inferInstanceAs (Decidable (frame.getD 9 0 = protocolUdp))

/-- An IPv4 frame with a complete header, and a complete UDP header where the protocol
    is UDP, whose lengths agree with its size. -/
structure WellFormed (frame : List UInt8) : Prop where
  version : frame.getD 0 0 >>> 4 = 4
  ihl : 5 ≤ ihlOf frame
  header : 4 * ihlOf frame ≤ frame.length
  total : announced frame = frame.length
  udp : IsUdp frame → 4 * ihlOf frame + udpHeaderSize ≤ frame.length ∧
    int16At frame (4 * ihlOf frame + 4) = frame.length - 4 * ihlOf frame

/-- The checksum of the IPv4 header of a frame. -/
def headerChecksum (frame : List UInt8) : UInt16 :=
  ~~~ ipv4Checksum ((patch frame 10 0).take (4 * ihlOf frame))

/-- A frame with the checksum of its header, and without a UDP checksum. -/
def restored (frame : List UInt8) : List UInt8 :=
  let frame' := patch frame 10 (headerChecksum frame)
  if IsUdp frame then patch frame' (4 * ihlOf frame + 6) 0 else frame'

theorem length_patch {frame : List UInt8} {offset : Nat} (value : UInt16)
    (inside : offset + 2 ≤ frame.length) : (patch frame offset value).length = frame.length := by
  simp only [patch, bytesFromInt16Be, List.length_append, List.length_take, List.length_cons,
    List.length_nil, List.length_drop]
  omega

theorem drop_patch {frame : List UInt8} {offset n : Nat} (value : UInt16)
    (inside : n ≤ frame.length) (behind : offset + 2 ≤ n) :
    (patch frame offset value).drop n = frame.drop n := by
  have front : (frame.take offset ++ bytesFromInt16Be value).length = offset + 2 := by
    simp only [bytesFromInt16Be, List.length_append, List.length_take, List.length_cons,
      List.length_nil]
    omega
  rw [patch, List.drop_append, front, List.drop_drop, List.drop_eq_nil_of_le (by omega),
    List.nil_append, Nat.add_sub_cancel' behind]

theorem patch_append {front : List UInt8} {n : Nat} (sized : front.length = n)
    (rest : List UInt8) (offset : Nat) (value : UInt16) :
    patch (front ++ rest) (n + offset) value = front ++ patch rest offset value := by
  subst sized
  simp only [patch, List.take_length_add_append, List.append_assoc, Nat.add_assoc,
    List.drop_length_add_append]

/-! ## Parsed headers -/

theorem word_split {n : Nat} {l : List UInt8} (long : n + 4 ≤ l.length) :
    ∃ b0 b1 b2 b3 rest, l = b0 :: b1 :: b2 :: b3 :: rest ∧ n ≤ rest.length := by
  match l, long with
  | b0 :: b1 :: b2 :: b3 :: rest, long => exact ⟨b0, b1, b2, b3, rest, rfl, by simpa using long⟩

/-- A byte is put together from its two fields. -/
theorem or_fields (b : UInt8) {high low : UInt8} {k : Nat}
    (isHigh : high.toNat = b.toNat / 2 ^ k * 2 ^ k) (isLow : low.toNat = b.toNat % 2 ^ k) :
    high ||| low = b := by
  rw [← UInt8.toNat_inj, UInt8.toNat_or, isHigh, isLow, ← Nat.shiftLeft_eq,
    Bytes.shiftLeft_or _ (Nat.mod_lt _ (Nat.two_pow_pos k)), Nat.div_add_mod']

theorem version_ihl (b : UInt8) : (b >>> 4) <<< 4 ||| (b &&& 0x0F) = b := by
  have small := b.toNat_lt
  apply @or_fields b _ _ 4
  · simp only [UInt8.toNat_shiftLeft, UInt8.toNat_shiftRight, Nat.shiftRight_eq_div_pow,
      Nat.shiftLeft_eq, UInt8.reduceToNat, Nat.reduceMod, Nat.reducePow]
    omega
  · simp only [UInt8.toNat_and, UInt8.reduceToNat]
    exact Bytes.and_mask _ 4

theorem dscp_ecn (b : UInt8) : (b >>> 2) <<< 2 ||| (b &&& 0x03 &&& 0x03) = b := by
  have small := b.toNat_lt
  apply @or_fields b _ _ 2
  · simp only [UInt8.toNat_shiftLeft, UInt8.toNat_shiftRight, Nat.shiftRight_eq_div_pow,
      Nat.shiftLeft_eq, UInt8.reduceToNat, Nat.reduceMod, Nat.reducePow]
    omega
  · simp only [UInt8.toNat_and, UInt8.reduceToNat, Nat.and_assoc, Nat.and_self]
    exact Bytes.and_mask _ 2

theorem toNat_fragment (b6 b7 : UInt8) :
    (bytesToInt16Be (b6 &&& 0x1F) b7).toNat = b6.toNat % 32 * 256 + b7.toNat := by
  rw [toNat_bytesToInt16Be, UInt8.toNat_and]
  exact congrArg (· * 256 + b7.toNat) (Bytes.and_mask b6.toNat 5)

theorem flags_fragment (b6 b7 : UInt8) :
    (b6 >>> 5) <<< 5 |||
      UInt8.ofNat (((bytesToInt16Be (b6 &&& 0x1F) b7).toNat >>> 8) &&& 0x1F) = b6 := by
  have small := b6.toNat_lt
  have small' := b7.toNat_lt
  apply @or_fields b6 _ _ 5
  · simp only [UInt8.toNat_shiftLeft, UInt8.toNat_shiftRight, Nat.shiftRight_eq_div_pow,
      Nat.shiftLeft_eq, UInt8.reduceToNat, Nat.reduceMod, Nat.reducePow]
    omega
  · have low : (b6.toNat % 32 * 256 + b7.toNat) >>> 8 &&& 0x1F = b6.toNat % 32 := by
      rw [Nat.shiftRight_eq_div_pow]
      refine (Bytes.and_mask _ 5).trans ?_
      omega
    rw [toNat_fragment, low, UInt8.toNat_ofNat']
    omega

/-- A complete header of a frame is parsed, and its bytes are those of the frame. -/
theorem parse_spec {frame : List UInt8} (version : frame.getD 0 0 >>> 4 = 4) (ihl : 5 ≤ ihlOf frame)
    (header : 4 * ihlOf frame ≤ frame.length) :
    ∃ ipHeader, PacketHeader.parse frame = .ok (.ok ipHeader) ∧
      ipHeader.version = 4 ∧ ipHeader.ihl.toNat = ihlOf frame ∧
      ipHeader.protocol = frame.getD 9 0 ∧ ipHeader.totalLength.toNat = announced frame ∧
      (∀ checksum, ipHeader.bytes checksum = (patch frame 10 checksum).take (4 * ihlOf frame)) ∧
      ipHeader.options.length = 4 * (ipHeader.ihl.toNat - 5) ∧
      ipHeader.dscp.toNat < 2 ^ 6 ∧ ipHeader.ecn.toNat < 2 ^ 2 ∧ ipHeader.flags.toNat < 2 ^ 3 ∧
      ipHeader.fragmentOffset.toNat < 2 ^ 13 := by
  obtain ⟨b0, b1, b2, b3, l1, rfl, long1⟩ := @word_split 16 frame (by omega)
  obtain ⟨b4, b5, b6, b7, l2, rfl, long2⟩ := @word_split 12 l1 (by omega)
  obtain ⟨b8, b9, b10, b11, l3, rfl, long3⟩ := @word_split 8 l2 (by omega)
  obtain ⟨b12, b13, b14, b15, l4, rfl, long4⟩ := @word_split 4 l3 (by omega)
  obtain ⟨b16, b17, b18, b19, rest, rfl, -⟩ := @word_split 0 l4 (by omega)
  simp only [ihlOf, List.getD_cons_zero] at *
  have notShort : ¬ (b0 &&& 0x0F) < headerMinIhl := by
    rw [UInt8.lt_iff_toNat_lt]
    exact Nat.not_lt.mpr ihl
  have enough : (b0 &&& 0x0F).toNat * 4 ≤ rest.length + 20 := by
    simp only [List.length_cons] at header
    omega
  simp only [PacketHeader.parse, load, List.getElem?_cons_zero, List.getElem?_cons_succ, ok_bind,
    version, notShort, List.length_cons, baseHeaderSize, pure_ok, false_or]
  rw [if_neg (by omega), if_neg (by simp), if_neg (by omega)]
  refine ⟨_, rfl, rfl, rfl, rfl, rfl, ?_, ?_, ?_, ?_, ?_, ?_⟩
  · intro checksum
    have version' : (4 : UInt8) <<< 4 ||| (b0 &&& 0x0F) = b0 := by
      have same := version_ihl b0
      rwa [version] at same
    have options : (if (b0 &&& 0x0F) > 5 then
        ((rest.take (((b0 &&& 0x0F).toNat - 5) * 4)).take (4 * ((b0 &&& 0x0F).toNat - 5)))
        else []) = rest.take (4 * ((b0 &&& 0x0F).toNat - 5)) := by
      split
      · rw [List.take_take, Nat.mul_comm, Nat.min_self]
      · next bare =>
          have none : (b0 &&& 0x0F).toNat ≤ 5 := by
            rw [gt_iff_lt, UInt8.lt_iff_toNat_lt] at bare
            exact Nat.not_lt.mp bare
          rw [Nat.sub_eq_zero_of_le none, Nat.mul_zero, List.take_zero]
    have low : UInt8.ofNat (bytesToInt16Be (b6 &&& 0x1F) b7).toNat = b7 := by
      have small7 := b7.toNat_lt
      rw [← UInt8.toNat_inj, UInt8.toNat_ofNat', toNat_fragment]
      omega
    have size : 4 * (b0 &&& 0x0F).toNat = 4 * ((b0 &&& 0x0F).toNat - 5) + 20 := by omega
    simp only [PacketHeader.bytes, version', dscp_ecn, flags_fragment, low, bytesFromInt16Be_to,
      bytesFromInt32Be_to, List.drop_succ_cons, List.drop_zero, options, size, patch]
    simp only [List.cons_append, List.nil_append, bytesFromInt16Be, List.take_succ_cons,
      List.take_zero]
  · simp only [List.drop_succ_cons, List.drop_zero, List.length_take]
    omega
  · have small1 := b1.toNat_lt
    simp only [UInt8.toNat_shiftRight, UInt8.reduceToNat, Nat.reduceMod, Nat.shiftRight_eq_div_pow]
    omega
  · exact Nat.and_lt_two_pow _ (by decide)
  · have small6 := b6.toNat_lt
    simp only [UInt8.toNat_shiftRight, UInt8.reduceToNat, Nat.reduceMod, Nat.shiftRight_eq_div_pow]
    omega
  · have small7 := b7.toNat_lt
    simp only [toNat_fragment]
    omega

/-- The same for a UDP header. -/
theorem parseUdp_spec {u0 u1 u2 u3 u4 u5 u6 u7 : UInt8} (payload : List UInt8) :
    ∃ udpHeader,
      UdpPacketHeader.parse (u0 :: u1 :: u2 :: u3 :: u4 :: u5 :: u6 :: u7 :: payload) =
        .ok (.ok udpHeader) ∧
      udpHeader.length = bytesToInt16Be u4 u5 ∧
      ∀ length, { udpHeader with length := length, checksum := 0 }.bytes =
        u0 :: u1 :: u2 :: u3 :: (bytesFromInt16Be length ++ [0, 0]) := by
  refine ⟨⟨bytesToInt16Be u0 u1, bytesToInt16Be u2 u3, bytesToInt16Be u4 u5, bytesToInt16Be u6 u7⟩,
    ?_, rfl, fun length => ?_⟩
  · simp [UdpPacketHeader.parse, udpHeaderSize, load]
  · simp only [UdpPacketHeader.bytes, bytesFromInt16Be_to, List.cons_append, List.nil_append]
    rfl

/-! ## Emission -/

/-- The payload fills what is left of the output. -/
theorem copy_payload (done packet : List UInt8) {size offset : Nat} (at_ : done.length = offset) :
    (if packet.length > size then do
        let buffer ← store (done ++ List.replicate (packet.length - size) 0) offset
          (packet.drop size)
        (.ok (.ok buffer) : Access (Except Error (List UInt8)))
      else .ok (.ok (done ++ List.replicate (packet.length - size) 0))) =
      .ok (.ok (done ++ packet.drop size)) := by
  subst at_
  by_cases more : packet.length > size
  · have copied := store_fresh done (packet.drop size) (packet.length - size) (by simp)
    rw [if_pos more, copied, ok_bind, List.length_drop, Nat.sub_self, List.replicate_zero,
      List.append_nil]
  · rw [if_neg more, Nat.sub_eq_zero_of_le (by omega), List.drop_eq_nil_of_le (by omega)]
    rfl

/-- The frame is put together from the headers and the payload. -/
theorem decompressAndEmitPacket_spec {packet : List UInt8} {ipConfig : IpConfig}
    {ipHeader : PacketHeader} {udpHeader : UdpPacketHeader} {size : Nat}
    (decompresses : decompressHeaders packet ipConfig = .ok (.ok (ipHeader, udpHeader, size)))
    (ihlGe : 5 ≤ ipHeader.ihl.toNat) (ihlLe : ipHeader.ihl.toNat ≤ 15)
    (sized : ∀ checksum, (ipHeader.bytes checksum).length = 4 * ipHeader.ihl.toNat)
    (inside : size ≤ packet.length) (smaller : size ≤ headerSize ipHeader)
    (total : ipHeader.totalLength.toNat = headerSize ipHeader + (packet.length - size)) :
    FrameAssembler.decompressAndEmitPacket (some ipConfig) packet =
      .ok (.ok (ipHeader.bytes (~~~ ipv4Checksum (ipHeader.bytes 0)) ++
        (if ipHeader.protocol = protocolUdp then udpHeader.bytes else []) ++
        packet.drop size)) := by
  have fits : size ≤ ipHeader.totalLength.toNat := by omega
  have atLeast : ¬ (ipHeader.ihl < headerMinIhl ∨ ipHeader.ihl > headerMaxIhl) := by
    rw [gt_iff_lt, UInt8.lt_iff_toNat_lt, UInt8.lt_iff_toNat_lt]
    simp only [headerMinIhl, headerMaxIhl, UInt8.reduceToNat]
    omega
  have header := store_fresh [] (ipHeader.bytes (~~~ ipv4Checksum (ipHeader.bytes 0)))
    ipHeader.totalLength.toNat (by
      rw [sized, total, headerSize]
      omega)
  simp only [List.nil_append, List.length_nil, sized] at header
  simp only [FrameAssembler.decompressAndEmitPacket, decompresses, ok_bind, assert_of inside,
    assert_of fits, PacketHeader.serialize, atLeast, if_false, lt_irrefl, if_true, header, pure_ok]
  generalize bytesEq : ipHeader.bytes (~~~ ipv4Checksum (ipHeader.bytes 0)) = bytes
  have bytesSize : bytes.length = 4 * ipHeader.ihl.toNat := by rw [← bytesEq, sized]
  unfold headerSize at total
  by_cases isUdp : ipHeader.protocol = protocolUdp
  · simp only [if_pos isUdp] at total ⊢
    have room : ipHeader.totalLength.toNat - 4 * ipHeader.ihl.toNat =
        udpHeaderSize + (packet.length - size) := by omega
    have udp := store_fresh bytes udpHeader.bytes (udpHeaderSize + (packet.length - size)) (by
      simp [UdpPacketHeader.bytes, bytesFromInt16Be, udpHeaderSize])
    have udpSize : udpHeader.bytes.length = udpHeaderSize := rfl
    rw [udpSize, Nat.add_sub_cancel_left] at udp
    rw [room, UdpPacketHeader.serialize, ← bytesSize, udp, ok_bind, List.append_assoc]
    simp only [← List.append_assoc]
    exact copy_payload (bytes ++ udpHeader.bytes) packet (by rw [List.length_append, udpSize])
  · simp only [if_neg isUdp] at total ⊢
    have room : ipHeader.totalLength.toNat - 4 * ipHeader.ihl.toNat = packet.length - size := by
      omega
    rw [room, List.append_nil]
    exact copy_payload bytes packet bytesSize

/-! ## Compressed packets -/

/-- The mark of a compressed packet is in its first byte. -/
theorem marked {flags : Nat} (mark : flags &&& 0x8000 = 0x8000) :
    (UInt8.ofNat (flags >>> 8)).toNat &&& packetIsCompressed ≠ 0 := by
  have bit : flags.testBit 15 = true := by
    by_contra clear
    have zero : flags &&& 2 ^ 15 = 0 := by
      rw [Nat.and_two_pow, Bool.not_eq_true _ |>.mp clear]
      rfl
    rw [show (0x8000 : Nat) = 2 ^ 15 from rfl, zero] at mark
    cases mark
  have bit' : (UInt8.ofNat (flags >>> 8)).toNat.testBit 7 = true := by
    rw [UInt8.toNat_ofNat', Nat.testBit_mod_two_pow, Nat.testBit_shiftRight, bit]
    rfl
  rw [show packetIsCompressed = 2 ^ 7 from rfl, Nat.and_two_pow, bit']
  decide

/-- The packet the serializer makes of headers and a payload. -/
theorem compressed_packet {ipHeader : PacketHeader} {udpHeader : Option UdpPacketHeader}
    (inRange : InRange ipHeader udpHeader) (ipConfig : IpConfig) {workspace : List UInt8}
    (sized : workspace.length = FrameSerializer.workspaceSize) (version : ipHeader.version = 4)
    {payload : List UInt8} (total : ipHeader.totalLength.toNat = headerSize ipHeader + payload.length)
    (bytes : ∀ checksum, (ipHeader.bytes checksum).length = 4 * ipHeader.ihl.toNat) :
    ∃ workspace' size packet,
      compressHeaders ipHeader udpHeader ipConfig workspace = .ok (workspace', size) ∧
      packet = workspace'.take size ++ payload ∧
      announced packet = packet.length ∧ 4 ≤ packet.length ∧
      (workspace'.take size).length = size ∧ size ≤ headerSize ipHeader ∧
      FrameAssembler.packetFrame (some ipConfig) none packet =
        .ok (.ok (ipHeader.bytes (~~~ ipv4Checksum (ipHeader.bytes 0)) ++
          (if ipHeader.protocol = protocolUdp then
            (decompressedUdp ipHeader payload.length udpHeader).bytes else []) ++ payload)) := by
  obtain ⟨tail, compresses, content, tailSize⟩ := compressHeaders_spec inRange ipConfig sized
  have smaller := compressed_le inRange ipConfig
  have fit := headerBits_fit inRange ipConfig
  have mark : packetIsCompressed <<< 8 &&& 0x8000 = packetIsCompressed <<< 8 := by decide
  have cuts := headerFlags_cuts mark ipHeader udpHeader ipConfig
  have small := @headerFlags_lt ipHeader udpHeader ipConfig _ mark
  have marks : headerFlags (packetIsCompressed <<< 8) ipHeader udpHeader ipConfig &&& 0x8000 =
      packetIsCompressed <<< 8 := headerFlags_and mark (by simp [headerParts])
  generalize headerFlags (packetIsCompressed <<< 8) ipHeader udpHeader ipConfig = flags at *
  generalize kEq : ((headerBits ipHeader udpHeader ipConfig).length + 7) / 8 = k at *
  have few : k ≤ 64 := by omega
  have frontSize : (tail.take k).length = k := by
    rw [List.length_take, tailSize, Nat.min_eq_left few]
  have content' : headerBits ipHeader udpHeader ipConfig <+: bytesBits (tail.take k) := by
    apply List.prefix_of_prefix_length_le content (bytesBits_take tail k)
    rw [length_bytesBits, frontSize]
    omega
  rw [total, Nat.add_sub_cancel_left] at compresses
  generalize lengthEq : compressionFixedSize + k + payload.length = length at compresses
  have decompresses := @decompressHeaders_spec _ _ inRange ipConfig flags (UInt8.ofNat (length >>> 8))
    (UInt8.ofNat length) (tail.take k) payload small cuts content' (by rw [frontSize, kEq])
  rw [frontSize, ← List.append_assoc] at decompresses
  obtain ⟨head, isHead, headSize⟩ : ∃ head, head = [UInt8.ofNat (flags >>> 8), UInt8.ofNat flags,
      UInt8.ofNat (length >>> 8), UInt8.ofNat length] ++ bytesFromInt16Be ipHeader.identification ∧
      head.length = compressionFixedSize := ⟨_, rfl, rfl⟩
  rw [← isHead] at compresses decompresses
  have taken : (head ++ tail).take (compressionFixedSize + k) = head ++ tail.take k := by
    rw [← headSize, List.take_length_add_append]
  have takenSize : (head ++ tail.take k).length = compressionFixedSize + k := by
    rw [List.length_append, frontSize, headSize]
  have whole : (head ++ tail.take k ++ payload).length = length := by
    rw [List.length_append, takenSize, lengthEq]
  have fits : length < 2 ^ 16 := by
    have bound := ipHeader.totalLength.toNat_lt
    omega
  refine ⟨_, _, _, compresses, rfl, ?_, ?_, ?_, smaller, ?_⟩
  · rw [taken, whole, isHead]
    refine (toNat_bytesToInt16Be _ _).trans ?_
    simp only [List.getD_cons_succ, List.getD_cons_zero, List.cons_append,
      UInt8.toNat_ofNat']
    omega
  · rw [taken, whole]
    simp only [compressionFixedSize] at lengthEq
    omega
  · rw [taken, takenSize]
  · have same : decompressedIp ipHeader payload.length = { ipHeader with checksum := 0 } := by
      rw [decompressedIp, ← total, UInt16.ofNat_toNat, version]
    rw [same] at decompresses
    have emits := @decompressAndEmitPacket_spec _ _ { ipHeader with checksum := 0 } _ _ decompresses
      inRange.ihl_ge inRange.ihl_le bytes (by rw [whole]; omega) smaller (by
        rw [whole, ← lengthEq, Nat.add_sub_cancel_left]
        exact total)
    have first : load (head ++ tail.take k ++ payload) 0 = .ok (UInt8.ofNat (flags >>> 8)) := by
      rw [isHead]
      rfl
    have isMarked := marked marks
    rw [taken]
    simp only [FrameAssembler.packetFrame, first, ok_bind, if_pos isMarked, emits, pure_ok]
    rw [← takenSize, List.drop_left]
    rfl

/-! ## Serialized frames -/

/-- The header with the new checksum, and the rest of the frame. -/
theorem patch_checksum {frame : List UInt8} (wellFormed : WellFormed frame) (checksum : UInt16) :
    patch frame 10 checksum =
      (patch frame 10 checksum).take (4 * ihlOf frame) ++ frame.drop (4 * ihlOf frame) := by
  have ihl := wellFormed.ihl
  have header := wellFormed.header
  rw [← @drop_patch frame 10 (4 * ihlOf frame) checksum header (by omega), List.take_append_drop]

theorem restored_udp {frame : List UInt8} (wellFormed : WellFormed frame) (isUdp : IsUdp frame)
    {u0 u1 u2 u3 u4 u5 u6 u7 : UInt8} {payload : List UInt8}
    (behind : frame.drop (4 * ihlOf frame) =
      u0 :: u1 :: u2 :: u3 :: u4 :: u5 :: u6 :: u7 :: payload) :
    restored frame = (patch frame 10 (headerChecksum frame)).take (4 * ihlOf frame) ++
      u0 :: u1 :: u2 :: u3 :: u4 :: u5 :: 0 :: 0 :: payload := by
  have ihl := wellFormed.ihl
  have header := wellFormed.header
  have frontSize : ((patch frame 10 (headerChecksum frame)).take (4 * ihlOf frame)).length =
      4 * ihlOf frame := by
    rw [List.length_take, length_patch _ (by omega), Nat.min_eq_left header]
  have moved := patch_append frontSize (frame.drop (4 * ihlOf frame)) 6 0
  rw [← patch_checksum wellFormed, behind] at moved
  rw [restored, if_pos isUdp, moved]
  rfl

theorem notFull {ring : RingBuffer} (wellFormed : ring.WellFormed) {n : Nat}
    (space : n + 2 ≤ ring.getSpace) : ¬ n ≥ ring.size := by
  have inLt := wellFormed.in_lt
  have outLt := wellFormed.out_lt
  unfold RingBuffer.getSpace at space
  split at space <;> omega

/-- A frame whose headers are parsed becomes one packet in the ring buffer. -/
theorem serializeFrame_packet {frame : List UInt8} {serializer : FrameSerializer}
    {ipConfig : IpConfig} (config : serializer.ipConfig = some ipConfig)
    (sized : serializer.workspace.length = FrameSerializer.workspaceSize) {ring : RingBuffer}
    (ringWellFormed : ring.WellFormed) (space : frame.length + 2 ≤ ring.getSpace)
    {ipHeader : PacketHeader} {udpHeader : Option UdpPacketHeader}
    (parses : PacketHeader.parse frame = .ok (.ok ipHeader))
    (parsesUdp : FrameSerializer.parseUdp ipHeader frame = .ok (.ok udpHeader))
    (inRange : InRange ipHeader udpHeader) (version : ipHeader.version = 4)
    (total : ipHeader.totalLength.toNat = frame.length)
    (bytes : ∀ checksum, (ipHeader.bytes checksum).length = 4 * ipHeader.ihl.toNat) :
    ∃ serializer' ring' packet,
      serializer.serializeFrame frame ring = .ok (serializer', ring', .ok ()) ∧
      ring'.contents = ring.contents ++ packet ∧
      announced packet = packet.length ∧ 4 ≤ packet.length ∧ packet.length ≤ frame.length ∧
      (∃ workspace size, compressHeaders ipHeader udpHeader ipConfig serializer.workspace = .ok (workspace, size) ∧
        (workspace.take size).length = size ∧ packet = workspace.take size ++ frame.drop (headerSize ipHeader)) ∧
      FrameAssembler.packetFrame (some ipConfig) none packet =
        .ok (.ok (ipHeader.bytes (~~~ ipv4Checksum (ipHeader.bytes 0)) ++
          (if ipHeader.protocol = protocolUdp then
            (decompressedUdp ipHeader (frame.length - headerSize ipHeader) udpHeader).bytes
            else []) ++
          frame.drop (headerSize ipHeader))) := by
  have inside := inRange.total
  have roomy := notFull ringWellFormed space
  have complete : ¬ frame.length < 4 * ipHeader.ihl.toNat := by
    unfold headerSize at inside
    omega
  have payloadSize : (frame.drop (headerSize ipHeader)).length =
      frame.length - headerSize ipHeader := List.length_drop
  obtain ⟨workspace, size, packet, compresses, isPacket, announces, long, isSize, smaller, emits⟩ :=
    @compressed_packet _ _ inRange ipConfig _ sized version (frame.drop (headerSize ipHeader))
      (by omega) bytes
  have packetSize : packet.length =
      (workspace.take size).length + (frame.length - headerSize ipHeader) := by
    rw [isPacket, List.length_append, payloadSize]
  obtain ⟨ring1, writes1, formed1, -, space1, contents1⟩ :=
    RingBuffer.write_spec ringWellFormed (workspace.take size)
  obtain ⟨ring2, writes2, -, -, -, contents2⟩ :=
    RingBuffer.write_spec formed1 (frame.drop (headerSize ipHeader))
  rw [List.take_of_length_le (by omega)] at contents1 contents2
  refine ⟨{ serializer with workspace := workspace }, ring2, packet, ?_, ?_, announces, long,
    by omega, ⟨workspace, size, compresses, isSize, isPacket⟩, ?_⟩
  · have tooFar : ¬ frame.length + 2 > ring.getSpace := by omega
    simp only [FrameSerializer.serializeFrame, roomy, tooFar, config, parses, complete, parsesUdp,
      if_false, ok_bind, compresses, writes1, pure_ok]
    rw [headerSize] at writes2
    rw [writes2]
    rfl
  · rw [contents2, contents1, isPacket, List.append_assoc]
  · rw [emits, payloadSize]

/-- The length the decompressor finds is never the length of the UDP packet. -/
theorem wrong_length {payloadSize : Nat} {length : UInt16}
    (whole : length.toNat = payloadSize + udpHeaderSize) :
    UInt16.ofInt ((payloadSize : Int) - (udpHeaderSize : Int)) ≠ length := by
  intro same
  have small := length.toNat_lt
  rw [← UInt16.toNat_inj, UInt16.ofInt, UInt16.toNat_ofNat', whole] at same
  simp only [udpHeaderSize] at same whole
  omega

/-- The serializer makes one packet of a frame, of at most its size. The assembler makes
    the frame of it again, unless there is a UDP header. -/
theorem serializeFrame_compressed {frame : List UInt8} (wellFormed : WellFormed frame)
    {serializer : FrameSerializer} {ipConfig : IpConfig}
    (config : serializer.ipConfig = some ipConfig)
    (sized : serializer.workspace.length = FrameSerializer.workspaceSize) {ring : RingBuffer}
    (ringWellFormed : ring.WellFormed) (space : frame.length + 2 ≤ ring.getSpace) :
    ∃ serializer' ring' packet emitted,
      serializer.serializeFrame frame ring = .ok (serializer', ring', .ok ()) ∧
      ring'.contents = ring.contents ++ packet ∧
      announced packet = packet.length ∧ 4 ≤ packet.length ∧ packet.length ≤ frame.length ∧
      FrameAssembler.packetFrame (some ipConfig) none packet = .ok (.ok emitted) ∧
      (emitted = restored frame ↔ ¬ IsUdp frame) := by
  obtain ⟨ipHeader, parses, version, ihl, protocol, total, bytes, options, dscp, ecn, flags,
    fragmentOffset⟩ := parse_spec wellFormed.version wellFormed.ihl wellFormed.header
  have header := wellFormed.header
  have ihlGe := wellFormed.ihl
  have ihlLe : ihlOf frame ≤ 15 := Nat.and_le_right
  have bytesSize : ∀ checksum, (ipHeader.bytes checksum).length = 4 * ipHeader.ihl.toNat := by
    intro checksum
    rw [bytes, List.length_take, length_patch _ (by omega), ihl, Nat.min_eq_left header]
  rw [wellFormed.total] at total
  have front : ipHeader.bytes (~~~ ipv4Checksum (ipHeader.bytes 0)) =
      (patch frame 10 (headerChecksum frame)).take (4 * ihlOf frame) := by
    rw [bytes, bytes, headerChecksum]
  by_cases isUdp : IsUdp frame
  · have udpProtocol : ipHeader.protocol = protocolUdp := protocol.trans isUdp
    have size : headerSize ipHeader = 4 * ihlOf frame + 8 := by
      rw [headerSize, if_pos udpProtocol, ihl, udpHeaderSize]
    obtain ⟨complete, udpLength⟩ := wellFormed.udp isUdp
    rw [udpHeaderSize] at complete
    obtain ⟨u0, u1, u2, u3, l, behind, long⟩ :=
      @word_split 4 (frame.drop (4 * ihlOf frame)) (by rw [List.length_drop]; omega)
    obtain ⟨u4, u5, u6, u7, payload, rfl, -⟩ := @word_split 0 l long
    have payloadEq : frame.drop (4 * ihlOf frame + 8) = payload := by
      rw [← List.drop_drop, behind]
      rfl
    have udpLength' : (bytesToInt16Be u4 u5).toNat = frame.length - 4 * ihlOf frame := by
      have at4 : ∀ k, frame.getD (4 * ihlOf frame + k) 0 = (frame.drop (4 * ihlOf frame)).getD k 0 := by
        intro k
        simp [List.getD_eq_getElem?_getD, List.getElem?_drop]
      rw [← udpLength, int16At, Nat.add_assoc, at4, at4, behind]
      rfl
    obtain ⟨udpHeader, parsesUdp, length, udpBytes⟩ := @parseUdp_spec u0 u1 u2 u3 u4 u5 u6 u7 payload
    have parsesUdp : FrameSerializer.parseUdp ipHeader frame = .ok (.ok (some udpHeader)) := by
      simp only [FrameSerializer.parseUdp, udpProtocol, if_true, ihl, udpHeaderSize,
        Nat.not_lt.mpr complete, if_false, behind, parsesUdp, ok_bind]
      rfl
    have inRange : InRange ipHeader (some udpHeader) :=
      { ihl_ge := by omega
        ihl_le := by omega
        options := options
        dscp := dscp
        ecn := ecn
        flags := flags
        fragmentOffset := fragmentOffset
        udp := by simp [udpProtocol]
        total := by omega }
    obtain ⟨serializer', ring', packet, serializes, contents, announces, long, small, -, emits⟩ :=
      serializeFrame_packet config sized ringWellFormed space parses parsesUdp inRange version total
        bytesSize
    refine ⟨serializer', ring', packet, _, serializes, contents, announces, long, small, emits, ?_⟩
    -- the length follows from the total length, so it was left out
    have follows : ¬ 4 * ipHeader.ihl.toNat + udpHeader.length.toNat ≠
        ipHeader.totalLength.toNat := by
      rw [length, udpLength', ihl, total]
      omega
    simp only [decompressedUdp, if_neg follows, if_pos udpProtocol, udpBytes, front, size, payloadEq,
      restored_udp wellFormed isUdp behind, isUdp, not_true_eq_false, iff_false, List.append_assoc,
      List.append_cancel_left_eq, List.cons_append, List.nil_append, bytesFromInt16Be,
      List.cons.injEq, true_and, and_true]
    rintro ⟨high, low⟩
    apply @wrong_length (frame.length - (4 * ihlOf frame + 8)) (bytesToInt16Be u4 u5)
    · rw [udpLength', udpHeaderSize]
      omega
    · rw [← high, ← low, bytesToInt16Be_from]
  · have otherProtocol : ¬ ipHeader.protocol = protocolUdp := by
      rw [protocol]
      exact isUdp
    have size : headerSize ipHeader = 4 * ihlOf frame := by
      rw [headerSize, if_neg otherProtocol, ihl, Nat.add_zero]
    have inRange : InRange ipHeader none :=
      { ihl_ge := by omega
        ihl_le := by omega
        options := options
        dscp := dscp
        ecn := ecn
        flags := flags
        fragmentOffset := fragmentOffset
        udp := by simp [otherProtocol]
        total := by omega }
    have parsesUdp : FrameSerializer.parseUdp ipHeader frame = .ok (.ok none) := by
      simp [FrameSerializer.parseUdp, otherProtocol]
    obtain ⟨serializer', ring', packet, serializes, contents, announces, long, small, -, emits⟩ :=
      serializeFrame_packet config sized ringWellFormed space parses parsesUdp inRange version total
        bytesSize
    refine ⟨serializer', ring', packet, _, serializes, contents, announces, long, small, emits, ?_⟩
    rw [if_neg otherProtocol, List.append_nil, front, size, ← patch_checksum wellFormed, restored,
      if_neg isUdp]
    simp [isUdp]

/-- Without a configuration, the frame is copied as it is. -/
theorem serializeFrame_copies (frame : List UInt8) {serializer : FrameSerializer} (config : serializer.ipConfig = none)
    {ring : RingBuffer} (ringWellFormed : ring.WellFormed) (space : frame.length + 2 ≤ ring.getSpace) :
    ∃ ring', serializer.serializeFrame frame ring = .ok (serializer, ring', .ok ()) ∧
      ring'.contents = ring.contents ++ frame := by
  have roomy := notFull ringWellFormed space
  have enough : ¬ frame.length + 2 > ring.getSpace := by omega
  obtain ⟨ring', writes, -, -, -, contents⟩ := RingBuffer.write_spec ringWellFormed frame
  rw [List.take_of_length_le (by omega)] at contents
  refine ⟨ring', ?_, contents⟩
  simp only [FrameSerializer.serializeFrame, roomy, enough, config, if_false, writes, ok_bind, pure_ok]

/-- Without a configuration the frame is its own packet. -/
theorem serializeFrame_plain {frame : List UInt8} (wellFormed : WellFormed frame)
    {serializer : FrameSerializer} (config : serializer.ipConfig = none) {ring : RingBuffer}
    (ringWellFormed : ring.WellFormed) (space : frame.length + 2 ≤ ring.getSpace) :
    ∃ serializer' ring',
      serializer.serializeFrame frame ring = .ok (serializer', ring', .ok ()) ∧
      ring'.contents = ring.contents ++ frame ∧
      FrameAssembler.packetFrame none none frame = .ok (.ok frame) := by
  obtain ⟨ring', serializes, contents⟩ := serializeFrame_copies frame config ringWellFormed space
  refine ⟨serializer, ring', serializes, contents, ?_⟩
  have version := wellFormed.version
  have ihl := wellFormed.ihl
  have header := wellFormed.header
  obtain ⟨b0, b1, b2, b3, rest, rfl, -⟩ := @word_split 0 frame (by omega)
  have plain : ¬ b0.toNat &&& packetIsCompressed ≠ 0 := by
    have high := congrArg UInt8.toNat version
    simp only [List.getD_cons_zero, UInt8.toNat_shiftRight, UInt8.reduceToNat, Nat.reduceMod,
      Nat.shiftRight_eq_div_pow] at high
    have bit : b0.toNat.testBit 7 = false := Nat.testBit_lt_two_pow (by omega)
    rw [show packetIsCompressed = 2 ^ 7 from rfl, Nat.and_two_pow, bit]
    simp
  have first : load (b0 :: b1 :: b2 :: b3 :: rest) 0 = .ok b0 := rfl
  simp only [FrameAssembler.packetFrame, first, ok_bind, plain, if_false, pure_ok]

/-- One packet, fed in pieces of any sizes, is one frame. -/
theorem feedAll_packet {assembler : FrameAssembler} {packet frame : List UInt8}
    (idle : Keeps assembler [] 0)
    (announces : announced packet = packet.length) (long : 4 ≤ packet.length)
    (fits : packet.length ≤ assembler.bufferSize)
    (emits : FrameAssembler.packetFrame assembler.ipConfig assembler.ipMap packet =
      .ok (.ok frame))
    {ks : List Nat} (positive : ∀ k ∈ ks, 0 < k) (enough : packet.length ≤ ks.length) :
    let run := feedAll packet ks ⟨assembler, 0, [], []⟩
    run.2 = none ∧ run.1.events = [(packet.length, .ok frame)] ∧ run.1.dropped = [] := by
  intro run
  have start : Follows assembler packet ⟨assembler, 0, [], []⟩ :=
    { same := ⟨rfl, rfl, rfl⟩
      inside := Nat.zero_le _
      parsed := ⟨[], 0, idle, le_rfl, parse_short (by simp) 0⟩ }
  have parsed := @parse_exact (FrameAssembler.packetFrame assembler.ipConfig assembler.ipMap)
    assembler.bufferSize packet 0 (by omega) (by omega) announces.symm
  rw [emits, Nat.zero_add] at parsed
  obtain ⟨runs, faults⟩ := feedAll_follows ks start
  cases ending : run.2 with
  | some fault =>
      have faulted := faults fault ending
      rw [parsed] at faulted
      cases congrArg Parsed.ending faulted
  | none =>
      obtain ⟨follows, ends⟩ := runs ending
      obtain ⟨pending, skip, -, -, consumed⟩ := follows.parsed
      rw [ends positive (by simpa using enough), List.take_length, parsed] at consumed
      exact ⟨rfl, (congrArg Parsed.events consumed).symm, (congrArg Parsed.dropped consumed).symm⟩

/-! ## The round trip -/

/-- The frame that has to come back: the header was compressed if there is a
    configuration. -/
def expectedFrame (ipConfig : Option IpConfig) (frame : List UInt8) : List UInt8 :=
  if ipConfig.isSome then restored frame else frame

/-- The serializer puts bytes into the ring buffer from which the assembler, fed with
    pieces of any sizes, makes one frame: the expected one. -/
def RoundTrips (serializer : FrameSerializer) (ring : RingBuffer) (assembler : FrameAssembler)
    (frame : List UInt8) : Prop :=
  ∃ serializer' ring' bytes,
    serializer.serializeFrame frame ring = .ok (serializer', ring', .ok ()) ∧
    ring'.contents = ring.contents ++ bytes ∧
    ∀ ks : List Nat, (∀ k ∈ ks, 0 < k) → bytes.length ≤ ks.length →
      let run := feedAll bytes ks ⟨assembler, 0, [], []⟩
      run.2 = none ∧ run.1.dropped = [] ∧
      run.1.events = [(bytes.length, .ok (expectedFrame serializer.ipConfig frame))]

section RoundTrip

variable {serializer : FrameSerializer} {ring : RingBuffer} {assembler : FrameAssembler}
  {frame : List UInt8}

theorem roundTrips_plain (wellFormed : WellFormed frame) (plain : serializer.ipConfig = none)
    (ringWellFormed : ring.WellFormed) (space : frame.length + 2 ≤ ring.getSpace)
    (idle : Keeps assembler [] 0) (config : assembler.ipConfig = serializer.ipConfig)
    (noMap : assembler.ipMap = none) (fits : frame.length ≤ assembler.bufferSize) :
    RoundTrips serializer ring assembler frame := by
  obtain ⟨serializer', ring', serializes, contents, emits⟩ :=
    serializeFrame_plain wellFormed plain ringWellFormed space
  have ihl := wellFormed.ihl
  have header := wellFormed.header
  have emits : FrameAssembler.packetFrame assembler.ipConfig assembler.ipMap frame =
      .ok (.ok frame) := by
    rw [config, plain, noMap]
    exact emits
  refine ⟨serializer', ring', frame, serializes, contents, ?_⟩
  intro ks positive enough
  obtain ⟨runs, events, dropped⟩ :=
    feedAll_packet idle wellFormed.total (by omega) fits emits positive enough
  exact ⟨runs, dropped, by simpa [expectedFrame, plain] using events⟩

theorem roundTrips_compressed_iff (wellFormed : WellFormed frame) {ipConfig : IpConfig}
    (compressed : serializer.ipConfig = some ipConfig)
    (workspace : serializer.workspace.length = FrameSerializer.workspaceSize)
    (ringWellFormed : ring.WellFormed) (space : frame.length + 2 ≤ ring.getSpace)
    (idle : Keeps assembler [] 0) (config : assembler.ipConfig = serializer.ipConfig)
    (noMap : assembler.ipMap = none) (fits : frame.length ≤ assembler.bufferSize) :
    RoundTrips serializer ring assembler frame ↔ ¬ IsUdp frame := by
  obtain ⟨serializer', ring', packet, emitted, serializes, contents, announces, long, small,
    emits, restores⟩ :=
    serializeFrame_compressed wellFormed compressed workspace ringWellFormed space
  rw [← compressed, ← noMap, ← config] at emits
  have feeds := @feedAll_packet assembler packet emitted idle announces long (by omega) emits
  have expected : expectedFrame serializer.ipConfig frame = restored frame := by
    rw [expectedFrame, compressed, Option.isSome_some, if_pos rfl]
  constructor
  · rintro ⟨serializer2, ring2, bytes, serializes2, contents2, back⟩
    rw [serializes] at serializes2
    cases serializes2
    obtain rfl : bytes = packet := by
      rw [contents] at contents2
      exact (List.append_cancel_left contents2).symm
    -- byte by byte is one way to feed it
    have positive : ∀ k ∈ List.replicate bytes.length 1, 0 < k := by
      intro k member
      rw [List.eq_of_mem_replicate member]
      exact Nat.one_pos
    obtain ⟨-, events, -⟩ := feeds positive (by simp)
    obtain ⟨-, -, events'⟩ := back _ positive (by simp)
    rw [events, expected] at events'
    simp only [List.cons.injEq, Prod.mk.injEq, Except.ok.injEq, true_and, and_true] at events'
    exact restores.mp events'
  · intro notUdp
    refine ⟨serializer', ring', packet, serializes, contents, fun ks positive enough => ?_⟩
    obtain ⟨runs, events, dropped⟩ := feeds positive enough
    rw [restores.mpr notUdp] at events
    exact ⟨runs, dropped, by rw [expected]; exact events⟩

/-- A frame makes the round trip exactly when its headers are not compressed, or it is
    not a UDP frame. The assembler is one between two packets, such as a new one. -/
theorem roundTrips_iff_plain_or_not_udp (wellFormed : WellFormed frame)
    (workspace : serializer.workspace.length = FrameSerializer.workspaceSize)
    (ringWellFormed : ring.WellFormed) (space : frame.length + 2 ≤ ring.getSpace)
    (idle : Keeps assembler [] 0) (config : assembler.ipConfig = serializer.ipConfig)
    (noMap : assembler.ipMap = none) (fits : frame.length ≤ assembler.bufferSize) :
    RoundTrips serializer ring assembler frame ↔ serializer.ipConfig = none ∨ ¬ IsUdp frame := by
  cases isConfig : serializer.ipConfig with
  | none =>
      have comes := roundTrips_plain wellFormed isConfig ringWellFormed space idle config noMap fits
      exact ⟨fun _ => .inl rfl, fun _ => comes⟩
  | some ipConfig =>
      rw [roundTrips_compressed_iff wellFormed isConfig workspace ringWellFormed space idle config
        noMap fits]
      simp

end RoundTrip

/-- A configuration in which nothing of the frames below has a default value. -/
def plainConfig : IpConfig := ⟨0, 0, fun _ => 0, fun _ => 0⟩

/-- A TCP frame of a header and two bytes. -/
def tcpFrame : List UInt8 :=
  [0x45, 0x00, 0x00, 0x16, 0x12, 0x34, 0x40, 0x00, 0x40, 0x06, 0x00, 0x00,
    10, 0, 0, 1, 10, 0, 0, 2, 0xAB, 0xCD]

/-- A UDP frame with one byte of payload. -/
def udpFrame : List UInt8 :=
  [0x45, 0x00, 0x00, 0x1D, 0x12, 0x34, 0x40, 0x00, 0x40, 0x11, 0x00, 0x00,
    10, 0, 0, 1, 10, 0, 0, 2, 0x16, 0x33, 0x16, 0x34, 0x00, 0x09, 0x00, 0x00, 0x55]

def emptyAssembler (ipConfig : Option IpConfig) : FrameAssembler :=
  ⟨ipConfig, none, 0, 0, 0, 64, List.replicate 64 0⟩

theorem emptyAssembler_keeps (ipConfig : Option IpConfig) :
    Keeps (emptyAssembler ipConfig) [] 0 :=
  keeps_nothing rfl (by simp [emptyAssembler, minIpHeaderSize]) rfl rfl rfl

theorem tcpFrame_wellFormed : WellFormed tcpFrame :=
  ⟨by decide, by decide, by decide, by decide, by decide⟩

theorem udpFrame_wellFormed : WellFormed udpFrame :=
  ⟨by decide, by decide, by decide, by decide, by decide⟩

theorem roundTrips_tcpFrame :
    RoundTrips (.create (some plainConfig)) (.init (List.replicate 64 0))
      (emptyAssembler (some plainConfig)) tcpFrame :=
  (roundTrips_iff_plain_or_not_udp tcpFrame_wellFormed (by decide)
    (RingBuffer.wellFormed_init (by simp)) (by decide) (emptyAssembler_keeps _) rfl rfl
    (by decide)).mpr (.inr (by decide))

/-- The UDP frame does not come back. -/
theorem udpFrame_not_roundTrips :
    WellFormed udpFrame ∧ FrameAssembler.create 64 (some plainConfig) none =
        .ok (emptyAssembler (some plainConfig)) ∧
      ¬ RoundTrips (.create (some plainConfig)) (.init (List.replicate 64 0))
        (emptyAssembler (some plainConfig)) udpFrame := by
  refine ⟨udpFrame_wellFormed, rfl, fun comes => ?_⟩
  have notUdp := (roundTrips_compressed_iff udpFrame_wellFormed rfl (by decide)
    (RingBuffer.wellFormed_init (by simp)) (by decide) (emptyAssembler_keeps _) rfl rfl
    (by decide)).mp comes
  exact notUdp (by decide)

end GoldenGate.Ipv4

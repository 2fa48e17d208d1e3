import GoldenGate.Protocols.Ipv4RoundTrip

/-! # Frames in a ring buffer

The serializer puts a whole packet into the ring buffer or nothing. It wants two more
bytes than the frame has, for headers that grow, and it gives up for good only on frames
that are as large as the array of the ring buffer: between the two, it would block for ever.
-/

namespace GoldenGate.Ipv4

open Memory

/-! ## Parsing any frame -/

/-- A frame with a complete header, of any lengths. -/
structure HasHeader (frame : List UInt8) : Prop where
  version : frame.getD 0 0 >>> 4 = 4
  ihl : 5 ≤ ihlOf frame
  header : 4 * ihlOf frame ≤ frame.length

theorem WellFormed.hasHeader {frame : List UInt8} (wellFormed : WellFormed frame) : HasHeader frame :=
  ⟨wellFormed.version, wellFormed.ihl, wellFormed.header⟩

/-- Any other frame is rejected. -/
theorem parse_rejects {frame : List UInt8} (none_ : ¬ HasHeader frame) :
    ∃ e, PacketHeader.parse frame = .ok (.error e) := by
  unfold PacketHeader.parse
  by_cases short : frame.length < baseHeaderSize
  · exact ⟨_, by simp [short]; rfl⟩
  rw [if_neg short]
  unfold baseHeaderSize at short
  obtain ⟨b0, b1, b2, b3, rest, rfl, -⟩ := @word_split 0 frame (by omega)
  have first : load (b0 :: b1 :: b2 :: b3 :: rest) 0 = .ok b0 := rfl
  rw [first, ok_bind]
  by_cases version : b0 >>> 4 = 4
  · rw [if_neg (not_not.mpr version)]
    refine ⟨.invalidFormat, ?_⟩
    rw [if_pos]
    · rfl
    · rw [UInt8.lt_iff_toNat_lt]
      by_contra fits
      rw [not_or] at fits
      apply none_
      refine ⟨version, ?_, ?_⟩
      · exact Nat.not_lt.mp fits.1
      · have inside := fits.2
        change 4 * (b0 &&& 0x0F).toNat ≤ _
        omega
  · exact ⟨.invalidFormat, by rw [if_pos version]; rfl⟩

theorem parseUdp_rejects {ipHeader : PacketHeader} {frame : List UInt8} (isUdp : ipHeader.protocol = protocolUdp)
    (cut : frame.length < 4 * ipHeader.ihl.toNat + udpHeaderSize) :
    FrameSerializer.parseUdp ipHeader frame = .ok (.error .invalidFormat) := by
  unfold FrameSerializer.parseUdp
  rw [if_pos isUdp, if_pos cut]
  rfl

/-- A complete UDP header is parsed, whatever it says. -/
theorem parseUdp_complete {ipHeader : PacketHeader} {frame : List UInt8}
    (complete : ipHeader.protocol = protocolUdp → 4 * ipHeader.ihl.toNat + udpHeaderSize ≤ frame.length) :
    ∃ udpHeader, FrameSerializer.parseUdp ipHeader frame = .ok (.ok udpHeader) ∧
      (udpHeader.isSome ↔ ipHeader.protocol = protocolUdp) := by
  unfold FrameSerializer.parseUdp
  by_cases isUdp : ipHeader.protocol = protocolUdp
  · have enough := complete isUdp
    unfold udpHeaderSize at enough
    obtain ⟨u0, u1, u2, u3, l, behind, long⟩ :=
      @word_split 4 (frame.drop (4 * ipHeader.ihl.toNat)) (by rw [List.length_drop]; omega)
    obtain ⟨u4, u5, u6, u7, payload, rfl, -⟩ := @word_split 0 l long
    obtain ⟨udpHeader, parses, -⟩ := @parseUdp_spec u0 u1 u2 u3 u4 u5 u6 u7 payload
    refine ⟨some udpHeader, ?_, by simp [isUdp]⟩
    rw [if_pos isUdp, if_neg (Nat.not_lt.mpr (complete isUdp)), behind, parses]
    rfl
  · exact ⟨none, by rw [if_neg isUdp]; rfl, by simp [isUdp]⟩

/-! ## All or nothing -/

/-- A frame that the compressing serializer can cope with. -/
structure Serializable (frame : List UInt8) : Prop extends HasHeader frame where
  total : announced frame = frame.length
  udp : IsUdp frame → 4 * ihlOf frame + udpHeaderSize ≤ frame.length

theorem WellFormed.serializable {frame : List UInt8} (wellFormed : WellFormed frame) : Serializable frame :=
  { wellFormed.hasHeader with
    total := wellFormed.total
    udp := fun isUdp => (wellFormed.udp isUdp).1 }

/-- What the serializer writes for a frame: the frame, or all of its compressed headers and all that is behind them. -/
def FrameSerializer.Packs (self : FrameSerializer) (frame packet : List UInt8) : Prop :=
  match self.ipConfig with
  | none => packet = frame
  | some ipConfig =>
      4 ≤ packet.length ∧ ∃ ipHeader udpHeader workspace size,
        PacketHeader.parse frame = .ok (.ok ipHeader) ∧ FrameSerializer.parseUdp ipHeader frame = .ok (.ok udpHeader) ∧
        compressHeaders ipHeader udpHeader ipConfig self.workspace = .ok (workspace, size) ∧
        (workspace.take size).length = size ∧ packet = workspace.take size ++ frame.drop (headerSize ipHeader)

section Serializing

variable {serializer : FrameSerializer} {ring : RingBuffer} {frame : List UInt8}

/-- With enough space, the frame becomes a whole packet of at most its size. -/
theorem serializeFrame_succeeds (serializable : Serializable frame)
    (workspace : serializer.workspace.length = FrameSerializer.workspaceSize)
    (ringWellFormed : ring.WellFormed) (space : frame.length + 2 ≤ ring.getSpace) :
    ∃ serializer' ring' packet, serializer.serializeFrame frame ring = .ok (serializer', ring', .ok ()) ∧
      ring'.contents = ring.contents ++ packet ∧ announced packet = packet.length ∧ serializer.Packs frame packet := by
  unfold FrameSerializer.Packs
  cases config : serializer.ipConfig with
  | some ipConfig =>
      obtain ⟨ipHeader, parses, version, ihl, protocol, total, bytes, options, dscp, ecn, flags, fragmentOffset⟩ :=
        parse_spec serializable.version serializable.ihl serializable.header
      have header := serializable.header
      have ihlLe : ihlOf frame ≤ 15 := Nat.and_le_right
      have ihlGe := serializable.ihl
      rw [serializable.total] at total
      have complete : ipHeader.protocol = protocolUdp → 4 * ipHeader.ihl.toNat + udpHeaderSize ≤ frame.length := by
        intro isUdp
        rw [ihl]
        exact serializable.udp (protocol.symm.trans isUdp)
      obtain ⟨udpHeader, parsesUdp, isSome⟩ := parseUdp_complete complete
      have inRange : InRange ipHeader udpHeader :=
        { ihl_ge := by omega
          ihl_le := by omega
          options := options
          dscp := dscp
          ecn := ecn
          flags := flags
          fragmentOffset := fragmentOffset
          udp := isSome
          total := by
            rw [total]
            unfold headerSize
            split
            · next isUdp => exact complete isUdp
            · omega }
      have bytesSize : ∀ checksum, (ipHeader.bytes checksum).length = 4 * ipHeader.ihl.toNat := by
        intro checksum
        rw [bytes, List.length_take, length_patch _ (by omega), ihl, Nat.min_eq_left header]
      obtain ⟨serializer', ring', packet, serializes, contents, announces, long, -, ⟨workspace', size, packs⟩, -⟩ :=
        serializeFrame_packet config workspace ringWellFormed space parses parsesUdp inRange version total bytesSize
      exact ⟨serializer', ring', packet, serializes, contents, announces, long, ipHeader, udpHeader, workspace', size,
        parses, parsesUdp, packs⟩
  | none =>
      obtain ⟨ring', serializes, contents⟩ := serializeFrame_copies frame config ringWellFormed space
      exact ⟨serializer, ring', frame, serializes, contents, serializable.total, rfl⟩

theorem serializeFrame_tooLarge (large : ring.size ≤ frame.length) :
    serializer.serializeFrame frame ring = .ok (serializer, ring, .error .invalidParameters) := by
  unfold FrameSerializer.serializeFrame
  rw [if_pos large]
  rfl

theorem serializeFrame_blocks (fits : frame.length < ring.size) (full : ring.getSpace < frame.length + 2) :
    serializer.serializeFrame frame ring = .ok (serializer, ring, .error .wouldBlock) := by
  unfold FrameSerializer.serializeFrame
  rw [if_neg (Nat.not_le.mpr fits), if_pos full]
  rfl

/-- A frame that cannot be parsed, or whose UDP header is cut off, is rejected. -/
theorem serializeFrame_rejects {ipConfig : IpConfig} (config : serializer.ipConfig = some ipConfig)
    (ringWellFormed : ring.WellFormed) (space : frame.length + 2 ≤ ring.getSpace)
    (total : announced frame = frame.length) (not_ : ¬ Serializable frame) :
    ∃ e, serializer.serializeFrame frame ring = .ok (serializer, ring, .error e) := by
  have roomy := notFull ringWellFormed space
  have enough : ¬ frame.length + 2 > ring.getSpace := by omega
  by_cases hasHeader : HasHeader frame
  · obtain ⟨ipHeader, parses, -, ihl, protocol, -⟩ := parse_spec hasHeader.version hasHeader.ihl hasHeader.header
    have cut : ipHeader.protocol = protocolUdp ∧ frame.length < 4 * ipHeader.ihl.toNat + udpHeaderSize := by
      by_contra complete
      apply not_
      refine { hasHeader with total := total, udp := fun isUdp => ?_ }
      rw [← ihl]
      exact Nat.not_lt.mp fun cut => complete ⟨protocol.trans isUdp, cut⟩
    have whole : ¬ frame.length < 4 * ipHeader.ihl.toNat := by
      rw [ihl]
      exact Nat.not_lt.mpr hasHeader.header
    refine ⟨.invalidFormat, ?_⟩
    simp only [FrameSerializer.serializeFrame, roomy, enough, config, parses, whole,
      parseUdp_rejects cut.1 cut.2, if_false, ok_bind, pure_ok]
  · obtain ⟨e, rejects⟩ := parse_rejects hasHeader
    refine ⟨e, ?_⟩
    simp only [FrameSerializer.serializeFrame, roomy, enough, config, rejects, if_false, ok_bind, pure_ok]

/-- The serializer fails and leaves the ring buffer as it was, or appends all of a packet. -/
theorem serializeFrame_allOrNothing (workspace : serializer.workspace.length = FrameSerializer.workspaceSize)
    (ringWellFormed : ring.size ≠ 0 → ring.WellFormed) (total : announced frame = frame.length) :
    (∃ e, serializer.serializeFrame frame ring = .ok (serializer, ring, .error e)) ∨
      ∃ serializer' ring' packet, serializer.serializeFrame frame ring = .ok (serializer', ring', .ok ()) ∧
        ring'.contents = ring.contents ++ packet ∧ announced packet = packet.length ∧
        serializer.Packs frame packet := by
  by_cases large : ring.size ≤ frame.length
  · exact .inl ⟨_, serializeFrame_tooLarge large⟩
  by_cases full : ring.getSpace < frame.length + 2
  · exact .inl ⟨_, serializeFrame_blocks (Nat.not_le.mp large) full⟩
  have formed := ringWellFormed (by omega)
  have space : frame.length + 2 ≤ ring.getSpace := Nat.not_lt.mp full
  cases config : serializer.ipConfig with
  | none =>
      obtain ⟨ring', serializes, contents⟩ := serializeFrame_copies frame config formed space
      refine .inr ⟨serializer, ring', frame, serializes, contents, total, ?_⟩
      unfold FrameSerializer.Packs
      rw [config]
  | some ipConfig =>
      by_cases serializable : Serializable frame
      · exact .inr (serializeFrame_succeeds serializable workspace formed space)
      · exact .inl (serializeFrame_rejects config formed space total serializable)

/-! ## Blocking -/

/-- The ring buffer once everything was read from it. -/
structure Drained (ring empty : RingBuffer) : Prop where
  wellFormed : empty.WellFormed
  size : empty.size = ring.size
  contents : empty.contents = []

/-- A frame that does not get in for lack of space gets in when the ring buffer is empty,
    and one that never gets in is rejected with another error. -/
structure BlocksForNow (serializer : FrameSerializer) (ring : RingBuffer) (frame : List UInt8) : Prop where
  retry : ∀ serializer' ring', serializer.serializeFrame frame ring = .ok (serializer', ring', .error .wouldBlock) →
    ∀ empty, Drained ring empty →
      ∃ serializer'' ring'', serializer'.serializeFrame frame empty = .ok (serializer'', ring'', .ok ())
  never : (∀ empty, Drained ring empty →
      ¬ ∃ serializer' ring', serializer.serializeFrame frame empty = .ok (serializer', ring', .ok ())) →
    ∃ e, e ≠ .wouldBlock ∧ serializer.serializeFrame frame ring = .ok (serializer, ring, .error e)

theorem exists_drained (nonempty : ring.size ≠ 0) : ∃ empty, Drained ring empty := by
  refine ⟨.init (List.replicate ring.size 0), ?_, List.length_replicate, ?_⟩
  · apply RingBuffer.wellFormed_init
    simpa using nonempty
  · simp [RingBuffer.contents, RingBuffer.init]

theorem Drained.getSpace {empty : RingBuffer} (drained : Drained ring empty) : empty.getSpace = ring.size - 1 := by
  obtain ⟨⟨inLt, outLt⟩, size, contents⟩ := drained
  have length := congrArg List.length contents
  unfold RingBuffer.contents at length
  rw [← size]
  unfold RingBuffer.getSpace RingBuffer.size at *
  by_cases behind : empty.out ≤ empty.in_
  · rw [if_pos behind, List.length_drop, List.length_take, List.length_nil] at length
    rw [if_neg (Nat.not_lt.mpr behind)]
    omega
  · rw [if_neg behind, List.length_append, List.length_drop, List.length_nil] at length
    omega

/-- Exactly the frames that are one or two bytes smaller than the array block for ever. -/
theorem blocksForNow_iff (workspace : serializer.workspace.length = FrameSerializer.workspaceSize)
    (ringWellFormed : ring.size ≠ 0 → ring.WellFormed) (serializable : Serializable frame) :
    BlocksForNow serializer ring frame ↔ frame.length + 3 ≤ ring.size ∨ ring.size ≤ frame.length := by
  constructor
  · intro forNow
    by_contra between
    rw [not_or] at between
    have fits : frame.length < ring.size := Nat.not_le.mp between.2
    have most := (ringWellFormed (by omega)).getSpace_le
    have blocks : serializer.serializeFrame frame ring = .ok (serializer, ring, .error .wouldBlock) :=
      serializeFrame_blocks fits (by omega)
    obtain ⟨empty, drained⟩ := @exists_drained ring (by omega)
    have size := drained.size
    obtain ⟨serializer', ring', succeeds⟩ := forNow.retry _ _ blocks empty drained
    have blocks' : serializer.serializeFrame frame empty = .ok (serializer, empty, .error .wouldBlock) :=
      serializeFrame_blocks (by omega) (by rw [drained.getSpace]; omega)
    rw [blocks'] at succeeds
    cases succeeds
  · rintro (small | large)
    · have succeeds : ∀ empty, Drained ring empty →
          ∃ serializer' ring', serializer.serializeFrame frame empty = .ok (serializer', ring', .ok ()) := by
        intro empty drained
        obtain ⟨serializer', ring', -, serializes, -⟩ :=
          serializeFrame_succeeds serializable workspace drained.wellFormed (by rw [drained.getSpace]; omega)
        exact ⟨serializer', ring', serializes⟩
      constructor
      · intro serializer' ring' blocks
        by_cases full : ring.getSpace < frame.length + 2
        · rw [serializeFrame_blocks (by omega) full] at blocks
          cases blocks
          exact succeeds
        · obtain ⟨_, _, _, done, -⟩ :=
            serializeFrame_succeeds serializable workspace (ringWellFormed (by omega)) (Nat.not_lt.mp full)
          rw [done] at blocks
          cases blocks
      · intro never
        obtain ⟨empty, drained⟩ := @exists_drained ring (by omega)
        exact (never empty drained (succeeds empty drained)).elim
    · have rejects := @serializeFrame_tooLarge serializer ring frame large
      constructor
      · intro serializer' ring' blocks
        rw [rejects] at blocks
        cases blocks
      · exact fun _ => ⟨_, by decide, rejects⟩

end Serializing

/-- A TCP frame goes into an empty ring buffer. -/
theorem serializeFrame_allOrNothing_tcpFrame :
    let serializer := FrameSerializer.create (some plainConfig)
    let ring := RingBuffer.init (List.replicate 64 0)
    (∃ e, serializer.serializeFrame tcpFrame ring = .ok (serializer, ring, .error e)) ∨
      ∃ serializer' ring' packet, serializer.serializeFrame tcpFrame ring = .ok (serializer', ring', .ok ()) ∧
        ring'.contents = ring.contents ++ packet ∧ announced packet = packet.length ∧
        serializer.Packs tcpFrame packet :=
  serializeFrame_allOrNothing (by decide) (fun _ => RingBuffer.wellFormed_init (by simp)) (by decide)

/-- A ring buffer with three bytes more than the frame is large enough. -/
theorem blocksForNow_tcpFrame : BlocksForNow (.create none) (.init (List.replicate 25 0)) tcpFrame :=
  (blocksForNow_iff (by decide) (fun _ => RingBuffer.wellFormed_init (by simp))
    tcpFrame_wellFormed.serializable).mpr (by decide)

/-- With two bytes more, the frame has to wait also when the ring buffer is empty. -/
theorem tcpFrame_blocks : WellFormed tcpFrame ∧
    ¬ BlocksForNow (.create none) (.init (List.replicate 24 0)) tcpFrame := by
  refine ⟨tcpFrame_wellFormed, fun forNow => ?_⟩
  let ring := RingBuffer.init (List.replicate 24 0)
  have blocks : (FrameSerializer.create none).serializeFrame tcpFrame ring =
      .ok (.create none, ring, .error .wouldBlock) := serializeFrame_blocks (by decide) (by decide)
  obtain ⟨serializer', ring', succeeds⟩ :=
    forNow.retry _ _ blocks ring ⟨RingBuffer.wellFormed_init (by simp), rfl, rfl⟩
  rw [blocks] at succeeds
  cases succeeds

end GoldenGate.Ipv4

import GoldenGate.Protocols.Ipv4Checksum

/-! # Remapped addresses

When an address of a frame is remapped, the checksum of the header is computed again and a UDP
checksum is set to zero. The UDP header is looked for behind the header of every fragment of a UDP
datagram, where later fragments have two bytes of their data.
-/

namespace GoldenGate.Ipv4

open Memory FrameAssembler

/-- A frame with other bytes in some place. -/
def overwrite (frame : List UInt8) (offset : Nat) (bytes : List UInt8) : List UInt8 :=
  frame.take offset ++ bytes ++ frame.drop (offset + bytes.length)

def addressAt (frame : List UInt8) (offset : Nat) : UInt32 :=
  bytesToInt32Be (frame.getD offset 0) (frame.getD (offset + 1) 0) (frame.getD (offset + 2) 0)
    (frame.getD (offset + 3) 0)

/-- The fragment offset of a frame, which is 0 in a datagram that is whole or in its first fragment. -/
def fragmentOffset (frame : List UInt8) : Nat := int16At frame 6 % 2 ^ 13

/-- There are enough bytes behind the header for a UDP header. -/
def RoomForUdp (frame : List UInt8) : Prop := 4 * ihlOf frame + udpHeaderSize ≤ frame.length

/-- The two bytes where a UDP header behind the header has its checksum. -/
def UdpChecksumPlace (frame : List UInt8) (i : Nat) : Prop :=
  i = 4 * ihlOf frame + 6 ∨ i = 4 * ihlOf frame + 7

/-- The byte is part of a UDP checksum. -/
def InUdpChecksum (frame : List UInt8) (i : Nat) : Prop :=
  IsUdp frame ∧ fragmentOffset frame = 0 ∧ RoomForUdp frame ∧ UdpChecksumPlace frame i

/-- The byte is part of an address. -/
def InAddresses (i : Nat) : Prop := 12 ≤ i ∧ i < 20

/-- The byte is part of the checksum of the header. -/
def InChecksum (i : Nat) : Prop := i = 10 ∨ i = 11

/-- An address of the frame is in the map. -/
def IsRemapped (ipMap : IpMap) (frame : List UInt8) : Prop :=
  addressAt frame 12 = ipMap.srcAddress ∨ addressAt frame 16 = ipMap.dstAddress

instance (ipMap : IpMap) (frame : List UInt8) : Decidable (IsRemapped ipMap frame) :=
  inferInstanceAs (Decidable (_ ∨ _))

instance (frame : List UInt8) : Decidable (RoomForUdp frame) := inferInstanceAs (Decidable (_ ≤ _))

instance (frame : List UInt8) (i : Nat) : Decidable (UdpChecksumPlace frame i) :=
  inferInstanceAs (Decidable (_ ∨ _))

/-- The addresses are those of the map, the checksum of the header is valid, and nothing else is
    changed but a UDP checksum. -/
structure Remaps (ipMap : IpMap) (frame frame' : List UInt8) : Prop where
  length : frame'.length = frame.length
  source : addressAt frame' 12 =
    if addressAt frame 12 = ipMap.srcAddress then ipMap.remappedSrcAddress else addressAt frame 12
  destination : addressAt frame' 16 =
    if addressAt frame 16 = ipMap.dstAddress then ipMap.remappedDstAddress else addressAt frame 16
  checksum : IsRemapped ipMap frame → ipv4Checksum (frame'.take (4 * ihlOf frame)) = 0xFFFF
  others : ∀ i, ¬ InAddresses i → ¬ InChecksum i → ¬ InUdpChecksum frame i →
    frame'.getD i 0 = frame.getD i 0
  untouched : ¬ IsRemapped ipMap frame → frame' = frame

/-- A header comes back from the bytes that were written for it, but for a checksum that was asked for.
    With that the sum of the header is all ones. -/
def SerializesRight (header : PacketHeader) : Prop :=
  ∀ (buffer : List UInt8) (size : Nat) (compute : Bool), 4 * header.ihl.toNat ≤ size → size ≤ buffer.length →
    ∃ packet checksum, header.serialize buffer size compute = .ok (.ok packet) ∧
      PacketHeader.parse packet = .ok (.ok { header with checksum := checksum }) ∧
      if compute then ipv4Checksum (packet.take (4 * header.ihl.toNat)) = 0xFFFF
      else checksum = header.checksum

/-- The remapping ends, and changes no more than it should. -/
def RemapsRight (ipMap : IpMap) (frame : List UInt8) : Prop :=
  ∃ frame', remap ipMap frame = .ok frame' ∧ Remaps ipMap frame frame'

/-- A later fragment of a UDP datagram is remapped, with data other than zeros where a UDP header
    has its checksum. -/
def CutsFragment (ipMap : IpMap) (frame : List UInt8) : Prop :=
  IsRemapped ipMap frame ∧ IsUdp frame ∧ RoomForUdp frame ∧ fragmentOffset frame ≠ 0 ∧
    ¬ (frame.getD (4 * ihlOf frame + 6) 0 = 0 ∧ frame.getD (4 * ihlOf frame + 7) 0 = 0)

/-! ## Bytes of an overwritten frame -/

section Overwriting

variable {frame bytes : List UInt8} {offset : Nat} (inside : offset + bytes.length ≤ frame.length)
include inside

theorem store_overwrite : store frame offset bytes = .ok (overwrite frame offset bytes) := if_pos inside

theorem length_overwrite : (overwrite frame offset bytes).length = frame.length := by
  simp only [overwrite, List.length_append, List.length_take, List.length_drop]
  omega

theorem getD_overwrite (i : Nat) : (overwrite frame offset bytes).getD i 0 =
    if offset ≤ i ∧ i < offset + bytes.length then bytes.getD (i - offset) 0 else frame.getD i 0 := by
  have front : (frame.take offset).length = offset := by
    rw [List.length_take]
    omega
  simp only [List.getD_eq_getElem?_getD, overwrite, List.append_assoc]
  by_cases before : i < offset
  · have outside : ¬ (offset ≤ i ∧ i < offset + bytes.length) := by omega
    rw [if_neg outside, List.getElem?_append_left (by omega), List.getElem?_take_of_lt before]
  · rw [List.getElem?_append_right (by omega), front]
    by_cases within : i < offset + bytes.length
    · rw [if_pos ⟨by omega, within⟩, List.getElem?_append_left (by omega)]
    · have outside : ¬ (offset ≤ i ∧ i < offset + bytes.length) := by omega
      have place : offset + bytes.length + (i - offset - bytes.length) = i := by omega
      rw [if_neg outside, List.getElem?_append_right (by omega), List.getElem?_drop, place]

end Overwriting

theorem addressAt_congr {frame frame' : List UInt8} {offset : Nat}
    (same : ∀ i, offset ≤ i → i < offset + 4 → frame'.getD i 0 = frame.getD i 0) :
    addressAt frame' offset = addressAt frame offset := by
  unfold addressAt
  rw [same offset (by omega) (by omega), same (offset + 1) (by omega) (by omega),
    same (offset + 2) (by omega) (by omega), same (offset + 3) (by omega) (by omega)]

/-- The address that was written. -/
theorem addressAt_overwrite {frame : List UInt8} {offset : Nat} (inside : offset + 4 ≤ frame.length)
    (address : UInt32) :
    addressAt (overwrite frame offset (bytesFromInt32Be address)) offset = address := by
  have written := @getD_overwrite frame (bytesFromInt32Be address) offset inside
  have size : (bytesFromInt32Be address).length = 4 := rfl
  unfold addressAt
  rw [written, written, written, written, size, if_pos (by omega), if_pos (by omega), if_pos (by omega),
    if_pos (by omega), Nat.sub_self, Nat.add_sub_cancel_left, Nat.add_sub_cancel_left,
    Nat.add_sub_cancel_left]
  exact bytesToInt32Be_from address

/-! ## The steps of the remapping -/

/-- The address in some place, remapped or not. -/
def withAddress (frame : List UInt8) (offset : Nat) (address remapped : UInt32) : List UInt8 :=
  if addressAt frame offset = address then overwrite frame offset (bytesFromInt32Be remapped) else frame

section Addresses

variable {frame : List UInt8} {offset : Nat} (inside : offset + 4 ≤ frame.length)
include inside

theorem loadInt32Be_eq : loadInt32Be frame offset = .ok (addressAt frame offset) := by
  have first : offset < frame.length := by omega
  have second : offset + 1 < frame.length := by omega
  have third : offset + 2 < frame.length := by omega
  have fourth : offset + 3 < frame.length := by omega
  simp only [loadInt32Be, load_getD first, load_getD second, load_getD third, load_getD fourth, ok_bind, pure_ok,
    addressAt]

theorem remapAddress_eq (address remapped : UInt32) : remapAddress frame offset address remapped =
    .ok (withAddress frame offset address remapped, decide (addressAt frame offset = address)) := by
  unfold remapAddress withAddress
  rw [loadInt32Be_eq inside, ok_bind]
  by_cases found : addressAt frame offset = address
  · rw [if_pos found, if_pos found, @store_overwrite frame (bytesFromInt32Be remapped) offset inside, ok_bind]
    simp [found]
  · rw [if_neg found, if_neg found]
    simp [found]

theorem length_withAddress (address remapped : UInt32) :
    (withAddress frame offset address remapped).length = frame.length := by
  unfold withAddress
  split
  · exact @length_overwrite frame (bytesFromInt32Be remapped) offset inside
  · rfl

theorem getD_withAddress (address remapped : UInt32) {i : Nat} (outside : i < offset ∨ offset + 4 ≤ i) :
    (withAddress frame offset address remapped).getD i 0 = frame.getD i 0 := by
  unfold withAddress
  split
  · have size : (bytesFromInt32Be remapped).length = 4 := rfl
    rw [@getD_overwrite frame (bytesFromInt32Be remapped) offset inside, if_neg (by omega)]
  · rfl

theorem addressAt_withAddress (address remapped : UInt32) :
    addressAt (withAddress frame offset address remapped) offset =
      if addressAt frame offset = address then remapped else addressAt frame offset := by
  unfold withAddress
  split
  · exact addressAt_overwrite inside remapped
  · rfl

end Addresses

/-- The frame with the checksum of its header, and zeros in the place of a UDP checksum. -/
def recomputed (frame : List UInt8) : List UInt8 :=
  let frame' := overwrite frame 10 (bytesFromInt16Be
    (~~~ ipv4Checksum ((overwrite frame 10 [0, 0]).take (4 * ihlOf frame))))
  if IsUdp frame ∧ RoomForUdp frame then overwrite frame' (4 * ihlOf frame + 6) [0, 0] else frame'

section Recomputing

variable {frame : List UInt8} (ihl : 5 ≤ ihlOf frame) (header : 4 * ihlOf frame ≤ frame.length)
include ihl header

theorem recomputeChecksum_eq : recomputeChecksum frame = .ok (recomputed frame) := by
  have complete : (frame.getD 0 0 &&& 0x0F) ≥ headerMinIhl ∧
      (frame.getD 0 0 &&& 0x0F).toNat * 4 ≤ frame.length :=
    ⟨UInt8.le_iff_toNat_le.mpr ihl, by rw [Nat.mul_comm]; exact header⟩
  have zeroed := @store_overwrite frame [0, 0] 10 (by simp; omega)
  have length1 := @length_overwrite frame [0, 0] 10 (by simp; omega)
  have same (bytes : List UInt8) (two : bytes.length = 2) :
      overwrite (overwrite frame 10 [0, 0]) 10 bytes = overwrite frame 10 bytes := by
    have front : (frame.take 10).length = 10 := by
      rw [List.length_take]
      omega
    simp only [overwrite, List.append_assoc, two]
    rw [List.take_left' front, List.drop_append, front]
    simp
  have written (checksum : UInt16) : store (overwrite frame 10 [0, 0]) 10 (bytesFromInt16Be checksum) =
      .ok (overwrite frame 10 (bytesFromInt16Be checksum)) := by
    rw [@store_overwrite (overwrite frame 10 [0, 0]) (bytesFromInt16Be checksum) 10
      (by simp [bytesFromInt16Be, length1]; omega), same _ rfl]
  have length2 (checksum : UInt16) :=
    @length_overwrite frame (bytesFromInt16Be checksum) 10 (by simp [bytesFromInt16Be]; omega)
  have protocol (checksum : UInt16) :
      load (overwrite frame 10 (bytesFromInt16Be checksum)) 9 = .ok (frame.getD 9 0) := by
    rw [load_getD (by rw [length2]; omega),
      @getD_overwrite frame (bytesFromInt16Be checksum) 10 (by simp [bytesFromInt16Be]; omega), if_neg (by omega)]
  unfold recomputeChecksum recomputed
  rw [load_getD (show 0 < frame.length by omega), ok_bind, if_pos complete, zeroed, ok_bind]
  change (store (overwrite frame 10 [0, 0]) 10 (bytesFromInt16Be (~~~ ipv4Checksum
    ((overwrite frame 10 [0, 0]).take (4 * ihlOf frame)))) >>= _) = _
  generalize ~~~ ipv4Checksum ((overwrite frame 10 [0, 0]).take (4 * ihlOf frame)) = checksum
  rw [written, ok_bind, protocol, ok_bind, length2, Nat.mul_comm]
  change (if IsUdp frame ∧ RoomForUdp frame then
    store (overwrite frame 10 (bytesFromInt16Be checksum)) (4 * ihlOf frame + 6) [0, 0] else _) = _
  by_cases udp : IsUdp frame ∧ RoomForUdp frame
  · have room := udp.2
    unfold RoomForUdp udpHeaderSize at room
    rw [if_pos udp, store_overwrite (by rw [length2]; exact room), if_pos udp]
  · rw [if_neg udp, if_neg udp]
    rfl

theorem length_recomputed : (recomputed frame).length = frame.length := by
  have length (checksum : UInt16) :=
    @length_overwrite frame (bytesFromInt16Be checksum) 10 (by simp [bytesFromInt16Be]; omega)
  unfold recomputed
  dsimp only
  split
  · next udp =>
      have room := udp.2
      unfold RoomForUdp udpHeaderSize at room
      rw [length_overwrite (by rw [length]; exact room), length]
  · exact length _

theorem getD_recomputed {i : Nat} (outside : ¬ InChecksum i) : (recomputed frame).getD i 0 =
    if IsUdp frame ∧ RoomForUdp frame ∧ UdpChecksumPlace frame i then 0 else frame.getD i 0 := by
  have inside (checksum : UInt16) : 10 + (bytesFromInt16Be checksum).length ≤ frame.length := by
    simp only [bytesFromInt16Be, List.length_cons, List.length_nil]
    omega
  have kept (checksum : UInt16) : (overwrite frame 10 (bytesFromInt16Be checksum)).getD i 0 = frame.getD i 0 := by
    have size : (bytesFromInt16Be checksum).length = 2 := rfl
    unfold InChecksum at outside
    rw [getD_overwrite (inside checksum), if_neg (by omega)]
  unfold recomputed
  dsimp only
  by_cases udp : IsUdp frame ∧ RoomForUdp frame
  · have room := udp.2
    unfold RoomForUdp udpHeaderSize at room
    rw [if_pos udp, getD_overwrite (by rw [length_overwrite (inside _)]; exact room)]
    have zeroed : 4 * ihlOf frame + 6 ≤ i ∧ i < 4 * ihlOf frame + 6 + [(0 : UInt8), 0].length ↔
        UdpChecksumPlace frame i := by
      simp only [UdpChecksumPlace, List.length_cons, List.length_nil]
      omega
    by_cases place : UdpChecksumPlace frame i
    · rw [if_pos (zeroed.mpr place), if_pos ⟨udp.1, udp.2, place⟩]
      cases place with
      | inl first => rw [first, Nat.sub_self]; rfl
      | inr second => rw [second, show 4 * ihlOf frame + 7 - (4 * ihlOf frame + 6) = 1 by omega]; rfl
    · rw [if_neg (mt zeroed.mp place), if_neg fun all => place all.2.2]
      exact kept _
  · rw [if_neg udp, if_neg fun all => udp ⟨all.1, all.2.1⟩]
    exact kept _

/-- The header of the frame is all ones. -/
theorem checksum_recomputed : ipv4Checksum ((recomputed frame).take (4 * ihlOf frame)) = 0xFFFF := by
  have few : ihlOf frame ≤ 15 := Nat.and_le_right
  have front : (frame.take 10).length = 10 := by
    rw [List.length_take]
    omega
  let rest := (frame.drop 12).take (4 * ihlOf frame - 12)
  have taken (b0 b1 : UInt8) : (overwrite frame 10 [b0, b1]).take (4 * ihlOf frame) =
      frame.take 10 ++ ([b0, b1] ++ rest) := by
    have split : 4 * ihlOf frame = 10 + (2 + (4 * ihlOf frame - 12)) := by omega
    have twelve : (frame.take 10 ++ [b0, b1]).length = 12 := by
      rw [List.length_append, front]
      rfl
    rw [overwrite, List.take_append, twelve, List.take_of_length_le (by rw [twelve]; omega), List.append_assoc]
    rfl
  have whole : (recomputed frame).take (4 * ihlOf frame) = (overwrite frame 10 (bytesFromInt16Be
      (~~~ ipv4Checksum ((overwrite frame 10 [0, 0]).take (4 * ihlOf frame))))).take (4 * ihlOf frame) := by
    unfold recomputed
    dsimp only
    split
    · have inside (checksum : UInt16) : 10 + (bytesFromInt16Be checksum).length ≤ frame.length := by
        simp only [bytesFromInt16Be, List.length_cons, List.length_nil]
        omega
      rw [overwrite, List.append_assoc, List.take_append_of_le_length
        (by rw [List.length_take, length_overwrite (inside _)]; omega), List.take_take, Nat.min_eq_left (by omega)]
    · rfl
  have short : (frame.take 10).length + 2 + rest.length ≤ 65535 := by
    rw [front, List.length_take]
    omega
  rw [whole, taken 0 0]
  exact (congrArg ipv4Checksum (taken _ _)).trans (checksum_complete (by rw [front]) short)

end Recomputing

/-! ## The remapped frame -/

/-- The frame after the addresses. -/
def readdressed (ipMap : IpMap) (frame : List UInt8) : List UInt8 :=
  withAddress (withAddress frame 12 ipMap.srcAddress ipMap.remappedSrcAddress) 16 ipMap.dstAddress
    ipMap.remappedDstAddress

section Remapping

variable {frame : List UInt8} (ipMap : IpMap) (long : 20 ≤ frame.length)
include long

theorem length_readdressed : (readdressed ipMap frame).length = frame.length := by
  have length := @length_withAddress frame 12 (by omega) ipMap.srcAddress ipMap.remappedSrcAddress
  rw [readdressed, length_withAddress (by omega), length]

theorem getD_readdressed {i : Nat} (outside : ¬ InAddresses i) :
    (readdressed ipMap frame).getD i 0 = frame.getD i 0 := by
  unfold InAddresses at outside
  have length := @length_withAddress frame 12 (by omega) ipMap.srcAddress ipMap.remappedSrcAddress
  rw [readdressed, getD_withAddress (by omega) _ _ (by omega), getD_withAddress (by omega) _ _ (by omega)]

/-- The first address is not in the way of the second. -/
theorem addressAt_behind : addressAt (withAddress frame 12 ipMap.srcAddress ipMap.remappedSrcAddress) 16 =
    addressAt frame 16 :=
  addressAt_congr fun i above _ => getD_withAddress (by omega) _ _ (.inr above)

theorem source_readdressed : addressAt (readdressed ipMap frame) 12 =
    if addressAt frame 12 = ipMap.srcAddress then ipMap.remappedSrcAddress else addressAt frame 12 := by
  have length := @length_withAddress frame 12 (by omega) ipMap.srcAddress ipMap.remappedSrcAddress
  rw [← addressAt_withAddress (by omega)]
  exact addressAt_congr fun i _ below => getD_withAddress (by omega) _ _ (.inl below)

theorem destination_readdressed : addressAt (readdressed ipMap frame) 16 =
    if addressAt frame 16 = ipMap.dstAddress then ipMap.remappedDstAddress else addressAt frame 16 := by
  have length := @length_withAddress frame 12 (by omega) ipMap.srcAddress ipMap.remappedSrcAddress
  rw [readdressed, addressAt_withAddress (by omega), addressAt_behind ipMap long]

theorem ihlOf_readdressed : ihlOf (readdressed ipMap frame) = ihlOf frame := by
  unfold ihlOf
  rw [getD_readdressed ipMap long (by unfold InAddresses; omega)]

theorem isUdp_readdressed : IsUdp (readdressed ipMap frame) ↔ IsUdp frame := by
  unfold IsUdp
  rw [getD_readdressed ipMap long (by unfold InAddresses; omega)]

theorem remap_eq (ihl : 5 ≤ ihlOf frame) (header : 4 * ihlOf frame ≤ frame.length) :
    remap ipMap frame =
      .ok (if IsRemapped ipMap frame then recomputed (readdressed ipMap frame) else frame) := by
  have length := @length_withAddress frame 12 (by omega) ipMap.srcAddress ipMap.remappedSrcAddress
  unfold remap
  rw [remapAddress_eq (by omega), ok_bind]
  dsimp only
  rw [remapAddress_eq (by omega), ok_bind, addressAt_behind ipMap long]
  dsimp only
  change (if _ then recomputeChecksum (readdressed ipMap frame) else return readdressed ipMap frame) = _
  have sameIhl := ihlOf_readdressed ipMap long
  have sameLength := length_readdressed ipMap long
  have recomputes := @recomputeChecksum_eq (readdressed ipMap frame) (by rwa [sameIhl])
    (by rwa [sameIhl, sameLength])
  by_cases found : IsRemapped ipMap frame
  · rw [if_pos (by simpa [IsRemapped] using found), recomputes, if_pos found]
  · have notFound := found
    rw [IsRemapped, not_or] at notFound
    have same : readdressed ipMap frame = frame := by
      have first : withAddress frame 12 ipMap.srcAddress ipMap.remappedSrcAddress = frame := if_neg notFound.1
      rw [readdressed, first]
      exact if_neg notFound.2
    rw [if_neg (by simpa [IsRemapped] using found), if_neg found, same]
    rfl

end Remapping

/-- A frame with a complete header is remapped right, unless it is a later fragment of a UDP datagram
    that loses data. -/
theorem remapsRight_iff {frame : List UInt8} (ipMap : IpMap) (complete : HasHeader frame) :
    RemapsRight ipMap frame ↔ ¬ CutsFragment ipMap frame := by
  have ihl := complete.ihl
  have header := complete.header
  have long : 20 ≤ frame.length := by omega
  have remaps := remap_eq ipMap long ihl header
  have sameIhl := ihlOf_readdressed ipMap long
  have sameLength := length_readdressed ipMap long
  have sameUdp := isUdp_readdressed ipMap long
  have ihl' : 5 ≤ ihlOf (readdressed ipMap frame) := by rwa [sameIhl]
  have header' : 4 * ihlOf (readdressed ipMap frame) ≤ (readdressed ipMap frame).length := by
    rwa [sameIhl, sameLength]
  -- the bytes of a remapped frame, but for the addresses and the checksum of the header
  have bytes : ∀ i, ¬ InAddresses i → ¬ InChecksum i →
      (recomputed (readdressed ipMap frame)).getD i 0 =
        if IsUdp frame ∧ RoomForUdp frame ∧ UdpChecksumPlace frame i then 0 else frame.getD i 0 := by
    intro i notAddress notChecksum
    rw [getD_recomputed ihl' header' notChecksum, getD_readdressed ipMap long notAddress]
    refine if_congr ?_ rfl rfl
    simp only [sameUdp, RoomForUdp, UdpChecksumPlace, sameIhl, sameLength]
  have behind : ∀ i, UdpChecksumPlace frame i → ¬ InAddresses i ∧ ¬ InChecksum i := by
    intro i place
    unfold UdpChecksumPlace at place
    unfold InAddresses InChecksum
    omega
  by_cases found : IsRemapped ipMap frame
  · rw [if_pos found] at remaps
    constructor
    · rintro ⟨frame', isFrame, right⟩ ⟨-, isUdp, room, later, data⟩
      rw [remaps] at isFrame
      obtain rfl := Except.ok.inj isFrame
      have zero : ∀ i, UdpChecksumPlace frame i → frame.getD i 0 = 0 := by
        intro i place
        obtain ⟨notAddress, notChecksum⟩ := behind i place
        have same := right.others i notAddress notChecksum fun part => later part.2.1
        rw [bytes i notAddress notChecksum, if_pos ⟨isUdp, room, place⟩] at same
        exact same.symm
      exact data ⟨zero _ (.inl rfl), zero _ (.inr rfl)⟩
    · intro whole
      have addresses : ∀ i, InAddresses i →
          (recomputed (readdressed ipMap frame)).getD i 0 = (readdressed ipMap frame).getD i 0 := by
        intro i part
        unfold InAddresses at part
        rw [getD_recomputed ihl' header' (by unfold InChecksum; omega), if_neg]
        rintro ⟨-, -, place⟩
        unfold UdpChecksumPlace at place
        omega
      refine ⟨_, remaps, ?_, ?_, ?_, ?_, ?_, fun notFound => absurd found notFound⟩
      · rw [length_recomputed ihl' header', sameLength]
      · rw [← source_readdressed ipMap long]
        exact addressAt_congr fun i above below => addresses i ⟨above, by omega⟩
      · rw [← destination_readdressed ipMap long]
        exact addressAt_congr fun i above below => addresses i ⟨by omega, by omega⟩
      · intro _
        rw [← sameIhl]
        exact checksum_recomputed ihl' header'
      · intro i notAddress notChecksum notUdp
        rw [bytes i notAddress notChecksum]
        split
        · next part =>
            obtain ⟨isUdp, room, place⟩ := part
            have later : fragmentOffset frame ≠ 0 := fun first => notUdp ⟨isUdp, first, room, place⟩
            have zeros : frame.getD (4 * ihlOf frame + 6) 0 = 0 ∧ frame.getD (4 * ihlOf frame + 7) 0 = 0 := by
              by_contra data
              exact whole ⟨found, isUdp, room, later, data⟩
            cases place with
            | inl first => rw [first, zeros.1]
            | inr second => rw [second, zeros.2]
        · rfl
  · rw [if_neg found] at remaps
    have same : Remaps ipMap frame frame := by
      rw [IsRemapped, not_or] at found
      exact ⟨rfl, (if_neg found.1).symm, (if_neg found.2).symm, fun remapped => absurd remapped (not_or.mpr found),
        fun _ _ _ _ => rfl, fun _ => rfl⟩
    exact ⟨fun _ cut => found cut.1, fun _ => ⟨frame, remaps, same⟩⟩

theorem serializesRight {header : PacketHeader} (inRange : header.InRange) : SerializesRight header := by
  intro buffer size compute room sized
  have serializes := serialize_spec inRange room sized compute
  generalize isChecksum : (if compute then ~~~ ipv4Checksum (header.bytes 0) else header.checksum) = checksum
    at serializes
  have length := length_bytes header checksum inRange.options inRange.ihl.1
  refine ⟨_, checksum, serializes, parse_bytes inRange checksum _, ?_⟩
  cases compute with
  | true =>
      rw [if_pos rfl, ← length, List.take_left, ← isChecksum, if_pos rfl]
      exact header_complete inRange
  | false => exact isChecksum.symm

/-- The codec of a header and the checksum are right for any header and any data. So is the remapping of
    a frame, unless it cuts a fragment. -/
theorem codec_right_remapsRight_iff {frame : List UInt8} (ipMap : IpMap) (complete : HasHeader frame) :
    (∀ header : PacketHeader, header.InRange → SerializesRight header) ∧
      (∀ data : List UInt8, data.length ≤ 65535 → (ipv4Checksum data).toNat = OnesComplement.sum data) ∧
      (RemapsRight ipMap frame ↔ ¬ CutsFragment ipMap frame) :=
  ⟨fun _ inRange => serializesRight inRange, fun _ short => ipv4Checksum_eq short,
    remapsRight_iff ipMap complete⟩

/-- A map of the source address 10.0.0.1. -/
def sourceMap : IpMap :=
  { srcAddress := 0x0A000001, dstAddress := 0, remappedSrcAddress := 0xC0A80001, remappedDstAddress := 0 }

/-- The second fragment of a UDP datagram, with eight bytes of data. -/
def laterFragment : List UInt8 :=
  [0x45, 0, 0, 28, 0, 1, 0, 1, 64, 17, 0x66, 0xCD, 10, 0, 0, 1, 10, 0, 0, 2, 1, 2, 3, 4, 5, 6, 7, 8]

theorem codec_right_laterFragment :
    ipv4Checksum (laterFragment.take 20) = 0xFFFF ∧
      (ipv4Checksum [1]).toNat = OnesComplement.sum [1] ∧
      ¬ RemapsRight sourceMap laterFragment := by
  have complete : HasHeader laterFragment := ⟨by decide, by decide, by decide⟩
  obtain ⟨-, isSum, remapsRight⟩ := codec_right_remapsRight_iff sourceMap complete
  refine ⟨by decide, isSum [1] (by decide), fun right => remapsRight.mp right ?_⟩
  exact ⟨.inl (by decide), by decide, by decide, by decide, by decide⟩

/-- The seventh byte of the data is lost. -/
theorem laterFragment_loses : ¬ ∀ (ipMap : IpMap) (frame : List UInt8), HasHeader frame →
    RemapsRight ipMap frame := by
  intro all
  obtain ⟨frame', isFrame, right⟩ := all sourceMap laterFragment ⟨by decide, by decide, by decide⟩
  have data : (remap sourceMap laterFragment).toOption.map (·.getD 26 0) = some 0 := by decide +kernel
  rw [isFrame] at data
  have same := right.others 26 (by unfold InAddresses; omega) (by unfold InChecksum; omega)
    fun part => absurd part.2.1 (by decide)
  have zero : frame'.getD 26 0 = 0 := Option.some.inj data
  rw [zero] at same
  exact absurd same (by decide)

end GoldenGate.Ipv4

import GoldenGate.Protocols.Ipv4Serializing

/-! # The workspace of the serializer

Compressing a header leaves the workspace as large as it was, so that the serializer can go
on with it and with the ring buffer, whatever the frame was.
-/

namespace GoldenGate

open Memory

/-! ## Bits -/

theorem BitOutputStream.write_length {stream next : BitOutputStream} {value n : Nat}
    (writes : stream.write value n = .ok next) : next.bytes.length = stream.bytes.length := by
  unfold BitOutputStream.write at writes
  obtain ⟨_, -, writes⟩ := bind_ok writes
  dsimp only at writes
  split at writes
  case isTrue =>
      cases writes
      rfl
  case isFalse =>
      cases writes
      exact BitOutputStream.putWord_length _ _

theorem BitOutputStream.flush_length {stream next : BitOutputStream} (flushes : stream.flush = .ok next) :
    next.bytes.length = stream.bytes.length := by
  unfold BitOutputStream.flush at flushes
  split at flushes
  case isTrue =>
      obtain ⟨flushed, writes, flushes⟩ := bind_ok flushes
      have length := BitOutputStream.write_length writes
      cases flushes
      exact length
  case isFalse =>
      cases flushes
      rfl

namespace Ipv4

/-! ## Headers -/

namespace Packing

/-- The packing still writes to the same buffer. -/
def SameSize (before after : Packing) : Prop := after.bits.bytes.length = before.bits.bytes.length

variable {before after : Packing}

theorem put_size {field default flag width : Nat} (puts : before.put field default flag width = .ok after) :
    SameSize before after := by
  unfold put at puts
  split at puts
  case isTrue =>
      obtain ⟨bits, writes, puts⟩ := bind_ok puts
      cases puts
      exact BitOutputStream.write_length writes
  case isFalse =>
      cases puts
      rfl

theorem putProtocol_size {protocol : UInt8} (puts : before.putProtocol protocol = .ok after) : SameSize before after := by
  unfold putProtocol at puts
  split_ifs at puts
  · cases puts
    rfl
  · cases puts
    rfl
  · cases puts
    rfl
  · obtain ⟨bits, writes, puts⟩ := bind_ok puts
    cases puts
    exact BitOutputStream.write_length writes

theorem putPort_size {port : UInt16} {known : Fin 3 → UInt16} {flagA flagB flagC hasPort : Nat}
    (puts : before.putPort port known flagA flagB flagC hasPort = .ok after) : SameSize before after := by
  unfold putPort at puts
  split_ifs at puts
  · cases puts
    rfl
  · cases puts
    rfl
  · cases puts
    rfl
  · obtain ⟨bits, writes, puts⟩ := bind_ok puts
    cases puts
    exact BitOutputStream.write_length writes

theorem foldlM_write_length {options : List UInt8} {stream next : BitOutputStream}
    (writes : options.foldlM (fun bits b => bits.write b.toNat 8) stream = .ok next) :
    next.bytes.length = stream.bytes.length := by
  induction options generalizing stream with
  | nil =>
      cases writes
      rfl
  | cons b options ih =>
      obtain ⟨between, first, rest⟩ := bind_ok writes
      exact (ih rest).trans (BitOutputStream.write_length first)

theorem putOptions_size {options : List UInt8} (puts : before.putOptions options = .ok after) : SameSize before after := by
  obtain ⟨bits, writes, puts⟩ := bind_ok puts
  cases puts
  exact foldlM_write_length writes

theorem putUdp_size {ipHeader : PacketHeader} {ipConfig : IpConfig} {udpHeader : Option UdpPacketHeader}
    (puts : before.putUdp ipHeader ipConfig udpHeader = .ok after) : SameSize before after := by
  cases udpHeader with
  | none =>
      cases puts
      rfl
  | some udpHeader =>
      obtain ⟨source, putsSource, puts⟩ := bind_ok puts
      obtain ⟨destination, putsDestination, puts⟩ := bind_ok puts
      have ports := (putPort_size putsDestination).trans (putPort_size putsSource)
      unfold putLength at puts
      split at puts
      case isTrue =>
          obtain ⟨bits, writes, puts⟩ := bind_ok puts
          cases puts
          exact (BitOutputStream.write_length writes).trans ports
      case isFalse =>
          cases puts
          exact ports

end Packing

theorem compressHeaders_length {ipHeader : PacketHeader} {udpHeader : Option UdpPacketHeader} {ipConfig : IpConfig}
    {buffer buffer' : List UInt8} {size : Nat}
    (compresses : compressHeaders ipHeader udpHeader ipConfig buffer = .ok (buffer', size)) :
    buffer'.length = buffer.length := by
  unfold compressHeaders at compresses
  obtain ⟨_, large, compresses⟩ := bind_ok compresses
  obtain ⟨_, -, compresses⟩ := bind_ok compresses
  obtain ⟨p1, put1, compresses⟩ := bind_ok compresses
  obtain ⟨p2, put2, compresses⟩ := bind_ok compresses
  obtain ⟨p3, put3, compresses⟩ := bind_ok compresses
  obtain ⟨p4, put4, compresses⟩ := bind_ok compresses
  obtain ⟨p5, put5, compresses⟩ := bind_ok compresses
  obtain ⟨p6, put6, compresses⟩ := bind_ok compresses
  obtain ⟨p7, put7, compresses⟩ := bind_ok compresses
  obtain ⟨p8, put8, compresses⟩ := bind_ok compresses
  obtain ⟨p9, put9, compresses⟩ := bind_ok compresses
  obtain ⟨p10, put10, compresses⟩ := bind_ok compresses
  obtain ⟨p11, put11, compresses⟩ := bind_ok compresses
  obtain ⟨_, -, compresses⟩ := bind_ok compresses
  obtain ⟨flushed, flushes, compresses⟩ := bind_ok compresses
  have enough : compressionFixedSize ≤ buffer.length := by
    unfold assert at large
    split at large
    case isTrue fits => exact of_decide_eq_true fits
    case isFalse => cases large
  have length : flushed.bytes.length = (buffer.drop compressionFixedSize).length := by
    calc flushed.bytes.length = p11.bits.bytes.length := BitOutputStream.flush_length flushes
      _ = p10.bits.bytes.length := Packing.putUdp_size put11
      _ = p9.bits.bytes.length := Packing.putOptions_size put10
      _ = p8.bits.bytes.length := Packing.put_size put9
      _ = p7.bits.bytes.length := Packing.put_size put8
      _ = p6.bits.bytes.length := Packing.putProtocol_size put7
      _ = p5.bits.bytes.length := Packing.put_size put6
      _ = p4.bits.bytes.length := Packing.put_size put5
      _ = p3.bits.bytes.length := Packing.put_size put4
      _ = p2.bits.bytes.length := Packing.put_size put3
      _ = p1.bits.bytes.length := Packing.put_size put2
      _ = (buffer.drop compressionFixedSize).length := Packing.put_size put1
  cases compresses
  rw [List.length_append, length, List.length_drop]
  unfold compressionFixedSize at *
  exact Nat.add_sub_cancel' enough

/-- Whatever the serializer does, it can go on with its workspace and the ring buffer. -/
theorem serializeFrame_keeps {serializer serializer' : FrameSerializer} {ring ring' : RingBuffer} {frame : List UInt8}
    {result : Except Error Unit} (formed : ring.WellFormed)
    (serializes : serializer.serializeFrame frame ring = .ok (serializer', ring', result)) :
    ring'.WellFormed ∧ serializer'.ipConfig = serializer.ipConfig ∧
      serializer'.workspace.length = serializer.workspace.length := by
  unfold FrameSerializer.serializeFrame at serializes
  split at serializes
  case isTrue =>
      cases serializes
      exact ⟨formed, rfl, rfl⟩
  case isFalse =>
  split at serializes
  case isTrue =>
      cases serializes
      exact ⟨formed, rfl, rfl⟩
  case isFalse =>
  cases config : serializer.ipConfig with
  | none =>
      rw [config] at serializes
      obtain ⟨next, writes, formed', -⟩ := RingBuffer.write_spec formed frame
      simp only [writes, ok_bind, pure_ok] at serializes
      cases serializes
      exact ⟨formed', config, rfl⟩
  | some ipConfig =>
      rw [config] at serializes
      obtain ⟨parsed, -, serializes⟩ := bind_ok serializes
      cases parsed with
      | error e =>
          cases serializes
          exact ⟨formed, config, rfl⟩
      | ok ipHeader =>
          dsimp only at serializes
          split at serializes
          case isTrue =>
              cases serializes
              exact ⟨formed, config, rfl⟩
          case isFalse =>
          obtain ⟨parsedUdp, -, serializes⟩ := bind_ok serializes
          cases parsedUdp with
          | error e =>
              cases serializes
              exact ⟨formed, config, rfl⟩
          | ok udpHeader =>
              obtain ⟨⟨workspace, size⟩, compresses, serializes⟩ := bind_ok serializes
              obtain ⟨first, writes, formed', -⟩ := RingBuffer.write_spec formed (workspace.take size)
              dsimp only at serializes
              rw [writes] at serializes
              obtain ⟨last, writes', formed'', -⟩ := RingBuffer.write_spec formed'
                (frame.drop (4 * ipHeader.ihl.toNat + (if ipHeader.protocol = protocolUdp then udpHeaderSize else 0)))
              simp only [ok_bind, writes', pure_ok] at serializes
              cases serializes
              exact ⟨formed'', rfl, compressHeaders_length compresses⟩

/-! ## Packets -/

/-- What comes out for a frame: the expected frame, except for a UDP frame with compressed headers. -/
def Arrives (ipConfig : Option IpConfig) (frame frame' : List UInt8) : Prop :=
  frame' = expectedFrame ipConfig frame ↔ ipConfig = none ∨ ¬ IsUdp frame

/-- The serializer takes nothing of a frame, or makes one packet of it, from which an assembler gets a frame. -/
theorem serializeFrame_packs {serializer : FrameSerializer} {ring : RingBuffer} {frame : List UInt8}
    (wellFormed : WellFormed frame) (workspace : serializer.workspace.length = FrameSerializer.workspaceSize)
    (formed : ring.WellFormed) :
    (∃ e, serializer.serializeFrame frame ring = .ok (serializer, ring, .error e)) ∨
      ∃ serializer' ring' packet frame', serializer.serializeFrame frame ring = .ok (serializer', ring', .ok ()) ∧
        ring'.contents = ring.contents ++ packet ∧ announced packet = packet.length ∧ 4 ≤ packet.length ∧
        packet.length ≤ frame.length ∧
        FrameAssembler.packetFrame serializer.ipConfig none packet = .ok (.ok frame') ∧
        Arrives serializer.ipConfig frame frame' := by
  by_cases large : ring.size ≤ frame.length
  · exact .inl ⟨_, serializeFrame_tooLarge large⟩
  by_cases full : ring.getSpace < frame.length + 2
  · exact .inl ⟨_, serializeFrame_blocks (Nat.not_le.mp large) full⟩
  have space : frame.length + 2 ≤ ring.getSpace := Nat.not_lt.mp full
  have ihl := wellFormed.ihl
  have header := wellFormed.header
  cases config : serializer.ipConfig with
  | none =>
      obtain ⟨serializer', ring', serializes, contents, emits⟩ := serializeFrame_plain wellFormed config formed space
      refine .inr ⟨serializer', ring', frame, frame, serializes, contents, wellFormed.total, by omega, le_rfl, emits, ?_⟩
      unfold Arrives expectedFrame
      simp
  | some ipConfig =>
      obtain ⟨serializer', ring', packet, emitted, serializes, contents, announces, long, small, emits, restores⟩ :=
        serializeFrame_compressed wellFormed config workspace formed space
      refine .inr ⟨serializer', ring', packet, emitted, serializes, contents, announces, long, small, emits, ?_⟩
      unfold Arrives expectedFrame
      rw [Option.isSome_some, if_pos rfl, restores]
      simp

end Ipv4

end GoldenGate

import GoldenGate.Gattlink.Invariants

/-! # The inbound buffer

A payload stays in the buffer until the client has consumed all of it. A payload without a
byte is in the buffer as well, with nothing to consume.
-/

namespace GoldenGate.Gattlink

open Memory Endpoint

/-- What a client may rely on. -/
structure Inbound.Sound (in_ : Inbound) : Prop where
  full : in_.payloadBufferFull = true ↔ in_.bytesConsumed < in_.payload.length
  consumed : in_.bytesConsumed ≤ in_.payload.length
  fits : in_.payload.length < maxPacketSize

/-- A read is rejected, or it copies bytes of the payload that are not consumed yet. -/
def Inbound.Reads (in_ : Inbound) (offset size : Nat) : Prop :=
  in_.getIncomingData offset size = .ok (.error .invalidParameters) ∨
    in_.bytesConsumed + offset + size ≤ in_.payload.length ∧
      in_.getIncomingData offset size = .ok (.ok ((in_.payload.drop (in_.bytesConsumed + offset)).take size))

/-- The end of a read is past the largest size there is, and does not seem to be. -/
def Inbound.Wraps (in_ : Inbound) (offset size : Nat) : Prop :=
  2 ^ 64 ≤ offset + size ∧ size ≤ in_.getIncomingDataAvailable ∧
    offset + size - 2 ^ 64 ≤ in_.getIncomingDataAvailable

namespace Inbound.Sound

variable {in_ : Inbound}

theorem zero : Sound .zero := ⟨by simp [Inbound.zero], Nat.le_refl 0, by decide⟩

theorem accept {psn : Nat} {payload : List UInt8} (nonempty : payload ≠ []) (fits : payload.length < maxPacketSize) :
    Sound (.accept psn payload) :=
  ⟨by simp [Inbound.accept, List.length_pos_iff, nonempty], Nat.zero_le _, fits⟩

theorem available (sound : Sound in_) : in_.getIncomingDataAvailable = in_.payload.length - in_.bytesConsumed := by
  unfold getIncomingDataAvailable
  split
  case isTrue => rfl
  case isFalse empty =>
      have all := mt sound.full.mpr empty
      omega

theorem consume (sound : Sound in_) (size : Nat) : Sound (in_.consumeIncomingData size).1 := by
  unfold consumeIncomingData
  by_cases more : size > in_.getIncomingDataAvailable
  · rw [if_pos more]
    exact sound
  rw [if_neg more]
  have available := sound.available
  have consumed := sound.consumed
  refine ⟨?_, ?_, sound.fits⟩
  · dsimp only
    by_cases all : in_.bytesConsumed + size = in_.payload.length
    · rw [if_pos all]
      simp [all]
    · rw [if_neg all, sound.full]
      omega
  · dsimp only
    omega

/-- Everything that is available is consumed: the buffer is free. -/
theorem consume_all (sound : Sound in_) :
    (in_.consumeIncomingData in_.getIncomingDataAvailable).2 = .ok () ∧
      (in_.consumeIncomingData in_.getIncomingDataAvailable).1.payloadBufferFull = false := by
  have available := sound.available
  have consumed := sound.consumed
  unfold consumeIncomingData
  rw [if_neg (Nat.lt_irrefl _)]
  dsimp only
  rw [if_pos (by omega)]
  exact ⟨rfl, rfl⟩

/-- A read is rejected, or it stays inside the payload, unless its end is wrapped around. -/
theorem reads_iff (sound : Sound in_) {offset size : Nat} (offsetFits : offset < 2 ^ 64) (sizeFits : size < 2 ^ 64) :
    in_.Reads offset size ↔ ¬ in_.Wraps offset size := by
  have available := sound.available
  have consumed := sound.consumed
  have fits : in_.payload.length < 512 := sound.fits
  unfold Reads Wraps getIncomingData
  dsimp only
  by_cases rejected : in_.getIncomingDataAvailable < size ∨ (offset + size) % 2 ^ 64 > in_.getIncomingDataAvailable
  · rw [if_pos rejected]
    have other : ¬ (2 ^ 64 ≤ offset + size ∧ size ≤ in_.getIncomingDataAvailable ∧
        offset + size - 2 ^ 64 ≤ in_.getIncomingDataAvailable) := by omega
    exact ⟨fun _ => other, fun _ => .inl rfl⟩
  rw [if_neg rejected]
  by_cases wraps : 2 ^ 64 ≤ offset + size
  · rw [if_pos (by omega)]
    have isWrap : 2 ^ 64 ≤ offset + size ∧ size ≤ in_.getIncomingDataAvailable ∧
        offset + size - 2 ^ 64 ≤ in_.getIncomingDataAvailable := by omega
    refine ⟨fun reads => ?_, fun other => (other isWrap).elim⟩
    cases reads with
    | inl rejected => cases rejected
    | inr inside => cases inside.2
  · rw [if_neg (by omega)]
    exact ⟨fun _ isWrap => wraps isWrap.1, fun _ => .inr ⟨by omega, rfl⟩⟩

end Inbound.Sound

/-- The invariants of the inbound buffer alone. -/
theorem Kept.ofInbound {Accept : Endpoint → List UInt8 → Prop} {Inv : Inbound → Prop} (zero : Inv .zero)
    (consume : ∀ {in_ : Inbound} (size : Nat), Inv in_ → Inv (in_.consumeIncomingData size).1)
    (accept : ∀ {side : Endpoint} (psn : Nat) {payload : List UInt8}, payload.length < maxPacketSize →
      Accept side payload → Inv (.accept psn payload)) :
    Kept { accept := Accept } fun side => Inv side.protocol.in_ where
  queue _ inv := inv
  consumeIncomingData size inv := consume size inv
  resize _ inv := inv
  refused inv prepares := by
    obtain ⟨timer, rfl⟩ := prepareNextPacket_same prepares
    exact inv
  sent inv prepares := by
    obtain ⟨timer, rfl⟩ := prepareNextPacket_same prepares
    exact inv
  acknowledge inv _ _ _ _ := by
    rwa [acknowledged_protocol]
  accept _ _ _ _ _ fits may := accept _ fits may
  ackWith inv _ _ := inv
  countUnacked inv _ := inv
  clearStall inv := by rwa [clearStall_protocol]
  leave inv _ _ := by rwa [leaveSession_protocol]
  schedule _ inv _ _ := inv
  transmit _ inv _ _ := by rwa [sendRawData_protocol]
  agree _ _ inv _ _ := inv
  enter _ _ _ := zero
  ackTimerFired inv _ := inv
  stalled inv _ _ _ := by
    unfold retransmitTimerFired
    rwa [countStall_in]
  rolledBack inv _ _ _ := by
    rw [rolledBack_in]
    unfold retransmitTimerFired
    rwa [countStall_in]

/-! ## Runs -/

/-- The buffer behind the calls of a client. -/
def Inbound.afterCalls (in_ : Inbound) (clientCalls : List ClientCall) : Inbound :=
  clientCalls.foldl (fun in_ clientCall =>
    match clientCall with
    | .consumeIncomingData size => (in_.consumeIncomingData size).1
    | _ => in_) in_

/-- The buffer for the payload of a data packet. When the ack of the packet is awaited, the
    client is called first. -/
def Endpoint.bufferFor (side : Endpoint) (reactions : Reactions) (packet : List UInt8) : Inbound :=
  match ackOf packet with
  | some psn =>
      if side.protocol.out.packetIsAwaitingAck psn then side.protocol.in_.afterCalls reactions.onConsume
      else side.protocol.in_
  | none => side.protocol.in_

/-- A packet is the next one to accept, and its payload has no byte. -/
def Endpoint.AcceptsNothing (side : Endpoint) (reactions : Reactions) (packet : List UInt8) : Prop :=
  side.protocol.state = .ready ∧ packet.headD 0 &&& packetTypeMask ≠ packetTypeControl ∧
    (side.bufferFor reactions packet).payloadBufferFull = false ∧
    payloadOf packet = some ((side.bufferFor reactions packet).nextExpectedDataPsn, [])

/-- No packet without a payload is accepted. -/
def Endpoint.AcceptsBytes (side : Endpoint) : Input → Prop
  | .receive reactions packet => ¬ side.AcceptsNothing reactions packet
  | _ => True

instance : ∀ (side : Endpoint) (next : Input), Decidable (side.AcceptsBytes next)
  | _, .receive _ _ => inferInstanceAs (Decidable (¬ (_ ∧ _ ∧ _ ∧ _)))
  | _, .start | _, .reset | _, .call _ | _, .ackTimer | _, .retransmitTimer _ => isTrue trivial

/-- The loop that sends packets is about the outbound side only. -/
theorem sendNextPackets_same {rounds : Nat} {side side' : Endpoint} (sends : sendNextPackets rounds side = .ok side') :
    side' = { side with
      protocol := { side.protocol with out := side'.protocol.out }
      sendResults := side'.sendResults
      wire := side'.wire } := by
  let Same (next : Endpoint) :=
    { next with protocol := { next.protocol with out := side.protocol.out }, sendResults := side.sendResults, wire := side.wire } = side
  have keeps : Proceeds (fun _ => True) Same side (sendNextPackets rounds side) (traceLoop rounds side) := by
    apply @Proceeds.loop _ Same _ (fun _ => id) ?_ ?_ (fun _ _ => trivial) rounds side rfl
    all_goals
      intro before next prepared same prepares
      obtain ⟨timer, rfl⟩ := prepareNextPacket_same prepares
      exact same
  exact congrArg (fun side : Endpoint => { side with
    protocol := { side.protocol with out := side'.protocol.out }
    sendResults := side'.sendResults
    wire := side'.wire }) (keeps.comes sends)

theorem sendNextPackets_protocol {rounds : Nat} {side side' : Endpoint} (sends : sendNextPackets rounds side = .ok side') :
    side'.protocol = { side.protocol with out := side'.protocol.out } :=
  congrArg Endpoint.protocol (sendNextPackets_same sends)

theorem sendNextPackets_in {rounds : Nat} {side side' : Endpoint} (sends : sendNextPackets rounds side = .ok side') :
    side'.protocol.in_ = side.protocol.in_ := by
  rw [sendNextPackets_protocol sends]

theorem call_in {turns : Nat} {side side' : Endpoint} {clientCall : ClientCall}
    (done : call turns side clientCall = .ok side') : side'.protocol.in_ = side.protocol.in_.afterCalls [clientCall] := by
  cases clientCall with
  | queue bytes =>
      cases done
      rfl
  | notifyOutgoingDataAvailable => exact sendNextPackets_in done
  | consumeIncomingData size =>
      cases done
      rfl
  | setTransportMaxPacketSize size =>
      cases done
      rfl

theorem calls_in {turns : Nat} {side side' : Endpoint} {clientCalls : List ClientCall}
    (done : calls turns side clientCalls = .ok side') : side'.protocol.in_ = side.protocol.in_.afterCalls clientCalls := by
  induction clientCalls generalizing side with
  | nil =>
      cases done
      rfl
  | cons clientCall rest ih =>
      obtain ⟨between, first, later⟩ := bind_ok done
      rw [ih later, call_in first]
      rfl

theorem afterAck_in {turns : Nat} {side side' : Endpoint} {reactions : Reactions} {packet : List UInt8}
    (acked : side.afterAck turns reactions packet = .ok side') :
    side'.protocol.in_ = side.bufferFor reactions packet := by
  unfold afterAck at acked
  unfold bufferFor
  cases isAck : ackOf packet with
  | none =>
      rw [isAck] at acked
      cases acked
      rfl
  | some psn =>
      rw [isAck] at acked
      dsimp only at acked ⊢
      rw [handleAck_eq] at acked
      split at acked
      case isTrue awaiting =>
          rw [if_pos awaiting, calls_in acked]
          rw [acknowledged_protocol]
      case isFalse notAwaiting =>
          cases acked
          rw [if_neg notAwaiting]

theorem bufferFor_clearStall (side : Endpoint) (reactions : Reactions) (packet : List UInt8) :
    side.clearStall.bufferFor reactions packet = side.bufferFor reactions packet := by
  unfold bufferFor
  rw [clearStall_protocol]

/-- Nothing but an empty payload spoils the buffer. -/
def acceptsBytes : Provisos where
  accept _ payload := payload ≠ []

theorem kept_sound : Kept acceptsBytes fun side => side.protocol.in_.Sound :=
  .ofInbound .zero (fun size sound => sound.consume size) fun _ _ fits nonempty => .accept nonempty fits

theorem AcceptsBytes.may (turns : Nat) {side : Endpoint} {next : Input} (accepts : side.AcceptsBytes next) :
    side.May turns acceptsBytes next := by
  cases next with
  | start | reset | ackTimer | retransmitTimer => trivial
  | call clientCall => exact may_call trivial clientCall
  | receive reactions packet =>
      intro ready isData _
      refine ⟨fun _ _ => trivial, ?_⟩
      rintro side' psn payload acked isPayload free expected rfl
      have buffer := afterAck_in acked
      rw [bufferFor_clearStall] at buffer
      rw [buffer] at free expected
      exact accepts ⟨ready, isData, free, expected ▸ isPayload⟩

/-- In every state of a run in which no packet without a payload is accepted, the buffer is
    full as long as there is something to consume, and consuming what is available makes it
    free; a read stays inside the payload exactly when its end is not wrapped around. -/
theorem inboundBuffer_sound (config : SessionConfig) (transportMaxPacketSize turns : Nat)
    (sendResults : List (Except Error Unit)) {inputs : List Input} {side : Endpoint}
    (permits : (create config transportMaxPacketSize sendResults).Permits turns AcceptsBytes inputs)
    (reaches : (create config transportMaxPacketSize sendResults).Reaches turns inputs side) :
    let in_ := side.protocol.in_
    (in_.payloadBufferFull = true ↔ in_.bytesConsumed < in_.payload.length) ∧
      in_.payload.length ≤ maxPacketSize ∧
      (∀ offset size, offset < 2 ^ 64 → size < 2 ^ 64 → (in_.Reads offset size ↔ ¬ in_.Wraps offset size)) ∧
      (in_.consumeIncomingData in_.getIncomingDataAvailable).2 = .ok () ∧
      (in_.consumeIncomingData in_.getIncomingDataAvailable).1.payloadBufferFull = false := by
  have sound := kept_sound.reaches (fun _ _ accepts => AcceptsBytes.may turns accepts) Inbound.Sound.zero permits reaches
  exact ⟨sound.full, sound.fits.le, fun _ _ offsetFits sizeFits => sound.reads_iff offsetFits sizeFits, sound.consume_all⟩

def noReactions : Reactions := ⟨[], [], []⟩

/-- The session begins, and the first packet of the peer comes. -/
def firstPacket (packet : List UInt8) : List Input :=
  [.start, .receive noReactions (resetCompletePacket ⟨8, 8⟩), .receive noReactions packet]

theorem inboundBuffer_sound_firstPacket :
    ∃ side, (create ⟨8, 8⟩ 100 []).run 10 (firstPacket [0, 7]) = .ok side ∧ side.protocol.in_.payload = [7] ∧
      (side.protocol.in_.consumeIncomingData side.protocol.in_.getIncomingDataAvailable).1.payloadBufferFull = false := by
  have permits : (create ⟨8, 8⟩ 100 []).Permits 10 AcceptsBytes (firstPacket [0, 7]) := by decide
  refine ⟨_, rfl, rfl, ?_⟩
  exact (inboundBuffer_sound ⟨8, 8⟩ 100 10 [] permits (.inl rfl)).2.2.2.2

/-- A packet with nothing but its serial number fills the buffer with nothing; and a byte in
    front of the payload is read. -/
theorem inboundBuffer_filled_with_nothing :
    (∃ side, (create ⟨8, 8⟩ 100 []).run 10 (firstPacket [0]) = .ok side ∧
      side.protocol.in_.payloadBufferFull = true ∧ ¬ side.protocol.in_.bytesConsumed < side.protocol.in_.payload.length) ∧
    ∃ side, (create ⟨8, 8⟩ 100 []).run 10 (firstPacket [0, 7]) = .ok side ∧
      side.protocol.in_.getIncomingData (2 ^ 64 - 1) 1 = .error .outOfBounds := by
  refine ⟨⟨_, rfl, rfl, ?filled⟩, _, rfl, ?wraps⟩
  case filled => decide
  case wraps =>
      change (Inbound.accept 0 [7]).getIncomingData (2 ^ 64 - 1) 1 = .error .outOfBounds
      norm_num [Inbound.getIncomingData, Inbound.getIncomingDataAvailable, Inbound.accept]

end GoldenGate.Gattlink

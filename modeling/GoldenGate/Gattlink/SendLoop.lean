import GoldenGate.Gattlink.Invariants

/-! # The loop that sends packets

Each turn sends an ack or one more packet of the window. The number of packets in flight is
a distance between serial numbers, which is less than 32; a window of 32 packets or more is
never full.
-/

namespace GoldenGate.Gattlink

open Memory Endpoint

/-! ## One turn -/

/-- The largest size of a packet with data, behind the ack if there is one. -/
def Endpoint.room (side : Endpoint) : Nat :=
  min side.transportMaxPacketSize maxPacketSize - if AckPending side then 1 else 0

/-- What was sent, as far as acks are concerned. -/
def Endpoint.outAcked (side : Endpoint) : Outbound :=
  if AckPending side then side.protocol.out.ackSent else side.protocol.out

/-- The bit that is set is there. -/
theorem or_and_self (bit byte : UInt8) : (bit ||| byte) &&& bit = bit := by
  apply UInt8.toNat_inj.mp
  rw [UInt8.toNat_and, UInt8.toNat_or]
  apply Nat.eq_of_testBit_eq
  intro i
  rw [Nat.testBit_and, Nat.testBit_or]
  cases bit.toNat.testBit i <;> simp

/-- A packet is an ack without data, or it has the next payload. -/
theorem withSent_cases {side next : Endpoint} {prepared : Prepared} (small : side.protocol.out.nextDataSn < snWindowSize)
    (prepares : side.prepareNextPacket = .ok (next, some prepared)) :
    (AckPending side ∧ next = side ∧ prepared.payloadSize = 0 ∧
        (next.withSent prepared).protocol.out = side.protocol.out.ackSent) ∨
      next = side.armRetransmit ∧ prepared.payloadSize ≠ 0 ∧ side.outgoing.length ≠ 0 ∧
        side.protocol.out.getNumPacketsInFlight < side.protocol.actualSessionCfg.maxTxWindowSize.toNat ∧
        side.nextDataSize side.room side.protocol.out.getTotalNumBytesAwaitingAck = .ok prepared.payloadSize ∧
        (next.withSent prepared).protocol.out = side.armRetransmit.outAcked.dataSent prepared.payloadSize := by
  have ackHeader := or_and_self dataPacketTypeWithAck (UInt8.ofNat side.protocol.out.psnToAckWith)
  have dataHeader : UInt8.ofNat side.protocol.out.nextDataSn &&& dataPacketTypeWithAck ≠ dataPacketTypeWithAck := by
    generalize side.protocol.out.nextDataSn = psn at small
    revert psn
    decide
  obtain ⟨rfl, isNone | ⟨nonempty, isAckOnly⟩⟩ | ⟨rfl, dataSize, nonzero, size, windowOpen, queued, isData⟩ :=
    prepareData_some (prepareNextPacket_cases prepares).2
  · cases isNone
  · have pending : AckPending next := by
      by_contra silent
      rw [if_neg silent] at nonempty
      exact nonempty rfl
    rw [if_pos pending] at isAckOnly
    cases isAckOnly
    refine .inl ⟨pending, rfl, rfl, ?_⟩
    unfold withSent packetSent
    simp only [List.headD_cons, ackHeader, if_true]
    rfl
  · cases isData
    refine .inr ⟨rfl, nonzero, queued, windowOpen, size, ?_⟩
    unfold withSent packetSent outAcked
    have pendingSame : AckPending side.armRetransmit ↔ AckPending side := by
      obtain ⟨timer, same⟩ := armRetransmit_same side
      rw [same]
      exact .rfl
    dsimp only
    rw [if_pos (Nat.pos_of_ne_zero nonzero)]
    by_cases pending : AckPending side
    · rw [if_pos pending, if_pos (pendingSame.mpr pending)]
      simp only [List.headD_cons, List.cons_append, ackHeader, if_true]
      rfl
    · rw [if_neg pending, if_neg (mt pendingSame.mp pending)]
      simp only [List.headD_cons, List.nil_append, dataHeader, if_false]
      rfl

section Frames

variable (side : Endpoint)

@[simp] theorem armRetransmit_state : side.armRetransmit.protocol.state = side.protocol.state := by
  obtain ⟨timer, same⟩ := armRetransmit_same side
  rw [same]
  rfl

@[simp] theorem armRetransmit_session :
    side.armRetransmit.protocol.actualSessionCfg = side.protocol.actualSessionCfg := by
  obtain ⟨timer, same⟩ := armRetransmit_same side
  rw [same]
  rfl

@[simp] theorem armRetransmit_outgoing : side.armRetransmit.outgoing = side.outgoing := by
  obtain ⟨timer, same⟩ := armRetransmit_same side
  rw [same]
  rfl

/-- What the retransmission timer and an ack have nothing to do with. -/
theorem outAcked_window :
    side.armRetransmit.outAcked.nextExpectedAckSn = side.protocol.out.nextExpectedAckSn ∧
      side.armRetransmit.outAcked.nextDataSn = side.protocol.out.nextDataSn ∧
      side.armRetransmit.outAcked.payloadSizes = side.protocol.out.payloadSizes := by
  obtain ⟨timer, same⟩ := armRetransmit_same side
  unfold outAcked
  rw [same]
  split <;> exact ⟨rfl, rfl, rfl⟩

theorem acknowledged_out (psn : Nat) :
    (side.acknowledged psn).protocol.out =
      { rearm (side.protocol.out.clearPayloadSizesUpTo (getNextSn psn)) (getNextSn psn) with
        nextExpectedAckSn := getNextSn psn } := by
  unfold acknowledged
  rw [consumeOutgoingData_protocol]
  rfl

end Frames

theorem getNextSn_lt (sn : Nat) : getNextSn sn < snWindowSize := Nat.mod_lt _ (by decide)

/-- The serial numbers of a window are serial numbers. -/
structure Endpoint.SmallSns (side : Endpoint) : Prop where
  ackSn : side.protocol.out.nextExpectedAckSn < snWindowSize
  dataSn : side.protocol.out.nextDataSn < snWindowSize

theorem Endpoint.SmallSns.congr {side side' : Endpoint} (small : side.SmallSns)
    (out : side'.protocol.out = side.protocol.out) : side'.SmallSns := by
  obtain ⟨ackSn, dataSn⟩ := small
  exact ⟨out ▸ ackSn, out ▸ dataSn⟩

theorem kept_smallSns : Kept {} Endpoint.SmallSns where
  queue _ small := ⟨small.ackSn, small.dataSn⟩
  consumeIncomingData _ small := ⟨small.ackSn, small.dataSn⟩
  resize _ small := ⟨small.ackSn, small.dataSn⟩
  refused small prepares := by
    obtain ⟨timer, rfl⟩ := prepareNextPacket_same prepares
    exact ⟨small.ackSn, small.dataSn⟩
  sent {side next prepared} small prepares := by
    obtain ⟨-, -, -, out⟩ | ⟨-, -, -, -, -, out⟩ := withSent_cases small.dataSn prepares
    · exact ⟨out ▸ small.ackSn, out ▸ small.dataSn⟩
    · have ackSn := (outAcked_window side).1
      exact ⟨out ▸ (ackSn ▸ small.ackSn : side.armRetransmit.outAcked.nextExpectedAckSn < _), out ▸ getNextSn_lt _⟩
  acknowledge {side psn} small _ _ _ _ := by
    refine ⟨?_, ?_⟩
    · rw [acknowledged_out]
      exact getNextSn_lt psn
    · rw [acknowledged_out, Outbound.clearPayloadSizesUpTo, foldl_clear]
      exact small.dataSn
  accept small _ _ _ _ _ _ := ⟨small.ackSn, small.dataSn⟩
  ackWith small _ _ := ⟨small.ackSn, small.dataSn⟩
  countUnacked small _ := ⟨small.ackSn, small.dataSn⟩
  leave small _ _ := by
    refine ⟨?_, ?_⟩
    · rw [leaveSession_protocol]
      exact small.ackSn
    · rw [leaveSession_protocol]
      exact small.dataSn
  schedule _ small _ _ := ⟨small.ackSn, small.dataSn⟩
  transmit _ small _ _ := small.congr (by rw [sendRawData_protocol])
  agree _ _ small _ _ := ⟨small.ackSn, small.dataSn⟩
  enter _ _ _ := ⟨Nat.succ_pos 31, Nat.succ_pos 31⟩
  clearStall small := small.congr (by rw [clearStall_protocol])
  ackTimerFired small _ := ⟨small.ackSn, small.dataSn⟩
  stalled {side elapsed} small _ _ _ := by
    have fired : (side.retransmitTimerFired elapsed).protocol.out = _ := countStall_out _ elapsed
    exact ⟨fired ▸ small.ackSn, fired ▸ small.dataSn⟩
  rolledBack {side elapsed} small _ _ _ := by
    have fired : (side.retransmitTimerFired elapsed).protocol.out = _ := countStall_out _ elapsed
    refine ⟨?_, ?_⟩
    · change (side.retransmitTimerFired elapsed).protocol.out.nextExpectedAckSn < _
      exact fired ▸ small.ackSn
    · change (side.retransmitTimerFired elapsed).protocol.out.nextExpectedAckSn < _
      exact fired ▸ small.ackSn

/-! ## The number of turns -/

/-- A packet has data, or it is an ack only. -/
def Happening.HasData : Happening → Bool
  | .sent _ _ size => decide (1 < size)
  | .called _ _ => false

def Happening.IsAckOnly : Happening → Bool
  | .sent _ _ size => decide (size = 1)
  | .called _ _ => false

/-- The loop comes to its end, with no more data packets than the window has and with one
    ack at most. -/
def Endpoint.Ends (side : Endpoint) : Prop :=
  ∃ rounds, sendNextPackets rounds side ≠ .error .diverges ∧
    (traceLoop rounds side).countP Happening.HasData ≤ side.protocol.actualSessionCfg.maxTxWindowSize.toNat ∧
    (traceLoop rounds side).countP Happening.IsAckOnly ≤ 1

theorem assert_error {condition : Bool} {fault : Fault} (fails : Memory.assert condition = .error fault) :
    fault = .assertion := by
  unfold Memory.assert at fails
  split at fails
  case isTrue => cases fails
  case isFalse =>
      cases fails
      rfl

theorem bind_error {α β : Type} {x : Access α} {f : α → Access β} {fault : Fault} (fails : (x >>= f) = .error fault) :
    x = .error fault ∨ ∃ a, x = .ok a ∧ f a = .error fault := by
  cases x with
  | error other =>
      cases fails
      exact .inl rfl
  | ok a => exact .inr ⟨a, rfl, fails⟩

/-- Preparing a packet may fail, but it comes to its end. -/
theorem prepareNextPacket_error {side : Endpoint} {fault : Fault} (fails : side.prepareNextPacket = .error fault) :
    fault = .assertion := by
  have data : ∀ ack maxSize, side.prepareData ack maxSize = .error fault → fault = .assertion := by
    intro ack maxSize fails
    unfold prepareData at fails
    dsimp only at fails
    split at fails
    case isTrue => cases fails
    case isFalse =>
        split at fails
        case isTrue => cases fails
        case isFalse =>
            cases bind_error fails with
            | inl size =>
                unfold nextDataSize at size
                dsimp only at size
                split at size
                case isTrue =>
                    cases bind_error size with
                    | inl small => exact assert_error small
                    | inr rest =>
                        obtain ⟨_, -, rest⟩ := rest
                        cases rest
                case isFalse => cases size
            | inr rest =>
                obtain ⟨dataSize, -, rest⟩ := rest
                split at rest <;> cases rest
  unfold prepareNextPacket at fails
  cases bind_error fails with
  | inl small => exact assert_error small
  | inr rest =>
      obtain ⟨_, -, rest⟩ := rest
      dsimp only at rest
      split at rest
      case isTrue => exact data _ _ rest
      case isFalse => exact data _ _ rest

/-- Behind a packet that was sent no ack is due. -/
theorem withSent_silent {side next : Endpoint} {prepared : Prepared} (small : side.SmallSns)
    (prepares : side.prepareNextPacket = .ok (next, some prepared)) : ¬ AckPending (next.withSent prepared) := by
  have session : (next.withSent prepared).protocol.actualSessionCfg = side.protocol.actualSessionCfg := by
    obtain ⟨timer, rfl⟩ := prepareNextPacket_same prepares
    rfl
  unfold AckPending
  rw [session]
  obtain ⟨-, -, -, out⟩ | ⟨-, -, -, -, -, out⟩ := withSent_cases small.dataSn prepares
  · rw [out]
    simp [Outbound.ackSent]
  · rw [out]
    obtain ⟨timer, same⟩ := armRetransmit_same side
    unfold outAcked
    rw [same]
    split
    case isTrue => simp [Outbound.dataSent, Outbound.setPayloadSize, Outbound.ackSent]
    case isFalse silent => exact silent

/-- The number of packets in flight, behind a packet that was sent. -/
theorem withSent_progress {side next : Endpoint} {prepared : Prepared} (small : side.SmallSns)
    (window : side.protocol.actualSessionCfg.maxTxWindowSize.toNat < snWindowSize)
    (prepares : side.prepareNextPacket = .ok (next, some prepared)) :
    (prepared.payloadSize = 0 ∧ AckPending side ∧
        (next.withSent prepared).protocol.out.getNumPacketsInFlight = side.protocol.out.getNumPacketsInFlight) ∨
      prepared.payloadSize ≠ 0 ∧
        side.protocol.out.getNumPacketsInFlight < side.protocol.actualSessionCfg.maxTxWindowSize.toNat ∧
        (next.withSent prepared).protocol.out.getNumPacketsInFlight =
          side.protocol.out.getNumPacketsInFlight + 1 := by
  obtain ⟨pending, -, noData, out⟩ | ⟨-, nonzero, -, windowOpen, -, out⟩ := withSent_cases small.dataSn prepares
  · rw [out]
    exact .inl ⟨noData, pending, rfl⟩
  · rw [out]
    obtain ⟨ackSn, dataSn, -⟩ := outAcked_window side
    refine .inr ⟨nonzero, windowOpen, ?_⟩
    have ackSmall := small.ackSn
    have dataSmall := small.dataSn
    unfold Outbound.getNumPacketsInFlight at windowOpen ⊢
    change calculateDistance side.armRetransmit.outAcked.nextExpectedAckSn
      (getNextSn side.armRetransmit.outAcked.nextDataSn) = _
    rw [ackSn, dataSn]
    unfold calculateDistance getNextSn at *
    unfold snWindowSize at *
    omega

/-- A turn for each packet that the window has room for, one for an ack, and one in which
    there is nothing to send. -/
theorem sendNextPackets_ends {rounds : Nat} {side : Endpoint} (small : side.SmallSns)
    (window : side.protocol.actualSessionCfg.maxTxWindowSize.toNat < snWindowSize)
    (enough : side.protocol.actualSessionCfg.maxTxWindowSize.toNat - side.protocol.out.getNumPacketsInFlight +
      (if AckPending side then 1 else 0) < rounds) :
    sendNextPackets rounds side ≠ .error .diverges ∧
      (traceLoop rounds side).countP Happening.HasData ≤
        side.protocol.actualSessionCfg.maxTxWindowSize.toNat - side.protocol.out.getNumPacketsInFlight ∧
      (traceLoop rounds side).countP Happening.IsAckOnly ≤ if AckPending side then 1 else 0 := by
  induction rounds generalizing side with
  | zero => exact (Nat.not_lt_zero _ enough).elim
  | succ rounds ih =>
      unfold sendNextPackets traceLoop
      cases prepares : side.prepareNextPacket with
      | error fault =>
          cases prepareNextPacket_error prepares
          exact ⟨fun same => (by cases same), Nat.zero_le _, Nat.zero_le _⟩
      | ok pair =>
          obtain ⟨next, prepared⟩ := pair
          cases prepared with
          | none => exact ⟨fun same => (by cases same), Nat.zero_le _, Nat.zero_le _⟩
          | some prepared =>
              have silent := withSent_silent small prepares
              have progress := withSent_progress small window prepares
              have session : (next.withSent prepared).protocol.actualSessionCfg = side.protocol.actualSessionCfg := by
                obtain ⟨timer, rfl⟩ := prepareNextPacket_same prepares
                rfl
              have small' : (next.withSent prepared).SmallSns := kept_smallSns.sent small prepares
              have later := @ih (next.withSent prepared) small' (session ▸ window)
              rw [session, if_neg silent] at later
              obtain ⟨noData, pending, inFlight⟩ | ⟨nonzero, windowOpen, inFlight⟩ := progress
              · -- the ack only
                have sent : side.bufLen prepared = 1 := by simp [bufLen, noData, pending]
                rw [inFlight] at later
                rw [if_pos pending] at enough ⊢
                have rest := later (by omega)
                dsimp only
                rw [ok_bind, sent]
                dsimp only
                obtain ⟨error, sends⟩ | sends := next.sendRawData_cases prepared.packet
                · rw [sends]
                  exact ⟨fun same => (by cases same), Nat.zero_le _, Nat.le_refl 1⟩
                · rw [sends, List.countP_cons, List.countP_cons]
                  exact ⟨rest.1, rest.2.1, Nat.succ_le_succ rest.2.2⟩
              · -- the next payload, perhaps behind an ack
                have sent : 1 < side.bufLen prepared := by
                  unfold bufLen
                  rw [if_pos (Nat.pos_of_ne_zero nonzero)]
                  omega
                rw [inFlight] at later
                have rest := later (by split at enough <;> omega)
                have isData : Happening.HasData (.sent side prepared.packet (side.bufLen prepared)) = true := by
                  simpa [Happening.HasData] using sent
                have isNoAck : ¬ Happening.IsAckOnly (.sent side prepared.packet (side.bufLen prepared)) = true := by
                  simpa [Happening.IsAckOnly] using sent.ne'
                dsimp only
                rw [ok_bind]
                dsimp only
                rw [List.countP_cons_of_pos isData, List.countP_cons_of_neg isNoAck]
                obtain ⟨error, sends⟩ | sends := next.sendRawData_cases prepared.packet
                · rw [sends]
                  exact ⟨fun same => (by cases same), by simp; omega, Nat.zero_le _⟩
                · rw [sends]
                  refine ⟨rest.1, ?_, rest.2.2.trans (Nat.zero_le _)⟩
                  have counted := rest.2.1
                  change (traceLoop rounds (next.withSent prepared)).countP _ + 1 ≤ _
                  omega

/-! ## A window that is never full -/

/-- In a window that is larger than the space of serial numbers, some payloads of four bytes
    were sent; of 32 of them there are more than enough bytes. -/
structure Endpoint.Overfull (side : Endpoint) (sent : Nat) : Prop where
  window : snWindowSize ≤ side.protocol.actualSessionCfg.maxTxWindowSize.toNat
  reliable : side.sendResults = []
  packetSize : side.transportMaxPacketSize = 5
  silent : ¬ AckPending side
  ackSn : side.protocol.out.nextExpectedAckSn = 0
  dataSn : side.protocol.out.nextDataSn = sent % snWindowSize
  sizes : ∀ sn < snWindowSize, side.protocol.out.payloadSizes sn = if sn < sent then 4 else 0
  queued : side.outgoing.length = 128

namespace Endpoint.Overfull

variable {side : Endpoint} {sent : Nat}

theorem inFlight (overfull : side.Overfull sent) :
    side.protocol.out.getNumPacketsInFlight = sent % snWindowSize := by
  unfold Outbound.getNumPacketsInFlight calculateDistance
  rw [overfull.ackSn, overfull.dataSn]
  unfold snWindowSize
  omega

theorem offset (overfull : side.Overfull sent) :
    side.protocol.out.getTotalNumBytesAwaitingAck = 4 * (sent % snWindowSize) := by
  have less : sent % snWindowSize < snWindowSize := Nat.mod_lt _ (by decide)
  have visited := @snsUpTo_eq snWindowSize 0 (sent % snWindowSize) less.le less
  rw [Nat.zero_add, Nat.mod_mod] at visited
  unfold Outbound.getTotalNumBytesAwaitingAck Outbound.getTotalNumBytesAwaitingAckUpTo
  rw [overfull.ackSn, overfull.dataSn]
  rw [show (0 : Nat) = 0 % snWindowSize from rfl, visited, List.map_map]
  have four : ∀ j ∈ List.range (sent % snWindowSize),
      (side.protocol.out.payloadSizes ∘ fun j => (0 + j) % snWindowSize) j = 4 := by
    intro j member
    have before := List.mem_range.mp member
    have inside : j < snWindowSize := before.trans less
    rw [Function.comp_apply, Nat.zero_add, Nat.mod_eq_of_lt inside, overfull.sizes j inside, if_pos]
    exact before.trans_le (Nat.mod_le _ _)
  rw [List.map_congr_left four]
  simp [Nat.mul_comm]

theorem nextSize (overfull : side.Overfull sent) (offset : Nat) (isOffset : offset = 4 * (sent % snWindowSize)) :
    side.nextDataSize 5 offset = .ok 4 := by
  have less : sent % snWindowSize < snWindowSize := Nat.mod_lt _ (by decide)
  unfold nextDataSize
  dsimp only
  rw [overfull.dataSn, overfull.sizes _ less, overfull.queued, isOffset]
  unfold snWindowSize at *
  by_cases again : sent % 32 < sent
  · rw [if_pos again]
    rfl
  · rw [if_neg again, if_pos rfl, assert_of (by omega), ok_bind]
    have isFour : min (128 - 4 * (sent % 32)) (5 - 1) = 4 := by omega
    rw [isFour]
    rfl

theorem prepares (overfull : side.Overfull sent) :
    ∃ next prepared, side.prepareNextPacket = .ok (next, some prepared) := by
  have less : sent % snWindowSize < snWindowSize := Nat.mod_lt _ (by decide)
  have windowOpen : ¬ side.protocol.out.getNumPacketsInFlight ≥ side.protocol.actualSessionCfg.maxTxWindowSize.toNat := by
    rw [overfull.inFlight]
    exact Nat.not_le.mpr (less.trans_le overfull.window)
  have isSize : min side.transportMaxPacketSize maxPacketSize = 5 := by
    rw [overfull.packetSize]
    rfl
  have notPending : ¬ (side.protocol.out.ackNow = true ∨ side.protocol.out.outstandingUnackedPackets >
      side.protocol.actualSessionCfg.maxRxWindowSize.toNat / 2) := overfull.silent
  have data : ∃ next prepared, side.prepareData [] 5 = .ok (next, some prepared) := by
    unfold prepareData
    dsimp only
    rw [if_neg windowOpen, if_neg (by rw [overfull.queued]; decide), overfull.nextSize _ overfull.offset, ok_bind,
      if_neg (by decide)]
    exact ⟨_, _, rfl⟩
  obtain ⟨next, prepared, isData⟩ := data
  refine ⟨next, prepared, ?_⟩
  unfold prepareNextPacket
  dsimp only
  rw [isSize, assert_of (by decide), ok_bind, if_neg notPending]
  exact isData

theorem goesOn {next : Endpoint} {prepared : Prepared} (overfull : side.Overfull sent)
    (prepares : side.prepareNextPacket = .ok (next, some prepared)) : (next.withSent prepared).Overfull (sent + 1) := by
  have less : sent % snWindowSize < snWindowSize := Nat.mod_lt _ (by decide)
  have small : side.SmallSns := ⟨overfull.ackSn ▸ Nat.succ_pos 31, overfull.dataSn ▸ less⟩
  have silent := withSent_silent small prepares
  obtain ⟨pending, -⟩ | ⟨-, -, -, -, size, out⟩ := withSent_cases small.dataSn prepares
  · exact (overfull.silent pending).elim
  have isSize : side.room = 5 := by
    unfold room
    rw [overfull.packetSize, if_neg overfull.silent]
    rfl
  rw [isSize, overfull.nextSize _ overfull.offset] at size
  have four : prepared.payloadSize = 4 := (Except.ok.inj size).symm
  rw [four] at out
  obtain ⟨ackSn, dataSn, sizes⟩ := outAcked_window side
  obtain ⟨timer, rfl⟩ := prepareNextPacket_same prepares
  refine ⟨overfull.window, ?_, overfull.packetSize, silent, ?_, ?_, ?_, overfull.queued⟩
  · change side.sendResults.tail = []
    rw [overfull.reliable]
    rfl
  · rw [out]
    exact ackSn.trans overfull.ackSn
  · rw [out]
    change getNextSn side.armRetransmit.outAcked.nextDataSn = _
    rw [dataSn, overfull.dataSn]
    exact nextSn_mod sent
  · intro sn isSn
    rw [out]
    change Function.update side.armRetransmit.outAcked.payloadSizes side.armRetransmit.outAcked.nextDataSn 4 sn = _
    rw [dataSn, sizes, overfull.dataSn]
    by_cases same : sn = sent % snWindowSize
    · have now : sn < sent + 1 := same ▸ Nat.lt_succ_of_le (Nat.mod_le _ _)
      rw [same, Function.update_self, if_pos (same ▸ now)]
    · have unchanged : sn < sent + 1 ↔ sn < sent := by
        unfold snWindowSize at *
        omega
      rw [Function.update_of_ne same, overfull.sizes sn isSn]
      simp only [unchanged]

/-- The loop does not end. -/
theorem diverges (overfull : side.Overfull sent) (rounds : Nat) : sendNextPackets rounds side = .error .diverges := by
  induction rounds generalizing side sent with
  | zero => rfl
  | succ rounds ih =>
      obtain ⟨next, prepared, prepares⟩ := overfull.prepares
      have later := ih (overfull.goesOn prepares)
      have reliable : next.sendResults = [] := by
        obtain ⟨timer, rfl⟩ := prepareNextPacket_same prepares
        exact overfull.reliable
      unfold sendNextPackets
      rw [prepares, ok_bind]
      dsimp only
      unfold sendRawData
      rw [reliable]
      unfold withSent at later
      rw [reliable] at later
      exact later

end Endpoint.Overfull

/-- A session whose window is as large as both sides want it, with enough to send. -/
def largeWindow (maxTxWindowSize : UInt8) : List Input :=
  [.start, .receive ⟨[], [], []⟩ (resetCompletePacket ⟨8, maxTxWindowSize⟩), .call (.queue (List.replicate 128 0))]

theorem largeWindow_overfull {maxTxWindowSize : UInt8} (large : snWindowSize ≤ maxTxWindowSize.toNat) :
    ∃ side, (create ⟨maxTxWindowSize, 8⟩ 5 []).run 10 (largeWindow maxTxWindowSize) = .ok side ∧
      side.protocol.actualSessionCfg.maxTxWindowSize = maxTxWindowSize ∧ side.Overfull 0 := by
  have isMin : min maxTxWindowSize maxTxWindowSize = maxTxWindowSize := ite_self _
  refine ⟨_, rfl, isMin, ?_⟩
  refine ⟨?_, rfl, rfl, ?_, rfl, rfl, fun _ _ => rfl, rfl⟩
  · change snWindowSize ≤ (min maxTxWindowSize maxTxWindowSize).toNat
    rwa [isMin]
  · exact not_or.mpr ⟨nofun, Nat.not_lt_zero _⟩

/-- The loop comes to its end in every state of every run, with no more packets than the
    agreed window and one ack, if that window is smaller than the space of serial numbers;
    for any other window it does not. -/
theorem sendNextPackets_ends_iff (maxTxWindowSize : UInt8) :
    (∀ config transportMaxPacketSize sendResults turns inputs side,
        (create config transportMaxPacketSize sendResults).Reaches turns inputs side →
        side.protocol.actualSessionCfg.maxTxWindowSize = maxTxWindowSize → side.Ends) ↔
      maxTxWindowSize.toNat ≤ 31 := by
  constructor
  · intro ends
    by_contra large
    obtain ⟨side, comes, isWindow, overfull⟩ := largeWindow_overfull (Nat.not_le.mp large)
    obtain ⟨rounds, comesBack, -⟩ := ends _ _ _ _ _ side (.inl comes) isWindow
    exact comesBack (overfull.diverges rounds)
  · rintro small config transportMaxPacketSize sendResults turns inputs side reaches rfl
    have sns := kept_smallSns.reaches (fun side next _ => may_of_true turns side next)
      ⟨Nat.succ_pos 31, Nat.succ_pos 31⟩ (permits_true turns _ inputs) reaches
    obtain ⟨comesBack, data, ack⟩ := sendNextPackets_ends sns (Nat.lt_succ_of_le small) (Nat.lt_succ_self _)
    refine ⟨_, comesBack, data.trans (Nat.sub_le _ _), ack.trans ?_⟩
    split <;> decide

/-- Both sides want a window of 32 packets. -/
theorem sendNextPackets_diverges :
    ∃ side, (create ⟨32, 8⟩ 5 []).run 10 (largeWindow 32) = .ok side ∧
      ∀ rounds, sendNextPackets rounds side = .error .diverges := by
  obtain ⟨side, comes, -, overfull⟩ := @largeWindow_overfull 32 (by decide)
  exact ⟨side, comes, overfull.diverges⟩

end GoldenGate.Gattlink

import GoldenGate.Gattlink.Announced
import GoldenGate.Gattlink.Resets
import GoldenGate.Lib.Runs

/-! # Retransmissions

What a receiver does with a packet that it has accepted before, whatever came in until then.
The transport takes every packet that the receiver sends; packets may be lost behind it.
-/

namespace GoldenGate.Gattlink

open Memory Endpoint

namespace Endpoint

variable {side side' : Endpoint} {turns : Nat}

/-! ## The receiver's own window -/

/-- Between two operations everything that is kept is in flight, since the transport refuses
    nothing. -/
def Synced (side : Endpoint) : Prop :=
  side.sendResults = [] ∧ (side.protocol.state = .ready →
    side.protocol.actualSessionCfg.maxTxWindowSize.toNat < snWindowSize → ∃ n, side.Window n n)

theorem Synced.outside (reliable : side.sendResults = []) (left : side.protocol.state ≠ .ready) : side.Synced :=
  ⟨reliable, fun ready => (left ready).elim⟩

theorem Synced.congr (synced : side.Synced) (reliable : side'.sendResults = side.sendResults)
    (same : SameSns side side') : side'.Synced := by
  refine ⟨reliable.trans synced.1, ?_⟩
  intro ready small
  obtain ⟨n, window⟩ := synced.2 (same.state ▸ ready) (same.session ▸ small)
  exact ⟨n, window.congr same⟩

theorem Synced.same (synced : side.Synced) (same : SameWindow side side') : side'.Synced :=
  synced.congr same.sendResults same.sns

theorem Synced.sent {next : Endpoint} {prepared : Prepared} (synced : side.Synced)
    (prepares : side.prepareNextPacket = .ok (next, some prepared)) : (next.withSent prepared).Synced := by
  have state := KeptInSession.withSent_state prepares prepared
  have same : (next.withSent prepared).sendResults = side.sendResults.tail ∧
      (next.withSent prepared).protocol.actualSessionCfg = side.protocol.actualSessionCfg := by
    obtain ⟨timer, rfl⟩ := prepareNextPacket_same prepares
    exact ⟨rfl, rfl⟩
  refine ⟨?_, ?_⟩
  · rw [same.1, synced.1]
    rfl
  intro ready small
  obtain ⟨n, window⟩ := synced.2 (state ▸ ready) (same.2 ▸ small)
  by_cases data : prepared.payloadSize = 0
  · obtain ⟨-, rfl, -, out⟩ | ⟨-, nonzero, -⟩ := withSent_cases window.smallSns.dataSn prepares
    · refine ⟨n, window.congr ⟨rfl, rfl, ?_, ?_, ?_, Nat.le_refl _⟩⟩
      all_goals rw [out]; rfl
    · exact (nonzero data).elim
  · have window' := window.send (Nat.le_refl n) prepares data
    have few := window'.few
    rw [Nat.max_eq_right (Nat.le_succ n)] at window' few
    rw [Nat.mod_eq_of_lt (by omega)] at window'
    exact ⟨n + 1, window'⟩

/-- Everything but a timeout keeps that. -/
theorem kept_synced : KeptByResets {} Synced where
  queue bytes synced := synced.congr rfl { outgoing := by simp }
  consumeIncomingData _ synced := synced.congr rfl {}
  resize _ synced := synced.congr rfl {}
  refused {side next prepared} synced prepares := by
    obtain ⟨timer, rfl⟩ := prepareNextPacket_same prepares
    have reliable : side.sendResults.tail = side.sendResults := by rw [synced.1]; rfl
    exact synced.congr reliable {}
  sent synced prepares := synced.sent prepares
  acknowledge {side psn} synced ready small awaiting _ := by
    have reliable : (side.acknowledged psn).sendResults = side.sendResults := by
      unfold acknowledged consumeOutgoingData
      dsimp only
      split <;> rfl
    have session : (side.acknowledged psn).protocol.actualSessionCfg = side.protocol.actualSessionCfg := by
      rw [acknowledged_protocol]
    refine ⟨reliable.trans synced.1, ?_⟩
    intro _ smallWindow
    obtain ⟨n, window⟩ := synced.2 ready (session ▸ smallWindow)
    have near := window.near
    have kept := window.acked_le small awaiting
    have window' := (window.acknowledge (Nat.succ_pos _) kept (Nat.lt_of_le_of_lt kept near) (window.next_psn small)).1
    refine ⟨n - (calculateDistance side.protocol.out.nextExpectedAckSn psn + 1), ?_⟩
    have isNext : (n + snWindowSize - (calculateDistance side.protocol.out.nextExpectedAckSn psn + 1)) % snWindowSize =
        n - (calculateDistance side.protocol.out.nextExpectedAckSn psn + 1) := by
      unfold snWindowSize at *
      omega
    rwa [isNext] at window'
  accept synced _ _ _ _ _ _ := synced.congr rfl {}
  ackWith synced _ _ := synced.congr rfl {}
  countUnacked synced _ := synced.congr rfl {}
  leave {side state} synced left _ := by
    apply Synced.outside
    · unfold leaveSession
      dsimp only
      split <;> exact synced.1
    · rwa [KeptByResets.leaveSession_state]
  schedule _ synced left _ := .outside synced.1 left
  transmit {side} packet synced left _ := by
    apply Synced.outside
    · obtain ⟨error, sends⟩ | sends := side.sendRawData_cases packet
      all_goals rw [sends, synced.1]; rfl
    · rwa [sendRawData_protocol]
  agree _ _ synced left _ := .outside synced.1 left
  enter {side} synced _ _ := ⟨synced.1, fun _ _ => ⟨0, .zero rfl⟩⟩

theorem sendRawData_takes (reliable : side.sendResults = []) (packet : List UInt8) :
    side.sendRawData packet =
      ({ side with sendResults := side.sendResults.tail, wire := side.wire ++ [packet] }, .ok ()) := by
  unfold sendRawData
  rw [reliable]

theorem sendNextPackets_reliable {rounds : Nat} (reliable : side.sendResults = [])
    (ends : sendNextPackets rounds side = .ok side') : side'.sendResults = [] := by
  let Reliable (next : Endpoint) := next.sendResults = []
  have keeps : Proceeds (fun _ => True) Reliable side (sendNextPackets rounds side) (traceLoop rounds side) := by
    apply @Proceeds.loop _ Reliable _ (fun _ => id) ?_ ?_ (fun _ _ => trivial) rounds side reliable
    all_goals
      intro before next prepared reliable prepares
      obtain ⟨timer, rfl⟩ := prepareNextPacket_same prepares
      exact congrArg List.tail reliable
  exact keeps.comes ends

/-- After a timeout the loop sends everything again. -/
theorem Window.loop {rounds n k : Nat} (window : side.Window n k) (valid : n ≤ k)
    (small : side.protocol.actualSessionCfg.maxTxWindowSize.toNat < snWindowSize) (reliable : side.sendResults = [])
    (ends : sendNextPackets rounds side = .ok side') : ∃ n, side'.Window n n := by
  induction rounds generalizing side n k with
  | zero => cases ends
  | succ rounds ih =>
      unfold sendNextPackets at ends
      obtain ⟨⟨next, prepared⟩, prepares, ends⟩ := bind_ok ends
      cases prepared with
      | none =>
          cases ends
          cases prepareNextPacket_none prepares
          have all := (window.idle valid prepares (fun _ isSome => by cases isSome)).1
          exact ⟨n, all ▸ window⟩
      | some prepared =>
          have reliable' : next.sendResults = [] := by
            obtain ⟨timer, rfl⟩ := prepareNextPacket_same prepares
            exact reliable
          have session : (next.withSent prepared).protocol.actualSessionCfg = side.protocol.actualSessionCfg := by
            obtain ⟨timer, rfl⟩ := prepareNextPacket_same prepares
            rfl
          obtain ⟨n', k', window', valid'⟩ := window.sent valid prepares
          dsimp only at ends
          rw [sendRawData_takes reliable'] at ends
          apply ih window' valid' (session ▸ small) _ ends
          change next.sendResults.tail = []
          rw [reliable']
          rfl

/-- Between two operations everything is in flight, whatever comes in. -/
theorem Synced.input {next : Input} (synced : side.Synced) (done : input turns side next = .ok side') : side'.Synced := by
  cases next with
  | start =>
      unfold Endpoint.input start at done
      rw [fst_bind] at done
      obtain ⟨_, -, resets⟩ := bind_ok done
      exact (kept_synced.reset synced).comes resets
  | reset => exact (kept_synced.reset synced).comes done
  | call clientCall => exact ((kept_synced.call synced clientCall fun _ => .inr trivial).comes done).1
  | receive reactions packet =>
      cases packet with
      | nil =>
          cases done
          exact synced
      | cons header rest =>
          by_cases initialized : side.protocol.state = .initialized
          · unfold Endpoint.input at done
            dsimp only at done
            rw [fst_handleIncomingRawData, if_pos initialized] at done
            cases done
            exact synced
          · exact (kept_synced.handleIncomingRawData initialized (synced.same (clearStall_same side)) reactions
              (List.cons_ne_nil _ _) (may_of_true turns side _)).comes done
  | ackTimer =>
      unfold Endpoint.input fireAckTimer at done
      dsimp only at done
      split at done
      case isTrue =>
          cases done
          exact synced
      case isFalse =>
          have fired : side.ackTimerFired.Synced := synced.congr rfl {}
          exact ((kept_synced.loop fired (.inr trivial)).comes done).1
  | retransmitTimer elapsed =>
      obtain ⟨-, rfl⟩ | ⟨-, done⟩ := retransmitTimer_cases turns done
      · exact synced
      have idle : (side.setOut { side.protocol.out with retransmitTimer := none }).Synced :=
        synced.congr rfl {}
      have fired : (side.retransmitTimerFired elapsed).Synced := idle.same (countStall_same _ elapsed)
      cases isState : (side.retransmitTimerFired elapsed).protocol.state with
      | initialized =>
          rw [isState] at done
          cases done
          exact fired
      | awaitingResetCompleteSelfInitiated | awaitingResetCompleteRemoteInitiated =>
          rw [isState] at done
          exact (kept_synced.reset fired).comes done
      | ready =>
          rw [isState] at done
          have sends : sendNextPackets turns (side.retransmitTimerFired elapsed).rolledBack = .ok side' := done
          have reliable : (side.retransmitTimerFired elapsed).rolledBack.sendResults = [] := fired.1
          refine ⟨sendNextPackets_reliable reliable sends, ?_⟩
          intro _ small
          rw [sendNextPackets_protocol sends] at small
          obtain ⟨n, window⟩ := fired.2 isState small
          exact window.rollBack.loop (Nat.zero_le n) small reliable sends

/-! ## What was accepted -/

/-- Nothing is different that is about the payloads that were accepted, and what was sent is
    still on the wire. -/
structure SameAccepted (side side' : Endpoint) : Prop where
  state : side'.protocol.state = side.protocol.state
  session : side'.protocol.actualSessionCfg = side.protocol.actualSessionCfg
  psn : side'.protocol.in_.nextExpectedDataPsn = side.protocol.in_.nextExpectedDataPsn
  ackPsn : side'.protocol.out.psnToAckWith = side.protocol.out.psnToAckWith
  accepted : acceptedPayloads (Gattlink.session side'.log) = acceptedPayloads (Gattlink.session side.log)
  wire : side.wire <+: side'.wire

theorem SameAccepted.refl (side : Endpoint) : SameAccepted side side := ⟨rfl, rfl, rfl, rfl, rfl, List.prefix_rfl⟩

theorem SameAccepted.rolledBack (side : Endpoint) : SameAccepted side side.rolledBack :=
  ⟨rfl, rfl, rfl, rfl, rfl, List.prefix_rfl⟩

theorem SameAccepted.trans {side'' : Endpoint} (first : SameAccepted side side') (second : SameAccepted side' side'') :
    SameAccepted side side'' :=
  ⟨second.state.trans first.state, second.session.trans first.session, second.psn.trans first.psn,
    second.ackPsn.trans first.ackPsn, second.accepted.trans first.accepted,
    first.wire.trans second.wire⟩

/-- An event that is neither a payload nor a reset. -/
theorem accepted_concat (log : List Event) {event : Event} (other : event ≠ .sessionReset)
    (noPayload : acceptedPayloads [event] = []) :
    acceptedPayloads (session (log ++ [event])) = acceptedPayloads (session log) := by
  rw [session_concat log other, acceptedPayloads_append, noPayload, List.append_nil]

theorem SameAccepted.of_same (same : SameWindow side side') : SameAccepted side side' := by
  refine ⟨same.state, same.session, same.psn, congrArg _ same.out, ?_, same.wire ▸ List.prefix_rfl⟩
  obtain isLog | ⟨time, isLog⟩ := same.log
  · rw [isLog]
  · rw [isLog]
    exact accepted_concat _ nofun rfl

theorem sendNextPackets_accepted {rounds : Nat} (ends : sendNextPackets rounds side = .ok side') :
    SameAccepted side side' := by
  have keeps : Proceeds (fun _ => True) (SameAccepted side) side (sendNextPackets rounds side) (traceLoop rounds side) := by
    apply @Proceeds.loop _ (SameAccepted side) _ (fun _ => id) ?_ ?_ (fun _ _ => trivial) rounds side (.refl side)
    · intro before next prepared same prepares
      obtain ⟨timer, rfl⟩ := prepareNextPacket_same prepares
      exact same.trans ⟨rfl, rfl, rfl, rfl, rfl, List.prefix_rfl⟩
    · intro before next prepared same prepares
      obtain ⟨timer, rfl⟩ := prepareNextPacket_same prepares
      refine same.trans ⟨rfl, rfl, rfl, ?_, rfl, List.prefix_append _ _⟩
      unfold withSent packetSent
      dsimp only
      split <;> split <;> rfl
  exact keeps.comes ends

theorem call_accepted {clientCall : ClientCall} (done : call turns side clientCall = .ok side') :
    SameAccepted side side' := by
  cases clientCall with
  | queue bytes =>
      cases done
      exact ⟨rfl, rfl, rfl, rfl, accepted_concat _ nofun rfl, List.prefix_rfl⟩
  | notifyOutgoingDataAvailable => exact sendNextPackets_accepted done
  | consumeIncomingData size =>
      cases done
      exact .of_same (consumeIncomingData_same side size)
  | setTransportMaxPacketSize size =>
      cases done
      exact ⟨rfl, rfl, rfl, rfl, rfl, List.prefix_rfl⟩

theorem calls_accepted {clientCalls : List ClientCall} (done : calls turns side clientCalls = .ok side') :
    SameAccepted side side' := by
  induction clientCalls generalizing side with
  | nil =>
      cases done
      exact .refl _
  | cons clientCall rest ih =>
      obtain ⟨between, first, later⟩ := bind_ok done
      exact (call_accepted first).trans (ih later)

theorem acknowledged_accepted (side : Endpoint) (psn : Nat) : SameAccepted side (side.acknowledged psn) := by
  have protocol := side.acknowledged_protocol psn
  refine ⟨by rw [protocol], by rw [protocol], by rw [protocol], ?_, ?_, ?_⟩
  · rw [acknowledged_out, Outbound.clearPayloadSizesUpTo, foldl_clear]
    rfl
  · unfold acknowledged
    rw [consumeOutgoingData_log]
    exact accepted_concat _ (fun same => by cases same) rfl
  · unfold acknowledged consumeOutgoingData
    dsimp only
    split <;> exact List.prefix_rfl

theorem handleAck_accepted {reactions : Reactions} {psn : Nat} (done : handleAck turns side reactions psn = .ok side') :
    SameAccepted side side' := by
  rw [handleAck_eq] at done
  split at done
  case isTrue => exact (acknowledged_accepted side psn).trans (calls_accepted done)
  case isFalse =>
      cases done
      exact .refl side

/-- The serial numbers tell how many payloads were accepted in this session. -/
structure Numbered (side : Endpoint) : Prop where
  psn : side.protocol.state = .ready →
    side.protocol.in_.nextExpectedDataPsn = (acceptedPayloads (session side.log)).length % snWindowSize
  ackPsn : side.protocol.state = .ready → 0 < (acceptedPayloads (session side.log)).length →
    side.protocol.out.psnToAckWith = ((acceptedPayloads (session side.log)).length - 1) % snWindowSize
  outside : side.protocol.state ≠ .ready → acceptedPayloads (session side.log) = []

theorem Numbered.same (numbered : side.Numbered) (same : SameAccepted side side') : side'.Numbered := by
  obtain ⟨psn, ackPsn, outside⟩ := numbered
  refine ⟨?_, ?_, ?_⟩
  · rw [same.state, same.psn, same.accepted]
    exact psn
  · rw [same.state, same.ackPsn, same.accepted]
    exact ackPsn
  · rw [same.state, same.accepted]
    exact outside

theorem session_reset (log : List Event) : session (log ++ [Event.sessionReset]) = [] :=
  List.rtakeWhile_concat_neg _ log _ (by simp)

theorem Numbered.leave (numbered : side.Numbered) {state : State} (left : state ≠ .ready) :
    (side.leaveSession state).Numbered := by
  have isState := KeptByResets.leaveSession_state side state
  have none : acceptedPayloads (session (side.leaveSession state).log) = [] := by
    rw [leaveSession_log]
    split
    case isTrue => rw [session_reset]; rfl
    case isFalse closed => rw [List.append_nil, numbered.outside closed]
  refine ⟨fun ready => ?_, fun ready => ?_, fun _ => none⟩
  all_goals exact (left (isState ▸ ready)).elim

theorem sendControlPacket_accepted {timeout : Nat} {packet : List UInt8}
    (done : side.sendControlPacket timeout packet = .ok side') : SameAccepted side side' := by
  unfold sendControlPacket at done
  split at done
  case isTrue =>
      cases done
      refine ⟨?_, ?_, ?_, ?_, ?_, ?wire⟩
      case wire =>
          obtain ⟨error, sends⟩ | sends := (side.scheduleRetransmit timeout).sendRawData_cases packet
          · rw [sends]
            exact List.prefix_rfl
          · rw [sends]
            exact List.prefix_append _ _
      all_goals first | rw [sendRawData_protocol]; rfl | rw [sendRawData_log]; rfl
  case isFalse => cases done

theorem reset_numbered (numbered : side.Numbered) (done : Prod.fst <$> side.reset = .ok side') : side'.Numbered := by
  unfold reset at done
  rw [fst_sendResetPacket] at done
  have left : State.awaitingResetCompleteSelfInitiated ≠ .ready := nofun
  exact (numbered.leave left).same (sendControlPacket_accepted done)

/-- A session begins with nothing accepted. -/
theorem Numbered.enter (numbered : side.Numbered) (left : side.protocol.state ≠ .ready) : side.enterSession.Numbered := by
  have told : acceptedPayloads (session (side.log ++ [Event.sessionReady])) = acceptedPayloads (session side.log) :=
    accepted_concat _ nofun rfl
  have none : acceptedPayloads (session side.enterSession.log) = [] := told.trans (numbered.outside left)
  refine ⟨?_, ?_, fun _ => none⟩
  · rw [none]
    exact fun _ => rfl
  · rw [none]
    exact fun _ some => (Nat.lt_irrefl 0 some).elim

/-- The payload that was expected is one more. -/
theorem acceptPayload_numbered {reactions : Reactions} {psn : Nat} {payload : List UInt8} (numbered : side.Numbered)
    (ready : side.protocol.state = .ready) (expected : psn = side.protocol.in_.nextExpectedDataPsn)
    (done : acceptPayload turns side reactions psn payload = .ok side') :
    side'.Numbered ∧ side'.protocol.state = .ready ∧
      (acceptedPayloads (session side'.log)).length = (acceptedPayloads (session side.log)).length + 1 := by
  rw [acceptPayload_eq] at done
  obtain ⟨between, calls, same⟩ := bind_ok done
  cases same
  have told := calls_accepted calls
  have isPsn := numbered.psn ready
  have more : acceptedPayloads (session (side.accepted psn payload).log) =
      acceptedPayloads (session side.log) ++ [payload] := by
    have other : Event.incomingDataAvailable payload ≠ .sessionReset := nofun
    change acceptedPayloads (session (side.log ++ [_])) = _
    rw [session_concat _ other, acceptedPayloads_append]
    rfl
  have length : (acceptedPayloads (session between.log)).length = (acceptedPayloads (session side.log)).length + 1 := by
    rw [told.accepted, more, List.length_append, List.length_singleton]
  have state : between.protocol.state = .ready := told.state.trans ready
  refine ⟨⟨?_, ?_, fun closed => (closed state).elim⟩, state, length⟩
  · intro _
    change between.protocol.in_.nextExpectedDataPsn = (acceptedPayloads (session between.log)).length % snWindowSize
    rw [length, told.psn]
    change getNextSn psn = _
    rw [expected, isPsn]
    exact nextSn_mod _
  · intro _ _
    change psn = ((acceptedPayloads (session between.log)).length - 1) % snWindowSize
    rw [length, Nat.add_sub_cancel, expected, isPsn]

theorem handlePayload_numbered {reactions : Reactions} {data : List UInt8} (numbered : side.Numbered)
    (ready : side.protocol.state = .ready) (done : Prod.fst <$> handlePayload turns side reactions data = .ok side') :
    side'.Numbered := by
  cases data with
  | nil =>
      rw [fst_handlePayload_nil] at done
      exact numbered.same (sendNextPackets_accepted done)
  | cons header payload =>
      rw [fst_handlePayload_cons] at done
      have counted : ∀ side : Endpoint, SameAccepted side side.countUnacked :=
        fun _ => ⟨rfl, rfl, rfl, rfl, rfl, List.prefix_rfl⟩
      split at done
      case isTrue =>
          cases done
          exact numbered
      case isFalse =>
          obtain ⟨between, accepts, sends⟩ := bind_ok done
          have later := (counted between).trans (sendNextPackets_accepted sends)
          split at accepts
          case isTrue expected => exact (acceptPayload_numbered numbered ready expected accepts).1.same later
          case isFalse =>
              cases accepts
              exact numbered.same later

theorem handleDataPacket_numbered {reactions : Reactions} {header : UInt8} {rest : List UInt8} (numbered : side.Numbered)
    (ready : side.protocol.state = .ready)
    (done : Prod.fst <$> handleDataPacket turns side reactions (header :: rest) = .ok side') : side'.Numbered := by
  rw [fst_handleDataPacket] at done
  split at done
  case isTrue =>
      cases done
      exact numbered
  case isFalse =>
      split at done
      case isTrue =>
          obtain ⟨between, acks, later⟩ := bind_ok done
          have same := handleAck_accepted acks
          exact handlePayload_numbered (numbered.same same) (same.state.trans ready) later
      case isFalse => exact handlePayload_numbered numbered ready done

theorem handleResetComplete_numbered {reactions : Reactions} {packet : List UInt8} (numbered : side.Numbered)
    (left : side.protocol.state ≠ .ready)
    (done : Prod.fst <$> handleResetComplete turns side reactions packet = .ok side') : side'.Numbered := by
  match packet with
  | [] | [_] | [_, _] | [_, _, _] | [_, _, _, _] =>
      rw [fst_handleResetComplete_short turns side reactions (by simp [resetCompletePacketSize])] at done
      cases done
      exact numbered
  | b0 :: b1 :: b2 :: rxWindowSize :: txWindowSize :: rest =>
      rw [fst_handleResetComplete] at done
      have agreed : (side.agreed (agree side.protocol.desiredSessionCfg rxWindowSize txWindowSize)).Numbered :=
        ⟨numbered.psn, numbered.ackPsn, numbered.outside⟩
      obtain ⟨between, sends, calls⟩ := bind_ok done
      split at sends
      case isTrue =>
          have same := sendControlPacket_accepted sends
          have left' : between.protocol.state ≠ .ready := by
            rw [same.state]
            exact left
          exact ((agreed.same same).enter left').same (calls_accepted calls)
      case isFalse =>
          cases sends
          exact (agreed.enter left).same (calls_accepted calls)

theorem handleControlPacket_numbered {reactions : Reactions} {type : UInt8} {packet : List UInt8}
    (numbered : side.Numbered)
    (done : Prod.fst <$> handleControlPacket turns side reactions type packet = .ok side') : side'.Numbered := by
  rw [fst_handleControlPacket] at done
  split at done
  case isTrue =>
      split at done
      case isTrue awaiting =>
          refine handleResetComplete_numbered numbered ?_ done
          intro ready
          simp [ready] at awaiting
      case isFalse =>
          cases done
          exact numbered
  case isFalse =>
      split at done
      case isTrue =>
          have left : State.awaitingResetCompleteRemoteInitiated ≠ .ready := nofun
          exact (numbered.leave left).same (sendControlPacket_accepted done)
      case isFalse =>
          cases done
          exact numbered

theorem receive_numbered {reactions : Reactions} {packet : List UInt8} (numbered : side.Numbered)
    (done : input turns side (.receive reactions packet) = .ok side') : side'.Numbered := by
  cases packet with
  | nil =>
      cases done
      exact numbered
  | cons header rest =>
      unfold input at done
      dsimp only at done
      rw [fst_handleIncomingRawData] at done
      have cleared := numbered.same (.of_same (clearStall_same side))
      split at done
      case isTrue =>
          cases done
          exact numbered
      case isFalse =>
          split at done
          case isTrue => exact handleControlPacket_numbered cleared done
          case isFalse =>
              split at done
              case isTrue =>
                  cases done
                  exact cleared
              case isFalse closed => exact handleDataPacket_numbered cleared (not_not.mp closed) done

theorem Numbered.input {next : Input} (numbered : side.Numbered) (done : input turns side next = .ok side') :
    side'.Numbered := by
  cases next with
  | start =>
      unfold Endpoint.input start at done
      rw [fst_bind] at done
      obtain ⟨_, -, resets⟩ := bind_ok done
      exact reset_numbered numbered resets
  | reset => exact reset_numbered numbered done
  | call clientCall => exact numbered.same (call_accepted done)
  | receive reactions packet => exact receive_numbered numbered done
  | ackTimer =>
      unfold Endpoint.input fireAckTimer at done
      dsimp only at done
      split at done
      case isTrue =>
          cases done
          exact numbered
      case isFalse =>
          have fired : SameAccepted side side.ackTimerFired := ⟨rfl, rfl, rfl, rfl, rfl, List.prefix_rfl⟩
          exact numbered.same (fired.trans (sendNextPackets_accepted done))
  | retransmitTimer elapsed =>
      obtain ⟨-, rfl⟩ | ⟨-, done⟩ := retransmitTimer_cases turns done
      · exact numbered
      have idle : SameAccepted side (side.setOut { side.protocol.out with retransmitTimer := none }) :=
        ⟨rfl, rfl, rfl, rfl, rfl, List.prefix_rfl⟩
      have fired : SameAccepted side (side.retransmitTimerFired elapsed) :=
        idle.trans (.of_same (countStall_same _ elapsed))
      cases isState : (side.retransmitTimerFired elapsed).protocol.state with
      | initialized =>
          rw [isState] at done
          cases done
          exact numbered.same fired
      | awaitingResetCompleteSelfInitiated | awaitingResetCompleteRemoteInitiated =>
          rw [isState] at done
          exact reset_numbered (numbered.same fired) done
      | ready =>
          rw [isState] at done
          have sends : sendNextPackets turns (side.retransmitTimerFired elapsed).rolledBack = .ok side' := done
          have back := SameAccepted.rolledBack (side.retransmitTimerFired elapsed)
          exact numbered.same (fired.trans (back.trans (sendNextPackets_accepted sends)))

/-! ## The operations come back -/

section Returns

variable {n k : Nat}

theorem Window.prepares (window : side.Window n k) (valid : n ≤ k)
    (room : resetCompletePacketSize ≤ side.transportMaxPacketSize) : ∃ result, side.prepareNextPacket = .ok result := by
  have offset : side.protocol.out.getTotalNumBytesAwaitingAck ≤ side.outgoing.length := by
    rw [window.offset]
    exact (Outbound.bytesBelow_mono _ valid).trans window.bytes
  have data : ∀ ack maxSize, ∃ result, side.prepareData ack maxSize = .ok result := by
    intro ack maxSize
    unfold prepareData nextDataSize
    dsimp only
    split
    case isTrue => exact ⟨_, rfl⟩
    case isFalse =>
        split
        case isTrue => exact ⟨_, rfl⟩
        case isFalse =>
            split
            case isTrue =>
                rw [assert_of offset, ok_bind, pure_ok, ok_bind]
                split <;> exact ⟨_, rfl⟩
            case isFalse =>
                rw [pure_ok, ok_bind]
                split <;> exact ⟨_, rfl⟩
  have large : min side.transportMaxPacketSize maxPacketSize ≥ resetCompletePacketSize := by
    unfold resetCompletePacketSize maxPacketSize at *
    omega
  unfold prepareNextPacket
  dsimp only
  rw [assert_of large, ok_bind]
  split <;> exact data _ _

/-- The loop can only fail to end. -/
theorem Window.loop_error {rounds : Nat} {fault : Fault} (window : side.Window n k) (valid : n ≤ k)
    (room : resetCompletePacketSize ≤ side.transportMaxPacketSize)
    (fails : sendNextPackets rounds side = .error fault) : fault = .diverges := by
  induction rounds generalizing side n k with
  | zero =>
      cases fails
      rfl
  | succ rounds ih =>
      obtain ⟨⟨next, prepared⟩, prepares⟩ := window.prepares valid room
      unfold sendNextPackets at fails
      rw [prepares, ok_bind] at fails
      cases prepared with
      | none => cases fails
      | some prepared =>
          dsimp only at fails
          obtain ⟨error, sends⟩ | sends := next.sendRawData_cases prepared.packet
          · rw [sends] at fails
            cases fails
          · rw [sends] at fails
            obtain ⟨n', k', window', valid'⟩ := window.sent valid prepares
            refine ih window' valid' ?_ fails
            obtain ⟨timer, rfl⟩ := prepareNextPacket_same prepares
            exact room

theorem Window.sends {rounds : Nat} (window : side.Window n k) (valid : n ≤ k)
    (small : side.protocol.actualSessionCfg.maxTxWindowSize.toNat < snWindowSize)
    (room : resetCompletePacketSize ≤ side.transportMaxPacketSize) (enough : snWindowSize < rounds) :
    ∃ side', sendNextPackets rounds side = .ok side' := by
  have ends := (@sendNextPackets_ends rounds side window.smallSns small (by split <;> omega)).1
  cases sends : sendNextPackets rounds side with
  | ok side' => exact ⟨side', rfl⟩
  | error fault =>
      rw [window.loop_error valid room sends] at sends
      exact (ends sends).elim

end Returns

/-- An endpoint that can send: in a session, with a window that is smaller than the space of
    serial numbers and a transport that takes control packets. -/
structure Sendable (side : Endpoint) : Prop where
  ready : side.protocol.state = .ready
  small : side.protocol.actualSessionCfg.maxTxWindowSize.toNat < snWindowSize
  room : resetCompletePacketSize ≤ side.transportMaxPacketSize
  synced : side.Synced

theorem Sendable.sends (sendable : side.Sendable) (enough : snWindowSize < turns) :
    ∃ side', sendNextPackets turns side = .ok side' ∧ side'.Sendable := by
  obtain ⟨n, window⟩ := sendable.synced.2 sendable.ready sendable.small
  obtain ⟨side', ends⟩ := window.sends (Nat.le_refl n) sendable.small sendable.room enough
  have protocol := sendNextPackets_protocol ends
  have synced := ((kept_synced.loop sendable.synced (.inr trivial)).comes ends).1
  refine ⟨side', ends, ?_, ?_, ?_, synced⟩
  · rw [protocol]
    exact sendable.ready
  · rw [protocol]
    exact sendable.small
  · rw [sendNextPackets_same ends]
    exact sendable.room

theorem Sendable.call {clientCall : ClientCall} (sendable : side.Sendable) (sized : clientCall.Sized)
    (enough : snWindowSize < turns) : ∃ side', call turns side clientCall = .ok side' ∧ side'.Sendable := by
  have synced : ∀ side', Endpoint.call turns side clientCall = .ok side' → side'.Synced := fun side' done =>
    ((kept_synced.call sendable.synced clientCall fun _ => .inr trivial).comes done).1
  cases clientCall with
  | queue bytes => exact ⟨_, rfl, sendable.ready, sendable.small, sendable.room, synced _ rfl⟩
  | notifyOutgoingDataAvailable => exact sendable.sends enough
  | consumeIncomingData size => exact ⟨_, rfl, sendable.ready, sendable.small, sendable.room, synced _ rfl⟩
  | setTransportMaxPacketSize size => exact ⟨_, rfl, sendable.ready, sendable.small, sized, synced _ rfl⟩

theorem Sendable.calls {clientCalls : List ClientCall} (sendable : side.Sendable)
    (sized : ∀ clientCall ∈ clientCalls, clientCall.Sized) (enough : snWindowSize < turns) :
    ∃ side', calls turns side clientCalls = .ok side' ∧ side'.Sendable :=
  Runs.run_goes (fun _ _ sendable sized => sendable.call sized enough) sendable sized

theorem ackOf_lt {packet : List UInt8} {psn : Nat} (isAck : ackOf packet = some psn) : psn < snWindowSize := by
  cases packet with
  | nil => cases isAck
  | cons header rest =>
      unfold ackOf at isAck
      dsimp only at isAck
      split at isAck
      case isTrue =>
          cases isAck
          exact KeptInSession.psn_lt header
      case isFalse => cases isAck

/-- The ack of a packet, whatever it acks. -/
theorem Sendable.afterAck {reactions : Reactions} {packet : List UInt8} (sendable : side.Sendable)
    (sized : reactions.Sized) (enough : snWindowSize < turns) :
    ∃ side', side.afterAck turns reactions packet = .ok side' ∧ side'.Sendable ∧ SameAccepted side side' := by
  unfold Endpoint.afterAck
  split
  case h_1 psn isAck =>
      rw [handleAck_eq]
      split
      case isTrue awaiting =>
          have small := ackOf_lt isAck
          have synced := kept_synced.acknowledge sendable.synced sendable.ready small awaiting trivial
          have same := acknowledged_accepted side psn
          have acked : (side.acknowledged psn).Sendable := by
            refine ⟨same.state.trans sendable.ready, same.session ▸ sendable.small, ?_, synced⟩
            unfold acknowledged consumeOutgoingData
            dsimp only
            split <;> exact sendable.room
          obtain ⟨side', calls, sendable'⟩ := acked.calls sized.1 enough
          exact ⟨side', calls, sendable', same.trans (calls_accepted calls)⟩
      case isFalse => exact ⟨side, rfl, sendable, .refl side⟩
  case h_2 => exact ⟨side, rfl, sendable, .refl side⟩

/-! ## Acks -/

/-- A packet that is sent while an ack is due has the ack in front. -/
theorem ackOf_prepared {next : Endpoint} {prepared : Prepared} (small : side.protocol.out.psnToAckWith < snWindowSize)
    (pending : AckPending side) (prepares : side.prepareNextPacket = .ok (next, some prepared)) :
    ackOf prepared.packet = some side.protocol.out.psnToAckWith := by
  have header : ∀ rest, ackOf ((dataPacketTypeWithAck ||| UInt8.ofNat side.protocol.out.psnToAckWith) :: rest) =
      some side.protocol.out.psnToAckWith := by
    intro rest
    have type := encodeAck_type side.protocol.out.psnToAckWith
    have psn := encodeAck_psn side.protocol.out.psnToAckWith
    have notControl := @encode_notControl (some side.protocol.out.psnToAckWith) none (by simp [Flight.encode])
    unfold encodeAck at type psn
    unfold Flight.encode encodeAck at notControl
    rw [Nat.mod_eq_of_lt small] at type psn
    simp only [Option.map_some, Option.toList_some, Option.map_none, Option.getD_none, List.append_nil,
      List.headD_cons, Nat.mod_eq_of_lt small] at notControl
    unfold ackOf
    dsimp only
    rw [if_pos ⟨notControl, type⟩, psn]
  have spec := prepareData_some (prepareNextPacket_cases prepares).2
  rw [if_pos pending] at spec
  obtain ⟨-, isNone | ⟨-, isAck⟩⟩ | ⟨-, _, -, -, -, -, isData⟩ := spec
  · cases isNone
  · cases isAck
    exact header []
  · cases isData
    exact header _

/-- An ack that is scheduled is sent by the loop, or it stays scheduled. -/
theorem sendNextPackets_acks {rounds : Nat} (small : side.protocol.out.psnToAckWith < snWindowSize)
    (sns : side.SmallSns) (scheduled : side.protocol.out.ackTimer ≠ none)
    (ends : sendNextPackets rounds side = .ok side') :
    ∃ more, side'.wire = side.wire ++ more ∧ (side'.protocol.out.ackTimer ≠ none ∨
      ∃ packet ∈ more, ackOf packet = some side.protocol.out.psnToAckWith) := by
  let Acks (next : Endpoint) := next.SmallSns ∧ SameAccepted side next ∧ ∃ more, next.wire = side.wire ++ more ∧
    (next.protocol.out.ackTimer ≠ none ∨ ∃ packet ∈ more, ackOf packet = some side.protocol.out.psnToAckWith)
  have keeps : Proceeds (fun _ => True) Acks side (sendNextPackets rounds side) (traceLoop rounds side) := by
    apply @Proceeds.loop _ Acks _ (fun _ => id) ?_ ?_ (fun _ _ => trivial) rounds side
      ⟨sns, .refl side, [], (List.append_nil _).symm, .inl scheduled⟩
    · rintro before next prepared ⟨sns, same, more, wire, acked⟩ prepares
      obtain ⟨timer, rfl⟩ := prepareNextPacket_same prepares
      exact ⟨kept_smallSns.refused sns prepares, same.trans ⟨rfl, rfl, rfl, rfl, rfl, List.prefix_rfl⟩, more, wire, acked⟩
    · rintro before next prepared ⟨sns, same, more, wire, acked⟩ prepares
      have psn := same.ackPsn
      have sent : SameAccepted before (next.withSent prepared) ∧
          (next.withSent prepared).wire = before.wire ++ [prepared.packet] := by
        obtain ⟨timer, rfl⟩ := prepareNextPacket_same prepares
        refine ⟨⟨rfl, rfl, rfl, ?_, rfl, List.prefix_append _ _⟩, rfl⟩
        unfold withSent packetSent
        dsimp only
        split <;> split <;> rfl
      refine ⟨kept_smallSns.sent sns prepares, same.trans sent.1, more ++ [prepared.packet], ?_, ?_⟩
      · rw [sent.2, wire, List.append_assoc]
      by_cases pending : AckPending before
      · refine .inr ⟨prepared.packet, List.mem_append_right _ (List.mem_singleton_self _), ?_⟩
        rw [ackOf_prepared (psn ▸ small) pending prepares, psn]
      · refine acked.imp ?_ ?_
        · intro scheduled
          have timer : (next.withSent prepared).protocol.out.ackTimer = before.protocol.out.ackTimer := by
            obtain ⟨isPending, -⟩ | ⟨-, -, -, -, -, out⟩ := withSent_cases sns.dataSn prepares
            · exact (pending isPending).elim
            · rw [out]
              unfold outAcked
              obtain ⟨timer, armed⟩ := armRetransmit_same before
              rw [armed]
              split
              case isTrue isPending => exact (pending isPending).elim
              case isFalse => rfl
          rwa [timer]
        · rintro ⟨packet, member, isAck⟩
          exact ⟨packet, List.mem_append_left _ member, isAck⟩
  exact (keeps.comes ends).2.2

/-! ## Duplicates -/

/-- A packet is taken for one that was accepted before: the client is not told of it, and the
    last payload that was accepted is acked, by the timer at the latest. -/
def TakesAsDuplicate (turns : Nat) (side : Endpoint) (reactions : Reactions) (packet : List UInt8) : Prop :=
  let accepted := acceptedPayloads (session side.log)
  let last := (accepted.length - 1) % snWindowSize
  ∃ side' more, handleIncomingRawData turns side reactions packet = .ok (side', .ok ()) ∧
    acceptedPayloads (session side'.log) = accepted ∧ side'.protocol.out.psnToAckWith = last ∧
    side'.wire = side.wire ++ more ∧
    (side'.protocol.out.ackTimer ≠ none ∨ ∃ packet ∈ more, ackOf packet = some last)

theorem handleIncomingRawData_data {reactions : Reactions} {packet : List UInt8} (ready : side.protocol.state = .ready)
    (isData : packet.headD 0 &&& packetTypeMask ≠ packetTypeControl) (nonempty : packet ≠ []) :
    handleIncomingRawData turns side reactions packet = handleDataPacket turns side.clearStall reactions packet := by
  have state : side.clearStall.protocol.state = .ready := (clearStall_same side).state.trans ready
  unfold handleIncomingRawData
  rw [if_neg (mt List.length_eq_zero_iff.mp nonempty), if_neg (by rw [ready]; nofun)]
  dsimp only
  rw [load_headD nonempty, ok_bind, if_neg isData, if_neg (not_not.mpr state)]

/-- The ack of a packet is handled before its payload. -/
theorem handleDataPacket_payload {reactions : Reactions} {packet : List UInt8} {psn : Nat} {payload : List UInt8}
    (isData : packet.headD 0 &&& packetTypeMask ≠ packetTypeControl) (fits : packet.length ≤ maxPacketSize)
    (isPayload : payloadOf packet = some (psn, payload)) :
    ∃ header, (header &&& ackOrPsnMask).toNat = psn ∧
      handleDataPacket turns side reactions packet = side.afterAck turns reactions packet >>= fun side =>
        handlePayload turns side reactions (header :: payload) := by
  cases packet with
  | nil => cases isPayload
  | cons header rest =>
      unfold handleDataPacket
      rw [if_neg (Nat.not_lt.mpr fits)]
      have first : load (header :: rest) 0 = .ok header := rfl
      rw [first, ok_bind]
      unfold payloadOf at isPayload
      unfold Endpoint.afterAck ackOf
      dsimp only at isPayload ⊢
      by_cases withAck : header &&& dataPacketTypeWithAck = dataPacketTypeWithAck
      · rw [if_pos withAck] at isPayload ⊢
        rw [if_pos ⟨isData, withAck⟩]
        cases rest with
        | nil => cases isPayload
        | cons inner payload =>
            cases isPayload
            exact ⟨inner, rfl, rfl⟩
      · rw [if_neg withAck] at isPayload ⊢
        rw [if_neg fun both => withAck both.2]
        cases isPayload
        exact ⟨header, rfl, rfl⟩

theorem afterCalls_free {in_ : Inbound} (free : in_.payloadBufferFull = false) (clientCalls : List ClientCall) :
    (in_.afterCalls clientCalls).payloadBufferFull = false := by
  unfold Inbound.afterCalls
  induction clientCalls generalizing in_ with
  | nil => exact free
  | cons clientCall rest ih =>
      rw [List.foldl_cons]
      apply ih
      cases clientCall with
      | consumeIncomingData size =>
          dsimp only
          unfold Inbound.consumeIncomingData
          split
          case isTrue => exact free
          case isFalse => simp [free]
      | queue | notifyOutgoingDataAvailable | setTransportMaxPacketSize => exact free

theorem bufferFor_free (free : side.protocol.in_.payloadBufferFull = false) (reactions : Reactions) (packet : List UInt8) :
    (side.bufferFor reactions packet).payloadBufferFull = false := by
  unfold bufferFor
  split
  case h_1 =>
      split
      case isTrue => exact afterCalls_free free _
      case isFalse => exact free
  case h_2 => exact free

/-- A packet that is not too long comes to its payload. -/
theorem Sendable.handles {reactions : Reactions} {packet : List UInt8} {psn : Nat} {payload : List UInt8}
    (sendable : side.Sendable) (sized : reactions.Sized) (enough : snWindowSize < turns)
    (free : side.protocol.in_.payloadBufferFull = false)
    (isData : packet.headD 0 &&& packetTypeMask ≠ packetTypeControl) (fits : packet.length ≤ maxPacketSize)
    (isPayload : payloadOf packet = some (psn, payload)) :
    ∃ header side', (header &&& ackOrPsnMask).toNat = psn ∧
      handleIncomingRawData turns side reactions packet = handlePayload turns side' reactions (header :: payload) ∧
      side'.Sendable ∧ SameAccepted side side' ∧ side'.protocol.in_.payloadBufferFull = false := by
  have nonempty : packet ≠ [] := by
    rintro rfl
    cases isPayload
  have cleared := clearStall_same side
  have sendable' : side.clearStall.Sendable :=
    ⟨cleared.state.trans sendable.ready, cleared.session ▸ sendable.small, cleared.packetSize sendable.room,
      sendable.synced.same cleared⟩
  obtain ⟨side', acked, sendable'', same⟩ := @Sendable.afterAck _ turns reactions packet sendable' sized enough
  obtain ⟨header, isPsn, handles⟩ := @handleDataPacket_payload side.clearStall turns reactions _ _ _ isData fits isPayload
  refine ⟨header, side', isPsn, ?_, sendable'', (SameAccepted.of_same cleared).trans same, ?_⟩
  · rw [handleIncomingRawData_data sendable.ready isData nonempty, handles, acked, ok_bind]
  · rw [afterAck_in acked]
    exact bufferFor_free (cleared.free free) reactions packet

section Payload

variable {reactions : Reactions} {header : UInt8} {payload : List UInt8}

theorem handlePayload_unexpected (free : side.protocol.in_.payloadBufferFull = false)
    (unexpected : side.Unexpected (header &&& ackOrPsnMask).toNat) :
    handlePayload turns side reactions (header :: payload) = .ok (side, .error .gattlinkUnexpectedPsn) := by
  unfold Unexpected at *
  unfold handlePayload
  dsimp only
  rw [free, if_neg (by decide)]
  rw [if_pos unexpected]
  rfl

theorem handlePayload_old (free : side.protocol.in_.payloadBufferFull = false)
    (other : (header &&& ackOrPsnMask).toNat ≠ side.protocol.in_.nextExpectedDataPsn)
    (taken : ¬ side.Unexpected (header &&& ackOrPsnMask).toNat) :
    handlePayload turns side reactions (header :: payload) =
      sendNextPackets turns side.countUnacked >>= fun side => return (side, .ok ()) := by
  unfold Unexpected at *
  unfold handlePayload
  dsimp only
  rw [free, if_neg (by decide)]
  rw [if_neg taken, if_neg other]
  rfl

/-- An old payload is acked again. -/
theorem Sendable.again (sendable : side.Sendable) (enough : snWindowSize < turns)
    (small : side.protocol.out.psnToAckWith < snWindowSize) (free : side.protocol.in_.payloadBufferFull = false)
    (other : (header &&& ackOrPsnMask).toNat ≠ side.protocol.in_.nextExpectedDataPsn)
    (taken : ¬ side.Unexpected (header &&& ackOrPsnMask).toNat) :
    ∃ side' more, handlePayload turns side reactions (header :: payload) = .ok (side', .ok ()) ∧
      SameAccepted side side' ∧ side'.wire = side.wire ++ more ∧
      (side'.protocol.out.ackTimer ≠ none ∨ ∃ packet ∈ more, ackOf packet = some side.protocol.out.psnToAckWith) := by
  have counted : side.countUnacked.Sendable :=
    ⟨sendable.ready, sendable.small, sendable.room, kept_synced.countUnacked sendable.synced sendable.ready⟩
  have sns : side.countUnacked.SmallSns := by
    obtain ⟨n, window⟩ := counted.synced.2 counted.ready counted.small
    exact window.smallSns
  obtain ⟨side', sends, -⟩ := counted.sends enough
  have small' : side.countUnacked.protocol.out.psnToAckWith < snWindowSize := small
  have scheduled : side.countUnacked.protocol.out.ackTimer ≠ none := nofun
  obtain ⟨more, wire, acks⟩ := sendNextPackets_acks small' sns scheduled sends
  have same : SameAccepted side side.countUnacked := ⟨rfl, rfl, rfl, rfl, rfl, List.prefix_rfl⟩
  refine ⟨side', more, ?_, same.trans (sendNextPackets_accepted sends), wire, acks⟩
  rw [handlePayload_old free other taken, sends]
  rfl

/-- The expected payload is accepted, if the client's calls come back. -/
theorem handlePayload_expected {result : Except Error Unit} (numbered : side.Numbered) (ready : side.protocol.state = .ready)
    (free : side.protocol.in_.payloadBufferFull = false)
    (expected : (header &&& ackOrPsnMask).toNat = side.protocol.in_.nextExpectedDataPsn)
    (handles : handlePayload turns side reactions (header :: payload) = .ok (side', result)) :
    (acceptedPayloads (session side'.log)).length = (acceptedPayloads (session side.log)).length + 1 := by
  unfold handlePayload at handles
  dsimp only at handles
  rw [free, if_neg (by decide)] at handles
  rw [if_neg fun unexpected => unexpected.1 expected, if_pos expected] at handles
  obtain ⟨between, accepts, handles⟩ := bind_ok handles
  obtain ⟨after, sends, same⟩ := bind_ok handles
  cases same
  have counted : SameAccepted between between.countUnacked := ⟨rfl, rfl, rfl, rfl, rfl, List.prefix_rfl⟩
  rw [(counted.trans (sendNextPackets_accepted sends)).accepted]
  exact (acceptPayload_numbered numbered ready expected accepts).2.2

end Payload

theorem run_keeps {Inv : Endpoint → Prop} {inputs : List Input}
    (step : ∀ {side side' : Endpoint} {next : Input}, Inv side → Endpoint.input turns side next = .ok side' → Inv side')
    (inv : Inv side) (runs : side.run turns inputs = .ok side') : Inv side' := by
  induction inputs generalizing side with
  | nil =>
      cases runs
      exact inv
  | cons next rest ih =>
      obtain ⟨between, first, later⟩ := bind_ok runs
      exact ih (step inv first) later

end Endpoint

/-- In every state of every run, a receiver whose inbound buffer is free takes a packet that it
    accepted `back` packets ago for a duplicate exactly if it is less than a window old; the
    oldest one of a full window is rejected. -/
theorem retransmission_isDuplicate_iff (config : SessionConfig) (transportMaxPacketSize : Nat) {turns : Nat}
    (enough : snWindowSize < turns) {inputs : List Input} {side : Endpoint}
    (runs : (create config transportMaxPacketSize []).run turns inputs = .ok side)
    (ready : side.protocol.state = .ready)
    (txWindow : side.protocol.actualSessionCfg.maxTxWindowSize.toNat < snWindowSize)
    (room : resetCompletePacketSize ≤ side.transportMaxPacketSize)
    (free : side.protocol.in_.payloadBufferFull = false) {reactions : Reactions} (sized : reactions.Sized)
    {packet payload : List UInt8} {back : Nat} (isData : packet.headD 0 &&& packetTypeMask ≠ packetTypeControl)
    (isPayload : payloadOf packet =
      some (((acceptedPayloads (session side.log)).length - back) % snWindowSize, payload))
    (old : 0 < back) (accepted : back ≤ (acceptedPayloads (session side.log)).length)
    (window : back ≤ side.protocol.actualSessionCfg.maxRxWindowSize.toNat) (space : back ≤ snWindowSize) :
    side.TakesAsDuplicate turns reactions packet ↔
      back < side.protocol.actualSessionCfg.maxRxWindowSize.toNat ∧ back < snWindowSize ∧
        packet.length ≤ maxPacketSize := by
  have outside : (create config transportMaxPacketSize []).protocol.state ≠ .ready := nofun
  have synced : side.Synced := run_keeps Synced.input (.outside rfl outside) runs
  have numbered : side.Numbered :=
    run_keeps Numbered.input ⟨fun isReady => (outside isReady).elim, fun isReady => (outside isReady).elim, fun _ => rfl⟩ runs
  by_cases fits : packet.length ≤ maxPacketSize
  · have sendable : side.Sendable := ⟨ready, txWindow, room, synced⟩
    obtain ⟨header, side', isPsn, handles, sendable', same, free'⟩ :=
      sendable.handles sized enough free isData fits isPayload
    have expected := same.psn.trans (numbered.psn ready)
    have ackPsn := numbered.ackPsn ready (by omega)
    unfold TakesAsDuplicate
    dsimp only
    rw [handles]
    generalize isLength : (acceptedPayloads (session side.log)).length = received at *
    rcases Nat.lt_or_eq_of_le space with near | around
    · have distance := @distance_mod (received - back) received (Nat.sub_le _ _) (by omega)
      rw [Nat.sub_sub_self accepted] at distance
      have other : (header &&& ackOrPsnMask).toNat ≠ side'.protocol.in_.nextExpectedDataPsn := by
        rw [isPsn, expected]
        intro same
        have around := GoBackN.serial_inj same (by omega) (by omega)
        omega
      have unexpected_iff : side'.Unexpected (header &&& ackOrPsnMask).toNat ↔
          side.protocol.actualSessionCfg.maxRxWindowSize.toNat ≤ back := by
        unfold Unexpected
        rw [isPsn, expected, distance, same.session]
        rw [isPsn, expected] at other
        exact ⟨And.right, fun far => ⟨other, far⟩⟩
      by_cases far : side.protocol.actualSessionCfg.maxRxWindowSize.toNat ≤ back
      · rw [handlePayload_unexpected free' (unexpected_iff.mpr far)]
        constructor
        · rintro ⟨side'', more, rejects, -⟩
          cases rejects
        · omega
      · have small : side'.protocol.out.psnToAckWith < snWindowSize := by
          rw [same.ackPsn, ackPsn]
          exact Nat.mod_lt _ (by decide)
        obtain ⟨side'', more, takes, same', wire, acks⟩ :=
          @Sendable.again side' turns reactions header payload sendable' enough small free' other (mt unexpected_iff.mp far)
        obtain ⟨before, wire'⟩ := same.wire
        refine ⟨fun _ => ⟨Nat.not_le.mp far, near, fits⟩, fun _ => ⟨side'', before ++ more, takes, ?_, ?_, ?_, ?_⟩⟩
        · exact same'.accepted.trans same.accepted
        · exact (same'.ackPsn.trans same.ackPsn).trans ackPsn
        · rw [wire, ← wire', List.append_assoc]
        · rw [same.ackPsn, ackPsn] at acks
          apply acks.imp_right
          rintro ⟨packet, member, isAck⟩
          exact ⟨packet, List.mem_append_right _ member, isAck⟩
    · -- the number of the payload is the expected one again
      have isExpected : (header &&& ackOrPsnMask).toNat = side'.protocol.in_.nextExpectedDataPsn := by
        rw [isPsn, expected, around]
        unfold snWindowSize at *
        omega
      constructor
      · rintro ⟨side'', more, takes, unchanged, -⟩
        have more := handlePayload_expected (numbered.same same) sendable'.ready free' isExpected takes
        rw [unchanged, same.accepted] at more
        omega
      · omega
  · have nonempty : packet ≠ [] := by
      rintro rfl
      cases isPayload
    constructor
    · rintro ⟨side', more, takes, -⟩
      rw [handleIncomingRawData_data ready isData nonempty] at takes
      unfold handleDataPacket at takes
      rw [if_pos (Nat.not_le.mp fits)] at takes
      cases takes
    · exact fun both => (fits both.2.2).elim

/-- The client consumes one byte of each payload. -/
def consumesOne : Reactions := ⟨[], [.consumeIncomingData 1], []⟩

/-- Two packets of the peer. -/
def twoPackets : List Input :=
  [.start, .receive noReactions (resetCompletePacket ⟨8, 8⟩), .receive consumesOne [0, 7], .receive consumesOne [1, 8]]

/-- The first of two packets comes again, behind an ack. -/
theorem retransmission_isDuplicate_twoPackets :
    ∃ side, (create ⟨8, 8⟩ 20 []).run 33 twoPackets = .ok side ∧
      side.TakesAsDuplicate 33 consumesOne [0x40, 0, 7] := by
  refine ⟨_, rfl, ?_⟩
  have sized : consumesOne.Sized := by simp [consumesOne, Reactions.Sized, ClientCall.Sized]
  have iff := @retransmission_isDuplicate_iff ⟨8, 8⟩ 20 33 (by decide) twoPackets _ rfl rfl (by decide) (by decide) rfl
    consumesOne sized [0x40, 0, 7] [7] 2 (by decide) rfl (by decide) (by decide) (by decide) (by decide)
  exact iff.mpr (by decide)

/-- An endpoint at the beginning of a session with windows of one packet. -/
def smallEndpoint : Endpoint := { freshEndpoint with protocol := ⟨.ready, ⟨1, 1⟩, ⟨1, 1⟩, 0, 0, .zero, .zero⟩ }

/-- A packet is accepted, but its ack is lost, and it is sent again. -/
def lostAck : List (Party × Action) :=
  [(.a, .call (.queue [1, 2, 3])), (.a, .call .notifyOutgoingDataAvailable),
    (.b, .deliver ⟨[], [.consumeIncomingData 3], []⟩), (.b, .ackTimer), (.b, .drop 0), (.a, .retransmitTimer 4000)]

theorem retransmission_rejected :
    smallEndpoint.Fresh 1 1 ∧
      ∃ net, (⟨smallEndpoint, smallEndpoint⟩ : Network).run 33 lostAck = .ok net ∧ net.a.wire = [[0, 1, 2, 3]] ∧
        acceptedPayloads (session net.b.log) = [[1, 2, 3]] ∧ net.b.protocol.in_.payloadBufferFull = false ∧
        ∀ reactions, ¬ net.b.TakesAsDuplicate 33 reactions [0, 1, 2, 3] := by
  constructor
  · constructor <;> first | rfl | decide
  refine ⟨_, rfl, rfl, rfl, rfl, ?_⟩
  rintro reactions ⟨side', more, takes, -⟩
  cases takes

end GoldenGate.Gattlink

import GoldenGate.Gattlink.Resets

/-! # The handshake

An endpoint between two sessions waits for a reset complete packet. What each operation
does to an endpoint that waits, and how a session is left and entered.
-/

namespace GoldenGate.Gattlink

open Memory GoBackN

/-- The control packets. -/
def request : Flight := .control [Endpoint.buildControlPacket controlPacketTypeResetRequest]

def reply (desired : SessionConfig) : Flight := .control (Endpoint.resetCompletePacket desired)

/-- An endpoint that waits for a session. Its client may have queued something already. -/
structure Waiting (desired : SessionConfig) (side : Endpoint) (state : State) : Prop where
  isState : side.protocol.state = state
  waits : state = .awaitingResetCompleteSelfInitiated ∨ state = .awaitingResetCompleteRemoteInitiated
  isDesired : side.protocol.desiredSessionCfg = desired
  ackTimer : side.protocol.out.ackTimer = none
  packetSize : resetCompletePacketSize ≤ side.transportMaxPacketSize
  reliable : side.sendResults = []
  queued : queuedBytes (session side.log) = side.outgoing
  accepted : acceptedPayloads (session side.log) = []
  consumed : consumedBytes (session side.log) = 0

/-- An endpoint waits, with one more packet on its wire or none. -/
structure Waited (desired : SessionConfig) (side side' : Endpoint) (state : State)
    (flights : List Flight) : Prop where
  waiting : Waiting desired side' state
  session : side'.protocol.actualSessionCfg = side.protocol.actualSessionCfg
  wire : side'.wire = side.wire ++ flights.map Flight.encode
  log : side.log <+: side'.log

theorem SameWindow.grows {side side' : Endpoint} (same : SameWindow side side') :
    side.log <+: side'.log := by
  obtain isLog | ⟨time, isLog⟩ := same.log
  · exact isLog ▸ List.prefix_refl _
  · rw [isLog]
    exact List.prefix_append _ _

section Waiting

variable {desired : SessionConfig} {side side' : Endpoint} {state : State} {turns : Nat}
  (waiting : Waiting desired side state)
include waiting

theorem Waiting.stays : Waited desired side side state [] :=
  ⟨waiting, rfl, (List.append_nil _).symm, List.prefix_refl _⟩

/-- What does not matter in a session does not matter to an endpoint that waits. -/
theorem Waiting.congr (same : SameWindow side side') : Waited desired side side' state [] := by
  obtain ⟨isState, waits, isDesired, ackTimer, packetSize, reliable, queued, accepted, consumed⟩ := waiting
  refine ⟨⟨same.state.trans isState, waits, same.desired.trans isDesired, ?_, same.packetSize packetSize,
    same.sendResults.trans reliable, ?_, ?_, ?_⟩, same.session, ?_, same.grows⟩
  · rw [same.out, ackTimer]
  · rw [same.outgoing, ← queued]
    obtain isLog | ⟨time, isLog⟩ := same.log
    · rw [isLog]
    · rw [isLog, session_concat _ (by simp)]
      simp [queuedBytes]
  · obtain isLog | ⟨time, isLog⟩ := same.log
    · rw [isLog, accepted]
    · rw [isLog, session_concat _ (by simp), acceptedPayloads_append, accepted]
      rfl
  · obtain isLog | ⟨time, isLog⟩ := same.log
    · rw [isLog, consumed]
    · rw [isLog, session_concat _ (by simp), consumedBytes_append, consumed]
      rfl
  · rw [same.wire]
    exact (List.append_nil _).symm

theorem call_waited {call : ClientCall} (sized : call.Sized)
    (notNotify : call ≠ .notifyOutgoingDataAvailable) :
    ∃ side', Endpoint.call turns side call = .ok side' ∧ Waited desired side side' state [] := by
  cases call with
  | queue bytes =>
      refine ⟨_, rfl, ⟨?_, rfl, (List.append_nil _).symm, List.prefix_append _ _⟩⟩
      obtain ⟨isState, waits, isDesired, ackTimer, packetSize, reliable, queued, accepted, consumed⟩ := waiting
      have current : session (side.log ++ [Event.queued bytes]) = session side.log ++ [Event.queued bytes] :=
        session_concat _ (by simp)
      refine ⟨isState, waits, isDesired, ackTimer, packetSize, reliable, ?_, ?_, ?_⟩
      · change queuedBytes (session (side.log ++ [Event.queued bytes])) = side.outgoing ++ bytes
        rw [current, queuedBytes_append, queued]
        simp [queuedBytes]
      · change acceptedPayloads (session (side.log ++ [Event.queued bytes])) = []
        rw [current, acceptedPayloads_append, accepted]
        rfl
      · change consumedBytes (session (side.log ++ [Event.queued bytes])) = 0
        rw [current, consumedBytes_append, consumed]
        rfl
  | notifyOutgoingDataAvailable => exact absurd rfl notNotify
  | consumeIncomingData size => exact ⟨_, rfl, waiting.congr (consumeIncomingData_same side size)⟩
  | setTransportMaxPacketSize size =>
      refine ⟨_, rfl, waiting.congr ?_⟩
      constructor <;> first | rfl | exact id | exact .inl rfl | exact fun _ => sized

theorem fireAckTimer_waited : side.fireAckTimer turns = .ok side := by
  unfold Endpoint.fireAckTimer
  rw [if_pos waiting.ackTimer]
  rfl

/-! ## Control packets -/

/-- A control packet is sent, with the timer armed. -/
theorem Waiting.sends (timeout : Nat) (flight : Flight) :
    Waited desired side ((side.scheduleRetransmit timeout).sendRawData flight.encode).1 state
      [flight] := by
  obtain ⟨isState, waits, isDesired, ackTimer, packetSize, reliable, queued, accepted, consumed⟩ := waiting
  have reliable' : (side.scheduleRetransmit timeout).sendResults = [] := reliable
  rw [sendRawData_reliable reliable']
  exact ⟨⟨isState, waits, isDesired, ackTimer, packetSize, reliable, queued, accepted, consumed⟩, rfl, rfl,
    List.prefix_refl _⟩

theorem sendResetPacket_waited :
    ∃ side' result, side.sendResetPacket = .ok (side', result) ∧
      Waited desired side side' state [request] := by
  have packetSize := waiting.packetSize
  unfold resetCompletePacketSize at packetSize
  have large : (side.scheduleRetransmit resetCompleteTimeout).transportMaxPacketSize ≥ 1 := by
    change side.transportMaxPacketSize ≥ 1
    omega
  refine ⟨_, ((side.scheduleRetransmit resetCompleteTimeout).sendRawData request.encode).2, ?_,
    waiting.sends resetCompleteTimeout request⟩
  unfold Endpoint.sendResetPacket
  simp only [assert_of large, ok_bind]
  rfl

theorem sendResetCompletePacket_waited :
    ∃ side' result, side.sendResetCompletePacket = .ok (side', result) ∧
      Waited desired side side' state [reply desired] := by
  have large : (side.scheduleRetransmit resetCompleteAckTimeout).transportMaxPacketSize ≥
      resetCompletePacketSize := waiting.packetSize
  have isDesired : (side.scheduleRetransmit resetCompleteAckTimeout).protocol.desiredSessionCfg = desired :=
    waiting.isDesired
  refine ⟨_, ((side.scheduleRetransmit resetCompleteAckTimeout).sendRawData (reply desired).encode).2, ?_,
    waiting.sends resetCompleteAckTimeout (reply desired)⟩
  unfold Endpoint.sendResetCompletePacket
  simp only [assert_of large, ok_bind, isDesired]
  rfl

/-- An endpoint that waits is not told that the session is reset. -/
theorem Waiting.leave {state' : State} (waits' : state' = .awaitingResetCompleteSelfInitiated ∨
    state' = .awaitingResetCompleteRemoteInitiated) :
    Waited desired side (side.leaveSession state') state' [] := by
  obtain ⟨isState, waits, isDesired, ackTimer, packetSize, reliable, queued, accepted, consumed⟩ := waiting
  have notReady : ¬ side.protocol.state = .ready := by
    rw [isState]
    rcases waits with rfl | rfl <;> simp
  unfold Endpoint.leaveSession
  simp only [notReady, if_false]
  exact ⟨⟨rfl, waits', isDesired, rfl, packetSize, reliable, queued, accepted, consumed⟩, rfl,
    (List.append_nil _).symm, List.prefix_refl _⟩

end Waiting

theorem Waited.trans {desired : SessionConfig} {side side' side'' : Endpoint} {state state' : State}
    {flights flights' : List Flight} (first : Waited desired side side' state flights)
    (second : Waited desired side' side'' state' flights') :
    Waited desired side side'' state' (flights ++ flights') := by
  refine ⟨second.waiting, second.session.trans first.session, ?_, first.log.trans second.log⟩
  rw [second.wire, first.wire, List.append_assoc, List.map_append]

/-- The client has been told of the last reset. -/
def Origin.Proper (origin : Origin) : Prop :=
  origin.past = [] ∨ ∃ before, origin.past = before ++ [Event.sessionReset]

theorem Half.session {origin : Origin} {side : Endpoint} {tx rx next : Nat}
    {out in_ : Window (List UInt8)} {flights : List Flight}
    (half : Half origin side tx rx out in_ flights next) (proper : origin.Proper) :
    Gattlink.session side.log = side.since origin := by
  have parts : side.log = origin.past ++ side.since origin := by
    obtain ⟨rest, isLog⟩ := half.logged
    rw [Endpoint.since, ← isLog, List.drop_left]
  rw [parts, session_append proper half.noReset]

/-- The session is over: the client drops what it has queued. -/
theorem Half.leave {origin : Origin} {side : Endpoint} {tx rx next : Nat}
    {out in_ : Window (List UInt8)} {flights : List Flight}
    (half : Half origin side tx rx out in_ flights next) {state : State}
    (waits : state = .awaitingResetCompleteSelfInitiated ∨ state = .awaitingResetCompleteRemoteInitiated) :
    Waited origin.desired side (side.leaveSession state) state [] := by
  have forgotten : Gattlink.session (side.log ++ [Event.sessionReset]) = [] := by
    have empty := @session_append (side.log ++ [Event.sessionReset]) [] (.inr ⟨side.log, rfl⟩) (by simp)
    rwa [List.append_nil] at empty
  unfold Endpoint.leaveSession
  simp only [half.ready, if_true]
  refine ⟨⟨rfl, waits, half.desired, rfl, half.packetSize, half.reliable, ?_, ?_, ?_⟩, rfl,
    (List.append_nil _).symm, List.prefix_append _ _⟩
  · change queuedBytes (Gattlink.session (side.log ++ [Event.sessionReset])) = []
    rw [forgotten]
    rfl
  · change acceptedPayloads (Gattlink.session (side.log ++ [Event.sessionReset])) = []
    rw [forgotten]
    rfl
  · change consumedBytes (Gattlink.session (side.log ++ [Event.sessionReset])) = 0
    rw [forgotten]
    rfl

/-- A reset, of an endpoint that has left its session. -/
theorem reset_waited {desired : SessionConfig} {side : Endpoint}
    (left : Waited desired side (side.leaveSession .awaitingResetCompleteSelfInitiated)
      .awaitingResetCompleteSelfInitiated []) :
    ∃ side' result, side.reset = .ok (side', result) ∧
      Waited desired side side' .awaitingResetCompleteSelfInitiated [request] := by
  obtain ⟨side', result, sends, waited⟩ := sendResetPacket_waited left.waiting
  exact ⟨side', result, sends, left.trans waited⟩

theorem handleResetRequest_waited {desired : SessionConfig} {side : Endpoint}
    (left : Waited desired side (side.leaveSession .awaitingResetCompleteRemoteInitiated)
      .awaitingResetCompleteRemoteInitiated []) :
    ∃ side' result, side.handleResetRequest = .ok (side', result) ∧
      Waited desired side side' .awaitingResetCompleteRemoteInitiated [reply desired] := by
  obtain ⟨side', result, sends, waited⟩ := sendResetCompletePacket_waited left.waiting
  exact ⟨side', result, sends, left.trans waited⟩

/-- The timer of an endpoint that has asked for a reset: it asks again. -/
theorem onSendTimeoutFired_waited {desired : SessionConfig} {side : Endpoint} {turns : Nat}
    (waiting : Waiting desired side .awaitingResetCompleteSelfInitiated) (elapsed : UInt32) :
    ∃ side', side.onSendTimeoutFired turns elapsed = .ok side' ∧
      Waited desired side side' .awaitingResetCompleteSelfInitiated [request] := by
  have counted := waiting.congr (countStall_same side elapsed)
  obtain ⟨side', result, resets, waited⟩ := reset_waited (counted.waiting.leave (.inl rfl))
  refine ⟨side', ?_, counted.trans waited⟩
  unfold Endpoint.onSendTimeoutFired
  simp only [counted.waiting.isState, resets]
  rfl

theorem fireRetransmitTimer_waited {desired : SessionConfig} {side : Endpoint} {turns : Nat}
    (waiting : Waiting desired side .awaitingResetCompleteSelfInitiated) (elapsed : UInt32) :
    ∃ side' flights, side.fireRetransmitTimer turns elapsed = .ok side' ∧
      Waited desired side side' .awaitingResetCompleteSelfInitiated flights ∧
      (flights = [] ∨ flights = [request]) := by
  unfold Endpoint.fireRetransmitTimer
  by_cases scheduled : side.protocol.out.retransmitTimer = none
  · rw [if_pos scheduled]
    exact ⟨side, [], rfl, waiting.stays, .inl rfl⟩
  rw [if_neg scheduled]
  have fired : Waited desired side (side.setOut { side.protocol.out with retransmitTimer := none })
      .awaitingResetCompleteSelfInitiated [] := by
    obtain ⟨isState, waits, isDesired, ackTimer, packetSize, reliable, queued, accepted, consumed⟩ := waiting
    exact ⟨⟨isState, waits, isDesired, ackTimer, packetSize, reliable, queued, accepted, consumed⟩, rfl,
      (List.append_nil _).symm, List.prefix_refl _⟩
  obtain ⟨side', fires, waited⟩ := @onSendTimeoutFired_waited _ _ turns fired.waiting elapsed
  exact ⟨side', [request], fires, fired.trans waited, .inr rfl⟩

/-! ## What comes in -/

section Incoming

variable {side : Endpoint} {turns : Nat} {reactions : Reactions}

theorem handleIncoming_request (started : side.protocol.state ≠ .initialized) :
    side.handleIncomingRawData turns reactions request.encode = side.clearStall.handleResetRequest := by
  unfold Endpoint.handleIncomingRawData
  have notEmpty : ¬ request.encode.length = 0 := by decide
  simp only [notEmpty, started, if_false]
  rfl

theorem handleIncoming_reply (desired : SessionConfig) (started : side.protocol.state ≠ .initialized) :
    side.handleIncomingRawData turns reactions (reply desired).encode =
      side.clearStall.handleControlPacket turns reactions controlPacketTypeResetComplete
        (Endpoint.resetCompletePacket desired) := by
  unfold Endpoint.handleIncomingRawData
  have notEmpty : ¬ (reply desired).encode.length = 0 := by simp [reply, Flight.encode, Endpoint.resetCompletePacket]
  simp only [notEmpty, started, if_false]
  rfl

/-- A session that is there already stays. -/
theorem handleIncoming_reply_ready (desired : SessionConfig) (ready : side.protocol.state = .ready) :
    side.handleIncomingRawData turns reactions (reply desired).encode = .ok (side.clearStall, .ok ()) := by
  have ready' : side.clearStall.protocol.state = .ready := (clearStall_same side).state.trans ready
  rw [handleIncoming_reply desired (by rw [ready]; simp)]
  unfold Endpoint.handleControlPacket
  simp only [ready', reduceCtorEq, or_self, if_true, if_false]
  rfl

variable {desired : SessionConfig} {state : State} (waiting : Waiting desired side state)
include waiting

theorem Waiting.started : side.protocol.state ≠ .initialized := by
  rw [waiting.isState]
  rcases waiting.waits with rfl | rfl <;> simp

/-- Data that comes between two sessions is dropped. -/
theorem handleIncoming_packet {flight : Flight} (packet : flight.IsPacket) :
    ∃ side' result, side.handleIncomingRawData turns reactions flight.encode = .ok (side', result) ∧
      Waited desired side side' state [] := by
  have cleared := waiting.congr (clearStall_same side)
  cases flight with
  | control bytes => exact packet.elim
  | packet ack payload =>
      unfold Endpoint.handleIncomingRawData
      by_cases empty : (Flight.packet ack payload).encode.length = 0
      · rw [if_pos empty]
        exact ⟨side, .ok (), rfl, waiting.stays⟩
      have nonempty : (Flight.packet ack payload).encode ≠ [] := fun none =>
        empty (by rw [none, List.length_nil])
      have notReady : side.clearStall.protocol.state ≠ .ready := by
        rw [cleared.waiting.isState]
        rcases waiting.waits with rfl | rfl <;> simp
      refine ⟨side.clearStall, .error .invalidState, ?_, cleared⟩
      rw [if_neg empty, if_neg waiting.started]
      simp only [load_headD nonempty, ok_bind, encode_notControl nonempty, if_false, notReady, ne_eq,
        not_false_eq_true, if_true]
      rfl

end Incoming

/-! ## Entering -/

/-- The window to send in that two endpoints agree on. -/
def agreedWindow (sender receiver : SessionConfig) : Nat :=
  (min sender.maxTxWindowSize receiver.maxRxWindowSize).toNat

theorem agree_tx (desired peer : SessionConfig) :
    (Endpoint.agree desired peer.maxRxWindowSize peer.maxTxWindowSize).maxTxWindowSize.toNat =
      agreedWindow desired peer := rfl

theorem agree_rx (desired peer : SessionConfig) :
    (Endpoint.agree desired peer.maxRxWindowSize peer.maxTxWindowSize).maxRxWindowSize.toNat =
      agreedWindow peer desired := by
  change (if desired.maxRxWindowSize ≤ peer.maxTxWindowSize then desired.maxRxWindowSize
      else peer.maxTxWindowSize).toNat =
    (if peer.maxTxWindowSize ≤ desired.maxRxWindowSize then peer.maxTxWindowSize
      else desired.maxRxWindowSize).toNat
  simp only [UInt8.le_iff_toNat_le]
  split <;> split <;> omega

theorem exists_origin (log : List Event) (desired : SessionConfig) :
    ∃ origin : Origin, origin.Proper ∧ origin.desired = desired ∧ origin.past <+: log ∧
      log.drop origin.past.length = session log := by
  have parts : log.rdropWhile (· ≠ .sessionReset) ++ session log = log :=
    List.rdropWhile_append_rtakeWhile
  refine ⟨⟨log.rdropWhile (· ≠ .sessionReset), desired⟩, ?_, rfl, List.rdropWhile_prefix _ _, ?_⟩
  · by_cases empty : log.rdropWhile (· ≠ .sessionReset) = []
    · exact .inl empty
    · have last := List.rdropWhile_last_not _ log empty
      have isReset : (log.rdropWhile (· ≠ .sessionReset)).getLast empty = .sessionReset := by
        simpa using last
      have concat := List.dropLast_append_getLast empty
      rw [isReset] at concat
      exact .inr ⟨_, concat.symm⟩
  · have dropped := @List.drop_left _ (log.rdropWhile (· ≠ .sessionReset)) (session log)
    rwa [parts] at dropped

theorem session_noReset (log : List Event) : Event.sessionReset ∉ session log := by
  intro member
  have := List.mem_rtakeWhile_imp member
  simp at this

section Entering

variable {desired : SessionConfig} {side : Endpoint} {state : State}
  (waiting : Waiting desired side state)
include waiting

/-- A new session. -/
theorem Waiting.enters :
    ∃ origin : Origin, origin.Proper ∧ origin.desired = desired ∧
      Begins origin side.enterSession side.protocol.actualSessionCfg.maxTxWindowSize.toNat
        side.protocol.actualSessionCfg.maxRxWindowSize.toNat := by
  obtain ⟨isState, waits, isDesired, ackTimer, packetSize, reliable, queued, accepted, consumed⟩ := waiting
  obtain ⟨origin, proper, sameDesired, logged, since⟩ := exists_origin side.log desired
  have since' : side.enterSession.since origin = session side.log ++ [Event.sessionReady] := by
    change (side.log ++ [Event.sessionReady]).drop origin.past.length = _
    rw [drop_concat logged, since]
  refine ⟨origin, proper, sameDesired, rfl, rfl, rfl, rfl, rfl, packetSize, reliable,
    logged.trans (List.prefix_append _ _), isDesired.trans sameDesired.symm, ?_, ?_, ?_, ?_⟩
  · rw [since']
    simpa using session_noReset side.log
  · rw [since', queuedBytes_append, queued]
    exact List.append_nil _
  · rw [since', acceptedPayloads_append, accepted]
    rfl
  · rw [since', consumedBytes_append, consumed]
    rfl

end Entering

/-- What a reset complete packet is answered with. -/
def answer (desired : SessionConfig) (state : State) : List Flight :=
  if state = .awaitingResetCompleteSelfInitiated then [reply desired] else []

/-- The windows are agreed on, and the packet is answered. -/
theorem handleResetComplete_enters {desired peer : SessionConfig} {side : Endpoint} {state : State}
    {turns : Nat} {reactions : Reactions} (waiting : Waiting desired side state) :
    ∃ side' origin, origin.Proper ∧ origin.desired = desired ∧
      Begins origin side' (agreedWindow desired peer) (agreedWindow peer desired) ∧
      side'.wire = side.wire ++ (answer desired state).map Flight.encode ∧
      side.handleResetComplete turns reactions (Endpoint.resetCompletePacket peer) = (do
        let entered ← side'.calls turns reactions.onReady
        return (entered, .ok ())) := by
  let agreed : Endpoint :=
    { side with protocol :=
      { side.protocol with
        actualSessionCfg := Endpoint.agree desired peer.maxRxWindowSize peer.maxTxWindowSize } }
  have waiting' : Waiting desired agreed state := by
    obtain ⟨isState, waits, isDesired, ackTimer, packetSize, reliable, queued, accepted, consumed⟩ := waiting
    exact ⟨isState, waits, isDesired, ackTimer, packetSize, reliable, queued, accepted, consumed⟩
  have long : ¬ (Endpoint.resetCompletePacket peer).length < resetCompletePacketSize := by
    simp [Endpoint.resetCompletePacket, resetCompletePacketSize]
  have enters : side.handleResetComplete turns reactions (Endpoint.resetCompletePacket peer) = (do
      let answered ←
        if agreed.protocol.state = .awaitingResetCompleteSelfInitiated then
          Prod.fst <$> agreed.sendResetCompletePacket
        else pure agreed
      let entered ← answered.enterSession.calls turns reactions.onReady
      return (entered, .ok ())) := by
    unfold Endpoint.handleResetComplete
    rw [if_neg long, waiting.isDesired]
    rfl
  rw [enters, ← agree_tx, ← agree_rx desired peer]
  rcases waiting.waits with rfl | rfl
  · obtain ⟨side', result, sends, waited⟩ := sendResetCompletePacket_waited waiting'
    obtain ⟨origin, proper, isDesired, begins⟩ := waited.waiting.enters
    rw [waited.session] at begins
    refine ⟨side'.enterSession, origin, proper, isDesired, begins, waited.wire, ?_⟩
    rw [if_pos waiting'.isState, sends]
    rfl
  · obtain ⟨origin, proper, isDesired, begins⟩ := waiting'.enters
    refine ⟨agreed.enterSession, origin, proper, isDesired, begins, (List.append_nil _).symm, ?_⟩
    rw [if_neg (by rw [waiting'.isState]; simp)]
    rfl

/-- The reset complete packet of the peer: the session begins, and then the client is told. -/
theorem handleIncoming_reply_enters {desired peer : SessionConfig} {side : Endpoint} {state : State}
    {turns : Nat} {reactions : Reactions} (waiting : Waiting desired side state) :
    ∃ side' origin, origin.Proper ∧ origin.desired = desired ∧
      Begins origin side' (agreedWindow desired peer) (agreedWindow peer desired) ∧
      side'.wire = side.wire ++ (answer desired state).map Flight.encode ∧
      side.handleIncomingRawData turns reactions (reply peer).encode = (do
        let entered ← side'.calls turns reactions.onReady
        return (entered, .ok ())) := by
  have cleared := waiting.congr (clearStall_same side)
  have waits := waiting.waits
  rw [← cleared.waiting.isState] at waits
  obtain ⟨side', origin, proper, isDesired, begins, wire, enters⟩ :=
    @handleResetComplete_enters desired peer _ state turns reactions cleared.waiting
  refine ⟨side', origin, proper, isDesired, begins, ?_, ?_⟩
  · rw [wire, cleared.wire]
    simp
  · rw [handleIncoming_reply peer waiting.started]
    unfold Endpoint.handleControlPacket
    simp only [if_true, waits]
    exact enters

end GoldenGate.Gattlink

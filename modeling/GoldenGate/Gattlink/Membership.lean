import GoldenGate.Gattlink.Handshake

/-! # Members of a session

What happens at one endpoint of the two, whether it is in a session or waits for one, in
terms of the windows and of what is on the wires.
-/

namespace GoldenGate.Gattlink

open Memory GoBackN

/-! ## What is on the wires -/

def Replies (desired : SessionConfig) (flights : List Flight) : Prop :=
  ∀ flight ∈ flights, flight = reply desired

def Requests (flights : List Flight) : Prop := ∀ flight ∈ flights, flight = request

def Packets (flights : List Flight) : Prop := ∀ flight ∈ flights, flight.IsPacket

/-- Flights that are nothing in a session. -/
def Silent (flights : List Flight) : Prop := ∀ flight ∈ flights, flight.payload = none ∧ flight.ack = none

theorem Replies.silent {desired : SessionConfig} {flights : List Flight} (replies : Replies desired flights) :
    Silent flights := by
  intro flight member
  rw [replies flight member]
  exact ⟨rfl, rfl⟩

theorem Requests.silent {flights : List Flight} (requests : Requests flights) : Silent flights := by
  intro flight member
  rw [requests flight member]
  exact ⟨rfl, rfl⟩

theorem Silent.append {flights flights' : List Flight} (silent : Silent flights) (silent' : Silent flights') :
    Silent (flights ++ flights') := fun flight member =>
  (List.mem_append.mp member).elim (silent flight) (silent' flight)

theorem Silent.payloads {flights : List Flight} (silent : Silent flights) :
    flights.filterMap Flight.payload = [] :=
  List.filterMap_eq_nil_iff.mpr fun flight member => (silent flight member).1

theorem Silent.acks {flights : List Flight} (silent : Silent flights) :
    flights.filterMap Flight.ack = [] :=
  List.filterMap_eq_nil_iff.mpr fun flight member => (silent flight member).2

theorem Silent.find {flights : List Flight} (silent : Silent flights) :
    flights.find? (·.payload.isSome) = none := by
  rw [List.find?_eq_none]
  intro flight member
  rw [(silent flight member).1]
  simp

theorem opens_behind {sent : List (List UInt8)} {flights silents : List Flight} (silent : Silent silents) :
    Opens sent (silents ++ flights) ↔ Opens sent flights := by
  unfold Opens
  rw [List.find?_append, silent.find, Option.none_or]

/-! ## One endpoint -/

/-- An endpoint in a session with the windows that were agreed on. -/
def Member (desired peer : SessionConfig) (side : Endpoint) (out in_ : Window (List UInt8))
    (flights : List Flight) : Prop :=
  ∃ origin : Origin, origin.Proper ∧ origin.desired = desired ∧
    Half origin side (agreedWindow desired peer) (agreedWindow peer desired) out in_ flights out.sent.length

/-- At some time the endpoint was in a session with these windows. -/
def Departed (side : Endpoint) (out in_ : Window (List UInt8)) : Prop :=
  ∃ past, past <+: side.log ∧ acceptedPayloads (session past) = in_.sent.take in_.received ∧
    out.sent.flatten <+: queuedBytes (session past)

theorem Departed.later {side side' : Endpoint} {out in_ : Window (List UInt8)}
    (departed : Departed side out in_) (log : side.log <+: side'.log) : Departed side' out in_ := by
  obtain ⟨past, isPast, rest⟩ := departed
  exact ⟨past, isPast.trans log, rest⟩

section Steps

variable {cfg cfg' : SessionConfig} {net : Network} {turns : Nat}

theorem deliver_eq {reactions : Reactions} {flight : Flight} {flights : List Flight}
    (wire : net.b.wire = (flight :: flights).map Flight.encode) {a : Endpoint} {error : Except Error Unit}
    (handles : net.a.handleIncomingRawData turns reactions flight.encode = .ok (a, error)) :
    net.happen turns (.act (.deliver reactions)) =
      .ok ⟨a, { net.b with wire := flights.map Flight.encode }⟩ := by
  unfold Network.happen Network.act
  simp only [wire, List.map_cons, handles]
  rfl

theorem deliver_nothing {reactions : Reactions} (wire : net.b.wire = []) :
    net.happen turns (.act (.deliver reactions)) = .ok net := by
  unfold Network.happen Network.act
  rw [wire]
  rfl

/-- What an endpoint that waits does by itself. -/
theorem waiting_happens {state : State} (waiting : Waiting cfg net.a state) {occurrence : Occurrence}
    (may : net.MayHappen occurrence) (other : ∀ reactions, occurrence ≠ .act (.deliver reactions)) :
    ∃ a flights, net.happen turns occurrence = .ok { net with a := a } ∧
      Waited cfg net.a a state flights ∧
      (flights = [] ∨ flights = [request] ∧ state = .awaitingResetCompleteSelfInitiated) := by
  cases occurrence with
  | reset =>
      have asking : state = .awaitingResetCompleteSelfInitiated :=
        waiting.waits.resolve_right fun answering => may.1 (waiting.isState.trans answering)
      subst asking
      obtain ⟨a, result, resets, waited⟩ := reset_waited (waiting.leave (.inl rfl))
      refine ⟨a, [request], ?_, waited, .inr ⟨rfl, rfl⟩⟩
      rw [Network.happen, resets]
      rfl
  | act action =>
      cases action with
      | deliver reactions => exact absurd rfl (other reactions)
      | drop index => exact may.elim
      | ackTimer =>
          refine ⟨net.a, [], ?_, waiting.stays, .inl rfl⟩
          rw [Network.happen, Network.act, fireAckTimer_waited waiting]
          rfl
      | retransmitTimer elapsed =>
          have asking : state = .awaitingResetCompleteSelfInitiated :=
            waiting.waits.resolve_right fun answering => may (waiting.isState.trans answering)
          subst asking
          obtain ⟨a, flights, fires, waited, isFlights⟩ :=
            @fireRetransmitTimer_waited _ _ turns waiting elapsed
          refine ⟨a, flights, ?_, waited, isFlights.imp_right fun asks => ⟨asks, rfl⟩⟩
          rw [Network.happen, Network.act, fires]
          rfl
      | call clientCall =>
          have notNotify : clientCall ≠ .notifyOutgoingDataAvailable := by
            rintro rfl
            have ready : net.a.protocol.state = .ready := may
            rw [waiting.isState] at ready
            rcases waiting.waits with rfl | rfl <;> simp at ready
          have sized : clientCall.Sized := by
            cases clientCall with
            | notifyOutgoingDataAvailable => trivial
            | queue | consumeIncomingData => trivial
            | setTransportMaxPacketSize size => exact may
          obtain ⟨a, calls, waited⟩ := @call_waited _ _ _ turns waiting clientCall sized notNotify
          refine ⟨a, [], ?_, waited, .inl rfl⟩
          rw [Network.happen, Network.act, calls]
          rfl

/-- What an endpoint in its session does by itself. -/
theorem member_happens (small : agreedWindow cfg cfg' < snWindowSize) (enough : snWindowSize < turns)
    {out in_ : Window (List UInt8)} {flights : List Flight} (member : Member cfg cfg' net.a out in_ flights)
    (validOut : out.Valid (agreedWindow cfg cfg')) (validIn : in_.Valid (agreedWindow cfg' cfg))
    {occurrence : Occurrence} (may : net.MayHappen occurrence)
    (other : ∀ reactions, occurrence ≠ .act (.deliver reactions)) (notReset : occurrence ≠ .reset) :
    ∃ a out' in_' flights', net.happen turns occurrence = .ok { net with a := a } ∧
      Member cfg cfg' a out' in_' flights' ∧ out'.Valid (agreedWindow cfg cfg') ∧
      in_'.Valid (agreedWindow cfg' cfg) ∧ Moves out out' in_ in_' ∧
      Grows out.sent out'.sent flights flights' := by
  obtain ⟨origin, proper, desired, half⟩ := member
  have settled : ∀ result : Access Endpoint,
      Settles origin (agreedWindow cfg cfg') (agreedWindow cfg' cfg) out in_ flights result →
      (net.happen turns occurrence = do
        let a ← result
        return { net with a := a }) →
      ∃ a out' in_' flights', net.happen turns occurrence = .ok { net with a := a } ∧
        Member cfg cfg' a out' in_' flights' ∧ out'.Valid (agreedWindow cfg cfg') ∧
        in_'.Valid (agreedWindow cfg' cfg) ∧ Moves out out' in_ in_' ∧
        Grows out.sent out'.sent flights flights' := by
    intro result settles happens
    obtain ⟨a, out', in_', flights', isResult, half', rest⟩ := settles
    refine ⟨a, out', in_', flights', ?_, ⟨origin, proper, desired, half'⟩, rest⟩
    rw [happens, isResult]
    rfl
  cases occurrence with
  | reset => exact absurd rfl notReset
  | act action =>
      cases action with
      | deliver reactions => exact absurd rfl (other reactions)
      | drop index => exact may.elim
      | ackTimer => exact settled _ (fireAckTimer_settles half validOut validIn small enough) rfl
      | retransmitTimer elapsed =>
          exact settled _ (fireRetransmitTimer_settles half validOut validIn small enough elapsed) rfl
      | call clientCall =>
          have sized : clientCall.Sized := by
            cases clientCall with
            | notifyOutgoingDataAvailable => trivial
            | queue | consumeIncomingData => trivial
            | setTransportMaxPacketSize size => exact may
          exact settled _ (call_settles small enough half validOut validIn sized) rfl

theorem member_resets {out in_ : Window (List UInt8)} {flights : List Flight}
    (member : Member cfg cfg' net.a out in_ flights) :
    ∃ a, net.happen turns .reset = .ok { net with a := a } ∧
      Waited cfg net.a a .awaitingResetCompleteSelfInitiated [request] := by
  obtain ⟨origin, proper, rfl, half⟩ := member
  obtain ⟨a, result, resets, waited⟩ := reset_waited (half.leave (.inl rfl))
  refine ⟨a, ?_, waited⟩
  rw [Network.happen, resets]
  rfl

end Steps

section Members

variable {cfg cfg' : SessionConfig} {side : Endpoint} {out in_ : Window (List UInt8)}
  {flights : List Flight} (member : Member cfg cfg' side out in_ flights) {turns : Nat}
  {reactions : Reactions}
include member

theorem Member.wire : side.wire = flights.map Flight.encode := by
  obtain ⟨origin, proper, desired, half⟩ := member
  exact half.wire

theorem Member.data : out.data = flights.filterMap Flight.payload := by
  obtain ⟨origin, proper, isDesired, half⟩ := member
  exact half.data

theorem Member.acks : in_.acks = flights.filterMap Flight.ack := by
  obtain ⟨origin, proper, isDesired, half⟩ := member
  exact half.acks

theorem Member.departed : Departed side out in_ := by
  obtain ⟨origin, proper, desired, half⟩ := member
  obtain ⟨rest, isQueued, -⟩ := half.sends.stream
  refine ⟨side.log, List.prefix_refl _, ?_, ?_⟩
  · rw [half.session proper, half.receives.accepted]
  · rw [half.session proper, isQueued]
    exact List.prefix_append _ _

/-- A member that gets a request answers it, and is not in the session any more. -/
theorem Member.requested :
    ∃ side' error, side.handleIncomingRawData turns reactions request.encode = .ok (side', error) ∧
      Waited cfg side side' .awaitingResetCompleteRemoteInitiated [reply cfg] := by
  obtain ⟨origin, proper, rfl, half⟩ := member
  have same := clearStall_same side
  have half' := half.congr same
  obtain ⟨side', error, handles, waited⟩ := handleResetRequest_waited (half'.leave (.inr rfl))
  refine ⟨side', error, ?_, waited.waiting, waited.session.trans same.session, ?_,
    same.grows.trans waited.log⟩
  · rw [handleIncoming_request (by rw [half.ready]; simp), handles]
  · rw [waited.wire, same.wire]

theorem Member.replied (desired : SessionConfig) :
    ∃ side' error, side.handleIncomingRawData turns reactions (reply desired).encode = .ok (side', error) ∧
      Member cfg cfg' side' out in_ flights := by
  obtain ⟨origin, proper, isDesired, half⟩ := member
  exact ⟨side.clearStall, .ok (), handleIncoming_reply_ready desired half.ready, origin, proper, isDesired,
    half.congr (clearStall_same side)⟩

/-- What happened at the other endpoint, or came from there. -/
theorem Member.peer {out' in_' : Window (List UInt8)} {flights' : List Flight} (keeps : Keeps in_ in_' out out')
    (received : in_.received ≤ in_.sent.length) (data : out'.data = flights'.filterMap Flight.payload)
    (acks : in_'.acks = flights'.filterMap Flight.ack) :
    Member cfg cfg' { side with wire := flights'.map Flight.encode } out' in_' flights' := by
  obtain ⟨origin, proper, isDesired, half⟩ := member
  exact ⟨origin, proper, isDesired, half.peer keeps received data acks⟩

theorem Member.moved {out' in_' : Window (List UInt8)} (moves : Moves in_ in_' out out')
    (received : in_.received ≤ in_.sent.length) : Member cfg cfg' side out' in_' flights := by
  have peer := member.peer moves.toKeeps received (moves.inData.trans member.data)
    (moves.acks.trans member.acks)
  rwa [← member.wire] at peer

/-- A control packet of a member arrives. -/
theorem Member.pop {flight : Flight} {rest : List Flight} (isFirst : flights = flight :: rest)
    (received : in_.received ≤ in_.sent.length) (silent : flight.payload = none ∧ flight.ack = none) :
    Member cfg cfg' { side with wire := rest.map Flight.encode } out in_ rest := by
  refine member.peer (Keeps.refl in_ out) received ?_ ?_
  · rw [member.data, isFirst, filterMap_cons_toList, silent.1]
    rfl
  · rw [member.acks, isFirst, filterMap_cons_toList, silent.2]
    rfl

/-- A packet of the session. -/
theorem Member.handles (small : agreedWindow cfg cfg' < snWindowSize)
    (fits : agreedWindow cfg' cfg < snWindowSize) (enough : snWindowSize < turns) (sized : reactions.Sized)
    (validOut : out.Valid (agreedWindow cfg cfg')) (validIn : in_.Valid (agreedWindow cfg' cfg))
    (caughtUp : in_.acked = in_.received) {flight : Flight} {rest : List Flight} (packet : flight.IsPacket)
    (acks : out.acks = (flight :: rest).filterMap Flight.ack)
    (data : in_.data = (flight :: rest).filterMap Flight.payload)
    (opens : in_.received = 0 → Opens in_.sent (flight :: rest)) :
    ∃ side' error out' in_' flights',
      side.handleIncomingRawData turns reactions flight.encode = .ok (side', error) ∧
      Member cfg cfg' side' out' in_' flights' ∧ out'.Valid (agreedWindow cfg cfg') ∧
      in_'.Valid (agreedWindow cfg' cfg) ∧ Keeps out out' in_ in_' ∧
      Grows out.sent out'.sent flights flights' ∧ out'.acks = rest.filterMap Flight.ack ∧
      in_'.data = rest.filterMap Flight.payload ∧ in_'.acked = in_'.received ∧
      (in_'.received = 0 → Opens in_'.sent rest) := by
  cases flight with
  | control bytes => exact packet.elim
  | packet ack payload =>
      obtain ⟨origin, proper, isDesired, half⟩ := member
      -- the first payload of the session is the one that is expected, and it is taken
      have first : in_.received = 0 → ∀ d ∈ payload, d.1 = 0 ∧
          (Flight.packet ack payload).encode.length ≤ maxPacketSize := by
        intro none_ d isPayload
        have opens' := opens none_
        obtain rfl : payload = some d := isPayload
        simp only [Opens, Flight.payload, Option.isSome_some, List.find?_cons_of_pos, Option.map_some,
          Option.some.injEq] at opens'
        exact opens'
      obtain ⟨side', error, out', in_', flights', handles, half', validOut', validIn', keeps, grows, acks',
          data', caughtUp', received, taken⟩ :=
        handleIncomingRawData_handles half validOut validIn small enough sized fits caughtUp
          (acks.trans filterMap_cons_toList) (data.trans filterMap_cons_toList)
          (fun _ none_ d isPayload => .inl (first none_ d isPayload).1)
      refine ⟨side', error, out', in_', flights', handles, ⟨origin, proper, isDesired, half'⟩, validOut',
        validIn', keeps, grows, acks', data', caughtUp', ?_⟩
      intro none_
      have none' : in_.received = 0 := by omega
      cases payload with
      | none =>
          have opens' := opens none'
          rw [keeps.inSent]
          simpa [Opens, Flight.payload] using opens'
      | some d =>
          have isFirst := first none' d rfl
          exact absurd none_ (taken ⟨none', congrArg some isFirst.1, isFirst.2⟩)

end Members

/-- New packets are behind what was on the wire. -/
theorem Grows.behind {sent sent' : List (List UInt8)} {controls packets flights' : List Flight}
    (grows : Grows sent sent' (controls ++ packets) flights') (arePackets : Packets packets)
    (silent : Silent controls) :
    ∃ packets', flights' = controls ++ packets' ∧ Packets packets' ∧
      (Opens sent packets → Opens sent' packets') := by
  obtain ⟨⟨more, rfl, new⟩, opens⟩ := grows
  refine ⟨packets ++ more, by rw [List.append_assoc], ?_, ?_⟩
  · intro flight member
    exact (List.mem_append.mp member).elim (arePackets flight) (new flight)
  · rw [List.append_assoc, opens_behind silent, opens_behind silent] at opens
    exact opens

theorem Replies.answer {desired : SessionConfig} {replies : List Flight} (areReplies : Replies desired replies)
    {state : State} : Replies desired (replies ++ answer desired state) := by
  intro flight member
  refine (List.mem_append.mp member).elim (areReplies flight) fun answered => ?_
  unfold Gattlink.answer at answered
  split at answered
  · exact List.mem_singleton.mp answered
  · exact absurd answered List.not_mem_nil

/-- An endpoint that waits gets a reply, while nothing was sent in either direction of the
    new session that it should know of. -/
theorem Waiting.joins {cfg cfg' : SessionConfig} {side : Endpoint} {state : State} {turns : Nat}
    {reactions : Reactions} (waiting : Waiting cfg side state)
    (small : agreedWindow cfg cfg' < snWindowSize) (enough : snWindowSize < turns) (sized : reactions.Sized)
    {flights : List Flight} (wire : side.wire = flights.map Flight.encode) (silent : Silent flights)
    {out in_ : Window (List UInt8)} (nothing : out.sent = []) (empty : out.data = [])
    (untouched : in_.received = 0) (validOut : out.Valid (agreedWindow cfg cfg'))
    (validIn : in_.Valid (agreedWindow cfg' cfg)) :
    ∃ side' error out' in_' packets,
      side.handleIncomingRawData turns reactions (reply cfg').encode = .ok (side', error) ∧
      Member cfg cfg' side' out' in_' (flights ++ answer cfg state ++ packets) ∧
      out'.Valid (agreedWindow cfg cfg') ∧ in_'.Valid (agreedWindow cfg' cfg) ∧ Moves out out' in_ in_' ∧
      Packets packets ∧ Opens out'.sent packets := by
  obtain ⟨side', origin, proper, isDesired, begins, wire', enters⟩ :=
    @handleIncoming_reply_enters cfg cfg' side state turns reactions waiting
  have silent' : Silent (flights ++ answer cfg state) :=
    silent.append (@Replies.answer cfg [] (by simp [Replies]) state).silent
  have base : out.base = 0 := by
    have baseLe := validOut.base_le
    have ackedLe := validOut.acked_le
    have receivedLe := validOut.received_le
    rw [nothing, List.length_nil] at receivedLe
    omega
  have acked : in_.acked = 0 := by
    have ackedLe := validIn.acked_le
    omega
  have noAcks : in_.acks = [] := by
    rw [List.eq_nil_iff_forall_not_mem]
    intro a member
    have bound := (validIn.ack a member).2
    omega
  have half : Half origin side' (agreedWindow cfg cfg') (agreedWindow cfg' cfg) out in_
      (flights ++ answer cfg state) 0 :=
    begins.half nothing base untouched acked (by rw [wire', wire, List.map_append])
      (by rw [empty, silent'.payloads]) (by rw [noAcks, silent'.acks])
  rw [show 0 = out.sent.length by rw [nothing, List.length_nil]] at half
  obtain ⟨side'', out', in_', flights', calls, half', validOut', validIn', moves, grows⟩ :=
    calls_settle small enough half validOut validIn sized.2.2
  rw [← List.append_nil (flights ++ answer cfg state)] at grows
  obtain ⟨packets, rfl, arePackets, opens⟩ := grows.behind (by simp [Packets]) silent'
  refine ⟨side'', .ok (), out', in_', packets, ?_, ⟨origin, proper, isDesired, half'⟩, validOut', validIn',
    moves, arePackets, opens nothing⟩
  rw [enters, calls]
  rfl

end GoldenGate.Gattlink

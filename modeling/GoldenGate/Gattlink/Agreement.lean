import GoldenGate.Gattlink.Membership

/-! # Agreement on the session

The two endpoints are in one of five phases, up to their order: both in the session, or one
has left it, or one has entered it, or one has entered and left it again, or both wait. In
every phase the order of the packets on the wires keeps apart what belongs to different
sessions, as long as nobody is reset who may not be.
-/

namespace GoldenGate.Gattlink

open Memory GoBackN

/-! ## The phases -/

/-- Both are in the session. Answers to further requests may still be under way. -/
structure Both (cfg cfg' : SessionConfig) (net : Network) (out in_ : Window (List UInt8))
    (replies packets replies' packets' : List Flight) : Prop where
  a : Member cfg cfg' net.a out in_ (replies ++ packets)
  b : Member cfg' cfg net.b in_ out (replies' ++ packets')
  areReplies : Replies cfg replies
  arePackets : Packets packets
  areReplies' : Replies cfg' replies'
  arePackets' : Packets packets'
  validOut : out.Valid (agreedWindow cfg cfg')
  validIn : in_.Valid (agreedWindow cfg' cfg)
  caughtUpOut : out.acked = out.received
  caughtUpIn : in_.acked = in_.received
  opensOut : out.received = 0 → Opens out.sent packets
  opensIn : in_.received = 0 → Opens in_.sent packets'

/-- The first one has left the session, which the second one will notice when the request
    comes. -/
structure Left (cfg cfg' : SessionConfig) (net : Network) (out in_ : Window (List UInt8))
    (replies packets requests packets' : List Flight) : Prop where
  a : Waiting cfg net.a .awaitingResetCompleteSelfInitiated
  b : Member cfg' cfg net.b in_ out packets'
  wire : net.a.wire = (replies ++ packets ++ requests).map Flight.encode
  areReplies : Replies cfg replies
  arePackets : Packets packets
  areRequests : Requests requests
  arePackets' : Packets packets'
  data : out.data = packets.filterMap Flight.payload
  acks : in_.acks = packets.filterMap Flight.ack
  validOut : out.Valid (agreedWindow cfg cfg')
  validIn : in_.Valid (agreedWindow cfg' cfg)
  caughtUpOut : out.acked = out.received
  opensOut : out.received = 0 → Opens out.sent packets
  departed : Departed net.a out in_

/-- The second one has entered a new session, which the first one will do when the reply
    comes. -/
structure Entered (cfg cfg' : SessionConfig) (net : Network) (out in_ : Window (List UInt8))
    (replies requests' replies' packets' : List Flight) : Prop where
  a : Waiting cfg net.a .awaitingResetCompleteRemoteInitiated
  b : Member cfg' cfg net.b in_ out (requests' ++ replies' ++ packets')
  wire : net.a.wire = replies.map Flight.encode
  areReplies : Replies cfg replies
  areRequests' : Requests requests'
  areReplies' : Replies cfg' replies'
  arePackets' : Packets packets'
  replied : replies' ≠ []
  nothing : out.sent = []
  empty : out.data = []
  untouched : in_.received = 0
  validOut : out.Valid (agreedWindow cfg cfg')
  validIn : in_.Valid (agreedWindow cfg' cfg)
  opensIn : Opens in_.sent packets'

/-- The second one has entered a session and left it again, before the first one could enter. -/
structure Gone (cfg cfg' : SessionConfig) (net : Network) (in_ : Window (List UInt8))
    (replies' packets' requests' : List Flight) : Prop where
  a : Waiting cfg net.a .awaitingResetCompleteRemoteInitiated
  b : Waiting cfg' net.b .awaitingResetCompleteSelfInitiated
  wire : net.a.wire = []
  wire' : net.b.wire = (replies' ++ packets' ++ requests').map Flight.encode
  areReplies' : Replies cfg' replies'
  arePackets' : Packets packets'
  areRequests' : Requests requests'
  replied : replies' ≠ []
  data : in_.data = packets'.filterMap Flight.payload
  noAcks : packets'.filterMap Flight.ack = []
  untouched : in_.received = 0
  validIn : in_.Valid (agreedWindow cfg' cfg)
  opensIn : Opens in_.sent packets'
  departed : Departed net.b in_ .empty

/-- What an endpoint that waits has on its wire: data of an old session, which a peer that
    has answered will not see any more, then its requests, then its replies. -/
structure Burst (desired : SessionConfig) (side : Endpoint) (state peer : State)
    (old requests replies : List Flight) : Prop where
  wire : side.wire = (old ++ requests ++ replies).map Flight.encode
  areOld : Packets old
  areRequests : Requests requests
  areReplies : Replies desired replies
  seen : peer = .awaitingResetCompleteRemoteInitiated → old = []
  asking : state = .awaitingResetCompleteSelfInitiated → replies = []
  answering : state = .awaitingResetCompleteRemoteInitiated → replies ≠ []

/-- Both wait. -/
structure Apart (cfg cfg' : SessionConfig) (net : Network) (state state' : State)
    (old requests replies old' requests' replies' : List Flight) : Prop where
  a : Waiting cfg net.a state
  b : Waiting cfg' net.b state'
  burst : Burst cfg net.a state state' old requests replies
  burst' : Burst cfg' net.b state' state old' requests' replies'

inductive Phase (cfg cfg' : SessionConfig) (net : Network) : Prop where
  | both {out in_ : Window (List UInt8)} {replies packets replies' packets' : List Flight}
      (phase : Both cfg cfg' net out in_ replies packets replies' packets')
  | left {out in_ : Window (List UInt8)} {replies packets requests packets' : List Flight}
      (phase : Left cfg cfg' net out in_ replies packets requests packets')
  | entered {out in_ : Window (List UInt8)} {replies requests' replies' packets' : List Flight}
      (phase : Entered cfg cfg' net out in_ replies requests' replies' packets')
  | gone {in_ : Window (List UInt8)} {replies' packets' requests' : List Flight}
      (phase : Gone cfg cfg' net in_ replies' packets' requests')
  | apart {state state' : State} {old requests replies old' requests' replies' : List Flight}
      (phase : Apart cfg cfg' net state state' old requests replies old' requests' replies')

def Linked (cfg cfg' : SessionConfig) (net : Network) : Prop :=
  Phase cfg cfg' net ∨ Phase cfg' cfg net.swap

theorem Linked.swap {cfg cfg' : SessionConfig} {net : Network} (linked : Linked cfg cfg' net) :
    Linked cfg' cfg net.swap := linked.symm

theorem Both.swap {cfg cfg' : SessionConfig} {net : Network} {out in_ : Window (List UInt8)}
    {replies packets replies' packets' : List Flight}
    (phase : Both cfg cfg' net out in_ replies packets replies' packets') :
    Both cfg' cfg net.swap in_ out replies' packets' replies packets :=
  ⟨phase.b, phase.a, phase.areReplies', phase.arePackets', phase.areReplies, phase.arePackets,
    phase.validIn, phase.validOut, phase.caughtUpIn, phase.caughtUpOut, phase.opensIn, phase.opensOut⟩

theorem Apart.swap {cfg cfg' : SessionConfig} {net : Network} {state state' : State}
    {old requests replies old' requests' replies' : List Flight}
    (phase : Apart cfg cfg' net state state' old requests replies old' requests' replies') :
    Apart cfg' cfg net.swap state' state old' requests' replies' old requests replies :=
  ⟨phase.b, phase.a, phase.burst', phase.burst⟩

section Transitions

variable {cfg cfg' : SessionConfig} {net : Network} {turns : Nat}

/-! ### Both wait -/

theorem Waiting.rewire {desired : SessionConfig} {side : Endpoint} {state : State}
    (waiting : Waiting desired side state) (wire : List (List UInt8)) :
    Waiting desired { side with wire := wire } state := by
  obtain ⟨isState, waits, isDesired, ackTimer, packetSize, reliable, queued, accepted, consumed⟩ := waiting
  exact ⟨isState, waits, isDesired, ackTimer, packetSize, reliable, queued, accepted, consumed⟩

section Burst

variable {desired : SessionConfig} {side side' : Endpoint} {state peer : State}
  {old requests replies flights : List Flight} (burst : Burst desired side state peer old requests replies)
include burst

/-- It asks again, or does nothing. -/
theorem Burst.asks (waited : Waited desired side side' state flights)
    (isFlights : flights = [] ∨ flights = [request] ∧ state = .awaitingResetCompleteSelfInitiated) :
    Burst desired side' state peer old (requests ++ flights) replies := by
  obtain ⟨wire, areOld, areRequests, areReplies, seen, asking, answering⟩ := burst
  refine ⟨?_, areOld, ?_, areReplies, seen, asking, answering⟩
  · rw [waited.wire, wire, ← List.map_append]
    obtain rfl | ⟨-, asks⟩ := isFlights
    · simp only [List.append_nil]
    · rw [asking asks]
      simp only [List.append_nil, List.append_assoc]
  · intro flight member
    obtain rfl | ⟨rfl, -⟩ := isFlights
    · exact areRequests flight (by simpa using member)
    · exact (List.mem_append.mp member).elim (areRequests flight) List.mem_singleton.mp

/-- It answers. -/
theorem Burst.answers {state' : State}
    (waited : Waited desired side side' .awaitingResetCompleteRemoteInitiated [reply desired])
    (seen : state' = .awaitingResetCompleteRemoteInitiated → old = []) :
    Burst desired side' .awaitingResetCompleteRemoteInitiated state' old requests
      (replies ++ [reply desired]) := by
  obtain ⟨wire, areOld, areRequests, areReplies, -, -, -⟩ := burst
  refine ⟨?_, areOld, areRequests, ?_, seen, by simp, by simp⟩
  · rw [waited.wire, wire, ← List.map_append, List.append_assoc]
  · intro flight member
    exact (List.mem_append.mp member).elim (areReplies flight) List.mem_singleton.mp

end Burst

/-- An endpoint that waits gets a request: it answers. -/
theorem Waiting.requested {desired : SessionConfig} {side : Endpoint} {state : State}
    {reactions : Reactions} (waiting : Waiting desired side state) :
    ∃ side' error, side.handleIncomingRawData turns reactions request.encode = .ok (side', error) ∧
      Waited desired side side' .awaitingResetCompleteRemoteInitiated [reply desired] := by
  have cleared := waiting.congr (clearStall_same side)
  obtain ⟨side', error, handles, waited⟩ := handleResetRequest_waited (cleared.waiting.leave (.inr rfl))
  refine ⟨side', error, ?_, cleared.trans waited⟩
  rw [handleIncoming_request waiting.started, handles]

section Apart

variable {state state' : State} {old requests replies old' requests' replies' : List Flight}
  (phase : Apart cfg cfg' net state state' old requests replies old' requests' replies')
include phase

theorem Apart.happens {occurrence : Occurrence} (may : net.MayHappen occurrence)
    (other : ∀ reactions, occurrence ≠ .act (.deliver reactions)) :
    ∃ net', net.happen turns occurrence = .ok net' ∧ Linked cfg cfg' net' := by
  obtain ⟨a, flights, happens, waited, isFlights⟩ := @waiting_happens _ _ turns _ phase.a _ may other
  exact ⟨_, happens, .inl (.apart
    ⟨waited.waiting, phase.b, phase.burst.asks waited isFlights, phase.burst'⟩)⟩

theorem Apart.delivers (small : agreedWindow cfg cfg' < snWindowSize) (enough : snWindowSize < turns)
    {reactions : Reactions} (sized : reactions.Sized) :
    ∃ net', net.happen turns (.act (.deliver reactions)) = .ok net' ∧ Linked cfg cfg' net' := by
  obtain ⟨a, b, burst, wire, areOld, areRequests, areReplies, seen, asking, answering⟩ := phase
  cases old' with
  | cons flight old' =>
      -- data of an old session is dropped
      obtain ⟨a', error, handles, waited⟩ :=
        @handleIncoming_packet _ turns reactions _ _ a flight (areOld flight List.mem_cons_self)
      have burst' : Burst cfg' { net.b with wire := (old' ++ requests' ++ replies').map Flight.encode }
          state' state old' requests' replies' :=
        ⟨rfl, fun other member => areOld other (List.mem_cons_of_mem _ member), areRequests, areReplies,
          fun answers => (nomatch seen answers), asking, answering⟩
      exact ⟨_, deliver_eq wire handles, .inl (.apart
        ⟨waited.waiting, b.rewire _, burst.asks waited (.inl rfl), burst'⟩)⟩
  | nil =>
  cases requests' with
  | cons flight requests' =>
      obtain rfl := areRequests flight List.mem_cons_self
      obtain ⟨a', error, handles, waited⟩ := @Waiting.requested turns _ _ _ reactions a
      have burst' : Burst cfg' { net.b with wire := (requests' ++ replies').map Flight.encode }
          state' .awaitingResetCompleteRemoteInitiated [] requests' replies' :=
        ⟨rfl, areOld, fun other member => areRequests other (List.mem_cons_of_mem _ member), areReplies,
          fun _ => rfl, asking, answering⟩
      exact ⟨_, deliver_eq wire handles, .inl (.apart
        ⟨waited.waiting, b.rewire _, burst.answers waited burst.seen, burst'⟩)⟩
  | nil =>
  cases replies' with
  | nil =>
      exact ⟨net, deliver_nothing wire, .inl (.apart
        ⟨a, b, burst, wire, areOld, areRequests, areReplies, seen, asking, answering⟩)⟩
  | cons flight replies' =>
      -- the reply that the endpoint was waiting for
      obtain rfl := areReplies flight List.mem_cons_self
      have isAnswering : state' = .awaitingResetCompleteRemoteInitiated :=
        b.waits.resolve_left fun asks => nomatch asking asks
      obtain rfl := burst.seen isAnswering
      have areReplies' : Replies cfg' replies' := fun other member =>
        areReplies other (List.mem_cons_of_mem _ member)
      obtain ⟨a', error, out, in_, packets, handles, member, validOut, validIn, moves, arePackets, opens⟩ :=
        @Waiting.joins _ _ _ _ _ reactions a small enough sized _ burst.wire
          (burst.areRequests.silent.append burst.areReplies.silent) .empty .empty rfl rfl rfl
          (Window.valid_empty _) (Window.valid_empty _)
      have replied : replies ++ answer cfg state ≠ [] := by
        rcases a.waits with rfl | rfl
        · simp [answer]
        · simp [burst.answering rfl]
      have member' : Member cfg cfg' a' out in_ (requests ++ (replies ++ answer cfg state) ++ packets) := by
        simpa only [List.nil_append, List.append_assoc] using member
      subst isAnswering
      exact ⟨_, deliver_eq wire handles, .inr (.entered
        ⟨b.rewire _, member', rfl, areReplies', burst.areRequests, burst.areReplies.answer, arePackets,
          replied, moves.inSent, moves.inData, moves.received, validIn, validOut, opens⟩)⟩

end Apart

/-- Where no reply is, there is none. -/
theorem Replies.none {desired : SessionConfig} {replies flights : List Flight} {wire : List (List UInt8)}
    (areReplies : Replies desired replies) (isWire : wire = (replies ++ flights).map Flight.encode)
    (absent : ∀ packet ∈ wire, ¬ IsResetComplete packet) : replies = [] := by
  cases replies with
  | nil => rfl
  | cons flight replies =>
      obtain rfl := areReplies flight List.mem_cons_self
      have there : (reply desired).encode ∈ wire := by
        rw [isWire]
        exact List.mem_cons_self
      exact absurd (by rfl) (absent _ there)

theorem Requests.none {requests flights : List Flight} {wire : List (List UInt8)}
    (areRequests : Requests requests) (isWire : wire = (requests ++ flights).map Flight.encode)
    (absent : ∀ packet ∈ wire, ¬ IsResetRequest packet) : requests = [] := by
  cases requests with
  | nil => rfl
  | cons flight requests =>
      obtain rfl := areRequests flight List.mem_cons_self
      have there : request.encode ∈ wire := by
        rw [isWire]
        exact List.mem_cons_self
      exact absurd (by rfl) (absent _ there)

/-- An endpoint that answers does nothing by itself. -/
theorem Waiting.answering_happens (waiting : Waiting cfg net.a .awaitingResetCompleteRemoteInitiated)
    {occurrence : Occurrence} (may : net.MayHappen occurrence)
    (other : ∀ reactions, occurrence ≠ .act (.deliver reactions)) :
    ∃ a, net.happen turns occurrence = .ok { net with a := a } ∧
      Waited cfg net.a a .awaitingResetCompleteRemoteInitiated [] := by
  obtain ⟨a, flights, happens, waited, rfl | ⟨-, asks⟩⟩ := @waiting_happens _ _ turns _ waiting _ may other
  · exact ⟨a, happens, waited⟩
  · exact nomatch asks

theorem Waiting.asking_happens (waiting : Waiting cfg net.a .awaitingResetCompleteSelfInitiated)
    {occurrence : Occurrence} (may : net.MayHappen occurrence)
    (other : ∀ reactions, occurrence ≠ .act (.deliver reactions)) :
    ∃ a requests, net.happen turns occurrence = .ok { net with a := a } ∧
      Waited cfg net.a a .awaitingResetCompleteSelfInitiated requests ∧ Requests requests := by
  obtain ⟨a, flights, happens, waited, isFlights⟩ := @waiting_happens _ _ turns _ waiting _ may other
  refine ⟨a, flights, happens, waited, ?_⟩
  obtain rfl | ⟨rfl, -⟩ := isFlights <;> simp [Requests]

theorem Requests.append {requests requests' : List Flight} (areRequests : Requests requests)
    (areRequests' : Requests requests') : Requests (requests ++ requests') := fun flight member =>
  (List.mem_append.mp member).elim (areRequests flight) (areRequests' flight)

theorem valid_silent {w : Window (List UInt8)} {size : Nat} (valid : w.Valid size) (none_ : w.received = 0) :
    w.acked = 0 ∧ w.acks = [] := by
  have ackedLe := valid.acked_le
  refine ⟨by omega, ?_⟩
  rw [List.eq_nil_iff_forall_not_mem]
  intro a member
  have bound := (valid.ack a member).2
  omega

/-! ### One has entered and left -/

section Gone

variable {in_ : Window (List UInt8)} {replies' packets' requests' : List Flight}
  (phase : Gone cfg cfg' net in_ replies' packets' requests')
include phase

theorem Gone.happens {occurrence : Occurrence} (may : net.MayHappen occurrence)
    (other : ∀ reactions, occurrence ≠ .act (.deliver reactions)) :
    ∃ net', net.happen turns occurrence = .ok net' ∧ Linked cfg cfg' net' := by
  obtain ⟨a, happens, waited⟩ := @Waiting.answering_happens _ _ turns phase.a _ may other
  have wire : a.wire = [] := by
    rw [waited.wire, phase.wire]
    rfl
  exact ⟨_, happens, .inl (.gone { phase with a := waited.waiting, wire := wire })⟩

theorem Gone.happens' {occurrence : Occurrence} (may : net.swap.MayHappen occurrence)
    (other : ∀ reactions, occurrence ≠ .act (.deliver reactions)) :
    ∃ net', net.swap.happen turns occurrence = .ok net' ∧ Linked cfg' cfg net' := by
  obtain ⟨b, requests, happens, waited, areRequests⟩ :=
    @Waiting.asking_happens _ net.swap turns phase.b _ may other
  have wire : b.wire = (replies' ++ packets' ++ (requests' ++ requests)).map Flight.encode := by
    rw [waited.wire]
    change net.b.wire ++ _ = _
    rw [phase.wire', ← List.map_append, List.append_assoc _ requests']
  exact ⟨_, happens, .inr (.gone
    { phase with
      b := waited.waiting, wire' := wire, areRequests' := phase.areRequests'.append areRequests,
      departed := phase.departed.later waited.log })⟩

theorem Gone.delivers (small : agreedWindow cfg cfg' < snWindowSize) (enough : snWindowSize < turns)
    {reactions : Reactions} (sized : reactions.Sized) :
    ∃ net', net.happen turns (.act (.deliver reactions)) = .ok net' ∧ Linked cfg cfg' net' := by
  cases replies' with
  | nil => exact absurd rfl phase.replied
  | cons flight replies' =>
      obtain rfl := phase.areReplies' flight List.mem_cons_self
      obtain ⟨a, error, out, in_', packets, handles, member, validOut, validIn, moves, arePackets, opens⟩ :=
        @Waiting.joins _ _ _ _ _ reactions phase.a small enough sized [] phase.wire (by simp [Silent]) .empty
          in_ rfl rfl phase.untouched (Window.valid_empty _) phase.validIn
      have member' : Member cfg cfg' a out in_' packets := by
        simpa [answer] using member
      obtain ⟨past, isPast, accepted, queued⟩ := phase.departed
      refine ⟨_, deliver_eq phase.wire' handles, .inr (.left
        ⟨phase.b.rewire _, member', rfl, fun other inside => phase.areReplies' other
          (List.mem_cons_of_mem _ inside), phase.arePackets', phase.areRequests', arePackets, ?_, ?_,
          validIn, validOut, ?_, ?_, past, isPast, ?_, ?_⟩)⟩
      · rw [moves.inData, phase.data]
      · rw [moves.acks, phase.noAcks]
        rfl
      · rw [moves.inAcked, moves.inReceived, phase.untouched, (valid_silent phase.validIn phase.untouched).1]
      · intro _
        rw [moves.inSent]
        exact phase.opensIn
      · rw [accepted, moves.received]
        rfl
      · rw [moves.inSent]
        exact queued

end Gone

/-! ### One has entered -/

section Entered

variable {out in_ : Window (List UInt8)} {replies requests' replies' packets' : List Flight}
  (phase : Entered cfg cfg' net out in_ replies requests' replies' packets')
include phase

theorem Entered.happens {occurrence : Occurrence} (may : net.MayHappen occurrence)
    (other : ∀ reactions, occurrence ≠ .act (.deliver reactions)) :
    ∃ net', net.happen turns occurrence = .ok net' ∧ Linked cfg cfg' net' := by
  obtain ⟨a, happens, waited⟩ := @Waiting.answering_happens _ _ turns phase.a _ may other
  have wire : a.wire = replies.map Flight.encode := by
    rw [waited.wire, phase.wire, ← List.map_append, List.append_nil]
  exact ⟨_, happens, .inl (.entered { phase with a := waited.waiting, wire := wire })⟩

theorem Entered.delivers (small : agreedWindow cfg cfg' < snWindowSize) (enough : snWindowSize < turns)
    {reactions : Reactions} (sized : reactions.Sized) :
    ∃ net', net.happen turns (.act (.deliver reactions)) = .ok net' ∧ Linked cfg cfg' net' := by
  have untouchedOut : out.received = 0 := by
    have receivedLe := phase.validOut.received_le
    rw [phase.nothing, List.length_nil] at receivedLe
    omega
  cases requests' with
  | cons flight requests' =>
      obtain rfl := phase.areRequests' flight List.mem_cons_self
      obtain ⟨a, error, handles, waited⟩ := @Waiting.requested turns _ _ _ reactions phase.a
      have wire : a.wire = (replies ++ [reply cfg]).map Flight.encode := by
        rw [waited.wire, phase.wire, List.map_append]
      have areReplies : Replies cfg (replies ++ [reply cfg]) := fun flight inside =>
        (List.mem_append.mp inside).elim (phase.areReplies flight) List.mem_singleton.mp
      exact ⟨_, deliver_eq phase.b.wire handles, .inl (.entered
        { phase with
          a := waited.waiting, b := phase.b.pop rfl phase.validOut.received_le ⟨rfl, rfl⟩, wire := wire,
          areReplies := areReplies,
          areRequests' := fun other inside => phase.areRequests' other (List.mem_cons_of_mem _ inside) })⟩
  | nil =>
  cases replies' with
  | nil => exact absurd rfl phase.replied
  | cons flight replies' =>
      obtain rfl := phase.areReplies' flight List.mem_cons_self
      obtain ⟨a, error, out', in_', packets, handles, member, validOut, validIn, moves, arePackets, opens⟩ :=
        @Waiting.joins _ _ _ _ _ reactions phase.a small enough sized _ phase.wire phase.areReplies.silent out
          in_ phase.nothing phase.empty phase.untouched phase.validOut phase.validIn
      have member' : Member cfg cfg' a out' in_' (replies ++ packets) := by
        simpa [answer] using member
      have peer := (phase.b.pop rfl phase.validOut.received_le ⟨rfl, rfl⟩).moved moves
        phase.validOut.received_le
      refine ⟨_, deliver_eq phase.b.wire handles, .inl (.both
        ⟨member', peer, phase.areReplies, arePackets, fun other inside => phase.areReplies' other
          (List.mem_cons_of_mem _ inside), phase.arePackets', validOut, validIn, ?_, ?_, fun _ => opens, ?_⟩)⟩
      · rw [moves.acked, moves.received, untouchedOut, (valid_silent phase.validOut untouchedOut).1]
      · rw [moves.inAcked, moves.inReceived, phase.untouched, (valid_silent phase.validIn phase.untouched).1]
      · intro _
        rw [moves.inSent]
        exact phase.opensIn

theorem Entered.happens' (small : agreedWindow cfg' cfg < snWindowSize) (enough : snWindowSize < turns)
    {occurrence : Occurrence} (may : net.swap.MayHappen occurrence)
    (other : ∀ reactions, occurrence ≠ .act (.deliver reactions)) :
    ∃ net', net.swap.happen turns occurrence = .ok net' ∧ Linked cfg' cfg net' := by
  have silent : Silent (requests' ++ replies') := phase.areRequests'.silent.append phase.areReplies'.silent
  by_cases isReset : occurrence = .reset
  · subst isReset
    have ready : net.b.protocol.state = .ready := by
      obtain ⟨origin, proper, desired, half⟩ := phase.b
      exact half.ready
    obtain ⟨noRequests, noReplies⟩ := may.2 ready
    have wire := phase.b.wire
    rw [List.append_assoc] at wire
    obtain rfl := phase.areRequests'.none wire noRequests
    have wire' : net.a.wire = (replies ++ []).map Flight.encode := by
      rw [List.append_nil]
      exact phase.wire
    obtain rfl := phase.areReplies.none wire' noReplies
    obtain ⟨b, resets, waited⟩ := @member_resets _ _ net.swap turns _ _ _ phase.b
    obtain ⟨past, isPast, accepted, queued⟩ := phase.b.departed
    have untouchedOut : out.received = 0 := by
      have receivedLe := phase.validOut.received_le
      rw [phase.nothing, List.length_nil] at receivedLe
      omega
    have wire'' : b.wire = (replies' ++ packets' ++ [request]).map Flight.encode := by
      rw [waited.wire]
      change net.b.wire ++ _ = _
      rw [wire, List.nil_append, ← List.map_append]
    refine ⟨_, resets, .inr (.gone
      ⟨phase.a, waited.waiting, phase.wire, wire'', phase.areReplies', phase.arePackets',
        by simp [Requests], phase.replied, ?_, ?_, phase.untouched, phase.validIn, phase.opensIn, past,
        isPast.trans waited.log, ?_, queued⟩)⟩
    · rw [phase.b.data, List.nil_append, List.filterMap_append, phase.areReplies'.silent.payloads,
        List.nil_append]
    · have acks := phase.b.acks
      rw [(valid_silent phase.validOut untouchedOut).2, List.nil_append, List.filterMap_append,
        phase.areReplies'.silent.acks, List.nil_append] at acks
      exact acks.symm
    · rw [accepted, phase.nothing, List.take_nil]
      rfl
  · obtain ⟨b, in_', out', flights, happens, member, validIn, validOut, moves, grows⟩ :=
      @member_happens _ _ net.swap turns small enough _ _ _ phase.b phase.validIn phase.validOut _ may other
        isReset
    obtain ⟨packets, rfl, arePackets, opens⟩ := grows.behind phase.arePackets' silent
    refine ⟨_, happens, .inr (.entered
      { phase with
        b := member, arePackets' := arePackets, nothing := moves.inSent.trans phase.nothing,
        empty := moves.inData.trans phase.empty, untouched := moves.received.trans phase.untouched,
        validOut := validOut, validIn := validIn, opensIn := opens phase.opensIn })⟩

theorem Entered.delivers' {reactions : Reactions} :
    ∃ net', net.swap.happen turns (.act (.deliver reactions)) = .ok net' ∧ Linked cfg' cfg net' := by
  cases replies with
  | nil => exact ⟨net.swap, deliver_nothing phase.wire, .inr (.entered phase)⟩
  | cons flight replies =>
      obtain rfl := phase.areReplies flight List.mem_cons_self
      obtain ⟨b, error, handles, member⟩ := @Member.replied _ _ _ _ _ _ phase.b turns reactions cfg
      exact ⟨_, @deliver_eq net.swap turns _ _ _ phase.wire _ _ handles, .inr (.entered
        { phase with
          a := phase.a.rewire _, b := member, wire := rfl,
          areReplies := fun other inside => phase.areReplies other (List.mem_cons_of_mem _ inside) })⟩

end Entered

/-! ### One has left -/

section Left

variable {out in_ : Window (List UInt8)} {replies packets requests packets' : List Flight}
  (phase : Left cfg cfg' net out in_ replies packets requests packets')
include phase

theorem Left.happens {occurrence : Occurrence} (may : net.MayHappen occurrence)
    (other : ∀ reactions, occurrence ≠ .act (.deliver reactions)) :
    ∃ net', net.happen turns occurrence = .ok net' ∧ Linked cfg cfg' net' := by
  obtain ⟨a, requests_, happens, waited, areRequests⟩ :=
    @Waiting.asking_happens _ _ turns phase.a _ may other
  have wire : a.wire = (replies ++ packets ++ (requests ++ requests_)).map Flight.encode := by
    rw [waited.wire, phase.wire, ← List.map_append, List.append_assoc _ requests]
  exact ⟨_, happens, .inl (.left
    { phase with
      a := waited.waiting, wire := wire, areRequests := phase.areRequests.append areRequests,
      departed := phase.departed.later waited.log })⟩

/-- Data that comes too late is lost. -/
theorem Left.delivers {reactions : Reactions} :
    ∃ net', net.happen turns (.act (.deliver reactions)) = .ok net' ∧ Linked cfg cfg' net' := by
  cases packets' with
  | nil => exact ⟨net, deliver_nothing phase.b.wire, .inl (.left phase)⟩
  | cons flight packets' =>
      obtain ⟨a, error, handles, waited⟩ :=
        @handleIncoming_packet _ turns reactions _ _ phase.a flight (phase.arePackets' flight List.mem_cons_self)
      have fewer : packets'.Sublist (flight :: packets') := List.sublist_cons_self _ _
      have wire : a.wire = (replies ++ packets ++ requests).map Flight.encode := by
        rw [waited.wire, phase.wire, ← List.map_append, List.append_nil]
      have peer : Member cfg' cfg { net.b with wire := packets'.map Flight.encode }
          { in_ with data := packets'.filterMap Flight.payload }
          { out with acks := packets'.filterMap Flight.ack } packets' :=
        phase.b.peer ⟨rfl, rfl, ⟨[], by simp⟩, rfl, rfl⟩ phase.validOut.received_le rfl rfl
      refine ⟨_, deliver_eq phase.b.wire handles, .inl (.left
        ⟨waited.waiting, peer, wire, phase.areReplies, phase.arePackets, phase.areRequests,
          fun other inside => phase.arePackets' other (List.mem_cons_of_mem _ inside), phase.data, phase.acks,
          ?_, ?_, phase.caughtUpOut, phase.opensOut, phase.departed.later waited.log⟩)⟩
      · apply phase.validOut.loseAcks
        rw [phase.b.acks]
        exact fewer.filterMap _
      · apply phase.validIn.loseData
        rw [phase.b.data]
        exact fewer.filterMap _

/-- What the one that is gone has seen of the session stays the same. -/
theorem Left.departed_after {out' in_' : Window (List UInt8)} (keeps : Keeps in_ in_' out out') :
    Departed net.a out' in_' := by
  obtain ⟨past, isPast, accepted, queued⟩ := phase.departed
  obtain ⟨more, isSent⟩ := keeps.sent
  refine ⟨past, isPast, ?_, ?_⟩
  · rw [accepted, keeps.received, isSent, List.take_append_of_le_length phase.validIn.received_le]
  · rw [keeps.inSent]
    exact queued

theorem Left.happens' (small : agreedWindow cfg' cfg < snWindowSize) (enough : snWindowSize < turns)
    {occurrence : Occurrence} (may : net.swap.MayHappen occurrence)
    (other : ∀ reactions, occurrence ≠ .act (.deliver reactions)) :
    ∃ net', net.swap.happen turns occurrence = .ok net' ∧ Linked cfg' cfg net' := by
  by_cases isReset : occurrence = .reset
  · subst isReset
    have ready : net.b.protocol.state = .ready := by
      obtain ⟨origin, proper, desired, half⟩ := phase.b
      exact half.ready
    have wire := phase.wire
    rw [List.append_assoc] at wire
    obtain rfl := phase.areReplies.none wire (may.2 ready).2
    obtain ⟨b, resets, waited⟩ := @member_resets _ _ net.swap turns _ _ _ phase.b
    have burst : Burst cfg net.a .awaitingResetCompleteSelfInitiated .awaitingResetCompleteSelfInitiated
        packets requests [] := by
      refine ⟨?_, phase.arePackets, phase.areRequests, by simp [Replies], by simp, fun _ => rfl, by simp⟩
      rw [wire, List.append_nil, List.nil_append]
    have burst' : Burst cfg' b .awaitingResetCompleteSelfInitiated .awaitingResetCompleteSelfInitiated
        packets' [request] [] := by
      refine ⟨?_, phase.arePackets', by simp [Requests], by simp [Replies], by simp, fun _ => rfl, by simp⟩
      rw [waited.wire, List.append_nil, List.map_append]
      exact congrArg (· ++ _) phase.b.wire
    exact ⟨_, resets, .inr (.apart ⟨phase.a, waited.waiting, burst, burst'⟩)⟩
  · obtain ⟨b, in_', out', flights, happens, member, validIn, validOut, moves, grows⟩ :=
      @member_happens _ _ net.swap turns small enough _ _ _ phase.b phase.validIn phase.validOut _ may other
        isReset
    refine ⟨_, happens, .inr (.left
      { phase with
        b := member, arePackets' := grows.packets phase.arePackets', data := moves.inData.trans phase.data,
        acks := moves.acks.trans phase.acks, validOut := validOut, validIn := validIn,
        caughtUpOut := ?_, opensOut := ?_, departed := phase.departed_after moves.toKeeps })⟩
    · rw [moves.inAcked, moves.inReceived, phase.caughtUpOut]
    · rw [moves.inReceived, moves.inSent]
      exact phase.opensOut

theorem Left.delivers' (small : agreedWindow cfg' cfg < snWindowSize)
    (fits : agreedWindow cfg cfg' < snWindowSize) (enough : snWindowSize < turns) {reactions : Reactions}
    (sized : reactions.Sized) :
    ∃ net', net.swap.happen turns (.act (.deliver reactions)) = .ok net' ∧ Linked cfg' cfg net' := by
  cases replies with
  | cons flight replies =>
      obtain rfl := phase.areReplies flight List.mem_cons_self
      obtain ⟨b, error, handles, member⟩ := @Member.replied _ _ _ _ _ _ phase.b turns reactions cfg
      exact ⟨_, @deliver_eq net.swap turns _ _ _ phase.wire _ _ handles, .inr (.left
        { phase with
          a := phase.a.rewire _, b := member, wire := rfl,
          areReplies := fun other inside => phase.areReplies other (List.mem_cons_of_mem _ inside) })⟩
  | nil =>
  cases packets with
  | cons flight packets =>
      obtain ⟨b, error, in_', out', flights, handles, member, validIn, validOut, keeps, grows, acks, data,
          caughtUp, opens⟩ :=
        phase.b.handles small fits enough sized phase.validIn phase.validOut phase.caughtUpOut
          (phase.arePackets flight List.mem_cons_self) phase.acks phase.data phase.opensOut
      exact ⟨_, @deliver_eq net.swap turns _ _ _ phase.wire _ _ handles, .inr (.left
        { phase with
          a := phase.a.rewire _, b := member, wire := rfl,
          arePackets := fun other inside => phase.arePackets other (List.mem_cons_of_mem _ inside),
          arePackets' := grows.packets phase.arePackets', data := data, acks := acks, validOut := validOut,
          validIn := validIn, caughtUpOut := caughtUp, opensOut := opens,
          departed := phase.departed_after keeps })⟩
  | nil =>
  cases requests with
  | nil => exact ⟨net.swap, deliver_nothing phase.wire, .inr (.left phase)⟩
  | cons flight requests =>
      obtain rfl := phase.areRequests flight List.mem_cons_self
      obtain ⟨b, error, handles, waited⟩ := @Member.requested _ _ _ _ _ _ phase.b turns reactions
      have burst : Burst cfg { net.a with wire := requests.map Flight.encode }
          .awaitingResetCompleteSelfInitiated .awaitingResetCompleteRemoteInitiated [] requests [] := by
        refine ⟨?_, by simp [Packets], ?_, by simp [Replies], by simp, fun _ => rfl, by simp⟩
        · rw [List.append_nil, List.nil_append]
        · exact fun other inside => phase.areRequests other (List.mem_cons_of_mem _ inside)
      have burst' : Burst cfg' b .awaitingResetCompleteRemoteInitiated .awaitingResetCompleteSelfInitiated
          packets' [] [reply cfg'] := by
        refine ⟨?_, phase.arePackets', by simp [Requests], by simp [Replies], by simp, by simp, by simp⟩
        rw [waited.wire, List.append_nil, List.map_append]
        exact congrArg (· ++ _) phase.b.wire
      exact ⟨_, @deliver_eq net.swap turns _ _ _ phase.wire _ _ handles, .inr (.apart
        ⟨phase.a.rewire _, waited.waiting, burst, burst'⟩)⟩

end Left

/-! ### Both are in the session -/

section Both

variable {out in_ : Window (List UInt8)} {replies packets replies' packets' : List Flight}
  (phase : Both cfg cfg' net out in_ replies packets replies' packets')
include phase

theorem Both.happens (small : agreedWindow cfg cfg' < snWindowSize) (enough : snWindowSize < turns)
    {occurrence : Occurrence} (may : net.MayHappen occurrence)
    (other : ∀ reactions, occurrence ≠ .act (.deliver reactions)) :
    ∃ net', net.happen turns occurrence = .ok net' ∧ Linked cfg cfg' net' := by
  by_cases isReset : occurrence = .reset
  · subst isReset
    have ready : net.a.protocol.state = .ready := by
      obtain ⟨origin, proper, desired, half⟩ := phase.a
      exact half.ready
    obtain rfl := phase.areReplies'.none phase.b.wire (may.2 ready).2
    obtain ⟨a, resets, waited⟩ := @member_resets _ _ _ turns _ _ _ phase.a
    have wire : a.wire = (replies ++ packets ++ [request]).map Flight.encode := by
      rw [waited.wire, phase.a.wire, ← List.map_append]
    refine ⟨_, resets, .inl (.left
      ⟨waited.waiting, phase.b, wire, phase.areReplies, phase.arePackets, by simp [Requests],
        phase.arePackets', ?_, ?_, phase.validOut, phase.validIn, phase.caughtUpOut, phase.opensOut,
        phase.a.departed.later waited.log⟩)⟩
    · rw [phase.a.data, List.filterMap_append, phase.areReplies.silent.payloads, List.nil_append]
    · rw [phase.a.acks, List.filterMap_append, phase.areReplies.silent.acks, List.nil_append]
  · obtain ⟨a, out', in_', flights, happens, member, validOut, validIn, moves, grows⟩ :=
      @member_happens _ _ _ turns small enough _ _ _ phase.a phase.validOut phase.validIn _ may other isReset
    obtain ⟨packets_, rfl, arePackets, opens⟩ := grows.behind phase.arePackets phase.areReplies.silent
    refine ⟨_, happens, .inl (.both
      { phase with
        a := member, b := phase.b.moved moves phase.validOut.received_le, arePackets := arePackets,
        validOut := validOut, validIn := validIn, caughtUpOut := ?_, caughtUpIn := ?_,
        opensOut := fun none_ => opens (phase.opensOut (moves.received ▸ none_)), opensIn := ?_ })⟩
    · rw [moves.acked, moves.received, phase.caughtUpOut]
    · rw [moves.inAcked, moves.inReceived, phase.caughtUpIn]
    · rw [moves.inReceived, moves.inSent]
      exact phase.opensIn

theorem Both.delivers (small : agreedWindow cfg cfg' < snWindowSize)
    (fits : agreedWindow cfg' cfg < snWindowSize) (enough : snWindowSize < turns) {reactions : Reactions}
    (sized : reactions.Sized) :
    ∃ net', net.happen turns (.act (.deliver reactions)) = .ok net' ∧ Linked cfg cfg' net' := by
  cases replies' with
  | cons flight replies' =>
      obtain rfl := phase.areReplies' flight List.mem_cons_self
      obtain ⟨a, error, handles, member⟩ := @Member.replied _ _ _ _ _ _ phase.a turns reactions cfg'
      exact ⟨_, deliver_eq phase.b.wire handles, .inl (.both
        { phase with
          a := member, b := phase.b.pop rfl phase.validOut.received_le ⟨rfl, rfl⟩,
          areReplies' := fun other inside => phase.areReplies' other (List.mem_cons_of_mem _ inside) })⟩
  | nil =>
  cases packets' with
  | nil => exact ⟨net, deliver_nothing phase.b.wire, .inl (.both phase)⟩
  | cons flight packets' =>
      obtain ⟨a, error, out', in_', flights, handles, member, validOut, validIn, keeps, grows, acks, data,
          caughtUp, opens⟩ :=
        phase.a.handles small fits enough sized phase.validOut phase.validIn phase.caughtUpIn
          (phase.arePackets' flight List.mem_cons_self) phase.b.acks phase.b.data phase.opensIn
      obtain ⟨packets_, rfl, arePackets, opens_⟩ := grows.behind phase.arePackets phase.areReplies.silent
      have peer : Member cfg' cfg { net.b with wire := packets'.map Flight.encode } in_' out' ([] ++ packets') :=
        phase.b.peer keeps phase.validOut.received_le data acks
      refine ⟨_, deliver_eq phase.b.wire handles, .inl (.both
        { phase with
          a := member, b := peer, arePackets := arePackets,
          arePackets' := fun other inside => phase.arePackets' other (List.mem_cons_of_mem _ inside),
          validOut := validOut, validIn := validIn, caughtUpOut := ?_, caughtUpIn := caughtUp,
          opensOut := fun none_ => opens_ (phase.opensOut (keeps.received ▸ none_)), opensIn := opens })⟩
      rw [keeps.acked, keeps.received, phase.caughtUpOut]

end Both

end Transitions

/-! ## Runs -/

section Runs

variable {cfg cfg' : SessionConfig} {net : Network} {turns : Nat}
  (small : agreedWindow cfg cfg' < snWindowSize) (small' : agreedWindow cfg' cfg < snWindowSize)
  (enough : snWindowSize < turns)
include small small' enough

/-- Whatever may happen at the first endpoint, the two are in some phase again. -/
theorem Phase.happens (phase : Phase cfg cfg' net) {occurrence : Occurrence}
    (may : net.MayHappen occurrence) :
    ∃ net', net.happen turns occurrence = .ok net' ∧ Linked cfg cfg' net' := by
  by_cases isDeliver : ∃ reactions, occurrence = .act (.deliver reactions)
  · obtain ⟨reactions, rfl⟩ := isDeliver
    have sized : reactions.Sized := may
    cases phase with
    | both phase => exact phase.delivers small small' enough sized
    | left phase => exact phase.delivers
    | entered phase => exact phase.delivers small enough sized
    | gone phase => exact phase.delivers small enough sized
    | apart phase => exact phase.delivers small enough sized
  · rw [not_exists] at isDeliver
    cases phase with
    | both phase => exact phase.happens small enough may isDeliver
    | left phase => exact phase.happens may isDeliver
    | entered phase => exact phase.happens may isDeliver
    | gone phase => exact phase.happens may isDeliver
    | apart phase => exact phase.happens may isDeliver

/-- Whatever may happen at the second one. -/
theorem Phase.happens' (phase : Phase cfg cfg' net) {occurrence : Occurrence}
    (may : net.swap.MayHappen occurrence) :
    ∃ net', net.swap.happen turns occurrence = .ok net' ∧ Linked cfg' cfg net' := by
  by_cases isDeliver : ∃ reactions, occurrence = .act (.deliver reactions)
  · obtain ⟨reactions, rfl⟩ := isDeliver
    have sized : reactions.Sized := may
    cases phase with
    | both phase => exact phase.swap.delivers small' small enough sized
    | left phase => exact phase.delivers' small' small enough sized
    | entered phase => exact phase.delivers'
    | gone phase => exact ⟨net.swap, deliver_nothing phase.wire, .inr (.gone phase)⟩
    | apart phase => exact phase.swap.delivers small' enough sized
  · rw [not_exists] at isDeliver
    cases phase with
    | both phase => exact phase.swap.happens small' enough may isDeliver
    | left phase => exact phase.happens' small' enough may isDeliver
    | entered phase => exact phase.happens' small' enough may isDeliver
    | gone phase => exact phase.happens' may isDeliver
    | apart phase => exact phase.swap.happens may isDeliver

theorem Linked.happens (linked : Linked cfg cfg' net) {occurrence : Occurrence}
    (may : net.MayHappen occurrence) :
    ∃ net', net.happen turns occurrence = .ok net' ∧ Linked cfg cfg' net' := by
  cases linked with
  | inl phase => exact phase.happens small small' enough may
  | inr phase => exact phase.happens' small' small enough may

theorem Linked.runs {steps : List (Party × Occurrence)} (linked : Linked cfg cfg' net)
    (permits : net.Permits turns steps) :
    ∃ net', net.links turns steps = .ok net' ∧ Linked cfg cfg' net' := by
  induction steps generalizing net with
  | nil => exact ⟨net, rfl, linked⟩
  | cons step steps ih =>
      obtain ⟨party, occurrence⟩ := step
      obtain ⟨may, later⟩ := permits
      unfold Network.links
      rw [List.foldlM_cons]
      cases party with
      | a =>
          obtain ⟨net', happens, linked'⟩ := linked.happens small small' enough may
          have links : net.link turns (.a, occurrence) = .ok net' := happens
          rw [links]
          exact ih linked' (later net' links)
      | b =>
          obtain ⟨net', happens, linked'⟩ := linked.swap.happens small' small enough may
          have links : net.link turns (.b, occurrence) = .ok net'.swap := by
            rw [Network.link, happens]
            rfl
          rw [links]
          exact ih linked'.swap (later net'.swap links)

end Runs

/-! ## What the clients get -/

theorem Waiting.acknowledged {cfg : SessionConfig} {net : Network} {state : State}
    (waiting : Waiting cfg net.a state) : net.Acknowledged := by
  unfold Network.Acknowledged
  simp only
  rw [waiting.consumed]
  exact ⟨Nat.zero_le _, [], List.nil_prefix, List.nil_prefix⟩

theorem Waiting.paired {cfg : SessionConfig} {net : Network} {state : State}
    (waiting : Waiting cfg net.b state) : net.Paired := by
  unfold Network.Paired
  rw [waiting.accepted]
  exact ⟨[], List.nil_prefix, List.nil_prefix⟩

/-- What a member has consumed was handed over at a time when the other one was in the
    session. -/
theorem Member.acknowledged {cfg cfg' : SessionConfig} {net : Network} {out in_ : Window (List UInt8)}
    {flights : List Flight} {size : Nat} (member : Member cfg cfg' net.a out in_ flights)
    (valid : out.Valid size)
    (there : ∃ past, past <+: net.b.log ∧ acceptedPayloads (session past) = out.sent.take out.received) :
    net.Acknowledged := by
  obtain ⟨origin, proper, desired, half⟩ := member
  obtain ⟨past, isPast, accepted⟩ := there
  obtain ⟨rest, isQueued, -⟩ := half.sends.stream
  have le : out.base ≤ out.received := Nat.le_trans valid.base_le valid.acked_le
  have whole : out.sent.flatten = (out.sent.take out.base).flatten ++ (out.sent.drop out.base).flatten := by
    rw [← List.flatten_append, List.take_append_drop]
  unfold Network.Acknowledged
  simp only
  rw [half.session proper, half.sends.consumed, isQueued]
  refine ⟨?_, past, isPast, ?_⟩
  · rw [whole, List.length_append, List.length_append]
    omega
  · rw [accepted, whole, List.append_assoc, List.take_left, take_flatten_split out.sent le]
    exact List.prefix_append _ _

theorem Member.paired {cfg cfg' : SessionConfig} {net : Network} {out in_ : Window (List UInt8)}
    {flights : List Flight} (member : Member cfg' cfg net.b in_ out flights)
    (there : ∃ past, past <+: net.a.log ∧ out.sent.flatten <+: queuedBytes (session past)) : net.Paired := by
  obtain ⟨origin, proper, desired, half⟩ := member
  obtain ⟨past, isPast, queued⟩ := there
  refine ⟨past, isPast, ?_⟩
  rw [half.session proper, half.receives.accepted]
  have taken : (out.sent.take out.received).flatten <+: out.sent.flatten := by
    conv_rhs => rw [← List.take_append_drop out.received out.sent, List.flatten_append]
    exact List.prefix_append _ _
  exact taken.trans queued

theorem Departed.accepted {side : Endpoint} {out in_ : Window (List UInt8)}
    (departed : Departed side out in_) :
    ∃ past, past <+: side.log ∧ acceptedPayloads (session past) = in_.sent.take in_.received := by
  obtain ⟨past, isPast, isAccepted, -⟩ := departed
  exact ⟨past, isPast, isAccepted⟩

theorem Departed.queued {side : Endpoint} {out in_ : Window (List UInt8)}
    (departed : Departed side out in_) :
    ∃ past, past <+: side.log ∧ out.sent.flatten <+: queuedBytes (session past) := by
  obtain ⟨past, isPast, -, isQueued⟩ := departed
  exact ⟨past, isPast, isQueued⟩

/-- In every phase both directions are as they should be. -/
theorem Phase.agrees {cfg cfg' : SessionConfig} {net : Network} (phase : Phase cfg cfg' net) :
    (net.Acknowledged ∧ net.Paired) ∧ net.swap.Acknowledged ∧ net.swap.Paired := by
  cases phase with
  | both phase =>
      exact ⟨⟨phase.a.acknowledged phase.validOut phase.b.departed.accepted,
          phase.b.paired phase.a.departed.queued⟩,
        @Member.acknowledged _ _ net.swap _ _ _ _ phase.b phase.validIn phase.a.departed.accepted,
        @Member.paired _ _ net.swap _ _ _ phase.a phase.b.departed.queued⟩
  | left phase =>
      exact ⟨⟨phase.a.acknowledged, phase.b.paired phase.departed.queued⟩,
        @Member.acknowledged _ _ net.swap _ _ _ _ phase.b phase.validIn phase.departed.accepted,
        @Waiting.paired _ net.swap _ phase.a⟩
  | @entered out in_ replies requests' replies' packets' phase =>
      have nothing : ∃ past, past <+: net.a.log ∧
          acceptedPayloads (session past) = in_.sent.take in_.received := by
        rw [phase.untouched]
        exact ⟨[], List.nil_prefix, rfl⟩
      have nothing' : ∃ past, past <+: net.a.log ∧ out.sent.flatten <+: queuedBytes (session past) := by
        rw [phase.nothing]
        exact ⟨[], List.nil_prefix, List.nil_prefix⟩
      exact ⟨⟨phase.a.acknowledged, phase.b.paired nothing'⟩,
        @Member.acknowledged _ _ net.swap _ _ _ _ phase.b phase.validIn nothing,
        @Waiting.paired _ net.swap _ phase.a⟩
  | gone phase =>
      exact ⟨⟨phase.a.acknowledged, phase.b.paired⟩, @Waiting.acknowledged _ net.swap _ phase.b,
        @Waiting.paired _ net.swap _ phase.a⟩
  | apart phase =>
      exact ⟨⟨phase.a.acknowledged, phase.b.paired⟩, @Waiting.acknowledged _ net.swap _ phase.b,
        @Waiting.paired _ net.swap _ phase.a⟩

/-- An endpoint that was created and not started. The client may have queued something. -/
structure Endpoint.Created (side : Endpoint) : Prop where
  initialized : side.protocol.state = .initialized
  ackTimer : side.protocol.out.ackTimer = none
  packetSize : resetCompletePacketSize ≤ side.transportMaxPacketSize
  reliable : side.sendResults = []
  wire : side.wire = []
  queued : queuedBytes (session side.log) = side.outgoing
  accepted : acceptedPayloads (session side.log) = []
  consumed : consumedBytes (session side.log) = 0

theorem Endpoint.Created.started {side : Endpoint} (created : side.Created) :
    ∃ side' result, side.start = .ok (side', result) ∧
      Waited side.protocol.desiredSessionCfg side side' .awaitingResetCompleteSelfInitiated [request] := by
  obtain ⟨initialized, ackTimer, packetSize, reliable, wire, queued, accepted, consumed⟩ := created
  have left : Waited side.protocol.desiredSessionCfg side
      (side.leaveSession .awaitingResetCompleteSelfInitiated) .awaitingResetCompleteSelfInitiated [] := by
    unfold Endpoint.leaveSession
    simp only [initialized, reduceCtorEq, if_false]
    exact ⟨⟨rfl, .inl rfl, rfl, rfl, packetSize, reliable, queued, accepted, consumed⟩, rfl,
      (List.append_nil _).symm, List.prefix_refl _⟩
  obtain ⟨side', result, resets, waited⟩ := reset_waited left
  refine ⟨side', result, ?_, waited⟩
  unfold Endpoint.start
  rw [assert_of initialized]
  exact resets

/-- Over every run of two endpoints that were started, in which nobody is reset who may not
    be: what either protocol lets its client consume was handed to the other client in one
    session, and what is handed to a client was queued in one. -/
theorem agrees_of_run {turns : Nat} {net started : Network} (enough : snWindowSize < turns)
    (createdA : net.a.Created) (createdB : net.b.Created)
    (small : agreedWindow net.a.protocol.desiredSessionCfg net.b.protocol.desiredSessionCfg < snWindowSize)
    (small' : agreedWindow net.b.protocol.desiredSessionCfg net.a.protocol.desiredSessionCfg < snWindowSize)
    (starts : net.start = .ok started) {steps : List (Party × Occurrence)}
    (permits : started.Permits turns steps) :
    ∃ net', started.links turns steps = .ok net' ∧ (net'.Acknowledged ∧ net'.Paired) ∧
      net'.swap.Acknowledged ∧ net'.swap.Paired := by
  obtain ⟨a, result, startsA, waitedA⟩ := createdA.started
  obtain ⟨b, result', startsB, waitedB⟩ := createdB.started
  have isStarted : net.start = .ok ⟨a, b⟩ := by
    unfold Network.start
    rw [startsA, startsB]
    rfl
  rw [isStarted] at starts
  obtain rfl := Except.ok.inj starts
  have burst : ∀ {side side' : Endpoint} {desired : SessionConfig}, side.wire = [] →
      Waited desired side side' .awaitingResetCompleteSelfInitiated [request] →
      Burst desired side' .awaitingResetCompleteSelfInitiated .awaitingResetCompleteSelfInitiated []
        [request] [] := by
    intro side side' desired wire waited
    refine ⟨?_, by simp [Packets], by simp [Requests], by simp [Replies], by simp, fun _ => rfl, by simp⟩
    rw [waited.wire, wire]
    rfl
  have linked : Linked net.a.protocol.desiredSessionCfg net.b.protocol.desiredSessionCfg ⟨a, b⟩ :=
    .inl (.apart ⟨waitedA.waiting, waitedB.waiting, burst createdA.wire waitedA, burst createdB.wire waitedB⟩)
  obtain ⟨net', runs, linked'⟩ := linked.runs small small' enough permits
  refine ⟨net', runs, ?_⟩
  cases linked' with
  | inl phase => exact phase.agrees
  | inr phase => exact phase.agrees.symm

/-- An endpoint that was just created, with windows of eight packets. -/
def createdEndpoint : Endpoint where
  protocol := ⟨.initialized, ⟨8, 8⟩, ⟨8, 8⟩, 0, 0, .zero, .zero⟩
  outgoing := []
  transportMaxPacketSize := 20
  sendResults := []
  wire := []
  log := []

theorem createdEndpoint_created : createdEndpoint.Created := by
  constructor <;> first | rfl | decide

/-- A session in which the first client sends a byte, and is then reset. -/
def orderlySteps : List (Party × Occurrence) :=
  [(.b, .act (.deliver ⟨[], [], []⟩)), (.a, .act (.deliver ⟨[], [], []⟩)), (.a, .act (.deliver ⟨[], [], []⟩)),
    (.b, .act (.deliver ⟨[], [], []⟩)), (.b, .act (.deliver ⟨[], [], []⟩)), (.a, .act (.call (.queue [7]))),
    (.a, .act (.call .notifyOutgoingDataAvailable)),
    (.b, .act (.deliver ⟨[], [.consumeIncomingData 1], []⟩)), (.b, .act .ackTimer),
    (.a, .act (.deliver ⟨[], [], []⟩)), (.a, .reset), (.b, .act (.deliver ⟨[], [], []⟩))]

/-- The endpoint once it was started: it has asked for a reset. -/
def startedEndpoint : Endpoint :=
  { createdEndpoint.scheduleRetransmit resetCompleteTimeout |>.setState .awaitingResetCompleteSelfInitiated with
    wire := [request.encode] }

theorem agrees_orderlySteps :
    ∃ net', (⟨startedEndpoint, startedEndpoint⟩ : Network).links 33 orderlySteps = .ok net' ∧
      acceptedPayloads net'.b.log = [[7]] ∧ (net'.Acknowledged ∧ net'.Paired) ∧
      net'.swap.Acknowledged ∧ net'.swap.Paired := by
  have starts : (⟨createdEndpoint, createdEndpoint⟩ : Network).start = .ok ⟨startedEndpoint, startedEndpoint⟩ :=
    rfl
  have permits : (⟨startedEndpoint, startedEndpoint⟩ : Network).Permits 33 orderlySteps := by
    decide +kernel
  obtain ⟨net', links, agrees⟩ := @agrees_of_run 33 ⟨createdEndpoint, createdEndpoint⟩ _ (by decide)
    createdEndpoint_created createdEndpoint_created (by decide) (by decide) starts orderlySteps permits
  have seen : ((⟨startedEndpoint, startedEndpoint⟩ : Network).links 33 orderlySteps).map
      (fun net => acceptedPayloads net.b.log) = .ok [[7]] := by
    rfl
  rw [links] at seen
  exact ⟨net', links, Except.ok.inj seen, agrees⟩

/-- The second endpoint is reset while its answer to the first one is under way. The reset
    request of the first session is then answered in the second, and the ack of the byte 7
    is taken for one of the byte 8. -/
def staleSteps : List (Party × Occurrence) :=
  [(.b, .act (.deliver ⟨[], [], []⟩)), (.b, .reset), (.a, .act (.deliver ⟨[], [], []⟩)),
    (.b, .act (.deliver ⟨[], [], []⟩)), (.a, .act (.deliver ⟨[], [], []⟩)), (.a, .act (.call (.queue [7]))),
    (.a, .act (.call .notifyOutgoingDataAvailable)),
    (.b, .act (.deliver ⟨[], [.consumeIncomingData 1], []⟩)), (.b, .act .ackTimer),
    (.a, .act (.deliver ⟨[], [], []⟩)), (.a, .act (.deliver ⟨[], [], []⟩)), (.a, .act (.call (.queue [8]))),
    (.a, .act (.call .notifyOutgoingDataAvailable)), (.a, .act (.deliver ⟨[], [], []⟩))]

/-- A client has only been handed what it was handed at some time. -/
theorem acceptedPayloads_session_subset {past log : List Event} (isPast : past <+: log) :
    acceptedPayloads (session past) ⊆ acceptedPayloads log := by
  intro payload member
  have sublist : List.Sublist (session past) log := (List.rtakeWhile_suffix _ past).sublist.trans isPast.sublist
  exact (sublist.filterMap _).subset member

theorem staleSteps_not_acknowledged :
    createdEndpoint.Created ∧
      (⟨createdEndpoint, createdEndpoint⟩ : Network).start = .ok ⟨startedEndpoint, startedEndpoint⟩ ∧
      ∃ net', (⟨startedEndpoint, startedEndpoint⟩ : Network).links 33 staleSteps = .ok net' ∧
        ¬ net'.Acknowledged := by
  refine ⟨createdEndpoint_created, rfl, ?_⟩
  have seen : ((⟨startedEndpoint, startedEndpoint⟩ : Network).links 33 staleSteps).map
      (fun net => (acceptedPayloads net.b.log, queuedBytes (session net.a.log),
        consumedBytes (session net.a.log))) = .ok ([[7]], [8], 1) := by
    rfl
  cases links : (⟨startedEndpoint, startedEndpoint⟩ : Network).links 33 staleSteps with
  | error _ =>
      rw [links] at seen
      exact nomatch seen
  | ok net' =>
      rw [links] at seen
      obtain ⟨accepted, queued, consumed⟩ : acceptedPayloads net'.b.log = [[7]] ∧
          queuedBytes (session net'.a.log) = [8] ∧ consumedBytes (session net'.a.log) = 1 := by
        simpa [Except.map] using seen
      refine ⟨net', rfl, ?_⟩
      rintro ⟨-, past, isPast, taken⟩
      rw [queued, consumed] at taken
      obtain ⟨payload, member, eight⟩ := List.mem_flatten.mp (taken.subset (List.mem_singleton.mpr rfl))
      have isSeven := acceptedPayloads_session_subset isPast member
      rw [accepted, List.mem_singleton] at isSeven
      rw [isSeven] at eight
      exact absurd eight (by decide)

end GoldenGate.Gattlink

import GoldenGate.Gattlink.Receiving
import GoldenGate.Lib.Runs
import Mathlib.Data.List.InsertIdx

/-! # Reliable delivery

Two endpoints in one session, with wires that may lose packets. Whatever happens, both
stay in the session, and what a client was given is a prefix of what the other one queued.
-/

namespace GoldenGate.Gattlink

open Memory GoBackN

/-! ## Two endpoints -/

/-- Two endpoints; the wire of each is the channel to the other. -/
structure Network where
  a : Endpoint
  b : Endpoint

/-- What can happen at an endpoint. -/
inductive Action where
  | call (clientCall : ClientCall)
  | deliver (reactions : Reactions)
  | drop (index : Nat)
  | ackTimer
  | retransmitTimer (elapsed : UInt32)
  deriving Repr, DecidableEq

inductive Party where
  | a
  | b
  deriving Repr, DecidableEq

section Network

variable (turns : Nat)

namespace Network

def swap (net : Network) : Network := ⟨net.b, net.a⟩

/-- Something happens at the first endpoint. The packets come in the order in which they
    were sent; any packet of the endpoint may be lost on its way. -/
def act (net : Network) : Action → Access Network
  | .call clientCall => do
      let a ← net.a.call turns clientCall
      return { net with a := a }
  | .deliver reactions =>
      match net.b.wire with
      | [] => return net
      | packet :: rest => do
          let (a, _) ← net.a.handleIncomingRawData turns reactions packet
          return ⟨a, { net.b with wire := rest }⟩
  | .drop index => return { net with a := { net.a with wire := net.a.wire.eraseIdx index } }
  | .ackTimer => do
      let a ← net.a.fireAckTimer turns
      return { net with a := a }
  | .retransmitTimer elapsed => do
      let a ← net.a.fireRetransmitTimer turns elapsed
      return { net with a := a }

def step (net : Network) : Party × Action → Access Network
  | (.a, action) => net.act turns action
  | (.b, action) => swap <$> net.swap.act turns action

def run (net : Network) (steps : List (Party × Action)) : Access Network :=
  steps.foldlM (step turns) net

end Network

end Network

/-- An action that the protocol can cope with. -/
def Action.Sized : Action → Prop
  | .call clientCall => clientCall.Sized
  | .deliver reactions => reactions.Sized
  | _ => True

/-- Both endpoints are at the beginning of a session, with their packet windows for either
    direction. The clients may have queued something already. -/
structure Endpoint.Fresh (self : Endpoint) (tx rx : Nat) : Prop where
  ready : self.protocol.state = .ready
  txWindow : self.protocol.actualSessionCfg.maxTxWindowSize.toNat = tx
  rxWindow : self.protocol.actualSessionCfg.maxRxWindowSize.toNat = rx
  out : self.protocol.out = .zero
  in_ : self.protocol.in_ = .zero
  packetSize : resetCompletePacketSize ≤ self.transportMaxPacketSize
  reliable : self.sendResults = []
  wire : self.wire = []
  queued : queuedBytes self.log = self.outgoing
  accepted : acceptedPayloads self.log = []
  consumed : consumedBytes self.log = 0
  noReset : Event.sessionReset ∉ self.log

/-- Two endpoints in one session, with nothing but packets of it on their wires. -/
structure Session (net : Network) (ab ba : Nat) (cfg cfg' : SessionConfig)
    (out in_ : Window (List UInt8)) (flights flights' : List Flight) : Prop where
  a : Half ⟨[], cfg⟩ net.a ab ba out in_ flights out.sent.length
  b : Half ⟨[], cfg'⟩ net.b ba ab in_ out flights' in_.sent.length
  validOut : out.Valid ab
  validIn : in_.Valid ba
  caughtUpOut : out.acked = out.received
  caughtUpIn : in_.acked = in_.received
  packets : ∀ flight ∈ flights, flight.IsPacket
  packets' : ∀ flight ∈ flights', flight.IsPacket

def Network.InSession (net : Network) (ab ba : Nat) : Prop :=
  ∃ cfg cfg' out in_ flights flights', Session net ab ba cfg cfg' out in_ flights flights'

theorem Network.InSession.swap {net : Network} {ab ba : Nat} (session : net.InSession ab ba) :
    net.swap.InSession ba ab := by
  obtain ⟨cfg, cfg', out, in_, flights, flights', a, b, validOut, validIn, caughtUpOut, caughtUpIn, packets,
    packets'⟩ := session
  exact ⟨cfg', cfg, in_, out, flights', flights, b, a, validIn, validOut, caughtUpIn, caughtUpOut, packets', packets⟩

/-- The peer of an endpoint, after something happened there. -/
theorem Half.peer {origin : Origin} {peer : Endpoint} {tx rx : Nat} {out out' in_ in_' : Window (List UInt8)}
    {flights flights' : List Flight} (half : Half origin peer rx tx in_ out flights in_.sent.length)
    (keeps : Keeps out out' in_ in_') (received : out.received ≤ out.sent.length)
    (data : in_'.data = flights'.filterMap Flight.payload)
    (acks : out'.acks = flights'.filterMap Flight.ack) :
    Half origin { peer with wire := flights'.map Flight.encode } rx tx in_' out' flights'
      in_'.sent.length := by
  obtain ⟨ready, reliable, packetSize, logged, desired, noReset, sends, receives, wire, -, -⟩ := half
  obtain ⟨isReceived, isAcked, ⟨more, isSent⟩, inSent, inBase⟩ := keeps
  refine ⟨ready, reliable, packetSize, logged, desired, noReset, ?_, ?_, rfl, data, acks⟩
  · obtain ⟨sent, base, _, _, _, _⟩ := in_'
    obtain rfl : sent = in_.sent := inSent
    obtain rfl : base = in_.base := inBase
    exact ⟨sends.window, sends.sn, sends.base_le, sends.next_le, sends.nonempty, sends.stream,
      sends.consumed⟩
  · refine ⟨receives.window, ?_, ?_, ?_, ?_, ?_⟩
    · rw [isReceived]
      exact receives.psn
    · rw [isAcked]
      exact receives.ackPsn
    · rw [isAcked]
      exact receives.silent
    · rw [isReceived]
      exact receives.free
    · rw [isReceived, isSent, List.take_append_of_le_length received]
      exact receives.accepted

theorem Grows.packets {sent sent' : List (List UInt8)} {flights flights' : List Flight}
    (grows : Grows sent sent' flights flights') (packets : ∀ flight ∈ flights, flight.IsPacket) :
    ∀ flight ∈ flights', flight.IsPacket := by
  obtain ⟨⟨more, rfl, new⟩, -⟩ := grows
  intro flight member
  exact (List.mem_append.mp member).elim (packets flight) (new flight)

theorem Session.settled {net : Network} {ab ba : Nat} {cfg cfg' : SessionConfig}
    {out in_ : Window (List UInt8)} {flights flights' : List Flight}
    (session : Session net ab ba cfg cfg' out in_ flights flights') {result : Access Endpoint}
    (settles : Settles ⟨[], cfg⟩ ab ba out in_ flights result) :
    ∃ a, result = .ok a ∧ ({ net with a := a } : Network).InSession ab ba := by
  obtain ⟨a, out', in_', flights'', isResult, half, validOut, validIn, moves, grows⟩ := settles
  have peer := session.b.peer moves.toKeeps session.validOut.received_le
    (moves.inData.trans session.b.data) (moves.acks.trans session.b.acks)
  rw [← session.b.wire] at peer
  refine ⟨a, isResult, cfg, cfg', out', in_', flights'', flights', half, peer, validOut, validIn, ?_, ?_,
    grows.packets session.packets, session.packets'⟩
  · rw [moves.acked, moves.received, session.caughtUpOut]
  · rw [moves.inAcked, moves.inReceived, session.caughtUpIn]

theorem filterMap_cons_toList {α β : Type} {f : α → Option β} {x : α} {xs : List α} :
    (x :: xs).filterMap f = (f x).toList ++ xs.filterMap f := by
  cases isSome : f x <;> simp [isSome]

theorem lt_of_twice {size : Nat} (twice : 2 * size ≤ snWindowSize) : size < snWindowSize := by
  unfold snWindowSize at *
  omega

section Actions

variable {turns ab ba : Nat}

/-- Whatever happens at an endpoint, the two stay in the session, unless it takes a payload
    for an old one before it has accepted any. -/
theorem act_inSession_of_safe (small : ab < snWindowSize) (fits : ba < snWindowSize) (enough : snWindowSize < turns)
    {net : Network} {cfg cfg' : SessionConfig} {out in_ : Window (List UInt8)} {flights flights' : List Flight}
    (session : Session net ab ba cfg cfg' out in_ flights flights') {action : Action} (sized : action.Sized)
    (safe : ∀ reactions, action = .deliver reactions → ∀ flight ∈ flights'.head?,
      flight.encode.length ≤ maxPacketSize → in_.received = 0 →
        ∀ d ∈ flight.payload, d.1 = 0 ∨ ba + d.1 ≤ snWindowSize) :
    ∃ net', net.act turns action = .ok net' ∧ net'.InSession ab ba := by
  cases action with
  | call clientCall =>
      obtain ⟨a, calls, settled⟩ := session.settled
        (call_settles small enough session.a session.validOut session.validIn sized)
      exact ⟨_, by rw [Network.act, calls]; rfl, settled⟩
  | ackTimer =>
      obtain ⟨a, fires, settled⟩ := session.settled
        (fireAckTimer_settles session.a session.validOut session.validIn small enough)
      exact ⟨_, by rw [Network.act, fires]; rfl, settled⟩
  | retransmitTimer elapsed =>
      obtain ⟨a, fires, settled⟩ := session.settled
        (fireRetransmitTimer_settles session.a session.validOut session.validIn small enough elapsed)
      exact ⟨_, by rw [Network.act, fires]; rfl, settled⟩
  | drop index =>
      have fewer := List.eraseIdx_sublist flights index
      have a : Half ⟨[], cfg⟩ { net.a with wire := net.a.wire.eraseIdx index } ab ba
          { out with data := (flights.eraseIdx index).filterMap Flight.payload }
          { in_ with acks := (flights.eraseIdx index).filterMap Flight.ack } (flights.eraseIdx index)
          out.sent.length := by
        obtain ⟨ready, reliable, packetSize, logged, desired, noReset, sends, receives, wire, isData, isAcks⟩ :=
          session.a
        refine ⟨ready, reliable, packetSize, logged, desired, noReset,
          ⟨sends.window, sends.sn, sends.base_le, sends.next_le, sends.nonempty, sends.stream,
            sends.consumed⟩,
          ⟨receives.window, receives.psn, receives.ackPsn, receives.silent, receives.free,
            receives.accepted⟩, ?_, rfl, rfl⟩
        rw [← List.eraseIdx_map, ← wire]
      refine ⟨_, rfl, cfg, cfg', _, _, _, flights', a, session.b.channels, ?_, ?_, session.caughtUpOut,
        session.caughtUpIn, fun flight member => session.packets flight (fewer.subset member),
        session.packets'⟩
      · apply session.validOut.loseData
        rw [session.a.data]
        exact fewer.filterMap _
      · apply session.validIn.loseAcks
        rw [session.a.acks]
        exact fewer.filterMap _
  | deliver reactions =>
      unfold Network.act
      cases flights' with
      | nil =>
          rw [session.b.wire]
          exact ⟨net, rfl, cfg, cfg', out, in_, flights, [], session⟩
      | cons flight flights' =>
          cases flight with
          | control bytes => exact (session.packets' _ List.mem_cons_self).elim
          | packet ack payload =>
              obtain ⟨a, error, out', in_', flights'', handles, half, validOut, validIn, keeps, grows, acks,
                  data, caughtUp, -⟩ :=
                handleIncomingRawData_handles session.a session.validOut session.validIn small enough sized
                  fits session.caughtUpIn (session.b.acks.trans filterMap_cons_toList)
                  (session.b.data.trans filterMap_cons_toList) (safe reactions rfl _ rfl)
              simp only [session.b.wire, List.map_cons]
              rw [show (Flight.packet ack payload).encode = (Flight.packet ((Flight.packet ack payload).ack)
                ((Flight.packet ack payload).payload)).encode from rfl, handles]
              refine ⟨_, rfl, cfg, cfg', out', in_', flights'', flights', half,
                session.b.peer keeps session.validOut.received_le data acks, validOut, validIn, ?_,
                caughtUp, grows.packets session.packets,
                fun flight member => session.packets' flight (List.mem_cons_of_mem _ member)⟩
              rw [keeps.acked, keeps.received, session.caughtUpOut]

variable (abSmall : 2 * ab ≤ snWindowSize) (baSmall : 2 * ba ≤ snWindowSize) (enough : snWindowSize < turns)
include abSmall baSmall enough

/-- With half of the serial numbers in a window, a payload that is ahead is not taken for an
    old one. -/
theorem act_inSession {net : Network} (inSession : net.InSession ab ba) {action : Action}
    (sized : action.Sized) : ∃ net', net.act turns action = .ok net' ∧ net'.InSession ab ba := by
  obtain ⟨cfg, cfg', out, in_, flights, flights', session⟩ := inSession
  apply act_inSession_of_safe (lt_of_twice abSmall) (lt_of_twice baSmall) enough session sized
  intro _ _ flight first _ none_ d member
  have valid := session.validIn
  have isData : d ∈ in_.data := by
    rw [session.b.data]
    exact List.mem_filterMap.mpr ⟨flight, List.mem_of_head? first, member⟩
  have inside := valid.item_lt isData
  have sent := valid.sent_le
  have base := valid.base_le
  have acked := valid.acked_le
  omega

/-- Nor does any run take them out of it. -/
theorem run_inSession {net : Network} (inSession : net.InSession ab ba) {steps : List (Party × Action)}
    (sized : ∀ step ∈ steps, step.2.Sized) :
    ∃ net', net.run turns steps = .ok net' ∧ net'.InSession ab ba := by
  refine @Runs.run_goes _ _ _ _ _ _ (Network.InSession · ab ba) ?_ inSession _ sized
  rintro net ⟨party, action⟩ inSession sized
  cases party with
  | a => exact act_inSession abSmall baSmall enough inSession sized
  | b =>
      obtain ⟨net', acts, inSession'⟩ := act_inSession baSmall abSmall enough inSession.swap sized
      exact ⟨net'.swap, by rw [Network.step, acts]; rfl, inSession'.swap⟩

end Actions

/-! ## What the clients get -/

/-- What the client of the second endpoint was given is a part of what the client of the
    first one has queued, from the beginning; and nothing else was consumed. -/
def Network.Delivers (net : Network) : Prop :=
  (acceptedPayloads net.b.log).flatten <+: queuedBytes net.a.log ∧
    consumedBytes net.a.log ≤ (acceptedPayloads net.b.log).flatten.length

theorem Network.InSession.delivers {net : Network} {ab ba : Nat} (inSession : net.InSession ab ba) :
    net.Delivers := by
  obtain ⟨cfg, cfg', out, in_, flights, flights', session⟩ := inSession
  obtain ⟨rest, isQueued, -⟩ := session.a.sends.stream
  have le : out.base ≤ out.received := Nat.le_trans session.validOut.base_le session.validOut.acked_le
  unfold Network.Delivers
  change (acceptedPayloads (net.b.since ⟨[], cfg'⟩)).flatten <+: queuedBytes (net.a.since ⟨[], cfg⟩) ∧
    consumedBytes (net.a.since ⟨[], cfg⟩) ≤ (acceptedPayloads (net.b.since ⟨[], cfg'⟩)).flatten.length
  rw [session.b.receives.accepted, session.a.sends.consumed, isQueued]
  constructor
  · conv_rhs => rw [← List.take_append_drop out.received out.sent, List.flatten_append]
    exact ⟨(out.sent.drop out.received).flatten ++ rest, by rw [List.append_assoc]⟩
  · rw [take_flatten_split out.sent le, List.length_append]
    exact Nat.le_add_right _ _

theorem Endpoint.Fresh.half {side : Endpoint} {tx rx : Nat} (fresh : side.Fresh tx rx) :
    Half ⟨[], side.protocol.desiredSessionCfg⟩ side tx rx .empty .empty [] 0 := by
  obtain ⟨ready, txWindow, rxWindow, out, in_, packetSize, reliable, wire, queued, accepted, consumed,
    noReset⟩ := fresh
  have begins : Begins ⟨[], side.protocol.desiredSessionCfg⟩ side tx rx :=
    ⟨ready, txWindow, rxWindow, out, in_, packetSize, reliable, List.nil_prefix, rfl, noReset, queued,
      accepted, consumed⟩
  exact begins.half rfl rfl rfl rfl wire rfl rfl

theorem Endpoint.Fresh.inSession {net : Network} {ab ba : Nat} (freshA : net.a.Fresh ab ba)
    (freshB : net.b.Fresh ba ab) : net.InSession ab ba :=
  ⟨_, _, .empty, .empty, [], [], freshA.half, freshB.half, Window.valid_empty ab, Window.valid_empty ba, rfl, rfl,
    by simp, by simp⟩

/-- Over every run of two endpoints that are in a fresh session, with at most half of the
    serial numbers in a window, either client is given what the other one has queued. -/
theorem delivers_of_run {turns ab ba : Nat} {net : Network} (enough : snWindowSize < turns)
    (abSmall : ab ≤ 16) (baSmall : ba ≤ 16) (freshA : net.a.Fresh ab ba) (freshB : net.b.Fresh ba ab)
    {steps : List (Party × Action)} (sized : ∀ step ∈ steps, step.2.Sized) :
    ∃ net', net.run turns steps = .ok net' ∧ net'.Delivers ∧ net'.swap.Delivers := by
  have inSession := freshA.inSession freshB
  have abTwice : 2 * ab ≤ snWindowSize := by
    unfold snWindowSize
    omega
  have baTwice : 2 * ba ≤ snWindowSize := by
    unfold snWindowSize
    omega
  obtain ⟨net', runs, inSession'⟩ := run_inSession abTwice baTwice enough inSession sized
  exact ⟨net', runs, inSession'.delivers, inSession'.swap.delivers⟩

/-- An endpoint at the beginning of a session with windows of eight packets. -/
def freshEndpoint : Endpoint where
  protocol := ⟨.ready, ⟨8, 8⟩, ⟨8, 8⟩, 0, 0, .zero, .zero⟩
  outgoing := []
  transportMaxPacketSize := 20
  sendResults := []
  wire := []
  log := []

theorem freshEndpoint_fresh : freshEndpoint.Fresh 8 8 := by
  constructor <;> first | rfl | decide

/-- A packet is lost and sent again, and its ack comes with the timer. -/
def lossySteps : List (Party × Action) :=
  [(.a, .call (.queue [1, 2, 3])), (.a, .call .notifyOutgoingDataAvailable), (.a, .drop 0),
    (.a, .retransmitTimer 4000), (.b, .deliver ⟨[], [.consumeIncomingData 3], []⟩), (.b, .ackTimer),
    (.a, .deliver ⟨[], [], []⟩)]

theorem delivers_lossySteps :
    ∃ net', (⟨freshEndpoint, freshEndpoint⟩ : Network).run 33 lossySteps = .ok net' ∧
      acceptedPayloads net'.b.log = [[1, 2, 3]] ∧ consumedBytes net'.a.log = 3 ∧
      net'.Delivers ∧ net'.swap.Delivers := by
  have sized : ∀ step ∈ lossySteps, step.2.Sized := by
    simp [lossySteps, Action.Sized, ClientCall.Sized, Reactions.Sized]
  obtain ⟨net', runs, delivers⟩ := @delivers_of_run 33 8 8 ⟨freshEndpoint, freshEndpoint⟩ (by decide)
    (by decide) (by decide) freshEndpoint_fresh freshEndpoint_fresh lossySteps sized
  have seen : ((⟨freshEndpoint, freshEndpoint⟩ : Network).run 33 lossySteps).map
      (fun net => (acceptedPayloads net.b.log, consumedBytes net.a.log)) = .ok ([[1, 2, 3]], 3) := by
    rfl
  rw [runs] at seen
  have both := Prod.mk.inj (Except.ok.inj seen)
  exact ⟨net', runs, both.1, both.2, delivers⟩

end GoldenGate.Gattlink

import GoldenGate.Gattlink.FramedClient
import GoldenGate.Protocols.Ipv4Workspace

/-! # Frames end to end

Two generic clients in one session, over a transport that may lose packets: the frames that
the user of one of them puts come out at the sink of the other one, each once and in order.
-/

namespace GoldenGate.Gattlink

open Memory Ipv4 GoBackN

/-! ## Two clients -/

/-- Two clients; the wire of the protocol of each is the channel to the other. -/
structure FramedNetwork where
  a : FramedClient
  b : FramedClient

/-- What can happen at a client. -/
inductive FrameAction where
  | put (frame : List UInt8)
  | deliver
  | drop (index : Nat)
  | ackTimer
  | retransmitTimer (elapsed : UInt32)
  | userCanPut
  | transportCanPut
  deriving Repr, DecidableEq

def FramedClient.setWire (self : FramedClient) (wire : List (List UInt8)) : FramedClient :=
  { self with endpoint := { self.endpoint with wire := wire } }

namespace FramedNetwork

def swap (net : FramedNetwork) : FramedNetwork := ⟨net.b, net.a⟩

/-- The protocols alone. -/
def endpoints (net : FramedNetwork) : Network := ⟨net.a.endpoint, net.b.endpoint⟩

variable (turns : Nat)

/-- Something happens at the first client. -/
def act (net : FramedNetwork) : FrameAction → Access FramedNetwork
  | .put frame => do
      let (a, _) ← net.a.putData turns frame
      return { net with a := a }
  | .deliver =>
      match net.b.endpoint.wire with
      | [] => return net
      | packet :: rest => do
          let a ← net.a.transportPutData turns packet
          return ⟨a, net.b.setWire rest⟩
  | .drop index => return { net with a := net.a.setWire (net.a.endpoint.wire.eraseIdx index) }
  | .ackTimer => do
      let a ← net.a.fireAckTimer turns
      return { net with a := a }
  | .retransmitTimer elapsed => do
      let a ← net.a.fireRetransmitTimer turns elapsed
      return { net with a := a }
  | .userCanPut => do
      let a ← net.a.userOnCanPut
      return { net with a := a }
  | .transportCanPut => do
      let a ← net.a.transportOnCanPut turns
      return { net with a := a }

def step (net : FramedNetwork) : Party × FrameAction → Access FramedNetwork
  | (.a, action) => net.act turns action
  | (.b, action) => swap <$> net.swap.act turns action

def run (net : FramedNetwork) (steps : List (Party × FrameAction)) : Access FramedNetwork :=
  steps.foldlM (step turns) net

end FramedNetwork

/-! ## Frames that are complete -/

theorem completed_prefix (packets : List (List UInt8 × List UInt8)) (n : Nat) :
    completed packets n <+: packets.map Prod.snd := by
  induction packets generalizing n with
  | nil => exact List.nil_prefix
  | cons p packets ih =>
      obtain ⟨packet, frame⟩ := p
      rw [completed]
      split
      case isTrue => exact List.cons_prefix_cons.mpr ⟨rfl, ih _⟩
      case isFalse => exact List.nil_prefix

theorem completed_all {packets : List (List UInt8 × List UInt8)} {n : Nat} (all : (streamOf packets).length ≤ n) :
    completed packets n = packets.map Prod.snd := by
  induction packets generalizing n with
  | nil => rfl
  | cons p packets ih =>
      obtain ⟨packet, frame⟩ := p
      have split : (streamOf ((packet, frame) :: packets)).length = packet.length + (streamOf packets).length := by
        simp [streamOf]
      rw [completed, if_pos (by omega), ih (by omega)]
      rfl

/-- A client that has fed all it got has put the frames that are complete. -/
theorem Settled.delivered {origin : FrameAssembler} {state : Receiving} (settled : Settled origin state)
    {packets : List (List UInt8 × List UInt8)} (valid : ∀ p ∈ packets, IsPacketOf origin p.1 p.2)
    (inside : state.received <+: streamOf packets) : state.Delivered packets := by
  obtain ⟨feeding, tracks, ends⟩ := settled
  obtain ⟨sink, isSink, -, frames⟩ := tracks.frames
  obtain ⟨pending, skip, -, -, parsed⟩ := tracks.follows.parsed
  rw [ends, List.take_length] at parsed
  have complete := (parse_packets valid inside 0).1
  rw [parsed] at complete
  rw [Receiving.Delivered, isSink, Option.map_some, frames]
  exact congrArg some complete

/-! ## The endpoints -/

/-- With nothing left to send, the client of the second endpoint has got all that was queued. -/
theorem Network.InSession.complete {net : Network} {ab ba : Nat} (inSession : net.InSession ab ba)
    (nothing : net.a.outgoing = []) : (acceptedPayloads net.b.log).flatten = queuedBytes net.a.log := by
  have delivers := inSession.delivers
  apply delivers.1.eq_of_length_le
  apply Nat.le_trans _ delivers.2
  obtain ⟨cfg, cfg', out, in_, flights, flights', session⟩ := inSession
  obtain ⟨rest, isQueued, isOutgoing⟩ := session.a.sends.stream
  have isConsumed := session.a.sends.consumed
  rw [nothing] at isOutgoing
  obtain ⟨sent, rfl⟩ := List.append_eq_nil_iff.mp isOutgoing.symm
  change queuedBytes net.a.log = _ at isQueued
  change consumedBytes net.a.log = _ at isConsumed
  rw [isQueued, isConsumed, List.append_nil]
  conv_lhs => rw [← List.take_append_drop out.base out.sent, List.flatten_append, sent, List.append_nil]

/-- No payload without a byte is accepted in a session. -/
theorem Network.InSession.nonempty {net : Network} {ab ba : Nat} (inSession : net.InSession ab ba) :
    ∀ payload ∈ acceptedPayloads net.b.log, payload ≠ [] := by
  obtain ⟨cfg, cfg', out, in_, flights, flights', session⟩ := inSession
  have isAccepted := session.b.receives.accepted
  change acceptedPayloads net.b.log = _ at isAccepted
  rw [isAccepted]
  exact fun payload member => session.a.sends.nonempty payload (List.mem_of_mem_take member)

theorem Network.InSession.ready {net : Network} {ab ba : Nat} (inSession : net.InSession ab ba) :
    net.a.protocol.state = .ready := by
  obtain ⟨cfg, cfg', out, in_, flights, flights', session⟩ := inSession
  exact session.a.ready

/-- The packets on the wire are not for control. -/
theorem Network.InSession.isData {net : Network} {ab ba : Nat} (inSession : net.InSession ab ba)
    {packet : List UInt8} (there : packet ∈ net.b.wire) (nonempty : packet ≠ []) :
    packet.headD 0 &&& packetTypeMask ≠ packetTypeControl := by
  obtain ⟨cfg, cfg', out, in_, flights, flights', session⟩ := inSession
  rw [session.b.wire] at there
  obtain ⟨flight, member, rfl⟩ := List.mem_map.mp there
  cases flight with
  | packet ack payload => exact encode_notControl nonempty
  | control bytes => exact (session.packets' _ member).elim

theorem Network.InSession.same {net : Network} {ab ba : Nat} (inSession : net.InSession ab ba) {a : Endpoint}
    (same : SameWindow net.a a) : ({ net with a := a } : Network).InSession ab ba := by
  obtain ⟨cfg, cfg', out, in_, flights, flights', session⟩ := inSession
  exact ⟨cfg, cfg', out, in_, flights, flights', session.a.congr same, session.b, session.validOut, session.validIn,
    session.caughtUpOut, session.caughtUpIn, session.packets, session.packets'⟩

/-! ## The inbound buffer of a client -/

theorem consumeIncomingData_psn (in_ : Inbound) (n : Nat) :
    (in_.consumeIncomingData n).1.nextExpectedDataPsn = in_.nextExpectedDataPsn := by
  unfold Inbound.consumeIncomingData
  split <;> rfl

namespace GenericClient

theorem consume_psn (client : GenericClient) (consumed available : Nat) :
    (client.consume consumed available).1.in_.nextExpectedDataPsn = client.in_.nextExpectedDataPsn := by
  unfold consume
  split
  case isTrue => exact consumeIncomingData_psn _ _
  case isFalse => rfl

theorem forward_psn (client : GenericClient) (sink : Sink) (frame : Option (List UInt8)) (consumed available : Nat) :
    (client.forward sink frame consumed available).1.in_.nextExpectedDataPsn = client.in_.nextExpectedDataPsn := by
  cases frame with
  | none => exact consume_psn client consumed available
  | some frame =>
      unfold forward
      dsimp only
      obtain ⟨sink', result⟩ := sink.putData frame
      cases result with
      | error e => rfl
      | ok _ => exact consume_psn _ consumed available

theorem feedAvailable_psn {client client' : GenericClient} {sink : Sink} {again : Bool}
    (feeds : client.feedAvailable sink = .ok (client', again)) :
    client'.in_.nextExpectedDataPsn = client.in_.nextExpectedDataPsn := by
  unfold feedAvailable at feeds
  obtain ⟨⟨offset, size⟩, -, feeds⟩ := bind_ok feeds
  dsimp only at feeds
  split at feeds
  case isTrue =>
      cases feeds
      rfl
  case isFalse =>
      obtain ⟨read, -, feeds⟩ := bind_ok feeds
      cases read with
      | error e =>
          cases feeds
          rfl
      | ok bytes =>
          obtain ⟨buffer, -, feeds⟩ := bind_ok feeds
          obtain ⟨⟨assembler, consumed, result⟩, -, feeds⟩ := bind_ok feeds
          have forwards := congrArg Prod.fst (Except.ok.inj feeds)
          rw [← show _ = client' from forwards]
          exact forward_psn _ _ _ _ _

theorem feedWhileAvailable_psn {turns : Nat} {client client' : GenericClient}
    (feeds : feedWhileAvailable turns client = .ok client') :
    client'.in_.nextExpectedDataPsn = client.in_.nextExpectedDataPsn := by
  induction turns generalizing client with
  | zero => cases feeds
  | succ turns ih =>
      unfold feedWhileAvailable at feeds
      cases isSink : client.sink with
      | none =>
          rw [isSink] at feeds
          cases feeds
          rfl
      | some sink =>
          rw [isSink] at feeds
          obtain ⟨⟨between, again⟩, first, feeds⟩ := bind_ok feeds
          have psn := feedAvailable_psn first
          cases again with
          | true => exact (ih feeds).trans psn
          | false =>
              cases feeds
              exact psn

end GenericClient

theorem setIn_same {side : Endpoint} {in_ : Inbound}
    (psn : in_.nextExpectedDataPsn = side.protocol.in_.nextExpectedDataPsn) (free : in_.payloadBufferFull = false) :
    SameWindow side (side.setIn in_) :=
  ⟨rfl, rfl, rfl, rfl, psn, fun _ => free, rfl, id, rfl, rfl, .inl rfl⟩

/-! ## The clients in a session -/

/-- What a client has written makes packets for an assembler, and the ring buffer is what its protocol sends from. -/
structure Writing (peer : FrameAssembler) (client : FramedClient) : Prop where
  formed : client.outputBuffer.WellFormed
  contents : client.outputBuffer.contents = client.endpoint.outgoing
  workspace : client.frameSerializer.workspace.length = FrameSerializer.workspaceSize
  config : client.frameSerializer.ipConfig = peer.ipConfig
  noMap : peer.ipMap = none
  packets : ∃ packets, queuedBytes client.endpoint.log = streamOf packets ∧
    (∀ p ∈ packets, IsPacketOf peer p.1 p.2) ∧
    List.Forall₂ (Arrives peer.ipConfig) client.taken (packets.map Prod.snd)

/-- A client, and all the bytes that its protocol has accepted. -/
def FramedClient.receiving (client : FramedClient) : Receiving :=
  ⟨⟨client.endpoint.protocol.in_, client.frameAssembler, client.sink⟩, (acceptedPayloads client.endpoint.log).flatten⟩

/-- The packets of a peer are a stream for the assembler of a client. -/
theorem Writing.sound {assembler : FrameAssembler} {client : FramedClient} (writing : Writing assembler client)
    {stream : List UInt8} (inside : stream <+: queuedBytes client.endpoint.log) :
    (parse (FrameAssembler.packetFrame assembler.ipConfig assembler.ipMap) assembler.bufferSize 0
      stream).ending.toOption.isSome := by
  obtain ⟨packets, queued, valid, -⟩ := writing.packets
  rw [queued] at inside
  exact (parse_packets valid inside 0).2

/-- Two clients in the middle of a session, with the assemblers as they were at its beginning. -/
structure Sound (net : FramedNetwork) (ab ba : Nat) (assembler assembler' : FrameAssembler) : Prop where
  inSession : net.endpoints.InSession ab ba
  writing : Writing assembler' net.a
  writing' : Writing assembler net.b
  settled : Settled assembler net.a.receiving
  settled' : Settled assembler' net.b.receiving

/-! ## The callbacks -/

theorem queuedBytes_sessionEvents (stalled : Option UInt32) (consumed : Option Nat) (payload : Option (List UInt8)) :
    queuedBytes (sessionEvents stalled consumed payload) = [] := by
  cases stalled <;> cases consumed <;> cases payload <;> rfl

theorem acceptedPayloads_sessionEvents (stalled : Option UInt32) (consumed : Option Nat) (payload : Option (List UInt8)) :
    acceptedPayloads (sessionEvents stalled consumed payload) = payload.toList := by
  cases stalled <;> cases consumed <;> cases payload <;> rfl

/-- The stall does nothing, the ack moves what it acks out of the ring buffer, and then the payload comes. -/
theorem follow_eq {client : FramedClient} {endpoint : Endpoint} {stalled : Option UInt32} {consumed : Option Nat}
    {payload : Option (List UInt8)} (told : Told client.endpoint (sessionEvents stalled consumed payload) endpoint)
    {heard : FramedClient}
    (hears : consumed.elim { client with endpoint := endpoint } { client with endpoint := endpoint }.consumeOutgoingData = heard) :
    client.follow endpoint = payload.elim (.ok heard) fun _ => heard.notifyIncomingDataAvailable := by
  have front : ((stalled.map Event.sessionStalled).toList ++ (consumed.map Event.consumeOutgoingData).toList).foldlM
      FramedClient.hear { client with endpoint := endpoint } = .ok heard := by
    rw [← hears]
    cases stalled <;> cases consumed <;> rfl
  unfold FramedClient.follow sessionEvents at *
  rw [told.log, List.drop_left, ← List.append_assoc, List.foldlM_append, front, ok_bind]
  cases payload with
  | none => rfl
  | some payload =>
      change (heard.notifyIncomingDataAvailable >>= pure : Access FramedClient) = _
      rw [bind_pure]
      rfl

/-- The ring buffer goes along with the queue of the protocol, and the client hears of a payload in the end. -/
theorem follow_session {peer : FrameAssembler} {client : FramedClient} (writing : Writing peer client) {endpoint : Endpoint}
    {stalled : Option UInt32} {consumed : Option Nat} {payload : Option (List UInt8)}
    (told : Told client.endpoint (sessionEvents stalled consumed payload) endpoint) :
    ∃ outputBuffer : RingBuffer, outputBuffer.WellFormed ∧ outputBuffer.contents = endpoint.outgoing ∧
      client.follow endpoint =
        payload.elim (.ok { client with endpoint := endpoint, outputBuffer := outputBuffer }) fun _ =>
          { client with endpoint := endpoint, outputBuffer := outputBuffer }.notifyIncomingDataAvailable := by
  have formed := writing.formed
  have outgoing := congrArg Prod.fst told.state
  have available : client.outputBuffer.getAvailable = client.endpoint.outgoing.length := by
    rw [← writing.contents, formed.length_contents]
  cases consumed with
  | none =>
      have same : endpoint.outgoing = client.endpoint.outgoing := by
        cases stalled <;> cases payload <;> exact outgoing
      exact ⟨client.outputBuffer, formed, writing.contents.trans same.symm, follow_eq told rfl⟩
  | some n =>
      have dropped : endpoint.outgoing =
          if client.endpoint.outgoing.length ≥ n then client.endpoint.outgoing.drop n else client.endpoint.outgoing := by
        cases stalled <;> cases payload <;> exact outgoing
      by_cases enough : client.outputBuffer.getAvailable ≥ n
      · obtain ⟨formed', contents'⟩ := RingBuffer.moveOut_spec formed enough
        refine ⟨client.outputBuffer.moveOut n, formed', ?_, ?_⟩
        · rw [contents', writing.contents, dropped, if_pos (available ▸ enough)]
        · rw [follow_eq told rfl]
          simp only [Option.elim_some, FramedClient.consumeOutgoingData, if_pos enough]
      · refine ⟨client.outputBuffer, formed, ?_, ?_⟩
        · rw [writing.contents, dropped, if_neg (available ▸ enough)]
        · rw [follow_eq told rfl]
          simp only [Option.elim_some, FramedClient.consumeOutgoingData, if_neg enough]

/-- The client feeds what the protocol has, and the buffer of the protocol is free again. -/
theorem notify_settles {client : FramedClient} {assembler : FrameAssembler} {feeding : Feeding}
    (tracks : Tracks assembler client.receiving.received client.receiving.client feeding)
    (sound : (parse (FrameAssembler.packetFrame assembler.ipConfig assembler.ipMap) assembler.bufferSize 0
      client.receiving.received).ending.toOption.isSome) :
    ∃ in_ frameAssembler sink, client.notifyIncomingDataAvailable = .ok { client with
        endpoint := client.endpoint.setIn in_
        frameAssembler := frameAssembler
        sink := sink } ∧
      SameWindow client.endpoint (client.endpoint.setIn in_) ∧
      Settled assembler ⟨⟨in_, frameAssembler, sink⟩, client.receiving.received⟩ := by
  obtain ⟨after, feeding', feeds, tracks', ends⟩ := notifyIncomingDataAvailable_tracks tracks sound
  have settled : Settled assembler ⟨after, client.receiving.received⟩ := ⟨feeding', tracks', ends⟩
  have psn := GenericClient.feedWhileAvailable_psn feeds
  refine ⟨after.in_, after.frameAssembler, after.sink, ?_, setIn_same psn settled.free, settled⟩
  unfold FramedClient.receiving at feeds
  unfold FramedClient.notifyIncomingDataAvailable
  rw [feeds]
  rfl

/-- Behind the callbacks, the client is in the session again. -/
theorem Sound.follow {net : FramedNetwork} {ab ba : Nat} {assembler assembler' : FrameAssembler}
    (sound : Sound net ab ba assembler assembler') {b : FramedClient} (writing' : Writing assembler b)
    (settled' : Settled assembler' b.receiving) {endpoint : Endpoint}
    (inSession : Network.InSession ⟨endpoint, b.endpoint⟩ ab ba) {stalled : Option UInt32} {consumed : Option Nat}
    {payload : Option (List UInt8)}
    (told : Told net.a.endpoint (sessionEvents stalled consumed payload) endpoint) :
    ∃ a, net.a.follow endpoint = .ok a ∧ Sound ⟨a, b⟩ ab ba assembler assembler' := by
  obtain ⟨outputBuffer, formed, contents, follows⟩ := follow_session sound.writing told
  obtain ⟨packets, queued, valid, taken⟩ := sound.writing.packets
  have queued' : queuedBytes endpoint.log = streamOf packets := by
    rw [told.log, queuedBytes_append, queuedBytes_sessionEvents, List.append_nil, queued]
  have accepted : acceptedPayloads endpoint.log = acceptedPayloads net.a.endpoint.log ++ payload.toList := by
    rw [told.log, acceptedPayloads_append, acceptedPayloads_sessionEvents]
  have writes : Writing assembler' { net.a with endpoint := endpoint, outputBuffer := outputBuffer } :=
    ⟨formed, contents, sound.writing.workspace, sound.writing.config, sound.writing.noMap, packets, queued', valid, taken⟩
  have in_ := congrArg Prod.snd told.state
  rw [follows]
  cases payload with
  | none =>
      have same : endpoint.protocol.in_ = net.a.endpoint.protocol.in_ := by
        cases stalled <;> cases consumed <;> exact in_
      refine ⟨_, rfl, inSession, writes, writing', ?_, settled'⟩
      have settled := sound.settled
      unfold FramedClient.receiving at settled ⊢
      rw [same, accepted, Option.toList_none, List.append_nil]
      exact settled
  | some payload =>
      have isAccepted : endpoint.protocol.in_ = .accept net.a.endpoint.protocol.in_.nextExpectedDataPsn payload := by
        cases stalled <;> cases consumed <;> exact in_
      have received : (acceptedPayloads endpoint.log).flatten = net.a.receiving.received ++ payload := by
        rw [accepted, Option.toList_some, List.flatten_append, List.flatten_singleton]
        rfl
      have nonempty : payload ≠ [] := by
        apply inSession.swap.nonempty payload
        change payload ∈ acceptedPayloads endpoint.log
        rw [accepted]
        exact List.mem_append_right _ (List.mem_singleton_self _)
      have inside := writing'.sound inSession.swap.delivers.1
      change (parse _ _ 0 (acceptedPayloads endpoint.log).flatten).ending.toOption.isSome at inside
      obtain ⟨feeding, tracks, ends⟩ := sound.settled
      let heard := { net.a with endpoint := endpoint, outputBuffer := outputBuffer }
      have started : Tracks assembler heard.receiving.received heard.receiving.client feeding := by
        unfold FramedClient.receiving
        dsimp only
        rw [received, isAccepted]
        refine ⟨tracks.follows.extend payload, tracks.assembler, ?_, Inbound.accept_filled _ nonempty, tracks.frames⟩
        rw [ends, List.drop_left]
        rfl
      obtain ⟨in', frameAssembler, sink, notifies, same, settled⟩ := notify_settles started inside
      refine ⟨_, notifies, inSession.same same, ?_, writing', settled, settled'⟩
      exact ⟨writes.formed, writes.contents, writes.workspace, writes.config, writes.noMap, packets, queued', valid, taken⟩

theorem Sound.swap {net : FramedNetwork} {ab ba : Nat} {assembler assembler' : FrameAssembler}
    (sound : Sound net ab ba assembler assembler') : Sound net.swap ba ab assembler' assembler :=
  ⟨sound.inSession.swap, sound.writing', sound.writing, sound.settled', sound.settled⟩

/-! ## One step -/

section Steps

variable {turns ab ba : Nat} (abSmall : 2 * ab ≤ snWindowSize) (baSmall : 2 * ba ≤ snWindowSize)
  (enough : snWindowSize < turns)
include abSmall baSmall enough

theorem calls_inSession {net : Network} (inSession : net.InSession ab ba) {clientCalls : List ClientCall}
    (sized : ∀ clientCall ∈ clientCalls, clientCall.Sized) :
    ∃ a, net.a.calls turns clientCalls = .ok a ∧ ({ net with a := a } : Network).InSession ab ba := by
  induction clientCalls generalizing net with
  | nil => exact ⟨net.a, rfl, inSession⟩
  | cons clientCall rest ih =>
      have later : ∀ other ∈ rest, other.Sized := fun other member => sized other (List.mem_cons_of_mem _ member)
      have first : (Action.call clientCall).Sized := sized clientCall List.mem_cons_self
      obtain ⟨net', acts, inSession'⟩ := act_inSession abSmall baSmall enough inSession first
      obtain ⟨a, calls, isNet⟩ := bind_ok acts
      cases isNet
      obtain ⟨last, callsRest, inSessionLast⟩ := ih inSession' later
      refine ⟨last, ?_, inSessionLast⟩
      unfold Endpoint.calls
      rw [List.foldlM_cons, calls]
      exact callsRest

/-- The serializer takes nothing of the frame, or all of it. -/
theorem Sound.put {net : FramedNetwork} {assembler assembler' : FrameAssembler}
    (sound : Sound net ab ba assembler assembler') {frame : List UInt8} (wellFormed : WellFormed frame)
    (fits : frame.length ≤ assembler'.bufferSize) :
    ∃ a result, net.a.putData turns frame = .ok (a, result) ∧ Sound ⟨a, net.b⟩ ab ba assembler assembler' := by
  have same : Sound ⟨net.a, net.b⟩ ab ba assembler assembler' := sound
  obtain ⟨formed, contents, workspace, config, noMap, packets, queued, valid, taken⟩ := sound.writing
  unfold FramedClient.putData
  by_cases closed : ¬ net.a.sessionOpen = true
  · exact ⟨net.a, .error .wouldBlock, if_pos closed, same⟩
  rw [if_neg closed]
  by_cases full : frame.length > net.a.outputBuffer.getSpace
  · exact ⟨net.a, .error .wouldBlock, if_pos full, same⟩
  rw [if_neg full]
  obtain ⟨e, fails⟩ | ⟨serializer, ring, packet, frame', serializes, contents', announces, long, small, emits, arrives⟩ :=
    serializeFrame_packs wellFormed workspace formed
  · exact ⟨net.a, .error e, by rw [fails]; rfl, same⟩
  obtain ⟨formed', config', workspace'⟩ := serializeFrame_keeps formed serializes
  have written : ring.contents.drop net.a.outputBuffer.contents.length = packet := by
    rw [contents', List.drop_left]
  obtain ⟨endpoint, calls, inSession⟩ := @calls_inSession turns ab ba abSmall baSmall enough net.endpoints sound.inSession
    [.queue packet, .notifyOutgoingDataAvailable] (by simp [ClientCall.Sized])
  obtain ⟨between, queues, notifies⟩ := bind_ok calls
  obtain ⟨last, sends, isLast⟩ := bind_ok notifies
  cases queues
  cases isLast
  have queuing : Told net.a.endpoint [Event.queued packet]
      { net.a.endpoint.notify (.queued packet) with outgoing := net.a.endpoint.outgoing ++ packet } := ⟨rfl, rfl⟩
  have told := queuing.trans (.sendNextPackets sends)
  have outgoing : endpoint.outgoing = net.a.endpoint.outgoing ++ packet := congrArg Prod.fst told.state
  have in_ : endpoint.protocol.in_ = net.a.endpoint.protocol.in_ := congrArg Prod.snd told.state
  refine ⟨{ net.a with
    endpoint := endpoint
    frameSerializer := serializer
    outputBuffer := ring
    taken := net.a.taken ++ [frame] }, .ok (), ?_, inSession, ?_, sound.writing', ?_, sound.settled'⟩
  · rw [serializes, ok_bind]
    dsimp only
    rw [written]
    change (Endpoint.calls turns net.endpoints.a [.queue packet, .notifyOutgoingDataAvailable] >>= _) = _
    rw [calls]
    rfl
  · refine ⟨formed', ?_, workspace'.trans workspace, config'.trans config, noMap, packets ++ [(packet, frame')], ?_, ?_, ?_⟩
    · rw [contents', contents, outgoing]
    · rw [told.log, queuedBytes_append, queued]
      simp [queuedBytes, streamOf]
    · intro p member
      obtain old | new := List.mem_append.mp member
      · exact valid p old
      · obtain rfl := List.mem_singleton.mp new
        refine ⟨long, small.trans fits, announces, ?_⟩
        rw [← config, noMap]
        exact emits
    · rw [List.map_append]
      apply List.rel_append taken
      exact .cons (config ▸ arrives) .nil
  · have settled := sound.settled
    unfold FramedClient.receiving at settled ⊢
    dsimp only
    rw [in_, told.log]
    simpa [acceptedPayloads] using settled

/-- A frame that is put can be sent, and the assembler of the peer has room for it. -/
def FrameAction.Fits (size : Nat) : FrameAction → Prop
  | .put frame => WellFormed frame ∧ frame.length ≤ size
  | _ => True

theorem Sound.act {net : FramedNetwork} {assembler assembler' : FrameAssembler}
    (sound : Sound net ab ba assembler assembler') {action : FrameAction} (fits : action.Fits assembler'.bufferSize) :
    ∃ net', net.act turns action = .ok net' ∧ Sound net' ab ba assembler assembler' := by
  have acts : ∀ {action : Action}, action.Sized →
      ∃ endpoints, net.endpoints.act turns action = .ok endpoints ∧ endpoints.InSession ab ba :=
    fun sized => act_inSession abSmall baSmall enough sound.inSession sized
  have left (wire : List (List UInt8)) : Writing assembler (net.b.setWire wire) :=
    ⟨sound.writing'.formed, sound.writing'.contents, sound.writing'.workspace, sound.writing'.config,
      sound.writing'.noMap, sound.writing'.packets⟩
  cases action with
  | put frame =>
      obtain ⟨a, result, puts, sound'⟩ := sound.put abSmall baSmall enough fits.1 fits.2
      exact ⟨⟨a, net.b⟩, by rw [FramedNetwork.act, puts]; rfl, sound'⟩
  | deliver =>
      cases wire : net.b.endpoint.wire with
      | nil => exact ⟨net, by rw [FramedNetwork.act, wire]; rfl, sound⟩
      | cons packet rest =>
          obtain ⟨endpoints, delivers, inSession⟩ := @acts (.deliver noReactions) (by simp [Action.Sized, Reactions.Sized, noReactions])
          unfold Network.act FramedNetwork.endpoints at delivers
          simp only [wire] at delivers
          obtain ⟨⟨endpoint, result⟩, handles, isNet⟩ := bind_ok delivers
          cases isNet
          have handles : Prod.fst <$> net.a.endpoint.handleIncomingRawData turns noReactions packet = .ok endpoint := by
            rw [handles]
            rfl
          have there : packet ∈ net.endpoints.b.wire := by
            rw [show net.endpoints.b.wire = packet :: rest from wire]
            exact List.mem_cons_self
          obtain ⟨stalled, consumed, payload, told⟩ :=
            Told.handleIncomingRawData sound.inSession.ready (sound.inSession.isData there) handles
          obtain ⟨a, follows, sound'⟩ := sound.follow (left rest) sound.settled' inSession told
          refine ⟨⟨a, net.b.setWire rest⟩, ?_, sound'⟩
          rw [FramedNetwork.act, wire]
          unfold FramedClient.transportPutData
          dsimp only
          rw [handles, ok_bind, follows]
          rfl
  | drop index =>
      obtain ⟨endpoints, drops, inSession⟩ := @acts (.drop index) trivial
      cases drops
      refine ⟨_, rfl, inSession, ?_, sound.writing', sound.settled, sound.settled'⟩
      exact ⟨sound.writing.formed, sound.writing.contents, sound.writing.workspace, sound.writing.config,
        sound.writing.noMap, sound.writing.packets⟩
  | ackTimer =>
      obtain ⟨endpoints, acted, inSession⟩ := @acts .ackTimer trivial
      obtain ⟨endpoint, fires, isNet⟩ := bind_ok acted
      cases isNet
      have told : Told net.a.endpoint (sessionEvents none none none) endpoint := .fireAckTimer fires
      obtain ⟨a, follows, sound'⟩ := sound.follow sound.writing' sound.settled' inSession told
      refine ⟨⟨a, net.b⟩, ?_, sound'⟩
      rw [FramedNetwork.act]
      unfold FramedClient.fireAckTimer
      rw [show net.a.endpoint.fireAckTimer turns = .ok endpoint from fires, ok_bind, follows]
      rfl
  | retransmitTimer elapsed =>
      obtain ⟨endpoints, acted, inSession⟩ := @acts (.retransmitTimer elapsed) trivial
      obtain ⟨endpoint, fires, isNet⟩ := bind_ok acted
      cases isNet
      obtain ⟨stalled, told⟩ := Told.fireRetransmitTimer sound.inSession.ready fires
      have told : Told net.a.endpoint (sessionEvents stalled none none) endpoint := by
        simpa [sessionEvents, FramedNetwork.endpoints] using told
      obtain ⟨a, follows, sound'⟩ := sound.follow sound.writing' sound.settled' inSession told
      refine ⟨⟨a, net.b⟩, ?_, sound'⟩
      rw [FramedNetwork.act]
      unfold FramedClient.fireRetransmitTimer
      rw [show net.a.endpoint.fireRetransmitTimer turns elapsed = .ok endpoint from fires, ok_bind, follows]
      rfl
  | userCanPut =>
      obtain ⟨feeding, tracks, ends⟩ := sound.settled
      obtain ⟨in_, frameAssembler, sink, notifies, same, settled⟩ :=
        notify_settles tracks (sound.writing'.sound sound.inSession.swap.delivers.1)
      have inSession : Network.InSession ⟨net.a.endpoint.setIn in_, net.b.endpoint⟩ ab ba :=
        @Network.InSession.same net.endpoints ab ba sound.inSession _ same
      let a := { net.a with
        endpoint := net.a.endpoint.setIn in_
        frameAssembler := frameAssembler
        sink := sink }
      refine ⟨⟨a, net.b⟩, ?_, inSession, ?_, sound.writing', settled, sound.settled'⟩
      · rw [FramedNetwork.act]
        unfold FramedClient.userOnCanPut
        rw [notifies]
        rfl
      · exact ⟨sound.writing.formed, sound.writing.contents, sound.writing.workspace, sound.writing.config,
          sound.writing.noMap, sound.writing.packets⟩
  | transportCanPut =>
      obtain ⟨endpoints, acted, inSession⟩ := @acts (.call .notifyOutgoingDataAvailable) trivial
      obtain ⟨endpoint, sends, isNet⟩ := bind_ok acted
      cases isNet
      have told : Told net.a.endpoint (sessionEvents none none none) endpoint := .sendNextPackets sends
      obtain ⟨a, follows, sound'⟩ := sound.follow sound.writing' sound.settled' inSession told
      refine ⟨⟨a, net.b⟩, ?_, sound'⟩
      rw [FramedNetwork.act]
      unfold FramedClient.transportOnCanPut
      rw [show net.a.endpoint.notifyOutgoingDataAvailable turns = .ok endpoint from sends, ok_bind, follows]
      rfl

end Steps

/-! ## Runs -/

/-- The frames fit the peer of the client that they are put to. -/
def FitsPeer (size size' : Nat) : Party × FrameAction → Prop
  | (.a, action) => action.Fits size'
  | (.b, action) => action.Fits size

theorem Sound.run {turns ab ba : Nat} (abSmall : 2 * ab ≤ snWindowSize) (baSmall : 2 * ba ≤ snWindowSize)
    (enough : snWindowSize < turns) {net : FramedNetwork} {assembler assembler' : FrameAssembler}
    (sound : Sound net ab ba assembler assembler') {steps : List (Party × FrameAction)}
    (fits : ∀ step ∈ steps, FitsPeer assembler.bufferSize assembler'.bufferSize step) :
    ∃ net', net.run turns steps = .ok net' ∧ Sound net' ab ba assembler assembler' := by
  refine @Runs.run_goes _ _ _ _ _ _ (Sound · ab ba assembler assembler') ?_ sound _ fits
  rintro net ⟨party, action⟩ sound fits
  cases party with
  | a => exact sound.act abSmall baSmall enough fits
  | b =>
      obtain ⟨net', acts, sound'⟩ := sound.swap.act baSmall abSmall enough fits
      exact ⟨net'.swap, by rw [FramedNetwork.step, acts]; rfl, sound'.swap⟩

/-! ## What the users get -/

/-- What came out at the sink of the second client is made of the frames that the first one has taken, one after
    the other from the beginning; and of all of them, once there is nothing in the ring buffer. -/
def FramedNetwork.DeliversFrames (net : FramedNetwork) (ipConfig : Option IpConfig) : Prop :=
  ∃ sink arrived rest, net.b.sink = some sink ∧ net.a.taken = arrived ++ rest ∧
    List.Forall₂ (Arrives ipConfig) arrived sink.frames ∧ (net.a.outputBuffer.getAvailable = 0 → rest = [])

theorem Sound.delivers {net : FramedNetwork} {ab ba : Nat} {assembler assembler' : FrameAssembler}
    (sound : Sound net ab ba assembler assembler') : net.DeliversFrames assembler'.ipConfig := by
  obtain ⟨packets, queued, valid, taken⟩ := sound.writing.packets
  have inside : net.b.receiving.received <+: streamOf packets := queued ▸ sound.inSession.delivers.1
  have delivered := sound.settled'.delivered valid inside
  obtain ⟨sink, isSink, frames⟩ := Option.map_eq_some_iff.mp delivered
  obtain ⟨others, split⟩ := completed_prefix packets net.b.receiving.received.length
  rw [← split, ← frames] at taken
  refine ⟨sink, net.a.taken.take sink.frames.length, net.a.taken.drop sink.frames.length, isSink,
    (List.take_append_drop _ _).symm, List.forall₂_take_append _ _ _ taken, ?_⟩
  intro nothing
  have none_ : net.endpoints.a.outgoing = [] := by
    apply List.length_eq_zero_iff.mp
    change net.a.endpoint.outgoing.length = 0
    rw [← sound.writing.contents, sound.writing.formed.length_contents, nothing]
  have all : net.b.receiving.received = streamOf packets := (sound.inSession.complete none_).trans queued
  have complete := completed_all (Nat.le_of_eq (congrArg List.length all).symm)
  rw [complete] at split
  apply List.drop_eq_nil_of_le
  rw [taken.length_eq, frames, complete, split]

/-- A client at the beginning of a session, whose sink takes every frame. -/
structure FramedClient.Fresh (client : FramedClient) (tx rx : Nat) : Prop where
  endpoint : client.endpoint.Fresh tx rx
  nothing : client.endpoint.outgoing = []
  formed : client.outputBuffer.WellFormed
  empty : client.outputBuffer.contents = []
  workspace : client.frameSerializer.workspace.length = FrameSerializer.workspaceSize
  idle : Ipv4.Keeps client.frameAssembler [] 0
  noMap : client.frameAssembler.ipMap = none
  sink : client.sink = some ⟨[], []⟩
  taken : client.taken = []

theorem FramedClient.Fresh.writing {client peer : FramedClient} {tx rx tx' rx' : Nat} (fresh : client.Fresh tx rx)
    (freshPeer : peer.Fresh tx' rx') (agrees : client.frameSerializer.ipConfig = peer.frameAssembler.ipConfig) :
    Writing peer.frameAssembler client := by
  obtain ⟨-, -, -, -, -, -, -, -, queued, -⟩ := fresh.endpoint
  refine ⟨fresh.formed, fresh.empty.trans fresh.nothing.symm, fresh.workspace, agrees, freshPeer.noMap, [], ?_, ?_, ?_⟩
  · rw [queued, fresh.nothing]
    rfl
  · intro p member
    cases member
  · rw [fresh.taken]
    exact .nil

theorem FramedClient.Fresh.settled {client : FramedClient} {tx rx : Nat} (fresh : client.Fresh tx rx) :
    Settled client.frameAssembler client.receiving := by
  obtain ⟨-, -, -, -, in_, -, -, -, -, accepted, -⟩ := fresh.endpoint
  unfold FramedClient.receiving
  rw [in_, accepted]
  refine ⟨⟨client.frameAssembler, 0, [], []⟩, ⟨?_, rfl, rfl, ?_, ⟨⟨[], []⟩, fresh.sink, ?_, rfl⟩⟩, rfl⟩
  · exact
      { same := ⟨rfl, rfl, rfl⟩
        inside := Nat.zero_le _
        parsed := ⟨[], 0, fresh.idle, le_rfl, parse_short (by simp) 0⟩ }
  · intro full
    cases full
  · intro result member
    cases member

/-- Over every run of two clients in a fresh session, with at most half of the serial numbers in a window, whose
    sinks take every frame: the frames that either user puts come out at the other one, each once and in order. -/
theorem frames_of_run {turns ab ba : Nat} {net : FramedNetwork} (enough : snWindowSize < turns)
    (abSmall : ab ≤ 16) (baSmall : ba ≤ 16) (freshA : net.a.Fresh ab ba) (freshB : net.b.Fresh ba ab)
    (agrees : net.a.frameSerializer.ipConfig = net.b.frameAssembler.ipConfig)
    (agrees' : net.b.frameSerializer.ipConfig = net.a.frameAssembler.ipConfig)
    {steps : List (Party × FrameAction)}
    (fits : ∀ step ∈ steps, FitsPeer net.a.frameAssembler.bufferSize net.b.frameAssembler.bufferSize step) :
    ∃ net', net.run turns steps = .ok net' ∧ net'.DeliversFrames net.b.frameAssembler.ipConfig ∧
      net'.swap.DeliversFrames net.a.frameAssembler.ipConfig := by
  have start : Sound net ab ba net.a.frameAssembler net.b.frameAssembler :=
    { inSession := Endpoint.Fresh.inSession freshA.endpoint freshB.endpoint
      writing := freshA.writing freshB agrees
      writing' := freshB.writing freshA agrees'
      settled := freshA.settled
      settled' := freshB.settled }
  have abTwice : 2 * ab ≤ snWindowSize := by
    unfold snWindowSize
    omega
  have baTwice : 2 * ba ≤ snWindowSize := by
    unfold snWindowSize
    omega
  obtain ⟨net', runs, sound⟩ := start.run abTwice baTwice enough fits
  exact ⟨net', runs, sound.delivers, sound.swap.delivers⟩

/-- A client in a new session, with a ring buffer of 64 bytes. -/
def freshClient : FramedClient where
  endpoint := freshEndpoint
  sessionOpen := true
  frameSerializer := .create none
  outputBuffer := .init (List.replicate 64 0)
  frameAssembler := emptyAssembler none
  sink := some ⟨[], []⟩
  taken := []

theorem freshClient_fresh : freshClient.Fresh 8 8 :=
  ⟨freshEndpoint_fresh, rfl, RingBuffer.wellFormed_init (by simp), rfl, by decide, emptyAssembler_keeps none, rfl, rfl, rfl⟩

/-- A frame in two packets, of which the first one is lost and sent again. -/
def lossyFrame : List (Party × FrameAction) :=
  [(.a, .put tcpFrame), (.a, .drop 0), (.a, .retransmitTimer 4000), (.b, .deliver), (.b, .deliver), (.b, .deliver),
    (.b, .ackTimer), (.a, .deliver)]

theorem frames_of_lossyFrame :
    ∃ net', (⟨freshClient, freshClient⟩ : FramedNetwork).run 33 lossyFrame = .ok net' ∧
      net'.a.taken = [tcpFrame] ∧ net'.a.outputBuffer.getAvailable = 0 ∧
      net'.DeliversFrames none ∧ net'.swap.DeliversFrames none := by
  have fits : ∀ step ∈ lossyFrame, FitsPeer 64 64 step := by
    simp [lossyFrame, FitsPeer, FrameAction.Fits, tcpFrame_wellFormed, show tcpFrame.length ≤ 64 by decide]
  obtain ⟨net', runs, delivers⟩ := @frames_of_run 33 8 8 ⟨freshClient, freshClient⟩ (by decide) (by decide) (by decide)
    freshClient_fresh freshClient_fresh rfl rfl lossyFrame fits
  have seen : ((⟨freshClient, freshClient⟩ : FramedNetwork).run 33 lossyFrame).map
      (fun net => (net.a.taken, net.a.outputBuffer.getAvailable)) = .ok ([tcpFrame], 0) := by
    rfl
  rw [runs] at seen
  have both := Prod.mk.inj (Except.ok.inj seen)
  exact ⟨net', runs, both.1, both.2, delivers⟩

end GoldenGate.Gattlink

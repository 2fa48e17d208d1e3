import GoldenGate.Gattlink.Protocol
import GoldenGate.Protocols.Ipv4Chunking

/-! # Frames of the generic client

The incoming side of `gg_gattlink_generic_client.c`: the payloads of Gattlink packets
are fed to the frame assembler, and its frames are put to the sink of the user side. A
frame that the sink refuses is lost: the assembler has let go of it, while the protocol
still has its last bytes and feeds them again as if a frame began with them.
-/

namespace GoldenGate.Gattlink

open Memory Ipv4

/-- The sink of the user side: the results of the next puts, behind which it accepts
    everything, and the frames it has accepted. -/
structure Sink where
  results : List (Except Error Unit)
  frames : List (List UInt8)

/-- `GG_DataSink_PutData`. -/
def Sink.putData (self : Sink) (frame : List UInt8) : Sink × Except Error Unit :=
  match self.results with
  | .error e :: rest => ({ self with results := rest }, .error e)
  | results => (⟨results.tail, self.frames ++ [frame]⟩, .ok ())

/-- `GG_GattlinkGenericClient`: what the incoming side uses. -/
structure GenericClient where
  in_ : Inbound
  frameAssembler : FrameAssembler
  sink : Option Sink

namespace GenericClient

/-- The end of a turn: consume the data. Says whether there is another turn. -/
def consume (self : GenericClient) (feedBufferSize bytesAvailable : Nat) : GenericClient × Bool :=
  if feedBufferSize ≠ 0 then
    ({ self with in_ := (self.in_.consumeIncomingData feedBufferSize).1 },
      feedBufferSize ≠ bytesAvailable)
  else (self, false)

/-- Put the frame if there is one; the data of a frame that is refused is not consumed. -/
def forward (self : GenericClient) (sink : Sink) (frame : Option (List UInt8))
    (feedBufferSize bytesAvailable : Nat) : GenericClient × Bool :=
  match frame with
  | none => self.consume feedBufferSize bytesAvailable
  | some frame =>
      match sink.putData frame with
      | (sink, .error _) => ({ self with sink := some sink }, false)
      | (sink, .ok _) => { self with sink := some sink }.consume feedBufferSize bytesAvailable

/-- The frame of a feed, if there is one. -/
def fedFrame : Except Error (Option (List UInt8)) → Option (List UInt8)
  | .ok frame => frame
  | .error _ => none

/-- One turn of the loop in `NotifyIncomingDataAvailable`. -/
def feedAvailable (self : GenericClient) (sink : Sink) : Access (GenericClient × Bool) := do
  let (offset, feedBufferSize) ← self.frameAssembler.getFeedBuffer
  if feedBufferSize = 0 then return (self, false)
  let bytesAvailable := self.in_.getIncomingDataAvailable
  let feedBufferSize := if feedBufferSize > bytesAvailable then bytesAvailable else feedBufferSize
  match ← self.in_.getIncomingData 0 feedBufferSize with
  | .error _ => return (self, false)
  | .ok bytes =>
      let buffer ← store self.frameAssembler.buffer offset bytes
      let (frameAssembler, feedBufferSize, result) ←
        { self.frameAssembler with buffer := buffer }.feed feedBufferSize
      return { self with frameAssembler := frameAssembler }.forward sink (fedFrame result)
        feedBufferSize bytesAvailable

/-- The loop in `NotifyIncomingDataAvailable`, with a number of turns. -/
def feedWhileAvailable : Nat → GenericClient → Access GenericClient
  | 0, _ => .error .diverges
  | turns + 1, self =>
      match self.sink with
      | none => return self
      | some sink => do
          let (self, again) ← self.feedAvailable sink
          if again then feedWhileAvailable turns self else return self

/-- `GG_GattlinkGenericClient_NotifyIncomingDataAvailable`. A turn that is not the last
    consumes at least one byte. -/
def notifyIncomingDataAvailable (self : GenericClient) : Access GenericClient :=
  feedWhileAvailable (self.in_.getIncomingDataAvailable + 1) self

/-- `GG_GattlinkGenericClient_UserSide_OnCanPut`. -/
def onCanPut (self : GenericClient) : Access GenericClient := self.notifyIncomingDataAvailable

end GenericClient

/-! ## Runs -/

/-- What happens to the client: a payload comes, or the sink can take frames again. The
    results of the puts that follow are given with it. -/
inductive Arrival where
  | payload (bytes : List UInt8) (results : List (Except Error Unit))
  | canPut (results : List (Except Error Unit))

/-- The client, and the bytes of all the payloads it got. -/
structure Receiving where
  client : GenericClient
  received : List UInt8

def Receiving.setResults (self : Receiving) (results : List (Except Error Unit)) : Receiving :=
  { self with client :=
    { self.client with sink := self.client.sink.map fun sink => { sink with results := results } } }

/-- One arrival. The protocol has no place for a payload before the last one is consumed. -/
def Receiving.arrive (self : Receiving) : Arrival → Access Receiving
  | .payload bytes results => do
      let self := self.setResults results
      if self.client.in_.payloadBufferFull then return self
      let client :=
        { self.client with in_ := .accept self.client.in_.nextExpectedDataPsn bytes }
      let client ← client.notifyIncomingDataAvailable
      return ⟨client, self.received ++ bytes⟩
  | .canPut results => do
      let self := self.setResults results
      let client ← self.client.onCanPut
      return { self with client := client }

def Receiving.arriveAll (self : Receiving) (arrivals : List Arrival) : Access Receiving :=
  arrivals.foldlM arrive self

def Arrival.bytes : Arrival → List UInt8
  | .payload bytes _ => bytes
  | .canPut _ => []

/-- The sink takes every frame it gets at this arrival. -/
def Arrival.Accepted : Arrival → Prop
  | .payload _ results | .canPut results => ∀ result ∈ results, result = .ok ()

/-- A packet that the assembler makes a frame of. -/
structure IsPacketOf (assembler : FrameAssembler) (packet frame : List UInt8) : Prop where
  long : 4 ≤ packet.length
  fits : packet.length ≤ assembler.bufferSize
  announces : announced packet = packet.length
  emits : FrameAssembler.packetFrame assembler.ipConfig assembler.ipMap packet = .ok (.ok frame)

/-- The frames of the packets that are complete in the first `n` bytes of a stream of
    packets. -/
def completed : List (List UInt8 × List UInt8) → Nat → List (List UInt8)
  | [], _ => []
  | (packet, frame) :: packets, n =>
      if packet.length ≤ n then frame :: completed packets (n - packet.length) else []

def streamOf (packets : List (List UInt8 × List UInt8)) : List UInt8 :=
  (packets.map Prod.fst).flatten

/-- The frames among the results of a parse. -/
def framesOf (events : List (Nat × Except Error (List UInt8))) : List (List UInt8) :=
  events.filterMap fun event => event.2.toOption

/-! ## A stream of packets -/

/-- Parsing a stream of packets comes to the frames that are complete, and to no fault. -/
theorem parse_packets {assembler : FrameAssembler} {packets : List (List UInt8 × List UInt8)}
    (valid : ∀ p ∈ packets, IsPacketOf assembler p.1 p.2) {stream : List UInt8}
    (inside : stream <+: streamOf packets) (position : Nat) :
    let parsed := parse (FrameAssembler.packetFrame assembler.ipConfig assembler.ipMap)
      assembler.bufferSize position stream
    framesOf parsed.events = completed packets stream.length ∧ parsed.ending.toOption.isSome := by
  induction packets generalizing stream position with
  | nil =>
      obtain rfl : stream = [] := by simpa [streamOf] using inside
      rw [parse_short (by simp)]
      exact ⟨rfl, rfl⟩
  | cons p packets ih =>
      obtain ⟨packet, frame⟩ := p
      obtain ⟨long, fits, announces, emits⟩ := valid (packet, frame) List.mem_cons_self
      simp only [streamOf, List.map_cons, List.flatten_cons] at inside long fits announces emits
      by_cases short : stream.length < 4
      · rw [parse_short short]
        refine ⟨?_, rfl⟩
        rw [completed, if_neg (by omega)]
        rfl
      · obtain ⟨behind, whole⟩ := inside
        have same : announced stream = packet.length := by
          rw [← announced_append short behind, whole, announced_append (by omega), announces]
        by_cases cut : stream.length < packet.length
        · rw [parse_held short position (by omega) (by omega) (by omega)]
          refine ⟨?_, rfl⟩
          rw [completed, if_neg (by omega)]
          rfl
        · have front : stream.take packet.length = packet := by
            have fronts := congrArg (List.take packet.length) whole
            rwa [List.take_append_of_le_length (by omega), List.take_left] at fronts
          rw [parse_packet short position (by omega) (by omega) (by omega), same, front, emits]
          have rest : stream.drop packet.length <+: streamOf packets := by
            have rests := congrArg (List.drop packet.length) whole
            rw [List.drop_append_of_le_length (by omega), List.drop_left] at rests
            exact ⟨behind, rests⟩
          obtain ⟨frames, ending⟩ := ih (fun p member => valid p (List.mem_cons_of_mem _ member)) rest
            (position + packet.length)
          rw [List.length_drop] at frames
          refine ⟨?_, ending⟩
          rw [completed, if_pos (by omega), ← frames]
          rfl

/-! ## The loop -/

namespace Inbound

/-- The bytes that the client has not consumed. -/
def unconsumed (self : Inbound) : List UInt8 :=
  if self.payloadBufferFull then self.payload.drop self.bytesConsumed else []

theorem length_unconsumed (self : Inbound) :
    self.unconsumed.length = self.getIncomingDataAvailable := by
  unfold unconsumed getIncomingDataAvailable
  split
  · exact List.length_drop
  · rfl

theorem getIncomingData_unconsumed {self : Inbound} {size : Nat}
    (there : size ≤ self.getIncomingDataAvailable) :
    self.getIncomingData 0 size = .ok (.ok (self.unconsumed.take size)) := by
  have wraps := Nat.mod_le size (2 ^ 64)
  have inside : ¬ (size ≠ 0 ∧ self.bytesConsumed + 0 + size > self.payload.length) := by
    unfold getIncomingDataAvailable at there
    split at there <;> omega
  unfold getIncomingData
  rw [Nat.zero_add, if_neg (by omega), if_neg inside, Nat.add_zero]
  unfold getIncomingDataAvailable at there
  unfold unconsumed
  split at there
  · next full =>
      rw [if_pos full]
      rfl
  · next notFull =>
      obtain rfl : size = 0 := by omega
      simp

theorem consume_unconsumed {self : Inbound} {n : Nat} (there : n ≤ self.getIncomingDataAvailable) :
    (self.consumeIncomingData n).1.unconsumed = self.unconsumed.drop n := by
  unfold consumeIncomingData
  rw [if_neg (by omega)]
  unfold getIncomingDataAvailable at there
  unfold unconsumed
  by_cases full : self.payloadBufferFull = true
  · simp only [full, if_true] at there ⊢
    by_cases all : self.bytesConsumed + n = self.payload.length
    · rw [if_pos all, List.drop_drop, List.drop_eq_nil_of_le all.ge]
      rfl
    · rw [if_neg all, List.drop_drop]
      rfl
  · simp [full]

/-- A buffer that is full has something left to consume. -/
def Filled (in_ : Inbound) : Prop := in_.payloadBufferFull = true → in_.unconsumed ≠ []

theorem accept_filled (psn : Nat) {payload : List UInt8} (nonempty : payload ≠ []) :
    Filled (accept psn payload) := by
  intro _
  exact nonempty

theorem consume_filled {self : Inbound} {n : Nat} (there : n ≤ self.getIncomingDataAvailable)
    (filled : Filled self) : Filled (self.consumeIncomingData n).1 := by
  intro full
  have wasFull : self.payloadBufferFull = true := by
    unfold consumeIncomingData at full
    rw [if_neg (by omega)] at full
    by_contra empty
    simp [empty] at full
  have left : self.bytesConsumed + n ≠ self.payload.length := by
    intro all
    unfold consumeIncomingData at full
    rw [if_neg (by omega)] at full
    simp [all] at full
  have available : self.getIncomingDataAvailable = self.payload.length - self.bytesConsumed :=
    if_pos wasFull
  have remaining := filled wasFull
  rw [unconsumed, if_pos wasFull, ne_eq, List.drop_eq_nil_iff] at remaining
  rw [consume_unconsumed there, unconsumed, if_pos wasFull, List.drop_drop, ne_eq,
    List.drop_eq_nil_iff]
  omega

end Inbound

/-- The client is in the middle of a stream: its assembler has come to a position, and
    its protocol has the bytes behind it. -/
structure Tracks (origin : FrameAssembler) (stream : List UInt8) (client : GenericClient)
    (feeding : Feeding) : Prop where
  follows : Follows origin stream feeding
  assembler : client.frameAssembler = feeding.assembler
  unconsumed : client.in_.unconsumed = stream.drop feeding.position
  filled : client.in_.Filled
  frames : ∃ sink, client.sink = some sink ∧ (∀ result ∈ sink.results, result = .ok ()) ∧
    sink.frames = framesOf feeding.events

theorem putData_accepted {sink : Sink} (accepts : ∀ result ∈ sink.results, result = .ok ())
    (frame : List UInt8) :
    sink.putData frame = (⟨sink.results.tail, sink.frames ++ [frame]⟩, .ok ()) := by
  unfold Sink.putData
  cases shape : sink.results with
  | nil => rfl
  | cons result rest =>
      obtain rfl := accepts result (by simp [shape])
      rfl

/-- The end of a turn in which the sink accepts the frame. -/
theorem forward_accepted {client : GenericClient} {sink : Sink} (isSink : client.sink = some sink)
    (accepts : ∀ result ∈ sink.results, result = .ok ()) (frame : Option (List UInt8))
    {consumed available : Nat} (isAvailable : client.in_.getIncomingDataAvailable = available)
    (there : consumed ≤ available) (filled : client.in_.Filled) :
    ∃ client' again, client.forward sink frame consumed available = (client', again) ∧
      client'.frameAssembler = client.frameAssembler ∧
      client'.in_.unconsumed = client.in_.unconsumed.drop consumed ∧ client'.in_.Filled ∧
      (∃ sink', client'.sink = some sink' ∧ (∀ result ∈ sink'.results, result = .ok ()) ∧
        sink'.frames = sink.frames ++ frame.toList) ∧
      (again = true ↔ consumed ≠ 0 ∧ consumed ≠ available) := by
  obtain ⟨sink', forwards, accepts', frames⟩ : ∃ sink' : Sink,
      client.forward sink frame consumed available =
        { client with sink := some sink' }.consume consumed available ∧
      (∀ result ∈ sink'.results, result = .ok ()) ∧ sink'.frames = sink.frames ++ frame.toList := by
    cases frame with
    | none =>
        refine ⟨sink, ?_, accepts, by simp⟩
        rw [← isSink]
        rfl
    | some frame =>
        refine ⟨⟨sink.results.tail, sink.frames ++ [frame]⟩, ?_, ?_, rfl⟩
        · simp only [GenericClient.forward, putData_accepted accepts]
        · intro result member
          exact accepts result (List.mem_of_mem_tail member)
  rw [forwards, GenericClient.consume]
  by_cases some_ : consumed ≠ 0
  · rw [if_pos some_]
    refine ⟨_, _, rfl, rfl, Inbound.consume_unconsumed (isAvailable ▸ there),
      Inbound.consume_filled (isAvailable ▸ there) filled, ⟨sink', rfl, accepts', frames⟩, ?_⟩
    simp [some_]
  · rw [if_neg some_]
    obtain rfl : consumed = 0 := by simpa using some_
    exact ⟨_, _, rfl, rfl, rfl, filled, ⟨sink', rfl, accepts', frames⟩, by simp⟩

theorem framesOf_append (events events' : List (Nat × Except Error (List UInt8))) :
    framesOf (events ++ events') = framesOf events ++ framesOf events' :=
  List.filterMap_append

/-- The frame of a feed is the one it reports. -/
theorem framesOf_feedEvents (position : Nat) (result : Except Error (Option (List UInt8))) :
    framesOf (feedEvents position result) = (GenericClient.fedFrame result).toList := by
  cases result with
  | error e => rfl
  | ok frame => cases frame <;> rfl

/-- One turn of the loop: some bytes go from the protocol to the assembler, and the loop
    stops when there are none left. -/
theorem feedAvailable_tracks {origin : FrameAssembler} {stream : List UInt8}
    {client : GenericClient} {feeding : Feeding} (tracks : Tracks origin stream client feeding)
    (sound : (parse (FrameAssembler.packetFrame origin.ipConfig origin.ipMap) origin.bufferSize 0
      stream).ending.toOption.isSome) {sink : Sink} (isSink : client.sink = some sink) :
    ∃ client' again feeding', client.feedAvailable sink = .ok (client', again) ∧
      Tracks origin stream client' feeding' ∧
      (again = true → feeding.position < feeding'.position) ∧
      (again = false → feeding'.position = stream.length) := by
  obtain ⟨follows, assembler, unconsumed, filled, sink', isSink', accepts, frames⟩ := tracks
  obtain rfl : sink = sink' := by
    rw [isSink] at isSink'
    exact Option.some.inj isSink'
  have available : client.in_.getIncomingDataAvailable = stream.length - feeding.position := by
    rw [← Inbound.length_unconsumed, unconsumed, List.length_drop]
  have step := feedStep_follows follows (stream.length - feeding.position)
  obtain ⟨-, inside, pending, skip, keeps, -, -⟩ := follows
  obtain ⟨size, offered, positive, -, -, -⟩ := getFeedBuffer_spec keeps
  generalize moreEq : stream.length - feeding.position = more at *
  have fewer : (if size > more then more else size) = min more size := by
    split <;> omega
  have chunkSize : ((stream.drop feeding.position).take (min more size)).length = min more size := by
    rw [List.length_take, List.length_drop]
    omega
  have taken : client.in_.getIncomingData 0 (min more size) =
      .ok (.ok ((stream.drop feeding.position).take (min more size))) := by
    rw [Inbound.getIncomingData_unconsumed (by omega), unconsumed]
  unfold feedStep at step
  unfold GenericClient.feedAvailable
  simp only [assembler, offered, ok_bind, available, fewer, taken, chunkSize,
    Nat.pos_iff_ne_zero.mp positive, if_false] at step ⊢
  cases stored : store feeding.assembler.buffer pending.length
      ((stream.drop feeding.position).take (min more size)) with
  | error fault =>
      rw [stored] at step
      rw [step] at sound
      cases sound
  | ok buffer =>
      simp only [stored, ok_bind] at step ⊢
      generalize FrameAssembler.feed _ (min more size) = fed at step ⊢
      cases fed with
      | error fault =>
          rw [error_bind] at step
          rw [step] at sound
          cases sound
      | ok fed =>
          obtain ⟨after, consumed, result⟩ := fed
          simp only [ok_bind, pure_ok] at step ⊢
          obtain ⟨follows', -, moves⟩ := step
          have inside' : feeding.position + consumed ≤ stream.length := follows'.inside
          have isAvailable :
              ({ client with frameAssembler := after } : GenericClient).in_.getIncomingDataAvailable =
                more := available
          obtain ⟨client', again, forwards, assembler', unconsumed', filled',
            ⟨sink', isSink', accepts', frames'⟩, goesOn⟩ := @forward_accepted { client with frameAssembler := after } sink isSink accepts
              (GenericClient.fedFrame result) consumed more isAvailable (by omega) filled
          rw [forwards]
          refine ⟨client', again, _, rfl,
            ⟨follows', assembler', ?_, filled', sink', isSink', accepts', ?_⟩, ?_, ?_⟩
          · rw [unconsumed', ← List.drop_drop]
            exact congrArg (List.drop consumed) unconsumed
          · rw [frames', frames, framesOf_append, framesOf_feedEvents]
          · intro more_
            have positive := (goesOn.mp more_).1
            change feeding.position < feeding.position + consumed
            omega
          · intro done
            change feeding.position + consumed = stream.length
            by_cases nothing : consumed = 0
            · by_contra left
              have moved := moves (by omega) (by omega)
              change feeding.position < feeding.position + consumed at moved
              omega
            · by_contra left
              rw [goesOn.mpr ⟨nothing, by omega⟩] at done
              cases done

/-- The loop gets to the end of the stream. -/
theorem feedWhileAvailable_tracks {origin : FrameAssembler} {stream : List UInt8}
    (sound : (parse (FrameAssembler.packetFrame origin.ipConfig origin.ipMap) origin.bufferSize 0
      stream).ending.toOption.isSome) :
    ∀ {turns : Nat} {client : GenericClient} {feeding : Feeding},
      Tracks origin stream client feeding → stream.length - feeding.position < turns →
      ∃ client' feeding', GenericClient.feedWhileAvailable turns client = .ok client' ∧
        Tracks origin stream client' feeding' ∧ feeding'.position = stream.length := by
  intro turns
  induction turns with
  | zero =>
      intro client feeding tracks enough
      omega
  | succ turns ih =>
      intro client feeding tracks enough
      obtain ⟨sink, isSink, -, -⟩ := tracks.frames
      obtain ⟨client', again, feeding', feeds, tracks', moves, ends⟩ :=
        feedAvailable_tracks tracks sound isSink
      simp only [GenericClient.feedWhileAvailable, isSink, feeds, ok_bind]
      cases again with
      | true =>
          have moved := moves rfl
          have inside := tracks'.follows.inside
          exact ih tracks' (by omega)
      | false => exact ⟨client', feeding', rfl, tracks', ends rfl⟩

theorem notifyIncomingDataAvailable_tracks {origin : FrameAssembler} {stream : List UInt8}
    {client : GenericClient} {feeding : Feeding} (tracks : Tracks origin stream client feeding)
    (sound : (parse (FrameAssembler.packetFrame origin.ipConfig origin.ipMap) origin.bufferSize 0
      stream).ending.toOption.isSome) :
    ∃ client' feeding', client.notifyIncomingDataAvailable = .ok client' ∧
      Tracks origin stream client' feeding' ∧ feeding'.position = stream.length := by
  have available : client.in_.getIncomingDataAvailable = stream.length - feeding.position := by
    rw [← Inbound.length_unconsumed, tracks.unconsumed, List.length_drop]
  exact feedWhileAvailable_tracks sound tracks (by omega)

/-! ## Whole runs -/

/-- Between two arrivals: the client has fed all it got. -/
def Settled (origin : FrameAssembler) (state : Receiving) : Prop :=
  ∃ feeding, Tracks origin state.received state.client feeding ∧
    feeding.position = state.received.length

theorem Settled.free {origin : FrameAssembler} {state : Receiving} (settled : Settled origin state) :
    state.client.in_.payloadBufferFull = false := by
  obtain ⟨feeding, tracks, ends⟩ := settled
  by_contra full
  apply tracks.filled (by simpa using full)
  rw [tracks.unconsumed, ends, List.drop_length]

theorem setResults_tracks {origin : FrameAssembler} {state : Receiving} {stream : List UInt8}
    {feeding : Feeding} (tracks : Tracks origin stream state.client feeding)
    {results : List (Except Error Unit)} (accepts : ∀ result ∈ results, result = .ok ()) :
    Tracks origin stream (state.setResults results).client feeding := by
  obtain ⟨follows, assembler, unconsumed, filled, sink, isSink, -, frames⟩ := tracks
  refine ⟨follows, assembler, unconsumed, filled, { sink with results := results }, ?_, accepts, frames⟩
  simp [Receiving.setResults, isSink]

/-- One arrival at which the sink accepts its frames. -/
theorem arrive_settled {origin : FrameAssembler} {state : Receiving}
    (settled : Settled origin state) {arrival : Arrival} (accepted : arrival.Accepted)
    (payload : ∀ bytes results, arrival = .payload bytes results → bytes ≠ [])
    (sound : (parse (FrameAssembler.packetFrame origin.ipConfig origin.ipMap) origin.bufferSize 0
      (state.received ++ arrival.bytes)).ending.toOption.isSome) :
    ∃ next, state.arrive arrival = .ok next ∧ Settled origin next ∧
      next.received = state.received ++ arrival.bytes := by
  have free := settled.free
  obtain ⟨feeding, tracks, ends⟩ := settled
  cases arrival with
  | payload bytes results =>
      obtain ⟨follows, assembler, -, -, isSink⟩ := setResults_tracks tracks accepted
      have started : Tracks origin (state.received ++ bytes)
          { (state.setResults results).client with
            in_ := .accept state.client.in_.nextExpectedDataPsn bytes } feeding :=
        { follows := follows.extend bytes
          assembler := assembler
          unconsumed := by
            rw [ends, List.drop_left]
            rfl
          filled := Inbound.accept_filled _ (payload bytes results rfl)
          frames := isSink }
      obtain ⟨client', feeding', feeds, tracks', ends'⟩ :=
        notifyIncomingDataAvailable_tracks started sound
      refine ⟨⟨client', state.received ++ bytes⟩, ?_, ⟨feeding', tracks', ends'⟩, rfl⟩
      have free' : (state.setResults results).client.in_.payloadBufferFull = false := free
      have feeds' : ({ (state.setResults results).client with
          in_ := .accept (state.setResults results).client.in_.nextExpectedDataPsn bytes } :
          GenericClient).notifyIncomingDataAvailable = .ok client' := feeds
      simp only [Receiving.arrive, free', feeds', ok_bind]
      rfl
  | canPut results =>
      have started := setResults_tracks tracks accepted
      simp only [Arrival.bytes, List.append_nil] at sound ⊢
      obtain ⟨client', feeding', feeds, tracks', ends'⟩ :=
        notifyIncomingDataAvailable_tracks started sound
      refine ⟨⟨client', state.received⟩, ?_, ⟨feeding', tracks', ends'⟩, rfl⟩
      simp only [Receiving.arrive, GenericClient.onCanPut, feeds, ok_bind]
      rfl

/-- All the bytes that come with a number of arrivals. -/
def bytesOf (arrivals : List Arrival) : List UInt8 := arrivals.flatMap Arrival.bytes

theorem arriveAll_settled {origin : FrameAssembler} {packets : List (List UInt8 × List UInt8)}
    (valid : ∀ p ∈ packets, IsPacketOf origin p.1 p.2) {state : Receiving}
    (settled : Settled origin state) {arrivals : List Arrival}
    (accepted : ∀ arrival ∈ arrivals, arrival.Accepted)
    (payloads : ∀ arrival ∈ arrivals, ∀ bytes results, arrival = .payload bytes results → bytes ≠ [])
    (inside : state.received ++ bytesOf arrivals <+: streamOf packets) :
    ∃ next, state.arriveAll arrivals = .ok next ∧ Settled origin next ∧
      next.received = state.received ++ bytesOf arrivals := by
  induction arrivals generalizing state with
  | nil => exact ⟨state, rfl, settled, by simp [bytesOf]⟩
  | cons arrival arrivals ih =>
      have joined : bytesOf (arrival :: arrivals) = arrival.bytes ++ bytesOf arrivals := by
        simp [bytesOf]
      rw [joined, ← List.append_assoc] at inside
      have sound := (parse_packets valid ((List.prefix_append _ _).trans inside) 0).2
      obtain ⟨next, arrives, settled', received⟩ := arrive_settled settled
        (accepted arrival List.mem_cons_self) (payloads arrival List.mem_cons_self) sound
      rw [← received] at inside
      obtain ⟨last, arriveRest, settledLast, receivedLast⟩ := ih settled'
        (fun other member => accepted other (List.mem_cons_of_mem _ member))
        (fun other member => payloads other (List.mem_cons_of_mem _ member)) inside
      refine ⟨last, ?_, settledLast, ?_⟩
      · rw [Receiving.arriveAll, List.foldlM_cons, arrives]
        exact arriveRest
      · rw [receivedLast, received, joined, List.append_assoc]

/-- A new client with a sink, and nothing received. -/
def Receiving.initial (assembler : FrameAssembler) : Receiving :=
  ⟨⟨.zero, assembler, some ⟨[], []⟩⟩, []⟩

/-- The sink has accepted the frames of the packets that are complete in what was
    received, each once and in order. -/
def Receiving.Delivered (packets : List (List UInt8 × List UInt8)) (state : Receiving) : Prop :=
  state.client.sink.map Sink.frames = some (completed packets state.received.length)

/-- Whatever the payloads a stream of packets is cut into, and whenever the sink says that
    it can take frames: as long as it refuses none, it has each frame whose bytes have come. -/
theorem delivered_of_accepted {assembler : FrameAssembler} (idle : Ipv4.Keeps assembler [] 0)
    {packets : List (List UInt8 × List UInt8)}
    (valid : ∀ p ∈ packets, IsPacketOf assembler p.1 p.2) {arrivals : List Arrival}
    (payloads : ∀ arrival ∈ arrivals, ∀ bytes results, arrival = .payload bytes results → bytes ≠ [])
    (inside : bytesOf arrivals <+: streamOf packets)
    (accepted : ∀ arrival ∈ arrivals, arrival.Accepted) :
    ∃ state, (Receiving.initial assembler).arriveAll arrivals = .ok state ∧
      state.received = bytesOf arrivals ∧ state.Delivered packets := by
  have start : Settled assembler (Receiving.initial assembler) := by
    refine ⟨⟨assembler, 0, [], []⟩, ?_, rfl⟩
    exact
      { follows :=
          { same := ⟨rfl, rfl, rfl⟩
            inside := Nat.zero_le _
            parsed := ⟨[], 0, idle, le_rfl, parse_short (by simp) 0⟩ }
        assembler := rfl
        unconsumed := rfl
        filled := by
          intro full
          cases full
        frames := ⟨⟨[], []⟩, rfl, by simp, rfl⟩ }
  obtain ⟨state, arrives, ⟨feeding, tracks, ends⟩, received⟩ :=
    arriveAll_settled valid start accepted payloads inside
  have received : state.received = bytesOf arrivals := received
  refine ⟨state, arrives, received, ?_⟩
  obtain ⟨sink, isSink, -, frames⟩ := tracks.frames
  obtain ⟨pending, skip, -, -, parsed⟩ := tracks.follows.parsed
  rw [ends, List.take_length] at parsed
  have complete := (parse_packets valid (received ▸ inside) 0).1
  rw [parsed] at complete
  rw [Receiving.Delivered, isSink, Option.map_some, frames]
  exact congrArg some complete

/-- An assembler for packets of up to 64 bytes, without compression. -/
def smallAssembler : FrameAssembler := ⟨none, none, 0, 0, 0, 64, List.replicate 64 0⟩

theorem smallAssembler_keeps : Ipv4.Keeps smallAssembler [] 0 :=
  keeps_nothing rfl (by decide) rfl rfl rfl

theorem barePacket_isPacket : IsPacketOf smallAssembler barePacket barePacket :=
  ⟨by decide, by decide, by decide, rfl⟩

/-- The packet in two payloads, and a notification in between. -/
theorem delivered_barePacket :
    ∃ state, (Receiving.initial smallAssembler).arriveAll
        [.payload (barePacket.take 3) [], .canPut [], .payload (barePacket.drop 3) [.ok ()]] =
          .ok state ∧
      state.received = barePacket ∧ state.Delivered [(barePacket, barePacket)] :=
  delivered_of_accepted smallAssembler_keeps
    (by
      intro p member
      obtain rfl : p = (barePacket, barePacket) := by simpa using member
      exact barePacket_isPacket)
    (by
      intro arrival member bytes results isPayload
      subst isPayload
      simp only [List.mem_cons, List.not_mem_nil, or_false, Arrival.payload.injEq, reduceCtorEq,
        false_or] at member
      obtain ⟨rfl, -⟩ | ⟨rfl, -⟩ := member <;> decide)
    (by decide) (by simp [Arrival.Accepted])

/-- The sink refuses the frame of the packet once and then accepts everything, but the
    frame does not come again. -/
theorem barePacket_lost :
    IsPacketOf smallAssembler barePacket barePacket ∧
      ∃ state, (Receiving.initial smallAssembler).arriveAll
          [.payload barePacket [.error .wouldBlock], .canPut []] = .ok state ∧
        state.received = barePacket ∧ ¬ state.Delivered [(barePacket, barePacket)] := by
  refine ⟨barePacket_isPacket, _, rfl, rfl, ?_⟩
  rw [Receiving.Delivered]
  decide

end GoldenGate.Gattlink

import GoldenGate.Gattlink.Traffic

/-! # Invariants of one endpoint

What holds in every state of a run, those in the middle of an operation included. An
invariant has to be kept by the few things that an endpoint does; the operations are made of
these. Some of them may be subject to a proviso: an ack that is handled, a payload that is
accepted, and the time that has passed when the retransmission timer fires.
-/

namespace GoldenGate.Gattlink

open Memory

/-- An invariant holds when an operation comes back, which has written the packets of its trace, and in
    the states of the trace; what happens in these is of some kind. -/
def Proceeds (Shows : Happening → Prop) (Inv : Endpoint → Prop) (side : Endpoint) (result : Access Endpoint)
    (trace : List Happening) : Prop :=
  (∀ side', result = .ok side' → Inv side' ∧ side'.wire = side.wire ++ trace.flatMap Happening.written) ∧
    ∀ happening ∈ trace, Inv happening.side ∧ Shows happening

namespace Proceeds

variable {Shows : Happening → Prop} {Inv : Endpoint → Prop} {side : Endpoint}

theorem stay {side' : Endpoint} (inv : Inv side') (same : side'.wire = side.wire := by rfl) :
    Proceeds Shows Inv side (.ok side') [] := by
  constructor
  · intro side'' done
    cases done
    exact ⟨inv, same.trans (List.append_nil _).symm⟩
  · intro happening member
    exact (List.not_mem_nil member).elim

theorem fails {fault : Fault} : Proceeds Shows Inv side (.error fault) [] :=
  ⟨fun _ same => (by cases same), fun _ member => (List.not_mem_nil member).elim⟩

theorem mono {Weaker : Endpoint → Prop} {result : Access Endpoint} {trace : List Happening}
    (weaker : ∀ side, Inv side → Weaker side) (proceeds : Proceeds Shows Inv side result trace) :
    Proceeds Shows Weaker side result trace :=
  ⟨fun side' done => (proceeds.1 side' done).imp_left (weaker side'),
    fun happening member => (proceeds.2 happening member).imp_left (weaker _)⟩

/-- What an operation begins with writes nothing. -/
theorem ofWire {start : Endpoint} {result : Access Endpoint} {trace : List Happening}
    (proceeds : Proceeds Shows Inv start result trace) (same : start.wire = side.wire) :
    Proceeds Shows Inv side result trace :=
  ⟨fun side' done => same ▸ proceeds.1 side' done, proceeds.2⟩

/-- The second part may rely on more than what holds at its end. -/
theorem thenOf {Later : Endpoint → Prop} {result : Access Endpoint} {trace : List Happening}
    {next : Endpoint → Access Endpoint} {more : Endpoint → List Happening} (first : Proceeds Shows Inv side result trace)
    (weaker : ∀ side, Inv side → Later side)
    (second : ∀ side', result = .ok side' → Inv side' → Proceeds Shows Later side' (next side') (more side')) :
    Proceeds Shows Later side (result >>= next) (trace ++ Endpoint.after result more) := by
  cases result with
  | error fault =>
      rw [Endpoint.after, List.append_nil]
      exact ⟨fun _ same => (by cases same), (first.mono weaker).2⟩
  | ok between =>
      obtain ⟨inv, wire⟩ := first.1 between rfl
      have later := second between rfl inv
      constructor
      · intro side' done
        obtain ⟨inv', wire'⟩ := later.1 side' done
        refine ⟨inv', ?_⟩
        rw [wire', wire, Endpoint.after, List.flatMap_append, List.append_assoc]
      · intro happening member
        exact (List.mem_append.mp member).elim ((first.mono weaker).2 happening) (later.2 happening)

theorem andThen {result : Access Endpoint} {trace : List Happening} {next : Endpoint → Access Endpoint}
    {more : Endpoint → List Happening} (first : Proceeds Shows Inv side result trace)
    (second : ∀ side', Inv side' → Proceeds Shows Inv side' (next side') (more side')) :
    Proceeds Shows Inv side (result >>= next) (trace ++ Endpoint.after result more) :=
  first.thenOf (fun _ => id) fun side' _ inv => second side' inv

/-- Something is done afterwards that calls nobody. -/
theorem finish {result : Access Endpoint} {trace : List Happening} {next : Endpoint → Endpoint}
    (first : Proceeds Shows Inv side result trace) (keeps : ∀ side, Inv side → Inv (next side))
    (same : ∀ side, (next side).wire = side.wire) : Proceeds Shows Inv side (result >>= fun side => .ok (next side)) trace := by
  have both : Proceeds Shows Inv side (result >>= fun side => .ok (next side)) (trace ++ Endpoint.after result fun _ => []) :=
    first.andThen fun side' inv => stay (keeps side' inv) (same side')
  cases result with
  | error fault => simpa [Endpoint.after] using both
  | ok side => simpa [Endpoint.after] using both

/-- Before the rest there is a call, or a packet that was written. -/
theorem prepend {happening : Happening} {start : Endpoint} {result : Access Endpoint} {trace : List Happening}
    (inv : Inv happening.side) (isShown : Shows happening) (first : Proceeds Shows Inv start result trace)
    (writes : start.wire = side.wire ++ happening.written) : Proceeds Shows Inv side result (happening :: trace) := by
  constructor
  · intro side' done
    obtain ⟨inv', wire⟩ := first.1 side' done
    exact ⟨inv', by rw [wire, writes, List.flatMap_cons, List.append_assoc]⟩
  · intro other member
    cases List.mem_cons.mp member with
    | inl same => exact same ▸ ⟨inv, isShown⟩
    | inr later => exact first.2 other later

theorem comes {side' : Endpoint} {result : Access Endpoint} {trace : List Happening}
    (proceeds : Proceeds Shows Inv side result trace) (done : result = .ok side') : Inv side' :=
  (proceeds.1 side' done).1

end Proceeds

namespace Endpoint

/-! ## What the parts of an operation do -/

theorem sendRawData_cases (side : Endpoint) (packet : List UInt8) :
    (∃ error, side.sendRawData packet = ({ side with sendResults := side.sendResults.tail }, .error error)) ∨
      side.sendRawData packet =
        ({ side with sendResults := side.sendResults.tail, wire := side.wire ++ [packet] }, .ok ()) := by
  unfold sendRawData
  cases results : side.sendResults with
  | nil => exact .inr rfl
  | cons result rest =>
      cases result with
      | error error => exact .inl ⟨error, rfl⟩
      | ok => exact .inr rfl

/-- The size of the next payload: as much as there is and as fits, or the size it had before. -/
theorem nextDataSize_cases {side : Endpoint} {maxSize offset dataSize : Nat}
    (size : side.nextDataSize maxSize offset = .ok dataSize) :
    (side.protocol.out.payloadSizes side.protocol.out.nextDataSn = 0 ∧ offset ≤ side.outgoing.length ∧
        dataSize = min (side.outgoing.length - offset) (maxSize - 1)) ∨
      side.protocol.out.payloadSizes side.protocol.out.nextDataSn ≠ 0 ∧
        dataSize = side.protocol.out.payloadSizes side.protocol.out.nextDataSn := by
  unfold nextDataSize at size
  dsimp only at size
  split at size
  case isTrue first =>
      obtain ⟨_, enough, isSize⟩ := bind_ok size
      cases isSize
      refine .inl ⟨first, ?_, rfl⟩
      by_contra short
      simp [assert, short] at enough
  case isFalse again =>
      cases size
      exact .inr ⟨again, rfl⟩

/-- A packet with data has the retransmission timer scheduled; nothing else has changed. -/
theorem prepareData_some {side next : Endpoint} {ack : List UInt8} {maxSize : Nat} {prepared : Option Prepared}
    (prepares : side.prepareData ack maxSize = .ok (next, prepared)) :
    next = side ∧ (prepared = none ∨ ack ≠ [] ∧ prepared = some ⟨ack, 0⟩) ∨
      next = side.armRetransmit ∧ ∃ dataSize, dataSize ≠ 0 ∧
        side.nextDataSize maxSize side.protocol.out.getTotalNumBytesAwaitingAck = .ok dataSize ∧
        side.protocol.out.getNumPacketsInFlight < side.protocol.actualSessionCfg.maxTxWindowSize.toNat ∧
        side.outgoing.length ≠ 0 ∧
        prepared = some ⟨ack ++ UInt8.ofNat side.protocol.out.nextDataSn ::
          (side.outgoing.drop side.protocol.out.getTotalNumBytesAwaitingAck).take dataSize, dataSize⟩ := by
  have justAck : (if ack = [] then none else some (⟨ack, 0⟩ : Prepared)) = none ∨
      ack ≠ [] ∧ (if ack = [] then none else some (⟨ack, 0⟩ : Prepared)) = some ⟨ack, 0⟩ := by
    split
    case isTrue => exact .inl rfl
    case isFalse nonempty => exact .inr ⟨nonempty, rfl⟩
  unfold prepareData at prepares
  dsimp only at prepares
  split at prepares
  case isTrue =>
      cases prepares
      exact .inl ⟨rfl, justAck⟩
  case isFalse windowOpen =>
      split at prepares
      case isTrue =>
          cases prepares
          exact .inl ⟨rfl, justAck⟩
      case isFalse queued =>
          obtain ⟨dataSize, size, prepares⟩ := bind_ok prepares
          split at prepares
          case isTrue =>
              cases prepares
              exact .inl ⟨rfl, justAck⟩
          case isFalse nonzero =>
              cases prepares
              exact .inr ⟨rfl, dataSize, nonzero, size, Nat.not_le.mp windowOpen, queued, rfl⟩

/-- When there is nothing to send, nothing has changed. -/
theorem prepareData_none {side next : Endpoint} {ack : List UInt8} {maxSize : Nat}
    (prepares : side.prepareData ack maxSize = .ok (next, none)) : next = side := by
  obtain ⟨same, -⟩ | ⟨-, _, -, -, -, -, isSome⟩ := prepareData_some prepares
  · exact same
  · cases isSome

theorem prepareNextPacket_cases {side next : Endpoint} {prepared : Option Prepared}
    (prepares : side.prepareNextPacket = .ok (next, prepared)) :
    resetCompletePacketSize ≤ min side.transportMaxPacketSize maxPacketSize ∧
      side.prepareData
        (if AckPending side then [dataPacketTypeWithAck ||| UInt8.ofNat side.protocol.out.psnToAckWith] else [])
        (min side.transportMaxPacketSize maxPacketSize - if AckPending side then 1 else 0) = .ok (next, prepared) := by
  unfold prepareNextPacket at prepares
  obtain ⟨_, room, prepares⟩ := bind_ok prepares
  constructor
  · by_contra small
    simp [assert, small] at room
  · dsimp only at prepares
    split at prepares
    case isTrue due =>
        have pending : AckPending side := due
        rwa [if_pos pending, if_pos pending]
    case isFalse notDue =>
        have pending : ¬ AckPending side := notDue
        rwa [if_neg pending, if_neg pending]

theorem prepareNextPacket_none {side next : Endpoint} (prepares : side.prepareNextPacket = .ok (next, none)) :
    next = side := prepareData_none (prepareNextPacket_cases prepares).2

/-- Preparing a packet schedules the retransmission timer at most. -/
theorem prepareNextPacket_same {side next : Endpoint} {prepared : Option Prepared}
    (prepares : side.prepareNextPacket = .ok (next, prepared)) : SameButTimer side next := by
  obtain ⟨same, -⟩ | ⟨armed, -⟩ := prepareData_some (prepareNextPacket_cases prepares).2
  · exact same ▸ sameButTimer_refl side
  · exact armed ▸ armRetransmit_same side

/-! ## What an operation leaves alone -/

section Frames

variable (side : Endpoint)

@[simp] theorem sendRawData_protocol (packet : List UInt8) :
    (side.sendRawData packet).1.protocol = side.protocol := by
  obtain ⟨error, sends⟩ | sends := side.sendRawData_cases packet
  · rw [sends]
  · rw [sends]

@[simp] theorem sendRawData_log (packet : List UInt8) : (side.sendRawData packet).1.log = side.log := by
  obtain ⟨error, sends⟩ | sends := side.sendRawData_cases packet
  · rw [sends]
  · rw [sends]

theorem sendRawData_wire (packet : List UInt8) (size : Nat) :
    (side.sendRawData packet).1.wire = side.wire ++ (Happening.sent side packet size).written := by
  unfold sendRawData Happening.written
  dsimp only
  cases side.sendResults with
  | nil => rfl
  | cons result rest => cases result <;> simp

@[simp] theorem consumeOutgoingData_wire (size : Nat) : (side.consumeOutgoingData size).wire = side.wire := by
  unfold consumeOutgoingData
  dsimp only
  split <;> rfl

@[simp] theorem consumeOutgoingData_protocol (size : Nat) :
    (side.consumeOutgoingData size).protocol = side.protocol := by
  unfold consumeOutgoingData
  dsimp only
  split <;> rfl

/-- An ack changes only what is sent. -/
theorem acknowledged_protocol (psn : Nat) :
    (side.acknowledged psn).protocol = { side.protocol with out := (side.acknowledged psn).protocol.out } := by
  unfold acknowledged
  rw [consumeOutgoingData_protocol]
  rfl

@[simp] theorem consumeOutgoingData_log (size : Nat) :
    (side.consumeOutgoingData size).log = side.log ++ [Event.consumeOutgoingData size] := by
  unfold consumeOutgoingData
  dsimp only
  split <;> rfl

@[simp] theorem leaveSession_protocol (state : State) :
    (side.leaveSession state).protocol = (side.unscheduleTimers.setState state).protocol := by
  unfold leaveSession
  dsimp only
  split <;> rfl

@[simp] theorem leaveSession_wire (state : State) : (side.leaveSession state).wire = side.wire := by
  unfold leaveSession
  dsimp only
  split <;> rfl

@[simp] theorem leaveSession_log (state : State) :
    (side.leaveSession state).log = side.log ++ if side.protocol.state = .ready then [Event.sessionReset] else [] := by
  unfold leaveSession
  dsimp only
  split
  case isTrue => rfl
  case isFalse => exact (List.append_nil _).symm

/-- The counters of stalls are not part of what is sent or received. -/
@[simp] theorem clearStall_protocol :
    side.clearStall.protocol = { side.protocol with stallTime := 0, lastNotifiedStallTime := 0 } := by
  unfold clearStall
  dsimp only
  split <;> rfl

@[simp] theorem countStall_state (elapsed : UInt32) :
    (side.countStall elapsed).protocol.state = side.protocol.state := (countStall_same side elapsed).state

@[simp] theorem countStall_session (elapsed : UInt32) :
    (side.countStall elapsed).protocol.actualSessionCfg = side.protocol.actualSessionCfg :=
  (countStall_same side elapsed).session

@[simp] theorem countStall_out (elapsed : UInt32) :
    (side.countStall elapsed).protocol.out = side.protocol.out := (countStall_same side elapsed).out

@[simp] theorem countStall_in (elapsed : UInt32) :
    (side.countStall elapsed).protocol.in_ = side.protocol.in_ := by
  unfold countStall
  dsimp only
  split <;> split <;> rfl

@[simp] theorem retransmitTimerFired_state (elapsed : UInt32) :
    (side.retransmitTimerFired elapsed).protocol.state = side.protocol.state := countStall_state _ elapsed

end Frames

end Endpoint

/-- What may be handled in a state: the ack of a packet, a payload, the time of a timer, and
    a notification outside a session; and what may happen then. -/
structure Provisos where
  ack : Endpoint → Nat → Prop := fun _ _ => True
  accept : Endpoint → List UInt8 → Prop := fun _ _ => True
  fire : Endpoint → UInt32 → Prop := fun _ _ => True
  notify : Endpoint → Prop := fun _ => True
  shows : Happening → Prop := fun _ => True

/-- The next packet may be sent. -/
def Provisos.Sends (provisos : Provisos) (side : Endpoint) : Prop := side.protocol.state = .ready ∨ provisos.notify side

/-- The state after a packet that was sent. -/
def Endpoint.withSent (next : Endpoint) (prepared : Endpoint.Prepared) : Endpoint :=
  Endpoint.packetSent
    { next with sendResults := next.sendResults.tail, wire := next.wire ++ [prepared.packet] } prepared

/-- The loop that sends packets; each turn may rely on more than what holds at the end. -/
theorem Proceeds.loop {Shows : Happening → Prop} {Inv Later : Endpoint → Prop} (weaker : ∀ side, Inv side → Later side)
    (refused : ∀ {side next : Endpoint} {prepared : Endpoint.Prepared}, Inv side →
      side.prepareNextPacket = .ok (next, some prepared) → Later { next with sendResults := next.sendResults.tail })
    (sent : ∀ {side next : Endpoint} {prepared : Endpoint.Prepared}, Inv side →
      side.prepareNextPacket = .ok (next, some prepared) → Inv (next.withSent prepared))
    (packet : ∀ {side next : Endpoint} {prepared : Endpoint.Prepared}, Inv side →
      side.prepareNextPacket = .ok (next, some prepared) → Shows (.sent side prepared.packet (side.bufLen prepared)))
    {rounds : Nat} {side : Endpoint} (inv : Inv side) :
    Proceeds Shows Later side (Endpoint.sendNextPackets rounds side) (Endpoint.traceLoop rounds side) := by
  induction rounds generalizing side with
  | zero => exact .fails
  | succ rounds ih =>
      unfold Endpoint.sendNextPackets Endpoint.traceLoop
      cases prepares : side.prepareNextPacket with
      | error fault => exact .fails
      | ok pair =>
          obtain ⟨next, prepared⟩ := pair
          cases prepared with
          | none =>
              cases Endpoint.prepareNextPacket_none prepares
              exact .stay (weaker _ inv)
          | some prepared =>
              dsimp only
              rw [ok_bind]
              have writes : (next.sendRawData prepared.packet).1.wire =
                  side.wire ++ (Happening.sent side prepared.packet (side.bufLen prepared)).written := by
                obtain ⟨timer, rfl⟩ := Endpoint.prepareNextPacket_same prepares
                exact Endpoint.sendRawData_wire _ _ 0
              dsimp only
              obtain ⟨error, sends⟩ | sends := next.sendRawData_cases prepared.packet
              · rw [sends] at writes ⊢
                exact .prepend (weaker side inv) (packet inv prepares) (.stay (refused inv prepares)) writes
              · rw [sends] at writes ⊢
                exact .prepend (weaker side inv) (packet inv prepares) (ih (sent inv prepares)) writes

/-- An invariant that is kept by what an endpoint does in a session. -/
structure KeptInSession (provisos : Provisos) (Inv : Endpoint → Prop) : Prop where
  queue : ∀ {side : Endpoint} (bytes : List UInt8), Inv side →
    Inv { side.notify (.queued bytes) with outgoing := side.outgoing ++ bytes }
  consumeIncomingData : ∀ {side : Endpoint} (size : Nat), Inv side → Inv (side.consumeIncomingData size)
  resize : ∀ {side : Endpoint} (size : Nat), Inv side → Inv { side with transportMaxPacketSize := size }
  refused : ∀ {side next : Endpoint} {prepared : Endpoint.Prepared}, Inv side →
    side.prepareNextPacket = .ok (next, some prepared) → Inv { next with sendResults := next.sendResults.tail }
  sent : ∀ {side next : Endpoint} {prepared : Endpoint.Prepared}, Inv side →
    side.prepareNextPacket = .ok (next, some prepared) → Inv (next.withSent prepared)
  acknowledge : ∀ {side : Endpoint} {psn : Nat}, Inv side → side.protocol.state = .ready → psn < snWindowSize →
    side.protocol.out.packetIsAwaitingAck psn = true → provisos.ack side psn → Inv (side.acknowledged psn)
  accept : ∀ {side : Endpoint} {psn : Nat} {payload : List UInt8}, Inv side → side.protocol.state = .ready →
    psn < snWindowSize → side.protocol.in_.payloadBufferFull = false →
    psn = side.protocol.in_.nextExpectedDataPsn → payload.length < maxPacketSize → provisos.accept side payload →
    Inv (side.accepted psn payload)
  ackWith : ∀ {side : Endpoint} {psn : Nat}, Inv side → side.protocol.state = .ready → psn < snWindowSize →
    Inv (side.ackWith psn)
  countUnacked : ∀ {side : Endpoint}, Inv side → side.protocol.state = .ready → Inv side.countUnacked
  called : ∀ {side : Endpoint} (clientCall : ClientCall), Inv side → provisos.shows (.called side clientCall) := by
    intros; trivial
  again : ∀ {side next : Endpoint} {prepared : Endpoint.Prepared}, provisos.notify side →
    side.prepareNextPacket = .ok (next, some prepared) → provisos.notify (next.withSent prepared) := by
    intros; trivial
  packet : ∀ {side next : Endpoint} {prepared : Endpoint.Prepared}, Inv side → provisos.Sends side →
    side.prepareNextPacket = .ok (next, some prepared) →
    provisos.shows (.sent side prepared.packet (side.bufLen prepared)) := by
    intros; trivial

/-- An invariant in one of the states of the protocol. -/
def InState (state : State) (Inv : Endpoint → Prop) (side : Endpoint) : Prop := Inv side ∧ side.protocol.state = state

namespace KeptInSession

open Endpoint

variable {turns : Nat} {provisos : Provisos} {Inv : Endpoint → Prop}

theorem withSent_state {side next : Endpoint} {prepared : Option Prepared}
    (prepares : side.prepareNextPacket = .ok (next, prepared)) (sent : Prepared) :
    (next.withSent sent).protocol.state = side.protocol.state := by
  obtain ⟨timer, rfl⟩ := prepareNextPacket_same prepares
  rfl

theorem loop (kept : KeptInSession provisos Inv) {rounds : Nat} {side : Endpoint} (inv : Inv side)
    (may : provisos.Sends side) :
    Proceeds provisos.shows (InState side.protocol.state Inv) side (sendNextPackets rounds side) (traceLoop rounds side) := by
  let During (next : Endpoint) := InState side.protocol.state Inv next ∧ provisos.Sends next
  apply @Proceeds.loop _ During _ (fun _ => And.left) ?_ ?_ ?_ rounds side ⟨⟨inv, rfl⟩, may⟩
  · rintro before next prepared ⟨inv, -⟩ prepares
    have state : next.protocol.state = before.protocol.state := withSent_state prepares prepared
    exact ⟨kept.refused inv.1 prepares, state.trans inv.2⟩
  · rintro before next prepared ⟨inv, may⟩ prepares
    have state := withSent_state prepares prepared
    refine ⟨⟨kept.sent inv.1 prepares, state.trans inv.2⟩, ?_⟩
    cases may with
    | inl ready => exact .inl (state.trans ready)
    | inr notify => exact .inr (kept.again notify prepares)
  · rintro before next prepared ⟨inv, may⟩ prepares
    exact kept.packet inv.1 may prepares

/-- A call that changes only what is not part of the protocol's state. -/
theorem call (kept : KeptInSession provisos Inv) {side : Endpoint} (inv : Inv side) (clientCall : ClientCall)
    (may : clientCall = .notifyOutgoingDataAvailable → provisos.Sends side) :
    Proceeds provisos.shows (InState side.protocol.state Inv) side (call turns side clientCall)
      (traceCall turns side clientCall) := by
  refine Proceeds.prepend ⟨inv, rfl⟩ (kept.called clientCall inv) ?_ (List.append_nil _).symm
  cases clientCall with
  | queue bytes => exact .stay ⟨kept.queue bytes inv, rfl⟩
  | notifyOutgoingDataAvailable => exact kept.loop inv (may rfl)
  | consumeIncomingData size => exact .stay ⟨kept.consumeIncomingData size inv, rfl⟩
  | setTransportMaxPacketSize size => exact .stay ⟨kept.resize size inv, rfl⟩

/-- The calls of a callback. -/
theorem calls (kept : KeptInSession provisos Inv) {side : Endpoint} (inv : InState .ready Inv side)
    (clientCalls : List ClientCall) :
    Proceeds provisos.shows (InState .ready Inv) side (calls turns side clientCalls) (traceCalls turns side clientCalls) := by
  induction clientCalls generalizing side with
  | nil => exact .stay inv
  | cons clientCall rest ih =>
      have first : Proceeds provisos.shows (InState side.protocol.state Inv) side (Endpoint.call turns side clientCall)
          (traceCall turns side clientCall) := kept.call inv.1 clientCall fun _ => .inl inv.2
      rw [inv.2] at first
      exact first.andThen fun side inv => ih inv

theorem handleAck (kept : KeptInSession provisos Inv) {side : Endpoint} (inv : InState .ready Inv side)
    (reactions : Reactions) {psn : Nat} (small : psn < snWindowSize) (may : provisos.ack side psn) :
    Proceeds provisos.shows (InState .ready Inv) side (handleAck turns side reactions psn)
      (traceHandleAck turns side reactions psn) := by
  rw [handleAck_eq, traceHandleAck]
  by_cases awaiting : side.protocol.out.packetIsAwaitingAck psn = true
  · rw [if_pos awaiting, if_pos awaiting]
    have state : (side.acknowledged psn).protocol.state = .ready := by
      rw [acknowledged_protocol]
      exact inv.2
    exact (kept.calls ⟨kept.acknowledge inv.1 inv.2 small awaiting may, state⟩ reactions.onConsume).ofWire
      (consumeOutgoingData_wire _ _)
  · rw [if_neg awaiting, if_neg awaiting]
    exact .stay inv

theorem psn_lt (header : UInt8) : (header &&& ackOrPsnMask).toNat < snWindowSize := by
  have le : (header &&& ackOrPsnMask).toNat ≤ 31 := by
    rw [UInt8.toNat_and]
    exact Nat.and_le_right
  exact Nat.lt_succ_of_le le

theorem acceptPayload (kept : KeptInSession provisos Inv) {side : Endpoint} (inv : InState .ready Inv side)
    (reactions : Reactions) {psn : Nat} {payload : List UInt8} (small : psn < snWindowSize)
    (free : side.protocol.in_.payloadBufferFull = false) (expected : psn = side.protocol.in_.nextExpectedDataPsn)
    (fits : payload.length < maxPacketSize) (may : provisos.accept side payload) :
    Proceeds provisos.shows (InState .ready Inv) side (acceptPayload turns side reactions psn payload)
      (traceCalls turns (side.accepted psn payload) reactions.onIncoming) := by
  have accepted := kept.accept inv.1 inv.2 small free expected fits may
  rw [acceptPayload_eq]
  exact ((kept.calls ⟨accepted, inv.2⟩ reactions.onIncoming).ofWire rfl).finish
    (fun _ inv => ⟨kept.ackWith inv.1 inv.2 small, inv.2⟩) fun _ => rfl

/-- The loop at the end of a data packet. -/
theorem sendNext (kept : KeptInSession provisos Inv) {side : Endpoint} (inv : InState .ready Inv side) :
    Proceeds provisos.shows (InState .ready Inv) side (sendNextPackets turns side) (traceLoop turns side) :=
  inv.2 ▸ kept.loop inv.1 (.inl inv.2)

theorem handlePayload (kept : KeptInSession provisos Inv) {side : Endpoint} (inv : InState .ready Inv side)
    (reactions : Reactions) {data : List UInt8} (fits : data.length ≤ maxPacketSize)
    (may : ∀ header payload, data = header :: payload → side.protocol.in_.payloadBufferFull = false →
      (header &&& ackOrPsnMask).toNat = side.protocol.in_.nextExpectedDataPsn → provisos.accept side payload) :
    Proceeds provisos.shows (InState .ready Inv) side (Prod.fst <$> handlePayload turns side reactions data)
      (traceHandlePayload turns side reactions data) := by
  cases data with
  | nil =>
      rw [fst_handlePayload_nil]
      exact kept.sendNext inv
  | cons header payload =>
      have small := psn_lt header
      have may := may header payload rfl
      rw [fst_handlePayload_cons]
      unfold traceHandlePayload
      dsimp only
      generalize (header &&& ackOrPsnMask).toNat = psn at *
      by_cases dropped : side.protocol.in_.payloadBufferFull = true ∨ side.Unexpected psn
      · rw [if_pos dropped, if_pos dropped]
        exact .stay inv
      rw [if_neg dropped, if_neg dropped]
      by_cases expected : psn = side.protocol.in_.nextExpectedDataPsn
      · rw [if_pos expected, if_pos expected]
        have free : side.protocol.in_.payloadBufferFull = false := by simpa using (not_or.mp dropped).1
        exact (kept.acceptPayload inv reactions small free expected fits (may free expected)).andThen fun side inv =>
          (kept.sendNext ⟨kept.countUnacked inv.1 inv.2, inv.2⟩).ofWire rfl
      · rw [if_neg expected, if_neg expected]
        exact (kept.sendNext ⟨kept.countUnacked inv.1 inv.2, inv.2⟩).ofWire rfl

theorem handleDataPacket (kept : KeptInSession provisos Inv) {side : Endpoint} (inv : InState .ready Inv side)
    (reactions : Reactions) {header : UInt8} (rest : List UInt8)
    (mayAck : (header :: rest).length ≤ maxPacketSize → header &&& dataPacketTypeWithAck = dataPacketTypeWithAck →
      provisos.ack side (header &&& ackOrPsnMask).toNat)
    (mayAccept : (header :: rest).length ≤ maxPacketSize → ∀ side' psn payload,
      (if header &&& dataPacketTypeWithAck = dataPacketTypeWithAck then
          Endpoint.handleAck turns side reactions (header &&& ackOrPsnMask).toNat
        else .ok side) = .ok side' →
      payloadOf (header :: rest) = some (psn, payload) → side'.protocol.in_.payloadBufferFull = false →
      psn = side'.protocol.in_.nextExpectedDataPsn → provisos.accept side' payload) :
    Proceeds provisos.shows (InState .ready Inv) side (Prod.fst <$> handleDataPacket turns side reactions (header :: rest))
      (traceHandleDataPacket turns side reactions (header :: rest)) := by
  rw [fst_handleDataPacket]
  unfold traceHandleDataPacket
  dsimp only
  by_cases long : (header :: rest).length > maxPacketSize
  · rw [if_pos long, if_pos long]
    exact .stay inv
  rw [if_neg long, if_neg long]
  have fits : (header :: rest).length ≤ maxPacketSize := Nat.not_lt.mp long
  have mayAccept := mayAccept fits
  by_cases withAck : header &&& dataPacketTypeWithAck = dataPacketTypeWithAck
  · rw [if_pos withAck] at mayAccept ⊢
    rw [if_pos withAck]
    have psn := psn_lt header
    have acks : Proceeds provisos.shows (InState .ready Inv) side (Gattlink.Endpoint.handleAck turns side reactions _)
        (traceHandleAck turns side reactions _) := kept.handleAck inv reactions psn (mayAck fits withAck)
    apply acks.thenOf fun _ => id
    intro side' result inv'
    apply kept.handlePayload inv' reactions ((Nat.le_succ _).trans fits)
    rintro inner payload same free expected
    apply mayAccept side' _ payload result ?_ free expected
    simp [payloadOf, withAck, same]
  · rw [if_neg withAck] at mayAccept ⊢
    rw [if_neg withAck]
    apply kept.handlePayload inv reactions fits
    rintro inner payload same free expected
    cases same
    exact mayAccept side _ rest rfl (by simp [payloadOf, withAck]) free expected

end KeptInSession

/-- The state behind the ack of a data packet. -/
def Endpoint.afterAck (turns : Nat) (side : Endpoint) (reactions : Reactions) (packet : List UInt8) : Access Endpoint :=
  match ackOf packet with
  | some psn => handleAck turns side reactions psn
  | none => .ok side

/-- What may happen, as far as an invariant needs to know. -/
def Endpoint.May (turns : Nat) (provisos : Provisos) (side : Endpoint) : Input → Prop
  | .receive reactions packet =>
      side.protocol.state = .ready → packet.headD 0 &&& packetTypeMask ≠ packetTypeControl →
        packet.length ≤ maxPacketSize →
        (∀ psn, ackOf packet = some psn → provisos.ack side.clearStall psn) ∧
        ∀ side' psn payload, side.clearStall.afterAck turns reactions packet = .ok side' →
          payloadOf packet = some (psn, payload) → side'.protocol.in_.payloadBufferFull = false →
          psn = side'.protocol.in_.nextExpectedDataPsn → provisos.accept side' payload
  | .retransmitTimer elapsed => provisos.fire side elapsed
  | .call .notifyOutgoingDataAvailable => provisos.Sends side
  | _ => True

theorem Endpoint.may_call {provisos : Provisos} {turns : Nat} {side : Endpoint} (notify : provisos.notify side)
    (clientCall : ClientCall) : side.May turns provisos (.call clientCall) := by
  cases clientCall with
  | notifyOutgoingDataAvailable => exact Or.inr notify
  | queue | consumeIncomingData | setTransportMaxPacketSize => trivial

theorem Endpoint.may_of_true (turns : Nat) (side : Endpoint) (next : Input) : side.May turns {} next := by
  cases next with
  | call clientCall => exact may_call trivial clientCall
  | receive reactions packet => exact fun _ _ _ => ⟨fun _ _ => trivial, fun _ _ _ _ _ _ _ => trivial⟩
  | start | reset | ackTimer | retransmitTimer => trivial

/-- The control packets that an endpoint sends. -/
def Endpoint.IsControl (side : Endpoint) (packet : List UInt8) : Prop :=
  packet = [buildControlPacket controlPacketTypeResetRequest] ∨
    packet = resetCompletePacket side.protocol.desiredSessionCfg

/-- An invariant that is also kept by resets. -/
structure KeptByResets (provisos : Provisos) (Inv : Endpoint → Prop) : Prop extends KeptInSession provisos Inv where
  leave : ∀ {side : Endpoint} {state : State}, Inv side → state ≠ .ready → state ≠ .initialized →
    Inv (side.leaveSession state)
  schedule : ∀ {side : Endpoint} (timeout : Nat), Inv side → side.protocol.state ≠ .ready →
    side.protocol.state ≠ .initialized → Inv (side.scheduleRetransmit timeout)
  transmit : ∀ {side : Endpoint} (packet : List UInt8), Inv side → side.protocol.state ≠ .ready →
    side.protocol.state ≠ .initialized → Inv (side.sendRawData packet).1
  agree : ∀ {side : Endpoint} (rxWindowSize txWindowSize : UInt8), Inv side → side.protocol.state ≠ .ready →
    side.protocol.state ≠ .initialized →
    Inv (side.agreed (Endpoint.agree side.protocol.desiredSessionCfg rxWindowSize txWindowSize))
  enter : ∀ {side : Endpoint}, Inv side → side.protocol.state ≠ .ready → side.protocol.state ≠ .initialized →
    Inv side.enterSession
  control : ∀ {side : Endpoint} {packet : List UInt8}, Inv side → side.protocol.state ≠ .ready →
    side.IsControl packet → packet.length ≤ side.transportMaxPacketSize → provisos.shows (.sent side packet packet.length) := by
    intros; trivial

/-- An invariant that is kept by everything that an endpoint does. -/
structure Kept (provisos : Provisos) (Inv : Endpoint → Prop) : Prop extends KeptByResets provisos Inv where
  clearStall : ∀ {side : Endpoint}, Inv side → Inv side.clearStall
  ackTimerFired : ∀ {side : Endpoint}, Inv side → side.protocol.out.ackTimer ≠ none → Inv side.ackTimerFired
  ackTimerSends : ∀ {side : Endpoint}, Inv side → side.protocol.out.ackTimer ≠ none →
    provisos.Sends side.ackTimerFired := by
    intros; exact .inr trivial
  stalled : ∀ {side : Endpoint} {elapsed : UInt32}, Inv side → side.protocol.out.retransmitTimer ≠ none →
    provisos.fire side elapsed → side.protocol.state ≠ .ready → Inv (side.retransmitTimerFired elapsed)
  rolledBack : ∀ {side : Endpoint} {elapsed : UInt32}, Inv side → side.protocol.out.retransmitTimer ≠ none →
    provisos.fire side elapsed → side.protocol.state = .ready → Inv (side.retransmitTimerFired elapsed).rolledBack

namespace KeptByResets

open Endpoint

variable {turns : Nat} {provisos : Provisos} {Inv : Endpoint → Prop}

theorem leaveSession_state (side : Endpoint) (state : State) : (side.leaveSession state).protocol.state = state :=
  congrArg Protocol.state (leaveSession_protocol side state)

theorem sendControlPacket (kept : KeptByResets provisos Inv) {side : Endpoint} (inv : Inv side)
    (left : side.protocol.state ≠ .ready) (started : side.protocol.state ≠ .initialized) (timeout : Nat)
    {packet : List UInt8} (isControl : side.IsControl packet) :
    Proceeds provisos.shows (fun side' => Inv side' ∧ side'.protocol.state = side.protocol.state) side
      (side.sendControlPacket timeout packet) (side.traceControlPacket timeout packet) := by
  unfold Endpoint.sendControlPacket traceControlPacket
  have scheduled := kept.schedule timeout inv left started
  split
  case isTrue room =>
      have state : ((side.scheduleRetransmit timeout).sendRawData packet).1.protocol.state = side.protocol.state := by
        rw [sendRawData_protocol]
        rfl
      exact .prepend ⟨scheduled, rfl⟩ (kept.control scheduled left isControl room)
        (@Proceeds.stay _ _ ((side.scheduleRetransmit timeout).sendRawData packet).1 _
          ⟨kept.transmit packet scheduled left started, state⟩ rfl) (sendRawData_wire _ _ packet.length)
  case isFalse => exact .fails

/-- The session is left, and a control packet is sent. -/
theorem leaves (kept : KeptByResets provisos Inv) {side : Endpoint} (inv : Inv side) (state : State)
    (left : state ≠ .ready) (started : state ≠ .initialized) (timeout : Nat) {packet : List UInt8}
    (isControl : (side.leaveSession state).IsControl packet) :
    Proceeds provisos.shows Inv side ((side.leaveSession state).sendControlPacket timeout packet)
      ((side.leaveSession state).traceControlPacket timeout packet) := by
  have isState := leaveSession_state side state
  have sends := kept.sendControlPacket (kept.leave inv left started) (by rwa [isState]) (by rwa [isState]) timeout isControl
  exact (sends.mono fun _ both => both.1).ofWire (leaveSession_wire side state)

theorem reset (kept : KeptByResets provisos Inv) {side : Endpoint} (inv : Inv side) :
    Proceeds provisos.shows Inv side (Prod.fst <$> side.reset) side.traceReset := by
  unfold Endpoint.reset traceReset
  rw [fst_sendResetPacket]
  exact kept.leaves inv .awaitingResetCompleteSelfInitiated nofun nofun _ (.inl rfl)

theorem handleResetComplete (kept : KeptByResets provisos Inv) {side : Endpoint} (inv : Inv side)
    (left : side.protocol.state ≠ .ready) (started : side.protocol.state ≠ .initialized) (reactions : Reactions)
    (data : List UInt8) :
    Proceeds provisos.shows Inv side (Prod.fst <$> handleResetComplete turns side reactions data)
      (traceHandleResetComplete turns side reactions data) := by
  match data with
  | [] | [_] | [_, _] | [_, _, _] | [_, _, _, _] =>
      rw [fst_handleResetComplete_short turns side reactions (by simp [resetCompletePacketSize])]
      exact .stay inv
  | b0 :: b1 :: b2 :: rxWindowSize :: txWindowSize :: rest =>
      rw [fst_handleResetComplete]
      unfold traceHandleResetComplete
      dsimp only
      let cfg := Endpoint.agree side.protocol.desiredSessionCfg rxWindowSize txWindowSize
      have agreed : Inv (side.agreed cfg) := kept.agree rxWindowSize txWindowSize inv left started
      have enters : ∀ next : Endpoint, Inv next ∧ next.protocol.state = side.protocol.state →
          Proceeds provisos.shows Inv next (calls turns next.enterSession reactions.onReady)
            (traceCalls turns next.enterSession reactions.onReady) := by
        rintro next ⟨inv, state⟩
        have entered := kept.enter inv (state ▸ left) (state ▸ started)
        exact ((kept.calls ⟨entered, rfl⟩ reactions.onReady).mono fun _ => And.left).ofWire rfl
      by_cases selfInitiated : (side.agreed cfg).protocol.state = .awaitingResetCompleteSelfInitiated
      · rw [if_pos selfInitiated, if_pos selfInitiated, traceResetComplete, fst_sendResetCompletePacket]
        have sends := kept.sendControlPacket agreed left started resetCompleteAckTimeout (.inr rfl)
        exact sends.thenOf (fun _ both => both.1) fun next _ => enters next
      · rw [if_neg selfInitiated, if_neg selfInitiated]
        exact enters _ ⟨agreed, rfl⟩

theorem handleControlPacket (kept : KeptByResets provisos Inv) {side : Endpoint} (inv : Inv side)
    (started : side.protocol.state ≠ .initialized) (reactions : Reactions) (type : UInt8) (data : List UInt8) :
    Proceeds provisos.shows Inv side (Prod.fst <$> handleControlPacket turns side reactions type data)
      (traceHandleControlPacket turns side reactions type data) := by
  rw [fst_handleControlPacket]
  unfold traceHandleControlPacket
  split
  case isTrue =>
      split
      case isTrue awaiting =>
          have left : side.protocol.state ≠ .ready := by
            intro ready
            simp [ready] at awaiting
          exact kept.handleResetComplete inv left started reactions data
      case isFalse => exact .stay inv
  case isFalse =>
      split
      case isTrue => exact kept.leaves inv .awaitingResetCompleteRemoteInitiated nofun nofun _ (.inr rfl)
      case isFalse => exact .stay inv

/-- A packet, once the stall is over. -/
theorem handleIncomingRawData (kept : KeptByResets provisos Inv) {side : Endpoint} (started : side.protocol.state ≠ .initialized)
    (cleared : Inv side.clearStall) (reactions : Reactions) {packet : List UInt8} (nonempty : packet ≠ [])
    (may : side.May turns provisos (.receive reactions packet)) :
    Proceeds provisos.shows Inv side (Prod.fst <$> handleIncomingRawData turns side reactions packet)
      (traceHandleIncomingRawData turns side reactions packet) := by
  cases packet with
  | nil => exact (nonempty rfl).elim
  | cons header rest =>
      rw [fst_handleIncomingRawData]
      unfold traceHandleIncomingRawData
      dsimp only
      have same := clearStall_same side
      have state := same.state
      rw [if_neg started, if_neg started]
      by_cases control : header &&& packetTypeMask = packetTypeControl
      · rw [if_pos control, if_pos control]
        exact (kept.handleControlPacket cleared (state ▸ started) reactions _ _).ofWire same.wire
      rw [if_neg control, if_neg control]
      by_cases closed : side.clearStall.protocol.state ≠ .ready
      · rw [if_pos closed, if_pos closed]
        exact .stay cleared same.wire
      rw [if_neg closed, if_neg closed]
      have may := may (state.symm.trans (not_not.mp closed)) control
      apply ((kept.handleDataPacket ⟨cleared, not_not.mp closed⟩ reactions rest ?_ ?_).mono fun _ => And.left).ofWire same.wire
      · intro fits withAck
        exact (may fits).1 _ (if_pos ⟨control, withAck⟩)
      · intro fits side' psn payload acked
        apply (may fits).2 side' psn payload
        unfold afterAck ackOf
        by_cases withAck : header &&& dataPacketTypeWithAck = dataPacketTypeWithAck
        · simpa [withAck, control] using acked
        · simpa [withAck] using acked

/-- What follows when the retransmission timer has fired. -/
theorem onSendTimeoutFired (kept : KeptByResets provisos Inv) {side : Endpoint} {elapsed : UInt32}
    (scheduled : side.protocol.out.retransmitTimer ≠ none)
    (stalled : side.protocol.state ≠ .ready → Inv (side.retransmitTimerFired elapsed))
    (rolledBack : side.protocol.state = .ready → Inv (side.retransmitTimerFired elapsed).rolledBack) :
    Proceeds provisos.shows Inv side (side.input turns (.retransmitTimer elapsed)) (side.trace turns (.retransmitTimer elapsed)) := by
  unfold input fireRetransmitTimer Endpoint.trace
  dsimp only
  rw [if_neg scheduled, if_neg scheduled]
  have state := side.retransmitTimerFired_state elapsed
  have wire : (side.retransmitTimerFired elapsed).wire = side.wire := (countStall_same _ elapsed).wire
  unfold traceRetransmitTimer
  dsimp only
  rw [onSendTimeoutFired_eq]
  cases isState : (side.retransmitTimerFired elapsed).protocol.state with
  | initialized => exact .stay (stalled (by rw [← state, isState]; nofun)) wire
  | awaitingResetCompleteSelfInitiated | awaitingResetCompleteRemoteInitiated =>
      exact (kept.reset (stalled (by rw [← state, isState]; nofun))).ofWire wire
  | ready =>
      have sends : provisos.Sends (side.retransmitTimerFired elapsed).rolledBack := .inl isState
      exact ((kept.loop (rolledBack (state.symm.trans isState)) sends).mono fun _ => And.left).ofWire wire

end KeptByResets

namespace Kept

open Endpoint

variable {turns : Nat} {provisos : Provisos} {Inv : Endpoint → Prop}

theorem receive (kept : Kept provisos Inv) {side : Endpoint} (inv : Inv side) (reactions : Reactions)
    {packet : List UInt8} (may : side.May turns provisos (.receive reactions packet)) :
    Proceeds provisos.shows Inv side (side.input turns (.receive reactions packet)) (side.trace turns (.receive reactions packet)) := by
  cases packet with
  | nil => exact .stay inv
  | cons header rest =>
      by_cases initialized : side.protocol.state = .initialized
      · unfold Endpoint.input Endpoint.trace
        dsimp only
        rw [fst_handleIncomingRawData]
        unfold traceHandleIncomingRawData
        dsimp only
        rw [if_pos initialized, if_pos initialized]
        exact .stay inv
      · exact kept.handleIncomingRawData initialized (kept.clearStall inv) reactions (List.cons_ne_nil _ _) may

theorem ackTimer (kept : Kept provisos Inv) {side : Endpoint} (inv : Inv side) :
    Proceeds provisos.shows Inv side (side.input turns .ackTimer) (side.trace turns .ackTimer) := by
  unfold input fireAckTimer Endpoint.trace
  dsimp only
  by_cases scheduled : side.protocol.out.ackTimer = none
  · rw [if_pos scheduled, if_pos scheduled]
    exact .stay inv
  · rw [if_neg scheduled, if_neg scheduled]
    have fired := kept.ackTimerFired inv scheduled
    exact (kept.loop fired (kept.ackTimerSends inv scheduled)).mono fun _ => And.left

theorem retransmitTimer (kept : Kept provisos Inv) {side : Endpoint} (inv : Inv side) {elapsed : UInt32}
    (may : provisos.fire side elapsed) :
    Proceeds provisos.shows Inv side (side.input turns (.retransmitTimer elapsed)) (side.trace turns (.retransmitTimer elapsed)) := by
  by_cases scheduled : side.protocol.out.retransmitTimer = none
  · unfold Endpoint.input fireRetransmitTimer Endpoint.trace
    dsimp only
    rw [if_pos scheduled, if_pos scheduled]
    exact .stay inv
  · exact kept.onSendTimeoutFired scheduled (kept.stalled inv scheduled may) (kept.rolledBack inv scheduled may)

/-- An input keeps the invariant. -/
theorem input (kept : Kept provisos Inv) {side : Endpoint} (inv : Inv side) {next : Input}
    (may : side.May turns provisos next) : Proceeds provisos.shows Inv side (side.input turns next) (side.trace turns next) := by
  cases next with
  | start =>
      unfold Endpoint.input Endpoint.start Endpoint.trace
      dsimp only
      by_cases initialized : side.protocol.state = .initialized
      · rw [if_pos initialized, assert_of initialized]
        exact kept.reset inv
      · rw [if_neg initialized, decide_eq_false initialized]
        exact .fails
  | reset => exact kept.reset inv
  | call clientCall =>
      apply (kept.call inv clientCall ?_).mono fun _ => And.left
      rintro rfl
      exact may
  | receive reactions packet => exact kept.receive inv reactions may
  | ackTimer => exact kept.ackTimer inv
  | retransmitTimer elapsed => exact kept.retransmitTimer inv may

/-- So does a run. -/
theorem run (kept : Kept provisos Inv) {May : Endpoint → Input → Prop}
    (may : ∀ side next, May side next → side.May turns provisos next) {side : Endpoint} (inv : Inv side)
    {inputs : List Input} (permits : side.Permits turns May inputs) :
    Proceeds provisos.shows Inv side (side.run turns inputs) (side.traces turns inputs) := by
  induction inputs generalizing side with
  | nil => exact .stay inv
  | cons next rest ih =>
      have first := kept.input inv (may side next permits.1)
      unfold Endpoint.run traces
      rw [List.foldlM_cons]
      exact first.thenOf (fun _ => id) fun between comes inv => ih inv (permits.2 between comes)

theorem reaches (kept : Kept provisos Inv) {May : Endpoint → Input → Prop}
    (may : ∀ side next, May side next → side.May turns provisos next) {side reached : Endpoint} (inv : Inv side)
    {inputs : List Input} (permits : side.Permits turns May inputs) (reaches : side.Reaches turns inputs reached) :
    Inv reached := by
  have proceeds := kept.run may inv permits
  cases reaches with
  | inl comes => exact proceeds.comes comes
  | inr happens =>
      obtain ⟨happening, member, rfl⟩ := happens
      exact (proceeds.2 happening member).1

theorem happens (kept : Kept provisos Inv) {May : Endpoint → Input → Prop}
    (may : ∀ side next, May side next → side.May turns provisos next) {side : Endpoint} (inv : Inv side)
    {inputs : List Input} (permits : side.Permits turns May inputs) {happening : Happening}
    (happens : happening ∈ side.traces turns inputs) : provisos.shows happening :=
  ((kept.run may inv permits).2 happening happens).2

end Kept

end GoldenGate.Gattlink

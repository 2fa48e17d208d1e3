import GoldenGate.Gattlink.Receiving

/-! # One endpoint, whatever comes in

The runs of a single endpoint: any client, any packets from the transport, any results of
`SendRawData`. The trace of a run has the calls of the client and the buffers that were
passed to `SendRawData`, each with the state of that moment, also those of an operation
that does not come back. Those that the transport took are what the run writes.
-/

namespace GoldenGate.Gattlink

open Memory

/-- `GG_GattlinkProtocol_Create`, with a client that has queued nothing. -/
def Endpoint.create (config : SessionConfig) (transportMaxPacketSize : Nat) (sendResults : List (Except Error Unit)) :
    Endpoint where
  protocol := ⟨.initialized, config, ⟨0, 0⟩, 0, 0, .zero, .zero⟩
  outgoing := []
  transportMaxPacketSize := transportMaxPacketSize
  sendResults := sendResults
  wire := []
  log := []

/-- What can happen to an endpoint. -/
inductive Input where
  | start
  | reset
  | call (clientCall : ClientCall)
  | receive (reactions : Reactions) (packet : List UInt8)
  | ackTimer
  | retransmitTimer (elapsed : UInt32)
  deriving Repr, DecidableEq

/-- A call of the client, or of `SendRawData` with a buffer and its size. -/
inductive Happening where
  | called (side : Endpoint) (clientCall : ClientCall)
  | sent (side : Endpoint) (packet : List UInt8) (size : Nat)

/-- The state in which it happened. -/
def Happening.side : Happening → Endpoint
  | called side _ => side
  | sent side _ _ => side

/-- The packets that the transport has taken. -/
def Happening.written : Happening → List (List UInt8)
  | called _ _ => []
  | sent side packet _ =>
      match side.sendResults with
      | .error _ :: _ => []
      | _ => [packet]

/-- The serial number that a data packet acks. -/
def ackOf : List UInt8 → Option Nat
  | [] => none
  | header :: _ =>
      if header &&& packetTypeMask ≠ packetTypeControl ∧ header &&& dataPacketTypeWithAck = dataPacketTypeWithAck then
        some (header &&& ackOrPsnMask).toNat
      else none

/-- The serial number and the payload behind the ack of a data packet, if there is one. -/
def payloadOf : List UInt8 → Option (Nat × List UInt8)
  | [] => none
  | header :: rest =>
      match if header &&& dataPacketTypeWithAck = dataPacketTypeWithAck then rest else header :: rest with
      | [] => none
      | header :: payload => some ((header &&& ackOrPsnMask).toNat, payload)

namespace Endpoint

/-- The size that `PrepareNextPacket` gives for the buffer. -/
def bufLen (self : Endpoint) (prepared : Prepared) : Nat :=
  (if AckPending self then 1 else 0) + if prepared.payloadSize > 0 then 1 + prepared.payloadSize else 0

/-! ## The states between -/

/-- The payloads up to one of those in flight are acked, and the client has consumed them. -/
def acknowledged (self : Endpoint) (ackdPsn : Nat) : Endpoint :=
  let out := self.protocol.out
  let nextPsn := getNextSn ackdPsn
  (self.setOut
    { rearm (out.clearPayloadSizesUpTo nextPsn) nextPsn with nextExpectedAckSn := nextPsn }).consumeOutgoingData
      (out.getTotalNumBytesAwaitingAckUpTo nextPsn)

/-- The client is told of the payload that was expected. -/
def accepted (self : Endpoint) (psn : Nat) (payload : List UInt8) : Endpoint :=
  (self.setIn (.accept psn payload)).notify (.incomingDataAvailable payload)

/-- The serial number that is acked from now on. -/
def ackWith (self : Endpoint) (psn : Nat) : Endpoint := self.setOut { self.protocol.out with psnToAckWith := psn }

def ackTimerFired (self : Endpoint) : Endpoint :=
  self.setOut { self.protocol.out with ackTimer := none, ackNow := true }

def retransmitTimerFired (self : Endpoint) (elapsed : UInt32) : Endpoint :=
  (self.setOut { self.protocol.out with retransmitTimer := none }).countStall elapsed

/-- Back to the first payload that is not acked. -/
def rolledBack (self : Endpoint) : Endpoint :=
  self.setOut { self.protocol.out with nextDataSn := self.protocol.out.nextExpectedAckSn }

theorem rolledBack_in (self : Endpoint) : self.rolledBack.protocol.in_ = self.protocol.in_ := rfl

/-- The windows of the session that is about to begin. -/
def agreed (self : Endpoint) (cfg : SessionConfig) : Endpoint :=
  { self with protocol := { self.protocol with actualSessionCfg := cfg } }

/-- The payload is not one that the endpoint expects, nor one that it takes for an old one. -/
def Unexpected (self : Endpoint) (psn : Nat) : Prop :=
  psn ≠ self.protocol.in_.nextExpectedDataPsn ∧
    calculateDistance psn self.protocol.in_.nextExpectedDataPsn ≥ self.protocol.actualSessionCfg.maxRxWindowSize.toNat

instance (self : Endpoint) (psn : Nat) : Decidable (self.Unexpected psn) :=
  inferInstanceAs (Decidable (_ ∧ _))

/-- A control packet, for which the transport must have room. -/
def sendControlPacket (self : Endpoint) (timeout : Nat) (packet : List UInt8) : Access Endpoint :=
  if self.transportMaxPacketSize ≥ packet.length then .ok ((self.scheduleRetransmit timeout).sendRawData packet).1
  else .error .assertion

section Operations

variable (turns : Nat)

theorem handleAck_eq (self : Endpoint) (reactions : Reactions) (ackdPsn : Nat) :
    handleAck turns self reactions ackdPsn =
      if self.protocol.out.packetIsAwaitingAck ackdPsn then calls turns (self.acknowledged ackdPsn) reactions.onConsume
      else return self := rfl

theorem acceptPayload_eq (self : Endpoint) (reactions : Reactions) (psn : Nat) (payload : List UInt8) :
    acceptPayload turns self reactions psn payload =
      calls turns (self.accepted psn payload) reactions.onIncoming >>= fun self => return self.ackWith psn := rfl

theorem onSendTimeoutFired_eq (self : Endpoint) (elapsed : UInt32) :
    onSendTimeoutFired turns (self.setOut { self.protocol.out with retransmitTimer := none }) elapsed =
      match (self.retransmitTimerFired elapsed).protocol.state with
      | .awaitingResetCompleteSelfInitiated | .awaitingResetCompleteRemoteInitiated =>
          Prod.fst <$> (self.retransmitTimerFired elapsed).reset
      | .initialized => return self.retransmitTimerFired elapsed
      | .ready => sendNextPackets turns (self.retransmitTimerFired elapsed).rolledBack := rfl

end Operations

/-! ## The operations without their results -/

/-- The result of an operation that always succeeds is dropped. -/
theorem fst_succeeds (result : Access Endpoint) :
    Prod.fst <$> (result >>= fun self => (return (self, .ok ()) : Access (Endpoint × Except Error Unit))) = result := by
  cases result <;> rfl

theorem fst_bind {α : Type} (result : Access α) (next : α → Access (Endpoint × Except Error Unit)) :
    Prod.fst <$> (result >>= next) = result >>= fun a => Prod.fst <$> next a := by
  cases result <;> rfl

section Results

variable (turns : Nat) (self : Endpoint) (reactions : Reactions)

theorem fst_handlePayload_nil : Prod.fst <$> handlePayload turns self reactions [] = sendNextPackets turns self :=
  fst_succeeds _

theorem fst_handlePayload_cons (header : UInt8) (payload : List UInt8) :
    Prod.fst <$> handlePayload turns self reactions (header :: payload) =
      if self.protocol.in_.payloadBufferFull ∨ self.Unexpected (header &&& ackOrPsnMask).toNat then .ok self
      else (if (header &&& ackOrPsnMask).toNat = self.protocol.in_.nextExpectedDataPsn then
          acceptPayload turns self reactions (header &&& ackOrPsnMask).toNat payload
        else .ok self) >>= fun self => sendNextPackets turns self.countUnacked := by
  unfold handlePayload Unexpected
  dsimp only
  by_cases full : self.protocol.in_.payloadBufferFull = true
  · rw [if_pos full, if_pos (.inl full)]
    rfl
  rw [if_neg full]
  generalize (header &&& ackOrPsnMask).toNat = psn
  by_cases unexpected : psn ≠ self.protocol.in_.nextExpectedDataPsn ∧
      calculateDistance psn self.protocol.in_.nextExpectedDataPsn ≥ self.protocol.actualSessionCfg.maxRxWindowSize.toNat
  · rw [if_pos unexpected, if_pos (.inr unexpected)]
    rfl
  · rw [if_neg unexpected, if_neg (not_or.mpr ⟨full, unexpected⟩)]
    split
    case isTrue =>
        rw [fst_bind]
        exact congrArg _ (funext fun self => fst_succeeds _)
    case isFalse => exact fst_succeeds _

theorem fst_handleDataPacket (header : UInt8) (rest : List UInt8) :
    Prod.fst <$> handleDataPacket turns self reactions (header :: rest) =
      if (header :: rest).length > maxPacketSize then .ok self
      else if header &&& dataPacketTypeWithAck = dataPacketTypeWithAck then
        handleAck turns self reactions (header &&& ackOrPsnMask).toNat >>= fun self =>
          Prod.fst <$> handlePayload turns self reactions rest
      else Prod.fst <$> handlePayload turns self reactions (header :: rest) := by
  unfold handleDataPacket
  by_cases long : (header :: rest).length > maxPacketSize
  · rw [if_pos long, if_pos long]
    rfl
  rw [if_neg long, if_neg long]
  have first : load (header :: rest) 0 = .ok header := rfl
  rw [first, ok_bind]
  by_cases withAck : header &&& dataPacketTypeWithAck = dataPacketTypeWithAck
  · rw [if_pos withAck, if_pos withAck, fst_bind]
    rfl
  · rw [if_neg withAck, if_neg withAck]

theorem fst_handleIncomingRawData (header : UInt8) (rest : List UInt8) :
    Prod.fst <$> handleIncomingRawData turns self reactions (header :: rest) =
      if self.protocol.state = .initialized then .ok self
      else if header &&& packetTypeMask = packetTypeControl then
        Prod.fst <$> handleControlPacket turns self.clearStall reactions (header &&& controlPacketTypeMask) (header :: rest)
      else if self.clearStall.protocol.state ≠ .ready then .ok self.clearStall
      else Prod.fst <$> handleDataPacket turns self.clearStall reactions (header :: rest) := by
  unfold handleIncomingRawData
  rw [if_neg (show ¬ (header :: rest).length = 0 from Nat.succ_ne_zero _)]
  by_cases initialized : self.protocol.state = .initialized
  · rw [if_pos initialized, if_pos initialized]
    rfl
  rw [if_neg initialized, if_neg initialized]
  have first : load (header :: rest) 0 = .ok header := rfl
  dsimp only
  rw [first, ok_bind]
  split
  case isTrue => rfl
  case isFalse =>
      split <;> rfl

theorem fst_sendControlPacket (timeout : Nat) (packet : List UInt8) :
    Prod.fst <$> (Memory.assert (decide (self.transportMaxPacketSize ≥ packet.length)) >>= fun _ =>
        (return (self.scheduleRetransmit timeout).sendRawData packet : Access (Endpoint × Except Error Unit))) =
      self.sendControlPacket timeout packet := by
  unfold sendControlPacket
  by_cases room : self.transportMaxPacketSize ≥ packet.length
  · rw [assert_of room, if_pos room]
    rfl
  · rw [decide_eq_false room, if_neg room]
    rfl

theorem fst_sendResetPacket :
    Prod.fst <$> self.sendResetPacket =
      self.sendControlPacket resetCompleteTimeout [buildControlPacket controlPacketTypeResetRequest] :=
  self.fst_sendControlPacket resetCompleteTimeout [buildControlPacket controlPacketTypeResetRequest]

theorem fst_sendResetCompletePacket :
    Prod.fst <$> self.sendResetCompletePacket =
      self.sendControlPacket resetCompleteAckTimeout (resetCompletePacket self.protocol.desiredSessionCfg) :=
  self.fst_sendControlPacket resetCompleteAckTimeout (resetCompletePacket self.protocol.desiredSessionCfg)

theorem fst_handleResetComplete_short {data : List UInt8} (short : data.length < resetCompletePacketSize) :
    Prod.fst <$> handleResetComplete turns self reactions data = .ok self := by
  unfold handleResetComplete
  rw [if_pos short]
  rfl

theorem fst_handleResetComplete (b0 b1 b2 rxWindowSize txWindowSize : UInt8) (rest : List UInt8) :
    Prod.fst <$> handleResetComplete turns self reactions (b0 :: b1 :: b2 :: rxWindowSize :: txWindowSize :: rest) =
      (let self := self.agreed (agree self.protocol.desiredSessionCfg rxWindowSize txWindowSize)
       (if self.protocol.state = .awaitingResetCompleteSelfInitiated then
          self.sendControlPacket resetCompleteAckTimeout (resetCompletePacket self.protocol.desiredSessionCfg)
        else .ok self) >>= fun self => calls turns self.enterSession reactions.onReady) := by
  unfold handleResetComplete
  have long : ¬ (b0 :: b1 :: b2 :: rxWindowSize :: txWindowSize :: rest).length < resetCompletePacketSize :=
    Nat.not_lt.mpr (Nat.le_add_left 5 rest.length)
  rw [if_neg long]
  have third : load (b0 :: b1 :: b2 :: rxWindowSize :: txWindowSize :: rest) 3 = .ok rxWindowSize := rfl
  have fourth : load (b0 :: b1 :: b2 :: rxWindowSize :: txWindowSize :: rest) 4 = .ok txWindowSize := rfl
  rw [third, ok_bind, fourth, ok_bind]
  dsimp only
  rw [← fst_sendResetCompletePacket]
  let cfg := agree self.protocol.desiredSessionCfg rxWindowSize txWindowSize
  by_cases selfInitiated : self.protocol.state = .awaitingResetCompleteSelfInitiated
  · rw [if_pos selfInitiated, if_pos (show (self.agreed cfg).protocol.state = _ from selfInitiated), fst_bind]
    simp only [fst_succeeds]
    rfl
  · rw [if_neg selfInitiated, if_neg (show ¬ (self.agreed cfg).protocol.state = _ from selfInitiated)]
    exact fst_succeeds _

theorem fst_handleControlPacket (type : UInt8) (data : List UInt8) :
    Prod.fst <$> handleControlPacket turns self reactions type data =
      if type = controlPacketTypeResetComplete then
        if self.protocol.state = .awaitingResetCompleteSelfInitiated ∨
            self.protocol.state = .awaitingResetCompleteRemoteInitiated then
          Prod.fst <$> handleResetComplete turns self reactions data
        else .ok self
      else if type = controlPacketTypeResetRequest then
        (self.leaveSession .awaitingResetCompleteRemoteInitiated).sendControlPacket resetCompleteAckTimeout
          (resetCompletePacket (self.leaveSession .awaitingResetCompleteRemoteInitiated).protocol.desiredSessionCfg)
      else .ok self := by
  unfold handleControlPacket
  split
  case isTrue =>
      split <;> rfl
  case isFalse =>
      split
      case isTrue => exact fst_sendResetCompletePacket _
      case isFalse => rfl

end Results

section Runs

variable (turns : Nat)

/-! ## Runs -/

def input (self : Endpoint) : Input → Access Endpoint
  | .start => Prod.fst <$> self.start
  | .reset => Prod.fst <$> self.reset
  | .call clientCall => call turns self clientCall
  | .receive reactions packet => Prod.fst <$> handleIncomingRawData turns self reactions packet
  | .ackTimer => self.fireAckTimer turns
  | .retransmitTimer elapsed => self.fireRetransmitTimer turns elapsed

def run (self : Endpoint) (inputs : List Input) : Access Endpoint := inputs.foldlM (input turns) self

/-- The retransmission timer fires: it may not be scheduled, it may be that of a reset, or the
    payloads are sent again. -/
theorem retransmitTimer_cases {self self' : Endpoint} {elapsed : UInt32}
    (done : input turns self (.retransmitTimer elapsed) = .ok self') :
    self.protocol.out.retransmitTimer = none ∧ self' = self ∨
      self.protocol.out.retransmitTimer ≠ none ∧
        match (self.retransmitTimerFired elapsed).protocol.state with
        | .initialized => self' = self.retransmitTimerFired elapsed
        | .ready => sendNextPackets turns (self.retransmitTimerFired elapsed).rolledBack = .ok self'
        | _ => Prod.fst <$> (self.retransmitTimerFired elapsed).reset = .ok self' := by
  unfold input fireRetransmitTimer at done
  dsimp only at done
  by_cases none : self.protocol.out.retransmitTimer = none
  · rw [if_pos none] at done
    cases done
    exact .inl ⟨none, rfl⟩
  rw [if_neg none, onSendTimeoutFired_eq] at done
  refine .inr ⟨none, ?_⟩
  cases isState : (self.retransmitTimerFired elapsed).protocol.state with
  | initialized =>
      rw [isState] at done
      cases done
      rfl
  | awaitingResetCompleteSelfInitiated | awaitingResetCompleteRemoteInitiated | ready =>
      rw [isState] at done
      exact done

/-- What follows an operation, if that comes back. -/
def after (result : Access Endpoint) (next : Endpoint → List Happening) : List Happening :=
  match result with
  | .ok self => next self
  | .error _ => []

/-- The packets of `SendNextPackets`. -/
def traceLoop : Nat → Endpoint → List Happening
  | 0, _ => []
  | turns + 1, self =>
      match self.prepareNextPacket with
      | .ok (next, some prepared) =>
          .sent self prepared.packet (self.bufLen prepared) ::
            match next.sendRawData prepared.packet with
            | (_, .error _) => []
            | (next, .ok _) => traceLoop turns (next.packetSent prepared)
      | _ => []

def traceCall (self : Endpoint) (clientCall : ClientCall) : List Happening :=
  .called self clientCall ::
    match clientCall with
    | .notifyOutgoingDataAvailable => traceLoop turns self
    | _ => []

def traceCalls (self : Endpoint) : List ClientCall → List Happening
  | [] => []
  | clientCall :: rest => traceCall turns self clientCall ++ after (call turns self clientCall) (traceCalls · rest)

def traceControlPacket (self : Endpoint) (timeout : Nat) (packet : List UInt8) : List Happening :=
  if self.transportMaxPacketSize ≥ packet.length then [.sent (self.scheduleRetransmit timeout) packet packet.length]
  else []

def traceReset (self : Endpoint) : List Happening :=
  (self.leaveSession .awaitingResetCompleteSelfInitiated).traceControlPacket resetCompleteTimeout
    [buildControlPacket controlPacketTypeResetRequest]

def traceResetComplete (self : Endpoint) : List Happening :=
  self.traceControlPacket resetCompleteAckTimeout (resetCompletePacket self.protocol.desiredSessionCfg)

def traceHandleResetComplete (self : Endpoint) (reactions : Reactions) (data : List UInt8) : List Happening :=
  match data with
  | _ :: _ :: _ :: rxWindowSize :: txWindowSize :: _ =>
      let self := self.agreed (agree self.protocol.desiredSessionCfg rxWindowSize txWindowSize)
      if self.protocol.state = .awaitingResetCompleteSelfInitiated then
        self.traceResetComplete ++
          after (Prod.fst <$> self.sendResetCompletePacket) fun self =>
            traceCalls turns self.enterSession reactions.onReady
      else traceCalls turns self.enterSession reactions.onReady
  | _ => []

def traceHandleControlPacket (self : Endpoint) (reactions : Reactions) (type : UInt8) (data : List UInt8) :
    List Happening :=
  if type = controlPacketTypeResetComplete then
    if self.protocol.state = .awaitingResetCompleteSelfInitiated ∨
        self.protocol.state = .awaitingResetCompleteRemoteInitiated then
      traceHandleResetComplete turns self reactions data
    else []
  else if type = controlPacketTypeResetRequest then
    (self.leaveSession .awaitingResetCompleteRemoteInitiated).traceResetComplete
  else []

def traceHandleAck (self : Endpoint) (reactions : Reactions) (ackdPsn : Nat) : List Happening :=
  if self.protocol.out.packetIsAwaitingAck ackdPsn then
    traceCalls turns (self.acknowledged ackdPsn) reactions.onConsume
  else []

def traceHandlePayload (self : Endpoint) (reactions : Reactions) : List UInt8 → List Happening
  | [] => traceLoop turns self
  | header :: payload =>
      let psn := (header &&& ackOrPsnMask).toNat
      if self.protocol.in_.payloadBufferFull ∨ self.Unexpected psn then []
      else if psn = self.protocol.in_.nextExpectedDataPsn then
        traceCalls turns (self.accepted psn payload) reactions.onIncoming ++
          after (acceptPayload turns self reactions psn payload) fun self => traceLoop turns self.countUnacked
      else traceLoop turns self.countUnacked

def traceHandleDataPacket (self : Endpoint) (reactions : Reactions) (data : List UInt8) : List Happening :=
  match data with
  | [] => []
  | header :: rest =>
      if data.length > maxPacketSize then []
      else if header &&& dataPacketTypeWithAck = dataPacketTypeWithAck then
        let ackdPsn := (header &&& ackOrPsnMask).toNat
        traceHandleAck turns self reactions ackdPsn ++
          after (handleAck turns self reactions ackdPsn) fun self => traceHandlePayload turns self reactions rest
      else traceHandlePayload turns self reactions data

def traceHandleIncomingRawData (self : Endpoint) (reactions : Reactions) (data : List UInt8) : List Happening :=
  match data with
  | [] => []
  | header :: _ =>
      if self.protocol.state = .initialized then []
      else
        let self := self.clearStall
        if header &&& packetTypeMask = packetTypeControl then
          traceHandleControlPacket turns self reactions (header &&& controlPacketTypeMask) data
        else if self.protocol.state ≠ .ready then []
        else traceHandleDataPacket turns self reactions data

def traceRetransmitTimer (self : Endpoint) (elapsed : UInt32) : List Happening :=
  let self := self.retransmitTimerFired elapsed
  match self.protocol.state with
  | .awaitingResetCompleteSelfInitiated | .awaitingResetCompleteRemoteInitiated => self.traceReset
  | .initialized => []
  | .ready => traceLoop turns self.rolledBack

def trace (self : Endpoint) : Input → List Happening
  | .start => if self.protocol.state = .initialized then self.traceReset else []
  | .reset => self.traceReset
  | .call clientCall => traceCall turns self clientCall
  | .receive reactions packet => traceHandleIncomingRawData turns self reactions packet
  | .ackTimer => if self.protocol.out.ackTimer = none then [] else traceLoop turns self.ackTimerFired
  | .retransmitTimer elapsed =>
      if self.protocol.out.retransmitTimer = none then [] else traceRetransmitTimer turns self elapsed

def traces (self : Endpoint) : List Input → List Happening
  | [] => []
  | next :: rest => trace turns self next ++ after (input turns self next) (traces · rest)

/-- A state of a run, also one in the middle of an operation. -/
def Reaches (self : Endpoint) (inputs : List Input) (reached : Endpoint) : Prop :=
  self.run turns inputs = .ok reached ∨ ∃ happening ∈ self.traces turns inputs, happening.side = reached

theorem run_append (self : Endpoint) (inputs more : List Input) :
    self.run turns (inputs ++ more) = self.run turns inputs >>= fun self => self.run turns more :=
  List.foldlM_append

theorem run_single (self : Endpoint) (next : Input) : self.run turns [next] = input turns self next := by
  unfold run
  rw [List.foldlM_cons]
  cases input turns self next <;> rfl

theorem reaches_single (self : Endpoint) (next : Input) (reached : Endpoint) :
    self.Reaches turns [next] reached ↔
      input turns self next = .ok reached ∨ ∃ happening ∈ trace turns self next, happening.side = reached := by
  unfold Reaches
  have only : self.traces turns [next] = trace turns self next := by
    unfold traces
    cases input turns self next <;> simp [after, traces]
  rw [run_single, only]

/-- Whatever happens in a run may happen. -/
def Permits (May : Endpoint → Input → Prop) (self : Endpoint) : List Input → Prop
  | [] => True
  | next :: rest => May self next ∧ ∀ self', input turns self next = .ok self' → Permits May self' rest

theorem permits_true (self : Endpoint) (inputs : List Input) : self.Permits turns (fun _ _ => True) inputs := by
  induction inputs generalizing self with
  | nil => trivial
  | cons next rest ih => exact ⟨trivial, fun between _ => ih between⟩

theorem permits_append {May : Endpoint → Input → Prop} {self : Endpoint} {inputs more : List Input} :
    self.Permits turns May (inputs ++ more) ↔
      self.Permits turns May inputs ∧ ∀ between, self.run turns inputs = .ok between → between.Permits turns May more := by
  induction inputs generalizing self with
  | nil => exact ⟨fun permits => ⟨trivial, fun _ same => Except.ok.inj same ▸ permits⟩, fun both => both.2 self rfl⟩
  | cons next rest ih =>
      rw [List.cons_append, Permits, Permits]
      simp only [ih, run, List.foldlM_cons]
      cases input turns self next with
      | error fault => simp
      | ok between => simp [and_assoc]

instance decidablePermits (May : Endpoint → Input → Prop) [∀ self next, Decidable (May self next)] (self : Endpoint) :
    ∀ inputs, Decidable (Permits turns May self inputs)
  | [] => inferInstanceAs (Decidable True)
  | _ :: rest =>
      have := fun self' => decidablePermits May self' rest
      inferInstanceAs (Decidable (_ ∧ _))

end Runs

end Endpoint

end GoldenGate.Gattlink

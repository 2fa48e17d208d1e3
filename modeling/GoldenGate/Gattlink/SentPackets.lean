import GoldenGate.Gattlink.Invariants
import GoldenGate.Gattlink.Resets

/-! # What is sent

The sizes of the buffers, and the states in which they are passed to `SendRawData`. A
payload is sent again with the size it had the first time, whatever the transport takes now
and whether an ack is in front of it or not.
-/

namespace GoldenGate.Gattlink

open Memory Endpoint

/-! ## Sizes -/

/-- The next packet has a payload that was sent before. -/
def Endpoint.Resends (side : Endpoint) : Prop :=
  side.protocol.out.getNumPacketsInFlight < side.protocol.actualSessionCfg.maxTxWindowSize.toNat ∧
    side.outgoing.length ≠ 0 ∧ side.protocol.out.payloadSizes side.protocol.out.nextDataSn ≠ 0

/-- The next packet is no larger than a packet may be now, if it was sent before. -/
def Endpoint.Fits (side : Endpoint) : Prop :=
  side.Resends →
    (if AckPending side then 1 else 0) + (1 + side.protocol.out.payloadSizes side.protocol.out.nextDataSn) ≤
      min side.transportMaxPacketSize maxPacketSize

/-- What was sent before is sent with the same size. -/
theorem prepareData_resends {side : Endpoint} (resends : side.Resends) (ack : List UInt8) (maxSize : Nat) :
    side.prepareData ack maxSize = .ok (side.armRetransmit, some
      ⟨ack ++ UInt8.ofNat side.protocol.out.nextDataSn ::
          (side.outgoing.drop side.protocol.out.getTotalNumBytesAwaitingAck).take
            (side.protocol.out.payloadSizes side.protocol.out.nextDataSn),
        side.protocol.out.payloadSizes side.protocol.out.nextDataSn⟩) := by
  obtain ⟨windowOpen, queued, again⟩ := resends
  have size : ∀ offset, side.nextDataSize maxSize offset =
      .ok (side.protocol.out.payloadSizes side.protocol.out.nextDataSn) := by
    intro offset
    unfold nextDataSize
    dsimp only
    rw [if_neg again]
    rfl
  unfold prepareData
  dsimp only
  rw [if_neg (Nat.not_le.mpr windowOpen), if_neg queued, size, ok_bind, if_neg again]
  rfl

/-- The size of the buffer, against what the transport takes. -/
theorem bufLen_le_iff {side next : Endpoint} {prepared : Prepared}
    (prepares : side.prepareNextPacket = .ok (next, some prepared)) :
    side.bufLen prepared ≤ min side.transportMaxPacketSize maxPacketSize ↔ side.Fits := by
  obtain ⟨room, prepares⟩ := prepareNextPacket_cases prepares
  have isFits : side.Fits ↔ (side.Resends → (if AckPending side then 1 else 0) +
      (1 + side.protocol.out.payloadSizes side.protocol.out.nextDataSn) ≤
        min side.transportMaxPacketSize maxPacketSize) := .rfl
  unfold resetCompletePacketSize at room
  generalize min side.transportMaxPacketSize maxPacketSize = maxSize at *
  unfold bufLen
  rw [isFits]
  generalize isAck : (if AckPending side then 1 else 0) = ackLen at *
  have small : ackLen ≤ 1 := by
    rw [← isAck]
    split <;> omega
  obtain ⟨-, isNone | ⟨-, isAckOnly⟩⟩ | ⟨-, dataSize, nonzero, size, windowOpen, queued, isData⟩ := prepareData_some prepares
  · cases isNone
  · have notAgain : ¬ side.Resends := by
      intro resends
      rw [prepareData_resends resends, isAckOnly] at prepares
      injection prepares with same
      injection same with _ same
      injection same with same
      injection same with _ zero
      exact resends.2.2 zero
    cases isAckOnly
    exact ⟨fun _ resends => (notAgain resends).elim, fun _ => by simp; omega⟩
  · cases isData
    dsimp only
    rw [if_pos (Nat.pos_of_ne_zero nonzero)]
    obtain ⟨first, -, isSize⟩ | ⟨again, isSize⟩ := nextDataSize_cases size
    · have notAgain : ¬ side.Resends := fun resends => resends.2.2 first
      exact ⟨fun _ resends => (notAgain resends).elim, fun _ => by omega⟩
    · have resends : side.Resends := ⟨windowOpen, queued, again⟩
      rw [isSize]
      exact ⟨fun le _ => le, fun fits => fits resends⟩

theorem length_packet_le {side next : Endpoint} {prepared : Prepared}
    (prepares : side.prepareNextPacket = .ok (next, some prepared)) : prepared.packet.length ≤ side.bufLen prepared := by
  have ackLen : (if AckPending side then [dataPacketTypeWithAck ||| UInt8.ofNat side.protocol.out.psnToAckWith]
      else []).length = if AckPending side then 1 else 0 := by
    split <;> rfl
  unfold bufLen
  rw [← ackLen]
  obtain ⟨-, isNone | ⟨-, isAckOnly⟩⟩ | ⟨-, dataSize, nonzero, -, -, -, isData⟩ :=
    prepareData_some (prepareNextPacket_cases prepares).2
  · cases isNone
  · cases isAckOnly
    exact Nat.le_add_right _ _
  · cases isData
    have taken := List.length_take_le dataSize (side.outgoing.drop side.protocol.out.getTotalNumBytesAwaitingAck)
    rw [List.length_append, List.length_cons]
    dsimp only
    rw [if_pos (Nat.pos_of_ne_zero nonzero)]
    omega

/-- Which packets there are: those of the loop, and those of a reset. -/
def IsSent : Happening → Prop
  | .sent side packet size =>
      (∃ next prepared, side.prepareNextPacket = .ok (next, some prepared) ∧ packet = prepared.packet ∧
          size = side.bufLen prepared) ∨
        side.IsControl packet ∧ size = packet.length ∧ packet.length ≤ side.transportMaxPacketSize
  | .called _ _ => True

theorem kept_sent : Kept { shows := IsSent } fun _ => True where
  queue _ _ := trivial
  consumeIncomingData _ _ := trivial
  resize _ _ := trivial
  refused _ _ := trivial
  sent _ _ := trivial
  acknowledge _ _ _ _ _ := trivial
  accept _ _ _ _ _ _ _ := trivial
  ackWith _ _ _ := trivial
  countUnacked _ _ := trivial
  packet _ _ prepares := .inl ⟨_, _, prepares, rfl, rfl⟩
  leave _ _ _ := trivial
  schedule _ _ _ _ := trivial
  transmit _ _ _ _ := trivial
  agree _ _ _ _ _ := trivial
  enter _ _ _ := trivial
  control _ _ isControl room := .inr ⟨isControl, rfl, room⟩
  clearStall _ := trivial
  ackTimerFired _ _ := trivial
  stalled _ _ _ _ := trivial
  rolledBack _ _ _ _ := trivial

/-- The packets of the trace that the transport has taken are those that the run has written. -/
theorem run_wire {turns : Nat} {side side' : Endpoint} {inputs : List Input} (runs : side.run turns inputs = .ok side') :
    side'.wire = side.wire ++ (side.traces turns inputs).flatMap Happening.written :=
  ((kept_sent.run (fun side next _ => may_of_true turns side next) trivial (permits_true turns side inputs)).1 side' runs).2

theorem length_control_le {side : Endpoint} {packet : List UInt8} (isControl : side.IsControl packet) :
    packet.length ≤ maxPacketSize := by
  obtain rfl | rfl := isControl
  · exact Nat.le_of_ble_eq_true rfl
  · exact Nat.le_of_ble_eq_true rfl

/-- In every run a control packet is no larger than the transport takes; and a data packet is
    no larger exactly when its payload is new, or fits with the size it had before. No more is
    written to the buffer than is sent. -/
theorem sentPackets_fit_iff (config : SessionConfig) (transportMaxPacketSize turns : Nat)
    (sendResults : List (Except Error Unit)) (inputs : List Input) {side : Endpoint} {packet : List UInt8} {size : Nat}
    (sent : .sent side packet size ∈ (create config transportMaxPacketSize sendResults).traces turns inputs) :
    packet.length ≤ size ∧
      (side.IsControl packet ∧ size ≤ min side.transportMaxPacketSize maxPacketSize ∨
        (size ≤ min side.transportMaxPacketSize maxPacketSize ↔ side.Fits)) := by
  have isSent : IsSent (.sent side packet size) :=
    kept_sent.happens (fun side next _ => may_of_true turns side next) trivial (permits_true turns _ inputs) sent
  obtain ⟨next, prepared, prepares, rfl, rfl⟩ | ⟨isControl, rfl, room⟩ := isSent
  · exact ⟨length_packet_le prepares, .inr (bufLen_le_iff prepares)⟩
  · exact ⟨le_rfl, .inl ⟨isControl, le_min room (length_control_le isControl)⟩⟩

/-- A payload that fills a packet is sent. -/
def fullPacket (transportMaxPacketSize : Nat) : List Input :=
  [.start, .receive ⟨[], [], []⟩ (resetCompletePacket ⟨8, 8⟩),
    .call (.queue (List.replicate (transportMaxPacketSize - 1) 7)), .call .notifyOutgoingDataAvailable]

theorem sentPackets_fit_fullPacket :
    ∃ side packet size, .sent side packet size ∈ (create ⟨8, 8⟩ 20 []).traces 10 (fullPacket 20) ∧ size = 20 ∧
      packet.length ≤ size := by
  refine ⟨_, _, _, .tail _ (.tail _ (.tail _ (.tail _ (.head _)))), rfl, ?_⟩
  exact (sentPackets_fit_iff ⟨8, 8⟩ 20 10 [] (fullPacket 20) (.tail _ (.tail _ (.tail _ (.tail _ (.head _)))))).1

/-- The size of a buffer is one that the transport takes, and that the buffer has. -/
def Happening.InLimit : Happening → Prop
  | .sent side _ size => size ≤ min side.transportMaxPacketSize maxPacketSize
  | .called _ _ => True

instance : ∀ happening : Happening, Decidable happening.InLimit
  | .sent _ _ _ => inferInstanceAs (Decidable (_ ≤ _))
  | .called _ _ => isTrue trivial

set_option maxRecDepth 20000 in
/-- The transport takes less than before; or an ack that could not be sent is put in front of
    a payload that fills the buffer. -/
theorem resent_beyond_limit :
    (¬ ∀ happening ∈ (create ⟨8, 8⟩ 20 []).traces 10
      (fullPacket 20 ++ [Input.call (.setTransportMaxPacketSize 10), .retransmitTimer 4000]), happening.InLimit) ∧
    ∃ side packet, .sent side packet 513 ∈ (create ⟨8, 8⟩ 512 [.ok (), .ok (), .ok (), .error .notEnoughSpace]).traces 10
      (fullPacket 512 ++ [Input.receive ⟨[], [], []⟩ [0, 7], .ackTimer, .retransmitTimer 4000]) := by
  constructor
  · decide
  · refine ⟨_, _, .tail _ (.tail _ (.tail _ (.tail _ (.tail _ (.tail _ (.head _))))))⟩

/-! ## States -/

/-- There is nothing to send: no ack, and no data that the window has room for. -/
def Endpoint.Idle (side : Endpoint) : Prop :=
  ¬ AckPending side ∧
    (side.protocol.actualSessionCfg.maxTxWindowSize.toNat ≤ side.protocol.out.getNumPacketsInFlight ∨
      side.outgoing.length = 0 ∨
        side.protocol.out.payloadSizes side.protocol.out.nextDataSn = 0 ∧
          side.outgoing.length = side.protocol.out.getTotalNumBytesAwaitingAck)

instance (side : Endpoint) : Decidable side.Idle := inferInstanceAs (Decidable (_ ∧ _))

theorem Endpoint.Idle.nothing {side next : Endpoint} {prepared : Prepared} (idle : side.Idle)
    (prepares : side.prepareNextPacket = .ok (next, some prepared)) : False := by
  obtain ⟨silent, none⟩ := idle
  have prepares := (prepareNextPacket_cases prepares).2
  rw [if_neg silent] at prepares
  obtain ⟨-, isNone | ⟨nonempty, -⟩⟩ | ⟨-, dataSize, nonzero, size, windowOpen, queued, -⟩ := prepareData_some prepares
  · cases isNone
  · exact nonempty rfl
  · obtain full | empty | ⟨new, all⟩ := none
    · exact Nat.not_lt.mpr full windowOpen
    · exact queued empty
    · unfold nextDataSize at size
      dsimp only at size
      rw [if_pos new, all] at size
      obtain ⟨_, -, size⟩ := bind_ok size
      cases size
      simp at nonzero

/-- The client announces data in a session only, unless there is nothing to send. -/
def Endpoint.NotifiesInSession (side : Endpoint) : Input → Prop
  | .call .notifyOutgoingDataAvailable => side.protocol.state = .ready ∨ side.Idle
  | _ => True

instance : ∀ (side : Endpoint) (next : Input), Decidable (side.NotifiesInSession next)
  | _, .call .notifyOutgoingDataAvailable => inferInstanceAs (Decidable (_ ∨ _))
  | _, .call (.queue _) | _, .call (.consumeIncomingData _) | _, .call (.setTransportMaxPacketSize _)
  | _, .start | _, .reset | _, .receive _ _ | _, .ackTimer | _, .retransmitTimer _ => isTrue trivial

/-- Data and acks are sent in a session, and the client has not been told of a reset since it
    was told that the session is ready. -/
def SentInSession : Happening → Prop
  | .sent side packet _ =>
      packet.headD 0 &&& packetTypeMask = packetTypeControl ∨
        side.protocol.state = .ready ∧ Event.sessionReady ∈ session side.log
  | .called _ _ => True

/-- What holds for the states of an endpoint. -/
structure Endpoint.Guarded (side : Endpoint) : Prop where
  noTimer : side.protocol.state ≠ .ready → side.protocol.out.ackTimer = none
  inSession : side.protocol.state = .ready → Event.sessionReady ∈ session side.log

/-- An event that is not a reset. -/
theorem ready_concat {log : List Event} {event : Event} (other : event ≠ .sessionReset)
    (inSession : Event.sessionReady ∈ session log) : Event.sessionReady ∈ session (log ++ [event]) := by
  rw [session_concat log other]
  exact List.mem_append_left _ inSession

def notifiesInSession : Provisos where
  notify side := side.Idle
  shows := SentInSession

theorem Endpoint.Guarded.stall {side side' : Endpoint} (guarded : side.Guarded) (same : SameWindow side side') :
    side'.Guarded := by
  obtain ⟨noTimer, inSession⟩ := guarded
  refine ⟨?_, ?_⟩
  · rw [same.state, same.out]
    exact noTimer
  · rw [same.state]
    intro ready
    cases same.log with
    | inl log => exact log ▸ inSession ready
    | inr stalled =>
        obtain ⟨time, log⟩ := stalled
        exact log ▸ ready_concat nofun (inSession ready)

theorem Endpoint.Guarded.rolledBack {side : Endpoint} (guarded : side.Guarded) : side.rolledBack.Guarded :=
  ⟨guarded.noTimer, guarded.inSession⟩

theorem NotifiesInSession.may (turns : Nat) {side : Endpoint} {next : Input} (notifies : side.NotifiesInSession next) :
    side.May turns notifiesInSession next := by
  cases next with
  | start | reset | ackTimer | retransmitTimer => trivial
  | receive reactions packet => exact fun _ _ _ => ⟨fun _ _ => trivial, fun _ _ _ _ _ _ _ => trivial⟩
  | call clientCall =>
      cases clientCall with
      | queue | consumeIncomingData | setTransportMaxPacketSize => trivial
      | notifyOutgoingDataAvailable => exact notifies

end GoldenGate.Gattlink

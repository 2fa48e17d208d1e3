import GoldenGate.Gattlink.WindowRuns

/-! # Data that was announced

As long as the client has data that it has announced, the retransmission timer is to be
scheduled. The timer is stopped when nothing is left to be acked; unless the loop that sends
packets comes afterwards, nothing schedules it again.
-/

namespace GoldenGate.Gattlink

open Memory Endpoint

namespace Endpoint

/-! ## The window and the timer -/

/-- Whenever something has been sent, the timer is scheduled. The next payload to send is in
    order, or the window has no room for it until the timer fires. -/
def Underway (side : Endpoint) : Prop :=
  side.protocol.state = .ready → ∃ n k, side.Window n k ∧
    (n ≤ k ∧ (0 < n → side.protocol.out.retransmitTimer ≠ none) ∨
      k < n ∧ side.protocol.actualSessionCfg.maxTxWindowSize.toNat ≤ n ∧ side.protocol.out.retransmitTimer ≠ none)

/-- All payloads in flight are awaited. -/
def AwaitsAll (side : Endpoint) : Prop :=
  ∀ sn ∈ Outbound.snsUpTo side.protocol.out.nextDataSn snWindowSize side.protocol.out.nextExpectedAckSn,
    side.protocol.out.packetIsAwaitingAck sn = true

/-- The ack of an awaited payload leaves the next payload to send in order, or it leaves no
    room for it and something to wait for. -/
def GoesOn (side : Endpoint) (psn : Nat) : Prop :=
  let out := side.protocol.out
  side.AwaitsAll ∧ (calculateDistance out.nextExpectedAckSn psn < out.getNumPacketsInFlight ∨
      out.getNumPacketsInFlight = 0 ∧ ∀ sn < snWindowSize, out.packetIsAwaitingAck sn = true) ∨
    out.packetIsAwaitingAck (getNextSn psn) = true ∧ (getNextSn psn = out.nextExpectedAckSn ∨
      side.protocol.actualSessionCfg.maxTxWindowSize.toNat ≤ calculateDistance (getNextSn psn) out.nextDataSn)

instance (side : Endpoint) : Decidable side.AwaitsAll := inferInstanceAs (Decidable (∀ _ ∈ _, _))

instance (side : Endpoint) (psn : Nat) : Decidable (side.GoesOn psn) := inferInstanceAs (Decidable (_ ∧ _ ∨ _ ∧ _))

variable {side : Endpoint} {n k : Nat}

theorem Window.awaitsAll_iff (window : side.Window n k) : side.AwaitsAll ↔ n ≤ k := by
  have visited := @snsUpTo_eq snWindowSize side.protocol.out.nextExpectedAckSn n window.near.le window.near
  rw [Nat.mod_eq_of_lt window.ackSn] at visited
  have near := window.near
  unfold AwaitsAll
  rw [window.dataSn, visited]
  constructor
  · intro all
    by_contra short
    have last := all _ (List.mem_map.mpr ⟨k, List.mem_range.mpr (Nat.not_le.mp short), rfl⟩)
    have kept : side.protocol.out.sizeAt k ≠ 0 := by simpa [Outbound.packetIsAwaitingAck, Outbound.sizeAt] using last
    exact Nat.lt_irrefl k ((window.sizes k (by omega)).mp kept)
  · rintro valid sn member
    obtain ⟨i, isIndex, rfl⟩ := List.mem_map.mp member
    have below := List.mem_range.mp isIndex
    have kept := (window.sizes i (by omega)).mpr (by omega)
    simpa [Outbound.packetIsAwaitingAck, Outbound.sizeAt] using kept

/-- Whether the payload with a number is awaited. -/
theorem Window.awaiting_iff (window : side.Window n k) {sn i : Nat} (isSn : sn = (side.protocol.out.nextExpectedAckSn + i) % snWindowSize)
    (inside : i < snWindowSize) : side.protocol.out.packetIsAwaitingAck sn = true ↔ i < k := by
  rw [← window.sizes i inside, isSn]
  simp [Outbound.packetIsAwaitingAck, Outbound.sizeAt]

theorem Underway.outside (left : side.protocol.state ≠ .ready) : side.Underway := fun ready => (left ready).elim

/-- What does not touch the window, and does not stop the timer. -/
theorem Underway.congr {side' : Endpoint} (underway : side.Underway) (same : SameSns side side')
    (timer : side.protocol.out.retransmitTimer ≠ none → side'.protocol.out.retransmitTimer ≠ none) : side'.Underway := by
  intro ready
  obtain ⟨n, k, window, progress⟩ := underway (same.state ▸ ready)
  refine ⟨n, k, window.congr same, ?_⟩
  rw [same.session]
  obtain ⟨valid, running⟩ | ⟨behind, full, running⟩ := progress
  · exact .inl ⟨valid, timer ∘ running⟩
  · exact .inr ⟨behind, full, timer running⟩

theorem armRetransmit_timer (side : Endpoint) : side.armRetransmit.protocol.out.retransmitTimer ≠ none := by
  unfold armRetransmit
  split
  case isTrue => nofun
  case isFalse scheduled => exact scheduled

/-- Preparing a packet does not stop the timer, and schedules it for a payload. -/
theorem prepareNextPacket_timer {next : Endpoint} {prepared : Prepared}
    (prepares : side.prepareNextPacket = .ok (next, some prepared)) :
    (side.protocol.out.retransmitTimer ≠ none → next.protocol.out.retransmitTimer ≠ none) ∧
      (prepared.payloadSize ≠ 0 → next.protocol.out.retransmitTimer ≠ none) := by
  obtain ⟨rfl, isNone | ⟨-, isAck⟩⟩ | ⟨rfl, -⟩ := prepareData_some (prepareNextPacket_cases prepares).2
  · cases isNone
  · cases isAck
    exact ⟨id, fun data => (data rfl).elim⟩
  · have scheduled := armRetransmit_timer side
    exact ⟨fun _ => scheduled, fun _ => scheduled⟩

theorem withSent_timer {next : Endpoint} (prepared : Prepared) :
    (next.withSent prepared).protocol.out.retransmitTimer = next.protocol.out.retransmitTimer := by
  unfold withSent packetSent
  dsimp only
  split <;> split <;> rfl

/-- The next packet leaves everything underway. -/
theorem Underway.sent {next : Endpoint} {prepared : Prepared} (underway : side.Underway)
    (prepares : side.prepareNextPacket = .ok (next, some prepared)) : (next.withSent prepared).Underway := by
  intro ready
  rw [KeptInSession.withSent_state prepares] at ready
  obtain ⟨n, k, window, progress⟩ := underway ready
  obtain ⟨keeps, schedules⟩ := prepareNextPacket_timer prepares
  rw [withSent_timer]
  by_cases data : prepared.payloadSize = 0
  · obtain ⟨-, rfl, -, out⟩ | ⟨-, nonzero, -⟩ := withSent_cases window.smallSns.dataSn prepares
    · refine ⟨n, k, window.congr ⟨rfl, rfl, ?_, ?_, ?_, Nat.le_refl _⟩, progress⟩
      all_goals rw [out]; rfl
    · exact (nonzero data).elim
  · have inOrder : n ≤ k := by
      obtain ⟨-, -, noData, -⟩ | ⟨-, -, -, windowOpen, -⟩ := withSent_cases window.smallSns.dataSn prepares
      · exact (data noData).elim
      · rw [window.inFlight] at windowOpen
        omega
    refine ⟨_, _, window.send inOrder prepares data, .inl ⟨?_, fun _ => schedules data⟩⟩
    exact (Nat.mod_le _ _).trans (Nat.le_max_right _ _)

/-- An ack that would be for all serial numbers is for none: the loops end at once. -/
theorem Window.acknowledge_none {psn : Nat} (window : side.Window n k) (some : 0 < k)
    (isPsn : getNextSn psn = side.protocol.out.nextExpectedAckSn) :
    (side.acknowledged psn).Window n k ∧ (side.acknowledged psn).protocol.out.retransmitTimer ≠ none ∧
      (side.acknowledged psn).outgoing = side.outgoing := by
  have none : ∀ turns, Outbound.snsUpTo side.protocol.out.nextExpectedAckSn turns side.protocol.out.nextExpectedAckSn = [] := by
    intro turns
    cases turns with
    | zero => rfl
    | succ turns => exact if_pos rfl
  have clears : side.protocol.out.clearPayloadSizesUpTo side.protocol.out.nextExpectedAckSn = side.protocol.out := by
    unfold Outbound.clearPayloadSizesUpTo
    rw [none]
    rfl
  have total : side.protocol.out.getTotalNumBytesAwaitingAckUpTo side.protocol.out.nextExpectedAckSn = 0 := by
    unfold Outbound.getTotalNumBytesAwaitingAckUpTo
    rw [none]
    rfl
  have out := acknowledged_out side psn
  rw [isPsn, clears] at out
  have outgoing : (side.acknowledged psn).outgoing = side.outgoing := by
    unfold acknowledged
    rw [isPsn]
    dsimp only
    rw [total, consumeOutgoingData_outgoing (Nat.zero_le _)]
    rfl
  refine ⟨?_, ?_, outgoing⟩
  · refine window.congr ⟨?_, ?_, ?_, ?_, ?_, Nat.le_of_eq (congrArg List.length outgoing.symm)⟩
    · rw [acknowledged_protocol]
    · rw [acknowledged_protocol]
    · rw [out]
    · rw [out]
      rfl
    · rw [out]
      rfl
  · have awaited := (window.awaiting_iff (Nat.mod_eq_of_lt window.ackSn).symm (Nat.succ_pos 31)).mpr some
    rw [out]
    change (if side.protocol.out.packetIsAwaitingAck _ = true then Option.some expectedAckTimeout else Option.none) ≠ Option.none
    rw [if_pos awaited]
    nofun

/-- An ack leaves everything underway. -/
theorem Underway.acknowledge {psn : Nat} (underway : side.Underway) (ready : side.protocol.state = .ready)
    (small : psn < snWindowSize) (awaiting : side.protocol.out.packetIsAwaitingAck psn = true)
    (goesOn : side.GoesOn psn) : (side.acknowledged psn).Underway := by
  intro _
  obtain ⟨n, k, window, progress⟩ := underway ready
  have kept := window.acked_le small awaiting
  have isPsn := window.next_psn small
  have near := window.near
  have all := window.all
  have ackSn := window.ackSn
  have session : (side.acknowledged psn).protocol.actualSessionCfg = side.protocol.actualSessionCfg := by
    rw [acknowledged_protocol]
  unfold GoesOn at goesOn
  dsimp only at goesOn
  rw [window.awaitsAll_iff, window.inFlight] at goesOn
  obtain ⟨acked, isAcked⟩ : ∃ acked, acked = calculateDistance side.protocol.out.nextExpectedAckSn psn + 1 := ⟨_, rfl⟩
  rw [← isAcked] at kept isPsn
  by_cases around : acked = snWindowSize
  · -- the ack is for the number before the first of 32 payloads
    have isAckSn : getNextSn psn = side.protocol.out.nextExpectedAckSn := by
      rw [isPsn, around]
      unfold snWindowSize at *
      omega
    obtain ⟨window', timer, -⟩ := window.acknowledge_none (by omega) isAckSn
    exact ⟨n, k, window', .inl ⟨by omega, fun _ => timer⟩⟩
  have some : 0 < acked := by omega
  have few : acked < snWindowSize := by omega
  obtain ⟨window', -, timer⟩ := window.acknowledge some kept few isPsn
  refine ⟨_, _, window', ?_⟩
  rw [timer, session]
  obtain ⟨valid, inFlight | ⟨rolledBack, all⟩⟩ | ⟨awaited, again⟩ := goesOn
  · unfold snWindowSize at *
    exact .inl ⟨by omega, by omega⟩
  · have last := (window.awaiting_iff rfl (by decide : 31 < snWindowSize)).mp (all _ (Nat.mod_lt _ (by decide)))
    unfold snWindowSize at *
    exact .inl ⟨by omega, by omega⟩
  · have more := (window.awaiting_iff isPsn few).mp awaited
    have isNext : (n + snWindowSize - acked) % snWindowSize =
        calculateDistance (getNextSn psn) side.protocol.out.nextDataSn := by
      rw [isPsn, window.dataSn]
      unfold calculateDistance snWindowSize at *
      omega
    obtain isAckSn | full := again
    · rw [isPsn] at isAckSn
      unfold snWindowSize at *
      omega
    rw [← isNext] at full
    by_cases valid : (n + snWindowSize - acked) % snWindowSize ≤ k - acked
    · exact .inl ⟨valid, fun _ => more⟩
    · exact .inr ⟨Nat.not_le.mp valid, full, more⟩

/-- The proviso of the acks. -/
def goingOn : Provisos where
  ack side psn := side.protocol.out.packetIsAwaitingAck psn = true → side.GoesOn psn

theorem kept_underway : Kept goingOn Underway where
  queue bytes underway := underway.congr { outgoing := by simp } id
  consumeIncomingData _ underway := underway.congr {} id
  resize _ underway := underway.congr {} id
  refused underway prepares := by
    have keeps := (prepareNextPacket_timer prepares).1
    obtain ⟨timer, rfl⟩ := prepareNextPacket_same prepares
    exact underway.congr {} keeps
  sent underway prepares := underway.sent prepares
  acknowledge underway ready small awaiting goesOn := underway.acknowledge ready small awaiting (goesOn awaiting)
  accept underway _ _ _ _ _ _ := underway.congr {} id
  ackWith underway _ _ := underway.congr {} id
  countUnacked underway _ := underway.congr {} id
  leave {side state} _ left _ := by
    apply Underway.outside
    rwa [KeptByResets.leaveSession_state]
  schedule _ _ left _ := .outside left
  transmit _ _ left _ := by
    apply Underway.outside
    rwa [sendRawData_protocol]
  agree _ _ _ left _ := .outside left
  enter {side} _ _ _ := fun _ => ⟨0, 0, .zero rfl, .inl ⟨Nat.le_refl 0, fun some => (Nat.lt_irrefl 0 some).elim⟩⟩
  clearStall {side} underway := by
    have same := clearStall_same side
    exact underway.congr same.sns (same.out ▸ id)
  ackTimerFired underway _ := underway.congr {} id
  stalled {side elapsed} _ _ _ left := by
    apply Underway.outside
    rwa [retransmitTimerFired_state]
  rolledBack {side elapsed} underway _ _ ready := by
    intro _
    obtain ⟨n, k, window, -⟩ := underway ready
    have idle : (side.setOut { side.protocol.out with retransmitTimer := none }).Window n k :=
      window.congr {}
    refine ⟨0, k, (idle.congr (countStall_same _ elapsed).sns).rollBack, .inl ⟨Nat.zero_le k, ?_⟩⟩
    exact fun some => (Nat.lt_irrefl 0 some).elim

/-! ## The loop that sends packets -/

/-- There is nothing to send: no room in the window, no data, or none that is not sent yet. -/
theorem prepareData_idle {next : Endpoint} {ack : List UInt8} {maxSize : Nat} {prepared : Option Prepared}
    (prepares : side.prepareData ack maxSize = .ok (next, prepared))
    (noData : ∀ packet ∈ prepared, packet.payloadSize = 0) :
    side.protocol.actualSessionCfg.maxTxWindowSize.toNat ≤ side.protocol.out.getNumPacketsInFlight ∨
      side.outgoing.length = 0 ∨ side.nextDataSize maxSize side.protocol.out.getTotalNumBytesAwaitingAck = .ok 0 := by
  unfold prepareData at prepares
  dsimp only at prepares
  split at prepares
  case isTrue full => exact .inl full
  case isFalse =>
      split at prepares
      case isTrue empty => exact .inr (.inl empty)
      case isFalse =>
          obtain ⟨dataSize, size, prepares⟩ := bind_ok prepares
          split at prepares
          case isTrue zero => exact .inr (.inr (zero ▸ size))
          case isFalse nonzero =>
              cases prepares
              exact (nonzero (noData _ rfl)).elim

/-- When there is nothing to send, everything that is kept was sent; and it is all there is, or
    the window is full. -/
theorem Window.idle {next : Endpoint} {prepared : Option Prepared} (window : side.Window n k) (valid : n ≤ k)
    (prepares : side.prepareNextPacket = .ok (next, prepared)) (noData : ∀ packet ∈ prepared, packet.payloadSize = 0) :
    n = k ∧ (side.protocol.actualSessionCfg.maxTxWindowSize.toNat ≤ n ∨
      side.outgoing.length = side.protocol.out.bytesBelow n) := by
  have few := window.few
  obtain ⟨room, prepares⟩ := prepareNextPacket_cases prepares
  obtain full | empty | size := prepareData_idle prepares noData
  · rw [window.inFlight] at full
    exact ⟨by omega, .inl full⟩
  · have bytes := window.bytes
    rw [empty] at bytes
    have none : k = 0 := by
      by_contra some
      have first := (window.sizes 0 (by decide)).mpr (Nat.pos_of_ne_zero some)
      have least := side.protocol.out.bytesBelow_mono (Nat.pos_of_ne_zero some)
      rw [Outbound.bytesBelow_succ] at least
      omega
    obtain rfl : n = 0 := by omega
    exact ⟨none.symm, .inr empty⟩
  · obtain ⟨first, enough, isSize⟩ | ⟨kept, isSize⟩ := nextDataSize_cases size
    · rw [window.nextSize] at first
      rw [window.offset] at enough isSize
      constructor
      · by_contra other
        exact (window.sizes n window.near).mpr (by omega) first
      · unfold resetCompletePacketSize at room
        refine .inr ?_
        split at isSize <;> omega
    · exact (kept isSize.symm).elim

/-- When there is nothing to send and the timer is not scheduled, all data is gone. -/
theorem Underway.idle {next : Endpoint} {prepared : Option Prepared} (underway : side.Underway)
    (ready : side.protocol.state = .ready) (window : 0 < side.protocol.actualSessionCfg.maxTxWindowSize.toNat)
    (prepares : side.prepareNextPacket = .ok (next, prepared)) (noData : ∀ packet ∈ prepared, packet.payloadSize = 0) :
    side.outgoing = [] ∨ side.protocol.out.retransmitTimer ≠ none := by
  obtain ⟨n, k, isWindow, ⟨valid, running⟩ | ⟨-, -, running⟩⟩ := underway ready
  · obtain ⟨-, full | all⟩ := isWindow.idle valid prepares noData
    · exact .inr (running (by omega))
    · by_cases some : 0 < n
      · exact .inr (running some)
      · obtain rfl : n = 0 := by omega
        exact .inl (List.length_eq_zero_iff.mp all)
  · exact .inr running

/-- When the loop has come to its end, the timer is scheduled or all data is gone. -/
theorem Underway.loop {rounds : Nat} {side' : Endpoint} (underway : side.Underway) (ready : side.protocol.state = .ready)
    (window : 0 < side.protocol.actualSessionCfg.maxTxWindowSize.toNat)
    (ends : sendNextPackets rounds side = .ok side') :
    side'.outgoing = [] ∨ side'.protocol.out.retransmitTimer ≠ none := by
  induction rounds generalizing side with
  | zero => cases ends
  | succ rounds ih =>
      unfold sendNextPackets at ends
      obtain ⟨⟨next, prepared⟩, prepares, ends⟩ := bind_ok ends
      cases prepared with
      | none =>
          cases ends
          cases prepareNextPacket_none prepares
          exact underway.idle ready window prepares (fun _ isSome => by cases isSome)
      | some prepared =>
          dsimp only at ends
          obtain ⟨error, sends⟩ | sends := next.sendRawData_cases prepared.packet
          · rw [sends] at ends
            cases ends
            by_cases data : prepared.payloadSize = 0
            · have idle := underway.idle ready window prepares (by simpa using data)
              have keeps := (prepareNextPacket_timer prepares).1
              obtain ⟨timer, rfl⟩ := prepareNextPacket_same prepares
              exact idle.imp_right keeps
            · exact .inr ((prepareNextPacket_timer prepares).2 data)
          · rw [sends] at ends
            have session : (next.withSent prepared).protocol.actualSessionCfg = side.protocol.actualSessionCfg := by
              obtain ⟨timer, rfl⟩ := prepareNextPacket_same prepares
              rfl
            have state := KeptInSession.withSent_state prepares prepared
            exact ih (underway.sent prepares) (state.trans ready) (session ▸ window) ends

/-! ## What was announced -/

/-- The number of bytes that the client has queued since it last announced its data. -/
def unannounced (before : Nat) (trace : List Happening) : Nat :=
  trace.foldl (fun count happening =>
    match happening with
    | .called _ (.queue bytes) => count + bytes.length
    | .called _ .notifyOutgoingDataAvailable => 0
    | _ => count) before

/-- Data that was announced is not forgotten; `count` bytes were not announced. -/
def Settled (count : Nat) (side : Endpoint) : Prop :=
  side.protocol.state = .ready → 0 < side.protocol.actualSessionCfg.maxTxWindowSize.toNat →
    count < side.outgoing.length → side.protocol.out.retransmitTimer ≠ none

theorem Settled.outside {count : Nat} (left : side.protocol.state ≠ .ready) : side.Settled count :=
  fun ready => (left ready).elim

theorem unannounced_append (before : Nat) (trace more : List Happening) :
    unannounced before (trace ++ more) = unannounced (unannounced before trace) more := List.foldl_append

/-- The loop settles everything. -/
theorem Underway.settled {rounds count : Nat} {side' : Endpoint} (underway : side.Underway)
    (ends : sendNextPackets rounds side = .ok side') : side'.Settled count := by
  intro ready window more
  rw [sendNextPackets_protocol ends] at ready window
  have all := underway.loop ready window ends
  cases all with
  | inl none => simp [none] at more
  | inr scheduled => exact scheduled

section Operations

variable {turns count : Nat} {side' : Endpoint}

theorem call_settled {clientCall : ClientCall} (underway : side.Underway)
    (settled : clientCall ≠ .notifyOutgoingDataAvailable → side.Settled count)
    (done : call turns side clientCall = .ok side') : side'.Settled (unannounced count (traceCall turns side clientCall)) := by
  cases clientCall with
  | queue bytes =>
      cases done
      intro ready window more
      change count + bytes.length < (side.outgoing ++ bytes).length at more
      rw [List.length_append] at more
      exact settled nofun ready window (by omega)
  | notifyOutgoingDataAvailable => exact underway.settled done
  | consumeIncomingData size =>
      cases done
      exact settled nofun
  | setTransportMaxPacketSize size =>
      cases done
      exact settled nofun

/-- The calls of a callback forget nothing; and if the client announces its data again, it
    does not matter what was forgotten before. -/
theorem calls_settled {clientCalls : List ClientCall} (underway : InState .ready Underway side)
    (settled : .notifyOutgoingDataAvailable ∉ clientCalls → side.Settled count)
    (done : calls turns side clientCalls = .ok side') :
    side'.Settled (unannounced count (traceCalls turns side clientCalls)) := by
  induction clientCalls generalizing side count with
  | nil =>
      cases done
      exact settled nofun
  | cons clientCall rest ih =>
      obtain ⟨between, first, later⟩ := bind_ok done
      unfold traceCalls
      rw [unannounced_append, first]
      have stays := (kept_underway.call underway.1 clientCall fun _ => .inr trivial).comes first
      rw [underway.2] at stays
      apply ih stays ?_ later
      intro notAgain
      by_cases isNotify : clientCall = .notifyOutgoingDataAvailable
      · exact call_settled underway.1 (fun other => (other isNotify).elim) first
      · refine call_settled underway.1 (fun _ => settled ?_) first
        intro member
        cases List.mem_cons.mp member with
        | inl same => exact isNotify same.symm
        | inr later => exact notAgain later

/-- The client's buffer has no room for a payload, or the payload is not the expected one. -/
def DropsData (side : Endpoint) : List UInt8 → Prop
  | [] => False
  | header :: _ => side.protocol.in_.payloadBufferFull = true ∨ side.Unexpected (header &&& ackOrPsnMask).toNat

/-- Behind the ack, everything is settled unless the payload is dropped. -/
theorem handlePayload_settled {reactions : Reactions} {data : List UInt8} (underway : InState .ready Underway side)
    (fits : data.length ≤ maxPacketSize) (settled : side.DropsData data → side.Settled count)
    (done : Prod.fst <$> handlePayload turns side reactions data = .ok side') :
    side'.Settled (unannounced count (traceHandlePayload turns side reactions data)) := by
  cases data with
  | nil =>
      rw [fst_handlePayload_nil] at done
      exact underway.1.settled done
  | cons header payload =>
      rw [fst_handlePayload_cons] at done
      unfold traceHandlePayload
      dsimp only
      have small := KeptInSession.psn_lt header
      change (side.protocol.in_.payloadBufferFull = true ∨ side.Unexpected (header &&& ackOrPsnMask).toNat) → _ at settled
      generalize (header &&& ackOrPsnMask).toNat = psn at *
      by_cases dropped : side.protocol.in_.payloadBufferFull = true ∨ side.Unexpected psn
      · rw [if_pos dropped] at done ⊢
        cases done
        exact settled dropped
      rw [if_neg dropped] at done ⊢
      by_cases expected : psn = side.protocol.in_.nextExpectedDataPsn
      · rw [if_pos expected] at done ⊢
        obtain ⟨between, accepts, sends⟩ := bind_ok done
        rw [unannounced_append, accepts]
        have free : side.protocol.in_.payloadBufferFull = false := by simpa using (not_or.mp dropped).1
        have stays := (kept_underway.acceptPayload underway reactions small free expected fits trivial).comes accepts
        exact (kept_underway.countUnacked stays.1 stays.2).settled sends
      · rw [if_neg expected] at done ⊢
        exact (kept_underway.countUnacked underway.1 underway.2).settled done

/-- The payload of a data packet is dropped, behind its ack. -/
def DropsPayload (side : Endpoint) (reactions : Reactions) (packet : List UInt8) : Prop :=
  ∃ data ∈ payloadOf packet, (side.bufferFor reactions packet).payloadBufferFull = true ∨ side.Unexpected data.1

instance (side : Endpoint) (reactions : Reactions) (packet : List UInt8) : Decidable (side.DropsPayload reactions packet) :=
  inferInstanceAs (Decidable (∃ _ ∈ payloadOf packet, _ ∨ _))

/-- The ack of a data packet goes on; and if it is for the last payload in flight, the loop
    that sends packets comes behind it, or the client announces its data again, or it has
    announced no more than what is acked. -/
def AcksAnnounced (count : Nat) (side : Endpoint) (reactions : Reactions) (packet : List UInt8) (psn : Nat) : Prop :=
  side.GoesOn psn ∧ (side.protocol.out.packetIsAwaitingAck (getNextSn psn) = true ∨
    ¬ side.DropsPayload reactions packet ∨ .notifyOutgoingDataAvailable ∈ reactions.onConsume ∨
    side.outgoing.length - side.protocol.out.getTotalNumBytesAwaitingAckUpTo (getNextSn psn) ≤ count)

theorem afterCalls_psn (in_ : Inbound) (clientCalls : List ClientCall) :
    (in_.afterCalls clientCalls).nextExpectedDataPsn = in_.nextExpectedDataPsn := by
  unfold Inbound.afterCalls
  induction clientCalls generalizing in_ with
  | nil => rfl
  | cons clientCall rest ih =>
      rw [List.foldl_cons, ih]
      cases clientCall with
      | consumeIncomingData size =>
          dsimp only
          unfold Inbound.consumeIncomingData
          split <;> rfl
      | queue | notifyOutgoingDataAvailable | setTransportMaxPacketSize => rfl

theorem calls_session {clientCalls : List ClientCall} (done : calls turns side clientCalls = .ok side') :
    side'.protocol.actualSessionCfg = side.protocol.actualSessionCfg := by
  induction clientCalls generalizing side with
  | nil =>
      cases done
      rfl
  | cons clientCall rest ih =>
      obtain ⟨between, first, later⟩ := bind_ok done
      rw [ih later]
      cases clientCall with
      | notifyOutgoingDataAvailable => rw [sendNextPackets_protocol first]
      | queue | consumeIncomingData | setTransportMaxPacketSize =>
          cases first
          rfl

/-- The loop up to a serial number does not visit it. -/
theorem not_mem_snsUpTo (snEndExcl rounds sn : Nat) : snEndExcl ∉ Outbound.snsUpTo snEndExcl rounds sn := by
  induction rounds generalizing sn with
  | zero => exact List.not_mem_nil
  | succ rounds ih =>
      unfold Outbound.snsUpTo
      split
      case isTrue => exact List.not_mem_nil
      case isFalse other =>
          rw [List.mem_cons, not_or]
          exact ⟨Ne.symm other, ih _⟩

theorem acknowledged_timer {psn : Nat} (awaiting : side.protocol.out.packetIsAwaitingAck (getNextSn psn) = true) :
    (side.acknowledged psn).protocol.out.retransmitTimer ≠ none := by
  have kept : (side.protocol.out.clearPayloadSizesUpTo (getNextSn psn)).packetIsAwaitingAck (getNextSn psn) = true := by
    rw [Outbound.clearPayloadSizesUpTo, foldl_clear]
    simpa [Outbound.packetIsAwaitingAck, not_mem_snsUpTo] using awaiting
  rw [acknowledged_out]
  change (if (side.protocol.out.clearPayloadSizesUpTo (getNextSn psn)).packetIsAwaitingAck _ = true then _ else _) ≠ none
  rw [if_pos kept]
  exact Option.some_ne_none _

theorem Window.acknowledged_outgoing {psn : Nat} (window : side.Window n k) (small : psn < snWindowSize)
    (awaiting : side.protocol.out.packetIsAwaitingAck psn = true) :
    (side.acknowledged psn).outgoing =
      side.outgoing.drop (side.protocol.out.getTotalNumBytesAwaitingAckUpTo (getNextSn psn)) := by
  have enough : side.protocol.out.getTotalNumBytesAwaitingAckUpTo (getNextSn psn) ≤ side.outgoing.length := by
    have kept := window.acked_le small awaiting
    have all := window.all
    rw [window.next_psn small]
    generalize calculateDistance side.protocol.out.nextExpectedAckSn psn + 1 = acked at kept
    rw [← Nat.add_mod_mod, Outbound.totalUpTo_eq window.ackSn (Nat.mod_lt _ (by decide))]
    exact (Outbound.bytesBelow_mono _ ((Nat.mod_le _ _).trans kept)).trans window.bytes
  exact consumeOutgoingData_outgoing enough

/-- The ack of a data packet. -/
theorem handleAck_settled {reactions : Reactions} {psn : Nat} (underway : InState .ready Underway side)
    (settled : side.Settled count) (small : psn < snWindowSize)
    (goesOn : side.protocol.out.packetIsAwaitingAck psn = true → side.GoesOn psn)
    (remembers : side.protocol.out.packetIsAwaitingAck psn = true →
      side.protocol.out.packetIsAwaitingAck (getNextSn psn) = true ∨
        .notifyOutgoingDataAvailable ∈ reactions.onConsume ∨
        side.outgoing.length - side.protocol.out.getTotalNumBytesAwaitingAckUpTo (getNextSn psn) ≤ count)
    (done : handleAck turns side reactions psn = .ok side') :
    side'.Settled (unannounced count (traceHandleAck turns side reactions psn)) := by
  rw [handleAck_eq] at done
  unfold traceHandleAck
  by_cases awaiting : side.protocol.out.packetIsAwaitingAck psn = true
  · rw [if_pos awaiting] at done ⊢
    obtain ⟨n, k, window, -⟩ := underway.1 underway.2
    have outgoing := window.acknowledged_outgoing small awaiting
    have state : (side.acknowledged psn).protocol.state = .ready := by
      rw [acknowledged_protocol]
      exact underway.2
    refine calls_settled ⟨underway.1.acknowledge underway.2 small awaiting (goesOn awaiting), state⟩ ?_ done
    intro notAgain _ _ more
    obtain next | again | none := remembers awaiting
    · exact acknowledged_timer next
    · exact (notAgain again).elim
    · rw [outgoing, List.length_drop] at more
      omega
  · rw [if_neg awaiting] at done ⊢
    cases done
    exact settled

theorem bufferFor_psn (side : Endpoint) (reactions : Reactions) (packet : List UInt8) :
    (side.bufferFor reactions packet).nextExpectedDataPsn = side.protocol.in_.nextExpectedDataPsn := by
  unfold bufferFor
  split
  case h_1 =>
      split
      case isTrue => exact afterCalls_psn _ _
      case isFalse => rfl
  case h_2 => rfl

theorem afterAck_session {reactions : Reactions} {packet : List UInt8}
    (acked : side.afterAck turns reactions packet = .ok side') :
    side'.protocol.actualSessionCfg = side.protocol.actualSessionCfg := by
  unfold afterAck at acked
  split at acked
  case h_1 =>
      rw [handleAck_eq] at acked
      split at acked
      case isTrue =>
          rw [calls_session acked]
          rw [acknowledged_protocol]
      case isFalse =>
          cases acked
          rfl
  case h_2 =>
      cases acked
      rfl

/-- What is dropped behind the ack is known before it. -/
theorem dropsPayload {reactions : Reactions} {header : UInt8} {rest : List UInt8}
    (withAck : header &&& dataPacketTypeWithAck = dataPacketTypeWithAck)
    (acked : side.afterAck turns reactions (header :: rest) = .ok side') (drops : side'.DropsData rest) :
    side.DropsPayload reactions (header :: rest) := by
  cases rest with
  | nil => exact drops.elim
  | cons inner payload =>
      have isPayload : payloadOf (header :: inner :: payload) = some ((inner &&& ackOrPsnMask).toNat, payload) := by
        simp [payloadOf, withAck]
      refine ⟨_, isPayload, ?_⟩
      have buffer := afterAck_in acked
      change side'.protocol.in_.payloadBufferFull = true ∨ side'.Unexpected (inner &&& ackOrPsnMask).toNat at drops
      rw [← buffer]
      apply drops.imp_right
      intro unexpected
      unfold Unexpected at *
      rwa [afterAck_session acked, buffer, bufferFor_psn] at unexpected

/-- A data packet, with its ack and its payload. -/
theorem handleDataPacket_settled {reactions : Reactions} {header : UInt8} {rest : List UInt8}
    (underway : InState .ready Underway side) (settled : side.Settled count)
    (isData : header &&& packetTypeMask ≠ packetTypeControl)
    (announced : (header :: rest).length ≤ maxPacketSize → ∀ psn ∈ ackOf (header :: rest),
      side.protocol.out.packetIsAwaitingAck psn = true → AcksAnnounced count side reactions (header :: rest) psn)
    (done : Prod.fst <$> handleDataPacket turns side reactions (header :: rest) = .ok side') :
    side'.Settled (unannounced count (traceHandleDataPacket turns side reactions (header :: rest))) := by
  rw [fst_handleDataPacket] at done
  unfold traceHandleDataPacket
  dsimp only
  by_cases long : (header :: rest).length > maxPacketSize
  · rw [if_pos long] at done ⊢
    cases done
    exact settled
  rw [if_neg long] at done ⊢
  have fits : (header :: rest).length ≤ maxPacketSize := Nat.not_lt.mp long
  by_cases withAck : header &&& dataPacketTypeWithAck = dataPacketTypeWithAck
  · rw [if_pos withAck] at done ⊢
    obtain ⟨between, acks, later⟩ := bind_ok done
    have isAck : ackOf (header :: rest) = some (header &&& ackOrPsnMask).toNat := if_pos ⟨isData, withAck⟩
    have announced := announced fits _ isAck
    have small := KeptInSession.psn_lt header
    have isAfter : side.afterAck turns reactions (header :: rest) = .ok between := by
      unfold afterAck
      rw [isAck]
      exact acks
    rw [unannounced_append, acks]
    generalize (header &&& ackOrPsnMask).toNat = psn at *
    have stays := (kept_underway.handleAck underway reactions small fun awaiting => (announced awaiting).1).comes acks
    refine handlePayload_settled stays ((Nat.le_succ _).trans fits) ?_ later
    intro dropsData
    have drops := dropsPayload withAck isAfter dropsData
    apply handleAck_settled underway settled small (fun awaiting => (announced awaiting).1) ?_ acks
    intro awaiting
    obtain next | keeps | remembers := (announced awaiting).2
    · exact .inl next
    · exact (keeps drops).elim
    · exact .inr remembers
  · rw [if_neg withAck] at done ⊢
    exact handlePayload_settled underway fits (fun _ => settled) done

end Operations

/-! ## Runs -/

/-- A packet completes the handshake, and the peer takes data. -/
def BeginsSession (side : Endpoint) (packet : List UInt8) : Prop :=
  (side.protocol.state = .awaitingResetCompleteSelfInitiated ∨
      side.protocol.state = .awaitingResetCompleteRemoteInitiated) ∧
    packet.headD 0 &&& packetTypeMask = packetTypeControl ∧
    packet.headD 0 &&& controlPacketTypeMask = controlPacketTypeResetComplete ∧
    resetCompletePacketSize ≤ packet.length ∧
    0 < (agree side.protocol.desiredSessionCfg (packet.getD 3 0) (packet.getD 4 0)).maxTxWindowSize.toNat

instance (side : Endpoint) (packet : List UInt8) : Decidable (side.BeginsSession packet) :=
  inferInstanceAs (Decidable (_ ∧ _ ∧ _ ∧ _ ∧ _))

instance (count : Nat) (side : Endpoint) (reactions : Reactions) (packet : List UInt8) (psn : Nat) :
    Decidable (AcksAnnounced count side reactions packet psn) := inferInstanceAs (Decidable (_ ∧ (_ ∨ _ ∨ _ ∨ _)))

/-- What was announced is not forgotten behind an ack, or when a session begins. -/
def Announces (count : Nat) (side : Endpoint) : Input → Prop
  | .receive reactions packet =>
      (side.protocol.state = .ready → packet.length ≤ maxPacketSize → ∀ psn ∈ ackOf packet,
        side.protocol.out.packetIsAwaitingAck psn = true → AcksAnnounced count side reactions packet psn) ∧
      (side.BeginsSession packet →
        .notifyOutgoingDataAvailable ∈ reactions.onReady ∨ side.outgoing.length ≤ count)
  | _ => True

instance : ∀ (count : Nat) (side : Endpoint) (next : Input), Decidable (Announces count side next)
  | _, _, .receive _ _ => inferInstanceAs (Decidable ((_ → _ → ∀ _ ∈ ackOf _, _) ∧ (_ → _)))
  | _, _, .start | _, _, .reset | _, _, .call _ | _, _, .ackTimer | _, _, .retransmitTimer _ => isTrue trivial

section Inputs

variable {turns count : Nat} {side' : Endpoint}

theorem sendControlPacket_same {timeout : Nat} {packet : List UInt8}
    (done : side.sendControlPacket timeout packet = .ok side') :
    side'.protocol.state = side.protocol.state ∧
      side'.protocol.actualSessionCfg = side.protocol.actualSessionCfg ∧ side'.outgoing = side.outgoing := by
  unfold sendControlPacket at done
  split at done
  case isTrue =>
      obtain ⟨error, sends⟩ | sends := (side.scheduleRetransmit timeout).sendRawData_cases packet
      all_goals
        rw [sends] at done
        cases done
        exact ⟨rfl, rfl, rfl⟩
  case isFalse => cases done

/-- Behind a control packet there is no session. -/
theorem sendControlPacket_settled {timeout : Nat} {packet : List UInt8} (left : side.protocol.state ≠ .ready)
    (done : side.sendControlPacket timeout packet = .ok side') : side'.Settled count := by
  apply Settled.outside
  rwa [(sendControlPacket_same done).1]

theorem reset_settled (done : Prod.fst <$> side.reset = .ok side') : side'.Settled count := by
  unfold reset at done
  rw [fst_sendResetPacket] at done
  refine sendControlPacket_settled ?_ done
  rw [KeptByResets.leaveSession_state]
  nofun

theorem unannounced_control (timeout : Nat) (packet : List UInt8) :
    unannounced count (side.traceControlPacket timeout packet) = count := by
  unfold traceControlPacket
  split <;> rfl

/-- The client is told that a session has begun. -/
theorem enterSession_settled {clientCalls : List ClientCall} (left : side.protocol.state ≠ .ready)
    (started : side.protocol.state ≠ .initialized)
    (remembers : 0 < side.protocol.actualSessionCfg.maxTxWindowSize.toNat →
      .notifyOutgoingDataAvailable ∈ clientCalls ∨ side.outgoing.length ≤ count)
    (done : calls turns side.enterSession clientCalls = .ok side') :
    side'.Settled (unannounced count (traceCalls turns side.enterSession clientCalls)) := by
  refine calls_settled ⟨kept_underway.enter (.outside left) left started, rfl⟩ ?_ done
  intro notAgain _ window more
  cases remembers window with
  | inl again => exact (notAgain again).elim
  | inr none => exact (Nat.not_lt.mpr none more).elim

theorem handleResetComplete_settled {reactions : Reactions} {packet : List UInt8} (left : side.protocol.state ≠ .ready)
    (started : side.protocol.state ≠ .initialized)
    (remembers : resetCompletePacketSize ≤ packet.length →
      0 < (agree side.protocol.desiredSessionCfg (packet.getD 3 0) (packet.getD 4 0)).maxTxWindowSize.toNat →
      .notifyOutgoingDataAvailable ∈ reactions.onReady ∨ side.outgoing.length ≤ count)
    (done : Prod.fst <$> handleResetComplete turns side reactions packet = .ok side') :
    side'.Settled (unannounced count (traceHandleResetComplete turns side reactions packet)) := by
  match packet with
  | [] | [_] | [_, _] | [_, _, _] | [_, _, _, _] =>
      rw [fst_handleResetComplete_short turns side reactions (by simp [resetCompletePacketSize])] at done
      cases done
      exact .outside left
  | b0 :: b1 :: b2 :: rxWindowSize :: txWindowSize :: rest =>
      have remembers := remembers (Nat.le_add_left 5 rest.length)
      rw [fst_handleResetComplete] at done
      unfold traceHandleResetComplete
      dsimp only at done ⊢
      by_cases selfInitiated : (side.agreed (agree side.protocol.desiredSessionCfg rxWindowSize txWindowSize)).protocol.state =
          .awaitingResetCompleteSelfInitiated
      · rw [if_pos selfInitiated] at done ⊢
        obtain ⟨between, sends, later⟩ := bind_ok done
        obtain ⟨state, session, outgoing⟩ := sendControlPacket_same sends
        rw [fst_sendResetCompletePacket, sends, unannounced_append]
        unfold traceResetComplete
        rw [unannounced_control]
        refine enterSession_settled (state ▸ left) (state ▸ started) ?_ later
        rw [session, outgoing]
        exact remembers
      · rw [if_neg selfInitiated] at done ⊢
        exact enterSession_settled left started remembers done

theorem handleControlPacket_settled {reactions : Reactions} {type : UInt8} {packet : List UInt8}
    (settled : side.Settled count) (started : side.protocol.state ≠ .initialized)
    (remembers : side.protocol.state ≠ .ready → type = controlPacketTypeResetComplete →
      resetCompletePacketSize ≤ packet.length →
      0 < (agree side.protocol.desiredSessionCfg (packet.getD 3 0) (packet.getD 4 0)).maxTxWindowSize.toNat →
      .notifyOutgoingDataAvailable ∈ reactions.onReady ∨ side.outgoing.length ≤ count)
    (done : Prod.fst <$> handleControlPacket turns side reactions type packet = .ok side') :
    side'.Settled (unannounced count (traceHandleControlPacket turns side reactions type packet)) := by
  rw [fst_handleControlPacket] at done
  unfold traceHandleControlPacket
  split
  case isTrue isComplete =>
      rw [if_pos isComplete] at done
      split
      case isTrue awaiting =>
          rw [if_pos awaiting] at done
          have left : side.protocol.state ≠ .ready := by
            intro ready
            simp [ready] at awaiting
          exact handleResetComplete_settled left started (remembers left isComplete) done
      case isFalse late =>
          rw [if_neg late] at done
          cases done
          exact settled
  case isFalse other =>
      rw [if_neg other] at done
      split
      case isTrue isRequest =>
          rw [if_pos isRequest] at done
          refine sendControlPacket_settled ?_ done
          rw [KeptByResets.leaveSession_state]
          nofun
      case isFalse unknown =>
          rw [if_neg unknown] at done
          cases done
          exact settled

theorem Settled.same (settled : side.Settled count) (same : SameWindow side side') : side'.Settled count := by
  unfold Settled
  rw [same.state, same.session, same.out, same.outgoing]
  exact settled

theorem AcksAnnounced.same {reactions : Reactions} {packet : List UInt8} {psn : Nat}
    (announced : AcksAnnounced count side reactions packet psn) :
    AcksAnnounced count side.clearStall reactions packet psn := by
  have outgoing := (clearStall_same side).outgoing
  unfold AcksAnnounced GoesOn AwaitsAll DropsPayload Unexpected at *
  rw [bufferFor_clearStall, clearStall_protocol, outgoing]
  exact announced

theorem receive_settled {reactions : Reactions} {packet : List UInt8} (underway : side.Underway)
    (settled : side.Settled count) (announces : Announces count side (.receive reactions packet))
    (done : input turns side (.receive reactions packet) = .ok side') :
    side'.Settled (unannounced count (trace turns side (.receive reactions packet))) := by
  cases packet with
  | nil =>
      cases done
      exact settled
  | cons header rest =>
      obtain ⟨announced, remembers⟩ := announces
      unfold input at done
      dsimp only at done
      rw [fst_handleIncomingRawData] at done
      unfold trace traceHandleIncomingRawData
      dsimp only
      have same := clearStall_same side
      by_cases initialized : side.protocol.state = .initialized
      · rw [if_pos initialized] at done ⊢
        cases done
        exact settled
      rw [if_neg initialized] at done ⊢
      have cleared := settled.same same
      by_cases control : header &&& packetTypeMask = packetTypeControl
      · rw [if_pos control] at done ⊢
        refine handleControlPacket_settled cleared (same.state ▸ initialized) ?_ done
        rw [same.state, same.desired, same.outgoing]
        intro left isComplete fits window
        refine remembers ⟨?_, control, isComplete, fits, window⟩
        cases state : side.protocol.state with
        | initialized => exact (initialized state).elim
        | ready => exact (left state).elim
        | awaitingResetCompleteSelfInitiated => exact .inl rfl
        | awaitingResetCompleteRemoteInitiated => exact .inr rfl
      rw [if_neg control] at done ⊢
      by_cases closed : side.clearStall.protocol.state ≠ .ready
      · rw [if_pos closed] at done ⊢
        cases done
        exact cleared
      rw [if_neg closed] at done ⊢
      have ready : side.clearStall.protocol.state = .ready := not_not.mp closed
      refine handleDataPacket_settled ⟨kept_underway.clearStall underway, ready⟩ cleared control ?_ done
      intro fits psn isAck awaiting
      rw [same.out] at awaiting
      exact (announced (same.state ▸ ready) fits psn isAck awaiting).same

theorem retransmitTimer_settled {elapsed : UInt32} (underway : side.Underway) (settled : side.Settled count)
    (done : input turns side (.retransmitTimer elapsed) = .ok side') :
    side'.Settled (unannounced count (trace turns side (.retransmitTimer elapsed))) := by
  unfold trace
  dsimp only
  obtain ⟨none, rfl⟩ | ⟨scheduled, done⟩ := retransmitTimer_cases turns done
  · rw [if_pos none]
    exact settled
  rw [if_neg scheduled]
  unfold traceRetransmitTimer
  dsimp only
  have state := side.retransmitTimerFired_state elapsed
  cases isState : (side.retransmitTimerFired elapsed).protocol.state with
  | initialized =>
      rw [isState] at done
      cases done
      apply Settled.outside
      rw [isState]
      nofun
  | awaitingResetCompleteSelfInitiated | awaitingResetCompleteRemoteInitiated =>
      rw [isState] at done
      exact reset_settled done
  | ready =>
      rw [isState] at done
      exact (kept_underway.rolledBack underway scheduled trivial (state.symm.trans isState)).settled done

/-- Whatever comes in, nothing is forgotten. -/
theorem input_settled {next : Input} (underway : side.Underway) (settled : side.Settled count)
    (announces : Announces count side next) (done : input turns side next = .ok side') :
    side'.Settled (unannounced count (trace turns side next)) := by
  cases next with
  | start =>
      unfold input start at done
      rw [fst_bind] at done
      obtain ⟨_, -, resets⟩ := bind_ok done
      exact reset_settled resets
  | reset => exact reset_settled done
  | call clientCall => exact call_settled underway (fun _ => settled) done
  | receive reactions packet => exact receive_settled underway settled announces done
  | ackTimer =>
      unfold input fireAckTimer at done
      unfold trace
      dsimp only at done ⊢
      split
      case isTrue none =>
          rw [if_pos none] at done
          cases done
          exact settled
      case isFalse scheduled =>
          rw [if_neg scheduled] at done
          exact (kept_underway.ackTimerFired underway scheduled).settled done
  | retransmitTimer elapsed => exact retransmitTimer_settled underway settled done

theorem Announces.may {next : Input} (announces : Announces count side next) : side.May turns goingOn next := by
  cases next with
  | start | reset | ackTimer | retransmitTimer => trivial
  | call clientCall => exact may_call trivial clientCall
  | receive reactions packet =>
      intro ready _ fits
      refine ⟨?_, fun _ _ _ _ _ _ _ => trivial⟩
      intro psn isAck awaiting
      rw [clearStall_protocol] at awaiting
      exact (announces.1 ready fits psn isAck awaiting).same.1

end Inputs

/-- Throughout a run, what was announced is not forgotten. -/
def KeepsAnnounced (turns count : Nat) (self : Endpoint) : List Input → Prop
  | [] => True
  | next :: rest => Announces count self next ∧ ∀ self', input turns self next = .ok self' →
      KeepsAnnounced turns (unannounced count (trace turns self next)) self' rest

instance decidableKeepsAnnounced (turns : Nat) : ∀ (count : Nat) (self : Endpoint) (inputs : List Input),
    Decidable (KeepsAnnounced turns count self inputs)
  | _, _, [] => inferInstanceAs (Decidable True)
  | count, self, next :: rest =>
      have := fun self' => decidableKeepsAnnounced turns (unannounced count (trace turns self next)) self' rest
      inferInstanceAs (Decidable (_ ∧ _))

theorem run_settled {turns count : Nat} {side side' : Endpoint} {inputs : List Input} (underway : side.Underway)
    (settled : side.Settled count) (keeps : side.KeepsAnnounced turns count inputs)
    (runs : side.run turns inputs = .ok side') : side'.Settled (unannounced count (side.traces turns inputs)) := by
  induction inputs generalizing side count with
  | nil =>
      cases runs
      exact settled
  | cons next rest ih =>
      obtain ⟨between, first, later⟩ := bind_ok runs
      have stays := (kept_underway.input underway keeps.1.may).comes first
      unfold traces
      rw [unannounced_append, first]
      exact ih stays (input_settled underway settled keeps.1 first) (keeps.2 between first) later

end Endpoint

/-- After every operation of a run the retransmission timer is scheduled, if the session has a
    window and the client has data that it announced; as long as no ack leaves the next
    payload to send behind, and what was announced is announced again when the last payload in
    flight is acked by a packet whose payload is dropped, and when a session begins. -/
theorem announced_timer (config : SessionConfig) (transportMaxPacketSize turns : Nat)
    (sendResults : List (Except Error Unit)) {inputs : List Input} {side : Endpoint}
    (keeps : (create config transportMaxPacketSize sendResults).KeepsAnnounced turns 0 inputs)
    (runs : (create config transportMaxPacketSize sendResults).run turns inputs = .ok side)
    (ready : side.protocol.state = .ready) (window : 1 ≤ side.protocol.actualSessionCfg.maxTxWindowSize.toNat)
    (announced : unannounced 0 ((create config transportMaxPacketSize sendResults).traces turns inputs) <
      side.outgoing.length) :
    side.protocol.out.retransmitTimer ≠ none := by
  have outside : (create config transportMaxPacketSize sendResults).protocol.state ≠ .ready := nofun
  exact run_settled (.outside outside) (.outside outside) keeps runs ready window announced

/-- A session with a window of one packet, and data for several of them; a payload from the
    peer, and the ack of the first packet in front of another one. -/
def acksLast (reactions : Reactions) : List Input :=
  [.start, .receive noReactions (resetCompletePacket ⟨8, 1⟩), .call (.queue (List.replicate 40 0)),
    .call .notifyOutgoingDataAvailable, .receive reactions [0, 9], .receive reactions [0x40, 1, 5]]

/-- The client consumes what it is told of. -/
theorem announced_timer_acksLast :
    ∃ side, (create ⟨8, 8⟩ 20 []).run 10 (acksLast ⟨[], [.consumeIncomingData 1], []⟩) = .ok side ∧
      side.outgoing.length = 21 ∧ side.protocol.out.retransmitTimer ≠ none := by
  have keeps : (create ⟨8, 8⟩ 20 []).KeepsAnnounced 10 0 (acksLast ⟨[], [.consumeIncomingData 1], []⟩) := by decide
  refine ⟨_, rfl, rfl, ?_⟩
  exact announced_timer ⟨8, 8⟩ 20 10 [] keeps rfl rfl (by decide) (by decide)

/-- The client does not consume the first payload: the second one is dropped, and nothing is
    sent any more. -/
theorem announced_forgotten :
    ∃ side, (create ⟨8, 8⟩ 20 []).run 10 (acksLast noReactions) = .ok side ∧ side.protocol.state = .ready ∧
      side.protocol.actualSessionCfg.maxTxWindowSize = 1 ∧
      unannounced 0 ((create ⟨8, 8⟩ 20 []).traces 10 (acksLast noReactions)) = 0 ∧
      side.outgoing.length = 21 ∧ side.protocol.out.retransmitTimer = none :=
  ⟨_, rfl, rfl, rfl, rfl, rfl, rfl⟩

end GoldenGate.Gattlink

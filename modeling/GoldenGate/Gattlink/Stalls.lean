import GoldenGate.Gattlink.Invariants
import Mathlib.Data.List.Induction

/-! # Stalls

A client is told that a session is stalled with the time that has passed since the last
packet, and with zero when the next packet comes. The time is counted modulo `2 ^ 32`.
-/

namespace GoldenGate.Gattlink

open Memory Endpoint

/-- The times of the notifications of stalls. -/
def stallTimes (log : List Event) : List UInt32 :=
  log.filterMap fun
    | .sessionStalled stalledTime => some stalledTime
    | _ => none

@[simp] theorem stallTimes_append (log more : List Event) : stallTimes (log ++ more) = stallTimes log ++ stallTimes more :=
  List.filterMap_append

/-- The last time a client was told, zero when it was told that the stall is over. -/
def lastStallTime (log : List Event) : UInt32 := (stallTimes log).getLastD 0

/-- The counters of stalls, and the notifications. -/
def Endpoint.stalls (side : Endpoint) : UInt32 × UInt32 × List UInt32 :=
  (side.protocol.stallTime, side.protocol.lastNotifiedStallTime, stallTimes side.log)

theorem stalls_of_log {side side' : Endpoint} {event : Event} (log : side'.log = side.log ++ [event])
    (other : ∀ time, event ≠ .sessionStalled time) (time : side'.protocol.stallTime = side.protocol.stallTime)
    (last : side'.protocol.lastNotifiedStallTime = side.protocol.lastNotifiedStallTime) :
    side'.stalls = side.stalls := by
  unfold Endpoint.stalls
  rw [time, last, log, stallTimes_append]
  cases event with
  | sessionStalled time => exact (other time rfl).elim
  | queued | incomingDataAvailable | consumeOutgoingData | sessionReady | sessionReset => simp [stallTimes]

/-- Only the timer and incoming packets have to do with stalls. -/
theorem KeptByResets.ofStalls {Fire : Endpoint → UInt32 → Prop} {Inv : UInt32 × UInt32 × List UInt32 → Prop} :
    KeptByResets { fire := Fire } fun side => Inv side.stalls where
  queue {side} bytes inv := by
    let queued := { side.notify (.queued bytes) with outgoing := side.outgoing ++ bytes }
    have same := @stalls_of_log side queued (.queued bytes) rfl (fun _ same => by cases same) rfl rfl
    exact same.symm ▸ inv
  consumeIncomingData _ inv := inv
  resize _ inv := inv
  refused inv prepares := by
    obtain ⟨timer, rfl⟩ := prepareNextPacket_same prepares
    exact inv
  sent inv prepares := by
    obtain ⟨timer, rfl⟩ := prepareNextPacket_same prepares
    exact inv
  acknowledge {side psn} inv _ _ _ _ := by
    have log := consumeOutgoingData_log (side.setOut
      { rearm (side.protocol.out.clearPayloadSizesUpTo (getNextSn psn)) (getNextSn psn) with
        nextExpectedAckSn := getNextSn psn }) (side.protocol.out.getTotalNumBytesAwaitingAckUpTo (getNextSn psn))
    rwa [@stalls_of_log side (side.acknowledged psn) _ log (fun _ same => by cases same) (by simp [acknowledged, setOut])
      (by simp [acknowledged, setOut])]
  accept {side psn payload} inv _ _ _ _ _ _ := by
    rwa [@stalls_of_log side (side.accepted psn payload) _ rfl (fun _ same => by cases same) rfl rfl]
  ackWith inv _ _ := inv
  countUnacked inv _ := inv
  leave {side state} inv _ _ := by
    by_cases ready : side.protocol.state = .ready
    · have log := leaveSession_log side state
      rw [if_pos ready] at log
      rwa [stalls_of_log log (fun _ same => by cases same) (by rw [leaveSession_protocol]; rfl) (by rw [leaveSession_protocol]; rfl)]
    · unfold leaveSession
      dsimp only
      rw [if_neg ready]
      exact inv
  schedule _ inv _ _ := inv
  transmit _ inv _ _ := by
    unfold Endpoint.stalls
    rwa [sendRawData_protocol, sendRawData_log]
  agree _ _ inv _ _ := inv
  enter {side} inv _ _ := by
    rwa [@stalls_of_log side side.enterSession _ rfl (fun _ same => by cases same) rfl rfl]

/-- A packet with at least one byte comes. -/
def Input.IsPacket : Input → Prop
  | .receive _ packet => packet ≠ []
  | _ => False

/-! ## The counters -/

/-- What the counters say about the notifications so far. -/
structure Balanced (stallTime lastNotified : UInt32) (times : List UInt32) : Prop where
  last : lastNotified = times.getLastD 0
  quiet : lastNotified = 0 → stallTime ≤ stallNotificationInterval
  counts : lastNotified ≠ 0 → stallNotificationInterval < lastNotified ∧ lastNotified ≤ stallTime

def Endpoint.BalancedStall (side : Endpoint) : Prop := Balanced side.stalls.1 side.stalls.2.1 side.stalls.2.2

/-- The accumulated time wraps around without a notification. The client has been told of a
    stall that is forgotten now. -/
def Endpoint.Forgets (side : Endpoint) (elapsed : UInt32) : Prop :=
  side.protocol.out.retransmitTimer ≠ none ∧ side.protocol.stallTime + elapsed < side.protocol.lastNotifiedStallTime ∧
    elapsed ≤ stallNotificationInterval

namespace Balanced

variable {stallTime lastNotified : UInt32} {times : List UInt32}

theorem zero : Balanced 0 0 [] := ⟨rfl, fun _ => by decide, fun other => (other rfl).elim⟩

/-- The client is told that a stall is over if it was told of one. -/
theorem ended (times : List UInt32) : Balanced 0 0 (times ++ if times.getLastD 0 ≠ 0 then [0] else []) := by
  refine ⟨?_, fun _ => by decide, fun other => (other rfl).elim⟩
  by_cases told : times.getLastD 0 ≠ 0
  · rw [if_pos told]
    simp
  · rw [if_neg told, List.append_nil]
    exact (not_not.mp told).symm

theorem notified {time : UInt32} (long : stallNotificationInterval < time) (times : List UInt32) :
    Balanced time time (times ++ [time]) := by
  refine ⟨by simp, ?_, fun _ => ⟨long, UInt32.le_refl time⟩⟩
  rintro rfl
  exact absurd long (by decide)

/-- The accumulated time tells whether the client knows of a stall. -/
theorem stalled_iff (balanced : Balanced stallTime lastNotified times) :
    stallTime > stallNotificationInterval ↔ times.getLastD 0 ≠ 0 := by
  rw [← balanced.last]
  constructor
  · rintro long rfl
    exact absurd long (UInt32.not_lt.mpr (balanced.quiet rfl))
  · intro told
    obtain ⟨long, le⟩ := balanced.counts told
    exact UInt32.lt_of_lt_of_le long le

/-- More time has passed, and the sum is not wrapped around. -/
theorem later {time : UInt32} (balanced : Balanced stallTime lastNotified times) (le : lastNotified ≤ time)
    (short : ¬ time - lastNotified > stallNotificationInterval) : Balanced time lastNotified times := by
  refine ⟨balanced.last, ?_, fun told => ⟨(balanced.counts told).1, le⟩⟩
  rintro rfl
  rw [UInt32.sub_zero] at short
  exact UInt32.not_lt.mp short

end Balanced

theorem far_apart {time last : UInt32} (le : last ≤ time) (long : time - last > stallNotificationInterval) :
    last.toNat + 12000 < time.toNat := by
  have less : (12000 : UInt32).toNat < (time - last).toNat := UInt32.lt_iff_toNat_lt.mp long
  rw [UInt32.toNat_sub_of_le _ _ le] at less
  have twelve : (12000 : UInt32).toNat = 12000 := rfl
  omega

namespace Endpoint

variable {side : Endpoint}

/-- The stall is over. -/
theorem clearStall_stalls
    (balanced : side.BalancedStall) :
    side.clearStall.stalls = (0, 0, stallTimes side.log ++ if lastStallTime side.log ≠ 0 then [0] else []) := by
  have known : side.protocol.stallTime > stallNotificationInterval ↔ lastStallTime side.log ≠ 0 := balanced.stalled_iff
  unfold stalls
  rw [clearStall_protocol]
  unfold clearStall
  by_cases stalled : side.protocol.stallTime > stallNotificationInterval
  · rw [if_pos stalled, if_pos (known.mp stalled)]
    simp [notify, stallTimes]
  · rw [if_neg stalled, if_neg (mt known.mpr stalled)]
    simp

/-- The timer has fired: what is reported, and what is counted from now on. -/
theorem retransmitTimerFired_stalls (elapsed : UInt32) :
    (side.retransmitTimerFired elapsed).stalls =
      let counters :=
        if side.protocol.stallTime + elapsed < side.protocol.lastNotifiedStallTime then (elapsed, 0)
        else (side.protocol.stallTime + elapsed, side.protocol.lastNotifiedStallTime)
      if counters.1 - counters.2 > stallNotificationInterval then
        (counters.1, counters.1, stallTimes side.log ++ [counters.1])
      else (counters.1, counters.2, stallTimes side.log) := by
  unfold retransmitTimerFired countStall stalls
  dsimp only [setOut]
  by_cases wraps : side.protocol.stallTime + elapsed < side.protocol.lastNotifiedStallTime
  · simp only [wraps, if_true]
    split
    case isTrue => simp [notify, stallTimes]
    case isFalse => rfl
  · simp only [wraps, if_false]
    split
    case isTrue => simp [notify, stallTimes]
    case isFalse => rfl

/-- What the client is told when the timer has fired. -/
structure Told (side : Endpoint) (elapsed : UInt32) (time : UInt32) : Prop where
  stalled : time ≠ 0
  apart : lastStallTime side.log ≠ 0 → (lastStallTime side.log).toNat + 12000 < time.toNat ∨
    2 ^ 32 ≤ side.protocol.stallTime.toNat + elapsed.toNat

theorem retransmitTimerFired_told {elapsed : UInt32}
    (balanced : side.BalancedStall) :
    stallTimes (side.retransmitTimerFired elapsed).log = stallTimes side.log ∨
      ∃ time, side.Told elapsed time ∧
        stallTimes (side.retransmitTimerFired elapsed).log = stallTimes side.log ++ [time] := by
  have fired := @retransmitTimerFired_stalls side elapsed
  have last : side.protocol.lastNotifiedStallTime = lastStallTime side.log := balanced.last
  have counts : side.protocol.lastNotifiedStallTime ≠ 0 →
      side.protocol.lastNotifiedStallTime ≤ side.protocol.stallTime := fun told => (balanced.counts told).2
  have log : stallTimes (side.retransmitTimerFired elapsed).log = (side.retransmitTimerFired elapsed).stalls.2.2 := rfl
  rw [log, fired]
  dsimp only
  by_cases wraps : side.protocol.stallTime + elapsed < side.protocol.lastNotifiedStallTime
  · simp only [if_pos wraps, UInt32.sub_zero]
    split
    case isFalse => exact .inl rfl
    case isTrue long =>
        refine .inr ⟨elapsed, ⟨?_, fun told => .inr ?_⟩, rfl⟩
        · rintro rfl
          exact absurd long (by decide)
        · have le := counts (last ▸ told)
          rw [UInt32.lt_iff_toNat_lt, UInt32.toNat_add] at wraps
          rw [UInt32.le_iff_toNat_le] at le
          omega
  · simp only [if_neg wraps]
    split
    case isFalse => exact .inl rfl
    case isTrue long =>
        have apart := far_apart (UInt32.not_lt.mp wraps) long
        refine .inr ⟨_, ⟨?_, fun told => .inl ?_⟩, rfl⟩
        · intro zero
          rw [zero] at apart
          exact absurd apart (Nat.not_lt_zero _)
        · rwa [last] at apart

theorem retransmitTimerFired_balanced {elapsed : UInt32}
    (balanced : side.BalancedStall) (scheduled : side.protocol.out.retransmitTimer ≠ none)
    (remembers : ¬ side.Forgets elapsed) :
    (side.retransmitTimerFired elapsed).BalancedStall := by
  unfold BalancedStall
  rw [retransmitTimerFired_stalls]
  dsimp only
  by_cases wraps : side.protocol.stallTime + elapsed < side.protocol.lastNotifiedStallTime
  · have long : elapsed > stallNotificationInterval := UInt32.not_le.mp fun short => remembers ⟨scheduled, wraps, short⟩
    simp only [if_pos wraps, UInt32.sub_zero, if_pos long]
    exact .notified long _
  · simp only [if_neg wraps]
    have le := UInt32.not_lt.mp wraps
    split
    case isTrue long =>
        have apart := far_apart le long
        apply Balanced.notified
        rw [UInt32.lt_iff_toNat_lt]
        exact Nat.lt_of_le_of_lt (Nat.le_add_left 12000 _) apart
    case isFalse short => exact balanced.later le short

/-! ## Runs -/

variable {turns : Nat} {reached : Endpoint}

theorem Reaches.of_proceeds {Shows : Happening → Prop} {Inv : Endpoint → Prop} {next : Input}
    (reaches : side.Reaches turns [next] reached)
    (proceeds : Proceeds Shows Inv side (side.input turns next) (side.trace turns next)) : Inv reached := by
  cases (reaches_single turns side next reached).mp reaches with
  | inl comes => exact proceeds.comes comes
  | inr happens =>
      obtain ⟨happening, member, rfl⟩ := happens
      exact (proceeds.2 happening member).1

/-- Where nothing has to do with stalls. -/
theorem sameStalls (stalls : UInt32 × UInt32 × List UInt32) : KeptByResets {} fun side => side.stalls = stalls :=
  @KeptByResets.ofStalls _ (· = stalls)

theorem receive_stalls {reactions : Reactions} {packet : List UInt8} (nonempty : packet ≠ [])
    (started : side.protocol.state ≠ .initialized) (reaches : side.Reaches turns [.receive reactions packet] reached) :
    reached.stalls = side.clearStall.stalls :=
  reaches.of_proceeds
    ((sameStalls side.clearStall.stalls).handleIncomingRawData started rfl reactions nonempty (may_of_true turns side _))

/-- Packets are rolled back without a word on stalls. -/
theorem rolledBack_stalls (side : Endpoint) : side.rolledBack.stalls = side.stalls := rfl

theorem retransmitTimer_stalls {elapsed : UInt32} (reaches : side.Reaches turns [.retransmitTimer elapsed] reached) :
    reached = side ∨ reached.stalls = (side.retransmitTimerFired elapsed).stalls := by
  by_cases scheduled : side.protocol.out.retransmitTimer = none
  · left
    rw [reaches_single] at reaches
    unfold input fireRetransmitTimer trace at reaches
    simpa [scheduled, eq_comm] using reaches
  · right
    exact reaches.of_proceeds
      ((sameStalls (side.retransmitTimerFired elapsed).stalls).onSendTimeoutFired scheduled (fun _ => rfl) fun _ =>
        rolledBack_stalls _)

/-- Without a packet, and when no timer fires, there is nothing to tell of a stall. -/
theorem other_stalls {next : Input} (noPacket : ¬ next.IsPacket) (noTimer : ∀ elapsed, next ≠ .retransmitTimer elapsed)
    (comes : side.input turns next = .ok reached) : reached.stalls = side.stalls := by
  have kept := sameStalls side.stalls
  cases next with
  | start =>
      unfold input start at comes
      cases isState : decide (side.protocol.state = .initialized) with
      | false => simp [isState, assert] at comes
      | true =>
          simp only [isState, assert, if_true, ok_bind] at comes
          exact (kept.reset rfl).comes comes
  | reset => exact (kept.reset rfl).comes comes
  | call clientCall => exact ((kept.call rfl clientCall fun _ => .inr trivial).comes comes).1
  | receive reactions packet =>
      have empty : packet = [] := not_not.mp noPacket
      rw [empty] at comes
      cases comes
      rfl
  | ackTimer =>
      unfold input fireAckTimer at comes
      dsimp only at comes
      split at comes
      case isTrue =>
          cases comes
          rfl
      case isFalse =>
          have same : side.ackTimerFired.stalls = side.stalls := rfl
          exact ((kept.loop same (.inr trivial)).comes comes).1
  | retransmitTimer elapsed => exact (noTimer elapsed rfl).elim

/-- Before it is started, an endpoint counts nothing. -/
structure Unstarted (side : Endpoint) : Prop where
  session : side.protocol.actualSessionCfg = ⟨0, 0⟩
  out : side.protocol.out = .zero
  stalls : side.stalls = (0, 0, [])

theorem Unstarted.nothing {next : Endpoint} {prepared : Prepared} (unstarted : side.Unstarted)
    (prepares : side.prepareNextPacket = .ok (next, some prepared)) : False := by
  have silent : ¬ AckPending side := by
    unfold AckPending
    simp [unstarted.session, unstarted.out, Outbound.zero]
  have prepares := (prepareNextPacket_cases prepares).2
  rw [if_neg silent] at prepares
  obtain ⟨-, isNone | ⟨nonempty, -⟩⟩ | ⟨-, size, -, -, windowOpen, -⟩ := prepareData_some prepares
  · cases isNone
  · exact nonempty rfl
  · simp [unstarted.session] at windowOpen

theorem kept_unstarted : Kept {} fun side => side.protocol.state = .initialized → side.Unstarted where
  queue {side} bytes inv initialized := by
    obtain ⟨session, out, stalls⟩ := inv initialized
    exact ⟨session, out, (sameStalls _).queue bytes stalls⟩
  consumeIncomingData _ inv initialized :=
    have unstarted := inv initialized
    ⟨unstarted.session, unstarted.out, unstarted.stalls⟩
  resize _ inv initialized :=
    have unstarted := inv initialized
    ⟨unstarted.session, unstarted.out, unstarted.stalls⟩
  refused {side next prepared} inv prepares initialized := by
    have state : next.protocol.state = side.protocol.state := KeptInSession.withSent_state prepares prepared
    exact ((inv (state.symm.trans initialized)).nothing prepares).elim
  sent {side next prepared} inv prepares initialized := by
    have state := KeptInSession.withSent_state prepares prepared
    exact ((inv (state.symm.trans initialized)).nothing prepares).elim
  acknowledge _ ready _ _ _ initialized := by
    rw [acknowledged_protocol] at initialized
    exact nomatch ready.symm.trans initialized
  accept _ ready _ _ _ _ _ initialized := nomatch ready.symm.trans initialized
  ackWith _ ready _ initialized := nomatch ready.symm.trans initialized
  countUnacked _ ready initialized := nomatch ready.symm.trans initialized
  leave {side state} _ _ started initialized := by
    rw [leaveSession_protocol] at initialized
    exact (started initialized).elim
  schedule _ _ _ started initialized := (started initialized).elim
  transmit _ _ _ started initialized := by
    rw [sendRawData_protocol] at initialized
    exact (started initialized).elim
  agree _ _ _ _ started initialized := (started initialized).elim
  enter _ _ _ initialized := nomatch initialized
  clearStall {side} inv initialized := by
    rw [clearStall_protocol] at initialized
    obtain ⟨session, out, stalls⟩ := inv initialized
    have balanced : side.BalancedStall := by
      unfold BalancedStall
      rw [stalls]
      exact .zero
    have none : stallTimes side.log = [] := congrArg (·.2.2) stalls
    refine ⟨by rw [clearStall_protocol]; exact session, by rw [clearStall_protocol]; exact out, ?_⟩
    rw [clearStall_stalls balanced]
    simp [lastStallTime, none]
  ackTimerFired {side} inv scheduled initialized := by
    have out := (inv initialized).out
    rw [out] at scheduled
    exact (scheduled rfl).elim
  stalled {side elapsed} inv scheduled _ _ initialized := by
    rw [retransmitTimerFired_state] at initialized
    have out := (inv initialized).out
    rw [out] at scheduled
    exact (scheduled rfl).elim
  rolledBack {side elapsed} _ _ _ ready initialized := by
    have state : (side.retransmitTimerFired elapsed).protocol.state = .initialized := initialized
    rw [retransmitTimerFired_state, ready] at state
    cases state

/-- No stall is forgotten. -/
def RemembersStalls (side : Endpoint) : Input → Prop
  | .retransmitTimer elapsed => ¬ side.Forgets elapsed
  | _ => True

instance (side : Endpoint) (elapsed : UInt32) : Decidable (side.Forgets elapsed) :=
  inferInstanceAs (Decidable (_ ∧ _ ∧ _))

instance : ∀ (side : Endpoint) (next : Input), Decidable (side.RemembersStalls next)
  | side, .retransmitTimer elapsed => inferInstanceAs (Decidable (¬ side.Forgets elapsed))
  | _, .start | _, .reset | _, .call _ | _, .ackTimer | _, .receive _ _ => isTrue trivial

theorem RemembersStalls.may {side : Endpoint} {next : Input} (remembers : side.RemembersStalls next) :
    side.May turns { fire := fun side elapsed => ¬ side.Forgets elapsed } next := by
  cases next with
  | start | reset | ackTimer => trivial
  | call clientCall => exact may_call trivial clientCall
  | receive reactions packet => exact fun _ _ _ => ⟨fun _ _ => trivial, fun _ _ _ _ _ _ _ => trivial⟩
  | retransmitTimer elapsed => exact remembers

theorem kept_balanced : Kept { fire := fun side elapsed => ¬ side.Forgets elapsed } BalancedStall where
  toKeptByResets := @KeptByResets.ofStalls _ fun stalls => Balanced stalls.1 stalls.2.1 stalls.2.2
  clearStall balanced := by
    unfold BalancedStall
    rw [clearStall_stalls balanced]
    exact .ended _
  ackTimerFired balanced _ := balanced
  stalled balanced scheduled remembers _ := retransmitTimerFired_balanced balanced scheduled remembers
  rolledBack balanced scheduled remembers _ := by
    unfold BalancedStall
    rw [rolledBack_stalls]
    exact retransmitTimerFired_balanced balanced scheduled remembers

/-- Between two packets a client is told of stalls only. -/
theorem quiet_stalls {since : List Input} (quiet : ∀ next ∈ since, ¬ next.IsPacket) (balanced : side.BalancedStall)
    (permits : side.Permits turns RemembersStalls since) (comes : side.run turns since = .ok reached) :
    ∃ more, stallTimes reached.log = stallTimes side.log ++ more ∧ ∀ time ∈ more, time ≠ 0 := by
  induction since generalizing side with
  | nil =>
      cases comes
      exact ⟨[], (List.append_nil _).symm, fun _ member => (List.not_mem_nil member).elim⟩
  | cons next rest ih =>
      obtain ⟨between, first, later⟩ := bind_ok comes
      obtain ⟨remembers, permitsRest⟩ := permits
      have balanced' := (kept_balanced.input balanced remembers.may).comes first
      obtain ⟨more, isMore, nonzero⟩ :=
        ih (fun next member => quiet next (List.mem_cons_of_mem _ member)) balanced' (permitsRest between first) later
      rw [isMore]
      by_cases timer : ∃ elapsed, next = .retransmitTimer elapsed
      · obtain ⟨elapsed, rfl⟩ := timer
        have reaches : side.Reaches turns [.retransmitTimer elapsed] between := (reaches_single turns side _ _).mpr (.inl first)
        cases retransmitTimer_stalls reaches with
        | inl same => exact ⟨more, by rw [same], nonzero⟩
        | inr fired =>
            have times : stallTimes between.log = stallTimes (side.retransmitTimerFired elapsed).log := congrArg (·.2.2) fired
            cases @retransmitTimerFired_told _ elapsed balanced with
            | inl same => exact ⟨more, by rw [times, same], nonzero⟩
            | inr told =>
                obtain ⟨time, told, isTime⟩ := told
                refine ⟨time :: more, by rw [times, isTime, List.append_assoc]; rfl, ?_⟩
                intro other member
                cases List.mem_cons.mp member with
                | inl same => exact same ▸ told.stalled
                | inr isLater => exact nonzero other isLater
      · have noTimer : ∀ elapsed, next ≠ .retransmitTimer elapsed := fun elapsed same => timer ⟨elapsed, same⟩
        have same := other_stalls (quiet next (List.mem_cons_self ..)) noTimer first
        have times : stallTimes between.log = stallTimes side.log := congrArg (·.2.2) same
        exact ⟨more, by rw [times], nonzero⟩

/-- After a packet the client knows of no stall. -/
theorem lastStallTime_packet {packet : Input} (isPacket : packet.IsPacket) (balanced : side.BalancedStall)
    (unstarted : side.protocol.state = .initialized → side.Unstarted) (comes : side.input turns packet = .ok reached) :
    lastStallTime reached.log = 0 := by
  cases packet with
  | start | reset | call | ackTimer | retransmitTimer => exact isPacket.elim
  | receive reactions packet =>
      by_cases initialized : side.protocol.state = .initialized
      · have ignored : side.input turns (.receive reactions packet) = .ok side := by
          cases packet with
          | nil => rfl
          | cons header rest =>
              unfold input
              dsimp only
              rw [fst_handleIncomingRawData, if_pos initialized]
        cases ignored.symm.trans comes
        have none : stallTimes side.log = [] := congrArg (·.2.2) (unstarted initialized).stalls
        simp [lastStallTime, none]
      · have reaches : side.Reaches turns [.receive reactions packet] reached := (reaches_single turns side _ _).mpr (.inl comes)
        have stalls := receive_stalls isPacket initialized reaches
        rw [clearStall_stalls balanced] at stalls
        have times : stallTimes reached.log = _ := congrArg (·.2.2) stalls
        rw [lastStallTime, times]
        exact (Balanced.ended (stallTimes side.log)).last.symm

end Endpoint

/-- In a run in which no stall is forgotten, a packet that comes after the start ends the
    stall exactly when the client was told of one since the previous packet; and the timer
    tells of a stall again when more than 12 seconds were added, or the sum wrapped around. -/
theorem stalls_balanced (config : SessionConfig) (transportMaxPacketSize turns : Nat)
    (sendResults : List (Except Error Unit)) {earlier since : List Input} {last side : Endpoint}
    (permits : (create config transportMaxPacketSize sendResults).Permits turns RemembersStalls (earlier ++ since))
    (begins : earlier = [] ∨ ∃ before packet, earlier = before ++ [packet] ∧ packet.IsPacket)
    (quiet : ∀ next ∈ since, ¬ next.IsPacket)
    (first : (create config transportMaxPacketSize sendResults).run turns earlier = .ok last)
    (later : last.run turns since = .ok side) :
    (∀ reactions packet reached, packet ≠ [] → side.protocol.state ≠ .initialized →
        side.Reaches turns [.receive reactions packet] reached →
        stallTimes reached.log = stallTimes side.log ++
          if ∃ time ∈ (stallTimes side.log).drop (stallTimes last.log).length, time ≠ 0 then [0] else []) ∧
      ∀ elapsed reached, side.Reaches turns [.retransmitTimer elapsed] reached →
        stallTimes reached.log = stallTimes side.log ∨
          ∃ time, side.Told elapsed time ∧ stallTimes reached.log = stallTimes side.log ++ [time] := by
  let initial := create config transportMaxPacketSize sendResults
  have may : ∀ side next, RemembersStalls side next → side.May turns _ next := fun _ _ remembers => remembers.may
  have zero : initial.BalancedStall := .zero
  obtain ⟨permitsEarlier, permitsSince⟩ := permits_append turns |>.mp permits
  have balancedLast := (kept_balanced.run may zero permitsEarlier).comes first
  have balanced := (kept_balanced.run may balancedLast (permitsSince last first)).comes later
  have none : lastStallTime last.log = 0 := by
    obtain rfl | ⟨before, packet, rfl, isPacket⟩ := begins
    · cases first
      rfl
    · rw [run_append] at first
      obtain ⟨between, comes, packetComes⟩ := bind_ok first
      rw [run_single] at packetComes
      have permitsBefore := (permits_append turns |>.mp permitsEarlier).1
      have balancedBetween := (kept_balanced.run may zero permitsBefore).comes comes
      have unstarted := (kept_unstarted.run (fun side next _ => may_of_true turns side next)
        (fun _ => ⟨rfl, rfl, rfl⟩) permitsBefore).comes comes
      exact lastStallTime_packet isPacket balancedBetween unstarted packetComes
  obtain ⟨more, isMore, nonzero⟩ := quiet_stalls quiet balancedLast (permitsSince last first) later
  have told : lastStallTime side.log ≠ 0 ↔
      ∃ time ∈ (stallTimes side.log).drop (stallTimes last.log).length, time ≠ 0 := by
    rw [lastStallTime, isMore, List.drop_left]
    cases more using List.reverseRecOn with
    | nil =>
        rw [lastStallTime] at none
        simpa using none
    | append_singleton more time =>
        have isNonzero := nonzero time (by simp)
        rw [← List.append_assoc]
        constructor
        · exact fun _ => ⟨time, by simp, isNonzero⟩
        · intro _
          simpa using isNonzero
  constructor
  · intro reactions packet reached nonempty started reaches
    have stalls := receive_stalls nonempty started reaches
    rw [clearStall_stalls balanced] at stalls
    simp only [← told]
    exact congrArg (·.2.2) stalls
  · intro elapsed reached reaches
    cases retransmitTimer_stalls reaches with
    | inl same => exact .inl (by rw [same])
    | inr fired =>
        have times : stallTimes reached.log = stallTimes (side.retransmitTimerFired elapsed).log := congrArg (·.2.2) fired
        rw [times]
        exact retransmitTimerFired_told balanced

/-- The reset of the peer is not answered for a while. -/
def slowStart (elapsed : List UInt32) : List Input := .start :: elapsed.map .retransmitTimer

theorem stalls_balanced_slowStart :
    ∃ side reached, (create ⟨8, 8⟩ 100 []).run 10 (slowStart [13000]) = .ok side ∧
      side.input 10 (.receive ⟨[], [], []⟩ (resetCompletePacket ⟨8, 8⟩)) = .ok reached ∧
      stallTimes reached.log = [13000, 0] := by
  have permits : (create ⟨8, 8⟩ 100 []).Permits 10 RemembersStalls ([] ++ slowStart [13000]) := by decide
  have quiet : ∀ next ∈ slowStart [13000], ¬ next.IsPacket := by simp [slowStart, Input.IsPacket]
  refine ⟨_, _, rfl, rfl, ?_⟩
  have balanced := (stalls_balanced ⟨8, 8⟩ 100 10 [] permits (.inl rfl) quiet rfl rfl).1 ⟨[], [], []⟩
    (resetCompletePacket ⟨8, 8⟩) _ (by decide) (by decide) (.inl rfl)
  exact balanced

/-- The sum of the times is wrapped around by eight seconds. The client was told of the
    stall, and is not told that it is over. -/
theorem stall_never_over :
    ∃ side reached, (create ⟨8, 8⟩ 100 []).run 10 (slowStart [4294966296, 8000]) = .ok side ∧
      stallTimes side.log = [4294966296] ∧
      side.input 10 (.receive ⟨[], [], []⟩ (resetCompletePacket ⟨8, 8⟩)) = .ok reached ∧
      stallTimes reached.log = [4294966296] := by
  refine ⟨_, _, rfl, ?_, rfl, ?_⟩
  · decide
  · decide

end GoldenGate.Gattlink

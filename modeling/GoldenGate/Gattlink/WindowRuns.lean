import GoldenGate.Gattlink.SendLoop
import GoldenGate.Gattlink.InboundBuffer
import Mathlib.Data.List.Rotate
import Mathlib.Algebra.BigOperators.Group.List.Basic

/-! # The send window of one endpoint

The payload sizes that are kept are those of the payloads that were sent and are not acked,
from the next serial number to ack on. After a timeout the next serial number to send goes
back to the first of them; an ack for one that is not sent again yet leaves it behind.
-/

namespace GoldenGate.Gattlink

open Memory Endpoint

namespace Outbound

/-- The size of a payload, counted from the next one to ack. -/
def sizeAt (out : Outbound) (i : Nat) : Nat := out.payloadSizes ((out.nextExpectedAckSn + i) % snWindowSize)

/-- The number of bytes of the first payloads. -/
def bytesBelow (out : Outbound) (n : Nat) : Nat := ((List.range n).map out.sizeAt).sum

theorem bytesBelow_succ (out : Outbound) (n : Nat) : out.bytesBelow (n + 1) = out.bytesBelow n + out.sizeAt n := by
  unfold bytesBelow
  rw [List.range_succ, List.map_append, List.sum_append]
  simp

theorem bytesBelow_add (out : Outbound) (n m : Nat) :
    out.bytesBelow (n + m) = out.bytesBelow n + ((List.range m).map fun i => out.sizeAt (n + i)).sum := by
  unfold bytesBelow
  rw [List.range_add, List.map_append, List.sum_append, List.map_map]
  rfl

theorem bytesBelow_mono (out : Outbound) {n m : Nat} (le : n ≤ m) : out.bytesBelow n ≤ out.bytesBelow m := by
  obtain ⟨more, rfl⟩ := Nat.exists_eq_add_of_le le
  rw [bytesBelow_add]
  exact Nat.le_add_right _ _

theorem bytesBelow_congr {out out' : Outbound} {n : Nat} (same : ∀ i < n, out'.sizeAt i = out.sizeAt i) :
    out'.bytesBelow n = out.bytesBelow n := by
  unfold bytesBelow
  rw [List.map_congr_left fun i member => same i (List.mem_range.mp member)]

/-- The loop over the payloads up to a serial number. -/
theorem totalUpTo_eq {out : Outbound} (small : out.nextExpectedAckSn < snWindowSize) {n : Nat} (near : n < snWindowSize) :
    out.getTotalNumBytesAwaitingAckUpTo ((out.nextExpectedAckSn + n) % snWindowSize) = out.bytesBelow n := by
  have visited := @snsUpTo_eq snWindowSize out.nextExpectedAckSn n near.le near
  rw [Nat.mod_eq_of_lt small] at visited
  rw [getTotalNumBytesAwaitingAckUpTo, visited, List.map_map]
  rfl

/-- The loop that clears the payload sizes up to a serial number. -/
theorem sizeAt_clear {out : Outbound} (small : out.nextExpectedAckSn < snWindowSize) {n : Nat} (near : n < snWindowSize)
    {i : Nat} (inside : i < snWindowSize) :
    (out.clearPayloadSizesUpTo ((out.nextExpectedAckSn + n) % snWindowSize)).sizeAt i =
      if i < n then 0 else out.sizeAt i := by
  have visited := @snsUpTo_eq snWindowSize out.nextExpectedAckSn n near.le near
  rw [Nat.mod_eq_of_lt small] at visited
  rw [clearPayloadSizesUpTo, visited, foldl_clear]
  unfold sizeAt
  have same : (out.nextExpectedAckSn + i) % snWindowSize ∈
      (List.range n).map (fun j => (out.nextExpectedAckSn + j) % snWindowSize) ↔ i < n := by
    rw [List.mem_map]
    constructor
    · rintro ⟨j, member, equal⟩
      have before := List.mem_range.mp member
      unfold snWindowSize at *
      omega
    · exact fun less => ⟨i, List.mem_range.mpr less, rfl⟩
  simp only [same]

end Outbound

theorem consumeOutgoingData_outgoing {side : Endpoint} {size : Nat} (enough : size ≤ side.outgoing.length) :
    (side.consumeOutgoingData size).outgoing = side.outgoing.drop size := by
  unfold consumeOutgoingData
  dsimp only
  rw [if_pos (show (side.notify _).outgoing.length ≥ size from enough)]
  rfl

/-- Of the payloads from the next one to ack on, `k` are kept, and the next one to send is
    the one with number `n`. In a window of 32 payloads, the one behind all of them has the
    serial number of the first. -/
structure Endpoint.Window (side : Endpoint) (n k : Nat) : Prop where
  few : k ≤ side.protocol.actualSessionCfg.maxTxWindowSize.toNat
  all : k ≤ snWindowSize
  ackSn : side.protocol.out.nextExpectedAckSn < snWindowSize
  near : n < snWindowSize
  dataSn : side.protocol.out.nextDataSn = (side.protocol.out.nextExpectedAckSn + n) % snWindowSize
  sizes : ∀ i < snWindowSize, side.protocol.out.sizeAt i ≠ 0 ↔ i < k
  bytes : side.protocol.out.bytesBelow k ≤ side.outgoing.length

/-- What a window is about is the same, and there is no less data. -/
structure SameSns (side side' : Endpoint) : Prop where
  state : side'.protocol.state = side.protocol.state := by rfl
  session : side'.protocol.actualSessionCfg = side.protocol.actualSessionCfg := by rfl
  ackSn : side'.protocol.out.nextExpectedAckSn = side.protocol.out.nextExpectedAckSn := by rfl
  dataSn : side'.protocol.out.nextDataSn = side.protocol.out.nextDataSn := by rfl
  sizes : side'.protocol.out.payloadSizes = side.protocol.out.payloadSizes := by rfl
  outgoing : side.outgoing.length ≤ side'.outgoing.length := by exact Nat.le_refl _

theorem SameWindow.sns {side side' : Endpoint} (same : SameWindow side side') : SameSns side side' :=
  ⟨same.state, same.session, by rw [same.out], by rw [same.out], by rw [same.out], by rw [same.outgoing]⟩

namespace Endpoint.Window

variable {side side' : Endpoint} {n k : Nat}

theorem smallSns (window : side.Window n k) : side.SmallSns :=
  ⟨window.ackSn, window.dataSn ▸ Nat.mod_lt _ (by decide)⟩

theorem inFlight (window : side.Window n k) : side.protocol.out.getNumPacketsInFlight = n := by
  have ackSn := window.ackSn
  have near := window.near
  unfold Outbound.getNumPacketsInFlight calculateDistance
  rw [window.dataSn]
  unfold snWindowSize at *
  omega

theorem offset (window : side.Window n k) :
    side.protocol.out.getTotalNumBytesAwaitingAck = side.protocol.out.bytesBelow n := by
  unfold Outbound.getTotalNumBytesAwaitingAck
  rw [window.dataSn, Outbound.totalUpTo_eq window.ackSn window.near]

theorem nextSize (window : side.Window n k) :
    side.protocol.out.payloadSizes side.protocol.out.nextDataSn = side.protocol.out.sizeAt n := by
  rw [window.dataSn]
  rfl

theorem congr (window : side.Window n k) (same : SameSns side side') : side'.Window n k := by
  obtain ⟨-, session, ackSn, dataSn, sizes, outgoing⟩ := same
  have sizeAt : ∀ i, side'.protocol.out.sizeAt i = side.protocol.out.sizeAt i := by
    intro i
    unfold Outbound.sizeAt
    rw [ackSn, sizes]
  refine ⟨session ▸ window.few, window.all, ackSn ▸ window.ackSn, window.near, ?_, ?_, ?_⟩
  · rw [dataSn, ackSn]
    exact window.dataSn
  · intro i inside
    rw [sizeAt]
    exact window.sizes i inside
  · rw [Outbound.bytesBelow_congr fun i _ => sizeAt i]
    exact window.bytes.trans outgoing

/-- An endpoint at the beginning of a session. -/
theorem zero (out : side.protocol.out = .zero) : side.Window 0 0 := by
  refine ⟨Nat.zero_le _, Nat.zero_le _, ?_, Nat.succ_pos 31, ?_, ?_, Nat.zero_le _⟩
  · rw [out]
    exact Nat.succ_pos 31
  · rw [out]
    rfl
  · intro i _
    rw [out]
    exact ⟨fun nonzero => (nonzero rfl).elim, fun less => (Nat.not_lt_zero i less).elim⟩

/-- After a timeout the payloads that are kept are sent again. -/
theorem rollBack (window : side.Window n k) : side.rolledBack.Window 0 k := by
  refine ⟨window.few, window.all, window.ackSn, Nat.succ_pos 31, ?_, window.sizes, window.bytes⟩
  exact (Nat.mod_eq_of_lt window.ackSn).symm

/-- The next payload is sent, for the first time or again. -/
theorem send {next : Endpoint} {prepared : Prepared} (window : side.Window n k) (valid : n ≤ k)
    (prepares : side.prepareNextPacket = .ok (next, some prepared)) (data : prepared.payloadSize ≠ 0) :
    (next.withSent prepared).Window ((n + 1) % snWindowSize) (max k (n + 1)) := by
  obtain ⟨-, -, noData, -⟩ | ⟨-, -, -, windowOpen, size, out⟩ := withSent_cases window.smallSns.dataSn prepares
  · exact (data noData).elim
  obtain ⟨ackSn, dataSn, sizes⟩ := outAcked_window side
  have nextSn : n < side.protocol.actualSessionCfg.maxTxWindowSize.toNat := window.inFlight ▸ windowOpen
  have few := window.few
  have all := window.all
  have near := window.near
  have isAckSn : (next.withSent prepared).protocol.out.nextExpectedAckSn = side.protocol.out.nextExpectedAckSn := by
    rw [out]
    exact ackSn
  have sizeAt : ∀ i < snWindowSize, (next.withSent prepared).protocol.out.sizeAt i =
      if i = n then prepared.payloadSize else side.protocol.out.sizeAt i := by
    intro i inside
    unfold Outbound.sizeAt
    rw [isAckSn, out]
    change Function.update side.armRetransmit.outAcked.payloadSizes side.armRetransmit.outAcked.nextDataSn
      prepared.payloadSize _ = _
    rw [dataSn, sizes, window.dataSn]
    by_cases same : i = n
    · rw [same, Function.update_self, if_pos rfl]
    · rw [if_neg same, Function.update_of_ne]
      unfold snWindowSize at *
      omega
  rw [window.offset] at size
  have again : n < k → prepared.payloadSize = side.protocol.out.sizeAt n := by
    intro less
    have kept := (window.sizes n window.near).mpr less
    rw [← window.nextSize] at kept ⊢
    obtain ⟨first, -⟩ | ⟨-, isSize⟩ := nextDataSize_cases size
    · exact (kept first).elim
    · exact isSize
  have new : n = k → side.protocol.out.bytesBelow k + prepared.payloadSize ≤ side.outgoing.length := by
    rintro rfl
    have free : side.protocol.out.sizeAt n = 0 :=
      by_contra fun kept => Nat.lt_irrefl n ((window.sizes n window.near).mp kept)
    obtain ⟨-, enough, isSize⟩ | ⟨kept, -⟩ := nextDataSize_cases size
    · omega
    · exact (kept (window.nextSize.trans free)).elim
  obtain ⟨timer, rfl⟩ := prepareNextPacket_same prepares
  refine ⟨by change max k (n + 1) ≤ side.protocol.actualSessionCfg.maxTxWindowSize.toNat; omega, by omega,
    isAckSn ▸ window.ackSn, Nat.mod_lt _ (by decide), ?_, ?_, ?_⟩
  · rw [isAckSn, out]
    change getNextSn side.armRetransmit.outAcked.nextDataSn = _
    rw [dataSn, window.dataSn, nextSn_mod, Nat.add_mod_mod]
    rfl
  · intro i inside
    rw [sizeAt i inside]
    by_cases same : i = n
    · rw [if_pos same]
      exact ⟨fun _ => by omega, fun _ => data⟩
    · rw [if_neg same, window.sizes i inside]
      omega
  · change _ ≤ side.outgoing.length
    rcases Nat.lt_or_eq_of_le valid with less | equal
    · rw [Nat.max_eq_left less, Outbound.bytesBelow_congr]
      · exact window.bytes
      · intro i below
        rw [sizeAt i (by omega)]
        split
        case isTrue same => rw [again less, same]
        case isFalse => rfl
    · rw [equal, Nat.max_eq_right (Nat.le_succ k), Outbound.bytesBelow_succ, sizeAt k (by omega), if_pos equal.symm,
        Outbound.bytesBelow_congr]
      · exact new equal
      · intro i below
        rw [sizeAt i (by omega), if_neg (by omega)]

/-- The payload of a serial number that is awaited is one of those that are kept. -/
theorem acked_le {psn : Nat} (window : side.Window n k) (small : psn < snWindowSize)
    (awaiting : side.protocol.out.packetIsAwaitingAck psn = true) :
    calculateDistance side.protocol.out.nextExpectedAckSn psn + 1 ≤ k := by
  have ackSn := window.ackSn
  have near : calculateDistance side.protocol.out.nextExpectedAckSn psn < snWindowSize := Nat.mod_lt _ (by decide)
  apply (window.sizes _ near).mp
  have same : (side.protocol.out.nextExpectedAckSn + calculateDistance side.protocol.out.nextExpectedAckSn psn) %
      snWindowSize = psn := by
    unfold calculateDistance snWindowSize at *
    omega
  unfold Outbound.sizeAt
  rw [same]
  simpa [Outbound.packetIsAwaitingAck] using awaiting

/-- The first payloads are acked, one of them at least and none that is not kept. -/
theorem acknowledge {psn acked : Nat} (window : side.Window n k) (positive : 0 < acked) (kept : acked ≤ k)
    (near : acked < snWindowSize)
    (isPsn : getNextSn psn = (side.protocol.out.nextExpectedAckSn + acked) % snWindowSize) :
    (side.acknowledged psn).Window ((n + snWindowSize - acked) % snWindowSize) (k - acked) ∧
      (side.acknowledged psn).outgoing = side.outgoing.drop (side.protocol.out.bytesBelow acked) ∧
      ((side.acknowledged psn).protocol.out.retransmitTimer ≠ none ↔ acked < k) := by
  have few := window.few
  have all := window.all
  have out := acknowledged_out side psn
  rw [isPsn] at out
  have clears := fun i => @Outbound.sizeAt_clear _ window.ackSn _ near i
  have clearsAckSn : (side.protocol.out.clearPayloadSizesUpTo ((side.protocol.out.nextExpectedAckSn + acked) %
      snWindowSize)).nextExpectedAckSn = side.protocol.out.nextExpectedAckSn := by
    rw [Outbound.clearPayloadSizesUpTo, foldl_clear]
  have clearsDataSn : (side.protocol.out.clearPayloadSizesUpTo ((side.protocol.out.nextExpectedAckSn + acked) %
      snWindowSize)).nextDataSn = side.protocol.out.nextDataSn := by
    rw [Outbound.clearPayloadSizesUpTo, foldl_clear]
  generalize side.protocol.out.clearPayloadSizesUpTo
    ((side.protocol.out.nextExpectedAckSn + acked) % snWindowSize) = cleared at out clears clearsAckSn clearsDataSn
  have sizeAt : ∀ i < k - acked, (side.acknowledged psn).protocol.out.sizeAt i = side.protocol.out.sizeAt (acked + i) := by
    intro i inside
    have isCleared := clears (acked + i) (by omega)
    rw [if_neg (by omega)] at isCleared
    rw [← isCleared, out]
    unfold Outbound.sizeAt
    rw [clearsAckSn]
    change cleared.payloadSizes _ = cleared.payloadSizes _
    congr 1
    dsimp only
    unfold snWindowSize
    omega
  have bytes : side.protocol.out.bytesBelow k =
      side.protocol.out.bytesBelow acked + (side.acknowledged psn).protocol.out.bytesBelow (k - acked) := by
    conv => lhs; rw [← Nat.add_sub_cancel' kept, Outbound.bytesBelow_add]
    unfold Outbound.bytesBelow
    rw [List.map_congr_left fun i member => (sizeAt i (List.mem_range.mp member)).symm]
  have outgoing : (side.acknowledged psn).outgoing = side.outgoing.drop (side.protocol.out.bytesBelow acked) := by
    have total := Outbound.totalUpTo_eq window.ackSn near
    have enough := window.bytes
    unfold acknowledged
    rw [isPsn]
    dsimp only
    rw [total, consumeOutgoingData_outgoing]
    · rfl
    · change _ ≤ side.outgoing.length
      omega
  have ackSn : (side.acknowledged psn).protocol.out.nextExpectedAckSn =
      (side.protocol.out.nextExpectedAckSn + acked) % snWindowSize := by rw [out]
  have session : (side.acknowledged psn).protocol.actualSessionCfg = side.protocol.actualSessionCfg := by
    rw [acknowledged_protocol]
  refine ⟨⟨?few, (Nat.sub_le k acked).trans all, ackSn ▸ Nat.mod_lt _ (by decide), Nat.mod_lt _ (by decide), ?dataSn, ?sizes, ?bytes⟩,
    outgoing, ?timer⟩
  case few =>
      rw [session]
      omega
  case dataSn =>
      rw [ackSn, out]
      change cleared.nextDataSn = _
      rw [clearsDataSn, window.dataSn]
      unfold snWindowSize at *
      omega
  case sizes =>
      intro i inside
      have isCleared := clears ((acked + i) % snWindowSize) (Nat.mod_lt _ (by decide))
      have same : (side.acknowledged psn).protocol.out.sizeAt i = cleared.sizeAt ((acked + i) % snWindowSize) := by
        unfold Outbound.sizeAt
        rw [ackSn, clearsAckSn, out]
        change cleared.payloadSizes _ = cleared.payloadSizes _
        congr 1
        unfold snWindowSize
        omega
      rw [same, isCleared]
      have isKept := window.sizes ((acked + i) % snWindowSize) (Nat.mod_lt _ (by decide))
      unfold snWindowSize at *
      split
      case isTrue again => exact ⟨fun nonzero => (nonzero rfl).elim, by omega⟩
      case isFalse =>
          rw [isKept]
          omega
  case bytes =>
      have enough := window.bytes
      rw [outgoing, List.length_drop]
      omega
  case timer =>
      have awaited : cleared.packetIsAwaitingAck ((side.protocol.out.nextExpectedAckSn + acked) % snWindowSize) = true ↔
          acked < k := by
        have isCleared := clears acked near
        rw [if_neg (Nat.lt_irrefl _)] at isCleared
        unfold Outbound.sizeAt at isCleared
        rw [clearsAckSn] at isCleared
        simp only [Outbound.packetIsAwaitingAck, isCleared, decide_eq_true_eq]
        exact window.sizes acked near
      rw [out, ← awaited]
      change (if cleared.packetIsAwaitingAck _ = true then some expectedAckTimeout else none) ≠ none ↔ _
      split <;> simp_all

end Endpoint.Window

namespace Endpoint

variable {side : Endpoint} {n k : Nat}

/-! ## Acks of packets in flight -/

/-- The payloads that are kept are those of `k` serial numbers from the next one to ack on; the
    next one to send is one of them, or the one behind them; and the client has them all. -/
structure KeepsInterval (side : Endpoint) (k : Nat) : Prop where
  sns : side.SmallSns
  few : k ≤ side.protocol.actualSessionCfg.maxTxWindowSize.toNat
  sizes : ∀ sn < snWindowSize, side.protocol.out.payloadSizes sn ≠ 0 ↔
    calculateDistance side.protocol.out.nextExpectedAckSn sn < k
  next : calculateDistance side.protocol.out.nextExpectedAckSn side.protocol.out.nextDataSn ≤ k
  bytes : ((List.range snWindowSize).map side.protocol.out.payloadSizes).sum ≤ side.outgoing.length
  offset : side.protocol.out.getTotalNumBytesAwaitingAck ≤ side.outgoing.length

/-- The sum over all serial numbers, from the next one to ack on. -/
theorem sum_payloadSizes (out : Outbound) :
    ((List.range snWindowSize).map out.payloadSizes).sum = out.bytesBelow snWindowSize := by
  have rotated : (List.range snWindowSize).rotate out.nextExpectedAckSn =
      (List.range snWindowSize).map fun i => (out.nextExpectedAckSn + i) % snWindowSize := by
    apply List.ext_getElem
    · simp
    · intro i _ _
      simp [List.getElem_rotate, Nat.add_comm]
  have perm := ((List.range snWindowSize).rotate_perm out.nextExpectedAckSn).map out.payloadSizes
  rw [← perm.sum_eq, rotated, List.map_map]
  rfl

theorem Window.keepsInterval (window : side.Window n k) (valid : n ≤ k) : side.KeepsInterval k := by
  have ackSn := window.ackSn
  have few := window.few
  have le := window.all
  have all : side.protocol.out.bytesBelow snWindowSize = side.protocol.out.bytesBelow k := by
    rw [← Nat.add_sub_cancel' le, Outbound.bytesBelow_add, Nat.add_eq_left]
    apply List.sum_eq_zero
    intro size member
    obtain ⟨i, isIndex, rfl⟩ := List.mem_map.mp member
    have inside := List.mem_range.mp isIndex
    by_contra kept
    have below := (window.sizes (k + i) (by omega)).mp kept
    omega
  refine ⟨window.smallSns, few, ?_, ?_, ?_, ?_⟩
  · intro sn isSn
    have near : calculateDistance side.protocol.out.nextExpectedAckSn sn < snWindowSize := Nat.mod_lt _ (by decide)
    rw [← window.sizes _ near]
    unfold Outbound.sizeAt
    have same : (side.protocol.out.nextExpectedAckSn + calculateDistance side.protocol.out.nextExpectedAckSn sn) %
        snWindowSize = sn := by
      unfold calculateDistance snWindowSize at *
      omega
    rw [same]
  · exact window.inFlight.trans_le valid
  · rw [sum_payloadSizes, all]
    exact window.bytes
  · rw [window.offset]
    exact (Outbound.bytesBelow_mono _ valid).trans window.bytes

/-- The ack is for a payload that is kept, but that has not been sent again since the last
    timeout. -/
def AcksUnsent (side : Endpoint) (psn : Nat) : Prop :=
  side.protocol.out.packetIsAwaitingAck psn = true ∧
    side.protocol.out.getNumPacketsInFlight ≤ calculateDistance side.protocol.out.nextExpectedAckSn psn

instance (side : Endpoint) (psn : Nat) : Decidable (side.AcksUnsent psn) := inferInstanceAs (Decidable (_ ∧ _))

/-- No ack comes for a payload that is still to be sent again. -/
def AcksInFlight (side : Endpoint) : Input → Prop
  | .receive _ packet =>
      side.protocol.state = .ready → packet.length ≤ maxPacketSize → ∀ psn ∈ ackOf packet, ¬ side.AcksUnsent psn
  | _ => True

instance : ∀ (side : Endpoint) (next : Input), Decidable (side.AcksInFlight next)
  | _, .receive _ _ => inferInstanceAs (Decidable (_ → _ → ∀ _ ∈ ackOf _, ¬ _))
  | _, .start | _, .reset | _, .call _ | _, .ackTimer | _, .retransmitTimer _ => isTrue trivial

/-- Acks of packets in flight only. -/
def acksInFlight : Provisos where
  ack side psn := ¬ side.AcksUnsent psn

theorem AcksInFlight.may (turns : Nat) {next : Input} (acks : side.AcksInFlight next) : side.May turns acksInFlight next := by
  cases next with
  | start | reset | ackTimer | retransmitTimer => trivial
  | call clientCall => exact may_call trivial clientCall
  | receive reactions packet =>
      intro ready _ fits
      refine ⟨?_, fun _ _ _ _ _ _ _ => trivial⟩
      intro psn isAck
      have inFlight := acks ready fits psn isAck
      unfold AcksUnsent at inFlight
      change ¬ side.clearStall.AcksUnsent psn
      unfold AcksUnsent
      rwa [clearStall_protocol]

/-- In a session the window is in order. -/
def InOrder (side : Endpoint) : Prop :=
  side.protocol.state = .ready → ∃ n k, side.Window n k ∧ n ≤ k

theorem InOrder.outside (left : side.protocol.state ≠ .ready) : side.InOrder := fun ready => (left ready).elim

/-- What does not touch the window. -/
theorem InOrder.congr {side' : Endpoint} (inOrder : side.InOrder) (same : SameSns side side') : side'.InOrder := by
  intro ready
  obtain ⟨n, k, window, valid⟩ := inOrder (same.state ▸ ready)
  exact ⟨n, k, window.congr same, valid⟩

/-- A packet leaves the window in order. -/
theorem Window.sent {next : Endpoint} {prepared : Prepared} (window : side.Window n k) (valid : n ≤ k)
    (prepares : side.prepareNextPacket = .ok (next, some prepared)) :
    ∃ n k, (next.withSent prepared).Window n k ∧ n ≤ k := by
  by_cases data : prepared.payloadSize = 0
  · obtain ⟨-, rfl, -, out⟩ | ⟨-, nonzero, -⟩ := withSent_cases window.smallSns.dataSn prepares
    · refine ⟨n, k, window.congr ⟨rfl, rfl, ?_, ?_, ?_, Nat.le_refl _⟩, valid⟩
      all_goals rw [out]; rfl
    · exact (nonzero data).elim
  · exact ⟨_, _, window.send valid prepares data, (Nat.mod_le _ _).trans (Nat.le_max_right _ _)⟩

theorem Window.next_psn {psn : Nat} (window : side.Window n k) (small : psn < snWindowSize) :
    getNextSn psn = (side.protocol.out.nextExpectedAckSn +
      (calculateDistance side.protocol.out.nextExpectedAckSn psn + 1)) % snWindowSize := by
  have ackSn := window.ackSn
  unfold getNextSn calculateDistance snWindowSize at *
  omega

theorem kept_inOrder : Kept acksInFlight InOrder where
  queue bytes inOrder := inOrder.congr { outgoing := by simp }
  consumeIncomingData _ inOrder := inOrder.congr {}
  resize _ inOrder := inOrder.congr {}
  refused inOrder prepares := by
    obtain ⟨timer, rfl⟩ := prepareNextPacket_same prepares
    exact inOrder.congr {}
  sent {side next prepared} inOrder prepares := by
    intro ready
    rw [KeptInSession.withSent_state prepares] at ready
    obtain ⟨n, k, window, valid⟩ := inOrder ready
    exact window.sent valid prepares
  acknowledge {side psn} inOrder ready small awaiting inFlight := by
    intro _
    obtain ⟨n, k, window, valid⟩ := inOrder ready
    have near := window.near
    have sent : calculateDistance side.protocol.out.nextExpectedAckSn psn < n := by
      rw [← window.inFlight]
      by_contra unsent
      exact inFlight ⟨awaiting, Nat.not_lt.mp unsent⟩
    refine ⟨_, _, (window.acknowledge (Nat.succ_pos _) (window.acked_le small awaiting) (Nat.lt_of_le_of_lt sent near)
      (window.next_psn small)).1, ?_⟩
    unfold snWindowSize at *
    omega
  accept inOrder _ _ _ _ _ _ := inOrder.congr {}
  ackWith inOrder _ _ := inOrder.congr {}
  countUnacked inOrder _ := inOrder.congr {}
  leave {side state} _ left _ := by
    apply InOrder.outside
    rwa [KeptByResets.leaveSession_state]
  schedule _ _ left _ := .outside left
  transmit _ _ left _ := by
    apply InOrder.outside
    rwa [sendRawData_protocol]
  agree _ _ _ left _ := .outside left
  enter {side} _ _ _ := fun _ => ⟨0, 0, .zero rfl, Nat.le_refl 0⟩
  clearStall {side} inOrder := inOrder.congr (clearStall_same side).sns
  ackTimerFired inOrder _ := inOrder.congr {}
  stalled {side elapsed} _ _ _ left := by
    apply InOrder.outside
    rwa [retransmitTimerFired_state]
  rolledBack {side elapsed} inOrder _ _ ready := by
    intro _
    obtain ⟨n, k, window, -⟩ := inOrder ready
    have idle : (side.setOut { side.protocol.out with retransmitTimer := none }).Window n k :=
      window.congr {}
    exact ⟨0, k, (idle.congr (countStall_same _ elapsed).sns).rollBack, Nat.zero_le k⟩

end Endpoint

/-- In every READY state of a run in which only payloads are acked that were sent since the
    last timeout, the sizes are those of an interval of serial numbers that is no larger than
    the window; the next one to send is in it or behind it; and the client has that many
    bytes. -/
theorem sendWindow_interval (config : SessionConfig) (transportMaxPacketSize turns : Nat)
    (sendResults : List (Except Error Unit)) {inputs : List Input} {side : Endpoint}
    (permits : (create config transportMaxPacketSize sendResults).Permits turns AcksInFlight inputs)
    (reaches : (create config transportMaxPacketSize sendResults).Reaches turns inputs side)
    (ready : side.protocol.state = .ready) : ∃ k, side.KeepsInterval k := by
  have outside : (create config transportMaxPacketSize sendResults).InOrder := fun isReady => by cases isReady
  have inOrder := kept_inOrder.reaches (fun _ _ acks => AcksInFlight.may turns acks) outside permits reaches
  obtain ⟨n, k, window, valid⟩ := inOrder ready
  exact ⟨k, window.keepsInterval valid⟩

/-- Two payloads are sent; they are to be sent again, but the transport takes no packet then. -/
def sentAgain : List Input :=
  [.start, .receive noReactions (resetCompletePacket ⟨8, 8⟩), .call (.queue [1, 2, 3, 4, 5, 6, 7, 8]),
    .call .notifyOutgoingDataAvailable, .retransmitTimer 4000]

/-- The results of `SendRawData`: the fifth packet is refused. -/
def fifthRefused : List (Except Error Unit) := [.ok (), .ok (), .ok (), .ok (), .error .outOfMemory]

theorem sendWindow_interval_sentAgain :
    ∃ side, (create ⟨8, 8⟩ 5 fifthRefused).run 10 sentAgain = .ok side ∧ ∃ k, side.KeepsInterval k := by
  have permits : (create ⟨8, 8⟩ 5 fifthRefused).Permits 10 AcksInFlight sentAgain := by decide
  refine ⟨_, rfl, ?_⟩
  exact sendWindow_interval ⟨8, 8⟩ 5 10 fifthRefused permits (.inl rfl) rfl

/-- The ack for the first payload is late: it leaves the next payload to send behind. -/
theorem sendWindow_overtaken :
    ∃ side, (create ⟨8, 8⟩ 5 fifthRefused).run 10 (sentAgain ++ [Input.receive noReactions [0x40]]) = .ok side ∧
      side.protocol.state = .ready ∧ ¬ ∃ k, side.KeepsInterval k := by
  refine ⟨_, rfl, rfl, ?_⟩
  rintro ⟨k, keeps⟩
  have next : 31 ≤ k := keeps.next
  have few : k ≤ 8 := keeps.few
  omega

end GoldenGate.Gattlink

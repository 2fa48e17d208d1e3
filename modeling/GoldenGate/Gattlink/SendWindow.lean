import GoldenGate.Gattlink.Protocol
import GoldenGate.Lib.GoBackN

/-! # The send window

The payload sizes by serial number, against the payloads numbered without a bound. The
loops over the serial numbers from the next one to ack come to the sizes of the payloads
that are in flight.
-/

namespace GoldenGate.Gattlink

open GoBackN

theorem nextSn_mod (i : Nat) : getNextSn (i % snWindowSize) = (i + 1) % snWindowSize := by
  unfold getNextSn snWindowSize
  omega

theorem distance_mod {i j : Nat} (le : i ≤ j) (near : j < i + snWindowSize) :
    calculateDistance (i % snWindowSize) (j % snWindowSize) = j - i := by
  unfold calculateDistance
  unfold snWindowSize at *
  omega

theorem distance_mod_of_lt {i j : Nat} (lt : j < i) (near : i < j + snWindowSize) :
    calculateDistance (i % snWindowSize) (j % snWindowSize) = snWindowSize - (i - j) := by
  unfold calculateDistance
  unfold snWindowSize at *
  omega

theorem snsUpTo_eq {turns base k : Nat} (enough : k ≤ turns) (few : k < snWindowSize) :
    Outbound.snsUpTo ((base + k) % snWindowSize) turns (base % snWindowSize) =
      (List.range k).map fun j => (base + j) % snWindowSize := by
  induction turns generalizing base k with
  | zero =>
      obtain rfl : k = 0 := by omega
      rfl
  | succ turns ih =>
      cases k with
      | zero => simp [Outbound.snsUpTo]
      | succ k =>
          have apart : ¬ base % snWindowSize = (base + (k + 1)) % snWindowSize := by
            unfold snWindowSize at *
            omega
          have moved : base + (k + 1) = base + 1 + k := by omega
          rw [Outbound.snsUpTo, if_neg apart, nextSn_mod, moved, ih (by omega) (by omega),
            List.range_succ_eq_map, List.map_cons, List.map_map, Nat.add_zero]
          refine congrArg (base % snWindowSize :: ·) (List.map_congr_left fun j _ => ?_)
          simp only [Function.comp_apply]
          congr 1
          omega

/-- The sizes are those of the payloads from the next one to ack on, and zero where
    nothing was sent. -/
def Sizes (sizes : Nat → Nat) (sent : List (List UInt8)) (base : Nat) : Prop :=
  ∀ i, base ≤ i → i < base + snWindowSize → sizes (i % snWindowSize) = (sent.getD i []).length

/-- Number of bytes in some of the payloads. -/
def payloadBytes (sent : List (List UInt8)) (base k : Nat) : Nat :=
  ((sent.drop base).take k).flatten.length

theorem payloadBytes_succ (sent : List (List UInt8)) (base k : Nat) :
    payloadBytes sent base (k + 1) = payloadBytes sent base k + (sent.getD (base + k) []).length := by
  unfold payloadBytes
  rw [List.take_add_one, List.flatten_append, List.length_append, List.getElem?_drop,
    List.getD_eq_getElem?_getD]
  cases sent[base + k]? <;> simp

theorem Sizes.sum {sizes : Nat → Nat} {sent : List (List UInt8)} {base : Nat}
    (isSizes : Sizes sizes sent base) {k : Nat} (few : k < snWindowSize) :
    (((List.range k).map fun j => (base + j) % snWindowSize).map sizes).sum =
      payloadBytes sent base k := by
  induction k with
  | zero => simp [payloadBytes]
  | succ k ih =>
      rw [List.range_succ, List.map_append, List.map_append, List.sum_append, ih (by omega),
        payloadBytes_succ, ← isSizes (base + k) (by omega) (by omega)]
      simp

/-- Only the sizes are cleared, those of the given serial numbers. -/
theorem foldl_clear (sns : List Nat) (out : Outbound) :
    sns.foldl (fun out sn => out.setPayloadSize sn 0) out =
      { out with payloadSizes := fun sn => if sn ∈ sns then 0 else out.payloadSizes sn } := by
  induction sns generalizing out with
  | nil => simp
  | cons sn sns ih =>
      rw [List.foldl_cons, ih]
      simp only [Outbound.setPayloadSize, Outbound.mk.injEq, true_and, and_true]
      funext other
      by_cases same : other = sn
      · simp [same, Function.update_self]
      · simp [same]

/-- The outbound state of a window: what is acked, and what is to be sent next. -/
structure Sn (out : Outbound) (sent : List (List UInt8)) (base next : Nat) : Prop where
  ackSn : out.nextExpectedAckSn = base % snWindowSize
  dataSn : out.nextDataSn = next % snWindowSize
  sizes : Sizes out.payloadSizes sent base

section Window

variable {out : Outbound} {sent : List (List UInt8)} {base next : Nat} (isSn : Sn out sent base next)
include isSn

theorem Sn.inFlight (le : base ≤ next) (near : next < base + snWindowSize) :
    out.getNumPacketsInFlight = next - base := by
  rw [Outbound.getNumPacketsInFlight, isSn.ackSn, isSn.dataSn, distance_mod le near]

theorem Sn.total {k : Nat} (few : k < snWindowSize) :
    out.getTotalNumBytesAwaitingAckUpTo ((base + k) % snWindowSize) = payloadBytes sent base k := by
  rw [Outbound.getTotalNumBytesAwaitingAckUpTo, isSn.ackSn, snsUpTo_eq (by omega) few,
    isSn.sizes.sum few]

/-- A packet with the next serial number was sent, for the first time or again. -/
theorem Sn.sendNext {sent' : List (List UInt8)} {payload : List UInt8} (le : base ≤ next)
    (near : next < base + snWindowSize) (there : sent'[next]? = some payload)
    (same : ∀ i, i ≠ next → sent'.getD i [] = sent.getD i []) :
    Sn (out.dataSent payload.length) sent' base (next + 1) := by
  refine ⟨isSn.ackSn, ?_, ?_⟩
  · change getNextSn out.nextDataSn = _
    rw [isSn.dataSn]
    exact nextSn_mod next
  · intro i above below
    change Function.update out.payloadSizes out.nextDataSn payload.length (i % snWindowSize) = _
    rw [isSn.dataSn]
    by_cases isNext : i = next
    · rw [isNext, Function.update_self, List.getD_eq_getElem?_getD, there, Option.getD_some]
    · have apart : i % snWindowSize ≠ next % snWindowSize := fun equal =>
        isNext (serial_inj equal (by omega) (by omega))
      rw [Function.update_of_ne apart, same i isNext, isSn.sizes i above below]

/-- The payloads up to one of those in flight are acked. -/
theorem Sn.acknowledge {k : Nat} (few : k < snWindowSize) (inside : sent.length < base + snWindowSize) :
    let cleared := out.clearPayloadSizesUpTo ((base + k) % snWindowSize)
    Sizes cleared.payloadSizes sent (base + k) ∧
      cleared = { out with payloadSizes := cleared.payloadSizes } := by
  intro cleared
  let sns := (List.range k).map fun j => (base + j) % snWindowSize
  have clears : cleared =
      { out with payloadSizes := fun sn => if sn ∈ sns then 0 else out.payloadSizes sn } := by
    change Outbound.clearPayloadSizesUpTo _ _ = _
    have visited := @snsUpTo_eq snWindowSize base k (by omega) few
    rw [← isSn.ackSn] at visited
    rw [Outbound.clearPayloadSizesUpTo, visited, foldl_clear]
  refine ⟨?_, by rw [clears]⟩
  rw [clears]
  intro i above below
  simp only [sns, List.mem_map, List.mem_range]
  by_cases old : i < base + snWindowSize
  · have kept : ¬ ∃ j < k, (base + j) % snWindowSize = i % snWindowSize := by
      rintro ⟨j, less, equal⟩
      have same := serial_inj equal (by omega) (by omega)
      omega
    rw [if_neg kept]
    exact isSn.sizes i (by omega) old
  · -- the serial number comes round again
    have again : ∃ j < k, (base + j) % snWindowSize = i % snWindowSize := by
      refine ⟨i - snWindowSize - base, by omega, ?_⟩
      unfold snWindowSize at *
      omega
    rw [if_pos again, List.getD_eq_getElem?_getD, List.getElem?_eq_none (by omega)]
    rfl

end Window

end GoldenGate.Gattlink

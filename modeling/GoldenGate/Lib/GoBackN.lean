import Mathlib.Data.List.Basic
import Mathlib.Order.Basic

/-! # Go-back-N

A sender, a receiver and the two channels between them, which keep the order but may
lose anything. Items are numbered without a bound here. `Valid` says how far the numbers
in the two places and in the channels can be apart; from it follows that a serial number
modulo more than the window tells whether an item is the expected one.
-/

namespace GoldenGate.GoBackN

/-- Items in the order of their first transmission, of which the sender knows those
    before `base` to be acked. The receiver has those before `received`, and acks those
    before `acked`. The channels are in the order of arrival. -/
structure Window (α : Type*) where
  sent : List α
  base : Nat
  received : Nat
  acked : Nat
  data : List (Nat × α)
  acks : List Nat

namespace Window

variable {α : Type*}

def empty : Window α := ⟨[], 0, 0, 0, [], []⟩

/-- An item in the channel is at most a window older than what was received. An item is
    at most a window older than one in front of it, since the one in front was inside the
    window when the later one was sent. -/
structure Valid (w : Window α) (size : Nat) : Prop where
  base_le : w.base ≤ w.acked
  acked_le : w.acked ≤ w.received
  received_le : w.received ≤ w.sent.length
  sent_le : w.sent.length ≤ w.base + size
  item : ∀ d ∈ w.data, w.sent[d.1]? = some d.2
  recent : ∀ d ∈ w.data, w.received ≤ d.1 + size
  close : w.data.Pairwise fun d e => d.1 < e.1 + size
  ack : ∀ a ∈ w.acks, w.base ≤ a + 1 ∧ a < w.acked
  ackOrder : w.acks.Pairwise (· ≤ ·)

theorem valid_empty (size : Nat) : (empty : Window α).Valid size := by
  constructor <;> simp [empty]

section Steps

variable {w : Window α} {size : Nat} (valid : w.Valid size)
include valid

theorem Valid.item_lt {d : Nat × α} (member : d ∈ w.data) : d.1 < w.sent.length :=
  (List.getElem?_eq_some_iff.mp (valid.item d member)).1

/-- A new item, while the window is not full. -/
theorem Valid.push (x : α) (room : w.sent.length < w.base + size) :
    ({ w with sent := w.sent ++ [x] } : Window α).Valid size :=
  { valid with
    received_le := by
      have received := valid.received_le
      simp only [List.length_append, List.length_singleton]
      omega
    sent_le := by
      simp only [List.length_append, List.length_singleton]
      omega
    item := by
      intro d member
      rw [List.getElem?_append_left (valid.item_lt member)]
      exact valid.item d member }

/-- A transmission of an item that is not known to be acked. -/
theorem Valid.send {i : Nat} {x : α} (unacked : w.base ≤ i) (there : w.sent[i]? = some x) :
    ({ w with data := w.data ++ [(i, x)] } : Window α).Valid size :=
  { valid with
    item := by
      intro d member
      obtain old | rfl := (List.mem_append.mp member).imp_right List.mem_singleton.mp
      · exact valid.item d old
      · exact there
    recent := by
      intro d member
      obtain old | rfl := (List.mem_append.mp member).imp_right List.mem_singleton.mp
      · exact valid.recent d old
      · have received := valid.received_le
        have sent := valid.sent_le
        change w.received ≤ i + size
        omega
    close := by
      refine List.pairwise_append.mpr ⟨valid.close, List.pairwise_singleton _ _, ?_⟩
      intro d old e member
      obtain rfl := List.mem_singleton.mp member
      have there := valid.item_lt old
      have sent := valid.sent_le
      change d.1 < i + size
      omega }

/-- An ack of the last item. -/
theorem Valid.sendAck (some_ : 0 < w.acked) :
    ({ w with acks := w.acks ++ [w.acked - 1] } : Window α).Valid size :=
  { valid with
    ack := by
      intro a member
      obtain old | rfl := (List.mem_append.mp member).imp_right List.mem_singleton.mp
      · exact valid.ack a old
      · have base := valid.base_le
        exact ⟨by simp only; omega, by simp only; omega⟩
    ackOrder := by
      refine List.pairwise_append.mpr ⟨valid.ackOrder, List.pairwise_singleton _ _, ?_⟩
      intro a old b member
      obtain rfl := List.mem_singleton.mp member
      have bound := (valid.ack a old).2
      omega }

theorem Valid.loseData {data : List (Nat × α)} (fewer : data.Sublist w.data) :
    ({ w with data := data } : Window α).Valid size :=
  { valid with
    item := fun d member => valid.item d (fewer.subset member)
    recent := fun d member => valid.recent d (fewer.subset member)
    close := valid.close.sublist fewer }

theorem Valid.loseAcks {acks : List Nat} (fewer : acks.Sublist w.acks) :
    ({ w with acks := acks } : Window α).Valid size :=
  { valid with
    ack := fun a member => valid.ack a (fewer.subset member)
    ackOrder := valid.ackOrder.sublist fewer }

/-- The item that is expected comes. -/
theorem Valid.receive {x : α} {rest : List (Nat × α)} (front : w.data = (w.received, x) :: rest) :
    ({ w with received := w.received + 1, data := rest } : Window α).Valid size := by
  have close := valid.close
  rw [front, List.pairwise_cons] at close
  exact
    { valid with
      acked_le := Nat.le_succ_of_le valid.acked_le
      received_le := by
        have there : w.received < w.sent.length :=
          valid.item_lt (show (w.received, x) ∈ w.data by rw [front]; exact List.mem_cons_self)
        exact there
      item := fun d member => valid.item d (by rw [front]; exact List.mem_cons_of_mem _ member)
      recent := fun d member => close.1 d member
      close := close.2 }

/-- The receiver acks what it has. -/
theorem Valid.catchUp : ({ w with acked := w.received } : Window α).Valid size :=
  { valid with
    base_le := Nat.le_trans valid.base_le valid.acked_le
    acked_le := Nat.le_refl _
    ack := fun a member =>
      ⟨(valid.ack a member).1, Nat.lt_of_lt_of_le (valid.ack a member).2 valid.acked_le⟩ }

/-- An ack of an item that was not known to be acked. -/
theorem Valid.acknowledge {a : Nat} {rest : List Nat} (front : w.acks = a :: rest)
    (news : w.base ≤ a) :
    ({ w with base := a + 1, acks := rest } : Window α).Valid size := by
  have order := valid.ackOrder
  rw [front, List.pairwise_cons] at order
  have bound := valid.ack a (by rw [front]; exact List.mem_cons_self)
  exact
    { valid with
      base_le := bound.2
      sent_le := by
        have sent := valid.sent_le
        change w.sent.length ≤ a + 1 + size
        omega
      ack := fun b member =>
        ⟨Nat.succ_le_succ (order.1 b member),
          (valid.ack b (by rw [front]; exact List.mem_cons_of_mem _ member)).2⟩
      ackOrder := order.2 }

end Steps

end Window

/-! ## Serial numbers -/

theorem serial_inj {a b n : Nat} (same : a % n = b % n) (above : a < b + n) (below : b < a + n) :
    a = b := by
  have aParts := Nat.div_add_mod a n
  have bParts := Nat.div_add_mod b n
  rw [same] at aParts
  have quotients : a / n = b / n := by
    rcases Nat.lt_trichotomy (a / n) (b / n) with less | equal | more
    · have := Nat.mul_le_mul_left n (Nat.succ_le_of_lt less)
      rw [Nat.mul_succ] at this
      omega
    · exact equal
    · have := Nat.mul_le_mul_left n (Nat.succ_le_of_lt more)
      rw [Nat.mul_succ] at this
      omega
  rw [quotients] at aParts
  exact aParts.symm.trans bParts

/-- The serial number of an item in the channel is the expected one only for the item that
    is expected. -/
theorem Window.Valid.serial_iff {α : Type*} {w : Window α} {size n : Nat} (valid : w.Valid size)
    (small : size < n) {d : Nat × α} (member : d ∈ w.data) :
    d.1 % n = w.received % n ↔ d.1 = w.received := by
  constructor
  · intro same
    have base := valid.base_le
    have acked := valid.acked_le
    have sent := valid.sent_le
    have there := valid.item_lt member
    have recent := valid.recent d member
    exact serial_inj same (by omega) (by omega)
  · intro same
    rw [same]

end GoldenGate.GoBackN

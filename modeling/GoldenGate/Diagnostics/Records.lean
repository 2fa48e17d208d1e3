import GoldenGate.Diagnostics.RamStorage

/-! # Records in the buffer

The buffer of a storage holds records one after the other, each after its length. What the loops
of the storage do to such a buffer, and which records can be added.
-/

namespace GoldenGate.Diagnostics

open Memory

abbrev Record := List UInt8

/-- A record in the buffer. -/
def encodeRecord (record : Record) : List UInt8 := lengthBytes record.length ++ record

/-- Records in the buffer. -/
def encode (records : List Record) : List UInt8 := records.flatMap encodeRecord

@[simp] theorem encode_nil : encode [] = [] := rfl

@[simp] theorem encode_cons (record : Record) (records : List Record) :
    encode (record :: records) = encodeRecord record ++ encode records := rfl

@[simp] theorem encode_append (records others : List Record) :
    encode (records ++ others) = encode records ++ encode others :=
  List.flatMap_append

@[simp] theorem length_encodeRecord (record : Record) : (encodeRecord record).length = 2 + record.length := by
  rw [encodeRecord, List.length_append]
  rfl

theorem length_le_encode (records : List Record) : 2 * records.length ≤ (encode records).length := by
  induction records with
  | nil => exact Nat.le_refl 0
  | cons record records ih =>
      rw [encode_cons, List.length_append, length_encodeRecord, List.length_cons]
      omega

/-- The first records that fit into a number of bytes. -/
def fitting : Nat → List Record → List Record
  | _, [] => []
  | room, record :: records =>
      if 2 + record.length ≤ room then record :: fitting (room - (2 + record.length)) records else []

theorem fitting_starts (room : Nat) (records : List Record) : fitting room records <+: records := by
  induction records generalizing room with
  | nil => exact List.prefix_refl []
  | cons record records ih =>
      unfold fitting
      split
      case isTrue => exact List.prefix_cons_inj record |>.mpr (ih _)
      case isFalse => exact List.nil_prefix

/-- How many of the oldest records must go for a record of some size to fit. -/
def evictions (capacity need : Nat) : List Record → Nat
  | [] => 0
  | record :: records =>
      if (encode (record :: records)).length + need ≤ capacity then 0 else 1 + evictions capacity need records

theorem evictions_le (capacity need : Nat) (records : List Record) : evictions capacity need records ≤ records.length := by
  induction records with
  | nil => exact Nat.le_refl 0
  | cons record records ih =>
      unfold evictions
      split
      case isTrue => exact Nat.zero_le _
      case isFalse =>
          rw [List.length_cons]
          omega

theorem evictions_fits {capacity need : Nat} (fits : need ≤ capacity) (records : List Record) :
    (encode (records.drop (evictions capacity need records))).length + need ≤ capacity := by
  induction records with
  | nil => simpa using fits
  | cons record records ih =>
      unfold evictions
      split
      case isTrue enough => exact enough
      case isFalse =>
          rw [Nat.add_comm 1, List.drop_succ_cons]
          exact ih

/-- No more records go than must. -/
theorem evictions_least {capacity need count : Nat} {records : List Record}
    (few : count < evictions capacity need records) : capacity < (encode (records.drop count)).length + need := by
  induction records generalizing count with
  | nil => exact absurd few (Nat.not_lt_zero _)
  | cons record records ih =>
      unfold evictions at few
      split at few
      case isTrue => exact absurd few (Nat.not_lt_zero _)
      case isFalse tooMany =>
          cases count with
          | zero => exact Nat.lt_of_not_le tooMany
          | succ count =>
              rw [List.drop_succ_cons]
              exact ih (by omega)

/-! ## Lengths -/

theorem lengthOver_lengthBytes {length : Nat} (small : length < 2 ^ 16) (old : Option Nat) :
    lengthOver old (lengthBytes length) = .ok length := by
  have low : (UInt8.ofNat length).toNat = length % 256 := UInt8.toNat_ofNat'
  have high : (UInt8.ofNat (length / 256)).toNat = length / 256 % 256 := UInt8.toNat_ofNat'
  simp only [lengthOver, lengthBytes, low, high, Except.ok.injEq]
  omega

theorem take_encodeRecord (record : Record) (rest : List UInt8) :
    (encodeRecord record ++ rest).take 2 = lengthBytes record.length := rfl

theorem u16_of_lt {value : Nat} (small : value < 2 ^ 16) : u16 value = value := Nat.mod_eq_of_lt small

theorem u16Sub_of_le {a b : Nat} (le : b ≤ a) (small : a < 2 ^ 16) : u16Sub a b = a - b := by
  unfold u16Sub u16
  omega

/-! ## The loops -/

/-- The buffer holds some records after a number of bytes, in less than 2¹⁶ bytes. A buffer without an
    array holds none. -/
structure HoldsAt (buffer : RingBuffer) (before : List UInt8) (records : List Record) : Prop where
  formed : records ≠ [] → buffer.WellFormed
  holds : ∃ rest, buffer.contents = before ++ (encode records ++ rest)
  small : buffer.contents.length < 2 ^ 16

theorem HoldsAt.tail {buffer : RingBuffer} {before : List UInt8} {record : Record} {records : List Record}
    (holdsAt : HoldsAt buffer before (record :: records)) : HoldsAt buffer (before ++ encodeRecord record) records where
  formed := fun _ => holdsAt.formed (List.cons_ne_nil _ _)
  holds := by
    obtain ⟨rest, holds⟩ := holdsAt.holds
    exact ⟨rest, by rw [holds]; simp⟩
  small := holdsAt.small

theorem HoldsAt.bound {buffer : RingBuffer} {before : List UInt8} {record : Record} {records : List Record}
    (holdsAt : HoldsAt buffer before (record :: records)) : before.length + (2 + record.length) < 2 ^ 16 := by
  obtain ⟨rest, holds⟩ := holdsAt.holds
  have small := holdsAt.small
  rw [holds, List.length_append, List.length_append, encode_cons, List.length_append, length_encodeRecord] at small
  omega

theorem HoldsAt.peekLength {buffer : RingBuffer} {before : List UInt8} {record : Record} {records : List Record}
    (holdsAt : HoldsAt buffer before (record :: records)) : peekLength buffer before.length = .ok record.length := by
  obtain ⟨rest, holds⟩ := holdsAt.holds
  have bound := holdsAt.bound
  rw [Diagnostics.peekLength, RingBuffer.peek_spec (holdsAt.formed (List.cons_ne_nil _ _)), ok_bind, holds, List.drop_left,
    encode_cons, List.append_assoc, take_encodeRecord, lengthOver_lengthBytes (by omega)]

theorem HoldsAt.peek {buffer : RingBuffer} {before : List UInt8} {record : Record} {records : List Record}
    (holdsAt : HoldsAt buffer before (record :: records)) :
    buffer.peek before.length (2 + record.length) = .ok (encodeRecord record) := by
  obtain ⟨rest, holds⟩ := holdsAt.holds
  rw [RingBuffer.peek_spec (holdsAt.formed (List.cons_ne_nil _ _)), holds, List.drop_left, encode_cons, List.append_assoc,
    List.take_left' (length_encodeRecord record)]

namespace RamStorage

theorem skipRecords_spec {buffer : RingBuffer} {before : List UInt8} {records : List Record}
    (holdsAt : HoldsAt buffer before records) :
    skipRecords buffer records.length before.length = .ok (before ++ encode records).length := by
  induction records generalizing before with
  | nil => simp [skipRecords]
  | cons record records ih =>
      have bound := holdsAt.bound
      have next := ih holdsAt.tail
      rw [List.length_append, length_encodeRecord] at next
      rw [List.length_cons, skipRecords, holdsAt.peekLength, ok_bind, u16_of_lt bound, next, encode_cons, List.append_assoc]

/-- The records that are returned are the first ones that fit. -/
theorem takeRecords_spec {buffer : RingBuffer} {before : List UInt8} {records : List Record} {size retLen : Nat}
    (holdsAt : HoldsAt buffer before records) (few : retLen ≤ size) (small : size < 2 ^ 16) :
    takeRecords buffer size records.length before.length retLen =
      .ok ((fitting (size - retLen) records).length, retLen + (encode (fitting (size - retLen) records)).length,
        encode (fitting (size - retLen) records)) := by
  induction records generalizing before retLen with
  | nil => simp [takeRecords, fitting]
  | cons record records ih =>
      have bound := holdsAt.bound
      rw [List.length_cons, takeRecords, holdsAt.peekLength, ok_bind]
      split
      case isTrue tooLarge =>
          have noRoom : ¬2 + record.length ≤ size - retLen := by omega
          simp [fitting, noRoom]
      case isFalse fits =>
          have next := @ih _ (retLen + (2 + record.length)) holdsAt.tail (by omega)
          rw [List.length_append, length_encodeRecord] at next
          have room : 2 + record.length ≤ size - retLen := by omega
          rw [holdsAt.peek, ok_bind, u16_of_lt bound, u16_of_lt (by omega), next, ok_bind, fitting, if_pos room,
            ← Nat.sub_add_eq, List.length_cons, encode_cons, List.length_append, length_encodeRecord, Nat.add_assoc retLen]
          rfl

/-- Records that are removed are the oldest ones. -/
theorem dropRecords_spec {buffer : RingBuffer} {records others : List Record}
    (formed : records ≠ [] → buffer.WellFormed) (holds : buffer.contents = encode (records ++ others))
    (small : buffer.contents.length < 2 ^ 16) :
    ∃ after, dropRecords records.length buffer = .ok after ∧ (buffer.WellFormed → after.WellFormed) ∧
      after.size = buffer.size ∧ after.contents = encode others := by
  induction records generalizing buffer with
  | nil => exact ⟨buffer, rfl, id, rfl, holds⟩
  | cons record records ih =>
      have wellFormed := formed (List.cons_ne_nil _ _)
      have holdsAt : HoldsAt buffer [] (record :: records) :=
        ⟨formed, ⟨encode others, by rw [holds]; simp⟩, small⟩
      have room : 2 + record.length ≤ buffer.getAvailable := by
        rw [← wellFormed.length_contents, holds]
        simp
      obtain ⟨formed', contents⟩ := RingBuffer.moveOut_spec wellFormed room
      have holds' : (buffer.moveOut (2 + record.length)).contents = encode (records ++ others) := by
        rw [contents, holds, List.cons_append, encode_cons, List.drop_left' (length_encodeRecord record)]
      obtain ⟨after, drops, keeps, sized, isOthers⟩ := ih (fun _ => formed') holds' (by
        rw [holds']
        rw [holds, List.cons_append, encode_cons, List.length_append] at small
        omega)
      have lengthRead := holdsAt.peekLength
      exact ⟨after, by rw [List.length_cons, dropRecords, ← List.length_nil (α := UInt8), lengthRead, ok_bind, drops],
        fun _ => keeps formed', sized, isOthers⟩

theorem getSpace_encode {buffer : RingBuffer} {records : List Record} (formed : buffer.WellFormed)
    (holds : buffer.contents = encode records) : (encode records).length + buffer.getSpace = buffer.size - 1 := by
  rw [← holds, formed.length_contents]
  exact formed.getAvailable_add

/-- The loop that makes room removes as many of the oldest records as it must. -/
theorem evict_spec {buffer : RingBuffer} {records : List Record} {recordSize fuel removedCount : Nat}
    (formed : buffer.WellFormed) (holds : buffer.contents = encode records) (small : buffer.size < 2 ^ 16)
    (fits : recordSize ≤ buffer.size - 1) (enough : records.length < fuel) (len : Option Nat)
    (few : removedCount + records.length < 2 ^ 16) :
    ∃ after, evict recordSize fuel buffer len removedCount =
        .ok (after, removedCount + evictions (buffer.size - 1) recordSize records) ∧
      after.WellFormed ∧ after.size = buffer.size ∧
      after.contents = encode (records.drop (evictions (buffer.size - 1) recordSize records)) := by
  induction records generalizing buffer fuel len removedCount with
  | nil =>
      obtain ⟨fuel, rfl⟩ : ∃ n, fuel = n + 1 := ⟨fuel - 1, by omega⟩
      have space := getSpace_encode formed holds
      rw [encode_nil, List.length_nil, Nat.zero_add] at space
      exact ⟨buffer, by rw [evict, if_neg (by omega)]; rfl, formed, rfl, holds⟩
  | cons record records ih =>
      obtain ⟨fuel, rfl⟩ : ∃ n, fuel = n + 1 := ⟨fuel - 1, by omega⟩
      have space := getSpace_encode formed holds
      unfold evict evictions
      split
      case isTrue full =>
          have available : 2 + record.length + (encode records).length = buffer.getAvailable := by
            rw [← formed.length_contents, holds, encode_cons, List.length_append, length_encodeRecord]
          have total := formed.getAvailable_lt
          obtain ⟨formed', contents⟩ := RingBuffer.moveOut_spec formed (show 2 + record.length ≤ buffer.getAvailable by omega)
          have holds' : (buffer.moveOut (2 + record.length)).contents = encode records := by
            rw [contents, holds, encode_cons, List.drop_left' (length_encodeRecord record)]
          have inside : ¬(buffer.moveOut (2 + record.length)).out ≥ (buffer.moveOut (2 + record.length)).size :=
            Nat.not_le_of_lt formed'.out_lt
          rw [List.length_cons] at enough few
          have fewer : removedCount + 1 + records.length < 2 ^ 16 := by omega
          obtain ⟨after, evicts, wellFormed, sized, rest⟩ := ih formed' holds' small fits
            (show records.length < fuel by omega) (some record.length) fewer
          rw [if_neg (show ¬(encode (record :: records)).length + recordSize ≤ buffer.size - 1 by omega)]
          refine ⟨after, ?_, wellFormed, sized, ?_⟩
          · unfold RingBuffer.size at small
            rw [RingBuffer.read_spec formed, ok_bind]
            dsimp only
            rw [holds, encode_cons, take_encodeRecord, lengthOver_lengthBytes (by omega), ok_bind,
              Nat.min_eq_left (by omega), RingBuffer.moveOut_add formed (by omega), if_neg inside, u16_of_lt (by omega),
              evicts, Nat.add_assoc]
            rfl
          · rw [Nat.add_comm 1, List.drop_succ_cons]
            exact rest
      case isFalse room =>
          rw [if_pos (show (encode (record :: records)).length + recordSize ≤ buffer.size - 1 by omega)]
          exact ⟨buffer, rfl, formed, rfl, holds⟩

end RamStorage

end GoldenGate.Diagnostics

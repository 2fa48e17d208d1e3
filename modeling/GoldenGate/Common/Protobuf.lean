import GoldenGate.Lib.Bytes
import GoldenGate.Lib.Memory
import GoldenGate.Lib.Varint

/-! # Protobuf numbers

The embedding of the varint and zigzag functions of `gg_utils.c`. A `uint64_t` that is a size is
a natural number below `2 ^ 64`.
-/

namespace GoldenGate

open Memory

/-- `GG_PROTOBUF_FIELD_KEY`, by the wire type. -/
def protobufFieldKey (fieldNumber wireType : Nat) : UInt8 := UInt8.ofNat ((fieldNumber <<< 3) ||| wireType)

def protobufWireTypeVarint : Nat := 0
def protobufWireType64Bit : Nat := 1
def protobufWireTypeLengthDelimited : Nat := 2
def protobufWireType32Bit : Nat := 5

/-- `GG_ProtobufVarintSize`, with the size so far. -/
def protobufVarintSize (value size : Nat) : Nat :=
  if value > 127 then protobufVarintSize (value >>> 7) (size + 1) else size
termination_by value
decreasing_by rw [Nat.shiftRight_eq_div_pow]; omega

/-- `GG_EncodeProtobufVarint`: the bytes that it writes. -/
def encodeProtobufVarint (value : Nat) : List UInt8 :=
  let encoded := UInt8.ofNat (value &&& 0x7F)
  if value >>> 7 ≠ 0 then (encoded ||| 0x80) :: encodeProtobufVarint (value >>> 7) else [encoded]
termination_by value
decreasing_by rw [Nat.shiftRight_eq_div_pow] at *; omega

/-- The loop of `GG_DecodeProtobufVarint`: the size, the value and the last byte. -/
def varintLoop (encoded : List UInt8) (position : Nat) : Nat → Nat → Nat → UInt8 → Access (Nat × Nat × UInt8)
  | 0, size, value, x => return (size, value, x)
  | rounds + 1, size, value, x =>
      if x &&& 0x80 ≠ 0 then do
        let x ← load encoded (position + size)
        varintLoop encoded position rounds (size + 1) (value ||| (x.toNat &&& 0x7F) <<< (size * 7) % 2 ^ 64) x
      else return (size, value, x)

/-- `GG_DecodeProtobufVarint` at a position: the size, 0 if there is no number, and the value. -/
def decodeProtobufVarint (encoded : List UInt8) (position encodedSize : Nat) : Access (Nat × Nat) := do
  let (size, value, x) ← varintLoop encoded position (min 10 encodedSize) 0 0 0x80
  return (if x &&& 0x80 ≠ 0 then 0 else size, value)

/-- `GG_ProtobufSignedToZigZag`. -/
def protobufSignedToZigZag (value : Int64) : UInt64 :=
  (value.toUInt64 <<< 1) ^^^ (if value < 0 then 0xFFFFFFFFFFFFFFFF else 0)

/-- `GG_ProtobufSignedFromZigZag`. -/
def protobufSignedFromZigZag (value : UInt64) : Int64 :=
  if value &&& 1 ≠ 0 then -(value >>> 1).toInt64 - 1 else (value >>> 1).toInt64

/-! ## Varints -/

theorem top_bit (x : UInt8) : x &&& 0x80 ≠ 0 ↔ 128 ≤ x.toNat := by
  have small := x.toNat_lt
  have masked : (x &&& 0x80).toNat = x.toNat / 128 * 128 := by
    rw [UInt8.toNat_and]
    have bits := Nat.and_two_pow x.toNat 7
    rw [Nat.testBit_eq_decide_div_mod_eq] at bits
    rw [show (0x80 : UInt8).toNat = 2 ^ 7 from rfl, bits]
    by_cases odd : x.toNat / 2 ^ 7 % 2 = 1
    · rw [decide_eq_true odd, Bool.toNat_true]
      omega
    · rw [decide_eq_false odd, Bool.toNat_false]
      omega
  rw [Ne, ← UInt8.toNat_inj, masked, show (0 : UInt8).toNat = 0 from rfl]
  omega

theorem encodeProtobufVarint_eq (value : Nat) : encodeProtobufVarint value = Varint.group value := by
  induction value using Varint.group.induct with
  | case1 value low =>
      have low7 : value &&& 0x7F = value := (Bytes.and_mask value 7).trans (Nat.mod_eq_of_lt low)
      have none : value >>> 7 = 0 := by rw [Nat.shiftRight_eq_div_pow]; omega
      rw [encodeProtobufVarint, Varint.group, if_pos low, low7, none]
      rfl
  | case2 value high ih =>
      have low7 : value &&& 0x7F = value % 128 := Bytes.and_mask value 7
      have rest : value >>> 7 = value / 128 := by rw [Nat.shiftRight_eq_div_pow]
      have marked : UInt8.ofNat (value % 128) ||| 0x80 = UInt8.ofNat (value % 128 + 128) := by
        have small : (UInt8.ofNat (value % 128)).toNat = value % 128 := by rw [UInt8.toNat_ofNat']; omega
        rw [← UInt8.toNat_inj, UInt8.toNat_or, small, UInt8.toNat_ofNat', Nat.or_comm,
          show (0x80 : UInt8).toNat = 1 <<< 7 from rfl, @Bytes.shiftLeft_or 1 _ 7 (by omega)]
        omega
      rw [encodeProtobufVarint, Varint.group, if_neg high, low7, rest, if_pos (by omega), ih, marked]

theorem protobufVarintSize_eq (value size : Nat) :
    protobufVarintSize value size + 1 = size + (Varint.group value).length := by
  induction value using Varint.group.induct generalizing size with
  | case1 value low =>
      rw [protobufVarintSize, if_neg (by omega), Varint.group, if_pos low]
      rfl
  | case2 value high ih =>
      have rest : value >>> 7 = value / 128 := by rw [Nat.shiftRight_eq_div_pow]
      have longer : (Varint.group value).length = (Varint.group (value / 128)).length + 1 := by
        rw [Varint.group, if_neg high, List.length_cons]
      rw [protobufVarintSize, if_pos (by omega), rest, ih, longer]
      omega

section Loop

variable {encoded : List UInt8} {position : Nat}

/-- One byte more. -/
theorem value_or {low size : Nat} (x : UInt8) (before : low < 2 ^ (7 * size)) :
    low % 2 ^ 64 ||| (x.toNat &&& 0x7F) <<< (size * 7) % 2 ^ 64 = (low + x.toNat % 128 * 2 ^ (7 * size)) % 2 ^ 64 ∧
      low + x.toNat % 128 * 2 ^ (7 * size) < 2 ^ (7 * (size + 1)) := by
  have bound : x.toNat % 128 + 1 ≤ 128 := Nat.mod_lt _ (by decide)
  have power : 2 ^ (7 * (size + 1)) = 128 * 2 ^ (7 * size) := by rw [Nat.mul_succ, Nat.pow_add, Nat.mul_comm]
  constructor
  · rw [show x.toNat &&& 0x7F = x.toNat % 128 from Bytes.and_mask _ 7, ← Nat.or_mod_two_pow, Nat.or_comm,
      Nat.mul_comm size, Bytes.shiftLeft_or _ before, Nat.add_comm]
  · rw [power]
    calc low + x.toNat % 128 * 2 ^ (7 * size) < 2 ^ (7 * size) + x.toNat % 128 * 2 ^ (7 * size) :=
          Nat.add_lt_add_right before _
      _ = (x.toNat % 128 + 1) * 2 ^ (7 * size) := by ring
      _ ≤ 128 * 2 ^ (7 * size) := Nat.mul_le_mul_right _ bound

/-- The loop over a number that is there. -/
theorem varintLoop_complete {bytes others : List UInt8} (complete : Varint.Complete bytes) {rounds size low : Nat}
    {x : UInt8} (few : bytes.length ≤ rounds) (place : encoded.drop (position + size) = bytes ++ others)
    (before : low < 2 ^ (7 * size)) (goesOn : x &&& 0x80 ≠ 0) :
    ∃ x', varintLoop encoded position rounds size (low % 2 ^ 64) x =
        .ok (size + bytes.length, (low + Varint.number bytes * 2 ^ (7 * size)) % 2 ^ 64, x') ∧ ¬ x' &&& 0x80 ≠ 0 := by
  induction complete generalizing rounds size low x with
  | @last b isLast =>
      obtain ⟨rounds, rfl⟩ : ∃ n, rounds = n + 1 := ⟨rounds - 1, (Nat.sub_add_cancel few).symm⟩
      obtain ⟨loads, -⟩ := load_of_drop place
      have stops : ¬ b &&& 0x80 ≠ 0 := by rw [top_bit]; omega
      rw [varintLoop, if_pos goesOn, loads, ok_bind, (value_or b before).1, Varint.number, Varint.number,
        Nat.mul_zero, Nat.add_zero]
      refine ⟨b, ?_, stops⟩
      cases rounds with
      | zero => rfl
      | succ rounds => rw [varintLoop, if_neg stops]; rfl
  | @more b rest isMore complete ih =>
      rw [List.length_cons] at few
      obtain ⟨rounds, rfl⟩ : ∃ n, rounds = n + 1 := ⟨rounds - 1, by omega⟩
      obtain ⟨loads, place'⟩ := load_of_drop place
      obtain ⟨same, before'⟩ := value_or b before
      have goesOn' : b &&& 0x80 ≠ 0 := (top_bit b).mpr isMore
      obtain ⟨x', loops, stops⟩ := ih (Nat.le_of_succ_le_succ few) place' before' goesOn'
      have power : 2 ^ (7 * (size + 1)) = 128 * 2 ^ (7 * size) := by rw [Nat.mul_succ, Nat.pow_add, Nat.mul_comm]
      have length : size + 1 + rest.length = size + (b :: rest).length := by rw [List.length_cons]; omega
      have total : low + b.toNat % 128 * 2 ^ (7 * size) + Varint.number rest * 2 ^ (7 * (size + 1)) =
          low + Varint.number (b :: rest) * 2 ^ (7 * size) := by
        rw [Varint.number, power]
        ring
      refine ⟨x', ?_, stops⟩
      rw [varintLoop, if_pos goesOn, loads, ok_bind, same, loops, length, total]

/-- The loop where no number ends in time. -/
theorem varintLoop_incomplete {rounds size value : Nat} {x : UInt8} {rest : List UInt8}
    (place : encoded.drop (position + size) = rest) (inside : rounds ≤ rest.length)
    (none : ∀ bytes others, rest = bytes ++ others → Varint.Complete bytes → rounds < bytes.length)
    (goesOn : x &&& 0x80 ≠ 0) :
    ∃ value' x', varintLoop encoded position rounds size value x = .ok (size + rounds, value', x') ∧ x' &&& 0x80 ≠ 0 := by
  induction rounds generalizing size value x rest with
  | zero => exact ⟨value, x, rfl, goesOn⟩
  | succ rounds ih =>
      cases rest with
      | nil => exact absurd inside (by simp)
      | cons b rest =>
          obtain ⟨loads, place'⟩ := load_of_drop place
          have isMore : 128 ≤ b.toNat := by
            by_contra isLast
            have short := none [b] rest rfl (.last (by omega))
            rw [List.length_singleton] at short
            omega
          have later : ∀ bytes others, rest = bytes ++ others → Varint.Complete bytes → rounds < bytes.length := by
            rintro bytes others rfl complete
            exact Nat.lt_of_succ_lt_succ (none (b :: bytes) others rfl (.more isMore complete))
          rw [Nat.add_assoc] at place'
          obtain ⟨value', x', loops, goesOn'⟩ := ih place' (Nat.le_of_succ_le_succ inside) later ((top_bit b).mpr isMore)
          refine ⟨value', x', ?_, goesOn'⟩
          rw [varintLoop, if_pos goesOn, loads, ok_bind, loops, Nat.add_assoc, Nat.add_comm 1]

end Loop

/-- A number of no more than ten bytes is decoded, and cut off at 64 bits. -/
theorem decodeProtobufVarint_complete {encoded bytes others : List UInt8} {position : Nat}
    (place : encoded.drop position = bytes ++ others) (complete : Varint.Complete bytes) (short : bytes.length ≤ 10) :
    decodeProtobufVarint encoded position (bytes ++ others).length =
      .ok (bytes.length, Varint.number bytes % 2 ^ 64) := by
  have few : bytes.length ≤ min 10 (bytes ++ others).length := by
    rw [List.length_append]
    omega
  obtain ⟨x, loops, stops⟩ := @varintLoop_complete encoded position bytes others complete _ 0 0 0x80 few place
    Nat.one_pos (by decide)
  rw [Nat.zero_mod, Nat.zero_add, Nat.zero_add, Nat.mul_zero, Nat.pow_zero, Nat.mul_one] at loops
  rw [decodeProtobufVarint, loops, ok_bind]
  dsimp only
  rw [if_neg stops]
  rfl

/-- Where no number ends within ten bytes none is decoded. -/
theorem decodeProtobufVarint_incomplete {encoded rest : List UInt8} {position : Nat}
    (place : encoded.drop position = rest)
    (none : ∀ bytes others, rest = bytes ++ others → Varint.Complete bytes → 10 < bytes.length) :
    ∃ value, decodeProtobufVarint encoded position rest.length = .ok (0, value) := by
  have late : ∀ bytes others, rest = bytes ++ others → Varint.Complete bytes → min 10 rest.length < bytes.length :=
    fun bytes others split complete => Nat.lt_of_le_of_lt (Nat.min_le_left _ _) (none bytes others split complete)
  obtain ⟨value, x, loops, goesOn⟩ := @varintLoop_incomplete encoded position _ 0 0 0x80 rest place
    (Nat.min_le_right _ _) late (by decide)
  refine ⟨value, ?_⟩
  rw [decodeProtobufVarint, loops, ok_bind]
  dsimp only
  rw [if_pos goesOn]
  rfl

/-! ## Zigzag -/

theorem negative_iff (value : Int64) : value < 0 ↔ 2 ^ 63 ≤ value.toUInt64.toNat := by
  rw [Int64.lt_iff_toInt_lt, ← Int64.toInt_toBitVec, Int64.toInt_zero, BitVec.toInt_neg_iff]
  have same : value.toUInt64.toNat = value.toBitVec.toNat := rfl
  omega

theorem toZigZag_toNat (value : Int64) :
    (protobufSignedToZigZag value).toNat =
      if value.toUInt64.toNat < 2 ^ 63 then 2 * value.toUInt64.toNat else 2 ^ 65 - 1 - 2 * value.toUInt64.toNat := by
  have small := value.toUInt64.toNat_lt
  have shifted : (value.toUInt64 <<< 1).toNat = 2 * value.toUInt64.toNat % 2 ^ 64 := by
    rw [UInt64.toNat_shiftLeft, Nat.shiftLeft_eq, Nat.mul_comm]
    rfl
  rw [protobufSignedToZigZag]
  by_cases negative : value < 0
  · have all : ∀ a : UInt64, a ^^^ 0xFFFFFFFFFFFFFFFF = ~~~a := by
      intro a
      rw [← UInt64.toBitVec_inj]
      exact BitVec.xor_allOnes
    have high := (negative_iff value).mp negative
    rw [if_pos negative, all, UInt64.toNat_not, shifted, if_neg (Nat.not_lt.mpr high)]
    have : UInt64.size = 2 ^ 64 := rfl
    omega
  · have low : value.toUInt64.toNat < 2 ^ 63 := Nat.lt_of_not_le fun high => negative ((negative_iff value).mpr high)
    rw [if_neg negative, UInt64.xor_zero, shifted, if_pos low]
    omega

theorem fromZigZag_toNat (value : UInt64) :
    (protobufSignedFromZigZag value).toUInt64.toNat =
      if value.toNat % 2 = 1 then 2 ^ 64 - 1 - value.toNat / 2 else value.toNat / 2 := by
  have small := value.toNat_lt
  have half : (value >>> 1).toInt64.toBitVec.toNat = value.toNat / 2 := by
    have shifted : (value >>> 1).toNat = value.toNat / 2 := by
      rw [UInt64.toNat_shiftRight, Nat.shiftRight_eq_div_pow]
      rfl
    exact shifted
  have odd : value &&& 1 ≠ 0 ↔ value.toNat % 2 = 1 := by
    have low : (value &&& 1).toNat = value.toNat % 2 := by rw [UInt64.toNat_and]; exact Nat.and_one_is_mod _
    rw [Ne, ← UInt64.toNat_inj, low, show (0 : UInt64).toNat = 0 from rfl]
    omega
  have bits (v : Int64) : v.toUInt64.toNat = v.toBitVec.toNat := rfl
  rw [bits, protobufSignedFromZigZag]
  split
  case isTrue isOdd =>
      rw [Int64.toBitVec_sub, Int64.toBitVec_neg, BitVec.toNat_sub, BitVec.toNat_neg, half,
        show (1 : Int64).toBitVec.toNat = 1 from rfl, if_pos (odd.mp isOdd)]
      omega
  case isFalse isEven => rw [half, if_neg fun isOdd => isEven (odd.mpr isOdd)]

theorem protobufSignedFromZigZag_toZigZag (value : Int64) :
    protobufSignedFromZigZag (protobufSignedToZigZag value) = value := by
  have small := value.toUInt64.toNat_lt
  have zigzag := toZigZag_toNat value
  have back := fromZigZag_toNat (protobufSignedToZigZag value)
  have same : (protobufSignedFromZigZag (protobufSignedToZigZag value)).toUInt64.toNat = value.toUInt64.toNat := by
    split at zigzag <;> split at back <;> omega
  exact Int64.toBitVec_inj.mp (BitVec.toNat_inj.mp same)

theorem protobufSignedToZigZag_fromZigZag (value : UInt64) :
    protobufSignedToZigZag (protobufSignedFromZigZag value) = value := by
  have small := value.toNat_lt
  have signed := fromZigZag_toNat value
  have back := toZigZag_toNat (protobufSignedFromZigZag value)
  have same : (protobufSignedToZigZag (protobufSignedFromZigZag value)).toNat = value.toNat := by
    split at signed <;> split at back <;> omega
  exact UInt64.toNat_inj.mp same

end GoldenGate

import GoldenGate.Common.Protobuf

/-! # The codec of protobuf numbers

The size, the encoder and the decoder agree about every number, the sign goes into a number and back, and of any bytes
the decoder reads no more than the first ten.
-/

namespace GoldenGate

open Memory

section Loop

variable {encoded other : List UInt8} {position position' : Nat}

/-- Only the bytes that the loop has rounds for are read. -/
theorem varintLoop_congr {rounds size value : Nat} {x : UInt8}
    (same : (encoded.drop (position + size)).take rounds = (other.drop (position' + size)).take rounds) :
    varintLoop encoded position rounds size value x = varintLoop other position' rounds size value x := by
  induction rounds generalizing size value x with
  | zero => rfl
  | succ rounds ih =>
      have first : encoded[position + size]? = other[position' + size]? := by
        have head := congrArg (fun bytes => bytes[0]?) same
        simpa only [List.getElem?_take_of_lt (Nat.succ_pos rounds), List.getElem?_drop, Nat.add_zero] using head
      have rest : (encoded.drop (position + (size + 1))).take rounds = (other.drop (position' + (size + 1))).take rounds := by
        have tails := congrArg (List.drop 1) same
        simpa only [List.drop_take, List.drop_drop, Nat.add_assoc, Nat.add_sub_cancel] using tails
      rw [varintLoop, varintLoop]
      by_cases goesOn : x &&& 0x80 ≠ 0
      · simp only [if_pos goesOn, load, first]
        cases other[position' + size]? with
        | none => rfl
        | some b => exact ih rest
      · rw [if_neg goesOn, if_neg goesOn]

theorem decodeProtobufVarint_congr {size : Nat}
    (same : (encoded.drop position).take (min 10 size) = (other.drop position').take (min 10 size)) :
    decodeProtobufVarint encoded position size = decodeProtobufVarint other position' size := by
  rw [decodeProtobufVarint, decodeProtobufVarint, varintLoop_congr same]

end Loop

/-- Some bytes, wherever they are, are read as the first ten of them. -/
theorem decodeProtobufVarint_inside (before bytes after : List UInt8) :
    decodeProtobufVarint (before ++ bytes ++ after) before.length bytes.length =
      decodeProtobufVarint (bytes.take 10) 0 bytes.length := by
  apply decodeProtobufVarint_congr
  rw [List.append_assoc, List.drop_left, List.drop_zero, List.take_take,
    List.take_append_of_le_length (Nat.min_le_right _ _)]
  rw [Nat.min_eq_left (Nat.min_le_left _ _)]

/-- What is decoded of bytes: the number that they begin with, if it ends within ten of them. -/
theorem decodeProtobufVarint_cases (bytes : List UInt8) :
    (∃ front others, bytes = front ++ others ∧ Varint.Complete front ∧ front.length ≤ 10 ∧
      decodeProtobufVarint bytes 0 bytes.length = .ok (front.length, Varint.number front % 2 ^ 64)) ∨
    (∀ b ∈ bytes.take 10, 128 ≤ b.toNat) ∧ ∃ value, decodeProtobufVarint bytes 0 bytes.length = .ok (0, value) := by
  by_cases ends : ∃ b ∈ bytes.take 10, b.toNat < 128
  · obtain ⟨front, others, split, complete⟩ := Varint.complete_prefix_iff.mp ends
    have whole : bytes = front ++ (others ++ bytes.drop 10) := by
      rw [← List.append_assoc, ← split, List.take_append_drop]
    have short : front.length ≤ 10 := by
      have length := congrArg List.length split
      rw [List.length_take, List.length_append] at length
      omega
    have decodes := @decodeProtobufVarint_complete bytes front (others ++ bytes.drop 10) 0 whole complete short
    rw [← whole] at decodes
    exact .inl ⟨front, _, whole, complete, short, decodes⟩
  · have none_ : ∀ front others, bytes = front ++ others → Varint.Complete front → 10 < front.length := by
      rintro front others rfl complete
      by_contra short
      apply ends
      rw [Varint.complete_prefix_iff]
      refine ⟨front, others.take (10 - front.length), ?_, complete⟩
      rw [List.take_append, List.take_of_length_le (Nat.le_of_not_lt short)]
    refine .inr ⟨?_, @decodeProtobufVarint_incomplete bytes bytes 0 rfl none_⟩
    intro b member
    exact Nat.le_of_not_lt fun low => ends ⟨b, member, low⟩

/-- Varints and zigzags: size, encoder and decoder agree, no shorter bytes are read as a number, and the decoder stays
    inside of the first ten bytes, among which a number ends or not. -/
theorem protobuf_numbers :
    (∀ (value : UInt64) (suffix : List UInt8),
      (encodeProtobufVarint value.toNat).length = protobufVarintSize value.toNat 1 ∧
      decodeProtobufVarint (encodeProtobufVarint value.toNat ++ suffix) 0
          (encodeProtobufVarint value.toNat ++ suffix).length =
        .ok (protobufVarintSize value.toNat 1, value.toNat)) ∧
    (∀ (bytes : List UInt8) (size value : Nat), decodeProtobufVarint bytes 0 bytes.length = .ok (size, value) →
      size ≠ 0 → protobufVarintSize value 1 ≤ size) ∧
    (∀ value : Int64, protobufSignedFromZigZag (protobufSignedToZigZag value) = value) ∧
    (∀ value : UInt64, protobufSignedToZigZag (protobufSignedFromZigZag value) = value) ∧
    ∀ before bytes after : List UInt8, ∃ size value,
      decodeProtobufVarint (before ++ bytes ++ after) before.length bytes.length = .ok (size, value) ∧
      decodeProtobufVarint (bytes.take 10) 0 bytes.length = .ok (size, value) ∧ size ≤ min 10 bytes.length ∧
      (size = 0 ↔ ∀ b ∈ bytes.take (min 10 bytes.length), b &&& 0x80 ≠ 0) := by
  have sizeOf_ (value : Nat) : protobufVarintSize value 1 = (Varint.group value).length := by
    have size := protobufVarintSize_eq value 1
    omega
  refine ⟨?_, ?_, protobufSignedFromZigZag_toZigZag, protobufSignedToZigZag_fromZigZag, ?_⟩
  · intro value suffix
    have fits : value.toNat < 2 ^ 64 := value.toNat_lt
    have short : (Varint.group value.toNat).length ≤ 10 := by
      have ten := @Varint.length_group_le 9 value.toNat (Nat.lt_trans fits (by decide))
      exact ten
    rw [sizeOf_, encodeProtobufVarint_eq]
    refine ⟨rfl, ?_⟩
    rw [@decodeProtobufVarint_complete _ _ suffix 0 rfl (Varint.complete_group _) short, Varint.number_group,
      Nat.mod_eq_of_lt fits]
  · intro bytes size value decodes some_
    rw [sizeOf_]
    cases decodeProtobufVarint_cases bytes with
    | inl reads =>
        obtain ⟨front, others, -, complete, -, number⟩ := reads
        rw [decodes] at number
        cases number
        exact complete.length_group_le (Nat.mod_le _ _)
    | inr none_ =>
        obtain ⟨-, value', zero⟩ := none_
        rw [decodes] at zero
        cases zero
        exact absurd rfl some_
  · intro before bytes after
    have inside := decodeProtobufVarint_inside before bytes after
    have alone := decodeProtobufVarint_inside [] bytes []
    rw [List.append_nil, List.nil_append] at alone
    have first : bytes.take (min 10 bytes.length) = bytes.take 10 := by rw [← List.take_take, List.take_length]
    rw [inside, first]
    cases decodeProtobufVarint_cases bytes with
    | inl reads =>
        obtain ⟨front, others, split, complete, short, number⟩ := reads
        have within : front.length ≤ bytes.length := by
          rw [split, List.length_append]
          omega
        refine ⟨front.length, Varint.number front % 2 ^ 64, alone.symm.trans number, alone.symm.trans number,
          le_min short within, ?_⟩
        have notZero : front.length ≠ 0 := Nat.ne_of_gt complete.length_pos
        obtain ⟨b, member, low⟩ := Varint.complete_prefix_iff.mpr ⟨front, [], (List.append_nil _).symm, complete⟩
        have member' : b ∈ bytes.take 10 := by
          rw [split, List.take_append]
          exact List.mem_append_left _ (by rwa [List.take_of_length_le short])
        constructor
        · exact fun zero => absurd zero notZero
        · intro all
          have high := (top_bit b).mp (all b member')
          omega
    | inr none_ =>
        obtain ⟨high, value, zero⟩ := none_
        refine ⟨0, value, alone.symm.trans zero, alone.symm.trans zero, Nat.zero_le _, ?_⟩
        simp only [true_iff]
        exact fun b member => (top_bit b).mpr (high b member)

end GoldenGate

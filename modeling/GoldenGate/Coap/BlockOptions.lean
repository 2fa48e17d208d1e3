import GoldenGate.Coap.Block
import GoldenGate.Coap.UintEncoding

/-! # The values of block options

A block option has the number of a block, whether there is more after it and its size, in one integer of up to
three bytes. What it is made from and what it tells are the same.
-/

namespace GoldenGate.Coap

/-- A block that an option can tell: it begins at a multiple of its size, and its number has no more than 20 bits. -/
structure BlockInfo.Tellable (info : BlockInfo) : Prop where
  size : IsBlockSize info.size
  aligned : info.size ∣ info.offset
  number : info.offset / info.size < 2 ^ 20

/-- The bytes stand for an option, wherever in a message they are, and for this block. -/
def Tells (bytes : List UInt8) (info : BlockInfo) : Prop :=
  ∀ number, number = optionBlock1 ∨ number = optionBlock2 → ∀ pre rest options defaultBlockSize, ∃ read,
    optionValue (pre ++ (bytes ++ rest)) number pre.length bytes.length = .ok read ∧
      getBlockInfo (⟨number, read⟩ :: options) number defaultBlockSize = .ok info

theorem optionType_block {number : UInt32} (isBlock : number = optionBlock1 ∨ number = optionBlock2) :
    optionType number = .uint := by
  cases isBlock with
  | inl one => rw [one]; rfl
  | inr two => rw [two]; rfl

/-- What the iterator shows of an encoded integer. -/
theorem optionValue_uint {number : UInt32} (isUint : optionType number = .uint) (value : UInt32) (pre rest : List UInt8) :
    optionValue (pre ++ (wireValue (.uint value) ++ rest)) number pre.length (wireValue (.uint value)).length =
      .ok (.uint value) := by
  obtain ⟨shown, isShown, holds⟩ :=
    optionValue_spec number (pre ++ (wireValue (.uint value) ++ rest)) pre _ rest pre.length rfl rfl
  unfold Holds at holds
  rw [isUint] at holds
  rw [isShown, holds, uintValue_wireValue]

/-- The reserved exponent. -/
theorem blockInfoOfValue_reserved {value : UInt32} (reserved : value &&& 7 = 7) :
    blockInfoOfValue value = .error .invalidFormat := by
  unfold blockInfoOfValue
  rw [reserved]
  rfl

/-- Other sizes are not found. -/
theorem blockSizeLog_none {size : Nat} (other : ¬IsBlockSize size) : blockSizeLog size 1024 7 = none := by
  have apart (log : Nat) (small : log < 7) : 2 ^ (4 + log) ≠ size := fun same => other ⟨log, small, same.symm⟩
  have loop (log : Nat) (few : log ≤ 7) : blockSizeLog size (2 ^ (3 + log)) log = none := by
    induction log with
    | zero => rfl
    | succ log ih =>
        unfold blockSizeLog
        rw [show 3 + (log + 1) = 4 + log by omega, if_neg (apart log few), show 2 ^ (4 + log) / 2 = 2 ^ (3 + log) by
          rw [show 4 + log = 3 + log + 1 by omega, Nat.pow_succ, Nat.mul_div_cancel _ (by decide)]]
        exact ih (Nat.le_of_succ_le few)
  exact loop 7 (Nat.le_refl _)

theorem toOptionValue_refused {info : BlockInfo} (other : ¬IsBlockSize info.size) :
    info.toOptionValue = .error .invalidParameters := by
  unfold BlockInfo.toOptionValue
  rw [blockSizeLog_none other]

/-- The block of an option value. -/
theorem blockInfoOfValue_tellable {value : UInt32} (small : value.toNat < 2 ^ 24) (notReserved : value &&& 7 ≠ 7) :
    ∃ info, blockInfoOfValue value = .ok info ∧ info.Tellable ∧ info.toOptionValue = .ok value := by
  have low : value.toNat % 8 < 7 := by
    have isLog : (value &&& 7).toNat = value.toNat % 8 := by
      rw [UInt32.toNat_and, show (7 : UInt32).toNat = 2 ^ 3 - 1 from rfl, Nat.and_two_pow_sub_one_eq_mod]
    have notSeven : value.toNat % 8 ≠ 7 := fun seven => notReserved (UInt32.toNat_inj.mp (isLog.trans seven))
    omega
  have isMore : (decide (value.toNat / 8 % 2 = 1)).toNat = value.toNat / 8 % 2 := by
    by_cases more : value.toNat / 8 % 2 = 1
    · simp [more]
    · simp [more]
      omega
  have fields : value.toNat = value.toNat / 16 * 16 +
      ((decide (value.toNat / 8 % 2 = 1)).toNat * 8 + value.toNat % 8) := by
    rw [isMore]
    omega
  have positive : 0 < 2 ^ (4 + value.toNat % 8) := Nat.two_pow_pos _
  have number : 2 ^ (4 + value.toNat % 8) * (value.toNat / 16) / 2 ^ (4 + value.toNat % 8) = value.toNat / 16 :=
    Nat.mul_div_cancel_left _ positive
  obtain ⟨value', isValue, fields'⟩ := BlockInfo.toOptionValue_fields low
    (2 ^ (4 + value.toNat % 8) * (value.toNat / 16)) (decide (value.toNat / 8 % 2 = 1))
  refine ⟨_, blockInfoOfValue_fields low fields, ⟨⟨_, low, rfl⟩, Nat.dvd_mul_right _ _, ?_⟩, ?_⟩
  · dsimp only
    rw [number]
    omega
  · rw [isValue]
    have same : value'.toNat = value.toNat := by
      rw [fields', number, Nat.mod_eq_of_lt (by omega), ← fields]
    exact congrArg Except.ok (UInt32.toNat_inj.mp same)

/-- The value of a block that an option can tell. -/
theorem BlockInfo.Tellable.toOptionValue {info : BlockInfo} (tellable : info.Tellable) :
    ∃ value, info.toOptionValue = .ok value ∧ value.toNat < 2 ^ 24 ∧ blockInfoOfValue value = .ok info := by
  obtain ⟨offset, size, more⟩ := info
  obtain ⟨⟨log, small, isSize⟩, aligned, number⟩ := tellable
  dsimp only at isSize aligned number
  subst isSize
  obtain ⟨value, isValue, fields⟩ := BlockInfo.toOptionValue_fields small offset more
  have fits : value.toNat < 2 ^ 24 := by
    have bit : more.toNat < 2 := by cases more <;> decide
    rw [Nat.mod_eq_of_lt (Nat.lt_trans number (by decide))] at fields
    generalize offset / 2 ^ (4 + log) = index at fields number
    omega
  refine ⟨value, isValue, fits, ?_⟩
  rw [blockInfoOfValue_fields small fields]
  exact congrArg Except.ok (@BlockInfo.told_eq ⟨offset, 2 ^ (4 + log), more⟩ aligned number)

/-- Blocks and option values are the same, also through the bytes of the option. Other sizes have no value, and the
    values with the reserved exponent have no block. -/
theorem block_option_codec :
    (∀ info : BlockInfo, info.Tellable → ∃ value bytes, info.toOptionValue = .ok value ∧ value.toNat < 2 ^ 24 ∧
      blockInfoOfValue value = .ok info ∧ encodeUint value = .ok bytes ∧ Tells bytes info) ∧
    (∀ value : UInt32, value.toNat < 2 ^ 24 → value &&& 7 ≠ 7 →
      ∃ info, blockInfoOfValue value = .ok info ∧ info.Tellable ∧ info.toOptionValue = .ok value) ∧
    (∀ info : BlockInfo, ¬IsBlockSize info.size → info.toOptionValue = .error .invalidParameters) ∧
    ∀ value : UInt32, value &&& 7 = 7 → blockInfoOfValue value = .error .invalidFormat := by
  refine ⟨?_, fun value small notReserved => blockInfoOfValue_tellable small notReserved,
    fun info other => toOptionValue_refused other, fun value reserved => blockInfoOfValue_reserved reserved⟩
  intro info tellable
  obtain ⟨value, isValue, small, tells⟩ := tellable.toOptionValue
  refine ⟨value, wireValue (.uint value), isValue, small, tells, encodeUint_eq value, ?_⟩
  intro number isBlock pre rest options defaultBlockSize
  refine ⟨_, optionValue_uint (optionType_block isBlock) value pre rest, ?_⟩
  unfold getBlockInfo getOption
  simp [tells]

end GoldenGate.Coap
